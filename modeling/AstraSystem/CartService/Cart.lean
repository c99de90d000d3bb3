import AstraSystem.Lib.Runs
import AstraSystem.Lib.WrappingSum

/-!
# The cart aggregate (`cart/cart.go`)

Go's `int` and `int64` are `Int64`. A method that mutates its receiver returns
the new cart, and one that fails leaves it as it was.
-/

namespace CartService

/-- A `time.Time`, in nanoseconds since the epoch. -/
abbrev Time := ℤ

def Time.unixMilli (t : Time) : Int64 := Int64.ofInt (t / 1000000)

def minute : Time := 60 * 1000000000

inductive CartError where
  | cartNotFound
  | cartFinalized
  | lineNotFound
  | quantityInvalid
  deriving DecidableEq, Repr

def CartError.error : CartError → String
  | .cartNotFound => "cart: not found"
  | .cartFinalized => "cart: cannot mutate a finalized cart"
  | .lineNotFound => "cart: line item not found"
  | .quantityInvalid => "cart: quantity must be positive"

inductive CartStatus where
  | active
  | finalized
  | abandoned
  | expired
  deriving DecidableEq, Repr

structure Modifier where
  modifierOptionID : String
  nameSnapshot : String
  priceDeltaCentsSnapshot : Int64
  modifierGroupID : String
  deriving DecidableEq, Repr

structure Line where
  cartID : String
  lineID : String
  menuItemID : String
  nameSnapshot : String
  unitPriceCentsSnapshot : Int64
  quantity : Int64
  modifiers : List Modifier
  addedAtMs : Int64
  deriving DecidableEq, Repr

def Line.lineTotal (l : Line) : Int64 :=
  let modTotal := l.modifiers.foldl (fun modTotal m => modTotal + m.priceDeltaCentsSnapshot) 0
  l.quantity * (l.unitPriceCentsSnapshot + modTotal)

structure Cart where
  cartID : String
  storeID : String
  kioskID : String
  laneID : String
  sessionID : String
  customerPhone : String
  status : CartStatus := .active
  finalized : Bool := false
  version : Int64 := 0
  totalCents : Int64 := 0
  taxCents : Int64 := 0
  discountCents : Int64 := 0
  finalTotalCents : Int64 := 0
  lines : List Line := []
  reservedInventory : Bool := false
  expiresAt : Time
  createdAt : Time
  updatedAt : Time
  createdAtMs : Int64
  updatedAtMs : Int64
  deriving DecidableEq, Repr

def newCart (cartID storeID kioskID laneID sessionID customerPhone : String) (now : Time) : Cart :=
  let ms := Time.unixMilli now
  { cartID, storeID, kioskID, laneID, sessionID, customerPhone
    expiresAt := now + 10 * minute
    createdAt := now
    updatedAt := now
    createdAtMs := ms
    updatedAtMs := ms }

namespace Cart

def recomputeTotals (c : Cart) : Cart :=
  let total := c.lines.foldl (fun total line => total + line.lineTotal) 0
  { c with totalCents := total, finalTotalCents := total + c.taxCents - c.discountCents }

def touch (c : Cart) (now : Time) : Cart :=
  { c with version := c.version + 1, updatedAt := now, updatedAtMs := Time.unixMilli now }

def addLine (c : Cart) (line : Line) (now : Time) : Except CartError Cart :=
  if c.finalized then .error .cartFinalized
  else if line.quantity ≤ 0 then .error .quantityInvalid
  else .ok (({ c with lines := c.lines ++ [line] }).recomputeTotals.touch now)

/-- The index of the first line with this id. -/
def indexOf (c : Cart) (lineID : String) : Option ℕ :=
  c.lines.findIdx? fun l => l.lineID = lineID

def removeLine (c : Cart) (lineID : String) (now : Time) : Except CartError Cart :=
  if c.finalized then .error .cartFinalized
  else match c.indexOf lineID with
    | some i => .ok (({ c with lines := c.lines.eraseIdx i }).recomputeTotals.touch now)
    | none => .error .lineNotFound

def updateLine (c : Cart) (lineID : String) (quantity : Int64) (modifiers : List Modifier)
    (now : Time) : Except CartError Cart :=
  if c.finalized then .error .cartFinalized
  else if quantity ≤ 0 then c.removeLine lineID now
  else match c.indexOf lineID with
    | some i =>
      let lines := c.lines.modify i fun l => { l with quantity, modifiers }
      .ok (({ c with lines }).recomputeTotals.touch now)
    | none => .error .lineNotFound

def finalize (c : Cart) (now : Time) : Except CartError Cart :=
  if c.finalized then .error .cartFinalized
  else
    .ok (({ c with
      finalized := true
      status := .finalized
      finalTotalCents := c.totalCents + c.taxCents - c.discountCents }).touch now)

end Cart

inductive Command where
  | add (line : Line)
  | update (lineID : String) (quantity : Int64) (modifiers : List Modifier)
  | remove (lineID : String)
  | finalize

namespace Cart

def command (c : Cart) (now : Time) : Command → Except CartError Cart
  | .add line => c.addLine line now
  | .update lineID quantity modifiers => c.updateLine lineID quantity modifiers now
  | .remove lineID => c.removeLine lineID now
  | .finalize => c.finalize now

/-- The cart after a command, which a failed one leaves alone. -/
def handle (c : Cart) (req : Command × Time) : Cart :=
  match c.command req.2 req.1 with
  | .ok c' => c'
  | .error _ => c

/-! ## What every command keeps -/

/-- Every line is of a positive quantity, and the totals are those of the lines. -/
structure Sound (c : Cart) : Prop where
  positive : ∀ l ∈ c.lines, 0 < l.quantity
  total : c.totalCents = (c.lines.map Line.lineTotal).sum
  final : c.finalTotalCents = c.totalCents + c.taxCents - c.discountCents

theorem totalCents_recomputeTotals (c : Cart) :
    c.recomputeTotals.totalCents = (c.lines.map Line.lineTotal).sum := by
  show c.lines.foldl (fun total line => total + line.lineTotal) 0 = _
  rw [WrappingSum.foldl_add, Int64.zero_add]

theorem sound_of_positive {c : Cart} (now : Time) (positive : ∀ l ∈ c.lines, 0 < l.quantity) :
    (c.recomputeTotals.touch now).Sound :=
  ⟨positive, c.totalCents_recomputeTotals, rfl⟩

theorem sound_newCart (cartID storeID kioskID laneID sessionID customerPhone : String)
    (now : Time) : (newCart cartID storeID kioskID laneID sessionID customerPhone now).Sound :=
  ⟨fun _ h => absurd h List.not_mem_nil, rfl, (by decide : (0 : Int64) = 0 + 0 - 0)⟩

theorem sound_addLine {c c' : Cart} {line : Line} {now : Time} (hs : c.Sound)
    (h : c.addLine line now = .ok c') : c'.Sound := by
  unfold addLine at h
  split at h
  · cases h
  · split at h
    · cases h
    · rename_i positive
      cases h
      refine sound_of_positive now ?_
      intro l hl
      rcases List.mem_append.mp hl with old | new
      · exact hs.positive l old
      · rw [List.mem_singleton.mp new]
        exact Int64.not_le.mp positive

theorem sound_removeLine {c c' : Cart} {lineID : String} {now : Time} (hs : c.Sound)
    (h : c.removeLine lineID now = .ok c') : c'.Sound := by
  unfold removeLine at h
  split at h
  · cases h
  · split at h
    · cases h
      exact sound_of_positive now fun l hl => hs.positive l (List.mem_of_mem_eraseIdx hl)
    · cases h

theorem sound_updateLine {c c' : Cart} {lineID : String} {quantity : Int64}
    {modifiers : List Modifier} {now : Time} (hs : c.Sound)
    (h : c.updateLine lineID quantity modifiers now = .ok c') : c'.Sound := by
  unfold updateLine at h
  split at h
  · cases h
  · split at h
    · exact sound_removeLine hs h
    · rename_i positive
      split at h
      · rename_i i _
        cases h
        refine sound_of_positive now ?_
        intro l hl
        obtain ⟨j, hj, rfl⟩ := List.mem_iff_getElem.mp hl
        simp only [List.getElem_modify]
        split
        · exact Int64.not_le.mp positive
        · exact hs.positive _ (List.getElem_mem _)
      · cases h

theorem sound_finalize {c c' : Cart} {now : Time} (hs : c.Sound)
    (h : c.finalize now = .ok c') : c'.Sound := by
  unfold finalize at h
  split at h
  · cases h
  · cases h
    exact ⟨hs.positive, hs.total, rfl⟩

theorem sound_handle (c : Cart) (req : Command × Time) (hs : c.Sound) : (c.handle req).Sound := by
  unfold handle
  split
  · rename_i c' h
    obtain ⟨cmd, now⟩ := req
    cases cmd with
    | add => exact sound_addLine hs h
    | update => exact sound_updateLine hs h
    | remove => exact sound_removeLine hs h
    | finalize => exact sound_finalize hs h
  · exact hs

/-- A cart that commands have built is sound. -/
theorem sound_run {c : Cart} (hs : c.Sound) (reqs : List (Command × Time)) :
    (Runs.run handle c reqs).Sound :=
  Runs.run_inv sound_handle hs reqs

/-- No command changes a finalized cart. -/
theorem handle_finalized {c : Cart} (h : c.finalized = true) (req : Command × Time) :
    c.handle req = c := by
  obtain ⟨cmd, now⟩ := req
  cases cmd <;> simp [handle, command, addLine, updateLine, removeLine, finalize, h]

/-- The next version of a cart. -/
structure Advances (c c' : Cart) : Prop where
  cartID : c'.cartID = c.cartID
  laneID : c'.laneID = c.laneID
  sessionID : c'.sessionID = c.sessionID
  version : c'.version = c.version + 1

theorem advances_removeLine {c c' : Cart} {lineID : String} {now : Time}
    (h : c.removeLine lineID now = .ok c') : c.Advances c' := by
  unfold removeLine at h
  split at h
  · cases h
  · split at h
    · cases h
      exact ⟨rfl, rfl, rfl, rfl⟩
    · cases h

/-- A command that succeeds takes its cart one version on. -/
theorem advances_of_command {c c' : Cart} {now : Time} (cmd : Command)
    (h : c.command now cmd = .ok c') : c.Advances c' := by
  cases cmd with
  | add line =>
    simp only [command, addLine] at h
    split at h
    · cases h
    · split at h
      · cases h
      · cases h
        exact ⟨rfl, rfl, rfl, rfl⟩
  | update lineID quantity modifiers =>
    simp only [command, updateLine] at h
    split at h
    · cases h
    · split at h
      · exact advances_removeLine h
      · split at h
        · cases h
          exact ⟨rfl, rfl, rfl, rfl⟩
        · cases h
  | remove lineID => exact advances_removeLine h
  | finalize =>
    simp only [command, finalize] at h
    split at h
    · cases h
    · cases h
      exact ⟨rfl, rfl, rfl, rfl⟩

/-- A command that succeeds found a cart that is not finalized. -/
theorem not_finalized_of_command {c c' : Cart} {now : Time} (cmd : Command)
    (h : c.command now cmd = .ok c') : c.finalized = false := by
  by_contra finalized
  cases cmd <;>
    simp [command, addLine, updateLine, removeLine, finalize, Bool.of_not_eq_false finalized] at h

/-! ## What commands do to the lines -/

theorem lines_of_addLine {c c' : Cart} {line : Line} {now : Time} (h : c.addLine line now = .ok c') :
    c'.lines = c.lines ++ [line] := by
  unfold addLine at h
  split at h
  · cases h
  · split at h <;> cases h
    rfl

theorem lines_of_finalize {c c' : Cart} {now : Time} (h : c.finalize now = .ok c') :
    c'.lines = c.lines := by
  unfold finalize at h
  split at h <;> cases h
  rfl

/-- The line that an index of an id stands for. -/
theorem split_of_indexOf {c : Cart} {lineID : String} {i : ℕ} (h : c.indexOf lineID = some i) :
    ∃ before l after, c.lines = before ++ l :: after ∧ l.lineID = lineID ∧ i = before.length := by
  obtain ⟨hi, found, -⟩ := List.findIdx?_eq_some_iff_getElem.mp h
  refine ⟨c.lines.take i, c.lines[i], c.lines.drop (i + 1), ?_, of_decide_eq_true found, ?_⟩
  · rw [← List.drop_eq_getElem_cons hi, List.take_append_drop]
  · rw [List.length_take, Nat.min_eq_left hi.le]

theorem modify_between (f : Line → Line) (before : List Line) (l : Line) (after : List Line) :
    (before ++ l :: after).modify before.length f = before ++ f l :: after := by
  induction before with
  | nil => rfl
  | cons b before ih => exact congrArg (b :: ·) ih

theorem lines_of_removeLine {c c' : Cart} {lineID : String} {now : Time}
    (h : c.removeLine lineID now = .ok c') :
    ∃ before l after, c.lines = before ++ l :: after ∧ l.lineID = lineID ∧
      c'.lines = before ++ after := by
  unfold removeLine at h
  split at h
  · cases h
  · split at h
    · rename_i i found
      obtain ⟨before, l, after, lines, own, rfl⟩ := split_of_indexOf found
      cases h
      refine ⟨before, l, after, lines, own, ?_⟩
      show c.lines.eraseIdx before.length = _
      rw [lines, List.eraseIdx_append_of_length_le le_rfl, Nat.sub_self, List.eraseIdx_cons_zero]
    · cases h

/-- An update of a line to no quantity removes it. -/
theorem lines_of_updateLine {c c' : Cart} {lineID : String} {quantity : Int64}
    {modifiers : List Modifier} {now : Time}
    (h : c.updateLine lineID quantity modifiers now = .ok c') :
    ∃ before l after, c.lines = before ++ l :: after ∧ l.lineID = lineID ∧
      c'.lines = before ++ (if quantity ≤ 0 then [] else [{ l with quantity, modifiers }]) ++ after := by
  unfold updateLine at h
  split at h
  · cases h
  · split at h
    · rename_i none
      obtain ⟨before, l, after, lines, own, removed⟩ := lines_of_removeLine h
      exact ⟨before, l, after, lines, own, by rw [removed, if_pos none, List.append_nil]⟩
    · rename_i some
      split at h
      · rename_i i found
        obtain ⟨before, l, after, lines, own, rfl⟩ := split_of_indexOf found
        cases h
        refine ⟨before, l, after, lines, own, ?_⟩
        show c.lines.modify before.length _ = _
        rw [lines, if_neg some, modify_between, List.append_assoc]
        rfl
      · cases h

theorem run_finalized {c : Cart} (h : c.finalized = true) (reqs : List (Command × Time)) :
    Runs.run handle c reqs = c := by
  induction reqs with
  | nil => rfl
  | cons req reqs ih => rw [Runs.run_cons, handle_finalized h, ih]

end Cart

end CartService
