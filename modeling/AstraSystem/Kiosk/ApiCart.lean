import AstraSystem.Kiosk.CartSync

/-!
# Retried requests (`apiCart.ts`)

`execute` makes a request again after a failure, whether or not it has taken effect. A cart that the server calls
missing or conflicted is replaced by an empty one.
-/

namespace Kiosk.ApiCart

open CartSync (Failure statusOf shouldRetry maxAttempts Next)

/-- The server numbers the lines. -/
structure Line (Item : Type*) where
  lineId : ℕ
  item : Item
  deriving DecidableEq, Repr

/-- The server, and the cart that `apiCart` points to. The checkouts that were started are of these carts. -/
structure State (Item : Type*) where
  cartId : ℕ
  nextId : ℕ
  nextLine : ℕ
  carts : ℕ → Option (List (Line Item))
  checkouts : List ℕ
  numbered : ∀ c lines, carts c = some lines → ∀ l ∈ lines, l.lineId < nextLine

variable {Item α : Type*}

namespace State

/-- What is in the cart. A cart that the server does not know has no lines. -/
def lines (s : State Item) : List (Line Item) := (s.carts s.cartId).getD []

theorem numbered_append (s : State Item) (item : Item) (c : ℕ) (lines : List (Line Item))
    (has : (if c = s.cartId then (s.carts c).map (· ++ [⟨s.nextLine, item⟩]) else s.carts c) = some lines) :
    ∀ l ∈ lines, l.lineId < s.nextLine + 1 := by
  intro l mem
  split at has
  · obtain ⟨before, there, rfl⟩ := Option.map_eq_some_iff.mp has
    rcases List.mem_append.mp mem with old | new
    · exact Nat.lt_succ_of_lt (s.numbered c before there l old)
    · obtain rfl := List.mem_singleton.mp new
      exact Nat.lt_succ_self _
  · exact Nat.lt_succ_of_lt (s.numbered c lines has l mem)

/-- `addItemToCart` takes effect. -/
def addItemToCart (s : State Item) (item : Item) : State Item :=
  { s with
    nextLine := s.nextLine + 1
    carts := fun c => if c = s.cartId then (s.carts c).map (· ++ [⟨s.nextLine, item⟩]) else s.carts c
    numbered := s.numbered_append item }

theorem numbered_create (s : State Item) (c : ℕ) (lines : List (Line Item))
    (has : (if c = s.nextId then some [] else s.carts c) = some lines) :
    ∀ l ∈ lines, l.lineId < s.nextLine := by
  split at has
  · cases has
    exact fun l mem => absurd mem List.not_mem_nil
  · exact s.numbered c lines has

/-- The server creates a cart, and it is pointed to. -/
def createCart (s : State Item) : State Item :=
  { s with
    cartId := s.nextId
    nextId := s.nextId + 1
    carts := fun c => if c = s.nextId then some [] else s.carts c
    numbered := s.numbered_create }

/-- `checkoutCart` takes effect. -/
def checkoutCart (s : State Item) : State Item := { s with checkouts := s.checkouts ++ [s.cartId] }

/-- Where the server does not create a cart the old id stays. -/
def recreateCart (s : State Item) (created : Bool) : State Item := if created then s.createCart else s

end State

/-! ## Attempts -/

/-- A failure, whether the request takes effect all the same while the call goes on, and whether the server creates a
cart if it is asked to. -/
structure Failed where
  failure : Failure
  served : Bool
  created : Bool
  deriving DecidableEq, Repr

inductive Attempt where
  | answered
  | failed (f : Failed)
  deriving DecidableEq, Repr

/-- What `execute` does about a failure. -/
def caught (recreateOnMissing : Bool) (failure : Failure) (attempt : ℕ) : Next :=
  if recreateOnMissing ∧ (statusOf failure = some 404 ∨ statusOf failure = some 409) ∧
      attempt < maxAttempts - 1 then .recreate
  else if ¬ shouldRetry failure ∨ attempt = maxAttempts - 1 then .throw
  else .delay

/-- What a request does on the server, and what the server answers; nothing where it cannot answer. -/
structure Op (Item α : Type*) where
  effect : State Item → State Item
  answer : State Item → Option α

/-- The attempts of a call. There is no such call where they are too few, or where the server cannot answer. -/
def execute (recreateOnMissing : Bool) (op : Op Item α) :
    ℕ → State Item → List Attempt → Option (State Item × Except Failure α)
  | _, _, [] => none
  | _, s, .answered :: _ => (op.answer s).map fun r => (op.effect s, .ok r)
  | attempt, s, .failed f :: es =>
    let s := if f.served then op.effect s else s
    match caught recreateOnMissing f.failure attempt with
    | .throw => some (s, .error f.failure)
    | .recreate => execute recreateOnMissing op (attempt + 1) (s.recreateCart f.created) es
    | .delay => execute recreateOnMissing op (attempt + 1) s es

/-- The server answers with the lines of a cart that it has. -/
def addRequest (item : Item) : Op Item (List (Line Item)) where
  effect s := s.addItemToCart item
  answer s := (s.carts s.cartId).map fun lines => lines ++ [⟨s.nextLine, item⟩]

def checkoutRequest : Op Item Unit where
  effect s := s.checkoutCart
  answer _ := some ()

def addItem (item : Item) (s : State Item) (es : List Attempt) :
    Option (State Item × Except Failure (List (Line Item))) :=
  execute true (addRequest item) 0 s es

def checkout (s : State Item) (es : List Attempt) : Option (State Item × Except Failure Unit) :=
  execute false checkoutRequest 0 s es

/-! ## Which attempts count -/

/-- The failures before the first answer. -/
def failures : List Attempt → List Failed
  | .failed f :: es => f :: failures es
  | _ => []

/-- The server creates a cart after the failure, and it is pointed to. -/
def Failed.recreates (f : Failed) : Bool :=
  (statusOf f.failure = some 404 ∨ statusOf f.failure = some 409) ∧ f.created

/-- Some request that failed takes effect on the cart that is pointed to in the end. -/
def Lands : List Failed → Prop
  | [] => False
  | f :: fs => Lands fs ∨ f.served = true ∧ ∀ g ∈ f :: fs, g.recreates = false

/-- The attempts that are made. -/
def made (recreateOnMissing : Bool) : ℕ → List Attempt → List Attempt
  | _, [] => []
  | _, .answered :: _ => [.answered]
  | attempt, .failed f :: es =>
    match caught recreateOnMissing f.failure attempt with
    | .throw => [.failed f]
    | .recreate | .delay => .failed f :: made recreateOnMissing (attempt + 1) es

def Attempt.served : Attempt → Bool
  | .answered => true
  | .failed f => f.served

/-! ## The lines of the cart -/

/-- One line is new, and before it are those that the cart has had. -/
def AddedOnce (item : Item) (s s' : State Item) : Prop :=
  ∃ n, s.nextLine ≤ n ∧ s'.carts s'.cartId = some (s.lines ++ [⟨n, item⟩])

section
variable {s s' : State Item} {item : Item}

theorem lines_eq {lines : List (Line Item)} (has : s.carts s.cartId = some lines) : s.lines = lines := by
  rw [State.lines, has]
  rfl

/-- What a request does to the cart that is pointed to. -/
theorem carts_addItemToCart (s : State Item) (item : Item) : (s.addItemToCart item).carts s.cartId =
    (s.carts s.cartId).map (· ++ [⟨s.nextLine, item⟩]) := if_pos rfl

/-- What is in the cart that is pointed to when the call resolves. -/
structure Resolved (item : Item) (s s' : State Item) (fs : List Failed) (new : List (Line Item)) : Prop where
  nonempty : new ≠ []
  own : ∀ l ∈ new, s.nextLine ≤ l.lineId ∧ l.item = item
  kept : (∀ f ∈ fs, f.recreates = false) → (s.carts s.cartId).isSome ∧ s'.carts s'.cartId = some (s.lines ++ new)
  replaced : (∃ f ∈ fs, f.recreates = true) → s'.carts s'.cartId = some new
  once : new.length = 1 ↔ ¬ Lands fs

theorem resolved_answered {lines : List (Line Item)} (has : s.carts s.cartId = some lines) :
    Resolved item s (s.addItemToCart item) [] [⟨s.nextLine, item⟩] where
  nonempty := List.cons_ne_nil _ _
  own := List.forall_mem_singleton.mpr ⟨Nat.le_refl _, rfl⟩
  kept _ := by
    refine ⟨by rw [has]; rfl, ?_⟩
    rw [lines_eq has]
    exact (carts_addItemToCart s item).trans (by rw [has]; rfl)
  replaced h := by
    obtain ⟨f, mem, -⟩ := h
    cases mem
  once := ⟨fun _ => id, fun _ => rfl⟩

theorem numbered_lines (s : State Item) : ∀ l ∈ s.lines, l.lineId < s.nextLine := by
  intro l mem
  cases has : s.carts s.cartId with
  | none =>
    rw [State.lines, has] at mem
    cases mem
  | some lines => exact s.numbered s.cartId lines has l (lines_eq has ▸ mem)

variable {f : Failed} {fs : List Failed} {new : List (Line Item)}

/-- Nothing lands of a failure after which a cart was created. -/
theorem lands_cons (replaced : ∃ g ∈ f :: fs, g.recreates = true) : Lands (f :: fs) ↔ Lands fs := by
  obtain ⟨g, mem, recreates⟩ := replaced
  constructor
  · rintro (lands | ⟨-, none⟩)
    · exact lands
    · cases (none g mem).symm.trans recreates
  · exact .inl

/-- A failure whose request does not take effect. -/
theorem Resolved.failed (h : Resolved item s s' fs new) (lost : f.served = false) (stays : f.recreates = false) :
    Resolved item s s' (f :: fs) new where
  nonempty := h.nonempty
  own := h.own
  kept none := h.kept fun g mem => none g (List.mem_cons_of_mem f mem)
  replaced some := by
    obtain ⟨g, mem, recreates⟩ := some
    rcases List.mem_cons.mp mem with rfl | mem
    · cases stays.symm.trans recreates
    · exact h.replaced ⟨g, mem, recreates⟩
  once := by
    rw [h.once, Lands, lost]
    simp

/-- A failure whose request takes effect, on a cart that is replaced later. -/
theorem Resolved.served_before (h : Resolved item (s.addItemToCart item) s' fs new)
    (later : ∃ g ∈ fs, g.recreates = true) : Resolved item s s' (f :: fs) new := by
  obtain ⟨g, mem, recreates⟩ := later
  have mem' := List.mem_cons_of_mem f mem
  constructor
  · exact h.nonempty
  · exact fun l hl => ⟨Nat.le_of_succ_le (h.own l hl).1, (h.own l hl).2⟩
  · intro none
    cases (none g mem').symm.trans recreates
  · exact fun _ => h.replaced ⟨g, mem, recreates⟩
  · rw [lands_cons ⟨g, mem', recreates⟩]
    exact h.once

/-- A failure whose request takes effect, on the cart that is pointed to in the end. -/
theorem Resolved.served (h : Resolved item (s.addItemToCart item) s' fs new) (served : f.served = true)
    (none : ∀ g ∈ f :: fs, g.recreates = false) : Resolved item s s' (f :: fs) (⟨s.nextLine, item⟩ :: new) := by
  obtain ⟨has, cart⟩ := h.kept fun g mem => none g (List.mem_cons_of_mem f mem)
  have own : (s.addItemToCart item).carts (s.addItemToCart item).cartId =
      (s.carts s.cartId).map (· ++ [⟨s.nextLine, item⟩]) := carts_addItemToCart s item
  rw [own] at has
  obtain ⟨lines, there⟩ := Option.isSome_iff_exists.mp (Option.isSome_map.symm.trans has)
  constructor
  · exact List.cons_ne_nil _ _
  · refine List.forall_mem_cons.mpr ⟨⟨Nat.le_refl _, rfl⟩, fun l hl => ?_⟩
    exact ⟨Nat.le_of_succ_le (h.own l hl).1, (h.own l hl).2⟩
  · intro _
    rw [there] at own
    refine ⟨by rw [there]; rfl, ?_⟩
    rw [cart, lines_eq own, lines_eq there, List.append_assoc, List.singleton_append]
  · rintro ⟨g, mem, recreates⟩
    cases (none g mem).symm.trans recreates
  · have two : (⟨s.nextLine, item⟩ :: new : List (Line Item)).length ≠ 1 := by
      intro one
      exact h.nonempty (List.length_eq_zero_iff.mp (Nat.succ.inj one))
    exact ⟨fun one => absurd one two, fun alone => absurd (.inr ⟨served, none⟩) alone⟩

/-- A failure after which a cart was created, whether or not its request took effect. -/
theorem Resolved.recreated {s₁ : State Item} (h : Resolved item s₁.createCart s' fs new)
    (le : s.nextLine ≤ s₁.nextLine) (recreates : f.recreates = true) : Resolved item s s' (f :: fs) new := by
  have replaced : ∃ g ∈ f :: fs, g.recreates = true := ⟨f, List.mem_cons_self, recreates⟩
  have empty : s₁.createCart.lines = [] := lines_eq (if_pos rfl)
  constructor
  · exact h.nonempty
  · exact fun l hl => ⟨Nat.le_trans le (h.own l hl).1, (h.own l hl).2⟩
  · intro none
    cases (none f List.mem_cons_self).symm.trans recreates
  · intro _
    by_cases later : ∃ g ∈ fs, g.recreates = true
    · exact h.replaced later
    · have none : ∀ g ∈ fs, g.recreates = false := by simpa using later
      rw [(h.kept none).2, empty, List.nil_append]
  · rw [lands_cons replaced]
    exact h.once

theorem caught_recreate {failure : Failure} {attempt : ℕ} (h : caught true failure attempt = .recreate) :
    (statusOf failure = some 404 ∨ statusOf failure = some 409) ∧ attempt + 1 < maxAttempts := by
  unfold caught at h
  split at h
  · rename_i missing
    exact ⟨missing.2.1, Nat.succ_lt_succ missing.2.2⟩
  · split at h <;> cases h

theorem caught_delay {failure : Failure} {attempt : ℕ} (h : caught true failure attempt = .delay)
    (bound : attempt < maxAttempts) :
    ¬ (statusOf failure = some 404 ∨ statusOf failure = some 409) ∧ attempt + 1 < maxAttempts := by
  unfold caught at h
  split at h
  · cases h
  · rename_i known
    split at h
    · cases h
    · rename_i again
      have early : attempt ≠ maxAttempts - 1 := fun last => again (.inr last)
      have less : attempt < maxAttempts - 1 := by
        unfold maxAttempts at *
        omega
      exact ⟨fun missing => known ⟨rfl, missing, less⟩, Nat.succ_lt_succ less⟩

/-- A failure after which the cart is the same. -/
theorem resolved_stays (stays : f.recreates = false)
    (h : Resolved item (if f.served then s.addItemToCart item else s) s' fs new) :
    ∃ new, Resolved item s s' (f :: fs) new := by
  cases served : f.served with
  | false =>
    rw [served] at h
    exact ⟨new, h.failed served stays⟩
  | true =>
    rw [served] at h
    by_cases later : ∃ g ∈ fs, g.recreates = true
    · exact ⟨new, Resolved.served_before h later⟩
    · have none : ∀ g ∈ fs, g.recreates = false := by simpa using later
      exact ⟨_, Resolved.served h served (List.forall_mem_cons.mpr ⟨stays, none⟩)⟩

/-- A call that resolves, from any of its attempts on. -/
theorem resolved_execute {attempt : ℕ} {es : List Attempt} {r : List (Line Item)} (bound : attempt < maxAttempts)
    (h : execute true (addRequest item) attempt s es = some (s', .ok r)) :
    ∃ new, Resolved item s s' (failures es) new := by
  induction es generalizing attempt s with
  | nil => cases h
  | cons e es ih =>
    cases e with
    | answered =>
      obtain ⟨r', answer, same⟩ := Option.map_eq_some_iff.mp h
      obtain ⟨lines, has, -⟩ := Option.map_eq_some_iff.mp answer
      cases same
      exact ⟨_, resolved_answered has⟩
    | failed f =>
      simp only [execute] at h
      cases next : caught true f.failure attempt with
      | throw =>
        rw [next] at h
        cases h
      | delay =>
        rw [next] at h
        obtain ⟨known, less⟩ := caught_delay next bound
        obtain ⟨new, rest⟩ := ih less h
        exact resolved_stays (by simp [Failed.recreates, known]) rest
      | recreate =>
        rw [next] at h
        obtain ⟨missing, less⟩ := caught_recreate next
        obtain ⟨new, rest⟩ := ih less h
        cases created : f.created with
        | false =>
          rw [created] at rest
          exact resolved_stays (by simp [Failed.recreates, created]) rest
        | true =>
          rw [created] at rest
          have le : s.nextLine ≤ (if f.served then s.addItemToCart item else s).nextLine := by
            split
            · exact Nat.le_succ _
            · exact Nat.le_refl _
          exact ⟨new, rest.recreated le (by simp [Failed.recreates, created, missing])⟩

/-- What the cart is found to hold. -/
theorem Resolved.addedOnce_iff (h : Resolved item s s' fs new) :
    AddedOnce item s s' ↔ ¬ Lands fs ∧ ((∃ f ∈ fs, f.recreates = true) → s.lines = []) := by
  by_cases replaced : ∃ f ∈ fs, f.recreates = true
  · have cart := h.replaced replaced
    constructor
    · rintro ⟨n, -, there⟩
      obtain rfl : new = s.lines ++ [⟨n, item⟩] := Option.some.inj (cart.symm.trans there)
      have empty : s.lines = [] := by
        apply List.eq_nil_iff_forall_not_mem.mpr
        intro l mem
        exact absurd (numbered_lines s l mem) (Nat.not_lt.mpr (h.own l (List.mem_append_left _ mem)).1)
      exact ⟨h.once.mp (by rw [empty]; rfl), fun _ => empty⟩
    · rintro ⟨alone, empty⟩
      obtain ⟨l, rfl⟩ := List.length_eq_one_iff.mp (h.once.mpr alone)
      obtain ⟨le, rfl⟩ := h.own l List.mem_cons_self
      exact ⟨l.lineId, le, by rw [cart, empty replaced]; rfl⟩
  · have none : ∀ f ∈ fs, f.recreates = false := by simpa using replaced
    obtain ⟨-, cart⟩ := h.kept none
    constructor
    · rintro ⟨n, -, there⟩
      have same := List.append_cancel_left (Option.some.inj (cart.symm.trans there))
      exact ⟨h.once.mp (by rw [same]; rfl), fun some => absurd some replaced⟩
    · rintro ⟨alone, -⟩
      obtain ⟨l, rfl⟩ := List.length_eq_one_iff.mp (h.once.mpr alone)
      obtain ⟨le, rfl⟩ := h.own l List.mem_cons_self
      exact ⟨l.lineId, le, cart⟩

/-! ## Checkouts -/

/-- No two of the attempts that are made take effect. -/
def OneServed (es : List Attempt) : Prop := (made false 0 es).Pairwise fun e e' => ¬ (e.served ∧ e'.served)

instance decidableOneServed (es : List Attempt) : Decidable (OneServed es) :=
  inferInstanceAs (Decidable (List.Pairwise _ _))

theorem caught_false {failure : Failure} {attempt : ℕ} : caught false failure attempt ≠ .recreate := by
  unfold caught
  simp only [Bool.false_eq_true, false_and, ↓reduceIte]
  split <;> exact fun h => by cases h

/-- The checkouts that are started are those of the attempts that take effect. -/
theorem checkouts_execute {attempt : ℕ} {es : List Attempt} {r : Except Failure Unit}
    (h : execute false checkoutRequest attempt s es = some (s', r)) :
    s'.checkouts.length = s.checkouts.length + (made false attempt es).countP Attempt.served := by
  induction es generalizing attempt s with
  | nil => cases h
  | cons e es ih =>
    cases e with
    | answered =>
      cases h
      exact List.length_append
    | failed f =>
      have started : (if f.served then s.checkoutCart else s).checkouts.length =
          s.checkouts.length + if f.served then 1 else 0 := by
        split <;> simp [State.checkoutCart]
      simp only [execute] at h
      simp only [made]
      cases next : caught false f.failure attempt with
      | throw =>
        rw [next] at h
        cases h
        rw [List.countP_singleton]
        exact started
      | delay =>
        rw [next] at h
        have rest : s'.checkouts.length = (if f.served then s.checkoutCart else s).checkouts.length +
            (made false (attempt + 1) es).countP Attempt.served := ih h
        simp only [List.countP_cons]
        rw [rest, started, Nat.add_assoc, Nat.add_comm (if f.served then 1 else 0)]
        rfl
      | recreate => exact absurd next caught_false

theorem countP_le_one {es : List Attempt} :
    es.countP Attempt.served ≤ 1 ↔ es.Pairwise fun e e' => ¬ (e.served ∧ e'.served) := by
  induction es with
  | nil => simp
  | cons e es ih =>
    rw [List.pairwise_cons, List.countP_cons]
    cases served : e.served with
    | false => simp [ih]
    | true =>
      have alone : es.countP Attempt.served = 0 ↔ ∀ e' ∈ es, ¬ e'.served = true := List.countP_eq_zero
      constructor
      · intro le
        have none := alone.mp (by simpa using le)
        exact ⟨fun e' mem both => none e' mem both.2, ih.mp (by simp [alone.mpr none])⟩
      · rintro ⟨others, -⟩
        have none := alone.mpr fun e' mem served' => others e' mem ⟨rfl, served'⟩
        simp [none]

/-- **Requests that are made again count once exactly where no failure hides a success.** A call of `addItem` that
resolves adds one line to those that the cart has had if and only if no failed request takes effect on the cart that is
pointed to in the end, and a cart is created only in the place of one without lines. A call of `checkout` starts at most
one checkout if and only if no two of its attempts take effect. -/
theorem effects_once_iff (s : State Item) (es : List Attempt) :
    (∀ item s' r, addItem item s es = some (s', .ok r) → (AddedOnce item s s' ↔
      ¬ Lands (failures es) ∧ ((∃ f ∈ failures es, f.recreates = true) → s.lines = []))) ∧
    ∀ s' r, checkout s es = some (s', r) →
      (s'.checkouts.length ≤ s.checkouts.length + 1 ↔ OneServed es) := by
  constructor
  · intro item s' r resolves
    obtain ⟨new, resolved⟩ := resolved_execute (by decide) resolves
    exact resolved.addedOnce_iff
  · intro s' r ends
    rw [checkouts_execute ends, OneServed, ← countP_le_one]
    exact Nat.add_le_add_iff_left

end

namespace Dinner

theorem numbered_none (_ : ℕ) (lines : List (Line String)) (has : (none : Option (List (Line String))) = some lines) :
    ∀ l ∈ lines, l.lineId < 0 := by cases has

/-- One soup is in the cart. -/
def soup : State String :=
  (State.mk 0 1 0 (fun _ => none) [] numbered_none).createCart.addItemToCart "soup"

/-- The first request is lost. -/
def lost : List Attempt := [.failed ⟨.timeout, false, false⟩, .answered]

theorem once_after_lost :
    (∃ s' r, addItem "bread" soup lost = some (s', .ok r) ∧ AddedOnce "bread" soup s') ∧
      ∃ s', checkout soup lost = some (s', .ok ()) ∧ s'.checkouts.length ≤ 1 := by
  constructor
  · refine ⟨_, _, rfl, ((effects_once_iff soup lost).1 "bread" _ _ rfl).mpr ⟨?_, ?_⟩⟩
    · rintro (lands | ⟨served, -⟩)
      · exact lands
      · cases served
    · intro replaced
      exact absurd replaced (by decide)
  · exact ⟨_, rfl, ((effects_once_iff soup lost).2 _ _ rfl).mpr (by decide)⟩

/-- The first request takes effect, and the answer is late. -/
def late : List Attempt := [.failed ⟨.timeout, true, false⟩, .answered]

theorem bread_twice :
    (∃ s' r, addItem "bread" soup late = some (s', .ok r) ∧ ¬ AddedOnce "bread" soup s') ∧
      ∃ s', checkout soup late = some (s', .ok ()) ∧ s'.checkouts.length = 2 := by
  constructor
  · refine ⟨_, _, rfl, ?_⟩
    rintro ⟨n, -, cart⟩
    cases congrArg (Option.map List.length) cart
  · exact ⟨_, rfl, rfl⟩

end Dinner

end Kiosk.ApiCart
