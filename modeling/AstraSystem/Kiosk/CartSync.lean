import AstraSystem.Lib.Runs
import Mathlib.Data.Int.Notation

/-!
# The cart of a kiosk and the cart on the server (`apiCart.ts`, `cartService.ts`)

A flush adds every line to the server's cart, one request after the other, and begins again with all of them after a
failure. A request may take effect at any time until it is answered, and after its flush has given it up. The server
appends what is added and creates empty carts.
-/

namespace Kiosk.CartSync

structure Modifier where
  modifierId : String
  optionId : String
  priceDeltaCents : ℤ
  deriving DecidableEq, Repr

structure CartLineItem where
  lineId : String
  menuItemId : String
  nameSnapshot : String
  unitPriceCentsSnapshot : ℤ
  quantity : ℤ
  modifiers : List Modifier
  notes : Option String
  weightGrams : Option ℤ
  deriving DecidableEq, Repr

/-- What `updateCart` sends of a line: no notes and no weight. -/
structure CartLineInput where
  menuItemId : String
  nameSnapshot : String
  unitPriceCentsSnapshot : ℤ
  quantity : ℤ
  modifiers : List Modifier
  deriving DecidableEq, Repr

def mapCartLineToApiFormat (line : CartLineItem) : CartLineInput :=
  ⟨line.menuItemId, line.nameSnapshot, line.unitPriceCentsSnapshot, line.quantity, line.modifiers⟩

/-! ## Failures -/

/-- `timeout` is the one of `withTimeout`: that of the client has the status zero. `network` is a `TypeError` or one of
the four codes. -/
inductive Failure where
  | status (code : ℤ)
  | network
  | timeout
  | other
  deriving DecidableEq, Repr

def statusOf : Failure → Option ℤ
  | .status code => some code
  | .network | .timeout | .other => none

def isRetryableNetworkError (failure : Failure) : Bool := failure = .network

def shouldRetry (failure : Failure) : Bool :=
  match statusOf failure with
  | some status => 500 ≤ status || status = 429 || status = 404 || status = 409
  | none => isRetryableNetworkError failure || failure = .timeout

def maxAttempts : ℕ := 3

inductive Next where
  | recreate
  | throw
  | delay
  deriving DecidableEq, Repr

/-- What `execute` does about a failure of `updateCart`. -/
def caught (failure : Failure) (attempt : ℕ) : Next :=
  if (statusOf failure = some 404 ∨ statusOf failure = some 409) ∧ attempt < maxAttempts - 1 then .recreate
  else if ¬ shouldRetry failure ∨ attempt = maxAttempts - 1 then .throw
  else .delay

/-! ## The state -/

/-- The request that an attempt waits for. What is still to be sent after a line is in `todo`, and `served` says that the
line has been appended. -/
inductive Asked where
  | add (cart : ℕ) (line : CartLineInput) (todo : List CartLineInput) (served : Bool)
  | get (cart : ℕ)

/-- An attempt to send the lines. It is `clean` if it began on an empty cart, and since then this cart was the one that is
pointed to and nothing else was appended to it. -/
structure Op where
  sent : List CartLineInput
  asked : Asked
  clean : Bool

inductive Phase where
  | waiting (op : Op)
  | creating
  | delaying

/-- A call of `flushSync` in progress, `checkout` if it is that of a checkout. It is `undisturbed` if there was no edit and
no other flush meanwhile. -/
structure Flush where
  version : ℕ
  checkout : Bool
  lines : List CartLineInput
  attempt : ℕ
  undisturbed : Bool
  phase : Phase

/-- A flush that is over. If it is that of a checkout, `apiCart.checkout` is called next. -/
structure Ended where
  ok : Bool
  undisturbed : Bool
  checkout : Bool

/-- `carts` are those of the server. `zombies` are attempts that go on after their timeout, `strays` requests of attempts
that failed, `ended` is the flush that the last step ended. -/
structure State where
  lines : List CartLineItem := []
  cartId : ℕ := 0
  nextId : ℕ := 1
  isOnline : Bool := true
  destroyed : Bool := false
  initializing : Bool := true
  syncTimer : Bool := false
  retryTimer : Bool := false
  pendingSyncVersion : ℕ := 0
  flushes : List Flush := []
  zombies : List Op := []
  strays : List (ℕ × CartLineInput) := []
  carts : ℕ → Option (List CartLineInput) := fun _ => none
  ended : Option Ended := none

inductive Action where
  | addItem (line : CartLineItem)
  | updateQuantity (lineId : String) (quantity : ℤ)
  | removeItem (lineId : String)
  | resetCart
  | online
  | offline
  | destroy
  | debounce
  | retry
  | checkout
  | initialized (ok : Bool)
  | serve (i : ℕ)
  | answer (i : ℕ)
  | fail (i : ℕ) (failure : Failure)
  | created (i : ℕ) (ok : Bool)
  | resume (i : ℕ)
  | serveLate (j : ℕ)
  | answerLate (j : ℕ)
  | failLate (j : ℕ)
  | serveStray (k : ℕ)

/-! ## Attempts -/

/-- The next request of an attempt, to the cart that is pointed to now. -/
def Op.send (cartId : ℕ) (sent : List CartLineInput) (clean : Bool) : List CartLineInput → Op
  | [] => ⟨sent, .get cartId, clean⟩
  | line :: todo => ⟨sent, .add cartId line todo false, clean⟩

/-- What may still take effect of an attempt that failed. -/
def Op.unserved (op : Op) : List (ℕ × CartLineInput) :=
  match op.asked with
  | .add cart line _ false => [(cart, line)]
  | .add _ _ _ true | .get _ => []

def Flush.op? (f : Flush) : Option Op :=
  match f.phase with
  | .waiting op => some op
  | .creating | .delaying => none

/-- Something is appended to the cart of an attempt, or another one is pointed to. -/
def Flush.soil (f : Flush) : Flush :=
  match f.phase with
  | .waiting op => { f with phase := .waiting { op with clean := false } }
  | .creating | .delaying => f

def Flush.disturb (f : Flush) : Flush := { f with undisturbed := false }

namespace State

/-! ## Edits -/

def markDirty (s : State) : State :=
  { s with syncTimer := true, flushes := s.flushes.map Flush.disturb }

def addItem (s : State) (line : CartLineItem) : State :=
  { s with lines := s.lines ++ [line] }.markDirty

def removeItem (s : State) (lineId : String) : State :=
  match s.lines.findIdx? fun l => l.lineId = lineId with
  | none => s
  | some idx => { s with lines := s.lines.eraseIdx idx }.markDirty

def updateQuantity (s : State) (lineId : String) (quantity : ℤ) : State :=
  match s.lines.findIdx? fun l => l.lineId = lineId with
  | none => s
  | some idx =>
    if quantity ≤ 0 then s.removeItem lineId
    else { s with lines := s.lines.modify idx fun l => { l with quantity := quantity } }.markDirty

def cancelSync (s : State) : State := { s with syncTimer := false, retryTimer := false }

def pointTo (s : State) (cartId : ℕ) : State :=
  { s with cartId := cartId, flushes := s.flushes.map Flush.soil }

/-- The cart has a new id that the server does not know. -/
def resetCart (s : State) : State :=
  { s.cancelSync with
    lines := []
    nextId := s.nextId + 1
    flushes := s.flushes.map Flush.disturb }.pointTo s.nextId

/-! ## The server -/

/-- The server appends a line to a cart that it has. -/
def receive (s : State) (cart : ℕ) (line : CartLineInput) : State :=
  match s.carts cart with
  | none => s
  | some lines =>
    { s with
      carts := fun k => if k = cart then some (lines ++ [line]) else s.carts k
      flushes := if cart = s.cartId then s.flushes.map Flush.soil else s.flushes }

/-- The server creates a cart, and it is pointed to. -/
def createCart (s : State) : State :=
  { s with
    nextId := s.nextId + 1
    carts := fun k => if k = s.nextId then some [] else s.carts k }.pointTo s.nextId

/-! ## Flushes -/

def begin (s : State) (lines : List CartLineInput) : Op :=
  .send s.cartId [] (s.carts s.cartId = some []) lines

/-- It returns at once where the kiosk is offline or the service is destroyed. -/
def flushSync (s : State) (checkout : Bool) : State :=
  if ¬ s.isOnline ∨ s.destroyed then { s with ended := some ⟨true, s.flushes.isEmpty, checkout⟩ }
  else
    let lines := s.lines.map mapCartLineToApiFormat
    { s with
      syncTimer := false
      pendingSyncVersion := s.pendingSyncVersion + 1
      flushes := s.flushes.map Flush.disturb ++
        [⟨s.pendingSyncVersion + 1, checkout, lines, 0, s.flushes.isEmpty, .waiting (s.begin lines)⟩] }

/-- A retry is scheduled if it failed and is the last one that began. -/
def endFlush (s : State) (i : ℕ) (f : Flush) (ok : Bool) : State :=
  { s with
    flushes := s.flushes.eraseIdx i
    retryTimer := s.retryTimer || !ok && f.version = s.pendingSyncVersion && !s.destroyed
    ended := some ⟨ok, f.undisturbed, f.checkout⟩ }

def nextAttempt (s : State) (i : ℕ) (f : Flush) : State :=
  { s with flushes := s.flushes.set i { f with attempt := f.attempt + 1, phase := .waiting (s.begin f.lines) } }

def serve (s : State) (i : ℕ) (f : Flush) (op : Op) : State :=
  match op.asked with
  | .add cart line todo false =>
    if (s.carts cart).isSome then
      { s.receive cart line with
        flushes := (s.receive cart line).flushes.set i
          { f with phase := .waiting { op with asked := .add cart line todo true } } }
    else s
  | .add _ _ _ true | .get _ => s

def answer (s : State) (i : ℕ) (f : Flush) (op : Op) : State :=
  match op.asked with
  | .add _ line todo true =>
    { s with
      flushes := s.flushes.set i { f with phase := .waiting (.send s.cartId (op.sent ++ [line]) op.clean todo) } }
  | .get cart => if (s.carts cart).isSome then s.endFlush i f true else s
  | .add _ _ _ false => s

/-- An attempt that has timed out goes on. -/
def fail (s : State) (i : ℕ) (f : Flush) (op : Op) (failure : Failure) : State :=
  let s :=
    if failure = .timeout then { s with zombies := s.zombies ++ [op] }
    else { s with strays := s.strays ++ op.unserved }
  match caught failure f.attempt with
  | .recreate => { s with flushes := s.flushes.set i { f with phase := .creating } }
  | .throw => s.endFlush i f false
  | .delay => { s with flushes := s.flushes.set i { f with phase := .delaying } }

/-- Where the server does not create a cart, the old id stays. -/
def created (s : State) (i : ℕ) (f : Flush) (ok : Bool) : State :=
  if ok then s.createCart.nextAttempt i f else s.nextAttempt i f

/-! ## What goes on after its flush -/

def serveLate (s : State) (j : ℕ) (op : Op) : State :=
  match op.asked with
  | .add cart line todo false =>
    if (s.carts cart).isSome then
      { s.receive cart line with zombies := s.zombies.set j { op with asked := .add cart line todo true } }
    else s
  | .add _ _ _ true | .get _ => s

def answerLate (s : State) (j : ℕ) (op : Op) : State :=
  match op.asked with
  | .add _ line todo true =>
    { s with zombies := s.zombies.set j (.send s.cartId (op.sent ++ [line]) op.clean todo) }
  | .get _ => { s with zombies := s.zombies.eraseIdx j }
  | .add _ _ _ false => s

def failLate (s : State) (j : ℕ) (op : Op) : State :=
  { s with zombies := s.zombies.eraseIdx j, strays := s.strays ++ op.unserved }

/-! ## Steps -/

def act (s : State) : Action → State
  | .addItem line => s.addItem line
  | .updateQuantity lineId quantity => s.updateQuantity lineId quantity
  | .removeItem lineId => s.removeItem lineId
  | .resetCart => s.resetCart
  | .online => if s.destroyed then s else { s with isOnline := true }.flushSync false
  | .offline => if s.destroyed then s else { s with isOnline := false }.cancelSync
  | .destroy => { s with destroyed := true }.cancelSync
  | .debounce => if s.syncTimer then { s with syncTimer := false }.flushSync false else s
  | .retry => if s.retryTimer then { s with retryTimer := false }.flushSync false else s
  | .checkout => s.flushSync true
  | .initialized ok =>
    if s.initializing then
      if ok then { s with initializing := false }.createCart else { s with initializing := false }
    else s
  | .serve i =>
    match s.flushes[i]? with
    | some f => (f.op?.map (s.serve i f)).getD s
    | none => s
  | .answer i =>
    match s.flushes[i]? with
    | some f => (f.op?.map (s.answer i f)).getD s
    | none => s
  | .fail i failure =>
    match s.flushes[i]? with
    | some f => (f.op?.map fun op => s.fail i f op failure).getD s
    | none => s
  | .created i ok =>
    match s.flushes[i]? with
    | some f =>
      match f.phase with
      | .creating => s.created i f ok
      | .waiting _ | .delaying => s
    | none => s
  | .resume i =>
    match s.flushes[i]? with
    | some f =>
      match f.phase with
      | .delaying => s.nextAttempt i f
      | .waiting _ | .creating => s
    | none => s
  | .serveLate j =>
    match s.zombies[j]? with
    | some op => s.serveLate j op
    | none => s
  | .answerLate j =>
    match s.zombies[j]? with
    | some op => s.answerLate j op
    | none => s
  | .failLate j =>
    match s.zombies[j]? with
    | some op => s.failLate j op
    | none => s
  | .serveStray k =>
    match s.strays[k]? with
    | some (cart, line) => { s.receive cart line with strays := s.strays.eraseIdx k }
    | none => s

def step (s : State) (a : Action) : State := { s with ended := none }.act a

def initial (isOnline : Bool) : State := { isOnline := isOnline }

end State

/-! ## What an attempt has done -/

def Asked.cart : Asked → ℕ
  | .add cart _ _ _ | .get cart => cart

/-- What has not been answered. -/
def Asked.rest : Asked → List CartLineInput
  | .add _ line todo _ => line :: todo
  | .get _ => []

/-- What has been appended and not been answered. -/
def Asked.taken : Asked → List CartLineInput
  | .add _ line _ true => [line]
  | .add _ _ _ false | .get _ => []

/-- The flush of this attempt ends with the answer. -/
def Asked.ends (carts : ℕ → Option (List CartLineInput)) : Asked → Bool
  | .get cart => (carts cart).isSome
  | .add _ _ _ _ => false

/-- An attempt sends all the lines, and a clean one has appended alone. -/
structure Op.Good (cartId : ℕ) (carts : ℕ → Option (List CartLineInput)) (lines : List CartLineInput) (op : Op) :
    Prop where
  whole : op.sent ++ op.asked.rest = lines
  held : op.clean → op.asked.cart = cartId ∧ carts cartId = some (op.sent ++ op.asked.taken)

/-- What an undisturbed flush sends are the lines of the kiosk. -/
structure Flush.Good (cartId : ℕ) (carts : ℕ → Option (List CartLineInput)) (lines : List CartLineItem) (f : Flush) :
    Prop where
  snapshot : f.undisturbed → f.lines = lines.map mapCartLineToApiFormat
  op : ∀ op ∈ f.op?, op.Good cartId carts f.lines

section
variable {cartId cartId' : ℕ} {carts carts' : ℕ → Option (List CartLineInput)} {lines lines' : List CartLineItem}
  {f : Flush}

theorem good_send {sent todo all : List CartLineInput} {clean : Bool} (whole : sent ++ todo = all)
    (held : clean → carts cartId = some sent) : (Op.send cartId sent clean todo).Good cartId carts all := by
  cases todo with
  | nil => exact ⟨whole, fun c => ⟨rfl, (held c).trans (congrArg some (List.append_nil _).symm)⟩⟩
  | cons line todo => exact ⟨whole, fun c => ⟨rfl, (held c).trans (congrArg some (List.append_nil _).symm)⟩⟩

theorem Flush.Good.congr (h : f.Good cartId carts lines) (same : carts' cartId = carts cartId) :
    f.Good cartId carts' lines :=
  ⟨h.snapshot, fun op hop => ⟨(h.op op hop).whole, fun clean => same ▸ (h.op op hop).held clean⟩⟩

theorem Flush.Good.soil (h : f.Good cartId carts lines) : f.soil.Good cartId' carts' lines := by
  obtain ⟨version, checkout, all, attempt, undisturbed, phase⟩ := f
  cases phase with
  | creating | delaying => exact ⟨h.snapshot, fun _ none => (by cases none)⟩
  | waiting op =>
    refine ⟨h.snapshot, ?_⟩
    rintro _ ⟨⟩
    exact ⟨(h.op op rfl).whole, fun clean => (by cases clean)⟩

theorem Flush.Good.disturb (h : f.Good cartId carts lines) : f.disturb.Good cartId carts lines' :=
  ⟨fun undisturbed => (by cases undisturbed), h.op⟩

/-- Without an attempt in progress only the snapshot counts. -/
theorem good_of_none {phase : Phase} (none : ({ f with phase := phase } : Flush).op? = none)
    (h : f.Good cartId carts lines) : ({ f with phase := phase } : Flush).Good cartId carts lines :=
  ⟨h.snapshot, fun op hop => (by rw [none] at hop; cases hop)⟩

end

namespace State

/-- Every flush is as it should be, and none has just ended. -/
structure Idle (s : State) : Prop where
  good : ∀ f ∈ s.flushes, f.Good s.cartId s.carts s.lines
  ended : s.ended = none

section
variable {s : State} {i j : ℕ} {f : Flush} {op : Op}

theorem Idle.set {g : Flush} (h : s.Idle) (good : g.Good s.cartId s.carts s.lines) :
    ({ s with flushes := s.flushes.set i g } : State).Idle := by
  refine ⟨fun g' hg => ?_, h.ended⟩
  obtain old | rfl := List.mem_or_eq_of_mem_set hg
  · exact h.good g' old
  · exact good

theorem Idle.pointTo (h : s.Idle) (carts : ℕ → Option (List CartLineInput)) (nextId cartId : ℕ) :
    (({ s with nextId := nextId, carts := carts } : State).pointTo cartId).Idle := by
  refine ⟨fun g hg => ?_, h.ended⟩
  obtain ⟨f, hf, rfl⟩ := List.mem_map.mp hg
  exact (h.good f hf).soil

theorem Idle.createCart (h : s.Idle) : s.createCart.Idle := h.pointTo _ _ _

theorem Idle.disturb (h : s.Idle) (lines : List CartLineItem) :
    ({ s with lines := lines, flushes := s.flushes.map Flush.disturb } : State).Idle := by
  refine ⟨fun g hg => ?_, h.ended⟩
  obtain ⟨f, hf, rfl⟩ := List.mem_map.mp hg
  exact (h.good f hf).disturb

theorem Idle.markDirty (h : s.Idle) (lines : List CartLineItem) : ({ s with lines := lines } : State).markDirty.Idle :=
  ⟨(h.disturb lines).good, h.ended⟩

theorem Idle.removeItem (h : s.Idle) (lineId : String) : (s.removeItem lineId).Idle := by
  unfold State.removeItem
  split
  · exact h
  · exact h.markDirty _

theorem Idle.updateQuantity (h : s.Idle) (lineId : String) (quantity : ℤ) : (s.updateQuantity lineId quantity).Idle := by
  unfold State.updateQuantity
  split
  · exact h
  · split
    · exact h.removeItem lineId
    · exact h.markDirty _

theorem Idle.resetCart (h : s.Idle) : s.resetCart.Idle := by
  have empty : ({ s.cancelSync with lines := [], flushes := s.flushes.map Flush.disturb } : State).Idle :=
    ⟨(h.disturb []).good, h.ended⟩
  exact empty.pointTo s.carts (s.nextId + 1) s.nextId

theorem Idle.receive (h : s.Idle) (cart : ℕ) (line : CartLineInput) : (s.receive cart line).Idle := by
  unfold State.receive
  split
  · exact h
  · rename_i held
    refine ⟨fun g hg => ?_, h.ended⟩
    by_cases own : cart = s.cartId
    · simp only [if_pos own] at hg
      obtain ⟨f, hf, rfl⟩ := List.mem_map.mp hg
      exact (h.good f hf).soil
    · simp only [if_neg own] at hg
      exact (h.good g hg).congr (if_neg fun same => own same.symm)

theorem Idle.nextAttempt (h : s.Idle) (snapshot : f.undisturbed → f.lines = s.lines.map mapCartLineToApiFormat) :
    (s.nextAttempt i f).Idle := by
  refine h.set ⟨snapshot, ?_⟩
  rintro _ ⟨⟩
  exact good_send rfl of_decide_eq_true

theorem receive_eq {cart : ℕ} {held : List CartLineInput} (line : CartLineInput) (has : s.carts cart = some held) :
    s.receive cart line = { s with
      carts := fun k => if k = cart then some (held ++ [line]) else s.carts k
      flushes := if cart = s.cartId then s.flushes.map Flush.soil else s.flushes } := by
  rw [State.receive, has]

theorem Idle.serve (h : s.Idle) (at_i : s.flushes[i]? = some f) (waits : f.op? = some op) : (s.serve i f op).Idle := by
  have own := h.good f (List.mem_of_getElem? at_i)
  obtain ⟨whole, held⟩ := own.op op waits
  unfold State.serve
  split
  · rename_i cart line todo asked
    split
    · rename_i has
      obtain ⟨lines, has⟩ := Option.isSome_iff_exists.mp has
      refine (h.receive cart line).set ?_
      rw [receive_eq line has]
      refine ⟨own.snapshot, ?_⟩
      rintro _ ⟨⟩
      refine ⟨by rw [← whole, asked]; rfl, fun clean => ?_⟩
      obtain ⟨same, there⟩ := held clean
      rw [asked] at same there
      cases same
      cases has.symm.trans there
      refine ⟨rfl, ?_⟩
      simp [Asked.taken]
    · exact h
  · exact h
  · exact h

theorem Idle.serveLate (h : s.Idle) (j : ℕ) (op : Op) : (s.serveLate j op).Idle := by
  unfold State.serveLate
  split
  · split
    · exact ⟨(h.receive _ _).good, (h.receive _ _).ended⟩
    · exact h
  · exact h
  · exact h

theorem Idle.answerLate (h : s.Idle) (j : ℕ) (op : Op) : (s.answerLate j op).Idle := by
  unfold State.answerLate
  split <;> exact ⟨h.good, h.ended⟩

theorem Idle.created (h : s.Idle) (at_i : s.flushes[i]? = some f) (ok : Bool) : (s.created i f ok).Idle := by
  have snapshot := (h.good f (List.mem_of_getElem? at_i)).snapshot
  unfold State.created
  split
  · exact h.createCart.nextAttempt snapshot
  · exact h.nextAttempt snapshot

end

/-! ## What a flush leaves -/

end State

/-- Item, quantity and modifiers. -/
def CartLineInput.view (line : CartLineInput) : String × ℤ × List Modifier :=
  (line.menuItemId, line.quantity, line.modifiers)

def CartLineItem.view (line : CartLineItem) : String × ℤ × List Modifier :=
  (line.menuItemId, line.quantity, line.modifiers)

namespace State

/-- The cart that is pointed to has the lines of the kiosk. -/
def Synced (s : State) : Prop :=
  (s.carts s.cartId).map (List.map CartLineInput.view) = some (s.lines.map CartLineItem.view)

instance decidableSynced (s : State) : Decidable s.Synced :=
  inferInstanceAs (Decidable (_ = _))

/-- A flush that ends undisturbed and without error has synchronized the carts, and no checkout goes on after any
other. -/
structure Converged (s : State) : Prop where
  flush : ∀ e ∈ s.ended, e.ok → e.undisturbed → s.Synced
  checkout : ∀ e ∈ s.ended, e.checkout → e.ok ∧ e.undisturbed ∧ s.Synced

/-- Where flushes are skipped, one that nothing disturbs and one of a checkout come only to carts that are the same, and
the latter beside no other. -/
def PermitsFlush (s : State) (checkout : Bool) : Prop :=
  ¬ s.isOnline ∨ s.destroyed → s.flushes.isEmpty ∨ checkout → s.flushes.isEmpty ∧ s.Synced

/-- A flush that nothing disturbs, and one of a checkout, ends with a clean attempt. The latter is not disturbed and does
not fail. -/
def Permitted (s : State) : Action → Prop
  | .debounce => s.syncTimer → s.PermitsFlush false
  | .retry => s.retryTimer → s.PermitsFlush false
  | .checkout => s.PermitsFlush true
  | .answer i => ∀ f ∈ s.flushes[i]?, ∀ op ∈ f.op?, op.asked.ends s.carts → f.undisturbed ∨ f.checkout →
    f.undisturbed ∧ op.clean
  | .fail i failure => ∀ f ∈ s.flushes[i]?, f.op?.isSome → caught failure f.attempt = .throw → ¬ f.checkout
  | _ => True

instance decidablePermitsFlush (s : State) (checkout : Bool) : Decidable (s.PermitsFlush checkout) :=
  inferInstanceAs (Decidable (_ → _ → _ ∧ _))

instance decidablePermitted (s : State) : ∀ a, Decidable (s.Permitted a)
  | .debounce | .retry => inferInstanceAs (Decidable (_ → s.PermitsFlush false))
  | .checkout => inferInstanceAs (Decidable (s.PermitsFlush true))
  | .answer i => inferInstanceAs (Decidable (∀ f ∈ s.flushes[i]?, ∀ op ∈ f.op?, op.asked.ends s.carts →
      f.undisturbed ∨ f.checkout → f.undisturbed ∧ op.clean))
  | .fail i failure => inferInstanceAs (Decidable (∀ f ∈ s.flushes[i]?, f.op?.isSome →
      caught failure f.attempt = .throw → ¬ f.checkout))
  | .addItem _ | .updateQuantity _ _ | .removeItem _ | .resetCart | .online | .offline | .destroy | .initialized _
  | .serve _ | .created _ _ | .resume _ | .serveLate _ | .answerLate _ | .failLate _ | .serveStray _ => .isTrue trivial

/-- What every step keeps. -/
structure Sound (s : State) : Prop where
  good : ∀ f ∈ s.flushes, f.Good s.cartId s.carts s.lines
  converged : s.Converged

section
variable {s : State} {i : ℕ} {f : Flush} {op : Op}

theorem Idle.sound (h : s.Idle) : s.Sound :=
  ⟨h.good, fun e he => (by rw [h.ended] at he; cases he), fun e he => (by rw [h.ended] at he; cases he)⟩

theorem view_map (lines : List CartLineItem) :
    (lines.map mapCartLineToApiFormat).map CartLineInput.view = lines.map CartLineItem.view := by
  rw [List.map_map]
  rfl

theorem sound_flushSync (h : s.Idle) {checkout : Bool} (permits : s.PermitsFlush checkout) :
    (s.flushSync checkout).Sound := by
  unfold State.flushSync
  split
  · rename_i skipped
    refine ⟨h.good, ?_, ?_⟩
    · rintro _ ⟨⟩ _ undisturbed
      exact (permits skipped (.inl undisturbed)).2
    · rintro _ ⟨⟩ checkout
      obtain ⟨alone, synced⟩ := permits skipped (.inr checkout)
      exact ⟨rfl, alone, synced⟩
  · refine Idle.sound ⟨fun g hg => ?_, h.ended⟩
    obtain old | new := List.mem_append.mp hg
    · exact (h.disturb s.lines).good g old
    · cases List.mem_singleton.mp new
      refine ⟨fun _ => rfl, ?_⟩
      rintro _ ⟨⟩
      exact good_send rfl of_decide_eq_true

theorem sound_endFlush (h : s.Idle) {ok : Bool} (flush : ok → f.undisturbed → s.Synced)
    (checkout : f.checkout → ok ∧ f.undisturbed ∧ s.Synced) : (s.endFlush i f ok).Sound := by
  refine ⟨fun g hg => h.good g (List.mem_of_mem_eraseIdx hg), ?_, ?_⟩
  · rintro _ ⟨⟩
    exact flush
  · rintro _ ⟨⟩
    exact checkout

theorem sound_answer (h : s.Idle) (at_i : s.flushes[i]? = some f) (waits : f.op? = some op)
    (permitted : op.asked.ends s.carts → f.undisturbed ∨ f.checkout → f.undisturbed ∧ op.clean) :
    (s.answer i f op).Sound := by
  have own := h.good f (List.mem_of_getElem? at_i)
  obtain ⟨whole, held⟩ := own.op op waits
  unfold State.answer
  split
  · rename_i cart line todo asked
    refine Idle.sound (h.set ⟨own.snapshot, ?_⟩)
    rintro _ ⟨⟩
    rw [asked] at whole held
    exact good_send (by rw [← whole, List.append_assoc]; rfl) fun clean => (held clean).2
  · rename_i cart asked
    split
    · rename_i has
      have synced (ends : f.undisturbed ∨ f.checkout) : f.undisturbed ∧ s.Synced := by
        obtain ⟨undisturbed, clean⟩ := permitted (by rw [asked]; exact has) ends
        rw [asked] at whole held
        have all : op.sent = f.lines := by rw [← whole]; exact (List.append_nil _).symm
        refine ⟨undisturbed, ?_⟩
        rw [Synced, (held clean).2, Option.map_some, all, Asked.taken, List.append_nil, own.snapshot undisturbed,
          view_map]
      exact sound_endFlush h (fun _ undisturbed => (synced (.inl undisturbed)).2)
        fun checkout => ⟨rfl, synced (.inr checkout)⟩
    · exact h.sound
  · exact h.sound

theorem sound_fail (h : s.Idle) (at_i : s.flushes[i]? = some f) (op : Op) {failure : Failure}
    (permitted : caught failure f.attempt = .throw → ¬ f.checkout) : (s.fail i f op failure).Sound := by
  have own := h.good f (List.mem_of_getElem? at_i)
  -- What the attempt leaves behind is no flush.
  have left (zombies : List Op) (strays : List (ℕ × CartLineInput)) :
      ({ s with zombies := zombies, strays := strays } : State).Idle := ⟨h.good, h.ended⟩
  have behind : ∃ zombies strays, (if failure = .timeout then { s with zombies := s.zombies ++ [op] }
      else { s with strays := s.strays ++ op.unserved }) = { s with zombies := zombies, strays := strays } := by
    split
    · exact ⟨_, s.strays, rfl⟩
    · exact ⟨s.zombies, _, rfl⟩
  obtain ⟨zombies, strays, same⟩ := behind
  unfold State.fail
  rw [same]
  split
  · exact ((left zombies strays).set (good_of_none rfl own)).sound
  · rename_i throws
    exact sound_endFlush (left zombies strays) (fun ok => (by cases ok)) fun checkout =>
      absurd checkout (permitted throws)
  · exact ((left zombies strays).set (good_of_none rfl own)).sound

theorem sound_online (h : s.Idle) : (s.act .online).Sound := by
  simp only [act]
  split
  · exact h.sound
  · rename_i running
    have idle : ({ s with isOnline := true } : State).Idle := ⟨h.good, h.ended⟩
    refine sound_flushSync idle fun skipped => ?_
    obtain offline | destroyed := skipped
    · exact absurd rfl offline
    · exact absurd destroyed running

/-- A timer flushes when it is due. -/
theorem sound_timer (h : s.Idle) {timer : Bool} {cleared : State} (idle : cleared.Idle)
    (permits : timer → cleared.PermitsFlush false) : (if timer then cleared.flushSync false else s).Sound := by
  split
  · rename_i due
    exact sound_flushSync idle (permits due)
  · exact h.sound

/-- What becomes of the request of a flush. -/
theorem sound_waiting (h : s.Idle) {go : Flush → Op → State}
    (sound : ∀ f op, s.flushes[i]? = some f → f.op? = some op → (go f op).Sound) :
    (match s.flushes[i]? with
      | some f => (f.op?.map (go f)).getD s
      | none => s).Sound := by
  split
  · rename_i f at_i
    cases waits : f.op? with
    | none => exact h.sound
    | some op => exact sound f op at_i waits
  · exact h.sound

/-- What becomes of a request that nobody waits for. -/
theorem sound_late (h : s.Idle) {j : ℕ} {go : Op → State} (idle : ∀ op, (go op).Idle) :
    (match s.zombies[j]? with
      | some op => go op
      | none => s).Sound := by
  split
  · exact (idle _).sound
  · exact h.sound

theorem sound_act (h : s.Idle) {a : Action} (permitted : s.Permitted a) : (s.act a).Sound := by
  cases a with
  | addItem line => exact (h.markDirty _).sound
  | updateQuantity lineId quantity => exact (h.updateQuantity lineId quantity).sound
  | removeItem lineId => exact (h.removeItem lineId).sound
  | resetCart => exact h.resetCart.sound
  | destroy => exact Idle.sound ⟨h.good, h.ended⟩
  | checkout => exact sound_flushSync h permitted
  | offline =>
    simp only [act]
    split
    · exact h.sound
    · exact Idle.sound ⟨h.good, h.ended⟩
  | online => exact sound_online h
  | debounce =>
    have idle : ({ s with syncTimer := false } : State).Idle := ⟨h.good, h.ended⟩
    exact sound_timer h idle permitted
  | retry =>
    have idle : ({ s with retryTimer := false } : State).Idle := ⟨h.good, h.ended⟩
    exact sound_timer h idle permitted
  | initialized ok =>
    have ready : ({ s with initializing := false } : State).Idle := ⟨h.good, h.ended⟩
    simp only [act]
    split
    · split
      · exact ready.createCart.sound
      · exact ready.sound
    · exact h.sound
  | serve i => exact sound_waiting h fun f op at_i waits => (h.serve at_i waits).sound
  | answer i => exact sound_waiting h fun f op at_i waits => sound_answer h at_i waits (permitted f at_i op waits)
  | fail i failure =>
    exact sound_waiting h fun f op at_i waits => sound_fail h at_i op (permitted f at_i (waits ▸ rfl))
  | created i ok =>
    simp only [act]
    split
    · split
      · exact (h.created ‹_› ok).sound
      · exact h.sound
      · exact h.sound
    · exact h.sound
  | resume i =>
    simp only [act]
    split
    · rename_i f at_i
      split
      · exact (h.nextAttempt (h.good f (List.mem_of_getElem? at_i)).snapshot).sound
      · exact h.sound
      · exact h.sound
    · exact h.sound
  | serveLate j => exact sound_late h (h.serveLate j)
  | answerLate j => exact sound_late h (h.answerLate j)
  | failLate j => exact sound_late h fun _ => ⟨h.good, h.ended⟩
  | serveStray k =>
    simp only [act]
    split
    · rename_i cart line at_k
      exact Idle.sound ⟨(h.receive cart line).good, (h.receive cart line).ended⟩
    · exact h.sound

end

/-- **The carts converge where every flush that counts ends with a clean attempt.** In a run in which each flush that
nothing disturbs, and each one of a checkout, ends with an attempt that began on an empty cart of the server, to which
nothing else was appended meanwhile and which stayed the one pointed to, in which a flush of a checkout is neither
disturbed nor fails, and flushes are skipped only where the carts are the same already, whenever an undisturbed flush
ends without error the server's cart has the lines of the kiosk's, and no checkout goes on in any other state. -/
theorem carts_converge (isOnline : Bool) {acts : List Action}
    (permitted : Runs.EachStep step Permitted (initial isOnline) acts) :
    Runs.Always step Converged (initial isOnline) acts := by
  refine Runs.always_of_eachStep (J := Sound) (fun s sound => sound.converged) ?_ ?_ permitted
  · intro s a sound allowed
    have idle : ({ s with ended := none } : State).Idle := ⟨sound.good, rfl⟩
    refine sound_act idle ?_
    cases a <;> exact allowed
  · exact Idle.sound ⟨fun _ hf => absurd hf List.not_mem_nil, rfl⟩

end State

namespace Lunch

def burger : CartLineItem := ⟨"l1", "burger", "Burger", 899, 1, [], none, none⟩

def fries : CartLineItem := ⟨"l2", "fries", "Fries", 349, 2, [], none, none⟩

/-- The burger is added and flushed. -/
def first : List Action :=
  [.initialized true, .addItem burger, .debounce, .serve 0, .answer 0, .answer 0]

theorem first_converges : Runs.Always State.step State.Converged (State.initial true) first :=
  State.carts_converge true (by decide +kernel)

/-- The second flush adds the burger again. -/
def second : List Action :=
  [.addItem fries, .debounce, .serve 0, .answer 0, .serve 0, .answer 0, .answer 0]

theorem burger_twice : ¬ Runs.Always State.step State.Converged (State.initial true) (first ++ second) := by
  intro always
  have ended : (Runs.run State.step (State.initial true) (first ++ second)).ended = some ⟨true, true, false⟩ :=
    rfl
  have synced := (Runs.always_last always).flush _ ended rfl rfl
  exact absurd synced (by decide +kernel)

end Lunch

end Kiosk.CartSync
