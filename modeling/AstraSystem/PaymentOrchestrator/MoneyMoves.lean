import AstraSystem.PaymentOrchestrator.StateMachine

/-!
# Captures, settlements and refunds at the gateway

A call looks at the status, calls the gateway and only then compares and sets the status. Two calls
that both look first both call the gateway, and a refund settles again what is settled.
-/

namespace PaymentOrchestrator

/-- The methods of the gateway that move money. -/
inductive Method where
  | capture
  | settle
  deriving DecidableEq

def Op.method : Op → Method
  | .capturePayment => .capture
  | .refundPayment | .settlePayment => .settle

def GatewayCall.moves (method : Method) (paymentID : String) : GatewayCall → Bool
  | .capture id _ _ => method = .capture ∧ id = paymentID
  | .settle id _ _ => method = .settle ∧ id = paymentID
  | .authorize .. => false

section
variable (uuid : UUIDText) {Tid : Type*} [DecidableEq Tid]

/-- How often the gateway has moved the money of a payment. -/
def World.moves (w : World Tid) (method : Method) (id : UUID) : ℕ :=
  w.gateway.countP (GatewayCall.moves method (uuid.string id))

def MovedOnce (w : World Tid) : Prop := ∀ method id, w.moves uuid method id ≤ 1

/-- No call whose gateway call has succeeded returns an error and leaves the status as it was. -/
def Answered (w : World Tid) (a : Act Tid) : Prop :=
  ∀ t env op p err, a = .update t env → w.calls t = .moved op p →
    (respond uuid w a).2 = some (.error err) →
      ((step uuid w a).db.payments.find? p.paymentID).map Payment.status ≠
        (w.db.payments.find? p.paymentID).map Payment.status

/-- The steps of calls that capture, refund and settle, the gateway succeeding. -/
def Act.MovesMoney : Act Tid → Prop
  | .read .. | .move _ none | .update .. | .wait _ => True
  | _ => False

instance decidableMovesMoney : ∀ a : Act Tid, Decidable a.MovesMoney
  | .read .. | .move _ none | .update .. | .wait _ => .isTrue trivial
  | .move _ (some _) | .initiatePayment .. | .authorize .. | .create .. | .unlock .. | .webhook ..
  | .recheck .. => .isFalse id

/-- The payment that a call has read and is about to move. -/
def Phase.holds : Phase → Option (Op × Payment)
  | .loaded op p | .moved op p => some (op, p)
  | _ => none

/-- A call reads a payment that it may move only while no other call holds it, and a refund reads it
captured. An `UpdateStatus` behind the gateway commits. -/
def Undisturbed (w : World Tid) : Act Tid → Prop
  | .read t op paymentID fault => ∀ id p, uuid.parse paymentID = .ok id →
      w.db.payments.find? id = some p → op.accepts p.status = true → w.calls t = .idle →
        fault = none → (∀ t' op' p', (w.calls t').holds = some (op', p') → p'.paymentID ≠ id) ∧
          (op = .refundPayment → p.status = .captured)
  | .update t env => ∀ op p, w.calls t = .moved op p → env.outcome.applies = true
  | _ => True

/-! ## What the steps do -/

variable {uuid} {w : World Tid}

theorem step_move (uuid : UUIDText) (w : World Tid) (t : Tid) :
    step uuid w (.move t none) = w ∨ ∃ op p, w.calls t = .loaded op p ∧
      step uuid w (.move t none) =
        (w.receive (.ofOp op (uuid.string p.paymentID) p.verifoneToken true)).goto t (.moved op p) := by
  simp only [step, respond]
  split
  · rename_i op p loaded
    exact .inr ⟨op, p, loaded, rfl⟩
  · exact .inl rfl

/-- An operation has an event, so its update is refused for the status only. -/
theorem step_update_moved {t : Tid} {env : Env} {op : Op} {p : Payment} (moved : w.calls t = .moved op p)
    (found : w.db.payments.find? p.paymentID = some p) (accepts : op.accepts p.status = true)
    (applies : env.outcome.applies = true) :
    ∃ payload, step uuid w (.update t env) =
      { w with db := w.db.updated uuid env p op.target p.verifoneToken op.declineReason payload }.goto
        t .idle := by
  have status : p.status = op.source p := by
    cases op with
    | capturePayment | settlePayment => exact of_decide_eq_true accepts
    | refundPayment => rfl
  obtain ⟨payload, envelope⟩ : ∃ payload, statusEnvelope uuid p op.target op.declineReason = .ok payload := by
    cases op <;> exact ⟨_, rfl⟩
  have new : (updateStatus uuid w.db env p.paymentID (op.source p) op.target p.verifoneToken
      op.declineReason).1 = w.db.updated uuid env p op.target p.verifoneToken op.declineReason payload := by
    rw [← status]
    exact updateStatus_applies found envelope applies
  refine ⟨payload, ?_⟩
  simp only [step, respond, moved, update, ← new]
  split <;> rename_i h <;> rw [h]

/-! ## Calls that hold a payment -/

/-- The statuses in which the gateway has not yet been called. -/
def Method.waits : Method → PaymentStatus → Bool
  | .capture, s => s = .authorizing
  | .settle, s => s = .authorizing ∨ s = .captured

theorem waits_of_accepts {op : Op} {s : PaymentStatus} (accepts : op.accepts s = true)
    (captured : op = .refundPayment → s = .captured) : op.method.waits s = true := by
  cases op with
  | capturePayment => exact accepts
  | refundPayment => simp [captured rfl, Op.method, Method.waits]
  | settlePayment =>
    have : s = .captured := of_decide_eq_true accepts
    simp [this, Op.method, Method.waits]

/-- A payment that has been moved waits for the other method only, for which it waited before. -/
theorem waits_target {op : Op} {method : Method} {s : PaymentStatus} (accepts : op.accepts s = true)
    (waits : method.waits op.target = true) : op.method ≠ method ∧ method.waits s = true := by
  cases op <;> cases method <;> simp_all [Op.target, Op.method, Op.accepts, Method.waits]

/-- What holds as long as calls do not disturb each other. -/
structure Orderly (uuid : UUIDText) (w : World Tid) : Prop where
  calls : ∀ t, w.calls t = .idle ∨ ∃ op p, (w.calls t).holds = some (op, p)
  holds : ∀ t op p, (w.calls t).holds = some (op, p) → w.db.payments.find? p.paymentID = some p ∧
    op.accepts p.status = true ∧ (op = .refundPayment → p.status = .captured)
  exclusive : ∀ t t' op op' p p', (w.calls t).holds = some (op, p) →
    (w.calls t').holds = some (op', p') → p.paymentID = p'.paymentID → t = t'
  once : MovedOnce uuid w
  /-- Only a call behind the gateway has had it move a payment that waits for it. -/
  waits : ∀ method p, w.db.payments.find? p.paymentID = some p → method.waits p.status = true →
    (∀ t op q, w.calls t = .moved op q → q.paymentID = p.paymentID → op.method ≠ method) →
      w.moves uuid method p.paymentID = 0

theorem orderly_read (h : Orderly uuid w) {t : Tid} {op : Op} {p : Payment} (idle : w.calls t = .idle)
    (found : w.db.payments.find? p.paymentID = some p) (accepts : op.accepts p.status = true)
    (captured : op = .refundPayment → p.status = .captured)
    (apart : ∀ t' op' p', (w.calls t').holds = some (op', p') → p'.paymentID ≠ p.paymentID) :
    Orderly uuid (w.goto t (.loaded op p)) where
  calls t' := by
    by_cases own : t' = t
    · rw [own, calls_goto]
      exact .inr ⟨op, p, rfl⟩
    · rw [calls_goto_of_ne _ own]
      exact h.calls t'
  holds t' op' p' held := by
    by_cases own : t' = t
    · rw [own, calls_goto] at held
      cases held
      exact ⟨found, accepts, captured⟩
    · rw [calls_goto_of_ne _ own] at held
      exact h.holds t' op' p' held
  exclusive t₁ t₂ op₁ op₂ p₁ p₂ held₁ held₂ same := by
    by_cases own₁ : t₁ = t <;> by_cases own₂ : t₂ = t
    · rw [own₁, own₂]
    · rw [own₁, calls_goto] at held₁
      rw [calls_goto_of_ne _ own₂] at held₂
      cases held₁
      exact absurd same.symm (apart t₂ op₂ p₂ held₂)
    · rw [own₂, calls_goto] at held₂
      rw [calls_goto_of_ne _ own₁] at held₁
      cases held₂
      exact absurd same (apart t₁ op₁ p₁ held₁)
    · rw [calls_goto_of_ne _ own₁] at held₁
      rw [calls_goto_of_ne _ own₂] at held₂
      exact h.exclusive t₁ t₂ op₁ op₂ p₁ p₂ held₁ held₂ same
  once := h.once
  waits method q stored waits others := by
    refine h.waits method q stored waits fun t' op' r moved own => ?_
    by_cases this : t' = t
    · rw [this, idle] at moved
      cases moved
    · exact others t' op' r (by rwa [calls_goto_of_ne _ this]) own

omit [DecidableEq Tid] in
theorem moves_receive (laws : uuid.Lawful) (op : Op) (p : Payment) (method : Method) (id : UUID) :
    (w.receive (.ofOp op (uuid.string p.paymentID) p.verifoneToken true)).moves uuid method id =
      w.moves uuid method id + if op.method = method ∧ p.paymentID = id then 1 else 0 := by
  have moves : (GatewayCall.ofOp op (uuid.string p.paymentID) p.verifoneToken true).moves method
      (uuid.string id) = decide (op.method = method ∧ p.paymentID = id) := by
    cases op <;> simp [GatewayCall.ofOp, GatewayCall.moves, Op.method, laws.string_injective.eq_iff, eq_comm]
  simp only [World.moves, World.receive, List.countP_append, List.countP_singleton, moves, decide_eq_true_eq]

theorem orderly_move (laws : uuid.Lawful) (h : Orderly uuid w) {t : Tid} {op : Op} {p : Payment}
    (loaded : w.calls t = .loaded op p) :
    Orderly uuid ((w.receive (.ofOp op (uuid.string p.paymentID) p.verifoneToken true)).goto t
      (.moved op p)) := by
  have held : (w.calls t).holds = some (op, p) := by rw [loaded]; rfl
  obtain ⟨found, accepts, captured⟩ := h.holds t op p held
  -- The step changes how far the call is, not what it holds.
  have same (t' : Tid) : (((w.receive (.ofOp op (uuid.string p.paymentID) p.verifoneToken true)).goto t
      (.moved op p)).calls t').holds = (w.calls t').holds := by
    by_cases own : t' = t
    · rw [own, calls_goto, held]
      rfl
    · rw [calls_goto_of_ne _ own]
      rfl
  have unmoved : w.moves uuid op.method p.paymentID = 0 := by
    refine h.waits op.method p found (waits_of_accepts accepts captured) fun t' op' q moved own => ?_
    have : t' = t := h.exclusive t' t op' op q p (by rw [moved]; rfl) held own
    rw [this, loaded] at moved
    cases moved
  refine ⟨fun t' => ?_, fun t' op' q => ?_, fun t₁ t₂ op₁ op₂ p₁ p₂ => ?_, fun method id => ?_,
    fun method q stored waits others => ?_⟩
  · by_cases own : t' = t
    · rw [own, calls_goto]
      exact .inr ⟨op, p, rfl⟩
    · rw [calls_goto_of_ne _ own]
      exact h.calls t'
  · rw [same]
    exact h.holds t' op' q
  · rw [same, same]
    exact h.exclusive t₁ t₂ op₁ op₂ p₁ p₂
  · have once := h.once method id
    change (w.receive _).moves uuid method id ≤ 1
    rw [moves_receive laws]
    split
    · rename_i this
      rw [← this.1, ← this.2, unmoved]
    · exact once
  · change (w.receive _).moves uuid method q.paymentID = 0
    rw [moves_receive laws, if_neg, h.waits method q stored waits]
    · intro t' op' r moved own
      by_cases this : t' = t
      · rw [this, loaded] at moved
        cases moved
      · exact others t' op' r (by rw [calls_goto_of_ne _ this]; exact moved) own
    · rintro ⟨own, same⟩
      exact others t op p (calls_goto t _) same own

theorem orderly_update (h : Orderly uuid w) {t : Tid} {op : Op} {p p' : Payment} {db : DB}
    (moved : w.calls t = .moved op p) (status : p'.status = op.target)
    (stored : ∀ id, db.payments.find? id =
      if id = p.paymentID then some p' else w.db.payments.find? id) :
    Orderly uuid ({ w with db }.goto t .idle) := by
  have held : (w.calls t).holds = some (op, p) := by rw [moved]; rfl
  obtain ⟨found, accepts, -⟩ := h.holds t op p held
  have others {t' : Tid} {op' : Op} {q : Payment}
      (held' : (({ w with db }.goto t .idle).calls t').holds = some (op', q)) : t' ≠ t ∧ (w.calls t').holds = some (op', q) := by
    by_cases own : t' = t
    · rw [own, calls_goto] at held'
      cases held'
    · rw [calls_goto_of_ne _ own] at held'
      exact ⟨own, held'⟩
  refine ⟨fun t' => ?_, fun t' op' q held' => ?_, fun t₁ t₂ op₁ op₂ p₁ p₂ held₁ held₂ => ?_, h.once,
    fun method q stored' waits unmoved => ?_⟩
  · by_cases own : t' = t
    · rw [own, calls_goto]
      exact .inl rfl
    · rw [calls_goto_of_ne _ own]
      exact h.calls t'
  · obtain ⟨apart, held'⟩ := others held'
    have : q.paymentID ≠ p.paymentID := fun same =>
      apart (h.exclusive t' t op' op q p held' held same)
    obtain ⟨found', rest⟩ := h.holds t' op' q held'
    refine ⟨?_, rest⟩
    rw [World.goto_db, stored, if_neg this]
    exact found'
  · exact h.exclusive t₁ t₂ op₁ op₂ p₁ p₂ (others held₁).2 (others held₂).2
  · change w.moves uuid method q.paymentID = 0
    rw [World.goto_db, stored] at stored'
    split at stored'
    · rename_i own
      cases stored'
      rw [status] at waits
      obtain ⟨apart, waited⟩ := waits_target accepts waits
      rw [own]
      refine h.waits method p found waited fun t' op' r moved' own' => ?_
      have : t' = t := h.exclusive t' t op' op r p (by rw [moved']; rfl) held own'
      rw [this, moved] at moved'
      cases moved'
      exact apart
    · rename_i other
      refine h.waits method q stored' waits fun t' op' r moved' own => ?_
      by_cases this : t' = t
      · rw [this, moved] at moved'
        cases moved'
        exact absurd own.symm other
      · exact unmoved t' op' r (by rwa [calls_goto_of_ne _ this]) own

theorem orderly_step (laws : uuid.Lawful) (h : Orderly uuid w) (a : Act Tid) (moves : a.MovesMoney)
    (guard : Undisturbed uuid w a) : Orderly uuid (step uuid w a) := by
  cases a with
  | read t op paymentID fault =>
    rcases step_read uuid w t op paymentID fault with
      same | ⟨id, p, parsed, found, accepts, idle, healthy, new⟩
    · rwa [same]
    · obtain ⟨apart, captured⟩ := guard id p parsed found accepts idle healthy
      obtain rfl : p.paymentID = id := (Table.find?_eq_some.mp found).2
      rw [new]
      exact orderly_read h idle found accepts captured apart
  | move t fault =>
    cases fault with
    | some err => exact moves.elim
    | none =>
      rcases step_move uuid w t with same | ⟨op, p, loaded, new⟩
      · rwa [same]
      · rw [new]
        exact orderly_move laws h loaded
  | update t env =>
    rcases h.calls t with idle | ⟨op, p, held⟩
    · have same : step uuid w (.update t env) = w := by simp only [step, respond, idle]
      rwa [same]
    · obtain ⟨found, accepts, -⟩ := h.holds t op p held
      cases phase : w.calls t with
      | loaded =>
        have same : step uuid w (.update t env) = w := by simp only [step, respond, phase]
        rwa [same]
      | moved =>
        rw [phase] at held
        cases held
        obtain ⟨payload, new⟩ := step_update_moved phase found accepts (guard op p phase)
        rw [new]
        exact orderly_update h phase rfl fun id => find?_updated found id
      | idle | locked | authorized | finishing | notified | rechecked =>
        rw [phase] at held
        cases held
  | wait ms => exact ⟨h.calls, h.holds, h.exclusive, h.once, h.waits⟩
  | initiatePayment | authorize | create | unlock | webhook | recheck => exact moves.elim

theorem target_ne {op : Op} {s : PaymentStatus} (accepts : op.accepts s = true) : op.target ≠ s := by
  rintro rfl
  cases op <;> cases accepts

theorem answered_step (h : Orderly uuid w) (a : Act Tid) (guard : Undisturbed uuid w a) :
    Answered uuid w a := by
  rintro t env op p - rfl moved -
  obtain ⟨found, accepts, -⟩ := h.holds t op p (by rw [moved]; rfl)
  obtain ⟨payload, new⟩ := step_update_moved moved found accepts (guard op p moved)
  have stored : (step uuid w (.update t env)).db.payments.find? p.paymentID =
      some (p.withStatus op.target p.verifoneToken op.declineReason env.now) := by
    rw [new, World.goto_db]
    exact (find?_updated found _).trans (if_pos rfl)
  rw [stored, found]
  exact fun same => target_ne accepts (Option.some.inj same)

omit [DecidableEq Tid] in
theorem orderly_start (db : DB) : Orderly uuid ({ db } : World Tid) where
  calls _ := .inl rfl
  holds _ _ _ held := by cases held
  exclusive _ _ _ _ _ _ held := by cases held
  once _ _ := Nat.zero_le 1
  waits _ _ _ _ _ := rfl

theorem money_moves_once (laws : uuid.Lawful) {db : DB} {acts : List (Act Tid)}
    (moves : ∀ a ∈ acts, a.MovesMoney)
    (guards : Runs.EachStep (step uuid) (Undisturbed uuid) { db } acts) :
    Runs.Always (step uuid) (MovedOnce uuid) { db } acts ∧
      Runs.EachStep (step uuid) (Answered uuid) { db } acts := by
  have guards := Runs.eachStep_and (Runs.eachStep_of_forall fun a ha _ => moves a ha) guards
  have kept (w : World Tid) (a : Act Tid) (h : Orderly uuid w)
      (g : a.MovesMoney ∧ Undisturbed uuid w a) : Orderly uuid (step uuid w a) :=
    orderly_step laws h a g.1 g.2
  have answered (w : World Tid) (a : Act Tid) (h : Orderly uuid w)
      (g : a.MovesMoney ∧ Undisturbed uuid w a) : Answered uuid w a := answered_step h a g.2
  exact ⟨Runs.always_of_eachStep (fun _ h => h.once) kept (orderly_start db) guards,
    Runs.eachStep_of_eachStep answered kept (orderly_start db) guards⟩

end

/-! ## Two calls at once -/

namespace Till

/-- An authorised payment. -/
def sale : Payment where
  paymentID := 1
  orderID := 2
  kioskID := 3
  idempotencyKey := 4
  amountCents := 1000
  currency := "USD"
  method := .creditDebit
  status := .authorizing
  verifoneToken := "tok-1"
  createdAt := 0
  updatedAt := 0

def authorized : DB := DB.insertPayment {} sale

def steps (t : Bool) (op : Op) (eventID : UUID) : List (Act Bool) :=
  [.read t op (text 1) none, .move t none, .update t (env eventID)]

/-- One client captures the payment, and then the other settles it. -/
theorem money_moves_once_in_turn :
    Runs.Always (step till) (MovedOnce till) { db := authorized }
        (steps false .capturePayment 11 ++ steps true .settlePayment 12) ∧
      Runs.EachStep (step till) (Answered till) { db := authorized }
        (steps false .capturePayment 11 ++ steps true .settlePayment 12) := by
  refine money_moves_once lawful_till (by decide) ⟨?_, trivial, ?_, ?_, trivial, ?_, trivial⟩
  · exact fun id p _ _ _ _ _ => ⟨fun _ _ _ held => (by cases held), by simp⟩
  · exact fun _ _ _ => rfl
  · exact fun id p _ _ _ _ _ => ⟨fun t _ _ held => (by cases t <;> cases held), by simp⟩
  · exact fun _ _ _ => rfl

/-- Both clients read the payment before either captures it. -/
theorem captured_twice : ¬ ∀ (uuid : UUIDText) (db : DB) (acts : List (Act Bool)), uuid.Lawful →
    (∀ a ∈ acts, a.MovesMoney) → Runs.Always (step uuid) (MovedOnce uuid) { db } acts ∧
      Runs.EachStep (step uuid) (Answered uuid) { db } acts := by
  intro claim
  have once := Runs.always_last (claim till authorized
    [.read false .capturePayment (text 1) none, .read true .capturePayment (text 1) none,
      .move false none, .move true none] lawful_till (by decide)).1 .capture 1
  revert once
  decide +kernel

end Till

end PaymentOrchestrator
