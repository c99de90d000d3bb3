import AstraSystem.PaymentOrchestrator.Service

/-!
# Stored statuses follow the state machine

A status changes along `validTransitions`, except that a refund also takes a settled payment to
FAILED. A notification changes no payment that is settled or failed.
-/

namespace PaymentOrchestrator

/-! ## What a call has checked -/

/-- What a call knows of the payment it holds. -/
def Phase.Sound : Phase → Prop
  | .locked p => p.status = .pending
  | .authorized p answer => p.status = .failed ∧ approves answer = false ∨
      p.status = .authorizing ∧ ∃ resp, answer = .ok resp ∧ resp.approves = true ∧
        p.verifoneToken = resp.verifoneToken
  | .loaded op p | .moved op p => op.accepts p.status = true
  | .rechecked p _ _ => p.status.isTerminal = false
  | .idle | .finishing .. | .notified .. => True

section
variable {uuid : UUIDText} {Tid : Type*} [DecidableEq Tid] {w : World Tid}

theorem status_payment {req : PaymentIntent} {now : Time} {p : Payment}
    (h : req.payment uuid now = .ok p) : p.status = .pending := by
  unfold PaymentIntent.payment at h
  split at h
  · cases h
  · obtain ⟨paymentID, -, h⟩ := Statement.bind_eq_ok.mp h
    obtain ⟨orderID, -, h⟩ := Statement.bind_eq_ok.mp h
    obtain ⟨kioskID, -, h⟩ := Statement.bind_eq_ok.mp h
    obtain ⟨key, -, h⟩ := Statement.bind_eq_ok.mp h
    cases h
    rfl

/-- A pending payment is authorizing if the gateway approved it, and has failed if not. -/
theorem answered_pending {p p' : Payment} {answer : Except String AuthorizeResponse} {now : Time}
    (pending : p.status = .pending) (h : p.answered answer now = .ok p') :
    (Phase.authorized p' answer).Sound := by
  cases answer with
  | error err =>
    have failed : p.transition .failed now = .ok { p with status := .failed, updatedAt := now } := by
      simp [Payment.transition, pending, validTransitions]
    simp only [Payment.answered, failed] at h
    cases h
    exact .inl ⟨rfl, rfl⟩
  | ok resp =>
    simp only [Payment.answered] at h
    split at h
    · rename_i approves
      obtain ⟨-, rfl⟩ := Payment.transition_eq_ok h
      exact .inr ⟨rfl, resp, rfl, approves, rfl⟩
    · rename_i refused
      obtain ⟨-, rfl⟩ := Payment.transition_eq_ok h
      exact .inl ⟨rfl, Bool.eq_false_iff.mpr refused⟩

theorem sound_goto (h : ∀ t, (w.calls t).Sound) {t : Tid} {phase : Phase} (sound : phase.Sound) :
    ∀ t', ((w.goto t phase).calls t').Sound := by
  intro t'
  by_cases ht : t' = t
  · simpa only [World.goto, ht, ↓reduceIte] using sound
  · simpa only [World.goto, ht, ↓reduceIte] using h t'

theorem sound_step (h : ∀ t, (w.calls t).Sound) (a : Act Tid) :
    ∀ t, ((step uuid w a).calls t).Sound := by
  have idle (w' : World Tid) (same : w'.calls = w.calls) {t : Tid} {phase : Phase}
      (sound : phase.Sound) : ∀ t', ((w'.goto t phase).calls t').Sound :=
    sound_goto (fun t => same ▸ h t) sound
  cases a with
  | initiatePayment t req redis now =>
    have same (key : UUID) : (lock w key).calls = w.calls := by
      unfold lock
      split <;> rfl
    simp only [step, respond]
    split
    · unfold initiatePayment
      split
      · exact h
      · rename_i p draft
        split
        · exact h
        · exact fun t => same p.idempotencyKey ▸ h t
        · split
          · exact idle _ (same _) (status_payment draft)
          · exact h
    · exact h
  | authorize t answer now =>
    simp only [step, respond]
    split
    · rename_i p phase
      have pending : p.status = .pending := by
        have := h t
        rwa [phase] at this
      split
      · exact idle _ rfl trivial
      · rename_i p' answered
        exact idle _ rfl (answered_pending pending answered)
    · exact h
  | create t env =>
    simp only [step, respond]
    split
    · split <;> exact idle _ rfl trivial
    · exact h
  | unlock t redis =>
    simp only [step, respond]
    split
    · split <;> exact idle _ rfl trivial
    · exact h
  | read t op paymentID fault =>
    simp only [step, respond]
    split
    · unfold read
      repeat' split
      all_goals first
        | exact h
        | exact idle _ rfl ‹_›
    · exact h
  | move t fault =>
    simp only [step, respond]
    split
    · rename_i op p phase
      have accepted : op.accepts p.status = true := by
        have := h t
        rwa [phase] at this
      split
      · exact idle _ rfl trivial
      · exact idle _ rfl accepted
    · exact h
  | webhook t n fault =>
    simp only [step, respond]
    split
    · unfold webhook
      repeat' split
      all_goals first
        | exact h
        | exact idle _ rfl trivial
    · exact h
  | recheck t fault =>
    simp only [step, respond]
    split
    · unfold recheck
      repeat' split
      all_goals first
        | exact idle _ rfl trivial
        | exact idle _ rfl (Bool.eq_false_iff.mpr ‹_›)
    · exact h
  | update t env =>
    simp only [step, respond]
    split
    · unfold update
      split <;> exact idle _ rfl trivial
    · unfold update
      split <;> exact idle _ rfl trivial
    · exact h
  | wait ms => exact h

end

/-! ## Changes of a status -/

variable {Tid : Type*} [DecidableEq Tid]

/-- A step changes statuses by valid transitions, by a refund of a settled payment, or by a
notification about a payment that is not closed. -/
def Respects (uuid : UUIDText) (w : World Tid) (a : Act Tid) : Prop :=
  ∀ id p p', w.db.payments.find? id = some p → (step uuid w a).db.payments.find? id = some p' →
    p'.status ≠ p.status → p'.status ∈ validTransitions p.status ∨
      (p.status = .settled ∧ p'.status = .failed ∧
        ∃ t env r, a = .update t env ∧ w.calls t = .moved .refundPayment r) ∨
      (p.status.isTerminal = false ∧
        ∃ t env r target declineReason, a = .update t env ∧
          w.calls t = .rechecked r target declineReason)

theorem respects_step {uuid : UUIDText} {w : World Tid} (h : ∀ t, (w.calls t).Sound) (a : Act Tid) :
    Respects uuid w a := by
  intro id p p' before after changed
  rcases db_step uuid w a with same | ⟨t, env, new, answer, -, creates, db⟩ |
    ⟨t, env, r, target, declineReason, q, payload, rfl, updates, db⟩
  · rw [same, before] at after
    cases after
    exact absurd rfl changed
  · rw [db, find?_created creates.free] at after
    split at after
    · rename_i own
      rw [own, creates.free.id] at before
      cases before
    · rw [before] at after
      cases after
      exact absurd rfl changed
  · have own : q.paymentID = r.paymentID := (Table.find?_eq_some.mp updates.found).2
    rw [db, find?_updated (own ▸ updates.found)] at after
    split at after
    · rename_i this
      rw [this, own, updates.found] at before
      cases before
      cases after
      have sound := h t
      have writes := updates.phase
      cases phase : w.calls t with
      | moved op r' =>
        rw [phase] at sound writes
        obtain ⟨rfl, status, rfl, rfl⟩ : r' = r ∧ op.source r' = p.status ∧ op.target = target ∧
            op.declineReason = declineReason := by simpa [Phase.writes] using writes
        rw [← status]
        cases op with
        | capturePayment => exact .inl List.mem_cons_self
        | settlePayment => exact .inl List.mem_cons_self
        | refundPayment =>
          have accepted : r'.status = .captured ∨ r'.status = .settled := of_decide_eq_true sound
          rcases accepted with captured | settled
          · left
            rw [Op.source, captured]
            exact List.mem_cons_of_mem _ List.mem_cons_self
          · exact .inr (.inl ⟨settled, rfl, t, env, r', rfl, phase⟩)
      | rechecked r' target' declineReason' =>
        rw [phase] at sound writes
        obtain ⟨rfl, status, rfl, rfl⟩ : r' = r ∧ r'.status = p.status ∧ target' = target ∧
            declineReason' = declineReason := by simpa [Phase.writes] using writes
        exact .inr (.inr ⟨status ▸ sound, t, env, r', _, _, rfl, phase⟩)
      | idle | locked | authorized | finishing | loaded | notified =>
        rw [phase] at writes
        cases writes
    · rw [before] at after
      cases after
      exact absurd rfl changed

theorem status_changes (uuid : UUIDText) (db : DB) (acts : List (Act Tid)) :
    Runs.EachStep (step uuid) (Respects uuid) { db } acts := by
  have start : ∀ t, (({ db } : World Tid).calls t).Sound := fun _ => trivial
  have kept (w : World Tid) (a : Act Tid) (h : ∀ t, (w.calls t).Sound) (_ : True) :
      ∀ t, ((step uuid w a).calls t).Sound := sound_step h a
  have respects (w : World Tid) (a : Act Tid) (h : ∀ t, (w.calls t).Sound) (_ : True) :
      Respects uuid w a := respects_step h a
  exact Runs.eachStep_of_eachStep respects kept start (Runs.eachStep_of_forall fun _ _ _ => trivial)

/-! ## One payment -/

namespace Till

def texts : List (UUID × String) := [
  (1, "00000000-0000-0000-0000-000000000001"), (2, "00000000-0000-0000-0000-000000000002"),
  (3, "00000000-0000-0000-0000-000000000003"), (4, "00000000-0000-0000-0000-000000000004")]

def till : UUIDText := UUIDText.hyphenated.memo texts

theorem lawful_till : till.Lawful := by
  have same : till = .hyphenated := UUIDText.memo_eq UUIDText.lawful_hyphenated (by decide +kernel)
  exact same ▸ UUIDText.lawful_hyphenated

def text (u : UUID) : String := (texts.lookup u).getD ""

def intent (paymentID key : UUID) : PaymentIntent where
  paymentID := text paymentID
  orderID := text 2
  kioskID := text 3
  idempotencyKey := text key
  amountCents := 1000
  currency := "USD"
  method := .creditDebit

def env (eventID : UUID) : Env where
  now := 0
  eventID
  timestamp := 0
  occurredAtMs := 0

def approved (token : String) : Except String AuthorizeResponse :=
  .ok { status := "APPROVED", verifoneToken := token }

/-- A call of `InitiatePayment` from its lock to its return. -/
def initiate (paymentID key eventID : UUID) (token : String) : List (Act Unit) :=
  [.initiatePayment () (intent paymentID key) .committed 0, .authorize () (approved token) 0,
    .create () (env eventID), .unlock () .committed]

/-- A call of one of the other methods. -/
def call (op : Op) (paymentID eventID : UUID) : List (Act Unit) :=
  [.read () op (text paymentID) none, .move () none, .update () (env eventID)]

def settled : List (Act Unit) :=
  initiate 1 4 11 "tok-1" ++ call .capturePayment 1 12 ++ call .settlePayment 1 13

/-- A settled payment is refunded. -/
theorem refund_leaves_settled : ¬ ∀ (uuid : UUIDText) (db : DB) (acts : List (Act Unit)),
    Runs.EachStep (step uuid) (fun w a => ∀ id p p', w.db.payments.find? id = some p →
      (step uuid w a).db.payments.find? id = some p' → p'.status ≠ p.status →
        p'.status ∈ validTransitions p.status) { db } acts := by
  intro claim
  let asked : List (Act Unit) := [.read () .refundPayment (text 1) none, .move () none]
  have last := Runs.eachStep_last (claim till {} (settled ++ asked ++ [.update () (env 14)])) 1
  have before : ((Runs.run (step till) {} (settled ++ asked)).db.payments.find? 1).map
      Payment.status = some .settled := by
    decide +kernel
  have after : ((step till (Runs.run (step till) {} (settled ++ asked))
      (.update () (env 14))).db.payments.find? 1).map Payment.status = some .failed := by
    decide +kernel
  obtain ⟨p, hp, status⟩ := Option.map_eq_some_iff.mp before
  obtain ⟨p', hp', status'⟩ := Option.map_eq_some_iff.mp after
  have valid := last p p' hp hp' (by rw [status, status']; decide)
  rw [status, status'] at valid
  exact absurd valid (by decide)

end Till

end PaymentOrchestrator
