import Mathlib.Data.List.DropRight
import AstraSystem.PaymentOrchestrator.StateMachine

/-!
# Authorisations of an idempotency key

The lock of a key keeps other calls out while one is in flight, and no longer: it is released or
it expires, and a payment that is stored for the key is looked at only after the gateway.
-/

namespace PaymentOrchestrator

/-! ## Authorisations and keys -/

/-- Whether the gateway has approved, when the call was for the key. -/
def GatewayCall.answer (key : UUID) : GatewayCall → Option Bool
  | .authorize key' _ _ approved => if key' = key then some approved else none
  | .capture .. | .settle .. => none

/-- The key of a call between its lock and its return. -/
def Phase.key : Phase → Option UUID
  | .locked p | .authorized p _ => some p.idempotencyKey
  | .finishing key _ => some key
  | .idle | .loaded .. | .moved .. | .notified .. | .rechecked .. => none

section
variable {Tid : Type*}

/-- The answers for a key, in the order of the calls. -/
def World.answers (w : World Tid) (key : UUID) : List Bool := w.gateway.filterMap (·.answer key)

/-- After an approval for a key the gateway is asked for it at most `n` times more. -/
def AskedAgain (n : ℕ) (w : World Tid) : Prop := ∀ key, true ∉ (w.answers key).rdrop (n + 1)

/-- A call about to report success reports the payment that is stored for its key. -/
def ReportsStored (uuid : UUIDText) (w : World Tid) : Prop :=
  ∀ t key r, w.calls t = .finishing key (.ok r) → ∃ p, w.db.ofKey key = some p ∧
    r.paymentID = uuid.string p.paymentID ∧ r.orderID = uuid.string p.orderID

/-- A call gets the lock of a key only while none has been approved for it, and takes over an
expired lock only while no other call with the key is in flight. -/
def OncePerKey (uuid : UUIDText) (w : World Tid) : Act Tid → Prop
  | .initiatePayment t req redis now => ∀ p, w.calls t = .idle → req.payment uuid now = .ok p →
      redis = .committed → w.free p.idempotencyKey = true → true ∉ w.answers p.idempotencyKey ∧
        ∀ expired ∈ w.locks p.idempotencyKey, ∀ t', (w.calls t').key ≠ some p.idempotencyKey
  | _ => True

end

/-! ## What a step does to the keys -/

section
variable {uuid : UUIDText} {Tid : Type*} [DecidableEq Tid] {w : World Tid}

/-- What a step does to the locks, to the calls that hold a key and to the authorisations. -/
inductive KeyStep (uuid : UUIDText) (w : World Tid) (a : Act Tid) : Prop where
  | other
      (calls : ∀ t, (step uuid w a).calls t = w.calls t ∨
        (w.calls t).key = none ∧ ((step uuid w a).calls t).key = none)
      (locks : (step uuid w a).locks = w.locks)
      (answers : ∀ key, (step uuid w a).answers key = w.answers key)
  | enters (t : Tid) (req : PaymentIntent) (now : Time) (p : Payment) (expires : ℕ)
      (act : a = .initiatePayment t req .committed now) (idle : w.calls t = .idle)
      (draft : req.payment uuid now = .ok p) (free : w.free p.idempotencyKey = true)
      (eq : step uuid w a = (w.setLock p.idempotencyKey (some expires)).goto t (.locked p))
  | lost (key : UUID) (expires : ℕ) (eq : step uuid w a = w.setLock key (some expires))
  | authorizes (t : Tid) (p : Payment) (answer : Except String AuthorizeResponse) (approved : Bool)
      (phase : Phase)
      (holds : w.calls t = .locked p) (key : phase.key = some p.idempotencyKey)
      (past : ∀ q, phase ≠ .locked q) (unreported : ∀ key r, phase ≠ .finishing key (.ok r))
      (eq : step uuid w a =
        (w.receive (.authorize p.idempotencyKey p.paymentID answer approved)).goto t phase)
  | creates (t : Tid) (env : Env) (p : Payment) (answer : Except String AuthorizeResponse) (reply : Reply)
      (holds : w.calls t = .authorized p answer)
      (reports : ∀ r, reply = .ok r → r = p.result uuid ∧ (create uuid w.db env p).2 = .ok ())
      (eq : step uuid w a =
        { w with db := (create uuid w.db env p).1 }.goto t (.finishing p.idempotencyKey reply))
  | returns (t : Tid) (key : UUID) (reply : Reply) (finishing : w.calls t = .finishing key reply)
      (eq : step uuid w a = (w.setLock key none).goto t .idle ∨ step uuid w a = w.goto t .idle)

theorem answered_key {p p' : Payment} {answer : Except String AuthorizeResponse} {now : Time}
    (h : p.answered answer now = .ok p') : p'.idempotencyKey = p.idempotencyKey := by
  cases answer with
  | error err =>
    simp only [Payment.answered, Payment.transition] at h
    split at h <;> cases h <;> rfl
  | ok resp =>
    simp only [Payment.answered] at h
    split at h <;> obtain ⟨-, rfl⟩ := Payment.transition_eq_ok h <;> rfl

theorem keyStep_same {a : Act Tid} (h : step uuid w a = w) : KeyStep uuid w a :=
  .other (fun _ => .inl (by rw [h])) (by rw [h]) fun _ => by rw [h]

theorem keyStep_goto {a : Act Tid} {w' : World Tid} {t : Tid} {phase : Phase}
    (h : step uuid w a = w'.goto t phase) (calls : w'.calls = w.calls) (locks : w'.locks = w.locks)
    (answers : ∀ key, w'.answers key = w.answers key) (holds : (w.calls t).key = none)
    (key : phase.key = none) : KeyStep uuid w a := by
  refine .other (fun t' => ?_) (by rw [h]; exact locks) fun key => by rw [h]; exact answers key
  rw [h]
  by_cases own : t' = t
  · rw [own, calls_goto]
    exact .inr ⟨holds, key⟩
  · rw [calls_goto_of_ne _ own, calls]
    exact .inl rfl

omit [DecidableEq Tid] in
theorem answers_receive (key : UUID) (op : Op) (paymentID verifoneToken : String) (succeeds : Bool) :
    (w.receive (.ofOp op paymentID verifoneToken succeeds)).answers key = w.answers key := by
  cases op <;> simp [World.answers, World.receive, GatewayCall.ofOp, GatewayCall.answer]

theorem keyStep_initiatePayment (uuid : UUIDText) (w : World Tid) (t : Tid) (req : PaymentIntent)
    (redis : Outcome) (now : Time) : KeyStep uuid w (.initiatePayment t req redis now) := by
  cases idle : w.calls t with
  | idle =>
    cases draft : req.payment uuid now with
    | error err => exact keyStep_same (by simp only [step, respond, idle, initiatePayment, draft])
    | ok p =>
      cases free : w.free p.idempotencyKey with
      | false =>
        refine keyStep_same ?_
        cases redis <;> simp [step, respond, idle, initiatePayment, draft, lock, free]
      | true =>
        cases redis with
        | committed =>
          refine .enters t req now p (w.clock + 30000) rfl idle draft free ?_
          simp [step, respond, idle, initiatePayment, draft, lock, free]
        | rolledBack err =>
          exact keyStep_same (by simp only [step, respond, idle, initiatePayment, draft])
        | lost err =>
          refine .lost p.idempotencyKey (w.clock + 30000) ?_
          simp [step, respond, idle, initiatePayment, draft, lock, free]
  | locked | authorized | finishing | loaded | moved | notified | rechecked =>
    exact keyStep_same (by simp only [step, respond, idle])

theorem keyStep_authorize (uuid : UUIDText) (w : World Tid) (t : Tid)
    (answer : Except String AuthorizeResponse) (now : Time) (unseen : Bool) :
    KeyStep uuid w (.authorize t answer now unseen) := by
  cases holds : w.calls t with
  | locked p =>
    cases answered : p.answered answer now with
    | error err =>
      refine .authorizes t p answer (hasApproved answer unseen)
        (.finishing p.idempotencyKey (.error (.internal, err.message))) holds rfl (fun _ h => by cases h)
        (fun _ _ h => by cases h) ?_
      simp only [step, respond, holds, answered]
    | ok p' =>
      refine .authorizes t p answer (hasApproved answer unseen) (.authorized p' answer) holds
        (congrArg some (answered_key answered)) (fun _ h => by cases h) (fun _ _ h => by cases h) ?_
      simp only [step, respond, holds, answered]
  | idle | authorized | finishing | loaded | moved | notified | rechecked =>
    exact keyStep_same (by simp only [step, respond, holds])

theorem keyStep_create (uuid : UUIDText) (w : World Tid) (t : Tid) (env : Env) :
    KeyStep uuid w (.create t env) := by
  cases holds : w.calls t with
  | authorized p answer =>
    cases h : create uuid w.db env p with
    | mk db result =>
      cases result with
      | error err =>
        refine .creates t env p answer (.error (createFailed answer err)) holds (fun _ h => by cases h) ?_
        simp only [step, respond, holds, h]
      | ok =>
        refine .creates t env p answer (.ok (p.result uuid)) holds
          (fun r same => ⟨(Except.ok.inj same).symm, by rw [h]⟩) ?_
        simp only [step, respond, holds, h]
  | idle | locked | finishing | loaded | moved | notified | rechecked =>
    exact keyStep_same (by simp only [step, respond, holds])

theorem keyStep_unlock (uuid : UUIDText) (w : World Tid) (t : Tid) (redis : Outcome) :
    KeyStep uuid w (.unlock t redis) := by
  cases holds : w.calls t with
  | finishing key reply =>
    refine .returns t key reply holds ?_
    cases applies : redis.applies with
    | true =>
      left
      simp [step, respond, holds, applies]
    | false =>
      right
      simp [step, respond, holds, applies]
  | idle | locked | authorized | loaded | moved | notified | rechecked =>
    exact keyStep_same (by simp only [step, respond, holds])

theorem keyStep_move (uuid : UUIDText) (w : World Tid) (t : Tid) (fault : Option String) :
    KeyStep uuid w (.move t fault) := by
  cases holds : w.calls t with
  | loaded op p =>
    have key : (w.calls t).key = none := by rw [holds]; rfl
    cases fault with
    | some err =>
      have eq : step uuid w (.move t (some err)) = (w.receive (.ofOp op (uuid.string p.paymentID)
          p.verifoneToken false)).goto t .idle := by
        simp only [step, respond, holds, Option.isNone_some]
      exact keyStep_goto eq rfl rfl (answers_receive · op _ _ _) key rfl
    | none =>
      have eq : step uuid w (.move t none) = (w.receive (.ofOp op (uuid.string p.paymentID)
          p.verifoneToken true)).goto t (.moved op p) := by
        simp only [step, respond, holds, Option.isNone_none]
      exact keyStep_goto eq rfl rfl (answers_receive · op _ _ _) key rfl
  | idle | locked | authorized | finishing | moved | notified | rechecked =>
    exact keyStep_same (by simp only [step, respond, holds])

theorem keyStep (uuid : UUIDText) (w : World Tid) (a : Act Tid) : KeyStep uuid w a := by
  cases a with
  | initiatePayment t req redis now => exact keyStep_initiatePayment uuid w t req redis now
  | authorize t answer now unseen => exact keyStep_authorize uuid w t answer now unseen
  | create t env => exact keyStep_create uuid w t env
  | unlock t redis => exact keyStep_unlock uuid w t redis
  | move t fault => exact keyStep_move uuid w t fault
  | wait ms => exact .other (fun _ => .inl rfl) rfl fun _ => rfl
  | read t op paymentID fault =>
    rcases step_read uuid w t op paymentID fault with same | ⟨_, p, -, -, -, idle, -, eq⟩
    · exact keyStep_same same
    · exact keyStep_goto eq rfl rfl (fun _ => rfl) (by rw [idle]; rfl) rfl
  | webhook t n fault =>
    rcases step_webhook uuid w t n fault with same | ⟨idle, _, _, _, eq⟩
    · exact keyStep_same same
    · exact keyStep_goto eq rfl rfl (fun _ => rfl) (by rw [idle]; rfl) rfl
  | recheck t fault =>
    rcases step_recheck uuid w t fault with same | ⟨⟨_, _, _, holds⟩, eq | ⟨_, _, _, eq⟩⟩
    · exact keyStep_same same
    · exact keyStep_goto eq rfl rfl (fun _ => rfl) (by rw [holds]; rfl) rfl
    · exact keyStep_goto eq rfl rfl (fun _ => rfl) (by rw [holds]; rfl) rfl
  | update t env =>
    rcases step_update uuid w t env with same | ⟨writes, db, eq⟩
    · exact keyStep_same same
    · have key : (w.calls t).key = none := by
        cases holds : w.calls t <;> rw [holds] at writes <;> first | rfl | cases writes
      exact keyStep_goto eq rfl rfl (fun _ => rfl) key rfl

/-! ## One call holds a key -/

/-- A call that holds a key has its lock, alone, and comes to the gateway before any approval. -/
structure Exclusive (w : World Tid) : Prop where
  locks : ∀ t key, (w.calls t).key = some key → w.locks key ≠ none
  unique : ∀ t t' key, (w.calls t).key = some key → (w.calls t').key = some key → t = t'
  unapproved : ∀ t p, w.calls t = .locked p → true ∉ w.answers p.idempotencyKey
  once : AskedAgain 0 w

omit [DecidableEq Tid] in
theorem locks_setLock (key key' : UUID) (expires : Option ℕ) :
    (w.setLock key expires).locks key' = if key' = key then expires else w.locks key' := rfl

omit [DecidableEq Tid] in
theorem answers_authorize (key key' paymentID : UUID) (answer : Except String AuthorizeResponse)
    (approved : Bool) : (w.receive (.authorize key' paymentID answer approved)).answers key =
      w.answers key ++ if key' = key then [approved] else [] := by
  simp only [World.answers, World.receive, List.filterMap_append, GatewayCall.answer]
  split
  · rename_i own
    simp [own]
  · rename_i other
    simp [other]

omit [DecidableEq Tid] in
/-- Nobody holds a key whose lock can be had without taking it over from a call in flight. -/
theorem not_holds_of_free (h : Exclusive w) {key : UUID}
    (vacant : ∀ expired ∈ w.locks key, ∀ t, (w.calls t).key ≠ some key) (t : Tid) :
    (w.calls t).key ≠ some key := by
  intro holds
  cases lock : w.locks key with
  | none => exact h.locks t key holds lock
  | some expired => exact vacant expired lock t holds

theorem exclusive_enters (h : Exclusive w) {t : Tid} {p : Payment} {expires : ℕ}
    (nobody : ∀ t', (w.calls t').key ≠ some p.idempotencyKey)
    (unapproved : true ∉ w.answers p.idempotencyKey) :
    Exclusive ((w.setLock p.idempotencyKey (some expires)).goto t (.locked p)) where
  locks t' key holds := by
    show (w.setLock _ _).locks key ≠ none
    rw [locks_setLock]
    split
    · exact nofun
    · rename_i other
      by_cases own : t' = t
      · rw [own, calls_goto] at holds
        exact absurd (Option.some.inj holds).symm other
      · rw [calls_goto_of_ne _ own] at holds
        exact h.locks t' key holds
  unique t₁ t₂ key holds₁ holds₂ := by
    by_cases own₁ : t₁ = t <;> by_cases own₂ : t₂ = t
    · rw [own₁, own₂]
    · rw [own₁, calls_goto] at holds₁
      rw [calls_goto_of_ne _ own₂] at holds₂
      cases holds₁
      exact absurd holds₂ (nobody t₂)
    · rw [own₂, calls_goto] at holds₂
      rw [calls_goto_of_ne _ own₁] at holds₁
      cases holds₂
      exact absurd holds₁ (nobody t₁)
    · rw [calls_goto_of_ne _ own₁] at holds₁
      rw [calls_goto_of_ne _ own₂] at holds₂
      exact h.unique t₁ t₂ key holds₁ holds₂
  unapproved t' q locked := by
    by_cases own : t' = t
    · rw [own, calls_goto] at locked
      cases locked
      exact unapproved
    · rw [calls_goto_of_ne _ own] at locked
      exact h.unapproved t' q locked
  once := h.once

theorem exclusive_authorizes (h : Exclusive w) {t : Tid} {p : Payment}
    {answer : Except String AuthorizeResponse} {approved : Bool} {phase : Phase}
    (locked : w.calls t = .locked p) (key : phase.key = some p.idempotencyKey)
    (past : ∀ q, phase ≠ .locked q) :
    Exclusive ((w.receive (.authorize p.idempotencyKey p.paymentID answer approved)).goto t phase) := by
  have held : (w.calls t).key = some p.idempotencyKey := by rw [locked]; rfl
  have keys (t' : Tid) : (((w.receive (.authorize p.idempotencyKey p.paymentID answer approved)).goto t
      phase).calls t').key = (w.calls t').key := by
    by_cases own : t' = t
    · rw [own, calls_goto, key, held]
    · rw [calls_goto_of_ne _ own]
      rfl
  refine ⟨fun t' key' holds => ?_, fun t₁ t₂ key' holds₁ holds₂ => ?_, fun t' q locked' => ?_, fun key' => ?_⟩
  · rw [keys] at holds
    exact h.locks t' key' holds
  · rw [keys] at holds₁ holds₂
    exact h.unique t₁ t₂ key' holds₁ holds₂
  · by_cases own : t' = t
    · rw [own, calls_goto] at locked'
      exact absurd locked' (past q)
    · rw [calls_goto_of_ne _ own] at locked'
      have locked' : w.calls t' = .locked q := locked'
      have other : p.idempotencyKey ≠ q.idempotencyKey := fun same =>
        own (h.unique t' t _ (by rw [locked']; rfl) (same ▸ held))
      show true ∉ (w.receive _).answers _
      rw [answers_authorize, if_neg other, List.append_nil]
      exact h.unapproved t' q locked'
  · show true ∉ ((w.receive _).answers _).rdrop 1
    rw [answers_authorize]
    split
    · rename_i own
      rw [List.rdrop_concat_succ, List.rdrop_zero, ← own]
      exact h.unapproved t p locked
    · rw [List.append_nil]
      exact h.once key'

theorem exclusive_returns (h : Exclusive w) {t : Tid} {key : UUID} {w' : World Tid}
    (holds : (w.calls t).key = some key) (calls : w'.calls = w.calls) (gateway : w'.gateway = w.gateway)
    (locks : ∀ key', key' ≠ key → w'.locks key' = w.locks key') : Exclusive (w'.goto t .idle) := by
  have others {t' : Tid} {key' : UUID} (holds' : ((w'.goto t .idle).calls t').key = some key') :
      t' ≠ t ∧ (w.calls t').key = some key' := by
    by_cases own : t' = t
    · rw [own, calls_goto] at holds'
      cases holds'
    · rw [calls_goto_of_ne _ own, calls] at holds'
      exact ⟨own, holds'⟩
  have answers (key' : UUID) : (w'.goto t .idle).answers key' = w.answers key' :=
    congrArg (List.filterMap _) gateway
  refine ⟨fun t' key' holds' => ?_, fun t₁ t₂ key' holds₁ holds₂ => ?_, fun t' q locked => ?_, fun key' => ?_⟩
  · obtain ⟨own, holds'⟩ := others holds'
    have other : key' ≠ key := fun same => own (h.unique t' t key (same ▸ holds') holds)
    show w'.locks key' ≠ none
    rw [locks key' other]
    exact h.locks t' key' holds'
  · exact h.unique t₁ t₂ key' (others holds₁).2 (others holds₂).2
  · have holds' : ((w'.goto t .idle).calls t').key = some q.idempotencyKey := by rw [locked]; rfl
    have own := (others holds').1
    rw [calls_goto_of_ne _ own, calls] at locked
    rw [answers]
    exact h.unapproved t' q locked
  · rw [answers]
    exact h.once key'

omit [DecidableEq Tid] in
/-- Calls that keep their keys, and that come to the gateway no more than before. -/
theorem exclusive_keys (h : Exclusive w) {w' : World Tid}
    (keys : ∀ t, (w'.calls t).key = (w.calls t).key)
    (locked : ∀ t p, w'.calls t = .locked p → w.calls t = .locked p) (locks : w'.locks = w.locks)
    (answers : ∀ key, w'.answers key = w.answers key) : Exclusive w' where
  locks t key holds := by
    rw [locks]
    exact h.locks t key (keys t ▸ holds)
  unique t t' key holds holds' := h.unique t t' key (keys t ▸ holds) (keys t' ▸ holds')
  unapproved t p holds := by
    rw [answers]
    exact h.unapproved t p (locked t p holds)
  once key := by
    rw [answers]
    exact h.once key

theorem exclusive_step (h : Exclusive w) {a : Act Tid} (guard : OncePerKey uuid w a) :
    Exclusive (step uuid w a) := by
  cases keyStep uuid w a with
  | other calls locks answers =>
    refine exclusive_keys h (fun t => ?_) (fun t p locked => ?_) locks answers
    · rcases calls t with same | ⟨before, after⟩
      · rw [same]
      · rw [before, after]
    · rcases calls t with same | ⟨-, after⟩
      · rwa [← same]
      · rw [locked] at after
        cases after
  | creates t env p answer reply holds reports eq =>
    have others {t' : Tid} (own : t' ≠ t) : (step uuid w a).calls t' = w.calls t' := by
      rw [eq, calls_goto_of_ne _ own]
    refine exclusive_keys h (fun t' => ?_) (fun t' q locked => ?_) (by rw [eq]; rfl) fun key => by
      rw [eq]
      rfl
    · by_cases own : t' = t
      · rw [own, eq, calls_goto, holds]
        rfl
      · rw [others own]
    · by_cases own : t' = t
      · rw [own, eq, calls_goto] at locked
        cases locked
      · rwa [← others own]
  | enters t req now p expires act idle draft free eq =>
    subst act
    obtain ⟨unapproved, vacant⟩ := guard p idle draft rfl free
    rw [eq]
    exact exclusive_enters h (not_holds_of_free h vacant) unapproved
  | lost key expires eq =>
    rw [eq]
    refine ⟨fun t key' holds => ?_, h.unique, h.unapproved, h.once⟩
    rw [locks_setLock]
    split
    · exact nofun
    · exact h.locks t key' holds
  | authorizes t p answer approved phase locked key past unreported eq =>
    rw [eq]
    exact exclusive_authorizes h locked key past
  | returns t key reply finishing eq =>
    have holds : (w.calls t).key = some key := by rw [finishing]; rfl
    rcases eq with eq | eq <;> rw [eq]
    · exact exclusive_returns h holds rfl rfl fun key' other => if_neg other
    · exact exclusive_returns h holds rfl rfl fun _ _ => rfl

/-! ## What a call reports -/

section
variable {db : DB} {env : Env} {p q : Payment} {key : UUID}

theorem rows_created (free : db.Free p) :
    (db.created uuid env p).payments.rows = db.payments.rows ++ [p.row] := by
  have absent : db.payments.find? p.row.paymentID = none := free.id
  rw [DB.created, DB.insertOutbox_payments, DB.insertPayment, Table.rows_upsert_of_none absent]

theorem ofKey_created (free : db.Free p) (key : UUID) : (db.created uuid env p).ofKey key =
    (db.ofKey key).or (if p.idempotencyKey = key then some p.row else none) := by
  rw [DB.ofKey, rows_created free, List.find?_append]
  congr 1
  simp [Payment.row]

theorem ofKey_updated {target : PaymentStatus} {verifoneToken declineReason : String}
    {payload : Payload} (h : db.ofKey key = some q) :
    ∃ q', (db.updated uuid env p target verifoneToken declineReason payload).ofKey key = some q' ∧
      q'.paymentID = q.paymentID ∧ q'.orderID = q.orderID := by
  have keys (r : Payment) : (if r.paymentID = p.paymentID then
      r.withStatus target verifoneToken declineReason env.now else r).idempotencyKey = r.idempotencyKey := by
    split <;> rfl
  refine ⟨if q.paymentID = p.paymentID then q.withStatus target verifoneToken declineReason env.now
    else q, ?_, by split <;> rfl, by split <;> rfl⟩
  rw [DB.ofKey, DB.updated, DB.insertOutbox_payments, DB.setStatus]
  simp only [Table.update, List.find?_map, Function.comp_def, keys]
  exact congrArg (Option.map _) h

end

/-- The payment of a key stays that of the key. -/
theorem ofKey_step (uuid : UUIDText) (a : Act Tid) {key : UUID} {p : Payment}
    (h : w.db.ofKey key = some p) :
    ∃ p', (step uuid w a).db.ofKey key = some p' ∧ p'.paymentID = p.paymentID ∧
      p'.orderID = p.orderID := by
  rcases db_step uuid w a with same | ⟨t, env, q, answer, -, creates, new⟩ |
    ⟨t, env, q, target, declineReason, q', payload, -, -, new⟩
  · exact ⟨p, by rw [same, h], rfl, rfl⟩
  · exact ⟨p, by rw [new, ofKey_created creates.free, h]; rfl, rfl, rfl⟩
  · rw [new]
    exact ofKey_updated h

theorem reportsStored_step (h : ReportsStored uuid w) (a : Act Tid) :
    ReportsStored uuid (step uuid w a) := by
  -- A call that was about to report success before the step.
  have kept {t : Tid} {key : UUID} {r : PaymentResult} (finishing : w.calls t = .finishing key (.ok r)) :
      ∃ p, (step uuid w a).db.ofKey key = some p ∧ r.paymentID = uuid.string p.paymentID ∧
        r.orderID = uuid.string p.orderID := by
    obtain ⟨p, stored, paymentID, orderID⟩ := h t key r finishing
    obtain ⟨p', stored', samePayment, sameOrder⟩ := ofKey_step uuid a stored
    exact ⟨p', stored', samePayment ▸ paymentID, sameOrder ▸ orderID⟩
  intro t' key r finishing
  have kept_goto {w' : World Tid} {t : Tid} {phase : Phase} (eq : step uuid w a = w'.goto t phase)
      (calls : w'.calls = w.calls) (past : ∀ key r, phase ≠ .finishing key (.ok r)) :
      w.calls t' = .finishing key (.ok r) := by
    rw [eq] at finishing
    by_cases own : t' = t
    · rw [own, calls_goto] at finishing
      exact absurd finishing (past key r)
    · rwa [calls_goto_of_ne _ own, calls] at finishing
  cases keyStep uuid w a with
  | other calls =>
    rcases calls t' with same | ⟨-, after⟩
    · exact kept (same ▸ finishing)
    · rw [finishing] at after
      cases after
  | enters t req now p expires act idle draft free eq => exact kept (kept_goto eq rfl fun _ _ => nofun)
  | lost key' expires eq =>
    rw [eq] at finishing
    exact kept finishing
  | authorizes t p answer approved phase holds key' past unreported eq =>
    exact kept (kept_goto eq rfl unreported)
  | creates t env p answer reply holds reports eq =>
    by_cases own : t' = t
    · rw [eq, own, calls_goto] at finishing
      cases finishing
      obtain ⟨rfl, stored⟩ := reports r rfl
      rcases create_cases uuid w.db env p with ⟨-, ⟨err, failed⟩, -⟩ | ⟨free, -, new⟩
      · rw [failed] at stored
        cases stored
      · refine ⟨p.row, ?_, rfl, rfl⟩
        have absent : w.db.ofKey p.idempotencyKey = none := free.key
        rw [eq, World.goto_db, new, ofKey_created free, absent, if_pos rfl]
        rfl
    · rw [eq, calls_goto_of_ne _ own] at finishing
      exact kept finishing
  | returns t key' reply holds eq =>
    rcases eq with eq | eq <;> exact kept (kept_goto eq rfl fun _ _ => nofun)

/-! ## Runs -/

omit [DecidableEq Tid] in
theorem exclusive_start (db : DB) : Exclusive ({ db } : World Tid) where
  locks _ _ holds := by cases holds
  unique _ _ _ holds := by cases holds
  unapproved _ _ holds := by cases holds
  once _ := List.not_mem_nil

theorem authorized_once {db : DB} {acts : List (Act Tid)}
    (guards : Runs.EachStep (step uuid) (OncePerKey uuid) { db } acts) :
    Runs.Always (step uuid) (fun w => AskedAgain 0 w ∧ ReportsStored uuid w) { db } acts := by
  have kept (w : World Tid) (a : Act Tid) (h : Exclusive w ∧ ReportsStored uuid w)
      (guard : OncePerKey uuid w a) : Exclusive (step uuid w a) ∧ ReportsStored uuid (step uuid w a) :=
    ⟨exclusive_step h.1 guard, reportsStored_step h.2 a⟩
  have start : Exclusive ({ db } : World Tid) ∧ ReportsStored uuid ({ db } : World Tid) :=
    ⟨exclusive_start db, fun _ _ _ finishing => by cases finishing⟩
  exact Runs.always_of_eachStep (fun _ h => ⟨h.1.once, h.2⟩) kept start guards

/-! ## Approved authorisations -/

/-- A payment with the token of an authorisation is stored AUTHORIZING. -/
def Recorded (db : DB) (resp : AuthorizeResponse) : Prop :=
  ∃ p ∈ db.payments.rows, p.verifoneToken = resp.verifoneToken ∧ p.status = .authorizing

theorem sound_run (db : DB) (acts : List (Act Tid)) (t : Tid) :
    ((Runs.run (step uuid) { db } acts).calls t).Sound := by
  have kept (w : World Tid) (a : Act Tid) (h : ∀ t, (w.calls t).Sound) :
      ∀ t, ((step uuid w a).calls t).Sound := sound_step h a
  have start : ∀ t, (({ db } : World Tid).calls t).Sound := fun _ => trivial
  exact Runs.run_inv kept start acts t

theorem recorded_created {db : DB} {env : Env} {p : Payment} {resp : AuthorizeResponse}
    (free : db.Free p) (status : p.status = .authorizing) (token : p.verifoneToken = resp.verifoneToken) :
    Recorded (db.created uuid env p) resp := by
  refine ⟨p.row, ?_, token, status⟩
  rw [rows_created free]
  exact List.mem_append_right _ (List.mem_singleton_self _)

/-- What is left of a call whose authorisation was approved: its `Create` and its return. -/
def rest (t : Tid) (env : Env) (redis : Outcome) : List (Act Tid) := [.create t env, .unlock t redis]

theorem db_rest {t : Tid} {p : Payment} {answer : Except String AuthorizeResponse}
    (holds : w.calls t = .authorized p answer) (env : Env) (redis : Outcome) :
    (Runs.run (step uuid) w (rest t env redis)).db = (create uuid w.db env p).1 := by
  have created : (step uuid w (.create t env)).db = (create uuid w.db env p).1 := by
    simp only [step, respond, holds]
    split <;> rename_i h <;> exact (congrArg Prod.fst h).symm
  rw [rest, Runs.run_cons, Runs.run_cons, Runs.run_nil, ← created]
  rcases db_step uuid (step uuid w (.create t env)) (.unlock t redis) with same |
    ⟨_, _, _, _, other, -, -⟩ | ⟨_, _, _, _, _, _, _, other, -, -⟩
  · exact same
  · cases other
  · cases other

/-- When a call returns whose authorisation was approved, that is recorded if neither the key nor the
id of its payment was taken and the `Create` was committed, or if it was recorded before. -/
theorem recorded_iff {db : DB} {acts : List (Act Tid)} {t : Tid} {p : Payment} {resp : AuthorizeResponse}
    (holds : (Runs.run (step uuid) { db } acts).calls t = .authorized p (.ok resp))
    (approved : resp.approves = true) (env : Env) (redis : Outcome) :
    Recorded (Runs.run (step uuid) { db } (acts ++ rest t env redis)).db resp ↔
      ((Runs.run (step uuid) { db } acts).db.Free p ∧ env.outcome.applies = true) ∨
        Recorded (Runs.run (step uuid) { db } acts).db resp := by
  have sound : (Phase.authorized p (.ok resp)).Sound := holds ▸ sound_run db acts t
  obtain ⟨status, token⟩ : p.status = .authorizing ∧ p.verifoneToken = resp.verifoneToken := by
    rcases sound with ⟨-, refused⟩ | ⟨status, resp', same, -, token⟩
    · rw [approves, approved] at refused
      cases refused
    · cases same
      exact ⟨status, token⟩
  rw [Runs.run_append, db_rest holds]
  rcases create_cases uuid (Runs.run (step uuid) { db } acts).db env p with
    ⟨same, -, busy⟩ | ⟨free, applies, new⟩
  · rw [same]
    exact ⟨.inr, fun h => h.resolve_left busy⟩
  · rw [new]
    exact ⟨fun _ => .inl ⟨free, applies⟩, fun _ => recorded_created free status token⟩

end

/-! ## Retries -/

/-- The approval that a call holds and has not yet stored. -/
def Phase.approval : Phase → Option AuthorizeResponse
  | .authorized _ (.ok resp) => if resp.approves then some resp else none
  | _ => none

theorem approval_eq_some {phase : Phase} {resp : AuthorizeResponse} (h : phase.approval = some resp) :
    ∃ p, phase = .authorized p (.ok resp) ∧ resp.approves = true := by
  unfold Phase.approval at h
  split at h
  · rename_i p resp'
    obtain ⟨approves, same⟩ := Option.ite_none_right_eq_some.mp h
    cases same
    exact ⟨p, rfl, approves⟩
  · cases h

namespace Till

/-- A call up to the gateway's approval. -/
def ask (paymentID key : UUID) (token : String) : List (Act Unit) :=
  [.initiatePayment () (intent paymentID key) .committed 0, .authorize () (approved token) 0]

/-- A call that is declined and not stored, and another for the same key that is approved. -/
def again : List (Act Unit) :=
  [.initiatePayment () (intent 1 4) .committed 0, .authorize () (.ok { status := "DECLINED" }) 0,
    .create () { env 11 with outcome := .rolledBack "" }, .unlock () .committed] ++ initiate 1 4 12 "tok-1"

theorem authorized_once_again :
    Runs.Always (step till) (fun w => AskedAgain 0 w ∧ ReportsStored till w) {} again := by
  refine authorized_once ⟨?_, trivial, trivial, trivial, ?_, trivial, trivial, trivial, trivial⟩ <;>
    intro p _ draft _ _
  · exact ⟨List.not_mem_nil, fun _ expired => by cases expired⟩
  · have key : ((intent 1 4).payment till 0).toOption.map Payment.idempotencyKey = some 4 := by
      decide +kernel
    rw [draft] at key
    have key : p.idempotencyKey = 4 := Option.some.inj key
    rw [key]
    exact ⟨by decide +kernel, fun _ held => absurd (Option.isSome_of_mem held) (by decide +kernel)⟩

/-- A call is approved and stored, and the client asks twice more. -/
theorem authorized_thrice : ¬ ∀ (uuid : UUIDText) (db : DB) (acts : List (Act Unit)), uuid.Lawful →
    Runs.Always (step uuid) (fun w => AskedAgain 1 w ∧ ReportsStored uuid w) { db } acts := by
  intro claim
  have once := (Runs.always_last (claim till {}
    (initiate 1 4 11 "tok-1" ++ initiate 1 4 12 "tok-2" ++ initiate 1 4 13 "tok-3") lawful_till)).1 4
  revert once
  decide +kernel

theorem recorded_first :
    Recorded (Runs.run (step till) {} (ask 1 4 "tok-1" ++ rest () (env 11) .committed)).db
      { status := "APPROVED", verifoneToken := "tok-1" } := by
  have phase : ((Runs.run (step till) {} (ask 1 4 "tok-1")).calls ()).approval =
      some { status := "APPROVED", verifoneToken := "tok-1" } := by
    decide +kernel
  obtain ⟨p, holds, approves⟩ := approval_eq_some phase
  have empty : (Runs.run (step till) {} (ask 1 4 "tok-1")).db.payments.rows = [] := by decide +kernel
  exact (recorded_iff holds approves (env 11) .committed).mpr
    (.inl ⟨⟨by rw [DB.ofKey, empty]; rfl, by rw [Table.find?, empty]; rfl⟩, rfl⟩)

/-- A client asks again for a key whose payment is stored, and is given a second token. -/
theorem orphaned : ¬ ∀ (uuid : UUIDText) (db : DB) (acts : List (Act Unit)) (t : Unit) (p : Payment)
    (resp : AuthorizeResponse) (env : Env) (redis : Outcome), uuid.Lawful →
    (Runs.run (step uuid) { db } acts).calls t = .authorized p (.ok resp) → resp.approves = true →
      Recorded (Runs.run (step uuid) { db } (acts ++ rest t env redis)).db resp := by
  intro claim
  have phase : ((Runs.run (step till) {} (initiate 1 4 11 "tok-1" ++ ask 1 4 "tok-2")).calls
      ()).approval = some { status := "APPROVED", verifoneToken := "tok-2" } := by
    decide +kernel
  obtain ⟨p, holds, approves⟩ := approval_eq_some phase
  have recorded := claim till {} _ () p _ (env 12) .committed lawful_till holds approves
  revert recorded
  unfold Recorded
  decide +kernel

end Till

end PaymentOrchestrator
