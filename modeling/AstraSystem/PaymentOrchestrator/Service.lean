import AstraSystem.Lib.Runs
import AstraSystem.PaymentOrchestrator.Repository

/-!
# The payment service (`service/service.go`, `idempotency/idempotency.go`, `webhook/webhook.go`)

Calls of any number of clients and webhook deliveries interleave: Redis, the gateway and the
repository each take one step. What the gateway answers comes with the step.
-/

namespace PaymentOrchestrator

/-! ## Messages -/

inductive ProtoMethod where
  | creditDebit
  | nfcApplePay
  | nfcGooglePay
  | qrCode
  | cashRecycler
  | other (number : Int32)
  deriving DecidableEq, Repr

def mapMethod : ProtoMethod → PaymentMethod
  | .creditDebit => .creditDebit
  | .nfcApplePay => .nfcApplePay
  | .nfcGooglePay => .nfcGooglePay
  | .qrCode => .qrCode
  | .cashRecycler => .cashRecycler
  | .other _ => .unset

inductive ProtoStatus where
  | pending
  | authorized
  | captured
  | declined
  deriving DecidableEq, Repr

def mapStatus : PaymentStatus → ProtoStatus
  | .pending => .pending
  | .authorizing => .authorized
  | .captured => .captured
  | .settled => .authorized
  | .failed => .declined

def paymentStatusFromProto : ProtoStatus → PaymentStatus
  | .pending => .pending
  | .authorized => .authorizing
  | .captured => .captured
  | .declined => .failed

structure PaymentIntent where
  paymentID : String
  orderID : String
  kioskID : String
  idempotencyKey : String
  amountCents : Int64
  currency : String
  method : ProtoMethod
  isOfflineToken : Bool := false
  deriving DecidableEq, Repr

structure PaymentResult where
  paymentID : String
  orderID : String
  status : ProtoStatus
  authCode : String
  verifoneToken : String
  cardBrand : String
  cardLastFour : String
  declineReason : String
  receiptText : String
  processedAt : Time
  deriving DecidableEq, Repr

inductive Code where
  | invalidArgument
  | internal
  | alreadyExists
  | notFound
  | failedPrecondition
  | unavailable
  deriving DecidableEq, Repr

abbrev Reply := Except (Code × String) PaymentResult

structure AuthorizeResponse where
  status : String
  verifoneToken : String := ""
  authCode : String := ""
  declineReason : String := ""
  cardBrand : String := ""
  cardLastFour : String := ""
  receiptText : String := ""
  deriving DecidableEq, Repr

structure Notification where
  paymentID : String
  status : String
  declineReason : String := ""
  deriving DecidableEq, Repr

/-- `strings.ToUpper`, as far as a comparison with ASCII text can tell: the dotless i and the long s
are the only other letters whose upper case is ASCII. -/
def toUpper (s : String) : String := s.map fun c =>
  if c = Char.ofNat 0x131 then 'I' else if c = Char.ofNat 0x17F then 'S' else c.toUpper

/-- The webhook's `MapStatus`. -/
def mapNotified (status : String) : Option PaymentStatus :=
  if toUpper status = "CAPTURED" then some .captured
  else if toUpper status = "SETTLED" then some .settled
  else if toUpper status = "FAILED" ∨ toUpper status = "DECLINED" then some .failed
  else none

variable (uuid : UUIDText)

def Payment.result (p : Payment) : PaymentResult where
  paymentID := uuid.string p.paymentID
  orderID := uuid.string p.orderID
  status := mapStatus p.status
  authCode := p.verifoneAuthCode
  verifoneToken := p.verifoneToken
  cardBrand := p.cardBrand
  cardLastFour := p.cardLastFour
  declineReason := p.declineReason
  receiptText := p.receiptText
  processedAt := p.updatedAt

/-! ## InitiatePayment -/

/-- The checks before the lock, and the payment of the intent. -/
def PaymentIntent.payment (req : PaymentIntent) (now : Time) : Except (Code × String) Payment :=
  if req.paymentID = "" ∨ req.orderID = "" ∨ req.kioskID = "" ∨ req.amountCents ≤ 0 ∨
      req.currency = "" then .error (.invalidArgument, "missing required field")
  else do
    let paymentID ← (uuid.parse req.paymentID).mapError fun _ => (.invalidArgument, "invalid payment_id")
    let orderID ← (uuid.parse req.orderID).mapError fun _ => (.invalidArgument, "invalid order_id")
    let kioskID ← (uuid.parse req.kioskID).mapError fun _ => (.invalidArgument, "invalid kiosk_id")
    let idempotencyKey ← (uuid.parse req.idempotencyKey).mapError fun _ =>
      (.invalidArgument, "invalid idempotency_key")
    pure {
      paymentID, orderID, kioskID, idempotencyKey
      amountCents := req.amountCents
      currency := req.currency
      method := mapMethod req.method
      status := .pending
      isOfflineToken := req.isOfflineToken
      createdAt := now
      updatedAt := now }

def AuthorizeResponse.approves (resp : AuthorizeResponse) : Bool :=
  toUpper resp.status = "APPROVED" ∨ toUpper resp.status = "AUTHORIZED"

def approves : Except String AuthorizeResponse → Bool
  | .ok resp => resp.approves
  | .error _ => false

/-- Whether the gateway has approved, told or not. -/
def hasApproved (answer : Except String AuthorizeResponse) (unseen : Bool) : Bool :=
  match answer with
  | .ok resp => resp.approves
  | .error _ => unseen

/-- What the gateway's answer makes of a payment. -/
def Payment.answered (p : Payment) (answer : Except String AuthorizeResponse) (now : Time) :
    Except PaymentError Payment :=
  match answer with
  | .error err => .ok { (p.transition .failed now).toOption.getD p with declineReason := err }
  | .ok resp =>
    if resp.approves then
      { p with
        verifoneToken := resp.verifoneToken
        verifoneAuthCode := resp.authCode
        cardBrand := resp.cardBrand
        cardLastFour := resp.cardLastFour
        receiptText := resp.receiptText }.transition .authorizing now
    else { p with declineReason := resp.declineReason }.transition .failed now

/-- What a call returns when `Create` has failed. -/
def createFailed (answer : Except String AuthorizeResponse) (err : PaymentError) : Code × String :=
  match answer, err with
  | .ok _, .duplicateIdempotencyKey => (.alreadyExists, "duplicate idempotency key")
  | _, err => (.internal, err.message)

/-! ## CapturePayment, RefundPayment and SettlePayment -/

inductive Op where
  | capturePayment
  | refundPayment
  | settlePayment
  deriving DecidableEq, Repr

namespace Op

def accepts : Op → PaymentStatus → Bool
  | capturePayment, s => s = .authorizing
  | refundPayment, s => s = .captured ∨ s = .settled
  | settlePayment, s => s = .captured

def refusal : Op → String
  | capturePayment => "payment not in authorizing state"
  | refundPayment => "payment cannot be refunded"
  | settlePayment => "payment not in captured state"

/-- The status that is written over, and the one that is written. -/
def source (op : Op) (p : Payment) : PaymentStatus :=
  match op with
  | capturePayment => .authorizing
  | refundPayment => p.status
  | settlePayment => .captured

def target : Op → PaymentStatus
  | capturePayment => .captured
  | refundPayment => .failed
  | settlePayment => .settled

def declineReason : Op → String
  | refundPayment => "refunded"
  | capturePayment | settlePayment => ""

end Op

/-! ## Steps -/

/-- A call that the gateway has received. Whether it has approved is not always told: its answer may be
lost on the way. -/
inductive GatewayCall where
  | authorize (key paymentID : UUID) (answer : Except String AuthorizeResponse) (approved : Bool)
  | capture (paymentID verifoneToken : String) (succeeds : Bool)
  | settle (paymentID verifoneToken : String) (succeeds : Bool)

/-- How far a call has got. -/
inductive Phase where
  | idle
  /-- `InitiatePayment` holds the lock and comes to the gateway. -/
  | locked (p : Payment)
  | authorized (p : Payment) (answer : Except String AuthorizeResponse)
  /-- It is about to unlock the key and to return. -/
  | finishing (key : UUID) (reply : Reply)
  /-- A payment was read and may be captured, refunded or settled. -/
  | loaded (op : Op) (p : Payment)
  /-- The gateway has done it. -/
  | moved (op : Op) (p : Payment)
  /-- A notification was found to be about a payment that is not closed. -/
  | notified (id : UUID) (target : PaymentStatus) (declineReason : String)
  | rechecked (p : Payment) (target : PaymentStatus) (declineReason : String)

inductive Act (Tid : Type*) where
  | initiatePayment (t : Tid) (req : PaymentIntent) (redis : Outcome) (now : Time)
  /-- The gateway's answer, or an error, with which it may have approved `unseen`. -/
  | authorize (t : Tid) (answer : Except String AuthorizeResponse) (now : Time) (unseen : Bool := false)
  | create (t : Tid) (env : Env)
  | unlock (t : Tid) (redis : Outcome)
  | read (t : Tid) (op : Op) (paymentID : String) (fault : Option String)
  | move (t : Tid) (fault : Option String)
  | webhook (t : Tid) (n : Notification) (fault : Option String)
  | recheck (t : Tid) (fault : Option String)
  /-- The transaction of `UpdateStatus`. -/
  | update (t : Tid) (env : Env)
  | wait (ms : ℕ)

structure World (Tid : Type*) where
  db : DB := {}
  /-- Milliseconds. -/
  clock : ℕ := 0
  /-- When the lock of a key expires. -/
  locks : UUID → Option ℕ := fun _ => none
  calls : Tid → Phase := fun _ => .idle
  gateway : List GatewayCall := []

variable {Tid : Type*} [DecidableEq Tid]

namespace World

def goto (w : World Tid) (t : Tid) (phase : Phase) : World Tid :=
  { w with calls := fun t' => if t' = t then phase else w.calls t' }

def setLock (w : World Tid) (key : UUID) (expires : Option ℕ) : World Tid :=
  { w with locks := fun key' => if key' = key then expires else w.locks key' }

/-- The lock of a key is not taken, or has expired. -/
def free (w : World Tid) (key : UUID) : Bool := (w.locks key).all (· ≤ w.clock)

def receive (w : World Tid) (call : GatewayCall) : World Tid := { w with gateway := w.gateway ++ [call] }

end World

/-- `SET NX` with 30 seconds to live. -/
def lock (w : World Tid) (key : UUID) : World Tid :=
  if w.free key then w.setLock key (some (w.clock + 30000)) else w

def initiatePayment (w : World Tid) (t : Tid) (req : PaymentIntent) (redis : Outcome) (now : Time) :
    World Tid × Option Reply :=
  match req.payment uuid now with
  | .error err => (w, some (.error err))
  | .ok p =>
    match redis with
    | .rolledBack _ => (w, some (.error (.internal, "idempotency lock error")))
    | .lost _ => (lock w p.idempotencyKey, some (.error (.internal, "idempotency lock error")))
    | .committed =>
      if w.free p.idempotencyKey then ((lock w p.idempotencyKey).goto t (.locked p), none)
      else (w, some (.error (.alreadyExists, "idempotency key in progress")))

/-- A call reads a payment and checks its status. -/
def read (w : World Tid) (t : Tid) (op : Op) (paymentID : String) (fault : Option String) :
    World Tid × Option Reply :=
  match uuid.parse paymentID with
  | .error _ => (w, some (.error (.invalidArgument, "invalid payment_id")))
  | .ok id =>
    match getByID w.db id fault with
    | .error err => (w, some (.error (.internal, err.message)))
    | .ok none => (w, some (.error (.notFound, "payment not found")))
    | .ok (some p) =>
      if op.accepts p.status then (w.goto t (.loaded op p), none)
      else (w, some (.error (.failedPrecondition, op.refusal)))

def GatewayCall.ofOp (op : Op) (paymentID verifoneToken : String) (succeeds : Bool) : GatewayCall :=
  match op with
  | .capturePayment => .capture paymentID verifoneToken succeeds
  | .refundPayment | .settlePayment => .settle paymentID verifoneToken succeeds

/-- The webhook up to its first look at the payment. The signature has been verified. -/
def webhook (w : World Tid) (t : Tid) (n : Notification) (fault : Option String) :
    World Tid × Option Reply :=
  if n.paymentID = "" then (w, some (.error (.invalidArgument, "webhook: missing payment_id")))
  else
    match uuid.parse n.paymentID with
    | .error err =>
      (w, some (.error (.invalidArgument, "webhook: invalid payment_id: " ++ err)))
    | .ok id =>
      if n.status = "" then (w, some (.error (.invalidArgument, "webhook: missing status")))
      else
        match mapNotified n.status with
        | none => (w, some (.error (.invalidArgument, s!"webhook: unknown status {n.status.quote}")))
        | some target =>
          match getByID w.db id fault with
          | .error err => (w, some (.error (.internal, err.message)))
          | .ok none => (w, some (.error (.notFound, "payment not found")))
          | .ok (some p) =>
            if (paymentStatusFromProto (mapStatus p.status)).isTerminal then
              (w, some (.ok (p.result uuid)))
            else (w.goto t (.notified id target n.declineReason), none)

/-- The service's `UpdateStatus` up to the repository's. -/
def recheck (w : World Tid) (t : Tid) (id : UUID) (target : PaymentStatus) (declineReason : String)
    (fault : Option String) : World Tid × Option Reply :=
  match getByID w.db id fault with
  | .error err => (w.goto t .idle, some (.error (.internal, err.message)))
  | .ok none => (w.goto t .idle, some (.error (.notFound, "payment not found")))
  | .ok (some p) =>
    if p.isTerminal then (w.goto t .idle, some (.ok (p.result uuid)))
    else (w.goto t (.rechecked p target declineReason), none)

/-- A call writes the status and returns. -/
def update (w : World Tid) (t : Tid) (env : Env) (p : Payment) (source target : PaymentStatus)
    (declineReason : String) (result : PaymentResult) : World Tid × Option Reply :=
  match updateStatus uuid w.db env p.paymentID source target p.verifoneToken declineReason with
  | (db, .error err) => ({ w with db }.goto t .idle, some (.error (.internal, err.message)))
  | (db, .ok ()) => ({ w with db }.goto t .idle, some (.ok result))

/-- A step, and what a call that ends with it returns. A client has one call in flight at a time. -/
def respond (w : World Tid) : Act Tid → World Tid × Option Reply
  | .initiatePayment t req redis now =>
    match w.calls t with
    | .idle => initiatePayment uuid w t req redis now
    | _ => (w, none)
  | .authorize t answer now unseen =>
    match w.calls t with
    | .locked p =>
      let w := w.receive (.authorize p.idempotencyKey p.paymentID answer (hasApproved answer unseen))
      match p.answered answer now with
      | .error err => (w.goto t (.finishing p.idempotencyKey (.error (.internal, err.message))), none)
      | .ok p => (w.goto t (.authorized p answer), none)
    | _ => (w, none)
  | .create t env =>
    match w.calls t with
    | .authorized p answer =>
      match create uuid w.db env p with
      | (db, .error err) =>
        ({ w with db }.goto t (.finishing p.idempotencyKey (.error (createFailed answer err))), none)
      | (db, .ok ()) => ({ w with db }.goto t (.finishing p.idempotencyKey (.ok (p.result uuid))), none)
    | _ => (w, none)
  | .unlock t redis =>
    match w.calls t with
    | .finishing key reply =>
      ((if redis.applies then w.setLock key none else w).goto t .idle, some reply)
    | _ => (w, none)
  | .read t op paymentID fault =>
    match w.calls t with
    | .idle => read uuid w t op paymentID fault
    | _ => (w, none)
  | .move t fault =>
    match w.calls t with
    | .loaded op p =>
      let call := GatewayCall.ofOp op (uuid.string p.paymentID) p.verifoneToken fault.isNone
      match fault with
      | some err => ((w.receive call).goto t .idle, some (.error (.unavailable, err)))
      | none => ((w.receive call).goto t (.moved op p), none)
    | _ => (w, none)
  | .webhook t n fault =>
    match w.calls t with
    | .idle => webhook uuid w t n fault
    | _ => (w, none)
  | .recheck t fault =>
    match w.calls t with
    | .notified id target declineReason => recheck uuid w t id target declineReason fault
    | _ => (w, none)
  | .update t env =>
    match w.calls t with
    | .moved op p => update uuid w t env p (op.source p) op.target op.declineReason
        ({ p with status := op.target }.result uuid)
    | .rechecked p target declineReason => update uuid w t env p p.status target declineReason
        ({ p with status := target, declineReason }.result uuid)
    | _ => (w, none)
  | .wait ms => ({ w with clock := w.clock + ms }, none)

def step (w : World Tid) (a : Act Tid) : World Tid := (respond uuid w a).1

/-! ## What a step does to the tables -/

/-- The payment whose status a call comes to write, the status it writes over, the one it writes
and the reason. -/
def Phase.writes : Phase → Option (Payment × PaymentStatus × PaymentStatus × String)
  | .moved op p => some (p, op.source p, op.target, op.declineReason)
  | .rechecked p target declineReason => some (p, p.status, target, declineReason)
  | _ => none

/-- The commit of a `Create`. -/
structure Creates (w : World Tid) (t : Tid) (env : Env) (p : Payment)
    (answer : Except String AuthorizeResponse) : Prop where
  phase : w.calls t = .authorized p answer
  free : w.db.Free p
  applies : env.outcome.applies = true

/-- The commit of an `UpdateStatus`. -/
structure Updates (w : World Tid) (t : Tid) (env : Env) (p : Payment) (target : PaymentStatus)
    (declineReason : String) (q : Payment) (payload : Payload) : Prop where
  phase : (w.calls t).writes = some (p, q.status, target, declineReason)
  found : w.db.payments.find? p.paymentID = some q
  envelope : statusEnvelope uuid q target declineReason = .ok payload
  applies : env.outcome.applies = true

variable {uuid} {w : World Tid}

@[simp] theorem World.goto_db (t : Tid) (phase : Phase) : (w.goto t phase).db = w.db := rfl

theorem calls_goto (t : Tid) (phase : Phase) : (w.goto t phase).calls t = phase := if_pos rfl

theorem calls_goto_of_ne {t t' : Tid} (phase : Phase) (h : t' ≠ t) :
    (w.goto t phase).calls t' = w.calls t' := if_neg h

theorem db_update (t : Tid) (env : Env) (p : Payment) (source target : PaymentStatus)
    (declineReason : String) (result : PaymentResult) :
    (update uuid w t env p source target declineReason result).1.db =
      (updateStatus uuid w.db env p.paymentID source target p.verifoneToken declineReason).1 := by
  unfold update
  split <;> rename_i h <;> exact (congrArg Prod.fst h).symm

theorem db_of_writes (uuid : UUIDText) {t : Tid} (env : Env) {p : Payment} {source target : PaymentStatus}
    {declineReason : String} (h : (w.calls t).writes = some (p, source, target, declineReason)) :
    (step uuid w (.update t env)).db =
      (updateStatus uuid w.db env p.paymentID source target p.verifoneToken declineReason).1 := by
  cases phase : w.calls t <;> rw [phase] at h <;> cases h <;> simp only [step, respond, phase] <;>
    exact db_update ..

theorem db_of_updates {t : Tid} {env : Env} {p : Payment} {target : PaymentStatus}
    {declineReason : String} {q : Payment} {payload : Payload}
    (h : Updates uuid w t env p target declineReason q payload) :
    (step uuid w (.update t env)).db =
      w.db.updated uuid env q target p.verifoneToken declineReason payload := by
  rw [db_of_writes uuid env h.phase]
  exact updateStatus_applies h.found h.envelope h.applies

/-- The tables change by the commit of a `Create` or of an `UpdateStatus` only. -/
theorem db_step (uuid : UUIDText) (w : World Tid) (a : Act Tid) :
    (step uuid w a).db = w.db ∨
      (∃ t env p answer, a = .create t env ∧ Creates w t env p answer ∧
        (step uuid w a).db = w.db.created uuid env p) ∨
      ∃ t env p target declineReason q payload, a = .update t env ∧
        Updates uuid w t env p target declineReason q payload ∧
        (step uuid w a).db =
          w.db.updated uuid env q target p.verifoneToken declineReason payload := by
  cases a with
  | create t env =>
    simp only [step, respond]
    split
    · rename_i p answer phase
      rcases create_cases uuid w.db env p with ⟨same, -⟩ | ⟨free, applies, new⟩
      · left
        split <;> rename_i h <;> exact (congrArg Prod.fst h).symm.trans same
      · refine .inr (.inl ⟨t, env, p, answer, rfl, ⟨phase, free, applies⟩, ?_⟩)
        split <;> rename_i h <;> exact (congrArg Prod.fst h).symm.trans new
    · exact .inl rfl
  | update t env =>
    cases writes : (w.calls t).writes with
    | none =>
      left
      cases phase : w.calls t <;> rw [phase] at writes <;> cases writes <;>
        simp only [step, respond, phase]
    | some change =>
      obtain ⟨p, source, target, declineReason⟩ := change
      have h := db_of_writes uuid env writes
      rcases updateStatus_cases uuid w.db env p.paymentID source target p.verifoneToken declineReason
        with ⟨same, -⟩ | ⟨q, payload, found, rfl, envelope, applies, new⟩
      · exact .inl (h.trans same)
      · exact .inr (.inr ⟨t, env, p, target, declineReason, q, payload, rfl,
          ⟨writes, found, envelope, applies⟩, h.trans new⟩)
  | initiatePayment t req redis now =>
    left
    simp only [step, respond, initiatePayment, lock]
    repeat' split
    all_goals rfl
  | unlock t redis =>
    left
    simp only [step, respond]
    repeat' split
    all_goals rfl
  | authorize | read | move | webhook | recheck | wait =>
    left
    simp only [step, respond, read, webhook, recheck]
    repeat' split
    all_goals rfl

/-! ## What the other steps do -/

theorem step_read (uuid : UUIDText) (w : World Tid) (t : Tid) (op : Op) (paymentID : String) (fault : Option String) :
    step uuid w (.read t op paymentID fault) = w ∨
      ∃ id p, uuid.parse paymentID = .ok id ∧ w.db.payments.find? id = some p ∧
        op.accepts p.status = true ∧ w.calls t = .idle ∧ fault = none ∧
        step uuid w (.read t op paymentID fault) = w.goto t (.loaded op p) := by
  simp only [step, respond]
  split
  · rename_i idle
    unfold read
    split
    · exact .inl rfl
    · rename_i id parsed
      cases fault with
      | some err => exact .inl rfl
      | none =>
        simp only [getByID]
        cases found : w.db.payments.find? id with
        | none => exact .inl rfl
        | some p =>
          dsimp only
          split
          · rename_i accepts
            exact .inr ⟨id, p, parsed, found, accepts, idle, trivial, rfl⟩
          · exact .inl rfl
  · exact .inl rfl

theorem step_webhook (uuid : UUIDText) (w : World Tid) (t : Tid) (n : Notification)
    (fault : Option String) :
    step uuid w (.webhook t n fault) = w ∨ w.calls t = .idle ∧ ∃ id target declineReason,
      step uuid w (.webhook t n fault) = w.goto t (.notified id target declineReason) := by
  simp only [step, respond]
  split
  · rename_i idle
    unfold webhook
    repeat' split
    all_goals first
      | exact .inl rfl
      | exact .inr ⟨idle, _, _, _, rfl⟩
  · exact .inl rfl

theorem step_recheck (uuid : UUIDText) (w : World Tid) (t : Tid) (fault : Option String) :
    step uuid w (.recheck t fault) = w ∨
      (∃ id target declineReason, w.calls t = .notified id target declineReason) ∧
        (step uuid w (.recheck t fault) = w.goto t .idle ∨ ∃ p target declineReason,
          step uuid w (.recheck t fault) = w.goto t (.rechecked p target declineReason)) := by
  simp only [step, respond]
  split
  · rename_i id target declineReason notified
    refine .inr ⟨⟨id, target, declineReason, notified⟩, ?_⟩
    unfold recheck
    repeat' split
    all_goals first
      | exact .inl rfl
      | exact .inr ⟨_, _, _, rfl⟩
  · exact .inl rfl

theorem step_update (uuid : UUIDText) (w : World Tid) (t : Tid) (env : Env) :
    step uuid w (.update t env) = w ∨
      (w.calls t).writes.isSome = true ∧ ∃ db, step uuid w (.update t env) = { w with db }.goto t .idle := by
  cases holds : w.calls t with
  | moved | rechecked =>
    refine .inr ⟨rfl, ?_⟩
    simp only [step, respond, holds, update]
    split <;> exact ⟨_, rfl⟩
  | idle | locked | authorized | finishing | loaded | notified =>
    exact .inl (by simp only [step, respond, holds])

end PaymentOrchestrator
