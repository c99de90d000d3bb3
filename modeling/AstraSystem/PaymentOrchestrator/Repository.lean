import AstraSystem.Lib.Table
import AstraSystem.PaymentOrchestrator.Domain

/-!
# The payment repository (`repository/repository.go`, `events/events.go`)

A method runs one transaction. The ids, the clock and what the database does to the
transaction come with the call.
-/

namespace PaymentOrchestrator

/-! ## Events -/

inductive Payload where
  | initiated (paymentID orderID kioskID : String) (amountCents : Int64) (currency method : String)
  | confirmed (paymentID orderID status : String)
  | failed (paymentID orderID kioskID status declineReason : String)
  deriving DecidableEq, Repr

def Payload.eventType : Payload → String
  | .initiated .. => "PaymentInitiated"
  | .confirmed .. => "PaymentConfirmed"
  | .failed .. => "PaymentFailed"

/-- An `EventEnvelope`, and the row of the outbox that holds it. -/
structure Entry where
  eventID : UUID
  aggregateType : String := "payment"
  aggregateID : String
  eventType : String
  sequenceNumber : ℤ
  timestamp : Time
  payload : Payload
  metadata : List (String × String)
  occurredAtMs : Int64
  deriving DecidableEq, Repr

/-- What becomes of a transaction that has run to its commit. -/
inductive Outcome where
  | committed
  /-- A statement fails, the commit included. -/
  | rolledBack (err : String)
  /-- It commits, and the reply is lost. -/
  | lost (err : String)
  deriving DecidableEq, Repr

def Outcome.applies : Outcome → Bool
  | .committed | .lost _ => true
  | .rolledBack _ => false

/-- What a call finds around it. -/
structure Env where
  now : Time
  eventID : UUID
  timestamp : Time
  occurredAtMs : Int64
  /-- Another transaction committed the key after this one had looked for it. -/
  late : Bool := false
  outcome : Outcome := .committed

/-- `payments` has the columns that the statements name. The one that `infra/postgres/init` makes has no `store_id` and
takes lower-case statuses only; there every insertion is rolled back, and every read fails. -/
structure DB where
  payments : Table Payment UUID Payment.paymentID := .empty
  outbox : List Entry := []

namespace DB

/-- `ON CONFLICT (event_id) DO NOTHING`. -/
def insertOutbox (db : DB) (e : Entry) : DB :=
  if ∃ old ∈ db.outbox, old.eventID = e.eventID then db else { db with outbox := db.outbox ++ [e] }

@[simp] theorem insertOutbox_payments (db : DB) (e : Entry) :
    (db.insertOutbox e).payments = db.payments := by
  unfold insertOutbox
  split <;> rfl

/-- The payment of an idempotency key. -/
def ofKey (db : DB) (key : UUID) : Option Payment :=
  db.payments.rows.find? fun p => p.idempotencyKey = key

end DB

/-- A transaction comes to its commit. -/
def commit (db db' : DB) (env : Env) : DB × Except PaymentError Unit :=
  match env.outcome with
  | .committed => (db', .ok ())
  | .rolledBack err => (db, .error (.other err))
  | .lost err => (db', .error (.other err))

variable (uuid : UUIDText)

def initiatedEntry (env : Env) (p : Payment) : Entry where
  eventID := env.eventID
  aggregateID := uuid.string p.paymentID
  eventType := "PaymentInitiated"
  sequenceNumber := 1
  timestamp := env.timestamp
  payload := .initiated (uuid.string p.paymentID) (uuid.string p.orderID) (uuid.string p.kioskID)
    p.amountCents p.currency p.method.string
  metadata := [("kiosk_id", uuid.string p.kioskID), ("store_id", uuid.string p.storeID)]
  occurredAtMs := env.occurredAtMs

/-- The row that is inserted, both of whose times are that of its creation. -/
def Payment.row (p : Payment) : Payment := { p with updatedAt := p.createdAt }

def DB.insertPayment (db : DB) (p : Payment) : DB :=
  { db with payments := db.payments.upsert (fun _ p => p) (fun _ _ => rfl) p }

def create (db : DB) (env : Env) (p : Payment) : DB × Except PaymentError Unit :=
  if (db.ofKey p.idempotencyKey).isSome then
    if env.late then
      (db, .error (.other "payment_repository: insert payment: duplicate key value"))
    else (db, .error .duplicateIdempotencyKey)
  else if (db.payments.find? p.paymentID).isSome then
    (db, .error (.other "payment_repository: insert payment: duplicate key value"))
  else
    commit db ((db.insertPayment p.row).insertOutbox (initiatedEntry uuid env p)) env

def getByID (db : DB) (id : UUID) (fault : Option String) : Except PaymentError (Option Payment) :=
  match fault with
  | some err => .error (.other err)
  | none => .ok (db.payments.find? id)

def statusEnvelope (p : Payment) (target : PaymentStatus) (declineReason : String) :
    Except PaymentError Payload :=
  match target with
  | .captured | .settled =>
    .ok (.confirmed (uuid.string p.paymentID) (uuid.string p.orderID) target.string)
  | .failed => .ok (.failed (uuid.string p.paymentID) (uuid.string p.orderID) (uuid.string p.kioskID)
      target.string declineReason)
  | .pending | .authorizing =>
    .error (.other s!"payment_repository: no envelope for status {target.string}")

def statusEntry (env : Env) (p : Payment) (payload : Payload) : Entry where
  eventID := env.eventID
  aggregateID := uuid.string p.paymentID
  eventType := payload.eventType
  sequenceNumber := 2
  timestamp := env.timestamp
  payload
  metadata := [("kiosk_id", uuid.string p.kioskID)]
  occurredAtMs := env.occurredAtMs

def Payment.withStatus (p : Payment) (target : PaymentStatus) (verifoneToken declineReason : String)
    (now : Time) : Payment :=
  { p with status := target, verifoneToken, declineReason, updatedAt := now }

/-- The row of a payment whose status changes. -/
def DB.setStatus (db : DB) (id : UUID) (target : PaymentStatus) (verifoneToken declineReason : String)
    (now : Time) : DB :=
  let change (p : Payment) : Payment :=
    if p.paymentID = id then p.withStatus target verifoneToken declineReason now else p
  { db with payments := db.payments.update change fun p => by dsimp only [change]; split <;> rfl }

def updateStatus (db : DB) (env : Env) (id : UUID) (source target : PaymentStatus)
    (verifoneToken declineReason : String) : DB × Except PaymentError Unit :=
  match db.payments.find? id with
  | none => (db, .error .invalidTransition)
  | some p =>
    if p.status ≠ source then (db, .error .invalidTransition)
    else match statusEnvelope uuid p target declineReason with
      | .error err => (db, .error err)
      | .ok payload =>
        commit db ((db.setStatus id target verifoneToken declineReason env.now).insertOutbox
          (statusEntry uuid env p payload)) env

/-! ## What the methods do -/

section
variable {uuid} {db : DB} {env : Env} {p : Payment}

/-- What a `Create` that commits leaves behind. -/
def DB.created (uuid : UUIDText) (db : DB) (env : Env) (p : Payment) : DB :=
  (db.insertPayment p.row).insertOutbox (initiatedEntry uuid env p)

/-- Neither the key nor the id of a payment is taken. -/
structure DB.Free (db : DB) (p : Payment) : Prop where
  key : db.ofKey p.idempotencyKey = none
  id : db.payments.find? p.paymentID = none

theorem commit_cases (db db' : DB) (env : Env) :
    (env.outcome.applies = false ∧ (commit db db' env).1 = db ∧
        ∃ err, (commit db db' env).2 = .error err) ∨
      (env.outcome.applies = true ∧ (commit db db' env).1 = db') := by
  unfold commit
  cases env.outcome with
  | committed | lost err => exact .inr ⟨rfl, rfl⟩
  | rolledBack err => exact .inl ⟨rfl, rfl, _, rfl⟩

theorem create_cases (uuid : UUIDText) (db : DB) (env : Env) (p : Payment) :
    ((create uuid db env p).1 = db ∧ (∃ err, (create uuid db env p).2 = .error err) ∧
        ¬ (db.Free p ∧ env.outcome.applies = true)) ∨
      (db.Free p ∧ env.outcome.applies = true ∧ (create uuid db env p).1 = db.created uuid env p) := by
  unfold create
  split
  · rename_i taken
    have busy : ¬ (db.Free p ∧ env.outcome.applies = true) := by
      rintro ⟨free, -⟩
      rw [free.key] at taken
      cases taken
    split <;> exact .inl ⟨rfl, ⟨_, rfl⟩, busy⟩
  · rename_i key
    split
    · rename_i taken
      refine .inl ⟨rfl, ⟨_, rfl⟩, ?_⟩
      rintro ⟨free, -⟩
      rw [free.id] at taken
      cases taken
    · rename_i id
      rcases commit_cases db (db.created uuid env p) env with ⟨fails, same, err⟩ | ⟨applies, new⟩
      · refine .inl ⟨same, err, ?_⟩
        rintro ⟨-, applies⟩
        rw [fails] at applies
        cases applies
      · exact .inr ⟨⟨by simpa using key, by simpa using id⟩, applies, new⟩

/-- What an `UpdateStatus` that commits leaves behind. -/
def DB.updated (uuid : UUIDText) (db : DB) (env : Env) (p : Payment) (target : PaymentStatus)
    (verifoneToken declineReason : String) (payload : Payload) : DB :=
  (db.setStatus p.paymentID target verifoneToken declineReason env.now).insertOutbox
    (statusEntry uuid env p payload)

theorem updateStatus_cases (uuid : UUIDText) (db : DB) (env : Env) (id : UUID)
    (source target : PaymentStatus) (verifoneToken declineReason : String) :
    let r := updateStatus uuid db env id source target verifoneToken declineReason
    (r.1 = db ∧ ∃ err, r.2 = .error err) ∨
      ∃ p payload, db.payments.find? id = some p ∧ p.status = source ∧
        statusEnvelope uuid p target declineReason = .ok payload ∧ env.outcome.applies = true ∧
        r.1 = db.updated uuid env p target verifoneToken declineReason payload := by
  intro r
  simp only [r, updateStatus]
  split
  · exact .inl ⟨rfl, _, rfl⟩
  · rename_i p found
    split
    · exact .inl ⟨rfl, _, rfl⟩
    · rename_i status
      split
      · exact .inl ⟨rfl, _, rfl⟩
      · rename_i payload envelope
        obtain rfl : p.paymentID = id := (Table.find?_eq_some.mp found).2
        rcases commit_cases db (db.updated uuid env p target verifoneToken declineReason payload) env
          with ⟨-, same, err⟩ | ⟨applies, new⟩
        · exact .inl ⟨same, err⟩
        · exact .inr ⟨p, payload, found, not_not.mp status, envelope, applies, new⟩

theorem updateStatus_applies {id : UUID} {target : PaymentStatus} {verifoneToken declineReason : String}
    {payload : Payload} (found : db.payments.find? id = some p)
    (envelope : statusEnvelope uuid p target declineReason = .ok payload)
    (applies : env.outcome.applies = true) :
    (updateStatus uuid db env id p.status target verifoneToken declineReason).1 =
      db.updated uuid env p target verifoneToken declineReason payload := by
  obtain rfl : p.paymentID = id := (Table.find?_eq_some.mp found).2
  simp only [updateStatus, found, ne_eq, not_true, ↓reduceIte, envelope]
  rcases commit_cases db (db.updated uuid env p target verifoneToken declineReason payload) env with
    ⟨fails, -⟩ | ⟨-, new⟩
  · rw [applies] at fails
    cases fails
  · exact new

theorem find?_created (free : db.Free p) (id : UUID) :
    (db.created uuid env p).payments.find? id =
      if id = p.paymentID then some p.row else db.payments.find? id := by
  rw [DB.created, DB.insertOutbox_payments, DB.insertPayment]
  split
  · rename_i own
    have free : db.payments.find? p.row.paymentID = none := free.id
    rw [own]
    exact Table.find?_upsert_self free
  · rename_i other
    exact Table.find?_upsert_of_ne other

theorem find?_updated {target : PaymentStatus} {verifoneToken declineReason : String}
    {payload : Payload} (found : db.payments.find? p.paymentID = some p) (id : UUID) :
    (db.updated uuid env p target verifoneToken declineReason payload).payments.find? id =
      if id = p.paymentID then some (p.withStatus target verifoneToken declineReason env.now)
      else db.payments.find? id := by
  rw [DB.updated, DB.insertOutbox_payments, DB.setStatus, Table.find?_update]
  split
  · rename_i own
    rw [own, found]
    simp
  · rename_i other
    cases h : db.payments.find? id with
    | none => rfl
    | some q =>
      have apart : q.paymentID ≠ p.paymentID := by
        rw [(Table.find?_eq_some.mp h).2]
        exact other
      simp [apart]

end

end PaymentOrchestrator
