import AstraSystem.Lib.Precedence
import AstraSystem.Lib.Runs
import AstraSystem.Lib.Table
import AstraSystem.Lib.UUID

/-!
# The transactional outbox (`go-common/outbox/outbox.go`)

Relays read unpublished rows, publish them and mark them, and each of these is a step of its own:
the locks of the query end with it. Any number of relays and writers interleave.
-/

namespace Outbox

structure Entry (P : Type*) where
  eventID : UUID
  aggregateType : String
  aggregateID : UUID
  eventType : String
  payload : P
  occurredAtMs : Int64
  deriving DecidableEq

def Entry.SameAggregate {P : Type*} (e f : Entry P) : Prop :=
  e.aggregateType = f.aggregateType ∧ e.aggregateID = f.aggregateID

/-- A row of `outbox_events`. -/
structure Row (P : Type*) where
  entry : Entry P
  published : Bool := false
  publishedAtMs : Option Int64 := none
  /-- The place of its transaction among those that committed, which no column holds. -/
  txn : ℕ
  deriving DecidableEq

abbrev Rows (P : Type*) := Table (Row P) UUID fun r => r.entry.eventID

/-- `InsertWithinTx`: `ON CONFLICT (event_id) DO NOTHING`. -/
def insertWithinTx {P : Type*} (txn : ℕ) (rows : Rows P) (e : Entry P) : Rows P :=
  match rows.find? e.eventID with
  | some _ => rows
  | none => rows.upsert (fun _ new => new) (fun _ _ => rfl) { entry := e, txn }

/-- `UPDATE outbox_events SET published = true`. -/
def markPublished {P : Type*} (rows : Rows P) (eventID : UUID) (now : Int64) : Rows P :=
  rows.update (fun r =>
    if r.entry.eventID = eventID then { r with published := true, publishedAtMs := some now } else r)
    fun r => by split <;> rfl

def batchSize : ℕ := 100

/-- The batch of a query: rows that are locked are passed over, and ties come in any order. -/
def queryBatch {P : Type*} (rows : Rows P) (locked : UUID → Bool) (ties : Shuffle (Row P)) :
    List (Entry P) :=
  (((ties.apply (rows.rows.filter fun r => !r.published && !locked r.entry.eventID)).insertionSort
    fun r s => r.entry.occurredAtMs ≤ s.entry.occurredAtMs).take batchSize).map Row.entry

/-! ## Relays -/

/-- What the bus has got. -/
structure Publication (P Rid : Type*) where
  relay : Rid
  entry : Entry P
  subject : String
  /-- The relay was told. -/
  acked : Bool

/-- What is left of a relay's batch, and whether its head has been published. -/
structure Batch (P : Type*) where
  pending : List (Entry P) := []
  acked : Bool := false

/-- What becomes of a request over the network. -/
inductive Outcome where
  | ok
  | failed
  /-- It takes effect, and its reply is lost. -/
  | lost
  deriving DecidableEq, Repr

inductive Act (P Rid : Type*) where
  | commit (entries : List (Entry P))
  | select (r : Rid) (locked : UUID → Bool) (ties : Shuffle (Row P))
  | publish (r : Rid) (o : Outcome)
  | mark (r : Rid) (o : Outcome) (now : Int64)

structure World (P Rid : Type*) where
  rows : Rows P := .empty
  txns : ℕ := 0
  relays : Rid → Batch P := fun _ => {}
  log : List (Publication P Rid) := []
  /-- The publishes that no stream took. -/
  refused : List (Rid × Entry P) := []
  /-- A request has failed, or its reply was lost. -/
  failed : Bool := false

/-- The resolver of each relay, and the subjects that some stream takes. -/
structure Bus (Rid : Type*) where
  resolve : Rid → String → String
  takes : String → Bool

variable {P Rid : Type*} [DecidableEq Rid] (bus : Bus Rid)

namespace World

def goto (w : World P Rid) (r : Rid) (b : Batch P) : World P Rid :=
  { w with relays := fun r' => if r' = r then b else w.relays r' }

/-- A relay gives up its batch. -/
def fail (w : World P Rid) (r : Rid) : World P Rid := { w with failed := true }.goto r {}

omit [DecidableEq Rid] in
def publication (w : World P Rid) (p : Publication P Rid) : World P Rid :=
  { w with log := w.log ++ [p] }

omit [DecidableEq Rid] in
def mark (w : World P Rid) (e : Entry P) (now : Int64) : World P Rid :=
  { w with rows := markPublished w.rows e.eventID now }

omit [DecidableEq Rid] in
/-- The entries of a relay's batch that it has yet to deal with. -/
def pending (w : World P Rid) (r : Rid) : List (Entry P) := (w.relays r).pending

omit [DecidableEq Rid] in
instance decidablePending (w : World P Rid) (r : Rid) : Decidable (w.pending r = []) :=
  decidable_of_iff _ List.isEmpty_iff

end World

def step (w : World P Rid) : Act P Rid → World P Rid
  | .commit entries =>
    { w with rows := entries.foldl (insertWithinTx w.txns) w.rows, txns := w.txns + 1 }
  | .select r locked ties =>
    match w.relays r with
    | ⟨[], _⟩ => w.goto r ⟨queryBatch w.rows locked ties, false⟩
    | _ => w
  | .publish r o =>
    match w.relays r with
    | ⟨e :: rest, false⟩ =>
      let subject := bus.resolve r e.eventType
      if bus.takes subject then
        match o with
        | .ok => (w.publication ⟨r, e, subject, true⟩).goto r ⟨e :: rest, true⟩
        | .failed => w.fail r
        | .lost => (w.publication ⟨r, e, subject, false⟩).fail r
      else { w with refused := w.refused ++ [(r, e)] }.fail r
    | _ => w
  | .mark r o now =>
    match w.relays r with
    | ⟨e :: rest, true⟩ =>
      match o with
      | .ok => (w.mark e now).goto r ⟨rest, false⟩
      | .failed => w.fail r
      | .lost => (w.mark e now).fail r
    | _ => w

end Outbox
