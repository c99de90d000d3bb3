import AstraSystem.Lib.Json
import AstraSystem.Lib.RFC3339
import AstraSystem.Lib.Table
import AstraSystem.Lib.UUID

/-!
# The sync service (`service/service.go`, `repository/repository.go`)

Kiosks upload batches of deltas and download those of the others. The database is available: it
refuses what its schema does not take, and nothing else fails.
-/

namespace SyncService

/-- A time in microseconds. -/
abbrev Time := ℤ

/-! ## Messages -/

inductive SyncEventType where
  | unspecified
  | inventoryUpdate
  | cartMerge
  | transactionBatch
  | analyticsBatch
  /-- A number without a name. -/
  | unknown (n : Int32)
  deriving DecidableEq, Repr

def SyncEventType.string : SyncEventType → String
  | .inventoryUpdate => "inventory_update"
  | .cartMerge => "cart_merge"
  | .transactionBatch => "transaction_batch"
  | .analyticsBatch => "analytics_batch"
  | .unspecified | .unknown _ => "unspecified"

structure SyncDelta where
  deltaID : String
  eventType : SyncEventType
  payload : List UInt8 := []
  vectorClock : List (String × Int64) := []
  sourceKioskID : String := ""
  createdAt : String := ""
  deriving DecidableEq, Repr

structure SyncBatch where
  batchID : String
  storeID : String
  kioskID : String
  deltas : List SyncDelta
  deriving DecidableEq, Repr

/-- A row of `sync_events`. -/
structure SyncEvent where
  syncEventID : UUID
  storeID : UUID
  kioskID : UUID
  eventType : String
  payloadJSON : Json
  vectorClock : Json
  createdAt : Time

inductive Code where
  | invalidArgument
  | permissionDenied
  | unauthenticated
  | internal
  deriving DecidableEq, Repr

structure Status where
  code : Code
  message : String
  deriving DecidableEq, Repr

def invalidArgument (message : String) : Status := ⟨.invalidArgument, message⟩

/-- The packages the service uses: how UUIDs are read, and `json.Unmarshal` into any value. -/
structure Packages where
  uuid : UUIDText
  unmarshal : List UInt8 → Option Json

/-- What a call finds: the clock at each delta, and whether the notification is published. -/
structure Env where
  now : ℕ → Time
  publish : Option String := none

variable (pkg : Packages)

/-! ## Events -/

/-- The document that is stored of a delta. -/
def SyncDelta.payloadJSON (d : SyncDelta) : Json :=
  let content : Json.Fields :=
    if d.payload = [] then []
    else match pkg.unmarshal d.payload with
      | some raw => [("payload", raw)]
      | none => [("raw", .string (String.ofList (Json.base64 d.payload)))]
  .object ([("delta_id", .string d.deltaID), ("event_type", .string d.eventType.string)] ++ content ++
    Json.text "source_kiosk_id" d.sourceKioskID ++ Json.text "created_at" d.createdAt)

def SyncDelta.clockJSON (d : SyncDelta) : Json :=
  if d.vectorClock = [] then .null
  else .object (d.vectorClock.map fun e => (e.1, .number (Decimal.format e.2.toInt)))

/-- A time that cannot be read is replaced by the clock. The database counts microseconds. -/
def SyncDelta.time (d : SyncDelta) (now : Time) : Time :=
  match RFC3339.parse d.createdAt with
  | some t => t.unixNano / 1000
  | none => now

def deltaToEvent (env : Env) (storeID kioskID : UUID) (d : SyncDelta × ℕ) : Except Status SyncEvent :=
  if d.1.deltaID = "" then .error (invalidArgument "delta_id is required")
  else match pkg.uuid.parse d.1.deltaID with
    | .error err => .error (invalidArgument ("invalid delta_id " ++ d.1.deltaID ++ ": " ++ err))
    | .ok syncEventID => .ok {
        syncEventID, storeID, kioskID
        eventType := d.1.eventType.string
        payloadJSON := d.1.payloadJSON pkg
        vectorClock := d.1.clockJSON
        createdAt := d.1.time (env.now d.2) }

def deltasToEvents (env : Env) (b : SyncBatch) : Except Status (List SyncEvent) :=
  match pkg.uuid.parse b.storeID with
  | .error err => .error (invalidArgument ("invalid store_id: " ++ err))
  | .ok storeID =>
    match pkg.uuid.parse b.kioskID with
    | .error err => .error (invalidArgument ("invalid kiosk_id: " ++ err))
    | .ok kioskID => b.deltas.zipIdx.mapM (deltaToEvent pkg env storeID kioskID)

/-! ## The repository -/

abbrev SyncEvents := Table SyncEvent UUID SyncEvent.syncEventID

/-- What the schema refers to, how deep the database reads documents, and whether there is the `sync_heartbeats` that a
statement names and no migration makes. -/
structure Schema where
  stores : List UUID
  kiosks : List UUID
  maxDepth : ℕ
  heartbeats : Bool := true

/-- `event_type` is a `VARCHAR(16)`. -/
def eventTypeWidth : ℕ := 16

def eventTypes : List String := ["inventory_update", "cart_merge", "transaction_batch", "analytics_batch"]

/-- A `JSONB` column takes the document. -/
def Schema.jsonb (schema : Schema) (json : Json) : Bool :=
  json.allStrings (fun s => !s.toList.contains (Char.ofNat 0)) && json.depth ≤ schema.maxDepth

/-- `INSERT … ON CONFLICT (sync_event_id) DO NOTHING`. -/
def insertSyncEvent (schema : Schema) (db : SyncEvents) (e : SyncEvent) : Except String SyncEvents :=
  if ¬ (schema.jsonb e.payloadJSON ∧ schema.jsonb e.vectorClock) then
    .error "unsupported Unicode escape sequence"
  else if eventTypeWidth < e.eventType.length then
    .error "value too long for type character varying(16)"
  else if e.eventType ∉ eventTypes then
    .error "new row for relation \"sync_events\" violates check constraint"
  else if (db.find? e.syncEventID).isSome then .ok db
  else if e.storeID ∉ schema.stores ∨ e.kioskID ∉ schema.kiosks then
    .error "insert or update on table \"sync_events\" violates foreign key constraint"
  else .ok (db.upsert (fun _ new => new) (fun _ _ => rfl) e)

/-- The batch is one transaction. -/
def insertSyncEvents (schema : Schema) (db : SyncEvents) (events : List SyncEvent) :
    SyncEvents × Except String Unit :=
  match events.foldlM (insertSyncEvent schema) db with
  | .ok db => (db, .ok ())
  | .error err => (db, .error ("repository: close batch: " ++ err))

/-- The zero time of Go, in the year 1. -/
def zeroTime : Time := -62135596800000000

/-- The newest of the times. -/
def newest (times : List Time) : Option Time := times.max?

/-- The newest delta that the kiosk itself has uploaded. -/
def getLastCheckpoint (db : SyncEvents) (storeID kioskID : UUID) : Time :=
  (newest ((db.rows.filter fun e => e.storeID = storeID ∧ e.kioskID = kioskID).map
    SyncEvent.createdAt)).getD zeroTime

/-- The order of a download: by time, and by id where times tie. -/
def SyncEvent.le (e f : SyncEvent) : Prop :=
  e.createdAt < f.createdAt ∨ e.createdAt = f.createdAt ∧ e.syncEventID ≤ f.syncEventID

instance SyncEvent.decidableLe : DecidableRel SyncEvent.le := fun _ _ => inferInstanceAs (Decidable (_ ∨ _))

/-- Those that a download is about. -/
def candidates (db : SyncEvents) (storeID kioskID : UUID) (since : Time) : List SyncEvent :=
  (db.rows.filter fun e => e.storeID = storeID ∧ e.kioskID ≠ kioskID ∧ since < e.createdAt).insertionSort
    SyncEvent.le

def limitOf (maxDeltas : Int32) : ℕ := if maxDeltas ≤ 0 then 1000 else maxDeltas.toInt.toNat

theorem limitOf_pos (maxDeltas : Int32) : 0 < limitOf maxDeltas := by
  unfold limitOf
  split
  · decide
  · rename_i pos
    have pos : (0 : Int32).toInt < maxDeltas.toInt := Int32.lt_iff_toInt_lt.mp (Int32.not_le.mp pos)
    rw [Int32.toInt_zero] at pos
    omega

def getDeltasSince (db : SyncEvents) (storeID kioskID : UUID) (since : Time) (maxDeltas : Int32) :
    List SyncEvent :=
  (candidates db storeID kioskID since).take (limitOf maxDeltas)

/-! ## Calls -/

structure SyncAck where
  batchID : String
  kioskID : String
  deriving DecidableEq, Repr

/-- `UploadBatch`, for the kiosk that is authenticated if one is. -/
def uploadBatch (schema : Schema) (db : SyncEvents) (env : Env) (auth : String) (b : SyncBatch) :
    SyncEvents × Except Status SyncAck :=
  if b.kioskID = "" ∨ b.storeID = "" ∨ b.batchID = "" then
    (db, .error (invalidArgument "batch_id, store_id, and kiosk_id are required"))
  else if auth ≠ "" ∧ auth ≠ b.kioskID then
    (db, .error ⟨.permissionDenied, "kiosk_id in batch does not match authenticated kiosk"⟩)
  else match deltasToEvents pkg env b with
    | .error err => (db, .error err)
    | .ok events =>
      match insertSyncEvents schema db events with
      | (db, .error err) => (db, .error ⟨.internal, "store sync events: " ++ err⟩)
      | (db, .ok ()) =>
        match env.publish with
        | some err => (db, .error ⟨.internal, "publish batch ingested: " ++ err⟩)
        | none => (db, .ok ⟨b.batchID, b.kioskID⟩)

/-- What the text of `since` stands for. -/
inductive Since where
  | empty
  | time (t : Time)
  | invalid (err : String)
  deriving DecidableEq, Repr

structure DownloadBatchRequest where
  storeID : String
  kioskID : String
  since : Since := .empty
  maxDeltas : Int32
  deriving DecidableEq, Repr

def downloadBatch (db : SyncEvents) (req : DownloadBatchRequest) : Except Status (List SyncEvent) :=
  if req.storeID = "" ∨ req.kioskID = "" then
    .error (invalidArgument "store_id and kiosk_id are required")
  else match req.since, pkg.uuid.parse req.storeID, pkg.uuid.parse req.kioskID with
    | .invalid err, _, _ => .error (invalidArgument ("invalid since timestamp: " ++ err))
    | .empty, .error err, _ =>
      .error ⟨.internal, "load checkpoint: repository: invalid store id: " ++ err⟩
    | .empty, .ok _, .error err =>
      .error ⟨.internal, "load checkpoint: repository: invalid kiosk id: " ++ err⟩
    | .empty, .ok storeID, .ok kioskID =>
      .ok (getDeltasSince db storeID kioskID (getLastCheckpoint db storeID kioskID) req.maxDeltas)
    | .time _, .error err, _ => .error ⟨.internal, "compute deltas: repository: invalid store id: " ++ err⟩
    | .time _, .ok _, .error err =>
      .error ⟨.internal, "compute deltas: repository: invalid kiosk id: " ++ err⟩
    | .time since, .ok storeID, .ok kioskID =>
      .ok (getDeltasSince db storeID kioskID since req.maxDeltas)

end SyncService
