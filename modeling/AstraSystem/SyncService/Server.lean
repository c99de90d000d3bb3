import AstraSystem.SyncService.Auth

/-!
# Requests (`server/server.go`, `service/service.go`)

Whoever is authenticated is served. Heartbeats are one row for each kiosk and second.
-/

namespace SyncService

/-- A row of `sync_heartbeats`. -/
structure Heartbeat where
  kioskID : UUID
  storeID : UUID
  status : String
  vectorClock : Json
  acknowledgedAt : Time

/-- `date_trunc('second', acknowledged_at)`, of a time in microseconds. -/
def Heartbeat.second (h : Heartbeat) : ℤ := h.acknowledgedAt / 1000000

def Heartbeat.key (h : Heartbeat) : UUID × ℤ := (h.kioskID, h.second)

abbrev Heartbeats := Table Heartbeat (UUID × ℤ) Heartbeat.key

/-- `astra.sync.batch_ingested`. -/
structure BatchIngested where
  storeID : String
  kioskID : String
  deltaCount : ℕ
  deriving DecidableEq, Repr

/-- What is stored: the tables, and the notifications in the stream. -/
structure Database where
  events : SyncEvents := .empty
  heartbeats : Heartbeats := .empty
  published : List BatchIngested := []

/-- What a request finds: what an upload finds, whether the statement of a heartbeat fails, and whether a publication
that fails has stored its notification all the same. -/
structure ServeEnv extends Env where
  statement : Option String := none
  landed : Bool := false

inductive Reply where
  | ack (ack : SyncAck)
  | batch (storeID kioskID : String) (deltas : List SyncEvent)
  | heartbeat (kioskID : String) (acknowledgedAt : Time) (isLeader : Bool)

variable (pkg : Packages)

def HeartbeatRequest.clockJSON (req : HeartbeatRequest) : Json :=
  if req.vectorClock = [] then .null
  else .object (req.vectorClock.map fun e => (e.1, .number (Decimal.format e.2.toInt)))

/-- The row of a second keeps its store. -/
def Heartbeat.collapse (old new : Heartbeat) : Heartbeat := { new with storeID := old.storeID }

theorem Heartbeat.key_collapse (old new : Heartbeat) : (old.collapse new).key = new.key := rfl

def upsertHeartbeat (schema : Schema) (db : Heartbeats) (env : ServeEnv) (req : HeartbeatRequest) :
    Except String Heartbeats :=
  match pkg.uuid.parse req.kioskID, pkg.uuid.parse req.storeID, env.statement with
  | .error err, _, _ => .error ("repository: invalid kiosk id: " ++ err)
  | .ok _, .error err, _ => .error ("repository: invalid store id: " ++ err)
  | .ok _, .ok _, some err => .error ("repository: upsert heartbeat: " ++ err)
  | .ok kioskID, .ok storeID, none =>
    if ¬ schema.heartbeats then .error "repository: upsert heartbeat: relation \"sync_heartbeats\" does not exist"
    else .ok (db.upsert Heartbeat.collapse Heartbeat.key_collapse
      ⟨kioskID, storeID, req.status, req.clockJSON, env.now 0⟩)

def heartbeat (schema : Schema) (kiosks : Kiosks) (db : Heartbeats) (env : ServeEnv) (req : HeartbeatRequest) :
    Heartbeats × Except Status Reply :=
  if req.kioskID = "" ∨ req.storeID = "" then
    (db, .error (invalidArgument "kiosk_id and store_id are required"))
  else match upsertHeartbeat pkg schema db env req with
    | .error err => (db, .error ⟨.internal, "record heartbeat: " ++ err⟩)
    | .ok db => (db, match getKiosk pkg.uuid kiosks req.kioskID with
      | .error .kioskNotFound => .error ⟨.unauthenticated, "kiosk not found"⟩
      | .error (.other err) => .error ⟨.internal, "lookup kiosk: " ++ err⟩
      | .ok kiosk => .ok (.heartbeat req.kioskID (env.now 0) kiosk.isLeader))

/-- The notification of an upload that has come so far: all but the publication of it goes well. -/
def notified (schema : Schema) (db : SyncEvents) (env : ServeEnv) (auth : String) (b : SyncBatch) :
    List BatchIngested :=
  if (uploadBatch pkg schema db { env.toEnv with publish := none } auth b).2.isOk ∧
      (env.publish = none ∨ env.landed = true) then
    [⟨b.storeID, b.kioskID, b.deltas.length⟩]
  else []

/-- The handlers, for the kiosk that is authenticated. -/
def handle (schema : Schema) (kiosks : Kiosks) (db : Database) (env : ServeEnv) (kioskID : String) :
    Request → Database × Except Status Reply
  | .uploadBatch none => (db, .error (invalidArgument "batch is required"))
  | .uploadBatch (some b) =>
    let r := uploadBatch pkg schema db.events env.toEnv kioskID b
    ({ db with events := r.1, published := db.published ++ notified pkg schema db.events env kioskID b },
      r.2.map .ack)
  | .downloadBatch req =>
    (db, (downloadBatch pkg db.events req).map (.batch req.storeID req.kioskID))
  | .heartbeat req =>
    let r := heartbeat pkg schema kiosks db.heartbeats env req
    ({ db with heartbeats := r.1 }, r.2)

/-- A request, how it comes, and what it finds. -/
structure Call where
  transport : Transport
  authorization : List String
  req : Request
  env : ServeEnv

/-- The kiosk id under which the call reaches the service. -/
def Call.kioskID (kiosks : Kiosks) (c : Call) : Except Status String :=
  authenticated pkg.uuid kiosks c.authorization c.req c.transport

def serve (schema : Schema) (kiosks : Kiosks) (db : Database) (c : Call) : Database × Except Status Reply :=
  match c.kioskID pkg kiosks with
  | .error status => (db, .error status)
  | .ok kioskID => handle pkg schema kiosks db c.env kioskID c.req

/-- The call comes from an active leader. -/
def Call.By (kiosks : Kiosks) (c : Call) (k : KioskRow) : Prop :=
  ∃ id, c.kioskID pkg kiosks = .ok id ∧ getKiosk pkg.uuid kiosks id = .ok k

section
variable {pkg} {schema : Schema} {kiosks : Kiosks} {db : Database} {c : Call} {k : KioskRow}

/-- By either way the id is that of the message. -/
theorem Call.kioskID_eq_ok {id : String} (h : c.kioskID pkg kiosks = .ok id) :
    id = c.req.restKioskID ∧ id ≠ "" := by
  obtain ⟨transport, authorization, req, env⟩ := c
  cases transport with
  | rest =>
    obtain ⟨rfl, k, admits⟩ := authenticate_eq_ok.mp h
    exact ⟨rfl, admits.given⟩
  | grpc =>
    obtain ⟨same, k, admits⟩ := interceptor_eq_ok.mp h
    refine ⟨?_, admits.given⟩
    cases req <;> cases same <;> rfl

/-- A call is refused, or it comes from a kiosk. -/
theorem Call.by_cases (pkg : Packages) (kiosks : Kiosks) (c : Call) :
    (∃ status, c.kioskID pkg kiosks = .error status) ∨ ∃ k, c.By pkg kiosks k := by
  cases named : c.kioskID pkg kiosks with
  | error status => exact .inl ⟨status, rfl⟩
  | ok id =>
    obtain ⟨transport, authorization, req, env⟩ := c
    refine .inr ?_
    cases transport with
    | rest =>
      obtain ⟨rfl, k, admits⟩ := authenticate_eq_ok.mp named
      exact ⟨k, _, named, getKiosk_eq_ok.mpr ⟨admits.parsed, admits.stored, admits.active⟩⟩
    | grpc =>
      obtain ⟨-, k, admits⟩ := interceptor_eq_ok.mp named
      exact ⟨k, _, named, getKiosk_eq_ok.mpr ⟨admits.parsed, admits.stored, admits.active⟩⟩

theorem Call.By.parsed (h : c.By pkg kiosks k) :
    c.req.restKioskID ≠ "" ∧ pkg.uuid.parse c.req.restKioskID = .ok k.kioskID := by
  obtain ⟨id, named, found⟩ := h
  obtain ⟨rfl, given⟩ := Call.kioskID_eq_ok named
  exact ⟨given, (getKiosk_eq_ok.mp found).1⟩

theorem Call.By.stored (h : c.By pkg kiosks k) : k ∈ kiosks.rows := by
  obtain ⟨id, -, found⟩ := h
  exact (getKiosk_eq_ok.mp found).2.1

theorem Call.By.serve (h : c.By pkg kiosks k) (schema : Schema) (db : Database) :
    serve pkg schema kiosks db c = handle pkg schema kiosks db c.env c.req.restKioskID c.req := by
  obtain ⟨id, named, -⟩ := h
  obtain ⟨rfl, -⟩ := Call.kioskID_eq_ok named
  simp only [SyncService.serve, named]

theorem serve_refused {status : Status} (h : c.kioskID pkg kiosks = .error status) (schema : Schema)
    (db : Database) : serve pkg schema kiosks db c = (db, .error status) := by
  simp only [serve, h]

end

end SyncService
