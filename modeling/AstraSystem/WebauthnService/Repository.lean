import AstraSystem.Lib.Postgres
import AstraSystem.Lib.Table
import AstraSystem.Lib.UUID

/-!
# Credentials and sessions (`webauthn-service/internal/repository/repository.go`)

A credential is read from the row of its employee or user. An id that a session leaves out is stored as `NULL`, and a
session with a `NULL` cannot be read.
-/

namespace WebauthnService

open Postgres (Outcome varchar)

inductive ActorType where
  | employee
  | user
  deriving DecidableEq

def ActorType.string : ActorType → String
  | .employee => "employee"
  | .user => "user"

structure Credential where
  actorID : String
  actorType : ActorType
  storeID : String := ""
  tenantID : String := ""
  credentialID : String
  publicKey : List UInt8
  isActive : Bool
  deriving DecidableEq

structure Session where
  sessionID : String
  actorID : String
  actorType : ActorType
  challenge : String
  storeID : String := ""
  kioskID : String := ""
  tenantID : String := ""
  reason : String := ""
  relyingPartyID : String
  /-- Microseconds since 1970. -/
  expiresAt : ℤ
  deriving DecidableEq

inductive RepositoryError where
  | credentialNotFound
  | sessionNotFound
  | other (err : String)
  deriving DecidableEq

def RepositoryError.text : RepositoryError → String
  | .credentialNotFound => "repository: credential not found"
  | .sessionNotFound => "repository: session not found"
  | .other err => err

/-- A row of `employees` or of `users`; its scope is a store or a tenant. -/
structure ActorRow where
  actorID : UUID
  scopeID : UUID
  credentialID : Option String := none
  publicKey : Option (List UInt8) := none
  isActive : Bool := true
  deleted : Bool := false
  deriving DecidableEq

structure SessionRow where
  sessionID : UUID
  actorID : UUID
  actorType : ActorType
  challenge : String
  storeID : Option UUID
  kioskID : Option UUID
  tenantID : Option UUID
  reason : String
  relyingPartyID : String
  expiresAt : ℤ
  deriving DecidableEq

abbrev Actors := Table ActorRow UUID ActorRow.actorID

abbrev Sessions := Table SessionRow UUID SessionRow.sessionID

structure DB where
  employees : Actors := .empty
  users : Actors := .empty
  sessions : Sessions := .empty

def DB.actors (db : DB) : ActorType → Actors
  | .employee => db.employees
  | .user => db.users

/-- What `Scan` says of a column that is `NULL`. -/
def nullString (index : ℕ) (name : String) : String :=
  "sql: Scan error on column index " ++ toString index ++ ", name \"" ++ name ++
    "\": converting NULL to string is unsupported"

section
variable (uuid : UUIDText)

def ActorRow.credential (row : ActorRow) (actorType : ActorType) (credentialID : String) : Credential where
  actorID := uuid.string row.actorID
  actorType
  storeID := match actorType with
    | .employee => uuid.string row.scopeID
    | .user => ""
  tenantID := match actorType with
    | .employee => ""
    | .user => uuid.string row.scopeID
  credentialID
  publicKey := row.publicKey.getD []
  isActive := row.isActive

def getCredential (db : DB) (actorID : String) (actorType : ActorType) (fault : Option String) :
    Except RepositoryError Credential :=
  let context := "repository: query " ++ actorType.string ++ " credential: "
  match fault, uuid.parse actorID with
  | some err, _ | none, .error err => .error (.other (context ++ err))
  | none, .ok id =>
    match (db.actors actorType).rows.find? fun row => row.actorID = id ∧ row.deleted = false with
    | none => .error .credentialNotFound
    | some row =>
      match row.credentialID with
      | none => .error (.other (context ++ nullString 2 "webauthn_credential_id"))
      | some credentialID => .ok (row.credential uuid actorType credentialID)

def ActorRow.save (id : UUID) (credentialID : String) (publicKey : List UInt8) (row : ActorRow) : ActorRow :=
  if row.actorID = id ∧ row.deleted = false then
    { row with credentialID := some credentialID, publicKey := some publicKey }
  else row

theorem ActorRow.save_actorID (id : UUID) (credentialID : String) (publicKey : List UInt8) (row : ActorRow) :
    (row.save id credentialID publicKey).actorID = row.actorID := by
  unfold ActorRow.save
  split <;> rfl

def DB.saveActor (db : DB) (actorType : ActorType) (id : UUID) (credentialID : String) (publicKey : List UInt8) : DB :=
  let update (actors : Actors) : Actors :=
    actors.update (ActorRow.save id credentialID publicKey) (ActorRow.save_actorID id credentialID publicKey)
  match actorType with
  | .employee => { db with employees := update db.employees }
  | .user => { db with users := update db.users }

def saveCredential (db : DB) (actorID : String) (actorType : ActorType) (credentialID : String)
    (publicKey : List UInt8) (outcome : Outcome) : DB × Except String Unit :=
  let context := "repository: save " ++ actorType.string ++ " credential: "
  match uuid.parse actorID, varchar 255 credentialID with
  | .error err, _ | .ok _, .error err => (db, .error (context ++ err))
  | .ok id, .ok credentialID =>
    (if outcome.applies then db.saveActor actorType id credentialID publicKey else db, outcome.reply context)

/-- An empty id is stored as `NULL`. -/
def nullUUID (s : String) : Except String (Option UUID) :=
  if s = "" then .ok none else (uuid.parse s).map some

def Session.row (session : Session) : Except String SessionRow := do
  let sessionID ← uuid.parse session.sessionID
  let actorID ← uuid.parse session.actorID
  let challenge ← varchar 255 session.challenge
  let storeID ← nullUUID uuid session.storeID
  let kioskID ← nullUUID uuid session.kioskID
  let tenantID ← nullUUID uuid session.tenantID
  let reason ← varchar 255 session.reason
  let relyingPartyID ← varchar 255 session.relyingPartyID
  pure { sessionID, actorID, actorType := session.actorType, challenge, storeID, kioskID, tenantID, reason,
         relyingPartyID, expiresAt := session.expiresAt }

def createSession (db : DB) (session : Session) (outcome : Outcome) : DB × Except String Unit :=
  let context := "repository: insert session: "
  match session.row uuid with
  | .error err => (db, .error (context ++ err))
  | .ok row =>
    if (db.sessions.find? row.sessionID).isSome then
      (db, .error (context ++ "duplicate key value violates unique constraint \"webauthn_sessions_pkey\""))
    else (if outcome.applies then { db with sessions := db.sessions.insertNew row } else db, outcome.reply context)

def SessionRow.session (row : SessionRow) (storeID kioskID tenantID : UUID) : Session where
  sessionID := uuid.string row.sessionID
  actorID := uuid.string row.actorID
  actorType := row.actorType
  challenge := row.challenge
  storeID := uuid.string storeID
  kioskID := uuid.string kioskID
  tenantID := uuid.string tenantID
  reason := row.reason
  relyingPartyID := row.relyingPartyID
  expiresAt := row.expiresAt

/-- The query takes the first row; nothing keeps a challenge from coming twice, so any of them may be first. -/
def getSession (db : DB) (actorID : String) (actorType : ActorType) (challenge : String) (now : ℤ)
    (order : Shuffle SessionRow) (fault : Option String) : Except RepositoryError Session :=
  let context := "repository: query session: "
  match fault, uuid.parse actorID with
  | some err, _ | none, .error err => .error (.other (context ++ err))
  | none, .ok id =>
    match (order.apply (db.sessions.rows.filter fun row =>
        row.actorID = id ∧ row.actorType = actorType ∧ row.challenge = challenge ∧ now < row.expiresAt)).head? with
    | none => .error .sessionNotFound
    | some row =>
      match row.storeID, row.kioskID, row.tenantID with
      | some storeID, some kioskID, some tenantID => .ok (row.session uuid storeID kioskID tenantID)
      | none, _, _ => .error (.other (context ++ nullString 4 "store_id"))
      | some _, none, _ => .error (.other (context ++ nullString 5 "kiosk_id"))
      | some _, some _, none => .error (.other (context ++ nullString 6 "tenant_id"))

/-- Whether there is a row is not looked at. -/
def deleteSession (db : DB) (sessionID : String) (outcome : Outcome) : DB × Except String Unit :=
  let context := "repository: delete session: "
  match uuid.parse sessionID with
  | .error err => (db, .error (context ++ err))
  | .ok id =>
    (if outcome.applies then { db with sessions := db.sessions.delete fun row => row.sessionID = id } else db,
      outcome.reply context)

/-- Only the time of the last login is written. -/
def touchCredential (actorID : String) (actorType : ActorType) (outcome : Outcome) : Except String Unit :=
  let context := "repository: touch " ++ actorType.string ++ ": "
  match uuid.parse actorID with
  | .error err => .error (context ++ err)
  | .ok _ => outcome.reply context

end

end WebauthnService
