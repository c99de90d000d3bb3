import AstraSystem.Lib.Runs
import AstraSystem.WebauthnService.Repository

/-!
# The ceremonies (`service/service.go`, `service/webauthn.go`)

A ceremony is begun with a session, and finished in several statements: the session is read, the response verified,
the session deleted. The two kinds of login share one table of sessions with the registration, and a row does not say
which it is of.
-/

namespace WebauthnService

open Postgres (Outcome)

inductive Code where
  | invalidArgument
  | notFound
  | permissionDenied
  | internal
  deriving DecidableEq

structure Status where
  code : Code
  message : String
  deriving DecidableEq

inductive Ceremony where
  | verification
  | authentication
  | registration
  deriving DecidableEq

inductive Operation where
  | verifyAssertion
  | finishAuthentication
  | finishRegistration
  deriving DecidableEq

/-- The operation that finishes a ceremony. -/
def Ceremony.finish : Ceremony → Operation
  | .verification => .verifyAssertion
  | .authentication => .finishAuthentication
  | .registration => .finishRegistration

/-- `ACTOR_TYPE_USER` is 2, and every other number is an employee. -/
def actorTypeFromProto (at_ : Int32) : ActorType := if at_ = 2 then .user else .employee

structure BeginRequest where
  actorID : String
  actorType : Int32
  storeID : String := ""
  kioskID : String := ""
  tenantID : String := ""
  reason : String := ""
  deriving DecidableEq

/-- Of a response, with the type of the authenticator's part. -/
structure FinishRequest (R : Type) where
  actorID : String
  actorType : Int32
  challenge : String
  credentialID : String
  response : Option R

structure User where
  actorID : String
  creds : List (List UInt8 × List UInt8) := []
  deriving DecidableEq

structure SessionData where
  challenge : String
  userID : String
  allowedCredentialIDs : List (List UInt8) := []
  relyingPartyID : String
  deriving DecidableEq

/-- The libraries for the ceremonies, which parse responses to `P`. -/
structure Verifier (R P : Type) where
  decodeString : String → Option (List UInt8)
  encodeToString : List UInt8 → String
  parse : String → R → Except String P
  finishLogin : User → SessionData → P → Except String Unit
  finishRegistration : User → SessionData → P → Except String (List UInt8 × List UInt8)

structure Claims where
  iss : String
  sub : String
  actorType : String
  storeID : String
  tenantID : String
  /-- In seconds, as the next. -/
  iat : ℤ
  exp : ℤ
  deriving DecidableEq

/-- The library for tokens, with the secret; a text without its signature has no claims. -/
structure JWT where
  sign : Claims → String
  parse : String → Option Claims

structure Service (R P : Type) where
  uuid : UUIDText
  verifier : Verifier R P
  jwt : JWT
  /-- In nanoseconds. -/
  ttl : ℤ

/-- What a call finds that begins a ceremony: a new id, and what the verifier draws. -/
structure Draw where
  sessionID : UUID
  begun : Except String (String × String)
  /-- In microseconds. -/
  now : ℤ
  fault : Option String := none
  outcome : Outcome := .committed

variable {R P : Type}

namespace Service

variable (s : Service R P)

/-! ## Beginning -/

def create (db : DB) (draw : Draw) (context : String) (session : String → String → Session) :
    DB × Except Status String :=
  match draw.begun with
  | .error err => (db, .error ⟨.internal, context ++ err⟩)
  | .ok (challenge, relyingPartyID) =>
    let (db, reply) := createSession s.uuid db (session challenge relyingPartyID) draw.outcome
    (db, (reply.mapError fun err => ⟨.internal, "store session: " ++ err⟩).map fun _ => challenge)

/-- Two minutes are left for a login. -/
def beginLogin (context : String) (reason : String) (db : DB) (req : BeginRequest) (draw : Draw) :
    DB × Except Status String :=
  let actorType := actorTypeFromProto req.actorType
  if req.actorID = "" then (db, .error ⟨.invalidArgument, "actor_id is required"⟩)
  else
    match getCredential s.uuid db req.actorID actorType draw.fault with
    | .error .credentialNotFound => (db, .error ⟨.notFound, "credential not found for actor " ++ req.actorID⟩)
    | .error err => (db, .error ⟨.internal, "load credential: " ++ err.text⟩)
    | .ok cred =>
      if cred.isActive then
        s.create db draw context fun challenge relyingPartyID =>
          { sessionID := s.uuid.string draw.sessionID
            actorID := req.actorID
            actorType, challenge
            storeID := req.storeID
            kioskID := req.kioskID
            tenantID := req.tenantID
            reason, relyingPartyID
            expiresAt := draw.now + 2 * 60 * 10 ^ 6 }
      else (db, .error ⟨.permissionDenied, "credential is inactive"⟩)

def beginVerification (db : DB) (req : BeginRequest) : Draw → DB × Except Status String :=
  s.beginLogin "begin login: " req.reason db req

def beginAuthentication (db : DB) (req : BeginRequest) : Draw → DB × Except Status String :=
  s.beginLogin "begin authentication: " "" db req

/-- The request has no kiosk. -/
def beginRegistration (db : DB) (req : BeginRequest) (draw : Draw) : DB × Except Status String :=
  if req.actorID = "" then (db, .error ⟨.invalidArgument, "actor_id is required"⟩)
  else
    s.create db draw "begin registration: " fun challenge relyingPartyID =>
      { sessionID := s.uuid.string draw.sessionID
        actorID := req.actorID
        actorType := actorTypeFromProto req.actorType
        challenge
        storeID := req.storeID
        tenantID := req.tenantID
        relyingPartyID
        expiresAt := draw.now + 5 * 60 * 10 ^ 6 }

def start : Ceremony → DB → BeginRequest → Draw → DB × Except Status String
  | .verification => s.beginVerification
  | .authentication => s.beginAuthentication
  | .registration => s.beginRegistration

/-! ## Finishing -/

def responseName : Operation → String
  | .finishRegistration => "attestation"
  | .verifyAssertion | .finishAuthentication => "assertion"

def loadSession (op : Operation) (db : DB) (req : FinishRequest R) (now : ℤ) (order : Shuffle SessionRow)
    (fault : Option String) : Except Status (R × Session) :=
  if req.actorID = "" then .error ⟨.invalidArgument, "actor_id is required"⟩
  else
    match req.response with
    | none => .error ⟨.invalidArgument, responseName op ++ " is required"⟩
    | some response =>
      match getSession s.uuid db req.actorID (actorTypeFromProto req.actorType) req.challenge now order fault with
      | .error .sessionNotFound => .error ⟨.invalidArgument, "challenge not found or expired"⟩
      | .error err => .error ⟨.internal, "load session: " ++ err.text⟩
      | .ok session => .ok (response, session)

def credentialBytes (credentialID : String) : List UInt8 :=
  (s.verifier.decodeString credentialID).getD (Bytes.utf8 credentialID)

def credentialIDString (credentialID : String) : String := s.verifier.encodeToString (s.credentialBytes credentialID)

/-- The answer that a response is refused is none of an error. -/
def verifyLogin (db : DB) (req : FinishRequest R) (response : R) (session : Session) (fault : Option String) :
    Except Status (Option Credential) :=
  match getCredential s.uuid db req.actorID (actorTypeFromProto req.actorType) fault with
  | .error .credentialNotFound => .error ⟨.notFound, "credential not found"⟩
  | .error err => .error ⟨.internal, "load credential: " ++ err.text⟩
  | .ok cred =>
    if cred.isActive then
      match s.verifier.parse (s.credentialIDString req.credentialID) response with
      | .error err => .error ⟨.invalidArgument, "invalid assertion: " ++ err⟩
      | .ok parsed =>
        let id := s.credentialBytes cred.credentialID
        let data : SessionData :=
          { challenge := session.challenge
            userID := req.actorID
            allowedCredentialIDs := [id]
            relyingPartyID := session.relyingPartyID }
        match s.verifier.finishLogin ⟨req.actorID, [(id, cred.publicKey)]⟩ data parsed with
        | .error _ => .ok none
        | .ok () => .ok (some cred)
    else .error ⟨.permissionDenied, "credential is inactive"⟩

def verifyRegistration (req : FinishRequest R) (response : R) (session : Session) :
    Except Status (Option (List UInt8 × List UInt8)) :=
  match s.verifier.parse (s.credentialIDString req.credentialID) response with
  | .error err => .error ⟨.invalidArgument, "invalid attestation: " ++ err⟩
  | .ok parsed =>
    let data : SessionData :=
      { challenge := session.challenge, userID := req.actorID, relyingPartyID := session.relyingPartyID }
    match s.verifier.finishRegistration { actorID := req.actorID } data parsed with
    | .error _ => .ok none
    | .ok cred => .ok (some cred)

end Service

/-! ## Override tokens -/

def overrideTokenIssuer : String := "astra-webauthn-service"

structure ValidateResponse where
  valid : Bool := false
  actorID : String := ""
  actorType : ActorType := .employee
  storeID : String := ""
  tenantID : String := ""
  expiresAt : ℤ := 0
  deriving DecidableEq

def actorTypeFromString (s : String) : ActorType := if s = "user" then .user else .employee

namespace Service

variable (s : Service R P)

/-- The clock is in nanoseconds. -/
def issueOverrideToken (actorID : String) (actorType : ActorType) (storeID tenantID : String) (now : ℤ) : String × ℤ :=
  let expiresAt := now + s.ttl
  (s.jwt.sign
    { iss := overrideTokenIssuer
      sub := actorID
      actorType := actorType.string
      storeID, tenantID
      iat := now / 10 ^ 9
      exp := expiresAt / 10 ^ 9 }, expiresAt)

/-- The library looks at the issuer and the expiry. -/
def validateOverrideToken (overrideToken : String) (now : ℤ) : Except Status ValidateResponse :=
  if overrideToken = "" then .error ⟨.invalidArgument, "override_token is required"⟩
  else
    match s.jwt.parse overrideToken with
    | none => .ok {}
    | some claims =>
      if claims.iss = overrideTokenIssuer ∧ now < claims.exp * 10 ^ 9 then
        if claims.exp * 10 ^ 9 < now then .ok {}
        else
          .ok { valid := true
                actorID := claims.sub
                actorType := actorTypeFromString claims.actorType
                storeID := claims.storeID
                tenantID := claims.tenantID
                expiresAt := claims.exp * 10 ^ 9 }
      else .ok {}

end Service

/-! ## Histories -/

/-- How far a call has come that finishes a ceremony. -/
inductive Stage where
  | loaded
  | verified (cred : Credential)
  | saved (credentialID : String)
  | deleted (cred : Credential)
  deriving DecidableEq

structure Call (R : Type) where
  op : Operation
  req : FinishRequest R
  response : R
  session : Session
  stage : Stage := .loaded

/-- A session as it was stored, and the ceremony that it was stored for. -/
structure Created where
  ceremony : Ceremony
  row : SessionRow
  deriving DecidableEq

/-- A call that has reported success. -/
structure Success where
  op : Operation
  actorID : String
  actorType : ActorType
  sessionID : String
  deriving DecidableEq

/-- An actor whose assertion was verified, with the credential that it was verified for. -/
structure Verified where
  actorID : String
  actorType : ActorType
  credential : Credential
  deriving DecidableEq

/-- An override token, and what it was issued for. -/
structure Issued where
  token : String
  holder : Verified
  expiresAt : ℤ
  deriving DecidableEq

/-- What is stored and in progress, and for the record what was begun, verified, finished and issued. -/
structure State (R : Type) where
  db : DB := {}
  calls : ℕ → Option (Call R) := fun _ => none
  created : List Created := []
  verified : List Verified := []
  successes : List Success := []
  issued : List Issued := []

inductive Action (R : Type) where
  | start (ceremony : Ceremony) (req : BeginRequest) (draw : Draw)
  | load (i : ℕ) (op : Operation) (req : FinishRequest R) (now : ℤ) (order : Shuffle SessionRow) (fault : Option String)
  | verify (i : ℕ) (fault : Option String) (outcome : Outcome)
  | delete (i : ℕ) (outcome : Outcome)
  | touch (i : ℕ) (outcome : Outcome) (now : ℤ)
  /-- Other services change employees and users. -/
  | administer (employees users : Actors)

namespace State

variable (s : Service R P) (w : State R)

def setCall (i : ℕ) (call : Option (Call R)) : State R := { w with calls := Function.update w.calls i call }

/-- No id is drawn twice. -/
def start (ceremony : Ceremony) (req : BeginRequest) (draw : Draw) : State R :=
  if draw.sessionID ∈ w.created.map (·.row.sessionID) then w
  else
    let (db, _) := s.start ceremony w.db req draw
    match db.sessions.find? draw.sessionID with
    | none => { w with db }
    | some row => { w with db, created := w.created ++ [⟨ceremony, row⟩] }

def load (i : ℕ) (op : Operation) (req : FinishRequest R) (now : ℤ) (order : Shuffle SessionRow)
    (fault : Option String) : State R :=
  match w.calls i, s.loadSession op w.db req now order fault with
  | none, .ok (response, session) => w.setCall i (some { op, req, response, session })
  | _, _ => w

/-- A registration is saved with the verification. -/
def verify (i : ℕ) (fault : Option String) (outcome : Outcome) : State R :=
  match w.calls i with
  | some ⟨.finishRegistration, req, response, session, .loaded⟩ =>
    match s.verifyRegistration req response session with
    | .error _ | .ok none => w.setCall i none
    | .ok (some (id, publicKey)) =>
      let credentialID := s.verifier.encodeToString id
      let (db, reply) :=
        saveCredential s.uuid w.db req.actorID (actorTypeFromProto req.actorType) credentialID publicKey outcome
      match reply with
      | .error _ => { w.setCall i none with db }
      | .ok () =>
        { w.setCall i (some ⟨.finishRegistration, req, response, session, .saved credentialID⟩) with db }
  | some ⟨op, req, response, session, .loaded⟩ =>
    match s.verifyLogin w.db req response session fault with
    | .error _ | .ok none => w.setCall i none
    | .ok (some cred) =>
      { w.setCall i (some ⟨op, req, response, session, .verified cred⟩) with
        verified := w.verified ++ [⟨req.actorID, actorTypeFromProto req.actorType, cred⟩] }
  | _ => w

def success (op : Operation) (req : FinishRequest R) (session : Session) : Success where
  op
  actorID := req.actorID
  actorType := actorTypeFromProto req.actorType
  sessionID := session.sessionID

/-- A registration ends with its session. -/
def delete (i : ℕ) (outcome : Outcome) : State R :=
  match w.calls i with
  | some ⟨op, req, response, session, .verified cred⟩ =>
    let (db, reply) := deleteSession s.uuid w.db session.sessionID outcome
    match reply with
    | .error _ => { w.setCall i none with db }
    | .ok () => { w.setCall i (some ⟨op, req, response, session, .deleted cred⟩) with db }
  | some ⟨op, req, _, session, .saved _⟩ =>
    let (db, reply) := deleteSession s.uuid w.db session.sessionID outcome
    match reply with
    | .error _ => { w.setCall i none with db }
    | .ok () => { w.setCall i none with db, successes := w.successes ++ [success op req session] }
  | _ => w

/-- An override token is issued at the end of `VerifyAssertion`. -/
def touch (i : ℕ) (outcome : Outcome) (now : ℤ) : State R :=
  match w.calls i with
  | some ⟨op, req, _, session, .deleted cred⟩ =>
    let actorType := actorTypeFromProto req.actorType
    match touchCredential s.uuid req.actorID actorType outcome with
    | .error _ => w.setCall i none
    | .ok () =>
      let done := { w.setCall i none with successes := w.successes ++ [success op req session] }
      match op with
      | .verifyAssertion =>
        let (token, expiresAt) := s.issueOverrideToken req.actorID actorType session.storeID session.tenantID now
        { done with issued := w.issued ++ [⟨token, ⟨req.actorID, actorType, cred⟩, expiresAt⟩] }
      | _ => done
  | _ => w

def step : Action R → State R
  | .start ceremony req draw => w.start s ceremony req draw
  | .load i op req now order fault => w.load s i op req now order fault
  | .verify i fault outcome => w.verify s i fault outcome
  | .delete i outcome => w.delete s i outcome
  | .touch i outcome now => w.touch s i outcome now
  | .administer employees users => { w with db := { w.db with employees, users } }

end State

end WebauthnService
