import AstraSystem.Lib.Separated
import AstraSystem.SyncService.Service

/-!
# Authentication (`auth/interceptor.go`, `auth/rest.go`, `server/server.go`)

A request comes by gRPC, where an interceptor looks for the kiosk id in the message, or by REST, where each
handler extracts it. Either way the kiosk must be the leader of its mesh and show its signing key hash.
-/

namespace SyncService

/-! ## Messages -/

structure HeartbeatRequest where
  kioskID : String
  storeID : String
  status : String
  vectorClock : List (String × Int64) := []
  deriving DecidableEq, Repr

inductive Request where
  | uploadBatch (batch : Option SyncBatch)
  | downloadBatch (req : DownloadBatchRequest)
  | heartbeat (req : HeartbeatRequest)
  deriving DecidableEq, Repr

/-- `GetKioskId` of the generated type, if it has this method: an `UploadBatchRequest` has no field but its
batch. -/
def Request.getKioskId : Request → Option String
  | .uploadBatch _ => none
  | .downloadBatch req => some req.kioskID
  | .heartbeat req => some req.kioskID

/-- The id that a REST handler extracts. -/
def Request.restKioskID : Request → String
  | .uploadBatch batch => (batch.map SyncBatch.kioskID).getD ""
  | .downloadBatch req => req.kioskID
  | .heartbeat req => req.kioskID

/-! ## Kiosks -/

/-- A row of `kiosks`, as far as it is read. -/
structure KioskRow where
  kioskID : UUID
  storeID : UUID
  signingKeyHash : String
  isLeader : Bool
  deleted : Bool := false
  deriving DecidableEq, Repr

abbrev Kiosks := Table KioskRow UUID KioskRow.kioskID

inductive GetKioskError where
  | kioskNotFound
  | other (message : String)
  deriving DecidableEq, Repr

def getKiosk (uuid : UUIDText) (kiosks : Kiosks) (kioskID : String) : Except GetKioskError KioskRow :=
  match uuid.parse kioskID with
  | .error err => .error (.other ("repository: invalid kiosk id: " ++ err))
  | .ok id =>
    match kiosks.find? id with
    | none => .error .kioskNotFound
    | some k => if k.deleted then .error .kioskNotFound else .ok k

/-! ## Bearer tokens -/

/-- `strings.EqualFold(scheme, "Bearer")`: no letter outside ASCII folds to one of these. -/
def isBearer (scheme : List Char) : Bool := scheme.map Char.toLower = "bearer".toList

/-- What both front ends make of the value of the header. -/
def bearerToken (value : String) : Except String String :=
  match Separated.cutFirst ' ' value.toList with
  | none => .error "authorization header must be Bearer token"
  | some (scheme, token) =>
    if ¬ isBearer scheme then .error "authorization header must be Bearer token"
    else if token = [] then .error "empty bearer token"
    else .ok (String.ofList token)

/-- All values of the metadata, of which the first counts. -/
def extractBearerToken (authorization : List String) : Except String String :=
  match authorization with
  | [] => .error "missing authorization header"
  | value :: _ => bearerToken value

def extractBearerFromHeader (header : String) : Except String String :=
  if header = "" then .error "missing authorization header" else bearerToken header

/-! ## The two front ends -/

def extractKioskID (req : Request) : Except String String :=
  match req.getKioskId with
  | none => .error "request type does not expose kiosk_id"
  | some id => if id = "" then .error "kiosk_id is required" else .ok id

/-- The steps after the kiosk id is known; the texts of gRPC have a `context`. -/
def letIn (uuid : UUIDText) (kiosks : Kiosks) (context : String) (token : Except String String)
    (kioskID : String) : Except Status String :=
  match getKiosk uuid kiosks kioskID with
  | .error .kioskNotFound => .error ⟨.unauthenticated, context ++ "kiosk not found"⟩
  | .error (.other err) => .error ⟨.internal, context ++ "lookup kiosk: " ++ err⟩
  | .ok kiosk =>
    if ¬ kiosk.isLeader then .error ⟨.permissionDenied, context ++ "kiosk is not the mesh leader"⟩
    else match token with
      | .error err => .error ⟨.unauthenticated, context ++ err⟩
      | .ok token =>
        if token ≠ kiosk.signingKeyHash then .error ⟨.unauthenticated, context ++ "invalid credentials"⟩
        else .ok kioskID

/-- The kiosk id under which the interceptor calls the handler. -/
def interceptor (uuid : UUIDText) (kiosks : Kiosks) (authorization : List String) (req : Request) :
    Except Status String :=
  match extractKioskID req with
  | .error err => .error ⟨.invalidArgument, "auth: " ++ err⟩
  | .ok kioskID => letIn uuid kiosks "auth: " (extractBearerToken authorization) kioskID

/-- `RESTAuth.Authenticate`; `Header.Get` gives the first value of the header, or an empty text. -/
def authenticate (uuid : UUIDText) (kiosks : Kiosks) (authorization : List String) (kioskID : String) :
    Except Status String :=
  if kioskID = "" then .error ⟨.invalidArgument, "kiosk_id is required"⟩
  else letIn uuid kiosks "" (extractBearerFromHeader (authorization.headD "")) kioskID

inductive Transport where
  | grpc
  | rest
  deriving DecidableEq, Repr

/-- The kiosk id under which a request reaches the service. -/
def authenticated (uuid : UUIDText) (kiosks : Kiosks) (authorization : List String) (req : Request) :
    Transport → Except Status String
  | .grpc => interceptor uuid kiosks authorization req
  | .rest => authenticate uuid kiosks authorization req.restKioskID

/-! ## Who is admitted -/

/-- The request shows the signing key hash of an active leader. -/
structure Admits (uuid : UUIDText) (kiosks : Kiosks) (authorization : List String) (kioskID : String)
    (k : KioskRow) : Prop where
  given : kioskID ≠ ""
  parsed : uuid.parse kioskID = .ok k.kioskID
  stored : k ∈ kiosks.rows
  active : k.deleted = false
  leader : k.isLeader = true
  token : ∃ scheme rest, authorization = (String.ofList (scheme ++ ' ' :: k.signingKeyHash.toList)) :: rest ∧
    ' ' ∉ scheme ∧ isBearer scheme
  hash : k.signingKeyHash ≠ ""

section
variable {uuid : UUIDText} {kiosks : Kiosks} {authorization : List String} {kioskID : String} {req : Request}
  {k : KioskRow}

theorem getKiosk_eq_ok : getKiosk uuid kiosks kioskID = .ok k ↔
    uuid.parse kioskID = .ok k.kioskID ∧ k ∈ kiosks.rows ∧ k.deleted = false := by
  unfold getKiosk
  cases parsed : uuid.parse kioskID with
  | error err => simp
  | ok id =>
    dsimp only
    cases found : kiosks.find? id with
    | none =>
      refine ⟨fun h => (by cases h), ?_⟩
      rintro ⟨same, stored, -⟩
      exact absurd (Except.ok.inj same).symm (Table.find?_eq_none.mp found k stored)
    | some row =>
      obtain ⟨mem, rfl⟩ := Table.find?_eq_some.mp found
      cases deleted : row.deleted with
      | true =>
        refine ⟨fun h => (by simp [deleted] at h), ?_⟩
        rintro ⟨same, stored, active⟩
        obtain rfl := kiosks.unique mem stored (Except.ok.inj same)
        cases deleted.symm.trans active
      | false =>
        constructor
        · intro h
          simp only [deleted, Bool.false_eq_true, ↓reduceIte] at h
          cases h
          exact ⟨rfl, mem, deleted⟩
        · rintro ⟨same, stored, -⟩
          obtain rfl := kiosks.unique mem stored (Except.ok.inj same)
          simp [deleted]

theorem bearerToken_eq_ok {value token : String} : bearerToken value = .ok token ↔ token ≠ "" ∧
    ∃ scheme, value = String.ofList (scheme ++ ' ' :: token.toList) ∧ ' ' ∉ scheme ∧
      isBearer scheme := by
  have cut (scheme rest : List Char) : Separated.cutFirst ' ' value.toList = some (scheme, rest) ↔
      value = String.ofList (scheme ++ ' ' :: rest) ∧ ' ' ∉ scheme := by
    rw [Separated.cutFirst_eq_some]
    exact and_congr_left' ⟨fun h => by rw [← h, String.ofList_toList], fun h => by rw [h, String.toList_ofList]⟩
  unfold bearerToken
  constructor
  · intro h
    split at h
    · cases h
    · rename_i scheme rest found
      obtain ⟨rfl, first⟩ := (cut scheme rest).mp found
      split at h
      · cases h
      · rename_i bearer
        split at h
        · cases h
        · rename_i given
          cases h
          refine ⟨fun none => given ?_, scheme, by rw [String.toList_ofList], first, not_not.mp bearer⟩
          simpa using congrArg String.toList none
  · rintro ⟨given, scheme, split, first, bearer⟩
    have given : token.toList ≠ [] := fun none => given (by rw [← String.ofList_toList (s := token), none])
    simp [(cut scheme token.toList).mpr ⟨split, first⟩, bearer, given]

/-- No value and an empty one are refused alike. -/
theorem bearer_alike (authorization : List String) : (extractBearerToken authorization).toOption =
    (extractBearerFromHeader (authorization.headD "")).toOption := by
  cases authorization with
  | nil => rfl
  | cons value rest =>
    show (bearerToken value).toOption = (if value = "" then _ else bearerToken value).toOption
    split
    · rename_i none
      rw [none]
      rfl
    · rfl

theorem letIn_eq_ok {context : String} {token : Except String String} {id : String} :
    letIn uuid kiosks context token kioskID = .ok id ↔ id = kioskID ∧
      ∃ k, getKiosk uuid kiosks kioskID = .ok k ∧ k.isLeader ∧ token.toOption = some k.signingKeyHash := by
  unfold letIn
  cases found : getKiosk uuid kiosks kioskID with
  | error err => cases err <;> simp
  | ok k =>
    cases leader : k.isLeader with
    | false => simp [leader]
    | true =>
      simp only [leader, not_true_eq_false, ↓reduceIte, Except.ok.injEq, exists_eq_left', true_and]
      cases token with
      | error err => simp [Except.toOption]
      | ok token =>
        simp only [Except.toOption, Option.some.injEq]
        split
        · rename_i other
          exact ⟨fun h => (by cases h), fun h => absurd h.2 other⟩
        · rename_i same
          rw [not_not] at same
          exact ⟨fun h => ⟨(Except.ok.inj h).symm, same⟩, fun h => congrArg Except.ok h.1.symm⟩

theorem bearer_eq_some : (extractBearerToken authorization).toOption = some k.signingKeyHash ↔
    k.signingKeyHash ≠ "" ∧ ∃ scheme rest,
      authorization = (String.ofList (scheme ++ ' ' :: k.signingKeyHash.toList)) :: rest ∧ ' ' ∉ scheme ∧
        isBearer scheme := by
  have ok (x : Except String String) : x.toOption = some k.signingKeyHash ↔ x = .ok k.signingKeyHash := by
    cases x <;> simp [Except.toOption]
  rw [ok]
  cases authorization with
  | nil => simp [extractBearerToken]
  | cons value rest =>
    show bearerToken value = _ ↔ _
    rw [bearerToken_eq_ok]
    simp [and_assoc]

theorem admits_iff : (∃ k, getKiosk uuid kiosks kioskID = .ok k ∧ k.isLeader ∧
      (extractBearerToken authorization).toOption = some k.signingKeyHash) ∧ kioskID ≠ "" ↔
    ∃ k, Admits uuid kiosks authorization kioskID k := by
  constructor
  · rintro ⟨⟨k, found, leader, token⟩, given⟩
    obtain ⟨parsed, stored, active⟩ := getKiosk_eq_ok.mp found
    obtain ⟨hash, shows⟩ := bearer_eq_some.mp token
    exact ⟨k, given, parsed, stored, active, leader, shows, hash⟩
  · rintro ⟨k, h⟩
    exact ⟨⟨k, getKiosk_eq_ok.mpr ⟨h.parsed, h.stored, h.active⟩, h.leader,
      bearer_eq_some.mpr ⟨h.hash, h.token⟩⟩, h.given⟩

/-- By REST whoever shows the hash of a leader is let in, under the id that the request has. -/
theorem authenticate_eq_ok {id : String} : authenticate uuid kiosks authorization kioskID = .ok id ↔
    id = kioskID ∧ ∃ k, Admits uuid kiosks authorization kioskID k := by
  rw [← admits_iff, authenticate]
  split
  · rename_i none
    exact ⟨fun h => (by cases h), fun h => absurd none h.2.2⟩
  · rename_i given
    rw [letIn_eq_ok, ← bearer_alike]
    tauto

/-- By gRPC the message must have the method. -/
theorem interceptor_eq_ok {id : String} : interceptor uuid kiosks authorization req = .ok id ↔
    req.getKioskId = some id ∧ ∃ k, Admits uuid kiosks authorization id k := by
  unfold interceptor extractKioskID
  cases req.getKioskId with
  | none => exact ⟨fun h => (by cases h), fun h => (by cases h.1)⟩
  | some kioskID =>
    rw [← admits_iff, Option.some_inj]
    by_cases given : kioskID = ""
    · simp only [given, ↓reduceIte]
      refine ⟨fun h => (by cases h), ?_⟩
      rintro ⟨rfl, -, given⟩
      exact absurd rfl given
    · simp only [given, ↓reduceIte]
      rw [letIn_eq_ok]
      constructor
      · rintro ⟨rfl, admitted⟩
        exact ⟨rfl, admitted, given⟩
      · rintro ⟨rfl, admitted, -⟩
        exact ⟨rfl, admitted⟩

end

/-! ## Two front ends -/

/-- Both front ends reject the request, or it reaches the service under the same kiosk id. -/
def Agree (uuid : UUIDText) (kiosks : Kiosks) (authorization : List String) (req : Request) : Prop :=
  (authenticated uuid kiosks authorization req .grpc).toOption =
    (authenticated uuid kiosks authorization req .rest).toOption

/-- **The front ends agree unless a leader uploads.** A download or a heartbeat is let in by both or by none. An
upload is never let in by gRPC, so they differ on it exactly if the kiosk of its batch is an active leader
whose signing key hash is shown. -/
theorem agree_iff (uuid : UUIDText) (kiosks : Kiosks) (authorization : List String) (req : Request) :
    Agree uuid kiosks authorization req ↔
      ¬ ∃ b k, req = .uploadBatch (some b) ∧ Admits uuid kiosks authorization b.kioskID k := by
  have toOption (x : Except Status String) (id : String) : x.toOption = some id ↔ x = .ok id := by
    cases x <;> simp [Except.toOption]
  have agree : Agree uuid kiosks authorization req ↔ ∀ id,
      (req.getKioskId = some id ∧ ∃ k, Admits uuid kiosks authorization id k) ↔
        id = req.restKioskID ∧ ∃ k, Admits uuid kiosks authorization req.restKioskID k := by
    rw [Agree, Option.ext_iff]
    refine forall_congr' fun id => ?_
    rw [toOption, toOption]
    exact iff_congr interceptor_eq_ok authenticate_eq_ok
  rw [agree]
  cases req with
  | downloadBatch req | heartbeat req =>
    refine ⟨fun _ => ?_, fun _ id => ?_⟩
    · rintro ⟨b, k, other, -⟩
      cases other
    simp only [Request.getKioskId, Request.restKioskID, Option.some_inj]
    constructor
    · rintro ⟨rfl, admitted⟩
      exact ⟨rfl, admitted⟩
    · rintro ⟨rfl, admitted⟩
      exact ⟨rfl, admitted⟩
  | uploadBatch batch =>
    simp only [Request.getKioskId, reduceCtorEq, false_and, false_iff, not_and, not_exists]
    cases batch with
    | none => exact ⟨fun _ b k none => (by cases none), fun _ id _ k h => h.given rfl⟩
    | some b =>
      constructor
      · rintro h _ k ⟨⟩ admits
        exact h b.kioskID rfl k admits
      · rintro h id - k admits
        exact h b k rfl admits

namespace Till

/-- The leader of a store. -/
def leader : KioskRow := ⟨2, 1, "a665", true, false⟩

def kiosks : Kiosks := ⟨[leader], List.nodup_singleton _⟩

/-- A batch of the leader, with nothing in it. -/
def empty : SyncBatch := ⟨UUIDText.hyphenated.string 9, UUIDText.hyphenated.string 1, UUIDText.hyphenated.string 2, []⟩

theorem upload_differs : authenticated .hyphenated kiosks ["Bearer a665"] (.uploadBatch (some empty)) .grpc =
      .error ⟨.invalidArgument, "auth: request type does not expose kiosk_id"⟩ ∧
    authenticated .hyphenated kiosks ["Bearer a665"] (.uploadBatch (some empty)) .rest = .ok empty.kioskID ∧
    ¬ Agree .hyphenated kiosks ["Bearer a665"] (.uploadBatch (some empty)) := by
  refine ⟨rfl, by decide +kernel, fun agree => ?_⟩
  have parsed := UUIDText.lawful_hyphenated.parse_string 2
  exact (agree_iff _ _ _ _).mp agree ⟨empty, leader, rfl, UUIDText.hyphenated_ne_empty 2, parsed,
    List.mem_singleton_self _, rfl, rfl, ⟨"Bearer".toList, [], by decide, by decide, by decide⟩, by decide⟩

end Till

end SyncService
