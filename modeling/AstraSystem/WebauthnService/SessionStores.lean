import AstraSystem.Lib.Assoc
import AstraSystem.Lib.Runs
import AstraSystem.Lib.Separated
import AstraSystem.WebauthnService.Repository

/-!
# The two stores of sessions (`repository.go`, `memory.go`)

Postgres keeps microseconds, and an empty id as a `NULL` that cannot be scanned. The memory keeps the session itself.
Every statement is executed.
-/

namespace WebauthnService

open Assoc (Map)
open Postgres (microseconds varchar)

/-- `time.Time{}`. -/
def zeroTime : ℤ := -62135596800000000000

/-- All fields of a session, with times in nanoseconds since 1970. -/
structure FullSession where
  sessionID : String
  actorID : String
  actorType : ActorType
  challenge : String
  storeID : String := ""
  kioskID : String := ""
  tenantID : String := ""
  reason : String := ""
  relyingPartyID : String
  expiresAt : ℤ
  createdAt : ℤ := zeroTime
  deriving DecidableEq

/-- What the columns hold, but for the creation time. -/
def FullSession.session (s : FullSession) : Session where
  sessionID := s.sessionID
  actorID := s.actorID
  actorType := s.actorType
  challenge := s.challenge
  storeID := s.storeID
  kioskID := s.kioskID
  tenantID := s.tenantID
  reason := s.reason
  relyingPartyID := s.relyingPartyID
  expiresAt := microseconds s.expiresAt

/-- A row, created at a time in microseconds. -/
structure StoredRow where
  row : SessionRow
  createdAt : ℤ
  deriving DecidableEq

def StoredRow.sessionID (r : StoredRow) : UUID := r.row.sessionID

abbrev StoredRows := Table StoredRow UUID StoredRow.sessionID

def StoredRow.session (uuid : UUIDText) (r : StoredRow) (storeID kioskID tenantID : UUID) : FullSession :=
  let s := r.row.session uuid storeID kioskID tenantID
  { s with expiresAt := s.expiresAt * 1000, createdAt := r.createdAt * 1000 }

namespace PostgresRepository

variable (uuid : UUIDText)

/-- The session is changed before it is stored. -/
def prepare (s : FullSession) (fresh : UUID) (now : ℤ) : FullSession :=
  let s := if s.sessionID = "" then { s with sessionID := uuid.string fresh } else s
  if s.createdAt = zeroTime then { s with createdAt := now } else s

def createSession (rows : StoredRows) (s : FullSession) (fresh : UUID) (now : ℤ) : StoredRows × Except String Unit :=
  let s := prepare uuid s fresh now
  let context := "repository: insert session: "
  match s.session.row uuid with
  | .error err => (rows, .error (context ++ err))
  | .ok row =>
    if (rows.find? row.sessionID).isSome then
      (rows, .error (context ++ "duplicate key value violates unique constraint \"webauthn_sessions_pkey\""))
    else (rows.insertNew ⟨row, microseconds s.createdAt⟩, .ok ())

def getSession (rows : StoredRows) (actorID : String) (actorType : ActorType) (challenge : String) (now : ℤ)
    (order : Shuffle StoredRow) : Except RepositoryError FullSession :=
  let context := "repository: query session: "
  match uuid.parse actorID with
  | .error err => .error (.other (context ++ err))
  | .ok id =>
    match (order.apply (rows.rows.filter fun r => r.row.actorID = id ∧ r.row.actorType = actorType ∧
        r.row.challenge = challenge ∧ microseconds now < r.row.expiresAt)).head? with
    | none => .error .sessionNotFound
    | some r =>
      match r.row.storeID, r.row.kioskID, r.row.tenantID with
      | some storeID, some kioskID, some tenantID => .ok (r.session uuid storeID kioskID tenantID)
      | none, _, _ => .error (.other (context ++ nullString 4 "store_id"))
      | some _, none, _ => .error (.other (context ++ nullString 5 "kiosk_id"))
      | some _, some _, none => .error (.other (context ++ nullString 6 "tenant_id"))

def deleteSession (rows : StoredRows) (sessionID : String) : StoredRows × Except String Unit :=
  match uuid.parse sessionID with
  | .error err => (rows, .error ("repository: delete session: " ++ err))
  | .ok id => (rows.delete fun r => r.sessionID = id, .ok ())

end PostgresRepository

namespace MemoryRepository

def key (actorID : String) (actorType : ActorType) : String := actorID ++ "|" ++ actorType.string

def sessionKey (actorID : String) (actorType : ActorType) (challenge : String) : String :=
  key actorID actorType ++ "|" ++ challenge

def prepare (s : FullSession) (now : ℤ) : FullSession :=
  let s := if s.sessionID = "" then
      { s with sessionID := "session-" ++ key s.actorID s.actorType ++ "-" ++ s.challenge } else s
  { s with createdAt := now }

def createSession (sessions : Map String FullSession) (s : FullSession) (now : ℤ) :
    Map String FullSession × Except String Unit :=
  let s := prepare s now
  (sessions.insert (sessionKey s.actorID s.actorType s.challenge) s, .ok ())

def getSession (sessions : Map String FullSession) (actorID : String) (actorType : ActorType) (challenge : String)
    (now : ℤ) : Except RepositoryError FullSession :=
  match sessions.lookup (sessionKey actorID actorType challenge) with
  | none => .error .sessionNotFound
  | some session => if session.expiresAt < now then .error .sessionNotFound else .ok session

/-- The first session with the id goes, in the order in which the map is iterated. -/
def deleteSession (sessions : Map String FullSession) (sessionID : String) (order : Shuffle String) :
    Map String FullSession × Except String Unit :=
  match (order.apply (Assoc.keysWhere (fun s => s.sessionID = sessionID) sessions)).head? with
  | none => (sessions, .ok ())
  | some k => (sessions.erase k, .ok ())

end MemoryRepository

/-! ## Both at once -/

structure Stores where
  rows : StoredRows := .empty
  sessions : Map String FullSession := ∅

/-- A call of one of the three operations at a time, and what is left open in each of the two. -/
inductive SessionCall where
  | createSession (s : FullSession) (fresh : UUID) (now : ℤ)
  | getSession (actorID : String) (actorType : ActorType) (challenge : String) (now : ℤ) (order : Shuffle StoredRow)
  | deleteSession (sessionID : String) (order : Shuffle String)

/-- The results of a call on Postgres and in memory. -/
inductive Results where
  | done (postgres memory : Except String Unit)
  | loaded (postgres memory : Except RepositoryError FullSession)

def Results.Same : Results → Prop
  | .done postgres memory => postgres = memory
  | .loaded postgres memory => postgres = memory

namespace Stores

variable (uuid : UUIDText)

def call (w : Stores) : SessionCall → Stores × Results
  | .createSession s fresh now =>
    let postgres := PostgresRepository.createSession uuid w.rows s fresh now
    let memory := MemoryRepository.createSession w.sessions s now
    (⟨postgres.1, memory.1⟩, .done postgres.2 memory.2)
  | .getSession actorID actorType challenge now order =>
    (w, .loaded (PostgresRepository.getSession uuid w.rows actorID actorType challenge now order)
      (MemoryRepository.getSession w.sessions actorID actorType challenge now))
  | .deleteSession sessionID order =>
    let postgres := PostgresRepository.deleteSession uuid w.rows sessionID
    let memory := MemoryRepository.deleteSession w.sessions sessionID order
    (⟨postgres.1, memory.1⟩, .done postgres.2 memory.2)

def step (w : Stores) (c : SessionCall) : Stores := (w.call uuid c).1

end Stores

/-! ## Sessions that come back -/

/-- No id of a store, kiosk or tenant is left out, ids are written as they are printed, texts fit their columns, and
times are whole microseconds. -/
structure Complete (uuid : UUIDText) (s : FullSession) : Prop where
  given : s.storeID ≠ "" ∧ s.kioskID ≠ "" ∧ s.tenantID ≠ ""
  printed : ∀ id ∈ [s.sessionID, s.actorID, s.storeID, s.kioskID, s.tenantID], ∃ u, uuid.string u = id
  fits : ∀ text ∈ [s.challenge, s.reason, s.relyingPartyID], varchar 255 text = .ok text
  whole : 1000 ∣ s.expiresAt ∧ 1000 ∣ s.createdAt

/-- A row is read as a session. -/
def Stands (uuid : UUIDText) (r : StoredRow) (s : FullSession) : Prop :=
  ∃ storeID kioskID tenantID, r.row.storeID = some storeID ∧ r.row.kioskID = some kioskID ∧
    r.row.tenantID = some tenantID ∧ r.session uuid storeID kioskID tenantID = s

/-- What a session is stored as. -/
structure RowOf (uuid : UUIDText) (session : Session) (row : SessionRow) : Prop where
  sessionID : uuid.parse session.sessionID = .ok row.sessionID
  actorID : uuid.parse session.actorID = .ok row.actorID
  actorType : row.actorType = session.actorType
  challenge : varchar 255 session.challenge = .ok row.challenge
  storeID : nullUUID uuid session.storeID = .ok row.storeID
  kioskID : nullUUID uuid session.kioskID = .ok row.kioskID
  tenantID : nullUUID uuid session.tenantID = .ok row.tenantID
  reason : varchar 255 session.reason = .ok row.reason
  relyingPartyID : varchar 255 session.relyingPartyID = .ok row.relyingPartyID
  expiresAt : row.expiresAt = session.expiresAt

section
variable {uuid : UUIDText} {rows : StoredRows} {s : FullSession} {row : SessionRow} {r : StoredRow}
  {fresh : UUID} {now : ℤ}

theorem row_eq_ok {session : Session} : session.row uuid = .ok row ↔ RowOf uuid session row := by
  constructor
  · intro h
    obtain ⟨sessionID, hs, h⟩ := Statement.bind_eq_ok.mp h
    obtain ⟨actorID, ha, h⟩ := Statement.bind_eq_ok.mp h
    obtain ⟨challenge, hc, h⟩ := Statement.bind_eq_ok.mp h
    obtain ⟨storeID, hst, h⟩ := Statement.bind_eq_ok.mp h
    obtain ⟨kioskID, hk, h⟩ := Statement.bind_eq_ok.mp h
    obtain ⟨tenantID, ht, h⟩ := Statement.bind_eq_ok.mp h
    obtain ⟨reason, hr, h⟩ := Statement.bind_eq_ok.mp h
    obtain ⟨relyingPartyID, hrp, h⟩ := Statement.bind_eq_ok.mp h
    cases h
    exact ⟨hs, ha, rfl, hc, hst, hk, ht, hr, hrp, rfl⟩
  · intro h
    rw [Session.row, h.sessionID, h.actorID, h.challenge, h.storeID, h.kioskID, h.tenantID, h.reason,
      h.relyingPartyID, ← h.actorType, ← h.expiresAt]
    rfl

theorem nullUUID_some {id : String} {u : UUID} :
    nullUUID uuid id = .ok (some u) ↔ id ≠ "" ∧ uuid.parse id = .ok u := by
  unfold nullUUID
  split
  · rename_i none
    exact ⟨fun h => (by cases h), fun h => absurd none h.1⟩
  · rename_i given
    rw [Statement.map_eq_ok]
    constructor
    · rintro ⟨u', parsed, same⟩
      exact ⟨given, Option.some.inj same ▸ parsed⟩
    · rintro ⟨-, parsed⟩
      exact ⟨u, parsed, rfl⟩

theorem microseconds_mul (t : ℤ) : microseconds t * 1000 = t ↔ 1000 ∣ t := by
  unfold microseconds
  constructor
  · intro h
    exact ⟨t / 1000, by omega⟩
  · rintro ⟨k, rfl⟩
    omega

/-- A session is read from its row as it was exactly if it is complete. -/
theorem stands_iff (laws : uuid.Lawful) (h : RowOf uuid s.session row) :
    Stands uuid ⟨row, microseconds s.createdAt⟩ s ↔ Complete uuid s := by
  have parsed {id : String} {u : UUID} (h : uuid.parse id = .ok u) (printed : ∃ u, uuid.string u = id) :
      uuid.string u = id := by
    obtain ⟨u', rfl⟩ := printed
    obtain rfl := Except.ok.inj ((laws.parse_string u').symm.trans h)
    rfl
  constructor
  · rintro ⟨storeID, kioskID, tenantID, hs, hk, ht, same⟩
    have store := nullUUID_some.mp (hs ▸ h.storeID)
    have kiosk := nullUUID_some.mp (hk ▸ h.kioskID)
    have tenant := nullUUID_some.mp (ht ▸ h.tenantID)
    refine ⟨⟨store.1, kiosk.1, tenant.1⟩, ?_, ?_, ?_, ?_⟩
    · simp only [List.forall_mem_cons]
      exact ⟨⟨_, congrArg FullSession.sessionID same⟩, ⟨_, congrArg FullSession.actorID same⟩,
        ⟨_, congrArg FullSession.storeID same⟩, ⟨_, congrArg FullSession.kioskID same⟩,
        ⟨_, congrArg FullSession.tenantID same⟩, List.forall_mem_nil _⟩
    · simp only [List.forall_mem_cons]
      exact ⟨h.challenge.trans (congrArg (Except.ok ∘ FullSession.challenge) same),
        h.reason.trans (congrArg (Except.ok ∘ FullSession.reason) same),
        h.relyingPartyID.trans (congrArg (Except.ok ∘ FullSession.relyingPartyID) same), List.forall_mem_nil _⟩
    · refine (microseconds_mul _).mp (Eq.trans ?_ (congrArg FullSession.expiresAt same))
      exact congrArg (· * 1000) h.expiresAt.symm
    · exact (microseconds_mul _).mp (congrArg FullSession.createdAt same)
  · intro complete
    have printed := complete.printed
    have fits := complete.fits
    simp only [List.forall_mem_cons] at printed fits
    obtain ⟨sessionID, actorID, storeID, kioskID, tenantID, -⟩ := printed
    obtain ⟨challenge, reason, relyingPartyID, -⟩ := fits
    have some_of {id : String} (given : id ≠ "") (printed : ∃ u, uuid.string u = id) {o : Option UUID}
        (h : nullUUID uuid id = .ok o) : ∃ u, o = some u ∧ uuid.string u = id := by
      obtain ⟨u, rfl⟩ := printed
      have stored : nullUUID uuid (uuid.string u) = .ok (some u) := nullUUID_some.mpr ⟨given, laws.parse_string u⟩
      exact ⟨u, Except.ok.inj (h.symm.trans stored), rfl⟩
    obtain ⟨store, hs, store_id⟩ := some_of complete.given.1 storeID h.storeID
    obtain ⟨kiosk, hk, kiosk_id⟩ := some_of complete.given.2.1 kioskID h.kioskID
    obtain ⟨tenant, ht, tenant_id⟩ := some_of complete.given.2.2 tenantID h.tenantID
    refine ⟨store, kiosk, tenant, hs, hk, ht, ?_⟩
    cases s
    simp only [StoredRow.session, SessionRow.session, FullSession.mk.injEq]
    refine ⟨parsed h.sessionID sessionID, parsed h.actorID actorID, h.actorType,
      (Except.ok.inj (h.challenge.symm.trans challenge)), store_id, kiosk_id, tenant_id,
      Except.ok.inj (h.reason.symm.trans reason), Except.ok.inj (h.relyingPartyID.symm.trans relyingPartyID), ?_,
      (microseconds_mul _).mpr complete.whole.2⟩
    rw [h.expiresAt]
    exact (microseconds_mul _).mpr complete.whole.1

/-! ## One session -/

/-- Before it expires a session is read from both stores as it was stored. -/
structure RoundTrips (uuid : UUIDText) (rows : StoredRows) (sessions : Map String FullSession) (s : FullSession)
    (fresh : UUID) (now : ℤ) : Prop where
  postgres : ∀ t order, t < s.expiresAt →
    PostgresRepository.getSession uuid (PostgresRepository.createSession uuid rows s fresh now).1 s.actorID s.actorType
      s.challenge t order = .ok (PostgresRepository.prepare uuid s fresh now)
  memory : ∀ t, t < s.expiresAt →
    MemoryRepository.getSession (MemoryRepository.createSession sessions s now).1 s.actorID s.actorType s.challenge t =
      .ok (MemoryRepository.prepare s now)

theorem memory_round_trip (sessions : Map String FullSession) (s : FullSession) (now : ℤ) {t : ℤ}
    (before : t < s.expiresAt) :
    MemoryRepository.getSession (MemoryRepository.createSession sessions s now).1 s.actorID s.actorType s.challenge t =
      .ok (MemoryRepository.prepare s now) := by
  have same : (MemoryRepository.prepare s now).actorID = s.actorID ∧
      (MemoryRepository.prepare s now).actorType = s.actorType ∧
      (MemoryRepository.prepare s now).challenge = s.challenge ∧
      (MemoryRepository.prepare s now).expiresAt = s.expiresAt := by
    unfold MemoryRepository.prepare
    split <;> exact ⟨rfl, rfl, rfl, rfl⟩
  obtain ⟨actorID, actorType, challenge, expiresAt⟩ := same
  simp only [MemoryRepository.createSession, MemoryRepository.getSession, actorID, actorType, challenge,
    AList.lookup_insert, expiresAt]
  exact if_neg (not_lt.mpr before.le)

@[simp] theorem prepare_fields (uuid : UUIDText) (s : FullSession) (fresh : UUID) (now : ℤ) :
    (PostgresRepository.prepare uuid s fresh now).actorID = s.actorID ∧
      (PostgresRepository.prepare uuid s fresh now).actorType = s.actorType ∧
      (PostgresRepository.prepare uuid s fresh now).challenge = s.challenge ∧
      (PostgresRepository.prepare uuid s fresh now).expiresAt = s.expiresAt := by
  unfold PostgresRepository.prepare
  dsimp only
  split <;> split <;> exact ⟨rfl, rfl, rfl, rfl⟩

theorem head?_of_unique {R : Type*} {l : List R} {r : R} (mem : r ∈ l) (unique : ∀ x ∈ l, x = r) (order : Shuffle R) :
    (order.apply l).head? = some r := by
  cases h : order.apply l with
  | nil => exact absurd (h ▸ (order.perm l).mem_iff.mpr mem) List.not_mem_nil
  | cons x xs =>
    have first : x ∈ order.apply l := h ▸ List.mem_cons_self
    exact congrArg some (unique x ((order.perm l).mem_iff.mp first))

theorem mem_of_head? {R : Type*} {l : List R} {r : R} {order : Shuffle R} (h : (order.apply l).head? = some r) :
    r ∈ l :=
  (order.perm l).mem_iff.mp (List.mem_of_mem_head? h)

/-- The only row of a challenge is found while it lasts. -/
theorem getSession_found {actorID challenge : String} {actorType : ActorType} {id : UUID}
    (parsed : uuid.parse actorID = .ok id) (mem : r ∈ rows.rows)
    (own : r.row.actorID = id ∧ r.row.actorType = actorType ∧ r.row.challenge = challenge)
    (unique : ∀ x ∈ rows.rows, x.row.challenge = challenge → x = r) (lasts : microseconds now < r.row.expiresAt)
    (stands : Stands uuid r s) (order : Shuffle StoredRow) :
    PostgresRepository.getSession uuid rows actorID actorType challenge now order = .ok s := by
  obtain ⟨storeID, kioskID, tenantID, hs, hk, ht, same⟩ := stands
  rw [PostgresRepository.getSession, parsed]
  dsimp only
  rw [head?_of_unique (r := r)]
  · dsimp only
    rw [hs, hk, ht]
    exact congrArg Except.ok same
  · exact List.mem_filter.mpr ⟨mem, decide_eq_true ⟨own.1, own.2.1, own.2.2, lasts⟩⟩
  · intro x hx
    obtain ⟨mem, test⟩ := List.mem_filter.mp hx
    exact unique x mem (of_decide_eq_true test).2.2.1

theorem getSession_none {actorID challenge : String} {actorType : ActorType} {id : UUID}
    (parsed : uuid.parse actorID = .ok id)
    (none : ∀ r ∈ rows.rows, r.row.actorID = id ∧ r.row.actorType = actorType ∧ r.row.challenge = challenge →
      ¬ microseconds now < r.row.expiresAt) (order : Shuffle StoredRow) :
    PostgresRepository.getSession uuid rows actorID actorType challenge now order = .error .sessionNotFound := by
  rw [PostgresRepository.getSession, parsed]
  dsimp only
  split
  · rfl
  · rename_i r found
    obtain ⟨mem, test⟩ := List.mem_filter.mp (mem_of_head? found)
    obtain ⟨actor, type, challenge, lasts⟩ := of_decide_eq_true test
    exact absurd lasts (none r mem ⟨actor, type, challenge⟩)

/-- What is found is a row of the challenge. -/
theorem getSession_eq_ok' {actorID challenge : String} {actorType : ActorType} {order : Shuffle StoredRow}
    (h : PostgresRepository.getSession uuid rows actorID actorType challenge now order = .ok s) :
    ∃ r ∈ rows.rows, r.row.challenge = challenge ∧ Stands uuid r s := by
  unfold PostgresRepository.getSession at h
  cases parsed : uuid.parse actorID with
  | error err =>
    rw [parsed] at h
    cases h
  | ok id =>
    rw [parsed] at h
    dsimp only at h
    split at h
    · cases h
    · rename_i r found
      obtain ⟨mem, test⟩ := List.mem_filter.mp (mem_of_head? found)
      split at h
      · rename_i storeID kioskID tenantID hs hk ht
        exact ⟨r, mem, (of_decide_eq_true test).2.2.1, storeID, kioskID, tenantID, hs, hk, ht, Except.ok.inj h⟩
      all_goals cases h

/-- What a session that is created adds. -/
theorem createSession_eq_ok (created : (PostgresRepository.createSession uuid rows s fresh now).2 = .ok ()) :
    ∃ row, RowOf uuid (PostgresRepository.prepare uuid s fresh now).session row ∧
      rows.find? row.sessionID = none ∧
      (PostgresRepository.createSession uuid rows s fresh now).1 =
        rows.insertNew ⟨row, microseconds (PostgresRepository.prepare uuid s fresh now).createdAt⟩ := by
  unfold PostgresRepository.createSession at created ⊢
  cases given : (PostgresRepository.prepare uuid s fresh now).session.row uuid with
  | error err =>
    simp only [given] at created
    cases created
  | ok row =>
    simp only [given] at created ⊢
    split at created
    · cases created
    · rename_i absent
      rw [if_neg absent]
      exact ⟨row, row_eq_ok.mp given, Option.not_isSome_iff_eq_none.mp absent, rfl⟩

theorem createSession_of_row (stored : RowOf uuid (PostgresRepository.prepare uuid s fresh now).session row)
    (absent : rows.find? row.sessionID = none) : PostgresRepository.createSession uuid rows s fresh now =
      (rows.insertNew ⟨row, microseconds (PostgresRepository.prepare uuid s fresh now).createdAt⟩, .ok ()) := by
  rw [PostgresRepository.createSession, row_eq_ok.mpr stored]
  dsimp only
  rw [absent]
  rfl

/-- A session with a new challenge comes back from both stores exactly if it is complete. -/
theorem roundTrips_iff (laws : uuid.Lawful) (sessions : Map String FullSession)
    (unused : ∀ r ∈ rows.rows, r.row.challenge ≠ s.challenge)
    (created : (PostgresRepository.createSession uuid rows s fresh now).2 = .ok ()) :
    RoundTrips uuid rows sessions s fresh now ↔ Complete uuid (PostgresRepository.prepare uuid s fresh now) := by
  obtain ⟨row, stored, absent, added⟩ := createSession_eq_ok created
  obtain ⟨actorID, actorType, challenge, expiresAt⟩ := prepare_fields uuid s fresh now
  rw [← stands_iff laws stored]
  let new : StoredRow := ⟨row, microseconds (PostgresRepository.prepare uuid s fresh now).createdAt⟩
  constructor
  · intro trips
    have found := trips.postgres (s.expiresAt - 1) (.none _) (by omega)
    rw [added] at found
    obtain ⟨r, mem, same, stands⟩ := getSession_eq_ok' found
    obtain old | ⟨-, rfl⟩ := Table.mem_insertNew.mp mem
    · exact absurd same (unused r old)
    · exact stands
  · intro stands
    have complete := (stands_iff laws stored).mp stands
    refine ⟨fun t order before => ?_, fun t before => memory_round_trip sessions s now before⟩
    rw [added]
    have fits : row.challenge = s.challenge := by
      have fits := complete.fits _ List.mem_cons_self
      exact (Except.ok.inj (stored.challenge.symm.trans fits)).trans challenge
    refine getSession_found (r := new) (actorID ▸ stored.actorID) ?_ ⟨rfl, stored.actorType.trans actorType, fits⟩ ?_ ?_
      stands order
    · exact Table.mem_insertNew.mpr (.inr ⟨Table.find?_eq_none.mp absent, rfl⟩)
    · intro x hx same
      obtain old | ⟨-, rfl⟩ := Table.mem_insertNew.mp hx
      · exact absurd same (unused x old)
      · rfl
    · obtain ⟨k, hk⟩ := complete.whole.1
      have last : row.expiresAt = microseconds (PostgresRepository.prepare uuid s fresh now).expiresAt := stored.expiresAt
      show microseconds t < row.expiresAt
      rw [last, hk]
      rw [expiresAt] at hk
      unfold microseconds
      omega

/-! ## Runs -/

/-- Sessions that are created are complete, and their ids and challenges are new; they have no creation time yet, or
that of the call. Ids asked for are written as they are printed, and nobody asks at the very moment of expiry. -/
def Meets (uuid : UUIDText) (w : Stores) : SessionCall → Prop
  | .createSession s fresh now =>
    s.sessionID ≠ "" ∧ (s.createdAt = zeroTime ∨ s.createdAt = now) ∧
      Complete uuid (PostgresRepository.prepare uuid s fresh now) ∧
      ∀ r ∈ w.rows.rows, uuid.string r.sessionID ≠ s.sessionID ∧ r.row.challenge ≠ s.challenge
  | .getSession actorID _ challenge now _ =>
    (∃ u, uuid.string u = actorID) ∧ ∀ r ∈ w.rows.rows, r.row.challenge = challenge → now ≠ r.row.expiresAt * 1000
  | .deleteSession sessionID _ => ∃ u, uuid.string u = sessionID

/-- The entry of a row in memory. -/
def FullSession.key (s : FullSession) : String := MemoryRepository.sessionKey s.actorID s.actorType s.challenge

/-- Each row stands for the session in memory that its key leads to. -/
structure Linked (uuid : UUIDText) (w : Stores) : Prop where
  kept : ∀ r ∈ w.rows.rows, ∃ s, Stands uuid r s ∧ w.sessions.lookup s.key = some s
  stored : ∀ k s, w.sessions.lookup k = some s → k = s.key ∧ ∃ r ∈ w.rows.rows, Stands uuid r s
  challenges : ∀ r ∈ w.rows.rows, ∀ r' ∈ w.rows.rows, r.row.challenge = r'.row.challenge → r = r'

theorem Stands.unique {s' : FullSession} (h : Stands uuid r s) (h' : Stands uuid r s') : s = s' := by
  obtain ⟨_, _, _, hs, hk, ht, rfl⟩ := h
  obtain ⟨_, _, _, hs', hk', ht', rfl⟩ := h'
  obtain rfl := Option.some.inj (hs.symm.trans hs')
  obtain rfl := Option.some.inj (hk.symm.trans hk')
  obtain rfl := Option.some.inj (ht.symm.trans ht')
  rfl

theorem Stands.fields (h : Stands uuid r s) : s.sessionID = uuid.string r.sessionID ∧
    s.actorID = uuid.string r.row.actorID ∧ s.actorType = r.row.actorType ∧ s.challenge = r.row.challenge ∧
      s.expiresAt = r.row.expiresAt * 1000 := by
  obtain ⟨_, _, _, -, -, -, rfl⟩ := h
  exact ⟨rfl, rfl, rfl, rfl, rfl⟩

theorem ActorType.no_bar (t : ActorType) : '|' ∉ t.string.toList := by
  cases t <;> decide

theorem ActorType.string_injective {t t' : ActorType} (h : t.string = t'.string) : t = t' := by
  cases t <;> cases t' <;> first | rfl | exact absurd h (by decide)

/-- Ids without a bar keep the keys of the memory apart. -/
theorem sessionKey_injective {actorID actorID' challenge challenge' : String} {t t' : ActorType}
    (bar : '|' ∉ actorID.toList) (bar' : '|' ∉ actorID'.toList)
    (h : MemoryRepository.sessionKey actorID t challenge = MemoryRepository.sessionKey actorID' t' challenge') :
    actorID = actorID' ∧ t = t' ∧ challenge = challenge' := by
  have texts := congrArg String.toList h
  simp only [MemoryRepository.sessionKey, MemoryRepository.key, String.toList_append, List.append_assoc] at texts
  have one : "|".toList = ['|'] := rfl
  rw [one, List.singleton_append, List.singleton_append, List.singleton_append, List.singleton_append] at texts
  obtain ⟨actors, rest⟩ := Separated.cut_inj
    ((List.count_eq_zero.mpr bar).trans (List.count_eq_zero.mpr bar').symm) texts
  obtain ⟨types, rest⟩ := Separated.cut_inj
    ((List.count_eq_zero.mpr t.no_bar).trans (List.count_eq_zero.mpr t'.no_bar).symm) rest
  exact ⟨String.toList_inj.mp actors, ActorType.string_injective (String.toList_inj.mp types),
    String.toList_inj.mp rest⟩

variable {w : Stores}

theorem Complete.exists_row (laws : uuid.Lawful) (complete : Complete uuid s) : ∃ row, RowOf uuid s.session row := by
  have printed := complete.printed
  have fits := complete.fits
  simp only [List.forall_mem_cons] at printed fits
  obtain ⟨⟨sessionID, hs⟩, ⟨actorID, ha⟩, ⟨storeID, hst⟩, ⟨kioskID, hk⟩, ⟨tenantID, ht⟩, -⟩ := printed
  obtain ⟨challenge, reason, relyingPartyID, -⟩ := fits
  have read {u : UUID} {id : String} (h : uuid.string u = id) : uuid.parse id = .ok u := h ▸ laws.parse_string u
  exact ⟨⟨sessionID, actorID, s.actorType, s.challenge, some storeID, some kioskID, some tenantID, s.reason,
    s.relyingPartyID, microseconds s.expiresAt⟩, read hs, read ha, rfl, challenge,
    nullUUID_some.mpr ⟨complete.given.1, read hst⟩, nullUUID_some.mpr ⟨complete.given.2.1, read hk⟩,
    nullUUID_some.mpr ⟨complete.given.2.2, read ht⟩, reason, relyingPartyID, rfl⟩

/-- Both stores prepare a session alike. -/
theorem prepare_eq (uuid : UUIDText) (given : s.sessionID ≠ "") (created : s.createdAt = zeroTime ∨ s.createdAt = now)
    (fresh : UUID) : PostgresRepository.prepare uuid s fresh now = { s with createdAt := now } ∧
      MemoryRepository.prepare s now = { s with createdAt := now } := by
  simp only [PostgresRepository.prepare, MemoryRepository.prepare, if_neg given, and_true]
  split
  · rfl
  · rename_i set
    rw [← created.resolve_left set]

variable (laws : uuid.Lawful) (bars : ∀ u, '|' ∉ (uuid.string u).toList)

include laws bars

theorem linked_create (h : Linked uuid w) (meets : Meets uuid w (.createSession s fresh now)) :
    Linked uuid (w.step uuid (.createSession s fresh now)) ∧ (w.call uuid (.createSession s fresh now)).2.Same := by
  obtain ⟨given, created, complete, unused⟩ := meets
  obtain ⟨postgres, memory⟩ := prepare_eq uuid given created fresh
  rw [postgres] at complete
  obtain ⟨row, stored⟩ := complete.exists_row laws
  have stands := (stands_iff laws stored).mpr complete
  have absent : w.rows.find? row.sessionID = none := by
    refine Table.find?_eq_none.mpr fun r hr same => (unused r hr).1 ?_
    rw [same]
    exact stands.fields.1.symm
  have rows : PostgresRepository.createSession uuid w.rows s fresh now =
      (w.rows.insertNew ⟨row, microseconds now⟩, .ok ()) := by
    rw [createSession_of_row (postgres ▸ stored) absent, postgres]
  have sessions : MemoryRepository.createSession w.sessions s now =
      (w.sessions.insert s.key { s with createdAt := now }, .ok ()) := by
    rw [MemoryRepository.createSession, memory]
    rfl
  have next : w.call uuid (.createSession s fresh now) =
      (⟨w.rows.insertNew ⟨row, microseconds now⟩, w.sessions.insert s.key { s with createdAt := now }⟩,
        .done (.ok ()) (.ok ())) := by
    rw [Stores.call, rows, sessions]
  rw [Stores.step, next]
  refine ⟨⟨fun r hr => ?_, fun k x found => ?_, fun r hr r' hr' same => ?_⟩, rfl⟩
  · obtain old | ⟨-, rfl⟩ := Table.mem_insertNew.mp hr
    · obtain ⟨x, stands', found⟩ := h.kept r old
      refine ⟨x, stands', ?_⟩
      have apart : x.key ≠ s.key := by
        intro same
        have bar : '|' ∉ s.actorID.toList := stands.fields.2.1 ▸ bars _
        have challenges := (sessionKey_injective (stands'.fields.2.1 ▸ bars _) bar same).2.2
        exact (unused r old).2 (stands'.fields.2.2.2.1.symm.trans challenges)
      rw [AList.lookup_insert_ne apart]
      exact found
    · exact ⟨_, stands, AList.lookup_insert _⟩
  · by_cases own : k = s.key
    · subst own
      rw [AList.lookup_insert] at found
      obtain rfl := Option.some.inj found
      exact ⟨rfl, _, Table.mem_insertNew.mpr (.inr ⟨Table.find?_eq_none.mp absent, rfl⟩), stands⟩
    · rw [AList.lookup_insert_ne own] at found
      obtain ⟨key, r, hr, stands'⟩ := h.stored k x found
      exact ⟨key, r, Table.mem_insertNew.mpr (.inl hr), stands'⟩
  · have new_challenge : row.challenge = s.challenge := stands.fields.2.2.2.1.symm
    obtain old | ⟨-, rfl⟩ := Table.mem_insertNew.mp hr
    · obtain old' | ⟨-, rfl⟩ := Table.mem_insertNew.mp hr'
      · exact h.challenges r old r' old' same
      · exact absurd (same.trans new_challenge) (unused r old).2
    · obtain old' | ⟨-, rfl⟩ := Table.mem_insertNew.mp hr'
      · exact absurd (same.symm.trans new_challenge) (unused r' old').2
      · rfl

theorem same_get (h : Linked uuid w) {actorID challenge : String} {actorType : ActorType} {order : Shuffle StoredRow}
    (meets : Meets uuid w (.getSession actorID actorType challenge now order)) :
    (w.call uuid (.getSession actorID actorType challenge now order)).2.Same := by
  obtain ⟨⟨id, rfl⟩, moment⟩ := meets
  show PostgresRepository.getSession uuid w.rows _ _ _ _ _ = MemoryRepository.getSession _ _ _ _ _
  by_cases present : ∃ r ∈ w.rows.rows, r.row.actorID = id ∧ r.row.actorType = actorType ∧ r.row.challenge = challenge
  · obtain ⟨r, hr, rfl, rfl, rfl⟩ := present
    obtain ⟨x, stands, found⟩ := h.kept r hr
    obtain ⟨-, actor, type, challenge, expires⟩ := stands.fields
    have found : w.sessions.lookup (MemoryRepository.sessionKey (uuid.string r.row.actorID) r.row.actorType
        r.row.challenge) = some x := by
      rw [← actor, ← type, ← challenge]
      exact found
    rw [MemoryRepository.getSession, found]
    dsimp only
    have moment := moment r hr rfl
    by_cases lasts : microseconds now < r.row.expiresAt
    · rw [getSession_found (laws.parse_string _) hr ⟨rfl, rfl, rfl⟩ (fun x hx same => h.challenges x hx r hr same) lasts
        stands, if_neg]
      unfold microseconds at lasts
      omega
    · rw [if_pos]
      · refine getSession_none (laws.parse_string _) (fun x hx own => ?_) order
        rw [h.challenges x hx r hr own.2.2]
        exact lasts
      · unfold microseconds at lasts
        omega
  · rw [getSession_none (laws.parse_string id) (fun r hr own => absurd ⟨r, hr, own⟩ present) order,
      MemoryRepository.getSession]
    cases found : w.sessions.lookup (MemoryRepository.sessionKey (uuid.string id) actorType challenge) with
    | none => rfl
    | some x =>
      obtain ⟨key, r, hr, stands⟩ := h.stored _ x found
      obtain ⟨-, actor, type, challenge', -⟩ := stands.fields
      obtain ⟨same, rfl, rfl⟩ := sessionKey_injective (bars _) (actor ▸ bars _) key
      refine absurd ⟨r, hr, ?_, type.symm, challenge'.symm⟩ present
      exact laws.string_injective (actor.symm.trans same.symm)

omit bars in
/-- An id is that of one entry in memory at most. -/
theorem Linked.unique (h : Linked uuid w) {id : UUID} {k k' : String} {x x' : FullSession}
    (found : w.sessions.lookup k = some x) (found' : w.sessions.lookup k' = some x')
    (own : x.sessionID = uuid.string id) (own' : x'.sessionID = uuid.string id) : k = k' := by
  obtain ⟨rfl, r, hr, stands⟩ := h.stored k x found
  obtain ⟨rfl, r', hr', stands'⟩ := h.stored k' x' found'
  have same : r.sessionID = r'.sessionID :=
    laws.string_injective (stands.fields.1.symm.trans (own.trans (own'.symm.trans stands'.fields.1)))
  obtain rfl := w.rows.unique hr hr' same
  rw [stands.unique stands']

omit bars in
theorem lookup_deleteSession (h : Linked uuid w) (id : UUID) (order : Shuffle String) (k : String) (x : FullSession) :
    (MemoryRepository.deleteSession w.sessions (uuid.string id) order).1.lookup k = some x ↔
      w.sessions.lookup k = some x ∧ x.sessionID ≠ uuid.string id := by
  unfold MemoryRepository.deleteSession
  split
  · rename_i none
    have empty : Assoc.keysWhere (fun s => s.sessionID = uuid.string id) w.sessions = [] := by
      rw [List.head?_eq_none_iff] at none
      exact List.Perm.eq_nil (none ▸ (order.perm _).symm)
    refine (and_iff_left_of_imp fun found own => ?_).symm
    have mem := (Assoc.mem_keysWhere (p := fun s => s.sessionID = uuid.string id)).mpr
      ⟨x, found, decide_eq_true own⟩
    exact absurd mem (empty ▸ List.not_mem_nil)
  · rename_i first head
    obtain ⟨x₀, found₀, own₀⟩ := Assoc.mem_keysWhere.mp (mem_of_head? head)
    have own₀ := of_decide_eq_true own₀
    by_cases same : k = first
    · subst same
      simp only [AList.lookup_erase, reduceCtorEq, false_iff, not_and, not_not]
      intro found
      obtain rfl := Option.some.inj (found₀.symm.trans found)
      exact own₀
    · rw [AList.lookup_erase_ne same]
      refine (and_iff_left_of_imp fun found own => ?_).symm
      exact same (h.unique laws found found₀ own own₀)

omit bars in
theorem linked_delete (h : Linked uuid w) {sessionID : String} {order : Shuffle String}
    (meets : Meets uuid w (.deleteSession sessionID order)) :
    Linked uuid (w.step uuid (.deleteSession sessionID order)) ∧ (w.call uuid (.deleteSession sessionID order)).2.Same := by
  obtain ⟨id, rfl⟩ := meets
  have gone := lookup_deleteSession laws h id order
  have next : w.call uuid (.deleteSession (uuid.string id) order) =
      (⟨w.rows.delete fun r => r.sessionID = id, (MemoryRepository.deleteSession w.sessions (uuid.string id) order).1⟩,
        .done (.ok ()) (.ok ())) := by
    have replied : (MemoryRepository.deleteSession w.sessions (uuid.string id) order).2 = .ok () := by
      unfold MemoryRepository.deleteSession
      split <;> rfl
    rw [Stores.call, PostgresRepository.deleteSession, laws.parse_string, ← replied]
  rw [Stores.step, next]
  refine ⟨⟨fun r hr => ?_, fun k x found => ?_, fun r hr r' hr' same => ?_⟩, rfl⟩
  · obtain ⟨hr, other⟩ := Table.mem_delete.mp hr
    obtain ⟨x, stands, found⟩ := h.kept r hr
    refine ⟨x, stands, (gone _ _).mpr ⟨found, fun own => ?_⟩⟩
    exact of_decide_eq_false other (laws.string_injective (stands.fields.1.symm.trans own))
  · obtain ⟨found, other⟩ := (gone k x).mp found
    obtain ⟨key, r, hr, stands⟩ := h.stored k x found
    refine ⟨key, r, Table.mem_delete.mpr ⟨hr, decide_eq_false fun own => other ?_⟩, stands⟩
    exact stands.fields.1.trans (congrArg uuid.string own)
  · exact h.challenges r (Table.mem_delete.mp hr).1 r' (Table.mem_delete.mp hr').1 same

omit laws bars in
theorem linked_start : Linked uuid {} where
  kept _ none := absurd none List.not_mem_nil
  stored _ _ none := by cases none
  challenges _ none := absurd none List.not_mem_nil

theorem linked_step (h : Linked uuid w) (c : SessionCall) (meets : Meets uuid w c) :
    Linked uuid (w.step uuid c) ∧ (w.call uuid c).2.Same := by
  cases c with
  | createSession s fresh now => exact linked_create laws bars h meets
  | getSession actorID actorType challenge now order => exact ⟨h, same_get laws bars h meets⟩
  | deleteSession sessionID order => exact linked_delete laws h meets

end

namespace Enrolment

def text : UUID → String := UUIDText.hyphenated.string

/-- What `BeginRegistration` stores: it has no kiosk. -/
def registration : FullSession :=
  { sessionID := text 7, actorID := text 1, actorType := .employee, challenge := "c2lnbi1tZS1pbg", storeID := text 2,
    tenantID := text 4, relyingPartyID := "astra.example.com", expiresAt := 1753000300000000000 }

/-- What an override stores, with all that it may be asked with. -/
def override : FullSession :=
  { registration with kioskID := text 3, reason := "void" }

def noon : ℤ := 1753000000000000000

theorem bars (u : UUID) : '|' ∉ (UUIDText.hyphenated.string u).toList :=
  UUIDText.not_mem_hyphenated (by decide) (by decide) u

theorem parse_text (u : UUID) : UUIDText.hyphenated.parse (text u) = .ok u := UUIDText.lawful_hyphenated.parse_string u

theorem text_ne_empty (u : UUID) : text u ≠ "" := UUIDText.hyphenated_ne_empty u

def registrationRow : SessionRow :=
  ⟨7, 1, .employee, "c2lnbi1tZS1pbg", some 2, none, some 4, "", "astra.example.com", 1753000300000000⟩

theorem registration_row : RowOf UUIDText.hyphenated registration.session registrationRow :=
  ⟨parse_text 7, parse_text 1, rfl, by decide, nullUUID_some.mpr ⟨text_ne_empty 2, parse_text 2⟩, rfl,
    nullUUID_some.mpr ⟨text_ne_empty 4, parse_text 4⟩, by decide, by decide, by decide⟩

theorem prepare_registration : PostgresRepository.prepare UUIDText.hyphenated registration 0 noon =
    { registration with createdAt := noon } :=
  (prepare_eq UUIDText.hyphenated (text_ne_empty 7) (.inl rfl) 0).1

theorem override_complete :
    Complete UUIDText.hyphenated (PostgresRepository.prepare UUIDText.hyphenated override 0 noon) := by
  rw [(prepare_eq UUIDText.hyphenated (text_ne_empty 7) (.inl rfl) 0).1]
  refine ⟨⟨text_ne_empty 2, text_ne_empty 3, text_ne_empty 4⟩, ?_, ?_, ⟨1753000300000000, rfl⟩,
    ⟨1753000000000000, rfl⟩⟩
  · simp only [List.forall_mem_cons]
    exact ⟨⟨7, rfl⟩, ⟨1, rfl⟩, ⟨2, rfl⟩, ⟨3, rfl⟩, ⟨4, rfl⟩, List.forall_mem_nil _⟩
  · simp only [List.forall_mem_cons]
    exact ⟨by decide, by decide, by decide, List.forall_mem_nil _⟩

theorem override_created : ∃ row, row.expiresAt = 1753000300000000 ∧
    PostgresRepository.createSession UUIDText.hyphenated .empty override 0 noon =
      (Table.empty.insertNew ⟨row, microseconds noon⟩, .ok ()) := by
  obtain ⟨row, stored⟩ := override_complete.exists_row UUIDText.lawful_hyphenated
  have prepared : PostgresRepository.prepare UUIDText.hyphenated override 0 noon = { override with createdAt := noon } :=
    (prepare_eq UUIDText.hyphenated (text_ne_empty 7) (.inl rfl) 0).1
  rw [prepared] at stored
  refine ⟨row, stored.expiresAt.trans (by decide), ?_⟩
  rw [createSession_of_row (prepared ▸ stored) rfl, prepared]

end Enrolment

end WebauthnService
