import AstraSystem.WebauthnService.Service

/-!
# Sessions and the ceremonies that they are used for

A session may be used by a call of any of the three operations, and by several calls at once: each goes on after its
delete, whether that found the session or not.
-/

namespace WebauthnService

open Postgres (Outcome)
open Runs (run Always EachStep)

variable {R P : Type}

section
variable (s : Service R P) (w : State R)

/-- A session succeeds once, in the operation that finishes its ceremony, and for its actor. -/
structure OneUse : Prop where
  once : (w.successes.map Success.sessionID).Nodup
  own : ∀ x ∈ w.successes, ∃ c ∈ w.created, s.uuid.string c.row.sessionID = x.sessionID ∧ x.op = c.ceremony.finish ∧
    s.uuid.parse x.actorID = .ok c.row.actorID ∧ x.actorType = c.row.actorType

/-- What a call deletes is still there, and was begun for its operation. -/
def Redeems : Action R → Prop
  | .delete i outcome => outcome = .committed → ∀ call, w.calls i = some call → call.stage ≠ .loaded →
    (∀ cred, call.stage ≠ .deleted cred) →
      (∃ row ∈ w.db.sessions.rows, s.uuid.string row.sessionID = call.session.sessionID) ∧
        ∀ c ∈ w.created, s.uuid.string c.row.sessionID = call.session.sessionID → call.op = c.ceremony.finish
  | _ => True

/-- The session of a call was created for the call's actor. -/
def Held (call : Call R) : Prop := ∃ c ∈ w.created, s.uuid.string c.row.sessionID = call.session.sessionID ∧
  s.uuid.parse call.req.actorID = .ok c.row.actorID ∧ actorTypeFromProto call.req.actorType = c.row.actorType

/-- No row of the session is left. -/
def Gone (sessionID : String) : Prop := ∀ row ∈ w.db.sessions.rows, s.uuid.string row.sessionID ≠ sessionID

structure State.Sound : Prop where
  oneUse : OneUse s w
  created : (w.created.map (·.row.sessionID)).Nodup
  sessions : ∀ row ∈ w.db.sessions.rows, ∃ c ∈ w.created, c.row = row
  held : ∀ i call, w.calls i = some call → Held s w call
  succeeded : ∀ x ∈ w.successes, Gone s w x.sessionID
  /-- A call that has deleted its session is about to succeed with it. -/
  deleted : ∀ i call cred, w.calls i = some call → call.stage = .deleted cred →
    Gone s w call.session.sessionID ∧ call.session.sessionID ∉ w.successes.map Success.sessionID ∧
      ∀ c ∈ w.created, s.uuid.string c.row.sessionID = call.session.sessionID → call.op = c.ceremony.finish
  apart : ∀ i j call call' cred cred', w.calls i = some call → w.calls j = some call' → call.stage = .deleted cred →
    call'.stage = .deleted cred' → call.session.sessionID = call'.session.sessionID → i = j

end

/-! ## What the statements do -/

section
variable {s : Service R P} {w : State R} {db : DB}

theorem getSession_eq_ok {uuid : UUIDText} {actorID challenge : String} {actorType : ActorType} {now : ℤ}
    {order : Shuffle SessionRow} {fault : Option String} {session : Session}
    (h : getSession uuid db actorID actorType challenge now order fault = .ok session) :
    ∃ row ∈ db.sessions.rows, uuid.string row.sessionID = session.sessionID ∧ uuid.parse actorID = .ok row.actorID ∧
      actorType = row.actorType := by
  unfold getSession at h
  split at h
  · cases h
  · cases h
  · rename_i id _ parsed
    split at h
    · cases h
    · rename_i row first
      have mem := List.mem_of_mem_head? (Option.mem_def.mpr first)
      obtain ⟨found, own⟩ := List.mem_filter.mp ((order.perm _).mem_iff.mp mem)
      obtain ⟨same, type, -, -⟩ := of_decide_eq_true own
      split at h
      · cases h
        exact ⟨row, found, rfl, parsed.trans (congrArg _ same.symm), type.symm⟩
      all_goals cases h

theorem loadSession_eq_ok {op : Operation} {req : FinishRequest R} {now : ℤ} {order : Shuffle SessionRow}
    {fault : Option String} {response : R} {session : Session}
    (h : s.loadSession op db req now order fault = .ok (response, session)) :
    ∃ row ∈ db.sessions.rows, s.uuid.string row.sessionID = session.sessionID ∧
      s.uuid.parse req.actorID = .ok row.actorID ∧ actorTypeFromProto req.actorType = row.actorType := by
  unfold Service.loadSession at h
  split at h
  · cases h
  · split at h
    · cases h
    · split at h
      · cases h
      · cases h
      · rename_i found
        cases h
        exact getSession_eq_ok found

/-- Beginning a ceremony leaves the sessions, or adds one of the drawn id. -/
theorem createSession_cases (uuid : UUIDText) (laws : uuid.Lawful) (db : DB) {session : Session} {id : UUID}
    (own : session.sessionID = uuid.string id) (outcome : Outcome) :
    (createSession uuid db session outcome).1 = db ∨ ∃ row : SessionRow, row.sessionID = id ∧
      (createSession uuid db session outcome).1 = { db with sessions := db.sessions.insertNew row } := by
  unfold createSession
  cases given : session.row uuid with
  | error err => exact .inl rfl
  | ok row =>
    have same : row.sessionID = id := by
      obtain ⟨sessionID, parsed, rest⟩ := Statement.bind_eq_ok.mp given
      rw [own, laws.parse_string] at parsed
      cases parsed
      obtain ⟨actorID, -, rest⟩ := Statement.bind_eq_ok.mp rest
      obtain ⟨challenge, -, rest⟩ := Statement.bind_eq_ok.mp rest
      obtain ⟨storeID, -, rest⟩ := Statement.bind_eq_ok.mp rest
      obtain ⟨kioskID, -, rest⟩ := Statement.bind_eq_ok.mp rest
      obtain ⟨tenantID, -, rest⟩ := Statement.bind_eq_ok.mp rest
      obtain ⟨reason, -, rest⟩ := Statement.bind_eq_ok.mp rest
      obtain ⟨relyingPartyID, -, rest⟩ := Statement.bind_eq_ok.mp rest
      cases rest
      rfl
    simp only
    split
    · exact .inl rfl
    · cases outcome.applies
      · exact .inl rfl
      · exact .inr ⟨row, same, rfl⟩

theorem create_cases (laws : s.uuid.Lawful) (db : DB) (draw : Draw) (context : String)
    {session : String → String → Session} (own : ∀ c r, (session c r).sessionID = s.uuid.string draw.sessionID) :
    (s.create db draw context session).1 = db ∨ ∃ row : SessionRow, row.sessionID = draw.sessionID ∧
      (s.create db draw context session).1 = { db with sessions := db.sessions.insertNew row } := by
  unfold Service.create
  split
  · exact .inl rfl
  · exact createSession_cases s.uuid laws db (own _ _) draw.outcome

theorem beginLogin_cases (laws : s.uuid.Lawful) (context reason : String) (db : DB) (req : BeginRequest) (draw : Draw) :
    (s.beginLogin context reason db req draw).1 = db ∨ ∃ row : SessionRow, row.sessionID = draw.sessionID ∧
      (s.beginLogin context reason db req draw).1 = { db with sessions := db.sessions.insertNew row } := by
  simp only [Service.beginLogin]
  split
  · exact .inl rfl
  · split
    · exact .inl rfl
    · exact .inl rfl
    · split
      · exact create_cases laws db draw context fun _ _ => rfl
      · exact .inl rfl

theorem start_cases (laws : s.uuid.Lawful) (ceremony : Ceremony) (db : DB) (req : BeginRequest) (draw : Draw) :
    (s.start ceremony db req draw).1 = db ∨ ∃ row : SessionRow, row.sessionID = draw.sessionID ∧
      (s.start ceremony db req draw).1 = { db with sessions := db.sessions.insertNew row } := by
  cases ceremony with
  | verification => exact beginLogin_cases laws _ _ db req draw
  | authentication => exact beginLogin_cases laws _ _ db req draw
  | registration =>
    rw [Service.start, Service.beginRegistration]
    split
    · exact .inl rfl
    · exact create_cases laws db draw _ fun _ _ => rfl

theorem saveCredential_sessions (uuid : UUIDText) (db : DB) (actorID : String) (actorType : ActorType)
    (credentialID : String) (publicKey : List UInt8) (outcome : Outcome) :
    (saveCredential uuid db actorID actorType credentialID publicKey outcome).1.sessions = db.sessions := by
  unfold saveCredential
  split
  · rfl
  · rfl
  · cases outcome.applies with
    | true => cases actorType <;> rfl
    | false => rfl

/-- A delete leaves rows out; where it succeeds, those of the session. -/
theorem deleteSession_rows (uuid : UUIDText) (db : DB) (sessionID : String) (outcome : Outcome) (row : SessionRow)
    (mem : row ∈ (deleteSession uuid db sessionID outcome).1.sessions.rows) : row ∈ db.sessions.rows := by
  unfold deleteSession at mem
  split at mem
  · exact mem
  · cases applies : outcome.applies
    · rw [applies] at mem
      exact mem
    · rw [applies] at mem
      exact (Table.mem_delete.mp mem).1

theorem deleteSession_committed {uuid : UUIDText} {sessionID : String} {outcome : Outcome}
    (h : (deleteSession uuid db sessionID outcome).2 = .ok ()) : outcome = .committed := by
  unfold deleteSession at h
  split at h
  · cases h
  · exact Outcome.reply_eq_ok.mp h

theorem deleteSession_gone {uuid : UUIDText} (laws : uuid.Lawful) {db : DB} {sessionID : String} {outcome : Outcome}
    (committed : (deleteSession uuid db sessionID outcome).2 = .ok ()) {row : SessionRow}
    (mem : row ∈ (deleteSession uuid db sessionID outcome).1.sessions.rows) : uuid.string row.sessionID ≠ sessionID := by
  rintro rfl
  simp only [deleteSession, laws.parse_string] at committed mem
  cases Outcome.reply_eq_ok.mp committed
  obtain ⟨-, other⟩ := Table.mem_delete.mp mem
  exact of_decide_eq_false other rfl

end

/-! ## The steps -/

section
variable {s : Service R P} {w : State R} {i j : ℕ} {call c : Option (Call R)} {x : Call R} {db : DB}

theorem setCall_eq_some : (w.setCall i call).calls j = some x ↔ j = i ∧ call = some x ∨ j ≠ i ∧ w.calls j = some x := by
  by_cases same : j = i
  · subst same
    simp [State.setCall]
  · simp [State.setCall, same]

theorem Gone.mono {w' : State R} (fewer : ∀ row ∈ w'.db.sessions.rows, row ∈ w.db.sessions.rows) {sessionID : String}
    (h : Gone s w sessionID) : Gone s w' sessionID := fun row mem => h row (fewer row mem)

namespace State.Sound

variable (h : w.Sound s)
include h

theorem setCall (fewer : ∀ row ∈ db.sessions.rows, row ∈ w.db.sessions.rows)
    (next : ∀ x, call = some x → Held s w x ∧ ∀ cred, x.stage ≠ .deleted cred) (verified : List Verified) :
    ({ w.setCall i call with db, verified } : State R).Sound s where
  oneUse := ⟨h.oneUse.once, h.oneUse.own⟩
  created := h.created
  sessions row mem := h.sessions row (fewer row mem)
  held j x given := by
    obtain ⟨-, new⟩ | ⟨-, old⟩ := setCall_eq_some.mp given
    · exact (next x new).1
    · exact h.held j x old
  succeeded x mem := (h.succeeded x mem).mono fewer
  deleted j x cred given stage := by
    obtain ⟨-, new⟩ | ⟨-, old⟩ := setCall_eq_some.mp given
    · exact absurd stage ((next x new).2 cred)
    · obtain ⟨gone, rest⟩ := h.deleted j x cred old stage
      exact ⟨gone.mono fewer, rest⟩
  apart j k x y cred cred' given given' stage stage' same := by
    obtain ⟨-, new⟩ | ⟨-, old⟩ := setCall_eq_some.mp given
    · exact absurd stage ((next x new).2 cred)
    · obtain ⟨-, new⟩ | ⟨-, old'⟩ := setCall_eq_some.mp given'
      · exact absurd stage' ((next y new).2 cred')
      · exact h.apart j k x y cred cred' old old' stage stage' same

theorem drop (fewer : ∀ row ∈ db.sessions.rows, row ∈ w.db.sessions.rows) :
    ({ w.setCall i none with db } : State R).Sound s :=
  h.setCall fewer (fun x none => by cases none) w.verified

/-- A session that is there belongs to no call that has deleted it, and to none that has succeeded. -/
theorem fresh {row : SessionRow} (mem : row ∈ w.db.sessions.rows) :
    s.uuid.string row.sessionID ∉ w.successes.map Success.sessionID ∧
      ∀ j x cred, w.calls j = some x → x.stage = .deleted cred → x.session.sessionID ≠ s.uuid.string row.sessionID := by
  constructor
  · intro used
    obtain ⟨x, used, same⟩ := List.mem_map.mp used
    exact h.succeeded x used row mem same.symm
  · intro j x cred given stage same
    exact (h.deleted j x cred given stage).1 row mem same.symm

theorem delete (given : w.calls i = some x) {y : Call R} (req : y.req = x.req) (session : y.session = x.session)
    (op : y.op = x.op) {row : SessionRow} (mem : row ∈ w.db.sessions.rows)
    (own : s.uuid.string row.sessionID = x.session.sessionID)
    (finish : ∀ c ∈ w.created, s.uuid.string c.row.sessionID = x.session.sessionID → x.op = c.ceremony.finish)
    (fewer : ∀ row ∈ db.sessions.rows, row ∈ w.db.sessions.rows)
    (gone : ∀ row ∈ db.sessions.rows, s.uuid.string row.sessionID ≠ x.session.sessionID) :
    ({ w.setCall i (some y) with db } : State R).Sound s where
  oneUse := ⟨h.oneUse.once, h.oneUse.own⟩
  created := h.created
  sessions row mem := h.sessions row (fewer row mem)
  held j z given' := by
    obtain ⟨-, new⟩ | ⟨-, old⟩ := setCall_eq_some.mp given'
    · cases new
      have held := h.held i x given
      rw [Held, req, session]
      exact held
    · exact h.held j z old
  succeeded x mem := (h.succeeded x mem).mono fewer
  deleted j z cred given' stage := by
    obtain ⟨-, new⟩ | ⟨-, old⟩ := setCall_eq_some.mp given'
    · cases new
      rw [session, op]
      exact ⟨gone, own ▸ (h.fresh mem).1, finish⟩
    · obtain ⟨gone, rest⟩ := h.deleted j z cred old stage
      exact ⟨gone.mono fewer, rest⟩
  apart j k z z' cred cred' given' given'' stage stage' same := by
    obtain ⟨rfl, new⟩ | ⟨other, old⟩ := setCall_eq_some.mp given'
    · obtain ⟨rfl, -⟩ | ⟨-, old'⟩ := setCall_eq_some.mp given''
      · rfl
      · cases new
        exact absurd (same.symm.trans (session ▸ own.symm)) ((h.fresh mem).2 k z' cred' old' stage')
    · obtain ⟨-, new⟩ | ⟨-, old'⟩ := setCall_eq_some.mp given''
      · cases new
        exact absurd (same.trans (session ▸ own.symm)) ((h.fresh mem).2 j z cred old stage)
      · exact h.apart j k z z' cred cred' old old' stage stage' same

/-- A call succeeds with a session that no row is left of, and that no other call can succeed with. -/
theorem succeed (given : w.calls i = some x) (fewer : ∀ row ∈ db.sessions.rows, row ∈ w.db.sessions.rows)
    (gone : ∀ row ∈ db.sessions.rows, s.uuid.string row.sessionID ≠ x.session.sessionID)
    (unused : x.session.sessionID ∉ w.successes.map Success.sessionID)
    (alone : ∀ j y cred, j ≠ i → w.calls j = some y → y.stage = .deleted cred →
      y.session.sessionID ≠ x.session.sessionID)
    (finish : ∀ c ∈ w.created, s.uuid.string c.row.sessionID = x.session.sessionID → x.op = c.ceremony.finish)
    (issued : List Issued) :
    ({ w.setCall i none with db, issued, successes := w.successes ++ [success x.op x.req x.session] } : State R).Sound s where
  oneUse := by
    constructor
    · rw [List.map_append]
      refine List.nodup_append.mpr ⟨h.oneUse.once, List.nodup_singleton _, ?_⟩
      rintro a mem b single rfl
      cases List.mem_singleton.mp single
      exact unused mem
    · intro y mem
      obtain old | new := List.mem_append.mp mem
      · exact h.oneUse.own y old
      · cases List.mem_singleton.mp new
        obtain ⟨c, mem, own, actor, type⟩ := h.held i x given
        exact ⟨c, mem, own, finish c mem own, actor, type⟩
  created := h.created
  sessions row mem := h.sessions row (fewer row mem)
  held j y given' := by
    obtain ⟨-, new⟩ | ⟨-, old⟩ := setCall_eq_some.mp given'
    · cases new
    · exact h.held j y old
  succeeded y mem := by
    obtain old | new := List.mem_append.mp mem
    · exact (h.succeeded y old).mono fewer
    · cases List.mem_singleton.mp new
      exact gone
  deleted j y cred given' stage := by
    obtain ⟨-, new⟩ | ⟨other, old⟩ := setCall_eq_some.mp given'
    · cases new
    · obtain ⟨gone, unused, finish⟩ := h.deleted j y cred old stage
      refine ⟨gone.mono fewer, ?_, finish⟩
      rw [List.map_append, List.mem_append, not_or, List.map_singleton, List.mem_singleton]
      exact ⟨unused, alone j y cred other old stage⟩
  apart j k y z cred cred' given' given'' stage stage' same := by
    obtain ⟨-, new⟩ | ⟨-, old⟩ := setCall_eq_some.mp given'
    · cases new
    · obtain ⟨-, new⟩ | ⟨-, old'⟩ := setCall_eq_some.mp given''
      · cases new
      · exact h.apart j k y z cred cred' old old' stage stage' same

/-- A new session is none that a call holds, or has succeeded with. -/
theorem add (laws : s.uuid.Lawful) (ceremony : Ceremony) {row : SessionRow}
    (new : row.sessionID ∉ w.created.map (·.row.sessionID)) :
    ({ w with db := { w.db with sessions := w.db.sessions.insertNew row },
              created := w.created ++ [⟨ceremony, row⟩] } : State R).Sound s := by
  have apart {c : Created} (mem : c ∈ w.created) : s.uuid.string row.sessionID ≠ s.uuid.string c.row.sessionID :=
    fun same => new (List.mem_map.mpr ⟨c, mem, (laws.string_injective same).symm⟩)
  have gone {sessionID : String} (old : Gone s w sessionID) (other : s.uuid.string row.sessionID ≠ sessionID) :
      ∀ x ∈ (w.db.sessions.insertNew row).rows, s.uuid.string x.sessionID ≠ sessionID := by
    intro x mem
    obtain mem | ⟨-, rfl⟩ := Table.mem_insertNew.mp mem
    · exact old x mem
    · exact other
  have held (i : ℕ) (x : Call R) (given : w.calls i = some x) : s.uuid.string row.sessionID ≠ x.session.sessionID := by
    obtain ⟨c, mem, own, -⟩ := h.held i x given
    exact own ▸ apart mem
  constructor
  · refine ⟨h.oneUse.once, fun x mem => ?_⟩
    obtain ⟨c, mem, own⟩ := h.oneUse.own x mem
    exact ⟨c, List.mem_append_left _ mem, own⟩
  · rw [List.map_append]
    refine List.nodup_append.mpr ⟨h.created, List.nodup_singleton _, ?_⟩
    rintro a mem b single rfl
    cases List.mem_singleton.mp single
    exact new mem
  · intro x mem
    obtain old | ⟨-, rfl⟩ := Table.mem_insertNew.mp mem
    · obtain ⟨c, mem, same⟩ := h.sessions x old
      exact ⟨c, List.mem_append_left _ mem, same⟩
    · exact ⟨_, List.mem_append_right _ (List.mem_singleton_self _), rfl⟩
  · intro i x given
    obtain ⟨c, mem, own⟩ := h.held i x given
    exact ⟨c, List.mem_append_left _ mem, own⟩
  · intro x mem
    obtain ⟨c, created, own, -⟩ := h.oneUse.own x mem
    exact gone (h.succeeded x mem) (own ▸ apart created)
  · intro i x cred given stage
    obtain ⟨old, unused, finish⟩ := h.deleted i x cred given stage
    refine ⟨gone old (held i x given), unused, fun c mem own => ?_⟩
    obtain old | single := List.mem_append.mp mem
    · exact finish c old own
    · cases List.mem_singleton.mp single
      exact absurd own (held i x given)
  · exact h.apart

theorem start (laws : s.uuid.Lawful) (ceremony : Ceremony) (req : BeginRequest) (draw : Draw) :
    (w.start s ceremony req draw).Sound s := by
  unfold State.start
  split
  · exact h
  · rename_i new
    have absent : w.db.sessions.find? draw.sessionID = none := by
      rw [Table.find?_eq_none]
      intro row mem same
      obtain ⟨c, created, rfl⟩ := h.sessions row mem
      exact new (List.mem_map.mpr ⟨c, created, same⟩)
    obtain same | ⟨row, own, added⟩ := start_cases laws ceremony w.db req draw
    · simp only [same, absent]
      exact h
    · have found : (w.db.sessions.insertNew row).find? draw.sessionID = some row := by
        rw [Table.find?_eq_some, Table.mem_insertNew]
        exact ⟨.inr ⟨fun old mem => own ▸ Table.find?_eq_none.mp absent old mem, rfl⟩, own⟩
      simp only [added, found]
      exact h.add laws ceremony (own ▸ new)

theorem load (i : ℕ) (op : Operation) (req : FinishRequest R) (now : ℤ) (order : Shuffle SessionRow)
    (fault : Option String) : (w.load s i op req now order fault).Sound s := by
  unfold State.load
  split
  · rename_i response session _ loaded
    refine h.setCall (fun row mem => mem) (fun x new => ?_) w.verified
    cases new
    obtain ⟨row, mem, own, actor, type⟩ := loadSession_eq_ok loaded
    obtain ⟨c, created, rfl⟩ := h.sessions row mem
    exact ⟨⟨c, created, own, actor, type⟩, fun cred stage => by cases stage⟩
  · exact h

theorem verify (i : ℕ) (fault : Option String) (outcome : Outcome) : (w.verify s i fault outcome).Sound s := by
  unfold State.verify
  split
  · rename_i req response session given
    split
    · exact h.drop fun row mem => mem
    · exact h.drop fun row mem => mem
    · have sessions {credentialID : String} {publicKey : List UInt8} : (saveCredential s.uuid w.db req.actorID
          (actorTypeFromProto req.actorType) credentialID publicKey outcome).1.sessions = w.db.sessions :=
        saveCredential_sessions ..
      simp only
      split
      · exact h.drop fun row mem => sessions ▸ mem
      · refine h.setCall (fun row mem => sessions ▸ mem) (fun x new => ?_) w.verified
        cases new
        have held := h.held i _ given
        exact ⟨held, fun cred stage => by cases stage⟩
  · rename_i op req response session _ given
    split
    · exact h.drop fun row mem => mem
    · exact h.drop fun row mem => mem
    · refine h.setCall (fun row mem => mem) (fun x new => ?_) _
      cases new
      have held := h.held i _ given
      exact ⟨held, fun cred stage => by cases stage⟩
  · exact h

/-- Where the session is there, it is deleted by no other call. -/
theorem deleteStep (laws : s.uuid.Lawful) {outcome : Outcome} (redeems : Redeems s w (.delete i outcome)) :
    (w.delete s i outcome).Sound s := by
  unfold State.delete
  split
  · rename_i op req response session cred given
    have fewer := deleteSession_rows s.uuid w.db session.sessionID outcome
    simp only
    split
    · exact h.drop fewer
    · rename_i replied
      obtain ⟨⟨row, mem, own⟩, finish⟩ := redeems (deleteSession_committed replied) _ given
        (fun stage => by cases stage) (fun cred stage => by cases stage)
      exact h.delete given rfl rfl rfl mem own finish fewer fun row mem => deleteSession_gone laws replied mem
  · rename_i op req response session credentialID given
    have fewer := deleteSession_rows s.uuid w.db session.sessionID outcome
    simp only
    split
    · exact h.drop fewer
    · rename_i replied
      obtain ⟨⟨row, mem, own⟩, finish⟩ := redeems (deleteSession_committed replied) _ given
        (fun stage => by cases stage) (fun cred stage => by cases stage)
      obtain ⟨unused, alone⟩ := h.fresh mem
      rw [own] at unused alone
      exact h.succeed given fewer (fun row mem => deleteSession_gone laws replied mem) unused
        (fun j y cred _ old stage => alone j y cred old stage) finish w.issued
  · exact h

theorem touch (i : ℕ) (outcome : Outcome) (now : ℤ) : (w.touch s i outcome now).Sound s := by
  unfold State.touch
  split
  · rename_i op req response session cred given
    simp only
    split
    · exact h.drop fun row mem => mem
    · obtain ⟨gone, unused, finish⟩ := h.deleted i _ cred given rfl
      have alone (j : ℕ) (y : Call R) (cred' : Credential) (other : j ≠ i) (old : w.calls j = some y)
          (stage : y.stage = .deleted cred') : y.session.sessionID ≠ session.sessionID :=
        fun same => other (h.apart j i y _ cred' cred old given stage rfl same)
      have done (issued : List Issued) := h.succeed given (fun row mem => mem) gone unused alone finish issued
      split
      · exact done _
      · exact done w.issued
  · exact h

theorem step (laws : s.uuid.Lawful) {a : Action R} (redeems : Redeems s w a) : (w.step s a).Sound s := by
  cases a with
  | start ceremony req draw => exact h.start laws ceremony req draw
  | load i op req now order fault => exact h.load i op req now order fault
  | verify i fault outcome => exact h.verify i fault outcome
  | delete i outcome => exact h.deleteStep laws redeems
  | touch i outcome now => exact h.touch i outcome now
  | administer employees users =>
    exact ⟨⟨h.oneUse.once, h.oneUse.own⟩, h.created, h.sessions, h.held, h.succeeded, h.deleted, h.apart⟩

end State.Sound

theorem State.sound_empty (s : Service R P) : State.Sound s ({} : State R) where
  oneUse := ⟨List.nodup_nil, fun x mem => by cases mem⟩
  created := List.nodup_nil
  sessions row mem := by cases mem
  held i call given := by cases given
  succeeded x mem := by cases mem
  deleted i call cred given := by cases given
  apart i j call call' cred cred' given := by cases given

end

/-- **Each session succeeds at most once, in the operation that finishes its ceremony and for its actor, in runs whose
deletes find the session there and begun for the operation.** -/
theorem oneUse_of_redeems {s : Service R P} (laws : s.uuid.Lawful) {actions : List (Action R)}
    (redeems : EachStep (State.step s) (Redeems s) {} actions) : Always (State.step s) (OneUse s) {} actions :=
  Runs.always_of_eachStep (fun _ h => h.oneUse) (fun _ _ h redeems => h.step laws redeems) (State.sound_empty s) redeems

/-! ## One challenge and two calls -/

namespace Override

/-- A response that answers a challenge is accepted for it. -/
def verifier : Verifier String String where
  decodeString text := if text = "AQ" then some [1] else none
  encodeToString bytes := if bytes = [1] then "AQ" else ""
  parse _ response := .ok response
  finishLogin _ data parsed := if parsed = data.challenge then .ok () else .error "challenge mismatch"
  finishRegistration _ data parsed := if parsed = data.challenge then .ok ([1], [2]) else .error "challenge mismatch"

def service : Service String String where
  uuid := .hyphenated
  verifier
  jwt := { sign := fun claims => claims.sub, parse := fun _ => none }
  ttl := 5 * 60 * 10 ^ 9

/-- An employee of a store. -/
def employees : Actors := Table.empty.insertNew
  { actorID := 5, scopeID := 7, credentialID := some "AQ", publicKey := some [2] }

def beginRequest : BeginRequest where
  actorID := "00000000-0000-0000-0000-000000000005"
  actorType := 1
  storeID := "00000000-0000-0000-0000-000000000007"
  kioskID := "00000000-0000-0000-0000-000000000008"
  tenantID := "00000000-0000-0000-0000-000000000009"

def draw : Draw where
  sessionID := 1
  begun := .ok ("challenge", "localhost")
  now := 0

def finishRequest : FinishRequest String where
  actorID := "00000000-0000-0000-0000-000000000005"
  actorType := 1
  challenge := "challenge"
  credentialID := "AQ"
  response := some "challenge"

def begun (ceremony : Ceremony) : List (Action String) :=
  [.administer employees .empty, .start ceremony beginRequest draw]

/-- A call from its first step to its last. -/
def finished (i : ℕ) (op : Operation) : List (Action String) :=
  [.load i op finishRequest 0 (.none SessionRow) none, .verify i none .committed, .delete i .committed,
    .touch i .committed 0]

/-- Two calls, one step each in turn. -/
def together (op : Operation) : List (Action String) :=
  (finished 0 op).flatMap fun a => match a with
    | .load _ op req now order fault => [.load 0 op req now order fault, .load 1 op req now order fault]
    | .verify _ fault outcome => [.verify 0 fault outcome, .verify 1 fault outcome]
    | .delete _ outcome => [.delete 0 outcome, .delete 1 outcome]
    | .touch _ outcome now => [.touch 0 outcome now, .touch 1 outcome now]
    | a => [a]

/-- The response is verified, and the session still there. -/
def verified : State String :=
  run (State.step service) {} (begun .verification ++ (finished 0 .verifyAssertion).take 2)

theorem used_once : Always (State.step service) (OneUse service) {} (begun .verification ++ finished 0 .verifyAssertion) := by
  have redeems : Redeems service verified (.delete 0 .committed) := by
    intro _ call given _ _
    have found : (verified.calls 0).all fun call => decide
        ((∃ row ∈ verified.db.sessions.rows, service.uuid.string row.sessionID = call.session.sessionID) ∧
          ∀ c ∈ verified.created, service.uuid.string c.row.sessionID = call.session.sessionID →
            call.op = c.ceremony.finish) := by
      decide +kernel
    rw [given, Option.all_some] at found
    exact of_decide_eq_true found
  have steps : begun .verification ++ finished 0 .verifyAssertion =
      (begun .verification ++ (finished 0 .verifyAssertion).take 2) ++
        [.delete 0 .committed, .touch 0 .committed 0] := rfl
  refine oneUse_of_redeems (s := service) UUIDText.lawful_hyphenated ?_
  rw [steps, Runs.eachStep_append]
  exact ⟨⟨trivial, trivial, trivial, trivial, trivial⟩, redeems, trivial, trivial⟩

/-- The challenge of one verification is accepted twice, and that of an authentication for an override token. -/
theorem used_twice :
    ¬ Always (State.step service) (OneUse service) {} (begun .verification ++ together .verifyAssertion) ∧
    ¬ Always (State.step service) (OneUse service) {} (begun .authentication ++ finished 0 .verifyAssertion) := by
  constructor
  · intro h
    have once := (Runs.always_last h).once
    revert once
    decide +kernel
  · intro h
    have own := (Runs.always_last h).own
    have finish : ∀ x ∈ (run (State.step service) {} (begun .authentication ++ finished 0 .verifyAssertion)).successes,
        ∃ c ∈ (run (State.step service) {} (begun .authentication ++ finished 0 .verifyAssertion)).created,
          x.op = c.ceremony.finish := by
      intro x mem
      obtain ⟨c, created, -, same, -⟩ := own x mem
      exact ⟨c, created, same⟩
    revert finish
    decide +kernel

end Override

end WebauthnService
