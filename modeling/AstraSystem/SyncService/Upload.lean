import AstraSystem.Lib.Runs
import AstraSystem.SyncService.Service

/-!
# Uploads

A batch is one transaction. The database takes it if every delta of it fits the columns, and if there
is a store and a kiosk to refer to.
-/

namespace SyncService

/-! ## Events of a batch -/

/-- A text that is read as a UUID. -/
def IsUUID (uuid : UUIDText) (s : String) : Prop := s ≠ "" ∧ ∃ u, uuid.parse s = .ok u

/-- The four types that have a name in the schema. -/
def SyncEventType.Named : SyncEventType → Prop
  | .inventoryUpdate | .cartMerge | .transactionBatch | .analyticsBatch => True
  | .unspecified | .unknown _ => False

structure WellFormed (uuid : UUIDText) (b : SyncBatch) : Prop where
  batch : IsUUID uuid b.batchID
  store : IsUUID uuid b.storeID
  kiosk : IsUUID uuid b.kioskID
  delta : ∀ d ∈ b.deltas, IsUUID uuid d.deltaID
  named : ∀ d ∈ b.deltas, d.eventType.Named

section
variable {pkg : Packages} {schema : Schema} {db db' : SyncEvents} {env : Env} {auth : String}
  {b : SyncBatch}

/-- What `deltaToEvent` makes of a delta. -/
structure EventOf (pkg : Packages) (env : Env) (storeID kioskID : UUID) (d : SyncDelta × ℕ)
    (e : SyncEvent) : Prop where
  id : pkg.uuid.parse d.1.deltaID = .ok e.syncEventID
  store : e.storeID = storeID
  kiosk : e.kioskID = kioskID
  type : e.eventType = d.1.eventType.string
  payload : e.payloadJSON = d.1.payloadJSON pkg
  clock : e.vectorClock = d.1.clockJSON
  time : e.createdAt = d.1.time (env.now d.2)

theorem deltaToEvent_eq_ok {storeID kioskID : UUID} {d : SyncDelta × ℕ} {e : SyncEvent} :
    deltaToEvent pkg env storeID kioskID d = .ok e ↔
      d.1.deltaID ≠ "" ∧ EventOf pkg env storeID kioskID d e := by
  unfold deltaToEvent
  by_cases named : d.1.deltaID = ""
  · simp [named]
  · cases parsed : pkg.uuid.parse d.1.deltaID with
    | error err =>
      rw [if_neg named]
      exact ⟨fun h => (by cases h), fun h => (by cases parsed.symm.trans h.2.id)⟩
    | ok id =>
      rw [if_neg named]
      constructor
      · intro h
        cases h
        exact ⟨named, parsed, rfl, rfl, rfl, rfl, rfl, rfl⟩
      · rintro ⟨-, h⟩
        cases e
        obtain ⟨same, rfl, rfl, rfl, rfl, rfl, rfl⟩ := h
        cases parsed.symm.trans same
        rfl

/-- The store and the kiosk that a batch names. -/
theorem deltasToEvents_eq_ok {events : List SyncEvent} :
    deltasToEvents pkg env b = .ok events ↔
      ∃ storeID kioskID, pkg.uuid.parse b.storeID = .ok storeID ∧
        pkg.uuid.parse b.kioskID = .ok kioskID ∧
        b.deltas.zipIdx.mapM (deltaToEvent pkg env storeID kioskID) = .ok events := by
  unfold deltasToEvents
  cases pkg.uuid.parse b.storeID with
  | error err => simp
  | ok storeID =>
    cases pkg.uuid.parse b.kioskID with
    | error err => simp
    | ok kioskID => simp

/-! ## Rows -/

/-- The columns take the event. -/
structure Fits (schema : Schema) (e : SyncEvent) : Prop where
  payload : schema.jsonb e.payloadJSON
  clock : schema.jsonb e.vectorClock
  width : e.eventType.length ≤ eventTypeWidth
  type : e.eventType ∈ eventTypes

/-- What the insertion of one event does. -/
theorem insertSyncEvent_eq_ok {e : SyncEvent} :
    insertSyncEvent schema db e = .ok db' ↔ Fits schema e ∧
      ((db.find? e.syncEventID).isSome ∧ db' = db ∨
        db.find? e.syncEventID = none ∧ (e.storeID ∈ schema.stores ∧ e.kioskID ∈ schema.kiosks) ∧
          db' = db.upsert (fun _ new => new) (fun _ _ => rfl) e) := by
  unfold insertSyncEvent
  split
  · rename_i json
    exact ⟨fun h => (by cases h), fun h => absurd ⟨h.1.payload, h.1.clock⟩ json⟩
  rename_i json
  rw [not_not] at json
  split
  · rename_i wide
    exact ⟨fun h => (by cases h), fun h => absurd h.1.width (Nat.not_le.mpr wide)⟩
  rename_i narrow
  split
  · rename_i unknown
    exact ⟨fun h => (by cases h), fun h => absurd h.1.type unknown⟩
  rename_i known
  rw [not_not] at known
  have fits : Fits schema e := ⟨json.1, json.2, Nat.not_lt.mp narrow, known⟩
  cases found : db.find? e.syncEventID with
  | some row => simp [fits, eq_comm]
  | none =>
    split
    · rename_i none
      cases none
    · split
      · rename_i refers
        have missing : ¬ (e.storeID ∈ schema.stores ∧ e.kioskID ∈ schema.kiosks) := by tauto
        simp [missing]
      · rename_i refers
        have there : e.storeID ∈ schema.stores ∧ e.kioskID ∈ schema.kiosks := by tauto
        simp [fits, there, eq_comm]

/-- A row that an event has stays as it is. -/
theorem insertSyncEvent_rows {e : SyncEvent} (h : insertSyncEvent schema db e = .ok db') :
    db'.rows = db.rows ∧ (db.find? e.syncEventID).isSome ∨
      db'.rows = db.rows ++ [e] ∧ db.find? e.syncEventID = none := by
  obtain ⟨-, ⟨stored, rfl⟩ | ⟨absent, -, rfl⟩⟩ := insertSyncEvent_eq_ok.mp h
  · exact .inl ⟨rfl, stored⟩
  · exact .inr ⟨Table.rows_upsert_of_none absent, absent⟩

/-- A transaction adds those of its events that are not stored, and changes no row. -/
theorem foldlM_rows {events : List SyncEvent}
    (h : events.foldlM (insertSyncEvent schema) db = .ok db') :
    ∃ new, db'.rows = db.rows ++ new ∧ ∀ e ∈ new, e ∈ events ∧ db.find? e.syncEventID = none := by
  induction events generalizing db with
  | nil =>
    cases h
    exact ⟨[], (List.append_nil _).symm, fun _ he => absurd he List.not_mem_nil⟩
  | cons e events ih =>
    rw [List.foldlM_cons] at h
    obtain ⟨mid, first, rest⟩ := Statement.bind_eq_ok.mp h
    obtain ⟨new, rows, fresh⟩ := ih rest
    obtain ⟨same, -⟩ | ⟨added, absent⟩ := insertSyncEvent_rows first
    · refine ⟨new, by rw [rows, same], fun x hx => ⟨List.mem_cons_of_mem _ (fresh x hx).1, ?_⟩⟩
      simpa [Table.find?, same] using (fresh x hx).2
    · refine ⟨e :: new, by rw [rows, added, List.append_assoc, List.singleton_append], ?_⟩
      rintro x (_ | ⟨_, hx⟩)
      · exact ⟨List.mem_cons_self, absent⟩
      · refine ⟨List.mem_cons_of_mem _ (fresh x hx).1, Table.find?_eq_none.mpr fun r hr => ?_⟩
        exact Table.find?_eq_none.mp (fresh x hx).2 r (added ▸ List.mem_append_left _ hr)

theorem find?_of_rows {id : UUID} {new : List SyncEvent} (rows : db'.rows = db.rows ++ new)
    (stored : (db.find? id).isSome) : (db'.find? id).isSome := by
  obtain ⟨r, hr⟩ := Option.isSome_iff_exists.mp stored
  obtain ⟨mem, key⟩ := Table.find?_eq_some.mp hr
  exact Option.isSome_iff_exists.mpr
    ⟨r, Table.find?_eq_some.mpr ⟨rows ▸ List.mem_append_left new mem, key⟩⟩

/-- Every event of a transaction is stored by it. -/
theorem stored_of_foldlM {events : List SyncEvent}
    (h : events.foldlM (insertSyncEvent schema) db = .ok db') :
    ∀ e ∈ events, (db'.find? e.syncEventID).isSome := by
  induction events generalizing db with
  | nil => simp
  | cons e events ih =>
    rw [List.foldlM_cons] at h
    obtain ⟨mid, first, rest⟩ := Statement.bind_eq_ok.mp h
    rw [List.forall_mem_cons]
    refine ⟨?_, ih rest⟩
    obtain ⟨new, rows, -⟩ := foldlM_rows rest
    refine find?_of_rows rows ?_
    obtain ⟨-, ⟨stored, rfl⟩ | ⟨absent, -, rfl⟩⟩ := insertSyncEvent_eq_ok.mp first
    · exact stored
    · rw [Table.find?_upsert_self absent]
      rfl

/-- When the database takes a transaction of one kiosk. -/
theorem foldlM_ok {events : List SyncEvent} {storeID kioskID : UUID}
    (own : ∀ e ∈ events, e.storeID = storeID ∧ e.kioskID = kioskID) :
    (∃ db', events.foldlM (insertSyncEvent schema) db = .ok db') ↔
      (∀ e ∈ events, Fits schema e) ∧
        ((∀ e ∈ events, (db.find? e.syncEventID).isSome) ∨
          storeID ∈ schema.stores ∧ kioskID ∈ schema.kiosks) := by
  induction events generalizing db with
  | nil => simp [pure, Except.pure]
  | cons e events ih =>
    rw [List.forall_mem_cons] at own
    obtain ⟨⟨rfl, rfl⟩, own⟩ := own
    simp only [List.forall_mem_cons, List.foldlM_cons]
    constructor
    · rintro ⟨db', h⟩
      obtain ⟨mid, first, rest⟩ := Statement.bind_eq_ok.mp h
      obtain ⟨fits, how⟩ := insertSyncEvent_eq_ok.mp first
      obtain ⟨others, refers⟩ := (ih own).mp ⟨db', rest⟩
      refine ⟨⟨fits, others⟩, ?_⟩
      obtain ⟨stored, rfl⟩ | ⟨-, there, -⟩ := how
      · exact refers.imp_left fun all => ⟨stored, all⟩
      · exact .inr there
    · rintro ⟨⟨fits, others⟩, refers⟩
      have step (mid : SyncEvents) (first : insertSyncEvent schema db e = .ok mid)
          (h : (∀ e ∈ events, (mid.find? e.syncEventID).isSome) ∨
            e.storeID ∈ schema.stores ∧ e.kioskID ∈ schema.kiosks) :
          ∃ db', (insertSyncEvent schema db e >>= fun db => events.foldlM (insertSyncEvent schema) db) =
            .ok db' :=
        Statement.exists_bind first ((ih own).mpr ⟨others, h⟩)
      by_cases stored : (db.find? e.syncEventID).isSome
      · exact step db (insertSyncEvent_eq_ok.mpr ⟨fits, .inl ⟨stored, rfl⟩⟩) (refers.imp_left And.right)
      · obtain all | there := refers
        · exact absurd all.1 stored
        · have absent := Option.not_isSome_iff_eq_none.mp stored
          exact step _ (insertSyncEvent_eq_ok.mpr ⟨fits, .inr ⟨absent, there, rfl⟩⟩) (.inr there)

/-! ## Batches -/

/-- The columns take the delta. -/
structure Takes (pkg : Packages) (schema : Schema) (d : SyncDelta) : Prop where
  type : d.eventType ≠ .transactionBatch
  payload : schema.jsonb (d.payloadJSON pkg)
  clock : schema.jsonb d.clockJSON

/-- The id of the delta is in the table. -/
def Stored (uuid : UUIDText) (db : SyncEvents) (d : SyncDelta) : Prop :=
  ∃ id, uuid.parse d.deltaID = .ok id ∧ (db.find? id).isSome

/-- The batch comes from the kiosk that is authenticated, its deltas fit, and what is new of it has a store
and a kiosk to refer to. -/
structure Accepts (pkg : Packages) (schema : Schema) (db : SyncEvents) (auth : String) (b : SyncBatch) :
    Prop where
  caller : auth = "" ∨ auth = b.kioskID
  takes : ∀ d ∈ b.deltas, Takes pkg schema d
  refers : (∀ d ∈ b.deltas, Stored pkg.uuid db d) ∨
    ∃ storeID kioskID, pkg.uuid.parse b.storeID = .ok storeID ∧ pkg.uuid.parse b.kioskID = .ok kioskID ∧
      storeID ∈ schema.stores ∧ kioskID ∈ schema.kiosks

/-- Of the four types with a name one is too long for the column. -/
theorem fits_iff {storeID kioskID : UUID} {d : SyncDelta × ℕ} {e : SyncEvent}
    (h : EventOf pkg env storeID kioskID d e) (named : d.1.eventType.Named) :
    Fits schema e ↔ Takes pkg schema d.1 := by
  have type : (e.eventType.length ≤ eventTypeWidth ∧ e.eventType ∈ eventTypes) ↔
      d.1.eventType ≠ .transactionBatch := by
    rw [h.type]
    cases ty : d.1.eventType with
    | unspecified | unknown => exact absurd named (by rw [ty]; exact not_false)
    | inventoryUpdate | cartMerge | transactionBatch | analyticsBatch => decide
  constructor
  · rintro ⟨payload, clock, width, known⟩
    exact ⟨type.mp ⟨width, known⟩, h.payload ▸ payload, h.clock ▸ clock⟩
  · rintro ⟨short, payload, clock⟩
    obtain ⟨width, known⟩ := type.mpr short
    exact ⟨h.payload ▸ payload, h.clock ▸ clock, width, known⟩

/-- A well-formed batch is read, each delta to its event. -/
theorem WellFormed.events (wf : WellFormed pkg.uuid b) (env : Env) : ∃ storeID kioskID events,
    pkg.uuid.parse b.storeID = .ok storeID ∧ pkg.uuid.parse b.kioskID = .ok kioskID ∧
      deltasToEvents pkg env b = .ok events ∧
      (∀ e ∈ events, ∃ d ∈ b.deltas.zipIdx, EventOf pkg env storeID kioskID d e) ∧
      ∀ d ∈ b.deltas, ∃ e ∈ events, ∃ i, EventOf pkg env storeID kioskID (d, i) e := by
  obtain ⟨-, storeID, hs⟩ := wf.store
  obtain ⟨-, kioskID, hk⟩ := wf.kiosk
  obtain ⟨events, made⟩ := Statement.mapM_ok (f := deltaToEvent pkg env storeID kioskID)
    (l := b.deltas.zipIdx) fun d hd => by
      obtain ⟨named, id, parsed⟩ := wf.delta d.1 (List.fst_mem_of_mem_zipIdx hd)
      exact ⟨⟨id, storeID, kioskID, _, _, _, _⟩,
        deltaToEvent_eq_ok.mpr ⟨named, parsed, rfl, rfl, rfl, rfl, rfl, rfl⟩⟩
  refine ⟨storeID, kioskID, events, hs, hk, deltasToEvents_eq_ok.mpr ⟨storeID, kioskID, hs, hk, made⟩,
    ?_, ?_⟩
  · intro e he
    obtain ⟨d, hd, of⟩ := (Statement.mem_mapM made e).mp he
    exact ⟨d, hd, (deltaToEvent_eq_ok.mp of).2⟩
  · intro d hd
    obtain ⟨i, hi⟩ : ∃ i, (d, i) ∈ b.deltas.zipIdx := by
      obtain ⟨i, at_i⟩ := List.mem_iff_getElem?.mp hd
      exact ⟨i, List.mk_mem_zipIdx_iff_getElem?.mpr at_i⟩
    obtain ⟨e, of⟩ := Statement.ok_of_mapM made (d, i) hi
    exact ⟨e, (Statement.mem_mapM made e).mpr ⟨(d, i), hi, of⟩, i, (deltaToEvent_eq_ok.mp of).2⟩

/-- What an upload does: nothing, or it stores the batch and then publishes. -/
theorem uploadBatch_cases (schema : Schema) (db : SyncEvents) (env : Env) (auth : String)
    (wf : WellFormed pkg.uuid b) :
    (¬ Accepts pkg schema db auth b ∧ (uploadBatch pkg schema db env auth b).1 = db ∧
      ∃ err, (uploadBatch pkg schema db env auth b).2 = .error err) ∨
    (Accepts pkg schema db auth b ∧
      (∀ d ∈ b.deltas, Stored pkg.uuid (uploadBatch pkg schema db env auth b).1 d) ∧
      (uploadBatch pkg schema db env auth b).2 = match env.publish with
        | some err => .error ⟨.internal, "publish batch ingested: " ++ err⟩
        | none => .ok ⟨b.batchID, b.kioskID⟩) := by
  obtain ⟨storeID, kioskID, events, hs, hk, read, made, whole⟩ := wf.events env
  have own : ∀ e ∈ events, e.storeID = storeID ∧ e.kioskID = kioskID := fun e he => by
    obtain ⟨d, -, of⟩ := made e he
    exact ⟨of.store, of.kiosk⟩
  have given : ¬ (b.kioskID = "" ∨ b.storeID = "" ∨ b.batchID = "") := by
    simp [wf.kiosk.1, wf.store.1, wf.batch.1]
  have fits : (∀ e ∈ events, Fits schema e) ↔ ∀ d ∈ b.deltas, Takes pkg schema d := by
    constructor
    · intro h d hd
      obtain ⟨e, he, i, of⟩ := whole d hd
      exact (fits_iff of (wf.named d hd)).mp (h e he)
    · intro h e he
      obtain ⟨d, hd, of⟩ := made e he
      have hd := List.fst_mem_of_mem_zipIdx hd
      exact (fits_iff of (wf.named d.1 hd)).mpr (h d.1 hd)
  have stored (db : SyncEvents) : (∀ e ∈ events, (db.find? e.syncEventID).isSome) ↔
      ∀ d ∈ b.deltas, Stored pkg.uuid db d := by
    constructor
    · intro h d hd
      obtain ⟨e, he, i, of⟩ := whole d hd
      exact ⟨e.syncEventID, of.id, h e he⟩
    · intro h e he
      obtain ⟨d, hd, of⟩ := made e he
      obtain ⟨id, parsed, there⟩ := h d.1 (List.fst_mem_of_mem_zipIdx hd)
      cases of.id.symm.trans parsed
      exact there
  have accepts : Accepts pkg schema db auth b ↔ (auth = "" ∨ auth = b.kioskID) ∧
      ∃ db', events.foldlM (insertSyncEvent schema) db = .ok db' := by
    rw [foldlM_ok own, fits, stored]
    constructor
    · rintro ⟨caller, takes, refers⟩
      refine ⟨caller, takes, refers.imp_right ?_⟩
      rintro ⟨_, _, hs', hk', there⟩
      cases hs.symm.trans hs'
      cases hk.symm.trans hk'
      exact there
    · rintro ⟨caller, takes, refers⟩
      exact ⟨caller, takes, refers.imp_right fun there => ⟨storeID, kioskID, hs, hk, there⟩⟩
  rw [uploadBatch, if_neg given, accepts, read]
  by_cases caller : auth = "" ∨ auth = b.kioskID
  · have allowed : ¬ (auth ≠ "" ∧ auth ≠ b.kioskID) := by tauto
    rw [if_neg allowed]
    cases insert : events.foldlM (insertSyncEvent schema) db with
    | error err =>
      simp only [insertSyncEvents, insert]
      exact .inl ⟨fun h => (by cases h.2.choose_spec), trivial, _, rfl⟩
    | ok db' =>
      have all := (stored db').mp (stored_of_foldlM insert)
      simp only [insertSyncEvents, insert]
      refine .inr ⟨⟨caller, db', rfl⟩, ?_⟩
      cases env.publish with
      | some err => exact ⟨all, rfl⟩
      | none => exact ⟨all, rfl⟩
  · have denied : auth ≠ "" ∧ auth ≠ b.kioskID := by tauto
    rw [if_pos denied]
    exact .inl ⟨fun h => caller h.1, rfl, _, rfl⟩

/-- A row that an upload adds is of a delta of its batch, with an id that was not stored. -/
structure AddedBy (pkg : Packages) (env : Env) (b : SyncBatch) (db : SyncEvents) (e : SyncEvent) : Prop where
  absent : db.find? e.syncEventID = none
  store : pkg.uuid.parse b.storeID = .ok e.storeID
  kiosk : pkg.uuid.parse b.kioskID = .ok e.kioskID
  delta : ∃ d ∈ b.deltas.zipIdx, EventOf pkg env e.storeID e.kioskID d e

/-- Whatever the batch, rows stay, and those that come are of its deltas. -/
theorem uploadBatch_adds (pkg : Packages) (schema : Schema) (db : SyncEvents) (env : Env) (auth : String) (b : SyncBatch) :
    ∃ new, (uploadBatch pkg schema db env auth b).1.rows = db.rows ++ new ∧ ∀ e ∈ new, AddedBy pkg env b db e := by
  have unchanged : ∃ new, db.rows = db.rows ++ new ∧ ∀ e ∈ new, AddedBy pkg env b db e :=
    ⟨[], (List.append_nil _).symm, fun _ he => absurd he List.not_mem_nil⟩
  unfold uploadBatch
  split
  · exact unchanged
  split
  · exact unchanged
  cases read : deltasToEvents pkg env b with
  | error err => exact unchanged
  | ok events =>
    obtain ⟨storeID, kioskID, hs, hk, made⟩ := deltasToEvents_eq_ok.mp read
    cases insert : events.foldlM (insertSyncEvent schema) db with
    | error err =>
      simp only [insertSyncEvents, insert]
      exact unchanged
    | ok db' =>
      obtain ⟨new, rows, fresh⟩ := foldlM_rows insert
      simp only [insertSyncEvents, insert]
      refine ⟨new, ?_, ?_⟩
      · cases env.publish <;> exact rows
      · intro e he
        obtain ⟨mem, absent⟩ := fresh e he
        obtain ⟨d, hd, of⟩ := (Statement.mem_mapM made e).mp mem
        have of := (deltaToEvent_eq_ok.mp of).2
        obtain rfl := of.store
        obtain rfl := of.kiosk
        exact ⟨absent, hs, hk, d, hd, of⟩

/-- The ids and the times of what an upload adds. -/
theorem uploadBatch_rows (pkg : Packages) (schema : Schema) (db : SyncEvents) (env : Env) (auth : String) (b : SyncBatch) :
    ∃ new, (uploadBatch pkg schema db env auth b).1.rows = db.rows ++ new ∧ ∀ e ∈ new,
      db.find? e.syncEventID = none ∧ pkg.uuid.parse b.storeID = .ok e.storeID ∧
        pkg.uuid.parse b.kioskID = .ok e.kioskID ∧
        ∃ d ∈ b.deltas.zipIdx, pkg.uuid.parse d.1.deltaID = .ok e.syncEventID ∧
          e.createdAt = d.1.time (env.now d.2) := by
  obtain ⟨new, rows, added⟩ := uploadBatch_adds pkg schema db env auth b
  refine ⟨new, rows, fun e he => ?_⟩
  obtain ⟨absent, store, kiosk, d, hd, of⟩ := added e he
  exact ⟨absent, store, kiosk, d, hd, of.id, of.time⟩

/-- What is acknowledged is stored. -/
theorem stored_of_acked {ack : SyncAck} (acked : (uploadBatch pkg schema db env auth b).2 = .ok ack) :
    ∀ d ∈ b.deltas, Stored pkg.uuid (uploadBatch pkg schema db env auth b).1 d := by
  unfold uploadBatch at acked ⊢
  split at acked
  · cases acked
  split at acked
  · cases acked
  rename_i given allowed
  rw [if_neg given, if_neg allowed]
  cases read : deltasToEvents pkg env b with
  | error err =>
    rw [read] at acked
    cases acked
  | ok events =>
    rw [read] at acked
    obtain ⟨storeID, kioskID, hs, hk, made⟩ := deltasToEvents_eq_ok.mp read
    cases insert : events.foldlM (insertSyncEvent schema) db with
    | error err =>
      simp only [insertSyncEvents, insert] at acked
      cases acked
    | ok db' =>
      simp only [insertSyncEvents, insert]
      intro d hd
      obtain ⟨i, at_i⟩ := List.mem_iff_getElem?.mp hd
      have mem : (d, i) ∈ b.deltas.zipIdx := List.mk_mem_zipIdx_iff_getElem?.mpr at_i
      obtain ⟨e, of⟩ := Statement.ok_of_mapM made (d, i) mem
      have stored := stored_of_foldlM insert e ((Statement.mem_mapM made e).mpr ⟨(d, i), mem, of⟩)
      refine ⟨e.syncEventID, (deltaToEvent_eq_ok.mp of).2.id, ?_⟩
      cases env.publish <;> exact stored

/-! ## Retries -/

variable (pkg schema auth b) in
/-- What an attempt leaves of the table. -/
def attempt (db : SyncEvents) (env : Env) : SyncEvents := (uploadBatch pkg schema db env auth b).1

/-- Every attempt is acknowledged, and then each delta is stored once. An attempt that the store refuses
stores nothing. -/
structure Ingested (pkg : Packages) (schema : Schema) (db : SyncEvents) (auth : String) (b : SyncBatch)
    (attempts : List Env) : Prop where
  acked : Runs.EachStep (attempt pkg schema auth b)
    (fun db env => (uploadBatch pkg schema db env auth b).2 = .ok ⟨b.batchID, b.kioskID⟩) db attempts
  once : ∀ d ∈ b.deltas, ∃ id, pkg.uuid.parse d.deltaID = .ok id ∧
    ((Runs.run (attempt pkg schema auth b) db attempts).rows.filter (·.syncEventID = id)).length = 1
  atomic : Runs.EachStep (attempt pkg schema auth b)
    (fun db env => ∀ err, (uploadBatch pkg schema db env auth b).2 =
      .error ⟨.internal, "store sync events: " ++ err⟩ → attempt pkg schema auth b db env = db) db attempts

theorem attempt_atomic (wf : WellFormed pkg.uuid b) (db : SyncEvents) (env : Env) (err : String)
    (refused : (uploadBatch pkg schema db env auth b).2 =
      .error ⟨.internal, "store sync events: " ++ err⟩) : attempt pkg schema auth b db env = db := by
  obtain ⟨-, same, -⟩ | ⟨-, -, reply⟩ := uploadBatch_cases schema db env auth wf
  · exact same
  · rw [refused] at reply
    cases published : env.publish with
    | none =>
      rw [published] at reply
      cases reply
    | some why =>
      rw [published] at reply
      have texts := congrArg (fun s => s.toList.head?) (Status.mk.inj (Except.error.inj reply)).2
      simp at texts

theorem acked_iff (wf : WellFormed pkg.uuid b) (db : SyncEvents) (env : Env) :
    (uploadBatch pkg schema db env auth b).2 = .ok ⟨b.batchID, b.kioskID⟩ ↔
      Accepts pkg schema db auth b ∧ env.publish = none := by
  obtain ⟨refuses, -, err, reply⟩ | ⟨accepts, -, reply⟩ := uploadBatch_cases schema db env auth wf
  · rw [reply]
    exact ⟨fun h => (by cases h), fun h => absurd h.1 refuses⟩
  · rw [reply]
    cases env.publish with
    | none => exact ⟨fun _ => ⟨accepts, rfl⟩, fun _ => rfl⟩
    | some err => exact ⟨fun h => (by cases h), fun h => (by cases h.2)⟩

/-- A batch that is accepted is stored, and accepted again. -/
theorem Accepts.attempt (wf : WellFormed pkg.uuid b) (h : Accepts pkg schema db auth b) (env : Env) :
    Accepts pkg schema (attempt pkg schema auth b db env) auth b ∧
      ∀ d ∈ b.deltas, Stored pkg.uuid (SyncService.attempt pkg schema auth b db env) d := by
  obtain ⟨refuses, -⟩ | ⟨-, stored, -⟩ := uploadBatch_cases schema db env auth wf
  · exact absurd h refuses
  · exact ⟨⟨h.caller, h.takes, .inl stored⟩, stored⟩

theorem Accepts.eachStep (wf : WellFormed pkg.uuid b) (h : Accepts pkg schema db auth b)
    {attempts : List Env} (published : ∀ env ∈ attempts, env.publish = none) :
    Runs.EachStep (SyncService.attempt pkg schema auth b)
      (fun db env => (uploadBatch pkg schema db env auth b).2 = .ok ⟨b.batchID, b.kioskID⟩) db attempts :=
  Runs.eachStep_of_eachStep (J := fun db => Accepts pkg schema db auth b)
    (G := fun _ env => env.publish = none) (fun db env accepts ok => (acked_iff wf db env).mpr ⟨accepts, ok⟩)
    (fun _ env accepts _ => (accepts.attempt wf env).1) h
    (Runs.eachStep_of_forall fun env mem _ => published env mem)

theorem Accepts.stored (wf : WellFormed pkg.uuid b) (h : Accepts pkg schema db auth b)
    {attempts : List Env} (called : attempts ≠ []) : ∀ d ∈ b.deltas,
      Stored pkg.uuid (Runs.run (SyncService.attempt pkg schema auth b) db attempts) d := by
  obtain ⟨before, env, rfl⟩ := (List.eq_nil_or_concat' attempts).resolve_left called
  rw [Runs.run_concat]
  have accepts := Runs.run_inv (I := fun db => Accepts pkg schema db auth b)
    (fun _ env accepts => (accepts.attempt wf env).1) h before
  exact (accepts.attempt wf env).2

end

namespace Till

/-- What is read of a payload of one digit. -/
def pkg : Packages := ⟨.hyphenated, fun payload => if payload = [55] then some (.number "7") else none⟩

def schema : Schema := { stores := [1], kiosks := [2], maxDepth := 100 }

def env : Env := ⟨fun _ => 0, none⟩

def batch (type : SyncEventType) : SyncBatch where
  batchID := UUIDText.hyphenated.string 9
  storeID := UUIDText.hyphenated.string 1
  kioskID := UUIDText.hyphenated.string 2
  deltas := [⟨UUIDText.hyphenated.string 3, type, [55], [("till", 4)], "till", "2026-07-20T12:34:56Z"⟩]

theorem isUUID (u : UUID) : IsUUID pkg.uuid (UUIDText.hyphenated.string u) :=
  ⟨UUIDText.hyphenated_ne_empty u, u, UUIDText.lawful_hyphenated.parse_string u⟩

theorem wellFormed (type : SyncEventType) (named : type.Named) : WellFormed pkg.uuid (batch type) :=
  ⟨isUUID 9, isUUID 1, isUUID 2, by simpa [batch] using isUUID 3, by simpa [batch] using named⟩

end Till

end SyncService
