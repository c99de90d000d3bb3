import Mathlib.Data.List.Dedup
import AstraSystem.SyncService.Server
import AstraSystem.SyncService.Upload

/-!
# Stores beside each other

A request is authenticated for its kiosk, and names a store. The store that the kiosk is registered in is not
compared with it, so the data of a store is its own only among kiosks that name the right one.
-/

namespace SyncService

/-! ## One request -/

/-- The events in a reply. -/
def returned : Except Status Reply → List SyncEvent
  | .ok (.batch _ _ deltas) => deltas
  | .ok (.ack _) | .ok (.heartbeat ..) | .error _ => []

/-- What is stored is of the kiosk and of its store, what is published names both, the heartbeats of other stores stay,
and what is returned is of the store. -/
structure Isolates (uuid : UUIDText) (k : KioskRow) (db db' : Database) (reply : Except Status Reply) : Prop where
  events : ∃ new, db'.events.rows = db.events.rows ++ new ∧
    ∀ e ∈ new, e.storeID = k.storeID ∧ e.kioskID = k.kioskID
  published : ∃ new, db'.published = db.published ++ new ∧
    ∀ n ∈ new, uuid.parse n.storeID = .ok k.storeID ∧ uuid.parse n.kioskID = .ok k.kioskID
  heartbeats : db'.heartbeats.rows.filter (·.storeID ≠ k.storeID) =
    db.heartbeats.rows.filter (·.storeID ≠ k.storeID)
  returned : ∀ e ∈ returned reply, e.storeID = k.storeID

/-- Heartbeats are those of their kiosks' stores. -/
def Registered (kiosks : Kiosks) (db : Database) : Prop :=
  ∀ h ∈ db.heartbeats.rows, ∀ k ∈ kiosks.rows, h.kioskID = k.kioskID → h.storeID = k.storeID

/-- An upload that a database takes: one that holds its deltas, if no other. -/
structure Acceptable (pkg : Packages) (schema : Schema) (b : SyncBatch) : Prop where
  batch : b.batchID ≠ ""
  store : IsUUID pkg.uuid b.storeID
  takes : ∀ d ∈ b.deltas, IsUUID pkg.uuid d.deltaID ∧ d.eventType.Named ∧ Takes pkg schema d

/-- The request names the store, or no database has anything for it to store, publish or return. -/
def Harmless (pkg : Packages) (schema : Schema) (k : KioskRow) : Request → Prop
  | .uploadBatch none => True
  | .uploadBatch (some b) => pkg.uuid.parse b.storeID = .ok k.storeID ∨ ¬ Acceptable pkg schema b
  | .downloadBatch req => pkg.uuid.parse req.storeID = .ok k.storeID ∨ ¬ IsUUID pkg.uuid req.storeID ∨
      ∃ err, req.since = .invalid err
  | .heartbeat req => pkg.uuid.parse req.storeID = .ok k.storeID ∨ ¬ IsUUID pkg.uuid req.storeID ∨
      schema.heartbeats = false

section
variable {pkg : Packages} {schema : Schema} {kiosks : Kiosks} {db : Database} {c : Call} {k : KioskRow}
  {env : ServeEnv} {events : SyncEvents} {kioskID : String}

theorem isolates_refl {reply : Except Status Reply} (none : returned reply = []) : Isolates pkg.uuid k db db reply :=
  ⟨⟨[], (List.append_nil _).symm, fun _ he => absurd he List.not_mem_nil⟩,
    ⟨[], (List.append_nil _).symm, fun _ hn => absurd hn List.not_mem_nil⟩, rfl,
    fun _ he => absurd (none ▸ he) List.not_mem_nil⟩

/-- An upload that stores something or is acknowledged can be accepted. -/
theorem acceptable_of_upload {b : SyncBatch} {env : Env} {auth : String}
    (done : (uploadBatch pkg schema events env auth b).1.rows ≠ events.rows ∨
      (uploadBatch pkg schema events env auth b).2.isOk = true) : Acceptable pkg schema b := by
  have refused (same : ∃ status, uploadBatch pkg schema events env auth b = (events, .error status)) : False := by
    obtain ⟨status, same⟩ := same
    rw [same] at done
    obtain changed | acked := done
    · exact changed rfl
    · cases acked
  by_cases given : b.kioskID = "" ∨ b.storeID = "" ∨ b.batchID = ""
  · exact (refused ⟨_, if_pos given⟩).elim
  by_cases denied : auth ≠ "" ∧ auth ≠ b.kioskID
  · exact (refused ⟨_, (if_neg given).trans (if_pos denied)⟩).elim
  cases read : deltasToEvents pkg env b with
  | error err =>
    refine (refused ⟨err, ?_⟩).elim
    rw [uploadBatch, if_neg given, if_neg denied, read]
  | ok made =>
    obtain ⟨storeID, kioskID, hs, -, each⟩ := deltasToEvents_eq_ok.mp read
    cases insert : made.foldlM (insertSyncEvent schema) events with
    | error err =>
      have failed : ∃ status, uploadBatch pkg schema events env auth b = (events, .error status) := by
        simp only [uploadBatch, if_neg given, if_neg denied, read, insertSyncEvents, insert]
        exact ⟨_, rfl⟩
      exact (refused failed).elim
    | ok db' =>
      have own : ∀ e ∈ made, e.storeID = storeID ∧ e.kioskID = kioskID := fun e he => by
        obtain ⟨d, -, of⟩ := (Statement.mem_mapM each e).mp he
        exact ⟨(deltaToEvent_eq_ok.mp of).2.store, (deltaToEvent_eq_ok.mp of).2.kiosk⟩
      obtain ⟨fits, -⟩ := (foldlM_ok own).mp ⟨db', insert⟩
      refine ⟨fun none => given (.inr (.inr none)), ⟨fun none => given (.inr (.inl none)), storeID, hs⟩,
        fun d hd => ?_⟩
      obtain ⟨i, at_i⟩ := List.mem_iff_getElem?.mp hd
      have mem : (d, i) ∈ b.deltas.zipIdx := List.mk_mem_zipIdx_iff_getElem?.mpr at_i
      obtain ⟨e, of⟩ := Statement.ok_of_mapM each (d, i) mem
      obtain ⟨named, of'⟩ := deltaToEvent_eq_ok.mp of
      have fit := fits e ((Statement.mem_mapM each e).mpr ⟨(d, i), mem, of⟩)
      have known : d.eventType.Named := by
        have type := fit.type
        rw [of'.type] at type
        cases ty : d.eventType with
        | unspecified | unknown =>
          rw [ty] at type
          have type : "unspecified" ∈ eventTypes := type
          exact absurd type (by decide)
        | inventoryUpdate | cartMerge | transactionBatch | analyticsBatch => trivial
      exact ⟨⟨named, _, of'.id⟩, known, (fits_iff of' known).mp fit⟩

theorem mem_notified {b : SyncBatch} {auth : String} {n : BatchIngested}
    (h : n ∈ notified pkg schema events env auth b) :
    n = ⟨b.storeID, b.kioskID, b.deltas.length⟩ ∧ Acceptable pkg schema b := by
  unfold notified at h
  split at h
  · rename_i reached
    exact ⟨List.mem_singleton.mp h, acceptable_of_upload (.inr reached.1)⟩
  · cases h

theorem upload_isolates {b : SyncBatch} (kiosks : Kiosks) (db : Database) (env : ServeEnv) (kioskID : String)
    (own : Harmless pkg schema k (.uploadBatch (some b)))
    (parsed : pkg.uuid.parse b.kioskID = .ok k.kioskID) :
    Isolates pkg.uuid k db (handle pkg schema kiosks db env kioskID (.uploadBatch (some b))).1
      (handle pkg schema kiosks db env kioskID (.uploadBatch (some b))).2 := by
  obtain ⟨new, rows, fresh⟩ := uploadBatch_rows pkg schema db.events env.toEnv kioskID b
  refine ⟨⟨new, rows, fun e he => ?_⟩, ⟨_, rfl, fun n hn => ?_⟩, rfl, fun e he => ?_⟩
  · obtain ⟨-, store, kiosk, -⟩ := fresh e he
    refine ⟨?_, Except.ok.inj (kiosk.symm.trans parsed)⟩
    obtain own | not := own
    · exact Except.ok.inj (store.symm.trans own)
    · have changed : (uploadBatch pkg schema db.events env.toEnv kioskID b).1.rows ≠ db.events.rows := fun same =>
        List.ne_nil_of_mem he (List.append_right_eq_self.mp (rows.symm.trans same))
      exact absurd (acceptable_of_upload (.inl changed)) not
  · obtain ⟨rfl, acceptable⟩ := mem_notified hn
    exact ⟨own.resolve_right (not_not.mpr acceptable), parsed⟩
  · have none : returned (handle pkg schema kiosks db env kioskID (.uploadBatch (some b))).2 = [] := by
      simp only [handle]
      cases (uploadBatch pkg schema db.events env.toEnv kioskID b).2 <;> rfl
    exact absurd (none ▸ he) List.not_mem_nil

/-- What a download gives is of the store that it names. -/
theorem store_of_download {req : DownloadBatchRequest} {deltas : List SyncEvent}
    (h : downloadBatch pkg events req = .ok deltas) : IsUUID pkg.uuid req.storeID ∧
      (∀ err, req.since ≠ .invalid err) ∧ ∀ e ∈ deltas, pkg.uuid.parse req.storeID = .ok e.storeID := by
  have within (storeID kioskID : UUID) (since : Time) {e : SyncEvent}
      (he : e ∈ getDeltasSince events storeID kioskID since req.maxDeltas) : e.storeID = storeID := by
    have mem := (List.mem_insertionSort SyncEvent.le).mp (List.mem_of_mem_take he)
    exact (of_decide_eq_true (List.mem_filter.mp mem).2).1
  unfold downloadBatch at h
  split at h
  · cases h
  rename_i given
  split at h <;> cases h
  · rename_i since store kiosk
    exact ⟨⟨fun none => given (.inl none), _, store⟩, fun err other => (by cases since.symm.trans other),
      fun e he => by rw [within _ _ _ he, store]⟩
  · rename_i since store kiosk
    exact ⟨⟨fun none => given (.inl none), _, store⟩, fun err other => (by cases since.symm.trans other),
      fun e he => by rw [within _ _ _ he, store]⟩

theorem download_isolates {req : DownloadBatchRequest} (own : Harmless pkg schema k (.downloadBatch req)) :
    Isolates pkg.uuid k db (handle pkg schema kiosks db env kioskID (.downloadBatch req)).1
      (handle pkg schema kiosks db env kioskID (.downloadBatch req)).2 := by
  simp only [handle]
  cases read : downloadBatch pkg db.events req with
  | error err => exact isolates_refl rfl
  | ok deltas =>
    obtain ⟨isUUID, valid, store⟩ := store_of_download read
    refine ⟨⟨[], (List.append_nil _).symm, fun _ he => absurd he List.not_mem_nil⟩,
      ⟨[], (List.append_nil _).symm, fun _ hn => absurd hn List.not_mem_nil⟩, rfl, fun e he => ?_⟩
    obtain own | not | ⟨err, invalid⟩ := own
    · exact Except.ok.inj ((store e he).symm.trans own)
    · exact absurd isUUID not
    · exact absurd invalid (valid err)

/-- A heartbeat is recorded for the kiosk and the store that it names, or not at all. -/
theorem heartbeat_cases (pkg : Packages) (schema : Schema) (kiosks : Kiosks) (hb : Heartbeats) (env : ServeEnv)
    (req : HeartbeatRequest) : (heartbeat pkg schema kiosks hb env req).1 = hb ∨
      ∃ row : Heartbeat, schema.heartbeats = true ∧ pkg.uuid.parse req.kioskID = .ok row.kioskID ∧ req.storeID ≠ "" ∧
        pkg.uuid.parse req.storeID = .ok row.storeID ∧
        (heartbeat pkg schema kiosks hb env req).1 = hb.upsert Heartbeat.collapse Heartbeat.key_collapse row := by
  unfold heartbeat
  split
  · exact .inl rfl
  rename_i given
  cases recorded : upsertHeartbeat pkg schema hb env req with
  | error err => exact .inl rfl
  | ok hb' =>
    unfold upsertHeartbeat at recorded
    split at recorded
    · cases recorded
    · cases recorded
    · cases recorded
    · rename_i kiosk store _
      split at recorded
      · cases recorded
      · rename_i table
        cases recorded
        exact .inr ⟨_, not_not.mp table, kiosk, fun none => given (.inr none), store, rfl⟩

theorem heartbeat_silent (pkg : Packages) (schema : Schema) (kiosks : Kiosks) (hb : Heartbeats) (env : ServeEnv)
    (req : HeartbeatRequest) : returned (heartbeat pkg schema kiosks hb env req).2 = [] := by
  unfold heartbeat
  split
  · rfl
  cases upsertHeartbeat pkg schema hb env req with
  | error err => rfl
  | ok hb =>
    dsimp only
    cases getKiosk pkg.uuid kiosks req.kioskID with
    | error err => cases err <;> rfl
    | ok kiosk => rfl

/-- The row is of the kiosk's own store, also where there was one for the second. -/
theorem heartbeat_isolates {req : HeartbeatRequest} (own : Harmless pkg schema k (.heartbeat req))
    (parsed : pkg.uuid.parse req.kioskID = .ok k.kioskID) (stored : k ∈ kiosks.rows)
    (registered : Registered kiosks db) :
    Isolates pkg.uuid k db (handle pkg schema kiosks db env kioskID (.heartbeat req)).1
        (handle pkg schema kiosks db env kioskID (.heartbeat req)).2 ∧
      Registered kiosks (handle pkg schema kiosks db env kioskID (.heartbeat req)).1 := by
  have silent := heartbeat_silent pkg schema kiosks db.heartbeats env req
  have quiet : ∀ e ∈ returned (heartbeat pkg schema kiosks db.heartbeats env req).2, e.storeID = k.storeID :=
    fun e he => absurd (silent ▸ he) List.not_mem_nil
  have events : ∃ new, db.events.rows = db.events.rows ++ new ∧
      ∀ e ∈ new, e.storeID = k.storeID ∧ e.kioskID = k.kioskID :=
    ⟨[], (List.append_nil _).symm, fun _ he => absurd he List.not_mem_nil⟩
  have published : ∃ new, db.published = db.published ++ new ∧
      ∀ n ∈ new, pkg.uuid.parse n.storeID = .ok k.storeID ∧ pkg.uuid.parse n.kioskID = .ok k.kioskID :=
    ⟨[], (List.append_nil _).symm, fun _ hn => absurd hn List.not_mem_nil⟩
  simp only [handle]
  obtain same | ⟨row, table, kiosk, named, store, upserted⟩ :=
    heartbeat_cases pkg schema kiosks db.heartbeats env req
  · exact ⟨⟨events, published, by rw [same], quiet⟩, by rw [same]; exact registered⟩
  have kiosk : row.kioskID = k.kioskID := Except.ok.inj (kiosk.symm.trans parsed)
  have store : row.storeID = k.storeID := by
    obtain same | not | none := own
    · exact Except.ok.inj (store.symm.trans same)
    · exact absurd ⟨named, _, store⟩ not
    · cases table.symm.trans none
  have before : ∀ old ∈ db.heartbeats.rows, old.key = row.key → old.storeID = k.storeID :=
    fun old hold same => registered old hold k stored ((congrArg Prod.fst same).trans kiosk)
  have kept : (db.heartbeats.upsert Heartbeat.collapse Heartbeat.key_collapse row).rows.filter
      (·.storeID ≠ k.storeID) = db.heartbeats.rows.filter (·.storeID ≠ k.storeID) := by
    refine Table.rows_filter_upsert (by simp [store]) fun old hold same => ?_
    simp [Heartbeat.collapse, before old hold same]
  refine ⟨⟨events, published, upserted ▸ kept, quiet⟩, ?_⟩
  · intro h mem k' stored' same
    rw [upserted, Table.mem_upsert] at mem
    obtain ⟨old, -⟩ | ⟨old, hold, key, rfl⟩ | ⟨-, rfl⟩ := mem
    · exact registered h old k' stored' same
    · obtain rfl := kiosks.unique stored stored' (kiosk.symm.trans same)
      exact before old hold key
    · obtain rfl := kiosks.unique stored stored' (kiosk.symm.trans same)
      exact store

/-! ## Requests that name another store -/

/-- Nothing fails. -/
def calm : ServeEnv := { now := fun _ => 0 }

/-- A database that holds events of these ids, of no store or kiosk of interest. -/
def Database.knowing (ids : List UUID) : Database where
  events := ⟨ids.dedup.map fun id => ⟨id, 0, 0, "inventory_update", .null, .null, 0⟩, by
    rw [List.map_map]
    exact (List.map_id _).symm ▸ ids.nodup_dedup⟩

theorem Database.find?_knowing {ids : List UUID} {id : UUID} (mem : id ∈ ids) :
    ((Database.knowing ids).events.find? id).isSome := by
  rw [Table.find?, List.find?_isSome]
  exact ⟨_, List.mem_map_of_mem (List.mem_dedup.mpr mem), decide_eq_true rfl⟩

/-- The ids of the deltas that have one. -/
def SyncBatch.ids (uuid : UUIDText) (b : SyncBatch) : List UUID :=
  b.deltas.filterMap fun d => (uuid.parse d.deltaID).toOption

theorem upload_harmless {b : SyncBatch} (parsed : pkg.uuid.parse b.kioskID = .ok k.kioskID)
    (given : b.kioskID ≠ "")
    (isolates : ∀ db, Registered kiosks db → Isolates pkg.uuid k db
      (handle pkg schema kiosks db calm b.kioskID (.uploadBatch (some b))).1
      (handle pkg schema kiosks db calm b.kioskID (.uploadBatch (some b))).2) :
    Harmless pkg schema k (.uploadBatch (some b)) := by
  refine or_iff_not_imp_right.mpr fun acceptable => ?_
  rw [not_not] at acceptable
  obtain ⟨batch, ⟨named, storeID, store⟩, takes⟩ := acceptable
  let db := Database.knowing (b.ids pkg.uuid)
  -- The id of the batch is not read, so it may as well be that of the store.
  let b' : SyncBatch := { b with batchID := b.storeID }
  have same : (uploadBatch pkg schema db.events calm.toEnv b.kioskID b).2.isOk =
      (uploadBatch pkg schema db.events calm.toEnv b.kioskID b').2.isOk := by
    have made : deltasToEvents pkg calm.toEnv b' = deltasToEvents pkg calm.toEnv b := rfl
    unfold uploadBatch
    rw [made]
    simp only [b', given, named, batch, or_self, ↓reduceIte, ne_eq, not_true_eq_false, and_false]
    cases deltasToEvents pkg calm.toEnv b with
    | error err => rfl
    | ok events =>
      dsimp only
      cases insertSyncEvents schema db.events events with
      | mk db done => cases done <;> rfl
  have wf : WellFormed pkg.uuid b' := ⟨⟨named, storeID, store⟩, ⟨named, storeID, store⟩, ⟨given, _, parsed⟩,
    fun d hd => (takes d hd).1, fun d hd => (takes d hd).2.1⟩
  have stored : ∀ d ∈ b'.deltas, Stored pkg.uuid db.events d := fun d hd => by
    obtain ⟨-, id, parsed⟩ := (takes d hd).1
    exact ⟨id, parsed, Database.find?_knowing (List.mem_filterMap.mpr ⟨d, hd, by rw [parsed]; rfl⟩)⟩
  have accepts : Accepts pkg schema db.events b.kioskID b' := ⟨.inr rfl, fun d hd => (takes d hd).2.2, .inl stored⟩
  obtain ⟨refuses, -⟩ | ⟨-, -, acked⟩ := uploadBatch_cases schema db.events calm.toEnv b.kioskID wf
  · exact absurd accepts refuses
  have acked : (uploadBatch pkg schema db.events calm.toEnv b.kioskID b).2.isOk = true := by
    rw [same, acked]
    rfl
  have told : notified pkg schema db.events calm b.kioskID b = [⟨b.storeID, b.kioskID, b.deltas.length⟩] :=
    if_pos ⟨acked, .inl rfl⟩
  obtain ⟨new, published, own⟩ := (isolates db fun _ hh => absurd hh List.not_mem_nil).published
  have published : db.published ++ notified pkg schema db.events calm b.kioskID b = db.published ++ new := published
  have mem : ⟨b.storeID, b.kioskID, b.deltas.length⟩ ∈ new := by
    rw [← List.append_cancel_left published, told]
    exact List.mem_singleton_self _
  exact (own _ mem).1

/-- An event of another kiosk that is just newer than `since`. -/
def foreign (storeID kioskID : UUID) (since : Time) : SyncEvent :=
  ⟨0, storeID, if kioskID = 0 then 1 else 0, "inventory_update", .null, .null, since + 1⟩

/-- A database with nothing but an event. -/
def Database.of (e : SyncEvent) : Database := { events := ⟨[e], List.nodup_singleton _⟩ }

theorem foreign_kioskID (storeID kioskID : UUID) (since : Time) :
    (foreign storeID kioskID since).kioskID ≠ kioskID := by
  show (if kioskID = 0 then 1 else 0) ≠ kioskID
  split
  · rename_i zero
    rw [zero]
    decide
  · rename_i other
    exact Ne.symm other

theorem getDeltasSince_foreign (storeID kioskID : UUID) (since : Time) (maxDeltas : Int32) :
    getDeltasSince (Database.of (foreign storeID kioskID since)).events storeID kioskID since maxDeltas =
      [foreign storeID kioskID since] := by
  have kept : candidates (Database.of (foreign storeID kioskID since)).events storeID kioskID since =
      [foreign storeID kioskID since] := by
    have holds : decide ((foreign storeID kioskID since).storeID = storeID ∧
        (foreign storeID kioskID since).kioskID ≠ kioskID ∧
          since < (foreign storeID kioskID since).createdAt) = true :=
      decide_eq_true ⟨rfl, foreign_kioskID _ _ _, Int.lt_succ since⟩
    rw [candidates, Database.of]
    simp only [List.filter_cons, holds, ↓reduceIte, List.filter_nil]
    rfl
  rw [getDeltasSince, kept]
  exact List.take_of_length_le (Nat.succ_le_of_lt (limitOf_pos maxDeltas))

theorem getLastCheckpoint_foreign (storeID kioskID : UUID) (since : Time) :
    getLastCheckpoint (Database.of (foreign storeID kioskID since)).events storeID kioskID = zeroTime := by
  have other := foreign_kioskID storeID kioskID since
  simp [getLastCheckpoint, Database.of, other, newest]

theorem registered_of (e : SyncEvent) : Registered kiosks (Database.of e) :=
  fun _ hh => absurd hh List.not_mem_nil

theorem download_harmless {req : DownloadBatchRequest} (parsed : pkg.uuid.parse req.kioskID = .ok k.kioskID)
    (given : req.kioskID ≠ "")
    (isolates : ∀ db, Registered kiosks db → Isolates pkg.uuid k db
      (handle pkg schema kiosks db calm kioskID (.downloadBatch req)).1
      (handle pkg schema kiosks db calm kioskID (.downloadBatch req)).2) :
    Harmless pkg schema k (.downloadBatch req) := by
  by_contra harmful
  simp only [Harmless, not_or, not_not, not_exists] at harmful
  obtain ⟨other, ⟨named, storeID, store⟩, valid⟩ := harmful
  have both : ¬ (req.storeID = "" ∨ req.kioskID = "") := not_or.mpr ⟨named, given⟩
  -- In a database with an event of the named store the download gives it.
  have gives (since : Time) (read : downloadBatch pkg (Database.of (foreign storeID k.kioskID since)).events req =
      .ok [foreign storeID k.kioskID since]) : False := by
    have own := (isolates _ (registered_of (foreign storeID k.kioskID since))).returned
    simp only [handle, read] at own
    have same : storeID = k.storeID := own _ List.mem_cons_self
    exact other (same ▸ store)
  cases since : req.since with
  | invalid err => exact valid err since
  | time t =>
    refine gives t ?_
    simp only [downloadBatch, both, ↓reduceIte, since, store, parsed]
    rw [getDeltasSince_foreign]
  | empty =>
    refine gives zeroTime ?_
    simp only [downloadBatch, both, ↓reduceIte, since, store, parsed]
    rw [getLastCheckpoint_foreign, getDeltasSince_foreign]

theorem heartbeat_harmless {req : HeartbeatRequest} (parsed : pkg.uuid.parse req.kioskID = .ok k.kioskID)
    (given : req.kioskID ≠ "")
    (isolates : Isolates pkg.uuid k {} (handle pkg schema kiosks {} calm kioskID (.heartbeat req)).1
      (handle pkg schema kiosks {} calm kioskID (.heartbeat req)).2) :
    Harmless pkg schema k (.heartbeat req) := by
  by_contra harmful
  simp only [Harmless, not_or, not_not, Bool.not_eq_false] at harmful
  obtain ⟨other, ⟨named, storeID, store⟩, table⟩ := harmful
  have both : ¬ (req.kioskID = "" ∨ req.storeID = "") := not_or.mpr ⟨given, named⟩
  have kept := isolates.heartbeats
  simp only [handle, heartbeat, both, ↓reduceIte, upsertHeartbeat, parsed, store, calm, table,
    not_true_eq_false] at kept
  have other : storeID ≠ k.storeID := fun same => other (same ▸ store)
  simp [Table.upsert, Table.empty, other] at kept

/-- One request keeps to the store of its kiosk, whatever the database holds, exactly if it is harmless. -/
theorem isolates_iff (schema : Schema) (calls : c.By pkg kiosks k) :
    (∀ db env, Registered kiosks db →
      Isolates pkg.uuid k db (serve pkg schema kiosks db { c with env }).1 (serve pkg schema kiosks db { c with env }).2) ↔
      Harmless pkg schema k c.req := by
  obtain ⟨given, parsed⟩ := calls.parsed
  have served (db : Database) (env : ServeEnv) : serve pkg schema kiosks db { c with env } =
      handle pkg schema kiosks db env c.req.restKioskID c.req :=
    Call.By.serve (c := { c with env }) calls schema db
  simp only [served]
  constructor
  · intro isolates
    have first := isolates {} calm fun _ hh => absurd hh List.not_mem_nil
    cases req : c.req with
    | uploadBatch batch =>
      rw [req] at given parsed first
      cases batch with
      | none => trivial
      | some b =>
        rw [req] at isolates
        exact upload_harmless parsed given fun db => isolates db calm
    | downloadBatch r =>
      rw [req] at given parsed isolates
      exact download_harmless parsed given fun db => isolates db calm
    | heartbeat r =>
      rw [req] at given parsed first
      exact heartbeat_harmless parsed given first
  · intro harmless db env registered
    cases req : c.req with
    | uploadBatch batch =>
      rw [req] at parsed harmless
      cases batch with
      | none => exact isolates_refl rfl
      | some b => exact upload_isolates kiosks db env _ harmless parsed
    | downloadBatch r => exact download_isolates (req ▸ harmless)
    | heartbeat r =>
      rw [req] at parsed harmless
      exact (heartbeat_isolates harmless parsed calls.stored registered).1

/-! ## Runs -/

def served (pkg : Packages) (schema : Schema) (kiosks : Kiosks) (db : Database) (c : Call) : Database :=
  (serve pkg schema kiosks db c).1

/-- The call comes from a kiosk of the store. -/
def Call.ofStore (pkg : Packages) (kiosks : Kiosks) (storeID : UUID) (c : Call) : Bool :=
  match c.kioskID pkg kiosks with
  | .error _ => false
  | .ok id => match getKiosk pkg.uuid kiosks id with
    | .error _ => false
    | .ok k => k.storeID = storeID

/-- What the kiosks of a store get to see of a run. -/
def repliesTo (pkg : Packages) (schema : Schema) (kiosks : Kiosks) (storeID : UUID) :
    Database → List Call → List (Except Status Reply)
  | _, [] => []
  | db, c :: calls =>
    let rest := repliesTo pkg schema kiosks storeID (served pkg schema kiosks db c) calls
    if c.ofStore pkg kiosks storeID then (serve pkg schema kiosks db c).2 :: rest else rest

/-- No delta has the id of an event of another store. -/
def Clear (uuid : UUIDText) (storeID : UUID) (events : SyncEvents) : Request → Prop
  | .uploadBatch (some b) => ∀ d ∈ b.deltas, ∀ e ∈ events.rows,
      uuid.parse d.deltaID = .ok e.syncEventID → e.storeID = storeID
  | .uploadBatch none | .downloadBatch _ | .heartbeat _ => True

/-- The request of a kiosk is harmless, and clear of other stores. -/
def Within (pkg : Packages) (schema : Schema) (kiosks : Kiosks) (db : Database) (c : Call) : Prop :=
  ∀ k, c.By pkg kiosks k → Harmless pkg schema k c.req ∧ Clear pkg.uuid k.storeID db.events c.req

/-- `own` has the events of a store, and no others. -/
def Purged (storeID : UUID) (events own : SyncEvents) : Prop :=
  own.rows = events.rows.filter (·.storeID = storeID)

theorem ofStore_iff {storeID : UUID} :
    c.ofStore pkg kiosks storeID ↔ ∃ k, c.By pkg kiosks k ∧ k.storeID = storeID := by
  unfold Call.ofStore Call.By
  cases c.kioskID pkg kiosks with
  | error status => simp
  | ok id => cases found : getKiosk pkg.uuid kiosks id <;> simp [found]

/-- The events of a store are those that it would have alone, if the ids are clear of others. -/
theorem find?_purged {storeID id : UUID} {own : SyncEvents} (purged : Purged storeID events own)
    (clear : ∀ e ∈ events.rows, id = e.syncEventID → e.storeID = storeID) :
    (events.find? id).isSome = (own.find? id).isSome := by
  rw [Bool.eq_iff_iff, Option.isSome_iff_exists, Option.isSome_iff_exists]
  refine exists_congr fun e => ?_
  rw [Table.find?_eq_some, Table.find?_eq_some, purged, List.mem_filter]
  constructor
  · rintro ⟨mem, rfl⟩
    exact ⟨⟨mem, decide_eq_true (clear e mem rfl)⟩, rfl⟩
  · rintro ⟨⟨mem, -⟩, rfl⟩
    exact ⟨mem, rfl⟩

/-- Two databases that agree on which events are stored take a transaction alike. -/
theorem foldlM_alike (schema : Schema) {db db' : SyncEvents} {new : List SyncEvent}
    (agree : ∀ e ∈ new, (db.find? e.syncEventID).isSome = (db'.find? e.syncEventID).isSome) :
    (∃ err, new.foldlM (insertSyncEvent schema) db = .error err ∧
      new.foldlM (insertSyncEvent schema) db' = .error err) ∨
    ∃ d d' added, new.foldlM (insertSyncEvent schema) db = .ok d ∧
      new.foldlM (insertSyncEvent schema) db' = .ok d' ∧
        d.rows = db.rows ++ added ∧ d'.rows = db'.rows ++ added := by
  induction new generalizing db db' with
  | nil => exact .inr ⟨db, db', [], rfl, rfl, (List.append_nil _).symm, (List.append_nil _).symm⟩
  | cons e new ih =>
    rw [List.forall_mem_cons] at agree
    obtain ⟨here, later⟩ := agree
    rw [List.foldlM_cons, List.foldlM_cons]
    have first : (∃ err, insertSyncEvent schema db e = .error err ∧ insertSyncEvent schema db' e = .error err) ∨
        ∃ d d' added, insertSyncEvent schema db e = .ok d ∧ insertSyncEvent schema db' e = .ok d' ∧
          d.rows = db.rows ++ added ∧ d'.rows = db'.rows ++ added := by
      unfold insertSyncEvent
      rw [← here]
      by_cases json : ¬ (schema.jsonb e.payloadJSON ∧ schema.jsonb e.vectorClock)
      · exact .inl ⟨_, if_pos json, if_pos json⟩
      by_cases wide : eventTypeWidth < e.eventType.length
      · exact .inl ⟨_, (if_neg json).trans (if_pos wide), (if_neg json).trans (if_pos wide)⟩
      by_cases unknown : e.eventType ∉ eventTypes
      · simp only [if_neg json, if_neg wide, if_pos unknown]
        exact .inl ⟨_, rfl, rfl⟩
      simp only [if_neg json, if_neg wide, if_neg unknown]
      by_cases stored : (db.find? e.syncEventID).isSome
      · simp only [if_pos stored]
        exact .inr ⟨db, db', [], rfl, rfl, (List.append_nil _).symm, (List.append_nil _).symm⟩
      by_cases refers : e.storeID ∉ schema.stores ∨ e.kioskID ∉ schema.kiosks
      · simp only [if_neg stored, if_pos refers]
        exact .inl ⟨_, rfl, rfl⟩
      · simp only [if_neg stored, if_neg refers]
        exact .inr ⟨_, _, [e], rfl, rfl,
          Table.rows_upsert_of_none (Option.not_isSome_iff_eq_none.mp stored),
          Table.rows_upsert_of_none (Option.not_isSome_iff_eq_none.mp (here ▸ stored))⟩
    obtain ⟨err, fails, fails'⟩ | ⟨d, d', added, done, done', rows, rows'⟩ := first
    · exact .inl ⟨err, by rw [fails]; rfl, by rw [fails']; rfl⟩
    · rw [done, done']
      have agree : ∀ f ∈ new, (d.find? f.syncEventID).isSome = (d'.find? f.syncEventID).isSome := fun f hf => by
        have := later f hf
        simp only [Table.find?, rows, rows', List.find?_append, Option.isSome_or] at this ⊢
        rw [this]
      obtain ⟨err, fails, fails'⟩ | ⟨last, last', more, done, done', rows₁, rows₂⟩ := ih agree
      · exact .inl ⟨err, fails, fails'⟩
      · exact .inr ⟨last, last', added ++ more, done, done', by rw [rows₁, rows, List.append_assoc],
          by rw [rows₂, rows', List.append_assoc]⟩

theorem uploadBatch_alike {own : SyncEvents} {storeID : UUID} {b : SyncBatch} (schema : Schema) (env : Env)
    (auth : String) (purged : Purged storeID events own) (clear : Clear pkg.uuid storeID events (.uploadBatch (some b))) :
    (uploadBatch pkg schema events env auth b).2 = (uploadBatch pkg schema own env auth b).2 ∧
      ∃ added, (uploadBatch pkg schema events env auth b).1.rows = events.rows ++ added ∧
        (uploadBatch pkg schema own env auth b).1.rows = own.rows ++ added := by
  have same : ∃ added, events.rows = events.rows ++ added ∧ own.rows = own.rows ++ added :=
    ⟨[], (List.append_nil _).symm, (List.append_nil _).symm⟩
  unfold uploadBatch
  split
  · exact ⟨rfl, same⟩
  split
  · exact ⟨rfl, same⟩
  cases read : deltasToEvents pkg env b with
  | error err => exact ⟨rfl, same⟩
  | ok made =>
    obtain ⟨_, _, -, -, each⟩ := deltasToEvents_eq_ok.mp read
    have agree : ∀ e ∈ made, (events.find? e.syncEventID).isSome = (own.find? e.syncEventID).isSome :=
      fun e he => by
        obtain ⟨d, hd, of⟩ := (Statement.mem_mapM each e).mp he
        refine find?_purged purged fun f hf id => ?_
        exact clear d.1 (List.fst_mem_of_mem_zipIdx hd) f hf (id ▸ (deltaToEvent_eq_ok.mp of).2.id)
    obtain ⟨err, fails, fails'⟩ | ⟨d, d', added, done, done', rows, rows'⟩ := foldlM_alike schema agree
    · simp only [insertSyncEvents, fails, fails']
      exact ⟨trivial, same⟩
    · simp only [insertSyncEvents, done, done']
      cases env.publish <;> exact ⟨rfl, added, rows, rows'⟩

theorem downloadBatch_alike {own : SyncEvents} {req : DownloadBatchRequest}
    (purged : Purged k.storeID events own) (harmless : Harmless pkg schema k (.downloadBatch req)) :
    downloadBatch pkg events req = downloadBatch pkg own req := by
  have kept (kioskID : UUID) (since : Time) :
      getDeltasSince events k.storeID kioskID since req.maxDeltas =
        getDeltasSince own k.storeID kioskID since req.maxDeltas := by
    have same : events.rows.filter (fun e => e.storeID = k.storeID ∧ e.kioskID ≠ kioskID ∧ since < e.createdAt) =
        own.rows.filter fun e => e.storeID = k.storeID ∧ e.kioskID ≠ kioskID ∧ since < e.createdAt := by
      rw [show own.rows = _ from purged, List.filter_filter]
      exact List.filter_congr fun e _ => by by_cases store : e.storeID = k.storeID <;> simp [store]
    simp only [getDeltasSince, candidates, same]
  have newest (kioskID : UUID) :
      getLastCheckpoint events k.storeID kioskID = getLastCheckpoint own k.storeID kioskID := by
    have same : events.rows.filter (fun e => e.storeID = k.storeID ∧ e.kioskID = kioskID) =
        own.rows.filter fun e => e.storeID = k.storeID ∧ e.kioskID = kioskID := by
      rw [show own.rows = _ from purged, List.filter_filter]
      exact List.filter_congr fun e _ => by by_cases store : e.storeID = k.storeID <;> simp [store]
    simp only [getLastCheckpoint, same]
  unfold downloadBatch
  split
  · rfl
  rename_i given
  obtain store | none | ⟨err, invalid⟩ := harmless
  · rw [store]
    cases req.since <;> cases pkg.uuid.parse req.kioskID <;> simp [kept, newest]
  · have refused : ∃ err, pkg.uuid.parse req.storeID = .error err := by
      cases parsed : pkg.uuid.parse req.storeID with
      | error err => exact ⟨err, rfl⟩
      | ok storeID => exact absurd ⟨fun none => given (.inl none), storeID, parsed⟩ none
    obtain ⟨err, refused⟩ := refused
    rw [refused]
    cases req.since <;> rfl
  · rw [invalid]

theorem registered_serve (registered : Registered kiosks db)
    (harmless : ∀ k, c.By pkg kiosks k → Harmless pkg schema k c.req) :
    Registered kiosks (served pkg schema kiosks db c) := by
  obtain ⟨status, refused⟩ | ⟨k, calls⟩ := Call.by_cases pkg kiosks c
  · rw [served, serve_refused refused]
    exact registered
  have harmless := harmless k calls
  have parsed := calls.parsed.2
  rw [served, calls.serve]
  cases req : c.req with
  | uploadBatch batch =>
    cases batch with
    | none => exact registered
    | some b => exact registered
  | downloadBatch r => exact registered
  | heartbeat r =>
    rw [req] at harmless parsed
    exact (heartbeat_isolates harmless parsed calls.stored registered).2

theorem heartbeat_alike (pkg : Packages) (schema : Schema) (kiosks : Kiosks) (hb hb' : Heartbeats) (env : ServeEnv)
    (req : HeartbeatRequest) :
    (heartbeat pkg schema kiosks hb env req).2 = (heartbeat pkg schema kiosks hb' env req).2 := by
  unfold heartbeat upsertHeartbeat
  split
  · rfl
  · cases pkg.uuid.parse req.kioskID with
    | error err => rfl
    | ok kioskID =>
      cases pkg.uuid.parse req.storeID with
      | error err => rfl
      | ok storeID =>
        cases env.statement with
        | some err => rfl
        | none => cases schema.heartbeats <;> rfl

/-- A call from the store sees and does the same without the events of others. -/
theorem serve_own {own : Database} {storeID : UUID} (purged : Purged storeID db.events own.events)
    (within : Within pkg schema kiosks db c) (mine : c.ofStore pkg kiosks storeID) :
    (serve pkg schema kiosks db c).2 = (serve pkg schema kiosks own c).2 ∧
      Purged storeID (served pkg schema kiosks db c).events (served pkg schema kiosks own c).events := by
  obtain ⟨k, calls, rfl⟩ := ofStore_iff.mp mine
  obtain ⟨harmless, clear⟩ := within k calls
  have parsed := calls.parsed.2
  rw [served, served, calls.serve, calls.serve]
  cases req : c.req with
  | uploadBatch batch =>
    rw [req] at harmless clear parsed
    cases batch with
    | none => exact ⟨rfl, purged⟩
    | some b =>
      obtain ⟨reply, added, rows, rows'⟩ := uploadBatch_alike schema c.env.toEnv b.kioskID purged clear
      obtain ⟨new, rows₁, fresh⟩ := (upload_isolates kiosks db c.env b.kioskID harmless parsed).events
      obtain rfl : new = added := List.append_cancel_left (rows₁.symm.trans rows)
      have kept : new.filter (·.storeID = k.storeID) = new :=
        List.filter_eq_self.mpr fun e he => decide_eq_true (fresh e he).1
      refine ⟨congrArg (Except.map Reply.ack) reply, ?_⟩
      show (uploadBatch pkg schema own.events c.env.toEnv b.kioskID b).1.rows =
        (uploadBatch pkg schema db.events c.env.toEnv b.kioskID b).1.rows.filter _
      rw [rows, rows', List.filter_append, kept, purged]
  | downloadBatch r =>
    rw [req] at harmless
    exact ⟨congrArg (Except.map _) (downloadBatch_alike purged harmless), purged⟩
  | heartbeat r => exact ⟨heartbeat_alike .., purged⟩

/-- A call from another store is not noticed. -/
theorem serve_other {own : SyncEvents} {storeID : UUID} (purged : Purged storeID db.events own)
    (within : Within pkg schema kiosks db c) (other : ¬ c.ofStore pkg kiosks storeID) :
    Purged storeID (served pkg schema kiosks db c).events own := by
  obtain ⟨status, refused⟩ | ⟨k, calls⟩ := Call.by_cases pkg kiosks c
  · rw [served, serve_refused refused]
    exact purged
  have apart : k.storeID ≠ storeID := fun same => other (ofStore_iff.mpr ⟨k, calls, same⟩)
  have harmless := (within k calls).1
  have parsed := calls.parsed.2
  rw [served, calls.serve]
  cases req : c.req with
  | uploadBatch batch =>
    rw [req] at harmless parsed
    cases batch with
    | none => exact purged
    | some b =>
      obtain ⟨new, rows, fresh⟩ := (upload_isolates kiosks db c.env b.kioskID harmless parsed).events
      have none : new.filter (·.storeID = storeID) = [] :=
        List.filter_eq_nil_iff.mpr fun e he => by simp [(fresh e he).1, apart]
      show own.rows = List.filter _ (handle pkg schema kiosks db c.env b.kioskID (.uploadBatch (some b))).1.events.rows
      rw [rows, List.filter_append, none, List.append_nil, purged]
  | downloadBatch r | heartbeat r => exact purged

/-- A store gets the replies that it would get alone. -/
theorem repliesTo_purged {own : Database} {storeID : UUID} {calls : List Call}
    (purged : Purged storeID db.events own.events)
    (within : Runs.EachStep (served pkg schema kiosks) (Within pkg schema kiosks) db calls) :
    repliesTo pkg schema kiosks storeID db calls =
      repliesTo pkg schema kiosks storeID own (calls.filter (·.ofStore pkg kiosks storeID)) := by
  induction calls generalizing db own with
  | nil => rfl
  | cons c calls ih =>
    obtain ⟨first, rest⟩ := within
    by_cases mine : c.ofStore pkg kiosks storeID
    · obtain ⟨reply, purged⟩ := serve_own purged first mine
      rw [List.filter_cons_of_pos mine]
      simp only [repliesTo, mine, ↓reduceIte, reply, ih purged rest]
    · rw [List.filter_cons_of_neg mine]
      simp only [repliesTo, mine, ↓reduceIte, Bool.false_eq_true]
      exact ih (serve_other purged first mine) rest

end

/-- **Stores are isolated exactly as far as kiosks name their own.** A request of a kiosk stores, publishes, returns and
changes only data of the kiosk's store, whatever the database holds, exactly if it names this store or has no
effect at all. Runs from a database in which this holds keep it. And where moreover no upload has an id of
another store's events, a store gets the same replies in two runs that differ only in the calls of others and
in the others' events. -/
theorem isolated (pkg : Packages) (schema : Schema) (kiosks : Kiosks) :
    (∀ (c : Call) k, c.By pkg kiosks k →
      ((∀ db env, Registered kiosks db → Isolates pkg.uuid k db (serve pkg schema kiosks db { c with env }).1
        (serve pkg schema kiosks db { c with env }).2) ↔ Harmless pkg schema k c.req)) ∧
    (∀ db calls, Registered kiosks db →
      Runs.EachStep (served pkg schema kiosks)
        (fun _ (c : Call) => ∀ k, c.By pkg kiosks k → Harmless pkg schema k c.req) db calls →
      Runs.EachStep (served pkg schema kiosks) (fun db (c : Call) => ∀ k, c.By pkg kiosks k →
        Isolates pkg.uuid k db (serve pkg schema kiosks db c).1 (serve pkg schema kiosks db c).2) db calls) ∧
    ∀ storeID db db' calls calls',
      db.events.rows.filter (·.storeID = storeID) = db'.events.rows.filter (·.storeID = storeID) →
      calls.filter (Call.ofStore pkg kiosks storeID) = calls'.filter (Call.ofStore pkg kiosks storeID) →
      Runs.EachStep (served pkg schema kiosks) (Within pkg schema kiosks) db calls →
      Runs.EachStep (served pkg schema kiosks) (Within pkg schema kiosks) db' calls' →
      repliesTo pkg schema kiosks storeID db calls = repliesTo pkg schema kiosks storeID db' calls' := by
  refine ⟨fun c k calls => isolates_iff schema calls, fun db calls registered harmless => ?_, ?_⟩
  · refine Runs.eachStep_of_eachStep (J := Registered kiosks) ?_ ?_ registered harmless
    · intro db c registered harmless k by_k
      exact (isolates_iff schema by_k).mpr (harmless k by_k) db c.env registered
    · intro db c registered harmless
      exact registered_serve registered harmless
  · intro storeID db db' calls calls' events same within within'
    let own : Database := { events := ⟨db.events.rows.filter (·.storeID = storeID),
      db.events.nodup.sublist (List.filter_sublist.map _)⟩ }
    have alone : repliesTo pkg schema kiosks storeID db calls = repliesTo pkg schema kiosks storeID own _ :=
      repliesTo_purged rfl within
    have alone' : repliesTo pkg schema kiosks storeID db' calls' = repliesTo pkg schema kiosks storeID own _ :=
      repliesTo_purged events within'
    rw [alone, alone', same]

namespace Till

/-- What another store has uploaded. -/
def elsewhere : SyncEvent := ⟨7, 3, 4, "inventory_update", .null, .null, 5⟩

/-- A download of that store, by the leader of the first one. -/
def spying : Call :=
  ⟨.rest, ["Bearer a665"], .downloadBatch ⟨UUIDText.hyphenated.string 3, UUIDText.hyphenated.string 2, .time 0, 10⟩, calm⟩

def packages : Packages := ⟨.hyphenated, fun _ => none⟩

theorem spying_by : spying.By packages kiosks leader := by
  have parsed := UUIDText.lawful_hyphenated.parse_string 2
  have admits : Admits .hyphenated kiosks ["Bearer a665"] (UUIDText.hyphenated.string 2) leader :=
    ⟨UUIDText.hyphenated_ne_empty 2, parsed, List.mem_singleton_self _, rfl, rfl,
      ⟨"Bearer".toList, [], by decide, by decide, by decide⟩, by decide⟩
  have named : authenticate .hyphenated kiosks ["Bearer a665"] (UUIDText.hyphenated.string 2) =
      .ok (UUIDText.hyphenated.string 2) := authenticate_eq_ok.mpr ⟨rfl, leader, admits⟩
  exact ⟨_, named, getKiosk_eq_ok.mpr ⟨parsed, List.mem_singleton_self _, rfl⟩⟩

/-- Nothing to refer to. -/
def bare : Schema := { stores := [], kiosks := [], maxDepth := 0 }

/-- The leader of a store is given what another store has uploaded. -/
theorem store_not_isolated : spying.By packages kiosks leader ∧
    (serve packages bare kiosks (Database.of elsewhere) spying).2 =
      .ok (.batch (UUIDText.hyphenated.string 3) (UUIDText.hyphenated.string 2) [elsewhere]) ∧
    ¬ Isolates .hyphenated leader (Database.of elsewhere) (serve packages bare kiosks (Database.of elsewhere) spying).1
      (serve packages bare kiosks (Database.of elsewhere) spying).2 := by
  have reply : (serve packages bare kiosks (Database.of elsewhere) spying).2 =
      .ok (.batch (UUIDText.hyphenated.string 3) (UUIDText.hyphenated.string 2) [elsewhere]) := by
    have both : ¬ (UUIDText.hyphenated.string 3 = "" ∨ UUIDText.hyphenated.string 2 = "") :=
      not_or.mpr ⟨UUIDText.hyphenated_ne_empty 3, UUIDText.hyphenated_ne_empty 2⟩
    rw [spying_by.serve]
    simp only [spying, handle, downloadBatch, both, ↓reduceIte, packages,
      UUIDText.lawful_hyphenated.parse_string]
    rfl
  refine ⟨spying_by, reply, fun isolates => ?_⟩
  have own := isolates.returned
  rw [reply] at own
  exact absurd (own elsewhere List.mem_cons_self) (by decide)

end Till

end SyncService
