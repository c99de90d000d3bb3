import AstraSystem.Lib.Assoc
import AstraSystem.Lib.ExchangeSort
import AstraSystem.Lib.Separated
import AstraSystem.Lib.UUIDOrder
import AstraSystem.SyncService.Download

/-!
# The store of the tests (`repository/fake/fake.go`)

Maps take the place of the tables, a checkpoint is kept instead of looked for, and downloads are sorted by
exchange. Events are kept as they come, with times in nanoseconds, of which a table keeps whole microseconds. The tests
speak for the service as far as this store and the database answer alike.
-/

namespace SyncService

/-- The row that is made of an event. -/
def SyncEvent.row (e : SyncEvent) : SyncEvent := { e with createdAt := e.createdAt / 1000 }

/-- The event that a row is read as. -/
def SyncEvent.read (row : SyncEvent) : SyncEvent := { row with createdAt := row.createdAt * 1000 }

/-- Times are in nanoseconds. -/
structure FakeStore where
  events : Assoc.Map UUID SyncEvent := ∅
  checkpoints : Assoc.Map String Time := ∅

namespace FakeStore

variable (uuid : UUIDText) (s : FakeStore)

/-- `s.checkpoints[key]`. -/
def checkpoint (key : String) : Time := (s.checkpoints.lookup key).getD (zeroTime * 1000)

def insertSyncEvent (e : SyncEvent) : FakeStore :=
  if (s.events.lookup e.syncEventID).isSome then s
  else
    let key := uuid.string e.storeID ++ "/" ++ uuid.string e.kioskID
    { events := s.events.insert e.syncEventID e
      checkpoints :=
        if s.checkpoint key < e.createdAt then s.checkpoints.insert key e.createdAt else s.checkpoints }

def insertSyncEvents (events : List SyncEvent) : FakeStore := events.foldl (insertSyncEvent uuid) s

def less (e f : SyncEvent) : Bool :=
  if e.createdAt = f.createdAt then Text.less (uuid.string e.syncEventID).toList (uuid.string f.syncEventID).toList
  else e.createdAt < f.createdAt

/-- The map is walked in any order. -/
def getDeltasSince (walk : Assoc.Walk UUID SyncEvent) (storeID kioskID : String) (since : Time) (limit : Int32) :
    Except String (List SyncEvent) := do
  let sid ← uuid.parse storeID
  let kid ← uuid.parse kioskID
  let out := (walk.values s.events).filter fun e => e.storeID = sid ∧ e.kioskID ≠ kid ∧ since < e.createdAt
  let out := ExchangeSort.sort (less uuid) out
  pure (if 0 < limit ∧ limit.toInt < out.length then out.take limit.toInt.toNat else out)

def getLastCheckpoint (storeID kioskID : String) : Time := s.checkpoint (storeID ++ "/" ++ kioskID)

end FakeStore

/-- The store of the tests beside the database, given the same batches. -/
structure Stores where
  fake : FakeStore
  db : SyncEvents

namespace Stores

def start : Stores := ⟨{}, .empty⟩

/-- A batch that the schema refuses leaves the database alone; the other store takes it. -/
def insert (uuid : UUIDText) (schema : Schema) (s : Stores) (batch : List SyncEvent) : Stores where
  fake := s.fake.insertSyncEvents uuid batch
  db := (insertSyncEvents schema s.db (batch.map SyncEvent.row)).1

/-- Both hold the same events. -/
def Agree (s : Stores) : Prop := ∀ id, s.fake.events.lookup id = (s.db.find? id).map SyncEvent.read

/-- The first event of an id. -/
def first (batch : List SyncEvent) (id : UUID) : Option SyncEvent := batch.find? fun e => e.syncEventID = id

/-- What is new is new by whole microseconds. -/
def Whole (s : Stores) (batch : List SyncEvent) : Prop :=
  ∀ id e, s.db.find? id = none → first batch id = some e → 1000 ∣ e.createdAt

/-- The database takes the batch, with the times that it has, or the batch has nothing new. -/
structure Harmless (schema : Schema) (s : Stores) (batch : List SyncEvent) : Prop where
  taken : (insertSyncEvents schema s.db (batch.map SyncEvent.row)).2 = .ok () ∨
    ∀ e ∈ batch, (s.db.find? e.syncEventID).isSome
  whole : s.Whole batch

end Stores

/-! ## Events -/

/-- A time that is read back is the one that was written exactly if that was of whole microseconds. -/
theorem SyncEvent.read_row (e : SyncEvent) : e.row.read = e ↔ 1000 ∣ e.createdAt := by
  constructor
  · intro same
    exact ⟨e.createdAt / 1000, ((Int.mul_comm _ _).trans (congrArg SyncEvent.createdAt same)).symm⟩
  · intro whole
    show { e with createdAt := e.createdAt / 1000 * 1000 } = e
    rw [Int.ediv_mul_cancel whole]

namespace FakeStore

variable {uuid : UUIDText} {s : FakeStore} {e : SyncEvent} {events : List SyncEvent} {id : UUID}

theorem insertSyncEvent_stored (h : (s.events.lookup e.syncEventID).isSome) : s.insertSyncEvent uuid e = s :=
  if_pos h

theorem lookup_insertSyncEvent : (s.insertSyncEvent uuid e).events.lookup id =
    if id = e.syncEventID then some ((s.events.lookup id).getD e) else s.events.lookup id := by
  by_cases stored : (s.events.lookup e.syncEventID).isSome
  · rw [insertSyncEvent_stored stored]
    split
    · rename_i own
      obtain ⟨old, found⟩ := Option.isSome_iff_exists.mp stored
      rw [own, found]
      rfl
    · rfl
  · have absent := Option.not_isSome_iff_eq_none.mp stored
    rw [insertSyncEvent, if_neg stored]
    by_cases own : id = e.syncEventID
    · rw [if_pos own, own, absent]
      exact AList.lookup_insert _
    · rw [if_neg own]
      exact AList.lookup_insert_ne own

/-- What is stored stays, and of a batch the first event of each id is new. -/
theorem lookup_insertSyncEvents : (s.insertSyncEvents uuid events).events.lookup id =
    (s.events.lookup id).or (Stores.first events id) := by
  induction events generalizing s with
  | nil => exact (Option.or_none).symm
  | cons e events ih =>
    refine (ih (s := s.insertSyncEvent uuid e)).trans ?_
    rw [lookup_insertSyncEvent, Stores.first, Stores.first, List.find?_cons]
    by_cases own : id = e.syncEventID
    · rw [if_pos own, decide_eq_true own.symm]
      cases s.events.lookup id <;> rfl
    · rw [if_neg own, decide_eq_false fun same => own same.symm]

theorem insertSyncEvents_stored (stored : ∀ e ∈ events, (s.events.lookup e.syncEventID).isSome) :
    s.insertSyncEvents uuid events = s := by
  induction events with
  | nil => rfl
  | cons e events ih =>
    rw [List.forall_mem_cons] at stored
    rw [insertSyncEvents, List.foldl_cons, insertSyncEvent_stored stored.1]
    exact ih stored.2

/-! ## Checkpoints -/

/-- A checkpoint is before a time if the zero time and the kiosk's own events are. -/
def Checkpointed (uuid : UUIDText) (s : FakeStore) : Prop := ∀ storeID kioskID t,
  s.getLastCheckpoint (uuid.string storeID) (uuid.string kioskID) < t ↔
    zeroTime * 1000 < t ∧ ∀ id e, s.events.lookup id = some e → e.storeID = storeID ∧ e.kioskID = kioskID → e.createdAt < t

theorem key_inj (uuid_ok : uuid.Canonical) {storeID kioskID storeID' kioskID' : UUID}
    (h : uuid.string storeID ++ "/" ++ uuid.string kioskID = uuid.string storeID' ++ "/" ++ uuid.string kioskID') :
    storeID = storeID' ∧ kioskID = kioskID' := by
  have chars := congrArg String.toList h
  simp only [String.toList_append, List.append_assoc] at chars
  have count : (uuid.string storeID).toList.count '/' = (uuid.string storeID').toList.count '/' := by
    rw [List.count_eq_zero.mpr (uuid_ok.no_slash _), List.count_eq_zero.mpr (uuid_ok.no_slash _)]
  obtain ⟨store, kiosk⟩ := Separated.cut_inj count chars
  exact ⟨uuid_ok.string_injective (String.toList_inj.mp store), uuid_ok.string_injective (String.toList_inj.mp kiosk)⟩

theorem checkpoint_insertSyncEvent (absent : s.events.lookup e.syncEventID = none) (key : String) :
    (s.insertSyncEvent uuid e).checkpoint key =
      if key = uuid.string e.storeID ++ "/" ++ uuid.string e.kioskID then max (s.checkpoint key) e.createdAt
      else s.checkpoint key := by
  have stored : ¬ (s.events.lookup e.syncEventID).isSome := by simp [absent]
  rw [insertSyncEvent, if_neg stored, checkpoint]
  dsimp only
  by_cases newer : s.checkpoint (uuid.string e.storeID ++ "/" ++ uuid.string e.kioskID) < e.createdAt
  · rw [if_pos newer]
    by_cases own : key = uuid.string e.storeID ++ "/" ++ uuid.string e.kioskID
    · rw [if_pos own, own, AList.lookup_insert, max_eq_right newer.le]
      rfl
    · rw [if_neg own, AList.lookup_insert_ne own]
      rfl
  · rw [if_neg newer]
    by_cases own : key = uuid.string e.storeID ++ "/" ++ uuid.string e.kioskID
    · rw [if_pos own, own, max_eq_left (not_lt.mp newer)]
      rfl
    · rw [if_neg own]
      rfl

theorem Checkpointed.insertSyncEvent (h : Checkpointed uuid s) (uuid_ok : uuid.Canonical) (e : SyncEvent) :
    Checkpointed uuid (s.insertSyncEvent uuid e) := by
  by_cases stored : (s.events.lookup e.syncEventID).isSome
  · rwa [insertSyncEvent_stored stored]
  have absent := Option.not_isSome_iff_eq_none.mp stored
  intro storeID kioskID t
  have old := h storeID kioskID t
  have others : (∀ id f, (s.insertSyncEvent uuid e).events.lookup id = some f →
      f.storeID = storeID ∧ f.kioskID = kioskID → f.createdAt < t) ↔
      (∀ id f, s.events.lookup id = some f → f.storeID = storeID ∧ f.kioskID = kioskID → f.createdAt < t) ∧
        (e.storeID = storeID ∧ e.kioskID = kioskID → e.createdAt < t) := by
    simp only [lookup_insertSyncEvent]
    constructor
    · intro all
      constructor
      · intro id f found
        apply all id f
        rw [if_neg fun own => by rw [own, absent] at found; cases found]
        exact found
      · exact all e.syncEventID e (by simp [absent])
    · rintro ⟨all, new⟩ id f found
      split at found
      · rename_i own
        rw [own, absent] at found
        cases found
        exact new
      · exact all id f found
  rw [getLastCheckpoint, checkpoint_insertSyncEvent absent, others]
  rw [getLastCheckpoint] at old
  split
  · rename_i own
    obtain ⟨rfl, rfl⟩ := key_inj uuid_ok own
    rw [max_lt_iff, old]
    simp [and_assoc]
  · rename_i other
    have foreign : ¬ (e.storeID = storeID ∧ e.kioskID = kioskID) := by
      rintro ⟨rfl, rfl⟩
      exact other rfl
    simp [old, foreign]

theorem Checkpointed.insertSyncEvents (h : Checkpointed uuid s) (uuid_ok : uuid.Canonical)
    (events : List SyncEvent) : Checkpointed uuid (s.insertSyncEvents uuid events) := by
  induction events generalizing s with
  | nil => exact h
  | cons e events ih => exact ih (h.insertSyncEvent uuid_ok e)

end FakeStore

/-! ## Both stores -/

namespace Stores

variable {uuid : UUIDText} {schema : Schema} {s : Stores} {batch : List SyncEvent}

theorem find?_insertSyncEvent {db db' : SyncEvents} {e : SyncEvent} {id : UUID}
    (h : insertSyncEvent schema db e = .ok db') :
    db'.find? id = if id = e.syncEventID then some ((db.find? id).getD e) else db.find? id := by
  obtain ⟨-, ⟨stored, rfl⟩ | ⟨absent, -, rfl⟩⟩ := insertSyncEvent_eq_ok.mp h
  · split
    · rename_i own
      obtain ⟨old, found⟩ := Option.isSome_iff_exists.mp stored
      simp [own, found]
    · rfl
  · split
    · rename_i own
      rw [own, Table.find?_upsert_self absent, absent]
      rfl
    · rename_i other
      exact Table.find?_upsert_of_ne other

/-- A transaction that is committed does in the table what the loop does in the map. -/
theorem find?_foldlM {db db' : SyncEvents} {id : UUID} {rows : List SyncEvent}
    (ok : rows.foldlM (insertSyncEvent schema) db = .ok db') : db'.find? id = (db.find? id).or (first rows id) := by
  induction rows generalizing db with
  | nil =>
    cases ok
    exact Option.or_none.symm
  | cons e rows ih =>
    rw [List.foldlM_cons] at ok
    obtain ⟨mid, taken, rest⟩ := Statement.bind_eq_ok.mp ok
    rw [ih rest, find?_insertSyncEvent taken, first, first, List.find?_cons]
    by_cases own : id = e.syncEventID
    · rw [if_pos own, decide_eq_true own.symm]
      cases db.find? id <;> rfl
    · rw [if_neg own, decide_eq_false fun same => own same.symm]

/-- A batch is taken, or the database stays. -/
theorem insertSyncEvents_cases (schema : Schema) (db : SyncEvents) (batch : List SyncEvent) :
    (∃ db', batch.foldlM (insertSyncEvent schema) db = .ok db' ∧ insertSyncEvents schema db batch = (db', .ok ())) ∨
      ∃ err, insertSyncEvents schema db batch = (db, .error err) := by
  unfold insertSyncEvents
  cases batch.foldlM (insertSyncEvent schema) db with
  | error err => exact .inr ⟨_, rfl⟩
  | ok db' => exact .inl ⟨db', rfl, rfl⟩

theorem first_row (batch : List SyncEvent) (id : UUID) :
    first (batch.map SyncEvent.row) id = (first batch id).map SyncEvent.row := by
  rw [first, List.find?_map]
  rfl

theorem Agree.isSome (h : s.Agree) (id : UUID) : (s.fake.events.lookup id).isSome = (s.db.find? id).isSome := by
  rw [h id, Option.isSome_map]

/-- After a batch that is taken the stores agree exactly if its new times are of whole microseconds. -/
theorem Agree.taken_iff (h : s.Agree) {db' : SyncEvents}
    (ok : (batch.map SyncEvent.row).foldlM (insertSyncEvent schema) s.db = .ok db') :
    Agree ⟨s.fake.insertSyncEvents uuid batch, db'⟩ ↔ s.Whole batch := by
  refine forall_congr' fun id => ?_
  show (s.fake.insertSyncEvents uuid batch).events.lookup id = (db'.find? id).map SyncEvent.read ↔ _
  rw [FakeStore.lookup_insertSyncEvents, find?_foldlM ok, first_row, h id]
  cases s.db.find? id with
  | some row => simp
  | none =>
    cases first batch id with
    | none => simp
    | some e => simp [← e.read_row, eq_comm]

theorem agree_insert_iff (h : s.Agree) : (s.insert uuid schema batch).Agree ↔ s.Harmless schema batch := by
  obtain ⟨db', ok, taken⟩ | ⟨err, refused⟩ := insertSyncEvents_cases schema s.db (batch.map SyncEvent.row)
  · rw [Stores.insert, taken, h.taken_iff ok]
    exact ⟨fun whole => ⟨.inl (by rw [taken]), whole⟩, Harmless.whole⟩
  · rw [Stores.insert, refused]
    constructor
    · intro after
      have all : ∀ e ∈ batch, (s.db.find? e.syncEventID).isSome := by
        intro e he
        rw [← after.isSome e.syncEventID, FakeStore.lookup_insertSyncEvents, Option.isSome_or,
          first, List.find?_isSome.mpr ⟨e, he, decide_eq_true rfl⟩, Bool.or_true]
      refine ⟨.inr all, fun id e absent found => ?_⟩
      have own : e.syncEventID = id := by simpa using List.find?_some found
      have stored := all e (List.mem_of_find?_eq_some found)
      rw [own, absent] at stored
      cases stored
    · intro harmless
      have stored : ∀ e ∈ batch, (s.fake.events.lookup e.syncEventID).isSome := by
        obtain ok | all := harmless.taken
        · rw [refused] at ok
          cases ok
        · exact fun e he => (h.isSome e.syncEventID).trans (all e he)
      rw [FakeStore.insertSyncEvents_stored stored]
      exact h

/-- The stores hold the same events throughout a run exactly if no batch with something new is refused, and what is new
has whole microseconds. -/
theorem hold_alike_iff (uuid : UUIDText) (schema : Schema) (batches : List (List SyncEvent)) :
    Runs.Always (insert uuid schema) Agree start batches ↔
      Runs.EachStep (insert uuid schema) (Harmless schema) start batches :=
  Runs.always_iff_eachStep (fun _ h => h) (fun _ _ h => (agree_insert_iff h).mpr)
    (fun _ _ h => (agree_insert_iff h).mp) (fun _ => rfl) batches

/-! ## Answers -/

theorem checkpointed_start (uuid : UUIDText) : start.fake.Checkpointed uuid := by
  intro storeID kioskID t
  simp [start, FakeStore.getLastCheckpoint, FakeStore.checkpoint]

/-- The checkpoints are kept whatever the database does. -/
theorem checkpointed_insert (uuid_ok : uuid.Canonical) (h : s.fake.Checkpointed uuid) :
    (s.insert uuid schema batch).fake.Checkpointed uuid := h.insertSyncEvents uuid_ok batch

theorem Agree.walk_perm (h : s.Agree) (walk : Assoc.Walk UUID SyncEvent) :
    (walk.values s.fake.events).Perm (s.db.rows.map SyncEvent.read) := by
  have all : ∀ id e, s.fake.events.lookup id = some e → id ∈ s.db.rows.map SyncEvent.syncEventID := by
    intro id e found
    rw [h id] at found
    obtain ⟨row, found, -⟩ := Option.map_eq_some_iff.mp found
    obtain ⟨mem, rfl⟩ := Table.find?_eq_some.mp found
    exact List.mem_map_of_mem mem
  have perm := walk.perm_filterMap s.db.nodup all
  have rows : (s.db.rows.map SyncEvent.syncEventID).filterMap s.fake.events.lookup = s.db.rows.map SyncEvent.read := by
    rw [List.filterMap_map, ← List.filterMap_eq_map]
    refine List.filterMap_congr fun row hrow => ?_
    show s.fake.events.lookup row.syncEventID = _
    rw [h row.syncEventID, Table.find?_eq_some.mpr ⟨hrow, rfl⟩]
    rfl
  rwa [rows] at perm

theorem le_iff_not_less (uuid_ok : uuid.Canonical) (e f : SyncEvent) : e.le f ↔ ¬ FakeStore.less uuid f e := by
  unfold SyncEvent.le FakeStore.less
  split
  · rename_i same
    have ids := uuid_ok.less_iff f.syncEventID e.syncEventID
    rw [ids, not_lt]
    simp [same]
  · rename_i differ
    simp only [decide_eq_true_eq, not_lt]
    constructor
    · rintro (lt | ⟨same, -⟩)
      · exact lt.le
      · exact absurd same.symm differ
    · intro h
      exact .inl (lt_of_le_of_ne h (Ne.symm differ))

theorem le_read (row row' : SyncEvent) : row.le row' ↔ row.read.le row'.read := by
  show row.createdAt < row'.createdAt ∨ row.createdAt = row'.createdAt ∧ _ ↔
    row.createdAt * 1000 < row'.createdAt * 1000 ∨ row.createdAt * 1000 = row'.createdAt * 1000 ∧ _
  have lt (a b : ℤ) : a < b ↔ a * 1000 < b * 1000 := by omega
  have eq (a b : ℤ) : a = b ↔ a * 1000 = b * 1000 := by omega
  exact or_congr (lt _ _) (and_congr_left' (eq _ _))

/-- The sorted map is the sorted table, whose query has its time in microseconds. -/
theorem Agree.sorted (h : s.Agree) (uuid_ok : uuid.Canonical) (walk : Assoc.Walk UUID SyncEvent)
    (storeID kioskID : UUID) (since : Time) :
    ExchangeSort.sort (FakeStore.less uuid) ((walk.values s.fake.events).filter fun e =>
      e.storeID = storeID ∧ e.kioskID ≠ kioskID ∧ since < e.createdAt) =
        (candidates s.db storeID kioskID (since / 1000)).map SyncEvent.read := by
  have total : Std.Total SyncEvent.le := ⟨fun a b => by unfold SyncEvent.le; grind⟩
  have trans : IsTrans SyncEvent SyncEvent.le := ⟨fun a b c => by unfold SyncEvent.le; grind⟩
  have matched : (s.db.rows.map SyncEvent.read).filter (fun e =>
      e.storeID = storeID ∧ e.kioskID ≠ kioskID ∧ since < e.createdAt) =
        (s.db.rows.filter fun row =>
          row.storeID = storeID ∧ row.kioskID ≠ kioskID ∧ since / 1000 < row.createdAt).map SyncEvent.read := by
    rw [List.filter_map]
    refine congrArg (List.map SyncEvent.read) (List.filter_congr fun row _ => decide_eq_decide.mpr ?_)
    have later (s c : ℤ) : s < c * 1000 ↔ s / 1000 < c := by omega
    exact and_congr_right fun _ => and_congr_right fun _ => later since row.createdAt
  rw [candidates, List.map_insertionSort SyncEvent.le SyncEvent.le SyncEvent.read _ fun row _ row' _ => le_read row row',
    ← matched]
  apply ExchangeSort.sort_eq_insertionSort (le_iff_not_less uuid_ok)
  · intro a b ha hb ab ba
    have same : a.syncEventID = b.syncEventID := by
      unfold SyncEvent.le at ab ba
      grind
    obtain ⟨row, hrow, rfl⟩ := List.mem_map.mp (List.mem_of_mem_filter ha)
    obtain ⟨row', hrow', rfl⟩ := List.mem_map.mp (List.mem_of_mem_filter hb)
    exact congrArg SyncEvent.read (s.db.unique hrow hrow' same)
  · exact (h.walk_perm walk).filter _

theorem Agree.getLastCheckpoint (h : s.Agree) (checkpointed : s.fake.Checkpointed uuid) (storeID kioskID : UUID) :
    s.fake.getLastCheckpoint (uuid.string storeID) (uuid.string kioskID) =
      max zeroTime (getLastCheckpoint s.db storeID kioskID) * 1000 := by
  apply eq_of_forall_gt_iff
  intro t
  -- A number of microseconds is before `t` nanoseconds if it is before these rounded up.
  have before (c : ℤ) : c * 1000 < (t : ℤ) ↔ c < ((t : ℤ) + 999) / 1000 := by omega
  have rows : (∀ id e, s.fake.events.lookup id = some e →
      e.storeID = storeID ∧ e.kioskID = kioskID → e.createdAt < t) ↔
      ∀ row ∈ s.db.rows, row.storeID = storeID ∧ row.kioskID = kioskID → row.createdAt < (t + 999) / 1000 := by
    simp only [h _, Option.map_eq_some_iff, Table.find?_eq_some]
    constructor
    · intro all row hrow own
      exact (before row.createdAt).mp (all row.syncEventID row.read ⟨row, ⟨hrow, rfl⟩, rfl⟩ own)
    · rintro all id e ⟨row, ⟨hrow, -⟩, rfl⟩ own
      exact (before row.createdAt).mpr (all row hrow own)
  rw [checkpointed storeID kioskID t, rows, before, before, max_lt_iff, getLastCheckpoint_lt]
  tauto

theorem Agree.getDeltasSince_iff (h : s.Agree) (uuid_ok : uuid.Canonical) (walk : Assoc.Walk UUID SyncEvent)
    (storeID kioskID : UUID) (since : Time) (limit : Int32) :
    s.fake.getDeltasSince uuid walk (uuid.string storeID) (uuid.string kioskID) since limit =
        .ok ((getDeltasSince s.db storeID kioskID (since / 1000) limit).map SyncEvent.read) ↔
      0 < limit ∨ (candidates s.db storeID kioskID (since / 1000)).length ≤ 1000 := by
  have sorted := h.sorted uuid_ok walk storeID kioskID since
  simp only [FakeStore.getDeltasSince, uuid_ok.parse_string, bind, Except.bind, pure, Except.pure, sorted,
    Except.ok.injEq, getDeltasSince, limitOf]
  generalize candidates s.db storeID kioskID (since / 1000) = out
  rw [List.length_map]
  by_cases pos : 0 < limit
  · have toInt : 0 < limit.toInt := by
      have lt := Int32.lt_iff_toInt_lt.mp pos
      rwa [Int32.toInt_zero] at lt
    rw [if_neg (Int32.not_le.mpr pos)]
    simp only [pos, true_and, true_or, iff_true]
    split
    · exact List.map_take.symm
    · rw [List.take_of_length_le (by omega)]
  · rw [if_pos (Int32.not_lt.mp pos)]
    simp only [pos, false_and, false_or, if_false]
    constructor
    · intro same
      have length := congrArg List.length same
      simp only [List.length_map, List.length_take] at length
      omega
    · intro short
      rw [List.take_of_length_le short]

/-- While the stores hold the same they answer alike, for all but what the database limits by itself. -/
theorem answer_alike (uuid_ok : uuid.Canonical) {batches : List (List SyncEvent)}
    (agree : Runs.Always (insert uuid schema) Agree start batches)
    (walk : Assoc.Walk UUID SyncEvent) (storeID kioskID : UUID) (since : Time) (limit : Int32) :
    let s := Runs.run (insert uuid schema) start batches
    (s.fake.getLastCheckpoint (uuid.string storeID) (uuid.string kioskID) =
      max zeroTime (getLastCheckpoint s.db storeID kioskID) * 1000) ∧
    (s.fake.getDeltasSince uuid walk (uuid.string storeID) (uuid.string kioskID) since limit =
        .ok ((getDeltasSince s.db storeID kioskID (since / 1000) limit).map SyncEvent.read) ↔
      0 < limit ∨ (candidates s.db storeID kioskID (since / 1000)).length ≤ 1000) := by
  intro s
  have same : s.Agree := Runs.always_last agree
  have kept : Runs.Always (insert uuid schema) (fun s => s.fake.Checkpointed uuid) start batches :=
    Runs.always_inv (I := fun s : Stores => s.fake.Checkpointed uuid)
      (fun _ _ h => checkpointed_insert uuid_ok h) (fun _ h => h) (checkpointed_start uuid) batches
  have checkpointed : s.fake.Checkpointed uuid := Runs.always_last kept
  exact ⟨same.getLastCheckpoint checkpointed storeID kioskID,
    same.getDeltasSince_iff uuid_ok walk storeID kioskID since limit⟩

/-- A merge that the other kiosk of the store has uploaded. -/
def merge : SyncEvent := ⟨7, 1, 2, "cart_merge", .null, .null, 5000⟩

/-- The store and that kiosk. -/
def one : Schema := { stores := [1], kiosks := [2], maxDepth := 100 }

theorem merge_agree : Runs.Always (insert .hyphenated one) Agree start [[merge], [merge]] := by
  have taken : insertSyncEvents one .empty [merge.row] = (⟨[merge.row], List.nodup_singleton _⟩, .ok ()) := rfl
  have whole (s : Stores) : s.Whole [merge] := fun id e _ found =>
    List.mem_singleton.mp (List.mem_of_find?_eq_some found) ▸ by decide
  refine Runs.always_of_eachStep (G := Harmless one) (fun _ h => h) (fun _ _ h => (agree_insert_iff h).mpr)
    (fun _ => rfl) ⟨⟨.inl ?_, whole _⟩, ⟨.inr ?_, whole _⟩, trivial⟩
  · show (insertSyncEvents one .empty [merge.row]).2 = .ok ()
    rw [taken]
  · show ∀ e ∈ [merge], ((insertSyncEvents one .empty [merge.row]).1.find? e.syncEventID).isSome
    rw [taken, List.forall_mem_singleton]
    rfl

theorem merge_alike : let s := Runs.run (insert .hyphenated one) start [[merge], [merge]]
    (s.fake.getLastCheckpoint (UUIDText.hyphenated.string 1) (UUIDText.hyphenated.string 3) =
      max zeroTime (getLastCheckpoint s.db 1 3) * 1000) ∧
    (s.fake.getDeltasSince .hyphenated (.inOrder UUID SyncEvent) (UUIDText.hyphenated.string 1)
        (UUIDText.hyphenated.string 3) 0 10 = .ok ((getDeltasSince s.db 1 3 0 10).map SyncEvent.read) ↔
      0 < (10 : Int32) ∨ (candidates s.db 1 3 0).length ≤ 1000) :=
  answer_alike UUIDText.canonical_hyphenated merge_agree _ 1 3 0 10

end Stores

end SyncService
