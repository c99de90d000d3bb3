import AstraSystem.Lib.Table
import AstraSystem.SyncDaemon.Types

/-!
# The local database (`storage/sqlite.rs`)

The two tables the cloud flush reads, each statement one atomic step. A payload
column holds a JSON document, which serde reads back as it was written.
-/

namespace SyncDaemon

/-- A row of `sync_records`. -/
structure RecordRow (P : Type) where
  id : String
  dataType : DataType
  origin : String
  lamportTs : Int64
  wallclockTs : Int64
  payloadJson : P
  hmac : List UInt8
  dirty : Bool
  deriving DecidableEq, Repr

/-- A row of `offline_payments`. -/
structure PaymentRow where
  tokenId : String
  payloadJson : String
  hmac : List UInt8
  createdAt : Int64
  flushed : Bool
  deriving DecidableEq, Repr

/-- What `queue_offline_payment` is given and `load_offline_queue` returns. -/
structure OfflinePayment where
  tokenId : String
  payloadJson : String
  hmac : List UInt8
  deriving DecidableEq, Repr

variable {P : Type}

/-- The row an upsert writes; timestamps are cast to `i64`. -/
def RecordRow.ofRecord (record : SyncRecord P) : RecordRow P where
  id := record.id
  dataType := record.dataType
  origin := record.origin.id
  lamportTs := record.lamportTs.toInt64
  wallclockTs := record.wallclockTs.toInt64
  payloadJson := record.payload
  hmac := record.hmac
  dirty := true

/-- The record a query makes of a row; timestamps are cast back. -/
def RecordRow.toRecord (row : RecordRow P) : SyncRecord P where
  dataType := row.dataType
  id := row.id
  origin := ⟨row.origin⟩
  lamportTs := row.lamportTs.toUInt64
  wallclockTs := row.wallclockTs.toUInt64
  payload := row.payloadJson
  hmac := row.hmac

def PaymentRow.payment (row : PaymentRow) : OfflinePayment :=
  ⟨row.tokenId, row.payloadJson, row.hmac⟩

structure SyncDatabase (P : Type) where
  records : Table (RecordRow P) String RecordRow.id
  payments : Table PaymentRow String PaymentRow.tokenId

namespace SyncDatabase

/-- The database right after its migrations. -/
def empty : SyncDatabase P := ⟨.empty, .empty⟩

def upsert (db : SyncDatabase P) (record : SyncRecord P) : SyncDatabase P :=
  { db with records := db.records.upsert (fun _ new => new) (fun _ _ => rfl) (.ofRecord record) }

def loadDirty (db : SyncDatabase P) (dataType : DataType) (limit : ℕ) : List (SyncRecord P) :=
  (db.records.select (fun r => r.dataType = dataType && r.dirty)
    (fun a b => a.lamportTs ≤ b.lamportTs) limit).map RecordRow.toRecord

/-- All rows of a type, their payloads read back by serde; the first that cannot be read is an
error. -/
def loadAll (readPayload : DataType → P → Except String P) (db : SyncDatabase P)
    (dataType : DataType) : Except AstraSyncError (List (SyncRecord P)) :=
  (db.records.select (fun r => r.dataType = dataType) (fun a b => a.lamportTs ≤ b.lamportTs)
    db.records.rows.length).mapM fun row =>
      match readPayload dataType row.payloadJson with
      | .ok payload => .ok { row.toRecord with payload := payload }
      | .error e => .error (.storage ("row parse failed: " ++ e))

/-- `UPDATE … SET dirty = 0` over a whole data type, and the number of rows it changed. -/
def flush (db : SyncDatabase P) (dataType : DataType) : SyncDatabase P × ℕ :=
  let due (r : RecordRow P) : Bool := r.dataType = dataType && r.dirty
  ({ db with
      records := db.records.update (fun r => if due r then { r with dirty := false } else r)
        fun r => by split <;> rfl },
    db.records.rows.countP due)

/-- A token that is queued again keeps its `flushed` flag. -/
def queueOfflinePayment (db : SyncDatabase P) (p : OfflinePayment) (now : Int64) : SyncDatabase P :=
  { db with
    payments := db.payments.upsert (fun old new => { new with flushed := old.flushed })
      (fun _ _ => rfl) ⟨p.tokenId, p.payloadJson, p.hmac, now, false⟩ }

def loadOfflineQueue (db : SyncDatabase P) (limit : ℕ) : List OfflinePayment :=
  (db.payments.select (fun r => !r.flushed) (fun a b => a.createdAt ≤ b.createdAt) limit).map
    PaymentRow.payment

/-- One `UPDATE … WHERE token_id = ?` for each token, in one transaction. -/
def markOfflineFlushed (db : SyncDatabase P) (tokenIds : List String) : SyncDatabase P × ℕ :=
  tokenIds.foldl (fun (db, count) id =>
    ({ db with
        payments := db.payments.update
          (fun r => if r.tokenId = id then { r with flushed := true } else r)
          fun r => by split <;> rfl },
      count + db.payments.rows.countP fun r => r.tokenId = id)) (db, 0)

/-! ## What the statements do to the rows -/

theorem toRecord_ofRecord (record : SyncRecord P) :
    (RecordRow.ofRecord record).toRecord = record := by
  simp [RecordRow.ofRecord, RecordRow.toRecord]

theorem mem_upsert {db : SyncDatabase P} {record : SyncRecord P} {r : RecordRow P} :
    r ∈ (db.upsert record).records.rows ↔
      r = .ofRecord record ∨ r ∈ db.records.rows ∧ r.id ≠ record.id := by
  rw [upsert, Table.mem_upsert]
  constructor
  · intro h
    obtain ⟨hr, hne⟩ | ⟨_, _, _, rfl⟩ | ⟨_, rfl⟩ := h
    · exact .inr ⟨hr, hne⟩
    · exact .inl rfl
    · exact .inl rfl
  · intro h
    obtain rfl | ⟨hr, hne⟩ := h
    · by_cases h : ∃ old ∈ db.records.rows, old.id = (RecordRow.ofRecord record).id
      · obtain ⟨old, hold, heq⟩ := h
        exact .inr (.inl ⟨old, hold, heq, rfl⟩)
      · push Not at h
        exact .inr (.inr ⟨h, rfl⟩)
    · exact .inl ⟨hr, hne⟩

theorem mem_flush {db : SyncDatabase P} {d : DataType} {r : RecordRow P} :
    r ∈ (db.flush d).1.records.rows ↔
      (r ∈ db.records.rows ∧ ¬ (r.dataType = d ∧ r.dirty = true)) ∨
      (r.dataType = d ∧ r.dirty = false ∧ { r with dirty := true } ∈ db.records.rows) := by
  simp only [flush, Table.mem_update, Bool.and_eq_true, decide_eq_true_eq]
  constructor
  · intro h
    obtain ⟨old, hold, rfl⟩ := h
    split
    · rename_i h
      refine .inr ⟨h.1, rfl, ?_⟩
      convert hold using 1
      exact (congrArg (fun b => { old with dirty := b }) h.2.symm)
    · rename_i h
      exact .inl ⟨hold, h⟩
  · intro h
    obtain ⟨hr, h⟩ | ⟨hd, hf, hr⟩ := h
    · exact ⟨r, hr, if_neg h⟩
    · refine ⟨_, hr, ?_⟩
      rw [if_pos ⟨hd, rfl⟩]
      exact congrArg (fun b => { r with dirty := b }) hf.symm

theorem mem_of_mem_loadDirty {db : SyncDatabase P} {d : DataType} {limit : ℕ} {v : SyncRecord P}
    (h : v ∈ db.loadDirty d limit) :
    ∃ r ∈ db.records.rows, r.dataType = d ∧ r.dirty = true ∧ r.toRecord = v := by
  obtain ⟨r, hr, rfl⟩ := List.mem_map.mp h
  obtain ⟨hr, hd⟩ := Table.mem_of_mem_select hr
  simp only [Bool.and_eq_true, decide_eq_true_eq] at hd
  exact ⟨r, hr, hd.1, hd.2, rfl⟩

/-- No record is loaded twice. -/
theorem nodup_loadDirty (db : SyncDatabase P) (d : DataType) (limit : ℕ) :
    ((db.loadDirty d limit).map SyncRecord.id).Nodup := by
  rw [loadDirty, List.map_map]
  exact db.records.nodup_select (fun r => r.dataType = d && r.dirty)
    (fun a b => a.lamportTs ≤ b.lamportTs) limit

/-- A dirty row is loaded where the limit leaves out nothing. -/
theorem mem_loadDirty {db : SyncDatabase P} {limit : ℕ} (all : db.records.rows.length ≤ limit)
    {r : RecordRow P} (hr : r ∈ db.records.rows) (dirty : r.dirty = true) :
    r.toRecord ∈ db.loadDirty r.dataType limit :=
  List.mem_map_of_mem (Table.mem_select all hr (by simp [dirty]))

section
variable {readPayload : DataType → P → Except String P} {db : SyncDatabase P} {d : DataType}

/-- The record `loadAll` makes of a row. -/
def Loads (readPayload : DataType → P → Except String P) (row : RecordRow P)
    (record : SyncRecord P) : Prop :=
  ∃ payload, readPayload row.dataType row.payloadJson = .ok payload ∧
    record = { row.toRecord with payload := payload }

/-- Where loading succeeds, serde could read every payload of the type. -/
theorem readable_of_loadAll {records : List (SyncRecord P)}
    (h : loadAll readPayload db d = .ok records) {row : RecordRow P}
    (hrow : row ∈ db.records.rows) (hd : row.dataType = d) :
    ∃ record, Loads readPayload row record := by
  obtain ⟨record, made⟩ := Statement.ok_of_mapM h row (Table.mem_select le_rfl hrow (by simp [hd]))
  subst hd
  cases hp : readPayload row.dataType row.payloadJson with
  | error e =>
    rw [hp] at made
    cases made
  | ok payload => exact ⟨_, payload, hp, rfl⟩

/-- Every row of the type is loaded, and nothing else. -/
theorem mem_loadAll {records : List (SyncRecord P)}
    (h : loadAll readPayload db d = .ok records) {record : SyncRecord P} :
    record ∈ records ↔
      ∃ row ∈ db.records.rows, row.dataType = d ∧ Loads readPayload row record := by
  rw [Statement.mem_mapM h]
  constructor
  · intro h
    obtain ⟨row, hrow, made⟩ := h
    obtain ⟨hrow, hd⟩ := Table.mem_of_mem_select hrow
    have hd : row.dataType = d := by simpa using hd
    refine ⟨row, hrow, hd, ?_⟩
    cases hp : readPayload d row.payloadJson with
    | error e =>
      rw [hp] at made
      cases made
    | ok payload =>
      rw [hp] at made
      cases made
      exact ⟨payload, hd ▸ hp, rfl⟩
  · intro h
    obtain ⟨row, hrow, rfl, payload, hp, rfl⟩ := h
    refine ⟨row, Table.mem_select le_rfl hrow (by simp), ?_⟩
    rw [hp]

/-- Loading succeeds where serde can read every payload of the type. -/
theorem loadAll_ok (h : ∀ row ∈ db.records.rows, row.dataType = d →
    ∃ payload, readPayload d row.payloadJson = .ok payload) :
    ∃ records, loadAll readPayload db d = .ok records := by
  apply Statement.mapM_ok
  intro row hrow
  obtain ⟨hrow, hd⟩ := Table.mem_of_mem_select hrow
  obtain ⟨payload, hp⟩ := h row hrow (by simpa using hd)
  rw [hp]
  exact ⟨_, rfl⟩

end

/-- Queuing a token again replaces what is queued for it, but not its flag. -/
theorem mem_queueOfflinePayment {db : SyncDatabase P} {p : OfflinePayment} {now : Int64}
    {r : PaymentRow} :
    r ∈ (db.queueOfflinePayment p now).payments.rows ↔
      (r ∈ db.payments.rows ∧ r.tokenId ≠ p.tokenId) ∨
      (∃ old ∈ db.payments.rows, old.tokenId = p.tokenId ∧
        r = ⟨p.tokenId, p.payloadJson, p.hmac, now, old.flushed⟩) ∨
      ((∀ old ∈ db.payments.rows, old.tokenId ≠ p.tokenId) ∧
        r = ⟨p.tokenId, p.payloadJson, p.hmac, now, false⟩) := by
  rw [queueOfflinePayment, Table.mem_upsert]

theorem mem_markOfflineFlushed {db : SyncDatabase P} {ids : List String} {r : PaymentRow} :
    r ∈ (db.markOfflineFlushed ids).1.payments.rows ↔
      ∃ old ∈ db.payments.rows,
        r = if old.tokenId ∈ ids then { old with flushed := true } else old := by
  unfold markOfflineFlushed
  generalize 0 = count
  induction ids generalizing db count with
  | nil => simp
  | cons id ids ih =>
    rw [List.foldl_cons, ih]
    simp only [Table.mem_update]
    constructor
    · intro h
      obtain ⟨_, ⟨old, hold, rfl⟩, rfl⟩ := h
      refine ⟨old, hold, ?_⟩
      by_cases he : old.tokenId = id <;> simp [he]
    · intro h
      obtain ⟨old, hold, rfl⟩ := h
      refine ⟨_, ⟨old, hold, rfl⟩, ?_⟩
      by_cases he : old.tokenId = id <;> simp [he]

theorem records_markOfflineFlushed (db : SyncDatabase P) (ids : List String) :
    (db.markOfflineFlushed ids).1.records = db.records := by
  unfold markOfflineFlushed
  generalize 0 = count
  induction ids generalizing db count with
  | nil => rfl
  | cons id ids ih => rw [List.foldl_cons, ih]

theorem mem_of_mem_loadOfflineQueue {db : SyncDatabase P} {limit : ℕ} {p : OfflinePayment}
    (h : p ∈ db.loadOfflineQueue limit) :
    ∃ r ∈ db.payments.rows, r.flushed = false ∧ r.payment = p := by
  obtain ⟨r, hr, rfl⟩ := List.mem_map.mp h
  obtain ⟨hr, hf⟩ := Table.mem_of_mem_select hr
  exact ⟨r, hr, by simpa using hf, rfl⟩

/-- An unflushed token is loaded where the limit leaves out nothing. -/
theorem mem_loadOfflineQueue {db : SyncDatabase P} {limit : ℕ}
    (all : db.payments.rows.length ≤ limit) {r : PaymentRow} (hr : r ∈ db.payments.rows)
    (unflushed : r.flushed = false) : r.payment ∈ db.loadOfflineQueue limit :=
  List.mem_map_of_mem (Table.mem_select all hr (by simp [unflushed]))

end SyncDatabase

end SyncDaemon
