import AstraSystem.SyncDaemon.Sync.Hydrate

/-!
# Records that arrive late

In memory a register keeps the greatest write. `SyncDatabase::upsert` overwrites
the row of an id whatever the row holds, so the database keeps the last write
that arrived, and that is what a restart brings back.
-/

namespace SyncDaemon.Sync

variable {P : Type}

def upsertAll (records : List (SyncRecord P)) : SyncDatabase P :=
  records.foldl SyncDatabase.upsert .empty

/-- The records upserted for an id, in order. -/
def recordsOf (records : List (SyncRecord P)) (id : String) : List (SyncRecord P) :=
  records.filter fun rec => rec.id = id

/-- The register that merging the registers of all records makes. -/
def mergeRecords : List (SyncRecord P) → Option (LWWRegister P)
  | [] => none
  | rec :: rest => some (rest.foldl (fun reg r => reg.merge (.ofRecord r)) (.ofRecord rec))

/-- The types whose records become registers. -/
def IsRegister (d : DataType) : Prop := d = .inventory ∨ d = .cart

/-! ## What the database keeps -/

/-- The database keeps the last record of every id. -/
theorem mem_upsertAll (records : List (SyncRecord P)) (r : RecordRow P) :
    r ∈ (upsertAll records).records.rows ↔
      ∃ rec, (recordsOf records r.id).getLast? = some rec ∧ r = .ofRecord rec := by
  induction records using List.reverseRecOn with
  | nil => simp [upsertAll, SyncDatabase.empty, Table.empty, recordsOf]
  | append_singleton records new ih =>
    rw [upsertAll, List.foldl_concat, ← upsertAll, SyncDatabase.mem_upsert, ih]
    by_cases hid : new.id = r.id
    · have last : (recordsOf (records ++ [new]) r.id).getLast? = some new := by
        simp [recordsOf, List.filter_append, hid]
      simp [last, hid]
    · have old : recordsOf (records ++ [new]) r.id = recordsOf records r.id := by
        simp [recordsOf, List.filter_append, hid]
      have ne : r ≠ .ofRecord new := by
        rintro rfl
        exact hid rfl
      simp [old, ne, Ne.symm hid]

section
variable {readPayload : DataType → P → Except String P} {records : List (SyncRecord P)}

theorem rowHolds_upsertAll
    (readable : ∀ rec ∈ records, readPayload rec.dataType rec.payload = .ok rec.payload)
    (d : DataType) (id : String) (reg : LWWRegister P) :
    RowHolds readPayload (upsertAll records) d id reg ↔
      ∃ rec, (recordsOf records id).getLast? = some rec ∧ rec.dataType = d ∧
        reg = .ofRecord rec := by
  have reads (rec : SyncRecord P) (hr : rec ∈ records) :
      SyncDatabase.Loads readPayload (.ofRecord rec) rec :=
    ⟨rec.payload, readable rec hr, by rw [SyncDatabase.toRecord_ofRecord]⟩
  have mem {rec : SyncRecord P} {id : String} (last : (recordsOf records id).getLast? = some rec) :
      rec ∈ records ∧ rec.id = id := by
    simpa [recordsOf] using List.mem_of_getLast? last
  constructor
  · intro h
    obtain ⟨row, hrow, rfl, rfl, rec, loads, rfl⟩ := h
    obtain ⟨last, hlast, rfl⟩ := (mem_upsertAll records row).mp hrow
    exact ⟨last, hlast, rfl, by rw [loads_unique loads (reads last (mem hlast).1)]⟩
  · intro h
    obtain ⟨rec, hlast, rfl, rfl⟩ := h
    obtain ⟨hr, hid⟩ := mem hlast
    refine ⟨.ofRecord rec, (mem_upsertAll records _).mpr ⟨rec, ?_, rfl⟩, rfl, hid, rec, reads rec hr,
      rfl⟩
    exact (congrArg (fun id => (recordsOf records id).getLast?) hid).trans hlast

end

/-! ## Which write survives a restart -/

theorem LWWRegister.rank_le_iff (a b : SyncRecord P) :
    (LWWRegister.ofRecord a).rank ≤ (LWWRegister.ofRecord b).rank ↔
      a.lamportTs < b.lamportTs ∨ a.lamportTs = b.lamportTs ∧ a.origin.id ≤ b.origin.id := by
  simp only [rank, ofRecord, new, Prod.Lex.toLex_le_toLex, UInt64.lt_iff_toNat_lt, UInt64.toNat_inj]

/-- Merging leaves the register of a record that none of the others is above. -/
theorem mergeRecords_spec (rec : SyncRecord P) (rest : List (SyncRecord P)) :
    ∃ z ∈ rec :: rest, mergeRecords (rec :: rest) = some (.ofRecord z) ∧
      ∀ y ∈ rec :: rest, (LWWRegister.ofRecord y).rank ≤ (LWWRegister.ofRecord z).rank := by
  induction rest generalizing rec with
  | nil => exact ⟨rec, List.mem_cons_self, rfl, by simp⟩
  | cons r rest ih =>
    have step (w : SyncRecord P)
        (kept : (LWWRegister.ofRecord rec).merge (.ofRecord r) = .ofRecord w) :
        mergeRecords (rec :: r :: rest) = mergeRecords (w :: rest) := by
      simp only [mergeRecords, List.foldl_cons, kept]
    have merged := LWWRegister.merge_eq (LWWRegister.ofRecord rec) (.ofRecord r)
    split at merged
    · rename_i newer
      obtain ⟨z, hz, eq, top⟩ := ih r
      refine ⟨z, List.mem_cons_of_mem _ hz, (step r merged).trans eq, ?_⟩
      rw [List.forall_mem_cons]
      exact ⟨newer.le.trans (top r List.mem_cons_self), top⟩
    · rename_i kept
      obtain ⟨z, hz, eq, top⟩ := ih rec
      have first := top rec List.mem_cons_self
      refine ⟨z, ?_, (step rec merged).trans eq, ?_⟩
      · cases List.mem_cons.mp hz with
        | inl here => exact here ▸ List.mem_cons_self
        | inr later => exact List.mem_cons_of_mem _ (List.mem_cons_of_mem _ later)
      · rw [List.forall_mem_cons, List.forall_mem_cons]
        exact ⟨first, (le_of_not_gt kept).trans first,
          fun y hy => top y (List.mem_cons_of_mem _ hy)⟩

section
variable {records : List (SyncRecord P)}

/-- The last record of an id is what merging all of them makes exactly when it is the greatest. -/
theorem merge_eq_last_iff
    (distinct : (records.map fun rec => (rec.lamportTs, rec.origin)).Nodup) {id : String}
    {rec : SyncRecord P} (last : (recordsOf records id).getLast? = some rec) :
    mergeRecords (recordsOf records id) = some (.ofRecord rec) ↔
      ∀ s ∈ records, s.id = id → s.lamportTs < rec.lamportTs ∨
        s.lamportTs = rec.lamportTs ∧ s.origin.id ≤ rec.origin.id := by
  have mem (s : SyncRecord P) : s ∈ recordsOf records id ↔ s ∈ records ∧ s.id = id := by
    simp [recordsOf]
  have hrec := List.mem_of_getLast? last
  obtain ⟨z, hz, eq, top⟩ : ∃ z ∈ recordsOf records id,
      mergeRecords (recordsOf records id) = some (.ofRecord z) ∧
      ∀ y ∈ recordsOf records id, (LWWRegister.ofRecord y).rank ≤ (LWWRegister.ofRecord z).rank := by
    cases hl : recordsOf records id with
    | nil => simp [hl] at hrec
    | cons first rest => exact mergeRecords_spec first rest
  simp only [eq, Option.some.injEq, ← LWWRegister.rank_le_iff]
  constructor
  · intro same s hs hid
    rw [← same]
    exact top s ((mem s).mpr ⟨hs, hid⟩)
  · intro greatest
    obtain ⟨hzr, hzid⟩ := (mem z).mp hz
    have tie := le_antisymm (greatest z hzr hzid) (top rec hrec)
    obtain ⟨lamport, origin⟩ := (LWWRegister.rank_eq_iff _ _).mp tie
    rw [List.inj_on_of_nodup_map distinct hzr ((mem rec).mp hrec).1 (Prod.ext lamport origin)]

end

/-- A register was upserted for the id. -/
def HasRegister (records : List (SyncRecord P)) (id : String) : Prop :=
  ∃ rec ∈ recordsOf records id, IsRegister rec.dataType

theorem HasRegister.merges {records : List (SyncRecord P)} {id : String}
    (h : HasRegister records id) : ∃ reg, mergeRecords (recordsOf records id) = some reg := by
  obtain ⟨rec, hrec, -⟩ := h
  cases hl : recordsOf records id with
  | nil => simp [hl] at hrec
  | cons first rest => exact ⟨_, rfl⟩

/-- **A restart brings back the newest write exactly when it arrived last.** Whatever was
upserted, in whatever order, the engine starts with one register for every id whose last record is
of a register type. For every id that a register was upserted for it starts with what merging all
records of the id makes exactly when the last of them is of a register type and the greatest. -/
theorem restart_agrees_iff (readPayload : DataType → P → Except String P)
    (records : List (SyncRecord P))
    (distinct : (records.map fun rec => (rec.lamportTs, rec.origin)).Nodup)
    (readable : ∀ rec ∈ records, readPayload rec.dataType rec.payload = .ok rec.payload) :
    ∃ engine, SyncEngine.new readPayload (upsertAll records) = .ok engine ∧
      (∀ id, (∃ reg, engine.Register id reg) ↔
        ∃ rec, (recordsOf records id).getLast? = some rec ∧ IsRegister rec.dataType) ∧
      ((∀ id, HasRegister records id →
          ∀ reg, engine.Register id reg ↔ mergeRecords (recordsOf records id) = some reg) ↔
        ∀ id, HasRegister records id → ∃ rec, (recordsOf records id).getLast? = some rec ∧
          IsRegister rec.dataType ∧ ∀ s ∈ records, s.id = id → s.lamportTs < rec.lamportTs ∨
            s.lamportTs = rec.lamportTs ∧ s.origin.id ≤ rec.origin.id) := by
  obtain ⟨engine, started⟩ : ∃ engine, SyncEngine.new readPayload (upsertAll records) = .ok engine := by
    apply new_ok
    intro row hrow
    obtain ⟨rec, last, rfl⟩ := (mem_upsertAll records row).mp hrow
    exact ⟨_, readable rec (List.mem_filter.mp (List.mem_of_getLast? last)).1⟩
  have hydrated := new_hydrated started
  have registers (id : String) (reg : LWWRegister P) : engine.Register id reg ↔
      ∃ rec, (recordsOf records id).getLast? = some rec ∧ IsRegister rec.dataType ∧
        reg = .ofRecord rec := by
    simp only [SyncEngine.Register, hydrated.inventory, hydrated.carts,
      rowHolds_upsertAll readable, ← exists_or, ← and_or_left, ← or_and_right, IsRegister]
  refine ⟨engine, started, ?_, ?_⟩
  · intro id
    simp only [registers]
    constructor
    · intro h
      obtain ⟨_, rec, last, register, rfl⟩ := h
      exact ⟨rec, last, register⟩
    · intro h
      obtain ⟨rec, last, register⟩ := h
      exact ⟨_, rec, last, register, rfl⟩
  · simp only [registers]
    refine forall_congr' fun id => forall_congr' fun has => ?_
    constructor
    · intro agrees
      obtain ⟨reg, merged⟩ := has.merges
      obtain ⟨rec, last, register, rfl⟩ := (agrees reg).mpr merged
      exact ⟨rec, last, register, (merge_eq_last_iff distinct last).mp merged⟩
    · intro greatest
      obtain ⟨rec, last, register, top⟩ := greatest
      have merged := (merge_eq_last_iff distinct last).mpr top
      intro reg
      rw [merged, Option.some.injEq]
      constructor
      · intro hydrates
        obtain ⟨rec', last', -, rfl⟩ := hydrates
        rw [Option.some.inj (last.symm.trans last')]
      · intro same
        exact ⟨rec, last, register, same.symm⟩

/-- A count of 7, then an older one of 9 that was delayed on its way. -/
def lateCount : List (SyncRecord String) :=
  [⟨.inventory, "sku-1", ⟨"kiosk-1"⟩, 12, 1700000000500, "7", []⟩,
    ⟨.inventory, "sku-1", ⟨"kiosk-2"⟩, 11, 1700000000100, "9", []⟩]

theorem late_count_survives :
    ¬ ∀ (records : List (SyncRecord String)) (engine : SyncEngine String),
      (records.map fun rec => (rec.lamportTs, rec.origin)).Nodup →
      SyncEngine.new (fun _ payload => .ok payload) (upsertAll records) = .ok engine →
      ∀ id, HasRegister records id →
        ∀ reg, engine.Register id reg ↔ mergeRecords (recordsOf records id) = some reg := by
  intro h
  obtain ⟨engine, started⟩ := new_ok (fun _ payload => .ok payload) (upsertAll lateCount)
    fun row _ => ⟨_, rfl⟩
  have late : engine.Register "sku-1" ⟨"9", 11, ⟨"kiosk-2"⟩, 1700000000100⟩ := by
    refine .inl (((new_hydrated started).inventory _ _).mpr ?_)
    exact (rowHolds_upsertAll (fun _ _ => rfl) _ _ _).mpr ⟨_, rfl, rfl, rfl⟩
  have merged := (h lateCount engine (by decide) started "sku-1"
    ⟨_, List.mem_cons_self, .inl rfl⟩ _).mp late
  exact absurd (congrArg (Option.map LWWRegister.lamportTs) merged) (by decide)

/-- Delivered in order, the same records survive as they merge. -/
theorem restart_agrees_in_order :
    ∃ engine, SyncEngine.new (fun _ payload => .ok payload) (upsertAll lateCount.reverse) =
        .ok engine ∧
      ∀ reg, engine.Register "sku-1" reg ↔
        mergeRecords (recordsOf lateCount.reverse "sku-1") = some reg := by
  obtain ⟨engine, started, _, agrees⟩ := restart_agrees_iff (fun _ payload => .ok payload)
    lateCount.reverse (by decide) (fun _ _ => rfl)
  refine ⟨engine, started, agrees.mpr ?_ "sku-1" ⟨_, List.mem_cons_self, .inl rfl⟩⟩
  intro id has
  obtain ⟨rec, hrec, -⟩ := has
  obtain ⟨hrec, hid⟩ := List.mem_filter.mp hrec
  have count : ∀ r ∈ lateCount.reverse, r.id = "sku-1" := by decide
  obtain rfl : "sku-1" = id := (count rec hrec).symm.trans (of_decide_eq_true hid)
  exact ⟨_, rfl, .inl rfl, by decide⟩

end SyncDaemon.Sync
