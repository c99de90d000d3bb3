import AstraSystem.SyncDaemon.Sync.LWWRegister

/-!
# Starting the sync engine (`sync/engine.rs`)

`SyncEngine::new` fills the caches from the database, one data type after
another. The Lamport clock is not restored: it starts from zero.
-/

namespace SyncDaemon.Sync

open Assoc (Map)

variable {P : Type}

structure LamportClock where
  counter : UInt64
  deriving DecidableEq, Repr

namespace LamportClock

def new : LamportClock := ⟨0⟩

/-- The time, and the clock afterwards; `none` is the panic on overflow. -/
def tick (profile : Profile) (self : LamportClock) : Option (UInt64 × LamportClock) :=
  (profile.add self.counter 1).map fun counter => (counter, ⟨counter⟩)

def update (profile : Profile) (self : LamportClock) (remoteTs : UInt64) :
    Option (UInt64 × LamportClock) :=
  (profile.add (max self.counter remoteTs) 1).map fun counter => (counter, ⟨counter⟩)

def now (self : LamportClock) : UInt64 := self.counter

/-- The time the tick after `n` other ticks returns. -/
def tickAfter (profile : Profile) (self : LamportClock) : ℕ → Option UInt64
  | 0 => (self.tick profile).map Prod.fst
  | n + 1 => (self.tick profile).bind fun next => tickAfter profile next.2 n

/-- Ticks count upwards from where the clock stands. -/
theorem tickAfter_eq (profile : Profile) (self : LamportClock) {n : ℕ}
    (h : self.counter.toNat + n + 1 < 2 ^ 64) :
    ∃ t, self.tickAfter profile n = some t ∧ t.toNat = self.counter.toNat + n + 1 := by
  have one : (1 : UInt64).toNat = 1 := rfl
  obtain ⟨eq, nat⟩ := profile.add_eq (a := self.counter) (b := 1) (by omega)
  induction n generalizing self with
  | zero =>
    refine ⟨self.counter + 1, ?_, by omega⟩
    rw [tickAfter, tick, eq]
    rfl
  | succ n ih =>
    obtain ⟨eq', nat'⟩ := profile.add_eq (a := self.counter + 1) (b := 1) (by omega)
    obtain ⟨t, ht, total⟩ := ih ⟨self.counter + 1⟩ (by simp only; omega) eq' nat'
    refine ⟨t, ?_, by simp only at total; omega⟩
    rw [tickAfter, tick, eq]
    exact ht

end LamportClock

/-- The part of the engine that `new` makes itself. -/
structure SyncEngine (P : Type) where
  caches : Caches P
  lamport : LamportClock

def LWWRegister.ofRecord (rec : SyncRecord P) : LWWRegister P :=
  .new rec.payload rec.origin rec.lamportTs rec.wallclockTs

/-- The loop that fills a cache; a later record of one id replaces an earlier one. -/
def insertAll (records : List (SyncRecord P)) : Map String (LWWRegister P) :=
  records.foldl (fun cache rec => cache.insert rec.id (.ofRecord rec)) ∅

variable (readPayload : DataType → P → Except String P) (db : SyncDatabase P)

def SyncEngine.new : Except AstraSyncError (SyncEngine P) := do
  let invRecords ← db.loadAll readPayload .inventory
  let inventory := insertAll invRecords
  let cartRecords ← db.loadAll readPayload .cart
  let carts := insertAll cartRecords
  let txRecords ← db.loadAll readPayload .transaction
  let anaRecords ← db.loadAll readPayload .analytics
  .ok ⟨⟨inventory, carts, txRecords, anaRecords⟩, .new⟩

/-- A row of the type stands for the register under its id. -/
def RowHolds (d : DataType) (id : String) (reg : LWWRegister P) : Prop :=
  ∃ row ∈ db.records.rows, row.dataType = d ∧ row.id = id ∧
    ∃ rec, SyncDatabase.Loads readPayload row rec ∧ reg = .ofRecord rec

/-- What `new` restores: the caches from the rows, and nothing of the clock. -/
structure Hydrated (engine : SyncEngine P) : Prop where
  readable : ∀ row ∈ db.records.rows, ∃ rec, SyncDatabase.Loads readPayload row rec
  inventory : ∀ id reg, engine.caches.inventory.lookup id = some reg ↔
    RowHolds readPayload db .inventory id reg
  carts : ∀ id reg, engine.caches.carts.lookup id = some reg ↔
    RowHolds readPayload db .cart id reg
  transactions : ∀ rec, rec ∈ engine.caches.transactions ↔
    ∃ row ∈ db.records.rows, row.dataType = .transaction ∧ SyncDatabase.Loads readPayload row rec
  analytics : ∀ rec, rec ∈ engine.caches.analytics ↔
    ∃ row ∈ db.records.rows, row.dataType = .analytics ∧ SyncDatabase.Loads readPayload row rec
  lamport : engine.lamport = .new

variable {readPayload db}

theorem lookup_insertAll (records : List (SyncRecord P)) (id : String) :
    (insertAll records).lookup id =
      (records.filter fun rec => rec.id = id).getLast?.map LWWRegister.ofRecord := by
  have last (l : List (SyncRecord P)) (old : Option (LWWRegister P)) :
      l.foldl (fun _ rec => some (LWWRegister.ofRecord rec)) old =
        (l.getLast?.map LWWRegister.ofRecord).or old := by
    induction l generalizing old with
    | nil => rfl
    | cons rec l ih =>
      rw [List.foldl_cons, ih, List.getLast?_cons]
      cases l.getLast? <;> rfl
  rw [insertAll, Assoc.lookup_foldl_list (h := fun _ rec => some (.ofRecord rec)), last]
  · exact Option.or_none
  · intro m rec a
    by_cases ha : a = rec.id
    · rw [ha, AList.lookup_insert, if_pos rfl]
    · rw [AList.lookup_insert_ne ha, if_neg ha]

theorem loads_id {row : RecordRow P} {rec : SyncRecord P}
    (h : SyncDatabase.Loads readPayload row rec) : rec.id = row.id := by
  obtain ⟨p, _, rfl⟩ := h
  rfl

theorem loads_lamportTs {row : RecordRow P} {rec : SyncRecord P}
    (h : SyncDatabase.Loads readPayload row rec) : rec.lamportTs = row.lamportTs.toUInt64 := by
  obtain ⟨p, _, rfl⟩ := h
  rfl

/-- A row is read in one way only. -/
theorem loads_unique {row : RecordRow P} {rec rec' : SyncRecord P}
    (h : SyncDatabase.Loads readPayload row rec) (h' : SyncDatabase.Loads readPayload row rec') :
    rec = rec' := by
  obtain ⟨p, hp, rfl⟩ := h
  obtain ⟨p', hp', rfl⟩ := h'
  rw [Except.ok.inj (hp.symm.trans hp')]

theorem lookup_loaded {d : DataType} {records : List (SyncRecord P)}
    (h : db.loadAll readPayload d = .ok records) (id : String) (reg : LWWRegister P) :
    (insertAll records).lookup id = some reg ↔ RowHolds readPayload db d id reg := by
  have loaded (rec : SyncRecord P) : rec ∈ records ↔ _ := SyncDatabase.mem_loadAll h
  rw [lookup_insertAll, Option.map_eq_some_iff]
  constructor
  · intro h
    obtain ⟨rec, last, rfl⟩ := h
    have hm := List.mem_filter.mp (List.mem_of_getLast? last)
    obtain ⟨row, hrow, hd, loads⟩ := (loaded rec).mp hm.1
    exact ⟨row, hrow, hd, (loads_id loads).symm.trans (by simpa using hm.2), rec, loads, rfl⟩
  · intro h
    obtain ⟨row, hrow, hd, hid, rec, loads, rfl⟩ := h
    have hm : rec ∈ records.filter fun rec => rec.id = id :=
      List.mem_filter.mpr ⟨(loaded rec).mpr ⟨row, hrow, hd, loads⟩,
        by simpa using (loads_id loads).trans hid⟩
    obtain ⟨rec', last⟩ : ∃ rec', (records.filter fun rec => rec.id = id).getLast? = some rec' :=
      ⟨_, List.getLast?_eq_some_getLast (List.ne_nil_of_mem hm)⟩
    -- ids are unique in the table, so whichever record comes last is of the same row
    have hm' := List.mem_filter.mp (List.mem_of_getLast? last)
    obtain ⟨row', hrow', _, loads'⟩ := (loaded rec').mp hm'.1
    have same : row' = row := by
      apply db.records.unique hrow' hrow
      rw [← loads_id loads', hid]
      simpa using hm'.2
    exact ⟨rec', last, by rw [loads_unique loads' (same ▸ loads)]⟩

theorem new_hydrated {engine : SyncEngine P} (h : SyncEngine.new readPayload db = .ok engine) :
    Hydrated readPayload db engine := by
  unfold SyncEngine.new at h
  cases hi : db.loadAll readPayload .inventory with
  | error e => simp [hi, bind, Except.bind] at h
  | ok inventory =>
    cases hc : db.loadAll readPayload .cart with
    | error e => simp [hi, hc, bind, Except.bind] at h
    | ok carts =>
      cases ht : db.loadAll readPayload .transaction with
      | error e => simp [hi, hc, ht, bind, Except.bind] at h
      | ok transactions =>
        cases ha : db.loadAll readPayload .analytics with
        | error e => simp [hi, hc, ht, ha, bind, Except.bind] at h
        | ok analytics =>
          simp only [hi, hc, ht, ha, bind, Except.bind, Except.ok.injEq] at h
          subst h
          have readable : ∀ row ∈ db.records.rows,
              ∃ rec, SyncDatabase.Loads readPayload row rec := by
            intro row hrow
            cases hd : row.dataType with
            | inventory => exact SyncDatabase.readable_of_loadAll hi hrow hd
            | cart => exact SyncDatabase.readable_of_loadAll hc hrow hd
            | transaction => exact SyncDatabase.readable_of_loadAll ht hrow hd
            | analytics => exact SyncDatabase.readable_of_loadAll ha hrow hd
          exact ⟨readable, lookup_loaded hi, lookup_loaded hc, fun _ => SyncDatabase.mem_loadAll ht,
            fun _ => SyncDatabase.mem_loadAll ha, rfl⟩

variable (readPayload db) in
theorem new_ok (h : ∀ row ∈ db.records.rows,
    ∃ payload, readPayload row.dataType row.payloadJson = .ok payload) :
    ∃ engine, SyncEngine.new readPayload db = .ok engine := by
  have load (d : DataType) : ∃ records, db.loadAll readPayload d = .ok records := by
    apply SyncDatabase.loadAll_ok
    intro row hrow hd
    exact hd ▸ h row hrow
  obtain ⟨inventory, hi⟩ := load .inventory
  obtain ⟨carts, hc⟩ := load .cart
  obtain ⟨transactions, ht⟩ := load .transaction
  obtain ⟨analytics, ha⟩ := load .analytics
  simp only [SyncEngine.new, hi, hc, ht, ha, bind, Except.bind]
  exact ⟨_, rfl⟩

/-! ## The first writes after a restart -/

/-- A cached register or a queued record has this Lamport timestamp. -/
inductive SyncEngine.Carries (engine : SyncEngine P) : UInt64 → Prop
  | inventory {id reg} (h : engine.caches.inventory.lookup id = some reg) :
      Carries engine reg.lamportTs
  | cart {id reg} (h : engine.caches.carts.lookup id = some reg) : Carries engine reg.lamportTs
  | transaction {rec} (h : rec ∈ engine.caches.transactions) : Carries engine rec.lamportTs
  | analytics {rec} (h : rec ∈ engine.caches.analytics) : Carries engine rec.lamportTs

/-- The register is cached under the id. -/
def SyncEngine.Register (engine : SyncEngine P) (id : String) (reg : LWWRegister P) : Prop :=
  engine.caches.inventory.lookup id = some reg ∨ engine.caches.carts.lookup id = some reg

/-- The time is above everything restored, and a write of the kiosk at it is accepted. -/
def SyncEngine.Wins (engine : SyncEngine P) (kiosk : KioskId) (t : UInt64) : Prop :=
  (∀ ts, engine.Carries ts → ts < t) ∧
    ∀ id reg, engine.Register id reg → ∀ value wallclockTs,
      (reg.write value kiosk t wallclockTs).2 = true

theorem carries_iff {engine : SyncEngine P} (h : Hydrated readPayload db engine) (ts : UInt64) :
    engine.Carries ts ↔ ∃ row ∈ db.records.rows, row.lamportTs.toUInt64 = ts := by
  constructor
  · intro carries
    cases carries with
    | inventory hl =>
      obtain ⟨row, hrow, _, _, rec, loads, rfl⟩ := (h.inventory _ _).mp hl
      exact ⟨row, hrow, (loads_lamportTs loads).symm⟩
    | cart hl =>
      obtain ⟨row, hrow, _, _, rec, loads, rfl⟩ := (h.carts _ _).mp hl
      exact ⟨row, hrow, (loads_lamportTs loads).symm⟩
    | transaction hr =>
      obtain ⟨row, hrow, _, loads⟩ := (h.transactions _).mp hr
      exact ⟨row, hrow, (loads_lamportTs loads).symm⟩
    | analytics hr =>
      obtain ⟨row, hrow, _, loads⟩ := (h.analytics _).mp hr
      exact ⟨row, hrow, (loads_lamportTs loads).symm⟩
  · intro stored
    obtain ⟨row, hrow, rfl⟩ := stored
    obtain ⟨rec, loads⟩ := h.readable row hrow
    rw [← loads_lamportTs loads]
    cases hd : row.dataType with
    | inventory =>
      exact .inventory ((h.inventory row.id _).mpr ⟨row, hrow, hd, rfl, rec, loads, rfl⟩)
    | cart => exact .cart ((h.carts row.id _).mpr ⟨row, hrow, hd, rfl, rec, loads, rfl⟩)
    | transaction => exact .transaction ((h.transactions rec).mpr ⟨row, hrow, hd, loads⟩)
    | analytics => exact .analytics ((h.analytics rec).mpr ⟨row, hrow, hd, loads⟩)

/-- A time above everything restored wins against every register. -/
theorem wins_iff (engine : SyncEngine P) (kiosk : KioskId) (t : UInt64) :
    engine.Wins kiosk t ↔ ∀ ts, engine.Carries ts → ts < t := by
  refine and_iff_left_of_imp ?_
  intro above id reg cached value wallclockTs
  have older : reg.lamportTs < t := by
    cases cached with
    | inl inventory => exact above _ (.inventory inventory)
    | inr cart => exact above _ (.cart cart)
  rw [LWWRegister.write_eq, if_pos ((LWWRegister.rank_lt_iff _ _).mpr (.inl older))]

theorem tick_wins_iff (profile : Profile) {engine : SyncEngine P}
    (h : Hydrated readPayload db engine) (kiosk : KioskId) {n : ℕ} (fits : n + 1 < 2 ^ 64) :
    ∃ t, engine.lamport.tickAfter profile n = some t ∧
      (engine.Wins kiosk t ↔ ∀ row ∈ db.records.rows, row.lamportTs.toUInt64.toNat ≤ n) := by
  have zero : engine.lamport.counter.toNat = 0 := by rw [h.lamport]; rfl
  obtain ⟨t, ht, nat⟩ := engine.lamport.tickAfter_eq profile (n := n) (by omega)
  refine ⟨t, ht, ?_⟩
  simp only [wins_iff, carries_iff h, forall_exists_index, and_imp, forall_apply_eq_imp_iff₂,
    UInt64.lt_iff_toNat_lt, nat, zero]
  constructor
  · intro all row hrow
    have := all row hrow
    omega
  · intro all row hrow
    have := all row hrow
    omega

/-- **Local writes survive a restart only over a database that never saw a Lamport timestamp.** The
clock starts from zero, so the tick after `n` others is above everything restored exactly when no
stored timestamp is above `n`; all ticks are exactly when every stored timestamp is zero. -/
theorem restart_wins_iff (profile : Profile) (readPayload : DataType → P → Except String P)
    (db : SyncDatabase P) (engine : SyncEngine P)
    (started : SyncEngine.new readPayload db = .ok engine) (kiosk : KioskId) :
    (∀ n, n + 1 < 2 ^ 64 → ∃ t, engine.lamport.tickAfter profile n = some t ∧
      (engine.Wins kiosk t ↔ ∀ row ∈ db.records.rows, row.lamportTs.toUInt64.toNat ≤ n)) ∧
    ((∀ n t, n + 1 < 2 ^ 64 → engine.lamport.tickAfter profile n = some t →
      engine.Wins kiosk t) ↔ ∀ row ∈ db.records.rows, row.lamportTs = 0) := by
  have hydrated := new_hydrated started
  refine ⟨fun n fits => tick_wins_iff profile hydrated kiosk fits, ?_⟩
  constructor
  · intro all row hrow
    obtain ⟨t, ht, wins⟩ := tick_wins_iff profile hydrated kiosk (n := 0) (by decide)
    have first := wins.mp (all 0 t (by decide) ht) row hrow
    have none : row.lamportTs.toUInt64 = 0 := by
      rw [← UInt64.toNat_inj]
      exact Nat.le_zero.mp first
    simpa using congrArg UInt64.toInt64 none
  · intro zero n t fits ht
    obtain ⟨t', ht', wins⟩ := tick_wins_iff profile hydrated kiosk fits
    obtain rfl : t' = t := Option.some.inj (ht'.symm.trans ht)
    apply wins.mpr
    intro row hrow
    rw [zero row hrow]
    exact Nat.zero_le n

/-- One stock count, written by another kiosk before the restart. -/
def stocked : SyncDatabase String :=
  .upsert .empty ⟨.inventory, "sku-1", ⟨"kiosk-2"⟩, 41, 1700000000000, "7", []⟩

theorem first_tick_loses :
    ¬ ∀ (db : SyncDatabase String) (engine : SyncEngine String) (kiosk : KioskId) (t : UInt64),
      SyncEngine.new (fun _ payload => .ok payload) db = .ok engine →
      engine.lamport.tickAfter .release 0 = some t → engine.Wins kiosk t := by
  intro h
  obtain ⟨engine, started⟩ :=
    new_ok (fun _ payload => .ok payload) stocked fun row _ => ⟨_, rfl⟩
  obtain ⟨t, ht, wins⟩ := tick_wins_iff .release (new_hydrated started) ⟨"kiosk-1"⟩ (n := 0)
    (by decide)
  have below := wins.mp (h stocked engine ⟨"kiosk-1"⟩ t started ht)
  exact absurd below (by decide)

/-- The kiosk's forty-second tick is the first one to win. -/
theorem restart_wins_after_41 :
    ∃ engine, SyncEngine.new (fun _ payload => .ok payload) stocked = .ok engine ∧
      ∃ t, engine.lamport.tickAfter .release 41 = some t ∧ engine.Wins ⟨"kiosk-1"⟩ t := by
  obtain ⟨engine, started⟩ :=
    new_ok (fun _ payload => .ok payload) stocked fun row _ => ⟨_, rfl⟩
  obtain ⟨t, ht, wins⟩ := (restart_wins_iff .release _ stocked engine started ⟨"kiosk-1"⟩).1 41
    (by decide)
  exact ⟨engine, started, t, ht, wins.mpr (by decide)⟩

end SyncDaemon.Sync
