import AstraSystem.Lib.Runs
import AstraSystem.SyncDaemon.Daemon

/-!
# What the sync loops hide from the cloud

The sync loops and the cloud flush share one dirty bit, and the loops clear it
without handing anything to a transport. A row stays in sight of `load_dirty`
until its version is handed over exactly as long as nobody clears the bit of an
unsent one.
-/

namespace SyncDaemon

open Runs Cloud Sync

variable {P : Type}

namespace Daemon

/-- The version has been handed to a transport; the mesh is never handed anything. -/
def Handed (w : Daemon P) (v : SyncRecord P) : Prop := v ∈ w.stream.filterMap Published.version?

/-- What an upsert made dirty has been handed over, or `load_dirty` returns it where its limit is
large enough. -/
def InSight (w : Daemon P) : Prop :=
  ∀ v ∈ w.owed, w.Handed v ∨ ∃ n, ∀ limit ≥ n, v ∈ w.db.loadDirty v.dataType limit

/-- The type that a step marks clean. -/
def cleans (w : Daemon P) : DaemonAction P → Option DataType
  | .advance i _ _ =>
    match (w.call i).phase with
    | .flush d _ => some d
    | _ => none
  | .markClean k => (w.run k).head?
  | _ => none

/-- A step marks a type clean only when every dirty row of the type has been handed over. -/
def CleansSent (w : Daemon P) (a : DaemonAction P) : Prop :=
  ∀ d, w.cleans a = some d → ∀ r ∈ w.db.records.rows, r.dataType = d → r.dirty = true →
    w.Handed r.toRecord

/-- Every promised version has its row, and every dirty row is a promise. -/
structure Accounted (w : Daemon P) : Prop where
  held : ∀ v ∈ w.owed, ∃ r ∈ w.db.records.rows, r.toRecord = v ∧ (r.dirty = true ∨ w.Handed v)
  owes : ∀ r ∈ w.db.records.rows, r.dirty = true → r.toRecord ∈ w.owed

variable {codec : Codec P} {cfg : CloudConfig} {w : Daemon P}

theorem accounted_start (db : SyncDatabase P) (caches : Caches P) :
    (Daemon.start db caches).Accounted := by
  constructor
  · intro v hv
    obtain ⟨r, hr, rfl⟩ := List.mem_map.mp hv
    obtain ⟨hr, dirty⟩ := List.mem_filter.mp hr
    exact ⟨r, hr, rfl, .inl dirty⟩
  · intro r hr dirty
    exact List.mem_map_of_mem (List.mem_filter.mpr ⟨hr, dirty⟩)

theorem Accounted.inSight (h : w.Accounted) : w.InSight := by
  intro v hv
  obtain ⟨r, hr, rfl, dirty | handed⟩ := h.held v hv
  · exact .inr ⟨_, fun limit hl => SyncDatabase.mem_loadDirty hl hr dirty⟩
  · exact .inl handed

/-- A step upserts a record, or marks a type clean, or leaves the records alone. -/
inductive RecordEffect (w next : Daemon P) : DaemonAction P → Prop
  | upsert (record : SyncRecord P) : RecordEffect w next (.upsert record)
  | clean (a : DaemonAction P) (d : DataType) (cleans : w.cleans a = some d)
      (owed : next.owed = w.owed) (stream : next.stream = w.stream)
      (records : next.db.records = (w.db.flush d).1.records) : RecordEffect w next a
  | other (a : DaemonAction P) (new : List (Published P)) (cleans : w.cleans a = none)
      (owed : next.owed = w.owed) (stream : next.stream = w.stream ++ new)
      (records : next.db.records = w.db.records) : RecordEffect w next a

variable (codec cfg) in
theorem step_recordEffect (w : Daemon P) (a : DaemonAction P) :
    w.RecordEffect (w.step codec cfg a) a := by
  have same : w.stream = w.stream ++ [] := (List.append_nil _).symm
  cases a with
  | upsert record => exact .upsert record
  | queueOfflinePayment p now => exact .other _ [] rfl rfl same rfl
  | flushToCloud i =>
    simp only [step]
    split <;> exact .other _ [] rfl rfl same rfl
  | advance i draw ok =>
    simp only [step]
    cases Flushing.advance_effect codec cfg draw ok ⟨w.db, w.stream, w.call i⟩ with
    | clean d rest hp hdb hs =>
      refine .clean _ d ?_ rfl hs (by rw [hdb])
      simp only [cleans, show (w.call i).phase = .flush d rest from hp]
    | mark ids hp hdb hs =>
      refine .other _ [] ?_ rfl (hs.trans same) ?_
      · simp only [cleans, show (w.call i).phase = .mark ids from hp]
      · rw [hdb, SyncDatabase.records_markOfflineFlushed]
    | other notFlush _ new hdb hs =>
      refine .other _ new ?_ rfl hs (by rw [hdb])
      cases hphase : (w.call i).phase with
      | flush d rest => exact absurd hphase (notFlush d rest)
      | _ => simp only [cleans, hphase]
  | tick k t =>
    simp only [step]
    split <;> exact .other _ [] rfl rfl same rfl
  | markClean k =>
    simp only [step]
    split
    · rename_i hk
      exact .other _ [] (by simp [cleans, hk]) rfl same rfl
    · rename_i d rest hk
      exact .clean _ d (by simp [cleans, hk]) rfl rfl rfl

theorem Accounted.upsert (h : w.Accounted) (record : SyncRecord P) :
    (w.step codec cfg (.upsert record)).Accounted := by
  simp only [step]
  constructor
  · intro v hv
    cases List.mem_append.mp hv with
    | inl earlier =>
      obtain ⟨hv, hne⟩ := List.mem_filter.mp earlier
      obtain ⟨r, hr, rfl, state⟩ := h.held v hv
      exact ⟨r, SyncDatabase.mem_upsert.mpr (.inr ⟨hr, of_decide_eq_true hne⟩), rfl, state⟩
    | inr now =>
      obtain rfl := List.mem_singleton.mp now
      exact ⟨_, SyncDatabase.mem_upsert.mpr (.inl rfl), SyncDatabase.toRecord_ofRecord v, .inl rfl⟩
  · intro r hr dirty
    obtain rfl | ⟨hr, hne⟩ := SyncDatabase.mem_upsert.mp hr
    · exact List.mem_append_right _ (by simp [SyncDatabase.toRecord_ofRecord])
    · exact List.mem_append_left _ (List.mem_filter.mpr ⟨h.owes r hr dirty, decide_eq_true hne⟩)

theorem Accounted.step (h : w.Accounted) (a : DaemonAction P) (sent : w.CleansSent a) :
    (w.step codec cfg a).Accounted := by
  have effect := w.step_recordEffect codec cfg a
  cases effect with
  | upsert record => exact h.upsert record
  | clean _ d hd howed hstream hrec =>
    have still {v : SyncRecord P} (hv : w.Handed v) : (w.step codec cfg a).Handed v := by
      unfold Handed
      rw [hstream]
      exact hv
    constructor
    · intro v hv
      obtain ⟨r, hr, rfl, state⟩ := h.held v (howed ▸ hv)
      rw [hrec]
      by_cases due : r.dataType = d ∧ r.dirty = true
      · -- the row is marked clean, and has been handed over
        refine ⟨{ r with dirty := false }, SyncDatabase.mem_flush.mpr (.inr ⟨due.1, rfl, ?_⟩), rfl,
          .inr (still (sent d hd r hr due.1 due.2))⟩
        exact due.2 ▸ hr
      · exact ⟨r, SyncDatabase.mem_flush.mpr (.inl ⟨hr, due⟩), rfl, state.imp_right still⟩
    · intro r hr dirty
      rw [hrec] at hr
      obtain ⟨hr, _⟩ | ⟨_, clean, _⟩ := SyncDatabase.mem_flush.mp hr
      · rw [howed]; exact h.owes r hr dirty
      · rw [clean] at dirty; cases dirty
  | other _ new _ howed hstream hrec =>
    constructor
    · intro v hv
      obtain ⟨r, hr, eq, state⟩ := h.held v (howed ▸ hv)
      refine ⟨r, hrec ▸ hr, eq, state.imp_right ?_⟩
      intro handed
      rw [Handed, hstream, List.filterMap_append]
      exact List.mem_append_left _ handed
    · intro r hr dirty
      rw [howed]; exact h.owes r (hrec ▸ hr) dirty

/-- A step that marks an unsent row clean puts it out of sight. -/
theorem Accounted.cleansSent (h : w.Accounted) (a : DaemonAction P)
    (after : (w.step codec cfg a).InSight) : w.CleansSent a := by
  intro d hd r hr htype dirty
  have effect := w.step_recordEffect codec cfg a
  cases effect with
  | upsert record => cases hd
  | clean _ e he howed hstream hrec =>
    obtain rfl : d = e := Option.some.inj (hd.symm.trans he)
    cases after r.toRecord (howed ▸ h.owes r hr dirty) with
    | inl handed => rwa [Handed, hstream] at handed
    | inr loaded =>
      obtain ⟨n, hn⟩ := loaded
      obtain ⟨r', hr', ht', dirty', _⟩ := SyncDatabase.mem_of_mem_loadDirty (hn n le_rfl)
      rw [hrec] at hr'
      obtain ⟨_, other⟩ | ⟨_, clean, _⟩ := SyncDatabase.mem_flush.mp hr'
      · exact absurd ⟨ht'.trans htype, dirty'⟩ other
      · rw [clean] at dirty'; cases dirty'
  | other _ _ none => rw [none] at hd; cases hd

/-! ## A tick on its own -/

/-- The dirty rows whose version no transport has been handed. -/
def unsentDirty (w : Daemon P) : Set (RecordRow P) :=
  {r | r ∈ w.db.records.rows ∧ r.dirty = true ∧ ¬ w.Handed r.toRecord}

/-- The steps of one run of a loop body. -/
def tickAlone (k : ℕ) (t : Tick) : List (DaemonAction P) :=
  .tick k t :: t.types.map fun _ => .markClean k

theorem unsentDirty_flush (w : Daemon P) (d : DataType) (run : ℕ → List DataType) (r : RecordRow P) :
    r ∈ unsentDirty { w with db := (w.db.flush d).1, run := run } ↔
      r ∈ unsentDirty w ∧ r.dataType ≠ d := by
  simp only [unsentDirty, Set.mem_ofPred_eq, SyncDatabase.mem_flush]
  constructor
  · intro h
    obtain ⟨⟨hr, other⟩ | ⟨_, clean, _⟩, dirty, unsent⟩ := h
    · exact ⟨⟨hr, dirty, unsent⟩, fun ht => other ⟨ht, dirty⟩⟩
    · rw [clean] at dirty; cases dirty
  · intro h
    obtain ⟨⟨hr, dirty, unsent⟩, hne⟩ := h
    exact ⟨.inl ⟨hr, fun due => hne due.1⟩, dirty, unsent⟩

/-- Marking the types of a run clean, one after the other, takes away their unsent rows. -/
theorem unsentDirty_markClean (k : ℕ) (types : List DataType) (hk : w.run k = types)
    (r : RecordRow P) :
    r ∈ unsentDirty (Runs.run (step codec cfg) w (types.map fun _ => .markClean k)) ↔
      r ∈ unsentDirty w ∧ r.dataType ∉ types := by
  induction types generalizing w with
  | nil => simp
  | cons d rest ih =>
    have hstep : w.step codec cfg (.markClean k) =
        { w with db := (w.db.flush d).1, run := Function.update w.run k rest } := by
      simp only [step, hk]
    rw [List.map_cons, Runs.run_cons, hstep, ih (Function.update_self ..), unsentDirty_flush,
      List.mem_cons, not_or, and_assoc]

theorem run_markClean_idle {k : ℕ} (hk : w.run k = []) (types : List DataType) :
    Runs.run (step codec cfg) w (types.map fun _ => .markClean k) = w := by
  induction types with
  | nil => rfl
  | cons d types ih =>
    have stays : w.step codec cfg (.markClean k) = w := by simp only [step, hk]
    rw [List.map_cons, Runs.run_cons, stays, ih]

/-- A tick on its own keeps what is unsent and dirty exactly when it stops before it marks anything
clean, or finds nothing unsent of its types. -/
theorem unsentDirty_tickAlone (codec : Codec P) (cfg : CloudConfig) {w : Daemon P} {k : ℕ}
    (idle : w.run k = []) (t : Tick) :
    unsentDirty (Runs.run (step codec cfg) w (tickAlone k t)) = unsentDirty w ↔
      ((t.serialize codec w.caches).2 = false ∨ ∀ r ∈ unsentDirty w, r.dataType ∉ t.types) := by
  have begun : unsentDirty (w.step codec cfg (.tick k t)) = unsentDirty w := by
    simp only [step, idle, List.isEmpty_nil, ↓reduceIte]
    rfl
  rw [tickAlone, Runs.run_cons, ← begun]
  cases ok : (t.serialize codec w.caches).2 with
  | false =>
    have hk : (w.step codec cfg (.tick k t)).run k = [] := by
      simp [step, idle, ok]
    rw [run_markClean_idle hk]
    exact iff_of_true rfl (.inl rfl)
  | true =>
    have hk : (w.step codec cfg (.tick k t)).run k = t.types := by
      simp [step, idle, ok]
    simp only [Bool.true_eq_false, false_or, Set.ext_iff, unsentDirty_markClean k t.types hk]
    exact ⟨fun h r hr => ((h r).mpr hr).2, fun h r => ⟨And.left, fun hr => ⟨hr, h r hr⟩⟩⟩

/-- **Rows stay in sight of the cloud flush exactly as long as nobody marks an unsent row clean**,
which a tick on its own does to every unsent row of its types. -/
theorem in_sight_iff (codec : Codec P) (cfg : CloudConfig) :
    (∀ (db : SyncDatabase P) (caches : Caches P) (acts : List (DaemonAction P)),
      Always (step codec cfg) InSight (.start db caches) acts ↔
        EachStep (step codec cfg) CleansSent (.start db caches) acts) ∧
    ∀ (w : Daemon P) (k : ℕ) (t : Tick), w.run k = [] →
      (unsentDirty (Runs.run (step codec cfg) w (tickAlone k t)) = unsentDirty w ↔
        ((t.serialize codec w.caches).2 = false ∨ ∀ r ∈ unsentDirty w, r.dataType ∉ t.types)) :=
  ⟨fun db caches acts => always_iff_eachStep (J := Accounted) (fun _ => Accounted.inSight)
      (fun _ a h => h.step a) (fun _ a h => h.cleansSent a) (accounted_start db caches) acts,
    fun _ _ t idle => unsentDirty_tickAlone codec cfg idle t⟩

/-- One stock count in an otherwise empty daemon. -/
def oneCount : DaemonAction String := .upsert ⟨.inventory, "sku-1", ⟨"k1"⟩, 1, 1, "10", []⟩

/-- A tick of the immediate loop leaves it dirty no longer, though nobody was sent it. -/
theorem tick_loses_count :
    let w := (Daemon.start .empty .empty).step plainCodec defaultCloud oneCount
    unsentDirty (Runs.run (step plainCodec defaultCloud) w (tickAlone 0 .immediateSync)) ≠
      unsentDirty w := by
  intro w same
  cases ((in_sight_iff plainCodec defaultCloud).2 w 0 .immediateSync rfl).mp same with
  | inl stops => exact absurd stops (by decide)
  | inr none =>
    exact none (.ofRecord ⟨.inventory, "sku-1", ⟨"k1"⟩, 1, 1, "10", []⟩)
      ⟨by decide, rfl, List.not_mem_nil⟩ (by decide)

theorem count_out_of_sight :
    ¬ Always (step plainCodec defaultCloud) InSight (.start .empty .empty)
      (oneCount :: tickAlone 0 .immediateSync) := by
  intro h
  cases always_last h ⟨.inventory, "sku-1", ⟨"k1"⟩, 1, 1, "10", []⟩ (by decide) with
  | inl handed => exact absurd handed List.not_mem_nil
  | inr loaded =>
    obtain ⟨n, hn⟩ := loaded
    obtain ⟨r, hr, _, dirty, _⟩ := SyncDatabase.mem_of_mem_loadDirty (hn n le_rfl)
    revert r
    decide

end Daemon

end SyncDaemon
