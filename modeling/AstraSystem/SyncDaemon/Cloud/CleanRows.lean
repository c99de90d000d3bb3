import AstraSystem.Lib.Runs
import AstraSystem.SyncDaemon.Daemon

/-!
# What the cloud flush marks clean

`flush_to_cloud` loads at most 1000 rows of a type, skips records over the size
limit, and then marks every dirty row of the type clean. What it marks clean has
been published exactly where it made a message of sendable size from each row
that is dirty by then.
-/

namespace SyncDaemon.Cloud

open Runs

variable {P : Type}

/-- Messages the call has made and not yet published. -/
def Phase.batch : Phase P → List (Message (SyncRecord P))
  | .fill _ _ _ batch | .publish _ _ _ batch => batch
  | _ => []

/-- The types the call may still mark clean, and the one it failed at. -/
def Phase.remaining : Phase P → List DataType
  | .load types => types
  | .fill d rest _ _ | .publish d rest _ _ | .flush d rest => d :: rest
  | .failed (some d) => [d]
  | _ => []

def Sendable (cfg : CloudConfig) (c : FlushCall P) (m : Message (SyncRecord P)) : Prop :=
  m ∈ c.prepared ∧ m.bytes.length ≤ cfg.maxMsgSizeBytes

/-- The messages of sendable size are those acknowledged and those in the batch, and a type is
marked clean once. -/
structure Tracked (cfg : CloudConfig) (c : FlushCall P) : Prop where
  acked : ∀ m ∈ c.acked, Sendable cfg c m
  batch : ∀ m ∈ c.phase.batch, Sendable cfg c m
  pending : (∃ d, c.phase = .failed d) ∨
    ∀ m, Sendable cfg c m → m ∈ c.acked ∨ m ∈ c.phase.batch
  fresh : c.phase.remaining.Nodup ∧ ∀ d ∈ c.phase.remaining, d ∉ c.cleaned

variable {codec : Codec P} {cfg : CloudConfig} {c : FlushCall P}

theorem tracked_idle : Tracked cfg (.idle : FlushCall P) := by
  constructor <;> simp [FlushCall.idle, Phase.batch, Phase.remaining, Sendable]

theorem tracked_start : Tracked cfg (.start : FlushCall P) := by
  constructor <;> simp [FlushCall.start, Phase.batch, Phase.remaining, Sendable]

/-- Going on with the same batch and no new type. -/
theorem Tracked.goto (h : Tracked cfg c) {phase : Phase P} (running : ∀ d, c.phase ≠ .failed d)
    (hb : phase.batch = c.phase.batch) (hr : phase.remaining.Sublist c.phase.remaining) :
    Tracked cfg { c with phase := phase } where
  acked := h.acked
  batch m hm := h.batch m (hb ▸ hm)
  pending := by
    cases h.pending with
    | inl failed =>
      obtain ⟨d, hd⟩ := failed
      exact absurd hd (running d)
    | inr all => exact .inr fun m hm => hb ▸ all m hm
  fresh := ⟨hr.nodup h.fresh.1, fun d hd => h.fresh.2 d (hr.subset hd)⟩

theorem Tracked.goto_tokens (h : Tracked cfg c) {phase : Phase P}
    (at_tokens : c.phase.atTokens = true) (next_tokens : phase.afterRecords = true) :
    Tracked cfg { c with phase := phase } := by
  have batch : phase.batch = c.phase.batch := by
    cases hc : c.phase <;> cases phase <;>
      simp_all [Phase.atTokens, Phase.afterRecords, Phase.batch]
  have none_left : phase.remaining = [] := by
    cases phase <;> simp_all [Phase.afterRecords, Phase.remaining]
  refine h.goto ?_ batch (none_left ▸ List.nil_sublist _)
  intro d hd
  simp [Phase.atTokens, hd] at at_tokens

/-- A call that fails keeps the types it has not marked clean that way. -/
theorem Tracked.fail (h : Tracked cfg c) {during : Option DataType}
    (hd : ∀ d, during = some d → d ∈ c.phase.remaining) :
    Tracked cfg { c with phase := .failed during } where
  acked := h.acked
  batch m hm := by cases hm
  pending := .inl ⟨during, rfl⟩
  fresh := by
    cases during with
    | none => exact ⟨.nil, fun d hd => by cases hd⟩
    | some d =>
      refine ⟨List.nodup_singleton d, ?_⟩
      intro e he
      rw [List.mem_singleton.mp he]
      exact h.fresh.2 d (hd d rfl)

/-- A message has been made; it joins the batch if its size allows. -/
theorem Tracked.make (h : Tracked cfg c) {d : DataType} {rest : List DataType}
    {rec : SyncRecord P} {todo : List (SyncRecord P)} {batch new : List (Message (SyncRecord P))}
    (hphase : c.phase = .fill d rest (rec :: todo) batch) (m : Message (SyncRecord P))
    {phase : Phase P} (hb : phase.batch = batch ++ new) (hr : phase.remaining = d :: rest)
    (hnew : ∀ x, x ∈ new ↔ x = m ∧ m.bytes.length ≤ cfg.maxMsgSizeBytes) :
    Tracked cfg { c with phase := phase, prepared := c.prepared ++ [m] } := by
  have old {x : Message (SyncRecord P)} (hx : Sendable cfg c x) :
      Sendable cfg { c with phase := phase, prepared := c.prepared ++ [m] } x :=
    ⟨List.mem_append_left _ hx.1, hx.2⟩
  refine ⟨fun x hx => old (h.acked x hx), ?_, .inr ?_, ?_⟩
  · intro x hx
    rw [hb] at hx
    cases List.mem_append.mp hx with
    | inl waiting => exact old (h.batch x (by rw [hphase]; exact waiting))
    | inr made =>
      obtain ⟨rfl, fits⟩ := (hnew x).mp made
      exact ⟨by simp, fits⟩
  · intro x hx
    cases List.mem_append.mp hx.1 with
    | inl earlier =>
      cases h.pending with
      | inl failed =>
        obtain ⟨e, he⟩ := failed
        rw [hphase] at he; cases he
      | inr all =>
        apply (all x ⟨earlier, hx.2⟩).imp_right
        intro waiting
        rw [hphase] at waiting
        rw [hb]
        exact List.mem_append_left _ waiting
    | inr made =>
      obtain rfl := List.mem_singleton.mp made
      right
      rw [hb]
      exact List.mem_append_right _ ((hnew x).mpr ⟨rfl, hx.2⟩)
  · have same : phase.remaining = c.phase.remaining := by rw [hr, hphase]; rfl
    rw [show ({ c with phase := phase, prepared := c.prepared ++ [m] } : FlushCall P).phase = phase
      from rfl, same]
    exact h.fresh

theorem Tracked.take {s : Flushing P} (h : Tracked cfg s.call) {d : DataType}
    {rest : List DataType} {rec : SyncRecord P} {todo : List (SyncRecord P)}
    {batch : List (Message (SyncRecord P))} (hphase : s.call.phase = .fill d rest (rec :: todo) batch)
    (draw : ℕ) : Tracked cfg (s.take codec cfg draw d rest rec todo batch).call := by
  unfold Flushing.take
  split
  · exact h.fail fun e he => by cases he; simp [hphase, Phase.remaining]
  · rename_i m _
    split
    · rename_i large
      have new (x : Message (SyncRecord P)) :
          x ∈ [] ↔ x = m ∧ m.bytes.length ≤ cfg.maxMsgSizeBytes := by
        simp [large]
      exact h.make hphase m (List.append_nil batch).symm rfl new
    · rename_i fits
      have new (x : Message (SyncRecord P)) :
          x ∈ [m] ↔ x = m ∧ m.bytes.length ≤ cfg.maxMsgSizeBytes := by
        simp [Nat.le_of_not_lt fits]
      split
      · exact h.make hphase m rfl rfl new
      · exact h.make hphase m rfl rfl new

theorem Tracked.acknowledge {s : Flushing P} (h : Tracked cfg s.call) {d : DataType}
    {rest : List DataType} {todo : List (SyncRecord P)} {m : Message (SyncRecord P)}
    {batch : List (Message (SyncRecord P))}
    (hphase : s.call.phase = .publish d rest todo (m :: batch)) :
    Tracked cfg { s.call with
      phase := .publish d rest todo batch
      acked := s.call.acked ++ [m] } := by
  have hb : s.call.phase.batch = m :: batch := by rw [hphase]; rfl
  refine ⟨?_, ?_, .inr ?_, ?_⟩
  · intro x hx
    cases List.mem_append.mp hx with
    | inl earlier => exact h.acked x earlier
    | inr now => exact h.batch x (by simp [hb, List.mem_singleton.mp now])
  · intro x hx
    exact h.batch x (by rw [hb]; exact List.mem_cons_of_mem m hx)
  · intro x hx
    cases h.pending with
    | inl failed =>
      obtain ⟨e, he⟩ := failed
      rw [hphase] at he; cases he
    | inr all =>
      cases all x hx with
      | inl earlier => exact .inl (List.mem_append_left _ earlier)
      | inr waiting =>
        rw [hb] at waiting
        obtain rfl | waiting := List.mem_cons.mp waiting
        · exact .inl (by simp)
        · exact .inr waiting
  · have fresh := h.fresh
    rw [hphase] at fresh
    exact fresh

/-- A type that is marked clean was not marked before and is not marked again. -/
theorem Tracked.clean {s : Flushing P} (h : Tracked cfg s.call) {d : DataType}
    {rest : List DataType} (hphase : s.call.phase = .flush d rest) :
    Tracked cfg { s.call with phase := .load rest, cleaned := s.call.cleaned ++ [d] } := by
  have fresh := h.fresh
  simp only [hphase, Phase.remaining, List.nodup_cons, List.mem_cons, forall_eq_or_imp] at fresh
  refine ⟨h.acked, by simp [Phase.batch], .inr ?_, fresh.1.2, ?_⟩
  · intro x hx
    cases h.pending with
    | inl failed =>
      obtain ⟨e, he⟩ := failed
      rw [hphase] at he; cases he
    | inr all => simpa [hphase, Phase.batch] using all x hx
  · intro e he
    simp only [List.mem_append, List.mem_singleton, not_or]
    exact ⟨fresh.2.2 e he, fun heq => fresh.1.1 (heq ▸ he)⟩

theorem Tracked.advance {s : Flushing P} (h : Tracked cfg s.call) (draw : ℕ) (ok : Bool) :
    Tracked cfg (s.advance codec cfg draw ok).call := by
  have step := Flushing.advance_advances codec cfg draw ok s
  generalize s.advance codec cfg draw ok = next at step ⊢
  cases step with
  | ended => exact h
  | take phase => exact h.take phase draw
  | skip phase | load phase | send phase | sent phase | refill phase | mark phase =>
    exact h.goto (by simp [phase]) (by simp [phase, Phase.batch]) (by simp [phase, Phase.remaining])
  | publish phase => exact h.acknowledge phase
  | refused phase _ => exact h.fail fun e he => by cases he; simp [phase, Phase.remaining]
  | flush phase => exact h.clean phase
  | tokens at_tokens next_tokens => exact h.goto_tokens at_tokens next_tokens
  | token phase => exact h.goto_tokens (by rw [phase]; rfl) rfl
  | failed => exact h.fail (by simp)

/-! ## Runs of the daemon -/

variable {w : Daemon P}

theorem tracked_step (h : ∀ i, Tracked cfg (w.call i)) (a : DaemonAction P) (i : ℕ) :
    Tracked cfg ((w.step codec cfg a).call i) := by
  cases a with
  | flushToCloud j =>
    simp only [Daemon.step]
    split
    · exact h i
    · by_cases hi : i = j
      · simpa only [hi, Function.update_self] using tracked_start
      · simpa only [Function.update_of_ne hi] using h i
  | advance j draw ok =>
    simp only [Daemon.step]
    by_cases hi : i = j
    · simpa only [hi, Function.update_self] using
        (h j).advance (s := ⟨w.db, w.stream, w.call j⟩) draw ok
    · simpa only [Function.update_of_ne hi] using h i
  | markClean k =>
    simp only [Daemon.step]
    split <;> exact h i
  | tick k t =>
    simp only [Daemon.step]
    split <;> exact h i
  | upsert | queueOfflinePayment => exact h i

/-- The rows a call turns clean hold versions which that call has published. -/
def CleanedPublished (codec : Codec P) (cfg : CloudConfig) (w : Daemon P) : DaemonAction P → Prop
  | .advance i draw ok =>
    ∀ r ∈ w.db.records.rows, r.dirty = true →
      { r with dirty := false } ∈ (w.step codec cfg (.advance i draw ok)).db.records.rows →
      ∃ m ∈ (w.call i).acked, m.source = r.toRecord
  | _ => True

/-- A call that is about to mark a type clean has made a message of sendable size from the current
version of every row of the type that is dirty. -/
def Covered (cfg : CloudConfig) (w : Daemon P) : DaemonAction P → Prop
  | .advance i _ _ =>
    ∀ d rest, (w.call i).phase = .flush d rest →
      ∀ r ∈ w.db.records.rows, r.dataType = d → r.dirty = true →
        ∃ m, Sendable cfg (w.call i) m ∧ m.source = r.toRecord
  | _ => True

/-- A call that failed at a data type has not marked the type clean. -/
def FailedUncleaned (w : Daemon P) : Prop :=
  ∀ i d, (w.call i).phase = .failed (some d) → d ∉ (w.call i).cleaned

theorem cleanedPublished_iff (h : ∀ i, Tracked cfg (w.call i)) (a : DaemonAction P) :
    CleanedPublished codec cfg w a ↔ Covered cfg w a := by
  cases a with
  | advance i draw ok =>
    have effect := Flushing.advance_effect codec cfg draw ok ⟨w.db, w.stream, w.call i⟩
    simp only [CleanedPublished, Covered, Daemon.step]
    constructor
    · intro published d rest hphase r hr hd dirty
      have clean : { r with dirty := false } ∈ (w.db.flush d).1.records.rows := by
        refine SyncDatabase.mem_flush.mpr (.inr ⟨hd, rfl, ?_⟩)
        exact dirty ▸ hr
      cases effect with
      | clean d' rest' hp hdb _ =>
        cases hphase.symm.trans hp
        obtain ⟨m, hm, eq⟩ := published r hr dirty (hdb ▸ clean)
        exact ⟨m, (h i).acked m hm, eq⟩
      | mark ids hp => cases hphase.symm.trans hp
      | other notFlush => exact absurd hphase (notFlush d rest)
    · intro covered r hr dirty clean
      -- a row with this id is dirty, so no clean one was there before
      have before : { r with dirty := false } ∉ w.db.records.rows := by
        intro hc
        have eq := w.db.records.unique hc hr rfl
        rw [← eq] at dirty
        cases dirty
      cases effect with
      | clean d rest hp hdb _ =>
        rw [hdb, SyncDatabase.mem_flush] at clean
        cases clean with
        | inl kept => exact absurd kept.1 before
        | inr cleaned =>
          obtain ⟨m, sendable, eq⟩ := covered d rest hp r hr cleaned.1 dirty
          cases (h i).pending with
          | inl failed =>
            obtain ⟨e, he⟩ := failed
            cases he.symm.trans hp
          | inr hall =>
            have done := hall m sendable
            rw [show (w.call i).phase = .flush d rest from hp] at done
            exact ⟨m, done.resolve_right List.not_mem_nil, eq⟩
      | mark ids hp hdb _ =>
        rw [hdb, SyncDatabase.records_markOfflineFlushed] at clean
        exact absurd clean before
      | other _ _ _ hdb _ =>
        rw [hdb] at clean
        exact absurd clean before
  | _ => exact Iff.rfl

/-- **Every call publishes what it marks clean exactly when it covers the rows that are dirty by
then**; and a call that fails at a type does not mark it clean. -/
theorem cleaned_published_iff (codec : Codec P) (cfg : CloudConfig) (db : SyncDatabase P)
    (caches : Sync.Caches P) (acts : List (DaemonAction P)) :
    (EachStep (Daemon.step codec cfg) (CleanedPublished codec cfg) (.start db caches) acts ↔
      EachStep (Daemon.step codec cfg) (Covered cfg) (.start db caches) acts) ∧
    Always (Daemon.step codec cfg) FailedUncleaned (.start db caches) acts := by
  have start : ∀ i, Tracked cfg ((Daemon.start db caches).call i) := fun _ => tracked_idle
  have step (w : Daemon P) (a : DaemonAction P) (h : ∀ i, Tracked cfg (w.call i)) :
      ∀ i, Tracked cfg ((w.step codec cfg a).call i) := tracked_step h a
  refine ⟨eachStep_congr step (fun w a h => cleanedPublished_iff h a) start acts, ?_⟩
  apply always_inv step _ start acts
  intro w h i d hphase
  have fresh := (h i).fresh.2
  rw [hphase] at fresh
  exact fresh d (by simp [Phase.remaining])

/-- A stock count of one product, `n` its Lamport timestamp. -/
def stockCount (n : UInt64) (payload : String) : SyncRecord String :=
  ⟨.inventory, "sku-1", ⟨"k1"⟩, n, n, payload, []⟩

/-- A call loads a count, and a second one comes in while the first is being published. -/
def overtaken : List (DaemonAction String) :=
  [.upsert (stockCount 1 "10"), .flushToCloud 0, .advance 0 0 true, .upsert (stockCount 2 "20"),
    .advance 0 0 true, .advance 0 0 true, .advance 0 0 true, .advance 0 0 true, .advance 0 0 true]

/-- The call then marks the second count clean as well. -/
theorem overtaken_unpublished :
    ¬ EachStep (Daemon.step plainCodec defaultCloud) (CleanedPublished plainCodec defaultCloud)
      (.start .empty .empty) (overtaken ++ [.advance 0 0 true]) := by
  intro h
  obtain ⟨m, hm, eq⟩ := eachStep_last h (.ofRecord (stockCount 2 "20")) (by decide +kernel) rfl
    (by decide +kernel)
  revert m
  decide +kernel

end SyncDaemon.Cloud
