import AstraSystem.Lib.Bytes
import AstraSystem.Lib.Runs
import AstraSystem.SyncDaemon.Cloud.FlushToCloud
import AstraSystem.SyncDaemon.DifferentialPrivacy

/-!
# Noise drawn again

`flush_to_cloud` draws noise for a sales aggregate each time it loads it. An
attempt that fails in the analytics phase leaves every analytics row dirty, also
those it has published by then, and the next attempt draws for these again. A
publish sends its message before it waits for the acknowledgement, so that
JetStream may have stored a message that the attempt takes for lost.
-/

namespace SyncDaemon.Cloud

open DifferentialPrivacy (AggregateSerde Noise)

variable {P : Type}

/-- What comes of a publish. -/
inductive Outcome where
  | acked
  /-- JetStream has stored the message, and its acknowledgement is lost. -/
  | unacked
  | refused
  deriving DecidableEq, Repr

/-- The message that the step stores, acknowledged or not. -/
def Outcome.stores : Outcome → Phase P → Option (Message (SyncRecord P))
  | .acked, .publish _ _ _ (m :: _) | .unacked, .publish _ _ _ (m :: _) => some m
  | _, _ => none

/-- An attempt, and the messages that JetStream has stored. -/
structure Attempts (P : Type) extends Flushing P where
  stored : List (Message (SyncRecord P))

/-- A step of one attempt after another. -/
inductive Attempt where
  | start
  | advance (draw : ℕ) (outcome : Outcome)

def attemptStep (codec : Codec P) (cfg : CloudConfig) (s : Attempts P) : Attempt → Attempts P
  | .start => if s.call.isRunning then s else { s with call := .start }
  | .advance draw outcome =>
    ⟨s.toFlushing.advance codec cfg draw (outcome = .acked),
      s.stored ++ (outcome.stores s.call.phase).toList⟩

/-- Before the first attempt on a database. -/
def beforeAttempts (db : SyncDatabase P) : Attempts P := ⟨⟨db, [], .idle⟩, []⟩

section
variable (noisy : P → Bool)

/-- An analytics record whose payload gets noise. -/
def Noised (v : SyncRecord P) : Bool := decide (v.dataType = .analytics) && noisy v.payload

/-- The stored messages that carry noise. -/
def noisedMessages (s : Attempts P) : List (Message (SyncRecord P)) :=
  s.stored.filter fun m => Noised noisy m.source

/-- All published copies of one record are the same. -/
def OneDraw (s : Attempts P) : Prop :=
  ∀ m ∈ noisedMessages noisy s, ∀ m' ∈ noisedMessages noisy s,
    m.source.id = m'.source.id → m.bytes = m'.bytes

instance (s : Attempts P) : Decidable (OneDraw noisy s) :=
  inferInstanceAs (Decidable (∀ m ∈ noisedMessages noisy s, ∀ m' ∈ noisedMessages noisy s,
    m.source.id = m'.source.id → m.bytes = m'.bytes))

/-- The attempt fails in the analytics phase, although JetStream has stored a message of it that
carries noise: an acknowledged one, or the one whose acknowledgement is lost. -/
def FailsAfterDraw (codec : Codec P) (cfg : CloudConfig) (s : Attempts P) : Attempt → Bool
  | .start => false
  | .advance draw outcome =>
    match s.call.phase with
    | .publish .analytics _ _ (m :: _) =>
      outcome ≠ .acked && ((s.call.acked.any fun m => Noised noisy m.source) ||
        outcome = .unacked && Noised noisy m.source)
    | .fill .analytics _ (rec :: _) _ =>
      (prepare codec cfg draw .analytics rec).isNone &&
        s.call.acked.any fun m => Noised noisy m.source
    | _ => false

end

/-! ## What a run keeps -/

/-- The type an attempt is at work on. -/
def Phase.working : Phase P → Option DataType
  | .fill d _ _ _ | .publish d _ _ _ | .flush d _ => some d
  | _ => none

/-- The loaded records it has not published or skipped yet. -/
def Phase.queue : Phase P → List (SyncRecord P)
  | .fill _ _ todo batch | .publish _ _ todo batch => (batch.map fun m => m.source) ++ todo
  | _ => []

/-- No record has been stored twice, and none that has been is waiting. -/
structure Spent (noisy : P → Bool) (s : Attempts P) : Prop where
  once : ((noisedMessages noisy s).map fun m => m.source.id).Nodup
  distinct : (s.call.phase.queue.map SyncRecord.id).Nodup
  waiting : ∀ v ∈ s.call.phase.queue, s.call.phase.working = some v.dataType ∧
    (∀ r ∈ s.db.records.rows, r.id = v.id → r.dataType = v.dataType) ∧
    ∀ m ∈ noisedMessages noisy s, m.source.id ≠ v.id
  /-- What is published and still dirty was published by this very attempt. -/
  dirty : ∀ m ∈ noisedMessages noisy s, ∀ r ∈ s.db.records.rows, r.dirty = true →
    r.id = m.source.id → r.dataType = .analytics ∧ s.call.phase.working = some .analytics ∧
      m ∈ s.call.acked

/-- No row of a record that is published with noise is still dirty. -/
def NoneDirty (noisy : P → Bool) (s : Attempts P) : Prop :=
  ∀ m ∈ noisedMessages noisy s, ∀ r ∈ s.db.records.rows, r.dirty = true → r.id ≠ m.source.id

variable {noisy : P → Bool} {codec : Codec P} {cfg : CloudConfig} {s : Attempts P}

theorem mem_noisedMessages (m : Message (SyncRecord P)) :
    m ∈ noisedMessages noisy s ↔ m ∈ s.stored ∧ Noised noisy m.source = true :=
  List.mem_filter

theorem dataType_of_noised {m : Message (SyncRecord P)} (h : m ∈ noisedMessages noisy s) :
    m.source.dataType = .analytics := by
  have noised := ((mem_noisedMessages m).mp h).2
  simp only [Noised, Bool.and_eq_true, decide_eq_true_eq] at noised
  exact noised.1

theorem prepare_source {draw : ℕ} {d : DataType} {rec : SyncRecord P}
    {m : Message (SyncRecord P)} (h : prepare codec cfg draw d rec = some m) : m.source = rec := by
  have made {payload : Option P}
      (h : (payload.bind fun p => (codec.recordToVec { rec with payload := p }).bind fun json =>
        some (⟨"astra." ++ cfg.networkName ++ "." ++ d.asStr, json, rec⟩ :
          Message (SyncRecord P))) = some m) : m.source = rec := by
    obtain ⟨p, _, h⟩ := Option.bind_eq_some_iff.mp h
    obtain ⟨json, _, h⟩ := Option.bind_eq_some_iff.mp h
    cases h
    rfl
  unfold prepare at h
  split at h
  · exact made h
  · exact made h

theorem not_working {phase : Phase P} (h : phase.atTokens = true) :
    phase.working ≠ some .analytics := by
  cases phase <;> simp_all [Phase.atTokens, Phase.working]

theorem queue_afterRecords {phase : Phase P} (h : phase.afterRecords = true) :
    phase.queue = [] := by
  cases phase <;> simp_all [Phase.afterRecords, Phase.queue]

namespace Spent

theorem oneDraw (h : Spent noisy s) : OneDraw noisy s := by
  intro m hm m' hm' same
  rw [List.inj_on_of_nodup_map h.once hm hm' same]

theorem noneDirty (h : Spent noisy s) (idle : s.call.phase.working ≠ some .analytics) :
    NoneDirty noisy s := by
  intro m hm r hr dirty eq
  exact idle (h.dirty m hm r hr dirty eq).2.1

theorem noneDirty_of_acked (h : Spent noisy s)
    (none : (s.call.acked.any fun m => Noised noisy m.source) = false) : NoneDirty noisy s := by
  intro m hm r hr dirty eq
  have acked := (h.dirty m hm r hr dirty eq).2.2
  have noised := ((mem_noisedMessages m).mp hm).2
  exact absurd noised (by simpa using List.any_eq_false.mp none m acked)

/-- Going on with the same type, and at most fewer records. -/
theorem go (h : Spent noisy s) (call : FlushCall P) (acked : call.acked = s.call.acked)
    (working : call.phase.working = s.call.phase.working)
    (queue : call.phase.queue.Sublist s.call.phase.queue) :
    Spent noisy { s with call := call } where
  once := h.once
  distinct := h.distinct.sublist (queue.map SyncRecord.id)
  waiting v hv := by
    rw [working]
    exact h.waiting v (queue.subset hv)
  dirty m hm r hr dirty eq := by
    rw [working, acked]
    exact h.dirty m hm r hr dirty eq

/-- Stopping, with nothing published that another attempt would load. -/
theorem stop (h : Spent noisy s) (clean : NoneDirty noisy s) (call : FlushCall P)
    (queue : call.phase.queue = []) {stream : List (Published P)} :
    Spent noisy ⟨⟨s.db, stream, call⟩, s.stored⟩ where
  once := h.once
  distinct := by simp [queue]
  waiting v hv := by simp [queue] at hv
  dirty m hm r hr dirty eq := absurd eq (clean m hm r hr dirty)

theorem load (h : Spent noisy s) {d : DataType} {types rest : List DataType}
    (phase : s.call.phase = .load types) :
    Spent noisy ⟨s.toFlushing.goto (.fill d rest (s.db.loadDirty d 1000) []), s.stored⟩ where
  once := h.once
  distinct := s.db.nodup_loadDirty d 1000
  waiting v hv := by
    obtain ⟨r, hr, hd, dirty, rfl⟩ := SyncDatabase.mem_of_mem_loadDirty hv
    refine ⟨congrArg some hd.symm, ?_, ?_⟩
    · intro r' hr' same
      rw [s.db.records.unique hr' hr same]
      rfl
    · intro m hm eq
      exact h.noneDirty (by simp [phase, Phase.working]) m hm r hr dirty eq.symm
  dirty m hm r hr dirty eq :=
    absurd eq (h.noneDirty (by simp [phase, Phase.working]) m hm r hr dirty)

/-- A record joins the batch, or is skipped. -/
theorem take (h : Spent noisy s) {d : DataType} {rest : List DataType} {rec : SyncRecord P}
    {todo : List (SyncRecord P)} {batch : List (Message (SyncRecord P))}
    (phase : s.call.phase = .fill d rest (rec :: todo) batch) {draw : ℕ}
    (fails : prepare codec cfg draw d rec = none → NoneDirty noisy s) :
    Spent noisy ⟨s.toFlushing.take codec cfg draw d rest rec todo batch, s.stored⟩ := by
  have queue : s.call.phase.queue = (batch.map fun m => m.source) ++ rec :: todo := by
    rw [phase]
    rfl
  have working : s.call.phase.working = some d := by
    rw [phase]
    rfl
  unfold Flushing.take
  cases hm : prepare codec cfg draw d rec with
  | none => exact h.stop (fails hm) _ rfl
  | some m =>
    have source := prepare_source hm
    have joined : ((batch ++ [m]).map fun m => m.source) ++ todo = s.call.phase.queue := by
      rw [queue, List.map_append, List.map_singleton, source, List.append_assoc]
      rfl
    have made (phase : Phase P) (here : phase.working = some d)
        (queue : phase.queue.Sublist s.call.phase.queue) : Spent noisy
          { s with call := { s.call with phase := phase, prepared := s.call.prepared ++ [m] } } :=
      h.go _ rfl (here.trans working.symm) queue
    simp only
    split
    · apply made _ rfl
      rw [queue]
      exact (List.Sublist.refl _).append (List.sublist_cons_self rec todo)
    · split
      · exact made _ rfl (joined ▸ List.Sublist.refl _)
      · exact made _ rfl (joined ▸ List.Sublist.refl _)

theorem publish (h : Spent noisy s) {d : DataType} {rest : List DataType}
    {todo : List (SyncRecord P)} {m : Message (SyncRecord P)}
    {batch : List (Message (SyncRecord P))} (phase : s.call.phase = .publish d rest todo (m :: batch))
    {call : FlushCall P} (next : call.phase = .publish d rest todo batch)
    (acked : call.acked = s.call.acked ++ [m]) (stream : List (Published P)) :
    Spent noisy ⟨⟨s.db, stream, call⟩, s.stored ++ [m]⟩ := by
  have queue : s.call.phase.queue = m.source :: ((batch.map fun m => m.source) ++ todo) := by
    rw [phase]
    rfl
  have later : call.phase.queue = (batch.map fun m => m.source) ++ todo := by
    rw [next]
    rfl
  have working : call.phase.working = s.call.phase.working := by
    rw [phase, next]
    rfl
  have distinct := h.distinct
  rw [queue, List.map_cons, List.nodup_cons] at distinct
  obtain ⟨type, rows, fresh⟩ := h.waiting m.source (by rw [queue]; exact List.mem_cons_self)
  have grown : noisedMessages noisy ⟨⟨s.db, stream, call⟩, s.stored ++ [m]⟩ =
      noisedMessages noisy s ++ [m].filter fun m => Noised noisy m.source := List.filter_append ..
  have mem (x : Message (SyncRecord P))
      (hx : x ∈ noisedMessages noisy ⟨⟨s.db, stream, call⟩, s.stored ++ [m]⟩) :
      x ∈ noisedMessages noisy s ∨ x = m := by
    rw [grown, List.mem_append] at hx
    exact hx.imp_right fun now => List.mem_singleton.mp (List.mem_filter.mp now).1
  constructor
  · rw [grown, List.map_append]
    refine List.nodup_append.mpr ⟨h.once, ?_, ?_⟩
    · exact (List.nodup_singleton m.source.id).sublist (List.filter_sublist.map _)
    · intro v hv w hw eq
      obtain ⟨x, hx, rfl⟩ := List.mem_map.mp hv
      obtain ⟨y, hy, rfl⟩ := List.mem_map.mp hw
      obtain rfl : y = m := by simpa using (List.mem_filter.mp hy).1
      exact fresh x hx eq
  · rw [later]
    exact distinct.2
  · intro v hv
    rw [later] at hv
    obtain ⟨type', rows', fresh'⟩ := h.waiting v (by rw [queue]; exact List.mem_cons_of_mem _ hv)
    refine ⟨working.trans type', rows', ?_⟩
    intro x hx
    cases mem x hx with
    | inl old => exact fresh' x old
    | inr now =>
      intro eq
      exact distinct.1 (List.mem_map.mpr ⟨v, hv, by rw [← eq, now]⟩)
  · intro x hx r hr dirty eq
    simp only [working, acked]
    cases mem x hx with
    | inl old =>
      obtain ⟨row, analytics, acked⟩ := h.dirty x old r hr dirty eq
      exact ⟨row, analytics, List.mem_append_left _ acked⟩
    | inr now =>
      subst now
      have analytics := dataType_of_noised hx
      exact ⟨(rows r hr eq).trans analytics, type.trans (congrArg some analytics),
        List.mem_append_right _ (List.mem_singleton_self x)⟩

/-- A message without noise is stored, and the attempt stops. -/
theorem stored (h : Spent noisy s) {m : Message (SyncRecord P)}
    (plain : Noised noisy m.source = false) : Spent noisy { s with stored := s.stored ++ [m] } := by
  have same : noisedMessages noisy { s with stored := s.stored ++ [m] } = noisedMessages noisy s := by
    simp [noisedMessages, List.filter_append, plain]
  constructor
  · rw [same]
    exact h.once
  · exact h.distinct
  · rw [same]
    exact h.waiting
  · rw [same]
    exact h.dirty

theorem mark (h : Spent noisy s) (clean : NoneDirty noisy s) (ids : List String)
    {call : FlushCall P} (queue : call.phase.queue = []) :
    Spent noisy { s with db := (s.db.markOfflineFlushed ids).1, call := call } where
  once := h.once
  distinct := by simp [queue]
  waiting v hv := by simp [queue] at hv
  dirty m hm r hr dirty eq := by
    rw [SyncDatabase.records_markOfflineFlushed] at hr
    exact absurd eq (clean m hm r hr dirty)

/-- Marking a type clean leaves no dirty row of it, and other types carry no noise. -/
theorem clean (h : Spent noisy s) {d : DataType} {rest : List DataType}
    (phase : s.call.phase = .flush d rest) {call : FlushCall P} (queue : call.phase.queue = []) :
    Spent noisy { s with db := (s.db.flush d).1, call := call } where
  once := h.once
  distinct := by simp [queue]
  waiting v hv := by simp [queue] at hv
  dirty m hm r hr dirty eq := by
    exfalso
    cases SyncDatabase.mem_flush.mp hr with
    | inl kept =>
      obtain ⟨type, working, _⟩ := h.dirty m hm r kept.1 dirty eq
      rw [phase] at working
      exact kept.2 ⟨type.trans (Option.some.inj working).symm, dirty⟩
    | inr cleaned => rw [cleaned.2.1] at dirty; cases dirty

/-- The attempt stops in the phase of a type. -/
theorem fail (h : Spent noisy s) {d : DataType} (working : s.call.phase.working = some d)
    (clean : d = .analytics → NoneDirty noisy s) :
    Spent noisy ⟨s.toFlushing.goto (.failed (some d)), s.stored⟩ := by
  refine h.stop ?_ _ rfl
  by_cases hd : d = .analytics
  · exact clean hd
  · exact h.noneDirty (by simpa [working] using hd)

/-- The next message of a batch is published. -/
theorem advance_publish (h : Spent noisy s) {d : DataType} {rest : List DataType}
    {todo : List (SyncRecord P)} {m : Message (SyncRecord P)}
    {batch : List (Message (SyncRecord P))} (phase : s.call.phase = .publish d rest todo (m :: batch))
    {draw : ℕ} {outcome : Outcome}
    (meets : FailsAfterDraw noisy codec cfg s (.advance draw outcome) = false) :
    Spent noisy (attemptStep codec cfg s (.advance draw outcome)) := by
  have working : s.call.phase.working = some d := by
    rw [phase]
    rfl
  have failing (fails : outcome ≠ .acked) (hd : d = .analytics) :
      (s.call.acked.any fun m => Noised noisy m.source) = false ∧
        (outcome = .unacked → Noised noisy m.source = false) := by
    subst hd
    simpa [FailsAfterDraw, phase, fails] using meets
  cases outcome with
  | acked =>
    simp only [attemptStep, Flushing.advance, phase]
    exact h.publish phase rfl rfl _
  | unacked =>
    have plain : Noised noisy m.source = false := by
      by_cases hd : d = .analytics
      · exact (failing (by simp) hd).2 rfl
      · have type := (h.waiting m.source (by rw [phase]; exact List.mem_cons_self)).1
        obtain rfl := Option.some.inj (working.symm.trans type)
        simp [Noised, hd]
    simp only [attemptStep, Flushing.advance, phase]
    exact (h.fail working fun hd => h.noneDirty_of_acked (failing (by simp) hd).1).stored plain
  | refused =>
    simp only [attemptStep, Flushing.advance, phase, Outcome.stores, Option.toList_none,
      List.append_nil]
    exact h.fail working fun hd => h.noneDirty_of_acked (failing (by simp) hd).1

theorem advance (h : Spent noisy s) {draw : ℕ} {outcome : Outcome}
    (meets : FailsAfterDraw noisy codec cfg s (.advance draw outcome) = false) :
    Spent noisy (attemptStep codec cfg s (.advance draw outcome)) := by
  by_cases publishing : ∃ d rest todo m batch, s.call.phase = .publish d rest todo (m :: batch)
  · obtain ⟨d, rest, todo, m, batch, phase⟩ := publishing
    exact h.advance_publish phase meets
  have nothing : outcome.stores s.call.phase = none := by
    unfold Outcome.stores
    split
    · rename_i phase
      exact absurd ⟨_, _, _, _, _, phase⟩ publishing
    · rename_i phase
      exact absurd ⟨_, _, _, _, _, phase⟩ publishing
    · rfl
  simp only [attemptStep, nothing, Option.toList_none, List.append_nil]
  have step := Flushing.advance_advances codec cfg draw (decide (outcome = .acked)) s.toFlushing
  generalize s.toFlushing.advance codec cfg draw (decide (outcome = .acked)) = next at step ⊢
  cases step with
  | ended => exact h
  | skip phase => exact h.stop (h.noneDirty (by simp [phase, Phase.working])) _ rfl
  | load phase => exact h.load phase
  | @take d _ _ _ _ phase =>
    apply h.take phase
    intro fails
    by_cases hd : d = .analytics
    · subst hd
      simp only [FailsAfterDraw, phase, fails, Option.isNone_none, Bool.true_and] at meets
      exact h.noneDirty_of_acked meets
    · exact h.noneDirty (by simpa [phase, Phase.working] using hd)
  | send phase | refill phase =>
    exact h.go _ rfl (by simp [phase, Phase.working]) (by simp [phase, Phase.queue])
  | sent phase => exact h.go _ rfl (by simp [phase, Phase.working]) (by simp [Phase.queue])
  | publish phase | refused phase => exact absurd ⟨_, _, _, _, _, phase⟩ publishing
  | flush phase => exact h.clean phase rfl
  | tokens at_tokens next_tokens =>
    exact h.stop (h.noneDirty (not_working at_tokens)) _ (queue_afterRecords next_tokens)
  | token phase => exact h.stop (h.noneDirty (by simp [phase, Phase.working])) _ rfl
  | failed at_tokens => exact h.stop (h.noneDirty (not_working at_tokens)) _ rfl
  | mark phase => exact h.mark (h.noneDirty (by simp [phase, Phase.working])) _ rfl

theorem attempt (h : Spent noisy s) {a : Attempt}
    (meets : FailsAfterDraw noisy codec cfg s a = false) :
    Spent noisy (attemptStep codec cfg s a) := by
  cases a with
  | start =>
    simp only [attemptStep]
    split
    · exact h
    · rename_i stopped
      refine h.stop (h.noneDirty ?_) _ rfl
      intro working
      apply stopped
      unfold FlushCall.isRunning
      unfold Phase.working at working
      split at working <;> simp_all
  | advance draw outcome => exact h.advance meets

end Spent

theorem spent_beforeAttempts (noisy : P → Bool) (db : SyncDatabase P) :
    Spent noisy (beforeAttempts db) := by
  constructor <;> simp [beforeAttempts, noisedMessages, FlushCall.idle, Phase.queue]

/-! ## Sales aggregates -/

/-- The codec of the flush: draw `n` of the generator is `sample n`. -/
def noisyCodec (serde : AggregateSerde) (sample : ℕ → Noise) (base : Codec DifferentialPrivacy.Json) :
    Codec DifferentialPrivacy.Json :=
  { base with
    privatizeAnalyticsPayload := fun draw payload =>
      (DifferentialPrivacy.privatizeAnalyticsPayload serde (sample draw) payload
        DifferentialPrivacy.defaultEpsilon).toOption }

/-- **Each aggregate is published with one draw in runs in which no attempt fails in the analytics
phase after JetStream has stored an aggregate of it.** Whatever the database holds and the generator supplies,
such a run publishes no aggregate twice. -/
theorem published_with_one_draw (serde : AggregateSerde) (sample : ℕ → Noise)
    (base : Codec DifferentialPrivacy.Json) (cfg : CloudConfig) (db : SyncDatabase DifferentialPrivacy.Json)
    (attempts : List Attempt)
    (meets : Runs.EachStep (attemptStep (noisyCodec serde sample base) cfg)
      (fun s a => FailsAfterDraw DifferentialPrivacy.isSalesAggregate
        (noisyCodec serde sample base) cfg s a = false) (beforeAttempts db) attempts) :
    Runs.Always (attemptStep (noisyCodec serde sample base) cfg)
      (OneDraw DifferentialPrivacy.isSalesAggregate) (beforeAttempts db) attempts :=
  Runs.always_of_eachStep (fun _ h => h.oneDraw) (fun _ _ h hg => h.attempt hg)
    (spent_beforeAttempts _ db) meets

/-! ### A retry -/

/-- serde on aggregates: an object with the five fields. -/
def fieldSerde : AggregateSerde where
  fromValue json :=
    match json.get "window_start_ms", json.get "window_end_ms", json.get "total_cents",
      json.get "transaction_count", json.get "item_count" with
    | some (.number s), some (.number e), some (.number c), some (.number t), some (.number i) =>
      .ok ⟨UInt64.ofNat s.toNat, UInt64.ofNat e.toNat, UInt64.ofNat c.toNat, UInt64.ofNat t.toNat,
        UInt64.ofNat i.toNat⟩
    | _, _, _, _, _ => .error "missing field"
  toValue a := .ok (.object [("item_count", .number a.itemCount.toNat),
    ("total_cents", .number a.totalCents.toNat),
    ("transaction_count", .number a.transactionCount.toNat),
    ("window_end_ms", .number a.windowEndMs.toNat),
    ("window_start_ms", .number a.windowStartMs.toNat)])

/-- The text of an analytics event whose metadata is an object of numbers. -/
def eventText : DifferentialPrivacy.Json → Option String
  | .object [("event_id", .string id), ("event_type", .string type), ("metadata", .object fields),
      ("timestamp", .number at_)] =>
    some ("\x7b\"event_id\":\"" ++ id ++ "\",\"event_type\":\"" ++ type ++
      "\",\"metadata\":\x7b" ++
      ",".intercalate (fields.map fun f => "\"" ++ f.1 ++ "\":" ++ match f.2 with
        | .number n => toString n
        | _ => "null") ++ "\x7d,\"timestamp\":" ++ toString at_ ++ "\x7d")
  | _ => none

/-- serde's bytes of analytics records from one kiosk, written at time 1 and not signed. -/
def eventCodec : Codec DifferentialPrivacy.Json where
  recordToVec r := (eventText r.payload).map fun text =>
    Bytes.utf8 ("\x7b\"data_type\":\"Analytics\",\"id\":\"" ++ r.id ++
      "\",\"origin\":\"k1\",\"lamport_ts\":1,\"wallclock_ts\":1,\"payload\":" ++ text ++
      ",\"hmac\":[]\x7d")
  valueToVec payload := (eventText payload).map Bytes.utf8
  tokenToVec := plainCodec.tokenToVec
  privatizeAnalyticsPayload _ payload := some payload

def salesRecord (id : String) (totalCents : ℤ) : SyncRecord DifferentialPrivacy.Json :=
  ⟨.analytics, id, ⟨"k1"⟩, 1, 1, .object [("event_id", .string id),
    ("event_type", .string "sales_aggregate"),
    ("metadata", .object [("item_count", .number 40), ("total_cents", .number totalCents),
      ("transaction_count", .number 12), ("window_end_ms", .number 2000),
      ("window_start_ms", .number 1000)]), ("timestamp", .number 2000)], []⟩

def twoWindows : SyncDatabase DifferentialPrivacy.Json :=
  (SyncDatabase.empty.upsert (salesRecord "agg-1" 500000)).upsert (salesRecord "agg-2" 700000)

def sampleNoise (n : ℕ) : Noise := ⟨1000 * n, 0, 0⟩

/-- An attempt that publishes the first window and fails at the second, and a retry. -/
def retried : List Attempt :=
  [.start, .advance 0 .acked, .advance 0 .acked, .advance 0 .acked, .advance 0 .acked, .advance 1 .acked,
    .advance 2 .acked, .advance 0 .acked, .advance 0 .acked, .advance 0 .refused,
    .start, .advance 0 .acked, .advance 0 .acked, .advance 0 .acked, .advance 0 .acked, .advance 3 .acked,
    .advance 4 .acked, .advance 0 .acked, .advance 0 .acked]

theorem retried_draws_again :
    ¬ Runs.Always (attemptStep (noisyCodec fieldSerde sampleNoise eventCodec) defaultCloud)
      (OneDraw DifferentialPrivacy.isSalesAggregate) (beforeAttempts twoWindows) retried := by
  intro h
  have last := Runs.always_last h
  revert last
  rw [imp_false]
  decide +kernel

/-- Both windows are published at once; a second attempt finds nothing to do. -/
def smooth : List Attempt :=
  [.start, .advance 0 .acked, .advance 0 .acked, .advance 0 .acked, .advance 0 .acked, .advance 1 .acked,
    .advance 2 .acked, .advance 0 .acked, .advance 0 .acked, .advance 0 .acked, .advance 0 .acked,
    .advance 0 .acked, .advance 0 .acked, .advance 0 .acked, .start, .advance 0 .acked, .advance 0 .acked,
    .advance 0 .acked, .advance 0 .acked, .advance 0 .acked]

theorem smooth_draws_once :
    Runs.Always (attemptStep (noisyCodec fieldSerde sampleNoise eventCodec) defaultCloud)
      (OneDraw DifferentialPrivacy.isSalesAggregate) (beforeAttempts twoWindows) smooth :=
  published_with_one_draw fieldSerde sampleNoise eventCodec defaultCloud twoWindows smooth
    (by decide +kernel)

end SyncDaemon.Cloud
