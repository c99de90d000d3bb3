import AstraSystem.Lib.Runs
import AstraSystem.SyncService.Upload

/-!
# Downloads

A kiosk of a store asks for what the others have uploaded, again and again, and is given what is newer than
a mark: the newest delta that it has received, or else the newest that it has uploaded itself.
-/

namespace SyncService

/-- What the kiosk passes as `since`. -/
inductive Mode where
  | empty
  | largest
  deriving DecidableEq, Repr

structure Kiosk where
  storeID : String
  kioskID : String
  deriving DecidableEq, Repr

structure World where
  db : SyncEvents
  received : List SyncEvent

def World.start : World := ⟨.empty, []⟩

/-- The years with four digits. -/
def firstYear : Time := -62167219200000000

def lastYear : Time := 253402300800000000

/-- A time that was printed is read again if its year has four digits. -/
def Since.print (t : Time) : Since :=
  if firstYear ≤ t ∧ t < lastYear then .time t else .invalid "parsing time"

def World.since (mode : Mode) (w : World) : Since :=
  match mode, newest (w.received.map SyncEvent.createdAt) with
  | .largest, some t => .print t
  | _, _ => .empty

inductive Act where
  | upload (env : Env) (auth : String) (b : SyncBatch)
  | download (maxDeltas : Int32)

def step (pkg : Packages) (schema : Schema) (mode : Mode) (k : Kiosk) (w : World) : Act → World
  | .upload env auth b => { w with db := (uploadBatch pkg schema w.db env auth b).1 }
  | .download maxDeltas =>
    match downloadBatch pkg w.db ⟨k.storeID, k.kioskID, w.since mode, maxDeltas⟩ with
    | .ok deltas => { w with received := w.received ++ deltas }
    | .error _ => w

/-- An endless run, from an empty table. -/
abbrev states (pkg : Packages) (schema : Schema) (mode : Mode) (k : Kiosk) (acts : ℕ → Act) : ℕ → World :=
  Runs.trace (step pkg schema mode k) .start acts

/-- Every delta that another kiosk of the store has uploaded is received. -/
def Delivered (pkg : Packages) (schema : Schema) (mode : Mode) (k : Kiosk) (storeID kioskID : UUID)
    (acts : ℕ → Act) : Prop :=
  ∀ n env auth b ack, acts n = .upload env auth b →
    (uploadBatch pkg schema (states pkg schema mode k acts n).db env auth b).2 = .ok ack →
    pkg.uuid.parse b.storeID = .ok storeID → pkg.uuid.parse b.kioskID ≠ .ok kioskID →
    ∀ d ∈ b.deltas, ∃ m, ∃ e ∈ (states pkg schema mode k acts m).received,
      pkg.uuid.parse d.deltaID = .ok e.syncEventID

/-! ## Conditions -/

/-- A delta of another kiosk of the store. -/
def Foreign (storeID kioskID : UUID) (e : SyncEvent) : Prop := e.storeID = storeID ∧ e.kioskID ≠ kioskID

/-- The kiosk's own uploads count. -/
def World.ByCheckpoint (mode : Mode) (w : World) : Prop := mode = .empty ∨ w.received = []

/-- What the next download is newer than. -/
def World.mark (mode : Mode) (storeID kioskID : UUID) (w : World) : Time :=
  match mode, newest (w.received.map SyncEvent.createdAt) with
  | .largest, some t => t
  | _, _ => getLastCheckpoint w.db storeID kioskID

/-- A batch of another kiosk of the store is newer than the mark and takes no id that has a row of some other
origin. One of the kiosk itself is older than all it has still to receive, as long as it moves the mark. -/
structure UploadInOrder (pkg : Packages) (mode : Mode) (storeID kioskID : UUID) (w : World) (env : Env)
    (b : SyncBatch) : Prop where
  others : pkg.uuid.parse b.storeID = .ok storeID →
    pkg.uuid.parse b.kioskID ≠ .ok kioskID →
    ∀ d ∈ b.deltas.zipIdx, ∀ id, pkg.uuid.parse d.1.deltaID = .ok id →
      (w.db.find? id = none → w.mark mode storeID kioskID < d.1.time (env.now d.2)) ∧
      ∀ row, w.db.find? id = some row → Foreign storeID kioskID row
  own : pkg.uuid.parse b.storeID = .ok storeID → pkg.uuid.parse b.kioskID = .ok kioskID →
    w.ByCheckpoint mode →
    ∀ d ∈ b.deltas.zipIdx, ∀ id, pkg.uuid.parse d.1.deltaID = .ok id → w.db.find? id = none →
      ∀ e ∈ w.db.rows, Foreign storeID kioskID e → e ∉ w.received → d.1.time (env.now d.2) < e.createdAt

/-- The mark can be printed, and if the kiosk passes it, the limit does not part deltas of one time. -/
structure DownloadInOrder (mode : Mode) (storeID kioskID : UUID) (w : World) (maxDeltas : Int32) :
    Prop where
  printed : ∀ err, w.since mode ≠ .invalid err
  ties : mode = .largest →
    ∀ x ∈ (candidates w.db storeID kioskID (w.mark mode storeID kioskID)).take (limitOf maxDeltas),
    ∀ y ∈ (candidates w.db storeID kioskID (w.mark mode storeID kioskID)).drop (limitOf maxDeltas),
      x.createdAt ≠ y.createdAt

def InOrder (pkg : Packages) (mode : Mode) (storeID kioskID : UUID) (w : World) : Act → Prop
  | .upload env _ b => UploadInOrder pkg mode storeID kioskID w env b
  | .download maxDeltas => DownloadInOrder mode storeID kioskID w maxDeltas

/-- A download that has, if the kiosk passes nothing, room for all there is. -/
def Downloads (mode : Mode) (storeID kioskID : UUID) (w : World) : Act → Prop
  | .upload _ _ _ => False
  | .download maxDeltas => mode = .empty →
    (candidates w.db storeID kioskID (w.mark mode storeID kioskID)).length ≤ limitOf maxDeltas

/-- The texts of the kiosk are read. -/
structure Kiosk.Is (k : Kiosk) (uuid : UUIDText) (storeID kioskID : UUID) : Prop where
  store : k.storeID ≠ "" ∧ uuid.parse k.storeID = .ok storeID
  kiosk : k.kioskID ≠ "" ∧ uuid.parse k.kioskID = .ok kioskID

section
variable {pkg : Packages} {schema : Schema} {mode : Mode} {k : Kiosk} {storeID kioskID : UUID} {w : World}

/-! ## The mark -/

theorem newest_getD_lt {times : List Time} {z t : Time} :
    (newest times).getD z < t ↔ (times = [] → z < t) ∧ ∀ x ∈ times, x < t := by
  cases h : newest times with
  | none =>
    rw [newest, List.max?_eq_none_iff] at h
    simp [h]
  | some m =>
    obtain ⟨mem, top⟩ := List.max?_eq_some_iff.mp h
    constructor
    · intro lt
      exact ⟨fun none => absurd mem (none ▸ List.not_mem_nil), fun x hx => lt_of_le_of_lt (top x hx) lt⟩
    · rintro ⟨-, all⟩
      exact all m mem

/-- The checkpoint is before a time if the kiosk's own rows are. -/
theorem getLastCheckpoint_lt {db : SyncEvents} {t : Time} : getLastCheckpoint db storeID kioskID < t ↔
    ((∀ e ∈ db.rows, ¬ (e.storeID = storeID ∧ e.kioskID = kioskID)) → zeroTime < t) ∧
      ∀ e ∈ db.rows, e.storeID = storeID ∧ e.kioskID = kioskID → e.createdAt < t := by
  rw [getLastCheckpoint, newest_getD_lt, List.forall_mem_map]
  simp [List.filter_eq_nil_iff]

/-- The mark is the checkpoint, or the newest delta that was received. -/
theorem World.mark_cases (mode : Mode) (storeID kioskID : UUID) (w : World) :
    (w.ByCheckpoint mode ∧ w.since mode = .empty ∧
      w.mark mode storeID kioskID = getLastCheckpoint w.db storeID kioskID) ∨
    (mode = .largest ∧ w.since mode = .print (w.mark mode storeID kioskID) ∧
      (∃ e ∈ w.received, e.createdAt = w.mark mode storeID kioskID) ∧
      ∀ e ∈ w.received, e.createdAt ≤ w.mark mode storeID kioskID) := by
  unfold ByCheckpoint since mark
  cases mode with
  | empty => exact .inl ⟨.inl rfl, rfl, rfl⟩
  | largest =>
    cases h : newest (w.received.map SyncEvent.createdAt) with
    | none =>
      rw [newest, List.max?_eq_none_iff, List.map_eq_nil_iff] at h
      exact .inl ⟨.inr h, rfl, rfl⟩
    | some t =>
      obtain ⟨mem, top⟩ := List.max?_eq_some_iff.mp h
      exact .inr ⟨rfl, rfl, List.mem_map.mp mem, fun e he => top _ (List.mem_map_of_mem he)⟩

/-! ## Pages -/

theorem mem_candidates {db : SyncEvents} {since : Time} {e : SyncEvent} :
    e ∈ candidates db storeID kioskID since ↔
      e ∈ db.rows ∧ Foreign storeID kioskID e ∧ since < e.createdAt := by
  simp [candidates, List.mem_insertionSort, Foreign, and_assoc]

/-- What the limit cuts off is not older than what it leaves. -/
theorem le_of_take_drop {db : SyncEvents} {since : Time} {n : ℕ} {x y : SyncEvent}
    (hx : x ∈ (candidates db storeID kioskID since).take n)
    (hy : y ∈ (candidates db storeID kioskID since).drop n) : x.createdAt ≤ y.createdAt := by
  have total : Std.Total SyncEvent.le := ⟨fun a b => by unfold SyncEvent.le; grind⟩
  have trans : IsTrans SyncEvent SyncEvent.le := ⟨fun a b c => by unfold SyncEvent.le; grind⟩
  have sorted : (candidates db storeID kioskID since).Pairwise SyncEvent.le :=
    List.pairwise_insertionSort SyncEvent.le _
  rw [← List.take_append_drop n (candidates db storeID kioskID since)] at sorted
  obtain lt | ⟨eq, -⟩ := (List.pairwise_append.mp sorted).2.2 x hx y hy
  · exact lt.le
  · exact eq.le

theorem Since.print_cases (t : Time) : Since.print t = .time t ∨ ∃ err, Since.print t = .invalid err := by
  unfold print
  split
  · exact .inl rfl
  · exact .inr ⟨_, rfl⟩

/-- A download gives the oldest of what is newer than the mark. -/
theorem step_download (named : k.Is pkg.uuid storeID kioskID) {maxDeltas : Int32}
    (printed : ∀ err, w.since mode ≠ .invalid err) :
    step pkg schema mode k w (.download maxDeltas) = { w with
      received := w.received ++
        getDeltasSince w.db storeID kioskID (w.mark mode storeID kioskID) maxDeltas } := by
  have given : ¬ (k.storeID = "" ∨ k.kioskID = "") := not_or.mpr ⟨named.store.1, named.kiosk.1⟩
  rw [step, downloadBatch, if_neg given, named.store.2, named.kiosk.2]
  obtain ⟨-, since, mark⟩ | ⟨-, since, -⟩ := w.mark_cases mode storeID kioskID
  · rw [since, mark]
  · rw [since] at printed ⊢
    obtain read | ⟨err, invalid⟩ := Since.print_cases (w.mark mode storeID kioskID)
    · rw [read]
    · exact absurd invalid (printed err)

/-! ## Nothing falls behind the mark -/

/-- What the kiosk has not received is newer than the mark. -/
def Ahead (mode : Mode) (storeID kioskID : UUID) (w : World) : Prop :=
  ∀ e ∈ w.db.rows, Foreign storeID kioskID e → e ∈ w.received ∨ w.mark mode storeID kioskID < e.createdAt

theorem mark_of_received (received : ¬ w.ByCheckpoint mode) (db : SyncEvents) :
    ({ w with db := db } : World).mark mode storeID kioskID = w.mark mode storeID kioskID := by
  rcases ({ w with db := db } : World).mark_cases mode storeID kioskID with ⟨own, -⟩ | ⟨rfl, -⟩
  · exact absurd own received
  · unfold World.mark
    cases h : newest (w.received.map SyncEvent.createdAt) with
    | none =>
      rw [newest, List.max?_eq_none_iff, List.map_eq_nil_iff] at h
      exact absurd (.inr h) received
    | some t => rfl

theorem mark_of_checkpoint (own : w.ByCheckpoint mode) :
    w.mark mode storeID kioskID = getLastCheckpoint w.db storeID kioskID := by
  obtain ⟨-, -, mark⟩ | ⟨rfl, -, ⟨e, he, -⟩, -⟩ := w.mark_cases mode storeID kioskID
  · exact mark
  · obtain largest | none := own
    · cases largest
    · exact absurd he (none ▸ List.not_mem_nil)

theorem ahead_upload (h : Ahead mode storeID kioskID w) {env : Env} {auth : String} {b : SyncBatch}
    (order : UploadInOrder pkg mode storeID kioskID w env b) :
    Ahead mode storeID kioskID (step pkg schema mode k w (.upload env auth b)) := by
  obtain ⟨new, rows, fresh⟩ := uploadBatch_rows pkg schema w.db env auth b
  intro e he foreign
  have he : e ∈ w.db.rows ++ new := rows ▸ he
  by_cases received : e ∈ w.received
  · exact .inl received
  refine .inr ?_
  have before : w.mark mode storeID kioskID < e.createdAt := by
    obtain old | he := List.mem_append.mp he
    · exact (h e old foreign).resolve_left received
    · obtain ⟨absent, hs, hk, d, hd, id, time⟩ := fresh e he
      rw [time]
      refine (order.others (foreign.1 ▸ hs) (fun own => foreign.2 ?_) d hd _ id).1 absent
      exact Except.ok.inj (hk.symm.trans own)
  by_cases own : w.ByCheckpoint mode
  · have own' : (step pkg schema mode k w (.upload env auth b)).ByCheckpoint mode := own
    rw [mark_of_checkpoint own, getLastCheckpoint_lt] at before
    rw [mark_of_checkpoint own', getLastCheckpoint_lt]
    constructor
    · intro none
      exact before.1 fun x hx => none x (rows ▸ List.mem_append_left _ hx)
    · intro x hx mine
      have hx : x ∈ w.db.rows ++ new := rows ▸ hx
      obtain hx | hx := List.mem_append.mp hx
      · exact before.2 x hx mine
      -- The batch is the kiosk's own, so `e` was there before it.
      obtain ⟨absent, hs, hk, d, hd, id, time⟩ := fresh x hx
      have old : e ∈ w.db.rows := by
        obtain old | he := List.mem_append.mp he
        · exact old
        · obtain ⟨-, -, hk', -⟩ := fresh e he
          exact absurd ((Except.ok.inj (hk'.symm.trans hk)).trans mine.2) foreign.2
      rw [time]
      exact order.own (mine.1 ▸ hs) (mine.2 ▸ hk) own d hd _ id absent e old foreign received
  · exact (mark_of_received own _).trans_lt before

theorem ahead_download (named : k.Is pkg.uuid storeID kioskID) (h : Ahead mode storeID kioskID w)
    {maxDeltas : Int32} (order : DownloadInOrder mode storeID kioskID w maxDeltas) :
    Ahead mode storeID kioskID (step pkg schema mode k w (.download maxDeltas)) := by
  rw [step_download named order.printed]
  intro e he foreign
  obtain received | before := h e he foreign
  · exact .inl (List.mem_append_left _ received)
  have mem := mem_candidates.mpr ⟨he, foreign, before⟩
  rw [← List.take_append_drop (limitOf maxDeltas) (candidates _ _ _ _)] at mem
  obtain page | rest := List.mem_append.mp mem
  · exact .inl (List.mem_append_right _ page)
  refine .inr ?_
  rcases World.mark_cases mode storeID kioskID { w with
    received := w.received ++ getDeltasSince w.db storeID kioskID (w.mark mode storeID kioskID) maxDeltas }
    with ⟨own, -, mark⟩ | ⟨rfl, -, ⟨r, hr, mark⟩, -⟩
  · have own : w.ByCheckpoint mode := own.imp_right fun none => (List.append_eq_nil_iff.mp none).1
    rw [mark]
    exact mark_of_checkpoint own ▸ before
  · rw [← mark]
    obtain hr | hr := List.mem_append.mp hr
    · obtain ⟨own, -⟩ | ⟨-, -, -, top⟩ := w.mark_cases .largest storeID kioskID
      · obtain largest | none := own
        · cases largest
        · exact absurd hr (none ▸ List.not_mem_nil)
      · exact lt_of_le_of_lt (top r hr) before
    · exact lt_of_le_of_ne (le_of_take_drop hr rest) (order.ties rfl r hr e rest)

theorem ahead_step (named : k.Is pkg.uuid storeID kioskID) (h : Ahead mode storeID kioskID w) {a : Act}
    (order : InOrder pkg mode storeID kioskID w a) :
    Ahead mode storeID kioskID (step pkg schema mode k w a) := by
  cases a with
  | upload env auth b => exact ahead_upload h order
  | download maxDeltas => exact ahead_download named h order

/-! ## Every delta is received -/

/-- A delta of another kiosk is in the table, and nothing is behind the mark. -/
structure Awaits (mode : Mode) (storeID kioskID : UUID) (e : SyncEvent) (w : World) : Prop where
  stored : e ∈ w.db.rows
  foreign : Foreign storeID kioskID e
  ahead : Ahead mode storeID kioskID w

variable {e : SyncEvent} {a : Act}

theorem Awaits.step (named : k.Is pkg.uuid storeID kioskID) (h : Awaits mode storeID kioskID e w)
    (order : InOrder pkg mode storeID kioskID w a) :
    Awaits mode storeID kioskID e (step pkg schema mode k w a) := by
  refine ⟨?_, h.foreign, ahead_step named h.ahead order⟩
  cases a with
  | upload env auth b =>
    obtain ⟨new, rows, -⟩ := uploadBatch_rows pkg schema w.db env auth b
    exact rows ▸ List.mem_append_left new h.stored
  | download maxDeltas =>
    rw [step_download named order.printed]
    exact h.stored

/-- A download that has room for the delta gives it. -/
theorem Awaits.whole (named : k.Is pkg.uuid storeID kioskID) (h : Awaits mode storeID kioskID e w)
    (order : InOrder pkg mode storeID kioskID w a) (whole : mode = .empty)
    (taken : Downloads mode storeID kioskID w a) :
    e ∈ (SyncService.step pkg schema mode k w a).received := by
  cases a with
  | upload env auth b => exact absurd taken not_false
  | download maxDeltas =>
    rw [step_download named order.printed]
    obtain received | before := h.ahead e h.stored h.foreign
    · exact List.mem_append_left _ received
    · have mem := mem_candidates.mpr ⟨h.stored, h.foreign, before⟩
      refine List.mem_append_right _ ?_
      rwa [getDeltasSince, List.take_of_length_le (taken whole)]

/-- Every other download gives the delta or moves the mark towards it. -/
theorem Awaits.moves (named : k.Is pkg.uuid storeID kioskID) (h : Awaits .largest storeID kioskID e w)
    (order : InOrder pkg .largest storeID kioskID w a) (taken : Downloads .largest storeID kioskID w a) :
    e ∈ (SyncService.step pkg schema .largest k w a).received ∨
      (SyncService.step pkg schema .largest k w a).received ≠ [] ∧
      w.mark .largest storeID kioskID <
        (SyncService.step pkg schema .largest k w a).mark .largest storeID kioskID := by
  cases a with
  | upload env auth b => exact absurd taken not_false
  | download maxDeltas =>
    rw [step_download named order.printed]
    obtain received | before := h.ahead e h.stored h.foreign
    · exact .inl (List.mem_append_left _ received)
    have mem := mem_candidates.mpr ⟨h.stored, h.foreign, before⟩
    -- The limit leaves one delta at least.
    obtain ⟨r, hr⟩ : ∃ r, r ∈ getDeltasSince w.db storeID kioskID (w.mark .largest storeID kioskID)
        maxDeltas := by
      refine List.exists_mem_of_ne_nil _ fun none => ?_
      obtain zero | none := List.take_eq_nil_iff.mp none
      · exact absurd zero (limitOf_pos maxDeltas).ne'
      · exact absurd mem (none ▸ List.not_mem_nil)
    have newer := (mem_candidates.mp (List.mem_of_mem_take hr)).2.2
    have hr := List.mem_append_right w.received hr
    refine .inr ⟨List.ne_nil_of_mem hr, ?_⟩
    rcases World.mark_cases .largest storeID kioskID { w with
      received := w.received ++ getDeltasSince w.db storeID kioskID (w.mark .largest storeID kioskID)
        maxDeltas } with ⟨largest | none, -⟩ | ⟨-, -, -, top⟩
    · cases largest
    · exact absurd none (List.ne_nil_of_mem hr)
    · exact lt_of_lt_of_le newer (top r hr)

/-- Once something was received, uploads leave the mark alone. -/
theorem Awaits.keeps (named : k.Is pkg.uuid storeID kioskID) (h : Awaits .largest storeID kioskID e w)
    (order : InOrder pkg .largest storeID kioskID w a) (received : w.received ≠ []) :
    e ∈ (SyncService.step pkg schema .largest k w a).received ∨
      (SyncService.step pkg schema .largest k w a).received ≠ [] ∧
      w.mark .largest storeID kioskID ≤
        (SyncService.step pkg schema .largest k w a).mark .largest storeID kioskID := by
  cases a with
  | upload env auth b =>
    have explicit : ¬ w.ByCheckpoint .largest := by
      rintro (largest | none)
      · cases largest
      · exact received none
    exact .inr ⟨received, (mark_of_received explicit _).ge⟩
  | download maxDeltas =>
    exact (h.moves named order fun largest => (by cases largest)).imp_right (And.imp_right le_of_lt)

section
variable {acts : ℕ → Act} {n : ℕ}

/-- What another kiosk has in the table is received in the end. -/
theorem Awaits.received (named : k.Is pkg.uuid storeID kioskID)
    (order : ∀ n, InOrder pkg mode storeID kioskID (states pkg schema mode k acts n) (acts n))
    (fair : ∀ n, ∃ m ≥ n, Downloads mode storeID kioskID (states pkg schema mode k acts m) (acts m))
    (h : Awaits mode storeID kioskID e (states pkg schema mode k acts n)) :
    ∃ m, e ∈ (states pkg schema mode k acts m).received := by
  cases mode with
  | empty =>
    refine Runs.trace_eventually (J := Awaits .empty storeID kioskID e)
      (G := InOrder pkg .empty storeID kioskID) (F := Downloads .empty storeID kioskID)
      (Q := fun w => e ∈ w.received) (fun _ => 0) ?_ order fair h
    intro w a h order
    by_cases taken : Downloads .empty storeID kioskID w a
    · exact .inl (h.whole named order rfl taken)
    · exact .inr ⟨h.step named order, le_rfl, fun t => absurd t taken⟩
  | largest =>
    -- First something is received, and from then on the mark only moves forward.
    obtain ⟨m, found | ⟨h, received⟩⟩ : ∃ m,
        let w := states pkg schema .largest k acts m
        e ∈ w.received ∨ Awaits .largest storeID kioskID e w ∧ w.received ≠ [] := by
      refine Runs.trace_eventually (J := Awaits .largest storeID kioskID e)
        (G := InOrder pkg .largest storeID kioskID) (F := Downloads .largest storeID kioskID)
        (Q := fun w => e ∈ w.received ∨ Awaits .largest storeID kioskID e w ∧ w.received ≠ [])
        (fun _ => 0) ?_ order fair h
      intro w a h order
      by_cases taken : Downloads .largest storeID kioskID w a
      · exact .inl ((h.moves named order taken).imp_right fun moved => ⟨h.step named order, moved.1⟩)
      · exact .inr ⟨h.step named order, le_rfl, fun t => absurd t taken⟩
    · exact ⟨m, found⟩
    refine Runs.trace_eventually
      (J := fun w => Awaits .largest storeID kioskID e w ∧ w.received ≠ [])
      (G := InOrder pkg .largest storeID kioskID) (F := Downloads .largest storeID kioskID)
      (Q := fun w => e ∈ w.received)
      (fun w => (e.createdAt - w.mark .largest storeID kioskID).toNat) ?_ order fair ⟨h, received⟩
    rintro w a ⟨h, received⟩ order
    by_cases found : e ∈ (SyncService.step pkg schema .largest k w a).received
    · exact .inl found
    have next : Awaits .largest storeID kioskID e (SyncService.step pkg schema .largest k w a) :=
      h.step named order
    have ahead := (next.ahead e next.stored next.foreign).resolve_left found
    obtain ⟨received, le⟩ := (h.keeps named order received).resolve_left found
    refine .inr ⟨⟨next, received⟩, Int.toNat_le_toNat (Int.sub_le_sub_left le _), fun taken => ?_⟩
    have lt := ((h.moves named order taken).resolve_left found).2
    exact (Int.toNat_lt_toNat (Int.sub_pos_of_lt (lt.trans ahead))).mpr (Int.sub_lt_sub_left lt _)

/-- What an upload of the run adds. -/
theorem states_upload {acts : ℕ → Act} {n : ℕ} {env : Env} {auth : String} {b : SyncBatch}
    (h : acts n = .upload env auth b) :
    (states pkg schema mode k acts (n + 1)).db =
        (uploadBatch pkg schema (states pkg schema mode k acts n).db env auth b).1 ∧
      (states pkg schema mode k acts (n + 1)).received = (states pkg schema mode k acts n).received := by
  rw [states, Runs.trace, h, SyncService.step]
  exact ⟨rfl, rfl⟩

/-- Every delta of the other kiosks of a store is received if their uploads are newer than the mark, the
kiosk's own do not move the mark past what it has still to receive, the limit parts no deltas of one time when
the kiosk passes the mark, and has room for all again and again when it does not. -/
theorem delivered_of_inOrder (named : k.Is pkg.uuid storeID kioskID)
    (order : ∀ n, InOrder pkg mode storeID kioskID (states pkg schema mode k acts n) (acts n))
    (fair : ∀ n, ∃ m ≥ n, Downloads mode storeID kioskID (states pkg schema mode k acts m) (acts m)) :
    Delivered pkg schema mode k storeID kioskID acts := by
  intro n env auth b ack upload acked hs hk d hd
  obtain ⟨id, parsed, stored⟩ := stored_of_acked acked d hd
  obtain ⟨row, found⟩ := Option.isSome_iff_exists.mp stored
  obtain ⟨mem, rfl⟩ := Table.find?_eq_some.mp found
  have foreign : Foreign storeID kioskID row := by
    obtain ⟨new, rows, fresh⟩ :=
      uploadBatch_rows pkg schema (states pkg schema mode k acts n).db env auth b
    obtain old | added := List.mem_append.mp (rows ▸ mem)
    · have guard : UploadInOrder pkg mode storeID kioskID (states pkg schema mode k acts n) env b := by
        have step := order n
        rwa [upload] at step
      obtain ⟨i, at_i⟩ := List.mem_iff_getElem?.mp hd
      have at_i : (d, i) ∈ b.deltas.zipIdx := List.mk_mem_zipIdx_iff_getElem?.mpr at_i
      exact (guard.others hs hk (d, i) at_i _ parsed).2 row (Table.find?_eq_some.mpr ⟨old, rfl⟩)
    · obtain ⟨-, hs', hk', -⟩ := fresh row added
      exact ⟨Except.ok.inj (hs'.symm.trans hs), fun own => hk (own ▸ hk')⟩
  have ahead := Runs.trace_inv (I := Ahead mode storeID kioskID) (G := InOrder pkg mode storeID kioskID)
    (fun _ _ h order => ahead_step named h order) (fun _ he => absurd he List.not_mem_nil) order (n + 1)
  have there : row ∈ (states pkg schema mode k acts (n + 1)).db.rows := by
    rwa [(states_upload upload).1]
  obtain ⟨m, received⟩ := Awaits.received named order fair ⟨there, foreign, ahead⟩
  exact ⟨m, row, received, parsed⟩

end

end

namespace Shift

def schema : Schema := { stores := [1], kiosks := [2, 3], maxDepth := 100 }

/-- The kiosk that downloads. -/
def kiosk : Kiosk := ⟨UUIDText.hyphenated.string 1, UUIDText.hyphenated.string 2⟩

def batch (kioskID deltaID : UUID) (createdAt : String) : SyncBatch where
  batchID := UUIDText.hyphenated.string 9
  storeID := UUIDText.hyphenated.string 1
  kioskID := UUIDText.hyphenated.string kioskID
  deltas := [⟨UUIDText.hyphenated.string deltaID, .cartMerge, [], [], "", createdAt⟩]

theorem parse_string (u : UUID) : Till.pkg.uuid.parse (UUIDText.hyphenated.string u) = .ok u :=
  UUIDText.lawful_hyphenated.parse_string u

theorem wellFormed (kioskID deltaID : UUID) (createdAt : String) :
    WellFormed Till.pkg.uuid (batch kioskID deltaID createdAt) :=
  ⟨Till.isUUID 9, Till.isUUID 1, Till.isUUID kioskID, List.forall_mem_singleton.mpr (Till.isUUID deltaID),
    List.forall_mem_singleton.mpr trivial⟩

theorem acked (kioskID deltaID : UUID) (known : kioskID ∈ schema.kiosks) (createdAt : String)
    (plain : Char.ofNat 0 ∉ createdAt.toList) (db : SyncEvents) :
    (uploadBatch Till.pkg schema db Till.env "" (batch kioskID deltaID createdAt)).2 =
      .ok ⟨UUIDText.hyphenated.string 9, UUIDText.hyphenated.string kioskID⟩ := by
  refine (acked_iff (wellFormed kioskID deltaID createdAt) db Till.env).mpr ⟨⟨.inl rfl, ?_, .inr ?_⟩, rfl⟩
  · refine List.forall_mem_singleton.mpr ⟨fun h => (by cases h), ?_, rfl⟩
    have id : Char.ofNat 0 ∉ (UUIDText.hyphenated.string deltaID).toList :=
      UUIDText.not_mem_hyphenated (by decide) (by decide) deltaID
    simp only [SyncDelta.payloadJSON, Json.text, ↓reduceIte]
    split
    · simp [Schema.jsonb, Json.allStrings, Json.allStringsOf, Json.depth, Json.depthsOfFields, id]
      decide
    · simp [Schema.jsonb, Json.allStrings, Json.allStringsOf, Json.depth, Json.depthsOfFields, id, plain]
      decide
  · exact ⟨1, kioskID, parse_string 1, parse_string kioskID, List.mem_singleton_self 1, known⟩

theorem kiosk_is : kiosk.Is Till.pkg.uuid 1 2 :=
  ⟨⟨UUIDText.hyphenated_ne_empty 1, parse_string 1⟩, ⟨UUIDText.hyphenated_ne_empty 2, parse_string 2⟩⟩

/-- The other kiosk uploads, and the kiosk downloads ever after. -/
def quiet : ℕ → Act
  | 0 => .upload Till.env "" (batch 3 4 "2026-07-20T12:34:56Z")
  | _ + 1 => .download 0

/-- The kiosk uploads something newer before it downloads. -/
def busy : ℕ → Act
  | 0 => .upload Till.env "" (batch 3 4 "2026-07-20T12:34:56Z")
  | 1 => .upload Till.env "" (batch 2 5 "2026-07-20T12:35:00Z")
  | _ + 2 => .download 0

/-- What the time of a delta is read as. -/
@[irreducible] def time (createdAt : String) : Time := (RFC3339.parse createdAt).elim 0 fun t => t.unixNano / 1000

theorem rows_batch (db : SyncEvents) (kioskID deltaID : UUID) (createdAt : String) :
    ∃ new, (uploadBatch Till.pkg schema db Till.env "" (batch kioskID deltaID createdAt)).1.rows =
        db.rows ++ new ∧
      ∀ e ∈ new, e.syncEventID = deltaID ∧ e.storeID = 1 ∧ e.kioskID = kioskID ∧
        e.createdAt = time createdAt := by
  obtain ⟨new, rows, fresh⟩ := uploadBatch_rows Till.pkg schema db Till.env ""
    (batch kioskID deltaID createdAt)
  refine ⟨new, rows, fun e he => ?_⟩
  obtain ⟨-, store, own, d, hd, id, at_time⟩ := fresh e he
  obtain rfl := List.mem_singleton.mp hd
  refine ⟨Except.ok.inj (id.symm.trans (parse_string _)), Except.ok.inj (store.symm.trans (parse_string _)),
    Except.ok.inj (own.symm.trans (parse_string _)), ?_⟩
  rw [at_time, SyncDelta.time, time]
  cases RFC3339.parse createdAt with
  | none => rfl
  | some t => rfl

theorem first_acked (mode : Mode) (acts : ℕ → Act) :
    (uploadBatch Till.pkg schema (states Till.pkg schema mode kiosk acts 0).db Till.env ""
      (batch 3 4 "2026-07-20T12:34:56Z")).2 =
      .ok ⟨UUIDText.hyphenated.string 9, UUIDText.hyphenated.string 3⟩ :=
  acked 3 4 (by decide) _ (by decide) _

theorem other_kiosk : Till.pkg.uuid.parse (UUIDText.hyphenated.string 3) ≠ .ok 2 := by
  rw [parse_string]
  exact fun h => absurd (Except.ok.inj h) (by decide)

theorem quiet_inOrder (n : ℕ) :
    InOrder Till.pkg .empty 1 2 (states Till.pkg schema .empty kiosk quiet n) (quiet n) := by
  cases n with
  | succ n => exact ⟨fun err h => (by cases h), fun h => (by cases h)⟩
  | zero =>
    constructor
    · intro _ _ d hd id _
      obtain rfl := List.mem_singleton.mp hd
      exact ⟨fun _ => (by decide +kernel), fun row h => (by cases h)⟩
    · intro _ own
      exact absurd own other_kiosk

theorem step_download_empty (w : World) : step Till.pkg schema .empty kiosk w (.download 0) = { w with
    received := w.received ++ getDeltasSince w.db 1 2 (getLastCheckpoint w.db 1 2) 0 } := by
  refine step_download kiosk_is fun err h => ?_
  cases h

/-- What a download of the run adds. -/
theorem states_download {acts : ℕ → Act} {n : ℕ} (h : acts n = .download 0) :
    states Till.pkg schema .empty kiosk acts (n + 1) = { states Till.pkg schema .empty kiosk acts n with
      received := (states Till.pkg schema .empty kiosk acts n).received ++
        getDeltasSince (states Till.pkg schema .empty kiosk acts n).db 1 2
          (getLastCheckpoint (states Till.pkg schema .empty kiosk acts n).db 1 2) 0 } := by
  rw [states, Runs.trace, h, step_download_empty]

theorem quiet_rows (n : ℕ) : (states Till.pkg schema .empty kiosk quiet n).db.rows.length ≤ 1 := by
  induction n with
  | zero => exact Nat.zero_le 1
  | succ n ih =>
    cases n with
    | succ n =>
      rwa [states_download rfl]
    | zero =>
      obtain ⟨new, rows, fresh⟩ := rows_batch (states Till.pkg schema .empty kiosk quiet 0).db 3 4
        "2026-07-20T12:34:56Z"
      have first : (states Till.pkg schema .empty kiosk quiet 1).db.rows = new := by
        rw [(states_upload rfl).1, rows]
        rfl
      have keys := (states Till.pkg schema .empty kiosk quiet 1).db.nodup
      rw [first] at keys ⊢
      have one : new.map SyncEvent.syncEventID = List.replicate new.length 4 :=
        List.eq_replicate_iff.mpr ⟨List.length_map _, List.forall_mem_map.mpr fun e he => (fresh e he).1⟩
      exact List.nodup_replicate.mp (one ▸ keys)

/-- A kiosk that uploads nothing receives what another has uploaded. -/
theorem quiet_delivered : Delivered Till.pkg schema .empty kiosk 1 2 quiet :=
  delivered_of_inOrder kiosk_is quiet_inOrder fun n => ⟨n + 1, Nat.le_succ n, fun _ => by
    refine le_trans ?_ (show 1 ≤ limitOf 0 by decide)
    rw [candidates, List.length_insertionSort]
    exact le_trans (List.length_filter_le _ _) (quiet_rows (n + 1))⟩

/-- A row is as new as the kiosk's own at most. -/
theorem busy_rows (n : ℕ) : let db := (states Till.pkg schema .empty kiosk busy (n + 2)).db
    (∃ e ∈ db.rows, e.storeID = 1 ∧ e.kioskID = 2 ∧ e.createdAt = time "2026-07-20T12:35:00Z") ∧
      ∀ e ∈ db.rows, e.createdAt ≤ time "2026-07-20T12:35:00Z" := by
  induction n with
  | succ n ih =>
    rwa [states_download rfl]
  | zero =>
    obtain ⟨new, rows, fresh⟩ := rows_batch (states Till.pkg schema .empty kiosk busy 0).db 3 4
      "2026-07-20T12:34:56Z"
    obtain ⟨own, more, mine⟩ := rows_batch (states Till.pkg schema .empty kiosk busy 1).db 2 5
      "2026-07-20T12:35:00Z"
    have first : (states Till.pkg schema .empty kiosk busy 1).db.rows = new := by
      rw [(states_upload rfl).1, rows]
      rfl
    rw [first] at more
    have all : (states Till.pkg schema .empty kiosk busy 2).db.rows = new ++ own := by
      rw [(states_upload rfl).1, more]
    have order : time "2026-07-20T12:34:56Z" ≤ time "2026-07-20T12:35:00Z" := by decide +kernel
    constructor
    · obtain ⟨id, parsed, stored⟩ := stored_of_acked (acked 2 5 (by decide)
        "2026-07-20T12:35:00Z" (by decide) (states Till.pkg schema .empty kiosk busy 1).db) _
        List.mem_cons_self
      obtain rfl := Except.ok.inj (parsed.symm.trans (parse_string 5))
      obtain ⟨row, found⟩ := Option.isSome_iff_exists.mp stored
      obtain ⟨mem, id⟩ := Table.find?_eq_some.mp found
      rw [more] at mem
      rw [all]
      refine ⟨row, mem, ?_⟩
      obtain old | added := List.mem_append.mp mem
      · exact absurd ((fresh row old).1.symm.trans id) (by decide)
      · exact (mine row added).2
    · rw [all]
      intro e he
      obtain old | added := List.mem_append.mp he
      · exact (fresh e old).2.2.2.trans_le order
      · exact (mine e added).2.2.2.le

theorem busy_received (n : ℕ) : (states Till.pkg schema .empty kiosk busy n).received = [] := by
  induction n with
  | zero => rfl
  | succ n ih =>
    cases n with
    | zero => rwa [(states_upload rfl).2]
    | succ n =>
      cases n with
      | zero => rwa [(states_upload rfl).2]
      | succ n =>
        obtain ⟨⟨own, mem, store, mine, newest⟩, all⟩ := busy_rows n
        rw [states_download rfl, ih, List.nil_append, getDeltasSince, List.take_eq_nil_iff]
        refine .inr (List.eq_nil_iff_forall_not_mem.mpr fun e he => ?_)
        obtain ⟨he, -, since⟩ := mem_candidates.mp he
        have later := (getLastCheckpoint_lt.mp since).2 own mem ⟨store, mine⟩
        exact absurd (all e he) (not_le.mpr (newest ▸ later))

/-- The checkpoint passes over what was uploaded before it. -/
theorem busy_not_delivered : ¬ Delivered Till.pkg schema .empty kiosk 1 2 busy := by
  intro delivered
  obtain ⟨m, e, received, -⟩ := delivered 0 _ _ _ _ rfl (first_acked _ _) (parse_string 1) other_kiosk _
    List.mem_cons_self
  exact List.not_mem_nil (busy_received m ▸ received)

end Shift

end SyncService
