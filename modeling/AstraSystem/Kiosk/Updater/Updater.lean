import AstraSystem.Kiosk.Updater.Crypto
import AstraSystem.Lib.Runs

/-!
# The updater of a kiosk (`updater.ts`, `manifest.ts`)

Checks, applications and health checks wait for the network and for their callbacks, and others go on meanwhile. What is
fetched, whether a callback succeeds and when a timer fires is the environment's.
-/

namespace Kiosk.Updater

/-! ## Versions -/

/-- The numbers of JavaScript but for `NaN`, which is nothing. -/
structure Numbers (N : Type) where
  parseInt : String → Option N
  number : String → Option N
  zero : N

section
variable {N : Type} [LinearOrder N]

inductive Part (N : Type) where
  | text (s : String)
  | number (n : N)

def Part.less (numbers : Numbers N) : Part N → Part N → Bool
  | .text s, .text t => Collation.codeUnits s < Collation.codeUnits t
  | .number m, .number n => m < n
  | .text s, .number n => (numbers.number s).any fun m => m < n
  | .number m, .text t => (numbers.number t).any fun n => m < n

def stripV : List Char → List Char
  | c :: cs => if c = 'v' ∨ c = 'V' then cs else c :: cs
  | [] => []

def normalize (numbers : Numbers N) (v : String) : List (Part N) :=
  ((stripV v.toList).splitOn '.').map fun cs =>
    match numbers.parseInt (String.ofList cs) with
    | some n => .number n
    | none => .text (String.ofList cs)

def compareVersions (numbers : Numbers N) (current next : String) : ℤ :=
  let a := normalize numbers current
  let b := normalize numbers next
  ((List.range (max a.length b.length)).findSome? fun i =>
    let left := a.getD i (.number numbers.zero)
    let right := b.getD i (.number numbers.zero)
    if left.less numbers right then some (-1)
    else if right.less numbers left then some 1
    else none).getD 0

/-! ## The configuration -/

/-- `healthCheck` says whether there is one. -/
structure Config (N : Type) where
  crypto : Crypto
  numbers : Numbers N
  publicKey : List UInt8
  platform : String
  artifactName : String
  healthCheck : Bool

/-- Nothing if it throws. -/
def fetchManifest (reply : Option Manifest) : Option Manifest :=
  reply.filter fun m => m.version ≠ "" ∧ m.signature ≠ "" ∧ m.artifacts.isSome

/-- Nothing also if it throws, as it does where the platforms are null. -/
def selectArtifact (config : Config N) (m : Manifest) : Option Artifact :=
  (m.artifacts.bind fun artifacts => JsObject.get? artifacts config.artifactName).filter fun a =>
    a.platforms.any fun platforms => config.platform ∈ platforms ∨ "any" ∈ platforms

/-- What a check goes on with after the fetch: nothing where it ends, whether there is no newer version or it throws. -/
def offered (config : Config N) (current : String) (reply : Option Manifest) : Option (Manifest × Artifact) :=
  (fetchManifest reply).bind fun m =>
    if 0 ≤ compareVersions config.numbers current m.version then none
    else (selectArtifact config m).map fun a => (m, a)

/-- Nothing if it throws. -/
def downloadAndVerifyArtifact (crypto : Crypto) (a : Artifact) (reply : Option Blob) : Option Blob :=
  reply.filter fun blob => verifyBlobChecksum crypto blob a.checksum = .ok true

/-! ## The state -/

inductive UpdateState where
  | idle | checking | downloading | pending | applying | healthy | rolledBack
  deriving DecidableEq, Repr

/-- A call of `check` at the promise that it awaits. `than` is the version that the manifest was compared with. -/
inductive Check where
  | fetching
  | verifying (m : Manifest) (a : Artifact) (than : String)
  | downloading (m : Manifest) (a : Artifact) (than : String)

/-- A call of `onApply`. -/
structure Apply where
  manifest : Manifest
  blob : Blob
  previousVersion : String
  than : String

/-- An update, and what ran when it took effect. -/
structure Update where
  version : String
  before : String

structure Timer where
  id : ℕ
  previousVersion : String
  update : Update

/-- A call of `onRollback`. -/
structure Rollback where
  named : String
  update : Update

/-- The fields of the class and the calls that wait. `calls`, `rollbackCalls` and `failed` record what has been called
and which versions failed their health checks, `running` is what runs if an update takes effect when `onApply` succeeds
and is undone when `onRollback` is called, and `than` is what the pending manifest was compared with. -/
structure State where
  currentVersion : String
  state : UpdateState := .idle
  pendingManifest : Option Manifest := none
  pendingBlob : Option Blob := none
  pollTimer : Bool := false
  rollbackTimer : Option ℕ := none
  timers : List Timer := []
  nextTimer : ℕ := 0
  checks : List Check := []
  applies : List Apply := []
  healthChecks : List Timer := []
  rollbacks : ℕ := 0
  than : String := ""
  running : String := currentVersion
  calls : List Apply := []
  rollbackCalls : List Rollback := []
  failed : List String := []

inductive Action where
  | start
  | stop
  | poll
  | check
  | fetched (i : ℕ) (reply : Option Manifest)
  | verified (i : ℕ)
  | downloaded (i : ℕ) (reply : Option Blob)
  | applyWhenIdle
  | applied (i : ℕ) (ok : Bool)
  | timer (i : ℕ)
  | health (i : ℕ) (healthy : Option Bool)
  | rolledBack

namespace State

def check (s : State) : State :=
  if s.state = .checking ∨ s.state = .downloading then s
  else { s with state := .checking, checks := s.checks ++ [.fetching] }

/-- The interval runs if there is a poll timer. -/
def start (s : State) : State :=
  if s.pollTimer then s else { s.check with pollTimer := true }

def stop (s : State) : State :=
  { s with
    pollTimer := false
    rollbackTimer := none
    timers := s.timers.filter fun t => some t.id ≠ s.rollbackTimer }

/-- A check ends without an update. -/
def giveUp (s : State) (i : ℕ) : State :=
  { s with state := .idle, checks := s.checks.eraseIdx i }

def fetched (config : Config N) (s : State) (i : ℕ) (reply : Option Manifest) : State :=
  match offered config s.currentVersion reply with
  | none => s.giveUp i
  | some (m, a) => { s with checks := s.checks.set i (.verifying m a s.currentVersion) }

def verified (config : Config N) (s : State) (i : ℕ) (m : Manifest) (a : Artifact) (than : String) : State :=
  if verifyManifestSignature config.crypto m config.publicKey then
    { s with state := .downloading, checks := s.checks.set i (.downloading m a than) }
  else s.giveUp i

def downloaded (config : Config N) (s : State) (i : ℕ) (m : Manifest) (a : Artifact) (than : String)
    (reply : Option Blob) : State :=
  match downloadAndVerifyArtifact config.crypto a reply with
  | none => s.giveUp i
  | some blob =>
    { s with
      pendingManifest := some m
      pendingBlob := some blob
      than := than
      state := .pending
      checks := s.checks.eraseIdx i }

def applyWhenIdle (s : State) : State :=
  match s.state, s.pendingManifest, s.pendingBlob with
  | .pending, some m, some blob =>
    { s with
      state := .applying
      applies := s.applies ++ [⟨m, blob, s.currentVersion, s.than⟩]
      calls := s.calls ++ [⟨m, blob, s.currentVersion, s.than⟩] }
  | _, _, _ => s

/-- The state becomes `rolled_back` and `onRollback` is called. -/
def rollBack (s : State) (previousVersion : String) (update : Update) : State :=
  { s with
    state := .rolledBack
    running := previousVersion
    rollbacks := s.rollbacks + 1
    rollbackCalls := s.rollbackCalls ++ [⟨previousVersion, update⟩] }

def scheduleRollbackCheck (s : State) (previousVersion : String) (update : Update) : State :=
  { s with
    rollbackTimer := some s.nextTimer
    timers := s.timers ++ [⟨s.nextTimer, previousVersion, update⟩]
    nextTimer := s.nextTimer + 1 }

/-- A manifest without a rollout makes it throw after the version is set. -/
def applied (s : State) (i : ℕ) (a : Apply) (ok : Bool) : State :=
  let update : Update := ⟨a.manifest.version, s.running⟩
  let s := { s with applies := s.applies.eraseIdx i }
  if ok then
    let s := { s with currentVersion := a.manifest.version, running := a.manifest.version }
    match a.manifest.rollout with
    | none => s.rollBack a.previousVersion update
    | some _ =>
      { s with pendingManifest := none, pendingBlob := none, state := .healthy }.scheduleRollbackCheck
        a.previousVersion update
  else s.rollBack a.previousVersion update

def fire (config : Config N) (s : State) (i : ℕ) (t : Timer) : State :=
  let s := { s with timers := s.timers.eraseIdx i }
  if config.healthCheck then { s with healthChecks := s.healthChecks ++ [t] } else s

/-- A health check that throws ends there. -/
def health (s : State) (i : ℕ) (t : Timer) (healthy : Option Bool) : State :=
  let s := { s with healthChecks := s.healthChecks.eraseIdx i }
  match healthy with
  | some false => { s with failed := s.failed ++ [t.update.version] }.rollBack t.previousVersion t.update
  | some true | none => s

def step (config : Config N) (s : State) : Action → State
  | .start => s.start
  | .stop => s.stop
  | .poll => if s.pollTimer then s.check else s
  | .check => s.check
  | .fetched i reply =>
    match s.checks[i]? with
    | some .fetching => s.fetched config i reply
    | _ => s
  | .verified i =>
    match s.checks[i]? with
    | some (.verifying m a than) => s.verified config i m a than
    | _ => s
  | .downloaded i reply =>
    match s.checks[i]? with
    | some (.downloading m a than) => s.downloaded config i m a than reply
    | _ => s
  | .applyWhenIdle => s.applyWhenIdle
  | .applied i ok =>
    match s.applies[i]? with
    | some a => s.applied i a ok
    | none => s
  | .timer i =>
    match s.timers[i]? with
    | some t => s.fire config i t
    | none => s
  | .health i healthy =>
    match s.healthChecks[i]? with
    | some t => s.health i t healthy
    | none => s
  | .rolledBack => { s with rollbacks := s.rollbacks - 1 }

/-- Every run from here is a run of the updater. -/
def initial (currentVersion : String) : State where
  currentVersion := currentVersion

end State

/-! ## What is applied -/

/-- A manifest is newer than the version it was compared with, and has the artifact. -/
structure Offered (config : Config N) (m : Manifest) (a : Artifact) (than : String) : Prop where
  newer : compareVersions config.numbers than m.version < 0
  selected : selectArtifact config m = some a

/-- The signature of the manifest is accepted, and the blob is the artifact of it. -/
structure Verified (config : Config N) (m : Manifest) (blob : Blob) (than : String) : Prop where
  signature : verifyManifestSignature config.crypto m config.publicKey = true
  newer : compareVersions config.numbers than m.version < 0
  checksum : ∃ a, selectArtifact config m = some a ∧
    parseChecksum a.checksum = .ok ("sha256", config.crypto.sha256 blob)

theorem offered_eq_some {config : Config N} {current : String} {reply : Option Manifest} {m : Manifest} {a : Artifact}
    (h : offered config current reply = some (m, a)) : Offered config m a current := by
  obtain ⟨m', -, h⟩ := Option.bind_eq_some_iff.mp h
  split at h
  · cases h
  · rename_i newer
    obtain ⟨a', selected, same⟩ := Option.map_eq_some_iff.mp h
    cases same
    exact ⟨by omega, selected⟩

theorem downloadAndVerifyArtifact_eq_some {crypto : Crypto} {a : Artifact} {reply : Option Blob} {blob : Blob}
    (h : downloadAndVerifyArtifact crypto a reply = some blob) :
    parseChecksum a.checksum = .ok ("sha256", crypto.sha256 blob) := by
  obtain ⟨-, valid⟩ := Option.filter_eq_some_iff.mp h
  exact verifyBlobChecksum_eq_true.mp (of_decide_eq_true valid)

/-- What a check has found so far. -/
def Check.Sound (config : Config N) : Check → Prop
  | .fetching => True
  | .verifying m a than => Offered config m a than
  | .downloading m a than => Offered config m a than ∧
    verifyManifestSignature config.crypto m config.publicKey = true

namespace State

/-- Manifest and blob are of one verified download wherever they are. -/
structure Sound (config : Config N) (s : State) : Prop where
  checks : ∀ c ∈ s.checks, c.Sound config
  waiting : ∀ m ∈ s.pendingManifest, ∀ blob ∈ s.pendingBlob, Verified config m blob s.than
  pending : s.state = .pending → s.pendingManifest.isSome ∧ s.pendingBlob.isSome
  calls : ∀ c ∈ s.calls, Verified config c.manifest c.blob c.than

section
variable {config : Config N} {s : State} {i : ℕ}

theorem Sound.check (h : s.Sound config) : s.check.Sound config := by
  unfold State.check
  split
  · exact h
  · refine ⟨fun c hc => ?_, h.waiting, fun other => (by cases other), h.calls⟩
    obtain old | new := List.mem_append.mp hc
    · exact h.checks c old
    · cases List.mem_singleton.mp new
      trivial

theorem Sound.start (h : s.Sound config) : s.start.Sound config := by
  unfold State.start
  split
  · exact h
  · exact ⟨h.check.checks, h.check.waiting, h.check.pending, h.check.calls⟩

theorem Sound.giveUp (h : s.Sound config) : (s.giveUp i).Sound config :=
  ⟨fun c hc => h.checks c (List.mem_of_mem_eraseIdx hc), h.waiting, fun other => (by cases other), h.calls⟩

theorem Sound.fetched (h : s.Sound config) (reply : Option Manifest) : (s.fetched config i reply).Sound config := by
  unfold State.fetched
  split
  · exact h.giveUp
  · rename_i m a offer
    refine ⟨fun c hc => ?_, h.waiting, h.pending, h.calls⟩
    obtain old | rfl := List.mem_or_eq_of_mem_set hc
    · exact h.checks c old
    · exact offered_eq_some offer

variable {m : Manifest} {a : Artifact} {than : String}

theorem Sound.verified (h : s.Sound config) (at_i : s.checks[i]? = some (.verifying m a than)) :
    (s.verified config i m a than).Sound config := by
  unfold State.verified
  split
  · rename_i accepted
    refine ⟨fun c hc => ?_, h.waiting, fun other => (by cases other), h.calls⟩
    obtain old | rfl := List.mem_or_eq_of_mem_set hc
    · exact h.checks c old
    · have found := h.checks _ (List.mem_of_getElem? at_i)
      exact ⟨found, accepted⟩
  · exact h.giveUp

theorem Sound.downloaded (h : s.Sound config) (at_i : s.checks[i]? = some (.downloading m a than))
    (reply : Option Blob) : (s.downloaded config i m a than reply).Sound config := by
  unfold State.downloaded
  split
  · exact h.giveUp
  · rename_i blob got
    obtain ⟨offer, accepted⟩ := h.checks _ (List.mem_of_getElem? at_i)
    refine ⟨fun c hc => h.checks c (List.mem_of_mem_eraseIdx hc), ?_, fun _ => ⟨rfl, rfl⟩, h.calls⟩
    rintro _ ⟨⟩ _ ⟨⟩
    exact ⟨accepted, offer.newer, a, offer.selected, downloadAndVerifyArtifact_eq_some got⟩

theorem Sound.applyWhenIdle (h : s.Sound config) : s.applyWhenIdle.Sound config := by
  unfold State.applyWhenIdle
  split
  · rename_i m blob pending manifest downloaded
    refine ⟨h.checks, h.waiting, fun other => (by cases other), fun c hc => ?_⟩
    obtain old | new := List.mem_append.mp hc
    · exact h.calls c old
    · cases List.mem_singleton.mp new
      exact h.waiting m manifest blob downloaded
  · exact h

theorem Sound.applied (h : s.Sound config) (c : Apply) (ok : Bool) : (s.applied i c ok).Sound config := by
  unfold State.applied
  cases ok with
  | false => exact ⟨h.checks, h.waiting, fun other => (by cases other), h.calls⟩
  | true =>
    cases c.manifest.rollout with
    | none => exact ⟨h.checks, h.waiting, fun other => (by cases other), h.calls⟩
    | some rollout => exact ⟨h.checks, fun _ none => (by cases none), fun other => (by cases other), h.calls⟩

theorem Sound.fire (h : s.Sound config) (t : Timer) : (s.fire config i t).Sound config := by
  unfold State.fire
  split <;> exact ⟨h.checks, h.waiting, h.pending, h.calls⟩

theorem Sound.health (h : s.Sound config) (t : Timer) (healthy : Option Bool) :
    (s.health i t healthy).Sound config := by
  unfold State.health
  split
  · exact ⟨h.checks, h.waiting, fun other => (by cases other), h.calls⟩
  · exact ⟨h.checks, h.waiting, h.pending, h.calls⟩
  · exact ⟨h.checks, h.waiting, h.pending, h.calls⟩

theorem Sound.step (h : s.Sound config) (act : Action) : (s.step config act).Sound config := by
  cases act with
  | start => exact h.start
  | check => exact h.check
  | applyWhenIdle => exact h.applyWhenIdle
  | stop | rolledBack => exact ⟨h.checks, h.waiting, h.pending, h.calls⟩
  | poll =>
    simp only [State.step]
    split
    · exact h.check
    · exact h
  | fetched i reply =>
    simp only [State.step]
    split
    · exact h.fetched reply
    · exact h
  | verified i =>
    simp only [State.step]
    split
    · exact h.verified ‹_›
    · exact h
  | downloaded i reply =>
    simp only [State.step]
    split
    · exact h.downloaded ‹_› reply
    · exact h
  | applied i ok =>
    simp only [State.step]
    split
    · exact h.applied _ ok
    · exact h
  | timer i =>
    simp only [State.step]
    split
    · exact h.fire _
    · exact h
  | health i healthy =>
    simp only [State.step]
    split
    · exact h.health _ healthy
    · exact h

theorem sound_initial (config : Config N) (currentVersion : String) : (initial currentVersion).Sound config :=
  ⟨fun _ hc => absurd hc List.not_mem_nil, fun _ none => (by cases none), fun other => (by cases other),
    fun _ hc => absurd hc List.not_mem_nil⟩

/-! ## One at a time -/

theorem length_applies_check (s : State) : s.check.applies = s.applies := by
  unfold State.check
  split <;> rfl

/-- A step that applies nothing starts no call of `onApply`. -/
theorem length_applies_step (config : Config N) (s : State) {act : Action} (other : act ≠ .applyWhenIdle) :
    (s.step config act).applies.length ≤ s.applies.length := by
  cases act with
  | applyWhenIdle => exact absurd rfl other
  | check => exact (length_applies_check s).symm ▸ le_refl _
  | stop | rolledBack => exact le_refl _
  | start =>
    simp only [State.step, State.start]
    split
    · exact le_refl _
    · exact (length_applies_check s).symm ▸ le_refl _
  | poll =>
    simp only [State.step]
    split
    · exact (length_applies_check s).symm ▸ le_refl _
    · exact le_refl _
  | fetched i reply =>
    simp only [State.step]
    split
    · unfold State.fetched
      split <;> exact le_refl _
    · exact le_refl _
  | verified i =>
    simp only [State.step]
    split
    · unfold State.verified
      split <;> exact le_refl _
    · exact le_refl _
  | downloaded i reply =>
    simp only [State.step]
    split
    · unfold State.downloaded
      split <;> exact le_refl _
    · exact le_refl _
  | applied i ok =>
    simp only [State.step]
    split
    · rename_i a at_i
      have fewer : (s.applied i a ok).applies = s.applies.eraseIdx i := by
        unfold State.applied
        cases ok with
        | false => rfl
        | true => cases a.manifest.rollout <;> rfl
      rw [fewer]
      exact List.length_eraseIdx_le _ _
    · exact le_refl _
  | timer i =>
    simp only [State.step]
    split
    · unfold State.fire
      split <;> exact le_refl _
    · exact le_refl _
  | health i healthy =>
    simp only [State.step]
    split
    · unfold State.health
      split <;> exact le_refl _
    · exact le_refl _

end

/-- Every call of `onApply` is of a verified update, and no two of them overlap. -/
structure OnlyVerified (config : Config N) (s : State) : Prop where
  verified : ∀ c ∈ s.calls, Verified config c.manifest c.blob c.than
  alone : s.applies.length ≤ 1

/-- No pending update is applied while another is. -/
def WhileNoneRuns (s : State) (act : Action) : Prop :=
  act = .applyWhenIdle → s.state = .pending → s.applies = []

/-- **Only verified updates are applied, one at a time unless a call overtakes another.** In every run each call of
`onApply` has a manifest whose signature was accepted and whose version is greater than what was current when the two
were compared, and the blob that its artifact's checksum is of. No two calls overlap if and only if `applyWhenIdle` is
never called on a pending update while an earlier one is still being applied. -/
theorem only_verified_iff (config : Config N) (currentVersion : String) (acts : List Action) :
    Runs.Always (State.step config) (OnlyVerified config) (initial currentVersion) acts ↔
      Runs.EachStep (State.step config) WhileNoneRuns (initial currentVersion) acts := by
  refine Runs.always_iff_eachStep (J := fun s => s.Sound config ∧ s.applies.length ≤ 1) ?_ ?_ ?_
    ⟨sound_initial config currentVersion, Nat.zero_le _⟩ acts
  · rintro s ⟨sound, alone⟩
    exact ⟨sound.calls, alone⟩
  · rintro s act ⟨sound, alone⟩ none
    refine ⟨sound.step act, ?_⟩
    by_cases applies : act = .applyWhenIdle
    · subst applies
      simp only [State.step, State.applyWhenIdle]
      split
      · rename_i pending manifest blob
        simp [none rfl pending]
      · exact alone
    · exact (length_applies_step config s applies).trans alone
  · rintro s act ⟨sound, -⟩ ⟨-, alone⟩ rfl pending
    obtain ⟨m, manifest⟩ := Option.isSome_iff_exists.mp (sound.pending pending).1
    obtain ⟨blob, downloaded⟩ := Option.isSome_iff_exists.mp (sound.pending pending).2
    simp only [State.step, State.applyWhenIdle, pending, manifest, downloaded, List.length_append, List.length_cons,
      List.length_nil] at alone
    exact List.length_eq_zero_iff.mp (by omega)

end State

end

/-! A third version is found and applied while the second is still being applied. -/

namespace Lobby

/-- Natural numbers in decimal, an accepting signature check and a hash that is the blob itself. -/
def config : Config ℕ where
  crypto := ⟨fun _ => some [], fun _ _ _ => true, id⟩
  numbers :=
    { parseInt := fun s => Decimal.parseDigits s.toList
      number := fun s => Decimal.parseDigits s.toList
      zero := 0 }
  publicKey := []
  platform := "linux/arm64"
  artifactName := "kiosk-shell"
  healthCheck := true

def release (version : String) : Manifest where
  version := version
  channel := "stable"
  releasedAt := "2026-01-01T00:00:00Z"
  artifacts := some [("kiosk-shell", ⟨"https://updates/kiosk-shell", "sha256:", some ["any"]⟩)]
  rollout := some ⟨"rolling", 1, 60⟩
  signature := "c2ln"

/-- A check that finds the version. -/
def found (version : String) : List Action :=
  [.check, .fetched 0 (some (release version)), .verified 0, .downloaded 0 (some [])]

theorem applies_overlap : ¬ Runs.Always (State.step config) (State.OnlyVerified config) (State.initial "v1")
    (found "v2" ++ [.applyWhenIdle] ++ found "v3" ++ [.applyWhenIdle]) := by
  intro always
  have alone := (Runs.always_last always).alone
  revert alone
  decide +kernel

end Lobby

end Kiosk.Updater
