import AstraSystem.Kiosk.Updater.Updater

/-!
# What the updater reports and what runs

A failed health check calls `onRollback` and leaves `currentVersion`, and a check or an application that fails leaves a
pending update where `applyWhenIdle` does not look. Reports and facts agree in runs without either.
-/

namespace Kiosk.Updater

variable {N : Type} [LinearOrder N]

namespace State

/-- A verified manifest and its blob wait. -/
def Waiting (config : Config N) (s : State) : Prop :=
  ∃ m ∈ s.pendingManifest, ∃ blob ∈ s.pendingBlob, Verified config m blob s.than

/-- No call is in progress. -/
structure Quiet (s : State) : Prop where
  checks : s.checks = []
  applies : s.applies = []
  healthChecks : s.healthChecks = []
  rollbacks : s.rollbacks = 0

structure Bookkeeping (config : Config N) (s : State) : Prop where
  current : s.Quiet → s.currentVersion = s.running
  named : ∀ r ∈ s.rollbackCalls, r.named = r.update.before
  failed : s.currentVersion ∉ s.failed
  pending : s.Quiet → (s.state = .pending ↔ s.Waiting config)

/-! ## The versions -/

/-- An update takes effect or fails where the version is still current that was so when it was begun, it has a rollout,
and its version has not failed a health check. A health check fails only of an update that is not current, where what
it replaced is. -/
def KeepsCurrent (s : State) : Action → Prop
  | .applied i ok => ∀ a ∈ s.applies[i]?, a.previousVersion = s.currentVersion ∧
    (ok = true → (a.manifest.rollout.isSome ∨ a.manifest.version = s.currentVersion) ∧
      a.manifest.version ∉ s.failed)
  | .health i healthy => healthy = some false → ∀ t ∈ s.healthChecks[i]?,
    t.previousVersion = s.currentVersion ∧ t.update.version ≠ s.currentVersion
  | _ => True

/-- Timers and health checks know what to go back to. -/
structure Current (s : State) : Prop where
  running : s.currentVersion = s.running
  timers : ∀ t ∈ s.timers, t.previousVersion = t.update.before
  healthChecks : ∀ t ∈ s.healthChecks, t.previousVersion = t.update.before
  named : ∀ r ∈ s.rollbackCalls, r.named = r.update.before
  failed : s.currentVersion ∉ s.failed

section
variable {s : State} {i : ℕ}

theorem Current.check (h : s.Current) : s.check.Current := by
  unfold State.check
  split
  · exact h
  · exact ⟨h.running, h.timers, h.healthChecks, h.named, h.failed⟩

theorem Current.applied (h : s.Current) {a : Apply} {ok : Bool} (previous : a.previousVersion = s.currentVersion)
    (keeps : ok = true → (a.manifest.rollout.isSome ∨ a.manifest.version = s.currentVersion) ∧
      a.manifest.version ∉ s.failed) : (s.applied i a ok).Current := by
  have back : a.previousVersion = s.running := previous.trans h.running
  have named (r : Rollback) (hr : r ∈ s.rollbackCalls ++ [⟨a.previousVersion, a.manifest.version, s.running⟩]) :
      r.named = r.update.before := by
    obtain old | new := List.mem_append.mp hr
    · exact h.named r old
    · cases List.mem_singleton.mp new
      exact back
  cases ok with
  | false => exact ⟨previous.symm, h.timers, h.healthChecks, named, h.failed⟩
  | true =>
    obtain ⟨rollout, fresh⟩ := keeps rfl
    unfold State.applied
    cases given : a.manifest.rollout with
    | none =>
      have same : a.manifest.version = s.currentVersion := rollout.resolve_left (by simp [given])
      exact ⟨same.trans previous.symm, h.timers, h.healthChecks, named, fresh⟩
    | some _ =>
      refine ⟨rfl, fun t ht => ?_, h.healthChecks, h.named, fresh⟩
      obtain old | new := List.mem_append.mp ht
      · exact h.timers t old
      · cases List.mem_singleton.mp new
        exact back

omit [LinearOrder N] in
theorem Current.fire (h : s.Current) (config : Config N) {t : Timer} (at_i : s.timers[i]? = some t) :
    (s.fire config i t).Current := by
  have left (t' : Timer) (ht : t' ∈ s.timers.eraseIdx i) : t'.previousVersion = t'.update.before :=
    h.timers t' (List.mem_of_mem_eraseIdx ht)
  unfold State.fire
  split
  · refine ⟨h.running, left, fun t' ht => ?_, h.named, h.failed⟩
    obtain old | new := List.mem_append.mp ht
    · exact h.healthChecks t' old
    · cases List.mem_singleton.mp new
      exact h.timers t (List.mem_of_getElem? at_i)
  · exact ⟨h.running, left, h.healthChecks, h.named, h.failed⟩

theorem Current.health (h : s.Current) {t : Timer} (at_i : s.healthChecks[i]? = some t) {healthy : Option Bool}
    (keeps : healthy = some false → t.previousVersion = s.currentVersion ∧ t.update.version ≠ s.currentVersion) :
    (s.health i t healthy).Current := by
  have left (t' : Timer) (ht : t' ∈ s.healthChecks.eraseIdx i) : t'.previousVersion = t'.update.before :=
    h.healthChecks t' (List.mem_of_mem_eraseIdx ht)
  unfold State.health
  split
  · obtain ⟨previous, other⟩ := keeps rfl
    refine ⟨previous.symm, h.timers, left, fun r hr => ?_, fun hv => ?_⟩
    · obtain old | new := List.mem_append.mp hr
      · exact h.named r old
      · cases List.mem_singleton.mp new
        exact h.healthChecks t (List.mem_of_getElem? at_i)
    · obtain old | new := List.mem_append.mp hv
      · exact h.failed old
      · exact other (List.mem_singleton.mp new).symm
  · exact ⟨h.running, h.timers, left, h.named, h.failed⟩
  · exact ⟨h.running, h.timers, left, h.named, h.failed⟩

theorem Current.step (h : s.Current) (config : Config N) {act : Action} (keeps : s.KeepsCurrent act) :
    (s.step config act).Current := by
  have same {s' : State} (current : s'.currentVersion = s.currentVersion) (running : s'.running = s.running)
      (timers : s'.timers = s.timers) (health : s'.healthChecks = s.healthChecks)
      (named : s'.rollbackCalls = s.rollbackCalls) (failed : s'.failed = s.failed) : s'.Current :=
    ⟨by rw [current, running, h.running], timers ▸ h.timers, health ▸ h.healthChecks, named ▸ h.named,
      current ▸ failed ▸ h.failed⟩
  cases act with
  | check => exact h.check
  | rolledBack => exact same rfl rfl rfl rfl rfl rfl
  | stop =>
    exact ⟨h.running, fun t ht => h.timers t (List.mem_filter.mp ht).1, h.healthChecks, h.named, h.failed⟩
  | start =>
    simp only [State.step, State.start]
    split
    · exact h
    · exact ⟨h.check.running, h.check.timers, h.check.healthChecks, h.check.named, h.check.failed⟩
  | poll =>
    simp only [State.step]
    split
    · exact h.check
    · exact h
  | fetched i reply =>
    simp only [State.step]
    split
    · unfold State.fetched
      split <;> exact same rfl rfl rfl rfl rfl rfl
    · exact h
  | verified i =>
    simp only [State.step]
    split
    · unfold State.verified
      split <;> exact same rfl rfl rfl rfl rfl rfl
    · exact h
  | downloaded i reply =>
    simp only [State.step]
    split
    · unfold State.downloaded
      split <;> exact same rfl rfl rfl rfl rfl rfl
    · exact h
  | applyWhenIdle =>
    simp only [State.step, State.applyWhenIdle]
    split
    · exact same rfl rfl rfl rfl rfl rfl
    · exact h
  | applied i ok =>
    simp only [State.step]
    split
    · rename_i a at_i
      obtain ⟨previous, effect⟩ := keeps a at_i
      exact h.applied previous effect
    · exact h
  | timer i =>
    simp only [State.step]
    split
    · exact h.fire config ‹_›
    · exact h
  | health i healthy =>
    simp only [State.step]
    split
    · rename_i t at_i
      exact h.health at_i fun failing => keeps failing t at_i
    · exact h

end

/-! ## The pending update -/

/-- At least so many checks and applications are in progress if an update waits. -/
def Busy (config : Config N) (n : ℕ) (s : State) : Prop :=
  s.Waiting config → n ≤ s.checks.length + s.applies.length

/-- While an update waits, a check ends without one and an application or a health check fails only if another check or
application is in progress. -/
def KeepsPending (config : Config N) (s : State) : Action → Prop
  | .fetched i reply => s.checks[i]? = some .fetching → offered config s.currentVersion reply = none → s.Busy config 2
  | .verified i => ∀ m a than, s.checks[i]? = some (.verifying m a than) →
    verifyManifestSignature config.crypto m config.publicKey = false → s.Busy config 2
  | .downloaded i reply => ∀ m a than, s.checks[i]? = some (.downloading m a than) →
    downloadAndVerifyArtifact config.crypto a reply = none → s.Busy config 2
  | .applied i ok => ∀ a ∈ s.applies[i]?, (ok = true → a.manifest.rollout = none) → s.Busy config 2
  | .health i healthy => healthy = some false → ∀ t ∈ s.healthChecks[i]?, s.Busy config 1
  | _ => True

/-- An update that waits is pending, or something is in progress. -/
def Attended (config : Config N) (s : State) : Prop := s.state ≠ .pending → s.Busy config 1

section
variable {config : Config N} {s : State} {i : ℕ}

theorem Attended.check (h : s.Attended config) : s.check.Attended config := by
  unfold State.check
  split
  · exact h
  · intro _ _
    simp only [List.length_append, List.length_cons]
    omega

theorem attended_giveUp {c : Check} (at_i : s.checks[i]? = some c) (busy : s.Busy config 2) :
    (s.giveUp i).Attended config := by
  intro _ waits
  have more := busy waits
  have bound : i < s.checks.length := (List.getElem?_eq_some_iff.mp at_i).1
  simp only [giveUp, List.length_eraseIdx_of_lt bound]
  omega

theorem attended_applied {a : Apply} {ok : Bool} (at_i : s.applies[i]? = some a)
    (busy : (ok = true → a.manifest.rollout = none) → s.Busy config 2) : (s.applied i a ok).Attended config := by
  have bound : i < s.applies.length := (List.getElem?_eq_some_iff.mp at_i).1
  have left (keeps : s.Busy config 2) (waits : s.Waiting config) :
      1 ≤ s.checks.length + (s.applies.eraseIdx i).length := by
    have more := keeps waits
    rw [List.length_eraseIdx_of_lt bound]
    omega
  unfold State.applied
  cases ok with
  | false => exact fun _ => left (busy fun other => (by cases other))
  | true =>
    cases given : a.manifest.rollout with
    | none => exact fun _ => left (busy fun _ => given)
    | some _ =>
      rintro _ ⟨_, none, -⟩
      cases none

theorem attended_health {t : Timer} {healthy : Option Bool} (h : s.Attended config)
    (busy : healthy = some false → s.Busy config 1) : (s.health i t healthy).Attended config := by
  unfold State.health
  split
  · exact fun _ => busy rfl
  · exact h
  · exact h

theorem Attended.step (h : s.Attended config) {act : Action} (keeps : s.KeepsPending config act) :
    (s.step config act).Attended config := by
  -- A check goes on in the place of the one that was there.
  have onward {i : ℕ} {c : Check} (at_i : s.checks[i]? = some c) (c' : Check) :
      1 ≤ (s.checks.set i c').length + s.applies.length := by
    have bound : i < s.checks.length := (List.getElem?_eq_some_iff.mp at_i).1
    rw [List.length_set]
    omega
  cases act with
  | check => exact h.check
  | stop | rolledBack => exact h
  | start =>
    simp only [State.step, State.start]
    split
    · exact h
    · exact h.check
  | poll =>
    simp only [State.step]
    split
    · exact h.check
    · exact h
  | fetched i reply =>
    simp only [State.step]
    split
    · rename_i at_i
      unfold State.fetched
      split
      · exact attended_giveUp at_i (keeps at_i ‹_›)
      · exact fun _ _ => onward at_i _
    · exact h
  | verified i =>
    simp only [State.step]
    split
    · rename_i at_i
      unfold State.verified
      split
      · exact fun _ _ => onward at_i _
      · exact attended_giveUp at_i (keeps _ _ _ at_i (Bool.eq_false_of_not_eq_true ‹_›))
    · exact h
  | downloaded i reply =>
    simp only [State.step]
    split
    · rename_i at_i
      unfold State.downloaded
      split
      · exact attended_giveUp at_i (keeps _ _ _ at_i ‹_›)
      · exact fun other => absurd rfl other
    · exact h
  | applyWhenIdle =>
    simp only [State.step, State.applyWhenIdle]
    split
    · intro _ _
      simp only [List.length_append, List.length_cons]
      omega
    · exact h
  | applied i ok =>
    simp only [State.step]
    split
    · exact attended_applied ‹_› (keeps _ ‹_›)
    · exact h
  | timer i =>
    simp only [State.step]
    split
    · unfold State.fire
      split <;> exact h
    · exact h
  | health i healthy =>
    simp only [State.step]
    split
    · exact attended_health h fun failing => keeps failing _ ‹_›
    · exact h

end

/-! ## Runs -/

/-- The update was begun where its version is still current, and nothing fails of what is current or waits. -/
def Permitted (config : Config N) (s : State) (act : Action) : Prop :=
  s.KeepsCurrent act ∧ s.KeepsPending config act

theorem bookkeeping_of {config : Config N} {s : State} (sound : s.Sound config) (current : s.Current)
    (attended : s.Attended config) : s.Bookkeeping config where
  current := fun _ => current.running
  named := current.named
  failed := current.failed
  pending := by
    intro quiet
    constructor
    · intro pending
      obtain ⟨m, manifest⟩ := Option.isSome_iff_exists.mp (sound.pending pending).1
      obtain ⟨blob, downloaded⟩ := Option.isSome_iff_exists.mp (sound.pending pending).2
      exact ⟨m, manifest, blob, downloaded, sound.waiting m manifest blob downloaded⟩
    · intro waits
      by_contra other
      have busy := attended other waits
      rw [quiet.checks, quiet.applies] at busy
      exact absurd busy (by decide)

/-- **The updater's books are right while nothing fails that runs or waits.** In a run in which every update takes effect
or fails while the version is current that was so when it was begun, with a rollout and a version that has not failed,
in which health checks fail only of updates that are not current where what they replaced is, and in which an update
that waits is not left by the last check or application in progress and no health check fails beside it, the current
version is always what runs and has not failed, every rollback names what ran before the update, and the state is
pending exactly if a verified update waits. -/
theorem bookkeeping (config : Config N) (currentVersion : String) {acts : List Action}
    (permitted : Runs.EachStep (State.step config) (Permitted config) (initial currentVersion) acts) :
    Runs.Always (State.step config) (Bookkeeping config) (initial currentVersion) acts := by
  refine Runs.always_of_eachStep (J := fun s => s.Sound config ∧ s.Current ∧ s.Attended config) ?_ ?_ ?_ permitted
  · rintro s ⟨sound, current, attended⟩
    exact bookkeeping_of sound current attended
  · rintro s act ⟨sound, current, attended⟩ ⟨keepsCurrent, keepsPending⟩
    exact ⟨sound.step act, current.step config keepsCurrent, attended.step keepsPending⟩
  · refine ⟨sound_initial config currentVersion, ⟨rfl, ?_, ?_, ?_, List.not_mem_nil⟩, ?_⟩
    · exact fun _ ht => absurd ht List.not_mem_nil
    · exact fun _ ht => absurd ht List.not_mem_nil
    · exact fun _ hr => absurd hr List.not_mem_nil
    · rintro _ ⟨_, none, -⟩
      cases none

theorem busy_of_none {config : Config N} {s : State} {n : ℕ} (none : s.pendingManifest = none) : s.Busy config n := by
  rintro ⟨_, some, -⟩
  rw [none] at some
  cases some

end State

namespace Lobby

/-- The second version is pending. -/
def staged : State := Runs.run (State.step config) (State.initial "v1") (found "v2")

/-- It takes effect and is healthy. -/
theorem bookkeeping_healthy : Runs.Always (State.step config) (State.Bookkeeping config) (State.initial "v1")
    (found "v2" ++ [.applyWhenIdle, .applied 0 true, .timer 0, .health 0 (some true)]) := by
  have checked : Runs.EachStep (State.step config) (State.Permitted config) (State.initial "v1") (found "v2") :=
    ⟨⟨trivial, trivial⟩, ⟨trivial, fun _ _ => State.busy_of_none rfl⟩,
      ⟨trivial, fun _ _ _ _ _ => State.busy_of_none (by decide +kernel)⟩,
      ⟨trivial, fun _ _ _ _ _ => State.busy_of_none (by decide +kernel)⟩, trivial⟩
  have applying : ∀ a ∈ (staged.step config .applyWhenIdle).applies[0]?,
      a.previousVersion = (staged.step config .applyWhenIdle).currentVersion ∧ a.manifest.rollout.isSome ∧
        a.manifest.version ∉ (staged.step config .applyWhenIdle).failed := by
    decide +kernel
  refine State.bookkeeping config "v1" (Runs.eachStep_append.mpr ⟨checked, ⟨trivial, trivial⟩, ⟨fun a ha => ?_, ?_⟩,
    ⟨trivial, trivial⟩, ⟨fun other => (by cases other), fun other => (by cases other)⟩, trivial⟩)
  · obtain ⟨previous, rollout, fresh⟩ := applying a ha
    exact ⟨previous, fun _ => ⟨.inl rollout, fresh⟩⟩
  · intro a ha none
    obtain ⟨-, rollout, -⟩ := applying a ha
    rw [none rfl] at rollout
    cases rollout

/-- It fails its health check and is rolled back, and stays the current version. -/
theorem failed_current : ¬ Runs.Always (State.step config) (State.Bookkeeping config) (State.initial "v1")
    (found "v2" ++ [.applyWhenIdle, .applied 0 true, .timer 0, .health 0 (some false), .rolledBack]) := by
  intro always
  have last := Runs.always_last always
  have current := last.current ⟨by decide +kernel, by decide +kernel, by decide +kernel, by decide +kernel⟩
  exact absurd current (by decide +kernel)

example : (Runs.run (State.step config) staged [.check, .fetched 0 none]).state = .idle ∧
    (Runs.run (State.step config) staged [.check, .fetched 0 none]).pendingManifest = some (release "v2") := by
  decide +kernel

end Lobby

end Kiosk.Updater
