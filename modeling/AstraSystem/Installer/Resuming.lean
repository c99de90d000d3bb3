import AstraSystem.Installer.Passwords

/-!
# Taking the wizard up again

A launch of the wizard goes on from the step in the state file, wherever the one before was killed, and two launches in
which all goes well finish the installation: the first may find that it has no password, the second deploys with the
flags. Only a state file that was torn when it was written stops every later launch.
-/

namespace Installer

/-- What an effect leaves of the state file of a directory: torn, not torn, or as it was. -/
def Effect.marks (dir : String) : Effect → Option Bool
  | .save d _ fate =>
    if d = dir then
      match fate with
      | .written => some false
      | .untouched => none
      | .torn => some true
    else none
  | .removeAll d outcome =>
    if d = dir then
      match outcome with
      | .removed | .failed false _ => some false
      | .failed true _ => none
    else none
  | _ => none

/-- The last of the effects that did something to the state file has torn it. -/
def Tears (dir : String) (es : List Effect) : Prop := (es.filterMap (Effect.marks dir)).getLast? = some true

instance decidableTears (dir : String) (es : List Effect) : Decidable (Tears dir es) :=
  inferInstanceAs (Decidable (_ = some true))

namespace Machine

def state (m : Machine) (dir : String) : Option (Written Step) := (m.dirs dir).state

variable {p : Platform} {image : PostgresImage} {m : Machine}

/-- What an effect does to the state file of a directory. -/
theorem torn_apply (dir : String) (e : Effect) :
    (m.apply image e).state dir = some .torn ↔
      match e.marks dir with
      | some torn => torn = true
      | none => m.state dir = some .torn := by
  have elsewhere (d : String) (f : Dir → Dir) (h : d ≠ dir) : (m.update d f).state dir = m.state dir := by
    rw [state, update_dirs_of_ne m f (Ne.symm h), state]
  cases e with
  | save d step fate =>
    by_cases h : d = dir
    · subst h
      cases fate <;> simp [apply, state, writeFile, Effect.marks]
    · simp [apply, elsewhere d _ h, Effect.marks, h]
  | removeAll d outcome =>
    by_cases h : d = dir
    · subst h
      rcases outcome with _ | ⟨_ | _, kept⟩ <;> simp [apply, state, Effect.marks]
    · cases outcome <;> simp [apply, elsewhere d _ h, Effect.marks, h]
  | compose d file fate =>
    by_cases h : d = dir
    · subst h
      simp [apply, state, Effect.marks]
    · simp [apply, elsewhere d _ h, Effect.marks]
  | up | down | register | unregister => exact Iff.rfl

theorem torn_run (dir : String) (es : List Effect) :
    (Runs.run (apply image) m es).state dir = some .torn ↔
      match (es.filterMap (Effect.marks dir)).getLast? with
      | some torn => torn = true
      | none => m.state dir = some .torn := by
  induction es using List.reverseRecOn with
  | nil => exact Iff.rfl
  | append_singleton es e ih =>
    rw [Runs.run_concat, torn_apply, List.filterMap_append]
    cases mark : e.marks dir with
    | some torn => simp [mark]
    | none => simpa [mark] using ih

theorem torn_step_iff {dir : String} (whole : m.state dir ≠ some .torn) (act : Act) :
    (step p image m act).state dir = some .torn ↔ Tears dir (performed p image m act) := by
  rw [step, torn_run, Tears]
  cases last : ((performed p image m act).filterMap (Effect.marks dir)).getLast? with
  | none => simpa using whole
  | some torn => simp

/-! ## A launch in which all goes well -/

theorem state_apply_save (home : String) (step : Step) :
    (m.apply image (.save home step .written)).state home = some (.whole step) := by
  simp [apply, state, writeFile]

/-- Only saving the state and removing directories change state files. -/
theorem state_run_of_keeps (home : String) {es : List Effect}
    (keeps : ∀ e ∈ es, (∀ dir step fate, e ≠ .save dir step fate) ∧ ∀ dir outcome, e ≠ .removeAll dir outcome) :
    (Runs.run (apply image) m es).state home = m.state home := by
  induction es generalizing m with
  | nil => rfl
  | cons e es ih =>
    rw [Runs.run_cons, ih fun e' mem => keeps e' (List.mem_cons_of_mem e mem)]
    have kept := keeps e List.mem_cons_self
    cases e with
    | save dir step fate => exact absurd rfl (kept.1 dir step fate)
    | removeAll dir outcome => exact absurd rfl (kept.2 dir outcome)
    | compose d file fate =>
      by_cases h : d = home
      · subst h
        simp [apply, state]
      · rw [apply, state, update_dirs_of_ne m _ (Ne.symm h), state]
    | up | down | register | unregister => rfl

variable (p) (image) (m)

/-- The deployment goes well if there is a database or a password. -/
theorem run_well (volume : Option String) (key : String) (cfg : Config) :
    (∀ e ∈ (cfg.run image volume (.well key)).effects,
      (∀ dir step fate, e ≠ .save dir step fate) ∧ ∀ dir outcome, e ≠ .removeAll dir outcome) ∧
    (cfg.run image volume (.well key)).ok = (image.start volume cfg.postgresPW).isSome := by
  simp [Config.run, Script.effects_andThen, Answers.well, Fate.isWritten]

theorem state_handleDeploy (m' : Machine) (key home : String) (cfg : Config) :
    (Runs.run (apply image) m' (handleDeploy p image m (.well key) home cfg)).state home =
      if (image.start m.volume cfg.postgresPW).isSome then some (.whole .done) else m'.state home := by
  obtain ⟨keeps, ok⟩ := run_well image m.volume key cfg
  rw [handleDeploy, ← ok]
  cases ok' : (cfg.run image m.volume (.well key)).ok with
  | true =>
    simp only [if_true, ← List.append_assoc, Runs.run_concat]
    exact state_apply_save home .done
  | false => simpa [ok'] using state_run_of_keeps home keeps

theorem state_handleDocker (m' : Machine) (key home dataDir : String) :
    let after := (Runs.run (apply image) m' (handleDocker p image m (.well key) home dataDir)).state home
    after = some (.whole .done) ∨ after = some (.whole .deploy) := by
  simp only [handleDocker, Answers.well, Bool.not_true, Bool.and_false, Bool.false_eq_true, if_false, if_true,
    Runs.run_cons]
  have after := state_handleDeploy p image m (m'.apply image (.save home .deploy .written)) key home (p.passedOn dataDir)
  rw [state_apply_save] at after
  split at after
  · exact .inl after
  · exact .inr after

/-- What a launch makes of the step in the state file. -/
theorem state_launch {flags : Config} (valid : flags.valid = true) (chosen : flags.postgresPW ≠ "") (key : String) :
    let after := (step p image m (.launch .interactive flags (.well key) none)).state flags.dataDir
    match m.state flags.dataDir with
    | some .torn => after = some .torn
    | some (.whole .done) | some (.whole .deploy) => after = some (.whole .done)
    | _ => after = some (.whole .done) ∨ after = some (.whole .deploy) := by
  have all : performed p image m (.launch .interactive flags (.well key) none) =
      doInteractiveInstall p image m (.well key) flags := by
    simp [performed, effects, main, Act.killed, valid]
  have docker (m' : Machine) (dataDir : String) := state_handleDocker p image m m' key flags.dataDir dataDir
  have wsl : let after := (Runs.run (apply image) m (if p.isWindows then handleWSL p image m (.well key) flags.dataDir
        else .save flags.dataDir .docker .written ::
          handleDocker p image m (.well key) flags.dataDir flags.dataDir)).state flags.dataDir
      after = some (.whole .done) ∨ after = some (.whole .deploy) := by
    split
    · simp only [handleWSL, Answers.well, Bool.or_true, if_true, Runs.run_cons]
      exact docker _ _
    · exact docker _ _
  have opens : (Answers.well key).opens = true := rfl
  have stays : answers (Answers.well key).reinstall "y" "Y" = false := rfl
  intro after
  have file : (m.dirs flags.dataDir).state = m.state flags.dataDir := rfl
  have here : after = (Runs.run (apply image) m (doInteractiveInstall p image m (.well key) flags)).state flags.dataDir := by
    simp only [after, step, all]
  simp only [doInteractiveInstall, opens, file, Bool.not_true, Bool.false_eq_true, if_false] at here
  rcases at' : m.state flags.dataDir with _ | step | _
  · rw [at'] at here
    exact here ▸ wsl
  · rw [at'] at here
    cases step with
    | wsl => exact here ▸ wsl
    | docker => exact here ▸ docker m flags.dataDir
    | deploy =>
      have started : (image.start m.volume flags.postgresPW).isSome = true := by
        cases volume : m.volume <;> simp [start_eq, chosen]
      simp only [stepOf, state_handleDeploy, started, if_true] at here
      exact here
    | done =>
      simp only [stepOf, stays, Bool.false_eq_true, if_false, Runs.run_nil, at'] at here
      exact here
  · rw [at'] at here
    exact here.trans at'

end Machine

/-! ## Runs -/

/-- Two launches finish the installation. -/
def Resumable (p : Platform) (image : PostgresImage) (flags : Config) (m : Machine) : Prop :=
  ∀ key key', (Runs.run (step p image) m [.launch .interactive flags (.well key) none,
    .launch .interactive flags (.well key') none]).state flags.dataDir = some (.whole .done)

theorem resumable_iff_whole {p : Platform} {image : PostgresImage} {flags : Config} (valid : flags.valid = true)
    (chosen : flags.postgresPW ≠ "") {m : Machine} :
    Resumable p image flags m ↔ m.state flags.dataDir ≠ some .torn := by
  have once (m : Machine) (key : String) := Machine.state_launch p image m valid chosen key
  constructor
  · intro resumable torn
    have first := once m ""
    have second := once (step p image m (.launch .interactive flags (.well "") none)) ""
    simp only [torn] at first
    simp only [first] at second
    exact absurd (resumable "" "") (by simp [Runs.run, second])
  · intro whole key key'
    have first : let after := (step p image m (.launch .interactive flags (.well key) none)).state flags.dataDir
        after = some (.whole .done) ∨ after = some (.whole .deploy) := by
      have first := once m key
      split at first
      · exact absurd ‹_› whole
      · exact .inl first
      · exact .inl first
      · exact first
    have second := once (step p image m (.launch .interactive flags (.well key) none)) key'
    rcases first with first | first
    · simp only [first] at second
      exact second
    · simp only [first] at second
      exact second

/-- However the installer is launched, killed and taken down again, the wizard can be taken up throughout exactly if no
launch leaves the state file torn. -/
theorem resumable_iff (p : Platform) (image : PostgresImage) {flags : Config} (valid : flags.valid = true)
    (chosen : flags.postgresPW ≠ "") (acts : List Act) :
    Runs.Always (step p image) (Resumable p image flags) {} acts ↔
      Runs.EachStep (step p image) (fun m act => ¬ Tears flags.dataDir (performed p image m act)) {} acts := by
  apply Runs.always_iff_eachStep (J := fun m => m.state flags.dataDir ≠ some .torn)
  · exact fun m whole => (resumable_iff_whole valid chosen).mpr whole
  · intro m act whole
    exact mt (Machine.torn_step_iff whole act).mp
  · intro m act whole resumable
    exact mt (Machine.torn_step_iff whole act).mpr ((resumable_iff_whole valid chosen).mp resumable)
  · simp [Machine.state]

namespace Secret

/-- The wizard is killed while it notes that the deployment comes next. -/
def cut : Act :=
  .launch .interactive own
    { Answers.well "k1" with save := fun step => if step = .deploy then .torn else .written } (some 2)

theorem stuck : ¬ Runs.Always (step till .official) (Resumable till .official own) {} [cut, launch] := by
  rw [resumable_iff till .official (show own.valid = true by decide) (by decide)]
  decide

end Secret

end Installer
