import AstraSystem.Installer.Wizard

/-!
# The password of the database over runs of the installer

The database keeps the password that it was set up with, and the services get that of the launch that brings them up, in
a URL that nothing quotes. So they can log in throughout a run exactly if every launch that brings them up has a URL
whose password is the database's. Between plain passwords this says that they are the same. The unit that the installer
registers deploys with the default of the flag.
-/

namespace Installer

/-! ## What a launch brings up -/

/-- The effect is one on the containers. -/
def Effect.touches : Effect → Bool
  | .up _ _ | .down _ => true
  | _ => false

/-- Nothing but this file is brought up. -/
def Ups (file : ComposeFile) (outcome : Up) (es : List Effect) : Prop :=
  ∀ e ∈ es, e.touches = true → e = .up file outcome

section
variable {file : ComposeFile} {outcome : Up} {es fs : List Effect}

theorem Ups.nil : Ups file outcome [] := fun _ mem => absurd mem List.not_mem_nil

theorem Ups.append (h : Ups file outcome es) (h' : Ups file outcome fs) : Ups file outcome (es ++ fs) := by
  intro e mem
  rcases List.mem_append.mp mem with mem | mem
  · exact h e mem
  · exact h' e mem

theorem Ups.save (h : Ups file outcome es) {dir : String} {step : Step} {fate : Fate} :
    Ups file outcome (.save dir step fate :: es) := by
  intro e mem touches
  rcases List.mem_cons.mp mem with rfl | mem
  · cases touches
  · exact h e mem touches

theorem ups_ite {c : Prop} [Decidable c] (h : Ups file outcome es) (h' : Ups file outcome fs) :
    Ups file outcome (if c then es else fs) := by
  split
  · exact h
  · exact h'

end

section
variable (p : Platform) (image : PostgresImage) (m : Machine) (a : Answers)

theorem ups_run (cfg : Config) : Ups (cfg.composeFile a) a.up (cfg.run image m.volume a).effects := by
  intro e mem touches
  unfold Config.run at mem
  repeat'
    rcases Script.mem_andThen mem with mem | mem
    · simp_all [Effect.touches]
  all_goals simp_all

theorem ups_install (cfg : Config) (file : ComposeFile) (outcome : Up) : Ups file outcome (install p m a cfg) := by
  intro e mem touches
  unfold install at mem
  split at mem
  · obtain rfl := List.mem_singleton.mp mem
    cases touches
  · cases mem

theorem ups_handleDeploy (home : String) (cfg : Config) :
    Ups (cfg.composeFile a) a.up (handleDeploy p image m a home cfg) := by
  apply (ups_run image m a cfg).append
  apply ups_ite
  · exact (ups_install p m a cfg _ _).append Ups.nil.save
  · exact Ups.nil

theorem ups_handleDocker (home dataDir : String) :
    Ups ((p.passedOn dataDir).composeFile a) a.up (handleDocker p image m a home dataDir) := by
  have goOn : Ups ((p.passedOn dataDir).composeFile a) a.up
      (.save home .deploy (a.save .deploy) :: handleDeploy p image m a home (p.passedOn dataDir)) :=
    (ups_handleDeploy p image m a home (p.passedOn dataDir)).save
  unfold handleDocker
  apply ups_ite Ups.nil
  apply ups_ite goOn
  apply ups_ite
  · exact ups_ite Ups.nil Ups.nil.save
  · exact ups_ite goOn Ups.nil

theorem ups_handleWSL (home : String) :
    Ups ((p.passedOn p.defaultDataDir).composeFile a) a.up (handleWSL p image m a home) := by
  have goOn : Ups ((p.passedOn p.defaultDataDir).composeFile a) a.up
      (.save home .docker (a.save .docker) :: handleDocker p image m a home p.defaultDataDir) :=
    (ups_handleDocker p image m a home p.defaultDataDir).save
  unfold handleWSL
  apply ups_ite goOn
  apply ups_ite Ups.nil
  exact ups_ite goOn Ups.nil.save

/-- The wizard deploys with its flags if the file says so, and without a password otherwise. -/
def wizardPassword (flags : Config) : String :=
  if (m.dirs flags.dataDir).state = some (.whole .deploy) then flags.postgresPW else ""

theorem ups_doInteractiveInstall (flags : Config) :
    ∃ cfg : Config, cfg.postgresPW = wizardPassword m flags ∧
      Ups (cfg.composeFile a) a.up (doInteractiveInstall p image m a flags) := by
  unfold doInteractiveInstall wizardPassword
  cases file : (m.dirs flags.dataDir).state with
  | none =>
    by_cases windows : p.isWindows
    · refine ⟨p.passedOn p.defaultDataDir, by simp [Platform.passedOn], ups_ite Ups.nil ?_⟩
      simpa [stepOf, windows] using ups_handleWSL p image m a flags.dataDir
    · refine ⟨p.passedOn flags.dataDir, by simp [Platform.passedOn], ups_ite Ups.nil ?_⟩
      simpa [stepOf, windows] using (ups_handleDocker p image m a flags.dataDir flags.dataDir).save
  | some written =>
    cases written with
    | torn => exact ⟨p.passedOn "", by simp [Platform.passedOn], ups_ite Ups.nil Ups.nil⟩
    | whole step =>
      cases step with
      | wsl =>
        by_cases windows : p.isWindows
        · refine ⟨p.passedOn p.defaultDataDir, by simp [Platform.passedOn], ups_ite Ups.nil ?_⟩
          simpa [stepOf, windows] using ups_handleWSL p image m a flags.dataDir
        · refine ⟨p.passedOn flags.dataDir, by simp [Platform.passedOn], ups_ite Ups.nil ?_⟩
          simpa [stepOf, windows] using (ups_handleDocker p image m a flags.dataDir flags.dataDir).save
      | docker =>
        refine ⟨p.passedOn flags.dataDir, by simp [Platform.passedOn], ups_ite Ups.nil ?_⟩
        exact ups_handleDocker p image m a flags.dataDir flags.dataDir
      | deploy =>
        refine ⟨flags, by simp, ups_ite Ups.nil ?_⟩
        exact ups_handleDeploy p image m a flags.dataDir flags
      | done =>
        refine ⟨p.passedOn p.defaultDataDir, by simp [Platform.passedOn], ups_ite Ups.nil (ups_ite ?_ Ups.nil)⟩
        exact (ups_handleWSL p image m a flags.dataDir).save

theorem ups_doSilentInstall (flags : Config) :
    Ups (flags.composeFile a) a.up (doSilentInstall p image m a flags) := by
  apply ups_ite Ups.nil
  exact (ups_run image m a flags).append (ups_ite (ups_install p m a flags _ _) Ups.nil)

theorem touches_removeDirs {dirs : List (String × Removal)} {e : Effect} (mem : e ∈ removeDirs dirs) :
    e.touches = false := by
  induction dirs with
  | nil => cases mem
  | cons head rest ih =>
    obtain ⟨dir, outcome⟩ := head
    rw [removeDirs] at mem
    split at mem
    · exact ih mem
    · rcases List.mem_cons.mp mem with rfl | mem
      · rfl
      · split at mem
        · exact ih mem
        · cases mem

theorem downs_doRemove (flags : Config) {e : Effect} (mem : e ∈ doRemove m a flags) (touches : e.touches = true) :
    e = .down a.down := by
  unfold doRemove remove at mem
  rcases List.mem_append.mp mem with mem | mem
  · rcases List.mem_append.mp mem with mem | mem
    · split at mem
      · exact List.mem_singleton.mp mem
      · cases mem
    · rw [touches_removeDirs mem] at touches
      cases touches
  · split at mem
    · obtain rfl := List.mem_singleton.mp mem
      cases touches
    · cases mem

end

/-! ## Runs -/

section
variable (p : Platform) (image : PostgresImage) (m : Machine)

def foundPassword : Option (Written ComposeFile) → String
  | some (.whole file) => file.password
  | some .torn | none => ""

theorem ups_updateDockerStack (a : Answers) (dataDir : String) :
    ∃ file : ComposeFile, file.password = foundPassword (m.dirs dataDir).compose ∧
      Ups file a.up (updateDockerStack m a dataDir) := by
  unfold updateDockerStack
  have without : ∃ file : ComposeFile, file.password = "" ∧ Ups file a.up [] := ⟨⟨"", "", "", "", ""⟩, rfl, Ups.nil⟩
  rcases (m.dirs dataDir).compose with _ | file | _
  · exact without
  · refine ⟨file, rfl, ups_ite ?_ Ups.nil⟩
    intro e mem _
    exact List.mem_singleton.mp mem
  · exact without

/-- The password of the compose file that an act brings up. The service of Windows takes the file as it finds it. -/
def password : Act → String
  | .launch .interactive flags _ _ => wizardPassword m flags
  | .launch _ flags _ _ => flags.postgresPW
  | .tick _ _ =>
    if p.isWindows then foundPassword (m.agent.bind fun agent => (m.dirs agent.dataDir).compose) else "astra-system"

def Act.answers : Act → Answers
  | .launch _ _ answers _ => answers
  | .tick answers _ => answers

/-- A launch takes the containers down, or it brings up one file. -/
theorem effects_cases (act : Act) :
    (∀ e ∈ effects p image m act, e.touches = true → e = .down act.answers.down) ∨
    ∃ file : ComposeFile, file.password = password p m act ∧ Ups file act.answers.up (effects p image m act) := by
  cases act with
  | launch mode flags answers killed =>
    cases mode with
    | remove =>
      left
      intro e mem touches
      simp only [effects, main] at mem
      split at mem
      · cases mem
      · exact downs_doRemove m answers flags mem touches
    | silent =>
      exact .inr ⟨flags.composeFile answers, rfl, ups_ite Ups.nil (ups_doSilentInstall p image m answers flags)⟩
    | interactive =>
      obtain ⟨cfg, same, ups⟩ := ups_doInteractiveInstall p image m answers flags
      exact .inr ⟨cfg.composeFile answers, same, ups_ite Ups.nil ups⟩
  | tick answers killed =>
    right
    cases agent : m.agent with
    | none =>
      refine ⟨{ p.flags.composeFile answers with password := password p m (.tick answers killed) }, rfl, ?_⟩
      simpa [effects, agent] using Ups.nil
    | some agent' =>
      by_cases windows : p.isWindows
      · obtain ⟨file, same, ups⟩ := ups_updateDockerStack m answers agent'.dataDir
        refine ⟨file, by simp [password, windows, agent, same], ?_⟩
        simp only [effects, agent, windows, if_true]
        exact ups
      · refine ⟨(agent'.flags p).composeFile answers, ?_, ?_⟩
        · simp [password, windows, Agent.flags, Config.composeFile, generate, buildCompose, Platform.flags]
        · simp only [effects, agent, windows, main, Bool.false_eq_true, if_false]
          exact ups_ite Ups.nil (ups_doSilentInstall p image m answers (agent'.flags p))

/-- Where it comes to bringing up the services, their URL has the password of the database, or the one that it is set
up with. -/
def Fits (reader : Reader) (m : Machine) (act : Act) : Prop :=
  ∀ file, .up file .started ∈ performed p image m act →
    ∀ setUp, image.start m.volume (password p m act) = some setUp → reader.Admits setUp (password p m act)

/-- Where it comes to bringing up the services beside a database, it is with the database's password. -/
def SamePassword (m : Machine) (act : Act) : Prop :=
  ∀ file, .up file .started ∈ performed p image m act → ∀ old, m.volume = some old → old = password p m act

/-- Passwords that are plain have to be the same. -/
theorem fits_iff_samePassword (reader : Reader) {m : Machine} {act : Act} (plain : Plain (password p m act))
    (kept : ∀ old, m.volume = some old → Plain old) : Fits p image reader m act ↔ SamePassword p image m act := by
  refine forall₂_congr fun file _ => ?_
  cases volume : m.volume with
  | none => simp +contextual [Machine.start_eq, plain.admits_iff plain]
  | some old => simp [image.keeps, (kept old volume).admits_iff plain]

theorem mem_effects_of_performed {p : Platform} {image : PostgresImage} {m : Machine} {act : Act} {e : Effect}
    (mem : e ∈ performed p image m act) : e ∈ effects p image m act :=
  List.mem_of_mem_take mem

end

namespace Machine

theorem takeDown_idem (outcome : Down) (db : Option String × Option ComposeFile) :
    takeDown outcome (takeDown outcome db) = takeDown outcome db := by
  cases outcome <;> rfl

variable {p : Platform} {image : PostgresImage} {m : Machine} {act : Act}

theorem database_apply_of_not_touches {e : Effect} (h : e.touches = false) : (m.apply image e).database = m.database := by
  cases e with
  | up | down => cases h
  | removeAll dir outcome => cases outcome <;> rfl
  | _ => rfl

/-- A launch that takes the containers down. -/
theorem database_step_down {outcome : Down}
    (downs : ∀ e ∈ effects p image m act, e.touches = true → e = .down outcome) :
    (step p image m act).database =
      if (performed p image m act).any Effect.touches then takeDown outcome m.database else m.database := by
  apply Script.run_take_once (takeDown_idem outcome)
  intro e mem m'
  cases touches : e.touches with
  | false => exact database_apply_of_not_touches touches
  | true =>
    obtain rfl := downs e mem touches
    rfl

/-- A launch that brings them up. -/
theorem database_step_up {file : ComposeFile} {outcome : Up} (ups : Ups file outcome (effects p image m act)) :
    (step p image m act).database =
      if (performed p image m act).any Effect.touches then bringUp image file outcome m.database else m.database := by
  apply Script.run_take_once (bringUp_idem image file outcome)
  intro e mem m'
  cases touches : e.touches with
  | false => exact database_apply_of_not_touches touches
  | true =>
    obtain rfl := ups e mem touches
    rfl

/-- The database admits the services, of the two alone. -/
def Agrees (reader : Reader) (db : Option String × Option ComposeFile) : Prop :=
  ∀ file, db.2 = some file → ∃ setUp, db.1 = some setUp ∧ reader.Admits setUp file.password

variable {reader : Reader}

theorem agrees_takeDown {db : Option String × Option ComposeFile} (h : Agrees reader db) (outcome : Down) :
    Agrees reader (takeDown outcome db) := by
  cases outcome with
  | failed => exact h
  | stopped | removed => exact fun _ none => nomatch none

/-- Services that are brought up agree with the database exactly if it admits them. -/
theorem agrees_bringUp_iff {db : Option String × Option ComposeFile} (h : Agrees reader db) (file : ComposeFile)
    (outcome : Up) :
    Agrees reader (bringUp image file outcome db) ↔ (outcome = .started →
      ∀ setUp, image.start db.1 file.password = some setUp → reader.Admits setUp file.password) := by
  obtain ⟨volume, services⟩ := db
  cases volume with
  | none =>
    have off : services = none := by
      cases services with
      | none => rfl
      | some old =>
        obtain ⟨_, none, -⟩ := h old rfl
        cases none
    subst off
    by_cases empty : file.password = ""
    · cases outcome <;> simp [bringUp, Agrees, start_eq, empty]
    · cases outcome <;> simp [bringUp, Agrees, start_eq, empty]
  | some old =>
    cases outcome with
    | failed => simpa [bringUp, image.keeps] using h
    | database => simpa [bringUp, image.keeps, Agrees] using h
    | started => simp [bringUp, image.keeps, Agrees]

/-- One act from a state in which the services can log in. -/
theorem logsIn_step_iff (h : m.LogsIn reader) : (step p image m act).LogsIn reader ↔ Fits p image reader m act := by
  have agrees : Agrees reader m.database := h
  rw [show (step p image m act).LogsIn reader ↔ Agrees reader (step p image m act).database from Iff.rfl]
  rcases effects_cases p image m act with downs | ⟨file, same, ups⟩
  · have none_up : Fits p image reader m act := by
      intro file mem
      have down := downs _ (mem_effects_of_performed mem) rfl
      cases down
    rw [database_step_down downs]
    refine ⟨fun _ => none_up, fun _ => ?_⟩
    split
    · exact agrees_takeDown agrees _
    · exact agrees
  · rw [database_step_up ups]
    split
    · rename_i some_up
      obtain ⟨e, mem, touches⟩ := List.any_eq_true.mp some_up
      have own := ups e (mem_effects_of_performed mem) touches
      subst own
      rw [agrees_bringUp_iff agrees]
      rw [Fits, ← same]
      constructor
      · intro admits file' mem'
        have own := ups _ (mem_effects_of_performed mem') rfl
        injection own with own outcome
        exact admits outcome.symm
      · exact fun admits started => admits file (started ▸ mem)
    · rename_i no_up
      refine ⟨?_, fun _ => agrees⟩
      intro _ file' mem
      exact absurd (List.any_eq_true.mpr ⟨_, mem, rfl⟩) no_up

end Machine

section
variable (p : Platform) (image : PostgresImage)

theorem plain_default : Plain "astra-system" := by decide

/-- The unit of the update agent brings the services up with the default of the flag. -/
theorem Machine.logsIn_tick_iff (reader : Reader) (unix : p.isWindows = false) {m : Machine} {answers : Answers}
    {killed : Option ℕ} {file : ComposeFile} (mem : .up file .started ∈ performed p image m (.tick answers killed)) :
    (step p image m (.tick answers killed)).LogsIn reader ↔
      ∀ setUp, m.volume = some setUp → reader.given (environmentLine setUp) = some "astra-system" := by
  have cases := effects_cases p image m (.tick answers killed)
  rcases cases with downs | ⟨file', same, ups⟩
  · have down := downs _ (mem_effects_of_performed mem) rfl
    cases down
  · have own := ups _ (mem_effects_of_performed mem) rfl
    injection own with own outcome
    subst own
    have password : file.password = "astra-system" := by rw [same, Installer.password, unix, if_neg (by simp)]
    have after := database_step_up ups
    rw [if_pos (List.any_eq_true.mpr ⟨_, mem, rfl⟩), ← outcome] at after
    have presented := reader.presented_plain _ plain_default
    rw [show (step p image m (.tick answers killed)).LogsIn reader ↔
      Agrees reader (step p image m (.tick answers killed)).database from Iff.rfl, after]
    cases volume : m.volume with
    | none => simp [bringUp, Agrees, database, start_eq, password, volume, plain_default.admits_iff plain_default]
    | some old => simp [bringUp, Agrees, database, image.keeps, password, volume, Reader.Admits, presented]

/-- The services can log in throughout a run exactly if whatever brings them up has a URL with the password of the
database; for plain passwords, if it has the database's where there is one. And where the unit of the update agent brings
them up, they can afterwards exactly if there was no database before or its password is the default of the flag. -/
theorem logs_in_iff (reader : Reader) (acts : List Act) :
    (Runs.Always (step p image) (Machine.LogsIn reader) {} acts ↔
      Runs.EachStep (step p image) (Fits p image reader) {} acts) ∧
    (∀ m act, Plain (password p m act) → (∀ old, m.volume = some old → Plain old) →
      (Fits p image reader m act ↔ SamePassword p image m act)) ∧
    let m := Runs.run (step p image) {} acts
    p.isWindows = false → ∀ answers killed file, .up file .started ∈ performed p image m (.tick answers killed) →
      ((step p image m (.tick answers killed)).LogsIn reader ↔
        ∀ setUp, m.volume = some setUp → reader.given (environmentLine setUp) = some "astra-system") := by
  refine ⟨?_, fun m act => fits_iff_samePassword p image reader, ?_⟩
  · apply Runs.always_iff_eachStep (J := Machine.LogsIn reader)
    · exact fun _ h => h
    · exact fun _ _ h => (Machine.logsIn_step_iff h).mpr
    · exact fun _ _ h => (Machine.logsIn_step_iff h).mp
    · intro file none
      cases none
  · intro m unix answers killed file mem
    exact Machine.logsIn_tick_iff p image reader unix mem

end

/-! ## A password of the operator's own -/

/-- The image starts the database with the password that it finds, or that it is given. -/
def PostgresImage.official : PostgresImage where
  start volume password := volume.orElse fun _ => if password = "" then none else some password
  keeps _ _ := rfl
  sets _ h := by simp [h]
  refuses := rfl

/-- `validUserinfo` of Go's `net/url`, but for the escapes and the sign that ends it. -/
def validUserinfo (c : Char) : Bool := c.isAlphanum || "-._:~!$&'()*+,;=".toList.contains c

theorem validUserinfo_of_isAlphanum {c : Char} (h : c.isAlphanum = true) : c ≠ '@' ∧ validUserinfo c = true := by
  refine ⟨?_, by simp [validUserinfo, h]⟩
  rintro rfl
  cases h

theorem valid_of_plain {password : String} (plain : Plain password) :
    ∀ c ∈ password.toList, c ≠ '@' ∧ validUserinfo c = true := by
  unfold Plain at plain
  split at plain
  · rename_i empty
    simp [empty]
  · rename_i c cs chars
    rw [chars, List.forall_mem_cons]
    refine ⟨validUserinfo_of_isAlphanum (by simp [Char.isAlphanum, plain.1]), fun d hd => ?_⟩
    have letter := List.all_eq_true.mp plain.2.1 d hd
    simp only [plainLetter, Bool.or_eq_true, decide_eq_true_eq] at letter
    obtain (letter | rfl) | rfl := letter
    · exact validUserinfo_of_isAlphanum letter
    · decide
    · decide

/-- What follows the first characters of a line. -/
def after (first line : String) : List Char := line.toList.drop first.toList.length

theorem after_append (first rest : String) : after first (first ++ rest) = rest.toList := by
  rw [after, String.toList_append, List.drop_left]

/-- The password of a URL that has no escapes, up to the first at sign. -/
def userPassword (url : List Char) : Option String :=
  let password := url.takeWhile (· ≠ '@')
  if password.all validUserinfo then some (String.ofList password) else none

theorem userPassword_plain {password : String} (plain : Plain password) {rest : String}
    (ends : rest.toList.takeWhile (· ≠ '@') = []) : userPassword (password ++ rest).toList = some password := by
  have valid := valid_of_plain plain
  have cut : (password ++ rest).toList.takeWhile (· ≠ '@') = password.toList := by
    rw [String.toList_append, List.takeWhile_append_of_pos (by simpa using fun c hc => (valid c hc).1), ends,
      List.append_nil]
  have all : password.toList.all validUserinfo = true := List.all_eq_true.mpr fun c hc => (valid c hc).2
  rw [userPassword, cut, if_pos all, String.ofList_toList]

theorem after_environmentLine (password : String) :
    after "      POSTGRES_PASSWORD: " (environmentLine password) = password.toList := by
  unfold environmentLine
  rw [after_append]

theorem after_databaseLine (password : String) :
    after "      DATABASE_URL: postgres://astra:" (databaseLine password) =
      (password ++ "@postgres:5432/astra_service?sslmode=disable").toList := by
  unfold databaseLine
  rw [String.append_assoc, after_append]

/-- A password without quotes, dollar signs and escapes. -/
def Reader.unquoted : Reader where
  given line := some (String.ofList (after "      POSTGRES_PASSWORD: " line))
  presented line := userPassword (after "      DATABASE_URL: postgres://astra:" line)
  given_plain password _ := by rw [after_environmentLine, String.ofList_toList]
  presented_plain password plain := by
    rw [after_databaseLine]
    exact userPassword_plain plain (by decide)

/-- The driver refuses a URL with a blank in its password. -/
example : ¬ Reader.unquoted.Admits "correct horse" "correct horse" := by
  rintro ⟨password, -, presented⟩
  revert presented
  have refused : Reader.unquoted.presented (databaseLine "correct horse") = none := by decide
  simp [refused]

/-- Everything is there, and goes well. -/
def Answers.well (jwtKey : String) : Answers where
  opens := true
  checkWSL := true
  wantsWSL := ""
  installWSL := true
  wslReady := true
  wslBefore := true
  checkDocker := true
  dockerInstalled := true
  wantsDocker := ""
  dockerWakes := true
  reinstall := ""
  save _ := .written
  directories := true
  login := true
  kioskUnified := true
  jwtKey := jwtKey
  compose := .written
  config := true
  pull := true
  up := .started
  register := true
  backup := true
  down := .removed
  removals := (.removed, .removed)
  unregisters := true

namespace Secret

def till : Platform := { goos := .linux }

def own : Config := { till.flags with postgresPW := "correct-horse" }

/-- The operator chooses a password, and launches the wizard twice since the first deployment has none. -/
def launch : Act := .launch .interactive own (.well "k1") none

def file : ComposeFile := ⟨"ghcr.io/xdfkenny/astra-system", "latest", "kiosk-unified", "astra-system", "k2"⟩

theorem locked_out : ¬ (step till .official (Runs.run (step till .official) {} [launch, launch])
    (.tick (.well "k2") none)).LogsIn .unquoted := by
  rw [(logs_in_iff till .official .unquoted [launch, launch]).2.2 rfl (.well "k2") none file (by decide)]
  intro admitted
  exact absurd (admitted "correct-horse" (by decide)) (by decide)

end Secret

end Installer
