import AstraSystem.Installer.Deploy

/-!
# The installer (`cmd/astra-installer/main.go`)

The wizard takes up its work at the step that the state file holds. A launch that comes to the deployment from an
earlier step deploys with defaults of its own and without a password; only one that finds the step `deploy` in the file
deploys with its flags.
-/

namespace Installer

inductive GOOS
  | linux
  | darwin
  | windows
  deriving DecidableEq, Repr

/-- The system, and the directories that its environment variables make up on Windows. -/
structure Platform where
  goos : GOOS
  windowsDataDir : String := ""
  windowsInstallDir : String := ""

namespace Platform

def isWindows (p : Platform) : Bool := p.goos == .windows

def defaultDataDir (p : Platform) : String :=
  match p.goos with
  | .linux => "/var/lib/astra-system"
  | .darwin => "/usr/local/var/astra-system"
  | .windows => p.windowsDataDir

def defaultInstallDir (p : Platform) : String :=
  match p.goos with
  | .linux => "/opt/astra-system"
  | .darwin => "/Applications/Astra-System"
  | .windows => p.windowsInstallDir

/-- What the flags are if they are not given. -/
def flags (p : Platform) : Config where
  installDir := p.defaultInstallDir
  dataDir := p.defaultDataDir
  registry := "ghcr.io/xdfkenny/astra-system"
  tag := "latest"
  kioskPort := "80"
  postgresPW := "astra-system"
  ghcrToken := ""
  channel := "stable"

/-- What `handleDocker` deploys with. -/
def passedOn (p : Platform) (dataDir : String) : Config where
  installDir := p.defaultInstallDir
  dataDir := dataDir
  registry := "ghcr.io/xdfkenny/astra-system"
  tag := "latest"
  kioskPort := "80"
  postgresPW := ""
  ghcrToken := ""
  channel := "stable"

end Platform

/-! ## Flags -/

/-- `strconv.Atoi`, where the number is not negative. -/
def atoi (s : String) : Option ℕ :=
  let digits := match s.toList with
    | '+' :: digits => digits
    | digits => digits
  if digits.isEmpty || !digits.all Char.isDigit then none
  else some (digits.foldl (fun n c => 10 * n + (c.toNat - '0'.toNat)) 0)

/-- What `parseAndValidate` lets pass. -/
def Config.valid (flags : Config) : Bool :=
  (match atoi flags.kioskPort with
    | some port => decide (1 ≤ port ∧ port ≤ 65535)
    | none => false) &&
  (["stable", "beta", "canary"].contains flags.channel && (flags.registry != "" && flags.tag != ""))

/-! ## What a launch does -/

section
variable (p : Platform) (image : PostgresImage) (m : Machine) (a : Answers)

/-- `setup.Install`. The service of Windows is not registered twice. -/
def install (cfg : Config) : List Effect :=
  if a.register && !(p.isWindows && m.agent.isSome) then [.register ⟨cfg.dataDir, cfg.channel⟩] else []

def handleDeploy (home : String) (cfg : Config) : List Effect :=
  let deployment := cfg.run image m.volume a
  deployment.effects ++ if deployment.ok then install p m a cfg ++ [.save home .done (a.save .done)] else []

/-- `EqualFold` with a letter that nothing but its capital folds to. -/
def answers (answer lower upper : String) : Bool := answer == lower || answer == upper

def handleDocker (home dataDir : String) : List Effect :=
  let goOn := .save home .deploy (a.save .deploy) :: handleDeploy p image m a home (p.passedOn dataDir)
  if p.isWindows && !a.wslBefore then []
  else if a.checkDocker then goOn
  else if !a.dockerInstalled then
    if answers a.wantsDocker "n" "N" then [] else [.save home .deploy (a.save .deploy)]
  else if a.dockerWakes then goOn
  else []

def handleWSL (home : String) : List Effect :=
  let goOn := .save home .docker (a.save .docker) :: handleDocker p image m a home p.defaultDataDir
  if !p.isWindows || a.checkWSL then goOn
  else if answers a.wantsWSL "n" "N" || !a.installWSL then []
  else if a.wslReady then goOn
  else [.save home .docker (a.save .docker)]

/-- Without a file the step is the first. -/
def stepOf : Option (Written Step) → Option Step
  | none => some .wsl
  | some (.whole step) => some step
  | some .torn => none

def doInteractiveInstall (flags : Config) : List Effect :=
  if !a.opens then []
  else match stepOf (m.dirs flags.dataDir).state with
    | none => []
    | some .wsl =>
      if p.isWindows then handleWSL p image m a flags.dataDir
      else .save flags.dataDir .docker (a.save .docker) ::
        handleDocker p image m a flags.dataDir flags.dataDir
    | some .docker => handleDocker p image m a flags.dataDir flags.dataDir
    | some .deploy => handleDeploy p image m a flags.dataDir flags
    | some .done =>
      if answers a.reinstall "y" "Y" then
        .save flags.dataDir .wsl (a.save .wsl) :: handleWSL p image m a flags.dataDir
      else []

def doSilentInstall (flags : Config) : List Effect :=
  if (p.isWindows && !a.checkWSL) || !a.checkDocker then []
  else
    let deployment := flags.run image m.volume a
    deployment.effects ++ if deployment.ok then install p m a flags else []

def doRemove (flags : Config) : List Effect :=
  remove m a flags.dataDir flags.installDir ++ if a.unregisters then [.unregister] else []

inductive Mode
  | interactive
  | silent
  | remove
  deriving DecidableEq, Repr

def main (mode : Mode) (flags : Config) : List Effect :=
  if !flags.valid then []
  else match mode with
    | .interactive => doInteractiveInstall p image m a flags
    | .silent => doSilentInstall p image m a flags
    | .remove => doRemove m a flags

end

/-! ## Launches -/

/-- Somebody launches the installer, or the update agent does its work. Both may be killed after some of their
effects. -/
inductive Act
  | launch (mode : Mode) (flags : Config) (answers : Answers) (killed : Option ℕ)
  | tick (answers : Answers) (killed : Option ℕ)

def Act.killed : Act → Option ℕ
  | .launch _ _ _ killed => killed
  | .tick _ killed => killed

/-- The flags in the unit that `setup_unix.go` writes. -/
def Agent.flags (p : Platform) (agent : Agent) : Config :=
  { p.flags with dataDir := agent.dataDir, channel := agent.channel }

section
variable (p : Platform) (image : PostgresImage)

def effects (m : Machine) : Act → List Effect
  | .launch mode flags answers _ => main p image m answers mode flags
  | .tick answers _ =>
    match m.agent with
    | none => []
    | some agent =>
      if p.isWindows then updateDockerStack m answers agent.dataDir
      else main p image m answers .silent (agent.flags p)

/-- What it has done by the time at which it is killed. -/
def performed (m : Machine) (act : Act) : List Effect :=
  (effects p image m act).take (act.killed.getD (effects p image m act).length)

def step (m : Machine) (act : Act) : Machine := Runs.run (Machine.apply image) m (performed p image m act)

end

end Installer
