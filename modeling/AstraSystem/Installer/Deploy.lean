import AstraSystem.Lib.Script
import Mathlib.Logic.Function.Basic

/-!
# What the installer does to a machine (`internal/state`, `internal/deploy`, `internal/compose`)

The state file and the compose file lie in a data directory; the containers, their database and the update agent are the
machine's. A file that could not be written to its end is left torn.
-/

namespace Installer

/-! ## Files -/

/-- A file, or what is left of it when writing it did not come to its end. -/
inductive Written (α : Type*)
  | whole (a : α)
  | torn
  deriving DecidableEq, Repr

/-- What becomes of a file that `os.WriteFile` is called for. -/
inductive Fate
  | written
  | untouched
  | torn
  deriving DecidableEq, Repr

def Fate.isWritten : Fate → Bool
  | .written => true
  | .untouched | .torn => false

def writeFile {α : Type*} (old : Option (Written α)) (new : α) : Fate → Option (Written α)
  | .written => some (.whole new)
  | .untouched => old
  | .torn => some .torn

/-- `Step` of the state file. -/
inductive Step
  | wsl
  | docker
  | deploy
  | done
  deriving DecidableEq, Repr

/-- What differs between two compose files. -/
structure ComposeFile where
  registry : String
  tag : String
  kioskImage : String
  password : String
  jwtKey : String
  deriving DecidableEq, Repr

structure Dir where
  state : Option (Written Step) := none
  compose : Option (Written ComposeFile) := none

/-! ## The machine -/

/-- The image of the database: what its volume was set up with, after it was started with the password of a compose
file. A volume that was set up keeps its password, and without a password none is set up. -/
structure PostgresImage where
  start : Option String → String → Option String
  keeps : ∀ old new, start (some old) new = some old
  sets : ∀ new, new ≠ "" → start none new = some new
  refuses : start none "" = none

/-- `setup.Install` registers what to run every six hours. -/
structure Agent where
  dataDir : String
  channel : String
  deriving DecidableEq, Repr

structure Machine where
  dirs : String → Dir := fun _ => {}
  /-- What the compose file said when the database was set up, whose volume keeps its password. -/
  volume : Option String := none
  /-- What the service containers were made of. -/
  services : Option ComposeFile := none
  agent : Option Agent := none

/-- How far `up -d` comes. The services wait for the database. -/
inductive Up
  | failed
  | database
  | started
  deriving DecidableEq, Repr

/-- How far `down --volumes` comes. -/
inductive Down
  | failed
  | stopped
  | removed
  deriving DecidableEq, Repr

/-- What `os.RemoveAll` leaves of a directory. -/
inductive Removal
  | removed
  | failed (state compose : Bool)
  deriving DecidableEq, Repr

inductive Effect
  | save (dir : String) (step : Step) (fate : Fate)
  | compose (dir : String) (file : ComposeFile) (fate : Fate)
  | up (file : ComposeFile) (outcome : Up)
  | register (agent : Agent)
  | down (outcome : Down)
  | removeAll (dir : String) (outcome : Removal)
  | unregister
  deriving DecidableEq, Repr

namespace Machine

def update (m : Machine) (dir : String) (f : Dir → Dir) : Machine :=
  { m with dirs := Function.update m.dirs dir (f (m.dirs dir)) }

/-- The database and what the services know of it. -/
def database (m : Machine) : Option String × Option ComposeFile := (m.volume, m.services)

/-- What `docker compose up` does to them. -/
def bringUp (image : PostgresImage) (file : ComposeFile) (outcome : Up)
    (db : Option String × Option ComposeFile) : Option String × Option ComposeFile :=
  match outcome, image.start db.1 file.password with
  | .failed, _ | _, none => db
  | .database, some password => (some password, db.2)
  | .started, some password => (some password, some file)

def takeDown (outcome : Down) (db : Option String × Option ComposeFile) : Option String × Option ComposeFile :=
  match outcome with
  | .failed => db
  | .stopped => (db.1, none)
  | .removed => (none, none)

def withDatabase (m : Machine) (db : Option String × Option ComposeFile) : Machine :=
  { m with volume := db.1, services := db.2 }

def apply (image : PostgresImage) (m : Machine) : Effect → Machine
  | .save dir step fate => m.update dir fun d => { d with state := writeFile d.state step fate }
  | .compose dir file fate => m.update dir fun d => { d with compose := writeFile d.compose file fate }
  | .up file outcome => m.withDatabase (bringUp image file outcome m.database)
  | .register agent => { m with agent := some agent }
  | .down outcome => m.withDatabase (takeDown outcome m.database)
  | .removeAll dir .removed => m.update dir fun _ => {}
  | .removeAll dir (.failed state compose) =>
    m.update dir fun d => ⟨if state then d.state else none, if compose then d.compose else none⟩
  | .unregister => { m with agent := none }

end Machine

/-! ## Passwords in the compose file -/

/-- The password is printed as it is into a line of YAML, -/
def environmentLine (password : String) : String := "      POSTGRES_PASSWORD: " ++ password

/-- and into the URL that each of the services gets. -/
def databaseLine (password : String) : String :=
  "      DATABASE_URL: postgres://astra:" ++ password ++ "@postgres:5432/astra_service?sslmode=disable"

/-- Words that YAML may read as something else. -/
def reservedWords : List (List Char) :=
  ["true", "false", "null", "yes", "no", "on", "off", "y", "n"].map String.toList

def plainLetter (c : Char) : Bool := c.isAlphanum || c = '-' || c = '_'

/-- Neither YAML nor a URL gives any of it a meaning of its own. -/
def Plain (password : String) : Prop :=
  match password.toList with
  | [] => True
  | c :: cs => c.isAlpha ∧ cs.all plainLetter ∧ (c :: cs).map Char.toLower ∉ reservedWords

instance decidablePlain (password : String) : Decidable (Plain password) := by
  unfold Plain
  split <;> infer_instance

/-- What `docker compose` and the driver of the services read in these lines, which may be nothing. -/
structure Reader where
  /-- The password that the database's image is given. -/
  given : String → Option String
  /-- The password that the services present. -/
  presented : String → Option String
  given_plain : ∀ password, Plain password → given (environmentLine password) = some password
  presented_plain : ∀ password, Plain password → presented (databaseLine password) = some password

/-- What the services present is what the database was given when it was set up. -/
def Reader.Admits (reader : Reader) (setUp own : String) : Prop :=
  ∃ password, reader.given (environmentLine setUp) = some password ∧
    reader.presented (databaseLine own) = some password

/-- The services can log in to the database. -/
def Machine.LogsIn (reader : Reader) (m : Machine) : Prop :=
  ∀ file, m.services = some file → ∃ setUp, m.volume = some setUp ∧ reader.Admits setUp file.password

/-! ## Answers -/

/-- What the machine, the network and the operator have to say during a run of the program. -/
structure Answers where
  opens : Bool
  checkWSL : Bool
  wantsWSL : String
  installWSL : Bool
  wslReady : Bool
  wslBefore : Bool
  checkDocker : Bool
  dockerInstalled : Bool
  wantsDocker : String
  dockerWakes : Bool
  reinstall : String
  save : Step → Fate
  directories : Bool
  login : Bool
  kioskUnified : Bool
  jwtKey : String
  compose : Fate
  config : Bool
  pull : Bool
  up : Up
  register : Bool
  backup : Bool
  down : Down
  removals : Removal × Removal
  unregisters : Bool

/-! ## A deployment -/

/-- `deploy.Config` -/
structure Config where
  installDir : String
  dataDir : String
  registry : String
  tag : String
  kioskPort : String
  postgresPW : String
  ghcrToken : String
  channel : String
  deriving DecidableEq, Repr

/-- `compose.Config`, whose other fields `buildCompose` does not read. -/
structure Compose where
  registry : String
  tag : String
  kioskImage : String
  postgresPW : String
  jwtKey : String

def orElse (s default : String) : String := if s = "" then default else s

def buildCompose (cfg : Compose) : ComposeFile where
  registry := orElse cfg.registry "ghcr.io/xdfkenny/astra-system"
  tag := orElse cfg.tag "latest"
  kioskImage := orElse cfg.kioskImage "kiosk"
  password := cfg.postgresPW
  jwtKey := cfg.jwtKey

/-- `compose.Generate` draws a key if there is none. -/
def generate (cfg : Compose) (drawn : String) : ComposeFile :=
  buildCompose { cfg with jwtKey := orElse cfg.jwtKey drawn }

namespace Config

def composeFile (cfg : Config) (a : Answers) : ComposeFile :=
  generate ⟨cfg.registry, cfg.tag, if a.kioskUnified then "kiosk-unified" else "kiosk", cfg.postgresPW, ""⟩ a.jwtKey

@[simp] theorem password_composeFile (cfg : Config) (a : Answers) : (cfg.composeFile a).password = cfg.postgresPW := rfl

/-- `deploy.Run`. Services that do not become healthy in time are no error, nor is an init script that is missing. -/
def run (image : PostgresImage) (volume : Option String) (a : Answers) (cfg : Config) : Script Effect :=
  let file := cfg.composeFile a
  (Script.check a.directories).andThen
  ((Script.check (cfg.ghcrToken == "" || a.login)).andThen
  ((Script.perform (.compose cfg.dataDir file a.compose) a.compose.isWritten).andThen
  ((Script.check a.config).andThen
  ((Script.check a.pull).andThen
  (Script.perform (.up file a.up) (a.up == .started && (image.start volume file.password).isSome))))))

end Config

/-- Directories are removed in turn, until one resists. -/
def removeDirs : List (String × Removal) → List Effect
  | [] => []
  | (dir, outcome) :: rest =>
    if dir = "" then removeDirs rest
    else .removeAll dir outcome :: if outcome = .removed then removeDirs rest else []

/-- `deploy.Remove`. What `down` says is passed over. -/
def remove (m : Machine) (a : Answers) (dataDir installDir : String) : List Effect :=
  (if (m.dirs dataDir).compose.isSome then [.down a.down] else []) ++
    removeDirs [(dataDir, a.removals.1), (installDir, a.removals.2)]

/-- `apply.UpdateDockerStack` -/
def updateDockerStack (m : Machine) (a : Answers) (dataDir : String) : List Effect :=
  match (m.dirs dataDir).compose with
  | some (.whole file) => if a.backup && a.pull then [.up file a.up] else []
  | _ => []

/-! ## What the effects touch -/

namespace Machine

variable (image : PostgresImage) (m : Machine)

@[simp] theorem update_database (dir : String) (f : Dir → Dir) : (m.update dir f).database = m.database := rfl

@[simp] theorem withDatabase_database (db : Option String × Option ComposeFile) : (m.withDatabase db).database = db := rfl

@[simp] theorem withDatabase_dirs (db : Option String × Option ComposeFile) : (m.withDatabase db).dirs = m.dirs := rfl

@[simp] theorem update_dirs_self (dir : String) (f : Dir → Dir) : (m.update dir f).dirs dir = f (m.dirs dir) := by
  simp [update]

theorem update_dirs_of_ne {dir other : String} (f : Dir → Dir) (h : other ≠ dir) :
    (m.update dir f).dirs other = m.dirs other := by
  simp [update, h]

/-- Brought up twice is brought up once. -/
theorem bringUp_idem (file : ComposeFile) (outcome : Up) (db : Option String × Option ComposeFile) :
    bringUp image file outcome (bringUp image file outcome db) = bringUp image file outcome db := by
  cases outcome with
  | failed => rfl
  | database | started =>
    cases started : image.start db.1 file.password with
    | none => simp [bringUp, started]
    | some password => simp [bringUp, started, image.keeps]

/-- With an empty volume the database takes the password, otherwise it keeps its own. -/
theorem start_eq (volume : Option String) (password : String) :
    image.start volume password = volume.orElse fun _ => if password = "" then none else some password := by
  cases volume with
  | some old => exact image.keeps old password
  | none =>
    by_cases h : password = ""
    · simp [h, image.refuses]
    · simp [h, image.sets password h]

end Machine

/-! ## What plain passwords are read as -/

theorem Plain.admits_iff {reader : Reader} {setUp own : String} (plain : Plain setUp) (plain' : Plain own) :
    reader.Admits setUp own ↔ setUp = own := by
  simp [Reader.Admits, reader.given_plain setUp plain, reader.presented_plain own plain', eq_comm]

end Installer
