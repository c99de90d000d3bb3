import AstraSystem.Lib.Runs
import Mathlib.Data.Int.Notation
import Mathlib.Logic.Function.Basic

/-!
# The remote modules of the shell (`remote-modules.ts`)

A swap waits for the health check of its new version and for its mount, and others go on meanwhile. What the network
answers, what `onVersionChange` throws and when anything settles is the environment's. Remotes are registered first.
-/

namespace Kiosk.Updater.RemoteModules

structure RemoteDefinition where
  name : String
  baseUrl : String
  version : String
  fallbackUrl : String
  deriving DecidableEq

inductive Status where
  | mounting
  | mounted
  | failed
  | rolledBack
  deriving DecidableEq

structure RemoteState where
  definition : RemoteDefinition
  status : Status := .mounting
  lastError : Option String := none
  mountedAt : Option ℤ := none
  deriving DecidableEq

structure RemoteHealth where
  ok : Bool
  version : String

/-- What `fetch` comes to: an exception, or whether the status is one of success, and the body, if it is JSON with
fields, with its version. -/
inductive Fetched where
  | thrown
  | response (ok : Bool) (data : Option (Option String))

def checkRemoteHealth : Fetched → RemoteHealth
  | .response true (some version) => ⟨true, version.getD "0.0.0"⟩
  | .response _ _ | .thrown => ⟨false, "0.0.0"⟩

/-- What `tryMount` comes to. -/
inductive Mount where
  | loaded
  | notLoaded
  | thrown

/-! ## Calls -/

/-- How a swap ends. -/
inductive Result where
  | already
  | swapped
  | unhealthy
  | rolledBack
  | thrown (err : String)
  deriving DecidableEq

/-- What the promise of a swap settles to. -/
def Result.value : Result → Except String Bool
  | .already | .swapped => .ok true
  | .unhealthy | .rolledBack => .ok false
  | .thrown err => .error err

/-- What a swap waits for. With its end comes the definition at that time. -/
inductive Phase where
  | health
  | sharing (oldFallback : String)
  | script (oldFallback url : String)
  | done (result : Result) (after : Option RemoteDefinition)
  deriving DecidableEq

/-- `before` is the definition at the start, and `reported` what the health check has said. -/
structure SwapCall where
  name : String
  newBaseUrl : String
  newVersion : String
  before : Option RemoteDefinition
  reported : Option String := none
  phase : Phase
  deriving DecidableEq

def SwapCall.Pending (call : SwapCall) : Prop := ∀ result after, call.phase ≠ .done result after

/-- A manifest waits for the swap of an artifact. -/
inductive ManifestPhase where
  | swapping (artifactName : String) (call : ℕ) (rest : List String)
  | done (thrown : Option String)

structure ManifestCall where
  version : String
  results : List (String × Bool) := []
  phase : ManifestPhase

structure World where
  remotes : String → Option RemoteState := fun _ => none
  calls : List SwapCall := []
  manifests : List ManifestCall := []

namespace World

def register (w : World) (d : RemoteDefinition) : World :=
  { w with remotes := Function.update w.remotes d.name (some ⟨d, .mounting, none, none⟩) }

def start (defs : List RemoteDefinition) : World := defs.foldl register {}

def definition (w : World) (name : String) : Option RemoteDefinition := (w.remotes name).map RemoteState.definition

def put (w : World) (name : String) (state : RemoteState) : World :=
  { w with remotes := Function.update w.remotes name (some state) }

def setCall (w : World) (i : ℕ) (call : SwapCall) : World := { w with calls := w.calls.set i call }

def finish (w : World) (i : ℕ) (call : SwapCall) (result : Result) : World :=
  w.setCall i { call with phase := .done result (w.definition call.name) }

/-- The start of `swapVersion`, up to its first `await`. -/
def swapVersion (w : World) (name newBaseUrl newVersion : String) : World :=
  let before := w.definition name
  let phase : Phase :=
    match before with
    | none => .done (.thrown ("unknown remote: " ++ name)) before
    | some d => if d.version = newVersion then .done .already before else .health
  { w with calls := w.calls ++ [{ name, newBaseUrl, newVersion, before, phase }] }

/-- From the health check to the next `await`. -/
def checked (w : World) (i : ℕ) (call : SwapCall) (state : RemoteState) (fetched : Fetched)
    (thrown : Option String) : World :=
  let health := checkRemoteHealth fetched
  let call := { call with reported := some health.version }
  if ¬ health.ok then
    let lastError := "pre-flight health check failed for " ++ call.name ++ "@" ++ call.newVersion
    (w.put call.name { state with status := .failed, lastError := some lastError }).finish i call .unhealthy
  else
    let d := state.definition
    let w := w.put call.name { state with definition :=
      { d with fallbackUrl := d.baseUrl, baseUrl := call.newBaseUrl, version := call.newVersion } }
    match thrown with
    | some err => w.finish i call (.thrown err)
    | none => w.setCall i { call with phase := .sharing d.fallbackUrl }

/-- After `tryMount`. -/
def tried (w : World) (i : ℕ) (call : SwapCall) (state : RemoteState) (oldFallback oldVersion : String)
    (mount : Mount) (now : ℤ) : World :=
  match mount with
  | .loaded => (w.put call.name { state with status := .mounted, mountedAt := some now }).finish i call .swapped
  | .notLoaded | .thrown =>
    let d := state.definition
    (w.put call.name { state with
      definition := { d with baseUrl := d.fallbackUrl, fallbackUrl := oldFallback, version := oldVersion }
      status := .rolledBack }).finish i call .rolledBack

/-- The artifacts from the first on that is a remote. -/
def artifacts (w : World) (rest : List String) : List String := rest.dropWhile fun name => (w.remotes name).isNone

def setManifest (w : World) (m : ℕ) (manifest : ManifestCall) : World :=
  { w with manifests := w.manifests.set m manifest }

/-- The loop of `applyManifest`, up to its next `await`. -/
def proceed (w : World) (m : ℕ) (manifest : ManifestCall) (rest : List String) : World :=
  match w.artifacts rest with
  | [] => w.setManifest m { manifest with phase := .done none }
  | name :: rest => (w.swapVersion name manifest.version manifest.version).setManifest m
    { manifest with phase := .swapping name w.calls.length rest }

def rollback (state : RemoteState) : RemoteState :=
  let d := state.definition
  if d.baseUrl ≠ d.fallbackUrl then
    { state with definition := { d with baseUrl := d.fallbackUrl }, status := .rolledBack,
                 lastError := some "rolled back via rollbackAll()" }
  else state

end World

inductive Act where
  | swapVersion (name newBaseUrl newVersion : String)
  | applyManifest (version : String) (artifactNames : List String)
  | rollbackAll
  /-- The health check of a swap is answered; `onVersionChange` may throw. -/
  | health (i : ℕ) (fetched : Fetched) (thrown : Option String)
  | shared (i : ℕ)
  | script (i : ℕ) (mount : Mount) (now : ℤ)
  /-- A manifest goes on after a swap that has ended. -/
  | resume (m : ℕ)

namespace World

/-- The manifest, what its swap came to and what is left of it. -/
def swapped (w : World) (m : ℕ) : Option (ManifestCall × String × Except String Bool × List String) := do
  let manifest ← w.manifests[m]?
  match manifest.phase with
  | .done _ => none
  | .swapping name i rest =>
    let call ← w.calls[i]?
    match call.phase with
    | .done result _ => some (manifest, name, result.value, rest)
    | _ => none

def resume (w : World) (m : ℕ) : World :=
  match w.swapped m with
  | none => w
  | some (manifest, _, .error err, _) => w.setManifest m { manifest with phase := .done (some err) }
  | some (manifest, name, .ok result, rest) =>
    w.proceed m { manifest with results := manifest.results ++ [(name, result)] } rest

def step (w : World) : Act → World
  | .swapVersion name newBaseUrl newVersion => w.swapVersion name newBaseUrl newVersion
  | .applyManifest version artifactNames =>
    let manifest : ManifestCall := { version, phase := .done none }
    ({ w with manifests := w.manifests ++ [manifest] } : World).proceed w.manifests.length manifest artifactNames
  | .rollbackAll => { w with remotes := fun name => (w.remotes name).map rollback }
  | .resume m => w.resume m
  | .health i fetched thrown =>
    match w.calls[i]? with
    | none => w
    | some call =>
      match call.phase, w.remotes call.name with
      | .health, some state => w.checked i call state fetched thrown
      | _, _ => w
  | .shared i =>
    match w.calls[i]? with
    | none => w
    | some call =>
      match call.phase, w.remotes call.name with
      | .sharing oldFallback, some state =>
        w.setCall i { call with phase := .script oldFallback (state.definition.baseUrl ++ "/remoteEntry.js") }
      | _, _ => w
  | .script i mount now =>
    match w.calls[i]? with
    | none => w
    | some call =>
      match call.phase, w.remotes call.name, call.before with
      | .script oldFallback _, some state, some before => w.tried i call state oldFallback before.version mount now
      | _, _, _ => w

end World

/-! ## Whole remotes -/

/-- A base URL and a version that were given together, to `register` or to a swap that was told of that version and
has mounted. -/
def Given (defs : List RemoteDefinition) (w : World) (baseUrl version : String) : Prop :=
  (∃ d ∈ defs, d.baseUrl = baseUrl ∧ d.version = version) ∨
  ∃ call ∈ w.calls, (∃ after, call.phase = .done .swapped after) ∧ call.newBaseUrl = baseUrl ∧
    call.newVersion = version ∧ call.reported = some version

/-- No call is in progress. -/
def World.Quiet (w : World) : Prop :=
  (∀ call ∈ w.calls, ¬ call.Pending) ∧ ∀ manifest ∈ w.manifests, ∃ thrown, manifest.phase = .done thrown

structure Whole (defs : List RemoteDefinition) (w : World) : Prop where
  given : w.Quiet → ∀ name d, w.definition name = some d → Given defs w d.baseUrl d.version
  refused : ∀ call ∈ w.calls, ∀ result after, call.phase = .done result after → result.value = .ok false →
    after = call.before

/-- A swap to another version starts while no other of the remote is in progress. -/
def World.Free (w : World) (name version : String) : Prop :=
  ∀ d, w.definition name = some d → d.version ≠ version → ∀ call ∈ w.calls, call.Pending → call.name ≠ name

/-- The same for the swap that a manifest goes on with. -/
def World.FreeNext (w : World) (version : String) (artifactNames : List String) : Prop :=
  ∀ name rest, w.artifacts artifactNames = name :: rest → w.Free name version

/-- Swaps of one remote do not overlap, a health check that is passed has reported the version asked for and
`onVersionChange` does not throw, and `rollbackAll` finds no remote to roll back. -/
def Meets (w : World) : Act → Prop
  | .swapVersion name _ newVersion => w.Free name newVersion
  | .applyManifest version artifactNames => w.FreeNext version artifactNames
  | .resume m => ∀ manifest name result rest, w.swapped m = some (manifest, name, .ok result, rest) →
    w.FreeNext manifest.version rest
  | .rollbackAll => ∀ name d, w.definition name = some d → d.baseUrl = d.fallbackUrl
  | .health i fetched thrown => ∀ call, w.calls[i]? = some call → call.phase = .health →
    (checkRemoteHealth fetched).ok = true →
      (checkRemoteHealth fetched).version = call.newVersion ∧ thrown = none
  | .shared _ | .script _ _ _ => True

/-- What is known while a swap waits. -/
def Waits (w : World) (call : SwapCall) (before : RemoteDefinition) : Phase → Prop
  | .health => w.definition call.name = some before
  | .sharing oldFallback | .script oldFallback _ =>
    oldFallback = before.fallbackUrl ∧ call.reported = some call.newVersion ∧ w.definition call.name = some { before with
      fallbackUrl := before.baseUrl, baseUrl := call.newBaseUrl, version := call.newVersion }
  | .done _ _ => True

structure Inv (defs : List RemoteDefinition) (w : World) : Prop where
  idle : ∀ name d, w.definition name = some d → (∀ call ∈ w.calls, call.Pending → call.name ≠ name) →
    Given defs w d.baseUrl d.version
  waits : ∀ call ∈ w.calls, call.Pending → ∃ before, call.before = some before ∧
    Given defs w before.baseUrl before.version ∧ Waits w call before call.phase
  alone : ∀ (i j : ℕ) (a b : SwapCall), w.calls[i]? = some a → w.calls[j]? = some b → a.Pending → b.Pending →
    a.name = b.name → i = j
  refused : ∀ call ∈ w.calls, ∀ result after, call.phase = .done result after → result.value = .ok false →
    after = call.before

section
variable {defs : List RemoteDefinition} {w : World} {i : ℕ} {call next : SwapCall} {state : RemoteState}
  {name : String}

theorem definition_put (name n : String) :
    (w.put name state).definition n = if n = name then some state.definition else w.definition n := by
  unfold World.definition World.put Function.update
  by_cases same : n = name
  · subst same
    simp
  · simp [same]

theorem definition_start (defs : List RemoteDefinition) {d : RemoteDefinition}
    (h : (World.start defs).definition name = some d) : d ∈ defs := by
  have fold (l : List RemoteDefinition) (w : World)
      (h : (l.foldl World.register w).definition name = some d) : d ∈ l ∨ w.definition name = some d := by
    induction l generalizing w with
    | nil => exact .inr h
    | cons x l ih =>
      obtain mem | h := ih (w.register x) h
      · exact .inl (List.mem_cons_of_mem x mem)
      · have h : (w.put x.name ⟨x, .mounting, none, none⟩).definition name = some d := h
        rw [definition_put] at h
        split at h
        · obtain rfl := Option.some.inj h
          exact .inl List.mem_cons_self
        · exact .inr h
  obtain mem | none := fold defs {} h
  · exact mem
  · cases none

theorem inv_start (defs : List RemoteDefinition) : Inv defs (World.start defs) := by
  have none : (World.start defs).calls = [] := by
    have fold (l : List RemoteDefinition) (w : World) : (l.foldl World.register w).calls = w.calls := by
      induction l generalizing w with
      | nil => rfl
      | cons x l ih => exact ih (w.register x)
    exact fold defs {}
  constructor
  · intro name d h _
    exact .inl ⟨d, definition_start defs h, rfl, rfl⟩
  · simp [none]
  · simp [none]
  · simp [none]

/-! ## One call moves on -/

/-- The swap at `i` moves on, and changes no remote but its own. -/
structure Moves (w : World) (i : ℕ) (call : SwapCall) (w' : World) (next : SwapCall) : Prop where
  at_i : w.calls[i]? = some call
  pending : call.Pending
  calls : w'.calls = w.calls.set i next
  name : next.name = call.name
  others : ∀ n, n ≠ call.name → w'.definition n = w.definition n

variable {w' : World}

theorem Moves.mem (m : Moves w i call w' next) {c : SwapCall} (hc : c ∈ w'.calls) :
    c = next ∨ ∃ j, j ≠ i ∧ w.calls[j]? = some c := by
  rw [m.calls] at hc
  obtain ⟨j, at_j⟩ := List.mem_iff_getElem?.mp hc
  rw [List.getElem?_set] at at_j
  split at at_j
  · split at at_j
    · exact .inl (Option.some.inj at_j).symm
    · cases at_j
  · rename_i ne
    exact .inr ⟨j, Ne.symm ne, at_j⟩

theorem Moves.other (m : Moves w i call w' next) {j : ℕ} (ne : j ≠ i) : w'.calls[j]? = w.calls[j]? := by
  rw [m.calls, List.getElem?_set_ne ne.symm]

theorem Moves.now (m : Moves w i call w' next) : w'.calls[i]? = some next := by
  rw [m.calls, List.getElem?_set_self (List.getElem?_eq_some_iff.mp m.at_i).1]

theorem Moves.given (m : Moves w i call w' next) {baseUrl version : String} (h : Given defs w baseUrl version) :
    Given defs w' baseUrl version := by
  obtain registered | ⟨c, hc, ⟨after, done⟩, rest⟩ := h
  · exact .inl registered
  · obtain ⟨j, at_j⟩ := List.mem_iff_getElem?.mp hc
    have ne : j ≠ i := by
      rintro rfl
      obtain rfl := Option.some.inj (at_j.symm.trans m.at_i)
      exact m.pending _ _ done
    rw [← m.other ne] at at_j
    exact .inr ⟨c, List.mem_of_getElem? at_j, ⟨after, done⟩, rest⟩

theorem Moves.inv (m : Moves w i call w' next) (h : Inv defs w)
    (waits : next.Pending → ∃ before, next.before = some before ∧
      Given defs w before.baseUrl before.version ∧ Waits w' next before next.phase)
    (given : ¬ next.Pending → ∀ d, w'.definition call.name = some d → Given defs w' d.baseUrl d.version)
    (refused : ∀ result after, next.phase = .done result after → result.value = .ok false → after = next.before) :
    Inv defs w' := by
  have apart {j : ℕ} {c : SwapCall} (ne : j ≠ i) (at_j : w.calls[j]? = some c) (pending : c.Pending) :
      c.name ≠ call.name := fun same => ne (h.alone j i c call at_j m.at_i pending m.pending same)
  constructor
  · intro name d hd free
    by_cases own : name = call.name
    · subst own
      refine given (fun pending => ?_) d hd
      exact free next (List.mem_of_getElem? m.now) pending m.name
    · refine m.given (h.idle name d (m.others name own ▸ hd) fun c hc pending => ?_)
      obtain ⟨j, at_j⟩ := List.mem_iff_getElem?.mp hc
      by_cases here : j = i
      · subst here
        obtain rfl := Option.some.inj (at_j.symm.trans m.at_i)
        exact Ne.symm own
      · exact free c (List.mem_of_getElem? (m.other here ▸ at_j)) pending
  · intro c hc pending
    obtain rfl | ⟨j, ne, at_j⟩ := m.mem hc
    · obtain ⟨before, eq, given, waits⟩ := waits pending
      exact ⟨before, eq, m.given given, waits⟩
    · obtain ⟨before, eq, given, waits⟩ := h.waits c (List.mem_of_getElem? at_j) pending
      refine ⟨before, eq, m.given given, ?_⟩
      have same := m.others c.name (apart ne at_j pending)
      cases phase : c.phase with
      | health =>
        rw [phase] at waits
        exact same.trans waits
      | sharing | script =>
        rw [phase] at waits
        exact ⟨waits.1, waits.2.1, same.trans waits.2.2⟩
      | done => trivial
  · intro j k a b at_j at_k pa pb same
    by_cases hj : j = i
    · by_cases hk : k = i
      · rw [hj, hk]
      · subst hj
        obtain rfl := Option.some.inj (at_j.symm.trans m.now)
        rw [m.other hk] at at_k
        exact absurd (same.symm.trans m.name) (apart hk at_k pb)
    · rw [m.other hj] at at_j
      by_cases hk : k = i
      · subst hk
        obtain rfl := Option.some.inj (at_k.symm.trans m.now)
        exact absurd (same.trans m.name) (apart hj at_j pa)
      · rw [m.other hk] at at_k
        exact h.alone j k a b at_j at_k pa pb same
  · intro c hc
    obtain rfl | ⟨j, -, at_j⟩ := m.mem hc
    · exact refused
    · exact h.refused c (List.mem_of_getElem? at_j)

theorem moves_put (at_i : w.calls[i]? = some call) (pending : call.Pending) (next : SwapCall)
    (own : next.name = call.name) (state : RemoteState) : Moves w i call ((w.put call.name state).setCall i next) next where
  at_i
  pending
  calls := rfl
  name := own
  others n ne := (definition_put call.name n).trans (if_neg ne)

theorem definition_put_self (state : RemoteState) : (w.put name state).definition name = some state.definition :=
  (definition_put name name).trans (if_pos rfl)

theorem pending_of_phase {phase : Phase} (at_phase : call.phase = phase)
    (waits : ∀ result after, phase ≠ .done result after) : call.Pending :=
  fun result after done => waits result after (at_phase.symm.trans done)

/-- A swap ends, and leaves what was given or, if it is one that has swapped, what it was given itself. -/
theorem inv_finish (h : Inv defs w) (at_i : w.calls[i]? = some call) (pending : call.Pending) (next : SwapCall)
    (own : next.name = call.name) (state : RemoteState) {result : Result}
    (given : Given defs w state.definition.baseUrl state.definition.version ∨
      result = .swapped ∧ next.newBaseUrl = state.definition.baseUrl ∧ next.newVersion = state.definition.version ∧
        next.reported = some state.definition.version)
    (refused : result.value = .ok false → some state.definition = next.before) :
    Inv defs ((w.put call.name state).finish i next result) := by
  let ended : SwapCall := { next with phase := .done result ((w.put call.name state).definition next.name) }
  have m : Moves w i call ((w.put call.name state).finish i next result) ended :=
    moves_put at_i pending ended own state
  refine m.inv h (fun none => absurd rfl (none _ _)) (fun _ d hd => ?_) (fun r after done no => ?_)
  · obtain rfl := Option.some.inj ((definition_put_self state).symm.trans hd)
    obtain given | ⟨rfl, baseUrl, version, reported⟩ := given
    · exact m.given given
    · exact .inr ⟨ended, List.mem_of_getElem? m.now, ⟨_, rfl⟩, baseUrl, version, reported⟩
  · obtain ⟨rfl, rfl⟩ := Phase.done.inj done
    rw [own]
    exact (definition_put_self state).trans (refused no)

theorem inv_checked (h : Inv defs w) (at_i : w.calls[i]? = some call) (phase : call.phase = .health)
    (found : w.remotes call.name = some state) {fetched : Fetched} {thrown : Option String}
    (meets : (checkRemoteHealth fetched).ok = true →
      (checkRemoteHealth fetched).version = call.newVersion ∧ thrown = none) :
    Inv defs (w.checked i call state fetched thrown) := by
  have pending : call.Pending := pending_of_phase phase fun _ _ e => by cases e
  obtain ⟨before, eq, given, waits⟩ := h.waits call (List.mem_of_getElem? at_i) pending
  rw [phase] at waits
  have same : state.definition = before :=
    Option.some.inj ((congrArg (Option.map RemoteState.definition) found).symm.trans waits)
  unfold World.checked
  by_cases ok : (checkRemoteHealth fetched).ok = true
  · obtain ⟨reported, rfl⟩ := meets ok
    rw [if_neg (not_not_intro ok)]
    let next : SwapCall := { call with
      reported := some (checkRemoteHealth fetched).version, phase := .sharing state.definition.fallbackUrl }
    refine (moves_put at_i pending next rfl _).inv h (fun _ => ⟨before, eq, given, ?_⟩) (fun none => ?_)
      (fun result after done => by cases done)
    · refine ⟨congrArg RemoteDefinition.fallbackUrl same, congrArg some reported, ?_⟩
      refine (definition_put_self _).trans ?_
      rw [same]
    · exact absurd (pending_of_phase rfl fun _ _ e => by cases e) none
  · rw [if_pos ok]
    refine inv_finish h at_i pending { call with reported := some (checkRemoteHealth fetched).version } rfl _
      (.inl ?_) fun _ => ?_
    · rw [same]
      exact given
    · exact (congrArg some same).trans eq.symm

theorem inv_shared (h : Inv defs w) (at_i : w.calls[i]? = some call) {oldFallback : String}
    (phase : call.phase = .sharing oldFallback) (url : String) :
    Inv defs (w.setCall i { call with phase := .script oldFallback url }) := by
  have pending : call.Pending := pending_of_phase phase fun _ _ e => by cases e
  have m : Moves w i call (w.setCall i { call with phase := .script oldFallback url }) _ :=
    ⟨at_i, pending, rfl, rfl, fun _ _ => rfl⟩
  obtain ⟨before, eq, given, waits⟩ := h.waits call (List.mem_of_getElem? at_i) pending
  rw [phase] at waits
  refine m.inv h (fun _ => ⟨before, eq, given, waits⟩) (fun none => ?_) (fun result after done => by cases done)
  exact absurd (pending_of_phase rfl fun _ _ e => by cases e) none

theorem inv_tried (h : Inv defs w) (at_i : w.calls[i]? = some call) {oldFallback url : String}
    (phase : call.phase = .script oldFallback url) (found : w.remotes call.name = some state)
    {before : RemoteDefinition} (started : call.before = some before) (mount : Mount) (now : ℤ) :
    Inv defs (w.tried i call state oldFallback before.version mount now) := by
  have pending : call.Pending := pending_of_phase phase fun _ _ e => by cases e
  obtain ⟨before', eq, given, waits⟩ := h.waits call (List.mem_of_getElem? at_i) pending
  obtain rfl := Option.some.inj (eq.symm.trans started)
  rw [phase] at waits
  obtain ⟨rfl, reported, waits⟩ := waits
  have same := Option.some.inj ((congrArg (Option.map RemoteState.definition) found).symm.trans waits)
  have restored : Inv defs (w.tried i call state before'.fallbackUrl before'.version .notLoaded now) := by
    refine inv_finish h at_i pending call rfl _ (.inl ?_) fun _ => ?_
    · rw [same]
      exact given
    · rw [same]
      exact eq.symm
  cases mount with
  | loaded =>
    refine inv_finish h at_i pending call rfl _ (.inr ?_) fun no => (by cases no)
    rw [same]
    exact ⟨rfl, rfl, rfl, reported⟩
  | notLoaded | thrown => exact restored

/-! ## Calls begin -/

theorem given_append {baseUrl version : String} (h : Given defs w baseUrl version) (more : List SwapCall) :
    Given defs { w with calls := w.calls ++ more } baseUrl version :=
  h.imp_right fun ⟨call, mem, done⟩ => ⟨call, List.mem_append_left more mem, done⟩

theorem getElem?_concat_eq_some {α : Type*} {l : List α} {x a : α} {j : ℕ} (h : (l ++ [x])[j]? = some a) :
    l[j]? = some a ∨ j = l.length ∧ a = x := by
  obtain lt | ge := Nat.lt_or_ge j l.length
  · exact .inl (List.getElem?_append_left lt ▸ h)
  · rw [List.getElem?_append_right ge, List.getElem?_singleton] at h
    split at h
    · exact .inr ⟨by omega, (Option.some.inj h).symm⟩
    · cases h

theorem inv_append (h : Inv defs w) (call : SwapCall)
    (waits : call.Pending → call.phase = .health ∧ call.before = w.definition call.name ∧
      (∃ before, call.before = some before) ∧ ∀ c ∈ w.calls, c.Pending → c.name ≠ call.name)
    (refused : ∀ result after, call.phase = .done result after → result.value = .ok false → after = call.before) :
    Inv defs { w with calls := w.calls ++ [call] } := by
  constructor
  · intro name d hd free
    exact given_append (h.idle name d hd fun c hc => free c (List.mem_append_left _ hc)) _
  · intro c hc pending
    obtain old | new := List.mem_append.mp hc
    · obtain ⟨before, eq, given, waits⟩ := h.waits c old pending
      exact ⟨before, eq, given_append given _, waits⟩
    · obtain rfl := List.mem_singleton.mp new
      obtain ⟨phase, now, ⟨before, eq⟩, free⟩ := waits pending
      refine ⟨before, eq, given_append (h.idle c.name before (now ▸ eq) free) _, ?_⟩
      rw [phase]
      exact (now.symm.trans eq : w.definition c.name = some before)
  · intro j k a b at_j at_k pa pb same
    obtain old_j | ⟨rfl, rfl⟩ := getElem?_concat_eq_some at_j
    · obtain old_k | ⟨rfl, rfl⟩ := getElem?_concat_eq_some at_k
      · exact h.alone j k a b old_j old_k pa pb same
      · exact absurd same ((waits pb).2.2.2 a (List.mem_of_getElem? old_j) pa)
    · obtain old_k | ⟨rfl, rfl⟩ := getElem?_concat_eq_some at_k
      · exact absurd same.symm ((waits pa).2.2.2 b (List.mem_of_getElem? old_k) pb)
      · rfl
  · intro c hc
    obtain old | new := List.mem_append.mp hc
    · exact h.refused c old
    · exact List.mem_singleton.mp new ▸ refused

theorem inv_swapVersion (h : Inv defs w) {newBaseUrl newVersion : String} (free : w.Free name newVersion) :
    Inv defs (w.swapVersion name newBaseUrl newVersion) := by
  unfold World.swapVersion
  cases before : w.definition name with
  | none => exact inv_append h _ (fun pending => absurd rfl (pending _ _)) fun _ _ done _ => (Phase.done.inj done).2.symm
  | some d =>
    by_cases same : d.version = newVersion
    · refine inv_append h _ (fun pending => absurd (if_pos same) (pending _ _)) fun _ _ done _ => ?_
      exact (Phase.done.inj ((if_pos same).symm.trans done)).2.symm
    · refine inv_append h _ (fun _ => ⟨if_neg same, before.symm, ⟨d, rfl⟩, free d before same⟩) fun _ _ done _ => ?_
      cases (if_neg same).symm.trans done

/-- Manifests wait for their swaps, and change nothing themselves. -/
theorem inv_manifests (h : Inv defs w) (manifests : List ManifestCall) : Inv defs { w with manifests } :=
  ⟨h.idle, h.waits, h.alone, h.refused⟩

theorem inv_proceed (h : Inv defs w) (m : ℕ) (manifest : ManifestCall) {rest : List String}
    (free : w.FreeNext manifest.version rest) : Inv defs (w.proceed m manifest rest) := by
  unfold World.proceed
  cases next : w.artifacts rest with
  | nil => exact inv_manifests h _
  | cons name rest => exact inv_manifests (inv_swapVersion h (free name rest next)) _

theorem inv_step (h : Inv defs w) (a : Act) (meets : Meets w a) : Inv defs (w.step a) := by
  cases a with
  | swapVersion name newBaseUrl newVersion => exact inv_swapVersion h meets
  | applyManifest version artifactNames => exact inv_proceed (inv_manifests h _) _ _ meets
  | rollbackAll =>
    have same : w.step .rollbackAll = w := by
      have fixed (name : String) : (w.remotes name).map World.rollback = w.remotes name := by
        cases found : w.remotes name with
        | none => rfl
        | some state =>
          have even := meets name state.definition (congrArg (Option.map RemoteState.definition) found)
          exact congrArg some (if_neg (not_not_intro even))
      exact congrArg (fun remotes => { w with remotes }) (funext fixed)
    rw [same]
    exact h
  | resume m =>
    simp only [World.step, World.resume]
    split
    · exact h
    · exact inv_manifests h _
    · rename_i manifest name result rest swapped
      exact inv_proceed h m _ (meets manifest name result rest swapped)
  | health i fetched thrown =>
    simp only [World.step]
    split
    · exact h
    · rename_i call at_i
      split
      · rename_i state phase found
        exact inv_checked h at_i phase found (meets call at_i phase)
      · exact h
  | shared i =>
    simp only [World.step]
    split
    · exact h
    · rename_i call at_i
      split
      · rename_i phase found
        exact inv_shared h at_i phase _
      · exact h
  | script i mount now =>
    simp only [World.step]
    split
    · exact h
    · rename_i call at_i
      split
      · rename_i phase found started
        exact inv_tried h at_i phase found started mount now
      · exact h

theorem Inv.whole (h : Inv defs w) : Whole defs w :=
  ⟨fun quiet name d hd => h.idle name d hd fun call mem pending => absurd pending (quiet.1 call mem), h.refused⟩

end

/-- **No remote is half swapped** in a run of swaps that do not overlap, whose health checks report the version
asked for, and in which there is nothing to roll back from outside. -/
theorem whole_of_meets (defs : List RemoteDefinition) (acts : List Act)
    (meets : Runs.EachStep World.step Meets (.start defs) acts) :
    Runs.Always World.step (Whole defs) (.start defs) acts :=
  Runs.always_of_eachStep (J := Inv defs) (fun _ h => h.whole) (fun _ a h => inv_step h a) (inv_start defs) meets

namespace Shell

def menu : RemoteDefinition := ⟨"menu", "https://cdn/menu/v1.0.0", "1.0.0", "https://cdn/menu/v1.0.0"⟩

/-- The menu is swapped to its second version. -/
def upgrade : List Act :=
  [.swapVersion "menu" "https://cdn/menu/v2.0.0" "2.0.0", .health 0 (.response true (some (some "2.0.0"))) none,
    .shared 0, .script 0 .loaded 1753000000000]

theorem upgrade_whole : Runs.Always World.step (Whole [menu]) (.start [menu]) upgrade := by
  refine whole_of_meets [menu] upgrade ⟨?_, ?_, trivial, trivial, trivial⟩
  · intro _ _ _ call mem
    exact absurd mem List.not_mem_nil
  · intro call at_0 _ _
    obtain rfl := Option.some.inj at_0
    exact ⟨rfl, rfl⟩

/-- `rollbackAll` goes back to the first URL and leaves the second version. -/
theorem rollback_halves : ¬ Whole [menu] (Runs.run World.step (.start [menu]) (upgrade ++ [.rollbackAll])) := by
  intro whole
  have quiet : (Runs.run World.step (.start [menu]) (upgrade ++ [.rollbackAll])).Quiet := by
    refine ⟨fun call mem pending => ?_, fun manifest mem => absurd mem List.not_mem_nil⟩
    obtain rfl := List.mem_singleton.mp mem
    exact pending _ _ rfl
  obtain ⟨d, mem, -, version⟩ | ⟨call, mem, -, baseUrl, -⟩ := whole.given quiet "menu"
    ⟨"menu", "https://cdn/menu/v1.0.0", "2.0.0", "https://cdn/menu/v1.0.0"⟩ rfl
  · obtain rfl := List.mem_singleton.mp mem
    exact absurd version (by decide)
  · obtain rfl := List.mem_singleton.mp mem
    exact absurd baseUrl (by decide)

end Shell

end Kiosk.Updater.RemoteModules
