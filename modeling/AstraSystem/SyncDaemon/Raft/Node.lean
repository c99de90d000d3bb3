import AstraSystem.SyncDaemon.Types

/-!
# One node of the election (`raft/mod.rs`)

The loop of `start` and the two message handlers share the state machine and the
daemon state, each under a lock of its own. A node steps from one lock release
or await point to the next. Instants are nanoseconds.
-/

namespace SyncDaemon.Raft

inductive RaftState where
  | follower
  | candidate
  | leader
  deriving DecidableEq, Repr

structure RaftStateMachine where
  state : RaftState
  currentTerm : UInt64
  votedFor : Option String
  leaderId : Option String
  lastLeaderHeartbeat : ℕ
  votesReceived : ℕ
  knownPeers : ℕ
  myId : String
  deriving DecidableEq, Repr

/-- `Config::validate` rejects a range that is not one. -/
structure RaftConfig where
  electionTimeoutMinMs : UInt64
  electionTimeoutMaxMs : UInt64
  ordered : electionTimeoutMinMs < electionTimeoutMaxMs

/-- The timeouts of a configuration that does not set them. -/
def defaultConfig : RaftConfig := ⟨1500, 3000, by decide⟩

def fromMillis (ms : ℕ) : ℕ := ms * 1000000

/-- `draw` is what the random generator supplies. -/
def electionTimeout (cfg : RaftConfig) (draw : ℕ) : ℕ :=
  let width := cfg.electionTimeoutMaxMs.toNat - cfg.electionTimeoutMinMs.toNat + 1
  fromMillis (cfg.electionTimeoutMinMs.toNat + draw % width)

namespace RaftStateMachine

def elapsed (sm : RaftStateMachine) (now : ℕ) : ℕ := now - sm.lastLeaderHeartbeat

/-- What `handle_append_entries` does to the state machine, and its answer. -/
def handleAppendEntries (sm : RaftStateMachine) (term : UInt64) (leaderId : String) (now : ℕ) :
    RaftStateMachine × Bool :=
  if term < sm.currentTerm then (sm, false)
  else
    let sm := if sm.currentTerm < term then
        { sm with
          currentTerm := term
          votedFor := none
          state := if sm.state = .leader then .follower else sm.state }
      else sm
    ({ sm with
        state := .follower
        leaderId := some leaderId
        lastLeaderHeartbeat := now
        votesReceived := 0 }, true)

/-- `handle_request_vote`; the log fields of the request are not read. -/
def handleRequestVote (sm : RaftStateMachine) (term : UInt64) (candidateId : String) (now : ℕ) :
    RaftStateMachine × Bool :=
  if term < sm.currentTerm then (sm, false)
  else
    let sm := if sm.currentTerm < term then
        { sm with currentTerm := term, votedFor := none, state := .follower }
      else sm
    let grant := ({ sm with votedFor := some candidateId, lastLeaderHeartbeat := now }, true)
    match sm.votedFor with
    | some voted => if voted ≠ candidateId then (sm, false) else grant
    | none => grant

/-- An election check that finds a follower out of time. -/
def becomeCandidate (sm : RaftStateMachine) (term : UInt64) : RaftStateMachine :=
  { sm with
    state := .candidate
    currentTerm := term
    votedFor := some sm.myId
    votesReceived := 1
    leaderId := none }

/-- An election check that finds a candidate out of time. -/
def restartElection (sm : RaftStateMachine) (term : UInt64) (now : ℕ) : RaftStateMachine :=
  { sm with
    currentTerm := term
    votedFor := some sm.myId
    votesReceived := 1
    lastLeaderHeartbeat := now }

def hasMajority (sm : RaftStateMachine) : Bool :=
  let total := max sm.knownPeers 1
  decide (sm.votesReceived > total / 2)

end RaftStateMachine

/-- Where the loop of `start` is. It holds the state machine's lock in `assertLeader`, before it
writes the daemon state, and in `standDown`. -/
inductive Loop where
  | idle
  | heartbeat (term : UInt64) (leaderId : String)
  | requestVotes (term : UInt64) (candidateId : String)
  | assertLeader
  | standDown
  | stopped
  deriving DecidableEq, Repr

structure Node where
  sm : RaftStateMachine
  ds : DaemonState
  loop : Loop
  /-- `handle_append_entries` holds the state machine's lock and has yet to write the daemon
  state. -/
  appending : Bool
  deriving DecidableEq, Repr

inductive LoopAction where
  | heartbeatTick
  | heartbeatWrite
  | electionTick (now draw : ℕ)
  | votesRequested
  | leaderWrite
  | shutdown
  | standDownWrite
  deriving DecidableEq, Repr

inductive NodeAction where
  | loop (a : LoopAction)
  | appendEntries (term : UInt64) (leaderId : String) (now : ℕ)
  | appendWrite
  | requestVote (term : UInt64) (candidateId : String) (now : ℕ)
  deriving DecidableEq, Repr

namespace Node

def new (myId : String) (now : ℕ) : Node where
  sm := ⟨.follower, 0, none, none, now, 0, 1, myId⟩
  ds := .new ⟨myId⟩
  loop := .idle
  appending := false

/-- Nobody holds the state machine's lock. -/
def unlocked (n : Node) : Bool :=
  !n.appending && n.loop != .assertLeader && n.loop != .standDown

/-- The loop waits for its timers and can take the lock. -/
def ready (n : Node) : Bool := n.loop == .idle && n.unlocked

def heartbeatTick (n : Node) : Node :=
  if n.sm.state ≠ .leader then n
  else { n with loop := .heartbeat n.sm.currentTerm n.sm.myId }

/-- A panic in `current_term + 1` ends the loop's task. -/
def electionTick (profile : Profile) (cfg : RaftConfig) (n : Node) (now draw : ℕ) : Node :=
  match n.sm.state with
  | .follower =>
    let timeout := electionTimeout cfg draw
    if n.sm.elapsed now > timeout then
      match profile.add n.sm.currentTerm 1 with
      | some term =>
        { n with sm := n.sm.becomeCandidate term, loop := .requestVotes term n.sm.myId }
      | none => { n with loop := .stopped }
    else n
  | .candidate =>
    if n.sm.hasMajority then
      { n with
        sm := { n.sm with state := .leader, leaderId := some n.sm.myId }
        loop := .assertLeader }
    else if n.sm.elapsed now > electionTimeout cfg draw * 2 then
      match profile.add n.sm.currentTerm 1 with
      | some term =>
        { n with sm := n.sm.restartElection term now, loop := .requestVotes term n.sm.myId }
      | none => { n with loop := .stopped }
    else n
  | .leader => { n with loop := .assertLeader }

def shutdown (n : Node) : Node :=
  let sm := if n.sm.state = .leader then { n.sm with state := .follower, leaderId := none } else n.sm
  { n with sm := sm, loop := .standDown }

def writeLeader (n : Node) (term : UInt64) : Node :=
  { n with ds := { n.ds with isLeader := true, raftTerm := term }, loop := .idle }

/-- A step of the loop of `start`; one that is not due changes nothing. -/
def loopStep (profile : Profile) (cfg : RaftConfig) (n : Node) : LoopAction → Node
  | .heartbeatTick => if n.ready then n.heartbeatTick else n
  | .heartbeatWrite =>
    match n.loop with
    | .heartbeat term _ => n.writeLeader term
    | _ => n
  | .electionTick now draw => if n.ready then n.electionTick profile cfg now draw else n
  | .votesRequested =>
    match n.loop with
    | .requestVotes _ _ => { n with loop := .idle }
    | _ => n
  | .leaderWrite =>
    match n.loop with
    | .assertLeader => n.writeLeader n.sm.currentTerm
    | _ => n
  | .shutdown => if n.ready then n.shutdown else n
  | .standDownWrite =>
    match n.loop with
    | .standDown => { n with ds := { n.ds with isLeader := false }, loop := .stopped }
    | _ => n

def step (profile : Profile) (cfg : RaftConfig) (n : Node) : NodeAction → Node
  | .loop a => n.loopStep profile cfg a
  | .appendEntries term leaderId now =>
    if n.unlocked then
      let (sm, accepted) := n.sm.handleAppendEntries term leaderId now
      { n with sm := sm, appending := accepted }
    else n
  | .appendWrite =>
    if n.appending then
      { n with
        ds := { n.ds with isLeader := false, raftTerm := n.sm.currentTerm }
        appending := false }
    else n
  | .requestVote term candidateId now =>
    if n.unlocked then { n with sm := (n.sm.handleRequestVote term candidateId now).1 } else n

end Node

/-! ## What the pieces of a step can do -/

namespace RaftStateMachine

/-- What a heartbeat makes of a state machine, and the answer to it. -/
inductive Heard (sm : RaftStateMachine) : RaftStateMachine × Bool → Prop
  | stale : Heard sm (sm, false)
  | accepted (sm' : RaftStateMachine) (follows : sm'.state = .follower)
      (peers : sm'.knownPeers = sm.knownPeers) : Heard sm (sm', true)

theorem handleAppendEntries_heard (sm : RaftStateMachine) (term : UInt64) (leaderId : String)
    (now : ℕ) : sm.Heard (sm.handleAppendEntries term leaderId now) := by
  unfold handleAppendEntries
  split
  · exact .stale
  · apply Heard.accepted
    · rfl
    · simp only []
      split <;> rfl

/-- Only a vote request of a newer term changes what the node is. -/
inductive Asked (sm : RaftStateMachine) (term : UInt64) (sm' : RaftStateMachine) : Prop
  | kept (old : ¬ sm.currentTerm < term) (state : sm'.state = sm.state)
      (same : sm'.currentTerm = sm.currentTerm)
  | deposed (newer : sm.currentTerm < term) (follows : sm'.state = .follower)

theorem handleRequestVote_asked (sm : RaftStateMachine) (term : UInt64) (candidateId : String)
    (now : ℕ) : sm.Asked term (sm.handleRequestVote term candidateId now).1 := by
  unfold handleRequestVote
  by_cases old : term < sm.currentTerm
  · have notNewer := UInt64.not_lt.mpr (UInt64.le_of_lt old)
    simp only [old, ↓reduceIte]
    exact .kept notNewer rfl rfl
  · by_cases newer : sm.currentTerm < term
    · simp only [old, newer, ↓reduceIte]
      exact .deposed newer rfl
    · simp only [old, newer, ↓reduceIte]
      apply Asked.kept newer
      · split
        · split <;> rfl
        · rfl
      · split
        · split <;> rfl
        · rfl

theorem handleRequestVote_tally (sm : RaftStateMachine) (term : UInt64) (candidateId : String)
    (now : ℕ) :
    (sm.handleRequestVote term candidateId now).1.votesReceived = sm.votesReceived ∧
    (sm.handleRequestVote term candidateId now).1.knownPeers = sm.knownPeers := by
  unfold handleRequestVote
  by_cases old : term < sm.currentTerm
  · simp [old]
  · by_cases newer : sm.currentTerm < term
    · simp [old, newer]
    · simp only [old, newer, ↓reduceIte]
      split
      · split <;> exact ⟨rfl, rfl⟩
      · exact ⟨rfl, rfl⟩

end RaftStateMachine

namespace Node

variable {profile : Profile} {cfg : RaftConfig}

/-- The election check finds the node out of time. -/
def electionDue (cfg : RaftConfig) (n : Node) (now draw : ℕ) : Bool :=
  match n.sm.state with
  | .follower => decide (n.sm.elapsed now > electionTimeout cfg draw)
  | .candidate =>
    !n.sm.hasMajority && decide (n.sm.elapsed now > electionTimeout cfg draw * 2)
  | .leader => false

/-- What an election check makes of a node. -/
inductive Checked (profile : Profile) (cfg : RaftConfig) (n : Node) (now draw : ℕ) : Node → Prop
  | early (other : n.sm.state ≠ .leader) : Checked profile cfg n now draw n
  | overflow (other : n.sm.state ≠ .leader) :
      Checked profile cfg n now draw { n with loop := .stopped }
  | stand {term : UInt64} {sm : RaftStateMachine} (due : n.electionDue cfg now draw = true)
      (next : profile.add n.sm.currentTerm 1 = some term) (candidate : sm.state = .candidate)
      (raised : sm.currentTerm = term) (votes : sm.votesReceived = 1)
      (peers : sm.knownPeers = n.sm.knownPeers) :
      Checked profile cfg n now draw { n with sm := sm, loop := .requestVotes term n.sm.myId }
  | win (candidate : n.sm.state = .candidate) :
      Checked profile cfg n now draw { n with
        sm := { n.sm with state := .leader, leaderId := some n.sm.myId }
        loop := .assertLeader }
  | confirm (leads : n.sm.state = .leader) :
      Checked profile cfg n now draw { n with loop := .assertLeader }

variable (profile cfg) in
theorem electionTick_checked (n : Node) (now draw : ℕ) :
    n.Checked profile cfg now draw (n.electionTick profile cfg now draw) := by
  unfold electionTick
  cases hs : n.sm.state with
  | follower =>
    by_cases late : n.sm.elapsed now > electionTimeout cfg draw
    · have due : n.electionDue cfg now draw = true := by simp [electionDue, hs, late]
      cases hterm : profile.add n.sm.currentTerm 1 with
      | none =>
        simp only [late, ↓reduceIte]
        exact .overflow (by simp [hs])
      | some term =>
        simp only [late, ↓reduceIte]
        exact .stand due hterm rfl rfl rfl rfl
    · simp only [late, ↓reduceIte]
      exact .early (by simp [hs])
  | candidate =>
    cases won : n.sm.hasMajority with
    | true => exact .win hs
    | false =>
      by_cases late : n.sm.elapsed now > electionTimeout cfg draw * 2
      · have due : n.electionDue cfg now draw = true := by simp [electionDue, hs, won, late]
        cases hterm : profile.add n.sm.currentTerm 1 with
        | none =>
          simp only [late, ↓reduceIte]
          exact .overflow (by simp [hs])
        | some term =>
          simp only [late, ↓reduceIte]
          exact .stand due hterm hs rfl rfl rfl
      · simp only [late, ↓reduceIte]
        exact .early (by simp [hs])
  | leader => exact .confirm hs

theorem electionTick_of_due {n : Node} {now draw : ℕ} {term : UInt64}
    (due : n.electionDue cfg now draw = true)
    (hterm : profile.add n.sm.currentTerm 1 = some term) :
    ∃ sm, n.electionTick profile cfg now draw =
      { n with sm := sm, loop := .requestVotes term n.sm.myId } ∧ sm.state = .candidate ∧
      sm.currentTerm = term := by
  unfold electionDue at due
  unfold electionTick
  cases hs : n.sm.state with
  | follower =>
    simp only [hs, decide_eq_true_eq] at due
    exact ⟨n.sm.becomeCandidate term, by simp only [due, ↓reduceIte, hterm], rfl, rfl⟩
  | candidate =>
    simp only [hs, Bool.and_eq_true, Bool.not_eq_true', decide_eq_true_eq] at due
    refine ⟨n.sm.restartElection term now, ?_, hs, rfl⟩
    simp only [due, ↓reduceIte, hterm, Bool.false_eq_true]
  | leader => simp [hs] at due

theorem ready_iff (n : Node) : n.ready = true ↔ n.loop = .idle ∧ n.appending = false := by
  cases h : n.loop <;> simp [ready, unlocked, h]

theorem unlocked_iff (n : Node) : n.unlocked = true ↔
    n.appending = false ∧ n.loop ≠ .assertLeader ∧ n.loop ≠ .standDown := by
  simp [unlocked, and_assoc]

end Node

end SyncDaemon.Raft
