import AstraSystem.Lib.Runs
import AstraSystem.SyncDaemon.Raft.Node

/-!
# The leader flag of the daemon state

`DaemonState::is_leader` copies the Raft state for the cloud flush, under another
lock. A higher-term vote request makes a leader step down without clearing the
flag, and a heartbeat tick sets it after it has let go of the Raft lock.
-/

namespace SyncDaemon.Raft

open Runs

namespace Node

/-- No step of the loop or of a handler is in progress. -/
def Quiescent (n : Node) : Prop := (n.loop = .idle ∨ n.loop = .stopped) ∧ n.appending = false

def FlagAgrees (n : Node) : Prop := n.Quiescent → n.ds.isLeader = true → n.sm.state = .leader

/-- A leader at rest hears no vote request of a newer term, and a heartbeat tick does not set the
flag of a node that has stepped down since, unless the handler that will clear it is under way. -/
def Timely (n : Node) : NodeAction → Prop
  | .loop .heartbeatWrite =>
    (∃ term id, n.loop = .heartbeat term id) → n.sm.state = .leader ∨ n.appending = true
  | .requestVote term _ _ => n.ready = true → n.sm.state = .leader → ¬ n.sm.currentTerm < term
  | _ => True

/-- How the flag, the state machine and the loop fit together between timely steps. -/
structure FlagInv (n : Node) : Prop where
  asserting : n.loop = .assertLeader → n.sm.state = .leader
  appending : n.appending = true → n.sm.state = .follower
  leading : n.sm.state = .leader → n.loop = .assertLeader ∨ n.ds.isLeader = true
  looping : n.sm.state = .leader →
    n.loop = .idle ∨ n.loop = .assertLeader ∨ ∃ term id, n.loop = .heartbeat term id
  flagged : n.ds.isLeader = true → n.sm.state = .leader ∨ n.appending = true ∨
    n.loop = .standDown ∨ ∃ term id, n.loop = .heartbeat term id

theorem flagInv_new (myId : String) (now : ℕ) : (Node.new myId now).FlagInv := by
  constructor <;> simp [Node.new, DaemonState.new]

theorem FlagInv.agrees {n : Node} (h : n.FlagInv) : n.FlagAgrees := by
  intro hq hf
  obtain ⟨hl, ha⟩ := hq
  obtain hs | hs | hs | ⟨_, _, hs⟩ := h.flagged hf
  · exact hs
  · rw [ha] at hs; cases hs
  · rw [hs] at hl; simp at hl
  · rw [hs] at hl; simp at hl

variable {profile : Profile} {cfg : RaftConfig} {n : Node}

/-- At rest the flag is raised on a leader only. -/
theorem FlagInv.at_rest (h : n.FlagInv) (hr : n.ready = true) (hf : n.ds.isLeader = true) :
    n.sm.state = .leader := by
  obtain ⟨hl, ha⟩ := n.ready_iff.mp hr
  exact h.agrees ⟨.inl hl, ha⟩ hf

theorem FlagInv.electionTick (h : n.FlagInv) (hr : n.ready = true) (now draw : ℕ) :
    (n.electionTick profile cfg now draw).FlagInv := by
  have ha := (n.ready_iff.mp hr).2
  have flagged := h.at_rest hr
  have checked := n.electionTick_checked profile cfg now draw
  generalize n.electionTick profile cfg now draw = next at checked ⊢
  cases checked with
  | early _ => exact h
  | overflow other =>
    exact ⟨by simp, h.appending, fun hs => absurd hs other, fun hs => absurd hs other,
      fun hf => .inl (flagged hf)⟩
  | stand due _ candidate _ _ _ =>
    -- a leader's check starts no election
    have follows : n.sm.state ≠ .leader := by
      intro hs
      simp [electionDue, hs] at due
    exact ⟨by simp, by simp [ha], by simp [candidate], by simp [candidate],
      fun hf => absurd (flagged hf) follows⟩
  | win _ =>
    exact ⟨fun _ => rfl, by simp [ha], fun _ => .inl rfl, fun _ => .inr (.inl rfl),
      fun _ => .inl rfl⟩
  | confirm leads =>
    exact ⟨fun _ => leads, h.appending, fun _ => .inl rfl, fun _ => .inr (.inl rfl),
      fun _ => .inl leads⟩

theorem FlagInv.heartbeatTick (h : n.FlagInv) (hr : n.ready = true) : n.heartbeatTick.FlagInv := by
  unfold Node.heartbeatTick
  split
  · exact h
  · rename_i hs
    have hs : n.sm.state = .leader := not_not.mp hs
    have hl := (n.ready_iff.mp hr).1
    have raised : n.ds.isLeader = true := by simpa [hl] using h.leading hs
    exact ⟨by simp, h.appending, fun _ => .inr raised, fun _ => .inr (.inr ⟨_, _, rfl⟩),
      fun _ => .inl hs⟩

theorem flagInv_shutdown (hr : n.ready = true) : n.shutdown.FlagInv := by
  have ha := (n.ready_iff.mp hr).2
  have down : n.shutdown.sm.state ≠ .leader := by
    unfold Node.shutdown
    by_cases hs : n.sm.state = .leader <;> simp [hs]
  exact ⟨by simp [Node.shutdown], by simp [Node.shutdown, ha], fun hs => absurd hs down,
    fun hs => absurd hs down, fun _ => .inr (.inr (.inl rfl))⟩

/-- Raising the flag is right where the node leads, or where the handler that clears it is under
way. -/
theorem FlagInv.writeLeader (h : n.FlagInv) (term : UInt64)
    (ok : n.sm.state = .leader ∨ n.appending = true) : (n.writeLeader term).FlagInv :=
  ⟨by simp [Node.writeLeader], h.appending, fun _ => .inr rfl, fun _ => .inl rfl,
    fun _ => ok.imp_right .inl⟩

theorem FlagInv.loopStep (h : n.FlagInv) (a : LoopAction) (timely : n.Timely (.loop a)) :
    (n.loopStep profile cfg a).FlagInv := by
  cases a with
  | heartbeatTick =>
    simp only [Node.loopStep]
    split
    · exact h.heartbeatTick ‹_›
    · exact h
  | heartbeatWrite =>
    simp only [Node.loopStep]
    split
    · exact h.writeLeader _ (timely ⟨_, _, ‹_›⟩)
    · exact h
  | electionTick now draw =>
    simp only [Node.loopStep]
    split
    · exact h.electionTick ‹_› now draw
    · exact h
  | votesRequested =>
    simp only [Node.loopStep]
    split
    · rename_i hl
      have flagged : n.ds.isLeader = true → n.sm.state = .leader ∨ n.appending = true := by
        simpa [hl] using h.flagged
      have looping : n.sm.state ≠ .leader := by simpa [hl] using h.looping
      exact ⟨by simp, h.appending, fun hs => absurd hs looping, fun hs => absurd hs looping,
        fun hf => (flagged hf).imp_right .inl⟩
    · exact h
  | leaderWrite =>
    simp only [Node.loopStep]
    split
    · exact h.writeLeader _ (.inl (h.asserting ‹_›))
    · exact h
  | shutdown =>
    simp only [Node.loopStep]
    split
    · exact flagInv_shutdown ‹_›
    · exact h
  | standDownWrite =>
    simp only [Node.loopStep]
    split
    · rename_i hl
      have looping : n.sm.state ≠ .leader := by simpa [hl] using h.looping
      exact ⟨by simp, h.appending, fun hs => absurd hs looping, fun hs => absurd hs looping,
        by simp⟩
    · exact h

theorem FlagInv.appendEntries (h : n.FlagInv) (hu : n.unlocked = true) (term : UInt64)
    (leaderId : String) (now : ℕ) :
    FlagInv { n with
      sm := (n.sm.handleAppendEntries term leaderId now).1
      appending := (n.sm.handleAppendEntries term leaderId now).2 } := by
  obtain ⟨ha, hl, _⟩ := n.unlocked_iff.mp hu
  have heard := n.sm.handleAppendEntries_heard term leaderId now
  generalize n.sm.handleAppendEntries term leaderId now = answer at heard ⊢
  cases heard with
  | stale =>
    exact ⟨h.asserting, by simp, h.leading, h.looping,
      fun hf => by simpa [ha] using h.flagged hf⟩
  | accepted sm follows _ =>
    exact ⟨fun hl' => absurd hl' hl, fun _ => follows, by simp [follows], by simp [follows],
      fun _ => .inr (.inl rfl)⟩

theorem FlagInv.requestVote (h : n.FlagInv) (hu : n.unlocked = true) (term : UInt64)
    (candidateId : String) (now : ℕ) (timely : n.Timely (.requestVote term candidateId now)) :
    FlagInv { n with sm := (n.sm.handleRequestVote term candidateId now).1 } := by
  obtain ⟨ha, hl, hd⟩ := n.unlocked_iff.mp hu
  cases n.sm.handleRequestVote_asked term candidateId now with
  | kept _ state _ =>
    constructor <;> simp only [state]
    · exact h.asserting
    · exact h.appending
    · exact h.leading
    · exact h.looping
    · exact h.flagged
  | deposed newer follows =>
    refine ⟨fun hl' => absurd hl' hl, by simp [ha], by simp [follows], by simp [follows], ?_⟩
    intro hf
    obtain hlead | hp | hp | hp := h.flagged hf
    · -- the leader is not at rest, so its heartbeat is still out
      obtain hi | hi | hi := h.looping hlead
      · exact absurd newer (timely (n.ready_iff.mpr ⟨hi, ha⟩) hlead)
      · exact absurd hi hl
      · exact .inr (.inr (.inr hi))
    · rw [ha] at hp; cases hp
    · exact absurd hp hd
    · exact .inr (.inr (.inr hp))

theorem FlagInv.step (h : n.FlagInv) (a : NodeAction) (timely : n.Timely a) :
    (n.step profile cfg a).FlagInv := by
  cases a with
  | loop a => exact h.loopStep a timely
  | appendEntries term leaderId now =>
    simp only [Node.step]
    split
    · exact h.appendEntries ‹_› term leaderId now
    · exact h
  | appendWrite =>
    simp only [Node.step]
    split
    · rename_i ha
      have hs : n.sm.state ≠ .leader := by rw [h.appending ha]; simp
      exact ⟨h.asserting, by simp, fun hl => absurd hl hs, fun hl => absurd hl hs, by simp⟩
    · exact h
  | requestVote term candidateId now =>
    simp only [Node.step]
    split
    · exact h.requestVote ‹_› term candidateId now timely
    · exact h

/-- A step that is not timely leaves a node at rest with the flag raised and another leader. -/
theorem FlagInv.timely_of_agrees (h : n.FlagInv) (a : NodeAction)
    (after : (n.step profile cfg a).FlagAgrees) : n.Timely a := by
  cases a with
  | loop a =>
    cases a with
    | heartbeatWrite =>
      intro beating
      obtain ⟨term, id, hl⟩ := beating
      by_cases ha : n.appending = true
      · exact .inr ha
      · left
        simpa [FlagAgrees, Quiescent, Node.step, Node.loopStep, hl, Node.writeLeader, ha] using after
    | _ => trivial
  | requestVote term candidateId now =>
    intro hr hs newer
    obtain ⟨hl, ha⟩ := n.ready_iff.mp hr
    have raised : n.ds.isLeader = true := by simpa [hl] using h.leading hs
    have unlocked : n.unlocked = true := by simp [n.unlocked_iff, hl, ha]
    cases n.sm.handleRequestVote_asked term candidateId now with
    | kept old => exact old newer
    | deposed _ follows =>
      simp [FlagAgrees, Quiescent, Node.step, unlocked, hl, ha, raised, follows] at after
  | appendEntries => trivial
  | appendWrite => trivial

/-- **The flag agrees with the Raft state throughout a run exactly when its steps are timely.** -/
theorem flag_agrees_iff (profile : Profile) (cfg : RaftConfig) (myId : String) (now : ℕ)
    (acts : List NodeAction) :
    Always (Node.step profile cfg) FlagAgrees (.new myId now) acts ↔
      EachStep (Node.step profile cfg) Timely (.new myId now) acts :=
  always_iff_eachStep (J := FlagInv) (fun _ => FlagInv.agrees) (fun _ a h => h.step a)
    (fun _ a h => h.timely_of_agrees a) (flagInv_new myId now) acts

end Node

/-- A node wins its election, and then hears of a candidate with a newer term. -/
def outvoted : List NodeAction :=
  [.loop (.electionTick (fromMillis 5000) 0), .loop .votesRequested,
    .loop (.electionTick (fromMillis 5100) 0), .loop .leaderWrite,
    .requestVote 2 "k2" (fromMillis 5200)]

theorem outvoted_keeps_flag :
    ¬ Always (Node.step .release defaultConfig) Node.FlagAgrees (.new "k1" 0) outvoted := by
  intro h
  have last := always_last h
  revert last
  unfold Node.FlagAgrees Node.Quiescent
  decide

end SyncDaemon.Raft
