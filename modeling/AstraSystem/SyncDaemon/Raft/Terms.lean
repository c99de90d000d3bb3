import AstraSystem.Lib.Runs
import AstraSystem.SyncDaemon.Raft.Node

/-!
# Terms and votes over the life of a node

The answers to vote requests and the terms a node stood in are recorded beside
it. While the term does not wrap around, `voted_for` accounts for every vote of
the current term, and the votes of older terms can no longer be added to.
-/

namespace SyncDaemon.Raft

open Runs

/-- `u64::MAX` -/
def maxTerm : UInt64 := UInt64.ofNat (2 ^ 64 - 1)

theorem toNat_maxTerm : maxTerm.toNat = 2 ^ 64 - 1 := by decide

namespace Node

/-- The vote a step answers `Ok(true)` to. -/
def grants (n : Node) : NodeAction → Option (UInt64 × String)
  | .requestVote term candidateId now =>
    if n.unlocked && (n.sm.handleRequestVote term candidateId now).2 then some (term, candidateId)
    else none
  | _ => none

/-- The step is an election check that starts an election. -/
def startsElection (cfg : RaftConfig) (n : Node) : NodeAction → Bool
  | .loop (.electionTick now draw) => n.ready && n.electionDue cfg now draw
  | _ => false

/-- What a step can do to the term, the vote and the state of a node, and the vote it grants. -/
inductive Turns (profile : Profile) (cfg : RaftConfig) (n : Node) (a : NodeAction) :
    RaftStateMachine → Option (UInt64 × String) → Prop
  | keeps {sm : RaftStateMachine} (self : sm.myId = n.sm.myId)
      (term : sm.currentTerm = n.sm.currentTerm) (vote : sm.votedFor = n.sm.votedFor)
      (stands : sm.state = .candidate → n.sm.state = .candidate) : Turns profile cfg n a sm none
  | learns {sm : RaftStateMachine} (self : sm.myId = n.sm.myId)
      (newer : n.sm.currentTerm < sm.currentTerm) (follows : sm.state = .follower) :
      Turns profile cfg n a sm none
  | repeats {sm : RaftStateMachine} {id : String} (self : sm.myId = n.sm.myId)
      (term : sm.currentTerm = n.sm.currentTerm)
      (free : n.sm.votedFor = none ∨ n.sm.votedFor = some id) (vote : sm.votedFor = some id)
      (stands : sm.state = n.sm.state) :
      Turns profile cfg n a sm (some (n.sm.currentTerm, id))
  | votes {sm : RaftStateMachine} {id : String} (self : sm.myId = n.sm.myId)
      (newer : n.sm.currentTerm < sm.currentTerm) (vote : sm.votedFor = some id)
      (follows : sm.state = .follower) : Turns profile cfg n a sm (some (sm.currentTerm, id))
  | stands {sm : RaftStateMachine} (self : sm.myId = n.sm.myId)
      (starts : n.startsElection cfg a = true)
      (next : profile.add n.sm.currentTerm 1 = some sm.currentTerm)
      (vote : sm.votedFor = some n.sm.myId) : Turns profile cfg n a sm none

variable {profile : Profile} {cfg : RaftConfig}

theorem electionTick_turns (n : Node) (hr : n.ready = true) (now draw : ℕ) :
    n.Turns profile cfg (.loop (.electionTick now draw)) (n.electionTick profile cfg now draw).sm
      none := by
  have starts (due : n.electionDue cfg now draw = true) :
      n.startsElection cfg (.loop (.electionTick now draw)) = true := by
    simp [startsElection, hr, due]
  unfold electionTick
  cases hs : n.sm.state with
  | follower =>
    by_cases late : n.sm.elapsed now > electionTimeout cfg draw
    · simp only [late, ↓reduceIte]
      cases hterm : profile.add n.sm.currentTerm 1 with
      | none => exact .keeps rfl rfl rfl id
      | some term => exact .stands rfl (starts (by simp [electionDue, hs, late])) hterm rfl
    · simp only [late, ↓reduceIte]
      exact .keeps rfl rfl rfl id
  | candidate =>
    cases won : n.sm.hasMajority with
    | true => exact .keeps rfl rfl rfl (fun _ => hs)
    | false =>
      by_cases late : n.sm.elapsed now > electionTimeout cfg draw * 2
      · simp only [late, ↓reduceIte, Bool.false_eq_true]
        cases hterm : profile.add n.sm.currentTerm 1 with
        | none => exact .keeps rfl rfl rfl id
        | some term => exact .stands rfl (starts (by simp [electionDue, hs, won, late])) hterm rfl
      · simp only [late, ↓reduceIte, Bool.false_eq_true]
        exact .keeps rfl rfl rfl id
  | leader => exact .keeps rfl rfl rfl id

theorem loopStep_turns (n : Node) (a : LoopAction) :
    n.Turns profile cfg (.loop a) (n.loopStep profile cfg a).sm none := by
  have kept : n.Turns profile cfg (.loop a) n.sm none := .keeps rfl rfl rfl id
  cases a with
  | heartbeatTick =>
    simp only [loopStep, heartbeatTick]
    split
    · split <;> exact kept
    · exact kept
  | electionTick now draw =>
    simp only [loopStep]
    split
    · exact n.electionTick_turns ‹_› now draw
    · exact kept
  | shutdown =>
    simp only [loopStep, shutdown]
    split
    · split
      · exact .keeps rfl rfl rfl (by simp)
      · exact kept
    · exact kept
  | heartbeatWrite => simp only [loopStep]; split <;> exact kept
  | votesRequested => simp only [loopStep]; split <;> exact kept
  | leaderWrite => simp only [loopStep]; split <;> exact kept
  | standDownWrite => simp only [loopStep]; split <;> exact kept

theorem appendEntries_turns (n : Node) (a : NodeAction) (term : UInt64) (leaderId : String)
    (now : ℕ) : n.Turns profile cfg a (n.sm.handleAppendEntries term leaderId now).1 none := by
  unfold RaftStateMachine.handleAppendEntries
  by_cases old : term < n.sm.currentTerm
  · simp only [old, ↓reduceIte]
    exact .keeps rfl rfl rfl id
  · by_cases newer : n.sm.currentTerm < term
    · simp only [old, newer, ↓reduceIte]
      exact .learns rfl newer rfl
    · simp only [old, newer, ↓reduceIte]
      exact .keeps rfl rfl rfl (by simp)

theorem requestVote_turns (n : Node) (a : NodeAction) (term : UInt64) (candidateId : String)
    (now : ℕ) :
    n.Turns profile cfg a (n.sm.handleRequestVote term candidateId now).1
      (if (n.sm.handleRequestVote term candidateId now).2 then some (term, candidateId)
        else none) := by
  unfold RaftStateMachine.handleRequestVote
  by_cases old : term < n.sm.currentTerm
  · simp only [old, ↓reduceIte]
    exact .keeps rfl rfl rfl id
  · by_cases newer : n.sm.currentTerm < term
    · simp only [old, newer, ↓reduceIte]
      exact .votes rfl newer rfl rfl
    · have same : term = n.sm.currentTerm :=
        UInt64.le_antisymm (UInt64.not_lt.mp newer) (UInt64.not_lt.mp old)
      subst same
      simp only [old, ↓reduceIte]
      cases voted : n.sm.votedFor with
      | none => exact .repeats rfl rfl (.inl voted) rfl rfl
      | some chosen =>
        by_cases other : chosen = candidateId
        · subst other
          simp only [ne_eq, not_true_eq_false, ↓reduceIte]
          exact .repeats rfl rfl (.inr voted) rfl rfl
        · simp only [ne_eq, other, not_false_eq_true, ↓reduceIte, Bool.false_eq_true]
          exact .keeps rfl rfl rfl id

variable (profile cfg) in
theorem step_turns (n : Node) (a : NodeAction) :
    n.Turns profile cfg a (n.step profile cfg a).sm (n.grants a) := by
  have kept : n.Turns profile cfg a n.sm none := .keeps rfl rfl rfl id
  cases a with
  | loop a => exact n.loopStep_turns a
  | appendEntries term leaderId now =>
    simp only [step, grants]
    split
    · exact n.appendEntries_turns _ term leaderId now
    · exact kept
  | appendWrite =>
    simp only [step, grants]
    split <;> exact kept
  | requestVote term candidateId now =>
    cases hu : n.unlocked with
    | true => simpa [step, grants, hu] using n.requestVote_turns _ term candidateId now
    | false => simpa [step, grants, hu] using kept

/-! ## The term -/

/-- A step does not take the term back. -/
def Advances (profile : Profile) (cfg : RaftConfig) (n : Node) (a : NodeAction) : Prop :=
  n.sm.currentTerm ≤ (n.step profile cfg a).sm.currentTerm

/-- The step starts an election out of the last term there is. -/
def Exhausts (cfg : RaftConfig) (n : Node) (a : NodeAction) : Prop :=
  n.startsElection cfg a = true ∧ n.sm.currentTerm = maxTerm

instance decidableExhausts (n : Node) (a : NodeAction) : Decidable (n.Exhausts cfg a) :=
  inferInstanceAs (Decidable (_ ∧ _))

theorem release_add_one (term : UInt64) : Profile.release.add term 1 = some (term + 1) := by
  unfold Profile.add
  split <;> rfl

theorem lt_maxTerm {term : UInt64} (h : term ≠ maxTerm) : term.toNat + 1 < 2 ^ 64 := by
  have small := term.toNat_lt
  have other : term.toNat ≠ maxTerm.toNat := fun eq => h (UInt64.toNat_inj.mp eq)
  rw [toNat_maxTerm] at other
  omega

theorem lt_add_one {term : UInt64} (h : term ≠ maxTerm) : term < term + 1 := by
  rw [UInt64.lt_iff_toNat_lt, UInt64.toNat_add, UInt64.toNat_one, Nat.mod_eq_of_lt (lt_maxTerm h)]
  exact Nat.lt_succ_self _

theorem lt_of_add_one (profile : Profile) {term next : UInt64} (h : term ≠ maxTerm)
    (hn : profile.add term 1 = some next) : term < next := by
  rw [(profile.add_eq (lt_maxTerm h)).1] at hn
  cases hn
  exact lt_add_one h

theorem advances_iff (n : Node) (a : NodeAction) :
    n.Advances .release cfg a ↔ ¬ n.Exhausts cfg a := by
  constructor
  · intro advances exhausts
    obtain ⟨starts, last⟩ := exhausts
    unfold startsElection at starts
    split at starts
    · rename_i now draw
      obtain ⟨hr, due⟩ := Bool.and_eq_true_iff.mp starts
      obtain ⟨sm, eq, -, hterm⟩ := electionTick_of_due due (release_add_one _)
      simp only [Advances, step, loopStep, hr, ↓reduceIte, eq, hterm, last] at advances
      exact absurd advances (by decide)
    · cases starts
  · intro room
    unfold Advances
    have turns := n.step_turns .release cfg a
    generalize (n.step .release cfg a).sm = sm at turns ⊢
    generalize n.grants a = vote at turns
    cases turns with
    | keeps _ term => exact term ▸ UInt64.le_refl _
    | learns _ newer => exact UInt64.le_of_lt newer
    | repeats _ term => exact term ▸ UInt64.le_refl _
    | votes _ newer => exact UInt64.le_of_lt newer
    | stands _ starts next =>
      have inner : n.sm.currentTerm ≠ maxTerm := fun last => room ⟨starts, last⟩
      exact UInt64.le_of_lt (lt_of_add_one .release inner next)

/-- **The term of a release build never falls in a run exactly when no election starts out of the
last term.** -/
theorem term_advances_iff (cfg : RaftConfig) (myId : String) (now : ℕ) (acts : List NodeAction) :
    EachStep (Node.step .release cfg) (Advances .release cfg) (.new myId now) acts ↔
      EachStep (Node.step .release cfg) (fun n a => ¬ n.Exhausts cfg a) (.new myId now) acts :=
  eachStep_congr (I := fun _ => True) (fun _ _ _ => trivial) (fun n a _ => n.advances_iff a)
    trivial acts

end Node

/-- A heartbeat carries the last term, and its sender falls silent. -/
def lastTerm : List NodeAction :=
  [.appendEntries maxTerm "k2" 0, .appendWrite, .loop (.electionTick (fromMillis 5000) 0)]

theorem last_term_wraps :
    ¬ EachStep (Node.step .release defaultConfig) (Node.Advances .release defaultConfig)
      (.new "k1" 0) lastTerm := by
  intro h
  exact absurd h.2.2.1 (by unfold Node.Advances; decide)

/-! ## The votes -/

/-- A node, and the votes of all its life: those it granted, and its own for itself in each term it
was a candidate in. -/
structure Voter where
  node : Node
  ballots : List (UInt64 × String)

namespace Voter

def new (myId : String) (now : ℕ) : Voter := ⟨.new myId now, []⟩

/-- The candidature a node is in. -/
def candidature (n : Node) : List (UInt64 × String) :=
  if n.sm.state = .candidate then [(n.sm.currentTerm, n.sm.myId)] else []

def step (profile : Profile) (cfg : RaftConfig) (v : Voter) (a : NodeAction) : Voter where
  node := v.node.step profile cfg a
  ballots := candidature (v.node.step profile cfg a) ++ ((v.node.grants a).toList ++ v.ballots)

/-- The term can still grow. -/
def BelowMax (v : Voter) : Prop := v.node.sm.currentTerm ≠ maxTerm

/-- The vote of the current term is the one `voted_for` names. -/
structure Sound (v : Voter) : Prop where
  past : ∀ {t id}, (t, id) ∈ v.ballots → t ≤ v.node.sm.currentTerm
  current : ∀ {id}, (v.node.sm.currentTerm, id) ∈ v.ballots → v.node.sm.votedFor = some id
  unique : ∀ {t id id'}, (t, id) ∈ v.ballots → (t, id') ∈ v.ballots → id = id'
  standing : v.node.sm.state = .candidate → v.node.sm.votedFor = some v.node.sm.myId

theorem sound_new (myId : String) (now : ℕ) : (Voter.new myId now).Sound where
  past h := by cases h
  current h := by cases h
  unique h := by cases h
  standing h := by cases h

variable {profile : Profile} {cfg : RaftConfig} {v : Voter}

/-- Votes of the node's term for the id it has voted for can be added. -/
theorem Sound.add (h : v.Sound) {votes : List (UInt64 × String)}
    (named : ∀ b ∈ votes, b.1 = v.node.sm.currentTerm ∧ v.node.sm.votedFor = some b.2) :
    Sound { v with ballots := votes ++ v.ballots } where
  past hb := by
    obtain new | old := List.mem_append.mp hb
    · exact (named _ new).1 ▸ UInt64.le_refl _
    · exact h.past old
  current hb := by
    obtain new | old := List.mem_append.mp hb
    · exact (named _ new).2
    · exact h.current old
  unique {t id id'} hb hb' := by
    have same : v.node.sm.votedFor = some id → v.node.sm.votedFor = some id' → id = id' := by
      intro hid hid'
      exact Option.some.inj (hid.symm.trans hid')
    obtain new | old := List.mem_append.mp hb
    · obtain ⟨rfl, voted⟩ := named _ new
      obtain new' | old' := List.mem_append.mp hb'
      · exact same voted (named _ new').2
      · exact same voted (h.current old')
    · obtain new' | old' := List.mem_append.mp hb'
      · obtain ⟨rfl, voted⟩ := named _ new'
        exact same (h.current old) voted
      · exact h.unique old old'
  standing := h.standing

/-- A newer term starts without votes. -/
theorem Sound.raise (h : v.Sound) {n : Node} (newer : v.node.sm.currentTerm < n.sm.currentTerm)
    (standing : n.sm.state = .candidate → n.sm.votedFor = some n.sm.myId) :
    Sound { v with node := n } where
  past hb := UInt64.le_of_lt (UInt64.lt_of_le_of_lt (h.past hb) newer)
  current hb := absurd (h.past hb) (UInt64.not_le.mpr newer)
  unique := h.unique
  standing := standing

/-- A node that keeps its term may fill in a vote it has not cast. -/
theorem Sound.keep (h : v.Sound) {n : Node} (self : n.sm.myId = v.node.sm.myId)
    (term : n.sm.currentTerm = v.node.sm.currentTerm)
    (vote : v.node.sm.votedFor = none ∨ n.sm.votedFor = v.node.sm.votedFor)
    (stands : n.sm.state = .candidate → v.node.sm.state = .candidate) :
    Sound { v with node := n } where
  past hb := term ▸ h.past hb
  current {id} hb := by
    have voted : v.node.sm.votedFor = some id := h.current (term ▸ hb)
    cases vote with
    | inl free => rw [voted] at free; cases free
    | inr same => exact same.trans voted
  unique := h.unique
  standing hs := by
    have voted := h.standing (stands hs)
    cases vote with
    | inl free => rw [voted] at free; cases free
    | inr same => rw [self]; exact same.trans voted

theorem Sound.step (h : v.Sound) (a : NodeAction) (below : v.BelowMax) :
    (v.step profile cfg a).Sound := by
  have turns := v.node.step_turns profile cfg a
  unfold Voter.step
  generalize v.node.step profile cfg a = n at turns ⊢
  generalize hv : v.node.grants a = vote at turns ⊢
  -- a candidate has voted for itself, so its candidature is one more vote of that kind
  have stand {w : Voter} (hw : w.Sound) : Sound { w with
      ballots := candidature w.node ++ w.ballots } := by
    apply hw.add
    intro b hb
    unfold candidature at hb
    split at hb
    · rename_i hs
      rw [List.mem_singleton] at hb
      subst hb
      exact ⟨rfl, hw.standing hs⟩
    · cases hb
  suffices Sound { node := n, ballots := vote.toList ++ v.ballots } from stand this
  generalize hsm : n.sm = sm at turns
  cases turns with
  | keeps self term kept stands => subst hsm; exact h.keep self term (.inr kept) stands
  | learns self newer follows => subst hsm; exact h.raise newer (by simp [follows])
  | repeats self term free voted stands =>
    subst hsm
    have filled : v.node.sm.votedFor = none ∨ n.sm.votedFor = v.node.sm.votedFor := by
      cases free with
      | inl hn => exact .inl hn
      | inr hs => exact .inr (voted.trans hs.symm)
    apply (h.keep self term filled (fun hs => stands ▸ hs)).add
    intro b hb
    rw [Option.toList_some, List.mem_singleton] at hb
    subst hb
    exact ⟨term.symm, voted⟩
  | votes self newer voted follows =>
    subst hsm
    apply (h.raise newer (by simp [follows])).add
    intro b hb
    rw [Option.toList_some, List.mem_singleton] at hb
    subst hb
    exact ⟨rfl, voted⟩
  | stands self _ next voted =>
    subst hsm
    exact h.raise (Node.lt_of_add_one profile below next) (fun _ => self ▸ voted)

/-- **A node votes at most once in a term**, for another or for itself. -/
theorem one_vote_per_term (profile : Profile) (cfg : RaftConfig) (myId : String) (now : ℕ)
    (acts : List NodeAction) (below : Always (step profile cfg) BelowMax (.new myId now) acts)
    {t : UInt64} {id id' : String} (h : (t, id) ∈ (run (step profile cfg) (.new myId now) acts).ballots)
    (h' : (t, id') ∈ (run (step profile cfg) (.new myId now) acts).ballots) : id = id' := by
  have sound : (run (step profile cfg) (.new myId now) acts).Sound := by
    generalize hv : Voter.new myId now = v at below
    have hs : v.Sound := hv ▸ sound_new myId now
    clear hv h h'
    induction acts generalizing v with
    | nil => exact hs
    | cons a acts ih => exact ih _ below.2 (hs.step a below.1)
  exact sound.unique h h'

/-- Two kiosks ask for the vote of a term, and one of them asks again. -/
def askedAgain : List NodeAction :=
  [.requestVote 1 "k2" 0, .requestVote 1 "k3" 1, .requestVote 1 "k2" 2,
    .loop (.electionTick (fromMillis 5000) 0)]

theorem one_vote_asked_again :
    ∃ id id', (run (step .release defaultConfig) (.new "k1" 0) askedAgain).ballots =
      [(2, "k1"), (1, id), (1, id')] ∧ id = id' := by
  refine ⟨"k2", "k2", by decide, ?_⟩
  have below : Always (step .release defaultConfig) BelowMax (.new "k1" 0) askedAgain := by
    simp only [Always, askedAgain, BelowMax]
    decide
  have voted : ((1 : UInt64), "k2") ∈
      (run (step .release defaultConfig) (.new "k1" 0) askedAgain).ballots := by decide
  exact one_vote_per_term .release defaultConfig "k1" 0 askedAgain below voted voted

end Voter

end SyncDaemon.Raft
