import Mathlib.Logic.Function.Basic
import AstraSystem.Lib.Runs
import AstraSystem.SyncDaemon.Raft.Node

/-!
# Kiosks electing a leader

`known_peers` is never raised above the one the node starts with, and answers to
vote requests are not counted, so every candidate has a majority by itself.
Leaders of one term are unique only as long as no election is started in a term
that another kiosk is already standing or leading in.
-/

namespace SyncDaemon.Raft

open Runs

inductive Message where
  | heartbeat (term : UInt64) (leaderId : String)
  | requestVote (term : UInt64) (candidateId : String)
  deriving DecidableEq, Repr

/-- What `broadcast_heartbeat` or `request_votes` is sending to the peers. -/
def Node.outgoing (n : Node) : Option Message :=
  match n.loop with
  | .heartbeat term leaderId => some (.heartbeat term leaderId)
  | .requestVotes term candidateId => some (.requestVote term candidateId)
  | _ => none

/-- The handler call that a message leads to. -/
def Message.action (now : ℕ) : Message → NodeAction
  | heartbeat term leaderId => .appendEntries term leaderId now
  | requestVote term candidateId => .requestVote term candidateId now

/-- Kiosks are told apart by their ids. A sent message can reach any of them, at any time and any
number of times. -/
structure Cluster where
  node : String → Node
  sent : List Message

inductive ClusterAction where
  | loop (i : String) (a : LoopAction)
  | transmit (i : String)
  | deliver (k : ℕ) (j : String) (now : ℕ)
  | appendWrite (j : String)

namespace Cluster

def start (now : String → ℕ) : Cluster := ⟨fun i => .new i (now i), []⟩

def act (profile : Profile) (cfg : String → RaftConfig) (w : Cluster) (i : String)
    (a : NodeAction) : Cluster :=
  { w with node := Function.update w.node i ((w.node i).step profile (cfg i) a) }

def step (profile : Profile) (cfg : String → RaftConfig) (w : Cluster) : ClusterAction → Cluster
  | .loop i a => w.act profile cfg i (.loop a)
  | .transmit i => { w with sent := w.sent ++ (w.node i).outgoing.toList }
  | .deliver k j now =>
    match w.sent[k]? with
    | some message => w.act profile cfg j (message.action now)
    | none => w
  | .appendWrite j => w.act profile cfg j .appendWrite

def ElectionSafe (w : Cluster) : Prop :=
  ∀ i j, (w.node i).sm.state = .leader → (w.node j).sm.state = .leader →
    (w.node i).sm.currentTerm = (w.node j).sm.currentTerm → i = j

end Cluster

/-- The node leads its term, or stands for it with its loop running. -/
def Node.Contends (n : Node) : Prop :=
  n.sm.state = .leader ∨ n.sm.state = .candidate ∧ n.loop ≠ .standDown ∧ n.loop ≠ .stopped

/-- No election check starts an election in a term that another kiosk contends for already. -/
def Cluster.Uncontested (profile : Profile) (cfg : String → RaftConfig) (w : Cluster) :
    ClusterAction → Prop
  | .loop i (.electionTick now draw) =>
    (w.node i).ready = true → (w.node i).electionDue (cfg i) now draw = true →
    ∀ term, profile.add (w.node i).sm.currentTerm 1 = some term →
    ∀ j, (w.node j).Contends → (w.node j).sm.currentTerm = term → j = i
  | _ => True

/-! ## What a step does to a node's standing -/

namespace Node

variable {profile : Profile} {cfg : RaftConfig}

/-- Where a step that leaves the state machine alone takes the loop. -/
inductive LoopMove (n : Node) : Loop → Prop
  | stay : LoopMove n n.loop
  | back (standing : n.loop ≠ .standDown) (running : n.loop ≠ .stopped) : LoopMove n .idle
  | stop : LoopMove n .stopped
  | beat (loop : Loop) (leads : n.sm.state = .leader) : LoopMove n loop

/-- Apart from election checks and the shutdown, the loop leaves the state machine alone. -/
inductive LoopEffect (n : Node) (next : Node) : LoopAction → Prop
  | check (now draw : ℕ) (ready : n.ready = true) : LoopEffect n next (.electionTick now draw)
  | shutdown (ready : n.ready = true) : LoopEffect n next .shutdown
  | aside (a : LoopAction) (sm : next.sm = n.sm) (appending : next.appending = n.appending)
      (move : n.LoopMove next.loop) : LoopEffect n next a

variable (profile cfg) in
theorem loopStep_effect (n : Node) (a : LoopAction) :
    n.LoopEffect (n.loopStep profile cfg a) a := by
  have same (a : LoopAction) : n.LoopEffect n a := .aside a rfl rfl .stay
  cases a with
  | heartbeatTick =>
    simp only [loopStep, heartbeatTick]
    by_cases hs : n.sm.state = .leader
    · split
      · simp only [hs, ne_eq, not_true_eq_false, ↓reduceIte]
        exact .aside _ rfl rfl (.beat _ hs)
      · exact same _
    · simp only [hs, ne_eq, not_false_eq_true, ↓reduceIte, ite_self]
      exact same _
  | heartbeatWrite =>
    simp only [loopStep]
    split
    · rename_i hl
      exact .aside _ rfl rfl (.back (by simp [hl]) (by simp [hl]))
    · exact same _
  | electionTick now draw =>
    by_cases hr : n.ready = true
    · exact .check now draw hr
    · simp only [loopStep, hr]
      exact same _
  | votesRequested =>
    simp only [loopStep]
    split
    · rename_i hl
      exact .aside _ rfl rfl (.back (by simp [hl]) (by simp [hl]))
    · exact same _
  | leaderWrite =>
    simp only [loopStep]
    split
    · rename_i hl
      exact .aside _ rfl rfl (.back (by simp [hl]) (by simp [hl]))
    · exact same _
  | shutdown =>
    by_cases hr : n.ready = true
    · exact .shutdown hr
    · simp only [loopStep, hr]
      exact same _
  | standDownWrite =>
    simp only [loopStep]
    split
    · exact .aside _ rfl rfl .stop
    · exact same _

theorem contends_electionTick (n : Node) (hr : n.ready = true) (now draw : ℕ)
    (h : (n.electionTick profile cfg now draw).Contends) :
    (n.Contends ∧ (n.electionTick profile cfg now draw).sm.currentTerm = n.sm.currentTerm) ∨
    n.electionDue cfg now draw = true ∧ profile.add n.sm.currentTerm 1 =
      some (n.electionTick profile cfg now draw).sm.currentTerm := by
  have hl := (n.ready_iff.mp hr).1
  have checked := n.electionTick_checked profile cfg now draw
  generalize n.electionTick profile cfg now draw = next at h checked ⊢
  cases checked with
  | early _ => exact .inl ⟨h, rfl⟩
  | overflow other =>
    cases h with
    | inl leads => exact absurd leads other
    | inr stands => exact absurd rfl stands.2.2
  | stand due hterm _ raised _ _ => exact .inr ⟨due, raised ▸ hterm⟩
  | win candidate => exact .inl ⟨.inr ⟨candidate, by simp [hl], by simp [hl]⟩, rfl⟩
  | confirm leads => exact .inl ⟨.inl leads, rfl⟩

theorem not_contends_shutdown (n : Node) : ¬ n.shutdown.Contends := by
  unfold Contends shutdown
  by_cases hs : n.sm.state = .leader <;> simp [hs]

theorem contends_of_follower {n : Node} (hs : n.sm.state = .follower) : ¬ n.Contends := by
  simp [Contends, hs]

/-- A node contends in a term it did so before, or its election check just started one. -/
theorem contends_step (n : Node) (a : NodeAction) (h : (n.step profile cfg a).Contends) :
    (n.Contends ∧ (n.step profile cfg a).sm.currentTerm = n.sm.currentTerm) ∨
    ∃ now draw, a = .loop (.electionTick now draw) ∧ n.ready = true ∧
      n.electionDue cfg now draw = true ∧
      profile.add n.sm.currentTerm 1 = some (n.step profile cfg a).sm.currentTerm := by
  cases a with
  | loop a =>
    simp only [step] at h ⊢
    have effect := n.loopStep_effect profile cfg a
    cases effect with
    | check now draw hr =>
      simp only [loopStep, hr, ↓reduceIte] at h ⊢
      cases n.contends_electionTick hr now draw h with
      | inl before => exact .inl before
      | inr started => exact .inr ⟨now, draw, rfl, trivial, started⟩
    | shutdown hr =>
      simp only [loopStep, hr, ↓reduceIte] at h
      exact absurd h n.not_contends_shutdown
    | aside _ hsm _ move =>
      refine .inl ⟨?_, by rw [hsm]⟩
      unfold Contends at h ⊢
      rw [hsm] at h
      generalize (n.loopStep profile cfg a).loop = next at h move
      cases move with
      | stay => exact h
      | back standing running =>
        exact h.imp_right fun stands => ⟨stands.1, standing, running⟩
      | stop => exact h.imp_right fun stands => absurd rfl stands.2.2
      | beat _ leads => exact .inl leads
  | appendEntries term leaderId now =>
    simp only [step] at h ⊢
    split at h
    · rename_i hu
      simp only [hu, ↓reduceIte]
      have heard := n.sm.handleAppendEntries_heard term leaderId now
      generalize n.sm.handleAppendEntries term leaderId now = answer at h heard ⊢
      cases heard with
      | stale => exact .inl ⟨h, rfl⟩
      | accepted sm follows _ => exact absurd h (contends_of_follower follows)
    · rename_i hu
      simp only [hu, Bool.false_eq_true, ↓reduceIte]
      exact .inl ⟨h, trivial⟩
  | appendWrite =>
    simp only [step] at h ⊢
    split at h
    · rename_i ha
      simp only [ha, ↓reduceIte]
      exact .inl ⟨h, trivial⟩
    · rename_i ha
      simp only [ha, Bool.false_eq_true, ↓reduceIte]
      exact .inl ⟨h, trivial⟩
  | requestVote term candidateId now =>
    simp only [step] at h ⊢
    split at h
    · rename_i hu
      simp only [hu, ↓reduceIte]
      cases n.sm.handleRequestVote_asked term candidateId now with
      | kept _ state same =>
        unfold Contends at h ⊢
        simp only [state] at h
        exact .inl ⟨h, same⟩
      | deposed _ follows => exact absurd h (contends_of_follower follows)
    · rename_i hu
      simp only [hu, Bool.false_eq_true, ↓reduceIte]
      exact .inl ⟨h, trivial⟩

/-- The node knows no peers, and as a candidate it has its own vote. -/
structure Alone (n : Node) : Prop where
  peers : n.sm.knownPeers = 1
  votes : n.sm.state = .candidate → 1 ≤ n.sm.votesReceived
  appending : n.appending = true → n.sm.state = .follower
  looping : n.sm.state = .candidate → n.loop = .idle ∨
    (∃ term id, n.loop = .requestVotes term id) ∨ n.loop = .standDown ∨ n.loop = .stopped

theorem alone_new (myId : String) (now : ℕ) : (Node.new myId now).Alone := by
  constructor <;> simp [Node.new]

theorem Alone.electionTick {n : Node} (h : n.Alone) (hr : n.ready = true) (now draw : ℕ) :
    (n.electionTick profile cfg now draw).Alone := by
  have ha := (n.ready_iff.mp hr).2
  have checked := n.electionTick_checked profile cfg now draw
  generalize n.electionTick profile cfg now draw = next at checked ⊢
  cases checked with
  | early _ => exact h
  | overflow _ => exact ⟨h.peers, h.votes, h.appending, fun _ => .inr (.inr (.inr rfl))⟩
  | stand _ _ _ _ votes peers =>
    exact ⟨peers.trans h.peers, fun _ => Nat.le_of_eq votes.symm, by simp [ha],
      fun _ => .inr (.inl ⟨_, _, rfl⟩)⟩
  | win _ => exact ⟨h.peers, by simp, by simp [ha], by simp⟩
  | confirm leads => exact ⟨h.peers, h.votes, h.appending, by simp [leads]⟩

theorem Alone.shutdown {n : Node} (h : n.Alone) (hr : n.ready = true) : n.shutdown.Alone := by
  have ha := (n.ready_iff.mp hr).2
  unfold Node.shutdown
  by_cases hs : n.sm.state = .leader
  · simp only [hs, ↓reduceIte]
    exact ⟨h.peers, by simp, by simp, by simp⟩
  · simp only [hs, ↓reduceIte]
    exact ⟨h.peers, h.votes, by simp [ha], fun _ => .inr (.inr (.inl rfl))⟩

theorem Alone.step {n : Node} (h : n.Alone) (a : NodeAction) : (n.step profile cfg a).Alone := by
  cases a with
  | loop a =>
    simp only [Node.step]
    have effect := n.loopStep_effect profile cfg a
    cases effect with
    | check now draw hr => simpa only [loopStep, hr, ↓reduceIte] using h.electionTick hr now draw
    | shutdown hr => simpa only [loopStep, hr, ↓reduceIte] using h.shutdown hr
    | aside _ hsm appending move =>
      constructor <;> simp only [hsm, appending]
      · exact h.peers
      · exact h.votes
      · exact h.appending
      · intro hs
        generalize (n.loopStep profile cfg a).loop = next at move ⊢
        cases move with
        | stay => exact h.looping hs
        | back => exact .inl rfl
        | stop => exact .inr (.inr (.inr rfl))
        | beat _ leads => rw [leads] at hs; cases hs
  | appendEntries term leaderId now =>
    simp only [Node.step]
    split
    · have heard := n.sm.handleAppendEntries_heard term leaderId now
      generalize n.sm.handleAppendEntries term leaderId now = answer at heard ⊢
      cases heard with
      | stale => exact ⟨h.peers, h.votes, by simp, h.looping⟩
      | accepted sm follows peers =>
        exact ⟨peers.trans h.peers, by simp [follows], fun _ => follows, by simp [follows]⟩
    · exact h
  | appendWrite =>
    simp only [Node.step]
    split
    · exact ⟨h.peers, h.votes, by simp, h.looping⟩
    · exact h
  | requestVote term candidateId now =>
    simp only [Node.step]
    split
    · rename_i hu
      have ha := (n.unlocked_iff.mp hu).1
      obtain ⟨votes, peers⟩ := n.sm.handleRequestVote_tally term candidateId now
      cases n.sm.handleRequestVote_asked term candidateId now with
      | kept _ state _ =>
        constructor <;> simp only [state, votes, peers]
        · exact h.peers
        · exact h.votes
        · exact h.appending
        · exact h.looping
      | deposed _ follows =>
        exact ⟨peers.trans h.peers, by simp [follows], by simp [ha], by simp [follows]⟩
    · exact h

/-- A node that contends leads its term after its next election check. -/
theorem Alone.wins {n : Node} (h : n.Alone) (hc : n.Contends) :
    let next := (n.loopStep profile cfg .votesRequested).loopStep profile cfg (.electionTick 0 0)
    next.sm.state = .leader ∧ next.sm.currentTerm = n.sm.currentTerm := by
  have hsm : (n.loopStep profile cfg .votesRequested).sm = n.sm := by
    simp only [loopStep]
    split <;> rfl
  have ha : (n.loopStep profile cfg .votesRequested).appending = n.appending := by
    simp only [loopStep]
    split <;> rfl
  cases hc with
  | inl leads =>
    -- a leader stays one
    generalize n.loopStep profile cfg .votesRequested = m at hsm
    simp only [loopStep]
    split
    · simp [Node.electionTick, hsm, leads]
    · simp [hsm, leads]
  | inr stands =>
    obtain ⟨hs, standing, running⟩ := stands
    have unappending : n.appending = false := by
      cases happ : n.appending
      · rfl
      · rw [h.appending happ] at hs; cases hs
    have idle : (n.loopStep profile cfg .votesRequested).loop = .idle := by
      obtain hl | ⟨_, _, hl⟩ | hl | hl := h.looping hs
      · simp [loopStep, hl]
      · simp [loopStep, hl]
      · exact absurd hl standing
      · exact absurd hl running
    have majority : n.sm.hasMajority = true := by
      have := h.votes hs
      simp only [RaftStateMachine.hasMajority, h.peers, decide_eq_true_eq]
      omega
    have hr := (ready_iff _).mpr ⟨idle, ha.trans unappending⟩
    generalize n.loopStep profile cfg .votesRequested = m at hsm hr
    simp [loopStep, hr, Node.electionTick, hsm, hs, majority]

end Node

/-! ## Runs of a cluster -/

namespace Cluster

variable {profile : Profile} {cfg : String → RaftConfig} {w : Cluster}

/-- No two kiosks contend for one term. -/
def Single (w : Cluster) : Prop :=
  ∀ i j, (w.node i).Contends → (w.node j).Contends →
    (w.node i).sm.currentTerm = (w.node j).sm.currentTerm → i = j

theorem Single.safe (h : w.Single) : w.ElectionSafe :=
  fun i j hi hj => h i j (.inl hi) (.inl hj)

@[simp] theorem act_self (i : String) (a : NodeAction) :
    (w.act profile cfg i a).node i = (w.node i).step profile (cfg i) a := by
  simp [act]

theorem act_of_ne {i j : String} (a : NodeAction) (h : j ≠ i) :
    (w.act profile cfg i a).node j = w.node j := by
  simp [act, h]

/-- A kiosk's step keeps candidatures apart, if it starts no election others contend for. -/
theorem Single.act (h : w.Single) (i : String) (a : NodeAction)
    (uncontested : ∀ now draw, a = .loop (.electionTick now draw) →
      w.Uncontested profile cfg (.loop i (.electionTick now draw))) :
    (w.act profile cfg i a).Single := by
  -- of a kiosk that steps and one that does not
  have apart (j : String) (hj : j ≠ i) (hi : ((w.node i).step profile (cfg i) a).Contends)
      (hc : (w.node j).Contends)
      (ht : ((w.node i).step profile (cfg i) a).sm.currentTerm = (w.node j).sm.currentTerm) :
      False := by
    cases (w.node i).contends_step a hi with
    | inl before => exact hj (h j i hc before.1 (ht.symm.trans before.2))
    | inr started =>
      obtain ⟨now, draw, ha, hr, due, hterm⟩ := started
      exact hj (uncontested now draw ha hr due _ hterm j hc ht.symm)
  intro x y hx hy ht
  by_cases hxi : x = i
  · by_cases hyi : y = i
    · rw [hxi, hyi]
    · rw [hxi, act_self] at hx ht
      rw [act_of_ne a hyi] at hy ht
      exact (apart y hyi hx hy ht).elim
  · rw [act_of_ne a hxi] at hx ht
    by_cases hyi : y = i
    · rw [hyi, act_self] at hy ht
      exact (apart x hxi hy hx ht.symm).elim
    · rw [act_of_ne a hyi] at hy ht
      exact h x y hx hy ht

theorem Single.step (h : w.Single) (a : ClusterAction) (uncontested : w.Uncontested profile cfg a) :
    (w.step profile cfg a).Single := by
  cases a with
  | loop i a =>
    refine h.act i _ ?_
    rintro now draw ⟨⟩
    exact uncontested
  | transmit i => exact h
  | deliver k j now =>
    simp only [Cluster.step]
    split
    · rename_i message _
      refine h.act j _ fun now' draw heq => ?_
      cases message <;> cases heq
    · exact h
  | appendWrite j => exact h.act j _ fun now draw heq => by cases heq

variable (profile cfg) in
theorem alone_step (h : ∀ i, (w.node i).Alone) (a : ClusterAction) (i : String) :
    ((w.step profile cfg a).node i).Alone := by
  have acted (j : String) (b : NodeAction) : ((w.act profile cfg j b).node i).Alone := by
    by_cases hi : i = j
    · rw [hi, act_self]; exact (h j).step b
    · rw [act_of_ne b hi]; exact h i
  cases a with
  | loop j a => exact acted j _
  | transmit j => exact h i
  | deliver k j now =>
    simp only [Cluster.step]
    split
    · exact acted j _
    · exact h i
  | appendWrite j => exact acted j _

/-- The two checks after which a kiosk that contends leads. -/
def rally (i : String) : List ClusterAction :=
  [.loop i .votesRequested, .loop i (.electionTick 0 0)]

variable (profile cfg w) in
theorem rally_other {i j : String} (h : j ≠ i) :
    (run (step profile cfg) w (rally i)).node j = w.node j := by
  simp only [rally, run_cons, run_nil, step]
  rw [act_of_ne _ h, act_of_ne _ h]

variable (profile cfg) in
theorem rally_wins {i : String} (ha : (w.node i).Alone) (hc : (w.node i).Contends) :
    ((run (step profile cfg) w (rally i)).node i).sm.state = .leader ∧
    ((run (step profile cfg) w (rally i)).node i).sm.currentTerm = (w.node i).sm.currentTerm := by
  simp only [rally, run_cons, run_nil, step, act_self]
  exact ha.wins hc

/-- Two kiosks that contend for one term can both come to lead it. -/
theorem contest_splits (ha : ∀ i, (w.node i).Alone) (h : ¬ w.Single) :
    ∃ more, ¬ (run (step profile cfg) w more).ElectionSafe := by
  unfold Single at h
  push Not at h
  obtain ⟨i, j, hi, hj, ht, hne⟩ := h
  obtain ⟨leadI, termI⟩ := rally_wins profile cfg (ha i) hi
  have stillI := rally_other profile cfg (run (step profile cfg) w (rally i)) hne
  have stillJ := rally_other profile cfg w (Ne.symm hne)
  obtain ⟨leadJ, termJ⟩ := rally_wins profile cfg (stillJ ▸ ha j) (stillJ ▸ hj)
  refine ⟨rally i ++ rally j, fun safe => hne (safe i j ?_ ?_ ?_)⟩ <;> rw [run_append]
  · rw [stillI]; exact leadI
  · exact leadJ
  · rw [stillI, termI, termJ, stillJ]; exact ht

theorem single_start (now : String → ℕ) : (start now).Single := by
  intro i j hi
  exact absurd hi (Node.contends_of_follower rfl)

/-- Right after a contested election has started, two kiosks contend for its term. -/
theorem not_single_of_contested {a : ClusterAction} (h : ¬ w.Uncontested profile cfg a) :
    ¬ (w.step profile cfg a).Single := by
  intro single
  apply h
  cases a with
  | loop i a =>
    cases a with
    | electionTick now draw =>
      intro hr due term hterm j hc ht
      by_contra hne
      obtain ⟨sm, eq, hs, hsm⟩ := Node.electionTick_of_due due hterm
      have eqI : ((w.step profile cfg (.loop i (.electionTick now draw))).node i) =
          { w.node i with sm := sm, loop := .requestVotes term (w.node i).sm.myId } := by
        simp only [step, act_self, Node.step, Node.loopStep, hr, ↓reduceIte]
        exact eq
      have eqJ : ((w.step profile cfg (.loop i (.electionTick now draw))).node j) = w.node j :=
        act_of_ne _ hne
      refine hne (single j i ?_ ?_ ?_)
      · rw [eqJ]; exact hc
      · rw [eqI]; exact .inr ⟨hs, by simp, by simp⟩
      · rw [eqI, eqJ, ht]; exact hsm.symm
    | _ => trivial
  | _ => trivial

/-- **Leaders of a term are unique as long as elections are uncontested.** A run with a contested
election can be continued, from that election on, to one with two leaders of a term. -/
theorem uncontested_elections_safe (profile : Profile) (cfg : String → RaftConfig)
    (now : String → ℕ) (acts : List ClusterAction) :
    (EachStep (step profile cfg) (Uncontested profile cfg) (start now) acts →
      Always (step profile cfg) ElectionSafe (start now) acts) ∧
    (¬ EachStep (step profile cfg) (Uncontested profile cfg) (start now) acts →
      ∃ before more, before <+: acts ∧
        ¬ (run (step profile cfg) (start now) (before ++ more)).ElectionSafe) := by
  constructor
  · exact always_of_eachStep (J := Single) (fun _ => Single.safe) (fun _ a h => h.step a)
      (single_start now)
  · intro h
    obtain ⟨before, a, after, rfl, _, contested⟩ := exists_first h
    have alone := run_inv (I := fun w : Cluster => ∀ i, (w.node i).Alone)
      (fun _ a h => alone_step profile cfg h a)
      (s := start now) (fun i => Node.alone_new i (now i)) (before ++ [a])
    rw [run_concat] at alone
    obtain ⟨more, hm⟩ := contest_splits alone (not_single_of_contested contested)
    refine ⟨before ++ [a], more, ⟨after, by simp⟩, ?_⟩
    rw [run_append, run_concat]
    exact hm

/-- A kiosk that hears from nobody elects itself. -/
def selfElection (i : String) : List ClusterAction :=
  [.loop i (.electionTick (fromMillis 5000) 0), .transmit i, .loop i .votesRequested,
    .loop i (.electionTick (fromMillis 5100) 0), .loop i .leaderWrite]

theorem self_election_safe :
    Always (step .release fun _ => defaultConfig) ElectionSafe (start fun _ => 0)
      (selfElection "k1") := by
  refine (uncontested_elections_safe .release (fun _ => defaultConfig) (fun _ => 0)
    (selfElection "k1")).1 ⟨?_, trivial, trivial, ?_, trivial, trivial⟩
  · -- nobody contends yet
    rintro _ _ _ _ j hc _
    exact absurd hc (Node.contends_of_follower rfl)
  · -- the second check finds a candidate with a majority
    intro _ due
    exact absurd due (by decide)

/-- Two kiosks cut off from one another both elect themselves, in the same term. -/
theorem two_leaders_of_one_term :
    ¬ Always (step .release fun _ => defaultConfig) ElectionSafe (start fun _ => 0)
      (selfElection "k1" ++ selfElection "k2") := by
  intro h
  have same := always_last h "k1" "k2" (by decide) (by decide) (by decide)
  exact absurd same (by decide)

end Cluster

end SyncDaemon.Raft
