import AstraSystem.Lib.Runs
import AstraSystem.SharedTypes.Hlc
import Mathlib.Algebra.Order.Ring.Int
import Mathlib.Data.String.Basic
import Mathlib.Logic.Relation

/-!
# Clocks of many kiosks (`hlc.ts`)

Each node has one clock, which every event on it replaces. An event may be sent, and what was sent may be received
by any node, any number of times and in any order. Numbers are integers here.
-/

namespace SharedTypes

section
variable {S : Type*} [LinearOrder S] {own remote : Hlc ℤ S}

theorem lt_incrementHlc (now : ℤ) (h : Hlc ℤ S) (nodeId : Option S) : h.rank < (incrementHlc now h nodeId).rank := by
  unfold incrementHlc
  split
  · rename_i later
    exact Prod.Lex.toLex_lt_toLex.mpr (.inl later)
  · exact Prod.Lex.toLex_lt_toLex.mpr (.inr ⟨rfl, Prod.Lex.toLex_lt_toLex.mpr (.inl (lt_add_one _))⟩)

/-- A received timestamp and the own one are both passed. -/
theorem lt_mergeHlc (own remote : Hlc ℤ S) :
    own.rank < (mergeHlc own remote).rank ∧ remote.rank < (mergeHlc own remote).rank := by
  have next (h : Hlc ℤ S) : h.rank < (⟨h.physicalTimeMs, h.logicalCounter + 1, own.nodeId⟩ : Hlc ℤ S).rank :=
    Prod.Lex.toLex_lt_toLex.mpr (.inr ⟨rfl, Prod.Lex.toLex_lt_toLex.mpr (.inl (lt_add_one _))⟩)
  unfold mergeHlc
  by_cases wins : (compareHlc own remote).isGE
  · rw [if_pos wins]
    exact ⟨next own, lt_of_le_of_lt (compareHlc_isGE.mp wins) (next own)⟩
  · rw [if_neg wins]
    rw [compareHlc_isGE, not_le] at wins
    exact ⟨wins.trans (next remote), next remote⟩

end

/-! ## Events -/

structure Event (ι S : Type*) where
  node : ι
  /-- The event that was received. -/
  cause : Option ℕ
  timestamp : Hlc ℤ S

structure Nodes (ι S : Type*) where
  clock : ι → Hlc ℤ S
  events : List (Event ι S)

inductive ClockAct (ι : Type*) where
  /-- A local event or a send, at a reading of the wall clock. The node may pass its id. -/
  | tick (i : ι) (now : ℤ) (named : Bool)
  | receive (i : ι) (message : ℕ)

namespace Nodes

variable {ι S : Type*} [LinearOrder S]

def start (initial : ι → Hlc ℤ S) : Nodes ι S := ⟨initial, []⟩

variable [DecidableEq ι]

def advance (s : Nodes ι S) (i : ι) (cause : Option ℕ) (timestamp : Hlc ℤ S) : Nodes ι S :=
  ⟨Function.update s.clock i timestamp, s.events ++ [⟨i, cause, timestamp⟩]⟩

/-- What was not sent is not received. -/
def step (s : Nodes ι S) : ClockAct ι → Nodes ι S
  | .tick i now named =>
    s.advance i none (incrementHlc now (s.clock i) (if named then some (s.clock i).nodeId else none))
  | .receive i message =>
    match s.events[message]? with
    | none => s
    | some sent => s.advance i (some message) (mergeHlc (s.clock i) sent.timestamp)

def run (initial : ι → Hlc ℤ S) (acts : List (ClockAct ι)) : Nodes ι S := Runs.run step (start initial) acts

end Nodes

/-- Event `j` comes before event `k` on one node, or `k` receives `j`. -/
def Precedes {ι S : Type*} (events : List (Event ι S)) (j k : ℕ) : Prop :=
  ∃ e f, events[j]? = some e ∧ events[k]? = some f ∧ (j < k ∧ e.node = f.node ∨ f.cause = some j)

def HappensBefore {ι S : Type*} (events : List (Event ι S)) : ℕ → ℕ → Prop := Relation.TransGen (Precedes events)

/-- What timestamps say about the events that they belong to. -/
structure Causal {ι S : Type*} [LinearOrder S] (initial : ι → Hlc ℤ S) (s : Nodes ι S) : Prop where
  clock_node : ∀ i, (s.clock i).nodeId = (initial i).nodeId
  event_node : ∀ e ∈ s.events, e.timestamp.nodeId = (initial e.node).nodeId
  le_clock : ∀ e ∈ s.events, e.timestamp.rank ≤ (s.clock e.node).rank
  increasing : s.events.Pairwise fun e f => e.node = f.node → e.timestamp.rank < f.timestamp.rank
  caused : ∀ f ∈ s.events, ∀ j, f.cause = some j →
    ∃ e, s.events[j]? = some e ∧ e.timestamp.rank < f.timestamp.rank

theorem causal_start {ι S : Type*} [LinearOrder S] (initial : ι → Hlc ℤ S) : Causal initial (.start initial) where
  clock_node _ := rfl
  event_node := List.forall_mem_nil _
  le_clock := List.forall_mem_nil _
  increasing := .nil
  caused := List.forall_mem_nil _

section
variable {ι S : Type*} [LinearOrder S] [DecidableEq ι] {initial : ι → Hlc ℤ S} {s : Nodes ι S}

theorem causal_advance (h : Causal initial s) {i : ι} {cause : Option ℕ} {timestamp : Hlc ℤ S}
    (own : timestamp.nodeId = (s.clock i).nodeId) (up : (s.clock i).rank < timestamp.rank)
    (sent : ∀ j, cause = some j → ∃ e, s.events[j]? = some e ∧ e.timestamp.rank < timestamp.rank) :
    Causal initial (s.advance i cause timestamp) := by
  constructor
  · intro j
    by_cases hj : j = i
    · subst hj
      simpa [Nodes.advance, own] using h.clock_node j
    · simpa [Nodes.advance, Function.update_of_ne hj] using h.clock_node j
  · intro e he
    obtain old | now := List.mem_append.mp he
    · exact h.event_node e old
    · rw [List.mem_singleton.mp now]
      exact own.trans (h.clock_node i)
  · intro e he
    obtain old | now := List.mem_append.mp he
    · have below := h.le_clock e old
      by_cases hi : e.node = i
      · rw [hi] at below
        simpa [Nodes.advance, hi] using below.trans up.le
      · simpa [Nodes.advance, Function.update_of_ne hi] using below
    · rw [List.mem_singleton.mp now]
      simp [Nodes.advance]
  · refine List.pairwise_append.mpr ⟨h.increasing, List.pairwise_singleton _ _, fun e he f hf same => ?_⟩
    rw [List.mem_singleton.mp hf] at same ⊢
    have below := h.le_clock e he
    rw [same] at below
    exact lt_of_le_of_lt below up
  · intro f hf j by_j
    have kept {e : Event ι S} (at_j : s.events[j]? = some e) :
        (s.advance i cause timestamp).events[j]? = some e :=
      (List.getElem?_append_left (List.getElem?_eq_some_iff.mp at_j).1).trans at_j
    obtain old | now := List.mem_append.mp hf
    · obtain ⟨e, at_j, lt⟩ := h.caused f old j by_j
      exact ⟨e, kept at_j, lt⟩
    · rw [List.mem_singleton.mp now] at by_j ⊢
      obtain ⟨e, at_j, lt⟩ := sent j by_j
      exact ⟨e, kept at_j, lt⟩

theorem causal_step (h : Causal initial s) (act : ClockAct ι) : Causal initial (s.step act) := by
  cases act with
  | tick i now named =>
    refine causal_advance h ?_ (lt_incrementHlc _ _ _) fun j none => (by cases none)
    unfold incrementHlc
    cases named <;> split <;> rfl
  | receive i message =>
    simp only [Nodes.step]
    cases sent : s.events[message]? with
    | none => exact h
    | some e =>
      refine causal_advance h rfl (lt_mergeHlc _ _).1 fun j same => ?_
      obtain rfl := Option.some.inj same
      exact ⟨e, sent, (lt_mergeHlc _ _).2⟩

theorem run_causal (initial : ι → Hlc ℤ S) (acts : List (ClockAct ι)) : Causal initial (Nodes.run initial acts) :=
  Runs.run_inv (I := Causal initial) (fun _ act h => causal_step h act) (causal_start initial) acts

end

namespace Causal

variable {ι S : Type*} [LinearOrder S] {initial : ι → Hlc ℤ S} {s : Nodes ι S} {j k : ℕ} {e f : Event ι S}

theorem lt_of_node (h : Causal initial s) (lt : j < k) (he : s.events[j]? = some e) (hf : s.events[k]? = some f)
    (same : e.node = f.node) : e.timestamp.rank < f.timestamp.rank := by
  obtain ⟨hj, rfl⟩ := List.getElem?_eq_some_iff.mp he
  obtain ⟨hk, rfl⟩ := List.getElem?_eq_some_iff.mp hf
  exact List.pairwise_iff_getElem.mp h.increasing j k hj hk lt same

theorem lt_of_precedes (h : Causal initial s) (link : Precedes s.events j k) (he : s.events[j]? = some e)
    (hf : s.events[k]? = some f) : e.timestamp.rank < f.timestamp.rank := by
  obtain ⟨e', f', he', hf', link⟩ := link
  obtain rfl := Option.some.inj (he'.symm.trans he)
  obtain rfl := Option.some.inj (hf'.symm.trans hf)
  obtain ⟨lt, same⟩ | received := link
  · exact h.lt_of_node lt he hf same
  · obtain ⟨sent, at_j, lt⟩ := h.caused f' (List.mem_of_getElem? hf) j received
    obtain rfl := Option.some.inj (at_j.symm.trans he)
    exact lt

/-- Along a chain of links timestamps only rise. -/
theorem lt_of_happensBefore (h : Causal initial s) (before : HappensBefore s.events j k)
    (he : s.events[j]? = some e) (hf : s.events[k]? = some f) : e.timestamp.rank < f.timestamp.rank := by
  induction before generalizing f with
  | single link => exact h.lt_of_precedes link he hf
  | tail _ link ih =>
    obtain ⟨m, _, hm, _⟩ := id link
    exact lt_trans (ih hm) (h.lt_of_precedes link hm hf)

theorem distinct (h : Causal initial s) (names : Function.Injective fun i => (initial i).nodeId)
    (he : s.events[j]? = some e) (hf : s.events[k]? = some f) (eq : e.timestamp.rank = f.timestamp.rank) : j = k := by
  have node : e.timestamp.nodeId = f.timestamp.nodeId := congrArg Hlc.nodeId (Hlc.rank_injective eq)
  rw [h.event_node e (List.mem_of_getElem? he), h.event_node f (List.mem_of_getElem? hf)] at node
  have same : e.node = f.node := names node
  obtain lt | eq' | lt := Nat.lt_trichotomy j k
  · exact absurd eq (h.lt_of_node lt he hf same).ne
  · exact eq'
  · exact absurd eq (h.lt_of_node lt hf he same.symm).ne'

end Causal

/-- `compareHlc` orders a list of timestamps. -/
structure Orders {S : Type*} [LinearOrder S] (timestamps : List (Hlc ℤ S)) : Prop where
  antisymm : ∀ a ∈ timestamps, ∀ b ∈ timestamps, compareHlc b a = (compareHlc a b).swap
  eq : ∀ a ∈ timestamps, ∀ b ∈ timestamps, compareHlc a b = .eq → a = b
  trans : ∀ a ∈ timestamps, ∀ b ∈ timestamps, ∀ c ∈ timestamps,
    compareHlc a b = .lt → compareHlc b c = .lt → compareHlc a c = .lt

theorem compareHlc_orders {S : Type*} [LinearOrder S] (timestamps : List (Hlc ℤ S)) : Orders timestamps where
  antisymm a _ b _ := by
    cases h : compareHlc a b with
    | lt => exact compareHlc_gt.mpr (compareHlc_lt.mp h)
    | eq => exact compareHlc_eq.mpr (compareHlc_eq.mp h).symm
    | gt => exact compareHlc_lt.mpr (compareHlc_gt.mp h)
  eq a _ b _ h := Hlc.rank_injective (compareHlc_eq.mp h)
  trans a _ b _ c _ ab bc := by
    rw [compareHlc_lt] at ab bc ⊢
    exact ab.trans bc

/-- **Timestamps respect causality.** Whatever the wall clocks read, the timestamp of an event compares before those
of all events that it happens before, the timestamps of a run are pairwise different, and they are totally ordered. -/
theorem compareHlc_causal {ι S : Type*} [LinearOrder S] [DecidableEq ι] (initial : ι → Hlc ℤ S)
    (names : Function.Injective fun i => (initial i).nodeId) (acts : List (ClockAct ι)) :
    let events := (Nodes.run initial acts).events
    (∀ j k e f, HappensBefore events j k → events[j]? = some e → events[k]? = some f →
      compareHlc e.timestamp f.timestamp = .lt) ∧
    (events.Pairwise fun e f => compareHlc e.timestamp f.timestamp ≠ .eq) ∧
    Orders (events.map Event.timestamp) := by
  have causal := run_causal initial acts
  refine ⟨fun j k e f before he hf => compareHlc_lt.mpr (causal.lt_of_happensBefore before he hf), ?_,
    compareHlc_orders _⟩
  refine List.pairwise_iff_getElem.mpr fun j k hj hk lt same => ?_
  have eq := causal.distinct names (List.getElem?_eq_getElem hj) (List.getElem?_eq_getElem hk) (compareHlc_eq.mp same)
  omega

def twoKiosks : Bool → Hlc ℤ String
  | false => ⟨1700000000000, 0, "kiosk-1"⟩
  | true => ⟨1699999990000, 0, "kiosk-2"⟩

/-- A kiosk that lags receives from another, answers and is read. -/
def conversation : List (ClockAct Bool) :=
  [.tick false 1700000000000 false, .receive true 0, .tick true 1699999990004 true, .receive false 2]

/-- The answer of a kiosk whose clock lags and runs backwards is after the question. -/
theorem conversation_ordered :
    (∀ j k e f, HappensBefore (Nodes.run twoKiosks conversation).events j k →
      (Nodes.run twoKiosks conversation).events[j]? = some e →
      (Nodes.run twoKiosks conversation).events[k]? = some f → compareHlc e.timestamp f.timestamp = .lt) ∧
    HappensBefore (Nodes.run twoKiosks conversation).events 0 3 := by
  constructor
  · refine (compareHlc_causal twoKiosks ?_ conversation).1
    intro i j names
    cases i <;> cases j <;> first | rfl | exact absurd names (by decide)
  · refine .tail (b := 2) (.tail (b := 1) (.single ?_) ?_) ?_
    · exact ⟨_, _, rfl, rfl, .inr rfl⟩
    · exact ⟨_, _, rfl, rfl, .inl ⟨by decide, rfl⟩⟩
    · exact ⟨_, _, rfl, rfl, .inr rfl⟩

end SharedTypes
