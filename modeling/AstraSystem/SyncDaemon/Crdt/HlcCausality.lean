import AstraSystem.SyncDaemon.Crdt.HlcClock

/-!
# Clocks of many nodes

Each node has one clock. An event is a call on it, with the timestamp the call
returned. A message carries the timestamp of an event, and what a node receives
may come from anywhere.
-/

namespace SyncDaemon.Crdt

variable {ι : Type}

inductive ClockCall (ι : Type) where
  | tick (i : ι) (pt : UInt64)
  | send (i : ι) (pt : UInt64)
  | receive (i : ι) (remote : Hlc) (pt : UInt64)

namespace ClockCall

def node : ClockCall ι → ι
  | tick i _ | send i _ | receive i _ _ => i

/-- The reading of the physical clock. -/
def reading : ClockCall ι → UInt64
  | tick _ pt | send _ pt | receive _ _ pt => pt

def remote : ClockCall ι → Option Hlc
  | tick _ _ | send _ _ => none
  | receive _ r _ => some r

/-- The clock of the node after the call. -/
def apply (self : Hlc) : ClockCall ι → Hlc
  | tick _ pt => self.tick pt
  | send _ pt => self.send pt
  | receive _ r pt => self.receive r pt

@[simp] theorem apply_nodeId (self : Hlc) (call : ClockCall ι) :
    (call.apply self).nodeId = self.nodeId := by
  cases call with
  | tick i pt => exact self.tick_nodeId pt
  | send i pt => exact self.tick_nodeId pt
  | receive i r pt => rfl

theorem lt_apply {self : Hlc} {call : ClockCall ι} (h : (call.apply self).InRange) :
    self.stamp < (call.apply self).stamp := by
  cases call with
  | tick i pt => exact Hlc.lt_tick h
  | send i pt => exact Hlc.lt_tick h
  | receive i r pt => exact (Hlc.lt_receive h).1

theorem remote_lt_apply {self r : Hlc} {call : ClockCall ι} (h : (call.apply self).InRange)
    (hr : call.remote = some r) : r.stamp < (call.apply self).stamp := by
  cases call with
  | tick i pt => cases hr
  | send i pt => cases hr
  | receive i r' pt =>
    obtain rfl : r' = r := Option.some.inj hr
    exact (Hlc.lt_receive h).2

end ClockCall

structure ClockEvent (ι : Type) where
  call : ClockCall ι
  timestamp : Hlc

structure Clocks (ι : Type) where
  clock : ι → Hlc
  events : List (ClockEvent ι)

namespace Clocks

def start (initial : ι → Hlc) : Clocks ι := ⟨initial, []⟩

variable [DecidableEq ι]

def step (s : Clocks ι) (call : ClockCall ι) : Clocks ι :=
  let timestamp := call.apply (s.clock call.node)
  ⟨Function.update s.clock call.node timestamp, s.events ++ [⟨call, timestamp⟩]⟩

def run (initial : ι → Hlc) (calls : List (ClockCall ι)) : Clocks ι :=
  Runs.run step (start initial) calls

end Clocks

/-! ## Happened before -/

/-- Event `j` comes before event `k` on one node, or `k` receives the timestamp of `j`. -/
def Precedes (events : List (ClockEvent ι)) (j k : ℕ) : Prop :=
  j < k ∧ ∃ e f, events[j]? = some e ∧ events[k]? = some f ∧
    (e.call.node = f.call.node ∨ f.call.remote = some e.timestamp)

def HappenedBefore (events : List (ClockEvent ι)) : ℕ → ℕ → Prop :=
  Relation.TransGen (Precedes events)

/-- What timestamps say about the calls they were returned by. -/
structure Causal (initial : ι → Hlc) (s : Clocks ι) : Prop where
  clock_node : ∀ i, (s.clock i).nodeId = (initial i).nodeId
  event_node : ∀ e ∈ s.events, e.timestamp.nodeId = (initial e.call.node).nodeId
  le_clock : ∀ e ∈ s.events, e.timestamp.stamp ≤ (s.clock e.call.node).stamp
  remote_lt : ∀ e ∈ s.events, ∀ r, e.call.remote = some r → r.stamp < e.timestamp.stamp
  increasing : s.events.Pairwise fun e f =>
    e.call.node = f.call.node → e.timestamp.stamp < f.timestamp.stamp

/-- No timestamp of the run reaches the maximum of one of its components. -/
def Clocks.InRange (s : Clocks ι) : Prop := ∀ e ∈ s.events, e.timestamp.InRange

instance (s : Clocks ι) : Decidable s.InRange :=
  inferInstanceAs (Decidable (∀ e ∈ s.events, e.timestamp.InRange))

theorem start_causal (initial : ι → Hlc) : Causal initial (.start initial) where
  clock_node _ := rfl
  event_node := List.forall_mem_nil _
  le_clock := List.forall_mem_nil _
  remote_lt := List.forall_mem_nil _
  increasing := .nil

section
variable [DecidableEq ι] {initial : ι → Hlc}

theorem step_causal {s : Clocks ι} (h : Causal initial s) (call : ClockCall ι)
    (range : (call.apply (s.clock call.node)).InRange) : Causal initial (s.step call) := by
  have up := ClockCall.lt_apply range
  constructor
  · intro i
    by_cases hi : i = call.node
    · subst hi
      simpa only [Clocks.step, Function.update_self, ClockCall.apply_nodeId] using h.clock_node _
    · simpa only [Clocks.step, Function.update_of_ne hi] using h.clock_node i
  · intro e he
    cases List.mem_append.mp he with
    | inl old => exact h.event_node e old
    | inr now =>
      rw [List.mem_singleton.mp now]
      simpa only [ClockCall.apply_nodeId] using h.clock_node call.node
  · intro e he
    cases List.mem_append.mp he with
    | inl old =>
      have below := h.le_clock e old
      by_cases hi : e.call.node = call.node
      · rw [hi] at below
        simpa only [Clocks.step, hi, Function.update_self] using below.trans up.le
      · simpa only [Clocks.step, Function.update_of_ne hi] using below
    | inr now =>
      rw [List.mem_singleton.mp now]
      simp only [Clocks.step, Function.update_self, le_refl]
  · intro e he r hr
    cases List.mem_append.mp he with
    | inl old => exact h.remote_lt e old r hr
    | inr now =>
      rw [List.mem_singleton.mp now] at hr ⊢
      exact ClockCall.remote_lt_apply range hr
  · refine List.pairwise_append.mpr ⟨h.increasing, List.pairwise_singleton _ _, ?_⟩
    intro e he f hf same
    rw [List.mem_singleton.mp hf] at same ⊢
    have below := h.le_clock e he
    rw [same] at below
    exact lt_of_le_of_lt below up

theorem run_causal (initial : ι → Hlc) (calls : List (ClockCall ι))
    (range : (Clocks.run initial calls).InRange) : Causal initial (Clocks.run initial calls) := by
  have step : ∀ s call, (s.InRange → Causal initial s) →
      ((s.step call).InRange → Causal initial (s.step call)) := by
    intro s call ih range
    have now := range ⟨call, call.apply (s.clock call.node)⟩ (List.mem_append_right _ (by simp))
    exact step_causal (ih fun e he => range e (List.mem_append_left _ he)) call now
  exact Runs.run_inv (I := fun s => s.InRange → Causal initial s) step
    (fun _ => start_causal initial) calls range

end

namespace Causal

variable {initial : ι → Hlc} {s : Clocks ι} {j k : ℕ} {e f : ClockEvent ι}

theorem lt_of_node (h : Causal initial s) (lt : j < k) (he : s.events[j]? = some e)
    (hf : s.events[k]? = some f) (same : e.call.node = f.call.node) :
    e.timestamp.stamp < f.timestamp.stamp := by
  obtain ⟨hj, rfl⟩ := List.getElem?_eq_some_iff.mp he
  obtain ⟨hk, rfl⟩ := List.getElem?_eq_some_iff.mp hf
  exact List.pairwise_iff_getElem.mp h.increasing j k hj hk lt same

theorem lt_of_precedes (h : Causal initial s) (hp : Precedes s.events j k)
    (he : s.events[j]? = some e) (hf : s.events[k]? = some f) :
    e.timestamp.stamp < f.timestamp.stamp := by
  obtain ⟨lt, e', f', he', hf', link⟩ := hp
  obtain rfl : e' = e := Option.some.inj (he'.symm.trans he)
  obtain rfl : f' = f := Option.some.inj (hf'.symm.trans hf)
  cases link with
  | inl same => exact h.lt_of_node lt he hf same
  | inr message => exact h.remote_lt f' (List.mem_of_getElem? hf) _ message

/-- Along a chain of same-node and message links timestamps only rise. -/
theorem lt_of_happenedBefore (h : Causal initial s) (hb : HappenedBefore s.events j k)
    (he : s.events[j]? = some e) (hf : s.events[k]? = some f) :
    e.timestamp.stamp < f.timestamp.stamp := by
  induction hb generalizing f with
  | single link => exact h.lt_of_precedes link he hf
  | tail _ link ih =>
    obtain ⟨_, m, _, hm, _⟩ := id link
    exact lt_trans (ih hm) (h.lt_of_precedes link hm hf)

theorem distinct (h : Causal initial s) (names : Function.Injective fun i => (initial i).nodeId)
    (he : s.events[j]? = some e) (hf : s.events[k]? = some f) (eq : e.timestamp = f.timestamp) :
    j = k := by
  have ne := h.event_node e (List.mem_of_getElem? he)
  have nf := h.event_node f (List.mem_of_getElem? hf)
  have same : e.call.node = f.call.node := names (ne.symm.trans ((congrArg Hlc.nodeId eq).trans nf))
  obtain lt | eq' | lt := Nat.lt_trichotomy j k
  · exact absurd (congrArg Hlc.stamp eq) (h.lt_of_node lt he hf same).ne
  · exact eq'
  · exact absurd (congrArg Hlc.stamp eq) (h.lt_of_node lt hf he same.symm).ne'

end Causal

/-- **Timestamps respect causality.** Whatever the physical clocks read, every timestamp dominates
the earlier ones of its node, the remote one it was made from and those of all events that
happened before, and no timestamp is issued twice. -/
theorem hlc_causality [DecidableEq ι] (initial : ι → Hlc)
    (names : Function.Injective fun i => (initial i).nodeId) (calls : List (ClockCall ι))
    (range : (Clocks.run initial calls).InRange) :
    (∀ (j k : ℕ) (e f : ClockEvent ι), j < k → (Clocks.run initial calls).events[j]? = some e →
      (Clocks.run initial calls).events[k]? = some f → e.call.node = f.call.node →
      f.timestamp.dominates e.timestamp = true) ∧
    (∀ f ∈ (Clocks.run initial calls).events, ∀ r, f.call.remote = some r →
      f.timestamp.dominates r = true) ∧
    (∀ (j k : ℕ) (e f : ClockEvent ι), HappenedBefore (Clocks.run initial calls).events j k →
      (Clocks.run initial calls).events[j]? = some e →
      (Clocks.run initial calls).events[k]? = some f →
      f.timestamp.dominates e.timestamp = true) ∧
    (∀ (j k : ℕ) (e f : ClockEvent ι), (Clocks.run initial calls).events[j]? = some e →
      (Clocks.run initial calls).events[k]? = some f → e.timestamp = f.timestamp → j = k) := by
  have causal := run_causal initial calls range
  simp only [Hlc.dominates_iff]
  refine ⟨?_, causal.remote_lt, ?_, ?_⟩
  · intro j k e f lt he hf same
    exact causal.lt_of_node lt he hf same
  · intro j k e f hb he hf
    exact causal.lt_of_happenedBefore hb he hf
  · intro j k e f he hf eq
    exact causal.distinct names he hf eq

def twoKiosks : Bool → Hlc
  | false => ⟨1700000000000, 0, "kiosk-1"⟩
  | true => ⟨1699999990000, 0, "kiosk-2"⟩

def slowKioskReplies : List (ClockCall Bool) :=
  [.send false 1700000000000, .receive true ⟨1700000000001, 1, "kiosk-1"⟩ 1699999990005,
    .send true 1699999990004]

/-- A kiosk whose clock lags and runs backwards still answers with later timestamps. -/
theorem hlc_causality_slow_kiosk :
    (∀ (j k : ℕ) (e f : ClockEvent Bool),
      HappenedBefore (Clocks.run twoKiosks slowKioskReplies).events j k →
      (Clocks.run twoKiosks slowKioskReplies).events[j]? = some e →
      (Clocks.run twoKiosks slowKioskReplies).events[k]? = some f →
      f.timestamp.dominates e.timestamp = true) ∧
    HappenedBefore (Clocks.run twoKiosks slowKioskReplies).events 0 2 := by
  constructor
  · apply (hlc_causality twoKiosks ?_ slowKioskReplies (by decide)).2.2.1
    intro i j names
    cases i <;> cases j <;> first | rfl | exact absurd names (by decide)
  · apply Relation.TransGen.tail (b := 1) (.single ?_)
    · exact ⟨by decide, _, _, rfl, rfl, .inl rfl⟩
    · exact ⟨by decide, _, _, rfl, rfl, .inr rfl⟩

end SyncDaemon.Crdt
