import AstraSystem.SyncDaemon.Crdt.HlcCausality

/-!
# Drift of hybrid logical clocks

In a network of its own, nodes receive only what nodes of the network issued.
`receive` follows the documented `l' = max(l, pt, l_m)`. `tick` documents
`l' = max(l, pt)`, but while the physical clock is not ahead it adds one to the
wallclock as well as to the counter.
-/

namespace SyncDaemon.Crdt

variable {ι : Type}

/-- A call in a closed network. A receiver gets the timestamp of event `n`, once there is one. -/
inductive NetworkCall (ι : Type) where
  | tick (i : ι) (pt : UInt64)
  | send (i : ι) (pt : UInt64)
  | receive (i : ι) (n : ℕ) (pt : UInt64)

/-- The largest anchor is at least `x`: an initial wallclock, or a reading taken so far. -/
def Reaches (initial : ι → Hlc) (s : Clocks ι) (x : UInt64) : Prop :=
  (∃ i, x ≤ (initial i).wallclockMs) ∨ ∃ e ∈ s.events, x ≤ e.call.reading

/-- Every timestamp issued is anchored to physical time. -/
def Anchored (initial : ι → Hlc) (s : Clocks ι) : Prop :=
  ∀ e ∈ s.events, Reaches initial s e.timestamp.wallclockMs

/-- An anchor other than the clock's own wallclock is above it, or the wallclock cannot rise. -/
def HasRoom (initial : ι → Hlc) (s : Clocks ι) (i : ι) (pt : UInt64) : Prop :=
  (s.clock i).wallclockMs < pt ∨ (s.clock i).wallclockMs.toNat = 2 ^ 64 - 1 ∨
    (∃ j, (s.clock i).wallclockMs < (initial j).wallclockMs) ∨
    ∃ e ∈ s.events, (s.clock i).wallclockMs < e.call.reading

/-- A local event finds room. -/
def LocalRoom (initial : ι → Hlc) (s : Clocks ι) : NetworkCall ι → Prop
  | .tick i pt | .send i pt => HasRoom initial s i pt
  | .receive _ _ _ => True

/-- A clock shows its initial value or the last timestamp it issued. -/
def Clocks.Shown (initial : ι → Hlc) (s : Clocks ι) : Prop :=
  ∀ i, s.clock i = initial i ∨ ∃ e ∈ s.events, e.timestamp = s.clock i

namespace Clocks

variable [DecidableEq ι]

def networkStep (s : Clocks ι) : NetworkCall ι → Clocks ι
  | .tick i pt => s.step (.tick i pt)
  | .send i pt => s.step (.send i pt)
  | .receive i n pt =>
    match s.events[n]? with
    | some e => s.step (.receive i e.timestamp pt)
    | none => s

end Clocks

/-- A tick moves the wallclock to the reading, or one up unless it is at the maximum already. -/
theorem Hlc.tick_wallclock (self : Hlc) (pt : UInt64) :
    (self.tick pt).wallclockMs.toNat =
      if self.wallclockMs.toNat < pt.toNat then pt.toNat
      else min (2 ^ 64 - 1) (self.wallclockMs.toNat + 1) := by
  have ticked := self.tick_ticked pt
  generalize self.tick pt = next at ticked ⊢
  cases ticked with
  | physical h => rw [if_pos h]
  | stalled h hw _ => rw [if_neg (Nat.not_lt.mpr h), hw]

section
variable [DecidableEq ι] {initial : ι → Hlc} {s : Clocks ι}

/-- The anchors after a call are those before it and its own reading. -/
theorem reaches_step (call : ClockCall ι) (x : UInt64) :
    Reaches initial (s.step call) x ↔ Reaches initial s x ∨ x ≤ call.reading := by
  simp only [Reaches, Clocks.step, List.mem_append, List.mem_singleton, or_and_right, exists_or,
    exists_eq_left, or_assoc]

theorem anchored_step (h : Anchored initial s) (call : ClockCall ι) :
    Anchored initial (s.step call) ↔
      Reaches initial (s.step call) (call.apply (s.clock call.node)).wallclockMs := by
  constructor
  · intro all
    exact all ⟨call, call.apply (s.clock call.node)⟩ (List.mem_append_right _ (by simp))
  · intro now e he
    cases List.mem_append.mp he with
    | inl old => exact (reaches_step call _).mpr (.inl (h e old))
    | inr new =>
      rw [List.mem_singleton.mp new]
      exact now

theorem shown_step (h : s.Shown initial) (call : ClockCall ι) : (s.step call).Shown initial := by
  intro i
  by_cases hi : i = call.node
  · refine .inr ⟨⟨call, call.apply (s.clock call.node)⟩, List.mem_append_right _ (by simp), ?_⟩
    simp only [Clocks.step, hi, Function.update_self]
  · simp only [Clocks.step, Function.update_of_ne hi]
    cases h i with
    | inl start => exact .inl start
    | inr last =>
      obtain ⟨e, he, eq⟩ := last
      exact .inr ⟨e, List.mem_append_left _ he, eq⟩

end

section
variable {initial : ι → Hlc} {s : Clocks ι}

theorem reaches_max {x y : UInt64} (hx : Reaches initial s x) (hy : Reaches initial s y) :
    Reaches initial s (max x y) := by
  show Reaches initial s (if x ≤ y then y else x)
  split
  · exact hy
  · exact hx

/-- What a clock shows is anchored when all timestamps are. -/
theorem reaches_clock (shown : s.Shown initial) (h : Anchored initial s) (i : ι) :
    Reaches initial s (s.clock i).wallclockMs := by
  cases shown i with
  | inl start => exact .inl ⟨i, by rw [start]; exact UInt64.le_refl _⟩
  | inr last =>
    obtain ⟨e, he, eq⟩ := last
    exact eq ▸ h e he

/-- Out of an anchored clock, a tick stays anchored exactly when it finds room. -/
theorem reaches_tick {i : ι} (clock : Reaches initial s (s.clock i).wallclockMs) (pt : UInt64) :
    Reaches initial s ((s.clock i).tick pt).wallclockMs ∨ ((s.clock i).tick pt).wallclockMs ≤ pt ↔
      HasRoom initial s i pt := by
  have wallclock := (s.clock i).tick_wallclock pt
  have bound := (s.clock i).wallclockMs.toNat_lt
  by_cases ahead : (s.clock i).wallclockMs.toNat < pt.toNat
  · rw [if_pos ahead] at wallclock
    have le : ((s.clock i).tick pt).wallclockMs ≤ pt := UInt64.le_iff_toNat_le.mpr wallclock.le
    exact iff_of_true (.inr le) (.inl (UInt64.lt_iff_toNat_lt.mpr ahead))
  · rw [if_neg ahead] at wallclock
    by_cases full : (s.clock i).wallclockMs.toNat = 2 ^ 64 - 1
    · have same : ((s.clock i).tick pt).wallclockMs = (s.clock i).wallclockMs := by
        rw [← UInt64.toNat_inj]
        omega
      rw [same]
      exact iff_of_true (.inl clock) (.inr (.inl full))
    · have up (x : UInt64) : ((s.clock i).tick pt).wallclockMs ≤ x ↔
          (s.clock i).wallclockMs < x := by
        rw [UInt64.le_iff_toNat_le, UInt64.lt_iff_toNat_lt]
        omega
      have behind : ¬ (s.clock i).wallclockMs < pt := mt UInt64.lt_iff_toNat_lt.mp ahead
      simp only [Reaches, HasRoom, up, behind, full, or_false, false_or]

end

section
variable [DecidableEq ι] {initial : ι → Hlc} {s : Clocks ι}

theorem anchored_local (shown : s.Shown initial) (h : Anchored initial s) {call : ClockCall ι}
    (ticks : call.apply (s.clock call.node) = (s.clock call.node).tick call.reading) :
    Anchored initial (s.step call) ↔ HasRoom initial s call.node call.reading := by
  rw [anchored_step h, reaches_step, ticks]
  exact reaches_tick (reaches_clock shown h call.node) call.reading

theorem anchored_receive (shown : s.Shown initial) (h : Anchored initial s) {e : ClockEvent ι}
    (he : e ∈ s.events) (i : ι) (pt : UInt64) :
    Anchored initial (s.step (.receive i e.timestamp pt)) := by
  rw [anchored_step h]
  apply reaches_max
  · apply reaches_max
    · exact (reaches_step _ _).mpr (.inl (reaches_clock shown h i))
    · exact (reaches_step _ _).mpr (.inr (UInt64.le_refl pt))
  · exact (reaches_step _ _).mpr (.inl (h e he))

theorem anchored_networkStep (shown : s.Shown initial) (h : Anchored initial s)
    (call : NetworkCall ι) :
    Anchored initial (s.networkStep call) ↔ LocalRoom initial s call := by
  cases call with
  | tick i pt => exact anchored_local (s := s) shown h (show (ClockCall.tick i pt).apply _ = _ from rfl)
  | send i pt => exact anchored_local (s := s) shown h (show (ClockCall.send i pt).apply _ = _ from rfl)
  | receive i n pt =>
    simp only [Clocks.networkStep, LocalRoom, iff_true]
    split
    · rename_i e he
      exact anchored_receive shown h (List.mem_of_getElem? he) i pt
    · exact h

theorem shown_networkStep (shown : s.Shown initial) (call : NetworkCall ι) :
    (s.networkStep call).Shown initial := by
  cases call with
  | tick i pt => exact shown_step shown _
  | send i pt => exact shown_step shown _
  | receive i n pt =>
    simp only [Clocks.networkStep]
    split
    · exact shown_step shown _
    · exact shown

end

/-- **Timestamps stay anchored exactly as long as local events find room.** A tick or send whose
reading is not ahead of the node's wallclock takes the wallclock one further, so it leaves the
anchors behind as soon as none of them is ahead of the node. -/
theorem anchored_iff [DecidableEq ι] (initial : ι → Hlc) (calls : List (NetworkCall ι)) :
    Runs.Always Clocks.networkStep (Anchored initial) (.start initial) calls ↔
      Runs.EachStep Clocks.networkStep (LocalRoom initial) (.start initial) calls := by
  apply Runs.always_iff_eachStep (J := fun s => s.Shown initial ∧ Anchored initial s)
  · intro s h
    exact h.2
  · intro s call h room
    exact ⟨shown_networkStep h.1 call, (anchored_networkStep h.1 h.2 call).mpr room⟩
  · intro s call h next
    exact (anchored_networkStep h.1 h.2 call).mp next
  · exact ⟨fun _ => .inl rfl, List.forall_mem_nil _⟩

/-- One kiosk ticks twice within a millisecond. -/
theorem anchored_fails_in_one_millisecond :
    ¬ Runs.Always Clocks.networkStep (Anchored fun _ => ⟨1700000000000, 0, "kiosk-1"⟩)
      (.start fun _ : Unit => ⟨1700000000000, 0, "kiosk-1"⟩)
      [.tick () 1700000000005, .tick () 1700000000005] := by
  intro h
  have last := Runs.always_last h
  obtain ⟨_, at_start⟩ | ⟨e, he, read⟩ := last ⟨.tick () 1700000000005, ⟨1700000000006, 1, "kiosk-1"⟩⟩
    (List.mem_of_getElem? (i := 1) rfl)
  · exact absurd at_start (show ¬ (1700000000006 : UInt64) ≤ 1700000000000 by decide)
  · have readings : ∀ e ∈ (Runs.run Clocks.networkStep
        (.start fun _ : Unit => ⟨1700000000000, 0, "kiosk-1"⟩)
        [.tick () 1700000000005, .tick () 1700000000005]).events,
        e.call.reading = 1700000000005 := by decide
    rw [readings e he] at read
    exact absurd read (by decide)

end SyncDaemon.Crdt
