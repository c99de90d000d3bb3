import Mathlib.Data.List.TakeWhile

/-!
# What comes before what

A log in which one thing happens before another, and queues that keep to it.
-/

namespace Precedence

section
variable {α : Type*} [DecidableEq α] {a b c : α} {log : List α}

/-- Before the first `b` of the log there is an `a`. -/
def Precedes (a b : α) (log : List α) : Prop := b ∈ log → a ∈ log.takeWhile (· ≠ b)

theorem takeWhile_concat :
    (log ++ [c]).takeWhile (· ≠ b) =
      if b ∈ log then log.takeWhile (· ≠ b) else if c = b then log else log ++ [c] := by
  induction log with
  | nil => by_cases same : c = b <;> simp [same]
  | cons d log ih =>
    by_cases same : d = b
    · simp [same]
    · rw [List.cons_append, List.takeWhile_cons_of_pos (by simpa using same),
        List.takeWhile_cons_of_pos (by simpa using same), ih]
      by_cases there : b ∈ log <;> by_cases last : c = b <;> simp [there, last, Ne.symm same]

/-- One more entry of the log has to come after what precedes it. -/
theorem precedes_concat : Precedes a b (log ++ [c]) ↔ Precedes a b log ∧ (c = b → a ∈ log) := by
  unfold Precedes
  rw [takeWhile_concat, List.mem_append, List.mem_singleton]
  by_cases there : b ∈ log
  · rw [if_pos there]
    constructor
    · intro h
      have before := h (.inl there)
      exact ⟨fun _ => before, fun _ => List.takeWhile_subset _ before⟩
    · intro h _
      exact h.1 there
  · rw [if_neg there]
    constructor
    · intro h
      refine ⟨fun there' => absurd there' there, fun same => ?_⟩
      simpa only [if_pos same] using h (.inr same.symm)
    · rintro ⟨-, h⟩ (there' | rfl)
      · exact absurd there' there
      · rw [if_pos rfl]
        exact h rfl

end

section
variable {β : Type*} {before before' : β → β → Prop} {done done' : β → Prop}

/-- All that must come before an element of the queue is done, or ahead of it. -/
def Ready (before : β → β → Prop) : (β → Prop) → List β → Prop
  | _, [] => True
  | done, b :: queue => (∀ a, before a b → done a) ∧ Ready before (fun a => done a ∨ a = b) queue

theorem Ready.mono {queue : List β} (h : Ready before done queue) (more : ∀ a, done a → done' a)
    (fewer : ∀ a, ∀ b ∈ queue, before' a b → before a b) : Ready before' done' queue := by
  induction queue generalizing done done' with
  | nil => trivial
  | cons b queue ih =>
    refine ⟨fun a ha => more a (h.1 a (fewer a b List.mem_cons_self ha)), ih h.2 ?_ ?_⟩
    · rintro a (ha | same)
      · exact .inl (more a ha)
      · exact .inr same
    · exact fun a c hc => fewer a c (List.mem_cons_of_mem b hc)

/-- The queue moves up when its head is done. -/
theorem Ready.tail {b : β} {queue : List β} (h : Ready before done (b :: queue)) (hb : done b) :
    Ready before done queue := by
  refine h.2.mono ?_ fun _ _ _ => id
  rintro a (ha | rfl)
  · exact ha
  · exact hb

/-- A sorted queue is ready if what must come first sorts strictly first. -/
theorem ready_of_pairwise {le : β → β → Prop} (refl : ∀ a, le a a) {queue : List β}
    (sorted : queue.Pairwise le)
    (h : ∀ b ∈ queue, ∀ a, before a b → done a ∨ (a ∈ queue ∧ ¬ le b a)) :
    Ready before done queue := by
  induction queue generalizing done with
  | nil => trivial
  | cons b queue ih =>
    obtain ⟨first, sorted⟩ := List.pairwise_cons.mp sorted
    constructor
    · intro a ha
      rcases h b List.mem_cons_self a ha with ha | ⟨mem, less⟩
      · exact ha
      · rcases List.mem_cons.mp mem with rfl | mem
        · exact absurd (refl a) less
        · exact absurd (first a mem) less
    · refine ih sorted fun c hc a ha => ?_
      rcases h c (List.mem_cons_of_mem b hc) a ha with ha | ⟨mem, less⟩
      · exact .inl (.inl ha)
      · rcases List.mem_cons.mp mem with rfl | mem
        · exact .inl (.inr rfl)
        · exact .inr ⟨mem, less⟩

/-- And so is the front of one. -/
theorem ready_take {le : β → β → Prop} (refl : ∀ a, le a a) {queue : List β}
    (sorted : queue.Pairwise le) {n : ℕ}
    (h : ∀ b ∈ queue.take n, ∀ a, before a b → done a ∨ (a ∈ queue ∧ ¬ le b a)) :
    Ready before done (queue.take n) := by
  refine ready_of_pairwise refl (sorted.sublist (List.take_sublist n queue)) fun b hb a ha => ?_
  rcases h b hb a ha with ha | ⟨mem, less⟩
  · exact .inl ha
  · rw [← List.take_append_drop n queue] at mem sorted
    rcases List.mem_append.mp mem with mem | mem
    · exact .inr ⟨mem, less⟩
    · exact absurd ((List.pairwise_append.mp sorted).2.2 b hb a mem) less

end

end Precedence
