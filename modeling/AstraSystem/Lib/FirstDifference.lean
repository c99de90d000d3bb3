import Mathlib.Order.Basic
import Mathlib.Data.Nat.Find

/-!
# Sequences compared at the first place where they differ

Entries of which neither is less than the other count as the same there, though they need not be equal.
-/

namespace FirstDifference

variable {α : Type*} {lt : α → α → Prop} {S : α → Prop} {x y z : ℕ → α}

/-- Neither is less. -/
def Tied (lt : α → α → Prop) (a b : α) : Prop := ¬ lt a b ∧ ¬ lt b a

/-- The first sequence is less where they first differ. -/
def Before (lt : α → α → Prop) (x y : ℕ → α) : Prop :=
  ∃ i, lt (x i) (y i) ∧ ∀ j < i, Tied lt (x j) (y j)

/-- Whatever is not less than the next is not less than the one after it. -/
def Ranked (lt : α → α → Prop) (S : α → Prop) : Prop :=
  ∀ a b c, S a → S b → S c → ¬ lt b a → ¬ lt c b → ¬ lt c a

theorem Tied.symm {a b : α} (h : Tied lt a b) : Tied lt b a := And.symm h

theorem Before.asymm (asymm : ∀ a b, lt a b → ¬ lt b a) (h : Before lt x y) : ¬ Before lt y x := by
  rintro ⟨k, less', same'⟩
  obtain ⟨i, less, same⟩ := h
  rcases Nat.lt_trichotomy i k with lt | rfl | lt
  · exact (same' i lt).2 less
  · exact asymm _ _ less less'
  · exact (same k lt).2 less'

/-- What is less than something is less than what that is not less than. -/
theorem Ranked.trans_left (ranked : Ranked lt S) {a b c : α} (ha : S a) (hb : S b) (hc : S c) (less : lt a b)
    (le : ¬ lt c b) : lt a c := by
  by_contra other
  exact ranked b c a hb hc ha le other less

theorem Ranked.trans_right (ranked : Ranked lt S) {a b c : α} (ha : S a) (hb : S b) (hc : S c) (le : ¬ lt b a)
    (less : lt b c) : lt a c := by
  by_contra other
  exact ranked c a b hc ha hb other le less

/-- Where the entries are ranked, so are the sequences. -/
theorem Ranked.not_before_trans (ranked : Ranked lt S) (asymm : ∀ a b, lt a b → ¬ lt b a) (hx : ∀ i, S (x i))
    (hy : ∀ i, S (y i)) (hz : ∀ i, S (z i)) (xy : ¬ Before lt y x) (yz : ¬ Before lt z y) : ¬ Before lt z x := by
  rintro ⟨k, less, same⟩
  -- the first place where two of the three differ
  have differ : ∃ m, ¬ (Tied lt (x m) (y m) ∧ Tied lt (y m) (z m) ∧ Tied lt (x m) (z m)) :=
    ⟨k, fun tied => tied.2.2.2 less⟩
  classical
  let m := Nat.find differ
  have before (j : ℕ) (lt_m : j < m) := not_not.mp (Nat.find_min differ lt_m)
  have le : m ≤ k := Nat.find_min' differ fun tied => tied.2.2.2 less
  have notYX : ¬ lt (y m) (x m) := fun h => xy ⟨m, h, fun j hj => (before j hj).1.symm⟩
  have notZY : ¬ lt (z m) (y m) := fun h => yz ⟨m, h, fun j hj => (before j hj).2.1.symm⟩
  have notZX : ¬ lt (z m) (x m) := ranked _ _ _ (hx m) (hy m) (hz m) notYX notZY
  have notXZ : ¬ lt (x m) (z m) := by
    rcases Nat.lt_or_eq_of_le le with earlier | at_k
    · exact (same m earlier).2
    · exact fun h => asymm _ _ h (at_k ▸ less)
  refine Nat.find_spec differ ⟨⟨fun h => ?_, notYX⟩, ⟨fun h => ?_, notZY⟩, notXZ, notZX⟩
  · exact notXZ (ranked.trans_left (hx m) (hy m) (hz m) h notZY)
  · exact notXZ (ranked.trans_right (hx m) (hy m) (hz m) notYX h)

/-- Sequences that differ in one place are compared there. -/
theorem before_iff_of_tied {i : ℕ} (irrefl : ∀ a, ¬ lt a a) (same : ∀ j, j ≠ i → x j = y j) :
    Before lt x y ↔ lt (x i) (y i) := by
  constructor
  · rintro ⟨j, less, -⟩
    by_cases at_i : j = i
    · exact at_i ▸ less
    · exact absurd (same j at_i ▸ less) (irrefl _)
  · intro less
    refine ⟨i, less, fun j earlier => ?_⟩
    rw [same j (Nat.ne_of_lt earlier)]
    exact ⟨irrefl _, irrefl _⟩

end FirstDifference
