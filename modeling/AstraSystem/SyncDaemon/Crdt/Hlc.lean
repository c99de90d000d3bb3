import Mathlib.Data.Prod.Lex
import Mathlib.Data.String.Basic

/-!
# Hybrid logical clock timestamps (`crdt/hlc.rs`)
-/

namespace SyncDaemon.Crdt

structure Hlc where
  wallclockMs : UInt64
  counter : UInt32
  nodeId : String
  deriving DecidableEq, Repr

namespace Hlc

def compare (a b : Hlc) : Option Ordering :=
  match Ord.compare a.wallclockMs b.wallclockMs with
  | .eq =>
    match Ord.compare a.counter b.counter with
    | .eq => if a.nodeId = b.nodeId then some .eq else none
    | ord => some ord
  | ord => some ord

def compareTotal (a b : Hlc) : Ordering :=
  (a.compare b).getD (Ord.compare a.nodeId b.nodeId)

def dominates (a b : Hlc) : Bool := a.compare b == some .gt

/-- The part of a timestamp that `dominates` orders by. -/
def stamp (h : Hlc) : ℕ ×ₗ ℕ := toLex (h.wallclockMs.toNat, h.counter.toNat)

theorem compare_u64 (a b : UInt64) : Ord.compare a b = Ord.compare a.toNat b.toNat := by
  show compareOfLessAndEq a b = compareOfLessAndEq a.toNat b.toNat
  simp only [compareOfLessAndEq, UInt64.lt_iff_toNat_lt, ← UInt64.toNat_inj]

theorem compare_u32 (a b : UInt32) : Ord.compare a b = Ord.compare a.toNat b.toNat := by
  show compareOfLessAndEq a b = compareOfLessAndEq a.toNat b.toNat
  simp only [compareOfLessAndEq, UInt32.lt_iff_toNat_lt, ← UInt32.toNat_inj]

theorem stamp_lt_iff (a b : Hlc) :
    a.stamp < b.stamp ↔ a.wallclockMs.toNat < b.wallclockMs.toNat ∨
      a.wallclockMs.toNat = b.wallclockMs.toNat ∧ a.counter.toNat < b.counter.toNat :=
  Prod.Lex.lt_iff

theorem stamp_eq_iff (a b : Hlc) :
    a.stamp = b.stamp ↔ a.wallclockMs = b.wallclockMs ∧ a.counter = b.counter := by
  simp only [stamp, EmbeddingLike.apply_eq_iff_eq, Prod.mk.injEq, UInt64.toNat_inj,
    UInt32.toNat_inj]

/-- How two timestamps compare, by their stamps. -/
inductive Compared (a b : Hlc) : Option Ordering → Prop
  | older (h : a.stamp < b.stamp) : Compared a b (some .lt)
  | newer (h : b.stamp < a.stamp) : Compared a b (some .gt)
  | tied (h : a.stamp = b.stamp) :
      Compared a b (if a.nodeId = b.nodeId then some .eq else none)

theorem compare_compared (a b : Hlc) : a.Compared b (a.compare b) := by
  unfold compare
  rw [compare_u64, compare_u32]
  obtain hw | hw | hw := Nat.lt_trichotomy a.wallclockMs.toNat b.wallclockMs.toNat
  · rw [Nat.compare_eq_lt.mpr hw]
    exact .older ((stamp_lt_iff a b).mpr (.inl hw))
  · rw [Nat.compare_eq_eq.mpr hw]
    obtain hc | hc | hc := Nat.lt_trichotomy a.counter.toNat b.counter.toNat
    · rw [Nat.compare_eq_lt.mpr hc]
      exact .older ((stamp_lt_iff a b).mpr (.inr ⟨hw, hc⟩))
    · rw [Nat.compare_eq_eq.mpr hc]
      exact .tied ((stamp_eq_iff a b).mpr ⟨UInt64.toNat_inj.mp hw, UInt32.toNat_inj.mp hc⟩)
    · rw [Nat.compare_eq_gt.mpr hc]
      exact .newer ((stamp_lt_iff b a).mpr (.inr ⟨hw.symm, hc⟩))
  · rw [Nat.compare_eq_gt.mpr hw]
    exact .newer ((stamp_lt_iff b a).mpr (.inl hw))

/-- `dominates` is the strict order of the stamps; the node id plays no part. -/
theorem dominates_iff (a b : Hlc) : a.dominates b = true ↔ b.stamp < a.stamp := by
  unfold dominates
  have compared := a.compare_compared b
  generalize a.compare b = ord at compared ⊢
  cases compared with
  | older h => simp [h.le]
  | newer h => simp [h]
  | tied h =>
    rw [h]
    split <;> simp

theorem not_dominates_iff (a b : Hlc) : a.dominates b = false ↔ a.stamp ≤ b.stamp := by
  rw [← not_lt, ← dominates_iff, Bool.not_eq_true]

@[simp] theorem dominates_self (a : Hlc) : a.dominates a = false :=
  (not_dominates_iff a a).mpr le_rfl

theorem ne_of_dominates {a b : Hlc} (h : a.dominates b = true) : a ≠ b := by
  intro eq
  subst eq
  simp at h

/-- Timestamps of equal stamp and node are equal. -/
theorem eq_of_stamp {a b : Hlc} (h : a.stamp = b.stamp) (hn : a.nodeId = b.nodeId) : a = b := by
  obtain ⟨hw, hc⟩ := (stamp_eq_iff a b).mp h
  cases a; cases b
  simp_all

/-- What `compareTotal` orders by. -/
def rank (h : Hlc) : (ℕ ×ₗ ℕ) ×ₗ String := toLex (h.stamp, h.nodeId)

theorem stamp_le_of_rank {a b : Hlc} (h : a.rank ≤ b.rank) : a.stamp ≤ b.stamp :=
  Prod.Lex.monotone_fst _ _ h

theorem rank_injective {a b : Hlc} (h : a.rank = b.rank) : a = b := by
  obtain ⟨hs, hn⟩ := Prod.mk.inj h
  exact eq_of_stamp hs hn

theorem compareTotal_isGE (a b : Hlc) : (a.compareTotal b).isGE = true ↔ b.rank ≤ a.rank := by
  simp only [rank, Prod.Lex.toLex_le_toLex, compareTotal]
  have compared := a.compare_compared b
  generalize a.compare b = ord at compared ⊢
  cases compared with
  | older h => simp [h.not_gt, h.ne']
  | newer h => simp [h]
  | tied h =>
    rw [h]
    by_cases hn : a.nodeId = b.nodeId
    · simp [hn]
    · have names : (Ord.compare a.nodeId b.nodeId).isGE = true ↔ b.nodeId ≤ a.nodeId := by
        show (compareOfLessAndEq a.nodeId b.nodeId).isGE = true ↔ _
        rw [← not_lt]
        by_cases hl : a.nodeId < b.nodeId <;> simp [compareOfLessAndEq, hl, hn]
      simpa [hn] using names

end Hlc

end SyncDaemon.Crdt
