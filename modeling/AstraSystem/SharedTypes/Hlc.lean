import Mathlib.Data.Prod.Lex

/-!
# Hybrid logical clocks of the kiosk (`hlc.ts`)

Numbers and texts are of any linearly ordered types, so nothing depends on where numbers are rounded or on how
texts are ordered.
-/

namespace SharedTypes

structure Hlc (N S : Type*) where
  physicalTimeMs : N
  logicalCounter : N
  nodeId : S
  deriving DecidableEq, Repr

variable {N S : Type*}

/-- The -1, 0 and 1 of the source are the three orderings. -/
def compareHlc [LinearOrder N] [LinearOrder S] (a b : Hlc N S) : Ordering :=
  if a.physicalTimeMs ≠ b.physicalTimeMs then
    if a.physicalTimeMs < b.physicalTimeMs then .lt else .gt
  else if a.logicalCounter ≠ b.logicalCounter then
    if a.logicalCounter < b.logicalCounter then .lt else .gt
  else if a.nodeId ≠ b.nodeId then
    if a.nodeId < b.nodeId then .lt else .gt
  else .eq

/-- `now` is the reading of the wall clock. -/
def incrementHlc [LinearOrder N] [Zero N] [One N] [Add N] (now : N) (hlc : Hlc N S) (nodeId : Option S := none) :
    Hlc N S :=
  if hlc.physicalTimeMs < now then ⟨now, 0, nodeId.getD hlc.nodeId⟩
  else ⟨hlc.physicalTimeMs, hlc.logicalCounter + 1, nodeId.getD hlc.nodeId⟩

def mergeHlc [LinearOrder N] [LinearOrder S] [One N] [Add N] (own remote : Hlc N S) : Hlc N S :=
  let base := if (compareHlc own remote).isGE then own else remote
  ⟨base.physicalTimeMs, base.logicalCounter + 1, own.nodeId⟩

namespace Hlc

/-- What timestamps are compared by. -/
def rank (h : Hlc N S) : N ×ₗ N ×ₗ S := toLex (h.physicalTimeMs, toLex (h.logicalCounter, h.nodeId))

theorem rank_injective {a b : Hlc N S} (h : a.rank = b.rank) : a = b := by
  obtain ⟨physical, rest⟩ := Prod.mk.inj h
  obtain ⟨counter, node⟩ := Prod.mk.inj rest
  cases a
  cases b
  obtain rfl := physical
  obtain rfl := counter
  obtain rfl := node
  rfl

end Hlc

section
variable [LinearOrder N] [LinearOrder S]

theorem compareHlc_lt {a b : Hlc N S} : compareHlc a b = .lt ↔ a.rank < b.rank := by
  simp only [Hlc.rank, Prod.Lex.toLex_lt_toLex]
  unfold compareHlc
  split
  · rename_i physical
    split <;> simp_all
  · rename_i physical
    rw [not_not] at physical
    split
    · rename_i counter
      split <;> simp_all
    · rename_i counter
      rw [not_not] at counter
      split
      · rename_i node
        split <;> simp_all
      · simp_all

theorem compareHlc_eq {a b : Hlc N S} : compareHlc a b = .eq ↔ a.rank = b.rank := by
  constructor
  · intro h
    unfold compareHlc at h
    split at h
    · split at h <;> cases h
    · rename_i physical
      split at h
      · split at h <;> cases h
      · rename_i counter
        split at h
        · split at h <;> cases h
        · rename_i node
          rw [not_not] at physical counter node
          rw [Hlc.rank, Hlc.rank, physical, counter, node]
  · intro h
    rw [Hlc.rank_injective h]
    simp [compareHlc]

theorem compareHlc_gt {a b : Hlc N S} : compareHlc a b = .gt ↔ b.rank < a.rank := by
  rw [← not_le, le_iff_lt_or_eq, ← compareHlc_lt, ← compareHlc_eq]
  cases compareHlc a b <;> decide

theorem compareHlc_isGE {a b : Hlc N S} : (compareHlc a b).isGE ↔ b.rank ≤ a.rank := by
  rw [← not_lt, ← compareHlc_lt]
  cases compareHlc a b <;> decide

end

end SharedTypes
