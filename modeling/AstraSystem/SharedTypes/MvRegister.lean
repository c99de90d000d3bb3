import AstraSystem.SharedTypes.Crdt
import Mathlib.Algebra.Ring.Int.Defs
import Mathlib.Data.List.Dedup

/-!
# The multi-value register of the kiosk (`crdt.ts`)

Timestamps are totally ordered, the node id included, so a merge keeps entries of one timestamp only. A write keeps
what is before it.
-/

namespace SharedTypes

structure MvRegister (N S T : Type*) where
  values : List (LwwElement N S T)

def readMvRegister {N S T : Type*} (register : MvRegister N S T) : List T := register.values.map LwwElement.value

variable {N S T : Type*} [LinearOrder N] [LinearOrder S]

def writeMvRegister [Zero N] [One N] [Add N] (now : N) (register : MvRegister N S T) (value : T)
    (localHlc : Hlc N S) : MvRegister N S T :=
  let nextHlc := incrementHlc now localHlc
  let dominated := register.values.filter fun entry => compareHlc nextHlc entry.hlc = .gt
  ⟨dominated ++ [⟨value, nextHlc⟩]⟩

/-- The entries that no other is after. -/
def latest (l : List (LwwElement N S T)) : List (LwwElement N S T) :=
  l.filter fun e => l.all fun other => other.hlc.rank ≤ e.hlc.rank

theorem mem_latest {l : List (LwwElement N S T)} {e : LwwElement N S T} :
    e ∈ latest l ↔ e ∈ l ∧ ∀ other ∈ l, other.hlc.rank ≤ e.hlc.rank := by
  simp [latest]

variable [DecidableEq T]

/-- The body of the loop in `mergeMvRegister`. Values are compared by `===`. No entry is after itself, so the test
`other !== candidate` is left out. -/
def mergeCandidate (combined survivors : List (LwwElement N S T)) (candidate : LwwElement N S T) :
    List (LwwElement N S T) :=
  let dominated := combined.any fun other => compareHlc other.hlc candidate.hlc = .gt
  let alreadyIncluded := survivors.any fun existing =>
    compareHlc existing.hlc candidate.hlc = .eq && existing.value = candidate.value
  if !dominated && !alreadyIncluded then survivors ++ [candidate] else survivors

def mergeMvRegister (a b : MvRegister N S T) : MvRegister N S T :=
  let combined := a.values ++ b.values
  ⟨combined.foldl (mergeCandidate combined) []⟩

variable {combined survivors : List (LwwElement N S T)} {e : LwwElement N S T}

theorem alreadyIncluded_iff : (survivors.any fun existing =>
    compareHlc existing.hlc e.hlc = .eq && existing.value = e.value) = true ↔ e ∈ survivors := by
  simp only [List.any_eq_true, Bool.and_eq_true, decide_eq_true_eq, compareHlc_eq]
  constructor
  · rintro ⟨existing, mem, hlc, value⟩
    have same : existing = e := by
      cases existing
      cases e
      obtain rfl : _ = _ := Hlc.rank_injective hlc
      obtain rfl : _ = _ := value
      rfl
    exact same ▸ mem
  · intro mem
    exact ⟨e, mem, rfl, rfl⟩

/-- Of a candidate that no other is after, the first copy is kept. -/
theorem mergeCandidate_eq (combined survivors : List (LwwElement N S T)) (e : LwwElement N S T) :
    mergeCandidate combined survivors e =
      if (∀ other ∈ combined, other.hlc.rank ≤ e.hlc.rank) ∧ e ∉ survivors then survivors ++ [e] else survivors := by
  have guard : (!(combined.any fun other => compareHlc other.hlc e.hlc = .gt) && !(survivors.any fun existing =>
      compareHlc existing.hlc e.hlc = .eq && existing.value = e.value)) = true ↔
      (∀ other ∈ combined, other.hlc.rank ≤ e.hlc.rank) ∧ e ∉ survivors := by
    rw [Bool.and_eq_true, Bool.not_eq_true', Bool.not_eq_true', ← Bool.not_eq_true, ← Bool.not_eq_true,
      alreadyIncluded_iff]
    simp [compareHlc_gt]
  exact if_congr guard rfl rfl

theorem mem_foldl_mergeCandidate (l : List (LwwElement N S T)) :
    e ∈ l.foldl (mergeCandidate combined) survivors ↔
      e ∈ survivors ∨ e ∈ l ∧ ∀ other ∈ combined, other.hlc.rank ≤ e.hlc.rank := by
  induction l generalizing survivors with
  | nil => simp
  | cons x l ih =>
    rw [List.foldl_cons, ih, mergeCandidate_eq, List.mem_cons]
    by_cases same : e = x
    · subst same
      by_cases added : (∀ other ∈ combined, other.hlc.rank ≤ e.hlc.rank) ∧ e ∉ survivors
      · rw [if_pos added]
        exact iff_of_true (.inl (by simp)) (.inr ⟨.inl rfl, added.1⟩)
      · rw [if_neg added]
        tauto
    · have kept : e ∈ (if (∀ other ∈ combined, other.hlc.rank ≤ x.hlc.rank) ∧ x ∉ survivors then survivors ++ [x]
          else survivors) ↔ e ∈ survivors := by
        split <;> simp [same]
      rw [kept]
      simp [same]

theorem nodup_foldl_mergeCandidate (l : List (LwwElement N S T)) (h : survivors.Nodup) :
    (l.foldl (mergeCandidate combined) survivors).Nodup := by
  induction l generalizing survivors with
  | nil => exact h
  | cons x l ih =>
    apply ih
    rw [mergeCandidate_eq]
    split
    · rename_i new
      exact List.nodup_append.mpr ⟨h, List.nodup_singleton x, by simpa using fun _ ha => ne_of_mem_of_not_mem ha new.2⟩
    · exact h

/-- A merge keeps each of the latest entries once. -/
theorem values_merge_perm (a b : MvRegister N S T) :
    (mergeMvRegister a b).values.Perm (latest (a.values ++ b.values)).dedup := by
  refine (List.perm_ext_iff_of_nodup (nodup_foldl_mergeCandidate _ List.nodup_nil) (List.nodup_dedup _)).mpr ?_
  intro e
  rw [List.mem_dedup, mem_latest]
  exact (mem_foldl_mergeCandidate _).trans (by simp)

/-! ## Writes -/

/-- What `writeMvRegister` is for. Of the old entries those stay that are not before the new one, in any order;
so a write after all of them leaves itself only, and the old register has nothing to add to the result. -/
structure Supersedes [Zero N] [One N] [Add N] (now : N) (register : MvRegister N S T) (value : T)
    (localHlc : Hlc N S) : Prop where
  entries : (writeMvRegister now register value localHlc).values.Perm
    (⟨value, incrementHlc now localHlc⟩ ::
      register.values.filter fun entry => compareHlc entry.hlc (incrementHlc now localHlc) ≠ .lt)
  collapses : (∀ entry ∈ register.values, compareHlc (incrementHlc now localHlc) entry.hlc = .gt) →
    readMvRegister (writeMvRegister now register value localHlc) = [value]
  merged : (readMvRegister (mergeMvRegister (writeMvRegister now register value localHlc) register)).Perm
    (readMvRegister (writeMvRegister now register value localHlc))

/-- Two parts of a list have the same elements only if there are none. -/
theorem filter_perm_filter_not {α : Type*} {p : α → Bool} {l : List α}
    (h : (l.filter p).Perm (l.filter fun e => !p e)) : l = [] := by
  refine List.eq_nil_iff_forall_not_mem.mpr fun e he => ?_
  have both := h.mem_iff (a := e)
  rw [List.mem_filter, List.mem_filter] at both
  cases he' : p e <;> simp [he, he'] at both

/-- **A write supersedes what is before it in the empty register only**: of any other it keeps what it should drop
and drops what it should keep. -/
theorem write_supersedes_iff [Zero N] [One N] [Add N] (now : N) (register : MvRegister N S T)
    (value : T) (localHlc : Hlc N S) :
    Supersedes now register value localHlc ↔ register.values = [] := by
  have opposite (entry : LwwElement N S T) : decide (compareHlc entry.hlc (incrementHlc now localHlc) ≠ .lt) =
      !decide (compareHlc (incrementHlc now localHlc) entry.hlc = .gt) := by
    rw [← decide_not, decide_eq_decide, Ne, compareHlc_lt, compareHlc_gt]
  constructor
  · intro h
    have entries := h.entries
    simp only [opposite] at entries
    exact filter_perm_filter_not ((List.perm_append_singleton _ _).symm.trans entries).cons_inv
  · intro none
    obtain ⟨values⟩ := register
    obtain rfl : values = [] := none
    exact ⟨.refl _, fun _ => rfl, by simp [writeMvRegister, mergeMvRegister, mergeCandidate, compareHlc]⟩

/-- A price of 450 is overwritten by 500 five seconds later, and both are read. -/
theorem older_price_read :
    let register : MvRegister ℤ String ℕ := ⟨[⟨450, ⟨1753000000000, 0, "kiosk-1"⟩⟩]⟩
    readMvRegister (writeMvRegister 1753000005000 register 500 ⟨1753000000000, 0, "kiosk-1"⟩) = [450, 500] ∧
      ¬ Supersedes 1753000005000 register 500 ⟨1753000000000, 0, "kiosk-1"⟩ := by
  have read : readMvRegister (writeMvRegister (1753000005000 : ℤ) ⟨[⟨450, ⟨1753000000000, 0, "kiosk-1"⟩⟩]⟩ 500
      ⟨1753000000000, 0, "kiosk-1"⟩) = [450, 500] := by decide
  refine ⟨read, fun h => ?_⟩
  have collapsed := h.collapses (by decide)
  rw [read] at collapsed
  exact absurd collapsed (by decide)

end SharedTypes
