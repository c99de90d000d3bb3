import Mathlib.Data.List.Basic

/-!
# Row policies

SQL has a third truth value, and a row is seen where a permissive policy of its
table is true of it, not merely unknown. Without a policy nothing is seen.
-/

namespace RowPolicy

/-- `none` is UNKNOWN. -/
abbrev Truth := Option Bool

namespace Truth

def or : Truth → Truth → Truth
  | some true, _ => some true
  | some false, t => t
  | none, some true => some true
  | none, _ => none

/-- `a IS NULL` -/
def isNull {A : Type*} (a : Option A) : Truth := some a.isNone

@[simp] theorem isNull_some {A : Type*} (a : A) : isNull (some a) = some false := rfl

section
variable {A : Type*} [DecidableEq A]

/-- `a = b`; an operand that is `none` is NULL. -/
def eq (a b : Option A) : Truth :=
  match a, b with
  | some a, some b => some (decide (a = b))
  | _, _ => none

/-- `a IN (..)` -/
def isIn (a : Option A) (l : List (Option A)) : Truth := l.foldr (fun b t => (eq a b).or t) (some false)

end

theorem or_eq_true {s t : Truth} : s.or t = some true ↔ s = some true ∨ t = some true := by
  cases s with
  | none => cases t with
    | none => simp [or]
    | some b => cases b <;> simp [or]
  | some b => cases b <;> simp [or]

section
variable {A : Type*} [DecidableEq A] {a b : Option A} {x : A} {l : List (Option A)}

theorem eq_some_eq_true : eq a (some x) = some true ↔ a = some x := by
  cases a <;> simp [eq]

theorem isIn_eq_true : isIn (some x) l = some true ↔ some x ∈ l := by
  induction l with
  | nil => simp [isIn]
  | cons b l ih =>
    rw [isIn, List.foldr_cons, or_eq_true, List.mem_cons]
    refine or_congr ?_ ih
    cases b <;> simp [eq]

end

end Truth

variable {R : Type*}

/-- Permissive policies are combined by OR. -/
def permit (policies : List (R → Truth)) (row : R) : Truth :=
  policies.foldr (fun p t => (p row).or t) (some false)

def visible (policies : List (R → Truth)) (rows : List R) : List R :=
  rows.filter fun row => permit policies row = some true

variable {policies : List (R → Truth)} {rows : List R} {row : R}

theorem permit_eq_true : permit policies row = some true ↔ ∃ p ∈ policies, p row = some true := by
  induction policies with
  | nil => simp [permit]
  | cons p policies ih =>
    rw [permit, List.foldr_cons, Truth.or_eq_true, List.exists_mem_cons_iff]
    exact or_congr Iff.rfl ih

/-- What is seen through one policy. -/
theorem visible_singleton {p : R → Truth} {own : R → Bool}
    (h : ∀ row ∈ rows, p row = some true ↔ own row = true) : visible [p] rows = rows.filter own := by
  refine List.filter_congr fun row mem => ?_
  rw [Bool.eq_iff_iff, decide_eq_true_eq, permit_eq_true, ← h row mem]
  simp

/-- A policy that is true of every row leaves the others without effect. -/
theorem visible_of_open {p : R → Truth} (mem : p ∈ policies) (h : ∀ row, p row = some true) :
    visible policies rows = rows :=
  List.filter_eq_self.mpr fun row _ => decide_eq_true (permit_eq_true.mpr ⟨p, mem, h row⟩)

end RowPolicy
