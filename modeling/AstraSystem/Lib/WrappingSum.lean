import Mathlib.Algebra.BigOperators.Group.Finset.Piecewise
import Mathlib.Algebra.BigOperators.Group.List.Basic
import Mathlib.Algebra.Order.Ring.Int

/-!
# Sums of 64-bit integers

The integers of 64 bits with wrapping addition, and what their sums lose against
the sums of the numbers they stand for.
-/

namespace WrappingSum

instance addCommMonoid : AddCommMonoid Int64 where
  add_assoc := Int64.add_assoc
  zero_add := Int64.zero_add
  add_zero := Int64.add_zero
  add_comm := Int64.add_comm
  nsmul := nsmulRec

variable {α : Type*} (f : α → Int64)

/-- The sum of the numbers, which need not fit in 64 bits. -/
def exact (xs : List α) : ℤ := (xs.map fun x => (f x).toInt).sum

/-- What wrapping takes away from the exact sum. -/
def overflow (xs : List α) : ℤ := exact f xs - (xs.map f).sum.toInt

variable {f}

@[simp] theorem exact_nil : exact f [] = 0 := rfl

@[simp] theorem exact_cons (x : α) (xs : List α) :
    exact f (x :: xs) = (f x).toInt + exact f xs := rfl

@[simp] theorem exact_append (xs ys : List α) : exact f (xs ++ ys) = exact f xs + exact f ys := by
  simp [exact]

theorem exact_dropLast (xs : List α) :
    exact f xs = exact f xs.dropLast + exact f xs.getLast?.toList := by
  cases h : xs.getLast? with
  | none => simp [List.getLast?_eq_none_iff.mp h]
  | some x =>
    conv_lhs => rw [← List.dropLast_append_getLast? x h]
    exact exact_append _ _

theorem exact_perm {xs ys : List α} (h : xs.Perm ys) : exact f xs = exact f ys :=
  (h.map _).sum_eq

/-- A sum taken key by key. -/
theorem sum_by_key {κ M : Type*} [DecidableEq κ] [AddCommMonoid M] {g : α → M} {key : α → κ}
    {keys : List κ} (nodup : keys.Nodup) (xs : List α) (all : ∀ x ∈ xs, key x ∈ keys) :
    (xs.map g).sum = (keys.map fun k => ((xs.filter fun x => key x = k).map g).sum).sum := by
  induction xs with
  | nil => simp
  | cons x xs ih =>
    have split (k : κ) : (((x :: xs).filter fun x => key x = k).map g).sum =
        (if k = key x then g x else 0) + ((xs.filter fun x => key x = k).map g).sum := by
      by_cases hk : k = key x
      · simp [hk]
      · rw [List.filter_cons_of_neg (by simpa using Ne.symm hk), if_neg hk, zero_add]
    have own : (keys.map fun k => if k = key x then g x else 0).sum = g x := by
      rw [← List.sum_toFinset _ nodup, Finset.sum_ite_eq',
        if_pos (List.mem_toFinset.mpr (all x List.mem_cons_self))]
    simp only [split, List.sum_map_add, own]
    rw [List.map_cons, List.sum_cons, ih fun y hy => all y (List.mem_cons_of_mem x hy)]

/-- A loop that adds one number after another. -/
theorem foldl_add (xs : List α) (acc : Int64) :
    xs.foldl (fun acc x => acc + f x) acc = acc + (xs.map f).sum := by
  induction xs generalizing acc with
  | nil => exact (Int64.add_zero acc).symm
  | cons x xs ih => rw [List.foldl_cons, ih, List.map_cons, List.sum_cons, Int64.add_assoc]

theorem toInt_sum (xs : List α) : (xs.map f).sum.toInt = (exact f xs).bmod (2 ^ 64) := by
  induction xs with
  | nil => rfl
  | cons x xs ih =>
    rw [List.map_cons, List.sum_cons, Int64.toInt_add, ih, exact_cons, Int.add_bmod_bmod]

theorem toInt_sum_of_fits {xs : List α} (low : -2 ^ 63 ≤ exact f xs) (high : exact f xs < 2 ^ 63) :
    (xs.map f).sum.toInt = exact f xs := by
  rw [toInt_sum]
  exact Int.bmod_eq_of_le (by omega) (by omega)

theorem overflow_of_fits {xs : List α} (low : -2 ^ 63 ≤ exact f xs)
    (high : exact f xs < 2 ^ 63) : overflow f xs = 0 := by
  rw [overflow, toInt_sum_of_fits low high, sub_self]

theorem exact_nonneg {xs : List α} (pos : ∀ x ∈ xs, 0 < f x) : 0 ≤ exact f xs := by
  induction xs with
  | nil => exact le_rfl
  | cons x xs ih =>
    have hx := Int64.lt_iff_toInt_lt.mp (pos x List.mem_cons_self)
    have hxs := ih fun y hy => pos y (List.mem_cons_of_mem x hy)
    rw [Int64.toInt_zero] at hx
    rw [exact_cons]
    omega

theorem exact_le_of_sublist {xs ys : List α} (h : xs.Sublist ys) (pos : ∀ y ∈ ys, 0 < f y) :
    exact f xs ≤ exact f ys := by
  induction h with
  | slnil => exact le_rfl
  | cons y _ ih =>
    have hy := Int64.lt_iff_toInt_lt.mp (pos y List.mem_cons_self)
    have le := ih fun z hz => pos z (List.mem_cons_of_mem y hz)
    rw [Int64.toInt_zero] at hy
    rw [exact_cons]
    omega
  | cons_cons y _ ih =>
    have le := ih fun z hz => pos z (List.mem_cons_of_mem y hz)
    rw [exact_cons, exact_cons]
    omega

theorem exact_eq_zero_iff {xs : List α} (pos : ∀ x ∈ xs, 0 < f x) : exact f xs = 0 ↔ xs = [] := by
  cases xs with
  | nil => simp
  | cons x xs =>
    have hx := Int64.lt_iff_toInt_lt.mp (pos x List.mem_cons_self)
    have hxs := exact_nonneg fun y hy => pos y (List.mem_cons_of_mem x hy)
    rw [Int64.toInt_zero] at hx
    rw [exact_cons]
    constructor
    · intro h
      omega
    · intro h
      cases h

end WrappingSum
