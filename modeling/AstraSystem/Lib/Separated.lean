import Mathlib.Algebra.BigOperators.Group.List.Basic
import Mathlib.Algebra.Ring.Nat

/-!
# Fields with a separator between them

Nothing is escaped, so fields that hold the separator may be cut in other places.
-/

namespace Separated

variable {α : Type*} [DecidableEq α] {sep : α}

omit [DecidableEq α] in
def join (sep : α) : List (List α) → List α
  | [] => []
  | [x] => x
  | x :: y :: xs => x ++ sep :: join sep (y :: xs)

/-- Fronts with as many separators end at the same one. -/
theorem cut_inj {x y u v : List α} (count : x.count sep = y.count sep)
    (h : x ++ sep :: u = y ++ sep :: v) : x = y ∧ u = v := by
  induction x generalizing y with
  | nil =>
    cases y with
    | nil => exact ⟨rfl, (List.cons.inj h).2⟩
    | cons b y =>
      obtain ⟨rfl, -⟩ := List.cons.inj h
      simp at count
  | cons a x ih =>
    cases y with
    | nil =>
      obtain ⟨rfl, -⟩ := List.cons.inj h
      simp at count
    | cons b y =>
      obtain ⟨rfl, rest⟩ := List.cons.inj h
      have count : x.count sep = y.count sep := by
        rw [List.count_cons, List.count_cons] at count
        omega
      obtain ⟨rfl, rfl⟩ := ih count rest
      exact ⟨rfl, rfl⟩

theorem count_join (x : List α) (xs : List (List α)) :
    (join sep (x :: xs)).count sep = ((x :: xs).map (List.count sep)).sum + xs.length := by
  induction xs generalizing x with
  | nil => simp [join]
  | cons y xs ih =>
    rw [join, List.count_append, List.count_cons_self, ih]
    simp only [List.map_cons, List.sum_cons, List.length_cons]
    omega

/-- Fields with as many separators each are cut in the same places. -/
theorem join_inj {xs ys : List (List α)} (counts : xs.map (List.count sep) = ys.map (List.count sep)) :
    join sep xs = join sep ys ↔ xs = ys := by
  refine ⟨fun h => ?_, fun h => by rw [h]⟩
  induction xs generalizing ys with
  | nil =>
    cases ys with
    | nil => rfl
    | cons => cases counts
  | cons x xs ih =>
    cases ys with
    | nil => cases counts
    | cons y ys =>
      obtain ⟨count, tails⟩ := List.cons.inj counts
      cases xs with
      | nil =>
        obtain rfl : ys = [] := List.map_eq_nil_iff.mp tails.symm
        exact congrArg (· :: []) h
      | cons x' xs =>
        cases ys with
        | nil => cases tails
        | cons y' ys =>
          obtain ⟨rfl, rest⟩ := cut_inj count h
          rw [ih tails rest]

/-- What stands before the first separator, and what behind it. -/
def cutFirst (sep : α) : List α → Option (List α × List α)
  | [] => none
  | a :: xs => if a = sep then some ([], xs) else (cutFirst sep xs).map fun cut => (a :: cut.1, cut.2)

theorem cutFirst_eq_some {xs x y : List α} :
    cutFirst sep xs = some (x, y) ↔ xs = x ++ sep :: y ∧ sep ∉ x := by
  induction xs generalizing x with
  | nil => simp [cutFirst]
  | cons a xs ih =>
    unfold cutFirst
    split
    · rename_i same
      subst same
      cases x with
      | nil => simp [eq_comm]
      | cons b x => simp +contextual [eq_comm]
    · rename_i other
      rw [Option.map_eq_some_iff]
      constructor
      · rintro ⟨⟨x', y'⟩, cut, same⟩
        cases same
        obtain ⟨rfl, none⟩ := ih.mp cut
        exact ⟨rfl, List.not_mem_cons_of_ne_of_not_mem (Ne.symm other) none⟩
      · rintro ⟨split, none⟩
        cases x with
        | nil => exact absurd (List.cons.inj split).1 other
        | cons b x =>
          obtain ⟨rfl, rfl⟩ := List.cons.inj split
          exact ⟨(x, y), ih.mpr ⟨rfl, fun mem => none (List.mem_cons_of_mem _ mem)⟩, rfl⟩

/-- The text before the first separator, all of it where there is none. -/
theorem front_cutFirst (xs : List α) :
    ((cutFirst sep xs).map Prod.fst).getD xs = xs.takeWhile (· ≠ sep) := by
  induction xs with
  | nil => rfl
  | cons a xs ih =>
    unfold cutFirst
    split
    · rename_i same
      rw [List.takeWhile_cons_of_neg (by simp [same])]
      rfl
    · rename_i other
      rw [List.takeWhile_cons_of_pos (by simp [other]), ← ih]
      cases cutFirst sep xs <;> rfl

/-! ## Fields that may hold the separator -/

/-- Joined fields are split field by field. -/
theorem splitOn_intercalate {xs : List (List α)} (ne : xs ≠ []) :
    ([sep].intercalate xs).splitOn sep = xs.flatMap (List.splitOn sep) := by
  induction xs with
  | nil => exact absurd rfl ne
  | cons x xs ih =>
    cases xs with
    | nil => rw [List.intercalate_singleton, List.flatMap_singleton]
    | cons y xs =>
      rw [List.intercalate_cons_cons, List.append_assoc, List.singleton_append,
        List.splitOn_append_cons_self, ih (List.cons_ne_nil y xs)]
      rfl

/-- Text without the separator stays before the first field. -/
theorem splitOn_append {x : List α} (none : sep ∉ x) (y : List α) :
    (x ++ y).splitOn sep = (y.splitOn sep).modifyHead (x ++ ·) := by
  induction x with
  | nil =>
    rw [List.nil_append]
    cases y.splitOn sep <;> rfl
  | cons a x ih =>
    obtain ⟨ne, none⟩ := not_or.mp (mt List.mem_cons.mpr none)
    rw [List.cons_append, List.splitOn_cons_eq_if_modifyHead, if_neg (by simpa using Ne.symm ne), ih none,
      List.modifyHead_modifyHead]
    rfl

/-- No field holds the separator. -/
theorem notMem_of_mem_splitOn {xs x : List α} (h : x ∈ xs.splitOn sep) : sep ∉ x := by
  induction xs generalizing x with
  | nil =>
    rw [List.splitOn_nil, List.mem_singleton] at h
    rw [h]
    exact List.not_mem_nil
  | cons a xs ih =>
    rw [List.splitOn_cons_eq_if_modifyHead] at h
    split at h
    · rcases List.mem_cons.mp h with rfl | h
      · exact List.not_mem_nil
      · exact ih h
    · rename_i other
      cases fields : xs.splitOn sep with
      | nil => exact absurd fields (List.splitOn_ne_nil sep xs)
      | cons y ys =>
        rw [fields] at h ih
        rcases List.mem_cons.mp h with rfl | h
        · refine List.not_mem_cons_of_ne_of_not_mem ?_ (ih List.mem_cons_self)
          rintro rfl
          exact other (beq_self_eq_true sep)
        · exact ih (List.mem_cons_of_mem y h)

theorem splitOn_eq_singleton {x y : List α} : x.splitOn sep = [y] ↔ x = y ∧ sep ∉ x := by
  constructor
  · intro one
    have same : x = y := by
      have joined : [sep].intercalate (x.splitOn sep) = x := List.intercalate_splitOn sep
      rw [one, List.intercalate_singleton] at joined
      exact joined.symm
    refine ⟨same, fun mem => ?_⟩
    obtain ⟨u, v, rfl⟩ := List.append_of_mem mem
    rw [List.splitOn_append_cons_self] at one
    have lengths := congrArg List.length one
    have left := List.length_pos_iff.mpr (List.splitOn_ne_nil sep u)
    have right := List.length_pos_iff.mpr (List.splitOn_ne_nil sep v)
    rw [List.length_append, List.length_singleton] at lengths
    omega
  · rintro ⟨rfl, none⟩
    exact List.splitOn_eq_singleton none

/-- Two fields come of one separator. -/
theorem splitOn_eq_pair {xs x y : List α} :
    xs.splitOn sep = [x, y] ↔ xs = x ++ sep :: y ∧ sep ∉ x ∧ sep ∉ y := by
  constructor
  · intro two
    have joined : [sep].intercalate (xs.splitOn sep) = xs := List.intercalate_splitOn sep
    rw [two, List.intercalate_cons_cons, List.intercalate_singleton, List.append_assoc,
      List.singleton_append] at joined
    rw [← joined, List.splitOn_append_cons_self] at two
    have left := List.length_pos_iff.mpr (List.splitOn_ne_nil sep x)
    have right := List.length_pos_iff.mpr (List.splitOn_ne_nil sep y)
    have lengths := congrArg List.length two
    rw [List.length_append, List.length_cons, List.length_singleton] at lengths
    obtain ⟨first, second⟩ : x.splitOn sep = [x] ∧ y.splitOn sep = [y] :=
      List.append_inj two (by rw [List.length_singleton]; omega)
    exact ⟨joined.symm, (splitOn_eq_singleton.mp first).2, (splitOn_eq_singleton.mp second).2⟩
  · rintro ⟨rfl, left, right⟩
    rw [List.splitOn_append_cons_self_of_not_mem left, List.splitOn_eq_singleton right]

omit [DecidableEq α] in
theorem prefix_append_iff {x y s : List α} : s <+: x ++ y ↔ s <+: x ∨ ∃ u, s = x ++ u ∧ u <+: y := by
  constructor
  · intro pre
    obtain short | long := Nat.le_total s.length x.length
    · exact .inl (List.prefix_of_prefix_length_le pre (List.prefix_append x y) short)
    · obtain ⟨u, rfl⟩ := List.prefix_of_prefix_length_le (List.prefix_append x y) pre long
      exact .inr ⟨u, rfl, (List.prefix_append_right_inj x).mp pre⟩
  · rintro (pre | ⟨u, rfl, pre⟩)
    · exact pre.trans (List.prefix_append x y)
    · exact (List.prefix_append_right_inj x).mpr pre

omit [DecidableEq α] in
/-- A front of joined fields is made of whole fields and the front of one. -/
theorem prefix_intercalate_iff {xs : List (List α)} (ne : xs ≠ []) {s : List α} :
    s <+: [sep].intercalate xs ↔
      ∃ before x after front, xs = before ++ x :: after ∧ front <+: x ∧
        s = [sep].intercalate (before ++ [front]) := by
  induction xs generalizing s with
  | nil => exact absurd rfl ne
  | cons x xs ih =>
    cases xs with
    | nil =>
      rw [List.intercalate_singleton]
      constructor
      · intro pre
        exact ⟨[], x, [], s, rfl, pre, (List.intercalate_singleton).symm⟩
      · rintro ⟨before, y, after, front, same, pre, rfl⟩
        obtain ⟨rfl, rfl, rfl⟩ : before = [] ∧ x = y ∧ after = [] := by
          cases before with
          | nil => simpa using same
          | cons => simp at same
        rwa [List.nil_append, List.intercalate_singleton]
    | cons y xs =>
      rw [List.intercalate_cons_cons, List.append_assoc, List.singleton_append, prefix_append_iff]
      constructor
      · rintro (pre | ⟨u, rfl, pre⟩)
        · exact ⟨[], x, y :: xs, s, rfl, pre, (List.intercalate_singleton).symm⟩
        · obtain rfl | ⟨t, rfl, rest⟩ := List.prefix_cons_iff.mp pre
          · refine ⟨[], x, y :: xs, x, rfl, List.prefix_refl x, ?_⟩
            rw [List.append_nil, List.nil_append, List.intercalate_singleton]
          · obtain ⟨before, z, after, front, same, whole, rfl⟩ := (ih (List.cons_ne_nil y xs)).mp rest
            refine ⟨x :: before, z, after, front, by rw [same, List.cons_append], whole, ?_⟩
            rw [List.cons_append, List.intercalate_cons_of_ne_nil (by simp), List.append_assoc,
              List.singleton_append]
      · rintro ⟨before, z, after, front, same, pre, rfl⟩
        cases before with
        | nil =>
          obtain ⟨rfl, -⟩ := List.cons.inj same
          rw [List.nil_append, List.intercalate_singleton]
          exact .inl pre
        | cons w before =>
          obtain ⟨rfl, same'⟩ := List.cons.inj same
          refine .inr ⟨sep :: [sep].intercalate (before ++ [front]), ?_, ?_⟩
          · rw [List.cons_append, List.intercalate_cons_of_ne_nil (by simp), List.append_assoc,
              List.singleton_append]
          · exact (List.prefix_cons_inj sep).mpr
              ((ih (List.cons_ne_nil y xs)).mpr ⟨before, z, after, front, same', pre, rfl⟩)

end Separated
