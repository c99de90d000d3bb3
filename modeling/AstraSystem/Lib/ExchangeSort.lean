import Mathlib.Data.List.Sort

/-!
# Exchange sort

Each place in turn is traded with every later element that is less than the one it holds.
-/

namespace ExchangeSort

variable {α : Type*} (less : α → α → Bool)

/-- The turn of one place: what it holds in the end, and what is behind it. -/
def turn (x : α) : List α → α × List α
  | [] => (x, [])
  | y :: ys => if less y x then ((turn y ys).1, x :: (turn y ys).2) else ((turn x ys).1, y :: (turn x ys).2)

/-- The turns of the first `n` places. -/
def turns : ℕ → List α → List α
  | 0, xs => xs
  | _ + 1, [] => []
  | n + 1, x :: xs => (turn less x xs).1 :: turns n (turn less x xs).2

def sort (xs : List α) : List α := turns less xs.length xs

variable {less} {x : α} {xs ys : List α}

theorem turn_perm (x : α) (xs : List α) : ((turn less x xs).1 :: (turn less x xs).2).Perm (x :: xs) := by
  induction xs generalizing x with
  | nil => exact .refl _
  | cons y ys ih =>
    rw [turn]
    split
    · exact (List.Perm.swap ..).trans ((ih y).cons x)
    · exact (List.Perm.swap ..).trans (((ih x).cons y).trans (.swap ..))

theorem turns_perm (n : ℕ) (xs : List α) : (turns less n xs).Perm xs := by
  induction n generalizing xs with
  | zero => exact .refl _
  | succ n ih =>
    cases xs with
    | nil => exact .refl _
    | cons x xs => exact ((ih _).cons _).trans (turn_perm x xs)

theorem sort_perm (xs : List α) : (sort less xs).Perm xs := turns_perm _ _

/-- Comparisons that sort: no two elements are both less than the other, and not to be less is transitive. -/
structure Weak (less : α → α → Bool) : Prop where
  asymm : ∀ {a b}, less a b → ¬ less b a
  trans : ∀ {a b c}, ¬ less a b → ¬ less b c → ¬ less a c

/-- After its turn a place holds a least element. -/
theorem turn_least (weak : Weak less) (x : α) (xs : List α) : ∀ y ∈ x :: xs, ¬ less y (turn less x xs).1 := by
  induction xs generalizing x with
  | nil =>
    intro y hy
    rw [List.mem_singleton.mp hy]
    exact fun self => weak.asymm self self
  | cons z zs ih =>
    intro y hy
    rw [turn]
    split
    · rename_i lt
      have front := ih z z List.mem_cons_self
      obtain rfl | behind := List.mem_cons.mp hy
      · exact weak.trans (weak.asymm lt) front
      · exact ih z y behind
    · rename_i ge
      have front := ih x x List.mem_cons_self
      obtain rfl | behind := List.mem_cons.mp hy
      · exact front
      · obtain rfl | behind := List.mem_cons.mp behind
        · exact weak.trans ge front
        · exact ih x y (List.mem_cons_of_mem x behind)

theorem turns_sorted (weak : Weak less) {n : ℕ} (all : xs.length ≤ n) :
    (turns less n xs).Pairwise fun a b => ¬ less b a := by
  induction n generalizing xs with
  | zero =>
    rw [List.length_eq_zero_iff.mp (Nat.le_zero.mp all)]
    exact .nil
  | succ n ih =>
    cases xs with
    | nil => exact .nil
    | cons x xs =>
      have perm : ((turn less x xs).1 :: (turn less x xs).2).Perm (x :: xs) := turn_perm x xs
      refine .cons ?_ (ih ?_)
      · intro y hy
        exact turn_least weak x xs y (perm.subset (List.mem_cons_of_mem _ ((turns_perm n _).subset hy)))
      · have length := perm.length_eq
        simp only [List.length_cons] at length all
        omega

theorem sort_sorted (weak : Weak less) (xs : List α) : (sort less xs).Pairwise fun a b => ¬ less b a :=
  turns_sorted weak (Nat.le_refl _)

/-- In an order without ties there is one sorted arrangement. -/
theorem sort_eq_insertionSort {le : α → α → Prop} [DecidableRel le] [Std.Total le] [IsTrans α le]
    (le_iff : ∀ a b, le a b ↔ ¬ less b a) (apart : ∀ a b, a ∈ xs → b ∈ xs → le a b → le b a → a = b)
    (perm : ys.Perm xs) : sort less ys = xs.insertionSort le := by
  have weak : Weak less := by
    constructor
    · intro a b lt gt
      obtain h | h := Std.Total.total (r := le) a b
      · exact (le_iff a b).mp h gt
      · exact (le_iff b a).mp h lt
    · intro a b c ab bc
      exact (le_iff c a).mp (IsTrans.trans _ _ _ ((le_iff c b).mpr bc) ((le_iff b a).mpr ab))
  have sorted : (sort less ys).Pairwise le := (sort_sorted weak ys).imp fun h => (le_iff _ _).mpr h
  have same : (sort less ys).Perm (xs.insertionSort le) :=
    (sort_perm ys).trans (perm.trans (List.perm_insertionSort le xs).symm)
  refine List.Perm.eq_of_pairwise ?_ sorted (List.pairwise_insertionSort le xs) same
  intro a b ha hb
  exact apart a b (perm.subset ((sort_perm ys).subset ha)) ((List.mem_insertionSort le).mp hb)

example : sort (fun a b : ℕ => a < b) [3, 1, 2, 1] = [1, 1, 2, 3] := by decide

end ExchangeSort
