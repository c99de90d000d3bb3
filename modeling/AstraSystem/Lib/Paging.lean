import Mathlib.Data.List.Sort

/-!
# Pages of a sorted list whose ties are broken anew for each page

A page is cut out of the whole list, which is sorted by a key. Things with the same key come in any order, and in
another one for the next page.
-/

namespace Paging

variable {α β K : Type*} [LinearOrder K] (key : α → K)

/-- The list in an order that a request may see: the greatest keys first. -/
structure Arranged (M L : List α) : Prop where
  perm : L.Perm M
  sorted : L.Pairwise fun a b => key b ≤ key a

omit [LinearOrder K] in
def page (size : ℕ) (L : List α) (i : ℕ) : List α := (L.drop (i * size)).take size

/-- One page after another, each of its own list. -/
def pages (size count : ℕ) (L : ℕ → List α) : List α := (List.range count).flatMap fun i => page size (L i) i

def keys (M : List α) : List K := (M.map key).insertionSort (· ≥ ·)

/-- The keys on both sides of a boundary are the same. -/
def TiedAt (M : List α) (b : ℕ) : Prop := ∃ k ∈ (keys key M)[b - 1]?, k ∈ (keys key M)[b]?

section
variable {key} {M L L' : List α} {size count b : ℕ}

theorem Arranged.map_key (h : Arranged key M L) : L.map key = keys key M := by
  have sorted : (L.map key).Pairwise (· ≥ ·) := List.pairwise_map.mpr h.sorted
  have sorted' : (keys key M).Pairwise (· ≥ ·) := List.pairwise_insertionSort _ _
  have perm : (L.map key).Perm (keys key M) :=
    (h.perm.map key).trans (List.perm_insertionSort (· ≥ ·) (M.map key)).symm
  exact perm.eq_of_pairwise' sorted sorted'

theorem Arranged.key_getElem? (h : Arranged key M L) (i : ℕ) : L[i]?.map key = (keys key M)[i]? := by
  rw [← h.map_key, List.getElem?_map]

/-- Where the keys differ, what stands before a boundary has the greater ones. -/
theorem Arranged.take_eq_filter (h : Arranged key M L) {front : α} (at_front : L[b - 1]? = some front) (pos : 0 < b)
    (apart : ∀ back ∈ L[b]?, key back ≠ key front) : L.take b = L.filter (key front ≤ key ·) := by
  obtain ⟨inside, rfl⟩ := List.getElem?_eq_some_iff.mp at_front
  have sorted := List.pairwise_iff_getElem.mp h.sorted
  have before : ∀ x ∈ L.take b, key L[b - 1] ≤ key x := by
    intro x hx
    obtain ⟨j, hj, rfl⟩ := List.getElem_of_mem hx
    rw [List.length_take] at hj
    rw [List.getElem_take]
    rcases Nat.lt_or_eq_of_le (show j ≤ b - 1 by omega) with lt | rfl
    · exact sorted j (b - 1) (by omega) inside lt
    · exact le_refl _
  have behind : ∀ x ∈ L.drop b, ¬ key L[b - 1] ≤ key x := by
    intro x hx
    obtain ⟨j, hj, rfl⟩ := List.getElem_of_mem hx
    rw [List.length_drop] at hj
    rw [List.getElem_drop]
    have at_b : b < L.length := by omega
    have less : key L[b] < key L[b - 1] :=
      lt_of_le_of_ne (sorted (b - 1) b inside at_b (by omega)) (apart _ (List.getElem?_eq_getElem at_b))
    rw [not_le]
    rcases Nat.eq_or_lt_of_le (Nat.le_add_right b j) with same | lt
    · obtain rfl : j = 0 := by omega
      exact less
    · exact (sorted b (b + j) at_b (by omega) lt).trans_lt less
  have whole := congrArg (List.filter (key L[b - 1] ≤ key ·)) (List.take_append_drop b L)
  rw [List.filter_append, List.filter_eq_self.mpr (by simpa using before),
    List.filter_eq_nil_iff.mpr (by simpa using behind), List.append_nil] at whole
  exact whole

/-- At a boundary that is not tied the fronts are the same, but for their order. -/
theorem Arranged.take_perm (h : Arranged key M L) (h' : Arranged key M L') (apart : ¬ TiedAt key M b) :
    (L.take b).Perm (L'.take b) := by
  by_cases pos : 0 < b
  · have lengths : L.length = L'.length := h.perm.length_eq.trans h'.perm.length_eq.symm
    by_cases inside : b - 1 < L.length
    · have inside' : b - 1 < L'.length := lengths ▸ inside
      have keysAt := h.key_getElem? (b - 1)
      have keysAt' := h'.key_getElem? (b - 1)
      rw [List.getElem?_eq_getElem inside, Option.map_some] at keysAt
      rw [List.getElem?_eq_getElem inside', Option.map_some] at keysAt'
      have same : key L'[b - 1] = key L[b - 1] := Option.some.inj (keysAt'.trans keysAt.symm)
      have differ {L : List α} (h : Arranged key M L) (inside : b - 1 < L.length)
          (keysAt : some (key L[b - 1]) = (keys key M)[b - 1]?) : ∀ back ∈ L[b]?, key back ≠ key L[b - 1] := by
        intro back hback tie
        refine apart ⟨key L[b - 1], keysAt.symm, ?_⟩
        have at_b := h.key_getElem? b
        rw [Option.mem_def.mp hback, Option.map_some, tie] at at_b
        exact at_b.symm
      rw [h.take_eq_filter (List.getElem?_eq_getElem inside) pos (differ h inside keysAt),
        h'.take_eq_filter (List.getElem?_eq_getElem inside') pos (differ h' inside' keysAt'), same]
      exact (h.perm.trans h'.perm.symm).filter _
    · rw [List.take_of_length_le (by omega), List.take_of_length_le (by omega)]
      exact h.perm.trans h'.perm.symm
  · obtain rfl : b = 0 := by omega
    rw [List.take_zero, List.take_zero]

theorem pages_succ (L : ℕ → List α) : pages size (count + 1) L = pages size count L ++ page size (L count) count := by
  rw [pages, List.range_succ, List.flatMap_append, List.flatMap_singleton]
  rfl

theorem take_append_page (L : List α) (i : ℕ) : L.take (i * size) ++ page size L i = L.take ((i + 1) * size) := by
  rw [page, Nat.add_mul, Nat.one_mul, List.take_add]

/-- Pages with no tie between them are the front of the list. -/
theorem pages_perm_take {L : ℕ → List α} {whole : List α} (arranged : ∀ i, Arranged key M (L i))
    (hw : Arranged key M whole) (apart : ∀ i, 0 < i → i ≤ count → ¬ TiedAt key M (i * size)) :
    (pages size count L).Perm (whole.take (count * size)) := by
  induction count with
  | zero =>
    rw [Nat.zero_mul, List.take_zero]
    exact .refl _
  | succ count ih =>
    have front : (pages size count L).Perm ((L count).take (count * size)) := by
      refine (ih fun i pos le => apart i pos (Nat.le_succ_of_le le)).trans ?_
      by_cases first : count = 0
      · subst first
        rw [Nat.zero_mul, List.take_zero, List.take_zero]
      · exact hw.take_perm (arranged count) (apart count (Nat.pos_of_ne_zero first) (Nat.le_succ count))
    rw [pages_succ]
    refine (front.append_right _).trans ?_
    rw [take_append_page]
    exact (arranged count).take_perm hw (apart (count + 1) (Nat.succ_pos count) (Nat.le_refl _))

/-- Behind the end there are no ties. -/
theorem not_tiedAt_of_le (le : M.length ≤ b) : ¬ TiedAt key M b := by
  rintro ⟨k, -, at_b⟩
  obtain ⟨inside, -⟩ := List.getElem?_eq_some_iff.mp (Option.mem_def.mp at_b)
  rw [keys, List.length_insertionSort, List.length_map] at inside
  omega

/-! ## The converse -/

theorem pages_const (L : List α) (count : ℕ) : pages size count (fun _ => L) = L.take (count * size) := by
  induction count with
  | zero => rw [Nat.zero_mul, List.take_zero]; rfl
  | succ count ih => rw [pages_succ, ih, take_append_page]

/-- Neighbours with the same key may change places. -/
theorem Arranged.swap {front rest : List α} {x y : α} (h : Arranged key M (front ++ x :: y :: rest))
    (tie : key x = key y) : Arranged key M (front ++ y :: x :: rest) := by
  refine ⟨((List.Perm.swap x y rest).append_left front).trans h.perm, ?_⟩
  have sorted := h.sorted
  simp only [List.pairwise_append, List.pairwise_cons, List.forall_mem_cons] at sorted ⊢
  obtain ⟨inFront, ⟨⟨-, x_rest⟩, y_rest, inRest⟩, across⟩ := sorted
  refine ⟨inFront, ⟨⟨tie.le, y_rest⟩, x_rest, inRest⟩, fun a ha => ?_⟩
  obtain ⟨toX, toY, toRest⟩ := across a ha
  exact ⟨toY, toX, toRest⟩

theorem mem_page {L : List α} {x : α} {i j : ℕ} (place : L[i * size + j]? = some x) (lt : j < size) :
    x ∈ page size L i := by
  refine List.mem_of_getElem? (i := j) ?_
  rw [page, List.getElem?_take_of_lt lt, List.getElem?_drop, place]

/-- Pages of lists in which two things changed places between them repeat one of the two. -/
theorem exists_repeated (pos : 0 < size) {i : ℕ} (first : 0 < i) (last : i < count)
    (tied : TiedAt key M (i * size)) :
    ∃ L : ℕ → List α, (∀ i, Arranged key M (L i)) ∧ ¬ (pages size count L).Nodup := by
  let whole := M.insertionSort fun a b => key b ≤ key a
  have arranged : Arranged key M whole := ⟨List.perm_insertionSort _ _, List.pairwise_insertionSort _ _⟩
  obtain ⟨k, before, behind⟩ := tied
  rw [Option.mem_def, ← arranged.key_getElem?, Option.map_eq_some_iff] at before behind
  obtain ⟨x, at_x, rfl⟩ := before
  obtain ⟨y, at_y, tie⟩ := behind
  obtain ⟨inside, hx⟩ := List.getElem?_eq_some_iff.mp at_x
  obtain ⟨inside', hy⟩ := List.getElem?_eq_some_iff.mp at_y
  obtain ⟨i, rfl⟩ : ∃ j, i = j + 1 := ⟨i - 1, by omega⟩
  have edge : (i + 1) * size - 1 + 1 = (i + 1) * size := by
    have := Nat.mul_pos first pos
    omega
  have cut : whole = whole.take ((i + 1) * size - 1) ++ x :: y :: whole.drop ((i + 1) * size + 1) := by
    have second := List.drop_eq_getElem_cons inside'
    have front := List.drop_eq_getElem_cons inside
    simp only [edge, second, hx, hy] at front
    rw [← front, List.take_append_drop]
  let swapped := whole.take ((i + 1) * size - 1) ++ y :: x :: whole.drop ((i + 1) * size + 1)
  have arranged' : Arranged key M swapped := Arranged.swap (cut ▸ arranged) tie.symm
  refine ⟨fun j => if j = i + 1 then swapped else whole, fun j => ?_, fun nodup => ?_⟩
  · by_cases here : j = i + 1
    · simpa only [here, ↓reduceIte] using arranged'
    · simpa only [here, ↓reduceIte] using arranged
  · have apart := List.pairwise_iff_getElem.mp (List.nodup_flatMap.mp nodup).2 i (i + 1)
      (by rw [List.length_range]; omega) (by rw [List.length_range]; omega) (Nat.lt_succ_self i)
    simp only [List.getElem_range, Function.onFun, Nat.ne_of_lt (Nat.lt_succ_self i), ↓reduceIte] at apart
    refine apart (a := x) ?_ ?_
    · have place : (i + 1) * size - 1 = i * size + (size - 1) := by
        rw [Nat.add_mul, Nat.one_mul]
        omega
      have short : size - 1 < size := Nat.sub_lt pos Nat.one_pos
      exact mem_page (place ▸ at_x) short
    · have length : (whole.take ((i + 1) * size - 1)).length = (i + 1) * size - 1 := by
        rw [List.length_take]
        omega
      have at_edge : swapped[(i + 1) * size]? = some x := by
        rw [List.getElem?_append_right (by omega), length, show (i + 1) * size - ((i + 1) * size - 1) = 1 by omega]
        rfl
      exact mem_page (j := 0) at_edge pos

/-- **Pages make up the whole, whatever the ties, exactly if there are enough of them and no tie spans the
boundary between two.** -/
theorem pages_perm_iff {f : α → β} (nodup : (M.map f).Nodup) (pos : 0 < size) :
    (∀ L, (∀ i, Arranged key M (L i)) → ((pages size count L).map f).Perm (M.map f)) ↔
      M.length ≤ count * size ∧ ∀ i, 0 < i → i < count → ¬ TiedAt key M (i * size) := by
  constructor
  · intro complete
    refine ⟨?_, fun i first last tied => ?_⟩
    · let whole := M.insertionSort fun a b => key b ≤ key a
      have arranged : Arranged key M whole := ⟨List.perm_insertionSort _ _, List.pairwise_insertionSort _ _⟩
      have lengths := (complete (fun _ => whole) fun _ => arranged).length_eq
      rw [List.length_map, List.length_map, pages_const, List.length_take, arranged.perm.length_eq] at lengths
      omega
    · obtain ⟨L, arranged, repeated⟩ := exists_repeated pos first last tied
      exact repeated (((complete L arranged).nodup_iff.mpr nodup).of_map f)
  · rintro ⟨enough, apart⟩ L arranged
    have none : ∀ i, 0 < i → i ≤ count → ¬ TiedAt key M (i * size) := by
      intro i first le
      rcases Nat.lt_or_eq_of_le le with lt | rfl
      · exact apart i first lt
      · exact not_tiedAt_of_le enough
    have perm := pages_perm_take arranged (arranged 0) none
    rw [List.take_of_length_le ((arranged 0).perm.length_eq.trans_le enough)] at perm
    exact (perm.trans (arranged 0).perm).map f

end

end Paging
