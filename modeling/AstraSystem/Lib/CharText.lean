import Mathlib.Data.List.DropRight

/-!
# Texts as lists of characters

Their length in bytes of UTF-8, slices at a byte, and trimming.
-/

namespace CharText

def byteLen : List Char → ℕ
  | [] => 0
  | c :: s => c.utf8Size + byteLen s

/-- `s[..n]`: nothing where it panics, that is past the end or inside a character. -/
def sliceTo : ℕ → List Char → Option (List Char)
  | 0, _ => some []
  | _ + 1, [] => none
  | n + 1, c :: s => if c.utf8Size ≤ n + 1 then (sliceTo (n + 1 - c.utf8Size) s).map (c :: ·) else none

@[simp] theorem byteLen_nil : byteLen [] = 0 := rfl

@[simp] theorem byteLen_cons (c : Char) (s : List Char) : byteLen (c :: s) = c.utf8Size + byteLen s := rfl

theorem byteLen_append (s t : List Char) : byteLen (s ++ t) = byteLen s + byteLen t := by
  induction s with
  | nil => exact (Nat.zero_add _).symm
  | cons c s ih => rw [List.cons_append, byteLen_cons, ih, byteLen_cons, Nat.add_assoc]

theorem byteLen_replicate (n : ℕ) (c : Char) : byteLen (List.replicate n c) = n * c.utf8Size := by
  induction n with
  | zero => exact (Nat.zero_mul _).symm
  | succ n ih => rw [List.replicate_succ, byteLen_cons, ih, Nat.succ_mul, Nat.add_comm]

theorem byteLen_eq_zero {s : List Char} : byteLen s = 0 ↔ s = [] := by
  cases s with
  | nil => simp
  | cons c s =>
    have := c.utf8Size_pos
    simp only [byteLen_cons, List.cons_ne_nil, iff_false]
    omega

/-- What a slice leaves is the front with so many bytes. -/
theorem sliceTo_eq_some {n : ℕ} {s t : List Char} : sliceTo n s = some t ↔ t <+: s ∧ byteLen t = n := by
  induction s generalizing n t with
  | nil =>
    cases n with
    | zero => rw [byteLen_eq_zero, sliceTo, Option.some_inj, List.prefix_nil, and_self, eq_comm]
    | succ n => simp +contextual [sliceTo]
  | cons c s ih =>
    have := c.utf8Size_pos
    cases n with
    | zero =>
      rw [byteLen_eq_zero, sliceTo, Option.some_inj, eq_comm]
      exact (and_iff_right_of_imp fun empty => empty ▸ List.nil_prefix).symm
    | succ n =>
      rw [sliceTo]
      split
      · rename_i fits
        rw [Option.map_eq_some_iff, List.prefix_cons_iff]
        constructor
        · rintro ⟨u, sliced, rfl⟩
          obtain ⟨pre, size⟩ := ih.mp sliced
          exact ⟨.inr ⟨u, rfl, pre⟩, by rw [byteLen_cons]; omega⟩
        · rintro ⟨rfl | ⟨u, rfl, pre⟩, size⟩
          · cases size
          · rw [byteLen_cons] at size
            exact ⟨u, ih.mpr ⟨pre, by omega⟩, rfl⟩
      · rename_i large
        simp only [reduceCtorEq, false_iff, not_and]
        intro pre size
        obtain rfl | ⟨u, rfl, -⟩ := List.prefix_cons_iff.mp pre
        · cases size
        · rw [byteLen_cons] at size
          omega

/-- There is no slice that ends inside a character. -/
theorem sliceTo_inside {n : ℕ} {s t : List Char} {c : Char} (start : byteLen s < n)
    (finish : n < byteLen s + c.utf8Size) : sliceTo n (s ++ c :: t) = none := by
  induction s generalizing n with
  | nil =>
    cases n with
    | zero => cases start
    | succ n =>
      rw [byteLen_nil, Nat.zero_add] at finish
      rw [List.nil_append, sliceTo, if_neg (Nat.not_le_of_lt finish)]
  | cons a s ih =>
    have := a.utf8Size_pos
    rw [byteLen_cons] at start finish
    cases n with
    | zero => cases start
    | succ n =>
      rw [List.cons_append, sliceTo, if_pos (by omega), ih (by omega) (by omega), Option.map_none]

/-! ## Trimming -/

variable (space : Char → Bool)

def trim (s : List Char) : List Char := (s.dropWhile space).rdropWhile space

variable {space}

theorem dropWhile_append_cons {c : Char} (solid : space c = false) (x y : List Char) :
    (x ++ c :: y).dropWhile space = x.dropWhile space ++ c :: y := by
  induction x with
  | nil => rw [List.nil_append, List.dropWhile_cons_of_neg (by simp [solid]), List.dropWhile_nil, List.nil_append]
  | cons a x ih =>
    rw [List.cons_append, List.dropWhile_cons, List.dropWhile_cons, ih]
    split <;> rfl

theorem rdropWhile_append_cons {c : Char} (solid : space c = false) (x y : List Char) :
    (x ++ c :: y).rdropWhile space = x ++ c :: y.rdropWhile space := by
  rw [List.rdropWhile, List.reverse_append, List.reverse_cons, List.append_assoc, List.singleton_append,
    dropWhile_append_cons solid]
  simp [List.rdropWhile]

/-- Around a character that stays, each side is trimmed at its end. -/
theorem trim_append_cons {c : Char} (solid : space c = false) (x y : List Char) :
    trim space (x ++ c :: y) = x.dropWhile space ++ c :: y.rdropWhile space := by
  rw [trim, dropWhile_append_cons solid, rdropWhile_append_cons solid]

theorem mem_of_mem_trim {c : Char} {s : List Char} (mem : c ∈ trim space s) : c ∈ s :=
  (List.dropWhile_sublist space).mem ((List.rdropWhile_prefix space _).mem mem)

end CharText
