import AstraSystem.Lib.UUID

/-!
# The order of UUIDs and of their texts

Texts are compared at the first place where they differ. Digits of one length are in the order of the numbers,
and the hyphens stand at the same places.
-/

/-- `s < t` for strings. -/
def Text.less : List Char → List Char → Bool
  | _, [] => false
  | [], _ :: _ => true
  | x :: xs, y :: ys => if x = y then Text.less xs ys else x.toNat < y.toNat

namespace Text

variable {a b c d : List Char}

/-- Texts whose beginnings have one length are in the order of the beginnings, then of the rest. -/
theorem less_append (same : a.length = b.length) :
    less (a ++ c) (b ++ d) = if a = b then less c d else less a b := by
  induction a generalizing b with
  | nil => rw [List.length_eq_zero_iff.mp same.symm, if_pos rfl, List.nil_append, List.nil_append]
  | cons x a ih =>
    cases b with
    | nil => cases same
    | cons y b =>
      rw [List.cons_append, List.cons_append, less, less, ih (Nat.succ.inj same)]
      by_cases front : x = y <;> simp [front]

end Text

namespace UUIDText

theorem length_digits (k n : ℕ) : (digits k n).length = k := by
  induction k generalizing n with
  | zero => rfl
  | succ k ih => rw [digits, List.length_append, ih, List.length_singleton]

theorem digits_eq {k m n : ℕ} : digits k m = digits k n ↔ m % 16 ^ k = n % 16 ^ k := by
  constructor
  · intro h
    rw [← value_digits, h, value_digits]
  · intro h
    induction k generalizing m n with
    | zero => rfl
    | succ k ih =>
      rw [pow_succ, Nat.mul_comm, Nat.mod_mul, Nat.mod_mul] at h
      have hm := Nat.mod_lt m (show 0 < 16 by decide)
      have hn := Nat.mod_lt n (show 0 < 16 by decide)
      have last : m % 16 = n % 16 := by omega
      rw [digits, digits, last, ih (show m / 16 % 16 ^ k = n / 16 % 16 ^ k by omega)]

theorem less_hexDigit : ∀ m < 16, ∀ n < 16,
    Text.less [Bytes.hexDigit m] [Bytes.hexDigit n] = decide (m < n) := by decide

theorem less_digits (k m n : ℕ) : Text.less (digits k m) (digits k n) = decide (m % 16 ^ k < n % 16 ^ k) := by
  induction k generalizing m n with
  | zero => simp [digits, Text.less, Nat.mod_one]
  | succ k ih =>
    have hm := Nat.mod_lt m (show 0 < 16 by decide)
    have hn := Nat.mod_lt n (show 0 < 16 by decide)
    rw [digits, digits, Text.less_append (by rw [length_digits, length_digits]), ih, less_hexDigit _ hm _ hn,
      pow_succ, Nat.mul_comm, Nat.mod_mul, Nat.mod_mul]
    split
    · rename_i same
      have rest := digits_eq.mp same
      exact decide_eq_decide.mpr (by omega)
    · rename_i differ
      have rest : ¬ m / 16 % 16 ^ k = n / 16 % 16 ^ k := fun h => differ (digits_eq.mpr h)
      exact decide_eq_decide.mpr (by omega)

/-- The hyphens change no comparison. -/
theorem less_hyphenate {cs ds : List Char} (same : cs.length = ds.length) :
    Text.less (hyphenate cs) (hyphenate ds) = Text.less cs ds := by
  have part (m k : ℕ) : ((cs.drop m).take k).length = ((ds.drop m).take k).length := by
    simp [same]
  have join (l : List Char) (m k : ℕ) : l.drop m = (l.drop m).take k ++ l.drop (m + k) := by
    rw [← List.drop_drop, List.take_append_drop]
  have split (m k : ℕ) : Text.less (cs.drop m) (ds.drop m) =
      if (cs.drop m).take k = (ds.drop m).take k then Text.less (cs.drop (m + k)) (ds.drop (m + k))
      else Text.less ((cs.drop m).take k) ((ds.drop m).take k) := by
    rw [join cs m k, join ds m k, Text.less_append (part m k), ← join cs m k, ← join ds m k]
  have hyphen (x y : List Char) : Text.less ('-' :: x) ('-' :: y) = Text.less x y := by rw [Text.less, if_pos rfl]
  have whole : Text.less cs ds = Text.less (cs.drop 0) (ds.drop 0) := rfl
  rw [whole, split 0 8, split 8 4, split 12 4, split 16 4]
  rw [hyphenate, hyphenate, Text.less_append (by simpa using part 0 8), hyphen, Text.less_append (part 8 4), hyphen,
    Text.less_append (part 12 4), hyphen, Text.less_append (part 16 4), hyphen]
  rfl

/-- What else is known of the texts: they are in the order of the numbers, and hold no slash. -/
structure Canonical (uuid : UUIDText) : Prop extends uuid.Lawful where
  less_iff : ∀ u v, Text.less (uuid.string u).toList (uuid.string v).toList = true ↔ u < v
  no_slash : ∀ u, '/' ∉ (uuid.string u).toList

theorem canonical_hyphenated : hyphenated.Canonical where
  toLawful := lawful_hyphenated
  less_iff u v := by
    have room : (16 : ℕ) ^ 32 = 2 ^ 128 := by norm_num
    rw [hyphenated, String.toList_ofList, String.toList_ofList,
      less_hyphenate (by rw [length_digits, length_digits]), less_digits, room, Nat.mod_eq_of_lt u.isLt,
      Nat.mod_eq_of_lt v.isLt, decide_eq_true_eq]
    exact Fin.lt_def.symm
  no_slash := not_mem_hyphenated (by decide) (by decide)

end UUIDText
