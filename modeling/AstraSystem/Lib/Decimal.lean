import Mathlib.Data.Int.Basic

/-!
# Decimal text

An integer in base ten, printed and read back as Go's `strconv` does it.
-/

namespace Decimal

def format (n : ℤ) : String := toString n

/-- Digits alone, and at least one. -/
def parseDigits (digits : List Char) : Option ℕ :=
  if digits ≠ [] ∧ digits.all Char.isDigit then some (Nat.ofDigitChars 10 digits 0) else none

/-- A sign may come before the digits. -/
def parse (s : String) : Option ℤ :=
  match s.toList with
  | '-' :: digits => (parseDigits digits).map fun n => -(n : ℤ)
  | '+' :: digits => (parseDigits digits).map fun n => (n : ℤ)
  | digits => (parseDigits digits).map fun n => (n : ℤ)

theorem parseDigits_toDigits (n : ℕ) : parseDigits (Nat.toDigits 10 n) = some n := by
  have digits : (Nat.toDigits 10 n).all Char.isDigit := by
    rw [List.all_eq_true]
    exact fun c hc => Nat.isDigit_of_mem_toDigits (by decide) (by decide) hc
  rw [parseDigits, if_pos ⟨Nat.toDigits_ne_nil, digits⟩, Nat.ofDigitChars_ten_toDigits]

theorem toList_format_negSucc (n : ℕ) :
    (format (.negSucc n)).toList = '-' :: Nat.toDigits 10 (n + 1) := by
  rw [format, Int.toString_eq_repr, Int.repr, String.toList_append, ← Nat.toList_repr]
  rfl

theorem toList_format_ofNat (n : ℕ) : (format (.ofNat n)).toList = Nat.toDigits 10 n := Nat.toList_repr

theorem parse_format (n : ℤ) : parse (format n) = some n := by
  cases n with
  | negSucc n =>
    rw [parse, toList_format_negSucc]
    simp only [parseDigits_toDigits]
    rfl
  | ofNat n =>
    have digit (c : Char) (hc : c ∈ Nat.toDigits 10 n) : c ≠ '-' ∧ c ≠ '+' := by
      have h := Nat.isDigit_of_mem_toDigits (by decide) (by decide) hc
      constructor <;> rintro rfl <;> exact absurd h (by decide)
    rw [parse, toList_format_ofNat]
    split
    · rename_i digits heq
      exact absurd rfl (digit '-' (heq ▸ List.mem_cons_self)).1
    · rename_i digits heq
      exact absurd rfl (digit '+' (heq ▸ List.mem_cons_self)).2
    · rw [parseDigits_toDigits]
      rfl

theorem format_injective : Function.Injective format := by
  intro n m h
  have same := parse_format n
  rw [h, parse_format m] at same
  exact (Option.some.inj same).symm

theorem not_mem_format {c : Char} (digit : c.isDigit = false) (minus : c ≠ '-') (n : ℤ) :
    c ∉ (format n).toList := by
  have digits (n : ℕ) : c ∉ Nat.toDigits 10 n := by
    intro hc
    have h := Nat.isDigit_of_mem_toDigits (by decide) (by decide) hc
    rw [digit] at h
    cases h
  cases n with
  | negSucc n =>
    rw [toList_format_negSucc, List.mem_cons, not_or]
    exact ⟨minus, digits _⟩
  | ofNat n =>
    rw [toList_format_ofNat]
    exact digits n

end Decimal
