import Mathlib.Algebra.Ring.Int.Defs
import Mathlib.Data.List.Basic

/-!
# Statements of a database

What a statement takes for its columns, and what may become of it.
-/

namespace Postgres

/-- What becomes of a statement; its reply may be lost. -/
inductive Outcome where
  | committed
  | failed (err : String)
  | lost (err : String)
  deriving DecidableEq

namespace Outcome

def applies : Outcome → Bool
  | .committed | .lost _ => true
  | .failed _ => false

def reply (context : String) : Outcome → Except String Unit
  | .committed => .ok ()
  | .failed err | .lost err => .error (context ++ err)

theorem reply_eq_ok {context : String} {outcome : Outcome} : outcome.reply context = .ok () ↔ outcome = .committed := by
  cases outcome <;> simp [reply]

end Outcome

/-- A value for a column `VARCHAR(n)`: blanks too many are cut off. -/
def varchar (n : ℕ) (s : String) : Except String String :=
  if Char.ofNat 0 ∈ s.toList then .error "invalid byte sequence for encoding \"UTF8\": 0x00"
  else if s.length ≤ n then .ok s
  else if (s.toList.drop n).all (· = ' ') then .ok (String.ofList (s.toList.take n))
  else .error ("value too long for type character varying(" ++ toString n ++ ")")

theorem varchar_of_noBlank {n : ℕ} {s s' : String} (noBlank : ' ' ∉ s.toList) (h : varchar n s = .ok s') : s' = s := by
  unfold varchar at h
  split at h
  · cases h
  · split at h
    · exact (Except.ok.inj h).symm
    · rename_i long
      split at h
      · rename_i blank
        -- A character too many would be a blank of the text.
        have rest : s.toList.drop n ≠ [] := by
          rw [ne_eq, List.drop_eq_nil_iff, String.length_toList]
          exact long
        obtain ⟨char, mem⟩ := List.exists_mem_of_ne_nil _ rest
        have same := of_decide_eq_true (List.all_eq_true.mp blank char mem)
        exact absurd (same ▸ List.mem_of_mem_drop mem) noBlank
      · cases h

/-- A value for a column `INTEGER`. -/
def integer (n : Int64) : Except String ℤ :=
  if -2 ^ 31 ≤ n.toInt ∧ n.toInt < 2 ^ 31 then .ok n.toInt else .error "integer out of range"

/-- A value for a column `TIMESTAMPTZ`, of an instant in nanoseconds. -/
def microseconds (nanoseconds : ℤ) : ℤ := nanoseconds / 1000

end Postgres
