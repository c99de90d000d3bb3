import Mathlib.Algebra.BigOperators.Group.List.Basic
import Mathlib.Algebra.Order.Ring.Int
import Mathlib.Data.List.MinMax

/-!
# Ledgers that carry a running balance

Each row has a stamp, an amount, and the balance it was written with. The
balance of the ledger is read off the row with the greatest stamp.
-/

namespace RunningBalance

variable {R S : Type*} [LinearOrder S] (stamp : R → S) (delta balance : R → ℤ)

def latest (rows : List R) : Option R := rows.argmax stamp

/-- The balance the ledger shows. -/
def shown (rows : List R) : ℤ := (latest stamp rows).elim 0 balance

def Contiguous (rows : List R) : Prop := shown stamp balance rows = (rows.map delta).sum

variable {stamp delta balance} {rows : List R} {r : R}

theorem contiguous_nil : Contiguous stamp delta balance [] := rfl

theorem latest_concat (newest : ∀ x ∈ rows, stamp x < stamp r) :
    latest stamp (rows ++ [r]) = some r := by
  rw [latest, List.argmax_concat]
  cases h : rows.argmax stamp with
  | none => rfl
  | some x => exact if_pos (newest x (List.argmax_mem h))

/-- What is newer than the latest row is newer than all. -/
theorem lt_of_latest {s : S} (newer : ∀ x ∈ latest stamp rows, stamp x < s) :
    ∀ x ∈ rows, stamp x < s := by
  intro x hx
  cases h : rows.argmax stamp with
  | none => exact absurd (List.argmax_eq_none.mp h ▸ hx) List.not_mem_nil
  | some top => exact (List.le_of_mem_argmax hx h).trans_lt (newer top h)

theorem shown_concat (newest : ∀ x ∈ rows, stamp x < stamp r) :
    shown stamp balance (rows ++ [r]) = balance r := by
  rw [shown, latest_concat newest]
  rfl

/-- A newest row with the next balance keeps the ledger contiguous. -/
theorem contiguous_concat (h : Contiguous stamp delta balance rows)
    (newest : ∀ x ∈ rows, stamp x < stamp r)
    (next : balance r = shown stamp balance rows + delta r) :
    Contiguous stamp delta balance (rows ++ [r]) := by
  rw [Contiguous, shown_concat newest, next, h, List.map_append, List.sum_append,
    List.map_singleton, List.sum_singleton]

end RunningBalance
