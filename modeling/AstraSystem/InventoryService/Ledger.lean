import Mathlib.Algebra.Order.Ring.Int
import Mathlib.Data.Int.Basic

/-!
# Insert-only inventory arithmetic (`ledger/ledger.go`)

Go's `int32` is `Int32` and its `int` is `Int64`.
-/

namespace InventoryService

inductive TransactionType where
  | unspecified
  | sale
  | restock
  | adjustment
  | reserved
  | released
  | waste
  | returned
  /-- A number the generated code has no name for. -/
  | unrecognized (number : Int32)
  deriving DecidableEq, Repr

def TransactionType.string : TransactionType → String
  | .unspecified => "INVENTORY_TRANSACTION_TYPE_UNSPECIFIED"
  | .sale => "INVENTORY_TRANSACTION_TYPE_SALE"
  | .restock => "INVENTORY_TRANSACTION_TYPE_RESTOCK"
  | .adjustment => "INVENTORY_TRANSACTION_TYPE_ADJUSTMENT"
  | .reserved => "INVENTORY_TRANSACTION_TYPE_RESERVED"
  | .released => "INVENTORY_TRANSACTION_TYPE_RELEASED"
  | .waste => "INVENTORY_TRANSACTION_TYPE_WASTE"
  | .returned => "INVENTORY_TRANSACTION_TYPE_RETURN"
  | .unrecognized number => toString number

structure Stock where
  storeID : String := ""
  itemID : String := ""
  inventoryID : String := ""
  quantityAvailable : Int32 := 0
  quantityReserved : Int32 := 0
  quantityOnOrder : Int32 := 0
  reorderPoint : Int32 := 0
  reorderQuantity : Int32 := 0
  location : String := ""
  deriving DecidableEq, Repr

def available (physical reserved : Int32) : Int32 :=
  let available := physical - reserved
  if available < 0 then 0 else available

def applyDelta (current delta : Int32) (typ : TransactionType) : Except String Int32 :=
  let next := current.toInt64 + delta.toInt64
  if next < 0 then
    .error s!"ledger: {typ.string} delta {delta} would drive balance to {next}"
  else .ok next.toInt32

/-- A sum that fits does not wrap. -/
theorem toInt_add {x y : Int32} (low : -2 ^ 31 ≤ x.toInt + y.toInt)
    (high : x.toInt + y.toInt < 2 ^ 31) : (x + y).toInt = x.toInt + y.toInt := by
  rw [Int32.toInt_add]
  exact Int.bmod_eq_of_le (by omega) (by omega)

theorem toInt_sub {x y : Int32} (low : -2 ^ 31 ≤ x.toInt - y.toInt)
    (high : x.toInt - y.toInt < 2 ^ 31) : (x - y).toInt = x.toInt - y.toInt := by
  rw [Int32.toInt_sub]
  exact Int.bmod_eq_of_le (by omega) (by omega)

theorem toInt_available {physical reserved : Int32} (hp : 0 ≤ physical.toInt)
    (hr : 0 ≤ reserved.toInt) :
    (available physical reserved).toInt = max 0 (physical.toInt - reserved.toInt) := by
  have most := physical.toInt_lt
  have most' := reserved.toInt_lt
  have diff : (physical - reserved).toInt = physical.toInt - reserved.toInt :=
    toInt_sub (by omega) (by omega)
  unfold available
  simp only [Int32.lt_iff_toInt_lt, diff, Int32.toInt_zero]
  split
  · rw [Int32.toInt_zero]
    omega
  · rw [diff]
    omega

theorem toInt_next (current delta : Int32) :
    (current.toInt64 + delta.toInt64).toInt = current.toInt + delta.toInt := by
  have := current.toInt_lt
  have := current.le_toInt
  have := delta.toInt_lt
  have := delta.le_toInt
  rw [Int64.toInt_add, Int32.toInt_toInt64, Int32.toInt_toInt64]
  exact Int.bmod_eq_of_le (by omega) (by omega)

/-- A delta is applied when the sum is not negative, and then wraps at 32 bits. -/
theorem applyDelta_eq_ok {current delta next : Int32} {typ : TransactionType} :
    applyDelta current delta typ = .ok next ↔
      0 ≤ current.toInt + delta.toInt ∧
        next.toInt = (current.toInt + delta.toInt).bmod (2 ^ 32) := by
  unfold applyDelta
  simp only [Int64.lt_iff_toInt_lt, toInt_next, Int64.toInt_zero]
  split
  · rename_i negative
    constructor
    · intro h
      cases h
    · intro h
      exact absurd h.1 (not_le.mpr negative)
  · rename_i positive
    rw [Except.ok.injEq, ← Int32.toInt_inj, Int64.toInt_toInt32, toInt_next]
    constructor
    · intro h
      exact ⟨not_lt.mp positive, h.symm⟩
    · intro h
      exact h.2.symm

/-- A sum that fits is the next balance. -/
theorem toInt_applyDelta {current delta next : Int32} {typ : TransactionType}
    (h : applyDelta current delta typ = .ok next) (fits : current.toInt + delta.toInt < 2 ^ 31) :
    next.toInt = current.toInt + delta.toInt := by
  obtain ⟨positive, wraps⟩ := applyDelta_eq_ok.mp h
  rw [wraps]
  exact Int.bmod_eq_of_le (by omega) (by omega)

end InventoryService
