import Mathlib.Algebra.BigOperators.Group.List.Basic
import AstraSystem.CartEngine.UseCartTotals

/-!
# The printed breakdown

The total counts the discount and the fee whatever their signs, but only those above zero have a row.
-/

namespace CartEngine

def CartLineItem.cents (line : CartLineItem ℤ) : ℤ :=
  line.quantity * (line.unitPriceCentsSnapshot + (line.modifiers.map Modifier.priceDeltaCents).sum)

/-- What the lines cost before any discount. -/
def subtotal (lines : List (CartLineItem ℤ)) : ℤ := (lines.map CartLineItem.cents).sum

def itemCount (lines : List (CartLineItem ℤ)) : ℤ := (lines.map CartLineItem.quantity).sum

def breakdownSum (t : CartTotals ℤ) : ℤ := (t.breakdown.map BreakdownEntry.amountCents).sum

/-- The rows sum to the total, and the total is the sum of the fields. -/
structure AddsUp (t : CartTotals ℤ) : Prop where
  rows : breakdownSum t = t.totalCents
  fields : t.totalCents = t.subtotalCents - t.discountCents + t.taxCents + t.environmentalFeeCents

section
variable (rates : Rates ℤ) (lines : List (CartLineItem ℤ)) (hasLoyaltyAccount : Bool)

theorem foldl_add_eq_sum {A : Type*} (f : A → ℤ) (l : List A) (z : ℤ) :
    l.foldl (fun sum x => sum + f x) z = z + (l.map f).sum := by
  induction l generalizing z with
  | nil => exact (add_zero z).symm
  | cons x l ih => rw [List.foldl_cons, ih, List.map_cons, List.sum_cons, add_assoc]

theorem subtotalCents_eq : (computeCartTotals rates lines hasLoyaltyAccount).subtotalCents = subtotal lines := by
  have modifiers (line : CartLineItem ℤ) : line.modifiers.foldl (fun m mod => m + mod.priceDeltaCents) 0 =
      (line.modifiers.map Modifier.priceDeltaCents).sum := (foldl_add_eq_sum _ _ 0).trans (zero_add _)
  show lines.foldl (fun sum line => sum + line.quantity * (line.unitPriceCentsSnapshot +
    line.modifiers.foldl (fun m mod => m + mod.priceDeltaCents) 0)) 0 = _
  simp only [modifiers]
  exact (foldl_add_eq_sum CartLineItem.cents lines 0).trans (zero_add _)

theorem environmentalFeeCents_eq : (computeCartTotals rates lines hasLoyaltyAccount).environmentalFeeCents =
    itemCount lines * rates.environmentalFeePerItemCents := by
  show lines.foldl (fun sum line => sum + line.quantity) 0 * _ = _
  rw [foldl_add_eq_sum CartLineItem.quantity, zero_add]
  rfl

theorem discountCents_eq : (computeCartTotals rates lines hasLoyaltyAccount).discountCents =
    if hasLoyaltyAccount then rates.loyaltyDiscount (subtotal lines) else 0 := by
  rw [← subtotalCents_eq rates lines hasLoyaltyAccount]
  rfl

theorem totalCents_eq : (computeCartTotals rates lines hasLoyaltyAccount).totalCents =
    (computeCartTotals rates lines hasLoyaltyAccount).subtotalCents -
      (computeCartTotals rates lines hasLoyaltyAccount).discountCents +
      (computeCartTotals rates lines hasLoyaltyAccount).taxCents +
      (computeCartTotals rates lines hasLoyaltyAccount).environmentalFeeCents := rfl

/-- A row is left out where its amount is not above zero. -/
theorem breakdownSum_eq : breakdownSum (computeCartTotals rates lines hasLoyaltyAccount) =
    (computeCartTotals rates lines hasLoyaltyAccount).subtotalCents -
      max 0 (computeCartTotals rates lines hasLoyaltyAccount).discountCents +
      (computeCartTotals rates lines hasLoyaltyAccount).taxCents +
      max 0 (computeCartTotals rates lines hasLoyaltyAccount).environmentalFeeCents := by
  have row (kind : BreakdownKind) (label : String) (basis amount : ℤ) :
      ((if 0 < basis then [(⟨label, amount, kind⟩ : BreakdownEntry ℤ)] else []).map BreakdownEntry.amountCents).sum =
        if 0 < basis then amount else 0 := by
    by_cases shown : 0 < basis
    · rw [if_pos shown, if_pos shown]
      exact add_zero amount
    · rw [if_neg shown, if_neg shown]
      rfl
  generalize totals : computeCartTotals rates lines hasLoyaltyAccount = t
  have rows : t.breakdown = [⟨"Subtotal", t.subtotalCents, .fee⟩] ++
      (if 0 < t.discountCents then [⟨"Loyalty discount (5%)", -t.discountCents, .loyalty⟩] else []) ++
      [⟨"Sales tax (Miami-Dade, 7%)", t.taxCents, .tax⟩] ++
      if 0 < t.environmentalFeeCents then [⟨"Environmental fee", t.environmentalFeeCents, .fee⟩] else [] := by
    rw [← totals]
    rfl
  simp only [breakdownSum, rows, List.map_append, List.sum_append, row, List.map_cons, List.map_nil, List.sum_cons,
    List.sum_nil]
  split <;> split <;> omega

/-- **The rows sum to the total exactly if what the left out rows would say cancels**: without a
loyalty account if the item count is not negative, and with one if neither it nor the rounded
discount is, or both take the same off the total. -/
theorem addsUp_iff : AddsUp (computeCartTotals rates lines hasLoyaltyAccount) ↔
    min 0 (if hasLoyaltyAccount then rates.loyaltyDiscount (subtotal lines) else 0) =
      min 0 (itemCount lines * rates.environmentalFeePerItemCents) := by
  rw [← discountCents_eq rates lines hasLoyaltyAccount, ← environmentalFeeCents_eq rates lines hasLoyaltyAccount]
  have rows := breakdownSum_eq rates lines hasLoyaltyAccount
  have fields := totalCents_eq rates lines hasLoyaltyAccount
  constructor
  · intro h
    have same := h.rows
    omega
  · intro same
    exact ⟨by omega, fields⟩

end

namespace Catering

/-- A coupon takes six off an item of one. -/
def coupon : List (CartLineItem ℤ) := [⟨1, 100, [⟨-600⟩]⟩]

theorem coupon_differs : breakdownSum (computeCartTotals rates coupon true) = -528 ∧
    (computeCartTotals rates coupon true).totalCents = -503 ∧ ¬ AddsUp (computeCartTotals rates coupon true) := by
  have rows : breakdownSum (computeCartTotals rates coupon true) = -528 := by decide +kernel
  have total : (computeCartTotals rates coupon true).totalCents = -503 := by decide +kernel
  refine ⟨rows, total, fun h => ?_⟩
  have same := h.rows
  rw [rows, total] at same
  exact absurd same (by decide)

end Catering

end CartEngine
