import AstraSystem.Lib.Runs
import Mathlib.Algebra.Ring.Int.Defs

/-!
# Cart totals on the kiosk (`computeTotals.ts`, `useCartTotals.ts`, `totals.worker.ts`)

Small carts are computed while rendering, large ones by a worker whose last answer stays in the hook. A large cart is
shown with the totals of whatever request was answered last.
-/

namespace CartEngine

/-! ## Totals -/

structure Modifier (N : Type*) where
  priceDeltaCents : N

structure CartLineItem (N : Type*) where
  quantity : N
  unitPriceCentsSnapshot : N
  modifiers : List (Modifier N)

inductive BreakdownKind where
  | tax
  | discount
  | fee
  | loyalty
  deriving DecidableEq, Repr

structure BreakdownEntry (N : Type*) where
  label : String
  amountCents : N
  kind : BreakdownKind
  deriving DecidableEq

structure CartTotals (N : Type*) where
  subtotalCents : N
  discountCents : N
  taxCents : N
  environmentalFeeCents : N
  loyaltyDiscountCents : N
  totalCents : N
  breakdown : List (BreakdownEntry N)
  deriving DecidableEq

/-- The three rates of the source: what an item costs, and the rounded products. -/
structure Rates (N : Type*) where
  environmentalFeePerItemCents : N
  loyaltyDiscount : N → N
  salesTax : N → N

section
variable {N : Type*} [Add N] [Sub N] [Mul N] [Neg N] [Zero N] [LT N] [DecidableLT N]

/-- Nothing is assumed of the numbers and their operations. -/
def computeCartTotals (rates : Rates N) (lines : List (CartLineItem N)) (hasLoyaltyAccount : Bool) :
    CartTotals N :=
  let subtotalCents := lines.foldl (fun sum line =>
    let modifiersTotal := line.modifiers.foldl (fun m mod => m + mod.priceDeltaCents) 0
    sum + line.quantity * (line.unitPriceCentsSnapshot + modifiersTotal)) 0
  let itemCount := lines.foldl (fun sum line => sum + line.quantity) 0
  let environmentalFeeCents := itemCount * rates.environmentalFeePerItemCents
  let loyaltyDiscountCents := if hasLoyaltyAccount then rates.loyaltyDiscount subtotalCents else 0
  let taxableBase := subtotalCents - loyaltyDiscountCents
  let taxCents := rates.salesTax taxableBase
  let totalCents := subtotalCents - loyaltyDiscountCents + taxCents + environmentalFeeCents
  let breakdown := [⟨"Subtotal", subtotalCents, .fee⟩] ++
    (if 0 < loyaltyDiscountCents then [⟨"Loyalty discount (5%)", -loyaltyDiscountCents, .loyalty⟩] else []) ++
    [⟨"Sales tax (Miami-Dade, 7%)", taxCents, .tax⟩] ++
    if 0 < environmentalFeeCents then [⟨"Environmental fee", environmentalFeeCents, .fee⟩] else []
  { subtotalCents, discountCents := loyaltyDiscountCents, taxCents, environmentalFeeCents, loyaltyDiscountCents,
    totalCents, breakdown }

/-! ## The hook -/

def workerOffloadThreshold : ℕ := 25

def complexity (lines : List (CartLineItem N)) : ℕ := lines.foldl (fun sum l => sum + 1 + l.modifiers.length) 0

/-- What a render passes: a reference to lines, which never change, and the flag. -/
structure Args (R : Type*) where
  lines : R
  hasLoyaltyAccount : Bool
  deriving DecidableEq

/-- `listener` is the request that the effect listens for, `deps` are the arguments that it ran with, and `pending`
those that it has yet to run with. The requests of the worker are numbered. The source has no `answered`: it is the
request whose totals are in `workerTotals`. -/
structure Hook (N R : Type*) where
  workerTotals : Option (CartTotals N) := none
  listener : Option ℕ := none
  deps : Option (Args R) := none
  pending : Option (Args R) := none
  requests : List (Args R) := []
  answered : Option (Args R) := none

inductive Act (R : Type*) where
  /-- A render, after which effects are due if it is committed. -/
  | render (args : Args R) (committed : Bool)
  | effects
  /-- The answer of the worker to a request arrives. -/
  | reply (requestId : ℕ)
  | unmount

variable {R : Type*} [DecidableEq R] (rates : Rates N) (lines : R → List (CartLineItem N))

/-- The totals of the arguments, which the worker answers with too. -/
def totals (args : Args R) : CartTotals N := computeCartTotals rates (lines args.lines) args.hasLoyaltyAccount

def Large (args : Args R) : Prop := workerOffloadThreshold < complexity (lines args.lines)

instance Large.decidable (args : Args R) : Decidable (Large lines args) := Nat.decLt _ _

/-- What a render returns. Its memo is keyed by the arguments, so it is what they give. -/
def useCartTotals (s : Hook N R) (args : Args R) : CartTotals N :=
  match s.workerTotals with
  | some workerTotals => if Large lines args then workerTotals else totals rates lines args
  | none => totals rates lines args

/-- The effect runs if its dependencies have changed: the old listener goes, and a large cart is sent to the worker. -/
def runEffects (s : Hook N R) : Hook N R :=
  match s.pending with
  | none => s
  | some args =>
    if s.deps = some args then { s with pending := none }
    else if Large lines args then
      { s with pending := none, deps := some args, listener := some s.requests.length, requests := s.requests ++ [args] }
    else { s with pending := none, deps := some args, listener := none }

/-- Effects that are due run before the next render. -/
def step (s : Hook N R) : Act R → Hook N R
  | .render args committed => { runEffects lines s with pending := if committed then some args else none }
  | .effects => runEffects lines s
  | .reply requestId =>
    match s.requests[requestId]? with
    | none => s
    | some args =>
      if s.listener = some requestId then
        { s with workerTotals := some (totals rates lines args), answered := some args }
      else s
  | .unmount => {}

/-! ## What is shown -/

/-- A render returns the totals of its own arguments. -/
def Fresh (s : Hook N R) : Act R → Prop
  | .render args _ => useCartTotals rates lines s args = totals rates lines args
  | .effects | .reply _ | .unmount => True

/-- The cart is small, or the request that was answered last has the same totals. -/
def Current (s : Hook N R) : Act R → Prop
  | .render args _ => Large lines args → ∀ old ∈ s.answered, totals rates lines old = totals rates lines args
  | .effects | .reply _ | .unmount => True

section
variable {rates} {lines} {s : Hook N R}

omit [Add N] [Sub N] [Mul N] [Neg N] [Zero N] [LT N] [DecidableLT N] in
theorem runEffects_kept (s : Hook N R) : (runEffects lines s).workerTotals = s.workerTotals ∧
    (runEffects lines s).answered = s.answered := by
  unfold runEffects
  split
  · exact ⟨rfl, rfl⟩
  · split
    · exact ⟨rfl, rfl⟩
    · split <;> exact ⟨rfl, rfl⟩

/-- What the hook keeps are the totals of the request that was answered last. -/
theorem workerTotals_step (h : s.workerTotals = s.answered.map (totals rates lines)) (a : Act R) :
    (step rates lines s a).workerTotals = (step rates lines s a).answered.map (totals rates lines) := by
  have ⟨kept, answered⟩ : (runEffects lines s).workerTotals = s.workerTotals ∧
      (runEffects lines s).answered = s.answered := runEffects_kept s
  cases a with
  | render args committed =>
    show (runEffects lines s).workerTotals = (runEffects lines s).answered.map _
    rw [kept, answered, h]
  | effects =>
    show (runEffects lines s).workerTotals = (runEffects lines s).answered.map _
    rw [kept, answered, h]
  | reply requestId =>
    simp only [step]
    split
    · exact h
    · split
      · rfl
      · exact h
  | unmount => rfl

omit [DecidableEq R] in
theorem fresh_iff (h : s.workerTotals = s.answered.map (totals rates lines)) (a : Act R) :
    Fresh rates lines s a ↔ Current rates lines s a := by
  cases a with
  | render args committed =>
    unfold Fresh Current useCartTotals
    rw [h]
    cases s.answered with
    | none => simp
    | some old => by_cases large : Large lines args <;> simp [large]
  | effects | reply | unmount => exact Iff.rfl

/-- The answer to the effect's own request makes renders with its arguments fresh. -/
theorem fresh_of_reply {requestId : ℕ} {args : Args R} (asked : s.requests[requestId]? = some args)
    (listens : s.listener = some requestId) (committed : Bool) :
    Fresh rates lines (step rates lines s (.reply requestId)) (.render args committed) := by
  simp only [Fresh, useCartTotals, step, asked, listens, ↓reduceIte]
  split <;> rfl

end

/-- **Totals are those of the request that was answered last.** In a run of the hook the renders return the totals of
their own arguments exactly if each is of a small cart, comes before any answer, or has the totals of the request
whose answer was taken last. -/
theorem shown_totals (rates : Rates N) (lines : R → List (CartLineItem N)) (acts : List (Act R)) :
    Runs.EachStep (step rates lines) (Fresh rates lines) {} acts ↔
      Runs.EachStep (step rates lines) (Current rates lines) {} acts :=
  Runs.eachStep_congr (fun _ a h => workerTotals_step h a) (fun _ a h => fresh_iff h a) rfl acts

end

namespace Catering

/-- An item with 25 modifiers, and its second order. -/
def order (quantity : ℕ) : List (CartLineItem ℤ) := [⟨quantity, 1000, List.replicate 25 ⟨10⟩⟩]

/-- Rates that round whole cents half up. -/
def rates : Rates ℤ := ⟨5, fun cents => (cents * 5 + 50) / 100, fun cents => (cents * 7 + 50) / 100⟩

/-- The answer for one item is taken, and then there are two. -/
def orders : List (Act ℕ) :=
  [.render ⟨1, false⟩ true, .effects, .reply 0, .render ⟨1, false⟩ true, .render ⟨2, false⟩ true]

def shown : Hook ℤ ℕ := Runs.run (step rates order) {} (orders.take 4)

theorem totals_stale : (useCartTotals rates order shown ⟨2, false⟩).totalCents = 1343 ∧
    (totals rates order ⟨2, false⟩).totalCents = 2685 ∧
    ¬ Runs.EachStep (step rates order) (Fresh rates order) {} orders := by
  have stale : (useCartTotals rates order shown ⟨2, false⟩).totalCents = 1343 := by decide +kernel
  have own : (totals rates order ⟨2, false⟩).totalCents = 2685 := by decide +kernel
  refine ⟨stale, own, ?_⟩
  rintro ⟨-, -, -, -, last, -⟩
  have same : useCartTotals rates order shown ⟨2, false⟩ = totals rates order ⟨2, false⟩ := last
  rw [same, own] at stale
  exact absurd stale (by decide)

end Catering

end CartEngine
