import AstraSystem.InventoryService.Contiguity

/-!
# The ends of 32 bits

Sums are formed in 64 bits and checked against zero, but not against the bits that they are narrowed to.
-/

namespace InventoryService

/-- A delta is added exactly or refused. -/
def AppliesExactly (current delta : Int32) (typ : TransactionType) : Prop :=
  ∀ next, applyDelta current delta typ = .ok next →
    next.toInt = current.toInt + delta.toInt ∧ 0 ≤ next.toInt ∧ next.toInt ≤ 2 ^ 31 - 1

/-- The item and the delta of an `AdjustStock` that is accepted. -/
def acceptedDelta (uuid : UUIDText) (w : World) (a : Action) : Option ((UUID × UUID) × Int32) :=
  match a.call, Postgres.tx uuid w.db (w.env a) a.call with
  | .adjustStock storeID itemID delta .., .ok _ =>
    match parseStoreItem uuid storeID itemID with
    | .ok p => if a.env.fault.commits then some (p, delta) else none
    | .error _ => none
  | _, _ => none

/-- An accepted delta moves the level by as much. -/
def AddsExactly (uuid : UUIDText) (w : World) (a : Action) : Prop :=
  ∀ x ∈ acceptedDelta uuid w a, ((step uuid w a).db.runningBalance x.1.1 x.1.2).toInt =
    (w.db.runningBalance x.1.1 x.1.2).toInt + x.2.toInt

/-- The level it leads to fits. -/
def Fits (uuid : UUIDText) (w : World) (a : Action) : Prop :=
  ∀ x ∈ acceptedDelta uuid w a, w.db.Room x.1.1 x.1.2 x.2.toInt

theorem fits_iff {uuid : UUIDText} {w : World} {a : Action} : Fits uuid w a ↔
    (acceptedDelta uuid w a).all (fun x => w.db.Room x.1.1 x.1.2 x.2.toInt) = true := by
  unfold Fits
  cases acceptedDelta uuid w a with
  | none => exact iff_of_true (fun x hx => by cases hx) rfl
  | some x => simp

/-- Of the pairs of ids only the one at hand is tried. -/
instance decidableFits (uuid : UUIDText) (w : World) (a : Action) : Decidable (Fits uuid w a) :=
  decidable_of_iff _ fits_iff.symm

section
variable {uuid : UUIDText} {w : World} {a : Action} {current delta physical reserved : Int32} {typ : TransactionType}

/-! ## Single sums and differences -/

theorem bmod_eq_iff {n : ℤ} (nonneg : 0 ≤ n) (small : n < 2 ^ 32) : n.bmod (2 ^ 32) = n ↔ n < 2 ^ 31 := by
  constructor
  · intro same
    have := Int.bmod_lt (x := n) (m := 2 ^ 32) (by decide)
    omega
  · intro fits
    exact Int.bmod_eq_of_le (by omega) (by omega)

theorem appliesExactly_iff (current delta : Int32) (typ : TransactionType) :
    AppliesExactly current delta typ ↔ current.toInt + delta.toInt < 2 ^ 31 := by
  have := current.toInt_lt
  have := delta.toInt_lt
  constructor
  · intro exact
    by_cases negative : current.toInt + delta.toInt < 0
    · omega
    · have accepted : applyDelta current delta typ = .ok (.ofInt (current.toInt + delta.toInt)) :=
        applyDelta_eq_ok.mpr ⟨by omega, Int32.toInt_ofInt⟩
      have same := (exact _ accepted).1
      rw [Int32.toInt_ofInt] at same
      exact (bmod_eq_iff (by omega) (by omega)).mp same
  · intro fits next accepted
    have positive := (applyDelta_eq_ok.mp accepted).1
    have same := toInt_applyDelta accepted fits
    omega

theorem toInt_available_iff (nonneg : 0 ≤ reserved) :
    (available physical reserved).toInt = max 0 (physical.toInt - reserved.toInt) ↔
      -2 ^ 31 ≤ physical.toInt - reserved.toInt := by
  rw [Int32.le_iff_toInt_le, Int32.toInt_zero] at nonneg
  have := physical.le_toInt
  have := physical.toInt_lt
  have := reserved.toInt_lt
  by_cases low : -2 ^ 31 ≤ physical.toInt - reserved.toInt
  · have diff : (physical - reserved).toInt = physical.toInt - reserved.toInt := toInt_sub low (by omega)
    refine iff_of_true ?_ low
    unfold available
    simp only [Int32.lt_iff_toInt_lt, diff, Int32.toInt_zero]
    split
    · rw [Int32.toInt_zero]
      omega
    · omega
  · -- the difference comes out positive
    have diff : (physical - reserved).toInt = physical.toInt - reserved.toInt + 2 ^ 32 := by
      rw [Int32.toInt_sub, ← Int.add_bmod_right]
      exact Int.bmod_eq_of_le (by omega) (by omega)
    refine iff_of_false ?_ low
    unfold available
    simp only [Int32.lt_iff_toInt_lt, diff, Int32.toInt_zero]
    split <;> omega

/-! ## Histories -/

theorem mem_acceptedDelta {store item : UUID} (h : ((store, item), delta) ∈ acceptedDelta uuid w a) :
    ∃ row, NextRow w.db (w.env a).now ((w.env a).transactionIDs 0) store item delta row ∧
      (step uuid w a).db.transactions = w.db.transactions ++ [row] := by
  unfold acceptedDelta at h
  split at h
  · rename_i storeID itemID amount typ referenceID referenceType notes db' hcall htx
    split at h
    · rename_i p hp
      split at h
      · rename_i commits
        cases h
        rw [hcall] at htx
        obtain ⟨store', item', row, hp', next, -, writes, -⟩ := Postgres.adjustStockTx_eq_ok htx
        cases hp.symm.trans hp'
        refine ⟨row, next, ?_⟩
        have db : (step uuid w a).db = db' := by
          show (Postgres.call uuid w.db (w.env a) a.call).1 = db'
          rw [hcall]
          exact call_of_commits htx commits
        rw [db, writes]
      · cases h
    · cases h
  · cases h

/-- The next row of an item is the one that shows. -/
theorem toInt_runningBalance_next {db db' : DB} {now : Time} {id store item : UUID} {row : TransactionRow}
    (next : NextRow db now id store item delta row) (writes : db'.transactions = db.transactions ++ [row])
    (old : ∀ r ∈ db.transactions, r.createdAt < now) :
    (db'.runningBalance store item).toInt = ((db.runningBalance store item).toInt + delta.toInt).bmod (2 ^ 32) := by
  rw [db'.toInt_runningBalance, next.ledger writes, if_pos ⟨rfl, rfl⟩, RunningBalance.shown_concat, next.balance]
  intro r hr
  rw [next.stamp]
  exact stamp_lt (old r (List.mem_of_mem_filter hr)) id

theorem addsExactly_iff (past : w.Past) : AddsExactly uuid w a ↔ Fits uuid w a := by
  have later := lt_now w a
  refine forall₂_congr fun x hx => ?_
  obtain ⟨row, next, writes⟩ := mem_acceptedDelta hx
  obtain ⟨⟨store, item⟩, delta⟩ := x
  have most := (w.db.runningBalance store item).toInt_lt
  have most' := delta.toInt_lt
  rw [toInt_runningBalance_next next writes fun r hr => (past r hr).trans_lt later]
  exact bmod_eq_iff next.positive (by dsimp only; omega)

/-- In any history of calls, deltas are added exactly as long as they lead to levels that fit. -/
theorem eachStep_addsExactly_iff (uuid : UUIDText)
    (inventory : Table InventoryRow (UUID × UUID) InventoryRow.key) (acts : List Action) :
    Runs.EachStep (step uuid) (AddsExactly uuid) (.start inventory) acts ↔
      Runs.EachStep (step uuid) (Fits uuid) (.start inventory) acts :=
  Runs.eachStep_congr past_step (fun _ _ => addsExactly_iff) (sound_start inventory).past acts

end

/-- **Sums are exact or refused below 2^31, and differences from -2^31 on.** In any history of calls the
accepted deltas move the levels by as much exactly if each of them leads to a level that fits. -/
theorem exact_or_refused_iff (uuid : UUIDText) (inventory : Table InventoryRow (UUID × UUID) InventoryRow.key)
    (current delta physical reserved : Int32) (typ : TransactionType) (nonneg : 0 ≤ reserved) (acts : List Action) :
    (AppliesExactly current delta typ ↔ current.toInt + delta.toInt < 2 ^ 31) ∧
      ((available physical reserved).toInt = max 0 (physical.toInt - reserved.toInt) ↔
        -2 ^ 31 ≤ physical.toInt - reserved.toInt) ∧
      (Runs.EachStep (step uuid) (AddsExactly uuid) (.start inventory) acts ↔
        Runs.EachStep (step uuid) (Fits uuid) (.start inventory) acts) := by
  refine ⟨appliesExactly_iff current delta typ, toInt_available_iff nonneg, ?_⟩
  exact eachStep_addsExactly_iff uuid inventory acts

theorem exact_or_refused_ten :
    (AppliesExactly 10 5 .restock ↔ (10 : Int32).toInt + (5 : Int32).toInt < 2 ^ 31) ∧
      ((available 10 3).toInt = max 0 ((10 : Int32).toInt - (3 : Int32).toInt) ↔
        -2 ^ 31 ≤ (10 : Int32).toInt - (3 : Int32).toInt) ∧
      (Runs.EachStep (step .hyphenated) (AddsExactly .hyphenated) (.start stocked) [restock 10 10, restock 11 5] ↔
        Runs.EachStep (step .hyphenated) (Fits .hyphenated) (.start stocked) [restock 10 10, restock 11 5]) :=
  exact_or_refused_iff .hyphenated stocked 10 5 10 3 .restock (by decide) [restock 10 10, restock 11 5]

/-- One more than the greatest level is the least. -/
theorem greatest_level_wraps : applyDelta 2147483647 1 .restock = .ok (-2147483648) ∧
    available (-2147483648) 1 = 2147483647 ∧
    ¬ Runs.EachStep (step .hyphenated) (AddsExactly .hyphenated) (.start stocked)
      [restock 10 2147483647, restock 11 1] := by
  refine ⟨by decide, by decide, ?_⟩
  rw [eachStep_addsExactly_iff]
  decide +kernel

end InventoryService
