import Mathlib.Algebra.Order.BigOperators.Group.List
import AstraSystem.InventoryService.Memory

/-!
# What the in-memory repository shows

One predicate gives the numbers of the listed items and the reservations, and
each method is described by what it does to them.
-/

namespace InventoryService

/-- What a reservation in memory holds of an item. -/
def Reservation.held (uuid : UUIDText) (s i : UUID) (r : Reservation) : ℤ :=
  if r.storeID = uuid.string s ∧ r.itemID = uuid.string i then r.quantity.toInt else 0

/-- The stock of the listed items and the reservations, in numbers. -/
structure MemoryRepository.Shows (uuid : UUIDText) (m : MemoryRepository)
    (listed : UUID → UUID → Prop) (left reserved : UUID → UUID → ℤ) (rs : List Reservation) :
    Prop where
  stock : ∀ s i, listed s i → ∃ stock,
    m.inventory.lookup (key (uuid.string s) (uuid.string i)) = some stock ∧
      stock.quantityAvailable.toInt = left s i ∧ stock.quantityReserved.toInt = reserved s i
  unlisted : ∀ s i, ¬ listed s i →
    m.inventory.lookup (key (uuid.string s) (uuid.string i)) = none
  reservations : (Assoc.values m.reservations).Perm rs
  keyed : ∀ id r, m.reservations.lookup id = some r → r.reservationID = id

namespace MemoryRepository

variable {uuid : UUIDText} {m : MemoryRepository} {listed : UUID → UUID → Prop}
  {left reserved : UUID → UUID → ℤ} {rs : List Reservation}

theorem key_injective (laws : uuid.Lawful) {s i s' i' : UUID}
    (h : key (uuid.string s) (uuid.string i) = key (uuid.string s') (uuid.string i')) :
    s = s' ∧ i = i' := by
  obtain ⟨store, item⟩ := String.colon_inj (laws.no_colon s) (laws.no_colon i) h
  exact ⟨laws.string_injective store, laws.string_injective item⟩

/-- Writing the stock of a listed item changes its numbers only. -/
theorem Shows.record (laws : uuid.Lawful) (h : m.Shows uuid listed left reserved rs) {s i : UUID}
    (lists : listed s i) {stock : Stock} {left' reserved' : UUID → UUID → ℤ}
    (hl : ∀ s' i', left' s' i' =
      if s = s' ∧ i = i' then stock.quantityAvailable.toInt else left s' i')
    (hr : ∀ s' i', reserved' s' i' =
      if s = s' ∧ i = i' then stock.quantityReserved.toInt else reserved s' i')
    (transaction : Transaction) (event : Event) :
    (m.record (key (uuid.string s) (uuid.string i)) stock transaction event).Shows uuid listed
      left' reserved' rs where
  stock s' i' lists' := by
    rw [hl, hr]
    by_cases same : s = s' ∧ i = i'
    · obtain ⟨rfl, rfl⟩ := same
      rw [if_pos ⟨rfl, rfl⟩, if_pos ⟨rfl, rfl⟩]
      exact ⟨stock, AList.lookup_insert _, rfl, rfl⟩
    · rw [if_neg same, if_neg same]
      obtain ⟨old, found, shown⟩ := h.stock s' i' lists'
      refine ⟨old, ?_, shown⟩
      exact (AList.lookup_insert_ne fun heq =>
        same (key_injective laws heq.symm)).trans found
  unlisted s' i' none := by
    refine (AList.lookup_insert_ne ?_).trans (h.unlisted s' i' none)
    intro heq
    obtain ⟨rfl, rfl⟩ := key_injective laws heq
    exact none lists
  reservations := h.reservations
  keyed := h.keyed

/-- A reservation under a new id. -/
theorem Shows.insert (h : m.Shows uuid listed left reserved rs) {r : Reservation}
    (fresh : ∀ r' ∈ rs, r'.reservationID ≠ r.reservationID) :
    ({ m with reservations := m.reservations.insert r.reservationID r }).Shows uuid listed left
      reserved (r :: rs) where
  stock := h.stock
  unlisted := h.unlisted
  reservations := by
    have absent : m.reservations.lookup r.reservationID = none := by
      cases found : m.reservations.lookup r.reservationID with
      | none => rfl
      | some r' =>
        have mem : r' ∈ rs := h.reservations.mem_iff.mp (Assoc.mem_values.mpr ⟨_, found⟩)
        exact absurd (h.keyed _ _ found) (fresh r' mem)
    change (Assoc.values (m.reservations.insert r.reservationID r)).Perm _
    rw [Assoc.values_insert absent]
    exact h.reservations.cons r
  keyed id r' found := by
    by_cases same : id = r.reservationID
    · subst same
      rw [AList.lookup_insert] at found
      rw [Option.some.inj found]
    · rw [AList.lookup_insert_ne same] at found
      exact h.keyed id r' found

/-- A reservation that goes. -/
theorem Shows.erase {r : Reservation} (h : m.Shows uuid listed left reserved (r :: rs)) :
    ({ m with reservations := m.reservations.erase r.reservationID }).Shows uuid listed left
      reserved rs where
  stock := h.stock
  unlisted := h.unlisted
  reservations := by
    obtain ⟨id, found⟩ := Assoc.mem_values.mp (h.reservations.mem_iff.mpr List.mem_cons_self)
    have own := h.keyed id r found
    subst own
    exact (List.perm_cons r).mp ((Assoc.values_erase found).symm.trans h.reservations)
  keyed id r' found := by
    by_cases same : id = r.reservationID
    · subst same
      rw [AList.lookup_erase] at found
      cases found
    · rw [AList.lookup_erase_ne same] at found
      exact h.keyed id r' found

theorem toInt_freed {a r q : Int32} (ha : 0 ≤ a.toInt) (hq : 0 ≤ q.toInt) (hr : q.toInt ≤ r.toInt)
    (fits : a.toInt + r.toInt < 2 ^ 31) :
    (if r - q < 0 then 0 else r - q).toInt = r.toInt - q.toInt ∧
      (available (a + (if r - q < 0 then 0 else r - q) + q) (if r - q < 0 then 0 else r - q)).toInt =
        a.toInt + q.toInt := by
  have rest : (r - q).toInt = r.toInt - q.toInt := toInt_sub (by omega) (by omega)
  have kept : (if r - q < 0 then 0 else r - q) = r - q :=
    if_neg (by rw [Int32.lt_iff_toInt_lt, rest, Int32.toInt_zero]; omega)
  have part : (a + (r - q)).toInt = a.toInt + r.toInt - q.toInt := by
    rw [toInt_add (by omega) (by omega), rest]
    omega
  have sum : (a + (r - q) + q).toInt = a.toInt + r.toInt := by
    rw [toInt_add (by omega) (by omega), part]
    omega
  rw [kept]
  refine ⟨rest, ?_⟩
  rw [toInt_available (by omega) (by omega), sum, rest]
  omega

/-- A reservation of a listed item that is freed goes back to what is left. -/
theorem Shows.free (laws : uuid.Lawful) {r : Reservation} {s i : UUID}
    (h : m.Shows uuid listed left reserved (r :: rs)) (hs : r.storeID = uuid.string s)
    (hi : r.itemID = uuid.string i) (lists : listed s i) (nonneg : 0 ≤ left s i)
    (positive : 0 ≤ r.quantity.toInt) (within : r.quantity.toInt ≤ reserved s i)
    (fits : left s i + reserved s i < 2 ^ 31) (aggregateID : String) (occurredAtMs : Int64)
    (reason : String) :
    (m.free r aggregateID occurredAtMs reason).1.Shows uuid listed
      (fun s i => left s i + r.held uuid s i) (fun s i => reserved s i - r.held uuid s i) rs := by
  obtain ⟨stock, found, shownLeft, shownReserved⟩ := h.stock s i lists
  rw [← shownLeft] at nonneg
  rw [← shownReserved] at within
  rw [← shownLeft, ← shownReserved] at fits
  obtain ⟨reservedAfter, leftAfter⟩ := toInt_freed nonneg positive within fits
  have held (s' i' : UUID) : r.held uuid s' i' =
      if s = s' ∧ i = i' then r.quantity.toInt else 0 := by
    simp only [Reservation.held, hs, hi, laws.string_injective.eq_iff]
  have place : (m.inventory.lookup (key r.storeID r.itemID)).getD {} = stock := by
    rw [hs, hi, found]
    rfl
  unfold MemoryRepository.free
  simp only [place]
  rw [shownReserved] at reservedAfter
  rw [shownLeft] at leftAfter
  rw [hs, hi]
  refine Shows.erase (Shows.record laws h lists ?_ ?_ _ _)
  · intro s' i'
    rw [held]
    split
    · rename_i same
      obtain ⟨rfl, rfl⟩ := same
      exact leftAfter.symm
    · exact add_zero _
  · intro s' i'
    rw [held]
    split
    · rename_i same
      obtain ⟨rfl, rfl⟩ := same
      exact reservedAfter.symm
    · exact sub_zero _

/-- Freeing a reservation returns the stock it writes. -/
theorem lookup_free {r : Reservation} {s i : UUID} (hs : r.storeID = uuid.string s)
    (hi : r.itemID = uuid.string i) {aggregateID : String} {occurredAtMs : Int64} {reason : String} :
    (m.free r aggregateID occurredAtMs reason).1.inventory.lookup
        (key (uuid.string s) (uuid.string i)) =
      some (m.free r aggregateID occurredAtMs reason).2 := by
  rw [← hs, ← hi]
  exact AList.lookup_insert _

/-- The reservations that a sweep frees, in whatever order. -/
theorem Shows.sweep (laws : uuid.Lawful) {expired rest : List Reservation}
    (h : m.Shows uuid listed left reserved (expired ++ rest))
    (ids : ∀ r ∈ expired, ∃ s i, r.storeID = uuid.string s ∧ r.itemID = uuid.string i ∧ listed s i)
    (positive : ∀ r ∈ expired, 0 ≤ r.quantity.toInt) (nonneg : ∀ s i, 0 ≤ left s i)
    (within : ∀ s i, (expired.map (·.held uuid s i)).sum ≤ reserved s i)
    (fits : ∀ s i, left s i + reserved s i < 2 ^ 31) (nowMs : Int64) :
    (expired.foldl (fun m r => (m.free r r.cartID nowMs "ttl expiry").1) m).Shows uuid listed
      (fun s i => left s i + (expired.map (·.held uuid s i)).sum)
      (fun s i => reserved s i - (expired.map (·.held uuid s i)).sum) rest := by
  induction expired generalizing m left reserved with
  | nil =>
    simp only [List.map_nil, List.sum_nil, add_zero, sub_zero]
    exact h
  | cons r expired ih =>
    obtain ⟨s, i, hs, hi, lists⟩ := ids r List.mem_cons_self
    have positive' := fun r' hr' => positive r' (List.mem_cons_of_mem r hr')
    have heldNonneg (r' : Reservation) (hq : 0 ≤ r'.quantity.toInt) (s i : UUID) :
        0 ≤ r'.held uuid s i := by
      unfold Reservation.held
      split
      · exact hq
      · exact le_rfl
    have othersNonneg (s i : UUID) : 0 ≤ (expired.map (·.held uuid s i)).sum := by
      refine List.sum_nonneg ?_
      intro q hq
      obtain ⟨r', hr', rfl⟩ := List.mem_map.mp hq
      exact heldNonneg r' (positive' r' hr') s i
    simp only [List.map_cons, List.sum_cons] at within ⊢
    have first : r.quantity.toInt ≤ reserved s i := by
      have held : r.held uuid s i = r.quantity.toInt := if_pos ⟨hs, hi⟩
      have := within s i
      have := othersNonneg s i
      omega
    have freed := h.free laws hs hi lists (nonneg s i) (positive r List.mem_cons_self) first (fits s i)
      r.cartID nowMs "ttl expiry"
    have swept := ih freed (fun r' hr' => ids r' (List.mem_cons_of_mem r hr')) positive'
      (fun s i => add_nonneg (nonneg s i) (heldNonneg r (positive r List.mem_cons_self) s i))
      (fun s i => by have := within s i; omega) (fun s i => by have := fits s i; omega)
    simp only [add_assoc, sub_sub] at swept
    exact swept

/-- A `Reserve` of no more than what is left of a listed item. -/
theorem Shows.reserve (laws : uuid.Lawful) (h : m.Shows uuid listed left reserved rs) {s i : UUID}
    {resID cartID kioskID : String} {quantity : Int32} (lists : listed s i) (positive : 0 < quantity)
    (enough : quantity.toInt ≤ left s i) (nonneg : 0 ≤ reserved s i)
    (fits : left s i + reserved s i < 2 ^ 31) (fresh : ∀ r ∈ rs, r.reservationID ≠ resID)
    (env : Env) {r : Reservation} (hr : r = ⟨resID, uuid.string s, uuid.string i, cartID, kioskID,
      quantity, env.nowMs + 300000⟩) :
    ∃ m' stock, m.reserve env resID (uuid.string s) (uuid.string i) cartID kioskID quantity =
        (m', .ok (resID, stock)) ∧
      m'.inventory.lookup (key (uuid.string s) (uuid.string i)) = some stock ∧
      m'.Shows uuid listed (fun s i => left s i - r.held uuid s i)
        (fun s i => reserved s i + r.held uuid s i) (r :: rs) := by
  obtain ⟨stock, found, shownLeft, shownReserved⟩ := h.stock s i lists
  have held (s' i' : UUID) : r.held uuid s' i' = if s = s' ∧ i = i' then quantity.toInt else 0 := by
    simp only [hr, Reservation.held, laws.string_injective.eq_iff]
  have q := Int32.lt_iff_toInt_lt.mp positive
  rw [Int32.toInt_zero] at q
  have more : (stock.quantityReserved + quantity).toInt = reserved s i + quantity.toInt := by
    rw [toInt_add (by omega) (by omega), shownReserved]
  have all : (stock.quantityAvailable + stock.quantityReserved).toInt = left s i + reserved s i := by
    rw [toInt_add (by omega) (by omega), shownLeft, shownReserved]
  have less : (available (stock.quantityAvailable + (stock.quantityReserved + quantity) - quantity)
      (stock.quantityReserved + quantity)).toInt = left s i - quantity.toInt := by
    rw [← Int32.add_assoc, Int32.add_sub_cancel, toInt_available (by omega) (by omega), all, more]
    omega
  have inserted : ({ m with reservations := m.reservations.insert resID r }).Shows uuid listed left
      reserved (r :: rs) := by
    have own : r.reservationID = resID := by rw [hr]
    rw [← own] at fresh ⊢
    exact h.insert fresh
  unfold MemoryRepository.reserve
  rw [if_neg (Int32.not_le.mpr positive), found]
  simp only
  rw [if_neg (Int32.not_lt.mpr (Int32.le_iff_toInt_le.mpr (shownLeft ▸ enough))), ← hr]
  refine ⟨_, _, rfl, AList.lookup_insert _, Shows.record laws inserted lists ?_ ?_ _ _⟩
  · intro s' i'
    rw [held]
    split
    · rename_i same
      obtain ⟨rfl, rfl⟩ := same
      exact less.symm
    · exact sub_zero _
  · intro s' i'
    rw [held]
    split
    · rename_i same
      obtain ⟨rfl, rfl⟩ := same
      exact more.symm
    · exact add_zero _

/-- An `AdjustStock` that leaves a listed item no less than nothing. -/
theorem Shows.adjustStock (laws : uuid.Lawful) (h : m.Shows uuid listed left reserved rs)
    {s i : UUID} {delta : Int32} (lists : listed s i) (nonneg : 0 ≤ reserved s i)
    (enough : 0 ≤ left s i + delta.toInt) (fits : left s i + reserved s i < 2 ^ 31)
    (positive : 0 ≤ left s i) (room : left s i + reserved s i + delta.toInt < 2 ^ 31) (env : Env)
    (typ : TransactionType) (referenceID referenceType notes : String) :
    ∃ m' stock, m.adjustStock env (uuid.string s) (uuid.string i) delta typ referenceID
        referenceType notes = (m', .ok stock) ∧
      m'.inventory.lookup (key (uuid.string s) (uuid.string i)) = some stock ∧
      m'.Shows uuid listed (fun s' i' => left s' i' + if s = s' ∧ i = i' then delta.toInt else 0)
        reserved rs := by
  obtain ⟨stock, found, shownLeft, shownReserved⟩ := h.stock s i lists
  have all : (stock.quantityAvailable + stock.quantityReserved).toInt = left s i + reserved s i := by
    rw [toInt_add (by omega) (by omega), shownLeft, shownReserved]
  obtain ⟨next, applied⟩ : ∃ next, applyDelta (stock.quantityAvailable + stock.quantityReserved)
      delta typ = .ok next :=
    ⟨.ofInt _, applyDelta_eq_ok.mpr ⟨by omega, Int32.toInt_ofInt⟩⟩
  have sum : next.toInt = left s i + reserved s i + delta.toInt := by
    rw [toInt_applyDelta applied (by omega), all]
  have less : (available next stock.quantityReserved).toInt = left s i + delta.toInt := by
    rw [toInt_available (by omega) (by omega), sum, shownReserved]
    omega
  unfold MemoryRepository.adjustStock
  rw [found]
  simp only [applied]
  refine ⟨_, _, rfl, AList.lookup_insert _, Shows.record laws h lists ?_ ?_ _ _⟩
  · intro s' i'
    split
    · rename_i same
      obtain ⟨rfl, rfl⟩ := same
      exact less.symm
    · exact add_zero _
  · intro s' i'
    split
    · rename_i same
      obtain ⟨rfl, rfl⟩ := same
      exact shownReserved.symm
    · rfl

/-- What a `Reserve` rejects. -/
theorem Shows.reserve_rejects (h : m.Shows uuid listed left reserved rs) {s i : UUID}
    {quantity : Int32} (reject : ¬ (0 < quantity ∧ listed s i ∧ quantity.toInt ≤ left s i))
    (env : Env) (resID cartID kioskID : String) :
    ∃ err, m.reserve env resID (uuid.string s) (uuid.string i) cartID kioskID quantity =
      (m, .error err) := by
  unfold MemoryRepository.reserve
  split
  · exact ⟨_, rfl⟩
  · rename_i positive
    by_cases lists : listed s i
    · obtain ⟨stock, found, shown, -⟩ := h.stock s i lists
      rw [found]
      simp only
      split
      · exact ⟨_, rfl⟩
      · rename_i enough
        rw [Int32.not_lt, Int32.le_iff_toInt_le, shown] at enough
        exact absurd ⟨Int32.not_le.mp positive, lists, enough⟩ reject
    · rw [h.unlisted s i lists]
      exact ⟨_, rfl⟩

/-- What an `AdjustStock` rejects. -/
theorem Shows.adjustStock_rejects (h : m.Shows uuid listed left reserved rs) {s i : UUID}
    {delta : Int32} (positive : ∀ s i, 0 ≤ left s i ∧ 0 ≤ reserved s i)
    (fits : ∀ s i, left s i + reserved s i < 2 ^ 31)
    (reject : listed s i → left s i + reserved s i + delta.toInt < 0) (env : Env)
    (typ : TransactionType) (referenceID referenceType notes : String) :
    ∃ err, m.adjustStock env (uuid.string s) (uuid.string i) delta typ referenceID referenceType
      notes = (m, .error err) := by
  unfold MemoryRepository.adjustStock
  by_cases lists : listed s i
  · obtain ⟨stock, found, shownLeft, shownReserved⟩ := h.stock s i lists
    have below := reject lists
    have := positive s i
    have := fits s i
    have all : (stock.quantityAvailable + stock.quantityReserved).toInt =
        left s i + reserved s i := by
      rw [toInt_add (by omega) (by omega), shownLeft, shownReserved]
    rw [found]
    simp only
    cases applied : applyDelta (stock.quantityAvailable + stock.quantityReserved) delta typ with
    | error err => exact ⟨err, rfl⟩
    | ok next =>
      have := (applyDelta_eq_ok.mp applied).1
      omega
  · rw [h.unlisted s i lists]
    exact ⟨_, rfl⟩

/-- A `Release` frees the cart's reservation, or changes nothing where it has none. -/
theorem Shows.release (h : m.Shows uuid listed left reserved rs) {s i : UUID} (lists : listed s i)
    (cartID : String) (env : Env) (walk : Assoc.Walk String Reservation) :
    (∃ stock, m.release env walk (uuid.string s) (uuid.string i) cartID = (m, .ok stock) ∧
      m.inventory.lookup (key (uuid.string s) (uuid.string i)) = some stock ∧
      ∀ r ∈ rs, ¬ (r.storeID = uuid.string s ∧ r.itemID = uuid.string i ∧ r.cartID = cartID)) ∨
    ∃ r ∈ rs, r.storeID = uuid.string s ∧ r.itemID = uuid.string i ∧ r.cartID = cartID ∧
      m.release env walk (uuid.string s) (uuid.string i) cartID =
        ((m.free r cartID env.occurredAtMs "explicit release").1,
          .ok (m.free r cartID env.occurredAtMs "explicit release").2) := by
  have same : (walk.values m.reservations).Perm rs := (walk.perm _).trans h.reservations
  unfold MemoryRepository.release
  cases found : (walk.values m.reservations).find? fun r =>
      r.storeID = uuid.string s ∧ r.itemID = uuid.string i ∧ r.cartID = cartID with
  | none =>
    obtain ⟨stock, hstock, -⟩ := h.stock s i lists
    refine .inl ⟨stock, ?_, hstock, ?_⟩
    · simp only [hstock, Option.getD_some]
    · intro r hr
      simpa using List.find?_eq_none.mp found r (same.mem_iff.mpr hr)
  | some r =>
    obtain ⟨hs, hi, hc⟩ : r.storeID = uuid.string s ∧ r.itemID = uuid.string i ∧
        r.cartID = cartID := by simpa using List.find?_some found
    exact .inr ⟨r, same.mem_iff.mp (List.mem_of_find?_eq_some found), hs, hi, hc, rfl⟩

/-- Numbers of items that are not listed do not matter. -/
theorem Shows.of_listed (h : m.Shows uuid listed left reserved rs) {left' : UUID → UUID → ℤ}
    (same : ∀ s i, listed s i → left' s i = left s i) : m.Shows uuid listed left' reserved rs where
  stock s i lists := by
    rw [same s i lists]
    exact h.stock s i lists
  unlisted := h.unlisted
  reservations := h.reservations
  keyed := h.keyed

theorem Shows.perm (h : m.Shows uuid listed left reserved rs) {rs' : List Reservation}
    (same : rs.Perm rs') : m.Shows uuid listed left reserved rs' :=
  { h with reservations := h.reservations.trans same }

end MemoryRepository

end InventoryService
