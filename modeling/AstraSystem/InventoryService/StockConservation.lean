import AstraSystem.InventoryService.Contiguity

/-!
# Stock conservation of the Postgres inventory

A reservation lowers the running balance and is subtracted from it again, so
the stock that is available comes out right only while everything or nothing
of an item is reserved.
-/

namespace InventoryService

/-- What a reservation holds of an item. -/
def ReservationRow.held (s i : UUID) (r : ReservationRow) : ℤ :=
  if r.storeID = s ∧ r.itemID = i then r.quantity.toInt else 0

theorem quantityOf_eq_sum (rows : List ReservationRow) (s i : UUID) :
    quantityOf rows s i = (rows.map (·.held s i)).sum := by
  induction rows with
  | nil => rfl
  | cons row rows ih => rw [quantityOf_cons, ih, List.map_cons, List.sum_cons, ReservationRow.held]

theorem quantityOf_perm {rows rows' : List ReservationRow} (h : rows.Perm rows') (s i : UUID) :
    quantityOf rows s i = quantityOf rows' s i := by
  rw [quantityOf_eq_sum, quantityOf_eq_sum]
  exact (h.map _).sum_eq

theorem held_conflict {old new : ReservationRow} (same : old.key = new.key)
    (positive : 0 < new.quantity.toInt) (room : old.quantity.toInt + new.quantity.toInt < 2 ^ 31)
    (s i : UUID) : (DB.conflict old new).held s i = old.held s i + new.held s i := by
  have store : old.storeID = new.storeID := congrArg Prod.fst same
  have item : old.itemID = new.itemID := congrArg (fun k => k.2.1) same
  have sum := toInt_conflict positive room
  unfold ReservationRow.held
  rw [store, item]
  change (if new.storeID = s ∧ new.itemID = i then (DB.conflict old new).quantity.toInt else 0) = _
  rw [sum]
  split
  · rfl
  · exact (add_zero 0).symm

namespace DB

variable {db db' : DB}

theorem reserved_eq (db : DB) (s i : UUID) :
    db.reserved s i = (db.reservations.rows.map (·.held s i)).sum :=
  quantityOf_eq_sum _ s i

/-- A reservation counts once, whether it is new or joins the cart's old one. -/
theorem reserved_upsert {new : ReservationRow} (positive : 0 < new.quantity.toInt)
    (room : ∀ old ∈ db.reservations.find? new.key, old.quantity.toInt + new.quantity.toInt < 2 ^ 31)
    (h : db'.reservations = db.reservations.upsert conflict (fun _ _ => rfl) new) (s i : UUID) :
    db'.reserved s i = db.reserved s i + new.held s i := by
  have sum : ((db.reservations.upsert conflict (fun _ _ => rfl) new).rows.map (·.held s i)).sum +
      (db.reservations.find? new.key).elim 0 (·.held s i) =
        (db.reservations.rows.map (·.held s i)).sum +
          ((db.reservations.find? new.key).elim new (conflict · new)).held s i :=
    Table.sum_upsert _ _ _
  rw [reserved_eq, reserved_eq, h]
  cases found : db.reservations.find? new.key with
  | none =>
    rw [found] at sum
    exact (add_zero _).symm.trans sum
  | some old =>
    have same := (Table.find?_eq_some.mp found).2
    rw [found] at sum
    simp only [Option.elim_some, held_conflict same positive (room old found)] at sum
    omega

theorem reserved_delete {p : ReservationRow → Bool} (h : db'.reservations = db.reservations.delete p)
    (s i : UUID) : db'.reserved s i + quantityOf (db.reservations.rows.filter p) s i =
      db.reserved s i := by
  rw [reserved_eq, reserved_eq, h, quantityOf_eq_sum]
  exact Table.sum_delete _ _ _

end DB

/-! ## Everything or nothing -/

/-- `GetStock` returns the reservations and what is left of the adjustments, for every item that the
inventory lists. -/
def StockRight (uuid : UUIDText) (w : World) : Prop :=
  ∀ inv ∈ w.db.inventory.rows, ∀ storeID itemID,
    parseStoreItem uuid storeID itemID = .ok (inv.storeID, inv.itemID) →
    ∃ stock, getStock uuid w.db storeID itemID = .ok stock ∧
      stock.quantityReserved.toInt = w.db.reserved inv.storeID inv.itemID ∧
      stock.quantityAvailable.toInt =
        max 0 (w.adjusted inv.storeID inv.itemID - w.db.reserved inv.storeID inv.itemID)

/-- What `GetStock` shows as available. -/
def DB.quantityAvailable (db : DB) (s i : UUID) : ℤ :=
  (available (db.runningBalance s i) (.ofInt (db.reserved s i))).toInt

/-- A committed `Reserve` takes its quantity out of the available stock, and a `Release` or a sweep
puts it back. -/
def Moves (uuid : UUIDText) (w : World) (a : Action) : Prop :=
  ∀ db', Postgres.tx uuid w.db (w.env a) a.call = .ok db' → a.env.fault.commits = true →
    match a.call with
    | .reserve storeID itemID _ _ quantity =>
      ∀ s i, parseStoreItem uuid storeID itemID = .ok (s, i) →
        db'.quantityAvailable s i = w.db.quantityAvailable s i - quantity.toInt
    | .release storeID itemID cartID =>
      ∀ s i cart, parseStoreItem uuid storeID itemID = .ok (s, i) → uuid.parse cartID = .ok cart →
        ∀ row ∈ w.db.reservations.find? (s, i, cart),
          db'.quantityAvailable s i = w.db.quantityAvailable s i + row.quantity.toInt
    | .expireReservations nowMs =>
      ∀ s i, db'.quantityAvailable s i = w.db.quantityAvailable s i +
        quantityOf (Postgres.expiredRows w.db (w.env a) nowMs) s i
    | .adjustStock .. => True

/-- A `Reserve` asks for no less than the balance, and an `AdjustStock` adds to an item, up to 32
bits, only while none of it is reserved. -/
def AllOrNothing (uuid : UUIDText) (w : World) (a : Action) : Prop :=
  a.env.fault.commits = true → match a.call with
  | .reserve storeID itemID _ _ quantity =>
    ∀ s i, parseStoreItem uuid storeID itemID = .ok (s, i) → 0 < quantity →
      (w.db.runningBalance s i).toInt ≤ quantity.toInt
  | .adjustStock storeID itemID delta .. =>
    ∀ s i, parseStoreItem uuid storeID itemID = .ok (s, i) →
      (w.db.reserved s i = 0 ∨ delta.toInt ≤ 0) ∧ w.adjusted s i + delta.toInt < 2 ^ 31
  | .release .. | .expireReservations _ => True

/-- Of every item, all or nothing is reserved, by one cart. -/
structure Settled (w : World) : Prop extends Sound w where
  total : ∀ s i, w.db.total s i = w.adjusted s i - w.db.reserved s i
  nonneg : ∀ s i, 0 ≤ w.db.total s i
  exclusive : ∀ s i, w.db.reserved s i = 0 ∨ w.db.total s i = 0
  single : ∀ r ∈ w.db.reservations.rows, ∀ r' ∈ w.db.reservations.rows,
    r.storeID = r'.storeID ∧ r.itemID = r'.itemID → r = r'
  bound : ∀ s i, w.adjusted s i < 2 ^ 31

theorem quantityOf_eq_zero_iff {rows : List ReservationRow}
    (positive : ∀ r ∈ rows, 0 < r.quantity.toInt) (s i : UUID) :
    quantityOf rows s i = 0 ↔ ∀ r ∈ rows, ¬ (r.storeID = s ∧ r.itemID = i) := by
  induction rows with
  | nil => exact ⟨fun _ _ h => absurd h List.not_mem_nil, fun _ => rfl⟩
  | cons row rows ih =>
    have hrow := positive row List.mem_cons_self
    have rest := fun r hr => positive r (List.mem_cons_of_mem row hr)
    have nonneg := quantityOf_nonneg rest s i
    rw [quantityOf_cons, List.forall_mem_cons, ← ih rest]
    split
    · rename_i same
      constructor
      · intro h
        omega
      · intro h
        exact absurd same h.1
    · rename_i other
      rw [zero_add]
      exact (and_iff_right other).symm

theorem quantityOf_filter_le {rows : List ReservationRow}
    (positive : ∀ r ∈ rows, 0 < r.quantity.toInt) (p : ReservationRow → Bool) (s i : UUID) :
    quantityOf (rows.filter p) s i ≤ quantityOf rows s i := by
  induction rows with
  | nil => exact le_rfl
  | cons row rows ih =>
    have hrow := positive row List.mem_cons_self
    have le := ih fun r hr => positive r (List.mem_cons_of_mem row hr)
    rw [List.filter_cons, quantityOf_cons]
    split
    · rw [quantityOf_cons]
      omega
    · split <;> omega

theorem quantityOf_expiredRows (db : DB) (env : Env) (nowMs : Int64) (s i : UUID) :
    quantityOf (Postgres.expiredRows db env nowMs) s i =
      quantityOf (db.reservations.rows.filter fun r => r.expiresAtMs < nowMs) s i :=
  quantityOf_perm (env.returning.perm _) s i

/-- Rows of different items, in any order, never compare ids. -/
theorem idsIncrease_of_single {rows : List ReservationRow} (nodup : rows.Nodup)
    (single : ∀ r ∈ rows, ∀ r' ∈ rows, r.storeID = r'.storeID ∧ r.itemID = r'.itemID → r = r')
    (ids : ℕ → UUID) (k : ℕ) : IdsIncrease ids rows k := by
  have distinct : (rows.zipIdx k).Pairwise fun a b => a.1 ≠ b.1 := by
    have := nodup
    rw [← List.zipIdx_map_fst k rows] at this
    exact List.pairwise_map.mp this
  refine distinct.imp_of_mem ?_
  intro a b ha hb ne same
  exact absurd (single a.1 (List.fst_mem_of_mem_zipIdx ha) b.1 (List.fst_mem_of_mem_zipIdx hb) same) ne

namespace Settled

variable {uuid : UUIDText} {w : World} {a : Action}

theorem reserved_nonneg (h : Settled w) (s i : UUID) : 0 ≤ w.db.reserved s i :=
  quantityOf_nonneg h.positive s i

theorem toInt_runningBalance (h : Settled w) (s i : UUID) :
    (w.db.runningBalance s i).toInt = w.db.total s i := h.contiguous.toInt_runningBalance s i

theorem toInt_reserved (h : Settled w) (s i : UUID) :
    (Int32.ofInt (w.db.reserved s i)).toInt = w.db.reserved s i := by
  have := h.total s i
  have := h.nonneg s i
  have := h.bound s i
  have := h.reserved_nonneg s i
  exact Int32.toInt_ofInt_of_le (by omega) (by omega)

theorem quantityAvailable (h : Settled w) (s i : UUID) :
    w.db.quantityAvailable s i = w.adjusted s i - w.db.reserved s i := by
  have total := h.total s i
  have nonneg := h.nonneg s i
  have reserved := h.reserved_nonneg s i
  have exclusive := h.exclusive s i
  rw [DB.quantityAvailable, toInt_available]
  · rw [h.toInt_runningBalance, h.toInt_reserved]
    omega
  · rw [h.toInt_runningBalance]
    exact nonneg
  · rw [h.toInt_reserved]
    exact reserved

/-- The stock of a listed item is read. -/
theorem readStock (h : Settled w) {s i : UUID} {inv : InventoryRow}
    (found : w.db.inventory.find? (s, i) = some inv) (notFound : String) :
    ∃ stock, InventoryService.readStock uuid notFound w.db s i = .ok stock ∧
      stock.quantityReserved.toInt = w.db.reserved s i ∧
      stock.quantityAvailable.toInt = w.adjusted s i - w.db.reserved s i := by
  have total := h.total s i
  have nonneg := h.nonneg s i
  have bound := h.bound s i
  have reserved := h.reserved_nonneg s i
  have sum : w.db.selectReserved s i = .ok (.ofInt (w.db.reserved s i)) :=
    if_pos ⟨by omega, by omega⟩
  simp only [InventoryService.readStock, found, sum, bind, Except.bind, pure, Except.pure,
    Except.ok.injEq]
  exact ⟨_, rfl, h.toInt_reserved s i, h.quantityAvailable s i⟩

theorem stockRight (uuid : UUIDText) (h : Settled w) : StockRight uuid w := by
  intro inv hinv storeID itemID parsed
  have total := h.total inv.storeID inv.itemID
  have nonneg := h.nonneg inv.storeID inv.itemID
  obtain ⟨stock, read, reserved, left⟩ :=
    h.readStock (Table.find?_eq_some.mpr ⟨hinv, rfl⟩)
      s!"repository: inventory not found for store {storeID} item {itemID}"
  refine ⟨{ stock with storeID, itemID }, ?_, reserved, left.trans (by omega)⟩
  exact Statement.bind_eq_ok.mpr ⟨_, parsed, Statement.bind_eq_ok.mpr ⟨stock, read, rfl⟩⟩

theorem nodup_expiredRows (w : World) (env : Env) (nowMs : Int64) :
    (Postgres.expiredRows w.db env nowMs).Nodup :=
  (env.returning.perm _).nodup_iff.mpr ((List.Nodup.of_map _ w.db.reservations.nodup).filter _)

/-- No reservation of an item fits beside its balance without wrapping. -/
theorem room (h : Settled w) (p : ReservationRow → Bool) (s i : UUID) :
    w.db.Room s i (quantityOf (w.db.reservations.rows.filter p) s i) := by
  have total := h.total s i
  have bound := h.bound s i
  have part : quantityOf (w.db.reservations.rows.filter p) s i ≤ w.db.reserved s i :=
    quantityOf_filter_le h.positive p s i
  rw [DB.Room, h.toInt_runningBalance]
  omega

theorem quantityOf_filter_key {row : ReservationRow} (hrow : row ∈ w.db.reservations.rows)
    (s i : UUID) :
    quantityOf (w.db.reservations.rows.filter (·.key = row.key)) s i = row.held s i := by
  rw [Table.rows_filter_key hrow, quantityOf_eq_sum, List.map_singleton, List.sum_singleton]

theorem inOrder (h : Settled w) (guard : AllOrNothing uuid w a) : InOrder uuid w a := by
  intro commits
  have guard := guard commits
  cases hc : a.call with
  | reserve => trivial
  | release storeID itemID cartID =>
    intro store item cart _ _ row found
    obtain ⟨hrow, key⟩ := Table.find?_eq_some.mp found
    have fits := h.room (·.key = row.key) store item
    rw [quantityOf_filter_key hrow, ReservationRow.held,
      if_pos ⟨congrArg Prod.fst key, congrArg (fun k => k.2.1) key⟩] at fits
    exact fits
  | adjustStock storeID itemID delta typ referenceID referenceType notes =>
    rw [hc] at guard
    intro store item parsed
    have bound := (guard store item parsed).2
    have total := h.total store item
    have reserved := h.reserved_nonneg store item
    rw [DB.Room, h.toInt_runningBalance]
    omega
  | expireReservations nowMs =>
    have mem (r : ReservationRow) (hr : r ∈ Postgres.expiredRows w.db (w.env a) nowMs) :
        r ∈ w.db.reservations.rows := (mem_expiredRows.mp hr).1
    refine ⟨idsIncrease_of_single (nodup_expiredRows w _ nowMs) ?_ _ 0, ?_⟩
    · intro r hr r' hr'
      exact h.single r (mem r hr) r' (mem r' hr')
    · intro r _
      rw [quantityOf_expiredRows]
      exact h.room _ _ _

/-- What leaves the reservations goes back to the balance. -/
theorem frees (h : Settled w) {w' : World} (sound : Sound w') (p : ReservationRow → Bool)
    (rest : w'.db.reservations = w.db.reservations.delete p)
    (total : ∀ s i, w'.db.total s i =
      w.db.total s i + quantityOf (w.db.reservations.rows.filter p) s i)
    (adjusted : w'.adjusted = w.adjusted) : Settled w' := by
  have reserved (s i : UUID) := DB.reserved_delete rest s i
  refine ⟨sound, ?_, ?_, ?_, ?_, ?_⟩
  · intro s i
    have := h.total s i
    have := reserved s i
    rw [total, adjusted]
    omega
  · intro s i
    have := h.nonneg s i
    have freed : 0 ≤ quantityOf (w.db.reservations.rows.filter p) s i :=
      quantityOf_nonneg (fun r hr => h.positive r (List.mem_of_mem_filter hr)) s i
    rw [total]
    omega
  · intro s i
    by_cases none : quantityOf (w.db.reservations.rows.filter p) s i = 0
    · have same := reserved s i
      rw [none, add_zero] at same
      rw [total, none, add_zero, same]
      exact h.exclusive s i
    · -- the only reservation of the item is among those that leave
      rw [quantityOf_eq_zero_iff fun r hr => h.positive r (List.mem_of_mem_filter hr)] at none
      push Not at none
      obtain ⟨r, hr, store, item⟩ := none
      obtain ⟨hr, hp⟩ := List.mem_filter.mp hr
      refine .inl ((quantityOf_eq_zero_iff sound.positive s i).mpr ?_)
      rintro r' hr' ⟨store', item'⟩
      rw [rest] at hr'
      obtain ⟨hr', hp'⟩ := Table.mem_delete.mp hr'
      rw [h.single r hr r' hr' ⟨store.trans store'.symm, item.trans item'.symm⟩, hp'] at hp
      cases hp
  · intro r hr r' hr'
    rw [rest] at hr hr'
    exact h.single r (Table.mem_delete.mp hr).1 r' (Table.mem_delete.mp hr').1
  · rw [adjusted]
    exact h.bound

/-- A `Reserve` that takes the whole balance, which nothing else is reserved of. -/
theorem takes (h : Settled w) {w' : World} (sound : Sound w') {new : ReservationRow}
    {row : TransactionRow} {now : Time} {id : UUID} (positive : 0 < new.quantity)
    (room : ∀ old ∈ w.db.reservations.find? new.key,
      old.quantity.toInt + new.quantity.toInt < 2 ^ 31)
    (all : (w.db.runningBalance new.storeID new.itemID).toInt ≤ new.quantity.toInt)
    (next : NextRow w.db now id new.storeID new.itemID (-new.quantity) row)
    (writes : w'.db.transactions = w.db.transactions ++ [row])
    (reservations : w'.db.reservations =
      w.db.reservations.upsert DB.conflict (fun _ _ => rfl) new)
    (adjusted : w'.adjusted = w.adjusted) : Settled w' := by
  rw [Int32.lt_iff_toInt_lt, Int32.toInt_zero] at positive
  have enough := next.positive
  rw [h.toInt_runningBalance] at enough all
  rw [toInt_neg positive] at enough
  have unreserved : w.db.reserved new.storeID new.itemID = 0 := by
    have := h.exclusive new.storeID new.itemID
    omega
  have others := (quantityOf_eq_zero_iff h.positive _ _).mp unreserved
  have total := next.total writes
  have reserved := DB.reserved_upsert positive room reservations
  rw [toInt_neg positive] at total
  refine ⟨sound, ?_, ?_, ?_, ?_, adjusted ▸ h.bound⟩
  · intro s i
    have := h.total s i
    rw [total, reserved, adjusted, ReservationRow.held]
    split <;> omega
  · intro s i
    have := h.nonneg s i
    rw [total]
    split
    · rename_i same
      obtain ⟨rfl, rfl⟩ := same
      omega
    · omega
  · intro s i
    rw [total, reserved, ReservationRow.held]
    split
    · rename_i same
      obtain ⟨rfl, rfl⟩ := same
      exact .inr (by omega)
    · rw [add_zero, add_zero]
      exact h.exclusive s i
  · have mine (r : ReservationRow) (hr : r ∈ w'.db.reservations.rows) :
        r ∈ w.db.reservations.rows ∨ r = new := by
      rw [reservations] at hr
      rcases Table.mem_upsert.mp hr with ⟨hr, -⟩ | ⟨old, hold, same, -⟩ | ⟨-, rfl⟩
      · exact .inl hr
      · exact absurd ⟨congrArg Prod.fst same, congrArg (fun k => k.2.1) same⟩ (others old hold)
      · exact .inr rfl
    intro r hr r' hr' same
    rcases mine r hr with old | rfl <;> rcases mine r' hr' with old' | rfl
    · exact h.single r old r' old' same
    · exact absurd same (others r old)
    · exact absurd ⟨same.1.symm, same.2.symm⟩ (others r' old')
    · rfl

/-- An `AdjustStock` of an item that is not reserved, or that is and stays used up. -/
theorem adjusts (h : Settled w) {w' : World} (sound : Sound w') {row : TransactionRow} {now : Time}
    {id store item : UUID} {delta : Int32} (next : NextRow w.db now id store item delta row)
    (writes : w'.db.transactions = w.db.transactions ++ [row])
    (rest : w'.db.reservations = w.db.reservations)
    (adjusted : ∀ s i, w'.adjusted s i =
      w.adjusted s i + if store = s ∧ item = i then delta.toInt else 0)
    (free : w.db.reserved store item = 0 ∨ delta.toInt ≤ 0)
    (bound : w.adjusted store item + delta.toInt < 2 ^ 31) : Settled w' := by
  have total := next.total writes
  have positive := next.positive
  have reserved (s i : UUID) : w'.db.reserved s i = w.db.reserved s i := by
    rw [DB.reserved_eq, DB.reserved_eq, rest]
  rw [h.toInt_runningBalance] at positive
  refine ⟨sound, ?_, ?_, ?_, by rw [rest]; exact h.single, ?_⟩
  · intro s i
    rw [total, adjusted, reserved, h.total]
    omega
  · intro s i
    have := h.nonneg s i
    rw [total]
    split
    · rename_i same
      obtain ⟨rfl, rfl⟩ := same
      exact positive
    · omega
  · intro s i
    have := h.exclusive s i
    rw [total, reserved]
    split
    · rename_i same
      obtain ⟨rfl, rfl⟩ := same
      omega
    · omega
  · intro s i
    have := h.bound s i
    rw [adjusted]
    split
    · rename_i same
      obtain ⟨rfl, rfl⟩ := same
      exact bound
    · omega

end Settled

/-- The deltas of a committed `AdjustStock` count for its item. -/
theorem adjustment_of_ok {uuid : UUIDText} {db db' : DB} {env : Env} {storeID itemID : String}
    {delta : Int32} {typ : TransactionType} {referenceID referenceType notes : String}
    {store item : UUID} (commits : env.fault.commits = true)
    (parsed : parseStoreItem uuid storeID itemID = .ok (store, item))
    (h : Postgres.tx uuid db env (.adjustStock storeID itemID delta typ referenceID referenceType
      notes) = .ok db') (s i : UUID) :
    adjustment uuid db env (.adjustStock storeID itemID delta typ referenceID referenceType notes)
      s i = if store = s ∧ item = i then delta.toInt else 0 := by
  simp only [adjustment, h, parsed, commits, true_and, Prod.mk.injEq]

theorem adjusted_step {uuid : UUIDText} {w : World} {a : Action}
    (none : ∀ s i, adjustment uuid w.db (w.env a) a.call s i = 0) :
    (step uuid w a).adjusted = w.adjusted := by
  funext s i
  exact (congrArg (w.adjusted s i + ·) (none s i)).trans (add_zero _)

section
variable {uuid : UUIDText} {w : World} {a : Action}

theorem settled_step (h : Settled w) (guard : AllOrNothing uuid w a) :
    Settled (step uuid w a) := by
  have sound := sound_step h.toSound (h.inOrder guard)
  rcases call_cases uuid w.db (w.env a) a.call with ⟨same, none⟩ | ⟨commits, htx⟩
  · have db : (step uuid w a).db = w.db := same
    have adjusted := adjusted_step none
    exact ⟨sound, by rw [db, adjusted]; exact h.total, by rw [db]; exact h.nonneg,
      by rw [db]; exact h.exclusive, by rw [db]; exact h.single, by rw [adjusted]; exact h.bound⟩
  · have db : (Postgres.call uuid w.db (w.env a) a.call).1 = (step uuid w a).db := rfl
    have guard := guard commits
    rw [db] at htx
    cases hc : a.call with
    | reserve storeID itemID cartID kioskID quantity =>
      rw [hc] at htx guard
      obtain ⟨⟨db', id⟩, htx, rfl⟩ := Statement.map_eq_ok.mp htx
      obtain ⟨store, item, reserved, new, row, parsed, -, positive, -, -, rfl, rfl, rfl, -, room,
        next, -, writes, reservations, -⟩ := Postgres.reserveTx_eq_ok htx
      exact h.takes sound positive room (guard _ _ parsed positive) next writes reservations
        (adjusted_step fun s i => by rw [hc]; rfl)
    | release storeID itemID cartID =>
      rw [hc] at htx
      have adjusted : (step uuid w a).adjusted = w.adjusted :=
        adjusted_step fun s i => by rw [hc]; rfl
      obtain ⟨store, item, cart, -, -, ⟨-, same⟩ | ⟨row, next, found, hnext, -, writes, rest⟩⟩ :=
        Postgres.releaseTx_eq_ok htx
      · exact ⟨sound, by rw [same, adjusted]; exact h.total, by rw [same]; exact h.nonneg,
          by rw [same]; exact h.exclusive, by rw [same]; exact h.single,
          by rw [adjusted]; exact h.bound⟩
      · obtain ⟨hrow, key⟩ := Table.find?_eq_some.mp found
        rw [← key] at rest
        refine h.frees sound _ rest ?_ adjusted
        intro s i
        rw [Settled.quantityOf_filter_key hrow, hnext.total writes, ReservationRow.held]
        cases key
        rfl
    | adjustStock storeID itemID delta typ referenceID referenceType notes =>
      rw [hc] at htx guard
      obtain ⟨store, item, row, parsed, hnext, -, writes, rest⟩ := Postgres.adjustStockTx_eq_ok htx
      have adjusted (s i : UUID) : (step uuid w a).adjusted s i =
          w.adjusted s i + if store = s ∧ item = i then delta.toInt else 0 := by
        rw [← adjustment_of_ok commits parsed htx s i, ← hc]
        rfl
      obtain ⟨free, bound⟩ := guard store item parsed
      exact h.adjusts sound hnext writes rest adjusted free bound
    | expireReservations nowMs =>
      rw [hc] at htx
      obtain ⟨-, reservations, total, -⟩ := expireRows_eq_ok (Postgres.expireReservationsTx_eq_ok htx)
      refine h.frees sound _ reservations ?_
        (adjusted_step fun s i => by rw [hc]; rfl)
      intro s i
      rw [total, quantityOf_expiredRows]
      rfl

theorem moves (h : Settled w) (guard : AllOrNothing uuid w a) : Moves uuid w a := by
  intro db' htx commits
  have after := settled_step h guard
  have same : (step uuid w a).db = db' := call_of_commits htx commits
  have shown (s i : UUID) (none : adjustment uuid w.db (w.env a) a.call s i = 0) :
      db'.quantityAvailable s i =
        w.db.quantityAvailable s i + w.db.reserved s i - db'.reserved s i := by
    have adjusted : (step uuid w a).adjusted s i = w.adjusted s i + 0 :=
      congrArg (w.adjusted s i + ·) none
    rw [h.quantityAvailable, ← same, after.quantityAvailable, adjusted]
    omega
  cases hc : a.call with
  | reserve storeID itemID cartID kioskID quantity =>
    rw [hc] at htx
    intro s i parsed
    obtain ⟨⟨db₁, id⟩, reserve, rfl⟩ := Statement.map_eq_ok.mp htx
    obtain ⟨store, item, reserved, new, row, parsed', -, positive, -, -, rfl, rfl, rfl, -, room, -,
      -, -, reservations, -⟩ := Postgres.reserveTx_eq_ok reserve
    rw [parsed] at parsed'
    obtain ⟨rfl, rfl⟩ := Prod.mk.inj (Except.ok.inj parsed')
    rw [Int32.lt_iff_toInt_lt, Int32.toInt_zero] at positive
    have held : new.held new.storeID new.itemID = new.quantity.toInt := if_pos ⟨rfl, rfl⟩
    rw [shown _ _ (by rw [hc]; rfl), DB.reserved_upsert positive room reservations, held]
    omega
  | release storeID itemID cartID =>
    rw [hc] at htx
    intro s i cart parsed hcart row found
    obtain ⟨store, item, cart', parsed', hcart', effect⟩ := Postgres.releaseTx_eq_ok htx
    rw [parsed] at parsed'
    rw [hcart] at hcart'
    obtain ⟨rfl, rfl⟩ := Prod.mk.inj (Except.ok.inj parsed')
    obtain rfl := Except.ok.inj hcart'
    obtain ⟨hrow, key⟩ := Table.find?_eq_some.mp found
    rcases effect with ⟨none, -⟩ | ⟨row', next, found', -, -, -, rest⟩
    · rw [none] at found
      cases found
    · rw [← key] at rest
      have held : row.held s i = row.quantity.toInt :=
        if_pos ⟨congrArg Prod.fst key, congrArg (fun k => k.2.1) key⟩
      have reserved := DB.reserved_delete rest s i
      rw [Settled.quantityOf_filter_key hrow, held] at reserved
      rw [shown _ _ (by rw [hc]; rfl)]
      omega
  | adjustStock => trivial
  | expireReservations nowMs =>
    rw [hc] at htx
    intro s i
    obtain ⟨-, rest, -, -⟩ := expireRows_eq_ok (Postgres.expireReservationsTx_eq_ok htx)
    have reserved := DB.reserved_delete rest s i
    rw [shown _ _ (by rw [hc]; rfl), quantityOf_expiredRows]
    change db'.reserved s i + _ = w.db.reserved s i at reserved
    omega

end

theorem settled_start (inventory : Table InventoryRow (UUID × UUID) InventoryRow.key) :
    Settled (.start inventory) where
  toSound := sound_start inventory
  total _ _ := rfl
  nonneg _ _ := le_rfl
  exclusive _ _ := .inl rfl
  single _ hr := absurd hr List.not_mem_nil
  bound _ _ := (by decide : (0 : ℤ) < 2 ^ 31)

/-! ## Histories -/

/-- While of every item all or nothing is reserved, the stock is what adjustments and reservations
make it. -/
theorem stock_conserved {uuid : UUIDText}
    {inventory : Table InventoryRow (UUID × UUID) InventoryRow.key} {acts : List Action}
    (guard : Runs.EachStep (step uuid) (AllOrNothing uuid) (.start inventory) acts) :
    Runs.Always (step uuid) (StockRight uuid) (.start inventory) acts ∧
      Runs.EachStep (step uuid) (Moves uuid) (.start inventory) acts := by
  have start := settled_start inventory
  constructor
  · exact Runs.always_of_eachStep (fun _ h => h.stockRight uuid) (fun _ _ => settled_step) start guard
  · exact Runs.eachStep_of_eachStep (fun w _ (h : Settled w) => moves h) (fun _ _ => settled_step) start
      guard

theorem parse_texts : parseStoreItem .hyphenated (text 1) (text 2) = .ok (1, 2) := by decide +kernel

theorem stock_conserved_all_ten :
    Runs.Always (step .hyphenated) (StockRight .hyphenated) (.start stocked)
        [restock 10 10, hold 11 3 10, sweep 12 12] ∧
      Runs.EachStep (step .hyphenated) (Moves .hyphenated) (.start stocked)
        [restock 10 10, hold 11 3 10, sweep 12 12] := by
  refine stock_conserved ⟨?_, ?_, fun _ => trivial, trivial⟩
  · intro _ s i _
    exact ⟨.inl rfl, (by decide : 0 + (10 : Int32).toInt < 2 ^ 31)⟩
  · intro _ s i parsed _
    rw [parse_texts] at parsed
    obtain ⟨rfl, rfl⟩ := Prod.mk.inj (Except.ok.inj parsed)
    decide +kernel

/-- One of ten units is reserved, and eight are left. -/
theorem reservation_counts_twice : ¬ ∀ uuid inventory acts,
    Runs.Always (step uuid) (StockRight uuid) (.start inventory) acts ∧
      Runs.EachStep (step uuid) (Moves uuid) (.start inventory) acts := by
  intro claim
  have right := Runs.always_last (claim .hyphenated stocked [restock 10 10, hold 11 3 1]).1
  obtain ⟨stock, read, -, shown⟩ := right _ (List.mem_singleton.mpr rfl) (text 1) (text 2) parse_texts
  have eight : (getStock .hyphenated (Runs.run (step .hyphenated) (.start stocked)
      [restock 10 10, hold 11 3 1]).db (text 1) (text 2)).map Stock.quantityAvailable = .ok 8 := by
    decide +kernel
  rw [read] at eight
  rw [Except.ok.inj eight] at shown
  revert shown
  decide +kernel

end InventoryService
