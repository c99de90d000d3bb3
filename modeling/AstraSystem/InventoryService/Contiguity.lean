import Mathlib.Algebra.Order.BigOperators.Group.List
import AstraSystem.InventoryService.Postgres
import AstraSystem.Lib.Runs

/-!
# Histories of the Postgres inventory, and its running balance

Calls run one after another, each transaction starting after the one before it.
The balance an item shows is the sum of its ledger as long as every sweep
writes an item's rows with increasing ids and no balance outgrows 32 bits.
-/

namespace InventoryService

/-- The tables, the start of the last transaction, and the accepted `AdjustStock` deltas. -/
structure World where
  db : DB
  clock : Time := 0
  adjusted : UUID → UUID → ℤ := fun _ _ => 0

/-- A call that starts some time after the one before it. -/
structure Action where
  call : Call
  env : Env
  wait : ℕ := 0

/-- Nothing has happened yet to the items in stock. -/
def World.start (inventory : Table InventoryRow (UUID × UUID) InventoryRow.key) : World where
  db := { inventory }

def World.env (w : World) (a : Action) : Env := { a.env with now := w.clock + 1 + a.wait }

def Fault.commits : Fault → Bool
  | .rolledBack _ => false
  | .none | .unread _ => true

/-- What a call adds to the accepted deltas of an item. -/
def adjustment (uuid : UUIDText) (db : DB) (env : Env) (c : Call) (store item : UUID) : ℤ :=
  match c, Postgres.tx uuid db env c with
  | .adjustStock storeID itemID delta .., .ok _ =>
    match parseStoreItem uuid storeID itemID with
    | .ok p => if env.fault.commits ∧ p = (store, item) then delta.toInt else 0
    | .error _ => 0
  | _, _ => 0

def step (uuid : UUIDText) (w : World) (a : Action) : World where
  db := (Postgres.call uuid w.db (w.env a) a.call).1
  clock := w.clock + 1 + a.wait
  adjusted store item := w.adjusted store item + adjustment uuid w.db (w.env a) a.call store item

namespace DB

/-- The sum of an item's ledger. -/
def total (db : DB) (store item : UUID) : ℤ := ((db.ledger store item).map TransactionRow.delta).sum

/-- Every item shows the sum of its ledger. -/
def Contiguous (db : DB) : Prop :=
  ∀ store item, RunningBalance.Contiguous TransactionRow.stamp TransactionRow.delta
    TransactionRow.balance (db.ledger store item)

theorem toInt_runningBalance (db : DB) (store item : UUID) :
    (db.runningBalance store item).toInt =
      RunningBalance.shown TransactionRow.stamp TransactionRow.balance (db.ledger store item) := by
  rw [runningBalance, RunningBalance.shown, latestTransaction]
  cases RunningBalance.latest TransactionRow.stamp (db.ledger store item) <;> rfl

theorem Contiguous.toInt_runningBalance {db : DB} (h : db.Contiguous) (store item : UUID) :
    (db.runningBalance store item).toInt = db.total store item :=
  (db.toInt_runningBalance store item).trans (h store item)

/-- The next balance of an item fits in 32 bits. -/
def Room (db : DB) (store item : UUID) (amount : ℤ) : Prop :=
  (db.runningBalance store item).toInt + amount < 2 ^ 31

instance decidableRoom (db : DB) (store item : UUID) (amount : ℤ) :
    Decidable (db.Room store item amount) :=
  inferInstanceAs (Decidable (_ < _))

end DB

/-! ## One more row -/

section
variable {db db' : DB} {now : Time} {id store item : UUID} {amount : Int32} {row : TransactionRow}

theorem NextRow.ledger (next : NextRow db now id store item amount row)
    (writes : db'.transactions = db.transactions ++ [row]) (s i : UUID) :
    db'.ledger s i = if store = s ∧ item = i then db.ledger s i ++ [row] else db.ledger s i := by
  obtain ⟨rfl, rfl, -⟩ := next
  rw [DB.ledger, writes, List.filter_append]
  split
  · rename_i same
    rw [List.filter_cons_of_pos (by simpa using same)]
    rfl
  · rename_i other
    rw [List.filter_cons_of_neg (by simpa using other), List.filter_nil, List.append_nil]
    rfl

theorem NextRow.total (next : NextRow db now id store item amount row)
    (writes : db'.transactions = db.transactions ++ [row]) (s i : UUID) :
    db'.total s i = db.total s i + if store = s ∧ item = i then amount.toInt else 0 := by
  rw [DB.total, next.ledger writes]
  split
  · rw [List.map_append, List.sum_append, List.map_singleton, List.sum_singleton, next.delta]
    rfl
  · rw [add_zero]
    rfl

theorem NextRow.balance_of_room (next : NextRow db now id store item amount row)
    (room : db.Room store item amount.toInt) :
    row.balance = (db.runningBalance store item).toInt + amount.toInt := by
  have positive := next.positive
  rw [next.balance]
  exact Int.bmod_eq_of_le (by omega) (by unfold DB.Room at room; omega)

/-- A row that is newer than the item's others and fits keeps every ledger contiguous. -/
theorem NextRow.contiguous (next : NextRow db now id store item amount row)
    (writes : db'.transactions = db.transactions ++ [row]) (h : db.Contiguous)
    (newest : ∀ r ∈ db.ledger store item, r.stamp < toLex (now, id))
    (room : db.Room store item amount.toInt) : db'.Contiguous := by
  intro s i
  rw [next.ledger writes]
  split
  · rename_i same
    obtain ⟨rfl, rfl⟩ := same
    refine RunningBalance.contiguous_concat (h store item) ?_ ?_
    · rw [next.stamp]
      exact newest
    · rw [next.balance_of_room room, next.delta, db.toInt_runningBalance]
  · exact h s i

theorem NextRow.createdAt (next : NextRow db now id store item amount row)
    (writes : db'.transactions = db.transactions ++ [row])
    (old : ∀ r ∈ db.transactions, r.createdAt ≤ now) : ∀ r ∈ db'.transactions, r.createdAt ≤ now := by
  rw [writes]
  intro r hr
  rcases List.mem_append.mp hr with hr | hr
  · exact old r hr
  · rw [List.mem_singleton.mp hr]
    exact le_of_eq (congrArg (fun s => (ofLex s).1) next.stamp)

/-- A transaction that starts later writes newer rows. -/
theorem stamp_lt {r : TransactionRow} (h : r.createdAt < now) (id : UUID) :
    r.stamp < toLex (now, id) := Prod.Lex.toLex_lt_toLex.mpr (.inl h)

end

/-! ## The rows of a sweep -/

/-- How much of an item the reservations hold. -/
def quantityOf (rows : List ReservationRow) (store item : UUID) : ℤ :=
  ((rows.filter fun r => r.storeID = store ∧ r.itemID = item).map fun r => r.quantity.toInt).sum

/-- The rows that a sweep writes for one item come with increasing ids. -/
def IdsIncrease (ids : ℕ → UUID) (rows : List ReservationRow) (k : ℕ) : Prop :=
  (rows.zipIdx k).Pairwise fun a b =>
    a.1.storeID = b.1.storeID ∧ a.1.itemID = b.1.itemID → ids a.2 < ids b.2

instance decidableIdsIncrease (ids : ℕ → UUID) (rows : List ReservationRow) (k : ℕ) :
    Decidable (IdsIncrease ids rows k) :=
  inferInstanceAs (Decidable (List.Pairwise _ _))

theorem quantityOf_cons (row : ReservationRow) (rows : List ReservationRow) (s i : UUID) :
    quantityOf (row :: rows) s i =
      (if row.storeID = s ∧ row.itemID = i then row.quantity.toInt else 0) + quantityOf rows s i := by
  unfold quantityOf
  split
  · rename_i same
    rw [List.filter_cons_of_pos (by simpa using same)]
    rfl
  · rename_i other
    rw [List.filter_cons_of_neg (by simpa using other), zero_add]

theorem quantityOf_nonneg {rows : List ReservationRow} (positive : ∀ r ∈ rows, 0 < r.quantity.toInt)
    (s i : UUID) : 0 ≤ quantityOf rows s i := by
  refine List.sum_nonneg ?_
  intro q hq
  obtain ⟨r, hr, rfl⟩ := List.mem_map.mp hq
  exact (positive r (List.mem_of_mem_filter hr)).le

section
variable {uuid : UUIDText} {db db' : DB} {env : Env} {nowMs : Int64} {rows : List ReservationRow}
  {k : ℕ}

/-- A sweep that succeeds writes one row for the first reservation and goes on with the others. -/
theorem expireRows_cons_eq_ok {row : ReservationRow}
    (h : Postgres.expireRows uuid env nowMs db k (row :: rows) = .ok db') :
    ∃ db₁ next, NextRow db env.now (env.transactionIDs k) row.storeID row.itemID row.quantity next ∧
      db₁.transactions = db.transactions ++ [next] ∧ db₁.inventory = db.inventory ∧
      db₁.reservations = db.reservations ∧
      Postgres.expireRows uuid env nowMs db₁ (k + 1) rows = .ok db' := by
  obtain ⟨db₁, hinsert, h⟩ := Statement.bind_eq_ok.mp h
  obtain ⟨next, hnext, rfl⟩ := insertTransactionWithinTx_eq_ok hinsert
  exact ⟨_, next, hnext, by simp, by simp, by simp, h⟩

theorem expireRows_eq_ok (h : Postgres.expireRows uuid env nowMs db k rows = .ok db') :
    db'.inventory = db.inventory ∧ db'.reservations = db.reservations ∧
      (∀ s i, db'.total s i = db.total s i + quantityOf rows s i) ∧
      ((∀ r ∈ db.transactions, r.createdAt ≤ env.now) →
        ∀ r ∈ db'.transactions, r.createdAt ≤ env.now) := by
  induction rows generalizing db k with
  | nil =>
    cases h
    exact ⟨rfl, rfl, fun s i => (add_zero _).symm, id⟩
  | cons row rows ih =>
    obtain ⟨db₁, next, hnext, writes, inventory, reservations, h⟩ := expireRows_cons_eq_ok h
    obtain ⟨inventory', reservations', total, createdAt⟩ := ih h
    refine ⟨inventory'.trans inventory, reservations'.trans reservations, ?_, ?_⟩
    · intro s i
      rw [total, hnext.total writes, quantityOf_cons, add_assoc]
    · intro old
      exact createdAt (hnext.createdAt writes old)

/-- The rows of a sweep that come with increasing ids, newer than the ledgers, and fit. -/
structure Sweepable (db : DB) (env : Env) (rows : List ReservationRow) (k : ℕ) : Prop where
  contiguous : db.Contiguous
  increase : IdsIncrease env.transactionIDs rows k
  newest : ∀ p ∈ rows.zipIdx k, ∀ r ∈ db.ledger p.1.storeID p.1.itemID,
    r.stamp < toLex (env.now, env.transactionIDs p.2)
  positive : ∀ r ∈ rows, 0 < r.quantity.toInt
  room : ∀ r ∈ rows, db.Room r.storeID r.itemID (quantityOf rows r.storeID r.itemID)

/-- Once the first is written, so are the others. -/
theorem Sweepable.next {row : ReservationRow} (h : Sweepable db env (row :: rows) k)
    {next : TransactionRow}
    (hnext : NextRow db env.now (env.transactionIDs k) row.storeID row.itemID row.quantity next)
    (writes : db'.transactions = db.transactions ++ [next]) : Sweepable db' env rows (k + 1) := by
  obtain ⟨contiguous, increase, newest, positive, room⟩ := h
  rw [IdsIncrease, List.zipIdx_cons, List.pairwise_cons] at increase
  obtain ⟨above, increase⟩ := increase
  rw [List.zipIdx_cons] at newest
  have rest := quantityOf_nonneg fun r hr => positive r (List.mem_cons_of_mem row hr)
  have first : db.Room row.storeID row.itemID row.quantity.toInt := by
    have all := room row List.mem_cons_self
    rw [DB.Room, quantityOf_cons, if_pos ⟨rfl, rfl⟩] at all
    have := rest row.storeID row.itemID
    unfold DB.Room
    omega
  have contiguous' := hnext.contiguous writes contiguous (newest _ List.mem_cons_self) first
  refine ⟨contiguous', increase, ?_, fun r hr => positive r (List.mem_cons_of_mem _ hr), ?_⟩
  · intro p hp r hr
    rw [hnext.ledger writes] at hr
    split at hr
    · rename_i same
      rcases List.mem_append.mp hr with hr | hr
      · exact newest p (List.mem_cons_of_mem _ hp) r hr
      · rw [List.mem_singleton.mp hr, hnext.stamp, Prod.Lex.toLex_lt_toLex]
        exact .inr ⟨rfl, above p hp same⟩
    · exact newest p (List.mem_cons_of_mem _ hp) r hr
  · intro r hr
    have all := room r (List.mem_cons_of_mem _ hr)
    rw [DB.Room, contiguous.toInt_runningBalance, quantityOf_cons] at all
    rw [DB.Room, contiguous'.toInt_runningBalance, hnext.total writes]
    omega

/-- Such a sweep keeps every ledger contiguous. -/
theorem expireRows_contiguous (h : Postgres.expireRows uuid env nowMs db k rows = .ok db')
    (ready : Sweepable db env rows k) : db'.Contiguous := by
  induction rows generalizing db k with
  | nil =>
    cases h
    exact ready.contiguous
  | cons row rows ih =>
    obtain ⟨db₁, next, hnext, writes, -, -, h⟩ := expireRows_cons_eq_ok h
    exact ih h (ready.next hnext writes)

end

/-! ## One call -/

/-- A call leaves the tables alone, or its transaction commits. -/
theorem call_cases (uuid : UUIDText) (db : DB) (env : Env) (c : Call) :
    ((Postgres.call uuid db env c).1 = db ∧ ∀ s i, adjustment uuid db env c s i = 0) ∨
      (env.fault.commits = true ∧ Postgres.tx uuid db env c = .ok (Postgres.call uuid db env c).1) := by
  unfold Postgres.call adjustment
  cases htx : Postgres.tx uuid db env c with
  | error err => exact .inl ⟨rfl, fun s i => by cases c <;> rfl⟩
  | ok db' =>
    cases hf : env.fault with
    | rolledBack err =>
      refine .inl ⟨rfl, fun s i => ?_⟩
      cases c with
      | adjustStock storeID itemID =>
        simp only [Fault.commits, Bool.false_eq_true, false_and, ↓reduceIte]
        split <;> rfl
      | reserve | release | expireReservations => rfl
    | unread err => cases c <;> exact .inr ⟨rfl, rfl⟩
    | none => exact .inr ⟨rfl, rfl⟩

theorem call_of_commits {uuid : UUIDText} {db db' : DB} {env : Env} {c : Call}
    (h : Postgres.tx uuid db env c = .ok db') (commits : env.fault.commits = true) :
    (Postgres.call uuid db env c).1 = db' := by
  unfold Postgres.call
  rw [h]
  cases hf : env.fault with
  | rolledBack err =>
    rw [hf] at commits
    cases commits
  | unread err => cases c <;> rfl
  | none => rfl

/-- No balance outgrows 32 bits, and a sweep's rows for one item come with increasing ids. -/
def InOrder (uuid : UUIDText) (w : World) (a : Action) : Prop :=
  a.env.fault.commits = true → match a.call with
  | .reserve .. => True
  | .release storeID itemID cartID =>
    ∀ store item cart, parseStoreItem uuid storeID itemID = .ok (store, item) →
      uuid.parse cartID = .ok cart → ∀ row ∈ w.db.reservations.find? (store, item, cart),
        w.db.Room store item row.quantity.toInt
  | .adjustStock storeID itemID delta .. =>
    ∀ store item, parseStoreItem uuid storeID itemID = .ok (store, item) →
      w.db.Room store item delta.toInt
  | .expireReservations nowMs =>
    let rows := Postgres.expiredRows w.db (w.env a) nowMs
    IdsIncrease a.env.transactionIDs rows 0 ∧
      ∀ r ∈ rows, w.db.Room r.storeID r.itemID (quantityOf rows r.storeID r.itemID)

structure Sound (w : World) : Prop where
  contiguous : w.db.Contiguous
  past : ∀ r ∈ w.db.transactions, r.createdAt ≤ w.clock
  positive : ∀ r ∈ w.db.reservations.rows, 0 < r.quantity.toInt

theorem sound_start (inventory : Table InventoryRow (UUID × UUID) InventoryRow.key) :
    Sound (.start inventory) where
  contiguous _ _ := RunningBalance.contiguous_nil
  past _ hr := absurd hr List.not_mem_nil
  positive _ hr := absurd hr List.not_mem_nil

theorem mem_expiredRows {db : DB} {env : Env} {nowMs : Int64} {r : ReservationRow} :
    r ∈ Postgres.expiredRows db env nowMs ↔ r ∈ db.reservations.rows ∧ r.expiresAtMs < nowMs := by
  simp [Postgres.expiredRows, (env.returning.perm _).mem_iff]

theorem toInt_conflict {old new : ReservationRow} (positive : 0 < new.quantity.toInt)
    (room : old.quantity.toInt + new.quantity.toInt < 2 ^ 31) :
    (DB.conflict old new).quantity.toInt = old.quantity.toInt + new.quantity.toInt := by
  have := old.quantity.le_toInt
  exact toInt_add (by omega) room

theorem toInt_neg {q : Int32} (h : 0 < q.toInt) : (-q).toInt = -q.toInt := by
  have := q.toInt_lt
  rw [Int32.toInt_neg]
  exact Int.bmod_eq_of_le (by omega) (by omega)

/-- Reservations stay positive when a positive one is added. -/
theorem positive_upsert {db : DB} {new : ReservationRow} (h : 0 < new.quantity.toInt)
    (room : ∀ old ∈ db.reservations.find? new.key, old.quantity.toInt + new.quantity.toInt < 2 ^ 31)
    (positive : ∀ r ∈ db.reservations.rows, 0 < r.quantity.toInt) :
    ∀ r ∈ (db.reservations.upsert DB.conflict (fun _ _ => rfl) new).rows, 0 < r.quantity.toInt := by
  intro r hr
  rcases Table.mem_upsert.mp hr with ⟨hr, -⟩ | ⟨old, hold, same, rfl⟩ | ⟨-, rfl⟩
  · exact positive r hr
  · have := positive old hold
    rw [toInt_conflict h (room old (Table.find?_eq_some.mpr ⟨hold, same⟩))]
    omega
  · exact h

theorem lt_now (w : World) (a : Action) : w.clock < (w.env a).now :=
  (lt_add_one _).trans_le (le_add_of_nonneg_right (Int.natCast_nonneg _))

/-- A sweep whose ids increase and whose rows fit. -/
theorem Sound.sweepable {w : World} (h : Sound w) (a : Action) {nowMs : Int64}
    (increase : IdsIncrease a.env.transactionIDs (Postgres.expiredRows w.db (w.env a) nowMs) 0)
    (room : ∀ r ∈ Postgres.expiredRows w.db (w.env a) nowMs, w.db.Room r.storeID r.itemID
      (quantityOf (Postgres.expiredRows w.db (w.env a) nowMs) r.storeID r.itemID)) :
    Sweepable { w.db with reservations := w.db.reservations.delete (·.expiresAtMs < nowMs) }
      (w.env a) (Postgres.expiredRows w.db (w.env a) nowMs) 0 where
  contiguous := h.contiguous
  increase := increase
  newest _ _ r hr := stamp_lt ((h.past r (List.mem_of_mem_filter hr)).trans_lt (lt_now w a)) _
  positive r hr := h.positive r (mem_expiredRows.mp hr).1
  room := room

/-- No row is newer than the clock. -/
def World.Past (w : World) : Prop := ∀ r ∈ w.db.transactions, r.createdAt ≤ w.clock

/-- Whatever a call does, its rows are as old as its transaction. -/
theorem past_step {uuid : UUIDText} (w : World) (a : Action) (h : w.Past) : (step uuid w a).Past := by
  have past : ∀ r ∈ w.db.transactions, r.createdAt ≤ (w.env a).now := fun r hr =>
    (h r hr).trans (lt_now w a).le
  rcases call_cases uuid w.db (w.env a) a.call with ⟨same, -⟩ | ⟨-, htx⟩
  · intro r hr
    have db : (step uuid w a).db = w.db := same
    exact past r (db ▸ hr)
  · have db : (Postgres.call uuid w.db (w.env a) a.call).1 = (step uuid w a).db := rfl
    rw [db] at htx
    cases hc : a.call with
    | reserve storeID itemID cartID kioskID quantity =>
      rw [hc] at htx
      obtain ⟨⟨db', id⟩, htx, rfl⟩ := Statement.map_eq_ok.mp htx
      obtain ⟨_, _, _, _, _, -, -, -, -, -, -, -, -, -, -, hnext, -, writes, -⟩ := Postgres.reserveTx_eq_ok htx
      exact hnext.createdAt writes past
    | release storeID itemID cartID =>
      rw [hc] at htx
      obtain ⟨_, _, _, -, -, ⟨-, same⟩ | ⟨_, _, -, hnext, -, writes, -⟩⟩ := Postgres.releaseTx_eq_ok htx
      · intro r hr
        exact past r (same ▸ hr)
      · exact hnext.createdAt writes past
    | adjustStock storeID itemID delta typ referenceID referenceType notes =>
      rw [hc] at htx
      obtain ⟨_, _, _, -, hnext, -, writes, -⟩ := Postgres.adjustStockTx_eq_ok htx
      exact hnext.createdAt writes past
    | expireReservations nowMs =>
      rw [hc] at htx
      obtain ⟨-, -, -, createdAt⟩ := expireRows_eq_ok (Postgres.expireReservationsTx_eq_ok htx)
      exact createdAt past

theorem sound_step {uuid : UUIDText} {w : World} {a : Action} (h : Sound w)
    (guard : InOrder uuid w a) : Sound (step uuid w a) := by
  have later := lt_now w a
  have past : (step uuid w a).Past := past_step w a h.past
  have newest (id s i : UUID) : ∀ r ∈ w.db.ledger s i, r.stamp < toLex ((w.env a).now, id) :=
    fun r hr => stamp_lt ((h.past r (List.mem_of_mem_filter hr)).trans_lt later) id
  rcases call_cases uuid w.db (w.env a) a.call with ⟨same, -⟩ | ⟨commits, htx⟩
  · have db : (step uuid w a).db = w.db := same
    exact ⟨db ▸ h.contiguous, past, db ▸ h.positive⟩
  · have db : (Postgres.call uuid w.db (w.env a) a.call).1 = (step uuid w a).db := rfl
    rw [db] at htx
    have guard := guard commits
    cases hc : a.call with
    | reserve storeID itemID cartID kioskID quantity =>
      rw [hc] at htx
      obtain ⟨⟨db', id⟩, htx, rfl⟩ := Statement.map_eq_ok.mp htx
      obtain ⟨store, item, reserved, new, row, -, -, hq, -, -, -, -, rfl, -, room, hnext, -, writes,
        reservations, -⟩ := Postgres.reserveTx_eq_ok htx
      rw [Int32.lt_iff_toInt_lt, Int32.toInt_zero] at hq
      refine ⟨hnext.contiguous writes h.contiguous (newest _ _ _) ?_, past, ?_⟩
      · have := (w.db.runningBalance store item).toInt_lt
        rw [DB.Room, toInt_neg hq]
        omega
      · rw [reservations]
        exact positive_upsert hq room h.positive
    | release storeID itemID cartID =>
      rw [hc] at htx guard
      obtain ⟨store, item, cart, hitem, hcart, ⟨-, same⟩ | ⟨row, next, found, hnext, -, writes, rest⟩⟩ :=
        Postgres.releaseTx_eq_ok htx
      · exact ⟨same ▸ h.contiguous, past, same ▸ h.positive⟩
      · refine ⟨hnext.contiguous writes h.contiguous (newest _ _ _)
          (guard store item cart hitem hcart row found), past, ?_⟩
        intro r hr
        rw [rest] at hr
        exact h.positive r (Table.mem_delete.mp hr).1
    | adjustStock storeID itemID delta typ referenceID referenceType notes =>
      rw [hc] at htx guard
      obtain ⟨store, item, row, hitem, hnext, -, writes, rest⟩ := Postgres.adjustStockTx_eq_ok htx
      exact ⟨hnext.contiguous writes h.contiguous (newest _ _ _) (guard store item hitem),
        past, rest ▸ h.positive⟩
    | expireReservations nowMs =>
      rw [hc] at htx guard
      have swept := Postgres.expireReservationsTx_eq_ok htx
      obtain ⟨-, reservations, -⟩ := expireRows_eq_ok swept
      refine ⟨expireRows_contiguous swept (h.sweepable a guard.1 guard.2), past, ?_⟩
      intro r hr
      rw [reservations] at hr
      exact h.positive r (Table.mem_delete.mp hr).1

/-! ## Histories -/

/-- As long as balances fit and sweeps write in the order of their ids, every item shows the sum of
its ledger. -/
theorem ledger_contiguous {uuid : UUIDText}
    {inventory : Table InventoryRow (UUID × UUID) InventoryRow.key} {acts : List Action}
    (inOrder : Runs.EachStep (step uuid) (InOrder uuid) (.start inventory) acts) :
    Runs.Always (step uuid) (fun w => w.db.Contiguous) (.start inventory) acts :=
  Runs.always_of_eachStep (fun _ h => h.contiguous) (fun _ _ => sound_step) (sound_start inventory)
    inOrder

/-- One item of one store. -/
def stocked : Table InventoryRow (UUID × UUID) InventoryRow.key where
  rows := [⟨9, 1, 2, 0, 0, 0, none⟩]
  nodup := List.nodup_singleton _

/-- Text of a small UUID. -/
def text (u : UUID) : String := UUIDText.hyphenated.string u

/-- A call whose ids start from `id`, and go on with `next`. -/
def demoEnv (id next : UUID) : Env where
  now := 0
  nowMs := 0
  occurredAtMs := 0
  reservationID := id
  transactionIDs k := if k = 0 then id else next
  eventIDs k := if k = 0 then id else next

def restock (id : UUID) (delta : Int32) : Action where
  call := .adjustStock (text 1) (text 2) delta .restock "" "" ""
  env := demoEnv id id

def hold (id cart : UUID) (quantity : Int32) : Action where
  call := .reserve (text 1) (text 2) (text cart) (text 5) quantity
  env := demoEnv id id

def sweep (id next : UUID) : Action where
  call := .expireReservations 400000
  env := demoEnv id next

theorem ledger_contiguous_two_expired :
    Runs.Always (step .hyphenated) (fun w => w.db.Contiguous) (.start stocked)
      [restock 10 10, hold 11 3 1, hold 12 4 2, sweep 21 22] := by
  refine ledger_contiguous ⟨?_, fun _ => trivial, fun _ => trivial, ?_, trivial⟩
  · intro _ store item _
    exact (by decide : (0 : Int32).toInt + (10 : Int32).toInt < 2 ^ 31)
  · intro _
    simp only [sweep]
    decide +kernel

/-- A sweep whose second row has the smaller id leaves the first row's balance on show. -/
theorem sweep_loses_a_row : ¬ ∀ uuid inventory acts,
    Runs.Always (step uuid) (fun w => w.db.Contiguous) (.start inventory) acts := by
  intro claim
  have shown := Runs.always_last (claim .hyphenated stocked
    [restock 10 10, hold 11 3 1, hold 12 4 2, sweep 22 21]) 1 2
  revert shown
  unfold RunningBalance.Contiguous
  decide +kernel

end InventoryService
