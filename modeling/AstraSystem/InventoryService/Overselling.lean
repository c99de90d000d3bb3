import AstraSystem.InventoryService.StockConservation

/-!
# Concurrent transactions on one item

`Reserve`, `Release` and `AdjustStock` interleaved statement by statement at
READ COMMITTED: a statement sees what has committed before it, and a reservation
row that one transaction has written makes the others wait. The outbox row and
the notes of an adjustment, which nothing here reads, are left out.
-/

namespace InventoryService.Concurrent

inductive Request where
  | reserve (cart kiosk : UUID) (quantity : Int32)
  | release (cart : UUID)
  | adjustStock (delta : Int32) (typ : TransactionType)
  deriving DecidableEq, Repr

/-- What a transaction has done to the reservations. -/
inductive Write where
  | none
  /-- It has put `new` in the place of the row it saw. -/
  | hold (seen : Option ReservationRow) (new : ReservationRow)
  | free (row : ReservationRow)
  deriving DecidableEq, Repr

/-- A transaction that has written to the reservations and comes to its ledger row. -/
structure Pending where
  now : Time
  write : Write
  delta : Int32
  typ : TransactionType
  deriving DecidableEq, Repr

/-- How far a transaction has got. -/
inductive Phase where
  | idle
  | begun (now : Time) (req : Request)
  | balanceRead (now : Time) (cart kiosk : UUID) (quantity physical : Int32)
  | approved (now : Time) (cart kiosk : UUID) (quantity : Int32)
  | changed (p : Pending)
  | previousRead (p : Pending) (previous : Option TransactionRow) (newBalance : Int32)
  | inserted (p : Pending) (previous : Option TransactionRow) (row : TransactionRow)
  deriving DecidableEq, Repr

inductive Act (Tid : Type*) where
  | begin (t : Tid) (wait : ℕ) (req : Request)
  /-- The next statement of a transaction, its commit included. -/
  | next (t : Tid) (env : Env)
  /-- A statement fails or the connection is lost. -/
  | rollback (t : Tid)

/-- What is committed, the transactions and the locks they hold on the reservations of carts. -/
structure World (Tid : Type*) where
  db : DB
  clock : Time := 0
  adjusted : ℤ := 0
  txs : Tid → Phase := fun _ => .idle
  locks : UUID → Option Tid := fun _ => .none

def Write.cart : Write → Option UUID
  | .none => .none
  | .hold _ new => some new.cartID
  | .free row => some row.cartID

/-- The cart whose reservation a transaction has written. -/
def Phase.cart : Phase → Option UUID
  | .changed p | .previousRead p _ _ | .inserted p _ _ => p.write.cart
  | .idle | .begun _ _ | .balanceRead .. | .approved .. => .none

def Write.install (w : Write) (db : DB) : DB :=
  match w with
  | .none => db
  | .hold _ new => { db with reservations := db.reservations.upsert (fun _ new => new) (fun _ _ => rfl) new }
  | .free row => { db with reservations := db.reservations.delete (·.key = row.key) }

/-- The ledger row that a transaction inserts. -/
def Pending.row (p : Pending) (store item id : UUID) (newBalance : Int32) : TransactionRow where
  transactionID := id
  storeID := store
  itemID := item
  transactionType := p.typ.string
  quantityDelta := p.delta
  runningBalance := newBalance
  referenceID := p.write.cart
  referenceType := .none
  notes := .none
  createdAt := p.now

variable {Tid : Type*} [DecidableEq Tid]

namespace World

def goto (w : World Tid) (t : Tid) (phase : Phase) : World Tid :=
  { w with txs := fun t' => if t' = t then phase else w.txs t' }

/-- A transaction ends and lets its lock go. -/
def finish (w : World Tid) (t : Tid) : World Tid :=
  { w with
    txs := fun t' => if t' = t then .idle else w.txs t'
    locks := fun cart => if w.locks cart = some t then .none else w.locks cart }

/-- A transaction has written the reservation of a cart. -/
def lock (w : World Tid) (t : Tid) (cart : UUID) (p : Pending) : World Tid :=
  { w with
    txs := fun t' => if t' = t then .changed p else w.txs t'
    locks := fun c => if c = cart then some t else w.locks c }

end World

variable (store item : UUID)

/-- `INSERT … ON CONFLICT`, which waits for another transaction on the cart's reservation. -/
def upsert (w : World Tid) (t : Tid) (env : Env) (now : Time) (cart kiosk : UUID)
    (quantity : Int32) : World Tid :=
  let row : ReservationRow := ⟨env.reservationID, store, kiosk, item, cart, quantity,
    env.nowMs + 300000, env.occurredAtMs⟩
  let seen := w.db.reservations.find? row.key
  if w.locks cart ≠ .none then w
  else match w.db.upsertReservation row with
    | .error _ => w.finish t
    | .ok _ => w.lock t cart ⟨now, .hold seen (seen.elim row (DB.conflict · row)), -quantity, .reserved⟩

/-- `DELETE … RETURNING`, which waits for another transaction on the row it finds. -/
def delete (w : World Tid) (t : Tid) (now : Time) (cart : UUID) : World Tid :=
  match w.db.reservations.find? (store, item, cart) with
  | .none => w.finish t
  | some row =>
    if w.locks cart ≠ .none then w
    else w.lock t cart ⟨now, .free row, row.quantity, .released⟩

def commit (w : World Tid) (t : Tid) (p : Pending) (row : TransactionRow) : World Tid :=
  match w.db.insertTransaction row with
  | .error _ => w.finish t
  | .ok db =>
    { w.finish t with
      db := p.write.install db
      adjusted := w.adjusted + if p.write = .none then p.delta.toInt else 0 }

/-- The next statement of a transaction. -/
def statement (w : World Tid) (t : Tid) (env : Env) : World Tid :=
  match w.txs t with
  | .idle => w
  | .begun now (.reserve cart kiosk quantity) =>
    if w.db.inventory.find? (store, item) = .none then w.finish t
    else w.goto t (.balanceRead now cart kiosk quantity (w.db.runningBalance store item))
  | .balanceRead now cart kiosk quantity physical =>
    match w.db.selectReserved store item with
    | .error _ => w.finish t
    | .ok reserved =>
      if available physical reserved < quantity then w.finish t
      else w.goto t (.approved now cart kiosk quantity)
  | .approved now cart kiosk quantity => upsert store item w t env now cart kiosk quantity
  | .begun now (.release cart) => delete store item w t now cart
  | .begun now (.adjustStock delta typ) => w.goto t (.changed ⟨now, .none, delta, typ⟩)
  | .changed p =>
    match applyDelta (w.db.runningBalance store item) p.delta p.typ with
    | .error _ => w.finish t
    | .ok newBalance => w.goto t (.previousRead p (w.db.latestTransaction store item) newBalance)
  | .previousRead p previous newBalance =>
    w.goto t (.inserted p previous (p.row store item (env.transactionIDs 0) newBalance))
  | .inserted p _ row => commit w t p row

def step (w : World Tid) : Act Tid → World Tid
  | .begin t wait req =>
    if w.txs t ≠ .idle then w
    else
      -- `Reserve` refuses a quantity that is not positive before it begins
      match req with
      | .reserve _ _ quantity =>
        if quantity ≤ 0 then w
        else { w.goto t (.begun (w.clock + wait) req) with clock := w.clock + wait }
      | _ => { w.goto t (.begun (w.clock + wait) req) with clock := w.clock + wait }
  | .next t env => statement store item w t env
  | .rollback t => w.finish t

/-! ## What a transaction may rely on -/

/-- The transaction that commits next, if this is its commit. -/
def Phase.committing : Phase → Option (Pending × Option TransactionRow × TransactionRow)
  | .inserted p previous row => some (p, previous, row)
  | _ => .none

/-- A transaction commits while the row it read its balance from is still the latest and older than
its own, and the next balance fits in 32 bits. -/
def Undisturbed (w : World Tid) : Act Tid → Prop
  | .next t _ => ∀ c ∈ (w.txs t).committing,
      w.db.latestTransaction store item = c.2.1 ∧ (∀ r ∈ c.2.1, r.stamp < c.2.2.stamp) ∧
        w.db.Room store item c.1.delta.toInt
  | _ => True

/-- What was seen of the reservations still holds, and the delta is what becomes of it. -/
def Write.Sound (db : DB) (delta : Int32) : Write → Prop
  | .none => True
  | .hold seen new => new.storeID = store ∧ new.itemID = item ∧
      db.reservations.find? (store, item, new.cartID) = seen ∧
      new.quantity.toInt = seen.elim 0 (·.quantity.toInt) - delta.toInt
  | .free row => db.reservations.find? (store, item, row.cartID) = some row ∧ delta = row.quantity

def Phase.Sound (db : DB) : Phase → Prop
  | .begun _ (.reserve _ _ quantity) | .balanceRead _ _ _ quantity _ | .approved _ _ _ quantity =>
    0 < quantity
  | .changed p => p.write.Sound store item db p.delta
  | .previousRead p previous newBalance => p.write.Sound store item db p.delta ∧
      applyDelta (previous.elim 0 TransactionRow.runningBalance) p.delta p.typ = .ok newBalance
  | .inserted p previous row => p.write.Sound store item db p.delta ∧
      ∃ id newBalance, row = p.row store item id newBalance ∧
        applyDelta (previous.elim 0 TransactionRow.runningBalance) p.delta p.typ = .ok newBalance
  | _ => True

structure Sound (w : World Tid) : Prop where
  contiguous : w.db.Contiguous
  total : w.db.total store item = w.adjusted - w.db.reserved store item
  nonneg : 0 ≤ w.db.total store item
  txs : ∀ t, (w.txs t).Sound store item w.db
  locks : ∀ t cart, (w.txs t).cart = some cart → w.locks cart = some t

variable {store item}

theorem Write.Sound.of_reservations {db db' : DB} {delta : Int32} {write : Write}
    (h : write.Sound store item db delta) (same : db'.reservations = db.reservations) :
    write.Sound store item db' delta := by
  cases write with
  | none => trivial
  | hold seen new => exact ⟨h.1, h.2.1, same ▸ h.2.2.1, h.2.2.2⟩
  | free row => exact ⟨same ▸ h.1, h.2⟩

/-- Other carts' reservations may change under a transaction. -/
theorem Phase.Sound.transfer {db db' : DB} {phase : Phase} (h : phase.Sound store item db)
    (same : ∀ cart ∈ phase.cart, db'.reservations.find? (store, item, cart) =
      db.reservations.find? (store, item, cart)) : phase.Sound store item db' := by
  have write (p : Pending) (hp : ∀ cart ∈ p.write.cart, db'.reservations.find? (store, item, cart) =
      db.reservations.find? (store, item, cart)) (h : p.write.Sound store item db p.delta) :
      p.write.Sound store item db' p.delta := by
    obtain ⟨now, _ | ⟨seen, new⟩ | ⟨row⟩, delta, typ⟩ := p
    · trivial
    · exact ⟨h.1, h.2.1, (hp new.cartID rfl).trans h.2.2.1, h.2.2.2⟩
    · exact ⟨(hp row.cartID rfl).trans h.1, h.2⟩
  cases phase with
  | idle => trivial
  | begun now req => cases req <;> exact h
  | balanceRead | approved => exact h
  | changed p => exact write p same h
  | previousRead p | inserted p => exact ⟨write p same h.1, h.2⟩

namespace Sound

variable {w : World Tid} {t : Tid}

/-- A transaction goes on without a new lock, and nothing is committed. -/
theorem goto (h : Sound store item w) (phase : Phase) (sound : phase.Sound store item w.db)
    (kept : ∀ cart, phase.cart = some cart → (w.txs t).cart = some cart) :
    Sound store item (w.goto t phase) where
  contiguous := h.contiguous
  total := h.total
  nonneg := h.nonneg
  txs t' := by
    by_cases ht : t' = t
    · simpa only [World.goto, ht, ↓reduceIte] using sound
    · simpa only [World.goto, ht, ↓reduceIte] using h.txs t'
  locks t' cart hcart := by
    by_cases ht : t' = t
    · subst ht
      simp only [World.goto, ↓reduceIte] at hcart
      exact h.locks t' cart (kept cart hcart)
    · simp only [World.goto, ht, ↓reduceIte] at hcart
      exact h.locks t' cart hcart

theorem finish (h : Sound store item w) (t : Tid) : Sound store item (w.finish t) where
  contiguous := h.contiguous
  total := h.total
  nonneg := h.nonneg
  txs t' := by
    by_cases ht : t' = t
    · simp only [World.finish, ht, ↓reduceIte]
      trivial
    · simpa only [World.finish, ht, ↓reduceIte] using h.txs t'
  locks t' cart hcart := by
    by_cases ht : t' = t
    · simp only [World.finish, ht, ↓reduceIte] at hcart
      cases hcart
    · simp only [World.finish, ht, ↓reduceIte] at hcart
      have held := h.locks t' cart hcart
      simp only [World.finish, held, Option.some.injEq, ht, ↓reduceIte]

/-- A transaction locks a reservation that no other has locked. -/
theorem lock (h : Sound store item w) {cart : UUID} {p : Pending} (free : w.locks cart = .none)
    (own : p.write.cart = some cart)
    (sound : p.write.Sound store item w.db p.delta) : Sound store item (w.lock t cart p) where
  contiguous := h.contiguous
  total := h.total
  nonneg := h.nonneg
  txs t' := by
    by_cases ht : t' = t
    · simp only [World.lock, ht, ↓reduceIte]
      exact sound
    · simpa only [World.lock, ht, ↓reduceIte] using h.txs t'
  locks t' c hc := by
    by_cases ht : t' = t
    · simp only [World.lock, ht, ↓reduceIte, Phase.cart, own, Option.some.injEq] at hc
      simp only [World.lock, hc, ↓reduceIte, ht]
    · simp only [World.lock, ht, ↓reduceIte] at hc
      have held := h.locks t' c hc
      by_cases hcart : c = cart
      · rw [hcart, free] at held
        cases held
      · simpa only [World.lock, hcart, ↓reduceIte] using held

end Sound

/-! ## Commits -/

section
variable {db : DB} {delta : Int32} {write : Write}

/-- Installing what was written takes the delta out of the reservations. -/
theorem reserved_install (h : write.Sound store item db delta) :
    (write.install db).reserved store item =
      db.reserved store item - if write = .none then 0 else delta.toInt := by
  cases write with
  | none => simp [Write.install]
  | hold seen new =>
    obtain ⟨rfl, rfl, found, quantity⟩ := h
    have sum : ((db.reservations.upsert (fun _ new => new) (fun _ _ => rfl) new).rows.map
        (·.held new.storeID new.itemID)).sum +
          (db.reservations.find? new.key).elim 0 (·.held new.storeID new.itemID) =
        (db.reservations.rows.map (·.held new.storeID new.itemID)).sum +
          ((db.reservations.find? new.key).elim new fun _ => new).held new.storeID new.itemID :=
      Table.sum_upsert _ _ _
    have key : db.reservations.find? new.key = seen := found
    have held : new.held new.storeID new.itemID = new.quantity.toInt := if_pos ⟨rfl, rfl⟩
    rw [if_neg (by simp), DB.reserved_eq, DB.reserved_eq]
    change ((db.reservations.upsert _ _ new).rows.map _).sum = _
    rw [key] at sum
    cases seen with
    | none =>
      simp only [Option.elim_none, held] at sum quantity
      omega
    | some old =>
      obtain ⟨-, same⟩ := Table.find?_eq_some.mp key
      have old_held : old.held new.storeID new.itemID = old.quantity.toInt :=
        if_pos ⟨congrArg Prod.fst same, congrArg (fun k => k.2.1) same⟩
      simp only [Option.elim_some, held, old_held] at sum quantity
      omega
  | free row =>
    obtain ⟨found, rfl⟩ := h
    obtain ⟨hrow, key⟩ := Table.find?_eq_some.mp found
    have freed : ((Write.free row).install db).reserved store item +
        quantityOf (db.reservations.rows.filter (·.key = row.key)) store item =
          db.reserved store item := DB.reserved_delete rfl store item
    have held : row.held store item = row.quantity.toInt :=
      if_pos ⟨congrArg Prod.fst key, congrArg (fun k => k.2.1) key⟩
    rw [Table.rows_filter_key hrow, quantityOf_eq_sum, List.map_singleton, List.sum_singleton,
      held] at freed
    rw [if_neg (by simp)]
    omega

@[simp] theorem install_transactions (write : Write) (db : DB) :
    (write.install db).transactions = db.transactions := by
  cases write <;> rfl

/-- Reservations of other carts stay as they are. -/
theorem find?_install (h : write.Sound store item db delta) {cart : UUID}
    (other : write.cart ≠ some cart) :
    (write.install db).reservations.find? (store, item, cart) =
      db.reservations.find? (store, item, cart) := by
  cases write with
  | none => rfl
  | hold seen new =>
    refine Table.find?_upsert_of_ne ?_
    intro same
    exact other (congrArg (fun k : UUID × UUID × UUID => some k.2.2) same.symm)
  | free row =>
    refine Table.find?_delete_of_ne ?_
    intro same
    exact other (congrArg (fun k : UUID × UUID × UUID => some k.2.2) same.symm)

end

namespace Sound

variable {w : World Tid} {t : Tid}

theorem commit (h : Sound store item w) {p : Pending} {previous : Option TransactionRow}
    {row : TransactionRow} (ht : w.txs t = .inserted p previous row)
    (latest : w.db.latestTransaction store item = previous)
    (newer : ∀ r ∈ previous, r.stamp < row.stamp) (room : w.db.Room store item p.delta.toInt) :
    Sound store item (commit w t p row) := by
  have tx := h.txs t
  rw [ht] at tx
  obtain ⟨write, id, newBalance, rfl, applied⟩ := tx
  rw [← latest] at applied newer
  obtain ⟨positive, wraps⟩ := applyDelta_eq_ok.mp applied
  unfold Concurrent.commit
  split
  · exact h.finish t
  · rename_i db hdb
    have hdb := insertTransaction_eq_ok hdb
    have inserts : db.transactions = w.db.transactions ++ [p.row store item id newBalance] := by
      rw [hdb]
    have reservations : db.reservations = w.db.reservations := by rw [hdb]
    have next : NextRow w.db p.now id store item p.delta (p.row store item id newBalance) :=
      ⟨rfl, rfl, rfl, rfl, positive, wraps⟩
    have writes := (install_transactions p.write db).trans inserts
    have write' := write.of_reservations reservations
    have reserved := reserved_install write'
    have total := next.total writes store item
    have old := h.total
    have balance := h.contiguous.toInt_runningBalance store item
    have same : db.reserved store item = w.db.reserved store item := by
      rw [DB.reserved_eq, DB.reserved_eq, reservations]
    rw [if_pos ⟨rfl, rfl⟩] at total
    refine ⟨next.contiguous writes h.contiguous (RunningBalance.lt_of_latest newer) room, ?_, ?_, ?_,
      (h.finish t).locks⟩
    · change _ = w.adjusted + (if p.write = .none then p.delta.toInt else 0) - _
      rw [total, reserved, same]
      split <;> omega
    · rw [total]
      have := next.positive
      omega
    · intro t'
      by_cases same : t' = t
      · simp only [World.finish, same, ↓reduceIte]
        trivial
      · simp only [World.finish, same, ↓reduceIte]
        refine (h.txs t').transfer fun cart hcart => ?_
        rw [find?_install write', reservations]
        intro mine
        -- both would hold the lock of the cart
        have held := h.locks t cart (by rw [ht]; exact mine)
        rw [h.locks t' cart hcart, Option.some.injEq] at held
        exact same held

theorem upsert (h : Sound store item w) (t : Tid) (env : Env) (now : Time) (cart kiosk : UUID)
    {quantity : Int32} (positive : 0 < quantity) :
    Sound store item (upsert store item w t env now cart kiosk quantity) := by
  unfold Concurrent.upsert
  dsimp only
  split
  · exact h
  · rename_i free
    rw [not_not] at free
    split
    · exact h.finish t
    · rename_i db hdb
      obtain ⟨-, room⟩ := upsertReservation_eq_ok hdb
      rw [Int32.lt_iff_toInt_lt, Int32.toInt_zero] at positive
      cases seen : w.db.reservations.find? (store, item, cart) with
      | none =>
        refine h.lock free ?_ ⟨?_, ?_, ?_, ?_⟩
        all_goals simp only [ReservationRow.key, seen, Option.elim_none]
        · rfl
        · rw [toInt_neg positive]
          exact (by omega : quantity.toInt = 0 - -quantity.toInt)
      | some old =>
        have sum : _ = old.quantity.toInt + quantity.toInt := toInt_conflict positive (room old seen)
        refine h.lock free ?_ ⟨?_, ?_, ?_, ?_⟩
        all_goals simp only [ReservationRow.key, seen, Option.elim_some]
        · rfl
        · rfl
        · rfl
        · exact seen
        · rw [toInt_neg positive, sum]
          omega

theorem delete (h : Sound store item w) (t : Tid) (now : Time) (cart : UUID) :
    Sound store item (delete store item w t now cart) := by
  unfold Concurrent.delete
  split
  · exact h.finish t
  · rename_i row found
    split
    · exact h
    · rename_i free
      rw [not_not] at free
      have own : row.cartID = cart := congrArg (fun k => k.2.2) (Table.find?_eq_some.mp found).2
      refine h.lock free (congrArg some own) ⟨?_, rfl⟩
      rw [own]
      exact found

end Sound

theorem sound_step {w : World Tid} {a : Act Tid} (h : Sound store item w)
    (guard : Undisturbed store item w a) : Sound store item (step store item w a) := by
  cases a with
  | begin t wait req =>
    have tick {w : World Tid} (h : Sound store item w) (clock : Time) :
        Sound store item { w with clock } := ⟨h.contiguous, h.total, h.nonneg, h.txs, h.locks⟩
    have none (phase : Phase) (hp : phase.cart = .none) (cart : UUID) (hc : phase.cart = some cart) :
        (w.txs t).cart = some cart := by
      rw [hp] at hc
      cases hc
    unfold step
    dsimp only
    split
    · exact h
    · cases req with
      | reserve cart kiosk quantity =>
        dsimp only
        split
        · exact h
        · rename_i positive
          exact tick (h.goto (.begun _ (.reserve ..)) (Int32.not_le.mp positive) (none _ rfl)) _
      | release cart => exact tick (h.goto (.begun _ (.release _)) trivial (none _ rfl)) _
      | adjustStock delta typ => exact tick (h.goto (.begun _ (.adjustStock ..)) trivial (none _ rfl)) _
  | rollback t => exact h.finish t
  | next t env =>
    have tx := h.txs t
    show Sound store item (statement store item w t env)
    unfold statement
    cases ht : w.txs t with
    | idle => exact h
    | begun now req =>
      rw [ht] at tx
      cases req with
      | reserve cart kiosk quantity =>
        dsimp only
        split
        · exact h.finish t
        · refine h.goto _ tx ?_
          intro cart hcart
          cases hcart
      | release cart => exact h.delete t now cart
      | adjustStock delta typ =>
        refine h.goto _ trivial ?_
        intro cart hcart
        cases hcart
    | balanceRead now cart kiosk quantity physical =>
      rw [ht] at tx
      dsimp only
      split
      · exact h.finish t
      · split
        · exact h.finish t
        · refine h.goto _ tx ?_
          intro cart hcart
          cases hcart
    | approved now cart kiosk quantity =>
      rw [ht] at tx
      exact h.upsert t env now cart kiosk tx
    | changed p =>
      rw [ht] at tx
      dsimp only
      split
      · exact h.finish t
      · rename_i newBalance applied
        refine h.goto _ ⟨tx, applied⟩ ?_
        intro cart hcart
        rw [ht]
        exact hcart
    | previousRead p previous newBalance =>
      rw [ht] at tx
      refine h.goto _ ⟨tx.1, _, newBalance, rfl, tx.2⟩ ?_
      intro cart hcart
      rw [ht]
      exact hcart
    | inserted p previous row =>
      obtain ⟨latest, newer, room⟩ := guard _ (by rw [ht]; rfl)
      exact h.commit ht latest newer room

/-! ## Runs -/

/-- No more is reserved than there is, and the balance on show counts every committed delta. -/
def NeverOversold (store item : UUID) (w : World Tid) : Prop :=
  w.db.reserved store item ≤ w.adjusted ∧
    RunningBalance.Contiguous TransactionRow.stamp TransactionRow.delta TransactionRow.balance
      (w.db.ledger store item)

def World.start (Tid : Type*) (inventory : Table InventoryRow (UUID × UUID) InventoryRow.key) :
    World Tid where
  db := { inventory }

theorem sound_start (Tid : Type*) (inventory : Table InventoryRow (UUID × UUID) InventoryRow.key) :
    Sound store item (World.start Tid inventory) where
  contiguous _ _ := RunningBalance.contiguous_nil
  total := rfl
  nonneg := le_rfl
  txs _ := trivial
  locks _ _ h := by cases h

omit [DecidableEq Tid] in
theorem Sound.neverOversold {w : World Tid} (h : Sound store item w) : NeverOversold store item w := by
  have := h.total
  have := h.nonneg
  exact ⟨by omega, h.contiguous store item⟩

/-- Transactions that commit undisturbed never oversell, and lose no delta. -/
theorem never_oversold {inventory : Table InventoryRow (UUID × UUID) InventoryRow.key}
    {acts : List (Act Tid)}
    (undisturbed : Runs.EachStep (step store item) (Undisturbed store item) (.start Tid inventory)
      acts) :
    Runs.Always (step store item) (NeverOversold store item) (.start Tid inventory) acts :=
  Runs.always_of_eachStep (fun _ h => h.neverOversold) (fun _ _ => sound_step)
    (sound_start Tid inventory) undisturbed

instance decidableUndisturbed (store item : UUID) (w : World Tid) :
    ∀ a : Act Tid, Decidable (Undisturbed store item w a)
  | .next t _ => inferInstanceAs (Decidable (∀ c ∈ (w.txs t).committing, _ ∧ _ ∧ _))
  | .begin .. | .rollback _ => .isTrue trivial

/-- The statements of transaction `t`, from its second on. -/
def go (t : ℕ) (n : ℕ) : List (Act ℕ) := List.replicate n (.next t (demoEnv (.ofNat _ t) 0))

theorem never_oversold_two_kiosks :
    Runs.Always (step 1 2) (NeverOversold 1 2) (.start ℕ stocked)
      (.begin 10 0 (.adjustStock 5 .restock) :: go 10 4 ++
        [.begin 11 1 (.reserve 3 6 2), .begin 12 1 (.reserve 4 7 2)] ++ go 11 3 ++ go 12 3 ++
        go 11 3 ++ go 12 3) :=
  never_oversold (by decide +kernel)

/-- A committed `AdjustStock` leaves no less than what is reserved. -/
def AdjustsFairly (store item : UUID) (w : World Tid) (a : Act Tid) : Prop :=
  match a with
  | .next t _ => ∀ c ∈ (w.txs t).committing, c.1.write = .none →
      (step store item w a).db.reserved store item ≤ (step store item w a).adjusted
  | _ => True

instance decidableAdjustsFairly (store item : UUID) (w : World Tid) :
    ∀ a : Act Tid, Decidable (AdjustsFairly store item w a)
  | .next t _ => inferInstanceAs (Decidable (∀ c ∈ (w.txs t).committing, _ → _))
  | .begin .. | .rollback _ => .isTrue trivial

/-- One unit, and two kiosks that reserve it at once. -/
def lastUnit : List (Act ℕ) :=
  .begin 10 0 (.adjustStock 1 .restock) :: go 10 4 ++
    [.begin 11 1 (.reserve 3 6 1), .begin 12 1 (.reserve 4 7 1)] ++ go 11 5 ++ go 12 6 ++ go 11 1

theorem last_unit_twice : ¬ ∀ (Tid : Type) (_ : DecidableEq Tid) store item inventory acts,
    Runs.EachStep (step store item) (AdjustsFairly store item) (.start Tid inventory) acts →
      Runs.Always (step store item) (NeverOversold store item) (.start Tid inventory) acts := by
  intro claim
  have fair : Runs.EachStep (step 1 2) (AdjustsFairly 1 2) (.start ℕ stocked) lastUnit := by
    decide +kernel
  have last := (Runs.always_last (claim ℕ inferInstance 1 2 stocked lastUnit fair)).1
  revert last
  decide +kernel

end InventoryService.Concurrent
