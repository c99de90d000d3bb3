import Mathlib.Data.Prod.Lex
import AstraSystem.InventoryService.Ledger
import AstraSystem.Lib.RunningBalance
import AstraSystem.Lib.Table
import AstraSystem.Lib.UUID

/-!
# The Postgres inventory repository (`repository/repository.go`)

The tables are those of `Migrate`. A method runs one transaction and then reads
the stock outside it. What the clock, the random generator, the order of
`RETURNING` and the connection contribute comes with the call.
-/

namespace InventoryService

/-- A `timestamptz`, in microseconds. -/
abbrev Time := ℤ

structure InventoryRow where
  inventoryID : UUID
  storeID : UUID
  itemID : UUID
  quantityOnOrder : Int32
  reorderPoint : Int32
  reorderQuantity : Int32
  location : Option String
  deriving DecidableEq, Repr

structure TransactionRow where
  transactionID : UUID
  storeID : UUID
  itemID : UUID
  transactionType : String
  quantityDelta : Int32
  runningBalance : Int32
  referenceID : Option UUID
  referenceType : Option String
  notes : Option String
  createdAt : Time
  deriving DecidableEq, Repr

structure ReservationRow where
  reservationID : UUID
  storeID : UUID
  kioskID : UUID
  itemID : UUID
  cartID : UUID
  quantity : Int32
  expiresAtMs : Int64
  createdAtMs : Int64
  deriving DecidableEq, Repr

/-- A value in the payload of an event. -/
inductive Value where
  | text (s : String)
  | number (n : ℤ)
  deriving DecidableEq, Repr

structure Event where
  eventType : String
  aggregateID : String
  occurredAtMs : Int64
  payload : List (String × Value)
  deriving DecidableEq, Repr

/-- `ORDER BY created_at, transaction_id`. -/
def TransactionRow.stamp (r : TransactionRow) : Time ×ₗ UUID := toLex (r.createdAt, r.transactionID)

def TransactionRow.delta (r : TransactionRow) : ℤ := r.quantityDelta.toInt

def TransactionRow.balance (r : TransactionRow) : ℤ := r.runningBalance.toInt

def InventoryRow.key (r : InventoryRow) : UUID × UUID := (r.storeID, r.itemID)

def ReservationRow.key (r : ReservationRow) : UUID × UUID × UUID := (r.storeID, r.itemID, r.cartID)

/-- The tables of `Migrate`, which leaves tables as they are where `infra/postgres/init` has made them first. The
reservations made there have no key for `ON CONFLICT`, and every `Reserve` is rolled back. -/
structure DB where
  inventory : Table InventoryRow (UUID × UUID) InventoryRow.key := .empty
  transactions : List TransactionRow := []
  reservations : Table ReservationRow (UUID × UUID × UUID) ReservationRow.key := .empty
  outbox : List (UUID × Event) := []

/-- Where a call is cut short by the connection. -/
inductive Fault where
  | none
  /-- A statement of the transaction fails, its commit included. -/
  | rolledBack (err : String)
  /-- The transaction commits, and reading the stock fails. -/
  | unread (err : String)
  deriving DecidableEq, Repr

structure Env where
  /-- `now()`, the start of the transaction. -/
  now : Time
  /-- `time.Now()` in milliseconds, where the expiry is computed and where the event is stamped. -/
  nowMs : Int64
  occurredAtMs : Int64
  reservationID : UUID
  transactionIDs : ℕ → UUID
  eventIDs : ℕ → UUID
  returning : Shuffle ReservationRow := .none _
  /-- Whether the driver runs a statement on a transaction while rows of another are being read. pgx
  answers `conn busy`. -/
  overlaps : Bool := true
  fault : Fault := .none

namespace DB

/-- The ledger of one item of a store. -/
def ledger (db : DB) (store item : UUID) : List TransactionRow :=
  db.transactions.filter fun r => r.storeID = store ∧ r.itemID = item

/-- `ORDER BY created_at DESC, transaction_id DESC LIMIT 1`. -/
def latestTransaction (db : DB) (store item : UUID) : Option TransactionRow :=
  RunningBalance.latest TransactionRow.stamp (db.ledger store item)

def runningBalance (db : DB) (store item : UUID) : Int32 :=
  (db.latestTransaction store item).elim 0 TransactionRow.runningBalance

def reservationsOf (db : DB) (store item : UUID) : List ReservationRow :=
  db.reservations.rows.filter fun r => r.storeID = store ∧ r.itemID = item

/-- The active reservations of an item. -/
def reserved (db : DB) (store item : UUID) : ℤ :=
  ((db.reservationsOf store item).map fun r => r.quantity.toInt).sum

/-- `COALESCE(SUM(quantity), 0)`, scanned into 32 bits. -/
def selectReserved (db : DB) (store item : UUID) : Except String Int32 :=
  let reserved := db.reserved store item
  if -2 ^ 31 ≤ reserved ∧ reserved < 2 ^ 31 then .ok (.ofInt reserved)
  else .error "repository: select reservations: value out of range"

def insertTransaction (db : DB) (row : TransactionRow) : Except String DB :=
  if ∃ r ∈ db.transactions, r.transactionID = row.transactionID then
    .error "repository: insert transaction: duplicate key"
  else .ok { db with transactions := db.transactions ++ [row] }

/-- `ON CONFLICT … DO UPDATE`: the old row, with more quantity and a new expiry. -/
def conflict (old new : ReservationRow) : ReservationRow :=
  { new with
    reservationID := old.reservationID
    kioskID := old.kioskID
    quantity := old.quantity + new.quantity
    expiresAtMs := new.expiresAtMs
    createdAtMs := old.createdAtMs }

def upsertReservation (db : DB) (row : ReservationRow) : Except String DB :=
  match db.reservations.find? row.key with
  | some old =>
    if 2 ^ 31 ≤ old.quantity.toInt + row.quantity.toInt then
      .error "repository: insert reservation: integer out of range"
    else .ok { db with reservations := db.reservations.upsert conflict (fun _ _ => rfl) row }
  | none =>
    if ∃ r ∈ db.reservations.rows, r.reservationID = row.reservationID then
      .error "repository: insert reservation: duplicate key"
    else .ok { db with reservations := db.reservations.upsert conflict (fun _ _ => rfl) row }

/-- `ON CONFLICT (event_id) DO NOTHING`. -/
def insertOutboxEvent (db : DB) (id : UUID) (event : Event) : DB :=
  if ∃ e ∈ db.outbox, e.1 = id then db else { db with outbox := db.outbox ++ [(id, event)] }

end DB

/-- The stock of an item, as `GetStock` and `getStockWithinTx` both read it. -/
def readStock (uuid : UUIDText) (notFound : String) (db : DB) (store item : UUID) :
    Except String Stock :=
  match db.inventory.find? (store, item) with
  | none => .error notFound
  | some inv => do
    let reserved ← db.selectReserved store item
    pure {
      inventoryID := uuid.string inv.inventoryID
      quantityAvailable := available (db.runningBalance store item) reserved
      quantityReserved := reserved
      quantityOnOrder := inv.quantityOnOrder
      reorderPoint := inv.reorderPoint
      reorderQuantity := inv.reorderQuantity
      location := inv.location.getD "" }

def getStockWithinTx (uuid : UUIDText) (db : DB) (store item : UUID) : Except String Stock :=
  readStock uuid "repository: inventory not found" db store item

def insertTransactionWithinTx (db : DB) (now : Time) (id store item : UUID) (typ : TransactionType)
    (delta : Int32) (referenceID : Option UUID) (referenceType notes : Option String) :
    Except String DB := do
  let newBalance ← (applyDelta (db.runningBalance store item) delta typ).mapError
    ("repository: " ++ ·)
  db.insertTransaction {
    transactionID := id
    storeID := store
    itemID := item
    transactionType := typ.string
    quantityDelta := delta
    runningBalance := newBalance
    referenceID, referenceType, notes
    createdAt := now }

def parseStoreItem (uuid : UUIDText) (storeID itemID : String) : Except String (UUID × UUID) := do
  let store ← (uuid.parse storeID).mapError ("repository: invalid store id: " ++ ·)
  let item ← (uuid.parse itemID).mapError ("repository: invalid item id: " ++ ·)
  pure (store, item)

def parseReference (uuid : UUIDText) (referenceID : String) : Except String (Option UUID) :=
  if referenceID = "" then .ok none
  else ((uuid.parse referenceID).mapError ("repository: invalid reference id: " ++ ·)).map some

def getStock (uuid : UUIDText) (db : DB) (storeID itemID : String) : Except String Stock := do
  let (store, item) ← parseStoreItem uuid storeID itemID
  let stock ← readStock uuid
    s!"repository: inventory not found for store {storeID} item {itemID}" db store item
  pure { stock with storeID, itemID }

def reservedEvent (occurredAtMs : Int64) (reservationID storeID itemID cartID kioskID : String)
    (quantity : Int32) (expiresAtMs : Int64) : Event where
  eventType := "InventoryReserved"
  aggregateID := cartID
  occurredAtMs
  payload := [("reservation_id", .text reservationID), ("store_id", .text storeID),
    ("item_id", .text itemID), ("cart_id", .text cartID), ("kiosk_id", .text kioskID),
    ("quantity", .number quantity.toInt), ("expires_at_ms", .number expiresAtMs.toInt)]

def adjustedEvent (occurredAtMs : Int64) (storeID itemID : String) (delta : Int32)
    (typ : TransactionType) (referenceID referenceType notes : String) : Event where
  eventType := "InventoryAdjusted"
  aggregateID := itemID
  occurredAtMs
  payload := [("store_id", .text storeID), ("item_id", .text itemID),
    ("quantity_delta", .number delta.toInt), ("transaction_type", .text typ.string),
    ("reference_id", .text referenceID), ("reference_type", .text referenceType),
    ("notes", .text notes)]

def releasedEvent (aggregateID : String) (occurredAtMs : Int64)
    (reservationID storeID itemID cartID : String) (quantity : Int32) (reason : String) : Event where
  eventType := "InventoryReleased"
  aggregateID
  occurredAtMs
  payload := [("reservation_id", .text reservationID), ("store_id", .text storeID),
    ("item_id", .text itemID), ("cart_id", .text cartID), ("quantity", .number quantity.toInt),
    ("reason", .text reason)]

namespace Postgres

variable (uuid : UUIDText)

/-- The transaction of `Reserve`. -/
def reserveTx (db : DB) (env : Env) (storeID itemID cartID kioskID : String) (quantity : Int32) :
    Except String (DB × String) :=
  if quantity ≤ 0 then .error "repository: reserve quantity must be positive"
  else do
    let (store, item) ← parseStoreItem uuid storeID itemID
    let cart ← (uuid.parse cartID).mapError ("repository: invalid cart id: " ++ ·)
    let kiosk ← (uuid.parse kioskID).mapError ("repository: invalid kiosk id: " ++ ·)
    let stock ← getStockWithinTx uuid db store item
    if stock.quantityAvailable < quantity then
      .error s!"repository: insufficient stock (available {stock.quantityAvailable}, requested {quantity})"
    else do
      let expiresAtMs := env.nowMs + 300000
      let db ← db.upsertReservation {
        reservationID := env.reservationID
        storeID := store
        kioskID := kiosk
        itemID := item
        cartID := cart
        quantity, expiresAtMs
        createdAtMs := env.occurredAtMs }
      let db ← insertTransactionWithinTx db env.now (env.transactionIDs 0) store item .reserved
        (-quantity) (some cart) none none
      let reservationID := uuid.string env.reservationID
      pure (db.insertOutboxEvent (env.eventIDs 0) (reservedEvent env.occurredAtMs reservationID storeID
        itemID cartID kioskID quantity expiresAtMs), reservationID)

/-- The transaction of `Release`, which changes nothing where there is no reservation. -/
def releaseTx (db : DB) (env : Env) (storeID itemID cartID : String) : Except String DB := do
  let (store, item) ← parseStoreItem uuid storeID itemID
  let cart ← (uuid.parse cartID).mapError ("repository: invalid cart id: " ++ ·)
  match db.reservations.find? (store, item, cart) with
  | none => pure db
  | some row =>
    let deleted := { db with reservations := db.reservations.delete (·.key = (store, item, cart)) }
    let db ← insertTransactionWithinTx deleted env.now (env.transactionIDs 0) store item .released
      row.quantity (some cart) none none
    pure (db.insertOutboxEvent (env.eventIDs 0) (releasedEvent cartID env.occurredAtMs
      (uuid.string row.reservationID) storeID itemID cartID row.quantity "explicit release"))

/-- The transaction of `AdjustStock`. -/
def adjustStockTx (db : DB) (env : Env) (storeID itemID : String) (delta : Int32)
    (typ : TransactionType) (referenceID referenceType notes : String) : Except String DB := do
  let (store, item) ← parseStoreItem uuid storeID itemID
  let reference ← parseReference uuid referenceID
  let db ← insertTransactionWithinTx db env.now (env.transactionIDs 0) store item typ delta reference
    (if referenceType = "" then none else some referenceType) (if notes = "" then none else some notes)
  pure (db.insertOutboxEvent (env.eventIDs 0) (adjustedEvent env.occurredAtMs storeID itemID delta typ
    referenceID referenceType notes))

/-- What `ExpireReservations` does for the reservations it has deleted, one after another. -/
def expireRows (env : Env) (nowMs : Int64) : DB → ℕ → List ReservationRow → Except String DB
  | db, _, [] => .ok db
  | db, k, row :: rows => do
    let db ← insertTransactionWithinTx db env.now (env.transactionIDs k) row.storeID row.itemID
      .released row.quantity (some row.cartID) none (some "ttl expiry")
    expireRows env nowMs (db.insertOutboxEvent (env.eventIDs k)
      (releasedEvent (uuid.string row.cartID) nowMs (uuid.string row.reservationID)
        (uuid.string row.storeID) (uuid.string row.itemID) (uuid.string row.cartID) row.quantity
        "ttl expiry")) (k + 1) rows

/-- The reservations a sweep deletes, in the order `RETURNING` gives them. -/
def expiredRows (db : DB) (env : Env) (nowMs : Int64) : List ReservationRow :=
  env.returning.apply (db.reservations.rows.filter fun r => r.expiresAtMs < nowMs)

/-- The transaction of `ExpireReservations`. The rows of `RETURNING` stay open while the loop over them
writes. -/
def expireReservationsTx (db : DB) (env : Env) (nowMs : Int64) : Except String DB :=
  if (expiredRows db env nowMs).isEmpty || env.overlaps then
    expireRows uuid env nowMs
      { db with reservations := db.reservations.delete (·.expiresAtMs < nowMs) } 0
      (expiredRows db env nowMs)
  else .error "repository: select previous balance: conn busy"

end Postgres

/-- A call that changes the stock. -/
inductive Call where
  | reserve (storeID itemID cartID kioskID : String) (quantity : Int32)
  | release (storeID itemID cartID : String)
  | adjustStock (storeID itemID : String) (delta : Int32) (typ : TransactionType)
      (referenceID referenceType notes : String)
  | expireReservations (nowMs : Int64)
  deriving DecidableEq, Repr

/-- What a call that succeeds returns. -/
inductive Reply where
  | reserved (reservationID : String) (stock : Stock)
  | stock (stock : Stock)
  | expired (count : ℕ)
  deriving DecidableEq, Repr

namespace Postgres

variable (uuid : UUIDText)

/-- The transaction of a call. -/
def tx (db : DB) (env : Env) : Call → Except String DB
  | .reserve storeID itemID cartID kioskID quantity =>
    (reserveTx uuid db env storeID itemID cartID kioskID quantity).map Prod.fst
  | .release storeID itemID cartID => releaseTx uuid db env storeID itemID cartID
  | .adjustStock storeID itemID delta typ referenceID referenceType notes =>
    adjustStockTx uuid db env storeID itemID delta typ referenceID referenceType notes
  | .expireReservations nowMs => expireReservationsTx uuid db env nowMs

/-- What a call returns once its transaction has committed. -/
def reply (before after : DB) (env : Env) : Call → Except String Reply
  | .reserve storeID itemID _ _ _ =>
    (getStock uuid after storeID itemID).map (.reserved (uuid.string env.reservationID))
  | .release storeID itemID _ | .adjustStock storeID itemID .. =>
    (getStock uuid after storeID itemID).map .stock
  | .expireReservations nowMs => .ok (.expired (expiredRows before env nowMs).length)

/-- A call of the repository. -/
def call (db : DB) (env : Env) (c : Call) : DB × Except String Reply :=
  match tx uuid db env c with
  | .error err => (db, .error err)
  | .ok db' =>
    match env.fault, c with
    | .rolledBack err, _ => (db, .error err)
    -- a sweep reads nothing after its commit
    | .unread _, .expireReservations _ => (db', reply uuid db db' env c)
    | .unread err, _ => (db', .error err)
    | .none, _ => (db', reply uuid db db' env c)

end Postgres

/-! ## What the statements do -/

/-- A row that a transaction writes next for an item. -/
structure NextRow (db : DB) (now : Time) (id store item : UUID) (amount : Int32)
    (row : TransactionRow) : Prop where
  storeID : row.storeID = store
  itemID : row.itemID = item
  stamp : row.stamp = toLex (now, id)
  delta : row.delta = amount.toInt
  positive : 0 ≤ (db.runningBalance store item).toInt + amount.toInt
  balance : row.balance = ((db.runningBalance store item).toInt + amount.toInt).bmod (2 ^ 32)

/-- Only the ledger matters for it. -/
theorem NextRow.of_transactions (db : DB) {db' : DB} {now : Time} {id store item : UUID}
    {amount : Int32} {row : TransactionRow} (h : NextRow db' now id store item amount row)
    (same : db'.transactions = db.transactions) : NextRow db now id store item amount row := by
  have balance : db'.runningBalance store item = db.runningBalance store item := by
    simp only [DB.runningBalance, DB.latestTransaction, DB.ledger, same]
  exact ⟨h.storeID, h.itemID, h.stamp, h.delta, balance ▸ h.positive, balance ▸ h.balance⟩

theorem insertTransaction_eq_ok {db db' : DB} {row : TransactionRow}
    (h : db.insertTransaction row = .ok db') :
    db' = { db with transactions := db.transactions ++ [row] } := by
  unfold DB.insertTransaction at h
  split at h
  · cases h
  · exact (Except.ok.inj h).symm

theorem insertTransactionWithinTx_eq_ok {db db' : DB} {now : Time} {id store item : UUID}
    {typ : TransactionType} {amount : Int32} {referenceID : Option UUID}
    {referenceType notes : Option String}
    (h : insertTransactionWithinTx db now id store item typ amount referenceID referenceType notes =
      .ok db') :
    ∃ row, NextRow db now id store item amount row ∧
      db' = { db with transactions := db.transactions ++ [row] } := by
  obtain ⟨next, hnext, h⟩ := Statement.bind_eq_ok.mp h
  obtain ⟨positive, wraps⟩ := applyDelta_eq_ok.mp (Statement.mapError_eq_ok.mp hnext)
  refine ⟨_, ?_, insertTransaction_eq_ok h⟩
  exact ⟨rfl, rfl, rfl, rfl, positive, wraps⟩

theorem DB.selectReserved_eq_ok {db : DB} {store item : UUID} {reserved : Int32}
    (h : db.selectReserved store item = .ok reserved) :
    reserved = .ofInt (db.reserved store item) := by
  by_cases fits : -2 ^ 31 ≤ db.reserved store item ∧ db.reserved store item < 2 ^ 31
  · exact (Except.ok.inj ((if_pos fits).symm.trans h)).symm
  · cases (if_neg fits).symm.trans h

theorem upsertReservation_eq_ok {db db' : DB} {new : ReservationRow}
    (h : db.upsertReservation new = .ok db') :
    db' = { db with
      reservations := db.reservations.upsert DB.conflict (fun _ _ => rfl) new } ∧
    ∀ old ∈ db.reservations.find? new.key, old.quantity.toInt + new.quantity.toInt < 2 ^ 31 := by
  unfold DB.upsertReservation at h
  split at h
  · rename_i old found
    split at h
    · cases h
    · rename_i room
      cases h
      refine ⟨rfl, ?_⟩
      rw [found]
      rintro old' ⟨⟩
      exact not_le.mp room
  · rename_i found
    split at h
    · cases h
    · cases h
      refine ⟨rfl, ?_⟩
      rw [found]
      rintro old ⟨⟩

theorem readStock_eq_ok {uuid : UUIDText} {notFound : String} {db : DB} {store item : UUID}
    {stock : Stock} (h : readStock uuid notFound db store item = .ok stock) :
    ∃ inv reserved, db.inventory.find? (store, item) = some inv ∧
      db.selectReserved store item = .ok reserved ∧
      stock.quantityAvailable = available (db.runningBalance store item) reserved ∧
      stock.quantityReserved = reserved := by
  unfold readStock at h
  split at h
  · cases h
  · rename_i inv found
    obtain ⟨reserved, hreserved, h⟩ := Statement.bind_eq_ok.mp h
    cases h
    exact ⟨inv, reserved, found, hreserved, rfl, rfl⟩

namespace DB

@[simp] theorem insertOutboxEvent_inventory (db : DB) (id : UUID) (event : Event) :
    (db.insertOutboxEvent id event).inventory = db.inventory := by
  unfold insertOutboxEvent
  split <;> rfl

@[simp] theorem insertOutboxEvent_transactions (db : DB) (id : UUID) (event : Event) :
    (db.insertOutboxEvent id event).transactions = db.transactions := by
  unfold insertOutboxEvent
  split <;> rfl

@[simp] theorem insertOutboxEvent_reservations (db : DB) (id : UUID) (event : Event) :
    (db.insertOutboxEvent id event).reservations = db.reservations := by
  unfold insertOutboxEvent
  split <;> rfl

end DB

namespace Postgres

variable {uuid : UUIDText} {db db' : DB} {env : Env} {storeID itemID cartID kioskID : String}

/-- What a `Reserve` that succeeds writes. -/
theorem reserveTx_eq_ok {reservationID : String} {quantity : Int32}
    (h : reserveTx uuid db env storeID itemID cartID kioskID quantity = .ok (db', reservationID)) :
    ∃ store item reserved new row, parseStoreItem uuid storeID itemID = .ok (store, item) ∧
      uuid.parse cartID = .ok new.cartID ∧ 0 < quantity ∧
      db.selectReserved store item = .ok reserved ∧
      quantity ≤ available (db.runningBalance store item) reserved ∧
      new.storeID = store ∧ new.itemID = item ∧ new.quantity = quantity ∧
      new.expiresAtMs = env.nowMs + 300000 ∧
      (∀ old ∈ db.reservations.find? new.key, old.quantity.toInt + quantity.toInt < 2 ^ 31) ∧
      NextRow db env.now (env.transactionIDs 0) store item (-quantity) row ∧
      db'.inventory = db.inventory ∧ db'.transactions = db.transactions ++ [row] ∧
      db'.reservations = db.reservations.upsert DB.conflict (fun _ _ => rfl) new ∧
      new.reservationID = env.reservationID ∧ uuid.parse kioskID = .ok new.kioskID ∧
      ∃ inv, db.inventory.find? (store, item) = some inv := by
  unfold reserveTx at h
  split at h
  · cases h
  · rename_i positive
    obtain ⟨⟨store, item⟩, hitem, h⟩ := Statement.bind_eq_ok.mp h
    obtain ⟨cart, hcart, h⟩ := Statement.bind_eq_ok.mp h
    obtain ⟨kiosk, hkiosk, h⟩ := Statement.bind_eq_ok.mp h
    obtain ⟨stock, hstock, h⟩ := Statement.bind_eq_ok.mp h
    obtain ⟨inv, reserved, found, hreserved, havailable, -⟩ := readStock_eq_ok hstock
    split at h
    · cases h
    · rename_i enough
      obtain ⟨db₁, hupsert, h⟩ := Statement.bind_eq_ok.mp h
      obtain ⟨db₂, hinsert, h⟩ := Statement.bind_eq_ok.mp h
      obtain ⟨rfl, room⟩ := upsertReservation_eq_ok hupsert
      obtain ⟨row, next, rfl⟩ := insertTransactionWithinTx_eq_ok hinsert
      cases h
      rw [havailable] at enough
      let new : ReservationRow := ⟨env.reservationID, store, kiosk, item, cart, quantity,
        env.nowMs + 300000, env.occurredAtMs⟩
      exact ⟨store, item, reserved, new, row, hitem, Statement.mapError_eq_ok.mp hcart,
        Int32.not_le.mp positive, hreserved, Int32.not_lt.mp enough, rfl, rfl, rfl, rfl, room,
        next.of_transactions db rfl, by simp, by simp, by simp [new], rfl,
        Statement.mapError_eq_ok.mp hkiosk, inv, found⟩

/-- What a `Release` that succeeds writes: nothing where there is no reservation. -/
theorem releaseTx_eq_ok (h : releaseTx uuid db env storeID itemID cartID = .ok db') :
    ∃ store item cart, parseStoreItem uuid storeID itemID = .ok (store, item) ∧
      uuid.parse cartID = .ok cart ∧
      ((db.reservations.find? (store, item, cart) = none ∧ db' = db) ∨
      ∃ row next, db.reservations.find? (store, item, cart) = some row ∧
        NextRow db env.now (env.transactionIDs 0) store item row.quantity next ∧
        db'.inventory = db.inventory ∧ db'.transactions = db.transactions ++ [next] ∧
        db'.reservations = db.reservations.delete (·.key = (store, item, cart))) := by
  obtain ⟨⟨store, item⟩, hitem, h⟩ := Statement.bind_eq_ok.mp h
  obtain ⟨cart, hcart, h⟩ := Statement.bind_eq_ok.mp h
  refine ⟨store, item, cart, hitem, Statement.mapError_eq_ok.mp hcart, ?_⟩
  dsimp only at h
  split at h
  · rename_i found
    cases h
    exact .inl ⟨found, rfl⟩
  · rename_i row found
    obtain ⟨db₁, hinsert, h⟩ := Statement.bind_eq_ok.mp h
    obtain ⟨next, hnext, rfl⟩ := insertTransactionWithinTx_eq_ok hinsert
    cases h
    exact .inr ⟨row, next, found, hnext.of_transactions db rfl, by simp, by simp, by simp⟩

/-- What an `AdjustStock` that succeeds writes. -/
theorem adjustStockTx_eq_ok {delta : Int32} {typ : TransactionType}
    {referenceID referenceType notes : String}
    (h : adjustStockTx uuid db env storeID itemID delta typ referenceID referenceType notes =
      .ok db') :
    ∃ store item row, parseStoreItem uuid storeID itemID = .ok (store, item) ∧
      NextRow db env.now (env.transactionIDs 0) store item delta row ∧
      db'.inventory = db.inventory ∧ db'.transactions = db.transactions ++ [row] ∧
      db'.reservations = db.reservations := by
  obtain ⟨⟨store, item⟩, hitem, h⟩ := Statement.bind_eq_ok.mp h
  obtain ⟨reference, -, h⟩ := Statement.bind_eq_ok.mp h
  obtain ⟨db₁, hinsert, h⟩ := Statement.bind_eq_ok.mp h
  obtain ⟨row, next, rfl⟩ := insertTransactionWithinTx_eq_ok hinsert
  cases h
  exact ⟨store, item, row, hitem, next, by simp, by simp, by simp⟩

/-- A sweep that commits has gone through its rows. -/
theorem expireReservationsTx_eq_ok {nowMs : Int64}
    (h : expireReservationsTx uuid db env nowMs = .ok db') :
    expireRows uuid env nowMs
      { db with reservations := db.reservations.delete (·.expiresAtMs < nowMs) } 0
      (expiredRows db env nowMs) = .ok db' := by
  unfold expireReservationsTx at h
  split at h
  · exact h
  · cases h

end Postgres

end InventoryService
