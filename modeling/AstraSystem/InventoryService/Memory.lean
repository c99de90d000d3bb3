import AstraSystem.InventoryService.Postgres
import AstraSystem.Lib.Assoc

/-!
# The in-memory inventory repository (`repository/memory.go`)

Its maps are keyed by text. Go visits a map in any order, so a loop takes its
order from a walk; a reservation knows its own key.
-/

namespace InventoryService

structure Reservation where
  reservationID : String
  storeID : String
  itemID : String
  cartID : String
  kioskID : String
  quantity : Int32
  expiresAtMs : Int64
  deriving DecidableEq, Repr

structure Transaction where
  storeID : String
  itemID : String
  transactionType : TransactionType
  quantityDelta : Int64
  runningBalance : Int64
  deriving DecidableEq, Repr

structure MemoryRepository where
  inventory : Assoc.Map String Stock := ∅
  reservations : Assoc.Map String Reservation := ∅
  transactions : List Transaction := []
  events : List Event := []

namespace MemoryRepository

def key (storeID itemID : String) : String := storeID ++ ":" ++ itemID

def seedInventory (m : MemoryRepository) (stock : Stock) : MemoryRepository :=
  { m with inventory := m.inventory.insert (key stock.storeID stock.itemID) stock }

def getStock (m : MemoryRepository) (storeID itemID : String) : Except String Stock :=
  match m.inventory.lookup (key storeID itemID) with
  | none => .error s!"repository: inventory not found for store {storeID} item {itemID}"
  | some stock => .ok stock

/-- The new stock of an item and the ledger row and the event that come with it. -/
def record (m : MemoryRepository) (key : String) (stock : Stock) (transaction : Transaction)
    (event : Event) : MemoryRepository :=
  { m with
    inventory := m.inventory.insert key stock
    transactions := m.transactions ++ [transaction]
    events := m.events ++ [event] }

def reserve (m : MemoryRepository) (env : Env) (resID storeID itemID cartID kioskID : String)
    (quantity : Int32) : MemoryRepository × Except String (String × Stock) :=
  if quantity ≤ 0 then (m, .error "repository: reserve quantity must be positive")
  else match m.inventory.lookup (key storeID itemID) with
  | none => (m, .error "repository: inventory not found")
  | some stock =>
    if stock.quantityAvailable < quantity then (m, .error "repository: insufficient stock")
    else
      let expiresAtMs := env.nowMs + 300000
      let reserved := stock.quantityReserved + quantity
      let stock := { stock with
        quantityReserved := reserved
        quantityAvailable := available (stock.quantityAvailable + reserved - quantity) reserved }
      let r : Reservation := ⟨resID, storeID, itemID, cartID, kioskID, quantity, expiresAtMs⟩
      let m := { m with reservations := m.reservations.insert resID r }
      (m.record (key storeID itemID) stock
        ⟨storeID, itemID, .reserved, -quantity.toInt64,
          (stock.quantityAvailable + stock.quantityReserved).toInt64⟩
        (reservedEvent env.occurredAtMs resID storeID itemID cartID kioskID quantity expiresAtMs),
        .ok (resID, stock))

/-- What `Release` and the sweep do for one reservation. -/
def free (m : MemoryRepository) (r : Reservation) (aggregateID : String) (occurredAtMs : Int64)
    (reason : String) : MemoryRepository × Stock :=
  let stock := (m.inventory.lookup (key r.storeID r.itemID)).getD {}
  let left := stock.quantityReserved - r.quantity
  let reserved := if left < 0 then 0 else left
  let runningBalance := (stock.quantityAvailable + reserved).toInt64
  let stock := { stock with
    quantityReserved := reserved
    quantityAvailable := available (stock.quantityAvailable + reserved + r.quantity) reserved }
  let m := m.record (key r.storeID r.itemID) stock
    ⟨r.storeID, r.itemID, .released, r.quantity.toInt64, runningBalance⟩
    (releasedEvent aggregateID occurredAtMs r.reservationID r.storeID r.itemID r.cartID r.quantity
      reason)
  ({ m with reservations := m.reservations.erase r.reservationID }, stock)

def release (m : MemoryRepository) (env : Env) (walk : Assoc.Walk String Reservation)
    (storeID itemID cartID : String) : MemoryRepository × Except String Stock :=
  let found := (walk.values m.reservations).find? fun r =>
    r.storeID = storeID ∧ r.itemID = itemID ∧ r.cartID = cartID
  match found with
  | none => (m, .ok ((m.inventory.lookup (key storeID itemID)).getD {}))
  | some r =>
    let (m, stock) := m.free r cartID env.occurredAtMs "explicit release"
    (m, .ok stock)

def adjustStock (m : MemoryRepository) (env : Env) (storeID itemID : String) (delta : Int32)
    (typ : TransactionType) (referenceID referenceType notes : String) :
    MemoryRepository × Except String Stock :=
  match m.inventory.lookup (key storeID itemID) with
  | none => (m, .error "repository: inventory not found")
  | some stock =>
    let physical := stock.quantityAvailable + stock.quantityReserved
    match applyDelta physical delta typ with
    | .error err => (m, .error err)
    | .ok newPhysical =>
      let stock := { stock with quantityAvailable := available newPhysical stock.quantityReserved }
      (m.record (key storeID itemID) stock
        ⟨storeID, itemID, typ, delta.toInt64, newPhysical.toInt64⟩
        (adjustedEvent env.occurredAtMs storeID itemID delta typ referenceID referenceType notes),
        .ok stock)

def expireReservations (m : MemoryRepository) (walk : Assoc.Walk String Reservation)
    (nowMs : Int64) : MemoryRepository × ℕ :=
  let expired := (walk.values m.reservations).filter fun r => r.expiresAtMs < nowMs
  (expired.foldl (fun m r => (m.free r r.cartID nowMs "ttl expiry").1) m, expired.length)

/-- A call of the repository. -/
def call (uuid : UUIDText) (m : MemoryRepository) (env : Env) (walk : Assoc.Walk String Reservation) :
    Call → MemoryRepository × Except String Reply
  | .reserve storeID itemID cartID kioskID quantity =>
    let (m, res) := m.reserve env (uuid.string env.reservationID) storeID itemID cartID kioskID quantity
    (m, res.map fun r => .reserved r.1 r.2)
  | .release storeID itemID cartID =>
    let (m, res) := m.release env walk storeID itemID cartID
    (m, res.map .stock)
  | .adjustStock storeID itemID delta typ referenceID referenceType notes =>
    let (m, res) := m.adjustStock env storeID itemID delta typ referenceID referenceType notes
    (m, res.map .stock)
  | .expireReservations nowMs =>
    let (m, count) := m.expireReservations walk nowMs
    (m, .ok (.expired count))

end MemoryRepository

end InventoryService
