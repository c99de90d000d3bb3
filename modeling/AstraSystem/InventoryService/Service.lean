import AstraSystem.InventoryService.Postgres
import AstraSystem.Lib.Decimal
import AstraSystem.Lib.Runs

/-!
# The inventory service (`service/service.go`, `cache/cache.go`, `publisher/publisher.go`)

Calls of any number of clients and the sweeps of the expiry worker interleave. A call of the
repository, of the cache and of the publisher is one step each.
-/

namespace InventoryService

/-! ## The cache -/

/-- A hash in Redis. -/
abbrev Hash := List (String × String)

def Hash.field (m : Hash) (name : String) : String := (m.lookup name).getD ""

def cacheKey (storeID itemID : String) : String := "inventory:" ++ (storeID ++ ":" ++ itemID)

/-- `strconv.ParseInt` with 32 bits, and 0 for what it refuses. -/
def parseInt32 (s : String) : Int32 :=
  match Decimal.parse s with
  | none => 0
  | some n => if -2 ^ 31 ≤ n ∧ n < 2 ^ 31 then .ofInt n else 0

/-- What `SetStock` writes. -/
def Stock.hash (stock : Stock) : Hash := [
  ("inventory_id", stock.inventoryID),
  ("quantity_available", Decimal.format stock.quantityAvailable.toInt),
  ("quantity_reserved", Decimal.format stock.quantityReserved.toInt),
  ("quantity_on_order", Decimal.format stock.quantityOnOrder.toInt),
  ("reorder_point", Decimal.format stock.reorderPoint.toInt),
  ("reorder_quantity", Decimal.format stock.reorderQuantity.toInt),
  ("location", stock.location)]

/-- What the cache's `GetStock` makes of it. -/
def Hash.stock (m : Hash) (storeID itemID : String) : Stock where
  storeID
  itemID
  inventoryID := m.field "inventory_id"
  location := m.field "location"
  quantityAvailable := parseInt32 (m.field "quantity_available")
  quantityReserved := parseInt32 (m.field "quantity_reserved")
  quantityOnOrder := parseInt32 (m.field "quantity_on_order")
  reorderPoint := parseInt32 (m.field "reorder_point")
  reorderQuantity := parseInt32 (m.field "reorder_quantity")

theorem parseInt32_format (x : Int32) : parseInt32 (Decimal.format x.toInt) = x := by
  rw [parseInt32, Decimal.parse_format]
  show (if _ then _ else _) = _
  rw [if_pos ⟨x.le_toInt, x.toInt_lt⟩, Int32.ofInt_toInt]

/-- What is cached is read back. -/
theorem Stock.stock_hash (stock : Stock) (storeID itemID : String) :
    stock.hash.stock storeID itemID = { stock with storeID, itemID } := by
  simp [Hash.stock, Hash.field, Stock.hash, List.lookup_cons, parseInt32_format]

def Reply.reservationID : Reply → String
  | .reserved reservationID _ => reservationID
  | .stock _ | .expired _ => ""

def Reply.level : Reply → Stock
  | .reserved _ level | .stock level => level
  | .expired _ => {}

/-! ## Requests -/

namespace Service

inductive Request where
  | reserveStock (storeID itemID cartID kioskID : String) (quantity : Int32) (expiresAtMs : Int64)
  | releaseStock (storeID itemID cartID : String) (quantity : Int32) (reason : String)
  | adjustStock (storeID itemID : String) (quantityDelta : Int32) (transactionType : TransactionType)
      (referenceID referenceType notes : String)
  deriving DecidableEq, Repr

/-- A message on a subject of the event bus. -/
structure Message where
  subject : String
  payload : List (String × Value)
  deriving DecidableEq, Repr

namespace Request

def storeID : Request → String
  | .reserveStock storeID .. | .releaseStock storeID .. | .adjustStock storeID .. => storeID

def itemID : Request → String
  | .reserveStock _ itemID .. | .releaseStock _ itemID .. | .adjustStock _ itemID .. => itemID

def validate : Request → Except String Unit
  | .reserveStock storeID itemID cartID kioskID quantity _ =>
    if storeID = "" ∨ itemID = "" ∨ cartID = "" ∨ kioskID = "" then
      .error "service: store_id, item_id, cart_id, and kiosk_id are required"
    else if quantity ≤ 0 then .error "service: quantity must be positive"
    else .ok ()
  | .releaseStock storeID itemID cartID _ _ =>
    if storeID = "" ∨ itemID = "" ∨ cartID = "" then
      .error "service: store_id, item_id, and cart_id are required"
    else .ok ()
  | .adjustStock storeID itemID _ transactionType _ _ _ =>
    if storeID = "" ∨ itemID = "" then .error "service: store_id and item_id are required"
    else if transactionType = .unspecified then .error "service: transaction_type is required"
    else .ok ()

/-- The call of the repository. -/
def call : Request → Call
  | .reserveStock storeID itemID cartID kioskID quantity _ =>
    .reserve storeID itemID cartID kioskID quantity
  | .releaseStock storeID itemID cartID _ _ => .release storeID itemID cartID
  | .adjustStock storeID itemID quantityDelta transactionType referenceID referenceType notes =>
    .adjustStock storeID itemID quantityDelta transactionType referenceID referenceType notes

def wrap : Request → String → String
  | .reserveStock .., err => "service: reserve stock: " ++ err
  | .releaseStock .., err => "service: release stock: " ++ err
  | .adjustStock .., err => "service: adjust stock: " ++ err

/-- The event the service publishes itself. `byDefault` is its clock's time plus its TTL. -/
def message (reservationID : String) (byDefault : Int64) : Request → Message
  | .reserveStock storeID itemID cartID kioskID quantity expiresAtMs => {
      subject := "astra.inventory.InventoryReserved"
      payload := [("reservation_id", .text reservationID), ("store_id", .text storeID),
        ("item_id", .text itemID), ("cart_id", .text cartID), ("kiosk_id", .text kioskID),
        ("quantity", .number quantity.toInt),
        ("expires_at_ms", .number (if 0 < expiresAtMs then expiresAtMs else byDefault).toInt)] }
  | .releaseStock storeID itemID cartID quantity reason => {
      subject := "astra.inventory.InventoryReleased"
      payload := [("store_id", .text storeID), ("item_id", .text itemID), ("cart_id", .text cartID),
        ("quantity", .number quantity.toInt), ("reason", .text reason)] }
  | .adjustStock storeID itemID quantityDelta transactionType referenceID referenceType notes => {
      subject := "astra.inventory.InventoryAdjusted"
      payload := [("store_id", .text storeID), ("item_id", .text itemID),
        ("quantity_delta", .number quantityDelta.toInt),
        ("transaction_type", .text transactionType.string), ("reference_id", .text referenceID),
        ("reference_type", .text referenceType), ("notes", .text notes)] }

end Request

/-! ## Steps -/

/-- How far a call has got. -/
inductive Phase where
  | idle
  /-- `GetStock` has not found the stock in the cache. -/
  | missed (storeID itemID : String)
  /-- `GetStock` has read it from the repository. -/
  | loaded (storeID itemID : String) (stock : Stock)
  /-- The repository has returned, and the entry of the cache is still there. -/
  | written (req : Request) (reply : Reply)
  | invalidated (req : Request) (reply : Reply)
  deriving DecidableEq, Repr

inductive Act (Tid : Type*) where
  | getStock (t : Tid) (storeID itemID : String)
  /-- `GetStock` reads the repository, which may fail. -/
  | readStock (t : Tid) (fault : Option String)
  | setStock (t : Tid)
  | request (t : Tid) (req : Request) (env : Env)
  | invalidate (t : Tid)
  | publish (t : Tid) (byDefault : Int64) (fails : Bool)
  /-- A tick of the expiry worker. -/
  | sweep (env : Env) (nowMs : Int64)
  /-- A key of the cache reaches its TTL. -/
  | expire (key : String)

structure World (Tid : Type*) where
  db : DB
  cache : String → Option Hash := fun _ => none
  calls : Tid → Phase := fun _ => .idle
  published : List Message := []

variable {Tid : Type*} [DecidableEq Tid]

namespace World

def goto (w : World Tid) (t : Tid) (phase : Phase) : World Tid :=
  { w with calls := fun t' => if t' = t then phase else w.calls t' }

def setEntry (w : World Tid) (key : String) (entry : Option Hash) : World Tid :=
  { w with cache := fun key' => if key' = key then entry else w.cache key' }

def cached (w : World Tid) (storeID itemID : String) : Option Stock :=
  (w.cache (cacheKey storeID itemID)).map (·.stock storeID itemID)

end World

variable (uuid : UUIDText)

/-- A step, and what a call that ends with it returns. A client has one call in flight at a time. -/
def respond (w : World Tid) : Act Tid → World Tid × Option (Except String Stock)
  | .getStock t storeID itemID =>
    match w.calls t with
    | .idle =>
      if storeID = "" ∨ itemID = "" then
        (w, some (.error "service: store_id and item_id are required"))
      else
        match w.cached storeID itemID with
        | some stock => (w, some (.ok stock))
        | none => (w.goto t (.missed storeID itemID), none)
    | _ => (w, none)
  | .readStock t fault =>
    match w.calls t with
    | .missed storeID itemID =>
      match fault.elim (getStock uuid w.db storeID itemID) .error with
      | .error err => (w.goto t .idle, some (.error ("service: get stock: " ++ err)))
      | .ok stock => (w.goto t (.loaded storeID itemID stock), none)
    | _ => (w, none)
  | .setStock t =>
    match w.calls t with
    | .loaded _ _ stock =>
      ((w.setEntry (cacheKey stock.storeID stock.itemID) (some stock.hash)).goto t .idle,
        some (.ok stock))
    | _ => (w, none)
  | .request t req env =>
    match w.calls t with
    | .idle =>
      match req.validate with
      | .error err => (w, some (.error err))
      | .ok () =>
        match Postgres.call uuid w.db env req.call with
        | (db, .error err) => ({ w with db }, some (.error (req.wrap err)))
        | (db, .ok reply) => ({ w with db }.goto t (.written req reply), none)
    | _ => (w, none)
  | .invalidate t =>
    match w.calls t with
    | .written req reply =>
      ((w.setEntry (cacheKey req.storeID req.itemID) none).goto t (.invalidated req reply), none)
    | _ => (w, none)
  | .publish t byDefault fails =>
    match w.calls t with
    | .invalidated req reply =>
      let published := if fails then w.published
        else w.published ++ [req.message reply.reservationID byDefault]
      ({ w with published }.goto t .idle, some (.ok reply.level))
    | _ => (w, none)
  | .sweep env nowMs => ({ w with db := (Postgres.call uuid w.db env (.expireReservations nowMs)).1 }, none)
  | .expire key => (w.setEntry key none, none)

def step (w : World Tid) (a : Act Tid) : World Tid := (respond uuid w a).1

/-- What the calls return that a list of actions ends. -/
def replies (w : World Tid) : List (Act Tid) → List (Except String Stock)
  | [] => []
  | a :: acts => (respond uuid w a).2.toList ++ replies (step uuid w a) acts

end Service

end InventoryService
