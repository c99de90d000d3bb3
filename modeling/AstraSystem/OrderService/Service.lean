import AstraSystem.Lib.RFC3339
import AstraSystem.Lib.Runs
import AstraSystem.Lib.Table
import AstraSystem.Lib.UUID

/-!
# The order service (`service/service.go`, `repository/repository.go`)

Calls of `CreateOrder` and deliveries of finalized carts interleave: a look for an order, the cart
service, the transaction and the reload each take one step. No statement fails but for the schema.
-/

namespace OrderService

open RFC3339 (Time pad)

/-! ## Carts and orders -/

structure CartLine where
  menuItemID : String
  nameSnapshot : String
  unitPriceCentsSnapshot : Int64
  quantity : Int32
  /-- The ids of the options. -/
  modifiers : List String
  lineTotalCents : Int64
  deriving DecidableEq, Repr

/-- A cart as the cart service returns it. -/
structure Cart where
  cartID : String
  storeID : String
  kioskID : String
  totalCents : Int64
  taxCents : Int64
  discountCents : Int64
  finalTotalCents : Int64
  lines : List CartLine
  deriving DecidableEq, Repr

structure OrderItem where
  orderItemID : String
  itemID : String
  nameSnapshot : String
  priceCentsSnapshot : Int64
  quantity : Int32
  modifierOptionIDs : List String
  lineTotalCents : Int64
  createdAt : Time
  deriving DecidableEq

inductive Status where
  | pending
  | paid
  | fulfilled
  | cancelled
  | refunded
  deriving DecidableEq, Repr

/-- An order, whose ids are texts in the service and UUIDs in its table. -/
structure Order (ID : Type) where
  orderID : ID
  storeID : ID
  kioskID : ID
  cartID : ID
  orderNumber : String
  status : Status
  subtotalCents : Int64
  taxCents : Int64
  discountCents : Int64
  totalCents : Int64
  currency : String
  items : List OrderItem
  createdAt : Time
  updatedAt : Time
  deriving DecidableEq

structure CreateOrderRequest where
  cartID : String
  storeID : String := ""
  kioskID : String := ""
  deriving DecidableEq, Repr

structure CartFinalized where
  cartID : String
  orderID : String
  currency : String
  finalTotalCents : Int64
  deriving DecidableEq, Repr

structure OrderCreated where
  orderID : String
  cartID : String
  storeID : String
  kioskID : String
  totalCents : Int64
  currency : String
  deriving DecidableEq, Repr

structure OutboxEvent where
  eventID : UUID
  aggregateID : String
  eventType : String := "astra.order.created.v1"
  payload : OrderCreated
  occurredAtMs : ℤ
  deriving DecidableEq, Repr

/-- The clock and the ids that a call draws. -/
structure Env where
  now : Time
  orderID : UUID
  itemID : ℕ → UUID
  eventID : UUID

/-- `A-20060102-150405`. -/
def generateOrderNumber (now : Time) : String := String.ofList
  ('A' :: '-' :: (pad 4 now.year ++ pad 2 now.month ++ pad 2 now.day ++
    '-' :: (pad 2 now.hour ++ pad 2 now.minute ++ pad 2 now.second)))

variable (uuid : UUIDText)

def buildOrderFromCart (env : Env) (req : CreateOrderRequest) (cart : Cart) :
    Except String (Order String) :=
  let storeID := if req.storeID ≠ "" then req.storeID else cart.storeID
  let kioskID := if req.kioskID ≠ "" then req.kioskID else cart.kioskID
  if storeID = "" ∨ kioskID = "" then .error "store_id and kiosk_id are required"
  else .ok {
    orderID := uuid.string env.orderID
    storeID, kioskID
    cartID := cart.cartID
    orderNumber := generateOrderNumber env.now
    status := .pending
    subtotalCents := cart.totalCents
    taxCents := cart.taxCents
    discountCents := cart.discountCents
    totalCents := cart.finalTotalCents
    currency := "USD"
    items := cart.lines.mapIdx fun i line => {
      orderItemID := uuid.string (env.itemID i)
      itemID := line.menuItemID
      nameSnapshot := line.nameSnapshot
      priceCentsSnapshot := line.unitPriceCentsSnapshot
      quantity := line.quantity
      modifierOptionIDs := line.modifiers
      lineTotalCents := line.lineTotalCents
      createdAt := env.now }
    createdAt := env.now
    updatedAt := env.now }

def orderCreated (env : Env) (order : Order String) : OutboxEvent where
  eventID := env.eventID
  aggregateID := order.orderID
  payload := ⟨order.orderID, order.cartID, order.storeID, order.kioskID, order.totalCents,
    order.currency⟩
  occurredAtMs := order.createdAt.unixNano / 10 ^ 6

/-! ## The repository -/

structure KeyRow where
  scope : String
  key : String
  orderID : UUID
  deriving DecidableEq, Repr

structure DB where
  orders : Table (Order UUID) UUID Order.orderID := .empty
  /-- `idempotency_keys`, of which `(scope, key)` is unique. -/
  keys : List KeyRow := []
  outbox : List OutboxEvent := []

inductive RepositoryError where
  | orderNotFound
  | orderConflict
  | other (message : String)
  deriving DecidableEq, Repr

def RepositoryError.message : RepositoryError → String
  | .orderNotFound => "repository: order not found"
  | .orderConflict => "repository: order already exists"
  | .other message => message

/-- `order_number` is a `VARCHAR(16)`. -/
def orderNumberWidth : ℕ := 16

def invalidUUID (text : String) : String := "invalid input syntax for type uuid: " ++ text

/-- The ids of an order as the database reads them. -/
def Order.row (order : Order String) : Except String (Order UUID) := do
  let id (text : String) := (uuid.parse text).mapError fun _ => invalidUUID text
  let orderID ← id order.orderID
  let storeID ← id order.storeID
  let kioskID ← id order.kioskID
  let cartID ← id order.cartID
  pure { order with orderID, storeID, kioskID, cartID }

def Order.scan (row : Order UUID) : Order String :=
  { row with
    orderID := uuid.string row.orderID
    storeID := uuid.string row.storeID
    kioskID := uuid.string row.kioskID
    cartID := uuid.string row.cartID }

def DB.insertOrder (db : DB) (order : Order String) : Except String DB := do
  let row ← order.row uuid
  if orderNumberWidth < row.orderNumber.length then
    throw "value too long for type character varying(16)"
  else if (db.orders.find? row.orderID).isSome ∨
      ∃ o ∈ db.orders.rows, o.orderNumber = row.orderNumber then
    throw "duplicate key value violates unique constraint"
  else pure { db with orders := db.orders.upsert (fun _ new => new) (fun _ _ => rfl) row }

/-- `ON CONFLICT (scope, key) DO NOTHING`. -/
def DB.insertKey (db : DB) (row : KeyRow) : DB :=
  if ∃ old ∈ db.keys, old.scope = row.scope ∧ old.key = row.key then db
  else { db with keys := db.keys ++ [row] }

/-- `ON CONFLICT (event_id) DO NOTHING`. -/
def DB.insertOutbox (db : DB) (e : OutboxEvent) : DB :=
  if ∃ old ∈ db.outbox, old.eventID = e.eventID then db else { db with outbox := db.outbox ++ [e] }

/-- The transaction of `CreateOrder`. -/
def createOrder (db : DB) (order : Order String) (idempotencyKey : String) (event : OutboxEvent) :
    DB × Except RepositoryError Unit :=
  match db.insertOrder uuid order, uuid.parse order.orderID with
  | .error err, _ => (db, .error (.other ("repository: insert order: " ++ err)))
  | .ok _, .error err => (db, .error (.other ("repository: insert order: " ++ err)))
  | .ok db', .ok orderID =>
    let keyed := if idempotencyKey ≠ "" then db'.insertKey ⟨order.cartID, idempotencyKey, orderID⟩ else db'
    (keyed.insertOutbox event, .ok ())

def getOrder (db : DB) (orderID : String) : Except RepositoryError (Order String) :=
  match uuid.parse orderID with
  | .error _ => .error (.other ("repository: query order: " ++ invalidUUID orderID))
  | .ok id =>
    match db.orders.find? id with
    | none => .error .orderNotFound
    | some row => .ok (row.scan uuid)

def getOrderByCartID (db : DB) (cartID : String) : Except RepositoryError (Order String) :=
  match uuid.parse cartID with
  | .error _ => .error (.other ("repository: query order: " ++ invalidUUID cartID))
  | .ok id =>
    match db.orders.rows.find? fun row => row.cartID = id with
    | none => .error .orderNotFound
    | some row => .ok (row.scan uuid)

def getOrderByIdempotencyKey (db : DB) (cartID idempotencyKey : String) :
    Except RepositoryError (Order String) :=
  match db.keys.find? fun row => row.scope = cartID ∧ row.key = idempotencyKey with
  | none => .error .orderNotFound
  | some row => getOrder uuid db (uuid.string row.orderID)

/-! ## The service -/

inductive Code where
  | invalidArgument
  | internal
  | notFound
  | alreadyExists
  deriving DecidableEq, Repr

/-- What a call fails with: a gRPC status, or an error of the event handler. -/
inductive Failure where
  | status (code : Code) (message : String)
  | error (message : String)
  deriving DecidableEq, Repr

abbrev Reply := Except Failure (Order String)

inductive Call where
  | createOrder (req : CreateOrderRequest) (idempotencyKey : String)
  | cartFinalized (evt : CartFinalized)
  deriving DecidableEq, Repr

namespace Call

def cartID : Call → String
  | createOrder req _ => req.cartID
  | cartFinalized evt => evt.cartID

def request : Call → CreateOrderRequest
  | createOrder req _ => req
  | cartFinalized evt => { cartID := evt.cartID }

def idempotencyKey : Call → String
  | createOrder _ key => key
  | cartFinalized evt => "cart-finalized-" ++ evt.cartID

/-- A failure under the code that `CreateOrder` gives it. -/
def failure (c : Call) (code : Code) (message : String) : Failure :=
  match c with
  | createOrder .. => .status code message
  | cartFinalized .. => .error message

/-- The look for an order before the cart is fetched. -/
def find (c : Call) (uuid : UUIDText) (db : DB) : Except Failure (Option (Order String)) :=
  match c with
  | createOrder req key =>
    if key = "" then .ok none
    else match getOrderByIdempotencyKey uuid db req.cartID key with
      | .ok order => .ok (some order)
      | .error .orderNotFound => .ok none
      | .error err => .error (.status .internal ("idempotency lookup failed: " ++ err.message))
  | cartFinalized evt =>
    match getOrderByCartID uuid db evt.cartID with
    | .ok order => .ok (some order)
    | .error .orderNotFound => .ok none
    | .error err => .error (.error ("cart lookup failed: " ++ err.message))

/-- The order that a call makes of a cart. -/
def order (c : Call) (uuid : UUIDText) (env : Env) (cart : Cart) : Except String (Order String) := do
  let order ← buildOrderFromCart uuid env c.request cart
  match c with
  | createOrder .. => pure order
  | cartFinalized evt => pure {
      order with
      orderID := if evt.orderID = "" then order.orderID else evt.orderID
      currency := if evt.currency ≠ "" then evt.currency else order.currency
      totalCents := if 0 < evt.finalTotalCents then evt.finalTotalCents else order.totalCents }

end Call

/-! ## Steps -/

/-- How far a call has got. -/
inductive Phase where
  | idle
  /-- No order was found, and the cart service is asked. -/
  | asking (c : Call)
  | fetched (c : Call) (cart : Cart)
  /-- The order is stored, and read back. -/
  | stored (c : Call) (orderID : String)
  /-- Another order was stored first, and is read instead. -/
  | conflicting (c : Call)

inductive Act (Tid : Type*) where
  | start (t : Tid) (c : Call)
  /-- The cart service answers. -/
  | getCart (t : Tid) (cart : Option Cart)
  | create (t : Tid) (env : Env)
  | reload (t : Tid)

structure World (Tid : Type*) where
  db : DB := {}
  calls : Tid → Phase := fun _ => .idle
  /-- What the calls that have processed a cart returned, each with the id of the cart. -/
  answers : List (String × Reply) := []

variable {Tid : Type*} [DecidableEq Tid]

namespace World

def goto (w : World Tid) (t : Tid) (phase : Phase) : World Tid :=
  { w with calls := fun t' => if t' = t then phase else w.calls t' }

/-- A call that has processed its cart returns. -/
def answer (w : World Tid) (t : Tid) (c : Call) (reply : Reply) : World Tid × Option Reply :=
  ({ w with answers := w.answers ++ [(c.cartID, reply)] }.goto t .idle, some reply)

end World

def start (w : World Tid) (t : Tid) (c : Call) : World Tid × Option Reply :=
  if c.cartID = "" then (w, some (.error (c.failure .invalidArgument "cart_id is required")))
  else
    match c.find uuid w.db with
    | .error err => (w, some (.error err))
    | .ok (some order) => w.answer t c (.ok order)
    | .ok none => (w.goto t (.asking c), none)

def create (w : World Tid) (t : Tid) (env : Env) (c : Call) (cart : Cart) : World Tid × Option Reply :=
  match c.order uuid env cart with
  | .error err => (w.goto t .idle, some (.error (c.failure .invalidArgument ("build order: " ++ err))))
  | .ok order =>
    match createOrder uuid w.db order c.idempotencyKey (orderCreated env order), c with
    | (db, .ok ()), c => ({ w with db }.goto t (.stored c order.orderID), none)
    | (db, .error .orderConflict), .cartFinalized evt =>
      ({ w with db }.goto t (.conflicting (.cartFinalized evt)), none)
    | (db, .error .orderConflict), .createOrder req key =>
      { w with db }.answer t (.createOrder req key) (.error (.status .alreadyExists
        ("order already exists for cart: " ++ RepositoryError.orderConflict.message)))
    | (db, .error err), c =>
      { w with db }.answer t c (.error (c.failure .internal ("create order: " ++ err.message)))

/-- A step, and what a call that ends with it returns. -/
def respond (w : World Tid) : Act Tid → World Tid × Option Reply
  | .start t c =>
    match w.calls t with
    | .idle => start uuid w t c
    | _ => (w, none)
  | .getCart t cart =>
    match w.calls t, cart with
    | .asking c, some cart => (w.goto t (.fetched c cart), none)
    | .asking c, none => (w.goto t .idle, some (.error (c.failure .notFound "cart not found")))
    | _, _ => (w, none)
  | .create t env =>
    match w.calls t with
    | .fetched c cart => create uuid w t env c cart
    | _ => (w, none)
  | .reload t =>
    match w.calls t with
    | .stored c orderID =>
      match getOrder uuid w.db orderID with
      | .ok order => w.answer t c (.ok order)
      | .error err => w.answer t c (.error (c.failure .internal ("reload order: " ++ err.message)))
    | .conflicting c =>
      match getOrderByCartID uuid w.db c.cartID with
      | .ok order => w.answer t c (.ok order)
      | .error err => w.answer t c (.error (c.failure .internal ("reload after conflict: " ++ err.message)))
    | _ => (w, none)

def step (w : World Tid) (a : Act Tid) : World Tid := (respond uuid w a).1

end OrderService
