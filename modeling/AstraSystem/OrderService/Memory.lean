import AstraSystem.Lib.Assoc
import AstraSystem.OrderService.OneOrder
import AstraSystem.OrderService.Repository

/-!
# The in-memory order repository (`repository/memory.go`)

Its three maps hold the same orders: those by cart and by idempotency key are kept as the ids of the orders
they point to.
-/

namespace OrderService.Repository

open RFC3339 (Time)

structure MemoryRepository where
  orders : Table (Order String) String Order.orderID := .empty
  ordersByCart : Assoc.Map String String := ∅
  idempotency : Assoc.Map String String := ∅
  outbox : List OutboxEvent := []

/-- `cloneOrder`: a map that is `nil` comes back empty. -/
def Order.clone {ID : Type} (o : Order ID) : Order ID := { o with metadata := some (o.metadata.getD []) }

namespace MemoryRepository

def createOrder (m : MemoryRepository) (order : Order String) (event : OutboxEvent) :
    MemoryRepository × Except RepositoryError Unit :=
  if (m.orders.find? order.orderID).isSome then (m, .error .orderConflict)
  else if (m.ordersByCart.lookup order.cartID).isSome then (m, .error .orderConflict)
  else ({ m with
    orders := m.orders.upsert (fun _ new => new) (fun _ _ => rfl) order.clone
    ordersByCart := m.ordersByCart.insert order.cartID order.orderID
    idempotency := if order.idempotencyKey ≠ "" then
      m.idempotency.insert (order.cartID ++ "|" ++ order.idempotencyKey) order.orderID else m.idempotency
    outbox := m.outbox ++ [event] }, .ok ())

def getOrder (m : MemoryRepository) (orderID : String) : Except RepositoryError (Order String) :=
  match m.orders.find? orderID with
  | none => .error .orderNotFound
  | some order => .ok order.clone

def getOrderByCartID (m : MemoryRepository) (cartID : String) : Except RepositoryError (Order String) :=
  match m.ordersByCart.lookup cartID with
  | none => .error .orderNotFound
  | some orderID => m.getOrder orderID

def getOrderByIdempotencyKey (m : MemoryRepository) (cartID idempotencyKey : String) :
    Except RepositoryError (Order String) :=
  match m.idempotency.lookup (cartID ++ "|" ++ idempotencyKey) with
  | none => .error .orderNotFound
  | some orderID => m.getOrder orderID

/-- The map is walked in any order, and pages have any size. -/
def listOrders (m : MemoryRepository) (walk : Shuffle (Order String)) (filter : ListFilter) :
    Except RepositoryError (List (Order String) × ℕ) :=
  let page := if filter.page < 1 then 1 else filter.page
  let pageSize := if filter.pageSize < 1 then 20 else filter.pageSize
  let matched := (walk.apply m.orders.rows).filter fun o =>
    (filter.storeID = "" ∨ o.storeID = filter.storeID) ∧ (filter.kioskID = "" ∨ o.kioskID = filter.kioskID) ∧
      (filter.status = "" ∨ o.status = filter.status)
  let start := min ((page - 1) * pageSize).toInt matched.length
  let stop := min (start + pageSize.toInt) matched.length
  if start < 0 then .error (.other "slice bounds out of range")
  else .ok (((matched.drop start.toNat).take (stop - start).toNat).map Order.clone, matched.length)

/-- An order that is there is changed, and the event is recorded. -/
def put (m : MemoryRepository) (order : Order String) (event : OutboxEvent) :
    MemoryRepository × Except RepositoryError (Order String) :=
  ({ m with
    orders := m.orders.upsert (fun _ new => new) (fun _ _ => rfl) order
    outbox := m.outbox ++ [event] }, .ok order.clone)

/-- A status other than `cancelled` leaves the time of cancellation. -/
def updateOrderStatus (m : MemoryRepository) (now : Time) (orderID status : String) (event : OutboxEvent) :
    MemoryRepository × Except RepositoryError (Order String) :=
  match m.orders.find? orderID with
  | none => (m, .error .orderNotFound)
  | some order =>
    if order.status = status then (m, .ok order.clone)
    else m.put { order with
      status
      updatedAt := now
      cancelledAt := if status = "cancelled" then some now else order.cancelledAt } event

def markPaid (m : MemoryRepository) (now : Time) (orderID : String) (paidAt : Time) (event : OutboxEvent) :
    MemoryRepository × Except RepositoryError (Order String) :=
  match m.orders.find? orderID with
  | none => (m, .error .orderNotFound)
  | some order =>
    if order.status = "paid" ∨ order.status = "fulfilled" then (m, .ok order.clone)
    else if order.status ≠ "pending" then (m, .error (.invalidStatus ""))
    else m.put { order with status := "paid", paidAt := some paidAt, updatedAt := now } event

def markFulfilled (m : MemoryRepository) (now : Time) (orderID fulfilledBy : String) (fulfilledAt : Time)
    (event : OutboxEvent) : MemoryRepository × Except RepositoryError (Order String) :=
  match m.orders.find? orderID with
  | none => (m, .error .orderNotFound)
  | some order =>
    if order.status = "fulfilled" then (m, .ok order.clone)
    else if order.status ≠ "paid" then (m, .error (.invalidStatus ""))
    else m.put { order with
      status := "fulfilled"
      fulfilledAt := some fulfilledAt
      metadata := if fulfilledBy = "" then order.metadata
        else some (setEntry (order.metadata.getD []) "fulfilled_by" fulfilledBy)
      updatedAt := now } event

end MemoryRepository

/-! ## Both repositories -/

inductive Call where
  | createOrder (order : Order String) (event : OutboxEvent)
  | getOrder (orderID : String)
  | getOrderByCartID (cartID : String)
  | getOrderByIdempotencyKey (cartID idempotencyKey : String)
  | listOrders (filter : ListFilter)
  | updateOrderStatus (orderID status : String) (event : OutboxEvent)
  | markPaid (orderID : String) (paidAt : Time) (event : OutboxEvent)
  | markFulfilled (orderID fulfilledBy : String) (fulfilledAt : Time) (event : OutboxEvent)

inductive Answer (O : Type) where
  | done
  | order (o : O)
  | page (orders : List O) (total : ℕ)

def Answer.map {O P : Type} (f : O → P) : Answer O → Answer P
  | .done => .done
  | .order o => .order (f o)
  | .page orders total => .page (orders.map f) total

abbrev Result := Except RepositoryError (Answer (Order String))

/-- A call, with what each of the repositories finds around it. -/
structure Act where
  call : Call
  env : Env
  ties : Shuffle (Order UUID)
  now : Time
  walk : Shuffle (Order String)

/-- A query, which may fail. -/
def Env.query {A : Type} (env : Env) (x : Except RepositoryError A) : Except RepositoryError A :=
  match env.outcome with
  | .committed => x
  | .rolledBack err | .lost err => .error (.other err)

def postgres (uuid : UUIDText) (db : DB) (a : Act) : DB × Result :=
  match a.call with
  | .createOrder order event =>
    let r := createOrder uuid db a.env order event
    (r.1, r.2.map fun _ => .done)
  | .getOrder orderID => (db, (a.env.query (getOrder uuid db orderID)).map .order)
  | .getOrderByCartID cartID => (db, (a.env.query (getOrderByCartID uuid db cartID)).map .order)
  | .getOrderByIdempotencyKey cartID key =>
    (db, (a.env.query (getOrderByIdempotencyKey uuid db cartID key)).map .order)
  | .listOrders filter =>
    (db, (a.env.query (listOrders uuid db a.ties filter)).map fun page => .page page.1 page.2)
  | .updateOrderStatus orderID status event =>
    let r := updateOrderStatus uuid db a.env orderID status event
    (r.1, r.2.map .order)
  | .markPaid orderID paidAt event =>
    let r := markPaid uuid db a.env orderID paidAt event
    (r.1, r.2.map .order)
  | .markFulfilled orderID fulfilledBy fulfilledAt event =>
    let r := markFulfilled uuid db a.env orderID fulfilledBy fulfilledAt event
    (r.1, r.2.map .order)

def memory (m : MemoryRepository) (a : Act) : MemoryRepository × Result :=
  match a.call with
  | .createOrder order event =>
    let r := m.createOrder order event
    (r.1, r.2.map fun _ => .done)
  | .getOrder orderID => (m, (m.getOrder orderID).map .order)
  | .getOrderByCartID cartID => (m, (m.getOrderByCartID cartID).map .order)
  | .getOrderByIdempotencyKey cartID key => (m, (m.getOrderByIdempotencyKey cartID key).map .order)
  | .listOrders filter => (m, (m.listOrders a.walk filter).map fun page => .page page.1 page.2)
  | .updateOrderStatus orderID status event =>
    let r := m.updateOrderStatus a.now orderID status event
    (r.1, r.2.map .order)
  | .markPaid orderID paidAt event =>
    let r := m.markPaid a.now orderID paidAt event
    (r.1, r.2.map .order)
  | .markFulfilled orderID fulfilledBy fulfilledAt event =>
    let r := m.markFulfilled a.now orderID fulfilledBy fulfilledAt event
    (r.1, r.2.map .order)

structure World where
  memory : MemoryRepository := {}
  db : DB := {}

def step (uuid : UUIDText) (w : World) (a : Act) : World :=
  ⟨(memory w.memory a).1, (postgres uuid w.db a).1⟩

/-! ## What is compared -/

/-- An order, of whose times it is seen whether they are set. -/
structure Seen where
  orderID : String
  storeID : String
  kioskID : String
  cartID : String
  orderNumber : String
  status : String
  subtotalCents : Int64
  taxCents : Int64
  discountCents : Int64
  totalCents : Int64
  currency : String
  items : List OrderItem
  taxBreakdown : List (String × String)
  metadata : List (String × String)
  paid : Bool
  fulfilled : Bool
  cancelled : Bool
  deriving DecidableEq

def Order.seen (o : Order String) : Seen where
  orderID := o.orderID
  storeID := o.storeID
  kioskID := o.kioskID
  cartID := o.cartID
  orderNumber := o.orderNumber
  status := o.status
  subtotalCents := o.subtotalCents
  taxCents := o.taxCents
  discountCents := o.discountCents
  totalCents := o.totalCents
  currency := o.currency
  items := o.items
  taxBreakdown := o.taxBreakdown
  metadata := o.metadata.getD []
  paid := o.paidAt.isSome
  fulfilled := o.fulfilledAt.isSome
  cancelled := o.cancelledAt.isSome

inductive Kind where
  | notFound
  | conflict
  | invalidStatus
  | other
  deriving DecidableEq, Repr

def RepositoryError.kind : RepositoryError → Kind
  | .orderNotFound => .notFound
  | .orderConflict => .conflict
  | .invalidStatus _ => .invalidStatus
  | .other _ => .other

/-- A result as callers see it. -/
def seen (r : Result) : Except Kind (Answer Seen) := (r.map (Answer.map Order.seen)).mapError RepositoryError.kind

/-- The event of a row of the outbox. -/
def OutboxRow.event (uuid : UUIDText) (r : OutboxRow) : OutboxEvent :=
  ⟨uuid.string r.eventID, r.eventType, r.payload, r.occurredAtMs⟩

/-- The outboxes hold the same events. -/
def SameOutbox (uuid : UUIDText) (w : World) : Prop :=
  w.memory.outbox = w.db.outbox.map (OutboxRow.event uuid)

/-- A call returns the same from both. -/
def SameReply (uuid : UUIDText) (w : World) (a : Act) : Prop :=
  seen (memory w.memory a).2 = seen (postgres uuid w.db a).2

end OrderService.Repository
