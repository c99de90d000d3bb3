import AstraSystem.Lib.Json
import AstraSystem.OrderService.Service

/-!
# The order repository (`repository/repository.go`)

Orders with all that becomes of them, and the methods that change them. The tables have the constraints of
`001_schema.sql`. That schema lacks some of what the statements name, so which of it is there is a part of the database.
-/

namespace OrderService.Repository

open RFC3339 (Time)

structure Order (ID : Type) where
  orderID : ID
  storeID : ID
  kioskID : ID
  cartID : ID
  orderNumber : String
  status : String
  subtotalCents : Int64
  taxCents : Int64
  discountCents : Int64
  totalCents : Int64
  currency : String
  items : List OrderItem
  taxBreakdown : List (String × String)
  /-- A map, or `nil`. -/
  metadata : Option (List (String × String))
  /-- It has no column. -/
  idempotencyKey : String
  paidAt : Option Time
  fulfilledAt : Option Time
  cancelledAt : Option Time
  createdAt : Time
  updatedAt : Time

structure OutboxEvent where
  eventID : String
  eventType : String
  payload : Json
  occurredAtMs : ℤ

inductive RepositoryError where
  | orderNotFound
  | orderConflict
  /-- `ErrInvalidStatus`, with what the order was to become. -/
  | invalidStatus (context : String)
  | other (message : String)
  deriving DecidableEq, Repr

def RepositoryError.message : RepositoryError → String
  | .orderNotFound => "repository: order not found"
  | .orderConflict => "repository: order already exists"
  | .invalidStatus context => context ++ "repository: invalid status transition"
  | .other message => message

/-! ## Tables -/

/-- A row of the outbox. -/
structure OutboxRow where
  eventID : UUID
  aggregateType : String := "order"
  aggregateID : UUID
  eventType : String
  payload : Json
  occurredAtMs : ℤ

def OutboxEvent.row (event : OutboxEvent) (eventID orderID : UUID) : OutboxRow where
  eventID
  aggregateID := orderID
  eventType := event.eventType
  payload := event.payload
  occurredAtMs := event.occurredAtMs

/-- What the statements name and the schema does not make. -/
structure Tables where
  /-- `currency` and `updated_at` of `orders`. -/
  orders : Bool
  /-- `modifier_option_ids` of `order_items`. -/
  orderItems : Bool
  /-- `idempotency_keys`, of which `(scope, key)` is unique. -/
  idempotencyKeys : Bool
  deriving DecidableEq, Repr

/-- The tables that the statements are written for. -/
def Tables.named : Tables := ⟨true, true, true⟩

/-- The tables that the schema makes. -/
def Tables.deployed : Tables := ⟨false, false, false⟩

/-- Nothing that is named is missing. -/
structure Tables.Complete (tables : Tables) : Prop where
  orders : tables.orders = true
  orderItems : tables.orderItems = true
  idempotencyKeys : tables.idempotencyKeys = true

theorem Tables.complete_named : Tables.named.Complete := ⟨rfl, rfl, rfl⟩

structure DB where
  tables : Tables := .named
  orders : Table (Order UUID) UUID Order.orderID := .empty
  /-- The ids of `order_items`. -/
  items : List UUID := []
  keys : List KeyRow := []
  outbox : List OutboxRow := []

def noColumn (column : String) : String := "column \"" ++ column ++ "\" does not exist"

def noColumnOf (column relation : String) : String :=
  "column \"" ++ column ++ "\" of relation \"" ++ relation ++ "\" does not exist"

def statuses : List String := ["pending", "paid", "fulfilled", "cancelled", "refunded"]

/-- The constraints on the status, `immutable_after_paid` among them. -/
structure Checked {ID : Type} (o : Order ID) : Prop where
  status : o.status ∈ statuses
  immutableAfterPaid : o.status ∈ ["pending", "cancelled"] ∨ o.paidAt.isSome

instance decidableChecked {ID : Type} (o : Order ID) : Decidable (Checked o) :=
  decidable_of_iff (o.status ∈ statuses ∧ (o.status ∈ ["pending", "cancelled"] ∨ o.paidAt.isSome))
    ⟨fun h => ⟨h.1, h.2⟩, fun h => ⟨h.1, h.2⟩⟩

/-- An amount that fits into an `INT`. -/
def fitsInt (cents : Int64) : Bool := -2 ^ 31 ≤ cents.toInt ∧ cents.toInt < 2 ^ 31

/-- The four amounts of an order fit. -/
def Order.Fits {ID : Type} (o : Order ID) : Prop :=
  ∀ cents ∈ [o.subtotalCents, o.taxCents, o.discountCents, o.totalCents], fitsInt cents = true

instance decidableFits {ID : Type} (o : Order ID) : Decidable o.Fits := List.decidableBAll _ _

/-- What becomes of a transaction that no constraint of these tables stops. -/
inductive Outcome where
  | committed
  /-- A statement fails, for a store, kiosk, cart or item that is not there, say, or the commit. -/
  | rolledBack (err : String)
  /-- It commits, and the reply is lost. -/
  | lost (err : String)
  deriving DecidableEq, Repr

/-- What a call finds: the clock, the database, and whether the order can be read back. -/
structure Env where
  now : Time
  outcome : Outcome := .committed
  reload : Option String := none

variable (uuid : UUIDText)

/-- The row that is inserted: an order that nothing has become of. -/
def Order.row (order : Order String) : Except String (Order UUID) := do
  let id (text : String) := (uuid.parse text).mapError fun _ => invalidUUID text
  let orderID ← id order.orderID
  let storeID ← id order.storeID
  let kioskID ← id order.kioskID
  let cartID ← id order.cartID
  pure { order with
    orderID, storeID, kioskID, cartID
    idempotencyKey := "", paidAt := none, fulfilledAt := none, cancelledAt := none }

def Order.scan (row : Order UUID) : Order String :=
  { row with
    orderID := uuid.string row.orderID
    storeID := uuid.string row.storeID
    kioskID := uuid.string row.kioskID
    cartID := uuid.string row.cartID }

namespace DB

def insertOrder (db : DB) (order : Order String) : Except String DB := do
  if ¬ db.tables.orders then throw (noColumnOf "currency" "orders")
  let row ← order.row uuid
  if ¬ row.Fits then throw "value is out of range for type integer"
  else if orderNumberWidth < row.orderNumber.length then
    throw "value too long for type character varying(16)"
  else if ¬ Checked row then
    throw "new row for relation \"orders\" violates check constraint"
  else if (db.orders.find? row.orderID).isSome ∨
      ∃ o ∈ db.orders.rows, o.orderNumber = row.orderNumber then
    throw "duplicate key value violates unique constraint"
  else pure { db with orders := db.orders.upsert (fun _ new => new) (fun _ _ => rfl) row }

def insertItem (db : DB) (item : OrderItem) : Except String DB := do
  if ¬ db.tables.orderItems then throw (noColumnOf "modifier_option_ids" "order_items")
  let id (text : String) := (uuid.parse text).mapError fun _ => invalidUUID text
  let orderItemID ← id item.orderItemID
  let _itemID ← id item.itemID
  if ¬ (fitsInt item.priceCentsSnapshot ∧ fitsInt item.lineTotalCents) then
    throw "value is out of range for type integer"
  else if 255 < item.nameSnapshot.length then
    throw "value too long for type character varying(255)"
  else if item.quantity ≤ 0 then
    throw "new row for relation \"order_items\" violates check constraint"
  else if orderItemID ∈ db.items then
    throw "duplicate key value violates unique constraint"
  else pure { db with items := db.items ++ [orderItemID] }

/-- An update of the one row of an order. -/
def updateOrder (db : DB) (row : Order UUID) : Except String DB :=
  if ¬ db.tables.orders then .error (noColumnOf "updated_at" "orders")
  else if Checked row then
    .ok { db with orders := db.orders.upsert (fun _ new => new) (fun _ _ => rfl) row }
  else .error "new row for relation \"orders\" violates check constraint"

/-- `ON CONFLICT (scope, key) DO NOTHING`. -/
def insertKey (db : DB) (row : KeyRow) : Except String DB :=
  if ¬ db.tables.idempotencyKeys then .error "relation \"idempotency_keys\" does not exist"
  else if ∃ old ∈ db.keys, old.scope = row.scope ∧ old.key = row.key then .ok db
  else .ok { db with keys := db.keys ++ [row] }

/-- The key that an order is sent with, if any. -/
def insertKeyOf (db : DB) (order : Order String) (orderID : UUID) : Except String DB :=
  if order.idempotencyKey ≠ "" then db.insertKey ⟨order.cartID, order.idempotencyKey, orderID⟩ else .ok db

/-- `ON CONFLICT (event_id) DO NOTHING`. -/
def insertOutbox (db : DB) (orderID : UUID) (event : OutboxEvent) : Except String DB :=
  match uuid.parse event.eventID with
  | .error _ => .error ("outbox: insert within tx: " ++ invalidUUID event.eventID)
  | .ok eventID =>
    if ∃ old ∈ db.outbox, old.eventID = eventID then .ok db
    else .ok { db with outbox := db.outbox ++ [event.row eventID orderID] }

end DB

def refused {A : Type} (context : String) (x : Except String A) : Except RepositoryError A :=
  x.mapError fun err => .other (context ++ err)

/-! ## Lookups -/

/-- A query for the one order, or the first, that an id finds. -/
def queryOrder (db : DB) (find : UUID → Option (Order UUID)) (text : String) :
    Except RepositoryError (Order String) :=
  if ¬ db.tables.orders then .error (.other ("repository: query order: " ++ noColumn "currency"))
  else match uuid.parse text with
  | .error _ => .error (.other ("repository: query order: " ++ invalidUUID text))
  | .ok id =>
    match find id with
    | none => .error .orderNotFound
    | some row => .ok (row.scan uuid)

def getOrder (db : DB) (orderID : String) : Except RepositoryError (Order String) :=
  queryOrder uuid db db.orders.find? orderID

def getOrderByCartID (db : DB) (cartID : String) : Except RepositoryError (Order String) :=
  queryOrder uuid db (fun id => db.orders.rows.find? fun row => row.cartID = id) cartID

def getOrderByIdempotencyKey (db : DB) (cartID idempotencyKey : String) :
    Except RepositoryError (Order String) :=
  if ¬ db.tables.idempotencyKeys then
    .error (.other "repository: lookup idempotency key: relation \"idempotency_keys\" does not exist")
  else match db.keys.find? fun row => row.scope = cartID ∧ row.key = idempotencyKey with
  | none => .error .orderNotFound
  | some row => getOrder uuid db (uuid.string row.orderID)

structure ListFilter where
  storeID : String
  kioskID : String
  status : String
  page : Int32
  pageSize : Int32
  deriving DecidableEq, Repr

/-- A filter for nothing. -/
def ListFilter.Empty (filter : ListFilter) : Prop := filter.storeID = "" ∧ filter.kioskID = "" ∧ filter.status = ""

instance decidableEmpty (filter : ListFilter) : Decidable filter.Empty := inferInstanceAs (Decidable (_ ∧ _))

/-- `COUNT(*)`, and one page of the newest orders first. -/
def listOrders (db : DB) (ties : Shuffle (Order UUID)) (filter : ListFilter) :
    Except RepositoryError (List (Order String) × ℕ) :=
  let page := if filter.page < 1 then 1 else filter.page
  let pageSize := if filter.pageSize < 1 then 20 else if 100 < filter.pageSize then 100 else filter.pageSize
  let offset := (page - 1) * pageSize
  -- The condition counts its parameters from `$3` on, as the second query needs it; the first has no `$1` and no `$2`.
  if ¬ filter.Empty then
    .error (.other "repository: count orders: could not determine data type of parameter $1")
  else if ¬ db.tables.orders then .error (.other ("repository: query orders: " ++ noColumn "currency"))
  else if offset < 0 then .error (.other "repository: query orders: OFFSET must not be negative")
  else
    let sorted := (ties.apply db.orders.rows).insertionSort fun a b =>
      b.createdAt.unixNano ≤ a.createdAt.unixNano
    .ok (((sorted.drop offset.toInt.toNat).take pageSize.toInt.toNat).map (Order.scan uuid), db.orders.rows.length)

/-! ## Transactions -/

def createOrder (db : DB) (env : Env) (order : Order String) (event : OutboxEvent) :
    DB × Except RepositoryError Unit :=
  let run : Except RepositoryError DB := do
    let db ← refused "repository: insert order: " (db.insertOrder uuid order)
    let orderID ← refused "repository: insert order: " (uuid.parse order.orderID)
    let db ← refused "repository: insert order item: " (order.items.foldlM (DB.insertItem uuid) db)
    let db ← refused "repository: insert idempotency key: " (db.insertKeyOf order orderID)
    refused "repository: insert outbox: " (db.insertOutbox uuid orderID event)
  match env.outcome, run with
  | .rolledBack err, _ => (db, .error (.other err))
  | _, .error err => (db, .error err)
  | .committed, .ok db => (db, .ok ())
  | .lost err, .ok db => (db, .error (.other err))

/-- What a method makes of an order: `none` leaves it as it is. -/
abbrev Move := Order UUID → Except RepositoryError (Option (Order UUID))

/-- A method that finds an order by its id, moves it in a transaction, and reads it back. -/
def change (db : DB) (env : Env) (orderID : String) (context : String) (event : OutboxEvent) (move : Move) :
    DB × Except RepositoryError (Order String) :=
  let run : Except RepositoryError DB := do
    let id ← refused "repository: select order: " ((uuid.parse orderID).mapError fun _ => invalidUUID orderID)
    match db.orders.find? id with
    | none => throw .orderNotFound
    | some old =>
      match ← move old with
      | none => pure db
      | some row =>
        let db ← refused context (db.updateOrder row)
        refused "repository: insert outbox: " (db.insertOutbox uuid id event)
  match env.outcome, run with
  | .rolledBack err, _ => (db, .error (.other err))
  | _, .error err => (db, .error err)
  | .lost err, .ok db => (db, .error (.other err))
  | .committed, .ok db => (db, match env.reload with
    | some err => .error (.other err)
    | none => getOrder uuid db orderID)

/-- Any status takes the place of another. -/
def Move.set (env : Env) (status : String) : Move := fun old =>
  if old.status = status then .ok none
  else .ok (some { old with
    status
    cancelledAt := if status = "cancelled" then some env.now else none
    updatedAt := env.now })

def updateOrderStatus (db : DB) (env : Env) (orderID status : String) (event : OutboxEvent) :
    DB × Except RepositoryError (Order String) :=
  change uuid db env orderID "repository: update status: " event (Move.set env status)

def Move.pay (env : Env) (paidAt : Time) : Move := fun old =>
  if old.status = "paid" ∨ old.status = "fulfilled" then .ok none
  else if old.status ≠ "pending" then
    .error (.invalidStatus ("repository: cannot mark " ++ old.status ++ " order as paid: "))
  else .ok (some { old with status := "paid", paidAt := some paidAt, updatedAt := env.now })

def markPaid (db : DB) (env : Env) (orderID : String) (paidAt : Time) (event : OutboxEvent) :
    DB × Except RepositoryError (Order String) :=
  change uuid db env orderID "repository: mark paid: " event (Move.pay env paidAt)

/-- An entry of a map is set. -/
def setEntry (m : List (String × String)) (name value : String) : List (String × String) :=
  (name, value) :: m.filter fun e => e.1 ≠ name

/-- Who fulfilled an order is noted in its metadata, which have to be a map for it. -/
def noteFulfilled (metadata : Option (List (String × String))) (fulfilledBy : String) :
    Except RepositoryError (Option (List (String × String))) :=
  if fulfilledBy = "" then .ok metadata
  else match metadata with
    | none => .error (.other "assignment to entry in nil map")
    | some m => .ok (some (setEntry m "fulfilled_by" fulfilledBy))

def Move.fulfill (env : Env) (fulfilledBy : String) (fulfilledAt : Time) : Move := fun old =>
  if old.status = "fulfilled" then .ok none
  else if old.status ≠ "paid" then
    .error (.invalidStatus ("repository: cannot fulfill " ++ old.status ++ " order: "))
  else do
    let metadata ← noteFulfilled old.metadata fulfilledBy
    .ok (some { old with
      status := "fulfilled", fulfilledAt := some fulfilledAt, metadata, updatedAt := env.now })

def markFulfilled (db : DB) (env : Env) (orderID fulfilledBy : String) (fulfilledAt : Time)
    (event : OutboxEvent) : DB × Except RepositoryError (Order String) :=
  change uuid db env orderID "repository: mark fulfilled: " event (Move.fulfill env fulfilledBy fulfilledAt)

/-! ## What a transaction does -/

section
variable {uuid} {db db' : DB} {env : Env} {orderID context : String} {event : OutboxEvent}
  {move : Move} {id : UUID} {old row : Order UUID}

theorem refused_eq_ok {A : Type} {x : Except String A} {a : A} :
    refused context x = .ok a ↔ x = .ok a := Statement.mapError_eq_ok

theorem updateOrder_eq_ok : db.updateOrder row = .ok db' ↔
    (db.tables.orders = true ∧ Checked row) ∧ db' = { db with
      orders := db.orders.upsert (fun _ new => new) (fun _ _ => rfl) row } := by
  unfold DB.updateOrder
  split
  · rename_i lacks
    simp [lacks]
  · rename_i columns
    split
    · rename_i checked
      simp [not_not.mp columns, checked, eq_comm]
    · rename_i unchecked
      simp [unchecked]

theorem updateOrder_unchecked (db : DB) (unchecked : ¬ Checked row) : ∃ err, db.updateOrder row = .error err := by
  unfold DB.updateOrder
  by_cases lacks : ¬ db.tables.orders
  · exact ⟨_, if_pos lacks⟩
  · exact ⟨_, (if_neg lacks).trans (if_neg unchecked)⟩

theorem insertOutbox_keeps (h : db.insertOutbox uuid id event = .ok db') : db'.orders = db.orders := by
  unfold DB.insertOutbox at h
  cases parsed : uuid.parse event.eventID with
  | error err =>
    rw [parsed] at h
    cases h
  | ok eventID =>
    simp only [parsed] at h
    split at h
    · cases h
      rfl
    · cases h
      rfl

/-- A change leaves the database as it is, or writes the row that the order moves to. -/
theorem change_cases (uuid : UUIDText) (db : DB) (env : Env) (orderID context : String)
    (event : OutboxEvent) (move : Order UUID → Except RepositoryError (Option (Order UUID))) :
    (change uuid db env orderID context event move).1 = db ∨
    ∃ id old row, uuid.parse orderID = .ok id ∧ db.orders.find? id = some old ∧
      move old = .ok (some row) ∧ Checked row ∧
      (change uuid db env orderID context event move).1.orders =
        db.orders.upsert (fun _ new => new) (fun _ _ => rfl) row := by
  unfold change
  extract_lets run
  cases finished : run with
  | error err => cases env.outcome <;> exact .inl rfl
  | ok db' =>
    have wrote : db' = db ∨ ∃ id old row, uuid.parse orderID = .ok id ∧ db.orders.find? id = some old ∧
        move old = .ok (some row) ∧ Checked row ∧
        db'.orders = db.orders.upsert (fun _ new => new) (fun _ _ => rfl) row := by
      obtain ⟨id, parsed, finished⟩ := Statement.bind_eq_ok.mp finished
      have parsed := Statement.mapError_eq_ok.mp (refused_eq_ok.mp parsed)
      cases found : db.orders.find? id with
      | none =>
        rw [found] at finished
        cases finished
      | some old =>
        rw [found] at finished
        obtain ⟨moved, decided, finished⟩ := Statement.bind_eq_ok.mp finished
        cases moved with
        | none =>
          cases finished
          exact .inl rfl
        | some row =>
          obtain ⟨mid, updated, finished⟩ := Statement.bind_eq_ok.mp finished
          obtain ⟨⟨-, checked⟩, rfl⟩ := updateOrder_eq_ok.mp (refused_eq_ok.mp updated)
          have orders := insertOutbox_keeps (refused_eq_ok.mp finished)
          exact .inr ⟨id, old, row, parsed, found, decided, checked, orders⟩
    cases env.outcome with
    | rolledBack err => exact .inl rfl
    | lost err => exact wrote
    | committed => exact wrote

section
variable {eventID : UUID}

theorem insertOutbox_new (parsed : uuid.parse event.eventID = .ok eventID)
    (fresh : ∀ r ∈ db.outbox, r.eventID ≠ eventID) : db.insertOutbox uuid id event = .ok { db with
      outbox := db.outbox ++ [event.row eventID id] } := by
  have new : ¬ ∃ old ∈ db.outbox, old.eventID = eventID := fun ⟨r, hr, same⟩ => fresh r hr same
  simp only [DB.insertOutbox, parsed]
  exact if_neg new

variable (committed : env.outcome = .committed) (reload : env.reload = none)
  (parsed : uuid.parse orderID = .ok id)
include committed parsed

theorem change_absent (context : String) (event : OutboxEvent) (move : Move)
    (absent : db.orders.find? id = none) :
    change uuid db env orderID context event move = (db, .error .orderNotFound) := by
  simp [change, committed, parsed, refused, Except.mapError, bind, Except.bind, absent, throw, throwThe,
    MonadExceptOf.throw]

variable (found : db.orders.find? id = some old)
include found

theorem change_error (context : String) (event : OutboxEvent) {err : RepositoryError}
    (moved : move old = .error err) :
    change uuid db env orderID context event move = (db, .error err) := by
  simp [change, committed, parsed, refused, Except.mapError, bind, Except.bind, found, moved]

variable (columns : db.tables.orders = true)
include reload columns

theorem change_stays (context : String) (event : OutboxEvent) (moved : move old = .ok none) :
    change uuid db env orderID context event move = (db, .ok (old.scan uuid)) := by
  simp [change, committed, reload, parsed, refused, Except.mapError, bind, Except.bind, found, moved,
    pure, Except.pure, getOrder, queryOrder, columns]

theorem change_moves (context : String) (moved : move old = .ok (some row)) (checked : Checked row)
    (same : row.orderID = id) (event_parsed : uuid.parse event.eventID = .ok eventID)
    (fresh : ∀ r ∈ db.outbox, r.eventID ≠ eventID) :
    change uuid db env orderID context event move = ({ db with
      orders := db.orders.upsert (fun _ new => new) (fun _ _ => rfl) row
      outbox := db.outbox ++ [event.row eventID id] }, .ok (row.scan uuid)) := by
  subst same
  have stored : (db.orders.upsert (fun _ new => new) (fun _ _ => rfl) row).find? row.orderID = some row := by
    rw [Table.find?_upsert, found]
    rfl
  let updated := { db with orders := db.orders.upsert (fun _ new => new) (fun _ _ => rfl) row }
  have written : updated.insertOutbox uuid row.orderID event = .ok { updated with
      outbox := db.outbox ++ [event.row eventID row.orderID] } := insertOutbox_new event_parsed fresh
  simp [change, committed, reload, parsed, refused, Except.mapError, bind, Except.bind, found, moved,
    DB.updateOrder, checked, written, updated, getOrder, queryOrder, stored, columns]

end

/-- A move that is an error, or to a row that the constraints refuse, is an error and changes nothing. -/
theorem change_refused (env : Env) (context : String) (event : OutboxEvent) (move : Move)
    (parsed : uuid.parse orderID = .ok id) (found : db.orders.find? id = some old)
    (refuses : (∃ err, move old = .error err) ∨ ∃ row, move old = .ok (some row) ∧ ¬ Checked row) :
    (change uuid db env orderID context event move).1 = db ∧
      ∃ err, (change uuid db env orderID context event move).2 = .error err := by
  unfold change
  extract_lets run
  obtain ⟨err, stopped⟩ : ∃ err, run = .error err := by
    obtain ⟨err, decided⟩ | ⟨row, decided, unchecked⟩ := refuses
    · simp [run, parsed, Except.mapError, refused, bind, Except.bind, found, decided]
    · obtain ⟨err, updated⟩ := updateOrder_unchecked db unchecked
      simp [run, parsed, Except.mapError, refused, bind, Except.bind, found, decided, updated]
  rw [stopped]
  cases env.outcome with
  | rolledBack err => exact ⟨rfl, _, rfl⟩
  | lost err => exact ⟨rfl, _, rfl⟩
  | committed => exact ⟨rfl, _, rfl⟩

/-- In the tables that the schema makes no order is stored, and none is read. -/
theorem deployed_refuses (deployed : db.tables = .deployed) (env : Env) (order : Order String)
    (event : OutboxEvent) (text : String) :
    ((createOrder uuid db env order event).1 = db ∧ ∃ err, (createOrder uuid db env order event).2 = .error err) ∧
      ∃ err, getOrder uuid db text = .error err := by
  have lacks : ¬ db.tables.orders = true := by
    rw [deployed]
    decide
  refine ⟨?_, _, if_pos lacks⟩
  unfold createOrder
  extract_lets run
  obtain ⟨err, stopped⟩ : ∃ err, run = .error err := ⟨_, by
    simp only [run, DB.insertOrder, if_pos lacks]
    rfl⟩
  rw [stopped]
  cases env.outcome with
  | rolledBack err => exact ⟨rfl, _, rfl⟩
  | lost err => exact ⟨rfl, _, rfl⟩
  | committed => exact ⟨rfl, _, rfl⟩

end

end OrderService.Repository
