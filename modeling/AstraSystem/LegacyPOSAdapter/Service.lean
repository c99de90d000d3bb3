import AstraSystem.GoCommon.EventBus
import AstraSystem.Lib.Runs
import AstraSystem.OrderService.Handler
import AstraSystem.OrderService.OneOrder
import AstraSystem.OrderService.Outbox

/-!
# The legacy POS adapter (`handler/handler.go`, `service/service.go`, `client/client.go`)

Order events are forwarded to a point of sale outside. A message that the handler fails on is
delivered again.
-/

namespace LegacyPOSAdapter

open Events (EventEnvelope MessageType Registry)
open OrderService (OrderCreated)

/-! ## Requests -/

structure OrderItem where
  itemID : String
  nameSnapshot : String
  priceCentsSnapshot : Int64
  quantity : Int32
  lineTotalCents : Int64
  deriving DecidableEq, Repr

/-- `orderv1.Order`, as far as the adapter reads it. -/
structure Order where
  orderID : String
  cartID : String
  storeID : String
  kioskID : String
  totalCents : Int64
  items : List OrderItem := []
  deriving DecidableEq, Repr

structure POSItem where
  itemID : String
  name : String
  quantity : Int32
  unitPrice : Int64
  lineTotal : Int64
  deriving DecidableEq, Repr

structure LegacyPOSRequest where
  orderID : String
  cartID : String
  storeID : String
  kioskID : String
  total : Int64
  currency : String
  items : List POSItem
  timestamp : String
  metadata : List (String × String)
  deriving DecidableEq, Repr

structure LegacyPOSResponse where
  statusCode : ℤ
  body : List UInt8
  posOrderID : String
  accepted : Bool
  error : String
  deriving DecidableEq, Repr

structure Submission where
  submissionID : String
  orderID : String
  cartID : String
  storeID : String
  kioskID : String
  legacyPOSURL : String
  request : Option LegacyPOSRequest
  responseBody : List UInt8
  statusCode : ℤ
  error : String
  sentAt : String
  deriving DecidableEq, Repr

def buildPOSRequest (now : String) (order : Order) : LegacyPOSRequest where
  orderID := order.orderID
  cartID := order.cartID
  storeID := order.storeID
  kioskID := order.kioskID
  total := order.totalCents
  currency := "USD"
  items := order.items.map fun item =>
    ⟨item.itemID, item.nameSnapshot, item.quantity, item.priceCentsSnapshot, item.lineTotalCents⟩
  timestamp := now
  metadata := [("source", "astra-legacy-pos-adapter")]

/-! ## Calls -/

/-- What a call draws, and what the network does to it. -/
structure Env where
  now : String
  sentAt : String
  submissionID : String
  submit : Except String LegacyPOSResponse
  /-- The point of sale has taken the order, whatever came back. -/
  taken : Bool
  save : Option String

structure World where
  submissions : List Submission := []
  /-- The requests that were sent, and whether the point of sale took them. -/
  sent : List (LegacyPOSRequest × Bool) := []

structure AdapterService where
  legacyURL : String
  enabled : Bool

def saveSubmission (w : World) (env : Env) (what : String) (s : Submission) :
    World × Except String Submission :=
  match env.save with
  | some err => (w, .error ("service: " ++ what ++ ": " ++ err))
  | none => ({ w with submissions := w.submissions ++ [s] }, .ok s)

def recordSkipped (w : World) (env : Env) (order : Order) : World × Except String Submission :=
  saveSubmission w env "save skipped submission" {
    submissionID := env.submissionID
    orderID := order.orderID
    cartID := order.cartID
    storeID := order.storeID
    kioskID := order.kioskID
    legacyPOSURL := ""
    request := none
    responseBody := []
    statusCode := 0
    error := "legacy pos integration disabled"
    sentAt := env.sentAt }

/-- The error of a reply that does not accept. -/
def LegacyPOSResponse.rejection (r : LegacyPOSResponse) : String :=
  if r.accepted then ""
  else if r.error ≠ "" then r.error
  else "legacy pos rejected order: " ++ Decimal.format r.statusCode

namespace AdapterService

variable (svc : AdapterService)

def handleOrderCreated (w : World) (env : Env) (order : Order) : World × Except String Submission :=
  if order.orderID = "" then (w, .error "order_id is required")
  else if ¬ svc.enabled then recordSkipped w env order
  else
    let req := buildPOSRequest env.now order
    let submission : Submission := {
      submissionID := env.submissionID
      orderID := order.orderID
      cartID := order.cartID
      storeID := order.storeID
      kioskID := order.kioskID
      legacyPOSURL := svc.legacyURL
      request := some req
      responseBody := env.submit.toOption.elim [] (·.body)
      statusCode := env.submit.toOption.elim 0 (·.statusCode)
      error := match env.submit with
        | .error err => err
        | .ok r => r.rejection
      sentAt := env.sentAt }
    saveSubmission { w with sent := w.sent ++ [(req, env.taken)] } env "save submission" submission

end AdapterService

/-! ## Messages -/

def orderConsumer : OrderService.Consumer := ⟨"ASTRA_ORDER", "astra.order.created.v1"⟩

/-- The order of a message. -/
def decode (types : Registry) (type : MessageType OrderCreated) (data : Json) : Except String Order :=
  match EventEnvelope.protojson types data with
  | .error err => .error ("handler: unmarshal envelope: " ++ err)
  | .ok envelope =>
    match Events.unmarshalTo type envelope.payload with
    | .error err => .error ("handler: unmarshal OrderCreated payload: " ++ err)
    | .ok order => .ok {
        orderID := order.orderID
        cartID := order.cartID
        storeID := order.storeID
        kioskID := order.kioskID
        totalCents := order.totalCents }

/-- `HandleOrderCreated`. -/
def handle (svc : AdapterService) (types : Registry) (type : MessageType OrderCreated) (data : Json)
    (w : World) (env : Env) : World × Except String Unit :=
  match decode types type data with
  | .error err => (w, .error err)
  | .ok order =>
    match svc.handleOrderCreated w env order with
    | (w, .ok _) => (w, .ok ())
    | (w, .error err) => (w, .error ("handler: process order: " ++ err))

/-- A delivery of a message. -/
def deliver (svc : AdapterService) (types : Registry) (type : MessageType OrderCreated) (data : Json)
    (w : World) (env : Env) : World := (handle svc types type data w env).1

/-! ## Orders on their way to the point of sale -/

/-- The request carries the order, and an item for each of its items. -/
def Carries (order : OrderService.Order String) (req : LegacyPOSRequest) : Prop :=
  req.orderID = order.orderID ∧ req.cartID = order.cartID ∧ req.storeID = order.storeID ∧
    req.kioskID = order.kioskID ∧ req.total = order.totalCents ∧
    req.items.map (fun i => (i.quantity, i.unitPrice, i.lineTotal)) =
      order.items.map fun i => (i.quantity, i.priceCentsSnapshot, i.lineTotalCents)

/-- An order that is delivered any number of times is read, carried as a whole, and not sent again once
it was taken. -/
def Reaches (svc : AdapterService) (types : Registry) (type : MessageType OrderCreated)
    (eventID timestamp : String) (env : OrderService.Env) (order : OrderService.Order String) : Prop :=
  let event := OrderService.orderCreated env order
  let data := (event.envelope type eventID timestamp).json
  orderConsumer.gets (OrderService.resolveSubject event.eventType) = true ∧
    ∀ deliveries : List Env, deliveries ≠ [] →
      (∃ o, decode types type data = .ok o) ∧
      ∀ before req taken after,
        (Runs.run (deliver svc types type data) {} deliveries).sent = before ++ (req, taken) :: after →
          Carries order req ∧ (taken = true → ∀ x ∈ after, x.1.orderID ≠ order.orderID)

variable {types : Registry} {type : MessageType OrderCreated}

/-- What the order service writes is refused before the payload is looked at. -/
theorem decode_envelope (types : Registry) (type : MessageType OrderCreated) (eventID timestamp : String)
    (e : OrderService.OutboxEvent) : decode types type (e.envelope type eventID timestamp).json =
      .error "handler: unmarshal envelope: proto: missing \"@type\" field" := by
  have payload : (e.envelope type eventID timestamp).payload = some (.new type e.payload) := rfl
  rw [decode, EventEnvelope.protojson_json types payload (Events.Any.typeURL_new_ne type e.payload)]
  rfl

/-- No order reaches the point of sale. -/
theorem never_reached (svc : AdapterService) (types : Registry) (type : MessageType OrderCreated)
    (eventID timestamp : String) (env : OrderService.Env) (order : OrderService.Order String) :
    ¬ Reaches svc types type eventID timestamp env order := by
  rintro ⟨-, delivered⟩
  obtain ⟨⟨o, read⟩, -⟩ := delivered [⟨"", "", "", .error "", false, none⟩] (List.cons_ne_nil _ _)
  rw [decode_envelope] at read
  cases read

namespace Lunch

/-- An order of one coffee. -/
def order : OrderService.Order String where
  orderID := "00000000-0000-0000-0000-000000000004"
  storeID := "00000000-0000-0000-0000-000000000002"
  kioskID := "00000000-0000-0000-0000-000000000003"
  cartID := "00000000-0000-0000-0000-000000000001"
  orderNumber := "A-001-0428"
  status := .pending
  subtotalCents := 1000
  taxCents := 80
  discountCents := 0
  totalCents := 1080
  currency := "USD"
  items := [{
    orderItemID := "00000000-0000-0000-0000-000000000006"
    itemID := "00000000-0000-0000-0000-000000000005"
    nameSnapshot := "coffee"
    priceCentsSnapshot := 500
    quantity := 2
    modifierOptionIDs := []
    lineTotalCents := 1000
    createdAt := OrderService.Counter.env.now }]
  createdAt := OrderService.Counter.env.now
  updatedAt := OrderService.Counter.env.now

/-- Whatever the generated types are. -/
theorem order_not_reached : ¬ ∃ types type, Reaches ⟨"http://pos", true⟩ types type
    "00000000-0000-0000-0000-000000000007" "2026-07-20T12:34:56Z" OrderService.Counter.env order := by
  rintro ⟨types, type, -, delivered⟩
  obtain ⟨⟨o, read⟩, -⟩ := delivered [⟨"", "", "", .error "", false, none⟩] (List.cons_ne_nil _ _)
  rw [decode_envelope] at read
  cases read

end Lunch

end LegacyPOSAdapter
