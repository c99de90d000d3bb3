import AstraSystem.CartService.Service
import AstraSystem.GoCommon.EventBus
import AstraSystem.GoCommon.Events

/-!
# The events of the cart service (`outbox/events.go`)
-/

namespace CartService

open Events (Any EventEnvelope MessageType)

namespace Outbox

def newItemAddedToCart (eventID : String) (c : Cart) (line : Line) : Entry where
  eventID
  aggregateType := "cart"
  aggregateID := c.cartID
  eventType := "ItemAddedToCart"
  payload := .itemAddedToCart c.cartID line.menuItemID line.nameSnapshot line.quantity.toInt32
    line.unitPriceCentsSnapshot
  occurredAtMs := c.updatedAtMs

def newCartFinalized (eventID : String) (c : Cart) (orderID currency : String) : Entry where
  eventID
  aggregateType := "cart"
  aggregateID := c.cartID
  eventType := "CartFinalized"
  payload := .cartFinalized c.cartID orderID c.finalTotalCents currency
  occurredAtMs := c.updatedAtMs

def subjectResolver (eventType : String) : String :=
  if eventType = "ItemAddedToCart" then "astra.cart.item_added.v1"
  else if eventType = "CartFinalized" then "astra.cart.finalized.v1"
  else "astra.cart.unknown.v1"

/-- The generated types of the payloads. -/
structure Types where
  itemAddedToCart : MessageType Payload
  cartFinalized : MessageType Payload

def Types.any (types : Types) : Payload → Any
  | .itemAddedToCart cartID itemID nameSnapshot quantity price =>
    .new types.itemAddedToCart (.itemAddedToCart cartID itemID nameSnapshot quantity price)
  | .cartFinalized cartID orderID total currency =>
    .new types.cartFinalized (.cartFinalized cartID orderID total currency)

/-- `marshalPayload`, with the id that it draws and the time. -/
def envelope (types : Types) (eventID timestamp : String) (e : Entry) : EventEnvelope where
  eventID
  aggregateID := ""
  aggregateType := "cart"
  sequenceNumber := 1
  timestamp
  payload := some (types.any e.payload)
  metadata := [("event_type", e.eventType)]

end Outbox

/-- The service finalizes a cart with an order id of its own. -/
theorem Service.newCartFinalized_eq (svc : Service) (env : Env) (c : Cart) :
    svc.newCartFinalized env c = Outbox.newCartFinalized (svc.uuid.string env.eventID) c
      (svc.uuid.string env.orderID) svc.currency := rfl

theorem Service.newItemAddedToCart_eq (svc : Service) (env : Env) (c : Cart) (line : Line) :
    svc.newItemAddedToCart env c line = Outbox.newItemAddedToCart (svc.uuid.string env.eventID) c line :=
  rfl

end CartService
