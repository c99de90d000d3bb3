import AstraSystem.GoCommon.Events
import AstraSystem.OrderService.Service

/-!
# The events of the order service (`service/service.go`, `cmd/order-service/main.go`)
-/

namespace OrderService

open Events (Any EventEnvelope MessageType)

def resolveSubject (eventType : String) : String :=
  if eventType = "astra.order.created.v1" then "astra.order.created.v1"
  else if eventType = "astra.order.paid.v1" then "astra.order.paid.v1"
  else if eventType = "astra.order.fulfilled.v1" then "astra.order.fulfilled.v1"
  else if eventType = "astra.order.cancelled.v1" then "astra.order.cancelled.v1"
  else eventType

/-- `marshalEnvelope` of an OrderCreated, with the id that it draws and the time. -/
def OutboxEvent.envelope (type : MessageType OrderCreated) (eventID timestamp : String) (e : OutboxEvent) :
    EventEnvelope where
  eventID
  aggregateID := e.aggregateID
  aggregateType := "order"
  sequenceNumber := 1
  timestamp
  payload := some (.new type e.payload)
  metadata := [("event_type", e.eventType)]

/-- Each subject is the event type it is for. -/
theorem resolveSubject_eq (eventType : String) : resolveSubject eventType = eventType := by
  unfold resolveSubject
  split_ifs with created paid fulfilled cancelled
  · exact created.symm
  · exact paid.symm
  · exact fulfilled.symm
  · exact cancelled.symm
  · rfl

end OrderService
