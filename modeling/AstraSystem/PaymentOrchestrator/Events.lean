import AstraSystem.GoCommon.Events
import AstraSystem.PaymentOrchestrator.Repository

/-!
# The events of the payment orchestrator (`events/events.go`)
-/

namespace PaymentOrchestrator

open Events (Any EventEnvelope HLC MessageType)

def subject (eventType : String) : String :=
  if eventType = "PaymentInitiated" then "astra.payment.initiated"
  else if eventType = "PaymentConfirmed" then "astra.payment.confirmed"
  else if eventType = "PaymentFailed" then "astra.payment.failed"
  else "astra.payment.unknown"

/-- The generated types of the payloads, of which the last is a `Struct`, and how a time is printed. -/
structure Types where
  paymentInitiated : MessageType Payload
  paymentConfirmed : MessageType Payload
  paymentFailed : MessageType Payload
  formatTime : Time → String

def Types.any (types : Types) : Payload → Any
  | .initiated paymentID orderID kioskID amountCents currency method =>
    .new types.paymentInitiated (.initiated paymentID orderID kioskID amountCents currency method)
  | .confirmed paymentID orderID status => .new types.paymentConfirmed (.confirmed paymentID orderID status)
  | .failed paymentID orderID kioskID status declineReason =>
    .new types.paymentFailed (.failed paymentID orderID kioskID status declineReason)

/-- `Envelope`: what the payload of an entry is wrapped in. -/
def Entry.envelope (uuid : UUIDText) (types : Types) (hlcMs : Int64) (e : Entry) : EventEnvelope where
  eventID := uuid.string e.eventID
  aggregateID := e.aggregateID
  aggregateType := "payment"
  sequenceNumber := .ofInt e.sequenceNumber
  timestamp := types.formatTime e.timestamp
  payload := some (types.any e.payload)
  metadata := e.metadata
  hlc := some ⟨hlcMs, 0, "payment-orchestrator"⟩

end PaymentOrchestrator
