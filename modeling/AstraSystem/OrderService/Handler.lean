import AstraSystem.GoCommon.EventBus
import AstraSystem.GoCommon.Events
import AstraSystem.OrderService.Service

/-!
# The consumers of the order service (`handler/handler.go`)
-/

namespace OrderService

open Json (field? readInt64 readString)

/-- A consumer: its stream and the subject it filters for. -/
structure Consumer where
  streamName : String
  filterSubject : String

def Consumer.gets (c : Consumer) (subject : String) : Bool :=
  EventBus.delivers c.streamName c.filterSubject subject

def cartConsumer : Consumer := ⟨"ASTRA_CART", "astra.cart.finalized.v1"⟩

def paymentConsumer : Consumer := ⟨"ASTRA_PAYMENT", "astra.payment.confirmed.v1"⟩

/-- `json.Unmarshal` of the fields of an object into a zero value. -/
def unmarshalObject {A : Type} (read : Json.Fields → Except String A) : Json → Except String A
  | .object fields => read fields
  | .null => read []
  | _ => .error "json: cannot unmarshal into Go value of struct type"

def CartFinalized.unmarshal : Json → Except String CartFinalized := unmarshalObject fun fields => do
  let cartID ← readString "CartFinalized.cart_id" (field? fields "cart_id")
  let orderID ← readString "CartFinalized.order_id" (field? fields "order_id")
  let finalTotalCents ← readInt64 "CartFinalized.final_total_cents" (field? fields "final_total_cents")
  let currency ← readString "CartFinalized.currency" (field? fields "currency")
  pure { cartID, orderID, currency, finalTotalCents }

structure PaymentConfirmed where
  paymentID : String
  orderID : String
  status : String
  authCode : String
  deriving DecidableEq, Repr

def PaymentConfirmed.unmarshal : Json → Except String PaymentConfirmed := unmarshalObject fun fields => do
  let paymentID ← readString "PaymentConfirmed.payment_id" (field? fields "payment_id")
  let orderID ← readString "PaymentConfirmed.order_id" (field? fields "order_id")
  let status ← readString "PaymentConfirmed.status" (field? fields "status")
  let authCode ← readString "PaymentConfirmed.auth_code" (field? fields "auth_code")
  pure { paymentID, orderID, status, authCode }

/-! ## Envelopes -/

/-- An envelope is read as an event without any data. -/
theorem unmarshal_envelope (e : Events.EventEnvelope) :
    CartFinalized.unmarshal e.json = .ok ⟨"", "", "", 0⟩ := by
  have absent {name : String} (other : name ∉ Events.EventEnvelope.names) :=
    Events.EventEnvelope.field?_fields (e := e) other
  show CartFinalized.unmarshal (.object e.fields) = _
  simp only [CartFinalized.unmarshal, unmarshalObject]
  rw [absent (by decide), absent (by decide), absent (by decide), absent (by decide)]
  rfl

theorem unmarshal_payment_envelope (e : Events.EventEnvelope) :
    PaymentConfirmed.unmarshal e.json = .ok ⟨"", "", "", ""⟩ := by
  have absent {name : String} (other : name ∉ Events.EventEnvelope.names) :=
    Events.EventEnvelope.field?_fields (e := e) other
  show PaymentConfirmed.unmarshal (.object e.fields) = _
  simp only [PaymentConfirmed.unmarshal, unmarshalObject]
  rw [absent (by decide), absent (by decide), absent (by decide), absent (by decide)]
  rfl

end OrderService
