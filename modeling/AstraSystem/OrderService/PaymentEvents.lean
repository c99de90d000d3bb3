import AstraSystem.OrderService.Handler
import AstraSystem.OrderService.Lifecycle
import AstraSystem.PaymentOrchestrator.Events
import AstraSystem.PaymentOrchestrator.MoneyMoves

/-!
# Confirmed payments on their way to the order service

The payment orchestrator publishes under a subject that the consumer does not filter for, wraps the event in
an envelope that the handler does not look into, and writes statuses in capitals.
-/

namespace OrderService.Repository

open Lifecycle (event)
open PaymentOrchestrator (Entry Payment)

variable (uuid : UUIDText)

/-! ## The handler -/

/-- The statuses for which an order is paid. -/
def confirms (status : String) : Bool := status = "authorized" ∨ status = "captured"

/-- `HandlePaymentConfirmed` of the service. -/
def handlePaymentConfirmed (db : DB) (env : Env) (eventID : UUID) (evt : PaymentConfirmed) :
    DB × Except String Unit :=
  if evt.orderID = "" then (db, .error "order_id is required")
  else if ¬ confirms evt.status then (db, .ok ())
  else
    let paid := event uuid eventID "astra.order.paid.v1" env.now
      [("auth_code", .string evt.authCode), ("order_id", .string evt.orderID),
        ("paid_at", .string env.now.format), ("payment_id", .string evt.paymentID),
        ("timestamp", .string env.now.format)]
    match markPaid uuid db env evt.orderID env.now paid with
    | (db, .ok _) => (db, .ok ())
    | (db, .error .orderNotFound) => (db, .ok ())
    | (db, .error err) => (db, .error ("mark paid: " ++ err.message))

/-- A message is handled, or it is delivered again. -/
def handle (db : DB) (env : Env) (eventID : UUID) (data : Json) : DB × Except String Unit :=
  match PaymentConfirmed.unmarshal data with
  | .error err => (db, .error ("handler: unmarshal PaymentConfirmed: " ++ err))
  | .ok evt =>
    match handlePaymentConfirmed uuid db env eventID evt with
    | (db, .ok ()) => (db, .ok ())
    | (db, .error err) => (db, .error ("handler: handle PaymentConfirmed: " ++ err))

/-- A delivery of a message, with the id of the event that it draws. -/
def deliver (data : Json) (db : DB) (delivery : Env × UUID) : DB :=
  (handle uuid db delivery.1 delivery.2 data).1

/-! ## Payments -/

/-- The consumer gets the entry's message, its handler reads the payment it was written for and takes its
status, and of any deliveries the first moves a pending order to paid and the others change nothing. -/
def MarksPaid (types : PaymentOrchestrator.Types) (hlcMs : Int64) (e : Entry) (p : Payment) : Prop :=
  let data := (e.envelope uuid types hlcMs).json
  paymentConsumer.gets (PaymentOrchestrator.subject e.eventType) = true ∧
    (∃ evt, PaymentConfirmed.unmarshal data = .ok evt ∧ evt.orderID = uuid.string p.orderID ∧
      evt.paymentID = uuid.string p.paymentID ∧ evt.status = "CAPTURED" ∧ confirms evt.status = true) ∧
    ∀ db order, db.orders.find? p.orderID = some order → order.status = "pending" →
      ∀ first rest, (∀ delivery ∈ first :: rest, delivery.1.outcome = .committed) →
        (∃ o, (deliver uuid data db first).orders.find? p.orderID = some o ∧ o.status = "paid") ∧
          Runs.run (deliver uuid data) db (first :: rest) = deliver uuid data db first

variable {uuid}

/-- The entry that a capture writes does not mark its order paid, whatever the history of the payment. -/
theorem captured_never_paid {db : PaymentOrchestrator.DB} {env : PaymentOrchestrator.Env} {id : UUID}
    {p : Payment} (found : db.payments.find? id = some p) (commits : env.outcome.applies = true)
    (verifoneToken declineReason : String) : ∃ e,
      PaymentOrchestrator.statusEnvelope uuid p .captured declineReason = .ok e.payload ∧
      (PaymentOrchestrator.updateStatus uuid db env id p.status .captured verifoneToken declineReason).1 =
        (db.setStatus id .captured verifoneToken declineReason env.now).insertOutbox e ∧
      ∀ types hlcMs, ¬ MarksPaid uuid types hlcMs e p := by
  obtain rfl : p.paymentID = id := (Table.find?_eq_some.mp found).2
  refine ⟨PaymentOrchestrator.statusEntry uuid env p _, rfl,
    PaymentOrchestrator.updateStatus_applies found rfl commits, ?_⟩
  rintro types hlcMs ⟨subject, -⟩
  have other : paymentConsumer.gets (PaymentOrchestrator.subject "PaymentConfirmed") = false := by decide
  exact absurd (other.symm.trans subject) (by decide)

namespace Till

open PaymentOrchestrator.Till (authorized env sale till)

/-- The capture of a sale of 10.00. -/
theorem sale_never_paid : ∃ e,
    PaymentOrchestrator.statusEnvelope till sale .captured "" = .ok e.payload ∧
    (PaymentOrchestrator.updateStatus till authorized (env 11) 1 sale.status .captured "tok-1" "").1 =
      (authorized.setStatus 1 .captured "tok-1" "" (env 11).now).insertOutbox e ∧
    ∀ types hlcMs, ¬ MarksPaid till types hlcMs e sale :=
  captured_never_paid (by decide +kernel) rfl "tok-1" ""

/-- The entry of that capture, whatever the generated types are. -/
theorem capture_missed : ¬ ∃ types hlcMs, MarksPaid till types hlcMs
    (PaymentOrchestrator.statusEntry till (env 11) sale (.confirmed (till.string 1) (till.string 2) "CAPTURED"))
    sale := by
  rintro ⟨types, hlcMs, subject, -⟩
  have other : paymentConsumer.gets (PaymentOrchestrator.subject "PaymentConfirmed") = false := by decide
  exact absurd (other.symm.trans subject) (by decide)

end Till

end OrderService.Repository
