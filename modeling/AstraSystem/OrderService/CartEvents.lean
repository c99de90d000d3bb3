import AstraSystem.CartService.Outbox
import AstraSystem.OrderService.Handler

/-!
# Finalized carts on their way to the order service

The cart service wraps its events in envelopes, and the handler looks for an event where the envelope
is: it finds every field empty.
-/

namespace OrderService

open CartService.Outbox (newCartFinalized subjectResolver)

/-- The consumer gets the entry's message, and its handler reads what the entry was built from. -/
def Reaches (types : CartService.Outbox.Types) (envelopeID timestamp : String) (eventID : String)
    (c : CartService.Cart) (orderID currency : String) : Prop :=
  let entry := newCartFinalized eventID c orderID currency
  cartConsumer.gets (subjectResolver entry.eventType) = true ∧
    ∃ evt, CartFinalized.unmarshal (CartService.Outbox.envelope types envelopeID timestamp entry).json =
        .ok evt ∧
      evt = { cartID := c.cartID, orderID, currency, finalTotalCents := c.finalTotalCents }

/-- The subject matches, and an entry is read as it was built if it was built from nothing. -/
theorem reaches_iff (types : CartService.Outbox.Types) (envelopeID timestamp eventID : String)
    (c : CartService.Cart) (orderID currency : String) :
    Reaches types envelopeID timestamp eventID c orderID currency ↔
      c.cartID = "" ∧ orderID = "" ∧ currency = "" ∧ c.finalTotalCents = 0 := by
  have subject : cartConsumer.gets (subjectResolver "CartFinalized") = true := by decide
  constructor
  · rintro ⟨-, evt, read, rfl⟩
    rw [unmarshal_envelope] at read
    injection read with read
    injection read with cart order cur total
    exact ⟨cart.symm, order.symm, cur.symm, total.symm⟩
  · rintro ⟨cart, rfl, rfl, total⟩
    exact ⟨subject, _, unmarshal_envelope _, by rw [cart, total]⟩

namespace Checkout

/-- A cart that is finalized at 10.80. -/
def cart : CartService.Cart :=
  { CartService.newCart "00000000-0000-0000-0000-000000000001" "store" "kiosk" "kiosk" "session" "" 0 with
    finalTotalCents := 1080 }

/-- Whatever the generated types are. -/
theorem cart_not_reached : ¬ ∃ types, Reaches types "00000000-0000-0000-0000-000000000007"
    "2026-07-20T12:34:56Z" "00000000-0000-0000-0000-000000000008" cart
    "00000000-0000-0000-0000-000000000004" "USD" := by
  rintro ⟨types, -, evt, read, rfl⟩
  rw [unmarshal_envelope] at read
  exact absurd (congrArg CartFinalized.cartID (Except.ok.inj read)) (by decide)

end Checkout

end OrderService
