import AstraSystem.CartService.Outbox
import AstraSystem.GoCommon.Outbox
import AstraSystem.OrderService.Outbox
import AstraSystem.PaymentOrchestrator.Events

/-!
# Five services and one outbox

Each service runs relays with a resolver of its own over the table that all of them write. A resolver
knows the events of its own service.
-/

namespace Deployment

open Outbox (Act Batch Bus Entry World queryBatch)

inductive Service where
  | cart
  | order
  | inventory
  | menu
  | payment
  deriving DecidableEq, Repr

namespace Service

/-- The events that a service writes. -/
def written : Service → List String
  | cart => ["ItemAddedToCart", "CartFinalized"]
  | order => ["astra.order.created.v1", "astra.order.paid.v1", "astra.order.fulfilled.v1",
      "astra.order.status_changed.v1"]
  | inventory => ["InventoryReserved", "InventoryReleased", "InventoryAdjusted"]
  | menu => ["MenuUpdated", "ItemPriceChanged"]
  | payment => ["PaymentInitiated", "PaymentConfirmed", "PaymentFailed"]

def menuSubject (eventType : String) : String :=
  if eventType = "MenuUpdated" then "astra.menu.updated.v1"
  else if eventType = "ItemPriceChanged" then "astra.menu.item.price_changed.v1"
  else "astra.menu." ++ eventType

def inventorySubject (eventType : String) : String := "astra.inventory." ++ eventType

/-- The resolver that its main gives its relay. -/
def resolve : Service → String → String
  | cart => CartService.Outbox.subjectResolver
  | order => OrderService.resolveSubject
  | inventory => inventorySubject
  | menu => menuSubject
  | payment => PaymentOrchestrator.subject

/-- No event is written by two services. -/
theorem eq_of_written {s t : Service} {eventType : String} (hs : eventType ∈ s.written)
    (ht : eventType ∈ t.written) : s = t := by
  have disjoint : ∀ e ∈ s.written, e ∈ t.written → s = t := by
    cases s <;> cases t <;> decide
  exact disjoint eventType hs ht

/-- The streams take every event under its own subject. -/
theorem takes_resolve {s : Service} {eventType : String} (h : eventType ∈ s.written) :
    EventBus.takes (s.resolve eventType) = true := by
  have all : ∀ e ∈ s.written, EventBus.takes (s.resolve e) = true := by
    cases s <;> decide
  exact all eventType h

end Service

section
variable {P Rid : Type*} (service : Rid → Service)

/-- Any number of relays of each service. -/
def bus : Bus Rid where
  resolve r := (service r).resolve
  takes := EventBus.takes

/-- What was acknowledged went out under its writer's subject, and no relay has stopped at an event of
another service. -/
structure OwnSubjects (w : World P Rid) : Prop where
  subject : ∀ p ∈ w.log, p.acked = true → ∀ s : Service, p.entry.eventType ∈ s.written →
    p.subject = s.resolve p.entry.eventType
  stopped : ∀ x ∈ w.refused, ∀ s : Service, x.2.eventType ∈ s.written → s = service x.1

/-- A relay selects only what its own service has written. -/
def SelectsOwn (w : World P Rid) : Act P Rid → Prop
  | .select r locked ties => w.pending r = [] →
      ∀ e ∈ queryBatch w.rows locked ties, e.eventType ∈ (service r).written
  | .commit _ | .publish .. | .mark .. => True

instance decidableSelectsOwn (w : World P Rid) : DecidablePred (SelectsOwn service w)
  | .select r locked ties =>
    inferInstanceAs (Decidable (w.pending r = [] →
      ∀ e ∈ queryBatch w.rows locked ties, e.eventType ∈ (service r).written))
  | .commit _ | .publish .. | .mark .. => .isTrue trivial

/-- The batches hold events of their own services, and such go out under their subjects. -/
structure Sorted (w : World P Rid) : Prop extends OwnSubjects service w where
  own : ∀ r, ∀ e ∈ w.pending r, e.eventType ∈ (service r).written

end

section
variable {P Rid : Type*} {service : Rid → Service} [DecidableEq Rid] {w : World P Rid} {r : Rid} {b : Batch P}

theorem sorted_goto (h : Sorted service w) (own : ∀ e ∈ b.pending, e.eventType ∈ (service r).written) :
    Sorted service (w.goto r b) where
  subject := h.subject
  stopped := h.stopped
  own r' e he := by
    simp only [World.pending, World.goto] at he
    split at he
    · rename_i same
      exact same ▸ own e he
    · exact h.own r' e he

theorem sorted_fail (h : Sorted service w) (r : Rid) : Sorted service (w.fail r) := by
  have flagged : Sorted service { w with failed := true } := ⟨⟨h.subject, h.stopped⟩, h.own⟩
  exact sorted_goto flagged fun _ none => absurd none List.not_mem_nil

omit [DecidableEq Rid] in
theorem sorted_publication (h : Sorted service w) {e : Entry P} (own : e.eventType ∈ (service r).written)
    (acked : Bool) : Sorted service (w.publication ⟨r, e, (service r).resolve e.eventType, acked⟩) := by
  refine ⟨⟨?_, h.stopped⟩, h.own⟩
  intro p hp told s written
  rcases List.mem_append.mp hp with hp | hp
  · exact h.subject p hp told s written
  · obtain rfl := List.mem_singleton.mp hp
    rw [Service.eq_of_written written own]

theorem sorted_step (h : Sorted service w) {a : Act P Rid} (selects : SelectsOwn service w a) :
    Sorted service (Outbox.step (bus service) w a) := by
  cases a with
  | commit entries => exact ⟨⟨h.subject, h.stopped⟩, h.own⟩
  | select r locked ties =>
    simp only [Outbox.step]
    split
    · rename_i acked idle
      refine sorted_goto h (selects ?_)
      rw [World.pending, idle]
    · exact h
  | publish r o =>
    simp only [Outbox.step]
    split
    · rename_i e rest head
      have pending : w.pending r = e :: rest := by rw [World.pending, head]
      have own := h.own r
      rw [pending] at own
      have taken : (bus service).takes ((bus service).resolve r e.eventType) = true :=
        Service.takes_resolve (own e List.mem_cons_self)
      rw [if_pos taken]
      cases o with
      | ok => exact sorted_goto (sorted_publication h (own e List.mem_cons_self) true) own
      | failed => exact sorted_fail h r
      | lost => exact sorted_fail (sorted_publication h (own e List.mem_cons_self) false) r
    · exact h
  | mark r o now =>
    simp only [Outbox.step]
    split
    · rename_i e rest head
      have own := h.own r
      rw [World.pending, head] at own
      have marked : Sorted service (w.mark e now) := ⟨⟨h.subject, h.stopped⟩, h.own⟩
      cases o with
      | ok => exact sorted_goto marked fun f hf => own f (List.mem_cons_of_mem e hf)
      | failed => exact sorted_fail h r
      | lost => exact sorted_fail marked r
    · exact h

/-- Events go out under their own subjects as long as each service relays its own. -/
theorem own_subjects (service : Rid → Service) {acts : List (Act P Rid)}
    (selects : Runs.EachStep (Outbox.step (bus service)) (SelectsOwn service) {} acts) :
    Runs.Always (Outbox.step (bus service)) (OwnSubjects service) {} acts := by
  have start : Sorted service ({} : World P Rid) := ⟨⟨nofun, nofun⟩, fun _ => nofun⟩
  have kept (w : World P Rid) (a : Act P Rid) (h : Sorted service w) (selects : SelectsOwn service w a) :
      Sorted service (Outbox.step (bus service) w a) := sorted_step h selects
  exact Runs.always_of_eachStep (fun _ h => h.toOwnSubjects) kept start selects

end

/-! ## Two services -/

namespace Pair

/-- One relay of the cart service, and one of the order service. -/
def service : Bool → Service
  | true => .cart
  | false => .order

def finalized : Entry Unit where
  eventID := 7
  aggregateType := "cart"
  aggregateID := 1
  eventType := "CartFinalized"
  payload := ()
  occurredAtMs := 10

theorem own_subjects_of_cart : Runs.Always (Outbox.step (bus service)) (OwnSubjects service) {}
    [.commit [finalized], .select true (fun _ => false) (.none _), .publish true .ok, .mark true .ok 11,
      .select false (fun _ => false) (.none _)] :=
  own_subjects service (by decide)

/-- The relay of the order service stops at an event of the cart service. -/
theorem stopped_at_cart : ¬ ∀ acts : List (Act Unit Bool),
    Runs.Always (Outbox.step (bus service)) (OwnSubjects service) {} acts := by
  intro claim
  have last := Runs.always_last (claim [.commit [finalized], .select false (fun _ => false) (.none _),
    .publish false .ok])
  have stopped := last.stopped (false, finalized) (by decide) .cart (by decide)
  exact absurd stopped (by decide)

end Pair

end Deployment
