import AstraSystem.Kiosk.Machine

/-!
# Payments and orders

An approved payment is owed an order. The machine owes it until the actor brings the order, or until it is
told to cancel the payment or to leave the session.
-/

namespace Kiosk.Machine

variable {Item Order : Type}

/-- A payment is approved, and the machine goes on to the order. -/
def Accepts (s : Snapshot Item Order) (i : Input Item Order) (result : PaymentAuthorizationResult) : Prop :=
  s.value = .payment ∧ isApprovedResult result ∧ ∃ cartId, i = .send (.paymentAuthorized result) cartId

def EntersAttract (s : Snapshot Item Order) (i : Input Item Order) : Prop :=
  s.value ≠ .attract ∧ (step s i).value = .attract

/-- The actor that was given the result has its order. -/
def Completes (s : Snapshot Item Order) (i : Input Item Order) (result : PaymentAuthorizationResult) : Prop :=
  (∃ input, s.finalizeOrder = some input ∧ input.paymentResult = some result) ∧
    ∃ order, i = .settle (.ok order) ∧ (step s i).value = .receipt

/-- The ways out of an approved payment: a session is left, or a payment is cancelled or an administrator
comes after the order has failed. -/
def Abandons (s : Snapshot Item Order) (i : Input Item Order) : Prop :=
  ∃ event cartId, i = .send event cartId ∧
    (event = .returnToAttract ∧ (s.value = .processing ∨ s.value = .processingError) ∨
      (event = .cancelPayment ∨ event = .openAdmin) ∧ s.value = .processingError)

/-- The order of a payment is outstanding. -/
structure Owes (result : PaymentAuthorizationResult) (s : Snapshot Item Order) : Prop where
  value : s.value = .processing ∨ s.value = .processingError
  held : s.context.paymentResult = some result
  actor : ∀ input, s.finalizeOrder = some input → input.paymentResult = some result

section
variable {s : Snapshot Item Order} {i : Input Item Order} {result : PaymentAuthorizationResult}

theorem owes_of_accepts (h : Accepts s i result) : Owes result (step s i) := by
  obtain ⟨value, approved, cartId, rfl⟩ := h
  obtain ⟨_, c, a⟩ := s
  obtain rfl : _ = State.payment := value
  have moved : send ⟨.payment, c, a⟩ (.paymentAuthorized result) cartId = ⟨.processing,
      { c with paymentResult := some result }, some ⟨c.sessionId.getD "anonymous", some result, c.cartId⟩⟩ := by
    simp [send, on, Guard.holds, approved, enter, entry, invoke, Action.assign]
  show Owes result (send ⟨.payment, c, a⟩ (.paymentAuthorized result) cartId)
  rw [moved]
  refine ⟨.inl rfl, rfl, fun input same => ?_⟩
  cases same
  rfl

/-- One step goes on owing, brings the order, or takes one of the ways out. -/
theorem Owes.step (h : Owes result s) :
    Owes result (Machine.step s i) ∨ Completes s i result ∨ Abandons s i := by
  cases i with
  | settle reply =>
    cases actor : s.finalizeOrder with
    | none =>
      have same : Machine.step s (.settle reply) = s := by simp only [Machine.step, actor]
      exact .inl (by rw [same]; exact h)
    | some input =>
      have given := h.actor input actor
      have answered : finalizeOrder input reply = reply := by simp only [finalizeOrder, given]
      cases reply with
      | ok order =>
        refine .inr (.inl ⟨⟨input, actor, given⟩, order, rfl, ?_⟩)
        simp only [Machine.step, actor, answered]
      | error thrown =>
        have failed : Machine.step s (.settle (.error thrown)) = ⟨.processingError,
            { s.context with errorMessage := some thrown.message }, none⟩ := by
          simp only [Machine.step, actor, answered]
        rw [failed]
        exact .inl ⟨.inr rfl, h.held, fun input none => by cases none⟩
  | send event cartId =>
    obtain same | moves := send_cases s event cartId
    · have same : Machine.step s (.send event cartId) = s := same
      exact .inl (by rw [same]; exact h)
    · show Owes result (send s event cartId) ∨ _
      have value := h.value
      generalize send s event cartId = next at moves
      cases moves with
      | offline | online => exact .inl ⟨h.value, h.held, h.actor⟩
      | retry c a =>
        refine .inl ⟨.inl rfl, h.held, fun input same => ?_⟩
        cases same
        exact h.held
      | cancel => exact .inr (.inr ⟨_, cartId, rfl, .inr ⟨.inl rfl, rfl⟩⟩)
      | leave owing c a event left asked =>
        obtain rfl | rfl : owing = .processing ∨ owing = .processingError := value <;>
          obtain rfl | none | none := asked
        · exact .inr (.inr ⟨_, cartId, rfl, .inl ⟨rfl, .inl rfl⟩⟩)
        · cases none
        · cases none
        · exact .inr (.inr ⟨_, cartId, rfl, .inl ⟨rfl, .inr rfl⟩⟩)
        · cases none
        · cases none
      | admin owing c a left =>
        obtain rfl | rfl : owing = .processing ∨ owing = .processingError := value
        · exact absurd left (by decide)
        · exact .inr (.inr ⟨_, cartId, rfl, .inr ⟨.inr rfl, rfl⟩⟩)
      | _ => obtain none | none := value <;> cases none

/-- What ends an outstanding order is one of the two. -/
theorem Owes.ends (h : Owes result s) (ends : (∃ other, Accepts s i other) ∨ EntersAttract s i) :
    Abandons s i := by
  obtain ⟨other, value, -⟩ | ⟨-, attract⟩ := ends
  · obtain owing | owing := h.value <;> cases value.symm.trans owing
  · obtain owes | ⟨-, -, -, receipt⟩ | abandons := h.step (i := i)
    · obtain owing | owing := owes.value <;> cases attract.symm.trans owing
    · cases attract.symm.trans receipt
    · exact abandons

end

theorem owes_run {result : PaymentAuthorizationResult} {s : Snapshot Item Order} (owes : Owes result s)
    {inputs : List (Input Item Order)} (kept : Runs.EachStep step (fun s i => Owes result (step s i)) s inputs) :
    Owes result (Runs.run step s inputs) := by
  have always : Runs.Always step (Owes result) s inputs :=
    Runs.always_of_eachStep (J := Owes result) (fun _ h => h) (fun _ _ _ h => h) owes kept
  exact Runs.always_last always

/-- Between the acceptance of a payment and the step after `middle` its order has come. -/
def Ordered (accepted : Snapshot Item Order) (middle : List (Input Item Order))
    (result : PaymentAuthorizationResult) : Prop :=
  ∃ before i after, middle = before ++ i :: after ∧ Completes (Runs.run step accepted before) i result

/-- In between the payment was abandoned. -/
def Abandoned (accepted : Snapshot Item Order) (steps : List (Input Item Order)) : Prop :=
  ∃ before i after, steps = before ++ i :: after ∧ Abandons (Runs.run step accepted before) i

/-- **An approved payment has an order, or one of the ways out was taken.** In every run, between an accepted
`PAYMENT_AUTHORIZED` and any later one, or any later entry to `ATTRACT`, the actor has brought the order
for that result, or the payment was cancelled or the session was left in `PROCESSING` or
`PROCESSING_ERROR`. -/
theorem ordered_or_abandoned (cartId : String) (earlier middle : List (Input Item Order)) {i j : Input Item Order}
    {result : PaymentAuthorizationResult} (accepts : Accepts (Runs.run step (initial cartId) earlier) i result)
    (ends : (∃ other, Accepts (Runs.run step (initial cartId) (earlier ++ i :: middle)) j other) ∨
      EntersAttract (Runs.run step (initial cartId) (earlier ++ i :: middle)) j) :
    Ordered (Runs.run step (initial cartId) (earlier ++ [i])) middle result ∨
      Abandoned (Runs.run step (initial cartId) (earlier ++ [i])) (middle ++ [j]) := by
  have owes := owes_of_accepts accepts
  rw [Runs.run_append, Runs.run_cons] at ends
  rw [Runs.run_concat]
  generalize step (Runs.run step (initial cartId) earlier) i = accepted at owes ends ⊢
  by_cases kept : Runs.EachStep step (fun s k => Owes result (step s k)) accepted middle
  · exact .inr ⟨middle, j, [], rfl, (owes_run owes kept).ends ends⟩
  · obtain ⟨before, k, after, rfl, still, lost⟩ := Runs.exists_first kept
    obtain kept | completes | abandons := (owes_run owes still).step (i := k)
    · exact absurd kept lost
    · exact .inl ⟨before, k, after, rfl, completes⟩
    · exact .inr ⟨before, k, after ++ [j], by simp, abandons⟩

namespace Lunch

/-- A card payment of 8.99. -/
def visa : PaymentAuthorizationResult :=
  { authorizationId := "auth-1", status := .authorized, method := "credit_debit", amountCents := 899 }

def cash : PaymentAuthorizationResult :=
  { authorizationId := "auth-2", status := .captured, method := "cash_recycler", amountCents := 899 }

def sent (event : KioskEvent String String) : Input String String := .send event "cart-1"

/-- A customer has filled a cart and goes on to pay. -/
def toPayment : List (Input String String) :=
  [sent (.setLanguage .en), sent (.startSession "session-1" none), sent (.cartUpdated true), sent .goToCart,
    sent .proceedToPayment]

/-- The order fails, and the customer cancels and pays again. -/
def cancelled : List (Input String String) :=
  [.settle (.error (.error "network down")), sent .cancelPayment, sent .proceedToPayment]

theorem paid_twice : ¬ ∀ (earlier middle : List (Input String String)) (i j : Input String String)
    (result : PaymentAuthorizationResult), Accepts (Runs.run step (initial "cart-1") earlier) i result →
      (∃ other, Accepts (Runs.run step (initial "cart-1") (earlier ++ i :: middle)) j other) →
        Ordered (Runs.run step (initial "cart-1") (earlier ++ [i])) middle result := by
  intro claim
  have ordered := claim toPayment cancelled (sent (.paymentAuthorized visa)) (sent (.paymentAuthorized cash)) visa
    ⟨by decide, by decide, "cart-1", rfl⟩ ⟨cash, by decide, by decide, "cart-1", rfl⟩
  obtain ⟨before, i, after, split, -, order, rfl, -⟩ := ordered
  have mem : Input.settle (.ok order) ∈ cancelled := split ▸ List.mem_append_right _ List.mem_cons_self
  simp [cancelled, sent] at mem

theorem lunch_abandoned :
    Abandoned (Runs.run step (initial "cart-1") (toPayment ++ [sent (.paymentAuthorized visa)]))
      (cancelled ++ [sent (.paymentAuthorized cash)]) := by
  obtain ⟨before, i, after, split, -, order, rfl, -⟩ | abandoned := ordered_or_abandoned "cart-1" toPayment cancelled
    (i := sent (.paymentAuthorized visa)) (j := sent (.paymentAuthorized cash))
    ⟨by decide, by decide, "cart-1", rfl⟩ (.inl ⟨cash, by decide, by decide, "cart-1", rfl⟩)
  · have mem : Input.settle (.ok order) ∈ cancelled := split ▸ List.mem_append_right _ List.mem_cons_self
    simp [cancelled, sent] at mem
  · exact abandoned

end Lunch

end Kiosk.Machine
