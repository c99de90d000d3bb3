import AstraSystem.Kiosk.Machine

/-!
# What a session carries, and what it leaves behind

Each state needs some of the context. A cart has no payment as long as none is cancelled after its order has
failed, and back at the attract screen nothing is left of the customer.
-/

namespace Kiosk.Machine

variable {Item Order : Type}

/-! ## The invariant -/

def inSession : List State := [.menu, .itemDetail, .cart, .payment, .processing, .processingError, .receipt]

/-- What the states carry. -/
structure Carries (s : Snapshot Item Order) : Prop where
  payment : s.value = .processing ∨ s.value = .processingError →
    ∃ result, s.context.paymentResult = some result ∧ isApprovedResult result
  order : s.value = .receipt → s.context.order.isSome
  item : s.value = .itemDetail → s.context.selectedItem.isSome
  session : s.value ∈ inSession → s.context.sessionId.isSome
  cart : s.value = .cart → s.context.paymentResult = none

/-- A payment is cancelled after its order has failed. -/
def CancelsPaid (s : Snapshot Item Order) (i : Input Item Order) : Prop :=
  s.value = .processingError ∧ ∃ cartId, i = .send .cancelPayment cartId

/-- The context of a machine that has served nobody. -/
def KioskContext.fresh (c : KioskContext Item Order) : KioskContext Item Order := { c with
  sessionId := none, laneMode := .full, selectedItem := none, cartHasItems := false, returnTo := none
  paymentResult := none, order := none, errorMessage := none }

/-- What a state has in any run. -/
def Needs : State → KioskContext Item Order → Prop
  | .languageSelect, c | .attract, c => c = c.fresh
  | .menu, c | .cart, c | .payment, c => c.sessionId.isSome
  | .itemDetail, c => c.sessionId.isSome ∧ c.selectedItem.isSome
  | .processing, c | .processingError, c =>
    c.sessionId.isSome ∧ ∃ result, c.paymentResult = some result ∧ isApprovedResult result
  | .receipt, c => c.sessionId.isSome ∧ c.order.isSome
  | .admin, _ => True

/-- Before `PROCESSING` nothing has been paid. -/
def Unpaid : State → KioskContext Item Order → Prop
  | .menu, c | .itemDetail, c | .cart, c | .payment, c => c.paymentResult = none
  | _, _ => True

structure Sound (s : Snapshot Item Order) : Prop where
  needs : Needs s.value s.context
  actor : s.finalizeOrder.isSome → s.value = .processing

section
variable {s next : Snapshot Item Order} {event : KioskEvent Item Order} {cartId : String}

theorem sound_initial (cartId : String) : Sound (initial cartId : Snapshot Item Order) :=
  ⟨rfl, fun h => by cases h⟩

theorem Needs.session {value : State} {c : KioskContext Item Order} (h : Needs value c)
    (session : value ∈ inSession) : c.sessionId.isSome := by
  cases value with
  | menu | cart | payment => exact h
  | itemDetail | processing | processingError | receipt => exact h.1
  | languageSelect | attract | admin => exact absurd session (by decide)

theorem needs_network {value : State} {c : KioskContext Item Order} (h : Needs value c) (apiStatus : ApiStatus)
    (isOfflineMode : Bool) : Needs value { c with apiStatus, isOfflineMode } := by
  cases value with
  | languageSelect | attract =>
    show { c with apiStatus, isOfflineMode } = { c.fresh with apiStatus, isOfflineMode }
    exact congrArg (fun c : KioskContext Item Order => { c with apiStatus, isOfflineMode }) h
  | _ => exact h

theorem needs_moves (h : Needs s.value s.context) (moves : Moves cartId s event next) :
    Needs next.value next.context := by
  cases moves with
  | offline | online => exact needs_network h _ _
  | language c a locale =>
    show { c with locale } = { c.fresh with locale }
    exact congrArg (fun c : KioskContext Item Order => { c with locale }) h
  | start => exact rfl
  | select => exact ⟨h, rfl⟩
  | updated | toCart | back | proceed | unpaid => exact h
  | close | add | cancel => exact h.1
  | authorized c a result approved => exact ⟨h, result, rfl, approved⟩
  | retry => exact h
  | leave => exact rfl
  | admin => trivial

theorem actor_moves (h : s.finalizeOrder.isSome → s.value = .processing) (moves : Moves cartId s event next) :
    next.finalizeOrder.isSome → next.value = .processing := by
  cases moves with
  | offline | online | updated => exact h
  | authorized | retry => exact fun _ => rfl
  | _ => exact fun none => by cases none

theorem sound_settle (h : Sound s) (reply : Except Thrown Order) : Sound (step s (.settle reply)) := by
  cases actor : s.finalizeOrder with
  | none =>
    have same : step s (.settle reply) = s := by simp only [step, actor]
    rw [same]
    exact h
  | some input =>
    have processing : s.value = .processing := h.actor (by rw [actor]; rfl)
    have needs : Needs .processing s.context := processing ▸ h.needs
    simp only [step, actor]
    cases finalizeOrder input reply with
    | ok order => exact ⟨⟨needs.1, rfl⟩, fun none => by cases none⟩
    | error thrown => exact ⟨needs, fun none => by cases none⟩

theorem sound_step (h : Sound s) (i : Input Item Order) : Sound (step s i) := by
  cases i with
  | settle reply => exact sound_settle h reply
  | send event cartId =>
    obtain same | moves := send_cases s event cartId
    · have same : step s (.send event cartId) = s := same
      rw [same]
      exact h
    · exact ⟨needs_moves h.needs moves, actor_moves h.actor moves⟩

theorem sound_run (cartId : String) (inputs : List (Input Item Order)) :
    Sound (Runs.run step (initial cartId) inputs) :=
  Runs.run_inv (I := Sound) (fun _ i h => sound_step h i) (sound_initial cartId) inputs

/-! ## Carts without a payment -/

theorem unpaid_moves (h : Needs s.value s.context) (unpaid : Unpaid s.value s.context)
    (moves : Moves cartId s event next) (kept : ¬ CancelsPaid s (.send event cartId)) :
    Unpaid next.value next.context := by
  cases moves with
  | offline s | online s => obtain ⟨value, c, a⟩ := s; cases value <;> exact unpaid
  | start c => exact congrArg KioskContext.paymentResult (h : c = c.fresh)
  | select | updated | toCart | close | add | back | proceed | unpaid => exact unpaid
  | cancel => exact absurd ⟨rfl, cartId, rfl⟩ kept
  | language | authorized | retry | leave | admin => trivial

theorem unpaid_step (sound : Sound s) (unpaid : Unpaid s.value s.context) {i : Input Item Order}
    (kept : ¬ CancelsPaid s i) : Unpaid (step s i).value (step s i).context := by
  cases i with
  | send event cartId =>
    obtain same | moves := send_cases s event cartId
    · have same : step s (.send event cartId) = s := same
      rw [same]
      exact unpaid
    · exact unpaid_moves sound.needs unpaid moves kept
  | settle reply =>
    cases actor : s.finalizeOrder with
    | none =>
      have same : step s (.settle reply) = s := by simp only [step, actor]
      rw [same]
      exact unpaid
    | some input =>
      simp only [step, actor]
      cases finalizeOrder input reply <;> trivial

theorem carries_of_sound (sound : Sound s) (unpaid : Unpaid s.value s.context) : Carries s := by
  obtain ⟨value, c, a⟩ := s
  have needs := sound.needs
  refine ⟨?_, ?_, ?_, fun session => needs.session session, ?_⟩
  · rintro (rfl | rfl) <;> exact needs.2
  · rintro rfl
    exact needs.2
  · rintro rfl
    exact needs.2
  · rintro rfl
    exact unpaid

theorem not_carries (sound : Sound s) {i : Input Item Order} (cancels : CancelsPaid s i) :
    ¬ Carries (step s i) := by
  obtain ⟨value, cartId, rfl⟩ := cancels
  obtain ⟨_, c, a⟩ := s
  obtain rfl : _ = State.processingError := value
  obtain ⟨-, result, paid, -⟩ := sound.needs
  intro h
  cases (h.cart rfl).symm.trans paid

/-- The invariant holds throughout a run exactly if no payment is cancelled after its order has failed. -/
theorem always_carries_iff (cartId : String) (inputs : List (Input Item Order)) :
    Runs.Always step Carries (initial cartId) inputs ↔
      Runs.EachStep step (fun s i => ¬ CancelsPaid s i) (initial cartId) inputs := by
  refine Runs.always_iff_eachStep (J := fun s => Sound s ∧ Unpaid s.value s.context) ?_ ?_ ?_ ?_ inputs
  · exact fun s h => carries_of_sound h.1 h.2
  · exact fun s i h kept => ⟨sound_step h.1 i, unpaid_step h.1 h.2 kept⟩
  · exact fun s i h carries cancels => not_carries h.1 cancels carries
  · exact ⟨sound_initial cartId, trivial⟩

end

/-! ## Two histories -/

/-- The same but for the id of the cart. -/
def Alike (s t : Snapshot Item Order) : Prop :=
  { s with context := { s.context with cartId := t.context.cartId } } = t

/-- No session has begun. -/
def Idle (s : Snapshot Item Order) : Prop := s.value = .attract ∨ s.value = .admin

/-- Both at the attract screen, with the same settings. -/
structure SameSettings (s t : Snapshot Item Order) : Prop where
  left : s.value = .attract
  right : t.value = .attract
  locale : s.context.locale = t.context.locale
  apiStatus : s.context.apiStatus = t.context.apiStatus
  isOfflineMode : s.context.isOfflineMode = t.context.isOfflineMode

section
variable {s t : Snapshot Item Order}

/-- The settings are all that is left of a session. -/
theorem alike_of_sameSettings (hs : Sound s) (ht : Sound t) (same : SameSettings s t) : Alike s t := by
  obtain ⟨value, c, a⟩ := s
  obtain ⟨value', c', a'⟩ := t
  obtain ⟨left, right, locale, apiStatus, isOfflineMode⟩ := same
  obtain rfl : value = .attract := left
  obtain rfl : value' = .attract := right
  have fresh : c = c.fresh := hs.needs
  have fresh' : c' = c'.fresh := ht.needs
  have stopped : a = none := Option.not_isSome_iff_eq_none.mp fun running => by cases hs.actor running
  have stopped' : a' = none := Option.not_isSome_iff_eq_none.mp fun running => by cases ht.actor running
  have same : { c with cartId := c'.cartId } = c' := by
    rw [fresh, fresh']
    simp only [KioskContext.fresh] at locale apiStatus isOfflineMode ⊢
    rw [locale, apiStatus, isOfflineMode]
  rw [Alike, stopped, stopped', same]

/-- Until a session begins an event does the same to both, and the session begins with the cart that there is
at the time. -/
theorem alike_step (alike : Alike s t) (idle : Idle s) (stopped : s.finalizeOrder = none) (i : Input Item Order) :
    Alike (step s i) (step t i) ∧ (Idle (step s i) ∧ (step s i).finalizeOrder = none ∨ step s i = step t i) := by
  obtain ⟨value, c, a⟩ := s
  obtain ⟨own, rfl⟩ : ∃ own, t = ⟨value, { c with cartId := own }, a⟩ := ⟨t.context.cartId, alike.symm⟩
  obtain rfl : a = none := stopped
  cases i with
  | settle reply => exact ⟨rfl, .inl ⟨idle, rfl⟩⟩
  | send event cartId =>
    obtain rfl | rfl : value = .attract ∨ value = .admin := idle
    · cases event with
      | startSession | tapStart => exact ⟨rfl, .inr rfl⟩
      | openAdmin => exact ⟨rfl, .inl ⟨.inr rfl, rfl⟩⟩
      | _ => exact ⟨rfl, .inl ⟨.inl rfl, rfl⟩⟩
    · cases event with
      | closeAdmin | returnToAttract => exact ⟨rfl, .inr rfl⟩
      | _ => exact ⟨rfl, .inl ⟨.inr rfl, rfl⟩⟩

theorem alike_run (alike : Alike s t) (idle : Idle s) (stopped : s.finalizeOrder = none)
    (inputs : List (Input Item Order)) : Alike (Runs.run step s inputs) (Runs.run step t inputs) ∧
      (Idle (Runs.run step s inputs) ∨ Runs.run step s inputs = Runs.run step t inputs) := by
  induction inputs generalizing s t with
  | nil => exact ⟨alike, .inl idle⟩
  | cons i inputs ih =>
    obtain ⟨alike, ⟨idle, stopped⟩ | same⟩ := alike_step alike idle stopped i
    · exact ih alike idle stopped
    · rw [Runs.run_cons, Runs.run_cons, same]
      exact ⟨rfl, .inr rfl⟩

end

/-- **The invariant holds in exactly the runs in which no payment is cancelled after its order has failed, and
nothing of a session is left behind.** From two histories that end at the attract screen with the same
settings, the same inputs lead to the same states and contexts, but for the id of the cart until a session
begins where the histories left different ones. -/
theorem carries_and_isolates (Item Order : Type) :
    (∀ (cartId : String) (inputs : List (Input Item Order)),
      Runs.Always step Carries (initial cartId) inputs ↔
        Runs.EachStep step (fun s i => ¬ CancelsPaid s i) (initial cartId) inputs) ∧
    ∀ (cartId cartId' : String) (history history' later : List (Input Item Order)),
      let s := Runs.run step (initial cartId) history
      let t := Runs.run step (initial cartId') history'
      SameSettings s t →
        Alike (Runs.run step s later) (Runs.run step t later) ∧
        (s.context.cartId = t.context.cartId ∨ ¬ Idle (Runs.run step s later) →
          Runs.run step s later = Runs.run step t later) := by
  refine ⟨always_carries_iff, ?_⟩
  intro cartId cartId' history history' later s t same
  have hs : Sound s := sound_run cartId history
  have ht : Sound t := sound_run cartId' history'
  have alike : Alike s t := alike_of_sameSettings hs ht same
  have stopped : s.finalizeOrder = none := by
    refine Option.not_isSome_iff_eq_none.mp fun running => ?_
    cases same.left.symm.trans (hs.actor running)
  obtain ⟨alike', idle | equal⟩ := alike_run alike (.inl same.left) stopped later
  · refine ⟨alike', ?_⟩
    rintro (carts | busy)
    · have equal : s = t := by
        rw [← alike, ← carts]
      rw [equal]
    · exact absurd idle busy
  · exact ⟨alike', fun _ => equal⟩

namespace Supper

def visa : PaymentAuthorizationResult :=
  { authorizationId := "auth-10", status := .authorized, method := "credit_debit", amountCents := 899 }

def sent (event : KioskEvent String String) : Input String String := .send event "cart-1"

/-- The order of a payment fails, and the customer goes back to the cart. -/
def cancelled : List (Input String String) :=
  [sent (.setLanguage .en), sent (.startSession "session-1" none), sent (.cartUpdated true), sent .goToCart,
    sent .proceedToPayment, sent (.paymentAuthorized visa), .settle (.error (.error "network down")),
    sent .cancelPayment]

theorem cart_with_payment : (Runs.run step (initial "cart-1") cancelled).value = .cart ∧
    (Runs.run step (initial "cart-1") cancelled).context.paymentResult = some visa ∧
    ¬ Runs.Always step Carries (initial "cart-1") cancelled := by
  have value : (Runs.run step (initial "cart-1") cancelled).value = .cart := by decide
  have paid : (Runs.run step (initial "cart-1") cancelled).context.paymentResult = some visa := by decide
  refine ⟨value, paid, fun always => ?_⟩
  have carries : Carries (Runs.run step (initial "cart-1") cancelled) := Runs.always_last always
  cases (carries.cart value).symm.trans paid

end Supper

end Kiosk.Machine
