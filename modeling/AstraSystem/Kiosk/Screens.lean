import AstraSystem.Kiosk.Machine

/-!
# The screens of the kiosk (`WorkflowRouter.tsx`, `App.tsx`, `routes/`)

The router renders a screen for the stage of the machine, and the screen before it stays until it has faded out. A
customer reaches the machine through the handlers of what is rendered.
-/

namespace Kiosk.Screens

open Machine
open Runs (run Always EachStep)

inductive Screen where
  | languageSelect
  | attract
  | menuApp
  | menu
  | cartApp
  | cartReview
  | paymentAuth
  | processing
  | receipt
  | admin
  deriving DecidableEq, Repr

/-- Outside of the dev mode the remote modules take the place of the menu and the cart. A stage without a case of its
own falls through to the attract screen. -/
def baseScreen (useRemote : Bool) : State → Screen
  | .languageSelect => .languageSelect
  | .attract => .attract
  | .admin => .admin
  | .menu | .itemDetail => if useRemote then .menuApp else .menu
  | .cart => if useRemote then .cartApp else .cartReview
  | .payment => .paymentAuth
  | .processing => .processing
  | .receipt => .receipt
  | .processingError => .attract

variable {Item Order : Type}

/-- What the handlers of a screen send. The processing screen has its buttons by the stage of the machine: Retry when
the order has failed, and Cancel when the machine can be told to cancel. -/
def Screen.sends (value : State) : Screen → KioskEvent Item Order → Bool
  | .languageSelect, .setLanguage _ => true
  | .attract, .startSession _ laneMode => laneMode.isNone
  | .menuApp, .selectItem _ => true
  | .menu, .selectItem _ | .menu, .goToCart => true
  | .cartApp, .backToMenu | .cartApp, .proceedToPayment => true
  | .cartReview, .selectItem _ | .cartReview, .backToMenu | .cartReview, .proceedToPayment => true
  | .processing, .retry => value = .processingError
  | .processing, .cancelPayment => (on value (.cancelPayment : KioskEvent Item Order)).isSome
  | .receipt, .receiptAcknowledged => true
  | .admin, .closeAdmin => true
  | _, _ => false

/-- Where `useIdleReclaim` does not send the kiosk back, and no warning is shown. -/
def immuneStages : List State := [.attract, .payment, .processing, .receipt]

/-- The machine, and the stage whose screen is rendered. -/
structure Front (Item Order : Type) where
  machine : Snapshot Item Order
  shown : State

/-- What can be sent. A payment that has begun goes on when its screen is gone, and the item is shown above whatever
screen there is. -/
def Front.offers (useRemote : Bool) (f : Front Item Order) : KioskEvent Item Order → Bool
  | .paymentAuthorized _ | .paymentFailed _ | .networkOnline | .networkOffline => true
  | .returnToAttract => f.machine.value ∉ immuneStages
  | .addToCart | .closeItemDetail => f.machine.value = .itemDetail
  | event => (baseScreen useRemote f.shown).sends f.machine.value event

inductive Act (Item Order : Type) where
  | send (event : KioskEvent Item Order) (cartId : String)
  /-- The API answers the running actor. -/
  | settle (reply : Except Thrown Order)
  /-- The screen before has faded out. -/
  | faded

def start (cartId : String) : Front Item Order := ⟨initial cartId, .languageSelect⟩

def step (useRemote : Bool) (f : Front Item Order) : Act Item Order → Front Item Order
  | .send event cartId =>
    if f.offers useRemote event then { f with machine := Machine.send f.machine event cartId } else f
  | .settle reply => { f with machine := Machine.step f.machine (.settle reply) }
  | .faded => { f with shown := f.machine.value }

/-- What is sent is offered, and the machine moves or ignores it. -/
theorem send_step_cases (useRemote : Bool) (f : Front Item Order) (event : KioskEvent Item Order) (cartId : String) :
    step useRemote f (.send event cartId) = f ∨ f.offers useRemote event = true ∧
      ∃ next, Moves cartId f.machine event next ∧
        step useRemote f (.send event cartId) = { f with machine := next } := by
  cases offered : f.offers useRemote event with
  | false => exact .inl (by simp [step, offered])
  | true =>
    obtain same | moves := send_cases f.machine event cartId
    · exact .inl (by simp [step, same])
    · exact .inr ⟨rfl, _, moves, by simp [step, offered]⟩

theorem settle_idle {f : Front Item Order} (idle : f.machine.finalizeOrder = none) (useRemote : Bool)
    (reply : Except Thrown Order) : step useRemote f (.settle reply) = f := by
  simp only [step, Machine.step, idle]

/-! ## The stages that are reached -/

/-- With the remote modules nobody comes as far as the cart, and no screen asks for the administrator's. -/
def stages (useRemote : Bool) : List State :=
  if useRemote then [.languageSelect, .attract, .menu, .itemDetail]
  else [.languageSelect, .attract, .menu, .itemDetail, .cart, .payment, .processing, .processingError, .receipt]

structure Confined (useRemote : Bool) (f : Front Item Order) : Prop where
  value : f.machine.value ∈ stages useRemote
  shown : f.shown ∈ stages useRemote
  idle : useRemote → f.machine.finalizeOrder = none

theorem not_offers_openAdmin (useRemote : Bool) (f : Front Item Order) : f.offers useRemote .openAdmin = false := by
  unfold Front.offers
  cases baseScreen useRemote f.shown <;> rfl

theorem not_offers_goToCart {f : Front Item Order} (shown : f.shown ∈ stages true) :
    f.offers true .goToCart = false := by
  obtain ⟨machine, shown'⟩ := f
  cases shown' with
  | languageSelect | attract | menu | itemDetail => rfl
  | _ => simp [stages] at shown

theorem Confined.moves {useRemote : Bool} {f : Front Item Order} (h : Confined useRemote f)
    {event : KioskEvent Item Order} {cartId : String} (offered : f.offers useRemote event = true)
    {next : Snapshot Item Order} (moves : Moves cartId f.machine event next) :
    Confined useRemote { f with machine := next } := by
  obtain ⟨machine, shown⟩ := f
  have value := h.value
  cases useRemote with
  | false =>
    refine ⟨?_, h.shown, fun none => by cases none⟩
    cases moves with
    | offline | online => exact value
    | admin => simp [not_offers_openAdmin] at offered
    | _ => simp [stages]
  | true =>
    cases moves with
    | offline | online => exact ⟨value, h.shown, h.idle⟩
    | updated c a cartHasItems => exact ⟨value, h.shown, h.idle⟩
    | admin => simp [not_offers_openAdmin] at offered
    | toCart => simp [not_offers_goToCart h.shown] at offered
    | back | proceed | authorized | unpaid | retry | cancel => simp [stages] at value
    | _ => exact ⟨by simp [stages], h.shown, fun _ => rfl⟩

theorem Confined.step {useRemote : Bool} {f : Front Item Order} (h : Confined useRemote f) (a : Act Item Order) :
    Confined useRemote (step useRemote f a) := by
  cases a with
  | faded => exact ⟨h.value, h.value, h.idle⟩
  | send event cartId =>
    obtain same | ⟨offered, next, moves, stepped⟩ := send_step_cases useRemote f event cartId
    · rwa [same]
    · rw [stepped]
      exact h.moves offered moves
  | settle reply =>
    cases useRemote with
    | true => rwa [settle_idle (h.idle rfl)]
    | false =>
      refine ⟨?_, h.shown, fun none => by cases none⟩
      simp only [Screens.step, Machine.step]
      split
      · exact h.value
      · split <;> simp [stages]

/-- A customer who buys an item, as far as the screens go. -/
def purchase (item : Item) (cartId : String) : List (Act Item Order) :=
  [.send (.setLanguage .en) cartId, .faded, .send (.startSession "session-1" none) cartId, .faded,
    .send (.selectItem item) cartId, .send .addToCart cartId, .send .goToCart cartId, .faded,
    .send .proceedToPayment cartId,
    .send (.paymentAuthorized ⟨"auth-1", .authorized, "qr_code", 899, none, none, none, none, none⟩) cartId]

/-- The stages of the machine that some run of the kiosk reaches. With the remote modules no run comes as far as the
cart or a payment. -/
theorem reached_iff (useRemote : Bool) (cartId : String) (item : Item) (order : Order) (value : State) :
    (∃ acts : List (Act Item Order), (run (step useRemote) (start cartId) acts).machine.value = value) ↔
      value ∈ stages useRemote := by
  constructor
  · rintro ⟨acts, rfl⟩
    have confined : Confined useRemote (start cartId : Front Item Order) :=
      ⟨by cases useRemote <;> simp [start, initial, stages], by cases useRemote <;> simp [start, stages], fun _ => rfl⟩
    exact (Runs.run_inv (fun _ a h => h.step a) confined acts).value
  · intro reached
    have bought (n : ℕ) : ∃ acts : List (Act Item Order), (run (step useRemote) (start cartId) acts).machine.value =
        (run (step useRemote) (start cartId) ((purchase item cartId).take n)).machine.value := ⟨_, rfl⟩
    cases value with
    | languageSelect => exact bought 0
    | attract => cases useRemote <;> exact bought 1
    | menu => cases useRemote <;> exact bought 3
    | itemDetail => cases useRemote <;> exact bought 5
    | cart =>
      cases useRemote with
      | false => exact bought 7
      | true => simp [stages] at reached
    | payment =>
      cases useRemote with
      | false => exact bought 9
      | true => simp [stages] at reached
    | processing =>
      cases useRemote with
      | false => exact bought 10
      | true => simp [stages] at reached
    | processingError =>
      cases useRemote with
      | false => exact ⟨purchase item cartId ++ [.settle (.error .value)], rfl⟩
      | true => simp [stages] at reached
    | receipt =>
      cases useRemote with
      | false => exact ⟨purchase item cartId ++ [.settle (.ok order)], rfl⟩
      | true => simp [stages] at reached
    | admin => cases useRemote <;> simp [stages] at reached

/-! ## The order of a payment -/

/-- What the API answers first. -/
def firstReply : List (Act Item Order) → Option (Except Thrown Order)
  | [] => none
  | .settle reply :: _ => some reply
  | .send _ _ :: acts | .faded :: acts => firstReply acts

/-- The stage that an answer leads to. -/
def outcome : Option (Except Thrown Order) → State
  | none => .processing
  | some (.ok _) => .receipt
  | some (.error _) => .processingError

/-- Retry or Cancel is tapped while the processing screen fades out behind a failed order. -/
def taps (f : Front Item Order) : Act Item Order → Bool
  | .send .retry _ | .send .cancelPayment _ => f.machine.value = .processingError ∧ f.shown = .processing
  | _ => false

/-- The order of a payment has been asked for. -/
structure Awaits (f : Front Item Order) : Prop where
  value : f.machine.value = .processing
  asked : ∃ input result, f.machine.finalizeOrder = some input ∧ input.paymentResult = some result

/-- The answer has come. -/
structure Answered (stage : State) (f : Front Item Order) : Prop where
  value : f.machine.value = stage
  settled : stage = .receipt ∨ stage = .processingError
  idle : f.machine.finalizeOrder = none

section
variable {useRemote : Bool} {f : Front Item Order}

/-- A payment is approved, and the order is asked for. -/
theorem awaits_of_approved {a : Act Item Order} (paid : f.machine.value = .payment)
    (approved : (step useRemote f a).machine.value = .processing) : Awaits (step useRemote f a) := by
  have moved : f.machine.value ≠ .processing := by simp [paid]
  cases a with
  | faded => exact absurd approved moved
  | settle reply =>
    simp only [step, Machine.step] at approved
    split at approved
    · exact absurd approved moved
    · split at approved <;> cases approved
  | send event cartId =>
    obtain same | ⟨-, next, moves, stepped⟩ := send_step_cases useRemote f event cartId
    · rw [same] at approved
      exact absurd approved moved
    · rw [stepped] at approved ⊢
      obtain ⟨machine, shown⟩ := f
      cases moves with
      | authorized c a result => exact ⟨rfl, _, result, rfl, rfl⟩
      | retry => cases paid
      | offline | online => exact absurd approved moved
      | _ => cases approved

theorem Awaits.send (h : Awaits f) (event : KioskEvent Item Order) (cartId : String) :
    Awaits (step useRemote f (.send event cartId)) := by
  obtain same | ⟨offered, next, moves, stepped⟩ := send_step_cases useRemote f event cartId
  · rwa [same]
  · rw [stepped]
    obtain ⟨machine, shown⟩ := f
    have value := h.value
    cases moves with
    | offline | online => exact ⟨value, h.asked⟩
    | leave left c a event mem asked =>
      obtain rfl : left = .processing := value
      obtain rfl | none | none := asked
      · simp [Front.offers, immuneStages] at offered
      · cases none
      · cases none
    | admin left c a mem =>
      obtain rfl : left = .processing := value
      simp [administrable] at mem
    | _ => cases value

theorem Awaits.settle (h : Awaits f) (reply : Except Thrown Order) :
    Answered (outcome (some reply)) (step useRemote f (.settle reply)) := by
  obtain ⟨input, result, asked, given⟩ := h.asked
  have answered : finalizeOrder input reply = reply := by simp only [finalizeOrder, given]
  cases reply with
  | ok order => exact ⟨by simp [step, Machine.step, asked, answered, outcome], .inl rfl,
      by simp [step, Machine.step, asked, answered]⟩
  | error thrown => exact ⟨by simp [step, Machine.step, asked, answered, outcome], .inr rfl,
      by simp [step, Machine.step, asked, answered]⟩

/-- The buttons of a failed order are on the processing screen, which is on its way out. -/
theorem taps_of_offers {event : KioskEvent Item Order} (cartId : String) (failed : f.machine.value = .processingError)
    (button : event = .retry ∨ event = .cancelPayment) (offered : f.offers useRemote event = true) :
    taps f (.send event cartId) = true := by
  obtain ⟨machine, shown⟩ := f
  have shown : shown = .processing := by
    obtain rfl | rfl := button <;> cases useRemote <;> cases shown <;>
      simp_all [Front.offers, baseScreen, Screen.sends]
  subst shown
  obtain rfl | rfl := button <;> simpa [taps] using failed

theorem Answered.step {value : State} (h : Answered value f) {a : Act Item Order} (untapped : taps f a = false)
    (stays : (step useRemote f a).machine.value ≠ .attract) : Answered value (step useRemote f a) := by
  cases a with
  | faded => exact ⟨h.value, h.settled, h.idle⟩
  | settle reply => rwa [settle_idle h.idle]
  | send event cartId =>
    obtain same | ⟨offered, next, moves, stepped⟩ := send_step_cases useRemote f event cartId
    · rwa [same]
    · rw [stepped] at stays ⊢
      have failed (button : event = .retry ∨ event = .cancelPayment) (failed : f.machine.value = .processingError) :
          False := by simp [taps_of_offers cartId failed button offered] at untapped
      obtain ⟨machine, shown⟩ := f
      have value := h.value
      obtain rfl | rfl := h.settled
      all_goals
        cases moves with
        | offline | online => exact ⟨value, h.settled, h.idle⟩
        | leave => exact absurd rfl stays
        | admin => simp [not_offers_openAdmin] at offered
        | retry => exact (failed (.inl rfl) rfl).elim
        | cancel => exact (failed (.inr rfl) rfl).elim
        | _ => cases value

theorem Answered.run {stage : State} {acts : List (Act Item Order)} (h : Answered stage f)
    (untapped : EachStep (Screens.step useRemote) (fun f a => taps f a = false) f acts)
    (stays : Always (Screens.step useRemote) (fun f => f.machine.value ≠ .attract) f acts) :
    (Runs.run (Screens.step useRemote) f acts).machine.value = stage := by
  induction acts generalizing f with
  | nil => exact h.value
  | cons a acts ih =>
    have here := Runs.always_head stays.2
    exact ih (h.step untapped.1 here) untapped.2 stays.2

end

/-- After an approved payment, and until the kiosk is back at the attract screen, the first answer of the API decides
what becomes of the order, unless somebody taps Retry or Cancel while the processing screen fades out: no screen is
made for an order that has failed. -/
theorem first_reply_decides (useRemote : Bool) (f : Front Item Order) (a : Act Item Order)
    (acts : List (Act Item Order)) (paid : f.machine.value = .payment)
    (approved : (step useRemote f a).machine.value = .processing)
    (untapped : EachStep (step useRemote) (fun f a => taps f a = false) (step useRemote f a) acts)
    (stays : Always (step useRemote) (fun f => f.machine.value ≠ .attract) (step useRemote f a) acts) :
    (run (step useRemote) (step useRemote f a) acts).machine.value = outcome (firstReply acts) := by
  have awaits := awaits_of_approved paid approved
  generalize step useRemote f a = g at awaits untapped stays ⊢
  induction acts generalizing g with
  | nil => exact awaits.value
  | cons a acts ih =>
    cases a with
    | send event cartId => exact ih _ (awaits.send event cartId) untapped.2 stays.2
    | faded => exact ih _ ⟨awaits.value, awaits.asked⟩ untapped.2 stays.2
    | settle reply =>
      rw [Runs.run_cons]
      exact (awaits.settle reply).run untapped.2 stays.2

/-- Retry comes when the buttons have gone. -/
theorem first_reply_decides_of_failed :
    (run (step false) (start "cart-1" : Front String String) (purchase "latte" "cart-1" ++
      [.faded, .settle (.error .value), .faded, .send .retry "cart-1", .settle (.ok "order-1")])).machine.value =
        .processingError :=
  first_reply_decides false (run (step false) (start "cart-1") ((purchase "latte" "cart-1").take 9))
    (.send (.paymentAuthorized ⟨"auth-1", .authorized, "qr_code", 899, none, none, none, none, none⟩) "cart-1")
    [.faded, .settle (.error .value), .faded, .send .retry "cart-1", .settle (.ok "order-1")] rfl rfl
    ⟨rfl, rfl, rfl, rfl, rfl, trivial⟩
    ⟨by decide, by decide, by decide, by decide, by decide, (by decide : State.processingError ≠ .attract)⟩

end Kiosk.Screens
