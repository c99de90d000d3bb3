import Mathlib.Data.Int.Notation
import AstraSystem.Lib.Runs

/-!
# The kiosk workflow (`machines/kioskMachine.ts`)

One customer after the other goes from the attract screen through menu, cart and payment to a receipt. While
the machine is in `PROCESSING` an actor asks the API for the order; it is stopped when the state is left.
-/

namespace Kiosk.Machine

inductive LocaleCode where
  | en | es | zhCN | fr | ja | ko | hi | ar | pt | ru | bn | de | ur | tr | zhTW | vi | th
  deriving DecidableEq, Repr

inductive LaneMode where
  | express
  | full
  deriving DecidableEq, Repr

inductive ApiStatus where
  | online
  | offline
  | degraded
  | unknown
  deriving DecidableEq, Repr

inductive ReturnTo where
  | menu
  | cart
  deriving DecidableEq, Repr

inductive PaymentStatus where
  | pending
  | authorized
  | captured
  | queuedOffline
  | declined
  | voided
  | refunded
  deriving DecidableEq, Repr

structure PaymentAuthorizationResult where
  authorizationId : String
  status : PaymentStatus
  method : String
  amountCents : ℤ
  approvalCode : Option String := none
  declineReason : Option String := none
  cardBrand : Option String := none
  cardLastFour : Option String := none
  receiptText : Option String := none
  deriving DecidableEq, Repr

def approvedStatuses : List PaymentStatus := [.authorized, .captured, .queuedOffline]

def isApprovedResult (result : PaymentAuthorizationResult) : Bool := approvedStatuses.contains result.status

def isDeclinedResult (result : PaymentAuthorizationResult) : Bool := result.status = .declined

section
variable (Item Order : Type)

structure KioskContext where
  locale : LocaleCode
  sessionId : Option String
  laneMode : LaneMode
  selectedItem : Option Item
  cartHasItems : Bool
  returnTo : Option ReturnTo
  paymentResult : Option PaymentAuthorizationResult
  order : Option Order
  errorMessage : Option String
  apiStatus : ApiStatus
  isOfflineMode : Bool
  cartId : String
  deriving DecidableEq, Repr

inductive KioskEvent where
  | setLanguage (locale : LocaleCode)
  | startSession (sessionId : String) (laneMode : Option LaneMode)
  | tapStart (sessionId : String) (laneMode : Option LaneMode)
  | selectItem (item : Item)
  | closeItemDetail
  | addToCart
  | cartUpdated (cartHasItems : Bool)
  | goToCart
  | backToMenu
  | proceedToPayment
  | paymentAuthorized (result : PaymentAuthorizationResult)
  | paymentDeclined (result : PaymentAuthorizationResult)
  | paymentFailed (message : String)
  | cancelPayment
  | orderFinalized (order : Order)
  | receiptAcknowledged
  | returnToAttract
  | openAdmin
  | closeAdmin
  | apiError (message : String)
  | networkOffline
  | networkOnline
  | retry
  deriving DecidableEq, Repr

end

inductive State where
  | languageSelect
  | attract
  | menu
  | itemDetail
  | cart
  | payment
  | processing
  | processingError
  | receipt
  | admin
  deriving DecidableEq, Repr

inductive Action where
  | assignLanguage
  | assignSession
  | assignSelectedItem
  | clearSelectedItem
  | assignCartStatus
  | markCartHasItems
  | assignPaymentResult
  | clearPaymentResult
  | setPaymentError
  | setErrorMessage
  | setDeclineError
  | setOnlineMode
  | setOfflineMode
  | clearError
  | resetContext
  deriving DecidableEq, Repr

inductive Guard where
  | cartHasItems
  | paymentApproved
  | paymentDeclined
  deriving DecidableEq, Repr

/-- A transition without a target stays in its state, which is not left. -/
structure Transition where
  guard : Option Guard := none
  target : Option State := none
  actions : List Action := []
  deriving DecidableEq, Repr

variable {Item Order : Type}

/-! ## Actions and guards -/

def declineText (result : PaymentAuthorizationResult) : String :=
  result.declineReason.getD "Payment declined. Try another method."

/-- What an action assigns; `cartId` is that of `cartProxy` at the time. -/
def Action.assign (cartId : String) (event : KioskEvent Item Order) (context : KioskContext Item Order) :
    Action → KioskContext Item Order
  | .assignLanguage => match event with
    | .setLanguage locale => { context with locale }
    | _ => context
  | .assignSession => match event with
    | .startSession sessionId laneMode | .tapStart sessionId laneMode => { context with
        sessionId := some sessionId, laneMode := laneMode.getD .full, errorMessage := none, cartId
        returnTo := none }
    | _ => context
  | .assignSelectedItem => { context with
      selectedItem := match event with
        | .selectItem item => some item
        | _ => none }
  | .clearSelectedItem => { context with selectedItem := none }
  | .assignCartStatus => { context with
      cartHasItems := match event with
        | .cartUpdated cartHasItems => cartHasItems
        | _ => false }
  | .markCartHasItems => { context with cartHasItems := true }
  | .assignPaymentResult => { context with
      paymentResult := match event with
        | .paymentAuthorized result => some result
        | _ => none }
  | .clearPaymentResult => { context with paymentResult := none }
  | .setPaymentError => { context with
      errorMessage := match event with
        | .paymentDeclined result => some (declineText result)
        | .paymentFailed message => some message
        | _ => none }
  | .setErrorMessage => { context with
      errorMessage := match event with
        | .paymentFailed message => some message
        | _ => some "An unexpected error occurred." }
  | .setDeclineError => { context with
      errorMessage := match event with
        | .paymentDeclined result => some (declineText result)
        | _ => none }
  | .setOnlineMode => { context with apiStatus := .online, isOfflineMode := false }
  | .setOfflineMode => { context with apiStatus := .offline, isOfflineMode := true }
  | .clearError => { context with errorMessage := none }
  | .resetContext => { context with
      sessionId := none, laneMode := .full, selectedItem := none, cartHasItems := false, returnTo := none
      paymentResult := none, order := none, errorMessage := none, cartId }

def Guard.holds (event : KioskEvent Item Order) (context : KioskContext Item Order) : Guard → Bool
  | .cartHasItems => context.cartHasItems
  | .paymentApproved => match event with
    | .paymentAuthorized result => isApprovedResult result
    | _ => false
  | .paymentDeclined => match event with
    | .paymentDeclined result => isDeclinedResult result
    | _ => false

/-! ## Transitions -/

/-- The transition of a state for an event, if it has one. -/
def on : State → KioskEvent Item Order → Option Transition
  | _, .networkOffline => some { actions := [.setOfflineMode] }
  | _, .networkOnline => some { actions := [.setOnlineMode] }
  | .languageSelect, .setLanguage _ => some { target := some .attract, actions := [.assignLanguage] }
  | .attract, .startSession .. => some { target := some .menu, actions := [.assignSession] }
  | .attract, .tapStart .. => some { target := some .menu, actions := [.assignSession] }
  | .attract, .openAdmin => some { target := some .admin }
  | .menu, .selectItem _ => some { target := some .itemDetail, actions := [.assignSelectedItem] }
  | .menu, .goToCart => some { guard := some .cartHasItems, target := some .cart }
  | .menu, .cartUpdated _ => some { actions := [.assignCartStatus] }
  | .menu, .returnToAttract => some { target := some .attract, actions := [.resetContext] }
  | .menu, .openAdmin => some { target := some .admin }
  | .itemDetail, .closeItemDetail => some { target := some .menu, actions := [.clearSelectedItem] }
  | .itemDetail, .addToCart =>
    some { target := some .menu, actions := [.clearSelectedItem, .markCartHasItems] }
  | .itemDetail, .returnToAttract => some { target := some .attract, actions := [.resetContext] }
  | .itemDetail, .openAdmin => some { target := some .admin }
  | .cart, .backToMenu => some { target := some .menu }
  | .cart, .proceedToPayment => some { guard := some .cartHasItems, target := some .payment }
  | .cart, .returnToAttract => some { target := some .attract, actions := [.resetContext] }
  | .cart, .openAdmin => some { target := some .admin }
  | .payment, .paymentAuthorized _ => some {
      guard := some .paymentApproved, target := some .processing, actions := [.assignPaymentResult] }
  | .payment, .paymentDeclined _ => some {
      guard := some .paymentDeclined, target := some .cart, actions := [.setDeclineError] }
  | .payment, .paymentFailed _ => some { target := some .cart, actions := [.setErrorMessage] }
  | .payment, .cancelPayment => some { target := some .cart }
  | .payment, .returnToAttract => some { target := some .attract, actions := [.resetContext] }
  | .payment, .openAdmin => some { target := some .admin }
  | .processing, .returnToAttract => some { target := some .attract, actions := [.resetContext] }
  | .processingError, .retry => some { target := some .processing }
  | .processingError, .cancelPayment => some { target := some .cart }
  | .processingError, .returnToAttract => some { target := some .attract, actions := [.resetContext] }
  | .processingError, .openAdmin => some { target := some .admin }
  | .receipt, .receiptAcknowledged => some { target := some .attract, actions := [.resetContext] }
  | .receipt, .returnToAttract => some { target := some .attract, actions := [.resetContext] }
  | .receipt, .openAdmin => some { target := some .admin }
  | .admin, .closeAdmin => some { target := some .attract, actions := [.resetContext] }
  | .admin, .returnToAttract => some { target := some .attract, actions := [.resetContext] }
  | _, _ => none

def entry : State → List Action
  | .payment => [.clearError]
  | _ => []

/-! ## The actor -/

/-- What the actor is given when `PROCESSING` is entered. -/
structure FinalizeInput where
  sessionId : String
  paymentResult : Option PaymentAuthorizationResult
  cartId : String
  deriving DecidableEq, Repr

/-- What is thrown: an `Error`, or another value. -/
inductive Thrown where
  | error (message : String)
  | value
  deriving DecidableEq, Repr

/-- The outcome of the actor, for the reply of `apiClient.createOrder`. -/
def finalizeOrder (input : FinalizeInput) (reply : Except Thrown Order) : Except Thrown Order :=
  match input.paymentResult with
  | none => .error (.error "Cannot finalize order without a payment result.")
  | some _ => reply

def Thrown.message : Thrown → String
  | .error message => message
  | .value => "Order finalization failed."

/-! ## Steps -/

variable (Item Order) in
structure Snapshot where
  value : State
  context : KioskContext Item Order
  /-- The running actor. -/
  finalizeOrder : Option FinalizeInput
  deriving DecidableEq, Repr

variable (Item Order) in
inductive Input where
  /-- An event, and the id of `cartProxy` when it is handled. -/
  | send (event : KioskEvent Item Order) (cartId : String)
  /-- The API answers the running actor. -/
  | settle (reply : Except Thrown Order)

def initial (cartId : String) : Snapshot Item Order where
  value := .languageSelect
  context := {
    locale := .en, sessionId := none, laneMode := .full, selectedItem := none, cartHasItems := false
    returnTo := none, paymentResult := none, order := none, errorMessage := none, apiStatus := .unknown
    isOfflineMode := false, cartId }
  finalizeOrder := none

def invoke (context : KioskContext Item Order) : State → Option FinalizeInput
  | .processing => some ⟨context.sessionId.getD "anonymous", context.paymentResult, context.cartId⟩
  | _ => none

/-- A state is entered: its entry actions run, and its actor starts. -/
def enter (cartId : String) (event : KioskEvent Item Order) (target : State)
    (context : KioskContext Item Order) : Snapshot Item Order :=
  let context := (entry target).foldl (fun c a => a.assign cartId event c) context
  ⟨target, context, invoke context target⟩

def send (s : Snapshot Item Order) (event : KioskEvent Item Order) (cartId : String) : Snapshot Item Order :=
  match on s.value event with
  | none => s
  | some t =>
    if t.guard.all (Guard.holds event s.context) then
      let context := t.actions.foldl (fun c a => a.assign cartId event c) s.context
      match t.target with
      | none => { s with context }
      | some target => enter cartId event target context
    else s

def step (s : Snapshot Item Order) : Input Item Order → Snapshot Item Order
  | .send event cartId => send s event cartId
  | .settle reply =>
    match s.finalizeOrder with
    | none => s
    | some input =>
      match finalizeOrder input reply with
      | .ok order => ⟨.receipt, { s.context with order := some order }, none⟩
      | .error thrown => ⟨.processingError, { s.context with errorMessage := some thrown.message }, none⟩

/-! ## What an event does -/

def KioskContext.reset (cartId : String) (context : KioskContext Item Order) : KioskContext Item Order :=
  Action.resetContext.assign cartId .returnToAttract context

def leavable : List State := [.menu, .itemDetail, .cart, .payment, .processing, .processingError, .receipt, .admin]

def administrable : List State := [.attract, .menu, .itemDetail, .cart, .payment, .processingError, .receipt]

/-- The transitions that are taken. -/
inductive Moves (cartId : String) : Snapshot Item Order → KioskEvent Item Order → Snapshot Item Order → Prop
  | offline (s) : Moves cartId s .networkOffline
      { s with context := { s.context with apiStatus := .offline, isOfflineMode := true } }
  | online (s) : Moves cartId s .networkOnline
      { s with context := { s.context with apiStatus := .online, isOfflineMode := false } }
  | language (c a locale) : Moves cartId ⟨.languageSelect, c, a⟩ (.setLanguage locale)
      ⟨.attract, { c with locale }, none⟩
  | start (c a e sessionId laneMode) (starts : e = .startSession sessionId laneMode ∨
      e = .tapStart sessionId laneMode) : Moves cartId ⟨.attract, c, a⟩ e ⟨.menu, { c with
        sessionId := some sessionId, laneMode := laneMode.getD .full, errorMessage := none, cartId
        returnTo := none }, none⟩
  | select (c a item) : Moves cartId ⟨.menu, c, a⟩ (.selectItem item)
      ⟨.itemDetail, { c with selectedItem := some item }, none⟩
  | updated (c a cartHasItems) : Moves cartId ⟨.menu, c, a⟩ (.cartUpdated cartHasItems)
      ⟨.menu, { c with cartHasItems }, a⟩
  | toCart (c a) (items : c.cartHasItems) : Moves cartId ⟨.menu, c, a⟩ .goToCart ⟨.cart, c, none⟩
  | close (c a) : Moves cartId ⟨.itemDetail, c, a⟩ .closeItemDetail
      ⟨.menu, { c with selectedItem := none }, none⟩
  | add (c a) : Moves cartId ⟨.itemDetail, c, a⟩ .addToCart
      ⟨.menu, { c with selectedItem := none, cartHasItems := true }, none⟩
  | back (c a) : Moves cartId ⟨.cart, c, a⟩ .backToMenu ⟨.menu, c, none⟩
  | proceed (c a) (items : c.cartHasItems) : Moves cartId ⟨.cart, c, a⟩ .proceedToPayment
      ⟨.payment, { c with errorMessage := none }, none⟩
  | authorized (c a result) (approved : isApprovedResult result) :
      Moves cartId ⟨.payment, c, a⟩ (.paymentAuthorized result)
        ⟨.processing, { c with paymentResult := some result },
          some ⟨c.sessionId.getD "anonymous", some result, c.cartId⟩⟩
  | unpaid (c a e errorMessage) : Moves cartId ⟨.payment, c, a⟩ e ⟨.cart, { c with errorMessage }, none⟩
  | retry (c a) : Moves cartId ⟨.processingError, c, a⟩ .retry
      ⟨.processing, c, some ⟨c.sessionId.getD "anonymous", c.paymentResult, c.cartId⟩⟩
  | cancel (c a) : Moves cartId ⟨.processingError, c, a⟩ .cancelPayment ⟨.cart, c, none⟩
  | leave (value c a e) (left : value ∈ leavable)
      (asked : e = .returnToAttract ∨ value = .receipt ∨ value = .admin) :
      Moves cartId ⟨value, c, a⟩ e ⟨.attract, c.reset cartId, none⟩
  | admin (value c a) (left : value ∈ administrable) : Moves cartId ⟨value, c, a⟩ .openAdmin
      ⟨.admin, c, none⟩

theorem send_cases (s : Snapshot Item Order) (event : KioskEvent Item Order) (cartId : String) :
    send s event cartId = s ∨ Moves cartId s event (send s event cartId) := by
  obtain ⟨value, c, a⟩ := s
  unfold send
  cases event with
  | networkOffline => exact .inr (by cases value <;> exact .offline _)
  | networkOnline => exact .inr (by cases value <;> exact .online _)
  | setLanguage locale =>
    cases value with
    | languageSelect => exact .inr (.language c a locale)
    | _ => exact .inl rfl
  | startSession sessionId laneMode =>
    cases value with
    | attract => exact .inr (.start c a _ sessionId laneMode (.inl rfl))
    | _ => exact .inl rfl
  | tapStart sessionId laneMode =>
    cases value with
    | attract => exact .inr (.start c a _ sessionId laneMode (.inr rfl))
    | _ => exact .inl rfl
  | selectItem item =>
    cases value with
    | menu => exact .inr (.select c a item)
    | _ => exact .inl rfl
  | closeItemDetail =>
    cases value with
    | itemDetail => exact .inr (.close c a)
    | _ => exact .inl rfl
  | addToCart =>
    cases value with
    | itemDetail => exact .inr (.add c a)
    | _ => exact .inl rfl
  | cartUpdated cartHasItems =>
    cases value with
    | menu => exact .inr (.updated c a cartHasItems)
    | _ => exact .inl rfl
  | goToCart =>
    cases value with
    | menu =>
      cases items : c.cartHasItems with
      | true => simpa [on, Guard.holds, items, enter, entry, invoke] using Moves.toCart c a items
      | false => exact .inl (by simp [on, Guard.holds, items])
    | _ => exact .inl rfl
  | backToMenu =>
    cases value with
    | cart => exact .inr (.back c a)
    | _ => exact .inl rfl
  | proceedToPayment =>
    cases value with
    | cart =>
      cases items : c.cartHasItems with
      | true => simpa [on, Guard.holds, items, enter, entry, invoke, Action.assign] using
        Moves.proceed c a items
      | false => exact .inl (by simp [on, Guard.holds, items])
    | _ => exact .inl rfl
  | paymentAuthorized result =>
    cases value with
    | payment =>
      cases approved : isApprovedResult result with
      | true =>
        simpa [on, Guard.holds, approved, enter, entry, invoke, Action.assign] using
          Moves.authorized c a result approved
      | false => exact .inl (by simp [on, Guard.holds, approved])
    | _ => exact .inl rfl
  | paymentDeclined result =>
    cases value with
    | payment =>
      cases declined : isDeclinedResult result with
      | true =>
        simpa [on, Guard.holds, declined, enter, entry, invoke, Action.assign] using
          Moves.unpaid c a (.paymentDeclined result) (some (declineText result))
      | false => exact .inl (by simp [on, Guard.holds, declined])
    | _ => exact .inl rfl
  | paymentFailed message =>
    cases value with
    | payment => exact .inr (.unpaid c a _ (some message))
    | _ => exact .inl rfl
  | cancelPayment =>
    cases value with
    | payment => exact .inr (.unpaid c a _ c.errorMessage)
    | processingError => exact .inr (.cancel c a)
    | _ => exact .inl rfl
  | orderFinalized order => exact .inl (by cases value <;> rfl)
  | apiError message => exact .inl (by cases value <;> rfl)
  | receiptAcknowledged =>
    cases value with
    | receipt => exact .inr (.leave _ c a _ (by decide) (.inr (.inl rfl)))
    | _ => exact .inl rfl
  | returnToAttract =>
    cases value with
    | languageSelect | attract => exact .inl rfl
    | _ => exact .inr (.leave _ c a _ (by decide) (.inl rfl))
  | openAdmin =>
    cases value with
    | languageSelect | processing | admin => exact .inl rfl
    | _ => exact .inr (.admin _ c a (by decide))
  | closeAdmin =>
    cases value with
    | admin => exact .inr (.leave _ c a _ (by decide) (.inr (.inr rfl)))
    | _ => exact .inl rfl
  | retry =>
    cases value with
    | processingError => exact .inr (.retry c a)
    | _ => exact .inl rfl

end Kiosk.Machine
