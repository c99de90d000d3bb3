import AstraSystem.PaymentSidecar.Api
import AstraSystem.PaymentService.Repository

/-!
# The payment app of the kiosk (`verifoneBridge.ts`, `PaymentApp.tsx`)

The app asks the sidecar at the loopback for an authorization, next to whoever else asks it for anything. While it
waits for the terminal, and when a payment is queued, it shows no buttons.
-/

namespace KioskPayment

open PaymentSidecar

structure InitiatePaymentRequest where
  cartId : String
  amountCents : ℤ
  method : String
  idempotencyKey : String

structure OfflinePaymentToken where
  tokenId : String
  kioskId : String
  cartId : String
  amountCents : ℤ
  currency : String
  method : String
  verifoneOpaqueToken : String
  createdAtMs : ℤ
  expiresAtMs : ℤ
  hmacSignature : String
  synced : Bool
  deriving DecidableEq, Repr

inductive UiPhase where
  | selectMethod
  | awaitingTerminal
  | queuedOffline
  | declined
  deriving DecidableEq, Repr

/-- What `onResult` is given: an answer of the sidecar, as it came, or what the app has made itself. -/
inductive PaymentAuthorizationResult where
  | sidecar (doc : Json)
  | queuedOffline (authorizationId method : String) (amountCents : ℤ)

/-! ## The bridge (`verifoneBridge.ts`) -/

def InitiatePaymentRequest.json (req : InitiatePaymentRequest) : Json :=
  .object [("cartId", .string req.cartId), ("amountCents", .number (Decimal.format req.amountCents)),
    ("method", .string req.method), ("idempotencyKey", .string req.idempotencyKey)]

def InitiatePaymentRequest.http (req : InitiatePaymentRequest) : HttpRequest :=
  ⟨"POST", ["v1", "payments", "initiate"], .json req.json⟩

def unreachable : String := "Verifone sidecar unreachable"

/-- Whatever fails is a `PaymentBridgeError`. -/
def initiatePayment (response : Option HttpResponse) : Except String Json :=
  match response with
  | none => .error unreachable
  | some res =>
    if 200 ≤ res.status ∧ res.status < 300 then
      match res.content with
      | .json doc => .ok doc
      | .empty | .text _ => .error unreachable
    else .error ("Sidecar returned " ++ Decimal.format res.status)

/-- What the browser and the build give to one attempt. -/
structure Env where
  idempotencyKey : String
  /-- The request reaches the sidecar, and its answer the app within 30 seconds. -/
  reachable : Bool
  draws : Draws
  tokenId : String
  pending : String
  now : ℤ
  /-- `VITE_PAYMENT_SYNC_KEY`. -/
  keyFromEnv : Option String
  dev : Bool
  /-- What the daemon answers to `/v1/sync-key`. -/
  keyFromDaemon : Option String
  /-- Something at the daemon's port answers to what is enqueued there. -/
  daemon : Bool

/-- `importDevSyncKey`; an empty text is no key. -/
def Env.syncKey (env : Env) : Option String :=
  (env.keyFromEnv.or (if env.dev then env.keyFromDaemon else none)).filter fun encoded => encoded ≠ ""

structure Cart where
  cartId : String
  kioskId : String
  totalCents : ℤ

/-- `crypto.subtle.sign("HMAC", …)`. -/
abbrev Hmac := List UInt8 → List UInt8 → List UInt8

def canonical (tokenId cartId : String) (amountCents : ℤ) (verifoneOpaqueToken : String) : String :=
  tokenId ++ "|" ++ cartId ++ "|" ++ Decimal.format amountCents ++ "|" ++ verifoneOpaqueToken

def buildOfflineToken (hmac : Hmac) (cart : Cart) (method syncKey : String) (env : Env) : OfflinePaymentToken :=
  let verifoneOpaqueToken := "offline-pending-" ++ env.pending
  { tokenId := env.tokenId
    kioskId := cart.kioskId
    cartId := cart.cartId
    amountCents := cart.totalCents
    currency := "USD"
    method
    verifoneOpaqueToken
    createdAtMs := env.now
    expiresAtMs := env.now + 48 * 60 * 60 * 1000
    hmacSignature := Bytes.hex (hmac (Bytes.utf8 syncKey)
      (Bytes.utf8 (canonical env.tokenId cart.cartId cart.totalCents verifoneOpaqueToken)))
    synced := false }

/-! ## The app (`PaymentApp.tsx`) -/

structure App where
  phase : UiPhase := .selectMethod
  method : String := ""
  /-- The sidecar has taken the request, and waits for the terminal. -/
  taken : Option Env := none
  declineReason : Option String := none
  /-- The calls of `onResult`, and of `onCancel`. -/
  results : List PaymentAuthorizationResult := []
  cancelled : ℕ := 0

/-- The app, the sidecar, and the tokens that have been handed to the daemon's port. -/
structure System where
  app : App := {}
  sidecar : Sidecar
  queue : List OfflinePaymentToken := []

inductive Act where
  | select (method : String)
  /-- The sidecar is asked, and what follows if it answers at once. -/
  | conclude (env : Env)
  /-- The sidecar answers when it is through with the terminal. -/
  | answer (i : ℕ)
  | tryAnother
  | cancel
  /-- Others come to the sidecar. -/
  | other (a : PaymentSidecar.Act)

/-- A member of a document; of a null it cannot be read. -/
def member (doc : Json) (name : String) : Option Json :=
  match doc with
  | .object fields => Json.field? fields name
  | _ => none

def declinedByDefault : String := "Card declined. Please try another method."

/-- `result.declineReason ?? …`. -/
def declineReason (doc : Json) : String :=
  match member doc "declineReason" with
  | some (.string reason) => reason
  | _ => declinedByDefault

def unexpected : String := "An unexpected error occurred. Please try again."

/-- Without a key the attempt ends there; a daemon that cannot be reached is passed over. -/
def queueOffline (hmac : Hmac) (cart : Cart) (s : System) (env : Env) : System :=
  let app := { s.app with phase := .queuedOffline }
  match env.syncKey with
  | none => { s with app }
  | some syncKey =>
    let token := buildOfflineToken hmac cart s.app.method syncKey env
    { s with
      app := { app with results := app.results ++ [.queuedOffline token.tokenId s.app.method cart.totalCents] }
      queue := if env.daemon then s.queue ++ [token] else s.queue }

/-- What the app makes of the sidecar's answer. -/
def conclude (hmac : Hmac) (cart : Cart) (s : System) (env : Env) (response : Option HttpResponse) : System :=
  match initiatePayment response with
  | .error _ => queueOffline hmac cart s env
  | .ok .null => { s with app := { s.app with phase := .declined, declineReason := some unexpected } }
  | .ok doc =>
    match member doc "status" with
    | some (.string "declined") =>
      { s with app := { s.app with phase := .declined, declineReason := some (declineReason doc) } }
    | _ => { s with app := { s.app with results := s.app.results ++ [.sidecar doc] } }

/-- `handleSelectMethod`, as far as it comes without the terminal. -/
def System.ask (hmac : Hmac) (cart : Cart) (s : System) (env : Env) : System :=
  let req : InitiatePaymentRequest := ⟨cart.cartId, cart.totalCents, s.app.method, env.idempotencyKey⟩
  let asked := s.sidecar.request req.http env.draws
  if env.reachable then
    match asked.2 with
    | some response => conclude hmac cart { s with sidecar := asked.1 } env (some response)
    | none => { s with sidecar := asked.1, app := { s.app with taken := some env } }
  else conclude hmac cart s env none

def System.answer (hmac : Hmac) (cart : Cart) (s : System) (i : ℕ) : System :=
  match s.app.taken, s.sidecar.waiting[i]? with
  | some env, some w =>
    if w.token.transactionID = env.draws.transactionID then
      conclude hmac cart { s with sidecar := (s.sidecar.finish i).1, app := { s.app with taken := none } } env
        (s.sidecar.finish i).2
    else s
  | _, _ => s

def System.step (hmac : Hmac) (cart : Cart) (s : System) : Act → System
  | .select method =>
    if s.app.phase = .selectMethod then { s with app := { s.app with phase := .awaitingTerminal, method } } else s
  | .conclude env => if s.app.phase = .awaitingTerminal ∧ s.app.taken = none then s.ask hmac cart env else s
  | .answer i => if s.app.phase = .awaitingTerminal then s.answer hmac cart i else s
  | .tryAnother => if s.app.phase = .declined then { s with app := { s.app with phase := .selectMethod } } else s
  | .cancel =>
    if s.app.phase = .selectMethod ∨ s.app.phase = .declined then
      { s with app := { s.app with cancelled := s.app.cancelled + 1 } }
    else s
  | .other a => { s with sidecar := s.sidecar.step a }

end KioskPayment

/-! ## What the sidecar reads of a request -/

namespace PaymentSidecar.InitiateRequest

theorem foldlM_visit {fields : Json.Fields} (absent : ∀ f ∈ fields, f.1 ≠ "cart_id") {p p' : Partial}
    (h : fields.foldlM visit p = .ok p') : p'.cartID = p.cartID := by
  induction fields generalizing p with
  | nil =>
    cases h
    rfl
  | cons f fields ih =>
    rw [List.forall_mem_cons] at absent
    rw [List.foldlM_cons] at h
    obtain ⟨mid, first, rest⟩ := Statement.bind_eq_ok.mp h
    rw [ih absent.2 rest]
    unfold visit at first
    rw [if_neg absent.1] at first
    split at first
    · obtain ⟨_, -, rfl⟩ := Statement.map_eq_ok.mp first
      rfl
    split at first
    · obtain ⟨_, -, rfl⟩ := Statement.map_eq_ok.mp first
      rfl
    split at first
    · obtain ⟨_, -, rfl⟩ := Statement.map_eq_ok.mp first
      rfl
    split at first
    · obtain ⟨_, -, rfl⟩ := Statement.map_eq_ok.mp first
      rfl
    · cases first
      rfl

/-- A cart has to be named by `cart_id`. -/
theorem refused {fields : Json.Fields} (absent : ∀ f ∈ fields, f.1 ≠ "cart_id") :
    ∃ err, deserialize (.object fields) = .error err := by
  rw [deserialize]
  cases read : fields.foldlM visit {} with
  | error err => exact ⟨err, rfl⟩
  | ok p =>
    have none : p.cartID = none := foldlM_visit absent read
    refine ⟨"missing field cart_id", ?_⟩
    show finish p = _
    rw [finish, none]

end PaymentSidecar.InitiateRequest

namespace KioskPayment

open PaymentSidecar

variable {hmac : Hmac} {cart : Cart} {s : System} {env : Env}

/-- The app names the cart otherwise, and is refused. -/
theorem request_refused (sidecar : Sidecar) (req : InitiatePaymentRequest) (d : Draws) :
    ∃ text, sidecar.request req.http d = (sidecar, some ⟨422, .text text⟩) := by
  obtain ⟨err, read⟩ : ∃ err, InitiateRequest.deserialize req.json = .error err :=
    InitiateRequest.refused (by simp)
  refine ⟨"Failed to deserialize the JSON body into the target type: " ++ err, ?_⟩
  simp [Sidecar.request, InitiatePaymentRequest.http, route, extract, read, Except.mapError]

theorem ask_eq (s : System) (env : Env) : s.ask hmac cart env = queueOffline hmac cart s env := by
  unfold System.ask
  obtain ⟨text, answer⟩ := request_refused s.sidecar ⟨cart.cartId, cart.totalCents, s.app.method, env.idempotencyKey⟩
    env.draws
  cases env.reachable with
  | false => rfl
  | true =>
    simp only [answer, if_true]
    rfl

/-- The requests of the others. -/
def Act.other? : Act → Option PaymentSidecar.Act
  | .other a => some a
  | .select _ | .conclude _ | .answer _ | .tryAnother | .cancel => none

theorem queueOffline_sidecar (s : System) (env : Env) : (queueOffline hmac cart s env).sidecar = s.sidecar := by
  unfold queueOffline
  split <;> rfl

/-- Where the request of an attempt goes. -/
def Act.found? : Act → Option Env
  | .conclude env => some env
  | .select _ | .answer _ | .tryAnother | .cancel | .other _ => none

/-- The method that is chosen first, and what its attempt finds, once it is made. -/
def attempt : List Act → Option (String × Option Env)
  | [] => none
  | .select method :: acts => some (method, acts.findSome? Act.found?)
  | .conclude _ :: acts | .answer _ :: acts | .tryAnother :: acts | .cancel :: acts | .other _ :: acts => attempt acts

/-- One more act begins the attempt, makes it, or leaves it. -/
theorem attempt_concat (acts : List Act) (a : Act) : attempt (acts ++ [a]) =
    match attempt acts with
    | none => attempt [a]
    | some (method, found) => some (method, found.or a.found?) := by
  induction acts with
  | nil => rfl
  | cons b acts ih =>
    cases b with
    | select method =>
      simp only [List.cons_append, attempt, List.findSome?_append]
      cases a <;> rfl
    | conclude env | answer i | tryAnother | cancel | other b => exact ih

/-- How far the app has come with an attempt. -/
def Stands (hmac : Hmac) (cart : Cart) (s : System) : Option (String × Option Env) → Prop
  | none => s.app.phase = .selectMethod ∧ s.app.results = [] ∧ s.queue = []
  | some (_, none) => s.app.phase = .awaitingTerminal ∧ s.app.results = [] ∧ s.queue = []
  | some (method, some env) => s.app.phase = .queuedOffline ∧
      s.app.results = (env.syncKey.toList.map fun _ => .queuedOffline env.tokenId method cart.totalCents) ∧
      s.queue = if env.daemon then env.syncKey.toList.map fun key => buildOfflineToken hmac cart method key env else []

/-- The sidecar is as the others leave it, no payment of the app waits there, and the app is where its attempt is. -/
structure Inv (hmac : Hmac) (cart : Cart) (sidecar : Sidecar) (acts : List Act) (s : System) : Prop where
  sidecar : s.sidecar = Runs.run Sidecar.step sidecar (acts.filterMap Act.other?)
  taken : s.app.taken = none
  method : ∀ method, attempt acts = some (method, none) → s.app.method = method
  stands : Stands hmac cart s (attempt acts)

section
variable {sidecar : Sidecar} {acts : List Act}

theorem others_concat {a : Act} (others : a.other? = none) :
    (acts ++ [a]).filterMap Act.other? = acts.filterMap Act.other? := by
  rw [List.filterMap_append, List.filterMap_cons_none others, List.filterMap_nil, List.append_nil]

/-- An act that neither begins nor makes the attempt, and leaves what is seen of the app. -/
theorem Inv.keep (h : Inv hmac cart sidecar acts s) {a : Act} {s' : System} (others : a.other? = none)
    (same : attempt (acts ++ [a]) = attempt acts) (sidecar_eq : s'.sidecar = s.sidecar) (queue : s'.queue = s.queue)
    (app : ∃ cancelled, s'.app = { s.app with cancelled }) : Inv hmac cart sidecar (acts ++ [a]) s' := by
  obtain ⟨cancelled, app⟩ := app
  refine ⟨?_, ?_, ?_, ?_⟩
  · rw [sidecar_eq, h.sidecar, others_concat others]
  · rw [app]
    exact h.taken
  · rw [same, app]
    exact h.method
  · rw [same]
    have stands := h.stands
    revert stands
    cases attempt acts with
    | none => simp [Stands, app, queue]
    | some chosen => rcases chosen with ⟨m, _ | env⟩ <;> simp [Stands, app, queue]

theorem Inv.select (h : Inv hmac cart sidecar acts s) (method : String) :
    Inv hmac cart sidecar (acts ++ [Act.select method]) (s.step hmac cart (.select method)) := by
  have stands := h.stands
  have after := attempt_concat acts (.select method)
  rw [System.step]
  cases before : attempt acts with
  | none =>
    rw [before] at after stands
    obtain ⟨phase, results, queue⟩ := stands
    have begun : attempt (acts ++ [Act.select method]) = some (method, none) := after
    rw [if_pos phase]
    refine ⟨?_, h.taken, ?_, ?_⟩
    · rw [others_concat rfl]
      exact h.sidecar
    · intro m hm
      rw [begun] at hm
      cases hm
      rfl
    · rw [begun]
      exact ⟨rfl, results, queue⟩
  | some chosen =>
    obtain ⟨m, found⟩ := chosen
    rw [before] at after stands
    have same : attempt (acts ++ [Act.select method]) = attempt acts := by
      rw [after, before]
      exact congrArg (fun found => some (m, found)) Option.or_none
    have phase : s.app.phase ≠ .selectMethod := by
      cases found with
      | none =>
        rw [stands.1]
        decide
      | some env =>
        rw [stands.1]
        decide
    rw [if_neg phase]
    exact h.keep rfl same rfl rfl ⟨_, rfl⟩

/-- The attempt is made: whatever the sidecar answers, the payment is queued. -/
theorem Inv.conclude (h : Inv hmac cart sidecar acts s) (env : Env) :
    Inv hmac cart sidecar (acts ++ [Act.conclude env]) (s.step hmac cart (.conclude env)) := by
  have stands := h.stands
  have after := attempt_concat acts (.conclude env)
  rw [System.step]
  cases before : attempt acts with
  | none =>
    rw [before] at after stands
    have same : attempt (acts ++ [Act.conclude env]) = attempt acts := after.trans before.symm
    rw [if_neg (by simp [stands.1])]
    exact h.keep rfl same rfl rfl ⟨_, rfl⟩
  | some chosen =>
    obtain ⟨m, _ | made⟩ := chosen
    · rw [before] at after stands
      obtain ⟨phase, results, queue⟩ := stands
      have chose : s.app.method = m := h.method m before
      have ended : attempt (acts ++ [Act.conclude env]) = some (m, some env) := after
      rw [if_pos ⟨phase, h.taken⟩, ask_eq]
      refine ⟨?_, ?_, ?_, ?_⟩
      · rw [queueOffline_sidecar, others_concat rfl]
        exact h.sidecar
      · unfold queueOffline
        split <;> exact h.taken
      · intro m' hm
        rw [ended] at hm
        cases hm
      · rw [ended]
        unfold queueOffline
        cases key : env.syncKey with
        | none => exact ⟨rfl, by simp [results, key], by simp [queue, key]⟩
        | some syncKey =>
          refine ⟨rfl, by simp [results, key, chose, buildOfflineToken], ?_⟩
          simp [queue, key, chose]
    · rw [before] at after stands
      have same : attempt (acts ++ [Act.conclude env]) = attempt acts := after.trans before.symm
      rw [if_neg (by simp [stands.1])]
      exact h.keep rfl same rfl rfl ⟨_, rfl⟩

theorem Inv.step (h : Inv hmac cart sidecar acts s) (a : Act) :
    Inv hmac cart sidecar (acts ++ [a]) (s.step hmac cart a) := by
  have stays (idle : a.found? = none) (later : attempt [a] = none) : attempt (acts ++ [a]) = attempt acts := by
    rw [attempt_concat, idle, later]
    cases attempt acts with
    | none => rfl
    | some chosen => exact congrArg (fun found => some (chosen.1, found)) Option.or_none
  have undeclined : s.app.phase ≠ .declined := by
    have stands := h.stands
    revert stands
    cases attempt acts with
    | none => simp +contextual [Stands]
    | some chosen => rcases chosen with ⟨m, _ | env⟩ <;> simp +contextual [Stands]
  cases a with
  | select method => exact h.select method
  | conclude env => exact h.conclude env
  | answer i =>
    have same : s.step hmac cart (.answer i) = s := by
      rw [System.step, System.answer, h.taken]
      exact ite_self _
    rw [same]
    exact h.keep rfl (stays rfl rfl) rfl rfl ⟨_, rfl⟩
  | tryAnother =>
    rw [System.step, if_neg undeclined]
    exact h.keep rfl (stays rfl rfl) rfl rfl ⟨_, rfl⟩
  | cancel =>
    rw [System.step]
    split <;> exact h.keep rfl (stays rfl rfl) rfl rfl ⟨_, rfl⟩
  | other a =>
    refine ⟨?_, h.taken, ?_, ?_⟩
    · rw [System.step, h.sidecar]
      simp [Act.other?, Runs.run_append]
    · rw [stays rfl rfl]
      exact h.method
    · rw [stays rfl rfl]
      exact h.stands

end

theorem inv_run (hmac : Hmac) (cart : Cart) (sidecar : Sidecar) (acts : List Act) :
    Inv hmac cart sidecar acts (Runs.run (System.step hmac cart) { sidecar } acts) := by
  induction acts using List.reverseRecOn with
  | nil => exact ⟨rfl, rfl, fun _ h => (by cases h), rfl, rfl, rfl⟩
  | append_singleton acts a ih =>
    rw [Runs.run_concat]
    exact ih.step a

end KioskPayment
