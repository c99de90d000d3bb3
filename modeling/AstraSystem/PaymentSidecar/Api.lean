import AstraSystem.PaymentSidecar.Terminal

/-!
# The API of the payment sidecar (`api.rs`)

Requests come in any order and are answered as the terminal stands then. An authorization takes the lock of the
terminal twice, and others may come in between.
-/

namespace PaymentSidecar

/-! ## Messages -/

/-- What the body of a request is read as. -/
inductive Body where
  | tooLarge
  | notJson
  | malformed
  | json (doc : Json)

structure HttpRequest where
  method : String
  path : List String
  body : Body := .notJson

/-- The body of an answer is empty, a text or a document. -/
inductive Content where
  | empty
  | text (s : String)
  | json (doc : Json)

structure HttpResponse where
  status : ℕ
  content : Content := .empty

structure InitiateRequest where
  cartID : String
  amountCents : ℕ
  method : String
  currency : String
  idempotencyKey : Option String
  deriving DecidableEq, Repr

/-- The fields that were met so far. -/
structure InitiateRequest.Partial where
  cartID : Option String := none
  amountCents : Option ℕ := none
  method : Option String := none
  currency : Option String := none
  idempotencyKey : Option (Option String) := none

namespace Serde

def string : Json → Except String String
  | .string s => .ok s
  | _ => .error "invalid type, expected a string"

/-- Digits alone: fractions, exponents and signs make a number a float. -/
def u64 : Json → Except String ℕ
  | .number literal =>
    match literal.toList.all Char.isDigit, Decimal.parse literal with
    | true, some n => if n < 2 ^ 64 then .ok n.toNat else .error "invalid type, expected u64"
    | _, _ => .error "invalid type, expected u64"
  | _ => .error "invalid type, expected u64"

def option (read : Json → Except String String) : Json → Except String (Option String)
  | .null => .ok none
  | doc => (read doc).map some

/-- A field is met once. -/
def once {α : Type} (name : String) (old : Option α) (new : Except String α) : Except String (Option α) :=
  if old.isSome then .error ("duplicate field " ++ name) else new.map some

end Serde

namespace InitiateRequest

def visit (p : Partial) (f : String × Json) : Except String Partial :=
  if f.1 = "cart_id" then
    (Serde.once "cart_id" p.cartID (Serde.string f.2)).map fun cartID => { p with cartID }
  else if f.1 = "amount_cents" then
    (Serde.once "amount_cents" p.amountCents (Serde.u64 f.2)).map fun amountCents => { p with amountCents }
  else if f.1 = "method" then
    (Serde.once "method" p.method (Serde.string f.2)).map fun method => { p with method }
  else if f.1 = "currency" then
    (Serde.once "currency" p.currency (Serde.string f.2)).map fun currency => { p with currency }
  else if f.1 = "idempotency_key" then
    (Serde.once "idempotency_key" p.idempotencyKey (Serde.option Serde.string f.2)).map fun idempotencyKey =>
      { p with idempotencyKey }
  else .ok p

def finish (p : Partial) : Except String InitiateRequest :=
  match p.cartID, p.amountCents with
  | none, _ => .error "missing field cart_id"
  | some _, none => .error "missing field amount_cents"
  | some cartID, some amountCents => .ok {
      cartID, amountCents
      method := p.method.getD "credit_debit"
      currency := p.currency.getD "USD"
      idempotencyKey := p.idempotencyKey.getD none }

/-- A list is read field by field, in the order of the structure. -/
def names : List String := ["cart_id", "amount_cents", "method", "currency", "idempotency_key"]

def deserialize : Json → Except String InitiateRequest
  | .object fields => fields.foldlM visit {} >>= finish
  | .array xs =>
    if names.length < xs.length then .error "trailing characters" else (names.zip xs).foldlM visit {} >>= finish
  | _ => .error "invalid type, expected struct InitiateRequest"

end InitiateRequest

/-! ## Answers -/

def AuthorizationStatus.string : AuthorizationStatus → String
  | authorized => "authorized"
  | declined => "declined"
  | cancelled => "cancelled"
  | pending => "pending"
  | networkError => "networkerror"

def optional : Option String → Json
  | some s => .string s
  | none => .null

def mapResult (r : AuthorizationResult) (idempotencyKey : Option String) : Json :=
  .object [("authorization_id", .string r.authorizationID), ("status", .string r.status.string),
    ("amount_cents", .number (Decimal.format r.amountCents)), ("method", .string r.method),
    ("approval_code", optional r.approvalCode), ("decline_reason", optional r.declineReason),
    ("card_brand", optional r.cardBrand), ("card_last_four", optional r.cardLastFour),
    ("receipt_text", optional r.receiptText), ("opaque_token", .string r.opaqueToken),
    ("idempotency_key", optional idempotencyKey)]

def PaymentError.intoResponse : PaymentError → HttpResponse
  | .invalidRequest msg => ⟨400, .json (.object [("error", .string msg)])⟩
  | .terminal msg => ⟨502, .json (.object [("error", .string msg)])⟩
  | .internal msg => ⟨500, .json (.object [("error", .string msg)])⟩

def respond (r : Except PaymentError AuthorizationResult) (idempotencyKey : Option String) : HttpResponse :=
  match r with
  | .ok r => ⟨200, .json (mapResult r idempotencyKey)⟩
  | .error err => err.intoResponse

/-- The extractor of the body. -/
def extract : Body → Except HttpResponse InitiateRequest
  | .tooLarge => .error ⟨413, .text "length limit exceeded"⟩
  | .notJson => .error ⟨415, .text "Expected request with Content-Type: application/json"⟩
  | .malformed => .error ⟨400, .text "Failed to parse the request body as JSON"⟩
  | .json doc => (InitiateRequest.deserialize doc).mapError fun err =>
      ⟨422, .text ("Failed to deserialize the JSON body into the target type: " ++ err)⟩

/-! ## Steps -/

/-- An authorization between its two locks. -/
structure Waiting where
  req : InitiateRequest
  token : VerifoneOpaqueToken

structure Sidecar where
  terminal : SimTerminal
  waiting : List Waiting := []

inductive Route where
  | healthz
  | initiate
  | status (authorizationID : String)
  | cancel (authorizationID : String)
  /-- `CorsLayer` answers it before there is a route. -/
  | preflight
  | methodNotAllowed
  | notFound
  deriving DecidableEq, Repr

def route (method : String) (path : List String) : Route :=
  if method = "OPTIONS" then .preflight
  else match path with
    | ["healthz"] => if method = "GET" ∨ method = "HEAD" then .healthz else .methodNotAllowed
    | ["v1", "payments", "initiate"] => if method = "POST" then .initiate else .methodNotAllowed
    | ["v1", "payments", authorizationID, "status"] =>
      if method = "GET" ∨ method = "HEAD" then .status authorizationID else .methodNotAllowed
    | ["v1", "payments", authorizationID, "cancel"] =>
      if method = "POST" then .cancel authorizationID else .methodNotAllowed
    | _ => .notFound

inductive Act where
  | request (req : HttpRequest) (d : Draws)
  /-- The second lock of an authorization. -/
  | finish (i : ℕ)

namespace Sidecar

def request (s : Sidecar) (req : HttpRequest) (d : Draws) : Sidecar × Option HttpResponse :=
  match route req.method req.path with
  | .healthz => (s, some ⟨200, .empty⟩)
  | .initiate =>
    match extract req.body with
    | .error response => (s, some response)
    | .ok r =>
      ({ terminal := (s.terminal.initiate r.amountCents r.currency d).1
         waiting := s.waiting ++ [⟨r, (s.terminal.initiate r.amountCents r.currency d).2⟩] }, none)
  | .status authorizationID => (s, some (respond (s.terminal.statusResult authorizationID d.now) none))
  | .cancel authorizationID =>
    ({ s with terminal := (s.terminal.cancel authorizationID).1 },
      some (match (s.terminal.cancel authorizationID).2 with
        | .ok () => ⟨204, .empty⟩
        | .error err => err.intoResponse))
  | .preflight => (s, some ⟨200, .empty⟩)
  | .methodNotAllowed => (s, some ⟨405, .empty⟩)
  | .notFound => (s, some ⟨404, .empty⟩)

def finish (s : Sidecar) (i : ℕ) : Sidecar × Option HttpResponse :=
  match s.waiting[i]? with
  | none => (s, none)
  | some w =>
    ({ s with waiting := s.waiting.eraseIdx i },
      some (respond ((s.terminal.status w.token.transactionID).map
        (buildResult w.token.transactionID w.req.method w.req.amountCents w.token)) w.req.idempotencyKey))

def serve (s : Sidecar) : Act → Sidecar × Option HttpResponse
  | .request req d => s.request req d
  | .finish i => s.finish i

def step (s : Sidecar) (a : Act) : Sidecar := (s.serve a).1

end Sidecar

/-- What the request asks the terminal to authorize. -/
def Act.initiates : Act → Option (InitiateRequest × Draws)
  | .request req d =>
    match route req.method req.path, extract req.body with
    | .initiate, .ok r => some (r, d)
    | _, _ => none
  | .finish _ => none

def Act.cancels (id : String) : Act → Bool
  | .request req _ => route req.method req.path = .cancel id
  | .finish _ => false

/-- Ids are drawn once. -/
def Fresh (s : Sidecar) (a : Act) : Prop :=
  ∀ r d, a.initiates = some (r, d) → s.terminal.transactions.lookup d.transactionID = none

/-! ## The life of an authorization -/

namespace Sidecar

variable {s : Sidecar} {a : Act} {acts : List Act} {id : String} {state : SimState} {r : InitiateRequest} {d : Draws}

theorem terminal_request (s : Sidecar) (req : HttpRequest) (d : Draws) : (s.request req d).1.terminal =
    match route req.method req.path, extract req.body with
    | .initiate, .ok r => (s.terminal.initiate r.amountCents r.currency d).1
    | .cancel id, _ => (s.terminal.cancel id).1
    | _, _ => s.terminal := by
  unfold request
  cases route req.method req.path <;> cases extract req.body <;> rfl

theorem terminal_finish (s : Sidecar) (i : ℕ) : (s.finish i).1.terminal = s.terminal := by
  unfold finish
  cases s.waiting[i]? <;> rfl

/-- What a step makes of an authorization that there is. -/
theorem lookup_step (fresh : Fresh s a) (held : s.terminal.transactions.lookup id = some state) :
    (s.step a).terminal.transactions.lookup id = some (if a.cancels id then state.cancel else state) := by
  cases a with
  | finish i => simpa [step, serve, terminal_finish, Act.cancels] using held
  | request req d =>
    rw [step, serve, terminal_request]
    unfold Fresh Act.initiates at fresh
    unfold Act.cancels
    cases path : route req.method req.path with
    | cancel other => simp [path, SimTerminal.lookup_cancel, held, eq_comm]
    | initiate =>
      cases read : extract req.body with
      | error => simpa [path] using held
      | ok r =>
        have absent := fresh r d (by simp [path, read])
        have other : id ≠ d.transactionID := by
          rintro rfl
          cases held.symm.trans absent
        simp [path, SimTerminal.lookup_initiate, other, held]
    | healthz | status | preflight | methodNotAllowed | notFound => simpa [path] using held

theorem lookup_run (fresh : Runs.EachStep step Fresh s acts)
    (held : s.terminal.transactions.lookup id = some state) :
    (Runs.run step s acts).terminal.transactions.lookup id =
      some (if acts.any (Act.cancels id) then state.cancel else state) := by
  induction acts generalizing s state with
  | nil => simpa using held
  | cons a acts ih =>
    rw [Runs.run_cons, ih fresh.2 (lookup_step fresh.1 held), List.any_cons]
    cases a.cancels id <;> cases acts.any (Act.cancels id) <;> simp [SimState.cancel_cancel]

theorem step_initiates (made : a.initiates = some (r, d)) : s.step a =
    { terminal := (s.terminal.initiate r.amountCents r.currency d).1
      waiting := s.waiting ++ [⟨r, (s.terminal.initiate r.amountCents r.currency d).2⟩] } := by
  cases a with
  | finish i => cases made
  | request req d =>
    unfold Act.initiates at made
    cases path : route req.method req.path <;> cases read : extract req.body <;> simp [path, read] at made
    obtain ⟨rfl, rfl⟩ := made
    simp only [step, serve, request, path, read]

theorem length_step (fresh : Fresh s a) : (s.step a).terminal.transactions.entries.length =
    s.terminal.transactions.entries.length + if a.initiates.isSome then 1 else 0 := by
  cases made : a.initiates with
  | some rd =>
    obtain ⟨r, d⟩ := rd
    rw [step_initiates made]
    exact SimTerminal.length_initiate (fresh r d made) r.amountCents r.currency d rfl
  | none =>
    cases a with
    | finish i => rw [step, serve, terminal_finish]; rfl
    | request req d =>
      rw [step, serve, terminal_request]
      unfold Act.initiates at made
      cases path : route req.method req.path with
      | cancel id => exact SimTerminal.length_cancel s.terminal id
      | initiate =>
        cases read : extract req.body with
        | error => rfl
        | ok r => simp [path, read] at made
      | healthz | status | preflight | methodNotAllowed | notFound => rfl

/-- One transaction for each authorization that was asked for, whatever their idempotency keys. -/
theorem transactions_counted (fresh : Runs.EachStep step Fresh s acts) :
    (Runs.run step s acts).terminal.transactions.entries.length =
      s.terminal.transactions.entries.length + acts.countP fun a => a.initiates.isSome := by
  induction acts generalizing s with
  | nil => rfl
  | cons a acts ih =>
    rw [Runs.run_cons, ih fresh.2, length_step fresh.1, List.countP_cons]
    omega

/-- What is told of an authorization: the amount has decided, and a cancellation ends it unless it was declined. -/
def stands (r : InitiateRequest) (d : Draws) (after : List Act) : SimState :=
  let decided := SimTerminal.outcome r.amountCents d
  if after.any (Act.cancels d.transactionID) then decided.cancel else decided

theorem lookup_initiated {before after : List Act} (made : a.initiates = some (r, d))
    (fresh : Runs.EachStep step Fresh s (before ++ a :: after)) :
    (Runs.run step s (before ++ a :: after)).terminal.transactions.lookup d.transactionID =
      some (stands r d after) := by
  rw [Runs.run_append, Runs.run_cons]
  apply lookup_run (Runs.eachStep_append.mp fresh).2.2
  rw [step_initiates made, SimTerminal.lookup_initiate, if_pos rfl]

/-! ## Answers -/

def new (uri : String) : Sidecar := { terminal := { uri } }

/-- The authorization that a request makes. -/
def waits (uri : String) (r : InitiateRequest) (d : Draws) : Waiting :=
  ⟨r, ⟨d.transactionID, d.reference, uri, d.now⟩⟩

theorem uri_step (s : Sidecar) (a : Act) : (s.step a).terminal.uri = s.terminal.uri := by
  cases a with
  | finish i => rw [step, serve, terminal_finish]
  | request req d =>
    rw [step, serve, terminal_request]
    cases route req.method req.path with
    | cancel id =>
      dsimp only [SimTerminal.cancel]
      split <;> rfl
    | initiate => cases extract req.body <;> rfl
    | healthz | status | preflight | methodNotAllowed | notFound => rfl

theorem mem_waiting_step {w : Waiting} (h : w ∈ (s.step a).waiting) :
    w ∈ s.waiting ∨ ∃ r d, a.initiates = some (r, d) ∧ w = waits s.terminal.uri r d := by
  cases made : a.initiates with
  | some rd =>
    obtain ⟨r, d⟩ := rd
    rw [step_initiates made, List.mem_append, List.mem_singleton] at h
    exact h.imp_right fun own => ⟨r, d, rfl, own⟩
  | none =>
    left
    cases a with
    | finish i =>
      rw [step, serve, finish] at h
      cases found : s.waiting[i]? with
      | none => simpa [found] using h
      | some w' =>
        rw [found] at h
        exact List.mem_of_mem_eraseIdx h
    | request req d =>
      unfold Act.initiates at made
      rw [step, serve, request] at h
      cases path : route req.method req.path with
      | initiate =>
        cases read : extract req.body with
        | error => simpa [path, read] using h
        | ok r => simp [path, read] at made
      | healthz | status | cancel | preflight | methodNotAllowed | notFound => simpa [path] using h

/-- Whoever waits has a transaction, and of one there is nobody but `own` who waits for it. -/
structure Sole (own : Waiting) (s : Sidecar) : Prop where
  uri : s.terminal.uri = own.token.terminalURI
  known : (s.terminal.transactions.lookup own.token.transactionID).isSome
  only : ∀ w ∈ s.waiting, w.token.transactionID = own.token.transactionID → w = own

def Known (uri : String) (s : Sidecar) : Prop :=
  s.terminal.uri = uri ∧ ∀ w ∈ s.waiting, (s.terminal.transactions.lookup w.token.transactionID).isSome

theorem isSome_step (fresh : Fresh s a) (held : (s.terminal.transactions.lookup id).isSome) :
    ((s.step a).terminal.transactions.lookup id).isSome := by
  obtain ⟨state, found⟩ := Option.isSome_iff_exists.mp held
  rw [lookup_step fresh found]
  rfl

theorem Known.step {uri : String} (h : Known uri s) (fresh : Fresh s a) : Known uri (s.step a) := by
  constructor
  · rw [uri_step]
    exact h.1
  · intro w hw
    obtain old | ⟨r, d, made, rfl⟩ := mem_waiting_step hw
    · exact isSome_step fresh (h.2 w old)
    · rw [step_initiates made, waits, SimTerminal.lookup_initiate, if_pos rfl]
      rfl

theorem Sole.step {own : Waiting} (h : Sole own s) (fresh : Fresh s a) : Sole own (s.step a) where
  uri := (uri_step s a).trans h.uri
  known := isSome_step fresh h.known
  only := by
    intro w hw same
    obtain old | ⟨r, d, made, rfl⟩ := mem_waiting_step hw
    · exact h.only w old same
    · have absent := fresh r d made
      have known := h.known
      rw [← same, waits, absent] at known
      cases known

theorem Known.sole {uri : String} (h : Known uri s) (fresh : Fresh s a) (made : a.initiates = some (r, d)) :
    Sole (waits uri r d) (s.step a) where
  uri := (uri_step s a).trans h.1
  known := by
    rw [step_initiates made, waits, SimTerminal.lookup_initiate, if_pos rfl]
    rfl
  only := by
    intro w hw same
    obtain old | ⟨r', d', made', rfl⟩ := mem_waiting_step hw
    · have known := h.2 w old
      rw [same, waits, fresh r d made] at known
      cases known
    · cases made.symm.trans made'
      rw [h.1]

def lunch : Act := .request ⟨"POST", ["v1", "payments", "initiate"],
  .json (.object [("cart_id", .string "c1"), ("amount_cents", .number "1250")])⟩ ⟨"t1", "0a", "7f", "4242", "12:00"⟩

def refusal : Act := .request ⟨"POST", ["v1", "payments", "t1", "cancel"], .notJson⟩ ⟨"", "", "", "", "12:01"⟩

end Sidecar

end PaymentSidecar
