import AstraSystem.PaymentOrchestrator.StateMachine
import AstraSystem.PaymentSidecar.Api

/-!
# The orchestrator at the sidecar (`client/verifone.go`, `client/http.go`)

Where no gRPC address is configured the Verifone gateway is the HTTP address of the sidecar. Calls of the
orchestrator, and of whoever else comes to the sidecar, interleave.
-/

namespace PaymentOrchestrator

open PaymentSidecar (Sidecar HttpRequest HttpResponse Content Draws)

/-! ## The transport -/

structure HttpAuthorizeRequest where
  paymentID : String
  orderID : String
  kioskID : String
  amountCents : Int64
  currency : String
  method : String

def HttpAuthorizeRequest.json (r : HttpAuthorizeRequest) : Json :=
  .object [("payment_id", .string r.paymentID), ("order_id", .string r.orderID), ("kiosk_id", .string r.kioskID),
    ("amount_cents", .number (Decimal.format r.amountCents.toInt)), ("currency", .string r.currency),
    ("method", .string r.method)]

/-- The body of a capture or a settlement: a map, whose keys are written in order. -/
def movePayload (paymentID verifoneToken : String) : Json :=
  .object [("payment_id", .string paymentID), ("verifone_token", .string verifoneToken)]

/-- What `encoding/json` reads of an answer, and how its text is shown. -/
structure Reader where
  unmarshal : Content → Except String AuthorizeResponse
  text : Content → String

/-- The network between the two: what the client reports when no answer arrives. -/
structure Net where
  fault : Option String := none
  /-- The request had arrived all the same. -/
  arrived : Bool := false
  draws : Draws

def postRequest (path : String) (payload : Json) : HttpRequest := ⟨"POST", ["v1", path], .json payload⟩

/-- `httpTransport.post`; an answer that waits for the terminal does not come within 30 seconds. -/
def post (reader : Reader) (net : Net) (response : Option HttpResponse) : Except String AuthorizeResponse :=
  match net.fault, response with
  | some err, _ => .error ("verifone http: do request: " ++ err)
  | none, none => .error "verifone http: do request: context deadline exceeded"
  | none, some resp =>
    if 400 ≤ resp.status then
      .error ("verifone http: HTTP " ++ Decimal.format resp.status ++ ": " ++ reader.text resp.content)
    else (reader.unmarshal resp.content).mapError ("verifone http: unmarshal response: " ++ ·)

/-- What becomes of the sidecar, and what the client is told. -/
def Net.send (reader : Reader) (net : Net) (s : Sidecar) (path : String) (payload : Json) :
    Sidecar × Except String AuthorizeResponse :=
  let served := s.request (postRequest path payload) net.draws
  (if net.fault.isNone ∨ net.arrived then served.1 else s, post reader net served.2)

/-- A capture or a settlement, and the status that it has to be answered with. -/
def Op.path : Op → String
  | .capturePayment => "capture"
  | .refundPayment | .settlePayment => "settle"

def Op.done : Op → String
  | .capturePayment => "CAPTURED"
  | .refundPayment | .settlePayment => "SETTLED"

/-- What fails of a capture or a settlement. -/
def Op.fault (op : Op) (answer : Except String AuthorizeResponse) : Option String :=
  match answer with
  | .error err => some err
  | .ok resp =>
    if resp.status ≠ "APPROVED" ∧ resp.status ≠ op.done then
      some ("verifone: " ++ op.path ++ " declined: " ++ resp.status)
    else none

/-! ## Both together -/

structure Payments (Tid : Type*) where
  world : World Tid
  sidecar : Sidecar

/-- A step of the orchestrator, whose gateway is the sidecar, or one of others at the sidecar. -/
inductive Joint (Tid : Type*) where
  | own (a : Act Tid) (net : Net)
  | other (a : PaymentSidecar.Act)

variable (uuid : UUIDText) (reader : Reader) {Tid : Type*} [DecidableEq Tid]

def authorizeRequest (p : Payment) : HttpAuthorizeRequest where
  paymentID := uuid.string p.paymentID
  orderID := uuid.string p.orderID
  kioskID := uuid.string p.kioskID
  amountCents := p.amountCents
  currency := p.currency
  method := p.method.string

/-- What the gateway is asked in a step. -/
def Payments.call (s : Payments Tid) : Act Tid → Option (String × Json)
  | .authorize t .. =>
    match s.world.calls t with
    | .locked p => some ("authorize", (authorizeRequest uuid p).json)
    | _ => none
  | .move t _ =>
    match s.world.calls t with
    | .loaded op p => some (op.path, movePayload (uuid.string p.paymentID) p.verifoneToken)
    | _ => none
  | _ => none

/-- The step with what the gateway has answered. -/
def Payments.answered (s : Payments Tid) (answer : Except String AuthorizeResponse) : Act Tid → Act Tid
  | .authorize t _ now _ => .authorize t answer now
  | .move t fault =>
    match s.world.calls t with
    | .loaded op _ => .move t (op.fault answer)
    | _ => .move t fault
  | a => a

def Payments.step (s : Payments Tid) : Joint Tid → Payments Tid
  | .own a net =>
    match s.call uuid a with
    | some call =>
      let sent := net.send reader s.sidecar call.1 call.2
      ⟨PaymentOrchestrator.step uuid s.world (s.answered sent.2 a), sent.1⟩
    | none => { s with world := PaymentOrchestrator.step uuid s.world a }
  | .other a => { s with sidecar := s.sidecar.step a }

/-! ## What the sidecar answers -/

variable {uuid} {reader} {s : Payments Tid}

/-- The sidecar has none of the routes. -/
theorem send_refused (net : Net) (sidecar : Sidecar) {path : String}
    (moves : path = "authorize" ∨ path = "capture" ∨ path = "settle") (payload : Json) :
    ∃ err, net.send reader sidecar path payload = (sidecar, .error err) := by
  have absent : PaymentSidecar.route "POST" ["v1", path] = .notFound := by
    rcases moves with rfl | rfl | rfl <;> rfl
  have served (d : Draws) : sidecar.request (postRequest path payload) d = (sidecar, some ⟨404, .empty⟩) := by
    simp only [Sidecar.request, postRequest, absent]
  simp only [Net.send, served, post, ite_self]
  cases net.fault with
  | some err => exact ⟨_, rfl⟩
  | none => exact ⟨_, rfl⟩

omit [DecidableEq Tid] in
theorem call_moves {a : Act Tid} {call : String × Json} (h : s.call uuid a = some call) :
    call.1 = "authorize" ∨ call.1 = "capture" ∨ call.1 = "settle" := by
  cases a with
  | authorize =>
    rw [Payments.call] at h
    split at h
    · cases h
      exact .inl rfl
    · cases h
  | move t fault =>
    rw [Payments.call] at h
    split at h
    · rename_i op p loaded
      cases h
      cases op with
      | capturePayment => exact .inr (.inl rfl)
      | refundPayment | settlePayment => exact .inr (.inr rfl)
    · cases h
  | initiatePayment | create | unlock | read | webhook | recheck | update | wait => cases h

/-! ## Payments that no gateway takes -/

/-- How far a call gets whose payments are all refused. -/
def Phase.Refused : Phase → Prop
  | .locked p => p.status = .pending ∧ p.verifoneToken = ""
  | .authorized p _ => p.status = .failed ∧ p.verifoneToken = ""
  | .idle | .finishing .. => True
  | .loaded .. | .moved .. | .notified .. | .rechecked .. => False

/-- The gateway was asked for authorizations alone, and has failed. -/
def GatewayCall.Failed : GatewayCall → Prop
  | .authorize _ _ (.error _) approved => approved = false
  | .authorize _ _ (.ok _) _ | .capture .. | .settle .. => False

structure Refused (w : World Tid) : Prop where
  rows : ∀ p ∈ w.db.payments.rows, p.status = .failed ∧ p.verifoneToken = ""
  calls : ∀ t, (w.calls t).Refused
  gateway : ∀ call ∈ w.gateway, call.Failed

section
variable {w : World Tid}

theorem draft {req : PaymentIntent} {now : Time} {p : Payment} (h : req.payment uuid now = .ok p) :
    p.status = .pending ∧ p.verifoneToken = "" := by
  unfold PaymentIntent.payment at h
  split at h
  · cases h
  · obtain ⟨paymentID, -, h⟩ := Statement.bind_eq_ok.mp h
    obtain ⟨orderID, -, h⟩ := Statement.bind_eq_ok.mp h
    obtain ⟨kioskID, -, h⟩ := Statement.bind_eq_ok.mp h
    obtain ⟨key, -, h⟩ := Statement.bind_eq_ok.mp h
    cases h
    exact ⟨rfl, rfl⟩

theorem refused_goto (h : ∀ t, (w.calls t).Refused) {t : Tid} {phase : Phase} (refused : phase.Refused) :
    ∀ t', ((w.goto t phase).calls t').Refused := by
  intro t'
  by_cases own : t' = t
  · rw [own, calls_goto]
    exact refused
  · rw [calls_goto_of_ne phase own]
    exact h t'

theorem Refused.goto (h : Refused w) (t : Tid) {phase : Phase} (refused : phase.Refused) :
    Refused (w.goto t phase) :=
  ⟨h.rows, refused_goto h.calls refused, h.gateway⟩

omit [DecidableEq Tid] in
theorem Refused.setLock (h : Refused w) (key : UUID) (expires : Option ℕ) : Refused (w.setLock key expires) :=
  ⟨h.rows, h.calls, h.gateway⟩

omit [DecidableEq Tid] in
theorem Refused.lock (h : Refused w) (key : UUID) : Refused (lock w key) := by
  unfold PaymentOrchestrator.lock
  split
  · exact h.setLock _ _
  · exact h

omit [DecidableEq Tid] in
/-- Nothing is found that could be captured, refunded, settled or notified of. -/
theorem Refused.found (h : Refused w) {id : UUID} {p : Payment} (found : w.db.payments.find? id = some p) :
    p.status = .failed :=
  (h.rows p (Table.find?_eq_some.mp found).1).1

omit [DecidableEq Tid] in
theorem Refused.created (h : Refused w) (uuid : UUIDText) (env : Env) {p : Payment}
    (failed : p.status = .failed ∧ p.verifoneToken = "") :
    ∀ q ∈ (create uuid w.db env p).1.payments.rows, q.status = .failed ∧ q.verifoneToken = "" := by
  obtain ⟨same, -⟩ | ⟨-, -, new⟩ := create_cases uuid w.db env p
  · rw [same]
    exact h.rows
  · rw [new, DB.created, DB.insertOutbox_payments]
    intro q hq
    obtain ⟨old, -⟩ | ⟨-, -, -, rfl⟩ | ⟨-, rfl⟩ := Table.mem_upsert.mp hq
    · exact h.rows q old
    · exact failed
    · exact failed

theorem Refused.initiatePayment (h : Refused w) (t : Tid) (req : PaymentIntent) (redis : Outcome) (now : Time) :
    Refused (step uuid w (.initiatePayment t req redis now)) := by
  simp only [PaymentOrchestrator.step, respond]
  split
  · unfold PaymentOrchestrator.initiatePayment
    split
    · exact h
    · rename_i p drafted
      split
      · exact h
      · exact h.lock _
      · split
        · exact (h.lock _).goto t (draft drafted)
        · exact h
  · exact h

theorem Refused.authorize (h : Refused w) (t : Tid) (err : String) (now : Time) :
    Refused (step uuid w (.authorize t (.error err) now)) := by
  simp only [PaymentOrchestrator.step, respond]
  split
  · rename_i p locked
    have held : p.status = .pending ∧ p.verifoneToken = "" := by
      have here := h.calls t
      rwa [locked] at here
    have received : Refused (w.receive (.authorize p.idempotencyKey p.paymentID (.error err) false)) := by
      refine ⟨h.rows, h.calls, ?_⟩
      intro call hc
      obtain hc | hc := List.mem_append.mp hc
      · exact h.gateway call hc
      · rw [List.mem_singleton.mp hc]
        exact rfl
    have failed : p.answered (.error err) now =
        .ok { p with status := .failed, updatedAt := now, declineReason := err } := by
      simp [Payment.answered, Payment.transition, held.1, validTransitions, Except.toOption]
    rw [failed]
    exact received.goto t ⟨rfl, held.2⟩
  · exact h

theorem Refused.create (h : Refused w) (t : Tid) (env : Env) : Refused (step uuid w (.create t env)) := by
  simp only [PaymentOrchestrator.step, respond]
  split
  · rename_i p answer authorized
    have held : p.status = .failed ∧ p.verifoneToken = "" := by
      have here := h.calls t
      rwa [authorized] at here
    have rows := h.created uuid env held
    split
    · rename_i db err made
      rw [made] at rows
      have next : Refused { w with db } := ⟨rows, h.calls, h.gateway⟩
      exact next.goto t (show (Phase.finishing _ _).Refused from trivial)
    · rename_i db made
      rw [made] at rows
      have next : Refused { w with db } := ⟨rows, h.calls, h.gateway⟩
      exact next.goto t (show (Phase.finishing _ _).Refused from trivial)
  · exact h

theorem Refused.webhook (h : Refused w) (t : Tid) (n : Notification) (fault : Option String) :
    Refused (step uuid w (.webhook t n fault)) := by
  simp only [PaymentOrchestrator.step, respond]
  split
  · unfold PaymentOrchestrator.webhook
    repeat' split
    all_goals first
      | exact h
      | skip
    rename_i p found open_
    cases fault with
    | some err => cases found
    | none =>
      rw [h.found (Except.ok.inj found)] at open_
      exact absurd rfl open_
  · exact h

/-- Steps keep it in which the gateway fails. -/
theorem Refused.step (h : Refused w) {a : Act Tid} (fails : ∀ t answer now unseen,
    a = .authorize t answer now unseen → unseen = false ∧ ∃ err, answer = .error err) :
    Refused (step uuid w a) := by
  cases a with
  | initiatePayment t req redis now => exact h.initiatePayment t req redis now
  | authorize t answer now unseen =>
    obtain ⟨rfl, err, rfl⟩ := fails t answer now unseen rfl
    exact h.authorize t err now
  | create t env => exact h.create t env
  | unlock t redis =>
    simp only [PaymentOrchestrator.step, respond]
    split
    · split
      · exact (h.setLock _ _).goto t trivial
      · exact h.goto t trivial
    · exact h
  | read t op paymentID fault =>
    obtain same | ⟨id, p, -, found, accepts, -⟩ := step_read uuid w t op paymentID fault
    · rwa [same]
    · rw [h.found found] at accepts
      cases op <;> cases accepts
  | move t fault =>
    have here := h.calls t
    simp only [PaymentOrchestrator.step, respond]
    split
    · rename_i loaded
      rw [loaded] at here
      cases here
    · exact h
  | webhook t n fault => exact h.webhook t n fault
  | recheck t fault =>
    have here := h.calls t
    simp only [PaymentOrchestrator.step, respond]
    split
    · rename_i notified
      rw [notified] at here
      cases here
    · exact h
  | update t env =>
    have here := h.calls t
    simp only [PaymentOrchestrator.step, respond]
    split
    · rename_i moved
      rw [moved] at here
      cases here
    · rename_i rechecked
      rw [rechecked] at here
      cases here
    · exact h
  | wait ms => exact ⟨h.rows, h.calls, h.gateway⟩

end

/-- What the orchestrator does at the sidecar leaves it alone, and fails. -/
theorem Payments.step_own (h : Refused s.world) (a : Act Tid) (net : Net) :
    Refused (s.step uuid reader (.own a net)).world ∧ (s.step uuid reader (.own a net)).sidecar = s.sidecar := by
  rw [Payments.step]
  cases called : s.call uuid a with
  | none =>
    refine ⟨?_, rfl⟩
    cases a with
    | authorize t answer now unseen =>
      -- Nobody waits for the gateway, whatever the step brings along.
      have idle : PaymentOrchestrator.step uuid s.world (.authorize t answer now unseen) = s.world := by
        cases phase : s.world.calls t with
        | locked p => simp [Payments.call, phase] at called
        | _ => simp [PaymentOrchestrator.step, respond, phase]
      rw [idle]
      exact h
    | _ => exact h.step (by simp)
  | some call =>
    obtain ⟨err, sent⟩ : ∃ err, net.send reader s.sidecar call.1 call.2 = (s.sidecar, .error err) :=
      send_refused net s.sidecar (call_moves called) call.2
    simp only [sent]
    refine ⟨?_, trivial⟩
    cases a with
    | authorize t answer now =>
      apply h.step
      intro t' answer' now' unseen' same
      cases same
      exact ⟨rfl, err, rfl⟩
    | move t fault =>
      apply h.step
      intro t' answer' now' unseen' same
      simp only [Payments.answered] at same
      split at same <;> cases same
    | _ => cases called

def Joint.other? : Joint Tid → Option PaymentSidecar.Act
  | .other a => some a
  | .own _ _ => none

/-- Where the sidecar is the gateway no payment is ever taken: in every run each payment that is stored has failed,
nothing is captured, refunded or settled, and the sidecar is as others leave it. -/
theorem nothing_is_taken (uuid : UUIDText) (reader : Reader) (sidecar : Sidecar) (acts : List (Joint Tid)) :
    let s := Runs.run (Payments.step uuid reader) ⟨{}, sidecar⟩ acts
    (∀ p ∈ s.world.db.payments.rows, p.status = .failed ∧ p.verifoneToken = "") ∧
    (∀ call ∈ s.world.gateway, call.Failed) ∧
    s.sidecar = Runs.run Sidecar.step sidecar (acts.filterMap Joint.other?) := by
  intro s
  have kept : Refused s.world ∧ s.sidecar = Runs.run Sidecar.step sidecar (acts.filterMap Joint.other?) := by
    induction acts using List.reverseRecOn with
    | nil => exact ⟨⟨by simp [s, Table.empty], fun _ => trivial, by simp [s]⟩, rfl⟩
    | append_singleton acts a ih =>
      obtain ⟨refused, same⟩ := ih
      simp only [s, Runs.run_concat]
      cases a with
      | own a net =>
        obtain ⟨refused', same'⟩ := Payments.step_own refused a net
        exact ⟨refused', by simpa [List.filterMap_append, List.filterMap_cons, Joint.other?] using same'.trans same⟩
      | other a =>
        refine ⟨refused, ?_⟩
        rw [Payments.step, same]
        simp [List.filterMap_append, Joint.other?, Runs.run_append]
  exact ⟨kept.1.rows, kept.1.gateway, kept.2⟩

end PaymentOrchestrator
