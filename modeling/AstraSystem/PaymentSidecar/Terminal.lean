import AstraSystem.Lib.Assoc
import AstraSystem.Lib.JsonText
import AstraSystem.Lib.Runs

/-!
# The terminal of the payment sidecar (`verifone/sim.rs`, `verifone/mod.rs`, `verifone/ffi.rs`)

A simulator keeps the authorizations by their ids. Each of its methods is one step: the lock is held for it.
-/

namespace PaymentSidecar

inductive PaymentError where
  | invalidRequest (msg : String)
  | terminal (msg : String)
  | internal (msg : String)
  deriving DecidableEq, Repr

inductive SimState where
  | pending
  | authorized (authCode reference cardLastFour cardBrand : String)
  | declined (reason : String)
  | cancelled
  deriving DecidableEq, Repr

namespace SimState

def reference : SimState → Option String
  | authorized _ reference _ _ => some reference
  | pending | declined _ | cancelled => none

def cardLastFour : SimState → Option String
  | authorized _ _ cardLastFour _ => some cardLastFour
  | pending | declined _ | cancelled => none

def cardBrand : SimState → Option String
  | authorized _ _ _ cardBrand => some cardBrand
  | pending | declined _ | cancelled => none

/-- What is left of a state when it is cancelled. -/
def cancel : SimState → SimState
  | pending | authorized .. | cancelled => cancelled
  | declined reason => declined reason

theorem cancel_cancel (s : SimState) : s.cancel.cancel = s.cancel := by cases s <;> rfl

end SimState

structure VerifoneOpaqueToken where
  transactionID : String
  referenceNumber : String
  terminalURI : String
  authorizedAt : String
  deriving DecidableEq, Repr

/-- Control characters without a letter are written by number. -/
def serde (c : Char) : Bool := c.toNat < 32

def VerifoneOpaqueToken.json (t : VerifoneOpaqueToken) : Json :=
  .object [("transaction_id", .string t.transactionID), ("reference_number", .string t.referenceNumber),
    ("terminal_uri", .string t.terminalURI), ("authorized_at", .string t.authorizedAt)]

def VerifoneOpaqueToken.encode (t : VerifoneOpaqueToken) : String :=
  String.ofList (Json.base64 (Bytes.utf8 (String.ofList (Json.write serde t.json))))

/-- What the generators and the clock supply to one authorization. -/
structure Draws where
  transactionID : String
  reference : String
  authCode : String
  cardLastFour : String
  now : String
  deriving DecidableEq, Repr

structure SimTerminal where
  uri : String
  transactions : Assoc.Map String SimState := ∅

namespace SimTerminal

/-- Amounts that end in 99 cents are declined. -/
def outcome (amountCents : ℕ) (d : Draws) : SimState :=
  if amountCents % 100 = 99 then .declined "simulated_decline"
  else .authorized d.authCode d.reference d.cardLastFour "visa"

/-- No currency is looked at. -/
def initiate (t : SimTerminal) (amountCents : ℕ) (_currency : String) (d : Draws) : SimTerminal × VerifoneOpaqueToken :=
  ({ t with transactions := t.transactions.insert d.transactionID (outcome amountCents d) },
    ⟨d.transactionID, d.reference, t.uri, d.now⟩)

def status (t : SimTerminal) (transactionID : String) : Except PaymentError SimState :=
  match t.transactions.lookup transactionID with
  | some state => .ok state
  | none => .error (.terminal "transaction not found")

def cancel (t : SimTerminal) (transactionID : String) : SimTerminal × Except PaymentError Unit :=
  match t.transactions.lookup transactionID with
  | some .pending | some (.authorized ..) =>
    ({ t with transactions := t.transactions.insert transactionID .cancelled }, .ok ())
  | some .cancelled => (t, .ok ())
  | some (.declined _) => (t, .error (.terminal "cannot cancel a declined transaction"))
  | none => (t, .error (.terminal "transaction not found"))

variable {t : SimTerminal} {id : String}

theorem lookup_initiate (t : SimTerminal) (amountCents : ℕ) (currency : String) (d : Draws) (id : String) :
    (t.initiate amountCents currency d).1.transactions.lookup id =
      if id = d.transactionID then some (outcome amountCents d) else t.transactions.lookup id := by
  by_cases same : id = d.transactionID
  · rw [same, if_pos rfl]
    apply AList.lookup_insert
  · rw [if_neg same]
    apply AList.lookup_insert_ne same

theorem lookup_cancel (t : SimTerminal) (transactionID id : String) :
    (t.cancel transactionID).1.transactions.lookup id =
      (t.transactions.lookup id).map fun s => if id = transactionID then s.cancel else s := by
  by_cases same : id = transactionID
  · subst same
    unfold cancel
    cases held : t.transactions.lookup id with
    | none => simpa using held
    | some s => cases s <;> simp [AList.lookup_insert, SimState.cancel, held]
  · have other : (t.cancel transactionID).1.transactions.lookup id = t.transactions.lookup id := by
      unfold cancel
      split <;> first | exact AList.lookup_insert_ne same | rfl
    simp [other, same]

/-- Each authorization is a transaction of its own. -/
theorem length_initiate (absent : t.transactions.lookup id = none) (amountCents : ℕ) (currency : String) (d : Draws)
    (own : d.transactionID = id) :
    (t.initiate amountCents currency d).1.transactions.entries.length = t.transactions.entries.length + 1 := by
  subst own
  rw [initiate, AList.entries_insert_of_notMem (AList.lookup_eq_none.mp absent), List.length_cons]

theorem length_cancel (t : SimTerminal) (transactionID : String) :
    (t.cancel transactionID).1.transactions.entries.length = t.transactions.entries.length := by
  have replaced {s : SimState} (held : t.transactions.lookup transactionID = some s) (s' : SimState) :
      (t.transactions.insert transactionID s').entries.length = t.transactions.entries.length := by
    have taken := (Assoc.values_erase held).length_eq
    simp only [Assoc.values, List.length_cons, List.length_map] at taken
    rw [AList.entries_insert, List.length_cons, taken]
    rfl
  unfold cancel
  split <;> first | exact replaced (by assumption) _ | rfl

end SimTerminal

/-! ## What is told of an authorization -/

inductive AuthorizationStatus where
  | authorized
  | declined
  | cancelled
  | pending
  | networkError
  deriving DecidableEq, Repr

structure AuthorizationResult where
  authorizationID : String
  status : AuthorizationStatus
  method : String
  amountCents : ℕ
  approvalCode : Option String
  declineReason : Option String
  cardBrand : Option String
  cardLastFour : Option String
  receiptText : Option String
  opaqueToken : String
  deriving DecidableEq, Repr

def SimState.told : SimState → AuthorizationStatus × Option String × Option String
  | .authorized authCode _ _ _ => (.authorized, some authCode, none)
  | .declined reason => (.declined, none, some reason)
  | .cancelled => (.cancelled, none, none)
  | .pending => (.pending, none, none)

def buildResult (authorizationID method : String) (amountCents : ℕ) (token : VerifoneOpaqueToken) (state : SimState) :
    AuthorizationResult where
  authorizationID
  status := state.told.1
  method
  amountCents
  approvalCode := state.told.2.1
  declineReason := state.told.2.2
  cardBrand := state.cardBrand
  cardLastFour := state.cardLastFour
  receiptText := some ("Astra receipt for auth " ++ authorizationID)
  opaqueToken := token.encode

/-- Only the state is kept: the amount and the method of the answer are made up. -/
def SimTerminal.statusResult (t : SimTerminal) (authorizationID now : String) :
    Except PaymentError AuthorizationResult :=
  (t.status authorizationID).map fun state =>
    buildResult authorizationID "credit_debit" 0
      ⟨authorizationID, state.reference.getD "", "sim://localhost", now⟩ state

end PaymentSidecar
