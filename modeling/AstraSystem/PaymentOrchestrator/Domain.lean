import AstraSystem.Lib.UUID

/-!
# The payment aggregate and its state machine (`domain/domain.go`)
-/

namespace PaymentOrchestrator

/-- A time in microseconds. -/
abbrev Time := ℤ

inductive PaymentStatus where
  | pending
  | authorizing
  | captured
  | settled
  | failed
  deriving DecidableEq, Repr

def PaymentStatus.string : PaymentStatus → String
  | .pending => "PENDING"
  | .authorizing => "AUTHORIZING"
  | .captured => "CAPTURED"
  | .settled => "SETTLED"
  | .failed => "FAILED"

inductive PaymentMethod where
  | creditDebit
  | nfcApplePay
  | nfcGooglePay
  | qrCode
  | cashRecycler
  /-- The empty text. -/
  | unset
  deriving DecidableEq, Repr

def PaymentMethod.string : PaymentMethod → String
  | .creditDebit => "credit_debit"
  | .nfcApplePay => "nfc_apple_pay"
  | .nfcGooglePay => "nfc_google_pay"
  | .qrCode => "qr_code"
  | .cashRecycler => "cash_recycler"
  | .unset => ""

structure Payment where
  paymentID : UUID
  orderID : UUID
  kioskID : UUID
  storeID : UUID := 0
  idempotencyKey : UUID
  amountCents : Int64
  currency : String
  method : PaymentMethod
  status : PaymentStatus
  verifoneToken : String := ""
  verifoneAuthCode : String := ""
  cardBrand : String := ""
  cardLastFour : String := ""
  declineReason : String := ""
  receiptText : String := ""
  isOfflineToken : Bool := false
  offlineTokenHMAC : String := ""
  createdAt : Time
  updatedAt : Time
  deriving DecidableEq, Repr

def validTransitions : PaymentStatus → List PaymentStatus
  | .pending => [.authorizing, .failed]
  | .authorizing => [.captured, .failed]
  | .captured => [.settled, .failed]
  | .settled | .failed => []

def PaymentStatus.isTerminal (s : PaymentStatus) : Bool := s = .settled ∨ s = .failed

/-- What the repository and the aggregate report. -/
inductive PaymentError where
  | duplicateIdempotencyKey
  | invalidTransition
  | other (message : String)
  deriving DecidableEq, Repr

def PaymentError.message : PaymentError → String
  | .duplicateIdempotencyKey => "payment: duplicate idempotency key"
  | .invalidTransition => "payment: invalid status transition"
  | .other message => message

namespace Payment

def transition (p : Payment) (target : PaymentStatus) (now : Time) : Except PaymentError Payment :=
  if target ∈ validTransitions p.status then .ok { p with status := target, updatedAt := now }
  else .error .invalidTransition

def isTerminal (p : Payment) : Bool := p.status.isTerminal

theorem transition_eq_ok {p p' : Payment} {target : PaymentStatus} {now : Time}
    (h : p.transition target now = .ok p') :
    target ∈ validTransitions p.status ∧ p' = { p with status := target, updatedAt := now } := by
  unfold transition at h
  split at h
  · rename_i valid
    exact ⟨valid, (Except.ok.inj h).symm⟩
  · cases h

end Payment

/-- Nothing follows a terminal status. -/
theorem validTransitions_eq_nil {s : PaymentStatus} : validTransitions s = [] ↔ s.isTerminal = true := by
  cases s <;> simp [validTransitions, PaymentStatus.isTerminal]

end PaymentOrchestrator
