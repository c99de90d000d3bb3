import AstraSystem.Lib.Decimal
import AstraSystem.Lib.Postgres
import AstraSystem.Lib.Separated
import AstraSystem.Lib.Table
import AstraSystem.Lib.UUID

/-!
# The queue of offline tokens (`payment-service/internal/repository/repository.go`)

A message's text fields become columns of the table `offline_tokens`; its signature is over four of them.
-/

namespace PaymentService

open Postgres (Outcome varchar integer microseconds)

structure OfflineToken where
  tokenID : String
  storeID : String
  kioskID : String
  cartID : String
  amountCents : Int64
  currency : String
  method : String
  verifoneOpaqueToken : String
  hmacSignature : String
  /-- Nanoseconds since 1970, as the next. -/
  expiresAt : ℤ
  createdAt : ℤ
  deriving DecidableEq

structure SettlementResult where
  settledAt : ℤ
  success : Bool
  processorID : String := ""
  declineReason : String := ""
  deriving DecidableEq

/-- The columns that no signature covers; times are in microseconds. -/
structure Unsigned where
  storeID : UUID
  kioskID : UUID
  currency : String
  method : String
  expiresAt : ℤ
  deriving DecidableEq

structure Columns extends Unsigned where
  tokenID : UUID
  cartID : UUID
  amountCents : ℤ
  verifoneOpaqueToken : String
  hmacSignature : String
  deriving DecidableEq

structure Row extends Columns where
  createdAt : ℤ
  settledAt : Option ℤ := none
  settlementResult : Option SettlementResult := none
  deriving DecidableEq

/-- The table, by its primary key. -/
abbrev OfflineTokens := Table Row UUID fun row => row.tokenID

/-- The key, and what the service runs on: how the database reads and prints a `UUID` column, and the hash. -/
structure PaymentRepository where
  uuid : UUIDText
  hmacSHA256 : List UInt8 → List UInt8 → List UInt8
  hmacKey : List UInt8

namespace PaymentRepository

variable (r : PaymentRepository)

def canonical (token : OfflineToken) : String :=
  String.ofList (Separated.join '|' [token.tokenID.toList, token.cartID.toList,
    (Decimal.format token.amountCents.toInt).toList, token.verifoneOpaqueToken.toList])

def signature (canonical : String) : String := Bytes.hex (r.hmacSHA256 r.hmacKey (Bytes.utf8 canonical))

def verifyHMAC (canonical signatureHex : String) : Bool :=
  Bytes.constantTimeEq (Bytes.utf8 (r.signature canonical)) (Bytes.utf8 signatureHex)

def unsigned (token : OfflineToken) : Except String Unsigned := do
  let storeID ← r.uuid.parse token.storeID
  let kioskID ← r.uuid.parse token.kioskID
  let currency ← varchar 3 token.currency
  let method ← varchar 16 token.method
  pure { storeID, kioskID, currency, method, expiresAt := microseconds token.expiresAt }

def columns (token : OfflineToken) : Except String Columns := do
  let unsigned ← r.unsigned token
  let tokenID ← r.uuid.parse token.tokenID
  let cartID ← r.uuid.parse token.cartID
  let amountCents ← integer token.amountCents
  let verifoneOpaqueToken ← varchar 255 token.verifoneOpaqueToken
  let hmacSignature ← varchar 64 token.hmacSignature
  pure { unsigned with tokenID, cartID, amountCents, verifoneOpaqueToken, hmacSignature }

def invalidOfflineHMAC : String := "payment: offline token hmac verification failed"

def queueOfflineToken (table : OfflineTokens) (token : OfflineToken) (outcome : Outcome) :
    OfflineTokens × Except String Unit :=
  let context := "payment_repository: queue offline token: "
  if r.verifyHMAC (canonical token) token.hmacSignature then
    match r.columns token with
    | .error err => (table, .error (context ++ err))
    | .ok columns =>
      let row : Row := { columns with createdAt := microseconds token.createdAt }
      (if outcome.applies then table.insertNew row else table, outcome.reply context)
  else (table, .error invalidOfflineHMAC)

/-- The rows of the query; those of one time of creation come in any order. -/
def unsettled (table : OfflineTokens) (now : ℤ) (order : Shuffle Row) (limit : ℕ) : List Row :=
  let rows := table.rows.filter fun row => row.settledAt = none ∧ microseconds now < row.expiresAt
  ((order.apply rows).insertionSort fun a b => a.createdAt ≤ b.createdAt).take limit

def scan (row : Row) : OfflineToken where
  tokenID := r.uuid.string row.tokenID
  storeID := r.uuid.string row.storeID
  kioskID := r.uuid.string row.kioskID
  cartID := r.uuid.string row.cartID
  amountCents := Int64.ofInt row.amountCents
  currency := row.currency
  method := row.method
  verifoneOpaqueToken := row.verifoneOpaqueToken
  hmacSignature := row.hmacSignature
  expiresAt := row.expiresAt * 1000
  createdAt := row.createdAt * 1000

def loadUnsettledOfflineTokens (table : OfflineTokens) (now : ℤ) (order : Shuffle Row) (limit : ℕ)
    (fault : Option String) : Except String (List OfflineToken) :=
  match fault with
  | some err => .error ("payment_repository: query unsettled tokens: " ++ err)
  | none => .ok ((unsettled table now order limit).map r.scan)

/-- What a row becomes of a settlement. -/
def settle (tokenID : UUID) (now : ℤ) (result : SettlementResult) (row : Row) : Row :=
  if row.tokenID = tokenID then
    { row with settledAt := some (microseconds now), settlementResult := some result }
  else row

theorem settle_own {tokenID : UUID} {now : ℤ} {result : SettlementResult} {row : Row} (own : row.tokenID = tokenID) :
    settle tokenID now result row =
      { row with settledAt := some (microseconds now), settlementResult := some result } := if_pos own

theorem settle_other {tokenID : UUID} {now : ℤ} {result : SettlementResult} {row : Row} (other : row.tokenID ≠ tokenID) :
    settle tokenID now result row = row := if_neg other

theorem settle_toColumns (tokenID : UUID) (now : ℤ) (result : SettlementResult) (row : Row) :
    (settle tokenID now result row).toColumns = row.toColumns := by
  unfold settle
  split <;> rfl

theorem settle_tokenID (tokenID : UUID) (now : ℤ) (result : SettlementResult) (row : Row) :
    (settle tokenID now result row).tokenID = row.tokenID :=
  congrArg Columns.tokenID (settle_toColumns tokenID now result row)

def markOfflineSettled (table : OfflineTokens) (now : ℤ) (tokenID : String) (result : SettlementResult)
    (outcome : Outcome) : OfflineTokens × Except String Unit :=
  let context := "payment_repository: mark settled: "
  match r.uuid.parse tokenID with
  | .error err => (table, .error (context ++ err))
  | .ok tokenID =>
    (if outcome.applies then table.update (settle tokenID now result) (settle_tokenID tokenID now result) else table,
      outcome.reply context)

end PaymentRepository

/-! ## What the queue does -/

namespace PaymentRepository

variable {r : PaymentRepository} {table : OfflineTokens} {token : OfflineToken} {outcome : Outcome}

theorem verifyHMAC_iff {canonical signatureHex : String} :
    r.verifyHMAC canonical signatureHex = true ↔ signatureHex = r.signature canonical := by
  rw [verifyHMAC, Bytes.constantTimeEq_iff, Bytes.utf8_inj]
  exact eq_comm

/-- A token is stored with its columns and a signature of its own. -/
def Stores (r : PaymentRepository) (token : OfflineToken) (outcome : Outcome) : Prop :=
  token.hmacSignature = r.signature (canonical token) ∧ (r.columns token).isOk ∧ outcome.applies = true

theorem mem_queueOfflineToken {row : Row} : row ∈ (r.queueOfflineToken table token outcome).1.rows ↔
    row ∈ table.rows ∨ r.Stores token outcome ∧ ∃ columns, r.columns token = .ok columns ∧
      (∀ old ∈ table.rows, old.tokenID ≠ columns.tokenID) ∧
        row = { columns with createdAt := microseconds token.createdAt } := by
  rw [queueOfflineToken]
  by_cases verified : r.verifyHMAC (canonical token) token.hmacSignature
  · rw [if_pos verified, Stores, and_iff_right (verifyHMAC_iff.mp verified)]
    cases r.columns token with
    | error err => simp [Except.isOk, Except.toBool]
    | ok columns =>
      by_cases applies : outcome.applies
      · simp [applies, Table.mem_insertNew, Except.isOk, Except.toBool]
      · simp [applies]
  · rw [if_neg verified]
    refine (or_iff_left fun h => verified (verifyHMAC_iff.mpr h.1.1)).symm

/-- A token that is accepted is stored, if its id is not there already. -/
theorem queueOfflineToken_eq_ok : (r.queueOfflineToken table token outcome).2 = .ok () ↔
    r.Stores token outcome ∧ outcome = .committed := by
  rw [queueOfflineToken]
  by_cases verified : r.verifyHMAC (canonical token) token.hmacSignature
  · rw [if_pos verified, Stores, and_iff_right (verifyHMAC_iff.mp verified)]
    cases r.columns token with
    | error err => simp [Except.isOk, Except.toBool]
    | ok columns => cases outcome <;> simp [Outcome.reply, Outcome.applies, Except.isOk, Except.toBool]
  · rw [if_neg verified]
    refine ⟨fun h => (by cases h), fun h => absurd (verifyHMAC_iff.mpr h.1.1) verified⟩

/-- A result is recorded with the rows of the id, where that is one and the statement is not lost. -/
theorem markOfflineSettled_cases (table : OfflineTokens) (now : ℤ) (tokenID : String) (result : SettlementResult)
    (outcome : Outcome) : (r.markOfflineSettled table now tokenID result outcome).1 = table ∨
      ∃ id, r.uuid.parse tokenID = .ok id ∧ outcome.applies = true ∧
        (r.markOfflineSettled table now tokenID result outcome).1 =
          table.update (settle id now result) (settle_tokenID id now result) := by
  rw [markOfflineSettled]
  cases r.uuid.parse tokenID with
  | error err => exact .inl rfl
  | ok id =>
    by_cases applies : outcome.applies
    · exact .inr ⟨id, rfl, applies, if_pos applies⟩
    · exact .inl (if_neg applies)

theorem mem_markOfflineSettled {now : ℤ} {tokenID : String} {id : UUID} {result : SettlementResult} {row : Row}
    (parsed : r.uuid.parse tokenID = .ok id) (applies : outcome.applies = true) :
    row ∈ (r.markOfflineSettled table now tokenID result outcome).1.rows ↔
      ∃ old ∈ table.rows, settle id now result old = row := by
  have updated : (r.markOfflineSettled table now tokenID result outcome).1 =
      table.update (settle id now result) (settle_tokenID id now result) := by
    rw [markOfflineSettled, parsed]
    exact if_pos applies
  rw [updated]
  exact Table.mem_update

theorem mem_unsettled {now : ℤ} {order : Shuffle Row} {limit : ℕ} {row : Row}
    (h : row ∈ unsettled table now order limit) : row ∈ table.rows ∧ row.settledAt = none := by
  have mem := (List.mem_insertionSort _).mp (List.mem_of_mem_take h)
  have found := List.mem_filter.mp ((order.perm _).mem_iff.mp mem)
  exact ⟨found.1, (of_decide_eq_true found.2).1⟩

/-- Each unsettled row is among those of some query. -/
theorem exists_unsettled {row : Row} (mem : row ∈ table.rows) (open_ : row.settledAt = none) :
    ∃ now limit, row ∈ unsettled table now (Shuffle.none Row) limit := by
  refine ⟨(row.expiresAt - 1) * 1000, table.rows.length, ?_⟩
  rw [unsettled, List.take_of_length_le]
  · refine (List.mem_insertionSort _).mpr (List.mem_filter.mpr ⟨mem, decide_eq_true ⟨open_, ?_⟩⟩)
    rw [microseconds, Int.mul_ediv_cancel _ (by decide)]
    omega
  · rw [List.length_insertionSort]
    exact List.length_filter_le _ _

end PaymentRepository

end PaymentService
