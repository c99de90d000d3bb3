import AstraSystem.PaymentOrchestrator.OfflineToken
import AstraSystem.PaymentSidecar.KioskPayment
import AstraSystem.SyncDaemon.Offline.Token

/-!
# Who takes the signature of the payment app

The app of the kiosk signs four fields of an offline token with bars between them. The payment service, the payment
orchestrator and the daemon each have a text of their own for the same key.
-/

namespace UUIDText

theorem mem_digits {c : Char} {k n : ℕ} (h : c ∈ digits k n) : ∃ m < 16, c = Bytes.hexDigit m := by
  induction k generalizing n with
  | zero => cases h
  | succ k ih =>
    rw [digits, List.mem_append, List.mem_singleton] at h
    obtain h | rfl := h
    · exact ih h
    · exact ⟨n % 16, Nat.mod_lt n (by decide), rfl⟩

/-- No byte of a UUID's text is zero. -/
theorem zero_notMem_utf8 (u : UUID) : 0 ∉ Bytes.utf8 (hyphenated.string u) := by
  intro h
  obtain ⟨c, hc, zero⟩ := Bytes.mem_utf8.mp h
  rw [hyphenated, String.toList_ofList] at hc
  obtain rfl | hc := mem_hyphenate hc
  · revert zero
    decide
  · obtain ⟨m, small, rfl⟩ := mem_digits hc
    have none : ∀ m < 16, 0 ∉ String.utf8EncodeChar (Bytes.hexDigit m) := by decide
    exact none m small zero

end UUIDText

namespace KioskPayment

/-- Two messages that differ have one tag. -/
structure Collision (hmac : Hmac) (key m m' : List UInt8) : Prop where
  differ : m ≠ m'
  tag : hmac key m = hmac key m'

/-- What is signed of a token. -/
def OfflinePaymentToken.signed (token : OfflinePaymentToken) : List UInt8 :=
  Bytes.utf8 (canonical token.tokenId token.cartId token.amountCents token.verifoneOpaqueToken)

theorem toList_canonical (tokenId cartId : String) (amountCents : ℤ) (verifoneOpaqueToken : String) :
    (canonical tokenId cartId amountCents verifoneOpaqueToken).toList = Separated.join '|'
      [tokenId.toList, cartId.toList, (Decimal.format amountCents).toList, verifoneOpaqueToken.toList] := by
  simp [canonical, Separated.join]

/-! ## The payment service -/

/-- A message of the payment service has the fields that were signed. -/
structure Carries (token : OfflinePaymentToken) (message : PaymentService.OfflineToken) : Prop where
  tokenID : message.tokenID = token.tokenId
  cartID : message.cartID = token.cartId
  amountCents : message.amountCents.toInt = token.amountCents
  verifoneOpaqueToken : message.verifoneOpaqueToken = token.verifoneOpaqueToken
  hmacSignature : message.hmacSignature = token.hmacSignature

theorem verified_by_service (r : PaymentService.PaymentRepository) {cart : Cart} {method syncKey : String} {env : Env}
    (own : r.hmacKey = Bytes.utf8 syncKey) {message : PaymentService.OfflineToken}
    (carries : Carries (buildOfflineToken r.hmacSHA256 cart method syncKey env) message) :
    r.verifyHMAC (PaymentService.PaymentRepository.canonical message) message.hmacSignature = true := by
  have text : PaymentService.PaymentRepository.canonical message =
      canonical env.tokenId cart.cartId cart.totalCents ("offline-pending-" ++ env.pending) := by
    apply String.toList_inj.mp
    rw [PaymentService.PaymentRepository.canonical, String.toList_ofList, toList_canonical, carries.tokenID,
      carries.cartID, carries.amountCents, carries.verifoneOpaqueToken]
    rfl
  rw [PaymentService.PaymentRepository.verifyHMAC_iff, carries.hmacSignature, PaymentService.PaymentRepository.signature,
    own, text]
  rfl

/-! ## The payment orchestrator -/

theorem bars_uuid (u : UUID) : (UUIDText.hyphenated.string u).toList.count '|' = 0 :=
  List.count_eq_zero.mpr (UUIDText.not_mem_hyphenated (by decide) (by decide) u)

theorem bars_format (n : ℤ) : (Decimal.format n).toList.count '|' = 0 := by
  apply List.count_eq_zero.mpr
  intro h
  have numeric := Json.numeric_format n
  rw [Json.Numeric, Bool.and_eq_true, List.all_eq_true] at numeric
  have bar := numeric.2 _ h
  revert bar
  decide

/-- Three bars. -/
theorem bars_canonical (tokenId cartId pending : UUID) (amountCents : ℤ) :
    (canonical (UUIDText.hyphenated.string tokenId) (UUIDText.hyphenated.string cartId) amountCents
      ("offline-pending-" ++ UUIDText.hyphenated.string pending)).toList.count '|' = 3 := by
  rw [toList_canonical, Separated.count_join]
  simp [bars_uuid, bars_format]

/-- Eight bars, and those of the currency and the opaque token. -/
theorem bars_canonicalForm (t : PaymentOrchestrator.OfflineToken) :
    8 ≤ (PaymentOrchestrator.canonicalForm .hyphenated t).toList.count '|' := by
  rw [PaymentOrchestrator.canonicalForm, String.toList_ofList, PaymentOrchestrator.OfflineToken.fields]
  simp only [List.map_cons, List.map_nil]
  rw [Separated.count_join]
  simp

/-! ## The daemon -/

open SyncDaemon.Offline in
theorem bytes_ne {token : SyncDaemon.Offline.OfflinePaymentToken} (small : token.amountCents.toNat < 2 ^ 56)
    (tokenId : UUID) (rest : String) :
    token.canonicalBytes ≠ Bytes.utf8 (UUIDText.hyphenated.string tokenId ++ rest) := by
  intro same
  have zero : UInt8.ofNat (token.amountCents.toNat / 2 ^ 56) = 0 := by
    rw [Nat.div_eq_of_lt small]
    rfl
  rw [Bytes.utf8_append, OfflinePaymentToken.canonicalBytes, Bytes.be64, zero] at same
  cases text : Bytes.utf8 (UUIDText.hyphenated.string tokenId) with
  | nil =>
    have none : UUIDText.hyphenated.string tokenId = "" := Bytes.utf8_inj.mp text
    exact UUIDText.hyphenated_ne_empty tokenId none
  | cons b bytes =>
    rw [text] at same
    simp only [List.cons_append, List.cons.injEq] at same
    apply UUIDText.zero_notMem_utf8 tokenId
    rw [text, same.1]
    exact List.mem_cons_self

/-- A token of the app is verified by the payment service, which signs the same four fields. The others sign other
texts, so that they take its signature for a token, of the daemon's one of less than 2 ^ 56 cents, only if their text of
it and the app's have one tag. -/
theorem signature_taken (cart : Cart) (method syncKey : String) (env : Env) (tokenId cartId pending : UUID)
    (named : env.tokenId = UUIDText.hyphenated.string tokenId ∧ cart.cartId = UUIDText.hyphenated.string cartId ∧
      env.pending = UUIDText.hyphenated.string pending) (hmac : Hmac) :
    let token := buildOfflineToken hmac cart method syncKey env
    let key := Bytes.utf8 syncKey
    (∀ r : PaymentService.PaymentRepository, r.hmacSHA256 = hmac → r.hmacKey = key → ∀ message,
      Carries token message →
        r.verifyHMAC (PaymentService.PaymentRepository.canonical message) message.hmacSignature = true) ∧
    (∀ t : PaymentOrchestrator.OfflineToken, t.hmacSignature = token.hmacSignature →
      PaymentOrchestrator.verify .hyphenated hmac key t = .ok () →
        Collision hmac key (Bytes.utf8 (PaymentOrchestrator.canonicalForm .hyphenated t)) token.signed) ∧
    (∀ (crates : SyncDaemon.Offline.Crates) (signer : SyncDaemon.Offline.TokenSigner) (t : _),
      crates.hmacSha256 = hmac → (∀ b, crates.hexDecode (Bytes.hex b) = .ok b) → signer.key.bytes = key →
        t.amountCents.toNat < 2 ^ 56 → (signer.verify crates ⟨t, token.hmacSignature⟩).isOk →
          Collision hmac key t.canonicalBytes token.signed) := by
  intro token key
  obtain ⟨tok, crt, pend⟩ := named
  have text : token.signed = Bytes.utf8 (canonical (UUIDText.hyphenated.string tokenId)
      (UUIDText.hyphenated.string cartId) cart.totalCents
      ("offline-pending-" ++ UUIDText.hyphenated.string pending)) := by
    simp only [token, OfflinePaymentToken.signed, buildOfflineToken, tok, crt, pend]
  have signed : token.hmacSignature = Bytes.hex (hmac key token.signed) := rfl
  refine ⟨?_, ?_, ?_⟩
  · rintro r rfl own message carries
    exact verified_by_service r own carries
  · intro t own verified
    unfold PaymentOrchestrator.verify at verified
    split at verified
    · cases verified
    · dsimp only at verified
      split at verified
      · rename_i agree
        rw [Bytes.constantTimeEq_iff, Bytes.utf8_inj, own, signed] at agree
        refine ⟨fun same => ?_, Bytes.hex_injective agree⟩
        have bars := bars_canonicalForm t
        rw [Bytes.utf8_inj.mp (same.trans text), bars_canonical] at bars
        omega
      · cases verified
  · intro crates signer t hash decode own small verified
    have agree : hmac key t.canonicalBytes = hmac key token.signed := by
      by_contra differ
      have refused : Bytes.constantTimeEq (SyncDaemon.Offline.hmacSign crates signer.key t.canonicalBytes)
          (hmac key token.signed) = false := by
        rw [← Bool.not_eq_true, Bytes.constantTimeEq_iff, SyncDaemon.Offline.hmacSign, hash, own]
        exact differ
      simp [SyncDaemon.Offline.TokenSigner.verify, SyncDaemon.Offline.hmacVerify, signed, decode, refused,
        Except.mapError, bind, Except.bind, Except.isOk, Except.toBool] at verified
    refine ⟨fun same => ?_, agree⟩
    rw [text] at same
    simp only [canonical, String.append_assoc] at same
    exact bytes_ne small tokenId _ same

/-! ## A lunch that is paid offline -/

namespace Lunch

def syncKey : String := "till-key-of-the-first-kiosk-0001"

def cart : Cart := ⟨UUIDText.hyphenated.string 1, UUIDText.hyphenated.string 2, 1250⟩

def env : Env where
  idempotencyKey := UUIDText.hyphenated.string 5
  reachable := false
  draws := ⟨"", "", "", "", ""⟩
  tokenId := UUIDText.hyphenated.string 3
  pending := UUIDText.hyphenated.string 4
  now := 1784550896000
  keyFromEnv := some syncKey
  dev := true
  keyFromDaemon := none
  daemon := true

/-- What the orchestrator would settle for it. -/
def settlement (hmacSignature : String) : PaymentOrchestrator.OfflineToken where
  tokenID := 3
  storeID := 6
  kioskID := 2
  cartID := 1
  amountCents := 1250
  currency := "USD"
  method := .creditDebit
  verifoneOpaqueToken := "offline-pending-00000000-0000-0000-0000-000000000004"
  hmacSignature
  expiresAt := PaymentOrchestrator.Slip.newYear 0 RFC3339.whole_lt
  createdAt := 0
  updatedAt := 0

/-- What the daemon would. -/
def slip : SyncDaemon.Offline.OfflinePaymentToken where
  amountCents := 1250
  timestampMs := 1784550896000
  kioskId := "00000000-0000-0000-0000-000000000002"
  transactionId := "00000000-0000-0000-0000-000000000001"
  itemsHash := "e3b0"

/-- The texts of the three. -/
def texts : List (List UInt8) :=
  [Bytes.utf8 (canonical env.tokenId cart.cartId cart.totalCents ("offline-pending-" ++ env.pending)),
    Bytes.utf8 (PaymentOrchestrator.canonicalForm .hyphenated (settlement "")), slip.canonicalBytes]

/-- Their tags under the key. -/
def tags : List (List UInt8) :=
  [[0x59, 0x2c, 0xfe, 0x94, 0xad, 0x04, 0x6c, 0x89, 0x92, 0x09, 0x44, 0x6f, 0xf9, 0x74, 0x5b, 0xe9,
      0xf9, 0xfb, 0x54, 0x2c, 0x58, 0xed, 0x27, 0x82, 0x5a, 0xec, 0x6f, 0x28, 0x57, 0x76, 0x4c, 0x0f],
    [0x07, 0x86, 0xde, 0xea, 0xe5, 0x6b, 0xac, 0xa0, 0x07, 0x7f, 0x40, 0x64, 0xc9, 0x64, 0xb6, 0xdc,
      0x6b, 0x73, 0x97, 0x7d, 0xe6, 0x0d, 0xca, 0xe5, 0x68, 0x5b, 0x07, 0x2e, 0xfb, 0xa8, 0x73, 0x46],
    [0x82, 0xcd, 0xeb, 0xb0, 0x77, 0x36, 0xf4, 0x84, 0x30, 0x28, 0x98, 0x9b, 0x48, 0x7d, 0x01, 0x78,
      0x7c, 0x3b, 0x7c, 0x28, 0x61, 0xc4, 0x51, 0x29, 0xa7, 0x31, 0x2c, 0x6f, 0xb6, 0x65, 0x69, 0x28]]

/-- HMAC-SHA256 of the three under the key. -/
def mac : Hmac := fun _ => Bytes.hashOf (texts.zip tags)

def token : OfflinePaymentToken := buildOfflineToken mac cart "credit_debit" syncKey env

def repository : PaymentService.PaymentRepository := ⟨.hyphenated, mac, Bytes.utf8 syncKey⟩

def message : PaymentService.OfflineToken where
  tokenID := token.tokenId
  storeID := UUIDText.hyphenated.string 6
  kioskID := token.kioskId
  cartID := token.cartId
  amountCents := 1250
  currency := token.currency
  method := token.method
  verifoneOpaqueToken := token.verifoneOpaqueToken
  hmacSignature := token.hmacSignature
  expiresAt := token.expiresAtMs * 1000000
  createdAt := token.createdAtMs * 1000000

def crates : SyncDaemon.Offline.Crates where
  hmacSha256 := mac
  hexEncode := Bytes.hex
  hexDecode := fun s => match Bytes.unhex s with
    | some bytes => .ok bytes
    | none => .error "Invalid character"

def signer : SyncDaemon.Offline.TokenSigner := ⟨⟨Bytes.utf8 syncKey, by decide⟩⟩

theorem decode_hex (bytes : List UInt8) : crates.hexDecode (Bytes.hex bytes) = .ok bytes := by
  simp only [crates, Bytes.unhex_hex]

theorem mac_injective (key : List UInt8) : Function.Injective (mac key) := by
  refine Bytes.hashOf_injective ?_ fun e he => ?_
  · rw [List.map_snd_zip (by decide)]
    decide
  · have short : ∀ tag ∈ tags, tag.length = 32 := by decide
    exact short e.2 (List.of_mem_zip he).2

theorem lunch_taken : repository.verifyHMAC (PaymentService.PaymentRepository.canonical message) message.hmacSignature =
      true ∧
    PaymentOrchestrator.verify .hyphenated mac (Bytes.utf8 syncKey) (settlement token.hmacSignature) ≠ .ok () ∧
    ¬ (signer.verify crates ⟨slip, token.hmacSignature⟩).isOk := by
  obtain ⟨service, orchestrator, daemon⟩ :=
    signature_taken cart "credit_debit" syncKey env 3 1 4 ⟨rfl, rfl, rfl⟩ mac
  refine ⟨service repository rfl rfl message ⟨rfl, rfl, rfl, rfl, rfl⟩, fun verified => ?_, fun verified => ?_⟩
  · have collision := orchestrator (settlement token.hmacSignature) rfl verified
    exact collision.differ (mac_injective _ collision.tag)
  · have collision := daemon crates signer slip rfl decode_hex rfl (by decide) verified
    exact collision.differ (mac_injective _ collision.tag)

end Lunch

end KioskPayment
