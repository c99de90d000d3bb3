import AstraSystem.Lib.Decimal
import AstraSystem.Lib.RFC3339
import AstraSystem.Lib.Separated
import AstraSystem.PaymentOrchestrator.Domain

/-!
# Offline tokens (`offline/offline.go`, `handler/handler.go`)

A token is signed over nine fields with bars between them. A currency and an opaque token may hold
bars of their own, and the expiry is signed without its fraction of a second.
-/

namespace PaymentOrchestrator

structure OfflineToken where
  tokenID : UUID
  storeID : UUID
  kioskID : UUID
  cartID : UUID
  amountCents : Int64
  currency : String
  method : PaymentMethod
  verifoneOpaqueToken : String
  hmacSignature : String
  expiresAt : RFC3339.Time
  /-- Nanoseconds since 1970, as the next. -/
  createdAt : ℤ
  updatedAt : ℤ
  deriving DecidableEq

structure OfflineTokenRequest where
  tokenID : String
  storeID : String
  kioskID : String
  cartID : String
  amountCents : Int64
  currency : String
  method : String
  verifoneOpaqueToken : String
  hmacSignature : String
  expiresAt : String
  deriving DecidableEq, Repr

/-- `strings.ToLower`, as far as a comparison with ASCII text can tell: the dotted I and the Kelvin
sign are the only other letters whose lower case is ASCII. -/
def toLower (s : String) : String := s.map fun c =>
  if c = Char.ofNat 0x130 then 'i' else if c = Char.ofNat 0x212A then 'k' else c.toLower

def parseDomainMethod (m : String) : Option PaymentMethod :=
  if toLower m = "credit_debit" then some .creditDebit
  else if toLower m = "nfc_apple_pay" then some .nfcApplePay
  else if toLower m = "nfc_google_pay" then some .nfcGooglePay
  else if toLower m = "qr_code" then some .qrCode
  else if toLower m = "cash_recycler" then some .cashRecycler
  else none

variable (uuid : UUIDText)

def parseOfflineToken (now : ℤ) (t : OfflineTokenRequest) : Except String OfflineToken :=
  if t.tokenID = "" ∨ t.storeID = "" ∨ t.kioskID = "" ∨ t.cartID = "" ∨ t.amountCents ≤ 0 ∨
      t.currency = "" ∨ t.method = "" ∨ t.verifoneOpaqueToken = "" ∨ t.hmacSignature = "" ∨
      t.expiresAt = "" then .error "missing offline token field"
  else do
    let tokenID ← (uuid.parse t.tokenID).mapError fun _ => "invalid token_id"
    let storeID ← (uuid.parse t.storeID).mapError fun _ => "invalid store_id"
    let kioskID ← (uuid.parse t.kioskID).mapError fun _ => "invalid kiosk_id"
    let cartID ← (uuid.parse t.cartID).mapError fun _ => "invalid cart_id"
    match RFC3339.parse t.expiresAt, parseDomainMethod t.method with
    | none, _ => .error "invalid expires_at"
    | some _, none => .error "invalid method"
    | some expiresAt, some method =>
      pure {
        tokenID, storeID, kioskID, cartID
        amountCents := t.amountCents
        currency := t.currency
        method
        verifoneOpaqueToken := t.verifoneOpaqueToken
        hmacSignature := t.hmacSignature
        expiresAt
        createdAt := now
        updatedAt := now }

/-! ## Signatures -/

def OfflineToken.fields (t : OfflineToken) : List String :=
  [uuid.string t.tokenID, uuid.string t.storeID, uuid.string t.kioskID, uuid.string t.cartID,
    Decimal.format t.amountCents.toInt, t.currency, t.method.string, t.verifoneOpaqueToken,
    t.expiresAt.format]

def canonicalForm (t : OfflineToken) : String :=
  String.ofList (Separated.join '|' ((t.fields uuid).map String.toList))

variable (hmacSHA256 : List UInt8 → List UInt8 → List UInt8)

def sign (token : OfflineToken) (secret : List UInt8) : String :=
  Bytes.hex (hmacSHA256 secret (Bytes.utf8 (canonicalForm uuid token)))

def verify (secret : List UInt8) (token : OfflineToken) : Except String Unit :=
  if token.hmacSignature = "" then .error "offline: missing hmac signature"
  else
    let expected := Bytes.hex (hmacSHA256 secret (Bytes.utf8 (canonicalForm uuid token)))
    if Bytes.constantTimeEq (Bytes.utf8 expected) (Bytes.utf8 token.hmacSignature) then .ok ()
    else .error "offline: signature mismatch"

/-! ## What the signed form determines -/

/-- Two tokens have the same signed fields. -/
structure Agree (a b : OfflineToken) : Prop where
  tokenID : a.tokenID = b.tokenID
  storeID : a.storeID = b.storeID
  kioskID : a.kioskID = b.kioskID
  cartID : a.cartID = b.cartID
  amountCents : a.amountCents = b.amountCents
  currency : a.currency = b.currency
  method : a.method = b.method
  verifoneOpaqueToken : a.verifoneOpaqueToken = b.verifoneOpaqueToken
  expiresAt : a.expiresAt.unixNano = b.expiresAt.unixNano

/-- The three fields in which bars may stand, as they are signed. -/
def OfflineToken.middle (t : OfflineToken) : List Char :=
  Separated.join '|' [t.currency.toList, t.method.string.toList, t.verifoneOpaqueToken.toList]

/-- Two tokens that sign the same text, which is cut in other places or has lost another fraction of
a second. -/
structure Confused (a b : OfflineToken) : Prop where
  tokenID : a.tokenID = b.tokenID
  storeID : a.storeID = b.storeID
  kioskID : a.kioskID = b.kioskID
  cartID : a.cartID = b.cartID
  amountCents : a.amountCents = b.amountCents
  middle : a.middle = b.middle
  expiresAt : a.expiresAt.truncate = b.expiresAt.truncate
  differ : a.currency.toList.count '|' ≠ b.currency.toList.count '|' ∨
    a.expiresAt.nanosecond ≠ b.expiresAt.nanosecond

variable {uuid hmacSHA256}

theorem not_mem_method (method : PaymentMethod) : '|' ∉ method.string.toList := by
  cases method <;> decide

theorem not_mem_amount (amount : Int64) : '|' ∉ (Decimal.format amount.toInt).toList :=
  Decimal.not_mem_format (by decide) (by decide) _

theorem not_mem_expiry (expiresAt : RFC3339.Time) : '|' ∉ expiresAt.format.toList :=
  RFC3339.not_mem_format (by decide) (by decide) expiresAt

theorem PaymentMethod.string_injective : Function.Injective PaymentMethod.string := by
  intro m n h
  cases m <;> cases n <;> first | rfl | exact absurd h (by decide)

/-- A field without bars before a bar. -/
theorem field_inj {x y : String} {u v : List Char} (hx : '|' ∉ x.toList) (hy : '|' ∉ y.toList)
    (h : x.toList ++ '|' :: u = y.toList ++ '|' :: v) : x = y ∧ u = v := by
  have count : x.toList.count '|' = y.toList.count '|' := by
    rw [List.count_eq_zero.mpr hx, List.count_eq_zero.mpr hy]
  obtain ⟨front, back⟩ := Separated.cut_inj count h
  exact ⟨String.toList_inj.mp front, back⟩

theorem canonicalForm_eq (t : OfflineToken) : canonicalForm uuid t = String.ofList (
    (uuid.string t.tokenID).toList ++ '|' :: ((uuid.string t.storeID).toList ++ '|' ::
      ((uuid.string t.kioskID).toList ++ '|' :: ((uuid.string t.cartID).toList ++ '|' ::
        ((Decimal.format t.amountCents.toInt).toList ++ '|' ::
          (t.middle ++ '|' :: t.expiresAt.format.toList)))))) := by
  simp [canonicalForm, OfflineToken.fields, OfflineToken.middle, Separated.join]

theorem canonicalForm_inj (laws : uuid.Lawful) (noBar : ∀ u, '|' ∉ (uuid.string u).toList)
    {a b : OfflineToken} : canonicalForm uuid a = canonicalForm uuid b ↔
      a.tokenID = b.tokenID ∧ a.storeID = b.storeID ∧ a.kioskID = b.kioskID ∧ a.cartID = b.cartID ∧
        a.amountCents = b.amountCents ∧ a.middle = b.middle ∧
          a.expiresAt.truncate = b.expiresAt.truncate := by
  rw [canonicalForm_eq, canonicalForm_eq]
  constructor
  · intro h
    have h := String.ofList_injective h
    obtain ⟨tokenID, h⟩ := field_inj (noBar _) (noBar _) h
    obtain ⟨storeID, h⟩ := field_inj (noBar _) (noBar _) h
    obtain ⟨kioskID, h⟩ := field_inj (noBar _) (noBar _) h
    obtain ⟨cartID, h⟩ := field_inj (noBar _) (noBar _) h
    obtain ⟨amount, h⟩ := field_inj (not_mem_amount _) (not_mem_amount _) h
    -- No bar follows the one before the expiry.
    have count := congrArg (List.count '|') h
    simp only [List.count_append, List.count_cons_self, List.count_eq_zero.mpr (not_mem_expiry _)] at count
    obtain ⟨middle, expiry⟩ := Separated.cut_inj (by omega) h
    exact ⟨laws.string_injective tokenID, laws.string_injective storeID, laws.string_injective kioskID,
      laws.string_injective cartID, Int64.toInt_inj.mp (Decimal.format_injective amount), middle,
      RFC3339.format_inj.mp (String.toList_inj.mp expiry)⟩
  · rintro ⟨tokenID, storeID, kioskID, cartID, amount, middle, expiry⟩
    rw [tokenID, storeID, kioskID, cartID, amount, middle, RFC3339.format_inj.mpr expiry]

/-- Where the currencies hold equally many bars, the middle is cut in the same places. -/
theorem middle_inj {a b : OfflineToken}
    (bars : a.currency.toList.count '|' = b.currency.toList.count '|') (h : a.middle = b.middle) :
    a.currency = b.currency ∧ a.method = b.method ∧ a.verifoneOpaqueToken = b.verifoneOpaqueToken := by
  have count := congrArg (List.count '|') h
  simp only [OfflineToken.middle, Separated.count_join, List.map_cons, List.map_nil, List.sum_cons,
    List.sum_nil, List.count_eq_zero.mpr (not_mem_method _), List.length_cons, List.length_nil] at count
  have counts : [a.currency.toList, a.method.string.toList, a.verifoneOpaqueToken.toList].map
      (List.count '|') = [b.currency.toList, b.method.string.toList,
        b.verifoneOpaqueToken.toList].map (List.count '|') := by
    simp only [List.map_cons, List.map_nil, List.count_eq_zero.mpr (not_mem_method _), bars,
      List.cons.injEq, and_true, true_and]
    omega
  have fields := (Separated.join_inj counts).mp h
  simp only [List.cons.injEq, String.toList_inj, and_true] at fields
  exact ⟨fields.1, PaymentMethod.string_injective fields.2.1, fields.2.2⟩

/-- Two tokens have one signed form and differ in a signed field exactly when they are confused. -/
theorem confused_iff (laws : uuid.Lawful) (noBar : ∀ u, '|' ∉ (uuid.string u).toList)
    {a b : OfflineToken} :
    Confused a b ↔ canonicalForm uuid a = canonicalForm uuid b ∧ ¬ Agree a b := by
  rw [canonicalForm_inj laws noBar]
  constructor
  · intro h
    refine ⟨⟨h.tokenID, h.storeID, h.kioskID, h.cartID, h.amountCents, h.middle, h.expiresAt⟩, ?_⟩
    intro agree
    rcases h.differ with bars | fraction
    · exact bars (by rw [agree.currency])
    · have instant := agree.expiresAt
      rw [RFC3339.unixNano_eq, RFC3339.unixNano_eq b.expiresAt, h.expiresAt] at instant
      exact fraction (by omega)
  · rintro ⟨⟨tokenID, storeID, kioskID, cartID, amount, middle, expiry⟩, apart⟩
    refine ⟨tokenID, storeID, kioskID, cartID, amount, middle, expiry, ?_⟩
    by_contra aligned
    rw [not_or, ne_eq, ne_eq, not_not, not_not] at aligned
    obtain ⟨currency, method, opaqueToken⟩ := middle_inj aligned.1 middle
    refine apart ⟨tokenID, storeID, kioskID, cartID, amount, currency, method, opaqueToken, ?_⟩
    rw [RFC3339.unixNano_eq, RFC3339.unixNano_eq b.expiresAt, expiry, aligned.2]

/-- A signature is accepted on the tokens of one signed form. -/
theorem verify_sign {secret : List UInt8} (injective : Function.Injective (hmacSHA256 secret))
    (tag : ∀ message, hmacSHA256 secret message ≠ []) {a b : OfflineToken} :
    verify uuid hmacSHA256 secret { b with hmacSignature := sign uuid hmacSHA256 a secret } = .ok () ↔
      canonicalForm uuid a = canonicalForm uuid b := by
  have signed : sign uuid hmacSHA256 a secret ≠ "" := by
    intro empty
    have empty : Bytes.hex (hmacSHA256 secret _) = Bytes.hex [] := empty
    exact tag _ (Bytes.hex_injective empty)
  have accepted : Bytes.constantTimeEq (Bytes.utf8 (Bytes.hex (hmacSHA256 secret
      (Bytes.utf8 (canonicalForm uuid b))))) (Bytes.utf8 (sign uuid hmacSHA256 a secret)) = true ↔
        canonicalForm uuid a = canonicalForm uuid b := by
    rw [Bytes.constantTimeEq_iff, Bytes.utf8_inj, sign, Bytes.hex_injective.eq_iff, injective.eq_iff,
      Bytes.utf8_inj, eq_comm]
  -- The signature is not one of the signed fields.
  have same : canonicalForm uuid { b with hmacSignature := sign uuid hmacSHA256 a secret } =
      canonicalForm uuid b := rfl
  rw [verify, if_neg signed, same]
  dsimp only
  split
  · rename_i accepts
    exact ⟨fun _ => accepted.mp accepts, fun _ => rfl⟩
  · rename_i refuses
    exact ⟨nofun, fun h => absurd (accepted.mpr h) refuses⟩

/-- Of two tokens, one signed form or an accepted signature makes them agree exactly when they are
not confused. -/
theorem signature_determines_iff (laws : uuid.Lawful) (noBar : ∀ u, '|' ∉ (uuid.string u).toList)
    {secret : List UInt8} (injective : Function.Injective (hmacSHA256 secret))
    (tag : ∀ message, hmacSHA256 secret message ≠ []) (a b : OfflineToken) :
    ((canonicalForm uuid a = canonicalForm uuid b → Agree a b) ↔ ¬ Confused a b) ∧
      ((verify uuid hmacSHA256 secret { b with hmacSignature := sign uuid hmacSHA256 a secret } =
        .ok () → Agree a b) ↔ ¬ Confused a b) := by
  have pair : (canonicalForm uuid a = canonicalForm uuid b → Agree a b) ↔ ¬ Confused a b := by
    rw [confused_iff laws noBar, not_and_not_right]
  rw [verify_sign injective tag]
  exact ⟨pair, pair⟩

/-! ## One token at two instants -/

namespace Slip

def request (expiresAt : String) : OfflineTokenRequest where
  tokenID := "00000000-0000-0000-0000-000000000001"
  storeID := "00000000-0000-0000-0000-000000000002"
  kioskID := "00000000-0000-0000-0000-000000000003"
  cartID := "00000000-0000-0000-0000-000000000004"
  amountCents := 1000
  currency := "USD"
  method := "credit_debit"
  verifoneOpaqueToken := "tok-1"
  hmacSignature := "591985647840eaf705d6c281b523d5974856cb9935856150a0a7f2f62559d61b"
  expiresAt

/-- A time of the first second of 2030. -/
def newYear (nanosecond : ℕ) (nanosecond_lt : nanosecond < 10 ^ 9) : RFC3339.Time where
  year := 2030
  month := 1
  day := 1
  hour := 0
  minute := 0
  second := 0
  nanosecond
  zone := 0
  year_lt := by decide
  month_range := by decide
  day_range := by decide
  hour_lt := by decide
  minute_lt := by decide
  second_lt := by decide
  nanosecond_lt
  zone_le := RFC3339.utc_le

def token (expiresAt : RFC3339.Time) : OfflineToken where
  tokenID := 1
  storeID := 2
  kioskID := 3
  cartID := 4
  amountCents := 1000
  currency := "USD"
  method := .creditDebit
  verifoneOpaqueToken := "tok-1"
  hmacSignature := "591985647840eaf705d6c281b523d5974856cb9935856150a0a7f2f62559d61b"
  expiresAt
  createdAt := 0
  updatedAt := 0

def early : OfflineToken := token (newYear 0 RFC3339.whole_lt)

def late : OfflineToken := token (newYear 500000000 (by decide))

def secret : List UInt8 := Bytes.utf8 "offline-secret"

def tag : List UInt8 :=
  [0x59, 0x19, 0x85, 0x64, 0x78, 0x40, 0xea, 0xf7, 0x5, 0xd6, 0xc2, 0x81, 0xb5, 0x23, 0xd5,
    0x97, 0x48, 0x56, 0xcb, 0x99, 0x35, 0x85, 0x61, 0x50, 0xa0, 0xa7, 0xf2, 0xf6, 0x25, 0x59,
    0xd6, 0x1b]

/-- The MAC of the token, and collision free elsewhere. -/
def mac (_ message : List UInt8) : List UInt8 :=
  if message = Bytes.utf8 (canonicalForm .hyphenated early) then tag else tag ++ 0 :: message

/-- The signature of the token is accepted half a second later too. -/
theorem signature_determines_late :
    ¬ (verify .hyphenated mac secret { late with hmacSignature := sign .hyphenated mac early secret } =
      .ok () → Agree early late) := by
  have noBar : ∀ u, '|' ∉ (UUIDText.hyphenated.string u).toList :=
    UUIDText.not_mem_hyphenated (by decide) (by decide)
  have injective (secret : List UInt8) : Function.Injective (mac secret) := by
    intro m n h
    simp only [mac] at h
    split at h <;> split at h <;> simp_all
  have tagged (message : List UInt8) : mac secret message ≠ [] := by
    rw [mac]
    split <;> simp [tag]
  rw [(signature_determines_iff UUIDText.lawful_hyphenated noBar (injective secret) tagged early late).2,
    not_not]
  exact ⟨rfl, rfl, rfl, rfl, rfl, rfl, rfl, .inr (by decide)⟩

theorem parse_early : parseOfflineToken .hyphenated 0 (request "2030-01-01T00:00:00Z") = .ok early := by
  decide +kernel

theorem canonical_form_collides : ¬ ∀ (uuid : UUIDText) (now : ℤ) (ra rb : OfflineTokenRequest)
    (a b : OfflineToken), uuid.Lawful → parseOfflineToken uuid now ra = .ok a →
      parseOfflineToken uuid now rb = .ok b → canonicalForm uuid a = canonicalForm uuid b →
        Agree a b := by
  intro claim
  have fields : early.fields .hyphenated = late.fields .hyphenated := by decide +kernel
  have agree := claim .hyphenated 0 (request "2030-01-01T00:00:00Z") (request "2030-01-01T00:00:00.5Z")
    early late UUIDText.lawful_hyphenated parse_early (by decide +kernel)
    (by rw [canonicalForm, canonicalForm, fields])
  exact absurd agree.expiresAt (by decide)

end Slip

end PaymentOrchestrator
