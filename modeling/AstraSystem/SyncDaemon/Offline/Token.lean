import AstraSystem.Lib.Bytes
import AstraSystem.SyncDaemon.Types

/-!
# Offline payment tokens (`offline/token.rs`, `crypto/mod.rs`)

A token is signed over its canonical bytes. These are documented as a
length-prefixed encoding, but the three strings stand back to back in them with
no lengths, so the cuts between the strings are not signed.
-/

namespace SyncDaemon.Offline

open Bytes (utf8 be64)

structure OfflinePaymentToken where
  amountCents : UInt64
  timestampMs : UInt64
  kioskId : String
  transactionId : String
  itemsHash : String
  deriving DecidableEq, Repr

def OfflinePaymentToken.canonicalBytes (self : OfflinePaymentToken) : List UInt8 :=
  be64 self.amountCents ++ be64 self.timestampMs ++ utf8 self.kioskId ++
    utf8 self.transactionId ++ utf8 self.itemsHash

structure SignedOfflineToken where
  token : OfflinePaymentToken
  signature : String
  deriving DecidableEq, Repr

structure HmacKey where
  bytes : List UInt8
  size : bytes.length = 32

/-- The `hmac`, `sha2` and `hex` crates. -/
structure Crates where
  hmacSha256 : List UInt8 → List UInt8 → List UInt8
  hexEncode : List UInt8 → String
  hexDecode : String → Except String (List UInt8)

variable (crates : Crates)

def hmacSign (key : HmacKey) (message : List UInt8) : List UInt8 :=
  crates.hmacSha256 key.bytes message

def hmacVerify (key : HmacKey) (message tag : List UInt8) : Except AstraSyncError Unit :=
  let expected := hmacSign crates key message
  if Bytes.constantTimeEq expected tag then .ok ()
  else .error (.crypto "HMAC verification failed")

structure TokenSigner where
  key : HmacKey

namespace TokenSigner

def sign (self : TokenSigner) (token : OfflinePaymentToken) :
    Except AstraSyncError SignedOfflineToken :=
  let tag := hmacSign crates self.key token.canonicalBytes
  .ok ⟨token, crates.hexEncode tag⟩

def verify (self : TokenSigner) (signed : SignedOfflineToken) :
    Except AstraSyncError OfflinePaymentToken := do
  let expected := hmacSign crates self.key signed.token.canonicalBytes
  let provided ← (crates.hexDecode signed.signature).mapError
    fun e => .crypto ("invalid signature hex: " ++ e)
  hmacVerify crates self.key signed.token.canonicalBytes provided
  if provided ≠ expected then .error (.crypto "offline token signature mismatch")
  else .ok signed.token

end TokenSigner

/-! ## What the canonical bytes determine -/

namespace OfflinePaymentToken

/-- The strings of a token, as they are signed. -/
def text (t : OfflinePaymentToken) : String := t.kioskId ++ t.transactionId ++ t.itemsHash

theorem canonicalBytes_eq (t : OfflinePaymentToken) :
    t.canonicalBytes = be64 t.amountCents ++ (be64 t.timestampMs ++ utf8 t.text) := by
  simp only [canonicalBytes, text, Bytes.utf8_append, List.append_assoc]

theorem canonicalBytes_inj (t u : OfflinePaymentToken) :
    t.canonicalBytes = u.canonicalBytes ↔
      t.amountCents = u.amountCents ∧ t.timestampMs = u.timestampMs ∧ t.text = u.text := by
  rw [canonicalBytes_eq, canonicalBytes_eq]
  constructor
  · intro h
    obtain ⟨amount, rest⟩ := List.append_inj h rfl
    obtain ⟨timestamp, text⟩ := List.append_inj rest rfl
    exact ⟨Bytes.be64_inj.mp amount, Bytes.be64_inj.mp timestamp, Bytes.utf8_inj.mp text⟩
  · rintro ⟨amount, timestamp, text⟩
    rw [amount, timestamp, text]

/-- Two tokens sign the same numbers and the same text, but cut the text in different places. -/
structure Shifted (t u : OfflinePaymentToken) : Prop where
  amount : t.amountCents = u.amountCents
  timestamp : t.timestampMs = u.timestampMs
  text : t.text = u.text
  cut : t.kioskId.utf8ByteSize ≠ u.kioskId.utf8ByteSize ∨
    t.transactionId.utf8ByteSize ≠ u.transactionId.utf8ByteSize

/-- Strings cut from one text at the same place are the same. -/
theorem append_inj_of_size {a b c d : String} (h : a ++ b = c ++ d)
    (size : a.utf8ByteSize = c.utf8ByteSize) : a = c ∧ b = d := by
  rw [← Bytes.utf8_inj, Bytes.utf8_append, Bytes.utf8_append] at h
  obtain ⟨front, back⟩ := List.append_inj h (by simpa using size)
  exact ⟨Bytes.utf8_inj.mp front, Bytes.utf8_inj.mp back⟩

/-- Different tokens have one signature exactly when they are shifted against each other. -/
theorem shifted_iff (t u : OfflinePaymentToken) :
    t.Shifted u ↔ t.canonicalBytes = u.canonicalBytes ∧ t ≠ u := by
  rw [canonicalBytes_inj]
  constructor
  · intro h
    refine ⟨⟨h.amount, h.timestamp, h.text⟩, ?_⟩
    rintro rfl
    cases h.cut with
    | inl kiosk => exact kiosk rfl
    | inr transaction => exact transaction rfl
  · rintro ⟨⟨amount, timestamp, text⟩, ne⟩
    refine ⟨amount, timestamp, text, ?_⟩
    by_contra aligned
    rw [not_or, ne_eq, ne_eq, not_not, not_not] at aligned
    obtain ⟨kiosk, rest⟩ := append_inj_of_size
      (by simpa only [OfflinePaymentToken.text, String.append_assoc] using text) aligned.1
    obtain ⟨transaction, items⟩ := append_inj_of_size rest aligned.2
    cases t
    cases u
    simp_all

/-- Every token that signs any text at all is shifted against another one: all of the text can
stand in the kiosk id, or all of it in the transaction id. -/
theorem exists_shifted {t : OfflinePaymentToken} (h : t.text ≠ "") : ∃ u, t.Shifted u := by
  have kiosk : (⟨t.amountCents, t.timestampMs, t.text, "", ""⟩ : OfflinePaymentToken).text =
      t.text := by
    rw [text, String.append_empty, String.append_empty]
  have transaction : (⟨t.amountCents, t.timestampMs, "", t.text, ""⟩ : OfflinePaymentToken).text =
      t.text := by
    rw [text, String.append_empty, String.empty_append]
  by_cases whole : t.kioskId.utf8ByteSize = t.text.utf8ByteSize
  · refine ⟨⟨t.amountCents, t.timestampMs, "", t.text, ""⟩, rfl, rfl, transaction.symm, .inl ?_⟩
    rw [whole]
    exact mt String.utf8ByteSize_eq_zero_iff.mp h
  · exact ⟨⟨t.amountCents, t.timestampMs, t.text, "", ""⟩, rfl, rfl, kiosk.symm, .inl whole⟩

theorem text_eq_empty_iff (t : OfflinePaymentToken) :
    t.text = "" ↔ t.kioskId = "" ∧ t.transactionId = "" ∧ t.itemsHash = "" := by
  simp only [text, ← String.utf8ByteSize_eq_zero_iff, String.utf8ByteSize_append]
  omega

end OfflinePaymentToken

/-! ## What a signature authorises -/

/-- `verify` accepts the signature `sign` made for `t` on the token `u`. -/
def Accepts (signer : TokenSigner) (t u : OfflinePaymentToken) : Prop :=
  ∃ signed, signer.sign crates t = .ok signed ∧
    ∃ v, signer.verify crates ⟨u, signed.signature⟩ = .ok v

variable {crates}

theorem accepts_iff (roundTrip : ∀ bytes, crates.hexDecode (crates.hexEncode bytes) = .ok bytes)
    {signer : TokenSigner} (collisionFree : Function.Injective (hmacSign crates signer.key))
    (t u : OfflinePaymentToken) :
    Accepts crates signer t u ↔ t.canonicalBytes = u.canonicalBytes := by
  have eq : Accepts crates signer t u ↔
      hmacSign crates signer.key t.canonicalBytes =
        hmacSign crates signer.key u.canonicalBytes := by
    simp only [Accepts, TokenSigner.sign, Except.ok.injEq, exists_eq_left', TokenSigner.verify,
      roundTrip, Except.mapError, hmacVerify]
    by_cases same : hmacSign crates signer.key t.canonicalBytes =
        hmacSign crates signer.key u.canonicalBytes
    · refine iff_of_true ⟨u, ?_⟩ same
      simp only [← same, Bytes.constantTimeEq_iff.mpr, bind, Except.bind, ↓reduceIte]
      exact if_neg (not_not_intro rfl)
    · refine iff_of_false ?_ same
      rintro ⟨v, h⟩
      have differ : Bytes.constantTimeEq (hmacSign crates signer.key u.canonicalBytes)
          (hmacSign crates signer.key t.canonicalBytes) = false :=
        Bool.eq_false_iff.mpr fun h => same (Bytes.constantTimeEq_iff.mp h).symm
      simp [bind, Except.bind, differ] at h
  rw [eq]
  exact collisionFree.eq_iff

/-- **A signature binds a token up to the cuts between its strings.** Of two tokens, equal bytes
or an accepted signature make them equal exactly when they are not shifted against each other;
so the only tokens whose bytes and signatures stand for no other are those without any text. -/
theorem signature_binds_iff
    (roundTrip : ∀ bytes, crates.hexDecode (crates.hexEncode bytes) = .ok bytes)
    (signer : TokenSigner) (collisionFree : Function.Injective (hmacSign crates signer.key))
    (t : OfflinePaymentToken) :
    (∀ u, ((t.canonicalBytes = u.canonicalBytes → t = u) ↔ ¬ t.Shifted u) ∧
      ((Accepts crates signer t u → t = u) ↔ ¬ t.Shifted u)) ∧
    ((∀ u, t.canonicalBytes = u.canonicalBytes → t = u) ↔
      t.kioskId = "" ∧ t.transactionId = "" ∧ t.itemsHash = "") ∧
    ((∀ u, Accepts crates signer t u → t = u) ↔
      t.kioskId = "" ∧ t.transactionId = "" ∧ t.itemsHash = "") := by
  have pair (u : OfflinePaymentToken) :
      (t.canonicalBytes = u.canonicalBytes → t = u) ↔ ¬ t.Shifted u := by
    rw [t.shifted_iff, not_and_not_right]
  have all : (∀ u, t.canonicalBytes = u.canonicalBytes → t = u) ↔
      t.kioskId = "" ∧ t.transactionId = "" ∧ t.itemsHash = "" := by
    rw [← t.text_eq_empty_iff]
    constructor
    · intro h
      by_contra text
      obtain ⟨u, shifted⟩ := OfflinePaymentToken.exists_shifted text
      exact (pair u).mp (h u) shifted
    · intro empty u
      apply (pair u).mpr
      intro shifted
      have empty' := shifted.text.symm.trans empty
      obtain ⟨tk, tt, _⟩ := t.text_eq_empty_iff.mp empty
      obtain ⟨uk, ut, _⟩ := u.text_eq_empty_iff.mp empty'
      cases shifted.cut with
      | inl kiosk => exact kiosk (by rw [tk, uk])
      | inr transaction => exact transaction (by rw [tt, ut])
  simp only [accepts_iff roundTrip collisionFree]
  exact ⟨fun u => ⟨pair u, pair u⟩, all, all⟩

def paid : OfflinePaymentToken := ⟨1234, 1700000000000, "kiosk-1", "7001", "a3f5c9e2"⟩

/-- A digit moves from the transaction id to the kiosk id. -/
def moved : OfflinePaymentToken := ⟨1234, 1700000000000, "kiosk-17", "001", "a3f5c9e2"⟩

theorem canonical_bytes_collide :
    ¬ ∀ t u : OfflinePaymentToken, t.canonicalBytes = u.canonicalBytes → t = u := by
  intro h
  exact absurd (h paid moved (by decide)) (by decide)

def paidTag : List UInt8 :=
  [0xb3, 0x64, 0xe5, 0x2c, 0x9e, 0xcc, 0x41, 0x4d, 0x22, 0xa9, 0x3f, 0x3f, 0x8b, 0x5e, 0x74,
    0xde, 0x96, 0x61, 0xd, 0xb0, 0x9c, 0x36, 0xba, 0xab, 0x3c, 0x6b, 0x78, 0x28, 0x19, 0xa4,
    0x96, 0x5]

/-- The MAC of `paid` under the key `00 01 .. 1f`, and collision free elsewhere. -/
def paidCrates : Crates where
  hmacSha256 _ message :=
    if message = paid.canonicalBytes then paidTag else paidTag ++ 0 :: message
  hexEncode := Bytes.hex
  hexDecode s := match Bytes.unhex s with
    | some bytes => .ok bytes
    | none => .error "Odd number of digits"

/-- The signature the kiosk made for one token is accepted on the other. -/
theorem signature_binds_moved :
    ¬ (Accepts paidCrates ⟨⟨List.range 32 |>.map UInt8.ofNat, by decide⟩⟩ paid moved →
      paid = moved) := by
  have roundTrip (bytes : List UInt8) :
      paidCrates.hexDecode (paidCrates.hexEncode bytes) = .ok bytes := by
    simp only [paidCrates, Bytes.unhex_hex]
  have collisionFree (key : HmacKey) : Function.Injective (hmacSign paidCrates key) := by
    intro m n h
    simp only [hmacSign, paidCrates] at h
    split at h <;> split at h <;> simp_all
  intro h
  exact (((signature_binds_iff roundTrip _ (collisionFree _) paid).1 moved).2.mp h)
    ⟨rfl, rfl, by decide, .inl (by decide)⟩

end SyncDaemon.Offline
