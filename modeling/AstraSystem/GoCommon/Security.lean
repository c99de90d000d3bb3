import Mathlib.Algebra.Order.Group.Abs
import Mathlib.Algebra.Order.Ring.Int
import AstraSystem.Lib.Bytes
import AstraSystem.Lib.Decimal
import AstraSystem.Lib.Separated

/-!
# Signed requests (`security/hmac.go`)

A request is signed over four lines: its method in upper case, its path, its time and the hash of its body.
How far its time is from the clock is reckoned in nanoseconds of 64 bits.
-/

namespace GoCommon.Security

/-- A Go string: any bytes. -/
abbrev Text := List UInt8

/-- `hmac.New(sha256.New, key)` over a message, and `strings.ToUpper`. -/
structure Packages where
  hmac : List UInt8 → List UInt8 → List UInt8
  toUpper : Text → Text

def newline : UInt8 := 10

/-- `strconv.FormatInt` to base ten. -/
def formatInt (n : Int64) : Text := (Decimal.format n.toInt).toList.map fun c => UInt8.ofNat c.toNat

/-- `MaxClockSkew`, in nanoseconds. -/
def maxClockSkew : Int64 := 300000000000

/-- `time.Second`. -/
def second : Int64 := 1000000000

/-- `ErrRequestExpired` and `ErrSignatureMismatch`. -/
inductive VerifyError where
  | requestExpired (skew : Int64)
  | signatureMismatch
  deriving DecidableEq, Repr

def VerifyError.message : VerifyError → String
  | .requestExpired skew =>
    "security: request timestamp outside allowed window: skew=" ++ Decimal.format skew.toInt ++ "s"
  | .signatureMismatch => "security: signature mismatch"

variable (pkg : Packages)

def canonicalForm (method path : Text) (unixTimestamp : Int64) (bodySHA256Hex : Text) : Text :=
  pkg.toUpper method ++ newline :: path ++ newline :: formatInt unixTimestamp ++ newline :: bodySHA256Hex

/-- Lower-case hexadecimal digits. -/
def signRequest (key : List UInt8) (method path : Text) (unixTimestamp : Int64) (bodySHA256Hex : Text) : Text :=
  Bytes.utf8 (Bytes.hex (pkg.hmac key (canonicalForm pkg method path unixTimestamp bodySHA256Hex)))

/-- The distance as the code computes it. -/
def skewOf (now unixTimestamp : Int64) : Int64 :=
  let skew := now - unixTimestamp
  if skew < 0 then -skew else skew

def verifyRequest (now : Int64) (key : List UInt8) (method path : Text) (unixTimestamp : Int64)
    (bodySHA256Hex signature : Text) : Except VerifyError Unit :=
  let skew := skewOf now unixTimestamp
  if maxClockSkew < skew * second then .error (.requestExpired skew)
  else if Bytes.constantTimeEq (signRequest pkg key method path unixTimestamp bodySHA256Hex) signature then .ok ()
  else .error .signatureMismatch

/-! ## What is promised -/

/-- The distance in seconds. -/
def distance (now unixTimestamp : Int64) : ℤ := |now.toInt - unixTimestamp.toInt|

/-- Requests expire more than 300 seconds away from the clock, and no others do. -/
def ExpiresRightly (now unixTimestamp : Int64) : Prop :=
  ∀ key method path bodySHA256Hex signature,
    (∃ skew, verifyRequest pkg now key method path unixTimestamp bodySHA256Hex signature =
      .error (.requestExpired skew)) ↔ 300 < distance now unixTimestamp

/-- A signature is accepted for nothing but what was signed. -/
def Binds (now unixTimestamp : Int64) : Prop :=
  ∀ key method path bodySHA256Hex, newline ∉ path → newline ∉ bodySHA256Hex →
    ∀ method' path' unixTimestamp' bodySHA256Hex', newline ∉ path' → newline ∉ bodySHA256Hex' →
      verifyRequest pkg now key method' path' unixTimestamp' bodySHA256Hex'
          (signRequest pkg key method path unixTimestamp bodySHA256Hex) = .ok () →
        pkg.toUpper method' = pkg.toUpper method ∧ path' = path ∧ unixTimestamp' = unixTimestamp ∧
          bodySHA256Hex' = bodySHA256Hex

/-- What a distance is in a signed word of 64 bits, counted in nanoseconds. From 2^63 seconds on its complement is
counted. -/
def wrappedNanoseconds (d : ℤ) : ℤ := ((if d < 2 ^ 63 then d else 2 ^ 64 - d) * 1000000000).bmod (2 ^ 64)

section
variable {pkg} {now unixTimestamp : Int64} {key : List UInt8} {method path bodySHA256Hex signature : Text}

/-! ## The window -/

theorem distance_nonneg (now unixTimestamp : Int64) : 0 ≤ distance now unixTimestamp := abs_nonneg _

theorem toInt_skew_mul (now unixTimestamp : Int64) :
    (skewOf now unixTimestamp * second).toInt = wrappedNanoseconds (distance now unixTimestamp) := by
  have nowLow := now.le_toInt
  have nowHigh := now.toInt_lt
  have low := unixTimestamp.le_toInt
  have high := unixTimestamp.toInt_lt
  have nanos : second.toInt = 1000000000 := rfl
  have wraps (d : ℤ) (x : Int64) (same : x.toInt.bmod (2 ^ 64) = d.bmod (2 ^ 64)) :
      (x * second).toInt = (d * 1000000000).bmod (2 ^ 64) := by
    rw [Int64.toInt_mul, nanos, ← Int.bmod_mul_bmod, same, Int.bmod_mul_bmod]
  refine wraps _ _ ?_
  obtain ⟨turns, same⟩ : ∃ turns : ℤ,
      (now - unixTimestamp).toInt = now.toInt - unixTimestamp.toInt + 2 ^ 64 * turns := by
    refine ⟨-Int.bdiv (now.toInt - unixTimestamp.toInt) (2 ^ 64), ?_⟩
    rw [Int64.toInt_sub, Int.bmod_eq_self_sub_mul_bdiv]
    omega
  have least := (now - unixTimestamp).le_toInt
  have most := (now - unixTimestamp).toInt_lt
  -- the difference is off by one turn at most, and then its complement is counted
  have counted :
      (if (now - unixTimestamp).toInt < 0 then -(now - unixTimestamp).toInt else (now - unixTimestamp).toInt) =
      if distance now unixTimestamp < 2 ^ 63 then distance now unixTimestamp
      else 2 ^ 64 - distance now unixTimestamp := by
    obtain ⟨abs, _⟩ | ⟨abs, _⟩ := abs_cases (now.toInt - unixTimestamp.toInt)
    all_goals
      simp only [distance, abs]
      split <;> split <;> omega
  rw [← counted]
  unfold skewOf
  simp only [Int64.lt_iff_toInt_lt, Int64.toInt_zero]
  split
  · rw [Int64.toInt_neg, Int.bmod_bmod]
  · rfl

theorem maxClockSkew_lt_iff : maxClockSkew < skewOf now unixTimestamp * second ↔
    300000000000 < wrappedNanoseconds (distance now unixTimestamp) := by
  rw [Int64.lt_iff_toInt_lt, toInt_skew_mul]
  rfl

theorem expired_iff : (∃ skew, verifyRequest pkg now key method path unixTimestamp bodySHA256Hex signature =
    .error (.requestExpired skew)) ↔ 300000000000 < wrappedNanoseconds (distance now unixTimestamp) := by
  rw [← maxClockSkew_lt_iff]
  unfold verifyRequest
  constructor
  · rintro ⟨skew, h⟩
    by_cases late : maxClockSkew < skewOf now unixTimestamp * second
    · exact late
    · dsimp only at h
      rw [if_neg late] at h
      split at h <;> cases h
  · intro late
    exact ⟨_, if_pos late⟩

/-- Inside the window nothing wraps. -/
theorem wrappedNanoseconds_of_le {d : ℤ} (nonneg : 0 ≤ d) (near : d ≤ 300) :
    wrappedNanoseconds d = d * 1000000000 := by
  unfold wrappedNanoseconds
  rw [if_pos (by omega)]
  exact Int.bmod_eq_of_le (by omega) (by omega)

/-! ## The signature -/

theorem accepted_iff : verifyRequest pkg now key method path unixTimestamp bodySHA256Hex signature = .ok () ↔
    ¬ 300000000000 < wrappedNanoseconds (distance now unixTimestamp) ∧
      signRequest pkg key method path unixTimestamp bodySHA256Hex = signature := by
  rw [← maxClockSkew_lt_iff]
  unfold verifyRequest
  dsimp only
  split
  · rename_i late
    exact ⟨fun h => (by cases h), fun h => absurd late h.1⟩
  · rename_i timely
    split
    · rename_i same
      exact ⟨fun _ => ⟨timely, Bytes.constantTimeEq_iff.mp same⟩, fun _ => rfl⟩
    · rename_i differ
      exact ⟨fun h => (by cases h), fun h => absurd (Bytes.constantTimeEq_iff.mpr h.2) differ⟩

theorem digit_of_mem_format {n : ℤ} {c : Char} (mem : c ∈ (Decimal.format n).toList) :
    c.toNat < 128 ∧ c.toNat ≠ 10 := by
  by_cases digit : c.isDigit = true
  · obtain ⟨low, high⟩ : 48 ≤ c.toNat ∧ c.toNat ≤ 57 := Char.isDigit_iff_toNat.mp digit
    omega
  · obtain rfl : c = '-' := by
      by_contra other
      exact Decimal.not_mem_format (by simpa using digit) other n mem
    decide

theorem newline_notMem_formatInt (n : Int64) : newline ∉ formatInt n := by
  intro mem
  obtain ⟨c, hc, same⟩ := List.mem_map.mp mem
  have := digit_of_mem_format hc
  have same : c.toNat % 256 = 10 := by
    rw [← UInt8.toNat_ofNat']
    exact congrArg UInt8.toNat same
  omega

theorem formatInt_injective : Function.Injective formatInt := by
  have back (n : Int64) : (formatInt n).map (fun b => Char.ofNat b.toNat) = (Decimal.format n.toInt).toList := by
    rw [formatInt, List.map_map]
    refine (List.map_congr_left fun c hc => ?_).trans (List.map_id _)
    have ascii := (digit_of_mem_format hc).1
    show Char.ofNat (UInt8.ofNat c.toNat).toNat = c
    rw [UInt8.toNat_ofNat', Nat.mod_eq_of_lt (by omega), Char.ofNat_toNat]
  intro m n h
  have same := (back m).symm.trans (h ▸ back n)
  exact Int64.toInt_inj.mp (Decimal.format_injective (String.toList_inj.mp same))

theorem canonicalForm_eq_join (method path : Text) (unixTimestamp : Int64) (bodySHA256Hex : Text) :
    canonicalForm pkg method path unixTimestamp bodySHA256Hex =
      Separated.join newline [pkg.toUpper method, path, formatInt unixTimestamp, bodySHA256Hex] := by
  simp only [canonicalForm, Separated.join, List.append_assoc, List.cons_append]

/-- Lines without newlines are found from the end. -/
theorem canonicalForm_inj {method' path' : Text} {unixTimestamp' : Int64} {bodySHA256Hex' : Text}
    (hp : newline ∉ path) (hb : newline ∉ bodySHA256Hex)
    (hp' : newline ∉ path') (hb' : newline ∉ bodySHA256Hex')
    (h : canonicalForm pkg method' path' unixTimestamp' bodySHA256Hex' =
      canonicalForm pkg method path unixTimestamp bodySHA256Hex) :
    pkg.toUpper method' = pkg.toUpper method ∧ path' = path ∧ unixTimestamp' = unixTimestamp ∧
      bodySHA256Hex' = bodySHA256Hex := by
  rw [canonicalForm_eq_join, canonicalForm_eq_join] at h
  have counts := congrArg (List.count newline) h
  rw [Separated.count_join, Separated.count_join] at counts
  have plain {x : Text} (none : newline ∉ x) : x.count newline = 0 := List.count_eq_zero.mpr none
  have time (n : Int64) := plain (newline_notMem_formatInt n)
  simp only [List.map_cons, List.map_nil, List.sum_cons, List.sum_nil,
    plain hp, plain hb, plain hp', plain hb', time] at counts
  have method : (pkg.toUpper method').count newline = (pkg.toUpper method).count newline := by
    simp only [List.length_cons] at counts
    omega
  have lines := (Separated.join_inj (by
    simp only [List.map_cons, List.map_nil, method, plain hp, plain hb, plain hp', plain hb', time])).mp h
  simp only [List.cons.injEq, and_true] at lines
  exact ⟨lines.1, lines.2.1, formatInt_injective lines.2.2.1, lines.2.2.2⟩

theorem binds (injective : ∀ key, Function.Injective (pkg.hmac key)) (now unixTimestamp : Int64) :
    Binds pkg now unixTimestamp := by
  intro key method path bodySHA256Hex hp hb method' path' unixTimestamp' bodySHA256Hex' hp' hb' accepted
  have same := (accepted_iff.mp accepted).2
  exact canonicalForm_inj hp hb hp' hb' (injective key (Bytes.hex_injective (Bytes.utf8_inj.mp same)))

end

/-- **The window is exact for timestamps that are at most 300 seconds away, and for those whose distance
in nanoseconds is still more than 300 seconds after it has wrapped at 64 bits.** Signatures always
bind what was signed. -/
theorem window_exact_iff (injective : ∀ key, Function.Injective (pkg.hmac key)) (now unixTimestamp : Int64) :
    ExpiresRightly pkg now unixTimestamp ∧ Binds pkg now unixTimestamp ↔
      (300 < distance now unixTimestamp → 300000000000 < wrappedNanoseconds (distance now unixTimestamp)) := by
  constructor
  · rintro ⟨expires, -⟩ far
    exact expired_iff.mp ((expires [] [] [] [] []).mpr far)
  · intro condition
    refine ⟨fun key method path bodySHA256Hex signature => expired_iff.trans ⟨fun late => ?_, condition⟩,
      binds injective now unixTimestamp⟩
    by_contra near
    rw [wrappedNanoseconds_of_le (distance_nonneg _ _) (not_lt.mp near)] at late
    omega

namespace Kitchen

/-- The tag of a text under the empty key. -/
def tags (key : List UInt8) : List (List UInt8 × List UInt8) :=
  if key = [] then [(Bytes.utf8 "\n\n-16662022474\n",
    [0x38, 0x2a, 0x29, 0x23, 0x87, 0x00, 0x6a, 0xa5, 0xbb, 0xde, 0x25, 0x91, 0x47, 0xeb, 0xab, 0x2d,
      0xc9, 0xe5, 0xd5, 0x86, 0x57, 0xe2, 0x7b, 0xaa, 0xa6, 0x8e, 0x44, 0xde, 0xc4, 0xe7, 0x39, 0x8d])]
  else []

/-- HMAC-SHA256 of that text, and collision free elsewhere; upper case of ASCII. -/
def packages : Packages where
  hmac key := Bytes.hashOf (tags key)
  toUpper := List.map fun b => if 97 ≤ b ∧ b ≤ 122 then b - 32 else b

theorem hmac_injective (key : List UInt8) : Function.Injective (packages.hmac key) := by
  show Function.Injective (Bytes.hashOf (tags key))
  unfold tags
  split
  · exact Bytes.hashOf_injective (List.nodup_singleton _) (by decide)
  · exact Bytes.hashOf_injective List.nodup_nil fun _ he => absurd he List.not_mem_nil

def noon : Int64 := 1784721600

theorem window_exact_at_noon :
    (300 < distance noon (noon - 301) → 300000000000 < wrappedNanoseconds (distance noon (noon - 301))) ∧
      ExpiresRightly packages noon (noon - 301) ∧ Binds packages noon (noon - 301) :=
  ⟨by decide,
    (window_exact_iff packages hmac_injective noon (noon - 301)).mpr (by decide)⟩

/-- 2^64 nanoseconds before, and a little less than a second. -/
def centuriesAgo : Int64 := noon - 18446744074

/-- A request of 584 years ago does not expire. -/
theorem centuries_accepted : 300 < distance noon centuriesAgo ∧
    verifyRequest packages noon [] [] [] centuriesAgo [] (signRequest packages [] [] [] centuriesAgo []) = .ok () ∧
      ¬ (ExpiresRightly packages noon centuriesAgo ∧ Binds packages noon centuriesAgo) := by
  have far : 300 < distance noon centuriesAgo := by decide
  have near : ¬ 300000000000 < wrappedNanoseconds (distance noon centuriesAgo) := by decide
  have accepted := accepted_iff.mpr ⟨near, (rfl : signRequest packages [] [] [] centuriesAgo [] = _)⟩
  refine ⟨far, accepted, fun h => ?_⟩
  obtain ⟨skew, expired⟩ := (h.1 [] [] [] [] _).mpr far
  cases accepted.symm.trans expired

end Kitchen

end GoCommon.Security
