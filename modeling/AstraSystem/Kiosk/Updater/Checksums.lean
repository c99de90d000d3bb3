import Mathlib.Data.List.Induction
import AstraSystem.Kiosk.Updater.Crypto
import AstraSystem.Lib.Separated

/-!
# Which texts pass for a checksum

Two code units that are no hexadecimal number are a byte nevertheless: `parseInt` skips blanks, takes a sign, stops
where a digit is missing, and what is no number is stored as zero.
-/

namespace Kiosk.Updater

/-- How two code units come to stand for a byte. -/
inductive ReadsAs (first second : ℕ) : UInt8 → Prop
  | number {high low : ℕ} : hexDigitValue first = some high → hexDigitValue second = some low →
      ReadsAs first second (.ofNat (16 * high + low))
  | digit {n : ℕ} : hexDigitValue first = some n → hexDigitValue second = none → ReadsAs first second (.ofNat n)
  | skipped {n : ℕ} : whitespace first = true ∨ first = 43 → hexDigitValue second = some n →
      ReadsAs first second (.ofNat n)
  | negative {n : ℕ} : first = 45 → hexDigitValue second = some n → ReadsAs first second (.ofNat (256 - n))
  | nothing : hexDigitValue first = none →
      hexDigitValue second = none ∨ ¬ (whitespace first = true ∨ first = 43) ∧ first ≠ 45 → ReadsAs first second 0

/-- Two code units for each byte. -/
inductive Reads : List ℕ → List UInt8 → Prop
  | nil : Reads [] []
  | cons {first second : ℕ} {byte : UInt8} {units : List ℕ} {bytes : List UInt8} : ReadsAs first second byte →
      Reads units bytes → Reads (first :: second :: units) (byte :: bytes)

/-- `sha256`, a colon and the digest in hexadecimal, the letters in any case. -/
def RightText (digest : List UInt8) (expected : String) : Prop :=
  ∃ algorithm hex, expected.toList = algorithm ++ ':' :: hex ∧
    String.ofList (algorithm.map Char.toLower) = "sha256" ∧ hex.length = 64 ∧ Bytes.unhexChars hex = some digest

/-- No text but hexadecimal digits reads as the digest. -/
def DigitsOnly (digest : List UInt8) (expected : String) : Prop :=
  ∀ algorithm hex, expected.toList = algorithm ++ ':' :: hex →
    String.ofList (algorithm.map Char.toLower) = "sha256" → ':' ∉ hex →
    Reads (Collation.codeUnits (String.ofList hex)) digest →
    ∀ unit ∈ Collation.codeUnits (String.ofList hex), (hexDigitValue unit).isSome

/-! ## What `parseInt` reads -/

theorem hexDigitValue_eq_some {unit n : ℕ} (h : hexDigitValue unit = some n) :
    n < 16 ∧ (48 ≤ unit ∧ unit ≤ 57 ∨ 65 ≤ unit ∧ unit ≤ 70 ∨ 97 ≤ unit ∧ unit ≤ 102) := by
  have table : ∀ unit < 128, (Bytes.hexValue (Char.ofNat unit)).all fun n => n < 16 ∧
      (48 ≤ unit ∧ unit ≤ 57 ∨ 65 ≤ unit ∧ unit ≤ 70 ∨ 97 ≤ unit ∧ unit ≤ 102) := by decide
  unfold hexDigitValue at h
  split at h
  · rename_i ascii
    simpa [h] using table unit ascii
  · cases h

theorem hexDigitValue_toNat (c : Char) : hexDigitValue c.toNat = Bytes.hexValue c := by
  unfold hexDigitValue
  split
  · rw [Char.ofNat_toNat]
  · unfold Bytes.hexValue
    rw [if_neg (by omega), if_neg (by omega), if_neg (by omega)]

theorem hexDigitValue_of_skipped {unit : ℕ} (skipped : whitespace unit = true ∨ unit = 43) :
    hexDigitValue unit = none := by
  cases digit : hexDigitValue unit with
  | none => rfl
  | some n =>
    have range := (hexDigitValue_eq_some digit).2
    simp only [whitespace, Bool.or_eq_true, decide_eq_true_eq, Bool.and_eq_true, List.mem_cons,
      List.not_mem_nil, or_false] at skipped
    omega

theorem hexByte_eq_iff {first second : ℕ} {byte : UInt8} :
    hexByte first second = byte ↔ ReadsAs first second byte := by
  constructor
  · rintro rfl
    unfold hexByte
    cases high : hexDigitValue first with
    | some high =>
      cases low : hexDigitValue second with
      | some low => exact .number ‹_› low
      | none => exact .digit ‹_› low
    | none =>
      cases low : hexDigitValue second with
      | none => exact .nothing high (.inl low)
      | some n =>
        dsimp only
        split
        · rename_i skipped
          exact .skipped (by simpa using skipped) low
        · rename_i kept
          split
          · rename_i negative
            exact .negative negative low
          · rename_i positive
            exact .nothing high (.inr ⟨by simpa using kept, positive⟩)
  · intro h
    unfold hexByte
    cases h with
    | number high low => rw [high, low]
    | digit high low => rw [high, low]
    | skipped skipped low =>
      rw [hexDigitValue_of_skipped skipped, low]
      exact if_pos (by simpa using skipped)
    | negative negative low =>
      subst negative
      rw [show hexDigitValue 45 = none by decide, low]
      rfl
    | nothing high rest =>
      rw [high]
      obtain low | ⟨kept, positive⟩ := rest
      · rw [low]
      · cases hexDigitValue second with
        | none => rfl
        | some n => exact (if_neg (by simpa using kept)).trans (if_neg positive)

theorem hexBytes_eq_iff {units : List ℕ} {bytes : List UInt8} :
    units.length % 2 = 0 ∧ hexBytes units = bytes ↔ Reads units bytes := by
  induction units using hexBytes.induct generalizing bytes with
  | case1 first second units ih =>
    constructor
    · rintro ⟨even, rfl⟩
      exact .cons (hexByte_eq_iff.mp rfl) (ih.mp ⟨by simp only [List.length_cons] at even; omega, rfl⟩)
    · intro h
      cases h with
      | cons pair rest =>
        obtain ⟨even, same⟩ := ih.mpr rest
        refine ⟨by simp only [List.length_cons]; omega, ?_⟩
        rw [hexBytes, hexByte_eq_iff.mpr pair, same]
  | case2 units short =>
    match units with
    | [] =>
      constructor
      · rintro ⟨-, rfl⟩
        exact .nil
      · intro h
        cases h
        exact ⟨rfl, rfl⟩
    | [unit] =>
      constructor
      · rintro ⟨odd, -⟩
        cases odd
      · intro h
        cases h
    | first :: second :: units => exact absurd rfl (short first second units)

theorem Reads.length {units : List ℕ} {bytes : List UInt8} (h : Reads units bytes) :
    units.length = 2 * bytes.length := by
  induction h with
  | nil => rfl
  | cons _ _ ih =>
    simp only [List.length_cons, ih]
    omega

theorem Reads.append {units units' : List ℕ} {bytes bytes' : List UInt8} (h : Reads units bytes)
    (h' : Reads units' bytes') : Reads (units ++ units') (bytes ++ bytes') := by
  induction h with
  | nil => exact h'
  | cons pair _ ih => exact .cons pair ih

/-! ## Hexadecimal text -/

theorem codeUnits_cons (c : Char) (hex : List Char) :
    Collation.codeUnits (String.ofList (c :: hex)) =
      Collation.units c ++ Collation.codeUnits (String.ofList hex) := by
  simp only [Collation.codeUnits, String.toList_ofList, List.flatMap_cons]

theorem codeUnits_of_ascii {hex : List Char} (ascii : ∀ c ∈ hex, c.toNat < 128) :
    Collation.codeUnits (String.ofList hex) = hex.map Char.toNat := by
  induction hex with
  | nil => rfl
  | cons c hex ih =>
    rw [codeUnits_cons, ih fun d hd => ascii d (List.mem_cons_of_mem c hd), Collation.units,
      if_pos (by have := ascii c List.mem_cons_self; omega)]
    rfl

theorem lt_of_hexValue {c : Char} (h : (Bytes.hexValue c).isSome) : c.toNat < 128 := by
  obtain ⟨n, digit⟩ := Option.isSome_iff_exists.mp h
  rw [← hexDigitValue_toNat] at digit
  have range := (hexDigitValue_eq_some digit).2
  omega

/-- Half of a character is no digit. -/
theorem hexValue_of_units {c : Char} (h : ∀ unit ∈ Collation.units c, (hexDigitValue unit).isSome) :
    (Bytes.hexValue c).isSome := by
  unfold Collation.units at h
  split at h
  · rw [← hexDigitValue_toNat]
    exact h _ List.mem_cons_self
  · obtain ⟨n, digit⟩ := Option.isSome_iff_exists.mp (h _ List.mem_cons_self)
    have range := (hexDigitValue_eq_some digit).2
    omega

theorem forall_hexValue_iff {hex : List Char} :
    (∀ unit ∈ Collation.codeUnits (String.ofList hex), (hexDigitValue unit).isSome) ↔
      ∀ c ∈ hex, (Bytes.hexValue c).isSome := by
  constructor
  · intro digits c hc
    refine hexValue_of_units fun unit hunit => digits unit ?_
    rw [Collation.codeUnits, String.toList_ofList]
    exact List.mem_flatMap.mpr ⟨c, hc, hunit⟩
  · intro digits unit hunit
    rw [codeUnits_of_ascii fun c hc => lt_of_hexValue (digits c hc)] at hunit
    obtain ⟨c, hc, rfl⟩ := List.mem_map.mp hunit
    rw [hexDigitValue_toNat]
    exact digits c hc

theorem unhexChars_eq_some {hex : List Char} {bytes : List UInt8} :
    Bytes.unhexChars hex = some bytes ↔
      Reads (hex.map Char.toNat) bytes ∧ ∀ c ∈ hex, (Bytes.hexValue c).isSome := by
  induction hex using List.twoStepInduction generalizing bytes with
  | nil =>
    constructor
    · rintro ⟨⟩
      exact ⟨.nil, fun _ none => absurd none List.not_mem_nil⟩
    · rintro ⟨h, -⟩
      cases h
      rfl
  | singleton c =>
    constructor
    · rintro ⟨⟩
    · rintro ⟨h, -⟩
      cases h
  | cons_cons high low rest ih =>
    rw [Bytes.unhexChars]
    constructor
    · intro h
      split at h
      · rename_i x y bytes' hx hy hrest
        cases h
        obtain ⟨reads, digits⟩ := ih.mp hrest
        refine ⟨.cons (.number ?_ ?_) reads, ?_⟩
        · rw [hexDigitValue_toNat, hx]
        · rw [hexDigitValue_toNat, hy]
        · rintro c (_ | ⟨_, _ | ⟨_, hc⟩⟩)
          · rw [hx]; rfl
          · rw [hy]; rfl
          · exact digits c hc
      · cases h
    · rintro ⟨reads, digits⟩
      obtain ⟨x, hx⟩ := Option.isSome_iff_exists.mp (digits high List.mem_cons_self)
      obtain ⟨y, hy⟩ := Option.isSome_iff_exists.mp (digits low (List.mem_cons_of_mem _ List.mem_cons_self))
      cases reads with
      | cons pair others =>
        rw [hx, hy, ih.mpr ⟨others, fun c hc => digits c (List.mem_cons_of_mem _ (List.mem_cons_of_mem _ hc))⟩,
          ← hexByte_eq_iff.mpr pair, hexByte, hexDigitValue_toNat, hexDigitValue_toNat, hx, hy]

/-! ## The texts that are accepted -/

theorem notMem_algorithm {algorithm : List Char} {c : Char}
    (h : String.ofList (algorithm.map Char.toLower) = "sha256") (other : c.toLower ∉ "sha256".toList) : c ∉ algorithm := by
  intro mem
  refine other ?_
  rw [← h, String.toList_ofList]
  exact List.mem_map_of_mem mem

/-- There is no colon before the one that ends the algorithm. -/
theorem colon_notMem {algorithm : List Char} (h : String.ofList (algorithm.map Char.toLower) = "sha256") :
    ':' ∉ algorithm := notMem_algorithm h (by decide)

section
variable {crypto : Crypto} {blob : Blob} {expected : String}

theorem accepted_iff : verifyBlobChecksum crypto blob expected = .ok true ↔
    ∃ algorithm hex, expected.toList = algorithm ++ ':' :: hex ∧
      String.ofList (algorithm.map Char.toLower) = "sha256" ∧ ':' ∉ hex ∧
      Reads (Collation.codeUnits (String.ofList hex)) (crypto.sha256 blob) := by
  rw [verifyBlobChecksum_eq_true]
  unfold parseChecksum
  constructor
  · intro h
    split at h
    · rename_i algorithm hex fields
      obtain ⟨same, -, none⟩ := Separated.splitOn_eq_pair.mp fields
      dsimp only at h
      split at h
      · cases h
      · rename_i even
        obtain ⟨lower, digest⟩ := Prod.mk.inj (Except.ok.inj h)
        exact ⟨algorithm, hex, same, lower, none, hexBytes_eq_iff.mp ⟨not_not.mp even, digest⟩⟩
    · cases h
  · rintro ⟨algorithm, hex, same, lower, none, reads⟩
    obtain ⟨even, digest⟩ := hexBytes_eq_iff.mpr reads
    rw [Separated.splitOn_eq_pair.mpr ⟨same, colon_notMem lower, none⟩]
    simp only [even, ne_eq, not_true_eq_false, ↓reduceIte, lower, digest]

/-- The right text is made of digits. -/
theorem rightText_iff (length : (crypto.sha256 blob).length = 32) : RightText (crypto.sha256 blob) expected ↔
    ∃ algorithm hex, expected.toList = algorithm ++ ':' :: hex ∧
      String.ofList (algorithm.map Char.toLower) = "sha256" ∧ ':' ∉ hex ∧
      Reads (Collation.codeUnits (String.ofList hex)) (crypto.sha256 blob) ∧
      ∀ unit ∈ Collation.codeUnits (String.ofList hex), (hexDigitValue unit).isSome := by
  have ascii {hex : List Char} (digits : ∀ c ∈ hex, (Bytes.hexValue c).isSome) :
      Collation.codeUnits (String.ofList hex) = hex.map Char.toNat :=
    codeUnits_of_ascii fun c hc => lt_of_hexValue (digits c hc)
  constructor
  · rintro ⟨algorithm, hex, same, lower, -, value⟩
    obtain ⟨reads, digits⟩ := unhexChars_eq_some.mp value
    refine ⟨algorithm, hex, same, lower, ?_, (ascii digits).symm ▸ reads, forall_hexValue_iff.mpr digits⟩
    intro colon
    exact absurd (digits _ colon) (by decide)
  · rintro ⟨algorithm, hex, same, lower, -, reads, digits⟩
    have digits := forall_hexValue_iff.mp digits
    rw [ascii digits] at reads
    refine ⟨algorithm, hex, same, lower, ?_, unhexChars_eq_some.mpr ⟨reads, digits⟩⟩
    have units := reads.length
    rw [List.length_map] at units
    omega

theorem right_of_accepted_iff (length : (crypto.sha256 blob).length = 32) :
    (verifyBlobChecksum crypto blob expected = .ok true ↔ RightText (crypto.sha256 blob) expected) ↔
      DigitsOnly (crypto.sha256 blob) expected := by
  rw [rightText_iff length, accepted_iff]
  constructor
  · intro right algorithm hex same lower none reads
    obtain ⟨algorithm', hex', same', lower', -, -, digits⟩ :=
      right.mp ⟨algorithm, hex, same, lower, none, reads⟩
    -- the colon is in one place only
    have cut := (Separated.cutFirst_eq_some.mpr ⟨same, colon_notMem lower⟩).symm.trans
      (Separated.cutFirst_eq_some.mpr ⟨same', colon_notMem lower'⟩)
    obtain ⟨-, rfl⟩ := Prod.mk.inj (Option.some.inj cut)
    exact digits
  · intro only
    constructor
    · rintro ⟨algorithm, hex, same, lower, none, reads⟩
      exact ⟨algorithm, hex, same, lower, none, reads, only algorithm hex same lower none reads⟩
    · rintro ⟨algorithm, hex, same, lower, none, reads, -⟩
      exact ⟨algorithm, hex, same, lower, none, reads⟩

end

/-! ## The digests that have other texts -/

/-- A byte that one digit is enough for. -/
def Short (byte : UInt8) : Prop := byte < 16 ∨ 240 < byte

theorem ReadsAs.digits {first second : ℕ} {byte : UInt8} (h : ReadsAs first second byte) (long : ¬ Short byte) :
    (hexDigitValue first).isSome ∧ (hexDigitValue second).isSome := by
  have small {n : ℕ} (lt : n < 16) : Short (.ofNat n) :=
    .inl (by rw [UInt8.lt_iff_toNat_lt, UInt8.toNat_ofNat']; exact Nat.lt_of_le_of_lt (Nat.mod_le _ _) lt)
  cases h with
  | number high low => exact ⟨Option.isSome_of_eq_some high, Option.isSome_of_eq_some low⟩
  | digit high => exact absurd (small (hexDigitValue_eq_some high).1) long
  | skipped _ low => exact absurd (small (hexDigitValue_eq_some low).1) long
  | @negative n _ low =>
    have lt := (hexDigitValue_eq_some low).1
    refine absurd ?_ long
    simp only [Short, UInt8.lt_iff_toNat_lt, UInt8.toNat_ofNat', UInt8.toNat_ofNat]
    omega
  | nothing => exact absurd (.inl (by decide)) long

theorem Reads.digits {units : List ℕ} {bytes : List UInt8} (h : Reads units bytes)
    (long : ∀ byte ∈ bytes, ¬ Short byte) : ∀ unit ∈ units, (hexDigitValue unit).isSome := by
  induction h with
  | nil => exact fun _ none => absurd none List.not_mem_nil
  | cons pair _ ih =>
    obtain ⟨first, second⟩ := pair.digits (long _ List.mem_cons_self)
    rw [List.forall_mem_cons, List.forall_mem_cons]
    exact ⟨first, second, ih fun byte hb => long byte (List.mem_cons_of_mem _ hb)⟩

/-- A blank or a minus before the digit. -/
def shortText (byte : UInt8) : List Char :=
  if byte < 16 then [' ', Bytes.hexDigit byte.toNat] else ['-', Bytes.hexDigit (256 - byte.toNat)]

/-- Text that no field ends in and that is one code unit a character. -/
def PlainText (text : List Char) : Prop := ∀ c ∈ text, c.toNat < 128 ∧ c ≠ ':'

theorem plain_of_digits {hex : List Char} (digits : ∀ c ∈ hex, (Bytes.hexValue c).isSome) : PlainText hex := by
  intro c hc
  refine ⟨lt_of_hexValue (digits c hc), ?_⟩
  rintro rfl
  exact absurd (digits _ hc) (by decide)

theorem hexDigitValue_hexDigit {n : ℕ} (lt : n < 16) : hexDigitValue (Bytes.hexDigit n).toNat = some n := by
  rw [hexDigitValue_toNat, Bytes.hexValue_hexDigit n lt]

theorem plain_pair {c : Char} {n : ℕ} (plain : c.toNat < 128 ∧ c ≠ ':') (lt : n < 16) :
    PlainText [c, Bytes.hexDigit n] := by
  rw [PlainText, List.forall_mem_cons]
  refine ⟨plain, plain_of_digits ?_⟩
  intro d hd
  rw [List.mem_singleton.mp hd, Bytes.hexValue_hexDigit n lt]
  rfl

theorem shortText_reads {byte : UInt8} (short : Short byte) :
    Reads ((shortText byte).map Char.toNat) [byte] ∧ PlainText (shortText byte) ∧
      ∃ c ∈ shortText byte, Bytes.hexValue c = none := by
  unfold shortText
  split
  · rename_i small
    rw [UInt8.lt_iff_toNat_lt] at small
    have reads : ReadsAs 32 _ _ := .skipped (.inl rfl) (hexDigitValue_hexDigit small)
    rw [UInt8.ofNat_toNat] at reads
    exact ⟨.cons reads .nil, plain_pair (by decide) small, ' ', List.mem_cons_self, rfl⟩
  · rename_i large
    have large : 240 < byte.toNat := UInt8.lt_iff_toNat_lt.mp (short.resolve_left large)
    have most := byte.toNat_lt
    have lt : 256 - byte.toNat < 16 := by omega
    have reads : ReadsAs 45 _ _ := .negative rfl (hexDigitValue_hexDigit lt)
    rw [show 256 - (256 - byte.toNat) = byte.toNat by omega, UInt8.ofNat_toNat] at reads
    exact ⟨.cons reads .nil, plain_pair (by decide) lt, '-', List.mem_cons_self, rfl⟩

theorem hex_reads (bytes : List UInt8) :
    Reads ((Bytes.hex bytes).toList.map Char.toNat) bytes ∧ PlainText (Bytes.hex bytes).toList := by
  obtain ⟨reads, digits⟩ := unhexChars_eq_some.mp (Bytes.unhex_hex bytes)
  exact ⟨reads, plain_of_digits digits⟩

/-- A digest with a short byte has a text that is not all digits. -/
theorem exists_text_of_short {digest : List UInt8} {byte : UInt8} (mem : byte ∈ digest) (short : Short byte) :
    ∃ expected, ¬ DigitsOnly digest expected := by
  obtain ⟨front, rest, rfl⟩ := List.append_of_mem mem
  obtain ⟨readsShort, plainShort, c, hc, blank⟩ := shortText_reads short
  obtain ⟨readsFront, plainFront⟩ := hex_reads front
  obtain ⟨readsRest, plainRest⟩ := hex_reads rest
  let hex := (Bytes.hex front).toList ++ (shortText byte ++ (Bytes.hex rest).toList)
  have plain : PlainText hex := by
    intro d hd
    rcases List.mem_append.mp hd with hd | hd
    · exact plainFront d hd
    · rcases List.mem_append.mp hd with hd | hd
      · exact plainShort d hd
      · exact plainRest d hd
  have reads : Reads (Collation.codeUnits (String.ofList hex)) (front ++ byte :: rest) := by
    rw [codeUnits_of_ascii fun d hd => (plain d hd).1, List.map_append, List.map_append]
    exact readsFront.append (readsShort.append readsRest)
  refine ⟨String.ofList ("sha256".toList ++ ':' :: hex), fun only => ?_⟩
  have digits := forall_hexValue_iff.mp (only "sha256".toList hex String.toList_ofList (by decide)
    (fun colon => (plain _ colon).2 rfl) reads)
  have digit := digits c (List.mem_append_right _ (List.mem_append_left _ hc))
  rw [blank] at digit
  cases digit

/-- **A checksum is accepted exactly if it is the right text, unless its hash part has other characters
than digits and reads as the digest all the same.** Such texts exist for the digests with a byte
below 16 or above 240, and for no others. -/
theorem accepts_exactly_iff (crypto : Crypto) (blob : Blob) (length : (crypto.sha256 blob).length = 32) :
    (∀ expected, (verifyBlobChecksum crypto blob expected = .ok true ↔ RightText (crypto.sha256 blob) expected) ↔
        DigitsOnly (crypto.sha256 blob) expected) ∧
      ((∀ expected, verifyBlobChecksum crypto blob expected = .ok true ↔ RightText (crypto.sha256 blob) expected) ↔
        ∀ byte ∈ crypto.sha256 blob, 16 ≤ byte ∧ byte ≤ 240) := by
  have each (expected : String) :
      (verifyBlobChecksum crypto blob expected = .ok true ↔ RightText (crypto.sha256 blob) expected) ↔
        DigitsOnly (crypto.sha256 blob) expected := right_of_accepted_iff length
  refine ⟨each, ?_⟩
  rw [forall_congr' each]
  have long (byte : UInt8) : 16 ≤ byte ∧ byte ≤ 240 ↔ ¬ Short byte := by
    rw [Short, not_or, UInt8.not_lt, UInt8.not_lt]
  simp only [long]
  constructor
  · intro only byte mem short
    obtain ⟨expected, other⟩ := exists_text_of_short mem short
    exact other (only expected)
  · intro long expected algorithm hex same lower none reads
    exact reads.digits long

namespace Lobby

/-- The digest of the empty blob. -/
def emptyDigest : List UInt8 :=
  [0xe3, 0xb0, 0xc4, 0x42, 0x98, 0xfc, 0x1c, 0x14, 0x9a, 0xfb, 0xf4, 0xc8, 0x99, 0x6f, 0xb9, 0x24,
    0x27, 0xae, 0x41, 0xe4, 0x64, 0x9b, 0x93, 0x4c, 0xa4, 0x95, 0x99, 0x1b, 0x78, 0x52, 0xb8, 0x55]

def emptyCrypto : Crypto := ⟨fun _ => none, fun _ _ _ => false, fun _ => emptyDigest⟩

theorem accepts_exactly_empty :
    (∀ expected, (verifyBlobChecksum emptyCrypto [] expected = .ok true ↔ RightText emptyDigest expected) ↔
        DigitsOnly emptyDigest expected) ∧
      ((∀ expected, verifyBlobChecksum emptyCrypto [] expected = .ok true ↔ RightText emptyDigest expected) ↔
        ∀ byte ∈ emptyDigest, 16 ≤ byte ∧ byte ≤ 240) :=
  accepts_exactly_iff emptyCrypto [] (by decide)

/-- A minus and a digit pass for a byte. -/
theorem minus_accepted :
    verifyBlobChecksum emptyCrypto []
        "sha256:e3b0c44298fc1c149a-5-cc8996fb92427ae41e4649b934ca495991b7852b855" = .ok true ∧
      ¬ RightText emptyDigest "sha256:e3b0c44298fc1c149a-5-cc8996fb92427ae41e4649b934ca495991b7852b855" := by
  refine ⟨by decide +kernel, ?_⟩
  rintro ⟨algorithm, hex, same, lower, -, value⟩
  have minus : '-' ∈ algorithm ++ ':' :: hex := same ▸ (by decide +kernel)
  rcases List.mem_append.mp minus with before | after
  · exact notMem_algorithm lower (by decide) before
  · rcases List.mem_cons.mp after with colon | digit
    · exact absurd colon (by decide)
    · exact absurd ((unhexChars_eq_some.mp value).2 _ digit) (by decide)

end Lobby

end Kiosk.Updater
