import Mathlib.Algebra.Ring.Nat
import Mathlib.Data.List.Nodup

/-!
# Bytes of strings and numbers
-/

namespace Bytes

/-- The UTF-8 bytes of a string. -/
def utf8 (s : String) : List UInt8 := s.toByteArray.data.toList

@[simp] theorem utf8_append (s t : String) : utf8 (s ++ t) = utf8 s ++ utf8 t := by
  simp [utf8]

@[simp] theorem utf8_inj {s t : String} : utf8 s = utf8 t ↔ s = t := by
  simp [utf8, ← String.toByteArray_inj, ByteArray.ext_iff, Array.ext_iff]

@[simp] theorem length_utf8 (s : String) : (utf8 s).length = s.utf8ByteSize := by
  simp [utf8]

/-- Eight bytes, the most significant first. -/
def be64 (n : UInt64) : List UInt8 :=
  [UInt8.ofNat (n.toNat / 2 ^ 56), UInt8.ofNat (n.toNat / 2 ^ 48), UInt8.ofNat (n.toNat / 2 ^ 40),
    UInt8.ofNat (n.toNat / 2 ^ 32), UInt8.ofNat (n.toNat / 2 ^ 24), UInt8.ofNat (n.toNat / 2 ^ 16),
    UInt8.ofNat (n.toNat / 2 ^ 8), UInt8.ofNat n.toNat]

@[simp] theorem be64_inj {n m : UInt64} : be64 n = be64 m ↔ n = m := by
  constructor
  · intro h
    have hn := n.toNat_lt
    have hm := m.toNat_lt
    simp only [be64, List.cons.injEq, ← UInt8.toNat_inj, UInt8.toNat_ofNat', and_true] at h
    obtain ⟨h7, h6, h5, h4, h3, h2, h1, h0⟩ := h
    rw [← UInt64.toNat_inj]
    omega
  · intro h
    rw [h]

/-- Comparison that reads both sides to the end. -/
def constantTimeEq (a b : List UInt8) : Bool :=
  if a.length ≠ b.length then false
  else (a.zip b).foldl (fun result p => result ||| (p.1 ^^^ p.2)) 0 == 0

theorem foldl_or_eq_zero (l : List (UInt8 × UInt8)) (acc : UInt8) :
    l.foldl (fun result p => result ||| (p.1 ^^^ p.2)) acc = 0 ↔ acc = 0 ∧ ∀ p ∈ l, p.1 = p.2 := by
  induction l generalizing acc with
  | nil => simp
  | cons p l ih =>
    rw [List.foldl_cons, ih, UInt8.or_eq_zero_iff, UInt8.xor_eq_zero_iff]
    simp only [List.forall_mem_cons, and_assoc]

theorem zip_agrees_iff {a b : List UInt8} (h : a.length = b.length) :
    (∀ p ∈ a.zip b, p.1 = p.2) ↔ a = b := by
  induction a generalizing b with
  | nil => simp [List.eq_nil_of_length_eq_zero h.symm]
  | cons x a ih =>
    cases b with
    | nil => cases h
    | cons y b =>
      rw [List.zip_cons_cons, List.forall_mem_cons, ih (Nat.succ.inj h), List.cons.injEq]

theorem constantTimeEq_iff {a b : List UInt8} : constantTimeEq a b = true ↔ a = b := by
  unfold constantTimeEq
  split
  · rename_i ne
    constructor
    · intro h
      cases h
    · intro h
      exact absurd (congrArg List.length h) ne
  · rename_i eq
    rw [ne_eq, not_not] at eq
    rw [beq_iff_eq, foldl_or_eq_zero, zip_agrees_iff eq]
    exact and_iff_right rfl

/-! ## Hexadecimal digits -/

def hexDigit (n : ℕ) : Char := Char.ofNat (if n < 10 then n + 48 else n + 87)

/-- Two lower-case digits a byte, the high one first. -/
def hex (bytes : List UInt8) : String :=
  String.ofList (bytes.flatMap fun b => [hexDigit (b.toNat / 16), hexDigit (b.toNat % 16)])

def hexValue (c : Char) : Option ℕ :=
  if 48 ≤ c.toNat ∧ c.toNat ≤ 57 then some (c.toNat - 48)
  else if 97 ≤ c.toNat ∧ c.toNat ≤ 102 then some (c.toNat - 87)
  else if 65 ≤ c.toNat ∧ c.toNat ≤ 70 then some (c.toNat - 55)
  else none

def unhexChars : List Char → Option (List UInt8)
  | [] => some []
  | [_] => none
  | high :: low :: rest =>
    match hexValue high, hexValue low, unhexChars rest with
    | some x, some y, some bytes => some (UInt8.ofNat (16 * x + y) :: bytes)
    | _, _, _ => none

def unhex (s : String) : Option (List UInt8) := unhexChars s.toList

theorem hexValue_hexDigit : ∀ n < 16, hexValue (hexDigit n) = some n := by decide

theorem unhex_hex (bytes : List UInt8) : unhex (hex bytes) = some bytes := by
  rw [unhex, hex, String.toList_ofList]
  induction bytes with
  | nil => rfl
  | cons b bytes ih =>
    have high := hexValue_hexDigit (b.toNat / 16) (by have := b.toNat_lt; omega)
    have low := hexValue_hexDigit (b.toNat % 16) (by omega)
    have whole : UInt8.ofNat (16 * (b.toNat / 16) + b.toNat % 16) = b := by
      rw [Nat.div_add_mod, UInt8.ofNat_toNat]
    simp only [List.flatMap_cons, List.cons_append, List.nil_append, unhexChars, high, low, ih,
      whole]

theorem not_mem_hex {c : Char} (digit : ∀ n < 16, hexDigit n ≠ c) (bytes : List UInt8) : c ∉ (hex bytes).toList := by
  rw [hex, String.toList_ofList]
  intro mem
  obtain ⟨byte, -, mem⟩ := List.mem_flatMap.mp mem
  have := byte.toNat_lt
  rw [List.mem_pair] at mem
  obtain same | same := mem
  · exact digit _ (by omega) same.symm
  · exact digit _ (by omega) same.symm

theorem mem_utf8 {b : UInt8} {s : String} : b ∈ utf8 s ↔ ∃ c ∈ s.toList, b ∈ String.utf8EncodeChar c := by
  rw [utf8, ← String.utf8Encode_toList, List.utf8Encode, List.toList_data_toByteArray, List.mem_flatMap]

/-- A byte that none of the digits is written with. -/
theorem notMem_utf8_hex {b : UInt8} (digit : ∀ n < 16, b ∉ String.utf8EncodeChar (hexDigit n)) (bytes : List UInt8) :
    b ∉ utf8 (hex bytes) := by
  intro mem
  obtain ⟨c, hc, hb⟩ := mem_utf8.mp mem
  exact not_mem_hex (fun n small same => digit n small (same ▸ hb)) bytes hc

theorem hex_injective : Function.Injective hex := by
  intro a b h
  have same := unhex_hex a
  rw [h, unhex_hex b] at same
  exact (Option.some.inj same).symm

/-! ## Hashes of 32 bytes -/

/-- A hash that is known of some messages, and longer for the others. -/
def hashOf (known : List (List UInt8 × List UInt8)) (message : List UInt8) : List UInt8 :=
  match known.find? fun e => e.1 = message with
  | some e => e.2
  | none => List.replicate 33 0 ++ message

theorem hashOf_injective {known : List (List UInt8 × List UInt8)} (apart : (known.map Prod.snd).Nodup)
    (short : ∀ e ∈ known, e.2.length = 32) : Function.Injective (hashOf known) := by
  have longer (e : List UInt8 × List UInt8) (he : e ∈ known) (m : List UInt8) : e.2 ≠ List.replicate 33 0 ++ m := by
    intro same
    have length := congrArg List.length same
    rw [short e he, List.length_append, List.length_replicate] at length
    omega
  intro m n h
  unfold hashOf at h
  cases hm : known.find? fun e => e.1 = m with
  | none =>
    cases hn : known.find? fun e => e.1 = n with
    | none => simpa only [hm, hn, List.append_cancel_left_eq] using h
    | some e =>
      simp only [hm, hn] at h
      exact absurd h.symm (longer e (List.mem_of_find?_eq_some hn) m)
  | some e =>
    cases hn : known.find? fun e => e.1 = n with
    | none =>
      simp only [hm, hn] at h
      exact absurd h (longer e (List.mem_of_find?_eq_some hm) n)
    | some f =>
      simp only [hm, hn] at h
      have same : e = f := List.inj_on_of_nodup_map apart (List.mem_of_find?_eq_some hm) (List.mem_of_find?_eq_some hn) h
      have first : e.1 = m := by simpa using List.find?_some hm
      have second : f.1 = n := by simpa using List.find?_some hn
      rw [← first, ← second, same]

end Bytes
