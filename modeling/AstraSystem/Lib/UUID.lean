import Mathlib.Data.List.Basic
import Mathlib.Order.Fin.Basic
import Mathlib.Tactic.NormNum
import AstraSystem.Lib.Bytes

/-!
# UUIDs and their text

A UUID is a number of 128 bits, which is how databases order them. The package
that reads and prints them is a parameter.
-/

abbrev UUID := Fin (2 ^ 128)

instance (priority := 2000) UUID.neZero : NeZero (2 ^ 128) := ⟨by decide⟩

instance (priority := 2000) UUID.lawfulBEq : LawfulBEq UUID := inferInstance

/-- Not all UUIDs are tried. -/
instance (priority := 2000) UUID.decidableForallMem {p : UUID → Prop} [DecidablePred p] :
    ∀ u : Option UUID, Decidable (∀ x ∈ u, p x)
  | none => .isTrue nofun
  | some u => decidable_of_iff (p u) ⟨fun h _ hx => Option.some.inj hx ▸ h, fun h => h u rfl⟩

/-- A package that reads UUIDs from text and prints them. -/
@[ext] structure UUIDText where
  parse : String → Except String UUID
  string : UUID → String

namespace UUIDText

/-- What is printed is read back, and holds no colon. -/
structure Lawful (uuid : UUIDText) : Prop where
  parse_string : ∀ u, uuid.parse (uuid.string u) = .ok u
  no_colon : ∀ u, ':' ∉ (uuid.string u).toList

variable {uuid : UUIDText}

theorem Lawful.string_injective (laws : uuid.Lawful) : Function.Injective uuid.string := by
  intro u v h
  have same := laws.parse_string u
  rw [h, laws.parse_string v] at same
  exact (Except.ok.inj same).symm

/-! ## Texts at hand -/

/-- The package, with a few of its texts written down: comparing texts is quicker than reading them. -/
def memo (uuid : UUIDText) (texts : List (UUID × String)) : UUIDText where
  parse s := (texts.find? fun e => e.2 = s).elim (uuid.parse s) fun e => .ok e.1
  string u := (texts.find? fun e => e.1 = u).elim (uuid.string u) Prod.snd

theorem memo_eq (laws : uuid.Lawful) {texts : List (UUID × String)}
    (own : ∀ e ∈ texts, uuid.string e.1 = e.2) : uuid.memo texts = uuid := by
  ext s
  · simp only [memo]
    cases h : texts.find? fun e => e.2 = s with
    | none => rfl
    | some e =>
      have same : e.2 = s := by simpa using List.find?_some h
      rw [← same, ← own e (List.mem_of_find?_eq_some h), laws.parse_string]
      rfl
  · simp only [memo]
    cases h : texts.find? fun e => e.1 = s with
    | none => rfl
    | some e =>
      have same : e.1 = s := by simpa using List.find?_some h
      rw [← same, own e (List.mem_of_find?_eq_some h)]
      rfl

/-! ## The text with hyphens -/

/-- The lowest hexadecimal digits of a number. -/
def digits : ℕ → ℕ → List Char
  | 0, _ => []
  | k + 1, n => digits k (n / 16) ++ [Bytes.hexDigit (n % 16)]

def digitValue (c : Char) : ℕ := if c.toNat < 58 then c.toNat - 48 else c.toNat - 87

def value (cs : List Char) : ℕ := cs.foldl (fun n c => n * 16 + digitValue c) 0

def hyphenate (cs : List Char) : List Char :=
  cs.take 8 ++ '-' :: ((cs.drop 8).take 4 ++ '-' :: ((cs.drop 12).take 4 ++
    '-' :: ((cs.drop 16).take 4 ++ '-' :: cs.drop 20)))

/-- Thirty-two hexadecimal digits in five groups, read back from that form only. -/
def hyphenated : UUIDText where
  string u := String.ofList (hyphenate (digits 32 u))
  parse s :=
    let n := value (s.toList.filter (· ≠ '-'))
    if h : n < 2 ^ 128 then
      if String.ofList (hyphenate (digits 32 n)) = s then .ok ⟨n, h⟩
      else .error "invalid UUID format"
    else .error "invalid UUID format"

theorem digitValue_hexDigit : ∀ n < 16, digitValue (Bytes.hexDigit n) = n := by decide

theorem value_digits (k n : ℕ) : value (digits k n) = n % 16 ^ k := by
  induction k generalizing n with
  | zero => simp [digits, value, Nat.mod_one]
  | succ k ih =>
    have last := digitValue_hexDigit (n % 16) (Nat.mod_lt _ (by decide))
    rw [digits, value, List.foldl_concat, last]
    change value (digits k (n / 16)) * 16 + n % 16 = _
    rw [ih, pow_succ, Nat.mul_comm (16 ^ k), Nat.mod_mul, Nat.mul_comm, Nat.add_comm]

theorem not_mem_digits {c : Char} (digit : ∀ n < 16, Bytes.hexDigit n ≠ c) (k n : ℕ) :
    c ∉ digits k n := by
  induction k generalizing n with
  | zero => exact List.not_mem_nil
  | succ k ih =>
    rw [digits, List.mem_append, List.mem_singleton, not_or]
    exact ⟨ih _, (digit _ (Nat.mod_lt _ (by decide))).symm⟩

theorem filter_hyphenate {cs : List Char} (h : ∀ c ∈ cs, c ≠ '-') :
    (hyphenate cs).filter (· ≠ '-') = cs := by
  have hyphen (l : List Char) : ('-' :: l).filter (· ≠ '-') = l.filter (· ≠ '-') :=
    List.filter_cons_of_neg (by decide)
  have keep {l : List Char} (hl : l.Sublist cs) : l.filter (· ≠ '-') = l :=
    List.filter_eq_self.mpr fun c hc => by simpa using h c (hl.subset hc)
  have part (m k : ℕ) : ((cs.drop m).take k).Sublist cs :=
    (List.take_sublist k _).trans (List.drop_sublist m cs)
  have join (m k : ℕ) : (cs.drop m).take k ++ cs.drop (m + k) = cs.drop m := by
    rw [← List.drop_drop, List.take_append_drop]
  simp only [hyphenate, List.filter_append, hyphen]
  rw [keep (List.take_sublist 8 cs), keep (part 8 4), keep (part 12 4), keep (part 16 4),
    keep (List.drop_sublist 20 cs), join 16 4, join 12 4, join 8 4, List.take_append_drop]

theorem mem_hyphenate {cs : List Char} {c : Char} (h : c ∈ hyphenate cs) : c = '-' ∨ c ∈ cs := by
  simp only [hyphenate, List.mem_append, List.mem_cons] at h
  rcases h with h | h | h | h | h | h | h | h | h
  · exact .inr (List.mem_of_mem_take h)
  · exact .inl h
  · exact .inr (List.mem_of_mem_drop (List.mem_of_mem_take h))
  · exact .inl h
  · exact .inr (List.mem_of_mem_drop (List.mem_of_mem_take h))
  · exact .inl h
  · exact .inr (List.mem_of_mem_drop (List.mem_of_mem_take h))
  · exact .inl h
  · exact .inr (List.mem_of_mem_drop h)

/-- The text holds hexadecimal digits and hyphens. -/
theorem not_mem_hyphenated {c : Char} (hyphen : c ≠ '-') (digit : ∀ n < 16, Bytes.hexDigit n ≠ c)
    (u : UUID) : c ∉ (hyphenated.string u).toList := by
  rw [hyphenated, String.toList_ofList]
  intro h
  rcases mem_hyphenate h with h | h
  · exact hyphen h
  · exact not_mem_digits digit 32 u h

theorem lawful_hyphenated : hyphenated.Lawful where
  parse_string u := by
    have plain : (hyphenate (digits 32 u)).filter (· ≠ '-') = digits 32 u :=
      filter_hyphenate fun c hc same => not_mem_digits (by decide) 32 u (same ▸ hc)
    have room : (16 : ℕ) ^ 32 = 2 ^ 128 := by norm_num
    have number : value (digits 32 u) = u := by
      rw [value_digits, room]
      exact Nat.mod_eq_of_lt u.isLt
    simp only [hyphenated, String.toList_ofList, plain, number]
    rw [dif_pos u.isLt, if_pos trivial]
  no_colon := not_mem_hyphenated (by decide) (by decide)

theorem hyphenated_ne_empty (u : UUID) : hyphenated.string u ≠ "" := by
  intro h
  have chars := congrArg String.toList h
  rw [hyphenated, String.toList_ofList, hyphenate] at chars
  exact absurd chars (by simp)

end UUIDText

/-- Two texts without a colon are read back from the text that joins them with one. -/
theorem String.colon_inj {a a' b b' : String} (ha : ':' ∉ a.toList) (hb : ':' ∉ b.toList)
    (h : a ++ ":" ++ b = a' ++ ":" ++ b') : a = a' ∧ b = b' := by
  have chars : a.toList ++ ':' :: b.toList = a'.toList ++ ':' :: b'.toList := by
    simpa using congrArg String.toList h
  obtain ⟨left, -, right⟩ := (List.append_cons_inj_of_notMem ha hb).mp chars
  exact ⟨String.toList_inj.mp left, String.toList_inj.mp right⟩
