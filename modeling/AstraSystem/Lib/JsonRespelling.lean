import AstraSystem.Lib.JsonText
import AstraSystem.Lib.Regex

/-!
# Texts of documents with letters spelled otherwise

Each upper-case letter that stands behind a character of some class is spelled otherwise, wherever it stands in a text.
In the text of a document it stands in a string, so that the document is the same but for its strings.
-/

namespace Json

open Regex

mutual

/-- Every string of the document, the names of fields included, goes through `f`. -/
def mapStrings (f : String → String) : Json → Json
  | .string s => .string (f s)
  | .array xs => .array (mapStringsIn f xs)
  | .object fields => .object (mapStringsOf f fields)
  | .null => .null
  | .bool b => .bool b
  | .number literal => .number literal

def mapStringsIn (f : String → String) : List Json → List Json
  | [] => []
  | x :: xs => mapStrings f x :: mapStringsIn f xs

def mapStringsOf (f : String → String) : List (String × Json) → List (String × Json)
  | [] => []
  | (name, x) :: fields => (f name, mapStrings f x) :: mapStringsOf f fields

end

theorem mapStringsOf_eq (f : String → String) (fields : Fields) :
    mapStringsOf f fields = fields.map fun e => (f e.1, mapStrings f e.2) := by
  induction fields with
  | nil => rfl
  | cons e fields ih => rw [mapStringsOf, ih, List.map_cons]

/-- Behind what, and by what, a letter is replaced. -/
structure Spelling where
  behind : Char → Bool
  letter : Char → List Char

namespace Spelling

def pattern (S : Spelling) : Pattern Char := ⟨.chars S.behind, .chars Char.isUpper⟩

def replace (S : Spelling) : Piece Char → List Char
  | .plain c => [c]
  | .found group value => group ++ value.flatMap S.letter

def text (S : Spelling) (body : List Char) : List Char := (S.pattern.pieces body).flatMap S.replace

/-- What a character becomes, by what stands before it. -/
def one (S : Spelling) (prev : Option Char) (c : Char) : List Char :=
  if prev.any S.behind && c.isUpper then S.letter c else [c]

/-- The same from left to right. -/
def run (S : Spelling) : Option Char → List Char → List Char
  | _, [] => []
  | prev, c :: cs => S.one prev c ++ run S (some c) cs

/-- Characters of a string, written by `u`. -/
def runChars (S : Spelling) (u : Char → Bool) : Option Char → List Char → List Char
  | _, [] => []
  | prev, c :: cs => S.one prev c ++ runChars S u (escape u c).getLast? cs

def string (S : Spelling) (u : Char → Bool) (s : String) : String :=
  String.ofList (S.runChars u (some quote) s.toList)

variable {S : Spelling} {u : Char → Bool} {prev : Option Char} {c : Char} {cs w x : List Char}

theorem one_of_not_isUpper (h : c.isUpper = false) : S.one prev c = [c] := by
  rw [one, h, Bool.and_false, if_neg Bool.false_ne_true]

/-! ## As pieces, and from left to right -/

theorem find_pattern (prev : Option Char) (c : Char) (cs : List Char) : S.pattern.find ⟨prev, c :: cs⟩ =
    match cs with
    | [] => none
    | d :: rest => if S.behind c && d.isUpper then some (⟨some c, d :: rest⟩, ⟨some d, rest⟩) else none := by
  cases cs with
  | nil =>
    rw [pattern, Pattern.find, ends]
    dsimp only
    split <;> rfl
  | cons d rest =>
    rw [pattern, Pattern.find, ends]
    dsimp only
    cases S.behind c with
    | false => rfl
    | true =>
      rw [if_pos rfl, List.flatMap_singleton, ends]
      dsimp only
      rw [Bool.true_and]
      split <;> rfl

theorem scan_eq_run (apart : ∀ c, c.isUpper = true → S.behind c = false) {n : ℕ} (enough : x.length ≤ n)
    (first : ∀ c ∈ x.head?, S.one prev c = [c]) : (scan S.pattern n ⟨prev, x⟩).flatMap S.replace = S.run prev x := by
  induction n using Nat.strongRecOn generalizing prev x with
  | ind n ih =>
    cases x with
    | nil => cases n <;> rfl
    | cons c cs =>
      cases n with
      | zero => cases enough
      | succ n =>
        have own : S.one prev c = [c] := first c rfl
        have shorter : cs.length ≤ n := Nat.le_of_succ_le_succ enough
        rw [scan]
        dsimp only
        rw [find_pattern, run, own]
        cases cs with
        | nil =>
          dsimp only
          rw [List.flatMap_cons, ih n (Nat.lt_succ_self n) shorter fun _ none => (by cases none)]
          rfl
        | cons d rest =>
          dsimp only
          by_cases both : (S.behind c && d.isUpper) = true
          · rw [if_pos both]
            dsimp only
            obtain ⟨-, upper⟩ := Bool.and_eq_true_iff.mp both
            have next : S.one (some c) d = S.letter d := if_pos both
            have later : ∀ e ∈ rest.head?, S.one (some d) e = [e] := by
              intro e _
              rw [one, Option.any_some, apart d upper, Bool.false_and, if_neg Bool.false_ne_true]
            rw [List.flatMap_cons, ih n (Nat.lt_succ_self n) (Nat.le_of_succ_le shorter) later, run, next]
            simp [Pos.upto, replace]
          · rw [if_neg both]
            dsimp only
            have later : ∀ e ∈ (d :: rest).head?, S.one (some c) e = [e] := by
              intro e mem
              obtain rfl := Option.some.inj mem
              exact if_neg both
            rw [List.flatMap_cons, ih n (Nat.lt_succ_self n) shorter later]
            rfl

/-- No letter is replaced twice, as none stands behind itself. -/
theorem text_eq_run (apart : ∀ c, c.isUpper = true → S.behind c = false) (body : List Char) :
    S.text body = S.run none body :=
  scan_eq_run apart (Nat.le_refl _) fun _ _ => rfl

/-! ## The text of a document -/

/-- What does not begin with a letter that could be replaced. -/
def Quiet (x : List Char) : Prop := ∀ c ∈ x.head?, c.isUpper = false

theorem run_of_quiet (h : Quiet x) : S.run prev x = S.run none x := by
  cases x with
  | nil => rfl
  | cons c cs => rw [run, run, one_of_not_isUpper (h c rfl), one_of_not_isUpper (h c rfl)]

theorem run_append (none : ∀ c ∈ w, c.isUpper = false) :
    S.run prev (w ++ x) = w ++ S.run (w.getLast?.or prev) x := by
  induction w generalizing prev with
  | nil => rfl
  | cons c w ih =>
    obtain ⟨own, rest⟩ := List.forall_mem_cons.mp none
    rw [List.cons_append, run, one_of_not_isUpper own, ih rest, List.getLast?_cons]
    cases w.getLast? <;> rfl

theorem not_isUpper_of_all (all : w.all (fun c => !c.isUpper) = true) : ∀ c ∈ w, c.isUpper = false := by
  simpa using all

theorem run_append_quiet (none : ∀ c ∈ w, c.isUpper = false) (quiet : Quiet x) :
    S.run prev (w ++ x) = w ++ S.run .none x := by
  rw [run_append none, run_of_quiet quiet]

theorem run_cons (h : c.isUpper = false) : S.run prev (c :: x) = c :: S.run (some c) x := by
  rw [run, one_of_not_isUpper h]
  rfl

/-- Letters are written as they are, and so is what replaces them. -/
structure Plain (S : Spelling) (u : Char → Bool) : Prop where
  upper : ∀ c, c.isUpper = true → u c = false
  letter : ∀ c, c.isUpper = true → ∀ d ∈ S.letter c, escape u d = [d]

theorem letter?_of_isUpper (h : c.isUpper = true) : letter? c = none := by
  rw [letter?, Option.map_eq_none_iff, List.find?_eq_none]
  intro l mem same
  have other : ∀ l ∈ letters, l.1.isUpper = false := by decide
  rw [decide_eq_true_eq] at same
  rw [← same, other l mem] at h
  cases h

theorem escape_of_isUpper (plain : Plain S u) (h : c.isUpper = true) : escape u c = [c] := by
  rw [escape, letter?_of_isUpper h]
  dsimp only
  rw [if_neg (by rw [plain.upper c h]; exact Bool.false_ne_true)]

theorem not_isUpper_hexDigit : ∀ n < 16, (Bytes.hexDigit n).isUpper = false := by decide

theorem not_isUpper_escape (h : c.isUpper = false) : ∀ d ∈ escape u c, d.isUpper = false := by
  unfold escape
  cases own : letter? c with
  | some letter =>
    have other : ∀ l ∈ letters, l.2.isUpper = false := by decide
    simp only [List.forall_mem_cons]
    exact ⟨by decide, other _ (mem_letters own), fun _ none => (by cases none)⟩
  | none =>
    dsimp only
    split
    · simp only [hex4, List.forall_mem_cons]
      have digit (n : ℕ) : (Bytes.hexDigit (n % 16)).isUpper = false := not_isUpper_hexDigit _ (Nat.mod_lt _ (by decide))
      exact ⟨by decide, by decide, digit _, digit _, digit _, digit _, fun _ none => (by cases none)⟩
    · exact List.forall_mem_singleton.mpr h

theorem escape_ne_nil (u : Char → Bool) (c : Char) : escape u c ≠ [] := by
  unfold escape
  split
  · exact List.cons_ne_nil _ _
  · split <;> exact List.cons_ne_nil _ _

theorem run_chars (plain : Plain S u) : S.run prev (cs.flatMap (escape u) ++ quote :: x) =
    (S.runChars u prev cs).flatMap (escape u) ++ quote :: S.run (some quote) x := by
  induction cs generalizing prev with
  | nil => exact run_cons (by decide)
  | cons c cs ih =>
    have own : S.run prev (escape u c ++ (cs.flatMap (escape u) ++ quote :: x)) = (S.one prev c).flatMap (escape u) ++
        S.run (escape u c).getLast? (cs.flatMap (escape u) ++ quote :: x) := by
      cases upper : c.isUpper with
      | false =>
        rw [run_append (not_isUpper_escape upper), one_of_not_isUpper upper, List.flatMap_singleton,
          List.getLast?_eq_some_getLast (escape_ne_nil u c), Option.some_or]
      | true =>
        rw [escape_of_isUpper plain upper, List.singleton_append, run, one]
        split
        · have same : (S.letter c).flatMap (escape u) = S.letter c := by
            rw [List.flatMap_congr (g := fun d => [d]) (plain.letter c upper), List.flatMap_singleton']
          rw [same]
          rfl
        · rw [List.flatMap_singleton, escape_of_isUpper plain upper]
          rfl
    rw [List.flatMap_cons, List.append_assoc, own, ih, runChars, List.flatMap_append, List.append_assoc]

theorem run_writeString (plain : Plain S u) (s : String) (x : List Char) :
    S.run prev (writeString u s ++ x) = writeString u (S.string u s) ++ S.run (some quote) x := by
  rw [writeString, List.cons_append, run_cons (by decide), List.append_assoc, List.singleton_append, run_chars plain,
    writeString, string, String.toList_ofList, List.cons_append, List.append_assoc, List.singleton_append]

theorem not_isUpper_inNumber (h : inNumber c = true) : c.isUpper = false := by
  simp only [inNumber, Bool.or_eq_true, decide_eq_true_eq] at h
  obtain digit | rfl := h
  · simp only [Char.isDigit, Bool.and_eq_true, decide_eq_true_eq] at digit
    apply decide_eq_false
    rintro ⟨low, -⟩
    have high := Nat.le_trans (UInt32.le_iff_toNat_le.mp low) (UInt32.le_iff_toNat_le.mp digit.2)
    exact absurd high (by decide)
  · decide

theorem quiet_writeItems (xs : List Json) (x : List Char) : Quiet (writeItems u false xs ++ x) := by
  cases xs with
  | nil => exact fun c mem => Option.some.inj mem ▸ (by decide)
  | cons y xs => exact fun c mem => Option.some.inj mem ▸ (by decide)

theorem quiet_writeFields (fields : Fields) (x : List Char) : Quiet (writeFields u false fields ++ x) := by
  cases fields with
  | nil => exact fun c mem => Option.some.inj mem ▸ (by decide)
  | cons f fields => exact fun c mem => Option.some.inj mem ▸ (by decide)

mutual

/-- The document with its strings spelled otherwise. -/
theorem run_write (plain : Plain S u) : ∀ prev d x, allNumbers Numeric d = true → Quiet x →
    S.run prev (write u d ++ x) = write u (d.mapStrings (S.string u)) ++ S.run none x
  | prev, .null, x, _, quiet => run_append_quiet (w := ['n', 'u', 'l', 'l']) (not_isUpper_of_all (by decide)) quiet
  | prev, .bool true, x, _, quiet => run_append_quiet (w := ['t', 'r', 'u', 'e']) (not_isUpper_of_all (by decide)) quiet
  | prev, .bool false, x, _, quiet => run_append_quiet (w := ['f', 'a', 'l', 's', 'e']) (not_isUpper_of_all (by decide)) quiet
  | prev, .number literal, x, numbers, quiet => by
    simp only [allNumbers, Numeric, Bool.and_eq_true] at numbers
    exact run_append_quiet (fun c mem => not_isUpper_inNumber (List.all_eq_true.mp numbers.2 c mem)) quiet
  | prev, .string s, x, _, quiet => by rw [write, run_writeString plain, run_of_quiet quiet, mapStrings, write]
  | prev, .array xs, x, numbers, quiet => by
    rw [write, List.cons_append, run_cons (by decide), run_writeItems plain _ true xs x numbers quiet, mapStrings, write,
      List.cons_append]
  | prev, .object fields, x, numbers, quiet => by
    rw [write, List.cons_append, run_cons (by decide), run_writeFields plain _ true fields x numbers quiet, mapStrings,
      write, List.cons_append]

theorem run_writeItems (plain : Plain S u) : ∀ prev first xs x, allNumbersIn Numeric xs = true → Quiet x →
    S.run prev (writeItems u first xs ++ x) = writeItems u first (mapStringsIn (S.string u) xs) ++ S.run none x
  | prev, first, [], x, _, quiet => run_append_quiet (w := [closeBracket]) (not_isUpper_of_all (by decide)) quiet
  | prev, first, y :: xs, x, numbers, quiet => by
    simp only [allNumbersIn, Bool.and_eq_true] at numbers
    have between : ∀ c ∈ (if first then [] else [comma]), c.isUpper = false := by
      cases first <;> exact not_isUpper_of_all (by decide)
    rw [writeItems, List.append_assoc, List.append_assoc, run_append between,
      run_write plain _ y _ numbers.1 (quiet_writeItems xs x), run_writeItems plain _ false xs x numbers.2 quiet,
      mapStringsIn, writeItems, List.append_assoc, List.append_assoc]

theorem run_writeFields (plain : Plain S u) : ∀ prev first fields x, allNumbersOf Numeric fields = true → Quiet x →
    S.run prev (writeFields u first fields ++ x) =
      writeFields u first (mapStringsOf (S.string u) fields) ++ S.run none x
  | prev, first, [], x, _, quiet => run_append_quiet (w := [closeBrace]) (not_isUpper_of_all (by decide)) quiet
  | prev, first, (name, y) :: fields, x, numbers, quiet => by
    simp only [allNumbersOf, Bool.and_eq_true] at numbers
    have between : ∀ c ∈ (if first then [] else [comma]), c.isUpper = false := by
      cases first <;> exact not_isUpper_of_all (by decide)
    rw [writeFields, List.append_assoc, List.append_assoc, run_append between, run_writeString plain, List.cons_append,
      run_cons (by decide), List.append_assoc, run_write plain _ y _ numbers.1 (quiet_writeFields fields x),
      run_writeFields plain _ false fields x numbers.2 quiet, mapStringsOf, writeFields, List.append_assoc,
      List.append_assoc, List.cons_append, List.append_assoc]

end

theorem text_write (plain : Plain S u) (apart : ∀ c, c.isUpper = true → S.behind c = false) {d : Json}
    (numbers : allNumbers Numeric d = true) : S.text (write u d) = write u (d.mapStrings (S.string u)) := by
  have whole := run_write plain none d [] numbers fun c none => (by cases none)
  rw [List.append_nil, run, List.append_nil] at whole
  rw [text_eq_run apart, whole]

/-! ## What stays as it is -/

/-- No letter stands where it would be replaced. -/
def Kept (S : Spelling) (x : List Char) : Prop := x.IsChain fun a b => (S.behind a && b.isUpper) = false

instance : DecidablePred S.Kept := fun x => by
  unfold Kept
  infer_instance

theorem kept_cons {a b : Char} : S.Kept (a :: b :: x) ↔ (S.behind a && b.isUpper) = false ∧ S.Kept (b :: x) :=
  List.isChain_cons_cons

theorem kept_append {a : Char} (none : ∀ c ∈ w, c.isUpper = false) :
    S.Kept (a :: (w ++ x)) ↔ S.Kept ((w.getLast?.getD a) :: x) := by
  induction w generalizing a with
  | nil => rfl
  | cons c w ih =>
    obtain ⟨own, rest⟩ := List.forall_mem_cons.mp none
    have first : S.Kept (a :: c :: (w ++ x)) ↔ S.Kept (c :: (w ++ x)) := by
      rw [kept_cons, own, Bool.and_false, and_iff_right rfl]
    rw [List.cons_append, first, ih rest, List.getLast?_cons]
    rfl

theorem length_le_runChars (longer : ∀ c, 1 < (S.letter c).length) (prev : Option Char) (cs : List Char) :
    cs.length ≤ (S.runChars u prev cs).length := by
  induction cs generalizing prev with
  | nil => exact Nat.le_refl _
  | cons c cs ih =>
    have own : 1 ≤ (S.one prev c).length := by
      unfold one
      split
      · exact Nat.le_of_lt (longer c)
      · exact Nat.le_refl _
    have rest := ih (escape u c).getLast?
    rw [runChars, List.length_append, List.length_cons]
    omega

theorem runChars_eq_iff (plain : Plain S u) (longer : ∀ c, 1 < (S.letter c).length) (a : Char) (cs : List Char) :
    S.runChars u (some a) cs = cs ↔ S.Kept (a :: (cs.flatMap (escape u) ++ [quote])) := by
  induction cs generalizing a with
  | nil =>
    exact iff_of_true rfl (kept_cons.mpr ⟨Bool.and_false _, .singleton _⟩)
  | cons c cs ih =>
    have parts : S.runChars u (some a) (c :: cs) = c :: cs ↔
        S.one (some a) c = [c] ∧ S.runChars u (escape u c).getLast? cs = cs := by
      rw [runChars]
      constructor
      · intro same
        have rest := length_le_runChars (u := u) longer (escape u c).getLast? cs
        have lengths := congrArg List.length same
        rw [List.length_append, List.length_cons] at lengths
        have single : S.one (some a) c = [c] := by
          rw [one] at lengths ⊢
          split at lengths
          · have two := longer c
            omega
          · rename_i other
            rw [if_neg other]
        rw [single] at same
        exact ⟨single, (List.cons.inj same).2⟩
      · rintro ⟨own, rest⟩
        rw [own, rest]
        rfl
    rw [parts, List.flatMap_cons, List.append_assoc]
    cases upper : c.isUpper with
    | false =>
      rw [kept_append (not_isUpper_escape upper), one_of_not_isUpper upper, and_iff_right rfl,
        List.getLast?_eq_some_getLast (escape_ne_nil u c), ih]
      rfl
    | true =>
      rw [escape_of_isUpper plain upper, List.getLast?_singleton, ih, List.singleton_append, kept_cons]
      refine and_congr_left fun _ => ?_
      rw [one, Option.any_some]
      constructor
      · intro own
        by_contra both
        rw [if_pos (by simpa using both)] at own
        have two := longer c
        rw [own] at two
        exact absurd two (Nat.lt_irrefl 1)
      · intro other
        rw [other, if_neg Bool.false_ne_true]

theorem runChars_of_not_isUpper (none : ∀ c ∈ cs, c.isUpper = false) : S.runChars u prev cs = cs := by
  induction cs generalizing prev with
  | nil => rfl
  | cons c cs ih =>
    obtain ⟨own, rest⟩ := List.forall_mem_cons.mp none
    rw [runChars, one_of_not_isUpper own, ih rest, List.singleton_append]

/-- Numbers have no letters. -/
theorem string_format (n : ℤ) : S.string u (Decimal.format n) = Decimal.format n := by
  have numeric := numeric_format n
  simp only [Numeric, Bool.and_eq_true, List.all_eq_true] at numeric
  rw [string, runChars_of_not_isUpper fun c mem => not_isUpper_inNumber (numeric.2 c mem), String.ofList_toList]

/-- A string is spelled as it was just if none of its letters, as it is written, is replaced. -/
theorem string_eq_iff (plain : Plain S u) (longer : ∀ c, 1 < (S.letter c).length) (s : String) :
    S.string u s = s ↔ S.Kept (writeString u s) := by
  rw [writeString, ← runChars_eq_iff plain longer, string, ← String.toList_inj, String.toList_ofList]

end Spelling

end Json
