import AstraSystem.Lib.Json

/-!
# Texts of JSON documents

Writers differ in which characters they write by number. Two writers give one text to two documents exactly if the
documents are the same and have no character that the writers treat differently.
-/

namespace Json

/-! ## Characters -/

def quote : Char := Char.ofNat 34

def backslash : Char := Char.ofNat 92

/-- Characters with a letter of their own. -/
def letters : List (Char × Char) :=
  [(Char.ofNat 8, 'b'), (Char.ofNat 9, 't'), (Char.ofNat 10, 'n'), (Char.ofNat 12, 'f'), (Char.ofNat 13, 'r'),
    (quote, quote), (backslash, backslash)]

def letter? (c : Char) : Option Char := (letters.find? fun l => l.1 = c).map Prod.snd

def hex4 (n : ℕ) : List Char :=
  [Bytes.hexDigit (n / 4096 % 16), Bytes.hexDigit (n / 256 % 16), Bytes.hexDigit (n / 16 % 16), Bytes.hexDigit (n % 16)]

/-- A writer is given by the characters that it writes by number, unless they have a letter. -/
def escape (byNumber : Char → Bool) (c : Char) : List Char :=
  match letter? c with
  | some letter => [backslash, letter]
  | none => if byNumber c then backslash :: 'u' :: hex4 c.toNat else [c]

/-- Four digits are enough for what is written by number. -/
def Short (byNumber : Char → Bool) : Prop := ∀ c, byNumber c = true → c.toNat < 65536

section
variable {u v : Char → Bool} {c d : Char} {x y : List Char}

theorem hexDigit_inj {m n : ℕ} (hm : m < 16) (hn : n < 16) (h : Bytes.hexDigit m = Bytes.hexDigit n) : m = n :=
  Option.some.inj ((Bytes.hexValue_hexDigit m hm).symm.trans (h ▸ Bytes.hexValue_hexDigit n hn))

theorem hex4_inj {m n : ℕ} (hm : m < 65536) (hn : n < 65536) (h : hex4 m ++ x = hex4 n ++ y) : m = n ∧ x = y := by
  simp only [hex4, List.cons_append, List.nil_append, List.cons.injEq] at h
  obtain ⟨h₁, h₂, h₃, h₄, rest⟩ := h
  have d₁ := hexDigit_inj (Nat.mod_lt _ (by decide)) (Nat.mod_lt _ (by decide)) h₁
  have d₂ := hexDigit_inj (Nat.mod_lt _ (by decide)) (Nat.mod_lt _ (by decide)) h₂
  have d₃ := hexDigit_inj (Nat.mod_lt _ (by decide)) (Nat.mod_lt _ (by decide)) h₃
  have d₄ := hexDigit_inj (Nat.mod_lt _ (by decide)) (Nat.mod_lt _ (by decide)) h₄
  exact ⟨by omega, rest⟩

theorem mem_letters {letter : Char} (h : letter? c = some letter) : (c, letter) ∈ letters := by
  obtain ⟨l, found, rfl⟩ := Option.map_eq_some_iff.mp h
  have same : l.1 = c := by simpa using List.find?_some found
  exact same ▸ List.mem_of_find?_eq_some found

theorem letter?_inj {letter : Char} (hc : letter? c = some letter) (hd : letter? d = some letter) : c = d := by
  have unique : ∀ l ∈ letters, ∀ m ∈ letters, l.2 = m.2 → l.1 = m.1 := by decide
  exact unique _ (mem_letters hc) _ (mem_letters hd) rfl

theorem letter?_ne {letter : Char} (h : letter? c = some letter) : letter ≠ 'u' := by
  have none : ∀ l ∈ letters, l.2 ≠ 'u' := by decide
  exact none _ (mem_letters h)

theorem ne_of_letter? (h : letter? c = none) : c ≠ backslash ∧ c ≠ quote := by
  constructor <;> (rintro rfl; revert h; decide)

/-- What a character is written as is found at the front of the text. -/
theorem escape_inj (hu : Short u) (hv : Short v) (h : escape u c ++ x = escape v d ++ y) :
    c = d ∧ escape u c = escape v c ∧ x = y := by
  unfold escape at h ⊢
  cases hc : letter? c with
  | some letter =>
    rw [hc] at h
    cases hd : letter? d with
    | some letter' =>
      rw [hd] at h
      simp only [List.cons_append, List.nil_append, List.cons.injEq, true_and] at h
      obtain ⟨rfl, rfl⟩ := h
      exact ⟨letter?_inj hc hd, rfl, rfl⟩
    | none =>
      rw [hd] at h
      dsimp only at h
      split at h
      · simp only [List.cons_append, List.nil_append, List.cons.injEq, true_and] at h
        exact absurd h.1 (letter?_ne hc)
      · simp only [List.cons_append, List.nil_append, List.cons.injEq] at h
        exact absurd h.1.symm (ne_of_letter? hd).1
  | none =>
    rw [hc] at h
    cases hd : letter? d with
    | some letter =>
      rw [hd] at h
      dsimp only at h
      split at h
      · simp only [List.cons_append, List.nil_append, List.cons.injEq, true_and] at h
        exact absurd h.1.symm (letter?_ne hd)
      · simp only [List.cons_append, List.nil_append, List.cons.injEq] at h
        exact absurd h.1 (ne_of_letter? hc).1
    | none =>
      rw [hd] at h
      dsimp only at h ⊢
      split at h
      · rename_i uc
        split at h
        · rename_i vd
          simp only [List.cons_append, List.cons.injEq, true_and] at h
          obtain ⟨same, rest⟩ := hex4_inj (hu c uc) (hv d vd) h
          obtain rfl : c = d := Char.toNat_inj.mp same
          exact ⟨rfl, by rw [if_pos uc, if_pos vd], rest⟩
        · simp only [List.cons_append, List.nil_append, List.cons.injEq] at h
          exact absurd h.1.symm (ne_of_letter? hd).1
      · rename_i uc
        split at h
        · simp only [List.cons_append, List.nil_append, List.cons.injEq] at h
          exact absurd h.1 (ne_of_letter? hc).1
        · rename_i vd
          simp only [List.cons_append, List.nil_append, List.cons.injEq] at h
          obtain ⟨rfl, rest⟩ := h
          exact ⟨rfl, by rw [if_neg uc, if_neg vd], rest⟩

theorem escape_eq_iff : escape u c = escape v c ↔ (letter? c).isSome ∨ u c = v c := by
  unfold escape
  cases hc : letter? c with
  | some letter => simp
  | none =>
    have other := (ne_of_letter? hc).1
    cases u c <;> cases v c <;> simp [hex4, other, Ne.symm other]

theorem escape_ne_quote (u : Char → Bool) (c : Char) : escape u c ++ x ≠ quote :: y := by
  unfold escape
  cases hc : letter? c with
  | some letter =>
    intro h
    exact absurd (List.cons.inj h).1 (by decide)
  | none =>
    dsimp only
    split
    · intro h
      exact absurd (List.cons.inj h).1 (by decide)
    · intro h
      exact absurd (List.cons.inj h).1 (ne_of_letter? hc).2

/-! ## Strings -/

def writeString (byNumber : Char → Bool) (s : String) : List Char :=
  quote :: (s.toList.flatMap (escape byNumber) ++ [quote])

/-- Both writers write the string alike. -/
def Alike (u v : Char → Bool) (s : String) : Bool := s.toList.all fun c => escape u c = escape v c

theorem flatMap_escape_inj (hu : Short u) (hv : Short v) {cs ds : List Char}
    (h : cs.flatMap (escape u) ++ quote :: x = ds.flatMap (escape v) ++ quote :: y) :
    cs = ds ∧ (∀ c ∈ cs, escape u c = escape v c) ∧ x = y := by
  induction cs generalizing ds with
  | nil =>
    cases ds with
    | nil => exact ⟨rfl, fun _ hc => absurd hc List.not_mem_nil, (List.cons.inj h).2⟩
    | cons d ds =>
      rw [List.flatMap_cons, List.append_assoc] at h
      exact absurd h.symm (escape_ne_quote v d)
  | cons c cs ih =>
    cases ds with
    | nil =>
      rw [List.flatMap_cons, List.append_assoc] at h
      exact absurd h (escape_ne_quote u c)
    | cons d ds =>
      rw [List.flatMap_cons, List.flatMap_cons, List.append_assoc, List.append_assoc] at h
      obtain ⟨rfl, alike, h⟩ := escape_inj hu hv h
      obtain ⟨rfl, rest, h⟩ := ih h
      exact ⟨rfl, List.forall_mem_cons.mpr ⟨alike, rest⟩, h⟩

theorem writeString_inj (hu : Short u) (hv : Short v) {s t : String}
    (h : writeString u s ++ x = writeString v t ++ y) : s = t ∧ Alike u v s ∧ x = y := by
  simp only [writeString, List.cons_append, List.append_assoc, List.nil_append, List.cons.injEq, true_and] at h
  obtain ⟨same, alike, rest⟩ := flatMap_escape_inj hu hv h
  exact ⟨String.toList_inj.mp same, by simpa [Alike] using alike, rest⟩

theorem writeString_alike {s : String} (h : Alike u v s) : writeString u s = writeString v s := by
  have same : ∀ c ∈ s.toList, escape u c = escape v c := by simpa [Alike] using h
  rw [writeString, writeString, List.flatMap_congr same]

end

/-! ## Documents -/

def comma : Char := Char.ofNat 44

def colon : Char := Char.ofNat 58

def openBracket : Char := Char.ofNat 91

def closeBracket : Char := Char.ofNat 93

def openBrace : Char := Char.ofNat 123

def closeBrace : Char := Char.ofNat 125

mutual

/-- The text of a document without spaces; its numbers are written as they are. -/
def write (byNumber : Char → Bool) : Json → List Char
  | .null => ['n', 'u', 'l', 'l']
  | .bool true => ['t', 'r', 'u', 'e']
  | .bool false => ['f', 'a', 'l', 's', 'e']
  | .number literal => literal.toList
  | .string s => writeString byNumber s
  | .array xs => openBracket :: writeItems byNumber true xs
  | .object fields => openBrace :: writeFields byNumber true fields

def writeItems (byNumber : Char → Bool) : Bool → List Json → List Char
  | _, [] => [closeBracket]
  | first, x :: xs => (if first then [] else [comma]) ++ (write byNumber x ++ writeItems byNumber false xs)

def writeFields (byNumber : Char → Bool) : Bool → List (String × Json) → List Char
  | _, [] => [closeBrace]
  | first, (name, x) :: fields => (if first then [] else [comma]) ++
      (writeString byNumber name ++ colon :: (write byNumber x ++ writeFields byNumber false fields))

end

/-- The characters of a number. -/
def inNumber (c : Char) : Bool := c.isDigit || c = '-'

def Numeric (literal : String) : Bool := !literal.toList.isEmpty && literal.toList.all inNumber

mutual

def allNumbers (p : String → Bool) : Json → Bool
  | .number literal => p literal
  | .array xs => allNumbersIn p xs
  | .object fields => allNumbersOf p fields
  | .null | .bool _ | .string _ => true

def allNumbersIn (p : String → Bool) : List Json → Bool
  | [] => true
  | x :: xs => allNumbers p x && allNumbersIn p xs

def allNumbersOf (p : String → Bool) : List (String × Json) → Bool
  | [] => true
  | (_, x) :: fields => allNumbers p x && allNumbersOf p fields

end

section
variable {p : String → Bool}

theorem allNumbersIn_iff {xs : List Json} : allNumbersIn p xs ↔ ∀ x ∈ xs, allNumbers p x := by
  induction xs with
  | nil => simp [allNumbersIn]
  | cons x xs ih => rw [allNumbersIn, Bool.and_eq_true, ih, List.forall_mem_cons]

theorem allNumbersOf_iff {fields : List (String × Json)} : allNumbersOf p fields ↔ ∀ f ∈ fields, allNumbers p f.2 := by
  induction fields with
  | nil => simp [allNumbersOf]
  | cons f fields ih => rw [allNumbersOf, Bool.and_eq_true, ih, List.forall_mem_cons]

end

/-- Whole numbers are numeric. -/
theorem numeric_format (n : ℤ) : Numeric (Decimal.format n) := by
  have nonempty : (Decimal.format n).toList ≠ [] := by
    cases n with
    | ofNat n =>
      rw [Decimal.toList_format_ofNat]
      exact Nat.toDigits_ne_nil
    | negSucc n =>
      rw [Decimal.toList_format_negSucc]
      exact List.cons_ne_nil _ _
  have digits : ∀ c ∈ (Decimal.format n).toList, inNumber c := by
    intro c hc
    by_contra other
    simp only [inNumber, Bool.or_eq_true, decide_eq_true_eq, not_or, Bool.not_eq_true] at other
    exact Decimal.not_mem_format other.1 other.2 n hc
  simp only [Numeric, Bool.and_eq_true, Bool.not_eq_true', List.isEmpty_eq_false_iff]
  exact ⟨nonempty, List.all_eq_true.mpr digits⟩

section
variable {u v : Char → Bool}

def kind : Json → ℕ
  | .null => 0
  | .bool _ => 1
  | .number _ => 2
  | .string _ => 3
  | .array _ => 4
  | .object _ => 5

/-- The kind that the first character tells. -/
def kindOf (c : Char) : ℕ :=
  if c = 'n' then 0 else if c = 't' ∨ c = 'f' then 1 else if inNumber c then 2
  else if c = quote then 3 else if c = openBracket then 4 else 5

theorem write_head {a : Json} (numbers : allNumbers Numeric a) :
    ∃ c rest, write u a = c :: rest ∧ kindOf c = a.kind ∧ c ≠ closeBracket := by
  cases a with
  | null => exact ⟨'n', _, rfl, rfl, by decide⟩
  | bool b =>
    cases b with
    | true => exact ⟨'t', _, rfl, rfl, by decide⟩
    | false => exact ⟨'f', _, rfl, rfl, by decide⟩
  | number literal =>
    simp only [allNumbers, Numeric, Bool.and_eq_true] at numbers
    cases chars : literal.toList with
    | nil => simp [chars] at numbers
    | cons c rest =>
      rw [chars, List.all_cons, Bool.and_eq_true] at numbers
      have num := numbers.2.1
      have other (l : Char) (not : inNumber l = false) : c ≠ l := fun same => by
        rw [same, not] at num
        cases num
      refine ⟨c, rest, by rw [write, chars], ?_, other closeBracket rfl⟩
      simp [kindOf, num, other 'n' rfl, other 't' rfl, other 'f' rfl, kind]
  | string s => exact ⟨quote, _, rfl, rfl, by decide⟩
  | array xs => exact ⟨openBracket, _, rfl, rfl, by decide⟩
  | object fields => exact ⟨openBrace, _, rfl, rfl, by decide⟩

theorem items_ne_close {x y : List Char} (first : Bool) {a : Json} {xs : List Json} (ha : allNumbers Numeric a) :
    writeItems u first (a :: xs) ++ x ≠ closeBracket :: y := by
  intro h
  cases first with
  | true =>
    obtain ⟨c, rest, wa, -, other⟩ := write_head (u := u) ha
    rw [writeItems, wa] at h
    exact other (List.cons.inj h).1
  | false => exact absurd (List.cons.inj h).1 (by decide)

/-- The text goes on with something that is not of a number. -/
def Ends (x : List Char) : Prop := ∀ c ∈ x.head?, inNumber c = false

theorem kind_eq {a b : Json} {x y : List Char} (ha : allNumbers Numeric a) (hb : allNumbers Numeric b)
    (h : write u a ++ x = write v b ++ y) : a.kind = b.kind := by
  obtain ⟨c, rest, wa, ka, -⟩ := write_head (u := u) ha
  obtain ⟨d, rest', wb, kb, -⟩ := write_head (u := v) hb
  rw [wa, wb] at h
  rw [← ka, ← kb, (List.cons.inj h).1]

theorem number_inj {l l' x y : List Char} (hl : l.all inNumber) (hl' : l'.all inNumber) (hx : Ends x) (hy : Ends y)
    (h : l ++ x = l' ++ y) : l = l' ∧ x = y := by
  have front {l x : List Char} (hl : l.all inNumber) (hx : Ends x) : (l ++ x).takeWhile inNumber = l := by
    have none : x.takeWhile inNumber = [] := by
      cases x with
      | nil => rfl
      | cons c x => simp [hx c rfl]
    rw [List.takeWhile_append_of_pos (List.all_eq_true.mp hl), none, List.append_nil]
  have same : l = l' := by rw [← front hl hx, h, front hl' hy]
  exact ⟨same, List.append_cancel_left (same ▸ h)⟩

theorem ends_writeItems (xs : List Json) (x : List Char) : Ends (writeItems u false xs ++ x) := by
  cases xs <;> simp [Ends, writeItems] <;> decide

theorem ends_writeFields (fields : List (String × Json)) (x : List Char) :
    Ends (writeFields u false fields ++ x) := by
  cases fields <;> simp [Ends, writeFields] <;> decide

mutual

/-- A text that two writers may have written is of one document, which they write alike. -/
theorem write_inj (hu : Short u) (hv : Short v) : ∀ a b x y, allNumbers Numeric a → allNumbers Numeric b → Ends x →
    Ends y → write u a ++ x = write v b ++ y → a = b ∧ allStrings (Alike u v) a ∧ x = y
  | .null, b, x, y, ha, hb, _, _, h => by
    have kinds := kind_eq ha hb h
    cases b <;> simp [kind] at kinds
    exact ⟨rfl, rfl, List.append_cancel_left h⟩
  | .bool c, b, x, y, ha, hb, _, _, h => by
    have kinds := kind_eq ha hb h
    cases b <;> simp [kind] at kinds
    rename_i d
    cases c <;> cases d <;> simp [write] at h
    · exact ⟨rfl, rfl, h⟩
    · exact ⟨rfl, rfl, h⟩
  | .number l, b, x, y, ha, hb, hx, hy, h => by
    have kinds := kind_eq ha hb h
    cases b <;> simp [kind] at kinds
    rename_i l'
    simp only [allNumbers, Numeric, Bool.and_eq_true] at ha hb
    obtain ⟨same, rest⟩ := number_inj ha.2 hb.2 hx hy h
    obtain rfl := String.toList_inj.mp same
    exact ⟨rfl, rfl, rest⟩
  | .string s, b, x, y, ha, hb, _, _, h => by
    have kinds := kind_eq ha hb h
    cases b <;> simp [kind] at kinds
    obtain ⟨rfl, alike, rest⟩ := writeString_inj hu hv h
    exact ⟨rfl, alike, rest⟩
  | .array xs, b, x, y, ha, hb, _, _, h => by
    have kinds := kind_eq ha hb h
    cases b <;> simp [kind] at kinds
    rename_i ys
    simp only [write, List.cons_append, List.cons.injEq, true_and] at h
    obtain ⟨rfl, alike, rest⟩ := writeItems_inj hu hv true xs ys x y ha hb h
    exact ⟨rfl, alike, rest⟩
  | .object fields, b, x, y, ha, hb, _, _, h => by
    have kinds := kind_eq ha hb h
    cases b <;> simp [kind] at kinds
    rename_i fields'
    simp only [write, List.cons_append, List.cons.injEq, true_and] at h
    obtain ⟨rfl, alike, rest⟩ := writeFields_inj hu hv true fields fields' x y ha hb h
    exact ⟨rfl, alike, rest⟩

theorem writeItems_inj (hu : Short u) (hv : Short v) : ∀ first xs ys x y, allNumbersIn Numeric xs →
    allNumbersIn Numeric ys → writeItems u first xs ++ x = writeItems v first ys ++ y →
      xs = ys ∧ allStringsIn (Alike u v) xs ∧ x = y
  | first, [], [], x, y, _, _, h => ⟨rfl, rfl, (List.cons.inj h).2⟩
  | first, [], b :: ys, x, y, _, hys, h => by
    simp only [allNumbersIn, Bool.and_eq_true] at hys
    exact absurd h.symm (items_ne_close first hys.1)
  | first, a :: xs, [], x, y, hxs, _, h => by
    simp only [allNumbersIn, Bool.and_eq_true] at hxs
    exact absurd h (items_ne_close first hxs.1)
  | first, a :: xs, b :: ys, x, y, hxs, hys, h => by
    simp only [writeItems, List.append_assoc, List.append_cancel_left_eq] at h
    simp only [allNumbersIn, Bool.and_eq_true] at hxs hys
    obtain ⟨rfl, alike, h⟩ := write_inj hu hv a b _ _ hxs.1 hys.1 (ends_writeItems xs x) (ends_writeItems ys y) h
    obtain ⟨rfl, rest, h⟩ := writeItems_inj hu hv false xs ys x y hxs.2 hys.2 h
    exact ⟨rfl, by rw [allStringsIn, alike, rest]; rfl, h⟩

theorem writeFields_inj (hu : Short u) (hv : Short v) : ∀ first xs ys x y, allNumbersOf Numeric xs →
    allNumbersOf Numeric ys → writeFields u first xs ++ x = writeFields v first ys ++ y →
      xs = ys ∧ allStringsOf (Alike u v) xs ∧ x = y
  | first, [], [], x, y, _, _, h => ⟨rfl, rfl, (List.cons.inj h).2⟩
  | first, [], (name, b) :: ys, x, y, _, _, h => by
    cases first <;> exact absurd (List.cons.inj h).1 (by decide)
  | first, (name, a) :: xs, [], x, y, _, _, h => by
    cases first <;> exact absurd (List.cons.inj h).1 (by decide)
  | first, (name, a) :: xs, (name', b) :: ys, x, y, hxs, hys, h => by
    simp only [writeFields, List.append_assoc, List.append_cancel_left_eq, List.cons_append] at h
    simp only [allNumbersOf, Bool.and_eq_true] at hxs hys
    obtain ⟨rfl, named, h⟩ := writeString_inj hu hv h
    obtain ⟨rfl, alike, h⟩ := write_inj hu hv a b _ _ hxs.1 hys.1 (ends_writeFields xs x) (ends_writeFields ys y)
      (List.cons.inj h).2
    obtain ⟨rfl, rest, h⟩ := writeFields_inj hu hv false xs ys x y hxs.2 hys.2 h
    exact ⟨rfl, by rw [allStringsOf, named, alike, rest]; rfl, h⟩

end

mutual

/-- What the writers write alike in every string they write alike as a whole. -/
theorem write_alike : ∀ a, allStrings (Alike u v) a → write u a = write v a
  | .null, _ | .bool true, _ | .bool false, _ | .number _, _ => rfl
  | .string _, h => writeString_alike h
  | .array xs, h => congrArg (openBracket :: ·) (writeItems_alike true xs h)
  | .object fields, h => congrArg (openBrace :: ·) (writeFields_alike true fields h)

theorem writeItems_alike : ∀ first xs, allStringsIn (Alike u v) xs → writeItems u first xs = writeItems v first xs
  | _, [], _ => rfl
  | first, a :: xs, h => by
    simp only [allStringsIn, Bool.and_eq_true] at h
    rw [writeItems, writeItems, write_alike a h.1, writeItems_alike false xs h.2]

theorem writeFields_alike : ∀ first fields, allStringsOf (Alike u v) fields →
    writeFields u first fields = writeFields v first fields
  | _, [], _ => rfl
  | first, (name, a) :: fields, h => by
    simp only [allStringsOf, Bool.and_eq_true] at h
    rw [writeFields, writeFields, writeString_alike h.1.1, write_alike a h.1.2, writeFields_alike false fields h.2]

end

/-- Two writers give one text exactly to one document, all strings of which they write alike. -/
theorem write_eq_iff (hu : Short u) (hv : Short v) {a b : Json} (ha : allNumbers Numeric a)
    (hb : allNumbers Numeric b) : write u a = write v b ↔ a = b ∧ allStrings (Alike u v) a := by
  constructor
  · intro h
    have ends : Ends [] := fun c hc => by cases hc
    obtain ⟨same, alike, -⟩ := write_inj hu hv a b [] [] ha hb ends ends (by rw [h])
    exact ⟨same, alike⟩
  · rintro ⟨rfl, alike⟩
    exact write_alike a alike

end

end Json
