import AstraSystem.GoCommon.PanMatches
import Mathlib.Data.List.Nodup

/-!
# Which card numbers survive redaction

A card number that lies within one match of panRegex shows no more than the match does. One that does not lie within a
match whose digits are those of a card is shown where biometricRegex leaves it: what is masked of it ends where something
of it is shown between an asterisk and a separator.
-/

namespace GoCommon.Redaction

open Regex

/-! ## What is promised -/

/-- All but the first six and the last four. -/
def middle {α : Type} (digits : List α) : List α := (digits.drop 6).take (digits.length - 10)

section
variable {α : Type} (rune : α → Rune) (fresh : Rune → α)

/-- Between 13 and 19 digits that pass the check of Luhn, with no more than one space or dash between two, and no part of
a word next to them. -/
structure CardNumber (before body after : List α) : Prop where
  chars : ∀ a ∈ body, isDigit rune a = true ∨ rune a = .char ' ' ∨ rune a = .char '-'
  single : body.IsChain fun a b => isDigit rune a = true ∨ isDigit rune b = true
  first : ∃ d rest, body = d :: rest ∧ isDigit rune d = true
  last : ∃ rest d, body = rest ++ [d] ∧ isDigit rune d = true
  passes : passes rune body = true
  before : before.getLast?.any (isWord rune) = false
  after : after.head?.any (isWord rune) = false

/-- No digit of a card number is shown but the first six and the last four. -/
def Hides (text : List α) : Prop :=
  ∀ before body after, text = before ++ body ++ after → CardNumber rune before body after →
    ∀ a ∈ middle (digitsOnly rune body), a ∉ redact rune fresh text

/-- What lies between the two lies within one match of panRegex whose digits are those of a card. -/
def Within (text before after : List α) : Prop :=
  ∃ A g w B, panPieces rune text = A ++ .found g w :: B ∧ passes rune (g ++ w) = true ∧
    (A.flatMap Piece.text).length ≤ before.length ∧ (B.flatMap Piece.text).length ≤ after.length

/-- biometricRegex takes the character away. -/
def TakenAway (text : List α) (a : α) : Prop :=
  ∃ g v, .found g v ∈ biometricPieces rune (maskCards rune fresh text) ∧ a ∈ v

end

/-- A rune, and its place in the text if it was there. -/
abbrev Mark := Rune × Option ℕ

def mark (s : List Rune) : List Mark := s.zipIdx.map fun (r, i) => (r, some i)

def unmarked (r : Rune) : Mark := (r, none)

section
variable {α : Type} {rune : α → Rune} {fresh : Rune → α} {text before body after : List α} {a : α}

/-! ## Pieces -/

theorem pan_least (rune : α → Rune) : 0 < (panRegex.comap rune).group.least + (panRegex.comap rune).value.least := by
  rw [Pattern.comap, least_comap, least_comap]
  decide

theorem biometric_least (rune : α → Rune) :
    0 < (biometricRegex.comap rune).group.least + (biometricRegex.comap rune).value.least := by
  rw [Pattern.comap, least_comap, least_comap]
  decide +kernel

theorem panPieces_text (rune : α → Rune) (text : List α) : (panPieces rune text).flatMap Piece.text = text :=
  pieces_text (pan_least rune) text

theorem biometricPieces_text (rune : α → Rune) (text : List α) : (biometricPieces rune text).flatMap Piece.text = text :=
  pieces_text (biometric_least rune) text

/-- Each match, with what comes before and after. -/
theorem panMatch_of_piece {A B : List (Piece α)} {g w : List α} (split : panPieces rune text = A ++ .found g w :: B) :
    g = [] ∧ PanMatch rune (A.flatMap Piece.text) w (B.flatMap Piece.text) := by
  obtain ⟨p, q, e, found, here, ⟨rfl, rfl⟩, hw, rest⟩ := pieces_found (pan_least rune) split
  have whole := panMatch_of_find found here
  rw [hw.reads.upto, rest] at whole
  exact ⟨rfl, whole⟩

/-- An asterisk, and what may stand between the digits of a card. -/
def bars : List Rune := [.char '*', .char ' ', .char '-']

/-- What is taken away is long, and has no bars. -/
theorem value_of_piece {g v : List α} (mem : .found g v ∈ biometricPieces rune text) :
    32 ≤ v.length ∧ ∀ c ∈ v, rune c ∉ bars := by
  obtain ⟨A, B, split⟩ := List.append_of_mem mem
  obtain ⟨p, q, e, -, -, -, hv, -⟩ := pieces_found (biometric_least rune) split
  have rejects : biometricRegex.value.rejects bars = true := by decide +kernel
  have long : biometricRegex.value.least = 32 := by decide +kernel
  constructor
  · rw [← long, ← least_comap rune]
    exact hv.least_le
  · exact hv.all (all_comap (P := (· ∉ bars)) (all_of_rejects rejects))

/-! ## Lists -/

theorem mem_middle_iff {digits : List α} :
    a ∈ middle digits ↔ ∃ i, 6 ≤ i ∧ i + 4 < digits.length ∧ digits[i]? = some a := by
  rw [middle, List.mem_iff_getElem?]
  constructor
  · rintro ⟨i, at'⟩
    rw [List.getElem?_take] at at'
    split at at'
    · rename_i low
      rw [List.getElem?_drop] at at'
      exact ⟨6 + i, by omega, by omega, at'⟩
    · cases at'
  · rintro ⟨i, low, high, at'⟩
    refine ⟨i - 6, ?_⟩
    rw [List.getElem?_take, if_pos (by omega), List.getElem?_drop, ← at']
    congr 1
    omega

theorem mem_of_mem_middle {digits : List α} (mem : a ∈ middle digits) : a ∈ digits :=
  List.mem_of_mem_drop (List.mem_of_mem_take mem)

/-- What is masked of the digits of a card. -/
theorem mem_middle_of_masked {digits : List α} (mem : a ∈ digits) (six : a ∉ digits.take 6)
    (four : a ∉ digits.drop (digits.length - 4)) : a ∈ middle digits := by
  obtain ⟨i, at'⟩ := List.mem_iff_getElem?.mp mem
  have inside := (List.getElem?_eq_some_iff.mp at').1
  refine mem_middle_iff.mpr ⟨i, ?_, ?_, at'⟩
  · by_contra low
    refine six (List.mem_iff_getElem?.mpr ⟨i, ?_⟩)
    rw [List.getElem?_take, if_pos (by omega), at']
  · by_contra high
    refine four (List.mem_iff_getElem?.mpr ⟨i - (digits.length - 4), ?_⟩)
    rw [List.getElem?_drop, ← at']
    congr 1
    omega

theorem mem_take_six {digits : List α} {i : ℕ} (low : i < 6) (at' : digits[i]? = some a) : a ∈ digits.take 6 := by
  refine List.mem_iff_getElem?.mpr ⟨i, ?_⟩
  rw [List.getElem?_take, if_pos low, at']

theorem mem_drop_four {digits : List α} {i : ℕ} (high : digits.length - 4 ≤ i) (at' : digits[i]? = some a) :
    a ∈ digits.drop (digits.length - 4) := by
  refine List.mem_iff_getElem?.mpr ⟨i - (digits.length - 4), ?_⟩
  rw [List.getElem?_drop, ← at']
  congr 1
  omega

/-- A stretch that has neither of two characters is no longer than what lies between them, if it has one that lies
there. -/
theorem length_le_of_between [DecidableEq α] {P Q p q m v : List α} {b c e : α}
    (same : P ++ b :: m ++ c :: Q = p ++ v ++ q) (once : (p ++ v ++ q).count e ≤ 1) (inside : e ∈ m) (own : e ∈ v)
    (left : b ∉ v) (right : c ∉ v) : v.length ≤ m.length := by
  obtain ⟨m₁, m₂, rfl⟩ := List.append_of_mem inside
  obtain ⟨v₁, v₂, rfl⟩ := List.append_of_mem own
  have apart : (P ++ b :: m₁) ++ e :: (m₂ ++ c :: Q) = (p ++ v₁) ++ e :: (v₂ ++ q) := by
    simpa only [List.append_assoc, List.cons_append] using same
  have whole : p ++ (v₁ ++ e :: v₂) ++ q = (P ++ b :: m₁) ++ e :: (m₂ ++ c :: Q) := by
    rw [apart]
    simp
  rw [whole, List.count_append, List.count_cons_self] at once
  have first : e ∉ P ++ b :: m₁ := List.count_eq_zero.mp (by omega)
  have last : e ∉ m₂ ++ c :: Q := List.count_eq_zero.mp (by omega)
  obtain ⟨before, -, after⟩ := (List.append_cons_inj_of_notMem first last).mp apart
  have left : b ∉ v₁ := fun mem => left (List.mem_append_left _ mem)
  have right : c ∉ v₂ := fun mem => right (List.mem_append_right _ (List.mem_cons_of_mem _ mem))
  have low : v₁.length ≤ m₁.length := by
    obtain ⟨x, rfl, rest⟩ | ⟨x, rfl, rest⟩ := List.append_eq_append_iff.mp before
    · cases x with
      | nil =>
        rw [List.nil_append] at rest
        exact absurd (rest ▸ List.mem_cons_self) left
      | cons y x =>
        obtain ⟨-, rfl⟩ := List.cons.inj rest
        show v₁.length ≤ (x ++ v₁).length
        rw [List.length_append]
        omega
    · exact absurd (rest ▸ List.mem_append_right _ List.mem_cons_self) left
  have high : v₂.length ≤ m₂.length := by
    obtain ⟨x, rfl, rest⟩ | ⟨x, rfl, rest⟩ := List.append_eq_append_iff.mp after
    · cases x with
      | nil => exact (List.append_nil m₂).symm ▸ Nat.le_refl _
      | cons y x =>
        obtain ⟨rfl, -⟩ := List.cons.inj rest
        exact absurd (List.mem_append_right _ List.mem_cons_self) right
    · rw [List.length_append]
      omega
  simp only [List.length_append, List.length_cons]
  omega

/-- Two lists of distinct members that agree up to what lies before one of them, and share a member that is not among the
first few of either: then one of these of the second is in the first, but not among the first few there. -/
theorem exists_kept {D R X W R' : List α} {i k few : ℕ} (same : D ++ R = X ++ W ++ R') (distinct : (D ++ R).Nodup)
    (shifted : X ≠ []) (own : D[i]? = some a) (own' : W[k]? = some a) (some' : 0 < few) (far : few ≤ k) :
    X.length ≤ i ∧ ∃ t e u, few ≤ t ∧ t ≤ i ∧ D[t]? = some e ∧ u < few ∧ W[u]? = some e := by
  have inside := (List.getElem?_eq_some_iff.mp own).1
  have inside' := (List.getElem?_eq_some_iff.mp own').1
  have positive := List.length_pos_iff.mpr shifted
  have first : (D ++ R)[i]? = some a := by rw [List.getElem?_append_left inside, own]
  have second : (D ++ R)[X.length + k]? = some a := by
    rw [same, List.append_assoc, List.getElem?_append_right (by omega), List.getElem?_append_left (by omega), ← own']
    congr 1
    omega
  have inside'' : i < (D ++ R).length := (List.getElem?_eq_some_iff.mp first).1
  have place : i = X.length + k :=
    (List.getElem?_inj inside'' distinct).mp (first.trans second.symm)
  have within : max X.length few < D.length := by omega
  refine ⟨by omega, max X.length few, D[max X.length few], max X.length few - X.length, by omega, by omega,
    List.getElem?_eq_getElem _, by omega, ?_⟩
  have there : (D ++ R)[max X.length few]? = some D[max X.length few] := by
    rw [List.getElem?_append_left (by omega), List.getElem?_eq_getElem]
  rw [same, List.append_assoc, List.getElem?_append_right (by omega), List.getElem?_append_left (by omega)] at there
  exact there

/-! ## What masking leaves -/

theorem mem_maskPAN {digits : List α} (enough : 13 ≤ digits.length) (known : ∀ r, fresh r ≠ a) :
    a ∈ maskPAN fresh digits ↔ a ∈ digits.take 6 ∨ a ∈ digits.drop (digits.length - 4) := by
  have other : a ∉ List.replicate (digits.length - 10) (fresh (.char '*')) := fun mem =>
    known _ (List.eq_of_mem_replicate mem).symm
  rw [maskPAN, if_neg (by omega), List.mem_append, List.mem_append, or_iff_left other]

theorem thirteen_of_passes {w : List α} (h : passes rune w = true) : 13 ≤ (digitsOnly rune w).length := by
  simp only [passes, Bool.and_eq_true, decide_eq_true_eq] at h
  exact h.1.1

theorem replacePAN_found {g w : List α} (h : passes rune (g ++ w) = true) :
    replacePAN rune fresh (.found g w) = maskPAN fresh (digitsOnly rune (g ++ w)) := if_pos h

theorem maskCards_of_split {A B : List (Piece α)} {g w : List α} (split : panPieces rune text = A ++ .found g w :: B)
    (own : passes rune (g ++ w) = true) : maskCards rune fresh text =
      A.flatMap (replacePAN rune fresh) ++ maskPAN fresh (digitsOnly rune (g ++ w)) ++
        B.flatMap (replacePAN rune fresh) := by
  rw [maskCards, split, List.flatMap_append, List.flatMap_cons, replacePAN_found own, List.append_assoc]

theorem text_of_split {A B : List (Piece α)} {g w : List α} (split : panPieces rune text = A ++ .found g w :: B) :
    text = A.flatMap Piece.text ++ (g ++ w) ++ B.flatMap Piece.text := by
  have whole := panPieces_text rune text
  rw [split, List.flatMap_append, List.flatMap_cons, ← List.append_assoc] at whole
  exact whole.symm

theorem mem_text_of_mem_replacePAN (known : ∀ r, fresh r ≠ a) {piece : Piece α}
    (mem : a ∈ replacePAN rune fresh piece) : a ∈ piece.text := by
  cases piece with
  | plain c => exact mem
  | found g w =>
    by_cases own : passes rune (g ++ w) = true
    · rw [replacePAN_found own, mem_maskPAN (thirteen_of_passes own) known] at mem
      obtain mem | mem := mem
      · exact List.mem_of_mem_filter (List.mem_of_mem_take mem)
      · exact List.mem_of_mem_filter (List.mem_of_mem_drop mem)
    · have same : replacePAN rune fresh (.found g w) = g ++ w := if_neg own
      rwa [same] at mem

theorem mem_texts_of_mem (known : ∀ r, fresh r ≠ a) {l : List (Piece α)}
    (mem : a ∈ l.flatMap (replacePAN rune fresh)) : a ∈ l.flatMap Piece.text := by
  obtain ⟨piece, piece', mem⟩ := List.mem_flatMap.mp mem
  exact List.mem_flatMap.mpr ⟨piece, piece', mem_text_of_mem_replacePAN known mem⟩

/-- What is left of a match whose digits are those of a card. -/
theorem mem_maskCards_iff (known : ∀ r, fresh r ≠ a) (distinct : text.Nodup) {A B : List (Piece α)} {g w : List α}
    (split : panPieces rune text = A ++ .found g w :: B) (own : passes rune (g ++ w) = true) (mem : a ∈ g ++ w) :
    a ∈ maskCards rune fresh text ↔ a ∈ (digitsOnly rune (g ++ w)).take 6 ∨
      a ∈ (digitsOnly rune (g ++ w)).drop ((digitsOnly rune (g ++ w)).length - 4) := by
  rw [text_of_split split] at distinct
  obtain ⟨left, -, right⟩ := List.nodup_append.mp distinct
  have before : a ∉ A.flatMap (replacePAN rune fresh) := fun mem' =>
    (List.nodup_append.mp left).2.2 a (mem_texts_of_mem known mem') a mem rfl
  have after : a ∉ B.flatMap (replacePAN rune fresh) := fun mem' =>
    right a (List.mem_append_right _ mem) a (mem_texts_of_mem known mem') rfl
  rw [maskCards_of_split split own, List.mem_append, List.mem_append, or_iff_left after, or_iff_right before,
    mem_maskPAN (thirteen_of_passes own) known]

/-- What is not left was masked in a match. -/
theorem masked_of_not_mem (known : ∀ r, fresh r ≠ a) (mem : a ∈ text) (gone : a ∉ maskCards rune fresh text) :
    ∃ A g w B, panPieces rune text = A ++ .found g w :: B ∧ passes rune (g ++ w) = true ∧ a ∈ g ++ w ∧
      a ∉ (digitsOnly rune (g ++ w)).take 6 ∧
      a ∉ (digitsOnly rune (g ++ w)).drop ((digitsOnly rune (g ++ w)).length - 4) := by
  rw [← panPieces_text rune text] at mem
  obtain ⟨piece, piece', mem⟩ := List.mem_flatMap.mp mem
  have gone : a ∉ replacePAN rune fresh piece := fun mem => gone (List.mem_flatMap.mpr ⟨piece, piece', mem⟩)
  cases piece with
  | plain c => exact absurd mem gone
  | found g w =>
    by_cases own : passes rune (g ++ w) = true
    · obtain ⟨A, B, split⟩ := List.append_of_mem piece'
      rw [replacePAN_found own, mem_maskPAN (thirteen_of_passes own) known, not_or] at gone
      exact ⟨A, g, w, B, split, own, mem, gone⟩
    · have same : replacePAN rune fresh (.found g w) = g ++ w := if_neg own
      rw [same] at gone
      exact absurd mem gone

section
variable [DecidableEq α]

/-- Nothing is there more often than before. -/
theorem count_replacePAN_le (known : ∀ r, fresh r ≠ a) (piece : Piece α) :
    (replacePAN rune fresh piece).count a ≤ piece.text.count a := by
  cases piece with
  | plain c => exact Nat.le_refl _
  | found g w =>
    by_cases own : passes rune (g ++ w) = true
    · have enough := thirteen_of_passes own
      rw [replacePAN_found own, Piece.text]
      have other : (List.replicate ((digitsOnly rune (g ++ w)).length - 10) (fresh (.char '*'))).count a = 0 :=
        List.count_eq_zero.mpr fun mem => known _ (List.eq_of_mem_replicate mem).symm
      rw [maskPAN, if_neg (by omega), List.count_append, List.count_append, other, Nat.add_zero]
      have digits : (digitsOnly rune (g ++ w)).count a ≤ (g ++ w).count a := List.filter_sublist.count_le a
      apply Nat.le_trans ?_ digits
      have parts := List.take_append_drop 6 (digitsOnly rune (g ++ w))
      have later : (digitsOnly rune (g ++ w)).drop ((digitsOnly rune (g ++ w)).length - 4) =
          ((digitsOnly rune (g ++ w)).drop 6).drop ((digitsOnly rune (g ++ w)).length - 10) := by
        rw [List.drop_drop]
        congr 1
        omega
      rw [later]
      calc _ ≤ ((digitsOnly rune (g ++ w)).take 6).count a + ((digitsOnly rune (g ++ w)).drop 6).count a :=
            Nat.add_le_add_left ((List.drop_sublist _ _).count_le a) _
        _ = (digitsOnly rune (g ++ w)).count a := by rw [← List.count_append, parts]
    · have same : replacePAN rune fresh (.found g w) = g ++ w := if_neg own
      rw [same]
      exact Nat.le_refl _

theorem count_flatMap_le {f g : Piece α → List α} (le : ∀ p, (f p).count a ≤ (g p).count a) (l : List (Piece α)) :
    (l.flatMap f).count a ≤ (l.flatMap g).count a := by
  induction l with
  | nil => exact Nat.le_refl _
  | cons p l ih =>
    rw [List.flatMap_cons, List.flatMap_cons, List.count_append, List.count_append]
    exact Nat.add_le_add (le p) ih

theorem count_maskCards_le (known : ∀ r, fresh r ≠ a) :
    (maskCards rune fresh text).count a ≤ text.count a := by
  calc (maskCards rune fresh text).count a ≤ ((panPieces rune text).flatMap Piece.text).count a :=
        count_flatMap_le (count_replacePAN_le known) (panPieces rune text)
    _ = text.count a := by rw [panPieces_text]

/-! ## What biometricRegex takes away -/

/-- What stays of a piece. -/
def kept : Piece α → List α
  | .plain c => [c]
  | .found g _ => g

/-- What does not. -/
def taken : Piece α → List α
  | .plain _ => []
  | .found _ v => v

omit [DecidableEq α] in
theorem mem_replaceBiometric_iff (known : ∀ r, fresh r ≠ a) {piece : Piece α} :
    a ∈ replaceBiometric fresh piece ↔ a ∈ kept piece := by
  cases piece with
  | plain c => exact Iff.rfl
  | found g v =>
    rw [replaceBiometric, List.mem_append, kept, or_iff_left]
    intro mem
    obtain ⟨c, -, same⟩ := List.mem_map.mp mem
    exact known _ same

theorem count_pieces (a : α) (l : List (Piece α)) :
    (l.flatMap Piece.text).count a = (l.flatMap kept).count a + (l.flatMap taken).count a := by
  induction l with
  | nil => rfl
  | cons p l ih =>
    have own : p.text.count a = (kept p).count a + (taken p).count a := by
      cases p with
      | plain c => rfl
      | found g v => exact List.count_append
    rw [List.flatMap_cons, List.flatMap_cons, List.flatMap_cons, List.count_append, List.count_append,
      List.count_append, ih, own]
    omega

/-- What biometricRegex does not take away of what masking leaves is shown, and nothing else is. -/
theorem mem_redact_iff (known : ∀ r, fresh r ≠ a) (once : text.count a ≤ 1) :
    a ∈ redact rune fresh text ↔ a ∈ maskCards rune fresh text ∧ ¬ TakenAway rune fresh text a := by
  have shown : a ∈ redact rune fresh text ↔ a ∈ (biometricPieces rune (maskCards rune fresh text)).flatMap kept := by
    simp only [redact, List.mem_flatMap, mem_replaceBiometric_iff known]
  have gone : TakenAway rune fresh text a ↔
      a ∈ (biometricPieces rune (maskCards rune fresh text)).flatMap taken := by
    constructor
    · rintro ⟨g, v, piece, mem⟩
      exact List.mem_flatMap.mpr ⟨_, piece, mem⟩
    · intro mem
      obtain ⟨piece, piece', mem⟩ := List.mem_flatMap.mp mem
      cases piece with
      | plain c => cases mem
      | found g v => exact ⟨g, v, piece', mem⟩
  have parts := count_pieces a (biometricPieces rune (maskCards rune fresh text))
  rw [biometricPieces_text] at parts
  have le : (maskCards rune fresh text).count a ≤ text.count a := count_maskCards_le known
  rw [shown, gone, ← List.count_pos_iff, ← List.count_pos_iff, ← List.count_pos_iff]
  omega

/-- A short stretch between two bars is shown. -/
theorem shown_of_between (known : ∀ r, fresh r ≠ a) (once : text.count a ≤ 1) {P m Q : List α} {b c : α}
    (shape : maskCards rune fresh text = P ++ b :: m ++ c :: Q) (short : m.length < 32) (inside : a ∈ m)
    (left : rune b ∈ bars) (right : rune c ∈ bars) : a ∈ redact rune fresh text := by
  apply (mem_redact_iff known once).mpr
  constructor
  · rw [shape]
    exact List.mem_append_left _ (List.mem_append_right _ (List.mem_cons_of_mem _ inside))
  · rintro ⟨g, v, piece, own⟩
    obtain ⟨long, clear⟩ := value_of_piece piece
    obtain ⟨before, after, split⟩ := List.append_of_mem piece
    have whole := biometricPieces_text rune (maskCards rune fresh text)
    rw [split, List.flatMap_append, List.flatMap_cons, Piece.text, List.append_assoc, ← List.append_assoc,
      ← List.append_assoc] at whole
    have le : (maskCards rune fresh text).count a ≤ text.count a := count_maskCards_le known
    rw [← whole] at le
    have short' := length_le_of_between (shape.symm.trans whole.symm) (Nat.le_trans le once) inside own
      (fun mem => clear b mem left) (fun mem => clear c mem right)
    omega

end

/-! ## A card number and a match that do not lie within each other -/

theorem panPieces_found {A B : List (Piece α)} {g w : List α} (split : panPieces rune text = A ++ .found g w :: B) :
    g = [] := (panMatch_of_piece split).1

/-- What ends with a bar still does when cards are masked. -/
theorem exists_of_getLast {A C : List (Piece α)} {b : α} (split : panPieces rune text = A ++ C)
    (last : (A.flatMap Piece.text).getLast? = some b) (bar : isDigit rune b = false) :
    ∃ P, A.flatMap (replacePAN rune fresh) = P ++ [b] := by
  obtain rfl | ⟨A, p, rfl⟩ := List.eq_nil_or_concat' A
  · cases last
  rw [List.flatMap_append, List.flatMap_singleton, List.getLast?_append] at last
  rw [List.flatMap_append, List.flatMap_singleton]
  cases p with
  | plain c =>
    obtain rfl : c = b := Option.some.inj last
    exact ⟨_, rfl⟩
  | found g w =>
    rw [List.append_assoc] at split
    obtain ⟨rfl, whole⟩ := panMatch_of_piece split
    obtain ⟨rest, d, rfl, digit⟩ := whole.last
    rw [Piece.text, List.nil_append, List.getLast?_append, List.getLast?_singleton, Option.some_or,
      Option.some_or] at last
    obtain rfl := Option.some.inj last
    exact absurd (digit.symm.trans bar) (by decide)

theorem exists_of_head {B C : List (Piece α)} {b : α} (split : panPieces rune text = C ++ B)
    (first : (B.flatMap Piece.text).head? = some b) (bar : isDigit rune b = false) :
    ∃ Q, B.flatMap (replacePAN rune fresh) = b :: Q := by
  cases B with
  | nil => cases first
  | cons p B =>
    cases p with
    | plain c =>
      obtain rfl : c = b := Option.some.inj first
      exact ⟨_, rfl⟩
    | found g w =>
      obtain ⟨rfl, whole⟩ := panMatch_of_piece split
      obtain ⟨d, rest, rfl, digit⟩ := whole.first
      obtain rfl : d = b := Option.some.inj first
      exact absurd (digit.symm.trans bar) (by decide)

/-- What is no part of a word in a card number is a bar. -/
theorem CardNumber.bar (card : CardNumber rune before body after) (mem : a ∈ body) (other : isWord rune a = false) :
    isDigit rune a = false ∧ rune a ∈ bars := by
  have digit : isDigit rune a = false := by
    rw [← Bool.not_eq_true]
    intro digit
    exact absurd ((isWord_of_isDigit digit).symm.trans other) (by decide)
  refine ⟨digit, ?_⟩
  obtain own | own | own := card.chars a mem
  · exact absurd (own.symm.trans digit) (by decide)
  · exact own ▸ List.mem_cons_of_mem _ List.mem_cons_self
  · exact own ▸ List.mem_cons_of_mem _ (List.mem_cons_of_mem _ List.mem_cons_self)

theorem digitsOnly_append (u v : List α) : digitsOnly rune (u ++ v) = digitsOnly rune u ++ digitsOnly rune v :=
  List.filter_append ..

theorem digitsOnly_ne_nil {d : α} {rest : List α} (h : isDigit rune d = true) : digitsOnly rune (d :: rest) ≠ [] := by
  have first : digitsOnly rune (d :: rest) = d :: digitsOnly rune rest := List.filter_cons_of_pos h
  rw [first]
  exact List.cons_ne_nil _ _

theorem digitsOnly_ne_nil' {d : α} {rest : List α} (h : isDigit rune d = true) :
    digitsOnly rune (rest ++ [d]) ≠ [] := by
  rw [digitsOnly_append]
  exact List.append_ne_nil_of_right_ne_nil _ (digitsOnly_ne_nil h)

theorem maskPAN_eq {digits : List α} (enough : 13 ≤ digits.length) : maskPAN fresh digits =
    digits.take 6 ++ fresh (.char '*') :: (List.replicate (digits.length - 12) (fresh (.char '*')) ++
      fresh (.char '*') :: digits.drop (digits.length - 4)) := by
  have stars : List.replicate (digits.length - 10) (fresh (.char '*')) =
      fresh (.char '*') :: (List.replicate (digits.length - 12) (fresh (.char '*')) ++ [fresh (.char '*')]) := by
    rw [← List.replicate_succ', ← List.replicate_succ]
    congr 1
    omega
  rw [maskPAN, if_neg (by omega), stars]
  simp

section
variable [DecidableEq α] {A B : List (Piece α)} {w : List α}

/-- Where a match begins within a card number, one of the six that it leaves is a digit that should not be shown. -/
theorem shown_of_earlier (known : ∀ a ∈ text, ∀ r, fresh r ≠ a) (law : ∀ r, rune (fresh r) = r) (distinct : text.Nodup)
    (card : CardNumber rune before body after) (whole : text = before ++ body ++ after)
    (split : panPieces rune text = A ++ .found [] w :: B) (own : passes rune w = true)
    (mid : a ∈ middle (digitsOnly rune body)) (masked : a ∈ middle (digitsOnly rune w))
    (later : before.length < (A.flatMap Piece.text).length) :
    ∃ e ∈ middle (digitsOnly rune body), e ∈ redact rune fresh text := by
  have found := (panMatch_of_piece split).2
  have parts := text_of_split split
  obtain ⟨X, start, rest⟩ : ∃ X, A.flatMap Piece.text = before ++ X ∧ body ++ after = X ++ w ++ B.flatMap Piece.text := by
    rw [whole, List.append_assoc, List.nil_append, List.append_assoc] at parts
    obtain ⟨X, start, rest⟩ | ⟨X, start, -⟩ := List.append_eq_append_iff.mp parts
    · exact ⟨X, start, by rw [rest, List.append_assoc]⟩
    · have lengths := congrArg List.length start
      rw [List.length_append] at lengths
      omega
  have some' : X ≠ [] := by
    rintro rfl
    rw [start, List.append_nil] at later
    exact Nat.lt_irrefl _ later
  obtain ⟨i, low, high, at'⟩ := mem_middle_iff.mp mid
  obtain ⟨k, far, far', there⟩ := mem_middle_iff.mp masked
  have digits : digitsOnly rune body ++ digitsOnly rune after =
      digitsOnly rune X ++ digitsOnly rune w ++ digitsOnly rune (B.flatMap Piece.text) := by
    rw [← digitsOnly_append, ← digitsOnly_append, ← digitsOnly_append, rest]
  have distinct' : (digitsOnly rune body ++ digitsOnly rune after).Nodup := by
    rw [← digitsOnly_append]
    rw [whole, List.append_assoc] at distinct
    exact (List.nodup_append.mp distinct).2.1.filter _
  have shifted : digitsOnly rune X ≠ [] := by
    obtain ⟨d, rest', first, digit⟩ := card.first
    cases X with
    | nil => exact absurd rfl some'
    | cons x X =>
      rw [first] at rest
      obtain ⟨rfl, -⟩ := List.cons.inj rest
      exact digitsOnly_ne_nil digit
  obtain ⟨within, t, e, u, ht, ht', own', near, kept⟩ :=
    exists_kept digits distinct' shifted at' there (by decide) far
  -- the match begins after what stands between two digits
  obtain ⟨Y, part⟩ : ∃ Y, body = X ++ Y := by
    rw [List.append_assoc] at rest
    obtain ⟨Z, part, -⟩ | ⟨Y, part, -⟩ := List.append_eq_append_iff.mp rest
    · rw [part, digitsOnly_append, List.length_append] at within
      omega
    · exact ⟨Y, part⟩
  obtain rfl | ⟨X, b, rfl⟩ := List.eq_nil_or_concat' X
  · exact absurd rfl some'
  have last : (A.flatMap Piece.text).getLast? = some b := by
    rw [start, ← List.append_assoc, List.getLast?_concat]
  have other : isWord rune b = false := by
    have none := found.before
    rwa [last] at none
  obtain ⟨digit, bar⟩ := card.bar (by rw [part]; simp) other
  obtain ⟨P, left⟩ : ∃ P, A.flatMap (replacePAN rune fresh) = P ++ [b] := exists_of_getLast split last digit
  have mid' : e ∈ middle (digitsOnly rune body) := mem_middle_iff.mpr ⟨t, ht, by omega, own'⟩
  have mem : e ∈ text := by
    rw [whole]
    exact List.mem_append_left _ (List.mem_append_right _ (List.mem_of_mem_filter (mem_of_mem_middle mid')))
  have shape : maskCards rune fresh text = P ++ b :: (digitsOnly rune w).take 6 ++ fresh (.char '*') ::
      (List.replicate ((digitsOnly rune w).length - 12) (fresh (.char '*')) ++ fresh (.char '*') ::
        (digitsOnly rune w).drop ((digitsOnly rune w).length - 4) ++ B.flatMap (replacePAN rune fresh)) := by
    rw [maskCards_of_split split own, left, List.nil_append, maskPAN_eq (thirteen_of_passes own)]
    simp only [List.append_assoc, List.cons_append, List.nil_append]
  have short : ((digitsOnly rune w).take 6).length < 32 := by
    rw [List.length_take]
    omega
  have star : rune (fresh (.char '*')) ∈ bars := by
    rw [law]
    exact List.mem_cons_self
  exact ⟨e, mid', shown_of_between (known e mem) (List.nodup_iff_count_le_one.mp distinct e) shape short
    (mem_take_six near kept) bar star⟩

/-- Where a match ends within a card number, one of the four that it leaves is a digit that should not be shown. -/
theorem shown_of_later (known : ∀ a ∈ text, ∀ r, fresh r ≠ a) (law : ∀ r, rune (fresh r) = r) (distinct : text.Nodup)
    (card : CardNumber rune before body after) (whole : text = before ++ body ++ after)
    (split : panPieces rune text = A ++ .found [] w :: B) (own : passes rune w = true)
    (mid : a ∈ middle (digitsOnly rune body)) (masked : a ∈ middle (digitsOnly rune w))
    (earlier : after.length < (B.flatMap Piece.text).length) :
    ∃ e ∈ middle (digitsOnly rune body), e ∈ redact rune fresh text := by
  have found := (panMatch_of_piece split).2
  have parts := text_of_split split
  obtain ⟨Z, stop, rest⟩ : ∃ Z, B.flatMap Piece.text = Z ++ after ∧ before ++ body = A.flatMap Piece.text ++ w ++ Z := by
    rw [whole, List.nil_append] at parts
    obtain ⟨Z, -, stop⟩ | ⟨Z, rest, stop⟩ := List.append_eq_append_iff.mp parts
    · have lengths := congrArg List.length stop
      rw [List.length_append] at lengths
      omega
    · exact ⟨Z, stop, rest⟩
  have some' : Z ≠ [] := by
    rintro rfl
    rw [stop] at earlier
    exact Nat.lt_irrefl _ earlier
  obtain ⟨i, low, high, at'⟩ := mem_middle_iff.mp mid
  obtain ⟨k, far, far', there⟩ := mem_middle_iff.mp masked
  -- from the last digit on, it is as from the first
  have digits : (digitsOnly rune body).reverse ++ (digitsOnly rune before).reverse = (digitsOnly rune Z).reverse ++
      (digitsOnly rune w).reverse ++ (digitsOnly rune (A.flatMap Piece.text)).reverse := by
    rw [← List.reverse_append, ← digitsOnly_append, rest, digitsOnly_append, digitsOnly_append, List.reverse_append,
      List.reverse_append, List.append_assoc]
  have distinct' : ((digitsOnly rune body).reverse ++ (digitsOnly rune before).reverse).Nodup := by
    rw [← List.reverse_append, ← digitsOnly_append, List.nodup_reverse]
    rw [whole] at distinct
    exact (List.nodup_append.mp distinct).1.filter _
  have shifted : (digitsOnly rune Z).reverse ≠ [] := by
    obtain ⟨rest', d, last, digit⟩ := card.last
    obtain rfl | ⟨Z, z, rfl⟩ := List.eq_nil_or_concat' Z
    · exact absurd rfl some'
    · rw [last, ← List.append_assoc, ← List.append_assoc] at rest
      obtain ⟨-, same⟩ := List.append_inj' rest rfl
      cases same
      rw [Ne, List.reverse_eq_nil_iff]
      exact digitsOnly_ne_nil' digit
  have at'' : (digitsOnly rune body).reverse[(digitsOnly rune body).length - 1 - i]? = some a := by
    rw [List.getElem?_reverse (by omega), ← at']
    congr 1
    omega
  have there' : (digitsOnly rune w).reverse[(digitsOnly rune w).length - 1 - k]? = some a := by
    rw [List.getElem?_reverse (by omega), ← there]
    congr 1
    omega
  obtain ⟨within, t, e, u, ht, ht', own', near, kept⟩ :=
    exists_kept digits distinct' shifted at'' there' (show 0 < 4 by decide) (by omega)
  rw [List.getElem?_reverse (by omega)] at own'
  have near' : u < (digitsOnly rune w).length := by
    have inside := (List.getElem?_eq_some_iff.mp kept).1
    rwa [List.length_reverse] at inside
  rw [List.getElem?_reverse near'] at kept
  -- the match ends before what stands between two digits
  obtain ⟨Y, part⟩ : ∃ Y, body = Y ++ Z := by
    obtain ⟨Y, -, part⟩ | ⟨Y, -, part⟩ := List.append_eq_append_iff.mp rest
    · exact ⟨Y, part⟩
    · rw [part, digitsOnly_append, List.length_reverse, List.length_append] at within
      omega
  cases Z with
  | nil => exact absurd rfl some'
  | cons c Z =>
    have first : (B.flatMap Piece.text).head? = some c := by
      rw [stop]
      rfl
    have other : isWord rune c = false := by
      have none := found.after
      rwa [first] at none
    obtain ⟨digit, bar⟩ := card.bar (by rw [part]; simp) other
    obtain ⟨Q, right⟩ : ∃ Q, B.flatMap (replacePAN rune fresh) = c :: Q :=
      exists_of_head (C := A ++ [.found [] w]) (by rw [split, List.append_assoc]; rfl) first digit
    have mid' : e ∈ middle (digitsOnly rune body) := mem_middle_iff.mpr ⟨_, by omega, by omega, own'⟩
    have mem : e ∈ text := by
      rw [whole]
      exact List.mem_append_left _ (List.mem_append_right _ (List.mem_of_mem_filter (mem_of_mem_middle mid')))
    have shape : maskCards rune fresh text = (A.flatMap (replacePAN rune fresh) ++ (digitsOnly rune w).take 6 ++
        fresh (.char '*') :: List.replicate ((digitsOnly rune w).length - 12) (fresh (.char '*'))) ++
        fresh (.char '*') :: (digitsOnly rune w).drop ((digitsOnly rune w).length - 4) ++ c :: Q := by
      rw [maskCards_of_split split own, right, List.nil_append, maskPAN_eq (thirteen_of_passes own)]
      simp only [List.append_assoc, List.cons_append]
    have short : ((digitsOnly rune w).drop ((digitsOnly rune w).length - 4)).length < 32 := by
      rw [List.length_drop]
      omega
    have star : rune (fresh (.char '*')) ∈ bars := by
      rw [law]
      exact List.mem_cons_self
    exact ⟨e, mid', shown_of_between (known e mem) (List.nodup_iff_count_le_one.mp distinct e) shape short
      (mem_drop_four (by omega) kept) star bar⟩

/-! ## A card number within a match -/

omit [DecidableEq α] in
theorem middle_parts {digits : List α} (enough : 10 ≤ digits.length) :
    digits.take 6 ++ (middle digits ++ digits.drop (digits.length - 4)) = digits := by
  have last : (digits.drop 6).drop (digits.length - 10) = digits.drop (digits.length - 4) := by
    rw [List.drop_drop]
    congr 1
    omega
  rw [middle, ← last, List.take_append_drop, List.take_append_drop]

omit [DecidableEq α] in
theorem mem_middle_append {digits : List α} (X Y : List α) (mem : a ∈ middle digits) :
    a ∈ middle (X ++ digits ++ Y) := by
  obtain ⟨i, low, high, at'⟩ := mem_middle_iff.mp mem
  refine mem_middle_iff.mpr ⟨X.length + i, by omega, ?_, ?_⟩
  · rw [List.length_append, List.length_append]
    omega
  · rw [List.append_assoc, List.getElem?_append_right (by omega), List.getElem?_append_left (by omega), ← at']
    congr 1
    omega

omit [DecidableEq α] in
theorem exists_of_within {A B : List α} (same : A ++ w ++ B = before ++ body ++ after)
    (left : A.length ≤ before.length) (right : B.length ≤ after.length) : ∃ X Y, w = X ++ body ++ Y := by
  have first : A <+: A ++ w ++ B := ⟨w ++ B, by simp⟩
  obtain ⟨X, rfl⟩ : A <+: before := List.prefix_of_prefix_length_le first ⟨body ++ after, by rw [same]; simp⟩ left
  have last : B <:+ A ++ w ++ B := ⟨A ++ w, rfl⟩
  obtain ⟨Y, rfl⟩ : B <:+ after := List.suffix_of_suffix_length_le last ⟨A ++ X ++ body, by rw [same]⟩ right
  refine ⟨X, Y, ?_⟩
  have same : A ++ (w ++ B) = A ++ (X ++ body ++ Y ++ B) := by simpa only [List.append_assoc] using same
  exact List.append_cancel_right (List.append_cancel_left same)

/-- What a match leaves of a card number within it is no more than what may be shown. -/
theorem hidden_of_within (known : ∀ a ∈ text, ∀ r, fresh r ≠ a) (distinct : text.Nodup)
    (whole : text = before ++ body ++ after) (within : Within rune text before after)
    (mid : a ∈ middle (digitsOnly rune body)) : a ∉ redact rune fresh text := by
  obtain ⟨A, g, w, B, split, own, left, right⟩ := within
  obtain rfl := panPieces_found split
  have parts := text_of_split split
  rw [List.nil_append] at parts
  obtain ⟨X, Y, rfl⟩ := exists_of_within (parts.symm.trans whole) left right
  have mid' : a ∈ middle (digitsOnly rune (X ++ body ++ Y)) := by
    rw [digitsOnly_append, digitsOnly_append]
    exact mem_middle_append _ _ mid
  have mem : a ∈ X ++ body ++ Y := List.mem_of_mem_filter (mem_of_mem_middle mid')
  have mem' : a ∈ text := by
    rw [parts]
    exact List.mem_append_left _ (List.mem_append_right _ mem)
  have enough : 13 ≤ (digitsOnly rune (X ++ body ++ Y)).length := thirteen_of_passes own
  have distinct' : (digitsOnly rune (X ++ body ++ Y)).Nodup := by
    rw [parts] at distinct
    exact (List.nodup_append.mp (List.nodup_append.mp distinct).1).2.1.filter _
  rw [← middle_parts (Nat.le_trans (by decide) enough)] at distinct'
  obtain ⟨-, later, apart⟩ := List.nodup_append.mp distinct'
  obtain ⟨-, -, apart'⟩ := List.nodup_append.mp later
  intro shown
  have left' := ((mem_redact_iff (known a mem') (List.nodup_iff_count_le_one.mp distinct a)).mp shown).1
  obtain six | four := (mem_maskCards_iff (known a mem') distinct split own mem).mp left'
  · exact apart a six a (List.mem_append_left _ mid') rfl
  · exact apart' a mid' a four rfl

/-! ## Which are hidden -/

/-- A card number that does not lie within one match is hidden only where it is taken away. -/
theorem takenAway_of_hidden (known : ∀ a ∈ text, ∀ r, fresh r ≠ a) (law : ∀ r, rune (fresh r) = r)
    (distinct : text.Nodup) (card : CardNumber rune before body after) (whole : text = before ++ body ++ after)
    (hidden : ∀ a ∈ middle (digitsOnly rune body), a ∉ redact rune fresh text)
    (apart : ¬ Within rune text before after) (mid : a ∈ middle (digitsOnly rune body)) :
    TakenAway rune fresh text a := by
  have mem : a ∈ text := by
    rw [whole]
    exact List.mem_append_left _ (List.mem_append_right _ (List.mem_of_mem_filter (mem_of_mem_middle mid)))
  have gone := hidden a mid
  rw [mem_redact_iff (known a mem) (List.nodup_iff_count_le_one.mp distinct a)] at gone
  by_cases left : a ∈ maskCards rune fresh text
  · exact not_not.mp fun stays => gone ⟨left, stays⟩
  · obtain ⟨A, g, w, B, split, own, in', six, four⟩ := masked_of_not_mem (known a mem) mem left
    obtain rfl := panPieces_found split
    have own' : a ∈ digitsOnly rune body := mem_of_mem_middle mid
    have in'' : a ∈ digitsOnly rune w := List.mem_filter.mpr ⟨in', (List.mem_filter.mp own').2⟩
    have masked : a ∈ middle (digitsOnly rune w) := mem_middle_of_masked in'' six four
    have shown : ∃ e ∈ middle (digitsOnly rune body), e ∈ redact rune fresh text := by
      by_cases later : before.length < (A.flatMap Piece.text).length
      · exact shown_of_earlier known law distinct card whole split own mid masked later
      · by_cases earlier : after.length < (B.flatMap Piece.text).length
        · exact shown_of_later known law distinct card whole split own mid masked earlier
        · exact absurd ⟨A, [], w, B, split, own, Nat.le_of_not_lt later, Nat.le_of_not_lt earlier⟩ apart
    obtain ⟨e, mid', shown⟩ := shown
    exact absurd shown (hidden e mid')

theorem hides_iff (known : ∀ a ∈ text, ∀ r, fresh r ≠ a) (law : ∀ r, rune (fresh r) = r) (distinct : text.Nodup) :
    Hides rune fresh text ↔ ∀ before body after, text = before ++ body ++ after → CardNumber rune before body after →
      Within rune text before after ∨ ∀ a ∈ middle (digitsOnly rune body), TakenAway rune fresh text a := by
  constructor
  · intro hides before body after whole card
    by_cases within : Within rune text before after
    · exact .inl within
    · exact .inr fun a mid =>
        takenAway_of_hidden known law distinct card whole (hides before body after whole card) within mid
  · intro either before body after whole card a mid
    obtain within | taken := either before body after whole card
    · exact hidden_of_within known distinct whole within mid
    · have mem : a ∈ text := by
        rw [whole]
        exact List.mem_append_left _ (List.mem_append_right _ (List.mem_of_mem_filter (mem_of_mem_middle mid)))
      intro shown
      exact ((mem_redact_iff (known a mem) (List.nodup_iff_count_le_one.mp distinct a)).mp shown).2 (taken a mid)

end

end

/-! ## Marks -/

section
variable {α : Type} {rune : α → Rune} {fresh : Rune → α}

theorem map_digitsOnly (rune : α → Rune) (l : List α) : (digitsOnly rune l).map rune = digitsOnly id (l.map rune) := by
  rw [digitsOnly, digitsOnly, List.filter_map]
  rfl

theorem passes_map (rune : α → Rune) (l : List α) : passes id (l.map rune) = passes rune l := by
  rw [passes, passes, ← map_digitsOnly, List.length_map, List.map_id]

theorem map_maskPAN (law : ∀ r, rune (fresh r) = r) (pan : List α) :
    (maskPAN fresh pan).map rune = maskPAN id (pan.map rune) := by
  rw [maskPAN, maskPAN, List.length_map]
  split
  · rw [List.map_replicate, law, id]
  · rw [List.map_append, List.map_append, List.map_take, List.map_drop, List.map_replicate, law, id]

theorem map_replacePAN (law : ∀ r, rune (fresh r) = r) (piece : Piece α) :
    (replacePAN rune fresh piece).map rune = replacePAN id id (piece.map rune) := by
  cases piece with
  | plain c => rfl
  | found g w =>
    simp only [replacePAN, Piece.map, ← List.map_append, passes_map, ← map_digitsOnly]
    split
    · exact map_maskPAN law _
    · rfl

theorem map_replaceBiometric (law : ∀ r, rune (fresh r) = r) (piece : Piece α) :
    (replaceBiometric fresh piece).map rune = replaceBiometric id (piece.map rune) := by
  cases piece with
  | plain c => rfl
  | found g v =>
    rw [replaceBiometric, Piece.map, replaceBiometric, List.map_append, List.map_map]
    congr 2
    exact funext fun c => law _

/-- What is read through a function is redacted as what it reads. -/
theorem map_redact (law : ∀ r, rune (fresh r) = r) (text : List α) :
    (redact rune fresh text).map rune = redactPII (text.map rune) := by
  have cards : (maskCards rune fresh text).map rune = maskCards id id (text.map rune) := by
    rw [maskCards, maskCards, panPieces, panPieces, Pattern.comap_id, ← map_pieces, List.map_flatMap,
      List.flatMap_map]
    simp only [map_replacePAN law]
  rw [redactPII, redact, redact, ← cards, biometricPieces, biometricPieces, Pattern.comap_id, ← map_pieces,
    List.map_flatMap, List.flatMap_map]
  simp only [map_replaceBiometric law]

end

theorem unmarked_ne {s : List Rune} {m : Mark} (mem : m ∈ mark s) (r : Rune) : unmarked r ≠ m := by
  rintro rfl
  obtain ⟨p, -, same⟩ := List.mem_map.mp mem
  cases same

theorem mark_nodup (s : List Rune) : (mark s).Nodup := by
  have places : (mark s).map Prod.snd = (List.range' 0 s.length).map some := by
    rw [mark, List.map_map, ← List.zipIdx_map_snd, List.map_map]
    rfl
  apply List.Nodup.of_map Prod.snd
  rw [places]
  exact (List.nodup_range' 1).map fun _ _ => Option.some.inj

theorem mark_runes (s : List Rune) : (mark s).map Prod.fst = s := by
  rw [mark, List.map_map]
  exact List.zipIdx_map_fst 0 s

/-- Marks change nothing of what is shown. -/
theorem redact_mark (s : List Rune) : (redact Prod.fst unmarked (mark s)).map Prod.fst = redactPII s := by
  rw [map_redact fun _ => rfl, mark_runes]

/-- A text shows no more of its card numbers than it may just if each of them lies within one match of panRegex whose
digits are those of a card, or what should be hidden of it is taken away as a biometric hash. -/
theorem no_card_survives_iff (s : List Rune) :
    (redact Prod.fst unmarked (mark s)).map Prod.fst = redactPII s ∧
      (Hides Prod.fst unmarked (mark s) ↔
        ∀ before body after, mark s = before ++ body ++ after → CardNumber Prod.fst before body after →
          Within Prod.fst (mark s) before after ∨
            ∀ a ∈ middle (digitsOnly Prod.fst body), TakenAway Prod.fst unmarked (mark s) a) :=
  ⟨redact_mark s, hides_iff (fun _ mem r => unmarked_ne mem r) (fun _ => rfl) (mark_nodup s)⟩

namespace Till

def line : List Rune := "1 4111111111111111".toList.map .char

/-- Seventeen digits are tried as one number. -/
theorem card_shown : redactPII line = line ∧ ¬ Hides Prod.fst unmarked (mark line) := by
  have card : CardNumber Prod.fst ((mark line).take 2) ((mark line).drop 2) [] := {
    chars := by decide
    single := by decide
    first := ⟨_, _, rfl, rfl⟩
    last := ⟨((mark line).drop 2).dropLast, (.char '1', some 17), rfl, rfl⟩
    passes := by decide
    before := by decide
    after := rfl }
  have shown : (Rune.char '1', some 8) ∈ redact Prod.fst unmarked (mark line) := by decide +kernel
  refine ⟨by decide +kernel, fun hides => ?_⟩
  exact hides _ _ [] rfl card _ (by decide) shown

end Till

end GoCommon.Redaction
