import AstraSystem.GoCommon.Redaction

/-!
# What panRegex finds

A match holds between thirteen and nineteen digits and separators between them, and stands between characters that are
no part of a word. It ends with a digit: whatever ends with a separator is tried after what ends before it.
-/

namespace GoCommon.Redaction

open Regex

section
variable {α : Type} (rune : α → Rune)

def isDigit (a : α) : Bool := digit (rune a)

def isSeparator (a : α) : Bool := separator (rune a)

def isWord (a : α) : Bool := word (rune a)

variable {rune} {a : α} {p q e : Pos α} {w : List α} {L : List (Pos α)}

theorem isWord_of_isDigit (h : isDigit rune a = true) : isWord rune a = true := by
  unfold isDigit at h
  unfold isWord
  cases r : rune a with
  | invalid b =>
    rw [r] at h
    cases h
  | char c =>
    rw [r] at h
    have digit : c.isDigit = true := h
    simp [word, Rune.is, Char.isAlphanum, digit]

theorem not_isWord_of_isSeparator (h : isSeparator rune a = true) : isWord rune a = false := by
  unfold isSeparator separator at h
  unfold isWord
  cases r : rune a with
  | invalid b => rfl
  | char c =>
    rw [r] at h
    simp only [space, Rune.is, Bool.or_eq_true, beq_iff_eq, Rune.char.injEq] at h
    obtain ((((rfl | rfl) | rfl) | rfl) | rfl) | rfl := h <;> decide

theorem not_isDigit_of_isSeparator (h : isSeparator rune a = true) : isDigit rune a = false := by
  rw [← Bool.not_eq_true]
  intro digit
  exact absurd ((isWord_of_isDigit digit).symm.trans (not_isWord_of_isSeparator h)) (by decide)

/-! ## The order of the ends -/

/-- Whatever ends with a separator comes after what ends with a digit and has a separator next. -/
def Settled (rune : α → Rune) (L : List (Pos α)) : Prop :=
  ∀ before q after, L = before ++ q :: after → q.prev.any (isSeparator rune) = true →
    ∃ e ∈ before, e.prev.any (isDigit rune) = true ∧ e.rest.head?.any (isSeparator rune) = true

theorem Settled.flatMap {f : Pos α → List (Pos α)} (h : ∀ p, Settled rune (f p)) : Settled rune (L.flatMap f) := by
  intro before q after split separator
  obtain ⟨l₁, p, l₂, own, rest, -, part, rfl⟩ := flatMap_eq_append_cons split
  obtain ⟨e, mem, he⟩ := h p own q rest part separator
  exact ⟨e, List.mem_append_right _ mem, he⟩

/-- A digit, and separators as few as possible. -/
def unit (rune : α → Rune) : Expr α := .seq (.chars (isDigit rune)) (.lazyStar (isSeparator rune))

theorem reverse_starEnds_cons (c : α → Bool) (prev : Option α) (a : α) (rest : List α) :
    (starEnds c prev (a :: rest)).reverse =
      ⟨prev, a :: rest⟩ :: if c a then (starEnds c (some a) rest).reverse else [] := by
  rw [starEnds]
  split <;> simp

/-- Separators that follow a digit come after it. -/
theorem settled_separators (own : isDigit rune a = true) (rest : List α) :
    Settled rune (starEnds (isSeparator rune) (some a) rest).reverse := by
  intro before q after split separator
  cases before with
  | nil =>
    have first : q = ⟨some a, rest⟩ := by
      cases rest with
      | nil => exact (List.cons.inj split).1.symm
      | cons b rest =>
        rw [reverse_starEnds_cons] at split
        exact (List.cons.inj split).1.symm
    rw [first, Option.any_some] at separator
    exact absurd (own.symm.trans (not_isDigit_of_isSeparator separator)) (by decide)
  | cons e before =>
    refine ⟨e, List.mem_cons_self, ?_⟩
    cases rest with
    | nil => cases before <;> cases split
    | cons b rest =>
      rw [reverse_starEnds_cons] at split
      obtain ⟨rfl, tail⟩ := List.cons.inj split
      refine ⟨own, ?_⟩
      cases next : isSeparator rune b with
      | true => exact next
      | false =>
        rw [next, if_neg Bool.false_ne_true] at tail
        cases before <;> cases tail

theorem settled_unit (p : Pos α) : Settled rune (ends (unit rune) p) := by
  obtain ⟨prev, rest⟩ := p
  rw [unit, ends]
  cases rest with
  | nil =>
    intro before q after split
    cases before <;> cases split
  | cons a rest =>
    rw [ends]
    dsimp only
    split
    · rename_i own
      rw [List.flatMap_singleton]
      exact settled_separators own rest
    · intro before q after split
      cases before <;> cases split

theorem settled_times (n : ℕ) (p : Pos α) : Settled rune (ends ((unit rune).times (n + 1)) p) := by
  induction n generalizing p with
  | zero =>
    have same : ends ((unit rune).times 1) p = ends (unit rune) p := by
      rw [Expr.times, Expr.times, ends]
      exact List.flatMap_singleton' _
    rw [same]
    exact settled_unit p
  | succ n ih =>
    rw [Expr.times, ends]
    exact Settled.flatMap ih

/-- More units than there are settle nothing anew. -/
theorem Settled.upTo (h : Settled rune L) (n : ℕ) : Settled rune (L.flatMap (ends ((unit rune).upTo n))) := by
  induction n generalizing L with
  | zero =>
    have same : L.flatMap (ends ((unit rune).upTo 0)) = L := List.flatMap_singleton' L
    rw [same]
    exact h
  | succ n ih =>
    intro before q after split separator
    obtain ⟨l₁, p, l₂, own, rest, whole, part, rfl⟩ := flatMap_eq_append_cons split
    rw [Expr.upTo, ends, ends] at part
    have last (e : Pos α) : e ∈ ends ((unit rune).upTo (n + 1)) e := List.mem_append_right _ (List.mem_singleton_self e)
    -- what stops where it is stops after what ends before it with a digit
    have stops (here : q = p) : ∃ e ∈ l₁.flatMap (ends ((unit rune).upTo (n + 1))) ++ own,
        e.prev.any (isDigit rune) = true ∧ e.rest.head?.any (isSeparator rune) = true := by
      obtain ⟨e, mem, he⟩ := h l₁ p l₂ whole (here ▸ separator)
      exact ⟨e, List.mem_append_left _ (List.mem_flatMap.mpr ⟨e, mem, last e⟩), he⟩
    obtain ⟨more, -, stop⟩ | ⟨more, first, stop⟩ := List.append_eq_append_iff.mp part
    · cases more with
      | nil => exact stops (List.cons.inj stop).1.symm
      | cons m more => cases more <;> cases stop
    · cases more with
      | nil => exact stops (List.cons.inj stop).1
      | cons m more =>
        obtain ⟨rfl, -⟩ := List.cons.inj stop
        obtain ⟨e, mem, he⟩ := ih (settled_unit p) own q more first separator
        exact ⟨e, List.mem_append_right _ mem, he⟩

/-! ## A match -/

/-- What panRegex finds between what comes before and what comes after. -/
structure PanMatch (rune : α → Rune) (before w after : List α) : Prop where
  chars : ∀ a ∈ w, isDigit rune a = true ∨ isSeparator rune a = true
  least : 13 ≤ (digitsOnly rune w).length
  most : (digitsOnly rune w).length ≤ 19
  first : ∃ d rest, w = d :: rest ∧ isDigit rune d = true
  last : ∃ rest d, w = rest ++ [d] ∧ isDigit rune d = true
  before : before.getLast?.any (isWord rune) = false
  after : after.head?.any (isWord rune) = false

theorem comap_times (r : Expr Rune) (n : ℕ) : (r.times n).comap rune = (r.comap rune).times n := by
  induction n with
  | zero => rfl
  | succ n ih => rw [Expr.times, Expr.comap, ih, Expr.times]

theorem comap_upTo (r : Expr Rune) (n : ℕ) : (r.upTo n).comap rune = (r.comap rune).upTo n := by
  induction n with
  | zero => rfl
  | succ n ih => simp only [Expr.upTo, Expr.comap, ih]

theorem panRegex_comap (rune : α → Rune) : panRegex.comap rune = ⟨.empty, .seq (.boundary (isWord rune))
    (.seq (.seq ((unit rune).times 13) ((unit rune).upTo 6)) (.boundary (isWord rune)))⟩ := by
  have digits : (panDigit.comap rune) = unit rune := rfl
  simp only [Pattern.comap, panRegex, Expr.comap, Expr.between, comap_times, comap_upTo, digits]
  rfl

theorem ends_boundary (r : Expr α) (word : α → Bool) (p : Pos α) :
    ends (.seq r (.boundary word)) p = (ends r p).filter (Pos.atBoundary word) := by
  rw [ends]
  induction ends r p with
  | nil => rfl
  | cons q l ih =>
    rw [List.flatMap_cons, ih, ends, List.filter_cons]
    split <;> rfl

/-- The first end at which a word ends, too. -/
theorem find_pan (found : (panRegex.comap rune).find p = some (q, e)) : q = p ∧ p.atBoundary (isWord rune) = true ∧
    ∃ before after, ends (.seq ((unit rune).times 13) ((unit rune).upTo 6)) p = before ++ e :: after ∧
      e.atBoundary (isWord rune) = true ∧ ∀ e' ∈ before, e'.atBoundary (isWord rune) = false := by
  rw [panRegex_comap, Pattern.find] at found
  dsimp only at found
  rw [ends, List.flatMap_singleton, ends, ends] at found
  by_cases start : p.atBoundary (isWord rune) = true
  · rw [if_pos start, List.flatMap_singleton, ends_boundary, List.head?_map, List.head?_filter] at found
    obtain ⟨e', first, same⟩ := Option.map_eq_some_iff.mp found
    cases same
    obtain ⟨stops, before, after, split, earlier⟩ := List.find?_eq_some_iff_append.mp first
    exact ⟨rfl, start, before, after, split, stops, fun e' mem => by simpa using earlier e' mem⟩
  · rw [if_neg start] at found
    cases found

theorem matches_unit {p q : Pos α} (h : Matches (unit rune) p w q) : ∃ d rest, w = d :: rest ∧
    isDigit rune d = true ∧ ∀ a ∈ rest, isSeparator rune a = true := by
  obtain ⟨_, m, rest, rfl, ⟨⟨d, rfl, own⟩, -⟩, separators, -⟩ := h
  exact ⟨d, rest, rfl, own, separators⟩

theorem countP_unit (p : Pos α) (w : List α) (q : Pos α) (h : Matches (unit rune) p w q) :
    w.countP (isDigit rune) = 1 := by
  obtain ⟨d, rest, rfl, own, separators⟩ := matches_unit h
  rw [List.countP_cons_of_pos own, List.countP_eq_zero.mpr]
  intro a mem
  rw [not_isDigit_of_isSeparator (separators a mem)]
  exact Bool.false_ne_true

theorem any_of_atBoundary {word : α → Bool} (h : p.atBoundary word = true) :
    p.prev.any word = !p.rest.head?.any word := by
  have either (x y : Bool) : (x != y) = true → x = !y := by revert x y; decide
  exact either _ _ h

theorem panMatch_of_find {before : List α} (found : (panRegex.comap rune).find p = some (q, e))
    (here : p.prev = before.getLast?) : PanMatch rune before (p.upto e) e.rest := by
  obtain ⟨rfl, start, earlier, later, split, stop, first⟩ := find_pan found
  have mem : e ∈ ends (.seq ((unit rune).times 13) ((unit rune).upTo 6)) q := by
    rw [split]
    exact List.mem_append_right _ List.mem_cons_self
  obtain ⟨w, matches'⟩ := mem_ends_iff.mp mem
  have reads := matches'.reads
  rw [reads.upto]
  have every : (unit rune).All fun a => isDigit rune a = true ∨ isSeparator rune a = true :=
    ⟨fun a h => .inl h, fun a h => .inr h⟩
  have chars : ∀ a ∈ w, isDigit rune a = true ∨ isSeparator rune a = true :=
    Matches.all (r := .seq _ _) ⟨all_times every 13, all_upTo every 6⟩ matches'
  obtain ⟨u, m, v, rfl, hu, hv⟩ := matches'
  have thirteen := hu.times_countP countP_unit
  have six := hv.upTo_countP countP_unit
  have digits (l : List α) : (digitsOnly rune l).length = l.countP (isDigit rune) := List.countP_eq_length_filter.symm
  obtain ⟨d, rest, same, own⟩ : ∃ d rest, u ++ v = d :: rest ∧ isDigit rune d = true := by
    obtain ⟨u₁, m₁, u₂, rfl, unit', -⟩ := hu
    obtain ⟨d, rest, rfl, own, -⟩ := matches_unit unit'
    exact ⟨d, rest ++ u₂ ++ v, by simp, own⟩
  have head : q.rest.head?.any (isWord rune) = true := by
    rw [reads.rest, same]
    exact isWord_of_isDigit own
  have last : ∃ rest d, u ++ v = rest ++ [d] ∧ isDigit rune d = true := by
    obtain ⟨rest', a, whole⟩ := List.eq_nil_or_concat (u ++ v) |>.resolve_left (by rw [same]; exact List.cons_ne_nil _ _)
    refine ⟨rest', a, by simpa using whole, ?_⟩
    have prev : e.prev = some a := by
      rw [reads.prev, whole]
      simp
    refine (chars a (by simp [whole])).resolve_right fun separator => ?_
    -- then an end was tried before
    have settled : Settled rune (ends (.seq ((unit rune).times 13) ((unit rune).upTo 6)) q) :=
      Settled.upTo (settled_times 12 q) 6
    obtain ⟨e', tried, digit, next⟩ := settled earlier e later split (by rw [prev]; exact separator)
    have boundary : e'.atBoundary (isWord rune) = true := by
      obtain ⟨d', before', digit⟩ := (Option.any_eq_true _ _).mp digit
      obtain ⟨s, next', separator⟩ := (Option.any_eq_true _ _).mp next
      rw [Pos.atBoundary, before', next', Option.any_some, Option.any_some, isWord_of_isDigit digit,
        not_isWord_of_isSeparator separator]
      rfl
    exact absurd (boundary.symm.trans (first e' tried)) (by decide)
  obtain ⟨rest', a, whole, digit⟩ := last
  refine ⟨chars, ?_, ?_, ⟨d, rest, same, own⟩, ⟨rest', a, whole, digit⟩, ?_, ?_⟩
  · rw [digits, List.countP_append, thirteen]
    omega
  · rw [digits, List.countP_append, thirteen]
    omega
  · rw [← here, any_of_atBoundary start, head]
    rfl
  · have prev : e.prev = some a := by
      rw [reads.prev, whole]
      simp
    have stops := any_of_atBoundary stop
    rw [prev, Option.any_some, isWord_of_isDigit digit] at stops
    cases next : e.rest.head?.any (isWord rune) with
    | false => rfl
    | true =>
      rw [next] at stops
      cases stops

end

end GoCommon.Redaction
