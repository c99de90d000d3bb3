import Mathlib.Data.List.Basic
import Mathlib.Data.Nat.Notation

/-!
# Regular expressions that backtrack

An expression is tried at one place of a text. Its ends come in the order in which they are tried, so that the first is
the end of the match. Text is gone through from the left, and what a match takes is not looked at again.
-/

namespace Regex

inductive Expr (α : Type) where
  | empty
  | chars (class' : α → Bool)
  | boundary (word : α → Bool)
  | seq (r s : Expr α)
  | alt (r s : Expr α)
  | star (class' : α → Bool)
  | lazyStar (class' : α → Bool)

namespace Expr

variable {α β : Type}

def optional (r : Expr α) : Expr α := alt r empty

def times (r : Expr α) : ℕ → Expr α
  | 0 => empty
  | n + 1 => seq r (times r n)

/-- As often as possible, and no more often than that. -/
def upTo (r : Expr α) : ℕ → Expr α
  | 0 => empty
  | n + 1 => alt (seq r (upTo r n)) empty

def between (r : Expr α) (least most : ℕ) : Expr α := seq (times r least) (upTo r (most - least))

def atLeast (class' : α → Bool) (least : ℕ) : Expr α := seq (times (chars class') least) (star class')

def literal (classes : List (α → Bool)) : Expr α := classes.foldr (fun c r => seq (chars c) r) empty

def oneOf (r : Expr α) (rs : List (Expr α)) : Expr α := rs.foldl alt r

/-- The expression read through a function of the characters. -/
def comap (f : β → α) : Expr α → Expr β
  | empty => empty
  | chars c => chars (c ∘ f)
  | boundary w => boundary (w ∘ f)
  | seq r s => seq (r.comap f) (s.comap f)
  | alt r s => alt (r.comap f) (s.comap f)
  | star c => star (c ∘ f)
  | lazyStar c => lazyStar (c ∘ f)

end Expr

/-- A place in a text: the character before it, and what follows. -/
structure Pos (α : Type) where
  prev : Option α
  rest : List α
  deriving DecidableEq

/-- Alternatives in the order in which they are tried, and what a match is replaced by may keep its group. -/
structure Pattern (α : Type) where
  group : Expr α
  value : Expr α

inductive Piece (α : Type) where
  | plain (c : α)
  | found (group value : List α)
  deriving DecidableEq

section
variable {α β : Type}

def Pos.atBoundary (word : α → Bool) (p : Pos α) : Bool := p.prev.any word != p.rest.head?.any word

/-- The longest first. -/
def starEnds (class' : α → Bool) : Option α → List α → List (Pos α)
  | prev, [] => [⟨prev, []⟩]
  | prev, c :: cs => if class' c then starEnds class' (some c) cs ++ [⟨prev, c :: cs⟩] else [⟨prev, c :: cs⟩]

def ends : Expr α → Pos α → List (Pos α)
  | .empty, p => [p]
  | .chars c, p =>
    match p.rest with
    | [] => []
    | a :: rest => if c a then [⟨some a, rest⟩] else []
  | .boundary w, p => if p.atBoundary w then [p] else []
  | .seq r s, p => (ends r p).flatMap (ends s)
  | .alt r s, p => ends r p ++ ends s p
  | .star c, p => starEnds c p.prev p.rest
  | .lazyStar c, p => (starEnds c p.prev p.rest).reverse

/-- Where the group ends, and where the match does. -/
def Pattern.find (pat : Pattern α) (p : Pos α) : Option (Pos α × Pos α) :=
  ((ends pat.group p).flatMap fun q => (ends pat.value q).map fun e => (q, e)).head?

def Pos.upto (p q : Pos α) : List α := p.rest.take (p.rest.length - q.rest.length)

/-- For patterns that match no empty text. -/
def scan (pat : Pattern α) : ℕ → Pos α → List (Piece α)
  | 0, _ => []
  | n + 1, p =>
    match p.rest with
    | [] => []
    | c :: rest =>
      match pat.find p with
      | some (q, e) => .found (p.upto q) (q.upto e) :: scan pat n e
      | none => .plain c :: scan pat n ⟨some c, rest⟩

def Pattern.pieces (pat : Pattern α) (text : List α) : List (Piece α) := scan pat text.length ⟨none, text⟩

def Piece.text : Piece α → List α
  | .plain c => [c]
  | .found group value => group ++ value

/-! ## What an expression matches -/

/-- What lies between two places. -/
structure Pos.Reads (p : Pos α) (w : List α) (q : Pos α) : Prop where
  rest : p.rest = w ++ q.rest
  prev : q.prev = w.getLast?.or p.prev

def Matches : Expr α → Pos α → List α → Pos α → Prop
  | .empty, p, w, q => w = [] ∧ q = p
  | .chars c, p, w, q => (∃ a, w = [a] ∧ c a = true) ∧ p.Reads w q
  | .boundary word, p, w, q => w = [] ∧ q = p ∧ p.atBoundary word = true
  | .seq r s, p, w, q => ∃ u m v, w = u ++ v ∧ Matches r p u m ∧ Matches s m v q
  | .alt r s, p, w, q => Matches r p w q ∨ Matches s p w q
  | .star c, p, w, q => (∀ a ∈ w, c a = true) ∧ p.Reads w q
  | .lazyStar c, p, w, q => (∀ a ∈ w, c a = true) ∧ p.Reads w q

variable {p q m : Pos α} {w u v : List α} {r s : Expr α} {c : α → Bool}

theorem Pos.Reads.refl (p : Pos α) : p.Reads [] p := ⟨rfl, rfl⟩

theorem Pos.Reads.trans (first : p.Reads u m) (second : m.Reads v q) : p.Reads (u ++ v) q := by
  constructor
  · rw [first.rest, second.rest, List.append_assoc]
  · rw [second.prev, first.prev, List.getLast?_append, Option.or_assoc]

theorem Pos.Reads.upto (reads : p.Reads w q) : p.upto q = w := by
  rw [Pos.upto, reads.rest, List.length_append, Nat.add_sub_cancel, List.take_left]

theorem Matches.reads (matches' : Matches r p w q) : p.Reads w q := by
  induction r generalizing p w q with
  | empty =>
    obtain ⟨rfl, rfl⟩ := matches'
    exact .refl _
  | boundary word =>
    obtain ⟨rfl, rfl, -⟩ := matches'
    exact .refl _
  | chars | star | lazyStar => exact matches'.2
  | seq r s first second =>
    obtain ⟨u, m, v, rfl, hr, hs⟩ := matches'
    exact (first hr).trans (second hs)
  | alt r s left right =>
    obtain hr | hs := matches'
    · exact left hr
    · exact right hs

theorem Pos.Reads.cons {a : α} {prev : Option α} {rest : List α} (reads : Pos.Reads ⟨some a, rest⟩ w q) :
    Pos.Reads ⟨prev, a :: rest⟩ (a :: w) q := by
  constructor
  · rw [List.cons_append, ← reads.rest]
  · rw [reads.prev, List.getLast?_cons]
    cases w.getLast? <;> rfl

theorem mem_starEnds_iff {prev : Option α} {rest : List α} : q ∈ starEnds c prev rest ↔
    ∃ w, (∀ a ∈ w, c a = true) ∧ Pos.Reads ⟨prev, rest⟩ w q := by
  constructor
  · intro mem
    induction rest generalizing prev with
    | nil =>
      obtain rfl := List.mem_singleton.mp mem
      exact ⟨[], fun _ none => (by cases none), .refl _⟩
    | cons a rest ih =>
      have stop (mem : q ∈ [⟨prev, a :: rest⟩]) : ∃ w, (∀ a ∈ w, c a = true) ∧ Pos.Reads ⟨prev, a :: rest⟩ w q := by
        obtain rfl := List.mem_singleton.mp mem
        exact ⟨[], fun _ none => (by cases none), .refl _⟩
      rw [starEnds] at mem
      split at mem
      · rename_i own
        obtain mem | mem := List.mem_append.mp mem
        · obtain ⟨w, all, reads⟩ := ih mem
          exact ⟨a :: w, List.forall_mem_cons.mpr ⟨own, all⟩, reads.cons⟩
        · exact stop mem
      · exact stop mem
  · rintro ⟨w, all, reads⟩
    obtain ⟨text, before⟩ := reads
    obtain ⟨prev', rest'⟩ := q
    simp only at text before
    subst text before
    induction w generalizing prev with
    | nil =>
      cases rest' with
      | nil => exact List.mem_singleton_self _
      | cons a rest =>
        rw [List.nil_append, starEnds]
        split
        · exact List.mem_append_right _ (List.mem_singleton_self _)
        · exact List.mem_singleton_self _
    | cons a w ih =>
      obtain ⟨own, all⟩ := List.forall_mem_cons.mp all
      rw [List.cons_append, starEnds, if_pos own, List.mem_append]
      refine .inl ?_
      have next := @ih (some a) all
      rw [List.getLast?_cons]
      cases last : w.getLast? <;> rw [last] at next <;> exact next

theorem mem_ends_iff : q ∈ ends r p ↔ ∃ w, Matches r p w q := by
  induction r generalizing p q with
  | empty => simp [ends, Matches]
  | chars c =>
    obtain ⟨prev, rest⟩ := p
    constructor
    · intro mem
      cases rest with
      | nil => cases mem
      | cons a rest =>
        rw [ends] at mem
        dsimp only at mem
        split at mem
        · rename_i own
          obtain rfl := List.mem_singleton.mp mem
          exact ⟨[a], ⟨a, rfl, own⟩, rfl, rfl⟩
        · cases mem
    · rintro ⟨_, ⟨a, rfl, own⟩, text, before⟩
      obtain ⟨prev', rest'⟩ := q
      simp only [List.singleton_append] at text
      simp only [List.getLast?_singleton, Option.some_or] at before
      subst text before
      rw [ends]
      dsimp only
      rw [if_pos own]
      exact List.mem_singleton_self _
  | boundary word =>
    rw [ends]
    constructor
    · intro mem
      split at mem
      · rename_i own
        obtain rfl := List.mem_singleton.mp mem
        exact ⟨[], rfl, rfl, own⟩
      · cases mem
    · rintro ⟨_, rfl, rfl, own⟩
      rw [if_pos own]
      exact List.mem_singleton_self _
  | seq r s first second =>
    simp only [ends, List.mem_flatMap, first, second, Matches]
    constructor
    · rintro ⟨m, ⟨u, hu⟩, v, hv⟩
      exact ⟨u ++ v, u, m, v, rfl, hu, hv⟩
    · rintro ⟨_, u, m, v, rfl, hu, hv⟩
      exact ⟨m, ⟨u, hu⟩, v, hv⟩
  | alt r s left right => simp only [ends, List.mem_append, left, right, Matches, exists_or]
  | star c => exact mem_starEnds_iff
  | lazyStar c => exact List.mem_reverse.trans mem_starEnds_iff

/-- Where a list made of parts has a member, one of the parts has it. -/
theorem flatMap_eq_append_cons {l : List α} {f : α → List β} {before after : List β} {b : β}
    (h : l.flatMap f = before ++ b :: after) : ∃ l₁ a l₂ own rest, l = l₁ ++ a :: l₂ ∧ f a = own ++ b :: rest ∧
      before = l₁.flatMap f ++ own := by
  induction l generalizing before with
  | nil => cases before <;> cases h
  | cons a l ih =>
    rw [List.flatMap_cons] at h
    obtain ⟨own, rfl, tail⟩ | ⟨rest, first, tail⟩ := List.append_eq_append_iff.mp h
    · obtain ⟨l₁, a', l₂, own', rest, rfl, part, rfl⟩ := ih tail
      exact ⟨a :: l₁, a', l₂, own', rest, rfl, part, by rw [List.flatMap_cons, List.append_assoc]⟩
    · cases rest with
      | nil =>
        obtain ⟨l₁, a', l₂, own', rest, rfl, part, none⟩ := ih (show l.flatMap f = [] ++ b :: after from tail.symm)
        refine ⟨a :: l₁, a', l₂, own', rest, rfl, part, ?_⟩
        rw [List.flatMap_cons, List.append_assoc, ← none, first, List.append_nil, List.append_nil]
      | cons c rest =>
        obtain ⟨rfl, -⟩ := List.cons.inj tail
        exact ⟨[], a, l, before, rest, rfl, first, rfl⟩

/-! ## Properties of what is matched -/

/-- Every class of the expression has the property. -/
def Expr.All (P : α → Prop) : Expr α → Prop
  | .empty | .boundary _ => True
  | .chars c | .star c | .lazyStar c => ∀ a, c a = true → P a
  | .seq r s | .alt r s => r.All P ∧ s.All P

theorem Matches.all {P : α → Prop} (all : r.All P) (matches' : Matches r p w q) : ∀ a ∈ w, P a := by
  induction r generalizing p w q with
  | empty | boundary =>
    obtain ⟨rfl, -⟩ := matches'
    exact fun _ none => (by cases none)
  | chars c =>
    obtain ⟨⟨a, rfl, own⟩, -⟩ := matches'
    exact List.forall_mem_singleton.mpr (all a own)
  | star c | lazyStar c => exact fun a mem => all a (matches'.1 a mem)
  | seq r s first second =>
    obtain ⟨u, m, v, rfl, hr, hs⟩ := matches'
    exact List.forall_mem_append.mpr ⟨first all.1 hr, second all.2 hs⟩
  | alt r s left right =>
    obtain hr | hs := matches'
    · exact left all.1 hr
    · exact right all.2 hs

theorem all_times {P : α → Prop} (all : r.All P) (n : ℕ) : (r.times n).All P := by
  induction n with
  | zero => trivial
  | succ n ih => exact ⟨all, ih⟩

theorem all_upTo {P : α → Prop} (all : r.All P) (n : ℕ) : (r.upTo n).All P := by
  induction n with
  | zero => trivial
  | succ n ih => exact ⟨⟨all, ih⟩, trivial⟩

/-- No class has any of these. -/
def Expr.rejects (bad : List α) : Expr α → Bool
  | .empty | .boundary _ => true
  | .chars c | .star c | .lazyStar c => bad.all fun a => !c a
  | .seq r s | .alt r s => r.rejects bad && s.rejects bad

theorem all_of_rejects {bad : List α} (h : r.rejects bad = true) : r.All (· ∉ bad) := by
  induction r with
  | empty | boundary => trivial
  | chars c | star c | lazyStar c =>
    intro a own mem
    have other := List.all_eq_true.mp h a mem
    rw [own] at other
    cases other
  | seq r s first second | alt r s first second =>
    obtain ⟨hr, hs⟩ := Bool.and_eq_true_iff.mp h
    exact ⟨first hr, second hs⟩

theorem all_comap {P : α → Prop} {f : β → α} (all : r.All P) : (r.comap f).All fun b => P (f b) := by
  induction r with
  | empty | boundary => trivial
  | chars c | star c | lazyStar c => exact fun b own => all (f b) own
  | seq r s first second | alt r s first second => exact ⟨first all.1, second all.2⟩

/-- The length of the shortest text that is matched, or less. -/
def Expr.least : Expr α → ℕ
  | .empty | .boundary _ | .star _ | .lazyStar _ => 0
  | .chars _ => 1
  | .seq r s => r.least + s.least
  | .alt r s => min r.least s.least

theorem Matches.least_le (matches' : Matches r p w q) : r.least ≤ w.length := by
  induction r generalizing p w q with
  | empty | boundary | star | lazyStar => exact Nat.zero_le _
  | chars c =>
    obtain ⟨⟨a, rfl, -⟩, -⟩ := matches'
    exact Nat.le_refl 1
  | seq r s first second =>
    obtain ⟨u, m, v, rfl, hr, hs⟩ := matches'
    rw [List.length_append]
    exact Nat.add_le_add (first hr) (second hs)
  | alt r s left right =>
    obtain hr | hs := matches'
    · exact Nat.le_trans (Nat.min_le_left _ _) (left hr)
    · exact Nat.le_trans (Nat.min_le_right _ _) (right hs)

theorem least_comap (f : β → α) (r : Expr α) : (r.comap f).least = r.least := by
  induction r with
  | empty | chars | boundary | star | lazyStar => rfl
  | seq r s first second | alt r s first second => simp only [Expr.comap, Expr.least, first, second]

/-- Where each time matches one character of a kind, so many times match so many. -/
theorem Matches.times_countP {d : α → Bool} (one : ∀ p w q, Matches r p w q → w.countP d = 1) {n : ℕ}
    (matches' : Matches (r.times n) p w q) : w.countP d = n := by
  induction n generalizing p w with
  | zero =>
    obtain ⟨rfl, -⟩ := matches'
    rfl
  | succ n ih =>
    obtain ⟨u, m, v, rfl, hr, hs⟩ := matches'
    rw [List.countP_append, one _ _ _ hr, ih hs, Nat.add_comm]

theorem Matches.upTo_countP {d : α → Bool} (one : ∀ p w q, Matches r p w q → w.countP d = 1) {n : ℕ}
    (matches' : Matches (r.upTo n) p w q) : w.countP d ≤ n := by
  induction n generalizing p w with
  | zero =>
    obtain ⟨rfl, -⟩ := matches'
    exact Nat.zero_le _
  | succ n ih =>
    obtain ⟨u, m, v, rfl, hr, hs⟩ | ⟨rfl, -⟩ := matches'
    · rw [List.countP_append, one _ _ _ hr, Nat.add_comm]
      exact Nat.succ_le_succ (ih hs)
    · exact Nat.zero_le _

/-! ## Pieces of a text -/

variable {pat : Pattern α} {A B : List (Piece α)} {g : List α}

theorem Pattern.find_matches {e : Pos α} (found : pat.find p = some (q, e)) :
    Matches pat.group p (p.upto q) q ∧ Matches pat.value q (q.upto e) e := by
  have mem := List.mem_of_mem_head? found
  obtain ⟨q', group, mem⟩ := List.mem_flatMap.mp mem
  obtain ⟨e', value, same⟩ := List.mem_map.mp mem
  cases same
  obtain ⟨g, hg⟩ := mem_ends_iff.mp group
  obtain ⟨v, hv⟩ := mem_ends_iff.mp value
  rw [hg.reads.upto, hv.reads.upto]
  exact ⟨hg, hv⟩

/-- The pieces make up the text. -/
theorem scan_text (least : 0 < pat.group.least + pat.value.least) {n : ℕ} (enough : p.rest.length ≤ n) :
    (scan pat n p).flatMap Piece.text = p.rest := by
  induction n generalizing p with
  | zero => rw [List.length_eq_zero_iff.mp (Nat.le_zero.mp enough), scan, List.flatMap_nil]
  | succ n ih =>
    obtain ⟨prev, rest⟩ := p
    cases rest with
    | nil => rfl
    | cons a rest =>
      rw [scan]
      dsimp only
      cases found : pat.find ⟨prev, a :: rest⟩ with
      | none =>
        rw [List.flatMap_cons, ih (Nat.le_of_succ_le_succ enough)]
        rfl
      | some ends' =>
        obtain ⟨q, e⟩ := ends'
        obtain ⟨hg, hv⟩ := Pattern.find_matches found
        have text := (hg.reads.trans hv.reads).rest
        have taken := Nat.add_le_add hg.least_le hv.least_le
        have lengths := congrArg List.length text
        rw [List.length_append, List.length_append] at lengths
        rw [List.flatMap_cons, ih (by omega), Piece.text, ← text]

theorem pieces_text (least : 0 < pat.group.least + pat.value.least) (text : List α) :
    (pat.pieces text).flatMap Piece.text = text := scan_text least (Nat.le_refl _)

/-- A piece that was found is the first match at its place. -/
theorem scan_found (least : 0 < pat.group.least + pat.value.least) {n : ℕ} (enough : p.rest.length ≤ n)
    (split : scan pat n p = A ++ .found g v :: B) : ∃ p' q e, pat.find p' = some (q, e) ∧
      p.Reads (A.flatMap Piece.text) p' ∧ Matches pat.group p' g q ∧ Matches pat.value q v e ∧
      e.rest = B.flatMap Piece.text := by
  induction n generalizing p A with
  | zero =>
    cases A with
    | nil => cases split
    | cons a A => cases split
  | succ n ih =>
    obtain ⟨prev, rest⟩ := p
    cases rest with
    | nil =>
      rw [scan] at split
      cases A with
      | nil => cases split
      | cons a A => cases split
    | cons a rest =>
      rw [scan] at split
      dsimp only at split
      cases found : pat.find ⟨prev, a :: rest⟩ with
      | none =>
        rw [found] at split
        cases A with
        | nil => cases split
        | cons piece A =>
          obtain ⟨rfl, tail⟩ := List.cons.inj split
          obtain ⟨p', q, e, found', before, matches'⟩ := ih (Nat.le_of_succ_le_succ enough) tail
          exact ⟨p', q, e, found', before.cons, matches'⟩
      | some ends' =>
        obtain ⟨q, e⟩ := ends'
        rw [found] at split
        obtain ⟨hg, hv⟩ := Pattern.find_matches found
        have reads := hg.reads.trans hv.reads
        have taken := Nat.add_le_add hg.least_le hv.least_le
        have lengths := congrArg List.length reads.rest
        rw [List.length_append, List.length_append] at lengths
        have shorter : e.rest.length ≤ n := by omega
        cases A with
        | nil =>
          obtain ⟨same, rfl⟩ := List.cons.inj split
          cases same
          exact ⟨_, q, e, found, .refl _, hg, hv, (scan_text least shorter).symm⟩
        | cons piece A =>
          obtain ⟨rfl, tail⟩ := List.cons.inj split
          obtain ⟨p', q', e', found', before, matches'⟩ := ih shorter tail
          exact ⟨p', q', e', found', reads.trans before, matches'⟩

theorem pieces_found (least : 0 < pat.group.least + pat.value.least) {text : List α}
    (split : pat.pieces text = A ++ .found g v :: B) : ∃ p q e, pat.find p = some (q, e) ∧
      p.prev = (A.flatMap Piece.text).getLast? ∧ Matches pat.group p g q ∧ Matches pat.value q v e ∧
      e.rest = B.flatMap Piece.text := by
  obtain ⟨p, q, e, found, reads, hg, hv, rest⟩ :=
    scan_found least (Nat.le_refl text.length) (show scan pat text.length ⟨none, text⟩ = _ from split)
  exact ⟨p, q, e, found, by rw [reads.prev, Option.or_none], hg, hv, rest⟩

/-! ## Characters with more than what is looked at -/

def Pos.map (f : β → α) (p : Pos β) : Pos α := ⟨p.prev.map f, p.rest.map f⟩

def Piece.map (f : β → α) : Piece β → Piece α
  | .plain c => .plain (f c)
  | .found group value => .found (group.map f) (value.map f)

variable {f : β → α}

theorem map_starEnds (prev : Option β) (rest : List β) :
    (starEnds (c ∘ f) prev rest).map (Pos.map f) = starEnds c (prev.map f) (rest.map f) := by
  induction rest generalizing prev with
  | nil => rfl
  | cons a rest ih =>
    rw [starEnds, List.map_cons, starEnds, Function.comp_apply]
    split
    · rw [List.map_append, ih]
      rfl
    · rfl

theorem atBoundary_map (word : α → Bool) (p : Pos β) : p.atBoundary (word ∘ f) = (p.map f).atBoundary word := by
  rw [Pos.atBoundary, Pos.atBoundary, Pos.map, List.head?_map, Option.any_map, Option.any_map]
  rfl

theorem map_ends (r : Expr α) (p : Pos β) : (ends (r.comap f) p).map (Pos.map f) = ends r (p.map f) := by
  induction r generalizing p with
  | empty => rfl
  | chars c =>
    obtain ⟨prev, rest⟩ := p
    cases rest with
    | nil => rfl
    | cons a rest =>
      simp only [Expr.comap, ends, Pos.map, List.map_cons, Function.comp_apply]
      split <;> rfl
  | boundary word =>
    simp only [Expr.comap, ends, atBoundary_map]
    split <;> rfl
  | seq r s first second =>
    rw [Expr.comap, ends, ends, List.map_flatMap, ← first, List.flatMap_map]
    simp only [second]
  | alt r s left right => rw [Expr.comap, ends, ends, List.map_append, left, right]
  | star c => exact map_starEnds _ _
  | lazyStar c =>
    rw [Expr.comap, ends, ends, List.map_reverse]
    exact congrArg List.reverse (map_starEnds _ _)

def Pattern.comap (f : β → α) (pat : Pattern α) : Pattern β := ⟨pat.group.comap f, pat.value.comap f⟩

theorem comap_id (r : Expr α) : r.comap id = r := by
  induction r with
  | empty | chars | boundary | star | lazyStar => rfl
  | seq r s first second | alt r s first second => rw [Expr.comap, first, second]

theorem Pattern.comap_id (pat : Pattern α) : pat.comap id = pat := by
  rw [Pattern.comap, Regex.comap_id, Regex.comap_id]

theorem map_find (pat : Pattern α) (p : Pos β) :
    ((pat.comap f).find p).map (Prod.map (Pos.map f) (Pos.map f)) = pat.find (p.map f) := by
  rw [Pattern.find, Pattern.find, ← List.head?_map, List.map_flatMap, ← map_ends, List.flatMap_map]
  simp only [List.map_map, ← map_ends]
  rfl

theorem map_upto (p q : Pos β) : (p.upto q).map f = (p.map f).upto (q.map f) := by
  rw [Pos.upto, Pos.upto, List.map_take, Pos.map, Pos.map, List.length_map, List.length_map]

theorem map_scan (pat : Pattern α) (n : ℕ) (p : Pos β) :
    (scan (pat.comap f) n p).map (Piece.map f) = scan pat n (p.map f) := by
  induction n generalizing p with
  | zero => rfl
  | succ n ih =>
    obtain ⟨prev, rest⟩ := p
    cases rest with
    | nil => rfl
    | cons a rest =>
      have same := map_find (f := f) pat ⟨prev, a :: rest⟩
      rw [scan, scan]
      dsimp only [Pos.map, List.map_cons] at same ⊢
      rw [← same]
      cases (pat.comap f).find ⟨prev, a :: rest⟩ with
      | none =>
        rw [Option.map_none, List.map_cons, ih]
        rfl
      | some found =>
        rw [Option.map_some, List.map_cons, ih]
        simp only [Piece.map, map_upto]
        rfl

theorem map_pieces (pat : Pattern α) (text : List β) :
    ((pat.comap f).pieces text).map (Piece.map f) = pat.pieces (text.map f) := by
  rw [Pattern.pieces, Pattern.pieces, map_scan, List.length_map]
  rfl

end

end Regex
