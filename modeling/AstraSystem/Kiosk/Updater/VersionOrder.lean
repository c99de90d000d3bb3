import Mathlib.Data.List.GetD
import AstraSystem.Kiosk.Updater.Updater
import AstraSystem.Lib.FirstDifference
import AstraSystem.Lib.Separated

/-!
# When versions are ranked

A part that is a number is compared with another by its value, a text with another by its code units, and a number
with a text by what `Number` makes of it. A text that it makes nothing of is neither less nor greater than any number.
-/

namespace Kiosk.Updater

open FirstDifference

variable {N : Type} [LinearOrder N] (numbers : Numbers N)

def part (s : String) : Part N :=
  match numbers.parseInt s with
  | some n => .number n
  | none => .text s

/-- What stands between the dots. -/
def segments (v : String) : List String := ((stripV v.toList).splitOn '.').map String.ofList

/-- The part at a place, zero where the version is over. -/
def partAt (v : String) (i : ℕ) : Part N := (normalize numbers v).getD i (.number numbers.zero)

/-- Versions of which every segment is one of `P`. -/
def Over (P : String → Prop) (v : String) : Prop := ∀ s ∈ segments v, P s

/-- A segment of `P` can be one of a version. -/
def Segment (P : String → Prop) (s : String) : Prop := P s ∧ '.' ∉ s.toList

/-- The parts that are compared: missing ones are zero. -/
def Used (P : String → Prop) (p : Part N) : Prop :=
  p = .number numbers.zero ∨ ∃ s, Segment P s ∧ part numbers s = p

/-- What a text counts as among zeros. -/
def value (s : String) : N := (numbers.number s).getD numbers.zero

/-- A text that is no number comes with no number but zero, and texts come in the order of the numbers between
them. -/
structure Coherent (P : String → Prop) : Prop where
  zeros : ∀ s, Segment P s → numbers.parseInt s = none → numbers.number s = none →
    ∀ n, Used numbers P (.number n) → n = numbers.zero
  ordered : ∀ s t, Segment P s → Segment P t → numbers.parseInt s = none → numbers.parseInt t = none →
    ∀ n, Used numbers P (.number n) → value numbers s ≤ n → n ≤ value numbers t →
      Collation.codeUnits s ≤ Collation.codeUnits t

section
variable {numbers} {P : String → Prop} {p q r : Part N} {a b c : String}

/-! ## Parts -/

def Less (numbers : Numbers N) (p q : Part N) : Prop := p.less numbers q = true

@[simp] theorem less_text {s t : String} :
    Less numbers (.text s) (.text t) ↔ Collation.codeUnits s < Collation.codeUnits t := by
  simp [Less, Part.less]

@[simp] theorem less_number {m n : N} : Less numbers (.number m) (.number n) ↔ m < n := by
  simp [Less, Part.less]

@[simp] theorem less_text_number {s : String} {n : N} :
    Less numbers (.text s) (.number n) ↔ ∃ m, numbers.number s = some m ∧ m < n := by
  simp [Less, Part.less, Option.any_eq_true]

@[simp] theorem less_number_text {t : String} {m : N} :
    Less numbers (.number m) (.text t) ↔ ∃ n, numbers.number t = some n ∧ m < n := by
  simp [Less, Part.less, Option.any_eq_true]

theorem less_asymm (p q : Part N) (h : Less numbers p q) : ¬ Less numbers q p := by
  cases p with
  | text s =>
    cases q with
    | text t =>
      rw [less_text] at h ⊢
      exact lt_asymm h
    | number n =>
      rw [less_text_number] at h
      rw [less_number_text]
      rintro ⟨m, hm, less⟩
      obtain ⟨m', hm', less'⟩ := h
      cases hm.symm.trans hm'
      exact lt_asymm less less'
  | number m =>
    cases q with
    | text t =>
      rw [less_number_text] at h
      rw [less_text_number]
      rintro ⟨n, hn, less⟩
      obtain ⟨n', hn', less'⟩ := h
      cases hn.symm.trans hn'
      exact lt_asymm less less'
    | number n =>
      rw [less_number] at h ⊢
      exact lt_asymm h

theorem less_irrefl (p : Part N) : ¬ Less numbers p p := fun h => less_asymm p p h h

/-! ## The first difference -/

/-- The comparison of a place. -/
def compareAt (numbers : Numbers N) (a b : String) (i : ℕ) : Option ℤ :=
  if (partAt numbers a i).less numbers (partAt numbers b i) then some (-1)
  else if (partAt numbers b i).less numbers (partAt numbers a i) then some 1
  else none

theorem compareAt_eq_none {i : ℕ} :
    compareAt numbers a b i = none ↔ Tied (Less numbers) (partAt numbers a i) (partAt numbers b i) := by
  unfold compareAt Tied Less
  split
  · simp [*]
  · split <;> simp [*]

theorem compareAt_eq_some {i : ℕ} {sign : ℤ} (h : compareAt numbers a b i = some sign) :
    sign = -1 ∧ Less numbers (partAt numbers a i) (partAt numbers b i) ∨
      sign = 1 ∧ Less numbers (partAt numbers b i) (partAt numbers a i) := by
  unfold compareAt at h
  split at h
  · rename_i less
    exact .inl ⟨(Option.some.inj h).symm, less⟩
  · split at h
    · rename_i greater
      exact .inr ⟨(Option.some.inj h).symm, greater⟩
    · cases h

omit [LinearOrder N] in
theorem partAt_of_le {v : String} {i : ℕ} (beyond : (normalize numbers v).length ≤ i) :
    partAt numbers v i = .number numbers.zero := List.getD_eq_default _ _ beyond

/-- The result is that of the first place where the versions differ. -/
theorem compareVersions_cases (numbers : Numbers N) (a b : String) :
    (∃ i, compareAt numbers a b i = some (compareVersions numbers a b) ∧
      ∀ j < i, Tied (Less numbers) (partAt numbers a j) (partAt numbers b j)) ∨
    compareVersions numbers a b = 0 ∧ ∀ i, Tied (Less numbers) (partAt numbers a i) (partAt numbers b i) := by
  let len := max (normalize numbers a).length (normalize numbers b).length
  have result : compareVersions numbers a b = ((List.range len).findSome? (compareAt numbers a b)).getD 0 := rfl
  cases found : (List.range len).findSome? (compareAt numbers a b) with
  | none =>
    rw [result, found]
    refine .inr ⟨rfl, fun i => ?_⟩
    by_cases inside : i < len
    · exact compareAt_eq_none.mp (List.findSome?_eq_none_iff.mp found i (List.mem_range.mpr inside))
    · rw [partAt_of_le (by omega), partAt_of_le (by omega)]
      exact ⟨less_irrefl _, less_irrefl _⟩
  | some sign =>
    obtain ⟨front, i, rest, split, at_i, none⟩ := List.findSome?_eq_some_iff.mp found
    rw [result, found]
    refine .inl ⟨i, at_i, fun j earlier => compareAt_eq_none.mp (none j ?_)⟩
    -- the range is sorted
    have sorted : (front ++ i :: rest).Pairwise (· < ·) := split ▸ List.pairwise_lt_range
    have inside : i < len := List.mem_range.mp (split ▸ List.mem_append_right _ List.mem_cons_self)
    have mem : j ∈ front ++ i :: rest := split ▸ List.mem_range.mpr (earlier.trans inside)
    rcases List.mem_append.mp mem with before | after
    · exact before
    · rcases List.mem_cons.mp after with rfl | later
      · exact absurd earlier (lt_irrefl j)
      · have above := (List.pairwise_cons.mp (List.pairwise_append.mp sorted).2.1).1 j later
        exact absurd earlier above.asymm

theorem compareVersions_neg :
    compareVersions numbers a b < 0 ↔ Before (Less numbers) (partAt numbers a) (partAt numbers b) := by
  obtain ⟨i, at_i, same⟩ | ⟨zero, same⟩ := compareVersions_cases numbers a b
  · obtain ⟨sign, less⟩ | ⟨sign, greater⟩ := compareAt_eq_some at_i
    · exact iff_of_true (by omega) ⟨i, less, same⟩
    · refine iff_of_false (by omega) (Before.asymm less_asymm ⟨i, greater, ?_⟩)
      exact fun j earlier => (same j earlier).symm
  · refine iff_of_false (by omega) ?_
    rintro ⟨i, less, -⟩
    exact (same i).1 less

theorem compareVersions_pos :
    0 < compareVersions numbers a b ↔ Before (Less numbers) (partAt numbers b) (partAt numbers a) := by
  obtain ⟨i, at_i, same⟩ | ⟨zero, same⟩ := compareVersions_cases numbers a b
  · obtain ⟨sign, less⟩ | ⟨sign, greater⟩ := compareAt_eq_some at_i
    · exact iff_of_false (by omega) (Before.asymm less_asymm ⟨i, less, same⟩)
    · exact iff_of_true (by omega) ⟨i, greater, fun j earlier => (same j earlier).symm⟩
  · refine iff_of_false (by omega) ?_
    rintro ⟨i, less, -⟩
    exact (same i).2 less

/-- The versions exchanged, the sign is the opposite. -/
theorem sign_compareVersions (a b : String) :
    (compareVersions numbers b a).sign = -(compareVersions numbers a b).sign := by
  have up : compareVersions numbers b a < 0 ↔ 0 < compareVersions numbers a b :=
    compareVersions_neg.trans compareVersions_pos.symm
  have down : 0 < compareVersions numbers b a ↔ compareVersions numbers a b < 0 :=
    compareVersions_pos.trans compareVersions_neg.symm
  rcases lt_trichotomy (compareVersions numbers a b) 0 with neg | zero | pos
  · rw [Int.sign_eq_neg_one_of_neg neg, Int.sign_eq_one_of_pos (down.mpr neg)]
    rfl
  · rw [zero, show compareVersions numbers b a = 0 by omega]
    rfl
  · rw [Int.sign_eq_one_of_pos pos, Int.sign_eq_neg_one_of_neg (up.mpr pos)]

/-- A check never goes back to the version before. -/
theorem offered_back {config : Config N} {current : String} {reply reply' : Option Manifest} {m m' : Manifest}
    {artifact artifact' : Artifact} (there : offered config current reply = some (m, artifact))
    (back : offered config m.version reply' = some (m', artifact')) : m'.version ≠ current := by
  rintro rfl
  have up := compareVersions_neg.mp (offered_eq_some there).newer
  have down := compareVersions_neg.mp (offered_eq_some back).newer
  exact Before.asymm less_asymm up down

/-! ## Ranked parts -/

omit [LinearOrder N] in
theorem Used.text {s : String} (h : Used numbers P (.text s)) : Segment P s ∧ numbers.parseInt s = none := by
  obtain zero | ⟨t, seg, same⟩ := h
  · cases zero
  · unfold part at same
    split at same
    · cases same
    · rename_i none
      cases same
      exact ⟨seg, none⟩

omit [LinearOrder N] in
theorem used_text {s : String} (seg : Segment P s) (none : numbers.parseInt s = none) :
    Used numbers P (.text s) := by
  refine .inr ⟨s, seg, ?_⟩
  rw [part, none]

/-- Among coherent parts every text has a value. -/
theorem Coherent.less_text_number (h : Coherent numbers P) {s : String} {n : N} (hs : Used numbers P (.text s))
    (hn : Used numbers P (.number n)) : Less numbers (.text s) (.number n) ↔ value numbers s < n := by
  rw [Updater.less_text_number, value]
  cases number : numbers.number s with
  | none =>
    have zero := h.zeros s hs.text.1 hs.text.2 number n hn
    simp [zero]
  | some m => simp

theorem Coherent.less_number_text (h : Coherent numbers P) {s : String} {n : N} (hs : Used numbers P (.text s))
    (hn : Used numbers P (.number n)) : Less numbers (.number n) (.text s) ↔ n < value numbers s := by
  rw [Updater.less_number_text, value]
  cases number : numbers.number s with
  | none =>
    have zero := h.zeros s hs.text.1 hs.text.2 number n hn
    simp [zero]
  | some m => simp

theorem Coherent.le_of_between (h : Coherent numbers P) {s t : String} {n : N} (hs : Used numbers P (.text s))
    (ht : Used numbers P (.text t)) (hn : Used numbers P (.number n)) (low : value numbers s ≤ n)
    (high : n ≤ value numbers t) : Collation.codeUnits s ≤ Collation.codeUnits t :=
  h.ordered s t hs.text.1 ht.text.1 hs.text.2 ht.text.2 n hn low high

theorem Coherent.ranked (h : Coherent numbers P) : Ranked (Less numbers) (Used numbers P) := by
  intro p q r hp hq hr pq qr
  cases p with
  | text s =>
    cases q with
    | text t =>
      rw [less_text, not_lt] at pq
      cases r with
      | text u =>
        rw [less_text, not_lt] at qr ⊢
        exact pq.trans qr
      | number n =>
        rw [h.less_number_text hq hr, not_lt] at qr
        rw [h.less_number_text hp hr, not_lt]
        by_contra above
        have same := le_antisymm pq (h.le_of_between hq hp hr qr (le_of_not_ge above))
        rw [Collation.codeUnits_injective same] at above
        exact above qr
    | number n =>
      rw [h.less_number_text hp hq, not_lt] at pq
      cases r with
      | text u =>
        rw [h.less_text_number hr hq, not_lt] at qr
        rw [less_text, not_lt]
        exact h.le_of_between hp hr hq pq qr
      | number m =>
        rw [less_number, not_lt] at qr
        rw [h.less_number_text hp hr, not_lt]
        exact pq.trans qr
  | number n =>
    cases q with
    | text t =>
      rw [h.less_text_number hq hp, not_lt] at pq
      cases r with
      | text u =>
        rw [less_text, not_lt] at qr
        rw [h.less_text_number hr hp, not_lt]
        by_contra below
        have same := le_antisymm qr (h.le_of_between hr hq hp (le_of_not_ge below) pq)
        rw [← Collation.codeUnits_injective same] at below
        exact below pq
      | number m =>
        rw [h.less_number_text hq hr, not_lt] at qr
        rw [less_number, not_lt]
        exact pq.trans qr
    | number m =>
      rw [less_number, not_lt] at pq
      cases r with
      | text u =>
        rw [h.less_text_number hr hq, not_lt] at qr
        rw [h.less_text_number hr hp, not_lt]
        exact pq.trans qr
      | number k =>
        rw [less_number, not_lt] at qr ⊢
        exact pq.trans qr

theorem not_less_of_value_le {s : String} {n : N} (le : value numbers s ≤ n) :
    ¬ Less numbers (.number n) (.text s) := by
  rw [less_number_text]
  rintro ⟨m, number, less⟩
  rw [value, number] at le
  exact absurd less (not_lt.mpr le)

theorem not_less_of_le_value {s : String} {n : N} (le : n ≤ value numbers s) :
    ¬ Less numbers (.text s) (.number n) := by
  rw [less_text_number]
  rintro ⟨m, number, less⟩
  rw [value, number] at le
  exact absurd less (not_lt.mpr le)

theorem coherent_iff : Coherent numbers P ↔ Ranked (Less numbers) (Used numbers P) := by
  refine ⟨Coherent.ranked, fun ranked => ⟨?_, ?_⟩⟩
  · intro s seg text none n hn
    -- a text that is no number stands between all numbers
    have between (m : N) : ¬ Less numbers (.number m) (.text s) ∧ ¬ Less numbers (.text s) (.number m) := by
      simp [none]
    have used := used_text seg text
    have up := ranked _ _ _ hn used (.inl rfl) (between n).2 (between numbers.zero).1
    have down := ranked _ _ _ (.inl rfl) used hn (between numbers.zero).2 (between n).1
    rw [less_number, not_lt] at up down
    exact le_antisymm up down
  · intro s t hs ht texts textt n hn low high
    have le := ranked _ _ _ (used_text hs texts) hn (used_text ht textt) (not_less_of_value_le low)
      (not_less_of_le_value high)
    rwa [less_text, not_lt] at le

/-! ## Versions -/

omit [LinearOrder N] in
theorem normalize_eq (numbers : Numbers N) (v : String) : normalize numbers v = (segments v).map (part numbers) := by
  rw [segments, List.map_map]
  rfl

omit [LinearOrder N] in
theorem used_partAt {v : String} (made : Over P v) (i : ℕ) : Used numbers P (partAt numbers v i) := by
  have parts : ∀ q ∈ normalize numbers v, Used numbers P q := by
    rw [normalize_eq]
    intro q hq
    obtain ⟨s, hs, same⟩ := List.mem_map.mp hq
    refine .inr ⟨s, ⟨made s hs, ?_⟩, same⟩
    obtain ⟨x, hx, rfl⟩ := List.mem_map.mp hs
    rw [String.toList_ofList]
    exact Separated.notMem_of_mem_splitOn hx
  by_cases inside : i < (normalize numbers v).length
  · rw [partAt, List.getD_eq_getElem _ _ inside]
    exact parts _ (List.getElem_mem inside)
  · rw [partAt_of_le (not_lt.mp inside)]
    exact .inl rfl

/-- A version of these segments. -/
def dotted (xs : List String) : String := String.ofList ('v' :: ['.'].intercalate (xs.map String.toList))

theorem segments_dotted {xs : List String} (ne : xs ≠ []) (plain : ∀ s ∈ xs, '.' ∉ s.toList) :
    segments (dotted xs) = xs := by
  have fields : (['.'].intercalate (xs.map String.toList)).splitOn '.' = xs.map String.toList := by
    refine List.splitOn_intercalate '.' (fun l hl => ?_) (by simpa using ne)
    obtain ⟨s, hs, rfl⟩ := List.mem_map.mp hl
    exact plain s hs
  rw [segments, dotted, String.toList_ofList, stripV, if_pos (.inl rfl), fields, List.map_map]
  exact (List.map_congr_left fun s _ => String.ofList_toList).trans (List.map_id xs)

omit [LinearOrder N] in
/-- After one segment any part can stand. -/
theorem exists_version {s : String} (seg : Segment P s) (hp : Used numbers P p) :
    ∃ v, Over P v ∧ partAt numbers v 0 = part numbers s ∧ partAt numbers v 1 = p ∧
      ∀ i, partAt numbers v (i + 2) = .number numbers.zero := by
  obtain rfl | ⟨t, segT, rfl⟩ := hp
  · have same : segments (dotted [s]) = [s] := segments_dotted (by simp) (by simpa using seg.2)
    refine ⟨dotted [s], fun u hu => ?_, ?_⟩
    · rw [same, List.mem_singleton] at hu
      exact hu ▸ seg.1
    · simp only [partAt, normalize_eq, same]
      exact ⟨rfl, rfl, fun _ => rfl⟩
  · have same : segments (dotted [s, t]) = [s, t] := segments_dotted (by simp) (by simpa using ⟨seg.2, segT.2⟩)
    refine ⟨dotted [s, t], fun u hu => ?_, ?_⟩
    · rw [same, List.mem_pair] at hu
      obtain rfl | rfl := hu
      · exact seg.1
      · exact segT.1
    · simp only [partAt, normalize_eq, same]
      exact ⟨rfl, rfl, fun _ => rfl⟩

theorem compareVersions_le :
    compareVersions numbers a b ≤ 0 ↔ ¬ Before (Less numbers) (partAt numbers b) (partAt numbers a) :=
  not_lt.symm.trans (not_congr compareVersions_pos)

/-- Versions are ranked if their parts are, and only then. -/
theorem transitive_iff :
    (∀ a b c, Over P a → Over P b → Over P c → compareVersions numbers a b ≤ 0 →
      compareVersions numbers b c ≤ 0 → compareVersions numbers a c ≤ 0) ↔
      Ranked (Less numbers) (Used numbers P) := by
  simp only [compareVersions_le]
  constructor
  · intro trans p q r hp hq hr pq qr
    by_cases any : ∃ s, Segment P s
    · obtain ⟨s, seg⟩ := any
      obtain ⟨u, overU, firstU, rfl, restU⟩ := exists_version seg hp
      obtain ⟨v, overV, firstV, rfl, restV⟩ := exists_version seg hq
      obtain ⟨w, overW, firstW, rfl, restW⟩ := exists_version seg hr
      have before {x y : String} (first : partAt numbers x 0 = partAt numbers y 0)
          (rest : ∀ i, partAt numbers x (i + 2) = partAt numbers y (i + 2)) :
          Before (Less numbers) (partAt numbers x) (partAt numbers y) ↔
            Less numbers (partAt numbers x 1) (partAt numbers y 1) := by
        refine before_iff_of_tied less_irrefl fun j other => ?_
        match j with
        | 0 => exact first
        | 1 => exact absurd rfl other
        | j + 2 => exact rest j
      rw [← before (firstV.trans firstU.symm) fun i => (restV i).trans (restU i).symm] at pq
      rw [← before (firstW.trans firstV.symm) fun i => (restW i).trans (restV i).symm] at qr
      rw [← before (firstW.trans firstU.symm) fun i => (restW i).trans (restU i).symm]
      exact trans u v w overU overV overW pq qr
    · -- there is no version then, and no part but zero
      have only {x : Part N} (hx : Used numbers P x) : x = .number numbers.zero :=
        hx.resolve_right fun ⟨s, seg, _⟩ => any ⟨s, seg⟩
      rw [only hp, only hr]
      exact less_irrefl _
  · intro ranked a b c ha hb hc
    exact ranked.not_before_trans less_asymm (used_partAt ha) (used_partAt hb) (used_partAt hc)

end

/-- **Versions are ranked exactly if a segment that is no number comes with no number but zero, and the
other texts come in the order of their numbers.** The sign is always the opposite for the versions
exchanged, and no check goes back to the version before. -/
theorem preorder_iff (P : String → Prop) :
    (∀ a b, (compareVersions numbers b a).sign = -(compareVersions numbers a b).sign) ∧
      (∀ (config : Config N) current reply m artifact reply' m' artifact',
        offered config current reply = some (m, artifact) →
        offered config m.version reply' = some (m', artifact') → m'.version ≠ current) ∧
      ((∀ a b c, Over P a → Over P b → Over P c → compareVersions numbers a b ≤ 0 →
        compareVersions numbers b c ≤ 0 → compareVersions numbers a c ≤ 0) ↔ Coherent numbers P) :=
  ⟨sign_compareVersions, fun _ _ _ _ _ _ _ _ there back => offered_back there back,
    transitive_iff.trans coherent_iff.symm⟩

namespace Lobby

/-- Each of three versions is an update of the one before. -/
theorem versions_circle : compareVersions config.numbers "2.1" "x.2" = -1 ∧
    compareVersions config.numbers "x.2" "1.3" = -1 ∧ compareVersions config.numbers "1.3" "2.1" = -1 ∧
    ¬ ∀ a b c, compareVersions config.numbers a b ≤ 0 → compareVersions config.numbers b c ≤ 0 →
      compareVersions config.numbers a c ≤ 0 := by
  refine ⟨by decide, by decide, by decide, fun trans => ?_⟩
  exact absurd (trans "2.1" "x.2" "1.3" (by decide) (by decide)) (by decide)

end Lobby

end Kiosk.Updater
