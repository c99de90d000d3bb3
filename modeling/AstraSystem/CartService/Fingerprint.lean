import AstraSystem.CartService.Merge

/-!
# What a fingerprint tells apart (`crdt/merge.go`)

The menu item id and the sorted modifier option ids are hashed back to back, so
lines that spell the same text have one fingerprint wherever they cut it, and a
merge folds them into one line.
-/

namespace CartService

open Bytes (utf8)

def optionIDs (l : Line) : List String := l.modifiers.map Modifier.modifierOptionID

/-- The texts that are hashed, in order. -/
def pieces (l : Line) : List (List UInt8) :=
  (l.menuItemID :: (optionIDs l).insertionSort (· ≤ ·)).map utf8

/-- The item is the same, and so are the options, as often as they are chosen. -/
def SameConfiguration (a b : Line) : Prop :=
  a.menuItemID = b.menuItemID ∧ (optionIDs a).Perm (optionIDs b)

/-- The lines spell the same text. -/
def SameText (a b : Line) : Prop := (pieces a).flatten = (pieces b).flatten

/-- The lines cut what they spell in the same places. -/
def SameCuts (a b : Line) : Prop := (pieces a).map List.length = (pieces b).map List.length

instance decidableSameText (a b : Line) : Decidable (SameText a b) :=
  inferInstanceAs (Decidable (_ = _))

instance decidableSameCuts (a b : Line) : Decidable (SameCuts a b) :=
  inferInstanceAs (Decidable (_ = _))

section
variable {a b : Line}

theorem sameConfiguration_iff : SameConfiguration a b ↔ pieces a = pieces b := by
  have utf8_injective : Function.Injective utf8 := fun _ _ => Bytes.utf8_inj.mp
  rw [SameConfiguration, pieces, pieces, (List.map_injective_iff.mpr utf8_injective).eq_iff,
    List.cons.injEq]
  refine and_congr_right fun _ => ⟨fun perm => ?_, fun same => ?_⟩
  · have sorted (l : List String) : (l.insertionSort (· ≤ ·)).Pairwise (· ≤ ·) :=
      List.pairwise_insertionSort _ l
    refine List.Perm.eq_of_pairwise' (sorted _) (sorted _) ?_
    exact (List.perm_insertionSort _ _).trans (perm.trans (List.perm_insertionSort _ _).symm)
  · have perm := List.perm_insertionSort (· ≤ ·) (optionIDs a)
    rw [same] at perm
    exact perm.symm.trans (List.perm_insertionSort _ _)

/-- Lines are configured alike exactly when they cut the same text in the same places. -/
theorem sameConfiguration_iff_cuts : SameConfiguration a b ↔ SameText a b ∧ SameCuts a b :=
  sameConfiguration_iff.trans List.eq_iff_flatten_eq

variable {sha256 : List UInt8 → List UInt8}

theorem lineFingerprint_eq (l : Line) :
    lineFingerprint sha256 l = Bytes.hex (sha256 (pieces l).flatten) := by
  rw [pieces, List.map_cons, List.flatten_cons, ← List.flatMap_def]
  rfl

theorem lineFingerprint_eq_iff (injective : Function.Injective sha256) :
    lineFingerprint sha256 a = lineFingerprint sha256 b ↔ SameText a b := by
  rw [lineFingerprint_eq, lineFingerprint_eq, Bytes.hex_injective.eq_iff, injective.eq_iff]
  rfl

/-- A merged cart has one line for each fingerprint. -/
theorem length_lines_merged (walk : Walk LineGroup) (target source : Cart) (sourceHLC : Int64)
    (now : Time) : (merged sha256 walk target source sourceHLC now).lines.length =
      (fingerprints sha256 (target.lines ++ source.lines)).length := by
  rw [(lines_merged sha256 walk target source sourceHLC now).length_eq,
    List.length_filterMap_eq_countP, List.countP_eq_length]
  intro fp mem
  obtain ⟨hb, -, -⟩ | ⟨b, x, at', -, -, own⟩ := lineOf_cases sha256
    (decide (sourceHLC > target.updatedAtMs)) target.lines source.lines fp
  · rw [baseLine, Option.or_eq_none_iff, List.head?_eq_none_iff] at hb
    exact absurd mem (not_mem_fingerprints.mpr hb)
  · rw [own]
    rfl

/-- Two lines of one fingerprint are folded into one. -/
theorem length_merged_pair (walk : Walk LineGroup) {target source : Cart} (ht : target.lines = [a])
    (hs : source.lines = [b]) (sourceHLC : Int64) (now : Time) :
    (merged sha256 walk target source sourceHLC now).lines.length = 1 ↔
      lineFingerprint sha256 a = lineFingerprint sha256 b := by
  rw [length_lines_merged, ht, hs, fingerprints]
  by_cases same : lineFingerprint sha256 a = lineFingerprint sha256 b <;> simp [same]

/-- The cart merge folds the lines of two carts with one line each. -/
def Folds (sha256 : List UInt8 → List UInt8) (a b : Line) : Prop :=
  ∃ walk target source sourceHLC now, target.lines = [a] ∧ source.lines = [b] ∧
    (merged sha256 walk target source sourceHLC now).lines.length = 1

theorem folds_iff : Folds sha256 a b ↔ lineFingerprint sha256 a = lineFingerprint sha256 b := by
  constructor
  · rintro ⟨walk, target, source, sourceHLC, now, ht, hs, one⟩
    exact (length_merged_pair walk ht hs sourceHLC now).mp one
  · intro same
    let cart (l : Line) : Cart := { newCart "" "" "" "" "" "" 0 with lines := [l] }
    exact ⟨.inOrder _ _, cart a, cart b, 0, 0, rfl, rfl,
      (length_merged_pair _ rfl rfl 0 0).mpr same⟩

/-- An option without an id leaves no trace, wherever it is sorted to. -/
theorem flatten_orderedInsert (ids : List String) :
    ((ids.orderedInsert (· ≤ ·) "").map utf8).flatten = (ids.map utf8).flatten := by
  induction ids with
  | nil => rfl
  | cons id ids ih =>
    rw [List.orderedInsert_cons]
    split
    · rfl
    · rw [List.map_cons, List.flatten_cons, ih, List.map_cons, List.flatten_cons]

theorem exists_other_configuration (a : Line) :
    ∃ b, b.menuItemID = a.menuItemID ∧ SameText a b ∧ ¬ SameConfiguration a b := by
  refine ⟨{ a with modifiers := ⟨"", "", 0, ""⟩ :: a.modifiers }, rfl, ?_, ?_⟩
  · show _ = utf8 a.menuItemID ++ (((optionIDs a).insertionSort (· ≤ ·)).orderedInsert (· ≤ ·) "" |>.map
      utf8).flatten
    rw [flatten_orderedInsert]
    rfl
  · rintro ⟨-, perm⟩
    have length := perm.length_eq
    simp only [optionIDs, List.length_map, List.length_cons] at length
    omega

/-- **A fingerprint identifies what is ordered up to the cuts between the ids.** It is the same for
two lines exactly when they are configured alike, and a merge folds only such, if lines that spell
the same text cut it in the same places. No line has its fingerprint for itself. -/
theorem identifies_iff (injective : Function.Injective sha256) :
    (∀ a b : Line,
      ((lineFingerprint sha256 a = lineFingerprint sha256 b ↔ SameConfiguration a b) ↔
        (SameText a b → SameCuts a b)) ∧
      ((Folds sha256 a b → SameConfiguration a b) ↔ (SameText a b → SameCuts a b))) ∧
    ∀ a : Line, ∃ b, b.menuItemID = a.menuItemID ∧ ¬ SameConfiguration a b ∧
      lineFingerprint sha256 a = lineFingerprint sha256 b ∧ Folds sha256 a b := by
  have fold (a b : Line) : (Folds sha256 a b → SameConfiguration a b) ↔
      (SameText a b → SameCuts a b) := by
    rw [folds_iff, lineFingerprint_eq_iff injective, sameConfiguration_iff_cuts]
    exact imp_congr_right fun text => and_iff_right text
  constructor
  · intro a b
    refine ⟨?_, fold a b⟩
    rw [← fold a b, folds_iff]
    refine ⟨Iff.mp, fun h => ⟨h, fun same => ?_⟩⟩
    exact (lineFingerprint_eq_iff injective).mpr (sameConfiguration_iff_cuts.mp same).1
  · intro a
    obtain ⟨b, item, text, other⟩ := exists_other_configuration a
    have same := (lineFingerprint_eq_iff injective).mpr text
    exact ⟨b, item, other, same, folds_iff.mpr same⟩

end

/-- Item 1 with option 2. -/
def burgerWithCheese : Line :=
  ⟨"", "line-1", "item-1", "Burger", 500, 1, [⟨"2", "Cheese", 100, "grp-cheese"⟩], 0⟩

/-- Item 12 as it comes. -/
def steak : Line := ⟨"", "line-2", "item-12", "Steak", 2500, 1, [], 0⟩

/-- Whatever the hash, the burger and the steak have one fingerprint. -/
theorem burger_passes_for_steak :
    ¬ ∃ sha256, ∀ a b : Line, a.menuItemID ≠ "" → b.menuItemID ≠ "" →
      (lineFingerprint sha256 a = lineFingerprint sha256 b ↔ SameConfiguration a b) := by
  rintro ⟨sha256, claim⟩
  have text : (pieces burgerWithCheese).flatten = (pieces steak).flatten := by decide +kernel
  have same : lineFingerprint sha256 burgerWithCheese = lineFingerprint sha256 steak := by
    rw [lineFingerprint_eq, lineFingerprint_eq, text]
  have item := ((claim burgerWithCheese steak (by decide) (by decide)).mp same).1
  exact absurd item (by decide)

def steakDigest : List UInt8 :=
  [0x92, 0x3e, 0x9a, 0x1c, 0xb, 0x78, 0x8a, 0xd6, 0x92, 0x3c, 0xe7, 0xb7, 0xc, 0xa0, 0xe8, 0xe9,
    0x21, 0x7d, 0xbf, 0x9b, 0xd4, 0x72, 0xa4, 0xdc, 0x88, 0xec, 0x75, 0x62, 0xf1, 0xe4, 0x50, 0x20]

/-- SHA-256 of `item-12`, and collision free elsewhere. -/
def steakSha256 (message : List UInt8) : List UInt8 :=
  if message = utf8 "item-12" then steakDigest else steakDigest ++ 0 :: message

theorem identifies_steak :
    ¬ (Folds steakSha256 burgerWithCheese steak → SameConfiguration burgerWithCheese steak) := by
  have injective : Function.Injective steakSha256 := by
    intro m n h
    unfold steakSha256 at h
    split at h <;> split at h <;> simp_all
  intro h
  have cuts := ((identifies_iff injective).1 burgerWithCheese steak).2.mp h (by decide +kernel)
  exact absurd cuts (by decide +kernel)

end CartService
