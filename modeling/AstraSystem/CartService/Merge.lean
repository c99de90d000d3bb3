import Mathlib.Data.List.Dedup
import Mathlib.Data.List.Sort
import Mathlib.Data.String.Basic
import AstraSystem.CartService.Cart
import AstraSystem.Lib.Assoc
import AstraSystem.Lib.Bytes

/-!
# The ghost-cart merge (`crdt/merge.go`)

`crypto/sha256` is a parameter. Go visits a map in any order, so the loop over
the groups takes its order from a `Walk`; with the stable sort after it this
covers every result of the unstable one.
-/

namespace CartService

open Bytes (utf8)

/-- The groups in some order of their fingerprints. -/
abbrev Walk := Assoc.Walk String

structure MergeResult where
  cart : Cart
  sourceHLC : Int64 := 0
  targetHLC : Int64 := 0
  linesAdded : ℕ := 0
  deriving DecidableEq, Repr

structure LineGroup where
  line : Line
  quantity : Int64
  addedAtMs : Int64
  source : Bool
  deriving DecidableEq, Repr

variable (sha256 : List UInt8 → List UInt8)

def lineFingerprint (l : Line) : String :=
  let ids := (l.modifiers.map Modifier.modifierOptionID).insertionSort (· ≤ ·)
  Bytes.hex (sha256 (utf8 l.menuItemID ++ ids.flatMap utf8))

/-- The line with the name, the price and the modifiers of another. -/
def Line.takeSnapshot (l other : Line) : Line :=
  { l with
    nameSnapshot := other.nameSnapshot
    unitPriceCentsSnapshot := other.unitPriceCentsSnapshot
    modifiers := other.modifiers }

namespace LineGroup

def ofLine (line : Line) (source : Bool) : LineGroup :=
  { line, quantity := line.quantity, addedAtMs := line.addedAtMs, source }

/-- A source line joins a group that exists. -/
def join (newer : Bool) (g : LineGroup) (line : Line) : LineGroup where
  line := if newer then g.line.takeSnapshot line else g.line
  quantity := g.quantity + line.quantity
  addedAtMs := if line.addedAtMs > g.addedAtMs then line.addedAtMs else g.addedAtMs
  source := true

/-- What a source line makes of the group it finds, or of none. -/
def add (newer : Bool) (g : Option LineGroup) (line : Line) : Option LineGroup :=
  some (g.elim (ofLine line true) (·.join newer line))

def mergedLine (g : LineGroup) : Line :=
  { g.line with quantity := g.quantity, addedAtMs := g.addedAtMs }

end LineGroup

def addTarget (groups : Assoc.Map String LineGroup) (line : Line) : Assoc.Map String LineGroup :=
  groups.insert (lineFingerprint sha256 line) (.ofLine line false)

def addSource (newer : Bool) (groups : Assoc.Map String LineGroup) (line : Line) :
    Assoc.Map String LineGroup :=
  let fp := lineFingerprint sha256 line
  match groups.lookup fp with
  | none => groups.insert fp (.ofLine line true)
  | some g => groups.insert fp (g.join newer line)

def less (a b : Line) : Bool :=
  if a.addedAtMs ≠ b.addedAtMs then a.addedAtMs < b.addedAtMs else a.lineID < b.lineID

def sortLines (lines : List Line) : List Line :=
  lines.insertionSort fun a b => less b a = false

def recomputeTotals (c : Cart) : Cart := c.recomputeTotals

def touch (c : Cart) (now : Time) : Cart := c.touch now

/-- The groups after both loops. -/
def groups (newer : Bool) (target source : List Line) : Assoc.Map String LineGroup :=
  source.foldl (addSource sha256 newer) (target.foldl (addTarget sha256) ∅)

/-- The cart `MergeCarts` builds from two carts. -/
def merged (walk : Walk LineGroup) (target source : Cart) (sourceHLC : Int64) (now : Time) : Cart :=
  let newer := decide (sourceHLC > target.updatedAtMs)
  let lines := (walk.values (groups sha256 newer target.lines source.lines)).map
    LineGroup.mergedLine
  touch (recomputeTotals { target with lines := sortLines lines }) now

def mergeCarts (walk : Walk LineGroup) (target source : Option Cart) (sourceHLC : Int64)
    (now : Time) : Except CartError MergeResult :=
  match target, source with
  | none, _ => .error .cartNotFound
  | some target, none => .ok { cart := target }
  | some target, some source =>
    let cart := merged sha256 walk target source sourceHLC now
    .ok { cart, sourceHLC, targetHLC := target.updatedAtMs, linesAdded := cart.lines.length }

/-! ## One group -/

/-- The lines with a fingerprint, in order. -/
def linesAt (lines : List Line) (fp : String) : List Line :=
  lines.filter fun l => lineFingerprint sha256 l = fp

/-- The last line with a fingerprint. -/
def lastAt (lines : List Line) (fp : String) : Option Line := (linesAt sha256 lines fp).getLast?

/-- What the loops make of the target's last line and the source's lines of one fingerprint. -/
def groupOf (newer : Bool) (last : Option Line) (source : List Line) : Option LineGroup :=
  source.foldl (LineGroup.add newer) (last.map (LineGroup.ofLine · false))

/-- The line a group starts from: the last of the target, or else the first of the source. -/
def baseLine (last : Option Line) (source : List Line) : Option Line := last.or source.head?

/-- The line a group has its snapshot from. -/
def snapshotLine (newer : Bool) (last : Option Line) (source : List Line) : Option Line :=
  if newer then source.getLast?.or last else baseLine last source

/-- The lines whose quantities a group adds up. -/
def summedLines (last : Option Line) (source : List Line) : List Line := last.toList ++ source

/-- The line the merge keeps for a fingerprint. -/
def lineOf (newer : Bool) (target source : List Line) (fp : String) : Option Line :=
  (groupOf newer (lastAt sha256 target fp) (linesAt sha256 source fp)).map LineGroup.mergedLine

/-- The fingerprints of the lines, each once. -/
def fingerprints (lines : List Line) : List String := (lines.map (lineFingerprint sha256)).dedup

variable {sha256} {newer : Bool}

theorem lineFingerprint_congr {l l' : Line} (menuItem : l.menuItemID = l'.menuItemID)
    (modifiers : l.modifiers = l'.modifiers) :
    lineFingerprint sha256 l = lineFingerprint sha256 l' := by
  simp only [lineFingerprint, menuItem, modifiers]

theorem foldl_last (lines : List Line) (g : Option LineGroup) :
    lines.foldl (fun _ l => some (LineGroup.ofLine l false)) g =
      (lines.getLast?.map (LineGroup.ofLine · false)).or g := by
  induction lines using List.reverseRecOn with
  | nil => rfl
  | append_singleton lines l _ => simp

theorem lookup_groups (target source : List Line) (fp : String) :
    (groups sha256 newer target source).lookup fp =
      groupOf newer (lastAt sha256 target fp) (linesAt sha256 source fp) := by
  have hsource (m : Assoc.Map String LineGroup) (l : Line) (a : String) :
      (addSource sha256 newer m l).lookup a =
        if a = lineFingerprint sha256 l then LineGroup.add newer (m.lookup a) l
        else m.lookup a := by
    by_cases ha : a = lineFingerprint sha256 l
    · subst ha
      simp only [addSource, ↓reduceIte]
      split <;> rename_i h <;> rw [AList.lookup_insert, h] <;> rfl
    · simp only [addSource, ha, ↓reduceIte]
      split <;> exact AList.lookup_insert_ne ha
  have htarget (m : Assoc.Map String LineGroup) (l : Line) (a : String) :
      (addTarget sha256 m l).lookup a =
        if a = lineFingerprint sha256 l then some (.ofLine l false) else m.lookup a := by
    by_cases ha : a = lineFingerprint sha256 l
    · subst ha
      simp only [addTarget, AList.lookup_insert, ↓reduceIte]
    · simp only [addTarget, AList.lookup_insert_ne ha, ha, ↓reduceIte]
  rw [groups, Assoc.lookup_foldl_list hsource,
    Assoc.lookup_foldl_list (h := fun _ l => some (.ofLine l false)) htarget]
  simp only [foldl_last, AList.lookup_empty, Option.or_none, groupOf, lastAt, linesAt]

theorem foldl_add (newer : Bool) (g : LineGroup) (source : List Line) :
    ∃ g', source.foldl (LineGroup.add newer) (some g) = some g' ∧
      g'.line = g.line.takeSnapshot (if newer then source.getLast?.getD g.line else g.line) ∧
      g'.quantity = g.quantity + (source.map Line.quantity).sum := by
  induction source using List.reverseRecOn with
  | nil =>
    refine ⟨g, rfl, ?_, (Int64.add_zero _).symm⟩
    cases newer <;> rfl
  | append_singleton source l ih =>
    obtain ⟨g', fold, line, quantity⟩ := ih
    refine ⟨g'.join newer l, ?_, ?_, ?_⟩
    · rw [List.foldl_concat, fold]
      rfl
    · rw [List.getLast?_concat]
      cases newer with
      | false => exact line
      | true => simp only [LineGroup.join, line, ↓reduceIte, Option.getD_some]; rfl
    · simp only [LineGroup.join, quantity, List.map_append, List.sum_append, Int64.add_assoc,
        List.map_cons, List.map_nil, List.sum_cons, List.sum_nil, Int64.add_zero]

/-- A group has a line to start from, one to have its snapshot from, and the sum of its lines. -/
theorem groupOf_cases (newer : Bool) (last : Option Line) (source : List Line) :
    (baseLine last source = none ∧ snapshotLine newer last source = none ∧
      groupOf newer last source = none) ∨
    ∃ b s g, baseLine last source = some b ∧ snapshotLine newer last source = some s ∧
      groupOf newer last source = some g ∧ g.line = b.takeSnapshot s ∧
      g.quantity = ((summedLines last source).map Line.quantity).sum := by
  cases last with
  | some b =>
    obtain ⟨g, fold, line, quantity⟩ := foldl_add newer (.ofLine b false) source
    refine .inr ⟨b, if newer then source.getLast?.getD b else b, g, rfl, ?_, fold, line, quantity⟩
    cases newer <;> cases hs : source.getLast? <;> simp [snapshotLine, baseLine, hs]
  | none =>
    cases source with
    | nil => left; cases newer <;> simp [baseLine, snapshotLine, groupOf]
    | cons b source =>
      obtain ⟨g, fold, line, quantity⟩ := foldl_add newer (.ofLine b true) source
      refine .inr ⟨b, if newer then source.getLast?.getD b else b, g, rfl, ?_, fold, line, quantity⟩
      cases newer <;> simp [snapshotLine, baseLine, List.getLast?_cons]

theorem mem_fingerprints {lines : List Line} {fp : String} :
    fp ∈ fingerprints sha256 lines ↔ linesAt sha256 lines fp ≠ [] := by
  simp [fingerprints, linesAt, List.filter_eq_nil_iff]

theorem not_mem_fingerprints {target source : List Line} {fp : String} :
    fp ∉ fingerprints sha256 (target ++ source) ↔
      lastAt sha256 target fp = none ∧ linesAt sha256 source fp = [] := by
  rw [mem_fingerprints, ne_eq, not_not, linesAt, List.filter_append, List.append_eq_nil_iff, lastAt,
    List.getLast?_eq_none_iff]
  rfl

theorem lineOf_eq_none (newer : Bool) {target source : List Line} {fp : String}
    (h : fp ∉ fingerprints sha256 (target ++ source)) :
    lineOf sha256 newer target source fp = none := by
  obtain ⟨last, lines⟩ := not_mem_fingerprints.mp h
  rw [lineOf, last, lines]
  rfl

variable (sha256) in
/-- The lines of a merged cart, in some order. -/
theorem lines_merged (walk : Walk LineGroup) (target source : Cart) (sourceHLC : Int64)
    (now : Time) :
    (merged sha256 walk target source sourceHLC now).lines.Perm
      ((fingerprints sha256 (target.lines ++ source.lines)).filterMap
        (lineOf sha256 (decide (sourceHLC > target.updatedAtMs)) target.lines source.lines)) := by
  generalize hn : decide (sourceHLC > target.updatedAtMs) = newer
  have all (fp : String) (g : LineGroup)
      (hg : (groups sha256 newer target.lines source.lines).lookup fp = some g) :
      fp ∈ fingerprints sha256 (target.lines ++ source.lines) := by
    by_contra absent
    have missing := lineOf_eq_none newer absent
    rw [lineOf, ← lookup_groups, hg] at missing
    cases missing
  have lines := (walk.perm_filterMap (List.nodup_dedup _) all).map LineGroup.mergedLine
  rw [List.map_filterMap] at lines
  simp only [lookup_groups] at lines
  simp only [merged, hn]
  exact (List.perm_insertionSort _ _).trans lines

theorem advances_merged (walk : Walk LineGroup) (target source : Cart) (sourceHLC : Int64)
    (now : Time) : target.Advances (merged sha256 walk target source sourceHLC now) := by
  unfold merged touch recomputeTotals Cart.touch Cart.recomputeTotals
  constructor <;> dsimp only

theorem totalCents_merged (walk : Walk LineGroup) (target source : Cart) (sourceHLC : Int64)
    (now : Time) :
    (merged sha256 walk target source sourceHLC now).totalCents =
      ((merged sha256 walk target source sourceHLC now).lines.map Line.lineTotal).sum :=
  Cart.totalCents_recomputeTotals _

variable (sha256) in
/-- A line of the merge: it starts from one line, has its snapshot from another, and counts all. -/
theorem lineOf_cases (newer : Bool) (target source : List Line) (fp : String) :
    (baseLine (lastAt sha256 target fp) (linesAt sha256 source fp) = none ∧
      snapshotLine newer (lastAt sha256 target fp) (linesAt sha256 source fp) = none ∧
      lineOf sha256 newer target source fp = none) ∨
    ∃ b s at', baseLine (lastAt sha256 target fp) (linesAt sha256 source fp) = some b ∧
      snapshotLine newer (lastAt sha256 target fp) (linesAt sha256 source fp) = some s ∧
      lineOf sha256 newer target source fp = some { b.takeSnapshot s with
        quantity := ((summedLines (lastAt sha256 target fp) (linesAt sha256 source fp)).map
          Line.quantity).sum
        addedAtMs := at' } := by
  rcases groupOf_cases newer (lastAt sha256 target fp) (linesAt sha256 source fp) with
    ⟨hb, hs, hg⟩ | ⟨b, s, g, hb, hs, hg, line, quantity⟩
  · exact .inl ⟨hb, hs, by rw [lineOf, hg]; rfl⟩
  · exact .inr ⟨b, s, g.addedAtMs, hb, hs, by rw [lineOf, hg, ← line, ← quantity]; rfl⟩

/-! ## Fingerprints that tell items apart -/

variable (sha256) in
/-- Under a newer ghost, a line that takes the modifiers of a ghost line of its fingerprint keeps
the fingerprint. -/
def Interchangeable (newer : Prop) (lines ghost : List Line) : Prop :=
  newer → ∀ x ∈ lines, ∀ y ∈ ghost, lineFingerprint sha256 x = lineFingerprint sha256 y →
    lineFingerprint sha256 (x.takeSnapshot y) = lineFingerprint sha256 x

/-- It does when the fingerprint tells the menu item. -/
theorem interchangeable_of_menuItem {newer : Prop} {lines ghost : List Line}
    (tells : ∀ x ∈ lines, ∀ y ∈ ghost,
      lineFingerprint sha256 x = lineFingerprint sha256 y → x.menuItemID = y.menuItemID) :
    Interchangeable sha256 newer lines ghost := by
  intro _ x hx y hy same
  rw [same]
  exact lineFingerprint_congr (tells x hx y hy same) rfl

theorem mem_linesAt {lines : List Line} {fp : String} {l : Line} :
    l ∈ linesAt sha256 lines fp ↔ l ∈ lines ∧ lineFingerprint sha256 l = fp := by
  simp [linesAt]

theorem linesAt_singleton (l : Line) (fp : String) :
    linesAt sha256 [l] fp = if lineFingerprint sha256 l = fp then [l] else [] := by
  by_cases h : lineFingerprint sha256 l = fp <;> simp [linesAt, h]

/-- The line a group starts from is one of its lines. -/
theorem baseLine_mem {target source : List Line} {fp : String} {b : Line}
    (h : baseLine (lastAt sha256 target fp) (linesAt sha256 source fp) = some b) :
    b ∈ target ++ source ∧ lineFingerprint sha256 b = fp := by
  rw [baseLine, Option.or_eq_some_iff] at h
  rcases h with last | ⟨-, head⟩
  · obtain ⟨hb, fps⟩ := mem_linesAt.mp (List.mem_of_getLast? last)
    exact ⟨List.mem_append_left _ hb, fps⟩
  · obtain ⟨hb, fps⟩ := mem_linesAt.mp (List.mem_of_head? head)
    exact ⟨List.mem_append_right _ hb, fps⟩

theorem fingerprint_kept {target source : List Line} {fp : String} {b s : Line}
    (apart : Interchangeable sha256 (newer = true) (target ++ source) source)
    (hb : baseLine (lastAt sha256 target fp) (linesAt sha256 source fp) = some b)
    (hs : snapshotLine newer (lastAt sha256 target fp) (linesAt sha256 source fp) = some s) :
    lineFingerprint sha256 (b.takeSnapshot s) = fp := by
  obtain ⟨mem, fpb⟩ := baseLine_mem hb
  cases newer with
  | false =>
    rw [snapshotLine, if_neg Bool.false_ne_true, hb] at hs
    cases hs
    exact fpb
  | true =>
    rw [snapshotLine, if_pos rfl, Option.or_eq_some_iff] at hs
    rcases hs with last | ⟨-, last⟩
    · obtain ⟨hs, fps⟩ := mem_linesAt.mp (List.mem_of_getLast? last)
      exact (apart rfl b mem s hs (fpb.trans fps.symm)).trans fpb
    · rw [baseLine, last] at hb
      cases hb
      exact fpb

end CartService
