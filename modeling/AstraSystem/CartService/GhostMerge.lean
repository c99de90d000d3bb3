import AstraSystem.CartService.Conservation

/-!
# Ghosts merged in either order, and merged twice

The package calls the merge independent of order and idempotent. A merged cart
is read here as a listing: for every fingerprint its quantity and the snapshot
it shows. Merging a ghost adds the ghost's quantities to a listing each time,
and which snapshot is shown depends on a time that every merge moves.
-/

namespace CartService

/-- A line up to its id and its time. -/
structure Item where
  fingerprint : String
  quantity : Int64
  nameSnapshot : String
  unitPriceCentsSnapshot : Int64
  deriving DecidableEq, Repr

structure Snapshot where
  nameSnapshot : String
  unitPriceCentsSnapshot : Int64
  modifiers : List Modifier
  deriving DecidableEq, Repr

def Line.snapshot (l : Line) : Snapshot where
  nameSnapshot := l.nameSnapshot
  unitPriceCentsSnapshot := l.unitPriceCentsSnapshot
  modifiers := l.modifiers

/-- What a quantity costs at a snapshot. -/
def Snapshot.cost (s : Snapshot) (quantity : Int64) : Int64 :=
  let modTotal := s.modifiers.foldl (fun modTotal m => modTotal + m.priceDeltaCentsSnapshot) 0
  quantity * (s.unitPriceCentsSnapshot + modTotal)

/-- The snapshot shown after a ghost's lines of the same fingerprint are merged. -/
def showAfter (newer : Bool) (shown : Option Snapshot) (ghost : List Line) : Option Snapshot :=
  if newer then (ghost.getLast?.map Line.snapshot).or shown
  else shown.or (ghost.head?.map Line.snapshot)

@[ext] structure Listing where
  quantity : String → Int64
  shown : String → Option Snapshot

variable (sha256 : List UInt8 → List UInt8)

def itemOf (l : Line) : Item :=
  ⟨lineFingerprint sha256 l, l.quantity, l.nameSnapshot, l.unitPriceCentsSnapshot⟩

/-- The same lines up to ids and times, at the same total. -/
def SameItems (c c' : Cart) : Prop :=
  (c.lines.map (itemOf sha256)).Perm (c'.lines.map (itemOf sha256)) ∧ c.totalCents = c'.totalCents

/-- The quantity that lines with a fingerprint add. -/
def added (ghost : List Line) (fp : String) : Int64 :=
  ((linesAt sha256 ghost fp).map Line.quantity).sum

namespace Listing

/-- What a merge keeps of its target. -/
def ofLines (target : List Line) : Listing where
  quantity fp := ((lastAt sha256 target fp).toList.map Line.quantity).sum
  shown fp := (lastAt sha256 target fp).map Line.snapshot

def merge (x : Listing) (newer : Bool) (ghost : List Line) : Listing where
  quantity fp := x.quantity fp + added sha256 ghost fp
  shown fp := showAfter newer (x.shown fp) (linesAt sha256 ghost fp)

def item (x : Listing) (fp : String) : Option Item :=
  (x.shown fp).map fun s => ⟨fp, x.quantity fp, s.nameSnapshot, s.unitPriceCentsSnapshot⟩

/-- The name and the price shown for a fingerprint. -/
def label (x : Listing) (fp : String) : Option (String × Int64) :=
  (x.shown fp).map fun s => (s.nameSnapshot, s.unitPriceCentsSnapshot)

def total (x : Listing) (fps : List String) : Int64 :=
  (fps.map fun fp => (x.shown fp).elim 0 fun s => s.cost (x.quantity fp)).sum

end Listing

/-- A cart has one line, or none, for each fingerprint: the one listed. -/
structure Lists (c : Cart) (x : Listing) : Prop where
  snapshots : ∀ fp, (linesAt sha256 c.lines fp).map Line.snapshot = (x.shown fp).toList
  quantities : ∀ fp, ((linesAt sha256 c.lines fp).map Line.quantity).sum = x.quantity fp

variable {sha256} {newer : Bool} {c c' : Cart} {x y : Listing}

theorem Lists.cases (h : Lists sha256 c x) (fp : String) :
    (x.shown fp = none ∧ linesAt sha256 c.lines fp = []) ∨
    ∃ l, linesAt sha256 c.lines fp = [l] ∧ lineFingerprint sha256 l = fp ∧
      x.shown fp = some l.snapshot ∧ x.quantity fp = l.quantity := by
  have snapshots := h.snapshots fp
  have quantities := h.quantities fp
  cases hs : x.shown fp with
  | none =>
    rw [hs, Option.toList_none, List.map_eq_nil_iff] at snapshots
    exact .inl ⟨rfl, snapshots⟩
  | some s =>
    rw [hs, Option.toList_some, List.map_eq_singleton_iff] at snapshots
    obtain ⟨l, lines, rfl⟩ := snapshots
    have mem : l ∈ linesAt sha256 c.lines fp := by rw [lines]; exact List.mem_singleton_self l
    rw [lines, List.map_singleton, List.sum_singleton] at quantities
    exact .inr ⟨l, lines, (mem_linesAt.mp mem).2, rfl, quantities.symm⟩

/-- A merge keeps all of a cart that has one line for each fingerprint. -/
theorem Lists.ofLines (h : Lists sha256 c x) : Listing.ofLines sha256 c.lines = x := by
  refine Listing.ext (funext fun fp => ?_) (funext fun fp => ?_)
  · show (((linesAt sha256 c.lines fp).getLast?.toList).map Line.quantity).sum = x.quantity fp
    rw [← h.quantities fp]
    rcases h.cases fp with ⟨-, lines⟩ | ⟨l, lines, -, -, -⟩ <;> rw [lines] <;> rfl
  · show (linesAt sha256 c.lines fp).getLast?.map Line.snapshot = x.shown fp
    rcases h.cases fp with ⟨hs, lines⟩ | ⟨l, lines, -, hs, -⟩ <;> rw [lines, hs] <;> rfl

/-! ## Comparing two carts by their listings -/

theorem Lists.items (h : Lists sha256 c x) (fp : String) :
    (linesAt sha256 c.lines fp).map (itemOf sha256) = (x.item fp).toList := by
  rcases h.cases fp with ⟨hs, lines⟩ | ⟨l, lines, hl, hs, hq⟩
  · rw [lines, Listing.item, hs]
    rfl
  · rw [lines, Listing.item, hs, hq, List.map_singleton, itemOf, hl]
    rfl

theorem filter_items (lines : List Line) (fp : String) :
    (lines.map (itemOf sha256)).filter (fun i => i.fingerprint = fp) =
      (linesAt sha256 lines fp).map (itemOf sha256) := List.filter_map ..

theorem toList_perm_iff {α : Type*} {o o' : Option α} : o.toList.Perm o'.toList ↔ o = o' := by
  cases o <;> cases o' <;> simp

theorem items_perm_iff (hc : Lists sha256 c x) (hc' : Lists sha256 c' y) :
    (c.lines.map (itemOf sha256)).Perm (c'.lines.map (itemOf sha256)) ↔
      ∀ fp, x.item fp = y.item fp := by
  constructor
  · intro h fp
    have at_fp := h.filter fun i => i.fingerprint = fp
    rwa [filter_items, filter_items, hc.items, hc'.items, toList_perm_iff] at at_fp
  · intro h
    refine List.perm_iff_count.mpr fun i => ?_
    have at_own (lines : List Line) : (lines.map (itemOf sha256)).count i =
        ((linesAt sha256 lines i.fingerprint).map (itemOf sha256)).count i := by
      rw [← filter_items]
      exact (List.count_filter (by simp)).symm
    rw [at_own c.lines, at_own c'.lines, hc.items, hc'.items, h]

theorem totalCents_of_lists (h : Lists sha256 c x)
    (billed : c.totalCents = (c.lines.map Line.lineTotal).sum) {fps : List String}
    (nodup : fps.Nodup) (covers : ∀ fp, x.shown fp ≠ none → fp ∈ fps) :
    c.totalCents = x.total fps := by
  have all (l : Line) (hl : l ∈ c.lines) : lineFingerprint sha256 l ∈ fps := by
    refine covers _ fun hs => ?_
    have mem : l ∈ linesAt sha256 c.lines (lineFingerprint sha256 l) := mem_linesAt.mpr ⟨hl, rfl⟩
    rcases h.cases (lineFingerprint sha256 l) with ⟨-, lines⟩ | ⟨l', -, -, hs', -⟩
    · rw [lines] at mem
      cases mem
    · rw [hs] at hs'
      cases hs'
  rw [billed, WrappingSum.sum_by_key nodup c.lines all, Listing.total]
  congr 1
  refine List.map_congr_left fun fp _ => ?_
  show ((linesAt sha256 c.lines fp).map Line.lineTotal).sum = _
  rcases h.cases fp with ⟨hs, lines⟩ | ⟨l, lines, -, hs, hq⟩
  · rw [lines, hs]
    rfl
  · rw [lines, hs, hq, List.map_singleton, List.sum_singleton]
    rfl

/-! ## A merge adds a ghost to the listing -/

theorem linesAt_filterMap {fps : List String} (nodup : fps.Nodup) {line : String → Option Line}
    (own : ∀ fp l, line fp = some l → lineFingerprint sha256 l = fp) (fp : String) :
    linesAt sha256 (fps.filterMap line) fp = if fp ∈ fps then (line fp).toList else [] := by
  induction fps with
  | nil => rfl
  | cons other fps ih =>
    obtain ⟨fresh, nodup⟩ := List.nodup_cons.mp nodup
    have ih := ih nodup
    rw [List.filterMap_cons]
    by_cases h : fp = other
    · subst h
      rw [if_neg fresh] at ih
      rw [if_pos List.mem_cons_self]
      cases hl : line fp with
      | none => exact ih
      | some l =>
        have here : linesAt sha256 (l :: fps.filterMap line) fp =
            l :: linesAt sha256 (fps.filterMap line) fp :=
          List.filter_cons_of_pos (decide_eq_true (own fp l hl))
        exact here.trans (congrArg (l :: ·) ih)
    · simp only [List.mem_cons, h, false_or]
      rw [← ih]
      cases hl : line other with
      | none => rfl
      | some l =>
        have elsewhere : lineFingerprint sha256 l ≠ fp := fun same =>
          h (same.symm.trans (own other l hl))
        exact List.filter_cons_of_neg (by simpa using elsewhere)

/-- A group's line has the fingerprint of the group. -/
theorem lineFingerprint_lineOf {target source : List Line} {fp : String} {l : Line}
    (apart : Interchangeable sha256 (newer = true) (target ++ source) source)
    (h : lineOf sha256 newer target source fp = some l) : lineFingerprint sha256 l = fp := by
  rcases lineOf_cases sha256 newer target source fp with
    ⟨-, -, none⟩ | ⟨b, s, at', hb, hs, hl⟩
  · rw [none] at h
    cases h
  · rw [hl, Option.some.injEq] at h
    rw [← fingerprint_kept apart hb hs, ← h]
    rfl

theorem linesAt_merged (walk : Walk LineGroup) {target source : Cart} {sourceHLC : Int64}
    (now : Time)
    (apart : Interchangeable sha256 (sourceHLC > target.updatedAtMs) (target.lines ++ source.lines)
      source.lines) (fp : String) :
    linesAt sha256 (merged sha256 walk target source sourceHLC now).lines fp =
      (lineOf sha256 (decide (sourceHLC > target.updatedAtMs)) target.lines source.lines fp).toList
        := by
  have apart' : Interchangeable sha256 (decide (sourceHLC > target.updatedAtMs) = true)
      (target.lines ++ source.lines) source.lines := by rwa [decide_eq_true_eq]
  have lines : (linesAt sha256 (merged sha256 walk target source sourceHLC now).lines fp).Perm
      (lineOf sha256 (decide (sourceHLC > target.updatedAtMs)) target.lines source.lines fp).toList
      := by
    have perm := (lines_merged sha256 walk target source sourceHLC now).filter
      fun l => lineFingerprint sha256 l = fp
    refine perm.trans (List.Perm.of_eq ?_)
    refine (linesAt_filterMap (List.nodup_dedup _)
      (fun fp l h => lineFingerprint_lineOf apart' h) fp).trans ?_
    split
    · rfl
    · rename_i absent
      rw [lineOf_eq_none _ absent]
      rfl
  cases hl : lineOf sha256 (decide (sourceHLC > target.updatedAtMs)) target.lines source.lines fp with
  | none =>
    rw [hl] at lines
    exact lines.eq_nil
  | some l =>
    rw [hl] at lines
    exact List.perm_singleton.mp lines

theorem snapshot_snapshotLine (newer : Bool) (last : Option Line) (source : List Line) :
    (snapshotLine newer last source).map Line.snapshot =
      showAfter newer (last.map Line.snapshot) source := by
  cases newer <;> simp [snapshotLine, baseLine, showAfter, Option.map_or]

/-- A merged cart lists what its target keeps, with the ghost added. -/
theorem lists_merged (walk : Walk LineGroup) {target source : Cart} {sourceHLC : Int64}
    (now : Time)
    (apart : Interchangeable sha256 (sourceHLC > target.updatedAtMs) (target.lines ++ source.lines)
      source.lines) :
    Lists sha256 (merged sha256 walk target source sourceHLC now)
      ((Listing.ofLines sha256 target.lines).merge sha256
        (decide (sourceHLC > target.updatedAtMs)) source.lines) := by
  generalize hn : decide (sourceHLC > target.updatedAtMs) = newer
  have at_fp (fp : String) := linesAt_merged walk now apart fp
  rw [hn] at at_fp
  constructor
  · intro fp
    show _ = (showAfter newer ((lastAt sha256 target.lines fp).map Line.snapshot) _).toList
    rw [at_fp, ← snapshot_snapshotLine]
    rcases lineOf_cases sha256 newer target.lines source.lines fp with
      ⟨-, hs, hl⟩ | ⟨b, s, at', -, hs, hl⟩ <;> rw [hs, hl] <;> rfl
  · intro fp
    have summed : ((Listing.ofLines sha256 target.lines).merge sha256 newer source.lines).quantity fp
        = ((summedLines (lastAt sha256 target.lines fp) (linesAt sha256 source.lines fp)).map
          Line.quantity).sum := by
      rw [summedLines, List.map_append, List.sum_append]
      rfl
    rw [at_fp, summed]
    rcases lineOf_cases sha256 newer target.lines source.lines fp with
      ⟨hb, -, hl⟩ | ⟨b, s, at', -, -, hl⟩
    · rw [baseLine, Option.or_eq_none_iff, List.head?_eq_none_iff] at hb
      rw [hl, hb.1, hb.2]
      rfl
    · rw [hl, Option.toList_some, List.map_singleton, List.sum_singleton]

/-! ## Two merges -/

theorem Interchangeable.mono {newer newer' : Prop} {lines lines' ghost : List Line}
    (h : Interchangeable sha256 newer lines ghost) (hn : newer' → newer) (hl : lines' ⊆ lines) :
    Interchangeable sha256 newer' lines' ghost :=
  fun late a ha b hb => h (hn late) a (hl ha) b hb

/-- A line of a merged cart has the menu item and the fingerprint of a line merged. -/
theorem merged_line (walk : Walk LineGroup) {target source : Cart} {sourceHLC : Int64} {now : Time}
    (apart : Interchangeable sha256 (sourceHLC > target.updatedAtMs) (target.lines ++ source.lines)
      source.lines) {l : Line}
    (hl : l ∈ (merged sha256 walk target source sourceHLC now).lines) :
    ∃ b ∈ target.lines ++ source.lines, l.menuItemID = b.menuItemID ∧
      lineFingerprint sha256 l = lineFingerprint sha256 b := by
  obtain ⟨fp, -, hfp⟩ := List.mem_filterMap.mp
    ((lines_merged sha256 walk target source sourceHLC now).mem_iff.mp hl)
  have kept := lineFingerprint_lineOf (by rwa [decide_eq_true_eq]) hfp
  rcases lineOf_cases sha256 (decide (sourceHLC > target.updatedAtMs)) target.lines
    source.lines fp with ⟨-, -, none⟩ | ⟨b, s, at', hb, -, some⟩
  · rw [none] at hfp
    cases hfp
  · obtain ⟨mem, fpb⟩ := baseLine_mem hb
    rw [some, Option.some.injEq] at hfp
    exact ⟨b, mem, by rw [← hfp]; rfl, kept.trans fpb.symm⟩

theorem interchangeable_merged (walk : Walk LineGroup) {target source : Cart} {sourceHLC : Int64}
    {now : Time} {newer : Prop} {ghost : List Line}
    (apart : Interchangeable sha256 (sourceHLC > target.updatedAtMs) (target.lines ++ source.lines)
      source.lines)
    (apart' : Interchangeable sha256 newer (target.lines ++ source.lines ++ ghost) ghost) :
    Interchangeable sha256 newer
      ((merged sha256 walk target source sourceHLC now).lines ++ ghost) ghost := by
  intro late a ha b hb same
  rcases List.mem_append.mp ha with old | new
  · obtain ⟨base, mem, item, fp⟩ := merged_line walk apart old
    have keeps := apart' late base (List.mem_append_left _ mem) b hb (fp.symm.trans same)
    rw [fp, ← keeps]
    exact lineFingerprint_congr item rfl
  · exact apart' late a (List.mem_append_right _ new) b hb same

/-- A ghost cart with its HLC. -/
structure Ghost where
  cart : Cart
  hlc : Int64

namespace Listing

variable (sha256) in
/-- What a target lists after it has merged a ghost. -/
def afterOne (t : Cart) (g : Ghost) : Listing :=
  (Listing.ofLines sha256 t.lines).merge sha256 (decide (g.hlc > t.updatedAtMs)) g.cart.lines

variable (sha256) in
/-- What it lists after a second ghost, the first one merged at `now`. -/
def afterTwo (t : Cart) (g : Ghost) (now : Time) (g' : Ghost) : Listing :=
  (afterOne sha256 t g).merge sha256 (decide (g'.hlc > Time.unixMilli now)) g'.cart.lines

theorem shown_afterTwo (t : Cart) (g : Ghost) (now : Time) (g' : Ghost) (fp : String) :
    (afterTwo sha256 t g now g').shown fp =
      showAfter (decide (g'.hlc > Time.unixMilli now))
        (showAfter (decide (g.hlc > t.updatedAtMs)) ((lastAt sha256 t.lines fp).map Line.snapshot)
          (linesAt sha256 g.cart.lines fp)) (linesAt sha256 g'.cart.lines fp) := rfl

end Listing

theorem lists_twice (walk walk' : Walk LineGroup) {t : Cart} {g g' : Ghost} (now now' : Time)
    (apart : Interchangeable sha256 (g.hlc > t.updatedAtMs) (t.lines ++ g.cart.lines) g.cart.lines)
    (apart' : Interchangeable sha256 (g'.hlc > Time.unixMilli now)
      (t.lines ++ g.cart.lines ++ g'.cart.lines) g'.cart.lines) :
    Lists sha256
      (merged sha256 walk' (merged sha256 walk t g.cart g.hlc now) g'.cart g'.hlc now')
      (Listing.afterTwo sha256 t g now g') := by
  have second : Lists sha256
      (merged sha256 walk' (merged sha256 walk t g.cart g.hlc now) g'.cart g'.hlc now') _ :=
    lists_merged walk' now' (interchangeable_merged walk apart apart')
  rwa [(lists_merged walk now apart).ofLines] at second

/-! ## When two orders, and two merges of one ghost, agree -/

variable (sha256) in
/-- The fingerprints a listing shows are among these lines'. -/
def Covers (lines : List Line) (x : Listing) : Prop :=
  ∀ fp, x.shown fp ≠ none → fp ∈ fingerprints sha256 lines

theorem covers_ofLines {lines target : List Line} (h : target ⊆ lines) :
    Covers sha256 lines (.ofLines sha256 target) := by
  intro fp shown
  obtain ⟨s, hs⟩ := Option.ne_none_iff_exists'.mp shown
  obtain ⟨l, last, -⟩ := Option.map_eq_some_iff.mp hs
  obtain ⟨mem, hfp⟩ := mem_linesAt.mp (List.mem_of_getLast? last)
  exact mem_fingerprints.mpr (List.ne_nil_of_mem (mem_linesAt.mpr ⟨h mem, hfp⟩))

theorem covers_merge {lines ghost : List Line} (hx : Covers sha256 lines x) (h : ghost ⊆ lines) :
    Covers sha256 lines (x.merge sha256 newer ghost) := by
  intro fp shown
  by_cases old : x.shown fp = none
  · have some_line : linesAt sha256 ghost fp ≠ [] := by
      intro no_line
      refine shown ?_
      show showAfter newer (x.shown fp) (linesAt sha256 ghost fp) = none
      rw [old, no_line]
      cases newer <;> rfl
    obtain ⟨l, hl⟩ := List.exists_mem_of_ne_nil _ some_line
    obtain ⟨mem, hfp⟩ := mem_linesAt.mp hl
    exact mem_fingerprints.mpr (List.ne_nil_of_mem (mem_linesAt.mpr ⟨h mem, hfp⟩))
  · exact hx fp old

theorem sameItems_iff {lines : List Line} (hc : Lists sha256 c x) (hc' : Lists sha256 c' y)
    (billed : c.totalCents = (c.lines.map Line.lineTotal).sum)
    (billed' : c'.totalCents = (c'.lines.map Line.lineTotal).sum)
    (covers : Covers sha256 lines x) (covers' : Covers sha256 lines y) :
    SameItems sha256 c c' ↔ (∀ fp, x.item fp = y.item fp) ∧
      x.total (fingerprints sha256 lines) = y.total (fingerprints sha256 lines) := by
  rw [SameItems, items_perm_iff hc hc', totalCents_of_lists hc billed (List.nodup_dedup _) covers,
    totalCents_of_lists hc' billed' (List.nodup_dedup _) covers']
  rfl

variable (sha256) in
/-- Two listings show the same names and prices, and come to the same total. -/
def SameLabels (lines : List Line) (x y : Listing) : Prop :=
  (∀ fp, x.label fp = y.label fp) ∧
    x.total (fingerprints sha256 lines) = y.total (fingerprints sha256 lines)

theorem item_eq_iff {fp : String} (quantity : x.quantity fp = y.quantity fp) :
    x.item fp = y.item fp ↔ x.label fp = y.label fp := by
  rw [Listing.item, Listing.item, Listing.label, Listing.label, quantity]
  cases x.shown fp <;> cases y.shown fp <;> simp

variable (sha256) in
/-- Two ghosts show the same names, prices and total in either order. -/
def OrderFree (t : Cart) (g₁ g₂ : Ghost) (now₁ now₂ : Time) : Prop :=
  SameLabels sha256 (t.lines ++ g₁.cart.lines ++ g₂.cart.lines)
    (.afterTwo sha256 t g₁ now₁ g₂) (.afterTwo sha256 t g₂ now₂ g₁)

variable (sha256) in
/-- A ghost adds nothing, and is not for the first time newer than the merge at `now`. -/
def Repeatable (t : Cart) (g : Ghost) (now : Time) : Prop :=
  (∀ fp, added sha256 g.cart.lines fp = 0) ∧
    (g.hlc > Time.unixMilli now → ¬ g.hlc > t.updatedAtMs →
      SameLabels sha256 (t.lines ++ g.cart.lines)
        (.afterTwo sha256 t g now g) (.afterOne sha256 t g))

theorem sameItems_orders_iff (w₁ w₂ w₃ w₄ : Walk LineGroup) {t : Cart} {g₁ g₂ : Ghost}
    {n₁ n₂ m₁ m₂ : Time}
    (apart₁ : Interchangeable sha256 (g₁.hlc > t.updatedAtMs ∨ g₁.hlc > Time.unixMilli m₁)
      (t.lines ++ g₁.cart.lines ++ g₂.cart.lines) g₁.cart.lines)
    (apart₂ : Interchangeable sha256 (g₂.hlc > t.updatedAtMs ∨ g₂.hlc > Time.unixMilli n₁)
      (t.lines ++ g₁.cart.lines ++ g₂.cart.lines) g₂.cart.lines) :
    SameItems sha256
        (merged sha256 w₂ (merged sha256 w₁ t g₁.cart g₁.hlc n₁) g₂.cart g₂.hlc n₂)
        (merged sha256 w₄ (merged sha256 w₃ t g₂.cart g₂.hlc m₁) g₁.cart g₁.hlc m₂) ↔
      OrderFree sha256 t g₁ g₂ n₁ m₁ := by
  have target : t.lines ⊆ t.lines ++ g₁.cart.lines ++ g₂.cart.lines :=
    List.subset_append_of_subset_left _ (List.subset_append_left _ _)
  have ghost₁ : g₁.cart.lines ⊆ t.lines ++ g₁.cart.lines ++ g₂.cart.lines :=
    List.subset_append_of_subset_left _ (List.subset_append_right _ _)
  have ghost₂ : g₂.cart.lines ⊆ t.lines ++ g₁.cart.lines ++ g₂.cart.lines :=
    List.subset_append_right _ _
  have in₁ := List.append_subset.mpr ⟨target, ghost₁⟩
  have in₂ := List.append_subset.mpr ⟨target, ghost₂⟩
  have swap := List.append_subset.mpr ⟨in₂, ghost₁⟩
  have one := lists_twice w₁ w₂ n₁ n₂ (apart₁.mono .inl in₁) (apart₂.mono .inr (.refl _))
  have two := lists_twice w₃ w₄ m₁ m₂ (apart₂.mono .inl in₂) (apart₁.mono .inr swap)
  have covers_one : Covers sha256 (t.lines ++ g₁.cart.lines ++ g₂.cart.lines)
      (.afterTwo sha256 t g₁ n₁ g₂) :=
    covers_merge (covers_merge (covers_ofLines target) ghost₁) ghost₂
  have covers_two : Covers sha256 (t.lines ++ g₁.cart.lines ++ g₂.cart.lines)
      (.afterTwo sha256 t g₂ m₁ g₁) :=
    covers_merge (covers_merge (covers_ofLines target) ghost₂) ghost₁
  rw [sameItems_iff one two (totalCents_merged ..) (totalCents_merged ..) covers_one covers_two,
    OrderFree, SameLabels]
  refine and_congr (forall_congr' fun fp => item_eq_iff ?_) Iff.rfl
  -- both orders add the same two numbers
  exact add_right_comm _ _ _

theorem showAfter_again {again : Bool} (h : again = true → newer = true) (shown : Option Snapshot)
    (ghost : List Line) :
    showAfter again (showAfter newer shown ghost) ghost = showAfter newer shown ghost := by
  cases ghost with
  | nil => cases again <;> cases newer <;> simp [showAfter]
  | cons l ghost =>
    cases again with
    | false => cases newer <;> cases shown <;> simp [showAfter, List.getLast?_cons]
    | true =>
      cases h rfl
      simp [showAfter, List.getLast?_cons]

/-- A ghost merged again leaves an item only if it adds nothing to it. -/
theorem added_of_item_eq {again : Bool} {ghost : List Line} {fp : String}
    (h : ((x.merge sha256 newer ghost).merge sha256 again ghost).item fp =
      (x.merge sha256 newer ghost).item fp) : added sha256 ghost fp = 0 := by
  cases lines : linesAt sha256 ghost fp with
  | nil =>
    rw [added, lines]
    rfl
  | cons l rest =>
    have shown : ∃ s, (x.merge sha256 newer ghost).shown fp = some s := by
      show ∃ s, showAfter newer (x.shown fp) (linesAt sha256 ghost fp) = some s
      rw [lines]
      cases newer <;> cases hx : x.shown fp <;> simp [showAfter, List.getLast?_cons]
    obtain ⟨s, hs⟩ := shown
    rw [Listing.item, Listing.item, hs] at h
    obtain ⟨s', -, same⟩ := Option.map_eq_some_iff.mp h
    have quantity : (x.merge sha256 newer ghost).quantity fp + added sha256 ghost fp =
        (x.merge sha256 newer ghost).quantity fp := congrArg Item.quantity same
    exact Int64.add_eq_left.mp quantity

theorem sameItems_again_iff (w₁ w₂ : Walk LineGroup) {t : Cart} {g : Ghost} {n k : Time}
    (apart : Interchangeable sha256 (g.hlc > t.updatedAtMs ∨ g.hlc > Time.unixMilli n)
      (t.lines ++ g.cart.lines) g.cart.lines) :
    SameItems sha256
        (merged sha256 w₂ (merged sha256 w₁ t g.cart g.hlc n) g.cart g.hlc k)
        (merged sha256 w₁ t g.cart g.hlc n) ↔
      Repeatable sha256 t g n := by
  have twice := List.append_subset.mpr
    ⟨.refl (t.lines ++ g.cart.lines), List.subset_append_right t.lines g.cart.lines⟩
  have first := apart.mono Or.inl (.refl _)
  have one : Lists sha256 _ (.afterOne sha256 t g) := lists_merged w₁ n first
  have two := lists_twice w₁ w₂ n k first (apart.mono Or.inr twice)
  have covers_one : Covers sha256 (t.lines ++ g.cart.lines) (.afterOne sha256 t g) :=
    covers_merge (covers_ofLines (List.subset_append_left _ _)) (List.subset_append_right _ _)
  have covers_two : Covers sha256 (t.lines ++ g.cart.lines) (.afterTwo sha256 t g n g) :=
    covers_merge covers_one (List.subset_append_right _ _)
  rw [sameItems_iff two one (totalCents_merged ..) (totalCents_merged ..) covers_two covers_one]
  constructor
  · rintro ⟨items, totals⟩
    have zero (fp : String) : added sha256 g.cart.lines fp = 0 := added_of_item_eq (items fp)
    refine ⟨zero, fun _ _ => ⟨fun fp => (item_eq_iff ?_).mp (items fp), totals⟩⟩
    exact (congrArg _ (zero fp)).trans (add_zero _)
  · rintro ⟨zero, labels⟩
    have quantity (fp : String) : (Listing.afterTwo sha256 t g n g).quantity fp =
        (Listing.afterOne sha256 t g).quantity fp := (congrArg _ (zero fp)).trans (add_zero _)
    by_cases late : g.hlc > Time.unixMilli n → g.hlc > t.updatedAtMs
    · have same : Listing.afterTwo sha256 t g n g = .afterOne sha256 t g := by
        refine Listing.ext (funext quantity) (funext fun fp => showAfter_again ?_ _ _)
        simpa only [decide_eq_true_eq] using late
      rw [same]
      exact ⟨fun _ => rfl, rfl⟩
    · rw [Classical.not_imp] at late
      have agree := labels late.1 late.2
      exact ⟨fun fp => (item_eq_iff (quantity fp)).mpr (agree.1 fp), agree.2⟩

/-! ## Ghosts that commands have built -/

theorem showAfter_nil (newer : Bool) (shown : Option Snapshot) :
    showAfter newer shown [] = shown := by
  cases newer
  · exact Option.or_none
  · rfl

theorem merge_no_lines (x : Listing) (newer : Bool) : x.merge sha256 newer [] = x :=
  Listing.ext (funext fun _ => Int64.add_zero _) (funext fun _ => showAfter_nil newer _)

/-- A ghost of positive quantities can be merged twice only if it is empty. -/
theorem repeatable_iff_no_lines {t : Cart} {g : Ghost} {now : Time} (sound : g.cart.Sound)
    (fits : WrappingSum.exact Line.quantity g.cart.lines < 2 ^ 63) :
    Repeatable sha256 t g now ↔ g.cart.lines = [] := by
  constructor
  · intro h
    by_contra some_line
    obtain ⟨l, hl⟩ := List.exists_mem_of_ne_nil _ some_line
    have part : (linesAt sha256 g.cart.lines (lineFingerprint sha256 l)).Sublist g.cart.lines :=
      List.filter_sublist
    have positive := fun l hl => sound.positive l (part.subset hl)
    have least := WrappingSum.exact_nonneg positive
    have most := WrappingSum.exact_le_of_sublist part sound.positive
    have zero := congrArg Int64.toInt (h.1 (lineFingerprint sha256 l))
    rw [added, WrappingSum.toInt_sum_of_fits (by omega) (by omega), Int64.toInt_zero,
      WrappingSum.exact_eq_zero_iff positive] at zero
    exact List.ne_nil_of_mem (mem_linesAt.mpr ⟨hl, rfl⟩) zero
  · intro none
    refine ⟨fun fp => ?_, fun _ _ => ?_⟩
    · rw [none]
      rfl
    · rw [Listing.afterTwo, none, merge_no_lines]
      exact ⟨fun _ => rfl, rfl⟩

/-- Empty ghosts may come in either order. -/
theorem orderFree_of_no_lines {t : Cart} {g₁ g₂ : Ghost} {n₁ m₁ : Time}
    (none₁ : g₁.cart.lines = []) (none₂ : g₂.cart.lines = []) :
    OrderFree sha256 t g₁ g₂ n₁ m₁ := by
  rw [OrderFree, Listing.afterTwo, Listing.afterTwo, Listing.afterOne, Listing.afterOne, none₁,
    none₂, merge_no_lines, merge_no_lines, merge_no_lines, merge_no_lines]
  exact ⟨fun _ => rfl, rfl⟩

/-- Any two ghosts, in either order, and a ghost merged again. -/
theorem ghostMerge_crdt_iff (w₁ w₂ w₃ w₄ w₅ : Walk LineGroup) (t : Cart) (g₁ g₂ : Ghost)
    (n₁ n₂ m₁ m₂ k : Time)
    (apart₁ : Interchangeable sha256
      (g₁.hlc > t.updatedAtMs ∨ g₁.hlc > Time.unixMilli n₁ ∨ g₁.hlc > Time.unixMilli m₁)
      (t.lines ++ g₁.cart.lines ++ g₂.cart.lines) g₁.cart.lines)
    (apart₂ : Interchangeable sha256 (g₂.hlc > t.updatedAtMs ∨ g₂.hlc > Time.unixMilli n₁)
      (t.lines ++ g₁.cart.lines ++ g₂.cart.lines) g₂.cart.lines) :
    (SameItems sha256
        (merged sha256 w₂ (merged sha256 w₁ t g₁.cart g₁.hlc n₁) g₂.cart g₂.hlc n₂)
        (merged sha256 w₄ (merged sha256 w₃ t g₂.cart g₂.hlc m₁) g₁.cart g₁.hlc m₂) ↔
      OrderFree sha256 t g₁ g₂ n₁ m₁) ∧
    (SameItems sha256
        (merged sha256 w₅ (merged sha256 w₁ t g₁.cart g₁.hlc n₁) g₁.cart g₁.hlc k)
        (merged sha256 w₁ t g₁.cart g₁.hlc n₁) ↔
      Repeatable sha256 t g₁ n₁) := by
  constructor
  · refine sameItems_orders_iff w₁ w₂ w₃ w₄ (apart₁.mono ?_ (.refl _)) apart₂
    exact Or.imp_right .inr
  · refine sameItems_again_iff w₁ w₅ (apart₁.mono ?_ (List.subset_append_left _ _))
    exact Or.imp_right .inl

/-- Burgers merge alike in either order, but a ghost's two burgers count again when repeated. -/
theorem ghostMerge_crdt_burgers :
    let t := cartWith [burger "line-1" 1]
    let g₁ : Ghost := ⟨cartWith [burger "line-2" 2], 30000⟩
    let g₂ : Ghost := ⟨cartWith [burger "line-3" 4], 30000⟩
    let merge (t : Cart) (g : Ghost) : Cart :=
      merged id (.inOrder _ _) t g.cart g.hlc 60000000000
    SameItems id (merge (merge t g₁) g₂) (merge (merge t g₂) g₁) ∧
      ¬ SameItems id (merge (merge t g₁) g₁) (merge t g₁) := by
  intro t g₁ g₂ merge
  have lines : t.lines = [burger "line-1" 1] := rfl
  have lines₁ : g₁.cart.lines = [burger "line-2" 2] := rfl
  have lines₂ : g₂.cart.lines = [burger "line-3" 4] := rfl
  have item : ∀ l ∈ t.lines ++ g₁.cart.lines ++ g₂.cart.lines, l.menuItemID = "item-a" := by decide
  have apart (newer : Prop) (ghost : List Line)
      (h : ghost ⊆ t.lines ++ g₁.cart.lines ++ g₂.cart.lines) :
      Interchangeable id newer (t.lines ++ g₁.cart.lines ++ g₂.cart.lines) ghost :=
    interchangeable_of_menuItem fun a ha b hb _ => (item a ha).trans (item b (h hb)).symm
  obtain ⟨orders, again⟩ := ghostMerge_crdt_iff (.inOrder _ _) (.inOrder _ _) (.inOrder _ _)
    (.inOrder _ _) (.inOrder _ _) t g₁ g₂ 60000000000 60000000000 60000000000 60000000000
    60000000000 (apart _ _ (by decide)) (apart _ _ (by decide))
  constructor
  · refine orders.mpr ?_
    have one_item : lineFingerprint id (burger "line-1" 1) = lineFingerprint id (burger "line-2" 2) ∧
      lineFingerprint id (burger "line-1" 1) = lineFingerprint id (burger "line-3" 4) := ⟨rfl, rfl⟩
    -- whichever line a snapshot comes from, it is the same snapshot
    have shows (a b a' b' : Bool) (fp : String) :
        showAfter a (showAfter b ((lastAt id t.lines fp).map Line.snapshot)
          (linesAt id g₁.cart.lines fp)) (linesAt id g₂.cart.lines fp) =
        showAfter a' (showAfter b' ((lastAt id t.lines fp).map Line.snapshot)
          (linesAt id g₂.cart.lines fp)) (linesAt id g₁.cart.lines fp) := by
      rw [lastAt, lines, lines₁, lines₂]
      simp only [linesAt_singleton, ← one_item.1, ← one_item.2]
      cases a <;> cases b <;> cases a' <;> cases b' <;> split <;> rfl
    have same : Listing.afterTwo id t g₁ 60000000000 g₂ = .afterTwo id t g₂ 60000000000 g₁ := by
      refine Listing.ext (funext fun fp => add_right_comm _ _ _) (funext fun fp => ?_)
      rw [Listing.shown_afterTwo, Listing.shown_afterTwo]
      exact shows _ _ _ _ fp
    rw [OrderFree, same]
    exact ⟨fun _ => rfl, rfl⟩
  · intro repeated
    have none := (again.mp repeated).1 (lineFingerprint id (burger "line-2" 2))
    rw [added, lines₁, linesAt_singleton, if_pos rfl] at none
    cases none

/-- The burger of a later menu. -/
def bigBurger (lineID : String) (quantity : Int64) : Line :=
  { burger lineID quantity with nameSnapshot := "Big Burger", unitPriceCentsSnapshot := 600 }

/-- Of two ghosts that are not newer the first one names and prices the item, and a repeated one
counts again, whatever the hash. -/
theorem ghosts_show_order_and_repetition :
    ¬ ∃ sha256 walk,
      let t := cartWith []
      let g₁ : Ghost := ⟨cartWith [burger "line-1" 1], 0⟩
      let g₂ : Ghost := ⟨cartWith [bigBurger "line-2" 2], 0⟩
      let merge (t : Cart) (g : Ghost) : Cart := merged sha256 walk t g.cart g.hlc 0
      SameItems sha256 (merge (merge t g₁) g₂) (merge (merge t g₂) g₁) ∨
        SameItems sha256 (merge (merge t g₁) g₁) (merge t g₁) := by
  rintro ⟨sha256, walk, same⟩
  generalize ht : cartWith [] = t at same
  generalize hg₁ : (⟨cartWith [burger "line-1" 1], 0⟩ : Ghost) = g₁ at same
  generalize hg₂ : (⟨cartWith [bigBurger "line-2" 2], 0⟩ : Ghost) = g₂ at same
  have lines : t.lines = [] := by rw [← ht]; rfl
  have lines₁ : g₁.cart.lines = [burger "line-1" 1] := by rw [← hg₁]; rfl
  have lines₂ : g₂.cart.lines = [bigBurger "line-2" 2] := by rw [← hg₂]; rfl
  have now₁ : ¬ (g₁.hlc > t.updatedAtMs ∨ g₁.hlc > Time.unixMilli 0) := by
    rw [← ht, ← hg₁]; decide
  have now₂ : ¬ (g₂.hlc > t.updatedAtMs ∨ g₂.hlc > Time.unixMilli 0) := by
    rw [← ht, ← hg₂]; decide
  have item : lineFingerprint sha256 (burger "line-1" 1) =
    lineFingerprint sha256 (bigBurger "line-2" 2) := lineFingerprint_congr rfl rfl
  rcases same with orders | again
  · have labels := ((sameItems_orders_iff walk walk walk walk (fun late => absurd late now₁)
      (fun late => absurd late now₂)).mp orders).1 (lineFingerprint sha256 (burger "line-1" 1))
    rw [not_or] at now₁ now₂
    rw [Listing.label, Listing.label, Listing.shown_afterTwo, Listing.shown_afterTwo, lastAt, lines,
      lines₁, lines₂, linesAt_singleton, linesAt_singleton, if_pos rfl, if_pos item.symm] at labels
    simp [now₁, now₂, showAfter, linesAt, burger, bigBurger, Line.snapshot] at labels
  · have none := ((sameItems_again_iff walk walk fun late => absurd late now₁).mp again).1
      (lineFingerprint sha256 (burger "line-1" 1))
    rw [added, lines₁, linesAt_singleton, if_pos rfl] at none
    cases none

end CartService
