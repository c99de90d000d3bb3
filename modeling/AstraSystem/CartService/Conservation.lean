import AstraSystem.CartService.Merge

/-!
# What the merge does to the items

The loop over the target overwrites the group of an earlier line, so of several
lines with one fingerprint only the last is counted. A newer ghost line can also
take a group to another fingerprint, and the sum of a group can wrap.
-/

namespace CartService

variable (sha256 : List UInt8 → List UInt8)

/-- The items that lines with a fingerprint hold. -/
def held (lines : List Line) (fp : String) : ℤ :=
  WrappingSum.exact Line.quantity (linesAt sha256 lines fp)

/-- The items on the target's lines with a fingerprint, its last one left out. -/
def dropped (target : List Line) (fp : String) : ℤ :=
  WrappingSum.exact Line.quantity (linesAt sha256 target fp).dropLast

/-- The lines a group adds up. -/
def groupLines (target source : List Line) (fp : String) : List Line :=
  summedLines (lastAt sha256 target fp) (linesAt sha256 source fp)

/-- The items of a group, as 64 bits hold them. -/
def groupItems (target source : List Line) (fp : String) : ℤ :=
  ((groupLines sha256 target source fp).map Line.quantity).sum.toInt

/-- The items of a group that 64 bits do not hold. -/
def wrapped (target source : List Line) (fp : String) : ℤ :=
  WrappingSum.overflow Line.quantity (groupLines sha256 target source fp)

/-- The fingerprint of the line that a group becomes. -/
def destination (newer : Bool) (target source : List Line) (fp : String) : Option String :=
  (baseLine (lastAt sha256 target fp) (linesAt sha256 source fp)).bind fun b =>
    (snapshotLine newer (lastAt sha256 target fp) (linesAt sha256 source fp)).map fun s =>
      lineFingerprint sha256 (b.takeSnapshot s)

def movedOut (newer : Bool) (target source : List Line) (fp : String) : ℤ :=
  if destination sha256 newer target source fp = some fp then 0
  else groupItems sha256 target source fp

def movedIn (newer : Bool) (target source : List Line) (fp : String) : ℤ :=
  (((fingerprints sha256 (target ++ source)).erase fp).map fun other =>
    if destination sha256 newer target source other = some fp
    then groupItems sha256 target source other else 0).sum

/-- What a fingerprint loses, others bring. -/
def Balanced (newer : Bool) (target source : List Line) : Prop :=
  ∀ fp, dropped sha256 target fp + wrapped sha256 target source fp +
    movedOut sha256 newer target source fp = movedIn sha256 newer target source fp

variable {sha256} {newer : Bool}

theorem held_perm {lines lines' : List Line} (h : lines.Perm lines') (fp : String) :
    held sha256 lines fp = held sha256 lines' fp :=
  WrappingSum.exact_perm (h.filter _)

theorem held_append (lines lines' : List Line) (fp : String) :
    held sha256 (lines ++ lines') fp = held sha256 lines fp + held sha256 lines' fp := by
  rw [held, linesAt, List.filter_append, WrappingSum.exact_append]
  rfl

theorem held_filterMap (fps : List String) (line : String → Option Line) (fp : String) :
    held sha256 (fps.filterMap line) fp =
      (fps.map fun other => held sha256 (line other).toList fp).sum := by
  induction fps with
  | nil => rfl
  | cons other fps ih =>
    rw [List.map_cons, List.sum_cons, ← ih, ← held_append, List.filterMap_cons]
    cases line other <;> rfl

theorem held_singleton (l : Line) (fp : String) :
    held sha256 [l] fp = if lineFingerprint sha256 l = fp then l.quantity.toInt else 0 := by
  rw [held, linesAt_singleton]
  split
  · exact add_zero _
  · rfl

/-- The line of a group counts the items of the group at its destination. -/
theorem held_lineOf (target source : List Line) (fp other : String) :
    held sha256 (lineOf sha256 newer target source other).toList fp =
      if destination sha256 newer target source other = some fp
      then groupItems sha256 target source other else 0 := by
  rcases lineOf_cases sha256 newer target source other with
    ⟨hb, hs, hl⟩ | ⟨b, s, at', hb, hs, hl⟩
  · rw [hl, destination, hb]
    rfl
  · have stays : destination sha256 newer target source other =
        some (lineFingerprint sha256 (b.takeSnapshot s)) := by
      rw [destination, hb, hs]
      rfl
    rw [hl, Option.toList_some, held_singleton, stays]
    simp only [Option.some.injEq]
    rfl

/-- The items the merged cart holds are those of the groups that end at the fingerprint. -/
theorem held_merged (walk : Walk LineGroup) (target source : Cart) (sourceHLC : Int64) (now : Time)
    (fp : String) :
    held sha256 (merged sha256 walk target source sourceHLC now).lines fp =
      ((fingerprints sha256 (target.lines ++ source.lines)).map fun other =>
        if destination sha256 (decide (sourceHLC > target.updatedAtMs)) target.lines source.lines
          other = some fp
        then groupItems sha256 target.lines source.lines other else 0).sum := by
  rw [held_perm (lines_merged sha256 walk target source sourceHLC now), held_filterMap]
  simp only [held_lineOf]

/-- A fingerprint's items in the two carts are those dropped, those of its group and those
wrapped. -/
theorem held_add_held (target source : List Line) (fp : String) :
    held sha256 target fp + held sha256 source fp =
      dropped sha256 target fp + wrapped sha256 target source fp +
        groupItems sha256 target source fp := by
  have split : held sha256 target fp = dropped sha256 target fp +
      WrappingSum.exact Line.quantity (lastAt sha256 target fp).toList :=
    WrappingSum.exact_dropLast _
  have group : WrappingSum.exact Line.quantity (groupLines sha256 target source fp) =
      WrappingSum.exact Line.quantity (lastAt sha256 target fp).toList +
        held sha256 source fp := WrappingSum.exact_append _ _
  have whole : wrapped sha256 target source fp + groupItems sha256 target source fp =
      WrappingSum.exact Line.quantity (groupLines sha256 target source fp) := sub_add_cancel _ _
  omega

theorem groupItems_eq_zero {target source : List Line} {fp : String}
    (h : fp ∉ fingerprints sha256 (target ++ source)) : groupItems sha256 target source fp = 0 := by
  obtain ⟨last, lines⟩ := not_mem_fingerprints.mp h
  rw [groupItems, groupLines, last, lines]
  rfl

/-- The groups that end at a fingerprint are its own, unless that moves, and those that move in. -/
theorem sum_groups (target source : List Line) (fp : String) :
    ((fingerprints sha256 (target ++ source)).map fun other =>
      if destination sha256 newer target source other = some fp
      then groupItems sha256 target source other else 0).sum =
      groupItems sha256 target source fp - movedOut sha256 newer target source fp +
        movedIn sha256 newer target source fp := by
  have own : (if destination sha256 newer target source fp = some fp
      then groupItems sha256 target source fp else 0) =
      groupItems sha256 target source fp - movedOut sha256 newer target source fp := by
    rw [movedOut]
    split <;> omega
  by_cases hfp : fp ∈ fingerprints sha256 (target ++ source)
  · rw [← List.sum_map_erase _ hfp, own, movedIn]
  · rw [movedIn, List.erase_of_not_mem hfp, movedOut, groupItems_eq_zero hfp]
    simp

theorem held_merged_iff (walk : Walk LineGroup) (target source : Cart) (sourceHLC : Int64)
    (now : Time) (fp : String) :
    held sha256 (merged sha256 walk target source sourceHLC now).lines fp =
        held sha256 target.lines fp + held sha256 source.lines fp ↔
      dropped sha256 target.lines fp + wrapped sha256 target.lines source.lines fp +
          movedOut sha256 (decide (sourceHLC > target.updatedAtMs)) target.lines source.lines fp =
        movedIn sha256 (decide (sourceHLC > target.updatedAtMs)) target.lines source.lines fp := by
  rw [held_merged, held_add_held, sum_groups]
  constructor <;> intro h <;> omega

/-! ## Carts that commands have built -/

theorem dropped_eq_zero_iff {target : List Line} (positive : ∀ l ∈ target, 0 < l.quantity) :
    (∀ fp, dropped sha256 target fp = 0) ↔ (target.map (lineFingerprint sha256)).Nodup := by
  rw [List.nodup_iff_count_le_one]
  refine forall_congr' fun fp => ?_
  have inside : ∀ l ∈ (linesAt sha256 target fp).dropLast, 0 < l.quantity := fun l hl =>
    positive l (mem_linesAt.mp ((List.dropLast_sublist _).subset hl)).1
  have count : (target.map (lineFingerprint sha256)).count fp =
      (linesAt sha256 target fp).length := by
    rw [List.count_eq_countP, List.countP_map, List.countP_eq_length_filter, linesAt]
    rfl
  rw [dropped, WrappingSum.exact_eq_zero_iff inside, count, ← List.length_eq_zero_iff,
    List.length_dropLast]
  omega

variable (sha256) in
theorem groupLines_sublist (target source : List Line) (fp : String) :
    (groupLines sha256 target source fp).Sublist (target ++ source) := by
  have inside : (linesAt sha256 target fp).Sublist target := List.filter_sublist
  refine List.Sublist.append (.trans ?_ inside) List.filter_sublist
  cases h : (lastAt sha256 target fp) with
  | none => exact List.nil_sublist _
  | some b =>
    rw [Option.toList_some, List.singleton_sublist]
    exact List.mem_of_getLast? h

theorem destination_of_interchangeable {target source : List Line} {fp : String}
    (apart : Interchangeable sha256 (newer = true) (target ++ source) source) :
    destination sha256 newer target source fp =
      (baseLine (lastAt sha256 target fp) (linesAt sha256 source fp)).map fun _ => fp := by
  rcases lineOf_cases sha256 newer target source fp with
    ⟨hb, hs, -⟩ | ⟨b, s, -, hb, hs, -⟩
  · rw [destination, hb]
    rfl
  · rw [destination, hb, hs, Option.map_some, Option.bind_some, Option.map_some,
      fingerprint_kept apart hb hs]

/-- With positive quantities that fit and fingerprints that tell items apart, the merge keeps the
items of exactly the targets whose lines all have different fingerprints. -/
theorem balanced_iff_nodup {target source : List Line}
    (positive : ∀ l ∈ target ++ source, 0 < l.quantity)
    (fits : WrappingSum.exact Line.quantity (target ++ source) < 2 ^ 63)
    (apart : Interchangeable sha256 (newer = true) (target ++ source) source) :
    Balanced sha256 newer target source ↔ (target.map (lineFingerprint sha256)).Nodup := by
  rw [← dropped_eq_zero_iff fun l hl => positive l (List.mem_append_left _ hl)]
  refine forall_congr' fun fp => ?_
  have part := groupLines_sublist sha256 target source fp
  have least := WrappingSum.exact_nonneg fun l hl => positive l (part.subset hl)
  have most := WrappingSum.exact_le_of_sublist part positive
  have none_wrapped : wrapped sha256 target source fp = 0 :=
    WrappingSum.overflow_of_fits (by omega) (by omega)
  have none_out : movedOut sha256 newer target source fp = 0 := by
    rw [movedOut, destination_of_interchangeable apart]
    cases hb : baseLine (lastAt sha256 target fp) (linesAt sha256 source fp) with
    | some b => exact if_pos rfl
    | none =>
      rw [baseLine, Option.or_eq_none_iff, List.head?_eq_none_iff, ← not_mem_fingerprints] at hb
      exact groupItems_eq_zero hb
  have none_in : movedIn sha256 newer target source fp = 0 := by
    refine List.sum_eq_zero ?_
    intro x hx
    obtain ⟨other, ho, rfl⟩ := List.mem_map.mp hx
    have ne : other ≠ fp := ((List.nodup_dedup _).mem_erase_iff.mp ho).1
    rw [destination_of_interchangeable apart, if_neg]
    intro h
    obtain ⟨-, -, same⟩ := Option.map_eq_some_iff.mp h
    exact ne same
  rw [none_wrapped, none_out, none_in, add_zero, add_zero]

/-- Carts that commands have built keep all their items in a merge exactly when no two lines of
the target have the same fingerprint. -/
theorem merged_conserves_iff_nodup (walk : Walk LineGroup) {target source : Cart}
    {sourceHLC : Int64} {now : Time} (ht : target.Sound) (hs : source.Sound)
    (fits : WrappingSum.exact Line.quantity (target.lines ++ source.lines) < 2 ^ 63)
    (apart : Interchangeable sha256 (sourceHLC > target.updatedAtMs) (target.lines ++ source.lines)
      source.lines) :
    (∀ fp, held sha256 (merged sha256 walk target source sourceHLC now).lines fp =
      held sha256 target.lines fp + held sha256 source.lines fp) ↔
      (target.lines.map (lineFingerprint sha256)).Nodup := by
  rw [forall_congr' (held_merged_iff walk target source sourceHLC now)]
  refine balanced_iff_nodup ?_ fits ?_
  · intro l hl
    exact (List.mem_append.mp hl).elim (ht.positive l) (hs.positive l)
  · rwa [decide_eq_true_eq]

/-! ## What `MergeCarts` returns -/

/-- The lines of a cart that may be nil. -/
def linesOf (c : Option Cart) : List Line := c.elim [] Cart.lines

/-- No item of either cart is lost, and none is counted twice. -/
def Conserves (sha256 : List UInt8 → List UInt8) (target source : Option Cart) (res : MergeResult) :
    Prop :=
  ∀ fp, held sha256 res.cart.lines fp =
    held sha256 (linesOf target) fp + held sha256 (linesOf source) fp

theorem mergeCarts_conserves_iff {walk : Walk LineGroup} {target source : Option Cart}
    {sourceHLC : Int64} {now : Time} {res : MergeResult}
    (h : mergeCarts sha256 walk target source sourceHLC now = .ok res) :
    Conserves sha256 target source res ↔
      ∀ t ∈ target, ∀ s ∈ source,
        Balanced sha256 (decide (sourceHLC > t.updatedAtMs)) t.lines s.lines := by
  cases target with
  | none => cases h
  | some t =>
    cases source with
    | none =>
      cases h
      constructor
      · intro _ t _ s hs
        cases hs
      · intro _ fp
        exact (add_zero _).symm
    | some s =>
      cases h
      simp only [Option.mem_some, forall_eq']
      exact forall_congr' (held_merged_iff walk t s sourceHLC now)

/-- A cart to which these lines are added. -/
def cartWith (lines : List Line) : Cart :=
  Runs.run Cart.handle (newCart "cart-1" "store-1" "kiosk-1" "lane-1" "session-1" "" 0)
    (lines.map fun l => (.add l, 0))

theorem sound_cartWith (lines : List Line) : (cartWith lines).Sound :=
  Cart.sound_run (Cart.sound_newCart ..) _

def burger (lineID : String) (quantity : Int64) : Line where
  cartID := "cart-1"
  lineID := lineID
  menuItemID := "item-a"
  nameSnapshot := "Burger"
  unitPriceCentsSnapshot := 500
  quantity := quantity
  modifiers := []
  addedAtMs := 0

theorem mergeCarts_conserves_burgers :
    Conserves id (some (cartWith [burger "line-1" 1])) (some (cartWith [burger "line-2" 2]))
      { cart := merged id (.inOrder _ _) (cartWith [burger "line-1" 1])
          (cartWith [burger "line-2" 2]) 60000 120000000000
        sourceHLC := 60000
        targetHLC := 0
        linesAdded := 1 } := by
  refine (mergeCarts_conserves_iff rfl).mpr ?_
  intro t ht s hs
  cases ht
  cases hs
  refine (balanced_iff_nodup (by decide) (by decide) (interchangeable_of_menuItem ?_)).mpr
    (List.nodup_singleton _)
  have item : ∀ l ∈ [burger "line-1" 1, burger "line-2" 2], l.menuItemID = "item-a" := by decide
  intro x hx y hy _
  exact (item x hx).trans (item y (List.mem_cons_of_mem _ hy)).symm

/-- Of two lines with one fingerprint the merge forgets the first, whatever the hash. -/
theorem mergeCarts_forgets_a_line :
    ¬ ∃ sha256, ∀ walk target source sourceHLC now res,
      mergeCarts sha256 walk target source sourceHLC now = .ok res →
        Conserves sha256 target source res := by
  rintro ⟨sha256, claim⟩
  have conserved := claim (.inOrder _ _) (some (cartWith [burger "line-1" 1, burger "line-2" 2]))
    (some (cartWith [burger "line-3" 4])) 0 0 _ rfl
  have same : lineFingerprint sha256 (burger "line-1" 1) =
    lineFingerprint sha256 (burger "line-2" 2) := lineFingerprint_congr rfl rfl
  have nodup := (merged_conserves_iff_nodup (.inOrder _ _)
    (sound_cartWith [burger "line-1" 1, burger "line-2" 2]) (sound_cartWith [burger "line-3" 4])
    (by decide) (fun newer => absurd newer (by decide))).mp conserved
  exact (List.nodup_cons.mp nodup).1 (List.mem_singleton.mpr same)

end CartService
