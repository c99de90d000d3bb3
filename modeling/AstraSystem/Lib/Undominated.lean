import Mathlib.Data.List.Forall2
import Mathlib.Data.List.Nodup
import Mathlib.Order.Defs.Unbundled

/-!
# Elements that nothing dominates

A list that drops an element only where it keeps one above it has the same
undominated elements as the whole collection it came from.
-/

namespace Undominated

variable {α : Type*}

/-- The elements of `l` with nothing of `l` above them, `above y x` reading "y is above x". -/
def undominated (above : α → α → Bool) (l : List α) : List α :=
  l.filter fun x => !l.any fun y => above y x

/-- `kept` comes from `all` and has, for each element it misses, one above it. -/
structure Covers (above : α → α → Bool) (kept all : List α) : Prop where
  sub : ∀ x ∈ kept, x ∈ all
  cover : ∀ x ∈ all, x ∈ kept ∨ ∃ y ∈ kept, above y x = true

variable {above : α → α → Bool} {kept all : List α}

theorem mem_undominated {l : List α} {x : α} :
    x ∈ undominated above l ↔ x ∈ l ∧ ∀ y ∈ l, above y x = false := by
  simp [undominated]

theorem mem_undominated_of_covers (trans : ∀ x y z, above x y → above y z → above x z)
    (h : Covers above kept all) {x : α} :
    x ∈ undominated above kept ↔ x ∈ undominated above all := by
  rw [mem_undominated, mem_undominated]
  constructor
  · rintro ⟨hx, top⟩
    refine ⟨h.sub x hx, ?_⟩
    intro y hy
    cases h.cover y hy with
    | inl kept => exact top y kept
    | inr covered =>
      -- what is above `y` is kept, so `y` above `x` would put it above `x` too
      obtain ⟨z, hz, hzy⟩ := covered
      rw [Bool.eq_false_iff]
      intro hyx
      exact absurd (trans z y x hzy hyx) (Bool.eq_false_iff.mp (top z hz))
  · rintro ⟨hx, top⟩
    have hk : x ∈ kept := by
      cases h.cover x hx with
      | inl kept => exact kept
      | inr covered =>
        obtain ⟨y, hy, hyx⟩ := covered
        rw [top y (h.sub y hy)] at hyx; cases hyx
    exact ⟨hk, fun y hy => top y (h.sub y hy)⟩

/-- Without repetitions the two have the same undominated elements, up to order. -/
theorem perm_of_covers (trans : ∀ x y z, above x y → above y z → above x z)
    (h : Covers above kept all) (hk : kept.Nodup) (ha : all.Nodup) :
    (undominated above kept).Perm (undominated above all) :=
  (List.perm_ext_iff_of_nodup (hk.filter _) (ha.filter _)).mpr fun _ =>
    mem_undominated_of_covers trans h

/-! ## Two lists, one after the other -/

section
variable {κ : Type*} [DecidableEq κ] (key : α → κ)

/-- An element joins the others unless its key is among theirs. -/
def adjoin (kept : List α) (x : α) : List α := if key x ∈ kept.map key then kept else kept ++ [x]

/-- What nothing of either list is above: our elements, and theirs under keys of their own. -/
def gather (above : α → α → Bool) (ours theirs : List α) : List α :=
  let top := fun x => !(ours ++ theirs).any fun y => above y x
  (theirs.filter top).foldl (adjoin key) (ours.filter top)

variable {key}

theorem mem_of_mem_adjoin {l : List α} {x y : α} (h : y ∈ adjoin key l x) : y ∈ l ∨ y = x := by
  unfold adjoin at h
  split at h
  · exact .inl h
  · simpa using h

theorem mem_foldl_adjoin {l ours : List α} {y : α} (h : y ∈ l.foldl (adjoin key) ours) : y ∈ ours ∨ y ∈ l := by
  induction l generalizing ours with
  | nil => exact .inl h
  | cons x l ih =>
    obtain there | later := ih h
    · obtain old | rfl := mem_of_mem_adjoin there
      · exact .inl old
      · exact .inr List.mem_cons_self
    · exact .inr (List.mem_cons_of_mem x later)

theorem key_mem_foldl_adjoin {l ours : List α} {k : κ} (h : k ∈ ours.map key ∨ k ∈ l.map key) :
    k ∈ (l.foldl (adjoin key) ours).map key := by
  induction l generalizing ours with
  | nil => exact h.resolve_right (by simp)
  | cons x l ih =>
    apply ih
    unfold adjoin
    rw [List.map_cons, List.mem_cons, ← or_assoc] at h
    refine h.imp_left ?_
    rintro (old | rfl)
    · split
      · exact old
      · exact List.map_append ▸ List.mem_append_left _ old
    · split
      · assumption
      · simp

theorem mem_of_mem_gather {ours theirs : List α} {x : α} (h : x ∈ gather key above ours theirs) :
    x ∈ ours ++ theirs :=
  List.mem_append.mpr ((mem_foldl_adjoin h).imp List.mem_of_mem_filter List.mem_of_mem_filter)

/-- The key of an element that nothing is above is there. -/
theorem key_mem_gather {ours theirs : List α} {x : α} (h : x ∈ undominated above (ours ++ theirs)) :
    key x ∈ (gather key above ours theirs).map key := by
  obtain ⟨mem, top⟩ := List.mem_filter.mp h
  apply key_mem_foldl_adjoin
  obtain left | right := List.mem_append.mp mem
  · exact .inl (List.mem_map_of_mem (List.mem_filter.mpr ⟨left, top⟩))
  · exact .inr (List.mem_map_of_mem (List.mem_filter.mpr ⟨right, top⟩))

variable {β κ' : Type*} [DecidableEq κ'] {key' : β → κ'} {below : β → β → Bool} {R : α → β → Prop}

theorem forall₂_adjoin (keys : ∀ x y x' y', R x y → R x' y' → (key x = key x' ↔ key' y = key' y'))
    {l : List α} {l' : List β} (hl : List.Forall₂ R l l') {x : α} {y : β} (hx : R x y) :
    List.Forall₂ R (adjoin key l x) (adjoin key' l' y) := by
  have same : key x ∈ l.map key ↔ key' y ∈ l'.map key' := by
    induction hl with
    | nil => simp
    | cons h _ ih => rw [List.map_cons, List.map_cons, List.mem_cons, List.mem_cons, keys _ _ _ _ hx h, ih]
  unfold adjoin
  by_cases mem : key x ∈ l.map key
  · rw [if_pos mem, if_pos (same.mp mem)]
    exact hl
  · rw [if_neg mem, if_neg (mt same.mpr mem)]
    exact List.rel_append hl (.cons hx .nil)

/-- Lists that correspond element by element gather what corresponds. -/
theorem forall₂_gather (keys : ∀ x y x' y', R x y → R x' y' → (key x = key x' ↔ key' y = key' y'))
    (orders : ∀ x y x' y', R x y → R x' y' → above x x' = below y y') {ours theirs : List α} {ours' theirs' : List β}
    (ho : List.Forall₂ R ours ours') (ht : List.Forall₂ R theirs theirs') :
    List.Forall₂ R (gather key above ours theirs) (gather key' below ours' theirs') := by
  have tops (x : α) (y : β) (hx : R x y) : (!(ours ++ theirs).any fun z => above z x) =
      !(ours' ++ theirs').any fun z => below z y := by
    have all : List.Forall₂ R (ours ++ theirs) (ours' ++ theirs') := List.rel_append ho ht
    generalize ours ++ theirs = l at all ⊢
    generalize ours' ++ theirs' = l' at all ⊢
    induction all with
    | nil => rfl
    | cons h _ ih =>
      simp only [List.any_cons, Bool.not_or] at ih ⊢
      rw [orders _ _ _ _ h hx, ih]
  have filters : ∀ {l : List α} {l' : List β}, List.Forall₂ R l l' → List.Forall₂ R
      (l.filter fun x => !(ours ++ theirs).any fun z => above z x)
      (l'.filter fun y => !(ours' ++ theirs').any fun z => below z y) := by
    intro l l' h
    apply List.rel_filter _ h
    intro x y hx
    exact iff_of_eq (congrArg (· = true) (tops x y hx))
  refine List.rel_foldl ?_ (filters ho) (filters ht)
  intro l l' hl x y hx
  exact forall₂_adjoin keys hl hx

end

end Undominated
