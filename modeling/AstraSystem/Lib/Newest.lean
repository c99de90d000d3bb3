import Mathlib.Data.List.Induction
import Mathlib.Order.Defs.LinearOrder
import Mathlib.Data.Set.Insert

/-!
# Last writer wins

Writes carry stamps from a linear order, and a cell keeps the first write it saw
with the greatest stamp. What the cell reads is a function of the set of writes
it saw once writes of equal stamp read the same.
-/

namespace Newest

variable {W S R : Type*} [LinearOrder S] (stamp : W → S)

/-- The old write stays unless the new one is strictly newer. -/
def keep (old : Option W) (w : W) : Option W :=
  match old with
  | some o => if stamp o < stamp w then some w else some o
  | none => some w

/-- A cell that has seen the writes `ws`. -/
def Of (ws : Set W) : Option W → Prop
  | none => ws = ∅
  | some w => w ∈ ws ∧ ∀ y ∈ ws, stamp y ≤ stamp w

/-- A cell that takes in another one. -/
def join (o p : Option W) : Option W :=
  match p with
  | some w => keep stamp o w
  | none => o

variable {stamp} {ws vs : Set W} {o p : Option W}

theorem of_empty : Of stamp ∅ none := rfl

theorem of_insert (h : Of stamp ws o) (w : W) : Of stamp (insert w ws) (keep stamp o w) := by
  cases o with
  | none =>
    obtain rfl : ws = ∅ := h
    refine ⟨Set.mem_insert w ∅, ?_⟩
    intro y hy
    obtain rfl | hy := hy
    · exact le_rfl
    · exact absurd hy (Set.notMem_empty y)
  | some x =>
    obtain ⟨hx, top⟩ := h
    by_cases newer : stamp x < stamp w
    · simp only [keep, newer, ↓reduceIte]
      refine ⟨Set.mem_insert w ws, ?_⟩
      intro y hy
      obtain rfl | hy := hy
      · exact le_rfl
      · exact le_trans (top y hy) newer.le
    · simp only [keep, newer, ↓reduceIte]
      refine ⟨Set.mem_insert_of_mem w hx, ?_⟩
      intro y hy
      obtain rfl | hy := hy
      · exact le_of_not_gt newer
      · exact top y hy

/-- Taking in another cell's write takes in everything that cell saw. -/
theorem of_union (h : Of stamp ws o) {v : W} (hv : Of stamp vs (some v)) :
    Of stamp (ws ∪ vs) (keep stamp o v) := by
  obtain ⟨hm, top⟩ := hv
  have bound (w : W) (hw : stamp v ≤ stamp w) : ∀ y ∈ vs, stamp y ≤ stamp w :=
    fun y hy => le_trans (top y hy) hw
  have ins := of_insert h v
  cases hk : keep stamp o v with
  | none =>
    rw [hk] at ins
    exact absurd (Set.mem_insert v ws) (ins ▸ Set.notMem_empty v)
  | some w =>
    rw [hk] at ins
    obtain ⟨hw, hle⟩ := ins
    constructor
    · obtain rfl | hw := hw
      · exact .inr hm
      · exact .inl hw
    · intro y hy
      cases hy with
      | inl ours => exact hle y (Set.mem_insert_of_mem v ours)
      | inr theirs => exact bound w (hle v (Set.mem_insert v ws)) y theirs

/-- Two cells that saw the same writes read the same, if writes of equal stamp do. -/
theorem unique {f : W → R} (ho : Of stamp ws o) (hp : Of stamp ws p)
    (ties : ∀ x ∈ ws, ∀ y ∈ ws, stamp x = stamp y → f x = f y) : o.map f = p.map f := by
  cases o with
  | none =>
    cases p with
    | none => rfl
    | some y => exact absurd hp.1 (by rw [show ws = ∅ from ho]; exact Set.notMem_empty y)
  | some x =>
    cases p with
    | none => exact absurd ho.1 (by rw [show ws = ∅ from hp]; exact Set.notMem_empty x)
    | some y =>
      have eq : stamp x = stamp y := le_antisymm (hp.2 x ho.1) (ho.2 y hp.1)
      exact congrArg some (ties x ho.1 y hp.1 eq)

/-! ## The write a sequence leaves -/

section
variable (replaces : W → W → Prop) [DecidableRel replaces]

/-- The old write stays unless the new one replaces it. -/
def take (old : Option W) (w : W) : Option W :=
  match old with
  | some o => if replaces o w then some w else some o
  | none => some w

/-- The write replaces all before it, and none behind it does so with it. -/
def Survives (ws : List W) (w : W) : Prop :=
  ∃ before after, ws = before ++ w :: after ∧ (∀ x ∈ before, replaces x w) ∧
    ∀ x ∈ after, ¬ replaces w x

variable {replaces}

theorem foldl_take_some (trans : ∀ x y z, replaces x y → replaces y z → replaces x z)
    (passes : ∀ x y z, ¬ replaces x y → replaces x z → replaces y z) {o w : W} {ws : List W} :
    ws.foldl (take replaces) (some o) = some w ↔ Survives replaces (o :: ws) w := by
  induction ws generalizing o with
  | nil =>
    rw [List.foldl_nil, Option.some_inj, eq_comm]
    simp [Survives, List.cons_eq_append_iff]
  | cons x ws ih =>
    rw [List.foldl_cons, take]
    by_cases replaced : replaces o x
    · rw [if_pos replaced, ih]
      constructor
      · rintro ⟨before, after, split, hb, ha⟩
        refine ⟨o :: before, after, congrArg (o :: ·) split, ?_, ha⟩
        rw [List.forall_mem_cons]
        refine ⟨?_, hb⟩
        cases before with
        | nil => exact (List.cons.inj split).1 ▸ replaced
        | cons y before =>
          obtain ⟨rfl, -⟩ := List.cons.inj split
          exact trans o x w replaced (hb x List.mem_cons_self)
      · rintro ⟨before, after, split, hb, ha⟩
        cases before with
        | nil =>
          obtain ⟨rfl, rfl⟩ := List.cons.inj split
          exact absurd replaced (ha x List.mem_cons_self)
        | cons y before =>
          exact ⟨before, after, (List.cons.inj split).2, (List.forall_mem_cons.mp hb).2, ha⟩
    · rw [if_neg replaced, ih]
      constructor
      · rintro ⟨before, after, split, hb, ha⟩
        cases before with
        | nil =>
          obtain ⟨rfl, rfl⟩ := List.cons.inj split
          exact ⟨[], x :: ws, rfl, by simp, List.forall_mem_cons.mpr ⟨replaced, ha⟩⟩
        | cons y before =>
          obtain ⟨rfl, rfl⟩ := List.cons.inj split
          obtain ⟨first, rest⟩ := List.forall_mem_cons.mp hb
          refine ⟨o :: x :: before, after, rfl, ?_, ha⟩
          exact List.forall_mem_cons.mpr
            ⟨first, List.forall_mem_cons.mpr ⟨passes o x w replaced first, rest⟩⟩
      · rintro ⟨before, after, split, hb, ha⟩
        cases before with
        | nil =>
          obtain ⟨rfl, rfl⟩ := List.cons.inj split
          exact ⟨[], ws, rfl, by simp, (List.forall_mem_cons.mp ha).2⟩
        | cons y before =>
          obtain ⟨rfl, tail⟩ := List.cons.inj split
          obtain ⟨first, rest⟩ := List.forall_mem_cons.mp hb
          cases before with
          | nil =>
            obtain ⟨rfl, rfl⟩ := List.cons.inj tail
            exact absurd first replaced
          | cons z before =>
            obtain ⟨rfl, rfl⟩ := List.cons.inj tail
            exact ⟨o :: before, after, rfl,
              List.forall_mem_cons.mpr ⟨first, (List.forall_mem_cons.mp rest).2⟩, ha⟩

/-- What a sequence of writes leaves in an empty cell. -/
theorem foldl_take (trans : ∀ x y z, replaces x y → replaces y z → replaces x z)
    (passes : ∀ x y z, ¬ replaces x y → replaces x z → replaces y z) {ws : List W} {w : W} :
    ws.foldl (take replaces) none = some w ↔ Survives replaces ws w := by
  cases ws with
  | nil => simp [Survives]
  | cons o ws => exact foldl_take_some trans passes

theorem exists_foldl_take (o : W) (ws : List W) :
    ∃ w, (o :: ws).foldl (take replaces) none = some w := by
  induction ws using List.reverseRecOn with
  | nil => exact ⟨o, rfl⟩
  | append_singleton ws x ih =>
    obtain ⟨w, hw⟩ := ih
    rw [← List.cons_append, List.foldl_append, hw, List.foldl_cons, List.foldl_nil, take]
    split
    · exact ⟨x, rfl⟩
    · exact ⟨w, rfl⟩

end

/-! ## Joins -/

@[simp] theorem join_none (o : Option W) : join stamp o none = o := rfl

@[simp] theorem none_join (p : Option W) : join stamp none p = p := by cases p <;> rfl

@[simp] theorem join_some (o w : W) :
    join stamp (some o) (some w) = if stamp o < stamp w then some w else some o := rfl

theorem join_self (o : Option W) : join stamp o o = o := by cases o <;> simp

theorem join_assoc (o p q : Option W) : join stamp (join stamp o p) q = join stamp o (join stamp p q) := by
  cases o with
  | none => simp
  | some x =>
    cases p with
    | none => simp
    | some y =>
      cases q with
      | none => simp
      | some z =>
        by_cases xy : stamp x < stamp y <;> by_cases yz : stamp y < stamp z <;>
          simp only [join_some, xy, yz, ↓reduceIte]
        · rw [if_pos (lt_trans xy yz)]
        · exact if_neg fun xz => yz (lt_of_le_of_lt (not_lt.mp xy) xz)

/-- Writes of equal stamp must be the same one. -/
theorem join_comm (ties : ∀ x y, o = some x → p = some y → stamp x = stamp y → x = y) :
    join stamp o p = join stamp p o := by
  cases o with
  | none => simp
  | some x =>
    cases p with
    | none => simp
    | some y =>
      rw [join_some, join_some]
      obtain lt | eq | gt := lt_trichotomy (stamp x) (stamp y)
      · rw [if_pos lt, if_neg lt.not_gt]
      · rw [ties x y rfl rfl eq]
      · rw [if_neg gt.not_gt, if_pos gt]

theorem join_choice (o p : Option W) : join stamp o p = o ∨ join stamp o p = p := by
  cases o with
  | none => simp
  | some x =>
    cases p with
    | none => simp
    | some y => by_cases newer : stamp x < stamp y <;> simp [newer]

end Newest
