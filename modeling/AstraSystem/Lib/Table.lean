import Mathlib.Algebra.BigOperators.Group.List.Basic
import Mathlib.Data.List.Nodup
import Mathlib.Data.List.Sort
import Mathlib.Tactic.Abel

/-!
# Tables with a primary key

Rows are kept in the order they were first inserted, and no two have one key.
-/

structure Table (R K : Type*) (key : R → K) where
  rows : List R
  nodup : (rows.map key).Nodup

namespace Table

variable {R K : Type*} {key : R → K}

def empty : Table R K key := ⟨[], .nil⟩

/-- No two rows have one key. -/
theorem unique (t : Table R K key) {r s : R} (hr : r ∈ t.rows) (hs : s ∈ t.rows)
    (h : key r = key s) : r = s :=
  List.inj_on_of_nodup_map t.nodup hr hs h

/-- Change rows without changing their keys. -/
def update (t : Table R K key) (f : R → R) (hf : ∀ r, key (f r) = key r) : Table R K key where
  rows := t.rows.map f
  nodup := by
    have same : (t.rows.map f).map key = t.rows.map key := by
      rw [List.map_map]
      exact List.map_congr_left fun r _ => hf r
    exact same ▸ t.nodup

theorem mem_update {t : Table R K key} {f : R → R} {hf : ∀ r, key (f r) = key r} {r : R} :
    r ∈ (t.update f hf).rows ↔ ∃ old ∈ t.rows, f old = r := List.mem_map

/-- `DELETE … WHERE p`. -/
def delete (t : Table R K key) (p : R → Bool) : Table R K key where
  rows := t.rows.filter fun r => !p r
  nodup := t.nodup.sublist (List.filter_sublist.map key)

theorem mem_delete {t : Table R K key} {p : R → Bool} {r : R} :
    r ∈ (t.delete p).rows ↔ r ∈ t.rows ∧ p r = false := by
  simp [delete]

/-- The row of a key. -/
def find? [DecidableEq K] (t : Table R K key) (k : K) : Option R := t.rows.find? fun r => key r = k

/-- `SELECT … WHERE p ORDER BY le LIMIT limit`; rows that tie come in the table's order. -/
def select (t : Table R K key) (p : R → Bool) (le : R → R → Prop) [DecidableRel le] (limit : ℕ) :
    List R :=
  ((t.rows.filter p).insertionSort le).take limit

section
variable {t : Table R K key} {p : R → Bool} {le : R → R → Prop} [DecidableRel le] {limit : ℕ} {r : R}

theorem mem_of_mem_select (h : r ∈ t.select p le limit) : r ∈ t.rows ∧ p r = true :=
  List.mem_filter.mp ((List.mem_insertionSort le).mp (List.mem_of_mem_take h))

theorem nodup_select (t : Table R K key) (p : R → Bool) (le : R → R → Prop) [DecidableRel le]
    (limit : ℕ) : ((t.select p le limit).map key).Nodup := by
  have sorted : ((t.rows.filter p).insertionSort le).Perm (t.rows.filter p) :=
    List.perm_insertionSort le _
  have filtered : ((t.rows.filter p).map key).Nodup := t.nodup.sublist (List.filter_sublist.map key)
  exact ((sorted.map key).nodup_iff.mpr filtered).sublist ((List.take_sublist _ _).map key)

/-- A limit of all rows leaves nothing out. -/
theorem mem_select (all : t.rows.length ≤ limit) (hr : r ∈ t.rows) (hp : p r = true) :
    r ∈ t.select p le limit := by
  rw [select, List.take_of_length_le]
  · exact (List.mem_insertionSort le).mpr (List.mem_filter.mpr ⟨hr, hp⟩)
  · rw [List.length_insertionSort]
    exact le_trans (List.length_filter_le _ _) all

end

variable [DecidableEq K]

/-- `INSERT … ON CONFLICT(key) DO UPDATE`: `conflict old new` is what becomes of a row that has
the new row's key already. -/
def upsert (t : Table R K key) (conflict : R → R → R)
    (hc : ∀ old new, key (conflict old new) = key new) (new : R) : Table R K key :=
  if h : key new ∈ t.rows.map key then
    t.update (fun old => if key old = key new then conflict old new else old) fun old => by
      split
      · rename_i heq
        exact (hc old new).trans heq.symm
      · rfl
  else
    ⟨t.rows ++ [new], by
      rw [List.map_append]
      refine List.nodup_append.mpr ⟨t.nodup, List.nodup_singleton _, ?_⟩
      rintro a ha b hb rfl
      rw [List.map_singleton, List.mem_singleton] at hb
      exact h (hb ▸ ha)⟩

variable {conflict : R → R → R} {hc : ∀ old new, key (conflict old new) = key new}

/-- Rows of other keys stay, and the key has one row: the old one changed, or the new one. -/
theorem mem_upsert {t : Table R K key} {new r : R} :
    r ∈ (t.upsert conflict hc new).rows ↔
      (r ∈ t.rows ∧ key r ≠ key new) ∨
      (∃ old ∈ t.rows, key old = key new ∧ r = conflict old new) ∨
      ((∀ old ∈ t.rows, key old ≠ key new) ∧ r = new) := by
  unfold upsert
  split
  · rename_i h
    obtain ⟨o, ho, hk⟩ := List.mem_map.mp h
    rw [mem_update]
    constructor
    · intro h
      obtain ⟨old, hold, rfl⟩ := h
      split
      · rename_i heq
        exact .inr (.inl ⟨old, hold, heq, rfl⟩)
      · rename_i hne
        exact .inl ⟨hold, hne⟩
    · intro h
      obtain ⟨hr, hne⟩ | ⟨old, hold, heq, rfl⟩ | ⟨none, _⟩ := h
      · exact ⟨r, hr, if_neg hne⟩
      · exact ⟨old, hold, if_pos heq⟩
      · exact absurd hk (none o ho)
  · rename_i h
    have absent : ∀ old ∈ t.rows, key old ≠ key new :=
      fun old hold heq => h (List.mem_map.mpr ⟨old, hold, heq⟩)
    simp only [List.mem_append, List.mem_singleton]
    constructor
    · intro h
      obtain hr | rfl := h
      · exact .inl ⟨hr, absent r hr⟩
      · exact .inr (.inr ⟨absent, rfl⟩)
    · intro h
      obtain ⟨hr, _⟩ | ⟨old, hold, heq, _⟩ | ⟨_, rfl⟩ := h
      · exact .inl hr
      · exact absurd heq (absent old hold)
      · exact .inr rfl

theorem find?_eq_none {t : Table R K key} {k : K} :
    t.find? k = none ↔ ∀ r ∈ t.rows, key r ≠ k := by
  simp [find?]

/-- The row of a key is found. -/
theorem find?_eq_some {t : Table R K key} {k : K} {r : R} :
    t.find? k = some r ↔ r ∈ t.rows ∧ key r = k := by
  constructor
  · intro h
    exact ⟨List.mem_of_find?_eq_some h, by simpa using List.find?_some h⟩
  · rintro ⟨hr, rfl⟩
    cases h : t.find? (key r) with
    | none => exact absurd rfl (find?_eq_none.mp h r hr)
    | some s =>
      have hs := List.mem_of_find?_eq_some h
      have same : key s = key r := by simpa using List.find?_some h
      rw [t.unique hs hr same]

/-- `INSERT … ON CONFLICT (key) DO NOTHING`. -/
def insertNew (t : Table R K key) (new : R) : Table R K key :=
  if h : t.find? (key new) = none then
    ⟨t.rows ++ [new], by
      rw [List.map_append]
      refine List.nodup_append.mpr ⟨t.nodup, List.nodup_singleton _, ?_⟩
      rintro a ha b hb rfl
      rw [List.map_singleton, List.mem_singleton] at hb
      obtain ⟨old, hold, same⟩ := List.mem_map.mp ha
      exact find?_eq_none.mp h old hold (same.trans hb)⟩
  else t

/-- The old rows stay, and the new one is added where its key is new. -/
theorem mem_insertNew {t : Table R K key} {new r : R} : r ∈ (t.insertNew new).rows ↔
    r ∈ t.rows ∨ (∀ old ∈ t.rows, key old ≠ key new) ∧ r = new := by
  unfold insertNew
  split
  · rename_i absent
    rw [List.mem_append, List.mem_singleton]
    exact or_congr Iff.rfl (iff_and_self.mpr fun _ => find?_eq_none.mp absent)
  · rename_i present
    refine ⟨.inl, fun h => h.resolve_right fun new => present (find?_eq_none.mpr new.1)⟩

theorem find?_upsert_of_ne {t : Table R K key} {new : R} {k : K} (h : k ≠ key new) :
    (t.upsert conflict hc new).find? k = t.find? k := by
  refine Option.ext fun r => ?_
  rw [find?_eq_some, find?_eq_some, mem_upsert]
  constructor
  · rintro ⟨⟨hr, -⟩ | ⟨old, -, same, rfl⟩ | ⟨-, rfl⟩, rfl⟩
    · exact ⟨hr, rfl⟩
    · exact absurd (hc old new) h
    · exact absurd rfl h
  · rintro ⟨hr, rfl⟩
    exact ⟨.inl ⟨hr, h⟩, rfl⟩

theorem rows_upsert_of_none {t : Table R K key} {new : R} (h : t.find? (key new) = none) :
    (t.upsert conflict hc new).rows = t.rows ++ [new] := by
  have absent : key new ∉ t.rows.map key := by
    intro mem
    obtain ⟨old, hold, same⟩ := List.mem_map.mp mem
    exact find?_eq_none.mp h old hold same
  rw [upsert, dif_neg absent]

theorem rows_upsert_of_some {t : Table R K key} {new old : R} (h : t.find? (key new) = some old) :
    (t.upsert conflict hc new).rows =
      t.rows.map fun r => if key r = key new then conflict r new else r := by
  obtain ⟨hold, same⟩ := find?_eq_some.mp h
  have present : key new ∈ t.rows.map key := List.mem_map.mpr ⟨old, hold, same⟩
  rw [upsert, dif_pos present]
  rfl

/-- An upsert is not seen where neither the new row nor those of its key are looked at. -/
theorem rows_filter_upsert {t : Table R K key} {new : R} {p : R → Bool} (unseen : p new = false)
    (own : ∀ old ∈ t.rows, key old = key new → p old = false ∧ p (conflict old new) = false) :
    (t.upsert conflict hc new).rows.filter p = t.rows.filter p := by
  cases found : t.find? (key new) with
  | none => rw [rows_upsert_of_none found, List.filter_append, List.filter_cons_of_neg (by simp [unseen]),
      List.filter_nil, List.append_nil]
  | some old =>
    rw [rows_upsert_of_some found, List.filter_map]
    have same : t.rows.filter (p ∘ fun r => if key r = key new then conflict r new else r) = t.rows.filter p := by
      refine List.filter_congr fun r hr => ?_
      by_cases k : key r = key new
      · simp [k, (own r hr k).1, (own r hr k).2]
      · simp [k]
    rw [same]
    refine (List.map_congr_left fun r hr => ?_).trans (List.map_id _)
    obtain ⟨hr, hp⟩ := List.mem_filter.mp hr
    exact if_neg fun k => by cases (own r hr k).1.symm.trans hp

theorem find?_upsert_self {t : Table R K key} {new : R} (h : t.find? (key new) = none) :
    (t.upsert conflict hc new).find? (key new) = some new := by
  rw [find?_eq_some, rows_upsert_of_none h]
  exact ⟨List.mem_append_right _ (List.mem_singleton_self new), rfl⟩

/-- After an upsert the key has its old row changed, or the new one. -/
theorem find?_upsert {t : Table R K key} {new : R} :
    (t.upsert conflict hc new).find? (key new) =
      some ((t.find? (key new)).elim new (conflict · new)) := by
  rw [find?_eq_some, mem_upsert]
  cases found : t.find? (key new) with
  | none => exact ⟨.inr (.inr ⟨find?_eq_none.mp found, rfl⟩), rfl⟩
  | some old =>
    obtain ⟨hold, same⟩ := find?_eq_some.mp found
    exact ⟨.inr (.inl ⟨old, hold, same, rfl⟩), hc old new⟩

theorem find?_update {t : Table R K key} {f : R → R} {hf : ∀ r, key (f r) = key r} {k : K} :
    (t.update f hf).find? k = (t.find? k).map f := by
  refine Option.ext fun r => ?_
  rw [find?_eq_some, mem_update, Option.map_eq_some_iff]
  constructor
  · rintro ⟨⟨old, hold, rfl⟩, rfl⟩
    exact ⟨old, find?_eq_some.mpr ⟨hold, (hf old).symm⟩, rfl⟩
  · rintro ⟨old, found, rfl⟩
    obtain ⟨hold, rfl⟩ := find?_eq_some.mp found
    exact ⟨⟨old, hold, rfl⟩, hf old⟩

theorem find?_delete_self {t : Table R K key} {k : K} : (t.delete (key · = k)).find? k = none := by
  rw [find?_eq_none]
  intro r hr same
  exact of_decide_eq_false (mem_delete.mp hr).2 same

theorem find?_delete_of_ne {t : Table R K key} {k k' : K} (h : k ≠ k') :
    (t.delete (key · = k')).find? k = t.find? k := by
  refine Option.ext fun r => ?_
  rw [find?_eq_some, find?_eq_some, mem_delete]
  constructor
  · rintro ⟨⟨hr, -⟩, rfl⟩
    exact ⟨hr, rfl⟩
  · rintro ⟨hr, rfl⟩
    exact ⟨⟨hr, decide_eq_false h⟩, rfl⟩

section
variable {M : Type*} [AddCommMonoid M] (f : R → M)

/-- An upsert exchanges what the old row counts for what the new one does. -/
theorem sum_upsert (t : Table R K key) (new : R) :
    ((t.upsert conflict hc new).rows.map f).sum + (t.find? (key new)).elim 0 f =
      (t.rows.map f).sum + f ((t.find? (key new)).elim new (conflict · new)) := by
  cases h : t.find? (key new) with
  | none => simp [rows_upsert_of_none h]
  | some old =>
    obtain ⟨hold, same⟩ := find?_eq_some.mp h
    have present : key new ∈ t.rows.map key := List.mem_map.mpr ⟨old, hold, same⟩
    have others (l : List R) (h : ∀ r ∈ l, key r ≠ key new) :
        (l.map fun r => f (if key r = key new then conflict r new else r)) = l.map f :=
      List.map_congr_left fun r hr => by rw [if_neg (h r hr)]
    obtain ⟨before, after, split⟩ := List.append_of_mem hold
    have distinct := t.nodup
    rw [split, List.map_append, List.map_cons, List.nodup_append, List.nodup_cons] at distinct
    obtain ⟨-, ⟨fresh, -⟩, apart⟩ := distinct
    have hb : ∀ r ∈ before, key r ≠ key new := fun r hr =>
      same ▸ apart _ (List.mem_map_of_mem hr) _ List.mem_cons_self
    have ha : ∀ r ∈ after, key r ≠ key new := fun r hr heq =>
      fresh (List.mem_map.mpr ⟨r, hr, heq.trans same.symm⟩)
    rw [upsert, dif_pos present]
    simp only [update, List.map_map, Function.comp_def, split,
      List.map_append, List.map_cons, others before hb, others after ha, same, ↓reduceIte,
      List.sum_append, List.sum_cons, Option.elim_some]
    abel

omit [DecidableEq K] in
/-- What is deleted and what stays add up. -/
theorem sum_delete (t : Table R K key) (p : R → Bool) :
    ((t.delete p).rows.map f).sum + ((t.rows.filter p).map f).sum = (t.rows.map f).sum := by
  show ((t.rows.filter fun r => !p r).map f).sum + _ = _
  induction t.rows with
  | nil => simp
  | cons r l ih =>
    rw [List.map_cons, List.sum_cons, ← ih]
    cases hp : p r <;> simp [hp] <;> abel

end

theorem rows_filter_key {t : Table R K key} {r : R} (hr : r ∈ t.rows) :
    (t.rows.filter fun s => key s = key r) = [r] := by
  refine List.perm_singleton.mp ((List.perm_ext_iff_of_nodup ?_ (List.nodup_singleton r)).mpr ?_)
  · exact (List.Nodup.of_map key t.nodup).filter _
  · intro s
    simp only [List.mem_filter, decide_eq_true_eq, List.mem_singleton]
    constructor
    · intro h
      exact t.unique h.1 hr h.2
    · rintro rfl
      exact ⟨hr, rfl⟩

/-- What a deletion takes away. -/
theorem filter_delete (t : Table R K key) (p : R → Bool) :
    (t.rows.filter fun r => (t.delete p).find? (key r) = none) = t.rows.filter p := by
  refine List.filter_congr fun r hr => Bool.eq_iff_iff.mpr ?_
  rw [decide_eq_true_iff, find?_eq_none]
  constructor
  · intro gone
    by_contra kept
    exact gone r (mem_delete.mpr ⟨hr, Bool.eq_false_iff.mpr kept⟩) rfl
  · intro deleted s hs same
    obtain ⟨hs, kept⟩ := mem_delete.mp hs
    rw [t.unique hs hr same, deleted] at kept
    cases kept

section
variable [DecidableEq R] {conflict : R → R → R} {hc : ∀ old new, key (conflict old new) = key new}

/-- A deletion adds no row. -/
theorem filter_new_delete (t : Table R K key) (p : R → Bool) :
    ((t.delete p).rows.filter fun r => t.find? (key r) ≠ some r) = [] := by
  refine List.filter_eq_nil_iff.mpr fun r hr => ?_
  simpa using find?_eq_some.mpr ⟨(mem_delete.mp hr).1, rfl⟩

omit [DecidableEq R] in
/-- An upsert takes no key away. -/
theorem filter_upsert (t : Table R K key) (new : R) :
    (t.rows.filter fun r => (t.upsert conflict hc new).find? (key r) = none) = [] := by
  refine List.filter_eq_nil_iff.mpr fun r hr => ?_
  rw [decide_eq_true_iff]
  intro gone
  by_cases same : key r = key new
  · rw [same, find?_upsert] at gone
    cases gone
  · rw [find?_upsert_of_ne same, find?_eq_none] at gone
    exact gone r hr rfl

/-- And what is new after it is the row of its key. -/
theorem filter_new_upsert {t : Table R K key} {new : R}
    (changes : ∀ old ∈ t.find? (key new), conflict old new ≠ old) :
    ((t.upsert conflict hc new).rows.filter fun r => t.find? (key r) ≠ some r) =
      [(t.find? (key new)).elim new (conflict · new)] := by
  have found : (t.upsert conflict hc new).find? (key new) =
      some ((t.find? (key new)).elim new (conflict · new)) := find?_upsert
  obtain ⟨hrow, same⟩ := find?_eq_some.mp found
  rw [← rows_filter_key hrow]
  refine List.filter_congr fun r hr => Bool.eq_iff_iff.mpr ?_
  rw [decide_eq_true_iff, decide_eq_true_iff, same]
  rcases mem_upsert.mp hr with ⟨hr, other⟩ | ⟨old, hold, own, rfl⟩ | ⟨absent, rfl⟩
  · simp [find?_eq_some.mpr ⟨hr, rfl⟩, other]
  · have found := find?_eq_some.mpr ⟨hold, own⟩
    simpa [hc, found, eq_comm] using changes old found
  · simp [find?_eq_none.mpr absent]

end

theorem perm_delete {t : Table R K key} {r : R} (hr : r ∈ t.rows) :
    t.rows.Perm (r :: (t.delete (key · = key r)).rows) := by
  have split := List.filter_append_perm (fun s => decide (key s = key r)) t.rows
  rw [rows_filter_key hr] at split
  exact split.symm

end Table

/-- The order in which a statement happens to return its rows. -/
structure Shuffle (R : Type*) where
  apply : List R → List R
  perm : ∀ l, (apply l).Perm l

/-- Rows as the table has them. -/
def Shuffle.none (R : Type*) : Shuffle R := ⟨id, fun l => .refl l⟩

/-! ## Statements one after another -/

namespace Statement

universe u

variable {E F : Type*} {A B : Type u}

/-- A sequence that succeeds went through its first statement. -/
theorem bind_eq_ok {x : Except E A} {f : A → Except E B} {b : B} :
    x >>= f = .ok b ↔ ∃ a, x = .ok a ∧ f a = .ok b := by
  cases x with
  | error e =>
    constructor
    · intro h
      cases h
    · rintro ⟨a, h, -⟩
      cases h
  | ok a =>
    constructor
    · intro h
      exact ⟨a, rfl, h⟩
    · rintro ⟨a', h, hf⟩
      cases h
      exact hf

/-- A sequence succeeds if its first statement does and the rest then does. -/
theorem exists_bind {x : Except E A} {f : A → Except E B} {a : A} (hx : x = .ok a)
    (hf : ∃ b, f a = .ok b) : ∃ b, x >>= f = .ok b := by
  obtain ⟨b, hb⟩ := hf
  exact ⟨b, bind_eq_ok.mpr ⟨a, hx, hb⟩⟩

theorem mapError_eq_ok {x : Except E A} {f : E → F} {a : A} :
    x.mapError f = .ok a ↔ x = .ok a := by
  cases x <;> simp [Except.mapError]

theorem toOption_eq_some {x : Except E A} {a : A} : x.toOption = some a ↔ x = .ok a := by
  cases x <;> simp [Except.toOption]

theorem map_eq_ok {x : Except E A} {f : A → B} {b : B} :
    x.map f = .ok b ↔ ∃ a, x = .ok a ∧ f a = b := by
  cases x <;> simp [Except.map]

theorem mapM_cons_ok {f : A → Except E B} {x : A} {l : List A} {out : List B} :
    (x :: l).mapM f = .ok out ↔ ∃ y ys, f x = .ok y ∧ l.mapM f = .ok ys ∧ out = y :: ys := by
  rw [List.mapM_cons]
  cases f x with
  | error e => simp [bind, Except.bind]
  | ok y =>
    cases l.mapM f with
    | error e => simp [bind, Except.bind]
    | ok ys => simp [bind, Except.bind, pure, Except.pure, eq_comm]

/-- A loop without an error has one result for each element, in order. -/
theorem forall₂_of_mapM {f : A → Except E B} {l : List A} {out : List B} (h : l.mapM f = .ok out) :
    List.Forall₂ (fun x y => f x = .ok y) l out := by
  induction l generalizing out with
  | nil =>
    cases h
    exact .nil
  | cons x l ih =>
    obtain ⟨y, ys, hx, hl, rfl⟩ := mapM_cons_ok.mp h
    exact .cons hx (ih hl)

/-- The results of a loop without an error. -/
theorem mem_mapM {f : A → Except E B} {l : List A} {out : List B} (h : l.mapM f = .ok out) (y : B) :
    y ∈ out ↔ ∃ x ∈ l, f x = .ok y := by
  induction l generalizing out with
  | nil =>
    cases h
    simp
  | cons x l ih =>
    obtain ⟨z, zs, hx, hl, rfl⟩ := mapM_cons_ok.mp h
    simp only [List.mem_cons, ih hl, exists_eq_or_imp, hx, Except.ok.injEq, eq_comm (a := y)]

theorem ok_of_mapM {f : A → Except E B} {l : List A} {out : List B} (h : l.mapM f = .ok out) :
    ∀ x ∈ l, ∃ y, f x = .ok y := by
  induction l generalizing out with
  | nil => simp
  | cons x l ih =>
    obtain ⟨y, ys, hx, hl, -⟩ := mapM_cons_ok.mp h
    rw [List.forall_mem_cons]
    exact ⟨⟨y, hx⟩, ih hl⟩

theorem mapM_ok {f : A → Except E B} {l : List A} (h : ∀ x ∈ l, ∃ y, f x = .ok y) :
    ∃ out, l.mapM f = .ok out := by
  induction l with
  | nil => exact ⟨[], rfl⟩
  | cons x l ih =>
    obtain ⟨y, hy⟩ := h x List.mem_cons_self
    obtain ⟨ys, hys⟩ := ih fun x hx => h x (List.mem_cons_of_mem _ hx)
    exact ⟨y :: ys, mapM_cons_ok.mpr ⟨y, ys, hy, hys, rfl⟩⟩

end Statement
