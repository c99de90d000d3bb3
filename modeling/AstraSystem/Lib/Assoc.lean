import Mathlib.Data.List.AList

/-!
# Finite maps walked entry by entry

`AList` stands for a hash map: the order of its entries is one order in which
the map may be iterated. Loops over one map that touch only the current key of
another are described by what they do to a single lookup.
-/

namespace Assoc

variable {K V W : Type*}

abbrev Map (K V : Type*) := AList (fun _ : K => V)

section
variable [DecidableEq K]

/-- At key `k` the update `g` turns the old value into `h old v`; other keys keep theirs. -/
def Local (g : Map K V → K → W → Map K V) (h : Option V → W → Option V) : Prop :=
  ∀ m k v a, (g m k v).lookup a = if a = k then h (m.lookup k) v else m.lookup a

theorem lookup_cons (k a : K) (v : V) (l : List (Sigma fun _ : K => V)) :
    List.dlookup a (⟨k, v⟩ :: l) = if a = k then some v else List.dlookup a l := by
  by_cases ha : a = k
  · subst ha; simp
  · exact (List.dlookup_cons_ne l ⟨k, v⟩ ha).trans (if_neg ha).symm

/-- A loop over `other` that updates `m` locally, seen at one key. -/
theorem lookup_foldl {g : Map K V → K → W → Map K V} {h : Option V → W → Option V}
    (hg : Local g h) (m : Map K V) (other : Map K W) (a : K) :
    (other.foldl g m).lookup a =
      match other.lookup a with
      | some v => h (m.lookup a) v
      | none => m.lookup a := by
  obtain ⟨l, hl⟩ := other
  simp only [AList.foldl, AList.lookup]
  induction l generalizing m with
  | nil => rfl
  | cons e l ih =>
    obtain ⟨k, v⟩ := e
    obtain ⟨hk, hl⟩ := List.nodupKeys_cons.mp hl
    rw [List.foldl_cons, ih _ hl, lookup_cons]
    by_cases ha : a = k
    · subst ha
      have absent : List.dlookup a l = none := List.dlookup_eq_none.mpr hk
      simp only [absent, ↓reduceIte]
      exact (hg m a v a).trans (if_pos rfl)
    · have same : (g m k v).lookup a = m.lookup a := (hg m k v a).trans (if_neg ha)
      simp only [AList.lookup] at same
      simp only [ha, same, ↓reduceIte]

/-- A loop over a list that updates one key for each element, seen at one key. -/
theorem lookup_foldl_list {g : Map K V → W → Map K V} {key : W → K}
    {h : Option V → W → Option V}
    (hg : ∀ m w a, (g m w).lookup a = if a = key w then h (m.lookup a) w else m.lookup a)
    (m : Map K V) (ws : List W) (a : K) :
    (ws.foldl g m).lookup a = (ws.filter fun w => key w = a).foldl h (m.lookup a) := by
  induction ws generalizing m with
  | nil => rfl
  | cons w ws ih =>
    rw [List.foldl_cons, ih, hg, List.filter_cons]
    by_cases ha : a = key w
    · simp only [ha, decide_true, ↓reduceIte, List.foldl_cons]
    · simp only [ha, Ne.symm ha, decide_false, Bool.false_eq_true, ↓reduceIte]

end

/-- The entries `f` keeps, with the values it gives them. -/
def retain (f : K → V → Option V) (m : Map K V) : Map K V where
  entries := m.entries.filterMap fun e => (f e.1 e.2).map fun v => ⟨e.1, v⟩
  nodupKeys := by
    have sub : ((m.entries.filterMap fun e =>
        (f e.1 e.2).map fun v => (⟨e.1, v⟩ : Sigma fun _ : K => V)).map Sigma.fst).Sublist
          m.keys := by
      simp only [AList.keys, List.keys]
      generalize m.entries = l
      induction l with
      | nil => exact .slnil
      | cons e l ih =>
        cases hf : f e.1 e.2 with
        | none => simpa [hf] using ih.cons e.1
        | some v => simpa [hf] using ih.cons_cons e.1
    exact sub.nodup m.keys_nodup

theorem lookup_retain [DecidableEq K] (f : K → V → Option V) (m : Map K V) (a : K) :
    (retain f m).lookup a = (m.lookup a).bind (f a) := by
  obtain ⟨l, hl⟩ := m
  simp only [AList.lookup, retain]
  induction l with
  | nil => rfl
  | cons e l ih =>
    obtain ⟨k, v⟩ := e
    obtain ⟨hk, hl⟩ := List.nodupKeys_cons.mp hl
    have ih := ih hl
    by_cases ha : a = k
    · subst ha
      have absent : List.dlookup a l = none := List.dlookup_eq_none.mpr hk
      rw [absent] at ih
      cases hf : f a v with
      | none => simpa [hf] using ih
      | some v' => simp [hf]
    · cases hf : f k v with
      | none => simpa [hf, lookup_cons, ha] using ih
      | some v' => simpa [hf, lookup_cons, ha] using ih

theorem mem_entries [DecidableEq K] {m : Map K V} {k : K} {v : V} :
    ⟨k, v⟩ ∈ m.entries ↔ m.lookup k = some v := AList.mem_lookup_iff.symm

/-- The keys whose entries pass a test, in the order the map is iterated. -/
def keysWhere (p : V → Bool) (m : Map K V) : List K :=
  (m.entries.filter fun e => p e.2).map Sigma.fst

theorem mem_keysWhere [DecidableEq K] {p : V → Bool} {m : Map K V} {k : K} :
    k ∈ keysWhere p m ↔ ∃ v, m.lookup k = some v ∧ p v = true := by
  simp only [keysWhere, List.mem_map, List.mem_filter]
  constructor
  · rintro ⟨⟨k, v⟩, ⟨hm, hp⟩, rfl⟩; exact ⟨v, mem_entries.mp hm, hp⟩
  · rintro ⟨v, hm, hp⟩; exact ⟨⟨k, v⟩, ⟨mem_entries.mpr hm, hp⟩, rfl⟩

theorem nodup_keysWhere (p : V → Bool) (m : Map K V) : (keysWhere p m).Nodup :=
  (List.filter_sublist.map Sigma.fst).nodup m.keys_nodup

/-- The values of a map, in the order of its entries. -/
def values (m : Map K V) : List V := m.entries.map Sigma.snd

theorem mem_values [DecidableEq K] {m : Map K V} {v : V} :
    v ∈ values m ↔ ∃ k, m.lookup k = some v := by
  rw [values, List.mem_map]
  constructor
  · rintro ⟨⟨k, v⟩, h, rfl⟩
    exact ⟨k, mem_entries.mp h⟩
  · rintro ⟨k, h⟩
    exact ⟨⟨k, v⟩, mem_entries.mpr h, rfl⟩

/-- A new key adds its value. -/
theorem values_insert [DecidableEq K] {m : Map K V} {k : K} {v : V} (h : m.lookup k = none) :
    values (m.insert k v) = v :: values m := by
  rw [values, AList.entries_insert_of_notMem (AList.lookup_eq_none.mp h)]
  rfl

/-- A key that is erased takes its value away, once. -/
theorem values_erase [DecidableEq K] {m : Map K V} {k : K} {v : V} (h : m.lookup k = some v) :
    (values m).Perm (v :: values (m.erase k)) := by
  have present : k ∈ m.entries.keys :=
    AList.mem_keys.mp (AList.lookup_isSome.mp (h ▸ rfl))
  obtain ⟨v', before, after, absent, split, erased⟩ := List.exists_of_kerase present
  have same : v' = v := by
    have entry : (⟨k, v'⟩ : Sigma fun _ : K => V) ∈ m.entries :=
      split ▸ List.mem_append_right before List.mem_cons_self
    rw [mem_entries, h] at entry
    exact (Option.some.inj entry).symm
  subst same
  have kept : (m.erase k).entries = before ++ after := erased
  rw [values, values, kept, split, List.map_append, List.map_append, List.map_cons]
  exact List.perm_middle

/-- The values of a map in the order in which one loop over it meets them. -/
structure Walk (K V : Type*) where
  values : Map K V → List V
  perm : ∀ m, (values m).Perm (m.entries.map Sigma.snd)

/-- The walk in the order of the entries. -/
def Walk.inOrder (K V : Type*) : Walk K V where
  values m := m.entries.map Sigma.snd
  perm _ := .refl _

/-- Whatever its order, a walk meets the values at the keys once each. -/
theorem Walk.perm_filterMap [DecidableEq K] (walk : Walk K V) {m : Map K V} {ks : List K}
    (nodup : ks.Nodup) (all : ∀ k v, m.lookup k = some v → k ∈ ks) :
    (walk.values m).Perm (ks.filterMap m.lookup) := by
  have keyed : m.entries.Perm (ks.filterMap fun k => (m.lookup k).map (Sigma.mk k)) := by
    refine (List.perm_ext_iff_of_nodup m.nodupKeys.nodup ?_).mpr ?_
    · refine nodup.filterMap ?_
      intro k k' e hk hk'
      obtain ⟨v, -, rfl⟩ := Option.map_eq_some_iff.mp hk
      obtain ⟨v', -, same⟩ := Option.map_eq_some_iff.mp hk'
      exact (congrArg Sigma.fst same).symm
    · rintro ⟨k, v⟩
      rw [mem_entries, List.mem_filterMap]
      constructor
      · intro h
        exact ⟨k, all k v h, Option.map_eq_some_iff.mpr ⟨v, h, rfl⟩⟩
      · rintro ⟨k', -, h⟩
        obtain ⟨v', hv', same⟩ := Option.map_eq_some_iff.mp h
        cases same
        exact hv'
  have values := (walk.perm m).trans (keyed.map Sigma.snd)
  simpa only [List.map_filterMap, Option.map_map, Function.comp_def, Option.map_id'] using values

end Assoc
