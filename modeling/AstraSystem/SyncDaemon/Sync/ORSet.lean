import AstraSystem.Lib.Assoc
import AstraSystem.Lib.Gossip

/-!
# The observed-remove set (`sync/crdt.rs`)

Adding an element attaches a fresh tag to it. Removing it moves the tags it has
to a list of tombstones, so an addition the remover had not heard of survives.
-/

namespace SyncDaemon.Sync

open Assoc (Map)

structure ORSet (T : Type) where
  entries : Map T (List String)
  removedTags : List String

variable {T : Type} [DecidableEq T]

namespace ORSet

def new : ORSet T := ⟨∅, []⟩

/-- A tag that was already removed is skipped. -/
def add (self : ORSet T) (element : T) (tag : String) : ORSet T :=
  if self.removedTags.contains tag then self
  else
    let tags := (self.entries.lookup element).getD []
    { self with entries := self.entries.insert element (tags ++ [tag]) }

def remove (self : ORSet T) (element : T) : ORSet T :=
  match self.entries.lookup element with
  | some tags => ⟨self.entries.erase element, self.removedTags ++ tags⟩
  | none => self

def contains (self : ORSet T) (element : T) : Bool :=
  match self.entries.lookup element with
  | some tags => !tags.isEmpty && tags.any fun t => !self.removedTags.contains t
  | none => false

def elements (self : ORSet T) : List T :=
  Assoc.keysWhere (fun tags => tags.any fun t => !self.removedTags.contains t) self.entries

/-- The first loop of `merge`. -/
def mergeTombstones (ours theirs : List String) : List String :=
  theirs.foldl (fun acc tag => if acc.contains tag then acc else acc ++ [tag]) ours

/-- The second loop of `merge`, for one element. -/
def mergeTags (removedTags ours theirs : List String) : List String :=
  theirs.foldl (fun acc tag =>
    if !acc.contains tag && !removedTags.contains tag then acc ++ [tag] else acc) ours

def mergeEntry (removedTags : List String) (entries : Map T (List String)) (element : T)
    (tags : List String) : Map T (List String) :=
  let localTags := (entries.lookup element).getD []
  entries.insert element (mergeTags removedTags localTags tags)

/-- The closure that `retain` runs on every entry at the end of `merge`. -/
def cleanUp (removedTags : List String) (tags : List String) : Option (List String) :=
  let tags := tags.filter fun t => !removedTags.contains t
  if tags.isEmpty then none else some tags

def merge (self other : ORSet T) : ORSet T :=
  let removedTags := mergeTombstones self.removedTags other.removedTags
  let entries := other.entries.foldl (mergeEntry removedTags) self.entries
  ⟨Assoc.retain (fun _ tags => cleanUp removedTags tags) entries, removedTags⟩

def len (self : ORSet T) : ℕ := self.entries.entries.length

def isEmpty (self : ORSet T) : Bool := self.entries.entries.isEmpty

/-! ## The tags of one element -/

def tagsOf (self : ORSet T) (element : T) : List String := (self.entries.lookup element).getD []

theorem mem_mergeTombstones {ours theirs : List String} {t : String} :
    t ∈ mergeTombstones ours theirs ↔ t ∈ ours ∨ t ∈ theirs := by
  unfold mergeTombstones
  induction theirs generalizing ours with
  | nil => simp
  | cons tag theirs ih =>
    rw [List.foldl_cons, ih, List.mem_cons]
    split
    · rename_i h
      rw [List.contains_iff_mem] at h
      constructor
      · exact Or.imp_right .inr
      · intro held
        obtain ours | rfl | theirs := held
        · exact .inl ours
        · exact .inl h
        · exact .inr theirs
    · rw [List.mem_append, List.mem_singleton, or_assoc]

theorem mem_mergeTags {removedTags ours theirs : List String} {t : String} :
    t ∈ mergeTags removedTags ours theirs ↔ t ∈ ours ∨ t ∈ theirs ∧ t ∉ removedTags := by
  unfold mergeTags
  induction theirs generalizing ours with
  | nil => simp
  | cons tag theirs ih =>
    rw [List.foldl_cons, ih, List.mem_cons]
    by_cases hr : tag ∈ removedTags <;> by_cases ho : tag ∈ ours <;> simp [hr, ho] <;> grind

theorem mergeEntry_local (removedTags : List String) :
    Assoc.Local (mergeEntry (T := T) removedTags) fun old tags =>
      some (mergeTags removedTags (old.getD []) tags) := by
  intro m k tags a
  unfold mergeEntry
  by_cases ha : a = k
  · rw [ha, AList.lookup_insert, if_pos rfl]
  · rw [AList.lookup_insert_ne ha, if_neg ha]

theorem mem_cleanUp {removedTags : List String} {tags : Option (List String)} {t : String} :
    t ∈ (tags.bind (cleanUp removedTags)).getD [] ↔ t ∈ tags.getD [] ∧ t ∉ removedTags := by
  cases tags with
  | none => simp
  | some tags =>
    simp only [Option.bind_some, cleanUp, Option.getD_some]
    split
    · rename_i h
      rw [List.isEmpty_iff, List.filter_eq_nil_iff] at h
      simpa using h t
    · simp

theorem lookup_merge (s o : ORSet T) (e : T) :
    (s.merge o).entries.lookup e =
      (match o.entries.lookup e with
        | some tags => some (mergeTags (s.merge o).removedTags (s.tagsOf e) tags)
        | none => s.entries.lookup e).bind (cleanUp (s.merge o).removedTags) := by
  have loop := Assoc.lookup_foldl (mergeEntry_local (s.merge o).removedTags) s.entries o.entries e
  have clean := Assoc.lookup_retain (fun _ tags => cleanUp (s.merge o).removedTags tags)
    (o.entries.foldl (mergeEntry (s.merge o).removedTags) s.entries) e
  rw [loop] at clean
  cases ho : o.entries.lookup e <;> rw [ho] at clean <;> exact clean

theorem mem_removedTags_merge {s o : ORSet T} {t : String} :
    t ∈ (s.merge o).removedTags ↔ t ∈ s.removedTags ∨ t ∈ o.removedTags := mem_mergeTombstones

theorem mem_tagsOf_merge {s o : ORSet T} {e : T} {t : String} :
    t ∈ (s.merge o).tagsOf e ↔
      (t ∈ s.tagsOf e ∨ t ∈ o.tagsOf e) ∧ t ∉ (s.merge o).removedTags := by
  rw [tagsOf, lookup_merge, mem_cleanUp]
  cases ho : o.entries.lookup e with
  | none => simp [tagsOf, ho]
  | some tags =>
    simp only [Option.getD_some, mem_mergeTags, tagsOf, ho]
    tauto

theorem mem_tagsOf_add {s : ORSet T} {element e : T} {tag t : String}
    (fresh : tag ∉ s.removedTags) :
    t ∈ (s.add element tag).tagsOf e ↔ t ∈ s.tagsOf e ∨ e = element ∧ t = tag := by
  rw [add, if_neg (by simpa using fresh), tagsOf]
  by_cases he : e = element
  · subst he
    simp [tagsOf]
  · simp [tagsOf, AList.lookup_insert_ne he, he]

theorem removedTags_add (s : ORSet T) (element : T) (tag : String) :
    (s.add element tag).removedTags = s.removedTags := by
  unfold add
  split <;> rfl

theorem mem_removedTags_remove {s : ORSet T} {element : T} {t : String} :
    t ∈ (s.remove element).removedTags ↔ t ∈ s.removedTags ∨ t ∈ s.tagsOf element := by
  unfold remove tagsOf
  cases s.entries.lookup element <;> simp

theorem tagsOf_remove (s : ORSet T) (element e : T) :
    (s.remove element).tagsOf e = if e = element then [] else s.tagsOf e := by
  unfold remove tagsOf
  by_cases he : e = element
  · subst he
    rw [if_pos rfl]
    cases h : s.entries.lookup e with
    | none => simp only [h, Option.getD_none]
    | some tags => simp only [AList.lookup_erase, Option.getD_none]
  · rw [if_neg he]
    cases h : s.entries.lookup element with
    | none => rfl
    | some tags => simp only [AList.lookup_erase_ne he]

/-- No element is left without a tag. -/
def Tagged (s : ORSet T) : Prop := ∀ e tags, s.entries.lookup e = some tags → tags ≠ []

theorem Tagged.add {s : ORSet T} (h : s.Tagged) (element : T) (tag : String) :
    (s.add element tag).Tagged := by
  intro e tags hl
  unfold ORSet.add at hl
  split at hl
  · exact h e tags hl
  · by_cases he : e = element
    · subst he
      rw [AList.lookup_insert] at hl
      cases hl
      simp
    · rw [AList.lookup_insert_ne he] at hl
      exact h e tags hl

theorem Tagged.remove {s : ORSet T} (h : s.Tagged) (element : T) : (s.remove element).Tagged := by
  intro e tags hl
  unfold ORSet.remove at hl
  split at hl
  · by_cases he : e = element
    · subst he
      rw [AList.lookup_erase] at hl
      cases hl
    · rw [AList.lookup_erase_ne he] at hl
      exact h e tags hl
  · exact h e tags hl

theorem tagged_merge (s o : ORSet T) : (s.merge o).Tagged := by
  intro e tags hl
  rw [lookup_merge] at hl
  obtain ⟨all, _, hc⟩ := Option.bind_eq_some_iff.mp hl
  simp only [cleanUp, Option.ite_none_left_eq_some, List.isEmpty_iff] at hc
  exact Option.some.inj hc.2 ▸ hc.1

/-- Elements have tags, and none that was removed. -/
def Tidy (s : ORSet T) : Prop :=
  ∀ e tags, s.entries.lookup e = some tags → tags ≠ [] ∧ ∀ t ∈ tags, t ∉ s.removedTags

theorem Tidy.mem_elements {s : ORSet T} (h : s.Tidy) {e : T} :
    e ∈ s.elements ↔ ∃ t, t ∈ s.tagsOf e := by
  rw [elements, Assoc.mem_keysWhere, tagsOf]
  constructor
  · rintro ⟨tags, hl, hany⟩
    obtain ⟨t, ht, _⟩ := List.any_eq_true.mp hany
    exact ⟨t, by rw [hl]; exact ht⟩
  · rintro ⟨t, ht⟩
    cases hl : s.entries.lookup e with
    | none => rw [hl] at ht; cases ht
    | some tags =>
      rw [hl] at ht
      exact ⟨tags, rfl, List.any_eq_true.mpr ⟨t, ht, by simpa using (h e tags hl).2 t ht⟩⟩

theorem contains_iff (s : ORSet T) (e : T) : s.contains e = true ↔ e ∈ s.elements := by
  rw [elements, Assoc.mem_keysWhere, contains]
  cases hl : s.entries.lookup e with
  | none => simp
  | some tags =>
    simp only [Bool.and_eq_true, Option.some.injEq, exists_eq_left', and_iff_right_iff_imp]
    intro hany
    obtain ⟨t, ht, _⟩ := List.any_eq_true.mp hany
    cases tags with
    | nil => cases ht
    | cons => rfl

theorem Tidy.len_eq {s : ORSet T} (h : s.Tidy) : s.len = s.elements.length := by
  have all : s.entries.entries.filter
      (fun e => e.2.any fun t => !s.removedTags.contains t) = s.entries.entries := by
    apply List.filter_eq_self.mpr
    rintro ⟨e, tags⟩ he
    obtain ⟨ne, live⟩ := h e tags (Assoc.mem_entries.mp he)
    obtain ⟨t, ht⟩ := List.exists_mem_of_ne_nil tags ne
    exact List.any_eq_true.mpr ⟨t, ht, by simpa using live t ht⟩
  rw [len, elements, Assoc.keysWhere, all, List.length_map]

end ORSet

/-! ## Replicas of one set -/

inductive SetOp (T : Type) where
  | add (element : T) (tag : String)
  | remove (element : T)
  deriving DecidableEq

def SetOp.tag? : SetOp T → Option String
  | add _ tag => some tag
  | remove _ => none

open Gossip

def orSetReplicas (T : Type) [DecidableEq T] : System ℕ (SetOp T) (ORSet T) where
  init := .new
  apply _ x s := match x with
    | .add element tag => s.add element tag
    | .remove element => s.remove element
  merge s o := s.merge o

section
omit [DecidableEq T]
variable {L : List (Event ℕ (SetOp T))} {A B : Finset ℕ} {e : T} {t : String} {k : ℕ}

/-- Every addition has a tag of its own. -/
def FreshTags (L : List (Event ℕ (SetOp T))) : Prop := (L.filterMap fun e => e.op.tag?).Nodup

/-- Operation `k` adds `e` with tag `t`. -/
def Added (L : List (Event ℕ (SetOp T))) (k : ℕ) (e : T) (t : String) : Prop :=
  ∃ f, L[k]? = some f ∧ f.op = .add e t

/-- A removal of `e` among the operations `A` was issued where `k` had been absorbed. -/
def Observed (L : List (Event ℕ (SetOp T))) (A : Finset ℕ) (e : T) (k : ℕ) : Prop :=
  ∃ m ∈ A, ∃ f, L[m]? = some f ∧ f.op = .remove e ∧ k ∈ f.past

theorem Added.lt (h : Added L k e t) : k < L.length := by
  obtain ⟨f, hf, _⟩ := h
  exact (List.getElem?_eq_some_iff.mp hf).1

theorem FreshTags.unique (h : FreshTags L) {j : ℕ} {f : T} (hk : Added L k e t)
    (hj : Added L j f t) : k = j ∧ e = f := by
  obtain ⟨x, hx, ex⟩ := hk
  obtain ⟨y, hy, ey⟩ := hj
  obtain ⟨lk, rfl⟩ := List.getElem?_eq_some_iff.mp hx
  obtain ⟨lj, rfl⟩ := List.getElem?_eq_some_iff.mp hy
  have apart := List.pairwise_iff_getElem.mp (List.pairwise_filterMap.mp h)
  have tk : L[k].op.tag? = some t := by rw [ex]; rfl
  have tj : L[j].op.tag? = some t := by rw [ey]; rfl
  obtain hlt | rfl | hlt := Nat.lt_trichotomy k j
  · exact absurd rfl (apart k j lk lj hlt t tk t tj)
  · rw [ex] at ey
    cases ey
    exact ⟨rfl, rfl⟩
  · exact absurd rfl (apart j k lj lk hlt t tj t tk)

theorem FreshTags.of_append {M : List (Event ℕ (SetOp T))} (h : FreshTags (L ++ M)) :
    FreshTags L := by
  rw [FreshTags, List.filterMap_append] at h
  exact (List.nodup_append.mp h).1

theorem added_append (x : Event ℕ (SetOp T)) :
    Added (L ++ [x]) k e t ↔ Added L k e t ∨ k = L.length ∧ x.op = .add e t := by
  simp only [Added, List.getElem?_append, List.getElem?_singleton]
  constructor
  · rintro ⟨f, hf, ef⟩
    split at hf
    · exact .inl ⟨f, hf, ef⟩
    · split at hf
      · cases hf
        exact .inr ⟨by omega, ef⟩
      · cases hf
  · intro added
    obtain ⟨f, hf, ef⟩ | ⟨rfl, ex⟩ := added
    · exact ⟨f, by rw [if_pos (List.getElem?_eq_some_iff.mp hf).1]; exact hf, ef⟩
    · exact ⟨x, by simp, ex⟩

theorem observed_append (hA : ∀ m ∈ A, m < L.length) (x : Event ℕ (SetOp T)) :
    Observed (L ++ [x]) A e k ↔ Observed L A e k := by
  apply exists_congr
  intro m
  apply and_congr_right
  intro hm
  rw [List.getElem?_append_left (hA m hm)]

theorem observed_issue (hA : ∀ m ∈ A, m < L.length) (x : Event ℕ (SetOp T)) :
    Observed (L ++ [x]) (insert L.length A) e k ↔
      Observed L A e k ∨ x.op = .remove e ∧ k ∈ x.past := by
  rw [← observed_append hA x]
  constructor
  · rintro ⟨m, hm, f, hf, h⟩
    obtain rfl | hm := Finset.mem_insert.mp hm
    · rw [List.getElem?_concat_length] at hf
      cases hf
      exact .inr h
    · exact .inl ⟨m, hm, f, hf, h⟩
  · intro seen
    obtain ⟨m, hm, h⟩ | h := seen
    · exact ⟨m, Finset.mem_insert_of_mem hm, h⟩
    · exact ⟨L.length, Finset.mem_insert_self _ _, x, List.getElem?_concat_length, h⟩

theorem observed_union :
    Observed L (A ∪ B) e k ↔ Observed L A e k ∨ Observed L B e k := by
  simp only [Observed, Finset.mem_union, or_and_right, exists_or]

/-- Operations had absorbed only operations that were already issued. -/
def PastIssued (L : List (Event ℕ (SetOp T))) : Prop := ∀ f ∈ L, ∀ k ∈ f.past, k < L.length

theorem PastIssued.append (h : PastIssued L) {x : Event ℕ (SetOp T)}
    (hx : ∀ k ∈ x.past, k < L.length) : PastIssued (L ++ [x]) := by
  intro f hf k hk
  rw [List.length_append, List.length_singleton]
  cases List.mem_append.mp hf with
  | inl earlier =>
    have := h f earlier k hk
    omega
  | inr new =>
    rw [List.mem_singleton] at new
    have := hx k (new ▸ hk)
    omega

theorem PastIssued.lt (h : PastIssued L) (hk : Observed L A e k) : k < L.length := by
  obtain ⟨m, _, f, hf, _, mem⟩ := hk
  exact h f (List.mem_of_getElem? hf) k mem

end

/-- A copy holds the tags of absorbed additions that no absorbed removal had observed, and has
put the observed ones aside. -/
structure Accounts (L : List (Event ℕ (SetOp T))) (A : Finset ℕ) (s : ORSet T) : Prop where
  live : ∀ e t, t ∈ s.tagsOf e ↔ ∃ k ∈ A, Added L k e t ∧ ¬ Observed L A e k
  dead : ∀ t, t ∈ s.removedTags ↔ ∃ k e, Added L k e t ∧ Observed L A e k
  tagged : s.Tagged

section
variable {L : List (Event ℕ (SetOp T))} {A B : Finset ℕ} {s o : ORSet T}

theorem Accounts.tidy (h : Accounts L A s) (fresh : FreshTags L) : s.Tidy := by
  intro e tags hl
  refine ⟨h.tagged e tags hl, ?_⟩
  intro t ht hr
  have mem : t ∈ s.tagsOf e := by rw [ORSet.tagsOf, hl]; exact ht
  obtain ⟨k, _, added, unseen⟩ := (h.live e t).mp mem
  obtain ⟨j, f, added', seen⟩ := (h.dead t).mp hr
  obtain ⟨rfl, rfl⟩ := fresh.unique added added'
  exact unseen seen

theorem Accounts.grow (h : Accounts L A s) (hA : ∀ m ∈ A, m < L.length) (hp : PastIssued L)
    (x : Event ℕ (SetOp T)) : Accounts (L ++ [x]) A s := by
  refine ⟨?_, ?_, h.tagged⟩
  · intro e t
    simp only [observed_append hA, added_append, h.live]
    refine exists_congr fun k => and_congr_right fun hk => and_congr_left fun _ => ?_
    have := hA k hk
    exact ⟨.inl, fun h => h.resolve_right fun h => by omega⟩
  · intro t
    simp only [observed_append hA, added_append, h.dead]
    refine exists_congr fun k => exists_congr fun e => and_congr_left fun seen => ?_
    have := hp.lt seen
    exact ⟨.inl, fun h => h.resolve_right fun h => by omega⟩

theorem Accounts.add (h : Accounts L A s) (hA : ∀ m ∈ A, m < L.length) (hp : PastIssued L)
    (i : ℕ) (element : T) (tag : String) (fresh : FreshTags (L ++ [⟨i, .add element tag, A⟩])) :
    Accounts (L ++ [⟨i, .add element tag, A⟩]) (insert L.length A) (s.add element tag) := by
  have unseen {e : T} {k : ℕ} :
      Observed (L ++ [⟨i, .add element tag, A⟩]) (insert L.length A) e k ↔ Observed L A e k := by
    simp [observed_issue hA]
  have unused : tag ∉ s.removedTags := by
    intro hr
    obtain ⟨k, e, added, _⟩ := (h.dead tag).mp hr
    have old := (added_append ⟨i, .add element tag, A⟩).mpr (.inl added)
    have new := (added_append (L := L) ⟨i, .add element tag, A⟩).mpr (.inr ⟨rfl, rfl⟩)
    have := added.lt
    have := (fresh.unique old new).1
    omega
  refine ⟨?_, ?_, h.tagged.add element tag⟩
  · intro e t
    rw [ORSet.mem_tagsOf_add unused, h.live]
    simp only [unseen, added_append]
    constructor
    · intro held
      obtain ⟨k, hk, added, hu⟩ | ⟨rfl, rfl⟩ := held
      · exact ⟨k, Finset.mem_insert_of_mem hk, .inl added, hu⟩
      · refine ⟨L.length, Finset.mem_insert_self _ _, .inr ⟨rfl, rfl⟩, ?_⟩
        intro seen
        exact absurd (hp.lt seen) (lt_irrefl _)
    · intro account
      obtain ⟨k, hk, added | ⟨rfl, eq⟩, hu⟩ := account
      · obtain rfl | hk := Finset.mem_insert.mp hk
        · exact absurd added.lt (lt_irrefl _)
        · exact .inl ⟨k, hk, added, hu⟩
      · cases eq
        exact .inr ⟨rfl, rfl⟩
  · intro t
    rw [ORSet.removedTags_add, h.dead]
    simp only [unseen, added_append]
    refine exists_congr fun k => exists_congr fun e => and_congr_left fun seen => ?_
    have := hp.lt seen
    exact ⟨.inl, fun h => h.resolve_right fun h => by omega⟩

theorem Accounts.remove (h : Accounts L A s) (hA : ∀ m ∈ A, m < L.length) (i : ℕ) (element : T) :
    Accounts (L ++ [⟨i, .remove element, A⟩]) (insert L.length A) (s.remove element) := by
  have added {e : T} {t : String} {k : ℕ} :
      Added (L ++ [⟨i, .remove element, A⟩]) k e t ↔ Added L k e t := by
    simp [added_append]
  have seen {e : T} {k : ℕ} : Observed (L ++ [⟨i, .remove element, A⟩]) (insert L.length A) e k ↔
      Observed L A e k ∨ element = e ∧ k ∈ A := by
    simp [observed_issue hA]
  refine ⟨?_, ?_, h.tagged.remove element⟩
  · intro e t
    rw [ORSet.tagsOf_remove]
    simp only [added, seen]
    by_cases he : e = element
    · subst he
      rw [if_pos rfl]
      constructor
      · intro ht; cases ht
      · rintro ⟨k, hk, hadd, hu⟩
        obtain rfl | hk := Finset.mem_insert.mp hk
        · exact absurd hadd.lt (lt_irrefl _)
        · exact absurd (.inr ⟨rfl, hk⟩) hu
    · rw [if_neg he, h.live]
      constructor
      · rintro ⟨k, hk, hadd, hu⟩
        refine ⟨k, Finset.mem_insert_of_mem hk, hadd, ?_⟩
        intro observed
        exact hu (observed.resolve_right fun h => he h.1.symm)
      · rintro ⟨k, hk, hadd, hu⟩
        obtain rfl | hk := Finset.mem_insert.mp hk
        · exact absurd hadd.lt (lt_irrefl _)
        · exact ⟨k, hk, hadd, fun h => hu (.inl h)⟩
  · intro t
    rw [ORSet.mem_removedTags_remove, h.dead, h.live]
    simp only [added, seen]
    constructor
    · intro removed
      obtain ⟨k, e, hadd, hs⟩ | ⟨k, hk, hadd, _⟩ := removed
      · exact ⟨k, e, hadd, .inl hs⟩
      · exact ⟨k, element, hadd, .inr ⟨rfl, hk⟩⟩
    · intro account
      obtain ⟨k, e, hadd, hs | ⟨rfl, hk⟩⟩ := account
      · exact .inl ⟨k, e, hadd, hs⟩
      · by_cases hs : Observed L A element k
        · exact .inl ⟨k, element, hadd, hs⟩
        · exact .inr ⟨k, hk, hadd, hs⟩

theorem Accounts.merge (hs : Accounts L A s) (ho : Accounts L B o) (fresh : FreshTags L) :
    Accounts L (A ∪ B) (s.merge o) := by
  have dead (t : String) : t ∈ (s.merge o).removedTags ↔
      ∃ k e, Added L k e t ∧ Observed L (A ∪ B) e k := by
    simp only [ORSet.mem_removedTags_merge, hs.dead, ho.dead, observed_union, and_or_left, exists_or]
  refine ⟨?_, dead, ORSet.tagged_merge s o⟩
  intro e t
  rw [ORSet.mem_tagsOf_merge, dead, hs.live, ho.live]
  constructor
  · intro held
    obtain ⟨⟨k, hk, hadd, _⟩ | ⟨k, hk, hadd, _⟩, unseen⟩ := held
    · exact ⟨k, Finset.mem_union_left B hk, hadd, fun h => unseen ⟨k, e, hadd, h⟩⟩
    · exact ⟨k, Finset.mem_union_right A hk, hadd, fun h => unseen ⟨k, e, hadd, h⟩⟩
  · rintro ⟨k, hk, hadd, hu⟩
    have both : ¬ Observed L A e k ∧ ¬ Observed L B e k := not_or.mp (observed_union.not.mp hu)
    constructor
    · cases Finset.mem_union.mp hk with
      | inl ours => exact .inl ⟨k, ours, hadd, both.1⟩
      | inr theirs => exact .inr ⟨k, theirs, hadd, both.2⟩
    · rintro ⟨j, f, hadd', hs'⟩
      obtain ⟨rfl, rfl⟩ := fresh.unique hadd hadd'
      exact hu hs'

end

theorem accounts_stable : Stable (orSetReplicas T) fun L c =>
    PastIssued L ∧ (FreshTags L → Accounts L c.absorbed c.state) where
  start := by
    refine ⟨fun f hf => absurd hf List.not_mem_nil, fun _ => ⟨?_, ?_, ?_⟩⟩
    · simp [orSetReplicas, ORSet.new, ORSet.tagsOf]
    · simp [orSetReplicas, ORSet.new, Observed]
    · intro e tags hl; cases hl
  grow L c x hs hx h :=
    ⟨h.1.append hx.issued, fun fresh => (h.2 fresh.of_append).grow hs.issued h.1 x⟩
  issue L c i x hs h := by
    refine ⟨h.1.append hs.issued, ?_⟩
    intro fresh
    have old := h.2 fresh.of_append
    cases x with
    | add element tag => exact old.add hs.issued h.1 i element tag fresh
    | remove element => exact old.remove hs.issued i element
  join L c d _ _ hc hd := ⟨hc.1, fun fresh => (hc.2 fresh).merge (hd.2 fresh) fresh⟩

/-- Some addition of `e` among the operations `A` was unknown to every removal of `e` among them. -/
def Survives (L : List (Event ℕ (SetOp T))) (A : Finset ℕ) (e : T) : Prop :=
  ∃ k ∈ A, ∃ t, Added L k e t ∧ ¬ Observed L A e k

def SameElements (s o : ORSet T) : Prop := s.elements.Perm o.elements

section
variable {acts : List (Action ℕ (SetOp T))} {a b : Copy (ORSet T)}

theorem mem_elements_iff (fresh : FreshTags ((orSetReplicas T).world acts).issued)
    (ha : Derived (orSetReplicas T) ((orSetReplicas T).world acts) a) (e : T) :
    e ∈ a.state.elements ↔ Survives ((orSetReplicas T).world acts).issued a.absorbed e := by
  have h := (accounts_stable.derived ha).2 fresh
  simp only [(h.tidy fresh).mem_elements, h.live, Survives]
  constructor
  · rintro ⟨t, k, hk, hadd⟩
    exact ⟨k, hk, t, hadd⟩
  · rintro ⟨k, hk, t, hadd⟩
    exact ⟨t, k, hk, hadd⟩

theorem sameElements_of_absorbed (fresh : FreshTags ((orSetReplicas T).world acts).issued)
    (ha : Derived (orSetReplicas T) ((orSetReplicas T).world acts) a)
    (hb : Derived (orSetReplicas T) ((orSetReplicas T).world acts) b)
    (same : a.absorbed = b.absorbed) : SameElements a.state b.state := by
  apply (List.perm_ext_iff_of_nodup (Assoc.nodup_keysWhere _ _) (Assoc.nodup_keysWhere _ _)).mpr
  intro e
  have left := mem_elements_iff fresh ha e
  have right := mem_elements_iff fresh hb e
  rw [same] at left
  exact left.trans right.symm

/-- **Replicas agree on the elements, and additions win over concurrent removals.** -/
theorem additions_win (acts : List (Action ℕ (SetOp T)))
    (fresh : FreshTags ((orSetReplicas T).world acts).issued) :
    (∀ a b c, Derived (orSetReplicas T) ((orSetReplicas T).world acts) a →
      Derived (orSetReplicas T) ((orSetReplicas T).world acts) b →
      Derived (orSetReplicas T) ((orSetReplicas T).world acts) c →
      SameElements (a.state.merge b.state) (b.state.merge a.state) ∧
      SameElements ((a.state.merge b.state).merge c.state)
        (a.state.merge (b.state.merge c.state)) ∧
      SameElements (a.state.merge a.state) a.state ∧
      (a.absorbed = b.absorbed → SameElements a.state b.state)) ∧
    ∀ a, Derived (orSetReplicas T) ((orSetReplicas T).world acts) a →
      (∀ e, e ∈ a.state.elements ↔ Survives ((orSetReplicas T).world acts).issued a.absorbed e) ∧
      (∀ e, a.state.contains e = true ↔ e ∈ a.state.elements) ∧
      a.state.len = a.state.elements.length := by
  have alike {x y : Copy (ORSet T)} := sameElements_of_absorbed (a := x) (b := y) fresh
  refine ⟨fun a b c ha hb hc => ⟨?_, ?_, ?_, alike ha hb⟩, fun a ha => ⟨?_, ?_, ?_⟩⟩
  · exact alike (ha.join hb) (hb.join ha) (Finset.union_comm _ _)
  · exact alike ((ha.join hb).join hc) (ha.join (hb.join hc)) (Finset.union_assoc _ _ _)
  · exact alike (ha.join ha) ha (Finset.union_self _)
  · exact mem_elements_iff fresh ha
  · exact a.state.contains_iff
  · exact (((accounts_stable.derived ha).2 fresh).tidy fresh).len_eq

/-- Kiosk 1 takes milk off the list that kiosk 0 has just put there again. -/
def milkTwice : List (Action ℕ (SetOp String)) :=
  [.update 0 (.add "milk" "t0"), .send 0, .receive 1 0, .update 0 (.add "milk" "t1"), .send 0,
    .update 1 (.remove "milk"), .receive 1 1]

theorem milk_survives :
    ∃ c, Derived (orSetReplicas String) ((orSetReplicas String).world milkTwice) c ∧
      Survives ((orSetReplicas String).world milkTwice).issued c.absorbed "milk" := by
  have fresh : FreshTags ((orSetReplicas String).world milkTwice).issued :=
    show List.Nodup _ by decide
  have remover : Derived (orSetReplicas String) ((orSetReplicas String).world milkTwice)
      (((orSetReplicas String).world milkTwice).replica 1) := .copy (.inr ⟨1, rfl⟩)
  obtain ⟨elements, _⟩ := (additions_win milkTwice fresh).2 _ remover
  exact ⟨_, remover, (elements "milk").mp (by decide)⟩

end

end SyncDaemon.Sync
