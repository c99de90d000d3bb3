import AstraSystem.Lib.Assoc
import AstraSystem.Lib.Gossip
import AstraSystem.Lib.Newest
import AstraSystem.SyncDaemon.Crdt.Hlc

/-!
# The last-writer-wins element set (`crdt/mod.rs`)

Writes are accepted by `Hlc::dominates`, which leaves timestamps that differ in
the node id alone incomparable. Replicas therefore converge exactly when no two
such writes to one key differ in effect (`converges_iff`).
-/

namespace SyncDaemon.Crdt

open Assoc (Map)

structure ElementEntry (V : Type) where
  value : Option V
  hlc : Hlc
  removed : Bool
  deriving DecidableEq, Repr

structure LwwElementSet (K V : Type) where
  entries : Map K (ElementEntry V)

variable {K V : Type} [DecidableEq K]

namespace LwwElementSet

def new : LwwElementSet K V := ⟨∅⟩

/-- The guard `add` and `remove` share: an entry that `hlc` does not dominate stays. -/
def refuses (self : LwwElementSet K V) (key : K) (hlc : Hlc) : Bool :=
  match self.entries.lookup key with
  | some entry => !hlc.dominates entry.hlc
  | none => false

def add (self : LwwElementSet K V) (key : K) (value : V) (hlc : Hlc) :
    LwwElementSet K V × Bool :=
  if self.refuses key hlc then (self, false)
  else (⟨self.entries.insert key ⟨some value, hlc, false⟩⟩, true)

def remove (self : LwwElementSet K V) (key : K) (hlc : Hlc) : LwwElementSet K V × Bool :=
  if self.refuses key hlc then (self, false)
  else
    let (found, rest) := self.entries.extract key
    let newEntry := found.getD ⟨none, hlc, false⟩
    (⟨rest.insert key { newEntry with value := none, hlc := hlc, removed := true }⟩, true)

def get (self : LwwElementSet K V) (key : K) : Option V :=
  (self.entries.lookup key).bind fun entry => if entry.removed then none else entry.value

def contains (self : LwwElementSet K V) (key : K) : Bool := (self.get key).isSome

def keys (self : LwwElementSet K V) : List K :=
  Assoc.keysWhere (fun entry => !entry.removed && entry.value.isSome) self.entries

/-- The body of the loop in `merge`. -/
def mergeEntry (ours : Map K (ElementEntry V)) (key : K) (otherEntry : ElementEntry V) :
    Map K (ElementEntry V) :=
  let keepOther := match ours.lookup key with
    | some ourEntry => otherEntry.hlc.dominates ourEntry.hlc
    | none => true
  if keepOther then ours.insert key otherEntry else ours

def merge (self other : LwwElementSet K V) : LwwElementSet K V :=
  ⟨other.entries.foldl mergeEntry self.entries⟩

end LwwElementSet

/-- What a reader can see of an entry. -/
def ElementEntry.effect (e : ElementEntry V) : Option V := if e.removed then none else e.value

/-- Every update of an entry keeps the newer of two by stamp, the old one on a tie. -/
abbrev newer (old : Option (ElementEntry V)) (e : ElementEntry V) : Option (ElementEntry V) :=
  Newest.keep (fun e => e.hlc.stamp) old e

namespace LwwElementSet

theorem newer_none (e : ElementEntry V) : newer none e = some e := rfl

theorem newer_some (o e : ElementEntry V) :
    newer (some o) e = if e.hlc.dominates o.hlc then some e else some o := by
  simp only [newer, Newest.keep, ← Hlc.dominates_iff]

theorem get_eq (s : LwwElementSet K V) (k : K) :
    s.get k = ((s.entries.lookup k).map ElementEntry.effect).join := by
  cases h : s.entries.lookup k <;> simp [get, h, ElementEntry.effect]

theorem insert_eq_newer {s : LwwElementSet K V} {key : K} {e : ElementEntry V}
    (h : s.refuses key e.hlc = false) (a : K) :
    (s.entries.insert key e).lookup a =
      if a = key then newer (s.entries.lookup key) e else s.entries.lookup a := by
  by_cases ha : a = key
  · subst ha
    rw [if_pos rfl, AList.lookup_insert]
    cases ho : s.entries.lookup a with
    | none => rfl
    | some o =>
      simp only [refuses, ho, Bool.not_eq_false'] at h
      rw [newer_some, if_pos h]
  · rw [if_neg ha, AList.lookup_insert_ne ha]

theorem refused_eq_newer {s : LwwElementSet K V} {key : K} {e : ElementEntry V}
    (h : s.refuses key e.hlc = true) (a : K) :
    s.entries.lookup a =
      if a = key then newer (s.entries.lookup key) e else s.entries.lookup a := by
  split
  · rename_i ha
    subst ha
    cases ho : s.entries.lookup a with
    | none => simp only [refuses, ho, Bool.false_eq_true] at h
    | some o =>
      simp only [refuses, ho, Bool.not_eq_true'] at h
      rw [newer_some, h, if_neg Bool.false_ne_true]
  · rfl

theorem lookup_add (s : LwwElementSet K V) (key : K) (value : V) (hlc : Hlc) (a : K) :
    (s.add key value hlc).1.entries.lookup a =
      if a = key then newer (s.entries.lookup key) ⟨some value, hlc, false⟩
      else s.entries.lookup a := by
  unfold add
  cases h : s.refuses key hlc
  · exact insert_eq_newer (e := ⟨some value, hlc, false⟩) h a
  · exact refused_eq_newer (e := ⟨some value, hlc, false⟩) h a

theorem lookup_remove (s : LwwElementSet K V) (key : K) (hlc : Hlc) (a : K) :
    (s.remove key hlc).1.entries.lookup a =
      if a = key then newer (s.entries.lookup key) ⟨none, hlc, true⟩
      else s.entries.lookup a := by
  unfold remove
  cases h : s.refuses key hlc
  · have same := insert_eq_newer (e := ⟨none, hlc, true⟩) h a
    simp only [Bool.false_eq_true, ↓reduceIte, AList.extract_eq_lookup_erase]
    rw [← same]
    by_cases ha : a = key
    · subst ha; rw [AList.lookup_insert, AList.lookup_insert]
    · rw [AList.lookup_insert_ne ha, AList.lookup_insert_ne ha, AList.lookup_erase_ne ha]
  · exact refused_eq_newer (e := ⟨none, hlc, true⟩) h a

theorem mergeEntry_local :
    Assoc.Local (W := ElementEntry V) (mergeEntry : Map K (ElementEntry V) → _) newer := by
  intro m k e b
  unfold mergeEntry
  cases ho : m.lookup k with
  | none =>
    simp only [↓reduceIte, newer_none]
    split
    · rename_i hb; rw [hb, AList.lookup_insert]
    · rename_i hb; rw [AList.lookup_insert_ne hb]
  | some o =>
    simp only [newer_some]
    by_cases hd : e.hlc.dominates o.hlc = true
    · simp only [hd, ↓reduceIte]
      split
      · rename_i hb; rw [hb, AList.lookup_insert]
      · rename_i hb; rw [AList.lookup_insert_ne hb]
    · simp only [hd, Bool.false_eq_true, ↓reduceIte]
      split
      · rename_i hb; rw [hb, ho]
      · rfl

theorem lookup_merge (s t : LwwElementSet K V) (a : K) :
    (s.merge t).entries.lookup a =
      match t.entries.lookup a with
      | some e => newer (s.entries.lookup a) e
      | none => s.entries.lookup a := by
  have h := Assoc.lookup_foldl mergeEntry_local s.entries t.entries a
  cases ht : t.entries.lookup a <;> simpa only [merge, ht] using h

theorem mem_keys {s : LwwElementSet K V} {k : K} : k ∈ s.keys ↔ s.contains k = true := by
  simp only [keys, Assoc.mem_keysWhere, contains, get_eq]
  cases s.entries.lookup k with
  | none => simp
  | some e => cases hr : e.removed <;> simp [ElementEntry.effect, hr]

/-- Two sets that answer every read alike. -/
structure SameReads (s t : LwwElementSet K V) : Prop where
  get : ∀ k, s.get k = t.get k
  contains : ∀ k, s.contains k = t.contains k
  keys : s.keys.Perm t.keys

theorem sameReads_of_get {s t : LwwElementSet K V} (h : ∀ k, s.get k = t.get k) :
    SameReads s t := by
  have hc : ∀ k, s.contains k = t.contains k := fun k => by simp only [LwwElementSet.contains, h k]
  refine ⟨h, hc, ?_⟩
  apply (List.perm_ext_iff_of_nodup (Assoc.nodup_keysWhere _ _) (Assoc.nodup_keysWhere _ _)).mpr
  intro k
  exact mem_keys.trans (by rw [hc k]; exact mem_keys.symm)

end LwwElementSet

/-! ## Replicas of one set -/

inductive LwwWrite (K V : Type) where
  | add (key : K) (value : V) (hlc : Hlc)
  | remove (key : K) (hlc : Hlc)
  deriving DecidableEq

namespace LwwWrite

omit [DecidableEq K]

def key : LwwWrite K V → K
  | add k _ _ => k
  | remove k _ => k

/-- The entry the write stores where it is accepted. -/
def entry : LwwWrite K V → ElementEntry V
  | add _ v h => ⟨some v, h, false⟩
  | remove _ h => ⟨none, h, true⟩

def hlc (x : LwwWrite K V) : Hlc := x.entry.hlc

def effect (x : LwwWrite K V) : Option V := x.entry.effect

end LwwWrite

open Gossip

def lwwReplicas (K V : Type) [DecidableEq K] : System ℕ (LwwWrite K V) (LwwElementSet K V) where
  init := .new
  apply _ x s := match x with
    | .add k v h => (s.add k v h).1
    | .remove k h => (s.remove k h).1
  merge s t := s.merge t

/-- The entries that the writes numbered in `A` offer at one key. -/
def offered (L : List (Event ℕ (LwwWrite K V))) (A : Finset ℕ) (k : K) : Set (ElementEntry V) :=
  {e | ∃ x ∈ select L A, x.op.key = k ∧ x.op.entry = e}

/-- A copy holds at every key the newest entry offered by the writes it absorbed. -/
def HoldsNewest (L : List (Event ℕ (LwwWrite K V))) (c : Copy (LwwElementSet K V)) : Prop :=
  ∀ k, Newest.Of (fun e => e.hlc.stamp) (offered L c.absorbed k) (c.state.entries.lookup k)

theorem lookup_apply (i : ℕ) (x : LwwWrite K V) (s : LwwElementSet K V) (k : K) :
    ((lwwReplicas K V).apply i x s).entries.lookup k =
      if k = x.key then newer (s.entries.lookup x.key) x.entry else s.entries.lookup k := by
  cases x with
  | add key v h => exact s.lookup_add key v h k
  | remove key h => exact s.lookup_remove key h k

omit [DecidableEq K] in
theorem offered_issue (L : List (Event ℕ (LwwWrite K V))) (A : Finset ℕ)
    (x : Event ℕ (LwwWrite K V)) (k : K) :
    offered (L ++ [x]) (insert L.length A) k =
      {e | e ∈ offered L A k ∨ x.op.key = k ∧ x.op.entry = e} := by
  ext e
  simp only [offered, select_issue, List.mem_append, List.mem_singleton, Set.mem_ofPred_eq]
  constructor
  · intro h
    obtain ⟨y, hy | rfl, h⟩ := h
    · exact .inl ⟨y, hy, h⟩
    · exact .inr h
  · intro h
    obtain ⟨y, hy, h⟩ | h := h
    · exact ⟨y, .inl hy, h⟩
    · exact ⟨x, .inr rfl, h⟩

omit [DecidableEq K] in
theorem offered_union (L : List (Event ℕ (LwwWrite K V))) (A B : Finset ℕ) (k : K) :
    offered L (A ∪ B) k = offered L A k ∪ offered L B k := by
  ext e
  simp only [offered, mem_select, Finset.mem_union, Set.mem_ofPred_eq, Set.mem_union]
  constructor
  · intro h
    obtain ⟨x, ⟨n, hn | hn, hx⟩, h⟩ := h
    · exact .inl ⟨x, ⟨n, hn, hx⟩, h⟩
    · exact .inr ⟨x, ⟨n, hn, hx⟩, h⟩
  · intro h
    obtain ⟨x, ⟨n, hn, hx⟩, h⟩ | ⟨x, ⟨n, hn, hx⟩, h⟩ := h
    · exact ⟨x, ⟨n, .inl hn, hx⟩, h⟩
    · exact ⟨x, ⟨n, .inr hn, hx⟩, h⟩

theorem holdsNewest_stable : Stable (lwwReplicas K V) HoldsNewest where
  start k := by
    have none_offered : offered ([] : List (Event ℕ (LwwWrite K V))) ∅ k = ∅ := by
      ext e; simp [offered, select]
    simp only [none_offered]
    exact Newest.of_empty
  grow L c e hs _ h k := by
    simp only [offered, select_append hs.issued]
    exact h k
  issue L c i x hs h k := by
    simp only [offered_issue, System.issue, lookup_apply]
    by_cases hk : k = x.key
    · have more : {e | e ∈ offered L c.absorbed k ∨ x.key = k ∧ x.entry = e} =
          insert x.entry (offered L c.absorbed x.key) := by
        ext e
        simp only [hk, true_and, Set.mem_ofPred_eq, Set.mem_insert_iff]
        exact or_comm.trans (or_congr_left eq_comm)
      rw [if_pos hk, more]
      exact Newest.of_insert (h x.key) x.entry
    · have same : {e | e ∈ offered L c.absorbed k ∨ x.key = k ∧ x.entry = e} =
          offered L c.absorbed k := by
        ext e
        simp [Ne.symm hk]
      rw [if_neg hk, same]
      exact h k
  join L c d _ _ hc hd k := by
    simp only [offered_union, System.join, lwwReplicas, LwwElementSet.lookup_merge]
    cases hv : d.state.entries.lookup k with
    | none =>
      have empty : offered L d.absorbed k = ∅ := by
        have := hd k
        rwa [hv] at this
      simp only [empty, Set.union_empty]
      exact hc k
    | some v => exact Newest.of_union (hc k) (by simpa only [hv] using hd k)

/-- What convergence asks of a set of writes: in every run that issues writes of the set, no
timestamp twice, merging obeys the laws of a join as far as readers can tell, and
copies that absorbed the same writes answer every read alike. -/
def Converges (writes : Set (LwwWrite K V)) : Prop :=
  ∀ acts : List (Action ℕ (LwwWrite K V)),
    (∀ e ∈ ((lwwReplicas K V).world acts).issued, e.op ∈ writes) →
    (((lwwReplicas K V).world acts).issued.map fun e => e.op.hlc).Nodup →
    ∀ a b c, ((lwwReplicas K V).world acts).HasCopy a → ((lwwReplicas K V).world acts).HasCopy b →
      ((lwwReplicas K V).world acts).HasCopy c →
      LwwElementSet.SameReads (a.state.merge b.state) (b.state.merge a.state) ∧
      LwwElementSet.SameReads ((a.state.merge b.state).merge c.state)
        (a.state.merge (b.state.merge c.state)) ∧
      LwwElementSet.SameReads (a.state.merge a.state) a.state ∧
      (a.absorbed = b.absorbed → LwwElementSet.SameReads a.state b.state)

/-- Writes to one key that differ in the node id alone have the same effect. -/
def TiesAgree (writes : Set (LwwWrite K V)) : Prop :=
  ∀ x ∈ writes, ∀ y ∈ writes, x.key = y.key → x.hlc ≠ y.hlc →
    x.hlc.wallclockMs = y.hlc.wallclockMs → x.hlc.counter = y.hlc.counter → x.effect = y.effect

section
variable {writes : Set (LwwWrite K V)} {acts : List (Action ℕ (LwwWrite K V))}

theorem sameReads_of_absorbed (ties : TiesAgree writes)
    (used : ∀ e ∈ ((lwwReplicas K V).world acts).issued, e.op ∈ writes)
    (once : (((lwwReplicas K V).world acts).issued.map fun e => e.op.hlc).Nodup)
    {a b : Copy (LwwElementSet K V)} (ha : Derived (lwwReplicas K V) ((lwwReplicas K V).world acts) a)
    (hb : Derived (lwwReplicas K V) ((lwwReplicas K V).world acts) b)
    (same : a.absorbed = b.absorbed) : LwwElementSet.SameReads a.state b.state := by
  apply LwwElementSet.sameReads_of_get
  intro k
  have na := holdsNewest_stable.derived ha k
  have nb := holdsNewest_stable.derived hb k
  rw [← same] at nb
  rw [LwwElementSet.get_eq, LwwElementSet.get_eq, Newest.unique na nb]
  · rintro _ ⟨x, hx, rfl, rfl⟩ _ ⟨y, hy, hk, rfl⟩ hs
    have hx' := (select_sublist _ _).subset hx
    have hy' := (select_sublist _ _).subset hy
    by_cases hh : x.op.hlc = y.op.hlc
    · rw [List.inj_on_of_nodup_map once hx' hy' hh]
    · obtain ⟨hw, hc⟩ := (Hlc.stamp_eq_iff _ _).mp hs
      exact ties _ (used x hx') _ (used y hy') hk.symm hh hw hc

theorem converges_of_tiesAgree (ties : TiesAgree writes) : Converges writes := by
  intro acts used once a b c ha hb hc
  have da := Derived.copy (S := lwwReplicas K V) ha
  have db := Derived.copy (S := lwwReplicas K V) hb
  have dc := Derived.copy (S := lwwReplicas K V) hc
  have alike {x y : Copy (LwwElementSet K V)} :=
    sameReads_of_absorbed (a := x) (b := y) ties used once
  refine ⟨?_, ?_, ?_, fun h => alike da db h⟩
  · exact alike (da.join db) (db.join da) (Finset.union_comm _ _)
  · exact alike ((da.join db).join dc) (da.join (db.join dc)) (Finset.union_assoc _ _ _)
  · exact alike (da.join da) da (Finset.union_self _)

end

/-- A first write meets a write to the same key that does not dominate it, and stays. -/
theorem get_merge_of_not_newer {x y : LwwWrite K V} (hk : x.key = y.key)
    (hs : y.hlc.stamp ≤ x.hlc.stamp) (i j : ℕ) :
    (((lwwReplicas K V).apply i x .new).merge ((lwwReplicas K V).apply j y .new)).get x.key =
      x.effect := by
  have hd : y.entry.hlc.dominates x.entry.hlc = false := (Hlc.not_dominates_iff _ _).mpr hs
  have empty (k : K) : (LwwElementSet.new : LwwElementSet K V).entries.lookup k = none := rfl
  have first : ((lwwReplicas K V).apply i x .new).entries.lookup x.key = some x.entry := by
    rw [lookup_apply, if_pos rfl, empty]; rfl
  have second : ((lwwReplicas K V).apply j y .new).entries.lookup x.key = some y.entry := by
    rw [lookup_apply, if_pos hk, empty]; rfl
  rw [LwwElementSet.get_eq, LwwElementSet.lookup_merge, second, first]
  simp only [LwwElementSet.newer_some, hd, Bool.false_eq_true, ↓reduceIte]
  rfl

theorem tiesAgree_of_converges {writes : Set (LwwWrite K V)} (h : Converges writes) :
    TiesAgree writes := by
  intro x hx y hy hk hne hw hc
  have tie : x.hlc.stamp = y.hlc.stamp := (Hlc.stamp_eq_iff _ _).mpr ⟨hw, hc⟩
  -- each of two replicas issues one of the writes
  let acts : List (Action ℕ (LwwWrite K V)) := [.update 0 x, .update 1 y]
  have issued : ((lwwReplicas K V).world acts).issued = [⟨0, x, ∅⟩, ⟨1, y, ∅⟩] := rfl
  have left : ((lwwReplicas K V).world acts).HasCopy
      ⟨(lwwReplicas K V).apply 0 x .new, {0}⟩ := .inr ⟨0, rfl⟩
  have right : ((lwwReplicas K V).world acts).HasCopy
      ⟨(lwwReplicas K V).apply 1 y .new, {1}⟩ := .inr ⟨1, rfl⟩
  have laws := h acts (by simp [issued, hx, hy]) (by simp [issued, hne]) _ _ _ left right left
  have swap := laws.1.get y.key
  rw [← hk, get_merge_of_not_newer hk tie.ge, hk, get_merge_of_not_newer hk.symm tie.le] at swap
  exact swap

/-- **The set converges exactly when ties agree.** `Hlc::dominates` calls two writes that differ
in the node id alone incomparable, so each replica keeps the one it saw first; readers notice
unless the two writes have one effect. -/
theorem converges_iff (writes : Set (LwwWrite K V)) : Converges writes ↔ TiesAgree writes :=
  ⟨tiesAgree_of_converges, converges_of_tiesAgree⟩

def tiedCounts : Set (LwwWrite String ℕ) :=
  {.add "sku-1" 10 ⟨1700000000000, 0, "k1"⟩, .add "sku-1" 20 ⟨1700000000000, 0, "k2"⟩}

/-- Two kiosks count one SKU in the same millisecond; each keeps its own count for ever. -/
theorem tied_counts_diverge : ¬ Converges tiedCounts := by
  intro h
  have laws := h [.update 0 (.add "sku-1" 10 ⟨1700000000000, 0, "k1"⟩),
      .update 1 (.add "sku-1" 20 ⟨1700000000000, 0, "k2"⟩)]
    (by simp [System.world, Runs.run, System.step, System.start, tiedCounts])
    (by decide) _ _ _ (.inr ⟨0, rfl⟩) (.inr ⟨1, rfl⟩) (.inr ⟨0, rfl⟩)
  exact absurd (laws.1.get "sku-1") (by decide)

end SyncDaemon.Crdt
