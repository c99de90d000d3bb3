import AstraSystem.Lib.Assoc
import AstraSystem.Lib.Newest
import AstraSystem.Lib.Runs
import AstraSystem.SharedTypes.Hlc
import Mathlib.Algebra.GroupWithZero.Nat
import Mathlib.Data.String.Basic

/-!
# The last-writer-wins element set of the kiosk (`crdt.ts`)

Merging compares timestamps, while `addLwwElement` and `removeLwwElement` overwrite what is there. So the merge
obeys the laws of a state-based CRDT, and a local operation is safe from earlier copies only where its timestamp
is ahead.
-/

namespace SharedTypes

open Assoc (Map)

structure LwwElement (N S T : Type*) where
  value : T
  hlc : Hlc N S
  deriving DecidableEq

structure LwwElementSet (N S T : Type*) where
  adds : Map String (LwwElement N S T) := ∅
  removes : Map String (Hlc N S) := ∅

variable {N S T : Type*} [LinearOrder N] [LinearOrder S]

def lookupLwwElement (set : LwwElementSet N S T) (id : String) : Option T :=
  match set.adds.lookup id with
  | none => none
  | some add =>
    match set.removes.lookup id with
    | some remove => if (compareHlc remove add.hlc).isGE then none else some add.value
    | none => some add.value

def addLwwElement [Zero N] [One N] [Add N] (now : N) (set : LwwElementSet N S T) (id : String) (value : T)
    (localHlc : Hlc N S) : LwwElementSet N S T :=
  { set with adds := set.adds.insert id ⟨value, incrementHlc now localHlc⟩ }

def removeLwwElement [Zero N] [One N] [Add N] (now : N) (set : LwwElementSet N S T) (id : String)
    (localHlc : Hlc N S) : LwwElementSet N S T :=
  { set with removes := set.removes.insert id (incrementHlc now localHlc) }

/-- The bodies of the two loops in `mergeLwwElementSet`. -/
def mergeEntry {W : Type*} (hlc : W → Hlc N S) (ours : Map String W) (id : String) (other : W) : Map String W :=
  match ours.lookup id with
  | none => ours.insert id other
  | some existing => if compareHlc (hlc other) (hlc existing) = .gt then ours.insert id other else ours

def mergeLwwElementSet (a b : LwwElementSet N S T) : LwwElementSet N S T where
  adds := b.adds.foldl (mergeEntry LwwElement.hlc) a.adds
  removes := b.removes.foldl (mergeEntry id) a.removes

/-! ## One element -/

/-- What a lookup makes of the two entries of an element. -/
def read (add : Option (LwwElement N S T)) (remove : Option (Hlc N S)) : Option T :=
  match add, remove with
  | none, _ => none
  | some add, none => some add.value
  | some add, some remove => if add.hlc.rank ≤ remove.rank then none else some add.value

/-- Of two additions or two removals the newer stays. -/
abbrev newerAdd (a b : Option (LwwElement N S T)) : Option (LwwElement N S T) :=
  Newest.join (fun e => e.hlc.rank) a b

abbrev newerRemove (a b : Option (Hlc N S)) : Option (Hlc N S) := Newest.join Hlc.rank a b

section
variable {s t u : LwwElementSet N S T}

theorem lookup_eq (s : LwwElementSet N S T) (k : String) :
    lookupLwwElement s k = read (s.adds.lookup k) (s.removes.lookup k) := by
  unfold lookupLwwElement read
  cases s.adds.lookup k with
  | none => rfl
  | some add =>
    cases s.removes.lookup k with
    | none => rfl
    | some remove => simp only [compareHlc_isGE]

theorem mergeEntry_local {W : Type*} (hlc : W → Hlc N S) :
    Assoc.Local (mergeEntry hlc) (Newest.keep fun w => (hlc w).rank) := by
  intro m k w a
  unfold mergeEntry Newest.keep
  cases found : m.lookup k with
  | none =>
    dsimp only
    split
    · rename_i same
      rw [same, AList.lookup_insert]
    · rename_i other
      rw [AList.lookup_insert_ne other]
  | some existing =>
    simp only [compareHlc_gt]
    by_cases newer : (hlc existing).rank < (hlc w).rank
    · simp only [newer, ↓reduceIte]
      split
      · rename_i same
        rw [same, AList.lookup_insert]
      · rename_i other
        rw [AList.lookup_insert_ne other]
    · simp only [newer, ↓reduceIte]
      split
      · rename_i same
        rw [same, found]
      · rfl

@[simp] theorem adds_merge (s t : LwwElementSet N S T) (k : String) :
    (mergeLwwElementSet s t).adds.lookup k = newerAdd (s.adds.lookup k) (t.adds.lookup k) := by
  refine (Assoc.lookup_foldl (mergeEntry_local LwwElement.hlc) s.adds t.adds k).trans ?_
  cases t.adds.lookup k <;> rfl

@[simp] theorem removes_merge (s t : LwwElementSet N S T) (k : String) :
    (mergeLwwElementSet s t).removes.lookup k = newerRemove (s.removes.lookup k) (t.removes.lookup k) := by
  refine (Assoc.lookup_foldl (mergeEntry_local id) s.removes t.removes k).trans ?_
  cases t.removes.lookup k <;> rfl

end

/-- Two sets that answer every lookup alike. -/
def SameLookups (s t : LwwElementSet N S T) : Prop := ∀ k, lookupLwwElement s k = lookupLwwElement t k

theorem merge_assoc (s t u : LwwElementSet N S T) :
    SameLookups (mergeLwwElementSet (mergeLwwElementSet s t) u) (mergeLwwElementSet s (mergeLwwElementSet t u)) := by
  intro k
  simp only [lookup_eq, adds_merge, removes_merge, newerAdd, newerRemove, Newest.join_assoc]

theorem merge_idem (s : LwwElementSet N S T) : SameLookups (mergeLwwElementSet s s) s := by
  intro k
  simp only [lookup_eq, adds_merge, removes_merge, newerAdd, newerRemove, Newest.join_self]

/-! ## Local operations -/

/-- Whether an addition with the timestamp `hlc` reads the same when an earlier copy is merged in: it is newer than
the addition before it, or this is hidden by a removal, or it is neither hidden nor a change. -/
def AddAhead (set : LwwElementSet N S T) (id : String) (value : T) (hlc : Hlc N S) : Prop :=
  ∀ add, set.adds.lookup id = some add → hlc.rank ≤ add.hlc.rank →
    (∃ remove, set.removes.lookup id = some remove ∧ add.hlc.rank ≤ remove.rank) ∨
    (∀ remove, set.removes.lookup id = some remove → remove.rank < hlc.rank) ∧ value = add.value

/-- The same of a removal: it is newer than the removal before it, or there is nothing to hide, or it hides the
addition, or neither of the two removals does. -/
def RemoveAhead (set : LwwElementSet N S T) (id : String) (hlc : Hlc N S) : Prop :=
  ∀ remove, set.removes.lookup id = some remove → hlc.rank ≤ remove.rank →
    ∀ add, set.adds.lookup id = some add → add.hlc.rank ≤ hlc.rank ∨ remove.rank < add.hlc.rank

/-- Merging the set from before an operation into the one after it changes no lookup. -/
def Inflates (before after : LwwElementSet N S T) : Prop :=
  ∀ k, lookupLwwElement (mergeLwwElementSet before after) k = lookupLwwElement after k

/-- Only the element that differs matters. -/
theorem inflates_iff (id : String) {before after : LwwElementSet N S T} (others : ∀ k ≠ id,
    after.adds.lookup k = before.adds.lookup k ∧ after.removes.lookup k = before.removes.lookup k) :
    Inflates before after ↔
      read (newerAdd (before.adds.lookup id) (after.adds.lookup id))
        (newerRemove (before.removes.lookup id) (after.removes.lookup id)) =
      read (after.adds.lookup id) (after.removes.lookup id) := by
  have at_key (k : String) : lookupLwwElement (mergeLwwElementSet before after) k =
      read (newerAdd (before.adds.lookup k) (after.adds.lookup k))
        (newerRemove (before.removes.lookup k) (after.removes.lookup k)) := by
    rw [lookup_eq, adds_merge, removes_merge]
  constructor
  · intro h
    rw [← at_key, ← lookup_eq]
    exact h id
  · intro own k
    rw [at_key, lookup_eq]
    by_cases same : k = id
    · rw [same, own]
    · obtain ⟨adds, removes⟩ := others k same
      rw [adds, removes, newerAdd, newerRemove, Newest.join_self, Newest.join_self]

section
variable [Zero N] [One N] [Add N] {s : LwwElementSet N S T} {now : N} {id : String} {value : T}
  {localHlc : Hlc N S}

theorem add_inflates_iff :
    Inflates s (addLwwElement now s id value localHlc) ↔ AddAhead s id value (incrementHlc now localHlc) := by
  have others (k : String) (other : k ≠ id) :
      (addLwwElement now s id value localHlc).adds.lookup k = s.adds.lookup k ∧
        (addLwwElement now s id value localHlc).removes.lookup k = s.removes.lookup k :=
    ⟨AList.lookup_insert_ne other, rfl⟩
  rw [inflates_iff id others]
  simp only [addLwwElement, AList.lookup_insert, newerRemove, Newest.join_self]
  generalize incrementHlc now localHlc = hlc
  unfold AddAhead
  cases s.adds.lookup id with
  | none => simp
  | some add =>
    rw [newerAdd, Newest.join_some]
    by_cases newer : add.hlc.rank < hlc.rank
    · simp [newer, newer.not_ge]
    · have older := not_lt.mp newer
      simp only [newer, ↓reduceIte, Option.some.injEq, forall_eq', older, true_imp_iff]
      cases s.removes.lookup id with
      | none => simp [read, eq_comm]
      | some remove =>
        simp only [read, Option.some.injEq, exists_eq_left', forall_eq']
        by_cases hidden : add.hlc.rank ≤ remove.rank
        · simp [hidden, le_trans older hidden]
        · by_cases hides : hlc.rank ≤ remove.rank
          · simp [hidden, hides, hides.not_gt]
          · simp [hidden, hides, not_le.mp hides, eq_comm]

theorem remove_inflates_iff :
    Inflates s (removeLwwElement now s id localHlc) ↔ RemoveAhead s id (incrementHlc now localHlc) := by
  have others (k : String) (other : k ≠ id) :
      (removeLwwElement now s id localHlc).adds.lookup k = s.adds.lookup k ∧
        (removeLwwElement now s id localHlc).removes.lookup k = s.removes.lookup k :=
    ⟨rfl, AList.lookup_insert_ne other⟩
  rw [inflates_iff id others]
  simp only [removeLwwElement, AList.lookup_insert, newerAdd, Newest.join_self]
  generalize incrementHlc now localHlc = hlc
  unfold RemoveAhead
  cases s.removes.lookup id with
  | none => simp
  | some remove =>
    rw [newerRemove, Newest.join_some]
    by_cases newer : remove.rank < hlc.rank
    · simp [newer, newer.not_ge]
    · have older := not_lt.mp newer
      simp only [newer, ↓reduceIte, Option.some.injEq, forall_eq', older, true_imp_iff]
      cases s.adds.lookup id with
      | none => simp [read]
      | some add =>
        simp only [read, Option.some.injEq, forall_eq']
        by_cases hides : add.hlc.rank ≤ hlc.rank
        · simp [hides, le_trans hides older]
        · by_cases hidden : add.hlc.rank ≤ remove.rank
          · simp [hidden, hides, hidden.not_gt]
          · simp [hidden, hides, not_le.mp hidden]

end

/-! ## Runs -/

/-- An operation on a set that some replica has had. -/
inductive LwwAct (N S T : Type*) where
  | add (now : N) (set : ℕ) (id : String) (value : T) (localHlc : Hlc N S)
  | remove (now : N) (set : ℕ) (id : String) (localHlc : Hlc N S)
  | merge (a b : ℕ)

/-- Every set that there has been on any replica; each may still be on its way to another one, or be where a replica
starts from again. -/
abbrev LwwSets (N S T : Type*) := List (LwwElementSet N S T)

section
variable [Zero N] [One N] [Add N]

def LwwAct.result (sets : LwwSets N S T) : LwwAct N S T → Option (LwwElementSet N S T)
  | .add now i id value localHlc => sets[i]?.map fun s => addLwwElement now s id value localHlc
  | .remove now i id localHlc => sets[i]?.map fun s => removeLwwElement now s id localHlc
  | .merge i j => sets[i]?.bind fun s => sets[j]?.map fun t => mergeLwwElementSet s t

def lwwStep (sets : LwwSets N S T) (act : LwwAct N S T) : LwwSets N S T :=
  sets ++ (act.result sets).toList

/-- The timestamp that an operation writes. -/
def LwwAct.produced : LwwAct N S T → Option (Hlc N S)
  | .add now _ _ _ localHlc | .remove now _ _ localHlc => some (incrementHlc now localHlc)
  | .merge _ _ => none

/-- A local operation is inflationary. -/
def Inflationary (sets : LwwSets N S T) : LwwAct N S T → Prop
  | .add now i id value localHlc => ∀ s, sets[i]? = some s → Inflates s (addLwwElement now s id value localHlc)
  | .remove now i id localHlc => ∀ s, sets[i]? = some s → Inflates s (removeLwwElement now s id localHlc)
  | .merge _ _ => True

/-- The timestamp of a local operation is ahead of what it overwrites. -/
def Ahead (sets : LwwSets N S T) : LwwAct N S T → Prop
  | .add now i id value localHlc => ∀ s, sets[i]? = some s → AddAhead s id value (incrementHlc now localHlc)
  | .remove now i id localHlc => ∀ s, sets[i]? = some s → RemoveAhead s id (incrementHlc now localHlc)
  | .merge _ _ => True

/-- Merging is commutative, associative and idempotent. -/
structure MergeLaws (sets : LwwSets N S T) : Prop where
  comm : ∀ s ∈ sets, ∀ t ∈ sets, SameLookups (mergeLwwElementSet s t) (mergeLwwElementSet t s)
  assoc : ∀ s ∈ sets, ∀ t ∈ sets, ∀ u ∈ sets,
    SameLookups (mergeLwwElementSet (mergeLwwElementSet s t) u) (mergeLwwElementSet s (mergeLwwElementSet t u))
  idem : ∀ s ∈ sets, SameLookups (mergeLwwElementSet s s) s

/-- What a set has of an element has been added by an operation. -/
def Written (acts : List (LwwAct N S T)) (s : LwwElementSet N S T) : Prop :=
  ∀ id e, s.adds.lookup id = some e → ∃ now i localHlc,
    .add now i id e.value localHlc ∈ acts ∧ incrementHlc now localHlc = e.hlc

omit [LinearOrder S] in
/-- An operation is known by its timestamp. -/
theorem LwwAct.unique {acts : List (LwwAct N S T)} (once : (acts.filterMap LwwAct.produced).Nodup)
    {a b : LwwAct N S T} (ha : a ∈ acts) (hb : b ∈ acts) {hlc : Hlc N S} (pa : a.produced = some hlc)
    (pb : b.produced = some hlc) : a = b := by
  by_contra other
  have symm : Std.Symm fun a b : LwwAct N S T =>
      ∀ p, a.produced = some p → ∀ q, b.produced = some q → p ≠ q :=
    ⟨fun _ _ h p hp q hq => (h q hq p hp).symm⟩
  exact List.Pairwise.forall (List.pairwise_filterMap.mp once) ha hb other hlc pa hlc pb rfl

theorem merge_comm {acts : List (LwwAct N S T)} (once : (acts.filterMap LwwAct.produced).Nodup)
    {s t : LwwElementSet N S T} (hs : Written acts s) (ht : Written acts t) :
    SameLookups (mergeLwwElementSet s t) (mergeLwwElementSet t s) := by
  intro k
  rw [lookup_eq, lookup_eq, adds_merge, adds_merge, removes_merge, removes_merge]
  have adds : newerAdd (s.adds.lookup k) (t.adds.lookup k) = newerAdd (t.adds.lookup k) (s.adds.lookup k) := by
    refine Newest.join_comm fun x y hx hy tie => ?_
    obtain ⟨now, i, localHlc, memx, px⟩ := hs k x hx
    obtain ⟨now', i', localHlc', memy, py⟩ := ht k y hy
    have same : x.hlc = y.hlc := Hlc.rank_injective tie
    have one := LwwAct.unique once memx memy (congrArg some px) (congrArg some (py.trans same.symm))
    cases x
    cases y
    cases one
    obtain rfl := same
    rfl
  have removes : newerRemove (s.removes.lookup k) (t.removes.lookup k) =
      newerRemove (t.removes.lookup k) (s.removes.lookup k) :=
    Newest.join_comm fun x y _ _ tie => Hlc.rank_injective tie
  rw [adds, removes]

/-- What an operation makes of written sets is written, once the operation is counted. -/
theorem written_result {acts : List (LwwAct N S T)} {sets : LwwSets N S T} {act : LwwAct N S T}
    {s : LwwElementSet N S T} (written : ∀ s ∈ sets, Written acts s) (made : act.result sets = some s) :
    Written (acts ++ [act]) s := by
  have before {i : ℕ} {t : LwwElementSet N S T} (found : sets[i]? = some t) : Written (acts ++ [act]) t := by
    intro id e he
    obtain ⟨now, i, localHlc, mem, hlc⟩ := written t (List.mem_of_getElem? found) id e he
    exact ⟨now, i, localHlc, List.mem_append_left _ mem, hlc⟩
  cases act with
  | add now i id value localHlc =>
    obtain ⟨t, found, rfl⟩ := Option.map_eq_some_iff.mp made
    intro k e he
    by_cases same : k = id
    · subst same
      rw [addLwwElement, AList.lookup_insert] at he
      cases he
      exact ⟨now, i, localHlc, List.mem_append_right _ (List.mem_singleton_self _), rfl⟩
    · rw [addLwwElement, AList.lookup_insert_ne same] at he
      exact before found k e he
  | remove now i id localHlc =>
    obtain ⟨t, found, rfl⟩ := Option.map_eq_some_iff.mp made
    exact fun k e he => before found k e he
  | merge i j =>
    obtain ⟨t, found, made⟩ := Option.bind_eq_some_iff.mp made
    obtain ⟨u, found', rfl⟩ := Option.map_eq_some_iff.mp made
    intro k e he
    rw [adds_merge] at he
    let stamp (e : LwwElement N S T) := e.hlc.rank
    have choice : Newest.join stamp (t.adds.lookup k) (u.adds.lookup k) = t.adds.lookup k ∨
        Newest.join stamp (t.adds.lookup k) (u.adds.lookup k) = u.adds.lookup k := Newest.join_choice _ _
    obtain ours | theirs := choice
    · exact before found k e (ours ▸ he)
    · exact before found' k e (theirs ▸ he)

theorem written_run (acts : List (LwwAct N S T)) : ∀ s ∈ Runs.run lwwStep [{}] acts, Written acts s := by
  induction acts using List.reverseRecOn with
  | nil =>
    intro s hs id e he
    obtain rfl := List.mem_singleton.mp hs
    cases he
  | append_singleton acts act ih =>
    intro s hs
    rw [Runs.run_concat, lwwStep, List.mem_append, Option.mem_toList] at hs
    obtain old | new := hs
    · intro id e he
      obtain ⟨now, i, localHlc, mem, hlc⟩ := ih s old id e he
      exact ⟨now, i, localHlc, List.mem_append_left _ mem, hlc⟩
    · exact written_result ih new

theorem inflationary_iff (sets : LwwSets N S T) (act : LwwAct N S T) : Inflationary sets act ↔ Ahead sets act := by
  cases act with
  | add => exact forall₂_congr fun _ _ => add_inflates_iff
  | remove => exact forall₂_congr fun _ _ => remove_inflates_iff
  | merge => exact Iff.rfl

/-- **Merging obeys the laws, and operations are inflationary exactly where they are ahead.** If each timestamp is
used for one write, then merging any sets that there ever are is commutative, associative and idempotent. All local
operations of a run are inflationary exactly if the timestamp of each is ahead of those that it overwrites. -/
theorem merges_and_inflates (acts : List (LwwAct N S T)) (once : (acts.filterMap LwwAct.produced).Nodup) :
    MergeLaws (Runs.run lwwStep [{}] acts) ∧
      (Runs.EachStep lwwStep Inflationary [{}] acts ↔ Runs.EachStep lwwStep Ahead [{}] acts) := by
  have written := written_run acts
  refine ⟨⟨fun s hs t ht => merge_comm once (written s hs) (written t ht), fun s _ t _ u _ => merge_assoc s t u,
    fun s _ => merge_idem s⟩, ?_⟩
  exact Runs.eachStep_congr (I := fun _ => True) (fun _ _ _ => trivial)
    (fun sets act _ => inflationary_iff sets act) trivial acts

end

namespace Tablet

/-- A write at time 10, and one on it by a replica whose clock reads 5. -/
def writes : List (LwwAct ℕ String String) :=
  [.add 10 0 "tea" "green" ⟨0, 0, "a"⟩, .add 5 1 "tea" "black" ⟨0, 0, "b"⟩]

theorem writes_once : MergeLaws (Runs.run lwwStep [{}] writes) ∧
    (Runs.EachStep lwwStep Inflationary [{}] writes ↔ Runs.EachStep lwwStep Ahead [{}] writes) :=
  merges_and_inflates writes (by decide)

def first : LwwElementSet ℕ String String := addLwwElement 10 {} "tea" "green" ⟨0, 0, "a"⟩

def second : LwwElementSet ℕ String String := addLwwElement 5 first "tea" "black" ⟨0, 0, "b"⟩

/-- The second write is undone by the copy that it was made on. -/
theorem write_undone : (writes.filterMap LwwAct.produced).Nodup ∧
    lookupLwwElement second "tea" = some "black" ∧
    lookupLwwElement (mergeLwwElementSet first second) "tea" = some "green" ∧
    ¬ Runs.EachStep lwwStep Inflationary [{}] writes := by
  have black : lookupLwwElement second "tea" = some "black" := by decide
  have green : lookupLwwElement (mergeLwwElementSet first second) "tea" = some "green" := by decide
  refine ⟨by decide, black, green, ?_⟩
  rintro ⟨-, inflates, -⟩
  have same : lookupLwwElement (mergeLwwElementSet first second) "tea" = lookupLwwElement second "tea" :=
    inflates first rfl "tea"
  rw [black, green] at same
  exact absurd same (by decide)

end Tablet

end SharedTypes
