import Mathlib.Data.List.Sort
import AstraSystem.Lib.Gossip
import AstraSystem.Lib.Undominated
import AstraSystem.SyncDaemon.Crdt.Hlc

/-!
# The multi-value register (`crdt/mod.rs`)

`write` prunes what it dominates, `merge` takes in the other side's entries
without pruning its own, and `read` filters. Here is the register, its replicas,
and what every replica's entries have to do with the writes it absorbed.
-/

namespace SyncDaemon.Crdt

structure RegisterValue (V : Type) where
  value : V
  hlc : Hlc

structure MvRegister (V : Type) where
  values : List (RegisterValue V)

variable {V : Type}

namespace MvRegister

def new : MvRegister V := ⟨[]⟩

def write (self : MvRegister V) (value : V) (hlc : Hlc) : MvRegister V :=
  ⟨self.values.filter (fun entry => !hlc.dominates entry.hlc) ++ [⟨value, hlc⟩]⟩

/-- The values `read` collects, before it sorts them. -/
def maximal (self : MvRegister V) : List V :=
  (self.values.filter fun candidate =>
    !self.values.any fun other =>
      other.hlc.dominates candidate.hlc && other.hlc != candidate.hlc).map RegisterValue.value

/-- `debug` is the `{:?}` text of a value, by which `sort_by` orders them. -/
def read (debug : V → String) (self : MvRegister V) : List V :=
  self.maximal.insertionSort fun a b => (Ord.compare (debug a) (debug b)).isLE = true

/-- The fold in `resolve_with`. -/
def laterTotal (acc : Option Hlc) (hlc : Hlc) : Option Hlc :=
  match acc with
  | some current => if (current.compareTotal hlc).isGE then some current else some hlc
  | none => some hlc

def resolveWith (debug : V → String) (self : MvRegister V) (resolver : List V → V) :
    MvRegister V :=
  let maximal := self.read debug
  if maximal.length ≤ 1 then self
  else
    let resolved := resolver maximal
    let fallbackHlc : Hlc := ⟨0, 0, "resolve"⟩
    let maxHlc := ((self.values.map RegisterValue.hlc).foldl laterTotal none).getD fallbackHlc
    ⟨[⟨resolved, maxHlc⟩]⟩

/-- The body of the loop in `merge`. -/
def mergeValue (ours : List (RegisterValue V)) (otherEntry : RegisterValue V) :
    List (RegisterValue V) :=
  let dominated := ours.any fun ourEntry =>
    ourEntry.hlc.dominates otherEntry.hlc && ourEntry.hlc != otherEntry.hlc
  let duplicate := ours.any fun ourEntry => ourEntry.hlc == otherEntry.hlc
  if !dominated && !duplicate then ours ++ [otherEntry] else ours

def merge (self other : MvRegister V) : MvRegister V :=
  ⟨other.values.foldl mergeValue self.values⟩

def len (self : MvRegister V) : ℕ := self.values.length

def isEmpty (self : MvRegister V) : Bool := self.values.isEmpty

/-! ## Merging, entry by entry -/

theorem dominates_and_ne (a b : Hlc) : (a.dominates b && a != b) = a.dominates b := by
  cases h : a.dominates b
  · rfl
  · simpa using Hlc.ne_of_dominates h

theorem maximal_eq (r : MvRegister V) :
    r.maximal = (Undominated.undominated (fun y x => y.hlc.dominates x.hlc) r.values).map
      RegisterValue.value := by
  simp only [maximal, Undominated.undominated, dominates_and_ne]

theorem read_perm (debug : V → String) (r : MvRegister V) : (r.read debug).Perm r.maximal :=
  List.perm_insertionSort _ _

/-- What the loop in `merge` makes of our entries: theirs is appended where nothing of ours stands
against it, and refused where an entry of ours dominates it or has its timestamp. -/
inductive Taken (ours : List (RegisterValue V)) (e : RegisterValue V) :
    List (RegisterValue V) → Prop
  | appended (undominated : ∀ u ∈ ours, u.hlc.dominates e.hlc = false)
      (new : ∀ u ∈ ours, u.hlc ≠ e.hlc) : Taken ours e (ours ++ [e])
  | refused (u : RegisterValue V) (hu : u ∈ ours)
      (against : u.hlc.dominates e.hlc = true ∨ u.hlc = e.hlc) : Taken ours e ours

theorem mergeValue_taken (ours : List (RegisterValue V)) (e : RegisterValue V) :
    Taken ours e (mergeValue ours e) := by
  unfold mergeValue
  simp only [dominates_and_ne]
  by_cases hd : ∃ u ∈ ours, u.hlc.dominates e.hlc = true ∨ u.hlc = e.hlc
  · obtain ⟨u, hu, against⟩ := hd
    have refuses : (!(ours.any fun x => x.hlc.dominates e.hlc) &&
        !(ours.any fun x => x.hlc == e.hlc)) = false := by
      cases against with
      | inl dominated =>
        have : (ours.any fun x => x.hlc.dominates e.hlc) = true :=
          List.any_eq_true.mpr ⟨u, hu, dominated⟩
        simp [this]
      | inr duplicate =>
        have : (ours.any fun x => x.hlc == e.hlc) = true :=
          List.any_eq_true.mpr ⟨u, hu, beq_iff_eq.mpr duplicate⟩
        simp [this]
    simp only [refuses, Bool.false_eq_true, ↓reduceIte]
    exact .refused u hu against
  · push Not at hd
    have undominated : ∀ u ∈ ours, u.hlc.dominates e.hlc = false :=
      fun u hu => Bool.eq_false_iff.mpr (hd u hu).1
    have new : ∀ u ∈ ours, u.hlc ≠ e.hlc := fun u hu => (hd u hu).2
    have accepts : (!(ours.any fun x => x.hlc.dominates e.hlc) &&
        !(ours.any fun x => x.hlc == e.hlc)) = true := by
      simpa using ⟨undominated, new⟩
    simp only [accepts, ↓reduceIte]
    exact .appended undominated new

theorem mem_merge_left {r s : MvRegister V} {u : RegisterValue V} (h : u ∈ r.values) :
    u ∈ (r.merge s).values := by
  simp only [merge]
  generalize s.values = l
  generalize r.values = ours at h
  induction l generalizing ours with
  | nil => exact h
  | cons e l ih =>
    apply ih
    have taken := mergeValue_taken ours e
    generalize mergeValue ours e = now at taken ⊢
    cases taken with
    | appended _ _ => exact List.mem_append_left _ h
    | refused _ _ _ => exact h

theorem mem_merge {r s : MvRegister V} {u : RegisterValue V} (h : u ∈ (r.merge s).values) :
    u ∈ r.values ∨ u ∈ s.values := by
  simp only [merge] at h
  generalize s.values = l at h ⊢
  generalize r.values = ours at h ⊢
  induction l generalizing ours with
  | nil => exact .inl h
  | cons e l ih =>
    cases ih (mergeValue ours e) h with
    | inl taken =>
      have how := mergeValue_taken ours e
      generalize mergeValue ours e = now at taken how
      cases how with
      | appended _ _ =>
        cases List.mem_append.mp taken with
        | inl old => exact .inl old
        | inr new => exact .inr (List.mem_singleton.mp new ▸ List.mem_cons_self)
      | refused _ _ _ => exact .inl taken
    | inr later => exact .inr (List.mem_cons_of_mem e later)

/-- What the other side held is in the result, or something in the result dominates it or has
its timestamp. -/
theorem merge_covers {r s : MvRegister V} {e : RegisterValue V} (h : e ∈ s.values) :
    e ∈ (r.merge s).values ∨
      ∃ u ∈ (r.merge s).values, u.hlc.dominates e.hlc = true ∨ u.hlc = e.hlc := by
  have keep (ours l : List (RegisterValue V)) {u : RegisterValue V} (hu : u ∈ ours) :
      u ∈ l.foldl mergeValue ours := mem_merge_left (r := ⟨ours⟩) (s := ⟨l⟩) hu
  simp only [merge]
  generalize s.values = l at h ⊢
  generalize r.values = ours
  induction l generalizing ours with
  | nil => cases h
  | cons x l ih =>
    obtain rfl | h := List.mem_cons.mp h
    · rw [List.foldl_cons]
      have taken := mergeValue_taken ours e
      generalize mergeValue ours e = now at taken ⊢
      cases taken with
      | appended _ _ => exact .inl (keep _ l (List.mem_append_right _ (List.mem_singleton_self e)))
      | refused u hu against => exact .inr ⟨u, keep _ l hu, against⟩
    · exact ih h (mergeValue ours x)

theorem nodup_merge {r s : MvRegister V} (h : (r.values.map RegisterValue.hlc).Nodup) :
    ((r.merge s).values.map RegisterValue.hlc).Nodup := by
  simp only [merge]
  generalize s.values = l
  generalize r.values = ours at h
  induction l generalizing ours with
  | nil => exact h
  | cons e l ih =>
    apply ih
    have taken := mergeValue_taken ours e
    generalize mergeValue ours e = now at taken ⊢
    cases taken with
    | appended _ new =>
      rw [List.map_append, List.map_singleton]
      refine List.nodup_append.mpr ⟨h, List.nodup_singleton _, ?_⟩
      intro a ha b hb
      obtain ⟨u, hu, rfl⟩ := List.mem_map.mp ha
      rw [List.mem_singleton.mp hb]
      exact new u hu
    | refused _ _ _ => exact h

/-- Of the entries that a test by timestamp picks, the merge appends those with a timestamp of their own,
if nothing it meets dominates them. -/
theorem filter_foldl_mergeValue {top : RegisterValue V → Bool} (same : ∀ x y, x.hlc = y.hlc → top x = top y)
    {l ours : List (RegisterValue V)}
    (undominated : ∀ u, u ∈ ours ∨ u ∈ l → ∀ x, top x = true → u.hlc.dominates x.hlc = false) :
    (l.foldl mergeValue ours).filter top =
      (l.filter top).foldl (Undominated.adjoin RegisterValue.hlc) (ours.filter top) := by
  induction l generalizing ours with
  | nil => rfl
  | cons e l ih =>
    rw [List.foldl_cons]
    have taken := mergeValue_taken ours e
    generalize mergeValue ours e = now at taken ⊢
    cases taken with
    | appended _ new =>
      rw [ih (fun u hu => undominated u (by simpa [or_assoc] using hu)), List.filter_append]
      by_cases he : top e = true
      · have fresh : e.hlc ∉ (ours.filter top).map RegisterValue.hlc := by
          intro mem
          obtain ⟨u, hu, eq⟩ := List.mem_map.mp mem
          exact new u (List.mem_filter.mp hu).1 eq
        simp [he, Undominated.adjoin, fresh]
      · simp [he]
    | refused u hu against =>
      rw [ih (fun u hu => undominated u (by simpa using hu.imp id .inr))]
      by_cases he : top e = true
      · have eq : u.hlc = e.hlc := by
          refine against.resolve_left ?_
          rw [undominated u (.inl hu) e he]
          exact Bool.false_ne_true
        have mem : e.hlc ∈ (ours.filter top).map RegisterValue.hlc :=
          List.mem_map.mpr ⟨u, List.mem_filter.mpr ⟨hu, (same u e eq).trans he⟩, eq⟩
        rw [List.filter_cons_of_pos he, List.foldl_cons, Undominated.adjoin, if_pos mem]
      · rw [List.filter_cons_of_neg he]

/-- What a merge shows: of the entries that nothing dominates ours, and theirs under new timestamps. -/
theorem maximal_merge (r s : MvRegister V) :
    (r.merge s).maximal =
      (Undominated.gather RegisterValue.hlc (fun y x => y.hlc.dominates x.hlc) r.values s.values).map
        RegisterValue.value := by
  have covered (x : RegisterValue V) : (r.merge s).values.any (fun y => y.hlc.dominates x.hlc) =
      (r.values ++ s.values).any fun y => y.hlc.dominates x.hlc := by
    rw [Bool.eq_iff_iff, List.any_eq_true, List.any_eq_true]
    constructor
    · rintro ⟨y, hy, dominates⟩
      exact ⟨y, List.mem_append.mpr (mem_merge hy), dominates⟩
    · rintro ⟨y, hy, dominates⟩
      obtain left | right := List.mem_append.mp hy
      · exact ⟨y, mem_merge_left left, dominates⟩
      · obtain kept | ⟨u, hu, against⟩ := merge_covers (r := r) right
        · exact ⟨y, kept, dominates⟩
        · refine ⟨u, hu, ?_⟩
          rw [Hlc.dominates_iff] at dominates ⊢
          obtain older | eq := against
          · exact lt_trans dominates ((Hlc.dominates_iff _ _).mp older)
          · exact eq ▸ dominates
  rw [maximal_eq, Undominated.undominated, Undominated.gather]
  simp only [covered]
  congr 1
  apply filter_foldl_mergeValue
  · intro x y eq
    simp only [eq]
  · intro u hu x hx
    rw [Bool.not_eq_true', List.any_eq_false] at hx
    exact Bool.eq_false_iff.mpr (hx u (List.mem_append.mpr hu))

end MvRegister

/-! ## Replicas of one register -/

inductive MvOp (V : Type) where
  | write (value : V) (hlc : Hlc)
  | resolve (resolver : List V → V)

/-- The entry a write adds. -/
def MvOp.entry? : MvOp V → Option (RegisterValue V)
  | write value hlc => some ⟨value, hlc⟩
  | resolve _ => none

open Gossip

def mvReplicas (debug : V → String) : System ℕ (MvOp V) (MvRegister V) where
  init := .new
  apply _ x r := match x with
    | .write value hlc => r.write value hlc
    | .resolve resolver => r.resolveWith debug resolver
  merge r s := r.merge s

/-- The writes among the operations numbered in `A`. -/
def writesIn (L : List (Event ℕ (MvOp V))) (A : Finset ℕ) : List (RegisterValue V) :=
  (select L A).filterMap fun e => e.op.entry?

theorem mem_writesIn {L : List (Event ℕ (MvOp V))} {A : Finset ℕ} {v : RegisterValue V} :
    v ∈ writesIn L A ↔ ∃ k ∈ A, ∃ e, L[k]? = some e ∧ e.op.entry? = some v := by
  simp only [writesIn, List.mem_filterMap, mem_select]
  constructor
  · rintro ⟨e, ⟨k, hk, he⟩, hv⟩
    exact ⟨k, hk, e, he, hv⟩
  · rintro ⟨k, hk, e, he, hv⟩
    exact ⟨e, ⟨k, hk, he⟩, hv⟩

theorem mem_writesIn_union {L : List (Event ℕ (MvOp V))} {A B : Finset ℕ} {v : RegisterValue V} :
    v ∈ writesIn L (A ∪ B) ↔ v ∈ writesIn L A ∨ v ∈ writesIn L B := by
  simp only [mem_writesIn, Finset.mem_union, or_and_right, exists_or]

theorem writesIn_issue (L : List (Event ℕ (MvOp V))) (A : Finset ℕ) (e : Event ℕ (MvOp V)) :
    writesIn (L ++ [e]) (insert L.length A) = writesIn L A ++ e.op.entry?.toList := by
  rw [writesIn, select_issue, List.filterMap_append, writesIn]
  cases h : e.op.entry? <;> simp [h]

theorem writesIn_append {L M : List (Event ℕ (MvOp V))} {A : Finset ℕ}
    (h : ∀ k ∈ A, k < L.length) : writesIn (L ++ M) A = writesIn L A := by
  rw [writesIn, select_append h, writesIn]

end SyncDaemon.Crdt
