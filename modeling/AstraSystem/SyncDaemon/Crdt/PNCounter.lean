import Mathlib.Algebra.BigOperators.Group.Finset.Piecewise
import Mathlib.Algebra.Order.BigOperators.Group.List
import Mathlib.Algebra.Order.Group.Nat
import AstraSystem.Lib.Assoc
import AstraSystem.Lib.Gossip
import AstraSystem.SyncDaemon.Types

/-!
# The stock counter (`crdt/mod.rs`, and again in `sync/crdt.rs`)

Every kiosk counts its own increments and decrements, and merging takes the
maximum per origin. A replica's count for an origin is what the absorbed
operations of that origin add up to, because of two copies one has absorbed all
of the origin's operations that the other has.
-/

namespace SyncDaemon.Crdt

open Assoc (Map)

structure PNCounter where
  positives : Map KioskId UInt64
  negatives : Map KioskId UInt64

/-- `entry(origin).or_insert(0)`, then `saturating_add`. -/
def addTo (counts : Map KioskId UInt64) (origin : KioskId) (amount : UInt64) :
    Map KioskId UInt64 :=
  let entry := (counts.lookup origin).getD 0
  counts.insert origin (saturatingAdd entry amount)

/-- The body of either loop in `merge`. -/
def takeMax (counts : Map KioskId UInt64) (origin : KioskId) (count : UInt64) :
    Map KioskId UInt64 :=
  let entry := (counts.lookup origin).getD 0
  counts.insert origin (max entry count)

namespace PNCounter

def new : PNCounter := ⟨∅, ∅⟩

def increment (self : PNCounter) (origin : KioskId) (amount : UInt64) : PNCounter :=
  { self with positives := addTo self.positives origin amount }

def decrement (self : PNCounter) (origin : KioskId) (amount : UInt64) : PNCounter :=
  { self with negatives := addTo self.negatives origin amount }

def values (counts : Map KioskId UInt64) : List UInt64 := counts.entries.map fun e => e.2

def value (profile : Profile) (self : PNCounter) : Option UInt64 := do
  let pos ← profile.sum (values self.positives)
  let neg ← profile.sum (values self.negatives)
  return saturatingSub pos neg

def merge (self other : PNCounter) : PNCounter where
  positives := other.positives.foldl takeMax self.positives
  negatives := other.negatives.foldl takeMax self.negatives

end PNCounter

/-- The count of one origin; an origin without an entry counts zero. -/
def count (counts : Map KioskId UInt64) (origin : KioskId) : ℕ :=
  ((counts.lookup origin).getD 0).toNat

theorem count_addTo (counts : Map KioskId UInt64) (origin : KioskId) (amount : UInt64)
    (k : KioskId) :
    count (addTo counts origin amount) k =
      if k = origin then min (2 ^ 64 - 1) (count counts origin + amount.toNat)
      else count counts k := by
  unfold count addTo
  by_cases hk : k = origin
  · subst hk
    rw [AList.lookup_insert, if_pos rfl, Option.getD_some, toNat_saturatingAdd]
  · rw [AList.lookup_insert_ne hk, if_neg hk]

theorem takeMax_local :
    Assoc.Local takeMax fun (old : Option UInt64) count => some (max (old.getD 0) count) := by
  intro m k c a
  unfold takeMax
  by_cases ha : a = k
  · rw [ha, AList.lookup_insert, if_pos rfl]
  · rw [AList.lookup_insert_ne ha, if_neg ha]

theorem count_merge (ours theirs : Map KioskId UInt64) (k : KioskId) :
    count (theirs.foldl takeMax ours) k = max (count ours k) (count theirs k) := by
  have h := Assoc.lookup_foldl takeMax_local ours theirs k
  unfold count
  cases ht : theirs.lookup k with
  | none =>
    simp only [ht] at h
    rw [h, Option.getD_none, UInt64.toNat_zero, Nat.max_zero]
  | some c =>
    simp only [ht] at h
    rw [h, Option.getD_some, Option.getD_some, toNat_max]

/-! ## Replicas of one counter -/

inductive StockMove where
  | increment (amount : UInt64)
  | decrement (amount : UInt64)
  deriving DecidableEq

def StockMove.added : StockMove → ℕ
  | increment amount => amount.toNat
  | decrement _ => 0

def StockMove.taken : StockMove → ℕ
  | increment _ => 0
  | decrement amount => amount.toNat

open Gossip

/-- Every kiosk counts under its own id. -/
def counterReplicas : System KioskId StockMove PNCounter where
  init := .new
  apply i x c := match x with
    | .increment amount => c.increment i amount
    | .decrement amount => c.decrement i amount
  merge c d := c.merge d

/-- What all operations amount to. -/
def grandTotal (f : StockMove → ℕ) (l : List (Event KioskId StockMove)) : ℕ :=
  (l.map fun e => f e.op).sum

/-- What the operations of one origin amount to. -/
def total (f : StockMove → ℕ) (l : List (Event KioskId StockMove)) (k : KioskId) : ℕ :=
  grandTotal f (l.filter fun e => e.origin = k)

section
variable {f : StockMove → ℕ} {L : List (Event KioskId StockMove)} {A B : Finset ℕ} {k : KioskId}

theorem total_append (l : List (Event KioskId StockMove)) (e : Event KioskId StockMove) :
    total f (l ++ [e]) k = total f l k + if e.origin = k then f e.op else 0 := by
  unfold total grandTotal
  split <;> simp [*]

theorem total_mono
    (h : ∀ j e, L[j]? = some e → e.origin = k → j ∈ A → j ∈ B) :
    total f (select L A) k ≤ total f (select L B) k := by
  have sub := (select_sublist_select (q := fun e => e.origin = k) fun j e hj hq =>
    h j e hj (of_decide_eq_true hq)).map fun e => f e.op
  exact sub.sum_le_sum fun _ _ => Nat.zero_le _

theorem total_le (L : List (Event KioskId StockMove)) (A : Finset ℕ) :
    total f (select L A) k ≤ total f L k :=
  (((select_sublist L A).filter _).map _).sum_le_sum fun _ _ => Nat.zero_le _

theorem total_union (ha : Sound L A) (hb : Sound L B) :
    total f (select L (A ∪ B)) k = max (total f (select L A) k) (total f (select L B) k) := by
  have la : total f (select L A) k ≤ total f (select L (A ∪ B)) k :=
    total_mono fun j _ _ _ hj => Finset.mem_union_left B hj
  have lb : total f (select L B) k ≤ total f (select L (A ∪ B)) k :=
    total_mono fun j _ _ _ hj => Finset.mem_union_right A hj
  cases ha.compare hb k with
  | inl behind =>
    have le : total f (select L (A ∪ B)) k ≤ total f (select L B) k := by
      apply total_mono
      intro j e he ho hj
      exact (Finset.mem_union.mp hj).elim (behind j e he ho) id
    omega
  | inr ahead =>
    have le : total f (select L (A ∪ B)) k ≤ total f (select L A) k := by
      apply total_mono
      intro j e he ho hj
      exact (Finset.mem_union.mp hj).elim id (ahead j e he ho)
    omega

end

/-- Every count is what the absorbed operations of its origin add up to, capped at `u64::MAX`. -/
def Tallies (f : StockMove → ℕ) (l : List (Event KioskId StockMove))
    (counts : Map KioskId UInt64) : Prop :=
  ∀ k, count counts k = min (2 ^ 64 - 1) (total f l k)

section
variable {f : StockMove → ℕ} {l : List (Event KioskId StockMove)} {counts : Map KioskId UInt64}

theorem Tallies.addTo (h : Tallies f l counts) {e : Event KioskId StockMove} {amount : UInt64}
    (he : f e.op = amount.toNat) : Tallies f (l ++ [e]) (addTo counts e.origin amount) := by
  intro k
  rw [count_addTo, total_append, h, h]
  by_cases hk : k = e.origin
  · subst hk
    rw [if_pos rfl, if_pos rfl]
    omega
  · rw [if_neg hk, if_neg (Ne.symm hk), Nat.add_zero]

theorem Tallies.skip (h : Tallies f l counts) {e : Event KioskId StockMove} (he : f e.op = 0) :
    Tallies f (l ++ [e]) counts := by
  intro k
  rw [total_append, he, ite_self, Nat.add_zero]
  exact h k

theorem Tallies.join {L : List (Event KioskId StockMove)} {A B : Finset ℕ} (ha : Sound L A)
    (hb : Sound L B) {ours theirs : Map KioskId UInt64} (ho : Tallies f (select L A) ours)
    (ht : Tallies f (select L B) theirs) :
    Tallies f (select L (A ∪ B)) (theirs.foldl takeMax ours) := by
  intro k
  rw [count_merge, total_union ha hb, ho k, ht k]
  omega

end

theorem tallies_stable : Stable counterReplicas fun L c =>
    Tallies StockMove.added (select L c.absorbed) c.state.positives ∧
      Tallies StockMove.taken (select L c.absorbed) c.state.negatives where
  start := ⟨fun _ => rfl, fun _ => rfl⟩
  grow L c e hs _ h := by simpa only [select_append hs.issued] using h
  issue L c i x hs h := by
    simp only [System.issue, select_issue]
    cases x with
    | increment amount => exact ⟨h.1.addTo rfl, h.2.skip rfl⟩
    | decrement amount => exact ⟨h.1.skip rfl, h.2.addTo rfl⟩
  join L c d sc sd hc hd := ⟨hc.1.join sc sd hd.1, hc.2.join sc sd hd.2⟩

/-! ## What a counter shows -/

theorem toNat_value (profile : Profile) {c : PNCounter}
    (pos : ((PNCounter.values c.positives).map UInt64.toNat).sum < 2 ^ 64)
    (neg : ((PNCounter.values c.negatives).map UInt64.toNat).sum < 2 ^ 64) :
    ∃ v, c.value profile = some v ∧
      v.toNat = ((PNCounter.values c.positives).map UInt64.toNat).sum -
        ((PNCounter.values c.negatives).map UInt64.toNat).sum := by
  obtain ⟨p, hp, sp⟩ := profile.sum_eq pos
  obtain ⟨n, hn, sn⟩ := profile.sum_eq neg
  refine ⟨saturatingSub p n, ?_, ?_⟩
  · simp only [PNCounter.value, hp, hn, Option.bind_eq_bind, Option.bind_some, Option.pure_def]
  · rw [toNat_saturatingSub, sp, sn]

/-- Adding up per origin adds up all, when every operation that counts has its origin listed. -/
theorem sum_total {f : StockMove → ℕ} {ks : List KioskId} (nodup : ks.Nodup)
    (l : List (Event KioskId StockMove)) (listed : ∀ e ∈ l, e.origin ∈ ks ∨ f e.op = 0) :
    (ks.map (total f l)).sum = grandTotal f l := by
  rw [← List.sum_toFinset _ nodup]
  induction l using List.reverseRecOn with
  | nil => simp [total, grandTotal]
  | append_singleton l e ih =>
    have ih := ih fun x hx => listed x (List.mem_append_left _ hx)
    simp only [total_append, Finset.sum_add_distrib, ih, Finset.sum_ite_eq, List.mem_toFinset,
      grandTotal, List.map_append, List.sum_append, List.map_singleton, List.sum_singleton]
    cases listed e (by simp) with
    | inl h => rw [if_pos h]
    | inr h => rw [h, ite_self]

theorem sum_counts (counts : Map KioskId UInt64) :
    ((PNCounter.values counts).map UInt64.toNat).sum = (counts.keys.map (count counts)).sum := by
  rw [PNCounter.values, AList.keys, List.keys, List.map_map, List.map_map]
  apply congrArg List.sum
  apply List.map_congr_left
  intro e he
  have h := Assoc.mem_entries.mp (show ⟨e.1, e.2⟩ ∈ counts.entries from he)
  simp only [Function.comp_apply, count, h, Option.getD_some]

/-- Counts that tally with operations show what these add up to. -/
theorem sum_values {f : StockMove → ℕ} {l : List (Event KioskId StockMove)}
    {counts : Map KioskId UInt64} (h : Tallies f l counts)
    (fits : grandTotal f l < 2 ^ 64) :
    ((PNCounter.values counts).map UInt64.toNat).sum = grandTotal f l := by
  have uncapped (k : KioskId) : count counts k = total f l k := by
    have le : total f l k ≤ grandTotal f l :=
      (List.filter_sublist.map _).sum_le_sum fun _ _ => Nat.zero_le _
    have := h k
    omega
  have listed : ∀ e ∈ l, e.origin ∈ counts.keys ∨ f e.op = 0 := by
    intro e he
    by_cases hk : e.origin ∈ counts.keys
    · exact .inl hk
    · right
      have none : counts.lookup e.origin = none := AList.lookup_eq_none.mpr hk
      have zero : total f l e.origin = 0 := by rw [← uncapped, count, none]; rfl
      exact List.sum_eq_zero_iff.mp zero _
        (List.mem_map_of_mem (List.mem_filter.mpr ⟨he, decide_eq_true rfl⟩))
  rw [sum_counts, List.map_congr_left fun k _ => uncapped k, sum_total counts.keys_nodup l listed]

section
variable {acts : List (Action KioskId StockMove)} {c : Copy PNCounter}

/-- No copy counts more for an origin than the origin moved, nor than it counts itself. -/
structure NotAhead (w : World KioskId StockMove PNCounter) (c : PNCounter) (k : KioskId) :
    Prop where
  added : count c.positives k ≤ total StockMove.added w.issued k
  taken : count c.negatives k ≤ total StockMove.taken w.issued k
  positives : count c.positives k ≤ count (w.replica k).state.positives k
  negatives : count c.negatives k ≤ count (w.replica k).state.negatives k

theorem notAhead (hc : (counterReplicas.world acts).HasCopy c) (k : KioskId) :
    NotAhead (counterReplicas.world acts) c.state k := by
  obtain ⟨pos, neg⟩ := tallies_stable.copies acts hc
  obtain ⟨ownPos, ownNeg⟩ := tallies_stable.copies acts (.inr ⟨k, rfl⟩)
  have bound (f : StockMove → ℕ) := total_le (f := f) (k := k)
    (counterReplicas.world acts).issued c.absorbed
  have own (f : StockMove → ℕ) :
      total f (select (counterReplicas.world acts).issued c.absorbed) k ≤
        total f (select (counterReplicas.world acts).issued
          ((counterReplicas.world acts).replica k).absorbed) k :=
    total_mono fun j e he ho _ => ho ▸ (world_sound counterReplicas acts).own j e he
  constructor
  · have := bound StockMove.added
    rw [pos k]
    omega
  · have := bound StockMove.taken
    rw [neg k]
    omega
  · have := own StockMove.added
    rw [pos k, ownPos k]
    omega
  · have := own StockMove.taken
    rw [neg k, ownNeg k]
    omega

/-- What all operations add up to; less than nothing counts as nothing. -/
def stock (l : List (Event KioskId StockMove)) : ℤ :=
  max 0 ((grandTotal StockMove.added l : ℤ) - (grandTotal StockMove.taken l : ℤ))

theorem value_of_absorbed_all (profile : Profile)
    (hc : (counterReplicas.world acts).HasCopy c)
    (all : ∀ n < (counterReplicas.world acts).issued.length, n ∈ c.absorbed)
    (added : grandTotal StockMove.added (counterReplicas.world acts).issued < 2 ^ 64)
    (taken : grandTotal StockMove.taken (counterReplicas.world acts).issued < 2 ^ 64) :
    ∃ v, c.state.value profile = some v ∧
      (v.toNat : ℤ) = stock (counterReplicas.world acts).issued := by
  obtain ⟨pos, neg⟩ := tallies_stable.copies acts hc
  rw [select_all all] at pos neg
  have sp := sum_values pos added
  have sn := sum_values neg taken
  obtain ⟨v, hv, nat⟩ := toNat_value profile (sp ▸ added) (sn ▸ taken)
  refine ⟨v, hv, ?_⟩
  rw [stock, nat, sp, sn]
  omega

/-- **No stock movement is lost or counted twice.** -/
theorem stock_moves_counted_once (hc : (counterReplicas.world acts).HasCopy c) :
    (∀ k, NotAhead (counterReplicas.world acts) c.state k) ∧
    ∀ profile, (∀ n < (counterReplicas.world acts).issued.length, n ∈ c.absorbed) →
      grandTotal StockMove.added (counterReplicas.world acts).issued < 2 ^ 64 →
      grandTotal StockMove.taken (counterReplicas.world acts).issued < 2 ^ 64 →
      ∃ v, c.state.value profile = some v ∧
        (v.toNat : ℤ) = stock (counterReplicas.world acts).issued :=
  ⟨notAhead hc, fun profile => value_of_absorbed_all profile hc⟩

/-- Two kiosks move stock; the second hears twice of the first, the second time of all it did. -/
def restock : List (Action KioskId StockMove) :=
  [.update ⟨"k1"⟩ (.increment 10), .send ⟨"k1"⟩, .receive ⟨"k2"⟩ 0, .update ⟨"k1"⟩ (.increment 5),
    .update ⟨"k2"⟩ (.decrement 3), .send ⟨"k1"⟩, .receive ⟨"k2"⟩ 1, .receive ⟨"k2"⟩ 0]

theorem restock_counted_once :
    ∃ v, ((counterReplicas.world restock).replica ⟨"k2"⟩).state.value .release = some v ∧
      (v.toNat : ℤ) = 12 := by
  have hc : (counterReplicas.world restock).HasCopy
      ((counterReplicas.world restock).replica ⟨"k2"⟩) := .inr ⟨⟨"k2"⟩, rfl⟩
  exact (stock_moves_counted_once hc).2 .release (by decide) (by decide) (by decide)

end

/-! ## How far the value is exact -/

/-- What the counts of all origins add up to. -/
def sumOf (counts : Map KioskId UInt64) : ℕ := ((PNCounter.values counts).map UInt64.toNat).sum

namespace PNCounter

/-- The counters that operations and merges lead to. -/
inductive Reachable : PNCounter → Prop
  | new : Reachable .new
  | increment {c : PNCounter} (origin : KioskId) (amount : UInt64) :
      Reachable c → Reachable (c.increment origin amount)
  | decrement {c : PNCounter} (origin : KioskId) (amount : UInt64) :
      Reachable c → Reachable (c.decrement origin amount)
  | merge {c d : PNCounter} : Reachable c → Reachable d → Reachable (c.merge d)

/-- In every build `value` shows what all counts amount to, capped at both ends. -/
def Exact (c : PNCounter) : Prop :=
  ∀ profile, ∃ v, c.value profile = some v ∧
    (v.toNat : ℤ) = min (2 ^ 64 - 1) (max 0 ((sumOf c.positives : ℤ) - sumOf c.negatives))

/-- **The value is exact as long as neither sum overflows.** The count of an origin saturates, but
the sum over the origins is a plain addition, which stops a dev build and wraps in a release one. -/
theorem value_exact_iff (c : PNCounter) :
    c.Exact ↔ sumOf c.positives < 2 ^ 64 ∧ sumOf c.negatives < 2 ^ 64 := by
  constructor
  · intro exact
    obtain ⟨v, shown, -⟩ := exact .dev
    unfold value at shown
    cases hp : Profile.dev.sum (values c.positives) with
    | none =>
      rw [hp] at shown
      cases shown
    | some p =>
      cases hn : Profile.dev.sum (values c.negatives) with
      | none =>
        rw [hp, hn] at shown
        cases shown
      | some n => exact ⟨Profile.sum_dev_lt hp, Profile.sum_dev_lt hn⟩
  · rintro ⟨pos, neg⟩ profile
    obtain ⟨v, shown, nat⟩ := toNat_value profile pos neg
    refine ⟨v, shown, ?_⟩
    unfold sumOf at *
    omega

/-- Two kiosks restock, one of them by as much as a count can hold. -/
theorem value_overflows : ¬ ∀ c : PNCounter, c.Reachable → c.Exact := by
  intro h
  let full : PNCounter := (PNCounter.new.increment ⟨"k1"⟩ (.ofNat (2 ^ 64 - 1))).increment ⟨"k2"⟩ 1
  obtain ⟨v, shown, -⟩ := h full (.increment _ _ (.increment _ _ .new)) .dev
  have stopped : full.value .dev = none := by decide
  rw [stopped] at shown
  cases shown

end PNCounter

end SyncDaemon.Crdt

namespace SyncDaemon.Sync

/-- `sync/crdt.rs` has the same counter over again, with a comparison of its own. -/
abbrev PNCounter := Crdt.PNCounter

/-- `eq` compares what the two counters show; `none` is a panic in either sum. -/
def PNCounter.eq (profile : Profile) (self other : PNCounter) : Option Bool := do
  let a ← self.value profile
  let b ← other.value profile
  return a == b

open Gossip Crdt

/-- Replicas that absorbed everything compare equal. -/
theorem PNCounter.eq_of_absorbed_all (profile : Profile) {acts : List (Action KioskId StockMove)}
    {c d : Copy PNCounter} (hc : (counterReplicas.world acts).HasCopy c)
    (hd : (counterReplicas.world acts).HasCopy d)
    (allC : ∀ n < (counterReplicas.world acts).issued.length, n ∈ c.absorbed)
    (allD : ∀ n < (counterReplicas.world acts).issued.length, n ∈ d.absorbed)
    (added : grandTotal StockMove.added (counterReplicas.world acts).issued < 2 ^ 64)
    (taken : grandTotal StockMove.taken (counterReplicas.world acts).issued < 2 ^ 64) :
    PNCounter.eq profile c.state d.state = some true := by
  obtain ⟨v, hv, nv⟩ := value_of_absorbed_all profile hc allC added taken
  obtain ⟨u, hu, nu⟩ := value_of_absorbed_all profile hd allD added taken
  have same : v = u := UInt64.toNat_inj.mp (by omega)
  simp [PNCounter.eq, hv, hu, same]

end SyncDaemon.Sync
