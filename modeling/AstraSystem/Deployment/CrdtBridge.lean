import AstraSystem.SharedTypes.MvRegister
import AstraSystem.SyncDaemon.Crdt.LwwElementSet
import AstraSystem.SyncDaemon.Crdt.MvRegister
import Mathlib.Data.Finset.Max

/-!
# One CRDT on two sides

The kiosk frontend and the sync daemon hold the same states and merge them by code
of their own. The daemon compares timestamps without the node id and keeps what it
has on a tie, while the frontend breaks ties by the node id.
-/

namespace Deployment

open SyncDaemon.Crdt (ElementEntry RegisterValue)
open SharedTypes (LwwElement read newerAdd newerRemove lookupLwwElement mergeLwwElementSet readMvRegister mergeMvRegister
  latest)

/-- The part of a timestamp that the daemon compares. -/
def stamp {N S : Type*} (h : SharedTypes.Hlc N S) : N ×ₗ N := toLex (h.physicalTimeMs, h.logicalCounter)

/-- How the fields of a timestamp are represented on the other side. Numbers keep their order where they are
represented exactly. -/
structure HlcMap (N S : Type*) [LinearOrder N] where
  num : ℕ → N
  safe : Set ℕ
  increasing : StrictMonoOn num safe
  node : String ↪ S

namespace HlcMap

variable {N S : Type*} [LinearOrder N]

def hlc (m : HlcMap N S) (h : SyncDaemon.Crdt.Hlc) : SharedTypes.Hlc N S :=
  ⟨m.num h.wallclockMs.toNat, m.num h.counter.toNat, m.node h.nodeId⟩

structure Fits (m : HlcMap N S) (h : SyncDaemon.Crdt.Hlc) : Prop where
  wallclock : h.wallclockMs.toNat ∈ m.safe
  counter : h.counter.toNat ∈ m.safe

variable {m : HlcMap N S} {a b : SyncDaemon.Crdt.Hlc}

theorem stamp_lt_iff (ha : m.Fits a) (hb : m.Fits b) : stamp (m.hlc a) < stamp (m.hlc b) ↔ a.stamp < b.stamp := by
  have wallclock := m.increasing.lt_iff_lt ha.wallclock hb.wallclock
  have sameWallclock := m.increasing.injOn.eq_iff ha.wallclock hb.wallclock
  have counter := m.increasing.lt_iff_lt ha.counter hb.counter
  simp only [stamp, hlc, SyncDaemon.Crdt.Hlc.stamp, Prod.Lex.toLex_lt_toLex, wallclock, sameWallclock, counter]

theorem stamp_eq_iff (ha : m.Fits a) (hb : m.Fits b) : stamp (m.hlc a) = stamp (m.hlc b) ↔ a.stamp = b.stamp := by
  have wallclock := m.increasing.injOn.eq_iff ha.wallclock hb.wallclock
  have counter := m.increasing.injOn.eq_iff ha.counter hb.counter
  simp only [stamp, hlc, SyncDaemon.Crdt.Hlc.stamp, EmbeddingLike.apply_eq_iff_eq, Prod.mk.injEq, wallclock, counter]

theorem hlc_inj (ha : m.Fits a) (hb : m.Fits b) : m.hlc a = m.hlc b ↔ a = b := by
  constructor
  · intro h
    obtain ⟨wallclock, counter, node⟩ := SharedTypes.Hlc.mk.inj h
    apply SyncDaemon.Crdt.Hlc.eq_of_stamp _ (m.node.injective node)
    exact (SyncDaemon.Crdt.Hlc.stamp_eq_iff a b).mpr
      ⟨UInt64.toNat_inj.mp (m.increasing.injOn ha.wallclock hb.wallclock wallclock),
        UInt32.toNat_inj.mp (m.increasing.injOn ha.counter hb.counter counter)⟩
  · intro h
    rw [h]

variable [LinearOrder S]

/-- The frontend compares by the stamp, and then by the node id. -/
theorem rank_lt_iff (ha : m.Fits a) (hb : m.Fits b) :
    (m.hlc a).rank < (m.hlc b).rank ↔
      a.stamp < b.stamp ∨ a.stamp = b.stamp ∧ m.node a.nodeId < m.node b.nodeId := by
  rw [← stamp_lt_iff ha hb, ← stamp_eq_iff ha hb]
  simp only [SharedTypes.Hlc.rank, stamp, hlc, Prod.Lex.toLex_lt_toLex, EmbeddingLike.apply_eq_iff_eq, Prod.mk.injEq]
  tauto

end HlcMap

/-! ## Element sets -/

section
variable {N S T : Type*} {V : Type} [LinearOrder N] [LinearOrder S] {m : HlcMap N S} {val : T → V}

/-- The frontend's entries of an element whose newest operation is the daemon's entry. An older operation of the
other kind may be there still, hidden. -/
inductive SameElement (m : HlcMap N S) (val : T → V) :
    Option (LwwElement N S T) → Option (SharedTypes.Hlc N S) → Option (ElementEntry V) → Prop
  | absent : SameElement m val none none none
  | added {value : T} {h : SyncDaemon.Crdt.Hlc} {remove : Option (SharedTypes.Hlc N S)} (fits : m.Fits h)
      (older : ∀ r, remove = some r → r.rank < (m.hlc h).rank) :
      SameElement m val (some ⟨value, m.hlc h⟩) remove (some ⟨some (val value), h, false⟩)
  | removed {h : SyncDaemon.Crdt.Hlc} {add : Option (LwwElement N S T)} (fits : m.Fits h)
      (older : ∀ a, add = some a → a.hlc.rank ≤ (m.hlc h).rank) :
      SameElement m val add (some (m.hlc h)) (some ⟨none, h, true⟩)

def SameSet (m : HlcMap N S) (val : T → V) (s : SharedTypes.LwwElementSet N S T)
    (r : SyncDaemon.Crdt.LwwElementSet String V) : Prop :=
  ∀ k, SameElement m val (s.adds.lookup k) (s.removes.lookup k) (r.entries.lookup k)

/-- The frontend takes the other side's operation: it is later, or it removes what we added at the same time. -/
def TakesTheirs (m : HlcMap N S) (ours theirs : ElementEntry V) : Prop :=
  (m.hlc ours.hlc).rank < (m.hlc theirs.hlc).rank ∨
    m.hlc ours.hlc = m.hlc theirs.hlc ∧ ours.removed = false ∧ theirs.removed = true

/-- A tie the daemon keeps its own entry on, while the frontend takes the other. -/
def Contested (m : HlcMap N S) (ours theirs : ElementEntry V) : Prop :=
  ours.hlc.stamp = theirs.hlc.stamp ∧
    (m.node ours.hlc.nodeId < m.node theirs.hlc.nodeId ∨
      ours.hlc.nodeId = theirs.hlc.nodeId ∧ ours.removed = false ∧ theirs.removed = true)

theorem read_added {add : LwwElement N S T} {remove : Option (SharedTypes.Hlc N S)}
    (older : ∀ r, remove = some r → r.rank < add.hlc.rank) : read (some add) remove = some add.value := by
  cases remove with
  | none => rfl
  | some r => exact if_neg (not_le.mpr (older r rfl))

theorem read_removed {add : Option (LwwElement N S T)} {remove : SharedTypes.Hlc N S}
    (older : ∀ a, add = some a → a.hlc.rank ≤ remove.rank) : read add (some remove) = none := by
  cases add with
  | none => rfl
  | some a => exact if_pos (older a rfl)

/-- What holds of both cells holds of the cell that takes in the other. -/
theorem of_join {W K : Type*} [LinearOrder K] {stamp : W → K} {o p : Option W} {P : W → Prop}
    (ho : ∀ w, o = some w → P w) (hp : ∀ w, p = some w → P w) {w : W} (h : Newest.join stamp o p = some w) : P w := by
  have choice : Newest.join stamp o p = o ∨ Newest.join stamp o p = p := Newest.join_choice o p
  obtain left | right := choice
  · exact ho w (left.symm.trans h)
  · exact hp w (right.symm.trans h)

/-- A newer write replaces whatever is there. -/
theorem join_newer {W K : Type*} [LinearOrder K] {stamp : W → K} {o : Option W} {w : W}
    (newer : ∀ x, o = some x → stamp x < stamp w) : Newest.join stamp o (some w) = some w := by
  cases o with
  | none => rfl
  | some x => exact if_pos (newer x rfl)

/-- A write that nothing is newer than stays. -/
theorem join_stays {W K : Type*} [LinearOrder K] {stamp : W → K} {p : Option W} {w : W}
    (older : ∀ x, p = some x → stamp x ≤ stamp w) : Newest.join stamp (some w) p = some w := by
  cases p with
  | none => rfl
  | some x => exact if_neg (not_lt.mpr (older x rfl))

variable {add add' : Option (LwwElement N S T)} {remove remove' : Option (SharedTypes.Hlc N S)} {x y : ElementEntry V}

instance decidableTakesTheirs (m : HlcMap N S) (ours theirs : ElementEntry V) :
    Decidable (TakesTheirs m ours theirs) :=
  inferInstanceAs (Decidable (_ ∨ _))

theorem SameElement.fits (h : SameElement m val add remove (some x)) : m.Fits x.hlc := by
  cases h with
  | added fits => exact fits
  | removed fits => exact fits

/-- The two sides show the same of an element. -/
theorem SameElement.visible {entry : Option (ElementEntry V)} (h : SameElement m val add remove entry) :
    (read add remove).map val = (entry.map ElementEntry.effect).join := by
  cases h with
  | absent => rfl
  | added _ older => rw [read_added older]; rfl
  | removed _ older => rw [read_removed older]; rfl

/-- What the frontend shows of an element that both states have. -/
theorem SameElement.merge (h : SameElement m val add remove (some x)) (h' : SameElement m val add' remove' (some y)) :
    (read (newerAdd add add') (newerRemove remove remove')).map val =
      if TakesTheirs m x y then y.effect else x.effect := by
  cases h with
  | added fits older =>
    rename_i value hlc
    cases h' with
    | added fits' older' =>
      rename_i value' hlc'
      by_cases later : (m.hlc hlc).rank < (m.hlc hlc').rank
      · rw [if_pos (.inl later), newerAdd, Newest.join_some, if_pos later, read_added]
        · rfl
        · intro r hr
          exact of_join (P := fun r => r.rank < (m.hlc hlc').rank) (fun w hw => (older w hw).trans later) older' hr
      · have ours : ¬ TakesTheirs m ⟨some (val value), hlc, false⟩ ⟨some (val value'), hlc', false⟩ := by
          simp [TakesTheirs, later]
        rw [if_neg ours, newerAdd, Newest.join_some, if_neg later, read_added]
        · rfl
        · intro r hr
          exact of_join (P := fun r => r.rank < (m.hlc hlc).rank) older
            (fun w hw => lt_of_lt_of_le (older' w hw) (not_lt.mp later)) hr
    | removed fits' older' =>
      rename_i hlc'
      by_cases later : (m.hlc hlc').rank < (m.hlc hlc).rank
      · have ours : ¬ TakesTheirs m ⟨some (val value), hlc, false⟩ ⟨none, hlc', true⟩ := by
          rintro (lt | ⟨eq, -⟩)
          · exact lt_asymm lt later
          · exact later.ne (congrArg _ eq).symm
        rw [if_neg ours, newerAdd, join_stays (fun a ha => (older' a ha).trans later.le), read_added]
        · rfl
        · intro r hr
          exact of_join (P := fun r => r.rank < (m.hlc hlc).rank) older
            (fun w hw => by cases hw; exact later) hr
      · have theirs : TakesTheirs m ⟨some (val value), hlc, false⟩ ⟨none, hlc', true⟩ := by
          obtain lt | eq := (not_lt.mp later).lt_or_eq
          · exact .inl lt
          · exact .inr ⟨SharedTypes.Hlc.rank_injective eq, rfl, rfl⟩
        rw [if_pos theirs, newerRemove, join_newer (fun r hr => lt_of_lt_of_le (older r hr) (not_lt.mp later)),
          read_removed]
        · rfl
        · intro a ha
          exact of_join (P := fun a => a.hlc.rank ≤ (m.hlc hlc').rank)
            (fun w hw => by cases hw; exact not_lt.mp later) older' ha
  | removed fits older =>
    rename_i hlc
    cases h' with
    | added fits' older' =>
      rename_i value' hlc'
      by_cases later : (m.hlc hlc).rank < (m.hlc hlc').rank
      · rw [if_pos (.inl later), newerAdd, join_newer (fun a ha => lt_of_le_of_lt (older a ha) later), read_added]
        · rfl
        · intro r hr
          exact of_join (P := fun r => r.rank < (m.hlc hlc').rank) (fun w hw => by cases hw; exact later) older' hr
      · have ours : ¬ TakesTheirs m ⟨none, hlc, true⟩ ⟨some (val value'), hlc', false⟩ := by
          simp [TakesTheirs, later]
        rw [if_neg ours, newerRemove, join_stays (fun r hr => ((older' r hr).trans_le (not_lt.mp later)).le),
          read_removed]
        · rfl
        · intro a ha
          exact of_join (P := fun a => a.hlc.rank ≤ (m.hlc hlc).rank) older
            (fun w hw => by cases hw; exact not_lt.mp later) ha
    | removed fits' older' =>
      rename_i hlc'
      -- an element that both sides removed stays removed
      have gone : (if TakesTheirs m (⟨none, hlc, true⟩ : ElementEntry V) ⟨none, hlc', true⟩ then
          (⟨none, hlc', true⟩ : ElementEntry V).effect else (⟨none, hlc, true⟩ : ElementEntry V).effect) = none := by
        split <;> rfl
      rw [gone, newerRemove, Newest.join_some]
      by_cases later : (m.hlc hlc).rank < (m.hlc hlc').rank
      · rw [if_pos later, read_removed]
        · rfl
        · intro a ha
          exact of_join (P := fun a => a.hlc.rank ≤ (m.hlc hlc').rank) (fun w hw => (older w hw).trans later.le) older' ha
      · rw [if_neg later, read_removed]
        · rfl
        · intro a ha
          exact of_join (P := fun a => a.hlc.rank ≤ (m.hlc hlc).rank) older
            (fun w hw => (older' w hw).trans (not_lt.mp later)) ha

theorem contested_iff (hx : m.Fits x.hlc) (hy : m.Fits y.hlc) :
    Contested m x y ↔ TakesTheirs m x y ∧ ¬ x.hlc.stamp < y.hlc.stamp := by
  unfold Contested TakesTheirs
  rw [HlcMap.rank_lt_iff hx hy, HlcMap.hlc_inj hx hy]
  constructor
  · rintro ⟨tie, node | ⟨node, kinds⟩⟩
    · exact ⟨.inl (.inr ⟨tie, node⟩), tie.not_lt⟩
    · exact ⟨.inr ⟨SyncDaemon.Crdt.Hlc.eq_of_stamp tie node, kinds⟩, tie.not_lt⟩
  · rintro ⟨((lt | ⟨tie, node⟩) | ⟨same, kinds⟩), notNewer⟩
    · exact absurd lt notNewer
    · exact ⟨tie, .inl node⟩
    · exact ⟨congrArg _ same, .inr ⟨congrArg _ same, kinds⟩⟩

/-- Merging one element gives the same on both sides unless a contested tie shows. -/
theorem SameElement.merge_iff (h : SameElement m val add remove (some x))
    (h' : SameElement m val add' remove' (some y)) :
    (read (newerAdd add add') (newerRemove remove remove')).map val =
      ((SyncDaemon.Crdt.newer (some x) y).map ElementEntry.effect).join ↔
      (Contested m x y → x.effect = y.effect) := by
  rw [h.merge h', contested_iff h.fits h'.fits, SyncDaemon.Crdt.newer, Newest.keep]
  by_cases newer : x.hlc.stamp < y.hlc.stamp
  · have theirs : TakesTheirs m x y := .inl ((HlcMap.rank_lt_iff h.fits h'.fits).mpr (.inl newer))
    simp [newer, theirs]
  · by_cases theirs : TakesTheirs m x y
    · simp [newer, theirs, eq_comm]
    · simp [newer, theirs]

/-- The two merges of one pair of states give the same lookups exactly where contested ties do not show. -/
theorem lookups_agree_iff {s s' : SharedTypes.LwwElementSet N S T} {r r' : SyncDaemon.Crdt.LwwElementSet String V}
    (h : SameSet m val s r) (h' : SameSet m val s' r') :
    (∀ k, (lookupLwwElement (mergeLwwElementSet s s') k).map val = (r.merge r').get k) ↔
      ∀ k x y, r.entries.lookup k = some x → r'.entries.lookup k = some y → Contested m x y → x.effect = y.effect := by
  refine forall_congr' ?_
  intro k
  have ours := h k
  have theirs := h' k
  rw [SharedTypes.lookup_eq, SharedTypes.adds_merge, SharedTypes.removes_merge, SyncDaemon.Crdt.LwwElementSet.get_eq,
    SyncDaemon.Crdt.LwwElementSet.lookup_merge]
  generalize r.entries.lookup k = o at ours ⊢
  generalize r'.entries.lookup k = p at theirs ⊢
  generalize s.adds.lookup k = add at ours ⊢
  generalize s.removes.lookup k = remove at ours ⊢
  cases p with
  | none =>
    generalize s'.adds.lookup k = add' at theirs ⊢
    generalize s'.removes.lookup k = remove' at theirs ⊢
    cases theirs
    simpa using ours.visible
  | some y =>
    cases o with
    | none =>
      cases ours
      simpa [SyncDaemon.Crdt.newer, Newest.keep] using theirs.visible
    | some x =>
      rw [ours.merge_iff theirs]
      simp

/-! ## Registers -/

/-- An entry of a register on both sides. -/
structure SameEntry (m : HlcMap N S) (val : T → V) (e : LwwElement N S T) (v : RegisterValue V) : Prop where
  fits : m.Fits v.hlc
  hlc : e.hlc = m.hlc v.hlc
  value : val e.value = v.value

def SameRegister (m : HlcMap N S) (val : T → V) (a : SharedTypes.MvRegister N S T)
    (p : SyncDaemon.Crdt.MvRegister V) : Prop :=
  List.Forall₂ (SameEntry m val) a.values p.values

/-- Of the entries with the greatest stamp ours, and theirs under timestamps that are not there yet. -/
def concurrent (a b : SharedTypes.MvRegister N S T) : List (LwwElement N S T) :=
  Undominated.gather LwwElement.hlc (fun y x => decide (stamp x.hlc < stamp y.hlc)) a.values b.values

/-- The entries that are concurrent by the stamps read like the different ones with the latest timestamp of all. -/
def ReadAlike [DecidableEq T] (val : T → V) (a b : SharedTypes.MvRegister N S T) : Prop :=
  ((latest (a.values ++ b.values)).dedup.map fun e => val e.value).Perm ((concurrent a b).map fun e => val e.value)

theorem concurrent_values {a b : SharedTypes.MvRegister N S T} {p q : SyncDaemon.Crdt.MvRegister V}
    (h : SameRegister m val a p) (h' : SameRegister m val b q) :
    (concurrent a b).map (fun e => val e.value) = (p.merge q).maximal := by
  rw [SyncDaemon.Crdt.MvRegister.maximal_merge]
  have same : List.Forall₂ (SameEntry m val) (concurrent a b) (Undominated.gather RegisterValue.hlc
      (fun y x => y.hlc.dominates x.hlc) p.values q.values) := by
    apply Undominated.forall₂_gather _ _ h h'
    · intro e v e' v' he he'
      rw [he.hlc, he'.hlc, HlcMap.hlc_inj he.fits he'.fits]
    · intro e v e' v' he he'
      rw [Bool.eq_iff_iff, decide_eq_true_eq, SyncDaemon.Crdt.Hlc.dominates_iff, he.hlc, he'.hlc,
        HlcMap.stamp_lt_iff he'.fits he.fits]
  generalize concurrent a b = l, Undominated.gather RegisterValue.hlc _ p.values q.values = l' at same ⊢
  induction same with
  | nil => rfl
  | cons h _ ih => rw [List.map_cons, List.map_cons, ih, h.value]

variable [DecidableEq T]

theorem registers_agree_iff (debug : V → String) {a b : SharedTypes.MvRegister N S T}
    {p q : SyncDaemon.Crdt.MvRegister V} (h : SameRegister m val a p) (h' : SameRegister m val b q) :
    ((readMvRegister (mergeMvRegister a b)).map val).Perm ((p.merge q).read debug) ↔ ReadAlike val a b := by
  have frontend : ((readMvRegister (mergeMvRegister a b)).map val).Perm
      ((latest (a.values ++ b.values)).dedup.map fun e => val e.value) := by
    rw [readMvRegister, List.map_map]
    exact (SharedTypes.values_merge_perm a b).map _
  have daemon : ((p.merge q).read debug).Perm ((concurrent a b).map fun e => val e.value) :=
    (SyncDaemon.Crdt.MvRegister.read_perm debug _).trans (.of_eq (concurrent_values h h').symm)
  exact ⟨fun agree => (frontend.symm.trans agree).trans daemon,
    fun alike => (frontend.trans alike).trans daemon.symm⟩

theorem stamp_le_of_rank {h h' : SharedTypes.Hlc N S} (le : h.rank ≤ h'.rank) : stamp h ≤ stamp h' := by
  simp only [SharedTypes.Hlc.rank, stamp, Prod.Lex.toLex_le_toLex] at le ⊢
  obtain physical | ⟨physical, counter | ⟨counter, -⟩⟩ := le
  · exact .inl physical
  · exact .inr ⟨physical, counter.le⟩
  · exact .inr ⟨physical, counter.le⟩

/-- Where a timestamp carries one value, the registers read alike when at most one entry is left. -/
theorem readAlike_iff_one {a b : SharedTypes.MvRegister N S T}
    (one : ∀ e ∈ a.values ++ b.values, ∀ e' ∈ a.values ++ b.values, e.hlc = e'.hlc → e = e') :
    ReadAlike val a b ↔ (concurrent a b).length ≤ 1 := by
  unfold ReadAlike
  have left (e : LwwElement N S T) (he : e ∈ latest (a.values ++ b.values)) : e ∈ concurrent a b := by
    obtain ⟨mem, top⟩ := SharedTypes.mem_latest.mp he
    have undominated : e ∈ Undominated.undominated (fun y x : LwwElement N S T => decide (stamp x.hlc < stamp y.hlc))
        (a.values ++ b.values) :=
      Undominated.mem_undominated.mpr ⟨mem, fun y hy => decide_eq_false (stamp_le_of_rank (top y hy)).not_gt⟩
    have gathered : e.hlc ∈ (concurrent a b).map LwwElement.hlc := Undominated.key_mem_gather undominated
    obtain ⟨e', he', same⟩ := List.mem_map.mp gathered
    exact one e' (Undominated.mem_of_mem_gather he') e mem same ▸ he'
  have distinct (e : LwwElement N S T) (he : e ∈ latest (a.values ++ b.values)) :
      (latest (a.values ++ b.values)).dedup = [e] := by
    have all : ∀ e' ∈ latest (a.values ++ b.values), e' = e := by
      intro e' he'
      obtain ⟨mem, top⟩ := SharedTypes.mem_latest.mp he
      obtain ⟨mem', top'⟩ := SharedTypes.mem_latest.mp he'
      exact one e' mem' e mem (SharedTypes.Hlc.rank_injective (le_antisymm (top e' mem') (top' e mem)))
    rw [List.eq_replicate_of_mem all]
    exact List.replicate_dedup (List.length_pos_of_mem he).ne'
  have some (e : LwwElement N S T) (he : e ∈ a.values ++ b.values) : ∃ e, e ∈ latest (a.values ++ b.values) := by
    obtain ⟨top, mem, le⟩ := (a.values ++ b.values).toFinset.exists_max_image (fun e => e.hlc.rank)
      ⟨e, List.mem_toFinset.mpr he⟩
    exact ⟨top, SharedTypes.mem_latest.mpr
      ⟨List.mem_toFinset.mp mem, fun y hy => le y (List.mem_toFinset.mpr hy)⟩⟩
  constructor
  · intro alike
    rw [← (List.length_map (fun e => val e.value)), ← alike.length_eq, List.length_map]
    cases empty : latest (a.values ++ b.values) with
    | nil => simp
    | cons e l =>
      rw [← empty, distinct e (empty ▸ List.mem_cons_self)]
      exact le_rfl
  · intro short
    cases found : concurrent a b with
    | nil =>
      have none : latest (a.values ++ b.values) = [] :=
        List.eq_nil_iff_forall_not_mem.mpr fun e he => by simpa [found] using left e he
      rw [none]
      exact .nil
    | cons e l =>
      obtain rfl : l = [] := by simpa [found] using short
      have mem : e ∈ concurrent a b := found ▸ List.mem_singleton_self e
      obtain ⟨e', he'⟩ := some e (Undominated.mem_of_mem_gather mem)
      have same : e' = e := by simpa [found] using left e' he'
      rw [distinct e' he', same]

/-- **The two sides merge element sets alike exactly where no contested tie shows, and registers exactly where what is
concurrent by the stamps is what the latest timestamp carries.** -/
theorem merges_agree_iff (debug : V → String) {s s' : SharedTypes.LwwElementSet N S T}
    {r r' : SyncDaemon.Crdt.LwwElementSet String V} {a b : SharedTypes.MvRegister N S T}
    {p q : SyncDaemon.Crdt.MvRegister V} (hs : SameSet m val s r) (hs' : SameSet m val s' r')
    (ha : SameRegister m val a p) (hb : SameRegister m val b q) :
    ((∀ k, (lookupLwwElement (mergeLwwElementSet s s') k).map val = (r.merge r').get k) ↔
      ∀ k x y, r.entries.lookup k = some x → r'.entries.lookup k = some y → Contested m x y →
        x.effect = y.effect) ∧
    (((readMvRegister (mergeMvRegister a b)).map val).Perm ((p.merge q).read debug) ↔ ReadAlike val a b) :=
  ⟨lookups_agree_iff hs hs', registers_agree_iff debug ha hb⟩

end

/-! ## Two kiosks write at once -/

def identity : HlcMap ℕ String where
  num := id
  safe := Set.univ
  increasing := strictMono_id.strictMonoOn _
  node := .refl String

theorem identity_fits (h : SyncDaemon.Crdt.Hlc) : identity.Fits h := ⟨trivial, trivial⟩

/-- A kiosk counts the tea on its shelf. -/
def shelf (h : SyncDaemon.Crdt.Hlc) (count : ℕ) : SharedTypes.LwwElementSet ℕ String ℕ where
  adds := AList.insert "tea" ⟨count, identity.hlc h⟩ ∅

def daemonShelf (h : SyncDaemon.Crdt.Hlc) (count : ℕ) : SyncDaemon.Crdt.LwwElementSet String ℕ :=
  ⟨AList.insert "tea" ⟨some count, h, false⟩ ∅⟩

theorem sameSet_shelf (h : SyncDaemon.Crdt.Hlc) (count : ℕ) :
    SameSet identity id (shelf h count) (daemonShelf h count) := by
  intro k
  by_cases tea : k = "tea"
  · subst tea
    exact .added (identity_fits h) (by simp [shelf])
  · simp only [shelf, daemonShelf, AList.lookup_insert_ne tea]
    exact .absent

theorem sameRegister_shelf (h : SyncDaemon.Crdt.Hlc) (count : ℕ) :
    SameRegister identity id ⟨[⟨count, identity.hlc h⟩]⟩ ⟨[⟨count, h⟩]⟩ :=
  .cons ⟨identity_fits h, rfl, rfl⟩ .nil

theorem merges_agree_later :
    (∀ k, (lookupLwwElement (mergeLwwElementSet (shelf ⟨5, 0, "k1"⟩ 1) (shelf ⟨5, 1, "k2"⟩ 2)) k).map id =
      ((daemonShelf ⟨5, 0, "k1"⟩ 1).merge (daemonShelf ⟨5, 1, "k2"⟩ 2)).get k) ∧
    ((readMvRegister (mergeMvRegister ⟨[⟨1, identity.hlc ⟨5, 0, "k1"⟩⟩]⟩ ⟨[⟨2, identity.hlc ⟨5, 1, "k2"⟩⟩]⟩)).map id).Perm
      ((SyncDaemon.Crdt.MvRegister.merge ⟨[⟨1, ⟨5, 0, "k1"⟩⟩]⟩ ⟨[⟨2, ⟨5, 1, "k2"⟩⟩]⟩).read (toString : ℕ → String)) := by
  obtain ⟨sets, registers⟩ := merges_agree_iff toString (sameSet_shelf ⟨5, 0, "k1"⟩ 1) (sameSet_shelf ⟨5, 1, "k2"⟩ 2)
    (sameRegister_shelf ⟨5, 0, "k1"⟩ 1) (sameRegister_shelf ⟨5, 1, "k2"⟩ 2)
  refine ⟨sets.mpr ?_, registers.mpr ?_⟩
  · intro k x y hx hy contested
    by_cases tea : k = "tea"
    · subst tea
      rw [daemonShelf, AList.lookup_insert] at hx hy
      cases hx
      cases hy
      exact absurd contested.1 (by decide)
    · rw [daemonShelf, AList.lookup_insert_ne tea] at hx
      cases hx
  · unfold ReadAlike
    decide

/-- At one instant the frontend shows the count of the kiosk with the greater id, and the daemon its own. -/
theorem merges_differ :
    SameSet identity id (shelf ⟨5, 0, "k1"⟩ 1) (daemonShelf ⟨5, 0, "k1"⟩ 1) ∧
    SameSet identity id (shelf ⟨5, 0, "k2"⟩ 2) (daemonShelf ⟨5, 0, "k2"⟩ 2) ∧
    SameRegister identity id ⟨[⟨1, identity.hlc ⟨5, 0, "k1"⟩⟩]⟩ ⟨[⟨1, ⟨5, 0, "k1"⟩⟩]⟩ ∧
    SameRegister identity id ⟨[⟨2, identity.hlc ⟨5, 0, "k2"⟩⟩]⟩ ⟨[⟨2, ⟨5, 0, "k2"⟩⟩]⟩ ∧
    (lookupLwwElement (mergeLwwElementSet (shelf ⟨5, 0, "k1"⟩ 1) (shelf ⟨5, 0, "k2"⟩ 2)) "tea").map id ≠
      ((daemonShelf ⟨5, 0, "k1"⟩ 1).merge (daemonShelf ⟨5, 0, "k2"⟩ 2)).get "tea" ∧
    ¬ ((readMvRegister (mergeMvRegister ⟨[⟨1, identity.hlc ⟨5, 0, "k1"⟩⟩]⟩ ⟨[⟨2, identity.hlc ⟨5, 0, "k2"⟩⟩]⟩)).map
      id).Perm ((SyncDaemon.Crdt.MvRegister.merge ⟨[⟨1, ⟨5, 0, "k1"⟩⟩]⟩ ⟨[⟨2, ⟨5, 0, "k2"⟩⟩]⟩).read
        (toString : ℕ → String)) := by
  refine ⟨sameSet_shelf _ _, sameSet_shelf _ _, sameRegister_shelf _ _, sameRegister_shelf _ _, by decide, ?_⟩
  rw [registers_agree_iff toString (sameRegister_shelf _ _) (sameRegister_shelf _ _)]
  unfold ReadAlike
  decide

end Deployment
