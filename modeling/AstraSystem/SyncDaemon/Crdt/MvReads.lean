import AstraSystem.SyncDaemon.Crdt.MvRegister

/-!
# What a multi-value register reads

Without resolutions, and with pairwise distinct timestamps, a replica reads the
values of those absorbed writes that no absorbed write dominates. The entries
two replicas store can differ; what they read cannot.
-/

namespace SyncDaemon.Crdt

open Gossip Undominated

variable {V : Type}

def OnlyWrites (L : List (Event ℕ (MvOp V))) : Prop := ∀ e ∈ L, e.op.entry? ≠ none

def DistinctWrites (L : List (Event ℕ (MvOp V))) : Prop :=
  ((L.filterMap fun e => e.op.entry?).map RegisterValue.hlc).Nodup

/-- The order of entries by their timestamps. -/
def above (y x : RegisterValue V) : Bool := y.hlc.dominates x.hlc

theorem above_trans (x y z : RegisterValue V) (hxy : above x y) (hyz : above y z) : above x z := by
  simp only [above, Hlc.dominates_iff] at *
  exact lt_trans hyz hxy

/-- The entries of a replica stand for all the writes it absorbed, one entry a timestamp. -/
structure StandsFor (writes : List (RegisterValue V)) (r : MvRegister V) : Prop where
  covers : Covers above r.values writes
  nodup : (r.values.map RegisterValue.hlc).Nodup

theorem StandsFor.write {writes : List (RegisterValue V)} {r : MvRegister V}
    (h : StandsFor writes r) (v : RegisterValue V)
    (fresh : v.hlc ∉ writes.map RegisterValue.hlc) :
    StandsFor (writes ++ [v]) (r.write v.value v.hlc) := by
  have kept {x : RegisterValue V} (hx : x ∈ r.values) :
      x ∈ (r.write v.value v.hlc).values ∨ above v x = true := by
    cases hd : v.hlc.dominates x.hlc
    · exact .inl (List.mem_append_left _ (List.mem_filter.mpr ⟨hx, by simp [hd]⟩))
    · exact .inr hd
  have newest : v ∈ (r.write v.value v.hlc).values :=
    List.mem_append_right _ (List.mem_singleton.mpr rfl)
  refine ⟨⟨?_, ?_⟩, ?_⟩
  · intro x hx
    cases List.mem_append.mp hx with
    | inl old => exact List.mem_append_left _ (h.covers.sub x (List.mem_filter.mp old).1)
    | inr new => exact List.mem_append_right _ new
  · intro x hx
    cases List.mem_append.mp hx with
    | inl old =>
      cases h.covers.cover x old with
      | inl held => exact (kept held).imp_right fun hv => ⟨v, newest, hv⟩
      | inr covered =>
        obtain ⟨y, hy, hyx⟩ := covered
        cases kept hy with
        | inl stays => exact .inr ⟨y, stays, hyx⟩
        | inr pruned => exact .inr ⟨v, newest, above_trans v y x pruned hyx⟩
    | inr new => exact .inl (List.mem_singleton.mp new ▸ newest)
  · simp only [MvRegister.write, List.map_append, List.map_singleton]
    refine List.nodup_append.mpr
      ⟨(List.filter_sublist.map _).nodup h.nodup, List.nodup_singleton _, ?_⟩
    intro a ha b hb eq
    subst eq
    obtain ⟨u, hu, rfl⟩ := List.mem_map.mp ha
    have old := h.covers.sub u (List.mem_filter.mp hu).1
    rw [List.mem_singleton] at hb
    exact fresh (hb ▸ List.mem_map_of_mem old)

/-- Merging stands for the writes of both sides, if writes of one timestamp are one write. -/
theorem StandsFor.merge {ws vs all : List (RegisterValue V)} {r s : MvRegister V}
    (hr : StandsFor ws r) (hs : StandsFor vs s) (hall : ∀ x, x ∈ all ↔ x ∈ ws ∨ x ∈ vs)
    (one : ∀ x ∈ all, ∀ y ∈ all, x.hlc = y.hlc → x = y) : StandsFor all (r.merge s) := by
  have sub (x : RegisterValue V) (hx : x ∈ (r.merge s).values) : x ∈ all :=
    (hall x).mpr ((MvRegister.mem_merge hx).imp (hr.covers.sub x) (hs.covers.sub x))
  refine ⟨⟨sub, ?_⟩, MvRegister.nodup_merge hr.nodup⟩
  intro x hx
  cases (hall x).mp hx with
  | inl ours =>
    cases hr.covers.cover x ours with
    | inl held => exact .inl (MvRegister.mem_merge_left held)
    | inr covered =>
      obtain ⟨y, hy, hyx⟩ := covered
      exact .inr ⟨y, MvRegister.mem_merge_left hy, hyx⟩
  | inr theirs =>
    cases hs.covers.cover x theirs with
    | inl held =>
      obtain taken | ⟨u, hu, hd | he⟩ := MvRegister.merge_covers held
      · exact .inl taken
      · exact .inr ⟨u, hu, hd⟩
      · exact .inl (one u (sub u hu) x hx he ▸ hu)
    | inr covered =>
      obtain ⟨y, hy, hyx⟩ := covered
      obtain taken | ⟨u, hu, hd | he⟩ := MvRegister.merge_covers hy
      · exact .inr ⟨y, taken, hyx⟩
      · exact .inr ⟨u, hu, above_trans u y x hd hyx⟩
      · refine .inr ⟨u, hu, ?_⟩
        simpa only [above, he] using hyx

theorem one_write {L : List (Event ℕ (MvOp V))} (distinct : DistinctWrites L) {A : Finset ℕ} :
    ∀ x ∈ writesIn L A, ∀ y ∈ writesIn L A, x.hlc = y.hlc → x = y := by
  have sub := (select_sublist L A).filterMap fun e => e.op.entry?
  intro x hx y hy h
  exact List.inj_on_of_nodup_map distinct (sub.subset hx) (sub.subset hy) h

/-- Every replica stands for the writes it absorbed, as long as its run only writes. -/
def Traced (L : List (Event ℕ (MvOp V))) (c : Copy (MvRegister V)) : Prop :=
  OnlyWrites L → DistinctWrites L → StandsFor (writesIn L c.absorbed) c.state

theorem distinct_of_append {L M : List (Event ℕ (MvOp V))} (h : DistinctWrites (L ++ M)) :
    DistinctWrites L := by
  rw [DistinctWrites, List.filterMap_append, List.map_append] at h
  exact (List.nodup_append.mp h).1

theorem only_of_append {L M : List (Event ℕ (MvOp V))} (h : OnlyWrites (L ++ M)) : OnlyWrites L :=
  fun e he => h e (List.mem_append_left M he)

theorem traced_stable (debug : V → String) : Stable (mvReplicas debug) Traced where
  start _ _ := ⟨⟨by simp [mvReplicas, MvRegister.new], by simp [writesIn, select]⟩, .nil⟩
  grow L c e hs _ h only distinct := by
    simp only [writesIn_append hs.issued]
    exact h (only_of_append only) (distinct_of_append distinct)
  issue L c i x hs h only distinct := by
    have old := h (only_of_append only) (distinct_of_append distinct)
    cases x with
    | resolve resolver =>
      exact absurd rfl (only ⟨i, .resolve resolver, c.absorbed⟩ (by simp))
    | write value hlc =>
      have fresh : hlc ∉ (writesIn L c.absorbed).map RegisterValue.hlc := by
        simp only [DistinctWrites, List.filterMap_append, List.map_append] at distinct
        have sub := ((select_sublist L c.absorbed).filterMap fun e => e.op.entry?).map
          RegisterValue.hlc
        intro mem
        exact (List.nodup_append.mp distinct).2.2 hlc (sub.subset mem) hlc
          (by simp [MvOp.entry?]) rfl
      rw [System.issue_absorbed, writesIn_issue]
      exact old.write ⟨value, hlc⟩ fresh
  join L c d _ _ hc hd only distinct :=
    (hc only distinct).merge (hd only distinct) (fun _ => mem_writesIn_union) (one_write distinct)

theorem read_perm_of_standsFor (debug : V → String) {writes : List (RegisterValue V)}
    {r : MvRegister V} (h : StandsFor writes r) (nodup : writes.Nodup) :
    (r.read debug).Perm ((undominated above writes).map RegisterValue.value) := by
  have hm := (Undominated.perm_of_covers above_trans h.covers h.nodup.of_map nodup).map
    RegisterValue.value
  refine (r.read_perm debug).trans ?_
  rw [MvRegister.maximal_eq]
  exact hm

/-- **Replicas that absorbed the same writes read the same values**, and those are the values of
the writes that no absorbed write dominates. -/
theorem read_converges (debug : V → String) (acts : List (Action ℕ (MvOp V)))
    (only : OnlyWrites ((mvReplicas debug).world acts).issued)
    (distinct : DistinctWrites ((mvReplicas debug).world acts).issued) {a b : Copy (MvRegister V)}
    (ha : ((mvReplicas debug).world acts).HasCopy a)
    (hb : ((mvReplicas debug).world acts).HasCopy b) (same : a.absorbed = b.absorbed) :
    (a.state.read debug).Perm (b.state.read debug) ∧
    (a.state.read debug).Perm
      ((undominated above (writesIn ((mvReplicas debug).world acts).issued a.absorbed)).map
        RegisterValue.value) := by
  have standsA := (traced_stable debug).copies acts ha only distinct
  have standsB := (traced_stable debug).copies acts hb only distinct
  have nodup (A : Finset ℕ) : (writesIn ((mvReplicas debug).world acts).issued A).Nodup :=
    (((select_sublist _ A).filterMap _).map _).nodup distinct |>.of_map
  have readA := read_perm_of_standsFor debug standsA (nodup _)
  have readB := read_perm_of_standsFor debug standsB (nodup _)
  rw [← same] at readB
  exact ⟨readA.trans readB.symm, readA⟩

/-- The `{:?}` text of a string with nothing to escape. -/
def quoted (s : String) : String := "\"" ++ s ++ "\""

/-- Two kiosks write at once and then tell each other. -/
def exchange : List (Action ℕ (MvOp String)) :=
  [.update 0 (.write "left" ⟨1, 0, "k1"⟩), .update 1 (.write "right" ⟨1, 0, "k2"⟩),
    .send 0, .receive 1 0, .send 1, .receive 0 1]

theorem read_converges_exchange :
    ∃ a b : Copy (MvRegister String), ((mvReplicas quoted).world exchange).HasCopy a ∧
      ((mvReplicas quoted).world exchange).HasCopy b ∧
      (a.state.read quoted).Perm (b.state.read quoted) ∧
      a.state.read quoted = ["left", "right"] :=
  ⟨_, _, .inr ⟨0, rfl⟩, .inr ⟨1, rfl⟩,
    (read_converges quoted exchange (show ∀ e ∈ _, _ by decide) (show List.Nodup _ by decide)
      (.inr ⟨0, rfl⟩) (.inr ⟨1, rfl⟩) (by decide)).1,
    by decide +kernel⟩

end SyncDaemon.Crdt
