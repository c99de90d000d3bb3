import AstraSystem.SyncDaemon.Crdt.MvReads

/-!
# Explicit resolution of a multi-value register

`resolve_with` stores the resolved value under the greatest timestamp of the
entries it replaces. The documented extra logical tick is not taken, so the
resolved write dominates none of the writes that shared the greatest stamp.
-/

namespace SyncDaemon.Crdt

open Gossip Undominated

variable {V : Type}

/-- Entries carry timestamps of absorbed writes, and none of these is above all entries. -/
structure Bounded (writes : List (RegisterValue V)) (r : MvRegister V) : Prop where
  known : ∀ u ∈ r.values, ∃ x ∈ writes, x.hlc = u.hlc
  bound : ∀ x ∈ writes, ∃ u ∈ r.values, x.hlc.stamp ≤ u.hlc.stamp

theorem foldl_laterTotal (l : List Hlc) (m : Hlc) :
    ∃ t ∈ m :: l, l.foldl MvRegister.laterTotal (some m) = some t ∧
      ∀ h ∈ m :: l, h.rank ≤ t.rank := by
  induction l generalizing m with
  | nil =>
    refine ⟨m, List.mem_singleton_self m, rfl, ?_⟩
    intro h hh
    rw [List.mem_singleton.mp hh]
  | cons x l ih =>
    rw [List.foldl_cons]
    by_cases hx : x.rank ≤ m.rank
    · obtain ⟨t, ht, eq, top⟩ := ih m
      refine ⟨t, ?_, ?_, ?_⟩
      · exact (List.mem_cons.mp ht).elim (fun h => h ▸ List.mem_cons_self)
          fun h => List.mem_cons_of_mem m (List.mem_cons_of_mem x h)
      · rw [← eq, MvRegister.laterTotal, if_pos ((Hlc.compareTotal_isGE m x).mpr hx)]
      · intro h hh
        simp only [List.mem_cons] at hh
        obtain rfl | rfl | hh := hh
        · exact top h List.mem_cons_self
        · exact le_trans hx (top m List.mem_cons_self)
        · exact top h (List.mem_cons_of_mem m hh)
    · obtain ⟨t, ht, eq, top⟩ := ih x
      refine ⟨t, List.mem_cons_of_mem m ht, ?_, ?_⟩
      · rw [← eq, MvRegister.laterTotal, if_neg fun h => hx ((Hlc.compareTotal_isGE m x).mp h)]
      · intro h hh
        obtain rfl | hh := List.mem_cons.mp hh
        · exact le_trans (le_of_lt (lt_of_not_ge hx)) (top x List.mem_cons_self)
        · exact top h hh

/-- An entry of `r` whose timestamp is the greatest one, ties broken by node id. -/
def IsTop (r : MvRegister V) (m : RegisterValue V) : Prop :=
  m ∈ r.values ∧ ∀ e ∈ r.values, (m.hlc.compareTotal e.hlc).isGE = true

theorem IsTop.hlc_eq {r : MvRegister V} {m n : RegisterValue V} (hm : IsTop r m)
    (hn : IsTop r n) : m.hlc = n.hlc :=
  Hlc.rank_injective (le_antisymm ((Hlc.compareTotal_isGE _ _).mp (hn.2 m hm.1))
    ((Hlc.compareTotal_isGE _ _).mp (hm.2 n hn.1)))

/-- Where there is something to resolve, one entry is left, under the greatest timestamp. -/
theorem resolveWith_eq (debug : V → String) {r : MvRegister V} (hr : 2 ≤ (r.read debug).length)
    (resolver : List V → V) :
    ∃ m, IsTop r m ∧ r.resolveWith debug resolver = ⟨[⟨resolver (r.read debug), m.hlc⟩]⟩ := by
  obtain ⟨values⟩ := r
  cases values with
  | nil => simp [MvRegister.read, MvRegister.maximal] at hr
  | cons u l =>
    obtain ⟨t, ht, eq, top⟩ := foldl_laterTotal (l.map RegisterValue.hlc) u.hlc
    obtain ⟨m, hm, rfl⟩ := List.mem_map.mp (show t ∈ (u :: l).map RegisterValue.hlc from ht)
    refine ⟨m, ⟨hm, ?_⟩, ?_⟩
    · intro e he
      apply (Hlc.compareTotal_isGE _ _).mpr
      exact top e.hlc (List.mem_map_of_mem (f := RegisterValue.hlc) he)
    · rw [MvRegister.resolveWith, if_neg (by omega)]
      simp only [List.map_cons, List.foldl_cons, MvRegister.laterTotal, eq, Option.getD_some]

theorem Bounded.write {writes : List (RegisterValue V)} {r : MvRegister V} (h : Bounded writes r)
    (v : RegisterValue V) : Bounded (writes ++ [v]) (r.write v.value v.hlc) := by
  have newest : v ∈ (r.write v.value v.hlc).values :=
    List.mem_append_right _ (List.mem_singleton.mpr rfl)
  constructor
  · intro u hu
    cases List.mem_append.mp hu with
    | inl old =>
      obtain ⟨x, hx, eq⟩ := h.known u (List.mem_filter.mp old).1
      exact ⟨x, List.mem_append_left _ hx, eq⟩
    | inr new =>
      obtain rfl := List.mem_singleton.mp new
      exact ⟨v, List.mem_append_right _ (List.mem_singleton.mpr rfl), rfl⟩
  · intro x hx
    cases List.mem_append.mp hx with
    | inl old =>
      obtain ⟨u, hu, le⟩ := h.bound x old
      cases hd : v.hlc.dominates u.hlc
      · exact ⟨u, List.mem_append_left _ (List.mem_filter.mpr ⟨hu, by simp [hd]⟩), le⟩
      · exact ⟨v, newest, le_trans le ((Hlc.dominates_iff _ _).mp hd).le⟩
    | inr new =>
      obtain rfl := List.mem_singleton.mp new
      exact ⟨x, newest, le_rfl⟩

theorem Bounded.resolve {writes : List (RegisterValue V)} {r : MvRegister V}
    (h : Bounded writes r) (debug : V → String) (resolver : List V → V) :
    Bounded writes (r.resolveWith debug resolver) := by
  by_cases hr : 2 ≤ (r.read debug).length
  · obtain ⟨m, ⟨hm, top⟩, eq⟩ := resolveWith_eq debug hr resolver
    rw [eq]
    constructor
    · intro u hu
      obtain rfl := List.mem_singleton.mp hu
      exact h.known m hm
    · intro x hx
      obtain ⟨u, hu, le⟩ := h.bound x hx
      have := Hlc.stamp_le_of_rank ((Hlc.compareTotal_isGE _ _).mp (top u hu))
      exact ⟨_, List.mem_singleton.mpr rfl, le_trans le this⟩
  · rw [MvRegister.resolveWith, if_pos (by omega)]
    exact h

theorem Bounded.merge {ws vs all : List (RegisterValue V)} {r s : MvRegister V}
    (hr : Bounded ws r) (hs : Bounded vs s) (hall : ∀ x, x ∈ all ↔ x ∈ ws ∨ x ∈ vs) :
    Bounded all (r.merge s) := by
  constructor
  · intro u hu
    cases MvRegister.mem_merge hu with
    | inl ours =>
      obtain ⟨x, hx, eq⟩ := hr.known u ours
      exact ⟨x, (hall x).mpr (.inl hx), eq⟩
    | inr theirs =>
      obtain ⟨x, hx, eq⟩ := hs.known u theirs
      exact ⟨x, (hall x).mpr (.inr hx), eq⟩
  · intro x hx
    cases (hall x).mp hx with
    | inl ours =>
      obtain ⟨u, hu, le⟩ := hr.bound x ours
      exact ⟨u, MvRegister.mem_merge_left hu, le⟩
    | inr theirs =>
      obtain ⟨u, hu, le⟩ := hs.bound x theirs
      obtain taken | ⟨y, hy, hd | he⟩ := MvRegister.merge_covers hu
      · exact ⟨u, taken, le⟩
      · exact ⟨y, hy, le_trans le ((Hlc.dominates_iff _ _).mp hd).le⟩
      · exact ⟨y, hy, he ▸ le⟩

theorem bounded_stable (debug : V → String) :
    Stable (mvReplicas debug) fun L c => Bounded (writesIn L c.absorbed) c.state where
  start := ⟨by simp [mvReplicas, MvRegister.new], by simp [writesIn, select]⟩
  grow L c e hs _ h := by
    simp only [writesIn_append hs.issued]
    exact h
  issue L c i x hs h := by
    rw [System.issue_absorbed, writesIn_issue]
    cases x with
    | write value hlc => exact h.write ⟨value, hlc⟩
    | resolve resolver =>
      simp only [MvOp.entry?, Option.toList_none, List.append_nil]
      exact h.resolve debug resolver
  join L c d _ _ hc hd := hc.merge hd fun _ => mem_writesIn_union

/-- Entries of a copy whose operations `r` has absorbed are not above the top entry of `r`. -/
theorem stamp_le_top {debug : V → String} {acts : List (Action ℕ (MvOp V))}
    {r s : Copy (MvRegister V)} (hr : ((mvReplicas debug).world acts).HasCopy r)
    (hs : ((mvReplicas debug).world acts).HasCopy s) (known : s.absorbed ⊆ r.absorbed)
    {m : RegisterValue V} (hm : IsTop r.state m) {e : RegisterValue V} (he : e ∈ s.state.values) :
    e.hlc.stamp ≤ m.hlc.stamp := by
  have br := (bounded_stable debug).copies acts hr
  have bs := (bounded_stable debug).copies acts hs
  obtain ⟨x, hx, eq⟩ := bs.known e he
  obtain ⟨k, hk, ev, hev, hv⟩ := mem_writesIn.mp hx
  obtain ⟨u, hu, le⟩ := br.bound x (mem_writesIn.mpr ⟨k, known hk, ev, hev, hv⟩)
  exact eq ▸ le_trans le (Hlc.stamp_le_of_rank ((Hlc.compareTotal_isGE _ _).mp (hm.2 u hu)))

/-- Where `t` is a greatest stamp and some entry has it, the entries that have it are read. -/
theorem undominated_eq_filter {l : List (RegisterValue V)} {t : Hlc}
    (le : ∀ e ∈ l, e.hlc.stamp ≤ t.stamp) (has : ∃ e ∈ l, e.hlc.stamp = t.stamp) :
    undominated above l = l.filter fun e => !t.dominates e.hlc := by
  apply List.filter_congr
  intro x hx
  rw [Bool.not_inj_iff, Bool.eq_iff_iff, List.any_eq_true, Hlc.dominates_iff]
  simp only [above, Hlc.dominates_iff]
  constructor
  · rintro ⟨y, hy, hlt⟩
    exact lt_of_lt_of_le hlt (le y hy)
  · intro hlt
    obtain ⟨e, he, eq⟩ := has
    exact ⟨e, he, eq ▸ hlt⟩

/-- What `s` holds beside entries the top entries of `r` dominate is at most one entry: a top
timestamp of `r` with the resolved value already. -/
def NoRival (r s : MvRegister V) (resolved : V) : Prop :=
  ∀ m, IsTop r m →
    (s.values.filter fun e => !m.hlc.dominates e.hlc) = [] ∨
    (s.values.filter fun e => !m.hlc.dominates e.hlc) = [⟨resolved, m.hlc⟩]

theorem read_eq_singleton (debug : V → String) (r : MvRegister V) (v : V) :
    r.read debug = [v] ↔ (undominated above r.values).map RegisterValue.value = [v] := by
  have perm := r.read_perm debug
  rw [MvRegister.maximal_eq] at perm
  constructor
  · intro h; exact List.perm_singleton.mp (h ▸ perm).symm
  · intro h
    rw [show (fun y x : RegisterValue V => y.hlc.dominates x.hlc) = above from rfl, h] at perm
    exact List.perm_singleton.mp perm

section
variable (debug : V → String) {s : MvRegister V} {v : V} {t : Hlc}

/-- The resolved register takes in nothing, if what `s` holds at the top is the top itself. -/
theorem read_merge_left (h : ∀ e ∈ s.values, t.dominates e.hlc = true ∨ t = e.hlc) :
    ((⟨[⟨v, t⟩]⟩ : MvRegister V).merge s).read debug = [v] := by
  have stay : ∀ l : List (RegisterValue V), (∀ e ∈ l, t.dominates e.hlc = true ∨ t = e.hlc) →
      l.foldl MvRegister.mergeValue [⟨v, t⟩] = [⟨v, t⟩] := by
    intro l hl
    induction l with
    | nil => rfl
    | cons e l ih =>
      have keep : MvRegister.mergeValue [⟨v, t⟩] e = [⟨v, t⟩] := by
        have taken := MvRegister.mergeValue_taken [⟨v, t⟩] e
        generalize MvRegister.mergeValue [⟨v, t⟩] e = now at taken ⊢
        cases taken with
        | appended undominated new =>
          cases hl e List.mem_cons_self with
          | inl below =>
            rw [undominated _ (List.mem_singleton.mpr rfl)] at below
            cases below
          | inr same => exact absurd same (new _ (List.mem_singleton.mpr rfl))
        | refused _ _ _ => rfl
      rw [List.foldl_cons, keep]
      exact ih fun x hx => hl x (List.mem_cons_of_mem e hx)
  rw [read_eq_singleton, MvRegister.merge, stay _ h]
  simp [undominated, above]

/-- A register that takes in the resolved entry reads it alone exactly when it holds nothing
else at the top. -/
theorem read_merge_right (le : ∀ e ∈ s.values, e.hlc.stamp ≤ t.stamp) :
    (s.merge ⟨[⟨v, t⟩]⟩).read debug = [v] ↔
      (s.values.filter fun e => !t.dominates e.hlc) = [] ∨
      (s.values.filter fun e => !t.dominates e.hlc) = [⟨v, t⟩] := by
  have step : (s.merge ⟨[⟨v, t⟩]⟩).values = MvRegister.mergeValue s.values ⟨v, t⟩ := rfl
  rw [read_eq_singleton, step]
  have taken := MvRegister.mergeValue_taken s.values ⟨v, t⟩
  generalize MvRegister.mergeValue s.values ⟨v, t⟩ = now at taken ⊢
  cases taken with
  | appended _ new =>
    -- nothing of `s` has the timestamp of the entry
    have absent : (s.values.filter fun e => !t.dominates e.hlc) ≠ [⟨v, t⟩] := by
      intro h
      have mem : (⟨v, t⟩ : RegisterValue V) ∈ s.values.filter fun e => !t.dominates e.hlc :=
        h ▸ List.mem_singleton.mpr rfl
      exact new _ (List.mem_filter.mp mem).1 rfl
    have le' : ∀ e ∈ s.values ++ [⟨v, t⟩], e.hlc.stamp ≤ t.stamp := by
      intro e he
      cases List.mem_append.mp he with
      | inl old => exact le e old
      | inr new => rw [List.mem_singleton.mp new]
    rw [undominated_eq_filter le' ⟨⟨v, t⟩, by simp, rfl⟩, List.filter_append]
    simp [absent]
  | refused u hu against =>
    cases against with
    | inl dominated => exact absurd ((Hlc.dominates_iff _ _).mp dominated) (not_lt.mpr (le u hu))
    | inr same =>
      -- `s` has an entry of that timestamp, and stays as it is
      have top : u ∈ s.values.filter fun e => !t.dominates e.hlc :=
        List.mem_filter.mpr ⟨hu, by simp [show u.hlc = t from same]⟩
      rw [undominated_eq_filter le ⟨u, hu, congrArg Hlc.stamp same⟩]
      generalize (s.values.filter fun e => !t.dominates e.hlc) = rest at top
      constructor
      · intro h
        obtain ⟨x, rfl, rfl⟩ := List.map_eq_singleton_iff.mp h
        obtain rfl := List.mem_singleton.mp top
        exact .inr (by rw [← show u.hlc = t from same])
      · intro h
        obtain rfl | rfl := h
        · cases top
        · rfl

end

/-- **A resolution is final exactly against registers without a rival entry.** `s` has absorbed
no operation that `r` has not. -/
theorem resolution_final_iff (debug : V → String) (acts : List (Action ℕ (MvOp V)))
    {r s : Copy (MvRegister V)} (hr : ((mvReplicas debug).world acts).HasCopy r)
    (hs : ((mvReplicas debug).world acts).HasCopy s) (known : s.absorbed ⊆ r.absorbed)
    (several : 2 ≤ (r.state.read debug).length) (f : List V → V) :
    (((r.state.resolveWith debug f).merge s.state).read debug = [f (r.state.read debug)] ∧
      (s.state.merge (r.state.resolveWith debug f)).read debug = [f (r.state.read debug)]) ↔
    NoRival r.state s.state (f (r.state.read debug)) := by
  obtain ⟨m, hm, eq⟩ := resolveWith_eq debug several f
  have le (e : RegisterValue V) (he : e ∈ s.state.values) := stamp_le_top hr hs known hm he
  have right := read_merge_right debug (v := f (r.state.read debug)) le
  rw [eq]
  constructor
  · rintro ⟨_, h⟩ n hn
    rw [hn.hlc_eq hm]
    exact right.mp h
  · intro h
    refine ⟨read_merge_left debug ?_, right.mpr (h m hm)⟩
    intro e he
    cases hd : m.hlc.dominates e.hlc
    · have mem : e ∈ s.state.values.filter fun e => !m.hlc.dominates e.hlc :=
        List.mem_filter.mpr ⟨he, by simp [hd]⟩
      cases h m hm with
      | inl none => rw [none] at mem; cases mem
      | inr one =>
        rw [one] at mem
        exact .inr (by rw [List.mem_singleton.mp mem])
    · exact .inl rfl

def joined (values : List String) : String := ",".intercalate values

/-- One kiosk renames a product twice while another renames it once, and hears of both. -/
def renames : List (Action ℕ (MvOp String)) :=
  [.update 0 (.write "old" ⟨1, 0, "k1"⟩), .send 0, .update 0 (.write "alpha" ⟨2, 0, "k1"⟩), .send 0,
    .update 1 (.write "beta" ⟨2, 0, "k2"⟩), .receive 1 1]

/-- The first copy sent holds a write both concurrent ones dominate. -/
theorem resolution_final_iff_renames :
    ∃ r s : Copy (MvRegister String), ((mvReplicas quoted).world renames).HasCopy r ∧
      ((mvReplicas quoted).world renames).HasCopy s ∧ NoRival r.state s.state "alpha,beta" :=
  ⟨_, ⟨⟨[⟨"old", ⟨1, 0, "k1"⟩⟩]⟩, {0}⟩, .inr ⟨1, rfl⟩, .inl (.head _),
    (resolution_final_iff quoted renames (.inr ⟨1, rfl⟩) (.inl (.head _)) (by decide)
      (by decide +kernel) joined).mp (by decide +kernel)⟩

/-- The second copy sent brings one of the two concurrent writes back after their resolution. -/
theorem resolution_not_final :
    ∃ r s : Copy (MvRegister String), ((mvReplicas quoted).world renames).HasCopy r ∧
      ((mvReplicas quoted).world renames).HasCopy s ∧ s.absorbed ⊆ r.absorbed ∧
      r.state.read quoted = ["alpha", "beta"] ∧
      (r.state.resolveWith quoted joined).read quoted = ["alpha,beta"] ∧
      ((r.state.resolveWith quoted joined).merge s.state).read quoted = ["alpha", "alpha,beta"] ∧
      (s.state.merge (r.state.resolveWith quoted joined)).read quoted = ["alpha", "alpha,beta"] :=
  ⟨_, ⟨⟨[⟨"alpha", ⟨2, 0, "k1"⟩⟩]⟩, {1, 0}⟩, .inr ⟨1, rfl⟩, .inl (.tail _ (.head _)),
    by decide +kernel⟩

end SyncDaemon.Crdt
