import Mathlib.Data.Finset.Basic
import Mathlib.Data.Finset.Insert
import Mathlib.Logic.Function.Basic
import AstraSystem.Lib.Runs

/-!
# State-based replication over an unreliable network

Replicas apply operations to their own state, put copies of it on the wire, and
merge copies taken from the wire. A sent copy stays available for ever, so it
can arrive late, repeatedly or never. Every operation is numbered when it is
issued, and every copy carries the numbers of the operations absorbed into it.
No operation of the data type reads these numbers.
-/

namespace Gossip

structure System (ι ω σ : Type*) where
  init : σ
  apply : ι → ω → σ → σ
  merge : σ → σ → σ

/-- An issued operation, with the operations its replica had absorbed by then. -/
structure Event (ι ω : Type*) where
  origin : ι
  op : ω
  past : Finset ℕ

structure Copy (σ : Type*) where
  state : σ
  absorbed : Finset ℕ

structure World (ι ω σ : Type*) where
  issued : List (Event ι ω)
  replica : ι → Copy σ
  sent : List (Copy σ)

inductive Action (ι ω : Type*) where
  | update (i : ι) (o : ω)
  | send (i : ι)
  | receive (i : ι) (n : ℕ)

variable {ι ω σ : Type*}

def System.start (S : System ι ω σ) : World ι ω σ := ⟨[], fun _ => ⟨S.init, ∅⟩, []⟩

def System.issue (S : System ι ω σ) (i : ι) (o : ω) (n : ℕ) (c : Copy σ) : Copy σ :=
  ⟨S.apply i o c.state, insert n c.absorbed⟩

def System.join (S : System ι ω σ) (c d : Copy σ) : Copy σ :=
  ⟨S.merge c.state d.state, c.absorbed ∪ d.absorbed⟩

@[simp] theorem System.issue_absorbed (S : System ι ω σ) (i : ι) (o : ω) (n : ℕ) (c : Copy σ) :
    (S.issue i o n c).absorbed = insert n c.absorbed := rfl

@[simp] theorem System.join_absorbed (S : System ι ω σ) (c d : Copy σ) :
    (S.join c d).absorbed = c.absorbed ∪ d.absorbed := rfl

def System.step [DecidableEq ι] (S : System ι ω σ) (w : World ι ω σ) : Action ι ω → World ι ω σ
  | .update i o =>
    { w with
      issued := w.issued ++ [⟨i, o, (w.replica i).absorbed⟩]
      replica := Function.update w.replica i (S.issue i o w.issued.length (w.replica i)) }
  | .send i => { w with sent := w.sent ++ [w.replica i] }
  | .receive i n =>
    match w.sent[n]? with
    | some c => { w with replica := Function.update w.replica i (S.join (w.replica i) c) }
    | none => w

def System.world [DecidableEq ι] (S : System ι ω σ) (acts : List (Action ι ω)) : World ι ω σ :=
  Runs.run S.step S.start acts

/-- The states that exist in a world: at a replica or on the wire. -/
def World.HasCopy (w : World ι ω σ) (c : Copy σ) : Prop := c ∈ w.sent ∨ ∃ i, c = w.replica i

/-- The events with numbers in `A`, in the order they were issued. -/
def select (L : List (Event ι ω)) (A : Finset ℕ) : List (Event ι ω) :=
  (L.zipIdx.filter (fun p => p.2 ∈ A)).map Prod.fst

theorem mem_select {L : List (Event ι ω)} {A : Finset ℕ} {e : Event ι ω} :
    e ∈ select L A ↔ ∃ k ∈ A, L[k]? = some e := by
  simp only [select, List.mem_map, List.mem_filter, decide_eq_true_eq, Prod.exists,
    List.mk_mem_zipIdx_iff_getElem?, exists_and_right, exists_eq_right]
  constructor
  · rintro ⟨k, h, hk⟩
    exact ⟨k, hk, h⟩
  · rintro ⟨k, hk, h⟩
    exact ⟨k, h, hk⟩

theorem select_sublist (L : List (Event ι ω)) (A : Finset ℕ) : (select L A).Sublist L := by
  have h := (List.filter_sublist (p := fun p : Event ι ω × ℕ => p.2 ∈ A)
    (l := L.zipIdx)).map Prod.fst
  simpa only [select, List.zipIdx_map_fst] using h

/-- Among the events that `q` picks, a smaller selection is a sublist of a larger one. -/
theorem select_sublist_select {L : List (Event ι ω)} {A B : Finset ℕ} {q : Event ι ω → Bool}
    (h : ∀ k e, L[k]? = some e → q e = true → k ∈ A → k ∈ B) :
    ((select L A).filter q).Sublist ((select L B).filter q) := by
  have both : L.zipIdx.filter (fun p => q p.1 && decide (p.2 ∈ A)) =
      L.zipIdx.filter (fun p => (q p.1 && decide (p.2 ∈ B)) && decide (p.2 ∈ A)) := by
    apply List.filter_congr
    rintro ⟨e, k⟩ hp
    have hB := h k e (List.mk_mem_zipIdx_iff_getElem?.mp hp)
    cases hq : q e <;> by_cases hA : k ∈ A <;> simp_all
  simp only [select, List.filter_map, List.filter_filter]
  apply List.Sublist.map
  simp only [Function.comp_apply]
  rw [both]
  apply List.monotone_filter_right
  intro p hp
  exact (Bool.and_eq_true _ _ ▸ hp).1

/-- Selecting everything changes nothing. -/
theorem select_all {L : List (Event ι ω)} {A : Finset ℕ} (h : ∀ k < L.length, k ∈ A) :
    select L A = L := by
  have keep : L.zipIdx.filter (fun p => p.2 ∈ A) = L.zipIdx := by
    apply List.filter_eq_self.mpr
    intro p hp
    have hk := List.mk_mem_zipIdx_iff_getElem?.mp hp
    exact decide_eq_true (h p.2 (List.getElem?_eq_some_iff.mp hk).1)
  rw [select, keep, List.zipIdx_map_fst]

theorem select_append {L M : List (Event ι ω)} {A : Finset ℕ} (h : ∀ k ∈ A, k < L.length) :
    select (L ++ M) A = select L A := by
  have none : (M.zipIdx L.length).filter (fun p => p.2 ∈ A) = [] := by
    apply List.filter_eq_nil_iff.mpr
    rintro ⟨e, k⟩ hp
    have hk := (List.mem_zipIdx hp).1
    simp only [decide_eq_true_eq]
    intro hA
    have := h k hA
    omega
  simp only [select, List.zipIdx_append, List.filter_append, Nat.zero_add, none, List.append_nil]

/-- The event just issued comes last. -/
theorem select_issue (L : List (Event ι ω)) (A : Finset ℕ) (e : Event ι ω) :
    select (L ++ [e]) (insert L.length A) = select L A ++ [e] := by
  have old : L.zipIdx.filter (fun p => p.2 ∈ insert L.length A) =
      L.zipIdx.filter (fun p => p.2 ∈ A) := by
    apply List.filter_congr
    rintro ⟨x, k⟩ hp
    have hk := (List.mem_zipIdx hp).2.1
    simp only [Finset.mem_insert, decide_eq_decide, or_iff_right_iff_imp]
    omega
  simp only [select, List.zipIdx_append, List.filter_append, List.map_append, Nat.zero_add, old,
    List.zipIdx_singleton, List.filter_cons, Finset.mem_insert_self, decide_true, ↓reduceIte,
    List.filter_nil, List.map_cons, List.map_nil]

/-! ## What every copy knows -/

/-- A copy has absorbed issued operations only, and with an operation all earlier ones of the
same replica. -/
structure Sound (L : List (Event ι ω)) (A : Finset ℕ) : Prop where
  issued : ∀ k ∈ A, k < L.length
  closed : ∀ k ∈ A, ∀ j e f, j < k → L[k]? = some e → L[j]? = some f → f.origin = e.origin → j ∈ A

theorem Sound.empty : Sound ([] : List (Event ι ω)) ∅ := ⟨by simp, by simp⟩

theorem Sound.grow {L : List (Event ι ω)} {A : Finset ℕ} (h : Sound L A) (e : Event ι ω) :
    Sound (L ++ [e]) A := by
  constructor
  · intro k hk
    have := h.issued k hk
    simp only [List.length_append, List.length_singleton]
    omega
  · intro k hk j x y hj hx hy ho
    have hl := h.issued k hk
    rw [List.getElem?_append_left hl] at hx
    rw [List.getElem?_append_left (by omega)] at hy
    exact h.closed k hk j x y hj hx hy ho

theorem Sound.union {L : List (Event ι ω)} {A B : Finset ℕ} (ha : Sound L A) (hb : Sound L B) :
    Sound L (A ∪ B) := by
  constructor
  · intro k hk
    exact (Finset.mem_union.mp hk).elim (ha.issued k) (hb.issued k)
  · intro k hk j x y hj hx hy ho
    cases Finset.mem_union.mp hk with
    | inl hA => exact Finset.mem_union_left _ (ha.closed k hA j x y hj hx hy ho)
    | inr hB => exact Finset.mem_union_right _ (hb.closed k hB j x y hj hx hy ho)

/-- Of one replica's operations, one of two copies has absorbed all that the other has. -/
theorem Sound.compare {L : List (Event ι ω)} {A B : Finset ℕ} (ha : Sound L A) (hb : Sound L B)
    (i : ι) :
    (∀ k e, L[k]? = some e → e.origin = i → k ∈ A → k ∈ B) ∨
    (∀ k e, L[k]? = some e → e.origin = i → k ∈ B → k ∈ A) := by
  by_cases h : ∀ k e, L[k]? = some e → e.origin = i → k ∈ A → k ∈ B
  · exact .inl h
  · push Not at h
    obtain ⟨k, e, hk, he, hA, hB⟩ := h
    right
    intro j f hj hf hjB
    by_cases hjk : j < k
    · exact ha.closed k hA j e f hjk hk hj (hf.trans he.symm)
    · by_cases heq : j = k
      · exact heq ▸ hA
      · have hkj : k < j := by omega
        exact absurd (hb.closed j hjB k f e hkj hj hk (he.trans hf.symm)) hB

/-- Every copy is sound, and a replica has absorbed all of its own operations. -/
structure World.Sound (w : World ι ω σ) : Prop where
  copies : ∀ c, w.HasCopy c → Gossip.Sound w.issued c.absorbed
  own : ∀ k e, w.issued[k]? = some e → k ∈ (w.replica e.origin).absorbed

/-! ## The rule for copies -/

/-- What has to be shown of `I` for every copy in every run to satisfy it. -/
structure Stable (S : System ι ω σ) (I : List (Event ι ω) → Copy σ → Prop) : Prop where
  start : I [] ⟨S.init, ∅⟩
  grow : ∀ L c e, Gossip.Sound L c.absorbed → Gossip.Sound L e.past → I L c → I (L ++ [e]) c
  issue : ∀ L c i o, Gossip.Sound L c.absorbed → I L c →
    I (L ++ [⟨i, o, c.absorbed⟩]) (S.issue i o L.length c)
  join : ∀ L c d, Gossip.Sound L c.absorbed → Gossip.Sound L d.absorbed → I L c → I L d →
    I L (S.join c d)

theorem sound_issue {w : World ι ω σ} (h : w.Sound) (i : ι) (o : ω) :
    Sound (w.issued ++ [⟨i, o, (w.replica i).absorbed⟩])
      (insert w.issued.length (w.replica i).absorbed) := by
  have old := (h.copies _ (.inr ⟨i, rfl⟩)).grow ⟨i, o, (w.replica i).absorbed⟩
  constructor
  · intro k hk
    obtain rfl | hk := Finset.mem_insert.mp hk
    · simp
    · exact old.issued k hk
  · intro k hk j x y hj hx hy ho
    apply Finset.mem_insert_of_mem
    obtain rfl | hk := Finset.mem_insert.mp hk
    · rw [List.getElem?_concat_length] at hx
      rw [List.getElem?_append_left hj] at hy
      cases hx
      have mine := h.own j y hy
      rwa [ho] at mine
    · exact old.closed k hk j x y hj hx hy ho

section
variable [DecidableEq ι] {S : System ι ω σ}

theorem step_sound {w : World ι ω σ} (h : w.Sound) (a : Action ι ω) : (S.step w a).Sound := by
  cases a with
  | update i o =>
    have new := sound_issue h i o
    constructor
    · intro c hc
      cases hc with
      | inl onWire => exact (h.copies c (.inl onWire)).grow _
      | inr held =>
        obtain ⟨j, rfl⟩ := held
        by_cases hj : j = i
        · subst hj
          simpa only [System.step, Function.update_self, System.issue_absorbed] using new
        · simpa only [System.step, Function.update_of_ne hj] using
            (h.copies _ (.inr ⟨j, rfl⟩)).grow _
    · intro k e hk
      simp only [System.step] at hk ⊢
      by_cases hl : k < w.issued.length
      · rw [List.getElem?_append_left hl] at hk
        have mine := h.own k e hk
        by_cases hj : e.origin = i
        · simpa only [hj, Function.update_self, System.issue_absorbed] using
            Finset.mem_insert_of_mem (hj ▸ mine)
        · simpa only [Function.update_of_ne hj] using mine
      · have hk' := (List.getElem?_eq_some_iff.mp hk).1
        simp only [List.length_append, List.length_singleton] at hk'
        obtain rfl : k = w.issued.length := by omega
        rw [List.getElem?_concat_length] at hk
        cases hk
        simp only [Function.update_self, System.issue_absorbed, Finset.mem_insert_self]
  | send i =>
    refine ⟨?_, h.own⟩
    intro c hc
    cases hc with
    | inl onWire =>
      cases List.mem_append.mp onWire with
      | inl earlier => exact h.copies c (.inl earlier)
      | inr now => exact h.copies c (.inr ⟨i, List.mem_singleton.mp now⟩)
    | inr held => exact h.copies c (.inr held)
  | receive i n =>
    simp only [System.step]
    split
    · rename_i d hd
      have hd' := h.copies d (.inl (List.mem_of_getElem? hd))
      constructor
      · intro c hc
        cases hc with
        | inl onWire => exact h.copies c (.inl onWire)
        | inr held =>
          obtain ⟨j, rfl⟩ := held
          by_cases hj : j = i
          · subst hj
            simpa only [Function.update_self, System.join_absorbed] using
              (h.copies _ (.inr ⟨j, rfl⟩)).union hd'
          · simpa only [Function.update_of_ne hj] using h.copies _ (.inr ⟨j, rfl⟩)
      · intro k e hk
        have mine := h.own k e hk
        by_cases hj : e.origin = i
        · simpa only [hj, Function.update_self, System.join_absorbed] using
            Finset.mem_union_left _ (hj ▸ mine)
        · simpa only [Function.update_of_ne hj] using mine
    · exact h

theorem world_sound (S : System ι ω σ) (acts : List (Action ι ω)) : (S.world acts).Sound := by
  have start : S.start.Sound := by
    constructor
    · intro c hc
      cases hc with
      | inl onWire => cases onWire
      | inr held =>
        obtain ⟨i, rfl⟩ := held
        exact Sound.empty
    · intro k e hk
      cases hk
  exact Runs.run_inv (I := World.Sound) (fun _ a h => step_sound h a) start acts

theorem step_copies {I : List (Event ι ω) → Copy σ → Prop} (hI : Stable S I) {w : World ι ω σ}
    (hw : w.Sound) (h : ∀ c, w.HasCopy c → I w.issued c) (a : Action ι ω) :
    ∀ c, (S.step w a).HasCopy c → I (S.step w a).issued c := by
  cases a with
  | update i o =>
    have past := hw.copies _ (.inr ⟨i, rfl⟩)
    intro c hc
    cases hc with
    | inl onWire => exact hI.grow _ c _ (hw.copies c (.inl onWire)) past (h c (.inl onWire))
    | inr held =>
      obtain ⟨j, rfl⟩ := held
      have hj := h _ (.inr ⟨j, rfl⟩)
      by_cases hji : j = i
      · subst hji
        simpa only [System.step, Function.update_self] using
          hI.issue _ _ j o (hw.copies _ (.inr ⟨j, rfl⟩)) hj
      · simpa only [System.step, Function.update_of_ne hji] using
          hI.grow _ _ _ (hw.copies _ (.inr ⟨j, rfl⟩)) past hj
  | send i =>
    intro c hc
    cases hc with
    | inl onWire =>
      cases List.mem_append.mp onWire with
      | inl earlier => exact h c (.inl earlier)
      | inr now => exact h c (.inr ⟨i, List.mem_singleton.mp now⟩)
    | inr held => exact h c (.inr held)
  | receive i n =>
    simp only [System.step]
    split
    · rename_i d hd
      have hd' := List.mem_of_getElem? hd
      intro c hc
      cases hc with
      | inl onWire => exact h c (.inl onWire)
      | inr held =>
        obtain ⟨j, rfl⟩ := held
        by_cases hji : j = i
        · subst hji
          simpa only [Function.update_self] using
            hI.join _ _ d (hw.copies _ (.inr ⟨j, rfl⟩)) (hw.copies d (.inl hd'))
              (h _ (.inr ⟨j, rfl⟩)) (h d (.inl hd'))
        · simpa only [Function.update_of_ne hji] using h _ (.inr ⟨j, rfl⟩)
    · exact h

/-- **Every copy in every run satisfies a stable property.** -/
theorem Stable.copies {I : List (Event ι ω) → Copy σ → Prop} (hI : Stable S I)
    (acts : List (Action ι ω)) {c : Copy σ} (hc : (S.world acts).HasCopy c) :
    I (S.world acts).issued c := by
  have start : ∀ c, S.start.HasCopy c → I S.start.issued c := by
    intro c hc
    cases hc with
    | inl onWire => cases onWire
    | inr held =>
      obtain ⟨i, rfl⟩ := held
      exact hI.start
  have run := Runs.run_inv (I := fun w : World ι ω σ => w.Sound ∧ ∀ c, w.HasCopy c → I w.issued c)
    (fun w a h => ⟨step_sound h.1 a, step_copies hI h.1 h.2 a⟩) ⟨world_sound S [], start⟩ acts
  exact run.2 c hc

/-- What copies become when they are merged with one another. -/
inductive Derived (S : System ι ω σ) (w : World ι ω σ) : Copy σ → Prop where
  | copy {c} : w.HasCopy c → Derived S w c
  | join {c d} : Derived S w c → Derived S w d → Derived S w (S.join c d)

theorem Derived.sound {acts : List (Action ι ω)} {c : Copy σ}
    (hc : Derived S (S.world acts) c) : Sound (S.world acts).issued c.absorbed := by
  induction hc with
  | copy h => exact (world_sound S acts).copies _ h
  | join _ _ hc hd => exact hc.union hd

theorem Stable.derived {I : List (Event ι ω) → Copy σ → Prop} (hI : Stable S I)
    {acts : List (Action ι ω)} {c : Copy σ} (hc : Derived S (S.world acts) c) :
    I (S.world acts).issued c := by
  induction hc with
  | copy h => exact hI.copies acts h
  | join hc hd ic id => exact hI.join _ _ _ hc.sound hd.sound ic id

end

end Gossip
