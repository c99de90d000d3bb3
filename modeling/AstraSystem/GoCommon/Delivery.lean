import Mathlib.Data.Fintype.Basic
import AstraSystem.GoCommon.Outbox

/-!
# What the relays deliver

Rows are marked after they were published. They are published once, and in the order of their
transactions, as long as no aggregate is in the hands of two relays and none is given an event that
is stamped before one still unpublished.
-/

namespace Outbox

open Precedence

section
variable {P Rid : Type*}

namespace World

/-- The events that have been published. -/
def published (w : World P Rid) : List UUID := w.log.map (·.entry.eventID)

/-- For the same aggregate, an earlier transaction committed `e`. -/
def Earlier (w : World P Rid) (e f : Entry P) : Prop :=
  e.SameAggregate f ∧ ∃ r ∈ w.rows.rows, ∃ s ∈ w.rows.rows, r.entry = e ∧ s.entry = f ∧ r.txn < s.txn

/-- Nothing is marked unpublished or published out of order; without a failure nothing is published
twice, and what is marked was published once. -/
structure Delivers (w : World P Rid) : Prop where
  acknowledged : ∀ r ∈ w.rows.rows, r.published = true →
    ∃ p ∈ w.log, p.entry.eventID = r.entry.eventID ∧ p.acked = true
  once : w.failed = false → ∀ r ∈ w.rows.rows, w.published.count r.entry.eventID ≤ 1 ∧
    (r.published = true → w.published.count r.entry.eventID = 1)
  ordered : ∀ e f, w.Earlier e f → Precedes e.eventID f.eventID w.published

end World

/-- A transaction stamps its events after all unpublished ones of their aggregates, and no
aggregate of a batch has an event that another relay or a lock keeps from it. -/
def KeepsOrder (w : World P Rid) : Act P Rid → Prop
  | .commit entries => ∀ e ∈ entries, ∀ r ∈ w.rows.rows, r.published = false →
      r.entry.SameAggregate e → r.entry.occurredAtMs < e.occurredAtMs
  | .select r locked ties => w.pending r = [] → ∀ e ∈ queryBatch w.rows locked ties,
      (∀ r', r' ≠ r → ∀ f ∈ w.pending r', ¬ f.SameAggregate e) ∧
      ∀ s ∈ w.rows.rows, s.published = false → locked s.entry.eventID = true → ¬ s.entry.SameAggregate e
  | .publish .. | .mark .. => True

instance decidableSameAggregate (e f : Entry P) : Decidable (e.SameAggregate f) :=
  inferInstanceAs (Decidable (_ ∧ _))

instance decidableKeepsOrder [Fintype Rid] [DecidableEq Rid] (w : World P Rid) :
    DecidablePred (KeepsOrder w)
  | .commit entries => inferInstanceAs (Decidable (∀ e ∈ entries, ∀ r ∈ w.rows.rows,
      r.published = false → r.entry.SameAggregate e → r.entry.occurredAtMs < e.occurredAtMs))
  | .select r locked ties =>
    inferInstanceAs (Decidable (w.pending r = [] → ∀ e ∈ queryBatch w.rows locked ties,
      (∀ r', r' ≠ r → ∀ f ∈ w.pending r', ¬ f.SameAggregate e) ∧
      ∀ s ∈ w.rows.rows, s.published = false → locked s.entry.eventID = true → ¬ s.entry.SameAggregate e))
  | .publish .. | .mark .. => .isTrue trivial

end

/-! ## The rows -/

section
variable {P : Type*} {rows : Rows P} {r s : Row P} {e f : Entry P} {eventID : UUID} {now : Int64}
  {txn : ℕ}

theorem Entry.SameAggregate.symm (h : e.SameAggregate f) : f.SameAggregate e := ⟨h.1.symm, h.2.symm⟩

theorem mem_markPublished (h : r ∈ (markPublished rows eventID now).rows) :
    ∃ old ∈ rows.rows, r.entry = old.entry ∧ r.txn = old.txn ∧
      ((old.entry.eventID = eventID ∧ r.published = true) ∨ (old.entry.eventID ≠ eventID ∧ r = old)) := by
  obtain ⟨old, hold, rfl⟩ := Table.mem_update.mp h
  refine ⟨old, hold, ?_⟩
  split
  · rename_i same
    exact ⟨rfl, rfl, .inl ⟨same, rfl⟩⟩
  · rename_i other
    exact ⟨rfl, rfl, .inr ⟨other, rfl⟩⟩

/-- Every row is still there after a mark. -/
theorem exists_markPublished (rows : Rows P) (eventID : UUID) (now : Int64) {old : Row P}
    (h : old ∈ rows.rows) :
    ∃ r ∈ (markPublished rows eventID now).rows, r.entry = old.entry ∧ r.txn = old.txn ∧
      (old.entry.eventID ≠ eventID → r = old) := by
  refine ⟨_, Table.mem_update.mpr ⟨old, h, rfl⟩, ?_⟩
  split
  · rename_i same
    exact ⟨rfl, rfl, fun other => absurd same other⟩
  · exact ⟨rfl, rfl, fun _ => rfl⟩

theorem mem_insertWithinTx (h : r ∈ (insertWithinTx txn rows e).rows) :
    r ∈ rows.rows ∨
      (r = { entry := e, txn } ∧ ∀ old ∈ rows.rows, old.entry.eventID ≠ e.eventID) := by
  unfold insertWithinTx at h
  split at h
  · exact .inl h
  · rename_i free
    rw [Table.rows_upsert_of_none free] at h
    rcases List.mem_append.mp h with h | h
    · exact .inl h
    · exact .inr ⟨List.mem_singleton.mp h, Table.find?_eq_none.mp free⟩

theorem subset_insertWithinTx (txn : ℕ) (rows : Rows P) (e : Entry P) :
    rows.rows ⊆ (insertWithinTx txn rows e).rows := by
  intro r hr
  unfold insertWithinTx
  split
  · exact hr
  · rename_i free
    rw [Table.rows_upsert_of_none free]
    exact List.mem_append_left _ hr

theorem subset_foldl (txn : ℕ) (rows : Rows P) (entries : List (Entry P)) :
    rows.rows ⊆ (entries.foldl (insertWithinTx txn) rows).rows := by
  induction entries generalizing rows with
  | nil => exact List.Subset.refl _
  | cons e entries ih => exact fun r hr => ih _ (subset_insertWithinTx txn rows e hr)

/-- A transaction adds unpublished rows of its own. -/
theorem mem_foldl {entries : List (Entry P)}
    (h : r ∈ (entries.foldl (insertWithinTx txn) rows).rows) :
    r ∈ rows.rows ∨
      ((∃ e ∈ entries, r = { entry := e, txn }) ∧ ∀ old ∈ rows.rows, old.entry.eventID ≠ r.entry.eventID) := by
  induction entries generalizing rows with
  | nil => exact .inl h
  | cons e entries ih =>
    rcases ih h with h | ⟨⟨f, hf, rfl⟩, free⟩
    · rcases mem_insertWithinTx h with h | ⟨rfl, free⟩
      · exact .inl h
      · exact .inr ⟨⟨e, List.mem_cons_self, rfl⟩, free⟩
    · exact .inr ⟨⟨f, List.mem_cons_of_mem e hf, rfl⟩,
        fun old hold => free old (subset_insertWithinTx txn rows e hold)⟩

/-- The row of an entry. -/
theorem row_unique (hr : r ∈ rows.rows) (hs : s ∈ rows.rows)
    (same : r.entry.eventID = s.entry.eventID) : r = s := rows.unique hr hs same

section
variable {locked : UUID → Bool} {ties : Shuffle (Row P)}

theorem mem_queryBatch (h : e ∈ queryBatch rows locked ties) :
    ∃ r ∈ rows.rows, r.entry = e ∧ r.published = false ∧ locked e.eventID = false := by
  obtain ⟨r, hr, rfl⟩ := List.mem_map.mp h
  have hr := (List.mem_insertionSort _).mp (List.mem_of_mem_take hr)
  obtain ⟨mem, free⟩ := List.mem_filter.mp ((ties.perm _).mem_iff.mp hr)
  simp only [Bool.and_eq_true, Bool.not_eq_true'] at free
  exact ⟨r, mem, rfl, free⟩

theorem nodup_queryBatch (rows : Rows P) (locked : UUID → Bool) (ties : Shuffle (Row P)) :
    ((queryBatch rows locked ties).map Entry.eventID).Nodup := by
  rw [queryBatch, List.map_map]
  have filtered : ((rows.rows.filter fun r => !r.published && !locked r.entry.eventID).map
      (Entry.eventID ∘ Row.entry)).Nodup := rows.nodup.sublist (List.filter_sublist.map _)
  have shuffled := ((ties.perm (rows.rows.filter fun r => !r.published && !locked r.entry.eventID)).map
    (Entry.eventID ∘ Row.entry)).nodup_iff.mpr filtered
  have sorted := ((List.perm_insertionSort (fun r s : Row P => r.entry.occurredAtMs ≤
    s.entry.occurredAtMs) (ties.apply _)).map (Entry.eventID ∘ Row.entry)).nodup_iff.mpr shuffled
  exact sorted.sublist ((List.take_sublist _ _).map _)

/-- The batch is ready where what must come first is stamped strictly earlier, and not locked. -/
theorem ready_queryBatch {before : Entry P → Entry P → Prop} {done : Entry P → Prop}
    (h : ∀ f ∈ queryBatch rows locked ties, ∀ e, before e f → done e ∨
      ∃ r ∈ rows.rows, r.entry = e ∧ r.published = false ∧ locked e.eventID = false ∧
        e.occurredAtMs < f.occurredAtMs) :
    Ready before done (queryBatch rows locked ties) := by
  let le (r s : Row P) : Prop := r.entry.occurredAtMs ≤ s.entry.occurredAtMs
  have sorted : (((ties.apply (rows.rows.filter fun r => !r.published &&
      !locked r.entry.eventID)).insertionSort le).map Row.entry).Pairwise
        fun e f => e.occurredAtMs ≤ f.occurredAtMs := by
    have total : Std.Total le := ⟨fun r s => Int64.le_total r.entry.occurredAtMs s.entry.occurredAtMs⟩
    have trans : IsTrans (Row P) le := ⟨fun _ _ _ => Int64.le_trans⟩
    exact List.pairwise_map.mpr (List.pairwise_insertionSort le _)
  rw [queryBatch, List.map_take] at h ⊢
  refine ready_take (fun e => Int64.le_refl e.occurredAtMs) sorted fun f hf e he => ?_
  rcases h f hf e he with he | ⟨r, hr, rfl, unpublished, free, less⟩
  · exact .inl he
  · refine .inr ⟨List.mem_map_of_mem ((List.mem_insertionSort _).mpr ?_), Int64.not_le.mpr less⟩
    refine (ties.perm _).mem_iff.mpr (List.mem_filter.mpr ⟨hr, ?_⟩)
    simp [unpublished, free]

end

end

/-! ## One relay after the other -/

section
variable {P Rid : Type*}

namespace World

/-- A relay has published the event and is about to mark it. -/
def Holds (w : World P Rid) (eventID : UUID) : Prop :=
  ∃ r e rest, w.relays r = ⟨e :: rest, true⟩ ∧ e.eventID = eventID

/-- What the batches hold is unpublished and of aggregates of their own, and each event comes after
what it has to. -/
structure Sound (w : World P Rid) : Prop where
  bound : ∀ r ∈ w.rows.rows, r.txn < w.txns
  logged : ∀ p ∈ w.log, ∃ r ∈ w.rows.rows, r.entry = p.entry
  stored : ∀ r, ∀ e ∈ w.pending r, ∃ s ∈ w.rows.rows, s.entry = e ∧ s.published = false
  nodup : ∀ r, ((w.pending r).map Entry.eventID).Nodup
  apart : ∀ r r', r' ≠ r → ∀ e ∈ w.pending r, ∀ f ∈ w.pending r', ¬ f.SameAggregate e
  acked : ∀ r e rest, w.relays r = ⟨e :: rest, true⟩ →
    ∃ p ∈ w.log, p.entry.eventID = e.eventID ∧ p.acked = true
  acknowledged : ∀ r ∈ w.rows.rows, r.published = true →
    ∃ p ∈ w.log, p.entry.eventID = r.entry.eventID ∧ p.acked = true
  later : ∀ r ∈ w.rows.rows, ∀ s ∈ w.rows.rows, r.published = false → s.published = false →
    r.entry.SameAggregate s.entry → r.txn < s.txn → r.entry.occurredAtMs < s.entry.occurredAtMs
  ready : ∀ r, Ready w.Earlier (fun e => e.eventID ∈ w.published) (w.pending r)
  ordered : ∀ e f, w.Earlier e f → Precedes e.eventID f.eventID w.published

/-- Without a failure, what is marked or about to be was published once, and nothing else was. -/
def Once (w : World P Rid) : Prop :=
  w.failed = false → ∀ s ∈ w.rows.rows,
    ((s.published = true ∨ w.Holds s.entry.eventID) → w.published.count s.entry.eventID = 1) ∧
      (s.published = false → ¬ w.Holds s.entry.eventID → w.published.count s.entry.eventID = 0)

end World

variable {w : World P Rid} {r : Rid} {e f : Entry P}

theorem mem_published {p : Publication P Rid} (h : p ∈ w.log) : p.entry.eventID ∈ w.published :=
  List.mem_map_of_mem h

/-- What has been published has a row. -/
theorem exists_of_mem_published (h : w.Sound) {eventID : UUID} (there : eventID ∈ w.published) :
    ∃ s ∈ w.rows.rows, s.entry.eventID = eventID := by
  obtain ⟨p, hp, rfl⟩ := List.mem_map.mp there
  obtain ⟨s, hs, same⟩ := h.logged p hp
  exact ⟨s, hs, by rw [same]⟩

theorem delivers_of_sound (h : w.Sound) (once : w.Once) : w.Delivers where
  acknowledged := h.acknowledged
  once fine s hs := by
    obtain ⟨one, none⟩ := once fine s hs
    refine ⟨?_, fun published => one (.inl published)⟩
    by_cases held : s.published = true ∨ w.Holds s.entry.eventID
    · exact le_of_eq (one held)
    · rw [none (Bool.eq_false_iff.mpr fun published => held (.inl published)) fun holds => held (.inr holds)]
      exact Nat.zero_le 1
  ordered := h.ordered

theorem sound_commit (h : w.Sound) {entries : List (Entry P)} (keeps : KeepsOrder w (Act.commit entries)) :
    World.Sound { w with
      rows := entries.foldl (insertWithinTx w.txns) w.rows, txns := w.txns + 1 } := by
  have kept := subset_foldl w.txns w.rows entries
  -- A row that is new has the number of this transaction, and no event that was published or batched.
  have earlier {e f : Entry P} {s : Row P} (hs : s ∈ w.rows.rows) (own : s.entry.eventID = f.eventID)
      (before : World.Earlier { w with
        rows := entries.foldl (insertWithinTx w.txns) w.rows, txns := w.txns + 1 } e f) :
      w.Earlier e f := by
    obtain ⟨same, r, hr, t, ht, re, tf, less⟩ := before
    obtain rfl : s = t := row_unique (kept hs) ht (by rw [own, tf])
    rcases mem_foldl hr with hr | ⟨⟨_, -, rfl⟩, -⟩
    · exact ⟨same, r, hr, s, hs, re, tf, less⟩
    · exact absurd (h.bound s hs) (Nat.lt_asymm less)
  refine ⟨?_, ?_, ?_, h.nodup, h.apart, h.acked, ?_, ?_, ?_, ?_⟩
  · intro r hr
    rcases mem_foldl hr with hr | ⟨⟨_, -, rfl⟩, -⟩
    · exact Nat.lt_succ_of_lt (h.bound r hr)
    · exact Nat.lt_succ_self w.txns
  · intro p hp
    obtain ⟨r, hr, same⟩ := h.logged p hp
    exact ⟨r, kept hr, same⟩
  · intro r e he
    obtain ⟨s, hs, same⟩ := h.stored r e he
    exact ⟨s, kept hs, same⟩
  · intro r hr published
    rcases mem_foldl hr with hr | ⟨⟨_, -, rfl⟩, -⟩
    · exact h.acknowledged r hr published
    · cases published
  · intro r hr s hs unpublished unpublished' same less
    rcases mem_foldl hr with hr | ⟨⟨_, -, rfl⟩, -⟩ <;> rcases mem_foldl hs with hs | ⟨⟨e, he, rfl⟩, -⟩
    · exact h.later r hr s hs unpublished unpublished' same less
    · exact keeps e he r hr unpublished same
    · exact absurd (h.bound s hs) (Nat.lt_asymm less)
    · exact absurd less (Nat.lt_irrefl _)
  · intro r
    refine (h.ready r).mono (fun _ => id) fun e f hf before => ?_
    obtain ⟨s, hs, rfl, -⟩ := h.stored r f hf
    exact earlier hs rfl before
  · intro e f before there
    obtain ⟨s, hs, own⟩ := exists_of_mem_published h there
    exact h.ordered e f (earlier hs own before) there

theorem sound_publication (h : w.Sound) {p : Publication P Rid}
    (stored : ∃ s ∈ w.rows.rows, s.entry = p.entry)
    (done : ∀ e, w.Earlier e p.entry → e.eventID ∈ w.published) : (w.publication p).Sound := by
  have published : (w.publication p).published = w.published ++ [p.entry.eventID] := by
    simp [World.published, World.publication]
  have more {p' : Publication P Rid} (hp : p' ∈ w.log) : p' ∈ (w.publication p).log :=
    List.mem_append_left _ hp
  refine ⟨h.bound, ?_, h.stored, h.nodup, h.apart, ?_, ?_, h.later, ?_, ?_⟩
  · intro p' hp
    rcases List.mem_append.mp hp with hp | hp
    · exact h.logged p' hp
    · exact List.mem_singleton.mp hp ▸ stored
  · intro r e rest held
    obtain ⟨p', hp, rest⟩ := h.acked r e rest held
    exact ⟨p', more hp, rest⟩
  · intro r hr marked
    obtain ⟨p', hp, rest⟩ := h.acknowledged r hr marked
    exact ⟨p', more hp, rest⟩
  · intro r
    refine (h.ready r).mono (fun e he => ?_) fun _ _ _ => id
    rw [published]
    exact List.mem_append_left _ he
  · intro e f before
    rw [published, precedes_concat]
    refine ⟨h.ordered e f before, fun same => ?_⟩
    obtain ⟨s, hs, own⟩ := stored
    obtain ⟨agg, r, hr, t, ht, re, tf, less⟩ := before
    obtain rfl : s = t := row_unique hs ht (by rw [own, tf, same])
    exact done e ⟨by rwa [← own, tf], r, hr, s, hs, re, own, less⟩

section
variable [DecidableEq Rid]

theorem relays_goto (w : World P Rid) (r : Rid) (b : Batch P) : (w.goto r b).relays r = b := if_pos rfl

theorem relays_goto_of_ne (w : World P Rid) {r r' : Rid} (b : Batch P) (other : r' ≠ r) :
    (w.goto r b).relays r' = w.relays r' := if_neg other

/-- A relay goes on with a batch. -/
theorem sound_goto (h : w.Sound) {b : Batch P}
    (stored : ∀ e ∈ b.pending, ∃ s ∈ w.rows.rows, s.entry = e ∧ s.published = false)
    (nodup : (b.pending.map Entry.eventID).Nodup)
    (apart : ∀ r', r' ≠ r → ∀ e ∈ b.pending, ∀ f ∈ w.pending r', ¬ f.SameAggregate e)
    (acked : ∀ e rest, b = ⟨e :: rest, true⟩ → ∃ p ∈ w.log, p.entry.eventID = e.eventID ∧ p.acked = true)
    (ready : Ready w.Earlier (fun e => e.eventID ∈ w.published) b.pending) : (w.goto r b).Sound := by
  have own : (w.goto r b).pending r = b.pending := by rw [World.pending, relays_goto]
  have others {r' : Rid} (other : r' ≠ r) : (w.goto r b).pending r' = w.pending r' := by
    rw [World.pending, relays_goto_of_ne w b other, World.pending]
  refine ⟨h.bound, h.logged, ?_, ?_, ?_, ?_, h.acknowledged, h.later, ?_, h.ordered⟩
  · intro r' e he
    by_cases same : r' = r
    · rw [same, own] at he
      exact stored e he
    · rw [others same] at he
      exact h.stored r' e he
  · intro r'
    by_cases same : r' = r
    · rwa [same, own]
    · rw [others same]
      exact h.nodup r'
  · intro r₁ r₂ ne e he f hf
    by_cases same₁ : r₁ = r
    · rw [same₁, own] at he
      rw [others (same₁ ▸ ne)] at hf
      exact apart r₂ (same₁ ▸ ne) e he f hf
    · rw [others same₁] at he
      by_cases same₂ : r₂ = r
      · rw [same₂, own] at hf
        exact fun agg => apart r₁ same₁ f hf e he agg.symm
      · rw [others same₂] at hf
        exact h.apart r₁ r₂ ne e he f hf
  · intro r' e rest held
    by_cases same : r' = r
    · rw [same, relays_goto] at held
      exact acked e rest held
    · rw [relays_goto_of_ne w b same] at held
      exact h.acked r' e rest held
  · intro r'
    by_cases same : r' = r
    · rw [same, own]
      exact ready
    · rw [others same]
      exact h.ready r'

/-- A relay drops its batch. -/
theorem sound_fail (h : w.Sound) (r : Rid) : (w.fail r).Sound := by
  have flagged : World.Sound { w with failed := true } :=
    ⟨h.bound, h.logged, h.stored, h.nodup, h.apart, h.acked, h.acknowledged, h.later, h.ready, h.ordered⟩
  exact sound_goto flagged (fun _ none => absurd none List.not_mem_nil) .nil
    (fun _ _ _ none => absurd none List.not_mem_nil) (fun _ _ eq => by cases eq) trivial

end

theorem sound_mark (h : w.Sound) {e : Entry P} (now : Int64)
    (acked : ∃ p ∈ w.log, p.entry.eventID = e.eventID ∧ p.acked = true)
    (free : ∀ r, ∀ f ∈ w.pending r, f.eventID ≠ e.eventID) : (w.mark e now).Sound := by
  have earlier {f g : Entry P} (before : (w.mark e now).Earlier f g) : w.Earlier f g := by
    obtain ⟨agg, r, hr, s, hs, rfl, rfl, less⟩ := before
    obtain ⟨r', hr', re, rtxn, -⟩ := mem_markPublished hr
    obtain ⟨s', hs', se, stxn, -⟩ := mem_markPublished hs
    exact ⟨agg, r', hr', s', hs', re.symm, se.symm, by rwa [← rtxn, ← stxn]⟩
  refine ⟨?_, ?_, ?_, h.nodup, h.apart, h.acked, ?_, ?_, ?_, ?_⟩
  · intro r hr
    obtain ⟨old, hold, -, txn, -⟩ := mem_markPublished hr
    rw [txn]
    exact h.bound old hold
  · intro p hp
    obtain ⟨r, hr, same⟩ := h.logged p hp
    obtain ⟨r', hr', entry, -⟩ := exists_markPublished w.rows e.eventID now hr
    exact ⟨r', hr', entry.trans same⟩
  · intro r f hf
    obtain ⟨s, hs, rfl, unpublished⟩ := h.stored r f hf
    obtain ⟨s', hs', entry, -, same⟩ := exists_markPublished w.rows e.eventID now hs
    exact ⟨s', hs', entry, by rw [same (free r _ hf), unpublished]⟩
  · intro r hr published
    obtain ⟨old, hold, entry, -, ⟨own, -⟩ | ⟨-, rfl⟩⟩ := mem_markPublished hr
    · obtain ⟨p, hp, same, told⟩ := acked
      exact ⟨p, hp, by rw [same, entry, own], told⟩
    · exact h.acknowledged r hold published
  · intro r hr s hs unpublished unpublished'
    obtain ⟨r', hr', -, -, ⟨-, published⟩ | ⟨-, rfl⟩⟩ := mem_markPublished hr
    · rw [published] at unpublished
      cases unpublished
    · obtain ⟨s', hs', -, -, ⟨-, published⟩ | ⟨-, rfl⟩⟩ := mem_markPublished hs
      · rw [published] at unpublished'
        cases unpublished'
      · exact h.later r hr' s hs' unpublished unpublished'
  · exact fun r => (h.ready r).mono (fun _ => id) fun _ _ _ => earlier
  · exact fun f g before => h.ordered f g (earlier before)

end

/-! ## Runs -/

section
variable {P Rid : Type*} [DecidableEq Rid] {bus : Bus Rid} {w : World P Rid} {r : Rid} {e f : Entry P}
  {rest : List (Entry P)}

theorem holds_goto {b : Batch P} {eventID : UUID} :
    (w.goto r b).Holds eventID ↔ (∃ e rest, b = ⟨e :: rest, true⟩ ∧ e.eventID = eventID) ∨
      ∃ r', r' ≠ r ∧ ∃ e rest, w.relays r' = ⟨e :: rest, true⟩ ∧ e.eventID = eventID := by
  constructor
  · rintro ⟨r', e, rest, held, own⟩
    by_cases same : r' = r
    · rw [same, relays_goto] at held
      exact .inl ⟨e, rest, held, own⟩
    · rw [relays_goto_of_ne w b same] at held
      exact .inr ⟨r', same, e, rest, held, own⟩
  · rintro (⟨e, rest, held, own⟩ | ⟨r', other, e, rest, held, own⟩)
    · exact ⟨r, e, rest, by rw [relays_goto, held], own⟩
    · exact ⟨r', e, rest, by rw [relays_goto_of_ne w b other, held], own⟩

omit [DecidableEq Rid] in
theorem pending_of_relays {b : Batch P} (h : w.relays r = b) : w.pending r = b.pending := by
  rw [World.pending, h]

omit [DecidableEq Rid] in
/-- No other relay has the head of a batch. -/
theorem not_held_elsewhere (h : w.Sound) {acked : Bool} (head : w.relays r = ⟨e :: rest, acked⟩) :
    ¬ ∃ r', r' ≠ r ∧ ∃ f rest', w.relays r' = ⟨f :: rest', true⟩ ∧ f.eventID = e.eventID := by
  rintro ⟨r', other, f, rest', held, same⟩
  have he : e ∈ w.pending r := by rw [pending_of_relays head]; exact List.mem_cons_self
  have hf : f ∈ w.pending r' := by rw [pending_of_relays held]; exact List.mem_cons_self
  obtain ⟨s, hs, rfl, -⟩ := h.stored r e he
  obtain ⟨t, ht, rfl, -⟩ := h.stored r' f hf
  obtain rfl := row_unique ht hs same
  exact h.apart r r' other _ he _ hf ⟨rfl, rfl⟩

theorem once_fail (w : World P Rid) (r : Rid) : (w.fail r).Once := fun fine => nomatch fine

omit [DecidableEq Rid] in
theorem once_commit (h : w.Sound) (once : w.Once) (entries : List (Entry P)) :
    World.Once { w with
      rows := entries.foldl (insertWithinTx w.txns) w.rows, txns := w.txns + 1 } := by
  intro fine s hs
  rcases mem_foldl hs with hs | ⟨⟨e, -, rfl⟩, free⟩
  · exact once fine s hs
  · have new : e.eventID ∉ w.published := by
      intro there
      obtain ⟨old, hold, same⟩ := exists_of_mem_published h there
      exact free old hold same
    refine ⟨?_, fun _ _ => List.count_eq_zero_of_not_mem new⟩
    rintro (published | ⟨r, f, rest, held, same⟩)
    · cases published
    · obtain ⟨p, hp, own, -⟩ := h.acked r f rest held
      exact absurd (same ▸ own ▸ mem_published hp) new

theorem once_select (once : w.Once) (idle : w.pending r = []) (batch : List (Entry P)) :
    (w.goto r ⟨batch, false⟩).Once := by
  intro fine s hs
  have same : (w.goto r ⟨batch, false⟩).Holds s.entry.eventID ↔ w.Holds s.entry.eventID := by
    rw [holds_goto]
    constructor
    · rintro (⟨e, rest, held, -⟩ | ⟨r', -, held⟩)
      · cases held
      · exact ⟨r', held⟩
    · rintro ⟨r', e, rest, held, own⟩
      refine .inr ⟨r', ?_, e, rest, held, own⟩
      rintro rfl
      rw [pending_of_relays held] at idle
      cases idle
  rw [same]
  exact once fine s hs

theorem once_publish (h : w.Sound) (once : w.Once) (head : w.relays r = ⟨e :: rest, false⟩)
    {p : Publication P Rid} (own : p.entry = e) :
    ((w.publication p).goto r ⟨e :: rest, true⟩).Once := by
  intro fine s hs
  have published : ((w.publication p).goto r ⟨e :: rest, true⟩).published =
      w.published ++ [e.eventID] := by
    simp [World.published, World.publication, World.goto, own]
  have elsewhere := not_held_elsewhere h head
  rw [published, List.count_append]
  by_cases same : s.entry.eventID = e.eventID
  · obtain ⟨t, ht, te, unpublished⟩ := h.stored r e (by
      rw [pending_of_relays head]; exact List.mem_cons_self)
    obtain rfl : t = s := row_unique ht hs (by rw [te, same])
    have free : ¬ w.Holds t.entry.eventID := by
      rintro ⟨r', f, rest', held, own⟩
      by_cases mine : r' = r
      · rw [mine, head] at held
        cases held
      · exact elsewhere ⟨r', mine, f, rest', held, own.trans same⟩
    have none := (once fine t hs).2 unpublished free
    rw [none, same, List.count_singleton_self]
    refine ⟨fun _ => rfl, fun _ free => absurd ?_ free⟩
    exact ⟨r, e, rest, relays_goto _ _ _, rfl⟩
  · have count : [e.eventID].count s.entry.eventID = 0 :=
      List.count_eq_zero_of_not_mem (by simpa using same)
    have holds : ((w.publication p).goto r ⟨e :: rest, true⟩).Holds s.entry.eventID ↔
        w.Holds s.entry.eventID := by
      rw [holds_goto]
      constructor
      · rintro (⟨f, rest', eq, own⟩ | ⟨r', -, held⟩)
        · cases eq
          exact absurd own.symm same
        · exact ⟨r', held⟩
      · rintro ⟨r', f, rest', held, own⟩
        refine .inr ⟨r', ?_, f, rest', held, own⟩
        rintro rfl
        rw [head] at held
        cases held
    rw [count, Nat.add_zero, holds]
    exact once fine s hs

theorem once_mark (h : w.Sound) (once : w.Once) (head : w.relays r = ⟨e :: rest, true⟩) (now : Int64) :
    ((w.mark e now).goto r ⟨rest, false⟩).Once := by
  intro fine s hs
  have elsewhere := not_held_elsewhere h head
  obtain ⟨old, hold, entry, -, marked⟩ := mem_markPublished hs
  rw [entry]
  by_cases same : old.entry.eventID = e.eventID
  · have one := (once fine old hold).1 (.inr ⟨r, e, rest, head, same.symm⟩)
    rcases marked with ⟨-, published⟩ | ⟨other, -⟩
    · refine ⟨fun _ => one, fun unpublished => ?_⟩
      rw [published] at unpublished
      cases unpublished
    · exact absurd same other
  · rcases marked with ⟨own, -⟩ | ⟨-, rfl⟩
    · exact absurd own same
    · have holds : ((w.mark e now).goto r ⟨rest, false⟩).Holds s.entry.eventID ↔
          w.Holds s.entry.eventID := by
        rw [holds_goto]
        constructor
        · rintro (⟨f, rest', eq, -⟩ | ⟨r', -, held⟩)
          · cases eq
          · exact ⟨r', held⟩
        · rintro ⟨r', f, rest', held, own⟩
          refine .inr ⟨r', ?_, f, rest', held, own⟩
          rintro rfl
          rw [head] at held
          cases held
          exact same own.symm
      rw [holds]
      exact once fine s hold

theorem delivers_select (sound : w.Sound) (once : w.Once) {locked : UUID → Bool} {ties : Shuffle (Row P)}
    (keeps : KeepsOrder w (.select r locked ties)) :
    (step bus w (.select r locked ties)).Sound ∧ (step bus w (.select r locked ties)).Once := by
  simp only [step]
  split
  · rename_i acked idle
    have idle : w.pending r = [] := pending_of_relays idle
    refine ⟨sound_goto sound ?_ (nodup_queryBatch _ _ _) ?_ (fun _ _ eq => nomatch congrArg Batch.acked eq) ?_,
      once_select once idle _⟩
    · intro e he
      obtain ⟨s, hs, same, unpublished, -⟩ := mem_queryBatch he
      exact ⟨s, hs, same, unpublished⟩
    · exact fun r' other e he => (keeps idle e he).1 r' other
    · -- What must come first is published, or in the batch before it.
      refine ready_queryBatch fun f hf e before => ?_
      obtain ⟨agg, s, hs, t, ht, rfl, rfl, less⟩ := before
      cases published : s.published with
      | true =>
        obtain ⟨p, hp, same, -⟩ := sound.acknowledged s hs published
        exact .inl (same ▸ mem_published hp)
      | false =>
        obtain ⟨t', ht', same, unpublished, -⟩ := mem_queryBatch hf
        obtain rfl := row_unique ht' ht (congrArg Entry.eventID same)
        refine .inr ⟨s, hs, rfl, published, ?_, sound.later s hs t' ht published unpublished agg less⟩
        cases held : locked s.entry.eventID with
        | false => rfl
        | true => exact absurd agg ((keeps idle _ hf).2 s hs published held)
  · exact ⟨sound, once⟩

theorem delivers_publish (sound : w.Sound) (once : w.Once) (r : Rid) (o : Outcome) :
    (step bus w (.publish r o)).Sound ∧ (step bus w (.publish r o)).Once := by
  simp only [step]
  split
  · rename_i e rest head
    have pending : w.pending r = e :: rest := pending_of_relays head
    have ready := sound.ready r
    rw [pending] at ready
    have published (acked : Bool) :
        (w.publication ⟨r, e, bus.resolve r e.eventType, acked⟩).Sound := by
      refine sound_publication sound ?_ ready.1
      obtain ⟨s, hs, same, -⟩ := sound.stored r e (pending ▸ List.mem_cons_self)
      exact ⟨s, hs, same⟩
    split
    · cases o with
      | ok =>
        refine ⟨?_, once_publish sound once head rfl⟩
        have told : ∃ p ∈ (w.publication ⟨r, e, bus.resolve r e.eventType, true⟩).log,
            p.entry.eventID = e.eventID ∧ p.acked = true :=
          ⟨_, List.mem_append_right _ (List.mem_singleton_self _), rfl, rfl⟩
        have sound' := published true
        refine sound_goto sound' ?_ ?_ ?_ ?_ ?_
        · exact fun f hf => sound'.stored r f (by rwa [← pending] at hf)
        · rw [← pending]
          exact sound'.nodup r
        · exact fun r' other f hf => sound'.apart r r' other f (by rwa [← pending] at hf)
        · intro f rest' eq
          cases eq
          exact told
        · rw [← pending]
          exact sound'.ready r
      | failed => exact ⟨sound_fail sound r, once_fail w r⟩
      | lost => exact ⟨sound_fail (published false) r, once_fail _ r⟩
    · have noted : World.Sound { w with refused := w.refused ++ [(r, e)] } :=
        ⟨sound.bound, sound.logged, sound.stored, sound.nodup, sound.apart, sound.acked,
          sound.acknowledged, sound.later, sound.ready, sound.ordered⟩
      exact ⟨sound_fail noted r, once_fail _ r⟩
  · exact ⟨sound, once⟩

theorem delivers_mark (sound : w.Sound) (once : w.Once) (r : Rid) (o : Outcome) (now : Int64) :
    (step bus w (.mark r o now)).Sound ∧ (step bus w (.mark r o now)).Once := by
  simp only [step]
  split
  · rename_i e rest head
    have pending : w.pending r = e :: rest := pending_of_relays head
    have told := sound.acked r e rest head
    obtain ⟨p, hp, same, -⟩ := sound.acked r e rest head
    have done : e.eventID ∈ w.published := same ▸ mem_published hp
    have nodup := sound.nodup r
    rw [pending, List.map_cons, List.nodup_cons] at nodup
    have mem {f : Entry P} (hf : f ∈ rest) : f ∈ w.pending r := pending ▸ List.mem_cons_of_mem e hf
    have ready := sound.ready r
    rw [pending] at ready
    -- The batch moves on first: then no relay has the event that is marked.
    have moved : (w.goto r ⟨rest, false⟩).Sound :=
      sound_goto sound (fun f hf => sound.stored r f (mem hf)) nodup.2
        (fun r' other f hf => sound.apart r r' other f (mem hf)) (fun _ _ eq => by cases eq)
        (ready.tail done)
    have free : ∀ r', ∀ f ∈ (w.goto r ⟨rest, false⟩).pending r', f.eventID ≠ e.eventID := by
      intro r' f hf own
      by_cases mine : r' = r
      · rw [mine, World.pending, relays_goto] at hf
        exact nodup.1 (own ▸ List.mem_map_of_mem hf)
      · rw [World.pending, relays_goto_of_ne w _ mine] at hf
        obtain ⟨s, hs, rfl, -⟩ := sound.stored r e (pending ▸ List.mem_cons_self)
        obtain ⟨t, ht, rfl, -⟩ := sound.stored r' f hf
        obtain rfl := row_unique ht hs own
        exact sound.apart r r' mine _ (pending ▸ List.mem_cons_self) _ hf ⟨rfl, rfl⟩
    have marked : ((w.mark e now).goto r ⟨rest, false⟩).Sound := sound_mark moved now told free
    cases o with
    | ok => exact ⟨marked, once_mark sound once head now⟩
    | failed => exact ⟨sound_fail sound r, once_fail w r⟩
    | lost =>
      have dropped : (w.fail r).Sound := sound_fail sound r
      refine ⟨sound_mark dropped now told fun r' f hf => ?_, once_fail _ r⟩
      by_cases mine : r' = r
      · rw [mine, World.pending, World.fail, relays_goto] at hf
        cases hf
      · rw [World.pending, World.fail, relays_goto_of_ne _ _ mine] at hf
        exact free r' f (by rw [World.pending, relays_goto_of_ne w _ mine]; exact hf)
  · exact ⟨sound, once⟩

theorem delivers_step (h : w.Sound ∧ w.Once) {a : Act P Rid} (keeps : KeepsOrder w a) :
    (step bus w a).Sound ∧ (step bus w a).Once := by
  obtain ⟨sound, once⟩ := h
  cases a with
  | commit entries => exact ⟨sound_commit sound keeps, once_commit sound once entries⟩
  | select r locked ties => exact delivers_select sound once keeps
  | publish r o => exact delivers_publish sound once r o
  | mark r o now => exact delivers_mark sound once r o now

/-! ## Nothing is lost -/

omit [DecidableEq Rid] in
def unpublished (rows : Rows P) : ℕ := rows.rows.countP (!·.published)

omit [DecidableEq Rid] in
theorem countP_lt {α : Type*} {p q : α → Bool} {l : List α} (weaker : ∀ x ∈ l, q x → p x) {x : α}
    (mem : x ∈ l) (hp : p x) (hq : ¬ q x) : l.countP q < l.countP p := by
  induction l with
  | nil => cases mem
  | cons y l ih =>
    have rest := List.countP_mono_left fun z hz => weaker z (List.mem_cons_of_mem y hz)
    rw [List.countP_cons, List.countP_cons]
    rcases List.mem_cons.mp mem with rfl | mem
    · rw [if_neg hq, if_pos hp]
      omega
    · have less := ih (fun z hz => weaker z (List.mem_cons_of_mem y hz)) mem
      have head := weaker y List.mem_cons_self
      split <;> split <;> first | omega | exact absurd (head ‹_›) ‹_›

omit [DecidableEq Rid] in
theorem unpublished_markPublished (rows : Rows P) (eventID : UUID) (now : Int64) :
    unpublished (markPublished rows eventID now) ≤ unpublished rows := by
  rw [unpublished, markPublished, Table.update, List.countP_map]
  refine List.countP_mono_left fun r _ => ?_
  simp only [Function.comp_apply]
  split
  · intro h
    cases h
  · exact id

omit [DecidableEq Rid] in
theorem unpublished_lt {rows : Rows P} {s : Row P} (hs : s ∈ rows.rows) (fresh : s.published = false)
    (now : Int64) : unpublished (markPublished rows s.entry.eventID now) < unpublished rows := by
  rw [unpublished, markPublished, Table.update, List.countP_map]
  refine countP_lt (fun r _ => ?_) hs (by simp [fresh]) (by simp)
  simp only [Function.comp_apply]
  split
  · intro h
    cases h
  · exact id

omit [DecidableEq Rid] in
theorem unpublished_foldl (rows : Rows P) (batch : List (Entry P)) :
    unpublished (batch.foldl (fun rows e => markPublished rows e.eventID 0) rows) ≤ unpublished rows := by
  induction batch generalizing rows with
  | nil => exact le_refl _
  | cons e batch ih => exact (ih _).trans (unpublished_markPublished rows e.eventID 0)

/-- What a relay does with a batch of which nothing fails. -/
def relay (r : Rid) (batch : List (Entry P)) : List (Act P Rid) :=
  batch.flatMap fun _ => [.publish r .ok, .mark r .ok 0]

theorem run_relay (bus : Bus Rid) (w : World P Rid) {batch : List (Entry P)}
    (takes : ∀ e ∈ batch, bus.takes (bus.resolve r e.eventType) = true)
    (idle : ∀ r', r' ≠ r → w.pending r' = []) (head : w.relays r = ⟨batch, false⟩) :
    (∀ r', (Runs.run (step bus) w (relay r batch)).pending r' = []) ∧
      (Runs.run (step bus) w (relay r batch)).failed = w.failed ∧
      (Runs.run (step bus) w (relay r batch)).rows =
        batch.foldl (fun rows e => markPublished rows e.eventID 0) w.rows ∧
      Runs.EachStep (step bus) KeepsOrder w (relay r batch) := by
  induction batch generalizing w with
  | nil =>
    refine ⟨fun r' => ?_, rfl, rfl, trivial⟩
    by_cases own : r' = r
    · rw [own, relay, List.flatMap_nil, Runs.run_nil, pending_of_relays head]
    · exact idle r' own
  | cons e batch ih =>
    have published : step bus w (.publish r .ok) =
        (w.publication ⟨r, e, bus.resolve r e.eventType, true⟩).goto r ⟨e :: batch, true⟩ := by
      simp only [step, head, takes e List.mem_cons_self, ↓reduceIte]
    have marked : step bus ((w.publication ⟨r, e, bus.resolve r e.eventType, true⟩).goto r
        ⟨e :: batch, true⟩) (.mark r .ok 0) =
          (((w.publication ⟨r, e, bus.resolve r e.eventType, true⟩).goto r ⟨e :: batch, true⟩).mark e 0).goto
            r ⟨batch, false⟩ := by
      simp only [step, relays_goto]
    have rest := ih (w := (((w.publication ⟨r, e, bus.resolve r e.eventType, true⟩).goto r
        ⟨e :: batch, true⟩).mark e 0).goto r ⟨batch, false⟩)
      (fun f hf => takes f (List.mem_cons_of_mem e hf)) (fun r' other => by
        rw [World.pending, relays_goto_of_ne _ _ other]
        exact (congrArg Batch.pending (relays_goto_of_ne _ _ other)).trans (idle r' other))
      (relays_goto _ _ _)
    rw [relay, List.flatMap_cons, List.cons_append, List.cons_append, List.nil_append, Runs.run_cons,
      Runs.run_cons, published, marked]
    obtain ⟨idle, fine, rows, keeps⟩ := rest
    refine ⟨idle, fine, rows, ?_⟩
    simp only [Runs.EachStep, published, marked]
    exact ⟨trivial, trivial, keeps⟩

/-- Once all relays are idle, any one of them can publish all that is left. -/
theorem exists_drained (r : Rid) (takes : ∀ eventType, bus.takes (bus.resolve r eventType) = true)
    (w : World P Rid) (idle : ∀ r', w.pending r' = []) :
    ∃ acts, Runs.EachStep (step bus) KeepsOrder w acts ∧
      (Runs.run (step bus) w acts).failed = w.failed ∧
      ∀ s ∈ (Runs.run (step bus) w acts).rows.rows, s.published = true := by
  by_cases left : ∃ s ∈ w.rows.rows, s.published = false
  · obtain ⟨s, hs, fresh⟩ := left
    let batch := queryBatch w.rows (fun _ => false) (.none _)
    have selected : step bus w (.select r (fun _ => false) (.none _)) = w.goto r ⟨batch, false⟩ := by
      have quiet := idle r
      simp only [World.pending] at quiet
      cases held : w.relays r with
      | mk pending acked =>
        rw [held] at quiet
        obtain rfl : pending = [] := quiet
        simp only [step, held, batch]
    obtain ⟨idle', fine, rows, keeps⟩ := run_relay bus (w.goto r ⟨batch, false⟩)
      (fun e _ => takes e.eventType)
      (fun r' other => (congrArg Batch.pending (relays_goto_of_ne w _ other)).trans (idle r'))
      (relays_goto w r ⟨batch, false⟩)
    -- The batch has a row, so there are fewer unpublished ones behind it.
    have fewer : unpublished (Runs.run (step bus) (w.goto r ⟨batch, false⟩) (relay r batch)).rows <
        unpublished w.rows := by
      rw [rows]
      have nonempty : batch ≠ [] := by
        have mem : s ∈ w.rows.rows.filter fun r => !r.published && !false :=
          List.mem_filter.mpr ⟨hs, by simp [fresh]⟩
        intro none
        have length := congrArg List.length none
        simp only [batch, queryBatch, Shuffle.none, id_eq, List.length_map, List.length_take,
          List.length_insertionSort, List.length_nil, batchSize] at length
        have := List.length_pos_of_mem mem
        omega
      cases first : batch with
      | nil => exact absurd first nonempty
      | cons e batch' =>
        obtain ⟨t, ht, rfl, unmarked, -⟩ := mem_queryBatch (first ▸ List.mem_cons_self : e ∈ batch)
        exact lt_of_le_of_lt (unpublished_foldl _ batch') (unpublished_lt ht unmarked 0)
    obtain ⟨acts, keeps', fine', all⟩ := exists_drained r takes _ idle'
    refine ⟨.select r (fun _ => false) (.none _) :: relay r batch ++ acts, ?_, ?_, ?_⟩
    · rw [List.cons_append, Runs.EachStep, selected]
      refine ⟨fun _ e _ => ⟨fun r' _ f hf => ?_, fun _ _ _ locked => by cases locked⟩,
        Runs.eachStep_append.mpr ⟨keeps, keeps'⟩⟩
      rw [idle r'] at hf
      cases hf
    · rw [List.cons_append, Runs.run_cons, selected, Runs.run_append, fine', fine]
      rfl
    · rw [List.cons_append, Runs.run_cons, selected, Runs.run_append]
      exact all
  · refine ⟨[], trivial, rfl, fun s hs => ?_⟩
    cases published : s.published with
    | true => rfl
    | false => exact absurd ⟨s, hs, published⟩ left
termination_by unpublished w.rows

/-- In a run that keeps the order the relays deliver, and what is left when they are idle can be
published too. -/
theorem relays_deliver (bus : Bus Rid) {acts : List (Act P Rid)}
    (keeps : Runs.EachStep (step bus) KeepsOrder {} acts) :
    Runs.Always (step bus) World.Delivers {} acts ∧
      ∀ r, (∀ eventType, bus.takes (bus.resolve r eventType) = true) →
        (∀ r', (Runs.run (step bus) {} acts).pending r' = []) →
        (Runs.run (step bus) {} acts).failed = false →
        ∃ more, ∀ s ∈ (Runs.run (step bus) {} (acts ++ more)).rows.rows,
          (Runs.run (step bus) {} (acts ++ more)).published.count s.entry.eventID = 1 := by
  have start : World.Sound ({} : World P Rid) ∧ World.Once ({} : World P Rid) := by
    refine ⟨⟨nofun, nofun, fun _ => nofun, fun _ => .nil, fun _ _ _ => nofun, fun _ _ _ => nofun, nofun,
      nofun, fun _ => trivial, ?_⟩, fun _ => nofun⟩
    rintro e f ⟨-, r, none, -⟩
    cases none
  have kept (w : World P Rid) (a : Act P Rid) (h : w.Sound ∧ w.Once) (keeps : KeepsOrder w a) :
      (step bus w a).Sound ∧ (step bus w a).Once := delivers_step h keeps
  have always {acts : List (Act P Rid)} (keeps : Runs.EachStep (step bus) KeepsOrder {} acts) :
      Runs.Always (step bus) World.Delivers {} acts :=
    Runs.always_of_eachStep (fun w h => delivers_of_sound h.1 h.2) kept start keeps
  refine ⟨always keeps, fun r takes idle fine => ?_⟩
  obtain ⟨more, keeps', fine', all⟩ := exists_drained r takes _ idle
  refine ⟨more, fun s hs => ?_⟩
  have delivers := Runs.always_last (always (Runs.eachStep_append.mpr ⟨keeps, keeps'⟩))
  rw [Runs.run_append] at delivers hs ⊢
  exact (delivers.once (fine'.trans fine) s hs).2 (all s hs)

end

/-! ## Two relays -/

namespace Race

def bus : Bus Bool where
  resolve _ eventType := eventType
  takes _ := true

def event (eventID order : UUID) (occurredAtMs : Int64) : Entry Unit where
  eventID
  aggregateType := "order"
  aggregateID := order
  eventType := "astra.order.paid.v1"
  payload := ()
  occurredAtMs

def select (r : Bool) : Act Unit Bool := .select r (fun _ => false) (.none _)

/-- Two orders, each with a relay. -/
def apart : List (Act Unit Bool) := [.commit [event 7 1 10], select true, .commit [event 8 2 10],
  .publish true .ok, .select false (fun u => u = 7) (.none _), .publish false .ok, .mark true .ok 0,
  .mark false .ok 0]

theorem relays_deliver_apart :
    Runs.Always (step bus) World.Delivers {} apart ∧
      ∀ r, (∀ eventType, bus.takes (bus.resolve r eventType) = true) →
        (∀ r', (Runs.run (step bus) {} apart).pending r' = []) →
        (Runs.run (step bus) {} apart).failed = false →
        ∃ more, ∀ s ∈ (Runs.run (step bus) {} (apart ++ more)).rows.rows,
          (Runs.run (step bus) {} (apart ++ more)).published.count s.entry.eventID = 1 :=
  relays_deliver bus (by decide)

/-- Both relays read a row before one of them marks it. -/
theorem published_twice : ¬ ∀ (bus : Bus Bool) (acts : List (Act Unit Bool)),
    Runs.Always (step bus) World.Delivers {} acts := by
  intro claim
  let acts : List (Act Unit Bool) := [.commit [event 7 1 10], select true, select false,
    .publish true .ok, .publish false .ok]
  have delivers := Runs.always_last (claim bus acts)
  have stored : { entry := event 7 1 10, txn := 0 } ∈ (Runs.run (step bus) {} acts).rows.rows := by
    decide
  have once := (delivers.once (by decide) _ stored).1
  exact absurd once (by decide)

end Race

end Outbox
