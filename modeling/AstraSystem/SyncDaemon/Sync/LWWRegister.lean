import Mathlib.Data.Prod.Lex
import Mathlib.Data.String.Basic
import Mathlib.Logic.Function.Basic
import AstraSystem.Lib.Newest
import AstraSystem.Lib.Runs
import AstraSystem.SyncDaemon.Sync.Engine

/-!
# Last-writer-wins registers (`sync/crdt.rs`)

A register keeps the write with the greatest Lamport timestamp, and among those
the one with the greatest kiosk id. Replicas start from writes of their own,
write to their registers and merge copies of other registers, which may arrive
late, repeatedly or never.
-/

namespace SyncDaemon.Sync

variable {P : Type}

namespace LWWRegister

def new (value : P) (origin : KioskId) (lamportTs wallclockTs : UInt64) : LWWRegister P :=
  ⟨value, lamportTs, origin, wallclockTs⟩

def read (self : LWWRegister P) : P := self.value

def isDominated (incTs : UInt64) (incOrigin : KioskId) (newTs : UInt64) (newOrigin : KioskId) :
    Bool :=
  decide (newTs > incTs) || (newTs == incTs && decide (newOrigin.id > incOrigin.id))

/-- The register afterwards, and whether the write was accepted. -/
def write (self : LWWRegister P) (value : P) (origin : KioskId)
    (lamportTs wallclockTs : UInt64) : LWWRegister P × Bool :=
  if isDominated self.lamportTs self.origin lamportTs origin then
    (⟨value, lamportTs, origin, wallclockTs⟩, true)
  else (self, false)

def merge (self other : LWWRegister P) : LWWRegister P :=
  if isDominated self.lamportTs self.origin other.lamportTs other.origin then
    { self with
      value := other.value
      lamportTs := other.lamportTs
      origin := other.origin
      wallclockTs := other.wallclockTs }
  else self

/-- What registers are ordered by. -/
def rank (self : LWWRegister P) : ℕ ×ₗ String := toLex (self.lamportTs.toNat, self.origin.id)

theorem rank_lt_iff (a b : LWWRegister P) :
    a.rank < b.rank ↔
      a.lamportTs < b.lamportTs ∨ a.lamportTs = b.lamportTs ∧ a.origin.id < b.origin.id := by
  simp only [rank, Prod.Lex.toLex_lt_toLex, UInt64.lt_iff_toNat_lt, UInt64.toNat_inj]

theorem rank_eq_iff (a b : LWWRegister P) :
    a.rank = b.rank ↔ a.lamportTs = b.lamportTs ∧ a.origin = b.origin := by
  have ids : a.origin.id = b.origin.id ↔ a.origin = b.origin :=
    ⟨congrArg KioskId.mk, congrArg KioskId.id⟩
  simp only [rank, EmbeddingLike.apply_eq_iff_eq, Prod.mk.injEq, UInt64.toNat_inj, ids]

theorem isDominated_iff (a b : LWWRegister P) :
    isDominated a.lamportTs a.origin b.lamportTs b.origin = true ↔ a.rank < b.rank := by
  simp only [isDominated, rank_lt_iff, Bool.or_eq_true, Bool.and_eq_true, decide_eq_true_eq,
    beq_iff_eq, gt_iff_lt, eq_comm (a := b.lamportTs)]

theorem merge_eq (a b : LWWRegister P) : a.merge b = if a.rank < b.rank then b else a := by
  simp only [merge, isDominated_iff]

theorem write_eq (a : LWWRegister P) (value : P) (origin : KioskId) (lamportTs wallclockTs : UInt64) :
    a.write value origin lamportTs wallclockTs =
      if a.rank < (new value origin lamportTs wallclockTs).rank then
        (new value origin lamportTs wallclockTs, true)
      else (a, false) := by
  have h : isDominated a.lamportTs a.origin lamportTs origin = true ↔ _ :=
    isDominated_iff a (new value origin lamportTs wallclockTs)
  by_cases newer : a.rank < (new value origin lamportTs wallclockTs).rank
  · rw [write, if_pos (h.mpr newer), if_pos newer]
    rfl
  · rw [write, if_neg (mt h.mp newer), if_neg newer]

/-- Writing is merging a register that holds the new write alone. -/
theorem write_fst (a : LWWRegister P) (value : P) (origin : KioskId)
    (lamportTs wallclockTs : UInt64) :
    (a.write value origin lamportTs wallclockTs).1 =
      a.merge (new value origin lamportTs wallclockTs) := by
  rw [write_eq, merge_eq]
  split <;> rfl

/-! ### Laws of merge -/

theorem merge_self (a : LWWRegister P) : a.merge a = a := by
  rw [merge_eq, ite_self]

theorem merge_comm {a b : LWWRegister P} (ties : a.rank = b.rank → a = b) :
    a.merge b = b.merge a := by
  rw [merge_eq, merge_eq]
  obtain h | h | h := lt_trichotomy a.rank b.rank
  · rw [if_pos h, if_neg h.not_gt]
  · rw [ties h, ite_self]
  · rw [if_neg h.not_gt, if_pos h]

theorem merge_assoc (a b c : LWWRegister P) : (a.merge b).merge c = a.merge (b.merge c) := by
  simp only [merge_eq]
  by_cases ab : a.rank < b.rank
  · by_cases bc : b.rank < c.rank
    · simp only [ab, bc, ab.trans bc, ↓reduceIte]
    · simp only [ab, bc, ↓reduceIte]
  · by_cases bc : b.rank < c.rank
    · simp only [ab, bc, ↓reduceIte]
    · have ac : ¬ a.rank < c.rank := fun h => ab (lt_of_lt_of_le h (le_of_not_gt bc))
      simp only [ab, bc, ac, ↓reduceIte]

end LWWRegister

/-! ## Replicas -/

/-- The arguments of a call to `write`. -/
@[ext] structure Write (P : Type) where
  value : P
  origin : KioskId
  lamportTs : UInt64
  wallclockTs : UInt64

/-- The register a replica starts with when `w` is its initial write. -/
def Write.register (w : Write P) : LWWRegister P :=
  .new w.value w.origin w.lamportTs w.wallclockTs

/-- A register, with the writes it has absorbed. No operation reads these. -/
structure Holding (P : Type) where
  register : LWWRegister P
  absorbed : Set (Write P)

namespace Holding

def initial (w : Write P) : Holding P := ⟨w.register, {w}⟩

def write (c : Holding P) (w : Write P) : Holding P :=
  ⟨(c.register.write w.value w.origin w.lamportTs w.wallclockTs).1, insert w c.absorbed⟩

def merge (c d : Holding P) : Holding P := ⟨c.register.merge d.register, c.absorbed ∪ d.absorbed⟩

end Holding

structure Registers (ι P : Type) where
  issued : Set (Write P)
  replica : ι → Holding P
  sent : List (Holding P)

inductive RegisterCall (ι P : Type) where
  | write (i : ι) (w : Write P)
  | send (i : ι)
  | merge (i : ι) (n : ℕ)

namespace Registers

variable {ι : Type} [DecidableEq ι]

def start (initial : ι → Write P) : Registers ι P :=
  ⟨Set.range initial, fun i => .initial (initial i), []⟩

def step (s : Registers ι P) : RegisterCall ι P → Registers ι P
  | .write i w =>
    { s with
      issued := insert w s.issued
      replica := Function.update s.replica i ((s.replica i).write w) }
  | .send i => { s with sent := s.sent ++ [s.replica i] }
  | .merge i n =>
    match s.sent[n]? with
    | some d => { s with replica := Function.update s.replica i ((s.replica i).merge d) }
    | none => s

def run (initial : ι → Write P) (calls : List (RegisterCall ι P)) : Registers ι P :=
  Runs.run step (start initial) calls

/-- The registers that exist: at a replica or on the wire. -/
def Has (s : Registers ι P) (c : Holding P) : Prop := c ∈ s.sent ∨ ∃ i, c = s.replica i

end Registers

/-! ## Convergence -/

def Write.rank (w : Write P) : ℕ ×ₗ String := w.register.rank

/-- Merging the register of a write is a step of a cell that keeps its newest write. -/
theorem Write.keep_register (v w : Write P) :
    (Newest.keep rank (some v) w).map register = some (v.register.merge w.register) := by
  rw [LWWRegister.merge_eq, Newest.keep]
  show Option.map register (if v.rank < w.rank then some w else some v) =
    some (if v.rank < w.rank then w.register else v.register)
  split <;> rfl

/-- The register holds the newest of the writes it has absorbed, and these were issued. -/
structure Holding.Settled (issued : Set (Write P)) (c : Holding P) : Prop where
  newest : ∃ w, Newest.Of Write.rank c.absorbed (some w) ∧ w.register = c.register
  absorbed : c.absorbed ⊆ issued

namespace Holding.Settled

variable {issued : Set (Write P)} {c d : Holding P}

theorem initial {w : Write P} (h : w ∈ issued) : (Holding.initial w).Settled issued := by
  constructor
  · refine ⟨w, ⟨Set.mem_singleton w, ?_⟩, rfl⟩
    intro v hv
    rw [Set.mem_singleton_iff.mp hv]
  · intro v hv
    rwa [Set.mem_singleton_iff.mp hv]

theorem grow (h : c.Settled issued) (w : Write P) : c.Settled (insert w issued) :=
  ⟨h.newest, h.absorbed.trans (Set.subset_insert w issued)⟩

/-- The cell a merge leaves is the register of some write. -/
theorem kept (v w : Write P) : ∃ u, Newest.keep Write.rank (some v) w = some u ∧
    u.register = v.register.merge w.register :=
  Option.map_eq_some_iff.mp (Write.keep_register v w)

theorem write (h : c.Settled issued) (w : Write P) : (c.write w).Settled (insert w issued) := by
  obtain ⟨v, newest, eq⟩ := h.newest
  obtain ⟨u, hu, register⟩ := kept v w
  constructor
  · refine ⟨u, hu ▸ Newest.of_insert newest w, ?_⟩
    rw [register, eq, Holding.write, LWWRegister.write_fst]
    rfl
  · exact Set.insert_subset_insert h.absorbed

theorem merge (hc : c.Settled issued) (hd : d.Settled issued) : (c.merge d).Settled issued := by
  obtain ⟨v, newest, eq⟩ := hc.newest
  obtain ⟨w, theirs, eq'⟩ := hd.newest
  obtain ⟨u, hu, register⟩ := kept v w
  constructor
  · refine ⟨u, hu ▸ Newest.of_union newest theirs, ?_⟩
    rw [register, eq, eq', Holding.merge]
  · exact Set.union_subset hc.absorbed hd.absorbed

end Holding.Settled

namespace Registers

variable {ι : Type}

/-- Every register that exists holds its newest write. -/
def Settled (s : Registers ι P) : Prop := ∀ c, s.Has c → c.Settled s.issued

theorem start_settled (initial : ι → Write P) : (start initial).Settled := by
  intro c hc
  cases hc with
  | inl onWire => cases onWire
  | inr held =>
    obtain ⟨i, rfl⟩ := held
    exact .initial (Set.mem_range_self i)

variable [DecidableEq ι]

theorem step_settled (s : Registers ι P) (call : RegisterCall ι P) (h : s.Settled) :
    (s.step call).Settled := by
  cases call with
  | write i w =>
    intro c hc
    cases hc with
    | inl onWire => exact (h c (.inl onWire)).grow w
    | inr held =>
      obtain ⟨j, rfl⟩ := held
      have hj := h _ (.inr ⟨j, rfl⟩)
      by_cases hji : j = i
      · subst hji
        simpa only [step, Function.update_self] using hj.write w
      · simpa only [step, Function.update_of_ne hji] using hj.grow w
  | send i =>
    intro c hc
    cases hc with
    | inl onWire =>
      cases List.mem_append.mp onWire with
      | inl earlier => exact h c (.inl earlier)
      | inr now => exact h c (.inr ⟨i, List.mem_singleton.mp now⟩)
    | inr held => exact h c (.inr held)
  | merge i n =>
    simp only [step]
    split
    · rename_i d hd
      have theirs := h d (.inl (List.mem_of_getElem? hd))
      intro c hc
      cases hc with
      | inl onWire => exact h c (.inl onWire)
      | inr held =>
        obtain ⟨j, rfl⟩ := held
        have hj := h _ (.inr ⟨j, rfl⟩)
        by_cases hji : j = i
        · subst hji
          simpa only [Function.update_self] using hj.merge theirs
        · simpa only [Function.update_of_ne hji] using hj
    · exact h

theorem run_settled (initial : ι → Write P) (calls : List (RegisterCall ι P)) :
    (run initial calls).Settled :=
  Runs.run_inv step_settled (start_settled initial) calls

/-- **Registers converge to the newest write.** In every run that issues no two writes with one
Lamport timestamp and origin, every register holds, in all its fields, the one write it has
absorbed that is above all the others, and merging is a join. -/
theorem run_converges (initial : ι → Write P) (calls : List (RegisterCall ι P))
    (distinct : ∀ v ∈ (run initial calls).issued, ∀ w ∈ (run initial calls).issued,
      v.lamportTs = w.lamportTs → v.origin = w.origin → v = w) :
    (∀ c, (run initial calls).Has c → ∃ w ∈ c.absorbed, c.register = w.register ∧
      ∀ v ∈ c.absorbed, v ≠ w →
        v.lamportTs < w.lamportTs ∨ v.lamportTs = w.lamportTs ∧ v.origin.id < w.origin.id) ∧
    ∀ a b c, (run initial calls).Has a → (run initial calls).Has b → (run initial calls).Has c →
      a.register.merge b.register = b.register.merge a.register ∧
      (a.register.merge b.register).merge c.register =
        a.register.merge (b.register.merge c.register) ∧
      a.register.merge a.register = a.register := by
  have ties : ∀ v ∈ (run initial calls).issued, ∀ w ∈ (run initial calls).issued,
      v.rank = w.rank → v = w := by
    intro v hv w hw h
    obtain ⟨lamport, origin⟩ := (LWWRegister.rank_eq_iff _ _).mp h
    exact distinct v hv w hw lamport origin
  constructor
  · intro c hc
    have settled := run_settled initial calls c hc
    obtain ⟨w, ⟨hw, top⟩, eq⟩ := settled.newest
    refine ⟨w, hw, eq.symm, ?_⟩
    intro v hv ne
    have below : v.rank ≠ w.rank := fun h =>
      ne (ties v (settled.absorbed hv) w (settled.absorbed hw) h)
    exact (LWWRegister.rank_lt_iff _ _).mp (lt_of_le_of_ne (top v hv) below)
  · intro a b c ha hb _
    obtain ⟨v, ⟨hv, _⟩, eqa⟩ := (run_settled initial calls a ha).newest
    obtain ⟨w, ⟨hw, _⟩, eqb⟩ := (run_settled initial calls b hb).newest
    have hv' := (run_settled initial calls a ha).absorbed hv
    have hw' := (run_settled initial calls b hb).absorbed hw
    refine ⟨?_, LWWRegister.merge_assoc _ _ _, LWWRegister.merge_self _⟩
    apply LWWRegister.merge_comm
    intro h
    rw [← eqa, ← eqb] at h ⊢
    rw [ties v hv' w hw' h]

def priceOf : Bool → Write String
  | false => ⟨"4.20", ⟨"kiosk-1"⟩, 7, 1700000000000⟩
  | true => ⟨"4.50", ⟨"kiosk-2"⟩, 7, 1699999999000⟩

/-- Two kiosks set one price at the same Lamport time, and the second hears the first twice. -/
theorem run_converges_two_kiosks :
    ∃ w ∈ ((run priceOf [.send false, .merge true 0, .merge true 0]).replica true).absorbed,
      ((run priceOf [.send false, .merge true 0, .merge true 0]).replica true).register =
        w.register ∧
      ∀ v ∈ ((run priceOf [.send false, .merge true 0, .merge true 0]).replica true).absorbed,
        v ≠ w → v.lamportTs < w.lamportTs ∨
          v.lamportTs = w.lamportTs ∧ v.origin.id < w.origin.id := by
  apply (run_converges priceOf [.send false, .merge true 0, .merge true 0] ?_).1
  · exact .inr ⟨true, rfl⟩
  · rintro _ ⟨i, rfl⟩ _ ⟨j, rfl⟩ _ origin
    cases i <;> cases j <;> first | rfl | exact absurd origin (by decide)

end Registers

end SyncDaemon.Sync
