import Mathlib.Data.Fintype.Basic
import AstraSystem.Lib.Runs
import AstraSystem.PaymentOrchestrator.Repository

/-!
# The lock of an idempotency key (`idempotency/idempotency.go`)

Callers take the lock of a key, hold it as long as they like and release it. The entry in Redis does not tell
who has set it, and expires after thirty seconds.
-/

namespace PaymentOrchestrator.IdemStore

/-- What Redis holds at a key: until when, and whose `SetNX` has set it. -/
structure Entry (Tid : Type*) where
  expires : ℕ
  setBy : Tid

structure World (Tid : Type*) where
  /-- Milliseconds. -/
  clock : ℕ := 0
  entries : UUID → Option (Entry Tid) := fun _ => none
  /-- Since when a caller is between a `Lock` that has returned true and its own `Unlock`. -/
  holds : Tid → UUID → Option ℕ := fun _ _ => none
  /-- Whose entries have been removed, and by whom, before they expired. -/
  removed : List (Tid × Tid) := []

/-- An entry lives for thirty seconds. -/
def lifetime : ℕ := 30000

variable {Tid : Type*} [DecidableEq Tid]

namespace World

/-- The entry at a key that has not expired. -/
def live (w : World Tid) (key : UUID) : Option (Entry Tid) := (w.entries key).filter (w.clock < ·.expires)

def set (w : World Tid) (key : UUID) (entry : Option (Entry Tid)) : World Tid :=
  { w with entries := fun key' => if key' = key then entry else w.entries key' }

def setNX (w : World Tid) (t : Tid) (key : UUID) : World Tid × Bool :=
  match w.live key with
  | some _ => (w, false)
  | none => (w.set key (some ⟨w.clock + lifetime, t⟩), true)

def del (w : World Tid) (t : Tid) (key : UUID) : World Tid :=
  { w.set key none with removed := w.removed ++ (w.live key).toList.map fun e => (t, e.setBy) }

def hold (w : World Tid) (t : Tid) (key : UUID) (since : Option ℕ) : World Tid :=
  { w with holds := fun t' key' => if t' = t ∧ key' = key then since else w.holds t' key' }

end World

/-- Without Redis there is no lock. -/
def Lock (redis : Bool) (w : World Tid) (t : Tid) (key : UUID) (outcome : Outcome) :
    World Tid × Except String Bool :=
  if redis then
    match outcome with
    | .committed => ((w.setNX t key).1, .ok (w.setNX t key).2)
    | .rolledBack err => (w, .error ("idempotency: redis lock: " ++ err))
    | .lost err => ((w.setNX t key).1, .error ("idempotency: redis lock: " ++ err))
  else (w, .ok true)

def Unlock (redis : Bool) (w : World Tid) (t : Tid) (key : UUID) (outcome : Outcome) :
    World Tid × Except String Unit :=
  if redis then
    match outcome with
    | .committed => (w.del t key, .ok ())
    | .rolledBack err => (w, .error ("idempotency: redis unlock: " ++ err))
    | .lost err => (w.del t key, .error ("idempotency: redis unlock: " ++ err))
  else (w, .ok ())

inductive Act (Tid : Type*) where
  | lock (t : Tid) (key : UUID) (outcome : Outcome)
  | unlock (t : Tid) (key : UUID) (outcome : Outcome)
  | wait (ms : ℕ)

/-- A caller locks a key that it does not hold, and unlocks one that it holds. -/
def step (redis : Bool) (w : World Tid) : Act Tid → World Tid
  | .lock t key outcome =>
    if (w.holds t key).isSome then w
    else match Lock redis w t key outcome with
      | (w, .ok true) => w.hold t key (some w.clock)
      | (w, _) => w
  | .unlock t key outcome =>
    if (w.holds t key).isSome then (Unlock redis (w.hold t key none) t key outcome).1 else w
  | .wait ms => { w with clock := w.clock + ms }

/-! ## The claims of a lock -/

/-- No two callers hold a key. -/
def Alone (w : World Tid) : Prop :=
  ∀ key t t', (w.holds t key).isSome = true → (w.holds t' key).isSome = true → t = t'

/-- Nobody has removed an entry that somebody else's `Lock` set. -/
def OwnRemoved (w : World Tid) : Prop := ∀ r ∈ w.removed, r.1 = r.2

/-- A request for the lock that takes effect finds every holder of the key less than thirty seconds in; without
Redis, it finds none. -/
def Timely (redis : Bool) (w : World Tid) : Act Tid → Prop
  | .lock t key outcome => w.holds t key = none → (redis = true → outcome.applies = true) →
      ∀ t', ∀ since ∈ w.holds t' key, redis = true ∧ w.clock < since + lifetime
  | .unlock .. | .wait _ => True

instance Timely.decidable [Fintype Tid] (redis : Bool) (w : World Tid) : DecidablePred (Timely redis w)
  | .lock _ _ _ => inferInstanceAs (Decidable (_ → _ → ∀ _, ∀ _ ∈ _, _))
  | .unlock .. => .isTrue trivial
  | .wait _ => .isTrue trivial

/-- The holder of a key is alone, and has set the entry that is there. -/
structure Exclusive (redis : Bool) (w : World Tid) : Prop where
  alone : Alone w
  entry : redis = true → ∀ t key since, w.holds t key = some since → w.entries key = some ⟨since + lifetime, t⟩
  own : OwnRemoved w

section
variable {redis : Bool} {w : World Tid} {t : Tid} {key : UUID}

omit [DecidableEq Tid] in
theorem exclusive_start (redis : Bool) : Exclusive redis ({} : World Tid) where
  alone _ _ _ held := by cases held
  entry _ _ _ _ held := by cases held
  own _ mem := by cases mem

theorem holds_hold (since : Option ℕ) (t' : Tid) (key' : UUID) :
    (w.hold t key since).holds t' key' = if t' = t ∧ key' = key then since else w.holds t' key' := rfl

omit [DecidableEq Tid] in
/-- An entry may change as long as nobody holds its key. -/
theorem exclusive_set (h : Exclusive redis w) (nobody : ∀ t', w.holds t' key = none) (entry : Option (Entry Tid)) :
    Exclusive redis (w.set key entry) where
  alone := h.alone
  entry isRedis t' key' since held := by
    have other : key' ≠ key := by
      rintro rfl
      cases (nobody t').symm.trans held
    exact (if_neg other).trans (h.entry isRedis t' key' since held)
  own := h.own

/-- Who comes alone, with an entry of its own, holds the key. -/
theorem exclusive_hold (h : Exclusive redis w) (nobody : ∀ t', w.holds t' key = none)
    (entry : redis = true → w.entries key = some ⟨w.clock + lifetime, t⟩) :
    Exclusive redis (w.hold t key (some w.clock)) where
  alone key' t₁ t₂ held₁ held₂ := by
    rw [holds_hold] at held₁ held₂
    by_cases same : key' = key
    · subst same
      have own (t' : Tid) (held : (if t' = t ∧ key' = key' then some w.clock else w.holds t' key').isSome) :
          t' = t := by
        by_contra other
        rw [if_neg fun h => other h.1, nobody] at held
        cases held
      rw [own t₁ held₁, own t₂ held₂]
    · rw [if_neg fun h => same h.2] at held₁ held₂
      exact h.alone key' t₁ t₂ held₁ held₂
  entry isRedis t' key' since held := by
    rw [holds_hold] at held
    split at held
    · rename_i own
      obtain ⟨rfl, rfl⟩ := own
      cases held
      exact entry isRedis
    · exact h.entry isRedis t' key' since held
  own := h.own

theorem exclusive_release (h : Exclusive redis w) (t : Tid) (key : UUID) : Exclusive redis (w.hold t key none) := by
  have before (t' : Tid) (key' : UUID) (since : ℕ) (held : (w.hold t key none).holds t' key' = some since) :
      w.holds t' key' = some since := by
    rw [holds_hold] at held
    split at held
    · cases held
    · exact held
  constructor
  · intro key' t₁ t₂ held₁ held₂
    obtain ⟨since₁, held₁⟩ := Option.isSome_iff_exists.mp held₁
    obtain ⟨since₂, held₂⟩ := Option.isSome_iff_exists.mp held₂
    exact h.alone key' t₁ t₂ (by rw [before t₁ key' since₁ held₁]; rfl) (by rw [before t₂ key' since₂ held₂]; rfl)
  · exact fun isRedis t' key' since held => h.entry isRedis t' key' since (before t' key' since held)
  · exact h.own

omit [DecidableEq Tid] in
/-- The entry that is removed is the caller's own. -/
theorem exclusive_del (h : Exclusive redis w) (nobody : ∀ t', w.holds t' key = none)
    (own : ∀ e ∈ w.entries key, e.setBy = t) : Exclusive redis (w.del t key) := by
  have kept := exclusive_set h nobody none
  refine ⟨kept.alone, kept.entry, ?_⟩
  intro r mem
  rcases List.mem_append.mp mem with before | now
  · exact h.own r before
  · obtain ⟨e, live, rfl⟩ := List.mem_map.mp now
    exact (own e (Option.mem_filter_iff.mp (Option.mem_toList.mp live)).1).symm

omit [DecidableEq Tid] in
/-- As long as a holder's time has not run out, its entry is in the way. -/
theorem nobody_of_timely (h : Exclusive true w) {outcome : Outcome} (free : w.holds t key = none)
    (applies : outcome.applies = true) (timely : Timely true w (.lock t key outcome)) (gone : w.live key = none)
    (t' : Tid) : w.holds t' key = none := by
  cases held : w.holds t' key with
  | none => rfl
  | some since =>
    have young := (timely free (fun _ => applies) t' since held).2
    rw [World.live, h.entry rfl t' key since held] at gone
    simp at gone
    omega

theorem exclusive_setNX (h : Exclusive true w) {outcome : Outcome} (free : w.holds t key = none)
    (applies : outcome.applies = true) (timely : Timely true w (.lock t key outcome)) :
    Exclusive true (w.setNX t key).1 ∧
      ((w.setNX t key).2 = true → Exclusive true ((w.setNX t key).1.hold t key (some (w.setNX t key).1.clock))) := by
  unfold World.setNX
  cases gone : w.live key with
  | some e => exact ⟨h, fun taken => by cases taken⟩
  | none =>
    have nobody := nobody_of_timely h free applies timely gone
    have kept := exclusive_set h nobody (some ⟨w.clock + lifetime, t⟩)
    exact ⟨kept, fun _ => exclusive_hold kept nobody fun _ => if_pos rfl⟩

theorem exclusive_lock (h : Exclusive redis w) {outcome : Outcome} (timely : Timely redis w (.lock t key outcome)) :
    Exclusive redis (step redis w (.lock t key outcome)) := by
  simp only [step]
  split
  · exact h
  rename_i idle
  have free : w.holds t key = none := Option.not_isSome_iff_eq_none.mp idle
  cases redis with
  | false =>
    apply exclusive_hold h
    · intro t'
      cases held : w.holds t' key with
      | none => rfl
      | some since => cases (timely free (fun h => by cases h) t' since held).1
    · exact fun h => by cases h
  | true =>
    cases outcome with
    | rolledBack err => exact h
    | lost err => exact (exclusive_setNX h free rfl timely).1
    | committed =>
      obtain ⟨refused, taken⟩ := exclusive_setNX h free rfl timely
      simp only [Lock, ↓reduceIte]
      cases ok : (w.setNX t key).2 with
      | true => exact taken ok
      | false => exact refused

theorem exclusive_unlock (h : Exclusive redis w) (outcome : Outcome) :
    Exclusive redis (step redis w (.unlock t key outcome)) := by
  simp only [step]
  split
  · rename_i held
    have released := exclusive_release h t key
    have nobody (t' : Tid) : (w.hold t key none).holds t' key = none := by
      rw [holds_hold]
      split
      · rfl
      · rename_i other
        apply Option.not_isSome_iff_eq_none.mp
        intro held'
        exact other ⟨h.alone key t' t held' held, rfl⟩
    cases redis with
    | false => exact released
    | true =>
      obtain ⟨since, held⟩ := Option.isSome_iff_exists.mp held
      have own : ∀ e ∈ (w.hold t key none).entries key, e.setBy = t := by
        intro e there
        cases (h.entry rfl t key since held).symm.trans there
        rfl
      cases outcome with
      | rolledBack err => exact released
      | committed | lost err => exact exclusive_del released nobody own
  · exact h

theorem exclusive_step (h : Exclusive redis w) (a : Act Tid) (timely : Timely redis w a) :
    Exclusive redis (step redis w a) := by
  cases a with
  | lock t key outcome => exact exclusive_lock h timely
  | unlock t key outcome => exact exclusive_unlock h outcome
  | wait ms => exact ⟨h.alone, h.entry, h.own⟩

end

/-- In runs in which nobody asks for a lock after its holder's thirty seconds, the lock excludes and only the
own entries are removed. -/
theorem excludes_of_timely (redis : Bool) (acts : List (Act Tid))
    (timely : Runs.EachStep (step redis) (Timely redis) {} acts) :
    Runs.Always (step redis) (fun w => Alone w ∧ OwnRemoved w) {} acts :=
  Runs.always_of_eachStep (J := Exclusive redis) (fun _ h => ⟨h.alone, h.own⟩)
    (fun _ a h timely => exclusive_step h a timely) (exclusive_start redis) timely

namespace Counter

/-- The second customer is refused, and served when the first is done. -/
def patient : List (Act Bool) :=
  [.lock true 7 .committed, .wait 20000, .lock false 7 .committed, .unlock true 7 .committed,
    .lock false 7 .committed, .wait 40000, .unlock false 7 .committed]

theorem excludes_patient : Runs.Always (step true) (fun w => Alone w ∧ OwnRemoved w) {} patient :=
  excludes_of_timely true patient (by decide)

/-- A gateway takes 31 seconds: the second customer holds the lock as well, and loses it to the first. -/
def slow : List (Act Bool) :=
  [.lock true 7 .committed, .wait 31000, .lock false 7 .committed, .unlock true 7 .committed]

theorem both_hold : ¬ Runs.Always (step true) (fun w => Alone w ∧ OwnRemoved w) {} slow ∧
    (Runs.run (step true) ({} : World Bool) slow).removed = [(true, false)] := by
  constructor
  · intro always
    have own := (Runs.always_last always).2 (true, false) (by decide)
    cases own
  · decide

end Counter

end PaymentOrchestrator.IdemStore
