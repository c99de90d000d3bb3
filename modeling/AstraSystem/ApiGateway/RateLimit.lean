import AstraSystem.Lib.Runs
import Mathlib.Algebra.Order.Ring.Rat
import Mathlib.Tactic.Linarith

/-!
# The token bucket of the gateways (`middleware/ratelimit.go`, `ratelimit/ratelimit.go`)

Both gateways run the same script. Each pod sends the time of its own clock, and Redis drops a key that was not written
for a minute of its time. Numbers are exact.
-/

namespace ApiGateway.RateLimit

structure Bucket where
  tokens : ℚ
  ts : ℚ
  deriving DecidableEq

/-- The key's next contents, and whether the script returns 1. -/
def tokenBucketScript (rps burst now : ℚ) (bucket : Option Bucket) : Bucket × Bool :=
  let b := bucket.getD ⟨burst, now⟩
  let elapsed := max 0 (now - b.ts)
  let tokens := min burst (b.tokens + elapsed * rps)
  if 1 ≤ tokens then (⟨tokens - 1, now⟩, true) else (⟨tokens, now⟩, false)

/-- A key, and the time of Redis at which it was written. -/
structure Key where
  bucket : Bucket
  writtenAt : ℚ
  deriving DecidableEq

/-- `EXPIRE key 60`. -/
def Key.alive (k : Key) (redis : ℚ) : Bool := redis < k.writtenAt + 60

/-- An execution of the script: the time that the pod sends, and that of Redis. -/
structure Execution where
  now : ℚ
  redis : ℚ
  deriving DecidableEq

section
variable (rps burst : ℚ)

def execute (key : Option Key) (e : Execution) : Key × Bool :=
  let bucket := (key.filter fun k => k.alive e.redis).map Key.bucket
  let (bucket, allowed) := tokenBucketScript rps burst e.now bucket
  (⟨bucket, e.redis⟩, allowed)

def step (key : Option Key) (e : Execution) : Option Key := some (execute rps burst key e).1

/-- How many of the executions return 1 and were sent a time from `t` to `u`. -/
def admitted (t u : ℚ) : Option Key → List Execution → ℕ
  | _, [] => 0
  | key, e :: execs =>
    (if (execute rps burst key e).2 ∧ t ≤ e.now ∧ e.now ≤ u then 1 else 0) + admitted t u (step rps burst key e) execs

/-- No window lets more through than the burst and what the rate refills. -/
def Bounded (execs : List Execution) : Prop :=
  ∀ t w, 0 ≤ w → (admitted rps burst t (t + w) none execs : ℚ) ≤ burst + rps * w

/-- No clock is behind the one of the execution before, and a key that was dropped would be full again. -/
def Meets (key : Option Key) (e : Execution) : Prop :=
  ∀ k ∈ key, k.bucket.ts ≤ e.now ∧ (k.alive e.redis = false → burst ≤ k.bucket.tokens + (e.now - k.bucket.ts) * rps)

end

section
variable {rps burst t u : ℚ} {key : Option Key} {k : Key} {e : Execution}

/-- What the bucket holds when the script looks. -/
def refilled (rps burst : ℚ) (key : Option Key) (now : ℚ) : ℚ :=
  key.elim burst fun k => min burst (k.bucket.tokens + (now - k.bucket.ts) * rps)

/-- The script as long as clocks do not go back. -/
theorem execute_eq (meets : Meets rps burst key e) : execute rps burst key e =
    if 1 ≤ refilled rps burst key e.now then (⟨⟨refilled rps burst key e.now - 1, e.now⟩, e.redis⟩, true)
    else (⟨⟨refilled rps burst key e.now, e.now⟩, e.redis⟩, false) := by
  have fresh : min burst (burst + max 0 (e.now - e.now) * rps) = burst := by simp
  unfold execute tokenBucketScript refilled
  cases key with
  | none =>
    simp only [Option.filter_none, Option.map_none, Option.getD_none, fresh, Option.elim_none]
    split <;> rename_i enough <;> simp only [enough, ↓reduceIte]
  | some k =>
    obtain ⟨later, full⟩ := meets k rfl
    have elapsed : max 0 (e.now - k.bucket.ts) = e.now - k.bucket.ts := max_eq_right (sub_nonneg.mpr later)
    cases alive : k.alive e.redis with
    | true =>
      simp only [Option.filter_some, alive, ↓reduceIte, Option.map_some, Option.getD_some, elapsed, Option.elim_some]
      split <;> rename_i enough <;> simp only [enough, ↓reduceIte]
    | false =>
      simp only [Option.filter_some, alive, Bool.false_eq_true, ↓reduceIte, Option.map_none, Option.getD_none, fresh,
        Option.elim_some, min_eq_left (full alive)]
      split <;> rfl

/-- The bucket holds no less than nothing and no more than the burst. -/
def Sound (burst : ℚ) (key : Option Key) : Prop := ∀ k ∈ key, 0 ≤ k.bucket.tokens ∧ k.bucket.tokens ≤ burst

theorem refilled_nonneg (rate : 0 ≤ rps) (size : 0 ≤ burst) (sound : Sound burst key) (meets : Meets rps burst key e) :
    0 ≤ refilled rps burst key e.now := by
  cases key with
  | none => exact size
  | some k =>
    have later := sub_nonneg.mpr (meets k rfl).1
    exact le_min size (add_nonneg (sound k rfl).1 (mul_nonneg later rate))

theorem refilled_le (rps burst : ℚ) (key : Option Key) (now : ℚ) : refilled rps burst key now ≤ burst := by
  cases key with
  | none => exact le_rfl
  | some k => exact min_le_left _ _

/-- What an execution does: it lets one through and takes a token, or finds less than one. -/
theorem execute_cases (meets : Meets rps burst key e) :
    (1 ≤ refilled rps burst key e.now ∧ (execute rps burst key e).2 = true ∧
      step rps burst key e = some ⟨⟨refilled rps burst key e.now - 1, e.now⟩, e.redis⟩) ∨
    ((execute rps burst key e).2 = false ∧
      step rps burst key e = some ⟨⟨refilled rps burst key e.now, e.now⟩, e.redis⟩) := by
  rw [step, execute_eq meets]
  by_cases enough : 1 ≤ refilled rps burst key e.now
  · rw [if_pos enough]
    exact .inl ⟨enough, rfl, rfl⟩
  · rw [if_neg enough]
    exact .inr ⟨rfl, rfl⟩

theorem sound_step (rate : 0 ≤ rps) (size : 0 ≤ burst) (sound : Sound burst key) (meets : Meets rps burst key e) :
    Sound burst (step rps burst key e) := by
  have low := refilled_nonneg rate size sound meets
  have high := refilled_le rps burst key e.now
  obtain ⟨enough, -, next⟩ | ⟨-, next⟩ := execute_cases meets
  · rw [next]
    rintro _ ⟨⟩
    exact ⟨sub_nonneg.mpr enough, (sub_le_self _ zero_le_one).trans high⟩
  · rw [next]
    rintro _ ⟨⟩
    exact ⟨low, high⟩

theorem step_ts (meets : Meets rps burst key e) : ∃ k, step rps burst key e = some k ∧ k.bucket.ts = e.now := by
  obtain ⟨-, -, next⟩ | ⟨-, next⟩ := execute_cases meets
  · exact ⟨_, next, rfl⟩
  · exact ⟨_, next, rfl⟩

/-- Nothing is counted after the window. -/
theorem admitted_after {execs : List Execution} (past : u < k.bucket.ts)
    (meets : Runs.EachStep (step rps burst) (Meets rps burst) (some k) execs) :
    admitted rps burst t u (some k) execs = 0 := by
  induction execs generalizing k with
  | nil => rfl
  | cons e execs ih =>
    have later := past.trans_le (meets.1 k rfl).1
    obtain ⟨k', next, ts⟩ := step_ts meets.1
    rw [admitted, if_neg fun counted => absurd counted.2.2 (not_le.mpr later), next, zero_add]
    exact ih (ts ▸ later) (next ▸ meets.2)

/-- Up to a time a bucket lets no more through than what it holds and what is refilled until then. -/
theorem admitted_le_tokens (rate : 0 ≤ rps) (size : 0 ≤ burst) {execs : List Execution} (sound : Sound burst (some k))
    (ahead : k.bucket.ts ≤ u) (meets : Runs.EachStep (step rps burst) (Meets rps burst) (some k) execs) :
    (admitted rps burst t u (some k) execs : ℚ) ≤ k.bucket.tokens + rps * (u - k.bucket.ts) := by
  induction execs generalizing k with
  | nil =>
    rw [admitted, Nat.cast_zero]
    exact add_nonneg (sound k rfl).1 (mul_nonneg rate (sub_nonneg.mpr ahead))
  | cons e execs ih =>
    obtain ⟨k', next, ts⟩ := step_ts meets.1
    have sound' := sound_step rate size sound meets.1
    have rest := next ▸ meets.2
    rw [next] at sound'
    rw [admitted, next]
    by_cases inside : e.now ≤ u
    · have held : refilled rps burst (some k) e.now ≤ k.bucket.tokens + (e.now - k.bucket.ts) * rps := min_le_right _ _
      have later := ih sound' (ts ▸ inside) rest
      rw [ts] at later
      push_cast
      obtain ⟨-, -, next'⟩ | ⟨denied, next'⟩ := execute_cases meets.1
      · obtain rfl := Option.some.inj (next.symm.trans next')
        have one : ((if (execute rps burst (some k) e).2 = true ∧ t ≤ e.now ∧ e.now ≤ u then 1 else 0 : ℚ)) ≤ 1 := by
          split <;> norm_num
        simp only at later
        linarith
      · obtain rfl := Option.some.inj (next.symm.trans next')
        rw [if_neg fun counted => absurd (denied.symm.trans counted.1) (by decide)]
        simp only at later
        linarith
    · rw [if_neg fun counted => absurd counted.2.2 inside, zero_add, admitted_after (ts ▸ not_le.mp inside) rest,
        Nat.cast_zero]
      exact add_nonneg (sound k rfl).1 (mul_nonneg rate (sub_nonneg.mpr ahead))

/-- From the first that a window lets through on, the bucket pays for all. -/
theorem admitted_le (rate : 0 ≤ rps) (size : 0 ≤ burst) {w : ℚ} (width : 0 ≤ w) {execs : List Execution}
    (sound : Sound burst key) (meets : Runs.EachStep (step rps burst) (Meets rps burst) key execs) :
    (admitted rps burst t (t + w) key execs : ℚ) ≤ burst + rps * w := by
  induction execs generalizing key with
  | nil =>
    rw [admitted, Nat.cast_zero]
    exact add_nonneg size (mul_nonneg rate width)
  | cons e execs ih =>
    have sound' := sound_step rate size sound meets.1
    have rest := ih sound' meets.2
    rw [admitted]
    by_cases counted : (execute rps burst key e).2 = true ∧ t ≤ e.now ∧ e.now ≤ t + w
    · obtain ⟨allowed, from_t, until_u⟩ := counted
      obtain ⟨-, -, next⟩ | ⟨denied, -⟩ := execute_cases meets.1
      · have meets := meets.2
        rw [next] at sound' meets
        have paid := admitted_le_tokens (t := t) rate size sound' until_u meets
        have high := refilled_le rps burst key e.now
        have width : rps * (t + w - e.now) ≤ rps * w := mul_le_mul_of_nonneg_left (by linarith) rate
        rw [if_pos ⟨allowed, from_t, until_u⟩, next]
        push_cast
        simp only at paid
        linarith
      · exact absurd (denied.symm.trans allowed) (by decide)
    · rw [if_neg counted, zero_add]
      exact rest

end

/-- **The bucket bounds every client** as long as no pod's clock is behind the one before, and no key is dropped that
would not be full again. -/
theorem bounded_of_meets (rps burst : ℚ) (rate : 0 < rps) (size : 1 ≤ burst) (execs : List Execution)
    (meets : Runs.EachStep (step rps burst) (Meets rps burst) none execs) : Bounded rps burst execs :=
  fun _ _ width => admitted_le rate.le (zero_le_one.trans size) width (fun _ none => (by cases none)) meets

/-- Two pods are a second apart: each time the slow one asks, the next second is refilled once more. -/
def skewed : List Execution := [⟨100, 0⟩, ⟨99, 0⟩, ⟨100, 0⟩]

/-- A token in two minutes, and the key is dropped after one. -/
def idle : List Execution := [⟨100, 0⟩, ⟨161, 61⟩]

theorem skewed_admits_two : ¬ Bounded 1 1 skewed ∧ ¬ Bounded (1 / 120) 1 idle := by
  constructor
  · intro bounded
    have two : admitted 1 1 100 (100 + 0) none skewed = 2 := by decide +kernel
    have count := bounded 100 0 le_rfl
    rw [two] at count
    norm_num at count
  · intro bounded
    have two : admitted (1 / 120) 1 100 (100 + 61) none idle = 2 := by decide +kernel
    have count := bounded 100 61 (by norm_num)
    rw [two] at count
    norm_num at count

/-- Three requests of one clock, the last a minute later. -/
theorem steady_bounded : Bounded 1 2 [⟨100, 0⟩, ⟨100, 0⟩, ⟨161, 61⟩] := by
  have first : step 1 2 none ⟨100, 0⟩ = some ⟨⟨1, 100⟩, 0⟩ := by decide +kernel
  have second : step 1 2 (some ⟨⟨1, 100⟩, 0⟩) ⟨100, 0⟩ = some ⟨⟨0, 100⟩, 0⟩ := by decide +kernel
  apply bounded_of_meets 1 2 one_pos one_le_two
  refine ⟨fun _ none => (by cases none), ?_, ?_, trivial⟩
  · rw [first]
    rintro _ ⟨⟩
    norm_num [Key.alive]
  · rw [first, second]
    rintro _ ⟨⟩
    norm_num

end ApiGateway.RateLimit
