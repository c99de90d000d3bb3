import Mathlib.Data.List.Induction

/-!
# Runs of a deterministic step function

A system is a function `step : σ → α → σ`. The action carries every choice the
environment makes, and an action that is not enabled leaves the state alone, so
a run is any list of actions.
-/

namespace Runs

variable {σ α : Type*}

/-- The state a list of actions leads to. -/
def run (step : σ → α → σ) (s : σ) (acts : List α) : σ := acts.foldl step s

/-- `P` holds in every state the run visits, the first one included. -/
def Always (step : σ → α → σ) (P : σ → Prop) : σ → List α → Prop
  | s, [] => P s
  | s, a :: acts => P s ∧ Always step P (step s a) acts

/-- `G` holds of every action of the run in the state it is taken from. -/
def EachStep (step : σ → α → σ) (G : σ → α → Prop) : σ → List α → Prop
  | _, [] => True
  | s, a :: acts => G s a ∧ EachStep step G (step s a) acts

instance decidableEachStep (step : σ → α → σ) (G : σ → α → Prop) [∀ s a, Decidable (G s a)] :
    ∀ s acts, Decidable (EachStep step G s acts)
  | _, [] => .isTrue trivial
  | s, a :: acts =>
    have := decidableEachStep step G (step s a) acts
    inferInstanceAs (Decidable (G s a ∧ EachStep step G (step s a) acts))

variable {step : σ → α → σ} {I P : σ → Prop} {G H : σ → α → Prop}

@[simp] theorem run_nil (s : σ) : run step s [] = s := rfl

@[simp] theorem run_cons (s : σ) (a : α) (acts : List α) :
    run step s (a :: acts) = run step (step s a) acts := rfl

theorem run_append (s : σ) (xs ys : List α) :
    run step s (xs ++ ys) = run step (run step s xs) ys := List.foldl_append

@[simp] theorem run_concat (s : σ) (xs : List α) (a : α) :
    run step s (xs ++ [a]) = step (run step s xs) a := run_append s xs [a]

/-- What every step preserves, every run preserves. -/
theorem run_inv (hstep : ∀ s a, I s → I (step s a)) {s : σ} (hs : I s) (acts : List α) :
    I (run step s acts) := by
  induction acts generalizing s with
  | nil => exact hs
  | cons a acts ih => exact ih (hstep s a hs)

/-- A consequence of what every step preserves holds throughout every run. -/
theorem always_inv (hstep : ∀ s a, I s → I (step s a)) (hP : ∀ s, I s → P s) {s : σ} (hs : I s)
    (acts : List α) : Always step P s acts := by
  induction acts generalizing s with
  | nil => exact hP s hs
  | cons a acts ih => exact ⟨hP s hs, ih (hstep s a hs)⟩

theorem always_last {s : σ} {acts : List α} (h : Always step P s acts) :
    P (run step s acts) := by
  induction acts generalizing s with
  | nil => exact h
  | cons a acts ih => exact ih h.2

theorem always_head {s : σ} {acts : List α} (h : Always step P s acts) : P s := by
  cases acts with
  | nil => exact h
  | cons a acts => exact h.1

theorem eachStep_last {s : σ} {acts : List α} {a : α} (h : EachStep step G s (acts ++ [a])) :
    G (run step s acts) a := by
  induction acts generalizing s with
  | nil => exact h.1
  | cons b acts ih => exact ih h.2

theorem eachStep_append {s : σ} {xs ys : List α} :
    EachStep step G s (xs ++ ys) ↔ EachStep step G s xs ∧ EachStep step G (run step s xs) ys := by
  induction xs generalizing s with
  | nil => simp [EachStep]
  | cons a xs ih => simp only [List.cons_append, EachStep, run_cons, ih, and_assoc]

/-- Under an invariant, two step conditions that agree on single steps agree on runs. -/
theorem eachStep_congr (hstep : ∀ s a, I s → I (step s a)) (hiff : ∀ s a, I s → (G s a ↔ H s a))
    {s : σ} (hs : I s) (acts : List α) : EachStep step G s acts ↔ EachStep step H s acts := by
  induction acts generalizing s with
  | nil => exact Iff.rfl
  | cons a acts ih => exact and_congr (hiff s a hs) (ih (hstep s a hs))

/-- An invariant that steps meeting `G` keep holds throughout a run of such steps. -/
theorem always_of_eachStep {J : σ → Prop} (hP : ∀ s, J s → P s)
    (hstep : ∀ s a, J s → G s a → J (step s a)) {s : σ} (hs : J s) {acts : List α}
    (hg : EachStep step G s acts) : Always step P s acts := by
  induction acts generalizing s with
  | nil => exact hP s hs
  | cons a acts ih => exact ⟨hP s hs, ih (hstep s a hs hg.1) hg.2⟩

/-- And what such steps do, every step of the run does. -/
theorem eachStep_of_eachStep {J : σ → Prop} (hH : ∀ s a, J s → G s a → H s a)
    (hstep : ∀ s a, J s → G s a → J (step s a)) {s : σ} (hs : J s) {acts : List α}
    (hg : EachStep step G s acts) : EachStep step H s acts := by
  induction acts generalizing s with
  | nil => trivial
  | cons a acts ih => exact ⟨hH s a hs hg.1, ih (hstep s a hs hg.1) hg.2⟩

/-- Two step conditions that agree where an invariant holds agree on runs, if steps meeting one of them keep it. -/
theorem eachStep_iff {J : σ → Prop} (hiff : ∀ s a, J s → (H s a ↔ G s a))
    (hstep : ∀ s a, J s → G s a → J (step s a)) {s : σ} (hs : J s) (acts : List α) :
    EachStep step H s acts ↔ EachStep step G s acts := by
  induction acts generalizing s with
  | nil => exact Iff.rfl
  | cons a acts ih =>
    constructor
    · intro h
      have hg := (hiff s a hs).mp h.1
      exact ⟨hg, (ih (hstep s a hs hg)).mp h.2⟩
    · intro h
      exact ⟨(hiff s a hs).mpr h.1, (ih (hstep s a hs h.1)).mpr h.2⟩

theorem eachStep_of_forall {s : σ} {acts : List α} (h : ∀ a ∈ acts, ∀ s, G s a) :
    EachStep step G s acts := by
  induction acts generalizing s with
  | nil => trivial
  | cons a acts ih =>
    exact ⟨h a List.mem_cons_self s, ih fun b hb => h b (List.mem_cons_of_mem a hb)⟩

theorem eachStep_and {s : σ} {acts : List α} (hg : EachStep step G s acts)
    (hh : EachStep step H s acts) : EachStep step (fun s a => G s a ∧ H s a) s acts := by
  induction acts generalizing s with
  | nil => trivial
  | cons a acts ih => exact ⟨⟨hg.1, hh.1⟩, ih hg.2 hh.2⟩

/-- If moreover a step out of `J` that does not meet `G` breaks `P`, then `P` holds throughout a
run exactly when all of its steps meet `G`. -/
theorem always_iff_eachStep {J : σ → Prop} (hP : ∀ s, J s → P s)
    (hstep : ∀ s a, J s → G s a → J (step s a)) (hG : ∀ s a, J s → P (step s a) → G s a)
    {s : σ} (hs : J s) (acts : List α) : Always step P s acts ↔ EachStep step G s acts := by
  refine ⟨?_, always_of_eachStep hP hstep hs⟩
  intro h
  induction acts generalizing s with
  | nil => trivial
  | cons a acts ih =>
    have hg := hG s a hs (always_head h.2)
    exact ⟨hg, ih (hstep s a hs hg) h.2⟩

/-- The same where every step of the run is known to meet `H`. -/
theorem always_iff_eachStep_of {J : σ → Prop} (hP : ∀ s, J s → P s)
    (hstep : ∀ s a, J s → H s a → G s a → J (step s a))
    (hG : ∀ s a, J s → H s a → P (step s a) → G s a) {s : σ} (hs : J s) {acts : List α}
    (hh : EachStep step H s acts) : Always step P s acts ↔ EachStep step G s acts := by
  induction acts generalizing s with
  | nil => exact ⟨fun _ => trivial, fun _ => hP s hs⟩
  | cons a acts ih =>
    constructor
    · intro h
      have hg := hG s a hs hh.1 (always_head h.2)
      exact ⟨hg, (ih (hstep s a hs hh.1 hg) hh.2).mp h.2⟩
    · intro hg
      exact ⟨hP s hs, (ih (hstep s a hs hh.1 hg.1) hh.2).mpr hg.2⟩

/-- A run with a step that does not meet `G` has a first one. -/
theorem exists_first {s : σ} {acts : List α} (h : ¬ EachStep step G s acts) :
    ∃ before a after, acts = before ++ a :: after ∧ EachStep step G s before ∧
      ¬ G (run step s before) a := by
  induction acts generalizing s with
  | nil => exact absurd trivial h
  | cons a acts ih =>
    by_cases hg : G s a
    · obtain ⟨before, b, after, rfl, hb, hn⟩ := ih fun h' => h ⟨hg, h'⟩
      exact ⟨a :: before, b, after, rfl, ⟨hg, hb⟩, hn⟩
    · exact ⟨[], a, acts, rfl, trivial, hg⟩

/-! ## Endless runs -/

/-- The state after each number of actions. -/
def trace (step : σ → α → σ) (s : σ) (acts : ℕ → α) : ℕ → σ
  | 0 => s
  | n + 1 => step (trace step s acts n) (acts n)

section
variable {s : σ} {acts : ℕ → α}

/-- What steps meeting `G` keep, an endless run of them keeps. -/
theorem trace_inv (hstep : ∀ s a, I s → G s a → I (step s a)) (hs : I s)
    (hg : ∀ n, G (trace step s acts n) (acts n)) (n : ℕ) : I (trace step s acts n) := by
  induction n with
  | zero => exact hs
  | succ n ih => exact hstep _ _ ih (hg n)

/-- If no step increases a measure before `Q` holds, and the steps `F` that are taken again and again
decrease it, then `Q` holds in the end. -/
theorem trace_eventually {J Q : σ → Prop} {F : σ → α → Prop} (measure : σ → ℕ)
    (hstep : ∀ s a, J s → G s a → Q (step s a) ∨
      J (step s a) ∧ measure (step s a) ≤ measure s ∧ (F s a → measure (step s a) < measure s))
    (hg : ∀ n, G (trace step s acts n) (acts n))
    (fair : ∀ n, ∃ m ≥ n, F (trace step s acts m) (acts m)) {n : ℕ} (hn : J (trace step s acts n)) :
    ∃ m, Q (trace step s acts m) := by
  -- As long as `Q` does not hold the measure never increases.
  have wait (n d : ℕ) (hn : J (trace step s acts n)) : (∃ m, Q (trace step s acts m)) ∨
      J (trace step s acts (n + d)) ∧
        measure (trace step s acts (n + d)) ≤ measure (trace step s acts n) := by
    induction d with
    | zero => exact .inr ⟨hn, Nat.le_refl _⟩
    | succ d ih =>
      obtain found | ⟨hj, le⟩ := ih
      · exact .inl found
      · obtain found | ⟨hj, le', -⟩ := hstep _ _ hj (hg (n + d))
        · exact .inl ⟨n + d + 1, found⟩
        · exact .inr ⟨hj, Nat.le_trans le' le⟩
  induction h : measure (trace step s acts n) using Nat.strongRecOn generalizing n with
  | ind k ih =>
    obtain ⟨m, hm, taken⟩ := fair n
    obtain ⟨d, rfl⟩ := Nat.exists_eq_add_of_le hm
    obtain found | ⟨hj, le⟩ := wait n d hn
    · exact found
    · obtain found | ⟨hj, -, lt⟩ := hstep _ _ hj (hg (n + d))
      · exact ⟨n + d + 1, found⟩
      · exact ih _ (h ▸ Nat.lt_of_lt_of_le (lt taken) le) (n := n + d + 1) hj rfl

end

end Runs
