import AstraSystem.Lib.Runs

/-!
# Scripts of effects

What a program does that ends at its first failure: the effects that it has by then, and whether it came to its end.
A program that is killed in between has performed a prefix of them.
-/

structure Script (ε : Type*) where
  effects : List ε
  ok : Bool

namespace Script

variable {ε : Type*}

/-- A step that only finds out whether to go on. -/
def check (ok : Bool) : Script ε := ⟨[], ok⟩

/-- A step that has an effect, also where it fails. -/
def perform (e : ε) (ok : Bool) : Script ε := ⟨[e], ok⟩

def andThen (s t : Script ε) : Script ε := if s.ok then ⟨s.effects ++ t.effects, t.ok⟩ else s

@[simp] theorem ok_check (ok : Bool) : (check ok : Script ε).ok = ok := rfl

@[simp] theorem ok_perform (e : ε) (ok : Bool) : (perform e ok).ok = ok := rfl

@[simp] theorem effects_check (ok : Bool) : (check ok : Script ε).effects = [] := rfl

@[simp] theorem effects_perform (e : ε) (ok : Bool) : (perform e ok).effects = [e] := rfl

@[simp] theorem ok_andThen (s t : Script ε) : (s.andThen t).ok = (s.ok && t.ok) := by
  unfold andThen
  cases h : s.ok <;> simp [h]

theorem effects_andThen (s t : Script ε) :
    (s.andThen t).effects = s.effects ++ if s.ok then t.effects else [] := by
  unfold andThen
  cases h : s.ok <;> simp

theorem mem_andThen {s t : Script ε} {e : ε} (h : e ∈ (s.andThen t).effects) : e ∈ s.effects ∨ e ∈ t.effects := by
  rw [effects_andThen] at h
  split at h <;> simp_all

/-! ## Killed on the way -/

variable {σ : Type*} {apply : σ → ε → σ}

/-- If all effects that touch a part of the state do the same to it, and once as well as twice, then a prefix has
done it exactly if one of them is in it. -/
theorem run_take_once {α : Type*} {view : σ → α} {effects : List ε} {touches : ε → Bool} {f : α → α}
    (idem : ∀ x, f (f x) = f x)
    (does : ∀ e ∈ effects, ∀ s, view (apply s e) = if touches e then f (view s) else view s) (s : σ) (n : ℕ) :
    view (Runs.run apply s (effects.take n)) =
      if (effects.take n).any touches then f (view s) else view s := by
  have does' : ∀ e ∈ effects.take n, ∀ s, view (apply s e) = if touches e then f (view s) else view s :=
    fun e mem => does e (List.mem_of_mem_take mem)
  generalize effects.take n = taken at does'
  induction taken generalizing s with
  | nil => rfl
  | cons e es ih =>
    rw [Runs.run_cons, ih _ fun e' mem => does' e' (List.mem_cons_of_mem e mem), does' e List.mem_cons_self,
      List.any_cons]
    cases touches e <;> cases es.any touches <;> simp [idem]

end Script
