import Mathlib.Tactic.TypeStar

/-!
# Computations that fail half way

What was done before a failure stays done. A call is described by what holds
where it returns and what holds where it fails.
-/

def Effect (S E A : Type*) := S → S × Except E A

namespace Effect

universe u

variable {S E : Type*} {A B : Type u} {s : S} {ok : S → A → Prop} {err : S → Prop}

instance monad : Monad (Effect S E) where
  pure a s := (s, .ok a)
  bind x f s :=
    match x s with
    | (s, .ok a) => f a s
    | (s, .error e) => (s, .error e)

instance lawfulMonad : LawfulMonad (Effect S E) := .mk' _
  (fun x => funext fun s => by
    show (match x s with
      | (s, .ok a) => (s, Except.ok (id a))
      | (s, .error e) => (s, .error e)) = x s
    rcases x s with ⟨s', a | e⟩ <;> rfl)
  (fun _ _ => rfl)
  (fun x f g => funext fun s => by
    simp only [bind]
    rcases x s with ⟨s', a | e⟩ <;> rfl)

def fail (e : E) : Effect S E A := fun s => (s, .error e)

/-- A computation that only reads. -/
def read (f : S → Except E A) : Effect S E A := fun s => (s, f s)

/-- `ok` holds where the computation returns, `err` where it fails. -/
def Ensures (x : Effect S E A) (s : S) (ok : S → A → Prop) (err : S → Prop) : Prop :=
  match x s with
  | (s, .ok a) => ok s a
  | (s, .error _) => err s

theorem ensures_bind {x : Effect S E A} {f : A → Effect S E B} {ok : S → B → Prop} :
    Ensures (x >>= f) s ok err ↔ Ensures x s (fun s a => Ensures (f a) s ok err) err := by
  simp only [Ensures, bind]
  rcases x s with ⟨s', a | e⟩ <;> rfl

theorem ensures_read {f : S → Except E A} :
    Ensures (read f) s ok err ↔ (∀ a, f s = .ok a → ok s a) ∧ ∀ e, f s = .error e → err s := by
  simp only [Ensures, read]
  cases f s <;> simp

theorem ensures_ite {p : Prop} [Decidable p] {x y : Effect S E A} :
    Ensures (if p then x else y) s ok err ↔
      (p → Ensures x s ok err) ∧ (¬ p → Ensures y s ok err) := by
  split <;> simp [*]

/-- A sequence that returns went through its first computation. -/
theorem bind_eq_ok {x : Effect S E A} {f : A → Effect S E B} {s' : S} {b : B} :
    (x >>= f) s = (s', .ok b) ↔ ∃ s₁ a, x s = (s₁, .ok a) ∧ f a s₁ = (s', .ok b) := by
  simp only [bind]
  rcases x s with ⟨s₁, e | a⟩
  · constructor
    · intro h
      cases h
    · rintro ⟨_, _, h, -⟩
      cases h
  · constructor
    · intro h
      exact ⟨s₁, a, rfl, h⟩
    · rintro ⟨_, _, ⟨⟩, h⟩
      exact h

theorem exists_bind {x : Effect S E A} {f : A → Effect S E B} {s₁ : S} {a : A} {b : B} {P : S → Prop}
    (hx : x s = (s₁, .ok a)) (hf : ∃ s', f a s₁ = (s', .ok b) ∧ P s') :
    ∃ s', (x >>= f) s = (s', .ok b) ∧ P s' := by
  obtain ⟨s', hf, hP⟩ := hf
  exact ⟨s', bind_eq_ok.mpr ⟨s₁, a, hx, hf⟩, hP⟩

/-- What a computation leaves behind, whether it returns or fails. -/
theorem ensures_state {x : Effect S E A} {P : S → Prop} :
    Ensures x s (fun s _ => P s) P ↔ P (x s).1 := by
  simp only [Ensures]
  rcases x s with ⟨s', a | e⟩ <;> rfl

theorem Ensures.mono {x : Effect S E A} {ok' : S → A → Prop} {err' : S → Prop}
    (h : Ensures x s ok err) (hok : ∀ s a, ok s a → ok' s a) (herr : ∀ s, err s → err' s) :
    Ensures x s ok' err' := by
  simp only [Ensures] at h ⊢
  rcases hx : x s with ⟨s', e | a⟩
  · rw [hx] at h
    exact herr s' h
  · rw [hx] at h
    exact hok s' a h

end Effect
