import AstraSystem.Kiosk.ApiClient

/-!
# A body that does not come (`state/apiClient.ts`)

The timer of a request is cleared when its headers are there. A body that does not come after them holds up every later
read of the key.
-/

namespace Kiosk.ApiClient

variable {D : Type*}

/-- Since the headers of the request came, callers of the key were only given what was kept by then. -/
structure Blocked (c : Call) (i : ℕ) (f : Fetch D) (s t : State D) : Prop where
  inv : Inv c t
  fetch : t.fetches i = some f
  cache : t.responseCache c.key = none ∨ t.responseCache c.key = s.responseCache c.key
  given : ∃ more, t.given = s.given ++ more ∧ ∀ g ∈ more, g.key = c.key →
    ∃ entry, s.responseCache c.key = some entry ∧ g.answer = entry.answer ∧ g.now ≤ entry.expiresAt

section
variable {c : Call} {s t : State D} {i : ℕ} {f : Fetch D} {reply : Reply D}

theorem Blocked.sweep (h : Blocked c i f s t) (key : String) (now : ℤ) : Blocked c i f s (t.sweep key now) := by
  have inv := h.inv.sweep key now
  obtain same | swept := sweep_cases (s := t) key now
  · rwa [same]
  · rw [swept] at inv ⊢
    refine ⟨inv, h.fetch, ?_, h.given⟩
    by_cases own : c.key = key
    · exact .inl (by simp [own])
    · simpa [own] using h.cache

theorem Blocked.join (h : Blocked c i f s t) (kept : c.Kept) (c' : Call) : Blocked c i f s (t.join c') := by
  have inv := h.inv.join kept c'
  unfold State.join at inv ⊢
  split
  · exact h
  · rename_i started
    rw [if_neg started] at inv
    refine ⟨inv, ?_, h.cache, h.given⟩
    have older : i ≠ t.next := Nat.ne_of_lt (h.inv.below i f h.fetch)
    simpa [State.start, Function.update_of_ne older] using h.fetch

theorem Blocked.request (h : Blocked c i f s t) (kept : c.Kept) (truthy : D → Bool) (c' : Call) (now : ℤ) :
    Blocked c i f s (t.request truthy c' now) := by
  unfold State.request
  have swept := h.sweep c'.key now
  split
  · split
    · rename_i entry found
      split
      · refine ⟨swept.inv.give found (of_mem_sweep found), swept.fetch, swept.cache, ?_⟩
        obtain ⟨more, grown, all⟩ := swept.given
        refine ⟨more ++ [⟨c'.key, entry.answer, now, some entry.expiresAt⟩], by simp [State.give, grown], ?_⟩
        intro g mem own
        rcases List.mem_append.mp mem with mem | mem
        · exact all g mem own
        · obtain rfl := List.mem_singleton.mp mem
          obtain gone | same := swept.cache
          · rw [← own, found] at gone
            cases gone
          · exact ⟨entry, by rw [← same, ← own, found], rfl, of_mem_sweep found⟩
      · exact swept.join kept c'
    · exact swept.join kept c'
  · exact h.join kept c'

/-- Another request of the key cannot be in flight beside it. -/
theorem Blocked.foreign (h : Blocked c i f s t) (own : f.call.key = c.key) {j : ℕ} {g : Fetch D}
    (found : t.fetches j = some g) (other : j ≠ i) : g.call.key ≠ c.key := by
  intro own'
  have flies := (h.inv.flight j).mpr ⟨g, found, own'⟩
  rw [(h.inv.flight i).mpr ⟨f, h.fetch, own⟩] at flies
  exact other (Option.some.inj flies).symm

theorem Blocked.finish (h : Blocked c i f s t) (kept : c.Kept) {j : ℕ} {g : Fetch D} (found : t.fetches j = some g)
    (other : j ≠ i) : Blocked c i f s (t.finish j g.call) := by
  refine ⟨h.inv.finish kept found, ?_, h.cache, h.given⟩
  rw [fetches_finish_of_ne t g.call (Ne.symm other)]
  exact h.fetch

theorem Blocked.other (h : Blocked c i f s t) {key : String} (foreign : key ≠ c.key) (answer : Answer D)
    (now ttlMs : ℤ) : Blocked c i f s ((t.give ⟨key, answer, now, none⟩).setCache key answer now ttlMs) := by
  have inv := h.inv.other foreign answer now ttlMs
  obtain ⟨more, grown, all⟩ := h.given
  let last : Given D := ⟨key, answer, now, none⟩
  have given : ∃ more, t.given ++ [last] = s.given ++ more ∧ ∀ g ∈ more, g.key = c.key →
      ∃ entry, s.responseCache c.key = some entry ∧ g.answer = entry.answer ∧ g.now ≤ entry.expiresAt := by
    refine ⟨more ++ [last], by simp [grown], ?_⟩
    intro g mem own
    rcases List.mem_append.mp mem with mem | mem
    · exact all g mem own
    · obtain rfl := List.mem_singleton.mp mem
      exact absurd own foreign
  obtain ⟨same, -⟩ | ⟨set, -⟩ := setCache_cases (t.give ⟨key, answer, now, none⟩) key answer now ttlMs
  · rw [same] at inv ⊢
    exact ⟨inv, h.fetch, h.cache, given⟩
  · rw [set] at inv ⊢
    refine ⟨inv, h.fetch, ?_, given⟩
    simpa [State.give, Function.update_of_ne (Ne.symm foreign)] using h.cache

theorem Blocked.onFetch (h : Blocked c i f s t) (kept : c.Kept) (own : f.call.key = c.key) {j : ℕ} {g : Fetch D}
    (found : t.fetches j = some g) (other : j ≠ i) {a : Act D} (about : a.about = some j) :
    Blocked c i f s (t.onFetch g a) := by
  have inv := h.inv.onFetch kept found about
  have setPhase (phase : Phase D) : (t.setPhase j g phase).fetches i = some f := by
    simpa [State.setPhase, Function.update_of_ne (Ne.symm other)] using h.fetch
  cases a with
  | request | setAuthToken | change => cases about
  | serve k data =>
    cases about
    unfold State.onFetch at inv ⊢
    cases phase : g.phase with
    | asked =>
      simp only [phase] at inv ⊢
      exact ⟨inv, setPhase _, h.cache, h.given⟩
    | answered | arriving => exact h
  | headers k =>
    cases about
    unfold State.onFetch at inv ⊢
    cases phase : g.phase with
    | answered reply =>
      simp only [phase] at inv ⊢
      exact ⟨inv, setPhase _, h.cache, h.given⟩
    | asked | arriving => exact h
  | body k now parses =>
    cases about
    unfold State.onFetch
    cases phase : g.phase with
    | arriving reply =>
      simp only [State.settle]
      split
      · rename_i answer
        have set := h.other (h.foreign own found other) answer now g.call.config.cacheTtlMs
        apply set.finish kept _ other
        obtain ⟨same, -⟩ | ⟨set, -⟩ := setCache_cases (t.give ⟨g.call.key, answer, now, none⟩) g.call.key answer now
          g.call.config.cacheTtlMs
        · rw [same]
          exact found
        · rw [set]
          exact found
      · exact h.finish kept found other
    | asked | answered => exact h
  | timeout k =>
    cases about
    unfold State.onFetch
    cases phase : g.phase with
    | asked | answered => exact h.finish kept found other
    | arriving => exact h
  | fails k =>
    cases about
    exact h.finish kept found other

theorem Blocked.step (h : Blocked c i f s t) (kept : c.Kept) (own : f.call.key = c.key)
    (phase : f.phase = .arriving reply) (truthy : D → Bool) {a : Act D}
    (stalls : a ≠ .fails i ∧ ∀ now parses, a ≠ .body i now parses) : Blocked c i f s (step truthy t a) := by
  have fetch (j : ℕ) (about : a.about = some j) (this : j = i → t.onFetch f a = t) :
      Blocked c i f s (Kiosk.ApiClient.step truthy t a) := by
    rw [step_about truthy t about]
    by_cases same : j = i
    · rw [same, h.fetch, Option.elim_some, this same]
      exact h
    · cases found : t.fetches j with
      | none => exact h
      | some g => exact h.onFetch kept own found same about
  cases a with
  | request c' now => exact h.request kept truthy c' now
  | setAuthToken => exact ⟨h.inv.step kept truthy (.setAuthToken _), h.fetch, h.cache, h.given⟩
  | change => exact ⟨h.inv.step kept truthy .change, h.fetch, h.cache, h.given⟩
  | serve j | headers j | timeout j => exact fetch j rfl fun _ => by simp [State.onFetch, phase]
  | body j now parses => exact fetch j rfl fun same => absurd (same ▸ rfl) (stalls.2 now parses)
  | fails j => exact fetch j rfl fun same => absurd (same ▸ rfl) stalls.1

end

/-- The time limit of a request is over with its headers: if its body does not come, then no request of the key is made
any more, and callers are given what was kept before, while it has not expired, or nothing. -/
theorem stalled_for_good (truthy : D → Bool) (acts later : List (Act D)) {c : Call} (kept : c.Kept) {i : ℕ}
    {f : Fetch D} {reply : Reply D} (found : (Runs.run (step truthy) {} acts).fetches i = some f)
    (own : f.call.key = c.key) (phase : f.phase = .arriving reply)
    (stalls : ∀ a ∈ later, a ≠ .fails i ∧ ∀ now parses, a ≠ .body i now parses) :
    let s := Runs.run (step truthy) {} acts
    let t := Runs.run (step truthy) s later
    (∀ j g, t.fetches j = some g → g.call.key = c.key → j = i ∧ g = f) ∧
    ∃ more, t.given = s.given ++ more ∧ ∀ g ∈ more, g.key = c.key →
      ∃ entry, s.responseCache c.key = some entry ∧ g.answer = entry.answer ∧ g.now ≤ entry.expiresAt := by
  intro s t
  have blocked : Blocked c i f s t := by
    induction later using List.reverseRecOn with
    | nil => exact ⟨inv_run kept truthy acts, found, .inr rfl, [], by simp [t], by simp⟩
    | append_singleton later a ih =>
      simp only [t, Runs.run_concat]
      apply (ih fun b mem => stalls b (List.mem_append_left _ mem)).step kept own phase truthy
      exact stalls a (List.mem_append_right _ List.mem_cons_self)
  refine ⟨?_, blocked.given⟩
  intro j g found' own'
  have same : j = i := by
    by_contra other
    exact blocked.foreign own found' other own'
  subst same
  rw [blocked.fetch] at found'
  exact ⟨rfl, (Option.some.inj found').symm⟩

theorem menu_stalled : let s := Runs.run (step fun data => data != "") {} menuChanges
    let t := Runs.run (step fun data => data != "") s [.request .getMenuCatalog 90000, .timeout 1]
    ∀ j g, t.fetches j = some g → g.call.key = Call.getMenuCatalog.key → j = 1 := by
  intro s t j g found own
  have stalls : s.fetches 1 = some ⟨.getMenuCatalog, none, .arriving (.ok ⟨"dinner", 1⟩)⟩ := rfl
  exact ((stalled_for_good _ menuChanges [.request .getMenuCatalog 90000, .timeout 1]
    Call.kept_getMenuCatalog stalls rfl rfl (by simp)).1 j g found own).1

end Kiosk.ApiClient
