import AstraSystem.SyncDaemon.Crdt.LwwElementSet

/-!
# Equality of element sets (`crdt/mod.rs`)

`eq` compares the vectors that iterating over two hash maps yields. The order of
an iteration is any order of the entries, so the answer is about the orders as
soon as there are two entries to put into them.
-/

namespace SyncDaemon.Crdt

variable {K V : Type}

/-- An order in which the map of a set may be iterated. -/
abbrev Iteration (K V : Type) := List (Sigma fun _ : K => ElementEntry V)

namespace LwwElementSet

/-- The iteration goes over the entries of the set. -/
def Iterates (self : LwwElementSet K V) (it : Iteration K V) : Prop := it.Perm self.entries.entries

/-- The vector that `entries` collects. -/
def entriesIn (it : Iteration K V) : List (K × V) :=
  (it.filter fun e => !e.2.removed && e.2.value.isSome).filterMap fun e =>
    e.2.value.map fun v => (e.1, v)

/-- `eq`, with the iterations of both sets. -/
def eqIn [DecidableEq K] [DecidableEq V] (it it' : Iteration K V) : Bool :=
  entriesIn it == entriesIn it'

section
variable [DecidableEq K]

/-- The sets that operations and merges lead to. -/
inductive Reachable : LwwElementSet K V → Prop
  | new : Reachable .new
  | add {s : LwwElementSet K V} (key : K) (value : V) (hlc : Hlc) :
      Reachable s → Reachable (s.add key value hlc).1
  | remove {s : LwwElementSet K V} (key : K) (hlc : Hlc) :
      Reachable s → Reachable (s.remove key hlc).1
  | merge {s t : LwwElementSet K V} : Reachable s → Reachable t → Reachable (s.merge t)

variable {s t : LwwElementSet K V} {it it' : Iteration K V}

theorem mem_entriesIn (h : s.Iterates it) {k : K} {v : V} :
    (k, v) ∈ entriesIn it ↔ s.get k = some v := by
  rw [get_eq]
  simp only [entriesIn, List.mem_filterMap, List.mem_filter, Bool.and_eq_true, Bool.not_eq_true',
    Option.map_eq_some_iff, Prod.mk.injEq]
  constructor
  · rintro ⟨⟨k', e⟩, ⟨mem, present, -⟩, v', value, rfl, rfl⟩
    have found := Assoc.mem_entries.mp (h.mem_iff.mp mem)
    rw [found, Option.map_some, Option.join_some, ElementEntry.effect, ← value]
    exact if_neg (Bool.eq_false_iff.mp present)
  · intro shown
    cases found : s.entries.lookup k with
    | none =>
      rw [found] at shown
      cases shown
    | some e =>
      rw [found, Option.map_some, Option.join_some, ElementEntry.effect] at shown
      split at shown
      · cases shown
      · rename_i present
        refine ⟨⟨k, e⟩, ⟨h.mem_iff.mpr (Assoc.mem_entries.mpr found), ?_, ?_⟩, v, shown, rfl, rfl⟩
        · exact Bool.eq_false_iff.mpr present
        · rw [shown]
          rfl

omit [DecidableEq K] in
theorem nodup_entriesIn (h : s.Iterates it) : (entriesIn it).Nodup := by
  have keys : (it.map Sigma.fst).Nodup := (h.map Sigma.fst).nodup_iff.mpr s.entries.nodupKeys
  have sub : ((entriesIn it).map Prod.fst).Sublist (it.map Sigma.fst) := by
    clear h keys
    induction it with
    | nil => exact .slnil
    | cons e it ih =>
      obtain ⟨k, value, hlc, removed⟩ := e
      cases removed with
      | true => simpa [entriesIn] using ih.cons k
      | false =>
        cases value with
        | none => simpa [entriesIn] using ih.cons k
        | some v => simpa [entriesIn] using ih.cons_cons k
  exact List.Nodup.of_map _ (sub.nodup keys)

/-- Sets that answer every read alike list the same entries, in some order. -/
theorem entriesIn_perm (hs : s.Iterates it) (ht : t.Iterates it') (same : ∀ k, s.get k = t.get k) :
    (entriesIn it).Perm (entriesIn it') := by
  refine (List.perm_ext_iff_of_nodup (nodup_entriesIn hs) (nodup_entriesIn ht)).mpr ?_
  rintro ⟨k, v⟩
  rw [mem_entriesIn hs, mem_entriesIn ht, same]

omit [DecidableEq K] in
theorem entriesIn_reverse (it : Iteration K V) :
    entriesIn it.reverse = (entriesIn it).reverse := by
  rw [entriesIn, List.filter_reverse, List.filterMap_reverse, entriesIn]

omit [DecidableEq K] in
/-- The entries of one set, iterated forwards and backwards. -/
theorem exists_iterations (s : LwwElementSet K V) :
    ∃ it, s.Iterates it ∧ s.Iterates it.reverse :=
  ⟨s.entries.entries, .refl _, List.reverse_perm _⟩

/-- The number of keys that can be read. -/
def size (s : LwwElementSet K V) : ℕ := (entriesIn s.entries.entries).length

theorem length_entriesIn (h : s.Iterates it) : (entriesIn it).length = s.size := by
  have perm := entriesIn_perm h (show s.Iterates s.entries.entries from .refl _) fun _ => rfl
  exact perm.length_eq

/-- A list without duplicates that reads the same backwards has at most one element. -/
theorem length_le_one_of_reverse {α : Type} {l : List α} (nodup : l.Nodup) (same : l = l.reverse) :
    l.length ≤ 1 := by
  cases l with
  | nil => exact Nat.zero_le _
  | cons x l =>
    cases l using List.reverseRecOn with
    | nil => exact Nat.le_refl _
    | append_singleton l y =>
      rw [List.reverse_cons, List.reverse_append] at same
      obtain ⟨rfl, -⟩ := List.cons.inj same
      rw [List.nodup_cons] at nodup
      exact absurd (List.mem_append_right l (List.mem_singleton_self x)) nodup.1

/-- **`eq` is extensional exactly on sets of at most one key.** Of two sets that answer every read
alike it says so, whatever orders their maps are iterated in, only when these have no choice. -/
theorem eqIn_iff [DecidableEq V] (same : ∀ k, s.get k = t.get k) :
    (∀ it it', s.Iterates it → t.Iterates it' → eqIn it it' = true) ↔ s.size ≤ 1 := by
  constructor
  · intro equal
    obtain ⟨it, forwards, -⟩ := exists_iterations s
    obtain ⟨it', there, back⟩ := exists_iterations t
    have one : entriesIn it = entriesIn it' := beq_iff_eq.mp (equal _ _ forwards there)
    have other : entriesIn it = (entriesIn it').reverse := by
      rw [← entriesIn_reverse]
      exact beq_iff_eq.mp (equal _ _ forwards back)
    rw [← length_entriesIn forwards, one]
    exact length_le_one_of_reverse (nodup_entriesIn there) (one.symm.trans other)
  · intro small it it' hs ht
    have perm := entriesIn_perm hs ht same
    have length := length_entriesIn hs
    refine beq_iff_eq.mpr ?_
    cases h : entriesIn it with
    | nil =>
      rw [h, List.nil_perm] at perm
      exact perm.symm
    | cons x rest =>
      obtain rfl : rest = [] := by
        rw [h, List.length_cons] at length
        exact List.eq_nil_of_length_eq_zero (by omega)
      rw [h, List.singleton_perm] at perm
      exact perm

end

def oneWay : LwwElementSet String ℕ :=
  ((LwwElementSet.new.add "sku-1" 5 ⟨1700000000000, 0, "k1"⟩).1.add "sku-2" 7
    ⟨1700000000001, 0, "k1"⟩).1

/-- The same writes, in the other order. -/
def otherWay : LwwElementSet String ℕ :=
  ((LwwElementSet.new.add "sku-2" 7 ⟨1700000000001, 0, "k1"⟩).1.add "sku-1" 5
    ⟨1700000000000, 0, "k1"⟩).1

theorem get_oneWay (k : String) : oneWay.get k = otherWay.get k := by
  have one := lookup_add (K := String) (V := ℕ)
  simp only [get_eq, oneWay, otherWay, one, newer, Newest.keep]
  by_cases first : k = "sku-1"
  · subst first
    rfl
  · by_cases last : k = "sku-2"
    · subst last
      rfl
    · simp [first, last]

theorem unequal_orders :
    ¬ ∀ s t : LwwElementSet String ℕ, s.Reachable → t.Reachable → (∀ k, s.get k = t.get k) →
      ∀ it it', s.Iterates it → t.Iterates it' → eqIn it it' = true := by
  intro h
  have equal := h oneWay otherWay (.add _ _ _ (.add _ _ _ .new)) (.add _ _ _ (.add _ _ _ .new))
    get_oneWay _ _ (.refl _) (.refl _)
  exact absurd equal (by decide)

/-- One key, whose count two kiosks have set. -/
def firstWay : LwwElementSet String ℕ := (LwwElementSet.new.add "sku-1" 5 ⟨1700000000000, 0, "k1"⟩).1

def secondWay : LwwElementSet String ℕ := (LwwElementSet.new.add "sku-1" 5 ⟨1700000000000, 0, "k2"⟩).1

theorem eqIn_one_key : (∀ k, firstWay.get k = secondWay.get k) ∧
    ∀ it it', firstWay.Iterates it → secondWay.Iterates it' → eqIn it it' = true := by
  have alike : ∀ k, firstWay.get k = secondWay.get k := by
    intro k
    rw [firstWay, secondWay, get_eq, get_eq, lookup_add, lookup_add]
    by_cases h : k = "sku-1"
    · subst h
      rfl
    · simp [h]
  exact ⟨alike, (eqIn_iff alike).mpr (by decide)⟩

end LwwElementSet

end SyncDaemon.Crdt
