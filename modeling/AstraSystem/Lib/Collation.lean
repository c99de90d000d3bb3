import AstraSystem.Lib.Bytes
import Mathlib.Data.List.Lex
import Mathlib.Data.List.Sort

/-!
# Orders of texts

Texts are ordered by the bytes of UTF-8 or by the code units of UTF-16. The orders differ where a character beyond the
first plane meets one of its last 8192 code points.
-/

namespace Collation

/-! ## Sorting by a key -/

section
variable {A K : Type*} [LinearOrder K]

def sortBy (key : A → K) (l : List A) : List A := l.insertionSort fun a b => key a ≤ key b

variable {key : A → K} {l l' : List A}

theorem perm_sortBy (key : A → K) (l : List A) : (sortBy key l).Perm l := List.perm_insertionSort _ l

@[simp] theorem mem_sortBy {a : A} : a ∈ sortBy key l ↔ a ∈ l := (perm_sortBy key l).mem_iff

theorem sorted_sortBy (key : A → K) (l : List A) : (sortBy key l).Pairwise fun a b => key a ≤ key b := by
  have total : Std.Total fun a b => key a ≤ key b := ⟨fun a b => le_total (key a) (key b)⟩
  have trans : IsTrans A fun a b => key a ≤ key b := ⟨fun _ _ _ => le_trans⟩
  exact List.pairwise_insertionSort _ l

/-- Under an injective key the order of what is sorted does not matter. -/
theorem sortBy_perm (injective : Function.Injective key) (h : l.Perm l') : sortBy key l = sortBy key l' := by
  have perm : (sortBy key l).Perm (sortBy key l') := (perm_sortBy key l).trans (h.trans (perm_sortBy key l').symm)
  exact perm.eq_of_pairwise (fun a b _ _ ab ba => injective (le_antisymm ab ba)) (sorted_sortBy key l)
    (sorted_sortBy key l')

/-- What a query that is ordered by a key returns of its rows: those that tie come in any order. -/
def Returns (key : A → K) (l rows : List A) : Prop := rows.Perm l ∧ rows.Pairwise fun a b => key a ≤ key b

theorem returns_sortBy (key : A → K) (l : List A) : Returns key l (sortBy key l) :=
  ⟨perm_sortBy key l, sorted_sortBy key l⟩

theorem Returns.filter {rows : List A} (h : Returns key l rows) (p : A → Bool) :
    Returns key (l.filter p) (rows.filter p) := ⟨h.1.filter p, h.2.filter p⟩

theorem Returns.of_perm {rows : List A} (h : Returns key l rows) (perm : l.Perm l') : Returns key l' rows :=
  ⟨h.1.trans perm, h.2⟩

/-- Where nothing ties, nothing is left open. -/
theorem Returns.unique {rows rows' : List A} (h : Returns key l rows) (h' : Returns key l rows')
    (apart : ∀ a ∈ l, ∀ b ∈ l, key a = key b → a = b) : rows = rows' :=
  (h.1.trans h'.1.symm).eq_of_pairwise
    (fun a b ha hb ab ba => apart a (h.1.mem_iff.mp ha) b (h'.1.mem_iff.mp hb) (le_antisymm ab ba)) h.2 h'.2

end

/-! ## UTF-8 -/

def bytes (s : String) : List ℕ := (Bytes.utf8 s).map UInt8.toNat

theorem bytes_injective : Function.Injective bytes := fun _ _ h =>
  Bytes.utf8_inj.mp (List.map_injective_iff.mpr (fun _ _ => UInt8.toNat_inj.mp) h)

/-! ## UTF-16 -/

/-- A character beyond the first plane is a pair of surrogates. -/
def units (c : Char) : List ℕ :=
  if c.toNat < 65536 then [c.toNat]
  else [55296 + (c.toNat - 65536) / 1024, 56320 + (c.toNat - 65536) % 1024]

def codeUnits (s : String) : List ℕ := s.toList.flatMap units

theorem not_surrogate (c : Char) : c.toNat < 55296 ∨ 57343 < c.toNat ∧ c.toNat < 1114112 := by
  have valid := c.valid
  unfold UInt32.isValidChar Nat.isValidChar at valid
  have same : c.val.toNat = c.toNat := rfl
  omega

theorem units_ne_nil (c : Char) : units c ≠ [] := by
  unfold units
  split <;> exact List.cons_ne_nil _ _

theorem units_inj {c d : Char} {x y : List ℕ} (h : units c ++ x = units d ++ y) : c = d ∧ x = y := by
  have hc := not_surrogate c
  have hd := not_surrogate d
  unfold units at h
  split at h <;> split at h <;>
    simp only [List.cons_append, List.nil_append, List.cons.injEq] at h
  · exact ⟨Char.toNat_inj.mp h.1, h.2⟩
  · omega
  · omega
  · obtain ⟨high, low, rest⟩ := h
    exact ⟨Char.toNat_inj.mp (by omega), rest⟩

theorem codeUnits_injective : Function.Injective codeUnits := by
  intro s t h
  have chars (cs ds : List Char) (h : cs.flatMap units = ds.flatMap units) : cs = ds := by
    induction cs generalizing ds with
    | nil =>
      cases ds with
      | nil => rfl
      | cons d ds =>
        rw [List.flatMap_nil, List.flatMap_cons] at h
        exact absurd (List.append_eq_nil_iff.mp h.symm).1 (units_ne_nil d)
    | cons c cs ih =>
      cases ds with
      | nil =>
        rw [List.flatMap_nil, List.flatMap_cons] at h
        exact absurd (List.append_eq_nil_iff.mp h).1 (units_ne_nil c)
      | cons d ds =>
        rw [List.flatMap_cons, List.flatMap_cons] at h
        obtain ⟨rfl, rest⟩ := units_inj h
        rw [ih ds rest]
  exact String.toList_inj.mp (chars _ _ h)

/-- `sort.Strings`. -/
def sortBytes (l : List String) : List String := sortBy bytes l

/-- `Array.prototype.sort`. -/
def sortUnits (l : List String) : List String := sortBy codeUnits l

example : sortBytes ["b", "10", "9", "A"] = ["10", "9", "A", "b"] ∧
    sortUnits [String.ofList [Char.ofNat 65374], String.ofList [Char.ofNat 128512]] =
      [String.ofList [Char.ofNat 128512], String.ofList [Char.ofNat 65374]] := by decide

end Collation
