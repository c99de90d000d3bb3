import AstraSystem.Lib.Collation
import AstraSystem.Lib.Decimal
import Mathlib.Data.List.Induction

/-!
# Objects of JavaScript

Properties are listed with array indices first, by number, and then the others as they were added. An assignment to
`__proto__` adds none.
-/

namespace JsObject

/-- The number that a name stands for if it is an array index. -/
def arrayIndex? (name : String) : Option ℕ :=
  (Decimal.parseDigits name.toList).filter fun n => Decimal.format n = name ∧ n < 4294967295

/-- The order in which names that were added in this order are listed. -/
def ownKeys (names : List String) : List String :=
  Collation.sortBy (fun name => (arrayIndex? name).getD 0) (names.filter fun name => (arrayIndex? name).isSome) ++
    names.filter fun name => (arrayIndex? name).isNone

/-- The properties of an object as they were added, none of a name twice. -/
abbrev Object (V : Type*) := List (String × V)

variable {V : Type*}

def names (obj : Object V) : List String := obj.map Prod.fst

def get? (obj : Object V) (name : String) : Option V := (obj.find? fun p => p.1 = name).map Prod.snd

/-- `Object.keys`. -/
def keys (obj : Object V) : List String := ownKeys (names obj)

/-- `obj[name] = v`. -/
def set (obj : Object V) (name : String) (v : V) : Object V :=
  if name = "__proto__" then obj
  else if name ∈ names obj then obj.map fun p => if p.1 = name then (name, v) else p
  else obj ++ [(name, v)]

/-- The properties in the order in which they are listed. -/
def entries (obj : Object V) : List (String × V) :=
  (keys obj).filterMap fun name => (get? obj name).map fun v => (name, v)

section
variable {ns : List String} {f : String → V}

theorem perm_ownKeys (ns : List String) : (ownKeys ns).Perm ns := by
  have split := List.filter_append_perm (fun n => (arrayIndex? n).isSome) ns
  simp only [Option.not_isSome] at split
  exact ((Collation.perm_sortBy _ _).append_right _).trans split

theorem get?_map (f : String → V) (ns : List String) (name : String) :
    get? (ns.map fun n => (n, f n)) name = if name ∈ ns then some (f name) else none := by
  induction ns with
  | nil => rfl
  | cons n ns ih =>
    rw [List.map_cons, get?, List.find?_cons]
    by_cases same : n = name
    · simp [same]
    · have other : name ≠ n := Ne.symm same
      simp only [same, decide_false, List.mem_cons, other, false_or]
      exact ih

/-- A new name is added at the end. -/
theorem set_new {obj : Object V} {name : String} (h : name ∉ names obj) (v : V) :
    set obj name v = obj ++ if name = "__proto__" then [] else [(name, v)] := by
  unfold set
  rw [if_neg h]
  split
  · exact (List.append_nil obj).symm
  · rfl

/-- Assignments of new names add them in order. -/
theorem foldl_set (f : String → V) (nodup : ns.Nodup) :
    ns.foldl (fun obj n => set obj n (f n)) ([] : Object V) =
      (ns.filter fun n => n ≠ "__proto__").map fun n => (n, f n) := by
  induction ns using List.reverseRecOn with
  | nil => rfl
  | append_singleton ns n ih =>
    obtain ⟨nodup, -, apart⟩ := List.nodup_append.mp nodup
    have new : n ∉ names ((ns.filter fun n => n ≠ "__proto__").map fun n => (n, f n)) := by
      intro mem
      simp only [names, List.map_map, List.mem_map, List.mem_filter] at mem
      obtain ⟨m, ⟨mem, -⟩, rfl⟩ := mem
      exact apart m mem m (List.mem_singleton_self m) rfl
    rw [List.foldl_append, ih nodup, List.foldl_cons, List.foldl_nil, set_new new, List.filter_append, List.map_append]
    by_cases proto : n = "__proto__" <;> simp [proto]

theorem entries_map (f : String → V) (ns : List String) :
    entries (ns.map fun n => (n, f n)) = (ownKeys ns).map fun n => (n, f n) := by
  have same : names (ns.map fun n => (n, f n)) = ns := by
    rw [names, List.map_map]
    exact List.map_id ns
  rw [entries, keys, same]
  have each : ∀ n ∈ ownKeys ns,
      ((get? (ns.map fun n => (n, f n)) n).map fun v => (n, v)) = some (n, f n) := fun n hn => by
    rw [get?_map, if_pos ((perm_ownKeys ns).mem_iff.mp hn)]
    rfl
  rw [List.filterMap_congr each, ← List.filterMap_eq_map]
  rfl

end

example : keys [("b", ()), ("10", ()), ("2", ()), ("a", ())] = ["2", "10", "b", "a"] := by decide

end JsObject
