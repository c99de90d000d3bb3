import Mathlib.Data.List.Sort
import Mathlib.Data.String.Basic
import AstraSystem.Lib.Json

/-!
# Documents but for their numbers and the order of their fields

What reads a document and writes it again may spell its numbers otherwise and put its fields in another order.
-/

namespace Json

def sortFields (fields : Fields) : Fields := fields.insertionSort fun a b => a.1 ≤ b.1

mutual

/-- The document with its fields sorted and all numbers the same. -/
def outline : Json → Json
  | .number _ => .number "0"
  | .array xs => .array (outlines xs)
  | .object fields => .object (sortFields (outlinesOf fields))
  | .null => .null
  | .bool b => .bool b
  | .string s => .string s

def outlines : List Json → List Json
  | [] => []
  | x :: xs => outline x :: outlines xs

def outlinesOf : List (String × Json) → List (String × Json)
  | [] => []
  | (name, x) :: fields => (name, outline x) :: outlinesOf fields

end

mutual

/-- No object has two fields of one name. -/
def Distinct : Json → Prop
  | .array xs => DistinctIn xs
  | .object fields => (fields.map Prod.fst).Nodup ∧ DistinctOf fields
  | .null | .bool _ | .number _ | .string _ => True

def DistinctIn : List Json → Prop
  | [] => True
  | x :: xs => Distinct x ∧ DistinctIn xs

def DistinctOf : List (String × Json) → Prop
  | [] => True
  | (_, x) :: fields => Distinct x ∧ DistinctOf fields

end

theorem distinctOf_iff {fields : Fields} : DistinctOf fields ↔ ∀ f ∈ fields, Distinct f.2 := by
  induction fields with
  | nil => simp [DistinctOf]
  | cons f fields ih => rw [DistinctOf, ih, List.forall_mem_cons]

theorem depthsOfFields_perm {fields fields' : Fields} (h : fields.Perm fields') :
    depthsOfFields fields = depthsOfFields fields' := by
  induction h with
  | nil => rfl
  | cons f _ ih => rw [depthsOfFields, depthsOfFields, ih]
  | swap f g fields => simp only [depthsOfFields, Nat.max_left_comm]
  | trans _ _ ih ih' => exact ih.trans ih'

mutual

theorem depth_outline : ∀ doc : Json, doc.outline.depth = doc.depth
  | .null | .bool _ | .number _ | .string _ => rfl
  | .array xs => by rw [outline, depth, depth, depths_outlines xs]
  | .object fields => by
    rw [outline, depth, depth, sortFields, depthsOfFields_perm (List.perm_insertionSort _ _), depths_outlinesOf fields]

theorem depths_outlines : ∀ xs : List Json, depths (outlines xs) = depths xs
  | [] => rfl
  | x :: xs => by rw [outlines, depths, depths, depth_outline x, depths_outlines xs]

theorem depths_outlinesOf : ∀ fields : Fields, depthsOfFields (outlinesOf fields) = depthsOfFields fields
  | [] => rfl
  | (_, x) :: fields => by
    rw [outlinesOf, depthsOfFields, depthsOfFields, depth_outline x, depths_outlinesOf fields]

end

/-- Documents of one outline are equally deep. -/
theorem depth_eq_of_outline {x y : Json} (same : x.outline = y.outline) : x.depth = y.depth := by
  rw [← depth_outline x, same, depth_outline]

theorem depth_le_of_mem {fields : Fields} {f : String × Json} (mem : f ∈ fields) :
    f.2.depth ≤ depthsOfFields fields := by
  induction fields with
  | nil => cases mem
  | cons g fields ih =>
    rw [depthsOfFields]
    rcases List.mem_cons.mp mem with rfl | mem
    · exact Nat.le_max_left _ _
    · exact (ih mem).trans (Nat.le_max_right _ _)

end Json
