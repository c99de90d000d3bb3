import Mathlib.Algebra.Ring.Int.Defs
import AstraSystem.Lib.Bytes
import AstraSystem.Lib.Decimal

/-!
# JSON documents

The documents themselves, not their texts, and how structures are written to objects and read from
them: fields that have their zero value are left out, and a field that is not there is zero.
-/

inductive Json where
  | null
  | bool (b : Bool)
  | number (literal : String)
  | string (s : String)
  | array (xs : List Json)
  | object (fields : List (String × Json))

namespace Json

abbrev Fields := List (String × Json)

/-! ## Documents as a database takes them -/

mutual

/-- How deep arrays and objects are nested. -/
def depth : Json → ℕ
  | .array xs => depths xs + 1
  | .object fields => depthsOfFields fields + 1
  | .null | .bool _ | .number _ | .string _ => 0

def depths : List Json → ℕ
  | [] => 0
  | x :: xs => max (depth x) (depths xs)

def depthsOfFields : List (String × Json) → ℕ
  | [] => 0
  | (_, x) :: fields => max (depth x) (depthsOfFields fields)

end

mutual

/-- Every string of the document, the names of fields included, meets `p`. -/
def allStrings (p : String → Bool) : Json → Bool
  | .string s => p s
  | .array xs => allStringsIn p xs
  | .object fields => allStringsOf p fields
  | .null | .bool _ | .number _ => true

def allStringsIn (p : String → Bool) : List Json → Bool
  | [] => true
  | x :: xs => allStrings p x && allStringsIn p xs

def allStringsOf (p : String → Bool) : List (String × Json) → Bool
  | [] => true
  | (name, x) :: fields => p name && allStrings p x && allStringsOf p fields

end

theorem allStringsIn_iff {p : String → Bool} {xs : List Json} :
    allStringsIn p xs ↔ ∀ x ∈ xs, allStrings p x := by
  induction xs with
  | nil => simp [allStringsIn]
  | cons x xs ih => rw [allStringsIn, Bool.and_eq_true, ih, List.forall_mem_cons]

theorem allStringsOf_iff {p : String → Bool} {fields : List (String × Json)} :
    allStringsOf p fields ↔ ∀ f ∈ fields, p f.1 ∧ allStrings p f.2 := by
  induction fields with
  | nil => simp [allStringsOf]
  | cons f fields ih => rw [allStringsOf, Bool.and_eq_true, Bool.and_eq_true, ih, List.forall_mem_cons]

/-! ## Writing -/

def text (name s : String) : Fields := if s = "" then [] else [(name, .string s)]

def int (name : String) (n : ℤ) : Fields := if n = 0 then [] else [(name, .number (Decimal.format n))]

def texts (name : String) (m : List (String × String)) : Fields :=
  if m = [] then [] else [(name, .object (m.map fun e => (e.1, .string e.2)))]

/-- The digits of base 64. -/
def digit64 (n : ℕ) : Char :=
  if n < 26 then Char.ofNat (65 + n)
  else if n < 52 then Char.ofNat (71 + n)
  else if n < 62 then Char.ofNat (n - 4)
  else if n = 62 then '+' else '/'

/-- Four digits for three bytes, padded at the end. -/
def base64 : List UInt8 → List Char
  | a :: b :: c :: rest =>
    let n := 65536 * a.toNat + 256 * b.toNat + c.toNat
    digit64 (n / 262144) :: digit64 (n / 4096 % 64) :: digit64 (n / 64 % 64) :: digit64 (n % 64) ::
      base64 rest
  | [a, b] =>
    let n := 65536 * a.toNat + 256 * b.toNat
    [digit64 (n / 262144), digit64 (n / 4096 % 64), digit64 (n / 64 % 64), '=']
  | [a] =>
    let n := 65536 * a.toNat
    [digit64 (n / 262144), digit64 (n / 4096 % 64), '=', '=']
  | [] => []

def bytes (name : String) (b : List UInt8) : Fields :=
  if b = [] then [] else [(name, .string (String.ofList (base64 b)))]

example : base64 (Bytes.utf8 "coffee!") = "Y29mZmVlIQ==".toList := by decide

/-! ## Reading -/

/-- The last of the fields with a name. -/
def field? (fields : Fields) (name : String) : Option Json :=
  (fields.reverse.find? fun f => f.1 = name).map Prod.snd

def readString (what : String) : Option Json → Except String String
  | none | some .null => .ok ""
  | some (.string s) => .ok s
  | some _ => .error ("json: cannot unmarshal into Go struct field " ++ what ++ " of type string")

def readInt64 (what : String) : Option Json → Except String Int64
  | none | some .null => .ok 0
  | some (.number literal) =>
    match Decimal.parse literal with
    | some n => if -2 ^ 63 ≤ n ∧ n < 2 ^ 63 then .ok (.ofInt n)
      else .error ("json: cannot unmarshal number into Go struct field " ++ what ++ " of type int64")
    | none => .error ("json: cannot unmarshal number into Go struct field " ++ what ++ " of type int64")
  | some _ => .error ("json: cannot unmarshal into Go struct field " ++ what ++ " of type int64")

section
variable {fields fields' : Fields} {name : String}

theorem field?_eq_none (h : ∀ f ∈ fields, f.1 ≠ name) : field? fields name = none := by
  rw [field?, Option.map_eq_none_iff, List.find?_eq_none]
  intro f hf
  simpa using h f (List.mem_reverse.mp hf)

theorem name_of_mem_text {n s : String} {f : String × Json} (h : f ∈ text n s) : f.1 = n := by
  unfold text at h
  split at h
  · cases h
  · rw [List.mem_singleton.mp h]

theorem name_of_mem_int {n : String} {i : ℤ} {f : String × Json} (h : f ∈ int n i) : f.1 = n := by
  unfold int at h
  split at h
  · cases h
  · rw [List.mem_singleton.mp h]

theorem name_of_mem_texts {n : String} {m : List (String × String)} {f : String × Json}
    (h : f ∈ texts n m) : f.1 = n := by
  unfold texts at h
  split at h
  · cases h
  · rw [List.mem_singleton.mp h]

theorem name_of_mem_bytes {n : String} {b : List UInt8} {f : String × Json} (h : f ∈ bytes n b) :
    f.1 = n := by
  unfold bytes at h
  split at h
  · cases h
  · rw [List.mem_singleton.mp h]

end

end Json
