import AstraSystem.Lib.Assoc
import AstraSystem.Lib.Collation
import AstraSystem.Lib.JsonText

/-!
# The update server (`manifest.go`)

The manifest of an update is signed over a canonical text of it, and sent with the signature.
-/

namespace UpdateServer

open Assoc (Map)

/-- An `int` that a JavaScript number represents exactly. -/
structure SafeInt where
  val : Int64
  exact : -2 ^ 53 ≤ val.toInt ∧ val.toInt ≤ 2 ^ 53

/-- `platforms` is nil where a catalog leaves it out. -/
structure Artifact where
  url : String
  checksum : String
  platforms : Option (List String)
  deriving DecidableEq, Repr

structure Rollout where
  strategy : String
  maxConcurrent : SafeInt
  healthCheckSeconds : SafeInt

/-- `artifacts` is nil for an empty catalog. -/
structure Manifest where
  version : String
  channel : String
  releasedAt : String
  artifacts : Option (Map String Artifact)
  rollout : Rollout

structure SignedManifest extends Manifest where
  signature : String

/-! ## `json.Marshal` -/

/-- `encoding/json` writes these by number besides the control characters, so that a text may stand in HTML. -/
def htmlCharacters : List Char := [Char.ofNat 60, Char.ofNat 62, Char.ofNat 38, Char.ofNat 8232, Char.ofNat 8233]

def marshalByNumber (c : Char) : Bool := c.toNat < 32 || c ∈ htmlCharacters

theorem short_marshal : Json.Short marshalByNumber := by
  intro c h
  have small : ∀ d ∈ htmlCharacters, d.toNat < 65536 := by simp [htmlCharacters]
  simp only [marshalByNumber, Bool.or_eq_true, decide_eq_true_eq] at h
  obtain control | html := h
  · omega
  · exact small c html

def marshal (doc : Json) : String := String.ofList (doc.write marshalByNumber)

def SafeInt.doc (n : SafeInt) : Json := .number (Decimal.format n.val.toInt)

def stringsDoc (strings : List String) : Json := .array (strings.map .string)

def Artifact.doc (a : Artifact) : Json :=
  .object [("url", .string a.url), ("checksum", .string a.checksum), ("platforms", (a.platforms.map stringsDoc).getD .null)]

/-- Keys are written in the order of their bytes. -/
def artifactsDoc (artifacts : Map String Artifact) : Json :=
  .object ((Collation.sortBytes artifacts.keys).filterMap fun name => (artifacts.lookup name).map fun a => (name, a.doc))

def Rollout.doc (r : Rollout) : Json :=
  .object [("strategy", .string r.strategy), ("maxConcurrent", r.maxConcurrent.doc),
    ("healthCheckSeconds", r.healthCheckSeconds.doc)]

def Manifest.fields (m : Manifest) : Json.Fields :=
  [("version", .string m.version), ("channel", .string m.channel), ("releasedAt", .string m.releasedAt),
    ("artifacts", (m.artifacts.map artifactsDoc).getD .null), ("rollout", m.rollout.doc)]

/-! ## Signing -/

/-- An artifact as it is signed: its platforms are in order, and a nil list becomes an empty one. -/
def Artifact.sorted (a : Artifact) : Artifact :=
  { a with platforms := some (Collation.sortBytes (a.platforms.getD [])) }

/-- The loop of `canonicalBytes`. -/
def sortArtifacts (artifacts : Map String Artifact) : Map String Artifact :=
  (Collation.sortBytes artifacts.keys).foldl (fun sorted name =>
    let art := (artifacts.lookup name).getD ⟨"", "", none⟩
    sorted.insert name art.sorted) ∅

def canonical (m : Manifest) : Manifest := { m with artifacts := some (sortArtifacts (m.artifacts.getD ∅)) }

def canonicalBytes (m : Manifest) : List UInt8 := Bytes.utf8 (marshal (.object (canonical m).fields))

/-- `Generate`, with the encoding of `base64.StdEncoding` and the signature of `ed25519.Sign`. -/
def generate (sign : List UInt8 → List UInt8) (m : Manifest) : SignedManifest :=
  { m with signature := String.ofList (Json.base64 (sign (canonicalBytes m))) }

/-! ## The canonical artifacts -/

section
variable {artifacts : Map String Artifact} {name : String}

theorem lookup_sortArtifacts (artifacts : Map String Artifact) (name : String) :
    (sortArtifacts artifacts).lookup name = (artifacts.lookup name).map Artifact.sorted := by
  have step : ∀ (sorted : Map String Artifact) (n k : String),
      (sorted.insert n ((artifacts.lookup n).getD ⟨"", "", none⟩).sorted).lookup k =
        if k = n then some ((artifacts.lookup n).getD ⟨"", "", none⟩).sorted else sorted.lookup k := by
    intro sorted n k
    split
    · rename_i same
      rw [same, AList.lookup_insert]
    · rename_i other
      exact AList.lookup_insert_ne other
  have seen : (sortArtifacts artifacts).lookup name =
      ((Collation.sortBytes artifacts.keys).filter fun n => n = name).foldl
        (fun _ n => some ((artifacts.lookup n).getD ⟨"", "", none⟩).sorted) none :=
    (Assoc.lookup_foldl_list step ∅ (Collation.sortBytes artifacts.keys) name)
  rw [seen, List.filter_eq]
  cases found : artifacts.lookup name with
  | none =>
    have absent : name ∉ Collation.sortBytes artifacts.keys := fun mem =>
      AList.lookup_eq_none.mp found (AList.mem_keys.mpr (Collation.mem_sortBy.mp mem))
    rw [List.count_eq_zero_of_not_mem absent]
    rfl
  | some art =>
    have present : name ∈ Collation.sortBytes artifacts.keys :=
      Collation.mem_sortBy.mpr (AList.mem_keys.mp (AList.lookup_isSome.mp (found ▸ rfl)))
    have nodup : (Collation.sortBytes artifacts.keys).Nodup :=
      (Collation.perm_sortBy _ _).nodup_iff.mpr artifacts.keys_nodup
    rw [List.count_eq_one_of_mem nodup present]
    simp [found]

theorem mem_keys_sortArtifacts : name ∈ (sortArtifacts artifacts).keys ↔ name ∈ artifacts.keys := by
  rw [← AList.mem_keys, ← AList.mem_keys, ← AList.lookup_isSome, ← AList.lookup_isSome, lookup_sortArtifacts,
    Option.isSome_map]

/-- Signing writes the names in the same order. -/
theorem sortBytes_sortArtifacts (artifacts : Map String Artifact) :
    Collation.sortBytes (sortArtifacts artifacts).keys = Collation.sortBytes artifacts.keys :=
  Collation.sortBy_perm Collation.bytes_injective
    ((List.perm_ext_iff_of_nodup (AList.keys_nodup _) (AList.keys_nodup _)).mpr fun _ => mem_keys_sortArtifacts)

end

end UpdateServer
