import AstraSystem.Lib.JsObject
import AstraSystem.Lib.JsonText

/-!
# Manifests and artifacts of updates (`types.ts`, `crypto.ts`)

A manifest is verified over a canonical text of it, an artifact by its checksum. The cryptography and `atob` are
parameters.
-/

namespace Kiosk.Updater

/-- `platforms` is null where the manifest says so. -/
structure Artifact where
  url : String
  checksum : String
  platforms : Option (List String)
  deriving DecidableEq, Repr

structure Rollout where
  strategy : String
  maxConcurrent : ℤ
  healthCheckSeconds : ℤ
  deriving DecidableEq, Repr

/-- `artifacts` may be null, and a manifest may have no `rollout`. -/
structure Manifest where
  version : String
  channel : String
  releasedAt : String
  artifacts : Option (JsObject.Object Artifact)
  rollout : Option Rollout
  signature : String
  deriving DecidableEq, Repr

abbrev Blob := List UInt8

/-- `verify` is false also where it throws. -/
structure Crypto where
  atob : String → Option (List UInt8)
  verify : List UInt8 → List UInt8 → List UInt8 → Bool
  sha256 : List UInt8 → List UInt8

/-! ## The canonical text -/

/-- `JSON.stringify` writes control characters by number. -/
def stringifyByNumber (c : Char) : Bool := c.toNat < 32

def stringify (doc : Json) : String := String.ofList (doc.write stringifyByNumber)

def Artifact.doc (a : Artifact) : Json :=
  .object [("url", .string a.url), ("checksum", .string a.checksum),
    ("platforms", (a.platforms.map fun platforms => .array (platforms.map .string)).getD .null)]

def Rollout.doc (r : Rollout) : Json :=
  .object [("strategy", .string r.strategy), ("maxConcurrent", .number (Decimal.format r.maxConcurrent)),
    ("healthCheckSeconds", .number (Decimal.format r.healthCheckSeconds))]

def artifactsDoc (artifacts : JsObject.Object Artifact) : Json :=
  .object ((JsObject.entries artifacts).map fun p => (p.1, p.2.doc))

/-- The body of the loop: null platforms cannot be spread. -/
def sortArtifact (artifacts sorted : JsObject.Object Artifact) (name : String) : Option (JsObject.Object Artifact) :=
  match JsObject.get? artifacts name with
  | none => some sorted
  | some a => a.platforms.map fun platforms =>
    JsObject.set sorted name { a with platforms := some (Collation.sortUnits platforms) }

/-- Nothing if it throws. -/
def canonicalizeManifest (m : Manifest) : Option String :=
  m.artifacts.bind fun artifacts =>
    ((Collation.sortUnits (JsObject.keys artifacts)).foldlM (sortArtifact artifacts) []).map fun sorted =>
      stringify (.object ([("version", .string m.version), ("channel", .string m.channel),
        ("releasedAt", .string m.releasedAt), ("artifacts", artifactsDoc sorted)] ++
          m.rollout.toList.map fun rollout => ("rollout", rollout.doc)))

def verifyManifestSignature (crypto : Crypto) (m : Manifest) (publicKey : List UInt8) : Bool :=
  match canonicalizeManifest m, crypto.atob m.signature with
  | some canonical, some signature => crypto.verify signature (Bytes.utf8 canonical) publicKey
  | _, _ => false

/-! ## Checksums -/

def hexDigitValue (unit : ℕ) : Option ℕ :=
  if unit < 128 then Bytes.hexValue (Char.ofNat unit) else none

/-- What `parseInt` skips. -/
def whitespace (unit : ℕ) : Bool :=
  unit ∈ [9, 10, 11, 12, 13, 32, 160, 5760, 8232, 8233, 8239, 8287, 12288, 65279] || (8192 ≤ unit && unit ≤ 8202)

/-- What a byte becomes of `Number.parseInt` of two code units to base 16; what is no number becomes zero. -/
def hexByte (first second : ℕ) : UInt8 :=
  match hexDigitValue first, hexDigitValue second with
  | some high, some low => UInt8.ofNat (16 * high + low)
  | some high, none => UInt8.ofNat high
  | none, some low =>
    if whitespace first || first = 43 then UInt8.ofNat low
    else if first = 45 then UInt8.ofNat (256 - low)
    else 0
  | none, none => 0

def hexBytes : List ℕ → List UInt8
  | first :: second :: units => hexByte first second :: hexBytes units
  | _ => []

/-- The algorithm and the hash, unless it throws. Letters beyond ASCII keep their case here: none of them becomes one of
a supported algorithm, and only the text of an error shows them. -/
def parseChecksum (checksum : String) : Except String (String × List UInt8) :=
  match checksum.toList.splitOn ':' with
  | [algorithm, hex] =>
    let units := Collation.codeUnits (String.ofList hex)
    if units.length % 2 ≠ 0 then .error ("invalid checksum hex length: " ++ toString units.length)
    else .ok (String.ofList (algorithm.map Char.toLower), hexBytes units)
  | _ => .error ("invalid checksum format: " ++ checksum)

def supportedAlgorithms : List String := ["sha256"]

def verifyBlobChecksum (crypto : Crypto) (blob : Blob) (expected : String) : Except String Bool :=
  match parseChecksum expected with
  | .error err => .error err
  | .ok (algorithm, hash) =>
    if algorithm ∉ supportedAlgorithms then .error ("unsupported checksum algorithm: " ++ algorithm)
    else .ok (Bytes.constantTimeEq (crypto.sha256 blob) hash)

/-- What is accepted has the hash that the checksum states. -/
theorem verifyBlobChecksum_eq_true {crypto : Crypto} {blob : Blob} {expected : String} :
    verifyBlobChecksum crypto blob expected = .ok true ↔
      parseChecksum expected = .ok ("sha256", crypto.sha256 blob) := by
  unfold verifyBlobChecksum
  cases parseChecksum expected with
  | error err => simp
  | ok parsed =>
    obtain ⟨algorithm, hash⟩ := parsed
    by_cases supported : algorithm ∈ supportedAlgorithms
    · have same : algorithm = "sha256" := by simpa [supportedAlgorithms] using supported
      have there : "sha256" ∈ supportedAlgorithms := List.mem_singleton_self _
      simp only [same, there, not_true_eq_false, ↓reduceIte, Except.ok.injEq, Prod.mk.injEq, true_and]
      rw [Bytes.constantTimeEq_iff]
      exact eq_comm
    · have other : algorithm ≠ "sha256" := fun same => supported (by simp [same, supportedAlgorithms])
      simp [supported, other]

end Kiosk.Updater
