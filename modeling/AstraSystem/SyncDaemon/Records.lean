import AstraSystem.SyncDaemon.Offline.Token

/-!
# What a record is signed over (`lib.rs`)

The canonical bytes of a record are its id, its origin, the two timestamps and
the JSON of the payload, back to back. The data type is left out of them, and
nothing says where the id ends or where the origin does.
-/

namespace SyncDaemon.SyncRecord

open Bytes (utf8 be64)
open Offline (Crates HmacKey hmacSign hmacVerify)

variable {P : Type} (toVec : P → Except String (List UInt8))

/-- `toVec` is `serde_json::to_vec`. -/
def canonicalBytes (self : SyncRecord P) : Except AstraSyncError (List UInt8) := do
  let payloadJson ← (toVec self.payload).mapError .serialization
  .ok (utf8 self.id ++ utf8 self.origin.id ++ be64 self.lamportTs ++ be64 self.wallclockTs ++
    payloadJson)

/-! ## Records of the same bytes -/

/-- Everything but the signature. -/
structure SameContent (r s : SyncRecord P) : Prop where
  dataType : r.dataType = s.dataType
  id : r.id = s.id
  origin : r.origin = s.origin
  lamportTs : r.lamportTs = s.lamportTs
  wallclockTs : r.wallclockTs = s.wallclockTs
  payload : r.payload = s.payload

def SameBytes (r s : SyncRecord P) : Prop :=
  ∃ bytes, r.canonicalBytes toVec = .ok bytes ∧ s.canonicalBytes toVec = .ok bytes

/-- The tag made for `r` is valid for `s`. -/
def Authenticates (crates : Crates) (key : HmacKey) (r s : SyncRecord P) : Prop :=
  ∃ bytes bytes', r.canonicalBytes toVec = .ok bytes ∧ s.canonicalBytes toVec = .ok bytes' ∧
    hmacVerify crates key bytes' (hmacSign crates key bytes) = .ok ()

/-- The strings of a record, as they are signed. -/
def text (r : SyncRecord P) : List UInt8 := utf8 r.id ++ utf8 r.origin.id

def numbers (r : SyncRecord P) : List UInt8 := be64 r.lamportTs ++ be64 r.wallclockTs

/-- The strings of `s` are those of `r` and then some bytes with which the numbers and the payload
of `r` begin, and which those of `s` lack. -/
def RunsInto (r s : SyncRecord P) : Prop :=
  ∃ moved json json', toVec r.payload = .ok json ∧ toVec s.payload = .ok json' ∧
    s.text = r.text ++ moved ∧ r.numbers ++ json = moved ++ (s.numbers ++ json')

/-- The records are of one type, and their strings end at the same places. -/
structure Aligned (r s : SyncRecord P) : Prop where
  dataType : r.dataType = s.dataType
  id : r.id.utf8ByteSize = s.id.utf8ByteSize
  origin : r.origin.id.utf8ByteSize = s.origin.id.utf8ByteSize

variable {toVec} {r s : SyncRecord P}

theorem canonicalBytes_eq_ok {bytes : List UInt8} :
    r.canonicalBytes toVec = .ok bytes ↔
      ∃ json, toVec r.payload = .ok json ∧ bytes = r.text ++ (r.numbers ++ json) := by
  unfold canonicalBytes text numbers
  cases toVec r.payload with
  | error e => simp [Except.mapError, bind, Except.bind]
  | ok json => simp [Except.mapError, bind, Except.bind, eq_comm]

theorem sameBytes_iff : SameBytes toVec r s ↔ RunsInto toVec r s ∨ RunsInto toVec s r := by
  constructor
  · rintro ⟨bytes, hr, hs⟩
    obtain ⟨json, hjson, rfl⟩ := canonicalBytes_eq_ok.mp hr
    obtain ⟨json', hjson', same⟩ := canonicalBytes_eq_ok.mp hs
    obtain ⟨moved, text, rest⟩ | ⟨moved, text, rest⟩ := List.append_eq_append_iff.mp same
    · exact .inl ⟨moved, json, json', hjson, hjson', text, rest⟩
    · exact .inr ⟨moved, json', json, hjson', hjson, text, rest⟩
  · rintro (⟨moved, json, json', hjson, hjson', text, rest⟩ |
      ⟨moved, json, json', hjson, hjson', text, rest⟩)
    · refine ⟨_, canonicalBytes_eq_ok.mpr ⟨json, hjson, rfl⟩,
        canonicalBytes_eq_ok.mpr ⟨json', hjson', ?_⟩⟩
      rw [rest, text, List.append_assoc]
    · refine ⟨_, canonicalBytes_eq_ok.mpr ⟨json', hjson', rfl⟩,
        canonicalBytes_eq_ok.mpr ⟨json, hjson, ?_⟩⟩
      rw [rest, text, List.append_assoc]

theorem aligned_of_sameContent (same : SameContent r s) : Aligned r s :=
  ⟨same.dataType, by rw [same.id], by rw [same.origin]⟩

/-- Aligned records of the same bytes are the same. -/
theorem sameContent_of_aligned
    (injective : ∀ p q json, toVec p = .ok json → toVec q = .ok json → p = q)
    (aligned : Aligned r s) (same : SameBytes toVec r s) : SameContent r s := by
  obtain ⟨bytes, hr, hs⟩ := same
  obtain ⟨json, hjson, rfl⟩ := canonicalBytes_eq_ok.mp hr
  obtain ⟨json', hjson', same⟩ := canonicalBytes_eq_ok.mp hs
  have sizes : r.text.length = s.text.length := by
    simp only [text, List.length_append, Bytes.length_utf8, aligned.id, aligned.origin]
  obtain ⟨strings, rest⟩ := List.append_inj same sizes
  obtain ⟨id, origin⟩ := List.append_inj strings (by simpa using aligned.id)
  obtain ⟨stamps, payload⟩ := List.append_inj rest rfl
  obtain ⟨lamport, wallclock⟩ := List.append_inj stamps rfl
  subst payload
  refine ⟨aligned.dataType, Bytes.utf8_inj.mp id, ?_, Bytes.be64_inj.mp lamport,
    Bytes.be64_inj.mp wallclock, injective _ _ _ hjson hjson'⟩
  exact congrArg KioskId.mk (Bytes.utf8_inj.mp origin)

theorem authenticates_iff {crates : Crates} {key : HmacKey}
    (collisionFree : Function.Injective (hmacSign crates key)) :
    Authenticates toVec crates key r s ↔ SameBytes toVec r s := by
  have verified (bytes bytes' : List UInt8) :
      hmacVerify crates key bytes' (hmacSign crates key bytes) = .ok () ↔ bytes = bytes' := by
    unfold hmacVerify
    dsimp only
    split
    · rename_i equal
      have tags := Bytes.constantTimeEq_iff.mp equal
      exact iff_of_true rfl (collisionFree tags).symm
    · rename_i differ
      refine iff_of_false nofun ?_
      rintro rfl
      exact differ (Bytes.constantTimeEq_iff.mpr rfl)
  constructor
  · rintro ⟨bytes, bytes', hr, hs, valid⟩
    obtain rfl := (verified bytes bytes').mp valid
    exact ⟨bytes, hr, hs⟩
  · rintro ⟨bytes, hr, hs⟩
    exact ⟨bytes, bytes, hr, hs, (verified bytes bytes).mpr rfl⟩

/-- Every record has the bytes of another one, of another data type. -/
theorem exists_other {bytes : List UInt8} (h : r.canonicalBytes toVec = .ok bytes) :
    ∃ s, ¬ SameContent r s ∧ SameBytes toVec r s := by
  obtain ⟨other, ne⟩ : ∃ d : DataType, r.dataType ≠ d := by
    cases r.dataType with
    | inventory => exact ⟨.cart, nofun⟩
    | cart => exact ⟨.inventory, nofun⟩
    | transaction => exact ⟨.inventory, nofun⟩
    | analytics => exact ⟨.inventory, nofun⟩
  exact ⟨{ r with dataType := other }, fun same => ne same.dataType, bytes, h, h⟩

/-- **The bytes bind two records exactly when these are aligned or do not run into each other.**
Equal bytes or a valid tag make two records the same exactly when they agree in the data type and
in where their strings end, or the strings of neither run on into the numbers of the other. No
record has its bytes or its tag for itself. -/
theorem binds_iff (injective : ∀ p q json, toVec p = .ok json → toVec q = .ok json → p = q)
    {crates : Crates} (key : HmacKey)
    (collisionFree : Function.Injective (hmacSign crates key)) :
    (∀ r s : SyncRecord P,
      ((SameBytes toVec r s → SameContent r s) ↔
        Aligned r s ∨ ¬ RunsInto toVec r s ∧ ¬ RunsInto toVec s r) ∧
      ((Authenticates toVec crates key r s → SameContent r s) ↔
        Aligned r s ∨ ¬ RunsInto toVec r s ∧ ¬ RunsInto toVec s r)) ∧
    ∀ (r : SyncRecord P) (bytes : List UInt8), r.canonicalBytes toVec = .ok bytes →
      ∃ s, ¬ SameContent r s ∧ SameBytes toVec r s ∧ Authenticates toVec crates key r s := by
  have pair (r s : SyncRecord P) : (SameBytes toVec r s → SameContent r s) ↔
      Aligned r s ∨ ¬ RunsInto toVec r s ∧ ¬ RunsInto toVec s r := by
    rw [← not_or, ← sameBytes_iff]
    constructor
    · intro binds
      by_cases same : SameBytes toVec r s
      · exact .inl (aligned_of_sameContent (binds same))
      · exact .inr same
    · rintro (aligned | differ) same
      · exact sameContent_of_aligned injective aligned same
      · exact absurd same differ
  simp only [authenticates_iff collisionFree]
  refine ⟨fun r s => ⟨pair r s, pair r s⟩, ?_⟩
  intro r bytes h
  obtain ⟨s, other, same⟩ := exists_other h
  exact ⟨s, other, same, same⟩

/-- `serde_json` on a truth value. -/
def boolJson (b : Bool) : Except String (List UInt8) := .ok (utf8 (if b then "true" else "false"))

def counted : SyncRecord Bool :=
  ⟨.inventory, "7001", ⟨"kiosk-1"⟩, 42, 1700000000000, true, []⟩

/-- The same bytes, cut after another byte and called a transaction. -/
def sold : SyncRecord Bool :=
  ⟨.transaction, "7001k", ⟨"iosk-1"⟩, 42, 1700000000000, true, []⟩

theorem counted_passes_for_sold :
    ¬ ∀ r s : SyncRecord Bool, SameBytes boolJson r s → SameContent r s := by
  intro h
  have same : SameBytes boolJson counted sold := by
    refine ⟨_, rfl, ?_⟩
    decide +kernel
  exact absurd (h counted sold same).dataType (by decide)

def countedTag : List UInt8 :=
  [0xdb, 0x6c, 0x81, 0x2, 0xf, 0xe8, 0xa0, 0x4f, 0x45, 0xbc, 0xab, 0x30, 0xc9, 0xc, 0x9d, 0x93,
    0x55, 0x20, 0xf5, 0xae, 0x2f, 0xd0, 0xda, 0xc5, 0x5a, 0x9e, 0xe7, 0x3b, 0x7b, 0xc3, 0xa, 0x1e]

/-- The MAC of the bytes of `counted` under the key `00 01 .. 1f`, and collision free elsewhere. -/
def countedCrates : Crates where
  hmacSha256 _ message :=
    if counted.canonicalBytes boolJson = .ok message then countedTag else countedTag ++ 0 :: message
  hexEncode := Bytes.hex
  hexDecode s := match Bytes.unhex s with
    | some bytes => .ok bytes
    | none => .error "Odd number of digits"

theorem binds_counted :
    ∃ s, ¬ SameContent counted s ∧ SameBytes boolJson counted s ∧
      Authenticates boolJson countedCrates ⟨List.range 32 |>.map UInt8.ofNat, by decide⟩ counted s := by
  have injective (p q : Bool) (json : List UInt8) (hp : boolJson p = .ok json)
      (hq : boolJson q = .ok json) : p = q := by
    have same : utf8 (if p then "true" else "false") = utf8 (if q then "true" else "false") :=
      Except.ok.inj (hp.trans hq.symm)
    cases p <;> cases q <;> simp_all
  have collisionFree (key : HmacKey) : Function.Injective (hmacSign countedCrates key) := by
    intro m n h
    simp only [hmacSign, countedCrates] at h
    split at h <;> split at h <;> simp_all
  exact (binds_iff injective _ (collisionFree _)).2 counted _ rfl

end SyncDaemon.SyncRecord
