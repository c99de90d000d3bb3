import AstraSystem.Lib.Json

/-!
# Event envelopes

The generated types of the events, as `encoding/json` and `protojson` write and read them. What a
message type is called and how its bytes look comes with the type.
-/

namespace Events

/-- A generated message type: its full name, and `proto.Marshal` and `proto.Unmarshal` of it. -/
structure MessageType (M : Type) where
  fullName : String
  marshal : M → List UInt8
  unmarshal : List UInt8 → Except String M

/-- `google.protobuf.Any`. -/
structure Any where
  typeURL : String
  value : List UInt8
  deriving DecidableEq, Repr

/-- `anypb.New`. -/
def Any.new {M : Type} (type : MessageType M) (m : M) : Any where
  typeURL := "type.googleapis.com/" ++ type.fullName
  value := type.marshal m

theorem Any.typeURL_new {M : Type} (type : MessageType M) (m : M) :
    (Any.new type m).typeURL = "type.googleapis.com/" ++ type.fullName := rfl

theorem Any.typeURL_new_ne {M : Type} (type : MessageType M) (m : M) : (Any.new type m).typeURL ≠ "" := by
  rw [typeURL_new]
  simp

structure HLC where
  physicalTimeMs : Int64
  logicalCounter : Int64
  nodeID : String
  deriving DecidableEq, Repr

structure EventEnvelope where
  eventID : String
  aggregateID : String
  aggregateType : String
  sequenceNumber : Int64
  timestamp : String
  payload : Option Any
  metadata : List (String × String)
  hlc : Option HLC := none
  deriving DecidableEq, Repr

/-! ## `encoding/json` -/

def Any.json (a : Any) : Json := .object (Json.text "type_url" a.typeURL ++ Json.bytes "value" a.value)

def HLC.json (h : HLC) : Json :=
  .object (Json.int "physical_time_ms" h.physicalTimeMs.toInt ++
    Json.int "logical_counter" h.logicalCounter.toInt ++ Json.text "node_id" h.nodeID)

namespace EventEnvelope

def fields (e : EventEnvelope) : Json.Fields :=
  Json.text "event_id" e.eventID ++ Json.text "aggregate_id" e.aggregateID ++
    Json.text "aggregate_type" e.aggregateType ++ Json.int "sequence_number" e.sequenceNumber.toInt ++
    Json.text "timestamp" e.timestamp ++ (e.payload.map fun a => ("payload", a.json)).toList ++
    Json.texts "metadata" e.metadata ++ (e.hlc.map fun h => ("hlc", h.json)).toList

/-- `json.Marshal`. -/
def json (e : EventEnvelope) : Json := .object e.fields

/-- The names of the fields, as the proto has them. -/
def names : List String := ["event_id", "aggregate_id", "aggregate_type", "sequence_number", "timestamp",
  "payload", "metadata", "hlc"]

theorem name_of_mem_fields {e : EventEnvelope} {f : String × Json} (h : f ∈ e.fields) : f.1 ∈ names := by
  simp only [fields, List.mem_append, Option.mem_toList, Option.map_eq_some_iff] at h
  rcases h with ((((((h | h) | h) | h) | h) | ⟨_, -, rfl⟩) | h) | ⟨_, -, rfl⟩
  · rw [Json.name_of_mem_text h]; decide
  · rw [Json.name_of_mem_text h]; decide
  · rw [Json.name_of_mem_text h]; decide
  · rw [Json.name_of_mem_int h]; decide
  · rw [Json.name_of_mem_text h]; decide
  · exact (by decide : "payload" ∈ names)
  · rw [Json.name_of_mem_texts h]; decide
  · exact (by decide : "hlc" ∈ names)

/-- An envelope has no other fields. -/
theorem field?_fields {e : EventEnvelope} {name : String} (other : name ∉ names) :
    Json.field? e.fields name = none :=
  Json.field?_eq_none fun _ hf same => other (same ▸ name_of_mem_fields hf)

theorem field?_payload {e : EventEnvelope} {a : Any} (h : e.payload = some a) :
    Json.field? e.fields "payload" = some a.json := by
  have mem : ("payload", a.json) ∈ e.fields := by simp [fields, h]
  have only : ∀ f ∈ e.fields, f.1 = "payload" → f = ("payload", a.json) := by
    intro f hf name
    simp only [fields, h, List.mem_append, Option.mem_toList, Option.map_some, Option.some.injEq,
      Option.map_eq_some_iff] at hf
    rcases hf with ((((((hf | hf) | hf) | hf) | hf) | same) | hf) | ⟨_, -, same⟩
    · exact absurd ((Json.name_of_mem_text hf).symm.trans name) (by decide)
    · exact absurd ((Json.name_of_mem_text hf).symm.trans name) (by decide)
    · exact absurd ((Json.name_of_mem_text hf).symm.trans name) (by decide)
    · exact absurd ((Json.name_of_mem_int hf).symm.trans name) (by decide)
    · exact absurd ((Json.name_of_mem_text hf).symm.trans name) (by decide)
    · exact same.symm
    · exact absurd ((Json.name_of_mem_texts hf).symm.trans name) (by decide)
    · cases same
      exact absurd name (by decide : "hlc" ≠ "payload")
  rw [Json.field?]
  cases found : e.fields.reverse.find? fun f => f.1 = "payload" with
  | none =>
    have missing := List.find?_eq_none.mp found _ (List.mem_reverse.mpr mem)
    simp at missing
  | some f =>
    have name : f.1 = "payload" := by simpa using List.find?_some found
    rw [only f (List.mem_reverse.mp (List.mem_of_find?_eq_some found)) name]
    rfl

end EventEnvelope

/-! ## `protojson` -/

/-- The messages inside an `Any`: from a type URL and the message's fields to its bytes. -/
abbrev Registry := String → Json.Fields → Except String (List UInt8)

/-- An `Any` is read in its canonical form alone. -/
def protojsonAny (types : Registry) : Json → Except String Any
  | .object [] => .ok ⟨"", []⟩
  | .object fields =>
    match Json.field? fields "@type" with
    | some (.string typeURL) => do
      let value ← types typeURL (fields.filter fun f => f.1 ≠ "@type")
      pure ⟨typeURL, value⟩
    | some _ => .error "proto: @type field value must be a string"
    | none => .error "proto: missing \"@type\" field"
  | _ => .error "proto: unexpected token"

/-- A field goes by its name in the proto, and by that name in camel case. -/
def protojsonField (fields : Json.Fields) (name camel : String) : Option Json :=
  (Json.field? fields name).or (Json.field? fields camel)

def protojsonString : Option Json → Except String String
  | none | some .null => .ok ""
  | some (.string s) => .ok s
  | some _ => .error "proto: invalid value for string field"

/-- 64-bit integers stand as numbers or as strings. -/
def protojsonInt64 : Option Json → Except String Int64
  | none | some .null => .ok 0
  | some (.number literal) | some (.string literal) =>
    match Decimal.parse literal with
    | some n => if -2 ^ 63 ≤ n ∧ n < 2 ^ 63 then .ok (.ofInt n)
      else .error "proto: invalid value for int64 field"
    | none => .error "proto: invalid value for int64 field"
  | some _ => .error "proto: invalid value for int64 field"

def protojsonTexts : Option Json → Except String (List (String × String))
  | none | some .null => .ok []
  | some (.object fields) => fields.mapM fun f => do pure (f.1, ← protojsonString (some f.2))
  | some _ => .error "proto: unexpected token"

def protojsonHLC : Option Json → Except String (Option HLC)
  | none | some .null => .ok none
  | some (.object fields) => do
    let physicalTimeMs ← protojsonInt64 (protojsonField fields "physical_time_ms" "physicalTimeMs")
    let logicalCounter ← protojsonInt64 (protojsonField fields "logical_counter" "logicalCounter")
    let nodeID ← protojsonString (protojsonField fields "node_id" "nodeId")
    pure (some { physicalTimeMs, logicalCounter, nodeID })
  | some _ => .error "proto: unexpected token"

def protojsonPayload (types : Registry) : Option Json → Except String (Option Any)
  | none | some .null => .ok none
  | some json => (protojsonAny types json).map some

def EventEnvelope.camelNames : List String := ["eventId", "aggregateId", "aggregateType",
  "sequenceNumber"]

/-- `protojson.Unmarshal`, which knows no other fields. -/
def EventEnvelope.protojson (types : Registry) : Json → Except String EventEnvelope
  | .object fields => do
    if ∃ f ∈ fields, f.1 ∉ EventEnvelope.names ++ EventEnvelope.camelNames then
      throw "proto: unknown field"
    let payload ← protojsonPayload types (Json.field? fields "payload")
    let eventID ← protojsonString (protojsonField fields "event_id" "eventId")
    let aggregateID ← protojsonString (protojsonField fields "aggregate_id" "aggregateId")
    let aggregateType ← protojsonString (protojsonField fields "aggregate_type" "aggregateType")
    let sequenceNumber ← protojsonInt64 (protojsonField fields "sequence_number" "sequenceNumber")
    let timestamp ← protojsonString (Json.field? fields "timestamp")
    let metadata ← protojsonTexts (Json.field? fields "metadata")
    let hlc ← protojsonHLC (Json.field? fields "hlc")
    pure { eventID, aggregateID, aggregateType, sequenceNumber, timestamp, payload, metadata, hlc }
  | _ => .error "proto: unexpected token"

/-- `anypb.UnmarshalTo`. -/
def unmarshalTo {M : Type} (type : MessageType M) : Option Any → Except String M
  | none => .error "proto: invalid nil source message"
  | some a =>
    if a.typeURL = "type.googleapis.com/" ++ type.fullName then type.unmarshal a.value
    else .error "proto: mismatched message type"

/-- What `encoding/json` writes of an `Any` is not its canonical form. -/
theorem protojsonAny_json (types : Registry) {a : Any} (named : a.typeURL ≠ "") :
    protojsonAny types a.json = .error "proto: missing \"@type\" field" := by
  have untyped : Json.field? (Json.text "type_url" a.typeURL ++ Json.bytes "value" a.value) "@type" =
      none := by
    refine Json.field?_eq_none fun f hf => ?_
    rcases List.mem_append.mp hf with hf | hf
    · rw [Json.name_of_mem_text hf]; decide
    · rw [Json.name_of_mem_bytes hf]; decide
  rw [Any.json]
  cases fields : Json.text "type_url" a.typeURL ++ Json.bytes "value" a.value with
  | nil =>
    rw [Json.text, if_neg named] at fields
    cases fields
  | cons f rest =>
    rw [protojsonAny, ← fields, untyped]
    exact List.cons_ne_nil f rest

theorem EventEnvelope.protojson_json (types : Registry) {e : EventEnvelope} {a : Any}
    (h : e.payload = some a) (named : a.typeURL ≠ "") :
    EventEnvelope.protojson types e.json = .error "proto: missing \"@type\" field" := by
  have known : ¬ ∃ f ∈ e.fields, f.1 ∉ EventEnvelope.names ++ EventEnvelope.camelNames := by
    rintro ⟨f, hf, unknown⟩
    exact unknown (List.mem_append_left _ (name_of_mem_fields hf))
  have refused : protojsonPayload types (some a.json) = .error "proto: missing \"@type\" field" := by
    show (protojsonAny types a.json).map some = _
    rw [protojsonAny_json types named]
    rfl
  rw [EventEnvelope.json, EventEnvelope.protojson, if_neg known, field?_payload h]
  show (do let payload ← protojsonPayload types (some a.json); _) = _
  rw [refused]
  rfl

end Events
