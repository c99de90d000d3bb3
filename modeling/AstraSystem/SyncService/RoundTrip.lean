import AstraSystem.Lib.JsonOutline
import AstraSystem.Lib.JsonText
import AstraSystem.SyncService.Upload

/-!
# What comes back of a delta (`service/service.go`, `repository/repository.go`)

`deltasToEvents` wraps the payload of a delta in a document. `eventsToDeltas` hands out the document.
-/

namespace SyncService

def stringToSyncEventType : String → SyncEventType
  | "inventory_update" => .inventoryUpdate
  | "cart_merge" => .cartMerge
  | "transaction_batch" => .transactionBatch
  | "analytics_batch" => .analyticsBatch
  | _ => .unspecified

/-- How documents come back: what a `JSONB` column gives of them, that read into any value, and the text of
what was read. -/
structure Codec where
  column : Json → Json
  unmarshalAny : Json → Except String Json
  marshal : Json → List UInt8
  number : String → Bool

/-- What is read comes back the same, but for the spelling of numbers and the order of fields. -/
structure Codec.Lawful (codec : Codec) (unmarshal : List UInt8 → Option Json) : Prop where
  empty : unmarshal [] = none
  proper : ∀ {b x}, unmarshal b = some x → x.Distinct ∧ x.allNumbers codec.number
  column : ∀ {x y : Json}, x.Distinct → x.allNumbers codec.number →
    codec.unmarshalAny (codec.column x) = .ok y → y.outline = x.outline
  marshal : ∀ {x y : Json}, x.Distinct → x.allNumbers codec.number →
    codec.unmarshalAny (codec.column x) = .ok y → ∃ z, unmarshal (codec.marshal y) = some z ∧ z.outline = y.outline

/-- `json.Unmarshal` into a map of integers. -/
def readClock : Json → Except String (List (String × Int64))
  | .null => .ok []
  | .object fields => fields.mapM fun f => (Json.readInt64 f.1 (some f.2)).map fun n => (f.1, n)
  | _ => .error "json: cannot unmarshal into Go value of type map[string]int64"

/-- A row as it is read: the payload is any value. -/
structure ScannedEvent where
  row : SyncEvent
  payloadJSON : Json
  vectorClock : List (String × Int64)

def scanSyncEvent (codec : Codec) (row : SyncEvent) : Except String ScannedEvent :=
  match codec.unmarshalAny (codec.column row.payloadJSON) with
  | .error err => .error ("repository: unmarshal payload: " ++ err)
  | .ok payloadJSON =>
    match readClock (codec.column row.vectorClock) with
    | .error err => .error ("repository: unmarshal vector clock: " ++ err)
    | .ok vectorClock => .ok { row, payloadJSON, vectorClock }

/-- A delta that is handed out. Its time is the one that its text stands for. -/
structure HandedOut where
  deltaID : String
  eventType : SyncEventType
  payload : List UInt8
  vectorClock : List (String × Int64)
  sourceKioskID : String
  createdAt : Time
  deriving DecidableEq

def eventToDelta (uuid : UUIDText) (codec : Codec) (e : ScannedEvent) : HandedOut where
  deltaID := uuid.string e.row.syncEventID
  eventType := stringToSyncEventType e.row.eventType
  payload := match e.payloadJSON with
    | .null => []
    | json => codec.marshal json
  vectorClock := e.vectorClock
  sourceKioskID := uuid.string e.row.kioskID
  createdAt := e.row.createdAt

/-- `DownloadBatch`, up to the message. -/
def handOut (pkg : Packages) (codec : Codec) (db : SyncEvents) (req : DownloadBatchRequest) :
    Except Status (List HandedOut) :=
  match downloadBatch pkg db req with
  | .error status => .error status
  | .ok rows =>
    match rows.mapM (scanSyncEvent codec) with
    | .error err => .error ⟨.internal, "compute deltas: " ++ err⟩
    | .ok events => .ok (events.map (eventToDelta pkg.uuid codec))

/-! ## What survives -/

/-- The bytes, or documents that are equal but for their numbers and the order of their fields. -/
def SamePayload (pkg : Packages) (sent got : List UInt8) : Prop :=
  got = sent ∨ ∃ x y, pkg.unmarshal sent = some x ∧ pkg.unmarshal got = some y ∧ x.outline = y.outline

structure Survives (pkg : Packages) (d : SyncDelta) (out : HandedOut) : Prop where
  id : out.deltaID = d.deltaID
  type : out.eventType = d.eventType
  payload : SamePayload pkg d.payload out.payload
  clock : out.vectorClock.Perm d.vectorClock
  source : out.sourceKioskID = d.sourceKioskID
  time : ∀ t, RFC3339.parse d.createdAt = some t → out.createdAt = t.unixNano / 1000

/-- The delta is stored, read and handed out. -/
def Becomes (pkg : Packages) (codec : Codec) (env : Env) (d : SyncDelta × ℕ) (out : HandedOut) : Prop :=
  ∃ storeID kioskID row e, EventOf pkg env storeID kioskID d row ∧ scanSyncEvent codec row = .ok e ∧
    eventToDelta pkg.uuid codec e = out

section
variable {pkg : Packages} {codec : Codec} {schema : Schema} {env : Env} {d : SyncDelta}

/-! ## The document around a payload -/

/-- What the document holds of a payload. -/
def SyncDelta.content (pkg : Packages) (d : SyncDelta) : Json.Fields :=
  if d.payload = [] then []
  else match pkg.unmarshal d.payload with
    | some raw => [("payload", raw)]
    | none => [("raw", .string (String.ofList (Json.base64 d.payload)))]

def SyncDelta.fields (pkg : Packages) (d : SyncDelta) : Json.Fields :=
  [("delta_id", .string d.deltaID), ("event_type", .string d.eventType.string)] ++ d.content pkg ++
    Json.text "source_kiosk_id" d.sourceKioskID ++ Json.text "created_at" d.createdAt

theorem SyncDelta.payloadJSON_eq : d.payloadJSON pkg = .object (d.fields pkg) := rfl

theorem names_text (name s : String) : ((Json.text name s).map Prod.fst).Sublist [name] := by
  unfold Json.text
  split
  · exact List.nil_sublist _
  · exact List.Sublist.refl _

theorem SyncDelta.names_content : ((d.content pkg).map Prod.fst).Sublist ["payload", "raw"] := by
  unfold SyncDelta.content
  split
  · exact List.nil_sublist _
  · split
    · exact (List.Sublist.refl ["payload"]).append (List.nil_sublist ["raw"])
    · exact (List.nil_sublist ["payload"]).append (List.Sublist.refl ["raw"])

theorem SyncDelta.names_nodup : ((d.fields pkg).map Prod.fst).Nodup := by
  have all : ["delta_id", "event_type", "payload", "raw", "source_kiosk_id", "created_at"].Nodup := by decide
  have names : ((d.fields pkg).map Prod.fst).Sublist
      (["delta_id", "event_type"] ++ ["payload", "raw"] ++ ["source_kiosk_id"] ++ ["created_at"]) := by
    simp only [SyncDelta.fields, List.map_append]
    apply List.Sublist.append _ (names_text "created_at" d.createdAt)
    apply List.Sublist.append _ (names_text "source_kiosk_id" d.sourceKioskID)
    exact (List.Sublist.refl ["delta_id", "event_type"]).append SyncDelta.names_content
  exact List.Nodup.sublist names all

theorem mem_text {name s : String} {f : String × Json} (mem : f ∈ Json.text name s) : f.2 = .string s := by
  unfold Json.text at mem
  split at mem
  · cases mem
  · rw [List.mem_singleton.mp mem]

/-- Each field holds a text, but for the one that holds what was read of the payload. -/
theorem SyncDelta.mem_fields {f : String × Json} (mem : f ∈ d.fields pkg) :
    (∃ s, f.2 = .string s) ∨ pkg.unmarshal d.payload = some f.2 := by
  simp only [SyncDelta.fields, List.mem_append, List.mem_cons, List.not_mem_nil, or_false] at mem
  rcases mem with (((rfl | rfl) | content) | source) | created
  · exact .inl ⟨_, rfl⟩
  · exact .inl ⟨_, rfl⟩
  · unfold SyncDelta.content at content
    split at content
    · cases content
    · split at content
      · rename_i raw read
        rw [List.mem_singleton.mp content]
        exact .inr read
      · rw [List.mem_singleton.mp content]
        exact .inl ⟨_, rfl⟩
  · exact .inl ⟨_, mem_text source⟩
  · exact .inl ⟨_, mem_text created⟩

theorem SyncDelta.payloadJSON_proper (laws : codec.Lawful pkg.unmarshal) (d : SyncDelta) :
    (d.payloadJSON pkg).Distinct ∧ (d.payloadJSON pkg).allNumbers codec.number := by
  have each (f : String × Json) (mem : f ∈ d.fields pkg) : f.2.Distinct ∧ f.2.allNumbers codec.number := by
    rcases SyncDelta.mem_fields mem with ⟨s, text⟩ | read
    · rw [text]
      exact ⟨trivial, rfl⟩
    · exact laws.proper read
  constructor
  · exact ⟨SyncDelta.names_nodup, Json.distinctOf_iff.mpr fun f mem => (each f mem).1⟩
  · exact Json.allNumbersOf_iff.mpr fun f mem => (each f mem).2

/-- A document that was read of the payload is nested less deeply than the one around it. -/
theorem SyncDelta.depth_lt (laws : codec.Lawful pkg.unmarshal) {x : Json} (read : pkg.unmarshal d.payload = some x) :
    x.depth < (d.payloadJSON pkg).depth := by
  have sent : d.payload ≠ [] := by
    intro none
    rw [none, laws.empty] at read
    cases read
  have mem : ("payload", x) ∈ d.fields pkg := by
    simp [SyncDelta.fields, SyncDelta.content, sent, read]
  exact Nat.lt_succ_of_le (Json.depth_le_of_mem mem)

/-! ## The way back -/

/-- What is handed out as the payload is read as the document around the payload. -/
theorem Becomes.payload_read (laws : codec.Lawful pkg.unmarshal) {d : SyncDelta × ℕ} {out : HandedOut}
    (h : Becomes pkg codec env d out) :
    ∃ z, pkg.unmarshal out.payload = some z ∧ z.outline = (d.1.payloadJSON pkg).outline := by
  obtain ⟨storeID, kioskID, row, e, of, scanned, rfl⟩ := h
  obtain ⟨distinct, numbers⟩ := d.1.payloadJSON_proper laws
  unfold scanSyncEvent at scanned
  rw [of.payload] at scanned
  cases read : codec.unmarshalAny (codec.column (d.1.payloadJSON pkg)) with
  | error err =>
    rw [read] at scanned
    cases scanned
  | ok y =>
    have outline := laws.column distinct numbers read
    have isObject : y ≠ .null := by
      rintro rfl
      rw [SyncDelta.payloadJSON_eq] at outline
      simp [Json.outline] at outline
    cases clock : readClock (codec.column row.vectorClock) with
    | error err =>
      rw [read] at scanned
      simp only [clock] at scanned
      cases scanned
    | ok vectorClock =>
      rw [read] at scanned
      simp only [clock] at scanned
      cases scanned
      obtain ⟨z, again, same⟩ := laws.marshal distinct numbers read
      have payload : (eventToDelta pkg.uuid codec ⟨row, y, vectorClock⟩).payload = codec.marshal y := by
        cases y with
        | null => exact absurd rfl isObject
        | bool | number | string | array | object => rfl
      exact ⟨z, payload ▸ again, same.trans outline⟩

/-- The document around a payload is not the payload. -/
theorem Becomes.not_survives (laws : codec.Lawful pkg.unmarshal) {d : SyncDelta × ℕ} {out : HandedOut}
    (h : Becomes pkg codec env d out) : ¬ Survives pkg d.1 out := by
  intro survives
  obtain ⟨z, read, outline⟩ := h.payload_read laws
  have sent : ∃ x, pkg.unmarshal d.1.payload = some x ∧ x.outline = z.outline := by
    rcases survives.payload with bytes | ⟨x, y, sent, got, same⟩
    · exact ⟨z, bytes ▸ read, rfl⟩
    · cases read.symm.trans got
      exact ⟨x, sent, same⟩
  obtain ⟨x, sent, same⟩ := sent
  have less := SyncDelta.depth_lt laws sent
  rw [Json.depth_eq_of_outline (same.trans outline)] at less
  exact Nat.lt_irrefl _ less

/-! ## Runs -/

structure UploadCall where
  env : Env
  auth : String
  batch : SyncBatch

/-- The table after a run of uploads. -/
def ingest (pkg : Packages) (schema : Schema) (calls : List UploadCall) : SyncEvents :=
  Runs.run (fun db c => (uploadBatch pkg schema db c.env c.auth c.batch).1) .empty calls

/-- Every row is of a delta that was uploaded. -/
theorem ingest_rows {calls : List UploadCall} : ∀ e ∈ (ingest pkg schema calls).rows,
    ∃ c ∈ calls, ∃ d ∈ c.batch.deltas.zipIdx, EventOf pkg c.env e.storeID e.kioskID d e := by
  induction calls using List.reverseRecOn with
  | nil => exact fun e mem => absurd mem List.not_mem_nil
  | append_singleton calls c ih =>
    intro e mem
    obtain ⟨new, rows, added⟩ := uploadBatch_adds pkg schema (ingest pkg schema calls) c.env c.auth c.batch
    rw [ingest, Runs.run_concat] at mem
    rcases List.mem_append.mp (rows ▸ mem) with old | fresh
    · obtain ⟨c', hc, rest⟩ := ih e old
      exact ⟨c', List.mem_append_left _ hc, rest⟩
    · obtain ⟨d, hd, of⟩ := (added e fresh).delta
      exact ⟨c, List.mem_append_right _ (List.mem_singleton_self c), d, hd, of⟩

/-- Whatever is downloaded is of a row. -/
theorem mem_downloadBatch {db : SyncEvents} {req : DownloadBatchRequest} {rows : List SyncEvent}
    (got : downloadBatch pkg db req = .ok rows) : ∀ e ∈ rows, e ∈ db.rows := by
  have taken (storeID kioskID : UUID) (since : Time) (e : SyncEvent)
      (mem : e ∈ getDeltasSince db storeID kioskID since req.maxDeltas) : e ∈ db.rows := by
    have mem := (List.perm_insertionSort _ _).mem_iff.mp (List.mem_of_mem_take mem)
    exact (List.mem_filter.mp mem).1
  unfold downloadBatch at got
  split at got
  · cases got
  split at got <;> cases got
  · exact taken _ _ _
  · exact taken _ _ _

theorem handOut_eq_ok {db : SyncEvents} {req : DownloadBatchRequest} {deltas : List HandedOut} :
    handOut pkg codec db req = .ok deltas ↔ ∃ rows events, downloadBatch pkg db req = .ok rows ∧
      rows.mapM (scanSyncEvent codec) = .ok events ∧ deltas = events.map (eventToDelta pkg.uuid codec) := by
  unfold handOut
  cases downloadBatch pkg db req with
  | error status => simp
  | ok rows =>
    cases scanned : rows.mapM (scanSyncEvent codec) with
    | error err => simp [scanned]
    | ok events => simp [scanned, eq_comm]

/-- Whatever is handed out after a run of uploads is of a delta that was uploaded, and no delta is what is
handed out of it: the payload is a document around the one that was sent. -/
theorem no_delta_survives (laws : codec.Lawful pkg.unmarshal) {calls : List UploadCall} {req : DownloadBatchRequest}
    {deltas : List HandedOut} (got : handOut pkg codec (ingest pkg schema calls) req = .ok deltas) : ∀ out ∈ deltas,
    (∃ c ∈ calls, ∃ d ∈ c.batch.deltas.zipIdx, Becomes pkg codec c.env d out) ∧
      ∀ env d, Becomes pkg codec env d out → ¬ Survives pkg d.1 out := by
  intro out mem
  refine ⟨?_, fun env d of => of.not_survives laws⟩
  obtain ⟨rows, events, downloaded, scanned, rfl⟩ := handOut_eq_ok.mp got
  obtain ⟨e, he, rfl⟩ := List.mem_map.mp mem
  obtain ⟨row, hrow, read⟩ := (Statement.mem_mapM scanned e).mp he
  obtain ⟨c, hc, d, hd, of⟩ := ingest_rows row (mem_downloadBatch downloaded row hrow)
  exact ⟨c, hc, d, hd, row.storeID, row.kioskID, row, e, of, read, rfl⟩

end

namespace Cloud

open Json (Numeric write Short write_eq_iff write_head)

/-- Characters without a letter that are written by number. -/
def plain (c : Char) : Bool := c.toNat < 32

theorem short_plain : Short plain := fun c low => by
  simp only [plain, decide_eq_true_eq] at low
  omega

def text (x : Json) : List UInt8 := Bytes.utf8 (String.ofList (x.write plain))

structure Spells (b : List UInt8) (x : Json) : Prop where
  distinct : x.Distinct
  numbers : x.allNumbers Numeric
  spelt : text x = b

theorem Spells.unique {b : List UInt8} {x y : Json} (hx : Spells b x) (hy : Spells b y) : x = y := by
  have same : text x = text y := hx.spelt.trans hy.spelt.symm
  rw [text, text, Bytes.utf8_inj, String.ofList_inj] at same
  exact ((write_eq_iff short_plain short_plain hx.numbers hy.numbers).mp same).1

open Classical in
/-- Texts without spaces are read. -/
noncomputable def unmarshal (b : List UInt8) : Option Json :=
  if h : ∃ x, Spells b x then some h.choose else none

theorem unmarshal_eq_some {b : List UInt8} {x : Json} : unmarshal b = some x ↔ Spells b x := by
  unfold unmarshal
  split
  · rename_i h
    rw [Option.some.injEq]
    exact ⟨fun same => same ▸ h.choose_spec, fun spells => h.choose_spec.unique spells⟩
  · rename_i none
    exact ⟨fun h => (by cases h), fun spells => absurd ⟨x, spells⟩ none⟩

def codec : Codec := ⟨id, .ok, text, Numeric⟩

theorem lawful : codec.Lawful unmarshal where
  empty := by
    cases h : unmarshal [] with
    | none => rfl
    | some x =>
      obtain ⟨-, numbers, spelt⟩ := unmarshal_eq_some.mp h
      obtain ⟨c, rest, front, -⟩ := write_head (u := plain) numbers
      rw [text, front, show ([] : List UInt8) = Bytes.utf8 (String.ofList []) from rfl, Bytes.utf8_inj,
        String.ofList_inj] at spelt
      cases spelt
  proper h := ⟨(unmarshal_eq_some.mp h).distinct, (unmarshal_eq_some.mp h).numbers⟩
  column _ _ read := by
    cases read
    rfl
  marshal distinct numbers read := by
    cases read
    exact ⟨_, unmarshal_eq_some.mpr ⟨distinct, numbers, rfl⟩, rfl⟩

def texts : List (UUID × String) :=
  [(1, "00000000-0000-0000-0000-000000000001"), (2, "00000000-0000-0000-0000-000000000002"),
    (3, "00000000-0000-0000-0000-000000000003"), (4, "00000000-0000-0000-0000-000000000004")]

noncomputable def pkg : Packages := ⟨.memo .hyphenated texts, unmarshal⟩

def schema : Schema := { stores := [1], kiosks := [2, 3], maxDepth := 100 }

/-- Its payload is a document: the word for truth. -/
def delta : SyncDelta where
  deltaID := "00000000-0000-0000-0000-000000000004"
  eventType := .inventoryUpdate
  payload := Bytes.utf8 "true"
  vectorClock := [("till", 4)]
  sourceKioskID := "00000000-0000-0000-0000-000000000002"
  createdAt := "2026-07-20T12:34:56Z"

def call : UploadCall := ⟨⟨fun _ => 0, none⟩, "", ⟨"monday", "00000000-0000-0000-0000-000000000001",
  "00000000-0000-0000-0000-000000000002", [delta]⟩⟩

def document : Json := .object [("delta_id", .string delta.deltaID), ("event_type", .string "inventory_update"),
  ("payload", .bool true), ("source_kiosk_id", .string delta.sourceKioskID), ("created_at", .string delta.createdAt)]

def row : SyncEvent := ⟨4, 1, 2, "inventory_update", document, delta.clockJSON, delta.time 0⟩

theorem payload_read : unmarshal delta.payload = some (.bool true) :=
  unmarshal_eq_some.mpr ⟨trivial, rfl, rfl⟩

theorem eventOf : EventOf pkg call.env 1 2 (delta, 0) row where
  id := rfl
  store := rfl
  kiosk := rfl
  type := rfl
  payload := by
    rw [SyncDelta.payloadJSON_eq, SyncDelta.fields, SyncDelta.content, if_neg (by decide)]
    simp only [show pkg.unmarshal = unmarshal from rfl, payload_read]
    rfl
  clock := rfl
  time := rfl

theorem stored : (ingest pkg schema [call]).rows = [row] := by
  have events : deltasToEvents pkg call.env call.batch = .ok [row] := by
    refine deltasToEvents_eq_ok.mpr ⟨1, 2, rfl, rfl, ?_⟩
    have made : deltaToEvent pkg call.env 1 2 (delta, 0) = .ok row := deltaToEvent_eq_ok.mpr ⟨by decide, eventOf⟩
    show [(delta, 0)].mapM (deltaToEvent pkg call.env 1 2) = .ok [row]
    rw [List.mapM_cons, made]
    rfl
  have insert : insertSyncEvent schema .empty row =
      .ok (Table.empty.upsert (fun _ new => new) (fun _ _ => rfl) row) :=
    insertSyncEvent_eq_ok.mpr ⟨⟨by decide, by decide, by decide, by decide⟩, .inr ⟨rfl, by decide, rfl⟩⟩
  show (uploadBatch pkg schema .empty call.env call.auth call.batch).1.rows = [row]
  rw [uploadBatch, if_neg (by decide), if_neg (by decide), events]
  simp only [insertSyncEvents, List.foldlM_cons, insert]
  rfl

/-- The third kiosk downloads. -/
def req : DownloadBatchRequest where
  storeID := "00000000-0000-0000-0000-000000000001"
  kioskID := "00000000-0000-0000-0000-000000000003"
  maxDeltas := 0

def scanned : ScannedEvent := ⟨row, document, [("till", 4)]⟩

noncomputable def out : HandedOut := eventToDelta pkg.uuid codec scanned

theorem row_scanned : scanSyncEvent codec row = .ok scanned := rfl

theorem handed : handOut pkg codec (ingest pkg schema [call]) req = .ok [out] := by
  have since : zeroTime < row.createdAt := by decide +kernel
  have found : downloadBatch pkg (ingest pkg schema [call]) req = .ok [row] := by
    have checkpoint : getLastCheckpoint (ingest pkg schema [call]) 1 3 = zeroTime := by
      rw [getLastCheckpoint, stored]
      rfl
    have given : candidates (ingest pkg schema [call]) 1 3 zeroTime = [row] := by
      have other : row.storeID = 1 ∧ row.kioskID ≠ 3 ∧ zeroTime < row.createdAt := ⟨rfl, by decide, since⟩
      rw [candidates, stored, List.filter_eq_self.mpr]
      · rfl
      · exact List.forall_mem_singleton.mpr (decide_eq_true other)
    show Except.ok (getDeltasSince _ 1 3 (getLastCheckpoint _ 1 3) 0) = .ok [row]
    rw [checkpoint, getDeltasSince, given]
    rfl
  have read : [row].mapM (scanSyncEvent codec) = .ok [scanned] := by
    rw [List.mapM_cons, row_scanned]
    rfl
  exact handOut_eq_ok.mpr ⟨[row], [scanned], found, read, rfl⟩

theorem becomes : Becomes pkg codec call.env (delta, 0) out := ⟨1, 2, row, scanned, eventOf, row_scanned, rfl⟩

theorem payload_out : out.payload = text document := by
  simp only [out, eventToDelta, scanned, document, codec]

/-- The payload comes back inside a document. -/
theorem payload_wrapped : handOut pkg codec (ingest pkg schema [call]) req = .ok [out] ∧
    out.payload = text document ∧ ¬ Survives pkg delta out :=
  ⟨handed, payload_out, becomes.not_survives lawful⟩

theorem no_delta_survives_monday :
    (∃ c ∈ [call], ∃ d ∈ c.batch.deltas.zipIdx, Becomes pkg codec c.env d out) ∧
      ∀ env d, Becomes pkg codec env d out → ¬ Survives pkg d.1 out :=
  no_delta_survives lawful handed out (List.mem_singleton_self out)

end Cloud

end SyncService
