import AstraSystem.SyncDaemon.Storage

/-!
# One call of `flush_to_cloud` (`cloud/mod.rs`)

A call goes through the data types and then the offline tokens: it loads rows,
turns them into messages, publishes these in batches and marks the rows. It
steps from one database statement or acknowledged publish to the next, so that
other tasks can get in between. Two lists that the code does not keep record
which messages it made and which of them were acknowledged.
-/

namespace SyncDaemon.Cloud

/-- What the flush asks of serde and of the noise generator: `none` is an error, and a draw is
what the generator supplies. -/
structure Codec (P : Type) where
  recordToVec : SyncRecord P → Option (List UInt8)
  valueToVec : P → Option (List UInt8)
  tokenToVec : OfflinePayment → Option (List UInt8)
  privatizeAnalyticsPayload : ℕ → P → Option P

structure CloudConfig where
  networkName : String
  maxMsgSizeBytes : ℕ

/-- A message, and what it was made from. -/
structure Message (α : Type) where
  subject : String
  bytes : List UInt8
  source : α
  deriving DecidableEq, Repr

/-- What JetStream has acknowledged. -/
inductive Published (P : Type) where
  | record (m : Message (SyncRecord P))
  | token (m : Message OfflinePayment)
  deriving DecidableEq, Repr

/-- The record version an acknowledged message carried. -/
def Published.version? {P : Type} : Published P → Option (SyncRecord P)
  | record m => some m.source
  | token _ => none

/-- The payment an acknowledged message carried. -/
def Published.payment? {P : Type} : Published P → Option OfflinePayment
  | record _ => none
  | token m => some m.source

inductive Phase (P : Type) where
  | idle
  | load (types : List DataType)
  | fill (d : DataType) (rest : List DataType) (todo : List (SyncRecord P))
      (batch : List (Message (SyncRecord P)))
  | publish (d : DataType) (rest : List DataType) (todo : List (SyncRecord P))
      (batch : List (Message (SyncRecord P)))
  | flush (d : DataType) (rest : List DataType)
  | fillTokens (todo : List OfflinePayment) (batch : List (Message OfflinePayment))
      (ids : List String)
  | publishTokens (todo : List OfflinePayment) (batch : List (Message OfflinePayment))
      (ids : List String)
  | mark (ids : List String)
  | done
  | failed (during : Option DataType)
  deriving DecidableEq, Repr

structure FlushCall (P : Type) where
  phase : Phase P
  prepared : List (Message (SyncRecord P))
  acked : List (Message (SyncRecord P))
  cleaned : List DataType
  deriving DecidableEq, Repr

variable {P : Type}

/-- The call that has not been made yet. -/
def FlushCall.idle : FlushCall P := ⟨.idle, [], [], []⟩

/-- The call at its first statement. -/
def FlushCall.start : FlushCall P :=
  ⟨.load [.inventory, .cart, .transaction, .analytics], [], [], []⟩

def FlushCall.isRunning (c : FlushCall P) : Bool :=
  match c.phase with
  | .idle | .done | .failed _ => false
  | _ => true

/-- The message made from a record loaded for type `d`. -/
def prepare (codec : Codec P) (cfg : CloudConfig) (draw : ℕ) (d : DataType) (rec : SyncRecord P) :
    Option (Message (SyncRecord P)) := do
  let payload ← if d = .analytics then codec.privatizeAnalyticsPayload draw rec.payload
    else some rec.payload
  let json ← codec.recordToVec { rec with payload := payload }
  return ⟨"astra." ++ cfg.networkName ++ "." ++ d.asStr, json, rec⟩

def prepareToken (codec : Codec P) (cfg : CloudConfig) (token : OfflinePayment) :
    Option (Message OfflinePayment) := do
  let bytes ← codec.tokenToVec token
  return ⟨"astra." ++ cfg.networkName ++ ".offline_payments", bytes, token⟩

/-- The batch reaches 100 records or exceeds 512 KiB. -/
def batchFull (batch : List (Message (SyncRecord P))) : Bool :=
  decide (batch.length ≥ 100) || decide ((batch.map fun m => m.bytes.length).sum > 512 * 1024)

/-! ## The serialization of plain input -/

def variantName : DataType → String
  | .inventory => "Inventory"
  | .cart => "Cart"
  | .transaction => "Transaction"
  | .analytics => "Analytics"

def ascii (s : String) : List UInt8 := s.toList.map fun c => UInt8.ofNat c.toNat

/-- serde's bytes for ASCII strings with nothing to escape and tokens with an empty signature.
Payloads are JSON texts, and none is a sales aggregate, to which noise would be added. -/
def plainCodec : Codec String where
  recordToVec r := some (ascii ("\x7b\"data_type\":\"" ++ variantName r.dataType ++
    "\",\"id\":\"" ++ r.id ++ "\",\"origin\":\"" ++ r.origin.id ++
    "\",\"lamport_ts\":" ++ toString r.lamportTs.toNat ++
    ",\"wallclock_ts\":" ++ toString r.wallclockTs.toNat ++ ",\"payload\":" ++ r.payload ++
    ",\"hmac\":[" ++ ",".intercalate (r.hmac.map fun b => toString b.toNat) ++ "]\x7d"))
  valueToVec payload := some (ascii payload)
  tokenToVec token := some (ascii ("\x7b\"hmac\":\"\",\"payload\":\"" ++ token.payloadJson ++
    "\",\"token_id\":\"" ++ token.tokenId ++ "\"\x7d"))
  privatizeAnalyticsPayload _ payload := some payload

/-- The network name and size limit of a configuration that does not set them. -/
def defaultCloud : CloudConfig := ⟨"astra-kiosk-mesh", 1024 * 1024⟩

/-- The call is about to pass on the offline tokens. -/
def Phase.atTokens : Phase P → Bool
  | .load [] | .fillTokens .. | .publishTokens .. => true
  | _ => false

/-- All records have been dealt with. -/
def Phase.afterRecords : Phase P → Bool
  | .fillTokens .. | .publishTokens .. | .mark _ | .done => true
  | _ => false

/-! ## The steps of a call -/

/-- What a call works on. -/
structure Flushing (P : Type) where
  db : SyncDatabase P
  stream : List (Published P)
  call : FlushCall P

namespace Flushing

def goto (s : Flushing P) (phase : Phase P) : Flushing P :=
  { s with call := { s.call with phase := phase } }

/-- The body of the loop over the loaded records. -/
def take (codec : Codec P) (cfg : CloudConfig) (draw : ℕ) (s : Flushing P) (d : DataType)
    (rest : List DataType) (rec : SyncRecord P) (todo : List (SyncRecord P))
    (batch : List (Message (SyncRecord P))) : Flushing P :=
  match prepare codec cfg draw d rec with
  | none => s.goto (.failed (some d))
  | some m =>
    let s := { s with call := { s.call with prepared := s.call.prepared ++ [m] } }
    -- a record over the size limit is skipped
    if m.bytes.length > cfg.maxMsgSizeBytes then s.goto (.fill d rest todo batch)
    else if batchFull (batch ++ [m]) then s.goto (.publish d rest todo (batch ++ [m]))
    else s.goto (.fill d rest todo (batch ++ [m]))

/-- The body of the loop over the offline tokens. -/
def takeToken (codec : Codec P) (cfg : CloudConfig) (s : Flushing P) (token : OfflinePayment)
    (todo : List OfflinePayment) (batch : List (Message OfflinePayment)) (ids : List String) :
    Flushing P :=
  match prepareToken codec cfg token with
  | none => s.goto (.failed none)
  | some m =>
    if (batch ++ [m]).length ≥ 100 then
      s.goto (.publishTokens todo (batch ++ [m]) (ids ++ [token.tokenId]))
    else s.goto (.fillTokens todo (batch ++ [m]) (ids ++ [token.tokenId]))

/-- One step of the call; `acked` tells whether the acknowledgement of a publish has come. -/
def advance (codec : Codec P) (cfg : CloudConfig) (draw : ℕ) (acked : Bool) (s : Flushing P) :
    Flushing P :=
  match s.call.phase with
  | .idle | .done | .failed _ => s
  | .load [] =>
    let tokens := s.db.loadOfflineQueue 1000
    if tokens.isEmpty then s.goto .done else s.goto (.fillTokens tokens [] [])
  | .load (d :: rest) =>
    let records := s.db.loadDirty d 1000
    if records.isEmpty then s.goto (.load rest) else s.goto (.fill d rest records [])
  | .fill d rest [] batch =>
    if batch.isEmpty then s.goto (.flush d rest) else s.goto (.publish d rest [] batch)
  | .fill d rest (rec :: todo) batch => s.take codec cfg draw d rest rec todo batch
  | .publish d rest todo [] => s.goto (.fill d rest todo [])
  | .publish d rest todo (m :: batch) =>
    if acked then
      { s with
        stream := s.stream ++ [.record m]
        call := { s.call with
          phase := .publish d rest todo batch
          acked := s.call.acked ++ [m] } }
    else s.goto (.failed (some d))
  | .flush d rest =>
    { s with
      db := (s.db.flush d).1
      call := { s.call with phase := .load rest, cleaned := s.call.cleaned ++ [d] } }
  | .fillTokens [] batch ids =>
    if batch.isEmpty then s.goto (.mark ids) else s.goto (.publishTokens [] batch ids)
  | .fillTokens (token :: todo) batch ids => s.takeToken codec cfg token todo batch ids
  | .publishTokens todo [] ids => s.goto (.fillTokens todo [] ids)
  | .publishTokens todo (m :: batch) ids =>
    if acked then
      { s with
        stream := s.stream ++ [.token m]
        call := { s.call with phase := .publishTokens todo batch ids } }
    else s.goto (.failed none)
  | .mark ids => { s.goto .done with db := (s.db.markOfflineFlushed ids).1 }

/-- A step marks a type clean, or marks tokens flushed, or leaves the database alone and at most
adds an acknowledged message to the stream. -/
inductive Effect (s next : Flushing P) : Prop
  | clean (d : DataType) (rest : List DataType) (phase : s.call.phase = .flush d rest)
      (db : next.db = (s.db.flush d).1) (stream : next.stream = s.stream)
  | mark (ids : List String) (phase : s.call.phase = .mark ids)
      (db : next.db = (s.db.markOfflineFlushed ids).1) (stream : next.stream = s.stream)
  | other (notFlush : ∀ d rest, s.call.phase ≠ .flush d rest)
      (notMark : ∀ ids, s.call.phase ≠ .mark ids) (new : List (Published P)) (db : next.db = s.db)
      (stream : next.stream = s.stream ++ new)

theorem Effect.goto {s : Flushing P} (notFlush : ∀ d rest, s.call.phase ≠ .flush d rest)
    (notMark : ∀ ids, s.call.phase ≠ .mark ids) (phase : Phase P) : s.Effect (s.goto phase) :=
  .other notFlush notMark [] rfl (List.append_nil _).symm

/-- What one step of a call does, phase by phase. Steps that only pass on to another phase of the
offline tokens are one case. -/
inductive Advances (codec : Codec P) (cfg : CloudConfig) (draw : ℕ) (acked : Bool)
    (s : Flushing P) : Flushing P → Prop
  | ended (stopped : s.call.isRunning = false) : Advances codec cfg draw acked s s
  | skip {d rest} (phase : s.call.phase = .load (d :: rest)) :
    Advances codec cfg draw acked s (s.goto (.load rest))
  | load {d rest} (phase : s.call.phase = .load (d :: rest)) :
    Advances codec cfg draw acked s (s.goto (.fill d rest (s.db.loadDirty d 1000) []))
  | take {d rest rec todo batch} (phase : s.call.phase = .fill d rest (rec :: todo) batch) :
    Advances codec cfg draw acked s (s.take codec cfg draw d rest rec todo batch)
  | send {d rest batch} (phase : s.call.phase = .fill d rest [] batch) :
    Advances codec cfg draw acked s (s.goto (.publish d rest [] batch))
  | sent {d rest} (phase : s.call.phase = .fill d rest [] []) :
    Advances codec cfg draw acked s (s.goto (.flush d rest))
  | refill {d rest todo} (phase : s.call.phase = .publish d rest todo []) :
    Advances codec cfg draw acked s (s.goto (.fill d rest todo []))
  | publish {d rest todo m batch} (phase : s.call.phase = .publish d rest todo (m :: batch)) :
    Advances codec cfg draw acked s { s with
      stream := s.stream ++ [.record m]
      call := { s.call with phase := .publish d rest todo batch, acked := s.call.acked ++ [m] } }
  | refused {d rest todo m batch} (phase : s.call.phase = .publish d rest todo (m :: batch))
      (outcome : acked = false) : Advances codec cfg draw acked s (s.goto (.failed (some d)))
  | flush {d rest} (phase : s.call.phase = .flush d rest) :
    Advances codec cfg draw acked s { s with
      db := (s.db.flush d).1
      call := { s.call with phase := .load rest, cleaned := s.call.cleaned ++ [d] } }
  | tokens {next : Phase P} (at_tokens : s.call.phase.atTokens = true)
      (next_tokens : next.afterRecords = true) : Advances codec cfg draw acked s (s.goto next)
  | token {todo m batch ids} (phase : s.call.phase = .publishTokens todo (m :: batch) ids) :
    Advances codec cfg draw acked s { s with
      stream := s.stream ++ [.token m]
      call := { s.call with phase := .publishTokens todo batch ids } }
  | failed (at_tokens : s.call.phase.atTokens = true) :
    Advances codec cfg draw acked s (s.goto (.failed none))
  | mark {ids} (phase : s.call.phase = .mark ids) :
    Advances codec cfg draw acked s { s.goto .done with db := (s.db.markOfflineFlushed ids).1 }

theorem advance_advances (codec : Codec P) (cfg : CloudConfig) (draw : ℕ) (acked : Bool)
    (s : Flushing P) : s.Advances codec cfg draw acked (s.advance codec cfg draw acked) := by
  cases hphase : s.call.phase with
  | idle | done | failed =>
    simp only [advance, hphase]
    exact .ended (by simp [FlushCall.isRunning, hphase])
  | load types =>
    cases types with
    | nil =>
      simp only [advance, hphase]
      split <;> exact .tokens (by rw [hphase]; rfl) rfl
    | cons d rest =>
      simp only [advance, hphase]
      split
      · exact .skip hphase
      · exact .load hphase
  | fill d rest todo batch =>
    cases todo with
    | nil =>
      simp only [advance, hphase]
      split
      · rename_i empty
        rw [List.isEmpty_iff] at empty
        exact .sent (empty ▸ hphase)
      · exact .send hphase
    | cons rec todo =>
      simp only [advance, hphase]
      exact .take hphase
  | publish d rest todo batch =>
    cases batch with
    | nil =>
      simp only [advance, hphase]
      exact .refill hphase
    | cons m batch =>
      simp only [advance, hphase]
      split
      · exact .publish hphase
      · rename_i outcome
        exact .refused hphase (Bool.eq_false_iff.mpr outcome)
  | flush d rest =>
    simp only [advance, hphase]
    exact .flush hphase
  | fillTokens todo batch ids =>
    have at_tokens : s.call.phase.atTokens = true := by rw [hphase]; rfl
    cases todo with
    | nil =>
      simp only [advance, hphase]
      split <;> exact .tokens at_tokens rfl
    | cons token todo =>
      simp only [advance, hphase, takeToken]
      split
      · exact .failed at_tokens
      · split <;> exact .tokens at_tokens rfl
  | publishTokens todo batch ids =>
    have at_tokens : s.call.phase.atTokens = true := by rw [hphase]; rfl
    cases batch with
    | nil =>
      simp only [advance, hphase]
      exact .tokens at_tokens rfl
    | cons m batch =>
      simp only [advance, hphase]
      split
      · exact .token hphase
      · exact .failed at_tokens
  | mark ids =>
    simp only [advance, hphase]
    exact .mark hphase

theorem advance_effect (codec : Codec P) (cfg : CloudConfig) (draw : ℕ) (ok : Bool)
    (s : Flushing P) : s.Effect (s.advance codec cfg draw ok) := by
  have same : s.stream = s.stream ++ [] := (List.append_nil _).symm
  have step := advance_advances codec cfg draw ok s
  generalize s.advance codec cfg draw ok = next at step ⊢
  cases step with
  | ended stopped =>
    exact .other (by intro d rest h; simp [FlushCall.isRunning, h] at stopped)
      (by intro ids h; simp [FlushCall.isRunning, h] at stopped) [] rfl same
  | skip phase | load phase | send phase | sent phase | refill phase | refused phase =>
    exact .goto (by simp [phase]) (by simp [phase]) _
  | take phase =>
    have notFlush : ∀ d rest, s.call.phase ≠ .flush d rest := by simp [phase]
    have notMark : ∀ ids, s.call.phase ≠ .mark ids := by simp [phase]
    unfold take
    split
    · exact .goto notFlush notMark _
    · -- the message is recorded before the call goes on
      split
      · exact .other notFlush notMark [] rfl same
      · split <;> exact .other notFlush notMark [] rfl same
  | publish phase => exact .other (by simp [phase]) (by simp [phase]) [_] rfl rfl
  | flush phase => exact .clean _ _ phase rfl rfl
  | tokens at_tokens _ | failed at_tokens =>
    exact .goto (by intro d rest h; simp [Phase.atTokens, h] at at_tokens)
      (by intro ids h; simp [Phase.atTokens, h] at at_tokens) _
  | token phase => exact .other (by simp [phase]) (by simp [phase]) [_] rfl rfl
  | mark phase => exact .mark _ phase rfl rfl

end Flushing

end SyncDaemon.Cloud
