import Mathlib.Data.List.GetD
import AstraSystem.Lib.Framing
import AstraSystem.SyncDaemon.Crdt.Hlc
import AstraSystem.SyncDaemon.Types

/-!
# The binary sync protocol (`protocol/mod.rs`)

A frame is a magic word, a version byte, the length of the payload in four
big-endian bytes, and the payload, which `bincode` makes of a message.
-/

namespace SyncDaemon.Protocol

open Crdt (Hlc)
open Framing (Decoder)

structure SyncHandshake where
  protocolVersion : UInt8
  kioskId : String
  supportedDataTypes : List UInt8
  nonce : List UInt8
  deriving DecidableEq, Repr

structure SyncDelta where
  sessionId : String
  dataType : UInt8
  sequenceNumber : UInt64
  records : List (List UInt8)
  deriving DecidableEq, Repr

structure SyncAck where
  sessionId : String
  receivedCount : UInt64
  lastHlc : Hlc
  deriving DecidableEq, Repr

structure RaftHeartbeat where
  term : UInt64
  leaderId : String
  deriving DecidableEq, Repr

structure RaftRequestVote where
  term : UInt64
  candidateId : String
  lastLogIndex : UInt64
  lastLogTerm : UInt64
  deriving DecidableEq, Repr

structure RaftVoteResponse where
  term : UInt64
  voteGranted : Bool
  deriving DecidableEq, Repr

inductive SyncProtocol where
  | handshake (m : SyncHandshake)
  | delta (m : SyncDelta)
  | ack (m : SyncAck)
  | raftHeartbeat (m : RaftHeartbeat)
  | raftRequestVote (m : RaftRequestVote)
  | raftVoteResponse (m : RaftVoteResponse)
  deriving DecidableEq, Repr

/-- `bincode::serialize` and `bincode::deserialize`, with the texts of their errors. -/
structure Bincode where
  serialize : SyncProtocol → Except String (List UInt8)
  deserialize : List UInt8 → Except String SyncProtocol

def syncMagic : List UInt8 := [0x41, 0x53, 0x54, 0x52]

def protocolVersion : UInt8 := 1

def maxFrameSize : ℕ := 16 * 1024 * 1024

/-- `put_u32` -/
def beBytes (n : UInt32) : List UInt8 :=
  [UInt8.ofNat (n.toNat / 2 ^ 24), UInt8.ofNat (n.toNat / 2 ^ 16), UInt8.ofNat (n.toNat / 2 ^ 8),
    UInt8.ofNat n.toNat]

/-- `u32::from_be_bytes(..) as usize` -/
def fromBeBytes (a b c d : UInt8) : ℕ :=
  a.toNat * 2 ^ 24 + b.toNat * 2 ^ 16 + c.toNat * 2 ^ 8 + d.toNat

namespace SyncProtocol

variable (bincode : Bincode)

def toBytes (self : SyncProtocol) : Except AstraSyncError (List UInt8) :=
  (bincode.serialize self).mapError fun e => .serialization ("bincode serialize failed: " ++ e)

def fromBytes (bytes : List UInt8) : Except AstraSyncError SyncProtocol :=
  (bincode.deserialize bytes).mapError fun e => .serialization ("bincode deserialize failed: " ++ e)

def encode (self : SyncProtocol) : Except AstraSyncError (List UInt8) := do
  let payload ← self.toBytes bincode
  if payload.length > maxFrameSize then
    .error (.p2p ("protocol frame payload too large: " ++ toString payload.length ++
      " bytes (max " ++ toString maxFrameSize ++ ")"))
  else
    .ok (syncMagic ++ [protocolVersion] ++ beBytes (UInt32.ofNat payload.length) ++ payload)

/-- The result, and the buffer afterwards. -/
def decode (buf : List UInt8) : Option (Except AstraSyncError SyncProtocol) × List UInt8 :=
  if buf.length < syncMagic.length + 1 + 4 then (none, buf)
  else if buf.take syncMagic.length ≠ syncMagic then
    -- misaligned: give up one byte and let the caller retry
    (some (.error (.p2p "protocol frame magic mismatch")), buf.drop 1)
  else
    let version := buf.getD syncMagic.length 0
    if version ≠ protocolVersion then
      (some (.error (.p2p ("unsupported protocol version: " ++ toString version))),
        buf.drop (syncMagic.length + 1))
    else
      let payloadLen := fromBeBytes (buf.getD (syncMagic.length + 1) 0)
        (buf.getD (syncMagic.length + 2) 0) (buf.getD (syncMagic.length + 3) 0)
        (buf.getD (syncMagic.length + 4) 0)
      if payloadLen > maxFrameSize then
        (some (.error (.p2p ("protocol frame payload length exceeds maximum: " ++
          toString payloadLen))), buf.drop (syncMagic.length + 1 + 4))
      else
        let frameLen := syncMagic.length + 1 + 4 + payloadLen
        if buf.length < frameLen then (none, buf)
        else
          let payload := (buf.take frameLen).drop (syncMagic.length + 5)
          (some (fromBytes bincode payload), buf.drop frameLen)

/-- A call either waits and leaves the buffer alone, or takes something off its front. -/
inductive Decoded (buf : List UInt8) :
    Option (Except AstraSyncError SyncProtocol) × List UInt8 → Prop
  | waits : Decoded buf (none, buf)
  | takes (r : Except AstraSyncError SyncProtocol) (k : ℕ) (pos : 0 < k) (le : k ≤ buf.length) :
      Decoded buf (some r, buf.drop k)

theorem decode_decoded (buf : List UInt8) : Decoded buf (decode bincode buf) := by
  have magic : syncMagic.length = 4 := rfl
  simp only [decode, magic]
  by_cases short : buf.length < 4 + 1 + 4
  · rw [if_pos short]
    exact .waits
  · rw [if_neg short]
    split_ifs
    · exact .takes _ 1 (by omega) (by omega)
    · exact .takes _ (4 + 1) (by omega) (by omega)
    · exact .takes _ (4 + 1 + 4) (by omega) (by omega)
    · exact .waits
    · exact .takes _ _ (by omega) (by omega)

/-- What follows a frame in the buffer has no influence on it. -/
theorem decode_append {buf rest : List UInt8} {r : Except AstraSyncError SyncProtocol}
    (more : List UInt8) (h : decode bincode buf = (some r, rest)) :
    decode bincode (buf ++ more) = (some r, rest ++ more) := by
  have magic : syncMagic.length = 4 := rfl
  simp only [decode, magic] at h ⊢
  by_cases short : buf.length < 4 + 1 + 4
  · rw [if_pos short] at h
    cases h
  · have long : ¬ (buf ++ more).length < 4 + 1 + 4 := by
      rw [List.length_append]
      omega
    have front : (buf ++ more).take 4 = buf.take 4 := List.take_append_of_le_length (by omega)
    have byte (k : ℕ) (hk : k < 9) : (buf ++ more).getD k 0 = buf.getD k 0 :=
      List.getD_append _ _ _ _ (by omega)
    have past (k : ℕ) (hk : k ≤ buf.length) : (buf ++ more).drop k = buf.drop k ++ more :=
      List.drop_append_of_le_length hk
    rw [if_neg short] at h
    rw [if_neg long, front, byte 4 (by omega), byte (4 + 1) (by omega), byte (4 + 2) (by omega),
      byte (4 + 3) (by omega), byte (4 + 4) (by omega)]
    split_ifs at h ⊢ with magic_ok version_ok size_ok full' full
    all_goals cases h
    · rw [past 1 (by omega)]
    · rw [past (4 + 1) (by omega)]
    · rw [past (4 + 1 + 4) (by omega)]
    · rw [List.length_append] at full'
      omega
    · rw [past _ (by omega), List.take_append_of_le_length (by omega)]

def decoder : Decoder UInt8 (Except AstraSyncError SyncProtocol) where
  decode := decode bincode
  waits := by
    intro buf rest h
    have decoded := decode_decoded bincode buf
    rw [h] at decoded
    cases decoded with
    | waits => rfl
  takes := by
    intro buf r rest h
    have decoded := decode_decoded bincode buf
    rw [h] at decoded
    cases decoded with
    | takes _ k pos le =>
      rw [List.length_drop]
      omega
  stable := fun more h => decode_append bincode more h

/-! ## Round trip -/

theorem fromBeBytes_beBytes {n : UInt32} {a b c d : UInt8} (h : beBytes n = [a, b, c, d]) :
    fromBeBytes a b c d = n.toNat := by
  have bound := n.toNat_lt
  simp only [beBytes, List.cons.injEq, and_true] at h
  obtain ⟨rfl, rfl, rfl, rfl⟩ := h
  simp only [fromBeBytes, UInt8.toNat_ofNat']
  omega

/-- `bincode` makes a payload of the message that fits into a frame, and reads it back. -/
def Fits (m : SyncProtocol) : Prop :=
  ∃ payload, bincode.serialize m = .ok payload ∧ payload.length ≤ maxFrameSize ∧
    bincode.deserialize payload = .ok m

variable {bincode}

/-- Decoding undoes framing. -/
theorem decode_frame {payload : List UInt8} (fits : payload.length ≤ maxFrameSize) :
    decode bincode
        (syncMagic ++ [protocolVersion] ++ beBytes (UInt32.ofNat payload.length) ++ payload) =
      (some (fromBytes bincode payload), []) := by
  have bytes : ∃ a b c d, beBytes (UInt32.ofNat payload.length) = [a, b, c, d] :=
    ⟨_, _, _, _, rfl⟩
  obtain ⟨a, b, c, d, eq⟩ := bytes
  have size : fromBeBytes a b c d = payload.length := by
    rw [fromBeBytes_beBytes eq, UInt32.toNat_ofNat', Nat.mod_eq_of_lt]
    simp only [maxFrameSize] at fits
    omega
  rw [eq]
  generalize hbuf : syncMagic ++ [protocolVersion] ++ [a, b, c, d] ++ payload = buf
  have length : buf.length = 9 + payload.length := by
    rw [← hbuf]
    simp only [syncMagic, List.length_append, List.length_cons, List.length_nil]
  have magic : buf.take 4 = syncMagic := by rw [← hbuf]; rfl
  have version : buf.getD 4 0 = protocolVersion := by rw [← hbuf]; rfl
  have len : fromBeBytes (buf.getD (4 + 1) 0) (buf.getD (4 + 2) 0) (buf.getD (4 + 3) 0)
      (buf.getD (4 + 4) 0) = payload.length := by rw [← size, ← hbuf]; rfl
  have body : (buf.take (4 + 1 + 4 + payload.length)).drop (4 + 5) = payload := by
    rw [List.take_of_length_le (by omega), ← hbuf]
    rfl
  have rest : buf.drop (4 + 1 + 4 + payload.length) = [] := List.drop_of_length_le (by omega)
  simp only [decode, show syncMagic.length = 4 from rfl, magic, version, len, body, rest]
  rw [if_neg (by omega), if_neg (by simp), if_neg (by simp), if_neg (by omega), if_neg (by omega)]

theorem encode_fits {m : SyncProtocol} (h : Fits bincode m) :
    ∃ wire, m.encode bincode = .ok wire ∧ decode bincode wire = (some (.ok m), []) := by
  obtain ⟨payload, serialized, fits, deserialized⟩ := h
  refine ⟨_, ?_, (decode_frame fits).trans ?_⟩
  · simp only [encode, toBytes, serialized, Except.mapError, bind, Except.bind]
    exact if_neg (by omega)
  · simp only [fromBytes, deserialized, Except.mapError]

theorem encode_all {ms : List SyncProtocol} (h : ∀ m ∈ ms, Fits bincode m) :
    ∃ wires, ms.mapM (encode bincode) = .ok wires ∧
      List.Forall₂ (fun wire r => (decoder bincode).decode wire = (some r, [])) wires
        (ms.map .ok) := by
  induction ms with
  | nil => exact ⟨[], rfl, .nil⟩
  | cons m ms ih =>
    obtain ⟨wire, encoded, decodes⟩ := encode_fits (h m List.mem_cons_self)
    obtain ⟨wires, all, decode_all⟩ := ih fun m hm => h m (List.mem_cons_of_mem _ hm)
    refine ⟨wire :: wires, ?_, .cons decodes decode_all⟩
    rw [List.mapM_cons, encoded, all]
    rfl

variable (bincode) in
/-- **Framing does not depend on how the stream is cut.** However the bytes of encoded messages
are cut into chunks, decoding after each chunk gives the messages in order, no error and in the
end an empty buffer. On every buffer, a call takes at least one byte or leaves all of them. -/
theorem framing_independent (ms : List SyncProtocol) (fits : ∀ m ∈ ms, Fits bincode m) :
    (∃ wires, ms.mapM (encode bincode) = .ok wires ∧
      ∀ chunks : List (List UInt8), chunks.flatten = wires.flatten →
        (decoder bincode).feed [] chunks = (ms.map .ok, [])) ∧
    ∀ buf, (∀ r rest, decode bincode buf = (some r, rest) →
        ∃ k, 0 < k ∧ k ≤ buf.length ∧ rest = buf.drop k) ∧
      ∀ rest, decode bincode buf = (none, rest) → rest = buf := by
  constructor
  · obtain ⟨wires, encoded, decodes⟩ := encode_all fits
    have empty : (decoder bincode).decode [] = (none, []) := rfl
    refine ⟨wires, encoded, ?_⟩
    intro chunks cut
    rw [Decoder.feed_eq_drain _ (Decoder.drain_wait empty), List.nil_append, cut]
    exact Decoder.drain_frames decodes empty
  · intro buf
    have decoded := decode_decoded bincode buf
    constructor
    · intro r rest h
      rw [h] at decoded
      cases decoded with
      | takes _ k pos le => exact ⟨k, pos, le, rfl⟩
    · intro rest h
      exact (decoder bincode).waits h

def vote : SyncProtocol := .raftVoteResponse ⟨3, true⟩

/-- `bincode` on one message: the index of the variant, the term, the flag. -/
def voteBincode : Bincode where
  serialize m := if m = vote then .ok [5, 0, 0, 0, 3, 0, 0, 0, 0, 0, 0, 0, 1] else .error "other"
  deserialize bytes :=
    if bytes = [5, 0, 0, 0, 3, 0, 0, 0, 0, 0, 0, 0, 1] then .ok vote else .error "other"

/-- Two votes, cut inside the first magic word and inside the second length. -/
theorem framing_independent_two_votes :
    (decoder voteBincode).feed [] [[0x41, 0x53],
      [0x54, 0x52, 1, 0, 0, 0, 13, 5, 0, 0, 0, 3, 0, 0, 0, 0, 0, 0, 0, 1, 0x41, 0x53, 0x54, 0x52,
        1, 0, 0],
      [0, 13, 5, 0, 0, 0, 3, 0, 0, 0, 0, 0, 0, 0, 1]] = ([.ok vote, .ok vote], []) := by
  have fits : ∀ m ∈ [vote, vote], Fits voteBincode m := by
    intro m hm
    obtain rfl : m = vote := by simpa using hm
    exact ⟨[5, 0, 0, 0, 3, 0, 0, 0, 0, 0, 0, 0, 1], rfl, by decide, rfl⟩
  obtain ⟨wires, encoded, feeds⟩ := (framing_independent voteBincode [vote, vote] fits).1
  obtain rfl := Except.ok.inj (encoded.symm.trans rfl)
  exact feeds _ rfl

end SyncProtocol

end SyncDaemon.Protocol
