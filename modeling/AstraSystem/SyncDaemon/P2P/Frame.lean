import AstraSystem.SyncDaemon.Protocol

/-!
# Encrypted frames between peers (`p2p/protocol.rs`)

A frame is a magic word, a version byte, a nonce and a ciphertext, both with
their lengths in front. The sender refuses a frame over the maximum size; the
receiver waits for whatever lengths the peer announces, unlike its sibling in
`protocol/mod.rs`.
-/

namespace SyncDaemon.P2P

open Framing (Decoder)
open Protocol (beBytes fromBeBytes)

def syncMagic : List UInt8 := [0x41, 0x53, 0x54, 0x52]

def syncVersion : UInt8 := 0x01

def maxFrameSize : ℕ := 1024 * 1024

structure SyncFrame where
  nonce : List UInt8
  ciphertext : List UInt8
  deriving DecidableEq, Repr

/-- `u32::from_be_bytes` of four bytes of the buffer, `as usize`. -/
def lengthAt (buf : List UInt8) (i : ℕ) : ℕ :=
  fromBeBytes (buf.getD i 0) (buf.getD (i + 1) 0) (buf.getD (i + 2) 0) (buf.getD (i + 3) 0)

namespace SyncFrame

def totalLen (self : SyncFrame) : ℕ := 4 + 1 + 4 + self.nonce.length + 4 + self.ciphertext.length

def encode (self : SyncFrame) : Except AstraSyncError (List UInt8) :=
  if self.totalLen > maxFrameSize + 13 then
    .error (.p2p ("frame too large: " ++ toString self.totalLen ++ " bytes (max " ++
      toString maxFrameSize ++ ")"))
  else
    .ok (syncMagic ++ [syncVersion] ++ beBytes (UInt32.ofNat self.nonce.length) ++ self.nonce ++
      beBytes (UInt32.ofNat self.ciphertext.length) ++ self.ciphertext)

/-- The result, and the buffer afterwards. -/
def decode (buf : List UInt8) : Option (Except AstraSyncError SyncFrame) × List UInt8 :=
  if buf.length < 9 then (none, buf)
  else if buf.take 4 ≠ syncMagic then
    -- corrupt or misaligned: give up one byte
    (some (.error (.p2p "frame magic mismatch — stream may be misaligned")), buf.drop 1)
  else
    let version := buf.getD 4 0
    if version ≠ syncVersion then
      (some (.error (.p2p ("unsupported protocol version: " ++ toString version))), buf.drop 5)
    else
      let nonceLen := lengthAt buf 5
      let headerLen := 9 + 4 + nonceLen
      if buf.length < headerLen then (none, buf)
      else
        let ctLen := lengthAt buf (9 + nonceLen)
        let totalLen := headerLen + ctLen
        if buf.length < totalLen then (none, buf)
        else
          let nonce := (buf.take (9 + nonceLen)).drop 9
          let ciphertext := (buf.take (13 + nonceLen + ctLen)).drop (13 + nonceLen)
          (some (.ok ⟨nonce, ciphertext⟩), buf.drop totalLen)

end SyncFrame

/-! ## What a call does -/

/-- The buffer starts as a frame of this version does. -/
def Headed (buf : List UInt8) : Prop :=
  9 ≤ buf.length ∧ buf.take 4 = syncMagic ∧ buf.getD 4 0 = syncVersion

instance decidableHeaded (buf : List UInt8) : Decidable (Headed buf) :=
  inferInstanceAs (Decidable (_ ∧ _ ∧ _))

/-- The length of the frame that the bytes read so far announce: without the length of the
ciphertext, the least it can be. -/
def announced (buf : List UInt8) : ℕ :=
  let headerLen := 13 + lengthAt buf 5
  if buf.length < headerLen then headerLen
  else headerLen + lengthAt buf (9 + lengthAt buf 5)

/-- The frame at the front of a buffer that holds all of it. -/
def frameOf (buf : List UInt8) : SyncFrame where
  nonce := (buf.take (9 + lengthAt buf 5)).drop 9
  ciphertext := (buf.take (announced buf)).drop (13 + lengthAt buf 5)

/-- A call waits for more, gives up a few bytes, or takes a frame. -/
inductive Decoded (buf : List UInt8) :
    Option (Except AstraSyncError SyncFrame) × List UInt8 → Prop
  | short (h : buf.length < 9) : Decoded buf (none, buf)
  | skips (e : AstraSyncError) (k : ℕ) (headed : ¬ Headed buf) (pos : 0 < k)
      (le : k ≤ buf.length) : Decoded buf (some (.error e), buf.drop k)
  | waits (headed : Headed buf) (h : buf.length < announced buf) : Decoded buf (none, buf)
  | takes (headed : Headed buf) (read : 13 + lengthAt buf 5 ≤ announced buf)
      (h : announced buf ≤ buf.length) :
      Decoded buf (some (.ok (frameOf buf)), buf.drop (announced buf))

theorem decode_decoded (buf : List UInt8) : Decoded buf (SyncFrame.decode buf) := by
  unfold SyncFrame.decode
  split
  · rename_i short
    exact .short short
  · rename_i long
    rw [Nat.not_lt] at long
    split
    · rename_i magic
      exact .skips _ 1 (fun headed => magic headed.2.1) (by omega) (by omega)
    · rename_i magic
      rw [ne_eq, not_not] at magic
      dsimp only
      split
      · rename_i version
        exact .skips _ 5 (fun headed => version headed.2.2) (by omega) (by omega)
      · rename_i version
        rw [ne_eq, not_not] at version
        have headed : Headed buf := ⟨long, magic, version⟩
        split
        · rename_i header
          refine .waits headed ?_
          rw [announced, if_pos header]
          exact header
        · rename_i header
          have all : announced buf = 13 + lengthAt buf 5 + lengthAt buf (9 + lengthAt buf 5) :=
            if_neg header
          rw [← all]
          split
          · rename_i body
            exact .waits headed body
          · rename_i body
            exact .takes headed (by omega) (Nat.not_lt.mp body)

theorem waiting_cases {buf : List UInt8} (waiting : (SyncFrame.decode buf).1 = none) :
    buf.length < 9 ∨ Headed buf ∧ buf.length < announced buf := by
  have decoded := decode_decoded buf
  generalize SyncFrame.decode buf = result at decoded waiting
  cases decoded with
  | short h => exact .inl h
  | skips => cases waiting
  | waits headed h => exact .inr ⟨headed, h⟩
  | takes => cases waiting

/-! ## A frame on the wire -/

theorem beBytes_fromBeBytes (a b c d : UInt8) :
    beBytes (UInt32.ofNat (fromBeBytes a b c d)) = [a, b, c, d] := by
  have ha := a.toNat_lt
  have hb := b.toNat_lt
  have hc := c.toNat_lt
  have hd := d.toNat_lt
  have fits : fromBeBytes a b c d < 2 ^ 32 := by
    unfold fromBeBytes
    omega
  simp only [beBytes, UInt32.toNat_ofNat', Nat.mod_eq_of_lt fits, List.cons.injEq, and_true,
    ← UInt8.toNat_inj, UInt8.toNat_ofNat']
  unfold fromBeBytes
  omega

theorem four_bytes {buf : List UInt8} {i : ℕ} (h : i + 4 ≤ buf.length) :
    (buf.drop i).take 4 = beBytes (UInt32.ofNat (lengthAt buf i)) := by
  have at' (k : ℕ) (hk : k < 4) : buf.getD (i + k) 0 = buf.get ⟨i + k, by omega⟩ :=
    List.getD_eq_getElem _ _ (by omega)
  rw [lengthAt, beBytes_fromBeBytes, show buf.getD i 0 = _ from at' 0 (by omega), at' 1 (by omega),
    at' 2 (by omega), at' 3 (by omega)]
  apply List.ext_getElem
  · rw [List.length_take, List.length_drop]
    simp only [List.length_cons, List.length_nil]
    omega
  · intro k hk hk'
    rw [List.getElem_take, List.getElem_drop]
    simp only [List.length_cons, List.length_nil] at hk'
    obtain rfl | rfl | rfl | rfl : k = 0 ∨ k = 1 ∨ k = 2 ∨ k = 3 := by omega
    all_goals rfl

theorem lengthAt_append {buf : List UInt8} {i : ℕ} (more : List UInt8) (h : i + 4 ≤ buf.length) :
    lengthAt (buf ++ more) i = lengthAt buf i := by
  have byte (k : ℕ) (hk : k < 4) : (buf ++ more).getD (i + k) 0 = buf.getD (i + k) 0 :=
    List.getD_append _ _ _ _ (by omega)
  rw [lengthAt, show (buf ++ more).getD i 0 = _ from byte 0 (by omega), byte 1 (by omega),
    byte 2 (by omega), byte 3 (by omega), lengthAt]
  rfl

section
variable {buf : List UInt8}

/-- The bytes of a frame that is all there. -/
theorem take_announced (headed : Headed buf) (read : 13 + lengthAt buf 5 ≤ announced buf)
    (h : announced buf ≤ buf.length) :
    buf.take (announced buf) =
      syncMagic ++ [syncVersion] ++ beBytes (UInt32.ofNat (lengthAt buf 5)) ++ (frameOf buf).nonce ++
        beBytes (UInt32.ofNat (lengthAt buf (9 + lengthAt buf 5))) ++ (frameOf buf).ciphertext := by
  obtain ⟨long, magic, version⟩ := headed
  have all : announced buf = 4 + 1 + 4 + lengthAt buf 5 + 4 + lengthAt buf (9 + lengthAt buf 5) := by
    rw [announced, if_neg (by omega)]
    omega
  have ver : (buf.drop 4).take 1 = [syncVersion] := by
    rw [← version, List.getD_eq_getElem _ _ (by omega : 4 < buf.length),
      List.drop_eq_getElem_cons (by omega : 4 < buf.length), List.take_succ_cons, List.take_zero]
  have nonce : (buf.drop 9).take (lengthAt buf 5) = (frameOf buf).nonce := by
    rw [frameOf, List.drop_take, Nat.add_sub_cancel_left]
  have body : (buf.drop (13 + lengthAt buf 5)).take (lengthAt buf (9 + lengthAt buf 5)) =
      (frameOf buf).ciphertext := by
    have size : announced buf - (13 + lengthAt buf 5) = lengthAt buf (9 + lengthAt buf 5) := by omega
    show _ = (buf.take (announced buf)).drop (13 + lengthAt buf 5)
    rw [List.drop_take, size]
  rw [all, List.take_add, List.take_add, List.take_add, List.take_add, List.take_add, magic, ver,
    show 4 + 1 + 4 + lengthAt buf 5 + 4 = 13 + lengthAt buf 5 by omega, body,
    four_bytes (i := 4 + 1) (by omega), nonce, four_bytes (by omega)]

theorem totalLen_frameOf (read : 13 + lengthAt buf 5 ≤ announced buf)
    (h : announced buf ≤ buf.length) : (frameOf buf).totalLen = announced buf := by
  simp only [SyncFrame.totalLen, frameOf, List.length_drop, List.length_take]
  omega

/-- A frame that fits is sent again as the bytes it came in. -/
theorem encode_frameOf (headed : Headed buf) (read : 13 + lengthAt buf 5 ≤ announced buf)
    (h : announced buf ≤ buf.length) (fits : announced buf ≤ maxFrameSize + 13) :
    (frameOf buf).encode = .ok (buf.take (announced buf)) := by
  have nonce : (frameOf buf).nonce.length = lengthAt buf 5 := by
    simp only [frameOf, List.length_drop, List.length_take]
    omega
  have body : (frameOf buf).ciphertext.length = lengthAt buf (9 + lengthAt buf 5) := by
    have all : announced buf = 13 + lengthAt buf 5 + lengthAt buf (9 + lengthAt buf 5) :=
      if_neg (by omega)
    simp only [frameOf, List.length_drop, List.length_take]
    omega
  rw [SyncFrame.encode, totalLen_frameOf read h, if_neg (Nat.not_lt.mpr fits), nonce, body,
    take_announced headed read h]

theorem Headed.append (headed : Headed buf) (more : List UInt8) : Headed (buf ++ more) := by
  obtain ⟨long, magic, version⟩ := headed
  refine ⟨?_, ?_, ?_⟩
  · rw [List.length_append]
    omega
  · rw [List.take_append_of_le_length (by omega), magic]
  · rw [List.getD_append _ _ _ _ (by omega), version]

/-- As long as the decoder waits, more bytes do not change what it waits for. -/
theorem announced_append (headed : Headed buf) {more : List UInt8}
    (h : (buf ++ more).length < announced buf) : announced (buf ++ more) = announced buf := by
  have long := headed.1
  have nonce := lengthAt_append (i := 5) more (by omega)
  unfold announced at h ⊢
  dsimp only at h ⊢
  rw [nonce]
  rw [List.length_append] at h ⊢
  split at h
  · rw [if_pos h, if_pos (by omega)]
  · rename_i read
    rw [if_neg (by omega), if_neg read, lengthAt_append more (by omega)]

end

/-- What follows a frame in the buffer has no influence on it. -/
theorem decode_append {buf rest : List UInt8} {r : Except AstraSyncError SyncFrame}
    (more : List UInt8) (h : SyncFrame.decode buf = (some r, rest)) :
    SyncFrame.decode (buf ++ more) = (some r, rest ++ more) := by
  simp only [SyncFrame.decode] at h ⊢
  by_cases short : buf.length < 9
  · rw [if_pos short] at h
    cases h
  · have long : ¬ (buf ++ more).length < 9 := by
      rw [List.length_append]
      omega
    have front : (buf ++ more).take 4 = buf.take 4 := List.take_append_of_le_length (by omega)
    have version : (buf ++ more).getD 4 0 = buf.getD 4 0 := List.getD_append _ _ _ _ (by omega)
    have past (k : ℕ) (hk : k ≤ buf.length) : (buf ++ more).drop k = buf.drop k ++ more :=
      List.drop_append_of_le_length hk
    rw [if_neg short] at h
    rw [if_neg long, front, version, lengthAt_append more (by omega)]
    split at h
    · rename_i magic
      cases h
      rw [if_pos magic, past 1 (by omega)]
    · rename_i magic
      rw [if_neg magic]
      split at h
      · rename_i other
        cases h
        rw [if_pos other, past 5 (by omega)]
      · rename_i own
        rw [if_neg own]
        split at h
        · cases h
        · rename_i header
          rw [List.length_append, if_neg (by omega), lengthAt_append more (by omega)]
          split at h
          · cases h
          · rename_i body
            cases h
            rw [if_neg (by omega), past _ (by omega), List.take_append_of_le_length (by omega),
              List.take_append_of_le_length (by omega)]

theorem decode_waits {buf rest : List UInt8} (h : SyncFrame.decode buf = (none, rest)) : rest = buf := by
  have decoded := decode_decoded buf
  rw [h] at decoded
  cases decoded with
  | short => rfl
  | waits => rfl

theorem length_decode_lt {buf rest : List UInt8} {r : Except AstraSyncError SyncFrame}
    (h : SyncFrame.decode buf = (some r, rest)) : rest.length < buf.length := by
  have decoded := decode_decoded buf
  rw [h] at decoded
  cases decoded with
  | skips _ k _ pos le =>
    rw [List.length_drop]
    omega
  | takes _ read le =>
    rw [List.length_drop]
    omega

def decoder : Decoder UInt8 (Except AstraSyncError SyncFrame) where
  decode := SyncFrame.decode
  waits := decode_waits
  takes := length_decode_lt
  stable := decode_append

/-! ## What the receiver waits for -/

/-- The frame at the front of a buffer, as far as it is announced, is one a sender may make. -/
def Fits (buf : List UInt8) : Prop := Headed buf → announced buf ≤ maxFrameSize + 13

/-- The decoder waits only for frames a sender may make, and takes only such. -/
structure Exact (buf : List UInt8) : Prop where
  waits : 9 ≤ buf.length → (SyncFrame.decode buf).1 = none → announced buf ≤ maxFrameSize + 13
  reencodes : ∀ frame rest, SyncFrame.decode buf = (some (.ok frame), rest) →
    ∃ wire, frame.encode = .ok wire ∧ buf = wire ++ rest
  bounded : (SyncFrame.decode buf).1 = none → buf.length ≤ maxFrameSize + 13

theorem length_of_waiting {buf : List UInt8} (fits : Fits buf)
    (waiting : (SyncFrame.decode buf).1 = none) : buf.length < maxFrameSize + 13 := by
  obtain short | ⟨headed, h⟩ := waiting_cases waiting
  · unfold maxFrameSize
    omega
  · exact Nat.lt_of_lt_of_le h (fits headed)

theorem exact_of_fits {buf : List UInt8} (fits : Fits buf) : Exact buf where
  waits long waiting := by
    obtain short | ⟨headed, -⟩ := waiting_cases waiting
    · omega
    · exact fits headed
  reencodes frame rest h := by
    have decoded := decode_decoded buf
    rw [h] at decoded
    cases decoded with
    | takes headed read le =>
      exact ⟨_, encode_frameOf headed read le (fits headed), (List.take_append_drop _ _).symm⟩
  bounded waiting := (length_of_waiting fits waiting).le

theorem fits_of_exact {buf : List UInt8} (exact : Exact buf) : Fits buf := by
  intro headed
  have decoded := decode_decoded buf
  generalize hr : SyncFrame.decode buf = result at decoded
  cases decoded with
  | short h =>
    have := headed.1
    omega
  | skips _ _ other => exact absurd headed other
  | waits => exact exact.waits headed.1 (congrArg Prod.fst hr)
  | takes _ read le =>
    obtain ⟨wire, encoded, -⟩ := exact.reencodes _ _ hr
    unfold SyncFrame.encode at encoded
    split at encoded
    · cases encoded
    · rename_i small
      rw [totalLen_frameOf read le] at small
      exact Nat.not_lt.mp small

/-- The buffer that is left when a stream has been read as far as it goes. -/
def received (chunks : List (List UInt8)) : List UInt8 := (decoder.feed [] chunks).2

theorem received_eq (chunks : List (List UInt8)) :
    received chunks = (decoder.drain chunks.flatten).2 := by
  have empty : decoder.decode [] = (none, []) := rfl
  rw [received, Decoder.feed_eq_drain _ (Decoder.drain_wait empty), List.nil_append]

theorem drain_received (chunks : List (List UInt8)) :
    decoder.drain (received chunks) = ([], received chunks) := by
  rw [received_eq]
  exact decoder.drain_rest _

/-- More bytes that the decoder waits on stay in the buffer. -/
theorem received_append {chunks : List (List UInt8)} {more : List UInt8}
    (waiting : SyncFrame.decode (received chunks ++ more) = (none, received chunks ++ more)) :
    received (chunks ++ [more]) = received chunks ++ more := by
  have stays : decoder.drain (received chunks ++ more) = ([], received chunks ++ more) :=
    Decoder.drain_wait waiting
  rw [received_eq, List.flatten_append, List.flatten_singleton, Decoder.drain_append, ← received_eq,
    stays]

/-- A peer that announces too much fills the buffer past the largest frame. -/
theorem received_grows {chunks : List (List UInt8)} (large : ¬ Fits (received chunks)) :
    ∃ more, maxFrameSize + 13 ≤ (received (chunks ++ [more])).length := by
  have waiting := Decoder.waiting_of_drain (drain_received chunks)
  generalize hbuf : received chunks = buf at large waiting
  obtain ⟨headed, beyond⟩ := Classical.not_imp.mp large
  have pending : buf.length < announced buf := by
    obtain short | ⟨-, h⟩ := waiting_cases waiting
    · have := headed.1
      omega
    · exact h
  -- all bytes but the last of what was announced
  obtain ⟨more, hmore⟩ : ∃ more : List UInt8, more.length = announced buf - 1 - buf.length :=
    ⟨List.replicate _ 0, List.length_replicate⟩
  have length : (buf ++ more).length = announced buf - 1 := by
    rw [List.length_append]
    omega
  have same : announced (buf ++ more) = announced buf := announced_append headed (by omega)
  have still : SyncFrame.decode (buf ++ more) = (none, buf ++ more) := by
    have decoded := decode_decoded (buf ++ more)
    generalize SyncFrame.decode (buf ++ more) = result at decoded
    cases decoded with
    | short => rfl
    | skips _ _ other => exact absurd (headed.append more) other
    | waits => rfl
    | takes _ _ le => omega
  refine ⟨more, ?_⟩
  rw [received_append (by rw [hbuf]; exact still), hbuf, length]
  omega

/-- **The decoder waits for exactly what peers announce.** It waits for and takes only frames a
sender may make on exactly the buffers that announce such a frame; a stream leaves less than the
largest frame unread as long as it announces no more, and can go beyond it once it does. -/
theorem exact_iff_fits (buf : List UInt8) (chunks : List (List UInt8)) :
    (Exact buf ↔ Fits buf) ∧
    (Fits (received chunks) → (received chunks).length < maxFrameSize + 13) ∧
    (¬ Fits (received chunks) → ∃ more, maxFrameSize + 13 ≤ (received (chunks ++ [more])).length) := by
  refine ⟨⟨fits_of_exact, exact_of_fits⟩, ?_, ?_⟩
  · intro fits
    exact length_of_waiting fits (Decoder.waiting_of_drain (drain_received chunks))
  · exact received_grows

/-- The header of a frame with a nonce of 4 GiB. -/
def hugeNonce : List UInt8 := [0x41, 0x53, 0x54, 0x52, 1, 0xff, 0xff, 0xff, 0xff]

theorem waits_for_huge_nonce : ¬ ∀ buf, Exact buf := by
  intro h
  exact absurd ((h hugeNonce).waits (by decide) (by decide)) (by decide)

end SyncDaemon.P2P
