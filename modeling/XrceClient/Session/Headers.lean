import XrceClient.Session.Reading

/-!
# Headers of messages and submessages (`session_info.c`, `xrce_header.c`)

- `Device.datagram`: a received message, read in place.
- `ucdrDeserialize_room`: a scalar that lies in the block is the one that its bytes
  stand for.
- `readSessionHeader`, `stampSessionHeader`: the header of a message. `HeaderAccepted` says
  which headers belong to the session, and `messageHeaderBytes` which bytes are stamped.
- `onGetFragmentationInfo_eq`: the kind of a message, from its first two bytes.
-/

namespace XrceClient

open ByteMemory

/-- A received message: it is not written to, and nothing comes behind its end. -/
def Device.datagram {σ : Type} (memory : Memory) : Device σ where
  load _ a := memory a
  store s _ _ := s
  onFull s ub := (true, s, ub)

/-! ## Reading within a block -/

section

variable {σ : Type} (dev : Device σ)

/-- Bytes that lie in the block are taken from it. -/
theorem gets_room (n : Nat) (s : σ) (ub : UcdrBuffer) (hok : ub.error = false)
    (hroom : ub.iterator + n ≤ ub.final) :
    Gets dev n s ub (read (dev.load s) ub.iterator n) s
      { ub with iterator := ub.iterator + n, offset := ub.offset + n } := by
  induction n generalizing ub with
  | zero => exact Gets.zero s ub
  | succ n ih =>
    rw [read_succ]
    refine Gets.byte hok (by omega) ?_
    have hrest := ih ub.next hok (by rw [UcdrBuffer.next_iterator, UcdrBuffer.next_final]; omega)
    simpa [UcdrBuffer.next, Nat.add_assoc, Nat.add_comm, Nat.add_left_comm] using hrest

theorem decodeScalar_singleton (e : Endianness) (b : UInt8) : decodeScalar e [b] = b.toNat := by
  cases e <;> simp [decodeScalar, ofLeBytes]

variable [MicroCdr] [LawfulMicroCdr]

/-- A scalar that needs no padding and lies in the block. -/
theorem ucdrDeserialize_room (s : σ) (ub : UcdrBuffer) (e : Endianness) {k : Nat}
    (hk : k ∈ [1, 2, 4, 8]) (hok : ub.error = false) (hpad : ub.padding k = 0)
    (hroom : ub.iterator + k ≤ ub.final) :
    ucdrDeserialize dev s ub e k =
      (some (decodeScalar e (read (dev.load s) ub.iterator k)), s,
        { ub with iterator := ub.iterator + k, offset := ub.offset + k, lastDataSize := k }) := by
  have halign := LawfulMicroCdr.alignTo ub k hk (by omega)
  rw [hpad, Nat.add_zero, Nat.add_zero, Nat.min_eq_left (by omega)] at halign
  have hget := gets_room dev k s (ucdrAlignTo ub k)
    (by rw [halign]; exact hok) (by rw [halign]; exact hroom)
  rw [LawfulMicroCdr.deserialize e hk (by omega) hget, halign]

theorem ucdrDeserializeArray_room (s : σ) (ub : UcdrBuffer) (n : Nat) (hok : ub.error = false)
    (hroom : ub.iterator + n ≤ ub.final) :
    ucdrDeserializeArray dev s ub n =
      (some (read (dev.load s) ub.iterator n), s,
        { ub with iterator := ub.iterator + n, offset := ub.offset + n, lastDataSize := 1 }) :=
  LawfulMicroCdr.deserializeArray (gets_room dev n s ub hok hroom)

end

/-! ## The header of a message -/

/-- `uxrSessionInfo` (session_info.h). -/
structure SessionInfo where
  id : UInt8
  key : List UInt8
  lastRequestedStatus : UInt8
  lastRequestId : UInt16
  deriving DecidableEq, Repr

/-- `CLIENT_KEY_SIZE` (xrce_header_internal.h). -/
def clientKeySize : Nat := 4

/-- `SESSION_ID_WITHOUT_CLIENT_KEY` (xrce_header_internal.h). -/
def sessionIdWithoutClientKey : UInt8 := 0x80

/-- `MIN_HEADER_SIZE` (session_info_internal.h). -/
def minHeaderSize : Nat := 4

/-- `MAX_HEADER_SIZE` (session_info_internal.h). -/
def maxHeaderSize : Nat := minHeaderSize + clientKeySize

/-- `uxr_session_header_offset` (session_info.c:185–189). -/
def sessionHeaderOffset (info : SessionInfo) : Nat :=
  if sessionIdWithoutClientKey > info.id then maxHeaderSize else minHeaderSize

open Program

/-- `uxr_deserialize_message_header` (xrce_header.c:22–36). -/
def deserializeMessageHeader : Program BufferOp (UInt8 × UInt8 × SeqNum × List UInt8) := do
  let sessionId ← deserializeScalar 1
  let streamId ← deserializeScalar 1
  let seqNum ← call (.deserialize (some .littleEndianness) 2)
  let key ←
    if sessionIdWithoutClientKey > UInt8.ofNat sessionId then deserializeBytes clientKeySize
    else pure (List.replicate clientKeySize 0)
  return (UInt8.ofNat sessionId, UInt8.ofNat streamId, UInt16.ofNat (seqNum.getD 0), key)

/-- `uxr_read_session_header` (session_info.c:160–183): whether the message must be
read, the stream it names and its number. -/
def readSessionHeader (info : SessionInfo) : Program BufferOp (Bool × UInt8 × SeqNum) := do
  let remaining ← call .bufferRemaining
  if remaining > maxHeaderSize then
    let (sessionId, streamIdRaw, seqNum, key) ← deserializeMessageHeader
    return (sessionId = info.id ∧ (sessionIdWithoutClientKey > info.id → key = info.key),
      streamIdRaw, seqNum)
  else
    return (false, 0, 0)

section

variable [MicroCdr] {σ : Type} (dev : Device σ)

/-- `uxr_serialize_message_header` (xrce_header.c:6–20). -/
def serializeMessageHeader (s : σ) (ub : UcdrBuffer) (sessionId streamId : UInt8)
    (seqNum : SeqNum) (key : List UInt8) : σ × UcdrBuffer :=
  let (_, s, ub) := ucdrSerialize dev s ub ub.endianness 1 sessionId.toNat
  let (_, s, ub) := ucdrSerialize dev s ub ub.endianness 1 streamId.toNat
  let (_, s, ub) := ucdrSerialize dev s ub .littleEndianness 2 seqNum.toNat
  if sessionIdWithoutClientKey > sessionId then
    let (_, s, ub) := ucdrSerializeArray dev s ub key
    (s, ub)
  else
    (s, ub)

/-- `uxr_stamp_session_header` (session_info.c:149–158), at an address. -/
def stampSessionHeader (info : SessionInfo) (streamIdRaw : UInt8) (seqNum : SeqNum) (s : σ)
    (buffer : Nat) : σ :=
  (serializeMessageHeader dev s (ucdrInitBuffer buffer maxHeaderSize) info.id streamIdRaw seqNum
    info.key).1

end

@[simp] theorem encodeScalar_singleton (e : Endianness) (b : UInt8) :
    encodeScalar e 1 b.toNat = [b] := by
  cases e <;> simp [encodeScalar, leBytes]

/-- The bytes of the header of a message. -/
def messageHeaderBytes (sessionId streamId : UInt8) (seqNum : SeqNum) (key : List UInt8) :
    List UInt8 :=
  [sessionId, streamId] ++ leBytes 2 seqNum.toNat ++
    if sessionIdWithoutClientKey > sessionId then key else []

theorem messageHeaderBytes_length {info : SessionInfo} (hkey : info.key.length = clientKeySize)
    (streamId : UInt8) (seqNum : SeqNum) :
    (messageHeaderBytes info.id streamId seqNum info.key).length = sessionHeaderOffset info := by
  rw [messageHeaderBytes, sessionHeaderOffset]
  by_cases hkeyed : sessionIdWithoutClientKey > info.id
  · rw [if_pos hkeyed, if_pos hkeyed]
    simp [hkey, maxHeaderSize, minHeaderSize, clientKeySize]
  · rw [if_neg hkeyed, if_neg hkeyed]
    simp [minHeaderSize]

section

variable [MicroCdr] [LawfulMicroCdr]

/-- The header of a message is written to where it belongs, and nowhere else. -/
theorem serializeMessageHeader_plain (m : Memory) (buffer : Nat) (sessionId streamId : UInt8)
    (seqNum : SeqNum) {key : List UInt8} (hkey : key.length = clientKeySize) :
    (serializeMessageHeader Device.plain m (ucdrInitBuffer buffer maxHeaderSize) sessionId streamId
        seqNum key).1 =
      write m buffer (messageHeaderBytes sessionId streamId seqNum key) := by
  have hinit : ucdrInitBuffer buffer maxHeaderSize =
      { init := buffer, iterator := buffer, final := buffer + 8, offset := 0,
        lastDataSize := 0, endianness := machineEndianness, error := false, onFullBuffer := none } :=
    LawfulMicroCdr.init _ _ _ _
  -- the scalars, one behind the other
  have hid := ucdrSerialize_plain m
    { init := buffer, iterator := buffer, final := buffer + 8, offset := 0,
      lastDataSize := 0, endianness := machineEndianness, error := false, onFullBuffer := none }
    machineEndianness sessionId.toNat (show 1 ∈ [1, 2, 4, 8] by simp) rfl
    (by simp [UcdrBuffer.padding]) (by dsimp only; omega)
  have hstream (m : Memory) := ucdrSerialize_plain m
    { init := buffer, iterator := buffer + 1, final := buffer + 8, offset := 0 + 1,
      lastDataSize := 1, endianness := machineEndianness, error := false, onFullBuffer := none }
    machineEndianness streamId.toNat (show 1 ∈ [1, 2, 4, 8] by simp) rfl
    (by simp [UcdrBuffer.padding]) (by dsimp only; omega)
  have hseq (m : Memory) := ucdrSerialize_plain m
    { init := buffer, iterator := buffer + 1 + 1, final := buffer + 8, offset := 0 + 1 + 1,
      lastDataSize := 1, endianness := machineEndianness, error := false, onFullBuffer := none }
    .littleEndianness seqNum.toNat (show 2 ∈ [1, 2, 4, 8] by simp) rfl
    (by simp [UcdrBuffer.padding]) (by dsimp only; omega)
  have hput (m : Memory) := LawfulMicroCdr.serializeArray (puts_plain key m
    { init := buffer, iterator := buffer + 1 + 1 + 2, final := buffer + 8, offset := 0 + 1 + 1 + 2,
      lastDataSize := 2, endianness := machineEndianness, error := false, onFullBuffer := none } rfl
    (by rw [hkey, clientKeySize]))
  rw [serializeMessageHeader, hinit, messageHeaderBytes]
  simp only [hid, hstream, hseq, encodeScalar_singleton]
  have hwrite (m : Memory) : write (write (write m buffer [sessionId]) (buffer + 1) [streamId])
      (buffer + 1 + 1) (encodeScalar .littleEndianness 2 seqNum.toNat) =
      write m buffer ([sessionId, streamId] ++ leBytes 2 seqNum.toNat) := by
    rw [write_append, write_cons m buffer sessionId [streamId]]
    rfl
  rw [hwrite]
  by_cases hkeyed : sessionIdWithoutClientKey > sessionId
  · rw [if_pos hkeyed, if_pos hkeyed]
    dsimp only
    rw [hput, write_append _ _ ([sessionId, streamId] ++ leBytes 2 seqNum.toNat),
      List.length_append, leBytes_length]
    rfl
  · rw [if_neg hkeyed, if_neg hkeyed, List.append_nil]

/-- Stamping a message is writing its header. -/
theorem stampSessionHeader_plain (info : SessionInfo) (hkey : info.key.length = clientKeySize)
    (streamIdRaw : UInt8) (seqNum : SeqNum) (m : Memory) (buffer : Nat) :
    stampSessionHeader Device.plain info streamIdRaw seqNum m buffer =
      write m buffer (messageHeaderBytes info.id streamIdRaw seqNum info.key) :=
  serializeMessageHeader_plain m buffer info.id streamIdRaw seqNum hkey

end

/-- The message is long enough for a header, and carries the session's identifier and,
where the identifier asks for it, its key. -/
def HeaderAccepted (info : SessionInfo) (msg : Datagram) : Prop :=
  maxHeaderSize < msg.length ∧ msg.memory msg.buffer = info.id ∧
    (sessionIdWithoutClientKey > info.id →
      read msg.memory (msg.buffer + minHeaderSize) clientKeySize = info.key)

instance (info : SessionInfo) (msg : Datagram) : Decidable (HeaderAccepted info msg) :=
  inferInstanceAs (Decidable (_ ∧ _))

/-- The stream that the header of a message names. -/
def headerStreamId (msg : Datagram) : StreamId :=
  streamIdFromRaw (msg.memory (msg.buffer + 1)) .inputStream

/-- Taking the byte order out of the flags leaves the others. -/
theorem flagLastFragment_and_flags (flags : UInt8) :
    flagLastFragment &&& (flags &&& ~~~(flags &&& flagEndianness)) = flagLastFragment &&& flags := by
  have hall : ∀ b : BitVec 8, 2 &&& (b &&& ~~~(b &&& 1)) = 2 &&& b := by decide
  exact UInt8.toBitVec_inj.mp (hall flags.toBitVec)

section

variable [MicroCdr] [LawfulMicroCdr] {σ : Type}

/-- The four fields of a header, from the start of a message. -/
theorem deserializeMessageHeader_run (env : ReadEnv σ) (msg : Datagram) (s : σ)
    (hload : ∀ a, env.dev.load s a = msg.memory a) (hlong : maxHeaderSize < msg.length) :
    ∃ c, env.read (readBuffer deserializeMessageHeader) s (ucdrInitBuffer msg.buffer msg.length) =
      ((msg.memory msg.buffer, msg.memory (msg.buffer + 1),
        UInt16.ofNat (ofLeBytes (read msg.memory (msg.buffer + 2) 2)),
        if sessionIdWithoutClientKey > msg.memory msg.buffer then
          read msg.memory (msg.buffer + minHeaderSize) clientKeySize
        else List.replicate clientKeySize 0), s, c) := by
  have hlength : 8 < msg.length := hlong
  have hread (a n : Nat) : read (env.dev.load s) a n = read msg.memory a n :=
    read_congr fun i _ _ => hload i
  have hinit : ucdrInitBuffer msg.buffer msg.length =
      { init := msg.buffer, iterator := msg.buffer, final := msg.buffer + msg.length, offset := 0,
        lastDataSize := 0, endianness := machineEndianness, error := false, onFullBuffer := none } :=
    LawfulMicroCdr.init _ _ _ _
  -- the scalars, one behind the other
  have hid := ucdrDeserialize_room env.dev s (ucdrInitBuffer msg.buffer msg.length)
    machineEndianness (show 1 ∈ [1, 2, 4, 8] by simp) (by rw [hinit])
    (by simp [hinit, UcdrBuffer.padding]) (by rw [hinit]; dsimp only; omega)
  rw [hinit] at hid
  have hstream := ucdrDeserialize_room env.dev s
    { init := msg.buffer, iterator := msg.buffer + 1, final := msg.buffer + msg.length,
      offset := 0 + 1, lastDataSize := 1, endianness := machineEndianness, error := false,
      onFullBuffer := none }
    machineEndianness (show 1 ∈ [1, 2, 4, 8] by simp) rfl (by simp [UcdrBuffer.padding])
    (by dsimp only; omega)
  have hseq := ucdrDeserialize_room env.dev s
    { init := msg.buffer, iterator := msg.buffer + 1 + 1, final := msg.buffer + msg.length,
      offset := 0 + 1 + 1, lastDataSize := 1, endianness := machineEndianness, error := false,
      onFullBuffer := none }
    .littleEndianness (show 2 ∈ [1, 2, 4, 8] by simp) rfl (by simp [UcdrBuffer.padding])
    (by dsimp only; omega)
  have hkey := ucdrDeserializeArray_room env.dev s
    { init := msg.buffer, iterator := msg.buffer + 1 + 1 + 2, final := msg.buffer + msg.length,
      offset := 0 + 1 + 1 + 2, lastDataSize := 2, endianness := machineEndianness, error := false,
      onFullBuffer := none } clientKeySize rfl (by rw [clientKeySize]; dsimp only; omega)
  simp only [hread, read_succ, read_zero, decodeScalar_singleton] at hid hstream
  simp only [hread, decodeScalar] at hseq hkey
  rw [ReadEnv.read, readBuffer, run_translate, hinit]
  by_cases hkeyed : sessionIdWithoutClientKey > msg.memory msg.buffer
  · simp [deserializeMessageHeader, deserializeScalar, deserializeBytes, ReadEnv.handle,
      BufferOp.handle, hid, hstream, hseq, hkey, hkeyed, minHeaderSize, Nat.add_assoc]
  · simp [deserializeMessageHeader, deserializeScalar, deserializeBytes, ReadEnv.handle,
      BufferOp.handle, hid, hstream, hseq, hkeyed, Nat.add_assoc]

/-- The header is read from the message, and only the session's own are accepted. -/
theorem readSessionHeader_run (env : ReadEnv σ) (info : SessionInfo) (msg : Datagram) (s : σ)
    (hload : ∀ a, env.dev.load s a = msg.memory a) :
    ∃ streamIdRaw seqNum c,
      env.read (readBuffer (readSessionHeader info)) s (ucdrInitBuffer msg.buffer msg.length) =
        ((decide (HeaderAccepted info msg), streamIdRaw, seqNum), s, c) ∧
      (HeaderAccepted info msg → streamIdFromRaw streamIdRaw .inputStream = headerStreamId msg) := by
  have hremaining : ucdrBufferRemaining (ucdrInitBuffer msg.buffer msg.length) = msg.length := by
    rw [ucdrInitBuffer, LawfulMicroCdr.init, LawfulMicroCdr.remaining _ (by dsimp only; omega)]
    exact Nat.add_sub_cancel_left _ _
  rw [ReadEnv.read, readBuffer, run_translate, readSessionHeader, run_bind, run_call]
  simp only [ReadEnv.handle, BufferOp.handle, hremaining]
  by_cases hlong : msg.length > maxHeaderSize
  · obtain ⟨c, hheader⟩ := deserializeMessageHeader_run env msg s hload hlong
    rw [ReadEnv.read, readBuffer, run_translate] at hheader
    rw [if_pos hlong, run_bind]
    rw [hheader]
    refine ⟨msg.memory (msg.buffer + 1),
      UInt16.ofNat (ofLeBytes (read msg.memory (msg.buffer + 2) 2)), c, ?_, fun _ => rfl⟩
    rw [run_pure]
    congr 2
    refine decide_eq_decide.mpr ⟨?_, ?_⟩
    · rintro ⟨hid, hkey⟩
      dsimp only at hid hkey
      refine ⟨hlong, hid, fun hkeyed => ?_⟩
      have hread := hkey hkeyed
      rwa [if_pos (hid ▸ hkeyed)] at hread
    · rintro ⟨-, hid, hkey⟩
      refine ⟨hid, fun hkeyed => ?_⟩
      dsimp only
      rw [if_pos (hid ▸ hkeyed)]
      exact hkey hkeyed
  · have hrejected : ¬ HeaderAccepted info msg := fun h => hlong h.1
    rw [if_neg hlong, decide_eq_false hrejected]
    exact ⟨0, 0, _, rfl, fun h => absurd h hrejected⟩

/-! ## The kind of a message -/

/-- The first two bytes of a message say whether it is a fragment, and of which kind. -/
theorem onGetFragmentationInfo_eq (memory : Memory) (buffer : Nat) :
    onGetFragmentationInfo memory buffer =
      if SubmessageId.fragment.value = memory buffer then
        if flagLastFragment &&& memory (buffer + 1) ≠ 0 then .lastFragment
        else .intermediateFragment
      else .noFragmented := by
  have hinit : ucdrInitBuffer buffer 4 =
      { init := buffer, iterator := buffer, final := buffer + 4, offset := 0,
        lastDataSize := 0, endianness := machineEndianness, error := false, onFullBuffer := none } :=
    LawfulMicroCdr.init _ _ _ _
  have halign := LawfulMicroCdr.alignTo (ucdrInitBuffer buffer 4) 4 (by simp)
    (by rw [hinit]; dsimp only; omega)
  simp only [hinit, UcdrBuffer.padding, Nat.zero_lt_succ, if_true, Nat.zero_mod,
    Nat.sub_zero, Nat.mod_self, Nat.add_zero, Nat.min_eq_left (Nat.le_add_right buffer 4)] at halign
  -- the three scalars of the header, one behind the other
  have hid := ucdrDeserialize_room Device.plain memory
    { init := buffer, iterator := buffer, final := buffer + 4, offset := 0, lastDataSize := 4,
      endianness := machineEndianness, error := false, onFullBuffer := none }
    machineEndianness (show 1 ∈ [1, 2, 4, 8] by simp) rfl (by simp [UcdrBuffer.padding])
    (by dsimp only; omega)
  have hflags := ucdrDeserialize_room Device.plain memory
    { init := buffer, iterator := buffer + 1, final := buffer + 4, offset := 0 + 1,
      lastDataSize := 1, endianness := machineEndianness, error := false, onFullBuffer := none }
    machineEndianness (show 1 ∈ [1, 2, 4, 8] by simp) rfl (by simp [UcdrBuffer.padding])
    (by dsimp only; omega)
  have hlength := ucdrDeserialize_room Device.plain memory
    { init := buffer, iterator := buffer + 1 + 1, final := buffer + 4, offset := 0 + 1 + 1,
      lastDataSize := 1, endianness := machineEndianness, error := false, onFullBuffer := none }
    .littleEndianness (show 2 ∈ [1, 2, 4, 8] by simp) rfl (by simp [UcdrBuffer.padding])
    (by dsimp only; omega)
  simp only [read_succ, read_zero, decodeScalar_singleton, Device.plain, Nat.zero_add]
    at hid hflags hlength
  simp [onGetFragmentationInfo, plainEnv, ReadEnv.read, readSubmessageHeader, hinit, halign,
    ReadEnv.handle, BufferOp.handle, LawfulMicroCdr.remaining, subheaderSize,
    Device.plain, hid, hflags, hlength, flagLastFragment_and_flags]

end

end XrceClient
