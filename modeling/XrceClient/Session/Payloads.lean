import XrceClient.Session.BlockReading

/-!
# The payloads of submessages in a block

- `readSubmessageHeader_block`: the header of a submessage, from its four bytes.
- `deserializeHeartbeatPayload_eq` and the like: a payload is read field by field.
- `payload_block`: what is read of a payload is what its bytes stand for, and where bytes are
  missing the variable stays as it was.
-/

namespace XrceClient

open ByteMemory Program

/-! ## The header of a message -/

section

/-- An integer of one byte that is next. -/
theorem deserializeScalar_onBlock {b : Block} {byte : UInt8} {rest : List UInt8}
    (hok : b.failed = false) (hbytes : b.bytes = byte :: rest) :
    (deserializeScalar 1).attempt BufferOp.onBlock b = .ok (byte.toNat, b.next 1 rest) := by
  have hop := @onBlock_deserialize b [byte] rest none (by simp) hok
    (Block.padding_eq_zero fun _ => .inl (Nat.mod_one _)) hbytes
  rw [decodeScalar_singleton] at hop
  exact attempt_map _ ((Program.attempt_call _ _ _).trans hop)

variable [MicroCdr]

/-- A message, from its first byte on. -/
def messageBlock (bytes : List UInt8) : Block where
  bytes
  offset := 0
  lastDataSize := 0
  endianness := machineEndianness
  failed := false

/-- The two bytes of a number are its low one and its high one. -/
def seqNumOfBytes (low high : UInt8) : SeqNum := UInt16.ofNat (ofLeBytes [low, high])

/-- The header of a message is read from its bytes. -/
theorem deserializeMessageHeader_onBlock (sessionId streamId low high : UInt8) {key : List UInt8}
    (hkey : key.length = clientKeySize) (rest : List UInt8) :
    ∃ last, deserializeMessageHeader.attempt BufferOp.onBlock
        (messageBlock (sessionId :: streamId :: low :: high ::
          ((if sessionIdWithoutClientKey > sessionId then key else []) ++ rest))) =
      .ok ((sessionId, streamId, seqNumOfBytes low high,
        if sessionIdWithoutClientKey > sessionId then key else List.replicate clientKeySize 0),
        { bytes := rest
          offset := 4 + (if sessionIdWithoutClientKey > sessionId then key else []).length
          lastDataSize := last
          endianness := machineEndianness
          failed := false }) ∧ last < 4 := by
  obtain ⟨front, hfront⟩ : ∃ front,
      front = if sessionIdWithoutClientKey > sessionId then key else [] := ⟨_, rfl⟩
  rw [← hfront]
  -- the fields in front of the key
  have hid := @deserializeScalar_onBlock
    (messageBlock (sessionId :: streamId :: low :: high :: (front ++ rest))) sessionId
    (streamId :: low :: high :: (front ++ rest)) rfl rfl
  have hstream := @deserializeScalar_onBlock ⟨streamId :: low :: high :: (front ++ rest), 1, 1,
    machineEndianness, false⟩ streamId (low :: high :: (front ++ rest)) rfl rfl
  have hseq := @onBlock_deserialize ⟨low :: high :: (front ++ rest), 2, 1, machineEndianness, false⟩
    [low, high] (front ++ rest) (some .littleEndianness) (by simp) rfl
    (Block.padding_eq_zero fun _ => .inl (show 2 % 2 = 0 by decide)) rfl
  refine ⟨if sessionIdWithoutClientKey > sessionId then 1 else 2, ?_, by split <;> decide⟩
  refine (Program.attempt_bind_of_ok _ hid).trans ?_
  refine (Program.attempt_bind_of_ok _ hstream).trans ?_
  refine (Program.attempt_bind_of_ok _ ((Program.attempt_call _ _ _).trans hseq)).trans ?_
  rw [UInt8.ofNat_toNat, UInt8.ofNat_toNat]
  by_cases hkeyed : sessionIdWithoutClientKey > sessionId
  · rw [if_pos hkeyed] at hfront
    rw [if_pos hkeyed, if_pos hkeyed, if_pos hkeyed, hfront, hkey]
    have harray := @onBlock_deserializeArray ⟨key ++ rest, 4, 2, machineEndianness, false⟩ key rest
      rfl rfl
    rw [hkey] at harray
    exact Program.attempt_bind_of_ok _ (attempt_map _ ((Program.attempt_call _ _ _).trans harray))
  · rw [if_neg hkeyed] at hfront
    rw [if_neg hkeyed, if_neg hkeyed, if_neg hkeyed, hfront]
    rfl

end

/-! ## The header of a submessage -/

/-- The length in a header. -/
def headerLength (low high : UInt8) : UInt16 := UInt16.ofNat (ofLeBytes [low, high])

/-- The byte order that the flags of a header say. -/
def flagsEndianness (flags : UInt8) : Endianness :=
  if flags &&& flagEndianness ≠ 0 then .littleEndianness else .bigEndianness

/-- The flags without the one for the byte order. -/
def otherFlags (flags : UInt8) : UInt8 := flags &&& ~~~(flags &&& flagEndianness)

section

variable [MicroCdr] [StickyMicroCdr] {σ : Type} {env : ReadEnv σ} {s : σ} {c : Cursor} {b : Block}

/-- A submessage starts at the next multiple of four. -/
structure Block.Starts (b : Block) (id flags low high : UInt8) (payload : List UInt8) : Prop where
  ok : b.failed = false
  aligned : (b.offset + b.padding 4) % 4 = 0
  bytes : b.bytes.drop (b.padding 4) = id :: flags :: low :: high :: payload

/-- The block behind the header of a submessage. -/
def Block.payload (b : Block) (flags : UInt8) (payload : List UInt8) : Block where
  bytes := payload
  offset := b.offset + b.padding 4 + 4
  lastDataSize := 2
  endianness := flagsEndianness flags
  failed := false

/-- The header of a submessage that is there. -/
theorem readSubmessageHeader_block {id flags low high : UInt8} {payload : List UInt8}
    (h : Holds env.dev s c.ub b) (hstarts : b.Starts id flags low high payload)
    (header : SubmessageHeader) :
    ∃ ub', (readSubmessageHeader header).run env.handle (s, c) =
        ((true, { id, length := headerLength low high, flags := otherFlags flags }), s,
          { c with ub := ub' }) ∧
      Holds env.dev s ub' (b.payload flags payload) := by
  -- the block at the start of the header
  obtain ⟨offset, hoffset⟩ : ∃ offset, offset = b.offset + b.padding 4 := ⟨_, rfl⟩
  have haligned : offset % 4 = 0 := hoffset ▸ hstarts.aligned
  have hblock : b.alignTo 4 =
      ⟨id :: flags :: low :: high :: payload, offset, 4, b.endianness, false⟩ := by
    rw [Block.alignTo, hstarts.bytes, hstarts.ok, hoffset]
  -- the calls on the block
  have halignOp : (BufferOp.alignTo 4).onBlock b =
      .ok ((), ⟨id :: flags :: low :: high :: payload, offset, 4, b.endianness, false⟩) := by
    rw [BufferOp.onBlock, if_pos (by decide), hblock]
  have hidOp : (BufferOp.deserialize none 1).onBlock
      ⟨id :: flags :: low :: high :: payload, offset, 4, b.endianness, false⟩ =
      .ok (some id.toNat, ⟨flags :: low :: high :: payload, offset + 1, 1, b.endianness, false⟩) := by
    simp [BufferOp.onBlock, Block.padding, Block.alignTo, Block.take, Block.behind,
      decodeScalar_singleton]
  have hflagsOp : (BufferOp.deserialize none 1).onBlock
      ⟨flags :: low :: high :: payload, offset + 1, 1, b.endianness, false⟩ =
      .ok (some flags.toNat, ⟨low :: high :: payload, offset + 1 + 1, 1, b.endianness, false⟩) := by
    simp [BufferOp.onBlock, Block.padding, Block.alignTo, Block.take, Block.behind,
      decodeScalar_singleton]
  have hlengthOp : (BufferOp.deserialize (some .littleEndianness) 2).onBlock
      ⟨low :: high :: payload, offset + 1 + 1, 1, b.endianness, false⟩ =
      .ok (some (ofLeBytes [low, high]), ⟨payload, offset + 1 + 1 + 2, 2, b.endianness, false⟩) := by
    have heven : (2 - (offset + 1 + 1) % 2) % 2 = 0 := by omega
    simp [BufferOp.onBlock, Block.padding, Block.alignTo, Block.take, Block.behind, heven,
      decodeScalar]
  obtain ⟨ub₀, halign, h₀⟩ := run_buffer h halignOp
  have hremainingOp : BufferOp.bufferRemaining.onBlock
      ⟨id :: flags :: low :: high :: payload, offset, 4, b.endianness, false⟩ =
      .ok ((id :: flags :: low :: high :: payload).length,
        ⟨id :: flags :: low :: high :: payload, offset, 4, b.endianness, false⟩) := rfl
  obtain ⟨ub', hremaining, h'⟩ := run_buffer (c := { c with ub := ub₀ }) h₀ hremainingOp
  obtain ⟨ub₁, hid, h₁⟩ := run_buffer (c := { c with ub := ub' }) h' hidOp
  obtain ⟨ub₂, hflags, h₂⟩ := run_buffer (c := { c with ub := ub₁ }) h₁ hflagsOp
  obtain ⟨ub₃, hlength, h₃⟩ := run_buffer (c := { c with ub := ub₂ }) h₂ hlengthOp
  refine ⟨{ ub₃ with endianness := flagsEndianness flags }, ?_, ?_⟩
  · rw [readSubmessageHeader]
    have hlong : (id :: flags :: low :: high :: payload).length ≥ subheaderSize := by
      simp [subheaderSize]
    simp only [run_bind, run_call, halign, hremaining, if_pos hlong, hid, hflags, hlength, run_pure]
    simp [ReadEnv.handle, otherFlags, flagsEndianness, headerLength]
  · exact ⟨h₃.refuses, h₃.callback, h₃.final, h₃.bytes, by rw [Block.payload, h₃.offset, hoffset],
      h₃.lastDataSize, rfl, h₃.failed⟩

end

/-! ## Payloads, field by field -/

/-- The integer that was read in a place. -/
def scalarAt : List (Option Field) → Nat → Option Nat
  | some (.scalar _ value) :: _, 0 => some value
  | _ :: fields, i + 1 => scalarAt fields i
  | _, _ => none

/-- The bytes that were read in a place. -/
def arrayAt : List (Option Field) → Nat → Option (List UInt8)
  | some (.array bytes) :: _, 0 => some bytes
  | _ :: fields, i + 1 => arrayAt fields i
  | _, _ => none

section

variable (fields : List (Option Field)) (field : Option Field) (i : Nat)

@[simp] theorem scalarAt_zero (width : Nat) (value : Option Nat) :
    scalarAt (value.map (Field.scalar width) :: fields) 0 = value := by
  cases value <;> rfl

@[simp] theorem scalarAt_succ : scalarAt (field :: fields) (i + 1) = scalarAt fields i := by
  rcases field with - | (⟨width, value⟩ | bytes) <;> rfl

@[simp] theorem arrayAt_zero (bytes : Option (List UInt8)) :
    arrayAt (bytes.map Field.array :: fields) 0 = bytes := by
  cases bytes <;> rfl

@[simp] theorem arrayAt_succ : arrayAt (field :: fields) (i + 1) = arrayAt fields i := by
  rcases field with - | (⟨width, value⟩ | bytes) <;> rfl

end

/-- The fields of `BaseObjectRequest`. -/
def baseObjectRequestFields : List FieldType := [.array 2, .array 2]

def BaseObjectRequest.ofFields (output : BaseObjectRequest) (fields : List (Option Field)) :
    BaseObjectRequest where
  requestId := (arrayAt fields 0).getD output.requestId
  objectId := (arrayAt fields 1).getD output.objectId

/-- The fields of `BaseObjectReply`. -/
def baseObjectReplyFields : List FieldType := [.array 2, .array 2, .scalar 1, .scalar 1]

def BaseObjectReply.ofFields (output : BaseObjectReply) (fields : List (Option Field)) :
    BaseObjectReply where
  relatedRequest := BaseObjectRequest.ofFields output.relatedRequest fields
  status := ((scalarAt fields 2).map UInt8.ofNat).getD output.status
  implementationStatus := ((scalarAt fields 3).map UInt8.ofNat).getD output.implementationStatus

/-- The fields of `STATUS_AGENT_Payload`. -/
def statusAgentFields : List FieldType :=
  [.scalar 1, .scalar 1, .array 4, .array 2, .array 2, .scalar 1]

/-- The status in a `STATUS_AGENT_Payload`. -/
def statusAgentOfFields (output : UInt8) (fields : List (Option Field)) : UInt8 :=
  ((scalarAt fields 0).map UInt8.ofNat).getD output

/-- The fields of `HEARTBEAT_Payload`. -/
def heartbeatFields : List FieldType := [.scalar 2, .scalar 2, .scalar 1]

def HeartbeatPayload.ofFields (output : HeartbeatPayload) (fields : List (Option Field)) :
    HeartbeatPayload where
  firstUnackedSeqNr := ((scalarAt fields 0).map UInt16.ofNat).getD output.firstUnackedSeqNr
  lastUnackedSeqNr := ((scalarAt fields 1).map UInt16.ofNat).getD output.lastUnackedSeqNr
  streamId := ((scalarAt fields 2).map UInt8.ofNat).getD output.streamId

/-- The fields of `ACKNACK_Payload`. -/
def acknackFields : List FieldType := [.scalar 2, .array 2, .scalar 1]

def AcknackPayload.ofFields (output : AcknackPayload) (fields : List (Option Field)) :
    AcknackPayload where
  firstUnackedSeqNum := ((scalarAt fields 0).map UInt16.ofNat).getD output.firstUnackedSeqNum
  nackBitmap := (arrayAt fields 1).getD output.nackBitmap
  streamId := ((scalarAt fields 2).map UInt8.ofNat).getD output.streamId

/-- The fields of `TIMESTAMP_REPLY_Payload`. -/
def timestampReplyFields : List FieldType :=
  [.scalar 4, .scalar 4, .scalar 4, .scalar 4, .scalar 4, .scalar 4]

/-- A `Time_t` from a place on. -/
def Time.ofFields (output : Time) (fields : List (Option Field)) (i : Nat) : Time where
  seconds := (scalarAt fields i).getD output.seconds
  nanoseconds := (scalarAt fields (i + 1)).getD output.nanoseconds

def TimestampReplyPayload.ofFields (output : TimestampReplyPayload)
    (fields : List (Option Field)) : TimestampReplyPayload where
  transmitTimestamp := Time.ofFields output.transmitTimestamp fields 0
  receiveTimestamp := Time.ofFields output.receiveTimestamp fields 2
  originateTimestamp := Time.ofFields output.originateTimestamp fields 4

/-! ### The fields of what is sent -/

def BaseObjectRequest.fields (request : BaseObjectRequest) : List Field :=
  [.array request.requestId, .array request.objectId]

def BaseObjectReply.fields (reply : BaseObjectReply) : List Field :=
  reply.relatedRequest.fields ++
    [.scalar 1 reply.status.toNat, .scalar 1 reply.implementationStatus.toNat]

def SampleIdentity.fields (sampleId : SampleIdentity) : List Field :=
  [.array sampleId.guidPrefix, .array sampleId.entityKey, .scalar 1 sampleId.entityKind,
    .scalar 4 sampleId.high, .scalar 4 sampleId.low]

def HeartbeatPayload.fields (payload : HeartbeatPayload) : List Field :=
  [.scalar 2 payload.firstUnackedSeqNr.toNat, .scalar 2 payload.lastUnackedSeqNr.toNat,
    .scalar 1 payload.streamId.toNat]

def AcknackPayload.fields (payload : AcknackPayload) : List Field :=
  [.scalar 2 payload.firstUnackedSeqNum.toNat, .array payload.nackBitmap,
    .scalar 1 payload.streamId.toNat]

def Time.fields (time : Time) : List Field :=
  [.scalar 4 time.seconds, .scalar 4 time.nanoseconds]

def TimestampReplyPayload.fields (payload : TimestampReplyPayload) : List Field :=
  payload.transmitTimestamp.fields ++ payload.receiveTimestamp.fields ++
    payload.originateTimestamp.fields

/-- Two programs that start with the same call. -/
theorem step_congr {Op : Type → Type} {α β : Type} {op : Op β} {next next' : β → Program Op α}
    (h : ∀ b, next b = next' b) : Program.step op next = Program.step op next' :=
  congrArg (Program.step op) (funext h)

theorem deserializeBaseObjectRequest_eq (output : BaseObjectRequest) :
    deserializeBaseObjectRequest output =
      (fun fields => ((arrayAt fields 0).isSome && (arrayAt fields 1).isSome,
        BaseObjectRequest.ofFields output fields)) <$>
        deserializeFields baseObjectRequestFields := by
  refine step_congr fun requestId => step_congr fun objectId => congrArg Program.done ?_
  simp [BaseObjectRequest.ofFields]

theorem deserializeBaseObjectReply_eq (output : BaseObjectReply) :
    deserializeBaseObjectReply output =
      (fun fields => ((arrayAt fields 0).isSome && (arrayAt fields 1).isSome &&
          (scalarAt fields 2).isSome && (scalarAt fields 3).isSome,
        BaseObjectReply.ofFields output fields)) <$>
        deserializeFields baseObjectReplyFields := by
  refine step_congr fun requestId => step_congr fun objectId => step_congr fun status =>
    step_congr fun implementationStatus => congrArg Program.done ?_
  simp [BaseObjectReply.ofFields, BaseObjectRequest.ofFields]

theorem deserializeStatusAgentPayload_eq (output : UInt8) :
    deserializeStatusAgentPayload output =
      statusAgentOfFields output <$> deserializeFields statusAgentFields := by
  refine step_congr fun status => step_congr fun implementationStatus => step_congr fun cookie =>
    step_congr fun version => step_congr fun vendor => step_congr fun properties =>
    congrArg Program.done ?_
  simp [statusAgentOfFields]

theorem deserializeHeartbeatPayload_eq (output : HeartbeatPayload) :
    deserializeHeartbeatPayload output =
      HeartbeatPayload.ofFields output <$> deserializeFields heartbeatFields := by
  refine step_congr fun first => step_congr fun last => step_congr fun streamId =>
    congrArg Program.done ?_
  simp [HeartbeatPayload.ofFields]

theorem deserializeAcknackPayload_eq (output : AcknackPayload) :
    deserializeAcknackPayload output =
      (fun fields => ((scalarAt fields 0).isSome && (arrayAt fields 1).isSome &&
          (scalarAt fields 2).isSome, AcknackPayload.ofFields output fields)) <$>
        deserializeFields acknackFields := by
  refine step_congr fun first => step_congr fun bitmap => step_congr fun streamId =>
    congrArg Program.done ?_
  simp [AcknackPayload.ofFields]

theorem deserializeTimestampReplyPayload_eq (output : TimestampReplyPayload) :
    deserializeTimestampReplyPayload output =
      TimestampReplyPayload.ofFields output <$> deserializeFields timestampReplyFields := by
  refine step_congr fun transmitSeconds => step_congr fun transmitNanoseconds =>
    step_congr fun receiveSeconds => step_congr fun receiveNanoseconds =>
    step_congr fun originateSeconds => step_congr fun originateNanoseconds =>
    congrArg Program.done ?_
  simp [TimestampReplyPayload.ofFields, Time.ofFields]

/-! ## Reading a payload from a block -/

section

variable [MicroCdr] [StickyMicroCdr] {σ : Type} {env : ReadEnv σ} {s : σ} {c : Cursor} {b : Block}

/-- What is read of a payload is what its bytes stand for. Where bytes are missing the buffer is
left in error. -/
theorem payload_block {α : Type} {program : Program BufferOp α} {f : List (Option Field) → α}
    {types : List FieldType} (hprogram : program = f <$> deserializeFields types)
    (h : Holds env.dev s c.ub b) (hok : b.failed = false)
    (hpacked : Packed b.offset b.lastDataSize types) (hcalm : CalmBehind types) :
    ∃ ub' b', (readBuffer program).run env.handle (s, c) =
        (f (decodeFields b.endianness types b.bytes), s, { c with ub := ub' }) ∧
      Holds env.dev s ub' b' ∧
      (fieldsSize types ≤ b.bytes.length →
        b' = b.behind (fieldsSize types) (lastSize b.lastDataSize types)) ∧
      (b.bytes.length < fieldsSize types → b'.failed = true ∧ b'.bytes = []) := by
  subst hprogram
  by_cases hthere : fieldsSize types ≤ b.bytes.length
  · obtain ⟨ub', hrun, hholds⟩ :=
      run_onBlock h (attempt_map f (deserializeFields_onBlock hok hpacked hthere))
    exact ⟨ub', _, hrun, hholds, fun _ => rfl, fun hcut => absurd hthere (Nat.not_le_of_lt hcut)⟩
  · obtain ⟨b', hread, hfailed, hempty⟩ :=
      deserializeFields_cut hok hpacked hcalm (Nat.lt_of_not_le hthere)
    obtain ⟨ub', hrun, hholds⟩ := run_onBlock h (attempt_map f hread)
    exact ⟨ub', b', hrun, hholds, fun h => absurd h hthere, fun _ => ⟨hfailed, hempty⟩⟩

end

/-! ## The handlers -/

section

variable (config : ReadConfig) (streamId : StreamId) {header : SubmessageHeader}

theorem readSubmessage_statusAgent (h : header.id = SubmessageId.statusAgent.value) :
    readSubmessage config streamId header =
      if streamId.type = .noneStream then do
        let status ← readBuffer (deserializeStatusAgentPayload config.uninitialized.statusAgent)
        call (.emit (.createSessionStatus status))
      else return := by
  rw [readSubmessage, h]
  rfl

theorem readSubmessage_status (h : header.id = SubmessageId.status.value) :
    readSubmessage config streamId header =
      if streamId.type = .noneStream then do
        let (ok, base) ← readBuffer (deserializeBaseObjectReply config.uninitialized.status)
        call (.emit (.deleteSessionStatus (uint16FromRaw base.relatedRequest.requestId)
          base.status ok))
      else readSubmessageStatus config := by
  rw [readSubmessage, h]
  rfl

theorem readSubmessage_data (h : header.id = SubmessageId.data.value) :
    readSubmessage config streamId header =
      readSubmessageData config header.length streamId (header.flags &&& formatMask) := by
  rw [readSubmessage, h]
  rfl

theorem readSubmessage_heartbeat (h : header.id = SubmessageId.heartbeat.value) :
    readSubmessage config streamId header = (do
      let payload ← readBuffer (deserializeHeartbeatPayload config.uninitialized.heartbeat)
      call (.emit (.heartbeat payload))) := by
  rw [readSubmessage, h]
  rfl

theorem readSubmessage_acknack (h : header.id = SubmessageId.acknack.value) :
    readSubmessage config streamId header = (do
      let (ok, payload) ← readBuffer (deserializeAcknackPayload config.uninitialized.acknack)
      call (.emit (.acknack payload ok))) := by
  rw [readSubmessage, h]
  rfl

theorem readSubmessage_getInfo (h : header.id = SubmessageId.getInfo.value) :
    readSubmessage config streamId header = (do
      let base ← readBuffer (deserializeGetInfoPayload .zero)
      call (.emit (.getInfo base.requestId))) := by
  rw [readSubmessage, h]
  rfl

theorem readSubmessage_info (h : header.id = SubmessageId.info.value) :
    readSubmessage config streamId header = readSubmessageInfo config := by
  rw [readSubmessage, h]
  rfl

theorem readSubmessage_timestampReply (h : header.id = SubmessageId.timestampReply.value) :
    readSubmessage config streamId header = (do
      let payload ←
        readBuffer (deserializeTimestampReplyPayload config.uninitialized.timestampReply)
      call (.emit (.timestampReply payload))) := by
  rw [readSubmessage, h]
  rfl

end

/-! ## INFO -/

section

variable [MicroCdr] {σ : Type} {env : ReadEnv σ}

theorem run_readBuffer_bind {α β : Type} (p : Program BufferOp α) (f : α → Program BufferOp β)
    (t : σ × Cursor) :
    (readBuffer (p >>= f)).run env.handle t =
      (readBuffer (f ((readBuffer p).run env.handle t).1)).run env.handle
        ((readBuffer p).run env.handle t).2 := by
  simp only [readBuffer, run_translate, run_bind]

/-- The activity in an INFO, and the flag that `read_submessage_info` sets. -/
def readActivity (base : BaseObjectReply) (success : Bool) : Program BufferOp (Option UInt8) := do
  let optionalActivity ← call (.deserialize none 1)
  let success := success && optionalActivity.isSome
  if optionalActivity.getD 0 ≠ 0 then
    let kind ← call (.deserialize none 1)
    let success := success && kind.isSome
    if success && kind.getD 0 = objkAgent then
      let availability ← call (.deserialize none 2)
      let success := success && availability.isSome
      let available := 0 < availability.getD 0 ∧ availability.getD 0 < 32768
      return some
        (if success ∧ available then
          if base.implementationStatus ≠ 0 then pongInSessionStatus else pongNoSessionStatus
        else noPongStatus)
    else
      return none
  else
    return none

/-- What `read_submessage_info` reads, and the flag that it sets. -/
def readInfoFields (config : ReadConfig) : Program BufferOp (Option UInt8) := do
  let (success, base) ← deserializeBaseObjectReply Uninitialized.zero.status
  let optionalConfig ← call (.deserialize none 1)
  let success := success && optionalConfig.isSome
  if optionalConfig.getD 0 ≠ 0 then
    let ok ← config.deserializeObjectVariant
    readActivity base (success && ok)
  else
    readActivity base success

/-- The flag, if it is set. -/
def setPong (env : ReadEnv σ) : Option UInt8 × σ × Cursor → PUnit × σ × Cursor
  | (some status, s, c) => (⟨⟩, env.emit (.pong status) s, c)
  | (none, t) => (⟨⟩, t)

/-- The end of `read_submessage_info`. -/
theorem readActivity_run (base : BaseObjectReply) (success : Bool) (t : σ × Cursor) :
    (do
      let optionalActivity ← call (.buffer (.deserialize none 1))
      let success := success && optionalActivity.isSome
      if optionalActivity.getD 0 ≠ 0 then
        let kind ← call (.buffer (.deserialize none 1))
        let success := success && kind.isSome
        if success && kind.getD 0 = objkAgent then
          let availability ← call (.buffer (.deserialize none 2))
          let success := success && availability.isSome
          let available := 0 < availability.getD 0 ∧ availability.getD 0 < 32768
          call (.emit (.pong
            (if success ∧ available then
              if base.implementationStatus ≠ 0 then pongInSessionStatus else pongNoSessionStatus
            else noPongStatus))) : Program ReadOp PUnit).run env.handle t =
      setPong env ((readBuffer (readActivity base success)).run env.handle t) := by
  have hcall {β : Type} (op : BufferOp β) (t : σ × Cursor) :
      (readBuffer (call op)).run env.handle t = env.handle (.buffer op) t := rfl
  rw [readActivity, run_bind, run_readBuffer_bind, hcall, run_call]
  obtain ⟨optionalActivity, t₁⟩ := env.handle (.buffer (.deserialize none 1)) t
  dsimp only
  by_cases hactivity : optionalActivity.getD 0 ≠ 0
  · rw [if_pos hactivity, if_pos hactivity, run_bind, run_readBuffer_bind, hcall, run_call]
    obtain ⟨kind, t₂⟩ := env.handle (.buffer (.deserialize none 1)) t₁
    dsimp only
    by_cases hagent : (success && optionalActivity.isSome && kind.isSome &&
        decide (kind.getD 0 = objkAgent)) = true
    · rw [if_pos hagent, if_pos hagent, run_bind, run_readBuffer_bind, hcall, run_call]
      rfl
    · rw [if_neg hagent, if_neg hagent]
      rfl
  · rw [if_neg hactivity, if_neg hactivity]
    rfl

/-- `read_submessage_info` reads, and sets the flag. -/
theorem readSubmessageInfo_run (config : ReadConfig) (t : σ × Cursor) :
    (readSubmessageInfo config).run env.handle t =
      setPong env ((readBuffer (readInfoFields config)).run env.handle t) := by
  have hcall {β : Type} (op : BufferOp β) (t : σ × Cursor) :
      (readBuffer (call op)).run env.handle t = env.handle (.buffer op) t := rfl
  rw [readSubmessageInfo, readInfoFields, run_bind, run_readBuffer_bind]
  obtain ⟨⟨success, base⟩, t₁⟩ :=
    (readBuffer (deserializeBaseObjectReply Uninitialized.zero.status)).run env.handle t
  dsimp only
  rw [run_bind, run_readBuffer_bind, hcall, run_call]
  obtain ⟨optionalConfig, t₂⟩ := env.handle (.buffer (.deserialize none 1)) t₁
  dsimp only
  by_cases hconfig : optionalConfig.getD 0 ≠ 0
  · rw [if_pos hconfig, if_pos hconfig, run_bind, run_readBuffer_bind]
    exact readActivity_run base _ _
  · rw [if_neg hconfig, if_neg hconfig]
    exact readActivity_run base _ _
end

end XrceClient
