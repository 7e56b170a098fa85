import XrceClient.Session.Session

/-!
# The creation of entities (`common_create_entities.c`, `session.c`)

A request is buffered in an output stream if there is room for it, and gets an identifier then.

- `prepareStreamToWriteSubmessage`: the room for a submessage.
- `generateRequestId`, `initBaseObjectRequest`: the identifier of a request.
- `commonCreateEntity`: a CREATE. What its payload looks like does not matter here, and so the
  function that writes it is an argument.
-/

namespace XrceClient

open ByteMemory

/-- `UXR_INVALID_REQUEST_ID` (session_info.h). -/
def invalidRequestId : UInt16 := 0

/-- `RESERVED_REQUESTS_ID` (session_info.c). -/
def reservedRequestsId : UInt16 := 9

/-- `generate_request_id` (session_info.c:218–225). -/
def generateRequestId (info : SessionInfo) : UInt16 × SessionInfo :=
  let outOfBounds := info.lastRequestId = 0xFFFF ∨ info.lastRequestId ≤ reservedRequestsId
  let lastRequestId := (if outOfBounds then reservedRequestsId else info.lastRequestId) + 1
  (lastRequestId, { info with lastRequestId })

/-- A request that gets an identifier does not get the invalid one. -/
theorem generateRequestId_ne (info : SessionInfo) :
    (generateRequestId info).1 ≠ invalidRequestId := by
  rw [generateRequestId]
  dsimp only
  split
  · decide
  · rename_i hbounds
    intro hzero
    refine hbounds (.inl ?_)
    have hsum : (info.lastRequestId + 1).toNat = 0 := congrArg UInt16.toNat hzero
    rw [UInt16.toNat_add] at hsum
    have hlt := info.lastRequestId.toNat_lt
    apply UInt16.toNat_inj.mp
    show info.lastRequestId.toNat = 65535
    have hone : UInt16.toNat 1 = 1 := rfl
    omega

/-- `uxr_object_id_to_raw` (object_id.c:25–31): twelve bits and four. -/
def objectIdToRaw (objectId : ObjectId) : List UInt8 :=
  [(objectId.id >>> 4).toUInt8, (objectId.id.toUInt8 <<< 4) + (objectId.type &&& 0x0F)]

/-- `uxr_init_base_object_request` (session_info.c:191–203). -/
def initBaseObjectRequest (info : SessionInfo) (objectId : ObjectId) :
    UInt16 × BaseObjectRequest × SessionInfo :=
  let (requestId, info) := generateRequestId info
  (requestId,
    { requestId := [(requestId >>> 8).toUInt8, requestId.toUInt8]
      objectId := objectIdToRaw objectId },
    info)

/-! ## Room for a submessage -/

/-- `WRITE_DATA_PAYLOAD_SIZE` (write_access.c). -/
def writeDataPayloadSize : Nat := 4

/-- `uxr_get_output_best_effort_stream` (stream_storage.c:95–104). -/
def getOutputBestEffortStream (storage : StreamStorage) (index : UInt8) :
    Option OutputBestEffortStream :=
  if index < storage.outputBestEffortSize then some (storage.outputBestEffort index) else none

section

variable [MicroCdr]

/-- `uxr_prepare_best_effort_buffer_to_write` (output_best_effort_stream.c:41–59). -/
def prepareBestEffortBufferToWrite (stream : OutputBestEffortStream) (size : Nat) :
    Option (OutputBestEffortStream × UcdrBuffer) :=
  let currentPadding := submessagePadding stream.writer
  let futureLength := stream.writer + currentPadding + size
  if futureLength ≤ stream.size then
    some ({ stream with writer := stream.writer + size },
      ucdrInitBufferOriginOffset 0 (futureLength % 2 ^ 32) 0
        ((stream.writer + currentPadding) % 2 ^ 32))
  else
    none

/-- `uxr_prepare_stream_to_write_submessage` (session.c:1203–1238), up to the header: the streams
and the buffer, if there is room. -/
def prepareStreamToWriteSubmessage (streams : StreamStorage) (streamId : StreamId)
    (payloadSize : Nat) : Option (StreamStorage × UcdrBuffer) :=
  let submessageSize := subheaderSize + payloadSize + submessagePadding payloadSize
  match streamId.type with
  | .bestEffortStream => do
    let stream ← getOutputBestEffortStream streams streamId.index
    let (stream, ub) ← prepareBestEffortBufferToWrite stream submessageSize
    return ({ streams with
      outputBestEffort := Function.update streams.outputBestEffort streamId.index stream }, ub)
  | .reliableStream => do
    let stream ← getOutputReliableStream streams streamId.index
    let (available, stream, ub) :=
      prepareReliableBufferToWrite stream submessageSize (ucdrInitBuffer 0 0)
    if available then return (streams.setOutputReliable streamId.index stream, ub) else none
  | _ => none

omit [MicroCdr] in
theorem add_submessagePadding_mod (length : Nat) : (length + submessagePadding length) % 4 = 0 := by
  unfold submessagePadding subheaderSize
  split
  · omega
  · omega

/-- The buffer in a reliable stream is at a multiple of four, if the messages start there. -/
theorem prepareReliableBufferToWrite_aligned [LawfulMicroCdr] {stream stream' : OutputReliableStream}
    {length : Nat} {ub ub' : UcdrBuffer} (hoffset : stream.offset.toNat % 4 = 0)
    (h : prepareReliableBufferToWrite stream length ub = (true, stream', ub')) :
    ub'.offset % 4 = 0 ∧ ub'.endianness = machineEndianness := by
  have halign (n : Nat) : (n + ucdrAlignment n 4) % 4 = 0 := by
    rw [LawfulMicroCdr.alignment n 4 (by decide)]
    omega
  unfold prepareReliableBufferToWrite at h
  dsimp only at h
  split at h
  · unfold writeInCurrentBuffer at h
    dsimp only at h
    split at h
    · cases h
      rw [LawfulMicroCdr.init]
      refine ⟨?_, rfl⟩
      have haligned := halign (getReliableBufferSize stream.base stream.lastWritten)
      dsimp only
      omega
    · cases h
  split at h
  · unfold writeInNewBuffer at h
    dsimp only at h
    split at h
    · cases h
      rw [LawfulMicroCdr.init]
      refine ⟨?_, rfl⟩
      dsimp only
      omega
    · cases h
  split at h
  · have hfragments {stream : OutputReliableStream} {seqNum : SeqNum} {bufferSize blocks : Nat}
        (hwritten : writeFragmentsFrom stream seqNum bufferSize blocks length ub =
          (true, stream', ub')) : ub'.offset % 4 = 0 ∧ ub'.endianness = machineEndianness := by
      unfold writeFragmentsFrom at hwritten
      dsimp only at hwritten
      split at hwritten
      · cases hwritten
        rw [ucdrInitBuffer, LawfulMicroCdr.init]
        exact ⟨rfl, rfl⟩
      · cases hwritten
    unfold writeFragments at h
    split at h
    · exact hfragments h
    · exact hfragments h
  · cases h

/-- The memory of an output stream, changed in a buffer over it. -/
def writeStream (streams : StreamStorage) (streamId : StreamId)
    (write : Memory → Memory) : StreamStorage :=
  match streamId.type with
  | .bestEffortStream =>
    let stream := streams.outputBestEffort streamId.index
    { streams with
      outputBestEffort := Function.update streams.outputBestEffort streamId.index
        { stream with buffer := write stream.buffer } }
  | .reliableStream =>
    let stream := streams.outputReliable streamId.index
    streams.setOutputReliable streamId.index
      { stream with base := { stream.base with buffer := write stream.base.buffer } }
  | _ => streams

/-! ## CREATE -/

/-- `DDS_XRCE_OBJK_PARTICIPANT` (xrce_types.h). -/
def objkParticipant : UInt8 := 1

/-- The payload length of a CREATE (common_create_entities.c:53–65). -/
def createPayloadLength (objectId : ObjectId) (xmlRefBinSize : UInt16) : UInt16 :=
  let payloadLength : UInt16 := 4 + 1 + 1 + 2 + 4 + xmlRefBinSize
  let padding : UInt16 :=
    if objectId.type = objkParticipant ∧ payloadLength % 2 ≠ 0 then 1 else 0
  payloadLength + padding + 2

/-- `uxr_common_create_entity` (common_create_entities.c:43–82): the request, or the invalid one
when there is no room. The last argument writes the header and the payload. -/
def commonCreateEntity (session : Session) (streamId : StreamId) (objectId : ObjectId)
    (xmlRefBinSize : UInt16) (write : BaseObjectRequest → UcdrBuffer → Memory → Memory) :
    UInt16 × Session :=
  match prepareStreamToWriteSubmessage session.streams streamId
      (createPayloadLength objectId xmlRefBinSize).toNat with
  | some (streams, ub) =>
    let (requestId, base, info) := initBaseObjectRequest session.info objectId
    (requestId,
      { session with info, streams := writeStream streams streamId (write base ub) })
  | none => (invalidRequestId, session)

/-- A creation fails exactly where there is no room for it. -/
theorem commonCreateEntity_invalid_iff (session : Session) (streamId : StreamId)
    (objectId : ObjectId) (xmlRefBinSize : UInt16)
    (write : BaseObjectRequest → UcdrBuffer → Memory → Memory) :
    (commonCreateEntity session streamId objectId xmlRefBinSize write).1 = invalidRequestId ↔
      prepareStreamToWriteSubmessage session.streams streamId
        (createPayloadLength objectId xmlRefBinSize).toNat = none := by
  rw [commonCreateEntity]
  cases hroom : prepareStreamToWriteSubmessage session.streams streamId
      (createPayloadLength objectId xmlRefBinSize).toNat with
  | none => exact ⟨fun _ => rfl, fun _ => rfl⟩
  | some room =>
    constructor
    · intro hinvalid
      exact absurd hinvalid (generateRequestId_ne session.info)
    · intro hnone
      cases hnone

end

end XrceClient
