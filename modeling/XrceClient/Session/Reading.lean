import XrceClient.Base.Program
import XrceClient.Stream.InputReliable
import XrceClient.Stream.MicroCdr
import XrceClient.Stream.StreamId
import XrceClient.Stream.Submessage

/-!
# Reading submessages

What the session's reading functions do to the buffer they read from, as programs
over an interface. They are the same for a buffer over a received datagram and
for one that is chained over the slots of a stream.

- `BufferOp`: the Micro-CDR calls. The callbacks that the user installs, for topics,
  requests and replies, are programs over these.
- `ReadOp`: in addition what `read_format_data` does to its two buffers, to the
  stream's `cleanup_flag`, and what a submessage does to the session (`Effect`).
- `ReadEnv.handle`: the operations on a device, with Micro-CDR.
- `readSubmessageList` and the functions below it, and `onGetFragmentationInfo`.

A payload that cannot be read whole stays in part what it was. `Uninitialized` are the
contents of the local variables that the source declares without a value.
-/

namespace XrceClient

open ByteMemory

/-- The Micro-CDR calls of a reading function, on its buffer. -/
inductive BufferOp : Type → Type
  | alignTo (size : Nat) : BufferOp Unit
  | bufferRemaining : BufferOp Nat
  | offset : BufferOp Nat
  | deserialize (e : Option Endianness) (width : Nat) : BufferOp (Option Nat)
  | deserializeArray (size : Nat) : BufferOp (Option (List UInt8))
  | advanceBuffer (size : Nat) : BufferOp Unit

/-- A callback of the user: it reads from the buffer that it is given, and what it
has read is its result. -/
abbrev ReadCallback := Program BufferOp (List UInt8)

/-! ## Payloads (`xrce_types.c`) -/

/-- `uxrObjectId` (object_id.h). -/
structure ObjectId where
  id : UInt16
  type : UInt8
  deriving DecidableEq, Repr

/-- `UXR_DATAREADER_ID` (object_id.h). -/
def dataReaderId : UInt8 := 6

/-- `UXR_REQUESTER_ID` (object_id.h). -/
def requesterId : UInt8 := 7

/-- `UXR_REPLIER_ID` (object_id.h). -/
def replierId : UInt8 := 8

/-- `BaseObjectRequest` (xrce_types.h): the two bytes of each identifier. -/
structure BaseObjectRequest where
  requestId : List UInt8
  objectId : List UInt8
  deriving DecidableEq, Repr

/-- All bytes zero. -/
def BaseObjectRequest.zero : BaseObjectRequest where
  requestId := [0, 0]
  objectId := [0, 0]

/-- `BaseObjectReply` (xrce_types.h). -/
structure BaseObjectReply where
  relatedRequest : BaseObjectRequest
  status : UInt8
  implementationStatus : UInt8
  deriving DecidableEq, Repr

/-- `SampleIdentity` (xrce_types.h). -/
structure SampleIdentity where
  guidPrefix : List UInt8
  entityKey : List UInt8
  entityKind : Nat
  high : Nat
  low : Nat
  deriving DecidableEq, Repr

/-- `HEARTBEAT_Payload` (xrce_types.h). -/
structure HeartbeatPayload where
  firstUnackedSeqNr : UInt16
  lastUnackedSeqNr : UInt16
  streamId : UInt8
  deriving DecidableEq, Repr

/-- `ACKNACK_Payload` (xrce_types.h). -/
structure AcknackPayload where
  firstUnackedSeqNum : UInt16
  nackBitmap : List UInt8
  streamId : UInt8
  deriving DecidableEq, Repr

/-- `Time_t` (xrce_types.h). -/
structure Time where
  seconds : Nat
  nanoseconds : Nat
  deriving DecidableEq, Repr

/-- All bytes zero. -/
def Time.zero : Time where
  seconds := 0
  nanoseconds := 0

/-- `TIMESTAMP_REPLY_Payload` (xrce_types.h). -/
structure TimestampReplyPayload where
  transmitTimestamp : Time
  receiveTimestamp : Time
  originateTimestamp : Time
  deriving DecidableEq, Repr

section Deserialize

open Program BufferOp

/-- An integer of the given width, in the buffer's byte order; zero when it
cannot be read. -/
def deserializeScalar (width : Nat) : Program BufferOp Nat :=
  (fun v => v.getD 0) <$> call (deserialize none width)

/-- An array of bytes, which stays as it was when it cannot be read. -/
def deserializeBytes (size : Nat) : Program BufferOp (List UInt8) :=
  (fun bs => bs.getD (List.replicate size 0)) <$> call (deserializeArray size)

/-- `uxr_deserialize_BaseObjectRequest`: whether it could be read, and the request. -/
def deserializeBaseObjectRequest (output : BaseObjectRequest) :
    Program BufferOp (Bool × BaseObjectRequest) := do
  let requestId ← call (deserializeArray 2)
  let objectId ← call (deserializeArray 2)
  return (requestId.isSome && objectId.isSome,
    { requestId := requestId.getD output.requestId, objectId := objectId.getD output.objectId })

/-- `uxr_deserialize_BaseObjectReply`: whether it could be read, and the reply. -/
def deserializeBaseObjectReply (output : BaseObjectReply) :
    Program BufferOp (Bool × BaseObjectReply) := do
  let (ok, relatedRequest) ← deserializeBaseObjectRequest output.relatedRequest
  let status ← call (deserialize none 1)
  let implementationStatus ← call (deserialize none 1)
  return (ok && status.isSome && implementationStatus.isSome,
    { relatedRequest
      status := (status.map UInt8.ofNat).getD output.status
      implementationStatus :=
        (implementationStatus.map UInt8.ofNat).getD output.implementationStatus })

/-- `uxr_deserialize_STATUS_AGENT_Payload`: the status of the agent. -/
def deserializeStatusAgentPayload (output : UInt8) : Program BufferOp UInt8 := do
  let status ← call (deserialize none 1)
  let _implementationStatus ← call (deserialize none 1)
  let _xrceCookie ← call (deserializeArray 4)
  let _xrceVersion ← call (deserializeArray 2)
  let _xrceVendorId ← call (deserializeArray 2)
  let _optionalProperties ← call (deserialize none 1)
  return (status.map UInt8.ofNat).getD output

/-- `uxr_deserialize_SampleIdentity`: whether it could be read, and the identity. -/
def deserializeSampleIdentity : Program BufferOp (Bool × SampleIdentity) := do
  let guidPrefix ← call (deserializeArray 12)
  let entityKey ← call (deserializeArray 3)
  let entityKind ← call (deserialize none 1)
  let high ← call (deserialize none 4)
  let low ← call (deserialize none 4)
  return (guidPrefix.isSome && entityKey.isSome && entityKind.isSome && high.isSome && low.isSome,
    { guidPrefix := guidPrefix.getD (List.replicate 12 0)
      entityKey := entityKey.getD (List.replicate 3 0)
      entityKind := entityKind.getD 0
      high := high.getD 0
      low := low.getD 0 })

/-- `uxr_deserialize_HEARTBEAT_Payload`. -/
def deserializeHeartbeatPayload (output : HeartbeatPayload) :
    Program BufferOp HeartbeatPayload := do
  let firstUnackedSeqNr ← call (deserialize none 2)
  let lastUnackedSeqNr ← call (deserialize none 2)
  let streamId ← call (deserialize none 1)
  return { firstUnackedSeqNr :=
             (firstUnackedSeqNr.map UInt16.ofNat).getD output.firstUnackedSeqNr
           lastUnackedSeqNr := (lastUnackedSeqNr.map UInt16.ofNat).getD output.lastUnackedSeqNr
           streamId := (streamId.map UInt8.ofNat).getD output.streamId }

/-- `uxr_deserialize_ACKNACK_Payload`: whether it could be read, and the payload. -/
def deserializeAcknackPayload (output : AcknackPayload) :
    Program BufferOp (Bool × AcknackPayload) := do
  let firstUnackedSeqNum ← call (deserialize none 2)
  let nackBitmap ← call (deserializeArray 2)
  let streamId ← call (deserialize none 1)
  return (firstUnackedSeqNum.isSome && nackBitmap.isSome && streamId.isSome,
    { firstUnackedSeqNum :=
        (firstUnackedSeqNum.map UInt16.ofNat).getD output.firstUnackedSeqNum
      nackBitmap := nackBitmap.getD output.nackBitmap
      streamId := (streamId.map UInt8.ofNat).getD output.streamId })

/-- `uxr_deserialize_Time_t`. -/
def deserializeTime (output : Time) : Program BufferOp Time := do
  let seconds ← call (deserialize none 4)
  let nanoseconds ← call (deserialize none 4)
  return { seconds := seconds.getD output.seconds
           nanoseconds := nanoseconds.getD output.nanoseconds }

/-- `uxr_deserialize_TIMESTAMP_REPLY_Payload`. -/
def deserializeTimestampReplyPayload (output : TimestampReplyPayload) :
    Program BufferOp TimestampReplyPayload := do
  let transmitTimestamp ← deserializeTime output.transmitTimestamp
  let receiveTimestamp ← deserializeTime output.receiveTimestamp
  let originateTimestamp ← deserializeTime output.originateTimestamp
  return { transmitTimestamp, receiveTimestamp, originateTimestamp }

/-- `uxr_deserialize_GET_INFO_Payload`: the request it belongs to. -/
def deserializeGetInfoPayload (output : BaseObjectRequest) :
    Program BufferOp BaseObjectRequest := do
  let (_, base) ← deserializeBaseObjectRequest output
  let _infoMask ← call (deserialize none 4)
  return base

end Deserialize

/-- `uxr_object_id_from_raw` (object_id.c). -/
def objectIdFromRaw (raw : List UInt8) : ObjectId where
  id := UInt16.ofNat ((raw.getD 0 0).toNat * 16 + (raw.getD 1 0).toNat / 16)
  type := raw.getD 1 0 &&& 0x0F

/-- Two bytes, the high one first, as `uxr_parse_base_object_request` reads them
(session_info.c). -/
def uint16FromRaw (raw : List UInt8) : UInt16 :=
  UInt16.ofNat ((raw.getD 0 0).toNat * 256 + (raw.getD 1 0).toNat)

/-! ## Effects -/

/-- What the reading of a submessage does besides reading: the status it leaves in
the session's info, the callback it calls, the control message it acts on. Of a STATUS for the
session and of an ACKNACK it is also kept whether the payload was there as a whole: the source acts
on it without a look at that. -/
inductive Effect where
  | createSessionStatus (status : UInt8)
  | deleteSessionStatus (requestId : UInt16) (status : UInt8) (whole : Bool)
  | status (objectId : ObjectId) (requestId : UInt16) (status : UInt8)
  | onTopic (objectId : ObjectId) (requestId : UInt16) (streamId : StreamId) (length : UInt16)
      (read : List UInt8)
  | onRequest (objectId : ObjectId) (requestId : UInt16) (sampleId : SampleIdentity)
      (length : UInt16) (read : List UInt8)
  | onReply (objectId : ObjectId) (requestId : UInt16) (replyId : UInt16) (length : UInt16)
      (read : List UInt8)
  | heartbeat (payload : HeartbeatPayload)
  | acknack (payload : AcknackPayload) (whole : Bool)
  | timestampReply (payload : TimestampReplyPayload)
  | getInfo (requestId : List UInt8)
  | pong (status : UInt8)
  deriving DecidableEq, Repr

/-- The operations of the session's reading functions. -/
inductive ReadOp : Type → Type 1
  | buffer {β : Type} (op : BufferOp β) : ReadOp β
  /-- `ub->endianness = e`. -/
  | setEndianness (e : Endianness) : ReadOp PUnit
  /-- `ub->iterator += n`. -/
  | skip (n : Nat) : ReadOp PUnit
  /-- The `temp_buffer` of `read_format_data`, over what is left in `ub`. -/
  | openTemp : ReadOp PUnit
  /-- `temp_buffer` over what is left in itself. -/
  | rebaseTemp : ReadOp PUnit
  /-- Back to `ub`. -/
  | closeTemp : ReadOp PUnit
  /-- `stream->cleanup_flag = b`, when the buffer belongs to a stream. -/
  | setCleanupFlag (b : Bool) : ReadOp PUnit
  | emit (e : Effect) : ReadOp PUnit

/-! ## The functions -/

/-- What the local variables of the handlers hold before something is read into them. -/
structure Uninitialized where
  /-- The status in the `STATUS_AGENT_Payload` (session_info.c:118). -/
  statusAgent : UInt8
  /-- The `STATUS_Payload` (session.c:990, session_info.c:127). -/
  status : BaseObjectReply
  /-- The `BaseObjectRequest` of a DATA (session.c:1016). -/
  base : BaseObjectRequest
  heartbeat : HeartbeatPayload
  acknack : AcknackPayload
  timestampReply : TimestampReplyPayload

/-- All bytes zero. -/
def Uninitialized.zero : Uninitialized where
  statusAgent := 0
  status := { relatedRequest := .zero, status := 0, implementationStatus := 0 }
  base := .zero
  heartbeat := { firstUnackedSeqNr := 0, lastUnackedSeqNr := 0, streamId := 0 }
  acknack := { firstUnackedSeqNum := 0, nackBitmap := [0, 0], streamId := 0 }
  timestampReply :=
    { transmitTimestamp := .zero, receiveTimestamp := .zero, originateTimestamp := .zero }

/-- The callbacks that the user installed in the session, `NULL` as `none`, the contents of
uninitialized variables, and the reading of `ObjectVariant`, whose kinds are many. -/
structure ReadConfig where
  onTopic : Option (ObjectId → UInt16 → StreamId → UInt16 → ReadCallback)
  onRequest : Option (ObjectId → UInt16 → SampleIdentity → UInt16 → ReadCallback)
  onReply : Option (ObjectId → UInt16 → UInt16 → UInt16 → ReadCallback)
  uninitialized : Uninitialized
  deserializeObjectVariant : Program BufferOp Bool

/-- No callback is installed. -/
def noCallbacks : ReadConfig where
  onTopic := none
  onRequest := none
  onReply := none
  uninitialized := .zero
  deserializeObjectVariant := pure false

/-- A Micro-CDR program in a reading function. -/
def readBuffer {α : Type} (p : Program BufferOp α) : Program ReadOp α :=
  p.translate ReadOp.buffer

section Functions

open Program

/-- The header of a submessage. -/
structure SubmessageHeader where
  id : UInt8
  length : UInt16
  flags : UInt8
  deriving DecidableEq, Repr

/-- `uxr_read_submessage_header` (submessage.c:21–39): whether there was one, and
the output parameters. -/
def readSubmessageHeader (header : SubmessageHeader) : Program ReadOp (Bool × SubmessageHeader) := do
  call (.buffer (.alignTo 4))
  let remaining ← call (.buffer .bufferRemaining)
  if remaining ≥ subheaderSize then
    -- uxr_deserialize_submessage_header (xrce_subheader.c)
    let id ← call (.buffer (.deserialize none 1))
    let flags ← call (.buffer (.deserialize none 1))
    let length ← call (.buffer (.deserialize (some .littleEndianness) 2))
    let id := (id.map UInt8.ofNat).getD header.id
    let flags := (flags.map UInt8.ofNat).getD header.flags
    let length := (length.map UInt16.ofNat).getD header.length
    let endiannessFlag := flags &&& flagEndianness
    call (.setEndianness (if endiannessFlag ≠ 0 then .littleEndianness else .bigEndianness))
    return (true, { id, length, flags := flags &&& ~~~endiannessFlag })
  else
    return (false, header)

/-- The case of `UXR_DATAREADER_ID` in `read_format_data` (read_access.c:173–183). -/
def readTopic (config : ReadConfig) (length : UInt16) (streamId : StreamId) (objectId : ObjectId)
    (requestId : UInt16) : Program ReadOp PUnit := do
  match config.onTopic with
  | some onTopic =>
    let read ← readBuffer (onTopic objectId requestId streamId length)
    call (.emit (.onTopic objectId requestId streamId length read))
  | none => return

/-- The case of `UXR_REPLIER_ID` in `read_format_data` (read_access.c:184–211). -/
def readRequest (config : ReadConfig) (length : UInt16) (objectId : ObjectId)
    (requestId : UInt16) : Program ReadOp PUnit := do
  match config.onRequest with
  | some onRequest =>
    let offset ← call (.buffer .offset)
    let (ok, sampleId) ← readBuffer deserializeSampleIdentity
    if ok then
      let offset' ← call (.buffer .offset)
      let requestLength := UInt16.ofNat (length.toNat + 65536 - (offset' - offset) % 65536)
      call .rebaseTemp
      let read ← readBuffer (onRequest objectId requestId sampleId requestLength)
      call (.emit (.onRequest objectId requestId sampleId requestLength read))
  | none => return

/-- The case of `UXR_REQUESTER_ID` in `read_format_data` (read_access.c:212–241), but
for its last statement. -/
def readReply (config : ReadConfig) (length : UInt16) (objectId : ObjectId)
    (requestId : UInt16) : Program ReadOp PUnit := do
  match config.onReply with
  | some onReply =>
    let offset ← call (.buffer .offset)
    -- the request is used only when all of it was read
    let (ok, request) ← readBuffer (deserializeBaseObjectRequest .zero)
    if ok then
      let offset' ← call (.buffer .offset)
      let replyLength := UInt16.ofNat (length.toNat + 65536 - (offset' - offset) % 65536)
      call .rebaseTemp
      let replyId := uint16FromRaw request.requestId
      let read ← readBuffer (onReply objectId requestId replyId replyLength)
      call (.emit (.onReply objectId requestId replyId replyLength read))
  | none => return

/-- `read_format_data` (read_access.c:158–254). -/
def readFormatData (config : ReadConfig) (length : UInt16) (streamId : StreamId)
    (objectId : ObjectId) (requestId : UInt16) : Program ReadOp PUnit := do
  call .openTemp
  call (.setCleanupFlag false)
  if objectId.type = dataReaderId then
    readTopic config length streamId objectId requestId
    call .closeTemp
  else if objectId.type = replierId then
    readRequest config length objectId requestId
    call .closeTemp
  else if objectId.type = requesterId then
    readReply config length objectId requestId
    call .closeTemp
    call (.skip length.toNat)
  else
    call .closeTemp
  call (.setCleanupFlag true)
  call (.buffer (.advanceBuffer length.toNat))

/-- `FORMAT_DATA` (xrce_types.h). -/
def formatData : UInt8 := 0x00

/-- `FORMAT_MASK` (xrce_types.h). -/
def formatMask : UInt8 := 0x0E

/-- `read_submessage_format` (read_access.c:121–156). The other formats are read by
functions without a body. -/
def readSubmessageFormat (config : ReadConfig) (length : UInt16) (format : UInt8)
    (streamId : StreamId) (objectId : ObjectId) (requestId : UInt16) : Program ReadOp PUnit := do
  if format = formatData then
    readFormatData config length streamId objectId requestId

/-- `UXR_STATUS_OK` (session_info.h). -/
def statusOk : UInt8 := 0

/-- `read_submessage_data` (session.c:1008–1026). -/
def readSubmessageData (config : ReadConfig) (length : UInt16) (streamId : StreamId)
    (format : UInt8) : Program ReadOp PUnit := do
  let (_, base) ← readBuffer (deserializeBaseObjectRequest config.uninitialized.base)
  let length := length - 4
  let objectId := objectIdFromRaw base.objectId
  let requestId := uint16FromRaw base.requestId
  call (.emit (.status objectId requestId statusOk))
  readSubmessageFormat config length format streamId objectId requestId

/-- `read_submessage_status` (session.c:985–997). -/
def readSubmessageStatus (config : ReadConfig) : Program ReadOp PUnit := do
  let (_, base) ← readBuffer (deserializeBaseObjectReply config.uninitialized.status)
  call (.emit (.status (objectIdFromRaw base.relatedRequest.objectId)
    (uint16FromRaw base.relatedRequest.requestId) base.status))

/-- `DDS_XRCE_OBJK_AGENT` (xrce_types.h). -/
def objkAgent : Nat := 0x0D

/-- `NO_PONG_STATUS` (session.h). -/
def noPongStatus : UInt8 := 0

/-- `PONG_IN_SESSION_STATUS` (session.h). -/
def pongInSessionStatus : UInt8 := 1

/-- `PONG_NO_SESSION_STATUS` (session.h). -/
def pongNoSessionStatus : UInt8 := 2

/-- `read_submessage_info` (session.c:1105–1140). -/
def readSubmessageInfo (config : ReadConfig) : Program ReadOp PUnit := do
  -- what is missing of the payload is not used
  let (success, base) ← readBuffer (deserializeBaseObjectReply Uninitialized.zero.status)
  let activeSession := base.implementationStatus
  let optionalConfig ← call (.buffer (.deserialize none 1))
  let success := success && optionalConfig.isSome
  let success ←
    if optionalConfig.getD 0 ≠ 0 then do
      let ok ← readBuffer config.deserializeObjectVariant
      pure (success && ok)
    else pure success
  let optionalActivity ← call (.buffer (.deserialize none 1))
  let success := success && optionalActivity.isSome
  if optionalActivity.getD 0 ≠ 0 then
    let kind ← call (.buffer (.deserialize none 1))
    let success := success && kind.isSome
    if success && kind.getD 0 = objkAgent then
      let availability ← call (.buffer (.deserialize none 2))
      let success := success && availability.isSome
      -- the availability is an int16_t
      let available := 0 < availability.getD 0 ∧ availability.getD 0 < 32768
      call (.emit (.pong
        (if success ∧ available then
          if activeSession ≠ 0 then pongInSessionStatus else pongNoSessionStatus
        else noPongStatus)))

/-- `read_submessage` (session.c:923–983). -/
def readSubmessage (config : ReadConfig) (streamId : StreamId) (header : SubmessageHeader) :
    Program ReadOp PUnit := do
  if header.id = SubmessageId.statusAgent.value then
    if streamId.type = .noneStream then
      let status ← readBuffer (deserializeStatusAgentPayload config.uninitialized.statusAgent)
      call (.emit (.createSessionStatus status))
  else if header.id = SubmessageId.status.value then
    if streamId.type = .noneStream then
      let (ok, base) ← readBuffer (deserializeBaseObjectReply config.uninitialized.status)
      call (.emit (.deleteSessionStatus (uint16FromRaw base.relatedRequest.requestId) base.status
        ok))
    else
      readSubmessageStatus config
  else if header.id = SubmessageId.data.value then
    readSubmessageData config header.length streamId (header.flags &&& formatMask)
  else if header.id = SubmessageId.heartbeat.value then
    let payload ← readBuffer (deserializeHeartbeatPayload config.uninitialized.heartbeat)
    call (.emit (.heartbeat payload))
  else if header.id = SubmessageId.acknack.value then
    let (ok, payload) ← readBuffer (deserializeAcknackPayload config.uninitialized.acknack)
    call (.emit (.acknack payload ok))
  else if header.id = SubmessageId.timestampReply.value then
    let payload ← readBuffer
      (deserializeTimestampReplyPayload config.uninitialized.timestampReply)
    call (.emit (.timestampReply payload))
  else if header.id = SubmessageId.getInfo.value then
    let base ← readBuffer (deserializeGetInfoPayload .zero)
    call (.emit (.getInfo base.requestId))
  else if header.id = SubmessageId.info.value then
    readSubmessageInfo config

/-- The loop of `read_submessage_list` (session.c:911–921), for at most `fuel`
submessages: whether it came to its end. -/
def readSubmessagesFrom (config : ReadConfig) (streamId : StreamId) : Nat → SubmessageHeader →
    Program ReadOp Bool
  | 0, _ => return false
  | fuel + 1, header => do
    let (found, header) ← readSubmessageHeader header
    if found then
      readSubmessage config streamId header
      readSubmessagesFrom config streamId fuel header
    else
      return true

/-- `read_submessage_list` (session.c:911–921). -/
def readSubmessageList (config : ReadConfig) (fuel : Nat) (streamId : StreamId) :
    Program ReadOp Bool :=
  readSubmessagesFrom config streamId fuel { id := 0, length := 0, flags := 0 }

end Functions

/-! ## The operations on a device -/

/-- The buffer that is read from: `ub`, or `temp_buffer` with `ub` kept aside. -/
structure Cursor where
  ub : UcdrBuffer
  outer : Option UcdrBuffer
  deriving DecidableEq

/-- A device whose state also has the `cleanup_flag` and takes the effects. -/
structure ReadEnv (σ : Type) where
  dev : Device σ
  setCleanupFlag : Bool → σ → σ
  emit : Effect → σ → σ

section Handle

variable [MicroCdr] {σ : Type}

/-- A Micro-CDR call. -/
def BufferOp.handle (dev : Device σ) {β : Type} (op : BufferOp β) (s : σ) (ub : UcdrBuffer) :
    β × σ × UcdrBuffer :=
  match op with
  | .alignTo size => ((), s, ucdrAlignTo ub size)
  | .bufferRemaining => (ucdrBufferRemaining ub, s, ub)
  | .offset => (ub.offset, s, ub)
  | .deserialize e width => ucdrDeserialize dev s ub (e.getD ub.endianness) width
  | .deserializeArray size => ucdrDeserializeArray dev s ub size
  | .advanceBuffer size => ((), ucdrAdvanceBuffer dev s ub size)

/-- `ucdr_init_buffer` over what is left in a buffer, with the callback of another
(read_access.c:167–168, 195–197). -/
def UcdrBuffer.rebase (ub : UcdrBuffer) (onFullBuffer : Option OnFullBuffer) : UcdrBuffer :=
  (ucdrInitBuffer ub.iterator ((ub.final - ub.iterator) % 2 ^ 32)).setOnFullBufferCallback
    onFullBuffer

/-- One operation of a reading function. -/
def ReadEnv.handle (env : ReadEnv σ) {β : Type} (op : ReadOp β) (t : σ × Cursor) :
    β × σ × Cursor :=
  let (s, c) := t
  match op with
  | .buffer op =>
    let (b, s, ub) := op.handle env.dev s c.ub
    (b, s, { c with ub })
  | .setEndianness e => (⟨⟩, s, { c with ub := { c.ub with endianness := e } })
  | .skip n => (⟨⟩, s, { c with ub := { c.ub with iterator := c.ub.iterator + n } })
  | .openTemp => (⟨⟩, s, { ub := c.ub.rebase c.ub.onFullBuffer, outer := some c.ub })
  | .rebaseTemp =>
    (⟨⟩, s, { c with ub := c.ub.rebase ((c.outer.getD c.ub).onFullBuffer) })
  | .closeTemp => (⟨⟩, s, { ub := c.outer.getD c.ub, outer := none })
  | .setCleanupFlag b =>
    (⟨⟩, if c.ub.onFullBuffer.isSome then env.setCleanupFlag b s else s, c)
  | .emit e => (⟨⟩, env.emit e s, c)

/-- A reading function on a buffer of its own. -/
def ReadEnv.read (env : ReadEnv σ) {α : Type} (p : Program ReadOp α) (s : σ) (ub : UcdrBuffer) :
    α × σ × Cursor :=
  p.run env.handle (s, { ub, outer := none })

end Handle

/-! ## What kind of message -/

/-- Reading from a plain memory, with nothing around. -/
def plainEnv : ReadEnv Memory where
  dev := Device.plain
  setCleanupFlag _ m := m
  emit _ m := m

/-- `on_get_fragmentation_info` (session.c:1240–1263), for the message at an address. -/
def onGetFragmentationInfo [MicroCdr] (memory : Memory) (submessageHeader : Nat) :
    FragmentationInfo :=
  let ub := ucdrInitBuffer submessageHeader subheaderSize
  let ((_, header), _) :=
    plainEnv.read (readSubmessageHeader { id := 0, length := 0, flags := 0 }) memory ub
  if SubmessageId.fragment.value = header.id then
    if flagLastFragment &&& header.flags ≠ 0 then .lastFragment else .intermediateFragment
  else
    .noFragmented

end XrceClient
