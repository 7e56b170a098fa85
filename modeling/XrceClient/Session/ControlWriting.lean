import XrceClient.Session.Headers

/-!
# The control messages that a session writes (`session.c`, `session_info.c`)

Besides the messages of its streams a session sends messages that it builds on the stack:
the header of a message, the header of one submessage, and its payload.

- `controlMessage`: the buffer, its contents and the message in it.
- `createSessionMessage`, `deleteSessionMessage`, `heartbeatMessage`, `acknackMessage`,
  `timestampMessage`, `infoMessage`: the six of them, with their payloads as the source
  serializes them.

The bytes of the buffers, which the source leaves uninitialized, start at zero.
-/

namespace XrceClient

open ByteMemory

/-! ## Payloads (`xrce_types.c`) -/

/-- `CREATE_CLIENT_PAYLOAD_SIZE` (session_info_internal.h). -/
def createClientPayloadSize : UInt16 := 16

/-- `DELETE_CLIENT_PAYLOAD_SIZE` (session_info_internal.h). -/
def deleteClientPayloadSize : UInt16 := 4

/-- `HEARTBEAT_PAYLOAD_SIZE` (output_reliable_stream_internal.h). -/
def heartbeatPayloadSize : UInt16 := 5

/-- `ACKNACK_PAYLOAD_SIZE` (input_reliable_stream_internal.h). -/
def acknackPayloadSize : UInt16 := 5

/-- `TIMESTAMP_PAYLOAD_SIZE` (session.c:45). -/
def timestampPayloadSize : UInt16 := 8

/-- `Property` (xrce_types.h): two strings, without their ends. -/
structure Property where
  name : List UInt8
  value : List UInt8
  deriving DecidableEq, Repr

/-- `CLIENT_Representation` (xrce_types.h). -/
structure ClientRepresentation where
  xrceCookie : List UInt8
  xrceVersion : List UInt8
  xrceVendorId : List UInt8
  clientKey : List UInt8
  sessionId : UInt8
  optionalProperties : Bool
  properties : List Property
  mtu : UInt16
  deriving DecidableEq, Repr

section

variable [MicroCdr] {σ : Type} (dev : Device σ)

/-- `uxr_serialize_BaseObjectRequest` (xrce_types.c:1605–1613). -/
def serializeBaseObjectRequest (s : σ) (ub : UcdrBuffer) (input : BaseObjectRequest) :
    Bool × σ × UcdrBuffer :=
  let (ok₁, s, ub) := ucdrSerializeArray dev s ub input.requestId
  let (ok₂, s, ub) := ucdrSerializeArray dev s ub input.objectId
  (ok₁ && ok₂, s, ub)

/-- `uxr_serialize_BaseObjectReply` (xrce_types.c:1775–1783). -/
def serializeBaseObjectReply (s : σ) (ub : UcdrBuffer) (relatedRequest : BaseObjectRequest)
    (status implementationStatus : UInt8) : Bool × σ × UcdrBuffer :=
  let (ok₁, s, ub) := serializeBaseObjectRequest dev s ub relatedRequest
  let (ok₂, s, ub) := ucdrSerialize dev s ub ub.endianness 1 status.toNat
  let (ok₃, s, ub) := ucdrSerialize dev s ub ub.endianness 1 implementationStatus.toNat
  (ok₁ && ok₂ && ok₃, s, ub)

/-- `ucdr_serialize_string`: the number of its characters with the end, and the characters. -/
def ucdrSerializeString (s : σ) (ub : UcdrBuffer) (string : List UInt8) : Bool × σ × UcdrBuffer :=
  let (ok₁, s, ub) := ucdrSerialize dev s ub ub.endianness 4 (string.length + 1)
  let (ok₂, s, ub) := ucdrSerializeArray dev s ub (string ++ [0])
  (ok₁ && ok₂, s, ub)

/-- `uxr_serialize_Property` (xrce_types.c:349–357). -/
def serializeProperty (s : σ) (ub : UcdrBuffer) (input : Property) : Bool × σ × UcdrBuffer :=
  let (ok₁, s, ub) := ucdrSerializeString dev s ub input.name
  let (ok₂, s, ub) := ucdrSerializeString dev s ub input.value
  (ok₁ && ok₂, s, ub)

/-- The loop of `uxr_serialize_PropertySeq` (xrce_types.c:374–377), up to the first failure. -/
def serializeProperties : List Property → σ → UcdrBuffer → Bool × σ × UcdrBuffer
  | [], s, ub => (true, s, ub)
  | property :: properties, s, ub =>
    match serializeProperty dev s ub property with
    | (true, s, ub) => serializeProperties properties s ub
    | (false, s, ub) => (false, s, ub)

/-- `uxr_serialize_PropertySeq` (xrce_types.c:369–379). -/
def serializePropertySeq (s : σ) (ub : UcdrBuffer) (input : List Property) :
    Bool × σ × UcdrBuffer :=
  match ucdrSerialize dev s ub ub.endianness 4 input.length with
  | (true, s, ub) => serializeProperties dev input s ub
  | (false, s, ub) => (false, s, ub)

/-- `uxr_serialize_CLIENT_Representation` (xrce_types.c:402–420), which is all of
`uxr_serialize_CREATE_CLIENT_Payload`. -/
def serializeCreateClientPayload (s : σ) (ub : UcdrBuffer) (input : ClientRepresentation) :
    Bool × σ × UcdrBuffer :=
  let (ok₁, s, ub) := ucdrSerializeArray dev s ub input.xrceCookie
  let (ok₂, s, ub) := ucdrSerializeArray dev s ub input.xrceVersion
  let (ok₃, s, ub) := ucdrSerializeArray dev s ub input.xrceVendorId
  let (ok₄, s, ub) := ucdrSerializeArray dev s ub input.clientKey
  let (ok₅, s, ub) := ucdrSerialize dev s ub ub.endianness 1 input.sessionId.toNat
  let (ok₆, s, ub) := ucdrSerialize dev s ub ub.endianness 1 input.optionalProperties.toNat
  let (ok₇, s, ub) :=
    if input.optionalProperties then serializePropertySeq dev s ub input.properties
    else (true, s, ub)
  let (ok₈, s, ub) := ucdrSerialize dev s ub ub.endianness 2 input.mtu.toNat
  (ok₁ && ok₂ && ok₃ && ok₄ && ok₅ && ok₆ && ok₇ && ok₈, s, ub)

/-- `uxr_serialize_DELETE_Payload` (xrce_types.c:2301–2308). -/
def serializeDeletePayload (s : σ) (ub : UcdrBuffer) (input : BaseObjectRequest) :
    Bool × σ × UcdrBuffer :=
  serializeBaseObjectRequest dev s ub input

/-- `uxr_serialize_ACKNACK_Payload` (xrce_types.c:2593–2602). -/
def serializeAcknackPayload (s : σ) (ub : UcdrBuffer) (input : AcknackPayload) :
    Bool × σ × UcdrBuffer :=
  let (ok₁, s, ub) := ucdrSerialize dev s ub ub.endianness 2 input.firstUnackedSeqNum.toNat
  let (ok₂, s, ub) := ucdrSerializeArray dev s ub input.nackBitmap
  let (ok₃, s, ub) := ucdrSerialize dev s ub ub.endianness 1 input.streamId.toNat
  (ok₁ && ok₂ && ok₃, s, ub)

/-- `uxr_serialize_HEARTBEAT_Payload` (xrce_types.c:2615–2624). -/
def serializeHeartbeatPayload (s : σ) (ub : UcdrBuffer) (input : HeartbeatPayload) :
    Bool × σ × UcdrBuffer :=
  let (ok₁, s, ub) := ucdrSerialize dev s ub ub.endianness 2 input.firstUnackedSeqNr.toNat
  let (ok₂, s, ub) := ucdrSerialize dev s ub ub.endianness 2 input.lastUnackedSeqNr.toNat
  let (ok₃, s, ub) := ucdrSerialize dev s ub ub.endianness 1 input.streamId.toNat
  (ok₁ && ok₂ && ok₃, s, ub)

/-- `uxr_serialize_Time_t` (xrce_types.c:7–15), which is all of
`uxr_serialize_TIMESTAMP_Payload`. -/
def serializeTimestampPayload (s : σ) (ub : UcdrBuffer) (input : Time) : Bool × σ × UcdrBuffer :=
  let (ok₁, s, ub) := ucdrSerialize dev s ub ub.endianness 4 input.seconds
  let (ok₂, s, ub) := ucdrSerialize dev s ub ub.endianness 4 input.nanoseconds
  (ok₁ && ok₂, s, ub)

/-- `uxr_serialize_INFO_Payload` (xrce_types.c:2357–2365), without configuration and
activity. -/
def serializeInfoPayload (s : σ) (ub : UcdrBuffer) (relatedRequest : BaseObjectRequest) :
    Bool × σ × UcdrBuffer :=
  let (ok₁, s, ub) := serializeBaseObjectReply dev s ub relatedRequest 0 0
  let (ok₂, s, ub) := ucdrSerialize dev s ub ub.endianness 1 0
  let (ok₃, s, ub) := ucdrSerialize dev s ub ub.endianness 1 0
  (ok₁ && ok₂ && ok₃, s, ub)

end

/-! ## Messages -/

/-- How a session was built: whether it has the profile for shared memory, and the timeout of
the check for its liveliness. -/
structure BuildProfile where
  sharedMemory : Bool
  hardLivelinessCheck : Option (List UInt8)

/-- `PROFILE_SHARED_MEMORY_ADD_SIZE` (session.c:23–27). -/
def BuildProfile.sharedMemoryAddSize (profile : BuildProfile) : Nat :=
  if profile.sharedMemory then 21 else 0

/-- `HARD_LIVELINESS_CHECK_ADD_SIZE` (session.c:29–33). -/
def BuildProfile.hardLivelinessCheckAddSize (profile : BuildProfile) : Nat :=
  if profile.hardLivelinessCheck.isSome then 26 else 0

/-- The string of `uxr_sm`, and the value it has. -/
def sharedMemoryProperty : Property where
  name := [0x75, 0x78, 0x72, 0x5F, 0x73, 0x6D]
  value := [0x31]

/-- The string of `uxr_hl`, and the timeout with six digits (session_info.c:74–89). -/
def hardLivelinessProperty (timeout : List UInt8) : Property where
  name := [0x75, 0x78, 0x72, 0x5F, 0x68, 0x6C]
  value :=
    if timeout.length > 6 then List.replicate 6 0x39
    else List.replicate (6 - timeout.length) 0x30 ++ timeout

/-- The properties of a build (session_info.c:62–91). -/
def BuildProfile.properties (profile : BuildProfile) : List Property :=
  (if profile.sharedMemory then [sharedMemoryProperty] else []) ++
    (profile.hardLivelinessCheck.map hardLivelinessProperty).toList

/-- The `CLIENT_Representation` of a session (session_info.c:47–93). -/
def clientRepresentation (profile : BuildProfile) (info : SessionInfo) (mtu : UInt16) :
    ClientRepresentation where
  xrceCookie := [0x58, 0x52, 0x43, 0x45]
  xrceVersion := [0x01, 0x00]
  xrceVendorId := [0x01, 0x0F]
  clientKey := info.key
  sessionId := info.id
  optionalProperties := profile.sharedMemory || profile.hardLivelinessCheck.isSome
  properties := profile.properties
  mtu

/-- `UXR_REQUEST_LOGIN` (session_info.h). -/
def requestLogin : UInt16 := 1

/-- `UXR_REQUEST_LOGOUT` (session_info.h). -/
def requestLogout : UInt16 := 2

/-- `DDS_XRCE_OBJECTID_CLIENT` (xrce_types.h). -/
def objectIdClient : List UInt8 := [0xFF, 0xFE]

section

variable [MicroCdr]

/-- A message that is built in a buffer on the stack: behind the room for the header the
contents are written, and then the header is stamped. -/
def controlMessage (info : SessionInfo) (size : Nat)
    (contents : Memory → UcdrBuffer → Memory × UcdrBuffer) (stamp : Memory → Nat → Memory) :
    List UInt8 :=
  let ub := ucdrInitBufferOriginOffset 0 size 0 (sessionHeaderOffset info)
  let (buffer, ub) := contents (fun _ => 0) ub
  let buffer := stamp buffer ub.init
  read buffer 0 (ub.iterator - ub.init)

/-- `uxr_stamp_create_session_header` (session_info.c:138–147), at an address. -/
def stampCreateSessionHeader (info : SessionInfo) (m : Memory) (buffer : Nat) : Memory :=
  (serializeMessageHeader Device.plain m (ucdrInitBuffer buffer maxHeaderSize)
    (info.id &&& sessionIdWithoutClientKey) 0 0 info.key).1

/-- `uxr_stamp_session_header` for the stream of none. -/
def stampControlHeader (info : SessionInfo) (m : Memory) (buffer : Nat) : Memory :=
  stampSessionHeader Device.plain info 0 0 m buffer

/-- `CREATE_SESSION_MAX_MSG_SIZE` (session.c:38–39). -/
def createSessionMaxMsgSize (profile : BuildProfile) : Nat :=
  maxHeaderSize + subheaderSize + createClientPayloadSize.toNat + profile.sharedMemoryAddSize +
    profile.hardLivelinessCheckAddSize

/-- The message of `uxr_create_session_retries` (session.c:233–246) and
`uxr_buffer_create_session` (session_info.c:42–99). -/
def createSessionMessage (profile : BuildProfile) (info : SessionInfo) (mtu : UInt16) :
    List UInt8 :=
  controlMessage info (createSessionMaxMsgSize profile)
    (fun buffer ub =>
      let (_, buffer, ub) := bufferSubmessageHeader Device.plain buffer ub
        SubmessageId.createClient.value createClientPayloadSize 0
      (serializeCreateClientPayload Device.plain buffer ub
        (clientRepresentation profile info mtu)).2)
    (stampCreateSessionHeader info)

/-- `DELETE_SESSION_MAX_MSG_SIZE` (session.c:41). -/
def deleteSessionMaxMsgSize : Nat :=
  maxHeaderSize + subheaderSize + deleteClientPayloadSize.toNat

/-- The message of `uxr_delete_session_retries` (session.c:263–279) and
`uxr_buffer_delete_session` (session_info.c:101–112). -/
def deleteSessionMessage (info : SessionInfo) : List UInt8 :=
  controlMessage info deleteSessionMaxMsgSize
    (fun buffer ub =>
      let (_, buffer, ub) := bufferSubmessageHeader Device.plain buffer ub
        SubmessageId.delete.value deleteClientPayloadSize 0
      (serializeDeletePayload Device.plain buffer ub
        { requestId := [0, UInt8.ofNat requestLogout.toNat], objectId := objectIdClient }).2)
    (stampControlHeader info)

/-- `HEARTBEAT_MAX_MSG_SIZE` (session.c:42). -/
def heartbeatMaxMsgSize : Nat := maxHeaderSize + subheaderSize + heartbeatPayloadSize.toNat

/-- The message of `write_submessage_heartbeat` (session.c:795–819). -/
def heartbeatMessage (info : SessionInfo) (payload : HeartbeatPayload) : List UInt8 :=
  controlMessage info heartbeatMaxMsgSize
    (fun buffer ub =>
      let (_, buffer, ub) := bufferSubmessageHeader Device.plain buffer ub
        SubmessageId.heartbeat.value heartbeatPayloadSize 0
      (serializeHeartbeatPayload Device.plain buffer ub payload).2)
    (stampControlHeader info)

/-- `ACKNACK_MAX_MSG_SIZE` (session.c:43). -/
def acknackMaxMsgSize : Nat := maxHeaderSize + subheaderSize + acknackPayloadSize.toNat

/-- The message of `write_submessage_acknack` (session.c:821–849). -/
def acknackMessage (info : SessionInfo) (payload : AcknackPayload) : List UInt8 :=
  controlMessage info acknackMaxMsgSize
    (fun buffer ub =>
      let (_, buffer, ub) := bufferSubmessageHeader Device.plain buffer ub
        SubmessageId.acknack.value acknackPayloadSize 0
      (serializeAcknackPayload Device.plain buffer ub payload).2)
    (stampControlHeader info)

/-- `TIMESTAMP_MAX_MSG_SIZE` (session.c:46). -/
def timestampMaxMsgSize : Nat := maxHeaderSize + subheaderSize + timestampPayloadSize.toNat

/-- The message of `uxr_sync_session` (session.c:533–546), at a time in nanoseconds. -/
def timestampMessage (info : SessionInfo) (transmitTimestamp : Time) : List UInt8 :=
  controlMessage info timestampMaxMsgSize
    (fun buffer ub =>
      let (_, buffer, ub) := bufferSubmessageHeader Device.plain buffer ub
        SubmessageId.timestamp.value timestampPayloadSize 0
      (serializeTimestampPayload Device.plain buffer ub transmitTimestamp).2)
    (stampControlHeader info)

/-- The answer of `read_submessage_get_info` (session.c:1081–1104), whose buffer has twelve
bytes. It has no header of a submessage. -/
def infoMessage (info : SessionInfo) (requestId : List UInt8) : List UInt8 :=
  controlMessage info 12
    (fun buffer ub =>
      (serializeInfoPayload Device.plain buffer ub { requestId, objectId := [0, 0] }).2)
    (stampControlHeader info)

end

end XrceClient
