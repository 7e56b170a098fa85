import XrceClient.Session.Representations

/-!
# Objects in binary (`xrce_types.c`)

The representations of objects that are not XML and not references: what `OBJK_…_Binary` hold, with
their serializers and deserializers as the source has them. A client puts them in the bytes of a
representation in binary.

Optional content is an `Option`, and a deserializer gives `none` where its result is `false`; a
flag that cannot be read is taken for zero, as in `Representations`. Publishers and subscribers have
the same representation, and so have requesters and repliers: each pair is one type here.

The user data of an endpoint is a `BinarySequenceSmall_t`, which the source casts to
`BinarySequence_t`. So it is read with the bound of the larger type; what is behind the eighth byte
does not belong to the field.
-/

namespace XrceClient

/-! ## Bounds (`xrce_types.h`) -/

/-- `UXR_STRING_SEQUENCE_MAX`. -/
def stringSequenceMax : Nat := 8

/-- `UXR_BINARY_SEQUENCE_SMALL_MAX`. -/
def binarySequenceSmallMax : Nat := 8

/-! ## Types (`xrce_types.h`) -/

/-- `OBJK_DomainParticipant_Binary`. -/
structure DomainParticipantBinary where
  domainReference : Option (List UInt8)
  qosProfileReference : Option (List UInt8)
  deriving DecidableEq

/-- `OBJK_Topic_Binary`. -/
structure TopicBinary where
  topicName : List UInt8
  typeReference : Option (List UInt8)
  typeName : Option (List UInt8)
  deriving DecidableEq

/-- `OBJK_Publisher_Binary_Qos` and `OBJK_Subscriber_Binary_Qos`. -/
structure GroupBinaryQos where
  partitions : Option (List (List UInt8))
  groupData : Option (List UInt8)
  deriving DecidableEq

/-- `OBJK_Publisher_Binary` and `OBJK_Subscriber_Binary`. -/
structure GroupBinary where
  name : Option (List UInt8)
  qos : Option GroupBinaryQos
  deriving DecidableEq

/-- `OBJK_Endpoint_QosBinary`. -/
structure EndpointQosBinary where
  qosFlags : UInt16
  historyDepth : Option UInt16
  deadlineMsec : Option UInt32
  lifespanMsec : Option UInt32
  userData : Option (List UInt8)
  deriving DecidableEq

/-- `OBJK_DataWriter_Binary_Qos`. -/
structure DataWriterBinaryQos where
  base : EndpointQosBinary
  ownershipStrength : Option UInt64
  deriving DecidableEq

/-- `OBJK_DataReader_Binary_Qos`. -/
structure DataReaderBinaryQos where
  base : EndpointQosBinary
  timebasedfilterMsec : Option UInt64
  contentbasedFilter : Option (List UInt8)
  deriving DecidableEq

/-- `OBJK_DataWriter_Binary`. -/
structure DataWriterBinary where
  topicId : List UInt8
  qos : Option DataWriterBinaryQos
  deriving DecidableEq

/-- `OBJK_DataReader_Binary`. -/
structure DataReaderBinary where
  topicId : List UInt8
  qos : Option DataReaderBinaryQos
  deriving DecidableEq

/-- `OBJK_Requester_Binary` and `OBJK_Replier_Binary`. -/
structure RequestReplyBinary where
  serviceName : List UInt8
  requestType : List UInt8
  replyType : List UInt8
  requestTopicName : Option (List UInt8)
  replyTopicName : Option (List UInt8)
  deriving DecidableEq

namespace XrceTypes

variable [MicroCdr] {σ : Type} (dev : Device σ)

/-! ## Serializers -/

/-- `ucdr_serialize_uint16_t`. -/
def serializeUint16 (s : σ) (ub : UcdrBuffer) (value : UInt16) : Bool × σ × UcdrBuffer :=
  ucdrSerialize dev s ub ub.endianness 2 value.toNat

/-- `ucdr_serialize_uint32_t`. -/
def serializeUint32 (s : σ) (ub : UcdrBuffer) (value : UInt32) : Bool × σ × UcdrBuffer :=
  ucdrSerialize dev s ub ub.endianness 4 value.toNat

/-- `ucdr_serialize_uint64_t`. -/
def serializeUint64 (s : σ) (ub : UcdrBuffer) (value : UInt64) : Bool × σ × UcdrBuffer :=
  ucdrSerialize dev s ub ub.endianness 8 value.toNat

/-- A flag, and the optional content behind it. -/
def serializeOptional {α : Type} (content : σ → UcdrBuffer → α → Bool × σ × UcdrBuffer) (s : σ)
    (ub : UcdrBuffer) (input : Option α) : Bool × σ × UcdrBuffer :=
  let (ok₁, s, ub) := ucdrSerialize dev s ub ub.endianness 1 input.isSome.toNat
  let (ok₂, s, ub) :=
    match input with
    | some value => content s ub value
    | none => (true, s, ub)
  (ok₁ && ok₂, s, ub)

omit [MicroCdr] in
/-- The loop in which a sequence is written, up to the first failure. -/
def serializeItems {α : Type} (item : σ → UcdrBuffer → α → Bool × σ × UcdrBuffer) :
    List α → σ → UcdrBuffer → Bool × σ × UcdrBuffer
  | [], s, ub => (true, s, ub)
  | a :: items, s, ub =>
    match item s ub a with
    | (true, s, ub) => serializeItems item items s ub
    | (false, s, ub) => (false, s, ub)

/-- The number of the items of a sequence, and the items. -/
def serializeSeq {α : Type} (item : σ → UcdrBuffer → α → Bool × σ × UcdrBuffer) (s : σ)
    (ub : UcdrBuffer) (input : List α) : Bool × σ × UcdrBuffer :=
  match ucdrSerialize dev s ub ub.endianness 4 input.length with
  | (true, s, ub) => serializeItems item input s ub
  | (false, s, ub) => (false, s, ub)

/-- `uxr_serialize_StringSequence_t` (xrce_types.c:41–51). -/
def serializeStringSequence : σ → UcdrBuffer → List (List UInt8) → Bool × σ × UcdrBuffer :=
  serializeSeq dev (ucdrSerializeString dev)

/-- `uxr_serialize_OBJK_DomainParticipant_Binary` (xrce_types.c:907–925). -/
def serializeDomainParticipantBinary (s : σ) (ub : UcdrBuffer) (input : DomainParticipantBinary) :
    Bool × σ × UcdrBuffer :=
  let (ok₁, s, ub) := serializeOptional dev (ucdrSerializeString dev) s ub input.domainReference
  let (ok₂, s, ub) := serializeOptional dev (ucdrSerializeString dev) s ub input.qosProfileReference
  (ok₁ && ok₂, s, ub)

/-- `uxr_serialize_OBJK_Topic_Binary` (xrce_types.c:947–966). -/
def serializeTopicBinary (s : σ) (ub : UcdrBuffer) (input : TopicBinary) : Bool × σ × UcdrBuffer :=
  let (ok₁, s, ub) := ucdrSerializeString dev s ub input.topicName
  let (ok₂, s, ub) := serializeOptional dev (ucdrSerializeString dev) s ub input.typeReference
  let (ok₃, s, ub) := serializeOptional dev (ucdrSerializeString dev) s ub input.typeName
  (ok₁ && ok₂ && ok₃, s, ub)

/-- `uxr_serialize_OBJK_Publisher_Binary_Qos` (xrce_types.c:989–1007) and
`uxr_serialize_OBJK_Subscriber_Binary_Qos` (xrce_types.c:1069–1087). -/
def serializeGroupBinaryQos (s : σ) (ub : UcdrBuffer) (input : GroupBinaryQos) :
    Bool × σ × UcdrBuffer :=
  let (ok₁, s, ub) := serializeOptional dev (serializeStringSequence dev) s ub input.partitions
  let (ok₂, s, ub) := serializeOptional dev (serializeBinarySequence dev) s ub input.groupData
  (ok₁ && ok₂, s, ub)

/-- A publisher or a subscriber. -/
def serializeGroupBinary (s : σ) (ub : UcdrBuffer) (input : GroupBinary) : Bool × σ × UcdrBuffer :=
  let (ok₁, s, ub) := serializeOptional dev (ucdrSerializeString dev) s ub input.name
  let (ok₂, s, ub) := serializeOptional dev (serializeGroupBinaryQos dev) s ub input.qos
  (ok₁ && ok₂, s, ub)

/-- `uxr_serialize_OBJK_Publisher_Binary` (xrce_types.c:1029–1047). -/
def serializePublisherBinary := serializeGroupBinary dev

/-- `uxr_serialize_OBJK_Subscriber_Binary` (xrce_types.c:1109–1127). -/
def serializeSubscriberBinary := serializeGroupBinary dev

/-- `uxr_serialize_OBJK_Endpoint_QosBinary` (xrce_types.c:1149–1180). -/
def serializeEndpointQosBinary (s : σ) (ub : UcdrBuffer) (input : EndpointQosBinary) :
    Bool × σ × UcdrBuffer :=
  let (ok₁, s, ub) := serializeUint16 dev s ub input.qosFlags
  let (ok₂, s, ub) := serializeOptional dev (serializeUint16 dev) s ub input.historyDepth
  let (ok₃, s, ub) := serializeOptional dev (serializeUint32 dev) s ub input.deadlineMsec
  let (ok₄, s, ub) := serializeOptional dev (serializeUint32 dev) s ub input.lifespanMsec
  let (ok₅, s, ub) := serializeOptional dev (serializeBinarySequence dev) s ub input.userData
  (ok₁ && ok₂ && ok₃ && ok₄ && ok₅, s, ub)

/-- `uxr_serialize_OBJK_DataWriter_Binary_Qos` (xrce_types.c:1215–1228). -/
def serializeDataWriterBinaryQos (s : σ) (ub : UcdrBuffer) (input : DataWriterBinaryQos) :
    Bool × σ × UcdrBuffer :=
  let (ok₁, s, ub) := serializeEndpointQosBinary dev s ub input.base
  let (ok₂, s, ub) := serializeOptional dev (serializeUint64 dev) s ub input.ownershipStrength
  (ok₁ && ok₂, s, ub)

/-- `uxr_serialize_OBJK_DataReader_Binary_Qos` (xrce_types.c:1245–1264). -/
def serializeDataReaderBinaryQos (s : σ) (ub : UcdrBuffer) (input : DataReaderBinaryQos) :
    Bool × σ × UcdrBuffer :=
  let (ok₁, s, ub) := serializeEndpointQosBinary dev s ub input.base
  let (ok₂, s, ub) := serializeOptional dev (serializeUint64 dev) s ub input.timebasedfilterMsec
  let (ok₃, s, ub) := serializeOptional dev (ucdrSerializeString dev) s ub input.contentbasedFilter
  (ok₁ && ok₂ && ok₃, s, ub)

/-- `uxr_serialize_OBJK_DataReader_Binary` (xrce_types.c:1287–1300). -/
def serializeDataReaderBinary (s : σ) (ub : UcdrBuffer) (input : DataReaderBinary) :
    Bool × σ × UcdrBuffer :=
  let (ok₁, s, ub) := ucdrSerializeArray dev s ub input.topicId
  let (ok₂, s, ub) := serializeOptional dev (serializeDataReaderBinaryQos dev) s ub input.qos
  (ok₁ && ok₂, s, ub)

/-- `uxr_serialize_OBJK_DataWriter_Binary` (xrce_types.c:1317–1330). -/
def serializeDataWriterBinary (s : σ) (ub : UcdrBuffer) (input : DataWriterBinary) :
    Bool × σ × UcdrBuffer :=
  let (ok₁, s, ub) := ucdrSerializeArray dev s ub input.topicId
  let (ok₂, s, ub) := serializeOptional dev (serializeDataWriterBinaryQos dev) s ub input.qos
  (ok₁ && ok₂, s, ub)

/-- A requester or a replier. -/
def serializeRequestReplyBinary (s : σ) (ub : UcdrBuffer) (input : RequestReplyBinary) :
    Bool × σ × UcdrBuffer :=
  let (ok₁, s, ub) := ucdrSerializeString dev s ub input.serviceName
  let (ok₂, s, ub) := ucdrSerializeString dev s ub input.requestType
  let (ok₃, s, ub) := ucdrSerializeString dev s ub input.replyType
  let (ok₄, s, ub) := serializeOptional dev (ucdrSerializeString dev) s ub input.requestTopicName
  let (ok₅, s, ub) := serializeOptional dev (ucdrSerializeString dev) s ub input.replyTopicName
  (ok₁ && ok₂ && ok₃ && ok₄ && ok₅, s, ub)

/-- `uxr_serialize_OBJK_Requester_Binary` (xrce_types.c:1347–1367). -/
def serializeRequesterBinary := serializeRequestReplyBinary dev

/-- `uxr_serialize_OBJK_Replier_Binary` (xrce_types.c:1391–1411). -/
def serializeReplierBinary := serializeRequestReplyBinary dev

/-! ## Deserializers -/

/-- `ucdr_deserialize_uint16_t`. -/
def deserializeUint16 : StateM (σ × UcdrBuffer) (Option UInt16) :=
  Option.map UInt16.ofNat <$> readScalar dev 2

/-- `ucdr_deserialize_uint32_t`. -/
def deserializeUint32 : StateM (σ × UcdrBuffer) (Option UInt32) :=
  Option.map UInt32.ofNat <$> readScalar dev 4

/-- `ucdr_deserialize_uint64_t`. -/
def deserializeUint64 : StateM (σ × UcdrBuffer) (Option UInt64) :=
  Option.map UInt64.ofNat <$> readScalar dev 8

/-- `uxr_deserialize_StringSequence_t` (xrce_types.c:53–71). -/
def deserializeStringSequence : StateM (σ × UcdrBuffer) (Option (List (List UInt8))) :=
  deserializeSeq dev stringSequenceMax (deserializeString dev)

/-- `uxr_deserialize_OBJK_DomainParticipant_Binary` (xrce_types.c:927–945). -/
def deserializeDomainParticipantBinary :
    StateM (σ × UcdrBuffer) (Option DomainParticipantBinary) := do
  let domainReference ← deserializeOptional dev (deserializeString dev)
  let qosProfileReference ← deserializeOptional dev (deserializeString dev)
  return do
    let domainReference ← domainReference
    let qosProfileReference ← qosProfileReference
    some { domainReference, qosProfileReference }

/-- `uxr_deserialize_OBJK_Topic_Binary` (xrce_types.c:968–987). -/
def deserializeTopicBinary : StateM (σ × UcdrBuffer) (Option TopicBinary) := do
  let topicName ← deserializeString dev
  let typeReference ← deserializeOptional dev (deserializeString dev)
  let typeName ← deserializeOptional dev (deserializeString dev)
  return do
    let topicName ← topicName
    let typeReference ← typeReference
    let typeName ← typeName
    some { topicName, typeReference, typeName }

/-- `uxr_deserialize_OBJK_Publisher_Binary_Qos` (xrce_types.c:1009–1027) and
`uxr_deserialize_OBJK_Subscriber_Binary_Qos` (xrce_types.c:1089–1107). -/
def deserializeGroupBinaryQos : StateM (σ × UcdrBuffer) (Option GroupBinaryQos) := do
  let partitions ← deserializeOptional dev (deserializeStringSequence dev)
  let groupData ← deserializeOptional dev (deserializeBinarySequence dev)
  return do
    let partitions ← partitions
    let groupData ← groupData
    some { partitions, groupData }

/-- A publisher or a subscriber. -/
def deserializeGroupBinary : StateM (σ × UcdrBuffer) (Option GroupBinary) := do
  let name ← deserializeOptional dev (deserializeString dev)
  let qos ← deserializeOptional dev (deserializeGroupBinaryQos dev)
  return do
    let name ← name
    let qos ← qos
    some { name, qos }

/-- `uxr_deserialize_OBJK_Publisher_Binary` (xrce_types.c:1049–1067). -/
def deserializePublisherBinary := deserializeGroupBinary dev

/-- `uxr_deserialize_OBJK_Subscriber_Binary` (xrce_types.c:1129–1147). -/
def deserializeSubscriberBinary := deserializeGroupBinary dev

/-- `uxr_deserialize_OBJK_Endpoint_QosBinary` (xrce_types.c:1182–1213). -/
def deserializeEndpointQosBinary : StateM (σ × UcdrBuffer) (Option EndpointQosBinary) := do
  let qosFlags ← deserializeUint16 dev
  let historyDepth ← deserializeOptional dev (deserializeUint16 dev)
  let deadlineMsec ← deserializeOptional dev (deserializeUint32 dev)
  let lifespanMsec ← deserializeOptional dev (deserializeUint32 dev)
  let userData ← deserializeOptional dev (deserializeBinarySequence dev)
  return do
    let qosFlags ← qosFlags
    let historyDepth ← historyDepth
    let deadlineMsec ← deadlineMsec
    let lifespanMsec ← lifespanMsec
    let userData ← userData
    some { qosFlags, historyDepth, deadlineMsec, lifespanMsec, userData }

/-- `uxr_deserialize_OBJK_DataWriter_Binary_Qos` (xrce_types.c:1230–1243). -/
def deserializeDataWriterBinaryQos : StateM (σ × UcdrBuffer) (Option DataWriterBinaryQos) := do
  let base ← deserializeEndpointQosBinary dev
  let ownershipStrength ← deserializeOptional dev (deserializeUint64 dev)
  return do
    let base ← base
    let ownershipStrength ← ownershipStrength
    some { base, ownershipStrength }

/-- `uxr_deserialize_OBJK_DataReader_Binary_Qos` (xrce_types.c:1266–1285). -/
def deserializeDataReaderBinaryQos : StateM (σ × UcdrBuffer) (Option DataReaderBinaryQos) := do
  let base ← deserializeEndpointQosBinary dev
  let timebasedfilterMsec ← deserializeOptional dev (deserializeUint64 dev)
  let contentbasedFilter ← deserializeOptional dev (deserializeString dev)
  return do
    let base ← base
    let timebasedfilterMsec ← timebasedfilterMsec
    let contentbasedFilter ← contentbasedFilter
    some { base, timebasedfilterMsec, contentbasedFilter }

/-- `uxr_deserialize_OBJK_DataReader_Binary` (xrce_types.c:1302–1315). -/
def deserializeDataReaderBinary : StateM (σ × UcdrBuffer) (Option DataReaderBinary) := do
  let topicId ← readArray dev 2
  let qos ← deserializeOptional dev (deserializeDataReaderBinaryQos dev)
  return do
    let topicId ← topicId
    let qos ← qos
    some { topicId, qos }

/-- `uxr_deserialize_OBJK_DataWriter_Binary` (xrce_types.c:1332–1345). -/
def deserializeDataWriterBinary : StateM (σ × UcdrBuffer) (Option DataWriterBinary) := do
  let topicId ← readArray dev 2
  let qos ← deserializeOptional dev (deserializeDataWriterBinaryQos dev)
  return do
    let topicId ← topicId
    let qos ← qos
    some { topicId, qos }

/-- A requester or a replier. -/
def deserializeRequestReplyBinary : StateM (σ × UcdrBuffer) (Option RequestReplyBinary) := do
  let serviceName ← deserializeString dev
  let requestType ← deserializeString dev
  let replyType ← deserializeString dev
  let requestTopicName ← deserializeOptional dev (deserializeString dev)
  let replyTopicName ← deserializeOptional dev (deserializeString dev)
  return do
    let serviceName ← serviceName
    let requestType ← requestType
    let replyType ← replyType
    let requestTopicName ← requestTopicName
    let replyTopicName ← replyTopicName
    some { serviceName, requestType, replyType, requestTopicName, replyTopicName }

/-- `uxr_deserialize_OBJK_Requester_Binary` (xrce_types.c:1369–1389). -/
def deserializeRequesterBinary := deserializeRequestReplyBinary dev

/-- `uxr_deserialize_OBJK_Replier_Binary` (xrce_types.c:1413–1433). -/
def deserializeReplierBinary := deserializeRequestReplyBinary dev

end XrceTypes

end XrceClient
