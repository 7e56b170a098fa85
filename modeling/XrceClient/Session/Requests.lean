import XrceClient.Session.BinaryObjects
import XrceClient.Session.PackedMessages

/-!
# Requests (`create_entities_xml.c`, `create_entities_ref.c`, `create_entities_bin.c`,
`common_create_entities.c`, `write_access.c`, `read_access.c`)

The calls that put a request into an output stream, with all of its payload.

- `bufferPayload`: what these calls have in common.
- `bufferCreate…Xml`, `…Ref`, `…Bin`: the creation of an entity from a string in XML, from a
  reference, and from the arguments of the call.
- `bufferDeleteEntity`, `bufferTopic`, `bufferRequest`, `bufferReply`, `bufferRequestData`,
  `bufferCancelData`: the other requests.

What is serialized into memory of the stack leaves the padding there as it was, and so that memory
is an argument. The locks of the streams are in `Locks`, and what is added to the shared memory is
in `SharedMemory`.
-/

namespace XrceClient

open ByteMemory XrceTypes

/-! ## The payload of READ_DATA -/

/-- `DataDeliveryControl` (xrce_types.h), and `uxrDeliveryControl` (read_access.h). -/
structure DataDeliveryControl where
  maxSamples : UInt16
  maxElapsedTime : UInt16
  maxBytesPerSeconds : UInt16
  minPacePeriod : UInt16
  deriving DecidableEq

/-- `ReadSpecification` (xrce_types.h). -/
structure ReadSpecification where
  preferredStreamId : UInt8
  dataFormat : UInt8
  contentFilterExpression : Option (List UInt8)
  deliveryControl : Option DataDeliveryControl
  deriving DecidableEq

/-- `READ_DATA_Payload` (xrce_types.h). -/
structure ReadDataPayload where
  base : BaseObjectRequest
  readSpecification : ReadSpecification
  deriving DecidableEq

section

variable [MicroCdr] {σ : Type} (dev : Device σ)

/-- `uxr_serialize_DataDeliveryControl` (xrce_types.c:1795–1805). -/
def serializeDataDeliveryControl (s : σ) (ub : UcdrBuffer) (input : DataDeliveryControl) :
    Bool × σ × UcdrBuffer :=
  let (ok₁, s, ub) := serializeUint16 dev s ub input.maxSamples
  let (ok₂, s, ub) := serializeUint16 dev s ub input.maxElapsedTime
  let (ok₃, s, ub) := serializeUint16 dev s ub input.maxBytesPerSeconds
  let (ok₄, s, ub) := serializeUint16 dev s ub input.minPacePeriod
  (ok₁ && ok₂ && ok₃ && ok₄, s, ub)

/-- `uxr_deserialize_DataDeliveryControl` (xrce_types.c:1807–1817). -/
def deserializeDataDeliveryControl : StateM (σ × UcdrBuffer) (Option DataDeliveryControl) := do
  let maxSamples ← deserializeUint16 dev
  let maxElapsedTime ← deserializeUint16 dev
  let maxBytesPerSeconds ← deserializeUint16 dev
  let minPacePeriod ← deserializeUint16 dev
  return do
    let maxSamples ← maxSamples
    let maxElapsedTime ← maxElapsedTime
    let maxBytesPerSeconds ← maxBytesPerSeconds
    let minPacePeriod ← minPacePeriod
    some { maxSamples, maxElapsedTime, maxBytesPerSeconds, minPacePeriod }

/-- `uxr_serialize_ReadSpecification` (xrce_types.c:1819–1839). -/
def serializeReadSpecification (s : σ) (ub : UcdrBuffer) (input : ReadSpecification) :
    Bool × σ × UcdrBuffer :=
  let (ok₁, s, ub) := ucdrSerialize dev s ub ub.endianness 1 input.preferredStreamId.toNat
  let (ok₂, s, ub) := ucdrSerialize dev s ub ub.endianness 1 input.dataFormat.toNat
  let (ok₃, s, ub) :=
    serializeOptional dev (ucdrSerializeString dev) s ub input.contentFilterExpression
  let (ok₄, s, ub) := serializeOptional dev (serializeDataDeliveryControl dev) s ub
    input.deliveryControl
  (ok₁ && ok₂ && ok₃ && ok₄, s, ub)

/-- `uxr_deserialize_ReadSpecification` (xrce_types.c:1841–1861). -/
def deserializeReadSpecification : StateM (σ × UcdrBuffer) (Option ReadSpecification) := do
  let preferredStreamId ← readScalar dev 1
  let dataFormat ← readScalar dev 1
  let contentFilterExpression ← deserializeOptional dev (deserializeString dev)
  let deliveryControl ← deserializeOptional dev (deserializeDataDeliveryControl dev)
  return do
    let preferredStreamId ← preferredStreamId
    let dataFormat ← dataFormat
    let contentFilterExpression ← contentFilterExpression
    let deliveryControl ← deliveryControl
    some {
      preferredStreamId := UInt8.ofNat preferredStreamId
      dataFormat := UInt8.ofNat dataFormat
      contentFilterExpression, deliveryControl }

/-- `uxr_serialize_READ_DATA_Payload` (xrce_types.c:2377–2385). -/
def serializeReadDataPayload (s : σ) (ub : UcdrBuffer) (input : ReadDataPayload) :
    Bool × σ × UcdrBuffer :=
  let (ok₁, s, ub) := serializeBaseObjectRequest dev s ub input.base
  let (ok₂, s, ub) := serializeReadSpecification dev s ub input.readSpecification
  (ok₁ && ok₂, s, ub)

/-- `uxr_deserialize_READ_DATA_Payload` (xrce_types.c:2387–2395). -/
def deserializeReadDataPayload : StateM (σ × UcdrBuffer) (Option ReadDataPayload) := do
  let base ← XrceTypes.deserializeBaseObjectRequest dev
  let readSpecification ← deserializeReadSpecification dev
  return do
    let base ← base
    let readSpecification ← readSpecification
    some { base, readSpecification }

/-- `uxr_serialize_SampleIdentity` (xrce_types.c:2755–2763), with the parts that it writes. -/
def serializeSampleIdentity (s : σ) (ub : UcdrBuffer) (input : SampleIdentity) :
    Bool × σ × UcdrBuffer :=
  let (ok₁, s, ub) := ucdrSerializeArray dev s ub input.guidPrefix
  let (ok₂, s, ub) := ucdrSerializeArray dev s ub input.entityKey
  let (ok₃, s, ub) := ucdrSerialize dev s ub ub.endianness 1 input.entityKind
  let (ok₄, s, ub) := ucdrSerialize dev s ub ub.endianness 4 input.high
  let (ok₅, s, ub) := ucdrSerialize dev s ub ub.endianness 4 input.low
  (ok₁ && ok₂ && ok₃ && ok₄ && ok₅, s, ub)

/-- What `uxr_buffer_topic` and `uxr_buffer_request` write: the request and the data. -/
def serializeWriteData (s : σ) (ub : UcdrBuffer) (base : BaseObjectRequest) (buffer : List UInt8) :
    Bool × σ × UcdrBuffer :=
  let (ok₁, s, ub) := serializeBaseObjectRequest dev s ub base
  let (ok₂, s, ub) := ucdrSerializeArray dev s ub buffer
  (ok₁ && ok₂, s, ub)

/-- What `uxr_buffer_reply` writes: the request, the identity of the one that is replied to, and the
data. -/
def serializeReply (s : σ) (ub : UcdrBuffer) (base : BaseObjectRequest) (sampleId : SampleIdentity)
    (buffer : List UInt8) : Bool × σ × UcdrBuffer :=
  let (ok₁, s, ub) := serializeBaseObjectRequest dev s ub base
  let (ok₂, s, ub) := serializeSampleIdentity dev s ub sampleId
  let (ok₃, s, ub) := ucdrSerializeArray dev s ub buffer
  (ok₁ && ok₂ && ok₃, s, ub)

end

/-! ## Buffering a request -/

section

variable [MicroCdr] (session : Session) (streamId : StreamId)

/-- What the calls that buffer a request do where a stream has room for it: the request gets its
identifiers, and its payload is written. What the serializers return is ignored. -/
def bufferPayload (payloadSize : Nat) (submessageId mode : UInt8) (objectId : ObjectId)
    (serialize : BaseObjectRequest → StreamStorage → UcdrBuffer →
      Bool × StreamStorage × UcdrBuffer) : UInt16 × Session :=
  match bufferSubmessage session.streams streamId payloadSize submessageId mode with
  | some (streams, ub) =>
    let (requestId, base, info) := initBaseObjectRequest session.info objectId
    let (_, streams, _) := serialize base streams ub
    (requestId, { session with info, streams })
  | none => (invalidRequestId, session)

/-! ## Creation -/

/-- An entity that is created, with what it belongs to. -/
inductive Entity where
  | participant (domainId : Int16)
  | topic (participantId : ObjectId)
  | publisher (participantId : ObjectId)
  | subscriber (participantId : ObjectId)
  | dataWriter (publisherId : ObjectId)
  | dataReader (subscriberId : ObjectId)
  | requester (participantId : ObjectId)
  | replier (participantId : ObjectId)
  deriving DecidableEq

/-- What is sent of an entity, with its representation. -/
def Entity.variant (base : RepresentationFormats) : Entity → ObjectVariant
  | participant domainId => .participant base domainId
  | topic participantId => .topic base (objectIdToRaw participantId)
  | publisher participantId => .publisher base (objectIdToRaw participantId)
  | subscriber participantId => .subscriber base (objectIdToRaw participantId)
  | dataWriter publisherId => .dataWriter base (objectIdToRaw publisherId)
  | dataReader subscriberId => .dataReader base (objectIdToRaw subscriberId)
  | requester participantId => .requester base (objectIdToRaw participantId)
  | replier participantId => .replier base (objectIdToRaw participantId)

/-- `uxr_common_create_entity` (common_create_entities.c:40–76), with the payload that it writes. -/
def bufferCreate (objectId : ObjectId) (xmlRefBinSize : UInt16) (mode : UInt8)
    (objectRepresentation : ObjectVariant) : UInt16 × Session :=
  bufferPayload session streamId (createPayloadLength objectId xmlRefBinSize).toNat
    SubmessageId.create.value mode objectId fun base streams ub =>
      serializeCreatePayload (streamDevice streamId) streams ub { base, objectRepresentation }

/-! ### From a string in XML -/

/-- `create_entity_xml` (create_entities_xml.c:164–177). -/
def createEntityXml (objectId : ObjectId) (xml : List UInt8) (mode : UInt8) (entity : Entity) :
    UInt16 × Session :=
  bufferCreate session streamId objectId (UInt16.ofNat (xml.length + 1)) mode
    (entity.variant (.asXmlString xml))

/-- `uxr_buffer_create_participant_xml` (create_entities_xml.c:20–35). -/
def bufferCreateParticipantXml (objectId : ObjectId) (domainId : UInt16) (xml : List UInt8)
    (mode : UInt8) : UInt16 × Session :=
  createEntityXml session streamId objectId xml mode (.participant domainId.toInt16)

/-- `uxr_buffer_create_topic_xml` (create_entities_xml.c:37–52). -/
def bufferCreateTopicXml (objectId participantId : ObjectId) (xml : List UInt8) (mode : UInt8) :
    UInt16 × Session :=
  createEntityXml session streamId objectId xml mode (.topic participantId)

/-- `uxr_buffer_create_publisher_xml` (create_entities_xml.c:54–69). -/
def bufferCreatePublisherXml (objectId participantId : ObjectId) (xml : List UInt8)
    (mode : UInt8) : UInt16 × Session :=
  createEntityXml session streamId objectId xml mode (.publisher participantId)

/-- `uxr_buffer_create_subscriber_xml` (create_entities_xml.c:71–86). -/
def bufferCreateSubscriberXml (objectId participantId : ObjectId) (xml : List UInt8)
    (mode : UInt8) : UInt16 × Session :=
  createEntityXml session streamId objectId xml mode (.subscriber participantId)

/-- `uxr_buffer_create_datawriter_xml` (create_entities_xml.c:88–105). -/
def bufferCreateDatawriterXml (objectId publisherId : ObjectId) (xml : List UInt8)
    (mode : UInt8) : UInt16 × Session :=
  createEntityXml session streamId objectId xml mode (.dataWriter publisherId)

/-- `uxr_buffer_create_datareader_xml` (create_entities_xml.c:107–124). -/
def bufferCreateDatareaderXml (objectId subscriberId : ObjectId) (xml : List UInt8)
    (mode : UInt8) : UInt16 × Session :=
  createEntityXml session streamId objectId xml mode (.dataReader subscriberId)

/-- `uxr_buffer_create_requester_xml` (create_entities_xml.c:126–141). -/
def bufferCreateRequesterXml (objectId participantId : ObjectId) (xml : List UInt8)
    (mode : UInt8) : UInt16 × Session :=
  createEntityXml session streamId objectId xml mode (.requester participantId)

/-- `uxr_buffer_create_replier_xml` (create_entities_xml.c:143–158). -/
def bufferCreateReplierXml (objectId participantId : ObjectId) (xml : List UInt8) (mode : UInt8) :
    UInt16 × Session :=
  createEntityXml session streamId objectId xml mode (.replier participantId)

/-! ### From a reference -/

/-- `create_entity_ref` (create_entities_ref.c:115–128). -/
def createEntityRef (objectId : ObjectId) (ref : List UInt8) (mode : UInt8) (entity : Entity) :
    UInt16 × Session :=
  bufferCreate session streamId objectId (UInt16.ofNat (ref.length + 1)) mode
    (entity.variant (.byReference ref))

/-- `uxr_buffer_create_participant_ref` (create_entities_ref.c:19–34). -/
def bufferCreateParticipantRef (objectId : ObjectId) (domainId : UInt16) (ref : List UInt8)
    (mode : UInt8) : UInt16 × Session :=
  createEntityRef session streamId objectId ref mode (.participant domainId.toInt16)

/-- `uxr_buffer_create_topic_ref` (create_entities_ref.c:36–49). -/
def bufferCreateTopicRef (objectId participantId : ObjectId) (ref : List UInt8) (mode : UInt8) :
    UInt16 × Session :=
  createEntityRef session streamId objectId ref mode (.topic participantId)

/-- `uxr_buffer_create_datawriter_ref` (create_entities_ref.c:51–64). -/
def bufferCreateDatawriterRef (objectId publisherId : ObjectId) (ref : List UInt8) (mode : UInt8) :
    UInt16 × Session :=
  createEntityRef session streamId objectId ref mode (.dataWriter publisherId)

/-- `uxr_buffer_create_datareader_ref` (create_entities_ref.c:66–79). -/
def bufferCreateDatareaderRef (objectId subscriberId : ObjectId) (ref : List UInt8)
    (mode : UInt8) : UInt16 × Session :=
  createEntityRef session streamId objectId ref mode (.dataReader subscriberId)

/-- `uxr_buffer_create_requester_ref` (create_entities_ref.c:81–94). -/
def bufferCreateRequesterRef (objectId participantId : ObjectId) (ref : List UInt8)
    (mode : UInt8) : UInt16 × Session :=
  createEntityRef session streamId objectId ref mode (.requester participantId)

/-- `uxr_buffer_create_replier_ref` (create_entities_ref.c:96–109). -/
def bufferCreateReplierRef (objectId participantId : ObjectId) (ref : List UInt8) (mode : UInt8) :
    UInt16 × Session :=
  createEntityRef session streamId objectId ref mode (.replier participantId)

end

/-! ### From the arguments -/

/-- `uxrQoSDurability` (create_entities_bin.h). -/
inductive QosDurability where
  | transientLocal
  | transient
  | volatile
  | persistent
  deriving DecidableEq

/-- `uxrQoSReliability` (create_entities_bin.h). -/
inductive QosReliability where
  | reliable
  | bestEffort
  deriving DecidableEq

/-- `uxrQoSHistory` (create_entities_bin.h). -/
inductive QosHistory where
  | keepLast
  | keepAll
  deriving DecidableEq

/-- `uxrQoS_t` (create_entities_bin.h). -/
structure Qos where
  durability : QosDurability
  reliability : QosReliability
  history : QosHistory
  depth : UInt16
  deriving DecidableEq

/-- The flags of a `switch` over the durability: those of `EndpointQosFlags` (xrce_types.h). -/
def QosDurability.flags : QosDurability → UInt16
  | volatile => 0
  | transientLocal => 0x08
  | transient => 0x10
  | persistent => 0x20

/-- What `uxr_buffer_create_datawriter_bin` (create_entities_bin.c:145–176) and
`uxr_buffer_create_datareader_bin` (create_entities_bin.c:210–241) make of the arguments. -/
def Qos.binary (qos : Qos) : EndpointQosBinary where
  qosFlags := (if qos.reliability = .reliable then 0x01 else 0) |||
    (if qos.history = .keepLast then 0x02 else 0) ||| qos.durability.flags
  historyDepth := if qos.depth = 0 then none else some qos.depth
  deadlineMsec := none
  lifespanMsec := none
  userData := none

section

variable [MicroCdr] (stack : Memory) (session : Session) (streamId : StreamId)

/-- The bytes of a representation in binary: an object is serialized into the memory of its
payload, and its size is how far that went. -/
def binaryRepresentation (serialize : Memory → UcdrBuffer → Bool × Memory × UcdrBuffer) :
    List UInt8 :=
  let (_, stack, ub) := serialize stack (ucdrInitBuffer 0 binarySequenceMax)
  read stack 0 ub.offset

/-- What the functions for a representation in binary end in. -/
def createEntityBin (objectId : ObjectId) (bytes : List UInt8) (mode : UInt8) (entity : Entity) :
    UInt16 × Session :=
  bufferCreate session streamId objectId (UInt16.ofNat bytes.length) mode
    (entity.variant (.inBinary bytes))

/-- The object of `uxr_buffer_create_participant_bin`; the name may be missing. -/
def participantObject (participantName : Option (List UInt8)) : DomainParticipantBinary where
  domainReference := none
  qosProfileReference := participantName

/-- `uxr_buffer_create_participant_bin` (create_entities_bin.c:13–43). -/
def bufferCreateParticipantBin (objectId : ObjectId) (domainId : UInt16)
    (participantName : Option (List UInt8)) (mode : UInt8) : UInt16 × Session :=
  createEntityBin session streamId objectId
    (binaryRepresentation stack fun m ub =>
      serializeDomainParticipantBinary Device.plain m ub (participantObject participantName))
    mode (.participant domainId.toInt16)

/-- The object of `uxr_buffer_create_topic_bin`. -/
def topicObject (topicName typeName : List UInt8) : TopicBinary where
  topicName
  typeReference := none
  typeName := some typeName

/-- `uxr_buffer_create_topic_bin` (create_entities_bin.c:45–74). -/
def bufferCreateTopicBin (objectId participantId : ObjectId) (topicName typeName : List UInt8)
    (mode : UInt8) : UInt16 × Session :=
  createEntityBin session streamId objectId
    (binaryRepresentation stack fun m ub =>
      serializeTopicBinary Device.plain m ub (topicObject topicName typeName))
    mode (.topic participantId)

/-- The object of `uxr_buffer_create_publisher_bin` and `uxr_buffer_create_subscriber_bin`. -/
def groupObject : GroupBinary where
  name := none
  qos := none

/-- `uxr_buffer_create_publisher_bin` (create_entities_bin.c:76–99). -/
def bufferCreatePublisherBin (objectId participantId : ObjectId) (mode : UInt8) :
    UInt16 × Session :=
  createEntityBin session streamId objectId
    (binaryRepresentation stack fun m ub => serializePublisherBinary Device.plain m ub groupObject)
    mode (.publisher participantId)

/-- `uxr_buffer_create_subscriber_bin` (create_entities_bin.c:101–124). -/
def bufferCreateSubscriberBin (objectId participantId : ObjectId) (mode : UInt8) :
    UInt16 × Session :=
  createEntityBin session streamId objectId
    (binaryRepresentation stack fun m ub => serializeSubscriberBinary Device.plain m ub groupObject)
    mode (.subscriber participantId)

/-- The object of `uxr_buffer_create_datawriter_bin`. -/
def datawriterObject (topicId : ObjectId) (qos : Qos) : DataWriterBinary where
  topicId := objectIdToRaw topicId
  qos := some { base := qos.binary, ownershipStrength := none }

/-- `uxr_buffer_create_datawriter_bin` (create_entities_bin.c:126–188). -/
def bufferCreateDatawriterBin (objectId publisherId topicId : ObjectId) (qos : Qos) (mode : UInt8) :
    UInt16 × Session :=
  createEntityBin session streamId objectId
    (binaryRepresentation stack fun m ub =>
      serializeDataWriterBinary Device.plain m ub (datawriterObject topicId qos))
    mode (.dataWriter publisherId)

/-- The object of `uxr_buffer_create_datareader_bin`. -/
def datareaderObject (topicId : ObjectId) (qos : Qos) : DataReaderBinary where
  topicId := objectIdToRaw topicId
  qos := some { base := qos.binary, timebasedfilterMsec := none, contentbasedFilter := none }

/-- `uxr_buffer_create_datareader_bin` (create_entities_bin.c:190–253). -/
def bufferCreateDatareaderBin (objectId subscriberId topicId : ObjectId) (qos : Qos)
    (mode : UInt8) : UInt16 × Session :=
  createEntityBin session streamId objectId
    (binaryRepresentation stack fun m ub =>
      serializeDataReaderBinary Device.plain m ub (datareaderObject topicId qos))
    mode (.dataReader subscriberId)

/-- The object of `uxr_buffer_create_requester_bin` and `uxr_buffer_create_replier_bin`, which make
nothing of the argument for the quality of service. -/
def serviceObject (serviceName requestType replyType requestTopicName replyTopicName : List UInt8) :
    RequestReplyBinary where
  serviceName
  requestType
  replyType
  requestTopicName := some requestTopicName
  replyTopicName := some replyTopicName

/-- `uxr_buffer_create_requester_bin` (create_entities_bin.c:255–293). -/
def bufferCreateRequesterBin (objectId participantId : ObjectId)
    (serviceName requestType replyType requestTopicName replyTopicName : List UInt8)
    (mode : UInt8) : UInt16 × Session :=
  createEntityBin session streamId objectId
    (binaryRepresentation stack fun m ub =>
      serializeRequesterBinary Device.plain m ub
        (serviceObject serviceName requestType replyType requestTopicName replyTopicName))
    mode (.requester participantId)

/-- `uxr_buffer_create_replier_bin` (create_entities_bin.c:295–333). -/
def bufferCreateReplierBin (objectId participantId : ObjectId)
    (serviceName requestType replyType requestTopicName replyTopicName : List UInt8)
    (mode : UInt8) : UInt16 × Session :=
  createEntityBin session streamId objectId
    (binaryRepresentation stack fun m ub =>
      serializeReplierBinary Device.plain m ub
        (serviceObject serviceName requestType replyType requestTopicName replyTopicName))
    mode (.replier participantId)

end

/-! ## The other requests -/

section

variable [MicroCdr] (session : Session) (streamId : StreamId)

/-- `uxr_buffer_delete_entity` (common_create_entities.c:12–38). -/
def bufferDeleteEntity (objectId : ObjectId) : UInt16 × Session :=
  bufferPayload session streamId 4 SubmessageId.delete.value 0 objectId fun base streams ub =>
    serializeDeletePayload (streamDevice streamId) streams ub base

/-- What `uxr_buffer_topic` and `uxr_buffer_request` have in common. -/
def bufferDataRequest (objectId : ObjectId) (buffer : List UInt8) : UInt16 × Session :=
  bufferPayload session streamId (writeDataPayloadSize + buffer.length)
    SubmessageId.writeData.value formatData objectId fun base streams ub =>
      serializeWriteData (streamDevice streamId) streams ub base buffer

/-- `uxr_buffer_topic` (write_access.c:81–108). -/
def bufferTopic (datawriterId : ObjectId) (buffer : List UInt8) : UInt16 × Session :=
  bufferDataRequest session streamId datawriterId buffer

/-- `uxr_buffer_request` (write_access.c:21–48). -/
def bufferRequest (requesterId : ObjectId) (buffer : List UInt8) : UInt16 × Session :=
  bufferDataRequest session streamId requesterId buffer

/-- `uxr_buffer_reply` (write_access.c:50–79); the identity takes `SAMPLE_IDENTITY_SIZE`. -/
def bufferReply (replierId : ObjectId) (sampleId : SampleIdentity) (buffer : List UInt8) :
    UInt16 × Session :=
  bufferPayload session streamId (writeDataPayloadSize + 24 + buffer.length)
    SubmessageId.writeData.value formatData replierId fun base streams ub =>
      serializeReply (streamDevice streamId) streams ub base sampleId buffer

/-- What `uxr_buffer_request_data` asks for: plain data, without a filter (read_access.c:70–82). -/
def requestedData (dataStreamId : StreamId) (control : Option DataDeliveryControl) :
    ReadSpecification where
  preferredStreamId := dataStreamId.raw
  dataFormat := formatData
  contentFilterExpression := none
  deliveryControl := control

/-- `uxr_buffer_request_data` (read_access.c:61–103). -/
def bufferRequestData (datareaderId : ObjectId) (dataStreamId : StreamId)
    (control : Option DataDeliveryControl) : UInt16 × Session :=
  bufferPayload session streamId (4 + 4 + if control.isSome then 8 else 0)
    SubmessageId.readData.value 0 datareaderId fun base streams ub =>
      serializeReadDataPayload (streamDevice streamId) streams ub
        { base, readSpecification := requestedData dataStreamId control }

/-- `uxr_buffer_cancel_data` (read_access.c:105–117): a stream and a control that are all zero. -/
def bufferCancelData (datareaderId : ObjectId) : UInt16 × Session :=
  bufferRequestData session streamId datareaderId (streamIdFromRaw 0 .inputStream)
    (some
      { maxSamples := 0
        maxElapsedTime := 0
        maxBytesPerSeconds := 0
        minPacePeriod := 0 })

end

end XrceClient
