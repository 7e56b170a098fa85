import XrceClient.Session.FieldLayout
import XrceClient.Session.ControlWriting

/-!
# Objects and what is known of them (`xrce_types.c`)

The payloads with which objects are created and described, with their serializers and
deserializers as the source has them, in pairs.

- `RepresentationFormats`: a string, an XML string or bytes, with the format as a tag.
- `ObjectVariant`: the representation of an object, with its kind as a tag.
- `ActivityInfoVariant`, `ObjectInfo`: what an agent reports of an object.
- `CreatePayload`, `StatusAgentPayload`, `InfoPayload`; `ClientRepresentation` is all of the
  payload of CREATE_CLIENT.

Optional content is an `Option`. Only for the properties the flag and the content are two
fields, as in the source: the deserializer of an agent reads the flag and not the content. A
deserializer gives `none` where its result is `false`. Where a flag or a size cannot be read,
the source goes on with the one of its output, in a buffer that is in error and from which
nothing more is read; here it is zero. The strings of a property are behind pointers of the
output, which are not modelled.
-/

namespace XrceClient

/-! ## Bounds (`xrce_types.h`) -/

/-- `UXR_STRING_SIZE_MAX`. -/
def stringSizeMax : Nat := 512

/-- `UXR_BINARY_SEQUENCE_MAX`. -/
def binarySequenceMax : Nat := 512

/-- `UXR_TRANSPORT_LOCATOR_SEQUENCE_MAX`. -/
def transportLocatorSequenceMax : Nat := 4

/-- `UXR_PROPERTY_SEQUENCE_MAX`: one for each of the profiles that have a property, and one at
least. -/
def BuildProfile.propertySequenceMax (profile : BuildProfile) : Nat :=
  max 1 (profile.sharedMemory.toNat + profile.hardLivelinessCheck.isSome.toNat)

/-! ## Types (`xrce_types.h`) -/

/-- `AGENT_Representation`. -/
structure AgentRepresentation where
  xrceCookie : List UInt8
  xrceVersion : List UInt8
  xrceVendorId : List UInt8
  optionalProperties : Bool
  properties : List Property
  deriving DecidableEq

/-- Which formats have content, besides the string in XML. -/
structure FormatFamily where
  byReference : Bool
  inBinary : Bool

/-- `OBJK_Representation3Formats`. -/
def representation3Formats : FormatFamily := ⟨true, true⟩

/-- `OBJK_RepresentationRefAndXMLFormats`. -/
def representationRefAndXmlFormats : FormatFamily := ⟨true, false⟩

/-- `OBJK_RepresentationBinAndXMLFormats`. -/
def representationBinAndXmlFormats : FormatFamily := ⟨false, true⟩

/-- A representation in one of the three families of formats: the content in one of the formats,
or a format that has none. -/
inductive RepresentationFormats where
  | byReference (reference : List UInt8)
  | asXmlString (xml : List UInt8)
  | inBinary (bytes : List UInt8)
  | other (format : UInt8)
  deriving DecidableEq

/-- `format`: the values of `DDS_XRCE_REPRESENTATION_BY_REFERENCE`, `_AS_XML_STRING` and
`_IN_BINARY`, or any other. -/
def RepresentationFormats.format : RepresentationFormats → UInt8
  | byReference _ => 0x01
  | asXmlString _ => 0x02
  | inBinary _ => 0x03
  | other n => n

/-- `ObjectVariant`: the representation of each kind of object, or a kind that has none. -/
inductive ObjectVariant where
  | agent (representation : AgentRepresentation)
  | client (representation : ClientRepresentation)
  | application (base : RepresentationFormats)
  | participant (base : RepresentationFormats) (domainId : Int16)
  | qosProfile (base : RepresentationFormats)
  | type (base : RepresentationFormats)
  | topic (base : RepresentationFormats) (participantId : List UInt8)
  | publisher (base : RepresentationFormats) (participantId : List UInt8)
  | subscriber (base : RepresentationFormats) (participantId : List UInt8)
  | dataWriter (base : RepresentationFormats) (publisherId : List UInt8)
  | dataReader (base : RepresentationFormats) (subscriberId : List UInt8)
  | requester (base : RepresentationFormats) (participantId : List UInt8)
  | replier (base : RepresentationFormats) (participantId : List UInt8)
  | other (kind : UInt8)
  deriving DecidableEq

/-- `kind`: the values of `DDS_XRCE_OBJK_AGENT` and the others, or any other. -/
def ObjectVariant.kind : ObjectVariant → UInt8
  | agent _ => 0x0D
  | client _ => 0x0E
  | application _ => 0x0C
  | participant .. => 0x01
  | qosProfile _ => 0x0B
  | type _ => 0x0A
  | topic .. => 0x02
  | publisher .. => 0x03
  | subscriber .. => 0x04
  | dataWriter .. => 0x05
  | dataReader .. => 0x06
  | requester .. => 0x07
  | replier .. => 0x08
  | other n => n

/-- `TransportLocator`: a locator in one of the formats, or a format that has none. -/
inductive TransportLocator where
  | small (address : List UInt8) (locatorPort : UInt8)
  | medium (address : List UInt8) (locatorPort : UInt16)
  | large (address : List UInt8) (locatorPort : UInt32)
  | string (value : List UInt8)
  | other (format : UInt8)
  deriving DecidableEq

/-- `format`: the values of `TransportLocatorFormat`, or any other. -/
def TransportLocator.format : TransportLocator → UInt8
  | small .. => 0
  | medium .. => 1
  | large .. => 2
  | string _ => 3
  | other n => n

/-- `ActivityInfoVariant`: the activity of an object of one of the kinds, or a kind that has
none. -/
inductive ActivityInfoVariant where
  | agent (availability : Int16) (addressSeq : List TransportLocator)
  | dataWriter (streamSeqNum : Int16) (sampleSeqNum : UInt64)
  | dataReader (highestAckedNum : Int16)
  | other (kind : UInt8)
  deriving DecidableEq

def ActivityInfoVariant.kind : ActivityInfoVariant → UInt8
  | agent .. => 0x0D
  | dataWriter .. => 0x05
  | dataReader _ => 0x06
  | other n => n

/-- `ObjectInfo`. -/
structure ObjectInfo where
  config : Option ObjectVariant
  activity : Option ActivityInfoVariant
  deriving DecidableEq

/-- `CREATE_Payload`. -/
structure CreatePayload where
  base : BaseObjectRequest
  objectRepresentation : ObjectVariant
  deriving DecidableEq

/-- `STATUS_AGENT_Payload`, with the two fields of its `ResultStatus`. -/
structure StatusAgentPayload where
  status : UInt8
  implementationStatus : UInt8
  agentInfo : AgentRepresentation
  deriving DecidableEq

/-- `INFO_Payload`. -/
structure InfoPayload where
  base : BaseObjectReply
  objectInfo : ObjectInfo
  deriving DecidableEq

namespace XrceTypes

variable [MicroCdr] {σ : Type} (dev : Device σ)

/-! ## Serializers -/

/-- `uxr_serialize_AGENT_Representation` (xrce_types.c:442–457). -/
def serializeAgentRepresentation (s : σ) (ub : UcdrBuffer) (input : AgentRepresentation) :
    Bool × σ × UcdrBuffer :=
  let (ok₁, s, ub) := ucdrSerializeArray dev s ub input.xrceCookie
  let (ok₂, s, ub) := ucdrSerializeArray dev s ub input.xrceVersion
  let (ok₃, s, ub) := ucdrSerializeArray dev s ub input.xrceVendorId
  let (ok₄, s, ub) := ucdrSerialize dev s ub ub.endianness 1 input.optionalProperties.toNat
  let (ok₅, s, ub) :=
    if input.optionalProperties then serializePropertySeq dev s ub input.properties
    else (true, s, ub)
  (ok₁ && ok₂ && ok₃ && ok₄ && ok₅, s, ub)

/-- `ucdr_serialize_sequence_uint8_t`, which is all of `uxr_serialize_BinarySequence_t`: the number
of the bytes, and the bytes. -/
def serializeBinarySequence (s : σ) (ub : UcdrBuffer) (input : List UInt8) :
    Bool × σ × UcdrBuffer :=
  let (ok₁, s, ub) := ucdrSerialize dev s ub ub.endianness 4 input.length
  let (ok₂, s, ub) := ucdrSerializeArray dev s ub input
  (ok₁ && ok₂, s, ub)

/-- `uxr_serialize_OBJK_Representation3Formats` (xrce_types.c:477–501) and the two others
(xrce_types.c:529–550, 575–596). The `_Base` of each (xrce_types.c:621–664) is nothing else. -/
def serializeFormats (family : FormatFamily) (s : σ) (ub : UcdrBuffer)
    (input : RepresentationFormats) : Bool × σ × UcdrBuffer :=
  match ucdrSerialize dev s ub ub.endianness 1 input.format.toNat with
  | (true, s, ub) =>
    match input with
    | .byReference reference =>
      if family.byReference then ucdrSerializeString dev s ub reference else (true, s, ub)
    | .asXmlString xml => ucdrSerializeString dev s ub xml
    | .inBinary bytes =>
      if family.inBinary then serializeBinarySequence dev s ub bytes else (true, s, ub)
    | .other _ => (true, s, ub)
  | (false, s, ub) => (false, s, ub)

/-- `uxr_serialize_OBJK_APPLICATION_Representation` (xrce_types.c:729–736). -/
def serializeApplicationRepresentation := serializeFormats dev representationRefAndXmlFormats

/-- `uxr_serialize_OBJK_QOSPROFILE_Representation` (xrce_types.c:675–682). -/
def serializeQosProfileRepresentation := serializeFormats dev representationRefAndXmlFormats

/-- `uxr_serialize_OBJK_TYPE_Representation` (xrce_types.c:693–700). -/
def serializeTypeRepresentation := serializeFormats dev representationRefAndXmlFormats

/-- `uxr_serialize_OBJK_PARTICIPANT_Representation` (xrce_types.c:827–835). -/
def serializeParticipantRepresentation (s : σ) (ub : UcdrBuffer) (base : RepresentationFormats)
    (domainId : Int16) : Bool × σ × UcdrBuffer :=
  let (ok₁, s, ub) := serializeFormats dev representation3Formats s ub base
  let (ok₂, s, ub) := ucdrSerialize dev s ub ub.endianness 2 domainId.toUInt16.toNat
  (ok₁ && ok₂, s, ub)

/-- A representation with the identifier of another object behind it. -/
def serializeWithObjectId (family : FormatFamily) (s : σ) (ub : UcdrBuffer)
    (base : RepresentationFormats) (objectId : List UInt8) : Bool × σ × UcdrBuffer :=
  let (ok₁, s, ub) := serializeFormats dev family s ub base
  let (ok₂, s, ub) := ucdrSerializeArray dev s ub objectId
  (ok₁ && ok₂, s, ub)

/-- `uxr_serialize_OBJK_TOPIC_Representation` (xrce_types.c:847–855). -/
def serializeTopicRepresentation := serializeWithObjectId dev representation3Formats

/-- `uxr_serialize_OBJK_PUBLISHER_Representation` (xrce_types.c:747–755). -/
def serializePublisherRepresentation := serializeWithObjectId dev representationBinAndXmlFormats

/-- `uxr_serialize_OBJK_SUBSCRIBER_Representation` (xrce_types.c:767–775). -/
def serializeSubscriberRepresentation := serializeWithObjectId dev representationBinAndXmlFormats

/-- `uxr_serialize_DATAWRITER_Representation` (xrce_types.c:787–795). -/
def serializeDataWriterRepresentation := serializeWithObjectId dev representation3Formats

/-- `uxr_serialize_DATAREADER_Representation` (xrce_types.c:807–815). -/
def serializeDataReaderRepresentation := serializeWithObjectId dev representation3Formats

/-- `uxr_serialize_OBJK_REQUESTER_Representation` (xrce_types.c:867–875). -/
def serializeRequesterRepresentation := serializeWithObjectId dev representation3Formats

/-- `uxr_serialize_OBJK_REPLIER_Representation` (xrce_types.c:887–895). -/
def serializeReplierRepresentation := serializeWithObjectId dev representation3Formats

/-- `uxr_serialize_ObjectVariant` (xrce_types.c:1435–1489). -/
def serializeObjectVariant (s : σ) (ub : UcdrBuffer) (input : ObjectVariant) :
    Bool × σ × UcdrBuffer :=
  match ucdrSerialize dev s ub ub.endianness 1 input.kind.toNat with
  | (true, s, ub) =>
    match input with
    | .agent representation => serializeAgentRepresentation dev s ub representation
    | .client representation => serializeCreateClientPayload dev s ub representation
    | .application base => serializeApplicationRepresentation dev s ub base
    | .participant base domainId => serializeParticipantRepresentation dev s ub base domainId
    | .qosProfile base => serializeQosProfileRepresentation dev s ub base
    | .type base => serializeTypeRepresentation dev s ub base
    | .topic base participantId => serializeTopicRepresentation dev s ub base participantId
    | .publisher base participantId => serializePublisherRepresentation dev s ub base participantId
    | .subscriber base participantId =>
      serializeSubscriberRepresentation dev s ub base participantId
    | .dataWriter base publisherId => serializeDataWriterRepresentation dev s ub base publisherId
    | .dataReader base subscriberId => serializeDataReaderRepresentation dev s ub base subscriberId
    | .requester base participantId => serializeRequesterRepresentation dev s ub base participantId
    | .replier base participantId => serializeReplierRepresentation dev s ub base participantId
    | .other _ => (true, s, ub)
  | (false, s, ub) => (false, s, ub)

/-- `uxr_serialize_TransportLocatorSmall`, `_Medium` and `_Large` (xrce_types.c:181–229): an address
and a port with the width of its format. -/
def serializeAddressAndPort (s : σ) (ub : UcdrBuffer) (address : List UInt8)
    (width locatorPort : Nat) : Bool × σ × UcdrBuffer :=
  let (ok₁, s, ub) := ucdrSerializeArray dev s ub address
  let (ok₂, s, ub) := ucdrSerialize dev s ub ub.endianness width locatorPort
  (ok₁ && ok₂, s, ub)

/-- `uxr_serialize_TransportLocator` (xrce_types.c:259–286). -/
def serializeTransportLocator (s : σ) (ub : UcdrBuffer) (input : TransportLocator) :
    Bool × σ × UcdrBuffer :=
  match ucdrSerialize dev s ub ub.endianness 1 input.format.toNat with
  | (true, s, ub) =>
    match input with
    | .small address locatorPort => serializeAddressAndPort dev s ub address 1 locatorPort.toNat
    | .medium address locatorPort => serializeAddressAndPort dev s ub address 2 locatorPort.toNat
    | .large address locatorPort => serializeAddressAndPort dev s ub address 4 locatorPort.toNat
    | .string value => ucdrSerializeString dev s ub value
    | .other _ => (true, s, ub)
  | (false, s, ub) => (false, s, ub)

/-- The loop of `uxr_serialize_TransportLocatorSeq` (xrce_types.c:322–325), up to the first
failure. -/
def serializeTransportLocators : List TransportLocator → σ → UcdrBuffer → Bool × σ × UcdrBuffer
  | [], s, ub => (true, s, ub)
  | locator :: locators, s, ub =>
    match serializeTransportLocator dev s ub locator with
    | (true, s, ub) => serializeTransportLocators locators s ub
    | (false, s, ub) => (false, s, ub)

/-- `uxr_serialize_TransportLocatorSeq` (xrce_types.c:317–327). -/
def serializeTransportLocatorSeq (s : σ) (ub : UcdrBuffer) (input : List TransportLocator) :
    Bool × σ × UcdrBuffer :=
  match ucdrSerialize dev s ub ub.endianness 4 input.length with
  | (true, s, ub) => serializeTransportLocators dev input s ub
  | (false, s, ub) => (false, s, ub)

/-- `uxr_serialize_AGENT_ActivityInfo` (xrce_types.c:1625–1633). -/
def serializeAgentActivityInfo (s : σ) (ub : UcdrBuffer) (availability : Int16)
    (addressSeq : List TransportLocator) : Bool × σ × UcdrBuffer :=
  let (ok₁, s, ub) := ucdrSerialize dev s ub ub.endianness 2 availability.toUInt16.toNat
  let (ok₂, s, ub) := serializeTransportLocatorSeq dev s ub addressSeq
  (ok₁ && ok₂, s, ub)

/-- `uxr_serialize_DATAREADER_ActivityInfo` (xrce_types.c:1645–1652). -/
def serializeDataReaderActivityInfo (s : σ) (ub : UcdrBuffer) (highestAckedNum : Int16) :
    Bool × σ × UcdrBuffer :=
  ucdrSerialize dev s ub ub.endianness 2 highestAckedNum.toUInt16.toNat

/-- `uxr_serialize_DATAWRITER_ActivityInfo` (xrce_types.c:1663–1671). -/
def serializeDataWriterActivityInfo (s : σ) (ub : UcdrBuffer) (streamSeqNum : Int16)
    (sampleSeqNum : UInt64) : Bool × σ × UcdrBuffer :=
  let (ok₁, s, ub) := ucdrSerialize dev s ub ub.endianness 2 streamSeqNum.toUInt16.toNat
  let (ok₂, s, ub) := ucdrSerialize dev s ub ub.endianness 8 sampleSeqNum.toNat
  (ok₁ && ok₂, s, ub)

/-- `uxr_serialize_ActivityInfoVariant` (xrce_types.c:1683–1707). -/
def serializeActivityInfoVariant (s : σ) (ub : UcdrBuffer) (input : ActivityInfoVariant) :
    Bool × σ × UcdrBuffer :=
  match ucdrSerialize dev s ub ub.endianness 1 input.kind.toNat with
  | (true, s, ub) =>
    match input with
    | .agent availability addressSeq =>
      serializeAgentActivityInfo dev s ub availability addressSeq
    | .dataWriter streamSeqNum sampleSeqNum =>
      serializeDataWriterActivityInfo dev s ub streamSeqNum sampleSeqNum
    | .dataReader highestAckedNum => serializeDataReaderActivityInfo dev s ub highestAckedNum
    | .other _ => (true, s, ub)
  | (false, s, ub) => (false, s, ub)

/-- `uxr_serialize_ObjectInfo` (xrce_types.c:1735–1753). -/
def serializeObjectInfo (s : σ) (ub : UcdrBuffer) (input : ObjectInfo) : Bool × σ × UcdrBuffer :=
  let (ok₁, s, ub) := ucdrSerialize dev s ub ub.endianness 1 input.config.isSome.toNat
  let (ok₂, s, ub) :=
    match input.config with
    | some config => serializeObjectVariant dev s ub config
    | none => (true, s, ub)
  let (ok₃, s, ub) := ucdrSerialize dev s ub ub.endianness 1 input.activity.isSome.toNat
  let (ok₄, s, ub) :=
    match input.activity with
    | some activity => serializeActivityInfoVariant dev s ub activity
    | none => (true, s, ub)
  (ok₁ && ok₂ && ok₃ && ok₄, s, ub)

/-- `uxr_serialize_CREATE_Payload` (xrce_types.c:2261–2269). -/
def serializeCreatePayload (s : σ) (ub : UcdrBuffer) (input : CreatePayload) :
    Bool × σ × UcdrBuffer :=
  let (ok₁, s, ub) := serializeBaseObjectRequest dev s ub input.base
  let (ok₂, s, ub) := serializeObjectVariant dev s ub input.objectRepresentation
  (ok₁ && ok₂, s, ub)

/-- `uxr_serialize_STATUS_AGENT_Payload` (xrce_types.c:2319–2327). -/
def serializeStatusAgentPayload (s : σ) (ub : UcdrBuffer) (input : StatusAgentPayload) :
    Bool × σ × UcdrBuffer :=
  let (ok₁, s, ub) := ucdrSerialize dev s ub ub.endianness 1 input.status.toNat
  let (ok₂, s, ub) := ucdrSerialize dev s ub ub.endianness 1 input.implementationStatus.toNat
  let (ok₃, s, ub) := serializeAgentRepresentation dev s ub input.agentInfo
  (ok₁ && ok₂ && ok₃, s, ub)

/-- `uxr_serialize_INFO_Payload` (xrce_types.c:2357–2365). -/
def serializeInfoPayload (s : σ) (ub : UcdrBuffer) (input : InfoPayload) :
    Bool × σ × UcdrBuffer :=
  let (ok₁, s, ub) := serializeBaseObjectReply dev s ub input.base.relatedRequest
    input.base.status input.base.implementationStatus
  let (ok₂, s, ub) := serializeObjectInfo dev s ub input.objectInfo
  (ok₁ && ok₂, s, ub)

/-! ## Deserializers -/

/-- `ucdr_deserialize_sequence_uint8_t` with the capacity of its output: the number of the bytes,
and the bytes. -/
def deserializeSequence (capacity : Nat) : StateM (σ × UcdrBuffer) (Option (List UInt8)) := do
  let length ← readScalar dev 4
  if capacity < length.getD 0 then
    setError
    return none
  else
    let bytes ← readArray dev (length.getD 0)
    return length.bind fun _ => bytes

/-- `ucdr_deserialize_string`, with what is in front of the end of the string. -/
def deserializeString : StateM (σ × UcdrBuffer) (Option (List UInt8)) := do
  let bytes ← deserializeSequence dev stringSizeMax
  return bytes.map fun bytes => bytes.takeWhile (· ≠ 0)

/-- `uxr_deserialize_BinarySequence_t` (xrce_types.c:34–39). -/
def deserializeBinarySequence : StateM (σ × UcdrBuffer) (Option (List UInt8)) :=
  deserializeSequence dev binarySequenceMax

/-- The loop in which a sequence is read, up to the first failure. -/
def deserializeItems {α : Type} (item : StateM (σ × UcdrBuffer) (Option α)) :
    Nat → StateM (σ × UcdrBuffer) (Option (List α))
  | 0 => return some []
  | n + 1 => do
    match ← item with
    | some a =>
      let rest ← deserializeItems item n
      return rest.map (a :: ·)
    | none => return none

/-- A sequence of no more items than there is room for. -/
def deserializeSeq {α : Type} (sequenceMax : Nat) (item : StateM (σ × UcdrBuffer) (Option α)) :
    StateM (σ × UcdrBuffer) (Option (List α)) := do
  let size ← readScalar dev 4
  if sequenceMax < size.getD 0 then
    setError
    return none
  else
    match size with
    | some size => deserializeItems item size
    | none => return none

/-- `uxr_deserialize_Property` (xrce_types.c:359–367). -/
def deserializeProperty : StateM (σ × UcdrBuffer) (Option Property) := do
  let name ← deserializeString dev
  let value ← deserializeString dev
  return do
    let name ← name
    let value ← value
    some { name, value }

/-- `uxr_deserialize_PropertySeq` (xrce_types.c:381–400). -/
def deserializePropertySeq (profile : BuildProfile) :
    StateM (σ × UcdrBuffer) (Option (List Property)) :=
  deserializeSeq dev profile.propertySequenceMax (deserializeProperty dev)

omit [MicroCdr] in
/-- What is behind a flag, if the flag is set. -/
def ifSet {α : Type} (flag : Option Nat) (content : StateM (σ × UcdrBuffer) (Option α))
    (absent : α) : StateM (σ × UcdrBuffer) (Option α) :=
  if flag.getD 0 ≠ 0 then content else pure (some absent)

/-- `uxr_deserialize_CLIENT_Representation` (xrce_types.c:422–440), which is all of
`uxr_deserialize_CREATE_CLIENT_Payload` (xrce_types.c:2252–2259). -/
def deserializeCreateClientPayload (profile : BuildProfile) :
    StateM (σ × UcdrBuffer) (Option ClientRepresentation) := do
  let xrceCookie ← readArray dev 4
  let xrceVersion ← readArray dev 2
  let xrceVendorId ← readArray dev 2
  let clientKey ← readArray dev 4
  let sessionId ← readScalar dev 1
  let optionalProperties ← readScalar dev 1
  let properties ← ifSet optionalProperties (deserializePropertySeq dev profile) []
  let mtu ← readScalar dev 2
  return do
    let xrceCookie ← xrceCookie
    let xrceVersion ← xrceVersion
    let xrceVendorId ← xrceVendorId
    let clientKey ← clientKey
    let sessionId ← sessionId
    let optionalProperties ← optionalProperties
    let properties ← properties
    let mtu ← mtu
    some {
      xrceCookie, xrceVersion, xrceVendorId, clientKey
      sessionId := UInt8.ofNat sessionId
      optionalProperties := optionalProperties ≠ 0
      properties
      mtu := UInt16.ofNat mtu }

/-- `uxr_deserialize_AGENT_Representation` (xrce_types.c:459–475). It does not read the properties:
where the flag says that there are some, the output has those that it had. -/
def deserializeAgentRepresentation (output : List Property) :
    StateM (σ × UcdrBuffer) (Option AgentRepresentation) := do
  let xrceCookie ← readArray dev 4
  let xrceVersion ← readArray dev 2
  let xrceVendorId ← readArray dev 2
  let optionalProperties ← readScalar dev 1
  return do
    let xrceCookie ← xrceCookie
    let xrceVersion ← xrceVersion
    let xrceVendorId ← xrceVendorId
    let optionalProperties ← optionalProperties
    some {
      xrceCookie, xrceVersion, xrceVendorId
      optionalProperties := optionalProperties ≠ 0
      properties := if optionalProperties ≠ 0 then output else [] }

/-- `uxr_deserialize_OBJK_Representation3Formats` (xrce_types.c:503–527) and the two others
(xrce_types.c:552–573, 598–619). -/
def deserializeFormats (family : FormatFamily) :
    StateM (σ × UcdrBuffer) (Option RepresentationFormats) := do
  match ← readScalar dev 1 with
  | some 1 =>
    if family.byReference then
      let reference ← deserializeString dev
      return reference.map .byReference
    else
      return some (.other 1)
  | some 2 =>
    let xml ← deserializeString dev
    return xml.map .asXmlString
  | some 3 =>
    if family.inBinary then
      let bytes ← deserializeBinarySequence dev
      return bytes.map .inBinary
    else
      return some (.other 3)
  | some format => return some (.other (UInt8.ofNat format))
  | none => return none

/-- `uxr_deserialize_OBJK_APPLICATION_Representation` (xrce_types.c:738–745). -/
def deserializeApplicationRepresentation : StateM (σ × UcdrBuffer) (Option ObjectVariant) :=
  Option.map .application <$> deserializeFormats dev representationRefAndXmlFormats

/-- `uxr_deserialize_OBJK_QOSPROFILE_Representation` (xrce_types.c:684–691). -/
def deserializeQosProfileRepresentation : StateM (σ × UcdrBuffer) (Option ObjectVariant) :=
  Option.map .qosProfile <$> deserializeFormats dev representationRefAndXmlFormats

/-- `uxr_deserialize_OBJK_TYPE_Representation` (xrce_types.c:702–709). -/
def deserializeTypeRepresentation : StateM (σ × UcdrBuffer) (Option ObjectVariant) :=
  Option.map .type <$> deserializeFormats dev representationRefAndXmlFormats

/-- `uxr_deserialize_OBJK_PARTICIPANT_Representation` (xrce_types.c:837–845). -/
def deserializeParticipantRepresentation : StateM (σ × UcdrBuffer) (Option ObjectVariant) := do
  let base ← deserializeFormats dev representation3Formats
  let domainId ← readScalar dev 2
  return do
    let base ← base
    let domainId ← domainId
    some (.participant base (UInt16.ofNat domainId).toInt16)

/-- A representation with the identifier of another object behind it. -/
def deserializeWithObjectId (family : FormatFamily)
    (variant : RepresentationFormats → List UInt8 → ObjectVariant) :
    StateM (σ × UcdrBuffer) (Option ObjectVariant) := do
  let base ← deserializeFormats dev family
  let objectId ← readArray dev 2
  return do
    let base ← base
    let objectId ← objectId
    some (variant base objectId)

/-- `uxr_deserialize_OBJK_TOPIC_Representation` (xrce_types.c:857–865). -/
def deserializeTopicRepresentation :=
  deserializeWithObjectId dev representation3Formats .topic

/-- `uxr_deserialize_OBJK_PUBLISHER_Representation` (xrce_types.c:757–765). -/
def deserializePublisherRepresentation :=
  deserializeWithObjectId dev representationBinAndXmlFormats .publisher

/-- `uxr_deserialize_OBJK_SUBSCRIBER_Representation` (xrce_types.c:777–785). -/
def deserializeSubscriberRepresentation :=
  deserializeWithObjectId dev representationBinAndXmlFormats .subscriber

/-- `uxr_deserialize_DATAWRITER_Representation` (xrce_types.c:797–805). -/
def deserializeDataWriterRepresentation :=
  deserializeWithObjectId dev representation3Formats .dataWriter

/-- `uxr_deserialize_DATAREADER_Representation` (xrce_types.c:817–825). -/
def deserializeDataReaderRepresentation :=
  deserializeWithObjectId dev representation3Formats .dataReader

/-- `uxr_deserialize_OBJK_REQUESTER_Representation` (xrce_types.c:877–885). -/
def deserializeRequesterRepresentation :=
  deserializeWithObjectId dev representation3Formats .requester

/-- `uxr_deserialize_OBJK_REPLIER_Representation` (xrce_types.c:897–905). -/
def deserializeReplierRepresentation :=
  deserializeWithObjectId dev representation3Formats .replier

/-- `uxr_deserialize_ObjectVariant` (xrce_types.c:1491–1545). -/
def deserializeObjectVariant (profile : BuildProfile) (output : List Property) :
    StateM (σ × UcdrBuffer) (Option ObjectVariant) := do
  match ← readScalar dev 1 with
  | some 0x0D => Option.map .agent <$> deserializeAgentRepresentation dev output
  | some 0x0E => Option.map .client <$> deserializeCreateClientPayload dev profile
  | some 0x0C => deserializeApplicationRepresentation dev
  | some 0x01 => deserializeParticipantRepresentation dev
  | some 0x0B => deserializeQosProfileRepresentation dev
  | some 0x0A => deserializeTypeRepresentation dev
  | some 0x02 => deserializeTopicRepresentation dev
  | some 0x03 => deserializePublisherRepresentation dev
  | some 0x04 => deserializeSubscriberRepresentation dev
  | some 0x05 => deserializeDataWriterRepresentation dev
  | some 0x06 => deserializeDataReaderRepresentation dev
  | some 0x07 => deserializeRequesterRepresentation dev
  | some 0x08 => deserializeReplierRepresentation dev
  | some kind => return some (.other (UInt8.ofNat kind))
  | none => return none

/-- `uxr_deserialize_TransportLocatorSmall`, `_Medium` and `_Large` (xrce_types.c:191–239). -/
def deserializeAddressAndPort (size width : Nat)
    (locator : List UInt8 → Nat → TransportLocator) :
    StateM (σ × UcdrBuffer) (Option TransportLocator) := do
  let address ← readArray dev size
  let locatorPort ← readScalar dev width
  return do
    let address ← address
    let locatorPort ← locatorPort
    some (locator address locatorPort)

/-- `uxr_deserialize_TransportLocator` (xrce_types.c:288–315). -/
def deserializeTransportLocator : StateM (σ × UcdrBuffer) (Option TransportLocator) := do
  match ← readScalar dev 1 with
  | some 0 =>
    deserializeAddressAndPort dev 2 1 fun address locatorPort =>
      .small address (UInt8.ofNat locatorPort)
  | some 1 =>
    deserializeAddressAndPort dev 4 2 fun address locatorPort =>
      .medium address (UInt16.ofNat locatorPort)
  | some 2 =>
    deserializeAddressAndPort dev 16 4 fun address locatorPort =>
      .large address (UInt32.ofNat locatorPort)
  | some 3 =>
    let value ← deserializeString dev
    return value.map .string
  | some format => return some (.other (UInt8.ofNat format))
  | none => return none

/-- `uxr_deserialize_TransportLocatorSeq` (xrce_types.c:329–347). -/
def deserializeTransportLocatorSeq :
    StateM (σ × UcdrBuffer) (Option (List TransportLocator)) :=
  deserializeSeq dev transportLocatorSequenceMax (deserializeTransportLocator dev)

/-- `uxr_deserialize_AGENT_ActivityInfo` (xrce_types.c:1635–1643). -/
def deserializeAgentActivityInfo : StateM (σ × UcdrBuffer) (Option ActivityInfoVariant) := do
  let availability ← readScalar dev 2
  let addressSeq ← deserializeTransportLocatorSeq dev
  return do
    let availability ← availability
    let addressSeq ← addressSeq
    some (.agent (UInt16.ofNat availability).toInt16 addressSeq)

/-- `uxr_deserialize_DATAREADER_ActivityInfo` (xrce_types.c:1654–1661). -/
def deserializeDataReaderActivityInfo : StateM (σ × UcdrBuffer) (Option ActivityInfoVariant) := do
  let highestAckedNum ← readScalar dev 2
  return highestAckedNum.map fun n => .dataReader (UInt16.ofNat n).toInt16

/-- `uxr_deserialize_DATAWRITER_ActivityInfo` (xrce_types.c:1673–1681). -/
def deserializeDataWriterActivityInfo : StateM (σ × UcdrBuffer) (Option ActivityInfoVariant) := do
  let streamSeqNum ← readScalar dev 2
  let sampleSeqNum ← readScalar dev 8
  return do
    let streamSeqNum ← streamSeqNum
    let sampleSeqNum ← sampleSeqNum
    some (.dataWriter (UInt16.ofNat streamSeqNum).toInt16 (UInt64.ofNat sampleSeqNum))

/-- `uxr_deserialize_ActivityInfoVariant` (xrce_types.c:1709–1733). -/
def deserializeActivityInfoVariant :
    StateM (σ × UcdrBuffer) (Option ActivityInfoVariant) := do
  match ← readScalar dev 1 with
  | some 0x0D => deserializeAgentActivityInfo dev
  | some 0x05 => deserializeDataWriterActivityInfo dev
  | some 0x06 => deserializeDataReaderActivityInfo dev
  | some kind => return some (.other (UInt8.ofNat kind))
  | none => return none

/-- A flag, and the optional content behind it. -/
def deserializeOptional {α : Type} (content : StateM (σ × UcdrBuffer) (Option α)) :
    StateM (σ × UcdrBuffer) (Option (Option α)) := do
  let flag ← readScalar dev 1
  let content ← ifSet flag (Option.map some <$> content) none
  return flag.bind fun _ => content

/-- `uxr_deserialize_ObjectInfo` (xrce_types.c:1755–1773). -/
def deserializeObjectInfo (profile : BuildProfile) (output : List Property) :
    StateM (σ × UcdrBuffer) (Option ObjectInfo) := do
  let config ← deserializeOptional dev (deserializeObjectVariant dev profile output)
  let activity ← deserializeOptional dev (deserializeActivityInfoVariant dev)
  return do
    let config ← config
    let activity ← activity
    some { config, activity }

/-- `uxr_deserialize_BaseObjectRequest` (xrce_types.c:1615–1623). -/
def deserializeBaseObjectRequest : StateM (σ × UcdrBuffer) (Option BaseObjectRequest) := do
  let requestId ← readArray dev 2
  let objectId ← readArray dev 2
  return do
    let requestId ← requestId
    let objectId ← objectId
    some { requestId, objectId }

/-- `uxr_deserialize_ResultStatus` (xrce_types.c:1595–1603): the two fields. -/
def deserializeResultStatus : StateM (σ × UcdrBuffer) (Option (UInt8 × UInt8)) := do
  let status ← readScalar dev 1
  let implementationStatus ← readScalar dev 1
  return do
    let status ← status
    let implementationStatus ← implementationStatus
    some (UInt8.ofNat status, UInt8.ofNat implementationStatus)

/-- `uxr_deserialize_BaseObjectReply` (xrce_types.c:1785–1793). -/
def deserializeBaseObjectReply : StateM (σ × UcdrBuffer) (Option BaseObjectReply) := do
  let relatedRequest ← deserializeBaseObjectRequest dev
  let result ← deserializeResultStatus dev
  return do
    let relatedRequest ← relatedRequest
    let (status, implementationStatus) ← result
    some { relatedRequest, status, implementationStatus }

/-- `uxr_deserialize_CREATE_Payload` (xrce_types.c:2271–2279). -/
def deserializeCreatePayload (profile : BuildProfile) (output : List Property) :
    StateM (σ × UcdrBuffer) (Option CreatePayload) := do
  let base ← deserializeBaseObjectRequest dev
  let objectRepresentation ← deserializeObjectVariant dev profile output
  return do
    let base ← base
    let objectRepresentation ← objectRepresentation
    some { base, objectRepresentation }

/-- `uxr_deserialize_STATUS_AGENT_Payload` (xrce_types.c:2329–2337). -/
def deserializeStatusAgentPayload (output : List Property) :
    StateM (σ × UcdrBuffer) (Option StatusAgentPayload) := do
  let result ← deserializeResultStatus dev
  let agentInfo ← deserializeAgentRepresentation dev output
  return do
    let (status, implementationStatus) ← result
    let agentInfo ← agentInfo
    some { status, implementationStatus, agentInfo }

/-- `uxr_deserialize_INFO_Payload` (xrce_types.c:2367–2375). -/
def deserializeInfoPayload (profile : BuildProfile) (output : List Property) :
    StateM (σ × UcdrBuffer) (Option InfoPayload) := do
  let base ← deserializeBaseObjectReply dev
  let objectInfo ← deserializeObjectInfo dev profile output
  return do
    let base ← base
    let objectInfo ← objectInfo
    some { base, objectInfo }

end XrceTypes

end XrceClient
