import XrceClient.Session.BinaryRoundTrip
import XrceClient.Session.FieldWriting
import XrceClient.Session.Requests

/-!
# The payloads of requests

What a request asks for, and the payload that says so. A payload starts at a multiple of four, and
so its layout does not depend on where in a message it is.

- `BinaryObject`: what a representation in binary is of. `BinaryObject.readFrom`: its bytes are read
  as the object.
- `Representation`, `Request`: what is asked for.
- `Request.fields`, `Request.payloadSize`: what is sent, and the room that is asked for before.
- `Request.writes`, `Request.laidSize_eq`: the serializers write these fields, and the fields take
  just that room.
- `Request.ReadFrom`: what an agent reads of a payload. `Request.readFrom`: it is the request.
-/

namespace XrceClient

open ByteMemory XrceTypes


/-! ## In binary -/

section

variable [MicroCdr]

/-- From a buffer over just these bytes, the deserializer gets the object. -/
def ReadFresh {α : Type} (deserialize : StateM (Memory × UcdrBuffer) (Option α)) (a : α)
    (bytes : List UInt8) : Prop :=
  ∀ (m : Memory) (data : Nat), read m data bytes.length = bytes →
    ∃ ub, deserialize.run (m, ucdrInitBuffer data bytes.length) = (some a, m, ub) ∧
      ub.iterator = data + bytes.length

/-- From bytes that hold its fields, a value is read. -/
theorem Yields.readFresh [LawfulMicroCdr] {α : Type}
    {deserialize : StateM (Memory × UcdrBuffer) (Option α)} {a : α} {fields : List Field}
    {bytes : List UInt8}
    (h : Yields deserialize (some a) fields) (hlaid : LaidOut machineEndianness 0 0 fields bytes) :
    ReadFresh deserialize a bytes := by
  intro m data hread
  have hinit := LawfulMicroCdr.init data bytes.length 0 0
  rw [ucdrInitBuffer]
  generalize ucdrInitBufferOriginOffset data bytes.length 0 0 = ub at hinit
  have hafter := (ub.after_laid fields).1
  have hfields : FieldsAt m ub fields := by
    subst hinit
    exact hlaid.fieldsAt hread
  rw [show laidSize ub.offset ub.lastDataSize fields = bytes.length by
    rw [hinit, hlaid.length]] at hafter
  refine ⟨ub.after fields, h m ub (by rw [hinit]) hfields ?_, ?_⟩
  · rw [hafter, hinit]
    rfl
  · rw [hafter, hinit]
    rfl

end

/-- What is represented in binary. -/
inductive BinaryObject where
  | participant (object : DomainParticipantBinary)
  | topic (object : TopicBinary)
  | group (object : GroupBinary)
  | dataWriter (object : DataWriterBinary)
  | dataReader (object : DataReaderBinary)
  | service (object : RequestReplyBinary)
  deriving DecidableEq

namespace BinaryObject

def fields : BinaryObject → List Field
  | participant object => object.fields
  | topic object => object.fields
  | group object => object.fields
  | dataWriter object => object.fields
  | dataReader object => object.fields
  | service object => object.fields

/-- There is room for the parts in the types of the source, and for all of them in the bytes of a
representation. -/
def Fits (object : BinaryObject) : Prop :=
  laidSize 0 0 object.fields ≤ binarySequenceMax ∧
    match object with
    | participant object => object.Fits
    | topic object => object.Fits
    | group object => object.Fits
    | dataWriter object => object.Fits
    | dataReader object => object.Fits
    | service object => object.Fits

section

variable [MicroCdr]

def serialize (m : Memory) (ub : UcdrBuffer) : BinaryObject → Bool × Memory × UcdrBuffer
  | participant object => serializeDomainParticipantBinary Device.plain m ub object
  | topic object => serializeTopicBinary Device.plain m ub object
  | group object => serializeGroupBinary Device.plain m ub object
  | dataWriter object => serializeDataWriterBinary Device.plain m ub object
  | dataReader object => serializeDataReaderBinary Device.plain m ub object
  | service object => serializeRequestReplyBinary Device.plain m ub object

/-- The bytes of the representation. -/
def bytes (stack : Memory) (object : BinaryObject) : List UInt8 :=
  binaryRepresentation stack fun m ub => object.serialize m ub

/-- What is read of the bytes is the object. -/
def ReadFrom (bytes : List UInt8) : BinaryObject → Prop
  | participant object => ReadFresh (deserializeDomainParticipantBinary Device.plain) object bytes
  | topic object => ReadFresh (deserializeTopicBinary Device.plain) object bytes
  | group object => ReadFresh (deserializeGroupBinary Device.plain) object bytes
  | dataWriter object => ReadFresh (deserializeDataWriterBinary Device.plain) object bytes
  | dataReader object => ReadFresh (deserializeDataReaderBinary Device.plain) object bytes
  | service object => ReadFresh (deserializeRequestReplyBinary Device.plain) object bytes

theorem serializes (object : BinaryObject) :
    Serializes (fun m ub => object.serialize m ub) object.fields := by
  cases object with
  | participant object => exact serializes_domainParticipantBinary object
  | topic object => exact serializes_topicBinary object
  | group object => exact serializes_groupBinary object
  | dataWriter object => exact serializes_dataWriterBinary object
  | dataReader object => exact serializes_dataReaderBinary object
  | service object => exact serializes_requestReplyBinary object

section

variable [LawfulMicroCdr]

/-- The bytes hold the fields of the object. -/
theorem laidOut_bytes (stack : Memory) {object : BinaryObject}
    (hroom : laidSize 0 0 object.fields ≤ binarySequenceMax) :
    LaidOut machineEndianness 0 0 object.fields (object.bytes stack) := by
  have hinit := LawfulMicroCdr.init 0 binarySequenceMax 0 0
  rw [bytes, binaryRepresentation, ucdrInitBuffer]
  generalize ucdrInitBufferOriginOffset 0 binarySequenceMax 0 0 = ub at hinit
  obtain ⟨hiterator, hoffset⟩ := ub.after_laid object.fields
  have hfinal : (ub.after object.fields).iterator ≤ ub.final := by
    rw [hiterator, hinit]
    simpa using hroom
  obtain ⟨m, hrun, hfields⟩ := object.serializes.fieldsAt stack (by rw [hinit]) hfinal
  have hlaid := hfields.laidOut
  rw [hinit] at hlaid
  rw [hrun]
  dsimp only
  rw [hoffset, hinit, Nat.zero_add]
  exact hlaid

end

section

variable [BoundedMicroCdr]

/-- What is read of the bytes of an object is the object. -/
theorem readFrom (stack : Memory) {object : BinaryObject} (hfits : object.Fits) :
    object.ReadFrom (object.bytes stack) := by
  have hlaid := laidOut_bytes stack hfits.1
  cases object with
  | participant object => exact (decodes_domainParticipantBinary hfits.2).yields.readFresh hlaid
  | topic object => exact (decodes_topicBinary hfits.2).yields.readFresh hlaid
  | group object => exact (decodes_groupBinary hfits.2).yields.readFresh hlaid
  | dataWriter object => exact (decodes_dataWriterBinary hfits.2).yields.readFresh hlaid
  | dataReader object => exact (decodes_dataReaderBinary hfits.2).yields.readFresh hlaid
  | service object => exact (decodes_requestReplyBinary hfits.2).yields.readFresh hlaid

end

end

end BinaryObject

/-! ## What is asked for -/

/-- How an entity is represented. -/
inductive Representation where
  | reference (string : List UInt8)
  | xml (string : List UInt8)
  | binary (object : BinaryObject)
  deriving DecidableEq

/-- A request for an object, besides the identifiers. -/
inductive Request where
  | create (mode : UInt8) (entity : Entity) (representation : Representation)
  | delete
  | writeData (data : List UInt8)
  | reply (sampleId : SampleIdentity) (data : List UInt8)
  | readData (dataStreamId : StreamId) (control : Option DataDeliveryControl)
  deriving DecidableEq

/-- Publishers and subscribers are not created from references. -/
def Entity.family : Entity → FormatFamily
  | publisher _ | subscriber _ => representationBinAndXmlFormats
  | _ => representation3Formats

/-- The kind of an entity. -/
def Entity.kind (entity : Entity) : UInt8 := (entity.variant (.other 0)).kind

namespace Representation

/-- The number of the bytes of a representation. -/
def size : Representation → Nat
  | reference string | xml string => string.length + 1
  | binary object => laidSize 0 0 object.fields

/-- What is sent of a representation. -/
def formats [MicroCdr] (stack : Memory) : Representation → RepresentationFormats
  | reference string => .byReference string
  | xml string => .asXmlString string
  | binary object => .inBinary (object.bytes stack)

/-- The family has the format of the representation. -/
def Suits (family : FormatFamily) : Representation → Prop
  | reference _ => family.byReference = true
  | xml _ => True
  | binary _ => family.inBinary = true

/-- An object is all in the bytes of its representation. -/
def Sized : Representation → Prop
  | reference _ | xml _ => True
  | binary object => laidSize 0 0 object.fields ≤ binarySequenceMax

/-- There is room for the representation in the types of the source. -/
def Fits : Representation → Prop
  | reference string | xml string => StringFits string
  | binary object => object.Fits

/-- What the representation is read from. -/
def ReadFrom [MicroCdr] (formats : RepresentationFormats) : Representation → Prop
  | reference string => formats = .byReference string
  | xml string => formats = .asXmlString string
  | binary object => ∃ bytes, formats = .inBinary bytes ∧ object.ReadFrom bytes

end Representation

/-- The number of the bytes of a creation. In front of the domain of a participant there may be
padding. -/
def Entity.sentSize (entity : Entity) (representation : Representation) : Nat :=
  14 + representation.size +
    if entity.kind = objkParticipant then representation.size % 2 else 0

def DataDeliveryControl.fields (control : DataDeliveryControl) : List Field :=
  uint16Fields control.maxSamples ++ (uint16Fields control.maxElapsedTime ++
    (uint16Fields control.maxBytesPerSeconds ++ uint16Fields control.minPacePeriod))

def ReadSpecification.fields (specification : ReadSpecification) : List Field :=
  [.scalar 1 specification.preferredStreamId.toNat] ++
    ([.scalar 1 specification.dataFormat.toNat] ++
    (optionalFields stringFields specification.contentFilterExpression ++
      optionalFields DataDeliveryControl.fields specification.deliveryControl))

/-- The two parts that are bytes have the sizes of their types. -/
def SampleIdentity.Fits (sampleId : SampleIdentity) : Prop :=
  sampleId.guidPrefix.length = 12 ∧ sampleId.entityKey.length = 3

namespace Request

def submessageId : Request → UInt8
  | create .. => SubmessageId.create.value
  | delete => SubmessageId.delete.value
  | writeData _ | reply .. => SubmessageId.writeData.value
  | readData .. => SubmessageId.readData.value

/-- The flags of the submessage. -/
def mode : Request → UInt8
  | create mode _ _ => mode
  | delete | readData .. => 0
  | writeData _ | reply .. => formatData

/-- The room that is asked for. -/
def payloadSize (objectId : ObjectId) : Request → Nat
  | create _ _ representation =>
    (createPayloadLength objectId (UInt16.ofNat representation.size)).toNat
  | delete => 4
  | writeData data => writeDataPayloadSize + data.length
  | reply _ data => writeDataPayloadSize + 24 + data.length
  | readData _ control => 4 + 4 + if control.isSome then 8 else 0

/-- A length of sixteen bits is enough. An entity is represented in a format that it has, and where
the padding depends on it, the object has the type of a participant just if it is one. -/
def Sized (objectId : ObjectId) : Request → Prop
  | create _ entity representation =>
    representation.Suits entity.family ∧ representation.Sized ∧
      (representation.size % 2 = 1 →
        (objectId.type = objkParticipant ↔ entity.kind = objkParticipant)) ∧
      entity.sentSize representation < 65536
  | writeData data => 4 + data.length < 65536
  | reply sampleId data => sampleId.Fits ∧ 28 + data.length < 65536
  | delete | readData .. => True

/-- There is room for the request in the types of the source. -/
def Fits : Request → Prop
  | create _ _ representation => representation.Fits
  | _ => True

section

variable [MicroCdr] (stack : Memory)

/-- What is sent. -/
def fields (base : BaseObjectRequest) : Request → List Field
  | create _ entity representation =>
    base.fields ++ (entity.variant (representation.formats stack)).fields
  | delete => base.fields
  | writeData data => base.fields ++ [.array data]
  | reply sampleId data => base.fields ++ (sampleId.fields ++ [.array data])
  | readData dataStreamId control => base.fields ++ (requestedData dataStreamId control).fields

/-- The serializer of the payload. -/
def serialize {σ : Type} (dev : Device σ) (base : BaseObjectRequest) (s : σ) (ub : UcdrBuffer) :
    Request → Bool × σ × UcdrBuffer
  | create _ entity representation =>
    serializeCreatePayload dev s ub
      { base, objectRepresentation := entity.variant (representation.formats stack) }
  | delete => serializeDeletePayload dev s ub base
  | writeData data => serializeWriteData dev s ub base data
  | reply sampleId data => serializeReply dev s ub base sampleId data
  | readData dataStreamId control =>
    serializeReadDataPayload dev s ub
      { base, readSpecification := requestedData dataStreamId control }

/-- What is done to buffer a request. -/
def buffer (session : Session) (streamId : StreamId) (objectId : ObjectId) (request : Request) :
    UInt16 × Session :=
  bufferPayload session streamId (request.payloadSize objectId) request.submessageId request.mode
    objectId fun base streams ub => request.serialize stack (streamDevice streamId) base streams ub

end

end Request

/-! ## What is written -/

section

variable [MicroCdr] {σ : Type} {dev : Device σ}

theorem writes_string (string : List UInt8) :
    Writes dev (fun s ub => ucdrSerializeString dev s ub string) (stringFields string) :=
  (writes_scalar 4 _).and (writes_array _)

theorem writes_uint16 (n : UInt16) :
    Writes dev (fun s ub => serializeUint16 dev s ub n) (uint16Fields n) :=
  writes_scalar 2 _

theorem writes_optional {α : Type} {content : σ → UcdrBuffer → α → Bool × σ × UcdrBuffer}
    {contentFields : α → List Field} (value : Option α)
    (h : ∀ a, Writes dev (fun s ub => content s ub a) (contentFields a)) :
    Writes dev (fun s ub => serializeOptional dev content s ub value)
      (optionalFields contentFields value) := by
  have hflag : Writes dev _ [.scalar 1 value.isSome.toNat] := writes_scalar 1 _
  cases value with
  | none => exact hflag.and writes_nothing
  | some a => exact hflag.and (h a)

/-- A tag, and what is behind it if it can be written. -/
theorem writes_tagged (tag : UInt8) {content serialize : σ → UcdrBuffer → Bool × σ × UcdrBuffer}
    {fields : List Field} (h : Writes dev content fields)
    (hnext : ∀ {s ub s' ub'}, ucdrSerialize dev s ub ub.endianness 1 tag.toNat = (true, s', ub') →
      serialize s ub = content s' ub') :
    Writes dev serialize (.scalar 1 tag.toNat :: fields) :=
  (writes_scalar 1 _).andThen h hnext

theorem writes_formats (stack : Memory) {family : FormatFamily} {representation : Representation}
    (hsuits : representation.Suits family) :
    Writes dev (fun s ub => serializeFormats dev family s ub (representation.formats stack))
      (representation.formats stack).fields := by
  cases representation with
  | reference string =>
    refine writes_tagged _ (writes_string string) fun hcall => ?_
    rw [serializeFormats, hcall]
    exact if_pos hsuits
  | xml string =>
    refine writes_tagged _ (writes_string string) fun hcall => ?_
    rw [serializeFormats, hcall]
    rfl
  | binary object =>
    refine writes_tagged _ ((writes_scalar 4 _).and (writes_array _)) fun hcall => ?_
    rw [serializeFormats, hcall]
    exact if_pos hsuits

/-- The variant of an entity is its kind, and the representation with what the entity belongs to. -/
theorem writes_variant (stack : Memory) (entity : Entity) {representation : Representation}
    (hsuits : representation.Suits entity.family) :
    Writes dev
      (fun s ub => serializeObjectVariant dev s ub (entity.variant (representation.formats stack)))
      (entity.variant (representation.formats stack)).fields := by
  cases entity with
  | participant domainId =>
    refine writes_tagged _ ((writes_formats stack hsuits).and (writes_scalar 2 _)) fun hcall => ?_
    rw [serializeObjectVariant, hcall]
    rfl
  | topic objectId | publisher objectId | subscriber objectId | dataWriter objectId
  | dataReader objectId | requester objectId | replier objectId =>
    refine writes_tagged _ ((writes_formats stack hsuits).and (writes_array _)) fun hcall => ?_
    rw [serializeObjectVariant, hcall]
    rfl

theorem writes_baseObjectRequest (base : BaseObjectRequest) :
    Writes dev (fun s ub => serializeBaseObjectRequest dev s ub base) base.fields :=
  (writes_array _).and (writes_array _)

theorem writes_dataDeliveryControl (control : DataDeliveryControl) :
    Writes dev (fun s ub => serializeDataDeliveryControl dev s ub control) control.fields := by
  have hfirst : Writes dev _ (uint16Fields control.maxSamples) := writes_uint16 _
  have hall := ((hfirst.and (writes_uint16 control.maxElapsedTime)).and
    (writes_uint16 control.maxBytesPerSeconds)).and (writes_uint16 control.minPacePeriod)
  simp only [List.append_assoc] at hall
  exact hall

theorem writes_readSpecification (specification : ReadSpecification) :
    Writes dev (fun s ub => serializeReadSpecification dev s ub specification)
      specification.fields := by
  have hstream : Writes dev _ [.scalar 1 specification.preferredStreamId.toNat] :=
    writes_scalar 1 _
  have hall := ((hstream.and (writes_scalar 1 specification.dataFormat.toNat)).and
    (writes_optional specification.contentFilterExpression writes_string)).and
      (writes_optional specification.deliveryControl writes_dataDeliveryControl)
  simp only [List.append_assoc] at hall
  exact hall

theorem writes_sampleIdentity (sampleId : SampleIdentity) :
    Writes dev (fun s ub => serializeSampleIdentity dev s ub sampleId) sampleId.fields :=
  ((((writes_array _).and (writes_array _)).and (writes_scalar 1 _)).and
    (writes_scalar 4 _)).and (writes_scalar 4 _)

/-- The serializer of a request writes its fields. -/
theorem Request.writes (stack : Memory) {objectId : ObjectId} {request : Request}
    (hsized : request.Sized objectId) (base : BaseObjectRequest) :
    Writes dev (fun s ub => request.serialize stack dev base s ub) (request.fields stack base) := by
  have hbase : Writes dev _ base.fields := writes_baseObjectRequest base
  cases request with
  | create mode entity representation => exact hbase.and (writes_variant stack entity hsized.1)
  | delete => exact hbase
  | writeData data => exact hbase.and (writes_array data)
  | reply sampleId data =>
    have hall := (hbase.and (writes_sampleIdentity sampleId)).and (writes_array data)
    rw [List.append_assoc] at hall
    exact hall
  | readData dataStreamId control => exact hbase.and (writes_readSpecification _)

end

/-! ## The room -/

section

variable [MicroCdr] [LawfulMicroCdr] (stack : Memory)

/-- The content of a representation is a number and bytes. -/
theorem Representation.Sized.content_eq {representation : Representation}
    (h : representation.Sized) :
    ∃ bytes : List UInt8, (representation.formats stack).content =
        [.scalar 4 representation.size, .array bytes] ∧ bytes.length = representation.size := by
  cases representation with
  | reference string => exact ⟨string ++ [0], rfl, by simp [size]⟩
  | xml string => exact ⟨string ++ [0], rfl, by simp [size]⟩
  | binary object =>
    have hlength := (object.laidOut_bytes stack h).length
    exact ⟨object.bytes stack, by rw [size, ← hlength]; rfl, hlength⟩

omit [MicroCdr] [LawfulMicroCdr] in
/-- Behind the representation there is the domain of a participant, or an identifier. -/
theorem Entity.variant_fields (entity : Entity) (formats : RepresentationFormats) :
    ∃ last : Field, (entity.variant formats).fields =
        .scalar 1 entity.kind.toNat :: .scalar 1 formats.format.toNat ::
          (formats.content ++ [last]) ∧
      (entity.kind = objkParticipant ∧ (∃ domainId, last = .scalar 2 domainId) ∨
        entity.kind ≠ objkParticipant ∧ ∃ bytes : List UInt8, last = .array bytes ∧
          bytes.length = 2) := by
  cases entity with
  | participant domainId => exact ⟨_, rfl, .inl ⟨rfl, _, rfl⟩⟩
  | topic objectId | publisher objectId | subscriber objectId | dataWriter objectId
  | dataReader objectId | requester objectId | replier objectId =>
    exact ⟨_, rfl, .inr ⟨by simp [kind, variant, ObjectVariant.kind, objkParticipant],
      objectIdToRaw objectId, rfl, rfl⟩⟩

omit [MicroCdr] [LawfulMicroCdr] in
/-- The length that is computed for a creation goes round. -/
theorem createPayloadLength_toNat (objectId : ObjectId) (size : Nat) :
    (createPayloadLength objectId (UInt16.ofNat size)).toNat =
      (14 + size + if objectId.type = objkParticipant then size % 2 else 0) % 65536 := by
  have hsum : (4 + 1 + 1 + 2 + 4 + UInt16.ofNat size).toNat = (12 + size) % 65536 := by
    show (12 + size % 65536) % 65536 = _
    omega
  have hodd : ((4 + 1 + 1 + 2 + 4 + UInt16.ofNat size) % 2 ≠ 0) ↔ size % 2 = 1 := by
    rw [← UInt16.toNat_inj.ne, UInt16.toNat_mod, hsum]
    show (12 + size) % 65536 % 2 ≠ 0 ↔ _
    omega
  simp only [createPayloadLength, hodd, UInt16.toNat_add, hsum]
  by_cases hparticipant : objectId.type = objkParticipant
  · rcases Nat.mod_two_eq_zero_or_one size with heven | hone
    · simp [hparticipant, heven]
      omega
    · simp [hparticipant, hone]
      omega
  · simp [hparticipant]
    omega

omit [MicroCdr] [LawfulMicroCdr] in
/-- The room that is asked for a creation is that of what is sent. -/
theorem createPayloadLength_eq {objectId : ObjectId} {entity : Entity}
    {representation : Representation}
    (htype : representation.size % 2 = 1 →
      (objectId.type = objkParticipant ↔ entity.kind = objkParticipant))
    (hlt : entity.sentSize representation < 65536) :
    (createPayloadLength objectId (UInt16.ofNat representation.size)).toNat =
      entity.sentSize representation := by
  rw [Entity.sentSize] at hlt ⊢
  rw [createPayloadLength_toNat]
  rcases Nat.mod_two_eq_zero_or_one representation.size with heven | hone
  · simp only [heven, ite_self] at hlt ⊢
    exact Nat.mod_eq_of_lt hlt
  · simp only [htype hone]
    exact Nat.mod_eq_of_lt hlt

omit [MicroCdr] [LawfulMicroCdr] in
/-- What is sent for a creation takes the bytes of the representation, and those around it. -/
theorem laidSize_create {entity : Entity} {formats : RepresentationFormats} {n : Nat}
    {bytes : List UInt8} (hcontent : formats.content = [.scalar 4 n, .array bytes])
    {base : BaseObjectRequest} (hbase : base.Fits) {offset last : Nat} (haligned : offset % 4 = 0) :
    laidSize offset last (base.fields ++ (entity.variant formats).fields) =
      14 + bytes.length + if entity.kind = objkParticipant then bytes.length % 2 else 0 := by
  obtain ⟨hrequest, hobject⟩ := hbase
  obtain ⟨tail, hfields, htail⟩ := entity.variant_fields formats
  rw [hfields, hcontent]
  rcases htail with ⟨hkind, domainId, rfl⟩ | ⟨hkind, bytes', rfl, hbytes'⟩
  · -- the domain of a participant is at a multiple of two
    simp [BaseObjectRequest.fields, laidSize, gapBefore, Field.type, FieldType.size,
      FieldType.last, hkind, hrequest, hobject]
    omega
  · simp [BaseObjectRequest.fields, laidSize, gapBefore, Field.type, FieldType.size,
      FieldType.last, hkind, hrequest, hobject, hbytes']
    omega

/-- What is sent takes the room that is asked for. -/
theorem Request.laidSize_eq {objectId : ObjectId} {request : Request}
    (hsized : request.Sized objectId) {base : BaseObjectRequest} (hbase : base.Fits)
    {offset last : Nat} (haligned : offset % 4 = 0) :
    laidSize offset last (request.fields stack base) = request.payloadSize objectId := by
  cases request with
  | create mode entity representation =>
    obtain ⟨-, hsized, htype, hlt⟩ := hsized
    obtain ⟨bytes, hcontent, hbytes⟩ := hsized.content_eq stack
    rw [fields, laidSize_create hcontent hbase haligned, payloadSize,
      createPayloadLength_eq htype hlt, Entity.sentSize, hbytes]
  | delete =>
    obtain ⟨hrequest, hobject⟩ := hbase
    simp [fields, payloadSize, BaseObjectRequest.fields, laidSize, gapBefore, Field.type,
      FieldType.size, hrequest, hobject]
  | writeData data =>
    obtain ⟨hrequest, hobject⟩ := hbase
    simp [fields, payloadSize, BaseObjectRequest.fields, laidSize, gapBefore, Field.type,
      FieldType.size, hrequest, hobject, writeDataPayloadSize]
    omega
  | reply sampleId data =>
    obtain ⟨hrequest, hobject⟩ := hbase
    obtain ⟨⟨hguid, hkey⟩, -⟩ := hsized
    simp [fields, payloadSize, BaseObjectRequest.fields, SampleIdentity.fields, laidSize,
      gapBefore, Field.type, FieldType.size, FieldType.last, hrequest, hobject, hguid, hkey,
      writeDataPayloadSize]
    omega
  | readData dataStreamId control =>
    obtain ⟨hrequest, hobject⟩ := hbase
    cases control with
    | none =>
      simp [fields, payloadSize, BaseObjectRequest.fields, ReadSpecification.fields,
        requestedData, optionalFields, laidSize, gapBefore, Field.type, FieldType.size,
        FieldType.last, hrequest, hobject]
    | some control =>
      simp [fields, payloadSize, BaseObjectRequest.fields, ReadSpecification.fields,
        requestedData, optionalFields, DataDeliveryControl.fields, uint16Fields, laidSize,
        gapBefore, Field.type, FieldType.size, FieldType.last, hrequest, hobject]
      omega

omit [LawfulMicroCdr] in
/-- The integers of a request have four bytes at most. -/
theorem Request.width_mem {request : Request} {base : BaseObjectRequest} {width value : Nat}
    (hmem : Field.scalar width value ∈ request.fields stack base) : width ∈ [1, 2, 4] := by
  cases request with
  | create mode entity representation =>
    obtain ⟨tail, hfields, htail⟩ := entity.variant_fields (representation.formats stack)
    have hcontent : ∀ width value,
        Field.scalar width value ∈ (representation.formats stack).content → width = 4 := by
      intro width value hmem
      cases representation <;>
        simp_all [Representation.formats, RepresentationFormats.content, stringFields]
    rw [fields, hfields] at hmem
    simp only [BaseObjectRequest.fields, List.cons_append, List.nil_append, List.mem_cons,
      List.mem_append, List.not_mem_nil, or_false, reduceCtorEq, Field.scalar.injEq,
      false_or] at hmem
    rcases hmem with ⟨rfl, -⟩ | ⟨rfl, -⟩ | hmem | hmem
    · simp
    · simp
    · simp [hcontent _ _ hmem]
    · rcases htail with ⟨-, domainId, rfl⟩ | ⟨-, bytes, rfl, -⟩
      · simp_all
      · simp_all
  | delete => simp [fields, BaseObjectRequest.fields] at hmem
  | writeData data => simp [fields, BaseObjectRequest.fields] at hmem
  | reply sampleId data =>
    simp [fields, BaseObjectRequest.fields, SampleIdentity.fields] at hmem ⊢
    omega
  | readData dataStreamId control =>
    cases control with
    | none =>
      simp [fields, BaseObjectRequest.fields, ReadSpecification.fields, requestedData,
        optionalFields] at hmem ⊢
      omega
    | some control =>
      simp [fields, BaseObjectRequest.fields, ReadSpecification.fields, requestedData,
        optionalFields, DataDeliveryControl.fields, uint16Fields] at hmem ⊢
      omega

end

/-! ## What is read -/

section

variable [MicroCdr] {α : Type} {deserialize : StateM (Memory × UcdrBuffer) (Option α)} {a : α}
  {payload : List UInt8}

/-- Wherever the payload is, from a multiple of four on, the value is read from it. -/
def ReadAs (deserialize : StateM (Memory × UcdrBuffer) (Option α)) (a : α)
    (payload : List UInt8) : Prop :=
  ∀ (m : Memory) (ub : UcdrBuffer), ub.error = false → ub.endianness = machineEndianness →
    ub.offset % 4 = 0 → ub.iterator + payload.length ≤ ub.final →
    read m ub.iterator payload.length = payload →
      ∃ ub', deserialize.run (m, ub) = (some a, m, ub') ∧
        ub'.iterator = ub.iterator + payload.length

/-- What is read from fields is read from the bytes that hold them. -/
theorem Yields.readAs {fields : List Field} (h : Yields deserialize (some a) fields)
    (hwidth : ∀ width value, Field.scalar width value ∈ fields → width ∈ [1, 2, 4])
    {offset last : Nat} (hlaid : LaidOut machineEndianness offset last fields payload)
    (haligned : offset % 4 = 0) : ReadAs deserialize a payload := by
  intro m ub hok hmachine hoffset hroom hread
  have hhere := (hlaid.shift hwidth (haligned.trans hoffset.symm)).front hwidth hoffset
    ub.lastDataSize
  rw [← hmachine] at hhere
  have hafter := (ub.after_laid fields).1
  rw [← hhere.length] at hafter
  exact ⟨ub.after fields, h m ub hok (hhere.fieldsAt hread) (hafter ▸ hroom), hafter⟩

end

section

variable [MicroCdr]

/-- What is read of a payload is the request. Data and what is in front of them are just there. -/
def Request.ReadFrom (base : BaseObjectRequest) (payload : List UInt8) : Request → Prop
  | create _ entity representation => ∃ formats, representation.ReadFrom formats ∧
    ∀ profile output, ReadAs (deserializeCreatePayload Device.plain profile output)
      { base, objectRepresentation := entity.variant formats } payload
  | delete => ReadAs (XrceTypes.deserializeBaseObjectRequest Device.plain) base payload
  | writeData data => payload = encodeFields machineEndianness base.fields ++ data
  | reply sampleId data =>
    payload = encodeFields machineEndianness (base.fields ++ sampleId.fields) ++ data
  | readData dataStreamId control =>
    ReadAs (deserializeReadDataPayload Device.plain)
      { base, readSpecification := requestedData dataStreamId control } payload

variable [LawfulMicroCdr]

theorem yields_deserializeUint16 (n : UInt16) :
    Yields (deserializeUint16 Device.plain) (some n) (uint16Fields n) := by
  have hread := (yields_uint16 n).map (Option.map UInt16.ofNat)
  rw [Option.map_some, UInt16.ofNat_toNat] at hread
  exact hread

theorem yields_dataDeliveryControl (control : DataDeliveryControl) :
    Yields (deserializeDataDeliveryControl Device.plain) (some control) control.fields :=
  (yields_deserializeUint16 _).bind <| (yields_deserializeUint16 _).bind <|
    (yields_deserializeUint16 _).bind <| (yields_deserializeUint16 _).bind_pure _

/-- What is asked for has no filter. -/
theorem yields_requestedData (dataStreamId : StreamId) (control : Option DataDeliveryControl) :
    Yields (deserializeReadSpecification Device.plain) (some (requestedData dataStreamId control))
      (requestedData dataStreamId control).fields := by
  have hfilter : Yields (deserializeOptional Device.plain (deserializeString Device.plain))
      (some none) (optionalFields stringFields none) :=
    yields_optional fun _ hmem => absurd hmem (by simp)
  have hcontrol := @yields_optional _ _ _ control DataDeliveryControl.fields _
    fun control _ => yields_dataDeliveryControl control
  have hread : Yields (deserializeReadSpecification Device.plain) _
      (requestedData dataStreamId control).fields :=
    (yields_uint8 dataStreamId.raw).bind <| (yields_uint8 formatData).bind <|
      hfilter.bind <| hcontrol.bind_pure _
  simpa [requestedData] using hread

theorem yields_readDataPayload {base : BaseObjectRequest} (hbase : base.Fits)
    (dataStreamId : StreamId) (control : Option DataDeliveryControl) :
    Yields (deserializeReadDataPayload Device.plain)
      (some { base, readSpecification := requestedData dataStreamId control })
      (base.fields ++ (requestedData dataStreamId control).fields) :=
  (yields_baseObjectRequest hbase).bind ((yields_requestedData dataStreamId control).bind_pure _)

omit [MicroCdr] [LawfulMicroCdr] in
/-- The representation of an entity fits, and it is not an agent. -/
theorem Entity.variant_fits {entity : Entity} {formats : RepresentationFormats}
    (hfits : formats.Fits entity.family) (profile : BuildProfile) :
    (entity.variant formats).Fits profile ∧ ¬ (entity.variant formats).AgentWithProperties := by
  cases entity with
  | participant domainId => exact ⟨hfits, id⟩
  | topic objectId | publisher objectId | subscriber objectId | dataWriter objectId
  | dataReader objectId | requester objectId | replier objectId => exact ⟨⟨hfits, rfl⟩, id⟩

theorem Representation.formats_fits (stack : Memory) {family : FormatFamily}
    {representation : Representation} (hsuits : representation.Suits family)
    (hsized : representation.Sized) (hfits : representation.Fits) :
    (representation.formats stack).Fits family := by
  cases representation with
  | reference string => exact ⟨hsuits, hfits⟩
  | xml string => exact hfits
  | binary object =>
    have hlength := (object.laidOut_bytes stack hsized).length
    exact ⟨hsuits, hlength.trans_le hsized⟩

omit [LawfulMicroCdr] in
/-- Behind fields without padding, the data are as they are. -/
theorem LaidOut.data {fields : List Field} {data payload : List UInt8} {offset : Nat}
    (h : LaidOut machineEndianness offset 0 (fields ++ [.array data]) payload)
    (hpacked : Packed offset 0 ((fields ++ [Field.array data]).map Field.type)) :
    payload = encodeFields machineEndianness fields ++ data := by
  rw [h.packed hpacked, encodeFields, List.flatMap_append]
  simp [encodeFields, Field.encode]

end

section

variable [MicroCdr] [BoundedMicroCdr] (stack : Memory)

theorem Representation.readFrom {representation : Representation} (hfits : representation.Fits) :
    representation.ReadFrom (representation.formats stack) := by
  cases representation with
  | reference string => rfl
  | xml string => rfl
  | binary object => exact ⟨object.bytes stack, rfl, object.readFrom stack hfits⟩

/-- What is sent is read as the request. -/
theorem Request.readFrom {objectId : ObjectId} {request : Request}
    (hsized : request.Sized objectId) (hfits : request.Fits) {base : BaseObjectRequest}
    (hbase : base.Fits) {payload : List UInt8}
    (hlaid : LaidOut machineEndianness 0 0 (request.fields stack base) payload) :
    request.ReadFrom base payload := by
  have hwidth (width value : Nat) (hmem : Field.scalar width value ∈ request.fields stack base) :=
    Request.width_mem stack hmem
  cases request with
  | create mode entity representation =>
    obtain ⟨hsuits, hsized, -⟩ := hsized
    refine ⟨_, representation.readFrom stack hfits, fun profile output => ?_⟩
    obtain ⟨hvariant, hagent⟩ :=
      entity.variant_fits (representation.formats_fits stack hsuits hsized hfits) profile
    have hpayload : (CreatePayload.mk base
        (entity.variant (representation.formats stack))).Fits profile := ⟨hbase, hvariant⟩
    exact (yields_createPayload hpayload hagent output).readAs hwidth hlaid rfl
  | delete => exact (yields_baseObjectRequest hbase).readAs hwidth hlaid rfl
  | writeData data =>
    refine hlaid.data ?_
    simp [BaseObjectRequest.fields, Packed, FieldType.PackedAt, Field.type]
  | reply sampleId data =>
    obtain ⟨hrequest, hobject⟩ := hbase
    obtain ⟨⟨hguid, hkey⟩, -⟩ := hsized
    rw [fields, ← List.append_assoc] at hlaid
    refine hlaid.data ?_
    simp [BaseObjectRequest.fields, SampleIdentity.fields, Packed, FieldType.PackedAt, Field.type,
      FieldType.size, FieldType.last, hrequest, hobject, hguid, hkey]
  | readData dataStreamId control =>
    exact (yields_readDataPayload hbase dataStreamId control).readAs hwidth hlaid rfl

end

end XrceClient
