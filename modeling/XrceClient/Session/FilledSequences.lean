import XrceClient.Session.SampleFormats

/-!
# What the deserializers put in their sequences

A deserializer writes the items of a sequence in an array of its output, one after the other, while
it reads them; what it has written stays there when it fails. Here are the deserializers under which
there is a sequence, with a record of what each call of a reader of sequences did with its array.

- `SequenceField`: the arrays, with the capacities with which `xrce_types.h` declares them.
- `Fill`: what one call did with one array.
- `Filling`: a deserializer with its record. `Filling.erase` is the deserializer without it, and
  `erase_…` says that this is the one of the source.

Bytes are moved one after the other (`Gets`), so a reader of bytes that comes to the end of the
buffer has moved those in front of it. An item of another sequence is written by the call of its
deserializer, whether this one succeeds or not.
-/

namespace XrceClient

open ByteMemory

/-! ## Arrays -/

/-- The arrays of the types in `xrce_types.h` that a deserializer fills. -/
inductive SequenceField where
  | representation
  | groupData
  | userData
  | partitions
  | properties
  | addresses
  | sampleData
  | sampleDataSeq
  | sampleSeq
  | sampleDeltaSeq
  | samplePackedSeq
  deriving DecidableEq

/-- The number of the elements that the array is declared with: those of `BinarySequence_t`,
`BinarySequenceSmall_t`, `StringSequence_t` and the others. -/
def SequenceField.capacity (profile : BuildProfile) : SequenceField → Nat
  | representation => binarySequenceMax
  | groupData => binarySequenceMax
  | userData => binarySequenceSmallMax
  | partitions => stringSequenceMax
  | properties => profile.propertySequenceMax
  | addresses => transportLocatorSequenceMax
  | sampleData => sampleDataSizeMax
  | sampleDataSeq => sampleDataSequenceMax
  | sampleSeq => sampleSequenceMax
  | sampleDeltaSeq => sampleDeltaSequenceMax
  | samplePackedSeq => packedSamplesSequenceMax

/-- What a reader of sequences did with an array: the size that it read, if it could read it, how
many elements it wrote, and its result. -/
structure Fill where
  field : SequenceField
  size : Option Nat
  written : Nat
  filled : Bool
  deriving DecidableEq

/-- No more elements were written than there are in the array, and a size was accepted only if
it is no more than that. -/
def Fill.Respects (profile : BuildProfile) (fill : Fill) : Prop :=
  fill.written ≤ fill.field.capacity profile ∧
    (fill.filled = true → ∀ size ∈ fill.size, size ≤ fill.field.capacity profile)

/-! ## Deserializers with a record -/

/-- A deserializer, with what was done with the arrays of its output. -/
def Filling (α : Type) := Memory × UcdrBuffer → α × (Memory × UcdrBuffer) × List Fill

namespace Filling

variable {α β : Type}

instance : Monad Filling where
  pure a := fun s => (a, s, [])
  bind q g := fun s =>
    let (a, s₁, fills) := q s
    let (b, s₂, fills') := g a s₁
    (b, s₂, fills ++ fills')

/-- The deserializer without the record. -/
def erase (q : Filling α) : StateM (Memory × UcdrBuffer) α := fun s => ((q s).1, (q s).2.1)

/-- The record. -/
def fills (q : Filling α) (s : Memory × UcdrBuffer) : List Fill := (q s).2.2

/-- A deserializer without sequences. -/
def plain (p : StateM (Memory × UcdrBuffer) α) : Filling α := fun s =>
  let (a, s') := p.run s
  (a, s', [])

/-- The record goes on. -/
def record (fill : Fill) : Filling PUnit := fun s => (⟨⟩, s, [fill])

@[simp] theorem erase_pure (a : α) : (pure a : Filling α).erase = pure a := rfl

@[simp] theorem erase_bind (q : Filling α) (g : α → Filling β) :
    (q >>= g).erase = q.erase >>= fun a => (g a).erase := rfl

@[simp] theorem erase_map (f : α → β) (q : Filling α) : (f <$> q).erase = f <$> q.erase := rfl

@[simp] theorem erase_plain (p : StateM (Memory × UcdrBuffer) α) : (plain p).erase = p := rfl

@[simp] theorem erase_record (fill : Fill) : (record fill).erase = pure ⟨⟩ := rfl

@[simp] theorem fills_pure (a : α) (s : Memory × UcdrBuffer) : (pure a : Filling α).fills s = [] :=
  rfl

@[simp] theorem fills_bind (q : Filling α) (g : α → Filling β) (s : Memory × UcdrBuffer) :
    (q >>= g).fills s = q.fills s ++ (g (q.erase.run s).1).fills (q.erase.run s).2 := rfl

@[simp] theorem fills_plain (p : StateM (Memory × UcdrBuffer) α) (s : Memory × UcdrBuffer) :
    (plain p).fills s = [] := rfl

@[simp] theorem fills_record (fill : Fill) (s : Memory × UcdrBuffer) :
    (record fill).fills s = [fill] := rfl

@[simp] theorem fills_map (f : α → β) (q : Filling α) (s : Memory × UcdrBuffer) :
    (f <$> q).fills s = q.fills s := List.append_nil _

end Filling

open Filling

/-- The bytes that are moved where `n` bytes are wanted. -/
def UcdrBuffer.moved (ub : UcdrBuffer) (n : Nat) : Nat :=
  if ub.error then 0 else min n (ub.final - ub.iterator)

namespace XrceTypes

variable [MicroCdr]

/-- Bytes in the array of the field, which the reader takes for one of `bound` bytes. -/
def fillSequence (field : SequenceField) (bound : Nat) : Filling (Option (List UInt8)) := fun s =>
  let (size, behind) := (readScalar Device.plain 4).run s
  let (bytes, s') := (deserializeSequence Device.plain bound).run s
  let written := if bound < size.getD 0 then 0 else behind.2.moved (size.getD 0)
  (bytes, s', [{ field, size, written, filled := bytes.isSome }])

/-- The loop in which a sequence is read, with the number of the items that were written. -/
def fillItems {α : Type} (item : Filling (Option α)) : Nat → Filling (Option (List α) × Nat)
  | 0 => return (some [], 0)
  | n + 1 => do
    match ← item with
    | some a =>
      let (rest, written) ← fillItems item n
      return (rest.map (a :: ·), written + 1)
    | none => return (none, 1)

/-- Items in the array of the field, of no more than the given number. -/
def fillSeq {α : Type} (field : SequenceField) (sequenceMax : Nat) (item : Filling (Option α)) :
    Filling (Option (List α)) := do
  let size ← plain (readScalar Device.plain 4)
  if sequenceMax < size.getD 0 then
    plain setError
    record { field, size, written := 0, filled := false }
    return none
  else
    match size with
    | some n =>
      let (items, written) ← fillItems item n
      record { field, size, written, filled := items.isSome }
      return items
    | none =>
      record { field, size, written := 0, filled := false }
      return none

omit [MicroCdr] in
/-- What is behind a flag, if the flag is set. -/
def fillIfSet {α : Type} (flag : Option Nat) (content : Filling (Option α)) (absent : α) :
    Filling (Option α) :=
  if flag.getD 0 ≠ 0 then content else pure (some absent)

/-- A flag, and the optional content behind it. -/
def fillOptional {α : Type} (content : Filling (Option α)) : Filling (Option (Option α)) := do
  let flag ← plain (readScalar Device.plain 1)
  let content ← fillIfSet flag (Option.map some <$> content) none
  return flag.bind fun _ => content

/-! ## Objects -/

/-- `uxr_deserialize_PropertySeq`. -/
def fillPropertySeq (profile : BuildProfile) : Filling (Option (List Property)) :=
  fillSeq .properties profile.propertySequenceMax (plain (deserializeProperty Device.plain))

/-- `uxr_deserialize_CLIENT_Representation`. -/
def fillCreateClientPayload (profile : BuildProfile) : Filling (Option ClientRepresentation) := do
  let xrceCookie ← plain (readArray Device.plain 4)
  let xrceVersion ← plain (readArray Device.plain 2)
  let xrceVendorId ← plain (readArray Device.plain 2)
  let clientKey ← plain (readArray Device.plain 4)
  let sessionId ← plain (readScalar Device.plain 1)
  let optionalProperties ← plain (readScalar Device.plain 1)
  let properties ← fillIfSet optionalProperties (fillPropertySeq profile) []
  let mtu ← plain (readScalar Device.plain 2)
  return do
    let xrceCookie ← xrceCookie
    let xrceVersion ← xrceVersion
    let xrceVendorId ← xrceVendorId
    let clientKey ← clientKey
    let sessionId ← sessionId
    let optionalProperties ← optionalProperties
    let properties ← properties
    let mtu ← mtu
    some {
      xrceCookie, xrceVersion, xrceVendorId, clientKey
      sessionId := UInt8.ofNat sessionId
      optionalProperties := optionalProperties ≠ 0
      properties
      mtu := UInt16.ofNat mtu }

/-- The representations in three, or in two, formats. -/
def fillFormats (family : FormatFamily) : Filling (Option RepresentationFormats) := do
  match ← plain (readScalar Device.plain 1) with
  | some 1 =>
    if family.byReference then
      let reference ← plain (deserializeString Device.plain)
      return reference.map .byReference
    else
      return some (.other 1)
  | some 2 =>
    let xml ← plain (deserializeString Device.plain)
    return xml.map .asXmlString
  | some 3 =>
    if family.inBinary then
      let bytes ← fillSequence .representation binarySequenceMax
      return bytes.map .inBinary
    else
      return some (.other 3)
  | some format => return some (.other (UInt8.ofNat format))
  | none => return none

/-- `uxr_deserialize_OBJK_PARTICIPANT_Representation`. -/
def fillParticipantRepresentation : Filling (Option ObjectVariant) := do
  let base ← fillFormats representation3Formats
  let domainId ← plain (readScalar Device.plain 2)
  return do
    let base ← base
    let domainId ← domainId
    some (.participant base (UInt16.ofNat domainId).toInt16)

/-- A representation with the identifier of another object behind it. -/
def fillWithObjectId (family : FormatFamily)
    (variant : RepresentationFormats → List UInt8 → ObjectVariant) :
    Filling (Option ObjectVariant) := do
  let base ← fillFormats family
  let objectId ← plain (readArray Device.plain 2)
  return do
    let base ← base
    let objectId ← objectId
    some (variant base objectId)

/-- `uxr_deserialize_ObjectVariant`. -/
def fillObjectVariant (profile : BuildProfile) (output : List Property) :
    Filling (Option ObjectVariant) := do
  match ← plain (readScalar Device.plain 1) with
  | some 0x0D => Option.map .agent <$> plain (deserializeAgentRepresentation Device.plain output)
  | some 0x0E => Option.map .client <$> fillCreateClientPayload profile
  | some 0x0C => Option.map .application <$> fillFormats representationRefAndXmlFormats
  | some 0x01 => fillParticipantRepresentation
  | some 0x0B => Option.map .qosProfile <$> fillFormats representationRefAndXmlFormats
  | some 0x0A => Option.map .type <$> fillFormats representationRefAndXmlFormats
  | some 0x02 => fillWithObjectId representation3Formats .topic
  | some 0x03 => fillWithObjectId representationBinAndXmlFormats .publisher
  | some 0x04 => fillWithObjectId representationBinAndXmlFormats .subscriber
  | some 0x05 => fillWithObjectId representation3Formats .dataWriter
  | some 0x06 => fillWithObjectId representation3Formats .dataReader
  | some 0x07 => fillWithObjectId representation3Formats .requester
  | some 0x08 => fillWithObjectId representation3Formats .replier
  | some kind => return some (.other (UInt8.ofNat kind))
  | none => return none

/-- `uxr_deserialize_TransportLocatorSeq`. -/
def fillTransportLocatorSeq : Filling (Option (List TransportLocator)) :=
  fillSeq .addresses transportLocatorSequenceMax (plain (deserializeTransportLocator Device.plain))

/-- `uxr_deserialize_AGENT_ActivityInfo`. -/
def fillAgentActivityInfo : Filling (Option ActivityInfoVariant) := do
  let availability ← plain (readScalar Device.plain 2)
  let addressSeq ← fillTransportLocatorSeq
  return do
    let availability ← availability
    let addressSeq ← addressSeq
    some (.agent (UInt16.ofNat availability).toInt16 addressSeq)

/-- `uxr_deserialize_ActivityInfoVariant`. -/
def fillActivityInfoVariant : Filling (Option ActivityInfoVariant) := do
  match ← plain (readScalar Device.plain 1) with
  | some 0x0D => fillAgentActivityInfo
  | some 0x05 => plain (deserializeDataWriterActivityInfo Device.plain)
  | some 0x06 => plain (deserializeDataReaderActivityInfo Device.plain)
  | some kind => return some (.other (UInt8.ofNat kind))
  | none => return none

/-- `uxr_deserialize_ObjectInfo`. -/
def fillObjectInfo (profile : BuildProfile) (output : List Property) :
    Filling (Option ObjectInfo) := do
  let config ← fillOptional (fillObjectVariant profile output)
  let activity ← fillOptional fillActivityInfoVariant
  return do
    let config ← config
    let activity ← activity
    some { config, activity }

/-- `uxr_deserialize_CREATE_Payload`. -/
def fillCreatePayload (profile : BuildProfile) (output : List Property) :
    Filling (Option CreatePayload) := do
  let base ← plain (deserializeBaseObjectRequest Device.plain)
  let objectRepresentation ← fillObjectVariant profile output
  return do
    let base ← base
    let objectRepresentation ← objectRepresentation
    some { base, objectRepresentation }

/-- `uxr_deserialize_INFO_Payload`. -/
def fillInfoPayload (profile : BuildProfile) (output : List Property) :
    Filling (Option InfoPayload) := do
  let base ← plain (deserializeBaseObjectReply Device.plain)
  let objectInfo ← fillObjectInfo profile output
  return do
    let base ← base
    let objectInfo ← objectInfo
    some { base, objectInfo }

/-! ## Objects in binary -/

/-- `uxr_deserialize_StringSequence_t`. The array has pointers, behind which the strings are. -/
def fillStringSequence : Filling (Option (List (List UInt8))) :=
  fillSeq .partitions stringSequenceMax (plain (deserializeString Device.plain))

/-- The quality of service of publishers and subscribers. -/
def fillGroupBinaryQos : Filling (Option GroupBinaryQos) := do
  let partitions ← fillOptional fillStringSequence
  let groupData ← fillOptional (fillSequence .groupData binarySequenceMax)
  return do
    let partitions ← partitions
    let groupData ← groupData
    some { partitions, groupData }

/-- `uxr_deserialize_OBJK_Publisher_Binary` and `uxr_deserialize_OBJK_Subscriber_Binary`. -/
def fillGroupBinary : Filling (Option GroupBinary) := do
  let name ← plain (deserializeOptional Device.plain (deserializeString Device.plain))
  let qos ← fillOptional fillGroupBinaryQos
  return do
    let name ← name
    let qos ← qos
    some { name, qos }

/-- `uxr_deserialize_OBJK_Endpoint_QosBinary`: the user data are read with the bound of a
`BinarySequence_t`. -/
def fillEndpointQosBinary : Filling (Option EndpointQosBinary) := do
  let qosFlags ← plain (deserializeUint16 Device.plain)
  let historyDepth ← plain (deserializeOptional Device.plain (deserializeUint16 Device.plain))
  let deadlineMsec ← plain (deserializeOptional Device.plain (deserializeUint32 Device.plain))
  let lifespanMsec ← plain (deserializeOptional Device.plain (deserializeUint32 Device.plain))
  let userData ← fillOptional (fillSequence .userData binarySequenceMax)
  return do
    let qosFlags ← qosFlags
    let historyDepth ← historyDepth
    let deadlineMsec ← deadlineMsec
    let lifespanMsec ← lifespanMsec
    let userData ← userData
    some { qosFlags, historyDepth, deadlineMsec, lifespanMsec, userData }

/-- `uxr_deserialize_OBJK_DataWriter_Binary_Qos`. -/
def fillDataWriterBinaryQos : Filling (Option DataWriterBinaryQos) := do
  let base ← fillEndpointQosBinary
  let ownershipStrength ← plain (deserializeOptional Device.plain (deserializeUint64 Device.plain))
  return do
    let base ← base
    let ownershipStrength ← ownershipStrength
    some { base, ownershipStrength }

/-- `uxr_deserialize_OBJK_DataReader_Binary_Qos`. -/
def fillDataReaderBinaryQos : Filling (Option DataReaderBinaryQos) := do
  let base ← fillEndpointQosBinary
  let timebasedfilterMsec ←
    plain (deserializeOptional Device.plain (deserializeUint64 Device.plain))
  let contentbasedFilter ← plain (deserializeOptional Device.plain (deserializeString Device.plain))
  return do
    let base ← base
    let timebasedfilterMsec ← timebasedfilterMsec
    let contentbasedFilter ← contentbasedFilter
    some { base, timebasedfilterMsec, contentbasedFilter }

/-- `uxr_deserialize_OBJK_DataReader_Binary`. -/
def fillDataReaderBinary : Filling (Option DataReaderBinary) := do
  let topicId ← plain (readArray Device.plain 2)
  let qos ← fillOptional fillDataReaderBinaryQos
  return do
    let topicId ← topicId
    let qos ← qos
    some { topicId, qos }

/-- `uxr_deserialize_OBJK_DataWriter_Binary`. -/
def fillDataWriterBinary : Filling (Option DataWriterBinary) := do
  let topicId ← plain (readArray Device.plain 2)
  let qos ← fillOptional fillDataWriterBinaryQos
  return do
    let topicId ← topicId
    let qos ← qos
    some { topicId, qos }

/-! ## Samples -/

/-- `uxr_deserialize_SampleData`. -/
def fillSampleData : Filling (Option (List UInt8)) := fillSequence .sampleData sampleDataSizeMax

/-- `uxr_deserialize_SampleDataSeq`. -/
def fillSampleDataSeq : Filling (Option (List (List UInt8))) :=
  fillSeq .sampleDataSeq sampleDataSequenceMax fillSampleData

/-- `uxr_deserialize_Sample`. -/
def fillSample : Filling (Option Sample) := do
  let info ← plain (deserializeSampleInfo Device.plain)
  let data ← fillSampleData
  return do
    let info ← info
    let data ← data
    some { info, data }

/-- `uxr_deserialize_SampleSeq`. -/
def fillSampleSeq : Filling (Option (List Sample)) :=
  fillSeq .sampleSeq sampleSequenceMax fillSample

/-- `uxr_deserialize_SampleDelta`. -/
def fillSampleDelta : Filling (Option SampleDelta) := do
  let infoDelta ← plain (deserializeSampleInfoDelta Device.plain)
  let data ← fillSampleData
  return do
    let infoDelta ← infoDelta
    let data ← data
    some { infoDelta, data }

/-- `uxr_deserialize_SampleDeltaSequence`. -/
def fillSampleDeltaSequence : Filling (Option (List SampleDelta)) :=
  fillSeq .sampleDeltaSeq sampleDeltaSequenceMax fillSampleDelta

/-- `uxr_deserialize_PackedSamples`. -/
def fillPackedSamples : Filling (Option PackedSamples) := do
  let infoBase ← plain (deserializeSampleInfo Device.plain)
  let sampleDeltaSeq ← fillSampleDeltaSequence
  return do
    let infoBase ← infoBase
    let sampleDeltaSeq ← sampleDeltaSeq
    some { infoBase, sampleDeltaSeq }

/-- `uxr_deserialize_SamplePackedSeq`. -/
def fillSamplePackedSeq : Filling (Option (List PackedSamples)) :=
  fillSeq .samplePackedSeq packedSamplesSequenceMax fillPackedSamples

/-- `uxr_deserialize_DataRepresentation`. -/
def fillDataRepresentation : Filling (Option DataRepresentation) := do
  match ← plain (deserializeUint8 Device.plain) with
  | some 0x00 => Option.map .data <$> fillSampleData
  | some 0x02 => Option.map .sample <$> fillSample
  | some 0x08 => Option.map .dataSeq <$> fillSampleDataSeq
  | some 0x0A => Option.map .sampleSeq <$> fillSampleSeq
  | some 0x0E => Option.map .packedSamples <$> fillPackedSamples
  | some format => return some (.other format)
  | none => return none

/-- `uxr_deserialize_WRITE_DATA_Payload_Sample` and the others with data, and the same of DATA. -/
def fillDataPayload {α : Type} (content : Filling (Option α)) :
    Filling (Option (DataPayload α)) := do
  let base ← plain (deserializeBaseObjectRequest Device.plain)
  let content ← content
  return do
    let base ← base
    let content ← content
    some { base, content }

/-! ## Without the record -/

@[simp] theorem erase_fillSequence (field : SequenceField) (bound : Nat) :
    (fillSequence field bound).erase = deserializeSequence Device.plain bound := rfl

omit [MicroCdr] in
theorem erase_fillItems {α : Type} (item : Filling (Option α)) (n : Nat) :
    Prod.fst <$> (fillItems item n).erase = deserializeItems item.erase n := by
  induction n with
  | zero => rfl
  | succ n ih =>
    rw [fillItems, deserializeItems, erase_bind, map_bind]
    refine bind_congr fun result => ?_
    cases result with
    | none => rfl
    | some a =>
      rw [← ih]
      rfl

@[simp] theorem erase_fillSeq {α : Type} (field : SequenceField) (sequenceMax : Nat)
    (item : Filling (Option α)) :
    (fillSeq field sequenceMax item).erase = deserializeSeq Device.plain sequenceMax item.erase := by
  rw [fillSeq, deserializeSeq, erase_bind]
  refine bind_congr fun size => ?_
  by_cases hmax : sequenceMax < size.getD 0
  · rw [if_pos hmax, if_pos hmax]
    rfl
  · rw [if_neg hmax, if_neg hmax]
    cases size with
    | none => rfl
    | some n =>
      show _ = deserializeItems item.erase n
      rw [← erase_fillItems]
      rfl

omit [MicroCdr] in
@[simp] theorem erase_fillIfSet {α : Type} (flag : Option Nat) (content : Filling (Option α))
    (absent : α) : (fillIfSet flag content absent).erase = ifSet flag content.erase absent := by
  rw [fillIfSet, ifSet]
  split <;> rfl

@[simp] theorem erase_fillOptional {α : Type} (content : Filling (Option α)) :
    (fillOptional content).erase = deserializeOptional Device.plain content.erase := by
  simp only [fillOptional, deserializeOptional, erase_bind, erase_plain, erase_fillIfSet]
  rfl

@[simp] theorem erase_fillCreateClientPayload (profile : BuildProfile) :
    (fillCreateClientPayload profile).erase =
      deserializeCreateClientPayload Device.plain profile := by
  simp only [fillCreateClientPayload, fillPropertySeq, deserializeCreateClientPayload,
    deserializePropertySeq, erase_bind, erase_plain, erase_fillIfSet, erase_fillSeq, erase_pure]

@[simp] theorem erase_fillFormats (family : FormatFamily) :
    (fillFormats family).erase = deserializeFormats Device.plain family := by
  rw [fillFormats, deserializeFormats, erase_bind]
  refine bind_congr fun format => ?_
  split
  · split <;> rfl
  · rfl
  · split <;> rfl
  · simp_all
  · rfl

@[simp] theorem erase_fillWithObjectId (family : FormatFamily)
    (variant : RepresentationFormats → List UInt8 → ObjectVariant) :
    (fillWithObjectId family variant).erase =
      deserializeWithObjectId Device.plain family variant := by
  simp only [fillWithObjectId, deserializeWithObjectId, erase_bind, erase_plain,
    erase_fillFormats, erase_pure]

@[simp] theorem erase_fillParticipantRepresentation :
    fillParticipantRepresentation.erase = deserializeParticipantRepresentation Device.plain := by
  simp only [fillParticipantRepresentation, deserializeParticipantRepresentation, erase_bind,
    erase_plain, erase_fillFormats, erase_pure]

@[simp] theorem erase_fillObjectVariant (profile : BuildProfile) (output : List Property) :
    (fillObjectVariant profile output).erase =
      deserializeObjectVariant Device.plain profile output := by
  rw [fillObjectVariant, deserializeObjectVariant, erase_bind]
  refine bind_congr fun kind => ?_
  split
  case h_14 => simp_all
  case h_15 => rfl
  all_goals
    simp only [erase_map, erase_plain, erase_fillCreateClientPayload, erase_fillFormats,
      erase_fillParticipantRepresentation, erase_fillWithObjectId,
      deserializeApplicationRepresentation, deserializeQosProfileRepresentation,
      deserializeTypeRepresentation, deserializeTopicRepresentation,
      deserializePublisherRepresentation, deserializeSubscriberRepresentation,
      deserializeDataWriterRepresentation, deserializeDataReaderRepresentation,
      deserializeRequesterRepresentation, deserializeReplierRepresentation]

@[simp] theorem erase_fillAgentActivityInfo :
    fillAgentActivityInfo.erase = deserializeAgentActivityInfo Device.plain := by
  simp only [fillAgentActivityInfo, deserializeAgentActivityInfo, fillTransportLocatorSeq,
    deserializeTransportLocatorSeq, erase_bind, erase_plain, erase_fillSeq, erase_pure]

@[simp] theorem erase_fillActivityInfoVariant :
    fillActivityInfoVariant.erase = deserializeActivityInfoVariant Device.plain := by
  rw [fillActivityInfoVariant, deserializeActivityInfoVariant, erase_bind]
  refine bind_congr fun kind => ?_
  split
  · exact erase_fillAgentActivityInfo
  · rfl
  · rfl
  · simp_all
  · rfl

@[simp] theorem erase_fillObjectInfo (profile : BuildProfile) (output : List Property) :
    (fillObjectInfo profile output).erase =
      deserializeObjectInfo Device.plain profile output := by
  simp [fillObjectInfo, deserializeObjectInfo]

theorem erase_fillCreatePayload (profile : BuildProfile) (output : List Property) :
    (fillCreatePayload profile output).erase =
      deserializeCreatePayload Device.plain profile output := by
  simp [fillCreatePayload, deserializeCreatePayload]

theorem erase_fillInfoPayload (profile : BuildProfile) (output : List Property) :
    (fillInfoPayload profile output).erase =
      deserializeInfoPayload Device.plain profile output := by
  simp [fillInfoPayload, deserializeInfoPayload]

@[simp] theorem erase_fillStringSequence :
    fillStringSequence.erase = deserializeStringSequence Device.plain :=
  erase_fillSeq _ _ _

@[simp] theorem erase_fillGroupBinaryQos :
    fillGroupBinaryQos.erase = deserializeGroupBinaryQos Device.plain := by
  simp [fillGroupBinaryQos, deserializeGroupBinaryQos, deserializeBinarySequence]

theorem erase_fillGroupBinary : fillGroupBinary.erase = deserializeGroupBinary Device.plain := by
  simp [fillGroupBinary, deserializeGroupBinary]

@[simp] theorem erase_fillEndpointQosBinary :
    fillEndpointQosBinary.erase = deserializeEndpointQosBinary Device.plain := by
  simp [fillEndpointQosBinary, deserializeEndpointQosBinary, deserializeBinarySequence]

@[simp] theorem erase_fillDataWriterBinaryQos :
    fillDataWriterBinaryQos.erase = deserializeDataWriterBinaryQos Device.plain := by
  simp [fillDataWriterBinaryQos, deserializeDataWriterBinaryQos]

@[simp] theorem erase_fillDataReaderBinaryQos :
    fillDataReaderBinaryQos.erase = deserializeDataReaderBinaryQos Device.plain := by
  simp [fillDataReaderBinaryQos, deserializeDataReaderBinaryQos]

theorem erase_fillDataWriterBinary :
    fillDataWriterBinary.erase = deserializeDataWriterBinary Device.plain := by
  simp [fillDataWriterBinary, deserializeDataWriterBinary]

theorem erase_fillDataReaderBinary :
    fillDataReaderBinary.erase = deserializeDataReaderBinary Device.plain := by
  simp [fillDataReaderBinary, deserializeDataReaderBinary]

@[simp] theorem erase_fillSampleData :
    fillSampleData.erase = deserializeSampleData Device.plain := rfl

@[simp] theorem erase_fillSampleDataSeq :
    fillSampleDataSeq.erase = deserializeSampleDataSeq Device.plain :=
  erase_fillSeq _ _ _

@[simp] theorem erase_fillSample : fillSample.erase = deserializeSample Device.plain := rfl

@[simp] theorem erase_fillSampleSeq :
    fillSampleSeq.erase = deserializeSampleSeq Device.plain :=
  erase_fillSeq _ _ _

@[simp] theorem erase_fillSampleDelta :
    fillSampleDelta.erase = deserializeSampleDelta Device.plain := rfl

@[simp] theorem erase_fillSampleDeltaSequence :
    fillSampleDeltaSequence.erase = deserializeSampleDeltaSequence Device.plain :=
  erase_fillSeq _ _ _

@[simp] theorem erase_fillPackedSamples :
    fillPackedSamples.erase = deserializePackedSamples Device.plain := by
  simp [fillPackedSamples, deserializePackedSamples]

@[simp] theorem erase_fillSamplePackedSeq :
    fillSamplePackedSeq.erase = deserializeSamplePackedSeq Device.plain := by
  rw [fillSamplePackedSeq, erase_fillSeq, erase_fillPackedSamples]
  rfl

@[simp] theorem erase_fillDataRepresentation :
    fillDataRepresentation.erase = deserializeDataRepresentation Device.plain := by
  rw [fillDataRepresentation, deserializeDataRepresentation, erase_bind]
  refine bind_congr fun format => ?_
  split
  case h_6 => simp_all
  case h_7 => rfl
  all_goals
    simp only [erase_map, erase_fillSampleData, erase_fillSample, erase_fillSampleDataSeq,
      erase_fillSampleSeq, erase_fillPackedSamples]

@[simp] theorem erase_fillDataPayload {α : Type} (content : Filling (Option α)) :
    (fillDataPayload content).erase = deserializeDataPayload Device.plain content.erase := rfl

end XrceTypes

end XrceClient
