import XrceClient.Session.BinaryObjects
import XrceClient.Session.AcceptedValues

/-!
# Objects in binary round trip

- `….fields`, `….Fits`: the fields of a value, and the values that the types of the source have
  room for.
- `serializes_…`, `decodes_…`: the serializer of each type writes the fields, and its deserializer
  reads the value from them and from no strict prefix of them.
- `binary_objects_round_trip`: all of the representations in binary.
-/

namespace XrceClient

open ByteMemory

/-! ## Fields -/

/-- The fields of bytes, with their number. -/
def binaryFields (bytes : List UInt8) : List Field := [.scalar 4 bytes.length, .array bytes]

namespace DomainParticipantBinary

variable (participant : DomainParticipantBinary)

def fields : List Field :=
  optionalFields stringFields participant.domainReference ++
    optionalFields stringFields participant.qosProfileReference

def Fits : Prop :=
  OptionFits StringFits participant.domainReference ∧
    OptionFits StringFits participant.qosProfileReference

end DomainParticipantBinary

namespace TopicBinary

variable (topic : TopicBinary)

def fields : List Field :=
  stringFields topic.topicName ++ (optionalFields stringFields topic.typeReference ++
    optionalFields stringFields topic.typeName)

def Fits : Prop :=
  StringFits topic.topicName ∧ OptionFits StringFits topic.typeReference ∧
    OptionFits StringFits topic.typeName

end TopicBinary

namespace GroupBinaryQos

variable (qos : GroupBinaryQos)

def fields : List Field :=
  optionalFields (sequenceFields stringFields) qos.partitions ++
    optionalFields binaryFields qos.groupData

def Fits : Prop :=
  OptionFits (fun partitions => partitions.length ≤ stringSequenceMax ∧
    ∀ partition ∈ partitions, StringFits partition) qos.partitions ∧
  OptionFits (fun groupData => groupData.length ≤ binarySequenceMax) qos.groupData

end GroupBinaryQos

namespace GroupBinary

variable (group : GroupBinary)

def fields : List Field :=
  optionalFields stringFields group.name ++ optionalFields GroupBinaryQos.fields group.qos

def Fits : Prop := OptionFits StringFits group.name ∧ OptionFits GroupBinaryQos.Fits group.qos

end GroupBinary

/-- The field of an integer with two bytes. -/
def uint16Fields (n : UInt16) : List Field := [.scalar 2 n.toNat]

def uint32Fields (n : UInt32) : List Field := [.scalar 4 n.toNat]

def uint64Fields (n : UInt64) : List Field := [.scalar 8 n.toNat]

namespace EndpointQosBinary

variable (qos : EndpointQosBinary)

def fields : List Field :=
  uint16Fields qos.qosFlags ++ (optionalFields uint16Fields qos.historyDepth ++
    (optionalFields uint32Fields qos.deadlineMsec ++
      (optionalFields uint32Fields qos.lifespanMsec ++ optionalFields binaryFields qos.userData)))

/-- The user data have the room of a `BinarySequenceSmall_t`. -/
def Fits : Prop :=
  OptionFits (fun userData => userData.length ≤ binarySequenceSmallMax) qos.userData

end EndpointQosBinary

namespace DataWriterBinaryQos

variable (qos : DataWriterBinaryQos)

def fields : List Field :=
  qos.base.fields ++ optionalFields uint64Fields qos.ownershipStrength

def Fits : Prop := qos.base.Fits

end DataWriterBinaryQos

namespace DataReaderBinaryQos

variable (qos : DataReaderBinaryQos)

def fields : List Field :=
  qos.base.fields ++ (optionalFields uint64Fields qos.timebasedfilterMsec ++
    optionalFields stringFields qos.contentbasedFilter)

def Fits : Prop := qos.base.Fits ∧ OptionFits StringFits qos.contentbasedFilter

end DataReaderBinaryQos

namespace DataWriterBinary

variable (writer : DataWriterBinary)

def fields : List Field :=
  [.array writer.topicId] ++ optionalFields DataWriterBinaryQos.fields writer.qos

def Fits : Prop := writer.topicId.length = 2 ∧ OptionFits DataWriterBinaryQos.Fits writer.qos

end DataWriterBinary

namespace DataReaderBinary

variable (reader : DataReaderBinary)

def fields : List Field :=
  [.array reader.topicId] ++ optionalFields DataReaderBinaryQos.fields reader.qos

def Fits : Prop := reader.topicId.length = 2 ∧ OptionFits DataReaderBinaryQos.Fits reader.qos

end DataReaderBinary

namespace RequestReplyBinary

variable (service : RequestReplyBinary)

def fields : List Field :=
  stringFields service.serviceName ++ (stringFields service.requestType ++
    (stringFields service.replyType ++ (optionalFields stringFields service.requestTopicName ++
      optionalFields stringFields service.replyTopicName)))

def Fits : Prop :=
  StringFits service.serviceName ∧ StringFits service.requestType ∧
    StringFits service.replyType ∧ OptionFits StringFits service.requestTopicName ∧
      OptionFits StringFits service.replyTopicName

end RequestReplyBinary

/-! ## Parts -/

namespace XrceTypes

section

variable [MicroCdr] {α : Type}

theorem serializes_optional {content : Memory → UcdrBuffer → α → Bool × Memory × UcdrBuffer}
    {contentFields : α → List Field} (value : Option α)
    (h : ∀ a, Serializes (fun m ub => content m ub a) (contentFields a)) :
    Serializes (fun m ub => serializeOptional Device.plain content m ub value)
      (optionalFields contentFields value) := by
  have hflag : Serializes _ [.scalar 1 value.isSome.toNat] := serializes_scalar 1 _ (by simp)
  cases value with
  | none => exact hflag.and serializes_nothing
  | some a => exact hflag.and (h a)

theorem serializes_items {item : Memory → UcdrBuffer → α → Bool × Memory × UcdrBuffer}
    {itemFields : α → List Field} (items : List α)
    (h : ∀ a, Serializes (fun m ub => item m ub a) (itemFields a)) :
    Serializes (fun m ub => serializeItems item items m ub) (items.flatMap itemFields) := by
  induction items with
  | nil => exact serializes_nothing
  | cons a items ih =>
    exact (h a).andThen ih fun hcall => by rw [serializeItems, hcall]

theorem serializes_seq {item : Memory → UcdrBuffer → α → Bool × Memory × UcdrBuffer}
    {itemFields : α → List Field} (items : List α)
    (h : ∀ a, Serializes (fun m ub => item m ub a) (itemFields a)) :
    Serializes (fun m ub => serializeSeq Device.plain item m ub items)
      (sequenceFields itemFields items) :=
  (serializes_scalar 4 _ (by simp)).andThen (serializes_items items h) fun hcall => by
    rw [serializeSeq, hcall]

theorem serializes_uint16 (n : UInt16) :
    Serializes (fun m ub => serializeUint16 Device.plain m ub n) (uint16Fields n) :=
  serializes_scalar 2 _ (by simp)

theorem serializes_uint32 (n : UInt32) :
    Serializes (fun m ub => serializeUint32 Device.plain m ub n) (uint32Fields n) :=
  serializes_scalar 4 _ (by simp)

theorem serializes_uint64 (n : UInt64) :
    Serializes (fun m ub => serializeUint64 Device.plain m ub n) (uint64Fields n) :=
  serializes_scalar 8 _ (by simp)

end

section

variable [MicroCdr] [BoundedMicroCdr]

theorem decodes_deserializeUint16 (n : UInt16) :
    Decodes (deserializeUint16 Device.plain) n (uint16Fields n) := by
  have hread := (decodes_uint16 n).map UInt16.ofNat
  rw [UInt16.ofNat_toNat] at hread
  exact hread

theorem decodes_deserializeUint32 (n : UInt32) :
    Decodes (deserializeUint32 Device.plain) n (uint32Fields n) := by
  have hread := (decodes_uint32 n).map UInt32.ofNat
  rw [UInt32.ofNat_toNat] at hread
  exact hread

theorem decodes_deserializeUint64 (n : UInt64) :
    Decodes (deserializeUint64 Device.plain) n (uint64Fields n) := by
  have hread := (decodes_uint64 n).map UInt64.ofNat
  rw [UInt64.ofNat_toNat] at hread
  exact hread

theorem decodes_binarySequence {bytes : List UInt8} (hle : bytes.length ≤ binarySequenceMax) :
    Decodes (deserializeBinarySequence Device.plain) bytes (binaryFields bytes) :=
  decodes_sequence hle (by decide)

theorem decodes_optionalString {string : Option (List UInt8)} (hfits : OptionFits StringFits string) :
    Decodes (deserializeOptional Device.plain (deserializeString Device.plain)) string
      (optionalFields stringFields string) :=
  decodes_optional fun a hmem => decodes_string (hfits a hmem)

end

/-! ## What the serializers write -/

section

variable [MicroCdr]

theorem serializes_optionalString (string : Option (List UInt8)) :
    Serializes (fun m ub =>
      serializeOptional Device.plain (ucdrSerializeString Device.plain) m ub string)
      (optionalFields stringFields string) :=
  serializes_optional string serializes_string

theorem serializes_domainParticipantBinary (input : DomainParticipantBinary) :
    Serializes (fun m ub => serializeDomainParticipantBinary Device.plain m ub input)
      input.fields :=
  (serializes_optionalString _).and (serializes_optionalString _)

theorem serializes_topicBinary (input : TopicBinary) :
    Serializes (fun m ub => serializeTopicBinary Device.plain m ub input) input.fields := by
  have hall := ((serializes_string input.topicName).and
    (serializes_optionalString input.typeReference)).and (serializes_optionalString input.typeName)
  rw [List.append_assoc] at hall
  exact hall

theorem serializes_groupBinaryQos (input : GroupBinaryQos) :
    Serializes (fun m ub => serializeGroupBinaryQos Device.plain m ub input) input.fields :=
  (serializes_optional input.partitions fun partitions =>
    serializes_seq partitions serializes_string).and
      (serializes_optional input.groupData serializes_binarySequence)

theorem serializes_groupBinary (input : GroupBinary) :
    Serializes (fun m ub => serializeGroupBinary Device.plain m ub input) input.fields :=
  (serializes_optionalString _).and (serializes_optional input.qos serializes_groupBinaryQos)

theorem serializes_endpointQosBinary (input : EndpointQosBinary) :
    Serializes (fun m ub => serializeEndpointQosBinary Device.plain m ub input) input.fields := by
  have hall := ((((serializes_uint16 input.qosFlags).and
    (serializes_optional input.historyDepth serializes_uint16)).and
      (serializes_optional input.deadlineMsec serializes_uint32)).and
        (serializes_optional input.lifespanMsec serializes_uint32)).and
          (serializes_optional input.userData serializes_binarySequence)
  simp only [List.append_assoc] at hall
  exact hall

theorem serializes_dataWriterBinaryQos (input : DataWriterBinaryQos) :
    Serializes (fun m ub => serializeDataWriterBinaryQos Device.plain m ub input) input.fields :=
  (serializes_endpointQosBinary input.base).and
    (serializes_optional input.ownershipStrength serializes_uint64)

theorem serializes_dataReaderBinaryQos (input : DataReaderBinaryQos) :
    Serializes (fun m ub => serializeDataReaderBinaryQos Device.plain m ub input)
      input.fields := by
  have hall := ((serializes_endpointQosBinary input.base).and
    (serializes_optional input.timebasedfilterMsec serializes_uint64)).and
      (serializes_optionalString input.contentbasedFilter)
  rw [List.append_assoc] at hall
  exact hall

theorem serializes_dataWriterBinary (input : DataWriterBinary) :
    Serializes (fun m ub => serializeDataWriterBinary Device.plain m ub input) input.fields :=
  (serializes_array _).and (serializes_optional input.qos serializes_dataWriterBinaryQos)

theorem serializes_dataReaderBinary (input : DataReaderBinary) :
    Serializes (fun m ub => serializeDataReaderBinary Device.plain m ub input) input.fields :=
  (serializes_array _).and (serializes_optional input.qos serializes_dataReaderBinaryQos)

theorem serializes_requestReplyBinary (input : RequestReplyBinary) :
    Serializes (fun m ub => serializeRequestReplyBinary Device.plain m ub input)
      input.fields := by
  have hall := ((((serializes_string input.serviceName).and
    (serializes_string input.requestType)).and (serializes_string input.replyType)).and
      (serializes_optionalString input.requestTopicName)).and
        (serializes_optionalString input.replyTopicName)
  simp only [List.append_assoc] at hall
  exact hall

end

/-! ## What the deserializers read -/

section

variable [MicroCdr] [BoundedMicroCdr]

theorem decodes_domainParticipantBinary {input : DomainParticipantBinary} (hfits : input.Fits) :
    Decodes (deserializeDomainParticipantBinary Device.plain) input input.fields := by
  have hdomain := decodes_optionalString hfits.1
  have hqos := decodes_optionalString hfits.2
  exact hdomain.bind (hqos.toReadsWhole.bind_pure rfl rfl) (hqos.broken.bind_pure rfl)

theorem decodes_topicBinary {input : TopicBinary} (hfits : input.Fits) :
    Decodes (deserializeTopicBinary Device.plain) input input.fields := by
  obtain ⟨htopic, hreference, hname⟩ := hfits
  have htopic := decodes_string htopic
  have hreference := decodes_optionalString hreference
  have hname := decodes_optionalString hname
  refine htopic.bind (hreference.andThen (hname.toReadsWhole.bind_pure rfl rfl) ?_) ?_
  · exact hname.broken.bind_pure rfl
  · exact hreference.broken.bind (hname.broken.bind_pure rfl)

theorem decodes_groupBinaryQos {input : GroupBinaryQos} (hfits : input.Fits) :
    Decodes (deserializeGroupBinaryQos Device.plain) input input.fields := by
  have hpartitions : Decodes (deserializeOptional Device.plain
      (deserializeStringSequence Device.plain)) input.partitions
      (optionalFields (sequenceFields stringFields) input.partitions) := by
    refine decodes_optional fun partitions hmem => ?_
    obtain ⟨hlength, hstrings⟩ := hfits.1 partitions hmem
    exact decodes_seq (by decide) hlength fun string hstring =>
      decodes_string (hstrings string hstring)
  have hgroup : Decodes (deserializeOptional Device.plain
      (deserializeBinarySequence Device.plain)) input.groupData
      (optionalFields binaryFields input.groupData) :=
    decodes_optional fun groupData hmem => decodes_binarySequence (hfits.2 groupData hmem)
  exact hpartitions.bind (hgroup.toReadsWhole.bind_pure rfl rfl) (hgroup.broken.bind_pure rfl)

theorem decodes_groupBinary {input : GroupBinary} (hfits : input.Fits) :
    Decodes (deserializeGroupBinary Device.plain) input input.fields := by
  have hname := decodes_optionalString hfits.1
  have hqos : Decodes (deserializeOptional Device.plain
      (deserializeGroupBinaryQos Device.plain)) input.qos _ :=
    decodes_optional fun qos hmem => decodes_groupBinaryQos (hfits.2 qos hmem)
  exact hname.bind (hqos.toReadsWhole.bind_pure rfl rfl) (hqos.broken.bind_pure rfl)

/-- The user data are read with the bound of the larger type; what fits the small one fits it. -/
theorem decodes_endpointQosBinary {input : EndpointQosBinary} (hfits : input.Fits) :
    Decodes (deserializeEndpointQosBinary Device.plain) input input.fields := by
  have hflags := decodes_deserializeUint16 input.qosFlags
  have hdepth : Decodes _ input.historyDepth _ :=
    decodes_optional fun depth _ => decodes_deserializeUint16 depth
  have hdeadline : Decodes _ input.deadlineMsec _ :=
    decodes_optional fun deadline _ => decodes_deserializeUint32 deadline
  have hlifespan : Decodes _ input.lifespanMsec _ :=
    decodes_optional fun lifespan _ => decodes_deserializeUint32 lifespan
  have hdata : Decodes _ input.userData _ :=
    decodes_optional fun userData hmem =>
      decodes_binarySequence (Nat.le_trans (hfits userData hmem) (by decide))
  refine hflags.bind (hdepth.andThen (hdeadline.andThen (hlifespan.andThen
    (hdata.toReadsWhole.bind_pure rfl rfl) ?_) ?_) ?_) ?_
  · exact hdata.broken.bind_pure rfl
  · exact hlifespan.broken.bind (hdata.broken.bind_pure rfl)
  · exact hdeadline.broken.bind (hlifespan.broken.bind (hdata.broken.bind_pure rfl))
  · exact hdepth.broken.bind (hdeadline.broken.bind (hlifespan.broken.bind
      (hdata.broken.bind_pure rfl)))

theorem decodes_dataWriterBinaryQos {input : DataWriterBinaryQos} (hfits : input.Fits) :
    Decodes (deserializeDataWriterBinaryQos Device.plain) input input.fields := by
  have hbase := decodes_endpointQosBinary hfits
  have hstrength : Decodes _ input.ownershipStrength _ :=
    decodes_optional fun strength _ => decodes_deserializeUint64 strength
  exact hbase.bind (hstrength.toReadsWhole.bind_pure rfl rfl) (hstrength.broken.bind_pure rfl)

theorem decodes_dataReaderBinaryQos {input : DataReaderBinaryQos} (hfits : input.Fits) :
    Decodes (deserializeDataReaderBinaryQos Device.plain) input input.fields := by
  have hbase := decodes_endpointQosBinary hfits.1
  have htime : Decodes _ input.timebasedfilterMsec _ :=
    decodes_optional fun msec _ => decodes_deserializeUint64 msec
  have hcontent := decodes_optionalString hfits.2
  refine hbase.bind (htime.andThen (hcontent.toReadsWhole.bind_pure rfl rfl) ?_) ?_
  · exact hcontent.broken.bind_pure rfl
  · exact htime.broken.bind (hcontent.broken.bind_pure rfl)

theorem decodes_dataWriterBinary {input : DataWriterBinary} (hfits : input.Fits) :
    Decodes (deserializeDataWriterBinary Device.plain) input input.fields := by
  have htopic := decodes_bytes hfits.1 (by simp)
  have hqos : Decodes _ input.qos _ :=
    decodes_optional fun qos hmem => decodes_dataWriterBinaryQos (hfits.2 qos hmem)
  exact htopic.bind (hqos.toReadsWhole.bind_pure rfl rfl) (hqos.broken.bind_pure rfl)

theorem decodes_dataReaderBinary {input : DataReaderBinary} (hfits : input.Fits) :
    Decodes (deserializeDataReaderBinary Device.plain) input input.fields := by
  have htopic := decodes_bytes hfits.1 (by simp)
  have hqos : Decodes _ input.qos _ :=
    decodes_optional fun qos hmem => decodes_dataReaderBinaryQos (hfits.2 qos hmem)
  exact htopic.bind (hqos.toReadsWhole.bind_pure rfl rfl) (hqos.broken.bind_pure rfl)

theorem decodes_requestReplyBinary {input : RequestReplyBinary} (hfits : input.Fits) :
    Decodes (deserializeRequestReplyBinary Device.plain) input input.fields := by
  obtain ⟨hservice, hrequest, hreply, hrequestTopic, hreplyTopic⟩ := hfits
  have hservice := decodes_string hservice
  have hrequest := decodes_string hrequest
  have hreply := decodes_string hreply
  have hrequestTopic := decodes_optionalString hrequestTopic
  have hreplyTopic := decodes_optionalString hreplyTopic
  refine hservice.bind (hrequest.andThen (hreply.andThen (hrequestTopic.andThen
    (hreplyTopic.toReadsWhole.bind_pure rfl rfl) ?_) ?_) ?_) ?_
  · exact hreplyTopic.broken.bind_pure rfl
  · exact hrequestTopic.broken.bind (hreplyTopic.broken.bind_pure rfl)
  · exact hreply.broken.bind (hrequestTopic.broken.bind (hreplyTopic.broken.bind_pure rfl))
  · exact hrequest.broken.bind (hreply.broken.bind (hrequestTopic.broken.bind
      (hreplyTopic.broken.bind_pure rfl)))

/-- All representations in binary round trip, and no strict prefix of one is read. -/
theorem binary_objects_round_trip :
    (∀ input : DomainParticipantBinary, input.Fits →
      RoundTripsExactly (serializeDomainParticipantBinary Device.plain)
        (deserializeDomainParticipantBinary Device.plain) input) ∧
    (∀ input : TopicBinary, input.Fits →
      RoundTripsExactly (serializeTopicBinary Device.plain)
        (deserializeTopicBinary Device.plain) input) ∧
    (∀ input : GroupBinary, input.Fits →
      RoundTripsExactly (serializePublisherBinary Device.plain)
        (deserializePublisherBinary Device.plain) input) ∧
    (∀ input : GroupBinary, input.Fits →
      RoundTripsExactly (serializeSubscriberBinary Device.plain)
        (deserializeSubscriberBinary Device.plain) input) ∧
    (∀ input : DataWriterBinary, input.Fits →
      RoundTripsExactly (serializeDataWriterBinary Device.plain)
        (deserializeDataWriterBinary Device.plain) input) ∧
    (∀ input : DataReaderBinary, input.Fits →
      RoundTripsExactly (serializeDataReaderBinary Device.plain)
        (deserializeDataReaderBinary Device.plain) input) ∧
    (∀ input : RequestReplyBinary, input.Fits →
      RoundTripsExactly (serializeRequesterBinary Device.plain)
        (deserializeRequesterBinary Device.plain) input) ∧
    ∀ input : RequestReplyBinary, input.Fits →
      RoundTripsExactly (serializeReplierBinary Device.plain)
        (deserializeReplierBinary Device.plain) input := by
  have hgroup (input : GroupBinary) (hfits : input.Fits) :
      RoundTripsExactly (serializeGroupBinary Device.plain) (deserializeGroupBinary Device.plain)
        input :=
    roundTripsExactly_of_fields (serializes_groupBinary input) (decodes_groupBinary hfits)
  have hservice (input : RequestReplyBinary) (hfits : input.Fits) :
      RoundTripsExactly (serializeRequestReplyBinary Device.plain)
        (deserializeRequestReplyBinary Device.plain) input :=
    roundTripsExactly_of_fields (serializes_requestReplyBinary input)
      (decodes_requestReplyBinary hfits)
  refine ⟨?_, ?_, hgroup, hgroup, ?_, ?_, hservice, hservice⟩
  · intro input hfits
    exact roundTripsExactly_of_fields (serializes_domainParticipantBinary input)
      (decodes_domainParticipantBinary hfits)
  · intro input hfits
    exact roundTripsExactly_of_fields (serializes_topicBinary input) (decodes_topicBinary hfits)
  · intro input hfits
    exact roundTripsExactly_of_fields (serializes_dataWriterBinary input)
      (decodes_dataWriterBinary hfits)
  · intro input hfits
    exact roundTripsExactly_of_fields (serializes_dataReaderBinary input)
      (decodes_dataReaderBinary hfits)

end

/-- A writer with a deadline, user data and a strength. -/
def dataWriterBinary : DataWriterBinary where
  topicId := [0x01, 0x12]
  qos := some {
    base := {
      qosFlags := 1
      historyDepth := none
      deadlineMsec := some 1000
      lifespanMsec := none
      userData := some [1, 2, 3] }
    ownershipStrength := some 7 }

theorem binary_objects_round_trip_dataWriter :
    RoundTripsExactly (@serializeDataWriterBinary referenceMicroCdr _ Device.plain)
      (@deserializeDataWriterBinary referenceMicroCdr _ Device.plain) dataWriterBinary := by
  have hall := @binary_objects_round_trip referenceMicroCdr referenceMicroCdr_bounded
  refine hall.2.2.2.2.1 dataWriterBinary ⟨rfl, ?_⟩
  rintro qos hqos userData huser
  obtain rfl := Option.some.inj hqos
  obtain rfl := Option.some.inj huser
  decide

end XrceTypes

end XrceClient
