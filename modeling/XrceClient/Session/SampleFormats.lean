import XrceClient.Session.BinaryObjects

/-!
# Samples (`xrce_types.c`)

The formats in which data are written and read: bytes, samples, sequences of both and packed
samples, and the payloads of WRITE_DATA and DATA that hold them.

- `SampleInfoDetail`, `SampleInfo`, `SampleInfoDelta`: what is known of a sample.
- `Sample`, `SampleDelta`, `PackedSamples`: a sample, one that is told from another, and several.
- `DataRepresentation`: data in one of the formats, with the format as a tag.
- `DataPayload`: data behind the request that they belong to.

The sequences are lists, and a deserializer gives `none` where its result is `false`. The tag of a
detail is as in the source, which has a sequence number where the format is `FORMAT_EMPTY`.
-/

namespace XrceClient

/-! ## Bounds (`xrce_types.h`) -/

/-- `UXR_SAMPLE_DATA_SIZE_MAX`. -/
def sampleDataSizeMax : Nat := 512

/-- `UXR_SAMPLE_SEQUENCE_MAX`. -/
def sampleSequenceMax : Nat := 8

/-- `UXR_SAMPLE_DATA_SEQUENCE_MAX`. -/
def sampleDataSequenceMax : Nat := 8

/-- `UXR_SAMPLE_DELTA_SEQUENCE_MAX`. -/
def sampleDeltaSequenceMax : Nat := 8

/-- `UXR_PACKED_SAMPLES_SEQUENCE_MAX`. -/
def packedSamplesSequenceMax : Nat := 8

/-! ## Types (`xrce_types.h`) -/

/-- `SampleInfoDetail`: the detail of each format, or a format that has none. -/
inductive SampleInfoDetail where
  | empty (sequenceNumber : UInt32)
  | seqnum (sessionTimeOffset : UInt32)
  | timestamp (sequenceNumber sessionTimeOffset : UInt32)
  | other (format : UInt32)
  deriving DecidableEq

/-- `format`: the values of `FORMAT_EMPTY`, `FORMAT_SEQNUM` and `FORMAT_TIMESTAMP`, or any other. -/
def SampleInfoDetail.format : SampleInfoDetail → UInt32
  | empty _ => 0x00
  | seqnum _ => 0x01
  | timestamp .. => 0x02
  | other n => n

/-- `SampleInfo`. -/
structure SampleInfo where
  state : UInt8
  detail : SampleInfoDetail
  deriving DecidableEq

/-- `SampleInfoDelta`. -/
structure SampleInfoDelta where
  state : UInt8
  seqNumberDelta : UInt8
  timestampDelta : UInt16
  deriving DecidableEq

/-- `Sample`. -/
structure Sample where
  info : SampleInfo
  data : List UInt8
  deriving DecidableEq

/-- `SampleDelta`. -/
structure SampleDelta where
  infoDelta : SampleInfoDelta
  data : List UInt8
  deriving DecidableEq

/-- `PackedSamples`. -/
structure PackedSamples where
  infoBase : SampleInfo
  sampleDeltaSeq : List SampleDelta
  deriving DecidableEq

/-- `DataRepresentation`: data in each of the formats, or a format that has none. -/
inductive DataRepresentation where
  | data (data : List UInt8)
  | sample (sample : Sample)
  | dataSeq (dataSeq : List (List UInt8))
  | sampleSeq (sampleSeq : List Sample)
  | packedSamples (packedSamples : PackedSamples)
  | other (format : UInt8)
  deriving DecidableEq

/-- `format`: the values of `FORMAT_DATA` and the others, or any other. -/
def DataRepresentation.format : DataRepresentation → UInt8
  | data _ => 0x00
  | sample _ => 0x02
  | dataSeq _ => 0x08
  | sampleSeq _ => 0x0A
  | packedSamples _ => 0x0E
  | other n => n

/-- `WRITE_DATA_Payload_Sample` and the others with data, and the same of DATA. -/
structure DataPayload (α : Type) where
  base : BaseObjectRequest
  content : α
  deriving DecidableEq

namespace XrceTypes

variable [MicroCdr] {σ : Type} (dev : Device σ)

/-! ## Serializers -/

/-- `ucdr_serialize_uint8_t`. -/
def serializeUint8 (s : σ) (ub : UcdrBuffer) (value : UInt8) : Bool × σ × UcdrBuffer :=
  ucdrSerialize dev s ub ub.endianness 1 value.toNat

/-- `uxr_serialize_SeqNumberAndTimestamp` (xrce_types.c:1863–1871). -/
def serializeSeqNumberAndTimestamp (s : σ) (ub : UcdrBuffer)
    (sequenceNumber sessionTimeOffset : UInt32) : Bool × σ × UcdrBuffer :=
  let (ok₁, s, ub) := serializeUint32 dev s ub sequenceNumber
  let (ok₂, s, ub) := serializeUint32 dev s ub sessionTimeOffset
  (ok₁ && ok₂, s, ub)

/-- `uxr_serialize_SampleInfoDetail` (xrce_types.c:1883–1907). -/
def serializeSampleInfoDetail (s : σ) (ub : UcdrBuffer) (input : SampleInfoDetail) :
    Bool × σ × UcdrBuffer :=
  match serializeUint32 dev s ub input.format with
  | (true, s, ub) =>
    match input with
    | .empty sequenceNumber => serializeUint32 dev s ub sequenceNumber
    | .seqnum sessionTimeOffset => serializeUint32 dev s ub sessionTimeOffset
    | .timestamp sequenceNumber sessionTimeOffset =>
      serializeSeqNumberAndTimestamp dev s ub sequenceNumber sessionTimeOffset
    | .other _ => (true, s, ub)
  | (false, s, ub) => (false, s, ub)

/-- `uxr_serialize_SampleInfo` (xrce_types.c:1935–1943). -/
def serializeSampleInfo (s : σ) (ub : UcdrBuffer) (input : SampleInfo) : Bool × σ × UcdrBuffer :=
  let (ok₁, s, ub) := serializeUint8 dev s ub input.state
  let (ok₂, s, ub) := serializeSampleInfoDetail dev s ub input.detail
  (ok₁ && ok₂, s, ub)

/-- `uxr_serialize_SampleInfoDelta` (xrce_types.c:1955–1964). -/
def serializeSampleInfoDelta (s : σ) (ub : UcdrBuffer) (input : SampleInfoDelta) :
    Bool × σ × UcdrBuffer :=
  let (ok₁, s, ub) := serializeUint8 dev s ub input.state
  let (ok₂, s, ub) := serializeUint8 dev s ub input.seqNumberDelta
  let (ok₃, s, ub) := serializeUint16 dev s ub input.timestampDelta
  (ok₁ && ok₂ && ok₃, s, ub)

/-- `uxr_serialize_SampleData` (xrce_types.c:1977–1982). -/
def serializeSampleData := serializeBinarySequence dev

/-- `uxr_serialize_SampleDataSeq` (xrce_types.c:1991–2001). -/
def serializeSampleDataSeq := serializeSeq dev (serializeSampleData dev)

/-- `uxr_serialize_Sample` (xrce_types.c:2023–2031). -/
def serializeSample (s : σ) (ub : UcdrBuffer) (input : Sample) : Bool × σ × UcdrBuffer :=
  let (ok₁, s, ub) := serializeSampleInfo dev s ub input.info
  let (ok₂, s, ub) := serializeSampleData dev s ub input.data
  (ok₁ && ok₂, s, ub)

/-- `uxr_serialize_SampleSeq` (xrce_types.c:2043–2053). -/
def serializeSampleSeq := serializeSeq dev (serializeSample dev)

/-- `uxr_serialize_SampleDelta` (xrce_types.c:2075–2083). -/
def serializeSampleDelta (s : σ) (ub : UcdrBuffer) (input : SampleDelta) :
    Bool × σ × UcdrBuffer :=
  let (ok₁, s, ub) := serializeSampleInfoDelta dev s ub input.infoDelta
  let (ok₂, s, ub) := serializeSampleData dev s ub input.data
  (ok₁ && ok₂, s, ub)

/-- `uxr_serialize_SampleDeltaSequence` (xrce_types.c:2095–2105). -/
def serializeSampleDeltaSequence := serializeSeq dev (serializeSampleDelta dev)

/-- `uxr_serialize_PackedSamples` (xrce_types.c:2127–2135). -/
def serializePackedSamples (s : σ) (ub : UcdrBuffer) (input : PackedSamples) :
    Bool × σ × UcdrBuffer :=
  let (ok₁, s, ub) := serializeSampleInfo dev s ub input.infoBase
  let (ok₂, s, ub) := serializeSampleDeltaSequence dev s ub input.sampleDeltaSeq
  (ok₁ && ok₂, s, ub)

/-- `uxr_serialize_SamplePackedSeq` (xrce_types.c:2147–2157). -/
def serializeSamplePackedSeq := serializeSeq dev (serializePackedSamples dev)

/-- `uxr_serialize_DataRepresentation` (xrce_types.c:2179–2209). -/
def serializeDataRepresentation (s : σ) (ub : UcdrBuffer) (input : DataRepresentation) :
    Bool × σ × UcdrBuffer :=
  match serializeUint8 dev s ub input.format with
  | (true, s, ub) =>
    match input with
    | .data data => serializeSampleData dev s ub data
    | .sample sample => serializeSample dev s ub sample
    | .dataSeq dataSeq => serializeSampleDataSeq dev s ub dataSeq
    | .sampleSeq sampleSeq => serializeSampleSeq dev s ub sampleSeq
    | .packedSamples packedSamples => serializePackedSamples dev s ub packedSamples
    | .other _ => (true, s, ub)
  | (false, s, ub) => (false, s, ub)

/-- Data behind the request that they belong to. -/
def serializeDataPayload {α : Type} (content : σ → UcdrBuffer → α → Bool × σ × UcdrBuffer) (s : σ)
    (ub : UcdrBuffer) (input : DataPayload α) : Bool × σ × UcdrBuffer :=
  let (ok₁, s, ub) := serializeBaseObjectRequest dev s ub input.base
  let (ok₂, s, ub) := content s ub input.content
  (ok₁ && ok₂, s, ub)

/-- `uxr_serialize_WRITE_DATA_Payload_Data` (xrce_types.c:2397–2404): the request only. -/
def serializeWriteDataPayloadData := serializeBaseObjectRequest dev

/-- `uxr_serialize_WRITE_DATA_Payload_Sample` (xrce_types.c:2415–2423). -/
def serializeWriteDataPayloadSample := serializeDataPayload dev (serializeSample dev)

/-- `uxr_serialize_WRITE_DATA_Payload_DataSeq` (xrce_types.c:2435–2443). -/
def serializeWriteDataPayloadDataSeq := serializeDataPayload dev (serializeSampleDataSeq dev)

/-- `uxr_serialize_WRITE_DATA_Payload_SampleSeq` (xrce_types.c:2455–2463). -/
def serializeWriteDataPayloadSampleSeq := serializeDataPayload dev (serializeSampleSeq dev)

/-- `uxr_serialize_WRITE_DATA_Payload_PackedSamples` (xrce_types.c:2475–2483). -/
def serializeWriteDataPayloadPackedSamples := serializeDataPayload dev (serializePackedSamples dev)

/-- `uxr_serialize_DATA_Payload_Data` (xrce_types.c:2495–2502): the request only. -/
def serializeDataPayloadData := serializeBaseObjectRequest dev

/-- `uxr_serialize_DATA_Payload_Sample` (xrce_types.c:2513–2521). -/
def serializeDataPayloadSample := serializeDataPayload dev (serializeSample dev)

/-- `uxr_serialize_DATA_Payload_DataSeq` (xrce_types.c:2533–2541). -/
def serializeDataPayloadDataSeq := serializeDataPayload dev (serializeSampleDataSeq dev)

/-- `uxr_serialize_DATA_Payload_SampleSeq` (xrce_types.c:2553–2561). -/
def serializeDataPayloadSampleSeq := serializeDataPayload dev (serializeSampleSeq dev)

/-- `uxr_serialize_DATA_Payload_PackedSamples` (xrce_types.c:2573–2581). -/
def serializeDataPayloadPackedSamples := serializeDataPayload dev (serializePackedSamples dev)

/-! ## Deserializers -/

/-- `ucdr_deserialize_uint8_t`. -/
def deserializeUint8 : StateM (σ × UcdrBuffer) (Option UInt8) :=
  Option.map UInt8.ofNat <$> readScalar dev 1

/-- `uxr_deserialize_SeqNumberAndTimestamp` (xrce_types.c:1873–1881). -/
def deserializeSeqNumberAndTimestamp : StateM (σ × UcdrBuffer) (Option (UInt32 × UInt32)) := do
  let sequenceNumber ← deserializeUint32 dev
  let sessionTimeOffset ← deserializeUint32 dev
  return do
    let sequenceNumber ← sequenceNumber
    let sessionTimeOffset ← sessionTimeOffset
    some (sequenceNumber, sessionTimeOffset)

/-- `uxr_deserialize_SampleInfoDetail` (xrce_types.c:1909–1933). -/
def deserializeSampleInfoDetail : StateM (σ × UcdrBuffer) (Option SampleInfoDetail) := do
  match ← deserializeUint32 dev with
  | some 0x00 => Option.map .empty <$> deserializeUint32 dev
  | some 0x01 => Option.map .seqnum <$> deserializeUint32 dev
  | some 0x02 =>
    Option.map (fun detail => .timestamp detail.1 detail.2) <$>
      deserializeSeqNumberAndTimestamp dev
  | some format => return some (.other format)
  | none => return none

/-- `uxr_deserialize_SampleInfo` (xrce_types.c:1945–1953). -/
def deserializeSampleInfo : StateM (σ × UcdrBuffer) (Option SampleInfo) := do
  let state ← deserializeUint8 dev
  let detail ← deserializeSampleInfoDetail dev
  return do
    let state ← state
    let detail ← detail
    some { state, detail }

/-- `uxr_deserialize_SampleInfoDelta` (xrce_types.c:1966–1975). -/
def deserializeSampleInfoDelta : StateM (σ × UcdrBuffer) (Option SampleInfoDelta) := do
  let state ← deserializeUint8 dev
  let seqNumberDelta ← deserializeUint8 dev
  let timestampDelta ← deserializeUint16 dev
  return do
    let state ← state
    let seqNumberDelta ← seqNumberDelta
    let timestampDelta ← timestampDelta
    some { state, seqNumberDelta, timestampDelta }

/-- `uxr_deserialize_SampleData` (xrce_types.c:1984–1989). -/
def deserializeSampleData : StateM (σ × UcdrBuffer) (Option (List UInt8)) :=
  deserializeSequence dev sampleDataSizeMax

/-- `uxr_deserialize_SampleDataSeq` (xrce_types.c:2003–2021). -/
def deserializeSampleDataSeq : StateM (σ × UcdrBuffer) (Option (List (List UInt8))) :=
  deserializeSeq dev sampleDataSequenceMax (deserializeSampleData dev)

/-- `uxr_deserialize_Sample` (xrce_types.c:2033–2041). -/
def deserializeSample : StateM (σ × UcdrBuffer) (Option Sample) := do
  let info ← deserializeSampleInfo dev
  let data ← deserializeSampleData dev
  return do
    let info ← info
    let data ← data
    some { info, data }

/-- `uxr_deserialize_SampleSeq` (xrce_types.c:2055–2073). -/
def deserializeSampleSeq : StateM (σ × UcdrBuffer) (Option (List Sample)) :=
  deserializeSeq dev sampleSequenceMax (deserializeSample dev)

/-- `uxr_deserialize_SampleDelta` (xrce_types.c:2085–2093). -/
def deserializeSampleDelta : StateM (σ × UcdrBuffer) (Option SampleDelta) := do
  let infoDelta ← deserializeSampleInfoDelta dev
  let data ← deserializeSampleData dev
  return do
    let infoDelta ← infoDelta
    let data ← data
    some { infoDelta, data }

/-- `uxr_deserialize_SampleDeltaSequence` (xrce_types.c:2107–2125). -/
def deserializeSampleDeltaSequence : StateM (σ × UcdrBuffer) (Option (List SampleDelta)) :=
  deserializeSeq dev sampleDeltaSequenceMax (deserializeSampleDelta dev)

/-- `uxr_deserialize_PackedSamples` (xrce_types.c:2137–2145). -/
def deserializePackedSamples : StateM (σ × UcdrBuffer) (Option PackedSamples) := do
  let infoBase ← deserializeSampleInfo dev
  let sampleDeltaSeq ← deserializeSampleDeltaSequence dev
  return do
    let infoBase ← infoBase
    let sampleDeltaSeq ← sampleDeltaSeq
    some { infoBase, sampleDeltaSeq }

/-- `uxr_deserialize_SamplePackedSeq` (xrce_types.c:2159–2177). -/
def deserializeSamplePackedSeq : StateM (σ × UcdrBuffer) (Option (List PackedSamples)) :=
  deserializeSeq dev packedSamplesSequenceMax (deserializePackedSamples dev)

/-- `uxr_deserialize_DataRepresentation` (xrce_types.c:2211–2241). -/
def deserializeDataRepresentation : StateM (σ × UcdrBuffer) (Option DataRepresentation) := do
  match ← deserializeUint8 dev with
  | some 0x00 => Option.map .data <$> deserializeSampleData dev
  | some 0x02 => Option.map .sample <$> deserializeSample dev
  | some 0x08 => Option.map .dataSeq <$> deserializeSampleDataSeq dev
  | some 0x0A => Option.map .sampleSeq <$> deserializeSampleSeq dev
  | some 0x0E => Option.map .packedSamples <$> deserializePackedSamples dev
  | some format => return some (.other format)
  | none => return none

/-- Data behind the request that they belong to. -/
def deserializeDataPayload {α : Type} (content : StateM (σ × UcdrBuffer) (Option α)) :
    StateM (σ × UcdrBuffer) (Option (DataPayload α)) := do
  let base ← deserializeBaseObjectRequest dev
  let content ← content
  return do
    let base ← base
    let content ← content
    some { base, content }

/-- `uxr_deserialize_WRITE_DATA_Payload_Data` (xrce_types.c:2406–2413): the request only. -/
def deserializeWriteDataPayloadData := deserializeBaseObjectRequest dev

/-- `uxr_deserialize_WRITE_DATA_Payload_Sample` (xrce_types.c:2425–2433). -/
def deserializeWriteDataPayloadSample := deserializeDataPayload dev (deserializeSample dev)

/-- `uxr_deserialize_WRITE_DATA_Payload_DataSeq` (xrce_types.c:2445–2453). -/
def deserializeWriteDataPayloadDataSeq :=
  deserializeDataPayload dev (deserializeSampleDataSeq dev)

/-- `uxr_deserialize_WRITE_DATA_Payload_SampleSeq` (xrce_types.c:2465–2473). -/
def deserializeWriteDataPayloadSampleSeq := deserializeDataPayload dev (deserializeSampleSeq dev)

/-- `uxr_deserialize_WRITE_DATA_Payload_PackedSamples` (xrce_types.c:2485–2493). -/
def deserializeWriteDataPayloadPackedSamples :=
  deserializeDataPayload dev (deserializePackedSamples dev)

/-- `uxr_deserialize_DATA_Payload_Data` (xrce_types.c:2504–2511): the request only. -/
def deserializeDataPayloadData := deserializeBaseObjectRequest dev

/-- `uxr_deserialize_DATA_Payload_Sample` (xrce_types.c:2523–2531). -/
def deserializeDataPayloadSample := deserializeDataPayload dev (deserializeSample dev)

/-- `uxr_deserialize_DATA_Payload_DataSeq` (xrce_types.c:2543–2551). -/
def deserializeDataPayloadDataSeq := deserializeDataPayload dev (deserializeSampleDataSeq dev)

/-- `uxr_deserialize_DATA_Payload_SampleSeq` (xrce_types.c:2563–2571). -/
def deserializeDataPayloadSampleSeq := deserializeDataPayload dev (deserializeSampleSeq dev)

/-- `uxr_deserialize_DATA_Payload_PackedSamples` (xrce_types.c:2583–2591). -/
def deserializeDataPayloadPackedSamples :=
  deserializeDataPayload dev (deserializePackedSamples dev)

end XrceTypes

end XrceClient
