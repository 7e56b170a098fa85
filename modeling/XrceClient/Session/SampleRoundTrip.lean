import XrceClient.Session.SequenceBounds
import XrceClient.Session.BinaryRoundTrip

/-!
# Samples round trip

- `….fields`, `….Fits`: the fields of a value, and the values within the maxima of the source.
- `serializes_…`, `decodes_…`, `readsOnly_…`: the serializer of each type writes the fields, its
  deserializer reads the value from them and from no strict prefix of them, and it reads values
  within the maxima only.
- `Exact`: all of it for a serializer and a deserializer.
- `sample_formats_round_trip`: the formats of samples, and the payloads with them. A count behind
  its maximum is refused.
-/

namespace XrceClient

open ByteMemory

/-! ## Fields -/

namespace SampleInfoDetail

/-- The fields behind the format. -/
def content : SampleInfoDetail → List Field
  | empty sequenceNumber => uint32Fields sequenceNumber
  | seqnum sessionTimeOffset => uint32Fields sessionTimeOffset
  | timestamp sequenceNumber sessionTimeOffset =>
    uint32Fields sequenceNumber ++ uint32Fields sessionTimeOffset
  | other _ => []

def fields (detail : SampleInfoDetail) : List Field :=
  uint32Fields detail.format ++ detail.content

def Fits : SampleInfoDetail → Prop
  | other format => format ∉ [0, 1, 2]
  | _ => True

end SampleInfoDetail

/-- The field of an integer with one byte. -/
def uint8Fields (n : UInt8) : List Field := [.scalar 1 n.toNat]

namespace SampleInfo

variable (info : SampleInfo)

def fields : List Field := uint8Fields info.state ++ info.detail.fields

def Fits : Prop := info.detail.Fits

end SampleInfo

def SampleInfoDelta.fields (delta : SampleInfoDelta) : List Field :=
  uint8Fields delta.state ++ (uint8Fields delta.seqNumberDelta ++
    uint16Fields delta.timestampDelta)

/-- There is room for the data of a sample. -/
def SampleDataFits (data : List UInt8) : Prop := data.length ≤ sampleDataSizeMax

/-- There is room for the items of a sequence, and for each of them. -/
def SequenceFits {α : Type} (sequenceMax : Nat) (fits : α → Prop) (items : List α) : Prop :=
  items.length ≤ sequenceMax ∧ ∀ a ∈ items, fits a

namespace Sample

variable (sample : Sample)

def fields : List Field := sample.info.fields ++ binaryFields sample.data

def Fits : Prop := sample.info.Fits ∧ SampleDataFits sample.data

end Sample

namespace SampleDelta

variable (delta : SampleDelta)

def fields : List Field := delta.infoDelta.fields ++ binaryFields delta.data

def Fits : Prop := SampleDataFits delta.data

end SampleDelta

/-- The data of a sequence of samples. -/
def SampleDataSeqFits : List (List UInt8) → Prop :=
  SequenceFits sampleDataSequenceMax SampleDataFits

def SampleSeqFits : List Sample → Prop := SequenceFits sampleSequenceMax Sample.Fits

namespace PackedSamples

variable (packed : PackedSamples)

def fields : List Field :=
  packed.infoBase.fields ++ sequenceFields SampleDelta.fields packed.sampleDeltaSeq

def Fits : Prop :=
  packed.infoBase.Fits ∧ SequenceFits sampleDeltaSequenceMax SampleDelta.Fits packed.sampleDeltaSeq

end PackedSamples

def SamplePackedSeqFits : List PackedSamples → Prop :=
  SequenceFits packedSamplesSequenceMax PackedSamples.Fits

namespace DataRepresentation

/-- The fields behind the format. -/
def content : DataRepresentation → List Field
  | data bytes => binaryFields bytes
  | sample one => one.fields
  | dataSeq all => sequenceFields binaryFields all
  | sampleSeq all => sequenceFields Sample.fields all
  | packedSamples packed => packed.fields
  | other _ => []

def fields (representation : DataRepresentation) : List Field :=
  uint8Fields representation.format ++ representation.content

def Fits : DataRepresentation → Prop
  | data bytes => SampleDataFits bytes
  | sample one => one.Fits
  | dataSeq all => SampleDataSeqFits all
  | sampleSeq all => SampleSeqFits all
  | packedSamples packed => packed.Fits
  | other format => format ∉ [0x00, 0x02, 0x08, 0x0A, 0x0E]

end DataRepresentation

namespace DataPayload

variable {α : Type} (payload : DataPayload α)

def fields (contentFields : α → List Field) : List Field :=
  payload.base.fields ++ contentFields payload.content

def Fits (fits : α → Prop) : Prop := payload.base.Fits ∧ fits payload.content

end DataPayload

namespace XrceTypes

/-! ## What the serializers write -/

section

variable [MicroCdr]

theorem serializes_uint8 (n : UInt8) :
    Serializes (fun m ub => serializeUint8 Device.plain m ub n) (uint8Fields n) :=
  serializes_scalar 1 _ (by simp)

/-- The format of a detail, and what is behind it. -/
theorem serializes_sampleInfoDetail (input : SampleInfoDetail) :
    Serializes (fun m ub => serializeSampleInfoDetail Device.plain m ub input) input.fields := by
  have hformat := serializes_uint32 input.format
  cases input with
  | empty sequenceNumber =>
    refine hformat.andThen (serializes_uint32 sequenceNumber) fun hcall => ?_
    rw [serializeSampleInfoDetail, hcall]
  | seqnum sessionTimeOffset =>
    refine hformat.andThen (serializes_uint32 sessionTimeOffset) fun hcall => ?_
    rw [serializeSampleInfoDetail, hcall]
  | timestamp sequenceNumber sessionTimeOffset =>
    have hboth := (serializes_uint32 sequenceNumber).and (serializes_uint32 sessionTimeOffset)
    refine hformat.andThen hboth fun hcall => ?_
    rw [serializeSampleInfoDetail, hcall]
    rfl
  | other format =>
    refine hformat.andThen serializes_nothing fun hcall => ?_
    rw [serializeSampleInfoDetail, hcall]

theorem serializes_sampleInfo (input : SampleInfo) :
    Serializes (fun m ub => serializeSampleInfo Device.plain m ub input) input.fields :=
  (serializes_uint8 _).and (serializes_sampleInfoDetail _)

theorem serializes_sampleInfoDelta (input : SampleInfoDelta) :
    Serializes (fun m ub => serializeSampleInfoDelta Device.plain m ub input) input.fields := by
  have hall := ((serializes_uint8 input.state).and (serializes_uint8 input.seqNumberDelta)).and
    (serializes_uint16 input.timestampDelta)
  rw [List.append_assoc] at hall
  exact hall

theorem serializes_sample (input : Sample) :
    Serializes (fun m ub => serializeSample Device.plain m ub input) input.fields :=
  (serializes_sampleInfo _).and (serializes_binarySequence _)

theorem serializes_sampleDelta (input : SampleDelta) :
    Serializes (fun m ub => serializeSampleDelta Device.plain m ub input) input.fields :=
  (serializes_sampleInfoDelta _).and (serializes_binarySequence _)

theorem serializes_packedSamples (input : PackedSamples) :
    Serializes (fun m ub => serializePackedSamples Device.plain m ub input) input.fields :=
  (serializes_sampleInfo _).and (serializes_seq _ serializes_sampleDelta)

/-- The format of data, and what is behind it. -/
theorem serializes_dataRepresentation (input : DataRepresentation) :
    Serializes (fun m ub => serializeDataRepresentation Device.plain m ub input)
      input.fields := by
  have hformat := serializes_uint8 input.format
  cases input with
  | data bytes =>
    refine hformat.andThen (serializes_binarySequence bytes) fun hcall => ?_
    rw [serializeDataRepresentation, hcall]
    rfl
  | sample one =>
    refine hformat.andThen (serializes_sample one) fun hcall => ?_
    rw [serializeDataRepresentation, hcall]
  | dataSeq all =>
    refine hformat.andThen (serializes_seq all serializes_binarySequence) fun hcall => ?_
    rw [serializeDataRepresentation, hcall]
    rfl
  | sampleSeq all =>
    refine hformat.andThen (serializes_seq all serializes_sample) fun hcall => ?_
    rw [serializeDataRepresentation, hcall]
    rfl
  | packedSamples packed =>
    refine hformat.andThen (serializes_packedSamples packed) fun hcall => ?_
    rw [serializeDataRepresentation, hcall]
  | other format =>
    refine hformat.andThen serializes_nothing fun hcall => ?_
    rw [serializeDataRepresentation, hcall]

theorem serializes_dataPayload {α : Type}
    {content : Memory → UcdrBuffer → α → Bool × Memory × UcdrBuffer}
    {contentFields : α → List Field}
    (h : ∀ a, Serializes (fun m ub => content m ub a) (contentFields a)) (input : DataPayload α) :
    Serializes (fun m ub => serializeDataPayload Device.plain content m ub input)
      (input.fields contentFields) :=
  (serializes_baseObjectRequest _).and (h _)

end

/-! ## What the deserializers read -/

section

variable [MicroCdr] [BoundedMicroCdr]

theorem decodes_deserializeUint8 (n : UInt8) :
    Decodes (deserializeUint8 Device.plain) n (uint8Fields n) := by
  have hread := (decodes_uint8 n).map UInt8.ofNat
  rw [UInt8.ofNat_toNat] at hread
  exact hread

theorem decodes_sampleInfoDetail {input : SampleInfoDetail} (hfits : input.Fits) :
    Decodes (deserializeSampleInfoDetail Device.plain) input input.fields := by
  have hformat := decodes_deserializeUint32 input.format
  refine hformat.bind ?_ (broken_pure none)
  cases input with
  | empty sequenceNumber =>
    exact ((decodes_deserializeUint32 sequenceNumber).map SampleInfoDetail.empty).toReadsWhole
  | seqnum sessionTimeOffset =>
    exact ((decodes_deserializeUint32 sessionTimeOffset).map SampleInfoDetail.seqnum).toReadsWhole
  | timestamp sequenceNumber sessionTimeOffset =>
    have hnumber := decodes_deserializeUint32 sequenceNumber
    have hoffset := decodes_deserializeUint32 sessionTimeOffset
    have hboth : Decodes (deserializeSeqNumberAndTimestamp Device.plain)
        (sequenceNumber, sessionTimeOffset)
        (uint32Fields sequenceNumber ++ uint32Fields sessionTimeOffset) :=
      hnumber.bind (hoffset.toReadsWhole.bind_pure rfl rfl) (hoffset.broken.bind_pure rfl)
    exact (hboth.map fun detail => SampleInfoDetail.timestamp detail.1 detail.2).toReadsWhole
  | other format =>
    have hne : ∀ n ∈ [0, 1, 2], some format ≠ some n := by
      rintro n hmem heq
      exact hfits (Option.some.inj heq ▸ hmem)
    dsimp only [SampleInfoDetail.format]
    split
    · next heq => exact absurd heq (hne 0 (by simp))
    · next heq => exact absurd heq (hne 1 (by simp))
    · next heq => exact absurd heq (hne 2 (by simp))
    · next heq =>
      obtain rfl := Option.some.inj heq
      exact readsWhole_pure _
    · next heq => exact absurd heq nofun

theorem decodes_sampleInfo {input : SampleInfo} (hfits : input.Fits) :
    Decodes (deserializeSampleInfo Device.plain) input input.fields := by
  have hstate := decodes_deserializeUint8 input.state
  have hdetail := decodes_sampleInfoDetail hfits
  exact hstate.bind (hdetail.toReadsWhole.bind_pure rfl rfl) (hdetail.broken.bind_pure rfl)

theorem decodes_sampleInfoDelta (input : SampleInfoDelta) :
    Decodes (deserializeSampleInfoDelta Device.plain) input input.fields := by
  have hstate := decodes_deserializeUint8 input.state
  have hnumber := decodes_deserializeUint8 input.seqNumberDelta
  have htime := decodes_deserializeUint16 input.timestampDelta
  refine hstate.bind (hnumber.andThen (htime.toReadsWhole.bind_pure rfl rfl) ?_) ?_
  · exact htime.broken.bind_pure rfl
  · exact hnumber.broken.bind (htime.broken.bind_pure rfl)

theorem decodes_sampleData {data : List UInt8} (hfits : SampleDataFits data) :
    Decodes (deserializeSampleData Device.plain) data (binaryFields data) :=
  decodes_sequence hfits (by decide)

theorem decodes_sampleDataSeq {input : List (List UInt8)} (hfits : SampleDataSeqFits input) :
    Decodes (deserializeSampleDataSeq Device.plain) input (sequenceFields binaryFields input) :=
  decodes_seq (by decide) hfits.1 fun data hmem => decodes_sampleData (hfits.2 data hmem)

theorem decodes_sample {input : Sample} (hfits : input.Fits) :
    Decodes (deserializeSample Device.plain) input input.fields := by
  have hinfo := decodes_sampleInfo hfits.1
  have hdata := decodes_sampleData hfits.2
  exact hinfo.bind (hdata.toReadsWhole.bind_pure rfl rfl) (hdata.broken.bind_pure rfl)

theorem decodes_sampleSeq {input : List Sample} (hfits : SampleSeqFits input) :
    Decodes (deserializeSampleSeq Device.plain) input (sequenceFields Sample.fields input) :=
  decodes_seq (by decide) hfits.1 fun sample hmem => decodes_sample (hfits.2 sample hmem)

theorem decodes_sampleDelta {input : SampleDelta} (hfits : input.Fits) :
    Decodes (deserializeSampleDelta Device.plain) input input.fields := by
  have hinfo := decodes_sampleInfoDelta input.infoDelta
  have hdata := decodes_sampleData hfits
  exact hinfo.bind (hdata.toReadsWhole.bind_pure rfl rfl) (hdata.broken.bind_pure rfl)

theorem decodes_packedSamples {input : PackedSamples} (hfits : input.Fits) :
    Decodes (deserializePackedSamples Device.plain) input input.fields := by
  obtain ⟨hinfo, hlength, hdeltas⟩ := hfits
  have hinfo := decodes_sampleInfo hinfo
  have hseq : Decodes (deserializeSampleDeltaSequence Device.plain) input.sampleDeltaSeq _ :=
    decodes_seq (by decide) hlength fun delta hmem => decodes_sampleDelta (hdeltas delta hmem)
  exact hinfo.bind (hseq.toReadsWhole.bind_pure rfl rfl) (hseq.broken.bind_pure rfl)

theorem decodes_samplePackedSeq {input : List PackedSamples} (hfits : SamplePackedSeqFits input) :
    Decodes (deserializeSamplePackedSeq Device.plain) input
      (sequenceFields PackedSamples.fields input) :=
  decodes_seq (by decide) hfits.1 fun packed hmem => decodes_packedSamples (hfits.2 packed hmem)

theorem decodes_dataRepresentation {input : DataRepresentation} (hfits : input.Fits) :
    Decodes (deserializeDataRepresentation Device.plain) input input.fields := by
  have hformat := decodes_deserializeUint8 input.format
  refine hformat.bind ?_ (broken_pure none)
  cases input with
  | data bytes => exact ((decodes_sampleData hfits).map DataRepresentation.data).toReadsWhole
  | sample one => exact ((decodes_sample hfits).map DataRepresentation.sample).toReadsWhole
  | dataSeq all =>
    exact ((decodes_sampleDataSeq hfits).map DataRepresentation.dataSeq).toReadsWhole
  | sampleSeq all =>
    exact ((decodes_sampleSeq hfits).map DataRepresentation.sampleSeq).toReadsWhole
  | packedSamples packed =>
    exact ((decodes_packedSamples hfits).map DataRepresentation.packedSamples).toReadsWhole
  | other format =>
    have hne : ∀ n ∈ [0x00, 0x02, 0x08, 0x0A, 0x0E], some format ≠ some n := by
      rintro n hmem heq
      exact hfits (Option.some.inj heq ▸ hmem)
    dsimp only [DataRepresentation.format]
    split
    case h_6 heq =>
      obtain rfl := Option.some.inj heq
      exact readsWhole_pure _
    case h_7 heq => exact absurd heq nofun
    all_goals
      next heq => exact absurd heq (hne _ (by simp))

theorem decodes_dataPayload {α : Type} {content : StateM (Memory × UcdrBuffer) (Option α)}
    {contentFields : α → List Field} {input : DataPayload α} (hbase : input.base.Fits)
    (h : Decodes content input.content (contentFields input.content)) :
    Decodes (deserializeDataPayload Device.plain content) input (input.fields contentFields) :=
  (decodes_baseObjectRequest hbase).bind (h.toReadsWhole.bind_pure rfl rfl)
    (h.broken.bind_pure rfl)

end

/-! ## What the deserializers accept -/

section

variable [MicroCdr] [BoundedMicroCdr]

theorem readsOnly_uint8 : ReadsOnly (deserializeUint8 Device.plain) fun _ => True :=
  (readsOnly_scalar (by simp)).map fun _ _ => trivial

theorem readsOnly_uint16 : ReadsOnly (deserializeUint16 Device.plain) fun _ => True :=
  (readsOnly_scalar (by simp)).map fun _ _ => trivial

theorem readsOnly_uint32 : ReadsOnly (deserializeUint32 Device.plain) fun _ => True :=
  (readsOnly_scalar (by simp)).map fun _ _ => trivial

theorem readsOnly_sampleInfoDetail :
    ReadsOnly (deserializeSampleInfoDetail Device.plain) SampleInfoDetail.Fits := by
  have hboth : ReadsOnly (deserializeSeqNumberAndTimestamp Device.plain) fun _ => True :=
    readsOnly_uint32.bind fun _ _ => readsOnly_uint32.bind_pure fun _ _ _ _ => trivial
  refine readsOnly_uint32.bind fun format _ => ?_
  split
  · exact readsOnly_uint32.map fun _ _ => trivial
  · exact readsOnly_uint32.map fun _ _ => trivial
  · exact hboth.map fun _ _ => trivial
  · next _ hempty hseqnum htimestamp _ =>
    refine readsOnly_pure fun detail hdetail => ?_
    obtain rfl := Option.some.inj hdetail
    simp only [SampleInfoDetail.Fits, List.mem_cons, List.not_mem_nil, or_false, not_or]
    exact ⟨hempty, hseqnum, htimestamp⟩
  · exact readsOnly_pure fun _ hmem => absurd hmem nofun

theorem readsOnly_sampleInfo : ReadsOnly (deserializeSampleInfo Device.plain) SampleInfo.Fits := by
  refine readsOnly_uint8.bind fun state _ => readsOnly_sampleInfoDetail.bind_pure ?_
  intro detail hdetail info hinfo
  obtain ⟨_, _, hinfo⟩ := Option.bind_eq_some_iff.mp hinfo
  obtain ⟨value, hvalue, hinfo⟩ := Option.bind_eq_some_iff.mp hinfo
  obtain rfl := Option.some.inj hinfo
  exact hdetail value hvalue

theorem readsOnly_sampleInfoDelta :
    ReadsOnly (deserializeSampleInfoDelta Device.plain) fun _ => True :=
  readsOnly_uint8.bind fun _ _ => readsOnly_uint8.bind fun _ _ =>
    readsOnly_uint16.bind_pure fun _ _ _ _ => trivial

theorem readsOnly_sampleData : ReadsOnly (deserializeSampleData Device.plain) SampleDataFits :=
  readsOnly_sequence _

theorem readsOnly_sampleDataSeq :
    ReadsOnly (deserializeSampleDataSeq Device.plain) SampleDataSeqFits :=
  readsOnly_seq _ readsOnly_sampleData

theorem readsOnly_sample : ReadsOnly (deserializeSample Device.plain) Sample.Fits := by
  refine readsOnly_sampleInfo.bind fun info hinfo => readsOnly_sampleData.bind_pure ?_
  intro data hdata sample hsample
  obtain ⟨value, hvalue, hsample⟩ := Option.bind_eq_some_iff.mp hsample
  obtain ⟨bytes, hbytes, hsample⟩ := Option.bind_eq_some_iff.mp hsample
  obtain rfl := Option.some.inj hsample
  exact ⟨hinfo value hvalue, hdata bytes hbytes⟩

theorem readsOnly_sampleSeq : ReadsOnly (deserializeSampleSeq Device.plain) SampleSeqFits :=
  readsOnly_seq _ readsOnly_sample

theorem readsOnly_sampleDelta :
    ReadsOnly (deserializeSampleDelta Device.plain) SampleDelta.Fits := by
  refine readsOnly_sampleInfoDelta.bind fun _ _ => readsOnly_sampleData.bind_pure ?_
  intro data hdata delta hdelta
  obtain ⟨_, _, hdelta⟩ := Option.bind_eq_some_iff.mp hdelta
  obtain ⟨bytes, hbytes, hdelta⟩ := Option.bind_eq_some_iff.mp hdelta
  obtain rfl := Option.some.inj hdelta
  exact hdata bytes hbytes

theorem readsOnly_packedSamples :
    ReadsOnly (deserializePackedSamples Device.plain) PackedSamples.Fits := by
  have hseq : ReadsOnly (deserializeSampleDeltaSequence Device.plain)
      (SequenceFits sampleDeltaSequenceMax SampleDelta.Fits) := readsOnly_seq _ readsOnly_sampleDelta
  refine readsOnly_sampleInfo.bind fun info hinfo => hseq.bind_pure ?_
  intro deltas hdeltas packed hpacked
  obtain ⟨value, hvalue, hpacked⟩ := Option.bind_eq_some_iff.mp hpacked
  obtain ⟨all, hall, hpacked⟩ := Option.bind_eq_some_iff.mp hpacked
  obtain rfl := Option.some.inj hpacked
  exact ⟨hinfo value hvalue, hdeltas all hall⟩

theorem readsOnly_samplePackedSeq :
    ReadsOnly (deserializeSamplePackedSeq Device.plain) SamplePackedSeqFits :=
  readsOnly_seq _ readsOnly_packedSamples

theorem readsOnly_dataRepresentation :
    ReadsOnly (deserializeDataRepresentation Device.plain) DataRepresentation.Fits := by
  refine readsOnly_uint8.bind fun format _ => ?_
  split
  · exact readsOnly_sampleData.map fun _ h => h
  · exact readsOnly_sample.map fun _ h => h
  · exact readsOnly_sampleDataSeq.map fun _ h => h
  · exact readsOnly_sampleSeq.map fun _ h => h
  · exact readsOnly_packedSamples.map fun _ h => h
  · next _ hdata hsample hdataSeq hsampleSeq hpacked _ =>
    refine readsOnly_pure fun representation hrepresentation => ?_
    obtain rfl := Option.some.inj hrepresentation
    simp only [DataRepresentation.Fits, List.mem_cons, List.not_mem_nil, or_false, not_or]
    exact ⟨hdata, hsample, hdataSeq, hsampleSeq, hpacked⟩
  · exact readsOnly_pure fun _ hmem => absurd hmem nofun

theorem readsOnly_dataPayload {α : Type} {content : StateM (Memory × UcdrBuffer) (Option α)}
    {fits : α → Prop} (hcontent : ReadsOnly content fits) :
    ReadsOnly (deserializeDataPayload Device.plain content) (DataPayload.Fits · fits) := by
  refine readsOnly_baseObjectRequest.bind fun base hbase => hcontent.bind_pure ?_
  intro value hvalue payload hpayload
  obtain ⟨request, hrequest, hpayload⟩ := Option.bind_eq_some_iff.mp hpayload
  obtain ⟨all, hall, hpayload⟩ := Option.bind_eq_some_iff.mp hpayload
  obtain rfl := Option.some.inj hpayload
  exact ⟨hbase request hrequest, hvalue all hall⟩

end

/-! ## Round trips -/

/-- The values that fit round trip, and no strict prefix of one is read. What is read fits. And a
size that is larger than the array of its sequence, wherever the deserializer reads one, is
refused. -/
structure Exact {α : Type} (serialize : Memory → UcdrBuffer → α → Bool × Memory × UcdrBuffer)
    (deserialize : StateM (Memory × UcdrBuffer) (Option α)) (fits : α → Prop)
    (filling : Filling (Option α)) : Prop where
  roundTrips : ∀ a, fits a → RoundTripsExactly serialize deserialize a
  only : ReadsOnly deserialize fits
  records : filling.erase = deserialize
  refuses : ∀ profile s, ∀ fill ∈ filling.fills s, ∀ size ∈ fill.size,
    fill.field.capacity profile < size → (deserialize.run s).1 = none

theorem exact_of_fields [MicroCdr] [LawfulMicroCdr] {α : Type}
    {serialize : Memory → UcdrBuffer → α → Bool × Memory × UcdrBuffer}
    {deserialize : StateM (Memory × UcdrBuffer) (Option α)} {fits : α → Prop}
    {filling : Filling (Option α)} {fields : α → List Field}
    (hserializes : ∀ a, Serializes (fun m ub => serialize m ub a) (fields a))
    (hdecodes : ∀ a, fits a → Decodes deserialize a (fields a))
    (honly : ReadsOnly deserialize fits) (hrecords : filling.erase = deserialize)
    (hbounded : ∀ profile, filling.Bounded (SequenceField.capacity profile)) :
    Exact serialize deserialize fits filling where
  roundTrips a hfits := roundTripsExactly_of_fields (hserializes a) (hdecodes a hfits)
  only := honly
  records := hrecords
  refuses profile s fill hmem size hsize hlarge := by
    rw [← hrecords]
    exact (hbounded profile).refuses hmem hsize hlarge

section

variable [MicroCdr] [BoundedMicroCdr]

/-- The payloads of WRITE_DATA and of DATA with some content. -/
theorem exact_dataPayload {α : Type}
    {serialize : Memory → UcdrBuffer → α → Bool × Memory × UcdrBuffer}
    {deserialize : StateM (Memory × UcdrBuffer) (Option α)} {fits : α → Prop}
    {filling : Filling (Option α)} {fields : α → List Field}
    (hserializes : ∀ a, Serializes (fun m ub => serialize m ub a) (fields a))
    (hdecodes : ∀ a, fits a → Decodes deserialize a (fields a))
    (honly : ReadsOnly deserialize fits) (hrecords : filling.erase = deserialize)
    (hbounded : ∀ profile, filling.Bounded (SequenceField.capacity profile)) :
    Exact (serializeDataPayload Device.plain serialize)
      (deserializeDataPayload Device.plain deserialize) (DataPayload.Fits · fits)
      (fillDataPayload filling) :=
  exact_of_fields (fun payload => serializes_dataPayload hserializes payload)
    (fun payload hfits => decodes_dataPayload hfits.1 (hdecodes payload.content hfits.2))
    (readsOnly_dataPayload honly)
    ((erase_fillDataPayload filling).trans (by rw [hrecords]))
    fun profile => bounded_dataPayload (hbounded profile)

/-- The formats of samples round trip, and the payloads of WRITE_DATA and DATA with them do. -/
theorem sample_formats_round_trip :
    Exact (serializeSample Device.plain) (deserializeSample Device.plain) Sample.Fits fillSample ∧
    Exact (serializeSampleSeq Device.plain) (deserializeSampleSeq Device.plain) SampleSeqFits
      fillSampleSeq ∧
    Exact (serializeSampleDataSeq Device.plain) (deserializeSampleDataSeq Device.plain)
      SampleDataSeqFits fillSampleDataSeq ∧
    Exact (serializePackedSamples Device.plain) (deserializePackedSamples Device.plain)
      PackedSamples.Fits fillPackedSamples ∧
    Exact (serializeSamplePackedSeq Device.plain) (deserializeSamplePackedSeq Device.plain)
      SamplePackedSeqFits fillSamplePackedSeq ∧
    Exact (serializeDataRepresentation Device.plain) (deserializeDataRepresentation Device.plain)
      DataRepresentation.Fits fillDataRepresentation ∧
    Exact (serializeWriteDataPayloadData Device.plain)
      (deserializeWriteDataPayloadData Device.plain) BaseObjectRequest.Fits
      (.plain (deserializeBaseObjectRequest Device.plain)) ∧
    Exact (serializeWriteDataPayloadSample Device.plain)
      (deserializeWriteDataPayloadSample Device.plain) (DataPayload.Fits · Sample.Fits)
      (fillDataPayload fillSample) ∧
    Exact (serializeWriteDataPayloadDataSeq Device.plain)
      (deserializeWriteDataPayloadDataSeq Device.plain) (DataPayload.Fits · SampleDataSeqFits)
      (fillDataPayload fillSampleDataSeq) ∧
    Exact (serializeWriteDataPayloadSampleSeq Device.plain)
      (deserializeWriteDataPayloadSampleSeq Device.plain) (DataPayload.Fits · SampleSeqFits)
      (fillDataPayload fillSampleSeq) ∧
    Exact (serializeWriteDataPayloadPackedSamples Device.plain)
      (deserializeWriteDataPayloadPackedSamples Device.plain) (DataPayload.Fits · PackedSamples.Fits)
      (fillDataPayload fillPackedSamples) ∧
    Exact (serializeDataPayloadData Device.plain) (deserializeDataPayloadData Device.plain)
      BaseObjectRequest.Fits (.plain (deserializeBaseObjectRequest Device.plain)) ∧
    Exact (serializeDataPayloadSample Device.plain) (deserializeDataPayloadSample Device.plain)
      (DataPayload.Fits · Sample.Fits) (fillDataPayload fillSample) ∧
    Exact (serializeDataPayloadDataSeq Device.plain) (deserializeDataPayloadDataSeq Device.plain)
      (DataPayload.Fits · SampleDataSeqFits) (fillDataPayload fillSampleDataSeq) ∧
    Exact (serializeDataPayloadSampleSeq Device.plain)
      (deserializeDataPayloadSampleSeq Device.plain) (DataPayload.Fits · SampleSeqFits)
      (fillDataPayload fillSampleSeq) ∧
    Exact (serializeDataPayloadPackedSamples Device.plain)
      (deserializeDataPayloadPackedSamples Device.plain) (DataPayload.Fits · PackedSamples.Fits)
      (fillDataPayload fillPackedSamples) := by
  have hrequest : Exact (serializeBaseObjectRequest Device.plain)
      (deserializeBaseObjectRequest Device.plain) BaseObjectRequest.Fits
      (.plain (deserializeBaseObjectRequest Device.plain)) :=
    exact_of_fields serializes_baseObjectRequest (fun _ => decodes_baseObjectRequest)
      readsOnly_baseObjectRequest rfl fun _ => Filling.bounded_plain _
  have hsample := exact_dataPayload serializes_sample (fun _ => decodes_sample) readsOnly_sample
    erase_fillSample fun _ => bounded_sample
  have hdataSeq := exact_dataPayload
    (fun all => serializes_seq all serializes_binarySequence) (fun _ => decodes_sampleDataSeq)
    readsOnly_sampleDataSeq erase_fillSampleDataSeq fun _ => bounded_sampleDataSeq
  have hsampleSeq := exact_dataPayload (fun all => serializes_seq all serializes_sample)
    (fun _ => decodes_sampleSeq) readsOnly_sampleSeq erase_fillSampleSeq fun _ => bounded_sampleSeq
  have hpacked := exact_dataPayload serializes_packedSamples (fun _ => decodes_packedSamples)
    readsOnly_packedSamples erase_fillPackedSamples fun _ => bounded_packedSamples
  refine ⟨?_, ?_, ?_, ?_, ?_, ?_, hrequest, hsample, hdataSeq, hsampleSeq, hpacked, hrequest,
    hsample, hdataSeq, hsampleSeq, hpacked⟩
  · exact exact_of_fields serializes_sample (fun _ => decodes_sample) readsOnly_sample
      erase_fillSample fun _ => bounded_sample
  · exact exact_of_fields (fun all => serializes_seq all serializes_sample)
      (fun _ => decodes_sampleSeq) readsOnly_sampleSeq erase_fillSampleSeq
      fun _ => bounded_sampleSeq
  · exact exact_of_fields (fun all => serializes_seq all serializes_binarySequence)
      (fun _ => decodes_sampleDataSeq) readsOnly_sampleDataSeq erase_fillSampleDataSeq
      fun _ => bounded_sampleDataSeq
  · exact exact_of_fields serializes_packedSamples (fun _ => decodes_packedSamples)
      readsOnly_packedSamples erase_fillPackedSamples fun _ => bounded_packedSamples
  · exact exact_of_fields (fun all => serializes_seq all serializes_packedSamples)
      (fun _ => decodes_samplePackedSeq) readsOnly_samplePackedSeq erase_fillSamplePackedSeq
      fun _ => bounded_samplePackedSeq
  · exact exact_of_fields serializes_dataRepresentation (fun _ => decodes_dataRepresentation)
      readsOnly_dataRepresentation erase_fillDataRepresentation fun _ => bounded_dataRepresentation

end

/-- Two samples with one byte each, of which one has a detail. -/
def twoSamples : List Sample :=
  [{ info := { state := 0, detail := .timestamp 1 5 }, data := [0xAA] },
    { info := { state := 4, detail := .other 3 }, data := [0xBB] }]

theorem sample_formats_round_trip_twoSamples :
    RoundTripsExactly (@serializeSampleSeq referenceMicroCdr _ Device.plain)
      (@deserializeSampleSeq referenceMicroCdr _ Device.plain) twoSamples := by
  have hall := @sample_formats_round_trip referenceMicroCdr referenceMicroCdr_bounded
  refine hall.2.1.roundTrips twoSamples ⟨by decide, ?_⟩
  rintro sample hmem
  simp only [twoSamples, List.mem_cons, List.not_mem_nil, or_false] at hmem
  have hroom : 1 ≤ sampleDataSizeMax := by decide
  have hother : (3 : UInt32) ∉ ([0, 1, 2] : List UInt32) := by decide
  rcases hmem with rfl | rfl
  · exact ⟨trivial, hroom⟩
  · exact ⟨hother, hroom⟩

end XrceTypes

end XrceClient
