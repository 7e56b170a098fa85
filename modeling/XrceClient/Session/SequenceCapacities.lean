import XrceClient.Session.SequenceBounds

/-!
# All deserializers of sequences

- `SequenceDecoder`: the functions `uxr_deserialize_…` under which there is a sequence, each with
  its deserializer and the record of what this one does with the arrays.
- `UserDataFit`: the user data of an endpoint, which are read with the bound of another type, have
  room in their array.
- `capacities_respected_iff`: every deserializer stays within the capacities of its arrays, and
  those of endpoints do where the user data have room.
-/

namespace XrceClient

open ByteMemory Filling XrceTypes

/-! ## The deserializers -/

/-- The functions `uxr_deserialize_…` that fill a sequence, or call one that does. -/
inductive SequenceDecoder where
  | binarySequence
  | stringSequence
  | transportLocatorSeq
  | propertySeq
  | clientRepresentation
  | formats (family : FormatFamily)
  | participantRepresentation
  | withObjectId (family : FormatFamily)
      (variant : RepresentationFormats → List UInt8 → ObjectVariant)
  | objectVariant (output : List Property)
  | agentActivityInfo
  | activityInfoVariant
  | objectInfo (output : List Property)
  | createPayload (output : List Property)
  | infoPayload (output : List Property)
  | groupBinaryQos
  | groupBinary
  | endpointQosBinary
  | dataWriterBinaryQos
  | dataReaderBinaryQos
  | dataWriterBinary
  | dataReaderBinary
  | sampleData
  | sampleDataSeq
  | sample
  | sampleSeq
  | sampleDelta
  | sampleDeltaSequence
  | packedSamples
  | samplePackedSeq
  | dataRepresentation
  | dataPayloadSample
  | dataPayloadDataSeq
  | dataPayloadSampleSeq
  | dataPayloadPackedSamples

namespace SequenceDecoder

/-- The type of the output. -/
def Output : SequenceDecoder → Type
  | binarySequence => List UInt8
  | stringSequence => List (List UInt8)
  | transportLocatorSeq => List TransportLocator
  | propertySeq => List Property
  | clientRepresentation => ClientRepresentation
  | formats _ => RepresentationFormats
  | participantRepresentation | withObjectId .. | objectVariant _ => ObjectVariant
  | agentActivityInfo | activityInfoVariant => ActivityInfoVariant
  | objectInfo _ => ObjectInfo
  | createPayload _ => CreatePayload
  | infoPayload _ => InfoPayload
  | groupBinaryQos => GroupBinaryQos
  | groupBinary => GroupBinary
  | endpointQosBinary => EndpointQosBinary
  | dataWriterBinaryQos => DataWriterBinaryQos
  | dataReaderBinaryQos => DataReaderBinaryQos
  | dataWriterBinary => DataWriterBinary
  | dataReaderBinary => DataReaderBinary
  | sampleData => List UInt8
  | sampleDataSeq => List (List UInt8)
  | sample => Sample
  | sampleSeq => List Sample
  | sampleDelta => SampleDelta
  | sampleDeltaSequence => List SampleDelta
  | packedSamples => PackedSamples
  | samplePackedSeq => List PackedSamples
  | dataRepresentation => DataRepresentation
  | dataPayloadSample => DataPayload Sample
  | dataPayloadDataSeq => DataPayload (List (List UInt8))
  | dataPayloadSampleSeq => DataPayload (List Sample)
  | dataPayloadPackedSamples => DataPayload PackedSamples

variable [MicroCdr] (profile : BuildProfile)

/-- The deserializer of the source. -/
def deserialize : (decoder : SequenceDecoder) →
    StateM (Memory × UcdrBuffer) (Option decoder.Output)
  | binarySequence => deserializeBinarySequence Device.plain
  | stringSequence => deserializeStringSequence Device.plain
  | transportLocatorSeq => deserializeTransportLocatorSeq Device.plain
  | propertySeq => deserializePropertySeq Device.plain profile
  | clientRepresentation => deserializeCreateClientPayload Device.plain profile
  | formats family => deserializeFormats Device.plain family
  | participantRepresentation => deserializeParticipantRepresentation Device.plain
  | withObjectId family variant => deserializeWithObjectId Device.plain family variant
  | objectVariant output => deserializeObjectVariant Device.plain profile output
  | agentActivityInfo => deserializeAgentActivityInfo Device.plain
  | activityInfoVariant => deserializeActivityInfoVariant Device.plain
  | objectInfo output => deserializeObjectInfo Device.plain profile output
  | createPayload output => deserializeCreatePayload Device.plain profile output
  | infoPayload output => XrceTypes.deserializeInfoPayload Device.plain profile output
  | groupBinaryQos => deserializeGroupBinaryQos Device.plain
  | groupBinary => deserializeGroupBinary Device.plain
  | endpointQosBinary => deserializeEndpointQosBinary Device.plain
  | dataWriterBinaryQos => deserializeDataWriterBinaryQos Device.plain
  | dataReaderBinaryQos => deserializeDataReaderBinaryQos Device.plain
  | dataWriterBinary => deserializeDataWriterBinary Device.plain
  | dataReaderBinary => deserializeDataReaderBinary Device.plain
  | sampleData => deserializeSampleData Device.plain
  | sampleDataSeq => deserializeSampleDataSeq Device.plain
  | sample => deserializeSample Device.plain
  | sampleSeq => deserializeSampleSeq Device.plain
  | sampleDelta => deserializeSampleDelta Device.plain
  | sampleDeltaSequence => deserializeSampleDeltaSequence Device.plain
  | packedSamples => deserializePackedSamples Device.plain
  | samplePackedSeq => deserializeSamplePackedSeq Device.plain
  | dataRepresentation => deserializeDataRepresentation Device.plain
  | dataPayloadSample => deserializeDataPayload Device.plain (deserializeSample Device.plain)
  | dataPayloadDataSeq =>
    deserializeDataPayload Device.plain (deserializeSampleDataSeq Device.plain)
  | dataPayloadSampleSeq =>
    deserializeDataPayload Device.plain (deserializeSampleSeq Device.plain)
  | dataPayloadPackedSamples =>
    deserializeDataPayload Device.plain (deserializePackedSamples Device.plain)

/-- The deserializer with the record of what it does with the arrays. -/
def filling : (decoder : SequenceDecoder) → Filling (Option decoder.Output)
  | binarySequence => fillSequence .representation binarySequenceMax
  | stringSequence => fillStringSequence
  | transportLocatorSeq => fillTransportLocatorSeq
  | propertySeq => fillPropertySeq profile
  | clientRepresentation => fillCreateClientPayload profile
  | formats family => fillFormats family
  | participantRepresentation => fillParticipantRepresentation
  | withObjectId family variant => fillWithObjectId family variant
  | objectVariant output => fillObjectVariant profile output
  | agentActivityInfo => fillAgentActivityInfo
  | activityInfoVariant => fillActivityInfoVariant
  | objectInfo output => fillObjectInfo profile output
  | createPayload output => fillCreatePayload profile output
  | infoPayload output => fillInfoPayload profile output
  | groupBinaryQos => fillGroupBinaryQos
  | groupBinary => fillGroupBinary
  | endpointQosBinary => fillEndpointQosBinary
  | dataWriterBinaryQos => fillDataWriterBinaryQos
  | dataReaderBinaryQos => fillDataReaderBinaryQos
  | dataWriterBinary => fillDataWriterBinary
  | dataReaderBinary => fillDataReaderBinary
  | sampleData => fillSampleData
  | sampleDataSeq => fillSampleDataSeq
  | sample => fillSample
  | sampleSeq => fillSampleSeq
  | sampleDelta => fillSampleDelta
  | sampleDeltaSequence => fillSampleDeltaSequence
  | packedSamples => fillPackedSamples
  | samplePackedSeq => fillSamplePackedSeq
  | dataRepresentation => fillDataRepresentation
  | dataPayloadSample => fillDataPayload fillSample
  | dataPayloadDataSeq => fillDataPayload fillSampleDataSeq
  | dataPayloadSampleSeq => fillDataPayload fillSampleSeq
  | dataPayloadPackedSamples => fillDataPayload fillPackedSamples

/-- Without the record it is the deserializer of the source. -/
theorem erase_filling (decoder : SequenceDecoder) :
    (decoder.filling profile).erase = decoder.deserialize profile := by
  cases decoder with
  | binarySequence => rfl
  | stringSequence => exact erase_fillStringSequence
  | transportLocatorSeq => exact erase_fillSeq _ _ _
  | propertySeq => exact erase_fillSeq _ _ _
  | clientRepresentation => exact erase_fillCreateClientPayload profile
  | formats family => exact erase_fillFormats family
  | participantRepresentation => exact erase_fillParticipantRepresentation
  | withObjectId family variant => exact erase_fillWithObjectId family variant
  | objectVariant output => exact erase_fillObjectVariant profile output
  | agentActivityInfo => exact erase_fillAgentActivityInfo
  | activityInfoVariant => exact erase_fillActivityInfoVariant
  | objectInfo output => exact erase_fillObjectInfo profile output
  | createPayload output => exact erase_fillCreatePayload profile output
  | infoPayload output => exact erase_fillInfoPayload profile output
  | groupBinaryQos => exact erase_fillGroupBinaryQos
  | groupBinary => exact erase_fillGroupBinary
  | endpointQosBinary => exact erase_fillEndpointQosBinary
  | dataWriterBinaryQos => exact erase_fillDataWriterBinaryQos
  | dataReaderBinaryQos => exact erase_fillDataReaderBinaryQos
  | dataWriterBinary => exact erase_fillDataWriterBinary
  | dataReaderBinary => exact erase_fillDataReaderBinary
  | sampleData => exact erase_fillSampleData
  | sampleDataSeq => exact erase_fillSampleDataSeq
  | sample => exact erase_fillSample
  | sampleSeq => exact erase_fillSampleSeq
  | sampleDelta => exact erase_fillSampleDelta
  | sampleDeltaSequence => exact erase_fillSampleDeltaSequence
  | packedSamples => exact erase_fillPackedSamples
  | samplePackedSeq => exact erase_fillSamplePackedSeq
  | dataRepresentation => exact erase_fillDataRepresentation
  | dataPayloadSample => rfl
  | dataPayloadDataSeq =>
    exact (erase_fillDataPayload _).trans (by rw [erase_fillSampleDataSeq]; rfl)
  | dataPayloadSampleSeq => exact (erase_fillDataPayload _).trans (by rw [erase_fillSampleSeq]; rfl)
  | dataPayloadPackedSamples =>
    exact (erase_fillDataPayload _).trans (by rw [erase_fillPackedSamples]; rfl)

end SequenceDecoder

/-! ## User data of endpoints -/

namespace XrceTypes

variable [MicroCdr]

/-- The flag of optional content, and whether there is some. -/
def optionalAhead : StateM (Memory × UcdrBuffer) Bool := do
  let flag ← readScalar Device.plain 1
  return flag.getD 0 ≠ 0

/-- What is in front of the user data of an endpoint, and whether there are some. -/
def userDataAhead : StateM (Memory × UcdrBuffer) Bool := do
  let _ ← deserializeUint16 Device.plain
  let _ ← deserializeOptional Device.plain (deserializeUint16 Device.plain)
  let _ ← deserializeOptional Device.plain (deserializeUint32 Device.plain)
  let _ ← deserializeOptional Device.plain (deserializeUint32 Device.plain)
  optionalAhead

/-- What is in front of the quality of service of a writer or a reader, and whether there is one. -/
def qosAhead : StateM (Memory × UcdrBuffer) Bool := do
  let _ ← readArray Device.plain 2
  optionalAhead

/-- Bytes have room in an array of the given capacity, or are refused by a reader that has the
given bound, or the buffer ends before the array does. -/
def SequenceHasRoom (capacity bound : Nat) (s : Memory × UcdrBuffer) : Prop :=
  ∀ size ∈ ((readScalar Device.plain 4).run s).1,
    size ≤ capacity ∨ bound < size ∨ ((readScalar Device.plain 4).run s).2.2.moved size ≤ capacity

/-- The user data of an endpoint have room in their array. -/
def UserDataFit (s : Memory × UcdrBuffer) : Prop :=
  (userDataAhead.run s).1 = true →
    SequenceHasRoom binarySequenceSmallMax binarySequenceMax (userDataAhead.run s).2

/-- The user data of a writer or a reader have room in their array. -/
def QosUserDataFit (s : Memory × UcdrBuffer) : Prop :=
  (qosAhead.run s).1 = true → UserDataFit (qosAhead.run s).2

theorem fills_optional {α : Type} (content : Filling (Option α)) (s : Memory × UcdrBuffer) :
    (fillOptional content).fills s =
      if (optionalAhead.run s).1 = true then content.fills (optionalAhead.run s).2 else [] := by
  have hif (flag : Option Nat) (s : Memory × UcdrBuffer) :
      (fillIfSet flag (Option.map some <$> content) none).fills s =
        if decide (flag.getD 0 ≠ 0) = true then content.fills s else [] := by
    rw [fillIfSet]
    by_cases hflag : flag.getD 0 ≠ 0
    · rw [if_pos hflag, if_pos (decide_eq_true hflag)]
      exact fills_map _ _ _
    · rw [if_neg hflag, if_neg fun h => hflag (of_decide_eq_true h)]
      rfl
  rw [fillOptional, fills_bind, fills_bind, hif]
  simp only [fills_plain, fills_pure, List.nil_append, List.append_nil]
  rfl

/-- Of an endpoint, the array of the user data is filled. -/
theorem fills_endpointQosBinary (s : Memory × UcdrBuffer) :
    fillEndpointQosBinary.fills s =
      if (userDataAhead.run s).1 = true then
        (fillSequence .userData binarySequenceMax).fills (userDataAhead.run s).2
      else [] := by
  rw [fillEndpointQosBinary]
  simp only [fills_bind, fills_plain, fills_pure, List.nil_append, List.append_nil,
    fills_optional]
  rfl

/-- Of a writer or a reader, the arrays of its quality of service are filled. -/
theorem fills_qosAhead {α β : Type} (qos : Filling (Option α))
    (output : Option (List UInt8) → Option (Option α) → Option β) (s : Memory × UcdrBuffer) :
    (do
      let topicId ← plain (readArray Device.plain 2)
      let qos ← fillOptional qos
      return output topicId qos : Filling (Option β)).fills s =
      if (qosAhead.run s).1 = true then qos.fills (qosAhead.run s).2 else [] := by
  simp only [fills_bind, fills_plain, fills_pure, List.nil_append, List.append_nil,
    fills_optional]
  rfl

theorem fills_dataWriterBinaryQos (s : Memory × UcdrBuffer) :
    fillDataWriterBinaryQos.fills s = fillEndpointQosBinary.fills s := by
  simp [fillDataWriterBinaryQos]

theorem fills_dataReaderBinaryQos (s : Memory × UcdrBuffer) :
    fillDataReaderBinaryQos.fills s = fillEndpointQosBinary.fills s := by
  simp [fillDataReaderBinaryQos]

/-! ## The capacities -/

/-- Where as many bytes are read as are wanted, that many are moved. -/
theorem moved_of_read [BoundedMicroCdr] {n : Nat} {s : Memory × UcdrBuffer} (hsound : s.2.Sound)
    (hread : ((readArray Device.plain n).run s).1.isSome = true) : s.2.moved n = n := by
  obtain ⟨m, ub⟩ := s
  dsimp only at hsound ⊢
  by_cases hn : n = 0
  · rw [hn]
    exact Nat.le_zero.mp (ub.moved_le 0)
  rw [UcdrBuffer.moved]
  by_cases herror : ub.error = true
  · have hnone : ucdrDeserializeArray Device.plain m ub n = _ :=
      StickyMicroCdr.deserializeArray_error m (Nat.pos_of_ne_zero hn) herror
    rw [show (readArray Device.plain n).run (m, ub) = _ from hnone] at hread
    exact absurd hread Bool.false_ne_true
  rw [if_neg herror]
  have hle : ub.iterator ≤ ub.final := hsound.resolve_left herror
  by_cases hroom : ub.iterator + n ≤ ub.final
  · omega
  · obtain ⟨ub', hstops, -⟩ := getStops_plain m (Bool.eq_false_iff.mpr herror) hle
      (Nat.lt_of_not_le hroom)
    rw [show (readArray Device.plain n).run (m, ub) = _ from
      LawfulMicroCdr.deserializeArray_stops hstops] at hread
    exact absurd hread Bool.false_ne_true

/-- What a reader of bytes reads, it reads behind the size. -/
theorem array_of_sequence {bound : Nat} {s : Memory × UcdrBuffer}
    (hle : ¬ bound < ((readScalar Device.plain 4).run s).1.getD 0)
    (hread : ((deserializeSequence Device.plain bound).run s).1.isSome = true) :
    ((readArray Device.plain (((readScalar Device.plain 4).run s).1.getD 0)).run
      ((readScalar Device.plain 4).run s).2).1.isSome = true := by
  rw [deserializeSequence, StateT.run_bind] at hread
  change ((if _ then _ else _ : StateM (Memory × UcdrBuffer) (Option (List UInt8))).run _).1.isSome
    = true at hread
  rw [if_neg hle] at hread
  change (((readScalar Device.plain 4).run s).1.bind fun _ => ((readArray Device.plain
    (((readScalar Device.plain 4).run s).1.getD 0)).run
      ((readScalar Device.plain 4).run s).2).1).isSome = true at hread
  obtain ⟨bytes, hbytes⟩ := Option.isSome_iff_exists.mp hread
  obtain ⟨-, -, hbytes⟩ := Option.bind_eq_some_iff.mp hbytes
  rw [hbytes]
  rfl

/-- Bytes that are read with some bound respect an array of a smaller capacity where they have room
in it. -/
theorem respects_sequence_iff [BoundedMicroCdr] {profile : BuildProfile} {field : SequenceField}
    {bound : Nat} {s : Memory × UcdrBuffer} (hsound : s.2.Sound) :
    (∀ fill ∈ (fillSequence field bound).fills s, fill.Respects profile) ↔
      SequenceHasRoom (field.capacity profile) bound s := by
  obtain ⟨result, ub, hrun, hbehind, -⟩ :=
    readsOnly_scalar (by simp : 4 ∈ [1, 2, 4, 8]) s.1 s.2 hsound
  have hsize : (readScalar Device.plain 4).run s = (result, s.1, ub) := hrun
  have hfills : (fillSequence field bound).fills s =
      [{ field
         size := result
         written := if bound < result.getD 0 then 0 else ub.moved (result.getD 0)
         filled := ((deserializeSequence Device.plain bound).run s).1.isSome }] := by
    rw [fills_sequence, hsize]
  rw [hfills, SequenceHasRoom, hsize]
  have hmoved (hle : ¬ bound < result.getD 0)
      (hfilled : ((deserializeSequence Device.plain bound).run s).1.isSome = true) :
      ub.moved (result.getD 0) = result.getD 0 := by
    have hread := @array_of_sequence _ bound s (by rw [hsize]; exact hle) hfilled
    rw [hsize] at hread
    exact moved_of_read hbehind hread
  constructor
  · intro h size hmem
    obtain ⟨hwritten, -⟩ := h _ List.mem_cons_self
    obtain rfl : result = some size := hmem
    by_cases hlarge : bound < size
    · exact .inr (.inl hlarge)
    · refine .inr (.inr ?_)
      dsimp only [Option.getD_some] at hwritten
      rw [if_neg hlarge] at hwritten
      exact hwritten
  · intro h fill hmem
    obtain rfl := List.mem_singleton.mp hmem
    cases result with
    | none =>
      -- Without a size nothing is written.
      refine ⟨?_, fun _ size hsize => absurd hsize nofun⟩
      show (if _ then 0 else _) ≤ _
      rw [Option.getD_none, if_neg (Nat.not_lt_zero bound)]
      exact Nat.le_trans (ub.moved_le 0) (Nat.zero_le _)
    | some size =>
      have hroom := h size rfl
      dsimp only [Option.getD_some] at hmoved hroom ⊢
      have hmovedLe := ub.moved_le size
      by_cases hlarge : bound < size
      · refine ⟨?_, fun hfilled => ?_⟩
        · dsimp only
          rw [if_pos hlarge]
          exact Nat.zero_le _
        · dsimp only at hfilled
          rw [@sequence_refused _ bound s (by rw [hsize]; exact hlarge)] at hfilled
          exact absurd hfilled nofun
      · refine ⟨?_, fun hfilled n hn => ?_⟩
        · dsimp only
          rw [if_neg hlarge]
          omega
        · obtain rfl := Option.some.inj hn
          have hall := hmoved hlarge hfilled
          dsimp only
          omega

section

variable [BoundedMicroCdr]

/-- An integer of any of the widths can be read from a sound buffer, or not. -/
theorem readsOnly_number {α : Type} {width : Nat} (hwidth : width ∈ [1, 2, 4, 8]) (f : Nat → α) :
    ReadsOnly (Option.map f <$> readScalar Device.plain width) fun _ => True :=
  (readsOnly_scalar hwidth).map fun _ _ => trivial

theorem userDataAhead_sound {s : Memory × UcdrBuffer} (hsound : s.2.Sound) :
    (userDataAhead.run s).2.2.Sound := by
  have hshort := readsOnly_number (by simp : 2 ∈ [1, 2, 4, 8]) UInt16.ofNat
  have hlong := readsOnly_number (by simp : 4 ∈ [1, 2, 4, 8]) UInt32.ofNat
  have hdepth := (readsOnly_optional hshort).sound (hshort.sound hsound)
  have hlifespan := (readsOnly_optional hlong).sound ((readsOnly_optional hlong).sound hdepth)
  exact (readsOnly_scalar (by simp)).sound hlifespan

theorem qosAhead_sound {s : Memory × UcdrBuffer} (hsound : s.2.Sound) :
    (qosAhead.run s).2.2.Sound :=
  (readsOnly_scalar (by simp)).sound ((readsOnly_array 2).sound hsound)

theorem respects_endpointQosBinary_iff {profile : BuildProfile} {s : Memory × UcdrBuffer}
    (hsound : s.2.Sound) :
    (∀ fill ∈ fillEndpointQosBinary.fills s, fill.Respects profile) ↔ UserDataFit s := by
  rw [fills_endpointQosBinary, UserDataFit]
  split
  · next hdata =>
    rw [respects_sequence_iff (userDataAhead_sound hsound)]
    exact ⟨fun h _ => h, fun h => h hdata⟩
  · next hdata =>
    exact ⟨fun _ h => absurd h hdata, fun _ _ hmem => absurd hmem List.not_mem_nil⟩

/-- A quality of service that fills arrays as an endpoint does, behind the identifier of a topic. -/
theorem respects_qos_iff {profile : BuildProfile} {s : Memory × UcdrBuffer} {fills : List Fill}
    {qosFills : Memory × UcdrBuffer → List Fill} (hsound : s.2.Sound)
    (hqos : ∀ s, qosFills s = fillEndpointQosBinary.fills s)
    (hfills : fills = if (qosAhead.run s).1 = true then qosFills (qosAhead.run s).2 else []) :
    (∀ fill ∈ fills, fill.Respects profile) ↔ QosUserDataFit s := by
  rw [hfills, QosUserDataFit]
  split
  · next hahead =>
    rw [hqos, respects_endpointQosBinary_iff (qosAhead_sound hsound)]
    exact ⟨fun h _ => h, fun h => h hahead⟩
  · next hahead =>
    exact ⟨fun _ h => absurd h hahead, fun _ _ hmem => absurd hmem List.not_mem_nil⟩

end

end XrceTypes

namespace SequenceDecoder

variable [MicroCdr]

/-- The user data that the deserializer reads, if it reads some, have room in their array. -/
def UserDataFit : SequenceDecoder → Memory × UcdrBuffer → Prop
  | endpointQosBinary, s | dataWriterBinaryQos, s | dataReaderBinaryQos, s =>
    XrceTypes.UserDataFit s
  | dataWriterBinary, s | dataReaderBinary, s => QosUserDataFit s
  | _, _ => True

/-- Every deserializer stays within the capacities of its arrays and accepts no size that is larger,
but those that read user data of an endpoint: these do where the user data have room. The record is
the one of the deserializer of the source. -/
theorem capacities_respected_iff [BoundedMicroCdr] (profile : BuildProfile)
    (decoder : SequenceDecoder) :
    (decoder.filling profile).erase = decoder.deserialize profile ∧
      ∀ m ub, ub.error = false → ub.iterator ≤ ub.final →
        ((∀ fill ∈ (decoder.filling profile).fills (m, ub), fill.Respects profile) ↔
          decoder.UserDataFit (m, ub)) := by
  refine ⟨decoder.erase_filling profile, fun m ub hok hle => ?_⟩
  have hsound : (m, ub).2.Sound := .inr hle
  have hbounded {α : Type} {q : Filling (Option α)}
      (h : q.Bounded (SequenceField.capacity profile)) :
      (∀ fill ∈ q.fills (m, ub), fill.Respects profile) ↔ True := iff_true_intro (h.within (m, ub))
  cases decoder with
  | binarySequence => exact hbounded (bounded_sequence (Nat.le_refl _))
  | stringSequence => exact hbounded bounded_stringSequence
  | transportLocatorSeq => exact hbounded bounded_transportLocatorSeq
  | propertySeq => exact hbounded bounded_propertySeq
  | clientRepresentation => exact hbounded bounded_createClientPayload
  | formats family => exact hbounded (bounded_formats family)
  | participantRepresentation => exact hbounded bounded_participantRepresentation
  | withObjectId family variant => exact hbounded (bounded_withObjectId family variant)
  | objectVariant output => exact hbounded (bounded_objectVariant output)
  | agentActivityInfo => exact hbounded bounded_agentActivityInfo
  | activityInfoVariant => exact hbounded bounded_activityInfoVariant
  | objectInfo output => exact hbounded (bounded_objectInfo output)
  | createPayload output => exact hbounded (bounded_createPayload output)
  | infoPayload output => exact hbounded (bounded_infoPayload output)
  | groupBinaryQos => exact hbounded bounded_groupBinaryQos
  | groupBinary => exact hbounded bounded_groupBinary
  | endpointQosBinary => exact respects_endpointQosBinary_iff hsound
  | dataWriterBinaryQos =>
    have hfills := fills_dataWriterBinaryQos (m, ub)
    rw [show (filling profile dataWriterBinaryQos).fills (m, ub) = _ from hfills]
    exact respects_endpointQosBinary_iff hsound
  | dataReaderBinaryQos =>
    have hfills := fills_dataReaderBinaryQos (m, ub)
    rw [show (filling profile dataReaderBinaryQos).fills (m, ub) = _ from hfills]
    exact respects_endpointQosBinary_iff hsound
  | dataWriterBinary =>
    exact respects_qos_iff hsound fills_dataWriterBinaryQos (fills_qosAhead _ _ (m, ub))
  | dataReaderBinary =>
    exact respects_qos_iff hsound fills_dataReaderBinaryQos (fills_qosAhead _ _ (m, ub))
  | sampleData => exact hbounded bounded_sampleData
  | sampleDataSeq => exact hbounded bounded_sampleDataSeq
  | sample => exact hbounded bounded_sample
  | sampleSeq => exact hbounded bounded_sampleSeq
  | sampleDelta => exact hbounded bounded_sampleDelta
  | sampleDeltaSequence => exact hbounded bounded_sampleDeltaSequence
  | packedSamples => exact hbounded bounded_packedSamples
  | samplePackedSeq => exact hbounded bounded_samplePackedSeq
  | dataRepresentation => exact hbounded bounded_dataRepresentation
  | dataPayloadSample => exact hbounded (bounded_dataPayload bounded_sample)
  | dataPayloadDataSeq => exact hbounded (bounded_dataPayload bounded_sampleDataSeq)
  | dataPayloadSampleSeq => exact hbounded (bounded_dataPayload bounded_sampleSeq)
  | dataPayloadPackedSamples => exact hbounded (bounded_dataPayload bounded_packedSamples)

/-- The quality of service of an endpoint, with the flag of the user data and their number in the
byte order of a little-endian machine. -/
def userDataBytes (n : Nat) (a : Nat) : UInt8 :=
  ([0x01, 0x00, 0, 0, 0, 1, 0, 0, UInt8.ofNat n, 0, 0, 0] ++ List.replicate n 0xAB).getD a 0

/-- A buffer of as many bytes, at the start of the memory. -/
def littleEndianBuffer (final : Nat) : UcdrBuffer where
  init := 0
  iterator := 0
  final
  offset := 0
  lastDataSize := 0
  endianness := .littleEndianness
  error := false
  onFullBuffer := none

omit [MicroCdr] in
theorem capacities_respected_iff_small :
    (@filling referenceMicroCdr ⟨false, none⟩ .endpointQosBinary).fills
        (userDataBytes 3, littleEndianBuffer 15) =
      [{ field := .userData, size := some 3, written := 3, filled := true }] ∧
    ∀ fill ∈ ((@filling referenceMicroCdr ⟨false, none⟩ .endpointQosBinary).fills
      (userDataBytes 3, littleEndianBuffer 15)), fill.Respects ⟨false, none⟩ := by
  have hall := (@capacities_respected_iff referenceMicroCdr referenceMicroCdr_bounded
    ⟨false, none⟩ .endpointQosBinary).2 (userDataBytes 3) (littleEndianBuffer 15) rfl (by decide)
  refine ⟨by decide +kernel, hall.mpr fun _ size hsize => .inl ?_⟩
  have hthree : ((@readScalar referenceMicroCdr _ Device.plain 4).run
      ((@userDataAhead referenceMicroCdr).run (userDataBytes 3, littleEndianBuffer 15)).2).1 =
        some 3 := by decide +kernel
  rw [hthree] at hsize
  obtain rfl := Option.some.inj hsize
  decide

omit [MicroCdr] in
/-- Nine bytes of user data are written in an array of eight, and accepted. -/
theorem endpointQos_overflows :
    (@filling referenceMicroCdr ⟨false, none⟩ .endpointQosBinary).fills
        (userDataBytes 9, littleEndianBuffer 21) =
      [{ field := .userData, size := some 9, written := 9, filled := true }] ∧
    ¬ ∀ fill ∈ ((@filling referenceMicroCdr ⟨false, none⟩ .endpointQosBinary).fills
      (userDataBytes 9, littleEndianBuffer 21)), fill.Respects ⟨false, none⟩ := by
  have hfills : (@filling referenceMicroCdr ⟨false, none⟩ .endpointQosBinary).fills
      (userDataBytes 9, littleEndianBuffer 21) =
        [{ field := .userData, size := some 9, written := 9, filled := true }] := by
    decide +kernel
  refine ⟨hfills, fun hrespects => ?_⟩
  rw [hfills] at hrespects
  obtain ⟨hwritten, -⟩ := hrespects _ List.mem_cons_self
  exact absurd hwritten (by decide)

end SequenceDecoder

end XrceClient
