import XrceClient.Session.RepresentationReading

/-!
# What is written of objects is read

- `RoundTrips`: in every buffer with room what is written is read, up to its end.
- `roundTrips_of_fields`, `not_roundTrips`: it does for the fields of the value, and it does not
  for less than these.
- `object_payloads_round_trip`: the payloads with which objects are created and described. All
  values round trip but agents with properties, which the deserializer does not read.
-/

namespace XrceClient

open ByteMemory

/-! ## Round trips -/

/-- In every buffer with enough room the value is written, and from what was written, whatever
comes behind it, the same value is read and the buffer is left as the serializer left it. The
output of the deserializer may have any properties. -/
def RoundTrips {α : Type} (serialize : Memory → UcdrBuffer → α → Bool × Memory × UcdrBuffer)
    (deserialize : List Property → StateM (Memory × UcdrBuffer) (Option α)) (a : α) : Prop :=
  ∃ size, ∀ m ub, ub.error = false → ub.iterator + size ≤ ub.final →
    ∃ m' ub', serialize m ub a = (true, m', ub') ∧
      ∀ output m'', (∀ address < ub'.iterator, m'' address = m' address) →
        (deserialize output).run (m'', ub) = (some a, m'', ub')

section

variable [MicroCdr] [LawfulMicroCdr] {α : Type}
  {serialize : Memory → UcdrBuffer → α → Bool × Memory × UcdrBuffer}
  {deserialize : List Property → StateM (Memory × UcdrBuffer) (Option α)} {a : α}
  {fields : List Field}

/-- A value that is written as fields from which it is read round trips. -/
theorem roundTrips_of_fields
    (hserializes : Serializes (fun m ub => serialize m ub a) fields)
    (hyields : ∀ output, Yields (deserialize output) (some a) fields) :
    RoundTrips serialize deserialize a := by
  refine ⟨fieldsSize (fields.map Field.type) + 7 * fields.length, fun m ub hok hroom => ?_⟩
  have hle := ub.after_ge hserializes.width
  obtain ⟨m', hwritten, hfields⟩ := hserializes.fieldsAt m hok (by omega)
  refine ⟨m', ub.after fields, hwritten, fun output m'' hsame => ?_⟩
  exact hyields output m'' ub hok (hfields.congr hsame) (by omega)

/-- An empty buffer at the start of the memory, at an offset in its payload. -/
def bufferAt (offset final : Nat) : UcdrBuffer where
  init := 0
  iterator := 0
  final
  offset
  lastDataSize := 0
  endianness := .bigEndianness
  error := false
  onFullBuffer := none

/-- A value does not round trip if, at one offset, something in front of the end of what was
written is taken for all of it. -/
theorem not_roundTrips {read : List Field} {result : Option α} {output : List Property}
    (offset : Nat) (hserializes : Serializes (fun m ub => serialize m ub a) fields)
    (hyields : Yields (deserialize output) result read)
    (hread : ∀ m final, FieldsAt m (bufferAt offset final) fields →
      FieldsAt m (bufferAt offset final) read)
    (hshort : ∀ final, ((bufferAt offset final).after read).iterator <
      ((bufferAt offset final).after fields).iterator) :
    ¬ RoundTrips serialize deserialize a := by
  rintro ⟨size, hround⟩
  obtain ⟨final, hfinal⟩ :
      ∃ final, final = size + fieldsSize (fields.map Field.type) + 7 * fields.length := ⟨_, rfl⟩
  have hle := (bufferAt offset final).after_ge hserializes.width
  have hiterator : (bufferAt offset final).iterator = 0 := rfl
  have hroom : ((bufferAt offset final).after fields).iterator ≤ final := by omega
  have hlt := hshort final
  obtain ⟨m', ub', hwritten, hall⟩ := hround (fun _ => 0) (bufferAt offset final) rfl (by
    show 0 + size ≤ final
    omega)
  obtain ⟨m, hwritten', hfields⟩ := hserializes.fieldsAt (fun _ => 0) rfl hroom
  obtain ⟨-, rfl, rfl⟩ : true = true ∧ m' = m ∧ ub' = (bufferAt offset final).after fields := by
    simpa using hwritten.symm.trans hwritten'
  have hrun := hall output m' fun _ _ => rfl
  rw [hyields m' _ rfl (hread _ _ hfields) (by
    show _ ≤ final
    omega)] at hrun
  have hbuffer : (bufferAt offset final).after read = (bufferAt offset final).after fields :=
    congrArg (fun r => r.2.2) hrun
  rw [hbuffer] at hlt
  exact Nat.lt_irrefl _ hlt

/-- What is read up to a place in front of the end of what was written. -/
theorem not_roundTrips_of_front {front rest : List Field} {result : Option α}
    {output : List Property}
    (hserializes : Serializes (fun m ub => serialize m ub a) (front ++ rest))
    (hyields : Yields (deserialize output) result front)
    (hrest : 0 < fieldsSize (rest.map Field.type)) : ¬ RoundTrips serialize deserialize a := by
  refine not_roundTrips 0 hserializes hyields (fun m final h => (fieldsAt_append.mp h).1)
    fun final => ?_
  have hle := ((bufferAt 0 final).after front).after_le rest
  rw [UcdrBuffer.after_append]
  omega

omit [MicroCdr] [LawfulMicroCdr] in
/-- The first byte of a small number is zero, in the byte order of the network. -/
theorem fieldsAt_firstByte {m : Memory} {ub : UcdrBuffer} {n : Nat} {rest : List Field}
    (hendianness : ub.endianness = .bigEndianness) (hpadding : ub.padding 4 = 0) (hn : n < 2 ^ 24)
    (h : FieldsAt m ub (.scalar 4 n :: rest)) : FieldsAt m ub [.scalar 1 0] := by
  have hbytes : read m (ub.iterator + ub.padding 4) 4 = encodeScalar ub.endianness 4 n := h.1
  have hpadding' : ub.padding 1 = 0 := by
    rw [UcdrBuffer.padding]
    split <;> omega
  refine ⟨?_, trivial⟩
  show read m (ub.iterator + ub.padding 1) 1 = encodeScalar ub.endianness 1 0
  rw [hpadding, hendianness, encodeScalar, read_succ] at hbytes
  rw [hpadding', hendianness, encodeScalar, read_succ, read_zero]
  have hfirst : m (ub.iterator + 0) = UInt8.ofNat (n / 256 / 256 / 256) := by
    simpa [leBytes] using congrArg List.head? hbytes
  rw [hfirst, show n / 256 / 256 / 256 = 0 by omega]
  rfl

/-- What is read with the first byte of a number, where the number was written. -/
theorem not_roundTrips_of_number {front rest : List Field} {n : Nat} {result : Option α}
    {output : List Property} (offset : Nat)
    (hserializes : Serializes (fun m ub => serialize m ub a) (front ++ (.scalar 4 n :: rest)))
    (hyields : Yields (deserialize output) result (front ++ [.scalar 1 0])) (hn : n < 2 ^ 24)
    (hpadding : ∀ final, ((bufferAt offset final).after front).padding 4 = 0) :
    ¬ RoundTrips serialize deserialize a := by
  refine not_roundTrips offset hserializes hyields (fun m final h => ?_) fun final => ?_
  · obtain ⟨hfront, hrest⟩ := fieldsAt_append.mp h
    have hendianness := ((bufferAt offset final).after_kept front).2.2
    exact fieldsAt_append.mpr ⟨hfront, fieldsAt_firstByte hendianness (hpadding final) hn hrest⟩
  · rw [UcdrBuffer.after_append, UcdrBuffer.after_append, UcdrBuffer.after_cons]
    have hle := (((bufferAt offset final).after front).behind (.scalar 4)).after_le rest
    have hpadding' : ((bufferAt offset final).after front).padding 1 = 0 := by
      rw [UcdrBuffer.padding]
      split <;> omega
    rw [UcdrBuffer.behind_iterator] at hle
    show _ + ((bufferAt offset final).after front).padding 1 + 1 < _
    have hstart := ((bufferAt offset final).after front).start_le (.scalar 4)
    have hsize : (FieldType.scalar 4).size = 4 := rfl
    show _ < (((bufferAt offset final).after front).behind (.scalar 4) |>.after rest).iterator
    omega

end

/-! ## The payloads -/

namespace XrceTypes

section

variable [MicroCdr] [LawfulMicroCdr] {profile : BuildProfile}

omit [MicroCdr] [LawfulMicroCdr] in
theorem propertiesFields_size (properties : List Property) :
    0 < fieldsSize ((propertiesFields true properties).map Field.type) := by
  rw [propertiesFields, if_pos rfl, sequenceFields, List.map_cons, fieldsSize_cons]
  show 0 < 4 + _
  omega

/-- An agent with properties, up to them. -/
theorem yields_agentVariant_front {representation : AgentRepresentation}
    (hfits : representation.Fits profile) (output : List Property) :
    Yields (deserializeObjectVariant Device.plain profile output)
      (some (.agent (representation.misread output)))
      (.scalar 1 0x0D :: representation.frontFields) := by
  have hread := (yields_agentRepresentation_front hfits output).map
    (Option.map ObjectVariant.agent)
  exact (yields_uint8 0x0D).bind hread

theorem roundTrips_objectVariant {variant : ObjectVariant} (hfits : variant.Fits profile) :
    RoundTrips (serializeObjectVariant Device.plain)
      (deserializeObjectVariant Device.plain profile) variant ↔ ¬ variant.AgentWithProperties := by
  constructor
  · intro hround hagent
    cases variant with
    | agent representation =>
      have hserializes := serializes_objectVariant hfits
      have hflag : representation.optionalProperties = true := hagent
      have hyields := yields_agentVariant_front hfits []
      rw [ObjectVariant.fields, ObjectVariant.content, AgentRepresentation.fields, hflag,
        ← List.cons_append] at hserializes
      exact not_roundTrips_of_front hserializes hyields (propertiesFields_size _) hround
    | _ => exact hagent
  · intro hagent
    exact roundTrips_of_fields (serializes_objectVariant hfits)
      fun output => yields_objectVariant hfits hagent output

/-- Of an agent with properties, the first byte of their number is taken for the flag of the
activity. -/
theorem yields_objectInfo_front {representation : AgentRepresentation}
    (hfits : representation.Fits profile) (output : List Property) :
    Yields (deserializeObjectInfo Device.plain profile output)
      (some { config := some (.agent (representation.misread output)), activity := none })
      (.scalar 1 1 :: .scalar 1 0x0D :: representation.frontFields ++ [.scalar 1 0]) := by
  have hconfig : Yields (deserializeOptional Device.plain
      (deserializeObjectVariant Device.plain profile output))
      (some (some (.agent (representation.misread output))))
      (.scalar 1 1 :: .scalar 1 0x0D :: representation.frontFields) := by
    have hvariant := (yields_agentVariant_front hfits output).map (Option.map some)
    exact (yields_flag true).bind (hvariant.bind_pure _)
  have hactivity : Yields (deserializeOptional Device.plain
      (deserializeActivityInfoVariant Device.plain)) (some none) [.scalar 1 0] :=
    (yields_flag false).bind ((yields_pure (some none)).bind_pure _)
  exact hconfig.bind (hactivity.bind_pure _)

omit [MicroCdr] [LawfulMicroCdr] in
/-- The fields of an object that is an agent with properties. -/
theorem objectInfo_fields {info : ObjectInfo} {representation : AgentRepresentation}
    (hconfig : info.config = some (.agent representation))
    (hflag : representation.optionalProperties = true) :
    info.fields =
      (.scalar 1 1 :: .scalar 1 0x0D :: representation.frontFields) ++
        (.scalar 4 representation.properties.length ::
          (representation.properties.flatMap Property.fields ++
            optionalFields ActivityInfoVariant.fields info.activity)) := by
  obtain ⟨config, activity⟩ := info
  obtain rfl : config = _ := hconfig
  simp [ObjectInfo.fields, optionalFields, ObjectVariant.fields, ObjectVariant.content,
    ObjectVariant.kind, AgentRepresentation.fields, propertiesFields, hflag, sequenceFields]

omit [MicroCdr] [LawfulMicroCdr] in
/-- From one offset on, the number of the properties needs no padding. -/
theorem padding_front {representation : AgentRepresentation} (hfits : representation.Fits profile)
    (front : List Field) (offset : Nat)
    (hoffset : ∀ final, ((bufferAt offset final).after front).offset % 4 = 1) (final : Nat) :
    ((bufferAt offset final).after (front ++
      (.scalar 1 1 :: .scalar 1 0x0D :: representation.frontFields))).padding 4 = 0 := by
  obtain ⟨hcookie, hversion, hvendor, -⟩ := hfits
  have hmod := hoffset final
  rw [UcdrBuffer.after_append]
  generalize (bufferAt offset final).after front = ub at hmod
  have hone (ub : UcdrBuffer) : ub.padding 1 = 0 := by
    rw [UcdrBuffer.padding]
    split <;> omega
  simp only [AgentRepresentation.frontFields, UcdrBuffer.after_cons, UcdrBuffer.after_nil,
    UcdrBuffer.behind, Field.type, hone, hcookie, hversion, hvendor, Nat.add_zero]
  rw [UcdrBuffer.padding]
  simp only
  split <;> omega

omit [MicroCdr] [LawfulMicroCdr] in
theorem properties_length {representation : AgentRepresentation}
    (hfits : representation.Fits profile) (hflag : representation.optionalProperties = true) :
    representation.properties.length < 2 ^ 24 := by
  have hmax := propertySequenceMax_le profile
  obtain ⟨-, -, -, hproperties⟩ := hfits
  rw [PropertiesFit, if_pos hflag] at hproperties
  omega

theorem roundTrips_objectInfo {info : ObjectInfo} (hfits : info.Fits profile) :
    RoundTrips (serializeObjectInfo Device.plain) (deserializeObjectInfo Device.plain profile)
      info ↔ ¬ info.AgentWithProperties := by
  constructor
  · rintro hround ⟨config, hconfig, hagent⟩
    cases config with
    | agent representation =>
      have hserializes := serializes_objectInfo hfits
      have hrepresentation : representation.Fits profile := hfits.1 _ hconfig
      have hflag : representation.optionalProperties = true := hagent
      rw [objectInfo_fields hconfig hflag] at hserializes
      exact not_roundTrips_of_number 1 hserializes (yields_objectInfo_front hrepresentation [])
        (properties_length hrepresentation hflag)
        (padding_front hrepresentation [] 1 fun _ => rfl) hround
    | _ => exact hagent
  · intro hagent
    exact roundTrips_of_fields (serializes_objectInfo hfits)
      fun output => yields_objectInfo hfits hagent output

theorem roundTrips_createPayload {payload : CreatePayload} (hfits : payload.Fits profile) :
    RoundTrips (serializeCreatePayload Device.plain)
      (deserializeCreatePayload Device.plain profile) payload ↔
        ¬ payload.objectRepresentation.AgentWithProperties := by
  constructor
  · intro hround hagent
    obtain ⟨base, variant⟩ := payload
    cases variant with
    | agent representation =>
      have hserializes := serializes_createPayload hfits
      have hflag : representation.optionalProperties = true := hagent
      have hyields : Yields (deserializeCreatePayload Device.plain profile []) _
          (base.fields ++ (.scalar 1 0x0D :: representation.frontFields)) :=
        (yields_baseObjectRequest hfits.1).bind
          ((yields_agentVariant_front hfits.2 []).bind_pure _)
      rw [CreatePayload.fields, ObjectVariant.fields, ObjectVariant.content,
        AgentRepresentation.fields, hflag, ← List.cons_append, ← List.append_assoc] at hserializes
      exact not_roundTrips_of_front hserializes hyields (propertiesFields_size _) hround
    | _ => exact hagent
  · intro hagent
    exact roundTrips_of_fields (serializes_createPayload hfits)
      fun output => yields_createPayload hfits hagent output

theorem roundTrips_statusAgentPayload {payload : StatusAgentPayload}
    (hfits : payload.agentInfo.Fits profile) :
    RoundTrips (serializeStatusAgentPayload Device.plain)
      (deserializeStatusAgentPayload Device.plain) payload ↔
        payload.agentInfo.optionalProperties = false := by
  constructor
  · intro hround
    rw [← Bool.not_eq_true]
    intro hflag
    have hserializes := serializes_statusAgentPayload payload
    have hyields : Yields (deserializeStatusAgentPayload Device.plain []) _
        ([.scalar 1 payload.status.toNat, .scalar 1 payload.implementationStatus.toNat] ++
          payload.agentInfo.frontFields) :=
      (yields_resultStatus _ _).bind ((yields_agentRepresentation_front hfits []).bind_pure _)
    rw [StatusAgentPayload.fields, AgentRepresentation.fields, hflag,
      ← List.append_assoc] at hserializes
    exact not_roundTrips_of_front hserializes hyields (propertiesFields_size _) hround
  · intro hflag
    exact roundTrips_of_fields (serializes_statusAgentPayload payload)
      fun output => yields_statusAgentPayload hfits hflag output

theorem roundTrips_infoPayload {payload : InfoPayload} (hfits : payload.Fits profile) :
    RoundTrips (serializeInfoPayload Device.plain) (deserializeInfoPayload Device.plain profile)
      payload ↔ ¬ payload.objectInfo.AgentWithProperties := by
  constructor
  · rintro hround ⟨config, hconfig, hagent⟩
    cases config with
    | agent representation =>
      have hserializes := serializes_infoPayload hfits
      have hrepresentation : representation.Fits profile := hfits.2.1 _ hconfig
      have hflag : representation.optionalProperties = true := hagent
      have hyields : Yields (deserializeInfoPayload Device.plain profile []) _
          (payload.base.fields ++
            (.scalar 1 1 :: .scalar 1 0x0D :: representation.frontFields ++ [.scalar 1 0])) :=
        (yields_baseObjectReply hfits.1).bind
          ((yields_objectInfo_front hrepresentation []).bind_pure _)
      rw [InfoPayload.fields, objectInfo_fields hconfig hflag, ← List.append_assoc] at hserializes
      rw [← List.append_assoc] at hyields
      have hlength := properties_length hrepresentation hflag
      refine not_roundTrips_of_number 3 hserializes hyields hlength
        (padding_front hrepresentation payload.base.fields 3 fun final => ?_) hround
      obtain ⟨hrequest, hobject⟩ := hfits.1
      simp [BaseObjectReply.fields, BaseObjectRequest.fields, UcdrBuffer.after_cons,
        UcdrBuffer.behind, Field.type, bufferAt, UcdrBuffer.padding, hrequest, hobject]
    | _ => exact hagent
  · intro hagent
    exact roundTrips_of_fields (serializes_infoPayload hfits)
      fun output => yields_infoPayload hfits hagent output

theorem roundTrips_createClientPayload {payload : ClientRepresentation}
    (hfits : payload.Fits profile) :
    RoundTrips (serializeCreateClientPayload Device.plain)
      (fun _ => deserializeCreateClientPayload Device.plain profile) payload :=
  roundTrips_of_fields (serializes_createClientPayload payload)
    fun _ => yields_createClientPayload hfits

/-- Objects, what is known of them and the payloads built from them round trip, unless there is an
agent with properties in them. -/
theorem object_payloads_round_trip (profile : BuildProfile) :
    (∀ variant : ObjectVariant, variant.Fits profile →
      (RoundTrips (serializeObjectVariant Device.plain)
        (deserializeObjectVariant Device.plain profile) variant ↔
          ¬ variant.AgentWithProperties)) ∧
    (∀ info : ObjectInfo, info.Fits profile →
      (RoundTrips (serializeObjectInfo Device.plain) (deserializeObjectInfo Device.plain profile)
        info ↔ ¬ info.AgentWithProperties)) ∧
    (∀ payload : CreatePayload, payload.Fits profile →
      (RoundTrips (serializeCreatePayload Device.plain)
        (deserializeCreatePayload Device.plain profile) payload ↔
          ¬ payload.objectRepresentation.AgentWithProperties)) ∧
    (∀ payload : ClientRepresentation, payload.Fits profile →
      RoundTrips (serializeCreateClientPayload Device.plain)
        (fun _ => deserializeCreateClientPayload Device.plain profile) payload) ∧
    (∀ payload : StatusAgentPayload, payload.agentInfo.Fits profile →
      (RoundTrips (serializeStatusAgentPayload Device.plain)
        (deserializeStatusAgentPayload Device.plain) payload ↔
          payload.agentInfo.optionalProperties = false)) ∧
    ∀ payload : InfoPayload, payload.Fits profile →
      (RoundTrips (serializeInfoPayload Device.plain)
        (deserializeInfoPayload Device.plain profile) payload ↔
          ¬ payload.objectInfo.AgentWithProperties) := by
  refine ⟨?_, ?_, ?_, ?_, ?_, ?_⟩
  · exact fun variant hfits => roundTrips_objectVariant hfits
  · exact fun info hfits => roundTrips_objectInfo hfits
  · exact fun payload hfits => roundTrips_createPayload hfits
  · exact fun payload hfits => roundTrips_createClientPayload hfits
  · exact fun payload hfits => roundTrips_statusAgentPayload hfits
  · exact fun payload hfits => roundTrips_infoPayload hfits

end

/-- A participant of domain 7 that is described by a reference. -/
def participantPayload : CreatePayload where
  base := { requestId := [0, 10], objectId := [0x01, 0x11] }
  objectRepresentation := .participant (.byReference [0x72, 0x65, 0x66]) 7

theorem object_payloads_round_trip_participant :
    RoundTrips (@serializeCreatePayload referenceMicroCdr _ Device.plain)
      (@deserializeCreatePayload referenceMicroCdr _ Device.plain ⟨false, none⟩)
      participantPayload := by
  have hall := @object_payloads_round_trip referenceMicroCdr referenceMicroCdr_lawful ⟨false, none⟩
  refine (hall.2.2.1 participantPayload ⟨⟨rfl, rfl⟩, rfl, ?_, ?_⟩).mpr fun h => h
  · decide
  · decide

/-- The status of an agent that has the property for shared memory. -/
def agentStatusPayload : StatusAgentPayload where
  status := 0
  implementationStatus := 0
  agentInfo := {
    xrceCookie := [0x58, 0x52, 0x43, 0x45]
    xrceVersion := [0x01, 0x00]
    xrceVendorId := [0x01, 0x0F]
    optionalProperties := true
    properties := [sharedMemoryProperty] }

/-- The status of an agent with properties does not round trip. -/
theorem agentStatus_not_roundTrips :
    agentStatusPayload.agentInfo.Fits ⟨true, none⟩ ∧
      ¬ RoundTrips (@serializeStatusAgentPayload referenceMicroCdr _ Device.plain)
        (@deserializeStatusAgentPayload referenceMicroCdr _ Device.plain)
        agentStatusPayload := by
  have hproperty : ∀ property ∈ [sharedMemoryProperty], property.Fits := by
    intro property hmem
    obtain rfl := List.mem_singleton.mp hmem
    exact ⟨⟨by decide, by decide⟩, by decide, by decide⟩
  have hfits : agentStatusPayload.agentInfo.Fits ⟨true, none⟩ :=
    ⟨rfl, rfl, rfl, by decide, hproperty⟩
  refine ⟨hfits, fun hround => ?_⟩
  have hflag := (@roundTrips_statusAgentPayload referenceMicroCdr referenceMicroCdr_lawful
    ⟨true, none⟩ agentStatusPayload hfits).mp hround
  exact absurd hflag (by decide)

end XrceTypes

end XrceClient
