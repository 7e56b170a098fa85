import XrceClient.Session.RepresentationFields

/-!
# What is read of objects

- `yields_…`: the deserializer of each type reads the value from its fields.
- `yields_agentRepresentation_front`: of an agent it reads what is in front of the properties.
-/

namespace XrceClient

namespace XrceTypes

open ByteMemory

variable [MicroCdr] [LawfulMicroCdr]

/-- A number of bytes, and the bytes. -/
theorem yields_sequence {capacity : Nat} {bytes : List UInt8} (hle : bytes.length ≤ capacity)
    (hcapacity : capacity < 256 ^ 4) :
    Yields (deserializeSequence Device.plain capacity) (some bytes)
      ([.scalar 4 bytes.length] ++ [.array bytes]) := by
  refine Yields.bind (yields_scalar (by simp) (Nat.lt_of_le_of_lt hle hcapacity)) ?_
  rw [Option.getD_some, if_neg (Nat.not_lt.mpr hle)]
  exact (yields_array bytes).bind_pure _

omit [MicroCdr] [LawfulMicroCdr] in
theorem takeWhile_string {string : List UInt8} (h : 0 ∉ string) :
    (string ++ [0]).takeWhile (· ≠ 0) = string := by
  have hall : ∀ c ∈ string, decide (c ≠ 0) = true := fun c hmem =>
    decide_eq_true fun hzero => h (hzero ▸ hmem)
  rw [List.takeWhile_append_of_pos hall]
  simp

theorem yields_string {string : List UInt8} (hfits : StringFits string) :
    Yields (deserializeString Device.plain) (some string) (stringFields string) := by
  have hlength : (string ++ [0]).length ≤ stringSizeMax := by
    rw [List.length_append]
    exact hfits.2
  have hread := (yields_sequence hlength (by decide)).map
    (Option.map fun bytes => bytes.takeWhile (· ≠ 0))
  rw [Option.map_some, takeWhile_string hfits.1, List.length_append] at hread
  exact hread

theorem yields_property {property : Property} (hfits : property.Fits) :
    Yields (deserializeProperty Device.plain) (some property) property.fields :=
  (yields_string hfits.1).bind ((yields_string hfits.2).bind_pure _)

omit [MicroCdr] [LawfulMicroCdr] in
theorem yields_items {α : Type} {item : StateM (Memory × UcdrBuffer) (Option α)}
    {itemFields : α → List Field} {items : List α}
    (h : ∀ a ∈ items, Yields item (some a) (itemFields a)) :
    Yields (deserializeItems item items.length) (some items) (items.flatMap itemFields) := by
  induction items with
  | nil => exact yields_pure _
  | cons a items ih =>
    have hrest := ih fun b hmem => h b (List.mem_cons_of_mem _ hmem)
    exact (h a List.mem_cons_self).bind (hrest.bind_pure _)

theorem yields_seq {α : Type} {sequenceMax : Nat} (hmax : sequenceMax < 256 ^ 4)
    {item : StateM (Memory × UcdrBuffer) (Option α)} {itemFields : α → List Field}
    {items : List α} (hlength : items.length ≤ sequenceMax)
    (h : ∀ a ∈ items, Yields item (some a) (itemFields a)) :
    Yields (deserializeSeq Device.plain sequenceMax item) (some items)
      (sequenceFields itemFields items) := by
  show Yields _ _ ([.scalar 4 items.length] ++ items.flatMap itemFields)
  refine Yields.bind (yields_scalar (by simp) (Nat.lt_of_le_of_lt hlength hmax)) ?_
  rw [Option.getD_some, if_neg (Nat.not_lt.mpr hlength)]
  exact yields_items h

omit [MicroCdr] [LawfulMicroCdr] in
theorem propertySequenceMax_le (profile : BuildProfile) : profile.propertySequenceMax ≤ 2 := by
  have hmemory := Bool.toNat_le profile.sharedMemory
  have hcheck := Bool.toNat_le profile.hardLivelinessCheck.isSome
  rw [BuildProfile.propertySequenceMax]
  omega

theorem yields_optionalProperties {profile : BuildProfile} {optionalProperties : Bool}
    {properties : List Property} (hfits : PropertiesFit profile optionalProperties properties) :
    Yields
      (ifSet (some optionalProperties.toNat) (deserializePropertySeq Device.plain profile) [])
      (some properties) (propertiesFields optionalProperties properties) := by
  have hmax := propertySequenceMax_le profile
  cases optionalProperties with
  | true =>
    exact yields_seq (by omega) hfits.1 fun property hmem => yields_property (hfits.2 property hmem)
  | false =>
    obtain rfl : properties = [] := hfits
    exact yields_pure _

theorem yields_flag (flag : Bool) :
    Yields (readScalar Device.plain 1) (some flag.toNat) [.scalar 1 flag.toNat] :=
  yields_scalar (by simp) (by cases flag <;> decide)

theorem yields_uint8 (n : UInt8) :
    Yields (readScalar Device.plain 1) (some n.toNat) [.scalar 1 n.toNat] :=
  yields_scalar (by simp) (UInt8.toNat_lt n)

theorem yields_uint16 (n : UInt16) :
    Yields (readScalar Device.plain 2) (some n.toNat) [.scalar 2 n.toNat] :=
  yields_scalar (by simp) (UInt16.toNat_lt n)

theorem yields_uint32 (n : UInt32) :
    Yields (readScalar Device.plain 4) (some n.toNat) [.scalar 4 n.toNat] :=
  yields_scalar (by simp) (UInt32.toNat_lt n)

theorem yields_uint64 (n : UInt64) :
    Yields (readScalar Device.plain 8) (some n.toNat) [.scalar 8 n.toNat] :=
  yields_scalar (by simp) (UInt64.toNat_lt n)

theorem yields_bytes {bytes : List UInt8} {n : Nat} (hlength : bytes.length = n) :
    Yields (readArray Device.plain n) (some bytes) [.array bytes] := by
  subst hlength
  exact yields_array bytes

theorem yields_createClientPayload {profile : BuildProfile} {representation : ClientRepresentation}
    (hfits : representation.Fits profile) :
    Yields (deserializeCreateClientPayload Device.plain profile) (some representation)
      representation.allFields := by
  obtain ⟨hcookie, hversion, hvendor, hkey, hproperties⟩ := hfits
  have hread : Yields (deserializeCreateClientPayload Device.plain profile) _
      representation.allFields :=
    (yields_bytes hcookie).bind <| (yields_bytes hversion).bind <|
      (yields_bytes hvendor).bind <| (yields_bytes hkey).bind <|
      (yields_uint8 representation.sessionId).bind <|
      (yields_flag representation.optionalProperties).bind <|
      (yields_optionalProperties hproperties).bind <|
      (yields_uint16 representation.mtu).bind_pure _
  simpa using hread

/-- With the flag, the properties are not read. -/
theorem yields_agentRepresentation_front {profile : BuildProfile}
    {representation : AgentRepresentation} (hfits : representation.Fits profile)
    (output : List Property) :
    Yields (deserializeAgentRepresentation Device.plain output)
      (some (representation.misread output)) representation.frontFields := by
  obtain ⟨hcookie, hversion, hvendor, -⟩ := hfits
  have hread : Yields (deserializeAgentRepresentation Device.plain output) _
      representation.frontFields :=
    (yields_bytes hcookie).bind <| (yields_bytes hversion).bind <|
      (yields_bytes hvendor).bind <|
      (yields_flag representation.optionalProperties).bind_pure _
  obtain ⟨cookie, version, vendor, optionalProperties, properties⟩ := representation
  cases optionalProperties <;> simpa [AgentRepresentation.misread] using hread

theorem yields_agentRepresentation {profile : BuildProfile} {representation : AgentRepresentation}
    (hfits : representation.Fits profile) (hflag : representation.optionalProperties = false)
    (output : List Property) :
    Yields (deserializeAgentRepresentation Device.plain output) (some representation)
      representation.fields := by
  have hread := yields_agentRepresentation_front hfits output
  obtain ⟨-, -, -, hproperties⟩ := hfits
  obtain ⟨cookie, version, vendor, optionalProperties, properties⟩ := representation
  dsimp only at hflag
  subst hflag
  obtain rfl : properties = [] := hproperties
  exact hread

/-- A tag, and what is behind it. -/
theorem yields_tagged {α : Type} {tag : UInt8} {a : α} {fields : List Field}
    {content : Option Nat → StateM (Memory × UcdrBuffer) α}
    (h : Yields (content (some tag.toNat)) a fields) :
    Yields (readScalar Device.plain 1 >>= content) a (.scalar 1 tag.toNat :: fields) :=
  (yields_uint8 tag).bind h

theorem yields_formats {family : FormatFamily} {representation : RepresentationFormats}
    (hfits : representation.Fits family) :
    Yields (deserializeFormats Device.plain family) (some representation)
      representation.fields := by
  cases representation with
  | byReference reference =>
    refine yields_tagged ?_
    obtain ⟨hfamily, hstring⟩ := hfits
    show Yields (if family.byReference then _ else _) _ _
    rw [if_pos hfamily]
    exact (yields_string hstring).bind_pure _
  | asXmlString xml => exact yields_tagged ((yields_string hfits).bind_pure _)
  | inBinary bytes =>
    refine yields_tagged ?_
    obtain ⟨hfamily, hlength⟩ := hfits
    show Yields (if family.inBinary then _ else _) _ _
    rw [if_pos hfamily]
    exact (yields_sequence hlength (by decide)).bind_pure _
  | other format =>
    refine yields_tagged ?_
    dsimp only [RepresentationFormats.format]
    split
    · next heq =>
      -- A reference, in a family without references.
      obtain rfl : format = 1 := UInt8.toNat_inj.mp (Option.some.inj heq)
      rw [if_neg fun hfamily => hfits (.inr (.inl ⟨hfamily, rfl⟩))]
      exact yields_pure _
    · next heq =>
      exact absurd (.inl (UInt8.toNat_inj.mp (Option.some.inj heq))) hfits
    · next heq =>
      obtain rfl : format = 3 := UInt8.toNat_inj.mp (Option.some.inj heq)
      rw [if_neg fun hfamily => hfits (.inr (.inr ⟨hfamily, rfl⟩))]
      exact yields_pure _
    · next heq =>
      obtain rfl := Option.some.inj heq
      rw [UInt8.ofNat_toNat]
      exact yields_pure _
    · next heq => exact absurd heq nofun

theorem yields_withObjectId {family : FormatFamily} {base : RepresentationFormats}
    {objectId : List UInt8} (hbase : base.Fits family) (hobject : objectId.length = 2)
    (variant : RepresentationFormats → List UInt8 → ObjectVariant) :
    Yields (deserializeWithObjectId Device.plain family variant) (some (variant base objectId))
      (base.fields ++ [.array objectId]) :=
  (yields_formats hbase).bind ((yields_bytes hobject).bind_pure _)

omit [MicroCdr] [LawfulMicroCdr] in
theorem toNat_ne_of_not_mem {tag : UInt8} {known : List UInt8} (h : tag ∉ known) :
    ∀ n ∈ known.map UInt8.toNat, tag.toNat ≠ n := by
  intro n hmem heq
  obtain ⟨other, hother, rfl⟩ := List.mem_map.mp hmem
  exact h (UInt8.toNat_inj.mp heq ▸ hother)

omit [MicroCdr] [LawfulMicroCdr] in
theorem int16_ofNat (n : Int16) : (UInt16.ofNat n.toUInt16.toNat).toInt16 = n := by
  rw [UInt16.ofNat_toNat]
  rfl

theorem yields_participantRepresentation {base : RepresentationFormats}
    (hbase : base.Fits representation3Formats) (domainId : Int16) :
    Yields (deserializeParticipantRepresentation Device.plain) (some (.participant base domainId))
      (base.fields ++ [.scalar 2 domainId.toUInt16.toNat]) := by
  have hread : Yields (deserializeParticipantRepresentation Device.plain) _
      (base.fields ++ [.scalar 2 domainId.toUInt16.toNat]) :=
    (yields_formats hbase).bind ((yields_uint16 domainId.toUInt16).bind_pure _)
  dsimp only [Option.bind_eq_bind, Option.bind_some] at hread
  rw [int16_ofNat] at hread
  exact hread

/-- Unless it is an agent with properties, a variant is read from its fields. -/
theorem yields_objectVariant {profile : BuildProfile} {variant : ObjectVariant}
    (hfits : variant.Fits profile) (hagent : ¬ variant.AgentWithProperties)
    (output : List Property) :
    Yields (deserializeObjectVariant Device.plain profile output) (some variant)
      variant.fields := by
  cases variant with
  | agent representation =>
    have hflag : representation.optionalProperties = false := Bool.eq_false_iff.mpr hagent
    have hread := (yields_agentRepresentation hfits hflag output).map
      (Option.map ObjectVariant.agent)
    exact yields_tagged hread
  | client representation =>
    have hread := (yields_createClientPayload hfits).map (Option.map ObjectVariant.client)
    exact yields_tagged hread
  | application base =>
    have hread := (yields_formats hfits).map (Option.map ObjectVariant.application)
    exact yields_tagged hread
  | qosProfile base =>
    have hread := (yields_formats hfits).map (Option.map ObjectVariant.qosProfile)
    exact yields_tagged hread
  | type base =>
    have hread := (yields_formats hfits).map (Option.map ObjectVariant.type)
    exact yields_tagged hread
  | participant base domainId =>
    have hread := yields_participantRepresentation hfits domainId
    exact yields_tagged hread
  | topic base objectId =>
    have hread := yields_withObjectId hfits.1 hfits.2 .topic
    exact yields_tagged hread
  | publisher base objectId =>
    have hread := yields_withObjectId hfits.1 hfits.2 .publisher
    exact yields_tagged hread
  | subscriber base objectId =>
    have hread := yields_withObjectId hfits.1 hfits.2 .subscriber
    exact yields_tagged hread
  | dataWriter base objectId =>
    have hread := yields_withObjectId hfits.1 hfits.2 .dataWriter
    exact yields_tagged hread
  | dataReader base objectId =>
    have hread := yields_withObjectId hfits.1 hfits.2 .dataReader
    exact yields_tagged hread
  | requester base objectId =>
    have hread := yields_withObjectId hfits.1 hfits.2 .requester
    exact yields_tagged hread
  | replier base objectId =>
    have hread := yields_withObjectId hfits.1 hfits.2 .replier
    exact yields_tagged hread
  | other kind =>
    have hne := toNat_ne_of_not_mem hfits
    refine yields_tagged ?_
    dsimp only [ObjectVariant.kind]
    split
    case h_14 heq =>
      obtain rfl := Option.some.inj heq
      rw [UInt8.ofNat_toNat]
      exact yields_pure _
    case h_15 heq => exact absurd heq nofun
    all_goals
      next heq => exact absurd (Option.some.inj heq) (hne _ (by decide))

theorem yields_addressAndPort {address : List UInt8} {size width locatorPort : Nat}
    (haddress : address.length = size)
    (hport : Yields (readScalar Device.plain width) (some locatorPort)
      [.scalar width locatorPort]) (locator : List UInt8 → Nat → TransportLocator) :
    Yields (deserializeAddressAndPort Device.plain size width locator)
      (some (locator address locatorPort)) [.array address, .scalar width locatorPort] :=
  (yields_bytes haddress).bind (hport.bind_pure _)

theorem yields_transportLocator {locator : TransportLocator} (hfits : locator.Fits) :
    Yields (deserializeTransportLocator Device.plain) (some locator) locator.fields := by
  cases locator with
  | small address locatorPort =>
    have hread := yields_addressAndPort hfits (yields_uint8 locatorPort)
      fun address n => .small address (UInt8.ofNat n)
    rw [UInt8.ofNat_toNat] at hread
    exact yields_tagged hread
  | medium address locatorPort =>
    have hread := yields_addressAndPort hfits (yields_uint16 locatorPort)
      fun address n => .medium address (UInt16.ofNat n)
    rw [UInt16.ofNat_toNat] at hread
    exact yields_tagged hread
  | large address locatorPort =>
    have hread := yields_addressAndPort hfits (yields_uint32 locatorPort)
      fun address n => .large address (UInt32.ofNat n)
    rw [UInt32.ofNat_toNat] at hread
    exact yields_tagged hread
  | string value =>
    have hread := (yields_string hfits).bind_pure (Option.map TransportLocator.string)
    exact yields_tagged hread
  | other format =>
    have hne := toNat_ne_of_not_mem hfits
    refine yields_tagged ?_
    dsimp only [TransportLocator.format]
    split
    case h_5 heq =>
      obtain rfl := Option.some.inj heq
      rw [UInt8.ofNat_toNat]
      exact yields_pure _
    case h_6 heq => exact absurd heq nofun
    all_goals
      next heq => exact absurd (Option.some.inj heq) (hne _ (by decide))

theorem yields_activityInfoVariant {activity : ActivityInfoVariant} (hfits : activity.Fits) :
    Yields (deserializeActivityInfoVariant Device.plain) (some activity) activity.fields := by
  cases activity with
  | agent availability addressSeq =>
    have hseq := yields_seq (show transportLocatorSequenceMax < 256 ^ 4 by decide) hfits.1
      fun locator hmem => yields_transportLocator (hfits.2 locator hmem)
    have hread : Yields (deserializeAgentActivityInfo Device.plain) _
        (.scalar 2 availability.toUInt16.toNat ::
          sequenceFields TransportLocator.fields addressSeq) :=
      (yields_uint16 availability.toUInt16).bind (hseq.bind_pure _)
    dsimp only [Option.bind_eq_bind, Option.bind_some] at hread
    rw [int16_ofNat] at hread
    exact yields_tagged hread
  | dataWriter streamSeqNum sampleSeqNum =>
    have hread : Yields (deserializeDataWriterActivityInfo Device.plain) _
        [.scalar 2 streamSeqNum.toUInt16.toNat, .scalar 8 sampleSeqNum.toNat] :=
      (yields_uint16 streamSeqNum.toUInt16).bind ((yields_uint64 sampleSeqNum).bind_pure _)
    dsimp only [Option.bind_eq_bind, Option.bind_some] at hread
    rw [int16_ofNat, UInt64.ofNat_toNat] at hread
    exact yields_tagged hread
  | dataReader highestAckedNum =>
    have hread : Yields (deserializeDataReaderActivityInfo Device.plain) _
        [.scalar 2 highestAckedNum.toUInt16.toNat] :=
      (yields_uint16 highestAckedNum.toUInt16).bind_pure _
    dsimp only [Option.map_some] at hread
    rw [int16_ofNat] at hread
    exact yields_tagged hread
  | other kind =>
    have hne := toNat_ne_of_not_mem hfits
    refine yields_tagged ?_
    dsimp only [ActivityInfoVariant.kind]
    split
    case h_4 heq =>
      obtain rfl := Option.some.inj heq
      rw [UInt8.ofNat_toNat]
      exact yields_pure _
    case h_5 heq => exact absurd heq nofun
    all_goals
      next heq => exact absurd (Option.some.inj heq) (hne _ (by decide))

theorem yields_optional {α : Type} {content : Option α} {contentFields : α → List Field}
    {deserialize : StateM (Memory × UcdrBuffer) (Option α)}
    (h : ∀ a ∈ content, Yields deserialize (some a) (contentFields a)) :
    Yields (deserializeOptional Device.plain deserialize) (some content)
      (optionalFields contentFields content) := by
  cases content with
  | none => exact (yields_flag false).bind ((yields_pure (some none)).bind_pure _)
  | some a =>
    have hcontent := (h a rfl).map (Option.map some)
    exact (yields_flag true).bind (hcontent.bind_pure _)

/-- Unless its configuration is an agent with properties, what is known of an object is read from
its fields. -/
theorem yields_objectInfo {profile : BuildProfile} {info : ObjectInfo} (hfits : info.Fits profile)
    (hagent : ¬ info.AgentWithProperties) (output : List Property) :
    Yields (deserializeObjectInfo Device.plain profile output) (some info) info.fields := by
  have hconfig := yields_optional fun config hmem =>
    yields_objectVariant (hfits.1 config hmem) (fun h => hagent ⟨config, hmem, h⟩) output
  have hactivity := yields_optional fun activity hmem =>
    yields_activityInfoVariant (hfits.2 activity hmem)
  exact hconfig.bind (hactivity.bind_pure _)

theorem yields_baseObjectRequest {base : BaseObjectRequest} (hfits : base.Fits) :
    Yields (deserializeBaseObjectRequest Device.plain) (some base) base.fields :=
  (yields_bytes hfits.1).bind ((yields_bytes hfits.2).bind_pure _)

theorem yields_resultStatus (status implementationStatus : UInt8) :
    Yields (deserializeResultStatus Device.plain) (some (status, implementationStatus))
      [.scalar 1 status.toNat, .scalar 1 implementationStatus.toNat] := by
  have hread : Yields (deserializeResultStatus Device.plain) _
      [.scalar 1 status.toNat, .scalar 1 implementationStatus.toNat] :=
    (yields_uint8 status).bind ((yields_uint8 implementationStatus).bind_pure _)
  simpa using hread

theorem yields_baseObjectReply {base : BaseObjectReply} (hfits : base.relatedRequest.Fits) :
    Yields (deserializeBaseObjectReply Device.plain) (some base) base.fields :=
  (yields_baseObjectRequest hfits).bind ((yields_resultStatus _ _).bind_pure _)

theorem yields_createPayload {profile : BuildProfile} {payload : CreatePayload}
    (hfits : payload.Fits profile) (hagent : ¬ payload.objectRepresentation.AgentWithProperties)
    (output : List Property) :
    Yields (deserializeCreatePayload Device.plain profile output) (some payload)
      payload.fields :=
  (yields_baseObjectRequest hfits.1).bind
    ((yields_objectVariant hfits.2 hagent output).bind_pure _)

theorem yields_statusAgentPayload {profile : BuildProfile} {payload : StatusAgentPayload}
    (hfits : payload.agentInfo.Fits profile)
    (hflag : payload.agentInfo.optionalProperties = false) (output : List Property) :
    Yields (deserializeStatusAgentPayload Device.plain output) (some payload) payload.fields :=
  (yields_resultStatus _ _).bind ((yields_agentRepresentation hfits hflag output).bind_pure _)

theorem yields_infoPayload {profile : BuildProfile} {payload : InfoPayload}
    (hfits : payload.Fits profile) (hagent : ¬ payload.objectInfo.AgentWithProperties)
    (output : List Property) :
    Yields (deserializeInfoPayload Device.plain profile output) (some payload) payload.fields :=
  (yields_baseObjectReply hfits.1).bind ((yields_objectInfo hfits.2 hagent output).bind_pure _)

end XrceTypes

end XrceClient
