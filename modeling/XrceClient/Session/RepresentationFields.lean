import XrceClient.Session.Representations
import XrceClient.Session.ControlParsing

/-!
# The fields of objects

Each type has its fields, which its serializer writes. The fields of the parts are put together as
the source puts the parts together; the padding of each field depends on all of those in front of
it.

- `….fields`, `….Fits`: the fields of a value, and the values that the types of the source have
  room for.
- `serializes_…`: the serializer of each type writes its fields.
-/

namespace XrceClient

open ByteMemory

/-! ## Fields -/

/-- The fields of a string: the number of its characters with the end, and the characters. -/
def stringFields (string : List UInt8) : List Field :=
  [.scalar 4 (string.length + 1), .array (string ++ [0])]

/-- The string is one in C, and there is room for its end. -/
def StringFits (string : List UInt8) : Prop := 0 ∉ string ∧ string.length < stringSizeMax

def Property.Fits (property : Property) : Prop :=
  StringFits property.name ∧ StringFits property.value

/-- The fields of a sequence: the number of its items, and the items. -/
def sequenceFields {α : Type} (itemFields : α → List Field) (items : List α) : List Field :=
  .scalar 4 items.length :: items.flatMap itemFields

/-- The fields of the properties, behind the flag that says whether there are some. -/
def propertiesFields (optionalProperties : Bool) (properties : List Property) : List Field :=
  if optionalProperties then sequenceFields Property.fields properties else []

/-- Without the flag the properties are not part of the value. -/
def PropertiesFit (profile : BuildProfile) (optionalProperties : Bool)
    (properties : List Property) : Prop :=
  if optionalProperties then
    properties.length ≤ profile.propertySequenceMax ∧ ∀ property ∈ properties, property.Fits
  else properties = []

namespace ClientRepresentation

variable (representation : ClientRepresentation)

/-- The fields, with the properties. -/
def allFields : List Field :=
  representation.frontFields ++
    (propertiesFields representation.optionalProperties representation.properties ++
      [.scalar 2 representation.mtu.toNat])

def Fits (profile : BuildProfile) : Prop :=
  representation.xrceCookie.length = 4 ∧ representation.xrceVersion.length = 2 ∧
    representation.xrceVendorId.length = 2 ∧ representation.clientKey.length = 4 ∧
      PropertiesFit profile representation.optionalProperties representation.properties

end ClientRepresentation

namespace AgentRepresentation

variable (representation : AgentRepresentation)

/-- The fields in front of the properties. -/
def frontFields : List Field :=
  [.array representation.xrceCookie, .array representation.xrceVersion,
    .array representation.xrceVendorId, .scalar 1 representation.optionalProperties.toNat]

def fields : List Field :=
  representation.frontFields ++
    propertiesFields representation.optionalProperties representation.properties

def Fits (profile : BuildProfile) : Prop :=
  representation.xrceCookie.length = 4 ∧ representation.xrceVersion.length = 2 ∧
    representation.xrceVendorId.length = 2 ∧
      PropertiesFit profile representation.optionalProperties representation.properties

/-- What the deserializer makes of the representation, with the properties of its output. -/
def misread (output : List Property) : AgentRepresentation :=
  { representation with
    properties := if representation.optionalProperties then output else [] }

end AgentRepresentation

/-- The formats that have content. -/
def FormatFamily.HasContent (family : FormatFamily) (format : UInt8) : Prop :=
  format = 2 ∨ family.byReference = true ∧ format = 1 ∨ family.inBinary = true ∧ format = 3

namespace RepresentationFormats

/-- The fields behind the format. -/
def content : RepresentationFormats → List Field
  | byReference reference => stringFields reference
  | asXmlString xml => stringFields xml
  | inBinary bytes => [.scalar 4 bytes.length, .array bytes]
  | other _ => []

def fields (representation : RepresentationFormats) : List Field :=
  .scalar 1 representation.format.toNat :: representation.content

def Fits (family : FormatFamily) : RepresentationFormats → Prop
  | byReference reference => family.byReference = true ∧ StringFits reference
  | asXmlString xml => StringFits xml
  | inBinary bytes => family.inBinary = true ∧ bytes.length ≤ binarySequenceMax
  | other format => ¬ family.HasContent format

end RepresentationFormats

namespace ObjectVariant

/-- The fields behind the kind. -/
def content : ObjectVariant → List Field
  | agent representation => representation.fields
  | client representation => representation.allFields
  | application base | qosProfile base | type base => base.fields
  | participant base domainId => base.fields ++ [.scalar 2 domainId.toUInt16.toNat]
  | topic base objectId | publisher base objectId | subscriber base objectId
  | dataWriter base objectId | dataReader base objectId | requester base objectId
  | replier base objectId => base.fields ++ [.array objectId]
  | other _ => []

def fields (variant : ObjectVariant) : List Field := .scalar 1 variant.kind.toNat :: variant.content

/-- The kinds that have a representation. -/
def kinds : List UInt8 := [1, 2, 3, 4, 5, 6, 7, 8, 10, 11, 12, 13, 14]

def Fits (profile : BuildProfile) : ObjectVariant → Prop
  | agent representation => representation.Fits profile
  | client representation => representation.Fits profile
  | application base | qosProfile base | type base => base.Fits representationRefAndXmlFormats
  | participant base _ => base.Fits representation3Formats
  | publisher base objectId | subscriber base objectId =>
    base.Fits representationBinAndXmlFormats ∧ objectId.length = 2
  | topic base objectId | dataWriter base objectId | dataReader base objectId
  | requester base objectId | replier base objectId =>
    base.Fits representation3Formats ∧ objectId.length = 2
  | other kind => kind ∉ kinds

/-- An agent with properties. -/
def AgentWithProperties : ObjectVariant → Prop
  | agent representation => representation.optionalProperties = true
  | _ => False

end ObjectVariant

namespace TransportLocator

/-- The fields behind the format. -/
def content : TransportLocator → List Field
  | small address locatorPort => [.array address, .scalar 1 locatorPort.toNat]
  | medium address locatorPort => [.array address, .scalar 2 locatorPort.toNat]
  | large address locatorPort => [.array address, .scalar 4 locatorPort.toNat]
  | string value => stringFields value
  | other _ => []

def fields (locator : TransportLocator) : List Field :=
  .scalar 1 locator.format.toNat :: locator.content

def Fits : TransportLocator → Prop
  | small address _ => address.length = 2
  | medium address _ => address.length = 4
  | large address _ => address.length = 16
  | string value => StringFits value
  | other format => format ∉ [0, 1, 2, 3]

end TransportLocator

namespace ActivityInfoVariant

/-- The fields behind the kind. -/
def content : ActivityInfoVariant → List Field
  | agent availability addressSeq =>
    .scalar 2 availability.toUInt16.toNat :: sequenceFields TransportLocator.fields addressSeq
  | dataWriter streamSeqNum sampleSeqNum =>
    [.scalar 2 streamSeqNum.toUInt16.toNat, .scalar 8 sampleSeqNum.toNat]
  | dataReader highestAckedNum => [.scalar 2 highestAckedNum.toUInt16.toNat]
  | other _ => []

def fields (activity : ActivityInfoVariant) : List Field :=
  .scalar 1 activity.kind.toNat :: activity.content

def Fits : ActivityInfoVariant → Prop
  | agent _ addressSeq =>
    addressSeq.length ≤ transportLocatorSequenceMax ∧ ∀ locator ∈ addressSeq, locator.Fits
  | other kind => kind ∉ [0x0D, 0x05, 0x06]
  | _ => True

end ActivityInfoVariant

/-- The fields of optional content: the flag, and the content. -/
def optionalFields {α : Type} (contentFields : α → List Field) (content : Option α) : List Field :=
  .scalar 1 content.isSome.toNat :: (content.map contentFields).getD []

namespace ObjectInfo

variable (info : ObjectInfo)

def fields : List Field :=
  optionalFields ObjectVariant.fields info.config ++
    optionalFields ActivityInfoVariant.fields info.activity

def Fits (profile : BuildProfile) : Prop :=
  (∀ config ∈ info.config, config.Fits profile) ∧ ∀ activity ∈ info.activity, activity.Fits

/-- The configuration is an agent with properties. -/
def AgentWithProperties : Prop := ∃ config ∈ info.config, config.AgentWithProperties

end ObjectInfo

def BaseObjectRequest.Fits (base : BaseObjectRequest) : Prop :=
  base.requestId.length = 2 ∧ base.objectId.length = 2

def CreatePayload.fields (payload : CreatePayload) : List Field :=
  payload.base.fields ++ payload.objectRepresentation.fields

def CreatePayload.Fits (profile : BuildProfile) (payload : CreatePayload) : Prop :=
  payload.base.Fits ∧ payload.objectRepresentation.Fits profile

def StatusAgentPayload.fields (payload : StatusAgentPayload) : List Field :=
  [.scalar 1 payload.status.toNat, .scalar 1 payload.implementationStatus.toNat] ++
    payload.agentInfo.fields

def InfoPayload.fields (payload : InfoPayload) : List Field :=
  payload.base.fields ++ payload.objectInfo.fields

def InfoPayload.Fits (profile : BuildProfile) (payload : InfoPayload) : Prop :=
  payload.base.relatedRequest.Fits ∧ payload.objectInfo.Fits profile

/-! ## What the serializers write -/

namespace XrceTypes

variable [MicroCdr]

theorem serializes_string (string : List UInt8) :
    Serializes (fun m ub => ucdrSerializeString Device.plain m ub string) (stringFields string) :=
  (serializes_scalar 4 _ (by simp)).and (serializes_array _)

theorem serializes_property (property : Property) :
    Serializes (fun m ub => serializeProperty Device.plain m ub property) property.fields :=
  (serializes_string property.name).and (serializes_string property.value)

theorem serializes_properties (properties : List Property) :
    Serializes (fun m ub => serializeProperties Device.plain properties m ub)
      (properties.flatMap Property.fields) := by
  induction properties with
  | nil => exact serializes_nothing
  | cons property properties ih =>
    exact (serializes_property property).andThen ih fun hcall => by
      rw [serializeProperties, hcall]

theorem serializes_propertySeq (properties : List Property) :
    Serializes (fun m ub => serializePropertySeq Device.plain m ub properties)
      (sequenceFields Property.fields properties) :=
  (serializes_scalar 4 _ (by simp)).andThen (serializes_properties properties) fun hcall => by
    rw [serializePropertySeq, hcall]

theorem serializes_optionalProperties (optionalProperties : Bool) (properties : List Property) :
    Serializes
      (fun m ub =>
        if optionalProperties then serializePropertySeq Device.plain m ub properties
        else (true, m, ub))
      (propertiesFields optionalProperties properties) := by
  cases optionalProperties with
  | true => exact serializes_propertySeq properties
  | false => exact serializes_nothing

theorem serializes_createClientPayload (input : ClientRepresentation) :
    Serializes (fun m ub => serializeCreateClientPayload Device.plain m ub input)
      input.allFields := by
  have hfront : Serializes _ input.frontFields :=
    ((((((serializes_array _).and (serializes_array _)).and (serializes_array _)).and
      (serializes_array _)).and (serializes_scalar 1 _ (by simp))).and
        (serializes_scalar 1 _ (by simp)))
  have hall := (hfront.and
    (serializes_optionalProperties input.optionalProperties input.properties)).and
    (serializes_scalar 2 input.mtu.toNat (by simp))
  rw [List.append_assoc] at hall
  exact hall

theorem serializes_agentRepresentation (input : AgentRepresentation) :
    Serializes (fun m ub => serializeAgentRepresentation Device.plain m ub input)
      input.fields := by
  have hfront : Serializes _ input.frontFields :=
    (((serializes_array _).and (serializes_array _)).and (serializes_array _)).and
      (serializes_scalar 1 _ (by simp))
  exact hfront.and (serializes_optionalProperties input.optionalProperties input.properties)

theorem serializes_binarySequence (bytes : List UInt8) :
    Serializes (fun m ub => serializeBinarySequence Device.plain m ub bytes)
      [.scalar 4 bytes.length, .array bytes] :=
  (serializes_scalar 4 _ (by simp)).and (serializes_array _)

/-- A tag, and what is behind it if it can be written. -/
theorem serializes_tagged (tag : UInt8)
    {content serialize : Memory → UcdrBuffer → Bool × Memory × UcdrBuffer} {fields : List Field}
    (h : Serializes content fields)
    (hnext : ∀ {m ub m' ub'},
      ucdrSerialize Device.plain m ub ub.endianness 1 tag.toNat = (true, m', ub') →
        serialize m ub = content m' ub') :
    Serializes serialize (.scalar 1 tag.toNat :: fields) :=
  (serializes_scalar 1 _ (by simp)).andThen h hnext

theorem serializes_formats {family : FormatFamily} {input : RepresentationFormats}
    (hfits : input.Fits family) :
    Serializes (fun m ub => serializeFormats Device.plain family m ub input) input.fields := by
  cases input with
  | byReference reference =>
    refine serializes_tagged _ (serializes_string reference) fun hcall => ?_
    rw [serializeFormats, hcall]
    exact if_pos hfits.1
  | asXmlString xml =>
    refine serializes_tagged _ (serializes_string xml) fun hcall => ?_
    rw [serializeFormats, hcall]
  | inBinary bytes =>
    refine serializes_tagged _ (serializes_binarySequence bytes) fun hcall => ?_
    rw [serializeFormats, hcall]
    exact if_pos hfits.1
  | other format =>
    refine serializes_tagged _ serializes_nothing fun hcall => ?_
    rw [serializeFormats, hcall]

theorem serializes_withObjectId {family : FormatFamily} {base : RepresentationFormats}
    (hfits : base.Fits family) (objectId : List UInt8) :
    Serializes (fun m ub => serializeWithObjectId Device.plain family m ub base objectId)
      (base.fields ++ [.array objectId]) :=
  (serializes_formats hfits).and (serializes_array objectId)

/-- The kind of a variant, and the representation behind it. -/
theorem serializes_objectVariant {profile : BuildProfile} {input : ObjectVariant}
    (hfits : input.Fits profile) :
    Serializes (fun m ub => serializeObjectVariant Device.plain m ub input) input.fields := by
  cases input with
  | agent representation =>
    refine serializes_tagged _ (serializes_agentRepresentation representation) fun hcall => ?_
    rw [serializeObjectVariant, hcall]
  | client representation =>
    refine serializes_tagged _ (serializes_createClientPayload representation) fun hcall => ?_
    rw [serializeObjectVariant, hcall]
  | application base | qosProfile base | type base =>
    refine serializes_tagged _ (serializes_formats hfits) fun hcall => ?_
    rw [serializeObjectVariant, hcall]
    rfl
  | participant base domainId =>
    refine serializes_tagged _
      ((serializes_formats hfits).and (serializes_scalar 2 _ (by simp))) fun hcall => ?_
    rw [serializeObjectVariant, hcall]
    rfl
  | topic base objectId | publisher base objectId | subscriber base objectId
  | dataWriter base objectId | dataReader base objectId | requester base objectId
  | replier base objectId =>
    refine serializes_tagged _ (serializes_withObjectId hfits.1 objectId) fun hcall => ?_
    rw [serializeObjectVariant, hcall]
    rfl
  | other kind =>
    refine serializes_tagged _ serializes_nothing fun hcall => ?_
    rw [serializeObjectVariant, hcall]

theorem serializes_addressAndPort (address : List UInt8) (width locatorPort : Nat)
    (hwidth : width ∈ [1, 2, 4, 8]) :
    Serializes (fun m ub => serializeAddressAndPort Device.plain m ub address width locatorPort)
      [.array address, .scalar width locatorPort] :=
  (serializes_array _).and (serializes_scalar _ _ hwidth)

theorem serializes_transportLocator (input : TransportLocator) :
    Serializes (fun m ub => serializeTransportLocator Device.plain m ub input) input.fields := by
  cases input with
  | small address locatorPort | medium address locatorPort | large address locatorPort =>
    refine serializes_tagged _ (serializes_addressAndPort address _ _ (by simp)) fun hcall => ?_
    rw [serializeTransportLocator, hcall]
  | string value =>
    refine serializes_tagged _ (serializes_string value) fun hcall => ?_
    rw [serializeTransportLocator, hcall]
  | other format =>
    refine serializes_tagged _ serializes_nothing fun hcall => ?_
    rw [serializeTransportLocator, hcall]

theorem serializes_transportLocators (locators : List TransportLocator) :
    Serializes (fun m ub => serializeTransportLocators Device.plain locators m ub)
      (locators.flatMap TransportLocator.fields) := by
  induction locators with
  | nil => exact serializes_nothing
  | cons locator locators ih =>
    exact (serializes_transportLocator locator).andThen ih fun hcall => by
      rw [serializeTransportLocators, hcall]

theorem serializes_transportLocatorSeq (locators : List TransportLocator) :
    Serializes (fun m ub => serializeTransportLocatorSeq Device.plain m ub locators)
      (sequenceFields TransportLocator.fields locators) :=
  (serializes_scalar 4 _ (by simp)).andThen (serializes_transportLocators locators) fun hcall => by
    rw [serializeTransportLocatorSeq, hcall]

theorem serializes_activityInfoVariant (input : ActivityInfoVariant) :
    Serializes (fun m ub => serializeActivityInfoVariant Device.plain m ub input)
      input.fields := by
  cases input with
  | agent availability addressSeq =>
    refine serializes_tagged _ ((serializes_scalar 2 _ (by simp)).and
      (serializes_transportLocatorSeq addressSeq)) fun hcall => ?_
    rw [serializeActivityInfoVariant, hcall]
    rfl
  | dataWriter streamSeqNum sampleSeqNum =>
    refine serializes_tagged _ ((serializes_scalar 2 _ (by simp)).and
      (serializes_scalar 8 _ (by simp))) fun hcall => ?_
    rw [serializeActivityInfoVariant, hcall]
    rfl
  | dataReader highestAckedNum =>
    refine serializes_tagged _ (serializes_scalar 2 _ (by simp)) fun hcall => ?_
    rw [serializeActivityInfoVariant, hcall]
    rfl
  | other kind =>
    refine serializes_tagged _ serializes_nothing fun hcall => ?_
    rw [serializeActivityInfoVariant, hcall]

theorem serializes_objectInfo {profile : BuildProfile} {input : ObjectInfo}
    (hfits : input.Fits profile) :
    Serializes (fun m ub => serializeObjectInfo Device.plain m ub input) input.fields := by
  obtain ⟨config, activity⟩ := input
  have hflag (content : Bool) := serializes_scalar 1 content.toNat (by simp)
  have hconfig : ∀ variant ∈ config, Serializes _ variant.fields := fun variant hmem =>
    serializes_objectVariant (hfits.1 variant hmem)
  cases config with
  | none =>
    have hfront := (hflag false).and serializes_nothing
    cases activity with
    | none => exact (hfront.and (hflag false)).and serializes_nothing
    | some activity => exact (hfront.and (hflag true)).and (serializes_activityInfoVariant activity)
  | some variant =>
    have hfront := (hflag true).and (hconfig variant rfl)
    cases activity with
    | none =>
      have hall := (hfront.and (hflag false)).and serializes_nothing
      rw [List.append_nil] at hall
      exact hall
    | some activity =>
      have hall := (hfront.and (hflag true)).and (serializes_activityInfoVariant activity)
      rw [List.append_assoc] at hall
      exact hall

theorem serializes_baseObjectRequest (input : BaseObjectRequest) :
    Serializes (fun m ub => serializeBaseObjectRequest Device.plain m ub input) input.fields :=
  (serializes_array _).and (serializes_array _)

theorem serializes_createPayload {profile : BuildProfile} {input : CreatePayload}
    (hfits : input.Fits profile) :
    Serializes (fun m ub => serializeCreatePayload Device.plain m ub input) input.fields :=
  (serializes_baseObjectRequest input.base).and (serializes_objectVariant hfits.2)

theorem serializes_statusAgentPayload (input : StatusAgentPayload) :
    Serializes (fun m ub => serializeStatusAgentPayload Device.plain m ub input) input.fields :=
  ((serializes_scalar 1 _ (by simp)).and (serializes_scalar 1 _ (by simp))).and
    (serializes_agentRepresentation input.agentInfo)

theorem serializes_infoPayload {profile : BuildProfile} {input : InfoPayload}
    (hfits : input.Fits profile) :
    Serializes (fun m ub => serializeInfoPayload Device.plain m ub input) input.fields :=
  (((serializes_baseObjectRequest input.base.relatedRequest).and
    (serializes_scalar 1 _ (by simp))).and (serializes_scalar 1 _ (by simp))).and
      (serializes_objectInfo hfits.2)

end XrceTypes

end XrceClient
