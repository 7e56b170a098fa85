import XrceClient.Session.Representations

/-!
# What is read of an agent that was found (`discovery.c`)

An INFO message is read into an `INFO_Payload` on the stack, which nobody has initialised. What the
message does not carry is left as it was, and the agents are taken from all of it.

- `InfoMemory`: what is in the memory of the payload, as far as it is looked at.
- `readInfoMessage`: the agents that the callback is told of, and the result.
- `announced`: the locators that a message carries for the client.
- `readInfoMessage_tells_iff`: when they are the ones that the callback is told of, whatever is in memory.
-/

namespace XrceClient

/-! ## The memory of a payload -/

/-- A `TransportLocator` in memory. Of a string the callback gets the address, `_.string_locator.value`;
the deserializer writes to where it points and does not set it. -/
structure LocatorMemory where
  locator : TransportLocator
  value : Nat
  deriving DecidableEq

/-- The memory of an `INFO_Payload` before it is read: what is in the place of
`object_info.config._.agent.xrce_version`, and `object_info.activity._.agent.address_seq`, with the
locators also behind its end. -/
structure InfoMemory where
  xrceVersion : List UInt8
  length_xrceVersion : xrceVersion.length = 2
  size : UInt32
  data : Nat → LocatorMemory

/-- `DDS_XRCE_XRCE_VERSION` (xrce_types.h). -/
def ddsXrceXrceVersion : List UInt8 := [0x01, 0x00]

/-- A locator that was read into the memory of another one. -/
def TransportLocator.writtenOver (memory : LocatorMemory) : TransportLocator → LocatorMemory
  | .string bytes => ⟨.string bytes, memory.value⟩
  | locator => ⟨locator, 0⟩

/-- What is in the place of an agent's version, `config._.agent.xrce_version`, behind a
representation. That of a client begins as that of an agent does, and a kind without content is not
written; the others leave there what the layout of the union makes of them. -/
def ObjectVariant.versionOver (overlay : ObjectVariant → List UInt8 → List UInt8)
    (version : List UInt8) : ObjectVariant → List UInt8
  | .agent representation => representation.xrceVersion
  | .client representation => representation.xrceVersion
  | .other _ => version
  | variant => overlay variant version

/-! ## Reading -/

/-- What a message carries, as far as it is looked at: the representation of an object, and the
locators of an agent. -/
structure DiscoveredInfo where
  config : Option ObjectVariant
  addressSeq : Option (List TransportLocator)
  deriving DecidableEq

namespace XrceTypes

variable [MicroCdr] {σ : Type} (dev : Device σ)

/-- The activity of an agent (discovery.c:168–185). A sequence that is too long is read up to the
number for which there is room. -/
def deserializeDiscoveryActivity : StateM (σ × UcdrBuffer) (Option (List TransportLocator)) := do
  match ← readScalar dev 1 with
  | some 0x0D =>
    let availability ← readScalar dev 2
    let size ← readScalar dev 4
    match availability, size with
    | some _, some size =>
      deserializeItems (deserializeTransportLocator dev) (min size transportLocatorSequenceMax)
    | _, _ => return none
  | _ => return none

/-- `uxr_deserialize_discovery_INFO_Payload` (discovery.c:151–188). -/
def deserializeDiscoveryInfoPayload (profile : BuildProfile) (output : List Property) :
    StateM (σ × UcdrBuffer) (Option DiscoveredInfo) := do
  let base ← deserializeBaseObjectReply dev
  let config ← deserializeOptional dev (deserializeObjectVariant dev profile output)
  let addressSeq ← deserializeOptional dev (deserializeDiscoveryActivity dev)
  return do
    let _ ← base
    let config ← config
    let addressSeq ← addressSeq
    some { config, addressSeq }

end XrceTypes

/-- The callback `on_agent`: its answer, from the calls before and the locator. -/
abbrev OnAgentFound := List LocatorMemory → LocatorMemory → Bool

/-- The loop of `read_info_message` (discovery.c:200–207), over the locators that are left: the
calls so far, and the answer of the last one. -/
def tellAgents (onAgent : OnAgentFound) (version : List UInt8) :
    List LocatorMemory → List LocatorMemory × Bool → List LocatorMemory × Bool
  | [], told => told
  | locator :: locators, (calls, isSucceed) =>
    if version = ddsXrceXrceVersion then
      tellAgents onAgent version locators (calls ++ [locator], onAgent calls locator)
    else
      tellAgents onAgent version locators (calls, isSucceed)

/-- The version behind a message, over what was there. -/
def DiscoveredInfo.version (overlay : ObjectVariant → List UInt8 → List UInt8)
    (info : DiscoveredInfo) (memory : InfoMemory) : List UInt8 :=
  match info.config with
  | some variant => variant.versionOver overlay memory.xrceVersion
  | none => memory.xrceVersion

/-- The locators behind a message, over what was there. -/
def DiscoveredInfo.locators (info : DiscoveredInfo) (memory : InfoMemory) : List LocatorMemory :=
  match info.addressSeq with
  | some addressSeq =>
    addressSeq.mapIdx fun i locator => locator.writtenOver (memory.data i)
  | none => (List.range memory.size.toNat).map memory.data

/-- `read_info_message` (discovery.c:190–212), from what was deserialized: the calls of the
callback, and the result. -/
def tellInfo (overlay : ObjectVariant → List UInt8 → List UInt8) (onAgent : OnAgentFound)
    (info : Option DiscoveredInfo) (memory : InfoMemory) (calls : List LocatorMemory) :
    List LocatorMemory × Bool :=
  match info with
  | some info =>
    tellAgents onAgent (info.version overlay memory) (info.locators memory) (calls, false)
  | none => (calls, false)

/-- `read_info_message` (discovery.c:190–212), behind the headers of a message, and after a number
of calls. -/
def readInfoMessage [MicroCdr] {σ : Type} (dev : Device σ) (profile : BuildProfile)
    (overlay : ObjectVariant → List UInt8 → List UInt8) (onAgent : OnAgentFound)
    (memory : InfoMemory) (calls : List LocatorMemory) (s : σ) (ub : UcdrBuffer) :
    List LocatorMemory × Bool :=
  tellInfo overlay onAgent
    ((XrceTypes.deserializeDiscoveryInfoPayload dev profile []).run (s, ub)).1 memory calls

/-! ## What the callback is told -/

/-- The answers of the callback to a number of locators, behind the calls before. -/
def answersOf (onAgent : OnAgentFound) : List LocatorMemory → List LocatorMemory → List Bool
  | _, [] => []
  | calls, locator :: locators =>
    onAgent calls locator :: answersOf onAgent (calls ++ [locator]) locators

/-- The locators that a message carries for the client: those of an agent of its own version. -/
def announced : Option DiscoveredInfo → List TransportLocator
  | some { config := some (.agent representation), addressSeq := some addressSeq } =>
    if representation.xrceVersion = ddsXrceXrceVersion then addressSeq else []
  | _ => []

/-- A locator that is a string, of which the callback gets the address. -/
def TransportLocator.isString : TransportLocator → Bool
  | .string _ => true
  | _ => false

/-- Whatever is in memory, the callback is told of the locators that are announced, in their order
and once each, and the result is whether one of its answers was `true`. -/
def TellsAnnounced (onAgent : OnAgentFound) (before : List LocatorMemory)
    (expected : List TransportLocator) (result : InfoMemory → List LocatorMemory × Bool) : Prop :=
  ∃ told : List LocatorMemory, told.map LocatorMemory.locator = expected ∧
    ∀ memory, (result memory).1 = before ++ told ∧
      ((result memory).2 = true ↔ true ∈ answersOf onAgent before told)

/-- Nothing that was in memory counts, and no answer is forgotten. -/
def InfoComplete (overlay : ObjectVariant → List UInt8 → List UInt8) (onAgent : OnAgentFound)
    (before : List LocatorMemory) (info : DiscoveredInfo) : Prop :=
  -- there is no locator
  info.addressSeq = some [] ∨
  -- there is another version in the place of the agent's, whatever was there
  (∀ memory, info.version overlay memory ≠ ddsXrceXrceVersion) ∨
  -- there is an agent, with locators that are no strings, and the last answer is like any `true`
  ∃ representation addressSeq, info.config = some (.agent representation) ∧
    info.addressSeq = some addressSeq ∧ (∀ locator ∈ addressSeq, locator.isString = false) ∧
    (true ∈ answersOf onAgent before (addressSeq.map fun locator => ⟨locator, 0⟩) →
      (answersOf onAgent before (addressSeq.map fun locator => ⟨locator, 0⟩)).getLast? = some true)

section

variable {overlay : ObjectVariant → List UInt8 → List UInt8} {onAgent : OnAgentFound}
  {before : List LocatorMemory} {info : DiscoveredInfo}

/-- With the version of the client all locators are told, and the last answer counts; with any other
none is. -/
theorem tellAgents_eq (version : List UInt8) (locators calls : List LocatorMemory)
    (isSucceed : Bool) :
    tellAgents onAgent version locators (calls, isSucceed) =
      if version = ddsXrceXrceVersion then
        (calls ++ locators, (answersOf onAgent calls locators).getLast?.getD isSucceed)
      else (calls, isSucceed) := by
  by_cases hversion : version = ddsXrceXrceVersion
  · rw [if_pos hversion]
    induction locators generalizing calls isSucceed with
    | nil => simp [tellAgents, answersOf]
    | cons locator locators ih =>
      rw [tellAgents, if_pos hversion, ih, answersOf, List.getLast?_cons]
      simp
  · rw [if_neg hversion]
    induction locators generalizing calls isSucceed with
    | nil => rfl
    | cons locator locators ih => rw [tellAgents, if_neg hversion, ih]

theorem tellInfo_some (memory : InfoMemory) :
    tellInfo overlay onAgent (some info) memory before =
      if info.version overlay memory = ddsXrceXrceVersion then
        (before ++ info.locators memory,
          (answersOf onAgent before (info.locators memory)).getLast?.getD false)
      else (before, false) :=
  tellAgents_eq _ _ _ _

/-- The result is `true` where the last answer is. -/
theorem tellInfo_some_result (memory : InfoMemory)
    (hversion : info.version overlay memory = ddsXrceXrceVersion) :
    (tellInfo overlay onAgent (some info) memory before).2 = true ↔
      (answersOf onAgent before (info.locators memory)).getLast? = some true := by
  rw [tellInfo_some, if_pos hversion]
  dsimp only
  cases (answersOf onAgent before (info.locators memory)).getLast? with
  | none => simp
  | some answer => simp

/-! ## The locators in memory -/

theorem locators_map {addressSeq : List TransportLocator}
    (haddressSeq : info.addressSeq = some addressSeq) (memory : InfoMemory) :
    (info.locators memory).map LocatorMemory.locator = addressSeq := by
  rw [DiscoveredInfo.locators, haddressSeq]
  refine List.ext_getElem? fun i => ?_
  simp only [List.getElem?_map, List.getElem?_mapIdx]
  cases addressSeq[i]? with
  | none => rfl
  | some locator => cases locator <;> rfl

/-- Of what is no string nothing comes from memory. -/
theorem locators_of_no_string {addressSeq : List TransportLocator}
    (haddressSeq : info.addressSeq = some addressSeq)
    (h : ∀ locator ∈ addressSeq, locator.isString = false) (memory : InfoMemory) :
    info.locators memory = addressSeq.map fun locator => ⟨locator, 0⟩ := by
  rw [DiscoveredInfo.locators, haddressSeq]
  dsimp only
  refine List.ext_getElem? fun i => ?_
  rw [List.getElem?_mapIdx, List.getElem?_map]
  cases hlocator : addressSeq[i]? with
  | none => rfl
  | some locator =>
    have hstring := h locator (List.mem_of_getElem? hlocator)
    cases locator with
    | string bytes => cases hstring
    | small | medium | large | other => rfl

/-- Memory with the same version, one locator, and the given address in the place of every
string. -/
def InfoMemory.withAddress (memory : InfoMemory) (value : Nat) : InfoMemory :=
  { memory with size := 1, data := fun _ => ⟨.other 0, value⟩ }

/-- What is the same for any two addresses has no string. -/
theorem no_string_of_same {addressSeq : List TransportLocator}
    (haddressSeq : info.addressSeq = some addressSeq) {memory : InfoMemory}
    (hsame : info.locators (memory.withAddress 0) = info.locators (memory.withAddress 1)) :
    ∀ locator ∈ addressSeq, locator.isString = false := by
  intro locator hmem
  obtain ⟨i, hi, rfl⟩ := List.getElem_of_mem hmem
  cases hlocator : addressSeq[i] with
  | string bytes =>
    have htwo := congrArg (fun locators => locators[i]?) hsame
    simp [DiscoveredInfo.locators, haddressSeq, hi, hlocator, TransportLocator.writtenOver,
      InfoMemory.withAddress] at htwo
  | small | medium | large | other => rfl

/-! ## Whatever is in memory -/

/-- Only an agent of the client's version is announced. -/
theorem announced_some (h : announced (some info) ≠ []) :
    ∃ representation, info.config = some (.agent representation) ∧
      representation.xrceVersion = ddsXrceXrceVersion ∧
      info.addressSeq = some (announced (some info)) := by
  obtain ⟨config, addressSeq⟩ := info
  rcases config with _ | variant
  · exact absurd rfl h
  cases variant with
  | agent representation =>
    cases addressSeq with
    | none => exact absurd rfl h
    | some addressSeq =>
      rw [announced] at h ⊢
      by_cases hversion : representation.xrceVersion = ddsXrceXrceVersion
      · rw [if_pos hversion]
        exact ⟨representation, rfl, hversion, rfl⟩
      · rw [if_neg hversion] at h
        exact absurd rfl h
  | client | application | participant | qosProfile | type | topic | publisher | subscriber
  | dataWriter | dataReader | requester | replier | other => exact absurd rfl h

theorem infoComplete_of_tellsAnnounced
    (h : TellsAnnounced onAgent before (announced (some info))
      fun memory => tellInfo overlay onAgent (some info) memory before) :
    InfoComplete overlay onAgent before info := by
  obtain ⟨told, hexpected, hsame⟩ := h
  dsimp only at hsame
  by_cases hother : ∀ memory, info.version overlay memory ≠ ddsXrceXrceVersion
  · exact .inr (.inl hother)
  obtain ⟨memory, hversion⟩ := not_forall_not.mp hother
  -- with this version in memory, all that is in the place of the locators is told
  have hlocators (value : Nat) : info.locators (memory.withAddress value) = told := by
    have htold := (hsame (memory.withAddress value)).1
    rw [tellInfo_some, if_pos (show info.version overlay (memory.withAddress value) = _ from
      hversion)] at htold
    exact List.append_cancel_left htold
  by_cases hnone : announced (some info) = []
  · left
    rw [hnone, List.map_eq_nil_iff] at hexpected
    have hnothing := hlocators 0
    rw [hexpected] at hnothing
    cases haddressSeq : info.addressSeq with
    | none =>
      -- the locator in memory would have been told
      rw [DiscoveredInfo.locators, haddressSeq] at hnothing
      cases hnothing
    | some addressSeq =>
      have hempty := locators_map haddressSeq (memory.withAddress 0)
      rw [hnothing, List.map_nil] at hempty
      rw [hempty]
  · obtain ⟨representation, hconfig, -, haddressSeq⟩ := announced_some hnone
    have hstrings := no_string_of_same haddressSeq ((hlocators 0).trans (hlocators 1).symm)
    refine .inr (.inr ⟨representation, _, hconfig, haddressSeq, hstrings, fun hsome => ?_⟩)
    have heq := locators_of_no_string haddressSeq hstrings (memory.withAddress 0)
    have htold := (hlocators 0).symm.trans heq
    rw [← htold] at hsome ⊢
    have hresult := (hsame (memory.withAddress 0)).2.mpr hsome
    have hlast := (tellInfo_some_result (memory.withAddress 0) hversion).mp hresult
    rwa [hlocators 0] at hlast

theorem tellsAnnounced_of_infoComplete (h : InfoComplete overlay onAgent before info) :
    TellsAnnounced onAgent before (announced (some info))
      fun memory => tellInfo overlay onAgent (some info) memory before := by
  -- where nothing is told, nothing may be announced
  have hsilent (hnone : announced (some info) = [])
      (htold : ∀ memory, tellInfo overlay onAgent (some info) memory before = (before, false)) :
      TellsAnnounced onAgent before (announced (some info))
        fun memory => tellInfo overlay onAgent (some info) memory before := by
    refine ⟨[], by rw [hnone]; rfl, fun memory => ?_⟩
    dsimp only
    rw [htold memory, List.append_nil]
    exact ⟨rfl, by simp [answersOf]⟩
  by_cases hother : ∀ memory, info.version overlay memory ≠ ddsXrceXrceVersion
  · refine hsilent ?_ fun memory => by rw [tellInfo_some, if_neg (hother memory)]
    by_contra hsome
    obtain ⟨representation, hconfig, hversion, -⟩ := announced_some hsome
    refine hother ⟨[0, 0], rfl, 0, fun _ => ⟨.other 0, 0⟩⟩ ?_
    rw [DiscoveredInfo.version, hconfig]
    exact hversion
  rcases h with hempty | hother' | ⟨representation, addressSeq, hconfig, haddressSeq, hstrings, hlast⟩
  · have hnothing (memory : InfoMemory) : info.locators memory = [] :=
      List.map_eq_nil_iff.mp (locators_map hempty memory)
    refine hsilent ?_ fun memory => ?_
    · by_contra hsome
      obtain ⟨_, -, -, haddressSeq⟩ := announced_some hsome
      rw [hempty] at haddressSeq
      exact hsome (Option.some.inj haddressSeq).symm
    · rw [tellInfo_some, hnothing]
      split
      · rw [List.append_nil]
        rfl
      · rfl
  · exact absurd hother' hother
  · obtain ⟨memory, hversion⟩ := not_forall_not.mp hother
    have hall (memory' : InfoMemory) : info.version overlay memory' = ddsXrceXrceVersion := by
      rw [DiscoveredInfo.version, hconfig] at hversion ⊢
      exact hversion
    have hrepresentation : representation.xrceVersion = ddsXrceXrceVersion := by
      rw [DiscoveredInfo.version, hconfig] at hversion
      exact hversion
    have heq (memory' : InfoMemory) := locators_of_no_string haddressSeq hstrings memory'
    refine ⟨addressSeq.map fun locator => ⟨locator, 0⟩, ?_, fun memory' => ⟨?_, ?_⟩⟩
    · obtain ⟨config, addressSeq'⟩ := info
      dsimp only at hconfig haddressSeq
      rw [hconfig, haddressSeq, announced, if_pos hrepresentation, List.map_map]
      exact List.map_id _
    · dsimp only
      rw [tellInfo_some, if_pos (hall memory'), heq memory']
    · dsimp only
      rw [tellInfo_some_result memory' (hall memory'), heq memory']
      exact ⟨fun hgetLast => List.mem_of_getLast? hgetLast, hlast⟩

end

/-- From any datagram: the callback is told of what is announced, whatever is in the memory of the
payload, exactly if the message cannot be read, or is complete. -/
theorem readInfoMessage_tells_iff [MicroCdr] {σ : Type} (dev : Device σ) (profile : BuildProfile)
    (overlay : ObjectVariant → List UInt8 → List UInt8) (onAgent : OnAgentFound)
    (before : List LocatorMemory) (s : σ) (ub : UcdrBuffer) :
    TellsAnnounced onAgent before
        (announced ((XrceTypes.deserializeDiscoveryInfoPayload dev profile []).run (s, ub)).1)
        (fun memory => readInfoMessage dev profile overlay onAgent memory before s ub) ↔
      ∀ info, ((XrceTypes.deserializeDiscoveryInfoPayload dev profile []).run (s, ub)).1 =
          some info → InfoComplete overlay onAgent before info := by
  unfold readInfoMessage
  generalize ((XrceTypes.deserializeDiscoveryInfoPayload dev profile []).run (s, ub)).1 = decoded
  cases decoded with
  | none =>
    refine ⟨fun _ => nofun, fun _ => ⟨[], rfl, fun memory => ⟨(List.append_nil _).symm, ?_⟩⟩⟩
    simp [tellInfo, answersOf]
  | some info =>
    constructor
    · rintro htells info' heq
      cases heq
      exact infoComplete_of_tellsAnnounced htells
    · intro hcomplete
      exact tellsAnnounced_of_infoComplete (hcomplete info rfl)

/-- An INFO message without a representation, and with an agent at 127.0.0.1:8888. -/
def configlessInfo : List UInt8 :=
  [0, 9, 0xFF, 0xFD, 0, 0, 0, 1, 0x0D, 0, 1, 0, 1, 0, 0, 0, 1, 127, 0, 0, 1, 0, 0xB8, 0x22]

/-- The message announces nobody; where the version of the client happens to be in memory, the
callback is told of the agent all the same. -/
theorem configlessInfo_not_tells :
    ¬ TellsAnnounced (fun _ _ => true) []
      (announced ((@XrceTypes.deserializeDiscoveryInfoPayload referenceMicroCdr _ Device.plain
        ⟨false, none⟩ []).run
          ((fun i => configlessInfo.getD i 0), @ucdrInitBuffer referenceMicroCdr 0 24)).1)
      (fun memory => @readInfoMessage referenceMicroCdr _ Device.plain ⟨false, none⟩
        (fun _ version => version) (fun _ _ => true) memory [] (fun i => configlessInfo.getD i 0)
        (@ucdrInitBuffer referenceMicroCdr 0 24)) := by
  unfold readInfoMessage
  have hdecoded : ((@XrceTypes.deserializeDiscoveryInfoPayload referenceMicroCdr _ Device.plain
      ⟨false, none⟩ []).run
        ((fun i => configlessInfo.getD i 0), @ucdrInitBuffer referenceMicroCdr 0 24)).1 =
      some ⟨none, some [.medium [127, 0, 0, 1] 8888]⟩ := by decide +kernel
  rw [hdecoded]
  rintro ⟨told, hexpected, hsame⟩
  obtain rfl : told = [] := List.map_eq_nil_iff.mp hexpected
  have htold := (hsame ⟨ddsXrceXrceVersion, rfl, 0, fun _ => ⟨.other 0, 0⟩⟩).1
  cases htold

end XrceClient
