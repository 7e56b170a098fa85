import XrceClient.Session.EntityCreation
import XrceClient.Session.UnknownStreams
import XrceClient.SharedMemory.Additions
import XrceClient.SharedMemory.Queues

/-!
# Entities that are created again (`create_entities_xml.c`, `create_entities_bin.c`)

`uxr_buffer_create_datawriter_xml` and its likes add an entity to the map and then ask for room in
the stream. The map is not searched, and what was added stays when there is no room.

- `CreationState`: the map, the sessions, and a record of the creations.
- `UniqueEntities`: an object has one entity, as it was described last, and a creation that failed
  has none.
- `AddsUnique`: the object is not in the map yet and there is room for the request; or else the map
  is full, and the object is in it as described.
- `entities_unique_iff`: in every run the one if and only if the other.
-/

namespace XrceClient

open ByteMemory Steps

/-- A call of `uxr_buffer_create_datawriter_xml` or one of its likes. The flag is `UXR_REPLACE`;
the last field writes the request. -/
structure Creation extends Addition where
  streamId : StreamId
  binarySize : UInt16
  replace : Bool
  write : BaseObjectRequest → UcdrBuffer → Memory → Memory

/-- `xml_ref_bin_size`. -/
def Creation.size (creation : Creation) : UInt16 :=
  match creation.description with
  | .xml text => UInt16.ofNat (text.length + 1)
  | .bin _ => creation.binarySize

/-- A creation, with the request that was returned, the entity that it describes, and the entry that
it was added at. -/
structure CreationRecord where
  creation : Creation
  requestId : UInt16
  described : Option SharedEntity
  entry : Option Nat

/-- The map and the sessions, and the creations so far. -/
structure CreationState where
  map : SharedMemoryMap
  sessions : Nat → Session
  record : List CreationRecord

/-- What happens next: a creation, or anything else with the sessions and their streams. -/
inductive CreationAction where
  | create (creation : Creation)
  | proceed (sessions : Nat → Session)

section

variable [MicroCdr] (keys : Nat → SharedSession) (config : SharedMemoryConfig)

namespace CreationState

/-- `uxr_buffer_create_datawriter_xml` and its likes (create_entities_xml.c:90–158,
create_entities_bin.c:52–335). -/
def create (state : CreationState) (creation : Creation) : Option CreationState := do
  let map ← addSharedMemoryEntity keys config state.map creation.toAddition
  let (requestId, session) :=
    commonCreateEntity (state.sessions creation.session) creation.streamId creation.entityId
      creation.size creation.write
  return { map
           sessions := Function.update state.sessions creation.session session
           record := state.record ++
             [{ creation
                requestId
                described := describedEntity keys config state.map creation.toAddition
                entry :=
                  if state.map.entitiesLen < map.entitiesLen then some state.map.entitiesLen
                  else none }] }

/-- One action, where it is defined. -/
def step (state : CreationState) : CreationAction → Option CreationState
  | .create creation => state.create keys config creation
  | .proceed sessions => some { state with sessions }

/-- No entity was created yet. -/
def initial (sessions : Nat → Session) : CreationState where
  map := .zero
  sessions
  record := []

end CreationState

end

/-! ## One entity for an object -/

section

variable (keys : Nat → SharedSession)

/-- An entity that is described as another one, with the same topic. -/
def SharedEntity.describes (entity entity' : SharedEntity) : Prop :=
  entity.type = entity'.type ∧ entity.data = entity'.data ∧
    entity.relatedTopic = entity'.relatedTopic

/-- An object is in the map as a creation describes it, if it is in the map. -/
def SharedMemoryMap.heldAs (map : SharedMemoryMap) (identity : Vector UInt8 4 × ObjectId)
    (described : Option SharedEntity) : Prop :=
  ∀ i < map.entitiesLen, map.identity keys i = identity →
    ∃ entity, described = some entity ∧ entity.describes (map.entity i)

/-- What was replaced, and was not created anew since, is in the map as it was described then. -/
def CreationState.Latest (state : CreationState) : Prop :=
  ∀ before entry after, state.record = before ++ entry :: after →
    entry.creation.replace = true → entry.requestId ≠ invalidRequestId →
    (∀ later ∈ after, later.requestId ≠ invalidRequestId →
      later.creation.identity keys ≠ entry.creation.identity keys) →
    state.map.heldAs keys (entry.creation.identity keys) entry.described

/-- An object has one entity, and so a sample goes to it once; a creation that failed has none; what
was replaced is as described last. -/
structure CreationState.UniqueEntities (state : CreationState) : Prop where
  unique : ∀ i < state.map.entitiesLen, ∀ j < state.map.entitiesLen,
    state.map.identity keys i = state.map.identity keys j → i = j
  once : ∀ i,
    ((state.map.partners i state.map.entitiesLen).map (state.map.identity keys)).Nodup
  failed : ∀ entry ∈ state.record, entry.requestId = invalidRequestId → entry.entry = none
  latest : state.Latest keys

end

section

variable [MicroCdr] (keys : Nat → SharedSession) (config : SharedMemoryConfig)

/-- There is room for the request. -/
def CreationState.hasRoom (state : CreationState) (creation : Creation) : Prop :=
  prepareStreamToWriteSubmessage (state.sessions creation.session).streams creation.streamId
    (createPayloadLength creation.entityId creation.size).toNat ≠ none

/-- The object of a creation is not in the map and there is room for the request; or the map is full
and the object, if it is replaced, is in the map as described. -/
def CreationState.AddsUnique (state : CreationState) : CreationAction → Prop
  | .create creation =>
    if state.map.entitiesLen ≤ config.maxEntities - 1 then
      state.map.getEntityIndex keys creation.session creation.entityId = none ∧
        state.hasRoom creation
    else
      creation.replace = true → state.hasRoom creation →
        state.map.heldAs keys (creation.identity keys) (describedEntity keys config state.map creation.toAddition)
  | .proceed _ => True

end

/-! ## What a creation does -/

section

variable [MicroCdr] {keys : Nat → SharedSession} {config : SharedMemoryConfig}

/-- A creation, with what it returns and what becomes of the map. -/
theorem create_cases {state state' : CreationState} {creation : Creation}
    (h : state.create keys config creation = some state') :
    ∃ requestId entry,
      state'.record = state.record ++
        [⟨creation, requestId, describedEntity keys config state.map creation.toAddition, entry⟩] ∧
      (requestId ≠ invalidRequestId ↔ state.hasRoom creation) ∧
      ((state.map.entitiesLen ≤ config.maxEntities - 1 ∧ entry = some state.map.entitiesLen ∧
          ∃ added, describedEntity keys config state.map creation.toAddition = some added ∧
            state'.map.entities = state.map.entities ++ [added]) ∨
        (¬ state.map.entitiesLen ≤ config.maxEntities - 1 ∧ entry = none ∧
          state'.map.entities = state.map.entities)) := by
  obtain ⟨map, hadd, heq⟩ := Option.bind_eq_some_iff.mp h
  cases heq
  have hroom := commonCreateEntity_invalid_iff (state.sessions creation.session) creation.streamId
    creation.entityId creation.size creation.write
  refine ⟨_, _, rfl, not_congr hroom, ?_⟩
  rw [addSharedMemoryEntity_eq] at hadd
  have hentities := (state.map.sharedMemoryInit_entities config).1
  rcases addEntity_cases hadd with ⟨hspace, added, hdescribed, hadded⟩ | ⟨hfull, hsame⟩
  · rw [SharedMemoryMap.entitiesLen, hentities] at hspace
    rw [hentities] at hadded
    refine .inl ⟨hspace, if_pos ?_, added, hdescribed, hadded⟩
    rw [SharedMemoryMap.entitiesLen, SharedMemoryMap.entitiesLen, hadded, List.length_append]
    exact Nat.lt_succ_self _
  · rw [SharedMemoryMap.entitiesLen, hentities] at hfull
    rw [hentities] at hsame
    refine .inr ⟨hfull, if_neg ?_, hsame⟩
    rw [SharedMemoryMap.entitiesLen, SharedMemoryMap.entitiesLen, hsame]
    exact Nat.lt_irrefl _

namespace CreationState

omit [MicroCdr] in
/-- The entities that an entity matches are different objects if all entities are. -/
theorem UniqueEntities.of_unique {state : CreationState}
    (unique : ∀ i < state.map.entitiesLen, ∀ j < state.map.entitiesLen,
      state.map.identity keys i = state.map.identity keys j → i = j)
    (failed : ∀ entry ∈ state.record, entry.requestId = invalidRequestId → entry.entry = none)
    (latest : state.Latest keys) : state.UniqueEntities keys where
  unique := unique
  once i := by
    refine List.Nodup.map_on ?_ (List.Nodup.filter _ List.nodup_range)
    intro j hj k hk
    exact unique j (SharedMemoryMap.mem_partners.mp hj).1 k (SharedMemoryMap.mem_partners.mp hk).1
  failed := failed
  latest := latest

omit [MicroCdr] in
/-- A creation leaves what was described last as it is, unless it is for that object. -/
theorem Latest.append {state state' : CreationState} {new : CreationRecord}
    (h : state.Latest keys) (hrecord : state'.record = state.record ++ [new])
    (hkept : ∀ identity described,
      (new.requestId ≠ invalidRequestId → new.creation.identity keys ≠ identity) →
      state.map.heldAs keys identity described → state'.map.heldAs keys identity described)
    (hnew : new.creation.replace = true → new.requestId ≠ invalidRequestId →
      state'.map.heldAs keys (new.creation.identity keys) new.described) :
    state'.Latest keys := by
  intro before entry after hsplit hreplace hvalid hafter
  rw [hrecord] at hsplit
  rcases List.eq_nil_or_concat after with rfl | ⟨after, last, rfl⟩
  · obtain ⟨-, hentry⟩ := List.append_inj' hsplit rfl
    cases hentry
    exact hnew hreplace hvalid
  · rw [List.concat_eq_append, ← List.cons_append, ← List.append_assoc] at hsplit
    obtain ⟨hbefore, hlast⟩ := List.append_inj' hsplit rfl
    cases hlast
    rw [List.concat_eq_append] at hafter
    refine hkept _ _ (hafter new (by simp)) (h before entry after hbefore hreplace hvalid ?_)
    intro later hmem
    exact hafter later (List.mem_append_left _ hmem)

/-- A creation for which there is space keeps the entities unique exactly if the object is new and
there is room for the request. -/
theorem create_unique_iff {state state' : CreationState} {new : CreationRecord}
    {added : SharedEntity} (h : state.UniqueEntities keys)
    (hrecord : state'.record = state.record ++ [new])
    (hroom : new.requestId ≠ invalidRequestId ↔ state.hasRoom new.creation)
    (hentry : new.entry = some state.map.entitiesLen) (hdescribed : new.described = some added)
    (hidentity : ((keys added.session).key, added.objectId) = new.creation.identity keys)
    (hadded : state'.map.entities = state.map.entities ++ [added]) :
    state'.UniqueEntities keys ↔
      state.map.getEntityIndex keys new.creation.session new.creation.entityId = none ∧
        state.hasRoom new.creation := by
  have hlength : state'.map.entitiesLen = state.map.entitiesLen + 1 := by
    rw [SharedMemoryMap.entitiesLen, hadded, List.length_append]
    rfl
  -- the new entity is the last one, and the others keep their places
  have hlast : state'.map.identity keys state.map.entitiesLen = new.creation.identity keys := by
    rw [SharedMemoryMap.identity, entity_append_length hadded]
    exact hidentity
  have hold (i : Nat) (hi : i < state.map.entitiesLen) :
      state'.map.identity keys i = state.map.identity keys i := by
    rw [SharedMemoryMap.identity, entity_append_lt hadded hi]
    rfl
  rw [getEntityIndex_eq_none_iff]
  constructor
  · intro h'
    constructor
    · -- an old entity with the same identity would make two of them
      intro i hi hsame
      have heq := h'.unique i (by omega) state.map.entitiesLen (by omega)
        (by rw [hold i hi, hsame, hlast])
      omega
    · rw [← hroom]
      intro hinvalid
      have hnone := h'.failed new (by rw [hrecord]; simp) hinvalid
      rw [hentry] at hnone
      cases hnone
  · -- nobody has the identity yet
    rintro ⟨hnone, hhas⟩
    have hvalid := hroom.mpr hhas
    refine .of_unique ?_ ?_ ?_
    · intro i hi j hj hsame
      rw [hlength] at hi hj
      rcases Nat.lt_succ_iff_lt_or_eq.mp hi with hi | rfl
      · rcases Nat.lt_succ_iff_lt_or_eq.mp hj with hj | rfl
        · rw [hold i hi, hold j hj] at hsame
          exact h.unique i hi j hj hsame
        · rw [hold i hi, hlast] at hsame
          exact absurd hsame (hnone i hi)
      · rcases Nat.lt_succ_iff_lt_or_eq.mp hj with hj | rfl
        · rw [hold j hj, hlast] at hsame
          exact absurd hsame.symm (hnone j hj)
        · rfl
    · intro entry hmem hinvalid
      rw [hrecord, List.mem_append, List.mem_singleton] at hmem
      rcases hmem with hmem | rfl
      · exact h.failed entry hmem hinvalid
      · exact absurd hinvalid hvalid
    · refine Latest.append h.latest hrecord ?_ ?_
      · intro identity described hother hheld i hi hsame
        rw [hlength] at hi
        rcases Nat.lt_succ_iff_lt_or_eq.mp hi with hi | rfl
        · rw [entity_append_lt hadded hi]
          rw [hold i hi] at hsame
          exact hheld i hi hsame
        · rw [hlast] at hsame
          exact absurd hsame (hother hvalid)
      · intro _ _ i hi hsame
        rw [hlength] at hi
        rcases Nat.lt_succ_iff_lt_or_eq.mp hi with hi | rfl
        · rw [hold i hi] at hsame
          exact absurd hsame (hnone i hi)
        · rw [entity_append_length hadded]
          exact ⟨added, hdescribed, rfl, rfl, rfl⟩

/-- A creation for which there is no space keeps the entities unique exactly if the object is in the
map as it is described, where it is replaced. -/
theorem create_full_unique_iff {state state' : CreationState} {new : CreationRecord}
    (h : state.UniqueEntities keys) (hrecord : state'.record = state.record ++ [new])
    (hroom : new.requestId ≠ invalidRequestId ↔ state.hasRoom new.creation)
    (hentry : new.entry = none) (hsame : state'.map.entities = state.map.entities) :
    state'.UniqueEntities keys ↔
      (new.creation.replace = true → state.hasRoom new.creation →
        state.map.heldAs keys (new.creation.identity keys) new.described) := by
  have hlength : state'.map.entitiesLen = state.map.entitiesLen := congrArg List.length hsame
  have hentity (i : Nat) : state'.map.entity i = state.map.entity i := by
    rw [SharedMemoryMap.entity, hsame]
    rfl
  have hidentity (i : Nat) : state'.map.identity keys i = state.map.identity keys i := by
    rw [SharedMemoryMap.identity, hentity]
    rfl
  have hheld (identity : Vector UInt8 4 × ObjectId) (described : Option SharedEntity) :
      state'.map.heldAs keys identity described ↔ state.map.heldAs keys identity described := by
    simp only [SharedMemoryMap.heldAs, hlength, hidentity, hentity]
  constructor
  · intro h' hreplace hhas
    have hlatest := h'.latest state.record new [] hrecord hreplace (hroom.mpr hhas)
      fun _ hmem => absurd hmem List.not_mem_nil
    exact (hheld _ _).mp hlatest
  · intro hdescribed
    refine .of_unique ?_ ?_ ?_
    · intro i hi j hj hij
      rw [hlength] at hi hj
      rw [hidentity, hidentity] at hij
      exact h.unique i hi j hj hij
    · intro entry hmem hinvalid
      rw [hrecord, List.mem_append, List.mem_singleton] at hmem
      rcases hmem with hmem | rfl
      · exact h.failed entry hmem hinvalid
      · exact hentry
    · refine Latest.append h.latest hrecord ?_ ?_
      · intro identity described _
        exact (hheld identity described).mpr
      · intro hreplace hvalid
        exact (hheld _ _).mpr (hdescribed hreplace (hroom.mp hvalid))

/-- What one action keeps. -/
theorem step_unique_iff {state state' : CreationState} {action : CreationAction}
    (h : state.UniqueEntities keys) (hstep : state.step keys config action = some state') :
    state'.UniqueEntities keys ↔ state.AddsUnique keys config action := by
  cases action with
  | proceed sessions =>
    cases hstep
    exact ⟨fun _ => trivial, fun _ => ⟨h.unique, h.once, h.failed, h.latest⟩⟩
  | create creation =>
    obtain ⟨requestId, entry, hrecord, hroom, hspace | hfull⟩ := create_cases hstep
    · obtain ⟨hle, rfl, added, hdescribed, hadded⟩ := hspace
      rw [AddsUnique, if_pos hle]
      exact create_unique_iff h hrecord hroom rfl hdescribed (describedEntity_identity hdescribed)
        hadded
    · obtain ⟨hlt, rfl, hsame⟩ := hfull
      rw [AddsUnique, if_neg hlt]
      exact create_full_unique_iff h hrecord hroom rfl hsame

omit [MicroCdr] in
theorem initial_unique (sessions : Nat → Session) : (initial sessions).UniqueEntities keys := by
  refine .of_unique ?_ ?_ ?_
  · intro i hi
    exact absurd hi (Nat.not_lt_zero i)
  · intro entry hmem
    exact absurd hmem List.not_mem_nil
  · intro before entry after hsplit
    have hsplit : [] = before ++ entry :: after := hsplit
    exact absurd hsplit.symm (List.append_ne_nil_of_right_ne_nil _ (List.cons_ne_nil _ _))

end CreationState

end

/-- In a run of creations the entities are unique in every state, none is left of a creation that
failed, and what was replaced is as described last, if and only if every creation that takes place
is for an object that is not in the map and has room for its request; where the map is full, what is
replaced has to be in the map as described. -/
theorem entities_unique_iff [MicroCdr] (keys : Nat → SharedSession) (config : SharedMemoryConfig)
    (sessions : Nat → Session) (actions : List CreationAction) :
    EveryState (CreationState.step keys config) (CreationState.UniqueEntities keys)
        (.initial sessions) actions ↔
      EveryStep (CreationState.step keys config) (CreationState.AddsUnique keys config)
        (.initial sessions) actions :=
  everyState_iff (fun _ => True) (fun _ _ _ _ _ => trivial)
    (fun _ _ _ _ => CreationState.step_unique_iff) actions trivial
    (CreationState.initial_unique sessions)

/-- A session with one output stream. -/
def bestEffortSession : Session :=
  { noStreams with
    streams := { noStreams.streams with
      outputBestEffort := fun _ => initOutputBestEffortStream (fun _ => 0) 512 4
      outputBestEffortSize := 1 } }

/-- The creation of a data writer, for a topic. -/
def createWriter (topicName : String) (replace : Bool) : CreationAction :=
  .create {
    session := 0
    streamId := streamIdFromRaw 0x01 .outputStream
    entityId := ⟨1, dataWriterId⟩
    description := .xml (endpointXml "data_writer" topicName)
    binarySize := 0
    replace
    write := fun _ _ memory => memory }

/-- A writer that is replaced has two entities. -/
theorem replaced_writer_not_unique :
    ¬ ∀ actions : List CreationAction,
      EveryState (@CreationState.step referenceMicroCdr (fun _ => listeningSession) tenItems)
        (CreationState.UniqueEntities fun _ => listeningSession)
        (.initial fun _ => bestEffortSession) actions := by
  intro hall
  have hstates : ((@CreationState.step referenceMicroCdr (fun _ => listeningSession) tenItems
      (.initial fun _ => bestEffortSession) (createWriter "A" false)).bind fun state =>
        (@CreationState.step referenceMicroCdr (fun _ => listeningSession) tenItems state
          (createWriter "B" true)).map fun state =>
            (state.map.entitiesLen, state.map.identity (fun _ => listeningSession) 0,
              state.map.identity (fun _ => listeningSession) 1)) =
      some (2, (listeningSession.key, ⟨1, dataWriterId⟩),
        (listeningSession.key, ⟨1, dataWriterId⟩)) := by
    decide +kernel
  obtain ⟨state, hfirst, hstates⟩ := Option.bind_eq_some_iff.mp hstates
  obtain ⟨state', hsecond, hstates⟩ := Option.map_eq_some_iff.mp hstates
  obtain ⟨hlength, hidentities⟩ := Prod.mk.inj hstates
  obtain ⟨hwriter, hreplaced⟩ := Prod.mk.inj hidentities
  have hunique : state'.UniqueEntities fun _ => listeningSession :=
    ((hall [createWriter "A" false, createWriter "B" true]).2 state hfirst).2 state' hsecond
  have heq := hunique.unique 0 (by omega) 1 (by omega) (hwriter.trans hreplaced.symm)
  cases heq

end XrceClient
