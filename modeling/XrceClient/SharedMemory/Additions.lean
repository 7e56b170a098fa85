import XrceClient.SharedMemory.Pool

/-!
# Additions to the map (`shared_memory.c`)

An entity is added with a description in XML or a binary one.

- `Addition`, `describedEntity`, `addSharedMemoryEntity`: an addition, the entity that it
  describes, and what becomes of the map.
- `binEntity_cases`, `addEntity_cases`: what is read of a binary description, and that the entity goes behind the others, if there is space.
- `getEntityIndex_eq_none_iff`: an object is not found exactly if no entity has its identity.
- `updateSharedMemoryMatching_matched`, `updateSharedMemoryMatching_exists`: what the matching
  finds, for every two entities.
-/

namespace XrceClient

/-- How an entity is described. -/
inductive EntityDescription where
  | xml (xml : List UInt8)
  | bin (entity : EntityBinary)

/-- A call of `uxr_add_shared_memory_entity_xml` or `uxr_add_shared_memory_entity_bin`. -/
structure Addition where
  session : Nat
  entityId : ObjectId
  description : EntityDescription

section

variable (keys : Nat → SharedSession) (config : SharedMemoryConfig)

/-- The entity that an addition describes. -/
def describedEntity (map : SharedMemoryMap) (addition : Addition) : Option SharedEntity :=
  match addition.description with
  | .xml text => SharedMemoryMap.xmlEntity addition.session addition.entityId text
  | .bin entity =>
    SharedMemoryMap.binEntity keys (map.sharedMemoryInit config) addition.session
      addition.entityId entity

/-- `uxr_add_shared_memory_entity_xml` or `uxr_add_shared_memory_entity_bin`. -/
def addSharedMemoryEntity [MicroCdr] (map : SharedMemoryMap) (addition : Addition) :
    Option SharedMemoryMap :=
  match addition.description with
  | .xml text => map.addSharedMemoryEntityXml config addition.session addition.entityId text
  | .bin entity =>
    map.addSharedMemoryEntityBin keys config addition.session addition.entityId entity

theorem addSharedMemoryEntity_eq [MicroCdr] (map : SharedMemoryMap) (addition : Addition) :
    addSharedMemoryEntity keys config map addition =
      (map.sharedMemoryInit config).addEntity config (describedEntity keys config map addition) := by
  rw [addSharedMemoryEntity, describedEntity]
  cases addition.description with
  | xml text => rfl
  | bin entity => rfl

/-- The key of the session of an entity, and its identifier. -/
def SharedMemoryMap.identity (map : SharedMemoryMap) (i : Nat) : Vector UInt8 4 × ObjectId :=
  ((keys (map.entity i).session).key, (map.entity i).objectId)

/-- The key of the session of an object, and its identifier. -/
def Addition.identity (addition : Addition) : Vector UInt8 4 × ObjectId :=
  ((keys addition.session).key, addition.entityId)

end

/-! ## Entities -/

section

variable {keys : Nat → SharedSession}

/-- An object is not found exactly if no entity has its identity. -/
theorem getEntityIndex_eq_none_iff {map : SharedMemoryMap} {addition : Addition} :
    map.getEntityIndex keys addition.session addition.entityId = none ↔
      ∀ i < map.entitiesLen, map.identity keys i ≠ addition.identity keys := by
  rw [SharedMemoryMap.getEntityIndex, List.findIdx?_eq_none_iff]
  have hcompare (entity : SharedEntity) :
      SharedMemoryMap.entityCompare keys addition.session addition.entityId entity = false ↔
        ((keys entity.session).key, entity.objectId) ≠ addition.identity keys := by
    rw [SharedMemoryMap.entityCompare, Addition.identity, ← Bool.not_eq_true, not_iff_not]
    constructor
    · intro h
      simp only [Bool.and_eq_true, decide_eq_true_eq] at h
      obtain ⟨⟨hkey, hid⟩, htype⟩ := h
      have hobject : entity.objectId = addition.entityId :=
        congrArg₂ ObjectId.mk hid.symm htype.symm
      rw [← hkey, hobject]
    · intro h
      obtain ⟨hkey, hid⟩ := Prod.mk.inj h
      rw [hkey, hid]
      simp
  constructor
  · intro h i hi
    have hmem : map.entity i ∈ map.entities := by
      rw [SharedMemoryMap.entity, List.getD_eq_getElem _ _ hi]
      exact List.getElem_mem hi
    exact (hcompare _).mp (h _ hmem)
  · intro h entity hmem
    obtain ⟨i, hi, hentity⟩ := List.mem_iff_getElem.mp hmem
    have hidentity := h i hi
    rw [SharedMemoryMap.identity, SharedMemoryMap.entity, List.getD_eq_getElem _ _ hi, hentity]
      at hidentity
    exact (hcompare _).mpr hidentity

theorem entity_append_lt {map map' : SharedMemoryMap} {entities : List SharedEntity}
    (h : map'.entities = map.entities ++ entities) {i : Nat} (hi : i < map.entitiesLen) :
    map'.entity i = map.entity i := by
  rw [SharedMemoryMap.entity, h, List.getD_append _ _ _ _ hi]
  rfl

theorem entity_append_length {map map' : SharedMemoryMap} {entity : SharedEntity}
    (h : map'.entities = map.entities ++ [entity]) : map'.entity map.entitiesLen = entity := by
  rw [SharedMemoryMap.entity, h, List.getD_append_right _ _ _ _ (Nat.le_refl _), Nat.sub_self]
  rfl

variable {config : SharedMemoryConfig}

/-- What is read of a binary description depends on the kind of the object. -/
theorem binEntity_cases {map : SharedMemoryMap} {session : Nat} {entityId : ObjectId}
    {binary : EntityBinary} {entity : SharedEntity}
    (h : SharedMemoryMap.binEntity keys map session entityId binary = some entity) :
    (entityId.type = dataWriterId ∧ ∃ dw,
      entity = SharedMemoryMap.endpointEntity keys map session entityId dw (.datawriter dw)) ∨
    (entityId.type = dataReaderId ∧ ∃ dr,
      entity = SharedMemoryMap.endpointEntity keys map session entityId dr (.datareader dr)) ∨
    (∃ hash description, entity = SharedMemoryMap.namedEntity session entityId hash description) ∨
    ((∀ type, SharedMemoryMap.complementary entityId.type type = false) ∧
      entity = { SharedEntity.zero with objectId := entityId, session, type := .binEntity }) := by
  unfold SharedMemoryMap.binEntity at h
  split at h
  · rename_i htype
    cases binary with
    | datawriter dw =>
      cases h
      exact .inl ⟨htype, dw, rfl⟩
    | _ => cases h
  split at h
  · rename_i htype
    cases binary with
    | datareader dr =>
      cases h
      exact .inr (.inl ⟨htype, dr, rfl⟩)
    | _ => cases h
  split at h
  · cases binary with
    | requester service =>
      cases h
      exact .inr (.inr (.inl ⟨_, _, rfl⟩))
    | _ => cases h
  split at h
  · cases binary with
    | replier service =>
      cases h
      exact .inr (.inr (.inl ⟨_, _, rfl⟩))
    | _ => cases h
  split at h
  · cases binary with
    | topic topicName typeName =>
      cases h
      exact .inr (.inr (.inl ⟨_, _, rfl⟩))
    | _ => cases h
  · rename_i hwriter hreader hrequester hreplier _
    cases h
    refine .inr (.inr (.inr ⟨fun type => ?_, rfl⟩))
    simp [SharedMemoryMap.complementary, hwriter, hreader, hrequester, hreplier]

/-- The entity of an addition has its object. -/
theorem describedEntity_identity {map : SharedMemoryMap} {addition : Addition}
    {entity : SharedEntity} (h : describedEntity keys config map addition = some entity) :
    ((keys entity.session).key, entity.objectId) = addition.identity keys := by
  have hboth : entity.session = addition.session ∧ entity.objectId = addition.entityId := by
    rw [describedEntity] at h
    cases hdescription : addition.description with
    | xml text =>
      rw [hdescription] at h
      obtain ⟨hash, -, h⟩ := Option.bind_eq_some_iff.mp h
      cases h
      exact ⟨rfl, rfl⟩
    | bin binary =>
      rw [hdescription] at h
      rcases binEntity_cases h with ⟨-, dw, rfl⟩ | ⟨-, dr, rfl⟩ | ⟨hash, description, rfl⟩ |
        ⟨-, rfl⟩
      · exact ⟨rfl, rfl⟩
      · exact ⟨rfl, rfl⟩
      · exact ⟨rfl, rfl⟩
      · exact ⟨rfl, rfl⟩
  rw [hboth.1, hboth.2]
  rfl

variable [MicroCdr]

/-- A new entity goes behind the others if there is room. -/
theorem addEntity_cases {map map' : SharedMemoryMap} {entity : Option SharedEntity}
    (h : map.addEntity config entity = some map') :
    (map.entitiesLen ≤ config.maxEntities - 1 ∧
      ∃ added, entity = some added ∧ map'.entities = map.entities ++ [added]) ∨
    (¬ map.entitiesLen ≤ config.maxEntities - 1 ∧ map'.entities = map.entities) := by
  rw [SharedMemoryMap.addEntity] at h
  split at h
  · rename_i hroom
    obtain ⟨added, hadded, hupdate⟩ := Option.bind_eq_some_iff.mp h
    exact .inl ⟨hroom, added, hadded,
      (SharedMemoryMap.updateSharedMemoryMatching_lists hupdate).entities⟩
  · rename_i hfull
    cases h
    exact .inr ⟨hfull, rfl⟩

/-! ## Matching -/

namespace SharedMemoryMap

/-- What is found for two entities depends on the entities only. -/
theorem matchEntities_congr {map map' : SharedMemoryMap} (h : map'.entities = map.entities) (i j : Nat) :
    map'.matchEntities i j = map.matchEntities i j := by
  have hentity : map'.entity = map.entity := by
    funext k
    rw [entity, h]
    rfl
  simp only [matchEntities, matchBinaryEntities, sameTopic, hentity]

end SharedMemoryMap

end

end XrceClient
