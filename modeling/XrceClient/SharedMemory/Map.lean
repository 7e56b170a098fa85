import Mathlib.Logic.Function.Basic
import XrceClient.SharedMemory.Matching

/-!
# The shared memory map (`shared_memory.c`)

Entities of one process that match hand over their samples without the agent.

- `SharedMemoryMap`: the entities, the matrix of blocks between them, the pool of items.
- `initSharedMemory`, `cleanSharedMemory`: the pool before the first use, and the map after the
  deletion of a session.
- `updateSharedMemoryMatching`: which entities match, for every pair anew.
- `addSharedMemoryEntityXml`, `addSharedMemoryEntityBin`: a new entity.
- `prepareSharedMemory`: a sample goes to every entity that matches.

Pointers are `Option Nat`: to an item, its index in the pool, and to an entity, its index in the
array. Pointers to sessions are numbers. `none` as a result says that the behaviour is not
defined.
-/

namespace XrceClient

open ByteMemory

/-! ## Data -/

/-- `UXR_CONFIG_SHARED_MEMORY_MAX_ENTITIES` and `UXR_CONFIG_SHARED_MEMORY_STATIC_MEM_SIZE`. -/
structure SharedMemoryConfig where
  maxEntities : Nat
  staticMemSize : Nat
  deriving DecidableEq, Repr

/-- What is read of an `uxrSession`: the key, whether the callbacks are installed, their
arguments, and `on_data_flag`. -/
structure SharedSession where
  key : Vector UInt8 4
  onTopic : Bool
  onRequest : Bool
  onReply : Bool
  onTopicArgs : Nat
  onRequestArgs : Nat
  onReplyArgs : Nat
  onDataFlag : Bool
  deriving DecidableEq, Repr

/-- `uxr_shared_memory_buffer_item_t`, with the number of the publication that it holds, which
is no part of the source's state. -/
structure BufferItem where
  next : Option Nat
  data : UcdrBuffer
  dataSize : UInt16
  requestId : UInt16
  sample : Nat
  deriving DecidableEq, Repr

/-- All bytes zero. -/
def BufferItem.zero : BufferItem where
  next := none
  data :=
    { init := 0, iterator := 0, final := 0, offset := 0, lastDataSize := 0,
      endianness := .bigEndianness, error := false, onFullBuffer := none }
  dataSize := 0
  requestId := 0
  sample := 0

/-- `entity_descriptor_type_t`. -/
inductive DescriptorType where
  | hashEntity
  | binEntity
  deriving DecidableEq, Repr

/-- What is read of `OBJK_DataWriter_Binary` and `OBJK_DataReader_Binary`. -/
structure EndpointBinary where
  topicId : List UInt8
  qosFlags : UInt16
  deriving DecidableEq, Repr

/-- `uxr_match_endpoint_qosbinary` (matching.c:249–256). -/
def matchEndpointQosbinary (entity entity' : EndpointBinary) : Bool :=
  entity.qosFlags = entity'.qosFlags

/-- The names of a topic, or of a service, and of the types. -/
inductive Description where
  | topic (topicName typeName : List UInt8)
  | service (serviceName requestType replyType : List UInt8)
  deriving DecidableEq, Repr

/-- What is read of `OBJK_Requester_Binary` and `OBJK_Replier_Binary`. -/
structure ServiceBinary where
  serviceName : List UInt8
  requestType : List UInt8
  replyType : List UInt8
  requestTopicName : List UInt8
  replyTopicName : List UInt8
  deriving DecidableEq, Repr

/-- The binary description of an entity. -/
inductive EntityBinary where
  | topic (topicName typeName : List UInt8)
  | datawriter (datawriter : EndpointBinary)
  | datareader (datareader : EndpointBinary)
  | requester (requester : ServiceBinary)
  | replier (replier : ServiceBinary)
  deriving DecidableEq, Repr

/-- The hash of a service. -/
def ServiceBinary.hash (service : ServiceBinary) : UInt32 :=
  generateHashFromStrings [service.serviceName, service.requestType, service.replyType,
    service.requestTopicName, service.replyTopicName] none

/-- The description of a service. -/
def ServiceBinary.description (service : ServiceBinary) : Description :=
  .service service.serviceName service.requestType service.replyType

/-- The union in an entity. -/
inductive EntityData where
  | hash (hash : UInt32)
  | datawriter (datawriter : EndpointBinary)
  | datareader (datareader : EndpointBinary)
  deriving DecidableEq, Repr

/-- The hash in the union; the bytes of the other members are not. -/
def EntityData.hash? : EntityData → Option UInt32
  | .hash value => some value
  | _ => none

/-- What the addition of an entity describes it with: a text for an object of a kind, or names. -/
inductive DescribedWith where
  | nothing
  | xml (xml : List UInt8) (type : UInt8)
  | names (description : Description)
  deriving DecidableEq, Repr

/-- `uxr_shared_memory_entity_t`, with what it was described with, which is no part of the
source's state. A binary endpoint is described by its topic. -/
structure SharedEntity where
  objectId : ObjectId
  session : Nat
  type : DescriptorType
  data : EntityData
  relatedTopic : Option Nat
  describedWith : DescribedWith
  deriving DecidableEq, Repr

/-- All bytes zero. -/
def SharedEntity.zero : SharedEntity where
  objectId := { id := 0, type := 0 }
  session := 0
  type := .hashEntity
  data := .hash 0
  relatedTopic := none
  describedWith := .nothing

/-- `uxr_shared_memory_matrix_block_t`. -/
structure MatrixBlock where
  matched : Bool
  list : Option Nat
  deriving DecidableEq, Repr

/-- `uxr_shared_memory_map_t`. The entities are those in front of `entities_len`. -/
structure SharedMemoryMap where
  entities : List SharedEntity
  matrix : Nat → Nat → MatrixBlock
  memPool : Nat → BufferItem
  mempoolFreeitems : Option Nat
  init : Bool

/-- All bytes zero. -/
def SharedMemoryMap.zero : SharedMemoryMap where
  entities := []
  matrix _ _ := { matched := false, list := none }
  memPool _ := .zero
  mempoolFreeitems := none
  init := false

namespace SharedMemoryMap

/-- `entities_len`. -/
abbrev entitiesLen (map : SharedMemoryMap) : Nat := map.entities.length

/-- An entry of `entities`, zero behind the others. -/
def entity (map : SharedMemoryMap) (i : Nat) : SharedEntity := map.entities.getD i .zero

/-- The map with another block in the matrix. -/
def setBlock (map : SharedMemoryMap) (i j : Nat) (block : MatrixBlock) : SharedMemoryMap :=
  { map with
    matrix := Function.update map.matrix i (Function.update (map.matrix i) j block) }

/-- The map with another item in the pool. -/
def setItem (map : SharedMemoryMap) (a : Nat) (item : BufferItem) : SharedMemoryMap :=
  { map with memPool := Function.update map.memPool a item }

/-! ## Lists -/

/-- The link behind an item. -/
def next (map : SharedMemoryMap) (a : Nat) : Option Nat := (map.memPool a).next

/-- `uxr_prepend_to_list` on the free items (shared_memory.c:78–84). -/
def prependFree (map : SharedMemoryMap) (member : Nat) : SharedMemoryMap :=
  { map.setItem member { map.memPool member with next := map.mempoolFreeitems } with
    mempoolFreeitems := some member }

/-- `uxr_prepend_to_list` on the list of a block. -/
def prependBlock (map : SharedMemoryMap) (member i j : Nat) : SharedMemoryMap :=
  let block := map.matrix i j
  (map.setItem member { map.memPool member with next := block.list }).setBlock i j
    { block with list := some member }

/-- `uxr_pop_head_from_list` on the free items (shared_memory.c:86–92). -/
def popFree (map : SharedMemoryMap) : Option Nat × SharedMemoryMap :=
  (map.mempoolFreeitems,
    { map with mempoolFreeitems := map.mempoolFreeitems.bind map.next })

/-- `uxr_pop_head_from_list` on the list of a block. -/
def popBlock (map : SharedMemoryMap) (i j : Nat) : Option Nat × SharedMemoryMap :=
  let block := map.matrix i j
  (block.list, map.setBlock i j { block with list := block.list.bind map.next })

/-- `uxr_init_shared_memory` (shared_memory.c:96–105). -/
def initSharedMemory (config : SharedMemoryConfig) (map : SharedMemoryMap) : SharedMemoryMap :=
  (List.range config.staticMemSize).foldl prependFree { map with init := true }

/-- `UXR_SHARED_MEMORY_INIT`. -/
def sharedMemoryInit (config : SharedMemoryConfig) (map : SharedMemoryMap) : SharedMemoryMap :=
  if map.init then map else map.initSharedMemory config

/-- `uxr_clean_shared_memory` (shared_memory.c:107–110). -/
def cleanSharedMemory (_map : SharedMemoryMap) : SharedMemoryMap := .zero

/-! ## Entities -/

variable (sessions : Nat → SharedSession)

/-- `uxr_shared_memory_entity_compare` (shared_memory.c:113–127). -/
def entityCompare (session : Nat) (objectId : ObjectId) (entity : SharedEntity) : Bool :=
  (sessions session).key = (sessions entity.session).key && objectId.id = entity.objectId.id &&
    objectId.type = entity.objectId.type

/-- `uxr_shared_memory_get_entity_index` (shared_memory.c:129–145), and
`uxr_shared_memory_get_entity`, which searches in the same way. -/
def getEntityIndex (map : SharedMemoryMap) (session : Nat) (entityId : ObjectId) : Option Nat :=
  map.entities.findIdx? (entityCompare sessions session entityId)

/-! ## Matching -/

section

variable [MicroCdr]

/-- Whether the kinds of two objects are those of the two sides of an exchange
(shared_memory.c:323–326). -/
def complementary (type type' : UInt8) : Bool :=
  (type = dataReaderId && type' = dataWriterId) || (type = dataWriterId && type' = dataReaderId) ||
    (type = requesterId && type' = replierId) || (type = replierId && type' = requesterId)

/-- The comparison of the related topics, whose pointers are read whatever they are. -/
def sameTopic (map : SharedMemoryMap) (entity entity' : SharedEntity) : Option Bool := do
  let topic ← entity.relatedTopic
  let topic' ← entity'.relatedTopic
  let hash ← (map.entity topic).data.hash?
  let hash' ← (map.entity topic').data.hash?
  return sameHashString hash hash'

/-- `uxr_match_binary_entities` (shared_memory.c:319–363). -/
def matchBinaryEntities (map : SharedMemoryMap) (entity entity' : SharedEntity) : Option Bool :=
  if complementary entity.objectId.type entity'.objectId.type then
    match entity.data, entity'.data with
    | .datareader dr, .datawriter dw => do
      return matchEndpointQosbinary dr dw && (← map.sameTopic entity entity')
    | .datawriter dw, .datareader dr => do
      return matchEndpointQosbinary dr dw && (← map.sameTopic entity entity')
    | _, _ => some false
  else
    some false

/-- What the inner loop of `uxr_update_shared_memory_matching` finds for two entities
(shared_memory.c:373–390): nothing, where they are not compared. -/
def matchEntities (map : SharedMemoryMap) (i j : Nat) : Option (Option Bool) :=
  let entity := map.entity i
  let entity' := map.entity j
  if i ≠ j ∧ entity.type = entity'.type ∧ entity.objectId.type ≠ entity'.objectId.type ∧
      entity.objectId.type ≠ topicId ∧ entity'.objectId.type ≠ topicId then
    match entity.type with
    | .hashEntity => do
      return some ((← entity.data.hash?) = (← entity'.data.hash?))
    | .binEntity => do
      return some (← map.matchBinaryEntities entity entity')
  else
    some none

/-- The body of the inner loop. -/
def updateBlock (map : SharedMemoryMap) (i j : Nat) : Option SharedMemoryMap := do
  match ← map.matchEntities i j with
  | some matched => return map.setBlock i j { map.matrix i j with matched }
  | none => return map

/-- `uxr_update_shared_memory_matching` (shared_memory.c:365–394). -/
def updateSharedMemoryMatching (map : SharedMemoryMap) : Option SharedMemoryMap :=
  (List.range map.entitiesLen).foldlM (fun map i =>
    (List.range map.entitiesLen).foldlM (fun map j => map.updateBlock i j) map) map

/-! ## New entities -/

/-- The entity goes behind the others if there is room, and the matching is done anew. -/
def addEntity (config : SharedMemoryConfig) (map : SharedMemoryMap)
    (entity : Option SharedEntity) : Option SharedMemoryMap :=
  if map.entitiesLen ≤ config.maxEntities - 1 then do
    let entity ← entity
    updateSharedMemoryMatching { map with entities := map.entities ++ [entity] }
  else
    some map

/-- The entity of `uxr_add_shared_memory_entity_xml` (shared_memory.c:406–409). -/
def xmlEntity (session : Nat) (entityId : ObjectId) (xml : List UInt8) : Option SharedEntity := do
  let hash ← generateHashFromXml xml entityId 0
  return { objectId := entityId
           session
           type := .hashEntity
           data := .hash hash
           relatedTopic := none
           describedWith := .xml xml entityId.type }

/-- `uxr_add_shared_memory_entity_xml` (shared_memory.c:396–416). -/
def addSharedMemoryEntityXml (config : SharedMemoryConfig) (map : SharedMemoryMap)
    (session : Nat) (entityId : ObjectId) (xml : List UInt8) : Option SharedMemoryMap :=
  (map.sharedMemoryInit config).addEntity config (xmlEntity session entityId xml)

end

/-- A data reader or writer, with the topic that is found for it. -/
def endpointEntity (map : SharedMemoryMap) (session : Nat) (entityId : ObjectId)
    (endpoint : EndpointBinary) (data : EntityData) : SharedEntity :=
  let relatedTopic := map.getEntityIndex sessions session (objectIdFromRaw endpoint.topicId)
  { objectId := entityId
    session
    type := .binEntity
    data
    relatedTopic
    describedWith :=
      match relatedTopic with
      | some topic => (map.entity topic).describedWith
      | none => .nothing }

/-- An entity that is described with names. -/
def namedEntity (session : Nat) (entityId : ObjectId) (hash : UInt32) (description : Description) :
    SharedEntity where
  objectId := entityId
  session
  type := .hashEntity
  data := .hash hash
  relatedTopic := none
  describedWith := .names description

/-- The entity of `uxr_add_shared_memory_entity_bin` (shared_memory.c:427–477). The kind of the
object says as what the description is read; it is not defined for that of another kind. -/
def binEntity (map : SharedMemoryMap) (session : Nat) (entityId : ObjectId) (entity : EntityBinary) :
    Option SharedEntity :=
  if entityId.type = dataWriterId then
    match entity with
    | .datawriter dw => some (endpointEntity sessions map session entityId dw (.datawriter dw))
    | _ => none
  else if entityId.type = dataReaderId then
    match entity with
    | .datareader dr => some (endpointEntity sessions map session entityId dr (.datareader dr))
    | _ => none
  else if entityId.type = requesterId then
    match entity with
    | .requester service =>
      some (namedEntity session entityId service.hash service.description)
    | _ => none
  else if entityId.type = replierId then
    match entity with
    | .replier service =>
      some (namedEntity session entityId service.hash service.description)
    | _ => none
  else if entityId.type = topicId then
    match entity with
    | .topic topicName typeName =>
      some (namedEntity session entityId (generateHashFromStrings [topicName, typeName] none)
        (.topic topicName typeName))
    | _ => none
  else
    some { SharedEntity.zero with objectId := entityId, session, type := .binEntity }

/-- `uxr_add_shared_memory_entity_bin` (shared_memory.c:418–483). -/
def addSharedMemoryEntityBin [MicroCdr] (config : SharedMemoryConfig) (map : SharedMemoryMap)
    (session : Nat) (entityId : ObjectId) (entity : EntityBinary) : Option SharedMemoryMap :=
  let map := map.sharedMemoryInit config
  map.addEntity config (binEntity sessions map session entityId entity)

/-! ## Publishing -/

/-- What the loop of `uxr_prepare_shared_memory` does for an entity that matches
(shared_memory.c:186–193). -/
def publishTo (map : SharedMemoryMap) (entityIndex i : Nat) (ub : UcdrBuffer)
    (dataSize requestId : UInt16) (sample : Nat) : SharedMemoryMap :=
  match map.popFree with
  | (some a, map) =>
    (map.setItem a { map.memPool a with data := ub, dataSize, requestId, sample }).prependBlock a
      entityIndex i
  | (none, map) => map

/-- `uxr_prepare_shared_memory` (shared_memory.c:165–198). -/
def prepareSharedMemory (config : SharedMemoryConfig) (map : SharedMemoryMap) (session : Nat)
    (entityId : ObjectId) (ub : UcdrBuffer) (dataSize requestId : UInt16) (sample : Nat) :
    SharedMemoryMap :=
  let map := map.sharedMemoryInit config
  match map.getEntityIndex sessions session entityId with
  | some entityIndex =>
    (List.range map.entitiesLen).foldl (fun map i =>
      if (map.matrix entityIndex i).matched then
        map.publishTo entityIndex i ub dataSize requestId sample
      else map) map
  | none => map

end SharedMemoryMap

end XrceClient
