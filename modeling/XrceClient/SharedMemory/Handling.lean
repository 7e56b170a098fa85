import XrceClient.SharedMemory.Map

/-!
# Handing over (`shared_memory.c`)

`uxr_handle_shared_memory` takes the samples out of the lists and calls the callbacks of the
sessions. A callback may do whatever an application does, and so the calls of
`uxr_handle_shared_memory` nest.

- `dispatch`: the callback that a sample is for, and what it is called with.
- `HandleFrame`: where an active call stands, and the item whose callback is running.
- `SharedProcess`: the map with the sessions, the memory that the samples are in, and the active
  calls. `SharedAction` is what happens next, in the application or in the innermost call.
- `SharedProcess.run`, `SharedProcess.runMeeting`: one action after the other.

A process has a record of the samples that were published and handed over, which is no part of
the source's state.
-/

namespace XrceClient

open ByteMemory

/-- The callbacks for data. The stream of a topic is of type `UXR_SHARED_MEMORY_STREAM`. -/
inductive DataCallback where
  | onTopic
  | onRequest (sampleId : SampleIdentity)
  | onReply (replyId : UInt16)
  deriving DecidableEq, Repr

/-- A call of a callback; the request that it is for has the identifier 0. -/
structure SharedCall where
  callback : DataCallback
  session : Nat
  objectId : ObjectId
  ub : UcdrBuffer
  length : UInt16
  args : Nat
  deriving DecidableEq, Repr

/-- All bytes zero. -/
def SampleIdentity.zero : SampleIdentity where
  guidPrefix := List.replicate 12 0
  entityKey := List.replicate 3 0
  entityKind := 0
  high := 0
  low := 0

section

open Program BufferOp

/-- `uxr_deserialize_SampleIdentity`, into a variable whose contents stay where something cannot
be read. -/
def readSampleIdentity (output : SampleIdentity) : Program BufferOp SampleIdentity := do
  let guidPrefix ← call (deserializeArray 12)
  let entityKey ← call (deserializeArray 3)
  let entityKind ← call (deserialize none 1)
  let high ← call (deserialize none 4)
  let low ← call (deserialize none 4)
  return { guidPrefix := guidPrefix.getD output.guidPrefix
           entityKey := entityKey.getD output.entityKey
           entityKind := entityKind.getD output.entityKind
           high := high.getD output.high
           low := low.getD output.low }

end

/-- The identity that a request is given (shared_memory.c:247–261), in a variable that had other
contents. -/
def requestIdentity (key : Vector UInt8 4) (objectId : ObjectId) (requestId : UInt16)
    (uninitialized : SampleIdentity) : SampleIdentity where
  guidPrefix := key.toList ++ uninitialized.guidPrefix.drop 4
  entityKey := [objectId.id.toUInt8, (objectId.id >>> 8).toUInt8] ++ uninitialized.entityKey.drop 2
  entityKind := objectId.type.toNat
  high := uninitialized.high
  low := requestId.toNat

/-- Whether a reply is for a requester (shared_memory.c:283–289). The bytes of the key are eight
bits wide when they are shifted. -/
def repliesTo (sampleId : SampleIdentity) (key : Vector UInt8 4) (objectId : ObjectId) : Bool :=
  sampleId.guidPrefix.take 4 = key.toList &&
    objectId.id.toNat =
      (sampleId.entityKey.getD 1 0).toNat / 256 + (sampleId.entityKey.getD 0 0).toNat &&
    sampleId.entityKind = objectId.type.toNat

section

variable [MicroCdr] {σ : Type} (dev : Device σ)

/-- A program on a buffer of its own. -/
def runBuffer {α : Type} (program : Program BufferOp α) (memory : σ) (ub : UcdrBuffer) :
    α × σ × UcdrBuffer :=
  program.run (fun op t => op.handle dev t.1 t.2) (memory, ub)

/-- The case of `UXR_DATAREADER_ID` (shared_memory.c:227–241). -/
def dispatchTopic (session : Nat) (sharedSession : SharedSession) (objectId : ObjectId)
    (item : BufferItem) : Option SharedCall :=
  if sharedSession.onTopic then
    some { callback := .onTopic, session, objectId, ub := item.data, length := item.dataSize,
           args := sharedSession.onTopicArgs }
  else
    none

/-- The case of `UXR_REPLIER_ID` (shared_memory.c:243–272). -/
def dispatchRequest (requester : SharedSession) (requesterId : ObjectId) (session : Nat)
    (sharedSession : SharedSession) (objectId : ObjectId) (uninitialized : SampleIdentity)
    (item : BufferItem) : Option SharedCall :=
  if sharedSession.onRequest then
    some { callback :=
             .onRequest (requestIdentity requester.key requesterId item.requestId uninitialized)
           session, objectId, ub := item.data, length := item.dataSize
           args := sharedSession.onTopicArgs }
  else
    none

/-- The case of `UXR_REQUESTER_ID` (shared_memory.c:274–306), with the memory and the item
afterwards. -/
def dispatchReply (session : Nat) (sharedSession : SharedSession) (objectId : ObjectId)
    (uninitialized : SampleIdentity) (memory : σ) (item : BufferItem) :
    Option SharedCall × σ × BufferItem :=
  if sharedSession.onReply then
    let (sampleId, memory, data) := runBuffer dev (readSampleIdentity uninitialized) memory item.data
    if repliesTo sampleId sharedSession.key objectId then
      let dataSize :=
        item.dataSize - (UInt16.ofNat data.offset - UInt16.ofNat item.data.offset)
      (some { callback := .onReply (UInt16.ofNat sampleId.low)
              session, objectId, ub := data, length := dataSize
              args := sharedSession.onTopicArgs },
        memory, { item with data, dataSize })
    else
      (none, memory, { item with data })
  else
    (none, memory, item)

/-- The `switch` on the kind of the receiver, for a sample of the entity `i` for the entity `j`
(shared_memory.c:225–309). -/
def dispatch (sessions : Nat → SharedSession) (map : SharedMemoryMap) (i j : Nat)
    (uninitialized : SampleIdentity) (memory : σ) (item : BufferItem) :
    Option SharedCall × σ × BufferItem :=
  let sender := map.entity i
  let receiver := map.entity j
  let session := sessions receiver.session
  if receiver.objectId.type = dataReaderId then
    (dispatchTopic receiver.session session receiver.objectId item, memory, item)
  else if receiver.objectId.type = replierId then
    (dispatchRequest (sessions sender.session) sender.objectId receiver.session session
      receiver.objectId uninitialized item, memory, item)
  else if receiver.objectId.type = requesterId then
    dispatchReply dev receiver.session session receiver.objectId uninitialized memory item
  else
    (none, memory, item)

end

/-! ## The process -/

/-- An active call of `uxr_handle_shared_memory`: the variables of its loops, the inner one only
inside of it, and the item whose callback is running. -/
structure HandleFrame where
  i : Nat
  j : Option Nat
  held : Option Nat
  deriving DecidableEq, Repr

/-- A sample that was taken out of the list between two entities, with the call that it led to. -/
structure Handing where
  sender : Nat
  receiver : Nat
  sample : Nat
  call : Option SharedCall
  deriving DecidableEq, Repr

/-- A sample that was published by an entity while another one matched. -/
structure Publication where
  sender : Nat
  receiver : Nat
  sample : Nat
  deriving DecidableEq, Repr

/-- The map, the sessions, the memory that the samples are in, and the active calls of
`uxr_handle_shared_memory`, the innermost first. The rest is the record. -/
structure SharedProcess (σ : Type) where
  map : SharedMemoryMap
  sessions : Nat → SharedSession
  memory : σ
  frames : List HandleFrame
  samples : Nat
  published : List Publication
  handed : List Handing

/-- What happens next. -/
inductive SharedAction (σ : Type) where
  | addXml (session : Nat) (entityId : ObjectId) (xml : List UInt8)
  | addBin (session : Nat) (entityId : ObjectId) (entity : EntityBinary)
  | prepare (session : Nat) (entityId : ObjectId) (ub : UcdrBuffer) (dataSize requestId : UInt16)
  | handle
  | deleteSession (session : Nat)
  /-- The application does something else, with its sessions and its memory. -/
  | proceed (sessions : Nat → SharedSession) (memory : σ)
  /-- The innermost call goes on. Its variable for an identity has some contents. -/
  | advance (uninitialized : SampleIdentity)
  /-- The callback that is running returns. -/
  | callbackReturns

namespace SharedProcess

variable {σ : Type}

/-- Nothing has happened yet. -/
def initial (sessions : Nat → SharedSession) (memory : σ) : SharedProcess σ where
  map := .zero
  sessions
  memory
  frames := []
  samples := 0
  published := []
  handed := []

/-- It is the application that runs: no call is active, or the innermost one has called a
callback. -/
def applicationRuns (process : SharedProcess σ) : Bool :=
  match process.frames with
  | [] => true
  | frame :: _ => frame.held.isSome

/-- The entities that a sample goes to. -/
def receivers (config : SharedMemoryConfig) (process : SharedProcess σ) (session : Nat)
    (entityId : ObjectId) : List (Nat × Nat) :=
  let map := process.map.sharedMemoryInit config
  match map.getEntityIndex process.sessions session entityId with
  | some entityIndex =>
    ((List.range map.entitiesLen).filter fun i => (map.matrix entityIndex i).matched).map
      fun i => (entityIndex, i)
  | none => []

/-- `uxr_prepare_shared_memory`, with the record of it. -/
def prepare (config : SharedMemoryConfig) (process : SharedProcess σ) (session : Nat)
    (entityId : ObjectId) (ub : UcdrBuffer) (dataSize requestId : UInt16) : SharedProcess σ :=
  { process with
    map := process.map.prepareSharedMemory process.sessions config session entityId ub dataSize
      requestId process.samples
    samples := process.samples + 1
    published := process.published ++ (process.receivers config session entityId).map
      fun (sender, receiver) => { sender, receiver, sample := process.samples } }

/-- Whether the outer loop goes into the inner one (shared_memory.c:207–213). -/
def handlesKind (type : UInt8) : Bool :=
  type = dataWriterId || type = replierId || type = requesterId

variable [MicroCdr] (dev : Device σ)

/-- An item is taken out of the list between two entities (shared_memory.c:222–312), in a call
that stands there. -/
def handOver (process : SharedProcess σ) (uninitialized : SampleIdentity) (i j a : Nat)
    (frames : List HandleFrame) : SharedProcess σ :=
  let (_, map) := process.map.popBlock i j
  let (call, memory, item) :=
    dispatch dev process.sessions map i j uninitialized process.memory (map.memPool a)
  let map := map.setItem a item
  { process with
    map := if call.isSome then map else map.prependFree a
    memory
    frames := { i, j := some j, held := if call.isSome then some a else none } :: frames
    handed := process.handed ++ [{ sender := i, receiver := j, sample := item.sample, call }] }

/-- What the innermost call does next. -/
def advance (process : SharedProcess σ) (uninitialized : SampleIdentity) :
    Option (SharedProcess σ) :=
  match process.frames with
  | { i, j := none, held := none } :: frames =>
    if i < process.map.entitiesLen then
      if handlesKind (process.map.entity i).objectId.type then
        some { process with frames := { i, j := some 0, held := none } :: frames }
      else
        some { process with frames := { i := i + 1, j := none, held := none } :: frames }
    else
      some { process with frames }
  | { i, j := some j, held := none } :: frames =>
    if j < process.map.entitiesLen then
      match (process.map.matrix i j).list with
      | some a => some (process.handOver dev uninitialized i j a frames)
      | none => some { process with frames := { i, j := some (j + 1), held := none } :: frames }
    else
      some { process with frames := { i := i + 1, j := none, held := none } :: frames }
  | _ => none

/-- The callback of the innermost call returns, and its item is free again
(shared_memory.c:311). -/
def callbackReturns (process : SharedProcess σ) : Option (SharedProcess σ) :=
  match process.frames with
  | { i, j, held := some a } :: frames =>
    some { process with
           map := process.map.prependFree a
           frames := { i, j, held := none } :: frames }
  | _ => none

/-- An action of the application. -/
def apply (config : SharedMemoryConfig) (process : SharedProcess σ) :
    SharedAction σ → Option (SharedProcess σ)
  | .addXml session entityId xml => do
    let map ← process.map.addSharedMemoryEntityXml config session entityId xml
    return { process with map }
  | .addBin session entityId entity => do
    let map ← process.map.addSharedMemoryEntityBin process.sessions config session entityId entity
    return { process with map }
  | .prepare session entityId ub dataSize requestId =>
    some (process.prepare config session entityId ub dataSize requestId)
  | .handle =>
    some { process with
           map := process.map.sharedMemoryInit config
           frames := { i := 0, j := none, held := none } :: process.frames }
  | .deleteSession _ => some { process with map := process.map.cleanSharedMemory }
  | .proceed sessions memory => some { process with sessions, memory }
  | _ => none

/-- One action. It does not take place where it is not defined, and only when it can. -/
def step (config : SharedMemoryConfig) (process : SharedProcess σ) (action : SharedAction σ) :
    Option (SharedProcess σ) :=
  match action with
  | .advance uninitialized => process.advance dev uninitialized
  | .callbackReturns => process.callbackReturns
  | action => if process.applicationRuns then process.apply config action else none

/-- One action after the other. -/
def run (config : SharedMemoryConfig) (process : SharedProcess σ)
    (actions : List (SharedAction σ)) : Option (SharedProcess σ) :=
  actions.foldlM (step dev config) process

/-- One action after the other, each of which meets a condition where it takes place. -/
def runMeeting (config : SharedMemoryConfig) (condition : SharedProcess σ → SharedAction σ → Bool)
    (process : SharedProcess σ) (actions : List (SharedAction σ)) : Option (SharedProcess σ) :=
  actions.foldlM (fun process action =>
    if condition process action then process.step dev config action else none) process

end SharedProcess

end XrceClient
