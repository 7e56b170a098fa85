import XrceClient.Base.Locking
import XrceClient.Session.EntityCreation
import XrceClient.Session.Running
import XrceClient.SharedMemory.Replies

/-!
# The locks of a session (`multithread.c`, `multithread.h`)

The calls of a session with the locks of the multithread profile, as steps that other threads may
come in between. What a call does to the session is in its acts; the functions are those of the
sequential model, in the parts that lie between the locks.

- `getStreamMutexFromId`, `lockStreamId`: `UXR_LOCK_STREAM_ID` and `UXR_UNLOCK_STREAM_ID`.
- `bufferLocked`, `prepareOutputStreamLocked`, `flashOutputStreamsLocked`,
  `updateHeartbeatsLocked`, `listenMessageLocked`: the calls.
- `SessionCall`: a call with its arguments; `sharedSession`: threads that make calls.

The loops take a fuel argument, and `none` says that it ran out.
-/

namespace XrceClient

open ByteMemory

/-- The mutexes of the streams of a session. -/
inductive Mutex where
  | outputBestEffort (index : UInt8)
  | outputReliable (index : UInt8)
  | inputBestEffort (index : UInt8)
  | inputReliable (index : UInt8)
  deriving DecidableEq, Repr

/-- What a lock and its unlock are written with: a stream identifier, or the mutex itself. -/
inductive LockKey where
  | streamId (id : StreamId)
  | mutex (mutex : Mutex)
  deriving DecidableEq, Repr

/-- The acts that acknowledge messages, by their payload, and all others. -/
inductive SessionAct where
  | processAcknack (acknack : AcknackPayload)
  | sendLost (acknack : AcknackPayload)
  | other
  deriving DecidableEq, Repr

/-- A call of a session, in steps. -/
abbrev LockedSession := Threaded LockKey Mutex Session SessionAct

/-- `uxr_get_stream_mutex_from_id` (multithread.c:55–83). -/
def getStreamMutexFromId (streams : StreamStorage) (id : StreamId) : Option Mutex :=
  match id.type, id.direction with
  | .bestEffortStream, .outputStream =>
    (getOutputBestEffortStream streams id.index).map fun _ => .outputBestEffort id.index
  | .bestEffortStream, .inputStream =>
    (getInputBestEffortStream streams id.index).map fun _ => .inputBestEffort id.index
  | .reliableStream, .outputStream =>
    (getOutputReliableStream streams id.index).map fun _ => .outputReliable id.index
  | .reliableStream, .inputStream =>
    (getInputReliableStream streams id.index).map fun _ => .inputReliable id.index
  | .noneStream, _ => none

/-- `UXR_LOCK_STREAM_ID` and `UXR_UNLOCK_STREAM_ID` (multithread.h:81–93), around something. -/
def lockStreamId {α : Type} (id : StreamId) (p : LockedSession α) : LockedSession α :=
  locked (.streamId id) (fun session => getStreamMutexFromId session.streams id) p

/-- An act without an acknowledgement. -/
def perform {β : Type} (f : Session → β × Session) : LockedSession β :=
  Program.call (.act .other f)

/-- The numbers of streams. -/
structure StreamSizes where
  outputBestEffort : UInt8
  outputReliable : UInt8
  inputBestEffort : UInt8
  inputReliable : UInt8
  deriving DecidableEq, Repr

/-- An entry that is replaced twice. -/
theorem StreamStorage.setOutputReliable_twice (storage : StreamStorage) (index : UInt8)
    (stream stream' : OutputReliableStream) :
    (storage.setOutputReliable index stream).setOutputReliable index stream' =
      storage.setOutputReliable index stream' := by
  simp only [setOutputReliable, Function.update_idem]

def StreamStorage.sizes (streams : StreamStorage) : StreamSizes where
  outputBestEffort := streams.outputBestEffortSize
  outputReliable := streams.outputReliableSize
  inputBestEffort := streams.inputBestEffortSize
  inputReliable := streams.inputReliableSize

/-- The sizes are looked at once for a loop: no call changes them. -/
def lookAtSizes : LockedSession StreamSizes :=
  perform fun session => (session.streams.sizes, session)

section

variable [MicroCdr]

/-! ## Buffering -/

/-- `uxr_prepare_stream_to_write_submessage`, but for the header. -/
def prepareLocked (streamId : StreamId) (payloadSize : Nat) : LockedSession (Option UcdrBuffer) :=
  perform fun session =>
    match prepareStreamToWriteSubmessage session.streams streamId payloadSize with
    | some (streams, ub) => (some ub, { session with streams })
    | none => (none, session)

/-- `uxr_init_base_object_request`. -/
def initBaseObjectRequestLocked (objectId : ObjectId) :
    LockedSession (UInt16 × BaseObjectRequest) :=
  perform fun session =>
    let (requestId, base, info) := initBaseObjectRequest session.info objectId
    ((requestId, base), { session with info })

/-- Bytes are written in a buffer over an output stream. -/
def writeLocked (streamId : StreamId) (write : Memory → Memory) : LockedSession PUnit :=
  perform fun session =>
    (⟨⟩, { session with streams := writeStream session.streams streamId write })

/-- The calls that buffer a submessage, with its header and payload in `write`. -/
def bufferLocked (streamId : StreamId) (objectId : ObjectId) (payloadSize : Nat)
    (write : BaseObjectRequest → UcdrBuffer → Memory → Memory) : LockedSession UInt16 :=
  lockStreamId streamId do
    match ← prepareLocked streamId payloadSize with
    | some ub =>
      let (requestId, base) ← initBaseObjectRequestLocked objectId
      writeLocked streamId (write base ub)
      return requestId
    | none => return invalidRequestId

/-- `uxr_buffer_request` (write_access.c:21–48). -/
def bufferRequestLocked (streamId : StreamId) (requesterId : ObjectId) (len : Nat)
    (write : BaseObjectRequest → UcdrBuffer → Memory → Memory) : LockedSession UInt16 :=
  bufferLocked streamId requesterId (writeDataPayloadSize + len) write

/-- `uxr_buffer_reply` (write_access.c:50–79). -/
def bufferReplyLocked (streamId : StreamId) (replierId : ObjectId) (len : Nat)
    (write : BaseObjectRequest → UcdrBuffer → Memory → Memory) : LockedSession UInt16 :=
  bufferLocked streamId replierId (writeDataPayloadSize + sampleIdentitySize + len) write

/-- `uxr_buffer_topic` (write_access.c:81–108). -/
def bufferTopicLocked (streamId : StreamId) (datawriterId : ObjectId) (len : Nat)
    (write : BaseObjectRequest → UcdrBuffer → Memory → Memory) : LockedSession UInt16 :=
  bufferLocked streamId datawriterId (writeDataPayloadSize + len) write

/-- `uxr_buffer_request_data` (read_access.c:61–103), with or without a delivery control. -/
def bufferRequestDataLocked (streamId : StreamId) (datareaderId : ObjectId) (control : Bool)
    (write : BaseObjectRequest → UcdrBuffer → Memory → Memory) : LockedSession UInt16 :=
  bufferLocked streamId datareaderId (4 + 4 + if control then 8 else 0) write

/-- `uxr_buffer_cancel_data` (read_access.c:105–117). -/
def bufferCancelDataLocked (streamId : StreamId) (datareaderId : ObjectId)
    (write : BaseObjectRequest → UcdrBuffer → Memory → Memory) : LockedSession UInt16 :=
  bufferRequestDataLocked streamId datareaderId true write

/-- `uxr_buffer_delete_entity` (common_create_entities.c:12–38). -/
def bufferDeleteEntityLocked (streamId : StreamId) (objectId : ObjectId)
    (write : BaseObjectRequest → UcdrBuffer → Memory → Memory) : LockedSession UInt16 :=
  bufferLocked streamId objectId 4 write

/-- `uxr_common_create_entity` (common_create_entities.c:40–76), in which the functions
`uxr_buffer_create_*` end. -/
def commonCreateEntityLocked (streamId : StreamId) (objectId : ObjectId) (xmlRefBinSize : UInt16)
    (write : BaseObjectRequest → UcdrBuffer → Memory → Memory) : LockedSession UInt16 :=
  bufferLocked streamId objectId (createPayloadLength objectId xmlRefBinSize).toNat write

/-- `uxr_prepare_output_stream` (write_access.c:110–144). The stream stays locked for the user if
there is room. -/
def prepareOutputStreamLocked (streamId : StreamId) (entityId : ObjectId) (len : Nat)
    (write : BaseObjectRequest → UcdrBuffer → Memory → Memory) : LockedSession UInt16 := do
  Program.call (.lock (.streamId streamId) fun session =>
    getStreamMutexFromId session.streams streamId)
  match ← prepareLocked streamId (writeDataPayloadSize + len) with
  | some ub =>
    let (requestId, base) ← initBaseObjectRequestLocked entityId
    writeLocked streamId (write base ub)
    return requestId
  | none =>
    Program.call (.unlock (.streamId streamId) fun session =>
      getStreamMutexFromId session.streams streamId)
    return invalidRequestId

/-- What a user does with a stream: it writes the payload into the stream that it has prepared, and
unlocks it then. -/
def writeOutputStreamLocked (streamId : StreamId) (entityId : ObjectId) (len : Nat)
    (write : BaseObjectRequest → UcdrBuffer → Memory → Memory) (payload : Memory → Memory) :
    LockedSession PUnit := do
  let requestId ← prepareOutputStreamLocked streamId entityId len write
  if requestId ≠ invalidRequestId then
    writeLocked streamId payload
    Program.call (.unlock (.streamId streamId) fun session =>
      getStreamMutexFromId session.streams streamId)

/-! ## Sending -/

/-- A best-effort stream of `uxr_flash_output_streams` (session.c:602–618). -/
def flashBestEffortStreamLocked (i : UInt8) : LockedSession PUnit :=
  lockStreamId (streamId i .bestEffortStream .outputStream) do
    perform fun session => (⟨⟩, flashBestEffortStream session i)

variable (platform : Platform)

/-- The loop of `uxr_flash_output_streams` over the messages of a stream (session.c:629–637). -/
def flashMessages (i : UInt8) : Nat → LockedSession (Option PUnit)
  | 0 => return none
  | fuel + 1 => do
    let next ← perform fun session =>
      let (dataToSend, stream, next) :=
        prepareNextReliableBufferToSend (session.streams.outputReliable i)
      if dataToSend then
        (some next, { session with streams := session.streams.setOutputReliable i stream })
      else
        (none, session)
    match next with
    | none => return some ⟨⟩
    | some next =>
      let sent ← perform fun session =>
        let (message, stream) :=
          stampedMessage session.info i (session.streams.outputReliable i) next
        let session := { session with streams := session.streams.setOutputReliable i stream }
        (platform.sendMsg session.sent.length, session.sendMessage message)
      if sent then
        flashMessages i fuel
      else
        perform fun session =>
          (some ⟨⟩, { session with
            streams := session.streams.setOutputReliable i
              (cancelReliableBufferToSend (session.streams.outputReliable i) next.seqNum) })

/-- A reliable stream of `uxr_flash_output_streams` (session.c:621–640). -/
def flashReliableStreamLocked (fuel : Nat) (ended : Option PUnit) (i : UInt8) :
    LockedSession (Option PUnit) :=
  match ended with
  | some _ =>
    lockStreamId (streamId i .reliableStream .outputStream) (flashMessages platform i fuel)
  | none => return none

/-- `uxr_flash_output_streams` (session.c:597–641). -/
def flashOutputStreamsLocked (fuel : Nat) : LockedSession (Option PUnit) := do
  let sizes ← lookAtSizes
  (List.range sizes.outputBestEffort.toNat).foldlM
    (fun _ i => flashBestEffortStreamLocked (UInt8.ofNat i)) ⟨⟩
  (List.range sizes.outputReliable.toNat).foldlM
    (fun ended i => flashReliableStreamLocked platform fuel ended (UInt8.ofNat i)) (some ⟨⟩)

/-! ## Heartbeats -/

/-- A stream in the loop of `listen_message_reliably` (session.c:702–719). -/
def heartbeatStreamLocked (timestamp nextHeartbeatTimestamp : Int) (i : UInt8) :
    LockedSession Int :=
  lockStreamId (streamId i .reliableStream .outputStream) do
    perform fun session =>
      let (session, nextHeartbeatTimestamp) :=
        heartbeatStream platform timestamp (session, nextHeartbeatTimestamp) i
      (nextHeartbeatTimestamp, session)

/-- The loop of `listen_message_reliably` over the output streams. -/
def updateHeartbeatsLocked (timestamp : Int) : LockedSession Int := do
  let sizes ← lookAtSizes
  (List.range sizes.outputReliable.toNat).foldlM
    (fun next i => heartbeatStreamLocked platform timestamp next (UInt8.ofNat i)) int64Max

/-! ## Listening -/

/-- `uxr_process_acknack` for an ACKNACK, on the output stream with its index. -/
def Session.processAcknack (session : Session) (acknack : AcknackPayload) : Session :=
  let index := (streamIdFromRaw acknack.streamId .inputStream).index
  let stream := session.streams.outputReliable index
  let nackBitmap := uint16FromRaw acknack.nackBitmap
  let session := session.access (.outputReliable index ::
    processAcknackAccesses stream nackBitmap acknack.firstUnackedSeqNum)
  { session with
    streams := session.streams.setOutputReliable index
      (XrceClient.processAcknack stream nackBitmap acknack.firstUnackedSeqNum) }

/-- The loop that sends the lost messages of the output stream again. -/
def Session.sendLost (session : Session) (acknack : AcknackPayload) : Session :=
  let index := (streamIdFromRaw acknack.streamId .inputStream).index
  let stream := session.streams.outputReliable index
  let (lost, stream') := sendLostMessages stream
  { session with
    streams := session.streams.setOutputReliable index stream'
    sent := session.sent ++ lost.map fun next => read stream.base.buffer next.buffer next.length }

/-- `read_submessage_acknack` (session.c:1044–1069). The identifier that is locked is one of an
input stream. -/
def readSubmessageAcknackLocked (acknack : AcknackPayload) : LockedSession PUnit := do
  let id := streamIdFromRaw acknack.streamId .inputStream
  let found ← perform fun session =>
    ((getOutputReliableStream session.streams id.index).isSome, session)
  if found then
    lockStreamId id do
      Program.call (.act (.processAcknack acknack) fun session =>
        (⟨⟩, session.processAcknack acknack))
      Program.call (.act (.sendLost acknack) fun session => (⟨⟩, session.sendLost acknack))

/-- An operation of the reading functions that takes no lock. -/
def handleLocked (env : ReadEnv Session) {β : Type} (op : ReadOp β) (c : Cursor) :
    LockedSession (β × Cursor) :=
  perform fun session =>
    let (b, session, c) := env.handle op (session, c)
    ((b, c), session)

/-- An operation of the reading functions. Only an ACKNACK takes a lock. -/
def readOpLocked (env : ReadEnv Session) {β : Type} (op : ReadOp β) (c : Cursor) :
    LockedSession (β × Cursor) :=
  match op with
  | .emit (.acknack acknack whole) => do
    perform fun session =>
      (⟨⟩, { session with effects := session.effects ++ [.acknack acknack whole] })
    readSubmessageAcknackLocked acknack
    return (⟨⟩, c)
  | op => handleLocked env op c

/-- A reading function. -/
def readingLocked (env : ReadEnv Session) {α : Type} :
    Program ReadOp α → Cursor → LockedSession (α × Cursor)
  | .done a, c => return (a, c)
  | .step op next, c => do
    let (b, c) ← readOpLocked env op c
    readingLocked env (next b) c

variable (shiftBeyond : Nat → UInt16) (config : ReadConfig)

/-- `read_submessage_list` (session.c:911–921), to its end. -/
def readSubmessagesLocked (fuel : Nat) (env : ReadEnv Session) (ub : UcdrBuffer)
    (streamId : StreamId) : LockedSession (Option PUnit) := do
  let (complete, _) ← readingLocked env (readSubmessageList config fuel streamId)
    { ub, outer := none }
  return if complete then some ⟨⟩ else none

/-- The loop of `read_stream` over the messages in the slots (session.c:896–900). -/
def readNextBuffersLocked (streamId : StreamId) : Nat → UcdrBuffer → LockedSession (Option PUnit)
  | 0, _ => return none
  | fuel + 1, nextMb => do
    let next ← perform fun session =>
      let stream := session.streams.inputReliable streamId.index
      match nextInputReliableBufferAvailable fuel stream nextMb subheaderSize with
      | none => (none, session)
      | some (available, stream, nextMb) =>
        let session := session.access [.remainder stream.base.history]
        (some (available, nextMb), { session with
          streams := session.streams.setInputReliable streamId.index stream })
    match next with
    | none => return none
    | some (available, nextMb) =>
      if available then
        match ← readSubmessagesLocked config fuel (slotsEnv shiftBeyond streamId.index) nextMb
            streamId with
        | none => return none
        | some _ => readNextBuffersLocked streamId fuel nextMb
      else
        return some ⟨⟩

/-- The case of `UXR_RELIABLE_STREAM` in `read_stream` for a stream that was found
(session.c:886–901). -/
def readReliableStreamLocked (fuel : Nat) (memory : Memory) (ub : UcdrBuffer)
    (streamId : StreamId) (seqNum : SeqNum) : LockedSession (Option PUnit) := do
  let msg : Datagram := { memory, buffer := ub.iterator, length := ucdrBufferRemaining ub }
  let received ← perform fun session =>
    let stream := session.streams.inputReliable streamId.index
    match receiveReliableMessage fuel stream seqNum msg false with
    | none => (none, session)
    | some received =>
      let looks := stream.accepts seqNum ∧
        ¬ (stream.onGetFragmentationInfo msg.memory msg.buffer = .noFragmented ∧
          seqNum = seqNumAdd stream.lastHandled 1)
      let session := session.access (.inputReliable streamId.index ::
        if looks then [.remainder stream.base.history] else [])
      (some (received.readyToRead, received.messageStored), { session with
        streams := session.streams.setInputReliable streamId.index received.stream })
  match received with
  | none => return none
  | some (readyToRead, messageStored) =>
    if readyToRead then
      let whole ←
        if messageStored then pure (some ⟨⟩)
        else readSubmessagesLocked config fuel (datagramEnv shiftBeyond memory) ub streamId
      match whole with
      | none => return none
      | some _ => readNextBuffersLocked shiftBeyond config streamId fuel (ucdrInitBuffer 0 0)
    else
      return some ⟨⟩

/-- The answer to a message of a reliable stream (session.c:903). -/
def acknackLocked (streamId : StreamId) : Option PUnit → LockedSession (Option PUnit)
  | none => return none
  | some _ => perform fun session =>
    (some ⟨⟩, writeSubmessageAcknack shiftBeyond session streamId)

/-- `read_stream` (session.c:861–909). -/
def readStreamLocked (fuel : Nat) (memory : Memory) (ub : UcdrBuffer) (streamId : StreamId)
    (seqNum : SeqNum) : LockedSession (Option PUnit) :=
  match streamId.type with
  | .noneStream =>
    readSubmessagesLocked config fuel (datagramEnv shiftBeyond memory) ub
      (streamIdFromRaw 0x00 .inputStream)
  | .bestEffortStream => do
    let available ← perform fun session =>
      match getInputBestEffortStream session.streams streamId.index with
      | some stream =>
        let (available, stream) := receiveBestEffortMessage stream seqNum
        let session := session.access [.inputBestEffort streamId.index]
        (available, { session with
          streams := session.streams.setInputBestEffort streamId.index stream })
      | none => (false, session)
    if available then
      readSubmessagesLocked config fuel (datagramEnv shiftBeyond memory) ub streamId
    else
      return some ⟨⟩
  | .reliableStream => do
    let found ← perform fun session =>
      ((getInputReliableStream session.streams streamId.index).isSome, session)
    let ended ←
      if found then
        readReliableStreamLocked shiftBeyond config fuel memory ub streamId seqNum
      else
        pure (some ⟨⟩)
    acknackLocked shiftBeyond streamId ended

/-- `read_message` (session.c:851–859). -/
def readMessageLocked (fuel : Nat) (msg : Datagram) : LockedSession (Option PUnit) := do
  let ub := ucdrInitBuffer msg.buffered.buffer msg.buffered.length
  let header ← perform fun session =>
    let ((mustBeRead, streamIdRaw, seqNum), session, cursor) :=
      (datagramEnv shiftBeyond msg.memory).read (readBuffer (readSessionHeader session.info))
        session ub
    ((mustBeRead, streamIdRaw, seqNum, cursor.ub), session)
  let (mustBeRead, streamIdRaw, seqNum, ub) := header
  if mustBeRead then
    readStreamLocked shiftBeyond config fuel msg.memory ub
      (streamIdFromRaw streamIdRaw .inputStream) seqNum
  else
    return some ⟨⟩

/-- The mutexes of `UXR_LOCK_ALL_INPUT_STREAMS` (multithread.h:95–100). -/
def allInputMutexes (sizes : StreamSizes) : List (LockKey × Mutex) :=
  let mutexes :=
    (List.range sizes.inputBestEffort.toNat).map (fun i => Mutex.inputBestEffort (UInt8.ofNat i)) ++
      (List.range sizes.inputReliable.toNat).map (fun i => Mutex.inputReliable (UInt8.ofNat i))
  mutexes.map fun mutex => (.mutex mutex, mutex)

/-- `listen_message` (session.c:669–686), when that was received. -/
def listenMessageLocked (fuel : Nat) (received : Option Datagram) :
    LockedSession (Option PUnit) := do
  let sizes ← lookAtSizes
  lockEach (allInputMutexes sizes)
  let ended ←
    match received with
    | some msg => readMessageLocked shiftBeyond config fuel msg
    | none => pure (some ⟨⟩)
  unlockEach (allInputMutexes sizes)
  return ended

/-! ## The calls -/

/-- A call of a session, with its arguments. `write` stands for the header and the payload of a
submessage, and `payload` for what a user writes into a stream that it has prepared. -/
inductive SessionCall where
  | bufferRequest (streamId : StreamId) (requesterId : ObjectId) (len : Nat)
    (write : BaseObjectRequest → UcdrBuffer → Memory → Memory)
  | bufferReply (streamId : StreamId) (replierId : ObjectId) (len : Nat)
    (write : BaseObjectRequest → UcdrBuffer → Memory → Memory)
  | bufferTopic (streamId : StreamId) (datawriterId : ObjectId) (len : Nat)
    (write : BaseObjectRequest → UcdrBuffer → Memory → Memory)
  | bufferRequestData (streamId : StreamId) (datareaderId : ObjectId) (control : Bool)
    (write : BaseObjectRequest → UcdrBuffer → Memory → Memory)
  | bufferCancelData (streamId : StreamId) (datareaderId : ObjectId)
    (write : BaseObjectRequest → UcdrBuffer → Memory → Memory)
  | bufferDeleteEntity (streamId : StreamId) (objectId : ObjectId)
    (write : BaseObjectRequest → UcdrBuffer → Memory → Memory)
  | createEntity (streamId : StreamId) (objectId : ObjectId) (xmlRefBinSize : UInt16)
    (write : BaseObjectRequest → UcdrBuffer → Memory → Memory)
  | writeOutputStream (streamId : StreamId) (entityId : ObjectId) (len : Nat)
    (write : BaseObjectRequest → UcdrBuffer → Memory → Memory) (payload : Memory → Memory)
  | flashOutputStreams (fuel : Nat)
  | updateHeartbeats (timestamp : Int)
  | listenMessage (fuel : Nat) (received : Option Datagram)

/-- The stream that a call buffers something in. -/
def SessionCall.stream : SessionCall → Option StreamId
  | .bufferRequest streamId _ _ _ => some streamId
  | .bufferReply streamId _ _ _ => some streamId
  | .bufferTopic streamId _ _ _ => some streamId
  | .bufferRequestData streamId _ _ _ => some streamId
  | .bufferCancelData streamId _ _ => some streamId
  | .bufferDeleteEntity streamId _ _ => some streamId
  | .createEntity streamId _ _ _ => some streamId
  | .writeOutputStream streamId _ _ _ _ => some streamId
  | .flashOutputStreams _ => none
  | .updateHeartbeats _ => none
  | .listenMessage _ _ => none

/-- The call names an output stream, if it names one. -/
def SessionCall.OnOutput (call : SessionCall) : Prop :=
  ∀ streamId ∈ call.stream, streamId.direction = .outputStream

/-- What a call does. Its result is left to the caller. -/
def SessionCall.program : SessionCall → LockedSession PUnit
  | .bufferRequest streamId requesterId len write =>
    discard (bufferRequestLocked streamId requesterId len write)
  | .bufferReply streamId replierId len write =>
    discard (bufferReplyLocked streamId replierId len write)
  | .bufferTopic streamId datawriterId len write =>
    discard (bufferTopicLocked streamId datawriterId len write)
  | .bufferRequestData streamId datareaderId control write =>
    discard (bufferRequestDataLocked streamId datareaderId control write)
  | .bufferCancelData streamId datareaderId write =>
    discard (bufferCancelDataLocked streamId datareaderId write)
  | .bufferDeleteEntity streamId objectId write =>
    discard (bufferDeleteEntityLocked streamId objectId write)
  | .createEntity streamId objectId xmlRefBinSize write =>
    discard (commonCreateEntityLocked streamId objectId xmlRefBinSize write)
  | .writeOutputStream streamId entityId len write payload =>
    writeOutputStreamLocked streamId entityId len write payload
  | .flashOutputStreams fuel => discard (flashOutputStreamsLocked platform fuel)
  | .updateHeartbeats timestamp => discard (updateHeartbeatsLocked platform timestamp)
  | .listenMessage fuel received => discard (listenMessageLocked shiftBeyond config fuel received)

/-- A thread that makes calls, one after the other. -/
def callAll : List SessionCall → LockedSession PUnit
  | [] => return ⟨⟩
  | call :: calls => do
    call.program platform shiftBeyond config
    callAll calls

/-- A session with threads that are about to make calls. -/
def sharedSession {θ : Type} (session : Session) (calls : θ → List SessionCall) :
    LockSystem θ LockKey Mutex Session SessionAct where
  shared := session
  threads i := { rest := callAll platform shiftBeyond config (calls i), held := [] }

end

end XrceClient
