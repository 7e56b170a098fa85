import XrceClient.Session.ControlWriting
import XrceClient.Session.StreamStorage

/-!
# Sessions (`session.c`)

What a session does with a message that it receives.

- `readSubmessageHeartbeat` / `readSubmessageAcknack`: the control messages.
- `writeSubmessageAcknack`: the answer that tells the agent what is missing.
- `readStream` / `readMessage`: the stream that the header names decides whether the
  submessages are read, from the message itself or out of the slots.

Besides its streams a session has a record of what it did: the messages it sent, the
effects of the submessages it read, and how it used the stream storage. The
record is no part of the source's state. The loops without a bound of their own take a
fuel argument, and `none` says that it ran out.
-/

namespace XrceClient

open ByteMemory

/-- A use of the stream storage: an entry of an array, a function that takes remainders by
the history of a ring, or a slot of a ring. -/
inductive StorageAccess where
  | outputReliable (index : UInt8)
  | inputBestEffort (index : UInt8)
  | inputReliable (index : UInt8)
  | remainder (history : UInt16)
  /-- The bytes of a slot of an input stream become a buffer. -/
  | inputSlot (index : UInt8) (position : Nat)
  deriving DecidableEq, Repr

/-- `uxrSession` (session.h): its identification and its streams. The callbacks are
`ReadConfig`. -/
structure Session where
  info : SessionInfo
  streams : StreamStorage
  sent : List (List UInt8)
  effects : List Effect
  accesses : List StorageAccess

namespace Session

/-- The record of a use of the storage. -/
def access (session : Session) (accesses : List StorageAccess) : Session :=
  { session with accesses := session.accesses ++ accesses }

/-- `send_message` (session.c:770–778). -/
def sendMessage (session : Session) (message : List UInt8) : Session :=
  { session with sent := session.sent ++ [message] }

end Session

/-! ## Control messages -/

/-- The remainders that `uxr_compute_acknack` takes: it looks at the slots of the ring, and
at those of the numbers up to the last one announced. -/
def acknackAccesses (stream : InputReliableStream) : List StorageAccess :=
  let buffersToAck := seqNumSub stream.lastAnnounced (seqNumSub (getFirstUnacked stream) 1)
  if stream.base.history ≠ 0 ∨ buffersToAck ≠ 0 then [.remainder stream.base.history] else []

/-- The loop of `read_submessage_acknack` (session.c:1061–1066): the messages it sends and
the stream afterwards. -/
def sendLostMessages (stream : OutputReliableStream) : List NextBuffer × OutputReliableStream :=
  (nackIteration seqNumSize stream (beginOutputNackBufferIt stream)).get
    (nackIteration_isSome stream _)

/-- The remainders that an acknowledgement takes: for the slots it empties, and for those it
looks at to send them again. -/
def processAcknackAccesses (stream : OutputReliableStream) (nackBitmap : UInt16)
    (firstUnackedSeqNum : SeqNum) : List StorageAccess :=
  let processed := processAcknack stream nackBitmap firstUnackedSeqNum
  let looks := processed.sendLost ∧
    0 ≥ seqNumCmp (seqNumAdd processed.lastAcknown 1) processed.lastSent
  if processed.lastAcknown ≠ stream.lastAcknown ∨ looks then [.remainder stream.base.history]
  else []

section

variable [MicroCdr] (shiftBeyond : Nat → UInt16)

/-- `write_submessage_acknack` (session.c:821–849). The array is indexed as it is. -/
def writeSubmessageAcknack (session : Session) (id : StreamId) : Session :=
  let ub := ucdrInitBufferOriginOffset 0 acknackMaxMsgSize 0 (sessionHeaderOffset session.info)
  let stream := session.streams.inputReliable id.index
  let session := session.access (.inputReliable id.index :: acknackAccesses stream)
  -- buffer submessage header
  let (_, acknackBuffer, ub) := bufferSubmessageHeader Device.plain (fun _ => 0) ub
    SubmessageId.acknack.value acknackPayloadSize 0
  -- buffer ACKNACK
  let (firstUnackedSeqNum, nackBitmap) := computeAcknack shiftBeyond stream
  let payload : AcknackPayload :=
    { firstUnackedSeqNum
      nackBitmap := [UInt8.ofNat (nackBitmap.toNat / 256), UInt8.ofNat nackBitmap.toNat]
      streamId := id.raw }
  let (_, acknackBuffer, ub) := serializeAcknackPayload Device.plain acknackBuffer ub payload
  -- stamp message header
  let acknackBuffer := stampSessionHeader Device.plain session.info 0 0 acknackBuffer ub.init
  session.sendMessage (read acknackBuffer 0 (ub.iterator - ub.init))

/-- `read_submessage_heartbeat` (session.c:1028–1042), on the payload. -/
def readSubmessageHeartbeat (session : Session) (heartbeat : HeartbeatPayload) : Session :=
  let id := streamIdFromRaw heartbeat.streamId .inputStream
  match getInputReliableStream session.streams id.index with
  | some stream =>
    let stream := processHeartbeat stream heartbeat.firstUnackedSeqNr heartbeat.lastUnackedSeqNr
    let session := session.access [.inputReliable id.index]
    writeSubmessageAcknack shiftBeyond
      { session with streams := session.streams.setInputReliable id.index stream } id
  | none => session

/-- `read_submessage_acknack` (session.c:1044–1069), on the payload. -/
def readSubmessageAcknack (session : Session) (acknack : AcknackPayload) : Session :=
  let id := streamIdFromRaw acknack.streamId .inputStream
  match getOutputReliableStream session.streams id.index with
  | some stream =>
    let nackBitmap := uint16FromRaw acknack.nackBitmap
    let processed := processAcknack stream nackBitmap acknack.firstUnackedSeqNum
    let (lost, processed') := sendLostMessages processed
    let session := session.access (.outputReliable id.index ::
      processAcknackAccesses stream nackBitmap acknack.firstUnackedSeqNum)
    { session with
      streams := session.streams.setOutputReliable id.index processed'
      sent := session.sent ++ lost.map fun next =>
        read processed.base.buffer next.buffer next.length }
  | none => session

/-! ## Reading submessages -/

/-- The effect of a submessage on the session. Every effect goes on the record. -/
def Session.emit (effect : Effect) (session : Session) : Session :=
  let session := { session with effects := session.effects ++ [effect] }
  match effect with
  | .createSessionStatus status =>
    { session with info := { session.info with lastRequestedStatus := status } }
  | .deleteSessionStatus requestId status _ =>
    -- uxr_read_delete_session_status and process_delete_session_status (session_info.c)
    if session.info.lastRequestId = requestLogout ∧ requestId = requestLogout then
      { session with info := { session.info with lastRequestedStatus := status } }
    else
      session
  | .heartbeat payload => readSubmessageHeartbeat shiftBeyond session payload
  | .acknack payload _ => readSubmessageAcknack session payload
  | .getInfo requestId => session.sendMessage (infoMessage session.info requestId)
  | _ => session

/-- Reading out of a received message. -/
def datagramEnv (memory : Memory) : ReadEnv Session where
  dev := Device.datagram memory
  setCleanupFlag _ session := session
  emit := Session.emit shiftBeyond

/-- Reading out of the slots of an input stream. -/
def slotsEnv (index : UInt8) : ReadEnv Session where
  dev :=
    { load := fun session a => (session.streams.inputReliable index).base.buffer a
      store := fun session _ _ => session
      onFull := fun session ub =>
        match ub.onFullBuffer with
        | none => (true, session, ub)
        | some _ =>
          let stream := session.streams.inputReliable index
          let position := stream.base.slot (nextHistoryPosition stream.base ub)
          let (error, stream, ub) := onFullInputBuffer stream ub
          let session := session.access (.remainder stream.base.history ::
            if error then [] else [.inputSlot index position])
          (error, { session with streams := session.streams.setInputReliable index stream }, ub) }
  setCleanupFlag cleanupFlag session :=
    { session with
      streams := session.streams.setInputReliable index
        { session.streams.inputReliable index with cleanupFlag } }
  emit := Session.emit shiftBeyond

variable (config : ReadConfig)

/-- `read_submessage_list` (session.c:911–921), to its end. -/
def readSubmessages (fuel : Nat) (env : ReadEnv Session) (session : Session) (ub : UcdrBuffer)
    (streamId : StreamId) : Option Session :=
  let (complete, session, _) := env.read (readSubmessageList config fuel streamId) session ub
  if complete then some session else none

/-! ## Reading a message -/

/-- The loop of `read_stream` over the messages in the slots (session.c:896–900). -/
def readNextBuffers (streamId : StreamId) : Nat → Session → UcdrBuffer → Option Session
  | 0, _, _ => none
  | fuel + 1, session, nextMb => do
    let stream := session.streams.inputReliable streamId.index
    let (available, stream, nextMb) ←
      nextInputReliableBufferAvailable fuel stream nextMb subheaderSize
    let session := session.access [.remainder stream.base.history]
    let session := { session with
      streams := session.streams.setInputReliable streamId.index stream }
    if available then
      let session ← readSubmessages config fuel (slotsEnv shiftBeyond streamId.index) session
        nextMb streamId
      readNextBuffers streamId fuel session nextMb
    else
      return session

/-- The case of `UXR_RELIABLE_STREAM` in `read_stream` for a stream that was found
(session.c:886–901), on a message that `ub` is over. -/
def readReliableStream (fuel : Nat) (session : Session) (memory : Memory) (ub : UcdrBuffer)
    (streamId : StreamId) (seqNum : SeqNum) (stream : InputReliableStream) : Option Session := do
  let msg : Datagram :=
    { memory, buffer := ub.iterator, length := ucdrBufferRemaining ub }
  -- input_buffer_used is read only where reception has set it
  let received ← receiveReliableMessage fuel stream seqNum msg false
  let looks := stream.accepts seqNum ∧
    ¬ (stream.onGetFragmentationInfo msg.memory msg.buffer = .noFragmented ∧
      seqNum = seqNumAdd stream.lastHandled 1)
  let session := session.access (.inputReliable streamId.index ::
    if looks then [.remainder stream.base.history] else [])
  let session := { session with
    streams := session.streams.setInputReliable streamId.index received.stream }
  if received.readyToRead then
    let session ←
      if received.messageStored then pure session
      else readSubmessages config fuel (datagramEnv shiftBeyond memory) session ub streamId
    readNextBuffers shiftBeyond config streamId fuel session (ucdrInitBuffer 0 0)
  else
    return session

/-- `read_stream` (session.c:861–909). -/
def readStream (fuel : Nat) (session : Session) (memory : Memory) (ub : UcdrBuffer)
    (streamId : StreamId) (seqNum : SeqNum) : Option Session :=
  match streamId.type with
  | .noneStream =>
    readSubmessages config fuel (datagramEnv shiftBeyond memory) session ub
      (streamIdFromRaw 0x00 .inputStream)
  | .bestEffortStream =>
    match getInputBestEffortStream session.streams streamId.index with
    | some stream =>
      let (available, stream) := receiveBestEffortMessage stream seqNum
      let session := session.access [.inputBestEffort streamId.index]
      let session := { session with
        streams := session.streams.setInputBestEffort streamId.index stream }
      if available then
        readSubmessages config fuel (datagramEnv shiftBeyond memory) session ub streamId
      else
        some session
    | none => some session
  | .reliableStream =>
    let session :=
      match getInputReliableStream session.streams streamId.index with
      | some stream =>
        readReliableStream shiftBeyond config fuel session memory ub streamId seqNum stream
      | none => some session
    session.map fun session => writeSubmessageAcknack shiftBeyond session streamId

/-- A message in a buffer, whose length has 32 bits. -/
def Datagram.buffered (msg : Datagram) : Datagram := { msg with length := msg.length % 2 ^ 32 }

/-- `read_message` (session.c:851–859), on a message that was received
(session.c:679–682). -/
def readMessage (fuel : Nat) (session : Session) (msg : Datagram) : Option Session :=
  let ub := ucdrInitBuffer msg.buffered.buffer msg.buffered.length
  let ((mustBeRead, streamIdRaw, seqNum), session, cursor) :=
    (datagramEnv shiftBeyond msg.memory).read (readBuffer (readSessionHeader session.info))
      session ub
  if mustBeRead then
    readStream shiftBeyond config fuel session msg.memory cursor.ub
      (streamIdFromRaw streamIdRaw .inputStream) seqNum
  else
    some session

end

end XrceClient
