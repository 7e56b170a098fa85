import XrceClient.Session.Effects

/-!
# Running a session (`session.c`)

The calls that send what is buffered and listen to the agent, over a transport and a clock
that may answer anything.

- `Platform`: the answers of `send_msg`, `recv_msg` and `uxr_millis` to every call, and the
  intervals of the configuration.
- `Run`: a session with the number of calls so far, and a record of the attempts to send
  messages of reliable streams.
- `flashOutputStreams`, `listenMessage`, `listenMessageReliably`: sending, and receiving one
  message.
- `runSessionUntilConfirmDelivery`, `deleteSessionRetries`: the calls of the user.

The loops take a fuel argument, and `none` says that it ran out.
-/

namespace XrceClient

open ByteMemory

/-- What a session runs on. The answers are those to the first call, the second, and so on;
the calls of `send_msg` are those that the session records as sent. -/
structure Platform where
  sendMsg : Nat → Bool
  recvMsg : Nat → Int → Option Datagram
  millis : Nat → Int
  minSessionConnectionInterval : Int
  minHeartbeatTimeInterval : Int

/-- An attempt to send the message of a reliable stream, and the answer of `send_msg`. -/
structure Attempt where
  index : UInt8
  seqNum : SeqNum
  sent : Bool
  deriving DecidableEq, Repr

/-- A session that runs: how often it listened and looked at the clock. The attempts are a
record, no part of the source's state. -/
structure Run where
  session : Session
  listened : Nat
  looked : Nat
  attempts : List Attempt

/-- `(int) n`. -/
def toInt (n : Int) : Int := n.bmod (2 ^ 32)

/-! ## Sending -/

/-- `storage->output_best_effort[index] = stream`. -/
def StreamStorage.setOutputBestEffort (storage : StreamStorage) (index : UInt8)
    (stream : OutputBestEffortStream) : StreamStorage :=
  { storage with outputBestEffort := Function.update storage.outputBestEffort index stream }

@[simp] theorem StreamStorage.setOutputBestEffort_self (storage : StreamStorage) (index : UInt8)
    (stream : OutputBestEffortStream) :
    (storage.setOutputBestEffort index stream).outputBestEffort index = stream :=
  Function.update_self _ _ _

/-- `uxr_prepare_best_effort_buffer_to_send` (output_best_effort_stream.c:54–73). -/
def prepareBestEffortBufferToSend (stream : OutputBestEffortStream) :
    Bool × OutputBestEffortStream × NextBuffer :=
  let lastSend := seqNumAdd stream.lastSend 1
  if stream.writer > stream.offset.toNat then
    (true, { stream with lastSend, writer := stream.offset.toNat },
      { buffer := 0, length := stream.writer, seqNum := lastSend })
  else
    (false, stream, { buffer := 0, length := 0, seqNum := 0 })

section

variable [MicroCdr]

/-- A best-effort stream of `uxr_flash_output_streams` (session.c:602–619). -/
def flashBestEffortStream (session : Session) (i : UInt8) : Session :=
  let id := streamId i .bestEffortStream .outputStream
  let (dataToSend, stream, next) :=
    prepareBestEffortBufferToSend (session.streams.outputBestEffort i)
  if dataToSend then
    let buffer := stampSessionHeader Device.plain session.info id.raw next.seqNum stream.buffer
      next.buffer
    let session := { session with
      streams := session.streams.setOutputBestEffort i { stream with buffer } }
    session.sendMessage (read buffer next.buffer next.length)
  else
    session

/-- The loop of `uxr_flash_output_streams` over the best-effort streams. -/
def flashBestEffortStreams (session : Session) : Session :=
  (List.range session.streams.outputBestEffortSize.toNat).foldl
    (fun session i => flashBestEffortStream session (UInt8.ofNat i)) session

/-- A message of a reliable stream, as it is handed to `send_msg`. -/
def stampedMessage (info : SessionInfo) (i : UInt8) (stream : OutputReliableStream)
    (next : NextBuffer) : List UInt8 × OutputReliableStream :=
  let id := streamId i .reliableStream .outputStream
  let buffer := stampSessionHeader Device.plain info id.raw next.seqNum stream.base.buffer
    next.buffer
  (read buffer next.buffer next.length, { stream with base := { stream.base with buffer } })

variable (platform : Platform)

/-- A reliable stream of `uxr_flash_output_streams` (session.c:621–640). -/
def flashReliableStream (i : UInt8) : Nat → Run → Option Run
  | 0, _ => none
  | fuel + 1, run =>
    let session := run.session
    let (dataToSend, stream, next) :=
      prepareNextReliableBufferToSend (session.streams.outputReliable i)
    if dataToSend then
      let (message, stream) := stampedMessage session.info i stream next
      let sent := platform.sendMsg session.sent.length
      let session := session.sendMessage message
      let attempts := run.attempts ++ [{ index := i, seqNum := next.seqNum, sent }]
      if sent then
        flashReliableStream i fuel { run with
          session := { session with streams := session.streams.setOutputReliable i stream }
          attempts }
      else
        some { run with
          session := { session with
            streams := session.streams.setOutputReliable i
              (cancelReliableBufferToSend stream next.seqNum) }
          attempts }
    else
      some run

/-- `uxr_flash_output_streams` (session.c:597–641). -/
def flashOutputStreams (fuel : Nat) (run : Run) : Option Run :=
  (List.range run.session.streams.outputReliableSize.toNat).foldlM
    (fun run i => flashReliableStream platform (UInt8.ofNat i) fuel run)
    { run with session := flashBestEffortStreams run.session }

/-! ## Listening -/

/-- `uxr_update_output_stream_heartbeat_timestamp` (output_reliable_stream.c:208–233). -/
def updateOutputStreamHeartbeatTimestamp (stream : OutputReliableStream)
    (currentTimestamp : Int) : Bool × OutputReliableStream :=
  if 0 > seqNumCmp stream.lastAcknown stream.lastSent then
    let nextHeartbeatTimestamp := currentTimestamp + platform.minHeartbeatTimeInterval
    if stream.nextHeartbeatTries = 0 then
      (false, { stream with nextHeartbeatTries := 1, nextHeartbeatTimestamp })
    else if currentTimestamp ≥ stream.nextHeartbeatTimestamp then
      (true, { stream with
        nextHeartbeatTries := stream.nextHeartbeatTries + 1
        nextHeartbeatTimestamp })
    else
      (false, { stream with nextHeartbeatTimestamp })
  else
    (false, { stream with nextHeartbeatTimestamp := int64Max })

/-- `write_submessage_heartbeat` (session.c:795–819). -/
def writeSubmessageHeartbeat (session : Session) (id : StreamId) : Session :=
  let stream := session.streams.outputReliable id.index
  session.sendMessage (heartbeatMessage session.info
    { firstUnackedSeqNr := seqNumAdd stream.lastAcknown 1
      lastUnackedSeqNr := stream.lastSent
      streamId := id.raw })

/-- A stream in the loop of `listen_message_reliably` (session.c:702–719), with the earliest
timestamp so far. -/
def heartbeatStream (timestamp : Int) (state : Session × Int) (i : UInt8) : Session × Int :=
  let (session, nextHeartbeatTimestamp) := state
  let id := streamId i .reliableStream .outputStream
  let (mustConfirm, stream) := updateOutputStreamHeartbeatTimestamp platform
    (session.streams.outputReliable i) timestamp
  let session := { session with streams := session.streams.setOutputReliable i stream }
  let session := if mustConfirm then writeSubmessageHeartbeat session id else session
  (session, min nextHeartbeatTimestamp stream.nextHeartbeatTimestamp)

/-- The loop of `listen_message_reliably` over the output streams. -/
def heartbeatStreams (timestamp : Int) (session : Session) : Session × Int :=
  (List.range session.streams.outputReliableSize.toNat).foldl
    (fun state i => heartbeatStream platform timestamp state (UInt8.ofNat i)) (session, int64Max)

variable (shiftBeyond : Nat → UInt16) (config : ReadConfig)

/-- `listen_message` (session.c:669–686). -/
def listenMessage (fuel : Nat) (run : Run) (pollMs : Int) : Option (Bool × Run) :=
  let received := platform.recvMsg run.listened pollMs
  let run := { run with listened := run.listened + 1 }
  match received with
  | some msg =>
    (readMessage shiftBeyond config fuel run.session msg).map fun session =>
      (true, { run with session })
  | none => some (false, run)

/-- `poll_chosen` (session.c:721–728): no longer than until the next heartbeat. -/
def pollUntilHeartbeat (nextHeartbeatTimestamp timestamp poll : Int) : Int :=
  let pollToNextHeartbeat :=
    if nextHeartbeatTimestamp ≠ int64Max then toInt (nextHeartbeatTimestamp - timestamp) else poll
  let pollToNextHeartbeat := if pollToNextHeartbeat = 0 then 1 else pollToNextHeartbeat
  if pollToNextHeartbeat < poll then pollToNextHeartbeat else poll

/-- The loop of `listen_message_reliably` (session.c:694–733). -/
def listenMessageReliablyFor : Nat → Run → Int → Option (Bool × Run)
  | 0, _, _ => none
  | fuel + 1, run, poll => do
    let timestamp := platform.millis run.looked
    let (session, nextHeartbeatTimestamp) := heartbeatStreams platform timestamp run.session
    let run := { run with session, looked := run.looked + 1 }
    let pollChosen := pollUntilHeartbeat nextHeartbeatTimestamp timestamp poll
    let (received, run) ← listenMessage platform shiftBeyond config fuel run pollChosen
    if received then
      return (true, run)
    else if poll - pollChosen > 0 then
      listenMessageReliablyFor fuel run (poll - pollChosen)
    else
      return (false, run)

/-- `INT32_MAX`. -/
def int32Max : Int := 2147483647

/-- `listen_message_reliably` (session.c:688–736). -/
def listenMessageReliably (fuel : Nat) (run : Run) (pollMs : Int) : Option (Bool × Run) :=
  listenMessageReliablyFor platform shiftBeyond config fuel run
    (if pollMs ≥ 0 then pollMs else int32Max)

/-! ## Until the delivery is confirmed -/

/-- `uxr_output_streams_confirmed` (stream_storage.c:139–150). -/
def outputStreamsConfirmed (storage : StreamStorage) : Bool :=
  (List.range storage.outputReliableSize.toNat).all fun i =>
    isOutputUpToDate (storage.outputReliable (UInt8.ofNat i))

/-- The loop of `uxr_run_session_until_confirm_delivery` (session.c:419–424). -/
def listenUntilConfirmed (timeoutMs startTimestamp : Int) : Nat → Run → Int → Option Run
  | 0, _, _ => none
  | fuel + 1, run, remainingTime =>
    if remainingTime ≥ 0 ∧ ¬ outputStreamsConfirmed run.session.streams then do
      let (_, run) ← listenMessageReliably platform shiftBeyond config fuel run remainingTime
      let remainingTime := timeoutMs - toInt (platform.millis run.looked - startTimestamp)
      listenUntilConfirmed timeoutMs startTimestamp fuel { run with looked := run.looked + 1 }
        remainingTime
    else
      some run

/-- `uxr_run_session_until_confirm_delivery` (session.c:408–430). -/
def runSessionUntilConfirmDelivery (fuel : Nat) (run : Run) (timeoutMs : Int) :
    Option (Bool × Run) := do
  let startTimestamp := platform.millis run.looked
  let run ← flashOutputStreams platform fuel { run with looked := run.looked + 1 }
  let run ← listenUntilConfirmed platform shiftBeyond config timeoutMs startTimestamp fuel run
    timeoutMs
  return (outputStreamsConfirmed run.session.streams, run)

/-! ## Until the agent answers -/

/-- `UXR_STATUS_NONE` (session_info.h). -/
def statusNone : UInt8 := 0xFF

/-- The inner loop of `wait_session_status` (session.c:759–763). -/
def listenForStatus (startTimestamp : Int) : Nat → Run → Int → Option Run
  | 0, _, _ => none
  | fuel + 1, run, remainingTime => do
    let (_, run) ← listenMessage platform shiftBeyond config fuel run remainingTime
    let remainingTime := platform.minSessionConnectionInterval -
      toInt (platform.millis run.looked - startTimestamp)
    let run := { run with looked := run.looked + 1 }
    if remainingTime > 0 ∧ run.session.info.lastRequestedStatus = statusNone then
      listenForStatus startTimestamp fuel run remainingTime
    else
      return run

/-- The loop of `wait_session_status` (session.c:752–764), for the attempts that are left. -/
def attemptStatus (fuel : Nat) (message : List UInt8) : Nat → Run → Option Run
  | 0, run => some run
  | attempts + 1, run =>
    if run.session.info.lastRequestedStatus = statusNone then do
      let startTimestamp := platform.millis run.looked
      let run ← listenForStatus platform shiftBeyond config startTimestamp fuel
        { run with session := run.session.sendMessage message, looked := run.looked + 1 }
        platform.minSessionConnectionInterval
      attemptStatus fuel message attempts run
    else
      some run

/-- `wait_session_status` (session.c:738–767). -/
def waitSessionStatus (fuel : Nat) (run : Run) (message : List UInt8) (attempts : Nat) :
    Option (Bool × Run) :=
  let session := run.session
  let session := { session with info := { session.info with lastRequestedStatus := statusNone } }
  if attempts = 0 then
    some (true, { run with session := session.sendMessage message })
  else do
    let run ← attemptStatus platform shiftBeyond config fuel message attempts { run with session }
    return (run.session.info.lastRequestedStatus ≠ statusNone, run)

/-- `uxr_delete_session_retries` (session.c:263–279). -/
def deleteSessionRetries (fuel : Nat) (run : Run) (retries : Nat) : Option (Bool × Run) := do
  let session := run.session
  let message := deleteSessionMessage session.info
  let session := { session with info := { session.info with lastRequestId := requestLogout } }
  let (received, run) ←
    waitSessionStatus platform shiftBeyond config fuel { run with session } message retries
  return (received && statusOk = run.session.info.lastRequestedStatus, run)

end

end XrceClient
