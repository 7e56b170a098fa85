import XrceClient.Session.Waiting

/-!
# The calls of the user (`session.c`, `ping.c`)

The other calls that run a session, on any transport and any clock.

- `runSessionTime`, `runSessionTimeout`, `runSessionUntilData`, `runSessionUntilTimeout`: they
  flush the output streams and listen.
- `createSessionRetriesIn`, `deleteSessionRetriesIn`: login and logout.
- `pingAgentSession`: a ping, within a session.

As in `Waiting`, a call that does not come to its end within its fuel has no result, but leaves the
state that it has come to.
-/

namespace XrceClient

open ByteMemory

/-! ## The streams -/

/-- `uxr_reset_output_best_effort_stream` (output_best_effort_stream.c:27–32). -/
def resetOutputBestEffortStream (stream : OutputBestEffortStream) : OutputBestEffortStream :=
  { stream with writer := stream.offset.toNat, lastSend := seqNumMax }

/-- `uxr_reset_input_best_effort_stream` (input_best_effort_stream.c:16–20). -/
def resetInputBestEffortStream (stream : InputBestEffortStream) : InputBestEffortStream :=
  { stream with lastHandled := seqNumMax }

/-- A loop of `uxr_reset_stream_storage` over the created streams of one kind. -/
def resetStreams {α : Type} (reset : α → α) (size : UInt8) (streams : UInt8 → α) : UInt8 → α :=
  (List.range size.toNat).foldl
    (fun streams i =>
      Function.update streams (UInt8.ofNat i) (reset (streams (UInt8.ofNat i)))) streams

/-- `uxr_reset_stream_storage` (stream_storage.c:20–42). -/
def resetStreamStorage (storage : StreamStorage) : StreamStorage :=
  { storage with
    outputBestEffort :=
      resetStreams resetOutputBestEffortStream storage.outputBestEffortSize storage.outputBestEffort
    inputBestEffort :=
      resetStreams resetInputBestEffortStream storage.inputBestEffortSize storage.inputBestEffort
    outputReliable :=
      resetStreams resetOutputReliableStream storage.outputReliableSize storage.outputReliable
    inputReliable :=
      resetStreams resetInputReliableStream storage.inputReliableSize storage.inputReliable }

/-! ## The message of a ping -/

/-- `DDS_XRCE_OBJECTID_AGENT` (xrce_types.h). -/
def objectIdAgent : List UInt8 := [0xFF, 0xFD]

/-- `INFO_ACTIVITY` (xrce_types.h). -/
def infoActivity : Nat := 2

/-- `GET_INFO_REQUEST_PING_ID` (ping.h). -/
def getInfoRequestPingId : UInt8 := 10

/-- `GET_INFO_MSG_SIZE` (ping.h). -/
def getInfoMsgSize : UInt16 := 8

/-- `UXR_PING_BUF` (ping.h). -/
def pingBuf : Nat := 16

section

variable [MicroCdr]

/-- `uxr_serialize_GET_INFO_Payload` (xrce_types.c:2281–2289). -/
def serializeGetInfoPayload {σ : Type} (dev : Device σ) (s : σ) (ub : UcdrBuffer)
    (input : BaseObjectRequest) (infoMask : Nat) : Bool × σ × UcdrBuffer :=
  let (ok₁, s, ub) := serializeBaseObjectRequest dev s ub input
  let (ok₂, s, ub) := ucdrSerialize dev s ub ub.endianness 4 infoMask
  (ok₁ && ok₂, s, ub)

/-- `serialize_get_info_message` (ping.c:117–136) in a buffer of the stack, for a session without
client key in its headers: whether there was room, and the message. -/
def serializeGetInfoMessage (sessionId : UInt8) : Bool × List UInt8 :=
  let (buffer, ub) := serializeMessageHeader Device.plain (fun _ => 0)
    (ucdrInitBuffer 0 pingBuf) sessionId 0 0 []
  let (ok₁, buffer, ub) :=
    bufferSubmessageHeader Device.plain buffer ub SubmessageId.getInfo.value getInfoMsgSize 0
  let (ok₂, buffer, ub) := serializeGetInfoPayload Device.plain buffer ub
    { requestId := [0, getInfoRequestPingId], objectId := objectIdAgent } infoActivity
  (ok₁ && ok₂, read buffer 0 (ub.iterator - ub.init))

end

/-! ## The calls -/

section

variable [MicroCdr] {ω : Type} (world : World ω) (shiftBeyond : Nat → UInt16) (config : ReadConfig)

/-- The loop of `uxr_run_session_time` (session.c:330–333), until nothing is received. -/
def listenUntilSilent (timeoutMs : Int) :
    Nat → WaitingSession ω → Option Unit × WaitingSession ω
  | 0, waiting => (none, waiting)
  | fuel + 1, waiting =>
    andThen (listenMessageReliablyIn world shiftBeyond config fuel waiting timeoutMs)
      fun received waiting =>
        if received then listenUntilSilent timeoutMs fuel waiting else (some (), waiting)

/-- `uxr_run_session_time` (session.c:321–339). -/
def runSessionTime (fuel : Nat) (waiting : WaitingSession ω) (timeoutMs : Int) :
    Option Bool × WaitingSession ω :=
  match waiting.flash world fuel with
  | none => (none, waiting)
  | some waiting =>
    let (done, waiting) := listenUntilSilent world shiftBeyond config timeoutMs fuel waiting
    (done.map fun _ => outputStreamsConfirmed waiting.session.streams, waiting)

/-- `uxr_run_session_timeout` (session.c:341–363). -/
def runSessionTimeout (fuel : Nat) (waiting : WaitingSession ω) (timeoutMs : Int) :
    Option Bool × WaitingSession ω :=
  let (startTimestamp, waiting) := waiting.look world
  match waiting.flash world fuel with
  | none => (none, waiting)
  | some waiting =>
    let (done, waiting) :=
      listenUntil world shiftBeyond config (fun remainingTime => remainingTime) (fun _ => false)
        timeoutMs startTimestamp fuel waiting timeoutMs
    (done.map fun _ => outputStreamsConfirmed waiting.session.streams, waiting)

/-- The loop of `uxr_run_session_until_data` (session.c:377–386), which does not look at the clock
when data has come. -/
def listenUntilData (timeoutMs startTimestamp : Int) :
    Nat → WaitingSession ω → Int → Option Unit × WaitingSession ω
  | 0, waiting, _ => (none, waiting)
  | fuel + 1, waiting, remainingTime =>
    andThen (listenMessageReliablyIn world shiftBeyond config fuel waiting remainingTime)
      fun _ waiting =>
        if waiting.app.onDataFlag then (some (), waiting)
        else
          let (timestamp, waiting) := waiting.look world
          let remainingTime := timeoutMs - toInt (timestamp - startTimestamp)
          if remainingTime > 0 then
            listenUntilData timeoutMs startTimestamp fuel waiting remainingTime
          else (some (), waiting)

/-- `uxr_run_session_until_data` (session.c:365–392). -/
def runSessionUntilData (fuel : Nat) (waiting : WaitingSession ω) (timeoutMs : Int) :
    Option Bool × WaitingSession ω :=
  let (startTimestamp, waiting) := waiting.look world
  match waiting.flash world fuel with
  | none => (none, waiting)
  | some waiting =>
    let waiting := { waiting with app.onDataFlag := false }
    let (done, waiting) :=
      listenUntilData world shiftBeyond config timeoutMs startTimestamp fuel waiting timeoutMs
    (done.map fun _ => waiting.app.onDataFlag, waiting)

/-- `uxr_run_session_until_timeout` (session.c:394–406). -/
def runSessionUntilTimeout (fuel : Nat) (waiting : WaitingSession ω) (timeoutMs : Int) :
    Option Bool × WaitingSession ω :=
  match waiting.flash world fuel with
  | none => (none, waiting)
  | some waiting => listenMessageReliablyIn world shiftBeyond config fuel waiting timeoutMs

/-! ### Login and logout -/

/-- The inner loop of `wait_session_status` (session.c:759–763). -/
def listenForStatusIn (startTimestamp : Int) :
    Nat → WaitingSession ω → Int → Option Unit × WaitingSession ω
  | 0, waiting, _ => (none, waiting)
  | fuel + 1, waiting, remainingTime =>
    andThen (listenMessageIn world shiftBeyond config fuel waiting remainingTime) fun _ waiting =>
      let (timestamp, waiting) := waiting.look world
      let remainingTime := world.platform.minSessionConnectionInterval -
        toInt (timestamp - startTimestamp)
      if remainingTime > 0 ∧ waiting.session.info.lastRequestedStatus = statusNone then
        listenForStatusIn startTimestamp fuel waiting remainingTime
      else (some (), waiting)

/-- The loop of `wait_session_status` (session.c:752–764), for the attempts that are left. -/
def attemptStatusIn (fuel : Nat) (message : List UInt8) :
    Nat → WaitingSession ω → Option Unit × WaitingSession ω
  | 0, waiting => (some (), waiting)
  | attempts + 1, waiting =>
    if waiting.session.info.lastRequestedStatus = statusNone then
      let waiting := { waiting with session := waiting.session.sendMessage message }
      let (startTimestamp, waiting) := waiting.look world
      andThen (listenForStatusIn world shiftBeyond config startTimestamp fuel waiting
          world.platform.minSessionConnectionInterval)
        fun _ waiting => attemptStatusIn fuel message attempts waiting
    else (some (), waiting)

/-- `wait_session_status` (session.c:738–767). -/
def waitSessionStatusIn (fuel : Nat) (waiting : WaitingSession ω) (message : List UInt8)
    (attempts : Nat) : Option Bool × WaitingSession ω :=
  let waiting := { waiting with session.info.lastRequestedStatus := statusNone }
  if attempts = 0 then
    (some true, { waiting with session := waiting.session.sendMessage message })
  else
    andThen (attemptStatusIn world shiftBeyond config fuel message attempts waiting)
      fun _ waiting => (some (waiting.session.info.lastRequestedStatus ≠ statusNone), waiting)

/-- `uxr_create_session_retries` (session.c:232–255), over a transport with the given MTU. -/
def createSessionRetriesIn (profile : BuildProfile) (mtu : UInt16) (fuel : Nat)
    (waiting : WaitingSession ω) (retries : Nat) : Option Bool × WaitingSession ω :=
  let waiting := { waiting with session.streams := resetStreamStorage waiting.session.streams }
  let message := createSessionMessage profile waiting.session.info
    (mtu - UInt16.ofNat internalReliableBufferOffset)
  let waiting := { waiting with session.info.lastRequestId := requestLogin }
  andThen (waitSessionStatusIn world shiftBeyond config fuel waiting message retries)
    fun received waiting =>
      let created : Bool := received && statusOk = waiting.session.info.lastRequestedStatus
      if created then
        (some created,
          { waiting with session.streams := resetStreamStorage waiting.session.streams })
      else (some created, waiting)

/-- `uxr_delete_session_retries` (session.c:263–279). -/
def deleteSessionRetriesIn (fuel : Nat) (waiting : WaitingSession ω) (retries : Nat) :
    Option Bool × WaitingSession ω :=
  let message := deleteSessionMessage waiting.session.info
  let waiting := { waiting with session.info.lastRequestId := requestLogout }
  andThen (waitSessionStatusIn world shiftBeyond config fuel waiting message retries)
    fun received waiting =>
      (some (received && statusOk = waiting.session.info.lastRequestedStatus), waiting)

/-! ### A ping -/

/-- The loop of `uxr_ping_agent_session` (ping.c:56–60), for the attempts that are left. -/
def pingAttempts (fuel : Nat) (message : List UInt8) (timeoutMs : Int) :
    Nat → WaitingSession ω → Option Bool × WaitingSession ω
  | 0, waiting => (some false, waiting)
  | attempts + 1, waiting =>
    let sent := world.platform.sendMsg waiting.session.sent.length
    let waiting := { waiting with session := waiting.session.sendMessage message }
    andThen (runSessionUntilPong world shiftBeyond config fuel waiting timeoutMs)
      fun pong waiting =>
        if sent && pong then (some true, waiting)
        else pingAttempts fuel message timeoutMs attempts waiting

/-- `uxr_ping_agent_session` (ping.c:41–65). -/
def pingAgentSession (fuel : Nat) (waiting : WaitingSession ω) (timeoutMs : Int)
    (attempts : UInt8) : Option Bool × WaitingSession ω :=
  let (serialized, message) := serializeGetInfoMessage waiting.session.info.id
  if serialized then
    pingAttempts world shiftBeyond config fuel message timeoutMs attempts.toNat waiting
  else (some false, waiting)

end

end XrceClient
