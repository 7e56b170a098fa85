import XrceClient.Session.Calls
import XrceClient.Session.PackedMessages

/-!
# Sessions step by step

Whatever the user calls, a session takes a few kinds of steps: it sends a message of its own, it
hands over what is buffered in a stream, which the transport may refuse, it has room made and
filled for a submessage, or it reads a message.

- `SilentStep`: the steps but the last one. `SessionRun`: such steps, and the messages that are read
  in between.
- `CallStep`: a call of the user that comes to its end.
- `CallStep.passes`: every call is made of these steps, and the messages that it reads are those
  that `recv_msg` delivered, in order.
-/

namespace XrceClient

open ByteMemory OutputReliableStream

section

variable [MicroCdr]

/-! ## Steps -/

/-- A turn of the loop over a reliable stream whose message is sent (session.c:630–633). -/
def sendNextMessage (session : Session) (i : UInt8) : Session :=
  let (_, stream, next) := prepareNextReliableBufferToSend (session.streams.outputReliable i)
  let (message, stream) := stampedMessage session.info i stream next
  { session.sendMessage message with streams := session.streams.setOutputReliable i stream }

/-- A turn of the loop over a reliable stream whose message is refused (session.c:630–637). -/
def refuseNextMessage (session : Session) (i : UInt8) : Session :=
  let (_, stream, next) := prepareNextReliableBufferToSend (session.streams.outputReliable i)
  let (message, stream) := stampedMessage session.info i stream next
  { session.sendMessage message with
    streams := session.streams.setOutputReliable i (cancelReliableBufferToSend stream next.seqNum) }

/-- A step of a session in which no message is read. -/
inductive SilentStep : Session → Session → Prop
  | post (session : Session) (message : List UInt8) :
      SilentStep session (session.sendMessage message)
  | request (session : Session) (lastRequestId : UInt16) (lastRequestedStatus : UInt8) :
      SilentStep session
        { session with info := { session.info with lastRequestId, lastRequestedStatus } }
  | bestEffort (session : Session) (i : UInt8) :
      SilentStep session (flashBestEffortStream session i)
  | send (session : Session) (i : UInt8)
      (hready : (prepareNextReliableBufferToSend (session.streams.outputReliable i)).1 = true) :
      SilentStep session (sendNextMessage session i)
  | refuse (session : Session) (i : UInt8)
      (hready : (prepareNextReliableBufferToSend (session.streams.outputReliable i)).1 = true) :
      SilentStep session (refuseNextMessage session i)
  | heartbeat (session : Session) (i : UInt8) (nextHeartbeatTimestamp : Int)
      (nextHeartbeatTries : UInt8) :
      SilentStep session
        { session with
          streams := session.streams.setOutputReliable i
            { session.streams.outputReliable i with nextHeartbeatTimestamp, nextHeartbeatTries } }
  | writeBestEffort (session : Session) (outputBestEffort : UInt8 → OutputBestEffortStream) :
      SilentStep session { session with streams := { session.streams with outputBestEffort } }
  | write (session : Session) (streamId : StreamId) (id mode : UInt8) (payload : List UInt8)
      {streams streams' : StreamStorage} {ub ub' : UcdrBuffer}
      (htype : streamId.type = .reliableStream)
      (hgranted : bufferSubmessage session.streams streamId payload.length id mode =
        some (streams, ub))
      (hwritten : Puts (streamDevice streamId) payload streams ub streams' ub') :
      SilentStep session { session with streams := streams' }

/-- A message that was read, with the session before and behind. -/
structure MessageRead where
  before : Session
  message : Datagram
  after : Session

/-- Steps of a session, and the messages that are read in them. -/
inductive SessionRun (shiftBeyond : Nat → UInt16) (config : ReadConfig) :
    Session → List MessageRead → Session → Prop
  | refl (session : Session) : SessionRun shiftBeyond config session [] session
  | silent {session session₁ session' : Session} {reads : List MessageRead}
      (hstep : SilentStep session session₁)
      (hrest : SessionRun shiftBeyond config session₁ reads session') :
      SessionRun shiftBeyond config session reads session'
  | read {session session₁ session' : Session} {reads : List MessageRead} {fuel : Nat}
      {msg : Datagram} (hread : readMessage shiftBeyond config fuel session msg = some session₁)
      (hrest : SessionRun shiftBeyond config session₁ reads session') :
      SessionRun shiftBeyond config session (⟨session, msg, session₁⟩ :: reads) session'

/-! ## Calls -/

variable {ω : Type}

/-- A call of the user that comes to its end: room is made for a submessage in a reliable stream and
filled, or the session is run. What is written to a best-effort stream may be anything. -/
inductive CallStep (world : World ω) (shiftBeyond : Nat → UInt16) (config : ReadConfig) :
    WaitingSession ω → WaitingSession ω → Prop
  | writeBestEffort {waiting : WaitingSession ω}
      (outputBestEffort : UInt8 → OutputBestEffortStream) :
      CallStep world shiftBeyond config waiting
        { waiting with
          session := { waiting.session with
            streams := { waiting.session.streams with outputBestEffort } } }
  | write {waiting : WaitingSession ω} (streamId : StreamId) (id mode : UInt8)
      (payload : List UInt8) {streams streams' : StreamStorage} {ub ub' : UcdrBuffer}
      (htype : streamId.type = .reliableStream)
      (hgranted : bufferSubmessage waiting.session.streams streamId payload.length id mode =
        some (streams, ub))
      (hwritten : Puts (streamDevice streamId) payload streams ub streams' ub') :
      CallStep world shiftBeyond config waiting { waiting with session.streams := streams' }
  | flash {waiting waiting' : WaitingSession ω} {fuel : Nat}
      (hcall : waiting.flash world fuel = some waiting') :
      CallStep world shiftBeyond config waiting waiting'
  | time {waiting waiting' : WaitingSession ω} {fuel : Nat} {timeoutMs : Int} {result : Bool}
      (hcall : runSessionTime world shiftBeyond config fuel waiting timeoutMs =
        (some result, waiting')) : CallStep world shiftBeyond config waiting waiting'
  | timeout {waiting waiting' : WaitingSession ω} {fuel : Nat} {timeoutMs : Int} {result : Bool}
      (hcall : runSessionTimeout world shiftBeyond config fuel waiting timeoutMs =
        (some result, waiting')) : CallStep world shiftBeyond config waiting waiting'
  | untilData {waiting waiting' : WaitingSession ω} {fuel : Nat} {timeoutMs : Int} {result : Bool}
      (hcall : runSessionUntilData world shiftBeyond config fuel waiting timeoutMs =
        (some result, waiting')) : CallStep world shiftBeyond config waiting waiting'
  | untilTimeout {waiting waiting' : WaitingSession ω} {fuel : Nat} {timeoutMs : Int}
      {result : Bool}
      (hcall : runSessionUntilTimeout world shiftBeyond config fuel waiting timeoutMs =
        (some result, waiting')) : CallStep world shiftBeyond config waiting waiting'
  | untilConfirmDelivery {waiting waiting' : WaitingSession ω} {fuel : Nat} {timeoutMs : Int}
      {result : Bool}
      (hcall : runSessionUntilConfirmDeliveryIn world shiftBeyond config fuel waiting timeoutMs =
        (some result, waiting')) : CallStep world shiftBeyond config waiting waiting'
  | untilAllStatus {waiting waiting' : WaitingSession ω} {fuel : Nat} {timeoutMs : Int}
      {requestList : List UInt16} {result : Bool × List UInt8}
      (hcall : runSessionUntilAllStatus world shiftBeyond config fuel waiting timeoutMs requestList =
        (some result, waiting')) : CallStep world shiftBeyond config waiting waiting'
  | untilOneStatus {waiting waiting' : WaitingSession ω} {fuel : Nat} {timeoutMs : Int}
      {requestList : List UInt16} {result : Bool × List UInt8}
      (hcall : runSessionUntilOneStatus world shiftBeyond config fuel waiting timeoutMs requestList =
        (some result, waiting')) : CallStep world shiftBeyond config waiting waiting'
  | sync {waiting waiting' : WaitingSession ω} {fuel : Nat} {timeout : Int} {result : Bool}
      (hcall : syncSession world shiftBeyond config fuel waiting timeout =
        (some result, waiting')) : CallStep world shiftBeyond config waiting waiting'
  | ping {waiting waiting' : WaitingSession ω} {fuel : Nat} {timeoutMs : Int} {attempts : UInt8}
      {result : Bool}
      (hcall : pingAgentSession world shiftBeyond config fuel waiting timeoutMs attempts =
        (some result, waiting')) : CallStep world shiftBeyond config waiting waiting'
  | logout {waiting waiting' : WaitingSession ω} {fuel retries : Nat} {result : Bool}
      (hcall : deleteSessionRetriesIn world shiftBeyond config fuel waiting retries =
        (some result, waiting')) : CallStep world shiftBeyond config waiting waiting'

/-- The messages that `recv_msg` delivered in some waits. -/
def deliveredIn (world : World ω) (waits : List (ω × Int)) : List Datagram :=
  waits.filterMap fun wait => (world.recvMsg wait.1 wait.2).1

/-- From one state to the other the session took its steps, and read what `recv_msg` delivered. -/
def Passes (world : World ω) (shiftBeyond : Nat → UInt16) (config : ReadConfig)
    (waiting waiting' : WaitingSession ω) : Prop :=
  ∃ reads waits, waiting'.waits = waiting.waits ++ waits ∧
    reads.map MessageRead.message = deliveredIn world waits ∧
    SessionRun shiftBeyond config waiting.session reads waiting'.session

end

section

variable [MicroCdr] {shiftBeyond : Nat → UInt16} {config : ReadConfig}

theorem SessionRun.trans {session session' session'' : Session} {reads reads' : List MessageRead}
    (h : SessionRun shiftBeyond config session reads session')
    (h' : SessionRun shiftBeyond config session' reads' session'') :
    SessionRun shiftBeyond config session (reads ++ reads') session'' := by
  induction h with
  | refl => exact h'
  | silent hstep _ ih => exact .silent hstep (ih h')
  | read hread _ ih => exact .read hread (ih h')

theorem SilentStep.run {session session' : Session} (h : SilentStep session session') :
    SessionRun shiftBeyond config session [] session' := .silent h (.refl _)

variable {ω : Type} {world : World ω} {waiting waiting' waiting'' : WaitingSession ω} {fuel : Nat}

namespace Passes

theorem of_run (hrun : SessionRun shiftBeyond config waiting.session [] waiting'.session)
    (hwaits : waiting'.waits = waiting.waits) :
    Passes world shiftBeyond config waiting waiting' :=
  ⟨[], [], by rw [hwaits, List.append_nil], rfl, hrun⟩

theorem of_eq (hsession : waiting'.session = waiting.session)
    (hwaits : waiting'.waits = waiting.waits) :
    Passes world shiftBeyond config waiting waiting' :=
  of_run (hsession ▸ .refl _) hwaits

theorem refl (waiting : WaitingSession ω) : Passes world shiftBeyond config waiting waiting :=
  of_eq rfl rfl

theorem trans (h : Passes world shiftBeyond config waiting waiting')
    (h' : Passes world shiftBeyond config waiting' waiting'') :
    Passes world shiftBeyond config waiting waiting'' := by
  obtain ⟨reads, waits, hwaits, hreads, hrun⟩ := h
  obtain ⟨reads', waits', hwaits', hreads', hrun'⟩ := h'
  refine ⟨reads ++ reads', waits ++ waits', ?_, ?_, hrun.trans hrun'⟩
  · rw [hwaits', hwaits, List.append_assoc]
  · rw [List.map_append, hreads, hreads', deliveredIn, deliveredIn, deliveredIn,
      List.filterMap_append]

end Passes

omit [MicroCdr] in
/-- What comes after a call comes to its end only if the call did. -/
theorem andThen_eq_some {α β : Type} {result : Option α × WaitingSession ω}
    {next : α → WaitingSession ω → Option β × WaitingSession ω} {b : β}
    (h : andThen result next = (some b, waiting')) :
    ∃ a waiting₁, result = (some a, waiting₁) ∧ next a waiting₁ = (some b, waiting') := by
  obtain ⟨_ | a, waiting₁⟩ := result
  · cases h
  · exact ⟨a, waiting₁, rfl, h⟩

omit [MicroCdr] in
/-- The result of a call whose answer is translated. -/
theorem map_eq_some {α β : Type} {result : Option α × WaitingSession ω} {f : α → β} {b : β}
    (h : (result.1.map f, result.2) = (some b, waiting')) :
    ∃ a, result = (some a, waiting') := by
  obtain ⟨_ | a, waiting₁⟩ := result
  · cases h
  · cases h
    exact ⟨a, rfl⟩

/-! ## Flushing -/

theorem flashReliableStream_run {platform : Platform} {i : UInt8} {run run' : Run}
    (h : flashReliableStream platform i fuel run = some run') :
    SessionRun shiftBeyond config run.session [] run'.session := by
  -- by induction on the turns of the loop
  induction fuel generalizing run with
  | zero => cases h
  | succ fuel ih =>
    rw [flashReliableStream] at h
    dsimp only at h
    split at h
    · next hready =>
      split at h
      · exact .silent (.send run.session i hready) (ih h)
      · cases h
        exact (SilentStep.refuse run.session i hready).run
    · cases h
      exact .refl _

theorem flashBestEffortStreams_run (session : Session) :
    SessionRun shiftBeyond config session [] (flashBestEffortStreams session) := by
  refine Loop.foldl_range_induction (fun (_ : Nat) (session' : Session) =>
    SessionRun shiftBeyond config session [] session') (.refl session) ?_
  intro k session' _ hrun
  exact hrun.trans (SilentStep.bestEffort session' (UInt8.ofNat k)).run

theorem passes_flash (h : waiting.flash world fuel = some waiting') :
    Passes world shiftBeyond config waiting waiting' := by
  obtain ⟨run, hflash, rfl⟩ := Option.map_eq_some_iff.mp h
  refine .of_run ?_ rfl
  refine Loop.foldlM_range_induction hflash (fun (_ : Nat) (run : Run) =>
    SessionRun shiftBeyond config waiting.session [] run.session) (flashBestEffortStreams_run _) ?_
  intro k run₁ run₂ _ hrun hturn
  exact hrun.trans (flashReliableStream_run hturn)

/-! ## Listening -/

omit [MicroCdr] in
/-- The heartbeat of a stream is of no account but for its timestamp and its tries. -/
theorem updateOutputStreamHeartbeatTimestamp_fields {platform : Platform}
    (stream : OutputReliableStream) (timestamp : Int) :
    ∃ nextHeartbeatTimestamp nextHeartbeatTries,
      (updateOutputStreamHeartbeatTimestamp platform stream timestamp).2 =
        { stream with nextHeartbeatTimestamp, nextHeartbeatTries } := by
  rw [updateOutputStreamHeartbeatTimestamp]
  split
  · dsimp only
    split
    · exact ⟨_, _, rfl⟩
    · split <;> exact ⟨_, _, rfl⟩
  · exact ⟨_, _, rfl⟩

theorem heartbeatStream_run {platform : Platform} (timestamp : Int) (state : Session × Int)
    (i : UInt8) :
    SessionRun shiftBeyond config state.1 [] (heartbeatStream platform timestamp state i).1 := by
  obtain ⟨session, earliest⟩ := state
  obtain ⟨timestamp', tries, hfields⟩ := @updateOutputStreamHeartbeatTimestamp_fields platform
    (session.streams.outputReliable i) timestamp
  have hupdate : SilentStep session
      { session with
        streams := session.streams.setOutputReliable i (updateOutputStreamHeartbeatTimestamp
          platform (session.streams.outputReliable i) timestamp).2 } := by
    rw [hfields]
    exact .heartbeat session i timestamp' tries
  rw [heartbeatStream]
  dsimp only
  split
  · exact .silent hupdate (SilentStep.post _ _).run
  · exact hupdate.run

theorem passes_beforeListening (poll : Int) : Passes world shiftBeyond config waiting
    (beforeListening world waiting poll).2 := by
  refine .of_run ?_ rfl
  show SessionRun shiftBeyond config waiting.session []
    (heartbeatStreams world.platform (world.millis waiting.world).1 waiting.session).1
  refine Loop.foldl_range_induction (fun (_ : Nat) (state : Session × Int) =>
    SessionRun shiftBeyond config waiting.session [] state.1) (.refl _) ?_
  intro k state _ hrun
  exact hrun.trans (heartbeatStream_run _ state (UInt8.ofNat k))

/-- Listening reads the message that is delivered. -/
theorem passes_listenMessageIn {pollMs : Int} {received : Bool}
    (h : listenMessageIn world shiftBeyond config fuel waiting pollMs = (some received, waiting')) :
    Passes world shiftBeyond config waiting waiting' := by
  rw [listenMessageIn] at h
  dsimp only at h
  split at h
  · next msg hmsg =>
    split at h
    · next session hread =>
      cases h
      refine ⟨[⟨waiting.session, msg, session⟩], [(waiting.world, pollMs)], rfl, ?_,
        .read hread (.refl _)⟩
      simp [deliveredIn, hmsg]
    · cases h
  · next hmsg =>
    cases h
    refine ⟨[], [(waiting.world, pollMs)], rfl, ?_, .refl _⟩
    simp [deliveredIn, hmsg]

theorem passes_listenMessageReliablyForIn {poll : Int} {received : Bool}
    (h : listenMessageReliablyForIn world shiftBeyond config fuel waiting poll =
      (some received, waiting')) : Passes world shiftBeyond config waiting waiting' := by
  induction fuel generalizing waiting poll with
  | zero => cases h
  | succ fuel ih =>
    rw [listenMessageReliablyForIn] at h
    obtain ⟨received', waiting₁, hlisten, h⟩ := andThen_eq_some h
    have hbefore := (@passes_beforeListening _ shiftBeyond config ω world waiting poll).trans
      (passes_listenMessageIn hlisten)
    dsimp only at h
    split at h
    · cases h
      exact hbefore
    · split at h
      · exact hbefore.trans (ih h)
      · cases h
        exact hbefore

theorem passes_listenMessageReliablyIn {pollMs : Int} {received : Bool}
    (h : listenMessageReliablyIn world shiftBeyond config fuel waiting pollMs =
      (some received, waiting')) : Passes world shiftBeyond config waiting waiting' :=
  passes_listenMessageReliablyForIn h

theorem passes_listenUntil {asks : Int → Int} {answered : WaitingSession ω → Bool}
    {timeoutMs startTimestamp remainingTime : Int}
    (h : listenUntil world shiftBeyond config asks answered timeoutMs startTimestamp fuel waiting
      remainingTime = (some (), waiting')) : Passes world shiftBeyond config waiting waiting' := by
  induction fuel generalizing waiting remainingTime with
  | zero => cases h
  | succ fuel ih =>
    rw [listenUntil] at h
    obtain ⟨received, waiting₁, hlisten, h⟩ := andThen_eq_some h
    have hlistened := passes_listenMessageReliablyIn hlisten
    have hlook : Passes world shiftBeyond config waiting₁ (waiting₁.look world).2 := .of_eq rfl rfl
    dsimp only at h
    split at h
    · exact (hlistened.trans hlook).trans (ih h)
    · cases h
      exact hlistened.trans hlook

theorem passes_listenUntilPong {timeoutMs startTimestamp remainingTime : Int}
    (h : listenUntilPong world shiftBeyond config timeoutMs startTimestamp fuel waiting
      remainingTime = (some (), waiting')) : Passes world shiftBeyond config waiting waiting' := by
  induction fuel generalizing waiting remainingTime with
  | zero => cases h
  | succ fuel ih =>
    rw [listenUntilPong] at h
    obtain ⟨received, waiting₁, hlisten, h⟩ := andThen_eq_some h
    have hlistened := passes_listenMessageReliablyIn hlisten
    have hlook : Passes world shiftBeyond config waiting₁ (waiting₁.look world).2 := .of_eq rfl rfl
    dsimp only at h
    split at h
    · cases h
      exact hlistened
    · split at h
      · exact (hlistened.trans hlook).trans (ih h)
      · cases h
        exact hlistened.trans hlook

theorem passes_listenUntilData {timeoutMs startTimestamp remainingTime : Int}
    (h : listenUntilData world shiftBeyond config timeoutMs startTimestamp fuel waiting
      remainingTime = (some (), waiting')) : Passes world shiftBeyond config waiting waiting' := by
  induction fuel generalizing waiting remainingTime with
  | zero => cases h
  | succ fuel ih =>
    rw [listenUntilData] at h
    obtain ⟨received, waiting₁, hlisten, h⟩ := andThen_eq_some h
    have hlistened := passes_listenMessageReliablyIn hlisten
    have hlook : Passes world shiftBeyond config waiting₁ (waiting₁.look world).2 := .of_eq rfl rfl
    dsimp only at h
    split at h
    · cases h
      exact hlistened
    · split at h
      · exact (hlistened.trans hlook).trans (ih h)
      · cases h
        exact hlistened.trans hlook

theorem passes_listenUntilConfirmedIn {timeoutMs startTimestamp remainingTime : Int}
    (h : listenUntilConfirmedIn world shiftBeyond config timeoutMs startTimestamp fuel waiting
      remainingTime = (some (), waiting')) : Passes world shiftBeyond config waiting waiting' := by
  induction fuel generalizing waiting remainingTime with
  | zero => cases h
  | succ fuel ih =>
    rw [listenUntilConfirmedIn] at h
    split at h
    · obtain ⟨received, waiting₁, hlisten, h⟩ := andThen_eq_some h
      have hlook : Passes world shiftBeyond config waiting₁ (waiting₁.look world).2 :=
        .of_eq rfl rfl
      exact ((passes_listenMessageReliablyIn hlisten).trans hlook).trans (ih h)
    · cases h
      exact .refl _

theorem passes_listenUntilSilent {timeoutMs : Int}
    (h : listenUntilSilent world shiftBeyond config timeoutMs fuel waiting =
      (some (), waiting')) : Passes world shiftBeyond config waiting waiting' := by
  induction fuel generalizing waiting with
  | zero => cases h
  | succ fuel ih =>
    rw [listenUntilSilent] at h
    obtain ⟨received, waiting₁, hlisten, h⟩ := andThen_eq_some h
    have hlistened := passes_listenMessageReliablyIn hlisten
    split at h
    · exact hlistened.trans (ih h)
    · cases h
      exact hlistened

theorem passes_listenForStatusIn {startTimestamp remainingTime : Int}
    (h : listenForStatusIn world shiftBeyond config startTimestamp fuel waiting remainingTime =
      (some (), waiting')) : Passes world shiftBeyond config waiting waiting' := by
  induction fuel generalizing waiting remainingTime with
  | zero => cases h
  | succ fuel ih =>
    rw [listenForStatusIn] at h
    obtain ⟨received, waiting₁, hlisten, h⟩ := andThen_eq_some h
    have hlook : Passes world shiftBeyond config waiting₁ (waiting₁.look world).2 := .of_eq rfl rfl
    have hlistened := (passes_listenMessageIn hlisten).trans hlook
    dsimp only at h
    split at h
    · exact hlistened.trans (ih h)
    · cases h
      exact hlistened

theorem passes_attemptStatusIn {message : List UInt8} {attempts : Nat}
    (h : attemptStatusIn world shiftBeyond config fuel message attempts waiting =
      (some (), waiting')) : Passes world shiftBeyond config waiting waiting' := by
  induction attempts generalizing waiting with
  | zero =>
    cases h
    exact .refl _
  | succ attempts ih =>
    rw [attemptStatusIn] at h
    split at h
    · obtain ⟨_, waiting₁, hlisten, h⟩ := andThen_eq_some h
      have hsent : Passes world shiftBeyond config waiting
          (({ waiting with session := waiting.session.sendMessage message } :
            WaitingSession ω).look world).2 :=
        .of_run (SilentStep.post _ message).run rfl
      exact (hsent.trans (passes_listenForStatusIn hlisten)).trans (ih h)
    · cases h
      exact .refl _

theorem passes_waitSessionStatusIn {message : List UInt8} {attempts : Nat} {received : Bool}
    (h : waitSessionStatusIn world shiftBeyond config fuel waiting message attempts =
      (some received, waiting')) : Passes world shiftBeyond config waiting waiting' := by
  rw [waitSessionStatusIn] at h
  have hrequest : SilentStep waiting.session
      { waiting.session with info.lastRequestedStatus := statusNone } :=
    .request waiting.session waiting.session.info.lastRequestId statusNone
  dsimp only at h
  split at h
  · cases h
    exact .of_run (.silent hrequest (SilentStep.post _ message).run) rfl
  · obtain ⟨_, waiting₁, hattempt, h⟩ := andThen_eq_some h
    cases h
    have hreset : Passes world shiftBeyond config waiting
        { waiting with session.info.lastRequestedStatus := statusNone } :=
      .of_run hrequest.run rfl
    exact hreset.trans (passes_attemptStatusIn hattempt)

theorem passes_runSessionUntilPong {timeoutMs : Int} {pong : Bool}
    (h : runSessionUntilPong world shiftBeyond config fuel waiting timeoutMs =
      (some pong, waiting')) : Passes world shiftBeyond config waiting waiting' := by
  have hlook : Passes world shiftBeyond config waiting (waiting.look world).2 := .of_eq rfl rfl
  rw [runSessionUntilPong] at h
  dsimp only at h
  split at h
  · cases h
  · next waiting₁ hflash =>
    obtain ⟨_, hlisten⟩ := map_eq_some h
    have hflag : Passes world shiftBeyond config waiting₁
        { waiting₁ with app.onPongFlag := noPongStatus } := .of_eq rfl rfl
    exact ((hlook.trans (passes_flash hflash)).trans hflag).trans (passes_listenUntilPong hlisten)

theorem passes_pingAttempts {message : List UInt8} {timeoutMs : Int} {attempts : Nat}
    {pong : Bool} (h : pingAttempts world shiftBeyond config fuel message timeoutMs attempts
      waiting = (some pong, waiting')) : Passes world shiftBeyond config waiting waiting' := by
  induction attempts generalizing waiting with
  | zero =>
    cases h
    exact .refl _
  | succ attempts ih =>
    rw [pingAttempts] at h
    obtain ⟨pong', waiting₁, hpong, h⟩ := andThen_eq_some h
    have hsent : Passes world shiftBeyond config waiting
        { waiting with session := waiting.session.sendMessage message } :=
      .of_run (SilentStep.post _ message).run rfl
    have hattempt := hsent.trans (passes_runSessionUntilPong hpong)
    split at h
    · cases h
      exact hattempt
    · exact hattempt.trans (ih h)

theorem passes_runSessionUntilStatus {asks : Int → Int → Int}
    {confirmed : List (UInt16 × UInt8) → Bool} {timeoutMs : Int} {requestList : List UInt16}
    {statusList : List (UInt16 × UInt8)}
    (h : runSessionUntilStatus world shiftBeyond config asks confirmed fuel waiting timeoutMs
      requestList = (some statusList, waiting')) :
    Passes world shiftBeyond config waiting waiting' := by
  rw [runSessionUntilStatus] at h
  split at h
  · cases h
  · next waiting₁ hflash =>
    split at h
    · obtain ⟨hdone, rfl⟩ := Prod.mk.inj h
      obtain ⟨_, hdone', -⟩ := Option.map_eq_some_iff.mp hdone
      have hlisten := passes_listenUntil (Prod.ext hdone' rfl)
      have hregister : Passes world shiftBeyond config waiting₁
          (WaitingSession.look world { waiting₁ with
            app.statusList := requestList.map fun requestId => (requestId, statusNone) }).2 :=
        .of_eq rfl rfl
      exact (((passes_flash hflash).trans hregister).trans hlisten).trans (.of_eq rfl rfl)
    · cases h

theorem passes_syncSession {timeout : Int} {result : Bool}
    (h : syncSession world shiftBeyond config fuel waiting timeout = (some result, waiting')) :
    Passes world shiftBeyond config waiting waiting' := by
  rw [syncSession, runSessionUntilSync] at h
  obtain ⟨_, hlisten⟩ := map_eq_some h
  refine Passes.trans (.of_run ?_ ?_) (passes_listenUntil hlisten)
  · exact (SilentStep.post waiting.session _).run
  · rfl

theorem passes_deleteSessionRetriesIn {retries : Nat} {result : Bool}
    (h : deleteSessionRetriesIn world shiftBeyond config fuel waiting retries =
      (some result, waiting')) : Passes world shiftBeyond config waiting waiting' := by
  rw [deleteSessionRetriesIn] at h
  obtain ⟨received, waiting₁, hwait, h⟩ := andThen_eq_some h
  cases h
  have hrequest : Passes world shiftBeyond config waiting
      { waiting with session.info.lastRequestId := requestLogout } :=
    .of_run (SilentStep.request waiting.session requestLogout
      waiting.session.info.lastRequestedStatus).run rfl
  exact hrequest.trans (passes_waitSessionStatusIn hwait)

/-! ## Every call -/

/-- A call is made of the steps of the session, and reads what `recv_msg` delivers in it. -/
theorem CallStep.passes (h : CallStep world shiftBeyond config waiting waiting') :
    Passes world shiftBeyond config waiting waiting' := by
  have hlook : Passes world shiftBeyond config waiting (waiting.look world).2 := .of_eq rfl rfl
  cases h with
  | writeBestEffort outputBestEffort =>
    exact .of_run (SilentStep.writeBestEffort waiting.session outputBestEffort).run rfl
  | write streamId id mode payload htype hgranted hwritten =>
    exact .of_run (SilentStep.write _ streamId id mode payload htype hgranted hwritten).run rfl
  | flash hcall => exact passes_flash hcall
  | time hcall =>
    rw [runSessionTime] at hcall
    split at hcall
    · cases hcall
    · next waiting₁ hflash =>
      obtain ⟨_, hlisten⟩ := map_eq_some hcall
      exact (passes_flash hflash).trans (passes_listenUntilSilent hlisten)
  | timeout hcall =>
    rw [runSessionTimeout] at hcall
    dsimp only at hcall
    split at hcall
    · cases hcall
    · next waiting₁ hflash =>
      obtain ⟨_, hlisten⟩ := map_eq_some hcall
      exact (hlook.trans (passes_flash hflash)).trans (passes_listenUntil hlisten)
  | untilData hcall =>
    rw [runSessionUntilData] at hcall
    dsimp only at hcall
    split at hcall
    · cases hcall
    · next waiting₁ hflash =>
      obtain ⟨_, hlisten⟩ := map_eq_some hcall
      have hflag : Passes world shiftBeyond config waiting₁
          { waiting₁ with app.onDataFlag := false } := .of_eq rfl rfl
      exact ((hlook.trans (passes_flash hflash)).trans hflag).trans (passes_listenUntilData hlisten)
  | untilTimeout hcall =>
    rw [runSessionUntilTimeout] at hcall
    split at hcall
    · cases hcall
    · next waiting₁ hflash =>
      exact (passes_flash hflash).trans (passes_listenMessageReliablyIn hcall)
  | untilConfirmDelivery hcall =>
    rw [runSessionUntilConfirmDeliveryIn] at hcall
    dsimp only at hcall
    split at hcall
    · cases hcall
    · next waiting₁ hflash =>
      obtain ⟨_, hlisten⟩ := map_eq_some hcall
      exact (hlook.trans (passes_flash hflash)).trans (passes_listenUntilConfirmedIn hlisten)
  | @untilAllStatus _ fuel timeoutMs requestList result hcall =>
    have hstatus : ∃ statusList, runSessionUntilStatus world shiftBeyond config
        (fun _ remainingTime => remainingTime)
        (fun statusList => statusList.all fun entry => EntryConfirmed entry) fuel waiting timeoutMs
        requestList = (some statusList, waiting') := map_eq_some hcall
    obtain ⟨_, hstatus⟩ := hstatus
    exact passes_runSessionUntilStatus hstatus
  | @untilOneStatus _ fuel timeoutMs requestList result hcall =>
    have hstatus : ∃ statusList, runSessionUntilStatus world shiftBeyond config
        (fun timeoutMs _ => timeoutMs)
        (fun statusList => statusList.any fun entry => EntryConfirmed entry) fuel waiting timeoutMs
        requestList = (some statusList, waiting') := map_eq_some hcall
    obtain ⟨_, hstatus⟩ := hstatus
    exact passes_runSessionUntilStatus hstatus
  | sync hcall => exact passes_syncSession hcall
  | ping hcall =>
    rw [pingAgentSession] at hcall
    dsimp only at hcall
    split at hcall
    · exact passes_pingAttempts hcall
    · cases hcall
      exact .refl _
  | logout hcall => exact passes_deleteSessionRetriesIn hcall

/-- Calls, one after the other, are made of the steps of the session. -/
theorem passes_of_calls
    (h : Relation.ReflTransGen (CallStep world shiftBeyond config) waiting waiting') :
    Passes world shiftBeyond config waiting waiting' := by
  induction h with
  | refl => exact .refl waiting
  | tail _ hcall ih => exact ih.trans hcall.passes

end

end XrceClient
