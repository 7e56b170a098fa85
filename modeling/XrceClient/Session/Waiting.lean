import XrceClient.Session.Application
import XrceClient.Session.ConfirmedDelivery
import XrceClient.Session.EntityCreation

/-!
# Waiting for the agent (`session.c`)

The calls that flush the output streams and listen until the agent has answered or the time is
over, on any transport and any clock.

- `World`: what a session runs on, with the states that it takes from call to call.
- `WaitingSession`: a session with its application, and a record of the calls of `recv_msg`.
- `runSessionUntilAllStatus`, `runSessionUntilOneStatus`, `syncSession`, `runSessionUntilPong`,
  `runSessionUntilConfirmDeliveryIn`: the calls of the user.
- `listenMessageReliablyIn_platform`: on a `Platform`, listening is that of `listenMessageReliably`.

A call that does not come to its end within its fuel has no result, but leaves the state that it
has come to.
-/

namespace XrceClient

open ByteMemory

/-- What a session runs on: the answers of `send_msg` and the configuration are those of the
platform, the others depend on the state of the world. -/
structure World (ω : Type) where
  platform : Platform
  recvMsg : ω → Int → Option Datagram × ω
  millis : ω → Int × ω
  nanos : ω → Int

/-- A session that waits, with what it tells the application. The waits are a record of the calls
of `recv_msg` and their timeouts, no part of the source's state. -/
structure WaitingSession (ω : Type) where
  session : Session
  app : Application
  world : ω
  waits : List (ω × Int)

variable {ω : Type}

/-- What comes after a call that came to its end. -/
def andThen {α β : Type} (result : Option α × WaitingSession ω)
    (next : α → WaitingSession ω → Option β × WaitingSession ω) :
    Option β × WaitingSession ω :=
  match result with
  | (some a, waiting) => next a waiting
  | (none, waiting) => (none, waiting)

section

variable [MicroCdr] (world : World ω) (shiftBeyond : Nat → UInt16) (config : ReadConfig)

/-- `uxr_millis`. -/
def WaitingSession.look (waiting : WaitingSession ω) : Int × WaitingSession ω :=
  ((world.millis waiting.world).1, { waiting with world := (world.millis waiting.world).2 })

/-- The application behind a message that has changed the session. -/
def Application.after (nanos : Int) (app : Application) (session session' : Session) :
    Application :=
  (session'.effects.drop session.effects.length).foldl (Application.take nanos) app

/-! ## Listening -/

/-- `listen_message` (session.c:669–686). -/
def listenMessageIn (fuel : Nat) (waiting : WaitingSession ω) (pollMs : Int) :
    Option Bool × WaitingSession ω :=
  let received := (world.recvMsg waiting.world pollMs).1
  let waiting :=
    { waiting with
      world := (world.recvMsg waiting.world pollMs).2
      waits := waiting.waits ++ [(waiting.world, pollMs)] }
  match received with
  | some msg =>
    match readMessage shiftBeyond config fuel waiting.session msg with
    | some session =>
      (some true,
        { waiting with
          session
          app := waiting.app.after (world.nanos waiting.world) waiting.session session })
    | none => (none, waiting)
  | none => (some false, waiting)

/-- What `listen_message_reliably` does before it listens (session.c:694–728): the heartbeats, and
the time until the next one. -/
def beforeListening (waiting : WaitingSession ω) (poll : Int) : Int × WaitingSession ω :=
  let (timestamp, waiting) := waiting.look world
  let (session, nextHeartbeatTimestamp) :=
    heartbeatStreams world.platform timestamp waiting.session
  (pollUntilHeartbeat nextHeartbeatTimestamp timestamp poll, { waiting with session })

/-- The loop of `listen_message_reliably` (session.c:694–733). -/
def listenMessageReliablyForIn : Nat → WaitingSession ω → Int → Option Bool × WaitingSession ω
  | 0, waiting, _ => (none, waiting)
  | fuel + 1, waiting, poll =>
    let (pollChosen, waiting) := beforeListening world waiting poll
    andThen (listenMessageIn world shiftBeyond config fuel waiting pollChosen)
      fun received waiting =>
        if received then (some true, waiting)
        else if poll - pollChosen > 0 then
          listenMessageReliablyForIn fuel waiting (poll - pollChosen)
        else (some false, waiting)

/-- `listen_message_reliably` (session.c:688–736). -/
def listenMessageReliablyIn (fuel : Nat) (waiting : WaitingSession ω) (pollMs : Int) :
    Option Bool × WaitingSession ω :=
  listenMessageReliablyForIn world shiftBeyond config fuel waiting
    (if pollMs ≥ 0 then pollMs else int32Max)

/-! ## Until the time is over -/

/-- The loop of `uxr_run_session_until_all_status`, `uxr_run_session_until_one_status` and
`run_session_until_sync`: it listens, for a time that depends on the remaining one, until the
answer is there or no time remains. -/
def listenUntil (asks : Int → Int) (answered : WaitingSession ω → Bool)
    (timeoutMs startTimestamp : Int) :
    Nat → WaitingSession ω → Int → Option Unit × WaitingSession ω
  | 0, waiting, _ => (none, waiting)
  | fuel + 1, waiting, remainingTime =>
    andThen (listenMessageReliablyIn world shiftBeyond config fuel waiting (asks remainingTime))
      fun _ waiting =>
        let (timestamp, waiting) := waiting.look world
        let remainingTime := timeoutMs - toInt (timestamp - startTimestamp)
        if remainingTime > 0 ∧ ¬ answered waiting then
          listenUntil asks answered timeoutMs startTimestamp fuel waiting remainingTime
        else (some (), waiting)

/-- `uxr_flash_output_streams` (session.c:597–641). -/
def WaitingSession.flash (fuel : Nat) (waiting : WaitingSession ω) : Option (WaitingSession ω) :=
  (flashOutputStreams world.platform fuel waiting.session.start).map fun run =>
    { waiting with session := run.session }

/-! ### Statuses -/

/-- `UXR_STATUS_OK_MATCHED` (session_info.h). -/
def statusOkMatched : UInt8 := 1

/-- An entry does not keep the caller waiting. -/
def EntryConfirmed (entry : UInt16 × UInt8) : Prop :=
  entry.2 ≠ statusNone ∨ entry.1 = invalidRequestId

/-- A status is `UXR_STATUS_OK` or `UXR_STATUS_OK_MATCHED`. -/
def StatusGood (status : UInt8) : Prop := status = statusOk ∨ status = statusOkMatched

instance (entry : UInt16 × UInt8) : Decidable (EntryConfirmed entry) :=
  inferInstanceAs (Decidable (_ ∨ _))

instance (status : UInt8) : Decidable (StatusGood status) :=
  inferInstanceAs (Decidable (_ ∨ _))

/-- The shape of `uxr_run_session_until_all_status` and `uxr_run_session_until_one_status`: the
status list is filled and registered, and taken back in the end. The index of the loop that fills
it is an `unsigned`, which never gets to the end of a longer list. -/
def runSessionUntilStatus (asks : Int → Int → Int) (confirmed : List (UInt16 × UInt8) → Bool)
    (fuel : Nat) (waiting : WaitingSession ω) (timeoutMs : Int) (requestList : List UInt16) :
    Option (List (UInt16 × UInt8)) × WaitingSession ω :=
  match waiting.flash world fuel with
  | none => (none, waiting)
  | some waiting =>
    if requestList.length < 2 ^ 32 then
      let waiting :=
        { waiting with
          app.statusList := requestList.map fun requestId => (requestId, statusNone) }
      let (startTimestamp, waiting) := waiting.look world
      let (done, waiting) :=
        listenUntil world shiftBeyond config (asks timeoutMs)
          (fun waiting => confirmed waiting.app.statusList) timeoutMs startTimestamp fuel waiting
          timeoutMs
      (done.map fun _ => waiting.app.statusList, { waiting with app.statusList := [] })
    else (none, waiting)

/-- `uxr_run_session_until_all_status` (session.c:432–479), with the status list. -/
def runSessionUntilAllStatus (fuel : Nat) (waiting : WaitingSession ω) (timeoutMs : Int)
    (requestList : List UInt16) : Option (Bool × List UInt8) × WaitingSession ω :=
  let (statusList, waiting) :=
    runSessionUntilStatus world shiftBeyond config (fun _ remainingTime => remainingTime)
      (fun statusList => statusList.all fun entry => EntryConfirmed entry) fuel waiting timeoutMs
      requestList
  (statusList.map fun statusList =>
    (statusList.all fun entry => StatusGood entry.2, statusList.map Prod.snd), waiting)

/-- `uxr_run_session_until_one_status` (session.c:481–525), with the status list. -/
def runSessionUntilOneStatus (fuel : Nat) (waiting : WaitingSession ω) (timeoutMs : Int)
    (requestList : List UInt16) : Option (Bool × List UInt8) × WaitingSession ω :=
  let (statusList, waiting) :=
    runSessionUntilStatus world shiftBeyond config (fun timeoutMs _ => timeoutMs)
      (fun statusList => statusList.any fun entry => EntryConfirmed entry) fuel waiting timeoutMs
      requestList
  (statusList.map fun statusList =>
    (statusList.any fun entry => EntryConfirmed entry, statusList.map Prod.snd), waiting)

/-! ### The clock of the agent -/

/-- A time in nanoseconds, as `uxr_sync_session` puts it into a TIMESTAMP (session.c:541–542). -/
def timeOfNanos (nanos : Int) : Time where
  seconds := ((nanos.tdiv 1000000000).emod (2 ^ 32)).toNat
  nanoseconds := ((nanos.tmod 1000000000).emod (2 ^ 32)).toNat

/-- `run_session_until_sync` (session.c:1261–1276). -/
def runSessionUntilSync (fuel : Nat) (waiting : WaitingSession ω) (timeout : Int) :
    Option Bool × WaitingSession ω :=
  let (startTimestamp, waiting) := waiting.look world
  let waiting := { waiting with app.synchronized := false }
  let (done, waiting) :=
    listenUntil world shiftBeyond config (fun remainingTime => remainingTime)
      (fun waiting => waiting.app.synchronized) timeout startTimestamp fuel waiting timeout
  (done.map fun _ => waiting.app.synchronized, waiting)

/-- `uxr_sync_session` (session.c:527–551). -/
def syncSession (fuel : Nat) (waiting : WaitingSession ω) (timeout : Int) :
    Option Bool × WaitingSession ω :=
  let message := timestampMessage waiting.session.info (timeOfNanos (world.nanos waiting.world))
  runSessionUntilSync world shiftBeyond config fuel
    { waiting with session := waiting.session.sendMessage message } timeout

/-! ### A pong -/

/-- The loop of `uxr_run_session_until_pong` (session.c:653–662), which does not look at the clock
when the pong has come. -/
def listenUntilPong (timeoutMs startTimestamp : Int) :
    Nat → WaitingSession ω → Int → Option Unit × WaitingSession ω
  | 0, waiting, _ => (none, waiting)
  | fuel + 1, waiting, remainingTime =>
    andThen (listenMessageReliablyIn world shiftBeyond config fuel waiting remainingTime)
      fun _ waiting =>
        if noPongStatus ≠ waiting.app.onPongFlag then (some (), waiting)
        else
          let (timestamp, waiting) := waiting.look world
          let remainingTime := timeoutMs - toInt (timestamp - startTimestamp)
          if remainingTime > 0 then
            listenUntilPong timeoutMs startTimestamp fuel waiting remainingTime
          else (some (), waiting)

/-- `uxr_run_session_until_pong` (session.c:643–667). -/
def runSessionUntilPong (fuel : Nat) (waiting : WaitingSession ω) (timeoutMs : Int) :
    Option Bool × WaitingSession ω :=
  let (startTimestamp, waiting) := waiting.look world
  match waiting.flash world fuel with
  | none => (none, waiting)
  | some waiting =>
    let waiting := { waiting with app.onPongFlag := noPongStatus }
    let (done, waiting) :=
      listenUntilPong world shiftBeyond config timeoutMs startTimestamp fuel waiting
        timeoutMs
    (done.map fun _ => pongInSessionStatus = waiting.app.onPongFlag, waiting)

/-! ### A confirmation -/

/-- The loop of `uxr_run_session_until_confirm_delivery` (session.c:419–424). -/
def listenUntilConfirmedIn (timeoutMs startTimestamp : Int) :
    Nat → WaitingSession ω → Int → Option Unit × WaitingSession ω
  | 0, waiting, _ => (none, waiting)
  | fuel + 1, waiting, remainingTime =>
    if remainingTime ≥ 0 ∧ ¬ outputStreamsConfirmed waiting.session.streams then
      andThen (listenMessageReliablyIn world shiftBeyond config fuel waiting remainingTime)
        fun _ waiting =>
          let (timestamp, waiting) := waiting.look world
          listenUntilConfirmedIn timeoutMs startTimestamp fuel waiting
            (timeoutMs - toInt (timestamp - startTimestamp))
    else (some (), waiting)

/-- `uxr_run_session_until_confirm_delivery` (session.c:408–430). -/
def runSessionUntilConfirmDeliveryIn (fuel : Nat) (waiting : WaitingSession ω) (timeoutMs : Int) :
    Option Bool × WaitingSession ω :=
  let (startTimestamp, waiting) := waiting.look world
  match waiting.flash world fuel with
  | none => (none, waiting)
  | some waiting =>
    let (done, waiting) :=
      listenUntilConfirmedIn world shiftBeyond config timeoutMs startTimestamp fuel waiting
        timeoutMs
    (done.map fun _ => outputStreamsConfirmed waiting.session.streams, waiting)

end

/-! ## What happens meanwhile -/

/-- A STATUS, or the status of a DATA, for the status list. -/
def takeStatus (statusList : List (UInt16 × UInt8)) : Effect → List (UInt16 × UInt8)
  | .status _ requestId status => setStatus requestId status statusList
  | _ => statusList

/-- Meanwhile the effects took place, and the status list is what they make of it. -/
structure Meanwhile (waiting waiting' : WaitingSession ω) (effects : List Effect) : Prop where
  record : waiting'.session.effects = waiting.session.effects ++ effects
  statusList : waiting'.app.statusList = effects.foldl takeStatus waiting.app.statusList

namespace Meanwhile

variable {waiting waiting' waiting'' : WaitingSession ω} {effects effects' : List Effect}

/-- Nothing happened to the record and to the status list. -/
theorem of_eq (hrecord : waiting'.session.effects = waiting.session.effects)
    (hstatusList : waiting'.app.statusList = waiting.app.statusList) :
    Meanwhile waiting waiting' [] :=
  ⟨by rw [hrecord, List.append_nil], hstatusList⟩

theorem trans (h : Meanwhile waiting waiting' effects) (h' : Meanwhile waiting' waiting'' effects') :
    Meanwhile waiting waiting'' (effects ++ effects') where
  record := by rw [h'.record, h.record, List.append_assoc]
  statusList := by rw [h'.statusList, h.statusList, List.foldl_append]

end Meanwhile

section

variable {waiting : WaitingSession ω}

variable [MicroCdr] [LawfulMicroCdr] {world : World ω} {shiftBeyond : Nat → UInt16}
  {config : ReadConfig} {fuel : Nat}

end

/-! ## On a platform -/

/-- The world of a platform, whose states are how often the session listened and looked at the
clock. -/
def Platform.world (platform : Platform) (nanos : Nat × Nat → Int) : World (Nat × Nat) where
  platform
  recvMsg counts pollMs := (platform.recvMsg counts.1 pollMs, (counts.1 + 1, counts.2))
  millis counts := (platform.millis counts.2, (counts.1, counts.2 + 1))
  nanos

/-- A run and a session that waits are in the same state. -/
structure Run.Same (run : Run) (waiting : WaitingSession (Nat × Nat)) : Prop where
  session : waiting.session = run.session
  world : waiting.world = (run.listened, run.looked)

/-- The results are the same, and so are the states if there is a result. -/
def SameResult {α : Type} (result : Option (α × Run))
    (result' : Option α × WaitingSession (Nat × Nat)) : Prop :=
  match result with
  | none => result'.1 = none
  | some (a, run) => result'.1 = some a ∧ run.Same result'.2

section

variable [MicroCdr] {platform : Platform} {nanos : Nat × Nat → Int} {shiftBeyond : Nat → UInt16}
  {config : ReadConfig} {fuel : Nat} {run : Run} {waiting : WaitingSession (Nat × Nat)}

theorem listenMessageIn_platform (h : run.Same waiting) (pollMs : Int) :
    SameResult (listenMessage platform shiftBeyond config fuel run pollMs)
      (listenMessageIn (platform.world nanos) shiftBeyond config fuel waiting pollMs) := by
  obtain ⟨session, app, world, waits⟩ := waiting
  obtain ⟨hsession, hworld⟩ := h
  dsimp only at hsession hworld
  subst hsession hworld
  unfold listenMessage listenMessageIn Platform.world
  dsimp only
  cases platform.recvMsg run.listened pollMs with
  | none => exact ⟨rfl, rfl, rfl⟩
  | some msg =>
    dsimp only
    cases readMessage shiftBeyond config fuel run.session msg with
    | none => rfl
    | some session => exact ⟨rfl, rfl, rfl⟩

omit [MicroCdr] in
/-- Calls with the same result are followed by calls with the same result. -/
theorem SameResult.andThen {α β : Type} {result : Option (α × Run)}
    {result' : Option α × WaitingSession (Nat × Nat)} (h : SameResult result result')
    {next : α → Run → Option (β × Run)}
    {next' : α → WaitingSession (Nat × Nat) → Option β × WaitingSession (Nat × Nat)}
    (hnext : ∀ a run waiting, run.Same waiting → SameResult (next a run) (next' a waiting)) :
    SameResult (result.bind fun r => next r.1 r.2) (andThen result' next') := by
  obtain ⟨received, waiting⟩ := result'
  match result with
  | none =>
    cases h
    rfl
  | some (a, run) =>
    obtain ⟨hreceived, hsame⟩ := h
    cases hreceived
    exact hnext a run waiting hsame

theorem listenMessageReliablyForIn_platform (h : run.Same waiting) (poll : Int) :
    SameResult (listenMessageReliablyFor platform shiftBeyond config fuel run poll)
      (listenMessageReliablyForIn (platform.world nanos) shiftBeyond config fuel waiting poll) := by
  induction fuel generalizing run waiting poll with
  | zero => rfl
  | succ fuel ih =>
    obtain ⟨session, app, world, waits⟩ := waiting
    obtain ⟨hsession, hworld⟩ := h
    dsimp only at hsession hworld
    subst hsession hworld
    generalize hbeats : heartbeatStreams platform (platform.millis run.looked) run.session = beats
    have hlisten := @listenMessageIn_platform _ platform nanos shiftBeyond config fuel
      { run with session := beats.1, looked := run.looked + 1 }
      ⟨beats.1, app, (run.listened, run.looked + 1), waits⟩ ⟨rfl, rfl⟩
      (pollUntilHeartbeat beats.2 (platform.millis run.looked) poll)
    generalize hrest : poll - pollUntilHeartbeat beats.2 (platform.millis run.looked) poll = rest
    have hboth := @SameResult.andThen _ _ _ _ hlisten
      (fun received run =>
        if received then some (true, run)
        else if rest > 0 then listenMessageReliablyFor platform shiftBeyond config fuel run rest
        else some (false, run))
      (fun received waiting =>
        if received then (some true, waiting)
        else if rest > 0 then
          listenMessageReliablyForIn (platform.world nanos) shiftBeyond config fuel waiting rest
        else (some false, waiting)) ?_
    · subst hrest hbeats
      exact hboth
    · intro received run' waiting' hsame
      cases received with
      | true => exact ⟨rfl, hsame⟩
      | false =>
        rw [if_neg Bool.false_ne_true, if_neg Bool.false_ne_true]
        split
        · exact ih hsame _
        · exact ⟨rfl, hsame⟩

/-- Listening is the same as on the platform. -/
theorem listenMessageReliablyIn_platform (h : run.Same waiting) (pollMs : Int) :
    SameResult (listenMessageReliably platform shiftBeyond config fuel run pollMs)
      (listenMessageReliablyIn (platform.world nanos) shiftBeyond config fuel waiting pollMs) :=
  listenMessageReliablyForIn_platform h _

end

end XrceClient
