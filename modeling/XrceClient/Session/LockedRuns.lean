import XrceClient.Session.ConfirmedDelivery
import XrceClient.Session.LockDiscipline

/-!
# Listening and calling under locks

What is left of the session's calls, and threads that make them.

- `LeavesOutputs`: reading leaves the output streams alone, but for an ACKNACK.
- `keepsHeld_readSubmessageAcknackLocked`: an ACKNACK does exactly where it is settled.
- `keepsHeld_program`: the calls, whatever message is received.
- `session_step_disciplined_iff`: in every interleaving of threads that make calls, an output stream
  is changed under its own mutex, but for an ACKNACK.
- `acknack_changes_unlocked_stream`: an ACKNACK changes an output stream that is not locked.
-/

namespace XrceClient

open ByteMemory Relation

/-! ## Reading -/

section

variable [MicroCdr] {shiftBeyond : Nat → UInt16}

/-- What a submessage does, other than an ACKNACK, leaves the output streams alone. -/
theorem changesOnly_emit {effect : Effect}
    (heffect : ∀ acknack whole, effect ≠ .acknack acknack whole) (session : Session) : ChangesOnly none session (Session.emit shiftBeyond effect session) := by
  cases effect with
  | acknack acknack whole => exact absurd rfl (heffect acknack whole)
  | heartbeat payload =>
    dsimp only [Session.emit, readSubmessageHeartbeat]
    split <;> exact .of_same rfl rfl rfl
  | deleteSessionStatus requestId status whole =>
    dsimp only [Session.emit]
    split <;> exact .of_same rfl rfl rfl
  | _ => exact .of_same rfl rfl rfl

/-- The session around a buffer. Moving the buffer on leaves the output streams alone. -/
structure LeavesOutputs (shiftBeyond : Nat → UInt16) (env : ReadEnv Session) : Prop where
  emit : env.emit = Session.emit shiftBeyond
  full : ∀ session ub, ChangesOnly none session (env.dev.onFull session ub).2.1
  flag : ∀ flag session, ChangesOnly none session (env.setCleanupFlag flag session)

theorem leavesOutputs_datagram (memory : Memory) :
    LeavesOutputs shiftBeyond (datagramEnv shiftBeyond memory) where
  emit := rfl
  full session _ := .refl none session
  flag _ session := .refl none session

theorem leavesOutputs_slots (index : UInt8) :
    LeavesOutputs shiftBeyond (slotsEnv shiftBeyond index) where
  emit := rfl
  full session ub := by
    dsimp only [slotsEnv]
    split
    · exact .refl none session
    · exact .of_same rfl rfl rfl
  flag _ session := .of_same rfl rfl rfl

variable [LawfulMicroCdr] {env : ReadEnv Session} {α β : Type}

/-- The operations of the reading functions leave the output streams alone if the submessages do. -/
theorem changesOnly_quiet (henv : LeavesOutputs shiftBeyond env) (op : ReadOp β)
    (session : Session) (c : Cursor) :
    ChangesOnly none session
      (ReadEnv.handle { env with emit := fun _ session => session } op (session, c)).2.1 := by
  refine (@handle_preserves _ _ _ { env with emit := fun _ session => session }
    (ChangesOnly none session) (fun _ => True) ?_ ?_ (fun _ _ h => h) _ op (session, c)
    ⟨.refl none session, trivial, fun _ _ => trivial⟩).1
  · exact fun session' ub h _ => ⟨h.trans_none (henv.full session' ub), trivial⟩
  · exact fun flag session' _ _ _ h => h.trans_none (henv.flag flag session')

/-- An operation other than an ACKNACK. -/
def ReadOp.Quiet : ReadOp β → Prop
  | .emit (.acknack _ _) => False
  | _ => True

theorem changesOnly_handle (henv : LeavesOutputs shiftBeyond env) {op : ReadOp β} (hop : op.Quiet)
    (session : Session) (c : Cursor) :
    ChangesOnly none session (env.handle op (session, c)).2.1 := by
  cases op with
  | emit effect =>
    show ChangesOnly none session (env.emit effect session)
    rw [henv.emit]
    refine changesOnly_emit ?_ session
    rintro acknack whole rfl
    exact hop
  | buffer op => exact changesOnly_quiet henv (.buffer op) session c
  | setEndianness e => exact .refl none session
  | skip n => exact .refl none session
  | openTemp => exact .refl none session
  | rebaseTemp => exact .refl none session
  | closeTemp => exact .refl none session
  | setCleanupFlag flag => exact changesOnly_quiet henv (.setCleanupFlag flag) session c

variable {sizes : StreamSizes} {held : List (LockKey × Option Mutex)}

omit [MicroCdr] [LawfulMicroCdr] in
theorem streamIdFromRaw_direction (raw : UInt8) (direction : StreamDirection) :
    (streamIdFromRaw raw direction).direction = direction := by
  unfold streamIdFromRaw
  split
  · rfl
  · split <;> rfl

omit [MicroCdr] [LawfulMicroCdr] in
/-- The identifier of an input stream is not locked with the mutex of an output stream. -/
theorem NoOutput.lock_input (hheld : NoOutput held) {streams : StreamStorage} {id : StreamId}
    (hinput : id.direction = .inputStream) :
    NoOutput ((.streamId id, getStreamMutexFromId streams id) :: held) := by
  intro key i hmem
  rcases List.mem_cons.mp hmem with heq | hmem
  · have hmutex : getStreamMutexFromId streams id = some (.outputReliable i) :=
      (Prod.mk.inj heq).2.symm
    obtain ⟨raw, index, type, direction⟩ := id
    cases hinput
    cases type with
    | noneStream => cases hmutex
    | bestEffortStream =>
      obtain ⟨stream, -, hmutex⟩ := Option.map_eq_some_iff.mp hmutex
      cases hmutex
    | reliableStream =>
      obtain ⟨stream, -, hmutex⟩ := Option.map_eq_some_iff.mp hmutex
      cases hmutex
  · exact hheld key i hmem

omit [MicroCdr] [LawfulMicroCdr] in
/-- `read_submessage_acknack` takes the lock of an input stream. That does not matter exactly where
it changes nothing. -/
theorem keepsHeld_readSubmessageAcknackLocked (hheld : NoOutput held) (acknack : AcknackPayload) :
    KeepsHeld (sessionLocks sizes) (readSubmessageAcknackLocked acknack) held := by
  refine (keepsHeld_perform fun session => .refl none session).bind fun found => ?_
  cases found with
  | false => exact rfl
  | true =>
    refine keepsHeld_lockStreamId fun session hsizes => ?_
    let index := (streamIdFromRaw acknack.streamId .inputStream).index
    have hlocked : NoOutput ((.streamId (streamIdFromRaw acknack.streamId .inputStream),
        getStreamMutexFromId session.streams (streamIdFromRaw acknack.streamId .inputStream)) ::
          held) :=
      hheld.lock_input (streamIdFromRaw_direction _ _)
    refine KeepsHeld.bind (keepsHeld_settled index hlocked (fun session => ?_) fun session => ?_)
      fun _ => keepsHeld_settled index hlocked (fun session => ?_) fun session => ?_
    · exact changesOnly_setOutputReliable rfl
    · rw [SessionAct.Settled, ← processAcknack_eq_iff]
      dsimp only [Session.processAcknack, StreamStorage.setOutputReliable]
      rw [Function.update_self]
    · exact changesOnly_setOutputReliable rfl
    · rw [SessionAct.Settled, ← sendLostMessages_eq_iff]
      dsimp only [Session.sendLost, StreamStorage.setOutputReliable]
      rw [Function.update_self]

theorem keepsHeld_readOpLocked (hheld : NoOutput held) (henv : LeavesOutputs shiftBeyond env)
    (op : ReadOp β) (c : Cursor) :
    KeepsHeld (sessionLocks sizes) (readOpLocked env op c) held := by
  by_cases hop : op.Quiet
  · have hquiet : readOpLocked env op c = handleLocked env op c := by
      cases op with
      | emit effect =>
        cases effect with
        | acknack acknack whole => exact hop.elim
        | _ => rfl
      | _ => rfl
    rw [hquiet]
    exact keepsHeld_perform fun session => changesOnly_handle henv hop session c
  · cases op with
    | emit effect =>
      cases effect with
      | acknack acknack whole =>
        refine (keepsHeld_perform fun session => .of_same rfl rfl rfl).bind fun _ => ?_
        exact (keepsHeld_readSubmessageAcknackLocked hheld acknack).bind fun _ => rfl
      | _ => exact absurd trivial hop
    | _ => exact absurd trivial hop

/-- A reading function, by induction on what is left of it. -/
theorem keepsHeld_readingLocked (hheld : NoOutput held) (henv : LeavesOutputs shiftBeyond env)
    (program : Program ReadOp α) (c : Cursor) :
    KeepsHeld (sessionLocks sizes) (readingLocked env program c) held := by
  induction program generalizing c with
  | done a => exact rfl
  | step op next ih => exact (keepsHeld_readOpLocked hheld henv op c).bind fun bc => ih bc.1 bc.2

variable {config : ReadConfig}

theorem keepsHeld_readSubmessagesLocked (hheld : NoOutput held)
    (henv : LeavesOutputs shiftBeyond env) (fuel : Nat) (ub : UcdrBuffer) (streamId : StreamId) :
    KeepsHeld (sessionLocks sizes) (readSubmessagesLocked config fuel env ub streamId) held :=
  (keepsHeld_readingLocked hheld henv _ _).bind fun _ => rfl

theorem keepsHeld_readNextBuffersLocked (hheld : NoOutput held) (streamId : StreamId) (fuel : Nat)
    (nextMb : UcdrBuffer) :
    KeepsHeld (sessionLocks sizes) (readNextBuffersLocked shiftBeyond config streamId fuel nextMb)
      held := by
  induction fuel generalizing nextMb with
  | zero => exact rfl
  | succ fuel ih =>
    refine (keepsHeld_perform fun session => ?_).bind fun next => ?_
    · dsimp only
      split
      · exact .refl none session
      · exact .of_same rfl rfl rfl
    · rcases next with _ | ⟨available, nextMb⟩
      · exact rfl
      · cases available with
        | false => exact rfl
        | true =>
          refine (keepsHeld_readSubmessagesLocked hheld (leavesOutputs_slots _) _ _ _).bind
            fun whole => ?_
          cases whole with
          | none => exact rfl
          | some _ => exact ih nextMb

theorem keepsHeld_readReliableStreamLocked (hheld : NoOutput held) (fuel : Nat) (memory : Memory)
    (ub : UcdrBuffer) (streamId : StreamId) (seqNum : SeqNum) :
    KeepsHeld (sessionLocks sizes)
      (readReliableStreamLocked shiftBeyond config fuel memory ub streamId seqNum) held := by
  refine (keepsHeld_perform fun session => ?_).bind fun received => ?_
  · dsimp only
    split
    · exact .refl none session
    · exact .of_same rfl rfl rfl
  · rcases received with _ | ⟨readyToRead, messageStored⟩
    · exact rfl
    · cases readyToRead with
      | false => exact rfl
      | true =>
        cases messageStored with
        | true => exact keepsHeld_readNextBuffersLocked hheld streamId fuel _
        | false =>
          refine (keepsHeld_readSubmessagesLocked hheld (leavesOutputs_datagram _) _ _ _).bind
            fun whole => ?_
          cases whole with
          | none => exact rfl
          | some _ => exact keepsHeld_readNextBuffersLocked hheld streamId fuel _

theorem keepsHeld_readStreamLocked (hheld : NoOutput held) (fuel : Nat) (memory : Memory)
    (ub : UcdrBuffer) (streamId : StreamId) (seqNum : SeqNum) :
    KeepsHeld (sessionLocks sizes)
      (readStreamLocked shiftBeyond config fuel memory ub streamId seqNum) held := by
  have hsubmessages (streamId : StreamId) : KeepsHeld (sessionLocks sizes)
      (readSubmessagesLocked config fuel (datagramEnv shiftBeyond memory) ub streamId) held :=
    keepsHeld_readSubmessagesLocked hheld (leavesOutputs_datagram memory) _ _ _
  rw [readStreamLocked]
  cases streamId.type with
  | noneStream => exact hsubmessages _
  | bestEffortStream =>
    refine (keepsHeld_perform fun session => ?_).bind fun available => ?_
    · dsimp only
      split
      · exact .of_same rfl rfl rfl
      · exact .refl none session
    · cases available with
      | false => exact rfl
      | true => exact hsubmessages _
  | reliableStream =>
    refine (keepsHeld_perform fun session => .refl none session).bind fun found => ?_
    have hacknack (ended : Option PUnit) :
        KeepsHeld (sessionLocks sizes) (acknackLocked shiftBeyond streamId ended) held := by
      cases ended with
      | none => exact rfl
      | some _ => exact keepsHeld_perform fun session => .of_same rfl rfl rfl
    cases found with
    | false => exact hacknack (some ⟨⟩)
    | true =>
      exact (keepsHeld_readReliableStreamLocked hheld fuel memory ub streamId seqNum).bind hacknack

theorem changesOnly_readBuffer (henv : LeavesOutputs shiftBeyond env) (program : Program BufferOp α)
    (session : Session) (c : Cursor) :
    ChangesOnly none session ((readBuffer program).run env.handle (session, c)).2.1 := by
  induction program generalizing session c with
  | done a => exact .refl none session
  | step op next ih =>
    have hquiet : (ReadOp.buffer op).Quiet := trivial
    have hop : ChangesOnly none session (env.handle (ReadOp.buffer op) (session, c)).2.1 :=
      changesOnly_handle henv hquiet session c
    exact hop.trans_none (ih _ _ _)

theorem keepsHeld_readMessageLocked (hheld : NoOutput held) (fuel : Nat) (msg : Datagram) :
    KeepsHeld (sessionLocks sizes) (readMessageLocked shiftBeyond config fuel msg) held := by
  refine (keepsHeld_perform fun session => ?_).bind fun header => ?_
  · exact changesOnly_readBuffer (leavesOutputs_datagram msg.memory) _ session _
  · obtain ⟨mustBeRead, streamIdRaw, seqNum, ub⟩ := header
    cases mustBeRead with
    | false => exact rfl
    | true => exact keepsHeld_readStreamLocked hheld fuel msg.memory ub _ seqNum

omit [MicroCdr] [LawfulMicroCdr] in
/-- No mutex is among those of `UXR_LOCK_ALL_INPUT_STREAMS` twice. -/
theorem allInputMutexes_nodup (sizes : StreamSizes) :
    ((allInputMutexes sizes).map Prod.fst).Nodup := by
  have hindices (size : UInt8) {f : UInt8 → Mutex} (hf : Function.Injective f) :
      ((List.range size.toNat).map fun i => f (UInt8.ofNat i)).Nodup := by
    refine List.Nodup.map_on (fun i hi j hj heq => ?_) List.nodup_range
    have hsame := congrArg UInt8.toNat (hf heq)
    rw [UInt8.toNat_ofNat', UInt8.toNat_ofNat', Nat.mod_eq_of_lt, Nat.mod_eq_of_lt] at hsame
    · exact hsame
    · exact (List.mem_range.mp hj).trans size.toNat_lt
    · exact (List.mem_range.mp hi).trans size.toNat_lt
  rw [allInputMutexes, List.map_map]
  refine List.Nodup.map (fun _ _ h => LockKey.mutex.inj h) (List.Nodup.append ?_ ?_ ?_)
  · exact hindices _ fun _ _ h => Mutex.inputBestEffort.inj h
  · exact hindices _ fun _ _ h => Mutex.inputReliable.inj h
  · intro mutex hbestEffort hreliable
    obtain ⟨i, -, rfl⟩ := List.mem_map.mp hbestEffort
    obtain ⟨j, -, hsame⟩ := List.mem_map.mp hreliable
    cases hsame

omit [MicroCdr] [LawfulMicroCdr] in
theorem NoOutput.lock_allInput (hheld : NoOutput held) :
    NoOutput (openLocks (allInputMutexes sizes) ++ held) := by
  intro key i hmem
  rcases List.mem_append.mp hmem with hmem | hmem
  · obtain ⟨entry, hentry, heq⟩ := List.mem_map.mp (List.mem_reverse.mp hmem)
    obtain ⟨mutex, hmutex, rfl⟩ := List.mem_map.mp hentry
    cases heq
    rcases List.mem_append.mp hmutex with hinput | hinput
    · obtain ⟨j, -, hsame⟩ := List.mem_map.mp hinput
      cases hsame
    · obtain ⟨j, -, hsame⟩ := List.mem_map.mp hinput
      cases hsame
  · exact hheld key i hmem

/-- `listen_message`, whatever was received. -/
theorem keepsHeld_listenMessageLocked (hheld : NoOutput held) (fuel : Nat)
    (received : Option Datagram) :
    KeepsHeld (sessionLocks sizes) (listenMessageLocked shiftBeyond config fuel received) held := by
  refine keepsHeld_lookAtSizes_bind ?_
  cases received with
  | none =>
    exact keepsHeld_lockedEach (allInputMutexes_nodup sizes) (keepsHeld_pure (some PUnit.unit))
  | some msg =>
    exact keepsHeld_lockedEach (allInputMutexes_nodup sizes)
      (keepsHeld_readMessageLocked hheld.lock_allInput fuel msg)

/-! ## Calling -/

variable {platform : Platform}

omit [MicroCdr] [LawfulMicroCdr] in
theorem keepsHeld_discard {p : LockedSession α} (hp : KeepsHeld (sessionLocks sizes) p held) :
    KeepsHeld (sessionLocks sizes) (Functor.discard p) held :=
  hp.bind fun _ => rfl

/-- Every call follows the discipline. -/
theorem keepsHeld_program (hheld : NoOutput held) {call : SessionCall} (houtput : call.OnOutput) :
    KeepsHeld (sessionLocks sizes) (call.program platform shiftBeyond config) held := by
  have hbuffer {streamId : StreamId} (hstream : call.stream = some streamId) (objectId : ObjectId)
      (payloadSize : Nat) (write : BaseObjectRequest → UcdrBuffer → Memory → Memory) :
      KeepsHeld (sessionLocks sizes)
        (Functor.discard (bufferLocked streamId objectId payloadSize write)) held :=
    keepsHeld_discard (keepsHeld_bufferLocked (houtput streamId hstream) objectId payloadSize write)
  cases call with
  | bufferRequest streamId requesterId len write => exact hbuffer rfl _ _ _
  | bufferReply streamId replierId len write => exact hbuffer rfl _ _ _
  | bufferTopic streamId datawriterId len write => exact hbuffer rfl _ _ _
  | bufferRequestData streamId datareaderId control write => exact hbuffer rfl _ _ _
  | bufferCancelData streamId datareaderId write => exact hbuffer rfl _ _ _
  | bufferDeleteEntity streamId objectId write => exact hbuffer rfl _ _ _
  | createEntity streamId objectId xmlRefBinSize write => exact hbuffer rfl _ _ _
  | writeOutputStream streamId entityId len write payload =>
    exact keepsHeld_writeOutputStreamLocked (houtput streamId rfl) entityId len write payload
  | flashOutputStreams fuel => exact keepsHeld_discard (keepsHeld_flashOutputStreamsLocked fuel)
  | updateHeartbeats timestamp =>
    exact keepsHeld_discard (keepsHeld_updateHeartbeatsLocked timestamp)
  | listenMessage fuel received =>
    exact keepsHeld_discard (keepsHeld_listenMessageLocked hheld fuel received)

theorem keepsHeld_callAll (hheld : NoOutput held) {calls : List SessionCall}
    (houtput : ∀ call ∈ calls, call.OnOutput) :
    KeepsHeld (sessionLocks sizes) (callAll platform shiftBeyond config calls) held := by
  induction calls with
  | nil => exact rfl
  | cons call calls ih =>
    refine (keepsHeld_program hheld (houtput call List.mem_cons_self)).bind fun _ => ?_
    exact ih fun call hcall => houtput call (List.mem_cons_of_mem _ hcall)

variable {θ : Type} {session : Session} {calls : θ → List SessionCall}

theorem disciplined_sharedSession (houtput : ∀ i, ∀ call ∈ calls i, call.OnOutput) :
    (sharedSession platform shiftBeyond config session calls).Disciplined
      (sessionLocks session.streams.sizes) where
  inv := rfl
  keeps i := (keepsHeld_callAll (fun _ _ => List.not_mem_nil) (houtput i)).mono fun _ _ _ => trivial

omit [LawfulMicroCdr] in
theorem exclusive_sharedSession :
    (sharedSession platform shiftBeyond config session calls).Exclusive := by
  rintro i j m ⟨key, hheld⟩
  exact absurd hheld List.not_mem_nil

/-- In every interleaving of threads that call a session, a step changes an output stream under its
own mutex, which no other thread holds, and releases what its lock took, exactly if it does not
process an acknowledgement that changes something. -/
theorem session_step_disciplined_iff [DecidableEq θ]
    (houtput : ∀ i, ∀ call ∈ calls i, call.OnOutput)
    {sys sys' : LockSystem θ LockKey Mutex Session SessionAct} {i : θ}
    {event : LockEvent LockKey Mutex SessionAct}
    (hrun : ReflTransGen LockSystem.Step
      (sharedSession platform shiftBeyond config session calls) sys)
    (hstep : LockStep i event sys sys') :
    sys.Exclusive ∧
      (StepDisciplined (sessionLocks session.streams.sizes) i event sys sys' ↔
        ∀ act, event = .acted act → act.Settled sys.shared) :=
  ⟨exclusive_run exclusive_sharedSession hrun,
    disciplined_iff (disciplined_sharedSession houtput) hrun hstep⟩

/-- While a thread holds the mutex of an output stream, the others leave the stream alone, but for
an acknowledgement that changes something. -/
theorem session_stream_kept [DecidableEq θ] (houtput : ∀ i, ∀ call ∈ calls i, call.OnOutput)
    {sys sys' : LockSystem θ LockKey Mutex Session SessionAct} {i j : θ}
    {event : LockEvent LockKey Mutex SessionAct}
    (hrun : ReflTransGen LockSystem.Step
      (sharedSession platform shiftBeyond config session calls) sys)
    (hstep : LockStep i event sys sys') (hsettled : event.Meets (sessionLocks session.streams.sizes)
      sys.shared) (hij : i ≠ j) {m : Mutex} (hholds : (sys.threads j).Holds m) :
    ¬ m.Changes sys.shared sys'.shared := by
  have hdisciplined :=
    (disciplined_iff (disciplined_sharedSession houtput) hrun hstep).mpr hsettled
  exact hdisciplined.not_changes (exclusive_run exclusive_sharedSession hrun) hij hholds

end

/-! ## A message that is acknowledged -/

/-- A session with a reliable stream in each direction. A message is buffered. -/
def oneBufferedEach : Session :=
  { oneBuffered with
    streams := (addInputReliableBuffer oneBuffered.streams (fun _ => 0) 32 2
      (@onGetFragmentationInfo referenceMicroCdr)).2 }

/-- The message is sent, and acknowledged. -/
def sendAndListen : List SessionCall :=
  [.flashOutputStreams 4, .listenMessage 4 (some firstAcknack)]

/-- The only thread. -/
def sendingThread : LockThread LockKey Mutex Session SessionAct where
  rest := @callAll referenceMicroCdr (arriving []) (fun _ => 0) noCallbacks sendAndListen
  held := []

/-- Sending the message changes its stream, under its own mutex. -/
theorem session_step_disciplined_iff_sending :
    ∃ sys sys' : LockSystem Unit LockKey Mutex Session SessionAct, ∃ event,
      LockStep () event sys sys' ∧ (Mutex.outputReliable 0).Changes sys.shared sys'.shared ∧
        StepDisciplined (sessionLocks oneBufferedEach.streams.sizes) () event sys sys' := by
  have hsent : ((sendingThread.after 2 oneBufferedEach).bind fun state =>
      (state.1.next state.2).map fun step =>
        (step.1, (state.2.streams.outputReliable 0).lastSent,
          (step.2.1.streams.outputReliable 0).lastSent)) = some (.acted .other, 65535, 0) := by
    decide +kernel
  obtain ⟨⟨t, s⟩, hrun, hnext⟩ := Option.bind_eq_some_iff.mp hsent
  obtain ⟨⟨event, s', t'⟩, hnext, hstep⟩ := Option.map_eq_some_iff.mp hnext
  obtain ⟨hevent, hbefore, hafter⟩ : event = .acted .other ∧
      (s.streams.outputReliable 0).lastSent = 65535 ∧
      (s'.streams.outputReliable 0).lastSent = 0 := by
    simpa using hstep
  have hchanges : (Mutex.outputReliable 0).Changes s s' := by
    intro hsame
    have hlast := congrArg OutputReliableStream.lastSent hsame
    rw [hafter, hbefore] at hlast
    exact absurd hlast (by decide)
  have houtput : ∀ i : Unit, ∀ call ∈ (fun _ : Unit => sendAndListen) i, call.OnOutput := by
    intro _ call hcall streamId hstream
    rcases List.mem_pair.mp hcall with rfl | rfl <;> cases hstream
  refine ⟨t.only s, t'.only s', event, LockThread.only_step hnext, hchanges, ?_⟩
  refine ((@session_step_disciplined_iff referenceMicroCdr (fun _ => 0)
    referenceMicroCdr_lawful noCallbacks (arriving []) Unit oneBufferedEach _ _ houtput _ _ _ _
    (LockThread.only_run hrun) (LockThread.only_step hnext)).2).mpr ?_
  intro act hact
  rw [hevent] at hact
  cases hact
  exact trivial

/-- The ACKNACK for it changes the stream as well, while only the input stream is locked. -/
theorem acknack_changes_unlocked_stream :
    ∃ sys sys' : LockSystem Unit LockKey Mutex Session SessionAct, ∃ event,
      ReflTransGen LockSystem.Step (@sharedSession referenceMicroCdr (arriving []) (fun _ => 0)
        noCallbacks Unit oneBufferedEach fun _ => sendAndListen) sys ∧
      LockStep () event sys sys' ∧ (Mutex.outputReliable 0).Changes sys.shared sys'.shared ∧
      ¬ (sys.threads ()).Holds (.outputReliable 0) ∧
      ¬ StepDisciplined (sessionLocks oneBufferedEach.streams.sizes) () event sys sys' := by
  have hacknowledged : ((sendingThread.after 21 oneBufferedEach).bind fun state =>
      (state.1.next state.2).map fun step =>
        (state.1.held.map Prod.snd, (state.2.streams.outputReliable 0).lastAcknown,
          (step.2.1.streams.outputReliable 0).lastAcknown)) =
      some ([some (.inputReliable 0), some (.inputReliable 0)], 65535, 0) := by
    decide +kernel
  obtain ⟨⟨t, s⟩, hrun, hnext⟩ := Option.bind_eq_some_iff.mp hacknowledged
  obtain ⟨⟨event, s', t'⟩, hnext, hstep⟩ := Option.map_eq_some_iff.mp hnext
  obtain ⟨hheld, hbefore, hafter⟩ :
      t.held.map Prod.snd = [some (.inputReliable 0), some (.inputReliable 0)] ∧
      (s.streams.outputReliable 0).lastAcknown = 65535 ∧
      (s'.streams.outputReliable 0).lastAcknown = 0 := by
    simpa using hstep
  have hchanges : (Mutex.outputReliable 0).Changes s s' := by
    intro hsame
    have hlast := congrArg OutputReliableStream.lastAcknown hsame
    rw [hafter, hbefore] at hlast
    exact absurd hlast (by decide)
  have hfree : ¬ t.Holds (.outputReliable 0) := by
    rintro ⟨key, hkey⟩
    have hmem : some (Mutex.outputReliable 0) ∈ t.held.map Prod.snd :=
      List.mem_map_of_mem (f := Prod.snd) hkey
    rw [hheld] at hmem
    exact absurd hmem (by decide)
  exact ⟨t.only s, t'.only s', event, LockThread.only_run hrun, LockThread.only_step hnext,
    hchanges, hfree, fun h => hfree (h.guarded _ hchanges)⟩

end XrceClient
