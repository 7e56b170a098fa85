import XrceClient.Session.Locks

/-!
# The locked calls without interruption

A thread that nobody interrupts does what the sequential model says.

- `alone_commonCreateEntityLocked`: buffering a CREATE.
- `alone_flashOutputStreamsLocked`, `alone_updateHeartbeatsLocked`: sending and heartbeats.
- `alone_listenMessageLocked`: what is done with a message that was received.
-/

namespace XrceClient

open ByteMemory

/-- The session behind a call that ended. -/
def endedSession (result : Option PUnit × Session) : Option Session :=
  result.1.map fun _ => result.2

@[simp] theorem endedSession_some (session : Session) :
    endedSession (some ⟨⟩, session) = some session := rfl

@[simp] theorem endedSession_none (session : Session) : endedSession (none, session) = none := rfl

@[simp] theorem alone_perform {β : Type} (f : Session → β × Session) (session : Session) :
    alone (perform f) session = f session := rfl

@[simp] theorem alone_lockStreamId {α : Type} (id : StreamId) (p : LockedSession α)
    (session : Session) : alone (lockStreamId id p) session = alone p session :=
  alone_locked _ _ _ _

/-- A loop does what another one does if each turn does. -/
theorem alone_foldlM {β γ τ : Type} {f : β → γ → LockedSession β} {turn : τ → γ → τ}
    {view : τ → β × Session} (hf : ∀ t x, alone (f (view t).1 x) (view t).2 = view (turn t x))
    (xs : List γ) (t : τ) :
    alone (xs.foldlM f (view t).1) (view t).2 = view (xs.foldl turn t) := by
  induction xs generalizing t with
  | nil => rfl
  | cons x xs ih =>
    rw [List.foldlM_cons, alone_bind, hf]
    exact ih (turn t x)

section

variable [MicroCdr]

/-! ## Buffering -/

/-- Buffering a CREATE. -/
theorem alone_commonCreateEntityLocked (session : Session) (streamId : StreamId)
    (objectId : ObjectId) (xmlRefBinSize : UInt16)
    (write : BaseObjectRequest → UcdrBuffer → Memory → Memory) :
    alone (commonCreateEntityLocked streamId objectId xmlRefBinSize write) session =
      commonCreateEntity session streamId objectId xmlRefBinSize write := by
  rw [commonCreateEntityLocked, bufferLocked, alone_lockStreamId, alone_bind, prepareLocked,
    alone_perform, commonCreateEntity]
  cases prepareStreamToWriteSubmessage session.streams streamId
      (createPayloadLength objectId xmlRefBinSize).toNat with
  | none => rfl
  | some room => rfl

/-! ## Sending -/

variable (platform : Platform)

theorem alone_flashMessages (i : UInt8) (fuel : Nat) (run : Run) :
    (flashReliableStream platform i fuel run).map Run.session =
      endedSession (alone (flashMessages platform i fuel) run.session) := by
  induction fuel generalizing run with
  | zero => rfl
  | succ fuel ih =>
    rw [flashReliableStream, flashMessages, alone_bind, alone_perform]
    dsimp only
    split
    · dsimp only
      rw [alone_bind, alone_perform]
      dsimp only
      rw [StreamStorage.setOutputReliable_self, StreamStorage.setOutputReliable_twice]
      split
      · exact ih _
      · rw [alone_perform, endedSession_some, Option.map_some]
        dsimp only [Session.sendMessage]
        rw [StreamStorage.setOutputReliable_self, StreamStorage.setOutputReliable_twice]
    · rfl

theorem alone_flashReliableStreams (fuel : Nat) (streams : List Nat) (run : Run) :
    (streams.foldlM (fun run i => flashReliableStream platform (UInt8.ofNat i) fuel run) run).map
        Run.session =
      endedSession (alone (streams.foldlM
        (fun ended i => flashReliableStreamLocked platform fuel ended (UInt8.ofNat i)) (some ⟨⟩))
          run.session) := by
  induction streams generalizing run with
  | nil => rfl
  | cons i streams ih =>
    have hfirst := alone_flashMessages platform (UInt8.ofNat i) fuel run
    rw [List.foldlM_cons, List.foldlM_cons, alone_bind, flashReliableStreamLocked,
      alone_lockStreamId]
    generalize alone (flashMessages platform (UInt8.ofNat i) fuel) run.session = result at hfirst ⊢
    obtain ⟨ended, session⟩ := result
    cases hflash : flashReliableStream platform (UInt8.ofNat i) fuel run with
    | none =>
      rw [hflash] at hfirst
      cases ended with
      | none =>
        -- the other streams are not flushed any more
        have hnone : ∀ streams : List Nat, (alone (streams.foldlM (fun ended i =>
            flashReliableStreamLocked platform fuel ended (UInt8.ofNat i)) none) session).1 =
              none := by
          intro streams
          induction streams with
          | nil => rfl
          | cons i streams ih => exact ih
        rw [endedSession, hnone streams]
        rfl
      | some _ => cases hfirst
    | some run' =>
      rw [hflash] at hfirst
      cases ended with
      | none => cases hfirst
      | some _ =>
        cases hfirst
        exact ih run'

/-- Sending what is buffered. -/
theorem alone_flashOutputStreamsLocked (fuel : Nat) (run : Run) :
    (flashOutputStreams platform fuel run).map Run.session =
      endedSession (alone (flashOutputStreamsLocked platform fuel) run.session) := by
  have hbestEffort : alone ((List.range run.session.streams.outputBestEffortSize.toNat).foldlM
      (fun _ i => flashBestEffortStreamLocked (UInt8.ofNat i)) ⟨⟩) run.session =
        (⟨⟩, flashBestEffortStreams run.session) :=
    @alone_foldlM _ _ Session _ _ (fun session => (PUnit.unit, session)) (fun _ _ => rfl) _ _
  rw [flashOutputStreams, alone_flashReliableStreams]
  rw [flashOutputStreamsLocked, alone_bind, lookAtSizes, alone_perform, alone_bind]
  dsimp only [StreamStorage.sizes]
  rw [hbestEffort]

/-! ## Heartbeats -/

theorem alone_updateHeartbeatsLocked (timestamp : Int) (session : Session) :
    alone (updateHeartbeatsLocked platform timestamp) session =
      (heartbeatStreams platform timestamp session).swap := by
  rw [updateHeartbeatsLocked, alone_bind]
  exact @alone_foldlM _ _ (Session × Int) _ _ Prod.swap (fun _ _ => rfl) _ (session, int64Max)

/-! ## Listening -/

omit [MicroCdr] in
theorem alone_readSubmessageAcknackLocked (acknack : AcknackPayload) (session : Session) :
    alone (readSubmessageAcknackLocked acknack) session =
      (⟨⟩, readSubmessageAcknack session acknack) := by
  rw [readSubmessageAcknackLocked, alone_bind, alone_perform, readSubmessageAcknack]
  dsimp only
  cases hfound : getOutputReliableStream session.streams
      (streamIdFromRaw acknack.streamId .inputStream).index with
  | none => rfl
  | some stream =>
    have hstream : session.streams.outputReliable
        (streamIdFromRaw acknack.streamId .inputStream).index = stream := by
      unfold getOutputReliableStream at hfound
      split at hfound
      · exact Option.some.inj hfound
      · cases hfound
    rw [Option.isSome_some, if_pos rfl, alone_lockStreamId, alone_bind, alone_act, alone_act,
      Session.sendLost, Session.processAcknack, hstream]
    dsimp only
    rw [StreamStorage.setOutputReliable_self, StreamStorage.setOutputReliable_twice]

variable {shiftBeyond : Nat → UInt16}

theorem alone_readOpLocked {env : ReadEnv Session} (hemit : env.emit = Session.emit shiftBeyond)
    {β : Type} (op : ReadOp β) (session : Session) (c : Cursor) :
    alone (readOpLocked env op c) session =
      (((env.handle op (session, c)).1, (env.handle op (session, c)).2.2),
        (env.handle op (session, c)).2.1) := by
  cases op with
  | emit effect =>
    cases effect with
    | acknack acknack =>
      rw [readOpLocked, alone_bind, alone_perform, alone_bind, alone_readSubmessageAcknackLocked,
        ReadEnv.handle, hemit]
      rfl
    | _ => rfl
  | _ => rfl

/-- A reading function. -/
theorem alone_readingLocked {env : ReadEnv Session} (hemit : env.emit = Session.emit shiftBeyond)
    {α : Type} (program : Program ReadOp α) (session : Session) (c : Cursor) :
    alone (readingLocked env program c) session =
      (((program.run env.handle (session, c)).1, (program.run env.handle (session, c)).2.2),
        (program.run env.handle (session, c)).2.1) := by
  induction program generalizing session c with
  | done a => rfl
  | step op next ih =>
    rw [readingLocked, alone_bind, alone_readOpLocked hemit]
    exact ih _ _ _

variable {config : ReadConfig}

theorem alone_readSubmessagesLocked {env : ReadEnv Session}
    (hemit : env.emit = Session.emit shiftBeyond) (fuel : Nat) (session : Session)
    (ub : UcdrBuffer) (streamId : StreamId) :
    endedSession (alone (readSubmessagesLocked config fuel env ub streamId) session) =
      readSubmessages config fuel env session ub streamId := by
  rw [readSubmessagesLocked, alone_bind, alone_readingLocked hemit, readSubmessages, ReadEnv.read]
  generalize (readSubmessageList config fuel streamId).run env.handle
    (session, { ub, outer := none }) = result
  obtain ⟨complete, session', c⟩ := result
  cases complete with
  | false => rfl
  | true => rfl

theorem alone_readNextBuffersLocked (streamId : StreamId) (fuel : Nat) (session : Session)
    (nextMb : UcdrBuffer) :
    endedSession (alone (readNextBuffersLocked shiftBeyond config streamId fuel nextMb) session) =
      readNextBuffers shiftBeyond config streamId fuel session nextMb := by
  induction fuel generalizing session nextMb with
  | zero => rfl
  | succ fuel ih =>
    rw [readNextBuffersLocked, readNextBuffers, alone_bind, alone_perform]
    dsimp only
    cases nextInputReliableBufferAvailable fuel (session.streams.inputReliable streamId.index)
        nextMb subheaderSize with
    | none => rfl
    | some next =>
      obtain ⟨available, stream, nextMb'⟩ := next
      dsimp only
      cases available with
      | false => rfl
      | true =>
        rw [if_pos rfl, alone_bind]
        show _ = (readSubmessages config fuel _ _ nextMb' streamId).bind _
        have hwhole := @alone_readSubmessagesLocked _ shiftBeyond config
          (slotsEnv shiftBeyond streamId.index) rfl fuel
        rw [← hwhole]
        generalize alone (readSubmessagesLocked config fuel (slotsEnv shiftBeyond streamId.index)
          nextMb' streamId) _ = result
        obtain ⟨ended, session'⟩ := result
        cases ended with
        | none => rfl
        | some _ => exact ih session' nextMb'

theorem alone_readReliableStreamLocked (fuel : Nat) (session : Session) (memory : Memory)
    (ub : UcdrBuffer) (streamId : StreamId) (seqNum : SeqNum) :
    endedSession (alone (readReliableStreamLocked shiftBeyond config fuel memory ub streamId seqNum)
        session) =
      readReliableStream shiftBeyond config fuel session memory ub streamId seqNum
        (session.streams.inputReliable streamId.index) := by
  rw [readReliableStreamLocked, readReliableStream, alone_bind, alone_perform]
  dsimp only
  cases receiveReliableMessage fuel (session.streams.inputReliable streamId.index) seqNum
      { memory, buffer := ub.iterator, length := ucdrBufferRemaining ub } false with
  | none => rfl
  | some received =>
    dsimp only
    show _ = Option.bind (some received) _
    rw [Option.bind_some]
    cases received.readyToRead with
    | false => rfl
    | true =>
      rw [if_pos rfl, if_pos rfl]
      cases received.messageStored with
      | true => exact alone_readNextBuffersLocked streamId fuel _ _
      | false =>
        have hwhole := @alone_readSubmessagesLocked _ shiftBeyond config
          (datagramEnv shiftBeyond memory) rfl fuel
        rw [if_neg Bool.false_ne_true, if_neg Bool.false_ne_true, alone_bind, ← hwhole]
        generalize alone (readSubmessagesLocked config fuel (datagramEnv shiftBeyond memory) ub
          streamId) _ = result
        obtain ⟨ended, session'⟩ := result
        cases ended with
        | none => rfl
        | some _ => exact alone_readNextBuffersLocked streamId fuel session' _

theorem alone_readStreamLocked (fuel : Nat) (session : Session) (memory : Memory)
    (ub : UcdrBuffer) (streamId : StreamId) (seqNum : SeqNum) :
    endedSession
        (alone (readStreamLocked shiftBeyond config fuel memory ub streamId seqNum) session) =
      readStream shiftBeyond config fuel session memory ub streamId seqNum := by
  have hsubmessages := @alone_readSubmessagesLocked _ shiftBeyond config
    (datagramEnv shiftBeyond memory) rfl fuel
  rw [readStreamLocked, readStream]
  cases streamId.type with
  | noneStream => exact hsubmessages _ _ _
  | bestEffortStream =>
    dsimp only
    rw [alone_bind, alone_perform]
    cases getInputBestEffortStream session.streams streamId.index with
    | none => rfl
    | some stream =>
      dsimp only
      cases (receiveBestEffortMessage stream seqNum).1 with
      | false => rfl
      | true => exact hsubmessages _ _ _
  | reliableStream =>
    dsimp only
    rw [alone_bind, alone_perform]
    have hstream : getInputReliableStream session.streams streamId.index = none ∨
        getInputReliableStream session.streams streamId.index =
          some (session.streams.inputReliable streamId.index) := by
      unfold getInputReliableStream
      split
      · exact .inr rfl
      · exact .inl rfl
    rcases hstream with hnone | hfound
    · rw [hnone]
      rfl
    · rw [hfound]
      dsimp only
      rw [Option.isSome_some, if_pos rfl, alone_bind, ← alone_readReliableStreamLocked]
      generalize alone (readReliableStreamLocked shiftBeyond config fuel memory ub streamId seqNum)
        session = result
      obtain ⟨ended, session'⟩ := result
      cases ended with
      | none => rfl
      | some _ => rfl

theorem alone_readMessageLocked (fuel : Nat) (session : Session) (msg : Datagram) :
    endedSession (alone (readMessageLocked shiftBeyond config fuel msg) session) =
      readMessage shiftBeyond config fuel session msg := by
  rw [readMessageLocked, readMessage]
  dsimp only
  rw [alone_bind, alone_perform]
  generalize (datagramEnv shiftBeyond msg.memory).read (readBuffer (readSessionHeader session.info))
    session (ucdrInitBuffer msg.buffered.buffer msg.buffered.length) = result
  obtain ⟨⟨mustBeRead, streamIdRaw, seqNum⟩, session', cursor⟩ := result
  cases mustBeRead with
  | false => rfl
  | true => exact alone_readStreamLocked _ _ _ _ _ _

/-- What is done with a message that was received. -/
theorem alone_listenMessageLocked (fuel : Nat) (session : Session) (received : Option Datagram) :
    endedSession (alone (listenMessageLocked shiftBeyond config fuel received) session) =
      match received with
      | some msg => readMessage shiftBeyond config fuel session msg
      | none => some session := by
  rw [listenMessageLocked, alone_bind, lookAtSizes, alone_perform]
  cases received with
  | none =>
    simp only [alone_bind, alone_lockEach, alone_unlockEach, alone_pure, endedSession_some]
  | some msg =>
    simp only [alone_bind, alone_lockEach, alone_unlockEach, alone_pure]
    exact alone_readMessageLocked fuel session msg

end

end XrceClient
