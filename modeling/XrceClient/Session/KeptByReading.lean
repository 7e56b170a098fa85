import XrceClient.Session.Effects

/-!
# What reading a message keeps

A message that is read changes a session in a few ways only: by its effects, by the answers to the
agent, and in the input streams that it comes on.

- `KeptByReading`: each of these keeps a property of sessions.
- `KeptByReading.readMessage`: then a message that is read keeps it.
- `SameStreams`: the same streams, in buffers of the same sizes, for the same client.
- `sameStreams_kept`: these are kept, whatever is read.
-/

namespace XrceClient

open ByteMemory OutputReliableStream

/-- The ring of slots has the same place and the same number of slots. -/
structure SameSlots (stream stream' : InputReliableStream) : Prop where
  size : stream'.base.size = stream.base.size
  history : stream'.base.history = stream.base.history
  onGetFragmentationInfo : stream'.onGetFragmentationInfo = stream.onGetFragmentationInfo

namespace SameSlots

variable {stream stream' stream'' : InputReliableStream}

theorem refl (stream : InputReliableStream) : SameSlots stream stream := ⟨rfl, rfl, rfl⟩

theorem trans (h : SameSlots stream stream') (h' : SameSlots stream' stream'') :
    SameSlots stream stream'' where
  size := h'.size.trans h.size
  history := h'.history.trans h.history
  onGetFragmentationInfo := h'.onGetFragmentationInfo.trans h.onGetFragmentationInfo

end SameSlots

/-! ## One input stream -/

theorem sameSlots_announce (stream : InputReliableStream) (seqNum : SeqNum) :
    SameSlots stream (stream.announce seqNum) := by
  rw [InputReliableStream.announce]
  split <;> exact ⟨rfl, rfl, rfl⟩

theorem sameSlots_receive {fuel : Nat} {stream : InputReliableStream} {seqNum : SeqNum}
    {msg : Datagram} {messageStored : Bool} {received : Reception}
    (h : receiveReliableMessage fuel stream seqNum msg messageStored = some received) :
    SameSlots stream received.stream := by
  have hstored : SameSlots stream ((stream.store seqNum msg).announce seqNum) := by
    have hstore : SameSlots stream (stream.store seqNum msg) := ⟨rfl, rfl, rfl⟩
    exact hstore.trans (sameSlots_announce _ _)
  rw [receiveReliableMessage] at h
  dsimp only at h
  split at h
  · split at h
    · cases h
      have hnext : SameSlots stream
          { stream with lastHandled := seqNumAdd stream.lastHandled 1 } := ⟨rfl, rfl, rfl⟩
      exact hnext.trans (sameSlots_announce _ _)
    · split at h
      · split at h
        · obtain ⟨_, -, rfl⟩ := Option.map_eq_some_iff.mp h
          exact hstored
        · cases h
          exact hstored
      · cases h
        exact sameSlots_announce stream seqNum
  · cases h
    exact sameSlots_announce stream seqNum

section

variable [MicroCdr]

theorem sameSlots_onFull (stream : InputReliableStream) (ub : UcdrBuffer) :
    SameSlots stream (onFullInputBuffer stream ub).2.1 := by
  rw [onFullInputBuffer]
  dsimp only
  split <;> split <;> exact ⟨rfl, rfl, rfl⟩

theorem sameSlots_next {fuel : Nat} {stream stream' : InputReliableStream} {ub ub' : UcdrBuffer}
    {fragmentOffset : Nat} {available : Bool}
    (h : nextInputReliableBufferAvailable fuel stream ub fragmentOffset =
      some (available, stream', ub')) : SameSlots stream stream' := by
  rw [nextInputReliableBufferAvailable] at h
  dsimp only at h
  split at h
  · split at h
    · cases h
      exact ⟨rfl, rfl, rfl⟩
    · obtain ⟨⟨found, last⟩, -, hnext⟩ := Option.map_eq_some_iff.mp h
      dsimp only at hnext
      split at hnext <;> cases hnext <;> exact ⟨rfl, rfl, rfl⟩
  · cases h
    exact SameSlots.refl stream

end

/-! ## A property of sessions -/

section

variable [MicroCdr] {shiftBeyond : Nat → UInt16} {P : Session → Prop}

/-- Each thing that is done to a session while a message is read keeps a property. -/
structure KeptByReading (shiftBeyond : Nat → UInt16) (P : Session → Prop) : Prop where
  emit : ∀ effect session, P session → P (Session.emit shiftBeyond effect session)
  answer : ∀ id session, P session → P (writeSubmessageAcknack shiftBeyond session id)
  access : ∀ accesses session, P session → P (session.access accesses)
  bestEffort : ∀ i stream session, P session →
    P { session with streams := session.streams.setInputBestEffort i stream }
  reliable : ∀ i stream session, SameSlots (session.streams.inputReliable i) stream → P session →
    P { session with streams := session.streams.setInputReliable i stream }

namespace KeptByReading

variable [LawfulMicroCdr]

/-- A run keeps what the effects, the callback and the cleanup flag keep. -/
theorem run {env : ReadEnv Session} (h : KeptByReading shiftBeyond P)
    (hemit : env.emit = Session.emit shiftBeyond)
    (hfull : ∀ session ub, P session → P (env.dev.onFull session ub).2.1)
    (hflag : ∀ flag session, P session → P (env.setCleanupFlag flag session)) {α : Type}
    (program : Program ReadOp α) (session : Session) (ub : UcdrBuffer) (hP : P session) :
    P (env.read program session ub).2.1 := by
  refine (Program.run_preserves env.handle (P := fun t =>
    P t.1 ∧ True ∧ ∀ outer ∈ t.2.outer, True) ?_ program
    (session, { ub, outer := none }) ⟨hP, trivial, fun _ _ => trivial⟩).1
  intro β op t ht
  refine handle_preserves (I := P) (C := fun _ => True) ?_ ?_ ?_ op t ht
  · intro s ub hs _
    exact ⟨hfull s ub hs, trivial⟩
  · intro flag s callback _ _ hs
    exact hflag flag s hs
  · intro effect s hs
    rw [hemit]
    exact h.emit effect s hs

theorem datagram (h : KeptByReading shiftBeyond P) (memory : Memory) {α : Type}
    (program : Program ReadOp α) (session : Session) (ub : UcdrBuffer) (hP : P session) :
    P ((datagramEnv shiftBeyond memory).read program session ub).2.1 := by
  refine h.run rfl ?_ ?_ program session ub hP
  · intro session ub hP
    exact hP
  · intro flag session hP
    exact hP

theorem slots (h : KeptByReading shiftBeyond P) (index : UInt8) {α : Type}
    (program : Program ReadOp α) (session : Session) (ub : UcdrBuffer) (hP : P session) :
    P ((slotsEnv shiftBeyond index).read program session ub).2.1 := by
  refine h.run rfl ?_ ?_ program session ub hP
  · intro session ub hP
    rw [slotsEnv]
    dsimp only
    split
    · exact hP
    · exact h.reliable _ _ _ (sameSlots_onFull _ _) (h.access _ _ hP)
  · intro flag session hP
    exact h.reliable index _ session ⟨rfl, rfl, rfl⟩ hP

variable {config : ReadConfig} {fuel : Nat} {session session' : Session}

omit [LawfulMicroCdr] in
/-- What a run to the end of a message keeps. -/
theorem submessages {env : ReadEnv Session} {ub : UcdrBuffer} {streamId : StreamId}
    (henv : P (env.read (readSubmessageList config fuel streamId) session ub).2.1)
    (h : readSubmessages config fuel env session ub streamId = some session') : P session' := by
  rw [readSubmessages] at h
  dsimp only at h
  split at h
  · cases h
    exact henv
  · cases h

theorem nextBuffers (h : KeptByReading shiftBeyond P) {streamId : StreamId} {nextMb : UcdrBuffer}
    (hread : readNextBuffers shiftBeyond config streamId fuel session nextMb = some session')
    (hP : P session) : P session' := by
  -- by induction on the messages that are taken out of the slots
  induction fuel generalizing session nextMb with
  | zero => cases hread
  | succ fuel ih =>
    rw [readNextBuffers] at hread
    obtain ⟨⟨available, stream, nextMb'⟩, hnext, hread⟩ := Option.bind_eq_some_iff.mp hread
    have htaken := h.reliable streamId.index stream
      (session.access [.remainder stream.base.history]) (sameSlots_next hnext) (h.access _ _ hP)
    dsimp only at hread
    split at hread
    · obtain ⟨session₁, hsubmessages, hrest⟩ := Option.bind_eq_some_iff.mp hread
      exact ih hrest (submessages (h.slots _ _ _ _ htaken) hsubmessages)
    · cases hread
      exact htaken

theorem reliableStream (h : KeptByReading shiftBeyond P) {memory : Memory} {ub : UcdrBuffer}
    {streamId : StreamId} {seqNum : SeqNum}
    (hread : readReliableStream shiftBeyond config fuel session memory ub streamId seqNum
      (session.streams.inputReliable streamId.index) = some session')
    (hP : P session) : P session' := by
  rw [readReliableStream] at hread
  obtain ⟨received, hreceived, hread⟩ := Option.bind_eq_some_iff.mp hread
  dsimp only at hread
  have hstored (accesses : List StorageAccess) :=
    h.reliable streamId.index received.stream (session.access accesses)
      (sameSlots_receive hreceived) (h.access accesses session hP)
  split at hread
  · split at hread
    · exact h.nextBuffers hread (hstored _)
    · obtain ⟨session₁, hsubmessages, hrest⟩ := Option.bind_eq_some_iff.mp hread
      exact h.nextBuffers hrest (submessages (h.datagram memory _ _ _ (hstored _)) hsubmessages)
  · cases hread
    exact hstored _

theorem stream (h : KeptByReading shiftBeyond P) {memory : Memory} {ub : UcdrBuffer}
    {streamId : StreamId} {seqNum : SeqNum}
    (hread : readStream shiftBeyond config fuel session memory ub streamId seqNum = some session')
    (hP : P session) : P session' := by
  rw [readStream] at hread
  split at hread
  · exact submessages (h.datagram memory _ _ _ hP) hread
  · split at hread
    · dsimp only at hread
      have htaken (stream : InputBestEffortStream) (accesses : List StorageAccess) :=
        h.bestEffort streamId.index stream (session.access accesses) (h.access accesses session hP)
      split at hread
      · exact submessages (h.datagram memory _ _ _ (htaken _ _)) hread
      · cases hread
        exact htaken _ _
    · cases hread
      exact hP
  · obtain ⟨session₁, hrest, hanswer⟩ := Option.map_eq_some_iff.mp hread
    subst hanswer
    refine h.answer streamId session₁ ?_
    split at hrest
    · next hfound =>
      rw [getInputReliableStream] at hfound
      split at hfound
      · cases hfound
        exact h.reliableStream hrest hP
      · cases hfound
    · cases hrest
      exact hP

/-- A message that is read keeps what everything in it keeps. -/
theorem readMessage (h : KeptByReading shiftBeyond P) {msg : Datagram}
    (hread : XrceClient.readMessage shiftBeyond config fuel session msg = some session')
    (hP : P session) : P session' := by
  rw [XrceClient.readMessage] at hread
  dsimp only at hread
  have hheader := h.datagram msg.memory (readBuffer (readSessionHeader session.info)) session
    (ucdrInitBuffer msg.buffered.buffer msg.buffered.length) hP
  split at hread
  · exact h.stream hread hheader
  · cases hread
    exact hheader

end KeptByReading

end

/-! ## The streams -/

/-- The same streams of the same client: those that only the user writes to are as they were, the
others have buffers of the same shape. -/
structure SameStreams (session session' : Session) : Prop where
  id : session'.info.id = session.info.id
  key : session'.info.key = session.info.key
  outputBestEffort : session'.streams.outputBestEffort = session.streams.outputBestEffort
  outputBestEffortSize : session'.streams.outputBestEffortSize =
    session.streams.outputBestEffortSize
  outputReliable : ∀ i, SameShape (session.streams.outputReliable i)
    (session'.streams.outputReliable i)
  outputReliableSize : session'.streams.outputReliableSize = session.streams.outputReliableSize
  inputBestEffortSize : session'.streams.inputBestEffortSize = session.streams.inputBestEffortSize
  inputReliable : ∀ i, SameSlots (session.streams.inputReliable i)
    (session'.streams.inputReliable i)
  inputReliableSize : session'.streams.inputReliableSize = session.streams.inputReliableSize

namespace SameStreams

variable {session session' session'' : Session}

/-- Nothing but the request and its status, and what was sent, may be other than it was. -/
theorem of_streams (hid : session'.info.id = session.info.id)
    (hkey : session'.info.key = session.info.key) (hstreams : session'.streams = session.streams) :
    SameStreams session session' where
  id := hid
  key := hkey
  outputBestEffort := by rw [hstreams]
  outputBestEffortSize := by rw [hstreams]
  outputReliable i := by
    rw [hstreams]
    exact SameShape.refl _
  outputReliableSize := by rw [hstreams]
  inputBestEffortSize := by rw [hstreams]
  inputReliable i := by
    rw [hstreams]
    exact SameSlots.refl _
  inputReliableSize := by rw [hstreams]

theorem refl (session : Session) : SameStreams session session := of_streams rfl rfl rfl

theorem trans (h : SameStreams session session') (h' : SameStreams session' session'') :
    SameStreams session session'' where
  id := h'.id.trans h.id
  key := h'.key.trans h.key
  outputBestEffort := h'.outputBestEffort.trans h.outputBestEffort
  outputBestEffortSize := h'.outputBestEffortSize.trans h.outputBestEffortSize
  outputReliable i := (h.outputReliable i).trans (h'.outputReliable i)
  outputReliableSize := h'.outputReliableSize.trans h.outputReliableSize
  inputBestEffortSize := h'.inputBestEffortSize.trans h.inputBestEffortSize
  inputReliable i := (h.inputReliable i).trans (h'.inputReliable i)
  inputReliableSize := h'.inputReliableSize.trans h.inputReliableSize

/-- An input stream is replaced by one in the same slots. -/
theorem setInputReliable (session : Session) (i : UInt8) {stream : InputReliableStream}
    (hslots : SameSlots (session.streams.inputReliable i) stream) :
    SameStreams session
      { session with streams := session.streams.setInputReliable i stream } := by
  refine { refl session with inputReliable := fun j => ?_ }
  show SameSlots _ (Function.update session.streams.inputReliable i stream j)
  by_cases hj : j = i
  · rw [hj, Function.update_self]
    exact hslots
  · rw [Function.update_of_ne hj]
    exact SameSlots.refl _

/-- An output stream is replaced by one of the same shape. -/
theorem setOutputReliable (session : Session) (i : UInt8) {stream : OutputReliableStream}
    (hshape : SameShape (session.streams.outputReliable i) stream) :
    SameStreams session
      { session with streams := session.streams.setOutputReliable i stream } := by
  refine { refl session with outputReliable := fun j => ?_ }
  show SameShape _ (Function.update session.streams.outputReliable i stream j)
  by_cases hj : j = i
  · rw [hj, Function.update_self]
    exact hshape
  · rw [Function.update_of_ne hj]
    exact SameShape.refl _

end SameStreams

section

variable [MicroCdr] {shiftBeyond : Nat → UInt16}

theorem sameStreams_emit (effect : Effect) (session : Session) :
    SameStreams session (Session.emit shiftBeyond effect session) := by
  have hsame {session' : Session} (hid : session'.info.id = session.info.id)
      (hkey : session'.info.key = session.info.key)
      (hstreams : session'.streams = session.streams) : SameStreams session session' :=
    .of_streams hid hkey hstreams
  cases effect with
  | heartbeat payload =>
    rw [Session.emit, readSubmessageHeartbeat]
    dsimp only
    split
    · next stream hfound =>
      rw [getInputReliableStream] at hfound
      split at hfound
      · cases hfound
        have hannounced := SameStreams.setInputReliable session
          (streamIdFromRaw payload.streamId .inputStream).index
          (sameSlots_announce _ payload.lastUnackedSeqNr)
        exact hannounced.trans (.of_streams rfl rfl rfl)
      · cases hfound
    · exact hsame rfl rfl rfl
  | acknack payload whole =>
    rw [Session.emit, readSubmessageAcknack]
    dsimp only
    split
    · next stream hfound =>
      rw [getOutputReliableStream] at hfound
      split at hfound
      · cases hfound
        have hshape (stream : OutputReliableStream) : SameShape stream (sendLostMessages
            (processAcknack stream (uint16FromRaw payload.nackBitmap)
              payload.firstUnackedSeqNum)).2 := by
          rw [sendLostMessages_stream]
          exact (sameShape_cleanBuffers _ stream).trans ⟨rfl, rfl, rfl⟩
        have hacknowledged := SameStreams.setOutputReliable session
          (streamIdFromRaw payload.streamId .inputStream).index (hshape _)
        exact hacknowledged.trans (.of_streams rfl rfl rfl)
      · cases hfound
    · exact hsame rfl rfl rfl
  | deleteSessionStatus requestId status whole =>
    rw [Session.emit]
    dsimp only
    split <;> exact hsame rfl rfl rfl
  | _ => exact hsame rfl rfl rfl

/-- Whatever is read, the streams stay where they are. -/
theorem sameStreams_kept (start : Session) : KeptByReading shiftBeyond (SameStreams start) where
  emit effect session h := h.trans (sameStreams_emit effect session)
  answer _ _ h := h.trans (.of_streams rfl rfl rfl)
  access _ _ h := h.trans (.of_streams rfl rfl rfl)
  bestEffort _ _ session h := h.trans { SameStreams.refl session with }
  reliable i _ session hslots h := h.trans (.setInputReliable session i hslots)

end

end XrceClient
