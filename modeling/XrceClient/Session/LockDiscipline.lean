import XrceClient.Session.ControlMessages
import XrceClient.Session.LocksAlone
import XrceClient.Session.SlotReading

/-!
# Which streams are changed under their locks

The output streams of a session, in any number of threads that call it.

- `Mutex.Changes`: the stream of a mutex is a different one.
- `SessionAct.Settled`: an acknowledgement that changes nothing. The ACKNACK is the one message that
  changes an output stream, and what it locks is an input stream.
- `SessionCall`: the calls.
-/

namespace XrceClient

open ByteMemory Relation

/-! ## What is guarded -/

/-- An output stream is a different one, in a field or in a slot. -/
def Mutex.Changes (mutex : Mutex) (session session' : Session) : Prop :=
  match mutex with
  | .outputBestEffort i =>
    session'.streams.outputBestEffort i ≠ session.streams.outputBestEffort i
  | .outputReliable i => session'.streams.outputReliable i ≠ session.streams.outputReliable i
  | .inputBestEffort _ => False
  | .inputReliable _ => False

/-- The acknowledgement is the one that was processed last, and is processed to its end. -/
def AcknackRepeated (stream : OutputReliableStream) (bitmap : UInt16)
    (firstUnackedSeqNum : SeqNum) : Prop :=
  firstUnackedSeqNum = seqNumAdd stream.lastAcknown 1 ∧ stream.nextHeartbeatTries = 0 ∧
    stream.sendLost = decide (0 < bitmap)

/-- The act leaves the stream of the acknowledgement as it is. -/
def SessionAct.Settled (act : SessionAct) (session : Session) : Prop :=
  match act with
  | .processAcknack acknack =>
    AcknackRepeated
      (session.streams.outputReliable (streamIdFromRaw acknack.streamId .inputStream).index)
      (uint16FromRaw acknack.nackBitmap) acknack.firstUnackedSeqNum
  | .sendLost acknack =>
    (session.streams.outputReliable
      (streamIdFromRaw acknack.streamId .inputStream).index).sendLost = false
  | .other => True

theorem not_changes_self (m : Mutex) (session : Session) : ¬ m.Changes session session := by
  cases m with
  | outputBestEffort i => exact not_not.mpr rfl
  | outputReliable i => exact not_not.mpr rfl
  | inputBestEffort i => exact id
  | inputReliable i => exact id

/-- The mutexes guard the output streams. -/
def sessionLocks (sizes : StreamSizes) : LockDiscipline Mutex Session SessionAct where
  inv session := session.streams.sizes = sizes
  meets := SessionAct.Settled
  changes := Mutex.Changes
  not_changes := not_changes_self

/-- An acknowledgement changes nothing exactly if it was processed before. -/
theorem processAcknack_eq_iff (stream : OutputReliableStream) (bitmap : UInt16) (f : SeqNum) :
    processAcknack stream bitmap f = stream ↔ AcknackRepeated stream bitmap f := by
  constructor
  · intro hsame
    have hlast : f - 1 = stream.lastAcknown :=
      (processAcknack_lastAcknown stream bitmap f).symm.trans
        (congrArg OutputReliableStream.lastAcknown hsame)
    exact ⟨by rw [seqNumAdd_eq, ← hlast, UInt16.sub_add_cancel],
      (congrArg OutputReliableStream.nextHeartbeatTries hsame).symm,
      (congrArg OutputReliableStream.sendLost hsame).symm⟩
  · rintro ⟨rfl, htries, hlost⟩
    rw [processAcknack_acknown, ← hlost]
    obtain ⟨base, offset, written, sent, acknown, timestamp, tries, lost⟩ := stream
    cases htries
    rfl

theorem sendLostMessages_eq_iff (stream : OutputReliableStream) :
    (sendLostMessages stream).2 = stream ↔ stream.sendLost = false := by
  rw [sendLostMessages_stream]
  constructor
  · exact fun hsame => (congrArg OutputReliableStream.sendLost hsame).symm
  · intro hlost
    obtain ⟨base, offset, written, sent, acknown, timestamp, tries, lost⟩ := stream
    cases hlost
    rfl

/-! ## What acts change -/

/-- At most the stream of the mutex, if any, is changed. -/
structure ChangesOnly (mutex : Option Mutex) (session session' : Session) : Prop where
  sizes : session'.streams.sizes = session.streams.sizes
  changes : ∀ m, m.Changes session session' → mutex = some m

theorem ChangesOnly.refl (mutex : Option Mutex) (session : Session) :
    ChangesOnly mutex session session :=
  ⟨rfl, fun m h => absurd h (not_changes_self m session)⟩

theorem ChangesOnly.of_same {mutex : Option Mutex} {session session' : Session}
    (hsizes : session'.streams.sizes = session.streams.sizes)
    (hbestEffort : session'.streams.outputBestEffort = session.streams.outputBestEffort)
    (hreliable : session'.streams.outputReliable = session.streams.outputReliable) :
    ChangesOnly mutex session session' := by
  refine ⟨hsizes, fun m h => ?_⟩
  cases m with
  | outputBestEffort i => exact absurd (congrFun hbestEffort i) h
  | outputReliable i => exact absurd (congrFun hreliable i) h
  | inputBestEffort i => exact absurd h id
  | inputReliable i => exact absurd h id

/-- Nothing is changed twice. -/
theorem ChangesOnly.trans_none {session session' session'' : Session}
    (h : ChangesOnly none session session') (h' : ChangesOnly none session' session'') :
    ChangesOnly none session session'' := by
  have hsame {session session' : Session} (h : ChangesOnly none session session') :
      session'.streams.outputBestEffort = session.streams.outputBestEffort ∧
        session'.streams.outputReliable = session.streams.outputReliable := by
    constructor
    · funext i
      by_contra hchanged
      cases h.changes (.outputBestEffort i) hchanged
    · funext i
      by_contra hchanged
      cases h.changes (.outputReliable i) hchanged
  exact .of_same (h'.sizes.trans h.sizes) ((hsame h').1.trans (hsame h).1)
    ((hsame h').2.trans (hsame h).2)

theorem changesOnly_setOutputReliable {session session' : Session} {i : UInt8}
    {stream : OutputReliableStream}
    (hset : session'.streams = session.streams.setOutputReliable i stream) :
    ChangesOnly (some (.outputReliable i)) session session' := by
  refine ⟨by rw [hset]; rfl, fun m h => ?_⟩
  dsimp only [Mutex.Changes] at h
  rw [hset] at h
  cases m with
  | outputBestEffort j => exact absurd rfl h
  | outputReliable j =>
    by_cases hj : j = i
    · rw [hj]
    · exact absurd (Function.update_of_ne hj _ _) h
  | inputBestEffort j => exact absurd h id
  | inputReliable j => exact absurd h id

theorem changesOnly_setOutputBestEffort {session session' : Session} {i : UInt8}
    {stream : OutputBestEffortStream}
    (hset : session'.streams = session.streams.setOutputBestEffort i stream) :
    ChangesOnly (some (.outputBestEffort i)) session session' := by
  refine ⟨by rw [hset]; rfl, fun m h => ?_⟩
  dsimp only [Mutex.Changes] at h
  rw [hset] at h
  cases m with
  | outputBestEffort j =>
    by_cases hj : j = i
    · rw [hj]
    · exact absurd (Function.update_of_ne hj _ _) h
  | outputReliable j => exact absurd rfl h
  | inputBestEffort j => exact absurd h id
  | inputReliable j => exact absurd h id

/-! ## The mutex of an identifier -/

/-- The mutex of a stream that is found. -/
theorem map_found {γ : Type} (index size : UInt8) (stream : γ) (mutex : Mutex) :
    ((if index < size then some stream else none).map fun _ => mutex) =
      if index < size then some mutex else none := by
  split <;> rfl

/-- The mutex depends on the numbers of streams only. -/
theorem getStreamMutexFromId_sizes {streams streams' : StreamStorage}
    (h : streams'.sizes = streams.sizes) (id : StreamId) :
    getStreamMutexFromId streams' id = getStreamMutexFromId streams id := by
  obtain ⟨h₁, h₂, h₃, h₄⟩ := StreamSizes.mk.inj h
  obtain ⟨raw, index, type, direction⟩ := id
  cases type <;> cases direction <;>
    simp only [getStreamMutexFromId, getOutputBestEffortStream, getInputBestEffortStream,
      getOutputReliableStream, getInputReliableStream, map_found, h₁, h₂, h₃, h₄]

section

variable {sizes : StreamSizes} {held : List (LockKey × Option Mutex)} {α β : Type}

/-- An act that changes the stream of an open lock at most. -/
theorem keeps_perform {f : Session → β × Session} {Q : β → List (LockKey × Option Mutex) → Prop}
    {mutex : Option Mutex} (hheld : ∀ m, mutex = some m → ∃ key, (key, some m) ∈ held)
    (hchanges : ∀ session : Session, session.streams.sizes = sizes →
      ChangesOnly mutex session (f session).2)
    (hQ : ∀ session : Session, session.streams.sizes = sizes → Q (f session).1 held) :
    KeepsLocks (sessionLocks sizes) (perform f) held Q := by
  intro session hsizes
  obtain ⟨hsame, honly⟩ := hchanges session hsizes
  exact ⟨hsame.trans hsizes, iff_of_true (fun m hm => hheld m (honly m hm)) trivial,
    hQ session hsizes⟩

/-- An act that leaves the output streams alone. -/
theorem keeps_perform_none {f : Session → β × Session}
    {Q : β → List (LockKey × Option Mutex) → Prop}
    (hchanges : ∀ session, ChangesOnly none session (f session).2)
    (hQ : ∀ session : Session, session.streams.sizes = sizes → Q (f session).1 held) :
    KeepsLocks (sessionLocks sizes) (perform f) held Q :=
  keeps_perform (fun _ h => by cases h) (fun session _ => hchanges session) hQ

theorem keepsHeld_perform {f : Session → β × Session}
    (hchanges : ∀ session, ChangesOnly none session (f session).2) :
    KeepsHeld (sessionLocks sizes) (perform f) held :=
  keeps_perform_none hchanges fun _ _ => rfl

/-- No open lock is one of a reliable output stream. -/
def NoOutput (held : List (LockKey × Option Mutex)) : Prop :=
  ∀ key i, (key, some (Mutex.outputReliable i)) ∉ held

/-- An act that changes a reliable output stream, exactly if it is not settled, and none is
locked. -/
theorem keepsHeld_settled {act : SessionAct} {f : Session → PUnit × Session} (i : UInt8)
    (hheld : NoOutput held)
    (hchanges : ∀ session, ChangesOnly (some (.outputReliable i)) session (f session).2)
    (hsettled : ∀ session : Session,
      (f session).2.streams.outputReliable i = session.streams.outputReliable i ↔
        act.Settled session) :
    KeepsHeld (sessionLocks sizes) (Program.call (.act act f) : LockedSession PUnit) held := by
  intro session hsizes
  obtain ⟨hsame, honly⟩ := hchanges session
  refine ⟨hsame.trans hsizes, .trans ?_ (hsettled session), rfl⟩
  constructor
  · intro hguarded
    by_contra hchanged
    obtain ⟨key, hkey⟩ := hguarded (.outputReliable i) hchanged
    exact hheld key i hkey
  · intro hsame m hm
    cases honly m hm
    exact absurd hsame hm

/-- An act that changes the stream of an open lock. -/
theorem keepsHeld_performOn {f : Session → β × Session} {m : Mutex}
    (hheld : ∃ key, (key, some m) ∈ held)
    (hchanges : ∀ session, ChangesOnly (some m) session (f session).2) :
    KeepsHeld (sessionLocks sizes) (perform f) held := by
  refine keeps_perform ?_ (fun session _ => hchanges session) fun _ _ => rfl
  rintro m ⟨⟩
  exact hheld

/-- `UXR_LOCK_STREAM_ID` takes the mutex that `UXR_UNLOCK_STREAM_ID` releases. -/
theorem keepsHeld_lockStreamId {id : StreamId} {p : LockedSession α}
    (hp : ∀ session : Session, session.streams.sizes = sizes → KeepsHeld (sessionLocks sizes) p
      ((.streamId id, getStreamMutexFromId session.streams id) :: held)) :
    KeepsHeld (sessionLocks sizes) (lockStreamId id p) held :=
  keeps_locked (fun _ _ h h' => getStreamMutexFromId_sizes (h'.trans h.symm) id) hp

theorem keepsHeld_lookAtSizes_bind {f : StreamSizes → LockedSession α}
    {Q : α → List (LockKey × Option Mutex) → Prop}
    (hf : KeepsLocks (sessionLocks sizes) (f sizes) held Q) :
    KeepsLocks (sessionLocks sizes) (lookAtSizes >>= f) held Q := by
  refine keeps_bind (keeps_perform_none (fun session => .refl none session) ?_)
  intro session hsizes
  rw [hsizes]
  exact hf

/-! ## Buffering -/

/-- The mutex of an output stream. -/
def outputMutex (id : StreamId) : Mutex :=
  if id.type = .bestEffortStream then .outputBestEffort id.index else .outputReliable id.index

/-- The mutex of the stream, if there is one, was taken. -/
def UnderLock (sizes : StreamSizes) (id : StreamId) (held : List (LockKey × Option Mutex)) : Prop :=
  ∀ session : Session, session.streams.sizes = sizes → ∀ m,
    getStreamMutexFromId session.streams id = some m → ∃ key, (key, some m) ∈ held

theorem underLock_cons {id : StreamId} {session : Session}
    (hsizes : session.streams.sizes = sizes) :
    UnderLock sizes id ((.streamId id, getStreamMutexFromId session.streams id) :: held) := by
  intro session' hsizes' m hm
  rw [getStreamMutexFromId_sizes (hsizes'.trans hsizes.symm)] at hm
  exact ⟨.streamId id, by rw [hm]; exact List.mem_cons_self⟩

section

variable [MicroCdr] {streamId : StreamId}

/-- Room is found in an output stream that there is, and made there. -/
theorem prepare_changesOnly (houtput : streamId.direction = .outputStream) {session : Session}
    {payloadSize : Nat} {streams : StreamStorage} {ub : UcdrBuffer}
    (h : prepareStreamToWriteSubmessage session.streams streamId payloadSize = some (streams, ub)) :
    getStreamMutexFromId session.streams streamId = some (outputMutex streamId) ∧
      ChangesOnly (some (outputMutex streamId)) session { session with streams } := by
  obtain ⟨raw, index, type, direction⟩ := streamId
  cases houtput
  unfold prepareStreamToWriteSubmessage at h
  cases type with
  | noneStream => cases h
  | bestEffortStream =>
    obtain ⟨stream, hstream, h⟩ := Option.bind_eq_some_iff.mp h
    obtain ⟨prepared, -, h⟩ := Option.bind_eq_some_iff.mp h
    cases h
    rw [getStreamMutexFromId, hstream]
    exact ⟨rfl, changesOnly_setOutputBestEffort rfl⟩
  | reliableStream =>
    obtain ⟨stream, hstream, h⟩ := Option.bind_eq_some_iff.mp h
    dsimp only at h
    split at h
    · cases h
      rw [getStreamMutexFromId, hstream]
      exact ⟨rfl, changesOnly_setOutputReliable rfl⟩
    · cases h

omit [MicroCdr] in
theorem write_changesOnly (session : Session) (write : Memory → Memory) :
    ChangesOnly (some (outputMutex streamId)) session
      { session with streams := writeStream session.streams streamId write } := by
  obtain ⟨raw, index, type, direction⟩ := streamId
  cases type with
  | noneStream => exact .refl _ session
  | bestEffortStream => exact changesOnly_setOutputBestEffort rfl
  | reliableStream => exact changesOnly_setOutputReliable rfl

theorem keeps_prepareLocked (houtput : streamId.direction = .outputStream)
    (hheld : UnderLock sizes streamId held) {payloadSize : Nat}
    {Q : Option UcdrBuffer → List (LockKey × Option Mutex) → Prop}
    (hroom : ∀ ub, (∃ key, (key, some (outputMutex streamId)) ∈ held) → Q (some ub) held)
    (hnone : Q none held) :
    KeepsLocks (sessionLocks sizes) (prepareLocked streamId payloadSize) held Q := by
  intro session hsizes
  dsimp only
  cases hprepare : prepareStreamToWriteSubmessage session.streams streamId payloadSize with
  | none =>
    exact ⟨hsizes, iff_of_true (fun m h => absurd h (not_changes_self m session)) trivial, hnone⟩
  | some room =>
    obtain ⟨hmutex, hsame, honly⟩ := prepare_changesOnly houtput hprepare
    have hlocked := hheld session hsizes _ hmutex
    refine ⟨hsame.trans hsizes, iff_of_true (fun m h => ?_) trivial, hroom _ hlocked⟩
    cases honly m h
    exact hlocked

omit [MicroCdr] in
theorem keepsHeld_writeLocked (hheld : ∃ key, (key, some (outputMutex streamId)) ∈ held)
    (write : Memory → Memory) : KeepsHeld (sessionLocks sizes) (writeLocked streamId write) held :=
  keepsHeld_performOn hheld fun session => write_changesOnly session write

omit [MicroCdr] in
theorem keeps_initBaseObjectRequestLocked (objectId : ObjectId) :
    KeepsLocks (sessionLocks sizes) (initBaseObjectRequestLocked objectId) held
      fun request held' => request.1 ≠ invalidRequestId ∧ held' = held :=
  keeps_perform_none (fun _ => .of_same rfl rfl rfl) fun session _ =>
    ⟨generateRequestId_ne session.info, rfl⟩

theorem keepsHeld_bufferLocked (houtput : streamId.direction = .outputStream) (objectId : ObjectId)
    (payloadSize : Nat) (write : BaseObjectRequest → UcdrBuffer → Memory → Memory) :
    KeepsHeld (sessionLocks sizes) (bufferLocked streamId objectId payloadSize write) held := by
  refine keepsHeld_lockStreamId fun session hsizes => keeps_bind ?_
  refine keeps_prepareLocked houtput (underLock_cons hsizes) (fun ub hlocked => ?_) rfl
  refine keeps_bind ((keeps_initBaseObjectRequestLocked objectId).mono ?_)
  rintro request _ ⟨-, rfl⟩
  exact (keepsHeld_writeLocked hlocked _).bind fun _ => rfl

omit [MicroCdr] in
/-- The unlock of a stream that was locked last. -/
theorem keepsHeld_unlockStreamId {session : Session} (hsizes : session.streams.sizes = sizes) :
    KeepsLocks (sessionLocks sizes)
      (Program.call (.unlock (.streamId streamId) fun session =>
        getStreamMutexFromId session.streams streamId) : LockedSession PUnit)
      ((.streamId streamId, getStreamMutexFromId session.streams streamId) :: held)
      fun _ held' => held' = held := by
  refine ⟨_, lookup_cons_self _ _, fun session' hsizes' => ?_, List.erase_cons_head _ _⟩
  exact getStreamMutexFromId_sizes (hsizes'.trans hsizes.symm) streamId

/-- `uxr_prepare_output_stream` leaves the stream locked if there is room. -/
theorem keeps_prepareOutputStreamLocked (houtput : streamId.direction = .outputStream)
    (entityId : ObjectId) (len : Nat) (write : BaseObjectRequest → UcdrBuffer → Memory → Memory) :
    KeepsLocks (sessionLocks sizes) (prepareOutputStreamLocked streamId entityId len write) held
      fun requestId held' =>
        if requestId = invalidRequestId then held' = held
        else ∃ session : Session, session.streams.sizes = sizes ∧
          held' = (.streamId streamId, getStreamMutexFromId session.streams streamId) :: held ∧
          ∃ key, (key, some (outputMutex streamId)) ∈ held' := by
  intro session hsizes
  refine keeps_bind (keeps_prepareLocked houtput (underLock_cons hsizes) (fun ub hlocked => ?_) ?_)
  · refine keeps_bind ((keeps_initBaseObjectRequestLocked entityId).mono ?_)
    rintro request _ ⟨hvalid, rfl⟩
    refine (keepsHeld_writeLocked hlocked _).bind fun _ => ?_
    show if request.1 = invalidRequestId then _ else _
    rw [if_neg hvalid]
    exact ⟨session, hsizes, rfl, hlocked⟩
  · refine keeps_bind ((keepsHeld_unlockStreamId hsizes).mono ?_)
    rintro _ _ rfl
    show if invalidRequestId = invalidRequestId then _ else _
    rw [if_pos rfl]

/-- A user that writes into the stream that it has prepared, and unlocks it. -/
theorem keepsHeld_writeOutputStreamLocked (houtput : streamId.direction = .outputStream)
    (entityId : ObjectId) (len : Nat) (write : BaseObjectRequest → UcdrBuffer → Memory → Memory)
    (payload : Memory → Memory) :
    KeepsHeld (sessionLocks sizes) (writeOutputStreamLocked streamId entityId len write payload)
      held := by
  refine keeps_bind ((keeps_prepareOutputStreamLocked houtput entityId len write).mono ?_)
  intro requestId held' hprepared
  by_cases hinvalid : requestId = invalidRequestId
  · rw [if_pos hinvalid] at hprepared
    rw [if_neg (not_not.mpr hinvalid)]
    exact hprepared
  · rw [if_neg hinvalid] at hprepared
    obtain ⟨session, hsizes, rfl, hlocked⟩ := hprepared
    rw [if_pos hinvalid]
    exact (keepsHeld_writeLocked hlocked payload).bind fun _ => keepsHeld_unlockStreamId hsizes

/-! ## Sending and heartbeats -/

omit [MicroCdr] in
/-- A stream that a loop gets to is found, and so its own mutex is taken. -/
theorem lock_outputReliable {session : Session} (hsizes : session.streams.sizes = sizes) {i : Nat}
    (hi : i ∈ List.range sizes.outputReliable.toNat) :
    getStreamMutexFromId session.streams
        (XrceClient.streamId (UInt8.ofNat i) .reliableStream .outputStream) =
      some (.outputReliable (UInt8.ofNat i)) := by
  have hfound : UInt8.ofNat i < session.streams.outputReliableSize := by
    rw [← hsizes] at hi
    exact UInt8.lt_iff_toNat_lt.mpr ((Nat.mod_le _ _).trans_lt (List.mem_range.mp hi))
  exact congrArg (Option.map _) (if_pos hfound)

omit [MicroCdr] in
theorem lock_outputBestEffort {session : Session} (hsizes : session.streams.sizes = sizes) {i : Nat}
    (hi : i ∈ List.range sizes.outputBestEffort.toNat) :
    getStreamMutexFromId session.streams
        (XrceClient.streamId (UInt8.ofNat i) .bestEffortStream .outputStream) =
      some (.outputBestEffort (UInt8.ofNat i)) := by
  have hfound : UInt8.ofNat i < session.streams.outputBestEffortSize := by
    rw [← hsizes] at hi
    exact UInt8.lt_iff_toNat_lt.mpr ((Nat.mod_le _ _).trans_lt (List.mem_range.mp hi))
  exact congrArg (Option.map _) (if_pos hfound)

theorem keepsHeld_flashBestEffortStreamLocked {i : Nat}
    (hi : i ∈ List.range sizes.outputBestEffort.toNat) :
    KeepsHeld (sessionLocks sizes) (flashBestEffortStreamLocked (UInt8.ofNat i)) held := by
  refine keepsHeld_lockStreamId fun session hsizes => ?_
  rw [lock_outputBestEffort hsizes hi]
  refine keepsHeld_performOn ⟨_, List.mem_cons_self⟩ fun session => ?_
  dsimp only [flashBestEffortStream]
  split
  · exact changesOnly_setOutputBestEffort rfl
  · exact .refl _ session

variable {platform : Platform}

/-- The messages of a stream are sent under its lock. -/
theorem keepsHeld_flashMessages {i : UInt8} (hheld : ∃ key, (key, some (.outputReliable i)) ∈ held)
    (fuel : Nat) : KeepsHeld (sessionLocks sizes) (flashMessages platform i fuel) held := by
  induction fuel with
  | zero => exact rfl
  | succ fuel ih =>
    refine (keepsHeld_performOn hheld fun session => ?_).bind fun next => ?_
    · dsimp only
      split
      · exact changesOnly_setOutputReliable rfl
      · exact .refl _ session
    · cases next with
      | none => exact rfl
      | some next =>
        refine (keepsHeld_performOn hheld fun session => ?_).bind fun sent => ?_
        · exact changesOnly_setOutputReliable rfl
        · cases sent with
          | true => exact ih
          | false =>
            exact keepsHeld_performOn hheld fun session => changesOnly_setOutputReliable rfl

theorem keepsHeld_flashOutputStreamsLocked (fuel : Nat) :
    KeepsHeld (sessionLocks sizes) (flashOutputStreamsLocked platform fuel) held := by
  refine keepsHeld_lookAtSizes_bind ?_
  refine (keepsHeld_foldlM (fun _ i hi => ?_) _).bind fun _ =>
    keepsHeld_foldlM (fun ended i hi => ?_) _
  · exact keepsHeld_flashBestEffortStreamLocked hi
  · cases ended with
    | none => exact rfl
    | some _ =>
      refine keepsHeld_lockStreamId fun session hsizes => ?_
      rw [lock_outputReliable hsizes hi]
      exact keepsHeld_flashMessages ⟨_, List.mem_cons_self⟩ fuel

theorem keepsHeld_updateHeartbeatsLocked (timestamp : Int) :
    KeepsHeld (sessionLocks sizes) (updateHeartbeatsLocked platform timestamp) held := by
  refine keepsHeld_lookAtSizes_bind (keepsHeld_foldlM (fun next i hi => ?_) _)
  refine keepsHeld_lockStreamId fun session hsizes => ?_
  rw [lock_outputReliable hsizes hi]
  refine keepsHeld_performOn ⟨_, List.mem_cons_self⟩ fun session => ?_
  dsimp only [heartbeatStream]
  split <;> exact changesOnly_setOutputReliable rfl

end

end

end XrceClient
