import XrceClient.Session.Session

/-!
# Messages for streams that were not created

The header of a message names a stream by one byte from the network. `read_stream` looks
the stream up, and answers with an ACKNACK when the type is that of reliable streams,
whether or not the stream was found.

- `UnknownStream`: the named stream was not created.
- `StorageAccess.Created`: a use of the storage that stays within what was created.
- `Inert`: nothing of what was created changes, no callback is called, and the storage
  is used within what was created.
- `unknown_stream_inert_iff`: messages for unknown best-effort streams are inert, those
  for unknown reliable streams are not.
-/

namespace XrceClient

open ByteMemory

/-- The identifier is that of a stream that was not created. -/
def UnknownStream (streams : StreamStorage) (id : StreamId) : Prop :=
  (id.type = .reliableStream ∧ streams.inputReliableSize ≤ id.index) ∨
    (id.type = .bestEffortStream ∧ streams.inputBestEffortSize ≤ id.index)

/-- The entry was created, and the remainder is not one by zero. -/
def StorageAccess.Created (streams : StreamStorage) : StorageAccess → Prop
  | .outputReliable index => index < streams.outputReliableSize
  | .inputBestEffort index => index < streams.inputBestEffortSize
  | .inputReliable index => index < streams.inputReliableSize
  | .remainder history => history ≠ 0
  | .inputSlot index _ => index < streams.inputReliableSize

/-- From one session to the next, the created streams stay as they are, no effect takes
place, and the storage is used within what was created. -/
structure Inert (session session' : Session) : Prop where
  outputBestEffort : ∀ i, i < session.streams.outputBestEffortSize →
    session'.streams.outputBestEffort i = session.streams.outputBestEffort i
  outputReliable : ∀ i, i < session.streams.outputReliableSize →
    session'.streams.outputReliable i = session.streams.outputReliable i
  inputBestEffort : ∀ i, i < session.streams.inputBestEffortSize →
    session'.streams.inputBestEffort i = session.streams.inputBestEffort i
  inputReliable : ∀ i, i < session.streams.inputReliableSize →
    session'.streams.inputReliable i = session.streams.inputReliable i
  effects : session'.effects = session.effects
  accesses : ∃ accesses, session'.accesses = session.accesses ++ accesses ∧
    ∀ access ∈ accesses, access.Created session.streams

theorem inert_refl (session : Session) : Inert session session :=
  ⟨fun _ _ => rfl, fun _ _ => rfl, fun _ _ => rfl, fun _ _ => rfl, rfl, [], by simp, nofun⟩

section

variable [MicroCdr] {shiftBeyond : Nat → UInt16} {config : ReadConfig} {session : Session}

/-- Reading a message for an unknown reliable stream is nothing but the answer. -/
theorem readStream_unknown_reliable {id : StreamId} (htype : id.type = .reliableStream)
    (hunknown : session.streams.inputReliableSize ≤ id.index) (fuel : Nat) (memory : Memory)
    (ub : UcdrBuffer) (seqNum : SeqNum) :
    readStream shiftBeyond config fuel session memory ub id seqNum =
      some (writeSubmessageAcknack shiftBeyond session id) := by
  rw [readStream, htype]
  dsimp only
  rw [getInputReliableStream, if_neg (UInt8.not_lt.mpr hunknown)]
  rfl

/-- Reading a message for an unknown best-effort stream is nothing. -/
theorem readStream_unknown_bestEffort {id : StreamId} (htype : id.type = .bestEffortStream)
    (hunknown : session.streams.inputBestEffortSize ≤ id.index) (fuel : Nat) (memory : Memory)
    (ub : UcdrBuffer) (seqNum : SeqNum) :
    readStream shiftBeyond config fuel session memory ub id seqNum = some session := by
  rw [readStream, htype]
  dsimp only
  rw [getInputBestEffortStream, if_neg (UInt8.not_lt.mpr hunknown)]

/-- The answer for an unknown stream is written from an entry that was not created. -/
theorem not_inert_writeSubmessageAcknack {id : StreamId}
    (hunknown : session.streams.inputReliableSize ≤ id.index) :
    ¬ Inert session (writeSubmessageAcknack shiftBeyond session id) := by
  rintro ⟨-, -, -, -, -, accesses, hrecord, hcreated⟩
  have haccesses : accesses = .inputReliable id.index ::
      acknackAccesses (session.streams.inputReliable id.index) :=
    (List.append_cancel_left hrecord).symm
  have hindex := hcreated (.inputReliable id.index) (haccesses ▸ List.mem_cons_self)
  exact absurd hindex (UInt8.not_lt.mpr hunknown)

variable [LawfulMicroCdr]

/-- A message whose header is not the session's is dropped, and the others are read as the
stream that they name. -/
theorem readMessage_eq (fuel : Nat) (msg : Datagram) :
    ∃ ub seqNum, readMessage shiftBeyond config fuel session msg =
      if HeaderAccepted session.info msg.buffered then
        readStream shiftBeyond config fuel session msg.memory ub (headerStreamId msg) seqNum
      else some session := by
  obtain ⟨streamIdRaw, seqNum, c, hheader, hid⟩ :=
    readSessionHeader_run (datagramEnv shiftBeyond msg.memory) session.info msg.buffered session
      fun _ => rfl
  refine ⟨c.ub, seqNum, ?_⟩
  rw [readMessage, hheader]
  by_cases haccepted : HeaderAccepted session.info msg.buffered
  · have hnamed : headerStreamId msg.buffered = headerStreamId msg := rfl
    simp [haccepted, hid haccepted, hnamed]
  · simp [haccepted]

end

/-- In every state, a message that names a stream that was not created is read to its end;
it is inert exactly when its header is not the session's or the stream is a best-effort
one. -/
theorem unknown_stream_inert_iff [MicroCdr] [LawfulMicroCdr] (shiftBeyond : Nat → UInt16)
    (config : ReadConfig) (fuel : Nat) (session : Session) (msg : Datagram)
    (hunknown : UnknownStream session.streams (headerStreamId msg)) :
    ∃ session', readMessage shiftBeyond config fuel session msg = some session' ∧
      (Inert session session' ↔
        ¬ HeaderAccepted session.info msg.buffered ∨ (headerStreamId msg).type = .bestEffortStream) := by
  obtain ⟨ub, seqNum, hread⟩ := @readMessage_eq _ shiftBeyond config session _ fuel msg
  rw [hread]
  by_cases haccepted : HeaderAccepted session.info msg.buffered
  · rw [if_pos haccepted]
    rcases hunknown with ⟨htype, hindex⟩ | ⟨htype, hindex⟩
    · rw [readStream_unknown_reliable htype hindex]
      refine ⟨_, rfl, ⟨fun hinert => absurd hinert (not_inert_writeSubmessageAcknack hindex), ?_⟩⟩
      rintro (hrejected | hbestEffort)
      · exact absurd haccepted hrejected
      · rw [htype] at hbestEffort
        cases hbestEffort
    · rw [readStream_unknown_bestEffort htype hindex]
      exact ⟨session, rfl, fun _ => .inr htype, fun _ => inert_refl session⟩
  · rw [if_neg haccepted]
    exact ⟨session, rfl, fun _ => .inl haccepted, fun _ => inert_refl session⟩

/-- A session without streams, in memory that is all zero. -/
def noStreams : Session where
  info := { id := 0x81, key := [0, 0, 0, 0], lastRequestedStatus := 0xFF, lastRequestId := 9 }
  streams := .zeroed
  sent := []
  effects := []
  accesses := []

/-- A message of the session with number 0, for the given stream. -/
def messageFor (streamIdRaw : UInt8) : Datagram where
  memory a := [0x81, streamIdRaw].getD a 0
  buffer := 0
  length := 12

/-- A message for a best-effort stream is inert in the session without streams. -/
theorem unknown_stream_inert_iff_noStreams :
    ∃ session', @readMessage referenceMicroCdr (fun _ => 0) noCallbacks 0 noStreams
        (messageFor 0x01) = some session' ∧ Inert noStreams session' :=
  have ⟨session', hread, hiff⟩ := @unknown_stream_inert_iff referenceMicroCdr
    referenceMicroCdr_lawful (fun _ => 0) noCallbacks 0 noStreams (messageFor 0x01)
    (.inr ⟨by decide, by decide⟩)
  ⟨session', hread, hiff.mpr (.inr (by decide))⟩

/-- A message for a reliable stream is not: the session without streams answers it from
memory that no stream was created in, with a remainder by zero on the way. -/
theorem message_for_unknown_reliable_stream_not_inert :
    UnknownStream noStreams.streams (headerStreamId (messageFor 0x80)) ∧
      ∃ session', @readMessage referenceMicroCdr (fun _ => 0) noCallbacks 0 noStreams
          (messageFor 0x80) = some session' ∧
        ¬ Inert noStreams session' ∧ .remainder 0 ∈ session'.accesses := by
  have hunknown : noStreams.streams.inputReliableSize ≤ (headerStreamId (messageFor 0x80)).index :=
    by decide
  obtain ⟨ub, seqNum, hread⟩ := @readMessage_eq referenceMicroCdr (fun _ => 0) noCallbacks
    noStreams referenceMicroCdr_lawful 0 (messageFor 0x80)
  rw [if_pos (by decide), @readStream_unknown_reliable referenceMicroCdr _ _ _ _ (by decide)
    hunknown] at hread
  refine ⟨.inl ⟨by decide, hunknown⟩, _, hread, ?_, ?_⟩
  · exact @not_inert_writeSubmessageAcknack referenceMicroCdr _ _ _ hunknown
  · exact List.mem_cons_of_mem _ (by decide)

end XrceClient
