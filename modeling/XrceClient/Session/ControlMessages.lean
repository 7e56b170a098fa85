import XrceClient.Session.Session
import XrceClient.Stream.OutputRuns

/-!
# Which stream a control message acts on

A HEARTBEAT is for an input stream and an ACKNACK for an output stream, both named by
one byte. The session decodes the byte to an index and a type, and looks at the index only.

- `NamesReliable`: the byte is the identifier of a created reliable stream.
- `ActsOnNamed`: the named stream may change, no other does, and nothing is sent when
  no stream is named.
- `AcknackIdle`: the acknowledgements that find nothing to do.
- `control_message_acts_on_named_iff`: the bytes below 128 are taken for reliable streams
  as well.
-/

namespace XrceClient

open ByteMemory

/-- `raw` is the identifier of the `index`-th of `size` reliable streams. -/
def NamesReliable (raw : UInt8) (direction : StreamDirection) (index size : UInt8) : Prop :=
  streamIdFromRaw raw direction = streamId index .reliableStream direction ∧ index < size

/-- From one session to the next, the streams stay as they are but for the reliable stream
of the direction that `raw` names, and nothing is sent if there is none. -/
structure ActsOnNamed (session session' : Session) (raw : UInt8)
    (direction : StreamDirection) : Prop where
  outputBestEffort : session'.streams.outputBestEffort = session.streams.outputBestEffort
  outputBestEffortSize :
    session'.streams.outputBestEffortSize = session.streams.outputBestEffortSize
  outputReliable : ∀ i,
    ¬ (direction = .outputStream ∧
      NamesReliable raw direction i session.streams.outputReliableSize) →
    session'.streams.outputReliable i = session.streams.outputReliable i
  outputReliableSize : session'.streams.outputReliableSize = session.streams.outputReliableSize
  inputBestEffort : session'.streams.inputBestEffort = session.streams.inputBestEffort
  inputBestEffortSize : session'.streams.inputBestEffortSize = session.streams.inputBestEffortSize
  inputReliable : ∀ i,
    ¬ (direction = .inputStream ∧
      NamesReliable raw direction i session.streams.inputReliableSize) →
    session'.streams.inputReliable i = session.streams.inputReliable i
  inputReliableSize : session'.streams.inputReliableSize = session.streams.inputReliableSize
  silent :
    ¬ (∃ i, NamesReliable raw direction i
      (if direction = .inputStream then session.streams.inputReliableSize
        else session.streams.outputReliableSize)) →
    session'.sent = session.sent

/-- A session that does nothing acts on the named stream only. -/
theorem actsOnNamed_refl (session : Session) (raw : UInt8) (direction : StreamDirection) :
    ActsOnNamed session session raw direction :=
  ⟨rfl, rfl, fun _ _ => rfl, rfl, rfl, rfl, fun _ _ => rfl, rfl, fun _ => rfl⟩

/-! ## Identifiers -/

/-- The identifiers of reliable streams are the index behind the threshold. -/
theorem streamIdFromRaw_of_le {raw : UInt8} (h : 128 ≤ raw) (direction : StreamDirection) :
    streamIdFromRaw raw direction = streamId (raw - 128) .reliableStream direction := by
  have hle := UInt8.le_iff_toNat_le.mp h
  have h₁ : ¬ bestEffortStreamThreshold > raw := by
    rw [gt_iff_lt, UInt8.lt_iff_toNat_lt, bestEffortStreamThreshold]
    simp only [UInt8.reduceToNat] at hle ⊢
    omega
  have h₂ : ¬ reliableStreamThreshold > raw := by
    rw [gt_iff_lt, UInt8.lt_iff_toNat_lt, reliableStreamThreshold]
    simp only [UInt8.reduceToNat] at hle ⊢
    omega
  rw [streamIdFromRaw, if_neg h₁, if_neg h₂, streamId, reliableStreamThreshold, UInt8.sub_add_cancel]

/-- A byte below the threshold names no reliable stream. -/
theorem not_namesReliable {raw : UInt8} (h : ¬ 128 ≤ raw) (direction : StreamDirection)
    (index size : UInt8) : ¬ NamesReliable raw direction index size := by
  rintro ⟨heq, -⟩
  refine h ((streamIdFromRaw_reliable_iff raw direction).mp ?_)
  rw [heq]
  rfl

/-! ## Nothing to send again -/

/-- No slot from the one behind `last_acknown` to that of `last_sent`, in serial order,
holds a message. -/
def NothingToResend (stream : OutputReliableStream) : Prop :=
  Serial.dist stream.lastAcknown stream.lastSent ≤ seqNumMidsize →
    ∀ i, i < Serial.dist stream.lastAcknown stream.lastSent →
      getReliableBufferSize stream.base (stream.lastAcknown + UInt16.ofNat (i + 1)) =
        stream.offset.toNat

section

variable {stream : OutputReliableStream}

/-- A walk finds nothing when the slots up to `last_sent` are all empty. -/
theorem nextNackBuffer_none_iff (fuel : Nat) (q : SeqNum)
    (hfuel : Serial.dist q stream.lastSent < fuel) :
    (∃ q', nextNackBuffer stream fuel q = some (none, q')) ↔
      (Serial.dist q stream.lastSent ≤ seqNumMidsize →
        ∀ i, i < Serial.dist q stream.lastSent →
          getReliableBufferSize stream.base (q + UInt16.ofNat (i + 1)) = stream.offset.toNat) := by
  induction fuel generalizing q with
  | zero => omega
  | succ fuel ih =>
    rw [nextNackBuffer]
    dsimp only
    have hiff := seqNumCmp_seqNumAdd_one_nonpos_iff q stream.lastSent
    split
    · next hcmp =>
      obtain ⟨hahead, hmid⟩ := hiff.mp hcmp
      have hcloser := dist_seqNumAdd_one hahead
      have hshift (i : Nat) : q + UInt16.ofNat (i + 1 + 1) =
          seqNumAdd q 1 + UInt16.ofNat (i + 1) := by
        rw [seqNumAdd_eq, UInt16.add_assoc, ← UInt16.ofNat_one, Serial.ofNat_add_ofNat,
          Nat.add_comm 1]
      have hfirst : q + UInt16.ofNat (0 + 1) = seqNumAdd q 1 := (seqNumAdd_eq q 1).symm
      split
      · next hne =>
        constructor
        · rintro ⟨q', hq'⟩
          cases hq'
        · intro hempty
          exact absurd (hfirst ▸ hempty hmid 0 hahead) hne
      · next hfilled =>
        rw [ih _ (by omega)]
        constructor
        · intro hrest _ i hi
          cases i with
          | zero => exact hfirst.symm ▸ not_not.mp hfilled
          | succ i => exact (hshift i).symm ▸ hrest (by omega) i (by omega)
        · intro hempty _ i hi
          exact hshift i ▸ hempty hmid (i + 1) (by omega)
    · next hcmp =>
      refine ⟨fun _ hmid i hi => ?_, fun _ => ⟨_, rfl⟩⟩
      exact absurd (hiff.mpr ⟨by omega, hmid⟩) hcmp

/-- The loop that sends the lost messages leaves the stream as it is, with
`send_lost` cleared. -/
theorem nackIteration_stream {fuel : Nat} {q : SeqNum} {sent : List NextBuffer}
    {stream' : OutputReliableStream} (h : nackIteration fuel stream q = some (sent, stream')) :
    stream' = { stream with sendLost := false } := by
  induction fuel generalizing q sent with
  | zero => cases h
  | succ fuel ih =>
    by_cases hlost : stream.sendLost = true
    · obtain ⟨⟨found, q'⟩, hr⟩ := nextNackBuffer_total stream q
      rw [nackIteration, nextReliableNackBufferToSend, if_pos hlost, hr] at h
      cases found with
      | none =>
        cases h
        rfl
      | some found =>
        obtain ⟨⟨_, _⟩, hrest, heq⟩ := Option.map_eq_some_iff.mp h
        cases heq
        exact ih hrest
    · rw [nackIteration, nextReliableNackBufferToSend, if_neg hlost] at h
      cases h
      rw [← Bool.eq_false_iff.mpr hlost]

theorem sendLostMessages_eq :
    nackIteration seqNumSize stream (beginOutputNackBufferIt stream) =
      some (sendLostMessages stream) := (Option.some_get _).symm

theorem sendLostMessages_stream :
    (sendLostMessages stream).2 = { stream with sendLost := false } :=
  nackIteration_stream sendLostMessages_eq

/-- Nothing is sent again when nothing is lost, or when there is nothing to resend. -/
theorem sendLostMessages_nil_iff :
    (sendLostMessages stream).1 = [] ↔ stream.sendLost = false ∨ NothingToResend stream := by
  have heq := @sendLostMessages_eq stream
  rw [seqNumSize, nackIteration, nextReliableNackBufferToSend, beginOutputNackBufferIt] at heq
  by_cases hlost : stream.sendLost = true
  · have hnone := @nextNackBuffer_none_iff stream seqNumSize stream.lastAcknown
      (Serial.dist_lt _ _)
    obtain ⟨⟨found, q'⟩, hr⟩ := nextNackBuffer_total stream stream.lastAcknown
    rw [if_pos hlost, hr] at heq
    rw [hr] at hnone
    rw [NothingToResend, ← hnone, hlost]
    cases found with
    | none =>
      refine ⟨fun _ => .inr ⟨q', rfl⟩, fun _ => ?_⟩
      exact (congrArg Prod.fst (Option.some.inj heq)).symm
    | some found =>
      obtain ⟨⟨_, _⟩, -, hsent⟩ := Option.map_eq_some_iff.mp heq
      rw [← hsent]
      simp
  · rw [if_neg hlost] at heq
    refine ⟨fun _ => .inl (Bool.eq_false_iff.mpr hlost), fun _ => ?_⟩
    exact (congrArg Prod.fst (Option.some.inj heq)).symm

/-! ## Idle acknowledgements -/

/-- The acknowledgement says what the stream knows, and finds nothing to send again. -/
def AcknackIdle (stream : OutputReliableStream) (bitmap : UInt16)
    (firstUnackedSeqNum : SeqNum) : Prop :=
  firstUnackedSeqNum = seqNumAdd stream.lastAcknown 1 ∧ stream.nextHeartbeatTries = 0 ∧
    stream.sendLost = false ∧ (bitmap = 0 ∨ NothingToResend stream)

/-- An acknowledgement of what is acknowledged already cleans nothing. -/
theorem processAcknack_acknown (bitmap : UInt16) :
    processAcknack stream bitmap (seqNumAdd stream.lastAcknown 1) =
      { stream with sendLost := 0 < bitmap, nextHeartbeatTries := 0 } := by
  have hclean : seqNumSub (seqNumSub (seqNumAdd stream.lastAcknown 1) 1) stream.lastAcknown = 0 := by
    rw [seqNumAdd_eq, seqNumSub_eq, seqNumSub_eq, UInt16.add_sub_cancel, UInt16.sub_self]
  rw [processAcknack, hclean]
  rfl

/-- The stream stays as it is and nothing is sent exactly at an idle acknowledgement. -/
theorem acknackIdle_iff (bitmap : UInt16) (f : SeqNum) :
    ((sendLostMessages (processAcknack stream bitmap f)).1 = [] ∧
      (sendLostMessages (processAcknack stream bitmap f)).2 = stream) ↔
        AcknackIdle stream bitmap f := by
  rw [sendLostMessages_nil_iff, sendLostMessages_stream]
  constructor
  · rintro ⟨hnothing, hsame⟩
    have hkept := congrArg OutputReliableStream.lastAcknown hsame
    have hlast : f - 1 = stream.lastAcknown :=
      (processAcknack_lastAcknown stream bitmap f).symm.trans hkept
    obtain rfl : f = seqNumAdd stream.lastAcknown 1 := by
      rw [seqNumAdd_eq, ← hlast, UInt16.sub_add_cancel]
    rw [processAcknack_acknown] at hnothing hsame
    refine ⟨rfl, ?_, ?_, ?_⟩
    · exact (congrArg OutputReliableStream.nextHeartbeatTries hsame).symm
    · exact (congrArg OutputReliableStream.sendLost hsame).symm
    · refine hnothing.imp (fun hzero => ?_) id
      exact UInt16.le_zero_iff.mp (UInt16.not_lt.mp (of_decide_eq_false hzero))
  · rintro ⟨rfl, htries, hlost, hnothing⟩
    rw [processAcknack_acknown]
    refine ⟨hnothing.imp (fun hzero => ?_) id, ?_⟩
    · rw [hzero]
      rfl
    · obtain ⟨base, offset, written, sent, acknown, timestamp, tries, lost⟩ := stream
      cases htries
      cases hlost
      rfl

end

/-! ## What a control message may touch -/

section

variable {session : Session}

theorem readSubmessageAcknack_actsOnNamed_iff (acknack : AcknackPayload) :
    ActsOnNamed session (readSubmessageAcknack session acknack) acknack.streamId .outputStream ↔
      128 ≤ acknack.streamId ∨
        session.streams.outputReliableSize ≤
          (streamIdFromRaw acknack.streamId .inputStream).index ∨
        AcknackIdle
          (session.streams.outputReliable (streamIdFromRaw acknack.streamId .inputStream).index)
          (uint16FromRaw acknack.nackBitmap) acknack.firstUnackedSeqNum := by
  rw [readSubmessageAcknack, getOutputReliableStream]
  dsimp only
  by_cases hcreated : (streamIdFromRaw acknack.streamId .inputStream).index <
      session.streams.outputReliableSize
  · rw [if_pos hcreated]
    dsimp only
    rw [← acknackIdle_iff]
    constructor
    · intro hacts
      by_cases hreliable : 128 ≤ acknack.streamId
      · exact .inl hreliable
      · right
        right
        have hnot (i size : UInt8) := not_namesReliable hreliable .outputStream i size
        have hsilent := hacts.silent fun ⟨i, hnames⟩ => hnot _ _ hnames
        have hsame := hacts.outputReliable (streamIdFromRaw acknack.streamId .inputStream).index
          fun ⟨_, hnames⟩ => hnot _ _ hnames
        refine ⟨?_, ?_⟩
        · exact List.map_eq_nil_iff.mp (List.append_right_eq_self.mp hsilent)
        · exact (Function.update_self _ _ _).symm.trans hsame
    · rintro (hreliable | hunknown | ⟨hnothing, hsame⟩)
      · have hnames := streamIdFromRaw_of_le hreliable .outputStream
        have hindex : (streamIdFromRaw acknack.streamId .inputStream).index =
            acknack.streamId - 128 := by
          rw [streamIdFromRaw_of_le hreliable]
          rfl
        rw [hindex] at hcreated
        refine ⟨rfl, rfl, fun i hi => ?_, rfl, rfl, rfl, fun _ _ => rfl, rfl, fun hnone => ?_⟩
        · refine Function.update_of_ne (fun heq => hi ⟨rfl, ?_⟩) _ _
          rw [heq, hindex]
          exact ⟨hnames, hcreated⟩
        · exact absurd ⟨_, hnames, hcreated⟩ hnone
      · exact absurd hcreated (UInt8.not_lt.mpr hunknown)
      · refine ⟨rfl, rfl, fun i _ => ?_, rfl, rfl, rfl, fun _ _ => rfl, rfl, fun _ => ?_⟩
        · show Function.update session.streams.outputReliable _ _ i = _
          rw [hsame, Function.update_eq_self]
        · show session.sent ++ List.map _ _ = session.sent
          rw [hnothing, List.map_nil, List.append_nil]
  · rw [if_neg hcreated]
    exact ⟨fun _ => .inr (.inl (UInt8.not_lt.mp hcreated)), fun _ => actsOnNamed_refl _ _ _⟩

variable [MicroCdr]

/-- The acknowledgement that a session writes leaves its streams alone. -/
theorem writeSubmessageAcknack_streams (shiftBeyond : Nat → UInt16) (session : Session)
    (id : StreamId) : (writeSubmessageAcknack shiftBeyond session id).streams = session.streams :=
  rfl

theorem writeSubmessageAcknack_sent (shiftBeyond : Nat → UInt16) (session : Session)
    (id : StreamId) : ∃ message,
      (writeSubmessageAcknack shiftBeyond session id).sent = session.sent ++ [message] :=
  ⟨_, rfl⟩

theorem readSubmessageHeartbeat_actsOnNamed_iff (shiftBeyond : Nat → UInt16)
    (heartbeat : HeartbeatPayload) :
    ActsOnNamed session (readSubmessageHeartbeat shiftBeyond session heartbeat)
        heartbeat.streamId .inputStream ↔
      128 ≤ heartbeat.streamId ∨ session.streams.inputReliableSize ≤
        (streamIdFromRaw heartbeat.streamId .inputStream).index := by
  rw [readSubmessageHeartbeat, getInputReliableStream]
  dsimp only
  by_cases hcreated : (streamIdFromRaw heartbeat.streamId .inputStream).index <
      session.streams.inputReliableSize
  · rw [if_pos hcreated]
    constructor
    · intro hacts
      left
      by_contra hbelow
      -- the acknowledgement is sent although no stream is named
      have hsilent := hacts.silent fun ⟨i, hnames⟩ => not_namesReliable hbelow _ _ _ hnames
      obtain ⟨message, hsent⟩ := writeSubmessageAcknack_sent shiftBeyond _ _
      rw [hsent] at hsilent
      exact absurd hsilent (by simp [Session.access])
    · rintro (hreliable | hunknown)
      · have hnames := streamIdFromRaw_of_le hreliable .inputStream
        have hindex : (streamIdFromRaw heartbeat.streamId .inputStream).index =
            heartbeat.streamId - 128 := by
          rw [hnames]
          rfl
        rw [hindex] at hcreated
        refine ⟨rfl, rfl, fun _ _ => rfl, rfl, rfl, rfl, fun i hi => ?_, rfl, fun hnone => ?_⟩
        · refine Function.update_of_ne (fun heq => hi ⟨rfl, ?_⟩) _ _
          rw [heq, hindex]
          exact ⟨hnames, hcreated⟩
        · exact absurd ⟨_, hnames, hcreated⟩ hnone
      · exact absurd hcreated (UInt8.not_lt.mpr hunknown)
  · rw [if_neg hcreated]
    exact ⟨fun _ => .inr (UInt8.not_lt.mp hcreated), fun _ => actsOnNamed_refl _ _ _⟩

end

/-- In every state, a HEARTBEAT or ACKNACK acts on the stream that its byte names and on no
other exactly when the byte is that of a reliable stream, or leads to an index at which none
was created, or (an ACKNACK) finds nothing to do at the index that it leads to. -/
theorem control_message_acts_on_named_iff [MicroCdr] (shiftBeyond : Nat → UInt16)
    (session : Session) :
    (∀ heartbeat : HeartbeatPayload,
      ActsOnNamed session (readSubmessageHeartbeat shiftBeyond session heartbeat)
          heartbeat.streamId .inputStream ↔
        128 ≤ heartbeat.streamId ∨ session.streams.inputReliableSize ≤
          (streamIdFromRaw heartbeat.streamId .inputStream).index) ∧
    (∀ acknack : AcknackPayload,
      ActsOnNamed session (readSubmessageAcknack session acknack) acknack.streamId .outputStream ↔
        128 ≤ acknack.streamId ∨
          session.streams.outputReliableSize ≤
            (streamIdFromRaw acknack.streamId .inputStream).index ∨
          AcknackIdle
            (session.streams.outputReliable (streamIdFromRaw acknack.streamId .inputStream).index)
            (uint16FromRaw acknack.nackBitmap) acknack.firstUnackedSeqNum) :=
  ⟨readSubmessageHeartbeat_actsOnNamed_iff shiftBeyond, readSubmessageAcknack_actsOnNamed_iff⟩

/-- A session with one input and one output reliable stream, just created. -/
def oneStreamEach : Session where
  info := { id := 0x81, key := [0, 0, 0, 0], lastRequestedStatus := 0xFF, lastRequestId := 9 }
  streams :=
    (addOutputReliableBuffer
      (addInputReliableBuffer .zeroed (fun _ => 0) 32 2
        (@onGetFragmentationInfo referenceMicroCdr)).2 (fun _ => 0) 64 2 4).2
  sent := []
  effects := []
  accesses := []

/-- A HEARTBEAT for the stream of none, or for the first best-effort stream, is answered
for a reliable stream; an ACKNACK for none moves the window of one. -/
theorem control_message_for_none_not_on_named :
    ¬ ActsOnNamed oneStreamEach
        (@readSubmessageHeartbeat referenceMicroCdr (fun _ => 0) oneStreamEach
          { firstUnackedSeqNr := 0, lastUnackedSeqNr := 3, streamId := 0 }) 0 .inputStream ∧
      ¬ ActsOnNamed oneStreamEach
        (@readSubmessageHeartbeat referenceMicroCdr (fun _ => 0) oneStreamEach
          { firstUnackedSeqNr := 0, lastUnackedSeqNr := 3, streamId := 1 }) 1 .inputStream ∧
      ¬ ActsOnNamed oneStreamEach
        (readSubmessageAcknack oneStreamEach
          { firstUnackedSeqNum := 1, nackBitmap := [0, 0], streamId := 0 }) 0 .outputStream := by
  refine ⟨?_, ?_, ?_⟩
  · exact mt (@readSubmessageHeartbeat_actsOnNamed_iff oneStreamEach referenceMicroCdr _ _).mp
      (by decide)
  · exact mt (@readSubmessageHeartbeat_actsOnNamed_iff oneStreamEach referenceMicroCdr _ _).mp
      (by decide)
  · refine mt (readSubmessageAcknack_actsOnNamed_iff _).mp ?_
    rintro (hreliable | hunknown | hidle)
    · exact absurd hreliable (by decide)
    · exact absurd hunknown (by decide)
    · exact absurd hidle.1 (by decide)

end XrceClient
