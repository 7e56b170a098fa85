import Mathlib.Data.Nat.Periodic
import XrceClient.Stream.ReliableStream
import XrceClient.Stream.Submessage

/-!
# Output reliable streams (`output_reliable_stream.c`)

The functions of an output reliable stream, as the source computes them.

- `prepareReliableBufferToWrite` grants room for a message: in the slot of
  `lastWritten`, in the next slot, or in several slots as fragments. The three
  branches are `writeInCurrentBuffer`, `writeInNewBuffer` and `writeFragments`.
- `prepareNextReliableBufferToSend` / `cancelReliableBufferToSend` move
  `lastSent`, and `processAcknack` moves `lastAcknown`.
- `nextReliableNackBufferToSend` and the loop around it, `nackIteration`, walk
  the messages to send again. The source's `while` loops take a fuel argument
  here; `nextNackBuffer_total` says that a turn of the sequence numbers is enough.

A function with output parameters returns them next to its result; they come
back as they were given where the source leaves them alone.
-/

namespace XrceClient

open ByteMemory

/-- `uxrOutputReliableStream` (output_reliable_stream.h). -/
structure OutputReliableStream where
  base : ReliableStream
  offset : UInt8
  lastWritten : SeqNum
  lastSent : SeqNum
  lastAcknown : SeqNum
  nextHeartbeatTimestamp : Int
  nextHeartbeatTries : UInt8
  sendLost : Bool

/-- `INT64_MAX`. -/
def int64Max : Int := 9223372036854775807

/-- `uxr_reset_output_reliable_stream` (output_reliable_stream.c:37–52). -/
def resetOutputReliableStream (stream : OutputReliableStream) : OutputReliableStream :=
  { stream with
    base := (List.range stream.base.history.toNat).foldl
      (fun base i => setReliableBufferSize base (UInt16.ofNat i) stream.offset.toNat) stream.base
    lastWritten := 0
    lastSent := seqNumMax
    lastAcknown := seqNumMax
    nextHeartbeatTimestamp := int64Max
    nextHeartbeatTries := 0
    sendLost := false }

/-- `uxr_init_output_reliable_stream` (output_reliable_stream.c:18–35), on a
buffer with any contents. -/
def initOutputReliableStream (buffer : Memory) (size : Nat) (history : UInt16)
    (headerOffset : UInt8) : OutputReliableStream :=
  resetOutputReliableStream
    { base := { buffer, size, history }
      offset := headerOffset
      lastWritten := 0
      lastSent := seqNumMax
      lastAcknown := seqNumMax
      nextHeartbeatTimestamp := int64Max
      nextHeartbeatTries := 0
      sendLost := false }

/-- `get_available_free_slots` (output_reliable_stream.c:320–332). -/
def getAvailableFreeSlots (stream : OutputReliableStream) : Nat :=
  Nat.count (fun i => getReliableBufferSize stream.base (UInt16.ofNat i) = stream.offset.toNat)
    stream.base.history.toNat

/-! ## Writing -/

section Write

variable [MicroCdr]

/-- The room for payload in a slot of its own fragment,
`available_block_size` (output_reliable_stream.c:65). -/
def availableBlockSize (stream : OutputReliableStream) : Nat :=
  (getReliableBufferCapacity stream.base + 65536 - (stream.offset.toNat + subheaderSize)) % 65536

/-- The message fits in the current buffer (output_reliable_stream.c:72–84). -/
def writeInCurrentBuffer (stream : OutputReliableStream) (bufferSize length : Nat)
    (ub : UcdrBuffer) : Bool × OutputReliableStream × UcdrBuffer :=
  let seqNum := stream.lastWritten
  let buffer := getReliableBuffer stream.base seqNum
  let lastAvailable := seqNumAdd stream.lastAcknown stream.base.history
  if 0 ≥ seqNumCmp seqNum lastAvailable then
    let finalBufferSize := bufferSize + length
    (true,
      { stream with base := setReliableBufferSize stream.base seqNum finalBufferSize },
      ucdrInitBufferOriginOffset buffer (finalBufferSize % 2 ^ 32) 0 (bufferSize % 2 ^ 32))
  else
    (false, stream, ub)

/-- The message fits in a new empty buffer (output_reliable_stream.c:86–101). -/
def writeInNewBuffer (stream : OutputReliableStream) (length : Nat) (ub : UcdrBuffer) :
    Bool × OutputReliableStream × UcdrBuffer :=
  let seqNum := seqNumAdd stream.lastWritten 1
  let lastAvailable := seqNumAdd stream.lastAcknown stream.base.history
  if 0 ≥ seqNumCmp seqNum lastAvailable then
    let buffer := getReliableBuffer stream.base seqNum
    let finalBufferSize := stream.offset.toNat + length
    (true,
      { stream with
        base := setReliableBufferSize stream.base seqNum finalBufferSize
        lastWritten := seqNum },
      ucdrInitBufferOriginOffset buffer (finalBufferSize % 2 ^ 32) 0 stream.offset.toNat)
  else
    (false, stream, ub)

/-- A FRAGMENT header behind the contents of a slot
(output_reliable_stream.c:138–144, 151–158). -/
def writeFragmentHeader (stream : OutputReliableStream) (seqNum : SeqNum) (fragmentSize : UInt16)
    (flags : UInt8) : OutputReliableStream :=
  let tempUb := ucdrInitBufferOriginOffset (getReliableBuffer stream.base seqNum)
    (getReliableBufferCapacity stream.base) 0 (getReliableBufferSize stream.base seqNum)
  let (_, buffer, _) := bufferSubmessageHeader Device.plain stream.base.buffer tempUb
    SubmessageId.fragment.value fragmentSize flags
  { stream with base := { stream.base with buffer } }

/-- The loop over the complete blocks (output_reliable_stream.c:136–149): `i` of
them are left, and the next one carries `fragmentSize` bytes. -/
def writeCompleteBlocks : Nat → OutputReliableStream → SeqNum → UInt16 →
    OutputReliableStream × SeqNum
  | 0, stream, seqNum, _ => (stream, seqNum)
  | i + 1, stream, seqNum, fragmentSize =>
    let stream := writeFragmentHeader stream seqNum fragmentSize 0
    let stream :=
      { stream with
        base := setReliableBufferSize stream.base seqNum
          (getReliableBufferCapacity stream.base) }
    writeCompleteBlocks i stream (seqNumAdd seqNum 1)
      (UInt16.ofNat (availableBlockSize stream))

/-- `on_full_output_buffer` (output_reliable_stream.c:300–318). It never fails. -/
def onFullOutputBuffer (stream : OutputReliableStream) (ub : UcdrBuffer) : Bool × UcdrBuffer :=
  let historyPosition := 1 + getReliableBufferHistoryPosition stream.base ub.init
  let buffer := getReliableBuffer stream.base historyPosition
  let bufferSize := getReliableBufferSize stream.base historyPosition
  let ub := ucdrInitBufferOrigin (buffer + stream.offset.toNat + subheaderSize)
    ((bufferSize - stream.offset.toNat - subheaderSize) % 2 ^ 32) ub.offset
  (false, ub.setOnFullBufferCallback (some .onFullOutputBuffer))

/-- The size of the last fragment and the number of complete blocks before it,
of a message whose first block takes `firstFragmentSize` bytes
(output_reliable_stream.c:115–129). -/
def fragmentCounts (blockSize firstFragmentSize length : Nat) : Nat × Nat :=
  let remainingSize := length - firstFragmentSize
  if remainingSize % blockSize = 0 then
    (blockSize, remainingSize / blockSize % 65536)
  else
    (remainingSize % blockSize, (remainingSize / blockSize + 1) % 65536)

/-- The fragments of a message, from the slot of `seqNum` on
(output_reliable_stream.c:113–166). -/
def writeFragmentsFrom (stream : OutputReliableStream) (seqNum : SeqNum)
    (bufferSize remainingBlocks length : Nat) (ub : UcdrBuffer) :
    Bool × OutputReliableStream × UcdrBuffer :=
  let bufferCapacity := getReliableBufferCapacity stream.base
  let buffer := getReliableBuffer stream.base seqNum
  let firstFragmentSize :=
    UInt16.ofNat (bufferCapacity + 65536 - (bufferSize + subheaderSize) % 65536)
  let (lastFragmentSize, necessaryCompleteBlocks) :=
    fragmentCounts (availableBlockSize stream) firstFragmentSize.toNat length
  if necessaryCompleteBlocks ≤ remainingBlocks then
    let (stream, seqNum) :=
      writeCompleteBlocks necessaryCompleteBlocks stream seqNum firstFragmentSize
    -- prepare last fragment
    let stream :=
      writeFragmentHeader stream seqNum (UInt16.ofNat lastFragmentSize) flagLastFragment
    -- prepare user buffer
    let ub := ucdrInitBuffer (buffer + bufferSize + subheaderSize)
      ((bufferCapacity - bufferSize - subheaderSize) % 2 ^ 32)
    (true,
      { stream with
        base := setReliableBufferSize stream.base seqNum
          (stream.offset.toNat + subheaderSize + lastFragmentSize)
        lastWritten := seqNum },
      ub.setOnFullBufferCallback (some .onFullOutputBuffer))
  else
    (false, stream, ub)

/-- The message fits in a fragmented message (output_reliable_stream.c:103–167). -/
def writeFragments (stream : OutputReliableStream) (bufferSize remainingBlocks length : Nat)
    (ub : UcdrBuffer) : Bool × OutputReliableStream × UcdrBuffer :=
  -- check if the current buffer free space is too small
  if bufferSize + subheaderSize ≥ getReliableBufferCapacity stream.base then
    let seqNum := seqNumAdd stream.lastWritten 1
    writeFragmentsFrom stream seqNum (getReliableBufferSize stream.base seqNum) remainingBlocks
      length ub
  else
    writeFragmentsFrom stream stream.lastWritten bufferSize remainingBlocks length ub

/-- `uxr_prepare_reliable_buffer_to_write` (output_reliable_stream.c:54–168). -/
def prepareReliableBufferToWrite (stream : OutputReliableStream) (length : Nat)
    (ub : UcdrBuffer) : Bool × OutputReliableStream × UcdrBuffer :=
  let bufferCapacity := getReliableBufferCapacity stream.base
  let bufferSize := getReliableBufferSize stream.base stream.lastWritten
  let remainingBlocks := getAvailableFreeSlots stream
  -- alignment required for inserting an XRCE subheader
  let bufferSize := bufferSize + ucdrAlignment bufferSize 4
  if bufferSize + length ≤ bufferCapacity then
    writeInCurrentBuffer stream bufferSize length ub
  else if stream.offset.toNat + length ≤ bufferCapacity then
    writeInNewBuffer stream length ub
  else if length ≤ availableBlockSize stream * remainingBlocks then
    writeFragments stream bufferSize remainingBlocks length ub
  else
    (false, stream, ub)

end Write

/-! ## Sending -/

/-- What `uxr_prepare_next_reliable_buffer_to_send` leaves in its output
parameters. -/
structure NextBuffer where
  buffer : Nat
  length : Nat
  seqNum : SeqNum
  deriving DecidableEq, Repr

/-- `uxr_prepare_next_reliable_buffer_to_send` (output_reliable_stream.c:170–193). -/
def prepareNextReliableBufferToSend (stream : OutputReliableStream) :
    Bool × OutputReliableStream × NextBuffer :=
  let seqNum := seqNumAdd stream.lastSent 1
  let buffer := getReliableBuffer stream.base seqNum
  let length := getReliableBufferSize stream.base seqNum
  let dataToSend := 0 ≥ seqNumCmp seqNum stream.lastWritten ∧ length > stream.offset.toNat ∧
    seqNumSub stream.lastSent stream.lastAcknown ≠ stream.base.history
  let lastWritten :=
    if seqNum = stream.lastWritten then seqNumAdd stream.lastWritten 1 else stream.lastWritten
  (dataToSend,
    if dataToSend then { stream with lastSent := seqNum, lastWritten } else stream,
    { buffer, length, seqNum })

/-- `uxr_cancel_reliable_buffer_to_send` (output_reliable_stream.c:195–206). -/
def cancelReliableBufferToSend (stream : OutputReliableStream) (seqNum : SeqNum) :
    OutputReliableStream :=
  let nextSeqNum := seqNumAdd seqNum 1
  let lastWritten :=
    if stream.lastWritten = nextSeqNum ∧
        stream.offset.toNat = getReliableBufferSize stream.base nextSeqNum then
      seqNum
    else
      stream.lastWritten
  { stream with lastSent := seqNumSub seqNum 1, lastWritten }

/-! ## Acknowledgements -/

/-- The loop of `uxr_process_acknack` (output_reliable_stream.c:279–283). -/
def cleanBuffers : Nat → OutputReliableStream → OutputReliableStream
  | 0, stream => stream
  | buffersToClean + 1, stream =>
    let lastAcknown := seqNumAdd stream.lastAcknown 1
    cleanBuffers buffersToClean
      { stream with
        lastAcknown
        base := setReliableBufferSize stream.base lastAcknown stream.offset.toNat }

/-- `uxr_process_acknack` (output_reliable_stream.c:272–289). -/
def processAcknack (stream : OutputReliableStream) (bitmap : UInt16)
    (firstUnackedSeqNum : SeqNum) : OutputReliableStream :=
  let lastAckedSeqNum := seqNumSub firstUnackedSeqNum 1
  let buffersToClean := seqNumSub lastAckedSeqNum stream.lastAcknown
  { cleanBuffers buffersToClean.toNat stream with
    sendLost := 0 < bitmap
    nextHeartbeatTries := 0 }

/-- `uxr_is_output_up_to_date` (output_reliable_stream.c:291–295). -/
def isOutputUpToDate (stream : OutputReliableStream) : Bool :=
  0 = seqNumCmp stream.lastAcknown stream.lastSent

/-- `uxr_begin_output_nack_buffer_it` (output_reliable_stream.c:235–239). -/
def beginOutputNackBufferIt (stream : OutputReliableStream) : SeqNum := stream.lastAcknown

/-- The loop of `uxr_next_reliable_nack_buffer_to_send`
(output_reliable_stream.c:251–261): the message found, if any, and the
iterator. -/
def nextNackBuffer (stream : OutputReliableStream) : Nat → SeqNum →
    Option (Option NextBuffer × SeqNum)
  | 0, _ => none
  | fuel + 1, seqNumIt =>
    let seqNumIt := seqNumAdd seqNumIt 1
    if 0 ≥ seqNumCmp seqNumIt stream.lastSent then
      let buffer := getReliableBuffer stream.base seqNumIt
      let length := getReliableBufferSize stream.base seqNumIt
      if length ≠ stream.offset.toNat then
        some (some { buffer, length, seqNum := seqNumIt }, seqNumIt)
      else
        nextNackBuffer stream fuel seqNumIt
    else
      some (none, seqNumIt)

/-- `uxr_next_reliable_nack_buffer_to_send` (output_reliable_stream.c:241–270). -/
def nextReliableNackBufferToSend (stream : OutputReliableStream) (seqNumIt : SeqNum) :
    Option (Option NextBuffer × OutputReliableStream × SeqNum) :=
  if stream.sendLost then
    (nextNackBuffer stream seqNumSize seqNumIt).map fun (found, seqNumIt) =>
      (found, if found.isNone then { stream with sendLost := false } else stream, seqNumIt)
  else
    some (none, stream, seqNumIt)

/-- The loop that sends the lost messages again (session.c:1061–1066): the
messages it sends, in order, and the stream afterwards. -/
def nackIteration : Nat → OutputReliableStream → SeqNum →
    Option (List NextBuffer × OutputReliableStream)
  | 0, _, _ => none
  | fuel + 1, stream, seqNumIt =>
    match nextReliableNackBufferToSend stream seqNumIt with
    | none => none
    | some (none, stream, _) => some ([], stream)
    | some (some found, stream, seqNumIt) =>
      (nackIteration fuel stream seqNumIt).map fun (sent, stream) => (found :: sent, stream)

/-! ## The nack walk ends -/

/-- The distance to a number ahead shrinks with every step. -/
theorem dist_seqNumAdd_one {q last : SeqNum} (h : 0 < Serial.dist q last) :
    Serial.dist (seqNumAdd q 1) last + 1 = Serial.dist q last := by
  rw [Serial.dist_eq] at h
  rw [seqNumAdd_eq, Serial.dist_eq, Serial.dist_eq, UInt16.toNat_add]
  have := q.toNat_lt
  have := last.toNat_lt
  simp only [UInt16.reduceToNat]
  omega

/-- The walk goes on as long as the iterator has not passed `lastSent`. -/
theorem seqNumCmp_seqNumAdd_one_nonpos_iff (q last : SeqNum) :
    0 ≥ seqNumCmp (seqNumAdd q 1) last ↔
      0 < Serial.dist q last ∧ Serial.dist q last ≤ seqNumMidsize := by
  rw [seqNumCmp_nonpos_iff, seqNumMidsize, seqNumAdd_eq, Serial.dist_eq, Serial.dist_eq,
    UInt16.toNat_add]
  have := q.toNat_lt
  have := last.toNat_lt
  simp only [UInt16.reduceToNat]
  omega

/-- From a sequence number whose distance to the one after `lastSent` is less than
the fuel, the walk ends there at the latest. -/
theorem nextNackBuffer_total_of_dist (stream : OutputReliableStream) (fuel : Nat)
    (seqNumIt : SeqNum) (h : Serial.dist seqNumIt stream.lastSent < fuel) :
    ∃ r, nextNackBuffer stream fuel seqNumIt = some r := by
  induction fuel generalizing seqNumIt with
  | zero => omega
  | succ fuel ih =>
    rw [nextNackBuffer]
    dsimp only
    split
    · next hcmp =>
      split
      · exact ⟨_, rfl⟩
      · have hahead := ((seqNumCmp_seqNumAdd_one_nonpos_iff _ _).mp hcmp).1
        have := dist_seqNumAdd_one hahead
        exact ih _ (by omega)
    · exact ⟨_, rfl⟩

/-- A turn of the sequence numbers is enough fuel. -/
theorem nextNackBuffer_total (stream : OutputReliableStream) (seqNumIt : SeqNum) :
    ∃ r, nextNackBuffer stream seqNumSize seqNumIt = some r :=
  nextNackBuffer_total_of_dist stream seqNumSize seqNumIt (Serial.dist_lt _ _)

/-- A message that is found is closer to `lastSent`. -/
theorem nextNackBuffer_found_dist {stream : OutputReliableStream} {fuel : Nat}
    {seqNumIt seqNumIt' : SeqNum} {found : NextBuffer}
    (h : nextNackBuffer stream fuel seqNumIt = some (some found, seqNumIt')) :
    Serial.dist seqNumIt' stream.lastSent < Serial.dist seqNumIt stream.lastSent := by
  induction fuel generalizing seqNumIt with
  | zero => cases h
  | succ fuel ih =>
    rw [nextNackBuffer] at h
    dsimp only at h
    split at h
    · next hcmp =>
      have hcloser := dist_seqNumAdd_one ((seqNumCmp_seqNumAdd_one_nonpos_iff _ _).mp hcmp).1
      split at h
      · cases h
        omega
      · have := ih h
        omega
    · cases h

theorem nackIteration_total_of_dist (fuel : Nat) (stream : OutputReliableStream)
    (seqNumIt : SeqNum) (h : Serial.dist seqNumIt stream.lastSent < fuel) :
    (nackIteration fuel stream seqNumIt).isSome := by
  induction fuel generalizing seqNumIt with
  | zero => omega
  | succ fuel ih =>
    by_cases hlost : stream.sendLost = true
    · obtain ⟨⟨found, seqNumIt'⟩, hr⟩ := nextNackBuffer_total stream seqNumIt
      rw [nackIteration, nextReliableNackBufferToSend, if_pos hlost, hr]
      cases found with
      | none => rfl
      | some found =>
        have hcloser := nextNackBuffer_found_dist hr
        have hrest := ih seqNumIt' (by omega)
        simpa using hrest
    · rw [nackIteration, nextReliableNackBufferToSend, if_neg hlost]
      rfl

/-- The loop that sends the lost messages ends in every state. -/
theorem nackIteration_isSome (stream : OutputReliableStream) (seqNumIt : SeqNum) :
    (nackIteration seqNumSize stream seqNumIt).isSome :=
  nackIteration_total_of_dist seqNumSize stream seqNumIt (Serial.dist_lt _ _)

/-! ## What a nack walk and an acknowledgement keep -/

/-- The nack iteration touches nothing but `sendLost`. -/
theorem nextReliableNackBufferToSend_stream {stream stream' : OutputReliableStream}
    {seqNumIt seqNumIt' : SeqNum} {found : Option NextBuffer}
    (h : nextReliableNackBufferToSend stream seqNumIt = some (found, stream', seqNumIt')) :
    stream' = stream ∨ stream' = { stream with sendLost := false } := by
  unfold nextReliableNackBufferToSend at h
  split at h
  · obtain ⟨r, hr⟩ := nextNackBuffer_total stream seqNumIt
    simp only [hr, Option.map_some, Option.some.injEq, Prod.mk.injEq] at h
    obtain ⟨-, hstream, -⟩ := h
    split at hstream
    · exact .inr hstream.symm
    · exact .inl hstream.symm
  · simp only [Option.some.injEq, Prod.mk.injEq] at h
    exact .inl h.2.1.symm

end XrceClient
