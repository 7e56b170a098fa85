import XrceClient.Stream.MicroCdr
import XrceClient.Stream.ReliableStream
import XrceClient.Stream.Submessage

/-!
# Input reliable streams (`input_reliable_stream.c`)

The functions of an input reliable stream, as the source computes them.

- `receiveReliableMessage` takes a message that arrived: it is ready to be read at
  once, or it is copied to its slot, or it is dropped.
- `nextInputReliableBufferAvailable` gives the next message to read out of its
  slot. A fragmented message is given as a buffer over its first slot, and
  `onFullInputBuffer` moves that buffer to the slot after it.
- `checkLastFragment` walks the slots behind `lastHandled`. The source bounds the
  walk by nothing but the slots' contents, so it takes a fuel argument here, and
  `none` says that the fuel ran out.
- `computeAcknack` describes what is missing.
-/

namespace XrceClient

open ByteMemory

/-- `FragmentationInfo` (input_reliable_stream.h). -/
inductive FragmentationInfo where
  | noFragmented
  | intermediateFragment
  | lastFragment
  deriving DecidableEq, Repr

/-- `uxrInputReliableStream` (input_reliable_stream.h). The callback looks at a
message in some memory. -/
structure InputReliableStream where
  base : ReliableStream
  lastHandled : SeqNum
  lastAnnounced : SeqNum
  onGetFragmentationInfo : Memory → Nat → FragmentationInfo
  cleanupFlag : Bool

/-- `uxr_reset_input_reliable_stream` (input_reliable_stream.c:42–52). -/
def resetInputReliableStream (stream : InputReliableStream) : InputReliableStream :=
  { stream with
    base := (List.range stream.base.history.toNat).foldl
      (fun base i => setReliableBufferSize base (UInt16.ofNat i) 0) stream.base
    lastHandled := seqNumMax
    lastAnnounced := seqNumMax }

/-- `uxr_init_input_reliable_stream` (input_reliable_stream.c:22–40), on a buffer
with any contents. -/
def initInputReliableStream (buffer : Memory) (size : Nat) (history : UInt16)
    (onGetFragmentationInfo : Memory → Nat → FragmentationInfo) : InputReliableStream :=
  resetInputReliableStream
    { base := { buffer, size, history }
      lastHandled := seqNumMax
      lastAnnounced := seqNumMax
      onGetFragmentationInfo
      cleanupFlag := false }

namespace InputReliableStream

/-- What the callback says about the message in the slot of a number. -/
def fragmentationInfo (stream : InputReliableStream) (seqNum : SeqNum) : FragmentationInfo :=
  stream.onGetFragmentationInfo stream.base.buffer (getReliableBuffer stream.base seqNum)

end InputReliableStream

/-- The loop of `check_last_fragment` (input_reliable_stream.c:192–208): whether
a last fragment was found, and the last number visited. -/
def checkLastFragmentFrom (stream : InputReliableStream) : Nat → SeqNum → Option (Bool × SeqNum)
  | 0, _ => none
  | fuel + 1, next =>
    let next := seqNumAdd next 1
    if getReliableBufferSize stream.base next ≠ 0 then
      match stream.fragmentationInfo next with
      | .lastFragment => some (true, next)
      | .intermediateFragment => checkLastFragmentFrom stream fuel next
      | .noFragmented => some (false, next)
    else
      some (false, next)

/-- `check_last_fragment` (input_reliable_stream.c:185–212), visiting at most
`fuel` slots. -/
def checkLastFragment (fuel : Nat) (stream : InputReliableStream) : Option (Bool × SeqNum) :=
  checkLastFragmentFrom stream fuel stream.lastHandled

/-- A message as the transport hands it over: `length` bytes from address `buffer`
of the receive buffer on. -/
structure Datagram where
  memory : Memory
  buffer : Nat
  length : Nat

/-- The message's bytes. -/
def Datagram.bytes (msg : Datagram) : List UInt8 := read msg.memory msg.buffer msg.length

/-- The outcome of `uxr_receive_reliable_message`: its result and its output
parameter `message_stored`. -/
structure Reception where
  readyToRead : Bool
  stream : InputReliableStream
  messageStored : Bool

namespace InputReliableStream

/-- The stream after the copy of a message to its slot
(input_reliable_stream.c:83–84). -/
def store (stream : InputReliableStream) (seqNum : SeqNum) (msg : Datagram) :
    InputReliableStream :=
  { stream with
    base := setReliableBufferSize (stream.base.storeBytes seqNum 0 msg.bytes) seqNum msg.length }

/-- The number is in the window behind `lastHandled`
(input_reliable_stream.c:64–65). -/
def accepts (stream : InputReliableStream) (seqNum : SeqNum) : Bool :=
  0 > seqNumCmp stream.lastHandled seqNum ∧
    0 ≤ seqNumCmp (seqNumAdd stream.lastHandled stream.base.history) seqNum

/-- The end of `uxr_receive_reliable_message` (input_reliable_stream.c:100–103). -/
def announce (stream : InputReliableStream) (seqNum : SeqNum) : InputReliableStream :=
  if 0 > seqNumCmp stream.lastAnnounced seqNum then
    { stream with lastAnnounced := seqNum }
  else
    stream

end InputReliableStream

/-- `uxr_receive_reliable_message` (input_reliable_stream.c:54–106). -/
def receiveReliableMessage (fuel : Nat) (stream : InputReliableStream) (seqNum : SeqNum)
    (msg : Datagram) (messageStored : Bool) : Option Reception :=
  -- check if the seq_num is valid for the stream state
  if stream.accepts seqNum then
    let fragmentationInfo := stream.onGetFragmentationInfo msg.memory msg.buffer
    let next := seqNumAdd stream.lastHandled 1
    if fragmentationInfo = .noFragmented ∧ seqNum = next then
      some ⟨true, { stream with lastHandled := next }.announce seqNum, false⟩
    -- check if the message received is not already received
    else if getReliableBufferSize stream.base seqNum = 0 then
      let stream := stream.store seqNum msg
      if fragmentationInfo ≠ .noFragmented then
        (checkLastFragment fuel stream).map fun (found, _) =>
          ⟨found, stream.announce seqNum, true⟩
      else
        some ⟨false, stream.announce seqNum, true⟩
    else
      some ⟨false, stream.announce seqNum, messageStored⟩
  else
    some ⟨false, stream.announce seqNum, messageStored⟩

/-- `uxr_process_heartbeat` (input_reliable_stream.c:142–154). -/
def processHeartbeat (stream : InputReliableStream) (_firstSeqNum lastSeqNum : SeqNum) :
    InputReliableStream :=
  stream.announce lastSeqNum

/-- The loop of `uxr_get_first_unacked` (input_reliable_stream.c:218–226), over the
slots from the `i`-th behind `lastHandled` on. -/
def getFirstUnackedFrom (stream : InputReliableStream) : Nat → Nat → SeqNum
  | 0, _ => stream.lastHandled
  | left + 1, i =>
    let seqNum := seqNumAdd stream.lastHandled (UInt16.ofNat (i + 1))
    if getReliableBufferSize stream.base seqNum = 0 then seqNum
    else getFirstUnackedFrom stream left (i + 1)

/-- `uxr_get_first_unacked` (input_reliable_stream.c:214–229). -/
def getFirstUnacked (stream : InputReliableStream) : SeqNum :=
  getFirstUnackedFrom stream stream.base.history.toNat 0

/-- `1 << i`, cast to 16 bits. The source shifts an `int`, which the language
defines for `i < 31`; `shiftBeyond` stands for what the machine does otherwise. -/
def nackBit (shiftBeyond : Nat → UInt16) (i : Nat) : UInt16 :=
  if i < 31 then UInt16.ofNat (2 ^ i) else shiftBeyond i

/-- `uxr_compute_acknack` (input_reliable_stream.c:162–180): the first unacknowledged
number and the bitmap. -/
def computeAcknack (shiftBeyond : Nat → UInt16) (stream : InputReliableStream) :
    SeqNum × UInt16 :=
  let from_ := getFirstUnacked stream
  let buffersToAck := seqNumSub stream.lastAnnounced (seqNumSub from_ 1)
  let nackBitmap := (List.range buffersToAck.toNat).foldl
    (fun bitmap i =>
      if getReliableBufferSize stream.base (seqNumAdd from_ (UInt16.ofNat i)) = 0 then
        bitmap ||| nackBit shiftBeyond i
      else bitmap) 0
  (from_, nackBitmap)

/-- The position behind that of the slot in which a buffer starts
(input_reliable_stream.c:237). -/
def nextHistoryPosition (stream : ReliableStream) (ub : UcdrBuffer) : UInt16 :=
  1 + getReliableBufferHistoryPosition stream ub.init

section

variable [MicroCdr]

/-- `on_full_input_buffer` (input_reliable_stream.c:231–260): whether it fails, the
stream and the buffer. -/
def onFullInputBuffer (stream : InputReliableStream) (ub : UcdrBuffer) :
    Bool × InputReliableStream × UcdrBuffer :=
  let historyPosition := nextHistoryPosition stream.base ub
  let buffer := getReliableBuffer stream.base historyPosition
  let bufferSize := getReliableBufferSize stream.base historyPosition
  let stream :=
    if stream.cleanupFlag then
      { stream with base := setReliableBufferSize stream.base historyPosition 0 }
    else
      stream
  if bufferSize < subheaderSize then
    (true, stream, ub)
  else
    let ub := ucdrInitBufferOrigin (buffer + subheaderSize)
      ((bufferSize - subheaderSize) % 2 ^ 32) ub.offset
    (false, stream, ub.setOnFullBufferCallback (some .onFullInputBuffer))

/-- `uxr_next_input_reliable_buffer_available` (input_reliable_stream.c:107–140). -/
def nextInputReliableBufferAvailable (fuel : Nat) (stream : InputReliableStream)
    (ub : UcdrBuffer) (fragmentOffset : Nat) : Option (Bool × InputReliableStream × UcdrBuffer) :=
  let next := seqNumAdd stream.lastHandled 1
  let internalBuffer := getReliableBuffer stream.base next
  let length := getReliableBufferSize stream.base next
  if length ≠ 0 then
    match stream.fragmentationInfo next with
    | .noFragmented =>
      some (true,
        { stream with
          base := setReliableBufferSize stream.base next 0
          lastHandled := next },
        ucdrInitBuffer internalBuffer (length % 2 ^ 32))
    | _ =>
      (checkLastFragment fuel stream).map fun (availableToRead, last) =>
        if availableToRead then
          let ub := ucdrInitBuffer (internalBuffer + fragmentOffset)
            ((length + 2 ^ 32 - fragmentOffset) % 2 ^ 32)
          (true,
            { stream with
              base := setReliableBufferSize stream.base next 0
              lastHandled := last },
            ub.setOnFullBufferCallback (some .onFullInputBuffer))
        else
          (false, stream, ub)
  else
    some (false, stream, ub)

end

end XrceClient
