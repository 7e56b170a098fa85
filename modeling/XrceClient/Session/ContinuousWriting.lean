import XrceClient.Session.EntityCreation
import XrceClient.Stream.FlushedWindow

/-!
# Continuous fragmentation (`write_access.c`)

The user writes a topic of any length: `uxr_prepare_output_stream_fragmented` opens the first block
of its WRITE_DATA submessage, and `on_full_output_buffer_fragmented` opens a block whenever the one
before it is full. When there is no slot left for a block, a callback of the user is to make room.

- `FlushCallback`: that callback. It runs the session, on a world of its own.
- `openFirstBlock` / `openNextBlock`: a block is opened in a slot of the stream.
- `prepareOutputStreamFragmented`, `onFullOutputBufferFragmented`: the two functions.
- `continuousDevice`: the memory of the stream, with that function as its callback.

Besides the session there is a record of the blocks that were completed, as the slots held them
when the user had filled them. The record is no part of the source's state.
-/

namespace XrceClient

open ByteMemory

/-- `MAX_WRITE_DATA_PAYLOAD_SIZE` (write_access.c:15). -/
def maxWriteDataPayloadSize : Nat := 65535

/-- `uxrOnBuffersFull`, with the arguments that it is given. -/
abbrev FlushCallback (ω : Type) := Session → ω → Bool × Session × ω

/-- `uxrContinuousArgs` (session.h). -/
structure ContinuousArgs where
  streamId : StreamId
  dataSize : Nat

/-- What a slot holds. -/
structure ContinuousBlock where
  seqNum : SeqNum
  size : Nat
  bytes : List UInt8

/-- A session that writes continuously. -/
structure ContinuousState (ω : Type) where
  session : Session
  args : ContinuousArgs
  world : ω
  blocks : List ContinuousBlock

namespace ContinuousState

variable {ω : Type}

/-- The stream that is written to. -/
def stream (st : ContinuousState ω) : OutputReliableStream :=
  st.session.streams.outputReliable st.args.streamId.index

def setStream (st : ContinuousState ω) (stream : OutputReliableStream) : ContinuousState ω :=
  { st with
    session := { st.session with
      streams := st.session.streams.setOutputReliable st.args.streamId.index stream } }

@[simp] theorem setStream_stream (st : ContinuousState ω) (stream : OutputReliableStream) :
    (st.setStream stream).stream = stream := StreamStorage.setOutputReliable_self _ _ _

@[simp] theorem setStream_blocks (st : ContinuousState ω) (stream : OutputReliableStream) :
    (st.setStream stream).blocks = st.blocks := rfl

@[simp] theorem setStream_args (st : ContinuousState ω) (stream : OutputReliableStream) :
    (st.setStream stream).args = st.args := rfl

end ContinuousState

/-- The block that was opened last. -/
def openBlock (stream : OutputReliableStream) : ContinuousBlock :=
  let seqNum := seqNumSub stream.lastWritten 1
  { seqNum
    size := getReliableBufferSize stream.base seqNum
    bytes := stream.base.bytesFrom seqNum 0 (getReliableBufferCapacity stream.base) }

section

variable [MicroCdr]

/-- The header of a FRAGMENT behind the contents of a slot, and the buffer behind it
(write_access.c:172–191, 262–270). -/
def bufferFragmentHeader (stream : OutputReliableStream) (seqNum : SeqNum) (fragmentSize : UInt16)
    (flags : UInt8) : OutputReliableStream × UcdrBuffer :=
  let tempUb := ucdrInitBufferOriginOffset (getReliableBuffer stream.base seqNum)
    (getReliableBufferCapacity stream.base) 0 (getReliableBufferSize stream.base seqNum)
  let (_, buffer, tempUb) := bufferSubmessageHeader Device.plain stream.base.buffer tempUb
    SubmessageId.fragment.value fragmentSize flags
  ({ stream with base := { stream.base with buffer } }, tempUb)

/-- A block is opened in the slot of a number: its header, the size of the slot, and the number
behind it as the last written one. -/
def openBlockAt (stream : OutputReliableStream) (seqNum : SeqNum) (fragmentSize : UInt16)
    (flags : UInt8) (size : Nat) : OutputReliableStream × UcdrBuffer :=
  let (stream, tempUb) := bufferFragmentHeader stream seqNum fragmentSize flags
  ({ stream with
      base := setReliableBufferSize stream.base seqNum size
      lastWritten := seqNumAdd seqNum 1 }, tempUb)

/-- The first block, always in a slot without contents, and the buffer over its payload
(write_access.c:245–278). -/
def openFirstBlock (stream : OutputReliableStream) (userRequiredSpace : Nat) :
    OutputReliableStream × UcdrBuffer :=
  let seqNum :=
    if getReliableBufferSize stream.base stream.lastWritten > stream.offset.toNat then
      seqNumAdd stream.lastWritten 1
    else stream.lastWritten
  let buffer := getReliableBuffer stream.base seqNum
  let bufferSize := getReliableBufferSize stream.base seqNum
  let bufferCapacity := getReliableBufferCapacity stream.base
  let (stream, _) := openBlockAt stream seqNum (UInt16.ofNat (availableBlockSize stream))
    (if userRequiredSpace < bufferCapacity then flagLastFragment else 0) bufferCapacity
  (stream, ucdrInitBuffer (buffer + bufferSize + subheaderSize)
    ((bufferCapacity - bufferSize - subheaderSize) % 2 ^ 32))

/-- The next block, for `dataSize` bytes that are left, and the buffer behind its header
(write_access.c:172–198). -/
def openNextBlock (stream : OutputReliableStream) (dataSize : Nat) :
    OutputReliableStream × UcdrBuffer :=
  let bufferCapacity := getReliableBufferCapacity stream.base
  let (stream, tempUb) :=
    if dataSize + subheaderSize + writeDataPayloadSize ≤ bufferCapacity then
      openBlockAt stream stream.lastWritten (UInt16.ofNat dataSize) flagLastFragment
        (dataSize + subheaderSize + writeDataPayloadSize)
    else
      openBlockAt stream stream.lastWritten (UInt16.ofNat (availableBlockSize stream)) 0
        bufferCapacity
  (stream, ucdrInitBuffer tempUb.iterator (tempUb.final - tempUb.iterator))

variable {ω : Type} (flush : FlushCallback ω)

/-- The callback is called when there is no free slot, and is to make one
(write_access.c:157–166, 229–243). -/
def makeRoom (index : UInt8) (session : Session) (world : ω) : Bool × Session × ω :=
  if 0 = getAvailableFreeSlots (session.streams.outputReliable index) then
    let (flushed, session, world) := flush session world
    (flushed && 0 ≠ getAvailableFreeSlots (session.streams.outputReliable index), session, world)
  else
    (true, session, world)

/-- `on_full_output_buffer_fragmented` (write_access.c:148–203). -/
def onFullOutputBufferFragmented (st : ContinuousState ω) (ub : UcdrBuffer) :
    Bool × ContinuousState ω × UcdrBuffer :=
  let (available, session, world) := makeRoom flush st.args.streamId.index st.session st.world
  let flushed := { st with session, world }
  if available then
    let dataSize := st.args.dataSize - availableBlockSize flushed.stream
    let (stream, ub) := openNextBlock flushed.stream dataSize
    (false,
      { flushed.setStream stream with
        args := { st.args with dataSize }
        blocks := st.blocks ++ [openBlock st.stream] },
      ub.setOnFullBufferCallback (some .onFullOutputBufferFragmented))
  else
    (true, flushed, ub)

/-- The length in the header of the WRITE_DATA. A message that is longer than that has none, as
`UCLIENT_TWEAK_XRCE_WRITE_LIMIT`, which is on by default, has it (write_access.c:281–288). -/
def writeDataLength (dataSize : Nat) : UInt16 :=
  let payloadSize := writeDataPayloadSize + dataSize
  UInt16.ofNat (if payloadSize > maxWriteDataPayloadSize then 0 else payloadSize)

/-- The header and the base of the WRITE_DATA, and the buffer behind them
(write_access.c:290–302). -/
def bufferWriteData (memory : Memory) (ub : UcdrBuffer) (dataSize : Nat) (base : BaseObjectRequest) :
    Memory × UcdrBuffer :=
  let (_, memory, ub) := bufferSubmessageHeader Device.plain memory ub SubmessageId.writeData.value
    (writeDataLength dataSize) formatData
  let (_, memory, ub) := serializeBaseObjectRequest Device.plain memory ub base
  (memory, ucdrInitBuffer ub.iterator (ub.final - ub.iterator))

/-- `uxr_prepare_output_stream_fragmented` (write_access.c:205–313). The identifier of the request
is never the invalid one (`generateRequestId_ne`), and so the source's case for that is left out. -/
def prepareOutputStreamFragmented (st : ContinuousState ω) (streamId : StreamId)
    (entityId : ObjectId) (ub : UcdrBuffer) (dataSize : Nat) :
    UInt16 × ContinuousState ω × UcdrBuffer :=
  let userRequiredSpace := dataSize + subheaderSize + writeDataPayloadSize
  if streamId.type = .bestEffortStream ∨
      (getOutputReliableStream st.session.streams streamId.index).isNone then
    (invalidRequestId, st, ub)
  else
    let (available, session, world) := makeRoom flush streamId.index st.session st.world
    if available then
      let (stream, ub) :=
        openFirstBlock (session.streams.outputReliable streamId.index) userRequiredSpace
      let (requestId, base, info) := initBaseObjectRequest session.info entityId
      let (buffer, ub) := bufferWriteData stream.base.buffer ub dataSize base
      let st : ContinuousState ω :=
        { session := { session with
            info
            streams := session.streams.setOutputReliable streamId.index
              { stream with base := { stream.base with buffer } } }
          args := { streamId, dataSize := userRequiredSpace }
          world
          blocks := [] }
      (requestId, st, ub.setOnFullBufferCallback (some .onFullOutputBufferFragmented))
    else
      (invalidRequestId, { st with session, world }, ub)

/-- The memory of the stream, with the callback for a full block. -/
def continuousDevice : Device (ContinuousState ω) where
  load st a := st.stream.base.buffer a
  store st a v := st.setStream { st.stream with
    base := { st.stream.base with buffer := write st.stream.base.buffer a [v] } }
  onFull st ub :=
    if ub.onFullBuffer = some .onFullOutputBufferFragmented then
      onFullOutputBufferFragmented flush st ub
    else
      (true, st, ub)

end

end XrceClient
