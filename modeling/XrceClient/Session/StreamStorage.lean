import Mathlib.Logic.Function.Basic
import XrceClient.Stream.InputReliable
import XrceClient.Stream.OutputReliable
import XrceClient.Stream.StreamId

/-!
# The streams of a session (`stream_storage.c`, `*_best_effort_stream.c`)

A session keeps its streams in four arrays, each with the number of the streams
that were created. The arrays are functions of the index here, so an index that was not
created yet has an entry as well, with whatever is in memory there.
-/

namespace XrceClient

open ByteMemory

/-- `uxrInputBestEffortStream` (input_best_effort_stream.h). -/
structure InputBestEffortStream where
  lastHandled : SeqNum

/-- `uxr_init_input_best_effort_stream` (input_best_effort_stream.c:8–14). -/
def initInputBestEffortStream : InputBestEffortStream := { lastHandled := seqNumMax }

/-- `uxr_receive_best_effort_message` (input_best_effort_stream.c:22–33). -/
def receiveBestEffortMessage (stream : InputBestEffortStream) (seqNum : SeqNum) :
    Bool × InputBestEffortStream :=
  if 0 > seqNumCmp stream.lastHandled seqNum then
    (true, { lastHandled := seqNum })
  else
    (false, stream)

/-- `uxrOutputBestEffortStream` (output_best_effort_stream.h). -/
structure OutputBestEffortStream where
  buffer : Memory
  writer : Nat
  size : Nat
  offset : UInt8
  lastSend : SeqNum

/-- `uxr_init_output_best_effort_stream` (output_best_effort_stream.c:12–32). -/
def initOutputBestEffortStream (buffer : Memory) (size : Nat) (offset : UInt8) :
    OutputBestEffortStream :=
  { buffer, writer := offset.toNat, size, offset, lastSend := seqNumMax }

/-- `uxrStreamStorage` (stream_storage.h). -/
structure StreamStorage where
  outputBestEffort : UInt8 → OutputBestEffortStream
  outputBestEffortSize : UInt8
  outputReliable : UInt8 → OutputReliableStream
  outputReliableSize : UInt8
  inputBestEffort : UInt8 → InputBestEffortStream
  inputBestEffortSize : UInt8
  inputReliable : UInt8 → InputReliableStream
  inputReliableSize : UInt8

namespace StreamStorage

/-- The storage in memory that is all zero, with no stream created. -/
def zeroed : StreamStorage where
  outputBestEffort _ := { buffer := fun _ => 0, writer := 0, size := 0, offset := 0, lastSend := 0 }
  outputBestEffortSize := 0
  outputReliable _ :=
    { base := { buffer := fun _ => 0, size := 0, history := 0 }
      offset := 0
      lastWritten := 0
      lastSent := 0
      lastAcknown := 0
      nextHeartbeatTimestamp := 0
      nextHeartbeatTries := 0
      sendLost := false }
  outputReliableSize := 0
  inputBestEffort _ := { lastHandled := 0 }
  inputBestEffortSize := 0
  inputReliable _ :=
    { base := { buffer := fun _ => 0, size := 0, history := 0 }
      lastHandled := 0
      lastAnnounced := 0
      onGetFragmentationInfo := fun _ _ => .noFragmented
      cleanupFlag := false }
  inputReliableSize := 0

/-- `storage->output_reliable[index] = stream`. -/
def setOutputReliable (storage : StreamStorage) (index : UInt8) (stream : OutputReliableStream) :
    StreamStorage :=
  { storage with outputReliable := Function.update storage.outputReliable index stream }

/-- `storage->input_best_effort[index] = stream`. -/
def setInputBestEffort (storage : StreamStorage) (index : UInt8)
    (stream : InputBestEffortStream) : StreamStorage :=
  { storage with inputBestEffort := Function.update storage.inputBestEffort index stream }

/-- `storage->input_reliable[index] = stream`. -/
def setInputReliable (storage : StreamStorage) (index : UInt8) (stream : InputReliableStream) :
    StreamStorage :=
  { storage with inputReliable := Function.update storage.inputReliable index stream }

@[simp] theorem setOutputReliable_self (storage : StreamStorage) (index : UInt8)
    (stream : OutputReliableStream) :
    (storage.setOutputReliable index stream).outputReliable index = stream :=
  Function.update_self _ _ _

theorem setOutputReliable_other (storage : StreamStorage) {index index' : UInt8}
    (h : index' ≠ index) (stream : OutputReliableStream) :
    (storage.setOutputReliable index stream).outputReliable index' =
      storage.outputReliable index' := Function.update_of_ne h _ _

end StreamStorage

/-- `uxr_add_output_best_effort_buffer` (stream_storage.c:44–55). -/
def addOutputBestEffortBuffer (storage : StreamStorage) (buffer : Memory) (size : Nat)
    (headerOffset : UInt8) : StreamId × StreamStorage :=
  let index := storage.outputBestEffortSize
  (streamId index .bestEffortStream .outputStream,
    { storage with
      outputBestEffort := Function.update storage.outputBestEffort index
        (initOutputBestEffortStream buffer size headerOffset)
      outputBestEffortSize := index + 1 })

/-- `uxr_add_output_reliable_buffer` (stream_storage.c:57–69). -/
def addOutputReliableBuffer (storage : StreamStorage) (buffer : Memory) (size : Nat)
    (history : UInt16) (headerOffset : UInt8) : StreamId × StreamStorage :=
  let index := storage.outputReliableSize
  (streamId index .reliableStream .outputStream,
    { storage.setOutputReliable index (initOutputReliableStream buffer size history headerOffset)
        with outputReliableSize := index + 1 })

/-- `uxr_add_input_reliable_buffer` (stream_storage.c:81–93). -/
def addInputReliableBuffer (storage : StreamStorage) (buffer : Memory) (size : Nat)
    (history : UInt16) (onGetFragmentationInfo : Memory → Nat → FragmentationInfo) :
    StreamId × StreamStorage :=
  let index := storage.inputReliableSize
  (streamId index .reliableStream .inputStream,
    { storage.setInputReliable index
        (initInputReliableStream buffer size history onGetFragmentationInfo) with
        inputReliableSize := index + 1 })

/-- `uxr_get_output_reliable_stream` (stream_storage.c:106–115). -/
def getOutputReliableStream (storage : StreamStorage) (index : UInt8) :
    Option OutputReliableStream :=
  if index < storage.outputReliableSize then some (storage.outputReliable index) else none

/-- `uxr_get_input_best_effort_stream` (stream_storage.c:117–126). -/
def getInputBestEffortStream (storage : StreamStorage) (index : UInt8) :
    Option InputBestEffortStream :=
  if index < storage.inputBestEffortSize then some (storage.inputBestEffort index) else none

/-- `uxr_get_input_reliable_stream` (stream_storage.c:128–137). -/
def getInputReliableStream (storage : StreamStorage) (index : UInt8) :
    Option InputReliableStream :=
  if index < storage.inputReliableSize then some (storage.inputReliable index) else none

end XrceClient
