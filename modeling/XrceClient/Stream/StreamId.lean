import Mathlib.Tactic.Common

/-!
# Stream identifiers (`stream_id.c`)

A stream is named on the wire by one byte: 0 for the stream of none, 1 to 127 for
the best-effort streams, 128 to 255 for the reliable ones.
-/

namespace XrceClient

/-- `uxrStreamType` (stream_id.h), without the type of the shared-memory profile. -/
inductive StreamType where
  | noneStream
  | bestEffortStream
  | reliableStream
  deriving DecidableEq, Repr

/-- `uxrStreamDirection` (stream_id.h). -/
inductive StreamDirection where
  | inputStream
  | outputStream
  deriving DecidableEq, Repr

/-- `uxrStreamId` (stream_id.h). -/
structure StreamId where
  raw : UInt8
  index : UInt8
  type : StreamType
  direction : StreamDirection
  deriving DecidableEq, Repr

/-- `BEST_EFFORT_STREAM_THRESHOLD` (stream_id.c:5). -/
def bestEffortStreamThreshold : UInt8 := 1

/-- `RELIABLE_STREAM_THRESHOLD` (stream_id.c:6). -/
def reliableStreamThreshold : UInt8 := 128

/-- `uxr_stream_id` (stream_id.c:11–36). -/
def streamId (index : UInt8) (type : StreamType) (direction : StreamDirection) : StreamId where
  raw :=
    match type with
    | .noneStream => 0
    | .bestEffortStream => index + bestEffortStreamThreshold
    | .reliableStream => index + reliableStreamThreshold
  index
  type
  direction

/-- `uxr_stream_id_from_raw` (stream_id.c:38–64). -/
def streamIdFromRaw (streamIdRaw : UInt8) (direction : StreamDirection) : StreamId :=
  if bestEffortStreamThreshold > streamIdRaw then
    { raw := streamIdRaw, index := streamIdRaw, type := .noneStream, direction }
  else if reliableStreamThreshold > streamIdRaw then
    { raw := streamIdRaw, index := streamIdRaw - bestEffortStreamThreshold,
      type := .bestEffortStream, direction }
  else
    { raw := streamIdRaw, index := streamIdRaw - reliableStreamThreshold,
      type := .reliableStream, direction }

@[simp] theorem streamIdFromRaw_raw (raw : UInt8) (direction : StreamDirection) :
    (streamIdFromRaw raw direction).raw = raw := by
  unfold streamIdFromRaw
  split
  · rfl
  · split <;> rfl

/-- The identifiers of reliable streams are those from 128 on. -/
theorem streamIdFromRaw_reliable_iff (raw : UInt8) (direction : StreamDirection) :
    (streamIdFromRaw raw direction).type = .reliableStream ↔ 128 ≤ raw := by
  unfold streamIdFromRaw bestEffortStreamThreshold reliableStreamThreshold
  split
  · next h =>
    refine ⟨nofun, fun hle => absurd (UInt8.lt_of_lt_of_le h (UInt8.le_trans ?_ hle)) ?_⟩
    · decide
    · exact UInt8.lt_irrefl _
  · split
    · next h =>
      refine ⟨nofun, fun hle => absurd (UInt8.lt_of_lt_of_le h hle) ?_⟩
      exact UInt8.lt_irrefl _
    · next h => exact ⟨fun _ => UInt8.not_lt.mp h, fun _ => rfl⟩

end XrceClient
