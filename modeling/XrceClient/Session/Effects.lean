import XrceClient.Session.SessionSlots

/-!
# What received messages do to a session

The info of a session and its output streams change by the effects of the submessages that
are read, one after the other, and by nothing else in a message.

- `ControlState`: the info and the output reliable streams; `take` is what one effect does.
- `Takes session session' effects`: the record grew by the effects, and the control state is
  what they make of it.
- `readMessage_takes`: so it is for every message.
-/

namespace XrceClient

open ByteMemory

/-- What the control messages of a session act on. -/
structure ControlState where
  info : SessionInfo
  outputReliable : UInt8 → OutputReliableStream
  outputReliableSize : UInt8

/-- The control state of a session. -/
def Session.control (session : Session) : ControlState where
  info := session.info
  outputReliable := session.streams.outputReliable
  outputReliableSize := session.streams.outputReliableSize

namespace ControlState

/-- The index of the output stream that an ACKNACK is taken for. -/
def acknackIndex (acknack : AcknackPayload) : UInt8 :=
  (streamIdFromRaw acknack.streamId .inputStream).index

/-- An ACKNACK, for the output stream that it is taken for. -/
def takeAcknack (control : ControlState) (acknack : AcknackPayload) : ControlState :=
  if acknackIndex acknack < control.outputReliableSize then
    { control with
      outputReliable := Function.update control.outputReliable (acknackIndex acknack)
        (sendLostMessages (processAcknack (control.outputReliable (acknackIndex acknack))
          (uint16FromRaw acknack.nackBitmap) acknack.firstUnackedSeqNum)).2 }
  else
    control

/-- An effect. -/
def take (control : ControlState) : Effect → ControlState
  | .createSessionStatus status =>
    { control with info := { control.info with lastRequestedStatus := status } }
  | .deleteSessionStatus requestId status _ =>
    if control.info.lastRequestId = requestLogout ∧ requestId = requestLogout then
      { control with info := { control.info with lastRequestedStatus := status } }
    else
      control
  | .acknack payload _ => control.takeAcknack payload
  | _ => control

end ControlState

/-- From one session to the next, the effects took place, and nothing else happened to the
control state. -/
structure Takes (session session' : Session) (effects : List Effect) : Prop where
  record : session'.effects = session.effects ++ effects
  control : session'.control = effects.foldl ControlState.take session.control

namespace Takes

variable {session session' session'' : Session} {effects effects' : List Effect}

/-- A session that keeps its control state and its record takes no effect. -/
theorem nil (heffects : session'.effects = session.effects)
    (hcontrol : session'.control = session.control) : Takes session session' [] where
  record := by rw [heffects, List.append_nil]
  control := hcontrol

theorem refl (session : Session) : Takes session session [] := nil rfl rfl

theorem trans (h : Takes session session' effects) (h' : Takes session' session'' effects') :
    Takes session session'' (effects ++ effects') where
  record := by rw [h'.record, h.record, List.append_assoc]
  control := by rw [h'.control, h.control, List.foldl_append]

/-- A session may change before the effects, but for its control state and its record. -/
theorem before (h : Takes session' session'' effects) (hrecord : session'.effects = session.effects)
    (hcontrol : session'.control = session.control) : Takes session session'' effects where
  record := by rw [h.record, hrecord]
  control := by rw [h.control, hcontrol]

end Takes

section

variable [MicroCdr] {shiftBeyond : Nat → UInt16}

/-- An answer to the agent is no effect. -/
theorem takes_writeSubmessageAcknack (session : Session) (id : StreamId) :
    Takes session (writeSubmessageAcknack shiftBeyond session id) [] := Takes.nil rfl rfl

theorem takes_emit (effect : Effect) (session : Session) :
    Takes session (Session.emit shiftBeyond effect session) [effect] := by
  cases effect with
  | heartbeat payload =>
    rw [Session.emit, readSubmessageHeartbeat]
    dsimp only
    split <;> exact ⟨rfl, rfl⟩
  | acknack payload whole =>
    rw [Session.emit, readSubmessageAcknack, getOutputReliableStream]
    dsimp only
    by_cases hcreated : (streamIdFromRaw payload.streamId .inputStream).index <
        session.streams.outputReliableSize
    · rw [if_pos hcreated]
      exact ⟨rfl, (if_pos hcreated).symm⟩
    · rw [if_neg hcreated]
      exact ⟨rfl, (if_neg hcreated).symm⟩
  | deleteSessionStatus requestId status whole =>
    rw [Session.emit]
    dsimp only
    by_cases hlogout : session.info.lastRequestId = requestLogout ∧ requestId = requestLogout
    · rw [if_pos hlogout]
      exact ⟨rfl, (if_pos hlogout).symm⟩
    · rw [if_neg hlogout]
      exact ⟨rfl, (if_neg hlogout).symm⟩
  | _ => exact ⟨rfl, rfl⟩

variable [LawfulMicroCdr]

/-- A run takes effects if the callback and the cleanup flag take none. -/
theorem takes_run {env : ReadEnv Session} (hemit : env.emit = Session.emit shiftBeyond)
    (hfull : ∀ session ub, Takes session (env.dev.onFull session ub).2.1 [])
    (hflag : ∀ flag session, Takes session (env.setCleanupFlag flag session) []) {α : Type}
    (program : Program ReadOp α) (session : Session) (ub : UcdrBuffer) :
    ∃ effects, Takes session (env.read program session ub).2.1 effects := by
  refine (Program.run_preserves env.handle (P := fun t =>
    (∃ effects, Takes session t.1 effects) ∧ True ∧ ∀ outer ∈ t.2.outer, True) ?_ program
    (session, { ub, outer := none }) ⟨⟨[], Takes.refl session⟩, trivial, nofun⟩).1
  intro β op t ht
  refine handle_preserves (I := fun s => ∃ effects, Takes session s effects)
    (C := fun _ => True) ?_ ?_ ?_ op t ht
  · rintro s ub ⟨effects, hs⟩ -
    exact ⟨⟨_, hs.trans (hfull s ub)⟩, trivial⟩
  · rintro flag s callback - - ⟨effects, hs⟩
    exact ⟨_, hs.trans (hflag flag s)⟩
  · rintro effect s ⟨effects, hs⟩
    exact ⟨_, hs.trans (hemit ▸ takes_emit effect s)⟩

theorem takes_datagram {α : Type} (memory : Memory) (program : Program ReadOp α)
    (session : Session) (ub : UcdrBuffer) :
    ∃ effects, Takes session ((datagramEnv shiftBeyond memory).read program session ub).2.1
      effects :=
  takes_run rfl (fun session _ => Takes.refl session) (fun _ session => Takes.refl session)
    program session ub

theorem takes_slots {α : Type} (index : UInt8) (program : Program ReadOp α)
    (session : Session) (ub : UcdrBuffer) :
    ∃ effects, Takes session ((slotsEnv shiftBeyond index).read program session ub).2.1 effects := by
  refine takes_run rfl ?_ ?_ program session ub
  · intro session ub
    rw [slotsEnv]
    dsimp only
    split <;> exact Takes.nil rfl rfl
  · exact fun _ _ => Takes.nil rfl rfl

variable {config : ReadConfig} {fuel : Nat} {session session' : Session}

theorem takes_readSubmessages_datagram {memory : Memory} {ub : UcdrBuffer} {streamId : StreamId}
    (h : readSubmessages config fuel (datagramEnv shiftBeyond memory) session ub streamId =
      some session') : ∃ effects, Takes session session' effects := by
  obtain ⟨effects, htakes⟩ := @takes_datagram _ shiftBeyond _ _ memory
    (readSubmessageList config fuel streamId) session ub
  rw [readSubmessages] at h
  dsimp only at h
  split at h
  · cases h
    exact ⟨effects, htakes⟩
  · cases h

theorem takes_readSubmessages_slots {index : UInt8} {ub : UcdrBuffer} {streamId : StreamId}
    (h : readSubmessages config fuel (slotsEnv shiftBeyond index) session ub streamId =
      some session') : ∃ effects, Takes session session' effects := by
  obtain ⟨effects, htakes⟩ := @takes_slots _ shiftBeyond _ _ index
    (readSubmessageList config fuel streamId) session ub
  rw [readSubmessages] at h
  dsimp only at h
  split at h
  · cases h
    exact ⟨effects, htakes⟩
  · cases h

theorem takes_readNextBuffers {streamId : StreamId} {nextMb : UcdrBuffer}
    (h : readNextBuffers shiftBeyond config streamId fuel session nextMb = some session') :
    ∃ effects, Takes session session' effects := by
  induction fuel generalizing session nextMb with
  | zero => cases h
  | succ fuel ih =>
    rw [readNextBuffers] at h
    obtain ⟨⟨available, stream, nextMb'⟩, -, h⟩ := Option.bind_eq_some_iff.mp h
    dsimp only at h
    split at h
    · obtain ⟨session₁, hread, hrest⟩ := Option.bind_eq_some_iff.mp h
      obtain ⟨effects₁, h₁⟩ := takes_readSubmessages_slots hread
      obtain ⟨effects₂, h₂⟩ := ih hrest
      exact ⟨_, (h₁.trans h₂).before rfl rfl⟩
    · cases h
      exact ⟨[], Takes.nil rfl rfl⟩

theorem takes_readReliableStream {memory : Memory} {ub : UcdrBuffer} {streamId : StreamId}
    {seqNum : SeqNum} {stream : InputReliableStream}
    (h : readReliableStream shiftBeyond config fuel session memory ub streamId seqNum stream =
      some session') : ∃ effects, Takes session session' effects := by
  rw [readReliableStream] at h
  obtain ⟨received, -, h⟩ := Option.bind_eq_some_iff.mp h
  dsimp only at h
  split at h
  · split at h
    · obtain ⟨effects, h₁⟩ := takes_readNextBuffers h
      exact ⟨_, h₁.before rfl rfl⟩
    · obtain ⟨session₁, hread, hrest⟩ := Option.bind_eq_some_iff.mp h
      obtain ⟨effects₁, h₁⟩ := takes_readSubmessages_datagram hread
      obtain ⟨effects₂, h₂⟩ := takes_readNextBuffers hrest
      exact ⟨_, (h₁.trans h₂).before rfl rfl⟩
  · cases h
    exact ⟨[], Takes.nil rfl rfl⟩

theorem takes_readStream {memory : Memory} {ub : UcdrBuffer} {streamId : StreamId}
    {seqNum : SeqNum}
    (h : readStream shiftBeyond config fuel session memory ub streamId seqNum = some session') :
    ∃ effects, Takes session session' effects := by
  rw [readStream] at h
  split at h
  · exact takes_readSubmessages_datagram h
  · split at h
    · dsimp only at h
      split at h
      · obtain ⟨effects, h₁⟩ := takes_readSubmessages_datagram h
        exact ⟨_, h₁.before rfl rfl⟩
      · cases h
        exact ⟨[], Takes.nil rfl rfl⟩
    · cases h
      exact ⟨[], Takes.refl session⟩
  · obtain ⟨session₁, hread, hanswer⟩ := Option.map_eq_some_iff.mp h
    subst hanswer
    have hafter := @takes_writeSubmessageAcknack _ shiftBeyond session₁ streamId
    split at hread
    · obtain ⟨effects, h₁⟩ := takes_readReliableStream hread
      exact ⟨_, h₁.trans hafter⟩
    · cases hread
      exact ⟨_, hafter⟩

/-- The control state after a message is what the effects of its submessages make of it. -/
theorem readMessage_takes {msg : Datagram}
    (h : readMessage shiftBeyond config fuel session msg = some session') :
    ∃ effects, Takes session session' effects := by
  rw [readMessage] at h
  dsimp only at h
  obtain ⟨effects, hheader⟩ := @takes_datagram _ shiftBeyond _ _ msg.memory
    (readBuffer (readSessionHeader session.info)) session
    (ucdrInitBuffer msg.buffered.buffer msg.buffered.length)
  split at h
  · obtain ⟨effects', hread⟩ := takes_readStream h
    exact ⟨_, hheader.trans hread⟩
  · cases h
    exact ⟨_, hheader⟩

end

end XrceClient
