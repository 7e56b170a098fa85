import XrceClient.Session.Application
import XrceClient.Session.ControlMessages
import XrceClient.Session.DataReading
import XrceClient.Session.Deletion

/-!
# Submessages that are cut short

The handlers do not look at what the deserializers return: they act on what was read of a
payload, and for the rest on what the variable held before.

- `FixedPayload`: the payloads with a fixed part.
- `Untouched`: from one session to the next, nothing has happened.
- `Unnoticed`: what a handler does about the fields that it sees is without consequence.
- `truncated_submessage_inert_iff`: a cut submessage is inert exactly if what is seen of it
  is without consequence.
-/

namespace XrceClient

open ByteMemory Program

/-- The payloads with a fixed part. -/
inductive FixedPayload where
  | statusAgent
  | status
  | data
  | heartbeat
  | acknack
  | timestampReply
  deriving DecidableEq, Repr

namespace FixedPayload

def id : FixedPayload → SubmessageId
  | statusAgent => .statusAgent
  | status => .status
  | data => .data
  | heartbeat => .heartbeat
  | acknack => .acknack
  | timestampReply => .timestampReply

/-- The fields of the fixed part. -/
def fields : FixedPayload → List FieldType
  | statusAgent => statusAgentFields
  | status => baseObjectReplyFields
  | data => baseObjectRequestFields
  | heartbeat => heartbeatFields
  | acknack => acknackFields
  | timestampReply => timestampReplyFields

end FixedPayload

/-- From one session to the next, the session, its streams and what the application sees stay
as they are, no callback is called and nothing is sent. -/
structure Untouched (nanos : Int) (app : Application) (session session' : Session) : Prop where
  info : session'.info = session.info
  streams : session'.streams = session.streams
  sent : session'.sent = session.sent
  application : ∃ effects, session'.effects = session.effects ++ effects ∧
    effects.foldl (Application.take nanos) app = app

/-- The index of the stream that a byte names for an input stream. -/
def namedIndex (raw : UInt8) : UInt8 := (streamIdFromRaw raw .inputStream).index

/-- What is seen of a payload is without consequence. The fields of which bytes are missing are
`none`, and the variables keep what they held. -/
def Unnoticed (nanos : Int) (app : Application) (config : ReadConfig) (session : Session)
    (streamId : StreamId) (flags : UInt8) (fields : List (Option Field)) : FixedPayload → Prop
  | .statusAgent =>
    streamId.type = .noneStream →
      statusAgentOfFields config.uninitialized.statusAgent fields = session.info.lastRequestedStatus
  | .status =>
    let reply := BaseObjectReply.ofFields config.uninitialized.status fields
    let requestId := uint16FromRaw reply.relatedRequest.requestId
    if streamId.type = .noneStream then
      session.info.lastRequestId = requestLogout ∧ requestId = requestLogout →
        reply.status = session.info.lastRequestedStatus
    else
      app.onStatus = false ∧ StatusKnown app.statusList requestId reply.status
  | .data =>
    let base := BaseObjectRequest.ofFields config.uninitialized.base fields
    app.onStatus = false ∧
      StatusKnown app.statusList (uint16FromRaw base.requestId) statusOk ∧
      ¬ (flags &&& formatMask = formatData ∧
        (objectIdFromRaw base.objectId).type = dataReaderId ∧ config.onTopic.isSome)
  | .heartbeat =>
    let payload := HeartbeatPayload.ofFields config.uninitialized.heartbeat fields
    session.streams.inputReliableSize ≤ namedIndex payload.streamId
  | .acknack =>
    let payload := AcknackPayload.ofFields config.uninitialized.acknack fields
    session.streams.outputReliableSize ≤ namedIndex payload.streamId ∨
      AcknackIdle (session.streams.outputReliable (namedIndex payload.streamId))
        (uint16FromRaw payload.nackBitmap) payload.firstUnackedSeqNum
  | .timestampReply =>
    let payload := TimestampReplyPayload.ofFields config.uninitialized.timestampReply fields
    app.onTime = false ∧ app.synchronized = true ∧ app.timeOffset = Application.offsetOf nanos payload

/-! ## What one effect does -/

section

variable [MicroCdr] {shiftBeyond : Nat → UInt16} {nanos : Int} {app : Application}
  {session : Session}

/-- One effect leaves everything untouched if the session and the application stay as they
are. -/
theorem untouched_emit_iff {effect : Effect}
    (hrecord : (Session.emit shiftBeyond effect session).effects = session.effects ++ [effect]) :
    Untouched nanos app session (Session.emit shiftBeyond effect session) ↔
      (Session.emit shiftBeyond effect session).info = session.info ∧
      (Session.emit shiftBeyond effect session).streams = session.streams ∧
      (Session.emit shiftBeyond effect session).sent = session.sent ∧
      app.take nanos effect = app := by
  constructor
  · rintro ⟨hinfo, hstreams, hsent, effects, heffects, happ⟩
    rw [hrecord] at heffects
    rw [← List.append_cancel_left heffects] at happ
    exact ⟨hinfo, hstreams, hsent, happ⟩
  · rintro ⟨hinfo, hstreams, hsent, happ⟩
    exact ⟨hinfo, hstreams, hsent, [effect], hrecord, happ⟩

omit [MicroCdr] in
theorem untouched_refl (session : Session) : Untouched nanos app session session :=
  ⟨rfl, rfl, rfl, [], (List.append_nil _).symm, rfl⟩

theorem untouched_createSessionStatus_iff (status : UInt8) :
    Untouched nanos app session (Session.emit shiftBeyond (.createSessionStatus status) session) ↔
      status = session.info.lastRequestedStatus := by
  rw [untouched_emit_iff rfl]
  constructor
  · rintro ⟨hinfo, -⟩
    exact congrArg SessionInfo.lastRequestedStatus hinfo
  · rintro rfl
    exact ⟨rfl, rfl, rfl, rfl⟩

theorem untouched_deleteSessionStatus_iff (requestId : UInt16) (status : UInt8) (whole : Bool) :
    Untouched nanos app session
        (Session.emit shiftBeyond (.deleteSessionStatus requestId status whole) session) ↔
      (session.info.lastRequestId = requestLogout ∧ requestId = requestLogout →
        status = session.info.lastRequestedStatus) := by
  by_cases hlogout : session.info.lastRequestId = requestLogout ∧ requestId = requestLogout
  · have hemit : Session.emit shiftBeyond (.deleteSessionStatus requestId status whole) session =
        { session with
          effects := session.effects ++ [.deleteSessionStatus requestId status whole]
          info := { session.info with lastRequestedStatus := status } } := if_pos hlogout
    rw [untouched_emit_iff (by rw [hemit]), hemit]
    constructor
    · rintro ⟨hinfo, -⟩ -
      exact congrArg SessionInfo.lastRequestedStatus hinfo
    · intro hsame
      rw [hsame hlogout]
      exact ⟨rfl, rfl, rfl, rfl⟩
  · have hemit : Session.emit shiftBeyond (.deleteSessionStatus requestId status whole) session =
        { session with effects := session.effects ++ [.deleteSessionStatus requestId status whole] } :=
      if_neg hlogout
    rw [untouched_emit_iff (by rw [hemit]), hemit]
    exact ⟨fun _ hboth => absurd hboth hlogout, fun _ => ⟨rfl, rfl, rfl, rfl⟩⟩

theorem untouched_status_iff (objectId : ObjectId) (requestId : UInt16) (status : UInt8) :
    Untouched nanos app session
        (Session.emit shiftBeyond (.status objectId requestId status) session) ↔
      app.onStatus = false ∧ StatusKnown app.statusList requestId status := by
  rw [untouched_emit_iff rfl, ← app.processStatus_eq_self_iff objectId]
  constructor
  · exact fun h => h.2.2.2
  · exact fun h => ⟨rfl, rfl, rfl, h⟩

theorem untouched_timestampReply_iff (timestamp : TimestampReplyPayload) :
    Untouched nanos app session (Session.emit shiftBeyond (.timestampReply timestamp) session) ↔
      app.onTime = false ∧ app.synchronized = true ∧
        app.timeOffset = Application.offsetOf nanos timestamp := by
  rw [untouched_emit_iff rfl, ← Application.processTimestampReply_eq_self_iff]
  constructor
  · exact fun h => h.2.2.2
  · exact fun h => ⟨rfl, rfl, rfl, h⟩

theorem readSubmessageHeartbeat_unknown {payload : HeartbeatPayload}
    (h : ¬ namedIndex payload.streamId < session.streams.inputReliableSize) :
    readSubmessageHeartbeat shiftBeyond session payload = session := by
  have hnone : getInputReliableStream session.streams (namedIndex payload.streamId) = none :=
    if_neg h
  rw [namedIndex] at hnone
  rw [readSubmessageHeartbeat, hnone]

theorem readSubmessageHeartbeat_sent {payload : HeartbeatPayload}
    (h : namedIndex payload.streamId < session.streams.inputReliableSize) :
    (readSubmessageHeartbeat shiftBeyond session payload).sent ≠ session.sent := by
  obtain ⟨message, hsent⟩ : ∃ message,
      (readSubmessageHeartbeat shiftBeyond session payload).sent = session.sent ++ [message] := by
    have hfound : getInputReliableStream session.streams (namedIndex payload.streamId) =
        some (session.streams.inputReliable (namedIndex payload.streamId)) := if_pos h
    rw [namedIndex] at hfound
    rw [readSubmessageHeartbeat, hfound]
    exact writeSubmessageAcknack_sent _ _ _
  rw [hsent]
  intro hsame
  exact List.cons_ne_nil _ _ (List.append_cancel_left (hsame.trans (List.append_nil _).symm))

theorem untouched_heartbeat_iff (payload : HeartbeatPayload) :
    Untouched nanos app session (Session.emit shiftBeyond (.heartbeat payload) session) ↔
      session.streams.inputReliableSize ≤ namedIndex payload.streamId := by
  have hemit : Session.emit shiftBeyond (.heartbeat payload) session =
      readSubmessageHeartbeat shiftBeyond
        { session with effects := session.effects ++ [.heartbeat payload] } payload := rfl
  by_cases hcreated : namedIndex payload.streamId < session.streams.inputReliableSize
  · constructor
    · intro h
      exact absurd h.sent (hemit ▸ readSubmessageHeartbeat_sent hcreated)
    · intro hnone
      exact absurd hcreated (UInt8.not_lt.mpr hnone)
  · replace hemit := hemit.trans (readSubmessageHeartbeat_unknown hcreated)
    rw [untouched_emit_iff (by rw [hemit]), hemit]
    exact ⟨fun _ => UInt8.not_lt.mp hcreated, fun _ => ⟨rfl, rfl, rfl, rfl⟩⟩

omit [MicroCdr] in
theorem readSubmessageAcknack_unknown {payload : AcknackPayload}
    (h : ¬ namedIndex payload.streamId < session.streams.outputReliableSize) :
    readSubmessageAcknack session payload = session := by
  have hnone : getOutputReliableStream session.streams (namedIndex payload.streamId) = none :=
    if_neg h
  rw [namedIndex] at hnone
  rw [readSubmessageAcknack, hnone]

omit [MicroCdr] in
/-- An ACKNACK for a created stream does nothing exactly if it is idle. -/
theorem readSubmessageAcknack_idle_iff {payload : AcknackPayload}
    (h : namedIndex payload.streamId < session.streams.outputReliableSize) :
    ((readSubmessageAcknack session payload).streams = session.streams ∧
      (readSubmessageAcknack session payload).sent = session.sent) ↔
      AcknackIdle (session.streams.outputReliable (namedIndex payload.streamId))
        (uint16FromRaw payload.nackBitmap) payload.firstUnackedSeqNum := by
  have hfound : getOutputReliableStream session.streams (namedIndex payload.streamId) =
      some (session.streams.outputReliable (namedIndex payload.streamId)) := if_pos h
  rw [namedIndex] at hfound
  rw [← acknackIdle_iff, readSubmessageAcknack, hfound]
  dsimp only
  constructor
  · rintro ⟨hstreams, hsent⟩
    have hlost := List.append_cancel_left (hsent.trans (List.append_nil _).symm)
    refine ⟨List.map_eq_nil_iff.mp hlost, ?_⟩
    have hstream := congrFun (congrArg StreamStorage.outputReliable hstreams)
      (namedIndex payload.streamId)
    exact (StreamStorage.setOutputReliable_self _ _ _).symm.trans hstream
  · rintro ⟨hlost, hsame⟩
    rw [namedIndex] at hlost hsame
    rw [hlost, hsame]
    refine ⟨?_, List.append_nil _⟩
    exact congrArg (fun outputReliable => { session.streams with outputReliable })
      (Function.update_eq_self _ _)

theorem untouched_acknack_iff (payload : AcknackPayload) (whole : Bool) :
    Untouched nanos app session (Session.emit shiftBeyond (.acknack payload whole) session) ↔
      session.streams.outputReliableSize ≤ namedIndex payload.streamId ∨
        AcknackIdle (session.streams.outputReliable (namedIndex payload.streamId))
          (uint16FromRaw payload.nackBitmap) payload.firstUnackedSeqNum := by
  have hemit : Session.emit shiftBeyond (.acknack payload whole) session =
      readSubmessageAcknack
        { session with effects := session.effects ++ [.acknack payload whole] } payload := rfl
  by_cases hcreated : namedIndex payload.streamId < session.streams.outputReliableSize
  · have hidle := @readSubmessageAcknack_idle_iff
      { session with effects := session.effects ++ [.acknack payload whole] } payload hcreated
    have hrest : (Session.emit shiftBeyond (.acknack payload whole) session).effects =
          session.effects ++ [.acknack payload whole] ∧
        (Session.emit shiftBeyond (.acknack payload whole) session).info = session.info := by
      rw [hemit, readSubmessageAcknack]
      dsimp only
      split <;> exact ⟨rfl, rfl⟩
    rw [untouched_emit_iff hrest.1, hemit]
    constructor
    · rintro ⟨-, hstreams, hsent, -⟩
      exact .inr (hidle.mp ⟨hstreams, hsent⟩)
    · rintro (hnone | hacknack)
      · exact absurd hcreated (UInt8.not_lt.mpr hnone)
      · obtain ⟨hstreams, hsent⟩ := hidle.mpr hacknack
        exact ⟨hrest.2, hstreams, hsent, rfl⟩
  · replace hemit := hemit.trans (readSubmessageAcknack_unknown hcreated)
    rw [untouched_emit_iff (by rw [hemit]), hemit]
    exact ⟨fun _ => .inl (UInt8.not_lt.mp hcreated), fun _ => ⟨rfl, rfl, rfl, rfl⟩⟩

end

/-! ## Cut submessages -/

/-- Reading a datagram, or a message in a slot. -/
inductive ReadsMessage [MicroCdr] (shiftBeyond : Nat → UInt16) : ReadEnv Session → Prop
  | datagram (memory : Memory) : ReadsMessage shiftBeyond (datagramEnv shiftBeyond memory)
  | slot (index : UInt8) : ReadsMessage shiftBeyond (slotsEnv shiftBeyond index)

section

variable [MicroCdr] {shiftBeyond : Nat → UInt16} {env : ReadEnv Session}

theorem ReadsMessage.blocks (h : ReadsMessage shiftBeyond env) : env.Blocks := by
  cases h with
  | datagram memory => exact datagramEnv_blocks shiftBeyond memory
  | slot index => exact slotsEnv_blocks shiftBeyond index

theorem ReadsMessage.emit_eq (h : ReadsMessage shiftBeyond env) :
    env.emit = Session.emit shiftBeyond := by
  cases h <;> rfl

omit [MicroCdr] in
/-- The fields of every fixed part are packed behind a header. -/
theorem FixedPayload.packed (kind : FixedPayload) {offset : Nat} (haligned : offset % 4 = 0) :
    Packed offset 2 kind.fields ∧ CalmBehind kind.fields := by
  cases kind with
  | timestampReply =>
    simp [fields, timestampReplyFields, Packed, FieldType.PackedAt, CalmBehind, Calm,
      FieldType.CalmAfter, FieldType.last, haligned]
  | _ =>
    simp [fields, statusAgentFields, baseObjectReplyFields, baseObjectRequestFields,
      heartbeatFields, acknackFields, Packed, FieldType.PackedAt, CalmBehind, Calm,
      FieldType.CalmAfter, FieldType.last]

variable [StickyMicroCdr] {nanos : Int} {app : Application} {config : ReadConfig}
  {streamId : StreamId} {session : Session} {c : Cursor} {b : Block} {kind : FixedPayload}
  {flags low high : UInt8} {payload : List UInt8}

omit [StickyMicroCdr] in
/-- A call for a topic is seen by the application. -/
theorem not_untouched_onTopic (hemit : env.emit = Session.emit shiftBeyond) {s₁ s₂ : Session}
    {objectId : ObjectId} {requestId : UInt16} {status : UInt8} {length : UInt16}
    {read : List UInt8} (hs₁ : s₁ = env.emit (.status objectId requestId status) session)
    (hs₂ : s₂ = env.emit (.onTopic objectId requestId streamId length read) s₁) :
    ¬ Untouched nanos app session s₂ := by
  rintro ⟨-, -, -, effects, heffects, happ⟩
  have hrecord : s₂.effects = session.effects ++ [.status objectId requestId status,
      .onTopic objectId requestId streamId length read] := by
    rw [hs₂, hs₁, hemit]
    exact List.append_assoc _ _ _
  rw [hrecord] at heffects
  rw [← List.append_cancel_left heffects] at happ
  have hlength := congrArg (fun app => app.calls.length) happ
  have hle := app.processStatus_calls_le objectId requestId status
  simp only [List.foldl_cons, List.foldl_nil, Application.take, Application.call,
    List.length_append, List.length_singleton] at hlength
  omega

/-- The handlers of a DATA of which part of the base is missing. -/
theorem untouched_data_iff (henv : ReadsMessage shiftBeyond env)
    (h : Holds env.dev session c.ub b) (hempty : b.bytes = []) (length : UInt16)
    (base : BaseObjectRequest) (format : UInt8) :
    Untouched nanos app session (((do
        call (.emit (.status (objectIdFromRaw base.objectId) (uint16FromRaw base.requestId)
          statusOk))
        readSubmessageFormat config length format streamId (objectIdFromRaw base.objectId)
          (uint16FromRaw base.requestId) : Program ReadOp PUnit).run env.handle
            (session, c)).2.1) ↔
      app.onStatus = false ∧
        StatusKnown app.statusList (uint16FromRaw base.requestId) statusOk ∧
        ¬ (format = formatData ∧
          (objectIdFromRaw base.objectId).type = dataReaderId ∧ config.onTopic.isSome) := by
  generalize objectIdFromRaw base.objectId = objectId
  generalize uint16FromRaw base.requestId = requestId
  obtain ⟨s₁, hs₁⟩ : ∃ s₁, s₁ = env.emit (.status objectId requestId statusOk) session := ⟨_, rfl⟩
  have hemit : env.handle (.emit (.status objectId requestId statusOk)) (session, c) =
      (⟨⟩, s₁, c) := by
    rw [ReadEnv.handle, hs₁]
  have hholds : Holds env.dev s₁ c.ub b := hs₁ ▸ h.emit henv.blocks _
  have huntouched : Untouched nanos app session s₁ ↔
      app.onStatus = false ∧ StatusKnown app.statusList requestId statusOk := by
    rw [hs₁, henv.emit_eq]
    exact untouched_status_iff objectId requestId statusOk
  rw [run_bind, run_call, hemit, readSubmessageFormat]
  by_cases hformat : format = formatData
  · obtain ⟨s', ub', hrun, hcalled, -⟩ := readFormatData_plain config length streamId objectId
      requestId henv.blocks hholds
    rw [if_pos hformat]
    dsimp only
    rw [hrun]
    rw [dataCall_empty config length streamId objectId requestId (by rw [Block.rebase, hempty]; rfl)]
      at hcalled
    by_cases htopic : objectId.type = dataReaderId
    · rw [if_pos htopic] at hcalled
      cases hinstalled : config.onTopic with
      | none =>
        rw [hinstalled] at hcalled
        rw [show s' = s₁ from hcalled]
        exact huntouched.trans ⟨fun h => ⟨h.1, h.2, fun hboth => Bool.false_ne_true hboth.2.2⟩, fun h => ⟨h.1, h.2.1⟩⟩
      | some onTopic =>
        rw [hinstalled] at hcalled
        obtain ⟨c', -, hs'⟩ := hcalled
        exact ⟨fun h => absurd h (not_untouched_onTopic henv.emit_eq hs₁ hs'),
          fun h => absurd ⟨hformat, htopic, rfl⟩ h.2.2⟩
    · rw [if_neg htopic] at hcalled
      rw [show s' = s₁ from hcalled]
      exact huntouched.trans ⟨fun h => ⟨h.1, h.2, fun hboth => htopic hboth.2.1⟩,
        fun h => ⟨h.1, h.2.1⟩⟩
  · rw [if_neg hformat]
    exact huntouched.trans ⟨fun h => ⟨h.1, h.2, fun hboth => hformat hboth.1⟩,
      fun h => ⟨h.1, h.2.1⟩⟩

/-- Reading a payload of which bytes are missing, and acting on what there is. -/
theorem cut_payload {α : Type}
    {program : Program BufferOp α} {f : List (Option Field) → α}
    (hprogram : program = f <$> deserializeFields kind.fields)
    (h : Holds env.dev session c.ub (b.payload flags payload))
    (haligned : (b.offset + b.padding 4) % 4 = 0) (hcut : payload.length < fieldsSize kind.fields) :
    ∃ ub' b', (readBuffer program).run env.handle (session, c) =
        (f (decodeFields (flagsEndianness flags) kind.fields payload), session,
          { c with ub := ub' }) ∧
      Holds env.dev session ub' b' ∧ b'.bytes = [] := by
  have hoffset : (b.offset + b.padding 4 + 4) % 4 = 0 := by omega
  obtain ⟨hpacked, hcalm⟩ := kind.packed hoffset
  obtain ⟨ub', b', hrun, hholds, -, hempty⟩ := payload_block hprogram h rfl hpacked hcalm
  exact ⟨ub', b', hrun, hholds, (hempty hcut).2⟩

/-- A submessage that is cut short is inert exactly if what is seen of it is without
consequence. -/
theorem truncated_submessage_inert_iff (henv : ReadsMessage shiftBeyond env)
    (previous : SubmessageHeader) (h : Holds env.dev session c.ub b)
    (hstarts : b.Starts kind.id.value flags low high payload)
    (hcut : payload.length < fieldsSize kind.fields) :
    Untouched nanos app session (((do
        let (_, header) ← readSubmessageHeader previous
        readSubmessage config streamId header : Program ReadOp PUnit).run env.handle
          (session, c)).2.1) ↔
      Unnoticed nanos app config session streamId (otherFlags flags)
        (decodeFields (flagsEndianness flags) kind.fields payload) kind := by
  obtain ⟨ub₁, hheader, hholds⟩ := readSubmessageHeader_block h hstarts previous
  rw [run_bind, hheader]
  dsimp only
  cases kind with
  | statusAgent =>
    obtain ⟨ub', b', hrun, -⟩ := cut_payload (c := { c with ub := ub₁ })
      (deserializeStatusAgentPayload_eq config.uninitialized.statusAgent) hholds hstarts.aligned
      hcut
    rw [readSubmessage_statusAgent config streamId rfl]
    by_cases hnone : streamId.type = .noneStream
    · rw [if_pos hnone, run_bind, hrun, run_call, ReadEnv.handle, henv.emit_eq]
      exact (@untouched_createSessionStatus_iff _ shiftBeyond _ _ _ _).trans
        ⟨fun h _ => h, fun h => h hnone⟩
    · rw [if_neg hnone]
      exact ⟨fun _ h => absurd h hnone, fun _ => untouched_refl session⟩
  | status =>
    obtain ⟨ub', b', hrun, -⟩ := cut_payload (c := { c with ub := ub₁ })
      (deserializeBaseObjectReply_eq config.uninitialized.status) hholds hstarts.aligned hcut
    rw [readSubmessage_status config streamId rfl, Unnoticed]
    by_cases hnone : streamId.type = .noneStream
    · rw [if_pos hnone, if_pos hnone, run_bind, hrun, run_call, ReadEnv.handle, henv.emit_eq]
      exact @untouched_deleteSessionStatus_iff _ shiftBeyond _ _ _ _ _ _
    · rw [if_neg hnone, if_neg hnone, readSubmessageStatus, run_bind, hrun, run_call,
        ReadEnv.handle, henv.emit_eq]
      exact @untouched_status_iff _ shiftBeyond _ _ _ _ _ _
  | data =>
    obtain ⟨ub', b', hrun, hbehind, hempty⟩ := cut_payload (c := { c with ub := ub₁ })
      (deserializeBaseObjectRequest_eq config.uninitialized.base) hholds hstarts.aligned hcut
    rw [readSubmessage_data config streamId rfl, readSubmessageData, run_bind, hrun]
    exact untouched_data_iff (c := { c with ub := ub' }) henv hbehind hempty _ _ _
  | heartbeat =>
    obtain ⟨ub', b', hrun, -⟩ := cut_payload (c := { c with ub := ub₁ })
      (deserializeHeartbeatPayload_eq config.uninitialized.heartbeat) hholds hstarts.aligned hcut
    rw [readSubmessage_heartbeat config streamId rfl, run_bind, hrun, run_call, ReadEnv.handle,
      henv.emit_eq]
    exact untouched_heartbeat_iff _
  | acknack =>
    obtain ⟨ub', b', hrun, -⟩ := cut_payload (c := { c with ub := ub₁ })
      (deserializeAcknackPayload_eq config.uninitialized.acknack) hholds hstarts.aligned hcut
    rw [readSubmessage_acknack config streamId rfl, run_bind, hrun, run_call, ReadEnv.handle,
      henv.emit_eq]
    exact @untouched_acknack_iff _ shiftBeyond _ _ _ _ _
  | timestampReply =>
    obtain ⟨ub', b', hrun, -⟩ := cut_payload (c := { c with ub := ub₁ })
      (deserializeTimestampReplyPayload_eq config.uninitialized.timestampReply) hholds
      hstarts.aligned hcut
    rw [readSubmessage_timestampReply config streamId rfl, run_bind, hrun, run_call,
      ReadEnv.handle, henv.emit_eq]
    exact @untouched_timestampReply_iff _ shiftBeyond _ _ _ _

end

/-! ## A status that is cut short -/

/-- An application without callbacks that waits for nothing. -/
def noApplication : Application where
  onStatus := false
  onTime := false
  statusList := []
  timeOffset := 0
  synchronized := false
  onDataFlag := false
  onPongFlag := noPongStatus
  calls := []

/-- A HEARTBEAT with two of its five bytes. -/
def cutHeartbeat : Datagram := .ofBytes [11, 1, 5, 0, 1, 0]

/-- A cut HEARTBEAT is inert in a session without input streams. -/
theorem truncated_submessage_inert_iff_heartbeat :
    Untouched 0 noApplication noStreams
      (((do
        let (_, header) ← readSubmessageHeader { id := 0, length := 0, flags := 0 }
        readSubmessage noCallbacks (streamIdFromRaw 0 .inputStream) header :
          Program ReadOp PUnit).run
        (@ReadEnv.handle referenceMicroCdr _ (@datagramEnv referenceMicroCdr (fun _ => 0)
          cutHeartbeat.memory))
        (noStreams, { ub := @ucdrInitBuffer referenceMicroCdr 0 6, outer := none })).2.1) := by
  refine (@truncated_submessage_inert_iff referenceMicroCdr (fun _ => 0) _
    referenceMicroCdr_sticky 0 noApplication noCallbacks (streamIdFromRaw 0 .inputStream) noStreams
    { ub := @ucdrInitBuffer referenceMicroCdr 0 6, outer := none } _ .heartbeat 1 5 0 [1, 0]
    (@ReadsMessage.datagram referenceMicroCdr _ cutHeartbeat.memory) _
    (@holds_init referenceMicroCdr referenceMicroCdr_sticky _ _ _
      (@datagramEnv_blocks referenceMicroCdr _ _) 0 6) ?_ (by decide)).mpr ?_
  · exact ⟨rfl, rfl, rfl⟩
  · exact UInt8.zero_le

/-- A STATUS_AGENT with one of its eleven bytes, for the session 0x81. -/
def cutLoginAnswer : Datagram := .ofBytes [0x81, 0, 0, 0, 4, 1, 11, 0, 0]

/-- A STATUS_AGENT of which one byte is there leaves the session with its status. -/
theorem cut_statusAgent_acted_on :
    ∃ session', @readMessage referenceMicroCdr (fun _ => 0) noCallbacks 4 noStreams
        cutLoginAnswer = some session' ∧
      ¬ Untouched 0 noApplication noStreams session' := by
  obtain ⟨session', hread⟩ : ∃ session', @readMessage referenceMicroCdr (fun _ => 0) noCallbacks 4
      noStreams cutLoginAnswer = some session' := Option.isSome_iff_exists.mp (by decide +kernel)
  have hstatus : ∀ session' ∈ @readMessage referenceMicroCdr (fun _ => 0) noCallbacks 4 noStreams
      cutLoginAnswer, session'.info.lastRequestedStatus = 0 := by
    decide +kernel
  refine ⟨session', hread, fun huntouched => ?_⟩
  have hsame := congrArg SessionInfo.lastRequestedStatus huntouched.info
  rw [hstatus session' hread] at hsame
  exact absurd hsame (by decide)

end XrceClient
