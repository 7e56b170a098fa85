import XrceClient.Session.KeptByReading
import XrceClient.Session.KeptMessages

/-!
# The login of a session

`uxr_create_session_retries` empties the streams, sends the login until the agent answers, and
empties the streams again once the answer is positive. Whatever arrives in between, a late ACKNACK
for a message that is long gone as well, does no harm then.

- `loginStatus`: the answer of the agent among the effects; the one to a logout is none.
- `Renewed`: every stream is as it was when it was created, in the buffer that it has.
- `Session.Configured`: what the windows ask of the buffers.
- `login_renews`: the call returns true exactly if the last answer was positive, and the streams are
  renewed then, so that their windows are intact.
-/

namespace XrceClient

open ByteMemory OutputReliableStream

/-! ## Streams that are reset -/

/-- A loop over the created streams resets these. -/
theorem resetStreams_apply {α : Type} (reset : α → α) (size : UInt8) (streams : UInt8 → α)
    (i : UInt8) :
    resetStreams reset size streams i = if i < size then reset (streams i) else streams i := by
  have hprefix : ∀ k, k ≤ size.toNat → ∀ i : UInt8,
      (List.range k).foldl (fun streams i => Function.update streams (UInt8.ofNat i)
        (reset (streams (UInt8.ofNat i)))) streams i =
        if i.toNat < k then reset (streams i) else streams i := by
    intro k hk
    induction k with
    | zero =>
      intro i
      rfl
    | succ k ih =>
      intro i
      have hlt := size.toNat_lt
      have hnumber : (UInt8.ofNat k).toNat = k := by
        rw [UInt8.toNat_ofNat']
        omega
      rw [List.range_succ, List.foldl_append, List.foldl_cons, List.foldl_nil]
      by_cases hi : i = UInt8.ofNat k
      · rw [hi, Function.update_self, ih (by omega), hnumber, if_neg (Nat.lt_irrefl k),
          if_pos (Nat.lt_succ_self k)]
      · have hne : i.toNat ≠ k := by
          intro heq
          exact hi (UInt8.toNat_inj.mp (heq.trans hnumber.symm))
        rw [Function.update_of_ne hi, ih (by omega)]
        by_cases hbefore : i.toNat < k
        · rw [if_pos hbefore, if_pos (by omega)]
        · rw [if_neg hbefore, if_neg (by omega)]
  rw [resetStreams, hprefix _ (Nat.le_refl _) i]
  exact if_congr UInt8.lt_iff_toNat_lt.symm rfl rfl

/-- Emptying slots leaves the ring where it is. -/
theorem foldl_setReliableBufferSize_shape (base : ReliableStream) (v k : Nat) :
    let base' := (List.range k).foldl
      (fun base i => setReliableBufferSize base (UInt16.ofNat i) v) base
    base'.size = base.size ∧ base'.history = base.history := by
  refine Loop.foldl_range_induction (fun (_ : Nat) (base' : ReliableStream) =>
    base'.size = base.size ∧ base'.history = base.history) ⟨rfl, rfl⟩ ?_
  intro j base' _ h
  exact h

theorem sameShape_resetOutput (stream : OutputReliableStream) :
    SameShape stream (resetOutputReliableStream stream) := by
  obtain ⟨hsize, hhistory⟩ := foldl_setReliableBufferSize_shape stream.base stream.offset.toNat
    stream.base.history.toNat
  exact ⟨hsize, hhistory, rfl⟩

theorem sameSlots_resetInput (stream : InputReliableStream) :
    SameSlots stream (resetInputReliableStream stream) := by
  obtain ⟨hsize, hhistory⟩ := foldl_setReliableBufferSize_shape stream.base 0
    stream.base.history.toNat
  exact ⟨hsize, hhistory, rfl⟩

/-- A stream that is reset is one that was just created in its buffer. -/
theorem resetOutputReliableStream_eq_init (stream : OutputReliableStream) :
    resetOutputReliableStream stream = initOutputReliableStream stream.base.buffer
      stream.base.size stream.base.history stream.offset := rfl

theorem resetInputReliableStream_eq_init (stream : InputReliableStream) :
    resetInputReliableStream stream =
      { initInputReliableStream stream.base.buffer stream.base.size stream.base.history
          stream.onGetFragmentationInfo with cleanupFlag := stream.cleanupFlag } := rfl

/-- Every stream that was created is as it was then, in the buffer that it has. -/
structure Renewed (streams streams' : StreamStorage) : Prop where
  outputBestEffort : ∀ i, i < streams.outputBestEffortSize → ∃ buffer,
    streams'.outputBestEffort i = initOutputBestEffortStream buffer
      (streams.outputBestEffort i).size (streams.outputBestEffort i).offset
  outputReliable : ∀ i, i < streams.outputReliableSize → ∃ buffer,
    streams'.outputReliable i = initOutputReliableStream buffer
      (streams.outputReliable i).base.size (streams.outputReliable i).base.history
      (streams.outputReliable i).offset
  inputBestEffort : ∀ i, i < streams.inputBestEffortSize →
    streams'.inputBestEffort i = initInputBestEffortStream
  inputReliable : ∀ i, i < streams.inputReliableSize → ∃ buffer cleanupFlag,
    streams'.inputReliable i =
      { initInputReliableStream buffer (streams.inputReliable i).base.size
          (streams.inputReliable i).base.history
          (streams.inputReliable i).onGetFragmentationInfo with cleanupFlag }
  sizes : streams'.outputBestEffortSize = streams.outputBestEffortSize ∧
    streams'.outputReliableSize = streams.outputReliableSize ∧
    streams'.inputBestEffortSize = streams.inputBestEffortSize ∧
    streams'.inputReliableSize = streams.inputReliableSize

/-- The session that waits for the answer to its login. -/
def Session.loggingIn (session : Session) : Session :=
  { session with
    streams := resetStreamStorage session.streams
    info := { session.info with
      lastRequestId := requestLogin
      lastRequestedStatus := statusNone } }

/-- A session that waits for the answer has its streams where they were. -/
theorem SameStreams.shapes {session session' : Session}
    (h : SameStreams session.loggingIn session') :
    (∀ i, SameShape (session.streams.outputReliable i) (session'.streams.outputReliable i)) ∧
      ∀ i, SameSlots (session.streams.inputReliable i) (session'.streams.inputReliable i) := by
  constructor
  · intro i
    refine SameShape.trans ?_ (h.outputReliable i)
    show SameShape _ (resetStreams resetOutputReliableStream _ session.streams.outputReliable i)
    rw [resetStreams_apply]
    split
    · exact sameShape_resetOutput _
    · exact SameShape.refl _
  · intro i
    refine SameSlots.trans ?_ (h.inputReliable i)
    show SameSlots _ (resetStreams resetInputReliableStream _ session.streams.inputReliable i)
    rw [resetStreams_apply]
    split
    · exact sameSlots_resetInput _
    · exact SameSlots.refl _

/-- Whatever was read while the session waited, a second reset renews its streams. -/
theorem renewed_of_sameStreams {session session' : Session}
    (h : SameStreams session.loggingIn session') :
    Renewed session.streams (resetStreamStorage session'.streams) := by
  obtain ⟨houtput, hinput⟩ := h.shapes
  have houtputReliableSize : session'.streams.outputReliableSize =
      session.streams.outputReliableSize := h.outputReliableSize
  have houtputBestEffortSize : session'.streams.outputBestEffortSize =
      session.streams.outputBestEffortSize := h.outputBestEffortSize
  have hinputReliableSize : session'.streams.inputReliableSize =
      session.streams.inputReliableSize := h.inputReliableSize
  have hinputBestEffortSize : session'.streams.inputBestEffortSize =
      session.streams.inputBestEffortSize := h.inputBestEffortSize
  constructor
  · intro i hi
    refine ⟨(session.streams.outputBestEffort i).buffer, ?_⟩
    show resetStreams resetOutputBestEffortStream _ session'.streams.outputBestEffort i = _
    rw [resetStreams_apply, houtputBestEffortSize, if_pos hi, h.outputBestEffort]
    -- nothing was written since the first reset
    show resetOutputBestEffortStream
      (resetStreams resetOutputBestEffortStream _ session.streams.outputBestEffort i) = _
    rw [resetStreams_apply, if_pos hi]
    rfl
  · intro i hi
    refine ⟨(session'.streams.outputReliable i).base.buffer, ?_⟩
    show resetStreams resetOutputReliableStream _ session'.streams.outputReliable i = _
    rw [resetStreams_apply, houtputReliableSize, if_pos hi, resetOutputReliableStream_eq_init,
      (houtput i).size, (houtput i).history, (houtput i).offset]
  · intro i hi
    show resetStreams resetInputBestEffortStream _ session'.streams.inputBestEffort i = _
    rw [resetStreams_apply, hinputBestEffortSize, if_pos hi]
    rfl
  · intro i hi
    refine ⟨(session'.streams.inputReliable i).base.buffer,
      (session'.streams.inputReliable i).cleanupFlag, ?_⟩
    show resetStreams resetInputReliableStream _ session'.streams.inputReliable i = _
    rw [resetStreams_apply, hinputReliableSize, if_pos hi, resetInputReliableStream_eq_init,
      (hinput i).size, (hinput i).history, (hinput i).onGetFragmentationInfo]
  · exact ⟨houtputBestEffortSize, houtputReliableSize, hinputBestEffortSize, hinputReliableSize⟩

/-! ## Windows -/

/-- What the windows ask of the buffers of the reliable output streams. -/
structure Session.Configured (session : Session) : Prop where
  key : session.info.key.length = clientKeySize
  offset : ∀ i, i < session.streams.outputReliableSize →
    (session.streams.outputReliable i).offset.toNat = sessionHeaderOffset session.info
  wellFormed : ∀ i, i < session.streams.outputReliableSize →
    (session.streams.outputReliable i).WellFormed

theorem Session.Windows.configured {session : Session} (h : session.Windows) :
    session.Configured where
  key := h.key
  offset := h.offset
  wellFormed i hi := by
    obtain ⟨H, win, hrep⟩ := h.represents i hi
    exact hrep.wellFormed

/-- Streams that are renewed have windows. -/
theorem Session.Configured.windows {session session' : Session} (h : session.Configured)
    (hid : session'.info.id = session.info.id) (hkey : session'.info.key = session.info.key)
    (hrenewed : Renewed session.streams session'.streams) : session'.Windows := by
  obtain ⟨-, hsize, -, -⟩ := hrenewed.sizes
  refine ⟨hkey ▸ h.key, fun i hi => ?_, fun i hi => ?_⟩
  · obtain ⟨buffer, hstream⟩ := hrenewed.outputReliable i (hsize ▸ hi)
    rw [hstream, sessionHeaderOffset_congr hid]
    exact h.offset i (hsize ▸ hi)
  · obtain ⟨buffer, hstream⟩ := hrenewed.outputReliable i (hsize ▸ hi)
    have hwf := h.wellFormed i (hsize ▸ hi)
    -- the stream in the buffer of now is as well formed as before
    obtain ⟨stream, hstreamEq⟩ : ∃ stream : OutputReliableStream, stream =
        { session.streams.outputReliable i with
          base := { (session.streams.outputReliable i).base with buffer } } := ⟨_, rfl⟩
    have hshape : SameShape (session.streams.outputReliable i) stream := by
      rw [hstreamEq]
      exact ⟨rfl, rfl, rfl⟩
    have hreset : session'.streams.outputReliable i = resetOutputReliableStream stream := by
      rw [hstream, hstreamEq]
      rfl
    refine ⟨_, _, hreset ▸ (tracks_reset (hshape.formed hwf.formed)).represents ?_⟩
    rw [hshape.history]
    exact hwf.history_le

/-- A session that waits for the answer is configured as it was. -/
theorem Session.Configured.waiting {session session' : Session} (h : session.Configured)
    (hsame : SameStreams session.loggingIn session') : session'.Configured := by
  obtain ⟨houtput, -⟩ := hsame.shapes
  have hsize : session'.streams.outputReliableSize = session.streams.outputReliableSize :=
    hsame.outputReliableSize
  have hkey : session'.info.key = session.info.key := hsame.key
  refine ⟨hkey ▸ h.key, fun i hi => ?_, fun i hi => ?_⟩
  · rw [(houtput i).offset, h.offset i (hsize ▸ hi)]
    exact (sessionHeaderOffset_congr hsame.id).symm
  · have hwf := h.wellFormed i (hsize ▸ hi)
    have hformed := (houtput i).formed hwf.formed
    exact ⟨hformed.base, (houtput i).history ▸ hwf.history_le, hformed.offset_aligned,
      hformed.offset_lt, hformed.capacity_lt⟩

/-! ## The call -/

/-- The status that an effect writes to a session whose last request is the login. -/
def loginStatus : Effect → Option UInt8
  | .createSessionStatus status => some status
  | _ => none

/-- What one effect does to the info of a session that logs in. -/
theorem take_info_login (control : ControlState) (effect : Effect)
    (hlogin : control.info.lastRequestId = requestLogin) :
    (control.take effect).info = { control.info with
      lastRequestedStatus := (loginStatus effect).getD control.info.lastRequestedStatus } := by
  cases effect with
  | acknack payload whole =>
    rw [ControlState.take, ControlState.takeAcknack]
    split <;> rfl
  | deleteSessionStatus requestId status whole =>
    rw [ControlState.take, if_neg]
    · rfl
    · rw [hlogin]
      intro hlogout
      exact absurd hlogout.1 (by decide)
  | _ => rfl

/-- The last answer is the status that is left. -/
theorem foldl_take_info_login (effects : List Effect) (control : ControlState)
    (hlogin : control.info.lastRequestId = requestLogin) :
    (effects.foldl ControlState.take control).info = { control.info with
      lastRequestedStatus :=
        (effects.filterMap loginStatus).getLast?.getD control.info.lastRequestedStatus } := by
  induction effects generalizing control with
  | nil => rfl
  | cons effect effects ih =>
    have hstep := take_info_login control effect hlogin
    rw [List.foldl_cons, ih _ (by rw [hstep]; exact hlogin), hstep, List.filterMap_cons]
    cases hwritten : loginStatus effect with
    | none => rfl
    | some status =>
      dsimp only
      rw [List.getLast?_cons, Option.getD_some, Option.getD_some]

section

variable [MicroCdr] {ω : Type} {world : World ω} {shiftBeyond : Nat → UInt16} {config : ReadConfig}
  {fuel : Nat} {waiting waiting' : WaitingSession ω} {P : Session → Prop}

/-- A property that messages of the session's own and messages that are read keep, the wait for a
status keeps. -/
theorem attemptStatusIn_keeps {message : List UInt8} {attempts : Nat}
    (hsend : ∀ session, P session → P (session.sendMessage message))
    (hread : ∀ {fuel : Nat} {session session' : Session} {msg : Datagram},
      readMessage shiftBeyond config fuel session msg = some session' → P session → P session')
    (h : attemptStatusIn world shiftBeyond config fuel message attempts waiting =
      (some (), waiting')) (hP : P waiting.session) : P waiting'.session := by
  have hlisten {fuel : Nat} {waiting waiting' : WaitingSession ω} {pollMs : Int} {received : Bool}
      (h : listenMessageIn world shiftBeyond config fuel waiting pollMs =
        (some received, waiting')) (hP : P waiting.session) : P waiting'.session := by
    rw [listenMessageIn] at h
    dsimp only at h
    split at h
    · split at h
      · next hmessage =>
        cases h
        exact hread hmessage hP
      · cases h
    · cases h
      exact hP
  have hturns {fuel : Nat} {waiting waiting' : WaitingSession ω}
      {startTimestamp remainingTime : Int}
      (h : listenForStatusIn world shiftBeyond config startTimestamp fuel waiting remainingTime =
        (some (), waiting')) (hP : P waiting.session) : P waiting'.session := by
    -- by induction on the messages that are listened for
    induction fuel generalizing waiting remainingTime with
    | zero => cases h
    | succ fuel ih =>
      rw [listenForStatusIn] at h
      obtain ⟨received, waiting₁, hone, h⟩ := andThen_eq_some h
      have hlistened : P waiting₁.session := hlisten hone hP
      dsimp only at h
      split at h
      · exact ih h hlistened
      · cases h
        exact hlistened
  induction attempts generalizing waiting with
  | zero =>
    cases h
    exact hP
  | succ attempts ih =>
    rw [attemptStatusIn] at h
    split at h
    · obtain ⟨_, waiting₁, hattempt, h⟩ := andThen_eq_some h
      exact ih h (hturns hattempt (hsend _ hP))
    · cases h
      exact hP

/-- What the wait for a status keeps, with or without attempts. -/
theorem waitSessionStatusIn_keeps {message : List UInt8} {attempts : Nat} {received : Bool}
    (hsend : ∀ session, P session → P (session.sendMessage message))
    (hread : ∀ {fuel : Nat} {session session' : Session} {msg : Datagram},
      readMessage shiftBeyond config fuel session msg = some session' → P session → P session')
    (h : waitSessionStatusIn world shiftBeyond config fuel waiting message attempts =
      (some received, waiting'))
    (hP : P { waiting.session with info.lastRequestedStatus := statusNone }) :
    P waiting'.session := by
  rw [waitSessionStatusIn] at h
  dsimp only at h
  split at h
  · cases h
    exact hsend _ hP
  · obtain ⟨_, waiting₁, hattempt, h⟩ := andThen_eq_some h
    cases h
    exact attemptStatusIn_keeps hsend hread hattempt hP

/-- A status that is positive was waited for. -/
theorem waitSessionStatusIn_positive {message : List UInt8} {attempts : Nat} {received : Bool}
    (h : waitSessionStatusIn world shiftBeyond config fuel waiting message attempts =
      (some received, waiting')) :
    (received && decide (statusOk = waiting'.session.info.lastRequestedStatus)) = true ↔
      waiting'.session.info.lastRequestedStatus = statusOk := by
  rw [Bool.and_eq_true, decide_eq_true_iff]
  constructor
  · intro hpositive
    exact hpositive.2.symm
  · intro hpositive
    refine ⟨?_, hpositive.symm⟩
    rw [waitSessionStatusIn] at h
    dsimp only at h
    split at h
    · cases h
      rfl
    · obtain ⟨_, waiting₁, -, h⟩ := andThen_eq_some h
      cases h
      rw [hpositive]
      decide

variable [LawfulMicroCdr] {profile : BuildProfile} {mtu : UInt16} {retries : Nat} {created : Bool}

/-- The call waits in a session with empty streams, and empties them again if the answer is
positive. -/
theorem createSessionRetriesIn_waits
    (h : createSessionRetriesIn world shiftBeyond config profile mtu fuel waiting retries =
      (some created, waiting')) :
    ∃ waiting₁ effects,
      Passes world shiftBeyond config { waiting with session := waiting.session.loggingIn }
        waiting₁ ∧
      SameStreams waiting.session.loggingIn waiting₁.session ∧
      Takes waiting.session.loggingIn waiting₁.session effects ∧
      (created = true ↔ waiting₁.session.info.lastRequestedStatus = statusOk) ∧
      waiting' = if created then
        { waiting₁ with session.streams := resetStreamStorage waiting₁.session.streams }
      else waiting₁ := by
  rw [createSessionRetriesIn] at h
  obtain ⟨received, waiting₁, hwait, h⟩ := andThen_eq_some h
  have hpositive := waitSessionStatusIn_positive hwait
  -- the status is taken back before the wait in any case
  have hwait' : waitSessionStatusIn world shiftBeyond config fuel
      { waiting with session := waiting.session.loggingIn } _ retries = (some received, waiting₁) :=
    hwait
  have hsame := waitSessionStatusIn_keeps (P := SameStreams waiting.session.loggingIn)
    (fun session hsame => hsame.trans (.of_streams rfl rfl rfl))
    (fun hmessage hsame => (sameStreams_kept _).readMessage hmessage hsame) hwait'
    (SameStreams.refl _)
  have htakes : ∃ effects, Takes waiting.session.loggingIn waiting₁.session effects := by
    refine waitSessionStatusIn_keeps
      (P := fun session => ∃ effects, Takes waiting.session.loggingIn session effects) ?_ ?_ hwait'
      ⟨[], Takes.refl _⟩
    · rintro session ⟨effects, htakes⟩
      exact ⟨_, htakes.trans (Takes.nil rfl rfl)⟩
    · rintro _ _ _ _ hmessage ⟨effects, htakes⟩
      obtain ⟨effects', htakes'⟩ := readMessage_takes hmessage
      exact ⟨_, htakes.trans htakes'⟩
  obtain ⟨effects, htakes⟩ := htakes
  refine ⟨waiting₁, effects, passes_waitSessionStatusIn hwait', hsame, htakes, ?_⟩
  rw [← hpositive]
  dsimp only at h
  split at h
  · next haccepted =>
    obtain ⟨hcreated, rfl⟩ := Prod.mk.inj h
    rw [← Option.some.inj hcreated, if_pos haccepted]
    exact ⟨Iff.rfl, rfl⟩
  · next haccepted =>
    obtain ⟨hcreated, rfl⟩ := Prod.mk.inj h
    rw [← Option.some.inj hcreated, if_neg haccepted]
    exact ⟨Iff.rfl, rfl⟩

/-- **A login renews the session**: the call reads what `recv_msg` delivers in it, and returns true
exactly if the last answer to the login among the effects is positive. Every stream is as it was
when it was created then, in the buffer that it has, whatever it held before and whatever arrived
in between. A session that is configured stays so, whatever the answer, and has its windows behind
a positive one. -/
theorem login_renews
    (hcall : createSessionRetriesIn world shiftBeyond config profile mtu fuel waiting retries =
      (some created, waiting')) :
    ∃ reads waits effects session, waiting'.waits = waiting.waits ++ waits ∧
      reads.map MessageRead.message = deliveredIn world waits ∧
      SessionRun shiftBeyond config waiting.session.loggingIn reads session ∧
      session.effects = waiting.session.effects ++ effects ∧
      waiting'.session.effects = session.effects ∧
      (created = true ↔ (effects.filterMap loginStatus).getLast? = some statusOk) ∧
      (created = true → Renewed waiting.session.streams waiting'.session.streams) ∧
      (waiting.session.Configured → waiting'.session.Configured ∧
        (created = true → waiting'.session.Windows)) := by
  obtain ⟨waiting₁, effects, ⟨reads, waits, hwaits, hreads, hrun⟩, hsame, htakes, hcreated,
    hstate⟩ := createSessionRetriesIn_waits hcall
  have hstatus : created = true ↔ (effects.filterMap loginStatus).getLast? = some statusOk := by
    have hinfo := foldl_take_info_login effects waiting.session.loggingIn.control rfl
    rw [← htakes.control] at hinfo
    have hleft : waiting₁.session.info.lastRequestedStatus =
        (effects.filterMap loginStatus).getLast?.getD statusNone :=
      congrArg SessionInfo.lastRequestedStatus hinfo
    rw [hcreated, hleft]
    -- the status is positive only if some answer left it
    cases (effects.filterMap loginStatus).getLast? with
    | none => exact ⟨fun h => absurd h (by decide), fun h => absurd h (by simp)⟩
    | some status => rw [Option.getD_some, Option.some.injEq]
  have hrecord : waiting₁.session.effects = waiting.session.effects ++ effects := htakes.record
  have hconfigured (h : waiting.session.Configured) : waiting₁.session.Configured :=
    h.waiting hsame
  refine ⟨reads, waits, effects, waiting₁.session, ?_⟩
  cases created with
  | false =>
    rw [if_neg Bool.false_ne_true] at hstate
    rw [hstate]
    refine ⟨hwaits, hreads, hrun, hrecord, rfl, hstatus, Bool.noConfusion, fun h => ?_⟩
    exact ⟨hconfigured h, Bool.noConfusion⟩
  | true =>
    rw [if_pos rfl] at hstate
    have hrenewed : Renewed waiting.session.streams waiting'.session.streams := by
      rw [hstate]
      exact renewed_of_sameStreams hsame
    have hwindows (h : waiting.session.Configured) : waiting'.session.Windows := by
      refine h.windows ?_ ?_ hrenewed <;> rw [hstate]
      · exact hsame.id
      · exact hsame.key
    refine ⟨?_, hreads, hrun, hrecord, ?_, hstatus, fun _ => hrenewed, fun h => ?_⟩
    · rw [hstate]
      exact hwaits
    · rw [hstate]
    · exact ⟨(hwindows h).configured, fun _ => hwindows h⟩

end

/-- A positive STATUS_AGENT, for the session 0x01. -/
def acceptedLogin : Datagram :=
  .ofBytes [0x01, 0, 0, 0, 0, 0, 0, 0, 4, 1, 11, 0, 0, 0, 0x58, 0x52, 0x43, 0x45, 1, 0, 1, 0x0F, 0]

/-- A login while a message is in its stream. A late ACKNACK for it arrives before the answer. -/
theorem login_renews_lateAcknack : ∃ waiting' : WaitingSession (Nat × Nat),
    @createSessionRetriesIn referenceMicroCdr _
        ((arriving [firstAcknack, acceptedLogin]).world fun _ => 0) (fun _ => 0) noCallbacks
        { sharedMemory := false, hardLivelinessCheck := none } 512 8 oneWaiting 1 =
      (some true, waiting') ∧
    Renewed oneBuffered.streams waiting'.session.streams ∧ waiting'.session.Windows := by
  let _ : MicroCdr := referenceMicroCdr
  have _ : LawfulMicroCdr := referenceMicroCdr_lawful
  obtain ⟨waiting', hcall⟩ : ∃ waiting', createSessionRetriesIn
      ((arriving [firstAcknack, acceptedLogin]).world fun _ => 0) (fun _ => 0) noCallbacks
        { sharedMemory := false, hardLivelinessCheck := none } 512 8 oneWaiting 1 =
      (some true, waiting') := by
    have hresult {α β : Type} {result : α × β} {a : α} (h : result.1 = a) :
        ∃ b, result = (a, b) := ⟨result.2, Prod.ext h rfl⟩
    exact hresult (by decide +kernel)
  obtain ⟨_, _, _, _, -, -, -, -, -, -, hrenewed, hconfigured⟩ := login_renews hcall
  exact ⟨waiting', hcall, hrenewed rfl,
    (hconfigured windows_oneBuffered.configured).2 rfl⟩

end XrceClient
