import XrceClient.Session.Running
import XrceClient.Session.UnknownStreams

/-!
# The deletion of a session

`uxr_delete_session_retries` waits until some answer has written `last_requested_status`. The
answers to the login and to the logout share that field.

- `writtenStatus`: the status that an effect writes while the logout is pending.
- `LogoutConfirmed`: the agent said that the session is deleted.
- `MistakenLast`: the last answer was a positive one to a login, or a STATUS that is cut short.
- `session_deletion_confirmed_iff`: such an answer is taken for that to the logout.
-/

namespace XrceClient

/-- The status that an effect writes to a session whose last request is the logout. -/
def writtenStatus : Effect → Option UInt8
  | .createSessionStatus status => some status
  | .deleteSessionStatus requestId status _ =>
    if requestId = requestLogout then some status else none
  | _ => none

/-- A STATUS with value `UXR_STATUS_OK` for the logout was received: it was there as a whole. -/
def LogoutConfirmed (effects : List Effect) : Prop :=
  .deleteSessionStatus requestLogout statusOk true ∈ effects

/-- What counts as a positive answer to the logout and is none: a STATUS_AGENT, or a STATUS that is
cut short. A status that is not in the message is what the local variable held. -/
def MistakenAnswer : Effect → Prop
  | .createSessionStatus status => status = statusOk
  | .deleteSessionStatus requestId status whole =>
    requestId = requestLogout ∧ status = statusOk ∧ whole = false
  | _ => False

/-- The last answer about the session was such a one. -/
def MistakenLast (effects : List Effect) : Prop :=
  ∃ earlier effect later, effects = earlier ++ effect :: later ∧ MistakenAnswer effect ∧
    ∀ effect ∈ later, writtenStatus effect = none

/-! ## The status after some effects -/

/-- What one effect does to the info of a session that is about to be deleted. -/
theorem take_info (control : ControlState) (effect : Effect)
    (hlogout : control.info.lastRequestId = requestLogout) :
    (control.take effect).info = { control.info with
      lastRequestedStatus := (writtenStatus effect).getD control.info.lastRequestedStatus } := by
  cases effect with
  | acknack payload whole =>
    rw [ControlState.take, ControlState.takeAcknack]
    split <;> rfl
  | deleteSessionStatus requestId status whole =>
    rw [ControlState.take, writtenStatus]
    by_cases hrequest : requestId = requestLogout
    · rw [if_pos ⟨hlogout, hrequest⟩, if_pos hrequest]
      rfl
    · rw [if_neg fun h => hrequest h.2, if_neg hrequest]
      rfl
  | _ => rfl

/-- The last status that was written is the one that is left. -/
theorem foldl_take_info (effects : List Effect) (control : ControlState)
    (hlogout : control.info.lastRequestId = requestLogout) :
    (effects.foldl ControlState.take control).info = { control.info with
      lastRequestedStatus :=
        (effects.filterMap writtenStatus).getLast?.getD control.info.lastRequestedStatus } := by
  induction effects generalizing control with
  | nil => rfl
  | cons effect effects ih =>
    have hstep := take_info control effect hlogout
    rw [List.foldl_cons, ih _ (by rw [hstep]; exact hlogout), hstep, List.filterMap_cons]
    cases hwritten : writtenStatus effect with
    | none => rfl
    | some status =>
      dsimp only
      rw [List.getLast?_cons, Option.getD_some, Option.getD_some]

/-- The status that is left is positive exactly if the last answer was. -/
theorem getLast_writtenStatus_iff (effects : List Effect) :
    (effects.filterMap writtenStatus).getLast? = some statusOk ↔
      MistakenLast effects ∨ ∃ earlier later,
        effects = earlier ++ .deleteSessionStatus requestLogout statusOk true :: later ∧
          ∀ effect ∈ later, writtenStatus effect = none := by
  constructor
  · intro hlast
    obtain ⟨statuses, hstatuses⟩ := List.getLast?_eq_some_iff.mp hlast
    obtain ⟨earlier, rest, heffects, -, hrest⟩ := List.filterMap_eq_append_iff.mp hstatuses
    obtain ⟨none_written, effect, later, hsplit, hnone, hwritten, hlater⟩ :=
      List.filterMap_eq_cons_iff.mp hrest
    have hlater' : ∀ effect ∈ later, writtenStatus effect = none :=
      List.filterMap_eq_nil_iff.mp hlater
    rw [heffects, hsplit, ← List.append_assoc]
    cases effect with
    | createSessionStatus status =>
      cases hwritten
      exact .inl ⟨_, _, later, rfl, rfl, hlater'⟩
    | deleteSessionStatus requestId status whole =>
      rw [writtenStatus] at hwritten
      split at hwritten
      · next hrequest =>
        cases hwritten
        cases hrequest
        cases whole with
        | false => exact .inl ⟨_, _, later, rfl, ⟨rfl, rfl, rfl⟩, hlater'⟩
        | true => exact .inr ⟨_, later, rfl, hlater'⟩
      · cases hwritten
    | _ => cases hwritten
  · have hlast (earlier later : List Effect) (effect : Effect)
        (hwritten : writtenStatus effect = some statusOk)
        (hlater : ∀ effect ∈ later, writtenStatus effect = none) :
        ((earlier ++ effect :: later).filterMap writtenStatus).getLast? = some statusOk := by
      rw [List.filterMap_append, List.filterMap_cons_some hwritten,
        List.filterMap_eq_nil_iff.mpr hlater, List.getLast?_concat]
    rintro (⟨earlier, effect, later, rfl, hmistaken, hlater⟩ | ⟨earlier, later, rfl, hlater⟩)
    · refine hlast earlier later effect ?_ hlater
      cases effect with
      | createSessionStatus status => exact congrArg some hmistaken
      | deleteSessionStatus requestId status whole =>
        rw [writtenStatus, if_pos hmistaken.1, hmistaken.2.1]
      | _ => exact hmistaken.elim
    · exact hlast earlier later _ rfl hlater

/-! ## The calls that wait -/

section

variable [MicroCdr] [LawfulMicroCdr] {platform : Platform} {shiftBeyond : Nat → UInt16}
  {config : ReadConfig} {fuel : Nat} {run run' : Run}

theorem takes_listenMessage {pollMs : Int} {received : Bool}
    (h : listenMessage platform shiftBeyond config fuel run pollMs = some (received, run')) :
    ∃ effects, Takes run.session run'.session effects := by
  rw [listenMessage] at h
  dsimp only at h
  split at h
  · obtain ⟨session, hread, heq⟩ := Option.map_eq_some_iff.mp h
    cases heq
    exact readMessage_takes hread
  · cases h
    exact ⟨[], Takes.refl _⟩

theorem takes_listenForStatus {startTimestamp remainingTime : Int}
    (h : listenForStatus platform shiftBeyond config startTimestamp fuel run remainingTime =
      some run') : ∃ effects, Takes run.session run'.session effects := by
  induction fuel generalizing run remainingTime with
  | zero => cases h
  | succ fuel ih =>
    rw [listenForStatus] at h
    obtain ⟨⟨received, run₁⟩, hlisten, h⟩ := Option.bind_eq_some_iff.mp h
    obtain ⟨effects₁, h₁⟩ := takes_listenMessage hlisten
    dsimp only at h
    split at h
    · obtain ⟨effects₂, h₂⟩ := ih h
      exact ⟨_, h₁.trans h₂⟩
    · cases h
      exact ⟨_, h₁⟩

theorem takes_attemptStatus {message : List UInt8} {attempts : Nat}
    (h : attemptStatus platform shiftBeyond config fuel message attempts run = some run') :
    ∃ effects, Takes run.session run'.session effects := by
  induction attempts generalizing run with
  | zero =>
    cases h
    exact ⟨[], Takes.refl _⟩
  | succ attempts ih =>
    rw [attemptStatus] at h
    split at h
    · obtain ⟨run₁, hlisten, h⟩ := Option.bind_eq_some_iff.mp h
      obtain ⟨effects₁, h₁⟩ := takes_listenForStatus hlisten
      obtain ⟨effects₂, h₂⟩ := ih h
      exact ⟨_, (h₁.trans h₂).before rfl rfl⟩
    · cases h
      exact ⟨[], Takes.refl _⟩

/-- The session that waits for the answer to its logout. -/
def Session.loggingOut (session : Session) : Session :=
  { session with
    info := { session.info with
      lastRequestId := requestLogout
      lastRequestedStatus := statusNone } }

/-- The answer of the call is the status that the effects left. -/
theorem deleteSessionRetries_takes {retries : Nat} {confirmed : Bool}
    (h : deleteSessionRetries platform shiftBeyond config fuel run retries =
      some (confirmed, run')) :
    (∃ effects, Takes run.session.loggingOut run'.session effects) ∧
      (confirmed = true ↔ run'.session.info.lastRequestedStatus = statusOk) := by
  rw [deleteSessionRetries] at h
  obtain ⟨⟨received, run₁⟩, hwait, h⟩ := Option.bind_eq_some_iff.mp h
  cases h
  rw [waitSessionStatus] at hwait
  dsimp only at hwait
  rw [Bool.and_eq_true, decide_eq_true_iff]
  split at hwait
  · cases hwait
    have hnone : ¬ statusNone = statusOk := by decide
    exact ⟨⟨[], Takes.nil rfl rfl⟩, fun h => h.2.symm, fun h => absurd h hnone⟩
  · obtain ⟨run₂, hattempt, heq⟩ := Option.bind_eq_some_iff.mp hwait
    cases heq
    refine ⟨takes_attemptStatus hattempt, fun h => h.2.symm, fun h => ⟨?_, h.symm⟩⟩
    rw [h]
    decide

/-- The deletion of a session is confirmed by the agent exactly if the last answer was no late
positive answer to a login and no STATUS that is cut short, or the agent confirmed the logout as
well. -/
theorem session_deletion_confirmed_iff {retries : Nat} {confirmed : Bool}
    (h : deleteSessionRetries platform shiftBeyond config fuel run retries =
      some (confirmed, run')) :
    ∃ effects, run'.session.effects = run.session.effects ++ effects ∧
      ((confirmed = true → LogoutConfirmed effects) ↔
        (MistakenLast effects → LogoutConfirmed effects)) := by
  obtain ⟨⟨effects, htakes⟩, hconfirmed⟩ := deleteSessionRetries_takes h
  refine ⟨effects, htakes.record, ?_⟩
  have hinfo := foldl_take_info effects run.session.loggingOut.control rfl
  rw [← htakes.control] at hinfo
  have hstatus : run'.session.info.lastRequestedStatus =
      (effects.filterMap writtenStatus).getLast?.getD statusNone :=
    congrArg SessionInfo.lastRequestedStatus hinfo
  -- the status of the last answer is positive, as no answer leaves none
  have hlast : confirmed = true ↔ (effects.filterMap writtenStatus).getLast? = some statusOk := by
    rw [hconfirmed, hstatus]
    cases (effects.filterMap writtenStatus).getLast? with
    | none => exact ⟨fun h => absurd h (by decide), nofun⟩
    | some status => rw [Option.getD_some, Option.some.injEq]
  rw [hlast, getLast_writtenStatus_iff]
  constructor
  · intro hall hmistaken
    exact hall (.inl hmistaken)
  · rintro hall (hmistaken | ⟨earlier, later, rfl, -⟩)
    · exact hall hmistaken
    · exact List.mem_append_right _ List.mem_cons_self

end

/-! ## A late answer to the login -/

/-- A transport on which the given messages arrive, one to every call. -/
def arriving (messages : List Datagram) : Platform where
  sendMsg _ := true
  recvMsg n _ := messages[n]?
  millis n := n
  minSessionConnectionInterval := 1000
  minHeartbeatTimeInterval := 100

/-- The run of a session before its first call. -/
def Session.start (session : Session) : Run := { session, listened := 0, looked := 0, attempts := [] }

/-- A message with the given bytes. -/
def Datagram.ofBytes (bytes : List UInt8) : Datagram where
  memory i := bytes.getD i 0
  buffer := 0
  length := bytes.length

/-- A positive STATUS_AGENT, for the session 0x81. -/
def loginAnswer : Datagram :=
  .ofBytes [0x81, 0, 0, 0, 4, 1, 11, 0, 0, 0, 0x58, 0x52, 0x43, 0x45, 1, 0, 1, 0x0F, 0]

/-- A positive STATUS for the logout of the session 0x81. -/
def logoutAnswer : Datagram := .ofBytes [0x81, 0, 0, 0, 5, 1, 6, 0, 0, 2, 0xFF, 0xFE, 0, 0]

/-- A STATUS for the logout of the session 0x81, without its status. -/
def cutAnswer : Datagram := .ofBytes [0x81, 0, 0, 0, 5, 1, 6, 0, 0, 2, 0xFF, 0xFE]

/-- The deletion of a session without streams, on which a message arrives. -/
def deletionWith (msg : Datagram) : Option (Bool × Run) :=
  @deleteSessionRetries referenceMicroCdr (arriving [msg]) (fun _ => 0) noCallbacks 4
    noStreams.start 1

/-- A positive answer to the logout confirms the deletion. -/
theorem session_deletion_confirmed_iff_logoutAnswer : ∃ run',
    deletionWith logoutAnswer = some (true, run') ∧
      LogoutConfirmed run'.session.effects := by
  have hdeleted : ∀ r ∈ deletionWith logoutAnswer,
      r.1 = true ∧ r.2.session.effects = [.deleteSessionStatus requestLogout statusOk true] := by
    decide +kernel
  obtain ⟨⟨confirmed, run'⟩, hcall⟩ : ∃ r, deletionWith logoutAnswer = some r :=
    Option.isSome_iff_exists.mp (by decide +kernel)
  obtain ⟨hconfirmed, hrecord⟩ := hdeleted _ hcall
  dsimp only at hconfirmed hrecord
  subst hconfirmed
  obtain ⟨effects, heffects, hiff⟩ := @session_deletion_confirmed_iff referenceMicroCdr
    referenceMicroCdr_lawful _ _ _ _ _ _ _ _ hcall
  have hsame : run'.session.effects = effects := heffects
  refine ⟨run', hcall, ?_⟩
  rw [hsame] at hrecord ⊢
  refine hiff.mpr ?_ rfl
  intro _
  rw [hrecord]
  exact List.mem_singleton_self _

/-- A late positive answer to the login confirms the deletion as well. -/
theorem late_login_answer_confirms_deletion : ∃ run',
    deletionWith loginAnswer = some (true, run') ∧
      ¬ LogoutConfirmed run'.session.effects := by
  have hdeleted : ∀ r ∈ deletionWith loginAnswer,
      r.1 = true ∧ r.2.session.effects = [.createSessionStatus statusOk] := by
    decide +kernel
  obtain ⟨⟨confirmed, run'⟩, hcall⟩ : ∃ r, deletionWith loginAnswer = some r :=
    Option.isSome_iff_exists.mp (by decide +kernel)
  obtain ⟨hconfirmed, hrecord⟩ := hdeleted _ hcall
  dsimp only at hconfirmed hrecord
  subst hconfirmed
  refine ⟨run', hcall, ?_⟩
  rw [hrecord]
  intro hlogout
  cases List.mem_singleton.mp hlogout

/-- So does a STATUS that is cut short, where the local variable holds a zero. -/
example : (deletionWith cutAnswer).map (fun r => (r.1, r.2.session.effects)) =
    some (true, [.deleteSessionStatus requestLogout statusOk false]) := by decide +kernel

end XrceClient
