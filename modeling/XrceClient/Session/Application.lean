import XrceClient.Session.Session

/-!
# What an application sees of a session (`session.c`)

Besides its identification and its streams a session has what it tells the application: the
callbacks, the statuses that `uxr_run_session_until_all_status` waits for, and the offset of the
clocks.

- `Application`: that part of a session, with a record of the calls of the user's callbacks.
- `processStatus`, `processTimestampReply`: what STATUS, DATA and TIMESTAMP_REPLY do to it.
- `Application.take`: what the effect of a submessage does to it.
-/

namespace XrceClient

/-- A call of a callback of the user. -/
inductive UserCall where
  | onStatus (objectId : ObjectId) (requestId : UInt16) (status : UInt8)
  | onTopic (objectId : ObjectId) (requestId : UInt16) (streamId : StreamId) (length : UInt16)
  | onRequest (objectId : ObjectId) (requestId : UInt16) (sampleId : SampleIdentity)
      (length : UInt16)
  | onReply (objectId : ObjectId) (requestId : UInt16) (replyId : UInt16) (length : UInt16)
  | onTime (current receive transmit originate : Int)
  deriving DecidableEq, Repr

/-- The fields of `uxrSession` (session.h) that are for the application. The callbacks for data
are in `ReadConfig`. -/
structure Application where
  /-- Whether `on_status` is installed. -/
  onStatus : Bool
  /-- Whether `on_time` is installed. -/
  onTime : Bool
  /-- `request_list` and `status_list`, entry by entry. -/
  statusList : List (UInt16 × UInt8)
  timeOffset : Int
  synchronized : Bool
  onDataFlag : Bool
  onPongFlag : UInt8
  /-- The calls so far, no part of the source's state. -/
  calls : List UserCall
  deriving DecidableEq, Repr

/-- The loop of `process_status` (session.c:1165–1172): the first entry for the request. -/
def setStatus (requestId : UInt16) (status : UInt8) :
    List (UInt16 × UInt8) → List (UInt16 × UInt8)
  | [] => []
  | (request, old) :: entries =>
    if requestId = request then (request, status) :: entries
    else (request, old) :: setStatus requestId status entries

/-- `uxr_convert_to_nanos` (time_internal.h:26–31). The seconds are an `int32_t`. -/
def convertToNanos (time : Time) : Int :=
  Int.bmod time.seconds (2 ^ 32) * 1000000000 + time.nanoseconds

namespace Application

/-- The record of a call. -/
def call (app : Application) (userCall : UserCall) : Application :=
  { app with calls := app.calls ++ [userCall] }

/-- `process_status` (session.c:1154–1174). -/
def processStatus (app : Application) (objectId : ObjectId) (requestId : UInt16)
    (status : UInt8) : Application :=
  let app := if app.onStatus then app.call (.onStatus objectId requestId status) else app
  { app with statusList := setStatus requestId status app.statusList }

/-- The offset that a timestamp gives (session.c:1191–1198). -/
def offsetOf (nanos : Int) (timestamp : TimestampReplyPayload) : Int :=
  let t0 := convertToNanos timestamp.originateTimestamp
  let t1 := convertToNanos timestamp.receiveTimestamp
  let t2 := convertToNanos timestamp.transmitTimestamp
  ((t0 + nanos) - (t1 + t2)).tdiv 2

/-- `process_timestamp_reply` (session.c:1175–1201), at a time in nanoseconds. -/
def processTimestampReply (nanos : Int) (app : Application) (timestamp : TimestampReplyPayload) :
    Application :=
  let app :=
    if app.onTime then
      app.call (.onTime nanos (convertToNanos timestamp.receiveTimestamp)
        (convertToNanos timestamp.transmitTimestamp)
        (convertToNanos timestamp.originateTimestamp))
    else { app with timeOffset := offsetOf nanos timestamp }
  { app with synchronized := true }

/-- The effect of a submessage, at a time in nanoseconds. -/
def take (nanos : Int) (app : Application) : Effect → Application
  | .status objectId requestId status => app.processStatus objectId requestId status
  | .onTopic objectId requestId streamId length _ =>
    { app.call (.onTopic objectId requestId streamId length) with onDataFlag := true }
  | .onRequest objectId requestId sampleId length _ =>
    { app.call (.onRequest objectId requestId sampleId length) with onDataFlag := true }
  | .onReply objectId requestId replyId length _ =>
    { app.call (.onReply objectId requestId replyId length) with onDataFlag := true }
  | .timestampReply timestamp => processTimestampReply nanos app timestamp
  | .pong status => { app with onPongFlag := status }
  | _ => app

end Application

/-! ## Effects without consequence -/

/-- The list already says so. -/
def StatusKnown (statusList : List (UInt16 × UInt8)) (requestId : UInt16) (status : UInt8) :
    Prop :=
  ∀ entry, statusList.find? (fun entry => requestId = entry.1) = some entry → entry.2 = status

theorem setStatus_eq_self_iff (requestId : UInt16) (status : UInt8)
    (statusList : List (UInt16 × UInt8)) :
    setStatus requestId status statusList = statusList ↔
      StatusKnown statusList requestId status := by
  induction statusList with
  | nil => exact ⟨nofun, fun _ => rfl⟩
  | cons entry entries ih =>
    obtain ⟨request, old⟩ := entry
    rw [setStatus, StatusKnown, List.find?_cons]
    by_cases hrequest : requestId = request
    · rw [if_pos hrequest, decide_eq_true hrequest]
      constructor
      · intro hsame entry hentry
        cases hentry
        exact (congrArg Prod.snd (List.head_eq_of_cons_eq hsame)).symm
      · intro hknown
        rw [← hknown _ rfl]
    · rw [if_neg hrequest, decide_eq_false hrequest]
      constructor
      · intro hsame
        exact ih.mp (List.tail_eq_of_cons_eq hsame)
      · intro hknown
        rw [ih.mpr hknown]

theorem Application.call_calls_ne (app : Application) (userCall : UserCall) :
    (app.call userCall).calls ≠ app.calls := by
  intro hsame
  exact List.cons_ne_nil _ _ (List.append_cancel_left (hsame.trans (List.append_nil _).symm))

/-- A call is not taken back by a status. -/
theorem Application.processStatus_calls_le (app : Application) (objectId : ObjectId)
    (requestId : UInt16) (status : UInt8) :
    app.calls.length ≤ (app.processStatus objectId requestId status).calls.length := by
  rw [processStatus]
  split
  · rw [call, List.length_append]
    exact Nat.le_add_right _ _
  · exact Nat.le_refl _

/-- A status is without consequence if no callback is installed and the list already says so. -/
theorem Application.processStatus_eq_self_iff (app : Application) (objectId : ObjectId)
    (requestId : UInt16) (status : UInt8) :
    app.processStatus objectId requestId status = app ↔
      app.onStatus = false ∧ StatusKnown app.statusList requestId status := by
  rw [processStatus, ← setStatus_eq_self_iff]
  cases hinstalled : app.onStatus
  · constructor
    · intro hsame
      exact ⟨rfl, congrArg Application.statusList hsame⟩
    · rintro ⟨-, hsame⟩
      rw [if_neg Bool.false_ne_true, hsame]
  · constructor
    · intro hsame
      exact absurd (congrArg Application.calls hsame) (app.call_calls_ne _)
    · rintro ⟨hnone, -⟩
      cases hnone

/-- So is a timestamp if no callback is installed, and the clocks are synchronized with the same
offset. -/
theorem Application.processTimestampReply_eq_self_iff (nanos : Int) (app : Application)
    (timestamp : TimestampReplyPayload) :
    processTimestampReply nanos app timestamp = app ↔
      app.onTime = false ∧ app.synchronized = true ∧ app.timeOffset = offsetOf nanos timestamp := by
  rw [processTimestampReply]
  generalize offsetOf nanos timestamp = offset
  cases hinstalled : app.onTime
  · rw [if_neg Bool.false_ne_true]
    constructor
    · intro hsame
      rw [← hsame]
      exact ⟨rfl, rfl, rfl⟩
    · rintro ⟨-, hsynchronized, hoffset⟩
      rw [← hoffset, ← hsynchronized, ← hinstalled]
  · rw [if_pos rfl]
    constructor
    · intro hsame
      exact absurd (congrArg Application.calls hsame) (app.call_calls_ne _)
    · rintro ⟨hnone, -⟩
      cases hnone

end XrceClient
