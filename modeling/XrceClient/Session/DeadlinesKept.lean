import XrceClient.Session.ListeningEnds
import XrceClient.Session.UnknownStreams

/-!
# The deadlines of the five calls (`session.c`)

`uxr_run_session_until_one_status` listens for the whole timeout in every turn of its loop, and
`uxr_run_session_until_confirm_delivery` has no end at the deadline itself.

- `PromptTurns`: every turn of the first begins while no time has passed.
- `TurnConfirmed`: a turn of the second begins with the streams confirmed.
- `deadlines_kept`: the five calls.
-/

namespace XrceClient

variable {ω : Type}

section

variable [MicroCdr] (world : World ω) (shiftBeyond : Nat → UInt16) (config : ReadConfig)

/-- Every turn of the loop of `uxr_run_session_until_one_status` begins while the whole timeout
remains. -/
def PromptTurns (answered : WaitingSession ω → Bool) (timeoutMs startTimestamp : Int) :
    Nat → WaitingSession ω → Int → Prop
  | 0, _, _ => True
  | fuel + 1, waiting, remainingTime =>
    remainingTime = timeoutMs ∧
    ∀ received waiting',
      finished (listenMessageReliablyIn world shiftBeyond config fuel waiting timeoutMs) =
        some (received, waiting') →
      timeoutMs - toInt ((waiting'.look world).1 - startTimestamp) > 0 ∧
        ¬ answered (waiting'.look world).2 →
      PromptTurns answered timeoutMs startTimestamp fuel (waiting'.look world).2
        (timeoutMs - toInt ((waiting'.look world).1 - startTimestamp))

/-- That is so for the loop of the call. -/
def PromptCall (fuel : Nat) (waiting : WaitingSession ω) (timeoutMs : Int)
    (requestList : List UInt16) : Prop :=
  ∀ flushed, waiting.flash world fuel = some flushed →
    PromptTurns world shiftBeyond config
      (fun waiting => waiting.app.statusList.any fun entry => EntryConfirmed entry) timeoutMs
      (world.millis flushed.world).1 fuel
      { flushed with
        app.statusList := requestList.map fun requestId => (requestId, statusNone)
        world := (world.millis flushed.world).2 } timeoutMs

/-- A turn of the loop of `uxr_run_session_until_confirm_delivery` begins with the streams
confirmed. -/
def TurnConfirmed (timeoutMs startTimestamp : Int) : Nat → WaitingSession ω → Int → Prop
  | 0, _, _ => False
  | fuel + 1, waiting, remainingTime =>
    outputStreamsConfirmed waiting.session.streams = true ∨
    ∃ received waiting',
      finished (listenMessageReliablyIn world shiftBeyond config fuel waiting remainingTime) =
        some (received, waiting') ∧
      TurnConfirmed timeoutMs startTimestamp fuel (waiting'.look world).2
        (timeoutMs - toInt ((waiting'.look world).1 - startTimestamp))

/-- That is so for the loop of the call. -/
def ConfirmedCall (fuel : Nat) (waiting : WaitingSession ω) (timeoutMs : Int) : Prop :=
  ∃ flushed, (waiting.look world).2.flash world fuel = some flushed ∧
    TurnConfirmed world shiftBeyond config timeoutMs (waiting.look world).1 fuel flushed timeoutMs

end

section

variable [MicroCdr] {world : World ω} {now : ω → Int} {shiftBeyond : Nat → UInt16}
  {config : ReadConfig} {fuel : Nat} {waiting : WaitingSession ω} {timeoutMs : Int}

/-! ## Until one status -/

/-- Where the turns begin while the whole timeout remains, they listen for the remaining time. -/
theorem listenUntil_of_promptTurns {answered : WaitingSession ω → Bool}
    {startTimestamp remaining : Int}
    (h : PromptTurns world shiftBeyond config answered timeoutMs startTimestamp fuel waiting
      remaining) :
    listenUntil world shiftBeyond config (fun _ => timeoutMs) answered timeoutMs startTimestamp fuel
        waiting remaining =
      listenUntil world shiftBeyond config (fun remaining => remaining) answered timeoutMs
        startTimestamp fuel waiting remaining := by
  induction fuel generalizing waiting remaining with
  | zero => rfl
  | succ fuel ih =>
    obtain ⟨rfl, hnext⟩ := h
    rw [listenUntil, listenUntil]
    generalize listenMessageReliablyIn world shiftBeyond config fuel waiting remaining = result
      at hnext ⊢
    obtain ⟨_ | received, waiting'⟩ := result
    · rfl
    · unfold andThen
      dsimp only
      split
      · next hmore => exact ih (hnext received waiting' rfl hmore)
      · rfl

theorem runSessionUntilStatus_of_promptCall {requestList : List UInt16}
    (h : PromptCall world shiftBeyond config fuel waiting timeoutMs requestList) :
    runSessionUntilStatus world shiftBeyond config (fun timeoutMs _ => timeoutMs)
        (fun statusList => statusList.any fun entry => EntryConfirmed entry) fuel waiting timeoutMs
        requestList =
      runSessionUntilStatus world shiftBeyond config (fun _ remaining => remaining)
        (fun statusList => statusList.any fun entry => EntryConfirmed entry) fuel waiting timeoutMs
        requestList := by
  unfold runSessionUntilStatus WaitingSession.look
  cases hflash : waiting.flash world fuel with
  | none => rfl
  | some flushed =>
    dsimp only
    rw [listenUntil_of_promptTurns (h flushed hflash)]

/-! ## Until delivery is confirmed -/

variable (htimed : Timed world now) (ht : timeoutMs < 2 ^ 31)
include htimed ht

/-- Up to the deadline time remains, so that the loop ends with the streams confirmed only. -/
theorem listenUntilConfirmedIn_isSome_iff {start remaining : Int} (hremaining : 0 ≤ remaining)
    (hdeadline : now waiting.world + remaining = start + timeoutMs)
    (hstart : start ≤ now waiting.world) :
    (listenUntilConfirmedIn world shiftBeyond config timeoutMs start fuel waiting
        remaining).1.isSome ↔
      TurnConfirmed world shiftBeyond config timeoutMs start fuel waiting remaining := by
  induction fuel generalizing waiting remaining with
  | zero =>
    constructor
    · rintro ⟨⟩
    · rintro ⟨⟩
  | succ fuel ih =>
    rw [listenUntilConfirmedIn, TurnConfirmed]
    by_cases hconfirmed : outputStreamsConfirmed waiting.session.streams = true
    · rw [if_neg fun h => h.2 hconfirmed]
      exact ⟨fun _ => .inl hconfirmed, fun _ => rfl⟩
    · rw [if_pos ⟨hremaining, hconfirmed⟩]
      have hkeeps := @keepsTo_listenMessageReliablyIn ω _ world now htimed shiftBeyond config fuel
        waiting (start + timeoutMs) remaining hremaining (Int.le_of_eq hdeadline)
      generalize listenMessageReliablyIn world shiftBeyond config fuel waiting remaining = result
        at hkeeps ⊢
      obtain ⟨_ | received, waiting'⟩ := result
      · refine ⟨by rintro ⟨⟩, ?_⟩
        rintro (h | ⟨_, _, h, _⟩)
        · exact absurd h hconfirmed
        · cases h
      · have hstart' : start ≤ now waiting'.world := Int.le_trans hstart hkeeps.forward
        have hnow : now (waiting'.look world).2.world = now waiting'.world := htimed.look _
        have hnotPassed : now waiting'.world ≤ start + timeoutMs := hkeeps.notPassed
        have hremaining' := remaining_eq htimed ht hstart' hnotPassed
        have hturn := @ih (waiting'.look world).2
          (timeoutMs - toInt ((waiting'.look world).1 - start)) (by omega) (by omega) (by omega)
        refine Iff.trans hturn ⟨fun h => .inr ⟨received, waiting', rfl, h⟩, ?_⟩
        rintro (h | ⟨received', waiting'', h, hnext⟩)
        · exact absurd h hconfirmed
        · cases h
          exact hnext

variable (h₀ : 0 ≤ timeoutMs)
include h₀

theorem runSessionUntilConfirmDeliveryIn_isSome_iff :
    (runSessionUntilConfirmDeliveryIn world shiftBeyond config fuel waiting timeoutMs).1.isSome ↔
      ConfirmedCall world shiftBeyond config fuel waiting timeoutMs := by
  have hlook : now (waiting.look world).2.world = now waiting.world := htimed.look _
  have hmillis : (waiting.look world).1 = now waiting.world := htimed.millis _
  unfold runSessionUntilConfirmDeliveryIn ConfirmedCall
  dsimp only
  cases hflash : (waiting.look world).2.flash world fuel with
  | none =>
    refine ⟨nofun, ?_⟩
    rintro ⟨flushed, h, -⟩
    cases h
  | some flushed =>
    obtain ⟨hworld, -, -⟩ := flash_world hflash
    rw [← hworld] at hlook
    have hloop := @listenUntilConfirmedIn_isSome_iff ω _ world now shiftBeyond config fuel flushed
      timeoutMs htimed ht (waiting.look world).1 timeoutMs h₀ (by omega) (by omega)
    dsimp only
    rw [Option.isSome_map, hloop]
    constructor
    · exact fun h => ⟨flushed, rfl, h⟩
    · rintro ⟨flushed', h, hturn⟩
      cases h
      exact hturn

end

/-! ## The deadlines -/

/-- No wait of a call goes beyond the deadline, nor does the call itself. -/
def Keeps {α : Type} (now : ω → Int) (deadline : Int) (waiting : WaitingSession ω)
    (call : Nat → Option α × WaitingSession ω) : Prop :=
  ∀ fuel, KeepsTo now deadline waiting (call fuel).2

/-- A call comes to its end. -/
def Returns {α : Type} (call : Nat → Option α × WaitingSession ω) : Prop :=
  ∃ fuel, (call fuel).1.isSome

section

variable [MicroCdr] {world : World ω} {now : ω → Int} {shiftBeyond : Nat → UInt16}
  {config : ReadConfig} {waiting : WaitingSession ω} {timeoutMs : Int}

theorem keeps_syncSession (htimed : Timed world now) (ht : timeoutMs < 2 ^ 31)
    (h₀ : 0 ≤ timeoutMs) :
    Keeps now (now waiting.world + timeoutMs) waiting
      (syncSession world shiftBeyond config · waiting timeoutMs) := by
  intro fuel
  have hsync := @keepsTo_runSessionUntilSync ω _ world now htimed shiftBeyond config fuel
    { waiting with
      session := waiting.session.sendMessage (timestampMessage waiting.session.info
        (timeOfNanos (world.nanos waiting.world))) } timeoutMs ht h₀
  exact ⟨hsync.waits, hsync.forward, hsync.notPassed⟩

/-- **The deadlines.** Whatever arrives when, `uxr_run_session_until_all_status`,
`uxr_sync_session`, `uxr_run_session_until_pong` and `uxr_run_session_until_confirm_delivery` ask
for no wait beyond their deadline, and `uxr_run_session_until_one_status` does not in a run whose
turns begin while the whole timeout remains. All of them return by then where listening comes to its
end, except for the last: it does exactly if a turn of its loop begins with the streams
confirmed. -/
theorem deadlines_kept (htimed : Timed world now) (h₀ : 0 ≤ timeoutMs) (ht : timeoutMs < 2 ^ 31)
    (requestList : List UInt16) :
    Keeps now (now waiting.world + timeoutMs) waiting
      (runSessionUntilAllStatus world shiftBeyond config · waiting timeoutMs requestList) ∧
    ((∀ fuel, PromptCall world shiftBeyond config fuel waiting timeoutMs requestList) →
      Keeps now (now waiting.world + timeoutMs) waiting
        (runSessionUntilOneStatus world shiftBeyond config · waiting timeoutMs requestList)) ∧
    Keeps now (now waiting.world + timeoutMs) waiting
      (syncSession world shiftBeyond config · waiting timeoutMs) ∧
    Keeps now (now waiting.world + timeoutMs) waiting
      (runSessionUntilPong world shiftBeyond config · waiting timeoutMs) ∧
    Keeps now (now waiting.world + timeoutMs) waiting
      (runSessionUntilConfirmDeliveryIn world shiftBeyond config · waiting timeoutMs) ∧
    (Returns (runSessionUntilConfirmDeliveryIn world shiftBeyond config · waiting timeoutMs) ↔
      ∃ fuel, ConfirmedCall world shiftBeyond config fuel waiting timeoutMs) ∧
    ∀ budget Sane, Progresses world now budget → Processes world shiftBeyond config Sane →
      Sane waiting.session → requestList.length < 2 ^ 32 →
      Returns (runSessionUntilAllStatus world shiftBeyond config · waiting timeoutMs requestList) ∧
      ((∀ fuel, PromptCall world shiftBeyond config fuel waiting timeoutMs requestList) →
        Returns
          (runSessionUntilOneStatus world shiftBeyond config · waiting timeoutMs requestList)) ∧
      Returns (syncSession world shiftBeyond config · waiting timeoutMs) ∧
      Returns (runSessionUntilPong world shiftBeyond config · waiting timeoutMs) := by
  refine ⟨?_, ?_, keeps_syncSession htimed ht h₀, ?_, ?_, ?_, ?_⟩
  · intro fuel
    dsimp only
    rw [runSessionUntilAllStatus]
    exact keepsTo_runSessionUntilStatus htimed ht h₀ _ _
  · intro hprompt fuel
    dsimp only
    rw [runSessionUntilOneStatus, runSessionUntilStatus_of_promptCall (hprompt fuel)]
    exact keepsTo_runSessionUntilStatus htimed ht h₀ _ _
  · intro fuel
    exact keepsTo_runSessionUntilPong htimed ht h₀
  · intro fuel
    exact keepsTo_runSessionUntilConfirmDeliveryIn htimed ht h₀
  · exact exists_congr fun fuel => runSessionUntilConfirmDeliveryIn_isSome_iff htimed ht h₀
  · intro budget Sane hprogress hprocesses hsane hlist
    refine ⟨?_, ?_, ?_, runSessionUntilPong_ends htimed hprogress hprocesses ht h₀ hsane⟩
    · obtain ⟨fuel, hends⟩ := @runSessionUntilStatus_ends ω _ world now budget shiftBeyond config
        Sane htimed hprogress hprocesses waiting timeoutMs ht h₀ hsane
        (fun statusList => statusList.all fun entry => EntryConfirmed entry) requestList hlist
      refine ⟨fuel, ?_⟩
      dsimp only
      rw [runSessionUntilAllStatus]
      dsimp only
      rwa [Option.isSome_map]
    · intro hprompt
      obtain ⟨fuel, hends⟩ := @runSessionUntilStatus_ends ω _ world now budget shiftBeyond config
        Sane htimed hprogress hprocesses waiting timeoutMs ht h₀ hsane
        (fun statusList => statusList.any fun entry => EntryConfirmed entry) requestList hlist
      refine ⟨fuel, ?_⟩
      dsimp only
      rw [runSessionUntilOneStatus, runSessionUntilStatus_of_promptCall (hprompt fuel)]
      dsimp only
      rwa [Option.isSome_map]
    · exact runSessionUntilSync_ends htimed hprogress hprocesses ht h₀ (hprocesses.sends _ _ hsane)

end

/-! ## A timetable -/

/-- The world in which a message of an unknown stream arrives at each of the given times, and
otherwise nothing does. A state is the times that are left, and the time that it is. -/
def timetable : World (List Int × Int) where
  platform := arriving []
  recvMsg state pollMs :=
    match state with
    | (arrival :: arrivals, now) =>
      if arrival ≤ now + pollMs then (some (messageFor 0x01), (arrivals, max now arrival))
      else (none, (arrival :: arrivals, now + max pollMs 0))
    | ([], now) => (none, ([], now + max pollMs 0))
  millis state := (state.2, state)
  nanos _ := 0

theorem timed_timetable : Timed timetable Prod.snd where
  millis _ := rfl
  look _ := rfl
  forward state pollMs := by
    obtain ⟨_ | ⟨arrival, arrivals⟩, now⟩ := state
    · show now ≤ now + max pollMs 0
      omega
    · show now ≤ (if _ then _ else _ : Option Datagram × List Int × Int).2.2
      split
      · show now ≤ max now arrival
        omega
      · show now ≤ now + max pollMs 0
        omega
  within state pollMs hpoll := by
    obtain ⟨_ | ⟨arrival, arrivals⟩, now⟩ := state
    · show now + max pollMs 0 ≤ now + pollMs
      omega
    · show (if _ then _ else _ : Option Datagram × List Int × Int).2.2 ≤ now + pollMs
      split
      · show max now arrival ≤ now + pollMs
        omega
      · show now + max pollMs 0 ≤ now + pollMs
        omega
  interval_nonneg := by decide
  interval_lt := by decide

/-- No more messages come than the timetable has. -/
theorem progresses_timetable : Progresses timetable Prod.snd fun state => state.1.length where
  look _ := Nat.le_refl _
  recv state pollMs := by
    obtain ⟨_ | ⟨arrival, arrivals⟩, now⟩ := state
    · exact Nat.le_refl _
    · show (if _ then _ else _ : Option Datagram × List Int × Int).2.1.length ≤ arrivals.length + 1
      split
      · exact Nat.le_succ _
      · exact Nat.le_refl _
  instant state pollMs hpoll hnow := by
    obtain ⟨_ | ⟨arrival, arrivals⟩, now⟩ := state
    · have hpassed : now + max pollMs 0 = now := hnow
      omega
    · change (if _ then _ else _ : Option Datagram × List Int × Int).2.2 = now at hnow
      show (if _ then _ else _ : Option Datagram × List Int × Int).2.1.length < arrivals.length + 1
      split
      · exact Nat.lt_succ_self _
      · next hlater =>
        rw [if_neg hlater] at hnow
        have hpassed : now + max pollMs 0 = now := hnow
        omega

/-- A session without streams reads each of them to its end. -/
theorem processes_timetable : @Processes _ referenceMicroCdr timetable (fun _ => 0) noCallbacks
    fun session => session.streams = noStreams.streams := by
  refine @Processes.mk _ referenceMicroCdr _ _ _ _ ?_ ?_ ?_ ?_
  · intro waiting hstreams
    obtain ⟨⟨info, streams, sent, effects, accesses⟩, app, world, waits⟩ := waiting
    cases hstreams
    exact ⟨0, _, rfl, rfl⟩
  · intro timestamp session hstreams
    obtain ⟨info, streams, sent, effects, accesses⟩ := session
    cases hstreams
    rfl
  · intro session message hstreams
    exact hstreams
  · intro state pollMs msg session hstreams hmsg
    have hfor : msg = messageFor 0x01 := by
      obtain ⟨_ | ⟨arrival, arrivals⟩, now⟩ := state
      · cases hmsg
      · change (if _ then _ else _ : Option Datagram × List Int × Int).1 = some msg at hmsg
        split at hmsg
        · cases hmsg
          rfl
        · cases hmsg
    subst hfor
    obtain ⟨ub, seqNum, hread⟩ := @readMessage_eq referenceMicroCdr (fun _ => 0) noCallbacks session
      referenceMicroCdr_lawful 0 (messageFor 0x01)
    refine ⟨0, session, ?_, hstreams⟩
    rw [hread]
    split
    · refine @readStream_unknown_bestEffort referenceMicroCdr _ _ _ _ (by decide) ?_ _ _ _ _
      rw [hstreams]
      decide
    · rfl

/-- A session without streams at the time 0, with one message that arrives at the time 9. -/
def lateMessage : WaitingSession (List Int × Int) :=
  { session := noStreams
    app :=
      { onStatus := false, onTime := false, statusList := [], timeOffset := 0, synchronized := false
        onDataFlag := false, onPongFlag := 0, calls := [] }
    world := ([9], 0)
    waits := [] }

/-- Its call of `uxr_run_session_until_all_status` for the request 5, which may take 10 ms. -/
def allStatusOf5 (fuel : Nat) :=
  @runSessionUntilAllStatus _ referenceMicroCdr timetable (fun _ => 0) noCallbacks fuel lateMessage
    10 [5]

/-- Its call of `uxr_run_session_until_one_status`. -/
def oneStatusOf5 (fuel : Nat) :=
  @runSessionUntilOneStatus _ referenceMicroCdr timetable (fun _ => 0) noCallbacks fuel lateMessage
    10 [5]

/-- Waiting for all statuses ends with the 10 ms. -/
theorem deadlines_kept_lateMessage :
    Keeps Prod.snd 10 lateMessage allStatusOf5 ∧ Returns allStatusOf5 := by
  obtain ⟨hkeeps, -, -, -, -, -, hends⟩ := @deadlines_kept _ referenceMicroCdr timetable Prod.snd
    (fun _ => 0) noCallbacks lateMessage 10 timed_timetable (by decide) (by decide) [5]
  exact ⟨hkeeps, (hends _ _ progresses_timetable processes_timetable rfl (by decide)).1⟩

/-- Waiting for one status asks at the time 9 for another 10 ms. -/
theorem oneStatus_beyond_deadline :
    (oneStatusOf5 4).2.waits = [(([9], 0), 10), (([], 9), 10)] ∧
      ¬ Keeps Prod.snd 10 lateMessage oneStatusOf5 := by
  have hwaits : (oneStatusOf5 4).2.waits = [(([9], 0), 10), (([], 9), 10)] := by decide +kernel
  refine ⟨hwaits, fun hkeeps => ?_⟩
  obtain ⟨asked, hasked, hwithin⟩ := (hkeeps 4).waits
  rw [hwaits] at hasked
  have hmem : (([], 9), 10) ∈ asked := by
    rw [← show lateMessage.waits ++ asked = asked from rfl, ← hasked]
    decide
  exact absurd (hwithin _ hmem).2 (by decide)

end XrceClient
