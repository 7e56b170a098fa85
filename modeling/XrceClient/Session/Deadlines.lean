import XrceClient.Session.Steadiness

/-!
# Deadlines (`session.c`)

Time passes in `recv_msg` only, and no more of it than `recv_msg` may wait.

- `Timed`: that is how the world measures the time; `KeepsTo`: no wait goes beyond a deadline, and
  no time behind it passes.
- `keepsTo_listenMessageReliablyForIn`: listening for a time that ends at the deadline keeps to it.
- `keepsTo_runSessionUntilStatus`, `keepsTo_runSessionUntilSync`, `keepsTo_runSessionUntilPong`,
  `keepsTo_runSessionUntilConfirmDeliveryIn`: the calls that listen for the remaining time.
-/

namespace XrceClient

variable {ω : Type}

/-- How the world measures the time: processing takes none, and `recv_msg` no more than it may
wait. The interval of the heartbeats is an `int` that is not negative. -/
structure Timed (world : World ω) (now : ω → Int) : Prop where
  millis : ∀ w, (world.millis w).1 = now w
  look : ∀ w, now (world.millis w).2 = now w
  forward : ∀ w pollMs, now w ≤ now (world.recvMsg w pollMs).2
  within : ∀ w pollMs, 0 ≤ pollMs → now (world.recvMsg w pollMs).2 ≤ now w + pollMs
  interval_nonneg : 0 ≤ world.platform.minHeartbeatTimeInterval
  interval_lt : world.platform.minHeartbeatTimeInterval < 2 ^ 31

/-- From one state to the other `recv_msg` was asked for no wait that goes beyond the deadline, and
the deadline has not passed. -/
structure KeepsTo (now : ω → Int) (deadline : Int) (waiting waiting' : WaitingSession ω) : Prop where
  waits : ∃ asked, waiting'.waits = waiting.waits ++ asked ∧
    ∀ wait ∈ asked, 0 ≤ wait.2 ∧ now wait.1 + wait.2 ≤ deadline
  forward : now waiting.world ≤ now waiting'.world
  notPassed : now waiting'.world ≤ deadline

namespace KeepsTo

variable {now : ω → Int} {deadline : Int} {waiting waiting' waiting'' : WaitingSession ω}

/-- Nothing is asked, and no time passes. -/
theorem of_eq (hwaits : waiting'.waits = waiting.waits)
    (hnow : now waiting'.world = now waiting.world) (hnotPassed : now waiting.world ≤ deadline) :
    KeepsTo now deadline waiting waiting' :=
  ⟨⟨[], by rw [hwaits, List.append_nil], nofun⟩, by rw [hnow], by rwa [hnow]⟩

theorem trans (h : KeepsTo now deadline waiting waiting')
    (h' : KeepsTo now deadline waiting' waiting'') :
    KeepsTo now deadline waiting waiting'' := by
  obtain ⟨asked, hasked, hwithin⟩ := h.waits
  obtain ⟨asked', hasked', hwithin'⟩ := h'.waits
  refine ⟨⟨asked ++ asked', by rw [hasked', hasked, List.append_assoc], ?_⟩,
    Int.le_trans h.forward h'.forward, h'.notPassed⟩
  intro wait hwait
  exact (List.mem_append.mp hwait).elim (hwithin wait) (hwithin' wait)

end KeepsTo

/-! ## The time until the next heartbeat -/

theorem toInt_eq {n : Int} (h₀ : 0 ≤ n) (h₁ : n < 2 ^ 31) : toInt n = n :=
  Int.bmod_eq_of_le (by omega) (by omega)

/-- The next heartbeat is due in an interval, or none is. -/
theorem heartbeatStreams_next (platform : Platform) [MicroCdr] (timestamp : Int)
    (session : Session) :
    (heartbeatStreams platform timestamp session).2 = int64Max ∨
      (heartbeatStreams platform timestamp session).2 =
        timestamp + platform.minHeartbeatTimeInterval := by
  refine Loop.foldl_range_induction (fun (_ : Nat) (state : Session × Int) =>
    state.2 = int64Max ∨ state.2 = timestamp + platform.minHeartbeatTimeInterval) (.inl rfl) ?_
  rintro k ⟨session', earliest⟩ - h
  have hupdate : (updateOutputStreamHeartbeatTimestamp platform
      (session'.streams.outputReliable (UInt8.ofNat k)) timestamp).2.nextHeartbeatTimestamp =
        int64Max ∨
      (updateOutputStreamHeartbeatTimestamp platform
      (session'.streams.outputReliable (UInt8.ofNat k)) timestamp).2.nextHeartbeatTimestamp =
        timestamp + platform.minHeartbeatTimeInterval := by
    unfold updateOutputStreamHeartbeatTimestamp
    split
    · dsimp only
      split
      · exact .inr rfl
      · split <;> exact .inr rfl
    · exact .inl rfl
  have hstep : (heartbeatStream platform timestamp (session', earliest) (UInt8.ofNat k)).2 =
      min earliest (updateOutputStreamHeartbeatTimestamp platform
        (session'.streams.outputReliable (UInt8.ofNat k)) timestamp).2.nextHeartbeatTimestamp := rfl
  rw [hstep, Int.min_def]
  split
  · exact h
  · exact hupdate

/-- The time that is chosen to be waited for, up to a heartbeat that is due in an interval. -/
theorem pollUntilHeartbeat_chosen {interval next timestamp poll : Int} (h₀ : 0 ≤ interval)
    (h₁ : interval < 2 ^ 31) (hnext : next = int64Max ∨ next = timestamp + interval)
    (hpoll : 0 ≤ poll) :
    0 ≤ pollUntilHeartbeat next timestamp poll ∧ pollUntilHeartbeat next timestamp poll ≤ poll ∧
      (0 < poll → 0 < pollUntilHeartbeat next timestamp poll) := by
  have hinterval : toInt (timestamp + interval - timestamp) = interval := by
    rw [show timestamp + interval - timestamp = interval by omega, toInt_eq h₀ h₁]
  unfold pollUntilHeartbeat
  rcases hnext with rfl | rfl
  · simp only [ne_eq, not_true_eq_false, if_false]
    split <;> split <;> omega
  · rw [hinterval]
    dsimp only
    split <;> split <;> split <;> omega

section

variable [MicroCdr] {world : World ω} {now : ω → Int} (htimed : Timed world now)
include htimed

/-- The time that is chosen is a part of the time that there is, and none only if there is none. -/
theorem beforeListening_chosen {waiting : WaitingSession ω} {poll : Int} (hpoll : 0 ≤ poll) :
    0 ≤ (beforeListening world waiting poll).1 ∧ (beforeListening world waiting poll).1 ≤ poll ∧
      (0 < poll → 0 < (beforeListening world waiting poll).1) :=
  pollUntilHeartbeat_chosen htimed.interval_nonneg htimed.interval_lt
    (heartbeatStreams_next world.platform (world.millis waiting.world).1 waiting.session) hpoll

/-- What is done before listening takes no time. -/
theorem keepsTo_beforeListening {deadline : Int} {waiting : WaitingSession ω} (poll : Int)
    (hnotPassed : now waiting.world ≤ deadline) :
    KeepsTo now deadline waiting (beforeListening world waiting poll).2 :=
  .of_eq rfl (htimed.look _) hnotPassed

variable {shiftBeyond : Nat → UInt16} {config : ReadConfig} {fuel : Nat} {waiting : WaitingSession ω}
  {deadline : Int}

/-- A message is waited for, for a time that ends before the deadline. -/
theorem keepsTo_listenMessageIn {pollMs : Int} (hpoll : 0 ≤ pollMs)
    (hdeadline : now waiting.world + pollMs ≤ deadline) :
    KeepsTo now deadline waiting
        (listenMessageIn world shiftBeyond config fuel waiting pollMs).2 ∧
      now (listenMessageIn world shiftBeyond config fuel waiting pollMs).2.world ≤
        now waiting.world + pollMs := by
  have hwithin := htimed.within waiting.world pollMs hpoll
  have hkeeps (session : Session) (app : Application) : KeepsTo now deadline waiting
      ⟨session, app, (world.recvMsg waiting.world pollMs).2,
        waiting.waits ++ [(waiting.world, pollMs)]⟩ := by
    refine ⟨⟨[(waiting.world, pollMs)], rfl, ?_⟩, htimed.forward _ _, ?_⟩
    · intro wait hwait
      cases List.mem_singleton.mp hwait
      exact ⟨hpoll, hdeadline⟩
    · exact Int.le_trans hwithin hdeadline
  unfold listenMessageIn
  dsimp only
  split
  · split
    · exact ⟨hkeeps _ _, hwithin⟩
    · exact ⟨hkeeps _ _, hwithin⟩
  · exact ⟨hkeeps _ _, hwithin⟩

/-- Listening for a time that ends before the deadline keeps to it. -/
theorem keepsTo_listenMessageReliablyForIn {poll : Int} (hpoll : 0 ≤ poll)
    (hdeadline : now waiting.world + poll ≤ deadline) :
    KeepsTo now deadline waiting
      (listenMessageReliablyForIn world shiftBeyond config fuel waiting poll).2 := by
  induction fuel generalizing waiting poll with
  | zero => exact .of_eq rfl rfl (by show now waiting.world ≤ _; omega)
  | succ fuel ih =>
    obtain ⟨hchosen₀, hchosen₁, -⟩ := @beforeListening_chosen ω _ world now htimed waiting poll hpoll
    have hbefore := keepsTo_beforeListening htimed poll (show now waiting.world ≤ deadline by omega)
    have hnow : now (beforeListening world waiting poll).2.world = now waiting.world :=
      htimed.look _
    have hlisten := @keepsTo_listenMessageIn ω _ world now htimed shiftBeyond config fuel
      (beforeListening world waiting poll).2 deadline _ hchosen₀ (by omega)
    rw [listenMessageReliablyForIn]
    dsimp only
    generalize listenMessageIn world shiftBeyond config fuel (beforeListening world waiting poll).2
      (beforeListening world waiting poll).1 = result at hlisten ⊢
    obtain ⟨received, waiting'⟩ := result
    obtain ⟨hkeeps, hwithin⟩ := hlisten
    dsimp only at hkeeps hwithin
    rcases received with _ | _ | _
    · exact hbefore.trans hkeeps
    · show KeepsTo now deadline waiting (if _ then _ else _ : Option Bool × WaitingSession ω).2
      split
      · exact (hbefore.trans hkeeps).trans (ih (by omega) (by omega))
      · exact hbefore.trans hkeeps
    · exact hbefore.trans hkeeps

theorem keepsTo_listenMessageReliablyIn {pollMs : Int} (hpoll : 0 ≤ pollMs)
    (hdeadline : now waiting.world + pollMs ≤ deadline) :
    KeepsTo now deadline waiting
      (listenMessageReliablyIn world shiftBeyond config fuel waiting pollMs).2 := by
  rw [listenMessageReliablyIn, if_pos hpoll]
  exact keepsTo_listenMessageReliablyForIn htimed hpoll hdeadline

/-! ## The loops -/

variable {timeoutMs : Int} (ht : timeoutMs < 2 ^ 31)
include ht

omit [MicroCdr] in
/-- The remaining time, when the clock is looked at before the deadline. -/
theorem remaining_eq {start : Int} (hstart : start ≤ now waiting.world)
    (hnotPassed : now waiting.world ≤ start + timeoutMs) :
    timeoutMs - toInt ((waiting.look world).1 - start) =
      start + timeoutMs - now waiting.world := by
  have hlook : (waiting.look world).1 = now waiting.world := htimed.millis _
  rw [hlook, toInt_eq (by omega) (by omega)]
  omega

omit ht in
/-- What a turn of a loop does: it listens up to the deadline, and looks at the clock. -/
theorem keepsTo_andThen {start remaining : Int} (hremaining : 0 ≤ remaining)
    (hdeadline : now waiting.world + remaining = start + timeoutMs)
    (hstart : start ≤ now waiting.world)
    {next : Bool → WaitingSession ω → Option Unit × WaitingSession ω}
    (hnext : ∀ received waiting', start ≤ now waiting'.world →
      now waiting'.world ≤ start + timeoutMs →
      KeepsTo now (start + timeoutMs) waiting' (next received waiting').2) :
    KeepsTo now (start + timeoutMs) waiting (andThen
      (listenMessageReliablyIn world shiftBeyond config fuel waiting remaining) next).2 := by
  have hlisten := @keepsTo_listenMessageReliablyIn ω _ world now htimed shiftBeyond config fuel
    waiting (start + timeoutMs) remaining hremaining (Int.le_of_eq hdeadline)
  generalize listenMessageReliablyIn world shiftBeyond config fuel waiting remaining = result
    at hlisten ⊢
  obtain ⟨_ | received, waiting'⟩ := result
  · exact hlisten
  · exact hlisten.trans
      (hnext received waiting' (Int.le_trans hstart hlisten.forward) hlisten.notPassed)

theorem keepsTo_listenUntil {answered : WaitingSession ω → Bool} {start remaining : Int}
    (hremaining : 0 ≤ remaining) (hdeadline : now waiting.world + remaining = start + timeoutMs)
    (hstart : start ≤ now waiting.world) :
    KeepsTo now (start + timeoutMs) waiting
      (listenUntil world shiftBeyond config (fun remaining => remaining) answered timeoutMs start
        fuel waiting remaining).2 := by
  induction fuel generalizing waiting remaining with
  | zero => exact .of_eq rfl rfl (by omega)
  | succ fuel ih =>
    rw [listenUntil]
    refine keepsTo_andThen htimed hremaining hdeadline hstart ?_
    intro received waiting' hstart' hnotPassed
    have hlook : KeepsTo now (start + timeoutMs) waiting' (waiting'.look world).2 :=
      .of_eq rfl (htimed.look _) hnotPassed
    have hnow : now (waiting'.look world).2.world = now waiting'.world := htimed.look _
    have hremaining' := remaining_eq htimed ht hstart' hnotPassed
    dsimp only
    split
    · exact hlook.trans (ih (by omega) (by omega) (by omega))
    · exact hlook

theorem keepsTo_listenUntilPong {start remaining : Int}
    (hremaining : 0 ≤ remaining) (hdeadline : now waiting.world + remaining = start + timeoutMs)
    (hstart : start ≤ now waiting.world) :
    KeepsTo now (start + timeoutMs) waiting
      (listenUntilPong world shiftBeyond config timeoutMs start fuel waiting remaining).2 := by
  induction fuel generalizing waiting remaining with
  | zero => exact .of_eq rfl rfl (by omega)
  | succ fuel ih =>
    rw [listenUntilPong]
    refine keepsTo_andThen htimed hremaining hdeadline hstart ?_
    intro received waiting' hstart' hnotPassed
    have hlook : KeepsTo now (start + timeoutMs) waiting' (waiting'.look world).2 :=
      .of_eq rfl (htimed.look _) hnotPassed
    have hnow : now (waiting'.look world).2.world = now waiting'.world := htimed.look _
    have hremaining' := remaining_eq htimed ht hstart' hnotPassed
    dsimp only
    split
    · exact .of_eq rfl rfl hnotPassed
    · split
      · exact hlook.trans (ih (by omega) (by omega) (by omega))
      · exact hlook

theorem keepsTo_listenUntilConfirmedIn {start remaining : Int}
    (hremaining : 0 ≤ remaining) (hdeadline : now waiting.world + remaining = start + timeoutMs)
    (hstart : start ≤ now waiting.world) :
    KeepsTo now (start + timeoutMs) waiting
      (listenUntilConfirmedIn world shiftBeyond config timeoutMs start fuel waiting
        remaining).2 := by
  induction fuel generalizing waiting remaining with
  | zero => exact .of_eq rfl rfl (by omega)
  | succ fuel ih =>
    rw [listenUntilConfirmedIn]
    split
    · refine keepsTo_andThen htimed hremaining hdeadline hstart ?_
      intro received waiting' hstart' hnotPassed
      have hlook : KeepsTo now (start + timeoutMs) waiting' (waiting'.look world).2 :=
        .of_eq rfl (htimed.look _) hnotPassed
      have hnow : now (waiting'.look world).2.world = now waiting'.world := htimed.look _
      have hremaining' := remaining_eq htimed ht hstart' hnotPassed
      refine hlook.trans (@ih (waiting'.look world).2
        (timeoutMs - toInt ((waiting'.look world).1 - start)) ?_ ?_ ?_)
      all_goals omega
    · exact .of_eq rfl rfl (by omega)

/-! ## The calls -/

omit [MicroCdr] htimed ht in
/-- Flushing takes no time and waits for nothing. -/
theorem flash_world [MicroCdr] {waiting' : WaitingSession ω}
    (h : waiting.flash world fuel = some waiting') :
    waiting'.world = waiting.world ∧ waiting'.waits = waiting.waits ∧ waiting'.app = waiting.app := by
  obtain ⟨run, -, rfl⟩ := Option.map_eq_some_iff.mp h
  exact ⟨rfl, rfl, rfl⟩

variable (h₀ : 0 ≤ timeoutMs)
include h₀

theorem keepsTo_runSessionUntilStatus (confirmed : List (UInt16 × UInt8) → Bool)
    (requestList : List UInt16) :
    KeepsTo now (now waiting.world + timeoutMs) waiting
      (runSessionUntilStatus world shiftBeyond config (fun _ remaining => remaining) confirmed fuel
        waiting timeoutMs requestList).2 := by
  have hstart : now waiting.world ≤ now waiting.world + timeoutMs := by omega
  rw [runSessionUntilStatus]
  cases hflash : waiting.flash world fuel with
  | none => exact .of_eq rfl rfl hstart
  | some flushed =>
    obtain ⟨hworld, hwaits, -⟩ := flash_world hflash
    have hflushed : KeepsTo now (now waiting.world + timeoutMs) waiting flushed :=
      .of_eq hwaits (by rw [hworld]) hstart
    dsimp only
    split
    · unfold WaitingSession.look
      dsimp only
      have hmillis : (world.millis flushed.world).1 = now waiting.world := by
        rw [htimed.millis, hworld]
      have hlook : now (world.millis flushed.world).2 = now waiting.world := by
        rw [htimed.look, hworld]
      have hloop := @keepsTo_listenUntil ω _ world now htimed shiftBeyond config fuel
        ⟨flushed.session,
          { flushed.app with
            statusList := requestList.map fun requestId => (requestId, statusNone) },
          (world.millis flushed.world).2, flushed.waits⟩ timeoutMs ht
        (fun waiting => confirmed waiting.app.statusList) (now waiting.world) timeoutMs h₀
        (by dsimp only; omega) (by dsimp only; omega)
      rw [hmillis]
      have hlooked : KeepsTo now (now waiting.world + timeoutMs) flushed
          ⟨flushed.session,
            { flushed.app with
              statusList := requestList.map fun requestId => (requestId, statusNone) },
            (world.millis flushed.world).2, flushed.waits⟩ :=
        .of_eq rfl (htimed.look _) hflushed.notPassed
      have hall := hflushed.trans (hlooked.trans hloop)
      exact ⟨hall.waits, hall.forward, hall.notPassed⟩
    · exact hflushed

theorem keepsTo_runSessionUntilSync :
    KeepsTo now (now waiting.world + timeoutMs) waiting
      (runSessionUntilSync world shiftBeyond config fuel waiting timeoutMs).2 := by
  have hstart : now waiting.world ≤ now waiting.world + timeoutMs := by omega
  unfold runSessionUntilSync WaitingSession.look
  dsimp only
  have hlook : now (world.millis waiting.world).2 = now waiting.world := htimed.look _
  have hloop := @keepsTo_listenUntil ω _ world now htimed shiftBeyond config fuel
    ⟨waiting.session, { waiting.app with synchronized := false }, (world.millis waiting.world).2,
      waiting.waits⟩ timeoutMs ht (fun waiting => waiting.app.synchronized) (now waiting.world)
    timeoutMs h₀ (by dsimp only; omega) (by dsimp only; omega)
  have hlooked : KeepsTo now (now waiting.world + timeoutMs) waiting (waiting.look world).2 :=
    .of_eq rfl hlook hstart
  rw [htimed.millis]
  exact hlooked.trans ⟨hloop.waits, hloop.forward, hloop.notPassed⟩

theorem keepsTo_runSessionUntilPong :
    KeepsTo now (now waiting.world + timeoutMs) waiting
      (runSessionUntilPong world shiftBeyond config fuel waiting timeoutMs).2 := by
  have hstart : now waiting.world ≤ now waiting.world + timeoutMs := by omega
  have hlook : KeepsTo now (now waiting.world + timeoutMs) waiting (waiting.look world).2 :=
    .of_eq rfl (htimed.look _) hstart
  unfold runSessionUntilPong
  dsimp only
  cases hflash : (waiting.look world).2.flash world fuel with
  | none => exact hlook
  | some flushed =>
    obtain ⟨hworld, hwaits, -⟩ := flash_world hflash
    have hnow : now flushed.world = now waiting.world := by
      rw [hworld]
      exact htimed.look _
    have hflushed : KeepsTo now (now waiting.world + timeoutMs) waiting flushed :=
      .of_eq hwaits hnow hstart
    have hmillis : (waiting.look world).1 = now waiting.world := htimed.millis _
    have hloop := @keepsTo_listenUntilPong ω _ world now htimed shiftBeyond config fuel
      { flushed with app.onPongFlag := noPongStatus } timeoutMs ht (now waiting.world) timeoutMs h₀
      (by dsimp only; omega) (by dsimp only; omega)
    dsimp only
    rw [hmillis]
    exact hflushed.trans ⟨hloop.waits, hloop.forward, hloop.notPassed⟩

theorem keepsTo_runSessionUntilConfirmDeliveryIn :
    KeepsTo now (now waiting.world + timeoutMs) waiting
      (runSessionUntilConfirmDeliveryIn world shiftBeyond config fuel waiting timeoutMs).2 := by
  have hstart : now waiting.world ≤ now waiting.world + timeoutMs := by omega
  have hlook : KeepsTo now (now waiting.world + timeoutMs) waiting (waiting.look world).2 :=
    .of_eq rfl (htimed.look _) hstart
  unfold runSessionUntilConfirmDeliveryIn
  dsimp only
  cases hflash : (waiting.look world).2.flash world fuel with
  | none => exact hlook
  | some flushed =>
    obtain ⟨hworld, hwaits, -⟩ := flash_world hflash
    have hnow : now flushed.world = now waiting.world := by
      rw [hworld]
      exact htimed.look _
    have hmillis : (waiting.look world).1 = now waiting.world := htimed.millis _
    have hloop := @keepsTo_listenUntilConfirmedIn ω _ world now htimed shiftBeyond config fuel
      flushed timeoutMs ht (now waiting.world) timeoutMs h₀ (by omega) (by omega)
    dsimp only
    rw [hmillis]
    exact KeepsTo.trans (.of_eq hwaits hnow hstart) hloop

end

end XrceClient
