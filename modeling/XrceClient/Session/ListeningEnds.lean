import XrceClient.Session.Deadlines

/-!
# Listening comes to its end (`session.c`)

Listening up to a deadline ends, if the messages that come at no time are not without end and every
message that comes is read to its end.

- `Progresses`: how often, at most, a call of `recv_msg` comes back at no time though it may wait.
- `Processes`: the sessions of a run, in which messages are read to their end.
- `listenMessageReliablyIn_ends`, and the loops around it.
-/

namespace XrceClient

variable {ω : Type}

/-- How often, at most, `recv_msg` still comes back at no time though it may wait. -/
structure Progresses (world : World ω) (now : ω → Int) (budget : ω → Nat) : Prop where
  look : ∀ w, budget (world.millis w).2 ≤ budget w
  recv : ∀ w pollMs, budget (world.recvMsg w pollMs).2 ≤ budget w
  instant : ∀ w pollMs, 0 < pollMs → now (world.recvMsg w pollMs).2 = now w →
    budget (world.recvMsg w pollMs).2 < budget w

/-- The sessions of a run, among which it stays, flush their streams and read every message that
comes to its end. -/
structure Processes [MicroCdr] (world : World ω) (shiftBeyond : Nat → UInt16) (config : ReadConfig)
    (Sane : Session → Prop) : Prop where
  flash : ∀ waiting : WaitingSession ω, Sane waiting.session → ∃ fuel waiting',
    waiting.flash world fuel = some waiting' ∧ Sane waiting'.session
  beats : ∀ timestamp session, Sane session →
    Sane (heartbeatStreams world.platform timestamp session).1
  sends : ∀ session message, Sane session → Sane (session.sendMessage message)
  reads : ∀ w pollMs msg session, Sane session → (world.recvMsg w pollMs).1 = some msg →
    ∃ fuel session', readMessage shiftBeyond config fuel session msg = some session' ∧
      Sane session'

/-- What is left of a run up to a deadline. -/
def WaitingSession.left (now : ω → Int) (budget : ω → Nat) (deadline : Int)
    (waiting : WaitingSession ω) : Nat :=
  (deadline - now waiting.world).toNat + budget waiting.world

section

variable [MicroCdr] {world : World ω} {now : ω → Int} {budget : ω → Nat}
  {shiftBeyond : Nat → UInt16} {config : ReadConfig} {Sane : Session → Prop}
  (htimed : Timed world now) (hprogress : Progresses world now budget)
  (hprocesses : Processes world shiftBeyond config Sane)
  {waiting : WaitingSession ω} {deadline : Int}
include htimed hprogress hprocesses

/-- A call of `listen_message` ends, with less left if it may wait. -/
theorem listenMessageIn_ends (hsane : Sane waiting.session) {pollMs : Int} (hpoll : 0 ≤ pollMs)
    (hdeadline : now waiting.world + pollMs ≤ deadline) :
    ∃ fuel received waiting',
      finished (listenMessageIn world shiftBeyond config fuel waiting pollMs) =
        some (received, waiting') ∧ Sane waiting'.session ∧
      now waiting'.world ≤ now waiting.world + pollMs ∧
      (0 < pollMs → waiting'.left now budget deadline < waiting.left now budget deadline) := by
  have hwithin := htimed.within waiting.world pollMs hpoll
  have hforward := htimed.forward waiting.world pollMs
  have hleft (session : Session) (app : Application) (waits : List (ω × Int)) (hpos : 0 < pollMs) :
      WaitingSession.left now budget deadline
          ⟨session, app, (world.recvMsg waiting.world pollMs).2, waits⟩ <
        waiting.left now budget deadline := by
    have hrecv := hprogress.recv waiting.world pollMs
    have hinstant := hprogress.instant waiting.world pollMs hpos
    unfold WaitingSession.left
    by_cases hsame : now (world.recvMsg waiting.world pollMs).2 = now waiting.world
    · have := hinstant hsame
      dsimp only
      omega
    · dsimp only
      omega
  unfold listenMessageIn
  dsimp only
  cases hmsg : (world.recvMsg waiting.world pollMs).1 with
  | none => exact ⟨0, false, _, rfl, hsane, hwithin, hleft _ _ _⟩
  | some msg =>
    obtain ⟨fuel, session', hread, hsane'⟩ := hprocesses.reads _ _ msg waiting.session hsane hmsg
    let waiting' : WaitingSession ω :=
      { session := session'
        app := waiting.app.after (world.nanos (world.recvMsg waiting.world pollMs).2)
          waiting.session session'
        world := (world.recvMsg waiting.world pollMs).2
        waits := waiting.waits ++ [(waiting.world, pollMs)] }
    refine ⟨fuel, true, waiting', ?_, hsane', hwithin, hleft _ _ _⟩
    dsimp only
    rw [hread]
    rfl

theorem listenMessageReliablyForIn_ends (hsane : Sane waiting.session) {poll : Int}
    (hpoll : 0 ≤ poll) (hdeadline : now waiting.world + poll ≤ deadline) :
    ∃ fuel received waiting',
      finished (listenMessageReliablyForIn world shiftBeyond config fuel waiting poll) =
        some (received, waiting') ∧ Sane waiting'.session ∧
      (0 < poll → waiting'.left now budget deadline < waiting.left now budget deadline) := by
  generalize hn : waiting.left now budget deadline = n
  -- by induction on what is left to listen for
  induction n using Nat.strongRecOn generalizing waiting poll with
  | ind n ih =>
    subst hn
    obtain ⟨hchosen₀, hchosen₁, hchosen₂⟩ :=
      @beforeListening_chosen ω _ world now htimed waiting poll hpoll
    have hnow : now (beforeListening world waiting poll).2.world = now waiting.world :=
      htimed.look _
    have hlook : (beforeListening world waiting poll).2.left now budget deadline ≤
        waiting.left now budget deadline := by
      have hbudget : budget (beforeListening world waiting poll).2.world ≤ budget waiting.world :=
        hprogress.look _
      unfold WaitingSession.left
      omega
    obtain ⟨k, received, waiting₁, hlisten, hsane₁, hwithin, hleft⟩ :=
      @listenMessageIn_ends ω _ world now budget shiftBeyond config Sane htimed hprogress hprocesses
        (beforeListening world waiting poll).2 deadline (hprocesses.beats _ _ hsane) _ hchosen₀
        (by omega)
    have hturn (m : Nat) (hk : k ≤ m) :
        finished (listenMessageReliablyForIn world shiftBeyond config (m + 1) waiting poll) =
          if received then some (true, waiting₁)
          else if poll - (beforeListening world waiting poll).1 > 0 then
            finished (listenMessageReliablyForIn world shiftBeyond config m waiting₁
              (poll - (beforeListening world waiting poll).1))
          else some (false, waiting₁) := by
      rw [listenMessageReliablyForIn]
      dsimp only
      have hmore := (steady_listenMessageIn _ _).le hlisten hk
      rw [finished_andThen, hmore, Option.bind_some]
      cases received with
      | true => rfl
      | false =>
        dsimp only
        rw [if_neg Bool.false_ne_true, if_neg Bool.false_ne_true]
        split <;> rfl
    cases received with
    | true =>
      refine ⟨k + 1, true, waiting₁, hturn k (Nat.le_refl k), hsane₁, fun hpos => ?_⟩
      exact Nat.lt_of_lt_of_le (hleft (hchosen₂ hpos)) hlook
    | false =>
      by_cases hmore : poll - (beforeListening world waiting poll).1 > 0
      · -- nothing came in this turn, and there is time for another one
        have hless := Nat.lt_of_lt_of_le (hleft (hchosen₂ (by omega))) hlook
        obtain ⟨k', received', waiting₂, hrest, hsane₂, hleft₂⟩ :=
          ih _ hless hsane₁ (Int.le_of_lt hmore) (by omega) rfl
        refine ⟨max k k' + 1, received', waiting₂, ?_, hsane₂,
          fun _ => Nat.lt_trans (hleft₂ hmore) hless⟩
        rw [hturn _ (Nat.le_max_left _ _), if_neg Bool.false_ne_true, if_pos hmore]
        exact (steady_listenMessageReliablyForIn _ _).le hrest (Nat.le_max_right _ _)
      · refine ⟨k + 1, false, waiting₁, ?_, hsane₁, fun hpos => ?_⟩
        · rw [hturn k (Nat.le_refl k), if_neg Bool.false_ne_true, if_neg hmore]
        · exact Nat.lt_of_lt_of_le (hleft (hchosen₂ hpos)) hlook

/-- Listening ends, with less left if it may wait. -/
theorem listenMessageReliablyIn_ends (hsane : Sane waiting.session) {pollMs : Int}
    (hpoll : 0 ≤ pollMs) (hdeadline : now waiting.world + pollMs ≤ deadline) :
    ∃ fuel received waiting',
      finished (listenMessageReliablyIn world shiftBeyond config fuel waiting pollMs) =
        some (received, waiting') ∧ Sane waiting'.session ∧
      (0 < pollMs → waiting'.left now budget deadline < waiting.left now budget deadline) := by
  unfold listenMessageReliablyIn
  rw [if_pos hpoll]
  exact listenMessageReliablyForIn_ends htimed hprogress hprocesses hsane hpoll hdeadline

/-- What a turn of a loop does, and that the loop ends if what follows the turn does. -/
theorem ends_andThen {start timeoutMs remaining : Int} (hsane : Sane waiting.session)
    (hremaining : 0 ≤ remaining) (hdeadline : now waiting.world + remaining = start + timeoutMs)
    (hstart : start ≤ now waiting.world)
    (next : Nat → Bool → WaitingSession ω → Option Unit × WaitingSession ω)
    (hsteady : ∀ received waiting', Steady fun fuel => finished (next fuel received waiting'))
    (hnext : ∀ received waiting', Sane waiting'.session → start ≤ now waiting'.world →
      now waiting'.world ≤ start + timeoutMs → now waiting.world ≤ now waiting'.world →
      (0 < remaining → waiting'.left now budget (start + timeoutMs) <
        waiting.left now budget (start + timeoutMs)) →
      ∃ fuel r, finished (next fuel received waiting') = some r) :
    ∃ fuel r, finished (andThen
      (listenMessageReliablyIn world shiftBeyond config fuel waiting remaining) (next fuel)) =
        some r := by
  obtain ⟨k, received, waiting', hlisten, hsane', hleft⟩ :=
    listenMessageReliablyIn_ends htimed hprogress hprocesses hsane hremaining
      (Int.le_of_eq hdeadline)
  have hkeeps := @keepsTo_listenMessageReliablyIn ω _ world now htimed shiftBeyond config k
    waiting (start + timeoutMs) remaining hremaining (Int.le_of_eq hdeadline)
  have hend : (listenMessageReliablyIn world shiftBeyond config k waiting remaining).2 =
      waiting' := by
    obtain ⟨a, -, heq⟩ := Option.map_eq_some_iff.mp hlisten
    exact congrArg Prod.snd heq
  rw [hend] at hkeeps
  obtain ⟨k', r, hrest⟩ := hnext received waiting' hsane'
    (Int.le_trans hstart hkeeps.forward) hkeeps.notPassed hkeeps.forward hleft
  refine ⟨max k k', r, ?_⟩
  have hmore := (steady_listenMessageReliablyIn _ _).le hlisten (Nat.le_max_left k k')
  rw [finished_andThen, hmore, Option.bind_some]
  exact (hsteady _ _).le hrest (Nat.le_max_right k k')

variable {start timeoutMs : Int} (ht : timeoutMs < 2 ^ 31)
include ht

theorem listenUntil_ends {answered : WaitingSession ω → Bool} {remaining : Int}
    (hsane : Sane waiting.session) (hremaining : 0 ≤ remaining)
    (hdeadline : now waiting.world + remaining = start + timeoutMs)
    (hstart : start ≤ now waiting.world) :
    ∃ fuel r, finished (listenUntil world shiftBeyond config (fun remaining => remaining) answered
      timeoutMs start fuel waiting remaining) = some r := by
  generalize hn : waiting.left now budget (start + timeoutMs) = n
  induction n using Nat.strongRecOn generalizing waiting remaining with
  | ind n ih =>
    subst hn
    have hturn := ends_andThen htimed hprogress hprocesses hsane hremaining hdeadline hstart
      (fun fuel _ waiting =>
        if timeoutMs - toInt ((waiting.look world).1 - start) > 0 ∧
          ¬ answered (waiting.look world).2 then
          listenUntil world shiftBeyond config (fun remaining => remaining) answered timeoutMs start
            fuel (waiting.look world).2 (timeoutMs - toInt ((waiting.look world).1 - start))
        else (some (), (waiting.look world).2)) ?_ ?_
    · obtain ⟨fuel, r, hends⟩ := hturn
      exact ⟨fuel + 1, r, by rw [listenUntil]; exact hends⟩
    · intro received waiting'
      split
      · exact steady_listenUntil _ _ _ _ _ _
      · exact fun _ _ h => h
    · intro received waiting' hsane' hstart' hnotPassed hforward hleft
      have hnow : now (waiting'.look world).2.world = now waiting'.world := htimed.look _
      have hremaining' := remaining_eq htimed ht hstart' hnotPassed
      have hlook : (waiting'.look world).2.left now budget (start + timeoutMs) ≤
          waiting'.left now budget (start + timeoutMs) := by
        have hbudget : budget (waiting'.look world).2.world ≤ budget waiting'.world :=
          hprogress.look _
        unfold WaitingSession.left
        omega
      split
      · next hmore =>
        exact ih _ (Nat.lt_of_le_of_lt hlook (hleft (by omega))) hsane' (by omega) (by omega)
          (by omega) rfl
      · exact ⟨0, _, rfl⟩

theorem listenUntilPong_ends {remaining : Int} (hsane : Sane waiting.session)
    (hremaining : 0 ≤ remaining) (hdeadline : now waiting.world + remaining = start + timeoutMs)
    (hstart : start ≤ now waiting.world) :
    ∃ fuel r, finished (listenUntilPong world shiftBeyond config timeoutMs start fuel waiting
      remaining) = some r := by
  generalize hn : waiting.left now budget (start + timeoutMs) = n
  induction n using Nat.strongRecOn generalizing waiting remaining with
  | ind n ih =>
    subst hn
    have hturn := ends_andThen htimed hprogress hprocesses hsane hremaining hdeadline hstart
      (fun fuel _ waiting =>
        if noPongStatus ≠ waiting.app.onPongFlag then (some (), waiting)
        else if timeoutMs - toInt ((waiting.look world).1 - start) > 0 then
          listenUntilPong world shiftBeyond config timeoutMs start fuel (waiting.look world).2
            (timeoutMs - toInt ((waiting.look world).1 - start))
        else (some (), (waiting.look world).2)) ?_ ?_
    · obtain ⟨fuel, r, hends⟩ := hturn
      exact ⟨fuel + 1, r, by rw [listenUntilPong]; exact hends⟩
    · intro received waiting'
      split
      · exact fun _ _ h => h
      · split
        · exact steady_listenUntilPong _ _ _ _
        · exact fun _ _ h => h
    · intro received waiting' hsane' hstart' hnotPassed hforward hleft
      have hnow : now (waiting'.look world).2.world = now waiting'.world := htimed.look _
      have hremaining' := remaining_eq htimed ht hstart' hnotPassed
      have hlook : (waiting'.look world).2.left now budget (start + timeoutMs) ≤
          waiting'.left now budget (start + timeoutMs) := by
        have hbudget : budget (waiting'.look world).2.world ≤ budget waiting'.world :=
          hprogress.look _
        unfold WaitingSession.left
        omega
      split
      · exact ⟨0, _, rfl⟩
      · split
        · next hmore =>
          exact ih _ (Nat.lt_of_le_of_lt hlook (hleft (by omega))) hsane' (by omega) (by omega)
            (by omega) rfl
        · exact ⟨0, _, rfl⟩

/-! ## The calls -/

variable (h₀ : 0 ≤ timeoutMs)
include h₀

theorem runSessionUntilStatus_ends (hsane : Sane waiting.session)
    (confirmed : List (UInt16 × UInt8) → Bool) {requestList : List UInt16}
    (hlist : requestList.length < 2 ^ 32) :
    ∃ fuel, (runSessionUntilStatus world shiftBeyond config (fun _ remaining => remaining)
      confirmed fuel waiting timeoutMs requestList).1.isSome := by
  obtain ⟨k, flushed, hflash, hsane'⟩ := hprocesses.flash waiting hsane
  obtain ⟨hworld, -, -⟩ := flash_world hflash
  have hlook : now (world.millis flushed.world).2 = now flushed.world := htimed.look _
  obtain ⟨k', r, hends⟩ := @listenUntil_ends ω _ world now budget shiftBeyond config Sane htimed
    hprogress hprocesses
    ⟨flushed.session,
      { flushed.app with
        statusList := requestList.map fun requestId => (requestId, statusNone) },
      (world.millis flushed.world).2, flushed.waits⟩ (now flushed.world) timeoutMs ht
    (fun waiting => confirmed waiting.app.statusList) timeoutMs hsane' h₀
    (by dsimp only; omega) (by dsimp only; omega)
  obtain ⟨_, hdone, _⟩ := Option.map_eq_some_iff.mp
    ((steady_listenUntil _ _ _ _ _ _).le hends (Nat.le_max_right k k'))
  have hmore : waiting.flash world (max k k') = some flushed :=
    (steady_flash waiting).le hflash (Nat.le_max_left k k')
  refine ⟨max k k', ?_⟩
  rw [runSessionUntilStatus, hmore]
  unfold WaitingSession.look
  dsimp only
  rw [if_pos hlist, htimed.millis, hdone]
  rfl

theorem runSessionUntilSync_ends (hsane : Sane waiting.session) :
    ∃ fuel, (runSessionUntilSync world shiftBeyond config fuel waiting timeoutMs).1.isSome := by
  have hlook : now (world.millis waiting.world).2 = now waiting.world := htimed.look _
  obtain ⟨k, r, hends⟩ := @listenUntil_ends ω _ world now budget shiftBeyond config Sane htimed
    hprogress hprocesses
    ⟨waiting.session, { waiting.app with synchronized := false }, (world.millis waiting.world).2,
      waiting.waits⟩ (now waiting.world) timeoutMs ht
    (fun waiting => waiting.app.synchronized) timeoutMs hsane h₀
    (by dsimp only; omega) (by dsimp only; omega)
  obtain ⟨_, hdone, _⟩ := Option.map_eq_some_iff.mp hends
  refine ⟨k, ?_⟩
  unfold runSessionUntilSync WaitingSession.look
  dsimp only
  rw [htimed.millis, hdone]
  rfl

theorem runSessionUntilPong_ends (hsane : Sane waiting.session) :
    ∃ fuel, (runSessionUntilPong world shiftBeyond config fuel waiting timeoutMs).1.isSome := by
  have hlook : now (waiting.look world).2.world = now waiting.world := htimed.look _
  obtain ⟨k, flushed, hflash, hsane'⟩ := hprocesses.flash (waiting.look world).2 hsane
  obtain ⟨hworld, -, -⟩ := flash_world hflash
  rw [← hworld] at hlook
  obtain ⟨k', r, hends⟩ := @listenUntilPong_ends ω _ world now budget shiftBeyond config Sane htimed
    hprogress hprocesses { flushed with app.onPongFlag := noPongStatus } (now waiting.world)
    timeoutMs ht timeoutMs hsane' h₀ (by dsimp only; omega) (by dsimp only; omega)
  obtain ⟨_, hdone, _⟩ := Option.map_eq_some_iff.mp
    ((steady_listenUntilPong _ _ _ _).le hends (Nat.le_max_right k k'))
  have hmore : (waiting.look world).2.flash world (max k k') = some flushed :=
    (steady_flash _).le hflash (Nat.le_max_left k k')
  have hmillis : (waiting.look world).1 = now waiting.world := htimed.millis _
  refine ⟨max k k', ?_⟩
  unfold runSessionUntilPong
  dsimp only
  rw [hmore]
  dsimp only
  rw [hmillis, hdone]
  rfl

end

end XrceClient
