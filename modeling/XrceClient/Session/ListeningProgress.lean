import XrceClient.Base.Spending
import XrceClient.Session.DeadlinesKept

/-!
# The loop of `listen_message_reliably` makes progress (`session.c`)

Whatever the clock, the transport and the output streams do, the waits of the loop are shares of
the time it may take, up to a message that is received.

- `ListensWithin`: what the turns of the loop keep to; `listens_within`.
- `spends_listenMessageReliablyForIn`: the loop spends its time, and leaves it to the reading of a
  message only.
- `listening_makes_progress`.
-/

namespace XrceClient

variable {ω : Type}

/-- `poll` in front of the first turn of `listen_message_reliably` (session.c:693). -/
def listenBudget (pollMs : Int) : Int := if pollMs ≥ 0 then pollMs else int32Max

/-- A turn of the loop receives nothing: `recv_msg` has no message in that state and for that
wait. -/
def World.silent (world : World ω) (turn : ω × Int) : Bool :=
  (world.recvMsg turn.1 turn.2).1.isNone

/-- `poll` in front of a turn: the waits of the turns that received nothing are taken off. -/
def World.remaining (world : World ω) (budget : Int) (turns : List (ω × Int)) (i : Nat) : Int :=
  budget - (((turns.take i).filter world.silent).map Prod.snd).sum

/-- The turns of the loop ask for shares of the time that remains, which gets less where nothing is
received, as long as there is some. -/
structure ListensWithin (world : World ω) (budget : Int) (turns : List (ω × Int)) : Prop where
  asks : ∀ i (hi : i < turns.length), Share (world.remaining budget turns i) turns[i].2
  decreases : ∀ i (hi : i < turns.length), world.silent turns[i] = true →
    0 < world.remaining budget turns i →
      world.remaining budget turns (i + 1) < world.remaining budget turns i
  sum_le : ((turns.filter world.silent).map Prod.snd).sum ≤ budget
  count : turns.length ≤ max 1 budget.toNat

theorem listenBudget_nonneg (pollMs : Int) : 0 ≤ listenBudget pollMs := by
  unfold listenBudget int32Max
  split <;> omega

section

variable {world : World ω} {budget : Int} {turns : List (ω × Int)}

/-- In front of a turn nothing was received. -/
theorem filter_silent_take (hsilent : ∀ turn ∈ turns.dropLast, world.silent turn = true) {i : Nat}
    (hi : i < turns.length) : (turns.take i).filter world.silent = turns.take i := by
  rw [List.filter_eq_self]
  intro turn hmem
  apply hsilent
  rw [List.dropLast_eq_take]
  have hle : i ≤ turns.length - 1 := by omega
  exact (List.take_subset_take_left turns hle) hmem

/-- Shares that are spent in turns of which the last one at most receives something. -/
theorem listens_within (hbudget : 0 ≤ budget) (hspends : Spends budget (turns.map Prod.snd))
    (hsilent : ∀ turn ∈ turns.dropLast, world.silent turn = true) :
    ListensWithin world budget turns := by
  have hshare (i : Nat) (hi : i < turns.length) :
      Share (world.remaining budget turns i) turns[i].2 := by
    have hi' : i < (turns.map Prod.snd).length := by rwa [List.length_map]
    have hshare := hspends.share i hi'
    rw [List.getElem_map, ← List.map_take] at hshare
    rw [World.remaining, filter_silent_take hsilent hi]
    exact hshare
  refine ⟨hshare, ?_, ?_, ?_⟩
  · intro i hi hturn hpos
    have hwait := (hshare i hi).pos hpos
    unfold World.remaining at hwait hpos ⊢
    rw [List.take_succ_eq_append_getElem hi, List.filter_append, List.map_append, List.sum_append,
      List.filter_singleton, hturn, cond_true, List.map_singleton, List.sum_singleton]
    omega
  · -- the waits of some of the turns are no more than those of all
    have hall := hspends.sum_le hbudget
    have hpart : ((turns.filter world.silent).map Prod.snd).sum ≤ (turns.map Prod.snd).sum :=
      (List.filter_sublist.map Prod.snd).sum_le_sum hspends.nonneg
    exact Int.le_trans hpart hall
  · have hcount := hspends.length_le
    rwa [List.length_map] at hcount

end

section

variable [MicroCdr] {world : World ω} {shiftBeyond : Nat → UInt16} {config : ReadConfig}
  (h₀ : 0 ≤ world.platform.minHeartbeatTimeInterval)
  (h₁ : world.platform.minHeartbeatTimeInterval < 2 ^ 31)
include h₀ h₁

/-- What a turn asks for is a share of the time that remains, whatever the state of the streams
and of the clock. -/
theorem beforeListening_share (waiting : WaitingSession ω) {poll : Int} (hpoll : 0 ≤ poll) :
    Share poll (beforeListening world waiting poll).1 := by
  obtain ⟨hnonneg, hle, hpos⟩ := pollUntilHeartbeat_chosen h₀ h₁
    (heartbeatStreams_next world.platform (world.millis waiting.world).1 waiting.session) hpoll
  exact ⟨hnonneg, hle, hpos⟩

/-- The loop spends its time in turns that receive nothing, but for the last one. Without a result
it has used up its fuel, or it reads a message that was received. -/
theorem spends_listenMessageReliablyForIn (fuel : Nat) (waiting : WaitingSession ω) {poll : Int}
    (hpoll : 0 ≤ poll) :
    ∃ turns : List (ω × Int),
      (listenMessageReliablyForIn world shiftBeyond config fuel waiting poll).2.waits =
        waiting.waits ++ turns ∧
      Spends poll (turns.map Prod.snd) ∧
      (∀ turn ∈ turns.dropLast, world.silent turn = true) ∧
      ((listenMessageReliablyForIn world shiftBeyond config fuel waiting poll).1 = none →
        turns.length = fuel ∨ ∃ turn ∈ turns, ∃ msg session,
          (world.recvMsg turn.1 turn.2).1 = some msg ∧
            readMessage shiftBeyond config (fuel - turns.length) session msg = none) := by
  induction fuel generalizing waiting poll with
  | zero =>
    exact ⟨[], (List.append_nil _).symm, .nil poll, List.forall_mem_nil _, fun _ => .inl rfl⟩
  | succ fuel ih =>
    have hshare := beforeListening_share h₀ h₁ waiting hpoll
    have hwaits : (beforeListening world waiting poll).2.waits = waiting.waits := rfl
    rw [listenMessageReliablyForIn]
    generalize beforeListening world waiting poll = turn at hshare hwaits ⊢
    obtain ⟨wait, before⟩ := turn
    dsimp only at hshare hwaits ⊢
    have hlast : Spends poll [wait] := .cons hshare (fun h => absurd rfl h) (.nil _)
    unfold listenMessageIn
    dsimp only
    cases hmsg : (world.recvMsg before.world wait).1 with
    | some msg =>
      -- the message ends the loop, once it is read
      dsimp only
      cases hread : readMessage shiftBeyond config fuel before.session msg with
      | none =>
        refine ⟨[(before.world, wait)], by rw [← hwaits]; rfl, hlast, List.forall_mem_nil _, ?_⟩
        intro _
        exact .inr ⟨_, List.mem_singleton.mpr rfl, msg, before.session, hmsg, hread⟩
      | some session =>
        refine ⟨[(before.world, wait)], by rw [← hwaits]; rfl, hlast, List.forall_mem_nil _, ?_⟩
        intro hnone
        exact absurd hnone (Option.some_ne_none true)
    | none =>
      have hturn : world.silent (before.world, wait) = true := by
        show (world.recvMsg before.world wait).1.isNone = true
        rw [hmsg]
        rfl
      simp only [andThen, Bool.false_eq_true, if_false]
      by_cases hmore : poll - wait > 0
      · rw [if_pos hmore]
        obtain ⟨turns, hrest, hspends, hsilent, hends⟩ := ih
          { before with
            world := (world.recvMsg before.world wait).2
            waits := before.waits ++ [(before.world, wait)] } (Int.le_of_lt hmore)
        refine ⟨(before.world, wait) :: turns, ?_, .cons hshare (fun _ => by omega) hspends, ?_, ?_⟩
        · rw [hrest, ← hwaits, List.append_assoc]
          rfl
        · intro turn hmem
          cases turns with
          | nil => exact absurd hmem List.not_mem_nil
          | cons next turns =>
            rw [List.dropLast_cons_of_ne_nil (List.cons_ne_nil _ _)] at hmem
            rcases List.mem_cons.mp hmem with rfl | hmem
            · exact hturn
            · exact hsilent turn hmem
        · intro hnone
          rcases hends hnone with hfuel | ⟨turn, hmem, msg, session, hrecv, hread⟩
          · exact .inl (congrArg Nat.succ hfuel)
          · refine .inr ⟨turn, List.mem_cons_of_mem _ hmem, msg, session, hrecv, ?_⟩
            rw [List.length_cons, Nat.add_sub_add_right]
            exact hread
      · rw [if_neg hmore]
        refine ⟨[(before.world, wait)], by rw [← hwaits], hlast, List.forall_mem_nil _, ?_⟩
        rintro ⟨⟩

end

/-- Every turn of `listen_message_reliably` asks the transport for a share of the time that
remains; this time gets less with every turn that receives nothing, as long as there is some, and
the waits of these turns together are no more than all of it. So the loop ends, unless it has
received a message and the reading of that message does not end. -/
theorem listening_makes_progress [MicroCdr] (world : World ω) (shiftBeyond : Nat → UInt16)
    (config : ReadConfig) (h₀ : 0 ≤ world.platform.minHeartbeatTimeInterval)
    (h₁ : world.platform.minHeartbeatTimeInterval < 2 ^ 31) (fuel : Nat)
    (waiting : WaitingSession ω) (pollMs : Int) :
    ∃ turns : List (ω × Int),
      (listenMessageReliablyIn world shiftBeyond config fuel waiting pollMs).2.waits =
        waiting.waits ++ turns ∧
      ListensWithin world (listenBudget pollMs) turns ∧
      (max 1 (listenBudget pollMs).toNat < fuel →
        (listenMessageReliablyIn world shiftBeyond config fuel waiting pollMs).1 = none →
          ∃ turn ∈ turns, ∃ msg session, (world.recvMsg turn.1 turn.2).1 = some msg ∧
            readMessage shiftBeyond config (fuel - turns.length) session msg = none) := by
  have hbudget := listenBudget_nonneg pollMs
  obtain ⟨turns, hwaits, hspends, hsilent, hends⟩ :=
    @spends_listenMessageReliablyForIn ω _ world shiftBeyond config h₀ h₁ fuel waiting
      (listenBudget pollMs) hbudget
  have hwithin := listens_within hbudget hspends hsilent
  refine ⟨turns, hwaits, hwithin, fun hfuel hnone => ?_⟩
  have hcount := hwithin.count
  rcases hends hnone with hall | hreads
  · omega
  · exact hreads

/-- A session at the time 0 with a message in its output stream that was sent and not
acknowledged. Nothing arrives. -/
def unacknowledged : WaitingSession (List Int × Int) :=
  { lateMessage with
    session :=
      { noStreams with
        streams :=
          { StreamStorage.zeroed with
            outputReliable := fun _ =>
              { initOutputReliableStream (fun _ => 0) 64 2 8 with lastSent := 0 }
            outputReliableSize := 1 } }
    world := ([], 0) }

/-- Its call of `listen_message_reliably`. -/
def listenFor250 (fuel : Nat) :=
  @listenMessageReliablyIn _ referenceMicroCdr timetable (fun _ => 0) noCallbacks fuel
    unacknowledged 250

/-- It listens from heartbeat to heartbeat. -/
theorem listening_makes_progress_heartbeats :
    (listenFor250 251).2.waits = [(([], 0), 100), (([], 100), 100), (([], 200), 50)] ∧
      ListensWithin timetable 250 (listenFor250 251).2.waits := by
  obtain ⟨turns, hwaits, hwithin, -⟩ := @listening_makes_progress _ referenceMicroCdr timetable
    (fun _ => 0) noCallbacks (by decide) (by decide) 251 unacknowledged 250
  refine ⟨by decide +kernel, ?_⟩
  rw [listenFor250, hwaits]
  exact hwithin

/-- A call that may take no time asks for no wait, and as much remains as before. -/
theorem listening_for_no_time :
    (@listenMessageReliablyIn _ referenceMicroCdr timetable (fun _ => 0) noCallbacks 1
        unacknowledged 0).2.waits = [(([], 0), 0)] ∧
      timetable.silent (([], 0), 0) = true ∧
      ¬ timetable.remaining (listenBudget 0) [(([], 0), 0)] 1 <
        timetable.remaining (listenBudget 0) [(([], 0), 0)] 0 := by
  refine ⟨by decide +kernel, by decide +kernel, by decide +kernel⟩

end XrceClient
