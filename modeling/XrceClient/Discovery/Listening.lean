import XrceClient.Base.Fuel
import XrceClient.Discovery.InfoMessages
import XrceClient.Session.Deadlines

/-!
# Listening for agents (`discovery.c`)

An attempt sends its requests and listens for a period. What is left of the period is reckoned anew
behind each datagram, from the time that has passed since the requests: that time is taken off again
with every datagram.

- `Network`: the clock, what was sent, and what comes in when; waiting takes time and nothing else.
- `discoveryAgents`: the attempts; `readInfoDatagram` is what they do with a datagram.
- `listenFor_silent` / `listenFor_short`: with nothing coming in, and with less to listen than the
  rest of the period.
- `steady_listenFor`: more fuel does not change what a loop comes to.
- `listensFor_iff`: an attempt listens for its period exactly if at most one datagram comes within.
-/

namespace XrceClient

/-! ## The network -/

/-- A datagram, and the time at which it comes in. -/
structure Arrival (δ : Type) where
  time : Int
  datagram : δ

/-- The clock in milliseconds, what was sent, and the datagrams that are still to come in. -/
structure Network (δ : Type) where
  now : Int
  sent : List (Int × TransportLocator)
  arriving : List (Arrival δ)

variable {δ κ : Type}

/-- `uxr_udp_send_datagram_to`. -/
def Network.sendDatagramTo (network : Network δ) (locator : TransportLocator) : Network δ :=
  { network with sent := network.sent ++ [(network.now, locator)] }

/-- `uxr_udp_recv_datagram`: a datagram that comes in before the time is over, as soon as it is
there; or nothing, when the time is over. -/
def Network.recvDatagram (network : Network δ) (timeout : Int) : Option δ × Network δ :=
  match network.arriving with
  | arrival :: arriving =>
    if arrival.time ≤ network.now + timeout then
      (some arrival.datagram,
        { network with now := max network.now arrival.time, arriving := arriving })
    else (none, { network with now := network.now + timeout })
  | [] => (none, { network with now := network.now + timeout })

/-! ## Listening -/

/-- The network, and what is kept from one datagram to the next. -/
structure Listener (κ δ : Type) where
  network : Network δ
  kept : κ

/-- `listen_info_message` (discovery.c:117–139), with what is done with a datagram. -/
def listenInfoMessage (reads : κ → δ → Bool × κ) (listener : Listener κ δ) (poll : Int) :
    Bool × Listener κ δ :=
  let (received, network) := listener.network.recvDatagram poll
  match received with
  | some datagram =>
    let (isSucceed, kept) := reads listener.kept datagram
    (isSucceed, { network, kept })
  | none => (false, { listener with network })

/-- The listening loop of an attempt (discovery.c:86–90), with what is left of the period: whether
an agent was found. -/
def listenFor (reads : κ → δ → Bool × κ) (timestamp : Int) :
    Nat → Int → Listener κ δ → Option (Bool × Listener κ δ)
  | 0, _, _ => none
  | fuel + 1, poll, listener =>
    if 0 < poll then
      let (isAgentFound, listener) := listenInfoMessage reads listener poll
      let poll := poll - toInt (listener.network.now - timestamp)
      if isAgentFound then some (true, listener)
      else listenFor reads timestamp fuel poll listener
    else some (false, listener)

/-- One attempt (discovery.c:78–90): the requests, and listening. -/
def discoveryAttempt (reads : κ → δ → Bool × κ) (agentList : List TransportLocator) (period : Int)
    (fuel : Nat) (listener : Listener κ δ) : Option (Bool × Listener κ δ) :=
  let network := agentList.foldl Network.sendDatagramTo listener.network
  listenFor reads network.now fuel period { listener with network }

/-- The attempts of `uxr_discovery_agents` (discovery.c:55–95), whose transport was opened. -/
def discoveryAgents (reads : κ → δ → Bool × κ) (agentList : List TransportLocator) (period : Int)
    (fuel : Nat) : Nat → Listener κ δ → Option (Bool × Listener κ δ)
  | 0, listener => some (false, listener)
  | attempts + 1, listener => do
    let (isAgentFound, listener) ← discoveryAttempt reads agentList period fuel listener
    if isAgentFound then some (true, listener)
    else discoveryAgents reads agentList period fuel attempts listener

/-! ## What is done with a datagram -/

/-- `read_info_headers` (discovery.c:141–149). -/
def readInfoHeaders : Program ReadOp Bool := do
  let _ ← readBuffer deserializeMessageHeader
  let (found, _) ← readSubmessageHeader { id := 0, length := 0, flags := 0 }
  return found

/-- The calls of the callback so far, and what is in the memory of the payloads to come. -/
structure InfoReader where
  calls : List LocatorMemory
  stack : Nat → InfoMemory

/-- What `listen_info_message` does with a datagram (discovery.c:129–135). -/
def readInfoDatagram [MicroCdr] (profile : BuildProfile)
    (overlay : ObjectVariant → List UInt8 → List UInt8) (onAgent : OnAgentFound)
    (reader : InfoReader) (msg : Datagram) : Bool × InfoReader :=
  let (found, m, c) :=
    plainEnv.read readInfoHeaders msg.memory (ucdrInitBuffer msg.buffer msg.length)
  if found then
    let (calls, isSucceed) :=
      readInfoMessage Device.plain profile overlay onAgent (reader.stack 0) reader.calls m c.ub
    (isSucceed, { calls, stack := fun n => reader.stack (n + 1) })
  else (false, reader)

/-! ## Steps of listening -/

/-- None of the datagrams is accepted, one after the other. -/
def Unaccepted (reads : κ → δ → Bool × κ) : κ → List (Arrival δ) → Prop
  | _, [] => True
  | kept, arrival :: arriving =>
    (reads kept arrival.datagram).1 = false ∧
      Unaccepted reads (reads kept arrival.datagram).2 arriving

/-- What is kept behind a number of datagrams. -/
def keptBehind (reads : κ → δ → Bool × κ) (kept : κ) (arriving : List (Arrival δ)) : κ :=
  arriving.foldl (fun kept arrival => (reads kept arrival.datagram).2) kept

/-- The datagrams come in in their order. -/
def InOrder (arriving : List (Arrival δ)) : Prop :=
  arriving.Pairwise fun earlier later => earlier.time ≤ later.time

/-- How many of the datagrams come in behind one time and before another. -/
def arrivalsWithin (start stop : Int) (arriving : List (Arrival δ)) : Nat :=
  arriving.countP fun arrival => start < arrival.time ∧ arrival.time < stop

section

variable {reads : κ → δ → Bool × κ} {timestamp poll : Int} {fuel : Nat}
  {listener : Listener κ δ}

theorem recvDatagram_some {network : Network δ} {arrival : Arrival δ} {arriving : List (Arrival δ)}
    (h : network.arriving = arrival :: arriving) (hin : arrival.time ≤ network.now + poll) :
    network.recvDatagram poll =
      (some arrival.datagram,
        { network with now := max network.now arrival.time, arriving := arriving }) := by
  rw [Network.recvDatagram, h]
  exact if_pos hin

theorem recvDatagram_none {network : Network δ}
    (h : ∀ arrival ∈ network.arriving.head?, network.now + poll < arrival.time) :
    network.recvDatagram poll = (none, { network with now := network.now + poll }) := by
  rw [Network.recvDatagram]
  cases harriving : network.arriving with
  | nil => rfl
  | cons arrival arriving =>
    rw [harriving] at h
    exact if_neg (Int.not_le.mpr (h arrival rfl))

/-- Nothing is left of the period. -/
theorem listenFor_over (h : poll ≤ 0) :
    listenFor reads timestamp (fuel + 1) poll listener = some (false, listener) := by
  rw [listenFor, if_neg (Int.not_lt.mpr h)]

/-- No datagram comes in while there is something left of the period. -/
theorem listenFor_silent (hpoll : 0 < poll)
    (h : ∀ arrival ∈ listener.network.arriving.head?,
      listener.network.now + poll < arrival.time) :
    listenFor reads timestamp (fuel + 1) poll listener =
      listenFor reads timestamp fuel
        (poll - toInt (listener.network.now + poll - timestamp))
        { listener with
          network := { listener.network with now := listener.network.now + poll } } := by
  rw [listenFor, if_pos hpoll, listenInfoMessage, recvDatagram_none h]
  rfl

/-- A datagram comes in. -/
theorem listenFor_received (hpoll : 0 < poll) {arrival : Arrival δ} {arriving : List (Arrival δ)}
    (h : listener.network.arriving = arrival :: arriving)
    (hin : arrival.time ≤ listener.network.now + poll) :
    listenFor reads timestamp (fuel + 1) poll listener =
      if (reads listener.kept arrival.datagram).1 then
        some (true,
          { network :=
              { listener.network with
                now := max listener.network.now arrival.time
                arriving := arriving }
            kept := (reads listener.kept arrival.datagram).2 })
      else
        listenFor reads timestamp fuel
          (poll - toInt (max listener.network.now arrival.time - timestamp))
          { network :=
              { listener.network with
                now := max listener.network.now arrival.time
                arriving := arriving }
            kept := (reads listener.kept arrival.datagram).2 } := by
  rw [listenFor, if_pos hpoll, listenInfoMessage, recvDatagram_some h hin]

/-! ## Listening for what is left of the period -/

/-- How the listener is behind a datagram. -/
structure Listener.Behind (reads : κ → δ → Bool × κ) (listener : Listener κ δ)
    (arrival : Arrival δ) (arriving : List (Arrival δ)) (listener' : Listener κ δ) : Prop where
  now : listener'.network.now = max listener.network.now arrival.time
  arriving : listener'.network.arriving = arriving
  kept : listener'.kept = (reads listener.kept arrival.datagram).2

/-- A datagram that is not accepted leaves the rest of the period, less the time that has passed. -/
theorem listenFor_rejected (hpoll : 0 < poll) {arrival : Arrival δ} {arriving : List (Arrival δ)}
    (h : listener.network.arriving = arrival :: arriving)
    (hin : arrival.time ≤ listener.network.now + poll)
    (hrejected : (reads listener.kept arrival.datagram).1 = false)
    (hsince : timestamp ≤ listener.network.now)
    (hlimit : listener.network.now + poll < timestamp + 2 ^ 31) :
    ∃ listener', listener.Behind reads arrival arriving listener' ∧
      ∀ fuel, listenFor reads timestamp (fuel + 1) poll listener =
        listenFor reads timestamp fuel (poll - (listener'.network.now - timestamp)) listener' := by
  refine ⟨{
    network :=
      { listener.network with now := max listener.network.now arrival.time, arriving := arriving }
    kept := (reads listener.kept arrival.datagram).2 }, ⟨rfl, rfl, rfl⟩, fun fuel => ?_⟩
  rw [listenFor_received hpoll h hin, if_neg (by rw [hrejected]; exact Bool.false_ne_true),
    toInt_eq (by omega) (by omega)]

/-- With less than the rest of the period to listen, listening ends before the period does. -/
theorem listenFor_short {period : Int} (hperiod : period < 2 ^ 31)
    (hunaccepted : Unaccepted reads listener.kept listener.network.arriving)
    (hsince : timestamp ≤ listener.network.now)
    (hbefore : listener.network.now < timestamp + period) (hless : poll < period)
    (hshort : listener.network.now + poll < timestamp + period)
    (hfuel : listener.network.arriving.length + 2 ≤ fuel) :
    ∃ listener', listenFor reads timestamp fuel poll listener = some (false, listener') ∧
      listener'.network.now < timestamp + period := by
  generalize harriving : listener.network.arriving = arriving at hunaccepted hfuel
  induction arriving generalizing listener poll fuel with
  | nil =>
    obtain ⟨fuel, rfl⟩ : ∃ n, fuel = n + 2 := ⟨fuel - 2, by simp at hfuel; omega⟩
    by_cases hpoll : 0 < poll
    · -- the time is over, and nothing is left of the period
      rw [listenFor_silent hpoll (by rw [harriving]; nofun), toInt_eq (by omega) (by omega),
        listenFor_over (by omega)]
      exact ⟨_, rfl, hshort⟩
    · rw [listenFor_over (by omega)]
      exact ⟨_, rfl, hbefore⟩
  | cons arrival arriving ih =>
    rw [List.length_cons] at hfuel
    obtain ⟨fuel, rfl⟩ : ∃ n, fuel = n + 2 := ⟨fuel - 2, by omega⟩
    by_cases hpoll : 0 < poll
    · by_cases hin : arrival.time ≤ listener.network.now + poll
      · obtain ⟨listener', ⟨hnow, harriving', hkept⟩, hlisten⟩ :=
          listenFor_rejected hpoll harriving hin hunaccepted.1 hsince (by omega)
        rw [hlisten]
        exact ih (by omega) (by omega) (by omega) (by omega) harriving' (hkept ▸ hunaccepted.2)
          (by omega)
      · have hlate : ∀ next ∈ listener.network.arriving.head?,
            listener.network.now + poll < next.time := by
          rw [harriving]
          rintro next ⟨⟩
          exact Int.not_le.mp hin
        rw [listenFor_silent hpoll hlate, toInt_eq (by omega) (by omega),
          listenFor_over (by omega)]
        exact ⟨_, rfl, hshort⟩
    · rw [listenFor_over (by omega)]
      exact ⟨_, rfl, hbefore⟩

/-- With the whole rest of the period to listen, and no datagram before it is over, listening ends
with the period. -/
theorem listenFor_last {period : Int} (hperiod : period < 2 ^ 31)
    (hunaccepted : Unaccepted reads listener.kept listener.network.arriving)
    (hlate : ∀ arrival ∈ listener.network.arriving.head?, timestamp + period ≤ arrival.time)
    (hsince : timestamp ≤ listener.network.now) (hpoll : 0 < poll)
    (hwhole : listener.network.now + poll = timestamp + period) :
    ∃ listener', listenFor reads timestamp (fuel + 2) poll listener = some (false, listener') ∧
      listener'.network.now = timestamp + period := by
  cases harriving : listener.network.arriving with
  | nil =>
    rw [listenFor_silent hpoll (by rw [harriving]; nofun), toInt_eq (by omega) (by omega),
      listenFor_over (by omega)]
    exact ⟨_, rfl, hwhole⟩
  | cons arrival arriving =>
    rw [harriving] at hunaccepted hlate
    have htime := hlate arrival rfl
    by_cases hin : arrival.time ≤ listener.network.now + poll
    · -- it comes in as the period is over
      obtain ⟨listener', ⟨hnow, -, -⟩, hlisten⟩ :=
        listenFor_rejected hpoll harriving hin hunaccepted.1 hsince (by omega)
      rw [hlisten, listenFor_over (by omega)]
      exact ⟨_, rfl, by omega⟩
    · have hsilent : ∀ next ∈ listener.network.arriving.head?,
          listener.network.now + poll < next.time := by
        rw [harriving]
        rintro next ⟨⟩
        exact Int.not_le.mp hin
      rw [listenFor_silent hpoll hsilent, toInt_eq (by omega) (by omega),
        listenFor_over (by omega)]
      exact ⟨_, rfl, hwhole⟩

/-- Datagrams that were there when the requests were sent take nothing off. -/
theorem listenFor_early {period : Int} (hpos : 0 < period) (hperiod : period < 2 ^ 31)
    {early late : List (Arrival δ)} (harriving : listener.network.arriving = early ++ late)
    (hunaccepted : Unaccepted reads listener.kept early)
    (hearly : ∀ arrival ∈ early, arrival.time ≤ listener.network.now) :
    ∃ listener', listener'.network.now = listener.network.now ∧
      listener'.network.arriving = late ∧
      listener'.kept = keptBehind reads listener.kept early ∧
      ∀ fuel, listenFor reads listener.network.now (fuel + early.length) period listener =
        listenFor reads listener.network.now fuel period listener' := by
  induction early generalizing listener with
  | nil => exact ⟨listener, rfl, harriving, rfl, fun _ => rfl⟩
  | cons arrival early ih =>
    have htime := hearly arrival List.mem_cons_self
    obtain ⟨listener₁, ⟨hnow₁, harriving₁, hkept₁⟩, hlisten₁⟩ :=
      listenFor_rejected hpos harriving (by omega) hunaccepted.1 (Int.le_refl _) (by omega)
    have hsame : listener₁.network.now = listener.network.now := by omega
    obtain ⟨listener', hnow, harriving', hkept, hlisten⟩ := ih harriving₁ (hkept₁ ▸ hunaccepted.2)
      fun next hnext => hsame ▸ hearly next (List.mem_cons_of_mem _ hnext)
    refine ⟨listener', hnow.trans hsame, harriving', ?_, fun fuel => ?_⟩
    · rw [hkept, hkept₁]
      rfl
    · rw [hsame, Int.sub_self, Int.sub_zero] at hlisten₁
      rw [hsame] at hlisten
      rw [List.length_cons, ← Nat.add_assoc, hlisten₁, hlisten]

/-! ## Whichever datagrams come in -/

theorem unaccepted_append {kept : κ} {before after : List (Arrival δ)} :
    Unaccepted reads kept (before ++ after) ↔
      Unaccepted reads kept before ∧ Unaccepted reads (keptBehind reads kept before) after := by
  induction before generalizing kept with
  | nil => exact ⟨fun h => ⟨trivial, h⟩, fun h => h.2⟩
  | cons arrival before ih =>
    have hnext := @ih (reads kept arrival.datagram).2
    constructor
    · rintro ⟨hfirst, hrest⟩
      exact ⟨⟨hfirst, (hnext.mp hrest).1⟩, (hnext.mp hrest).2⟩
    · rintro ⟨⟨hfirst, hbefore⟩, hafter⟩
      exact ⟨hfirst, hnext.mpr ⟨hbefore, hafter⟩⟩

/-- The datagrams in their order: those that were there at the start, and the others. -/
theorem inOrder_split {arriving : List (Arrival δ)} (h : InOrder arriving) (start : Int) :
    ∃ early late, arriving = early ++ late ∧ (∀ arrival ∈ early, arrival.time ≤ start) ∧
      (∀ arrival ∈ late, start < arrival.time) ∧ InOrder late := by
  induction arriving with
  | nil => exact ⟨[], [], rfl, nofun, nofun, .nil⟩
  | cons arrival arriving ih =>
    obtain ⟨hfirst, hrest⟩ := List.pairwise_cons.mp h
    by_cases htime : arrival.time ≤ start
    · obtain ⟨early, late, rfl, hearly, hlate, horder⟩ := ih hrest
      exact ⟨arrival :: early, late, rfl, List.forall_mem_cons.mpr ⟨htime, hearly⟩, hlate, horder⟩
    · refine ⟨[], arrival :: arriving, rfl, nofun, List.forall_mem_cons.mpr ⟨by omega, ?_⟩, h⟩
      intro next hnext
      have := hfirst next hnext
      omega

theorem arrivalsWithin_append (start stop : Int) (before after : List (Arrival δ)) :
    arrivalsWithin start stop (before ++ after) =
      arrivalsWithin start stop before + arrivalsWithin start stop after := List.countP_append

theorem arrivalsWithin_early {start stop : Int} {early : List (Arrival δ)}
    (h : ∀ arrival ∈ early, arrival.time ≤ start) : arrivalsWithin start stop early = 0 := by
  refine List.countP_eq_zero.mpr fun arrival hmem => ?_
  have := h arrival hmem
  simp
  omega

theorem arrivalsWithin_cons {start stop : Int} {arrival : Arrival δ} (hstart : start < arrival.time)
    (hstop : arrival.time < stop) (arriving : List (Arrival δ)) :
    arrivalsWithin start stop (arrival :: arriving) = arrivalsWithin start stop arriving + 1 := by
  refine List.countP_cons_of_pos ?_
  simp
  exact ⟨hstart, hstop⟩

/-- Where the first one comes too late, all do. -/
theorem arrivalsWithin_late {start stop : Int} {arrival : Arrival δ} {arriving : List (Arrival δ)}
    (h : InOrder (arrival :: arriving)) (hstop : stop ≤ arrival.time) :
    arrivalsWithin start stop (arrival :: arriving) = 0 := by
  refine List.countP_eq_zero.mpr fun next hmem => ?_
  have htime : arrival.time ≤ next.time := by
    rcases List.mem_cons.mp hmem with rfl | hmem
    · exact Int.le_refl _
    · exact (List.pairwise_cons.mp h).1 next hmem
  simp
  omega

/-! ## An attempt -/

theorem foldl_sendDatagramTo (agentList : List TransportLocator) (network : Network δ) :
    (agentList.foldl Network.sendDatagramTo network).now = network.now ∧
      (agentList.foldl Network.sendDatagramTo network).arriving = network.arriving := by
  induction agentList generalizing network with
  | nil => exact ⟨rfl, rfl⟩
  | cons locator agentList ih => exact ih (network.sendDatagramTo locator)

/-- Listening ends, whatever comes in. -/
theorem listenFor_ends {period : Int} (hperiod : period < 2 ^ 31) (hpoll : poll ≤ period)
    (hsince : timestamp ≤ listener.network.now)
    (hlimit : listener.network.now + poll ≤ timestamp + period)
    (hfuel : listener.network.arriving.length + 2 ≤ fuel) :
    ∃ result, listenFor reads timestamp fuel poll listener = some result := by
  generalize harriving : listener.network.arriving = arriving at hfuel
  induction arriving generalizing listener poll fuel with
  | nil =>
    obtain ⟨fuel, rfl⟩ : ∃ n, fuel = n + 2 := ⟨fuel - 2, by simp at hfuel; omega⟩
    by_cases hpos : 0 < poll
    · rw [listenFor_silent hpos (by rw [harriving]; nofun), toInt_eq (by omega) (by omega),
        listenFor_over (by omega)]
      exact ⟨_, rfl⟩
    · rw [listenFor_over (by omega)]
      exact ⟨_, rfl⟩
  | cons arrival arriving ih =>
    rw [List.length_cons] at hfuel
    obtain ⟨fuel, rfl⟩ : ∃ n, fuel = n + 2 := ⟨fuel - 2, by omega⟩
    by_cases hpos : 0 < poll
    · by_cases hin : arrival.time ≤ listener.network.now + poll
      · cases hread : (reads listener.kept arrival.datagram).1 with
        | true =>
          rw [listenFor_received hpos harriving hin, if_pos hread]
          exact ⟨_, rfl⟩
        | false =>
          obtain ⟨listener', ⟨hnow, harriving', -⟩, hlisten⟩ :=
            listenFor_rejected hpos harriving hin hread hsince (by omega)
          rw [hlisten]
          exact ih (by omega) (by omega) (by omega) harriving' (by omega)
      · have hsilent : ∀ next ∈ listener.network.arriving.head?,
            listener.network.now + poll < next.time := by
          rw [harriving]
          rintro next ⟨⟩
          exact Int.not_le.mp hin
        rw [listenFor_silent hpos hsilent, toInt_eq (by omega) (by omega),
          listenFor_over (by omega)]
        exact ⟨_, rfl⟩
    · rw [listenFor_over (by omega)]
      exact ⟨_, rfl⟩

end

/-- The attempt that begins here listens for its period: if it finds no agent it does not end before
the period does, and it finds an agent whose answer comes in within the period, in whichever place
among the other datagrams. -/
structure ListensFor (reads : κ → δ → Bool × κ) (agentList : List TransportLocator) (period : Int)
    (listener : Listener κ δ) : Prop where
  lasts : ∀ fuel listener',
    discoveryAttempt reads agentList period fuel listener = some (false, listener') →
      listener.network.now + period ≤ listener'.network.now
  reports : ∀ before answer after fuel isAgentFound listener',
    listener.network.arriving = before ++ after → InOrder (before ++ answer :: after) →
    answer.time < listener.network.now + period →
    (reads (keptBehind reads listener.kept before) answer.datagram).1 = true →
    discoveryAttempt reads agentList period fuel
        { listener with
          network := { listener.network with arriving := before ++ answer :: after } } =
      some (isAgentFound, listener') → isAgentFound = true

section

variable {reads : κ → δ → Bool × κ} {agentList : List TransportLocator} {period : Int}
  {listener : Listener κ δ}

/-- The listener behind its requests. -/
def Listener.requested (listener : Listener κ δ) (agentList : List TransportLocator) :
    Listener κ δ :=
  { listener with
    network :=
      { listener.network with
        sent := (agentList.foldl Network.sendDatagramTo listener.network).sent } }

/-- An attempt is listening behind its requests. -/
theorem discoveryAttempt_eq (fuel : Nat) (listener : Listener κ δ) :
    discoveryAttempt reads agentList period fuel listener =
      listenFor reads listener.network.now fuel period (listener.requested agentList) := by
  obtain ⟨hnow, harriving⟩ := foldl_sendDatagramTo agentList listener.network
  rw [discoveryAttempt, Listener.requested]
  dsimp only
  rw [hnow, ← harriving, ← hnow]

/-- More fuel does not change what a loop comes to. -/
theorem steady_listenFor (timestamp poll : Int) (listener : Listener κ δ) :
    Steady fun fuel => listenFor reads timestamp fuel poll listener := by
  intro fuel result h
  induction fuel generalizing poll listener with
  | zero => cases h
  | succ fuel ih =>
    dsimp only at h ih ⊢
    rw [listenFor] at h ⊢
    split at h
    · next hpoll =>
      rw [if_pos hpoll]
      dsimp only at h ⊢
      split at h
      · next hfound =>
        rw [if_pos hfound]
        exact h
      · next hnone =>
        rw [if_neg hnone]
        exact ih _ _ h
    · next hpoll =>
      rw [if_neg hpoll]
      exact h

/-- The datagrams that have come in by the time of the requests, and the listener behind them. -/
theorem listenFor_late (hpos : 0 < period) (hperiod : period < 2 ^ 31) {before rest : List (Arrival δ)}
    (harriving : listener.network.arriving = before ++ rest) (horder : InOrder before)
    (hunaccepted : Unaccepted reads listener.kept before) :
    ∃ early late listener₁, before = early ++ late ∧ InOrder late ∧
      (∀ arrival ∈ late, listener.network.now < arrival.time) ∧
      arrivalsWithin listener.network.now (listener.network.now + period) before =
        arrivalsWithin listener.network.now (listener.network.now + period) late ∧
      listener₁.network.now = listener.network.now ∧
      listener₁.network.arriving = late ++ rest ∧
      Unaccepted reads listener₁.kept late ∧
      keptBehind reads listener₁.kept late = keptBehind reads listener.kept before ∧
      ∀ fuel, listenFor reads listener.network.now (fuel + early.length) period listener =
        listenFor reads listener.network.now fuel period listener₁ := by
  obtain ⟨early, late, rfl, hearly, hlater, hlate⟩ := inOrder_split horder listener.network.now
  rw [List.append_assoc] at harriving
  rw [unaccepted_append] at hunaccepted
  obtain ⟨listener₁, hnow, harriving₁, hkept, hlisten⟩ :=
    listenFor_early hpos hperiod harriving hunaccepted.1 hearly
  refine ⟨early, late, listener₁, rfl, hlate, hlater, ?_, hnow, harriving₁, ?_, ?_, hlisten⟩
  · rw [arrivalsWithin_append, arrivalsWithin_early hearly, Nat.zero_add]
  · rw [hkept]
    exact hunaccepted.2
  · rw [hkept, keptBehind, keptBehind, keptBehind, List.foldl_append]

/-- With at most one datagram within the period, listening ends with the period. -/
theorem listenFor_lasts (hpos : 0 < period) (hperiod : period < 2 ^ 31)
    (horder : InOrder listener.network.arriving)
    (hunaccepted : Unaccepted reads listener.kept listener.network.arriving)
    (hcount : arrivalsWithin listener.network.now (listener.network.now + period)
      listener.network.arriving ≤ 1) :
    ∃ fuel listener', listenFor reads listener.network.now fuel period listener =
        some (false, listener') ∧
      listener'.network.now = listener.network.now + period := by
  obtain ⟨early, late, listener₁, -, hlate, hlater, hsame, hnow₁, harriving₁, hunaccepted₁, -, hfirst⟩ :=
    listenFor_late hpos hperiod (List.append_nil _).symm horder hunaccepted
  rw [List.append_nil] at harriving₁
  rw [hsame] at hcount
  by_cases hnone : ∀ arrival ∈ late.head?, listener.network.now + period ≤ arrival.time
  · obtain ⟨listener', hlisten, hnow⟩ := @listenFor_last δ κ reads listener.network.now period 0
      listener₁ period hperiod (harriving₁ ▸ hunaccepted₁) (harriving₁ ▸ hnone) (by omega) hpos
      (by omega)
    exact ⟨_, listener', (hfirst 2).trans hlisten, hnow⟩
  · cases late with
    | nil => exact absurd nofun hnone
    | cons arrival late =>
      have htime : arrival.time < listener.network.now + period := by
        by_contra hlate'
        refine hnone ?_
        rintro next ⟨⟩
        exact Int.not_lt.mp hlate'
      have hstart := hlater arrival List.mem_cons_self
      rw [arrivalsWithin_cons hstart htime] at hcount
      -- the one that comes in leaves the whole rest of the period, and no other one comes in
      have hnext : ∀ next ∈ late.head?, listener.network.now + period ≤ next.time := by
        cases late with
        | nil => nofun
        | cons next late =>
          rintro _ ⟨⟩
          by_contra hwithin
          rw [arrivalsWithin_cons (hlater next (by simp)) (by omega)] at hcount
          omega
      obtain ⟨listener₂, ⟨hnow₂, harriving₂, hkept₂⟩, hsecond⟩ :=
        @listenFor_rejected δ κ reads listener.network.now period listener₁ hpos arrival late
          harriving₁ (by omega) hunaccepted₁.1 (by omega) (by omega)
      obtain ⟨listener', hlisten, hnow⟩ := @listenFor_last δ κ reads listener.network.now
        (period - (listener₂.network.now - listener.network.now)) 0 listener₂ period hperiod
        (by rw [harriving₂, hkept₂]; exact hunaccepted₁.2) (harriving₂ ▸ hnext) (by omega)
        (by omega) (by omega)
      exact ⟨_, listener', (hfirst 3).trans ((hsecond 2).trans hlisten), hnow⟩

/-- With at most one datagram in front of it, an answer within the period is accepted. -/
theorem listenFor_reports (hpos : 0 < period) (hperiod : period < 2 ^ 31)
    {before after : List (Arrival δ)} {answer : Arrival δ}
    (harriving : listener.network.arriving = before ++ answer :: after)
    (horder : InOrder (before ++ answer :: after))
    (hunaccepted : Unaccepted reads listener.kept before)
    (haccepted : (reads (keptBehind reads listener.kept before) answer.datagram).1 = true)
    (htime : answer.time < listener.network.now + period)
    (hcount : arrivalsWithin listener.network.now (listener.network.now + period) before ≤ 1) :
    ∃ fuel listener', listenFor reads listener.network.now fuel period listener =
      some (true, listener') := by
  obtain ⟨hbefore, -, hfront⟩ := List.pairwise_append.mp horder
  obtain ⟨early, late, listener₁, rfl, hlate, hlater, hsame, hnow₁, harriving₁, hunaccepted₁, hkept₁,
    hfirst⟩ := listenFor_late hpos hperiod harriving hbefore hunaccepted
  rw [hsame] at hcount
  rw [← hkept₁] at haccepted
  have hwithin : ∀ next ∈ late,
      listener.network.now < next.time ∧ next.time < listener.network.now + period := by
    intro next hmem
    have := hfront next (List.mem_append_right _ hmem) answer List.mem_cons_self
    exact ⟨hlater next hmem, by omega⟩
  rcases late with _ | ⟨arrival, _ | ⟨next, late⟩⟩
  · have hanswer := @listenFor_received δ κ reads listener.network.now period 0 listener₁ hpos answer
      after harriving₁ (by omega)
    rw [if_pos (show (reads listener₁.kept answer.datagram).1 = true from haccepted)] at hanswer
    exact ⟨_, _, (hfirst 1).trans hanswer⟩
  · obtain ⟨hstart, hstop⟩ := hwithin arrival List.mem_cons_self
    obtain ⟨listener₂, ⟨hnow₂, harriving₂, hkept₂⟩, hsecond⟩ :=
      @listenFor_rejected δ κ reads listener.network.now period listener₁ hpos arrival _
        harriving₁ (by omega) hunaccepted₁.1 (by omega) (by omega)
    have hanswer := @listenFor_received δ κ reads listener.network.now
      (period - (listener₂.network.now - listener.network.now)) 0 listener₂ (by omega) answer after
      harriving₂ (by omega)
    rw [hkept₂, if_pos (show (reads (reads listener₁.kept arrival.datagram).2 answer.datagram).1 =
      true from haccepted)] at hanswer
    exact ⟨_, _, (hfirst 2).trans ((hsecond 1).trans hanswer)⟩
  · -- two datagrams within the period
    obtain ⟨hstart, hstop⟩ := hwithin arrival List.mem_cons_self
    obtain ⟨hstart', hstop'⟩ := hwithin next (by simp)
    rw [arrivalsWithin_cons hstart hstop, arrivalsWithin_cons hstart' hstop'] at hcount
    omega

/-- With two datagrams within the period, listening ends before the period does. -/
theorem listenFor_stops (hpos : 0 < period) (hperiod : period < 2 ^ 31)
    (horder : InOrder listener.network.arriving)
    (hunaccepted : Unaccepted reads listener.kept listener.network.arriving)
    (hcount : 1 < arrivalsWithin listener.network.now (listener.network.now + period)
      listener.network.arriving) :
    ∃ fuel listener', listenFor reads listener.network.now fuel period listener =
        some (false, listener') ∧
      listener'.network.now < listener.network.now + period := by
  obtain ⟨early, late, listener₁, -, hlate, hlater, hsame, hnow₁, harriving₁, hunaccepted₁, -, hfirst⟩ :=
    listenFor_late hpos hperiod (List.append_nil _).symm horder hunaccepted
  rw [List.append_nil] at harriving₁
  rw [hsame] at hcount
  -- two of the others come in before the period is over
  have hcomes {arrival : Arrival δ} {rest : List (Arrival δ)} (hrest : InOrder (arrival :: rest))
      (hsome : 0 < arrivalsWithin listener.network.now (listener.network.now + period)
        (arrival :: rest)) : arrival.time < listener.network.now + period := by
    by_contra hlate'
    rw [arrivalsWithin_late hrest (Int.not_lt.mp hlate')] at hsome
    omega
  rcases late with _ | ⟨arrival, _ | ⟨next, late⟩⟩
  · simp [arrivalsWithin] at hcount
  · have hle : arrivalsWithin listener.network.now (listener.network.now + period) [arrival] ≤ 1 :=
      List.countP_le_length
    omega
  · obtain ⟨hfront, hlate'⟩ := List.pairwise_cons.mp hlate
    have hstart := hlater arrival List.mem_cons_self
    have hstop := hcomes hlate (by omega)
    rw [arrivalsWithin_cons hstart hstop] at hcount
    have hstop' := hcomes hlate' (by omega)
    have hsorted := hfront next List.mem_cons_self
    obtain ⟨listener₂, ⟨hnow₂, harriving₂, hkept₂⟩, hsecond⟩ :=
      @listenFor_rejected δ κ reads listener.network.now period listener₁ hpos arrival _
        harriving₁ (by omega) hunaccepted₁.1 (by omega) (by omega)
    obtain ⟨listener₃, ⟨hnow₃, harriving₃, hkept₃⟩, hthird⟩ :=
      @listenFor_rejected δ κ reads listener.network.now
        (period - (listener₂.network.now - listener.network.now)) listener₂ (by omega) next late
        harriving₂ (by omega) (by rw [hkept₂]; exact hunaccepted₁.2.1) (by omega) (by omega)
    -- the time of the first one is taken off twice
    obtain ⟨listener', hlisten, hnow⟩ := @listenFor_short δ κ reads listener.network.now
      (period - (listener₂.network.now - listener.network.now) -
        (listener₃.network.now - listener.network.now)) (late.length + 2) listener₃ period hperiod
      (by rw [harriving₃, hkept₃, hkept₂]; exact hunaccepted₁.2.2) (by omega) (by omega) (by omega)
      (by omega) (by rw [harriving₃])
    exact ⟨_, listener',
      (hfirst (late.length + 4)).trans ((hsecond _).trans ((hthird _).trans hlisten)), hnow⟩

/-- An attempt ends, whatever comes in. -/
theorem discoveryAttempt_ends (hperiod : period < 2 ^ 31) (listener : Listener κ δ) :
    ∃ fuel result, discoveryAttempt reads agentList period fuel listener = some result := by
  refine ⟨listener.network.arriving.length + 2, ?_⟩
  rw [discoveryAttempt_eq]
  exact listenFor_ends hperiod (Int.le_refl _) (Int.le_refl _) (Int.le_refl _) (Nat.le_refl _)

/-- An attempt listens for its period exactly if at most one datagram comes in within it. -/
theorem listensFor_iff (hpos : 0 < period) (hperiod : period < 2 ^ 31)
    (horder : InOrder listener.network.arriving)
    (hunaccepted : Unaccepted reads listener.kept listener.network.arriving) :
    ListensFor reads agentList period listener ↔
      arrivalsWithin listener.network.now (listener.network.now + period)
        listener.network.arriving ≤ 1 := by
  constructor
  · intro h
    by_contra hmore
    obtain ⟨fuel, listener', hlisten, hnow⟩ := @listenFor_stops δ κ reads period
      (listener.requested agentList) hpos hperiod horder hunaccepted (Nat.not_le.mp hmore)
    have hlasts := h.lasts fuel listener' (by rw [discoveryAttempt_eq]; exact hlisten)
    exact absurd hlasts (Int.not_le.mpr hnow)
  · intro hcount
    refine ⟨fun fuel listener' hattempt => ?_, ?_⟩
    · rw [discoveryAttempt_eq] at hattempt
      obtain ⟨fuel', listener'', hlisten, hnow⟩ := @listenFor_lasts δ κ reads period
        (listener.requested agentList) hpos hperiod horder hunaccepted hcount
      cases (steady_listenFor _ _ _).unique hattempt hlisten
      exact Int.le_of_eq hnow.symm
    · intro before answer after fuel isAgentFound listener' harriving horder' htime haccepted hattempt
      rw [discoveryAttempt_eq] at hattempt
      rw [harriving, arrivalsWithin_append] at hcount
      rw [harriving, unaccepted_append] at hunaccepted
      obtain ⟨fuel', listener'', hlisten⟩ := @listenFor_reports δ κ reads period
        (Listener.requested { listener with
          network := { listener.network with arriving := before ++ answer :: after } } agentList)
        hpos hperiod before after answer rfl horder' hunaccepted.1 haccepted htime
        (Nat.le_trans (Nat.le_add_right _ _) hcount)
      cases (steady_listenFor _ _ _).unique hattempt hlisten
      rfl

/-! ## The attempts -/

/-- What a loop has used of the datagrams. -/
theorem listenFor_rest {timestamp poll : Int} {fuel : Nat} {isAgentFound : Bool}
    {listener' : Listener κ δ}
    (h : listenFor reads timestamp fuel poll listener = some (isAgentFound, listener')) :
    ∃ used, listener.network.arriving = used ++ listener'.network.arriving ∧
      listener'.kept = keptBehind reads listener.kept used := by
  induction fuel generalizing poll listener with
  | zero => cases h
  | succ fuel ih =>
    by_cases hpoll : 0 < poll
    · by_cases hsilent : ∀ arrival ∈ listener.network.arriving.head?,
          listener.network.now + poll < arrival.time
      · rw [listenFor_silent hpoll hsilent] at h
        have hrest := ih h
        exact hrest
      · cases harriving : listener.network.arriving with
        | nil =>
          rw [harriving] at hsilent
          exact absurd nofun hsilent
        | cons arrival arriving =>
          have hin : arrival.time ≤ listener.network.now + poll := by
            by_contra hlate
            refine hsilent ?_
            rw [harriving]
            rintro next ⟨⟩
            exact Int.not_le.mp hlate
          rw [listenFor_received hpoll harriving hin] at h
          split at h
          · cases h
            exact ⟨[arrival], rfl, rfl⟩
          · obtain ⟨used, hused, hkept⟩ := ih h
            exact ⟨arrival :: used, congrArg (arrival :: ·) hused, hkept⟩
    · rw [listenFor_over (Int.not_lt.mp hpoll)] at h
      cases h
      exact ⟨[], rfl, rfl⟩

/-- Behind attempts that have found nothing the datagrams are still unaccepted. -/
theorem discoveryAgents_rest {attempts fuel : Nat} {isAgentFound : Bool} {listener' : Listener κ δ}
    (horder : InOrder listener.network.arriving)
    (hunaccepted : Unaccepted reads listener.kept listener.network.arriving)
    (h : discoveryAgents reads agentList period fuel attempts listener =
      some (isAgentFound, listener')) :
    InOrder listener'.network.arriving ∧
      Unaccepted reads listener'.kept listener'.network.arriving := by
  induction attempts generalizing listener with
  | zero =>
    cases h
    exact ⟨horder, hunaccepted⟩
  | succ attempts ih =>
    rw [discoveryAgents] at h
    cases hattempt : discoveryAttempt reads agentList period fuel listener with
    | none =>
      rw [hattempt] at h
      cases h
    | some result =>
      obtain ⟨found, listener₁⟩ := result
      have hlistens := hattempt
      rw [discoveryAttempt_eq] at hlistens
      obtain ⟨used, hused, hkept⟩ := listenFor_rest hlistens
      change listener.network.arriving = _ at hused
      change _ = keptBehind reads listener.kept used at hkept
      rw [hused, unaccepted_append, ← hkept] at hunaccepted
      rw [hused] at horder
      have hrest : InOrder listener₁.network.arriving := (List.pairwise_append.mp horder).2.1
      simp only [hattempt, Option.bind_eq_bind, Option.bind_some] at h
      split at h
      · cases h
        exact ⟨hrest, hunaccepted.2⟩
      · exact ih hrest hunaccepted.2 h

/-- After any number of attempts that have found nothing, whatever datagrams come in that are not
accepted: the listening loop of the next attempt ends, and the attempt listens for its period exactly
if at most one of them comes in behind its requests and before the period is over. -/
theorem discovery_listens_iff (hpos : 0 < period) (hperiod : period < 2 ^ 31)
    (horder : InOrder listener.network.arriving)
    (hunaccepted : Unaccepted reads listener.kept listener.network.arriving)
    {attempts fuel : Nat} {listener' : Listener κ δ}
    (hattempts : discoveryAgents reads agentList period fuel attempts listener =
      some (false, listener')) :
    (∃ fuel result, discoveryAttempt reads agentList period fuel listener' = some result) ∧
      (ListensFor reads agentList period listener' ↔
        arrivalsWithin listener'.network.now (listener'.network.now + period)
          listener'.network.arriving ≤ 1) := by
  obtain ⟨horder', hunaccepted'⟩ := discoveryAgents_rest horder hunaccepted hattempts
  exact ⟨discoveryAttempt_ends hperiod listener', listensFor_iff hpos hperiod horder' hunaccepted'⟩

end

/-- A datagram without room for its headers. -/
def emptyDatagram : Datagram := ⟨fun _ => 0, 0, 1⟩

/-- Datagrams 3 and 4 milliseconds behind the requests. -/
def twoArrivals : List (Arrival Datagram) := [⟨3, emptyDatagram⟩, ⟨4, emptyDatagram⟩]

/-- The reader of INFO messages, for a callback that wants no agent. -/
def unwilling : InfoReader → Datagram → Bool × InfoReader :=
  @readInfoDatagram referenceMicroCdr ⟨false, none⟩ (fun _ version => version) fun _ _ => false

/-- No call so far, and zeros on the stack. -/
def freshReader : InfoReader := ⟨[], fun _ => ⟨[0, 0], rfl, 0, fun _ => ⟨.other 0, 0⟩⟩⟩

/-- For a period of 10 milliseconds the client listens for 7. -/
theorem discovery_stops_twoArrivals :
    ¬ ListensFor unwilling [] 10 { network := ⟨0, [], twoArrivals⟩, kept := freshReader } := by
  intro h
  have hends := h.lasts 4 { network := ⟨7, [], []⟩, kept := freshReader } rfl
  exact absurd (show (0 : Int) + 10 ≤ 7 from hends) (by decide)

/-- With one datagram it listens for all of them. -/
theorem discovery_listens_oneArrival :
    ListensFor unwilling [] 10
      { network := ⟨0, [], [⟨3, emptyDatagram⟩]⟩, kept := freshReader } :=
  (@discovery_listens_iff Datagram InfoReader unwilling [] 10
    { network := ⟨0, [], [⟨3, emptyDatagram⟩]⟩, kept := freshReader } (by decide) (by decide)
    (List.pairwise_singleton _ _) ⟨rfl, trivial⟩ 0 0 _ rfl).2.mpr (by decide)

end XrceClient
