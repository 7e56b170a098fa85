import Mathlib.Logic.Relation
import XrceClient.Session.Reading

/-!
# Reception ends

`check_last_fragment` walks the ring behind `lastHandled` as long as it finds
intermediate fragments, and nothing in it counts the slots.

- `Waiting`: a slot over which the walk goes on. `checkLastFragmentFrom_eq_none_iff`:
  the walk is still going on after `fuel` slots exactly when these are all waiting.
- `AllWaiting`: the ring is full of intermediate fragments.
- `Admits`: putting a message into its slot does not fill the ring with them.
- `reception_returns_iff`: along runs, a message is received exactly when it is
  admitted, and otherwise reception never returns.
-/

namespace XrceClient

open ByteMemory InputReliableStream

/-- The slot of a number holds an intermediate fragment. -/
def Waiting (stream : InputReliableStream) (seqNum : SeqNum) : Prop :=
  getReliableBufferSize stream.base seqNum ≠ 0 ∧
    stream.fragmentationInfo seqNum = .intermediateFragment

instance (stream : InputReliableStream) (seqNum : SeqNum) : Decidable (Waiting stream seqNum) :=
  inferInstanceAs (Decidable (_ ∧ _))

/-- Every slot of the ring holds an intermediate fragment. -/
def AllWaiting (stream : InputReliableStream) : Prop := ∀ seqNum, Waiting stream seqNum

/-! ## The walk -/

section

variable {stream : InputReliableStream}

theorem waiting_congr {p q : SeqNum} (h : stream.base.slot p = stream.base.slot q)
    (hp : Waiting stream p) : Waiting stream q := by
  have hsize := ReliableStream.getReliableBufferSize_congr h
  have hbuffer : getReliableBuffer stream.base p = getReliableBuffer stream.base q := by
    rw [ReliableStream.getReliableBuffer_eq, h, ReliableStream.getReliableBuffer_eq]
  obtain ⟨hne, hinfo⟩ := hp
  rw [fragmentationInfo, hbuffer] at hinfo
  exact ⟨hsize ▸ hne, hinfo⟩

/-- One slot of the walk. -/
theorem checkLastFragmentFrom_succ_eq_none_iff (fuel : Nat) (q : SeqNum) :
    checkLastFragmentFrom stream (fuel + 1) q = none ↔
      Waiting stream (q + 1) ∧ checkLastFragmentFrom stream fuel (q + 1) = none := by
  rw [checkLastFragmentFrom, seqNumAdd_eq, Waiting]
  split
  · next hne =>
    split
    · next hinfo => simp [hinfo]
    · next hinfo => simp [hinfo, hne]
    · next hinfo => simp [hinfo]
  · next hne => simp [hne]

/-- The walk is still going on after `fuel` slots exactly when they are all waiting. -/
theorem checkLastFragmentFrom_eq_none_iff (fuel : Nat) (q : SeqNum) :
    checkLastFragmentFrom stream fuel q = none ↔
      ∀ i, i < fuel → Waiting stream (q + UInt16.ofNat (i + 1)) := by
  induction fuel generalizing q with
  | zero => simp [checkLastFragmentFrom]
  | succ fuel ih =>
    rw [checkLastFragmentFrom_succ_eq_none_iff, ih]
    have hshift (i : Nat) : q + 1 + UInt16.ofNat (i + 1) = q + UInt16.ofNat (i + 1 + 1) := by
      rw [UInt16.add_assoc, ← UInt16.ofNat_one, Serial.ofNat_add_ofNat, Nat.add_comm 1]
    constructor
    · rintro ⟨hfirst, hrest⟩ i hi
      cases i with
      | zero => exact hfirst
      | succ i => exact hshift i ▸ hrest i (by omega)
    · intro h
      refine ⟨h 0 (Nat.succ_pos fuel), fun i hi => ?_⟩
      exact (hshift i).symm ▸ h (i + 1) (by omega)

/-- A turn of the ring visits every slot. -/
theorem exists_slot_ahead (hdvd : stream.base.history.toNat ∣ 65536)
    (hpos : 0 < stream.base.history.toNat) (q p : SeqNum) :
    ∃ i, i < stream.base.history.toNat ∧
      stream.base.slot (q + UInt16.ofNat (i + 1)) = stream.base.slot p := by
  -- the distance from the number behind `q` to `p`, modulo the ring
  refine ⟨Serial.dist (q + 1) p % stream.base.history.toNat, Nat.mod_lt _ hpos, ?_⟩
  have hd := Serial.add_dist (q + 1) p
  generalize Serial.dist (q + 1) p = d at hd ⊢
  have hsum (i : Nat) : q + UInt16.ofNat (i + 1) = q + 1 + UInt16.ofNat i := by
    rw [UInt16.add_assoc, ← UInt16.ofNat_one, Serial.ofNat_add_ofNat, Nat.add_comm 1]
  rw [ReliableStream.slot, ReliableStream.slot, ← hd, hsum, Serial.toNat_add_ofNat,
    Serial.toNat_add_ofNat, Nat.mod_mod_of_dvd _ hdvd, Nat.mod_mod_of_dvd _ hdvd,
    Nat.add_mod_mod]

/-- A turn of the ring is enough for the walk, or it never ends. -/
theorem checkLastFragment_eq_none_iff (hdvd : stream.base.history.toNat ∣ 65536)
    (hpos : 0 < stream.base.history.toNat) :
    checkLastFragment stream.base.history.toNat stream = none ↔ AllWaiting stream := by
  rw [checkLastFragment, checkLastFragmentFrom_eq_none_iff]
  constructor
  · intro h p
    obtain ⟨i, hi, hslot⟩ := exists_slot_ahead hdvd hpos stream.lastHandled p
    exact waiting_congr hslot (h i hi)
  · intro h i _
    exact h _

theorem checkLastFragment_of_allWaiting (h : AllWaiting stream) (fuel : Nat) :
    checkLastFragment fuel stream = none :=
  (checkLastFragmentFrom_eq_none_iff fuel stream.lastHandled).mpr fun _ _ => h _

/-- The walk depends on the ring and on where it starts. -/
theorem allWaiting_announce (seqNum : SeqNum) :
    AllWaiting (stream.announce seqNum) ↔ AllWaiting stream := by
  rw [announce]
  split <;> rfl

/-- An emptied slot stops the walk. -/
theorem not_allWaiting_of_empty {seqNum : SeqNum}
    (h : getReliableBufferSize stream.base seqNum = 0) : ¬ AllWaiting stream :=
  fun hall => (hall seqNum).1 h

end

/-! ## One reception -/

namespace InputReliableStream

/-- The message is copied to its slot. -/
def Stores (stream : InputReliableStream) (seqNum : SeqNum) (msg : Datagram) : Prop :=
  stream.accepts seqNum = true ∧
    ¬ (stream.onGetFragmentationInfo msg.memory msg.buffer = .noFragmented ∧
      seqNum = seqNumAdd stream.lastHandled 1) ∧
    getReliableBufferSize stream.base seqNum = 0

instance (stream : InputReliableStream) (seqNum : SeqNum) (msg : Datagram) :
    Decidable (stream.Stores seqNum msg) :=
  inferInstanceAs (Decidable (_ ∧ _))

/-- The ring is not full of intermediate fragments once the message is in it. -/
def Admits (stream : InputReliableStream) (seqNum : SeqNum) (msg : Datagram) : Prop :=
  stream.Stores seqNum msg → ¬ AllWaiting (stream.store seqNum msg)

end InputReliableStream

section

variable {stream : InputReliableStream} {seqNum : SeqNum} {msg : Datagram} {messageStored : Bool}

/-- A message that is not stored leaves the ring as it was. -/
theorem receiveReliableMessage_of_not_stores (h : ¬ stream.Stores seqNum msg) (fuel : Nat) :
    ∃ r, receiveReliableMessage fuel stream seqNum msg messageStored = some r ∧
      (AllWaiting r.stream ↔ AllWaiting stream) := by
  rw [receiveReliableMessage]
  split
  · next haccepts =>
    dsimp only
    split
    · exact ⟨_, rfl, allWaiting_announce _⟩
    · next hplain =>
      rw [if_neg fun hempty => h ⟨haccepts, hplain, hempty⟩]
      exact ⟨_, rfl, allWaiting_announce _⟩
  · exact ⟨_, rfl, allWaiting_announce _⟩

/-- A message that is stored is searched for the end of a fragmented message, unless
it is a whole one. -/
theorem receiveReliableMessage_of_stores (h : stream.Stores seqNum msg) (fuel : Nat) :
    receiveReliableMessage fuel stream seqNum msg messageStored =
      if stream.onGetFragmentationInfo msg.memory msg.buffer ≠ .noFragmented then
        (checkLastFragment fuel (stream.store seqNum msg)).map fun r =>
          ⟨r.1, (stream.store seqNum msg).announce seqNum, true⟩
      else
        some ⟨false, (stream.store seqNum msg).announce seqNum, true⟩ := by
  obtain ⟨haccepts, hplain, hempty⟩ := h
  rw [receiveReliableMessage, if_pos haccepts, if_neg hplain, if_pos hempty]

/-- The stream after a stored message. -/
theorem receiveReliableMessage_stored_stream (h : stream.Stores seqNum msg) {fuel : Nat}
    {r : Reception} (hr : receiveReliableMessage fuel stream seqNum msg messageStored = some r) :
    r.stream = (stream.store seqNum msg).announce seqNum := by
  rw [receiveReliableMessage_of_stores h] at hr
  split at hr
  · obtain ⟨_, _, rfl⟩ := Option.map_eq_some_iff.mp hr
    rfl
  · cases hr
    rfl

/-- Reception keeps the ring and the callback where they are. -/
theorem receiveReliableMessage_history {fuel : Nat} {r : Reception}
    (hr : receiveReliableMessage fuel stream seqNum msg messageStored = some r) :
    r.stream.base.history = stream.base.history := by
  have hannounce (s : InputReliableStream) : (s.announce seqNum).base = s.base := by
    rw [announce]
    split <;> rfl
  by_cases h : stream.Stores seqNum msg
  · rw [receiveReliableMessage_stored_stream h hr, hannounce]
    rfl
  · rw [receiveReliableMessage] at hr
    split at hr
    · next haccepts =>
      dsimp only at hr
      split at hr
      · cases hr
        rw [hannounce]
      · next hplain =>
        rw [if_neg fun hempty => h ⟨haccepts, hplain, hempty⟩] at hr
        cases hr
        rw [hannounce]
    · cases hr
      rw [hannounce]

variable [MicroCdr] {ub : UcdrBuffer} {fragmentOffset : Nat}

/-- With a full turn of fuel, the next message is looked for in vain exactly when the
ring is full of intermediate fragments. -/
theorem nextInputReliableBufferAvailable_eq_none_iff
    (hdvd : stream.base.history.toNat ∣ 65536) (hpos : 0 < stream.base.history.toNat) :
    nextInputReliableBufferAvailable stream.base.history.toNat stream ub fragmentOffset = none ↔
      AllWaiting stream := by
  rw [← checkLastFragment_eq_none_iff hdvd hpos, nextInputReliableBufferAvailable]
  dsimp only
  split
  · next hfilled =>
    split
    · next hplain =>
      -- a whole message in the first slot stops the walk
      have hstops : ¬ AllWaiting stream := fun hall => by
        have hwaits := (hall (seqNumAdd stream.lastHandled 1)).2
        rw [hplain] at hwaits
        cases hwaits
      rw [checkLastFragment_eq_none_iff hdvd hpos]
      simp [hstops]
    · exact Option.map_eq_none_iff
  · next hempty =>
    have hstops := not_allWaiting_of_empty (not_not.mp hempty)
    rw [checkLastFragment_eq_none_iff hdvd hpos]
    simp [hstops]

theorem nextInputReliableBufferAvailable_of_allWaiting (h : AllWaiting stream) (fuel : Nat) :
    nextInputReliableBufferAvailable fuel stream ub fragmentOffset = none := by
  obtain ⟨hfilled, hwaits⟩ := h (seqNumAdd stream.lastHandled 1)
  rw [nextInputReliableBufferAvailable]
  dsimp only
  rw [if_pos hfilled, hwaits, checkLastFragment_of_allWaiting h fuel]
  rfl

/-- Reception and the search for the next message both return, each visiting at most
`bound` slots. -/
def ReceptionReturns (bound : Nat) (stream : InputReliableStream) (seqNum : SeqNum)
    (msg : Datagram) (messageStored : Bool) (ub : UcdrBuffer) (fragmentOffset : Nat) : Prop :=
  ∃ r, receiveReliableMessage bound stream seqNum msg messageStored = some r ∧
    (nextInputReliableBufferAvailable bound r.stream ub fragmentOffset).isSome

theorem receptionReturns_of_admits (hdvd : stream.base.history.toNat ∣ 65536)
    (hpos : 0 < stream.base.history.toNat) (hring : ¬ AllWaiting stream)
    (h : stream.Admits seqNum msg) :
    ReceptionReturns stream.base.history.toNat stream seqNum msg messageStored ub
      fragmentOffset := by
  -- in both cases the ring is not full of intermediate fragments afterwards
  have hreceived : ∃ r, receiveReliableMessage stream.base.history.toNat stream seqNum msg
      messageStored = some r ∧ ¬ AllWaiting r.stream := by
    by_cases hstores : stream.Stores seqNum msg
    · have hafter := h hstores
      have hwalk : checkLastFragment stream.base.history.toNat (stream.store seqNum msg) ≠ none :=
        mt (@checkLastFragment_eq_none_iff (stream.store seqNum msg) hdvd hpos).mp hafter
      obtain ⟨last, hlast⟩ := Option.ne_none_iff_exists'.mp hwalk
      rw [receiveReliableMessage_of_stores hstores, hlast]
      split
      · exact ⟨_, rfl, mt (allWaiting_announce _).mp hafter⟩
      · exact ⟨_, rfl, mt (allWaiting_announce _).mp hafter⟩
    · obtain ⟨r, hr, hiff⟩ := receiveReliableMessage_of_not_stores hstores _
      exact ⟨r, hr, mt hiff.mp hring⟩
  obtain ⟨r, hr, hafter⟩ := hreceived
  have hhistory := receiveReliableMessage_history hr
  refine ⟨r, hr, ?_⟩
  rw [← hhistory] at hdvd hpos ⊢
  exact Option.isSome_iff_ne_none.mpr
    (mt (nextInputReliableBufferAvailable_eq_none_iff hdvd hpos).mp hafter)

theorem not_receptionReturns_of_not_admits (h : ¬ stream.Admits seqNum msg) (fuel : Nat) :
    ¬ ReceptionReturns fuel stream seqNum msg messageStored ub fragmentOffset := by
  obtain ⟨hstores, hall⟩ := Classical.not_imp.mp h
  have hafter : AllWaiting ((stream.store seqNum msg).announce seqNum) :=
    (allWaiting_announce seqNum).mpr (not_not.mp hall)
  rintro ⟨r, hr, hnext⟩
  rw [receiveReliableMessage_stored_stream hstores hr,
    nextInputReliableBufferAvailable_of_allWaiting hafter] at hnext
  cases hnext

end

/-! ## Runs -/

section

variable [MicroCdr]

/-- One step of a stream in use. -/
inductive InputStep : InputReliableStream → InputReliableStream → Prop
  | receive (stream : InputReliableStream) (seqNum : SeqNum) (msg : Datagram)
      (messageStored : Bool) (r : Reception) (hadmits : stream.Admits seqNum msg)
      (hr : receiveReliableMessage stream.base.history.toNat stream seqNum msg messageStored =
        some r) :
      InputStep stream r.stream
  | next (stream : InputReliableStream) (ub : UcdrBuffer) (fragmentOffset : Nat)
      (r : Bool × InputReliableStream × UcdrBuffer)
      (hr : nextInputReliableBufferAvailable stream.base.history.toNat stream ub fragmentOffset =
        some r) :
      InputStep stream r.2.1
  | chain (stream : InputReliableStream) (ub : UcdrBuffer) :
      InputStep stream (onFullInputBuffer stream ub).2.1
  | cleanup (stream : InputReliableStream) (cleanupFlag : Bool) :
      InputStep stream { stream with cleanupFlag }
  | heartbeat (stream : InputReliableStream) (first last : SeqNum) :
      InputStep stream (processHeartbeat stream first last)
  | reset (stream : InputReliableStream) :
      InputStep stream (resetInputReliableStream stream)

/-- The states of the runs from a stream's initialization on. -/
def InputReachable (buffer : Memory) (size : Nat) (history : UInt16)
    (onGetFragmentationInfo : Memory → Nat → FragmentationInfo) : InputReliableStream → Prop :=
  Relation.ReflTransGen InputStep
    (initInputReliableStream buffer size history onGetFragmentationInfo)

end

section

variable {stream : InputReliableStream}

/-- A slot that is emptied stops the walk. -/
theorem not_allWaiting_setSize (base : ReliableStream) (seqNum : SeqNum)
    (hbase : stream.base = setReliableBufferSize base seqNum 0) : ¬ AllWaiting stream := by
  refine @not_allWaiting_of_empty stream seqNum ?_
  rw [hbase]
  exact ReliableStream.getReliableBufferSize_set_same rfl 0

/-- The last slot that a reset empties. -/
theorem resetInputReliableStream_base (hpos : 0 < stream.base.history.toNat) :
    ∃ base : ReliableStream, base.history = stream.base.history ∧
      (resetInputReliableStream stream).base =
        setReliableBufferSize base (UInt16.ofNat (stream.base.history.toNat - 1)) 0 := by
  have hhistory (k : Nat) : ((List.range k).foldl
      (fun base i => setReliableBufferSize base (UInt16.ofNat i) 0) stream.base).history =
        stream.base.history := by
    induction k with
    | zero => rfl
    | succ k ih =>
      rw [List.range_succ, List.foldl_append]
      exact ih
  refine ⟨_, hhistory (stream.base.history.toNat - 1), ?_⟩
  rw [resetInputReliableStream]
  show (List.range stream.base.history.toNat).foldl _ _ = _
  rw [← Nat.sub_add_cancel hpos, List.range_succ, List.foldl_append, Nat.add_sub_cancel]
  rfl

/-- What runs keep: the ring, and that it is not full of intermediate fragments. -/
structure ReceptionInv (history : UInt16) (stream : InputReliableStream) : Prop where
  history : stream.base.history = history
  ring : ¬ AllWaiting stream

theorem receptionInv_reset {history : UInt16} (hpos : 0 < history.toNat)
    (h : stream.base.history = history) :
    ReceptionInv history (resetInputReliableStream stream) := by
  rw [← h] at hpos
  obtain ⟨base, hhistory, hbase⟩ := resetInputReliableStream_base hpos
  refine ⟨?_, not_allWaiting_setSize base _ hbase⟩
  rw [hbase]
  exact hhistory.trans h

variable [MicroCdr]

/-- One step keeps the invariant. -/
theorem inputStep_inv {stream' : InputReliableStream} {history : UInt16}
    (hpos : 0 < history.toNat) (h : ReceptionInv history stream)
    (hstep : InputStep stream stream') : ReceptionInv history stream' := by
  obtain ⟨hhistory, hring⟩ := h
  cases hstep with
  | receive seqNum msg messageStored r hadmits hr =>
    refine ⟨(receiveReliableMessage_history hr).trans hhistory, ?_⟩
    by_cases hstores : stream.Stores seqNum msg
    · rw [receiveReliableMessage_stored_stream hstores hr, allWaiting_announce]
      exact hadmits hstores
    · obtain ⟨r', hr', hiff⟩ := @receiveReliableMessage_of_not_stores stream seqNum msg messageStored
        hstores stream.base.history.toNat
      obtain rfl := Option.some.inj (hr.symm.trans hr')
      exact mt hiff.mp hring
  | next ub fragmentOffset r hr =>
    rw [nextInputReliableBufferAvailable] at hr
    dsimp only at hr
    split at hr
    · split at hr
      · cases hr
        exact ⟨hhistory, not_allWaiting_setSize _ _ rfl⟩
      · obtain ⟨⟨found, last⟩, -, rfl⟩ := Option.map_eq_some_iff.mp hr
        cases found with
        | true => exact ⟨hhistory, not_allWaiting_setSize _ _ rfl⟩
        | false => exact ⟨hhistory, hring⟩
    · cases hr
      exact ⟨hhistory, hring⟩
  | chain ub =>
    -- the slot that the buffer moves to is emptied, or the stream stays as it is
    have hstream : (onFullInputBuffer stream ub).2.1 = stream ∨ ∃ q,
        (onFullInputBuffer stream ub).2.1 =
          { stream with base := setReliableBufferSize stream.base q 0 } := by
      rw [onFullInputBuffer]
      dsimp only
      by_cases hflag : stream.cleanupFlag = true
      · right
        refine ⟨1 + getReliableBufferHistoryPosition stream.base ub.init, ?_⟩
        rw [if_pos hflag]
        split <;> rfl
      · left
        rw [if_neg hflag]
        split <;> rfl
    rcases hstream with hsame | ⟨q, hemptied⟩
    · rw [hsame]
      exact ⟨hhistory, hring⟩
    · rw [hemptied]
      exact ⟨hhistory, not_allWaiting_setSize _ _ rfl⟩
  | cleanup flag => exact ⟨hhistory, hring⟩
  | heartbeat first last =>
    refine ⟨?_, mt (allWaiting_announce last).mp hring⟩
    rw [← hhistory, processHeartbeat, announce]
    split <;> rfl
  | reset => exact receptionInv_reset hpos hhistory

theorem inputReachable_inv {buffer : Memory} {size : Nat} {history : UInt16}
    {onGetFragmentationInfo : Memory → Nat → FragmentationInfo}
    (hpos : 0 < history.toNat)
    (hrun : InputReachable buffer size history onGetFragmentationInfo stream) :
    ReceptionInv history stream := by
  induction hrun with
  | refl => exact receptionInv_reset hpos rfl
  | tail _ hstep ih => exact inputStep_inv hpos ih hstep

end

/-- After every run, reception of a further message returns, visiting at most `history`
slots, exactly when the message does not fill the ring with intermediate fragments; and
otherwise it never returns. -/
theorem reception_returns_iff [MicroCdr] {buffer : Memory} {size : Nat} {history : UInt16}
    {onGetFragmentationInfo : Memory → Nat → FragmentationInfo}
    (hhistory : ∃ k, history.toNat = 2 ^ k) {stream : InputReliableStream}
    (hrun : InputReachable buffer size history onGetFragmentationInfo stream)
    (seqNum : SeqNum) (msg : Datagram) (messageStored : Bool) (ub : UcdrBuffer)
    (fragmentOffset : Nat) :
    (ReceptionReturns history.toNat stream seqNum msg messageStored ub fragmentOffset ↔
        stream.Admits seqNum msg) ∧
      (¬ stream.Admits seqNum msg →
        ∀ fuel, ¬ ReceptionReturns fuel stream seqNum msg messageStored ub fragmentOffset) := by
  obtain ⟨k, hpow⟩ := hhistory
  have hk : k < 16 := by
    have hlt := history.toNat_lt
    rw [hpow] at hlt
    exact (Nat.pow_lt_pow_iff_right (by decide)).mp hlt
  have hdvd : history.toNat ∣ 65536 := by
    rw [hpow]
    exact pow_dvd_pow 2 (show k ≤ 16 by omega)
  have hpos : 0 < history.toNat := by
    rw [hpow]
    exact Nat.two_pow_pos k
  have hinv := inputReachable_inv hpos hrun
  refine ⟨⟨fun hreturns => ?_, fun hadmits => ?_⟩, not_receptionReturns_of_not_admits⟩
  · by_contra hnot
    exact not_receptionReturns_of_not_admits hnot _ hreturns
  · rw [← hinv.history] at hdvd hpos ⊢
    exact receptionReturns_of_admits hdvd hpos hinv.ring hadmits

/-- An intermediate fragment with four bytes of payload. -/
def intermediateFragment : Datagram where
  memory i := if i = 0 then SubmessageId.fragment.value else 0
  buffer := 0
  length := 8

/-- A stream with two slots, as the client creates it. -/
def twoInputSlots : InputReliableStream :=
  initInputReliableStream (fun _ => 0) 32 2 (@onGetFragmentationInfo referenceMicroCdr)

/-- The first slot holds an intermediate fragment. -/
def oneFragmentStored : InputReliableStream :=
  (twoInputSlots.store 0 intermediateFragment).announce 0

theorem admits_first_fragment : twoInputSlots.Admits 0 intermediateFragment :=
  fun _ hall => absurd (hall 1) (by decide +kernel)

theorem receive_intermediateFragment :
    receiveReliableMessage 2 twoInputSlots 0 intermediateFragment false =
      some ⟨false, oneFragmentStored, true⟩ := by
  rw [receiveReliableMessage_of_stores (by decide +kernel), if_pos (by decide +kernel),
    show checkLastFragment 2 (twoInputSlots.store 0 intermediateFragment) = some (false, 1) by
      decide +kernel]
  rfl

theorem reachable_oneFragmentStored : @InputReachable referenceMicroCdr (fun _ => 0) 32 2
    (@onGetFragmentationInfo referenceMicroCdr) oneFragmentStored :=
  .single (@InputStep.receive referenceMicroCdr twoInputSlots 0 intermediateFragment false
    ⟨false, oneFragmentStored, true⟩ admits_first_fragment receive_intermediateFragment)

/-- The second intermediate fragment fills the ring. -/
theorem not_admits_second_fragment : ¬ oneFragmentStored.Admits 1 intermediateFragment := by
  intro hadmits
  refine hadmits (by decide +kernel) fun q => ?_
  have hfirst : Waiting (oneFragmentStored.store 1 intermediateFragment) 0 := by decide +kernel
  have hsecond : Waiting (oneFragmentStored.store 1 intermediateFragment) 1 := by decide +kernel
  have hslot (p : SeqNum) :
      (oneFragmentStored.store 1 intermediateFragment).base.slot p = p.toNat % 2 := rfl
  rcases Nat.mod_two_eq_zero_or_one q.toNat with h | h
  · exact waiting_congr ((hslot 0).trans (h.symm.trans (hslot q).symm)) hfirst
  · exact waiting_congr ((hslot 1).trans (h.symm.trans (hslot q).symm)) hsecond

/-- The ring takes the first intermediate fragment; at the second one, reception does
not return. -/
theorem reception_returns_iff_twoInputSlots :
    @ReceptionReturns referenceMicroCdr 2 twoInputSlots 0 intermediateFragment false
        (@ucdrInitBuffer referenceMicroCdr 0 0) 4 ∧
      ∀ fuel, ¬ @ReceptionReturns referenceMicroCdr fuel oneFragmentStored 1
        intermediateFragment false (@ucdrInitBuffer referenceMicroCdr 0 0) 4 :=
  have hiff {stream : InputReliableStream} (hrun : @InputReachable referenceMicroCdr (fun _ => 0)
      32 2 (@onGetFragmentationInfo referenceMicroCdr) stream) (q : SeqNum) :=
    @reception_returns_iff referenceMicroCdr (fun _ => 0) 32 2 _ ⟨1, rfl⟩ stream hrun q
      intermediateFragment false (@ucdrInitBuffer referenceMicroCdr 0 0) 4
  ⟨(hiff .refl 0).1.mpr admits_first_fragment,
    (hiff reachable_oneFragmentStored 1).2 not_admits_second_fragment⟩

/-- A run after which an intermediate fragment fills the ring, and reception of it goes
round the ring for ever. -/
theorem full_ring_reception_never_returns :
    ∃ stream, @InputReachable referenceMicroCdr (fun _ => 0) 32 2
        (@onGetFragmentationInfo referenceMicroCdr) stream ∧
      ∀ fuel ub, ¬ @ReceptionReturns referenceMicroCdr fuel stream 1 intermediateFragment false
        ub 4 :=
  ⟨oneFragmentStored, reachable_oneFragmentStored, fun fuel _ =>
    @not_receptionReturns_of_not_admits _ _ _ _ referenceMicroCdr _ _ not_admits_second_fragment
      fuel⟩

end XrceClient
