import Mathlib.Data.Nat.Find
import XrceClient.Stream.ReceivedMessages

/-!
# What an ACKNACK says (`input_reliable_stream.c`)

`uxr_compute_acknack` reads what was received from the ring, for every number up to the last
announced one, however far that lies behind the ring and behind the 16 bits of its bitmap.

- `FirstMissing`: the least number behind the last handled one that was not received.
- `AcknackContent`: what the ACKNACK is to say.
- `sharer`: the number of the window whose slot another number shares.
- `AcknackClear`: the window is not full, and what is announced behind it or behind the bitmap does
  not disturb.
- `acknack_content_iff`: it is that condition, in every state of a run.
-/

namespace XrceClient

open ByteMemory InputReliableStream

/-- The least number behind the `handled`-th that was not received. -/
structure FirstMissing (handled : Nat) (received : Nat → Prop) (first : Nat) : Prop where
  behind : handled < first
  missing : ¬ received first
  least : ∀ n, handled < n → n < first → received n

/-- The shifts in the loop of `uxr_compute_acknack` (input_reliable_stream.c:169–177). -/
def acknackShifts (stream : InputReliableStream) : List Nat :=
  let from_ := getFirstUnacked stream
  let buffersToAck := seqNumSub stream.lastAnnounced (seqNumSub from_ 1)
  (List.range buffersToAck.toNat).filter fun i =>
    getReliableBufferSize stream.base (seqNumAdd from_ (UInt16.ofNat i)) = 0

/-- What an ACKNACK is to say: the first missing number, and for the 16 numbers from it on whether
they are announced and missing. No shift leaves its type, an `int`. -/
structure AcknackContent (shiftBeyond : Nat → UInt16) (stream : InputReliableStream)
    (received : Nat → Prop) (first : Nat) : Prop where
  number : (computeAcknack shiftBeyond stream).1 = UInt16.ofNat first
  bitmap : ∀ i, i < 16 → ((computeAcknack shiftBeyond stream).2.toNat.testBit i = true ↔
    seqNumCmp (UInt16.ofNat (first + i)) stream.lastAnnounced ≤ 0 ∧ ¬ received (first + i))
  shifts : ∀ i ∈ acknackShifts stream, i < 31

/-- The number of the window of `history` messages in whose slot the `n`-th message would lie. -/
def sharer (handled history n : Nat) : Nat := handled + 1 + (n - (handled + 1)) % history

/-- How many numbers are announced from the `first`-th on. -/
def announcedFrom (stream : InputReliableStream) (first : Nat) : Nat :=
  Serial.dist (UInt16.ofNat (first - 1)) stream.lastAnnounced

/-- A message of the window is missing; no number that is announced behind the window shares its
slot with one that was received, as far as the bitmap goes; and every one that is announced behind
the bits of an `int` does. -/
structure AcknackClear (stream : InputReliableStream) (handled : Nat) (received : Nat → Prop)
    (first : Nat) : Prop where
  missing : ∃ n, handled < n ∧ n ≤ handled + stream.base.history.toNat ∧ ¬ received n
  behindWindow : ∀ i, i < 16 → i < announcedFrom stream first →
    handled + stream.base.history.toNat < first + i →
    ¬ received (sharer handled stream.base.history.toNat (first + i))
  behindInt : ∀ i, 31 ≤ i → i < announcedFrom stream first →
    received (sharer handled stream.base.history.toNat (first + i))

section

variable {handled history first n : Nat} {received : Nat → Prop}

/-! ## The first missing number -/

theorem FirstMissing.unique {first' : Nat} (h : FirstMissing handled received first)
    (h' : FirstMissing handled received first') : first = first' := by
  rcases Nat.lt_trichotomy first first' with hlt | heq | hgt
  · exact absurd (h'.least first h.behind hlt) h.missing
  · exact heq
  · exact absurd (h.least first' h'.behind hgt) h'.missing

/-- If one number is missing, one is the first. -/
theorem exists_firstMissing (hbehind : handled < n) (hmissing : ¬ received n) :
    ∃ first, FirstMissing handled received first ∧ first ≤ n := by
  classical
  have hexists : ∃ k, handled < k ∧ ¬ received k := ⟨n, hbehind, hmissing⟩
  obtain ⟨hfirst, hnot⟩ := Nat.find_spec hexists
  refine ⟨Nat.find hexists, ⟨hfirst, hnot, ?_⟩, Nat.find_min' hexists ⟨hbehind, hmissing⟩⟩
  intro m hm hlt
  by_contra hmiss
  exact Nat.find_min hexists hlt ⟨hm, hmiss⟩

/-! ## Numbers that share a slot -/

theorem sharer_window (hpos : 0 < history) :
    handled < sharer handled history n ∧ sharer handled history n ≤ handled + history := by
  have := Nat.mod_lt (n - (handled + 1)) hpos
  unfold sharer
  omega

theorem sharer_mod (hbehind : handled < n) :
    sharer handled history n % history = n % history := by
  rw [sharer, Nat.add_mod_mod]
  congr 1
  omega

end

section

variable [MicroCdr] {message : Nat → List UInt8} {stream : InputReliableStream}
  {handled first n : Nat} {received : Nat → Prop}

/-- Whether a slot is filled says whether the message of the window was received that lies there. -/
theorem HoldsReceived.slot_iff (h : HoldsReceived message stream handled received)
    (hbehind : handled < n) :
    stream.slotSize n ≠ 0 ↔ received (sharer handled stream.base.history.toNat n) := by
  obtain ⟨h₁, h₂⟩ := @sharer_window handled _ n h.buffers.wellFormed.history_pos
  have hsame : stream.slotSize n =
      stream.slotSize (sharer handled stream.base.history.toNat n) :=
    ReliableStream.getReliableBufferSize_congr
      ((slot_eq_iff h.buffers.wellFormed _ _).mpr (sharer_mod hbehind).symm)
  rw [hsame]
  exact h.filled _ h₁ h₂

/-! ## `uxr_get_first_unacked` -/

omit [MicroCdr] in
/-- The search finds the first empty slot. -/
theorem getFirstUnackedFrom_eq (hlast : stream.lastHandled = UInt16.ofNat handled) {left i : Nat}
    (hbehind : handled + i < first) (hwindow : first ≤ handled + i + left)
    (hfilled : ∀ n, handled + i < n → n < first → stream.slotSize n ≠ 0)
    (hempty : stream.slotSize first = 0) :
    getFirstUnackedFrom stream left i = UInt16.ofNat first := by
  induction left generalizing i with
  | zero => omega
  | succ left ih =>
    rw [getFirstUnackedFrom, hlast, seqNumAdd_ofNat]
    rcases Nat.eq_or_lt_of_le (show handled + (i + 1) ≤ first from hbehind) with rfl | hlater
    · exact if_pos hempty
    · have hnext : getReliableBufferSize stream.base (UInt16.ofNat (handled + (i + 1))) ≠ 0 :=
        hfilled _ (by omega) hlater
      rw [if_neg hnext]
      exact ih hlater (by omega) fun n h₁ h₂ => hfilled n (by omega) h₂

omit [MicroCdr] in
/-- Without an empty slot it ends with the last handled number. -/
theorem getFirstUnackedFrom_full (hlast : stream.lastHandled = UInt16.ofNat handled) {left i : Nat}
    (hfilled : ∀ n, handled + i < n → n ≤ handled + i + left → stream.slotSize n ≠ 0) :
    getFirstUnackedFrom stream left i = UInt16.ofNat handled := by
  induction left generalizing i with
  | zero => exact hlast
  | succ left ih =>
    have hnext : getReliableBufferSize stream.base (UInt16.ofNat (handled + (i + 1))) ≠ 0 :=
      hfilled _ (by omega) (by omega)
    rw [getFirstUnackedFrom, hlast, seqNumAdd_ofNat, if_neg hnext]
    exact ih fun n h₁ h₂ => hfilled n (by omega) (by omega)

/-- What it finds is the first missing number. -/
theorem HoldsReceived.getFirstUnacked_eq (h : HoldsReceived message stream handled received)
    (hfirst : FirstMissing handled received first)
    (hwindow : first ≤ handled + stream.base.history.toNat) :
    getFirstUnacked stream = UInt16.ofNat first := by
  refine getFirstUnackedFrom_eq h.buffers.lastHandled hfirst.behind hwindow ?_ ?_
  · intro n h₁ h₂
    exact (h.filled n h₁ (by omega)).mpr (hfirst.least n h₁ h₂)
  · by_contra hfilled
    exact hfirst.missing ((h.filled first hfirst.behind hwindow).mp hfilled)

/-- With a full window it finds none. -/
theorem HoldsReceived.getFirstUnacked_full (h : HoldsReceived message stream handled received)
    (hfull : ∀ n, handled < n → n ≤ handled + stream.base.history.toNat → received n) :
    getFirstUnacked stream = UInt16.ofNat handled := by
  refine getFirstUnackedFrom_full h.buffers.lastHandled ?_
  intro n h₁ h₂
  exact (h.filled n h₁ h₂).mpr (hfull n h₁ h₂)

end

/-! ## The bitmap -/

/-- A shift within its type sets one bit, if the bitmap has it. -/
theorem nackBit_testBit (shiftBeyond : Nat → UInt16) {i j : Nat} (hi : i < 31) (hj : j < 16) :
    (nackBit shiftBeyond i).toNat.testBit j = decide (i = j) := by
  rw [nackBit, if_pos hi, UInt16.toNat_ofNat', Nat.testBit_mod_two_pow, Nat.testBit_two_pow]
  simp [hj]

/-- The bits of a bitmap that is put together from shifts within their type. -/
theorem foldl_nackBit_testBit (shiftBeyond : Nat → UInt16) (p : Nat → Prop) [DecidablePred p]
    {k j : Nat} (hshifts : ∀ i, i < k → p i → i < 31) (hj : j < 16) :
    ((List.range k).foldl (fun bitmap i => if p i then bitmap ||| nackBit shiftBeyond i else bitmap)
        (0 : UInt16)).toNat.testBit j = true ↔ j < k ∧ p j := by
  induction k with
  | zero => simp
  | succ k ih =>
    have hbefore := ih fun i hi => hshifts i (by omega)
    rw [List.range_succ, List.foldl_append, List.foldl_cons, List.foldl_nil]
    split
    · next hp =>
      rw [UInt16.toNat_or, Nat.testBit_or, Bool.or_eq_true, hbefore,
        nackBit_testBit shiftBeyond (hshifts k (Nat.lt_succ_self k) hp) hj, decide_eq_true_eq]
      constructor
      · rintro (⟨hlt, hpj⟩ | rfl)
        · exact ⟨by omega, hpj⟩
        · exact ⟨Nat.lt_succ_self k, hp⟩
      · rintro ⟨hlt, hpj⟩
        rcases Nat.lt_succ_iff_lt_or_eq.mp hlt with hless | rfl
        · exact .inl ⟨hless, hpj⟩
        · exact .inr rfl
    · next hp =>
      rw [hbefore]
      constructor
      · rintro ⟨hlt, hpj⟩
        exact ⟨by omega, hpj⟩
      · rintro ⟨hlt, hpj⟩
        refine ⟨?_, hpj⟩
        rcases Nat.lt_succ_iff_lt_or_eq.mp hlt with hless | rfl
        · exact hless
        · exact absurd hpj hp

section

variable [MicroCdr] {message : Nat → List UInt8} {stream : InputReliableStream}
  {handled first : Nat} {received : Nat → Prop}

omit [MicroCdr] in
/-- The loop goes over the numbers that are announced from the first one on. -/
theorem buffersToAck_eq (hfirst : handled < first)
    (hnumber : getFirstUnacked stream = UInt16.ofNat first) :
    (seqNumSub stream.lastAnnounced (seqNumSub (getFirstUnacked stream) 1)).toNat =
      announcedFrom stream first := by
  rw [hnumber, seqNumSub_one (by omega), seqNumSub_eq]
  rfl

omit [MicroCdr] in
theorem mem_acknackShifts (hfirst : handled < first)
    (hnumber : getFirstUnacked stream = UInt16.ofNat first) (i : Nat) :
    i ∈ acknackShifts stream ↔
      i < announcedFrom stream first ∧ stream.slotSize (first + i) = 0 := by
  have hcount := buffersToAck_eq hfirst hnumber
  unfold acknackShifts
  dsimp only
  rw [hcount, hnumber, List.mem_filter, List.mem_range, seqNumAdd_ofNat, decide_eq_true_eq]
  rfl

omit [MicroCdr] in
/-- The bits of the bitmap, where the shifts stay within their type. -/
theorem computeAcknack_testBit (shiftBeyond : Nat → UInt16) (hfirst : handled < first)
    (hnumber : getFirstUnacked stream = UInt16.ofNat first)
    (hshifts : ∀ i, i < announcedFrom stream first → stream.slotSize (first + i) = 0 → i < 31)
    {i : Nat} (hi : i < 16) :
    (computeAcknack shiftBeyond stream).2.toNat.testBit i = true ↔
      i < announcedFrom stream first ∧ stream.slotSize (first + i) = 0 := by
  have hcount := buffersToAck_eq hfirst hnumber
  unfold computeAcknack
  dsimp only
  rw [hcount, hnumber]
  simp only [seqNumAdd_ofNat]
  exact foldl_nackBit_testBit shiftBeyond (fun i => stream.slotSize (first + i) = 0) hshifts hi

omit [MicroCdr] in
/-- The client takes a number for announced if it comes at or before the last announced one. -/
theorem announced_iff (hfirst : 0 < first) {i : Nat} (hi : i < 16)
    (hrange : announcedFrom stream first ≤ 32768) :
    seqNumCmp (UInt16.ofNat (first + i)) stream.lastAnnounced ≤ 0 ↔
      i < announcedFrom stream first := by
  obtain ⟨first, rfl⟩ := Nat.exists_eq_succ_of_ne_zero (Nat.pos_iff_ne_zero.mp hfirst)
  rw [announcedFrom, Serial.dist_eq, Serial.toNat_ofNat] at hrange
  rw [← ge_iff_le, seqNumCmp_nonpos_iff, announcedFrom, Serial.dist_eq, Serial.dist_eq,
    Serial.toNat_ofNat, Serial.toNat_ofNat]
  have hlast := stream.lastAnnounced.toNat_lt
  unfold seqNumMidsize
  omega

/-- Half a turn behind the first missing number lies one that shares its slot. -/
theorem HoldsReceived.announced_le (h : HoldsReceived message stream handled received)
    (hfirst : FirstMissing handled received first)
    (hwindow : first ≤ handled + stream.base.history.toNat)
    (hbehindInt : ∀ i, 31 ≤ i → i < announcedFrom stream first →
      received (sharer handled stream.base.history.toNat (first + i))) :
    announcedFrom stream first ≤ 32768 := by
  by_contra hlong
  refine hfirst.missing ?_
  have hshared := hbehindInt 32768 (by decide) (by omega)
  obtain ⟨k, hk, hpow⟩ := h.buffers.wellFormed.history
  have hturn : sharer handled stream.base.history.toNat (first + 32768) = first := by
    obtain ⟨turns, hturns⟩ : stream.base.history.toNat ∣ 32768 := by
      rw [hpow]
      exact pow_dvd_pow 2 hk
    have hbehind := hfirst.behind
    rw [sharer, show first + 32768 - (handled + 1) = first - (handled + 1) + 32768 by omega,
      hturns, Nat.add_mul_mod_self_left, Nat.mod_eq_of_lt (by omega)]
    omega
  rwa [hturn] at hshared

/-- **The content of an ACKNACK.** In every state of a run there is a first missing number, and
`uxr_compute_acknack` says what it is to say exactly if a message of the window is missing, the
numbers that the bitmap has behind the window share no slot with one that was received, and those
that are announced behind the bits of an `int` do. -/
theorem acknack_content_iff [LawfulMicroCdr] (shiftBeyond : Nat → UInt16)
    (hrun : InputRun message stream handled received) :
    ∃ first, FirstMissing handled received first ∧
      (AcknackContent shiftBeyond stream received first ↔
        AcknackClear stream handled received first) := by
  have h := inputRun_holds hrun
  have hH := h.buffers.wellFormed.history_le
  obtain ⟨first, hfirst, hle⟩ := @exists_firstMissing handled
    (handled + stream.base.history.toNat + 1) received (by omega)
    fun hreceived => absurd (h.bounded _ hreceived) (by omega)
  have hbehind := hfirst.behind
  refine ⟨first, hfirst, fun hcontent => ?_, fun hclear => ?_⟩
  · have hmissing : ∃ n, handled < n ∧ n ≤ handled + stream.base.history.toNat ∧ ¬ received n := by
      by_contra hfull
      simp only [not_exists, not_and, not_not] at hfull
      -- with a full window the search ends with a number that was handled
      have hnumber := hcontent.number
      rw [show (computeAcknack shiftBeyond stream).1 = getFirstUnacked stream from rfl,
        h.getFirstUnacked_full hfull] at hnumber
      have := Serial.ofNat_inj_of_lt (Nat.le_of_lt hbehind) (by omega) hnumber
      omega
    have hwindow : first ≤ handled + stream.base.history.toNat := by
      obtain ⟨n, h₁, h₂, hnot⟩ := hmissing
      by_contra hbeyond
      exact hnot (hfirst.least n h₁ (by omega))
    have hnumber := h.getFirstUnacked_eq hfirst hwindow
    have hshifts (i : Nat) (hi : i < announcedFrom stream first)
        (hempty : stream.slotSize (first + i) = 0) : i < 31 :=
      hcontent.shifts i ((mem_acknackShifts hbehind hnumber i).mpr ⟨hi, hempty⟩)
    have hbehindInt (i : Nat) (h31 : 31 ≤ i) (hi : i < announcedFrom stream first) :
        received (sharer handled stream.base.history.toNat (first + i)) := by
      refine (h.slot_iff (by omega)).mp fun hempty => ?_
      exact absurd (hshifts i hi hempty) (by omega)
    refine ⟨hmissing, ?_, hbehindInt⟩
    intro i hi hannounced hbeyond hshared
    have hle := h.announced_le hfirst hwindow hbehindInt
    have hbit := (hcontent.bitmap i hi).mpr ⟨(announced_iff (by omega) hi hle).mpr hannounced,
      fun hreceived => absurd (h.bounded _ hreceived) (by omega)⟩
    have hempty := ((computeAcknack_testBit shiftBeyond hbehind hnumber hshifts hi).mp hbit).2
    exact (h.slot_iff (by omega)).mpr hshared hempty
  · have hwindow : first ≤ handled + stream.base.history.toNat := by
      obtain ⟨n, h₁, h₂, hnot⟩ := hclear.missing
      by_contra hbeyond
      exact hnot (hfirst.least n h₁ (by omega))
    have hnumber := h.getFirstUnacked_eq hfirst hwindow
    have hshifts (i : Nat) (hi : i < announcedFrom stream first)
        (hempty : stream.slotSize (first + i) = 0) : i < 31 := by
      by_contra h31
      exact (h.slot_iff (by omega)).mpr (hclear.behindInt i (by omega) hi) hempty
    have hle := h.announced_le hfirst hwindow hclear.behindInt
    refine ⟨hnumber, ?_, ?_⟩
    · intro i hi
      rw [computeAcknack_testBit shiftBeyond hbehind hnumber hshifts hi,
        announced_iff (by omega) hi hle]
      refine and_congr_right fun hannounced => ?_
      rw [← not_iff_not, not_not]
      rcases Nat.lt_or_ge (handled + stream.base.history.toNat) (first + i) with hbeyond | hinside
      · refine iff_of_false (fun hfilled => ?_) fun hreceived => ?_
        · exact hclear.behindWindow i hi hannounced hbeyond ((h.slot_iff (by omega)).mp hfilled)
        · exact absurd (h.bounded _ hreceived) (by omega)
      · exact h.filled _ (by omega) hinside
    · intro i hi
      obtain ⟨hannounced, hempty⟩ := (mem_acknackShifts hbehind hnumber i).mp hi
      exact hshifts i hannounced hempty

end

/-! ## Two slots -/

/-- A message that is not fragmented. -/
def wholeMessage : Datagram where
  memory _ := 0
  buffer := 0
  length := 8

/-- The message 1 waits for the message 0, and the messages up to the last one are announced. -/
def announcing (last : SeqNum) : InputReliableStream :=
  processHeartbeat ((twoInputSlots.store 1 wholeMessage).announce 1) 0 last

/-- Only the message 1 was received, with the count 65537. -/
def onlyMessage1 (n : Nat) : Prop :=
  False ∨ twoInputSlots.accepts 1 = true ∧ n = arrival 65535 1

theorem onlyMessage1_iff (n : Nat) : onlyMessage1 n ↔ n = 65537 := by
  constructor
  · rintro (hfalse | ⟨-, heq⟩)
    · exact hfalse.elim
    · exact heq.trans (by decide +kernel)
  · rintro rfl
    exact .inr ⟨by decide +kernel, by decide +kernel⟩

theorem receive_wholeMessage :
    receiveReliableMessage 2 twoInputSlots 1 wholeMessage false =
      some ⟨false, (twoInputSlots.store 1 wholeMessage).announce 1, true⟩ := by
  rw [receiveReliableMessage_of_stores (by decide +kernel), if_neg (by decide +kernel)]

theorem inputRun_announcing (last : SeqNum) :
    @InputRun referenceMicroCdr (fun _ => wholeMessage.bytes) (announcing last) 65535
      onlyMessage1 := by
  have hstart : @InputRun referenceMicroCdr (fun _ => wholeMessage.bytes) twoInputSlots 65535
      fun _ => False :=
    @InputRun.reset referenceMicroCdr _
      { base := { buffer := fun _ => 0, size := 32, history := 2 }
        lastHandled := seqNumMax
        lastAnnounced := seqNumMax
        onGetFragmentationInfo := @onGetFragmentationInfo referenceMicroCdr
        cleanupFlag := false }
      ⟨⟨1, by decide, rfl⟩, by decide⟩ rfl
  have hdrained : ∃ fuel ub r, @nextInputReliableBufferAvailable referenceMicroCdr fuel twoInputSlots
      ub subheaderSize = some r ∧ r.1 = false := by
    refine ⟨0, @ucdrInitBuffer referenceMicroCdr 0 0, (false, twoInputSlots,
      @ucdrInitBuffer referenceMicroCdr 0 0), ?_, rfl⟩
    unfold nextInputReliableBufferAvailable
    dsimp only
    rw [if_neg (by decide +kernel)]
  have hmessage := @InputRun.receive referenceMicroCdr _ _ _ _ hstart hdrained 1 wholeMessage false
    (fun _ => ⟨⟨by decide, fun hfragment => absurd (by decide +kernel) hfragment, by decide +kernel,
      by decide⟩, rfl⟩) 2 _ receive_wholeMessage
  exact @InputRun.heartbeat referenceMicroCdr _ _ _ _ hmessage 0 last

theorem firstMissing_onlyMessage1 : FirstMissing 65535 onlyMessage1 65536 where
  behind := by decide
  missing h := absurd ((onlyMessage1_iff _).mp h) (by decide)
  least n h₁ h₂ := by omega

/-- Where the messages up to 2 are announced, the ACKNACK asks for 0 and 2. -/
theorem acknack_content_iff_announcing :
    AcknackContent (fun _ => 0) (announcing 2) onlyMessage1 65536 ∧
      computeAcknack (fun _ => 0) (announcing 2) = (0, 0b101) := by
  obtain ⟨first, hfirst, hiff⟩ := @acknack_content_iff referenceMicroCdr _ _ _ _
    referenceMicroCdr_lawful (fun _ => 0) (inputRun_announcing 2)
  obtain rfl := hfirst.unique firstMissing_onlyMessage1
  have hannounced : announcedFrom (announcing 2) 65536 = 3 := by decide +kernel
  have hhistory : (announcing 2).base.history.toNat = 2 := by decide +kernel
  refine ⟨hiff.mpr ⟨⟨65536, by decide, by omega, firstMissing_onlyMessage1.missing⟩, ?_, ?_⟩,
    by decide +kernel⟩
  · intro i _ hi hbeyond hshared
    rw [hannounced] at hi
    rw [hhistory] at hbeyond hshared
    obtain rfl : i = 2 := by omega
    exact absurd ((onlyMessage1_iff _).mp hshared) (by decide)
  · intro i h31 hi
    rw [hannounced] at hi
    omega

/-- Where they are announced up to 3, the number 3 shares the slot of 1, and the ACKNACK does not
ask for it; where they are announced up to 40, the loop shifts by 40. -/
theorem acknack_misses_shared_slot :
    (FirstMissing 65535 onlyMessage1 65536 ∧
      computeAcknack (fun _ => 0) (announcing 3) = (0, 0b101) ∧
      ¬ AcknackContent (fun _ => 0) (announcing 3) onlyMessage1 65536) ∧
    40 ∈ acknackShifts (announcing 40) := by
  refine ⟨⟨firstMissing_onlyMessage1, by decide +kernel, fun hcontent => ?_⟩, by decide +kernel⟩
  have hbit := (hcontent.bitmap 3 (by decide)).mpr
    ⟨by decide +kernel, fun h => absurd ((onlyMessage1_iff _).mp h) (by decide)⟩
  exact absurd hbit (by decide +kernel)

end XrceClient
