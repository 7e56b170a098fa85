import Mathlib.Logic.Relation
import XrceClient.Stream.OutputWrite

/-!
# Runs of an output reliable stream

- `OutputStep`: one call on the stream, or the user filling in a message that
  was granted room and is not sent yet. Acknowledgements are those of an agent
  that acknowledges what it was sent.
- `OutputInv`: a window tracks the stream; `outputStep_inv` says what one step
  keeps, and which slots it leaves alone.
- `WindowInvariant`: the same in the stream's own 16-bit numbers.
- `output_window_invariant`: the window over whole runs.
- `acknack_robust_iff`: which acknowledgements leave the window intact, when any
  number at all may arrive.
-/

namespace XrceClient

open ByteMemory OutputReliableStream

/-! ## Steps -/

/-- A stream, and the message that was prepared by the last call, if any. -/
structure OutputState where
  stream : OutputReliableStream
  prepared : Option SeqNum

/-- The number of an acknowledgement for messages that were sent:
`last_acknown + 1`, …, `last_sent + 1`. -/
def AcknackInRange (stream : OutputReliableStream) (firstUnackedSeqNum : SeqNum) : Prop :=
  Serial.dist (seqNumAdd stream.lastAcknown 1) firstUnackedSeqNum ≤
    Serial.dist stream.lastAcknown stream.lastSent

instance (stream : OutputReliableStream) (f : SeqNum) : Decidable (AcknackInRange stream f) :=
  inferInstanceAs (Decidable (_ ≤ _))

section

variable [MicroCdr]

/-- One step of a stream in use. -/
inductive OutputStep : OutputState → OutputState → Prop
  | write (st : OutputState) (length : Nat) (ub : UcdrBuffer) (hpos : 1 ≤ length) :
      OutputStep st ⟨(prepareReliableBufferToWrite st.stream length ub).2.1, none⟩
  | fill (st : OutputState) (seqNum : SeqNum) (k : Nat) (bytes : List UInt8)
      (hunsent : Serial.dist st.stream.lastAcknown st.stream.lastSent <
        Serial.dist st.stream.lastAcknown seqNum)
      (hwritten : Serial.dist st.stream.lastAcknown seqNum ≤ st.stream.base.history.toNat)
      (hfit : k + bytes.length ≤ getReliableBufferCapacity st.stream.base) :
      OutputStep st
        ⟨{ st.stream with base := st.stream.base.storeBytes seqNum k bytes }, none⟩
  | send (st : OutputState) :
      OutputStep st
        ⟨(prepareNextReliableBufferToSend st.stream).2.1,
          if (prepareNextReliableBufferToSend st.stream).1 then
            some (prepareNextReliableBufferToSend st.stream).2.2.seqNum
          else none⟩
  | cancel (st : OutputState) (seqNum : SeqNum) (hprepared : st.prepared = some seqNum) :
      OutputStep st ⟨cancelReliableBufferToSend st.stream seqNum, none⟩
  | acknack (st : OutputState) (bitmap : UInt16) (firstUnackedSeqNum : SeqNum)
      (hrange : AcknackInRange st.stream firstUnackedSeqNum) :
      OutputStep st ⟨processAcknack st.stream bitmap firstUnackedSeqNum, none⟩
  | nack (st : OutputState) (seqNumIt seqNumIt' : SeqNum) (found : Option NextBuffer)
      (stream : OutputReliableStream)
      (hnext : nextReliableNackBufferToSend st.stream seqNumIt = some (found, stream, seqNumIt')) :
      OutputStep st ⟨stream, none⟩
  | reset (st : OutputState) : OutputStep st ⟨resetOutputReliableStream st.stream, none⟩

/-- The states of the runs from a stream's initialization on. -/
def OutputReachable (buffer : Memory) (size : Nat) (history : UInt16) (headerOffset : UInt8) :
    OutputState → Prop :=
  Relation.ReflTransGen OutputStep
    ⟨initOutputReliableStream buffer size history headerOffset, none⟩

end

/-! ## What a step keeps -/

/-- A window tracks the stream, and a prepared message is the last sent one. -/
structure OutputInv {H : Nat} (st : OutputState) (win : OutputWindow H) : Prop where
  tracks : Tracks st.stream win
  prepared : ∀ q, st.prepared = some q → q = UInt16.ofNat win.sent ∧ win.acked < win.sent

section

variable {H : Nat} {stream : OutputReliableStream} {win : OutputWindow H}

/-- The distance from the last acknowledged number to that of a count. -/
theorem Tracks.dist_ofNat (h : Tracks stream win) {n : Nat} (h₁ : win.acked ≤ n)
    (h₂ : n < win.acked + 65536) :
    Serial.dist stream.lastAcknown (UInt16.ofNat n) = n - win.acked := by
  rw [h.lastAcknown, Serial.dist_ofNat h₁ h₂]

/-- Every number is that of a count at its distance. -/
theorem Tracks.ofNat_dist (h : Tracks stream win) (q : SeqNum) :
    UInt16.ofNat (win.acked + Serial.dist stream.lastAcknown q) = q := by
  rw [h.lastAcknown, ← Serial.ofNat_add_ofNat, Serial.add_dist]

theorem Tracks.dist_lastSent (h : Tracks stream win) :
    Serial.dist stream.lastAcknown stream.lastSent = win.sent - win.acked := by
  have := h.history_le
  have := win.acked_le_sent
  have := win.sent_lt_written
  have := win.written_le
  rw [h.lastSent, h.dist_ofNat (by omega) (by omega)]

theorem Tracks.dist_lastWritten (h : Tracks stream win) :
    Serial.dist stream.lastAcknown stream.lastWritten = win.written - win.acked := by
  have := h.history_le
  have := win.acked_le_sent
  have := win.sent_lt_written
  have := win.written_le
  rw [h.lastWritten, h.dist_ofNat (by omega) (by omega)]

/-- An acknowledgement in range is for a count between `acked` and `sent`. -/
theorem Tracks.acknackInRange (h : Tracks stream win) {f : SeqNum}
    (hf : AcknackInRange stream f) :
    ∃ k, win.acked + k ≤ win.sent ∧ f = UInt16.ofNat (win.acked + k + 1) := by
  rw [AcknackInRange, h.dist_lastSent, h.lastAcknown, seqNumAdd_one] at hf
  refine ⟨Serial.dist (UInt16.ofNat (win.acked + 1)) f, ?_, ?_⟩
  · have := win.acked_le_sent
    omega
  · rw [show ∀ k, win.acked + k + 1 = win.acked + 1 + k from fun k => by omega,
      ← Serial.ofNat_add_ofNat, Serial.add_dist]

/-- The loop of `uxr_process_acknack` leaves the slots of the messages behind the
acknowledged ones alone. -/
theorem cleanBuffers_untouched (h : Tracks stream win) (k : Nat)
    (hk : win.acked + k ≤ win.sent) {n : Nat} (h₁ : win.acked + k < n)
    (h₂ : n ≤ win.acked + H) : Untouched stream (cleanBuffers k stream) n := by
  induction k generalizing stream win with
  | zero => exact Untouched.refl
  | succ k ih =>
    have hone := tracks_cleanBuffer h (by omega)
    have hfirst := untouched_setSlotSize h.formed stream.offset.toNat
      (h.mod_ne (m := n) (n := win.acked + 1) (by omega) (by omega) (by omega))
    have hrest := ih hone (by simp only [OutputWindow.acknowledge]; omega)
      (by simp only [OutputWindow.acknowledge]; omega)
      (by simp only [OutputWindow.acknowledge]; omega)
    rw [cleanBuffers, h.lastAcknown, seqNumAdd_one]
    exact hfirst.trans hrest

/-- An acknowledgement moves `acked` to the last number it acknowledges. -/
theorem processAcknack_eq (h : Tracks stream win) (bitmap : UInt16) {k : Nat}
    (hk : win.acked + k ≤ win.sent) :
    processAcknack stream bitmap (UInt16.ofNat (win.acked + k + 1)) =
      { cleanBuffers k stream with sendLost := 0 < bitmap, nextHeartbeatTries := 0 } := by
  have := h.history_le
  have := win.sent_lt_written
  have := win.written_le
  rw [processAcknack]
  dsimp only
  rw [seqNumSub_one (by omega), h.lastAcknown, Nat.add_sub_cancel, seqNumSub_ofNat (by omega),
    Nat.add_sub_cancel_left, Serial.toNat_ofNat, Nat.mod_eq_of_lt (by omega)]

theorem tracks_processAcknack (h : Tracks stream win) (bitmap : UInt16) {k : Nat}
    (hk : win.acked + k ≤ win.sent) :
    Tracks (processAcknack stream bitmap (UInt16.ofNat (win.acked + k + 1)))
      (win.acknowledge (win.acked + k) (Nat.le_add_right _ _) hk) := by
  rw [processAcknack_eq h bitmap hk]
  have hclean := tracks_cleanBuffers h k hk
  exact
    { formed := hclean.formed.congr rfl rfl rfl
      history := hclean.history
      lastAcknown := hclean.lastAcknown
      lastSent := hclean.lastSent
      lastWritten := hclean.lastWritten
      filled := hclean.filled
      empty := hclean.empty
      offset_le := hclean.offset_le
      bounded := hclean.bounded }

/-- Bytes of an unsent message leave the window where it is. -/
theorem tracks_storeSlotBytes (h : Tracks stream win) (n : Nat) {k : Nat}
    {bs : List UInt8} (hfit : k + bs.length ≤ getReliableBufferCapacity stream.base) :
    Tracks (stream.storeSlotBytes n k bs) win := by
  have hsize (m : Nat) := slotSize_storeSlotBytes h.formed n m hfit
  exact
    { formed := h.formed.congr rfl rfl rfl
      history := h.history
      lastAcknown := h.lastAcknown
      lastSent := h.lastSent
      lastWritten := h.lastWritten
      filled := fun m h₁ h₂ => Nat.lt_of_lt_of_eq (h.filled m h₁ h₂) (hsize m).symm
      empty := fun m h₁ h₂ => (hsize m).trans (h.empty m h₁ h₂)
      offset_le := fun m => le_of_le_of_eq (h.offset_le m) (hsize m).symm
      bounded := fun m => le_of_eq_of_le (hsize m) (h.bounded m) }

/-- `send_lost` is no part of the window. -/
theorem tracks_sendLost (h : Tracks stream win) (sendLost : Bool) :
    Tracks { stream with sendLost } win :=
  { formed := h.formed.congr rfl rfl rfl
    history := h.history
    lastAcknown := h.lastAcknown
    lastSent := h.lastSent
    lastWritten := h.lastWritten
    filled := h.filled
    empty := h.empty
    offset_le := h.offset_le
    bounded := h.bounded }

/-- A fresh stream stands for the empty window, and all its slots are empty. -/
theorem tracks_init_empty (buffer : Memory) {size : Nat} {history : UInt16} {headerOffset : UInt8}
    (hhistory : ∃ k, history.toNat = 2 ^ k) (haligned : headerOffset.toNat % 4 = 0)
    (hroom : headerOffset.toNat + 4 < size / history.toNat - 4)
    (hcapacity : size / history.toNat - 4 < 65536) :
    Tracks (initOutputReliableStream buffer size history headerOffset)
      (OutputWindow.initial history.toNat) ∧
    ∀ n, (initOutputReliableStream buffer size history headerOffset).slotSize n =
      headerOffset.toNat := by
  obtain ⟨k, hpow⟩ := hhistory
  have hk : k < 16 := by
    refine (Nat.pow_lt_pow_iff_right (Nat.lt_succ_self 1)).mp ?_
    rw [← hpow]
    exact history.toNat_lt
  have hformed : OutputReliableStream.Formed
      ⟨⟨buffer, size, history⟩, headerOffset, 0, seqNumMax, seqNumMax, int64Max, 0, false⟩ :=
    { base := ⟨⟨k, by omega, hpow⟩, show 4 < size / history.toNat by omega⟩
      offset_aligned := haligned
      offset_lt := hroom
      capacity_lt := hcapacity }
  exact ⟨tracks_reset hformed, slotSize_reset hformed⟩

/-- A fresh stream stands for the empty window. -/
theorem tracks_init (buffer : Memory) {size : Nat} {history : UInt16} {headerOffset : UInt8}
    (hhistory : ∃ k, history.toNat = 2 ^ k) (haligned : headerOffset.toNat % 4 = 0)
    (hroom : headerOffset.toNat + 4 < size / history.toNat - 4)
    (hcapacity : size / history.toNat - 4 < 65536) :
    Tracks (initOutputReliableStream buffer size history headerOffset)
      (OutputWindow.initial history.toNat) :=
  (tracks_init_empty buffer hhistory haligned hroom hcapacity).1

/-- A fresh stream within the documented limits stands for the empty window. -/
theorem represents_init (buffer : Memory) {size : Nat} {history : UInt16} {headerOffset : UInt8}
    (hhistory : ∃ k, k ≤ 14 ∧ history.toNat = 2 ^ k) (haligned : headerOffset.toNat % 4 = 0)
    (hroom : headerOffset.toNat + 4 < size / history.toNat - 4)
    (hcapacity : size / history.toNat - 4 < 65536) :
    Represents (initOutputReliableStream buffer size history headerOffset)
      (OutputWindow.initial history.toNat) := by
  obtain ⟨k, hk, hpow⟩ := hhistory
  refine (tracks_init buffer ⟨k, hpow⟩ haligned hroom hcapacity).represents ?_
  rw [hpow]
  exact Nat.pow_le_pow_right (by omega) hk

/-! ## In the stream's own numbers -/

/-- The message of a number is sent and not yet acknowledged. -/
def Unacknowledged (stream : OutputReliableStream) (seqNum : SeqNum) : Prop :=
  0 < Serial.dist stream.lastAcknown seqNum ∧
    Serial.dist stream.lastAcknown seqNum ≤ Serial.dist stream.lastAcknown stream.lastSent

/-- A number within a turn of `last_acknown` is that of a count of the window. -/
theorem Tracks.slotSize_dist (h : Tracks stream win) (q : SeqNum) :
    getReliableBufferSize stream.base q =
      stream.slotSize (win.acked + Serial.dist stream.lastAcknown q) := by
  rw [slotSize, h.ofNat_dist]

/-- The messages behind number `seqNum`, `count` of them. -/
def nextBuffers (stream : OutputReliableStream) (seqNum : SeqNum) (count : Nat) :
    List NextBuffer :=
  (List.range count).map fun i =>
    let seqNum := seqNum + UInt16.ofNat (i + 1)
    { buffer := getReliableBuffer stream.base seqNum
      length := getReliableBufferSize stream.base seqNum
      seqNum }

theorem nextBuffers_succ (stream : OutputReliableStream) (seqNum : SeqNum) (count : Nat) :
    nextBuffers stream seqNum (count + 1) =
      { buffer := getReliableBuffer stream.base (seqNum + 1)
        length := getReliableBufferSize stream.base (seqNum + 1)
        seqNum := seqNum + 1 } :: nextBuffers stream (seqNum + 1) count := by
  rw [nextBuffers, nextBuffers, List.range_succ_eq_map, List.map_cons, List.map_map]
  congr 1
  refine List.map_congr_left fun i _ => ?_
  have hnext : seqNum + UInt16.ofNat (i + 1 + 1) = seqNum + 1 + UInt16.ofNat (i + 1) := by
    rw [UInt16.add_assoc, ← UInt16.ofNat_one, Serial.ofNat_add_ofNat, Nat.add_comm 1]
  simp only [Function.comp, Nat.succ_eq_add_one, hnext]

/-- The walk stops at the next message that was sent. -/
theorem nextNackBuffer_found (h : Tracks stream win) (fuel : Nat) {n : Nat}
    (h₁ : win.acked ≤ n) (h₂ : n < win.sent) :
    nextNackBuffer stream (fuel + 1) (UInt16.ofNat n) =
      some (some
        { buffer := getReliableBuffer stream.base (UInt16.ofNat (n + 1))
          length := getReliableBufferSize stream.base (UInt16.ofNat (n + 1))
          seqNum := UInt16.ofNat (n + 1) }, UInt16.ofNat (n + 1)) := by
  have := h.history_le
  have := win.sent_lt_written
  have := win.written_le
  have hcmp := seqNumCmp_ofNat_nonpos (m := n + 1) (n := win.sent)
    (by unfold seqNumMidsize; omega) (by unfold seqNumMidsize; omega)
  have hfilled := h.filled (n + 1) (by omega) (by omega)
  rw [slotSize] at hfilled
  rw [nextNackBuffer, h.lastSent, seqNumAdd_one]
  dsimp only
  rw [if_pos (hcmp.mpr (by omega)), if_pos (Nat.ne_of_gt hfilled)]

/-- Behind the last sent message the walk ends. -/
theorem nextNackBuffer_end (h : Tracks stream win) (fuel : Nat) :
    nextNackBuffer stream (fuel + 1) (UInt16.ofNat win.sent) =
      some (none, UInt16.ofNat (win.sent + 1)) := by
  have hcmp := seqNumCmp_ofNat_nonpos (m := win.sent + 1) (n := win.sent)
    (by unfold seqNumMidsize; omega) (by unfold seqNumMidsize; omega)
  rw [nextNackBuffer, h.lastSent, seqNumAdd_one]
  dsimp only
  rw [if_neg (mt hcmp.mp (by omega))]

/-- The nack iteration yields the messages up to the last sent one, each once and
in order. -/
theorem nackIteration_eq (h : Tracks stream win) (hlost : stream.sendLost = true) (k : Nat)
    (hk : k ≤ win.sent - win.acked) :
    nackIteration (k + 1) stream (UInt16.ofNat (win.sent - k)) =
      some (nextBuffers stream (UInt16.ofNat (win.sent - k)) k,
        { stream with sendLost := false }) := by
  have hsent := win.acked_le_sent
  induction k with
  | zero =>
    have hend := nextNackBuffer_end h 65535
    rw [nackIteration, nextReliableNackBufferToSend, if_pos hlost, seqNumSize, Nat.sub_zero, hend]
    rfl
  | succ k ih =>
    have hfound := nextNackBuffer_found h 65535 (n := win.sent - (k + 1)) (by omega) (by omega)
    rw [show win.sent - (k + 1) + 1 = win.sent - k from by omega] at hfound
    have hnext : nextReliableNackBufferToSend stream (UInt16.ofNat (win.sent - (k + 1))) =
        some (some
          { buffer := getReliableBuffer stream.base (UInt16.ofNat (win.sent - k))
            length := getReliableBufferSize stream.base (UInt16.ofNat (win.sent - k))
            seqNum := UInt16.ofNat (win.sent - k) }, stream, UInt16.ofNat (win.sent - k)) := by
      rw [nextReliableNackBufferToSend, if_pos hlost, seqNumSize, hfound]
      rfl
    rw [nackIteration, hnext]
    dsimp only
    rw [ih (by omega), Option.map_some, nextBuffers_succ, Serial.ofNat_succ,
      show win.sent - (k + 1) + 1 = win.sent - k from by omega]

/-! ## Any acknowledgement at all -/

/-- What an acknowledgement should do whatever its number is: `last_acknown` stays
between the old one and `last_sent`, the slots of unacknowledged messages keep
them, and a stale number changes nothing. -/
structure AcknackRobust (stream : OutputReliableStream) (bitmap : UInt16)
    (firstUnackedSeqNum : SeqNum) : Prop where
  between : Serial.dist stream.lastAcknown
      (processAcknack stream bitmap firstUnackedSeqNum).lastAcknown ≤
    Serial.dist stream.lastAcknown stream.lastSent
  kept : ∀ q, 0 < Serial.dist stream.lastAcknown q →
    Serial.dist stream.lastAcknown q ≤ stream.base.history.toNat →
      stream.offset.toNat < getReliableBufferSize stream.base q →
        ¬ 0 > seqNumCmp q firstUnackedSeqNum →
          stream.offset.toNat <
            getReliableBufferSize (processAcknack stream bitmap firstUnackedSeqNum).base q
  stale : 0 ≥ seqNumCmp (seqNumSub firstUnackedSeqNum 1) stream.lastAcknown →
    (processAcknack stream bitmap firstUnackedSeqNum).lastAcknown = stream.lastAcknown ∧
      (processAcknack stream bitmap firstUnackedSeqNum).base = stream.base

/-- Whatever its number is, an acknowledgement makes it the first unacknowledged one. -/
theorem processAcknack_lastAcknown (stream : OutputReliableStream) (bitmap : UInt16)
    (f : SeqNum) : (processAcknack stream bitmap f).lastAcknown = f - 1 := by
  rw [processAcknack]
  show (cleanBuffers _ stream).lastAcknown = f - 1
  rw [cleanBuffers_lastAcknown, seqNumSub_eq, seqNumSub_eq, UInt16.ofNat_toNat, UInt16.add_comm,
    UInt16.sub_add_cancel]

theorem acknackInRange_iff (stream : OutputReliableStream) (f : SeqNum) :
    AcknackInRange stream f ↔ Serial.dist stream.lastAcknown (f - 1) ≤
      Serial.dist stream.lastAcknown stream.lastSent := by
  have hsub : f - (stream.lastAcknown + 1) = f - 1 - stream.lastAcknown := by grind
  rw [AcknackInRange, seqNumAdd_eq, Serial.dist, hsub]
  rfl

theorem AcknackRobust.inRange {bitmap : UInt16} {f : SeqNum}
    (hrobust : AcknackRobust stream bitmap f) : AcknackInRange stream f := by
  have hbetween := hrobust.between
  rw [processAcknack_lastAcknown] at hbetween
  exact (acknackInRange_iff stream f).mpr hbetween

theorem acknackRobust_of_inRange (h : Tracks stream win) (hH : H ≤ 16384) (bitmap : UInt16)
    {f : SeqNum} (hrange : AcknackInRange stream f) : AcknackRobust stream bitmap f := by
  have hsent := win.sent_lt_written
  have hwritten := win.written_le
  refine { between := ?_, kept := fun q h₁ h₂ hfilled hnot => ?_, stale := fun hstale => ?_ }
  · rw [processAcknack_lastAcknown]
    exact (acknackInRange_iff stream f).mp hrange
  · obtain ⟨k, hk, rfl⟩ := h.acknackInRange hrange
    rw [h.history] at h₂
    rw [h.slotSize_dist] at hfilled
    rw [processAcknack_eq h bitmap hk]
    -- the number is behind the acknowledged ones, so its slot is not cleaned
    have hbehind : k < Serial.dist stream.lastAcknown q := by
      by_contra hle
      refine hnot ?_
      rw [← h.ofNat_dist q]
      exact (seqNumCmp_ofNat_neg (by unfold seqNumMidsize; omega)
        (by unfold seqNumMidsize; omega)).mpr (by omega)
    have hsame := cleanBuffers_untouched h k hk
      (n := win.acked + Serial.dist stream.lastAcknown q) (by omega) (by omega)
    rw [← h.ofNat_dist q]
    exact Nat.lt_of_lt_of_eq hfilled hsame.1.symm
  · obtain ⟨k, hk, rfl⟩ := h.acknackInRange hrange
    rw [seqNumSub_one (by omega), Nat.add_sub_cancel, h.lastAcknown] at hstale
    have hk₀ : k = 0 := by
      have := (seqNumCmp_ofNat_nonpos (by unfold seqNumMidsize; omega)
        (by unfold seqNumMidsize; omega)).mp hstale
      omega
    rw [processAcknack_eq h bitmap hk, hk₀]
    exact ⟨rfl, rfl⟩

/-! ## The step lemma -/

/-- The window moves forward, or it is emptied by a reset. -/
def OutputWindow.MovesTo (win win' : OutputWindow H) : Prop :=
  win'.acked = win'.sent ∨ (win.acked ≤ win'.acked ∧ win'.sent ≤ win.sent + 1)

section

variable [MicroCdr] [LawfulMicroCdr]

/-- One step keeps the invariant, moves the window, and leaves the slots of the
messages alone that are sent and unacknowledged before and after it. -/
theorem outputStep_inv {st st' : OutputState} (h : OutputInv st win) (hstep : OutputStep st st') :
    ∃ win' : OutputWindow H, OutputInv st' win' ∧ win.MovesTo win' ∧
      ∀ n, win.acked < n → n ≤ win.sent → win'.acked < n → n ≤ win'.sent →
        Untouched st.stream st'.stream n := by
  have hrep := h.tracks
  have hH := hrep.history_le
  have hacked := win.acked_le_sent
  have hsent := win.sent_lt_written
  have hwritten := win.written_le
  -- one case for each kind of step
  cases hstep with
  | write length ub hpos =>
    rcases tracks_write hrep length ub with ⟨-, hsame⟩ |
      ⟨-, first, written, hle, hwin, hfirst, hrep', hrw⟩
    · rw [hsame]
      exact ⟨win, ⟨hrep, by rintro _ ⟨⟩⟩, .inr ⟨Nat.le_refl _, Nat.le_succ _⟩,
        fun n _ _ _ _ => Untouched.refl⟩
    · exact ⟨_, ⟨hrep', by rintro _ ⟨⟩⟩, .inr ⟨Nat.le_refl _, Nat.le_succ _⟩,
        fun n h₁ h₂ _ _ => hrw.untouched_before hrep hwin h₁ (by omega)⟩
  | fill seqNum k bytes hunsent hwin hfit =>
    rw [hrep.dist_lastSent] at hunsent
    rw [hrep.history] at hwin
    rw [← hrep.ofNat_dist seqNum]
    refine ⟨win, ⟨tracks_storeSlotBytes hrep _ hfit, by rintro _ ⟨⟩⟩,
      .inr ⟨Nat.le_refl _, Nat.le_succ _⟩, fun n h₁ h₂ _ _ => ?_⟩
    exact untouched_storeSlotBytes hrep.formed hfit
      (hrep.mod_ne (by omega) (by omega) (by omega))
  | send =>
    have hbase : (prepareNextReliableBufferToSend st.stream).2.1.base = st.stream.base :=
      prepareNext_base
    have huntouched : ∀ n, Untouched st.stream (prepareNextReliableBufferToSend st.stream).2.1 n := by
      intro n
      refine ⟨?_, ?_⟩
      · rw [slotSize, hbase, slotSize]
      · rw [slotBytes, hbase, slotBytes]
    by_cases hok : (prepareNextReliableBufferToSend st.stream).1 = true
    · obtain ⟨hlt, hrep'⟩ := tracks_prepareNext hrep hok
      refine ⟨win.sendNext hlt, ⟨hrep', ?_⟩, .inr ⟨Nat.le_refl _, Nat.le_refl _⟩,
        fun n _ _ _ _ => huntouched n⟩
      intro q hq
      rw [if_pos hok, prepareNext_nextBuffer hrep, Option.some.injEq] at hq
      exact ⟨hq.symm, by simp only [OutputWindow.sendNext]; omega⟩
    · -- nothing is ready
      rw [if_neg hok, prepareNext_false (Bool.eq_false_iff.mpr hok)]
      exact ⟨win, ⟨hrep, by rintro _ ⟨⟩⟩, .inr ⟨Nat.le_refl _, Nat.le_succ _⟩,
        fun n _ _ _ _ => Untouched.refl⟩
  | cancel seqNum hprepared =>
    obtain ⟨rfl, hlt⟩ := h.prepared seqNum hprepared
    refine ⟨_, ⟨tracks_cancel hrep hlt, by rintro _ ⟨⟩⟩, .inr ⟨Nat.le_refl _, ?_⟩,
      fun n _ _ _ _ => ⟨rfl, rfl⟩⟩
    simp only [OutputWindow.cancel]
    omega
  | acknack bitmap f hrange =>
    obtain ⟨k, hk, rfl⟩ := hrep.acknackInRange hrange
    refine ⟨_, ⟨tracks_processAcknack hrep bitmap hk, by rintro _ ⟨⟩⟩,
      .inr ⟨Nat.le_add_right _ _, Nat.le_succ _⟩, fun n h₁ h₂ h₃ _ => ?_⟩
    rw [processAcknack_eq hrep bitmap hk]
    exact cleanBuffers_untouched hrep k hk h₃ (by omega)
  | nack seqNumIt seqNumIt' found stream hnext =>
    refine ⟨win, ⟨?_, by rintro _ ⟨⟩⟩, .inr ⟨Nat.le_refl _, Nat.le_succ _⟩, fun n _ _ _ _ => ?_⟩
    · rcases nextReliableNackBufferToSend_stream hnext with rfl | rfl
      · exact hrep
      · exact tracks_sendLost hrep false
    · rcases nextReliableNackBufferToSend_stream hnext with rfl | rfl <;> exact ⟨rfl, rfl⟩
  | reset =>
    have hreset := tracks_reset hrep.formed
    rw [hrep.history] at hreset
    refine ⟨OutputWindow.initial H, ⟨hreset, by rintro _ ⟨⟩⟩, .inl rfl, fun n _ _ h₃ h₄ => ?_⟩
    simp only [OutputWindow.initial] at h₃ h₄
    omega

/-- Every state of a run is that of a window. -/
theorem outputReachable_inv {buffer : Memory} {size : Nat} {history : UInt16}
    {headerOffset : UInt8} (hhistory : ∃ k, history.toNat = 2 ^ k)
    (haligned : headerOffset.toNat % 4 = 0)
    (hroom : headerOffset.toNat + 4 < size / history.toNat - 4)
    (hcapacity : size / history.toNat - 4 < 65536) {st : OutputState}
    (hrun : OutputReachable buffer size history headerOffset st) :
    ∃ win : OutputWindow history.toNat, OutputInv st win := by
  induction hrun with
  | refl =>
    exact ⟨_, tracks_init buffer hhistory haligned hroom hcapacity, nofun⟩
  | tail _ hstep ih =>
    obtain ⟨win, hinv⟩ := ih
    obtain ⟨win', hinv', -⟩ := outputStep_inv hinv hstep
    exact ⟨win', hinv'⟩

end

end

/-! ## The window over whole runs -/

/-- A stream with two slots of 28 bytes, behind headers of 8. -/
def twoSlots : OutputState := ⟨initOutputReliableStream (fun _ => 0) 64 2 8, none⟩

/-- The state after a write. -/
def OutputState.afterWrite (st : OutputState) (length : Nat) : OutputState :=
  ⟨(@prepareReliableBufferToWrite referenceMicroCdr st.stream length
    (@ucdrInitBuffer referenceMicroCdr 0 0)).2.1, none⟩

/-- The state after a send. -/
def OutputState.afterSend (st : OutputState) : OutputState :=
  ⟨(prepareNextReliableBufferToSend st.stream).2.1,
    if (prepareNextReliableBufferToSend st.stream).1 then
      some (prepareNextReliableBufferToSend st.stream).2.2.seqNum
    else none⟩

theorem reachable_afterWrite {st : OutputState}
    (h : @OutputReachable referenceMicroCdr (fun _ => 0) 64 2 8 st) {length : Nat}
    (hpos : 1 ≤ length) :
    @OutputReachable referenceMicroCdr (fun _ => 0) 64 2 8 (st.afterWrite length) :=
  h.tail (@OutputStep.write referenceMicroCdr st length _ hpos)

theorem reachable_afterSend {st : OutputState}
    (h : @OutputReachable referenceMicroCdr (fun _ => 0) 64 2 8 st) :
    @OutputReachable referenceMicroCdr (fun _ => 0) 64 2 8 st.afterSend :=
  h.tail (@OutputStep.send referenceMicroCdr st)

/-- Two messages of eight bytes are in flight. -/
def twoInFlight : OutputState := (((twoSlots.afterWrite 8).afterSend).afterWrite 8).afterSend

theorem reachable_twoInFlight :
    @OutputReachable referenceMicroCdr (fun _ => 0) 64 2 8 twoInFlight :=
  reachable_afterSend (reachable_afterWrite
    (reachable_afterSend (reachable_afterWrite .refl (by decide))) (by decide))

/-- An acknowledgement with any number at all, after any run, does what it should
exactly when its number is that of a message in flight or the one after. -/
theorem acknack_robust_iff [MicroCdr] [LawfulMicroCdr] {buffer : Memory} {size : Nat}
    {history : UInt16} {headerOffset : UInt8} (hhistory : ∃ k, k ≤ 14 ∧ history.toNat = 2 ^ k)
    (haligned : headerOffset.toNat % 4 = 0)
    (hroom : headerOffset.toNat + 4 < size / history.toNat - 4)
    (hcapacity : size / history.toNat - 4 < 65536) {st : OutputState}
    (hrun : OutputReachable buffer size history headerOffset st) (bitmap : UInt16) (f : SeqNum) :
    AcknackRobust st.stream bitmap f ↔ AcknackInRange st.stream f := by
  obtain ⟨k, hk, hpow⟩ := hhistory
  have hH : history.toNat ≤ 16384 := hpow ▸ Nat.pow_le_pow_right (by omega) hk
  obtain ⟨win, hinv⟩ := outputReachable_inv ⟨k, hpow⟩ haligned hroom hcapacity hrun
  exact ⟨AcknackRobust.inRange, acknackRobust_of_inRange hinv.tracks hH bitmap⟩

/-- The acknowledgement of the first message in flight is taken, one for the
message behind the second is not. -/
theorem acknack_robust_iff_twoInFlight :
    AcknackRobust twoInFlight.stream 0 1 ∧ ¬ AcknackRobust twoInFlight.stream 0 3 :=
  have hiff (f : SeqNum) := @acknack_robust_iff referenceMicroCdr referenceMicroCdr_lawful
    (fun _ => 0) 64 2 8 ⟨1, by decide, rfl⟩ rfl (by decide) (by decide) twoInFlight
    reachable_twoInFlight 0 f
  ⟨(hiff 1).mpr (by decide +kernel), mt (hiff 3).mp (by decide +kernel)⟩

/-- The first message is acknowledged, and then an older acknowledgement arrives late:
`last_acknown` goes back behind it, and the message still in flight is dropped. -/
theorem stale_acknack_not_robust :
    ∃ st, @OutputReachable referenceMicroCdr (fun _ => 0) 64 2 8 st ∧
      ¬ AcknackRobust st.stream 0 0 := by
  refine ⟨⟨processAcknack twoInFlight.stream 0 1, none⟩, ?_, ?_⟩
  · exact reachable_twoInFlight.tail
      (@OutputStep.acknack referenceMicroCdr twoInFlight 0 1 (by decide +kernel))
  · exact mt AcknackRobust.inRange (by decide +kernel)

end XrceClient
