import XrceClient.Stream.OutputReliable

/-!
# The output window

What an output reliable stream is for: a window over the messages that were written,
of which some are sent and some of those acknowledged.

- `OutputWindow H`: the three counts of the window. They count messages from
  the first on and do not wrap; that they are in order is part of the type.
- `Tracks stream win`: the stream's sequence numbers are the wire images of
  the counts, and the sizes stored in the ring say which messages of the window
  are there.
- `tracks_*`: each function of the stream moves the window as it should.
  `Untouched` is what it leaves alone.
- `Represents stream win`: the same for a history of at most `2^14`. Then the serial order of all
  numbers in the window is that of the counts.
-/

namespace XrceClient

open ByteMemory

/-- The counts of the last acknowledged, the last sent and the last written message
of a window of `H`. -/
structure OutputWindow (H : Nat) where
  acked : Nat
  sent : Nat
  written : Nat
  acked_le_sent : acked ≤ sent
  sent_lt_written : sent < written
  written_le : written ≤ acked + H + 1

namespace OutputReliableStream

/-- The streams within the documented limits: a power-of-two history of at most
`2^14`, and slots with room for a header, a subheader and payload, of less
than 64 KiB. -/
structure WellFormed (stream : OutputReliableStream) : Prop where
  base : stream.base.WellFormed
  history_le : stream.base.history.toNat ≤ 16384
  offset_aligned : stream.offset.toNat % 4 = 0
  offset_lt : stream.offset.toNat + 4 < getReliableBufferCapacity stream.base
  capacity_lt : getReliableBufferCapacity stream.base < 65536

/-- The streams with a power-of-two history, and slots as above. -/
structure Formed (stream : OutputReliableStream) : Prop where
  base : stream.base.WellFormed
  offset_aligned : stream.offset.toNat % 4 = 0
  offset_lt : stream.offset.toNat + 4 < getReliableBufferCapacity stream.base
  capacity_lt : getReliableBufferCapacity stream.base < 65536

theorem WellFormed.formed {stream : OutputReliableStream} (h : stream.WellFormed) :
    stream.Formed :=
  ⟨h.base, h.offset_aligned, h.offset_lt, h.capacity_lt⟩

/-- The size stored in the slot of the `n`-th message. -/
def slotSize (stream : OutputReliableStream) (n : Nat) : Nat :=
  getReliableBufferSize stream.base (UInt16.ofNat n)

/-- The bytes in the slot of the `n`-th message. -/
def slotBytes (stream : OutputReliableStream) (n : Nat) : List UInt8 :=
  stream.base.bytesFrom (UInt16.ofNat n) 0 (getReliableBufferCapacity stream.base)

/-- The slot of the `n`-th message has the same size and bytes in both streams. -/
def Untouched (stream stream' : OutputReliableStream) (n : Nat) : Prop :=
  stream'.slotSize n = stream.slotSize n ∧ stream'.slotBytes n = stream.slotBytes n

/-- The two streams have rings of the same shape. -/
structure SameShape (stream stream' : OutputReliableStream) : Prop where
  size : stream'.base.size = stream.base.size
  history : stream'.base.history = stream.base.history
  offset : stream'.offset = stream.offset

theorem Untouched.refl {stream : OutputReliableStream} {n : Nat} : Untouched stream stream n :=
  ⟨Eq.refl _, Eq.refl _⟩

theorem Untouched.trans {s₁ s₂ s₃ : OutputReliableStream} {n : Nat} (h₁ : Untouched s₁ s₂ n)
    (h₂ : Untouched s₂ s₃ n) : Untouched s₁ s₃ n :=
  ⟨h₂.1.trans h₁.1, h₂.2.trans h₁.2⟩

namespace SameShape

variable {stream stream' : OutputReliableStream}

theorem refl (stream : OutputReliableStream) : SameShape stream stream := ⟨rfl, rfl, rfl⟩

theorem trans {s₁ s₂ s₃ : OutputReliableStream} (h₁ : SameShape s₁ s₂) (h₂ : SameShape s₂ s₃) :
    SameShape s₁ s₃ :=
  ⟨h₂.size.trans h₁.size, h₂.history.trans h₁.history, h₂.offset.trans h₁.offset⟩

theorem stride (h : SameShape stream stream') : stream'.base.stride = stream.base.stride := by
  rw [ReliableStream.stride, h.size, h.history, ReliableStream.stride]

theorem slot (h : SameShape stream stream') (q : SeqNum) :
    stream'.base.slot q = stream.base.slot q := by
  rw [ReliableStream.slot, h.history, ReliableStream.slot]

theorem capacity (h : SameShape stream stream') :
    getReliableBufferCapacity stream'.base = getReliableBufferCapacity stream.base := by
  rw [getReliableBufferCapacity, h.size, h.history, getReliableBufferCapacity]

theorem blockSize (h : SameShape stream stream') :
    availableBlockSize stream' = availableBlockSize stream := by
  rw [availableBlockSize, h.capacity, h.offset, availableBlockSize]

theorem buffer (h : SameShape stream stream') (q : SeqNum) :
    getReliableBuffer stream'.base q = getReliableBuffer stream.base q := by
  rw [ReliableStream.getReliableBuffer_eq, h.slot, h.stride, ReliableStream.getReliableBuffer_eq]

theorem formed (h : SameShape stream stream') (hwf : stream.Formed) : stream'.Formed where
  base :=
    { history := by rw [h.history]; exact hwf.base.history
      stride := by rw [h.stride]; exact hwf.base.stride }
  offset_aligned := by rw [h.offset]; exact hwf.offset_aligned
  offset_lt := by rw [h.offset, h.capacity]; exact hwf.offset_lt
  capacity_lt := by rw [h.capacity]; exact hwf.capacity_lt

end SameShape

theorem Formed.congr {stream stream' : OutputReliableStream} (hwf : stream.Formed)
    (hsize : stream'.base.size = stream.base.size)
    (hhistory : stream'.base.history = stream.base.history)
    (hoffset : stream'.offset = stream.offset) : stream'.Formed :=
  SameShape.formed ⟨hsize, hhistory, hoffset⟩ hwf

/-! ## Slots by count -/

section

variable {stream : OutputReliableStream}

theorem Formed.capacity_eq (hwf : stream.Formed) :
    getReliableBufferCapacity stream.base + 4 = stream.base.stride := by
  have := hwf.base.stride
  rw [ReliableStream.stride] at this ⊢
  rw [getReliableBufferCapacity, internalReliableBufferOffset]
  omega

theorem Formed.blockSize_eq (hwf : stream.Formed) :
    availableBlockSize stream + stream.offset.toNat + 4 =
      getReliableBufferCapacity stream.base := by
  have := hwf.offset_lt
  have := hwf.capacity_lt
  rw [availableBlockSize, subheaderSize]
  omega

/-- The stream with the size of the `n`-th message set. -/
def setSlotSize (stream : OutputReliableStream) (n v : Nat) : OutputReliableStream :=
  { stream with base := setReliableBufferSize stream.base (UInt16.ofNat n) v }

/-- The stream with bytes of the `n`-th message stored. -/
def storeSlotBytes (stream : OutputReliableStream) (n k : Nat) (bs : List UInt8) :
    OutputReliableStream :=
  { stream with base := stream.base.storeBytes (UInt16.ofNat n) k bs }

theorem sameShape_setSlotSize (n v : Nat) : SameShape stream (stream.setSlotSize n v) :=
  ⟨rfl, rfl, rfl⟩

theorem sameShape_storeSlotBytes (n k : Nat) (bs : List UInt8) :
    SameShape stream (stream.storeSlotBytes n k bs) := ⟨rfl, rfl, rfl⟩

theorem slotSize_congr (hwf : stream.Formed) {n m : Nat}
    (h : n % stream.base.history.toNat = m % stream.base.history.toNat) :
    stream.slotSize n = stream.slotSize m := by
  refine ReliableStream.getReliableBufferSize_congr ?_
  rwa [hwf.base.slot_ofNat, hwf.base.slot_ofNat]

theorem slotSize_setSlotSize (hwf : stream.Formed) (n m : Nat) {v : Nat} (hv : v < 2 ^ 32) :
    (stream.setSlotSize n v).slotSize m =
      if m % stream.base.history.toNat = n % stream.base.history.toNat then v
      else stream.slotSize m := by
  have hstride := hwf.base.stride
  rw [slotSize, setSlotSize, ReliableStream.getReliableBufferSize_set (by omega),
    hwf.base.slot_ofNat, hwf.base.slot_ofNat, Nat.mod_eq_of_lt hv, slotSize]

theorem slotSize_setSlotSize_self (hwf : stream.Formed) (n : Nat) {v : Nat}
    (hv : v < 2 ^ 32) : (stream.setSlotSize n v).slotSize n = v := by
  rw [slotSize_setSlotSize hwf n n hv, if_pos rfl]

/-- Setting the size of one message leaves the slots of the others alone. -/
theorem untouched_setSlotSize (hwf : stream.Formed) {n m : Nat} (v : Nat)
    (h : m % stream.base.history.toNat ≠ n % stream.base.history.toNat) :
    Untouched stream (stream.setSlotSize n v) m := by
  have hne : stream.base.slot (UInt16.ofNat m) ≠ stream.base.slot (UInt16.ofNat n) := by
    rwa [hwf.base.slot_ofNat, hwf.base.slot_ofNat]
  have hcap := hwf.capacity_eq
  refine ⟨ReliableStream.getReliableBufferSize_set_other (by omega) hne v, ?_⟩
  rw [slotBytes, (sameShape_setSlotSize n v).capacity]
  exact ReliableStream.bytesFrom_set (by omega) v

/-- Storing bytes of a message leaves all sizes alone. -/
theorem slotSize_storeSlotBytes (hwf : stream.Formed) (n m : Nat) {k : Nat} {bs : List UInt8}
    (hfit : k + bs.length ≤ getReliableBufferCapacity stream.base) :
    (stream.storeSlotBytes n k bs).slotSize m = stream.slotSize m := by
  have hcap := hwf.capacity_eq
  exact ReliableStream.getReliableBufferSize_storeBytes (by omega)

/-- Storing bytes of one message leaves the slots of the others alone. -/
theorem untouched_storeSlotBytes (hwf : stream.Formed) {n m k : Nat} {bs : List UInt8}
    (hfit : k + bs.length ≤ getReliableBufferCapacity stream.base)
    (h : m % stream.base.history.toNat ≠ n % stream.base.history.toNat) :
    Untouched stream (stream.storeSlotBytes n k bs) m := by
  have hne : stream.base.slot (UInt16.ofNat m) ≠ stream.base.slot (UInt16.ofNat n) := by
    rwa [hwf.base.slot_ofNat, hwf.base.slot_ofNat]
  have hcap := hwf.capacity_eq
  refine ⟨slotSize_storeSlotBytes hwf n m hfit, ?_⟩
  rw [slotBytes, (sameShape_storeSlotBytes n k bs).capacity]
  exact ReliableStream.bytesFrom_storeBytes_other hne (by omega) (by omega)

/-- Counts less than a turn of the ring apart own different slots. -/
theorem mod_ne_of_window {H m n : Nat} (hne : m ≠ n) (h₁ : m < n + H) (h₂ : n < m + H) :
    m % H ≠ n % H := by
  intro h
  rcases Nat.lt_or_gt_of_ne hne with hlt | hlt
  · have := Serial.eq_of_mod_eq (by omega) h₂ h
    omega
  · have := Serial.eq_of_mod_eq (by omega) h₁ h.symm
    omega

end

end OutputReliableStream

open OutputReliableStream

/-! ## Representation -/

/-- The stream's sequence numbers and slots are those of the window. -/
structure Tracks {H : Nat} (stream : OutputReliableStream) (win : OutputWindow H) : Prop where
  formed : stream.Formed
  history : stream.base.history.toNat = H
  lastAcknown : stream.lastAcknown = UInt16.ofNat win.acked
  lastSent : stream.lastSent = UInt16.ofNat win.sent
  lastWritten : stream.lastWritten = UInt16.ofNat win.written
  filled : ∀ n, win.acked < n → n < win.written → stream.offset.toNat < stream.slotSize n
  empty : ∀ n, win.written < n → n ≤ win.acked + H → stream.slotSize n = stream.offset.toNat
  offset_le : ∀ n, stream.offset.toNat ≤ stream.slotSize n
  bounded : ∀ n, stream.slotSize n ≤ getReliableBufferCapacity stream.base

namespace Tracks

variable {H : Nat} {stream : OutputReliableStream} {win : OutputWindow H}

theorem history_pos (h : Tracks stream win) : 0 < H := h.history ▸ h.formed.base.history_pos

theorem history_le (h : Tracks stream win) : H ≤ 32768 := h.history ▸ h.formed.base.history_le

theorem history_eq (h : Tracks stream win) : stream.base.history = UInt16.ofNat H := by
  rw [← h.history, UInt16.ofNat_toNat]

theorem slotSize_turn (h : Tracks stream win) (n : Nat) :
    stream.slotSize (n + H) = stream.slotSize n := by
  rw [slotSize, slotSize, ← h.history]
  exact ReliableStream.getReliableBufferSize_congr (h.formed.base.slot_turn n)

/-- The window test of the writing functions, on counts. -/
theorem cmp_lastAvailable (h : Tracks stream win) {n : Nat} (hlo : win.acked < n)
    (hhi : n ≤ win.acked + H + 2) :
    0 ≥ seqNumCmp (UInt16.ofNat n) (seqNumAdd stream.lastAcknown stream.base.history) ↔
      n ≤ win.acked + H := by
  have hH := h.history_le
  rw [h.lastAcknown, h.history_eq, seqNumAdd_ofNat]
  exact seqNumCmp_ofNat_nonpos (by unfold seqNumMidsize; omega) (by unfold seqNumMidsize; omega)

/-- Counts of one window that differ own different slots. -/
theorem mod_ne (h : Tracks stream win) {m n : Nat} (hne : m ≠ n) (h₁ : m < n + H)
    (h₂ : n < m + H) : m % stream.base.history.toNat ≠ n % stream.base.history.toNat := by
  rw [h.history]
  exact mod_ne_of_window hne h₁ h₂

theorem offset_lt_capacity (h : Tracks stream win) :
    stream.offset.toNat < getReliableBufferCapacity stream.base := by
  have := h.formed.offset_lt
  omega

end Tracks

/-! ## Reset -/

/-- The loop of `uxr_reset_output_reliable_stream`, up to position `k`. -/
theorem foldl_setReliableBufferSize (base : ReliableStream) (hwf : base.WellFormed) (v k : Nat)
    (hv : v < 2 ^ 32) (hk : k ≤ base.history.toNat) :
    let base' := (List.range k).foldl
      (fun base i => setReliableBufferSize base (UInt16.ofNat i) v) base
    base'.size = base.size ∧ base'.history = base.history ∧
      ∀ q, base.slot q < k → getReliableBufferSize base' q = v := by
  induction k with
  | zero => exact ⟨rfl, rfl, fun q hq => absurd hq (Nat.not_lt_zero _)⟩
  | succ k ih =>
    obtain ⟨hsize, hhistory, hset⟩ := ih (by omega)
    rw [List.range_succ, List.foldl_append]
    generalize (List.range k).foldl
      (fun base i => setReliableBufferSize base (UInt16.ofNat i) v) base = base' at *
    refine ⟨hsize, hhistory, fun q hq => ?_⟩
    have hslot (p : UInt16) : base'.slot p = base.slot p := by
      rw [ReliableStream.slot, hhistory, ReliableStream.slot]
    have hkslot : base.slot (UInt16.ofNat k) = k := by
      rw [hwf.slot_ofNat, Nat.mod_eq_of_lt (by omega)]
    have hstride : base'.stride = base.stride := by
      rw [ReliableStream.stride, hsize, hhistory, ReliableStream.stride]
    have := hwf.stride
    rw [List.foldl_cons, List.foldl_nil,
      ReliableStream.getReliableBufferSize_set (by omega) (UInt16.ofNat k) q v]
    split
    · exact Nat.mod_eq_of_lt hv
    · next hne =>
      rw [hslot, hslot, hkslot] at hne
      exact hset q (by omega)

/-- A reset stream stands for the empty window whose first message is number
`2^16`, which is 0 on the wire. -/
def OutputWindow.initial (H : Nat) : OutputWindow H where
  acked := 65535
  sent := 65535
  written := 65536
  acked_le_sent := Nat.le_refl _
  sent_lt_written := by omega
  written_le := by omega

theorem sameShape_reset {stream : OutputReliableStream} (hwf : stream.Formed) :
    SameShape stream (resetOutputReliableStream stream) := by
  obtain ⟨hsize, hhistory, -⟩ := foldl_setReliableBufferSize stream.base hwf.base
    stream.offset.toNat stream.base.history.toNat (by have := stream.offset.toNat_lt; omega)
    (Nat.le_refl _)
  exact ⟨hsize, hhistory, rfl⟩

/-- All slots of a reset stream are empty. -/
theorem slotSize_reset {stream : OutputReliableStream} (hwf : stream.Formed) (n : Nat) :
    (resetOutputReliableStream stream).slotSize n = stream.offset.toNat := by
  obtain ⟨-, -, hset⟩ := foldl_setReliableBufferSize stream.base hwf.base
    stream.offset.toNat stream.base.history.toNat (by have := stream.offset.toNat_lt; omega)
    (Nat.le_refl _)
  refine hset _ ?_
  rw [hwf.base.slot_ofNat]
  exact Nat.mod_lt _ hwf.base.history_pos

theorem tracks_reset {stream : OutputReliableStream} (hwf : stream.Formed) :
    Tracks (resetOutputReliableStream stream)
      (OutputWindow.initial stream.base.history.toNat) where
  formed := (sameShape_reset hwf).formed hwf
  history := by rw [(sameShape_reset hwf).history]
  lastAcknown := show seqNumMax = UInt16.ofNat 65535 by decide
  lastSent := show seqNumMax = UInt16.ofNat 65535 by decide
  lastWritten := show (0 : SeqNum) = UInt16.ofNat 65536 by decide
  filled n h₁ h₂ := by
    simp only [OutputWindow.initial] at h₁ h₂
    omega
  empty n _ _ := slotSize_reset hwf n
  offset_le n := by rw [slotSize_reset hwf]; exact Nat.le_refl _
  bounded n := by
    rw [slotSize_reset hwf, (sameShape_reset hwf).capacity]
    have := hwf.offset_lt
    omega

/-! ## Sending -/

section

variable {H : Nat} {stream : OutputReliableStream} {win : OutputWindow H}

/-- The window after the message behind `sent` was sent. -/
def OutputWindow.sendNext (win : OutputWindow H) (h : win.sent < win.acked + H) :
    OutputWindow H where
  acked := win.acked
  sent := win.sent + 1
  written := if win.sent + 1 = win.written then win.written + 1 else win.written
  acked_le_sent := by have := win.acked_le_sent; omega
  sent_lt_written := by have := win.sent_lt_written; split <;> omega
  written_le := by have := win.written_le; split <;> omega

/-- The next message goes out when it has contents, fewer than `H` messages are unacknowledged, and
its number is not behind the last written one in serial order. -/
theorem prepareNext_fst_cmp (h : Tracks stream win) :
    (prepareNextReliableBufferToSend stream).1 = true ↔
      0 ≥ seqNumCmp (UInt16.ofNat (win.sent + 1)) (UInt16.ofNat win.written) ∧
        win.sent < win.acked + H ∧ stream.offset.toNat < stream.slotSize (win.sent + 1) := by
  have hH := h.history_le
  have := win.acked_le_sent
  have := win.sent_lt_written
  have := win.written_le
  have hsub : seqNumSub (UInt16.ofNat win.sent) (UInt16.ofNat win.acked) ≠ UInt16.ofNat H ↔
      win.sent < win.acked + H := by
    rw [seqNumSub_ofNat win.acked_le_sent]
    constructor
    · intro hne
      have : win.sent - win.acked ≠ H := fun heq => hne (by rw [heq])
      omega
    · intro hlt heq
      have := Serial.ofNat_inj_of_lt (by omega) (by omega) heq
      omega
  rw [prepareNextReliableBufferToSend]
  simp only [decide_eq_true_eq]
  rw [h.lastSent, h.lastWritten, h.lastAcknown, h.history_eq, seqNumAdd_one, hsub]
  constructor
  · rintro ⟨hcmp, hlen, hlt⟩
    exact ⟨hcmp, hlt, hlen⟩
  · rintro ⟨hcmp, hlt, hlen⟩
    exact ⟨hcmp, hlen, hlt⟩

theorem prepareNext_false (h : (prepareNextReliableBufferToSend stream).1 = false) :
    (prepareNextReliableBufferToSend stream).2.1 = stream := by
  rw [prepareNextReliableBufferToSend] at h ⊢
  dsimp only at h ⊢
  rw [if_neg (of_decide_eq_false h)]

/-- Sending changes no slot. -/
theorem prepareNext_base : (prepareNextReliableBufferToSend stream).2.1.base = stream.base := by
  rw [prepareNextReliableBufferToSend]
  dsimp only
  split <;> rfl

theorem prepareNext_offset (stream : OutputReliableStream) :
    (prepareNextReliableBufferToSend stream).2.1.offset = stream.offset := by
  rw [prepareNextReliableBufferToSend]
  dsimp only
  split <;> rfl

/-- The output parameters describe the message behind `sent`. -/
theorem prepareNext_nextBuffer (h : Tracks stream win) :
    (prepareNextReliableBufferToSend stream).2.2 =
      { buffer := getReliableBuffer stream.base (UInt16.ofNat (win.sent + 1))
        length := stream.slotSize (win.sent + 1)
        seqNum := UInt16.ofNat (win.sent + 1) } := by
  rw [prepareNextReliableBufferToSend, h.lastSent, seqNumAdd_one]
  rfl

theorem tracks_prepareNext (h : Tracks stream win)
    (hsent : (prepareNextReliableBufferToSend stream).1 = true) :
    ∃ hlt : win.sent < win.acked + H,
      Tracks (prepareNextReliableBufferToSend stream).2.1 (win.sendNext hlt) := by
  obtain ⟨-, hlt, hlen⟩ := (prepareNext_fst_cmp h).mp hsent
  refine ⟨hlt, ?_⟩
  have hH := h.history_le
  have := win.acked_le_sent
  have := win.sent_lt_written
  have := win.written_le
  have hwritten : (UInt16.ofNat (win.sent + 1) = UInt16.ofNat win.written) ↔
      win.sent + 1 = win.written := by
    constructor
    · exact Serial.ofNat_inj_of_lt (by omega) (by omega)
    · intro heq
      rw [heq]
  have hstream : (prepareNextReliableBufferToSend stream).2.1 =
      { stream with
        lastSent := UInt16.ofNat (win.sent + 1)
        lastWritten := UInt16.ofNat (win.sendNext hlt).written } := by
    rw [prepareNextReliableBufferToSend] at hsent ⊢
    dsimp only at hsent ⊢
    rw [if_pos (of_decide_eq_true hsent), h.lastSent, h.lastWritten, seqNumAdd_one,
      OutputWindow.sendNext]
    dsimp only
    congr 1
    by_cases heq : win.sent + 1 = win.written
    · rw [if_pos (hwritten.mpr heq), if_pos heq, seqNumAdd_one]
    · rw [if_neg (mt hwritten.mp heq), if_neg heq]
  rw [hstream]
  exact
    { formed := h.formed.congr rfl rfl rfl
      history := h.history
      lastAcknown := h.lastAcknown
      lastSent := rfl
      lastWritten := rfl
      filled := fun n h₁ h₂ => by
        -- the only new message of the window is the one that was sent
        by_cases hn : n = win.sent + 1
        · rw [hn]
          exact hlen
        · refine h.filled n h₁ ?_
          simp only [OutputWindow.sendNext] at h₂
          split at h₂ <;> omega
      empty := fun n h₁ h₂ => by
        refine h.empty n ?_ h₂
        simp only [OutputWindow.sendNext] at h₁
        split at h₁ <;> omega
      offset_le := h.offset_le
      bounded := h.bounded }

/-! ## Cancelling -/

/-- The window after the send of the message `sent` was cancelled; `isEmpty`
says whether the slot of `written` is empty. -/
def OutputWindow.cancel (win : OutputWindow H) (h : win.acked < win.sent) (isEmpty : Bool) :
    OutputWindow H where
  acked := win.acked
  sent := win.sent - 1
  written := if win.written = win.sent + 1 ∧ isEmpty then win.sent else win.written
  acked_le_sent := by omega
  sent_lt_written := by have := win.sent_lt_written; split <;> omega
  written_le := by have := win.written_le; have := win.sent_lt_written; split <;> omega

theorem cancel_eq (h : Tracks stream win) (hlt : win.acked < win.sent) :
    cancelReliableBufferToSend stream (UInt16.ofNat win.sent) =
      { stream with
        lastSent := UInt16.ofNat (win.sent - 1)
        lastWritten := UInt16.ofNat
          (win.cancel hlt (stream.offset.toNat = stream.slotSize (win.sent + 1))).written } := by
  have hH := h.history_le
  have := win.acked_le_sent
  have := win.sent_lt_written
  have := win.written_le
  have hwritten : (UInt16.ofNat win.written = UInt16.ofNat (win.sent + 1)) ↔
      win.written = win.sent + 1 := by
    constructor
    · intro heq
      exact (Serial.ofNat_inj_of_lt (by omega) (by omega) heq.symm).symm
    · intro heq
      rw [heq]
  rw [cancelReliableBufferToSend, h.lastWritten, seqNumAdd_one, seqNumSub_one (by omega),
    OutputWindow.cancel]
  simp only [hwritten]
  congr 1
  by_cases hc : win.written = win.sent + 1 ∧ stream.offset.toNat = stream.slotSize (win.sent + 1)
  · refine (if_pos hc).trans (congrArg UInt16.ofNat ?_)
    exact (if_pos ⟨hc.1, decide_eq_true hc.2⟩).symm
  · refine (if_neg hc).trans (congrArg UInt16.ofNat ?_)
    exact (if_neg fun h' => hc ⟨h'.1, of_decide_eq_true h'.2⟩).symm

theorem tracks_cancel (h : Tracks stream win) (hlt : win.acked < win.sent) :
    Tracks (cancelReliableBufferToSend stream (UInt16.ofNat win.sent))
      (win.cancel hlt (stream.offset.toNat = stream.slotSize (win.sent + 1))) := by
  rw [cancel_eq h hlt]
  have := win.sent_lt_written
  exact
    { formed := h.formed.congr rfl rfl rfl
      history := h.history
      lastAcknown := h.lastAcknown
      lastSent := rfl
      lastWritten := rfl
      filled := fun n h₁ h₂ => by
        refine h.filled n h₁ ?_
        simp only [OutputWindow.cancel] at h₂
        split at h₂ <;> omega
      empty := fun n h₁ h₂ => by
        simp only [OutputWindow.cancel] at h₁ h₂
        split at h₁
        · next hc =>
          obtain ⟨hwritten, hempty⟩ := hc
          -- the slot behind the cancelled message is empty, or it would have stayed in the window
          by_cases hn : n = win.sent + 1
          · rw [hn]
            exact (of_decide_eq_true hempty).symm
          · exact h.empty n (by omega) h₂
        · exact h.empty n h₁ h₂
      offset_le := h.offset_le
      bounded := h.bounded }

/-! ## Acknowledging -/

/-- The window with the messages up to `acked` acknowledged. -/
def OutputWindow.acknowledge (win : OutputWindow H) (acked : Nat) (hle : win.acked ≤ acked)
    (hsent : acked ≤ win.sent) : OutputWindow H where
  acked := acked
  sent := win.sent
  written := win.written
  acked_le_sent := hsent
  sent_lt_written := win.sent_lt_written
  written_le := by have := win.written_le; omega

/-- One turn of the loop of `uxr_process_acknack`. -/
theorem tracks_cleanBuffer (h : Tracks stream win) (hlt : win.acked < win.sent) :
    Tracks
      { stream.setSlotSize (win.acked + 1) stream.offset.toNat with
        lastAcknown := UInt16.ofNat (win.acked + 1) }
      (win.acknowledge (win.acked + 1) (Nat.le_succ _) hlt) := by
  have hH := h.history_pos
  have := win.sent_lt_written
  have := win.written_le
  have hcapacity := h.offset_lt_capacity
  have hoffset : stream.offset.toNat < 2 ^ 32 := by have := stream.offset.toNat_lt; omega
  have hset (n : Nat) := slotSize_setSlotSize h.formed (win.acked + 1) n hoffset
  exact
    { formed := h.formed.congr rfl rfl rfl
      history := h.history
      lastAcknown := rfl
      lastSent := h.lastSent
      lastWritten := h.lastWritten
      filled := fun n h₁ h₂ => by
        simp only [OutputWindow.acknowledge] at h₁ h₂
        have hne := h.mod_ne (m := n) (n := win.acked + 1) (by omega) (by omega) (by omega)
        refine Nat.lt_of_lt_of_eq (h.filled n (by omega) h₂) ?_
        exact ((hset n).trans (if_neg hne)).symm
      empty := fun n h₁ h₂ => by
        simp only [OutputWindow.acknowledge] at h₁ h₂
        -- the one slot that joins the window is that of the acknowledged message
        by_cases hn : n = win.acked + 1 + H
        · refine (hset n).trans (if_pos ?_)
          rw [hn, h.history, Nat.add_mod_right]
        · refine (hset n).trans ?_
          rw [if_neg (h.mod_ne (by omega) (by omega) (by omega))]
          exact h.empty n h₁ (by omega)
      offset_le := fun n => by
        refine le_of_le_of_eq ?_ (hset n).symm
        split
        · exact Nat.le_refl _
        · exact h.offset_le n
      bounded := fun n => by
        refine le_of_eq_of_le (hset n) ?_
        split
        · exact Nat.le_of_lt h.offset_lt_capacity
        · exact h.bounded n }

/-- The loop of `uxr_process_acknack` acknowledges that many messages. -/
theorem tracks_cleanBuffers (h : Tracks stream win) (k : Nat)
    (hk : win.acked + k ≤ win.sent) :
    Tracks (cleanBuffers k stream) (win.acknowledge (win.acked + k) (Nat.le_add_right _ _) hk) := by
  induction k generalizing stream win with
  | zero => exact h
  | succ k ih =>
    rw [cleanBuffers, h.lastAcknown, seqNumAdd_one]
    have hone := tracks_cleanBuffer h (by omega)
    have hrest := ih hone (by simp only [OutputWindow.acknowledge]; omega)
    simp only [OutputWindow.acknowledge, Nat.add_assoc, Nat.add_comm 1 k] at hrest
    exact hrest

/-- The last acknowledged number, after any acknowledgement at all. -/
theorem cleanBuffers_lastAcknown (k : Nat) (stream : OutputReliableStream) :
    (cleanBuffers k stream).lastAcknown = stream.lastAcknown + UInt16.ofNat k := by
  induction k generalizing stream with
  | zero => simp [cleanBuffers]
  | succ k ih =>
    rw [cleanBuffers, ih, seqNumAdd_eq, UInt16.add_assoc, ← UInt16.ofNat_one,
      Serial.ofNat_add_ofNat, Nat.add_comm 1 k]

theorem sameShape_cleanBuffers (k : Nat) (stream : OutputReliableStream) :
    SameShape stream (cleanBuffers k stream) := by
  induction k generalizing stream with
  | zero => exact SameShape.refl stream
  | succ k ih =>
    have hone : SameShape stream
        { stream.setSlotSize (seqNumAdd stream.lastAcknown 1).toNat stream.offset.toNat with
          lastAcknown := seqNumAdd stream.lastAcknown 1 } := ⟨rfl, rfl, rfl⟩
    rw [setSlotSize, UInt16.ofNat_toNat] at hone
    exact hone.trans (ih _)

end

/-! ## A history within the documented limits -/

/-- The stream's sequence numbers and slots are those of the window. -/
structure Represents {H : Nat} (stream : OutputReliableStream) (win : OutputWindow H) : Prop where
  wellFormed : stream.WellFormed
  history : stream.base.history.toNat = H
  lastAcknown : stream.lastAcknown = UInt16.ofNat win.acked
  lastSent : stream.lastSent = UInt16.ofNat win.sent
  lastWritten : stream.lastWritten = UInt16.ofNat win.written
  filled : ∀ n, win.acked < n → n < win.written → stream.offset.toNat < stream.slotSize n
  empty : ∀ n, win.written < n → n ≤ win.acked + H → stream.slotSize n = stream.offset.toNat
  offset_le : ∀ n, stream.offset.toNat ≤ stream.slotSize n
  bounded : ∀ n, stream.slotSize n ≤ getReliableBufferCapacity stream.base

section

variable {H : Nat} {stream : OutputReliableStream} {win : OutputWindow H}

theorem Represents.tracks (h : Represents stream win) : Tracks stream win where
  formed := h.wellFormed.formed
  history := h.history
  lastAcknown := h.lastAcknown
  lastSent := h.lastSent
  lastWritten := h.lastWritten
  filled := h.filled
  empty := h.empty
  offset_le := h.offset_le
  bounded := h.bounded

theorem Tracks.represents (h : Tracks stream win) (hH : H ≤ 16384) : Represents stream win where
  wellFormed :=
    { base := h.formed.base
      history_le := h.history ▸ hH
      offset_aligned := h.formed.offset_aligned
      offset_lt := h.formed.offset_lt
      capacity_lt := h.formed.capacity_lt }
  history := h.history
  lastAcknown := h.lastAcknown
  lastSent := h.lastSent
  lastWritten := h.lastWritten
  filled := h.filled
  empty := h.empty
  offset_le := h.offset_le
  bounded := h.bounded

theorem Represents.history_le (h : Represents stream win) : H ≤ 16384 :=
  h.history ▸ h.wellFormed.history_le

/-- The next message goes out exactly when it has contents and fewer than `H`
messages are unacknowledged. -/
theorem prepareNext_fst (h : Represents stream win) :
    (prepareNextReliableBufferToSend stream).1 = true ↔
      win.sent < win.acked + H ∧ stream.offset.toNat < stream.slotSize (win.sent + 1) := by
  have hH := h.history_le
  have := win.acked_le_sent
  have := win.sent_lt_written
  have := win.written_le
  have hcmp := seqNumCmp_ofNat_nonpos (m := win.sent + 1) (n := win.written)
    (by unfold seqNumMidsize; omega) (by unfold seqNumMidsize; omega)
  rw [prepareNext_fst_cmp h.tracks, hcmp]
  constructor
  · rintro ⟨-, hroom⟩
    exact hroom
  · intro hroom
    exact ⟨by omega, hroom⟩

end

end XrceClient
