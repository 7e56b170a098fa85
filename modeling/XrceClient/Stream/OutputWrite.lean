import XrceClient.Stream.OutputWindow

/-!
# Writing moves the output window

`uxr_prepare_reliable_buffer_to_write` has three ways to grant room. Each is
described by what it does to the slots, and each keeps the window.

- `getAvailableFreeSlots_eq`: the free slots are those from the first slot that
  can be opened on.
- `writeInCurrentBuffer_eq`, `writeInNewBuffer_eq`: one slot changes its size.
- `Rewrites stream stream' n k`: only the `k` slots from the `n`-th message on
  may differ. `writeFragments_tracks` is assembled from it and from the
  arithmetic of `fragmentCounts`.
- `tracks_write`: the window after any write.
-/

namespace XrceClient

open ByteMemory OutputReliableStream

section

variable {H : Nat} {stream : OutputReliableStream} {win : OutputWindow H}

/-! ## Free slots -/

/-- The first message of the window whose slot can be opened: the last written
one as long as it has no contents. -/
def firstOpenable (stream : OutputReliableStream) (win : OutputWindow H) : Nat :=
  if stream.slotSize win.written = stream.offset.toNat then win.written else win.written + 1

theorem le_firstOpenable : win.written ≤ firstOpenable stream win := by
  unfold firstOpenable
  split <;> omega

theorem firstOpenable_le : firstOpenable stream win ≤ win.written + 1 := by
  unfold firstOpenable
  split <;> omega

/-- A slot of the window is empty exactly when its message is not before the
first that can be opened. -/
theorem Tracks.empty_iff (h : Tracks stream win) {n : Nat} (h₁ : win.acked < n)
    (h₂ : n ≤ win.acked + H) :
    stream.slotSize n = stream.offset.toNat ↔ firstOpenable stream win ≤ n := by
  unfold firstOpenable
  rcases Nat.lt_trichotomy n win.written with hn | hn | hn
  · have := h.filled n h₁ hn
    constructor
    · omega
    · intro hle
      split at hle <;> omega
  · rw [← hn]
    constructor
    · intro hempty
      rw [if_pos hempty]
    · intro hle
      by_contra hne
      rw [if_neg hne] at hle
      omega
  · have := h.empty n hn h₂
    constructor
    · intro _
      split <;> omega
    · intro _
      exact this

theorem card_free (h : Tracks stream win) :
    getAvailableFreeSlots stream =
      ((Finset.Ico (win.acked + 1) (win.acked + 1 + H)).filter
        (fun n => stream.slotSize n = stream.offset.toNat)).card := by
  have hperiodic : Function.Periodic (fun n => stream.slotSize n = stream.offset.toNat) H := by
    intro n
    dsimp only
    rw [h.slotSize_turn]
  rw [Nat.filter_Ico_card_eq_of_periodic _ _ _ hperiodic, getAvailableFreeSlots, h.history]
  rfl

/-- The free slots are those of the messages from the first openable one on. -/
theorem getAvailableFreeSlots_eq (h : Tracks stream win) :
    getAvailableFreeSlots stream = win.acked + H + 1 - firstOpenable stream win := by
  have hlo := win.acked_le_sent
  have hmid := win.sent_lt_written
  have hfirst : win.written ≤ firstOpenable stream win := le_firstOpenable
  have hfilter : (Finset.Ico (win.acked + 1) (win.acked + 1 + H)).filter
      (fun n => stream.slotSize n = stream.offset.toNat) =
      Finset.Ico (firstOpenable stream win) (win.acked + H + 1) := by
    ext n
    rw [Finset.mem_filter, Finset.mem_Ico, Finset.mem_Ico]
    constructor
    · rintro ⟨⟨h₁, h₂⟩, hempty⟩
      exact ⟨(h.empty_iff (by omega) (by omega)).mp hempty, by omega⟩
    · rintro ⟨h₁, h₂⟩
      exact ⟨⟨by omega, by omega⟩, (h.empty_iff (by omega) (by omega)).mpr h₁⟩
  rw [card_free h, hfilter, Nat.card_Ico]

/-! ## Slots rewritten by a write -/

/-- Only the slots of the messages from `first` on, up to `stop`, may differ in the
two streams, and `lastWritten`. -/
structure Rewrites (stream stream' : OutputReliableStream) (first stop : Nat) : Prop where
  shape : SameShape stream stream'
  lastAcknown : stream'.lastAcknown = stream.lastAcknown
  lastSent : stream'.lastSent = stream.lastSent
  untouched : ∀ m, (∀ j, first ≤ j → j < stop →
    m % stream.base.history.toNat ≠ j % stream.base.history.toNat) → Untouched stream stream' m

namespace Rewrites

theorem refl (stream : OutputReliableStream) (first stop : Nat) :
    Rewrites stream stream first stop :=
  ⟨SameShape.refl stream, rfl, rfl, fun _ _ => Untouched.refl⟩

theorem trans {s₁ s₂ s₃ : OutputReliableStream} {first stop : Nat}
    (h₁ : Rewrites s₁ s₂ first stop) (h₂ : Rewrites s₂ s₃ first stop) :
    Rewrites s₁ s₃ first stop where
  shape := h₁.shape.trans h₂.shape
  lastAcknown := h₂.lastAcknown.trans h₁.lastAcknown
  lastSent := h₂.lastSent.trans h₁.lastSent
  untouched m hm := by
    refine (h₁.untouched m hm).trans (h₂.untouched m ?_)
    rw [h₁.shape.history]
    exact hm

theorem mono {s₁ s₂ : OutputReliableStream} {first stop first' stop' : Nat}
    (h : Rewrites s₁ s₂ first stop) (hfirst : first' ≤ first) (hstop : stop ≤ stop') :
    Rewrites s₁ s₂ first' stop' :=
  ⟨h.shape, h.lastAcknown, h.lastSent, fun m hm =>
    h.untouched m fun j h₁ h₂ => hm j (by omega) (by omega)⟩

theorem setSlotSize (hwf : stream.Formed) (n v : Nat) :
    Rewrites stream (stream.setSlotSize n v) n (n + 1) :=
  ⟨sameShape_setSlotSize n v, rfl, rfl, fun _ hm =>
    untouched_setSlotSize hwf v (hm n (Nat.le_refl _) (Nat.lt_succ_self _))⟩

theorem storeSlotBytes (hwf : stream.Formed) (n : Nat) {k : Nat} {bs : List UInt8}
    (hfit : k + bs.length ≤ getReliableBufferCapacity stream.base) :
    Rewrites stream (stream.storeSlotBytes n k bs) n (n + 1) :=
  ⟨sameShape_storeSlotBytes n k bs, rfl, rfl, fun _ hm =>
    untouched_storeSlotBytes hwf hfit (hm n (Nat.le_refl _) (Nat.lt_succ_self _))⟩

/-- Nothing is said about `lastWritten`. -/
theorem withLastWritten {s₁ s₂ : OutputReliableStream} {first stop : Nat}
    (h : Rewrites s₁ s₂ first stop) (lastWritten : SeqNum) :
    Rewrites s₁ { s₂ with lastWritten } first stop :=
  ⟨⟨h.shape.size, h.shape.history, h.shape.offset⟩, h.lastAcknown, h.lastSent, h.untouched⟩

/-- A message of the window before the rewritten slots is untouched. -/
theorem untouched_before (h : Tracks stream win) {stream' : OutputReliableStream}
    {first written n : Nat} (hrw : Rewrites stream stream' first (written + 1))
    (hwin : written ≤ win.acked + H) (h₁ : win.acked < n) (h₂ : n < first) :
    Untouched stream stream' n :=
  hrw.untouched n fun j hj₁ hj₂ => h.mod_ne (by omega) (by omega) (by omega)

end Rewrites

/-- The window after a write whose last slot is that of the message `written`. -/
def OutputWindow.write (win : OutputWindow H) (written : Nat) (hle : win.written ≤ written)
    (hwin : written ≤ win.acked + H) : OutputWindow H where
  acked := win.acked
  sent := win.sent
  written := written
  acked_le_sent := win.acked_le_sent
  sent_lt_written := Nat.lt_of_lt_of_le win.sent_lt_written hle
  written_le := by omega

/-- A write that rewrites the slots from `first` to `written`, and leaves contents
in all of them but perhaps the last, moves the window to `written`. -/
theorem tracks_rewrite (h : Tracks stream win) {stream' : OutputReliableStream}
    {first written : Nat} (hrw : Rewrites stream stream' first (written + 1))
    (hlastWritten : stream'.lastWritten = UInt16.ofNat written)
    (hfirst : win.written ≤ first) (hle : first ≤ written) (hwin : written ≤ win.acked + H)
    (hskipped : ∀ n, win.written ≤ n → n < first → stream.offset.toNat < stream.slotSize n)
    (hfilled : ∀ n, first ≤ n → n < written → stream.offset.toNat < stream'.slotSize n)
    (hlast : stream.offset.toNat ≤ stream'.slotSize written)
    (hbounded : ∀ n, first ≤ n → n ≤ written →
      stream'.slotSize n ≤ getReliableBufferCapacity stream.base) :
    Tracks stream' (win.write written (by omega) hwin) := by
  have hacked := win.acked_le_sent
  have hsent := win.sent_lt_written
  have hwf' := hrw.shape.formed h.formed
  -- every slot of the ring is either untouched or that of a rewritten message
  have hslots (n : Nat) : stream'.slotSize n = stream.slotSize n ∨
      ∃ j, first ≤ j ∧ j ≤ written ∧ stream'.slotSize n = stream'.slotSize j := by
    by_cases hex : ∃ j, first ≤ j ∧ j < written + 1 ∧
        n % stream.base.history.toNat = j % stream.base.history.toNat
    · obtain ⟨j, hj₁, hj₂, hj⟩ := hex
      refine .inr ⟨j, hj₁, by omega, slotSize_congr hwf' ?_⟩
      rwa [hrw.shape.history]
    · left
      refine (hrw.untouched n fun j hj₁ hj₂ heq => ?_).1
      exact hex ⟨j, hj₁, hj₂, heq⟩
  exact
    { formed := hwf'
      history := by rw [hrw.shape.history]; exact h.history
      lastAcknown := hrw.lastAcknown.trans h.lastAcknown
      lastSent := hrw.lastSent.trans h.lastSent
      lastWritten := hlastWritten
      filled := fun n h₁ h₂ => by
        simp only [OutputWindow.write] at h₁ h₂
        rw [hrw.shape.offset]
        rcases Nat.lt_or_ge n first with hn | hn
        · rw [(hrw.untouched_before h hwin h₁ hn).1]
          rcases Nat.lt_or_ge n win.written with hn' | hn'
          · exact h.filled n h₁ hn'
          · exact hskipped n hn' hn
        · exact hfilled n hn h₂
      empty := fun n h₁ h₂ => by
        simp only [OutputWindow.write] at h₁ h₂
        have hsame := hrw.untouched n fun j hj₁ hj₂ => h.mod_ne (by omega) (by omega) (by omega)
        rw [hsame.1, hrw.shape.offset]
        exact h.empty n (by omega) h₂
      offset_le := fun n => by
        rw [hrw.shape.offset]
        rcases hslots n with hn | ⟨j, hj₁, hj₂, hn⟩
        · rw [hn]
          exact h.offset_le n
        · rw [hn]
          rcases Nat.lt_or_ge j written with hj | hj
          · exact Nat.le_of_lt (hfilled j hj₁ hj)
          · rwa [Nat.le_antisymm hj₂ hj]
      bounded := fun n => by
        rw [hrw.shape.capacity]
        rcases hslots n with hn | ⟨j, hj₁, hj₂, hn⟩
        · rw [hn]
          exact h.bounded n
        · rw [hn]
          exact hbounded j hj₁ hj₂ }

/-! ## One slot -/

section OneSlot

variable [MicroCdr]

theorem writeInCurrentBuffer_eq (h : Tracks stream win) (bufferSize length : Nat)
    (ub : UcdrBuffer) :
    writeInCurrentBuffer stream bufferSize length ub =
      if win.written ≤ win.acked + H then
        (true, stream.setSlotSize win.written (bufferSize + length),
          ucdrInitBufferOriginOffset (getReliableBuffer stream.base (UInt16.ofNat win.written))
            ((bufferSize + length) % 2 ^ 32) 0 (bufferSize % 2 ^ 32))
      else
        (false, stream, ub) := by
  have := win.acked_le_sent
  have := win.sent_lt_written
  have := win.written_le
  have hcmp := h.cmp_lastAvailable (n := win.written) (by omega) (by omega)
  rw [setSlotSize, ← h.lastWritten]
  rw [← h.lastWritten] at hcmp
  rw [writeInCurrentBuffer]
  simp only [hcmp]

theorem writeInNewBuffer_eq (h : Tracks stream win) (length : Nat) (ub : UcdrBuffer) :
    writeInNewBuffer stream length ub =
      if win.written + 1 ≤ win.acked + H then
        (true,
          { stream.setSlotSize (win.written + 1) (stream.offset.toNat + length) with
            lastWritten := UInt16.ofNat (win.written + 1) },
          ucdrInitBufferOriginOffset
            (getReliableBuffer stream.base (UInt16.ofNat (win.written + 1)))
            ((stream.offset.toNat + length) % 2 ^ 32) 0 stream.offset.toNat)
      else
        (false, stream, ub) := by
  have := win.acked_le_sent
  have := win.sent_lt_written
  have := win.written_le
  have hcmp := h.cmp_lastAvailable (n := win.written + 1) (by omega) (by omega)
  rw [writeInNewBuffer, h.lastWritten]
  simp only [seqNumAdd_one, hcmp]
  rfl

end OneSlot

/-! ## Several slots -/

/-- Of the bytes behind the first block, the last block takes at least one and at
most a block, and `k` blocks are enough when they hold all of them. -/
theorem fragmentCounts_spec (blockSize first length k : Nat) (hblock : 0 < blockSize)
    (hfirst : first < length) (hlength : length ≤ first + blockSize * k) (hk : k < 65536) :
    let (last, blocks) := fragmentCounts blockSize first length
    0 < last ∧ last ≤ blockSize ∧ 0 < blocks ∧ blocks ≤ k ∧
      length = first + blockSize * (blocks - 1) + last := by
  have hdiv := Nat.div_add_mod (length - first) blockSize
  have hmod := Nat.mod_lt (length - first) hblock
  have hq : (length - first) / blockSize ≤ k := by
    refine Nat.div_le_of_le_mul ?_
    omega
  by_cases hr : (length - first) % blockSize = 0
  · rw [show fragmentCounts blockSize first length =
      (blockSize, (length - first) / blockSize % 65536) from if_pos hr]
    dsimp only
    generalize (length - first) / blockSize = q at hdiv hq ⊢
    have hq0 : 0 < q := by
      rcases Nat.eq_zero_or_pos q with rfl | h
      · omega
      · exact h
    rw [Nat.mod_eq_of_lt (by omega)]
    refine ⟨hblock, Nat.le_refl _, hq0, hq, ?_⟩
    obtain ⟨p, rfl⟩ := Nat.exists_eq_add_of_le' hq0
    rw [Nat.mul_succ] at hdiv
    rw [Nat.add_sub_cancel]
    omega
  · rw [show fragmentCounts blockSize first length =
      ((length - first) % blockSize, ((length - first) / blockSize + 1) % 65536) from if_neg hr]
    dsimp only
    generalize (length - first) / blockSize = q at hdiv hq ⊢
    generalize (length - first) % blockSize = r at hdiv hmod hr ⊢
    have hqk : q + 1 ≤ k := by
      by_contra hlt
      have := Nat.mul_le_mul_left blockSize (show k ≤ q by omega)
      omega
    rw [Nat.mod_eq_of_lt (by omega)]
    refine ⟨by omega, by omega, by omega, hqk, ?_⟩
    rw [Nat.add_sub_cancel]
    omega

/-! ### Fragments in slots -/

/-- Where a submessage starts in a slot with contents of that size. -/
def headerStart (size : Nat) : Nat := size + (4 - size % 4) % 4

theorem headerStart_aligned {size : Nat} (h : size % 4 = 0) : headerStart size = size := by
  rw [headerStart, h]
  rfl

/-- The number of bytes that the slot of a sequence number holds behind the header of a
fragment, which was written behind the contents that the slot had before. -/
def fragmentLength (before after : OutputReliableStream) (seqNum : SeqNum) : Nat :=
  getReliableBufferSize after.base seqNum -
    (headerStart (getReliableBufferSize before.base seqNum) + 4)

/-- A fragment was written to the slot of a sequence number. -/
structure FragmentAt [MicroCdr] (before after : OutputReliableStream) (seqNum : SeqNum)
    (flags : UInt8) : Prop where
  header : after.base.bytesFrom seqNum (headerStart (getReliableBufferSize before.base seqNum)) 4 =
    submessageHeaderBytes SubmessageId.fragment.value
      (UInt16.ofNat (fragmentLength before after seqNum)) flags
  room : headerStart (getReliableBufferSize before.base seqNum) + 4 <
    getReliableBufferSize after.base seqNum
  bounded : getReliableBufferSize after.base seqNum ≤ getReliableBufferCapacity before.base
  kept : after.base.bytesFrom seqNum 0 (getReliableBufferSize before.base seqNum) =
    before.base.bytesFrom seqNum 0 (getReliableBufferSize before.base seqNum)

/-- Bytes of an untouched slot. -/
theorem OutputReliableStream.Untouched.bytesFrom {s s' : OutputReliableStream} {n : Nat} (h : Untouched s s' n)
    (hshape : SameShape s s') {k len : Nat} (hfit : k + len ≤ getReliableBufferCapacity s.base) :
    s'.base.bytesFrom (UInt16.ofNat n) k len = s.base.bytesFrom (UInt16.ofNat n) k len := by
  have hwithin (s₀ : OutputReliableStream) (hfit : k + len ≤ getReliableBufferCapacity s₀.base) :
      s₀.base.bytesFrom (UInt16.ofNat n) k len = ((s₀.slotBytes n).drop k).take len := by
    rw [slotBytes, ReliableStream.bytesFrom, ReliableStream.bytesFrom, Nat.add_zero]
    exact read_within _ _ hfit
  rw [hwithin s' (by rw [hshape.capacity]; exact hfit), hwithin s hfit, h.2]

section

variable [MicroCdr] {before after s : OutputReliableStream} {n : Nat} {flags : UInt8}

/-- What a fragment is written behind only matters in its own slot. -/
theorem FragmentAt.of_untouched_before (h : FragmentAt s after (UInt16.ofNat n) flags)
    (huntouched : Untouched before s n) (hshape : SameShape before s)
    (hbounded : before.slotSize n ≤ getReliableBufferCapacity before.base) :
    FragmentAt before after (UInt16.ofNat n) flags := by
  have hsize : getReliableBufferSize s.base (UInt16.ofNat n) =
      getReliableBufferSize before.base (UInt16.ofNat n) := huntouched.1
  have hkept := h.kept
  have hheader := h.header
  rw [fragmentLength, hsize] at hheader
  rw [hsize, huntouched.bytesFrom hshape (Nat.zero_add (before.slotSize n) ▸ hbounded)] at hkept
  exact ⟨hheader, hsize ▸ h.room, hshape.capacity ▸ h.bounded, hkept⟩

/-- A fragment stays as long as its slot does. -/
theorem FragmentAt.of_untouched_after (h : FragmentAt before s (UInt16.ofNat n) flags)
    (huntouched : Untouched s after n) (hbefore : SameShape before s) (hshape : SameShape s after)
    (hbounded : before.slotSize n ≤ getReliableBufferCapacity before.base) :
    FragmentAt before after (UInt16.ofNat n) flags := by
  have hsize : getReliableBufferSize after.base (UInt16.ofNat n) =
      getReliableBufferSize s.base (UInt16.ofNat n) := huntouched.1
  have hroom := h.room
  have hfit := h.bounded
  have hcapacity := hbefore.capacity
  refine ⟨?_, hsize ▸ h.room, hsize ▸ h.bounded, ?_⟩
  · rw [huntouched.bytesFrom hshape (by omega), fragmentLength, hsize]
    exact h.header
  · rw [huntouched.bytesFrom hshape]
    · exact h.kept
    · rw [Nat.zero_add, hcapacity]
      exact hbounded

/-- Nothing is said about `lastWritten`. -/
theorem FragmentAt.withLastWritten {seqNum : SeqNum} (h : FragmentAt before after seqNum flags)
    (lastWritten : SeqNum) : FragmentAt before { after with lastWritten } seqNum flags :=
  ⟨h.header, h.room, h.bounded, h.kept⟩

end

section Fragments

variable [MicroCdr] [LawfulMicroCdr]

/-- A FRAGMENT header behind the contents of a slot is four bytes of that slot. -/
theorem writeFragmentHeader_eq (n : Nat) (fragmentSize : UInt16) (flags : UInt8)
    (hfit : headerStart (stream.slotSize n) + 4 ≤ getReliableBufferCapacity stream.base) :
    writeFragmentHeader stream (UInt16.ofNat n) fragmentSize flags =
      stream.storeSlotBytes n (headerStart (stream.slotSize n))
        (submessageHeaderBytes SubmessageId.fragment.value fragmentSize flags) := by
  rw [slotSize, headerStart] at hfit
  rw [slotSize, headerStart]
  generalize hsize : getReliableBufferSize stream.base (UInt16.ofNat n) = size at hfit
  rw [writeFragmentHeader, LawfulMicroCdr.init, hsize]
  dsimp only
  rw [bufferSubmessageHeader_plain]
  · simp [UcdrBuffer.padding, storeSlotBytes, ReliableStream.storeBytes, Nat.add_assoc]
  · rfl
  · simp [UcdrBuffer.padding]
    omega
  · simp [UcdrBuffer.padding]
    omega

/-- A fragment of that size is written to a slot: its header goes behind the contents. -/
theorem writeFragment_spec (hwf : stream.Formed) (n : Nat) (fragmentSize : UInt16) (flags : UInt8)
    {size : Nat} (hroom : headerStart (stream.slotSize n) + 4 < size)
    (hfit : size ≤ getReliableBufferCapacity stream.base)
    (hfragment : fragmentSize = UInt16.ofNat (size - (headerStart (stream.slotSize n) + 4))) :
    let stream' := (writeFragmentHeader stream (UInt16.ofNat n) fragmentSize flags).setSlotSize n size
    Rewrites stream stream' n (n + 1) ∧ stream'.slotSize n = size ∧
      FragmentAt stream stream' (UInt16.ofNat n) flags := by
  have hcapacity := hwf.capacity_eq
  have hbound := hwf.capacity_lt
  have hstart : stream.slotSize n ≤ headerStart (stream.slotSize n) := Nat.le_add_right _ _
  rw [writeFragmentHeader_eq n fragmentSize flags (by omega)]
  obtain ⟨header, hheader⟩ : ∃ header, header =
      submessageHeaderBytes SubmessageId.fragment.value fragmentSize flags := ⟨_, rfl⟩
  have hlength : header.length = 4 := by rw [hheader, submessageHeaderBytes_length]
  rw [← hheader]
  have hstored : headerStart (stream.slotSize n) + header.length ≤
      getReliableBufferCapacity stream.base := by omega
  have hwf₁ := (@sameShape_storeSlotBytes stream n (headerStart (stream.slotSize n)) header).formed hwf
  have hsize := slotSize_setSlotSize_self hwf₁ n (show size < 2 ^ 32 by omega)
  refine ⟨(Rewrites.storeSlotBytes hwf n hstored).trans (Rewrites.setSlotSize hwf₁ n size), hsize, ?_⟩
  rw [slotSize] at hsize
  -- setting the size leaves the bytes of the slot alone
  have hbytes (k len : Nat) (h : k + len ≤ getReliableBufferCapacity stream.base) :
      ((stream.storeSlotBytes n (headerStart (stream.slotSize n)) header).setSlotSize n
          size).base.bytesFrom (UInt16.ofNat n) k len =
        (stream.base.storeBytes (UInt16.ofNat n) (headerStart (stream.slotSize n))
          header).bytesFrom (UInt16.ofNat n) k len := by
    have hstride : (stream.storeSlotBytes n (headerStart (stream.slotSize n)) header).base.stride =
        stream.base.stride := ReliableStream.storeBytes_stride _ _ _ _
    refine ReliableStream.bytesFrom_set ?_ size
    rw [hstride]
    omega
  refine ⟨?_, ?_, ?_, ?_⟩
  · have hsame := ReliableStream.bytesFrom_storeBytes_same
      (Eq.refl (stream.base.slot (UInt16.ofNat n))) (headerStart (stream.slotSize n)) header
    rw [hlength] at hsame
    rw [fragmentLength, hsize, hbytes _ _ (by rw [← slotSize]; omega)]
    exact hsame.trans (by rw [hheader, hfragment, slotSize])
  · rw [hsize]
    exact hroom
  · rw [hsize]
    exact hfit
  · rw [hbytes _ _ (by rw [← slotSize]; omega)]
    exact ReliableStream.bytesFrom_storeBytes_before (UInt16.ofNat n)
      ((Nat.zero_add (stream.slotSize n)).symm ▸ hstart)

/-- The slots after the loop over the complete blocks: `k` slots from the `n`-th message on are
full, with a fragment behind what they contained. -/
theorem writeCompleteBlocks_spec (hwf : stream.Formed) (k n : Nat) (fragmentSize : UInt16)
    (hk : k ≤ stream.base.history.toNat)
    (hfit : 0 < k → headerStart (stream.slotSize n) + 4 < getReliableBufferCapacity stream.base)
    (hfragment : 0 < k → fragmentSize = UInt16.ofNat
      (getReliableBufferCapacity stream.base - (headerStart (stream.slotSize n) + 4)))
    (hempty : ∀ m, n < m → m < n + k → stream.slotSize m = stream.offset.toNat) :
    let (stream', seqNum) := writeCompleteBlocks k stream (UInt16.ofNat n) fragmentSize
    seqNum = UInt16.ofNat (n + k) ∧ Rewrites stream stream' n (n + k) ∧
      ∀ m, n ≤ m → m < n + k → stream'.slotSize m = getReliableBufferCapacity stream.base ∧
        FragmentAt stream stream' (UInt16.ofNat m) 0 := by
  induction k generalizing stream n fragmentSize with
  | zero => exact ⟨rfl, Rewrites.refl _ _ _, fun m h₁ h₂ => by omega⟩
  | succ k ih =>
    have haligned := hwf.offset_aligned
    have hspace := hwf.offset_lt
    have hstart : stream.slotSize n ≤ headerStart (stream.slotSize n) := Nat.le_add_right _ _
    have hroom := hfit (Nat.succ_pos k)
    obtain ⟨hone, hsize₁, hwritten⟩ := writeFragment_spec hwf n fragmentSize 0 hroom (Nat.le_refl _)
      (hfragment (Nat.succ_pos k))
    -- the stream after the first turn: the header is written, and the size set
    generalize hs₁ : (writeFragmentHeader stream (UInt16.ofNat n) fragmentSize 0).setSlotSize n
      (getReliableBufferCapacity stream.base) = stream₁ at hone hsize₁ hwritten
    have hempty₁ : ∀ m, n + 1 ≤ m → m < n + 1 + k → stream₁.slotSize m = stream.offset.toNat := by
      intro m h₁ h₂
      refine (hone.untouched m fun i hi₁ hi₂ => ?_).1.trans (hempty m (by omega) (by omega))
      exact mod_ne_of_window (by omega) (by omega) (by omega)
    have hnext (hpos : 0 < k) : headerStart (stream₁.slotSize (n + 1)) = stream.offset.toNat := by
      rw [hempty₁ (n + 1) (Nat.le_refl _) (by omega), headerStart_aligned haligned]
    have hrest := ih (hone.shape.formed hwf) (n + 1)
      (UInt16.ofNat (availableBlockSize stream₁)) (by rw [hone.shape.history]; omega)
      (fun hpos => by
        rw [hnext hpos, hone.shape.capacity]
        exact hspace)
      (fun hpos => by
        have hblock := hwf.blockSize_eq
        rw [hnext hpos, hone.shape.capacity, hone.shape.blockSize]
        congr 1
        omega)
      (fun m h₁ h₂ => by rw [hempty₁ m (by omega) h₂, hone.shape.offset])
    have hstep : writeCompleteBlocks (k + 1) stream (UInt16.ofNat n) fragmentSize =
        writeCompleteBlocks k stream₁ (UInt16.ofNat (n + 1))
          (UInt16.ofNat (availableBlockSize stream₁)) := by
      have hcapacity : getReliableBufferCapacity (writeFragmentHeader stream (UInt16.ofNat n)
          fragmentSize 0).base = getReliableBufferCapacity stream.base := rfl
      rw [writeCompleteBlocks, seqNumAdd_one, ← hs₁, setSlotSize, hcapacity]
    rw [hstep]
    obtain ⟨hseqNum, hrw, hfull⟩ := hrest
    rw [show n + 1 + k = n + (k + 1) from by omega] at hseqNum hrw hfull
    refine ⟨hseqNum, (hone.mono (Nat.le_refl _) (by omega)).trans
      (hrw.mono (by omega) (Nat.le_refl _)), fun m h₁ h₂ => ?_⟩
    rcases Nat.eq_or_lt_of_le h₁ with rfl | h₁
    · -- the later turns leave the slot of the first alone
      have hkept : Untouched stream₁ _ n := hrw.untouched n fun i hi₁ hi₂ => by
        rw [hone.shape.history]
        exact mod_ne_of_window (by omega) (by omega) (by omega)
      exact ⟨hkept.1.trans hsize₁,
        hwritten.of_untouched_after hkept hone.shape hrw.shape (by omega)⟩
    · obtain ⟨hsize, hfragment'⟩ := hfull m h₁ h₂
      rw [hone.shape.capacity] at hsize
      have hkept : Untouched stream stream₁ m := hone.untouched m fun i hi₁ hi₂ =>
        mod_ne_of_window (by omega) (by omega) (by omega)
      have hbefore := hempty m h₁ h₂
      exact ⟨hsize, hfragment'.of_untouched_before hkept hone.shape (by omega)⟩

/-! ## The fragments of a message -/

/-- A message of that length is cut into fragments in the slots from `first` to `written`, and the
buffer is over what the first of them has room for. -/
structure WritesFragments (stream stream' : OutputReliableStream) (ub : UcdrBuffer)
    (first written length : Nat) : Prop where
  lt : first < written
  full : ∀ n, first ≤ n → n < written →
    stream'.slotSize n = getReliableBufferCapacity stream.base ∧
      FragmentAt stream stream' (UInt16.ofNat n) 0
  last : FragmentAt stream stream' (UInt16.ofNat written) flagLastFragment
  empty : ∀ n, first < n → n ≤ written → stream.slotSize n = stream.offset.toNat
  length_eq : length =
    getReliableBufferCapacity stream.base - (headerStart (stream.slotSize first) + 4) +
      availableBlockSize stream * (written - first - 1) +
        (stream'.slotSize written - (stream.offset.toNat + 4))
  buffer : ub = (ucdrInitBuffer
      (getReliableBuffer stream.base (UInt16.ofNat first) + headerStart (stream.slotSize first) + 4)
      (getReliableBufferCapacity stream.base - headerStart (stream.slotSize first) - 4)
    ).setOnFullBufferCallback (some .onFullOutputBuffer)

/-- The slots of a message in fragments, as the function leaves them: `blocks` full ones from that
of the message `first` on, and behind them one with a last fragment of `last` bytes. -/
structure FragmentsWritten (stream stream' : OutputReliableStream) (first blocks last : Nat) :
    Prop where
  rewrites : Rewrites stream stream' first (first + blocks + 1)
  lastWritten : stream'.lastWritten = UInt16.ofNat (first + blocks)
  full : ∀ n, first ≤ n → n < first + blocks →
    stream'.slotSize n = getReliableBufferCapacity stream.base ∧
      FragmentAt stream stream' (UInt16.ofNat n) 0
  lastSize : stream'.slotSize (first + blocks) = stream.offset.toNat + 4 + last
  lastAt : FragmentAt stream stream' (UInt16.ofNat (first + blocks)) flagLastFragment

/-- The last fragment goes to the slot behind the complete blocks, which is still empty. -/
theorem writeLastFragment_spec (h : Tracks stream win) {stream₁ : OutputReliableStream}
    {first blocks last : Nat} (hloop : Rewrites stream stream₁ first (first + blocks))
    (hfull : ∀ n, first ≤ n → n < first + blocks →
      stream₁.slotSize n = getReliableBufferCapacity stream.base ∧
        FragmentAt stream stream₁ (UInt16.ofNat n) 0)
    (hfirst : win.written ≤ first) (hpos : 0 < blocks) (hwin : first + blocks ≤ win.acked + H)
    (hlast₀ : 0 < last) (hlast : last ≤ availableBlockSize stream) :
    let headed := writeFragmentHeader stream₁ (UInt16.ofNat (first + blocks)) (UInt16.ofNat last)
      flagLastFragment
    FragmentsWritten stream
      { headed with
        base := setReliableBufferSize headed.base (UInt16.ofNat (first + blocks))
          (headed.offset.toNat + subheaderSize + last)
        lastWritten := UInt16.ofNat (first + blocks) } first blocks last := by
  intro headed
  have hoffset := h.offset_le first
  have hblock := h.formed.blockSize_eq
  have haligned := h.formed.offset_aligned
  have hspace := h.formed.offset_lt
  have hacked := win.acked_le_sent
  have hsent := win.sent_lt_written
  have hkept₁ : Untouched stream stream₁ (first + blocks) := hloop.untouched _ fun j hj₁ hj₂ =>
    h.mod_ne (by omega) (by omega) (by omega)
  have hbefore : stream.slotSize (first + blocks) = stream.offset.toNat :=
    h.empty _ (by omega) (by omega)
  have hlastSlot : headerStart (stream₁.slotSize (first + blocks)) = stream.offset.toNat := by
    rw [hkept₁.1, hbefore, headerStart_aligned haligned]
  -- its header is written and its size set
  obtain ⟨hlastFragment, hlastSize, hlastAt⟩ := @writeFragment_spec stream₁ _ _
    (hloop.shape.formed h.formed) (first + blocks) (UInt16.ofNat last) flagLastFragment
    (stream.offset.toNat + 4 + last) (by omega) (by rw [hloop.shape.capacity]; omega)
    (by rw [hlastSlot, Nat.add_sub_cancel_left])
  have hstream : ({ headed with
      base := setReliableBufferSize headed.base (UInt16.ofNat (first + blocks))
        (headed.offset.toNat + subheaderSize + last)
      lastWritten := UInt16.ofNat (first + blocks) } : OutputReliableStream) =
      { headed.setSlotSize (first + blocks) (stream.offset.toNat + 4 + last) with
        lastWritten := UInt16.ofNat (first + blocks) } := by
    have hlastSize : headed.offset.toNat + subheaderSize + last = stream.offset.toNat + 4 + last := by
      rw [show headed.offset = stream.offset from hloop.shape.offset, subheaderSize]
    rw [hlastSize]
    rfl
  rw [hstream]
  generalize headed.setSlotSize (first + blocks) (stream.offset.toNat + 4 + last) = stream₂
    at hlastFragment hlastSize hlastAt ⊢
  have hrw : Rewrites stream { stream₂ with lastWritten := UInt16.ofNat (first + blocks) } first
      (first + blocks + 1) :=
    ((hloop.mono (Nat.le_refl _) (by omega)).trans
      (hlastFragment.mono (by omega) (Nat.le_refl _))).withLastWritten _
  have hkept₂ (n : Nat) (h₁ : first ≤ n) (h₂ : n < first + blocks) : Untouched stream₁ stream₂ n :=
    hlastFragment.untouched n fun j hj₁ hj₂ => by
      rw [hloop.shape.history]
      exact h.mod_ne (by omega) (by omega) (by omega)
  refine ⟨hrw, rfl, fun n h₁ h₂ => ⟨(hkept₂ n h₁ h₂).1.trans (hfull n h₁ h₂).1, ?_⟩, hlastSize, ?_⟩
  · exact ((hfull n h₁ h₂).2.of_untouched_after (hkept₂ n h₁ h₂) hloop.shape
      hlastFragment.shape (h.bounded n)).withLastWritten _
  · exact (hlastAt.of_untouched_before hkept₁ hloop.shape (h.bounded _)).withLastWritten _

omit [LawfulMicroCdr] in
/-- The window behind a message in fragments. -/
theorem FragmentsWritten.tracks {stream' : OutputReliableStream} {first blocks last : Nat}
    (hwritten : FragmentsWritten stream stream' first blocks last) (h : Tracks stream win)
    (hfirst : win.written ≤ first) (hwin : first + blocks ≤ win.acked + H)
    (hskipped : ∀ n, win.written ≤ n → n < first → stream.offset.toNat < stream.slotSize n)
    (hlast : last ≤ availableBlockSize stream) :
    Tracks stream' (win.write (first + blocks) (Nat.le_trans hfirst (Nat.le_add_right _ _)) hwin) := by
  have hblock := h.formed.blockSize_eq
  have hspace := h.formed.offset_lt
  refine tracks_rewrite h hwritten.rewrites hwritten.lastWritten hfirst (Nat.le_add_right _ _) hwin
    hskipped ?_ ?_ ?_
  · intro n h₁ h₂
    rw [(hwritten.full n h₁ h₂).1]
    omega
  · rw [hwritten.lastSize]
    omega
  · intro n h₁ h₂
    rcases Nat.lt_or_ge n (first + blocks) with hn | hn
    · rw [(hwritten.full n h₁ hn).1]
    · rw [Nat.le_antisymm h₂ hn, hwritten.lastSize]
      omega

/-- The fragments of a message whose first slot is that of the message `first`:
the first block goes behind `bufferSize` bytes of that slot. -/
theorem tracks_writeFragmentsFrom (h : Tracks stream win)
    (first bufferSize remainingBlocks length : Nat) (ub : UcdrBuffer) (hfirst : win.written ≤ first)
    (hwin : first ≤ win.acked + H)
    (hskipped : ∀ n, win.written ≤ n → n < first → stream.offset.toNat < stream.slotSize n)
    (hsize : bufferSize = headerStart (stream.slotSize first))
    (hroom : bufferSize + 4 < getReliableBufferCapacity stream.base)
    (hlarge : getReliableBufferCapacity stream.base < stream.offset.toNat + length)
    (hlength : length + bufferSize + 4 ≤ getReliableBufferCapacity stream.base +
      availableBlockSize stream * (win.acked + H - first))
    (hblocks : win.acked + H - first ≤ remainingBlocks) :
    let r := writeFragmentsFrom stream (UInt16.ofNat first) bufferSize remainingBlocks length ub
    r.1 = true ∧ ∃ written, ∃ (hle : win.written ≤ written) (hwin : written ≤ win.acked + H),
      Tracks r.2.1 (win.write written hle hwin) ∧
        Rewrites stream r.2.1 first (written + 1) ∧
          WritesFragments stream r.2.1 r.2.2 first written length := by
  have hcapacity := h.formed.capacity_lt
  have hoffset := h.offset_le first
  have hblock := h.formed.blockSize_eq
  have hH := h.history_le
  have hacked := win.acked_le_sent
  have hsent := win.sent_lt_written
  have hstart : stream.slotSize first ≤ headerStart (stream.slotSize first) := Nat.le_add_right _ _
  have hfirstSize : (UInt16.ofNat (getReliableBufferCapacity stream.base + 65536 -
      (bufferSize + subheaderSize) % 65536)).toNat =
      getReliableBufferCapacity stream.base - (bufferSize + 4) := by
    rw [Serial.toNat_ofNat, subheaderSize]
    omega
  have hcounts := fragmentCounts_spec (availableBlockSize stream)
    (getReliableBufferCapacity stream.base - (bufferSize + 4)) length (win.acked + H - first)
    (by omega) (by omega) (by omega) (by omega)
  rw [writeFragmentsFrom]
  dsimp only
  rw [hfirstSize]
  generalize fragmentCounts (availableBlockSize stream)
    (getReliableBufferCapacity stream.base - (bufferSize + 4)) length = counts at hcounts ⊢
  obtain ⟨last, blocks⟩ := counts
  obtain ⟨hlast₀, hlast, hblocks₀, hblocks₁, htotal⟩ := hcounts
  dsimp only
  rw [if_pos (by omega)]
  obtain ⟨hseqNum, hloop, hfull⟩ := writeCompleteBlocks_spec h.formed blocks first
    (UInt16.ofNat (getReliableBufferCapacity stream.base + 65536 -
      (bufferSize + subheaderSize) % 65536))
    (by rw [h.history]; omega) (fun _ => hsize ▸ hroom)
    (fun _ => by
      apply UInt16.toNat_inj.mp
      rw [hfirstSize, hsize, Serial.toNat_ofNat, Nat.mod_eq_of_lt (by omega)])
    (fun m h₁ h₂ => h.empty m (by omega) (by omega))
  generalize writeCompleteBlocks blocks stream (UInt16.ofNat first)
    (UInt16.ofNat (getReliableBufferCapacity stream.base + 65536 -
      (bufferSize + subheaderSize) % 65536)) = loop at hseqNum hloop hfull ⊢
  obtain ⟨stream₁, seqNum⟩ := loop
  dsimp only at hseqNum hloop hfull ⊢
  rw [hseqNum]
  have hwritten := writeLastFragment_spec h hloop hfull hfirst (by omega) (by omega) hlast₀ hlast
  refine ⟨rfl, first + blocks, by omega, by omega,
    hwritten.tracks h hfirst (by omega) hskipped hlast, hwritten.rewrites, ?_⟩
  refine ⟨by omega, hwritten.full, hwritten.lastAt, fun n h₁ h₂ => h.empty n (by omega) (by omega),
    ?_, ?_⟩
  · rw [hwritten.lastSize, ← hsize, Nat.add_sub_cancel_left, Nat.add_sub_cancel_left]
    exact htotal
  · have hmod : (getReliableBufferCapacity stream.base - bufferSize - 4) % 2 ^ 32 =
        getReliableBufferCapacity stream.base - bufferSize - 4 := Nat.mod_eq_of_lt (by omega)
    rw [subheaderSize, hmod, hsize]

theorem tracks_writeFragments (h : Tracks stream win) {bufferSize length : Nat}
    (ub : UcdrBuffer)
    (hsize : bufferSize = headerStart (stream.slotSize win.written))
    (hlarge : getReliableBufferCapacity stream.base < stream.offset.toNat + length)
    (hlength : length ≤ availableBlockSize stream * getAvailableFreeSlots stream) :
    let r := writeFragments stream bufferSize (getAvailableFreeSlots stream) length ub
    r.1 = true ∧ ∃ first written, ∃ (hle : win.written ≤ written) (hwin : written ≤ win.acked + H),
      (first = win.written ∧ bufferSize + 4 < getReliableBufferCapacity stream.base ∨
        first = win.written + 1 ∧ getReliableBufferCapacity stream.base ≤ bufferSize + 4 ∧
          stream.slotSize first = stream.offset.toNat) ∧
      Tracks r.2.1 (win.write written hle hwin) ∧ Rewrites stream r.2.1 first (written + 1) ∧
        WritesFragments stream r.2.1 r.2.2 first written length := by
  have haligned := h.formed.offset_aligned
  have hspace := h.formed.offset_lt
  have hblock := h.formed.blockSize_eq
  have hoffset := h.offset_le win.written
  rw [getAvailableFreeSlots_eq h] at hlength ⊢
  have hpos : 0 < win.acked + H + 1 - firstOpenable stream win := by
    rcases Nat.eq_zero_or_pos (win.acked + H + 1 - firstOpenable stream win) with hzero | hpos
    · rw [hzero] at hlength
      omega
    · exact hpos
  rw [writeFragments]
  by_cases hsmall : bufferSize + subheaderSize ≥ getReliableBufferCapacity stream.base
  · -- the current slot has contents, so the first block takes the next one, which is empty
    rw [subheaderSize] at hsmall
    have hne : stream.slotSize win.written ≠ stream.offset.toNat := by
      intro heq
      rw [heq, headerStart_aligned haligned] at hsize
      omega
    have hfirst : firstOpenable stream win = win.written + 1 := if_neg hne
    rw [hfirst] at hlength hpos ⊢
    have hnext := h.empty (win.written + 1) (by omega) (by omega)
    have hmul : availableBlockSize stream * (win.acked + H + 1 - (win.written + 1)) =
        availableBlockSize stream * (win.acked + H - (win.written + 1)) +
          availableBlockSize stream := by
      rw [← Nat.mul_succ, Nat.succ_sub (by omega : win.written + 1 ≤ win.acked + H)]
    have hslot : getReliableBufferSize stream.base (UInt16.ofNat (win.written + 1)) =
      stream.slotSize (win.written + 1) := rfl
    rw [if_pos (by rw [subheaderSize]; exact hsmall), h.lastWritten, seqNumAdd_one]
    dsimp only
    rw [hslot]
    obtain ⟨hok, written, hle, hwin, hrep, hrw, hwrites⟩ := tracks_writeFragmentsFrom h
      (win.written + 1) (stream.slotSize (win.written + 1))
      (win.acked + H + 1 - (win.written + 1)) length ub (by omega) (by omega)
      (fun n h₁ h₂ => by
        rw [show n = win.written from by omega]
        omega)
      (by rw [hnext, headerStart_aligned haligned]) (by omega) hlarge (by omega) (by omega)
    exact ⟨hok, win.written + 1, written, hle, hwin, .inr ⟨rfl, hsmall, hnext⟩, hrep, hrw, hwrites⟩
  · -- the first block goes behind the contents of the current slot
    rw [subheaderSize] at hsmall
    rw [if_neg (by rw [subheaderSize]; exact hsmall), h.lastWritten]
    have hfirst₁ : win.written ≤ firstOpenable stream win := le_firstOpenable
    have hfirst₂ : firstOpenable stream win ≤ win.written + 1 := firstOpenable_le
    have hlength' : length + bufferSize + 4 ≤ getReliableBufferCapacity stream.base +
        availableBlockSize stream * (win.acked + H - win.written) := by
      by_cases hempty : stream.slotSize win.written = stream.offset.toNat
      · rw [hempty, headerStart_aligned haligned] at hsize
        rw [show firstOpenable stream win = win.written from if_pos hempty,
          show win.acked + H + 1 - win.written = win.acked + H - win.written + 1 from by omega,
          Nat.mul_succ] at hlength
        omega
      · rw [show firstOpenable stream win = win.written + 1 from if_neg hempty,
          Nat.add_sub_add_right] at hlength
        omega
    obtain ⟨hok, written, hle, hwin, hrep, hrw, hwrites⟩ := tracks_writeFragmentsFrom h
      win.written bufferSize (win.acked + H + 1 - firstOpenable stream win) length ub
      (Nat.le_refl _) (by omega) (fun n h₁ h₂ => by omega) hsize (by omega) hlarge
      hlength' (by omega)
    exact ⟨hok, win.written, written, hle, hwin, .inl ⟨rfl, Nat.lt_of_not_le hsmall⟩, hrep, hrw,
      hwrites⟩

/-! ## Any write -/

omit [MicroCdr] [LawfulMicroCdr] in
/-- The last written message gets a new size, or the next one does when the last written one has
contents. -/
theorem tracks_resize (h : Tracks stream win) {n size : Nat}
    (hn : n = win.written ∨ n = win.written + 1 ∧ stream.offset.toNat < stream.slotSize win.written)
    (hwin : n ≤ win.acked + H) (hle : stream.offset.toNat ≤ size)
    (hfit : size ≤ getReliableBufferCapacity stream.base) :
    Tracks { stream.setSlotSize n size with lastWritten := UInt16.ofNat n }
        (win.write n (by omega) hwin) ∧
      Rewrites stream { stream.setSlotSize n size with lastWritten := UInt16.ofNat n } n (n + 1) := by
  have hcapacity := h.formed.capacity_lt
  have hrw := (Rewrites.setSlotSize h.formed n size).withLastWritten (UInt16.ofNat n)
  have hself := slotSize_setSlotSize_self h.formed n (show size < 2 ^ 32 by omega)
  refine ⟨?_, hrw⟩
  refine tracks_rewrite h hrw rfl (by omega) (Nat.le_refl _) hwin ?_ ?_ ?_ ?_
  · intro m h₁ h₂
    obtain rfl | ⟨rfl, hfilled⟩ := hn
    · omega
    · rwa [show m = win.written by omega]
  · intro m h₁ h₂
    omega
  · exact le_of_le_of_eq hle hself.symm
  · intro m h₁ h₂
    rw [Nat.le_antisymm h₂ h₁]
    exact le_of_eq_of_le hself hfit

/-- The slot in which a message starts: that of the last written message, if the message or the
beginning of a fragment fits behind what it holds, or the next one. -/
def grantedSeqNum (stream : OutputReliableStream) (length : Nat) : SeqNum :=
  let bufferCapacity := getReliableBufferCapacity stream.base
  let bufferSize := headerStart (getReliableBufferSize stream.base stream.lastWritten)
  if bufferSize + length ≤ bufferCapacity ∨
      bufferCapacity < stream.offset.toNat + length ∧ bufferSize + subheaderSize < bufferCapacity then
    stream.lastWritten
  else seqNumAdd stream.lastWritten 1

/-- There is room for a message in one slot, behind what the slot holds. -/
structure GrantsSlot (stream : OutputReliableStream) (win : OutputWindow H) (n length : Nat)
    (r : Bool × OutputReliableStream × UcdrBuffer) : Prop where
  granted : UInt16.ofNat n = grantedSeqNum stream length
  slot : n = win.written ∨ n = win.written + 1 ∧
    stream.offset.toNat < stream.slotSize win.written ∧ stream.slotSize n = stream.offset.toNat
  inWindow : n ≤ win.acked + H
  fits : headerStart (stream.slotSize n) + length ≤ getReliableBufferCapacity stream.base
  result : r = (true,
    { stream.setSlotSize n (headerStart (stream.slotSize n) + length) with
      lastWritten := UInt16.ofNat n },
    ucdrInitBufferOriginOffset (getReliableBuffer stream.base (UInt16.ofNat n))
      (headerStart (stream.slotSize n) + length) 0 (headerStart (stream.slotSize n)))

/-- There is room for a message in several slots. -/
structure GrantsFragments (stream : OutputReliableStream) (win : OutputWindow H)
    (first written length : Nat) (r : Bool × OutputReliableStream × UcdrBuffer) : Prop where
  ok : r.1 = true
  granted : UInt16.ofNat first = grantedSeqNum stream length
  start : first = win.written ∨ first = win.written + 1 ∧ stream.slotSize first = stream.offset.toNat
  le : win.written ≤ written
  inWindow : written ≤ win.acked + H
  tracks : Tracks r.2.1 (win.write written le inWindow)
  rewrites : Rewrites stream r.2.1 first (written + 1)
  writes : WritesFragments stream r.2.1 r.2.2 first written length

/-- What a write does: it is refused and changes nothing, or it grants one slot or several. -/
theorem prepareReliableBufferToWrite_cases (h : Tracks stream win) (length : Nat) (ub : UcdrBuffer) :
    let r := prepareReliableBufferToWrite stream length ub
    r = (false, stream, ub) ∨ (∃ n, GrantsSlot stream win n length r) ∨
      ∃ first written, GrantsFragments stream win first written length r := by
  have hcapacity := h.formed.capacity_lt
  have haligned := h.formed.offset_aligned
  have hoffset := h.offset_le win.written
  have hacked := win.acked_le_sent
  have hsent := win.sent_lt_written
  have hslot : getReliableBufferSize stream.base (UInt16.ofNat win.written) =
    stream.slotSize win.written := rfl
  rw [prepareReliableBufferToWrite]
  dsimp only
  rw [LawfulMicroCdr.alignment _ _ (by simp), h.lastWritten, hslot, ← headerStart]
  have hstart : stream.slotSize win.written ≤ headerStart (stream.slotSize win.written) :=
    Nat.le_add_right _ _
  split
  · next hfit =>
    rw [writeInCurrentBuffer_eq h, Nat.mod_eq_of_lt (by omega), Nat.mod_eq_of_lt (by omega)]
    split
    · next hwin =>
      refine .inr (.inl ⟨win.written, ?_, .inl rfl, hwin, hfit, ?_⟩)
      · rw [grantedSeqNum, h.lastWritten, hslot, if_pos (.inl hfit)]
      · rw [← h.lastWritten]
        rfl
    · exact .inl rfl
  · next hfit =>
    split
    · next hfit' =>
      rw [writeInNewBuffer_eq h, Nat.mod_eq_of_lt (by omega)]
      split
      · next hwin =>
        -- the message did not fit behind the contents of the current slot, so it has some
        have hfilled : stream.offset.toNat < stream.slotSize win.written := by
          by_contra hempty
          rw [show stream.slotSize win.written = stream.offset.toNat from by omega,
            headerStart_aligned haligned] at hfit
          omega
        have hempty := h.empty (win.written + 1) (Nat.lt_succ_self _) hwin
        have hnext : headerStart (stream.slotSize (win.written + 1)) = stream.offset.toNat := by
          rw [hempty, headerStart_aligned haligned]
        refine .inr (.inl ⟨win.written + 1, ?_, .inr ⟨rfl, hfilled, hempty⟩, hwin, ?_, ?_⟩)
        · rw [grantedSeqNum, h.lastWritten, hslot, if_neg (by omega), seqNumAdd_one]
        · rwa [hnext]
        · rw [hnext]
      · exact .inl rfl
    · next hfit' =>
      split
      · next hroom =>
        obtain ⟨hok, first, written, hle, hwin, hfirst, hrep, hrw, hwrites⟩ :=
          tracks_writeFragments h ub rfl (by omega) hroom
        refine .inr (.inr ⟨first, written, hok, ?_, ?_, hle, hwin, hrep, hrw, hwrites⟩)
        · rw [grantedSeqNum, h.lastWritten, hslot, subheaderSize]
          rcases hfirst with ⟨rfl, hbehind⟩ | ⟨rfl, hfull, -⟩
          · rw [if_pos (.inr ⟨by omega, hbehind⟩)]
          · rw [if_neg (by omega), seqNumAdd_one]
        · exact hfirst.imp And.left fun hnext => ⟨hnext.1, hnext.2.2⟩
      · exact .inl rfl

omit [MicroCdr] [LawfulMicroCdr] in
theorem GrantsSlot.le [MicroCdr] {n length : Nat} {r : Bool × OutputReliableStream × UcdrBuffer}
    (h : GrantsSlot stream win n length r) : win.written ≤ n := by
  rcases h.slot with hn | ⟨hn, -⟩
  · exact Nat.le_of_eq hn.symm
  · rw [hn]
    exact Nat.le_succ _

omit [LawfulMicroCdr] in
/-- The window behind a message in one slot. -/
theorem GrantsSlot.tracks (htracks : Tracks stream win) {n length : Nat}
    {r : Bool × OutputReliableStream × UcdrBuffer} (h : GrantsSlot stream win n length r) :
    Tracks r.2.1 (win.write n h.le h.inWindow) ∧ Rewrites stream r.2.1 n (n + 1) := by
  have hoffset := htracks.offset_le n
  have hstart : stream.slotSize n ≤ headerStart (stream.slotSize n) := Nat.le_add_right _ _
  have hresize := tracks_resize htracks (h.slot.imp_right fun hnext => ⟨hnext.1, hnext.2.1⟩)
    h.inWindow (show stream.offset.toNat ≤ headerStart (stream.slotSize n) + length by omega) h.fits
  have hstream := congrArg (fun r => r.2.1) h.result
  dsimp only at hstream
  rw [hstream]
  exact hresize

/-- What a write does to the window: it is refused and changes nothing, or it rewrites slots from
the last written message on, up to the new last written message. -/
theorem tracks_write (h : Tracks stream win) (length : Nat) (ub : UcdrBuffer) :
    let r := prepareReliableBufferToWrite stream length ub
    r.1 = false ∧ r.2.1 = stream ∨
      r.1 = true ∧ ∃ first written, ∃ (hle : win.written ≤ written)
        (hwin : written ≤ win.acked + H), win.written ≤ first ∧
          Tracks r.2.1 (win.write written hle hwin) ∧
            Rewrites stream r.2.1 first (written + 1) := by
  intro r
  rcases prepareReliableBufferToWrite_cases h length ub with hrefused | ⟨n, hgrants⟩ |
    ⟨first, written, hgrants⟩
  · exact .inl ⟨congrArg Prod.fst hrefused, congrArg (fun r => r.2.1) hrefused⟩
  · obtain ⟨htracks, hrw⟩ := hgrants.tracks h
    exact .inr ⟨congrArg Prod.fst hgrants.result, n, n, hgrants.le, hgrants.inWindow, hgrants.le,
      htracks, hrw⟩
  · have hstart := hgrants.start
    exact .inr ⟨hgrants.ok, first, written, hgrants.le, hgrants.inWindow, by omega, hgrants.tracks,
      hgrants.rewrites⟩

end Fragments

end

end XrceClient
