import XrceClient.Stream.CancelledSend

/-!
# The window while a stream is flushed (`output_reliable_stream.c`)

A callback that makes room in a stream may run the session: messages go out or are refused by the
transport, lost ones go out again, acknowledgements come in.

- `FlushStep`: one of these steps. `FlushStep.moves` says what it does to the window.
- `tracks_closeSlot`: the slot of the last written message is filled, and the next one begins.
- `BehindBlock`: a message was closed so. While the stream is flushed its slot stays as it is until
  it is acknowledged, and the next one is empty as soon as it is free. The stream may take the
  message back, as the one to write to next.
-/

namespace XrceClient

open OutputReliableStream

/-- One step of a stream that is flushed. Acknowledgements are those of an agent that acknowledges
what it was sent. -/
inductive FlushStep : OutputReliableStream → OutputReliableStream → Prop
  | send (stream : OutputReliableStream)
      (hsent : (prepareNextReliableBufferToSend stream).1 = true) :
      FlushStep stream (prepareNextReliableBufferToSend stream).2.1
  | refused (stream : OutputReliableStream)
      (hsent : (prepareNextReliableBufferToSend stream).1 = true) :
      FlushStep stream (cancelledSend stream)
  | acknack (stream : OutputReliableStream) (bitmap : UInt16) (firstUnackedSeqNum : SeqNum)
      (hrange : AcknackInRange stream firstUnackedSeqNum) :
      FlushStep stream (processAcknack stream bitmap firstUnackedSeqNum)
  | nack (stream stream' : OutputReliableStream) (seqNumIt seqNumIt' : SeqNum)
      (found : Option NextBuffer)
      (hnext : nextReliableNackBufferToSend stream seqNumIt = some (found, stream', seqNumIt')) :
      FlushStep stream stream'
  | heartbeat (stream : OutputReliableStream) (nextHeartbeatTimestamp : Int)
      (nextHeartbeatTries : UInt8) :
      FlushStep stream { stream with nextHeartbeatTimestamp, nextHeartbeatTries }

/-- A stream is flushed. -/
abbrev Flushes : OutputReliableStream → OutputReliableStream → Prop :=
  Relation.ReflTransGen FlushStep

section

variable {H : Nat} {stream stream' : OutputReliableStream} {win win' : OutputWindow H}

/-- What a step does to the window and to the slots. -/
structure Moves (stream stream' : OutputReliableStream) (win win' : OutputWindow H) : Prop where
  tracks : Tracks stream' win'
  shape : SameShape stream stream'
  acked_le : win.acked ≤ win'.acked
  untouched : ∀ m, win'.acked < m → m ≤ win.acked + H →
    OutputReliableStream.Untouched stream stream' m
  emptied : ∀ m, stream.slotSize m = stream.offset.toNat → stream'.slotSize m = stream.offset.toNat
  cleaned : ∀ m, win.acked < m → m ≤ win'.acked → stream'.slotSize m = stream.offset.toNat
  written : win'.written = win.written ∨
    win'.written = win.written + 1 ∧ win.written ≤ win.acked + H ∧
      stream.offset.toNat < stream.slotSize win.written ∨
    win'.written + 1 = win.written ∧ stream.slotSize win.written = stream.offset.toNat

/-- A step that changes no slot and acknowledges nothing. -/
theorem Moves.of_base (htracks : Tracks stream' win') (hbase : stream'.base = stream.base)
    (hoffset : stream'.offset = stream.offset) (hacked : win'.acked = win.acked)
    (hwritten : win'.written = win.written ∨
      win'.written = win.written + 1 ∧ win.written ≤ win.acked + H ∧
        stream.offset.toNat < stream.slotSize win.written ∨
      win'.written + 1 = win.written ∧ stream.slotSize win.written = stream.offset.toNat) :
    Moves stream stream' win win' where
  tracks := htracks
  shape := ⟨by rw [hbase], by rw [hbase], hoffset⟩
  acked_le := Nat.le_of_eq hacked.symm
  untouched m _ _ := by
    constructor
    · rw [slotSize, hbase, slotSize]
    · rw [slotBytes, hbase, slotBytes]
  emptied m hempty := by
    rw [slotSize, hbase]
    exact hempty
  cleaned m h₁ h₂ := absurd h₁ (by omega)
  written := hwritten

/-! ## Sending -/

theorem moves_send (h : Tracks stream win)
    (hsent : (prepareNextReliableBufferToSend stream).1 = true) :
    ∃ win' : OutputWindow H, Moves stream (prepareNextReliableBufferToSend stream).2.1 win win' := by
  obtain ⟨-, hlt, hcontents⟩ := (prepareNext_fst_cmp h).mp hsent
  obtain ⟨hroom, htracks⟩ := tracks_prepareNext h hsent
  refine ⟨_, Moves.of_base htracks prepareNext_base (prepareNext_offset stream) rfl ?_⟩
  rw [OutputWindow.sendNext]
  dsimp only
  by_cases hlast : win.sent + 1 = win.written
  · rw [if_pos hlast, ← hlast]
    exact .inr (.inl ⟨rfl, hlt, hcontents⟩)
  · rw [if_neg hlast]
    exact .inl rfl

/-- The number of the last written message after a message was sent and cancelled. -/
theorem OutputWindow.written_sendNext_cancel (hroom : win.sent < win.acked + H)
    (hlt : (win.sendNext hroom).acked < (win.sendNext hroom).sent) (isEmpty : Bool) :
    ((win.sendNext hroom).cancel hlt isEmpty).written = win.written ∨
      win.sent + 1 = win.written ∧
        ((win.sendNext hroom).cancel hlt isEmpty).written = win.written + 1 ∨
      ((win.sendNext hroom).cancel hlt isEmpty).written + 1 = win.written ∧
        (win.sendNext hroom).sent + 1 = win.written ∧ isEmpty = true := by
  have hwritten := win.sent_lt_written
  simp only [OutputWindow.cancel, OutputWindow.sendNext]
  by_cases hlast : win.sent + 1 = win.written
  · simp only [hlast, if_true, true_and]
    cases isEmpty with
    | true => exact .inl (if_pos rfl)
    | false => exact .inr (.inl (if_neg Bool.false_ne_true))
  · simp only [hlast, if_false, false_and, false_or]
    split
    · next htaken => exact .inr ⟨htaken.1.symm, htaken.1.symm, htaken.2⟩
    · exact .inl rfl

/-- A refused message is not sent, and the stream may take it back as the last written one. -/
theorem moves_refused (h : Tracks stream win)
    (hsent : (prepareNextReliableBufferToSend stream).1 = true) :
    ∃ win' : OutputWindow H, Moves stream (cancelledSend stream) win win' := by
  obtain ⟨-, hlt, hcontents⟩ := (prepareNext_fst_cmp h).mp hsent
  obtain ⟨hroom, htracks⟩ := tracks_prepareNext h hsent
  have hacked := win.acked_le_sent
  have hwritten := win.sent_lt_written
  have hnext : (prepareNextReliableBufferToSend stream).2.2.seqNum =
      UInt16.ofNat (win.sendNext hroom).sent := by
    rw [prepareNext_nextBuffer h]
    rfl
  have hcancel := tracks_cancel htracks (show win.acked < win.sent + 1 by omega)
  have hbase : (cancelledSend stream).base = stream.base := by
    rw [cancelledSend_eq hsent]
  have hoffset : (cancelledSend stream).offset = stream.offset := by
    rw [cancelledSend_eq hsent]
  rw [← hnext] at hcancel
  refine ⟨_, Moves.of_base hcancel hbase hoffset rfl ?_⟩
  have hsize (n : Nat) : (prepareNextReliableBufferToSend stream).2.1.slotSize n =
      stream.slotSize n := by
    rw [slotSize, prepareNext_base, slotSize]
  have hoffset' := prepareNext_offset stream
  rcases OutputWindow.written_sendNext_cancel hroom _ _ with
    hsame | ⟨hlast, hnext⟩ | ⟨htaken, hopen, hempty⟩
  · exact .inl hsame
  · refine .inr (.inl ⟨hnext, ?_⟩)
    rw [← hlast]
    exact ⟨hlt, hcontents⟩
  · have hslot := of_decide_eq_true hempty
    rw [hsize, hoffset', hopen] at hslot
    exact .inr (.inr ⟨htaken, hslot.symm⟩)

/-! ## Acknowledging -/

/-- An empty slot stays empty while others are emptied. -/
theorem cleanBuffers_emptied (h : Tracks stream win) (k : Nat) (hk : win.acked + k ≤ win.sent)
    {m : Nat} (hempty : stream.slotSize m = stream.offset.toNat) :
    (cleanBuffers k stream).slotSize m = stream.offset.toNat := by
  induction k generalizing stream win with
  | zero => exact hempty
  | succ k ih =>
    have hone := tracks_cleanBuffer h (by omega)
    have hcapacity := h.offset_lt_capacity
    have hset := slotSize_setSlotSize h.formed (win.acked + 1) m
      (show stream.offset.toNat < 2 ^ 32 by have := stream.offset.toNat_lt; omega)
    rw [cleanBuffers, h.lastAcknown, seqNumAdd_one]
    refine ih hone (by simp only [OutputWindow.acknowledge]; omega) ?_
    refine hset.trans ?_
    split
    · rfl
    · exact hempty

/-- The slots of the acknowledged messages are emptied. -/
theorem cleanBuffers_cleaned (h : Tracks stream win) (k : Nat) (hk : win.acked + k ≤ win.sent)
    {m : Nat} (h₁ : win.acked < m) (h₂ : m ≤ win.acked + k) :
    (cleanBuffers k stream).slotSize m = stream.offset.toNat := by
  induction k generalizing stream win with
  | zero => exact absurd h₁ (by omega)
  | succ k ih =>
    have hone := tracks_cleanBuffer h (by omega)
    rw [cleanBuffers, h.lastAcknown, seqNumAdd_one]
    rcases Nat.eq_or_lt_of_le h₁ with rfl | hlt
    · refine cleanBuffers_emptied hone k (by simp only [OutputWindow.acknowledge]; omega) ?_
      exact slotSize_setSlotSize_self h.formed (win.acked + 1)
        (show stream.offset.toNat < 2 ^ 32 by have := stream.offset.toNat_lt; omega)
    · exact ih hone (by simp only [OutputWindow.acknowledge]; omega)
        (by simp only [OutputWindow.acknowledge]; omega)
        (by simp only [OutputWindow.acknowledge]; omega)

theorem moves_acknack (h : Tracks stream win) (bitmap : UInt16) {firstUnackedSeqNum : SeqNum}
    (hrange : AcknackInRange stream firstUnackedSeqNum) :
    ∃ win' : OutputWindow H,
      Moves stream (processAcknack stream bitmap firstUnackedSeqNum) win win' ∧
        win'.sent = win.sent ∧ win'.written = win.written := by
  obtain ⟨k, hk, rfl⟩ := h.acknackInRange hrange
  have htracks := tracks_processAcknack h bitmap hk
  rw [processAcknack_eq h bitmap hk] at htracks ⊢
  refine ⟨_, ⟨htracks, ?_, Nat.le_add_right _ _, ?_, ?_, ?_, .inl rfl⟩, rfl, rfl⟩
  · have hshape := sameShape_cleanBuffers k stream
    exact ⟨hshape.size, hshape.history, hshape.offset⟩
  · intro m h₁ h₂
    exact cleanBuffers_untouched h k hk h₁ h₂
  · intro m hempty
    exact cleanBuffers_emptied h k hk hempty
  · intro m h₁ h₂
    exact cleanBuffers_cleaned h k hk h₁ h₂

/-! ## One step, and a whole flush -/

/-- The window after a step. -/
theorem FlushStep.moves (h : Tracks stream win) (hstep : FlushStep stream stream') :
    ∃ win' : OutputWindow H, Moves stream stream' win win' := by
  cases hstep with
  | send hsent => exact moves_send h hsent
  | refused hsent => exact moves_refused h hsent
  | acknack bitmap firstUnackedSeqNum hrange =>
    obtain ⟨win', hmoves, -⟩ := moves_acknack h bitmap hrange
    exact ⟨win', hmoves⟩
  | nack _ _ _ _ hnext =>
    rcases nextReliableNackBufferToSend_stream hnext with rfl | rfl
    · exact ⟨win, Moves.of_base h rfl rfl rfl (.inl rfl)⟩
    · exact ⟨win, Moves.of_base (tracks_sendLost h false) rfl rfl rfl (.inl rfl)⟩
  | heartbeat nextHeartbeatTimestamp nextHeartbeatTries =>
    refine ⟨win, Moves.of_base ?_ rfl rfl rfl (.inl rfl)⟩
    exact
      { formed := h.formed.congr rfl rfl rfl
        history := h.history
        lastAcknown := h.lastAcknown
        lastSent := h.lastSent
        lastWritten := h.lastWritten
        filled := h.filled
        empty := h.empty
        offset_le := h.offset_le
        bounded := h.bounded }

theorem Flushes.tracks (h : Tracks stream win) (hflush : Flushes stream stream') :
    ∃ win' : OutputWindow H, Tracks stream' win' ∧ SameShape stream stream' := by
  induction hflush with
  | refl => exact ⟨win, h, SameShape.refl stream⟩
  | tail _ hstep ih =>
    obtain ⟨win₁, h₁, hshape⟩ := ih
    obtain ⟨win', hmoves⟩ := FlushStep.moves h₁ hstep
    exact ⟨win', hmoves.tracks, hshape.trans hmoves.shape⟩

/-! ## Behind a block -/

/-- The last written message is closed. -/
def OutputWindow.close (win : OutputWindow H) (hwin : win.written ≤ win.acked + H) :
    OutputWindow H where
  acked := win.acked
  sent := win.sent
  written := win.written + 1
  acked_le_sent := win.acked_le_sent
  sent_lt_written := Nat.lt_succ_of_lt win.sent_lt_written
  written_le := Nat.succ_le_succ hwin

/-- The slot of the last written message has contents, and the next one begins. -/
theorem tracks_closeSlot (h : Tracks stream win) (hwin : win.written ≤ win.acked + H)
    (hfilled : stream.offset.toNat < stream.slotSize win.written) :
    Tracks { stream with lastWritten := seqNumAdd stream.lastWritten 1 } (win.close hwin) where
  formed := h.formed.congr rfl rfl rfl
  history := h.history
  lastAcknown := h.lastAcknown
  lastSent := h.lastSent
  lastWritten := by
    rw [h.lastWritten, seqNumAdd_one]
    rfl
  filled n h₁ h₂ := by
    simp only [OutputWindow.close] at h₁ h₂
    rcases Nat.eq_or_lt_of_le (Nat.le_of_lt_succ h₂) with rfl | hlt
    · exact hfilled
    · exact h.filled n h₁ hlt
  empty n h₁ h₂ := by
    simp only [OutputWindow.close] at h₁ h₂
    exact h.empty n (by omega) h₂
  offset_le := h.offset_le
  bounded := h.bounded

/-- The message `n` is closed: it is in the window, and the next one begins, unless the stream has
taken it back. -/
structure BehindBlock (stream : OutputReliableStream) (win : OutputWindow H) (n : Nat) : Prop where
  tracks : Tracks stream win
  written : win.written = n + 1 ∨ win.written = n
  inWindow : n ≤ win.acked + H
  filled : win.acked < n → stream.offset.toNat < stream.slotSize n
  empty : n + 1 ≤ win.acked + H → stream.slotSize (n + 1) = stream.offset.toNat

theorem BehindBlock.step {n : Nat} (h : BehindBlock stream win n) (hmoves : Moves stream stream' win win') :
    BehindBlock stream' win' n := by
  have hacked := hmoves.acked_le
  have hsent := win.acked_le_sent
  have hsent' := win.sent_lt_written
  have hinWindow := h.inWindow
  have hoffset := hmoves.shape.offset
  refine ⟨hmoves.tracks, ?_, by omega, ?_, ?_⟩
  · rcases hmoves.written with hsame | ⟨hnext, hroom, hcontents⟩ | ⟨htaken, hempty⟩
    · rw [hsame]
      exact h.written
    · rcases h.written with hwritten | hwritten
      · -- the slot behind the message is empty, and so it was not sent
        rw [hwritten] at hroom hcontents
        exact absurd (h.empty hroom) (Nat.ne_of_gt hcontents)
      · exact .inl (by omega)
    · rcases h.written with hwritten | hwritten
      · exact .inr (by omega)
      · -- the message that was taken back has contents, and so no other one is taken back
        rw [hwritten] at hempty
        exact absurd hempty (Nat.ne_of_gt (h.filled (by omega)))
  · intro hunacked
    rw [hoffset, (hmoves.untouched n hunacked hinWindow).1]
    exact h.filled (by omega)
  · intro hfree
    rw [hoffset]
    rcases Nat.lt_or_ge (win.acked + H) (n + 1) with hfull | hroom
    · -- its slot was that of a message that is acknowledged now
      have hclean := hmoves.cleaned (n + 1 - H) (by omega) (by omega)
      rw [← hmoves.tracks.slotSize_turn, Nat.sub_add_cancel (by omega)] at hclean
      exact hclean
    · exact hmoves.emptied (n + 1) (h.empty hroom)

/-- While a stream is flushed, the closed message stays in its slot until it is acknowledged. -/
theorem BehindBlock.flush {n : Nat} (h : BehindBlock stream win n) (hflush : Flushes stream stream') :
    ∃ win' : OutputWindow H, BehindBlock stream' win' n ∧ SameShape stream stream' ∧
      win.acked ≤ win'.acked ∧
        ∀ m, win'.acked < m → m ≤ win.acked + H →
          OutputReliableStream.Untouched stream stream' m := by
  induction hflush with
  | refl =>
    exact ⟨win, h, SameShape.refl stream, Nat.le_refl _, fun _ _ _ => Untouched.refl⟩
  | tail _ hstep ih =>
    obtain ⟨win₁, h₁, hshape, hacked, huntouched⟩ := ih
    obtain ⟨win', hmoves⟩ := FlushStep.moves h₁.tracks hstep
    have hacked' := hmoves.acked_le
    refine ⟨win', h₁.step hmoves, hshape.trans hmoves.shape, by omega, ?_⟩
    intro m hm₁ hm₂
    exact (huntouched m (by omega) hm₂).trans (hmoves.untouched m hm₁ (by omega))

end

end XrceClient
