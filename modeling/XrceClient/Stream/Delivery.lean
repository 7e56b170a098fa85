import XrceClient.Stream.InputWindow

/-!
# Delivery of whole messages

The reliable case of `read_stream`, with the messages that it hands to the reader in place
of the reading.

- `nextMessages`: the loop over the messages in the slots. `nextMessages_isSome`: it
  ends within a turn of the ring.
- `readStreamMessages`: reception and the loop behind it.
- `Delivers`: the window before and after, and the messages handed over in between;
  `readStreamMessages_delivers` is for streams of messages that are not fragmented.
-/

namespace XrceClient

open ByteMemory InputReliableStream

section

variable [MicroCdr]

/-- The loop of `read_stream` over the messages in the slots (session.c:896–900): the
messages, as the bytes of their buffers, and the stream afterwards. -/
def nextMessages : Nat → InputReliableStream → Option (List (List UInt8) × InputReliableStream)
  | 0, _ => none
  | fuel + 1, stream => do
    let (available, stream, nextMb) ← nextInputReliableBufferAvailable
      stream.base.history.toNat stream (ucdrInitBuffer 0 0) subheaderSize
    if available then
      let message := read stream.base.buffer nextMb.iterator (nextMb.final - nextMb.iterator)
      let (messages, stream) ← nextMessages fuel stream
      return (message :: messages, stream)
    else
      return ([], stream)

/-- The case of `UXR_RELIABLE_STREAM` in `read_stream` (session.c:884–904), for the stream. -/
def readStreamMessages (fuel : Nat) (stream : InputReliableStream) (seqNum : SeqNum)
    (msg : Datagram) : Option (List (List UInt8) × InputReliableStream) := do
  let received ← receiveReliableMessage stream.base.history.toNat stream seqNum msg false
  if received.readyToRead then
    let (messages, stream) ← nextMessages fuel received.stream
    return (if received.messageStored then messages else msg.bytes :: messages, stream)
  else
    return ([], received.stream)

end

/-! ## One message of the window -/

/-- The streams of the client: the ring behind a window, with the client's callback, and the
next message not there yet. -/
structure Expects [MicroCdr] (stream : InputReliableStream)
    (message : Nat → Option (List UInt8)) (handled : Nat) : Prop where
  buffers : Buffers stream message handled
  callback : stream.onGetFragmentationInfo = onGetFragmentationInfo
  next : stream.slotSize (handled + 1) = 0

/-- Messages were handed over, in order, and the window moved behind them. -/
structure Delivers [MicroCdr] (stream stream' : InputReliableStream)
    (message : Nat → Option (List UInt8)) (handled : Nat) (messages : List (List UInt8)) :
    Prop where
  expects : Expects stream' message (handled + messages.length)
  inOrder : ∀ i (h : i < messages.length), message (handled + 1 + i) = some messages[i]
  history : stream'.base.history = stream.base.history
  stride : stream'.base.stride = stream.base.stride

section

variable {stream : InputReliableStream} {message : Nat → Option (List UInt8)} {handled : Nat}

/-- The window behind a message that is taken out. -/
theorem Buffers.takeNext (h : Buffers stream message handled) :
    Buffers { stream.clear (handled + 1) with lastHandled := UInt16.ofNat (handled + 1) } message
      (handled + 1) := by
  refine (h.clear (handled + 1)).advance (Nat.le_succ _) fun n h₁ h₂ => ?_
  rw [Nat.le_antisymm h₂ h₁, slotSize_clear h.wellFormed, if_pos rfl]

variable [MicroCdr]

/-- An empty slot has no message. -/
theorem nextInput_none (h : Buffers stream message handled)
    (hempty : stream.slotSize (handled + 1) = 0) (fuel : Nat) (ub : UcdrBuffer)
    (fragmentOffset : Nat) :
    nextInputReliableBufferAvailable fuel stream ub fragmentOffset =
      some (false, stream, ub) := by
  rw [nextInputReliableBufferAvailable, h.lastHandled, seqNumAdd_one]
  have hsize : getReliableBufferSize stream.base (UInt16.ofNat (handled + 1)) = 0 := hempty
  dsimp only
  rw [if_neg (not_not.mpr hsize)]

theorem Expects.announce (h : Expects stream message handled) (seqNum : SeqNum) :
    Expects (stream.announce seqNum) message handled := by
  have hbuffers := h.buffers.announce seqNum
  obtain ⟨lastAnnounced, heq⟩ := announce_eq stream seqNum
  rw [heq] at hbuffers ⊢
  exact ⟨hbuffers, h.callback, h.next⟩

variable [LawfulMicroCdr]

/-- The message in the next slot of the window is taken out of it. -/
theorem nextInput_whole (h : Buffers stream message handled)
    (hcallback : stream.onGetFragmentationInfo = onGetFragmentationInfo)
    (hplain : ∀ n bytes, message n = some bytes → messageKind bytes = .noFragmented)
    (hfilled : stream.slotSize (handled + 1) ≠ 0) (fuel : Nat) (ub : UcdrBuffer)
    (fragmentOffset : Nat) :
    ∃ nextMb,
      nextInputReliableBufferAvailable fuel stream ub fragmentOffset =
        some (true, { stream.clear (handled + 1) with lastHandled := UInt16.ofNat (handled + 1) },
          nextMb) ∧
      read (stream.clear (handled + 1)).base.buffer nextMb.iterator
        (nextMb.final - nextMb.iterator) = stream.slotMessage (handled + 1) := by
  have hpos := h.wellFormed.history_pos
  have hheld := h.held (handled + 1) (Nat.lt_succ_self _) (by omega) hfilled
  have hinfo : stream.fragmentationInfo (UInt16.ofNat (handled + 1)) = .noFragmented := by
    rw [fragmentationInfo, hcallback]
    exact onGetFragmentationInfo_plain _ _ (Nat.one_le_iff_ne_zero.mpr hfilled)
      (hplain _ _ hheld)
  have hlt := @ReliableStream.getReliableBufferSize_lt stream.base
    (UInt16.ofNat (handled + 1))
  have hsize : getReliableBufferSize stream.base (UInt16.ofNat (handled + 1)) =
      stream.slotSize (handled + 1) := rfl
  rw [nextInputReliableBufferAvailable, h.lastHandled, seqNumAdd_one]
  dsimp only
  rw [hsize] at hlt ⊢
  rw [if_pos hfilled, hinfo]
  refine ⟨_, rfl, ?_⟩
  rw [ucdrInitBuffer, LawfulMicroCdr.init, Nat.mod_eq_of_lt hlt]
  simp only [Nat.add_zero, Nat.add_sub_cancel_left]
  rw [slotMessage, ReliableStream.bytesFrom, Nat.add_zero]
  exact read_clear h.wellFormed (handled + 1) (handled + 1) (h.fits (handled + 1))

/-! ## The loop -/

/-- The loop hands over the messages that lie next to each other in the window. -/
theorem nextMessages_delivers (h : Buffers stream message handled)
    (hcallback : stream.onGetFragmentationInfo = onGetFragmentationInfo)
    (hplain : ∀ n bytes, message n = some bytes → messageKind bytes = .noFragmented)
    {fuel : Nat} {messages : List (List UInt8)} {stream' : InputReliableStream}
    (hloop : nextMessages fuel stream = some (messages, stream')) :
    Delivers stream stream' message handled messages := by
  induction fuel generalizing stream handled messages with
  | zero => cases hloop
  | succ fuel ih =>
    rw [nextMessages] at hloop
    by_cases hfilled : stream.slotSize (handled + 1) = 0
    · rw [nextInput_none h hfilled] at hloop
      simp only [Option.bind_eq_bind, Option.bind_some, Bool.false_eq_true, if_false] at hloop
      cases hloop
      exact ⟨⟨h, hcallback, hfilled⟩, nofun, rfl, rfl⟩
    · obtain ⟨nextMb, hnext, hread⟩ := nextInput_whole h hcallback hplain hfilled
        stream.base.history.toNat (ucdrInitBuffer 0 0) subheaderSize
      rw [hnext] at hloop
      simp only [Option.bind_eq_bind, Option.bind_some, if_true] at hloop
      obtain ⟨⟨messages', _⟩, hrest, heq⟩ := Option.bind_eq_some_iff.mp hloop
      cases heq
      obtain ⟨hexpects, hinOrder, hhistory, hstride⟩ := ih h.takeNext hcallback hrest
      refine ⟨?_, fun i hi => ?_, hhistory, hstride⟩
      · rw [List.length_cons, Nat.add_comm messages'.length, ← Nat.add_assoc]
        exact hexpects
      · cases i with
        | zero =>
          have hheld := h.held (handled + 1) (Nat.lt_succ_self _)
            (by have := h.wellFormed.history_pos; omega) hfilled
          rw [List.getElem_cons_zero]
          exact hheld.trans (congrArg some hread.symm)
        | succ i =>
          rw [List.getElem_cons_succ, ← hinOrder i (by simpa using hi)]
          congr 1
          omega

/-- With a turn for every slot that may be filled, and one for the end, the loop ends. -/
theorem nextMessages_isSome_of_empty (h : Buffers stream message handled)
    (hcallback : stream.onGetFragmentationInfo = onGetFragmentationInfo)
    (hplain : ∀ n bytes, message n = some bytes → messageKind bytes = .noFragmented)
    {fuel : Nat}
    (hempty : ∀ n, handled + fuel < n → n ≤ handled + stream.base.history.toNat →
      stream.slotSize n = 0) : (nextMessages (fuel + 1) stream).isSome := by
  have hpos := h.wellFormed.history_pos
  induction fuel generalizing stream handled with
  | zero =>
    rw [nextMessages, nextInput_none h (hempty _ (Nat.lt_succ_self _) (by omega))]
    rfl
  | succ fuel ih =>
    rw [nextMessages]
    by_cases hfilled : stream.slotSize (handled + 1) = 0
    · rw [nextInput_none h hfilled]
      rfl
    · obtain ⟨nextMb, hnext, -⟩ := nextInput_whole h hcallback hplain hfilled
        stream.base.history.toNat (ucdrInitBuffer 0 0) subheaderSize
      have hrest := ih h.takeNext hcallback (fun n h₁ h₂ => ?_) hpos
      · obtain ⟨r, hr⟩ := Option.isSome_iff_exists.mp hrest
        rw [hnext]
        simp only [Option.bind_eq_bind, Option.bind_some, hr, if_true]
        rfl
      · -- beyond the old window lies the slot that was just emptied
        change n ≤ handled + 1 + stream.base.history.toNat at h₂
        refine (slotSize_clear h.wellFormed (handled + 1) n).trans ?_
        split
        · rfl
        · next hne =>
          refine hempty n (by omega) ?_
          by_contra hbeyond
          obtain rfl : n = handled + 1 + stream.base.history.toNat := by omega
          exact hne (Nat.add_mod_right _ _)

/-- The loop ends within a turn of the ring. -/
theorem nextMessages_isSome (h : Buffers stream message handled)
    (hcallback : stream.onGetFragmentationInfo = onGetFragmentationInfo)
    (hplain : ∀ n bytes, message n = some bytes → messageKind bytes = .noFragmented) :
    (nextMessages (stream.base.history.toNat + 1) stream).isSome :=
  nextMessages_isSome_of_empty h hcallback hplain fun n h₁ h₂ => absurd h₂ (by omega)

/-! ## Reception -/

/-- Reception of a message that is not fragmented: it is the next one and is ready to be read
from where it is, or there is nothing to read. -/
theorem receive_whole (h : Expects stream message handled) {n : Nat} {msg : Datagram}
    (hlate : handled + stream.base.history.toNat < n + 65536)
    (hearly : n ≤ handled + stream.base.history.toNat) (hmessage : message n = some msg.bytes)
    (hplain : messageKind msg.bytes = .noFragmented) (hpos : 1 ≤ msg.length)
    (hfit : msg.length + 4 ≤ stream.base.stride) (hlength : msg.length < 2 ^ 32) (fuel : Nat) :
    ∃ received, receiveReliableMessage fuel stream (UInt16.ofNat n) msg false = some received ∧
      received.stream.base.history = stream.base.history ∧
      received.stream.base.stride = stream.base.stride ∧
      received.stream.onGetFragmentationInfo = onGetFragmentationInfo ∧
      ((received.readyToRead = false ∧ Expects received.stream message handled) ∨
        (received.readyToRead = true ∧ received.messageStored = false ∧ n = handled + 1 ∧
          Buffers received.stream message (handled + 1))) := by
  have hH := h.buffers.wellFormed.history_le
  have hkind : stream.onGetFragmentationInfo msg.memory msg.buffer = .noFragmented := by
    rw [h.callback]
    exact onGetFragmentationInfo_plain _ _ hpos hplain
  have hannounce (s : InputReliableStream) (q : SeqNum) :
      (s.announce q).base = s.base ∧
        (s.announce q).onGetFragmentationInfo = s.onGetFragmentationInfo := by
    obtain ⟨_, heq⟩ := announce_eq s q
    rw [heq]
    exact ⟨rfl, rfl⟩
  have hdropped := h.announce (UInt16.ofNat n)
  rw [receiveReliableMessage, hkind, h.buffers.lastHandled, seqNumAdd_one]
  by_cases haccepts : stream.accepts (UInt16.ofNat n) = true
  · rw [if_pos haccepts]
    have hlt := h.buffers.accepts_lt hlate hearly haccepts
    by_cases hnext : UInt16.ofNat n = UInt16.ofNat (handled + 1)
    · -- the next message, which is handed over at once
      obtain rfl : handled + 1 = n := Serial.ofNat_inj_of_lt hlt (by omega) hnext.symm
      have hadvance := h.buffers.advance (Nat.le_succ handled) fun m h₁ h₂ =>
        Nat.le_antisymm h₂ h₁ ▸ h.next
      rw [if_pos ⟨rfl, hnext⟩]
      refine ⟨_, rfl, ?_, ?_, ?_, .inr ⟨rfl, rfl, rfl, hadvance.announce _⟩⟩
      · rw [(hannounce _ _).1]
      · rw [(hannounce _ _).1]
      · rw [(hannounce _ _).2]
        exact h.callback
    · rw [if_neg fun hboth => hnext hboth.2]
      by_cases hempty : getReliableBufferSize stream.base (UInt16.ofNat n) = 0
      · -- an early message waits in its slot
        rw [if_pos hempty, if_neg (not_not.mpr rfl)]
        have hother : (handled + 1) % stream.base.history.toNat ≠
            n % stream.base.history.toNat :=
          OutputReliableStream.mod_ne_of_window (fun heq => hnext (heq ▸ rfl)) (by omega)
            (by omega)
        have hexpects : Expects (stream.store (UInt16.ofNat n) msg) message handled := by
          refine ⟨h.buffers.store hlt hearly hfit hlength hmessage, h.callback, ?_⟩
          rw [slotSize_store h.buffers.wellFormed n _ hfit hlength, if_neg hother]
          exact h.next
        refine ⟨_, rfl, ?_, ?_, ?_, .inl ⟨rfl, hexpects.announce _⟩⟩
        · rw [(hannounce _ _).1]
          rfl
        · rw [(hannounce _ _).1]
          rfl
        · rw [(hannounce _ _).2]
          exact h.callback
      · -- the slot is taken: the message came before
        rw [if_neg hempty]
        refine ⟨_, rfl, ?_, ?_, ?_, .inl ⟨rfl, hdropped⟩⟩
        · rw [(hannounce _ _).1]
        · rw [(hannounce _ _).1]
        · exact hdropped.callback
  · -- outside the window
    rw [if_neg haccepts]
    refine ⟨_, rfl, ?_, ?_, ?_, .inl ⟨rfl, hdropped⟩⟩
    · rw [(hannounce _ _).1]
    · rw [(hannounce _ _).1]
    · exact hdropped.callback

/-- A message that arrives is handed over together with those that waited for it, or it waits,
or it is dropped. -/
theorem readStreamMessages_delivers (h : Expects stream message handled)
    (hplain : ∀ n bytes, message n = some bytes → messageKind bytes = .noFragmented)
    {n : Nat} {msg : Datagram} (hlate : handled + stream.base.history.toNat < n + 65536)
    (hearly : n ≤ handled + stream.base.history.toNat)
    (hmessage : message n = some msg.bytes) (hpos : 1 ≤ msg.length)
    (hfit : msg.length + 4 ≤ stream.base.stride) (hlength : msg.length < 2 ^ 32) {fuel : Nat}
    {messages : List (List UInt8)} {stream' : InputReliableStream}
    (hread : readStreamMessages fuel stream (UInt16.ofNat n) msg = some (messages, stream')) :
    Delivers stream stream' message handled messages := by
  obtain ⟨received, hreceived, hhistory, hstride, hcallback, hcases⟩ := receive_whole h hlate
    hearly hmessage (hplain _ _ hmessage) hpos hfit hlength stream.base.history.toNat
  rw [readStreamMessages, hreceived] at hread
  rcases hcases with ⟨hready, hexpects⟩ | ⟨hready, hstored, rfl, hbuffers⟩
  · simp only [Option.bind_eq_bind, Option.bind_some, hready, Bool.false_eq_true, if_false] at hread
    cases hread
    exact ⟨hexpects, nofun, hhistory, hstride⟩
  · simp only [Option.bind_eq_bind, Option.bind_some, hready, if_true, hstored, Bool.false_eq_true,
      if_false] at hread
    obtain ⟨⟨messages', _⟩, hloop, hresult⟩ := Option.bind_eq_some_iff.mp hread
    cases hresult
    obtain ⟨hexpects, hinOrder, hhistory', hstride'⟩ :=
      nextMessages_delivers hbuffers hcallback hplain hloop
    refine ⟨?_, fun i hi => ?_, hhistory'.trans hhistory, hstride'.trans hstride⟩
    · rw [List.length_cons, Nat.add_comm messages'.length, ← Nat.add_assoc]
      exact hexpects
    · cases i with
      | zero => exact hmessage
      | succ i =>
        refine Eq.trans ?_ (hinOrder i (Nat.lt_of_succ_lt_succ hi))
        congr 1
        omega

/-- Reading a message that arrives ends within a turn of the ring. -/
theorem readStreamMessages_isSome (h : Expects stream message handled)
    (hplain : ∀ n bytes, message n = some bytes → messageKind bytes = .noFragmented)
    {n : Nat} {msg : Datagram} (hlate : handled + stream.base.history.toNat < n + 65536)
    (hearly : n ≤ handled + stream.base.history.toNat)
    (hmessage : message n = some msg.bytes) (hpos : 1 ≤ msg.length)
    (hfit : msg.length + 4 ≤ stream.base.stride) (hlength : msg.length < 2 ^ 32) :
    (readStreamMessages (stream.base.history.toNat + 1) stream (UInt16.ofNat n) msg).isSome := by
  obtain ⟨received, hreceived, hhistory, -, hcallback, hcases⟩ := receive_whole h hlate
    hearly hmessage (hplain _ _ hmessage) hpos hfit hlength stream.base.history.toNat
  rw [readStreamMessages, hreceived]
  rcases hcases with ⟨hready, hexpects⟩ | ⟨hready, -, -, hbuffers⟩
  · simp [hready]
  · obtain ⟨r, hr⟩ := Option.isSome_iff_exists.mp (nextMessages_isSome hbuffers hcallback hplain)
    rw [hhistory] at hr
    simp [hready, hr]

end

end XrceClient
