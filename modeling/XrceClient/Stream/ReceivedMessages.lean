import XrceClient.Session.SessionSlots
import XrceClient.Stream.Delivery
import XrceClient.Stream.Reception

/-!
# The messages that were received

The runs of an input reliable stream, with the number of the last message that it handled and the
numbers of all that it received. Numbers are counts and do not wrap.

- `arrival`: the count of a sequence number, behind the last handled message.
- `Storable`: messages that leave a trace in their slot and in no other.
- `ReadToEnd`: a fragmented message that is read to its end, and not beyond it.
- `InputRun`: the runs.
- `HoldsReceived.takeThrough`: a reader that does so leaves the other slots as they were.
- `HoldsReceived`, `inputRun_holds`: a slot of the window is filled exactly if its message was received.
-/

namespace XrceClient

open ByteMemory InputReliableStream

/-- The count that a sequence number stands for, behind the `handled`-th message. -/
def arrival (handled : Nat) (seqNum : SeqNum) : Nat :=
  handled + Serial.dist (UInt16.ofNat handled) seqNum

/-- A message that is stored with a size that is not zero, and whose size fits in its slot. A
fragment has a payload. -/
structure Storable (stream : InputReliableStream) (msg : Datagram) : Prop where
  nonempty : 0 < msg.length
  payload : messageKind msg.bytes ≠ .noFragmented → 4 < msg.length
  fits : msg.length + 4 ≤ stream.base.stride
  length : msg.length < 2 ^ 32

section

variable [MicroCdr]

/-- The slots of a message that starts in the `first`-th one and goes on in the next `blocks` are
empty, and the others are as they were. -/
structure ReadToEnd (stream stream' : InputReliableStream) (first blocks : Nat) : Prop where
  emptied : ∀ n, first < n → n ≤ first + blocks → stream'.slotSize n = 0
  kept : ∀ n, first + blocks < n → n < first + stream.base.history.toNat →
    stream'.slotSize n = stream.slotSize n

/-- The runs of a stream. A message arrives when none is available in the slots any more; a
fragmented message that is handed to the reader of a session is read to its end. -/
inductive InputRun (message : Nat → List UInt8) :
    InputReliableStream → Nat → (Nat → Prop) → Prop
  | reset (stream : InputReliableStream) (hwf : stream.base.WellFormed)
      (hcallback : stream.onGetFragmentationInfo = onGetFragmentationInfo) :
      InputRun message (resetInputReliableStream stream) 65535 fun _ => False
  | receive {stream : InputReliableStream} {handled : Nat} {received : Nat → Prop}
      (hrun : InputRun message stream handled received)
      (hdrained : ∃ fuel ub r,
        nextInputReliableBufferAvailable fuel stream ub subheaderSize = some r ∧ r.1 = false)
      (seqNum : SeqNum) (msg : Datagram) (messageStored : Bool)
      (hmsg : stream.accepts seqNum = true →
        Storable stream msg ∧ message (arrival handled seqNum) = msg.bytes)
      {fuel : Nat} {r : Reception}
      (hr : receiveReliableMessage fuel stream seqNum msg messageStored = some r) :
      InputRun message r.stream
        (if r.readyToRead = true ∧ r.messageStored = false then handled + 1 else handled)
        fun n => received n ∨ stream.accepts seqNum = true ∧ n = arrival handled seqNum
  | heartbeat {stream : InputReliableStream} {handled : Nat} {received : Nat → Prop}
      (hrun : InputRun message stream handled received) (first last : SeqNum) :
      InputRun message (processHeartbeat stream first last) handled received
  | takeWhole {stream stream' : InputReliableStream} {handled : Nat} {received : Nat → Prop}
      (hrun : InputRun message stream handled received)
      (hwhole : stream.fragmentationInfo (seqNumAdd stream.lastHandled 1) = .noFragmented)
      {fuel : Nat} {ub ub' : UcdrBuffer}
      (hr : nextInputReliableBufferAvailable fuel stream ub subheaderSize =
        some (true, stream', ub')) :
      InputRun message stream' (handled + 1) received
  | takeFragmented {stream stream' : InputReliableStream} {handled : Nat} {received : Nat → Prop}
      (hrun : InputRun message stream handled received)
      (hfragmented : stream.fragmentationInfo (seqNumAdd stream.lastHandled 1) ≠ .noFragmented)
      {ub ub' : UcdrBuffer}
      (hr : nextInputReliableBufferAvailable stream.base.history.toNat stream ub subheaderSize =
        some (true, stream', ub'))
      {blocks : Nat} (hblocks : blocks < stream.base.history.toNat)
      (hlast : stream'.lastHandled = UInt16.ofNat (handled + 1 + blocks))
      {shiftBeyond : Nat → UInt16} {config : ReadConfig} {streamId : StreamId} {session : Session}
      (hstream : session.streams.inputReliable streamId.index = stream')
      {fuel : Nat} {complete : Bool} {session' : Session} {cursor : Cursor}
      (hread : (slotsEnv shiftBeyond streamId.index).read
        (readSubmessageList config fuel streamId) session ub' = (complete, session', cursor))
      (hend : ReadToEnd stream' (session'.streams.inputReliable streamId.index) (handled + 1) blocks) :
      InputRun message (session'.streams.inputReliable streamId.index) (handled + 1 + blocks) received

end

/-- What runs keep: a slot of the window is filled exactly if its message was received, and no
message behind the window was. -/
structure HoldsReceived [MicroCdr] (message : Nat → List UInt8) (stream : InputReliableStream)
    (handled : Nat) (received : Nat → Prop) : Prop where
  buffers : Buffers stream (fun n => some (message n)) handled
  callback : stream.onGetFragmentationInfo = onGetFragmentationInfo
  filled : ∀ n, handled < n → n ≤ handled + stream.base.history.toNat →
    (stream.slotSize n ≠ 0 ↔ received n)
  bounded : ∀ n, received n → n ≤ handled + stream.base.history.toNat
  payload : ∀ n, received n → messageKind (message n) ≠ .noFragmented → 4 < (message n).length

section

variable [MicroCdr] {message : Nat → List UInt8} {stream : InputReliableStream} {handled : Nat}
  {received : Nat → Prop}

/-! ## Counts -/

omit [MicroCdr] in
@[simp] theorem ofNat_arrival (handled : Nat) (seqNum : SeqNum) :
    UInt16.ofNat (arrival handled seqNum) = seqNum := by
  rw [arrival, ← Serial.ofNat_add_ofNat, Serial.add_dist]

omit [MicroCdr] in
/-- A number that is accepted lies in the window. -/
theorem Buffers.arrival_window {message : Nat → Option (List UInt8)}
    (h : Buffers stream message handled) {seqNum : SeqNum} (haccepts : stream.accepts seqNum = true) :
    handled < arrival handled seqNum ∧
      arrival handled seqNum ≤ handled + stream.base.history.toNat := by
  have hH := h.wellFormed.history_le
  obtain ⟨hahead, hwindow⟩ := of_decide_eq_true haccepts
  rw [seqNumCmp_neg_iff, h.lastHandled] at hahead
  rw [seqNumCmp_nonneg_iff, seqNumAdd_eq, h.lastHandled] at hwindow
  rw [arrival]
  generalize hd : Serial.dist (UInt16.ofNat handled) seqNum = d at hahead ⊢
  rw [Serial.dist_eq] at hd
  rw [Serial.dist_eq, UInt16.toNat_add] at hwindow
  have hq := seqNum.toNat_lt
  have hh := (UInt16.ofNat handled).toNat_lt
  unfold seqNumMidsize at hahead hwindow
  omega

/-! ## Announcements -/

theorem HoldsReceived.announce (h : HoldsReceived message stream handled received) (seqNum : SeqNum) :
    HoldsReceived message (stream.announce seqNum) handled received := by
  have hbuffers := h.buffers.announce seqNum
  obtain ⟨lastAnnounced, heq⟩ := announce_eq stream seqNum
  rw [heq] at hbuffers ⊢
  exact ⟨hbuffers, h.callback, h.filled, h.bounded, h.payload⟩

/-- What is received already may be received again. -/
theorem HoldsReceived.congr (h : HoldsReceived message stream handled received) {received' : Nat → Prop}
    (hsame : ∀ n, received' n ↔ received n) : HoldsReceived message stream handled received' := by
  obtain rfl : received = received' := funext fun n => propext (hsame n).symm
  exact h

/-! ## Reset -/

theorem holdsReceived_reset (hwf : stream.base.WellFormed)
    (hcallback : stream.onGetFragmentationInfo = onGetFragmentationInfo) :
    HoldsReceived message (resetInputReliableStream stream) 65535 fun _ => False := by
  obtain ⟨hbuffers, hempty⟩ := buffers_init stream.base.buffer stream.onGetFragmentationInfo hwf
    fun n => some (message n)
  refine ⟨⟨hbuffers.wellFormed, rfl, hbuffers.fits, hbuffers.held⟩, hcallback, ?_, nofun, nofun⟩
  intro n _ _
  refine iff_of_false ?_ id
  exact not_not.mpr (hempty n)

/-! ## Taking messages out of the slots -/

/-- The slots of the next messages are emptied, and the window moves behind them. -/
theorem HoldsReceived.advance (h : HoldsReceived message stream handled received) {stream' : InputReliableStream}
    {blocks : Nat} (hbuffers : Buffers stream' (fun n => some (message n)) (handled + blocks))
    (hcallback : stream'.onGetFragmentationInfo = onGetFragmentationInfo)
    (hhistory : stream'.base.history = stream.base.history)
    (hslots : ∀ n, handled + blocks < n → n ≤ handled + stream.base.history.toNat →
      stream'.slotSize n = stream.slotSize n)
    (hemptied : ∀ n, handled < n → n ≤ handled + blocks → stream'.slotSize n = 0) :
    HoldsReceived message stream' (handled + blocks) received := by
  refine ⟨hbuffers, hcallback, ?_, ?_, h.payload⟩
  · rw [hhistory]
    intro n h₁ h₂
    rcases Nat.lt_or_ge (handled + stream.base.history.toNat) n with hnew | hold
    · -- the slots that are new in the window are those that it left
      refine iff_of_false ?_ fun hreceived => ?_
      · have hturn := slotSize_turn hbuffers.wellFormed (n - stream.base.history.toNat)
        rw [hhistory, Nat.sub_add_cancel (by omega)] at hturn
        rw [hturn]
        exact not_not.mpr (hemptied _ (by omega) (by omega))
      · exact absurd (h.bounded n hreceived) (by omega)
    · rw [hslots n h₁ hold]
      exact h.filled n (by omega) hold
  · rw [hhistory]
    intro n hreceived
    have := h.bounded n hreceived
    omega

/-- A whole message is taken out of its slot. -/
theorem HoldsReceived.takeWhole (h : HoldsReceived message stream handled received)
    (hwhole : stream.fragmentationInfo (seqNumAdd stream.lastHandled 1) = .noFragmented)
    {stream' : InputReliableStream} {fuel : Nat} {ub ub' : UcdrBuffer} {fragmentOffset : Nat}
    (hr : nextInputReliableBufferAvailable fuel stream ub fragmentOffset =
      some (true, stream', ub')) : HoldsReceived message stream' (handled + 1) received := by
  rw [h.buffers.lastHandled, seqNumAdd_one] at hwhole
  rw [nextInputReliableBufferAvailable, h.buffers.lastHandled, seqNumAdd_one] at hr
  dsimp only at hr
  rw [hwhole] at hr
  split at hr
  · cases hr
    refine h.advance h.buffers.takeNext h.callback rfl ?_ ?_
    · intro n h₁ h₂
      refine (slotSize_clear h.buffers.wellFormed (handled + 1) n).trans (if_neg ?_)
      exact OutputReliableStream.mod_ne_of_window (by omega) (by omega) (by omega)
    · intro n h₁ h₂
      refine (slotSize_clear h.buffers.wellFormed (handled + 1) n).trans (if_pos ?_)
      rw [Nat.le_antisymm h₂ h₁]
  · cases hr

/-- What a message is can be told from its bytes, in its slot or where it arrived. -/
theorem onGetFragmentationInfo_storable [LawfulMicroCdr] {memory : Memory} {buffer length : Nat}
    (hpos : 0 < length)
    (hpayload : messageKind (read memory buffer length) ≠ .noFragmented → 4 < length) :
    onGetFragmentationInfo memory buffer = messageKind (read memory buffer length) := by
  by_cases hplain : messageKind (read memory buffer length) = .noFragmented
  · rw [hplain]
    exact onGetFragmentationInfo_plain memory buffer hpos hplain
  · have := hpayload hplain
    exact onGetFragmentationInfo_read memory buffer (by omega)

/-- So it is for a message that waits in the window. -/
theorem HoldsReceived.kind [LawfulMicroCdr] (h : HoldsReceived message stream handled received)
    {n : Nat} (h₁ : handled < n) (h₂ : n ≤ handled + stream.base.history.toNat)
    (hfilled : stream.slotSize n ≠ 0) :
    message n = stream.slotMessage n ∧
      stream.fragmentationInfo (UInt16.ofNat n) = messageKind (message n) := by
  have hheld : message n = stream.slotMessage n := Option.some.inj (h.buffers.held n h₁ h₂ hfilled)
  have hlength : (stream.slotMessage n).length = stream.slotSize n := read_length _ _ _
  refine ⟨hheld, ?_⟩
  rw [fragmentationInfo, h.callback, hheld]
  refine onGetFragmentationInfo_storable (Nat.pos_of_ne_zero hfilled) fun hfragment => ?_
  have hpayload := h.payload n ((h.filled n h₁ h₂).mp hfilled)
  rw [hheld, hlength] at hpayload
  exact hpayload hfragment

omit [MicroCdr] in
/-- Slots that are emptied hold what they held, or nothing. -/
theorem Buffers.emptied {message : Nat → Option (List UInt8)} (h : Buffers stream message handled)
    {stream' : InputReliableStream} (hemptied : Emptied stream stream') :
    Buffers stream' message handled := by
  have hstride := h.wellFormed.stride
  have hsize (n : Nat) := hemptied.size_or (Nat.le_of_lt hstride) (UInt16.ofNat n)
  refine ⟨⟨?_, ?_⟩, hemptied.lastHandled.trans h.lastHandled, ?_, ?_⟩
  · rw [hemptied.shape.2]
    exact h.wellFormed.history
  · rw [hemptied.stride]
    exact hstride
  · intro n
    have hfits := h.fits n
    rw [hemptied.stride]
    rcases hsize n with hsame | hzero
    · exact (congrArg (· + 4) hsame).trans_le hfits
    · have : stream'.slotSize n = 0 := hzero
      omega
  · intro n h₁ h₂ hfilled
    rw [hemptied.shape.2] at h₂
    have hsame : stream'.slotSize n = stream.slotSize n := (hsize n).resolve_right hfilled
    have hfits := h.fits n
    rw [h.held n h₁ h₂ (hsame ▸ hfilled), slotMessage, slotMessage, hsame,
      hemptied.bytesFrom _ (by omega)]

/-- The slot of the next message is emptied when the message is handed over. -/
theorem nextInputReliableBufferAvailable_stream {fuel fragmentOffset : Nat} {ub ub' : UcdrBuffer}
    {stream' : InputReliableStream}
    (hr : nextInputReliableBufferAvailable fuel stream ub fragmentOffset =
      some (true, stream', ub')) :
    stream' = { stream with
      base := setReliableBufferSize stream.base (seqNumAdd stream.lastHandled 1) 0
      lastHandled := stream'.lastHandled } := by
  rw [nextInputReliableBufferAvailable] at hr
  dsimp only at hr
  split at hr
  · split at hr
    · cases hr
      rfl
    · obtain ⟨⟨found, last⟩, -, heq⟩ := Option.map_eq_some_iff.mp hr
      cases found with
      | false => cases heq
      | true =>
        cases heq
        rfl
  · cases hr

/-- A message that is read to its end is taken out of its slots. -/
theorem HoldsReceived.takeThrough (h : HoldsReceived message stream handled received)
    {fuel fragmentOffset : Nat} {ub ub' : UcdrBuffer} {stream' : InputReliableStream}
    (hr : nextInputReliableBufferAvailable fuel stream ub fragmentOffset =
      some (true, stream', ub'))
    {blocks : Nat} (hblocks : blocks < stream.base.history.toNat)
    (hlast : stream'.lastHandled = UInt16.ofNat (handled + 1 + blocks))
    {last : InputReliableStream} (hemptied : Emptied stream' last)
    (hend : ReadToEnd stream' last (handled + 1) blocks) :
    HoldsReceived message last (handled + 1 + blocks) received := by
  have hwf := h.buffers.wellFormed
  have htaken := nextInputReliableBufferAvailable_stream hr
  rw [h.buffers.lastHandled, seqNumAdd_one] at htaken
  obtain ⟨q, rfl⟩ : ∃ q, stream' = { stream.clear (handled + 1) with lastHandled := q } := ⟨_, htaken⟩
  obtain rfl : q = UInt16.ofNat (handled + 1 + blocks) := hlast
  have hsize (n : Nat) := slotSize_clear hwf (handled + 1) n
  -- the first slot was emptied when the message was handed over
  have hempty (n : Nat) (h₁ : handled < n) (h₂ : n ≤ handled + (1 + blocks)) :
      last.slotSize n = 0 := by
    rcases Nat.eq_or_lt_of_le h₁ with rfl | hlater
    · have hfirst := (hsize (handled + 1)).trans (if_pos rfl)
      rcases hemptied.size_or (Nat.le_of_lt hwf.stride) (UInt16.ofNat (handled + 1)) with hsame | hzero
      · exact hsame.trans hfirst
      · exact hzero
    · exact hend.emptied n hlater (by omega)
  have hbuffers : Buffers last (fun n => some (message n)) (handled + (1 + blocks)) := by
    have hbefore : Emptied (stream.clear (handled + 1))
        { last with lastHandled := UInt16.ofNat handled } := by
      rw [← h.buffers.lastHandled]
      exact hemptied.setLastHandled stream.lastHandled
    have hlastHandled : last.lastHandled = UInt16.ofNat (handled + (1 + blocks)) := by
      rw [← Nat.add_assoc]
      exact hemptied.lastHandled
    rw [show last = { last with lastHandled := UInt16.ofNat (handled + (1 + blocks)) } by
      rw [← hlastHandled]]
    exact ((h.buffers.clear (handled + 1)).emptied hbefore).advance (Nat.le_add_right _ _) hempty
  rw [Nat.add_assoc]
  refine h.advance hbuffers (hemptied.onGetFragmentationInfo.trans h.callback) hemptied.shape.2 ?_
    hempty
  intro n h₁ h₂
  have hother : n % stream.base.history.toNat ≠ (handled + 1) % stream.base.history.toNat :=
    OutputReliableStream.mod_ne_of_window (by omega) (by omega) (by omega)
  exact (hend.kept n (by omega) (show n < handled + 1 + stream.base.history.toNat by omega)).trans
    ((hsize n).trans (if_neg hother))

/-! ## Receptions -/

/-- Where no whole message is available, the next slot does not hold one. -/
theorem HoldsReceived.next_empty [LawfulMicroCdr]
    (h : HoldsReceived message stream handled received)
    (hdrained : ∃ fuel ub r,
      nextInputReliableBufferAvailable fuel stream ub subheaderSize = some r ∧ r.1 = false)
    (hwhole : messageKind (message (handled + 1)) = .noFragmented) :
    stream.slotSize (handled + 1) = 0 := by
  have hpos := h.buffers.wellFormed.history_pos
  by_contra hfilled
  obtain ⟨-, hkind⟩ := @HoldsReceived.kind _ message stream handled received _ h (handled + 1)
    (Nat.lt_succ_self handled) (by omega) hfilled
  change getReliableBufferSize stream.base (UInt16.ofNat (handled + 1)) ≠ 0 at hfilled
  obtain ⟨fuel, ub, r, hr, hnone⟩ := hdrained
  rw [nextInputReliableBufferAvailable, h.buffers.lastHandled, seqNumAdd_one] at hr
  dsimp only at hr
  rw [if_pos hfilled, hkind, hwhole] at hr
  cases hr
  cases hnone

/-- A message is stored in its slot. -/
theorem HoldsReceived.store (h : HoldsReceived message stream handled received) {n : Nat}
    {msg : Datagram} (hlt : handled < n) (hwindow : n ≤ handled + stream.base.history.toNat)
    (hstorable : Storable stream msg) (hmessage : message n = msg.bytes) :
    HoldsReceived message (stream.store (UInt16.ofNat n) msg) handled
      fun m => received m ∨ m = n := by
  have hlength : msg.bytes.length = msg.length := read_length _ _ _
  refine ⟨h.buffers.store hlt hwindow hstorable.fits hstorable.length (congrArg some hmessage),
    h.callback, ?_, ?_, ?_⟩
  · intro m h₁ h₂
    rw [slotSize_store h.buffers.wellFormed n m hstorable.fits hstorable.length]
    change m ≤ handled + stream.base.history.toNat at h₂
    by_cases hsame : m = n
    · subst hsame
      rw [if_pos rfl]
      exact iff_of_true (Nat.pos_iff_ne_zero.mp hstorable.nonempty) (.inr rfl)
    · rw [if_neg (OutputReliableStream.mod_ne_of_window hsame (by omega) (by omega)),
        h.filled m h₁ h₂]
      exact ⟨.inl, fun hreceived => hreceived.resolve_right hsame⟩
  · rintro m (hreceived | rfl)
    · exact h.bounded m hreceived
    · exact hwindow
  · rintro m (hreceived | rfl) hfragment
    · exact h.payload m hreceived hfragment
    · rw [hmessage] at hfragment ⊢
      rw [hlength]
      exact hstorable.payload hfragment

/-- The next message is handled at once, and its slot stays empty. -/
theorem HoldsReceived.handleNext (h : HoldsReceived message stream handled received)
    {msg : Datagram} (hstorable : Storable stream msg) (hmessage : message (handled + 1) = msg.bytes)
    (hempty : stream.slotSize (handled + 1) = 0) :
    HoldsReceived message { stream with lastHandled := UInt16.ofNat (handled + 1) } (handled + 1)
      fun m => received m ∨ m = handled + 1 := by
  have hempty' (n : Nat) (h₁ : handled < n) (h₂ : n ≤ handled + 1) : stream.slotSize n = 0 := by
    rw [Nat.le_antisymm h₂ h₁]
    exact hempty
  have hadvance := h.advance (h.buffers.advance (Nat.le_succ handled) hempty') h.callback rfl
    (fun _ _ _ => rfl) hempty'
  refine ⟨hadvance.buffers, h.callback, ?_, ?_, ?_⟩
  · intro m h₁ h₂
    rw [hadvance.filled m h₁ h₂]
    exact ⟨.inl, fun hreceived => hreceived.resolve_right (by omega)⟩
  · rintro m (hreceived | rfl)
    · exact hadvance.bounded m hreceived
    · exact Nat.le_add_right _ _
  · rintro m (hreceived | rfl) hfragment
    · exact h.payload m hreceived hfragment
    · rw [hmessage] at hfragment ⊢
      rw [show msg.bytes.length = msg.length from read_length _ _ _]
      exact hstorable.payload hfragment

/-- A message that arrives is received if its number is accepted. -/
theorem HoldsReceived.receive [LawfulMicroCdr] (h : HoldsReceived message stream handled received)
    (hdrained : ∃ fuel ub r,
      nextInputReliableBufferAvailable fuel stream ub subheaderSize = some r ∧ r.1 = false)
    {seqNum : SeqNum} {msg : Datagram} {messageStored : Bool}
    (hmsg : stream.accepts seqNum = true →
      Storable stream msg ∧ message (arrival handled seqNum) = msg.bytes)
    {fuel : Nat} {r : Reception}
    (hr : receiveReliableMessage fuel stream seqNum msg messageStored = some r) :
    HoldsReceived message r.stream
      (if r.readyToRead = true ∧ r.messageStored = false then handled + 1 else handled)
      fun n => received n ∨ stream.accepts seqNum = true ∧ n = arrival handled seqNum := by
  have hH := h.buffers.wellFormed.history_le
  by_cases haccepts : stream.accepts seqNum = true
  · obtain ⟨hstorable, hmessage⟩ := hmsg haccepts
    obtain ⟨hlt, hwindow⟩ := h.buffers.arrival_window haccepts
    have hnumber : UInt16.ofNat (arrival handled seqNum) = seqNum := ofNat_arrival _ _
    generalize arrival handled seqNum = n at hmessage hlt hwindow hnumber ⊢
    simp only [haccepts, true_and]
    by_cases hstores : stream.Stores seqNum msg
    · rw [receiveReliableMessage_stored_stream hstores hr]
      have hstored : r.messageStored = true := by
        rw [receiveReliableMessage_of_stores hstores] at hr
        split at hr
        · obtain ⟨-, -, rfl⟩ := Option.map_eq_some_iff.mp hr
          rfl
        · cases hr
          rfl
      rw [if_neg fun hdirect => by rw [hstored] at hdirect; exact Bool.false_ne_true hdirect.2.symm, ← hnumber]
      exact (h.store hlt hwindow hstorable hmessage).announce _
    · rw [receiveReliableMessage, if_pos haccepts] at hr
      dsimp only at hr
      rw [h.callback, h.buffers.lastHandled, seqNumAdd_one] at hr
      split at hr
      · next hdirect =>
        cases hr
        obtain ⟨hwhole, hnext⟩ := hdirect
        obtain rfl : handled + 1 = n :=
          Serial.ofNat_inj_of_lt hlt (by omega) (hnext.symm.trans hnumber.symm)
        have hkind := onGetFragmentationInfo_storable hstorable.nonempty hstorable.payload
        have hempty := h.next_empty hdrained (by rw [hmessage]; exact hkind.symm.trans hwhole)
        rw [if_pos ⟨rfl, rfl⟩]
        have hhandled := (h.handleNext hstorable hmessage hempty).announce seqNum
        rw [h.callback] at hhandled
        exact hhandled
      · next hnot =>
        -- it was received before
        have hfilled : getReliableBufferSize stream.base seqNum ≠ 0 := fun hempty =>
          hstores ⟨haccepts, by rwa [h.callback, h.buffers.lastHandled, seqNumAdd_one], hempty⟩
        rw [if_neg hfilled] at hr
        cases hr
        rw [if_neg fun hdirect => Bool.false_ne_true hdirect.1]
        rw [← hnumber] at hfilled
        have hreceived := (h.filled n hlt hwindow).mp hfilled
        refine (h.announce _).congr fun m => ⟨?_, .inl⟩
        rintro (hm | rfl)
        · exact hm
        · exact hreceived
  · rw [receiveReliableMessage, if_neg haccepts] at hr
    cases hr
    rw [if_neg fun hdirect => Bool.false_ne_true hdirect.1]
    exact (h.announce _).congr fun m => ⟨fun hm => hm.resolve_right fun hnew => haccepts hnew.1, .inl⟩

/-- The reader of a session leaves the stream with slots emptied. -/
theorem readSubmessageList_emptied [LawfulMicroCdr] {shiftBeyond : Nat → UInt16} {config : ReadConfig}
    {streamId : StreamId} {session session' : Session} {ub : UcdrBuffer} {fuel : Nat}
    {complete : Bool} {cursor : Cursor}
    (hread : (slotsEnv shiftBeyond streamId.index).read (readSubmessageList config fuel streamId)
      session ub = (complete, session', cursor)) :
    Emptied (session.streams.inputReliable streamId.index)
      (session'.streams.inputReliable streamId.index) := by
  have hemptied := (sessionSlots shiftBeyond streamId.index).run_emptied
    (readSubmessageList config fuel streamId) session { ub, outer := none }
  have hsession : ((readSubmessageList config fuel streamId).run
      (slotsEnv shiftBeyond streamId.index).handle (session, { ub, outer := none })).2.1 = session' :=
    congrArg (·.2.1) hread
  rw [← hsession]
  exact hemptied

/-- Every run keeps track of the messages that it received. -/
theorem inputRun_holds [LawfulMicroCdr] (hrun : InputRun message stream handled received) :
    HoldsReceived message stream handled received := by
  induction hrun with
  | reset stream hwf hcallback => exact holdsReceived_reset hwf hcallback
  | receive hrun hdrained seqNum msg messageStored hmsg hr ih => exact ih.receive hdrained hmsg hr
  | heartbeat hrun first last ih => exact ih.announce last
  | takeWhole hrun hwhole hr ih => exact ih.takeWhole hwhole hr
  | takeFragmented hrun hfragmented hr hblocks hlast hstream hread hend ih =>
    have hemptied := readSubmessageList_emptied hread
    rw [hstream] at hemptied
    exact ih.takeThrough hr hblocks hlast hemptied hend

end

end XrceClient
