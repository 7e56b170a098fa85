import XrceClient.Session.SessionRuns

/-!
# What is written is kept

A message in a reliable stream stays in its slot until the agent acknowledges it, whatever the user
calls in between, whatever the transport refuses and whatever arrives.

- `KeepsMessages`: between two states of a stream messages were acknowledged, those that are left
  hold the submessages that they held, and those that were sent before hold no others.
- `AcknowledgesSent`: the ACKNACKs among some effects acknowledge what was sent.
- `KeepsStreams`: so it is for every reliable stream of a session.
- `kept_until_acknowledged`: so it is for the calls of the user, one after the other, with an agent
  that acknowledges what was sent.
-/

namespace XrceClient

open ByteMemory OutputReliableStream

/-! ## One stream -/

/-- From one state to the other the messages up to `win'.acked` were acknowledged, as `covers`
says. What the others held they hold, and more only if they were not sent. -/
structure KeepsMessages {H : Nat} (covers : SeqNum → Prop) (stream stream' : OutputReliableStream)
    (win win' : OutputWindow H) : Prop where
  after : Represents stream' win'
  shape : SameShape stream stream'
  acked_le : win.acked ≤ win'.acked
  sent_le : win.sent ≤ win'.sent
  covered : ∀ n, win.acked < n → n ≤ win'.acked → covers (UInt16.ofNat n)
  grows : ∀ n, win'.acked < n → n ≤ win.acked + H → stream.slotSize n ≤ stream'.slotSize n
  holds : ∀ n message, win'.acked < n → n ≤ win.acked + H →
    stream.offset.toNat < stream.slotSize n → Packs (stream.contents n) message →
      ∃ more, Packs (stream'.contents n) (message ++ more) ∧ (n ≤ win.sent → more = [])

namespace KeepsMessages

variable {H : Nat} {covers covers' : SeqNum → Prop}
  {stream stream' stream'' : OutputReliableStream} {win win' win'' : OutputWindow H}

/-- Nothing is acknowledged, and every slot in the window holds what it held. -/
theorem of_contents (hafter : Represents stream' win') (hshape : SameShape stream stream')
    (hacked : win'.acked = win.acked) (hsent : win.sent ≤ win'.sent)
    (hsize : ∀ n, stream'.slotSize n = stream.slotSize n)
    (hcontents : ∀ n, stream'.contents n = stream.contents n) :
    KeepsMessages covers stream stream' win win' where
  after := hafter
  shape := hshape
  acked_le := Nat.le_of_eq hacked.symm
  sent_le := hsent
  covered n h₁ h₂ := absurd h₁ (by omega)
  grows n _ _ := Nat.le_of_eq (hsize n).symm
  holds n message _ _ _ hpacks := by
    refine ⟨[], ?_, fun _ => rfl⟩
    rw [List.append_nil, hcontents]
    exact hpacks

theorem refl (h : Represents stream win) : KeepsMessages covers stream stream win win :=
  of_contents h (SameShape.refl _) rfl (Nat.le_refl _) (fun _ => rfl) fun _ => rfl

theorem mono (h : KeepsMessages covers stream stream' win win')
    (hcovers : ∀ q, covers q → covers' q) : KeepsMessages covers' stream stream' win win' :=
  { h with covered := fun n h₁ h₂ => hcovers _ (h.covered n h₁ h₂) }

theorem trans (h : KeepsMessages covers stream stream' win win')
    (h' : KeepsMessages covers stream' stream'' win' win'') :
    KeepsMessages covers stream stream'' win win'' where
  after := h'.after
  shape := h.shape.trans h'.shape
  acked_le := Nat.le_trans h.acked_le h'.acked_le
  sent_le := Nat.le_trans h.sent_le h'.sent_le
  covered n h₁ h₂ := by
    by_cases hle : n ≤ win'.acked
    · exact h.covered n h₁ hle
    · exact h'.covered n (by omega) h₂
  grows n h₁ h₂ := by
    have hfirst := h.acked_le
    have hsecond := h'.acked_le
    exact Nat.le_trans (h.grows n (by omega) h₂) (h'.grows n h₁ (by omega))
  holds n message h₁ h₂ hfilled hpacks := by
    have hfirst := h.acked_le
    have hsecond := h'.acked_le
    have hsent := h.sent_le
    have hgrows := h.grows n (by omega) h₂
    obtain ⟨more, hmore, hnone⟩ := h.holds n message (by omega) h₂ hfilled hpacks
    obtain ⟨more', hmore', hnone'⟩ :=
      h'.holds n _ h₁ (by omega) (by rw [h.shape.offset]; omega) hmore
    refine ⟨more ++ more', by rwa [← List.append_assoc], fun hle => ?_⟩
    rw [hnone hle, hnone' (by omega), List.append_nil]

/-- Where nothing is acknowledged, what may be acknowledged may still be. -/
theorem inRange (h : KeepsMessages covers stream stream' win win') (hrep : Represents stream win)
    (hnone : ∀ q, ¬ covers q) {firstUnackedSeqNum : SeqNum}
    (hrange : AcknackInRange stream firstUnackedSeqNum) :
    AcknackInRange stream' firstUnackedSeqNum := by
  have hacked : win'.acked = win.acked := by
    have hle := h.acked_le
    by_contra hne
    exact hnone _ (h.covered (win.acked + 1) (Nat.lt_succ_self _) (by omega))
  have hsent := h.sent_le
  have hsame : stream'.lastAcknown = stream.lastAcknown := by
    rw [h.after.tracks.lastAcknown, hrep.tracks.lastAcknown, hacked]
  rw [AcknackInRange, hrep.tracks.dist_lastSent] at hrange
  rw [AcknackInRange, h.after.tracks.dist_lastSent, hsame, hacked]
  omega

end KeepsMessages

/-! ### What goes out -/

/-- Bytes of a slot behind those that are stored. -/
theorem ReliableStream.bytesFrom_storeBytes_behind {stream : ReliableStream} {p q : UInt16}
    (h : stream.slot q = stream.slot p) {k k' n : Nat} {bs : List UInt8}
    (hle : k + bs.length ≤ k') :
    (stream.storeBytes p k bs).bytesFrom q k' n = stream.bytesFrom q k' n := by
  rw [bytesFrom, bytesFrom, storeBytes, getReliableBuffer_eq, getReliableBuffer_eq,
    getReliableBuffer_eq, ← h]
  show read _ (stream.slot q * stream.stride + 4 + k') n = _
  exact read_write_disjoint _ (by omega)

/-- The header of a message is in front of the contents. -/
theorem contents_storeHeader {H : Nat} {stream : OutputReliableStream} {win : OutputWindow H}
    (h : Tracks stream win) (m n : Nat) {header : List UInt8}
    (hheader : header.length = stream.offset.toNat) :
    (stream.storeSlotBytes m 0 header).contents n = stream.contents n := by
  have hoffset := h.offset_lt_capacity
  have hbounded := h.bounded n
  have hcapacity := h.formed.capacity_eq
  have hfit : 0 + header.length ≤ getReliableBufferCapacity stream.base := by omega
  have hsize := slotSize_storeSlotBytes h.formed m n hfit
  rw [contents, hsize, contents]
  show (stream.base.storeBytes (UInt16.ofNat m) 0 header).bytesFrom (UInt16.ofNat n)
    stream.offset.toNat _ = _
  by_cases hslot : stream.base.slot (UInt16.ofNat n) = stream.base.slot (UInt16.ofNat m)
  · exact ReliableStream.bytesFrom_storeBytes_behind hslot (by omega)
  · have hle := h.offset_le n
    refine ReliableStream.bytesFrom_storeBytes_other hslot (by omega) ?_
    show 4 + stream.offset.toNat + (stream.slotSize n - stream.offset.toNat) ≤ _
    omega

section

variable [MicroCdr] [LawfulMicroCdr] {info : SessionInfo} {i : UInt8} {H : Nat}
  {covers : SeqNum → Prop} {stream : OutputReliableStream} {win : OutputWindow H}

/-- What the slots hold behind their headers is the same when a header is stamped. -/
theorem contents_stamped (h : Represents stream win) (hkey : info.key.length = clientKeySize)
    (hoffset : stream.offset.toNat = sessionHeaderOffset info) (n : Nat) :
    (stampedMessage info i (prepareNextReliableBufferToSend stream).2.1
      (prepareNextReliableBufferToSend stream).2.2).2.contents n = stream.contents n := by
  obtain ⟨prepared, hprepared⟩ : ∃ prepared,
      prepared = (prepareNextReliableBufferToSend stream).2.1 := ⟨_, rfl⟩
  have hbase : prepared.base = stream.base := by rw [hprepared, prepareNext_base]
  have hsame : prepared.offset = stream.offset := by rw [hprepared, prepareNext_offset]
  have hcontents (m : Nat) (header : List UInt8) :
      (prepared.storeSlotBytes m 0 header).contents n =
        (stream.storeSlotBytes m 0 header).contents n := by
    simp only [contents, storeSlotBytes, slotSize, hbase, hsame]
  obtain ⟨header, hlength, hstamped⟩ := @stampedMessage_stream _ _ info i prepared hkey
    (prepareNextReliableBufferToSend stream).2.2 (win.sent + 1)
    (by rw [prepareNext_nextBuffer h.tracks, hbase])
  rw [← hprepared, hstamped, hcontents,
    contents_storeHeader h.tracks _ _ (hlength.trans hoffset.symm)]

/-- A message that is sent is kept, with its header stamped. -/
theorem keepsMessages_send (h : Represents stream win) (hkey : info.key.length = clientKeySize)
    (hoffset : stream.offset.toNat = sessionHeaderOffset info)
    (hready : (prepareNextReliableBufferToSend stream).1 = true) :
    ∃ win' : OutputWindow H, KeepsMessages covers stream
      (stampedMessage info i (prepareNextReliableBufferToSend stream).2.1
        (prepareNextReliableBufferToSend stream).2.2).2 win win' := by
  obtain ⟨hlt, hflushed⟩ := @flushedTo_send _ _ info i _ _ _ h hkey hoffset hready
  exact ⟨_, .of_contents hflushed.after hflushed.shape hflushed.acked hflushed.sent hflushed.slots
    fun n => contents_stamped h hkey hoffset n⟩

/-- A message that is refused is kept as well. -/
theorem keepsMessages_refuse (h : Represents stream win) (hkey : info.key.length = clientKeySize)
    (hoffset : stream.offset.toNat = sessionHeaderOffset info)
    (hready : (prepareNextReliableBufferToSend stream).1 = true) :
    ∃ win' : OutputWindow H, KeepsMessages covers stream
      (cancelReliableBufferToSend
        (stampedMessage info i (prepareNextReliableBufferToSend stream).2.1
          (prepareNextReliableBufferToSend stream).2.2).2
        (prepareNextReliableBufferToSend stream).2.2.seqNum) win win' := by
  obtain ⟨win', -, hflushed⟩ := @flushedTo_cancel _ _ info i _ _ _ h hkey hoffset hready
  refine ⟨win', .of_contents hflushed.after hflushed.shape hflushed.acked hflushed.sent
    hflushed.slots fun n => ?_⟩
  -- taking a message back changes numbers only
  exact contents_stamped h hkey hoffset n

end

section

variable {H : Nat} {covers : SeqNum → Prop} {stream : OutputReliableStream} {win : OutputWindow H}

/-- A heartbeat is no part of the window. -/
theorem keepsMessages_heartbeat (h : Represents stream win) (nextHeartbeatTimestamp : Int)
    (nextHeartbeatTries : UInt8) :
    KeepsMessages covers stream { stream with nextHeartbeatTimestamp, nextHeartbeatTries } win
      win := by
  have htracks := h.tracks
  have hafter : Tracks { stream with nextHeartbeatTimestamp, nextHeartbeatTries } win :=
    { formed := htracks.formed.congr rfl rfl rfl
      history := htracks.history
      lastAcknown := htracks.lastAcknown
      lastSent := htracks.lastSent
      lastWritten := htracks.lastWritten
      filled := htracks.filled
      empty := htracks.empty
      offset_le := htracks.offset_le
      bounded := htracks.bounded }
  exact .of_contents (hafter.represents h.history_le) ⟨rfl, rfl, rfl⟩ rfl (Nat.le_refl _)
    (fun _ => rfl) fun _ => rfl

/-- An acknowledgement for messages that were sent covers these, and leaves the others alone. -/
theorem keepsMessages_acknack (h : Represents stream win) (bitmap : UInt16)
    {firstUnackedSeqNum : SeqNum} (hrange : AcknackInRange stream firstUnackedSeqNum) :
    ∃ win' : OutputWindow H, KeepsMessages (fun q => 0 > seqNumCmp q firstUnackedSeqNum) stream
      (sendLostMessages (processAcknack stream bitmap firstUnackedSeqNum)).2 win win' := by
  have hH := h.history_le
  obtain ⟨k, hk, rfl⟩ := h.tracks.acknackInRange hrange
  obtain ⟨win', hmoves, hsent, -⟩ := moves_acknack h.tracks bitmap hrange
  have hafter := tracks_sendLost hmoves.tracks false
  have hwindow := win.sent_lt_written
  have hroom := win.written_le
  -- the count up to which messages are acknowledged
  have hacked : win'.acked = win.acked + k := by
    have hnumber := hmoves.tracks.lastAcknown
    rw [processAcknack_lastAcknown, ← seqNumSub_eq, seqNumSub_one (by omega),
      Nat.add_sub_cancel] at hnumber
    have hle := win'.acked_le_sent
    have hge := hmoves.acked_le
    have hdist := congrArg (Serial.dist (UInt16.ofNat win.acked)) hnumber
    rwa [Serial.dist_ofNat (by omega) (by omega), Serial.dist_ofNat (by omega) (by omega),
      Nat.add_sub_cancel_left, eq_comm, Nat.sub_eq_iff_eq_add' hge] at hdist
  rw [sendLostMessages_stream]
  have hshape := hmoves.shape
  refine ⟨win', hafter.represents hH, ⟨hshape.size, hshape.history, hshape.offset⟩,
    hmoves.acked_le, Nat.le_of_eq hsent.symm, ?_, ?_, ?_⟩
  · intro n h₁ h₂
    exact (seqNumCmp_ofNat_neg (by unfold seqNumMidsize; omega)
      (by unfold seqNumMidsize; omega)).mpr (by omega)
  · intro n h₁ h₂
    exact Nat.le_of_eq (hmoves.untouched n h₁ h₂).1.symm
  · intro n message h₁ h₂ _ hpacks
    refine ⟨[], ?_, fun _ => rfl⟩
    rw [List.append_nil]
    show Packs ((processAcknack stream bitmap _).contents n) message
    rw [contents_untouched (hmoves.untouched n h₁ h₂) hmoves.shape (h.bounded n) (h.offset_le n)]
    exact hpacks

/-- A submessage is written behind what was sent. -/
theorem keepsMessages_write [MicroCdr] (h : Represents stream win) {id flags : UInt8}
    {payload : List UInt8} {granted : OutputReliableStream × UcdrBuffer}
    {stream' : OutputReliableStream} {win' : OutputWindow H} {first : Nat}
    {item : PackedSubmessage} {items : List PackedSubmessage}
    (hwrite : Accommodates stream win id flags payload granted stream' win' first item items) :
    KeepsMessages covers stream stream' win win' := by
  have hsent := win.sent_lt_written
  have hstart : win.written ≤ first := by
    rcases hwrite.start with hfirst | ⟨hfirst, -⟩ <;> omega
  have hacked := hwrite.acked
  have hle := win.acked_le_sent
  refine ⟨hwrite.tracks.represents h.history_le, hwrite.shape, Nat.le_of_eq hacked.symm,
    Nat.le_of_eq hwrite.sent.symm, fun n h₁ h₂ => absurd h₁ (by omega), ?_, ?_⟩
  · intro n h₁ h₂
    rcases Nat.lt_trichotomy n first with hlt | rfl | hlt
    · exact Nat.le_of_eq (hwrite.untouched n (by omega) hlt).1.symm
    · exact hwrite.grows
    · -- behind the last written message the slots were empty
      rw [h.empty n (by omega) h₂, ← hwrite.shape.offset]
      exact hwrite.tracks.offset_le n
  · intro n message h₁ h₂ hfilled hpacks
    rcases Nat.lt_trichotomy n first with hlt | rfl | hlt
    · refine ⟨[], ?_, fun _ => rfl⟩
      rw [List.append_nil, contents_untouched (hwrite.untouched n (by omega) hlt) hwrite.shape
        (h.bounded n) (h.offset_le n)]
      exact hpacks
    · exact ⟨[item], hwrite.front message hpacks, fun hbehind => absurd hbehind (by omega)⟩
    · have hempty := h.empty n (by omega) h₂
      omega

end

/-! ## The streams of a session -/

/-- The ACKNACKs among some effects acknowledge what was sent, each when it is taken. -/
def AcknowledgesSent : ControlState → List Effect → Prop
  | _, [] => True
  | control, effect :: effects =>
    (∀ payload whole, effect = .acknack payload whole →
      ControlState.acknackIndex payload < control.outputReliableSize →
        AcknackInRange (control.outputReliable (ControlState.acknackIndex payload))
          payload.firstUnackedSeqNum) ∧
      AcknowledgesSent (control.take effect) effects

/-- What is acknowledged in a message that was read, was sent. -/
def MessageRead.Acknowledges (messageRead : MessageRead) : Prop :=
  AcknowledgesSent messageRead.before.control
    (messageRead.after.effects.drop messageRead.before.effects.length)

/-- Between two states of a session its reliable streams are kept, up to what the effects
acknowledge. -/
structure KeepsStreams (control control' : ControlState) (effects : List Effect) : Prop where
  id : control'.info.id = control.info.id
  key : control'.info.key = control.info.key
  size : control'.outputReliableSize = control.outputReliableSize
  streams : ∀ i, i < control.outputReliableSize → ∀ (H : Nat) (win : OutputWindow H),
    Represents (control.outputReliable i) win → ∃ win', KeepsMessages (AcknackTaken effects i)
      (control.outputReliable i) (control'.outputReliable i) win win'

namespace KeepsStreams

variable {control control' control'' : ControlState} {effects effects' : List Effect}

theorem refl (control : ControlState) : KeepsStreams control control [] :=
  ⟨rfl, rfl, rfl, fun _ _ _ win h => ⟨win, .refl h⟩⟩

/-- Only one stream changes, and none of its messages is acknowledged. -/
theorem of_one {i : UInt8} {stream : OutputReliableStream}
    (hone : i < control.outputReliableSize → ∀ (H : Nat) (win : OutputWindow H),
      Represents (control.outputReliable i) win →
        ∃ win', KeepsMessages (AcknackTaken [] i) (control.outputReliable i) stream win win') :
    KeepsStreams control
      { control with outputReliable := Function.update control.outputReliable i stream } [] := by
  refine ⟨rfl, rfl, rfl, fun j hcreated H win h => ?_⟩
  dsimp only
  by_cases hj : j = i
  · rw [hj] at h hcreated ⊢
    rw [Function.update_self]
    exact hone hcreated H win h
  · rw [Function.update_of_ne hj]
    exact ⟨win, .refl h⟩

theorem trans (h : KeepsStreams control control' effects)
    (h' : KeepsStreams control' control'' effects') :
    KeepsStreams control control'' (effects ++ effects') where
  id := h'.id.trans h.id
  key := h'.key.trans h.key
  size := h'.size.trans h.size
  streams i hi H win hrep := by
    have hcovers (q : SeqNum) (hcover : AcknackTaken effects i q ∨ AcknackTaken effects' i q) :
        AcknackTaken (effects ++ effects') i q := by
      rcases hcover with ⟨payload, whole, hmem, hrest⟩ | ⟨payload, whole, hmem, hrest⟩
      · exact ⟨payload, whole, List.mem_append_left _ hmem, hrest⟩
      · exact ⟨payload, whole, List.mem_append_right _ hmem, hrest⟩
    obtain ⟨win₁, h₁⟩ := h.streams i hi H win hrep
    obtain ⟨win', h₂⟩ := h'.streams i (h.size ▸ hi) H win₁ h₁.after
    exact ⟨win', (h₁.mono fun q hq => hcovers q (.inl hq)).trans
      (h₂.mono fun q hq => hcovers q (.inr hq))⟩

end KeepsStreams

theorem sessionHeaderOffset_congr {info info' : SessionInfo} (h : info'.id = info.id) :
    sessionHeaderOffset info' = sessionHeaderOffset info := by
  rw [sessionHeaderOffset, h, sessionHeaderOffset]

/-- The windows of the streams are kept. -/
theorem KeepsStreams.windows {session session' : Session} {effects : List Effect}
    (h : KeepsStreams session.control session'.control effects) (hwin : session.Windows) :
    session'.Windows := by
  have hsize : session'.streams.outputReliableSize = session.streams.outputReliableSize := h.size
  have hkey : session'.info.key = session.info.key := h.key
  have hstream (i : UInt8) (hi : i < session'.streams.outputReliableSize) :
      SameShape (session.streams.outputReliable i) (session'.streams.outputReliable i) ∧
        ∃ (H : Nat) (win : OutputWindow H), Represents (session'.streams.outputReliable i) win := by
    rw [hsize] at hi
    obtain ⟨H, win, hrep⟩ := hwin.represents i hi
    obtain ⟨win', hkeeps⟩ := h.streams i hi H win hrep
    exact ⟨hkeeps.shape, H, win', hkeeps.after⟩
  refine ⟨hkey ▸ hwin.key, fun i hi => ?_, fun i hi => (hstream i hi).2⟩
  rw [(hstream i hi).1.offset, hwin.offset i (hsize ▸ hi)]
  exact (sessionHeaderOffset_congr h.id).symm

/-! ### Effects -/

/-- What an effect does keeps the streams to what it acknowledges. -/
theorem keeps_take (control : ControlState) (effect : Effect)
    (hrange : AcknowledgesSent control [effect]) :
    KeepsStreams control (control.take effect) [effect] := by
  have hnothing (control' : ControlState) (hid : control'.info.id = control.info.id)
      (hkey : control'.info.key = control.info.key)
      (hsize : control'.outputReliableSize = control.outputReliableSize)
      (hstreams : control'.outputReliable = control.outputReliable) :
      KeepsStreams control control' [effect] := by
    refine ⟨hid, hkey, hsize, fun i _ H win hrep => ⟨win, ?_⟩⟩
    rw [hstreams]
    exact .refl hrep
  cases effect with
  | acknack payload whole =>
    rw [ControlState.take, ControlState.takeAcknack]
    split
    · next hcreated =>
      refine ⟨rfl, rfl, rfl, fun i _ H win hrep => ?_⟩
      dsimp only
      by_cases hi : i = ControlState.acknackIndex payload
      · rw [hi] at hrep ⊢
        rw [Function.update_self]
        obtain ⟨win', hkeeps⟩ := keepsMessages_acknack hrep (uint16FromRaw payload.nackBitmap)
          (hrange.1 payload whole rfl hcreated)
        exact ⟨win', hkeeps.mono fun q hq => ⟨payload, whole, List.mem_singleton_self _, rfl, hq⟩⟩
      · rw [Function.update_of_ne hi]
        exact ⟨win, .refl hrep⟩
    · exact hnothing _ rfl rfl rfl rfl
  | deleteSessionStatus requestId status whole =>
    rw [ControlState.take]
    split <;> exact hnothing _ rfl rfl rfl rfl
  | _ => exact hnothing _ rfl rfl rfl rfl

theorem keeps_foldl (effects : List Effect) (control : ControlState)
    (hrange : AcknowledgesSent control effects) :
    KeepsStreams control (effects.foldl ControlState.take control) effects := by
  induction effects generalizing control with
  | nil => exact KeepsStreams.refl control
  | cons effect effects ih =>
    exact (keeps_take control effect ⟨hrange.1, trivial⟩).trans (ih _ hrange.2)

/-! ### Steps -/

section

variable [MicroCdr]

/-- The session's other streams have nothing to do with a submessage that is written. -/
theorem write_others {streamId : StreamId} (htype : streamId.type = .reliableStream)
    {streams streams' : StreamStorage} {ub ub' : UcdrBuffer} {bytes : List UInt8}
    (h : Puts (streamDevice streamId) bytes streams ub streams' ub') :
    streams'.outputReliable =
        Function.update streams.outputReliable streamId.index
          (streams'.outputReliable streamId.index) ∧
      streams'.outputReliableSize = streams.outputReliableSize := by
  have hothers : (Function.update streams'.outputReliable streamId.index
      (streams.outputReliable streamId.index), streams'.outputReliableSize) =
      (streams.outputReliable, streams.outputReliableSize) := by
    have hkept := h.keeps (f := fun storage : StreamStorage =>
      (Function.update storage.outputReliable streamId.index
        (streams.outputReliable streamId.index), storage.outputReliableSize)) ?_ ?_
    · rw [hkept, Function.update_eq_self]
    · intro storage a v
      simp [streamDevice, writeStream, htype, StreamStorage.setOutputReliable]
    · intro storage ub
      simp [streamDevice, htype, StreamStorage.setOutputReliable]
  obtain ⟨hstreams, hsize⟩ := Prod.mk.inj hothers
  rw [← hstreams, Function.update_idem, Function.update_eq_self]
  exact ⟨rfl, hsize⟩

variable [StickyMicroCdr] {streamId : StreamId} {id mode : UInt8} {payload : List UInt8}
  {session session' : Session}

/-- A submessage is written to a stream that has a window: what room was made for is what is
written, and nothing else is. -/
theorem write_accommodates (htype : streamId.type = .reliableStream)
    {streams streams' : StreamStorage} {ub ub' : UcdrBuffer} {H : Nat} {win : OutputWindow H}
    (hrep : Represents (session.streams.outputReliable streamId.index) win)
    (hgranted : bufferSubmessage session.streams streamId payload.length id mode =
      some (streams, ub))
    (hwritten : Puts (streamDevice streamId) payload streams ub streams' ub') :
    streams'.outputReliable = Function.update session.streams.outputReliable streamId.index
        (streams'.outputReliable streamId.index) ∧
      streams'.outputReliableSize = session.streams.outputReliableSize ∧
      ∃ granted first item items win', Accommodates
        (session.streams.outputReliable streamId.index) win id mode payload granted
        (streams'.outputReliable streamId.index) win' first item items := by
  obtain ⟨⟨streams₁, ub₁⟩, hprepared, hheader⟩ := Option.map_eq_some_iff.mp hgranted
  obtain ⟨st, hst⟩ : ∃ st : PackingState, st = { streams := session.streams, granted := [] } :=
    ⟨_, rfl⟩
  have hsame : st.streams = session.streams := by rw [hst]
  rw [← hsame] at hprepared
  have hroom := prepareStreamToWriteSubmessage_reliable htype hprepared
  rw [hsame] at hprepared hroom
  -- room is made in the stream only
  obtain ⟨hmade, hsize₁⟩ : streams₁.outputReliable = Function.update session.streams.outputReliable
      streamId.index (streams₁.outputReliable streamId.index) ∧
      streams₁.outputReliableSize = session.streams.outputReliableSize := by
    rw [prepareStreamToWriteSubmessage, htype] at hprepared
    obtain ⟨stream, -, hprepared⟩ := Option.bind_eq_some_iff.mp hprepared
    dsimp only at hprepared
    split at hprepared
    · obtain ⟨rfl, rfl⟩ := Prod.mk.inj (Option.some.inj hprepared)
      rw [StreamStorage.setOutputReliable_self]
      exact ⟨rfl, rfl⟩
    · cases hprepared
  -- the header and the payload can be put there in one way
  obtain ⟨stream', first, item, items, win', haccommodates⟩ :=
    hrep.tracks.accommodates id mode hroom
  obtain ⟨ub₂, hputs⟩ := haccommodates.puts
  obtain ⟨streams₂, rfl, hlifted⟩ := Puts.lift (streamDevice_reliable htype) hputs
  have haligned := (prepareReliableBufferToWrite_aligned hrep.tracks.formed.offset_aligned hroom).1
  obtain ⟨ub₃, hpayload⟩ := hlifted.behind_header (streamDevice_regular streamId) haligned
  dsimp only at hheader
  rw [hheader] at hpayload
  obtain ⟨rfl, -⟩ := hwritten.deterministic hpayload
  obtain ⟨hput, hsize₂⟩ := write_others htype hlifted
  rw [hmade, Function.update_idem] at hput
  exact ⟨hput, hsize₂.trans hsize₁, _, first, item, items, win', haccommodates⟩

/-- What is written to a stream is kept there, and behind what was in it. -/
theorem keeps_write (hwin : session.Windows) (htype : streamId.type = .reliableStream)
    {streams streams' : StreamStorage} {ub ub' : UcdrBuffer}
    (hgranted : bufferSubmessage session.streams streamId payload.length id mode =
      some (streams, ub))
    (hwritten : Puts (streamDevice streamId) payload streams ub streams' ub') :
    KeepsStreams session.control ({ session with streams := streams' } : Session).control [] := by
  -- room is made in a created stream
  have hcreated : streamId.index < session.streams.outputReliableSize := by
    by_contra hnone
    obtain ⟨_, hprepared, -⟩ := Option.map_eq_some_iff.mp hgranted
    rw [prepareStreamToWriteSubmessage, htype, getOutputReliableStream, if_neg hnone] at hprepared
    cases hprepared
  obtain ⟨H, win, hrep⟩ := hwin.represents _ hcreated
  obtain ⟨hstreams, hsize, -⟩ := write_accommodates htype hrep hgranted hwritten
  have hcontrol : ({ session with streams := streams' } : Session).control =
      { session.control with
        outputReliable := Function.update session.control.outputReliable streamId.index
          (streams'.outputReliable streamId.index) } := by
    show ControlState.mk _ streams'.outputReliable streams'.outputReliableSize = _
    rw [hsize, hstreams, Function.update_self]
    rfl
  rw [hcontrol]
  refine .of_one fun _ H' win₁ hrep' => ?_
  obtain ⟨-, -, granted, first, item, items, win', haccommodates⟩ :=
    write_accommodates htype hrep' hgranted hwritten
  exact ⟨win', keepsMessages_write hrep' haccommodates⟩

omit [StickyMicroCdr] in
/-- A step in which no message is read takes no effect. -/
theorem SilentStep.effects_eq (h : SilentStep session session') :
    session'.effects = session.effects := by
  cases h with
  | bestEffort i =>
    rw [flashBestEffortStream]
    dsimp only
    split <;> rfl
  | _ => rfl

/-- A step in which no message is read keeps what is in the streams. -/
theorem SilentStep.keeps (hwin : session.Windows) (h : SilentStep session session') :
    KeepsStreams session.control session'.control [] := by
  cases h with
  | post message => exact KeepsStreams.refl _
  | request lastRequestId lastRequestedStatus =>
    exact ⟨rfl, rfl, rfl, fun i _ H win hrep => ⟨win, .refl hrep⟩⟩
  | bestEffort i =>
    rw [flashBestEffortStream]
    dsimp only
    split <;> exact KeepsStreams.refl _
  | send i hready =>
    refine .of_one fun hcreated H win hrep => ?_
    exact keepsMessages_send hrep hwin.key (hwin.offset i hcreated) hready
  | refuse i hready =>
    refine .of_one fun hcreated H win hrep => ?_
    exact keepsMessages_refuse hrep hwin.key (hwin.offset i hcreated) hready
  | heartbeat i nextHeartbeatTimestamp nextHeartbeatTries =>
    exact .of_one fun _ H win hrep => ⟨win, keepsMessages_heartbeat hrep _ _⟩
  | writeBestEffort outputBestEffort => exact KeepsStreams.refl _
  | write streamId id mode payload htype hgranted hwritten =>
    exact keeps_write hwin htype hgranted hwritten

/-- Steps of a session keep what is in its streams, up to what is acknowledged in the messages that
are read. -/
theorem SessionRun.keeps {shiftBeyond : Nat → UInt16} {config : ReadConfig}
    {reads : List MessageRead} (h : SessionRun shiftBeyond config session reads session')
    (hwin : session.Windows) (hreads : ∀ messageRead ∈ reads, messageRead.Acknowledges) :
    ∃ effects, session'.effects = session.effects ++ effects ∧
      KeepsStreams session.control session'.control effects := by
  induction h with
  | refl session => exact ⟨[], (List.append_nil _).symm, KeepsStreams.refl _⟩
  | silent hstep _ ih =>
    have hkeeps := hstep.keeps hwin
    obtain ⟨effects, hrecord, hkeeps'⟩ := ih (hkeeps.windows hwin) hreads
    exact ⟨effects, by rw [hrecord, hstep.effects_eq], hkeeps.trans hkeeps'⟩
  | @read session session₁ session' reads fuel msg hread _ ih =>
    obtain ⟨effects₁, htakes⟩ := readMessage_takes hread
    have hrange := hreads _ List.mem_cons_self
    rw [MessageRead.Acknowledges] at hrange
    dsimp only at hrange
    rw [htakes.record, List.drop_left] at hrange
    have hkeeps := keeps_foldl effects₁ session.control hrange
    rw [← htakes.control] at hkeeps
    obtain ⟨effects, hrecord', hkeeps'⟩ := ih (hkeeps.windows hwin)
      fun messageRead hmem => hreads messageRead (List.mem_cons_of_mem _ hmem)
    exact ⟨effects₁ ++ effects, by rw [hrecord', htakes.record, List.append_assoc],
      hkeeps.trans hkeeps'⟩

omit [StickyMicroCdr] in
/-- Where no message is read, nothing takes effect. -/
theorem SessionRun.effects_of_nil {shiftBeyond : Nat → UInt16} {config : ReadConfig}
    (h : SessionRun shiftBeyond config session [] session') :
    session'.effects = session.effects := by
  generalize hreads : ([] : List MessageRead) = reads at h
  induction h with
  | refl session => rfl
  | silent hstep _ ih => exact (ih hreads).trans hstep.effects_eq
  | read => cases hreads

/-- Where one message is read, the streams are kept up to then, and what takes effect is in it. -/
theorem SessionRun.of_singleton {shiftBeyond : Nat → UInt16} {config : ReadConfig}
    {messageRead : MessageRead} (h : SessionRun shiftBeyond config session [messageRead] session')
    (hwin : session.Windows) :
    KeepsStreams session.control messageRead.before.control [] ∧
      messageRead.before.effects = session.effects ∧
        messageRead.after.effects = session'.effects := by
  generalize hreads : [messageRead] = reads at h
  induction h with
  | refl session => cases hreads
  | silent hstep _ ih =>
    have hkeeps := hstep.keeps hwin
    obtain ⟨hkeeps', hbefore, hafter⟩ := ih (hkeeps.windows hwin) hreads
    exact ⟨hkeeps.trans hkeeps', hbefore.trans hstep.effects_eq, hafter⟩
  | @read session session₁ session' reads fuel msg _ hrest =>
    obtain ⟨rfl, rfl⟩ := List.cons.inj hreads
    exact ⟨KeepsStreams.refl _, rfl, hrest.effects_of_nil.symm⟩

end

/-! ## The calls -/

/-- A message that is buffered holds some submessages. -/
structure HoldsMessage (stream : OutputReliableStream) (q : SeqNum)
    (message : List PackedSubmessage) : Prop where
  buffered : MessageBuffered stream q
  packs : Packs (stream.contents q.toNat) message

/-- A message that was held is acknowledged, or still there. It holds more than it did only if it
was not sent. -/
def KeptOrCovered (covers : SeqNum → Prop) (stream stream' : OutputReliableStream) : Prop :=
  ∀ q message, HoldsMessage stream q message → covers q ∨
    ∃ more, HoldsMessage stream' q (message ++ more) ∧
      (Unacknowledged stream q → more = [] ∧ Unacknowledged stream' q)

theorem KeepsMessages.keptOrCovered {H : Nat} {covers : SeqNum → Prop}
    {stream stream' : OutputReliableStream} {win win' : OutputWindow H}
    (h : KeepsMessages covers stream stream' win win') (hrep : Represents stream win) :
    KeptOrCovered covers stream stream' := by
  intro q message hholds
  have hH := hrep.history_le
  obtain ⟨n, rfl, hbehind, hwindow, hfilled⟩ := hrep.tracks.count_of_buffered hholds.buffered
  by_cases hcovered : n ≤ win'.acked
  · exact .inl (h.covered n hbehind hcovered)
  · have hacked := h.acked_le
    have hsent := h.sent_le
    have hlow := win.acked_le_sent
    have hgrows := h.grows n (by omega) hwindow
    have hcontents (s : OutputReliableStream) :
        s.contents (UInt16.ofNat n).toNat = s.contents n := by
      simp only [contents, slotSize, UInt16.ofNat_toNat]
    obtain ⟨more, hmore, hnone⟩ :=
      h.holds n message (by omega) hwindow hfilled (hcontents stream ▸ hholds.packs)
    refine .inr ⟨more, ⟨?_, (hcontents stream').symm ▸ hmore⟩, fun hunacked => ?_⟩
    · refine (h.after.tracks.buffered_iff (by omega) (by omega)).mpr ⟨by omega, ?_⟩
      rw [h.shape.offset]
      omega
    · have hdist := hrep.tracks.dist_ofNat (Nat.le_of_lt hbehind) (by omega)
      have hdist' := h.after.tracks.dist_ofNat (show win'.acked ≤ n by omega) (by omega)
      rw [Unacknowledged, hdist, hrep.tracks.dist_lastSent] at hunacked
      rw [Unacknowledged, hdist', h.after.tracks.dist_lastSent]
      exact ⟨hnone (by omega), by omega, by omega⟩

/-- **What is written is kept**: the calls of the user, one after the other, are steps of the
session that read what `recv_msg` delivers, and if every ACKNACK that is read acknowledges what was
sent, every message in a reliable stream is acknowledged, or still there as it was. -/
theorem kept_until_acknowledged [MicroCdr] [StickyMicroCdr] {ω : Type} {world : World ω}
    {shiftBeyond : Nat → UInt16} {config : ReadConfig} {waiting waiting' : WaitingSession ω}
    (hwin : waiting.session.Windows)
    (hcalls : Relation.ReflTransGen (CallStep world shiftBeyond config) waiting waiting') :
    ∃ reads waits, waiting'.waits = waiting.waits ++ waits ∧
      reads.map MessageRead.message = deliveredIn world waits ∧
      SessionRun shiftBeyond config waiting.session reads waiting'.session ∧
      ((∀ messageRead ∈ reads, messageRead.Acknowledges) → waiting'.session.Windows ∧
        ∃ effects, waiting'.session.effects = waiting.session.effects ++ effects ∧
          ∀ i, i < waiting.session.streams.outputReliableSize →
            KeptOrCovered (AcknackTaken effects i) (waiting.session.streams.outputReliable i)
              (waiting'.session.streams.outputReliable i)) := by
  obtain ⟨reads, waits, hwaits, hreads, hrun⟩ := passes_of_calls hcalls
  refine ⟨reads, waits, hwaits, hreads, hrun, fun hacknowledges => ?_⟩
  obtain ⟨effects, hrecord, hkeeps⟩ := hrun.keeps hwin hacknowledges
  refine ⟨hkeeps.windows hwin, effects, hrecord, fun i hi => ?_⟩
  obtain ⟨H, win, hrep⟩ := hwin.represents i hi
  obtain ⟨win', hkept⟩ := hkeeps.streams i hi H win hrep
  exact hkept.keptOrCovered hrep

/-- The session whose message was sent. -/
def oneSent : Session := @sendNextMessage referenceMicroCdr oneBuffered 0

theorem windows_oneSent : oneSent.Windows :=
  (@SilentStep.keeps referenceMicroCdr referenceMicroCdr_sticky _ _ windows_oneBuffered
    (@SilentStep.send referenceMicroCdr oneBuffered 0 (by decide +kernel))).windows
      windows_oneBuffered

/-- The session with the message before the first call. -/
def oneWaiting : WaitingSession (Nat × Nat) where
  session := oneBuffered
  app :=
    { onStatus := false, onTime := false, statusList := [], timeOffset := 0, synchronized := false
      onDataFlag := false, onPongFlag := 0, calls := [] }
  world := (0, 0)
  waits := []

/-- When the message was sent. -/
def sentWaiting : WaitingSession (Nat × Nat) := { oneWaiting with session := oneSent }

/-- A call that waits for the confirmation, while the acknowledgement of the message arrives. It
acknowledges what was sent. -/
theorem kept_until_acknowledged_firstAcknack : ∃ (waiting' : WaitingSession (Nat × Nat))
    (reads : List MessageRead),
    reads.map (fun messageRead => messageRead.message.bytes) = [firstAcknack.bytes] ∧
      @SessionRun referenceMicroCdr (fun _ => 0) noCallbacks oneSent reads waiting'.session ∧
      waiting'.session.Windows ∧ ∃ effects, waiting'.session.effects = effects ∧
        KeptOrCovered (AcknackTaken effects 0) (oneSent.streams.outputReliable 0)
          (waiting'.session.streams.outputReliable 0) := by
  let _ : MicroCdr := referenceMicroCdr
  have _ : StickyMicroCdr := referenceMicroCdr_sticky
  obtain ⟨waiting', hcall, hmessages, heffects⟩ : ∃ waiting', runSessionUntilConfirmDeliveryIn
      ((arriving [firstAcknack]).world fun _ => 0) (fun _ => 0) noCallbacks 4 sentWaiting 0 =
        (some true, waiting') ∧
      (deliveredIn ((arriving [firstAcknack]).world fun _ => 0) waiting'.waits).map
        Datagram.bytes = [firstAcknack.bytes] ∧
      waiting'.session.effects = [.acknack ⟨1, [0, 0], 0x80⟩ true] := by
    refine ⟨_, Prod.ext ?_ rfl, ?_, ?_⟩
    · decide +kernel
    · decide +kernel
    · decide +kernel
  obtain ⟨reads, waits, hwaits, hreads, hrun, hkept⟩ := kept_until_acknowledged
    windows_oneSent (.single (.untilConfirmDelivery hcall))
  have hnew : waiting'.waits = waits := hwaits
  rw [← hnew] at hreads
  rw [← hreads, List.map_map] at hmessages
  refine ⟨waiting', reads, hmessages, hrun, ?_⟩
  -- one message is read, behind the one that was sent
  have hacknowledges : ∀ messageRead ∈ reads, messageRead.Acknowledges := by
    obtain ⟨messageRead, rfl, -⟩ := List.map_eq_singleton_iff.mp hmessages
    obtain ⟨hkeeps, hbefore, hafter⟩ := hrun.of_singleton windows_oneSent
    have hnone : sentWaiting.session.effects = [] := by decide +kernel
    rintro _ (_ | ⟨_, hmem⟩)
    · rw [MessageRead.Acknowledges, hbefore, hafter, heffects, hnone]
      refine ⟨?_, trivial⟩
      rintro payload whole heq -
      cases heq
      obtain ⟨H, win, hrep⟩ := windows_oneSent.represents 0 (by decide +kernel)
      obtain ⟨win', hkeptMessages⟩ := hkeeps.streams 0 (by decide +kernel) H win hrep
      refine hkeptMessages.inRange hrep ?_ (by decide +kernel)
      rintro q ⟨payload, whole, hmem, -⟩
      cases hmem
    · cases hmem
  obtain ⟨hwindows, effects, hrecord, hstreams⟩ := hkept hacknowledges
  exact ⟨hwindows, effects, hrecord, hstreams 0 (by decide +kernel)⟩

end XrceClient
