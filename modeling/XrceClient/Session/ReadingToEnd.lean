import XrceClient.Session.FragmentedLink
import XrceClient.Session.KeptByReading
import XrceClient.Session.Steadiness

/-!
# Sessions whose readers read to the end

A link hands its messages to a walk over all their blocks. A session hands them to
`read_submessage_list`, which goes as far as its handlers do. Where it goes to the end of every
message in fragments, a session at the end of a link is left with the ring that the link has.

- `SameMessages`: two streams with the same ring. They receive messages and look for the next one
  alike.
- `Emptied.base_eq`: so are two streams of which the same slots were emptied, and
  `HoldsReceived.size_unique`: which ones were is a matter of what was received.
- `LoopReadsToEnd`, `StreamReadsToEnd`: the fragmented messages that `read_stream` hands over are
  read to their end. For a message in one slot nothing is asked.
- `HoldsReceived.stream_alike`: then `read_stream` leaves the ring that the walk leaves.
- `FragmentInv.readStream_step`: a message that arrives at a session is a step of the link.
-/

namespace XrceClient

open ByteMemory InputReliableStream

/-- The second stream has the messages of the first one, and is to hand over the same next. What
is announced may differ, and the cleanup flag. -/
structure SameMessages (stream stream' : InputReliableStream) : Prop where
  base : stream'.base = stream.base
  lastHandled : stream'.lastHandled = stream.lastHandled
  onGetFragmentationInfo : stream'.onGetFragmentationInfo = stream.onGetFragmentationInfo

section

variable {stream stream' : InputReliableStream}

theorem SameMessages.trans {stream'' : InputReliableStream} (h : SameMessages stream stream')
    (h' : SameMessages stream' stream'') : SameMessages stream stream'' :=
  ⟨h'.base.trans h.base, h'.lastHandled.trans h.lastHandled,
    h'.onGetFragmentationInfo.trans h.onGetFragmentationInfo⟩

theorem SameRing.sameMessages (h : SameRing stream stream') : SameMessages stream stream' :=
  ⟨h.base, h.lastHandled, h.onGetFragmentationInfo⟩

theorem SameMessages.symm (h : SameMessages stream stream') : SameMessages stream' stream :=
  ⟨h.base.symm, h.lastHandled.symm, h.onGetFragmentationInfo.symm⟩

/-! ## They go on alike -/

theorem SameMessages.fragmentationInfo (h : SameMessages stream stream') (q : SeqNum) :
    stream'.fragmentationInfo q = stream.fragmentationInfo q := by
  rw [InputReliableStream.fragmentationInfo, h.base, h.onGetFragmentationInfo]
  rfl

theorem SameMessages.accepts (h : SameMessages stream stream') (q : SeqNum) :
    stream'.accepts q = stream.accepts q := by
  rw [InputReliableStream.accepts, h.base, h.lastHandled]
  rfl

theorem SameMessages.checkLastFragmentFrom (h : SameMessages stream stream') (fuel : Nat)
    (next : SeqNum) :
    checkLastFragmentFrom stream' fuel next = checkLastFragmentFrom stream fuel next := by
  induction fuel generalizing next with
  | zero => rfl
  | succ fuel ih =>
    rw [XrceClient.checkLastFragmentFrom, XrceClient.checkLastFragmentFrom, h.base,
      h.fragmentationInfo, ih]

theorem SameMessages.getFirstUnacked (h : SameMessages stream stream') :
    getFirstUnacked stream' = getFirstUnacked stream := by
  rw [XrceClient.getFirstUnacked, XrceClient.getFirstUnacked, h.base]
  generalize stream.base.history.toNat = left
  generalize 0 = i
  induction left generalizing i with
  | zero => exact h.lastHandled
  | succ left ih =>
    rw [getFirstUnackedFrom, getFirstUnackedFrom, h.base, h.lastHandled, ih]

/-- What is announced, by a message or a HEARTBEAT, is no part of them. -/
theorem SameMessages.announce (h : SameMessages stream stream') (q q' : SeqNum) :
    SameMessages (stream.announce q) (stream'.announce q') :=
  ((sameRing_announce stream q).sameMessages.symm.trans h).trans
    (sameRing_announce stream' q').sameMessages

theorem SameMessages.store (h : SameMessages stream stream') (seqNum : SeqNum) (msg : Datagram) :
    SameMessages (stream.store seqNum msg) (stream'.store seqNum msg) := by
  refine ⟨?_, h.lastHandled, h.onGetFragmentationInfo⟩
  rw [InputReliableStream.store, h.base]
  rfl

/-- They receive a message alike. -/
theorem SameMessages.receive (h : SameMessages stream stream') {fuel fuel' : Nat} {seqNum : SeqNum}
    {msg : Datagram} {messageStored : Bool} {r r' : Reception}
    (hr : receiveReliableMessage fuel stream seqNum msg messageStored = some r)
    (hr' : receiveReliableMessage fuel' stream' seqNum msg messageStored = some r') :
    r'.readyToRead = r.readyToRead ∧ r'.messageStored = r.messageStored ∧
      SameMessages r.stream r'.stream := by
  rw [receiveReliableMessage, h.accepts, h.onGetFragmentationInfo, h.lastHandled, h.base] at hr'
  rw [receiveReliableMessage] at hr
  split at hr
  · next haccepts =>
    rw [if_pos haccepts] at hr'
    dsimp only at hr hr'
    split at hr
    · next hdirect =>
      rw [if_pos hdirect] at hr'
      cases hr
      cases hr'
      refine ⟨rfl, rfl, SameMessages.announce ?_ _ _⟩
      exact ⟨rfl, rfl, rfl⟩
    · next hkept =>
      rw [if_neg hkept] at hr'
      split at hr
      · next hempty =>
        rw [if_pos hempty] at hr'
        have hstore := h.store seqNum msg
        split at hr
        · next hfragment =>
          rw [if_pos hfragment] at hr'
          obtain ⟨found, hfound, rfl⟩ := Option.map_eq_some_iff.mp hr
          obtain ⟨found', hfound', rfl⟩ := Option.map_eq_some_iff.mp hr'
          rw [checkLastFragment, hstore.checkLastFragmentFrom, hstore.lastHandled] at hfound'
          obtain rfl := (steady_checkLastFragmentFrom _).unique hfound hfound'
          exact ⟨rfl, rfl, hstore.announce _ _⟩
        · next hwhole =>
          rw [if_neg hwhole] at hr'
          cases hr
          cases hr'
          exact ⟨rfl, rfl, hstore.announce _ _⟩
      · next hfilled =>
        rw [if_neg hfilled] at hr'
        cases hr
        cases hr'
        exact ⟨rfl, rfl, h.announce _ _⟩
  · next hrefused =>
    rw [if_neg hrefused] at hr'
    cases hr
    cases hr'
    exact ⟨rfl, rfl, h.announce _ _⟩

/-- They look for the next message alike, whatever buffers they are given for it. -/
theorem SameMessages.next [MicroCdr] (h : SameMessages stream stream') {fuel fuel' : Nat}
    {ub ub' : UcdrBuffer} {fragmentOffset : Nat} {r r' : Bool × InputReliableStream × UcdrBuffer}
    (hr : nextInputReliableBufferAvailable fuel stream ub fragmentOffset = some r)
    (hr' : nextInputReliableBufferAvailable fuel' stream' ub' fragmentOffset = some r') :
    r'.1 = r.1 ∧ SameMessages r.2.1 r'.2.1 ∧ (r.1 = true → r'.2.2 = r.2.2) := by
  rw [nextInputReliableBufferAvailable, h.fragmentationInfo, h.lastHandled, h.base] at hr'
  rw [nextInputReliableBufferAvailable] at hr
  dsimp only at hr hr'
  split at hr
  · next hfilled =>
    rw [if_pos hfilled] at hr'
    cases hinfo : stream.fragmentationInfo (seqNumAdd stream.lastHandled 1) with
    | noFragmented =>
      rw [hinfo] at hr hr'
      cases hr
      cases hr'
      exact ⟨rfl, ⟨rfl, rfl, h.onGetFragmentationInfo⟩, fun _ => rfl⟩
    | intermediateFragment | lastFragment =>
      rw [hinfo] at hr hr'
      obtain ⟨found, hfound, rfl⟩ := Option.map_eq_some_iff.mp hr
      obtain ⟨found', hfound', rfl⟩ := Option.map_eq_some_iff.mp hr'
      rw [checkLastFragment, h.checkLastFragmentFrom, h.lastHandled] at hfound'
      obtain rfl := (steady_checkLastFragmentFrom _).unique hfound hfound'
      obtain ⟨_ | _, last⟩ := found'
      · exact ⟨rfl, h, fun havailable => absurd havailable Bool.false_ne_true⟩
      · exact ⟨rfl, ⟨rfl, rfl, h.onGetFragmentationInfo⟩, fun _ => rfl⟩
  · next hempty =>
    rw [if_neg hempty] at hr'
    cases hr
    cases hr'
    exact ⟨rfl, h, fun havailable => absurd havailable Bool.false_ne_true⟩

end

/-! ## Slots that are emptied alike -/

section

variable {stream stream' stream'' : InputReliableStream}

/-- A byte of the ring is as it was, or it is one of the size of a slot that is empty now. -/
theorem Emptied.buffer_or (h : Emptied stream stream') (hstride : 4 ≤ stream.base.stride)
    (a : Nat) : stream'.base.buffer a = stream.base.buffer a ∨
      ∃ q, getReliableBufferSize stream'.base q = 0 ∧
        stream.base.slot q * stream.base.stride ≤ a ∧
        a < stream.base.slot q * stream.base.stride + 4 := by
  induction h with
  | refl => exact .inl rfl
  | @empty stream' h p ih =>
    have hstride' : 4 ≤ stream'.base.stride := h.stride.symm ▸ hstride
    by_cases hinside : stream.base.slot p * stream.base.stride ≤ a ∧
        a < stream.base.slot p * stream.base.stride + 4
    · refine .inr ⟨p, ?_, hinside⟩
      rw [ReliableStream.getReliableBufferSize_set hstride', if_pos rfl]
      rfl
    · rcases ih with hsame | ⟨q, hempty, hq⟩
      · left
        dsimp only
        rw [ReliableStream.setReliableBufferSize_buffer, write_outside, hsame]
        rw [leBytes_length, h.slot, h.stride]
        omega
      · refine .inr ⟨q, ?_, hq⟩
        rw [ReliableStream.getReliableBufferSize_set hstride']
        split
        · rfl
        · exact hempty
  | flag _ cleanupFlag ih => exact ih
  | announce _ lastAnnounced ih => exact ih

/-- Of a stream with the same messages, nothing was emptied. -/
theorem SameMessages.emptied (h : SameMessages stream stream') : Emptied stream stream' := by
  obtain ⟨base, lastHandled, lastAnnounced, callback, cleanupFlag⟩ := stream'
  obtain ⟨rfl, rfl, rfl⟩ := h
  exact (Emptied.refl.announce lastAnnounced).flag cleanupFlag

/-- The size of an empty slot is made of zeros. -/
theorem getReliableBufferSize_zero {base : ReliableStream} {q : SeqNum}
    (h : getReliableBufferSize base q = 0) {a : Nat} (hlo : base.slot q * base.stride ≤ a)
    (hhi : a < base.slot q * base.stride + 4) : base.buffer a = 0 := by
  rw [ReliableStream.getReliableBufferSize_eq] at h
  have hbytes := leBytes_ofLeBytes (read base.buffer (base.slot q * base.stride) 4)
  rw [h, read_length] at hbytes
  obtain ⟨i, rfl⟩ := Nat.exists_eq_add_of_le hlo
  have hi : i < 4 := by omega
  have hlength : i < (read base.buffer (base.slot q * base.stride) 4).length := by
    rw [read_length]
    exact hi
  rw [← getElem_read _ _ _ i hlength]
  simp only [← hbytes]
  interval_cases i <;> rfl

/-- Two streams of which the same slots were emptied are the same ring. -/
theorem Emptied.base_eq (h : Emptied stream stream') (h' : Emptied stream stream'')
    (hstride : 4 ≤ stream.base.stride)
    (hsizes : ∀ q, getReliableBufferSize stream''.base q = getReliableBufferSize stream'.base q) :
    stream''.base = stream'.base := by
  have hzero {s : InputReliableStream} (hs : Emptied stream s) {q : SeqNum} {a : Nat}
      (hempty : getReliableBufferSize s.base q = 0)
      (hlo : stream.base.slot q * stream.base.stride ≤ a)
      (hhi : a < stream.base.slot q * stream.base.stride + 4) : s.base.buffer a = 0 := by
    rw [← hs.slot, ← hs.stride] at hlo hhi
    exact getReliableBufferSize_zero hempty hlo hhi
  have hbuffer : stream''.base.buffer = stream'.base.buffer := by
    funext a
    rcases h.buffer_or hstride a with hsame | ⟨q, hempty, hlo, hhi⟩
    · rcases h'.buffer_or hstride a with hsame' | ⟨q, hempty, hlo, hhi⟩
      · exact hsame'.trans hsame.symm
      · rw [hzero h' hempty hlo hhi, hzero h ((hsizes q).symm.trans hempty) hlo hhi]
    · rw [hzero h hempty hlo hhi, hzero h' ((hsizes q).trans hempty) hlo hhi]
  have hsize := h'.shape.1.trans h.shape.1.symm
  have hhistory := h'.shape.2.trans h.shape.2.symm
  rcases hbase : stream'.base with ⟨buffer, size, history⟩
  rcases hbase' : stream''.base with ⟨buffer', size', history'⟩
  rw [hbase, hbase'] at hbuffer hsize hhistory
  dsimp only at hbuffer hsize hhistory
  rw [hbuffer, hsize, hhistory]

variable [MicroCdr] {message : Nat → List UInt8} {handled : Nat} {received : Nat → Prop}

/-- What was received says how much is in each slot. -/
theorem HoldsReceived.size_unique (h : HoldsReceived message stream handled received)
    (h' : HoldsReceived message stream' handled received)
    (hhistory : stream'.base.history = stream.base.history) (q : SeqNum) :
    getReliableBufferSize stream'.base q = getReliableBufferSize stream.base q := by
  have hwf := h.buffers.wellFormed
  have hwf' := h'.buffers.wellFormed
  -- the message of the window in whose slot that number lies
  let n := sharer handled stream.base.history.toNat (q.toNat + 65536 * (handled + 1))
  obtain ⟨h₁, h₂⟩ := @sharer_window handled _ (q.toNat + 65536 * (handled + 1)) hwf.history_pos
  have hslot : stream.base.slot q = stream.base.slot (UInt16.ofNat n) := by
    obtain ⟨turns, hturns⟩ := hwf.history_dvd
    rw [hwf.slot_ofNat, sharer_mod (by omega), ReliableStream.slot, hturns, Nat.mul_assoc,
      Nat.add_mul_mod_self_left]
  have hslot' : stream'.base.slot q = stream'.base.slot (UInt16.ofNat n) := by
    rw [ReliableStream.slot, ReliableStream.slot, hhistory]
    exact hslot
  rw [ReliableStream.getReliableBufferSize_congr hslot,
    ReliableStream.getReliableBufferSize_congr hslot']
  change stream'.slotSize n = stream.slotSize n
  have hfilled := h.filled n h₁ h₂
  have hfilled' := h'.filled n h₁ (hhistory ▸ h₂)
  by_cases hreceived : received n
  · have hheld := h.buffers.held n h₁ h₂ (hfilled.mpr hreceived)
    have hheld' := h'.buffers.held n h₁ (hhistory ▸ h₂) (hfilled'.mpr hreceived)
    have hmessage := congrArg List.length (Option.some.inj (hheld'.symm.trans hheld))
    rwa [slotMessage, slotMessage, ReliableStream.bytesFrom_length,
      ReliableStream.bytesFrom_length] at hmessage
  · rw [not_not.mp (mt hfilled.mp hreceived), not_not.mp (mt hfilled'.mp hreceived)]

/-- What a stream holds is in its ring. -/
theorem HoldsReceived.sameMessages (h : HoldsReceived message stream handled received)
    (hsame : SameMessages stream stream') : HoldsReceived message stream' handled received := by
  obtain ⟨base, lastHandled, lastAnnounced, callback, cleanupFlag⟩ := stream'
  obtain ⟨rfl, rfl, rfl⟩ := hsame
  exact ⟨⟨h.buffers.wellFormed, h.buffers.lastHandled, h.buffers.fits, h.buffers.held⟩, h.callback,
    h.filled, h.bounded, h.payload⟩

/-- Of two streams out of which the same messages were taken, the rings are the same. -/
theorem HoldsReceived.emptied_unique {taken : InputReliableStream}
    (h : HoldsReceived message stream handled received)
    (h' : HoldsReceived message stream' handled received) (hemptied : Emptied taken stream)
    (hemptied' : Emptied taken stream') (hstride : 4 ≤ taken.base.stride) :
    SameMessages stream stream' := by
  refine ⟨?_, hemptied'.lastHandled.trans hemptied.lastHandled.symm,
    hemptied'.onGetFragmentationInfo.trans hemptied.onGetFragmentationInfo.symm⟩
  exact hemptied.base_eq hemptied' hstride fun q =>
    h.size_unique h' (hemptied'.shape.2.trans hemptied.shape.2.symm) q

end

/-! ## Readers that go through their messages -/

section

variable [MicroCdr]

/-- In the loop of `read_stream` over the messages in the slots (session.c:896–900), each fragmented
message is read to its end. -/
def LoopReadsToEnd (shiftBeyond : Nat → UInt16) (config : ReadConfig) (streamId : StreamId) :
    Nat → Session → UcdrBuffer → Prop
  | 0, _, _ => True
  | fuel + 1, session, nextMb =>
    let stream := session.streams.inputReliable streamId.index
    let next := seqNumAdd stream.lastHandled 1
    ∀ (taken : InputReliableStream) (nextMb' : UcdrBuffer) (session' : Session),
      nextInputReliableBufferAvailable fuel stream nextMb subheaderSize =
        some (true, taken, nextMb') →
      readSubmessages config fuel (slotsEnv shiftBeyond streamId.index)
        { session.access [.remainder taken.base.history] with
          streams := session.streams.setInputReliable streamId.index taken }
        nextMb' streamId = some session' →
      (stream.fragmentationInfo next ≠ .noFragmented →
        ReadToEnd taken (session'.streams.inputReliable streamId.index) next.toNat
          (Serial.dist next taken.lastHandled)) ∧
      LoopReadsToEnd shiftBeyond config streamId fuel session' nextMb'

/-- So it is after a message arrived on the stream (session.c:886–901). -/
def StreamReadsToEnd (shiftBeyond : Nat → UInt16) (config : ReadConfig) (fuel : Nat)
    (session : Session) (memory : Memory) (ub : UcdrBuffer) (streamId : StreamId)
    (seqNum : SeqNum) : Prop :=
  let stream := session.streams.inputReliable streamId.index
  let msg : Datagram := { memory, buffer := ub.iterator, length := ucdrBufferRemaining ub }
  let looks := stream.accepts seqNum ∧
    ¬ (stream.onGetFragmentationInfo msg.memory msg.buffer = .noFragmented ∧
      seqNum = seqNumAdd stream.lastHandled 1)
  ∀ (received : Reception) (session' : Session),
    receiveReliableMessage fuel stream seqNum msg false = some received →
    received.readyToRead = true →
    let session := session.access (.inputReliable streamId.index ::
      if looks then [.remainder stream.base.history] else [])
    let session := { session with
      streams := session.streams.setInputReliable streamId.index received.stream }
    (if received.messageStored then some session
      else readSubmessages config fuel (datagramEnv shiftBeyond memory) session ub streamId) =
        some session' →
    LoopReadsToEnd shiftBeyond config streamId fuel session' (ucdrInitBuffer 0 0)

variable [LawfulMicroCdr] {shiftBeyond : Nat → UInt16} {config : ReadConfig} {streamId : StreamId}
  {session session' : Session}

/-- A reader that is given no slot leaves the rings alone. -/
theorem readSubmessages_sameRing {env : ReadEnv Session} (C : Option OnFullBuffer → Prop)
    (hfull : ∀ session ub, C ub.onFullBuffer → env.dev.onFull session ub = (true, session, ub))
    (hflag : ∀ flag session callback, callback ≠ none → C callback →
      env.setCleanupFlag flag session = session)
    (hemit : env.emit = Session.emit shiftBeyond) {fuel : Nat} {ub : UcdrBuffer}
    (hub : C ub.onFullBuffer)
    (hread : readSubmessages config fuel env session ub streamId = some session') (index : UInt8) :
    SameRing (session.streams.inputReliable index) (session'.streams.inputReliable index) := by
  refine KeptByReading.submessages
    (P := fun s => SameRing (session.streams.inputReliable index) (s.streams.inputReliable index))
    ?_ hread
  refine (@Program.run_preserves _ _ _ env.handle (fun t =>
    SameRing (session.streams.inputReliable index) (t.1.streams.inputReliable index) ∧
      C t.2.ub.onFullBuffer ∧ ∀ outer ∈ t.2.outer, C outer.onFullBuffer) ?_
    (readSubmessageList config fuel streamId) (session, { ub, outer := none })
    ⟨SameRing.refl _, hub, nofun⟩).1
  intro β op t ht
  refine handle_preserves
    (I := fun s => SameRing (session.streams.inputReliable index) (s.streams.inputReliable index))
    (C := C) (fun s ub hs hub => ?_) (fun flag s callback hsome hC hs => ?_) (fun e s hs => ?_) op t
    ht
  · rw [hfull s ub hub]
    exact ⟨hs, hub⟩
  · rw [hflag flag s callback hsome hC]
    exact hs
  · rw [hemit]
    exact hs.trans (@sameRing_emit index s _ shiftBeyond e).1

/-- A run out of the slots empties slots. -/
theorem readSubmessages_emptied {fuel : Nat} {ub : UcdrBuffer}
    (hread : readSubmessages config fuel (slotsEnv shiftBeyond streamId.index) session ub streamId =
      some session') :
    Emptied (session.streams.inputReliable streamId.index)
      (session'.streams.inputReliable streamId.index) := by
  refine KeptByReading.submessages
    (P := fun s => Emptied (session.streams.inputReliable streamId.index)
      (s.streams.inputReliable streamId.index)) ?_ hread
  exact readSubmessageList_emptied rfl

omit [MicroCdr] [LawfulMicroCdr] in
/-- A message is read to its end by its sequence number, or by the count that it stands for. -/
theorem ReadToEnd.ofNat {stream stream' : InputReliableStream} {first blocks : Nat}
    (h : ReadToEnd stream stream' (UInt16.ofNat first).toNat blocks) :
    ReadToEnd stream stream' first blocks := by
  have hsize (s : InputReliableStream) (k : Nat) :
      s.slotSize ((UInt16.ofNat first).toNat + k) = s.slotSize (first + k) := by
    rw [slotSize, slotSize, ← Serial.ofNat_add_ofNat, ← Serial.ofNat_add_ofNat,
      UInt16.ofNat_toNat]
  refine ⟨fun n h₁ h₂ => ?_, fun n h₁ h₂ => ?_⟩
  · obtain ⟨k, rfl⟩ := Nat.exists_eq_add_of_lt h₁
    rw [Nat.add_assoc, ← hsize]
    exact h.emptied _ (by omega) (by omega)
  · obtain ⟨k, rfl⟩ := Nat.exists_eq_add_of_le (show first ≤ n by omega)
    rw [← hsize, ← hsize]
    exact h.kept _ (by omega) (by omega)

variable {message : Nat → List UInt8} {handled : Nat} {received : Nat → Prop}
  {ideal : InputReliableStream}

/-- One message: the session leaves the ring that the walk over its blocks leaves. -/
theorem HoldsReceived.reads_alike (h : HoldsReceived message ideal handled received)
    (hsame : SameMessages ideal (session.streams.inputReliable streamId.index))
    {taken taken' : InputReliableStream} {ub ub' nextMb nextMb' : UcdrBuffer} {fuel : Nat}
    (hnext : nextInputReliableBufferAvailable ideal.base.history.toNat ideal ub subheaderSize =
      some (true, taken, nextMb))
    (hnext' : nextInputReliableBufferAvailable fuel (session.streams.inputReliable streamId.index)
      ub' subheaderSize = some (true, taken', nextMb'))
    {accesses : List StorageAccess}
    (hread : readSubmessages config fuel (slotsEnv shiftBeyond streamId.index)
      { session.access accesses with
        streams := session.streams.setInputReliable streamId.index taken' }
      nextMb' streamId = some session')
    (hend : (session.streams.inputReliable streamId.index).fragmentationInfo
        (seqNumAdd (session.streams.inputReliable streamId.index).lastHandled 1) ≠ .noFragmented →
      ReadToEnd taken' (session'.streams.inputReliable streamId.index)
        (seqNumAdd (session.streams.inputReliable streamId.index).lastHandled 1).toNat
        (Serial.dist (seqNumAdd (session.streams.inputReliable streamId.index).lastHandled 1)
          taken'.lastHandled)) :
    SameMessages
      (readContents (Serial.dist (seqNumAdd ideal.lastHandled 1) taken.lastHandled)
        { taken with cleanupFlag := true } nextMb).2
      (session'.streams.inputReliable streamId.index) := by
  obtain ⟨-, htaken, hbuffer⟩ := hsame.next hnext hnext'
  obtain rfl : nextMb' = nextMb := hbuffer rfl
  have hstream : ({ session.access accesses with
      streams := session.streams.setInputReliable streamId.index taken' } :
        Session).streams.inputReliable streamId.index = taken' := Function.update_self _ _ _
  rw [hsame.fragmentationInfo, hsame.lastHandled] at hend
  by_cases hwhole : ideal.fragmentationInfo (seqNumAdd ideal.lastHandled 1) = .noFragmented
  · -- there is no callback, so that no other slot is read
    have hcallback : nextMb'.onFullBuffer = none ∧
        taken.lastHandled = seqNumAdd ideal.lastHandled 1 := by
      rw [nextInputReliableBufferAvailable] at hnext
      dsimp only at hnext
      rw [hwhole] at hnext
      split at hnext
      · cases hnext
        exact ⟨by rw [ucdrInitBuffer, LawfulMicroCdr.init], rfl⟩
      · cases hnext
    have hring := readSubmessages_sameRing (· = none)
      (fun s ub hnone => (sessionSlots shiftBeyond streamId.index).refuses s ub hnone)
      (fun _ _ _ hsome hnone => absurd hnone hsome) rfl hcallback.1 hread streamId.index
    rw [hstream] at hring
    have hblocks : Serial.dist (seqNumAdd ideal.lastHandled 1) taken.lastHandled = 0 := by
      rw [hcallback.2, Serial.dist_self]
    rw [hblocks]
    have hflag : SameMessages { taken with cleanupFlag := true } taken' :=
      ⟨htaken.base, htaken.lastHandled, htaken.onGetFragmentationInfo⟩
    exact hflag.trans hring.sameMessages
  · have hpos := h.buffers.wellFormed.history_pos
    have hH := h.buffers.wellFormed.history_le
    obtain ⟨blocks, hblocks, hlast, hunit⟩ := h.takesFragmented hwhole hnext
    have hdist : Serial.dist (seqNumAdd ideal.lastHandled 1) taken.lastHandled = blocks := by
      rw [h.buffers.lastHandled, seqNumAdd_one, hlast, Serial.dist_ofNat (by omega) (by omega)]
      omega
    have hemptied := readSubmessages_emptied hread
    rw [hstream] at hemptied
    have hreads := hend hwhole
    rw [htaken.lastHandled, hdist, h.buffers.lastHandled, seqNumAdd_one] at hreads
    have hholds := (h.sameMessages hsame).takeThrough hnext' (by rw [hsame.base]; exact hblocks)
      (htaken.lastHandled.trans hlast) hemptied hreads.ofNat
    have hwalk : Emptied taken (readContents blocks { taken with cleanupFlag := true } nextMb').2 :=
      (Emptied.refl.flag true).trans (readContents_emptied _ _ _)
    rw [hdist]
    refine HoldsReceived.emptied_unique hunit.holds ?_ hwalk (htaken.emptied.trans hemptied) ?_
    · rw [← Nat.add_assoc]
      exact hholds
    · rw [← hwalk.stride, hunit.stride]
      exact Nat.le_of_lt h.buffers.wellFormed.stride

/-- The messages that wait: the session leaves the ring that the walk over all of them leaves. -/
theorem HoldsReceived.loop_alike (h : HoldsReceived message ideal handled received)
    (hsame : SameMessages ideal (session.streams.inputReliable streamId.index)) {fuel fuel' : Nat}
    {nextMb : UcdrBuffer} {units : List (List UInt8)} {last : InputReliableStream}
    (hloop : nextUnits fuel ideal = some (units, last))
    (hread : readNextBuffers shiftBeyond config streamId fuel' session nextMb = some session')
    (hend : LoopReadsToEnd shiftBeyond config streamId fuel' session nextMb) :
    SameMessages last (session'.streams.inputReliable streamId.index) := by
  induction fuel' generalizing fuel session ideal handled nextMb units with
  | zero => cases hread
  | succ fuel' ih =>
    cases fuel with
    | zero => cases hloop
    | succ fuel =>
      rw [readNextBuffers] at hread
      rw [nextUnits] at hloop
      obtain ⟨⟨available', taken', nextMb'⟩, hnext', hread⟩ := Option.bind_eq_some_iff.mp hread
      obtain ⟨⟨available, taken, buffer⟩, hnext, hloop⟩ := Option.bind_eq_some_iff.mp hloop
      obtain ⟨havailable, htaken, -⟩ := hsame.next hnext hnext'
      dsimp only at havailable htaken hread hloop
      subst havailable
      cases available' with
      | false =>
        rw [if_neg Bool.false_ne_true] at hread hloop
        cases hread
        cases hloop
        have hstream : (session.streams.setInputReliable streamId.index taken').inputReliable
            streamId.index = taken' := Function.update_self _ _ _
        exact hstream.symm ▸ htaken
      | true =>
        rw [if_pos rfl] at hread hloop
        obtain ⟨session₁, hsubmessages, hread⟩ := Option.bind_eq_some_iff.mp hread
        obtain ⟨⟨others, last'⟩, hrest, heq⟩ := Option.bind_eq_some_iff.mp hloop
        cases heq
        obtain ⟨hfirst, hends⟩ := hend taken' nextMb' session₁ hnext' hsubmessages
        obtain ⟨count, hunit⟩ := h.takesUnit hnext
        have hring := h.reads_alike hsame hnext hnext' hsubmessages hfirst
        exact ih hunit.holds hring hrest hread hends

/-- A message that arrives, and all that it makes whole. -/
theorem HoldsReceived.stream_alike (h : HoldsReceived message ideal handled received)
    (hwaits : Waits message handled ideal.base.history.toNat received)
    (hsame : SameMessages ideal (session.streams.inputReliable streamId.index)) {seqNum : SeqNum}
    {memory : Memory} {ub : UcdrBuffer} {msg : Datagram}
    (hdatagram : msg = { memory, buffer := ub.iterator, length := ucdrBufferRemaining ub })
    (hmsg : ideal.accepts seqNum = true →
      Storable ideal msg ∧ message (arrival handled seqNum) = msg.bytes)
    {fuel fuel' : Nat} {units : List (List UInt8)} {last : InputReliableStream}
    (hunits : readStreamUnits fuel ideal seqNum msg = some (units, last))
    (hread : readReliableStream shiftBeyond config fuel' session memory ub streamId seqNum
      (session.streams.inputReliable streamId.index) = some session')
    (hend : StreamReadsToEnd shiftBeyond config fuel' session memory ub streamId seqNum) :
    SameMessages last (session'.streams.inputReliable streamId.index) := by
  subst hdatagram
  rw [readStreamUnits] at hunits
  rw [readReliableStream] at hread
  obtain ⟨r, hr, hunits⟩ := Option.bind_eq_some_iff.mp hunits
  obtain ⟨r', hr', hread⟩ := Option.bind_eq_some_iff.mp hread
  obtain ⟨hready, hstored, hstream⟩ := hsame.receive hr hr'
  have hends := fun hready session'' => hend r' session'' hr' hready
  dsimp only at hread hends
  rw [hready] at hread
  rw [hstored] at hread hends
  have hreceived : (session.streams.setInputReliable streamId.index r'.stream).inputReliable
      streamId.index = r'.stream := Function.update_self _ _ _
  cases hready' : r.readyToRead with
  | false =>
    rw [hready', if_neg Bool.false_ne_true] at hread hunits
    cases hread
    cases hunits
    exact hreceived.symm ▸ hstream
  | true =>
    rw [hready', if_pos rfl] at hread hunits
    obtain ⟨⟨others, last'⟩, hloop, heq⟩ := Option.bind_eq_some_iff.mp hunits
    cases heq
    have hholds := h.receive (h.waits_drained hwaits) hmsg hr
    cases hstored' : r.messageStored with
    | true =>
      rw [hstored', if_pos rfl] at hread
      exact hholds.loop_alike (hreceived.symm ▸ hstream) hloop hread
        (hends (hready.trans hready') _ (by rw [hstored']; rfl))
    | false =>
      rw [hstored', if_neg Bool.false_ne_true] at hread
      obtain ⟨session₁, hsubmessages, hread⟩ := Option.bind_eq_some_iff.mp hread
      have hring := readSubmessages_sameRing (fun _ => True) (fun _ _ _ => rfl)
        (fun _ _ _ _ _ => rfl) rfl trivial hsubmessages streamId.index
      replace hring := hreceived ▸ hring
      exact hholds.loop_alike (hstream.trans hring.sameMessages) hloop hread
        (hends (hready.trans hready') session₁ (by rw [hstored']; exact hsubmessages))

end

/-! ## The link and a session -/

section

variable [MicroCdr] [LawfulMicroCdr] {shiftBeyond : Nat → UInt16} {config : ReadConfig}
  {streamId : StreamId} {session session' : Session} {H : Nat} {link : Link} {win : OutputWindow H}
  {consumed first : Nat} {received : Nat → Prop}

/-- **A session at the end of a link.** A message arrives at a session whose stream has the messages
that the link's receiver has, and its readers read to the end. Then what `read_stream` leaves to the
session is what a step of the link leaves to the receiver, and both ask for the same one next. -/
theorem FragmentInv.readStream_step (h : FragmentInv link win consumed first received)
    {m : DataMessage} (hm : m ∈ link.data) (hdelay : link.sent.length ≤ m.sentAt + 32768)
    {memory : Memory} {ub : UcdrBuffer} {msg : Datagram}
    (hdatagram : msg = { memory, buffer := ub.iterator, length := ucdrBufferRemaining ub })
    (hbytes : msg.bytes = m.bytes)
    (hsame : SameMessages link.input (session.streams.inputReliable streamId.index))
    (hreliable : streamId.type = .reliableStream)
    (hcreated : streamId.index < session.streams.inputReliableSize) {fuel : Nat}
    (hread : readStream shiftBeyond config fuel session memory ub streamId m.seqNum = some session')
    (hend : StreamReadsToEnd shiftBeyond config fuel session memory ub streamId m.seqNum) :
    ∃ (units : List (List UInt8)) (input : InputReliableStream),
      FragmentStep shiftBeyond link
        { link with
          input
          acknacks := link.acknacks ++ [computeAcknack shiftBeyond input]
          handed := link.handed ++ units } ∧
      SameMessages input (session'.streams.inputReliable streamId.index) ∧
      (computeAcknack shiftBeyond (session'.streams.inputReliable streamId.index)).1 =
        (computeAcknack shiftBeyond input).1 := by
  obtain ⟨⟨units, input⟩, hunits⟩ :=
    Option.isSome_iff_exists.mp (h.readable hm hdelay hbytes)
  refine ⟨units, input, .deliver link m hm hdelay msg hbytes units input hunits, ?_⟩
  obtain ⟨hmsg, -⟩ := h.arrives hm hdelay hbytes
  have hwaits := h.receiver.waits
  rw [← h.receiver.history] at hwaits
  rw [readStream, hreliable] at hread
  dsimp only at hread
  rw [getInputReliableStream, if_pos hcreated] at hread
  obtain ⟨session₁, hstream, rfl⟩ := Option.map_eq_some_iff.mp hread
  rw [writeSubmessageAcknack_streams]
  have hinput := h.receiver.holds.stream_alike hwaits hsame hdatagram hmsg hunits hstream hend
  exact ⟨hinput, hinput.getFirstUnacked⟩

end

end XrceClient
