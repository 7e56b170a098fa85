import XrceClient.Transport.FramingRing

/-!
# The buffers of the framing

What every use of the two buffers of `uxrFramingIO` keeps: the ring of the reader, and the buffer
of the writer.

- `RingHistory`: a reader with a record of the bytes that it received and of those that it
  consumed; `RingStep`: the uses of its ring, in any order.
- `readTurn_runsTo`, `readFramedMsg_runsTo`: the state machine uses the ring in these steps only.
- `WriteHistory`, `WriteStep`, `writeFramedMsg_run`: the same for the writer.
- `framing_buffers_kept`: the positions stay within the buffers, and the buffers hold what they
  should.
-/

namespace XrceClient

open ByteMemory FramingIo Relation

/-! ## A read into the ring -/

/-- What a read into the ring leaves alone: the bytes that are not consumed, and all that is
outside of the ring. A ring that is not empty does not look empty behind it. -/
structure FramingIo.Spares (io io' : FramingIo) : Prop where
  unconsumed : ∀ i < io.ring.length, io'.rb ((io.rbTail + i) % framingBufferSize) =
    io.rb ((io.rbTail + i) % framingBufferSize)
  outside : ∀ a, framingBufferSize ≤ a → io'.rb a = io.rb a
  nonempty : io.rbHead ≠ io.rbTail → io'.rbTail = io.rbTail ∧ io'.rbHead ≠ io'.rbTail

section

variable {io : FramingIo}

theorem readIntoRing_outside (transport : ReadTransport) {size : Nat}
    (hend : io.rbHead + size ≤ framingBufferSize) {a : Nat} (ha : framingBufferSize ≤ a) :
    (readIntoRing io transport size).2.1.rb a = io.rb a := by
  have hle : (transport.read size).1.length ≤ size := by
    rw [ReadTransport.read, List.length_take]
    omega
  rw [readIntoRing]
  exact write_outside _ (by omega)

/-- Nothing is read where nothing is wanted. -/
theorem framingReadTransport_zero (transport : ReadTransport) :
    framingReadTransport io transport 0 = (0, io.rewind, transport) := by
  have hnone : ¬ 0 < (limitLength 0 (availableLength io.rewind)).1 := by
    unfold limitLength
    split
    · exact Nat.lt_irrefl 0
    · split <;> assumption
  rw [framingReadTransport_eq]
  exact if_neg hnone

/-- A read stays within the block, whatever the callback delivers. -/
theorem framingReadTransport_outside (h : io.RingOk) (transport : ReadTransport) (maxSize : Nat)
    {a : Nat} (ha : framingBufferSize ≤ a) :
    (framingReadTransport io transport maxSize).2.1.rb a = io.rb a := by
  obtain ⟨hok, -, -, hrb, hzero⟩ := rewind_ok h
  obtain ⟨hroom, -⟩ := availableLength_room hok hzero
  rcases Nat.eq_zero_or_pos maxSize with rfl | hmax
  · rw [framingReadTransport_zero, hrb]
  rw [framingReadTransport_eq]
  dsimp only
  split
  · next hsome =>
    have hav : 0 < (availableLength io.rewind).1 := by
      unfold limitLength at hsome
      split at hsome
      · omega
      · split at hsome <;> assumption
    obtain ⟨hroom', -⟩ := limitLength_room hroom hmax hav
    obtain ⟨hfits, hfree, hsecond⟩ := hroom'
    generalize limitLength maxSize (availableLength io.rewind) = avLen at hfits hfree hsecond ⊢
    have hfirst := readIntoRing_outside transport hfits ha
    rw [hrb] at hfirst
    split
    · next hmore =>
      obtain ⟨-, hall, hmore⟩ := hmore
      -- the second part begins at the start of the block
      have hhead : (readIntoRing io.rewind transport avLen.1).2.1.rbHead = 0 := by
        change (io.rewind.rbHead + (readIntoRing io.rewind transport avLen.1).1) %
          framingBufferSize = 0
        rw [hall, hsecond hmore, Nat.mod_self]
      refine (readIntoRing_outside _ ?_ ha).trans hfirst
      rw [hhead]
      omega
    · exact hfirst
  · rw [hrb]

/-- A read puts what it receives behind the bytes in the ring. -/
theorem framingReadTransport_puts (h : io.RingOk) (transport : ReadTransport) (maxSize : Nat) :
    (framingReadTransport io transport maxSize).2.1.RingOk ∧
      ∃ bs, (framingReadTransport io transport maxSize).2.1.ring = io.ring ++ bs ∧
        transport.pending =
          bs ++ (framingReadTransport io transport maxSize).2.2.pending := by
  rcases Nat.eq_zero_or_pos maxSize with rfl | hmax
  · obtain ⟨hok, -, hring, -⟩ := rewind_ok h
    rw [framingReadTransport_zero]
    exact ⟨hok, [], by rw [hring, List.append_nil], rfl⟩
  · obtain ⟨hmoves, -⟩ := framingReadTransport_movesIn h transport hmax
    obtain ⟨bs, hring, hpending, -⟩ := hmoves.moved
    exact ⟨hmoves.ok, bs, hring, hpending⟩

theorem framingReadTransport_tail (transport : ReadTransport) (maxSize : Nat)
    (hne : io.rbHead ≠ io.rbTail) :
    (framingReadTransport io transport maxSize).2.1.rbTail = io.rbTail := by
  rw [framingReadTransport, if_neg hne]
  dsimp only
  split
  · split <;> rfl
  · rfl

/-- The bytes that are not consumed stay where they are. -/
theorem framingReadTransport_spares (h : io.RingOk) (transport : ReadTransport) (maxSize : Nat) :
    io.Spares (framingReadTransport io transport maxSize).2.1 := by
  obtain ⟨hok, bs, hring, -⟩ := framingReadTransport_puts h transport maxSize
  have houtside (a : Nat) (ha : framingBufferSize ≤ a) :=
    framingReadTransport_outside h transport maxSize ha
  have htail := @framingReadTransport_tail io transport maxSize
  generalize (framingReadTransport io transport maxSize).2.1 = io' at hok hring houtside htail ⊢
  refine ⟨fun i hi => ?_, houtside, fun hne => ⟨htail hne, fun hempty => ?_⟩⟩
  · -- there is an unconsumed byte, so that `tail` was not moved
    have hne : io.rbHead ≠ io.rbTail := by
      intro hempty
      rw [(ring_eq_nil_iff h).mpr hempty] at hi
      exact Nat.not_lt_zero i hi
    have hi' : i < io'.ring.length := by
      rw [hring, List.length_append]
      omega
    have hbyte : io'.ring[i] = io.ring[i] := by
      simp only [hring, List.getElem_append_left hi]
    rw [← htail hne]
    exact (getElem_ringContents hi').symm.trans
      (hbyte.trans ((getElem_ringContents hi).trans (by rw [htail hne])))
  · have hnil := (ring_eq_nil_iff hok).mpr hempty
    rw [hring] at hnil
    exact hne ((ring_eq_nil_iff h).mp (List.append_eq_nil_iff.mp hnil).1)

end

/-! ## The ring of the reader -/

/-- A reader, with a record of the bytes that it received from the transport, and of those that it
took out of the ring. The record is no part of the source's state. -/
structure RingHistory where
  io : FramingIo
  transport : ReadTransport
  received : List UInt8
  consumed : List UInt8

namespace RingHistory

/-- Behind `uxr_init_framing_io`. -/
def start (io : FramingIo) (localAddr : UInt8) (transport : ReadTransport) : RingHistory where
  io := initFramingIo io localAddr
  transport
  received := []
  consumed := []

/-- A call of `uxr_framing_read_transport`: what is no longer pending was received. -/
def readTransport (h : RingHistory) (maxSize : Nat) : RingHistory :=
  let (_, io, transport) := framingReadTransport h.io h.transport maxSize
  let count := h.transport.pending.length - transport.pending.length
  { h with io, transport, received := h.received ++ h.transport.pending.take count }

@[simp] theorem readTransport_io (h : RingHistory) (maxSize : Nat) :
    (h.readTransport maxSize).io = (framingReadTransport h.io h.transport maxSize).2.1 := rfl

@[simp] theorem readTransport_transport (h : RingHistory) (maxSize : Nat) :
    (h.readTransport maxSize).transport =
      (framingReadTransport h.io h.transport maxSize).2.2 := rfl

/-- A call of `uxr_get_next_octet`: what `tail` has passed was consumed. -/
def getNextOctet (h : RingHistory) : RingHistory :=
  let (_, _, io) := XrceClient.getNextOctet h.io
  let passed := ringContents framingBufferSize h.io.rb h.io.rbTail io.rbTail
  { h with io, consumed := h.consumed ++ passed }

@[simp] theorem getNextOctet_io (h : RingHistory) :
    h.getNextOctet.io = (XrceClient.getNextOctet h.io).2.2 := rfl

@[simp] theorem getNextOctet_consumed (h : RingHistory) :
    h.getNextOctet.consumed = h.consumed ++ ringContents framingBufferSize h.io.rb h.io.rbTail
      (XrceClient.getNextOctet h.io).2.2.rbTail := rfl

/-- A turn of the loop that looks for a flag (stream_framing_protocol.c:314–318). -/
def skipOctet (h : RingHistory) : RingHistory :=
  { h with
    io := { h.io with rbTail := (h.io.rbTail + 1) % framingBufferSize }
    consumed := h.consumed ++ [h.io.rb h.io.rbTail] }

/-- The positions lie within the block, and between them are the bytes that were received and not
consumed. What was received is the start of the stream. -/
structure Kept (stream : List UInt8) (h : RingHistory) : Prop where
  ok : h.io.RingOk
  stream : stream = h.received ++ h.transport.pending
  received : h.received = h.consumed ++ h.io.ring

end RingHistory

/-- Other fields have changed than those of the ring. -/
structure FramingIo.RingSame (io io' : FramingIo) : Prop where
  rb : io'.rb = io.rb
  rbHead : io'.rbHead = io.rbHead
  rbTail : io'.rbTail = io.rbTail

/-- A use of the ring, or a change of something else. -/
inductive RingStep : RingHistory → RingHistory → Prop
  | readTransport (h : RingHistory) (maxSize : Nat) : RingStep h (h.readTransport maxSize)
  | getNextOctet (h : RingHistory) : RingStep h h.getNextOctet
  | skipOctet (h : RingHistory) (hne : h.io.rbHead ≠ h.io.rbTail) : RingStep h h.skipOctet
  | other (h : RingHistory) (io' : FramingIo) (hsame : h.io.RingSame io') :
    RingStep h { h with io := io' }

/-- `uxr_get_next_octet` moves `tail` over bytes of the ring only. -/
theorem getNextOctet_passes {io : FramingIo} (h : io.RingOk) :
    (getNextOctet io).2.2.RingOk ∧
      io.ring = ringContents framingBufferSize io.rb io.rbTail (getNextOctet io).2.2.rbTail ++
        (getNextOctet io).2.2.ring := by
  have hsplit {k : Nat} (hk : k ≤ ringLength framingBufferSize io.rbTail io.rbHead) :
      io.ring = ringContents framingBufferSize io.rb io.rbTail
          ((io.rbTail + k) % framingBufferSize) ++
        { io with rbTail := (io.rbTail + k) % framingBufferSize }.ring :=
    ringContents_split h.tail h.head hk
  have hnothing : io.ring = ringContents framingBufferSize io.rb io.rbTail io.rbTail ++ io.ring := by
    rw [(ringContents_eq_nil_iff h.tail h.tail).mpr rfl]
    rfl
  unfold getNextOctet
  by_cases hne : io.rbHead ≠ io.rbTail
  · have hpop := congrArg List.length (ringContents_pop (m := io.rb) h.tail h.head hne)
    rw [List.length_cons, ringContents_length, ringContents_length] at hpop
    rw [if_pos hne]
    split
    · exact ⟨ringOk_next h, hsplit (by omega)⟩
    · dsimp only
      split
      · next hmore =>
        -- the byte behind the escape byte is one of the ring as well
        have hsecond : ringLength framingBufferSize ((io.rbTail + 1) % framingBufferSize)
            io.rbHead ≠ 0 := by
          rw [Ne, ringLength_eq_zero_iff (next_lt _) h.head]
          exact Ne.symm hmore
        split
        · exact ⟨⟨next_lt _, h.head⟩, hsplit (by omega)⟩
        · exact ⟨⟨next_lt _, h.head⟩, hsplit (by omega)⟩
      · exact ⟨h, hnothing⟩
  · rw [if_neg hne]
    exact ⟨h, hnothing⟩

namespace RingHistory

variable {stream : List UInt8} {h h' : RingHistory}

theorem start_kept (io : FramingIo) (localAddr : UInt8) (transport : ReadTransport) :
    (start io localAddr transport).Kept transport.pending := by
  have hok : (initFramingIo io localAddr).RingOk :=
    ⟨by show 0 < framingBufferSize; decide, by show 0 < framingBufferSize; decide⟩
  refine ⟨hok, rfl, ?_⟩
  show [] = [] ++ (initFramingIo io localAddr).ring
  rw [(ring_eq_nil_iff hok).mpr rfl]
  rfl

/-- What one step keeps. -/
theorem Kept.step (hkept : h.Kept stream) (hstep : RingStep h h') : h'.Kept stream := by
  obtain ⟨hok, hstream, hreceived⟩ := hkept
  cases hstep with
  | readTransport maxSize =>
    obtain ⟨hok', bs, hring, hpending⟩ := framingReadTransport_puts hok h.transport maxSize
    have htaken : (h.readTransport maxSize).received = h.received ++ bs := by
      have hlength := congrArg List.length hpending
      rw [List.length_append] at hlength
      have htake : h.transport.pending.take (h.transport.pending.length -
          (framingReadTransport h.io h.transport maxSize).2.2.pending.length) = bs := by
        rw [hlength, Nat.add_sub_cancel, hpending]
        exact List.take_left
      exact congrArg (h.received ++ ·) htake
    refine ⟨hok', ?_, ?_⟩
    · rw [htaken, readTransport_transport, List.append_assoc, ← hpending]
      exact hstream
    · rw [htaken, readTransport_io, hring, hreceived, List.append_assoc]
      rfl
  | getNextOctet =>
    obtain ⟨hok', hpasses⟩ := getNextOctet_passes hok
    refine ⟨hok', hstream, ?_⟩
    rw [getNextOctet_consumed, getNextOctet_io, List.append_assoc, ← hpasses]
    exact hreceived
  | skipOctet hne =>
    refine ⟨ringOk_next hok, hstream, ?_⟩
    rw [ring, ringContents_pop hok.tail hok.head hne] at hreceived
    exact hreceived.trans (List.append_cons _ _ _)
  | other io' hsame =>
    obtain ⟨hrb, hhead, htail⟩ := hsame
    refine ⟨⟨by rw [htail]; exact hok.tail, by rw [hhead]; exact hok.head⟩, hstream, ?_⟩
    show h.received = h.consumed ++ io'.ring
    rw [hreceived, ring, ring, hrb, hhead, htail]

/-- What a run of steps keeps. -/
theorem Kept.run (hkept : h.Kept stream) (hrun : ReflTransGen RingStep h h') : h'.Kept stream := by
  induction hrun with
  | refl => exact hkept
  | tail _ hstep ih => exact ih.step hstep

end RingHistory

/-! ### The state machine -/

/-- Steps lead from a history to a reader and its transport. -/
def RingHistory.RunsTo (h : RingHistory) (io : FramingIo) (transport : ReadTransport) : Prop :=
  ∃ h', ReflTransGen RingStep h h' ∧ h'.io = io ∧ h'.transport = transport

namespace RingHistory

variable {h : RingHistory} {io io' : FramingIo} {transport : ReadTransport}

theorem runsTo_refl (h : RingHistory) : h.RunsTo h.io h.transport := ⟨h, .refl, rfl, rfl⟩

theorem RunsTo.other (hruns : h.RunsTo io transport) (hsame : io.RingSame io') :
    h.RunsTo io' transport := by
  obtain ⟨h', hrun, rfl, rfl⟩ := hruns
  exact ⟨{ h' with io := io' }, hrun.tail (.other h' io' hsame), rfl, rfl⟩

theorem RunsTo.getNextOctet (hruns : h.RunsTo io transport) :
    h.RunsTo (XrceClient.getNextOctet io).2.2 transport := by
  obtain ⟨h', hrun, rfl, rfl⟩ := hruns
  exact ⟨h'.getNextOctet, hrun.tail (.getNextOctet h'), rfl, rfl⟩

theorem RunsTo.readTransport (hruns : h.RunsTo io transport) (maxSize : Nat) :
    h.RunsTo (framingReadTransport io transport maxSize).2.1
      (framingReadTransport io transport maxSize).2.2 := by
  obtain ⟨h', hrun, rfl, rfl⟩ := hruns
  exact ⟨h'.readTransport maxSize, hrun.tail (.readTransport h' maxSize), rfl, rfl⟩

theorem RunsTo.skipToBegin (hruns : h.RunsTo io transport) (fuel : Nat) (octet : UInt8) :
    h.RunsTo (skipToBegin fuel octet io).2 transport := by
  induction fuel generalizing octet io with
  | zero => exact hruns
  | succ fuel ih =>
    unfold XrceClient.skipToBegin
    split
    · next hmore =>
      obtain ⟨h', hrun, rfl, rfl⟩ := hruns
      exact ih ⟨h'.skipOctet, hrun.tail (.skipOctet h' hmore.2), rfl, rfl⟩ _
    · exact hruns

theorem RunsTo.takePayload (hruns : h.RunsTo io transport) (n : Nat) (octet : UInt8)
    (buf : Memory) : h.RunsTo (takePayload n octet io buf).2.1 transport := by
  induction n generalizing octet io buf with
  | zero => exact hruns
  | succ n ih =>
    unfold XrceClient.takePayload
    have hnext := hruns.getNextOctet
    generalize XrceClient.getNextOctet io = result at hnext ⊢
    obtain ⟨found, octet', io'⟩ := result
    dsimp only at hnext ⊢
    split
    · refine ih ?_ _ _
      exact hnext.other ⟨rfl, rfl, rfl⟩
    · exact hnext

end RingHistory

section

variable {h : RingHistory} {r : FramedRead}

/-- Waiting for an octet, where accepting it changes no field of the ring. -/
theorem awaitOctet_runsTo (hruns : h.RunsTo r.io r.transport) (maxSize : Nat)
    {accept : UInt8 → FramedRead → Bool × FramedRead}
    (haccept : ∀ octet r, r.io.RingSame (accept octet r).2.io ∧
      (accept octet r).2.transport = r.transport) :
    h.RunsTo (awaitOctet maxSize accept r).2.io (awaitOctet maxSize accept r).2.transport := by
  have hnext := hruns.getNextOctet
  unfold awaitOctet
  generalize getNextOctet r.io = result at hnext ⊢
  obtain ⟨found, octet, io⟩ := result
  dsimp only at hnext ⊢
  split
  · obtain ⟨hsame, htransport⟩ := haccept octet { r with io := io }
    rw [htransport]
    exact hnext.other hsame
  · have hread := hnext.readTransport maxSize
    split
    · exact hread
    · split
      · exact hread.other ⟨rfl, rfl, rfl⟩
      · exact hread

theorem readSrcAddr_runsTo (hruns : h.RunsTo r.io r.transport) :
    h.RunsTo (readSrcAddr r).2.io (readSrcAddr r).2.transport := by
  have hnext := hruns.getNextOctet
  unfold readSrcAddr
  generalize getNextOctet r.io = result at hnext ⊢
  obtain ⟨found, octet, io⟩ := result
  dsimp only at hnext ⊢
  split
  · exact hnext.other ⟨rfl, rfl, rfl⟩
  · have hsrc : h.RunsTo { io with srcAddr := octet } r.transport := hnext.other ⟨rfl, rfl, rfl⟩
    have hread := hsrc.readTransport 4
    split <;> exact hread

theorem readPayload_runsTo (hruns : h.RunsTo r.io r.transport) :
    h.RunsTo (readPayload r).2.io (readPayload r).2.transport := by
  have htake := hruns.takePayload (r.io.msgLen.toNat - r.io.msgPos.toNat) 0 r.buf
  unfold readPayload
  generalize takePayload (r.io.msgLen.toNat - r.io.msgPos.toNat) 0 r.io r.buf = result at htake ⊢
  obtain ⟨octet, io, buf⟩ := result
  dsimp only at htake ⊢
  split
  · exact htake.other ⟨rfl, rfl, rfl⟩
  · split
    · exact htake.other ⟨rfl, rfl, rfl⟩
    · have hread := htake.readTransport (io.msgLen.toNat - io.msgPos.toNat + 2)
      split <;> exact hread

theorem readUninitialized_runsTo (hruns : h.RunsTo r.io r.transport) :
    h.RunsTo (readUninitialized r).2.io (readUninitialized r).2.transport := by
  have hskip := hruns.skipToBegin framingBufferSize 0
  unfold readUninitialized
  generalize skipToBegin framingBufferSize 0 r.io = result at hskip ⊢
  obtain ⟨octet, io⟩ := result
  dsimp only at hskip ⊢
  split
  · exact hskip.other ⟨rfl, rfl, rfl⟩
  · exact hskip

/-- A turn of the state machine uses the ring in steps. -/
theorem readTurn_runsTo (len : Nat) (hruns : h.RunsTo r.io r.transport) :
    h.RunsTo (readTurn len r).2.io (readTurn len r).2.transport := by
  unfold readTurn
  split
  · exact readUninitialized_runsTo hruns
  · exact readSrcAddr_runsTo hruns
  · exact awaitOctet_runsTo hruns 3 fun _ _ => ⟨⟨rfl, rfl, rfl⟩, rfl⟩
  · exact awaitOctet_runsTo hruns 2 fun _ _ => ⟨⟨rfl, rfl, rfl⟩, rfl⟩
  · refine awaitOctet_runsTo hruns 1 fun octet r => ?_
    dsimp only
    split <;> exact ⟨⟨rfl, rfl, rfl⟩, rfl⟩
  · exact readPayload_runsTo hruns
  · exact awaitOctet_runsTo hruns 2 fun _ _ => ⟨⟨rfl, rfl, rfl⟩, rfl⟩
  · refine awaitOctet_runsTo hruns 1 fun octet r => ?_
    dsimp only
    split <;> exact ⟨⟨rfl, rfl, rfl⟩, rfl⟩

theorem readTurns_runsTo (len : Nat) {fuel : Nat} {r' : FramedRead}
    (hruns : h.RunsTo r.io r.transport) (hturns : readTurns len fuel r = some r') :
    h.RunsTo r'.io r'.transport := by
  induction fuel generalizing r with
  | zero => cases hturns
  | succ fuel ih =>
    have hturn := readTurn_runsTo len hruns
    rw [readTurns] at hturns
    dsimp only at hturns
    split at hturns
    · cases hturns
      exact hturn
    · exact ih hturn hturns

/-- A call of the reader uses the ring in steps. -/
theorem readFramedMsg_runsTo {len fuel : Nat} {r' : FramedRead}
    (hruns : h.RunsTo r.io r.transport) (hcall : readFramedMsg len fuel r = some r') :
    h.RunsTo r'.io r'.transport := by
  have hread := hruns.readTransport 5
  unfold readFramedMsg at hcall
  by_cases hempty : r.io.rbHead = r.io.rbTail
  · simp only [if_pos hempty] at hcall
    split at hcall
    · exact readTurns_runsTo len (r := { r with rv := 0, io := _, transport := _ }) hread hcall
    · cases hcall
      exact hread
  · simp only [if_neg hempty] at hcall
    split at hcall
    · exact readTurns_runsTo len (r := { r with rv := 0 }) hruns hcall
    · cases hcall
      exact hruns

end

/-! ## The buffer of the writer -/

/-- A writer, with a record of what its buffer holds: the flag, as long as it was not written, and
the octets behind it. The record is no part of the source's state. -/
structure WriteHistory where
  io : FramingIo
  transport : WriteTransport
  begun : List UInt8
  octets : List UInt8

namespace WriteHistory

/-- Behind the flag that `uxr_write_framed_msg` begins with. -/
def beginMsg (io : FramingIo) (transport : WriteTransport) : WriteHistory where
  io := { io with wb := write io.wb 0 [framingBeginFlag], wbPos := 1 }
  transport
  begun := [framingBeginFlag]
  octets := []

/-- A call of `uxr_add_next_octet`. -/
def addNextOctet (h : WriteHistory) (octet : UInt8) : WriteHistory :=
  let (added, io) := XrceClient.addNextOctet h.io octet
  { h with io, octets := if added then h.octets ++ [octet] else h.octets }

/-- Behind a call of `uxr_framing_write_transport`: a buffer that was written is empty. -/
def writeTransport (h : WriteHistory) (done : Bool) (io : FramingIo)
    (transport : WriteTransport) : WriteHistory where
  io
  transport
  begun := if done then [] else h.begun
  octets := if done then [] else h.octets

/-- The position lies within the buffer or at its end, and in front of it are the octets that were
added, each with its escape. -/
structure Kept (h : WriteHistory) : Prop where
  pos : h.io.wbPos ≤ framingBufferSize
  bytes : read h.io.wb 0 h.io.wbPos = h.begun ++ framing.stuff h.octets

end WriteHistory

/-- A use of the buffer of the writer. -/
inductive WriteStep : WriteHistory → WriteHistory → Prop
  | addNextOctet (h : WriteHistory) (octet : UInt8) : WriteStep h (h.addNextOctet octet)
  | writeTransport (h : WriteHistory) {done : Bool} {io' : FramingIo}
    {transport' : WriteTransport}
    (hwrite : framingWriteTransport h.io h.transport = some (done, io', transport')) :
    WriteStep h (h.writeTransport done io' transport')

/-- An octet is appended with its escape, or the buffer stays as it is; nothing is written behind
the buffer. -/
structure FramingIo.Appends (io : FramingIo) (octet : UInt8) : Prop where
  whole : ((addNextOctet io octet).1 = true ∧
      read (addNextOctet io octet).2.wb 0 (addNextOctet io octet).2.wbPos =
        read io.wb 0 io.wbPos ++ framing.stuffOctet octet) ∨
    addNextOctet io octet = (false, io)
  outside : ∀ a, framingBufferSize ≤ a → (addNextOctet io octet).2.wb a = io.wb a

theorem addNextOctet_appends {io : FramingIo} (hpos : io.wbPos ≤ framingBufferSize)
    (octet : UInt8) : io.Appends octet := by
  constructor
  · rcases addNextOctet_cases hpos octet with ⟨hadded, hread, -⟩ | ⟨hfull, -⟩
    · exact .inl ⟨hadded, hread⟩
    · exact .inr hfull
  · intro a ha
    unfold addNextOctet
    unfold framingBufferSize at hpos ha ⊢
    split
    · split
      · next hroom =>
        -- both bytes of an escape have room
        have hlt : io.wbPos + 1 < 42 := by omega
        dsimp only
        rw [write_outside _ (by simp; omega), write_outside _ (by simp; omega)]
      · rfl
    · split
      · exact write_outside _ (by simp; omega)
      · rfl

/-- The write callback is called until the buffer is written or nothing is taken. -/
theorem framingWriteFrom_ends {io : FramingIo} {fuel : Nat} {transport : WriteTransport}
    {bytesWritten : Nat} (hfuel : io.wbPos < fuel + bytesWritten)
    (hle : bytesWritten ≤ io.wbPos) :
    ∃ result, framingWriteFrom io fuel transport bytesWritten = some result := by
  induction fuel generalizing transport bytesWritten with
  | zero => omega
  | succ fuel ih =>
    unfold framingWriteFrom
    simp only [WriteTransport.write, read_length]
    split
    · next hmore => exact ih (by omega) (by omega)
    · exact ⟨_, rfl⟩

/-- What a call of `uxr_framing_write_transport` comes to: the buffer was written, or it stays. -/
theorem framingWriteTransport_cases (io : FramingIo) (transport : WriteTransport) :
    ∃ done io' transport', framingWriteTransport io transport = some (done, io', transport') ∧
      ((done = true ∧ io' = { io with wbPos := 0 }) ∨ (done = false ∧ io' = io)) := by
  obtain ⟨⟨bytesWritten, transport'⟩, hwrite⟩ :=
    @framingWriteFrom_ends io (io.wbPos + 1) transport 0 (by omega) (Nat.zero_le _)
  unfold framingWriteTransport
  rw [hwrite, Option.map_some]
  dsimp only
  split
  · exact ⟨true, _, transport', rfl, .inl ⟨rfl, rfl⟩⟩
  · exact ⟨false, io, transport', rfl, .inr ⟨rfl, rfl⟩⟩

namespace WriteHistory

variable {h h' : WriteHistory}

theorem beginMsg_kept (io : FramingIo) (transport : WriteTransport) :
    (beginMsg io transport).Kept :=
  ⟨by show 1 ≤ 42; decide, read_write_self io.wb 0 [framingBeginFlag]⟩

/-- What one step keeps. -/
theorem Kept.step (hkept : h.Kept) (hstep : WriteStep h h') : h'.Kept := by
  obtain ⟨hpos, hbytes⟩ := hkept
  cases hstep with
  | addNextOctet octet =>
    unfold addNextOctet
    rcases addNextOctet_cases hpos octet with ⟨hadded, hread, hpos', -⟩ | ⟨hfull, -⟩
    · refine ⟨hpos', ?_⟩
      dsimp only
      rw [hread, hbytes, if_pos hadded, Stuffing.stuff_append, Stuffing.stuff_cons,
        Stuffing.stuff_nil, List.append_nil, List.append_assoc]
    · rw [hfull]
      exact ⟨hpos, hbytes⟩
  | writeTransport hwrite =>
    obtain ⟨done, io', transport', hwrite', hcases⟩ := framingWriteTransport_cases h.io h.transport
    rw [hwrite] at hwrite'
    cases hwrite'
    rcases hcases with ⟨rfl, rfl⟩ | ⟨rfl, rfl⟩
    · exact ⟨Nat.zero_le _, rfl⟩
    · exact ⟨hpos, hbytes⟩

/-- What a run of steps keeps. -/
theorem Kept.run (hkept : h.Kept) (hrun : ReflTransGen WriteStep h h') : h'.Kept := by
  induction hrun with
  | refl => exact hkept
  | tail _ hstep ih => exact ih.step hstep

/-- An octet that finds room, with those behind it. -/
theorem writeOctets_added {fuel : Nat} {crc : UInt16} {octet : UInt8} {octets : List UInt8}
    (hadded : (XrceClient.addNextOctet h.io octet).1 = true) :
    writeOctets (fuel + 1) h.io h.transport crc (octet :: octets) =
      writeOctets fuel (h.addNextOctet octet).io (h.addNextOctet octet).transport
        (updateCrc crc octet) octets := by
  rw [writeOctets]
  dsimp only
  rw [if_pos hadded]
  rfl

/-- The loops over octets use the buffer in steps, and end: an octet for which there is no room is
added at the latest when the buffer was written. -/
theorem writeOctets_run (hkept : h.Kept) {fuel : Nat} (crc : UInt16) {octets : List UInt8}
    (hfuel : 2 * octets.length ≤ fuel) :
    ∃ cond crc' h', writeOctets fuel h.io h.transport crc octets =
        some (cond, h'.io, h'.transport, crc') ∧
      ReflTransGen WriteStep h h' := by
  induction octets generalizing fuel crc h with
  | nil => exact ⟨true, crc, h, by rw [writeOctets], .refl⟩
  | cons octet octets ih =>
    obtain ⟨fuel, rfl⟩ : ∃ n, fuel = n + 2 :=
      ⟨fuel - 2, by rw [List.length_cons] at hfuel; omega⟩
    have hrest : 2 * octets.length ≤ fuel := by
      rw [List.length_cons] at hfuel
      omega
    rcases addNextOctet_cases hkept.pos octet with ⟨hadded, -⟩ | ⟨hfull, -⟩
    · have hstep := WriteStep.addNextOctet h octet
      obtain ⟨cond, crc', h', hwrites, hrun⟩ :=
        @ih _ (hkept.step hstep) (fuel + 1) (updateCrc crc octet) (by omega)
      exact ⟨cond, crc', h', (writeOctets_added hadded).trans hwrites, .head hstep hrun⟩
    · obtain ⟨done, io', transport', hwrite, hcases⟩ :=
        framingWriteTransport_cases h.io h.transport
      have hstep := WriteStep.writeTransport h hwrite
      have hkept' := hkept.step hstep
      rw [writeOctets, hfull]
      simp only [Bool.false_eq_true, if_false, hwrite, Option.bind_eq_bind, Option.bind_some]
      rcases hcases with ⟨rfl, rfl⟩ | ⟨rfl, rfl⟩
      · -- the buffer is empty now
        have hadded : (XrceClient.addNextOctet { h.io with wbPos := 0 } octet).1 = true := by
          have hlength := stuffOctet_length_le octet
          rcases addNextOctet_cases (Nat.zero_le _ : { h.io with wbPos := 0 }.wbPos ≤ _) octet with
            ⟨hadded, -⟩ | ⟨-, hover⟩
          · exact hadded
          · unfold framingBufferSize at hover
            dsimp only at hover
            omega
        have hstep' := WriteStep.addNextOctet
          (h.writeTransport true { h.io with wbPos := 0 } transport') octet
        obtain ⟨cond, crc', h', hwrites, hrun⟩ :=
          @ih _ (hkept'.step hstep') fuel (updateCrc crc octet) hrest
        refine ⟨cond, crc', h', ?_, .head hstep (.head hstep' hrun)⟩
        rw [if_pos rfl]
        exact (@writeOctets_added (h.writeTransport true { h.io with wbPos := 0 } transport') fuel crc
          octet octets hadded).trans hwrites
      · refine ⟨false, crc, h.writeTransport false h.io transport', ?_, .single hstep⟩
        rw [if_neg Bool.false_ne_true]
        rfl

end WriteHistory

/-- A call of the writer uses its buffer in steps, and ends. -/
theorem writeFramedMsg_run (io : FramingIo) (transport : WriteTransport) (buf : List UInt8)
    (remoteAddr : UInt8) :
    ∃ written h, writeFramedMsg io transport buf remoteAddr =
        some (written, h.io, h.transport) ∧
      ReflTransGen WriteStep (.beginMsg io transport) h := by
  obtain ⟨h₀, hh₀⟩ : ∃ h₀, h₀ = WriteHistory.beginMsg io transport := ⟨_, rfl⟩
  obtain ⟨h₁, hh₁⟩ : ∃ h₁, h₁ = (((h₀.addNextOctet io.localAddr).addNextOctet
      remoteAddr).addNextOctet (UInt8.ofNat buf.length)).addNextOctet
        (UInt8.ofNat (buf.length / 256)) := ⟨_, rfl⟩
  have hheader : ReflTransGen WriteStep h₀ h₁ := by
    rw [hh₁]
    exact (((ReflTransGen.single (.addNextOctet _ _)).tail (.addNextOctet _ _)).tail
      (.addNextOctet _ _)).tail (.addNextOctet _ _)
  have hkept₀ : h₀.Kept := hh₀ ▸ WriteHistory.beginMsg_kept io transport
  have hkept₁ := hkept₀.run hheader
  -- the payload
  obtain ⟨cond₂, crc, h₂, hpayload, hrun₂⟩ :=
    WriteHistory.writeOctets_run hkept₁ 0 (Nat.le_refl _)
  have hkept₂ := hkept₁.run hrun₂
  -- the rest of the buffer
  have hend (cond : Bool) (h₃ : WriteHistory) : ∃ written h₄,
      (if cond = true ∧ 0 < h₃.io.wbPos then
        (framingWriteTransport h₃.io h₃.transport).bind fun rest =>
          some (if rest.1 = true then buf.length % 65536 else 0, rest.2.1, rest.2.2)
      else some (if cond = true then buf.length % 65536 else 0, h₃.io, h₃.transport)) =
          some (written, h₄.io, h₄.transport) ∧
        ReflTransGen WriteStep h₃ h₄ := by
    by_cases hcond : cond = true ∧ 0 < h₃.io.wbPos
    · obtain ⟨done, io', transport', hwrite, -⟩ := framingWriteTransport_cases h₃.io h₃.transport
      refine ⟨if done = true then buf.length % 65536 else 0,
        h₃.writeTransport done io' transport', ?_, .single (.writeTransport h₃ hwrite)⟩
      rw [if_pos hcond, hwrite]
      rfl
    · exact ⟨if cond = true then buf.length % 65536 else 0, h₃, by rw [if_neg hcond], .refl⟩
  rw [hh₀] at hheader
  by_cases hcond : cond₂ = true
  · -- the checksum, behind the whole payload
    obtain ⟨cond₃, crc', h₃, hchecksum, hrun₃⟩ := @WriteHistory.writeOctets_run h₂ hkept₂ 4 crc
      [crc.toUInt8, (crc >>> 8).toUInt8] (Nat.le_refl _)
    obtain ⟨written, h₄, hrest, hrun₄⟩ := hend cond₃ h₃
    refine ⟨written, h₄, ?_, ((hheader.trans hrun₂).trans hrun₃).trans hrun₄⟩
    rw [hh₁, hh₀] at hpayload
    unfold writeFramedMsg
    refine (congrArg (Option.bind · _) hpayload).trans ?_
    rw [Option.bind_some]
    dsimp only
    rw [if_pos hcond, hchecksum]
    exact hrest
  · obtain ⟨written, h₄, hrest, hrun₄⟩ := hend cond₂ h₂
    refine ⟨written, h₄, ?_, (hheader.trans hrun₂).trans hrun₄⟩
    rw [hh₁, hh₀] at hpayload
    unfold writeFramedMsg
    refine (congrArg (Option.bind · _) hpayload).trans ?_
    rw [Option.bind_some]
    dsimp only
    rw [if_neg hcond]
    exact hrest

/-! ## Both buffers -/

/-- In every run of the reader the positions of the ring lie within its block, between them are the
bytes that were received and not consumed, in their order, and a read spares these bytes and does
not make the ring look empty; the state machine is such a run. In every run of the writer the
position stays within the buffer, and an octet is appended whole or not at all; a call that writes
a message is such a run. -/
theorem framing_buffers_kept :
    (∀ (io : FramingIo) (localAddr : UInt8) (transport : ReadTransport) (h : RingHistory),
      ReflTransGen RingStep (.start io localAddr transport) h →
        h.Kept transport.pending ∧
        (∀ maxSize, h.io.Spares (h.readTransport maxSize).io) ∧
        ∀ r : FramedRead, r.io = h.io → r.transport = h.transport →
          (∀ len, h.RunsTo (readTurn len r).2.io (readTurn len r).2.transport) ∧
          ∀ len fuel r', readFramedMsg len fuel r = some r' → h.RunsTo r'.io r'.transport) ∧
    ∀ (io : FramingIo) (transport : WriteTransport),
      (∀ h, ReflTransGen WriteStep (.beginMsg io transport) h →
        h.Kept ∧ ∀ octet, h.io.Appends octet) ∧
      ∀ buf remoteAddr, ∃ written h,
        writeFramedMsg io transport buf remoteAddr = some (written, h.io, h.transport) ∧
          ReflTransGen WriteStep (.beginMsg io transport) h := by
  refine ⟨fun io localAddr transport h hrun => ?_, fun io transport => ⟨fun h hrun => ?_, ?_⟩⟩
  · have hkept := (RingHistory.start_kept io localAddr transport).run hrun
    refine ⟨hkept, framingReadTransport_spares hkept.ok h.transport, ?_⟩
    intro r hio htransport
    have hruns : h.RunsTo r.io r.transport := by
      rw [hio, htransport]
      exact h.runsTo_refl
    exact ⟨fun len => readTurn_runsTo len hruns, fun _ _ _ => readFramedMsg_runsTo hruns⟩
  · have hkept := (WriteHistory.beginMsg_kept io transport).run hrun
    exact ⟨hkept, addNextOctet_appends hkept.pos⟩
  · exact writeFramedMsg_run io transport

end XrceClient
