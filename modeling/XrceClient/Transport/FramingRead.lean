import XrceClient.Transport.FramingRing

/-!
# What is read from a line

`readFramedMsg` reports the messages whose frames come in for its address, one a call. What
it has read of a frame, and what of it is still to come, are said from the frame and not from
the reader (`InFrame`), so that it does not matter where the reader stopped and went on.

- `Reads`: the place of a reader in a sequence of frames.
- `Outcome`: what a turn of the state machine may come to; `readTurn_outcome`.
-/

namespace XrceClient

open ByteMemory FramingIo

namespace MsgFrame

/-- The frame can be written, and read where it is sent to. -/
structure Sendable (addr : UInt8) (len : Nat) (frame : MsgFrame) : Prop where
  pos : 1 ≤ frame.payload.length
  le : frame.payload.length ≤ 65535
  fits : frame.dstAddr = addr → frame.payload.length ≤ len

/-- The low byte of the length. -/
def lengthLsb (frame : MsgFrame) : UInt8 := UInt8.ofNat frame.payload.length

/-- The high byte of the length. -/
def lengthMsb (frame : MsgFrame) : UInt8 := UInt8.ofNat (frame.payload.length / 256)

end MsgFrame

/-- The messages among the frames that are for an address, with their senders. -/
def delivered (addr : UInt8) (frames : List MsgFrame) : List (UInt8 × List UInt8) :=
  (frames.filter fun frame => frame.dstAddr = addr).map fun frame => (frame.srcAddr, frame.payload)

namespace FramedRead

/-- The bytes that were not used yet. -/
def unread (r : FramedRead) : List UInt8 := r.io.ring ++ r.transport.pending

/-- A bound for the turns that are left. -/
def work (r : FramedRead) : Nat :=
  3 * r.transport.pending.length + 2 * r.io.ring.length +
    if r.io.state = .readingPayload then 1 else 0

end FramedRead

/-- The reader is within a frame: the octets of it that are still to come, and what it has kept
of the others. -/
def InFrame (frame : MsgFrame) (octets : List UInt8) (r : FramedRead) : Prop :=
  match r.io.state with
  | .uninitialized => False
  | .readingSrcAddr => octets = frame.header ++ frame.payload ++ frame.checksum
  | .readingDstAddr =>
    r.io.srcAddr = frame.srcAddr ∧
      octets = frame.dstAddr :: frame.lengthLsb :: frame.lengthMsb ::
        (frame.payload ++ frame.checksum)
  | .readingLenLsb =>
    (r.io.srcAddr = frame.srcAddr ∧ frame.dstAddr = r.io.localAddr) ∧
      octets = frame.lengthLsb :: frame.lengthMsb :: (frame.payload ++ frame.checksum)
  | .readingLenMsb =>
    (r.io.srcAddr = frame.srcAddr ∧ frame.dstAddr = r.io.localAddr) ∧
      r.io.msgLen = frame.lengthLsb.toUInt16 ∧
      octets = frame.lengthMsb :: (frame.payload ++ frame.checksum)
  | .readingPayload =>
    (r.io.srcAddr = frame.srcAddr ∧ frame.dstAddr = r.io.localAddr) ∧
      r.io.msgLen.toNat = frame.payload.length ∧
      ∃ k, r.io.msgPos.toNat = k ∧ k ≤ frame.payload.length ∧
        read r.buf 0 k = frame.payload.take k ∧ r.io.cmpCrc = crcOf (frame.payload.take k) ∧
        octets = frame.payload.drop k ++ frame.checksum
  | .readingCrcLsb =>
    (r.io.srcAddr = frame.srcAddr ∧ frame.dstAddr = r.io.localAddr) ∧
      r.io.msgLen.toNat = frame.payload.length ∧
      read r.buf 0 frame.payload.length = frame.payload ∧ r.io.cmpCrc = crcOf frame.payload ∧
      octets = frame.checksum
  | .readingCrcMsb =>
    (r.io.srcAddr = frame.srcAddr ∧ frame.dstAddr = r.io.localAddr) ∧
      r.io.msgLen.toNat = frame.payload.length ∧
      read r.buf 0 frame.payload.length = frame.payload ∧ r.io.cmpCrc = crcOf frame.payload ∧
      r.io.msgCrc = (crcOf frame.payload).toUInt8.toUInt16 ∧
      octets = [(crcOf frame.payload >>> 8).toUInt8]

/-- The reader is between two frames, or in front of the first one. -/
def BetweenFrames (frames : List MsgFrame) (r : FramedRead) : Prop :=
  r.io.state = .uninitialized ∧
    ∃ skipped, framingBeginFlag ∉ skipped ∧
      r.unread = skipped ++ frames.flatMap MsgFrame.bytes

/-- The frames that the reader has still to read, the one it is in included. -/
structure Reads (addr : UInt8) (len : Nat) (r : FramedRead) (frames : List MsgFrame) : Prop where
  ok : r.io.RingOk
  localAddr : r.io.localAddr = addr
  sendable : ∀ frame ∈ frames, frame.Sendable addr len
  place : BetweenFrames frames r ∨
    ∃ frame rest octets, frames = frame :: rest ∧ InFrame frame octets r ∧
      r.unread = framing.stuff octets ++ rest.flatMap MsgFrame.bytes

/-- What a turn of the state machine may come to. -/
inductive Outcome (addr : UInt8) (len : Nat) (frames : List MsgFrame) (r : FramedRead) :
    Bool × FramedRead → Prop
  /-- There is more to do. -/
  | goesOn (r' : FramedRead) (frames' : List MsgFrame) (reads : Reads addr len r' frames')
      (same : delivered addr frames' = delivered addr frames) (rv : r'.rv = r.rv)
      (less : r'.work < r.work) (later : r.transport.Later r'.transport) :
      Outcome addr len frames r (false, r')
  /-- The transport had nothing to deliver, or everything was read. -/
  | pauses (r' : FramedRead) (frames' : List MsgFrame) (reads : Reads addr len r' frames')
      (same : delivered addr frames' = delivered addr frames) (rv : r'.rv = r.rv)
      (work : r'.work ≤ r.work) (later : r.transport.Later r'.transport)
      (idle : (r.transport.calls < r'.transport.calls ∧ r'.transport.pending ≠ []) ∨
        (r'.io.state = .uninitialized ∧ r'.io.ring = [])) :
      Outcome addr len frames r (true, r')
  /-- A message is reported. -/
  | reports (r' : FramedRead) (frames' : List MsgFrame) (reads : Reads addr len r' frames')
      (message : delivered addr frames =
        (r'.remoteAddr, read r'.buf 0 r'.rv) :: delivered addr frames')
      (pos : 0 < r'.rv) (work : r'.work ≤ r.work) (later : r.transport.Later r'.transport) :
      Outcome addr len frames r (true, r')

section

variable {addr : UInt8} {len : Nat} {frames : List MsgFrame} {r r' : FramedRead}

/-- Only the ring and the transport have changed, and the bytes that are unread are the same. -/
structure Waited (r r' : FramedRead) : Prop where
  ok : r'.io.RingOk
  only : r.io.RingOnly r'.io
  rest : r' = { r with io := r'.io, transport := r'.transport }
  unread : r'.unread = r.unread
  later : r.transport.Later r'.transport

/-- The place in a frame does not depend on where the bytes are that come next. -/
theorem InFrame.congr {frame : MsgFrame} {octets : List UInt8} (h : InFrame frame octets r)
    (honly : r.io.RingOnly r'.io) (hbuf : r'.buf = r.buf) : InFrame frame octets r' := by
  rw [InFrame] at h ⊢
  rw [honly, hbuf]
  exact h

theorem Waited.inFrame (h : Waited r r') {frame : MsgFrame} {octets : List UInt8}
    (hin : InFrame frame octets r) : InFrame frame octets r' := by
  have hrest := h.rest
  exact hin.congr h.only (by rw [hrest])

/-- A read of the transport. -/
theorem waited_readTransport (hok : r.io.RingOk) {maxSize : Nat} (hmax : 0 < maxSize) :
    ∃ bytesRead io' transport',
      framingReadTransport r.io r.transport maxSize = (bytesRead, io', transport') ∧
      Waited r { r with io := io', transport := transport' } ∧
      { r with io := io', transport := transport' }.work + bytesRead = r.work ∧
      (bytesRead = 0 → transport'.pending = r.transport.pending) ∧
      (r.io.ring.length + 1 < framingBufferSize →
        r.transport.calls < transport'.calls ∧ (0 < bytesRead ↔ r.transport.Delivers)) := by
  have hspec := framingReadTransport_movesIn hok r.transport hmax
  rcases hresult : framingReadTransport r.io r.transport maxSize with ⟨bytesRead, io', transport'⟩
  rw [hresult] at hspec
  obtain ⟨hmoves, hcalls⟩ := hspec
  dsimp only at hmoves hcalls
  obtain ⟨bs, hring, hpending, hlength⟩ := hmoves.moved
  refine ⟨bytesRead, io', transport', rfl,
    ⟨hmoves.ok, hmoves.only, rfl, hmoves.unread, hmoves.later⟩, ?_, ?_, hcalls⟩
  · have hstate : io'.state = r.io.state := by
      rw [hmoves.only]
    rw [FramedRead.work, FramedRead.work]
    dsimp only
    rw [hring, hpending, hstate, List.length_append, List.length_append, ← hlength]
    omega
  · intro hzero
    rw [hpending, List.length_eq_zero_iff.mp (hlength.trans hzero), List.nil_append]

/-- What a turn comes to where an octet is awaited: it is there, or bytes are read for it, or there
are none. -/
theorem awaitOctet_cases (hok : r.io.RingOk) {maxSize : Nat} (hmax : 0 < maxSize)
    (accept : UInt8 → FramedRead → Bool × FramedRead) {octet : UInt8} {octets rest : List UInt8}
    (hunread : r.unread = framing.stuff (octet :: octets) ++ rest) :
    (∃ io', awaitOctet maxSize accept r = accept octet { r with io := io' } ∧ io'.RingOk ∧
        r.io.RingOnly io' ∧ { r with io := io' }.unread = framing.stuff octets ++ rest ∧
        io'.ring.length < r.io.ring.length) ∨
      ∃ exitCond r', awaitOctet maxSize accept r = (exitCond, r') ∧ Waited r r' ∧
        (exitCond = false → r'.work < r.work) ∧
        (exitCond = true → r'.work ≤ r.work ∧
          r.transport.calls < r'.transport.calls ∧ r'.transport.pending ≠ []) := by
  rcases getNextOctet_stuff hok hunread with
    ⟨io', hfound, hok', honly, hrest, hless⟩ | ⟨hnone, hshort, hpending⟩
  · refine .inl ⟨io', ?_, hok', honly, hrest, hless⟩
    rw [awaitOctet, hfound]
    rfl
  · obtain ⟨bytesRead, io', transport', hread, hwaited, hwork, hsame, hcalls⟩ :=
      waited_readTransport hok hmax
    refine .inr ?_
    rw [awaitOctet, hnone]
    dsimp only
    rw [if_neg Bool.false_ne_true, hread]
    dsimp only
    split
    · next hsome => exact ⟨false, _, rfl, hwaited, fun _ => by omega, nofun⟩
    · next hzero =>
      rw [if_neg (by decide)]
      refine ⟨true, _, rfl, hwaited, nofun, fun _ => ⟨by omega, (hcalls (hasRoom hshort)).1, ?_⟩⟩
      dsimp only
      rw [hsame (by omega)]
      exact hpending

/-- A turn that only waited leaves the reader where it is. -/
theorem outcome_of_waited {frame : MsgFrame} {rest : List MsgFrame} {octets : List UInt8}
    {exitCond : Bool} (h : Reads addr len r (frame :: rest)) (hin : InFrame frame octets r)
    (hunread : r.unread = framing.stuff octets ++ rest.flatMap MsgFrame.bytes)
    (hwaited : Waited r r') (hless : exitCond = false → r'.work < r.work)
    (hidle : exitCond = true → r'.work ≤ r.work ∧
      r.transport.calls < r'.transport.calls ∧ r'.transport.pending ≠ []) :
    Outcome addr len (frame :: rest) r (exitCond, r') := by
  have hreads : Reads addr len r' (frame :: rest) := by
    refine ⟨hwaited.ok, ?_, h.sendable, .inr ⟨frame, rest, octets, rfl, hwaited.inFrame hin, ?_⟩⟩
    · rw [hwaited.only]
      exact h.localAddr
    · rw [hwaited.unread, hunread]
  have hrv : r'.rv = r.rv := by
    rw [hwaited.rest]
  cases exitCond with
  | false => exact .goesOn r' _ hreads rfl hrv (hless rfl) hwaited.later
  | true =>
    obtain ⟨hwork, hcalls, hpending⟩ := hidle rfl
    exact .pauses r' _ hreads rfl hrv hwork hwaited.later (.inl ⟨hcalls, hpending⟩)

/-- A turn in which an octet is awaited, from what is done with the octet. -/
theorem awaitOctet_outcome {frame : MsgFrame} {rest : List MsgFrame} {octet : UInt8}
    {octets : List UInt8} (h : Reads addr len r (frame :: rest))
    (hin : InFrame frame (octet :: octets) r)
    (hunread : r.unread = framing.stuff (octet :: octets) ++ rest.flatMap MsgFrame.bytes)
    {maxSize : Nat} (hmax : 0 < maxSize) {accept : UInt8 → FramedRead → Bool × FramedRead}
    (haccept : ∀ io', io'.RingOk → r.io.RingOnly io' →
      { r with io := io' }.unread = framing.stuff octets ++ rest.flatMap MsgFrame.bytes →
      io'.ring.length < r.io.ring.length →
      Outcome addr len (frame :: rest) r (accept octet { r with io := io' })) :
    Outcome addr len (frame :: rest) r (awaitOctet maxSize accept r) := by
  rcases awaitOctet_cases h.ok hmax accept hunread with
    ⟨io', heq, hok, honly, hrest, hless⟩ | ⟨exitCond, r', heq, hwaited, hless, hidle⟩
  · rw [heq]
    exact haccept io' hok honly hrest hless
  · rw [heq]
    exact outcome_of_waited h hin hunread hwaited hless hidle

/-- A turn that took bytes out of the ring and stays in the frame. -/
theorem outcome_goesOn {frame : MsgFrame} {rest : List MsgFrame} {octets : List UInt8}
    (h : Reads addr len r (frame :: rest)) (hok : r'.io.RingOk)
    (haddr : r'.io.localAddr = r.io.localAddr) (hin : InFrame frame octets r')
    (hunread : r'.unread = framing.stuff octets ++ rest.flatMap MsgFrame.bytes)
    (hrv : r'.rv = r.rv) (htransport : r'.transport = r.transport)
    (hless : r'.io.ring.length < r.io.ring.length) :
    Outcome addr len (frame :: rest) r (false, r') := by
  refine .goesOn r' (frame :: rest)
    ⟨hok, haddr.trans h.localAddr, h.sendable, .inr ⟨frame, rest, octets, rfl, hin, hunread⟩⟩ rfl hrv
    ?_ (htransport ▸ ReadTransport.Later.refl _)
  rw [FramedRead.work, FramedRead.work, htransport]
  split <;> split <;> omega

theorem Reads.rest {frame : MsgFrame} {rest : List MsgFrame}
    (h : Reads addr len r (frame :: rest)) : ∀ frame ∈ rest, frame.Sendable addr len :=
  fun frame hmem => h.sendable frame (List.mem_cons_of_mem _ hmem)

theorem delivered_cons_other {frame : MsgFrame} {rest : List MsgFrame}
    (h : frame.dstAddr ≠ addr) : delivered addr (frame :: rest) = delivered addr rest := by
  simp [delivered, h]

theorem delivered_cons_same {frame : MsgFrame} {rest : List MsgFrame}
    (h : frame.dstAddr = addr) :
    delivered addr (frame :: rest) = (frame.srcAddr, frame.payload) :: delivered addr rest := by
  simp [delivered, h]

/-! ## The turns, state by state -/

/-- The octets of a length give the length back. -/
theorem length_octets {n : Nat} (h : n ≤ 65535) :
    ((UInt8.ofNat n).toUInt16 + (UInt8.ofNat (n / 256)).toUInt16 <<< 8).toNat = n := by
  simp only [UInt16.toNat_add, UInt16.toNat_shiftLeft, UInt8.toNat_toUInt16, UInt8.toNat_ofNat',
    UInt16.reduceToNat, Nat.shiftLeft_eq, Nat.reduceMod, Nat.reducePow]
  omega

/-- The octets of a checksum give the checksum back. -/
theorem checksum_octets (crc : UInt16) :
    crc.toUInt8.toUInt16 + (crc >>> 8).toUInt8.toUInt16 <<< 8 = crc := by
  refine UInt16.toNat_inj.mp ?_
  have hlt := crc.toNat_lt
  simp only [UInt16.toNat_add, UInt16.toNat_shiftLeft, UInt16.toNat_shiftRight,
    UInt8.toNat_toUInt16, UInt16.toNat_toUInt8, UInt16.reduceToNat, Nat.shiftLeft_eq,
    Nat.shiftRight_eq_div_pow, Nat.reduceMod, Nat.reducePow]
  omega

theorem readDstAddr_outcome {frame : MsgFrame} {rest : List MsgFrame} {octets : List UInt8}
    (h : Reads addr len r (frame :: rest)) (hstate : r.io.state = .readingDstAddr)
    (hin : InFrame frame octets r)
    (hunread : r.unread = framing.stuff octets ++ rest.flatMap MsgFrame.bytes) :
    Outcome addr len (frame :: rest) r (readDstAddr r) := by
  have hplace := hin
  rw [InFrame, hstate] at hplace
  obtain ⟨hsrc, rfl⟩ := hplace
  refine awaitOctet_outcome h hin hunread (by decide) fun io' hok honly hrest hless => ?_
  have haddr : io'.localAddr = addr := by
    rw [honly]
    exact h.localAddr
  dsimp only
  by_cases hdst : frame.dstAddr = io'.localAddr
  · rw [if_pos hdst]
    refine outcome_goesOn h ⟨hok.tail, hok.head⟩ (by rw [honly]) ?_ hrest rfl rfl hless
    rw [InFrame]
    refine ⟨⟨?_, hdst⟩, rfl⟩
    rw [honly]
    exact hsrc
  · -- the rest of the frame is skipped
    rw [if_neg hdst]
    refine .goesOn _ rest ⟨⟨hok.tail, hok.head⟩, haddr, h.rest, .inl ⟨rfl, _, ?_, hrest⟩⟩
      (delivered_cons_other (haddr ▸ hdst)).symm rfl ?_ (ReadTransport.Later.refl _)
    · exact @Stuffing.begin_not_mem_stuff framing _
    · rw [FramedRead.work, FramedRead.work, hstate]
      change 3 * _ + 2 * io'.ring.length + _ < _
      simp
      omega

theorem readLenLsb_outcome {frame : MsgFrame} {rest : List MsgFrame} {octets : List UInt8}
    (h : Reads addr len r (frame :: rest)) (hstate : r.io.state = .readingLenLsb)
    (hin : InFrame frame octets r)
    (hunread : r.unread = framing.stuff octets ++ rest.flatMap MsgFrame.bytes) :
    Outcome addr len (frame :: rest) r (readLenLsb r) := by
  have hplace := hin
  rw [InFrame, hstate] at hplace
  obtain ⟨haddrs, rfl⟩ := hplace
  refine awaitOctet_outcome h hin hunread (by decide) fun io' hok honly hrest hless => ?_
  refine outcome_goesOn h ⟨hok.tail, hok.head⟩ (by rw [honly]) ?_ hrest rfl rfl hless
  rw [InFrame]
  refine ⟨?_, rfl, rfl⟩
  rw [honly]
  exact haddrs

theorem readLenMsb_outcome {frame : MsgFrame} {rest : List MsgFrame} {octets : List UInt8}
    (h : Reads addr len r (frame :: rest)) (hstate : r.io.state = .readingLenMsb)
    (hin : InFrame frame octets r)
    (hunread : r.unread = framing.stuff octets ++ rest.flatMap MsgFrame.bytes) :
    Outcome addr len (frame :: rest) r (readLenMsb len r) := by
  have hplace := hin
  rw [InFrame, hstate] at hplace
  obtain ⟨haddrs, hlsb, rfl⟩ := hplace
  have hsendable := h.sendable frame List.mem_cons_self
  refine awaitOctet_outcome h hin hunread (by decide) fun io' hok honly hrest hless => ?_
  have hmsgLen : (io'.msgLen + frame.lengthMsb.toUInt16 <<< 8).toNat = frame.payload.length := by
    rw [honly]
    dsimp only
    rw [hlsb]
    exact length_octets hsendable.le
  have hfits := hsendable.fits (haddrs.2.trans h.localAddr)
  dsimp only
  rw [if_neg (by omega)]
  refine outcome_goesOn h ⟨hok.tail, hok.head⟩ (by rw [honly]) ?_ hrest rfl rfl hless
  rw [InFrame]
  refine ⟨?_, hmsgLen, 0, rfl, Nat.zero_le _, rfl, rfl, rfl⟩
  rw [honly]
  exact haddrs

theorem readCrcLsb_outcome {frame : MsgFrame} {rest : List MsgFrame} {octets : List UInt8}
    (h : Reads addr len r (frame :: rest)) (hstate : r.io.state = .readingCrcLsb)
    (hin : InFrame frame octets r)
    (hunread : r.unread = framing.stuff octets ++ rest.flatMap MsgFrame.bytes) :
    Outcome addr len (frame :: rest) r (readCrcLsb r) := by
  have hplace := hin
  rw [InFrame, hstate] at hplace
  obtain ⟨haddrs, hlen, hbuf, hcrc, rfl⟩ := hplace
  refine awaitOctet_outcome h hin hunread (by decide) fun io' hok honly hrest hless => ?_
  refine outcome_goesOn h ⟨hok.tail, hok.head⟩ (by rw [honly]) ?_ hrest rfl rfl hless
  rw [InFrame]
  refine ⟨?_, ?_, hbuf, ?_, rfl, rfl⟩
  · rw [honly]
    exact haddrs
  · rw [honly]
    exact hlen
  · rw [honly]
    exact hcrc

theorem readCrcMsb_outcome {frame : MsgFrame} {rest : List MsgFrame} {octets : List UInt8}
    (h : Reads addr len r (frame :: rest)) (hstate : r.io.state = .readingCrcMsb)
    (hin : InFrame frame octets r)
    (hunread : r.unread = framing.stuff octets ++ rest.flatMap MsgFrame.bytes) :
    Outcome addr len (frame :: rest) r (readCrcMsb r) := by
  have hplace := hin
  rw [InFrame, hstate] at hplace
  obtain ⟨⟨hsrc, hdst⟩, hlen, hbuf, hcrc, hlsb, rfl⟩ := hplace
  have hsendable := h.sendable frame List.mem_cons_self
  refine awaitOctet_outcome h hin hunread (by decide) fun io' hok honly hrest hless => ?_
  have hsum : io'.msgCrc + (crcOf frame.payload >>> 8).toUInt8.toUInt16 <<< 8 =
      crcOf frame.payload := by
    rw [honly]
    dsimp only
    rw [hlsb]
    exact checksum_octets _
  have hfields : io'.srcAddr = frame.srcAddr ∧ io'.msgLen.toNat = frame.payload.length ∧
      io'.cmpCrc = crcOf frame.payload ∧ io'.localAddr = addr := by
    rw [honly]
    exact ⟨hsrc, hlen, hcrc, h.localAddr⟩
  obtain ⟨hsrc', hlen', hcrc', haddr'⟩ := hfields
  dsimp only
  rw [hsum, if_pos hcrc']
  refine .reports _ rest ⟨⟨hok.tail, hok.head⟩, haddr', h.rest, .inl ⟨rfl, [], by simp, ?_⟩⟩ ?_ ?_
    ?_ (ReadTransport.Later.refl _)
  · exact hrest
  · dsimp only
    rw [hsrc', hlen', hbuf]
    exact delivered_cons_same (hdst.trans h.localAddr)
  · dsimp only
    rw [hlen']
    exact hsendable.pos
  · rw [FramedRead.work, FramedRead.work, hstate]
    change 3 * r.transport.pending.length + 2 * io'.ring.length + 0 ≤ _
    omega

theorem readSrcAddr_outcome {frame : MsgFrame} {rest : List MsgFrame} {octets : List UInt8}
    (h : Reads addr len r (frame :: rest)) (hstate : r.io.state = .readingSrcAddr)
    (hin : InFrame frame octets r)
    (hunread : r.unread = framing.stuff octets ++ rest.flatMap MsgFrame.bytes) :
    Outcome addr len (frame :: rest) r (readSrcAddr r) := by
  have hplace := hin
  rw [InFrame, hstate] at hplace
  rw [hplace] at hunread
  rcases getNextOctet_stuff h.ok hunread with
    ⟨io', hfound, hok, honly, hrest, hless⟩ | ⟨hnone, hshort, hpending⟩
  · rw [readSrcAddr, hfound]
    refine outcome_goesOn h ⟨hok.tail, hok.head⟩ (by rw [honly]) ?_ hrest rfl rfl hless
    rw [InFrame]
    exact ⟨rfl, rfl⟩
  · -- the address that is kept meanwhile is of no use
    have hok₀ : { r.io with srcAddr := 0 }.RingOk := ⟨h.ok.tail, h.ok.head⟩
    obtain ⟨bytesRead, io', transport', hread, hwaited, hwork, hsame, hcalls⟩ :=
      @waited_readTransport { r with io := { r.io with srcAddr := 0 } } hok₀ 4 (by decide)
    dsimp only at hread hwaited hwork hsame hcalls
    have honly : io' = { r.io with
        srcAddr := 0, rb := io'.rb, rbHead := io'.rbHead, rbTail := io'.rbTail } := hwaited.only
    have hstate' : io'.state = .readingSrcAddr := by
      rw [honly]
      exact hstate
    have hsrcAddr : io'.srcAddr = 0 := by
      rw [honly]
    have hreads : Reads addr len { r with io := io', transport := transport' } (frame :: rest) := by
      refine ⟨hwaited.ok, ?_, h.sendable, .inr ⟨frame, rest, octets, rfl, ?_, ?_⟩⟩
      · rw [hwaited.only]
        exact h.localAddr
      · rw [InFrame, hstate']
        exact hplace
      · rw [hwaited.unread, hplace]
        exact hunread
    rw [readSrcAddr, hnone]
    dsimp only
    rw [if_neg Bool.false_ne_true, hread]
    dsimp only
    split
    · next hsome =>
      refine .goesOn _ _ hreads rfl rfl ?_ hwaited.later
      change _ + bytesRead = r.work at hwork
      omega
    · next hzero =>
      rw [hsrcAddr, decide_eq_true (by decide)]
      refine .pauses _ _ hreads rfl rfl ?_ hwaited.later (.inl ⟨(hcalls (hasRoom hshort)).1, ?_⟩)
      · change _ + bytesRead = r.work at hwork
        omega
      · dsimp only
        rw [hsame (by omega)]
        exact hpending

/-! ### The payload -/

/-- The first `k` octets of the payload were taken. -/
structure PayloadTaken (payload : List UInt8) (k : Nat) (io : FramingIo) (buf : Memory) :
    Prop where
  pos : io.msgPos.toNat = k
  crc : io.cmpCrc = crcOf (payload.take k)
  buf : read buf 0 k = payload.take k

theorem crcOf_take_succ {payload : List UInt8} {k : Nat} (h : k < payload.length) :
    crcOf (payload.take (k + 1)) = updateCrc (crcOf (payload.take k)) payload[k] := by
  rw [crcOf, List.take_succ_eq_append_getElem h, List.foldl_append]
  rfl

/-- Only the ring and the count of the payload have changed. -/
def PayloadOnly (io io' : FramingIo) : Prop :=
  io' = { io with
    rb := io'.rb, rbHead := io'.rbHead, rbTail := io'.rbTail
    msgPos := io'.msgPos, cmpCrc := io'.cmpCrc }

/-- Octets of the payload are taken, all that are missing or as many as there are. -/
theorem takePayload_spec {payload tail : List UInt8} {k n : Nat} {octet : UInt8} {io : FramingIo}
    {buf : Memory} {pending rest : List UInt8} (hle : payload.length ≤ 65535)
    (hn : k + n = payload.length) (hok : io.RingOk) (htaken : PayloadTaken payload k io buf)
    (hunread : io.ring ++ pending = framing.stuff (payload.drop k ++ tail) ++ rest) :
    ∃ octet' io' buf' k', takePayload n octet io buf = (octet', io', buf') ∧ k ≤ k' ∧
      k' ≤ payload.length ∧ io'.RingOk ∧ PayloadOnly io io' ∧ PayloadTaken payload k' io' buf' ∧
      io'.ring ++ pending = framing.stuff (payload.drop k' ++ tail) ++ rest ∧
      io'.ring.length + (k' - k) ≤ io.ring.length ∧
      (k' < payload.length → octet' = 0 ∧ io'.ring.length ≤ 1 ∧ pending ≠ []) := by
  induction n generalizing k octet io buf with
  | zero =>
    refine ⟨octet, io, buf, k, rfl, Nat.le_refl k, by omega, hok, rfl, htaken, hunread, ?_, ?_⟩
    · rw [Nat.sub_self]
      exact Nat.le_refl _
    · intro hlt
      omega
  | succ n ih =>
    have hk : k < payload.length := by omega
    have hsplit : payload.drop k ++ tail = payload[k] :: (payload.drop (k + 1) ++ tail) := by
      rw [List.drop_eq_getElem_cons hk, List.cons_append]
    rw [hsplit] at hunread
    rcases getNextOctet_stuff hok hunread with
      ⟨io₁, hfound, hok₁, honly, hrest, hless⟩ | ⟨hnone, hshort, hpending⟩
    · have hpos₁ : io₁.msgPos = io.msgPos := by rw [honly]
      have hcrc₁ : io₁.cmpCrc = io.cmpCrc := by rw [honly]
      have hnext : PayloadTaken payload (k + 1)
          { io₁ with msgPos := io₁.msgPos + 1, cmpCrc := updateCrc io₁.cmpCrc payload[k] }
          (write buf io₁.msgPos.toNat [payload[k]]) := by
        refine ⟨?_, ?_, ?_⟩
        · rw [hpos₁, UInt16.toNat_add, htaken.pos]
          exact Nat.mod_eq_of_lt (by simp only [UInt16.reduceToNat]; omega)
        · rw [crcOf_take_succ hk, hcrc₁, htaken.crc]
        · rw [hpos₁, htaken.pos, List.take_succ_eq_append_getElem hk, ← htaken.buf]
          exact read_write_behind buf k [payload[k]]
      obtain ⟨octet', io', buf', k', heq, hkk', hk', hok', honly', htaken', hrest', hless', hends⟩ :=
        @ih (k + 1) payload[k]
          { io₁ with msgPos := io₁.msgPos + 1, cmpCrc := updateCrc io₁.cmpCrc payload[k] } _
          (by omega) ⟨hok₁.tail, hok₁.head⟩ hnext hrest
      refine ⟨octet', io', buf', k', ?_, by omega, hk', hok', ?_, htaken', hrest', ?_, hends⟩
      · rw [takePayload, hfound]
        exact heq
      · rw [PayloadOnly] at honly' ⊢
        rw [honly', honly]
      · change io'.ring.length + (k' - (k + 1)) ≤ io₁.ring.length at hless'
        omega
    · refine ⟨0, io, buf, k, ?_, Nat.le_refl k, by omega, hok, rfl, htaken, ?_, ?_,
        fun _ => ⟨rfl, hshort, hpending⟩⟩
      · rw [takePayload, hnone]
        rfl
      · rw [hsplit]
        exact hunread
      · rw [Nat.sub_self]
        exact Nat.le_refl _

theorem readPayload_outcome {frame : MsgFrame} {rest : List MsgFrame} {octets : List UInt8}
    (h : Reads addr len r (frame :: rest)) (hstate : r.io.state = .readingPayload)
    (hin : InFrame frame octets r)
    (hunread : r.unread = framing.stuff octets ++ rest.flatMap MsgFrame.bytes) :
    Outcome addr len (frame :: rest) r (readPayload r) := by
  rw [InFrame, hstate] at hin
  obtain ⟨haddrs, hlen, k, hk, hkle, hbuf, hcrc, rfl⟩ := hin
  have hsendable := h.sendable frame List.mem_cons_self
  obtain ⟨octet, io', buf', k', htake, hkk', hk', hok', honly, htaken, hrest, hless, hends⟩ :=
    @takePayload_spec _ frame.checksum k (frame.payload.length - k) 0 _ r.buf _ _ hsendable.le
      (by omega) h.ok ⟨hk, hcrc, hbuf⟩ hunread
  have hfields : io'.localAddr = r.io.localAddr ∧ io'.srcAddr = r.io.srcAddr ∧
      io'.msgLen = r.io.msgLen ∧ io'.state = .readingPayload := by
    rw [honly]
    exact ⟨rfl, rfl, rfl, hstate⟩
  obtain ⟨haddr', hsrc', hlen', hstate'⟩ := hfields
  rw [readPayload, hlen, hk, htake]
  dsimp only
  have hpos : io'.msgPos = io'.msgLen ↔ k' = frame.payload.length := by
    rw [← UInt16.toNat_inj, htaken.pos, hlen', hlen]
  by_cases hall : k' = frame.payload.length
  · -- the payload is complete
    rw [if_pos (hpos.mpr hall)]
    rw [hall, List.drop_length, List.nil_append] at hrest
    have hreads : Reads addr len
        { r with io := { io' with state := .readingCrcLsb }, buf := buf' } (frame :: rest) := by
      refine ⟨⟨hok'.tail, hok'.head⟩, haddr'.trans h.localAddr, h.sendable,
        .inr ⟨frame, rest, frame.checksum, rfl, ?_, hrest⟩⟩
      rw [InFrame]
      have hbuf' := htaken.buf
      have hcrc' := htaken.crc
      rw [hall, List.take_length] at hbuf' hcrc'
      refine ⟨⟨?_, ?_⟩, ?_, hbuf', hcrc', rfl⟩
      · exact hsrc'.trans haddrs.1
      · exact haddrs.2.trans haddr'.symm
      · dsimp only
        rw [hlen', hlen]
    refine .goesOn _ _ hreads rfl rfl ?_ (ReadTransport.Later.refl _)
    rw [FramedRead.work, FramedRead.work, hstate]
    change 3 * r.transport.pending.length + 2 * io'.ring.length + 0 < _
    rw [if_pos rfl]
    omega
  · -- the ring ran out, and the transport is asked for more
    obtain ⟨rfl, hshort, hpending⟩ := hends (by omega)
    rw [if_neg (mt hpos.mp hall), if_neg (by decide)]
    obtain ⟨bytesRead, io'', transport', hread, hwaited, hwork, hsame, hcalls⟩ :=
      @waited_readTransport { r with io := io', buf := buf' } hok'
        (io'.msgLen.toNat - io'.msgPos.toNat + 2) (by omega)
    dsimp only at hread hwaited hwork hsame hcalls
    have hreads : Reads addr len { r with io := io'', transport := transport', buf := buf' }
        (frame :: rest) := by
      have hin' : InFrame frame (frame.payload.drop k' ++ frame.checksum)
          { r with io := io', buf := buf' } := by
        rw [InFrame]
        dsimp only
        rw [hstate']
        dsimp only
        refine ⟨⟨hsrc'.trans haddrs.1, haddrs.2.trans haddr'.symm⟩, ?_, k', htaken.pos, hk',
          htaken.buf, htaken.crc, rfl⟩
        rw [hlen', hlen]
      refine ⟨hwaited.ok, ?_, h.sendable,
        .inr ⟨frame, rest, _, rfl, hwaited.inFrame hin', ?_⟩⟩
      · rw [hwaited.only]
        exact haddr'.trans h.localAddr
      · rw [hwaited.unread]
        exact hrest
    have hworkle : { r with io := io', buf := buf' }.work ≤ r.work := by
      rw [FramedRead.work, FramedRead.work]
      dsimp only
      rw [hstate, hstate']
      omega
    rw [hread]
    dsimp only
    split
    · next hsome =>
      refine .goesOn _ _ hreads rfl rfl ?_ hwaited.later
      omega
    · -- nothing came, and the reader waits within the frame
      next hzero =>
      refine .pauses _ _ hreads rfl rfl (by omega) hwaited.later (.inl ⟨(hcalls (hasRoom hshort)).1, ?_⟩)
      dsimp only
      rw [hsame (by omega)]
      exact hpending

/-! ### Between frames -/

/-- The ring is searched for a flag. -/
theorem skipToBegin_spec {fuel : Nat} {octet : UInt8} {io : FramingIo} (hok : io.RingOk)
    (hoctet : framingBeginFlag ≠ octet) (hfuel : io.ring.length ≤ fuel) :
    (∃ skipped io', io.ring = skipped ++ framingBeginFlag :: io'.ring ∧
        framingBeginFlag ∉ skipped ∧ skipToBegin fuel octet io = (framingBeginFlag, io') ∧
        io'.RingOk ∧ io.RingOnly io') ∨
      ∃ octet' io', framingBeginFlag ∉ io.ring ∧ skipToBegin fuel octet io = (octet', io') ∧
        framingBeginFlag ≠ octet' ∧ io'.RingOk ∧ io.RingOnly io' ∧ io'.ring = [] := by
  induction fuel generalizing octet io with
  | zero =>
    have hnil := List.length_eq_zero_iff.mp (Nat.le_zero.mp hfuel)
    exact .inr ⟨octet, io, by simp [hnil], rfl, hoctet, hok, rfl, hnil⟩
  | succ fuel ih =>
    cases hring : io.ring with
    | nil =>
      refine .inr ⟨octet, io, by simp, ?_, hoctet, hok, rfl, hring⟩
      rw [skipToBegin, if_neg]
      rintro ⟨-, hne⟩
      exact hne ((ring_eq_nil_iff hok).mp hring)
    | cons b bs =>
      obtain ⟨hne, hfirst, hrest⟩ := ring_cons hok hring
      have hok' := ringOk_next hok
      rw [skipToBegin, if_pos ⟨hoctet, hne⟩, hfirst]
      by_cases hb : framingBeginFlag = b
      · -- the flag ends the search
        have hstop : ∀ io', skipToBegin fuel b io' = (framingBeginFlag, io') := by
          intro io'
          cases fuel with
          | zero => rw [skipToBegin, hb]
          | succ fuel => rw [skipToBegin, if_neg fun h => h.1 hb, hb]
        refine .inl ⟨[], _, ?_, by simp, hstop _, hok', rfl⟩
        rw [hrest, hb]
        rfl
      · have hless : { io with rbTail := (io.rbTail + 1) % framingBufferSize }.ring.length ≤ fuel := by
          rw [hring, List.length_cons] at hfuel
          rw [hrest]
          omega
        rcases ih hok' hb hless with
          ⟨skipped, io', hsplit, hskipped, heq, hok'', honly⟩ |
          ⟨octet', io', hnone, heq, hoctet', hok'', honly, hempty⟩
        · rw [hrest] at hsplit
          refine .inl ⟨b :: skipped, io', ?_, ?_, heq, hok'', honly⟩
          · rw [hsplit]
            rfl
          · rintro hmem
            rcases List.mem_cons.mp hmem with h | h
            · exact hb h
            · exact hskipped h
        · rw [hrest] at hnone
          refine .inr ⟨octet', io', ?_, heq, hoctet', hok'', honly, hempty⟩
          rintro hmem
          rcases List.mem_cons.mp hmem with h | h
          · exact hb h
          · exact hnone h

theorem readUninitialized_outcome (h : Reads addr len r frames)
    (hbetween : BetweenFrames frames r) : Outcome addr len frames r (readUninitialized r) := by
  obtain ⟨hstate, skipped, hskipped, hunread⟩ := hbetween
  have hfuel : r.io.ring.length ≤ framingBufferSize := by
    rw [ring, ringContents_length]
    exact Nat.le_of_lt (ringLength_lt h.ok.tail)
  rw [FramedRead.unread] at hunread
  rcases skipToBegin_spec h.ok (by decide : framingBeginFlag ≠ 0) hfuel with
    ⟨skipped', io', hsplit, hskipped', heq, hok, honly⟩ |
    ⟨octet, io', hnone, heq, hoctet, hok, honly, hempty⟩
  · -- a flag: a frame begins behind it
    rw [hsplit, List.append_assoc, List.cons_append] at hunread
    cases frames with
    | nil =>
      refine absurd ?_ hskipped
      rw [List.flatMap_nil, List.append_nil] at hunread
      rw [← hunread]
      exact List.mem_append_right _ List.mem_cons_self
    | cons frame rest =>
      rw [List.flatMap_cons, MsgFrame.bytes, List.cons_append] at hunread
      have hrest := Stuffing.behind_first_flag hskipped' hskipped hunread
      rw [readUninitialized, heq]
      refine outcome_goesOn h ⟨hok.tail, hok.head⟩ (by rw [honly]) ?_ hrest rfl rfl ?_
      · rw [InFrame]
      · rw [hsplit, List.length_append, List.length_cons]
        change io'.ring.length < _
        omega
  · -- no flag in the ring: all of it is skipped
    have hpending : ∃ skipped, framingBeginFlag ∉ skipped ∧
        r.transport.pending = skipped ++ frames.flatMap MsgFrame.bytes := by
      rcases List.append_eq_append_iff.mp hunread with ⟨more, hmore, hrest⟩ | ⟨more, hmore, hrest⟩
      · refine ⟨more, fun hmem => hskipped ?_, hrest⟩
        rw [hmore]
        exact List.mem_append_right _ hmem
      · -- a frame that began in the ring would have a flag there
        cases more with
        | nil => exact ⟨[], by simp, by simpa using hrest.symm⟩
        | cons b more =>
          cases frames with
          | nil => cases hrest
          | cons frame rest =>
            rw [List.flatMap_cons, MsgFrame.bytes, List.cons_append, List.cons_append] at hrest
            refine absurd ?_ hnone
            rw [hmore, ← (List.cons.inj hrest).1]
            exact List.mem_append_right _ List.mem_cons_self
    obtain ⟨skipped', hskipped', hpending⟩ := hpending
    have hstate' : io'.state = .uninitialized := by
      rw [honly]
      exact hstate
    have hreads : Reads addr len { r with io := io' } frames := by
      refine ⟨hok, ?_, h.sendable, .inl ⟨hstate', skipped', hskipped', ?_⟩⟩
      · rw [honly]
        exact h.localAddr
      · rw [FramedRead.unread, hempty, List.nil_append]
        exact hpending
    rw [readUninitialized, heq]
    dsimp only
    rw [if_neg hoctet]
    refine .pauses _ _ hreads rfl rfl ?_ (ReadTransport.Later.refl _) (.inr ⟨hstate', hempty⟩)
    rw [FramedRead.work, FramedRead.work, hstate]
    dsimp only
    rw [hstate', hempty, List.length_nil]
    omega

/-- What a turn of the state machine comes to. -/
theorem readTurn_outcome (h : Reads addr len r frames) :
    Outcome addr len frames r (readTurn len r) := by
  rcases h.place with hbetween | ⟨frame, rest, octets, rfl, hin, hunread⟩
  · rw [readTurn, hbetween.1]
    exact readUninitialized_outcome h hbetween
  · rw [readTurn]
    cases hstate : r.io.state with
    | uninitialized =>
      rw [InFrame, hstate] at hin
      exact hin.elim
    | readingSrcAddr => exact readSrcAddr_outcome h hstate hin hunread
    | readingDstAddr => exact readDstAddr_outcome h hstate hin hunread
    | readingLenLsb => exact readLenLsb_outcome h hstate hin hunread
    | readingLenMsb => exact readLenMsb_outcome h hstate hin hunread
    | readingPayload => exact readPayload_outcome h hstate hin hunread
    | readingCrcLsb => exact readCrcLsb_outcome h hstate hin hunread
    | readingCrcMsb => exact readCrcMsb_outcome h hstate hin hunread

end

end XrceClient
