import XrceClient.Transport.FramingRoundTrip
import XrceClient.Transport.Receiver

/-!
# What a reader makes of any stream

The reader of the framing protocol against the receiver of bytes one at a time: the frames of
a stream are what the receiver finds in it, as long as the reader loses no flag. It loses one
where an address, a length or a checksum is awaited and the transport delivers more bytes in
the turn that takes the flag: the flag is looked at only where nothing is delivered.

- `LosesFlag`: the state before such a turn.
- `Listens`, `Follows`: what the reader has kept is what the receiver has kept.
- `readTurn_turned`: a turn that loses no flag follows the receiver.
- `readTurn_follows_iff`: and no other does.
- `readCalls_follows` / `readCalls_all`: successive calls.
-/

namespace XrceClient

open ByteMemory FramingIo

/-- The next thing in the ring is a flag. -/
def FramingIo.FlagNext (io : FramingIo) : Prop :=
  io.ring.take 1 = [framingBeginFlag] ∨ io.ring.take 2 = [framingEscFlag, framingBeginFlag]

instance (io : FramingIo) : Decidable io.FlagNext := inferInstanceAs (Decidable (_ ∨ _))

theorem FramingIo.flagNext_iff {io : FramingIo} :
    io.FlagNext ↔ ∃ used rest, framing.Reads used none ∧ io.ring = used ++ rest := by
  constructor
  · rintro (h | h)
    · refine ⟨_, io.ring.drop 1, .flag, ?_⟩
      have hsplit := List.take_append_drop 1 io.ring
      rw [h] at hsplit
      exact hsplit.symm
    · refine ⟨_, io.ring.drop 2, .escapedFlag, ?_⟩
      have hsplit := List.take_append_drop 2 io.ring
      rw [h] at hsplit
      exact hsplit.symm
  · rintro ⟨used, rest, hreads, hring⟩
    rw [FlagNext, hring]
    cases hreads with
    | flag => exact .inl rfl
    | escapedFlag => exact .inr rfl

/-- An address, a length or a checksum is awaited, in a frame that has begun. -/
def FramingInputState.inField : FramingInputState → Bool
  | .readingDstAddr | .readingLenLsb | .readingLenMsb | .readingCrcLsb | .readingCrcMsb => true
  | .uninitialized | .readingSrcAddr | .readingPayload => false

namespace FramedRead

/-- What the reader waits for, with what it has kept. -/
def awaited (r : FramedRead) : Awaited :=
  match r.io.state with
  | .uninitialized => .beginFlag
  | .readingSrcAddr => .srcAddr
  | .readingDstAddr => .dstAddr r.io.srcAddr
  | .readingLenLsb => .lenLsb r.io.srcAddr
  | .readingLenMsb => .lenMsb r.io.srcAddr r.io.msgLen
  | .readingPayload =>
    .ofPayload r.io.srcAddr r.io.msgLen.toNat (read r.buf 0 r.io.msgPos.toNat)
  | .readingCrcLsb => .crcLsb r.io.srcAddr (read r.buf 0 r.io.msgLen.toNat)
  | .readingCrcMsb => .crcMsb r.io.srcAddr (read r.buf 0 r.io.msgLen.toNat) r.io.msgCrc

/-- The receiver in the place of the reader. -/
def receives (r : FramedRead) : Receiver := ⟨r.awaited, false⟩

/-- The turn from here takes a flag that it does not look at. -/
def LosesFlag (r : FramedRead) : Prop :=
  r.io.state.inField = true ∧ r.io.FlagNext ∧ r.transport.Delivers

instance (r : FramedRead) : Decidable r.LosesFlag := inferInstanceAs (Decidable (_ ∧ _))

/-- The checksum so far is that of the octets so far. -/
def Checked (r : FramedRead) : Prop :=
  match r.io.state with
  | .readingPayload =>
    r.io.msgPos.toNat ≤ r.io.msgLen.toNat ∧ r.io.cmpCrc = crcOf (read r.buf 0 r.io.msgPos.toNat)
  | .readingCrcLsb | .readingCrcMsb => r.io.cmpCrc = crcOf (read r.buf 0 r.io.msgLen.toNat)
  | _ => True

/-- What holds of a reader with the address at any time. -/
structure Listens (addr : UInt8) (r : FramedRead) : Prop where
  ok : r.io.RingOk
  localAddr : r.io.localAddr = addr
  checked : r.Checked

/-- What the reader reports as the result of a call. -/
def message (r : FramedRead) : List (UInt8 × List UInt8) :=
  if r.rv ≠ 0 then [(r.remoteAddr, read r.buf 0 r.rv)] else []

/-- The ring holds nothing that could be taken. -/
def Starved (r : FramedRead) : Prop := r.io.ring = [] ∨ r.io.ring = [framingEscFlag]

end FramedRead

/-- The reader has done what the receiver does with the bytes that it has used. -/
structure Follows (addr : UInt8) (len : Nat) (r r' : FramedRead)
    (messages : List (UInt8 × List UInt8)) : Prop where
  listens : r'.Listens addr
  consumes : (receiver addr len).Consumes r.receives r.unread r'.receives r'.unread messages
  later : r.transport.Later r'.transport
  work : r'.work ≤ r.work

/-- What a turn of the state machine may come to, on any bytes. -/
inductive Turned (addr : UInt8) (len : Nat) (r : FramedRead) : Bool × FramedRead → Prop
  | goesOn (r' : FramedRead) (follows : Follows addr len r r' []) (rv : r'.rv = 0)
      (less : r'.work < r.work) : Turned addr len r (false, r')
  | leaves (r' : FramedRead) (follows : Follows addr len r r' r'.message)
      (idle : r'.work < r.work ∨ r.io.ring = [] ∨
        (r'.Starved ∧ r.transport.calls < r'.transport.calls)) :
      Turned addr len r (true, r')

section

variable {addr : UInt8} {len : Nat} {r r' r'' : FramedRead}
  {messages messages' : List (UInt8 × List UInt8)}

theorem Follows.refl (h : r.Listens addr) : Follows addr len r r [] :=
  ⟨h, .refl _ _, .refl _, Nat.le_refl _⟩

theorem Follows.trans (h : Follows addr len r r' messages)
    (h' : Follows addr len r' r'' messages') : Follows addr len r r'' (messages ++ messages') :=
  ⟨h'.listens, h.consumes.trans h'.consumes, h.later.trans h'.later, Nat.le_trans h'.work h.work⟩

theorem FramedRead.message_of_rv (h : r.rv = 0) : r.message = [] := if_neg (not_not.mpr h)

theorem Follows.noMessage (h : Follows addr len r r' []) (hrv : r'.rv = 0) :
    Follows addr len r r' r'.message := by
  rw [FramedRead.message_of_rv hrv]
  exact h

theorem FramedRead.Listens.withRv (h : r.Listens addr) (rv : Nat) :
    { r with rv }.Listens addr := ⟨h.ok, h.localAddr, h.checked⟩

/-- Bytes that come into the ring are nothing to the receiver. -/
theorem Waited.follows (h : Waited r r') (hlistens : r.Listens addr) (hwork : r'.work ≤ r.work) :
    Follows addr len r r' [] := by
  have hbuf : r'.buf = r.buf := by
    rw [h.rest]
  have hawaited : r'.awaited = r.awaited := by
    rw [FramedRead.awaited, h.only, hbuf]
    rfl
  refine ⟨⟨h.ok, ?_, ?_⟩, ⟨[], h.unread.symm, ?_⟩, h.later, hwork⟩
  · exact h.only.localAddr.trans hlistens.localAddr
  · have hchecked := hlistens.checked
    rw [FramedRead.Checked] at hchecked ⊢
    rw [h.only, hbuf]
    exact hchecked
  · rw [FramedRead.receives, FramedRead.receives, hawaited]
    rfl

/-- Within a field a frame has begun. -/
theorem awaited_inField (h : r.io.state.inField = true) :
    r.awaited.inField = true ∧ r.awaited ≠ .beginFlag := by
  rw [FramedRead.awaited]
  cases hstate : r.io.state with
  | readingDstAddr => exact ⟨rfl, nofun⟩
  | readingLenLsb => exact ⟨rfl, nofun⟩
  | readingLenMsb => exact ⟨rfl, nofun⟩
  | readingCrcLsb => exact ⟨rfl, nofun⟩
  | readingCrcMsb => exact ⟨rfl, nofun⟩
  | uninitialized => rw [hstate] at h; cases h
  | readingSrcAddr => rw [hstate] at h; cases h
  | readingPayload => rw [hstate] at h; cases h

/-- Fewer bytes in the ring are less work, whatever the state. -/
theorem work_lt_of_ring {io' : FramingIo} (hless : io'.ring.length < r.io.ring.length)
    (hring : r'.io.ring = io'.ring) (htransport : r'.transport = r.transport) :
    r'.work < r.work := by
  rw [FramedRead.work, FramedRead.work, hring, htransport]
  split <;> split <;> omega

/-- An octet is awaited: it is there, or a flag is there, or bytes are read. -/
theorem awaitOctet_turned (h : r.Listens addr) (hrv : r.rv = 0)
    (hfield : r.io.state.inField = true) (hkeeps : ¬ r.LosesFlag) {maxSize : Nat}
    (hmax : 0 < maxSize) {accept : UInt8 → FramedRead → Bool × FramedRead}
    (haccept : ∀ octet io', io'.RingOk → r.io.RingOnly io' →
      io'.ring.length < r.io.ring.length →
      (receiver addr len).Consumes r.receives r.unread
        ⟨(r.awaited.accept addr len octet).1, false⟩ { r with io := io' }.unread
        (r.awaited.accept addr len octet).2 →
      Turned addr len r (accept octet { r with io := io' })) :
    Turned addr len r (awaitOctet maxSize accept r) := by
  have hnext := getNextOctet_next h.ok
  rw [awaitOctet]
  generalize getNextOctet r.io = result at hnext
  cases hnext with
  | taken used octet io' reads ring ok only =>
    have hless : io'.ring.length < r.io.ring.length := by
      have hpos := reads.length_pos
      rw [ring, List.length_append]
      omega
    refine haccept octet io' ok only hless ⟨used, ?_, run_octet (awaited_inField hfield).2 reads⟩
    rw [FramedRead.unread, ring, List.append_assoc]
    rfl
  | flag used io' reads ring ok only =>
    have hless : io'.ring.length < r.io.ring.length := by
      have hpos := reads.length_pos
      rw [ring, List.length_append]
      omega
    have hroom : io'.ring.length + 1 < framingBufferSize := by
      have hfull : r.io.ring.length < framingBufferSize := by
        rw [FramingIo.ring, ringContents_length]
        exact ringLength_lt h.ok.tail
      omega
    obtain ⟨bytesRead, io'', transport', hread, hwaited, hwork, hsame, hcalls⟩ :=
      @waited_readTransport { r with io := io' } ok maxSize hmax
    dsimp only at hread hcalls
    -- nothing is delivered, or the flag would be lost
    have hzero : bytesRead = 0 := by
      refine Nat.eq_zero_of_not_pos fun hpos => hkeeps ⟨hfield, ?_, (hcalls hroom).2.mp hpos⟩
      exact flagNext_iff.mpr ⟨used, io'.ring, reads, ring⟩
    dsimp only
    rw [if_neg Bool.false_ne_true, hread]
    dsimp only
    rw [if_neg (by omega), if_pos rfl]
    have hwork' : FramedRead.work { r with
        io := { io'' with state := .readingSrcAddr }, transport := transport' } < r.work := by
      have hlast : FramedRead.work { r with io := io' } < r.work :=
        work_lt_of_ring hless rfl rfl
      rw [FramedRead.work] at hwork ⊢
      dsimp only at hwork ⊢
      change 3 * transport'.pending.length + 2 * io''.ring.length + 0 < r.work
      omega
    refine .goesOn _ ⟨⟨⟨hwaited.ok.tail, hwaited.ok.head⟩, ?_, trivial⟩, ⟨used, ?_, run_flag reads⟩,
      hwaited.later, Nat.le_of_lt hwork'⟩ hrv hwork'
    · exact (hwaited.only.localAddr.trans only.localAddr).trans h.localAddr
    · have hunread := hwaited.unread
      change io''.ring ++ transport'.pending = io'.ring ++ r.transport.pending at hunread
      change r.io.ring ++ r.transport.pending = used ++ (io''.ring ++ transport'.pending)
      rw [hunread, ring, List.append_assoc]
  | short ring =>
    have hshort : r.io.ring.length ≤ 1 := by
      rcases ring with h | h <;> rw [h] <;> simp
    obtain ⟨bytesRead, io', transport', hread, hwaited, hwork, hsame, hcalls⟩ :=
      waited_readTransport h.ok hmax
    dsimp only
    rw [if_neg Bool.false_ne_true, hread]
    dsimp only
    have hfollows : Follows addr len r { r with io := io', transport := transport' } [] :=
      hwaited.follows h (by omega)
    split
    · exact .goesOn _ hfollows hrv (by omega)
    · next hzero =>
      rw [if_neg (by decide)]
      refine .leaves _ (hfollows.noMessage hrv) (.inr (.inr ⟨?_, (hcalls (hasRoom hshort)).1⟩))
      have hunread := hwaited.unread
      change io'.ring ++ transport'.pending = r.io.ring ++ r.transport.pending at hunread
      rw [hsame (by omega)] at hunread
      have hring := List.append_cancel_right hunread
      exact ring.imp hring.trans hring.trans

/-! ## The turns, state by state -/

/-- An octet was taken, and what the reader has kept is what the receiver keeps of it. -/
theorem follows_taken {octet : UInt8} {io' : FramingIo} (hlistens : r'.Listens addr)
    (hawaited : r'.awaited = (r.awaited.accept addr len octet).1)
    (hmessages : messages = (r.awaited.accept addr len octet).2)
    (hring : r'.io.ring = io'.ring) (htransport : r'.transport = r.transport)
    (hless : io'.ring.length < r.io.ring.length)
    (hconsumes : (receiver addr len).Consumes r.receives r.unread
      ⟨(r.awaited.accept addr len octet).1, false⟩ { r with io := io' }.unread
      (r.awaited.accept addr len octet).2) :
    Follows addr len r r' messages ∧ r'.work < r.work := by
  have hwork : r'.work < r.work := work_lt_of_ring hless hring htransport
  have hunread : r'.unread = FramedRead.unread { r with io := io' } := by
    rw [FramedRead.unread, FramedRead.unread, hring, htransport]
  have hreceives : r'.receives = ⟨(r.awaited.accept addr len octet).1, false⟩ := by
    rw [FramedRead.receives, hawaited]
  refine ⟨⟨hlistens, ?_, htransport ▸ ReadTransport.Later.refl _, Nat.le_of_lt hwork⟩, hwork⟩
  rw [hreceives, hmessages, hunread]
  exact hconsumes

theorem readDstAddr_turned (h : r.Listens addr) (hrv : r.rv = 0)
    (hstate : r.io.state = .readingDstAddr) (hkeeps : ¬ r.LosesFlag) :
    Turned addr len r (readDstAddr r) := by
  refine awaitOctet_turned h hrv (by rw [hstate]; rfl) hkeeps (by decide)
    fun octet io' hok honly hless hconsumes => ?_
  have haddr := honly.localAddr.trans h.localAddr
  have hsrc : io'.srcAddr = r.io.srcAddr := by
    rw [honly]
  have hawaited : r.awaited = .dstAddr r.io.srcAddr := by
    rw [FramedRead.awaited, hstate]
  have hmessages : (r.awaited.accept addr len octet).2 = [] := by
    rw [hawaited]
    rfl
  dsimp only
  by_cases heq : octet = io'.localAddr
  · rw [if_pos heq]
    obtain ⟨hfollows, hwork⟩ := @follows_taken addr len r
      { r with io := { io' with state := .readingLenLsb } } _ octet io'
      ⟨⟨hok.tail, hok.head⟩, haddr, trivial⟩
      (by
        rw [hawaited, Awaited.accept, if_pos (heq.trans haddr), FramedRead.awaited]
        dsimp only
        rw [hsrc])
      hmessages.symm rfl rfl hless hconsumes
    exact .goesOn _ hfollows hrv hwork
  · rw [if_neg heq]
    obtain ⟨hfollows, hwork⟩ := @follows_taken addr len r
      { r with io := { io' with state := .uninitialized } } _ octet io'
      ⟨⟨hok.tail, hok.head⟩, haddr, trivial⟩
      (by
        rw [hawaited, Awaited.accept, if_neg fun h => heq (h.trans haddr.symm), FramedRead.awaited])
      hmessages.symm rfl rfl hless hconsumes
    exact .goesOn _ hfollows hrv hwork

theorem readLenLsb_turned (h : r.Listens addr) (hrv : r.rv = 0)
    (hstate : r.io.state = .readingLenLsb) (hkeeps : ¬ r.LosesFlag) :
    Turned addr len r (readLenLsb r) := by
  refine awaitOctet_turned h hrv (by rw [hstate]; rfl) hkeeps (by decide)
    fun octet io' hok honly hless hconsumes => ?_
  have hsrc : io'.srcAddr = r.io.srcAddr := by
    rw [honly]
  have hawaited : r.awaited = .lenLsb r.io.srcAddr := by
    rw [FramedRead.awaited, hstate]
  obtain ⟨hfollows, hwork⟩ := @follows_taken addr len r
    { r with io := { io' with msgLen := octet.toUInt16, state := .readingLenMsb } } [] octet io'
    ⟨⟨hok.tail, hok.head⟩, honly.localAddr.trans h.localAddr, trivial⟩
    (by
      rw [hawaited, Awaited.accept, FramedRead.awaited]
      dsimp only
      rw [hsrc])
    (by rw [hawaited]; rfl) rfl rfl hless hconsumes
  exact .goesOn _ hfollows hrv hwork

theorem readLenMsb_turned (h : r.Listens addr) (hrv : r.rv = 0)
    (hstate : r.io.state = .readingLenMsb) (hkeeps : ¬ r.LosesFlag) :
    Turned addr len r (readLenMsb len r) := by
  refine awaitOctet_turned h hrv (by rw [hstate]; rfl) hkeeps (by decide)
    fun octet io' hok honly hless hconsumes => ?_
  have haddr := honly.localAddr.trans h.localAddr
  have hkept : io'.srcAddr = r.io.srcAddr ∧ io'.msgLen = r.io.msgLen := by
    rw [honly]
    exact ⟨rfl, rfl⟩
  obtain ⟨hsrc, hlsb⟩ := hkept
  have hawaited : r.awaited = .lenMsb r.io.srcAddr r.io.msgLen := by
    rw [FramedRead.awaited, hstate]
  dsimp only
  rw [hlsb]
  by_cases hlarge : len < (r.io.msgLen + octet.toUInt16 <<< 8).toNat
  · -- the message does not fit: its frame is skipped
    rw [if_pos hlarge]
    obtain ⟨hfollows, hwork⟩ := @follows_taken addr len r
      { r with io := { io' with
        msgLen := r.io.msgLen + octet.toUInt16 <<< 8, msgPos := 0, cmpCrc := 0
        state := .uninitialized } }
      [] octet io' ⟨⟨hok.tail, hok.head⟩, haddr, trivial⟩
      (by rw [hawaited, Awaited.accept, if_pos hlarge]; rfl)
      (by rw [hawaited]; rfl) rfl rfl hless hconsumes
    exact .leaves _ (hfollows.noMessage hrv) (.inl hwork)
  · rw [if_neg hlarge]
    obtain ⟨hfollows, hwork⟩ := @follows_taken addr len r
      { r with io := { io' with
        msgLen := r.io.msgLen + octet.toUInt16 <<< 8, msgPos := 0, cmpCrc := 0
        state := .readingPayload } }
      [] octet io' ⟨⟨hok.tail, hok.head⟩, haddr, ⟨Nat.zero_le _, rfl⟩⟩
      (by
        rw [hawaited, Awaited.accept, if_neg hlarge, FramedRead.awaited]
        dsimp only
        rw [hsrc]
        rfl)
      (by rw [hawaited]; rfl) rfl rfl hless hconsumes
    exact .goesOn _ hfollows hrv hwork

theorem readCrcLsb_turned (h : r.Listens addr) (hrv : r.rv = 0)
    (hstate : r.io.state = .readingCrcLsb) (hkeeps : ¬ r.LosesFlag) :
    Turned addr len r (readCrcLsb r) := by
  refine awaitOctet_turned h hrv (by rw [hstate]; rfl) hkeeps (by decide)
    fun octet io' hok honly hless hconsumes => ?_
  have hkept : io'.srcAddr = r.io.srcAddr ∧ io'.msgLen = r.io.msgLen ∧
      io'.cmpCrc = r.io.cmpCrc := by
    rw [honly]
    exact ⟨rfl, rfl, rfl⟩
  obtain ⟨hsrc, hlength, hcrc⟩ := hkept
  have hchecked := h.checked
  rw [FramedRead.Checked, hstate] at hchecked
  have hawaited : r.awaited = .crcLsb r.io.srcAddr (read r.buf 0 r.io.msgLen.toNat) := by
    rw [FramedRead.awaited, hstate]
  obtain ⟨hfollows, hwork⟩ := @follows_taken addr len r
    { r with io := { io' with msgCrc := octet.toUInt16, state := .readingCrcMsb } } [] octet io'
    ⟨⟨hok.tail, hok.head⟩, honly.localAddr.trans h.localAddr, by
      rw [FramedRead.Checked]
      dsimp only
      rw [hcrc, hlength]
      exact hchecked⟩
    (by
      rw [hawaited, Awaited.accept, FramedRead.awaited]
      dsimp only
      rw [hsrc, hlength])
    (by rw [hawaited]; rfl) rfl rfl hless hconsumes
  exact .goesOn _ hfollows hrv hwork

theorem readCrcMsb_turned (h : r.Listens addr) (hrv : r.rv = 0)
    (hstate : r.io.state = .readingCrcMsb) (hkeeps : ¬ r.LosesFlag) :
    Turned addr len r (readCrcMsb r) := by
  refine awaitOctet_turned h hrv (by rw [hstate]; rfl) hkeeps (by decide)
    fun octet io' hok honly hless hconsumes => ?_
  have haddr := honly.localAddr.trans h.localAddr
  have hkept : io'.srcAddr = r.io.srcAddr ∧ io'.msgLen = r.io.msgLen ∧
      io'.cmpCrc = r.io.cmpCrc ∧ io'.msgCrc = r.io.msgCrc := by
    rw [honly]
    exact ⟨rfl, rfl, rfl, rfl⟩
  obtain ⟨hsrc, hlength, hcrc, hlsb⟩ := hkept
  have hchecked := h.checked
  rw [FramedRead.Checked, hstate] at hchecked
  have hawaited : r.awaited =
      .crcMsb r.io.srcAddr (read r.buf 0 r.io.msgLen.toNat) r.io.msgCrc := by
    rw [FramedRead.awaited, hstate]
  have hnonempty : read r.buf 0 r.io.msgLen.toNat ≠ [] ↔ r.io.msgLen.toNat ≠ 0 := by
    rw [← List.length_pos_iff, read_length, Nat.pos_iff_ne_zero]
  dsimp only
  rw [hcrc, hlsb]
  by_cases hright : r.io.cmpCrc = r.io.msgCrc + octet.toUInt16 <<< 8
  · rw [if_pos hright]
    obtain ⟨r', hr'⟩ : ∃ r', r' = FramedRead.mk
        { io' with
          msgCrc := r.io.msgCrc + octet.toUInt16 <<< 8, cmpCrc := r.io.cmpCrc
          state := .uninitialized }
        r.transport r.buf io'.srcAddr io'.msgLen.toNat := ⟨_, rfl⟩
    have hmessage : r'.message = (r.awaited.accept addr len octet).2 := by
      rw [hawaited, Awaited.accept, hr', FramedRead.message]
      dsimp only
      rw [hsrc, hlength]
      by_cases hempty : r.io.msgLen.toNat = 0
      · rw [if_neg (not_not.mpr hempty), if_neg fun hboth => hnonempty.mp hboth.1 hempty]
      · rw [if_pos hempty, if_pos ⟨hnonempty.mpr hempty, hchecked.symm.trans hright⟩]
    have hlistens : r'.Listens addr := by
      rw [hr']
      exact ⟨⟨hok.tail, hok.head⟩, haddr, trivial⟩
    obtain ⟨hfollows, hwork⟩ := follows_taken hlistens (by rw [hawaited, hr']; rfl) hmessage
      (by rw [hr']; rfl) (by rw [hr']) hless hconsumes
    rw [hr'] at hfollows hwork
    exact .leaves _ hfollows (.inl hwork)
  · rw [if_neg hright]
    have hmessages : (r.awaited.accept addr len octet).2 = [] := by
      rw [hawaited, Awaited.accept]
      exact if_neg fun hboth => hright (hchecked.trans hboth.2)
    obtain ⟨hfollows, hwork⟩ := @follows_taken addr len r
      { r with
        io := { io' with
          msgCrc := r.io.msgCrc + octet.toUInt16 <<< 8, cmpCrc := r.io.cmpCrc
          state := .uninitialized } }
      _ octet io' ⟨⟨hok.tail, hok.head⟩, haddr, trivial⟩
      (by rw [hawaited]; rfl) hmessages.symm rfl rfl hless hconsumes
    exact .leaves _ (hfollows.noMessage hrv) (.inl hwork)

theorem readSrcAddr_turned (h : r.Listens addr) (hrv : r.rv = 0)
    (hstate : r.io.state = .readingSrcAddr) : Turned addr len r (readSrcAddr r) := by
  have hnext := getNextOctet_next h.ok
  have hawaited : r.awaited = .srcAddr := by
    rw [FramedRead.awaited, hstate]
  rw [readSrcAddr]
  generalize getNextOctet r.io = result at hnext
  cases hnext with
  | taken used octet io' reads ring ok only =>
    have hless : io'.ring.length < r.io.ring.length := by
      have hpos := reads.length_pos
      rw [ring, List.length_append]
      omega
    have hne : r.awaited ≠ .beginFlag := by
      rw [hawaited]
      rintro ⟨⟩
    -- the octet is the address, and the other one is awaited
    obtain ⟨hfollows, hwork⟩ := @follows_taken addr len r
      { r with io := { io' with srcAddr := octet, state := .readingDstAddr } } [] octet io'
      ⟨⟨ok.tail, ok.head⟩, only.localAddr.trans h.localAddr, trivial⟩ (by rw [hawaited]; rfl)
      (by rw [hawaited]; rfl) rfl rfl hless ⟨used, by
        rw [FramedRead.unread, ring, List.append_assoc]
        rfl, run_octet hne reads⟩
    exact .goesOn _ hfollows hrv hwork
  | flag used io' reads ring ok only =>
    -- the next frame has begun: what is awaited stays the same
    have hless : io'.ring.length < r.io.ring.length := by
      have hpos := reads.length_pos
      rw [ring, List.length_append]
      omega
    have hstate' : io'.state = .readingSrcAddr := by
      rw [only]
      exact hstate
    have hworkFirst : FramedRead.work { r with io := { io' with srcAddr := framingBeginFlag } } <
        r.work := work_lt_of_ring hless rfl rfl
    have hfirst : Follows addr len r
        { r with io := { io' with srcAddr := framingBeginFlag } } [] := by
      refine ⟨⟨⟨ok.tail, ok.head⟩, only.localAddr.trans h.localAddr, ?_⟩, ⟨used, ?_, ?_⟩, .refl _,
        Nat.le_of_lt hworkFirst⟩
      · rw [FramedRead.Checked]
        dsimp only
        rw [hstate']
        trivial
      · rw [FramedRead.unread, ring, List.append_assoc]
        rfl
      · rw [FramedRead.receives, run_flag reads, FramedRead.receives, FramedRead.awaited]
        dsimp only
        rw [hstate']
    obtain ⟨bytesRead, io'', transport', hread, hwaited, hwork, -, -⟩ :=
      waited_readTransport hfirst.listens.ok (show 0 < 4 by decide)
    have hfollows := hfirst.trans (@Waited.follows addr len _ _ hwaited hfirst.listens (by omega))
    have hsrc : io''.srcAddr = framingBeginFlag := by
      have honly : io'' = { io' with
          srcAddr := framingBeginFlag, rb := io''.rb, rbHead := io''.rbHead
          rbTail := io''.rbTail } := hwaited.only
      rw [honly]
    dsimp only at hread ⊢
    rw [if_neg Bool.false_ne_true, hread]
    dsimp only
    rw [hsrc, decide_eq_false (not_not.mpr rfl), ite_self]
    have hworkLast : FramedRead.work { r with io := io'', transport := transport' } + bytesRead =
      FramedRead.work { r with io := { io' with srcAddr := framingBeginFlag } } := hwork
    exact .goesOn _ hfollows hrv (by omega)
  | short ring =>
    have hshort : r.io.ring.length ≤ 1 := by
      rcases ring with h | h <;> rw [h] <;> simp
    have hfirst : Follows addr len r { r with io := { r.io with srcAddr := 0 } } [] := by
      refine ⟨⟨⟨h.ok.tail, h.ok.head⟩, h.localAddr, ?_⟩, ⟨[], rfl, ?_⟩, .refl _, Nat.le_refl _⟩
      · rw [FramedRead.Checked]
        dsimp only
        rw [hstate]
        trivial
      · rw [FramedRead.receives, hawaited, FramedRead.receives, FramedRead.awaited]
        dsimp only
        rw [hstate]
        rfl
    obtain ⟨bytesRead, io', transport', hread, hwaited, hwork, hsame, hcalls⟩ :=
      waited_readTransport hfirst.listens.ok (show 0 < 4 by decide)
    have hfollows := hfirst.trans (@Waited.follows addr len _ _ hwaited hfirst.listens (by omega))
    have hsrc : io'.srcAddr = 0 := by
      have honly : io' = { r.io with
          srcAddr := 0, rb := io'.rb, rbHead := io'.rbHead, rbTail := io'.rbTail } := hwaited.only
      rw [honly]
    have hworkLast : FramedRead.work { r with io := io', transport := transport' } + bytesRead =
      r.work := hwork
    dsimp only at hread ⊢
    rw [if_neg Bool.false_ne_true, hread]
    dsimp only
    rw [hsrc]
    split
    · exact .goesOn _ hfollows hrv (by omega)
    · next hzero =>
      rw [decide_eq_true (by decide)]
      refine .leaves _ (hfollows.noMessage hrv) (.inr (.inr ⟨?_, (hcalls (hasRoom hshort)).1⟩))
      have hunread := hwaited.unread
      change io'.ring ++ transport'.pending = r.io.ring ++ r.transport.pending at hunread
      rw [hsame (by omega)] at hunread
      have hring := List.append_cancel_right hunread
      exact ring.imp hring.trans hring.trans

/-! ### The payload -/

/-- What the loop over the payload may come to: the receiver is where the reader is, who has all of
it or finds no more in the ring; or a flag was taken. -/
inductive PayloadTurn (addr : UInt8) (len : Nat) (io : FramingIo) (buf : Memory)
    (pending : List UInt8) : UInt8 × FramingIo × Memory → Prop
  | taken (octet : UInt8) (io' : FramingIo) (buf' : Memory)
      (consumes : (receiver addr len).Consumes
        ⟨.ofPayload io.srcAddr io.msgLen.toNat (read buf 0 io.msgPos.toNat), false⟩
        (io.ring ++ pending)
        ⟨.ofPayload io.srcAddr io.msgLen.toNat (read buf' 0 io'.msgPos.toNat), false⟩
        (io'.ring ++ pending) [])
      (pos : io'.msgPos.toNat ≤ io.msgLen.toNat)
      (crc : io'.cmpCrc = crcOf (read buf' 0 io'.msgPos.toNat))
      (ends : io'.msgPos ≠ io.msgLen →
        octet = 0 ∧ (io'.ring = [] ∨ io'.ring = [framingEscFlag])) :
      PayloadTurn addr len io buf pending (octet, io', buf')
  | flag (io' : FramingIo) (buf' : Memory)
      (consumes : (receiver addr len).Consumes
        ⟨.ofPayload io.srcAddr io.msgLen.toNat (read buf 0 io.msgPos.toNat), false⟩
        (io.ring ++ pending) ⟨.srcAddr, false⟩ (io'.ring ++ pending) [])
      (more : io'.msgPos ≠ io.msgLen) :
      PayloadTurn addr len io buf pending (framingBeginFlag, io', buf')

theorem takePayload_turn {n : Nat} {octet : UInt8} {io : FramingIo} {buf : Memory}
    (pending : List UInt8) (hok : io.RingOk) (hn : io.msgPos.toNat + n = io.msgLen.toNat)
    (hcrc : io.cmpCrc = crcOf (read buf 0 io.msgPos.toNat)) :
    ∃ octet' io' buf', takePayload n octet io buf = (octet', io', buf') ∧
      PayloadTurn addr len io buf pending (octet', io', buf') ∧ io'.RingOk ∧
      PayloadOnly io io' ∧ io'.ring.length ≤ io.ring.length := by
  -- by induction on the octets that are still missing
  induction n generalizing octet io buf with
  | zero =>
    refine ⟨octet, io, buf, rfl, ?_, hok, rfl, Nat.le_refl _⟩
    refine .taken _ _ _ (.refl _ _) (by omega) hcrc fun hne => absurd ?_ hne
    exact UInt16.toNat_inj.mp (by omega)
  | succ n ih =>
    have hne : io.msgPos ≠ io.msgLen := by
      rintro heq
      rw [heq] at hn
      omega
    have hmore : (read buf 0 io.msgPos.toNat).length < io.msgLen.toNat := by
      rw [read_length]
      omega
    have hnext := getNextOctet_next hok
    rw [takePayload]
    generalize getNextOctet io = result at hnext
    cases hnext with
    | short ring =>
      refine ⟨0, io, buf, rfl, ?_, hok, rfl, Nat.le_refl _⟩
      exact .taken _ _ _ (.refl _ _) (by omega) hcrc fun _ => ⟨rfl, ring⟩
    | flag used io' reads ring ok only =>
      have hpos : io'.msgPos = io.msgPos := by
        rw [only]
      have hless : io'.ring.length ≤ io.ring.length := by
        rw [ring, List.length_append]
        exact Nat.le_add_left _ _
      refine ⟨framingBeginFlag, io', buf, rfl, ?_, ok, ?_, hless⟩
      · refine .flag _ _ ⟨used, ?_, run_flag reads⟩ (hpos ▸ hne)
        rw [ring, List.append_assoc]
      · rw [PayloadOnly, only]
    | taken used octet io₁ reads ring ok only =>
      have hkept : io₁.msgPos = io.msgPos ∧ io₁.msgLen = io.msgLen ∧
          io₁.srcAddr = io.srcAddr ∧ io₁.cmpCrc = io.cmpCrc := by
        rw [only]
        exact ⟨rfl, rfl, rfl, rfl⟩
      obtain ⟨hpos₁, hlen₁, hsrc₁, hcrc₁⟩ := hkept
      have hless₁ : io₁.ring.length ≤ io.ring.length := by
        rw [ring, List.length_append]
        exact Nat.le_add_left _ _
      -- the octet goes behind the others, and the checksum goes on with it
      obtain ⟨io₂, hio₂⟩ : ∃ io₂, io₂ = { io₁ with
        msgPos := io₁.msgPos + 1, cmpCrc := updateCrc io₁.cmpCrc octet } := ⟨_, rfl⟩
      have hring₂ : io₂.ring = io₁.ring := by
        rw [hio₂]
        rfl
      have hpos₂ : io₂.msgPos.toNat = io.msgPos.toNat + 1 := by
        have hlt := io.msgLen.toNat_lt
        rw [hio₂, hpos₁, UInt16.toNat_add]
        exact Nat.mod_eq_of_lt (by simp only [UInt16.reduceToNat]; omega)
      have hread₂ : read (write buf io₁.msgPos.toNat [octet]) 0 io₂.msgPos.toNat =
          read buf 0 io.msgPos.toNat ++ [octet] := by
        rw [hpos₁, hpos₂]
        exact read_write_behind buf io.msgPos.toNat [octet]
      have hcrc₂ : io₂.cmpCrc =
          crcOf (read (write buf io₁.msgPos.toNat [octet]) 0 io₂.msgPos.toNat) := by
        rw [hread₂, crcOf, List.foldl_append, hio₂]
        dsimp only
        rw [hcrc₁, hcrc]
        rfl
      have hfields : io₂.msgLen = io.msgLen ∧ io₂.srcAddr = io.srcAddr := by
        rw [hio₂]
        exact ⟨hlen₁, hsrc₁⟩
      have hfirst : (receiver addr len).Consumes
          ⟨.ofPayload io.srcAddr io.msgLen.toNat (read buf 0 io.msgPos.toNat), false⟩
          (io.ring ++ pending)
          ⟨.ofPayload io₂.srcAddr io₂.msgLen.toNat
            (read (write buf io₁.msgPos.toNat [octet]) 0 io₂.msgPos.toNat), false⟩
          (io₂.ring ++ pending) [] := by
        refine ⟨used, by rw [ring, hring₂, List.append_assoc], ?_⟩
        rw [hread₂, hfields.1, hfields.2, Awaited.ofPayload, if_pos hmore]
        exact run_octet (a := .payload ..) (by rintro ⟨⟩) reads
      obtain ⟨octet', io', buf', heq, hturn, hok', honly', hless'⟩ :=
        @ih octet io₂ (write buf io₁.msgPos.toNat [octet]) (by rw [hio₂]; exact ⟨ok.tail, ok.head⟩)
          (by rw [hpos₂, hfields.1]; omega) hcrc₂
      refine ⟨octet', io', buf', ?_, ?_, hok', ?_, ?_⟩
      · rw [← heq, hio₂]
        rfl
      · -- the other octets, behind this one
        cases hturn with
        | taken _ _ _ consumes pos crc ends =>
          rw [hfields.1] at pos ends
          refine .taken _ _ _ ?_ pos crc ends
          have hboth := hfirst.trans consumes
          rwa [hfields.1, hfields.2] at hboth
        | flag _ _ consumes more =>
          rw [hfields.1] at more
          exact .flag _ _ (hfirst.trans consumes) more
      · rw [PayloadOnly] at honly' ⊢
        rw [honly', hio₂, only]
      · rw [hring₂] at hless'
        omega

theorem readPayload_turned (h : r.Listens addr) (hrv : r.rv = 0)
    (hstate : r.io.state = .readingPayload) : Turned addr len r (readPayload r) := by
  have hchecked := h.checked
  rw [FramedRead.Checked, hstate] at hchecked
  obtain ⟨hpos, hcrc⟩ := hchecked
  have hreceives : r.receives =
      ⟨.ofPayload r.io.srcAddr r.io.msgLen.toNat (read r.buf 0 r.io.msgPos.toNat), false⟩ := by
    rw [FramedRead.receives, FramedRead.awaited, hstate]
  obtain ⟨octet, io', buf', htake, hturn, hok, honly, hless⟩ :=
    @takePayload_turn addr len (r.io.msgLen.toNat - r.io.msgPos.toNat) 0 r.io r.buf
      r.transport.pending h.ok (by omega) hcrc
  have hfields : io'.localAddr = r.io.localAddr ∧ io'.srcAddr = r.io.srcAddr ∧
      io'.msgLen = r.io.msgLen ∧ io'.state = .readingPayload := by
    rw [honly]
    exact ⟨rfl, rfl, rfl, hstate⟩
  obtain ⟨haddr', hsrc', hlen', hstate'⟩ := hfields
  have hwork (io'' : FramingIo) (hring : io''.ring = io'.ring)
      (hleaves : io''.state ≠ .readingPayload) :
      FramedRead.work { r with io := io'', buf := buf' } < r.work := by
    rw [FramedRead.work, FramedRead.work, hstate, if_pos rfl]
    dsimp only
    rw [if_neg hleaves, hring]
    omega
  rw [readPayload, htake]
  dsimp only
  rw [hlen']
  cases hturn with
  | flag _ _ consumes more =>
    -- a flag in the payload: the next frame has begun
    rw [if_neg more, if_pos rfl]
    have hwork' := hwork { io' with state := .readingSrcAddr } rfl (by rintro ⟨⟩)
    rw [← hreceives] at consumes
    refine .goesOn _ ⟨⟨⟨hok.tail, hok.head⟩, haddr'.trans h.localAddr, trivial⟩, consumes, .refl _,
      Nat.le_of_lt hwork'⟩ hrv hwork'
  | taken _ _ _ consumes pos crc ends =>
    rw [← hreceives] at consumes
    by_cases hall : io'.msgPos = r.io.msgLen
    · -- the payload is complete
      rw [if_pos hall]
      have hwork' := hwork { io' with state := .readingCrcLsb } rfl (by rintro ⟨⟩)
      refine .goesOn _ ⟨⟨⟨hok.tail, hok.head⟩, haddr'.trans h.localAddr, ?_⟩, ?_, .refl _,
        Nat.le_of_lt hwork'⟩ hrv hwork'
      · rw [FramedRead.Checked]
        dsimp only
        rw [← hall]
        exact crc
      · have hcomplete : Awaited.ofPayload r.io.srcAddr r.io.msgLen.toNat
            (read buf' 0 io'.msgPos.toNat) =
            .crcLsb r.io.srcAddr (read buf' 0 r.io.msgLen.toNat) := by
          rw [Awaited.ofPayload, read_length, hall, if_neg (Nat.lt_irrefl _)]
        rw [hcomplete, ← hsrc'] at consumes
        exact consumes
    · -- the ring ran out, and the transport is asked for more
      obtain ⟨rfl, hstarved⟩ := ends hall
      have hshort : io'.ring.length ≤ 1 := by
        rcases hstarved with h | h <;> rw [h] <;> simp
      have hfirst : Follows addr len r { r with io := io', buf := buf' } [] := by
        refine ⟨⟨hok, haddr'.trans h.localAddr, ?_⟩, ?_, .refl _, ?_⟩
        · rw [FramedRead.Checked]
          dsimp only
          rw [hstate', hlen']
          exact ⟨pos, crc⟩
        · have hawaited : FramedRead.receives { r with io := io', buf := buf' } =
              ⟨.ofPayload r.io.srcAddr r.io.msgLen.toNat (read buf' 0 io'.msgPos.toNat),
                false⟩ := by
            rw [FramedRead.receives, FramedRead.awaited]
            dsimp only
            rw [hstate', hsrc', hlen']
          rw [hawaited]
          exact consumes
        · rw [FramedRead.work, FramedRead.work, hstate]
          dsimp only
          rw [hstate']
          omega
      rw [if_neg hall, if_neg (by decide)]
      obtain ⟨bytesRead, io'', transport', hread, hwaited, hworkRead, hsame, hcalls⟩ :=
        waited_readTransport hfirst.listens.ok
          (show 0 < r.io.msgLen.toNat - io'.msgPos.toNat + 2 by omega)
      have hfollows := hfirst.trans (@Waited.follows addr len _ _ hwaited hfirst.listens (by omega))
      have hworkFirst := hfirst.work
      have hworkLast : FramedRead.work
          { r with io := io'', transport := transport', buf := buf' } + bytesRead =
        FramedRead.work { r with io := io', buf := buf' } := hworkRead
      dsimp only at hread
      rw [hread]
      dsimp only
      split
      · exact .goesOn _ hfollows hrv (by omega)
      · -- nothing came
        next hzero =>
        refine .leaves _ (hfollows.noMessage hrv) (.inr (.inr ⟨?_, (hcalls (hasRoom hshort)).1⟩))
        have hunread := hwaited.unread
        change io''.ring ++ transport'.pending = io'.ring ++ r.transport.pending at hunread
        rw [hsame (by omega)] at hunread
        have hring := List.append_cancel_right hunread
        exact hstarved.imp hring.trans hring.trans

/-! ### Outside a frame -/

theorem readUninitialized_turned (h : r.Listens addr) (hrv : r.rv = 0)
    (hstate : r.io.state = .uninitialized) : Turned addr len r (readUninitialized r) := by
  have hfuel : r.io.ring.length ≤ framingBufferSize := by
    rw [FramingIo.ring, ringContents_length]
    exact Nat.le_of_lt (ringLength_lt h.ok.tail)
  have hreceives : r.receives = ⟨.beginFlag, false⟩ := by
    rw [FramedRead.receives, FramedRead.awaited, hstate]
  rcases skipToBegin_spec h.ok (by decide : framingBeginFlag ≠ 0) hfuel with
    ⟨skipped, io', hsplit, hskipped, heq, hok, honly⟩ |
    ⟨octet, io', hnone, heq, hoctet, hok, honly, hempty⟩
  · have hless : io'.ring.length < r.io.ring.length := by
      rw [hsplit, List.length_append, List.length_cons]
      omega
    have hwork : FramedRead.work { r with io := { io' with state := .readingSrcAddr } } < r.work :=
      work_lt_of_ring hless rfl rfl
    rw [readUninitialized, heq]
    refine .goesOn _ ⟨⟨⟨hok.tail, hok.head⟩, honly.localAddr.trans h.localAddr, trivial⟩,
      ⟨skipped ++ [framingBeginFlag], ?_, ?_⟩, .refl _, Nat.le_of_lt hwork⟩ hrv hwork
    · rw [FramedRead.unread, hsplit, List.append_assoc, List.append_assoc]
      rfl
    · rw [hreceives, Transducer.run_append, run_skipped hskipped, Transducer.run_singleton,
        receiver_resetsAt]
      rfl
  · have hstate' : io'.state = .uninitialized := by
      rw [honly]
      exact hstate
    have hreceives' : FramedRead.receives { r with io := io' } = ⟨.beginFlag, false⟩ := by
      rw [FramedRead.receives, FramedRead.awaited]
      dsimp only
      rw [hstate']
    have hwork : FramedRead.work { r with io := io' } + 2 * r.io.ring.length = r.work := by
      rw [FramedRead.work, FramedRead.work, hstate]
      dsimp only
      rw [hstate', hempty, List.length_nil]
      omega
    have hfollows : Follows addr len r { r with io := io' } [] := by
      refine ⟨⟨hok, honly.localAddr.trans h.localAddr, ?_⟩, ⟨r.io.ring, ?_, ?_⟩, .refl _, by omega⟩
      · rw [FramedRead.Checked]
        dsimp only
        rw [hstate']
        trivial
      · rw [FramedRead.unread, FramedRead.unread, hempty, List.nil_append]
      · rw [hreceives, hreceives', run_skipped hnone]
    rw [readUninitialized, heq]
    dsimp only
    rw [if_neg hoctet]
    refine .leaves _ (hfollows.noMessage hrv) ?_
    rcases Nat.eq_zero_or_pos r.io.ring.length with hzero | hpos
    · exact .inr (.inl (List.length_eq_zero_iff.mp hzero))
    · exact .inl (by omega)

/-- A turn that loses no flag does what the receiver does. -/
theorem readTurn_turned (h : r.Listens addr) (hrv : r.rv = 0) (hkeeps : ¬ r.LosesFlag) :
    Turned addr len r (readTurn len r) := by
  rw [readTurn]
  cases hstate : r.io.state with
  | uninitialized => exact readUninitialized_turned h hrv hstate
  | readingSrcAddr => exact readSrcAddr_turned h hrv hstate
  | readingDstAddr => exact readDstAddr_turned h hrv hstate hkeeps
  | readingLenLsb => exact readLenLsb_turned h hrv hstate hkeeps
  | readingLenMsb => exact readLenMsb_turned h hrv hstate hkeeps
  | readingPayload => exact readPayload_turned h hrv hstate
  | readingCrcLsb => exact readCrcLsb_turned h hrv hstate hkeeps
  | readingCrcMsb => exact readCrcMsb_turned h hrv hstate hkeeps

/-! ## A turn that loses a flag -/

theorem getNextOctet_flag {io : FramingIo} (h : io.RingOk) (hflag : io.FlagNext) :
    ∃ used io', getNextOctet io = (false, framingBeginFlag, io') ∧ framing.Reads used none ∧
      io.ring = used ++ io'.ring ∧ io'.RingOk ∧ io.RingOnly io' := by
  have hnext := getNextOctet_next h
  generalize getNextOctet io = result at hnext
  rw [FlagNext] at hflag
  cases hnext with
  | flag used io' reads ring ok only => exact ⟨used, io', rfl, reads, ring, ok, only⟩
  | short ring =>
    rcases ring with hring | hring <;> rw [hring] at hflag
    · rcases hflag with hflag | hflag <;> cases hflag
    · rcases hflag with hflag | hflag
      · exact absurd hflag (by decide)
      · exact absurd hflag (by decide)
  | taken used octet io' reads ring ok only =>
    rw [ring] at hflag
    cases reads with
    | plain _ hbegin hesc =>
      rcases hflag with hflag | hflag
      · exact absurd (List.cons.inj hflag).1 hbegin
      · exact absurd (List.cons.inj hflag).1 hesc
    | masked b hbegin =>
      rcases hflag with hflag | hflag
      · exact absurd (List.cons.inj hflag).1 framing.esc_ne_begin
      · exact absurd (List.cons.inj (List.cons.inj hflag).2).1 hbegin

theorem awaitOctet_loses (h : r.Listens addr) (hloses : r.LosesFlag) {maxSize : Nat}
    (hmax : 0 < maxSize) (accept : UInt8 → FramedRead → Bool × FramedRead) :
    ∃ used r', awaitOctet maxSize accept r = (false, r') ∧ framing.Reads used none ∧
      r.unread = used ++ r'.unread ∧ r'.receives = r.receives ∧ r'.Listens addr ∧
      r'.rv = r.rv := by
  obtain ⟨hfield, hflag, hdelivers⟩ := hloses
  obtain ⟨used, io', heq, hreads, hring, hok, honly⟩ := getNextOctet_flag h.ok hflag
  have hroom : io'.ring.length + 1 < framingBufferSize := by
    have hfull : r.io.ring.length < framingBufferSize := by
      rw [FramingIo.ring, ringContents_length]
      exact ringLength_lt h.ok.tail
    have hpos := hreads.length_pos
    rw [hring, List.length_append] at hfull
    omega
  obtain ⟨bytesRead, io'', transport', hread, hwaited, -, -, hcalls⟩ :=
    @waited_readTransport { r with io := io' } hok maxSize hmax
  dsimp only at hread hcalls
  have hboth : r.io.RingOnly io'' := honly.trans hwaited.only
  refine ⟨used, { r with io := io'', transport := transport' }, ?_, hreads, ?_, ?_,
    ⟨hwaited.ok, hboth.localAddr.trans h.localAddr, ?_⟩, rfl⟩
  · rw [awaitOctet, heq]
    dsimp only
    rw [if_neg Bool.false_ne_true, hread]
    dsimp only
    rw [if_pos ((hcalls hroom).2.mpr hdelivers)]
  · have hunread := hwaited.unread
    change io''.ring ++ transport'.pending = io'.ring ++ r.transport.pending at hunread
    change r.io.ring ++ r.transport.pending = used ++ (io''.ring ++ transport'.pending)
    rw [hunread, hring, List.append_assoc]
  · rw [FramedRead.receives, FramedRead.receives, FramedRead.awaited, hboth]
    rfl
  · have hchecked := h.checked
    rw [FramedRead.Checked] at hchecked ⊢
    rw [hboth]
    exact hchecked

/-- The flag is taken and nothing comes of it. -/
theorem readTurn_loses (h : r.Listens addr) (hloses : r.LosesFlag) :
    ∃ used r', readTurn len r = (false, r') ∧ framing.Reads used none ∧
      r.unread = used ++ r'.unread ∧ r'.receives = r.receives ∧ r'.Listens addr ∧
      r'.rv = r.rv := by
  rw [readTurn]
  have hfield := hloses.1
  cases hstate : r.io.state with
  | readingDstAddr => exact awaitOctet_loses h hloses (by decide) _
  | readingLenLsb => exact awaitOctet_loses h hloses (by decide) _
  | readingLenMsb => exact awaitOctet_loses h hloses (by decide) _
  | readingCrcLsb => exact awaitOctet_loses h hloses (by decide) _
  | readingCrcMsb => exact awaitOctet_loses h hloses (by decide) _
  | uninitialized => rw [hstate] at hfield; cases hfield
  | readingSrcAddr => rw [hstate] at hfield; cases hfield
  | readingPayload => rw [hstate] at hfield; cases hfield

/-- A turn does what the receiver does exactly if it loses no flag. -/
theorem readTurn_follows_iff (h : r.Listens addr) (hrv : r.rv = 0) :
    (∃ messages, Follows addr len r (readTurn len r).2 messages) ↔ ¬ r.LosesFlag := by
  constructor
  · rintro ⟨messages, hfollows⟩ hloses
    obtain ⟨used, r', heq, hreads, hunread, hsame, -⟩ := @readTurn_loses addr len r h hloses
    rw [heq] at hfollows
    obtain ⟨used', hunread', hrun⟩ := hfollows.consumes
    have hused : used' = used := List.append_cancel_right (hunread'.symm.trans hunread)
    rw [hused, FramedRead.receives, run_flag hreads, hsame] at hrun
    have hawaited : Awaited.srcAddr = r.awaited := congrArg (·.1.awaited) hrun
    have hfield := (awaited_inField hloses.1).1
    rw [← hawaited] at hfield
    cases hfield
  · intro hkeeps
    have hturned := @readTurn_turned addr len r h hrv hkeeps
    generalize readTurn len r = result at hturned
    cases hturned with
    | goesOn r' follows => exact ⟨_, follows⟩
    | leaves r' follows => exact ⟨_, follows⟩

end

end XrceClient
