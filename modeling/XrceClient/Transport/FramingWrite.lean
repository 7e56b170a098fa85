import XrceClient.Transport.Framing

/-!
# What is written for a message

`writeFramedMsg` writes the frame of its message, however the write callback splits it up:
the flag, and behind it the stuffed header, payload and checksum.

- `Frame`: a message with its addresses; `Frame.bytes`, its bytes on the line.
- `Buffered`: the bytes written so far, and those in the write buffer.
- `writeFramedMsg_writes`: the whole frame is written.
-/

namespace XrceClient

open ByteMemory

/-- The stuffing of the framing protocol. -/
def framing : Stuffing where
  beginFlag := framingBeginFlag
  escFlag := framingEscFlag
  xorFlag := framingXorFlag
  esc_ne_begin := by decide
  masked_ne_begin := by
    rintro b (rfl | rfl) <;> decide

/-- The checksum of a payload. -/
def crcOf (payload : List UInt8) : UInt16 := payload.foldl updateCrc 0

/-- A message and its addresses. -/
structure MsgFrame where
  srcAddr : UInt8
  dstAddr : UInt8
  payload : List UInt8

namespace MsgFrame

variable (frame : MsgFrame)

/-- The octets of the header. -/
def header : List UInt8 :=
  [frame.srcAddr, frame.dstAddr, UInt8.ofNat frame.payload.length,
    UInt8.ofNat (frame.payload.length / 256)]

/-- The octets of the checksum. -/
def checksum : List UInt8 := [(crcOf frame.payload).toUInt8, (crcOf frame.payload >>> 8).toUInt8]

/-- The bytes of a frame on the line. -/
def bytes : List UInt8 :=
  framingBeginFlag :: framing.stuff (frame.header ++ frame.payload ++ frame.checksum)

end MsgFrame

/-! ## The write buffer -/

/-- `bs` was handed to the writer, and is written or stands in the buffer. -/
structure Buffered (addr : UInt8) (io : FramingIo) (transport : WriteTransport)
    (bs : List UInt8) : Prop where
  addr : io.localAddr = addr
  pos : io.wbPos ≤ framingBufferSize
  bytes : transport.written ++ read io.wb 0 io.wbPos = bs

section

variable {addr : UInt8} {io : FramingIo} {transport : WriteTransport} {bs : List UInt8}

/-- Bytes behind the others. -/
theorem read_write_behind (m : Memory) (n : Nat) (bs : List UInt8) :
    read (write m n bs) 0 (n + bs.length) = read m 0 n ++ bs := by
  rw [read_append, Nat.zero_add, read_write_self, read_write_disjoint m (.inl (by omega))]

theorem stuffOctet_special {octet : UInt8}
    (h : framingBeginFlag = octet ∨ framingEscFlag = octet) :
    framing.stuffOctet octet = [framingEscFlag, octet ^^^ framingXorFlag] :=
  if_pos (h.imp Eq.symm Eq.symm)

theorem stuffOctet_plain {octet : UInt8}
    (h : ¬ (framingBeginFlag = octet ∨ framingEscFlag = octet)) :
    framing.stuffOctet octet = [octet] :=
  if_neg (mt (Or.imp Eq.symm Eq.symm) h)

/-- An octet is put behind the others, or the buffer has no room for it. -/
theorem addNextOctet_cases (hpos : io.wbPos ≤ framingBufferSize) (octet : UInt8) :
    ((addNextOctet io octet).1 = true ∧
        read (addNextOctet io octet).2.wb 0 (addNextOctet io octet).2.wbPos =
          read io.wb 0 io.wbPos ++ framing.stuffOctet octet ∧
        (addNextOctet io octet).2.wbPos ≤ framingBufferSize ∧
        (addNextOctet io octet).2.wbPos = io.wbPos + (framing.stuffOctet octet).length) ∨
      (addNextOctet io octet = (false, io) ∧
        framingBufferSize < io.wbPos + (framing.stuffOctet octet).length) := by
  rw [framingBufferSize] at hpos ⊢
  rw [addNextOctet, framingBufferSize]
  split
  · next hspecial =>
    have hmod : (io.wbPos + 1) % 256 = io.wbPos + 1 := Nat.mod_eq_of_lt (by omega)
    have hmod' : (io.wbPos + 2) % 256 = io.wbPos + 2 := Nat.mod_eq_of_lt (by omega)
    rw [stuffOctet_special hspecial, hmod, hmod']
    split
    · next hroom =>
      refine .inl ⟨rfl, ?_, by dsimp only; omega, rfl⟩
      dsimp only
      rw [← write_cons]
      exact read_write_behind _ _ [framingEscFlag, octet ^^^ framingXorFlag]
    · next hfull => exact .inr ⟨rfl, by simp; omega⟩
  · next hplain =>
    have hmod : (io.wbPos + 1) % 256 = io.wbPos + 1 := Nat.mod_eq_of_lt (by omega)
    rw [stuffOctet_plain hplain, hmod]
    split
    · next hroom =>
      refine .inl ⟨rfl, ?_, by dsimp only; omega, rfl⟩
      dsimp only
      exact read_write_behind _ _ [octet]
    · next hfull => exact .inr ⟨rfl, by simp; omega⟩

theorem addNextOctet_localAddr (io : FramingIo) (octet : UInt8) :
    (addNextOctet io octet).2.localAddr = io.localAddr := by
  rw [addNextOctet]
  split
  · split <;> rfl
  · split <;> rfl

theorem stuffOctet_length_le (octet : UInt8) : (framing.stuffOctet octet).length ≤ 2 := by
  rw [Stuffing.stuffOctet]
  split <;> simp

/-- An octet that the buffer has room for. -/
theorem Buffered.add (h : Buffered addr io transport bs) {octet : UInt8}
    (hadded : (addNextOctet io octet).1 = true) :
    Buffered addr (addNextOctet io octet).2 transport (bs ++ framing.stuffOctet octet) := by
  rcases addNextOctet_cases h.pos octet with ⟨-, hread, hpos, -⟩ | ⟨hfull, -⟩
  · exact ⟨(addNextOctet_localAddr io octet).trans h.addr, hpos,
      by rw [hread, ← List.append_assoc, h.bytes]⟩
  · rw [hfull] at hadded
    cases hadded

/-- The octets of the header find room behind the flag. -/
theorem Buffered.addHeader (h : Buffered addr io transport bs) {octet : UInt8} {n : Nat}
    (hpos : io.wbPos ≤ n) (hroom : n + 2 ≤ framingBufferSize) :
    Buffered addr (addNextOctet io octet).2 transport (bs ++ framing.stuffOctet octet) ∧
      (addNextOctet io octet).2.wbPos ≤ n + 2 := by
  have hlength := stuffOctet_length_le octet
  rcases addNextOctet_cases h.pos octet with ⟨hadded, -, -, heq⟩ | ⟨-, hfull⟩
  · exact ⟨h.add hadded, by omega⟩
  · omega

/-! ## The write callback -/

/-- The write callback makes progress. -/
def WriteTransport.Positive (transport : WriteTransport) : Prop := ∀ n, 0 < transport.accepts n

theorem framingWriteFrom_writes (hpositive : transport.Positive) {fuel bytesWritten : Nat}
    (hle : bytesWritten ≤ io.wbPos) (hfuel : io.wbPos < fuel + bytesWritten) :
    ∃ transport', framingWriteFrom io fuel transport bytesWritten =
        some (io.wbPos, transport') ∧ transport'.Positive ∧
      transport'.written = transport.written ++
        read io.wb bytesWritten (io.wbPos - bytesWritten) := by
  induction fuel generalizing transport bytesWritten with
  | zero => omega
  | succ fuel ih =>
    rw [framingWriteFrom]
    simp only [WriteTransport.write, read_length]
    generalize hcount : min (transport.accepts transport.calls) (io.wbPos - bytesWritten) = count
    have hcountle : count ≤ io.wbPos - bytesWritten := by omega
    have hpos := hpositive transport.calls
    have hsplit : read io.wb bytesWritten (io.wbPos - bytesWritten) =
        read io.wb bytesWritten count ++
          read io.wb (bytesWritten + count) (io.wbPos - (bytesWritten + count)) := by
      rw [← read_append]
      congr 1
      omega
    have htake : (read io.wb bytesWritten (io.wbPos - bytesWritten)).take count =
        read io.wb bytesWritten count := by
      rw [hsplit]
      exact List.take_left' (read_length _ _ _)
    rw [htake]
    split
    · next hmore =>
      obtain ⟨transport', hrest, hpositive', hwritten⟩ := @ih
        { transport with
          calls := transport.calls + 1
          written := transport.written ++ read io.wb bytesWritten count }
        hpositive (bytesWritten + count) (by omega) (by omega)
      refine ⟨transport', hrest, hpositive', ?_⟩
      rw [hwritten, hsplit]
      exact List.append_assoc _ _ _
    · next hdone =>
      have hall : bytesWritten + count = io.wbPos := by omega
      refine ⟨{ transport with
        calls := transport.calls + 1
        written := transport.written ++ read io.wb bytesWritten count }, by rw [hall],
        hpositive, ?_⟩
      rw [hsplit, hall, Nat.sub_self, read_zero, List.append_nil]

/-- The whole buffer is written. -/
theorem Buffered.flush (h : Buffered addr io transport bs) (hpositive : transport.Positive) :
    ∃ io' transport', framingWriteTransport io transport = some (true, io', transport') ∧
      io' = { io with wbPos := 0 } ∧ transport'.Positive ∧ transport'.written = bs := by
  obtain ⟨transport', hwrite, hpositive', hwritten⟩ :=
    @framingWriteFrom_writes io transport hpositive (io.wbPos + 1) 0 (Nat.zero_le _)
      (Nat.lt_succ_self io.wbPos)
  refine ⟨_, transport', ?_, rfl, hpositive', ?_⟩
  · rw [framingWriteTransport, hwrite]
    simp
  · rw [hwritten, Nat.sub_zero, h.bytes]

/-! ## The loops over the octets -/

theorem updateCrc_foldl (crc : UInt16) (octet : UInt8) (octets : List UInt8) :
    (octet :: octets).foldl updateCrc crc = octets.foldl updateCrc (updateCrc crc octet) := rfl

/-- All octets are stuffed and written, or stand in the buffer; each takes two turns at most. -/
theorem writeOctets_writes {fuel : Nat} (crc : UInt16) {octets : List UInt8}
    (h : Buffered addr io transport bs) (hpositive : transport.Positive)
    (hfuel : 2 * octets.length ≤ fuel) :
    ∃ io' transport', writeOctets fuel io transport crc octets =
        some (true, io', transport', octets.foldl updateCrc crc) ∧
      Buffered addr io' transport' (bs ++ framing.stuff octets) ∧ transport'.Positive := by
  induction octets generalizing fuel io transport crc bs with
  | nil =>
    refine ⟨io, transport, by rw [writeOctets, List.foldl_nil], ?_, hpositive⟩
    rwa [Stuffing.stuff_nil, List.append_nil]
  | cons octet octets ih =>
    obtain ⟨fuel, rfl⟩ : ∃ n, fuel = n + 2 :=
      ⟨fuel - 2, by rw [List.length_cons] at hfuel; omega⟩
    have hrest : 2 * octets.length ≤ fuel := by
      rw [List.length_cons] at hfuel
      omega
    -- the octet that was added, and those behind it
    have hadd {io : FramingIo} {transport : WriteTransport} {fuel : Nat}
        (h : Buffered addr io transport bs) (hpositive : transport.Positive)
        (hrest : 2 * octets.length ≤ fuel) (hadded : (addNextOctet io octet).1 = true) :
        ∃ io' transport', writeOctets (fuel + 1) io transport crc (octet :: octets) =
            some (true, io', transport', (octet :: octets).foldl updateCrc crc) ∧
          Buffered addr io' transport' (bs ++ framing.stuff (octet :: octets)) ∧
            transport'.Positive := by
      obtain ⟨io', transport', hwrites, hbuffered, hpositive'⟩ :=
        @ih _ _ _ _ (updateCrc crc octet) (h.add hadded) hpositive hrest
      refine ⟨io', transport', ?_, ?_, hpositive'⟩
      · rw [writeOctets]
        dsimp only
        rw [if_pos hadded, hwrites, updateCrc_foldl]
      · rwa [Stuffing.stuff_cons, ← List.append_assoc]
    rcases addNextOctet_cases h.pos octet with ⟨hadded, -⟩ | ⟨hfull, -⟩
    · exact hadd h hpositive (by omega) hadded
    · -- the buffer is full: it is written, and the octet finds room in the empty one
      obtain ⟨io', transport', hflush, hio', hpositive', hwritten⟩ := h.flush hpositive
      have hempty : Buffered addr io' transport' bs := by
        refine ⟨by rw [hio']; exact h.addr, by rw [hio']; exact Nat.zero_le _, ?_⟩
        rw [hwritten, hio', read_zero, List.append_nil]
      have hroom : (addNextOctet io' octet).1 = true := by
        have hlength := stuffOctet_length_le octet
        rcases addNextOctet_cases hempty.pos octet with ⟨hadded, -⟩ | ⟨-, hover⟩
        · exact hadded
        · rw [hio', framingBufferSize] at hover
          dsimp only at hover
          omega
      obtain ⟨io'', transport'', hwrites, hbuffered, hpositive''⟩ :=
        hadd hempty hpositive' hrest hroom
      refine ⟨io'', transport'', ?_, hbuffered, hpositive''⟩
      rw [writeOctets, hfull]
      simp [hflush, hwrites]

end

/-- A message is written as its frame, whatever the callback takes at a time. -/
theorem writeFramedMsg_writes (io : FramingIo) {transport : WriteTransport}
    (hpositive : transport.Positive) (remoteAddr : UInt8) {buf : List UInt8}
    (hlength : buf.length ≤ 65535) :
    ∃ io' transport', writeFramedMsg io transport buf remoteAddr =
        some (buf.length, io', transport') ∧
      transport'.Positive ∧ io'.localAddr = io.localAddr ∧
      transport'.written = transport.written ++ MsgFrame.bytes ⟨io.localAddr, remoteAddr, buf⟩ := by
  have hstart : Buffered io.localAddr
      { io with wb := write io.wb 0 [framingBeginFlag], wbPos := 1 } transport
      (transport.written ++ [framingBeginFlag]) :=
    ⟨rfl, by change 1 ≤ 42; omega, congrArg _ (read_write_self io.wb 0 [framingBeginFlag])⟩
  obtain ⟨hsrc, hsrcPos⟩ :=
    @Buffered.addHeader _ _ _ _ hstart io.localAddr 1 (Nat.le_refl 1) (by decide)
  obtain ⟨hdst, hdstPos⟩ := @Buffered.addHeader _ _ _ _ hsrc remoteAddr 3 hsrcPos (by decide)
  obtain ⟨hlsb, hlsbPos⟩ :=
    @Buffered.addHeader _ _ _ _ hdst (UInt8.ofNat buf.length) 5 hdstPos (by decide)
  obtain ⟨hmsb, -⟩ :=
    @Buffered.addHeader _ _ _ _ hlsb (UInt8.ofNat (buf.length / 256)) 7 hlsbPos (by decide)
  obtain ⟨io₁, transport₁, hpayload, hbuffered₁, hpositive₁⟩ :=
    writeOctets_writes 0 hmsb hpositive (Nat.le_refl _)
  obtain ⟨io₂, transport₂, hchecksum, hbuffered₂, hpositive₂⟩ :=
    @writeOctets_writes _ _ _ _ 4 (crcOf buf) [(crcOf buf).toUInt8, (crcOf buf >>> 8).toUInt8]
      hbuffered₁ hpositive₁ (Nat.le_refl _)
  have hwritten : transport.written ++ [framingBeginFlag] ++ framing.stuffOctet io.localAddr ++
      framing.stuffOctet remoteAddr ++ framing.stuffOctet (UInt8.ofNat buf.length) ++
      framing.stuffOctet (UInt8.ofNat (buf.length / 256)) ++ framing.stuff buf ++
      framing.stuff [(crcOf buf).toUInt8, (crcOf buf >>> 8).toUInt8] =
      transport.written ++ MsgFrame.bytes ⟨io.localAddr, remoteAddr, buf⟩ := by
    simp [MsgFrame.bytes, MsgFrame.header, MsgFrame.checksum, Stuffing.stuff_append,
      Stuffing.stuff_cons]
  rw [hwritten] at hbuffered₂
  have hmod : buf.length % 65536 = buf.length := Nat.mod_eq_of_lt (by omega)
  have hcrc : List.foldl updateCrc 0 buf = crcOf buf := rfl
  rw [hcrc] at hpayload
  by_cases hpos : 0 < io₂.wbPos
  · obtain ⟨io₃, transport₃, hflush, hio₃, hpositive₃, hall⟩ := hbuffered₂.flush hpositive₂
    refine ⟨io₃, transport₃, ?_, hpositive₃, by rw [hio₃]; exact hbuffered₂.addr, hall⟩
    simp [writeFramedMsg, hpayload, hchecksum, hpos, hflush, hmod]
  · refine ⟨io₂, transport₂, ?_, hpositive₂, hbuffered₂.addr, ?_⟩
    · simp [writeFramedMsg, hpayload, hchecksum, hpos, hmod]
    · have hread := hbuffered₂.bytes
      rwa [show io₂.wbPos = 0 by omega, read_zero, List.append_nil] at hread

end XrceClient
