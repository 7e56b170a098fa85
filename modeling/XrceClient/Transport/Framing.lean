import XrceClient.Base.ByteRing
import XrceClient.Base.ByteStuffing

/-!
# Stream framing (`stream_framing_protocol.c`)

Messages over a transport that is a stream of bytes, such as a serial line.

- `writeFramedMsg` sends a message as a frame: a flag, the addresses, the length, the
  payload and a checksum, stuffed so that the flag stands nowhere else.
- `readFramedMsg` reads up to the next message. It is a state machine that may stop at
  any byte and go on in a later call; what it has not used yet stays in a ring.

The callbacks of the transport are the schedules of `WriteTransport` and
`ReadTransport`: how many bytes each of their calls moves. Their timeout and error code
are handed on and looked at by nobody, and are left out. The 8-bit counters of the rings
stay below 43, and are natural numbers. The loops without a bound of their own take a fuel
argument, and `none` says that it ran out.
-/

namespace XrceClient

open ByteMemory

/-! ## Checksum -/

/-- `crc16_table` (stream_framing_protocol.c:9–42). -/
def crc16Table : Array UInt16 := #[
    0x0000, 0xC0C1, 0xC181, 0x0140, 0xC301, 0x03C0, 0x0280, 0xC241,
    0xC601, 0x06C0, 0x0780, 0xC741, 0x0500, 0xC5C1, 0xC481, 0x0440,
    0xCC01, 0x0CC0, 0x0D80, 0xCD41, 0x0F00, 0xCFC1, 0xCE81, 0x0E40,
    0x0A00, 0xCAC1, 0xCB81, 0x0B40, 0xC901, 0x09C0, 0x0880, 0xC841,
    0xD801, 0x18C0, 0x1980, 0xD941, 0x1B00, 0xDBC1, 0xDA81, 0x1A40,
    0x1E00, 0xDEC1, 0xDF81, 0x1F40, 0xDD01, 0x1DC0, 0x1C80, 0xDC41,
    0x1400, 0xD4C1, 0xD581, 0x1540, 0xD701, 0x17C0, 0x1680, 0xD641,
    0xD201, 0x12C0, 0x1380, 0xD341, 0x1100, 0xD1C1, 0xD081, 0x1040,
    0xF001, 0x30C0, 0x3180, 0xF141, 0x3300, 0xF3C1, 0xF281, 0x3240,
    0x3600, 0xF6C1, 0xF781, 0x3740, 0xF501, 0x35C0, 0x3480, 0xF441,
    0x3C00, 0xFCC1, 0xFD81, 0x3D40, 0xFF01, 0x3FC0, 0x3E80, 0xFE41,
    0xFA01, 0x3AC0, 0x3B80, 0xFB41, 0x3900, 0xF9C1, 0xF881, 0x3840,
    0x2800, 0xE8C1, 0xE981, 0x2940, 0xEB01, 0x2BC0, 0x2A80, 0xEA41,
    0xEE01, 0x2EC0, 0x2F80, 0xEF41, 0x2D00, 0xEDC1, 0xEC81, 0x2C40,
    0xE401, 0x24C0, 0x2580, 0xE541, 0x2700, 0xE7C1, 0xE681, 0x2640,
    0x2200, 0xE2C1, 0xE381, 0x2340, 0xE101, 0x21C0, 0x2080, 0xE041,
    0xA001, 0x60C0, 0x6180, 0xA141, 0x6300, 0xA3C1, 0xA281, 0x6240,
    0x6600, 0xA6C1, 0xA781, 0x6740, 0xA501, 0x65C0, 0x6480, 0xA441,
    0x6C00, 0xACC1, 0xAD81, 0x6D40, 0xAF01, 0x6FC0, 0x6E80, 0xAE41,
    0xAA01, 0x6AC0, 0x6B80, 0xAB41, 0x6900, 0xA9C1, 0xA881, 0x6840,
    0x7800, 0xB8C1, 0xB981, 0x7940, 0xBB01, 0x7BC0, 0x7A80, 0xBA41,
    0xBE01, 0x7EC0, 0x7F80, 0xBF41, 0x7D00, 0xBDC1, 0xBC81, 0x7C40,
    0xB401, 0x74C0, 0x7580, 0xB541, 0x7700, 0xB7C1, 0xB681, 0x7640,
    0x7200, 0xB2C1, 0xB381, 0x7340, 0xB101, 0x71C0, 0x7080, 0xB041,
    0x5000, 0x90C1, 0x9181, 0x5140, 0x9301, 0x53C0, 0x5280, 0x9241,
    0x9601, 0x56C0, 0x5780, 0x9741, 0x5500, 0x95C1, 0x9481, 0x5440,
    0x9C01, 0x5CC0, 0x5D80, 0x9D41, 0x5F00, 0x9FC1, 0x9E81, 0x5E40,
    0x5A00, 0x9AC1, 0x9B81, 0x5B40, 0x9901, 0x59C0, 0x5880, 0x9841,
    0x8801, 0x48C0, 0x4980, 0x8941, 0x4B00, 0x8BC1, 0x8A81, 0x4A40,
    0x4E00, 0x8EC1, 0x8F81, 0x4F40, 0x8D01, 0x4DC0, 0x4C80, 0x8C41,
    0x4400, 0x84C1, 0x8581, 0x4540, 0x8701, 0x47C0, 0x4680, 0x8641,
    0x8201, 0x42C0, 0x4380, 0x8341, 0x4100, 0x81C1, 0x8081, 0x4040
  ]

/-- `uxr_update_crc` (stream_framing_protocol.c:47–52). -/
def updateCrc (crc : UInt16) (data : UInt8) : UInt16 :=
  (crc >>> 8) ^^^ crc16Table.getD ((crc ^^^ data.toUInt16) &&& 0xFF).toNat 0

/-! ## The state -/

/-- `UXR_FRAMING_BEGIN_FLAG` (stream_framing_protocol.h). -/
def framingBeginFlag : UInt8 := 0x7E

/-- `UXR_FRAMING_ESC_FLAG` (stream_framing_protocol.h). -/
def framingEscFlag : UInt8 := 0x7D

/-- `UXR_FRAMING_XOR_FLAG` (stream_framing_protocol.h). -/
def framingXorFlag : UInt8 := 0x20

/-- `uxrFramingInputState` (stream_framing_protocol.h). -/
inductive FramingInputState where
  | uninitialized
  | readingSrcAddr
  | readingDstAddr
  | readingLenLsb
  | readingLenMsb
  | readingPayload
  | readingCrcLsb
  | readingCrcMsb
  deriving DecidableEq, Repr

/-- `uxrFramingIo` (stream_framing_protocol.h). -/
structure FramingIo where
  state : FramingInputState
  localAddr : UInt8
  rb : Memory
  rbHead : Nat
  rbTail : Nat
  srcAddr : UInt8
  msgLen : UInt16
  msgPos : UInt16
  msgCrc : UInt16
  cmpCrc : UInt16
  wb : Memory
  wbPos : Nat

/-- `sizeof(framing_io->rb)`, and of `wb`. -/
def framingBufferSize : Nat := 42

/-- `uxr_init_framing_io` (stream_framing_protocol.c:118–126). -/
def initFramingIo (io : FramingIo) (localAddr : UInt8) : FramingIo :=
  { io with localAddr, state := .uninitialized, rbHead := 0, rbTail := 0 }

/-- `uxr_get_next_octet` (stream_framing_protocol.c:54–83): whether there was one, and the
octet. -/
def getNextOctet (io : FramingIo) : Bool × UInt8 × FramingIo :=
  if io.rbHead ≠ io.rbTail then
    if framingEscFlag ≠ io.rb io.rbTail then
      let octet := io.rb io.rbTail
      (framingBeginFlag ≠ octet, octet,
        { io with rbTail := (io.rbTail + 1) % framingBufferSize })
    else
      let tempTail := (io.rbTail + 1) % framingBufferSize
      if tempTail ≠ io.rbHead then
        let octet := io.rb tempTail
        let io := { io with rbTail := (io.rbTail + 2) % framingBufferSize }
        if framingBeginFlag ≠ octet then (true, octet ^^^ framingXorFlag, io)
        else (false, octet, io)
      else
        (false, 0, io)
  else
    (false, 0, io)

/-- `uxr_add_next_octet` (stream_framing_protocol.c:85–116). -/
def addNextOctet (io : FramingIo) (octet : UInt8) : Bool × FramingIo :=
  if framingBeginFlag = octet ∨ framingEscFlag = octet then
    if (io.wbPos + 1) % 256 < framingBufferSize then
      (true, { io with
        wb := write (write io.wb io.wbPos [framingEscFlag]) (io.wbPos + 1)
          [octet ^^^ framingXorFlag]
        wbPos := (io.wbPos + 2) % 256 })
    else
      (false, io)
  else if io.wbPos < framingBufferSize then
    (true, { io with wb := write io.wb io.wbPos [octet], wbPos := (io.wbPos + 1) % 256 })
  else
    (false, io)

/-! ## Writing -/

/-- The transport behind a write callback: how many bytes each call takes at most, the number of
calls so far, and what was written. -/
structure WriteTransport where
  accepts : Nat → Nat
  calls : Nat
  written : List UInt8

/-- `write_cb`, on the bytes that it is offered: how many it took. -/
def WriteTransport.write (transport : WriteTransport) (bs : List UInt8) : Nat × WriteTransport :=
  let count := min (transport.accepts transport.calls) bs.length
  (count, { transport with
    calls := transport.calls + 1
    written := transport.written ++ bs.take count })

/-- The loop of `uxr_framing_write_transport` (stream_framing_protocol.c:134–138): the bytes
that were written. -/
def framingWriteFrom (io : FramingIo) : Nat → WriteTransport → Nat → Option (Nat × WriteTransport)
  | 0, _, _ => none
  | fuel + 1, transport, bytesWritten =>
    let (lastWritten, transport) :=
      transport.write (read io.wb bytesWritten (io.wbPos - bytesWritten))
    let bytesWritten := bytesWritten + lastWritten
    if bytesWritten < io.wbPos ∧ 0 < lastWritten then
      framingWriteFrom io fuel transport bytesWritten
    else
      some (bytesWritten, transport)

/-- `uxr_framing_write_transport` (stream_framing_protocol.c:128–146). -/
def framingWriteTransport (io : FramingIo) (transport : WriteTransport) :
    Option (Bool × FramingIo × WriteTransport) :=
  (framingWriteFrom io (io.wbPos + 1) transport 0).map fun (bytesWritten, transport) =>
    if bytesWritten = io.wbPos then (true, { io with wbPos := 0 }, transport)
    else (false, io, transport)

/-- The two loops of `uxr_write_framed_msg` (stream_framing_protocol.c:173–184, 191–202), over
the octets that are left: whether all were written, and the checksum. -/
def writeOctets : Nat → FramingIo → WriteTransport → UInt16 → List UInt8 →
    Option (Bool × FramingIo × WriteTransport × UInt16)
  | _, io, transport, crc, [] => some (true, io, transport, crc)
  | 0, _, _, _, _ :: _ => none
  | fuel + 1, io, transport, crc, octet :: octets =>
    let (added, io) := addNextOctet io octet
    if added then
      writeOctets fuel io transport (updateCrc crc octet) octets
    else do
      let (cond, io, transport) ← framingWriteTransport io transport
      if cond then writeOctets fuel io transport crc (octet :: octets)
      else some (false, io, transport, crc)

/-- `uxr_write_framed_msg` (stream_framing_protocol.c:148–212). -/
def writeFramedMsg (io : FramingIo) (transport : WriteTransport) (buf : List UInt8)
    (remoteAddr : UInt8) : Option (Nat × FramingIo × WriteTransport) := do
  -- buffer begin flag
  let io := { io with wb := write io.wb 0 [framingBeginFlag], wbPos := 1 }
  -- buffer header
  let (_, io) := addNextOctet io io.localAddr
  let (_, io) := addNextOctet io remoteAddr
  let (_, io) := addNextOctet io (UInt8.ofNat buf.length)
  let (_, io) := addNextOctet io (UInt8.ofNat (buf.length / 256))
  -- write payload
  let (cond, io, transport, crc) ← writeOctets (2 * buf.length) io transport 0 buf
  -- write checksum
  let (cond, io, transport) ←
    if cond then
      (writeOctets 4 io transport crc [crc.toUInt8, (crc >>> 8).toUInt8]).map
        fun (cond, io, transport, _) => (cond, io, transport)
    else some (cond, io, transport)
  -- flush write buffer
  let (cond, io, transport) ←
    if cond ∧ 0 < io.wbPos then framingWriteTransport io transport
    else some (cond, io, transport)
  return (if cond then buf.length % 65536 else 0, io, transport)

/-! ## Reading -/

/-- The transport behind a read callback: how many bytes each call delivers at most, the number
of calls so far, and what it has still to deliver. -/
structure ReadTransport where
  delivers : Nat → Nat
  calls : Nat
  pending : List UInt8

/-- `read_cb`, for the given number of bytes. -/
def ReadTransport.read (transport : ReadTransport) (size : Nat) : List UInt8 × ReadTransport :=
  let count := min (transport.delivers transport.calls) size
  (transport.pending.take count,
    { transport with calls := transport.calls + 1, pending := transport.pending.drop count })

/-- The room in the ring, `av_len` (stream_framing_protocol.c:224–250): up to the end of the
block, and before `tail`. -/
def availableLength (io : FramingIo) : Nat × Nat :=
  if io.rbHead = io.rbTail then
    (framingBufferSize - 1, 0)
  else if io.rbHead > io.rbTail then
    if 0 < io.rbTail then
      (framingBufferSize - io.rbHead, io.rbTail - 1)
    else
      (framingBufferSize - io.rbHead - 1, 0)
  else
    (io.rbTail - io.rbHead - 1, 0)

/-- The limit on the reading size (stream_framing_protocol.c:257–266). -/
def limitLength (maxSize : Nat) (avLen : Nat × Nat) : Nat × Nat :=
  if maxSize < avLen.1 then (maxSize, 0)
  else if maxSize < avLen.1 + avLen.2 then (avLen.1, maxSize - avLen.1)
  else avLen

/-- One call of `read_cb`, into the ring (stream_framing_protocol.c:270–271, 276–277). -/
def readIntoRing (io : FramingIo) (transport : ReadTransport) (size : Nat) :
    Nat × FramingIo × ReadTransport :=
  let (bs, transport) := transport.read size
  (bs.length,
    { io with
      rb := write io.rb io.rbHead bs
      rbHead := (io.rbHead + bs.length) % framingBufferSize },
    transport)

/-- `uxr_framing_read_transport` (stream_framing_protocol.c:214–284). -/
def framingReadTransport (io : FramingIo) (transport : ReadTransport) (maxSize : Nat) :
    Nat × FramingIo × ReadTransport :=
  let io := if io.rbHead = io.rbTail then { io with rbHead := 0, rbTail := 0 } else io
  let avLen := limitLength maxSize (availableLength io)
  if 0 < avLen.1 then
    let (bytesRead, io, transport) := readIntoRing io transport avLen.1
    if 0 < bytesRead ∧ bytesRead = avLen.1 ∧ 0 < avLen.2 then
      let (bytesRead', io, transport) := readIntoRing io transport avLen.2
      (bytesRead + bytesRead', io, transport)
    else
      (bytesRead, io, transport)
  else
    (0, io, transport)

/-- What `uxr_read_framed_msg` acts on: its state, its transport, the buffer of the caller, the
address it reports and its result. -/
structure FramedRead where
  io : FramingIo
  transport : ReadTransport
  buf : Memory
  remoteAddr : UInt8
  rv : Nat

/-- The loop in the case of `UXR_FRAMING_UNINITIALIZED` (stream_framing_protocol.c:314–318), for
at most the given number of bytes: the last one. -/
def skipToBegin : Nat → UInt8 → FramingIo → UInt8 × FramingIo
  | 0, octet, io => (octet, io)
  | fuel + 1, octet, io =>
    if framingBeginFlag ≠ octet ∧ io.rbHead ≠ io.rbTail then
      skipToBegin fuel (io.rb io.rbTail)
        { io with rbTail := (io.rbTail + 1) % framingBufferSize }
    else
      (octet, io)

/-- What the cases do that wait for one octet: take it, or read up to `maxSize` bytes, or begin
again at a flag; and whether the loop is left. -/
def awaitOctet (maxSize : Nat) (accept : UInt8 → FramedRead → Bool × FramedRead)
    (r : FramedRead) : Bool × FramedRead :=
  let (found, octet, io) := getNextOctet r.io
  if found then
    accept octet { r with io }
  else
    let (bytesRead, io, transport) := framingReadTransport io r.transport maxSize
    let r := { r with io, transport }
    if 0 < bytesRead then (false, r)
    else if framingBeginFlag = octet then
      (false, { r with io := { io with state := .readingSrcAddr } })
    else (true, r)

/-- `UXR_FRAMING_UNINITIALIZED` (stream_framing_protocol.c:311–330). -/
def readUninitialized (r : FramedRead) : Bool × FramedRead :=
  let (octet, io) := skipToBegin framingBufferSize 0 r.io
  if framingBeginFlag = octet then
    (false, { r with io := { io with state := .readingSrcAddr } })
  else
    (true, { r with io })

/-- `UXR_FRAMING_READING_SRC_ADDR` (stream_framing_protocol.c:331–349). A flag leaves the state
as it is. -/
def readSrcAddr (r : FramedRead) : Bool × FramedRead :=
  let (found, octet, io) := getNextOctet r.io
  let io := { io with srcAddr := octet }
  if found then
    (false, { r with io := { io with state := .readingDstAddr } })
  else
    let (bytesRead, io, transport) := framingReadTransport io r.transport 4
    let r := { r with io, transport }
    if 0 < bytesRead then (false, r)
    else (framingBeginFlag ≠ io.srcAddr, r)

/-- `UXR_FRAMING_READING_DST_ADDR` (stream_framing_protocol.c:350–373). -/
def readDstAddr : FramedRead → Bool × FramedRead :=
  awaitOctet 3 fun octet r =>
    (false, { r with io := { r.io with
      state := if octet = r.io.localAddr then .readingLenLsb else .uninitialized } })

/-- `UXR_FRAMING_READING_LEN_LSB` (stream_framing_protocol.c:374–397). -/
def readLenLsb : FramedRead → Bool × FramedRead :=
  awaitOctet 2 fun octet r =>
    (false, { r with io := { r.io with msgLen := octet.toUInt16, state := .readingLenMsb } })

/-- `UXR_FRAMING_READING_LEN_MSB` (stream_framing_protocol.c:398–431). -/
def readLenMsb (len : Nat) : FramedRead → Bool × FramedRead :=
  awaitOctet 1 fun octet r =>
    let msgLen := r.io.msgLen + octet.toUInt16 <<< 8
    let io := { r.io with msgLen, msgPos := 0, cmpCrc := 0 }
    if len < msgLen.toNat then
      (true, { r with io := { io with state := .uninitialized } })
    else
      (false, { r with io := { io with state := .readingPayload } })

/-- The loop in the case of `UXR_FRAMING_READING_PAYLOAD` (stream_framing_protocol.c:434–439),
for the octets that are missing: the last octet. -/
def takePayload : Nat → UInt8 → FramingIo → Memory → UInt8 × FramingIo × Memory
  | 0, octet, io, buf => (octet, io, buf)
  | n + 1, _, io, buf =>
    let (found, octet, io) := getNextOctet io
    if found then
      takePayload n octet
        { io with msgPos := io.msgPos + 1, cmpCrc := updateCrc io.cmpCrc octet }
        (write buf io.msgPos.toNat [octet])
    else
      (octet, io, buf)

/-- `UXR_FRAMING_READING_PAYLOAD` (stream_framing_protocol.c:432–462). -/
def readPayload (r : FramedRead) : Bool × FramedRead :=
  let (octet, io, buf) := takePayload (r.io.msgLen.toNat - r.io.msgPos.toNat) 0 r.io r.buf
  let r := { r with io, buf }
  if io.msgPos = io.msgLen then
    (false, { r with io := { io with state := .readingCrcLsb } })
  else if framingBeginFlag = octet then
    (false, { r with io := { io with state := .readingSrcAddr } })
  else
    let (bytesRead, io, transport) :=
      framingReadTransport io r.transport (io.msgLen.toNat - io.msgPos.toNat + 2)
    let r := { r with io, transport }
    if 0 < bytesRead then (false, r) else (true, r)

/-- `UXR_FRAMING_READING_CRC_LSB` (stream_framing_protocol.c:463–486). -/
def readCrcLsb : FramedRead → Bool × FramedRead :=
  awaitOctet 2 fun octet r =>
    (false, { r with io := { r.io with msgCrc := octet.toUInt16, state := .readingCrcMsb } })

/-- `UXR_FRAMING_READING_CRC_MSB` (stream_framing_protocol.c:487–516). -/
def readCrcMsb : FramedRead → Bool × FramedRead :=
  awaitOctet 1 fun octet r =>
    let msgCrc := r.io.msgCrc + octet.toUInt16 <<< 8
    let r := { r with io := { r.io with msgCrc, state := .uninitialized } }
    if r.io.cmpCrc = msgCrc then
      (true, { r with remoteAddr := r.io.srcAddr, rv := r.io.msgLen.toNat })
    else
      (true, r)

/-- One turn of the state machine (stream_framing_protocol.c:305–521): whether it is left. -/
def readTurn (len : Nat) (r : FramedRead) : Bool × FramedRead :=
  match r.io.state with
  | .uninitialized => readUninitialized r
  | .readingSrcAddr => readSrcAddr r
  | .readingDstAddr => readDstAddr r
  | .readingLenLsb => readLenLsb r
  | .readingLenMsb => readLenMsb len r
  | .readingPayload => readPayload r
  | .readingCrcLsb => readCrcLsb r
  | .readingCrcMsb => readCrcMsb r

/-- The state machine, for at most `fuel` turns. -/
def readTurns (len : Nat) : Nat → FramedRead → Option FramedRead
  | 0, _ => none
  | fuel + 1, r =>
    let (exitCond, r) := readTurn len r
    if exitCond then some r else readTurns len fuel r

/-- `uxr_read_framed_msg` (stream_framing_protocol.c:286–525), into a buffer of `len` bytes. -/
def readFramedMsg (len fuel : Nat) (r : FramedRead) : Option FramedRead :=
  let r := { r with rv := 0 }
  let r :=
    if r.io.rbHead = r.io.rbTail then
      let (_, io, transport) := framingReadTransport r.io r.transport 5
      { r with io, transport }
    else r
  if r.io.rbTail ≠ r.io.rbHead then readTurns len fuel r else some r

end XrceClient
