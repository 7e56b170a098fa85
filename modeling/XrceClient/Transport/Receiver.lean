import XrceClient.Base.Transducer
import XrceClient.Transport.FramingRead

/-!
# Frames in a stream of bytes

What frames there are in a stream, said from the bytes alone: a receiver takes them one at a
time, begins a frame at every flag, and puts out the message of a frame that is complete, is
for its address and has the right checksum.

- `receiver`: the receiver, as a transducer; `messagesIn`, what it makes of a stream.
- `receiver_resetsAt`: wherever it is, a flag begins a frame.
- `messagesIn_frame`: a frame is received, whatever comes before it.
- `CutShort`: a flag comes where an address, a length or a checksum is awaited.
-/

namespace XrceClient

open ByteMemory

/-- What a receiver waits for, with what it has kept of the frame. -/
inductive Awaited where
  | beginFlag
  | srcAddr
  | dstAddr (srcAddr : UInt8)
  | lenLsb (srcAddr : UInt8)
  | lenMsb (srcAddr : UInt8) (lsb : UInt16)
  | payload (srcAddr : UInt8) (length : Nat) (octets : List UInt8)
  | crcLsb (srcAddr : UInt8) (octets : List UInt8)
  | crcMsb (srcAddr : UInt8) (octets : List UInt8) (lsb : UInt16)
  deriving DecidableEq

namespace Awaited

/-- What is awaited in a payload: more of it, or the checksum behind it. -/
def ofPayload (srcAddr : UInt8) (length : Nat) (octets : List UInt8) : Awaited :=
  if octets.length < length then .payload srcAddr length octets else .crcLsb srcAddr octets

/-- What is awaited behind an octet, and the message that is complete with it. A frame without a
payload is no message. -/
def accept (addr : UInt8) (len : Nat) : Awaited → UInt8 → Awaited × List (UInt8 × List UInt8)
  | .beginFlag, _ => (.beginFlag, [])
  | .srcAddr, octet => (.dstAddr octet, [])
  | .dstAddr src, octet => (if octet = addr then .lenLsb src else .beginFlag, [])
  | .lenLsb src, octet => (.lenMsb src octet.toUInt16, [])
  | .lenMsb src lsb, octet =>
    let length := (lsb + octet.toUInt16 <<< 8).toNat
    (if len < length then .beginFlag else .ofPayload src length [], [])
  | .payload src length octets, octet => (.ofPayload src length (octets ++ [octet]), [])
  | .crcLsb src octets, octet => (.crcMsb src octets octet.toUInt16, [])
  | .crcMsb src octets lsb, octet =>
    (.beginFlag,
      if octets ≠ [] ∧ crcOf octets = lsb + octet.toUInt16 <<< 8 then [(src, octets)] else [])

/-- An address, a length or a checksum is awaited, in a frame that has begun. -/
def inField : Awaited → Bool
  | .dstAddr _ | .lenLsb _ | .lenMsb .. | .crcLsb .. | .crcMsb .. => true
  | .beginFlag | .srcAddr | .payload .. => false

end Awaited

/-- What the receiver waits for, and whether an escape byte came last. -/
structure Receiver where
  awaited : Awaited
  escaped : Bool

/-- The receiver with the given address, for payloads up to `len` bytes. -/
def receiver (addr : UInt8) (len : Nat) :
    Transducer Receiver UInt8 (UInt8 × List UInt8) where
  step s b :=
    if b = framingBeginFlag then (⟨.srcAddr, false⟩, [])
    else if s.awaited = .beginFlag then (⟨.beginFlag, false⟩, [])
    else if s.escaped then
      (⟨(s.awaited.accept addr len (b ^^^ framingXorFlag)).1, false⟩,
        (s.awaited.accept addr len (b ^^^ framingXorFlag)).2)
    else if b = framingEscFlag then (⟨s.awaited, true⟩, [])
    else (⟨(s.awaited.accept addr len b).1, false⟩, (s.awaited.accept addr len b).2)

/-- The messages in a stream, with their senders. -/
def messagesIn (addr : UInt8) (len : Nat) (bytes : List UInt8) : List (UInt8 × List UInt8) :=
  ((receiver addr len).run ⟨.beginFlag, false⟩ bytes).2

section

variable {addr : UInt8} {len : Nat}

theorem receiver_step (s : Receiver) (b : UInt8) :
    (receiver addr len).step s b =
      if b = framingBeginFlag then (⟨.srcAddr, false⟩, [])
      else if s.awaited = .beginFlag then (⟨.beginFlag, false⟩, [])
      else if s.escaped then
        (⟨(s.awaited.accept addr len (b ^^^ framingXorFlag)).1, false⟩,
          (s.awaited.accept addr len (b ^^^ framingXorFlag)).2)
      else if b = framingEscFlag then (⟨s.awaited, true⟩, [])
      else (⟨(s.awaited.accept addr len b).1, false⟩, (s.awaited.accept addr len b).2) := rfl

/-- Wherever the receiver is, a flag begins a frame. -/
theorem receiver_resetsAt : (receiver addr len).ResetsAt framingBeginFlag ⟨.srcAddr, false⟩ := by
  intro s
  rw [receiver_step, if_pos rfl]

/-- Outside a frame everything but a flag is skipped. -/
theorem run_skipped {bytes : List UInt8} (h : framingBeginFlag ∉ bytes) :
    (receiver addr len).run ⟨.beginFlag, false⟩ bytes = (⟨.beginFlag, false⟩, []) := by
  induction bytes with
  | nil => rfl
  | cons b bytes ih =>
    have hstep : (receiver addr len).step ⟨.beginFlag, false⟩ b = (⟨.beginFlag, false⟩, []) := by
      have hb : b ≠ framingBeginFlag := fun heq => h (heq ▸ List.mem_cons_self)
      rw [receiver_step, if_neg hb, if_pos rfl]
    rw [Transducer.run_cons, hstep, ih fun hmem => h (List.mem_cons_of_mem _ hmem)]
    rfl

/-- Bytes that are an octet, within a frame. -/
theorem run_octet {a : Awaited} (ha : a ≠ .beginFlag) {bytes : List UInt8} {octet : UInt8}
    (h : framing.Reads bytes (some octet)) :
    (receiver addr len).run ⟨a, false⟩ bytes =
      (⟨(a.accept addr len octet).1, false⟩, (a.accept addr len octet).2) := by
  cases h with
  | plain _ hbegin hesc =>
    change octet ≠ framingBeginFlag at hbegin
    change octet ≠ framingEscFlag at hesc
    rw [Transducer.run_singleton]
    rw [receiver_step, if_neg hbegin, if_neg ha, if_neg Bool.false_ne_true, if_neg hesc]
  | masked b hbegin =>
    change b ≠ framingBeginFlag at hbegin
    have hfirst : (receiver addr len).step ⟨a, false⟩ framingEscFlag = (⟨a, true⟩, []) := by
      rw [receiver_step, if_neg (by decide), if_neg ha, if_neg Bool.false_ne_true, if_pos rfl]
    have hsecond : (receiver addr len).step ⟨a, true⟩ b =
        (⟨(a.accept addr len (b ^^^ framingXorFlag)).1, false⟩,
          (a.accept addr len (b ^^^ framingXorFlag)).2) := by
      rw [receiver_step, if_neg hbegin, if_neg ha, if_pos rfl]
    show (receiver addr len).run ⟨a, false⟩ [framingEscFlag, b] = _
    rw [Transducer.run_cons, hfirst, Transducer.run_singleton, hsecond]
    rfl

/-- Bytes that are a flag. -/
theorem run_flag {a : Awaited} {bytes : List UInt8} (h : framing.Reads bytes none) :
    (receiver addr len).run ⟨a, false⟩ bytes = (⟨.srcAddr, false⟩, []) := by
  cases h with
  | flag =>
    rw [Transducer.run_singleton]
    exact receiver_resetsAt _
  | escapedFlag =>
    have hfirst : ((receiver addr len).step ⟨a, false⟩ framingEscFlag).2 = [] := by
      rw [receiver_step, if_neg (by decide)]
      split
      · rfl
      · rw [if_neg Bool.false_ne_true, if_pos rfl]
    have hsecond := @receiver_resetsAt addr len
      ((receiver addr len).step ⟨a, false⟩ framingEscFlag).1
    show (receiver addr len).run ⟨a, false⟩ [framingEscFlag, framingBeginFlag] = _
    rw [Transducer.run_cons, hfirst, Transducer.run_singleton]
    exact congrArg (fun result => (result.1, [] ++ result.2)) hsecond

/-! ## A frame in a stream -/

/-- The stuffed octets, from the first of them. -/
theorem run_stuff_cons {a : Awaited} (ha : a ≠ .beginFlag) (octet : UInt8)
    (octets : List UInt8) :
    (receiver addr len).run ⟨a, false⟩ (framing.stuff (octet :: octets)) =
      (((receiver addr len).run ⟨(a.accept addr len octet).1, false⟩ (framing.stuff octets)).1,
        (a.accept addr len octet).2 ++
          ((receiver addr len).run ⟨(a.accept addr len octet).1, false⟩
            (framing.stuff octets)).2) := by
  rw [Stuffing.stuff_cons, Transducer.run_append, run_octet ha (Stuffing.reads_stuffOctet octet)]

/-- The rest of a payload. -/
theorem run_payload {srcAddr : UInt8} {octets : List UInt8} (kept tail : List UInt8) :
    (receiver addr len).run ⟨.ofPayload srcAddr (kept.length + octets.length) kept, false⟩
        (framing.stuff (octets ++ tail)) =
      (receiver addr len).run ⟨.crcLsb srcAddr (kept ++ octets), false⟩ (framing.stuff tail) := by
  induction octets generalizing kept with
  | nil =>
    rw [List.length_nil, Nat.add_zero, Awaited.ofPayload, if_neg (Nat.lt_irrefl _),
      List.append_nil, List.nil_append]
  | cons octet octets ih =>
    have hmore : kept.length < kept.length + (octet :: octets).length := by
      rw [List.length_cons]
      omega
    have hnext := ih (kept ++ [octet])
    have hlength : (kept ++ [octet]).length + octets.length =
        kept.length + (octet :: octets).length := by
      rw [List.length_append, List.length_cons, List.length_cons, List.length_nil]
      omega
    rw [hlength, List.append_assoc] at hnext
    rw [Awaited.ofPayload, if_pos hmore, List.cons_append,
      run_stuff_cons (a := .payload ..) nofun]
    exact hnext

/-- A whole frame for the address, behind its flag. -/
theorem run_frame {frame : MsgFrame} (h : frame.Sendable addr len) (hdst : frame.dstAddr = addr) :
    (receiver addr len).run ⟨.srcAddr, false⟩
        (framing.stuff (frame.header ++ frame.payload ++ frame.checksum)) =
      (⟨.beginFlag, false⟩, [(frame.srcAddr, frame.payload)]) := by
  have hlength := length_octets h.le
  have hpayload : frame.payload ≠ [] := List.ne_nil_of_length_pos h.pos
  have hfits : ¬ len < frame.payload.length := Nat.not_lt.mpr (h.fits hdst)
  rw [MsgFrame.header, List.append_assoc]
  simp only [List.cons_append, List.nil_append]
  rw [run_stuff_cons (a := .srcAddr) (by rintro ⟨⟩)]
  simp only [Awaited.accept]
  rw [run_stuff_cons (a := .dstAddr _) (by rintro ⟨⟩)]
  simp only [Awaited.accept]
  rw [if_pos hdst, run_stuff_cons (a := .lenLsb _) (by rintro ⟨⟩)]
  simp only [Awaited.accept]
  rw [run_stuff_cons (a := .lenMsb ..) (by rintro ⟨⟩)]
  simp only [Awaited.accept]
  rw [hlength, if_neg hfits]
  have hrun := @run_payload addr len frame.srcAddr frame.payload [] frame.checksum
  rw [List.length_nil, Nat.zero_add, List.nil_append] at hrun
  rw [hrun, MsgFrame.checksum, run_stuff_cons (a := .crcLsb ..) (by rintro ⟨⟩)]
  simp only [Awaited.accept]
  rw [run_stuff_cons (a := .crcMsb ..) (by rintro ⟨⟩)]
  simp only [Awaited.accept]
  rw [if_pos ⟨hpayload, (checksum_octets _).symm⟩]
  rfl

/-- A frame for the address is received, whatever comes before it and behind it. -/
theorem messagesIn_frame {frame : MsgFrame} (h : frame.Sendable addr len)
    (hdst : frame.dstAddr = addr) (before after : List UInt8) :
    messagesIn addr len (before ++ frame.bytes ++ after) =
      messagesIn addr len before ++ (frame.srcAddr, frame.payload) :: messagesIn addr len after := by
  rw [messagesIn, MsgFrame.bytes, List.append_assoc, List.cons_append,
    Transducer.run_resetsAt receiver_resetsAt, Transducer.run_append, run_frame h hdst]
  rfl

end

/-! ## Frames that are cut short -/

/-- A flag comes where an address, a length or a checksum is awaited. -/
def CutShort (s : Receiver) (b : UInt8) : Prop := s.awaited.inField = true ∧ b = framingBeginFlag

instance (s : Receiver) (b : UInt8) : Decidable (CutShort s b) :=
  inferInstanceAs (Decidable (_ ∧ _))

end XrceClient
