import XrceClient.Stream.MicroCdr

/-!
# Submessage headers (`submessage.c`, `xrce_subheader.c`)

- `SubmessageId`: the identifiers of `submessage_internal.h`.
- `bufferSubmessageHeader`: writes the four bytes of a header, from the next
  multiple of four on; `bufferSubmessageHeader_plain` says which bytes of a plain
  memory these are.
- `submessagePadding`: the bytes that follow a submessage up to the next header.
-/

namespace XrceClient

open ByteMemory

/-- `SUBHEADER_SIZE` (submessage_internal.h). -/
def subheaderSize : Nat := 4

/-- `SubmessageId` (submessage_internal.h). -/
inductive SubmessageId where
  | createClient
  | create
  | getInfo
  | delete
  | statusAgent
  | status
  | info
  | writeData
  | readData
  | data
  | acknack
  | heartbeat
  | reset
  | fragment
  | timestamp
  | timestampReply
  deriving DecidableEq, Repr

/-- The value of an identifier in a header. -/
def SubmessageId.value : SubmessageId → UInt8
  | createClient => 0
  | create => 1
  | getInfo => 2
  | delete => 3
  | statusAgent => 4
  | status => 5
  | info => 6
  | writeData => 7
  | readData => 8
  | data => 9
  | acknack => 10
  | heartbeat => 11
  | reset => 12
  | fragment => 13
  | timestamp => 14
  | timestampReply => 15

/-- `FLAG_ENDIANNESS` (submessage_internal.h). -/
def flagEndianness : UInt8 := 1

/-- `FLAG_LAST_FRAGMENT` (submessage_internal.h). -/
def flagLastFragment : UInt8 := 2

/-- The value of `ucdrEndianness` as an integer. -/
def Endianness.value : Endianness → UInt8
  | .bigEndianness => 0
  | .littleEndianness => 1

/-- `uxr_submessage_padding` (submessage.c:41–45). -/
def submessagePadding (length : Nat) : Nat :=
  if length % subheaderSize ≠ 0 then subheaderSize - length % subheaderSize else 0

section

variable [MicroCdr] {σ : Type} (dev : Device σ)

/-- `uxr_serialize_submessage_header` (xrce_subheader.c). -/
def serializeSubmessageHeader (s : σ) (ub : UcdrBuffer) (id flags : UInt8) (length : UInt16) :
    σ × UcdrBuffer :=
  let (_, s, ub) := ucdrSerialize dev s ub ub.endianness 1 id.toNat
  let (_, s, ub) := ucdrSerialize dev s ub ub.endianness 1 flags.toNat
  let (_, s, ub) := ucdrSerialize dev s ub .littleEndianness 2 length.toNat
  (s, ub)

/-- `uxr_buffer_submessage_header` (submessage.c:7–19). -/
def bufferSubmessageHeader (s : σ) (ub : UcdrBuffer) (submessageId : UInt8) (length : UInt16)
    (flags : UInt8) : Bool × σ × UcdrBuffer :=
  let ub := ucdrAlignTo ub 4
  let ub := { ub with endianness := machineEndianness }
  let flags := flags ||| ub.endianness.value
  let (s, ub) := serializeSubmessageHeader dev s ub submessageId flags length
  (ucdrBufferRemaining ub ≥ length.toNat, s, ub)

end

/-- A scalar of one byte is the same in both orders. -/
theorem encodeScalar_byte (e : Endianness) (byte : UInt8) : encodeScalar e 1 byte.toNat = [byte] := by
  cases e <;> simp [encodeScalar, leBytes]

/-! ## Writing a header into plain memory -/

/-- Bytes that fit are put in place, one after the other. -/
theorem puts_plain (bs : List UInt8) (m : Memory) (ub : UcdrBuffer) (hok : ub.error = false)
    (hroom : ub.iterator + bs.length ≤ ub.final) :
    Puts Device.plain bs m ub (write m ub.iterator bs)
      { ub with iterator := ub.iterator + bs.length, offset := ub.offset + bs.length } := by
  induction bs generalizing m ub with
  | nil =>
    rw [write_nil]
    exact Puts.nil m ub
  | cons b bs ih =>
    rw [List.length_cons] at hroom
    refine Puts.byte hok (by omega) ?_
    have hrest := ih (write m ub.iterator [b]) ub.next hok (by simp; omega)
    rw [UcdrBuffer.next_iterator, ← write_cons] at hrest
    simpa [Device.plain, UcdrBuffer.next, Nat.add_assoc, Nat.add_comm, Nat.add_left_comm] using hrest

variable [MicroCdr]

/-- The four bytes of a header. -/
def submessageHeaderBytes (submessageId : UInt8) (length : UInt16) (flags : UInt8) : List UInt8 :=
  encodeScalar machineEndianness 1 submessageId.toNat ++
    encodeScalar machineEndianness 1 (flags ||| machineEndianness.value).toNat ++
      encodeScalar .littleEndianness 2 length.toNat

@[simp] theorem submessageHeaderBytes_length (submessageId : UInt8) (length : UInt16)
    (flags : UInt8) : (submessageHeaderBytes submessageId length flags).length = 4 := by
  simp [submessageHeaderBytes]

variable [LawfulMicroCdr]

/-- A scalar that needs no padding and fits is put in place. -/
theorem ucdrSerialize_plain (m : Memory) (ub : UcdrBuffer) (e : Endianness) {k : Nat} (v : Nat)
    (hk : k ∈ [1, 2, 4, 8]) (hok : ub.error = false) (hpad : ub.padding k = 0)
    (hroom : ub.iterator + k ≤ ub.final) :
    ucdrSerialize Device.plain m ub e k v =
      (true, write m ub.iterator (encodeScalar e k v),
        { ub with iterator := ub.iterator + k, offset := ub.offset + k, lastDataSize := k }) := by
  have halign := LawfulMicroCdr.alignTo ub k hk (by omega)
  rw [hpad, Nat.add_zero, Nat.add_zero, Nat.min_eq_left (by omega)] at halign
  have hput := puts_plain (encodeScalar e k v) m (ucdrAlignTo ub k)
    (by rw [halign]; exact hok) (by rw [halign, encodeScalar_length]; exact hroom)
  have hser := LawfulMicroCdr.serialize e hk (by omega) hput
  rw [hser, halign, encodeScalar_length]

/-- A header that fits is written at the next multiple of four, and the buffer stands behind it. -/
theorem bufferSubmessageHeader_put (m : Memory) (ub : UcdrBuffer) (submessageId : UInt8)
    (length : UInt16) (flags : UInt8) (hok : ub.error = false)
    (hroom : ub.iterator + ub.padding 4 + 4 ≤ ub.final)
    (haligned : (ub.offset + ub.padding 4) % 4 = 0) :
    (bufferSubmessageHeader Device.plain m ub submessageId length flags).2 =
      (write m (ub.iterator + ub.padding 4) (submessageHeaderBytes submessageId length flags),
        { ub with
          iterator := ub.iterator + ub.padding 4 + 4
          offset := ub.offset + ub.padding 4 + 4
          lastDataSize := 2
          endianness := machineEndianness }) := by
  have halign := LawfulMicroCdr.alignTo ub 4 (by simp) (by omega)
  rw [Nat.min_eq_left (by omega)] at halign
  -- the buffer at the start of the header, and after its first two bytes
  obtain ⟨ub₀, hub₀⟩ : ∃ ub₀, ub₀ = { ub with iterator := ub.iterator + ub.padding 4,
                                              offset := ub.offset + ub.padding 4,
                                              lastDataSize := 4,
                                              endianness := machineEndianness } := ⟨_, rfl⟩
  have hit : ub₀.iterator = ub.iterator + ub.padding 4 := by rw [hub₀]
  have hoff : ub₀.offset % 4 = 0 := by rw [hub₀]; exact haligned
  have hfin : ub₀.final = ub.final := by rw [hub₀]
  have hend : ub₀.endianness = machineEndianness := by rw [hub₀]
  have hok₀ : ub₀.error = false := by rw [hub₀]; exact hok
  have hid (m : Memory) := ucdrSerialize_plain m ub₀ machineEndianness submessageId.toNat
    (show 1 ∈ [1, 2, 4, 8] by simp) hok₀ (by simp [hub₀, UcdrBuffer.padding]) (by omega)
  have hflags (m : Memory) := ucdrSerialize_plain m
    { ub₀ with iterator := ub₀.iterator + 1, offset := ub₀.offset + 1, lastDataSize := 1 }
    machineEndianness (flags ||| machineEndianness.value).toNat (show 1 ∈ [1, 2, 4, 8] by simp) hok₀
    (by simp [UcdrBuffer.padding]) (by dsimp only; omega)
  have hlength (m : Memory) := ucdrSerialize_plain m
    { ub₀ with iterator := ub₀.iterator + 1 + 1, offset := ub₀.offset + 1 + 1, lastDataSize := 1 }
    .littleEndianness length.toNat (show 2 ∈ [1, 2, 4, 8] by simp) hok₀
    (by simp [UcdrBuffer.padding]; omega) (by dsimp only; omega)
  rw [submessageHeaderBytes, write_append, write_append, ← hit]
  simp only [hend, Nat.add_assoc, Nat.reduceAdd] at hid hflags hlength
  simp only [bufferSubmessageHeader, serializeSubmessageHeader, halign, ← hub₀, hid, hflags,
    hlength, encodeScalar_length, List.length_append, Nat.reduceAdd]
  rw [hub₀]

/-- Nothing but the header is written. -/
theorem bufferSubmessageHeader_plain (m : Memory) (ub : UcdrBuffer) (submessageId : UInt8)
    (length : UInt16) (flags : UInt8) (hok : ub.error = false)
    (hroom : ub.iterator + ub.padding 4 + 4 ≤ ub.final)
    (haligned : (ub.offset + ub.padding 4) % 4 = 0) :
    (bufferSubmessageHeader Device.plain m ub submessageId length flags).2.1 =
      write m (ub.iterator + ub.padding 4) (submessageHeaderBytes submessageId length flags) := by
  rw [bufferSubmessageHeader_put m ub submessageId length flags hok hroom haligned]

end XrceClient
