import XrceClient.Session.Dispatch

/-!
# Packed messages

What a buffer holds behind the header of a message is a list of submessages, each at a multiple of
four.

- `Packs`: bytes that hold such a list. `Packs.append`: one more submessage, behind the alignment.
- `parseSubmessages`: the message is read header by header, and every payload is skipped by the
  length in its header.
- `parseMessage_packs`: what is read is what was packed.
-/

namespace XrceClient

open ByteMemory Program

/-- A submessage that was packed into a message. The flags are those without the one for the byte
order. -/
structure PackedSubmessage where
  id : UInt8
  flags : UInt8
  payload : List UInt8
  deriving DecidableEq, Repr

/-- A submessage as it is packed. -/
def Submessage.packed (submessage : Submessage) : PackedSubmessage where
  id := submessage.id
  flags := otherFlags submessage.flags
  payload := submessage.payload

/-- The bytes hold the submessages of a message, in order. -/
def Packs (bytes : List UInt8) (message : List PackedSubmessage) : Prop :=
  ∃ submessages, WellFormed submessages ∧ bytes = messageBytes submessages ∧
    submessages.map Submessage.packed = message

/-! ## One more submessage -/

/-- How many bytes there are up to the next multiple of four. -/
def alignment (size : Nat) : Nat := (4 - size % 4) % 4

theorem Submessage.length_bytes (submessage : Submessage) :
    submessage.bytes.length = 4 + submessage.payload.length + submessage.gap.length := by
  simp [Submessage.bytes]
  omega

/-- The submessage with more bytes behind it. -/
def Submessage.extend (submessage : Submessage) (bytes : List UInt8) : Submessage :=
  { submessage with gap := submessage.gap ++ bytes }

theorem Submessage.bytes_extend (submessage : Submessage) (bytes : List UInt8) :
    (submessage.extend bytes).bytes = submessage.bytes ++ bytes := by
  simp [Submessage.extend, Submessage.bytes, low, high]

/-- Behind the alignment there is room for one more submessage. -/
theorem wellFormed_append {submessages : List Submessage} (h : WellFormed submessages)
    {gap : List UInt8} (hgap : gap.length = alignment (messageBytes submessages).length)
    {submessage : Submessage} (hlast : submessage.gap.length ≤ submessage.padding) :
    ∃ submessages', WellFormed submessages' ∧
      messageBytes submessages ++ gap ++ submessage.bytes = messageBytes submessages' ∧
      submessages'.map Submessage.packed =
        submessages.map Submessage.packed ++ [submessage.packed] := by
  induction submessages with
  | nil =>
    obtain rfl : gap = [] := List.length_eq_zero_iff.mp hgap
    exact ⟨[submessage], hlast, by simp [messageBytes], rfl⟩
  | cons first submessages ih =>
    have hfirst := h.gap_le
    have hlength := first.length_bytes
    rw [messageBytes, List.flatMap_cons, List.length_append, ← messageBytes, alignment] at hgap
    cases submessages with
    | nil =>
      -- the bytes up to the next multiple of four belong to the submessage in front
      rw [Submessage.padding] at hfirst
      rw [messageBytes, List.flatMap_nil, List.length_nil] at hgap
      refine ⟨[first.extend gap, submessage], ⟨?_, hlast⟩, ?_, rfl⟩
      · rw [Submessage.extend, Submessage.padding, List.length_append]
        dsimp only
        omega
      · simp [messageBytes, Submessage.bytes_extend]
    | cons second submessages =>
      obtain ⟨submessages', hwell, hbytes, hmap⟩ := ih h.tail (by
        have haligned := h.1
        rw [Submessage.padding] at haligned
        rw [alignment]
        omega)
      have hne : submessages' ≠ [] := by
        rintro rfl
        simp at hmap
      obtain ⟨next, rest, rfl⟩ := List.exists_cons_of_ne_nil hne
      refine ⟨first :: next :: rest, ⟨h.1, hwell⟩, ?_, ?_⟩
      · rw [messageBytes, List.flatMap_cons, ← messageBytes, List.append_assoc, List.append_assoc,
          ← List.append_assoc (messageBytes _), hbytes]
        rfl
      · rw [List.map_cons, hmap]
        rfl

theorem Packs.nil : Packs [] [] := ⟨[], trivial, rfl, rfl⟩

theorem Packs.append {bytes gap : List UInt8} {message : List PackedSubmessage}
    (h : Packs bytes message) (hgap : gap.length = alignment bytes.length)
    {submessage : Submessage} (hlast : submessage.gap.length ≤ submessage.padding) :
    Packs (bytes ++ gap ++ submessage.bytes) (message ++ [submessage.packed]) := by
  obtain ⟨submessages, hwell, rfl, rfl⟩ := h
  obtain ⟨submessages', hwell', hbytes, hmap⟩ := wellFormed_append hwell hgap hlast
  exact ⟨submessages', hwell', hbytes, hmap⟩

/-- There are submessages exactly where there are bytes. -/
theorem Packs.ne_nil {bytes : List UInt8} {message : List PackedSubmessage}
    (h : Packs bytes message) (hbytes : bytes ≠ []) : message ≠ [] := by
  obtain ⟨submessages, -, rfl, rfl⟩ := h
  rintro hnil
  obtain rfl := List.map_eq_nil_iff.mp hnil
  exact hbytes rfl

/-! ## The header in front of a payload -/

theorem otherFlags_or_endianness (flags : UInt8) (e : Endianness) :
    otherFlags (flags ||| e.value) = otherFlags flags := by
  have hset : ∀ i : Fin 256, otherFlags (UInt8.ofFin i ||| 1) = otherFlags (UInt8.ofFin i) := by
    decide +kernel
  cases e with
  | bigEndianness => exact congrArg otherFlags UInt8.or_zero
  | littleEndianness => exact hset flags.toFin

section

variable [MicroCdr]

/-- The submessage that a header and a payload are, with some bytes behind them. -/
def bufferedSubmessage (id flags : UInt8) (payload gap : List UInt8)
    (hlength : payload.length < 65536) : Submessage where
  id
  flags := flags ||| machineEndianness.value
  payload
  gap
  length_lt := hlength

theorem bufferedSubmessage_packed (id flags : UInt8) (payload gap : List UInt8)
    (hlength : payload.length < 65536) :
    (bufferedSubmessage id flags payload gap hlength).packed =
      { id, flags := otherFlags flags, payload } := by
  rw [Submessage.packed, bufferedSubmessage, otherFlags_or_endianness]

theorem bufferedSubmessage_bytes (id flags : UInt8) (payload gap : List UInt8)
    (hlength : payload.length < 65536) :
    (bufferedSubmessage id flags payload gap hlength).bytes =
      submessageHeaderBytes id (UInt16.ofNat payload.length) flags ++ (payload ++ gap) := by
  have hlow : payload.length % 65536 = payload.length := Nat.mod_eq_of_lt hlength
  rw [submessageHeaderBytes, encodeScalar_byte, encodeScalar_byte, UInt16.toNat_ofNat', hlow]
  rfl

/-- One more submessage in memory, behind the alignment of those that are there. -/
theorem Packs.behind {m m' : Memory} {a a' size size' : Nat} {message : List PackedSubmessage}
    {id flags : UInt8} {payload : List UInt8} (h : Packs (read m a size) message)
    (hlength : payload.length < 65536) (hkept : read m' a' size = read m a size)
    (hbytes : read m' (a' + (size + alignment size)) (4 + payload.length) =
      submessageHeaderBytes id (UInt16.ofNat payload.length) flags ++ payload)
    (hroom : size + alignment size + (4 + payload.length) ≤ size')
    (hclose : size' ≤ size + alignment size + (4 + payload.length) + alignment payload.length) :
    Packs (read m' a' size') (message ++ [{ id, flags := otherFlags flags, payload }]) := by
  obtain ⟨rest, rfl⟩ := Nat.exists_eq_add_of_le hroom
  rw [read_append, read_append, read_append, hkept, hbytes, List.append_assoc _ (_ ++ _),
    List.append_assoc (submessageHeaderBytes _ _ _), ← bufferedSubmessage_bytes _ _ _ _ hlength,
    ← bufferedSubmessage_packed id flags payload
      (read m' (a + (size + alignment size + (4 + payload.length))) rest) hlength]
  refine h.append ?_ ?_
  · rw [read_length, read_length]
  · show (read m' _ rest).length ≤ alignment payload.length
    rw [read_length]
    omega

end

/-! ## Reading it back -/

section

variable [MicroCdr]

/-- The submessages that `uxr_read_submessage_header` finds in a message when it goes on behind the
length in each header: header and payload of each, and how many bytes are left over. -/
def parseSubmessages : Nat → Memory → UcdrBuffer →
    Option (List (SubmessageHeader × List UInt8) × Nat)
  | 0, _, _ => none
  | fuel + 1, memory, ub =>
    let ((found, header), memory, c) :=
      plainEnv.read (readSubmessageHeader { id := 0, length := 0, flags := 0 }) memory ub
    if found then
      let payload := read memory c.ub.iterator header.length.toNat
      let (memory, ub) := ucdrAdvanceBuffer Device.plain memory c.ub header.length.toNat
      (parseSubmessages fuel memory ub).map fun (submessages, left) =>
        ((header, payload) :: submessages, left)
    else
      some ([], ucdrBufferRemaining ub)

/-- The submessages of a message of that length, behind its header. -/
def parseMessage (memory : Memory) (buffer length offset : Nat) :
    Option (List (SubmessageHeader × List UInt8) × Nat) :=
  parseSubmessages (length + 1) memory (ucdrInitBufferOriginOffset buffer length 0 offset)

/-- What is read of a submessage. -/
def PackedSubmessage.parsed (submessage : PackedSubmessage) : SubmessageHeader × List UInt8 :=
  ({ id := submessage.id
     length := UInt16.ofNat submessage.payload.length
     flags := submessage.flags }, submessage.payload)

variable [StickyMicroCdr]

/-- In front of submessages, all of them are read. -/
theorem parseSubmessages_before {submessages : List Submessage} (hwell : WellFormed submessages)
    {fuel offset : Nat} (hfuel : submessages.length < fuel) {memory : Memory} {ub : UcdrBuffer}
    {b : Block} (h : Holds Device.plain memory ub b) (hbefore : b.Before offset submessages)
    (hleft : submessages = [] → b.bytes.length < 4) :
    ∃ left < 4, parseSubmessages fuel memory ub =
      some (submessages.map fun submessage => submessage.packed.parsed, left) := by
  induction submessages generalizing fuel offset ub b with
  | nil =>
    obtain ⟨fuel, rfl⟩ := Nat.exists_eq_succ_of_ne_zero (Nat.ne_zero_of_lt hfuel)
    have hcursor : Holds plainEnv.dev memory (Cursor.mk ub none).ub b := h
    obtain ⟨t, hend⟩ := readSubmessageHeader_end hcursor hbefore { id := 0, length := 0, flags := 0 }
    have hremaining : ucdrBufferRemaining ub = b.bytes.length := hcursor.remaining
    refine ⟨b.bytes.length, hleft rfl, ?_⟩
    rw [parseSubmessages, ReadEnv.read, hend, ← hremaining]
    rfl
  | cons submessage submessages ih =>
    obtain ⟨fuel, rfl⟩ := Nat.exists_eq_succ_of_ne_zero (Nat.ne_zero_of_lt hfuel)
    have hcursor : Holds plainEnv.dev memory (Cursor.mk ub none).ub b := h
    obtain ⟨haligned, ub₁, hheader, h₁⟩ := readSubmessageHeader_next hcursor hbefore
      { id := 0, length := 0, flags := 0 }
    have hroom : submessage.payload.length ≤
        (submessage.block offset submessages).bytes.length := by
      rw [Submessage.block, List.append_assoc, List.length_append]
      exact Nat.le_add_right _ _
    have hpayload : read memory ub₁.iterator submessage.payload.length = submessage.payload := by
      refine (h₁.read_eq hroom).trans ?_
      rw [Submessage.block, List.append_assoc, List.take_left]
    -- the buffer behind the payload
    obtain ⟨ub₂, hadvance, h₂⟩ := holds_advance h₁ submessage.payload.length
    rw [Block.take_behind rfl hroom] at h₂
    have hmoved : Moved (submessage.block offset submessages)
        ((submessage.block offset submessages).behind submessage.payload.length 1)
        submessage.payload.length submessage.payload.length :=
      ⟨rfl, fun _ _ => ⟨rfl, rfl, .inl (show 1 < 4 by decide)⟩⟩
    obtain ⟨hbefore', hlength⟩ := hmoved.before haligned hwell (.inl rfl)
    obtain ⟨left, hlt, hrest⟩ := @ih hwell.tail fuel _ (Nat.lt_of_succ_lt_succ hfuel) ub₂ _ h₂ hbefore' (by
      rintro rfl
      have hgap := hwell.gap_le
      rw [Submessage.padding] at hgap
      rw [hlength, messageBytes, List.flatMap_nil, List.length_nil]
      omega)
    refine ⟨left, hlt, ?_⟩
    rw [parseSubmessages, ReadEnv.read, hheader]
    dsimp only
    rw [if_pos rfl, submessage.header_length_toNat, hpayload]
    rw [show ucdrAdvanceBuffer Device.plain memory ub₁ submessage.payload.length = (memory, ub₂) from
      hadvance]
    dsimp only
    rw [hrest]
    rfl

/-- A message whose bytes behind the header hold submessages is read as these, and fewer than four
bytes are left over. -/
theorem parseMessage_packs {memory : Memory} {buffer length offset : Nat} (haligned : offset % 4 = 0)
    (hle : offset ≤ length) {message : List PackedSubmessage}
    (h : Packs (read memory (buffer + offset) (length - offset)) message) :
    ∃ left < 4, parseMessage memory buffer length offset =
      some (message.map PackedSubmessage.parsed, left) := by
  obtain ⟨submessages, hwell, hbytes, rfl⟩ := h
  have hread := read_length memory (buffer + offset) (length - offset)
  have hholds : Holds Device.plain memory (ucdrInitBufferOriginOffset buffer length 0 offset)
      { bytes := messageBytes submessages
        offset
        lastDataSize := 0
        endianness := machineEndianness
        failed := false } := by
    rw [LawfulMicroCdr.init, Nat.zero_add]
    refine ⟨fun _ _ => rfl, rfl, ?_, ?_, rfl, rfl, rfl, rfl⟩
    · dsimp only
      rw [← hbytes, hread]
      omega
    · dsimp only
      rw [← hbytes, hread]
      rfl
  have hpadding : (Block.mk (messageBytes submessages) offset 0 machineEndianness false).padding 4 =
      0 := by
    rw [Block.padding_four (.inr haligned), haligned]
  have hcount : submessages.length ≤ (messageBytes submessages).length := by
    rw [messageBytes, List.length_flatMap]
    refine Nat.le_trans (Nat.le_of_eq (by simp)) (List.sum_le_sum (f := fun _ => 1) fun submessage _ => ?_)
    rw [submessage.length_bytes]
    omega
  rw [← hbytes, hread] at hcount
  obtain ⟨left, hlt, hparse⟩ := parseSubmessages_before hwell
    (show submessages.length < length + 1 by omega) hholds
    ⟨by rw [hpadding]; rfl, fun _ => ⟨rfl, by rw [hpadding]; rfl, haligned⟩⟩
    (by rintro rfl; exact Nat.succ_pos 3)
  refine ⟨left, hlt, hparse.trans ?_⟩
  rw [List.map_map]
  rfl

end

end XrceClient
