import XrceClient.Session.ChainReading
import XrceClient.Session.FieldLayout
import XrceClient.Stream.DeviceWrites

/-!
# Fields through a device

What serializers put into a buffer, whatever the memory behind it and however many blocks it has.
The padding in front of a field is not written: the bytes there are the ones that the memory had.

- `LaidOut`: bytes that hold fields, each behind its padding.
- `Writable`: there is room for so many bytes.
- `PaddingKept`: no block ends within the padding of the fields.
- `Writable.fields`: where both is so, fields are put one behind the other.
- `Writes`: a serializer writes the given fields, through any device.
-/

namespace XrceClient

open ByteMemory

/-! ## Bytes that hold fields -/

/-- How much padding there is in front of a field. -/
def gapBefore (offset last : Nat) : FieldType → Nat
  | .scalar width => if last < width then (width - offset % width) % width else 0
  | .array _ => 0

/-- The bytes hold the fields, from an offset on, each of them behind its padding. -/
inductive LaidOut (e : Endianness) : Nat → Nat → List Field → List UInt8 → Prop
  | nil (offset last : Nat) : LaidOut e offset last [] []
  | cons {offset last : Nat} {field : Field} {fields : List Field} {gap rest : List UInt8}
      (hgap : gap.length = gapBefore offset last field.type)
      (hrest : LaidOut e (offset + (gap ++ field.encode e).length) field.type.last fields rest) :
      LaidOut e offset last (field :: fields) (gap ++ field.encode e ++ rest)

/-- The number of the bytes that hold fields. -/
def laidSize : Nat → Nat → List Field → Nat
  | _, _, [] => 0
  | offset, last, field :: fields =>
    let size := gapBefore offset last field.type + field.type.size
    size + laidSize (offset + size) field.type.last fields

section

variable {e : Endianness} {offset offset' last last' : Nat} {fields : List Field}
  {payload : List UInt8}

theorem LaidOut.length (h : LaidOut e offset last fields payload) :
    payload.length = laidSize offset last fields := by
  induction h with
  | nil offset last => rfl
  | cons hgap hrest ih =>
    rw [List.length_append, ih, List.length_append, hgap, Field.encode_length]
    rfl

/-- Integers of four bytes at most lie the same way from all multiples of four on. -/
theorem LaidOut.shift (h : LaidOut e offset last fields payload)
    (hwidth : ∀ width value, Field.scalar width value ∈ fields → width ∈ [1, 2, 4])
    (hsame : offset % 4 = offset' % 4) : LaidOut e offset' last fields payload := by
  induction h generalizing offset' with
  | nil offset last => exact .nil offset' last
  | @cons offset last field fields gap rest hgap hrest ih =>
    refine .cons ?_ (ih (fun width value hmem => hwidth width value (List.mem_cons_of_mem _ hmem))
      (by omega))
    rw [hgap]
    cases field with
    | array bytes => rfl
    | scalar width value =>
      have hmem := hwidth width value List.mem_cons_self
      have hmod : offset % width = offset' % width := by
        simp only [List.mem_cons, List.not_mem_nil, or_false] at hmem
        rcases hmem with rfl | rfl | rfl <;> omega
      rw [Field.type, gapBefore, gapBefore, hmod]

/-- At a multiple of four there is no padding. -/
theorem LaidOut.front (h : LaidOut e offset last fields payload)
    (hwidth : ∀ width value, Field.scalar width value ∈ fields → width ∈ [1, 2, 4])
    (haligned : offset % 4 = 0) (last' : Nat) : LaidOut e offset last' fields payload := by
  cases h with
  | nil => exact .nil offset last'
  | @cons _ _ field fields gap rest hgap hrest =>
    have hnone (last : Nat) : gapBefore offset last field.type = 0 := by
      cases field with
      | array bytes => rfl
      | scalar width value =>
        have hmem := hwidth width value List.mem_cons_self
        simp only [List.mem_cons, List.not_mem_nil, or_false] at hmem
        rw [Field.type, gapBefore]
        split
        · rcases hmem with rfl | rfl | rfl <;> omega
        · rfl
    refine .cons ?_ hrest
    rw [hgap, hnone, hnone]

/-- Fields that need no padding are their encodings. -/
theorem LaidOut.packed (h : LaidOut e offset last fields payload)
    (hpacked : Packed offset last (fields.map Field.type)) : payload = encodeFields e fields := by
  induction h with
  | nil offset last => rfl
  | @cons offset last field fields gap rest hgap hrest ih =>
    obtain ⟨hfield, hfields⟩ := hpacked
    have hnone : gap = [] := by
      refine List.length_eq_zero_iff.mp (hgap.trans ?_)
      cases field with
      | array bytes => rfl
      | scalar width value =>
        rw [Field.type, gapBefore]
        split
        · next hlt => rw [hfield.2 hlt, Nat.sub_zero, Nat.mod_self]
        · rfl
    subst hnone
    rw [List.nil_append, Field.encode_length] at ih
    rw [encodeFields_cons, List.nil_append, ih hfields]

namespace UcdrBuffer

variable (ub : UcdrBuffer)

theorem start_eq (type : FieldType) :
    ub.start type = ub.iterator + gapBefore ub.offset ub.lastDataSize type := by
  cases type <;> rfl

theorem behind_offset (type : FieldType) :
    (ub.behind type).offset =
      ub.offset + (gapBefore ub.offset ub.lastDataSize type + type.size) := by
  cases type with
  | scalar width => exact Nat.add_assoc _ _ _
  | array size => exact congrArg (ub.offset + ·) (Nat.zero_add size).symm

theorem behind_lastDataSize (type : FieldType) : (ub.behind type).lastDataSize = type.last := by
  cases type <;> rfl

/-- Behind fields, as far as these reach. -/
theorem after_laid (fields : List Field) :
    (ub.after fields).iterator = ub.iterator + laidSize ub.offset ub.lastDataSize fields ∧
      (ub.after fields).offset = ub.offset + laidSize ub.offset ub.lastDataSize fields := by
  induction fields generalizing ub with
  | nil => exact ⟨rfl, rfl⟩
  | cons field fields ih =>
    obtain ⟨hiterator, hoffset⟩ := ih (ub.behind field.type)
    rw [behind_iterator, start_eq, behind_offset, behind_lastDataSize] at hiterator
    rw [behind_offset, behind_lastDataSize] at hoffset
    rw [after_cons, laidSize]
    constructor
    · omega
    · omega

end UcdrBuffer

/-- Where the bytes lie in memory, the fields do. -/
theorem LaidOut.fieldsAt {m : Memory} {ub : UcdrBuffer}
    (h : LaidOut ub.endianness ub.offset ub.lastDataSize fields payload)
    (hread : read m ub.iterator payload.length = payload) : FieldsAt m ub fields := by
  induction fields generalizing ub payload with
  | nil => exact trivial
  | cons field fields ih =>
    cases h with
    | @cons _ _ _ _ gap rest hgap hrest =>
      have hlength := Field.encode_length ub.endianness field
      rw [List.append_assoc, List.length_append, read_append] at hread
      obtain ⟨-, hread⟩ := List.append_inj hread (read_length _ _ _)
      rw [List.length_append, read_append] at hread
      obtain ⟨hfield, hread⟩ := List.append_inj hread (read_length _ _ _)
      rw [List.length_append, hgap, hlength, ← ub.behind_offset, ← ub.behind_lastDataSize,
        ← ub.behind_endianness field.type] at hrest
      -- the padding is the one of the buffer
      have hstart : ub.start field.type = ub.iterator + gap.length := by
        rw [hgap]
        exact ub.start_eq field.type
      refine ⟨?_, ih hrest ?_⟩
      · rw [hstart, ← hlength]
        exact hfield
      · rw [ub.behind_iterator, hstart, ← hlength]
        exact hread

/-- Where fields lie in memory, there are bytes that hold them. -/
theorem FieldsAt.laidOut {m : Memory} {ub : UcdrBuffer} (h : FieldsAt m ub fields) :
    LaidOut ub.endianness ub.offset ub.lastDataSize fields
      (read m ub.iterator (laidSize ub.offset ub.lastDataSize fields)) := by
  induction fields generalizing ub with
  | nil => exact .nil _ _
  | cons field fields ih =>
    obtain ⟨hfield, hfields⟩ := h
    have hrest := ih hfields
    rw [ub.behind_offset, ub.behind_lastDataSize, ub.behind_endianness, ub.behind_iterator,
      ub.start_eq] at hrest
    rw [ub.start_eq] at hfield
    rw [laidSize, read_append, read_append, hfield]
    refine .cons (read_length _ _ _) ?_
    rw [List.length_append, read_length, Field.encode_length, ← Nat.add_assoc ub.iterator]
    exact hrest

end

/-! ## Room -/

section

variable {σ : Type} {dev : Device σ}

/-- What is stored where it was loaded from changes nothing. -/
def Device.StoresBack (dev : Device σ) : Prop := ∀ s a, dev.store s a (dev.load s a) = s

theorem Puts.append {s s₁ s' : σ} {ub ub₁ ub' : UcdrBuffer} {front back : List UInt8}
    (hfront : Puts dev front s ub s₁ ub₁) (hback : Puts dev back s₁ ub₁ s' ub') :
    Puts dev (front ++ back) s ub s' ub' := by
  induction hfront with
  | nil s ub => exact hback
  | byte hok hlt _ ih => exact .byte hok hlt (ih hback)
  | chain hok hfull hcall hroom _ ih => exact .chain hok hfull hcall hroom (ih hback)

/-- As long as there is room in the block, bytes are put there. -/
theorem Puts.within {s s' : σ} {ub ub' : UcdrBuffer} {bytes : List UInt8}
    (h : Puts dev bytes s ub s' ub') (hroom : ub.iterator + bytes.length ≤ ub.final) :
    ub'.iterator = ub.iterator + bytes.length ∧ ub'.final = ub.final := by
  induction h with
  | nil s ub => exact ⟨rfl, rfl⟩
  | byte hok hlt hrest ih =>
    rw [List.length_cons] at hroom
    obtain ⟨hiterator, hfinal⟩ := ih (by
      rw [UcdrBuffer.next_iterator, UcdrBuffer.next_final]
      omega)
    rw [UcdrBuffer.next_iterator] at hiterator
    refine ⟨?_, hfinal⟩
    rw [hiterator, List.length_cons]
    omega
  | chain hok hfull hcall hroom' hrest ih =>
    rw [List.length_cons] at hroom
    omega

/-- The bytes that are in a block are put there once more. -/
theorem puts_back (hstores : dev.StoresBack) (s : σ) {ub : UcdrBuffer} (hok : ub.error = false)
    {n : Nat} (hroom : ub.iterator + n ≤ ub.final) :
    ∃ bytes, bytes.length = n ∧ Puts dev bytes s ub s
      { ub with iterator := ub.iterator + n, offset := ub.offset + n } := by
  induction n generalizing ub with
  | zero => exact ⟨[], rfl, .nil s ub⟩
  | succ n ih =>
    obtain ⟨bytes, hlength, hputs⟩ := @ih ub.next hok (by
      rw [UcdrBuffer.next_iterator, UcdrBuffer.next_final]
      omega)
    refine ⟨dev.load s ub.iterator :: bytes, congrArg (· + 1) hlength, .byte hok (by omega) ?_⟩
    rw [hstores]
    rw [UcdrBuffer.next_iterator, UcdrBuffer.next_offset, Nat.add_assoc, Nat.add_assoc,
      Nat.add_comm 1] at hputs
    exact hputs

/-- All bytes of that number can be put. -/
def HasRoom (dev : Device σ) (n : Nat) (s : σ) (ub : UcdrBuffer) : Prop :=
  ∀ bytes : List UInt8, bytes.length = n → ∃ s' ub', Puts dev bytes s ub s' ub'

/-- Wherever one of so many bytes is put, all that are left are put in the block, or the block ends
at a multiple of four. -/
def EndsAligned (dev : Device σ) (n : Nat) (s : σ) (ub : UcdrBuffer) : Prop :=
  ∀ bytes s' ub', bytes.length ≤ n → Puts dev bytes s ub s' ub' →
    ub'.iterator + (n - bytes.length) ≤ ub'.final ∨
      (ub'.offset + (ub'.final - ub'.iterator)) % 4 = 0

/-- Less room. -/
theorem HasRoom.mono {n k : Nat} {s : σ} {ub : UcdrBuffer} (h : HasRoom dev n s ub) (hle : k ≤ n) :
    HasRoom dev k s ub := by
  intro bytes hlength
  obtain ⟨s', ub', hputs⟩ := h (bytes ++ List.replicate (n - k) 0) (by
    rw [List.length_append, List.length_replicate]
    omega)
  obtain ⟨s₁, ub₁, hfront, -⟩ := hputs.split
  exact ⟨s₁, ub₁, hfront⟩

/-- Where there is room for something, the buffer is not in error. -/
theorem HasRoom.error {n : Nat} {s : σ} {ub : UcdrBuffer} (h : HasRoom dev n s ub) (hpos : 0 < n) :
    ub.error = false := by
  obtain ⟨s', ub', hputs⟩ := h.mono hpos [0] rfl
  cases hputs with
  | byte hok => exact hok
  | chain hok => exact hok

/-- In one block there is no end within padding. -/
theorem endsAligned_within {n : Nat} {s : σ} {ub : UcdrBuffer}
    (hroom : ub.iterator + n ≤ ub.final) :
    EndsAligned dev n s ub := by
  intro bytes s' ub' hle hputs
  obtain ⟨hiterator, hfinal⟩ := hputs.within (by omega)
  left
  omega

end

section

variable [MicroCdr] {σ : Type} {dev : Device σ}

theorem Puts.endianness (hdev : dev.Continues) {s s' : σ} {ub ub' : UcdrBuffer}
    {bytes : List UInt8} (h : Puts dev bytes s ub s' ub')
    (hmachine : ub.endianness = machineEndianness) : ub'.endianness = machineEndianness := by
  induction h with
  | nil s ub => exact hmachine
  | byte hok hlt hrest ih => exact ih hmachine
  | chain hok hfull hcall hroom hrest ih => exact ih (hdev.endianness _ _ _ _ hcall)

/-- A buffer with room for so many bytes. -/
structure Writable (dev : Device σ) (n : Nat) (s : σ) (ub : UcdrBuffer) : Prop where
  room : HasRoom dev n s ub
  le : ub.iterator ≤ ub.final
  endianness : ub.endianness = machineEndianness

/-- Where the fields are put, no block ends within padding. -/
def PaddingKept (dev : Device σ) : List Field → σ → UcdrBuffer → Prop
  | [], _, _ => True
  | field :: fields, s, ub =>
    ub.iterator + gapBefore ub.offset ub.lastDataSize field.type ≤ ub.final ∧
      ∀ gap s' ub', gap.length = gapBefore ub.offset ub.lastDataSize field.type →
        Puts dev (gap ++ field.encode machineEndianness) s ub s' ub' →
        PaddingKept dev fields s' (ub'.marked machineEndianness field.type.last)

/-- Behind some of the bytes there is room for the others. -/
theorem Writable.after (hdev : dev.Continues) {n : Nat} {s s₁ : σ} {ub ub₁ : UcdrBuffer}
    {front : List UInt8} (h : Writable dev n s ub) (hfront : Puts dev front s ub s₁ ub₁)
    (hle : front.length ≤ n) : Writable dev (n - front.length) s₁ ub₁ where
  room := by
    intro bytes hlength
    obtain ⟨s', ub', hputs⟩ := h.room (front ++ bytes) (by
      rw [List.length_append]
      omega)
    obtain ⟨s₂, ub₂, hfront₂, hback⟩ := hputs.split
    obtain ⟨rfl, rfl⟩ := hfront.deterministic hfront₂
    exact ⟨s', ub', hback⟩
  le := hfront.le h.le
  endianness := hfront.endianness hdev h.endianness

/-- The size of the last scalar does not matter. -/
theorem Writable.marked (hdev : dev.Regular) {n : Nat} {s : σ} {ub : UcdrBuffer}
    (h : Writable dev n s ub) (last : Nat) :
    Writable dev n s (ub.marked machineEndianness last) where
  room := by
    intro bytes hlength
    obtain ⟨s', ub', hputs⟩ := h.room bytes hlength
    obtain ⟨e, last', hmarked⟩ := hputs.marked hdev machineEndianness last
    exact ⟨s', _, hmarked⟩
  le := h.le
  endianness := rfl

omit [MicroCdr] in
/-- Behind some of the bytes, whatever the marks of the buffer. -/
theorem EndsAligned.behind (hdev : dev.Regular) {n : Nat} {s s₁ : σ} {ub ub₁ : UcdrBuffer}
    (h : EndsAligned dev n s ub) {front : List UInt8} (hfront : Puts dev front s ub s₁ ub₁)
    (hle : front.length ≤ n) (e : Endianness) (last : Nat) :
    EndsAligned dev (n - front.length) s₁ (ub₁.marked e last) := by
  intro bytes s' ub' hlength hputs
  obtain ⟨e', last', hmarked⟩ := hputs.marked hdev ub₁.endianness ub₁.lastDataSize
  have hends := h (front ++ bytes) s' (ub'.marked e' last') (by
    rw [List.length_append]
    omega) (hfront.append hmarked)
  rw [List.length_append, ← Nat.sub_sub] at hends
  exact hends

omit [MicroCdr] in
/-- The padding in front of an integer of four bytes at most is in one block. -/
theorem EndsAligned.padding_le {n : Nat} {s : σ} {ub : UcdrBuffer} (h : EndsAligned dev n s ub)
    (hle : ub.iterator ≤ ub.final) {width : Nat} (hwidth : width ∈ [1, 2, 4])
    (hsize : ub.padding width ≤ n) : ub.iterator + ub.padding width ≤ ub.final := by
  rcases h [] s ub (Nat.zero_le n) (.nil s ub) with hroom | haligned
  · rw [List.length_nil, Nat.sub_zero] at hroom
    omega
  · -- the end of the block is a multiple of the width
    by_contra hcut
    rw [UcdrBuffer.padding] at hcut hsize
    simp only [List.mem_cons, List.not_mem_nil, or_false] at hwidth
    split at hcut
    · rcases hwidth with rfl | rfl | rfl <;> omega
    · omega

/-- Where blocks end at multiples of four, they do not end within padding. -/
theorem EndsAligned.paddingKept (hdev : dev.Regular) {fields : List Field}
    (hwidth : ∀ width value, Field.scalar width value ∈ fields → width ∈ [1, 2, 4]) {n : Nat}
    {s : σ} {ub : UcdrBuffer} (h : EndsAligned dev n s ub) (hle : ub.iterator ≤ ub.final)
    (hsize : laidSize ub.offset ub.lastDataSize fields ≤ n) : PaddingKept dev fields s ub := by
  induction fields generalizing n s ub with
  | nil => trivial
  | cons field fields ih =>
    rw [laidSize] at hsize
    constructor
    · cases field with
      | array bytes => exact hle
      | scalar width value =>
        refine h.padding_le hle (hwidth width value List.mem_cons_self) ?_
        change ub.padding width + width + _ ≤ n at hsize
        omega
    · intro gap s' ub' hgap hputs
      have hlength : (gap ++ field.encode machineEndianness).length =
          gapBefore ub.offset ub.lastDataSize field.type + field.type.size := by
        rw [List.length_append, hgap, Field.encode_length]
      refine ih (fun width value hmem => hwidth width value (List.mem_cons_of_mem _ hmem))
        (h.behind hdev hputs (by omega) machineEndianness field.type.last) (hputs.le hle) ?_
      show laidSize ub'.offset field.type.last fields ≤ _
      rw [hputs.offset hdev, hlength]
      omega

variable [LawfulMicroCdr]

/-- A field is put behind its padding, where there is room for both. -/
theorem Writable.field (hdev : dev.Regular) (hcontinues : dev.Continues) (hstores : dev.StoresBack)
    {n : Nat} {s : σ} {ub : UcdrBuffer} (h : Writable dev n s ub) {field : Field}
    (hwidth : ∀ width value, field = .scalar width value → width ∈ [1, 2, 4])
    (hsize : gapBefore ub.offset ub.lastDataSize field.type + field.type.size ≤ n)
    (hkept : ub.iterator + gapBefore ub.offset ub.lastDataSize field.type ≤ ub.final) :
    ∃ gap s' ub', gap.length = gapBefore ub.offset ub.lastDataSize field.type ∧
      Puts dev (gap ++ field.encode machineEndianness) s ub s' ub' ∧
      serializeField dev s ub field =
        (true, s', ub'.marked machineEndianness field.type.last) := by
  cases field with
  | array bytes =>
    change 0 + bytes.length ≤ n at hsize
    obtain ⟨s', ub', hputs⟩ := h.room.mono (Nat.zero_add bytes.length ▸ hsize) bytes rfl
    refine ⟨[], s', ub', rfl, hputs, ?_⟩
    rw [serializeField, LawfulMicroCdr.serializeArray hputs, UcdrBuffer.marked,
      ← hputs.endianness hcontinues h.endianness]
    rfl
  | scalar width value =>
    have hmem := hwidth width value rfl
    have hk : width ∈ [1, 2, 4, 8] := by
      simp only [List.mem_cons, List.not_mem_nil, or_false] at hmem ⊢
      omega
    have hpos : 0 < width := by
      simp only [List.mem_cons, List.not_mem_nil, or_false] at hmem
      omega
    change ub.padding width + width ≤ n at hsize
    have hpad : ub.iterator + ub.padding width ≤ ub.final := hkept
    -- the padding, and then the integer
    obtain ⟨gap, hgap, hback⟩ := puts_back hstores s (h.room.error (by omega)) hpad
    obtain ⟨s', ub', hputs⟩ := (h.after hcontinues hback (by omega)).room.mono
      (show width ≤ _ by omega) (encodeScalar machineEndianness width value)
      (encodeScalar_length _ _ _)
    refine ⟨gap, s', ub', hgap, hback.append hputs, ?_⟩
    have halign := LawfulMicroCdr.alignTo ub width hk h.le
    rw [Nat.min_eq_left hpad] at halign
    obtain ⟨e, last, hmarked⟩ := hputs.marked hdev ub.endianness width
    have hendianness := hmarked.endianness hcontinues h.endianness
    change Puts dev _ s { ub with
      iterator := ub.iterator + ub.padding width
      offset := ub.offset + ub.padding width
      lastDataSize := width } s' _ at hmarked
    rw [← halign] at hmarked
    rw [serializeField, h.endianness, LawfulMicroCdr.serialize machineEndianness hk hpad hmarked]
    change e = machineEndianness at hendianness
    rw [hendianness]
    rfl

/-- Fields are put one behind the other, where there is room for all of them. -/
theorem Writable.fields (hdev : dev.Regular) (hcontinues : dev.Continues)
    (hstores : dev.StoresBack) {fields : List Field}
    (hwidth : ∀ width value, Field.scalar width value ∈ fields → width ∈ [1, 2, 4]) {n : Nat}
    {s : σ} {ub : UcdrBuffer} (h : Writable dev n s ub)
    (hsize : laidSize ub.offset ub.lastDataSize fields ≤ n) (hkept : PaddingKept dev fields s ub) :
    ∃ payload s' ub' ub'', LaidOut machineEndianness ub.offset ub.lastDataSize fields payload ∧
      Puts dev payload s ub s' ub' ∧ serializeFields dev s ub fields = (true, s', ub'') := by
  induction fields generalizing n s ub with
  | nil => exact ⟨[], s, ub, ub, .nil _ _, .nil s ub, rfl⟩
  | cons field fields ih =>
    rw [laidSize] at hsize
    obtain ⟨gap, s₁, ub₁, hgap, hputs, hwritten⟩ := h.field hdev hcontinues hstores
      (fun width value heq => hwidth width value (heq ▸ List.mem_cons_self))
      (Nat.le_trans (Nat.le_add_right _ _) hsize) hkept.1
    have hlength : (gap ++ field.encode machineEndianness).length =
        gapBefore ub.offset ub.lastDataSize field.type + field.type.size := by
      rw [List.length_append, hgap, Field.encode_length]
    have hoffset := hputs.offset hdev
    obtain ⟨rest, s', ub₂, ub'', hlaid, hrest, hfields⟩ :=
      ih (fun width value hmem => hwidth width value (List.mem_cons_of_mem _ hmem))
        ((h.after hcontinues hputs (by omega)).marked hdev field.type.last)
        (show laidSize ub₁.offset field.type.last fields ≤ _ by
          rw [hoffset, hlength]
          omega) (hkept.2 gap s₁ ub₁ hgap hputs)
    obtain ⟨e, last, hback⟩ := hrest.marked hdev ub₁.endianness ub₁.lastDataSize
    refine ⟨gap ++ field.encode machineEndianness ++ rest, s', _, ub'', ?_, hputs.append hback, ?_⟩
    · refine .cons hgap ?_
      change LaidOut machineEndianness ub₁.offset field.type.last fields rest at hlaid
      rw [hoffset] at hlaid
      exact hlaid
    · rw [serializeFields, hwritten]
      dsimp only
      rw [hfields]
      rfl

end

/-! ## Serializers -/

section

variable [MicroCdr] {σ : Type} {dev : Device σ}

/-- Where the fields can be written, the serializer writes them. -/
def Writes (dev : Device σ) (serialize : σ → UcdrBuffer → Bool × σ × UcdrBuffer)
    (fields : List Field) : Prop :=
  ∀ s ub, (serializeFields dev s ub fields).1 = true →
    serialize s ub = serializeFields dev s ub fields

theorem writes_scalar (width value : Nat) :
    Writes dev (fun s ub => ucdrSerialize dev s ub ub.endianness width value)
      [.scalar width value] := by
  intro s ub _
  simp [serializeFields, serializeField]

theorem writes_array (bytes : List UInt8) :
    Writes dev (fun s ub => ucdrSerializeArray dev s ub bytes) [.array bytes] := by
  intro s ub _
  simp [serializeFields, serializeField]

theorem writes_nothing : Writes dev (fun s ub => (true, s, ub)) [] := fun _ _ _ => rfl

variable {f g h : σ → UcdrBuffer → Bool × σ × UcdrBuffer} {fields fields' : List Field}

/-- One serializer, and then another. -/
theorem Writes.and (hf : Writes dev f fields) (hg : Writes dev g fields') :
    Writes dev
      (fun s ub =>
        let (ok, s, ub) := f s ub
        let (ok', s, ub) := g s ub
        (ok && ok', s, ub)) (fields ++ fields') := by
  intro s ub hok
  rw [serializeFields_append] at hok ⊢
  obtain ⟨hfirst, hsecond⟩ := Bool.and_eq_true_iff.mp hok
  dsimp only
  rw [hf s ub hfirst, hg _ _ hsecond]

/-- One serializer, and another if the first one succeeds. -/
theorem Writes.andThen (hf : Writes dev f fields) (hg : Writes dev g fields')
    (hnext : ∀ {s ub s' ub'}, f s ub = (true, s', ub') → h s ub = g s' ub') :
    Writes dev h (fields ++ fields') := by
  intro s ub hok
  rw [serializeFields_append] at hok ⊢
  obtain ⟨hfirst, hsecond⟩ := Bool.and_eq_true_iff.mp hok
  rcases hresult : serializeFields dev s ub fields with ⟨ok, s', ub'⟩
  rw [hresult] at hfirst hsecond
  obtain rfl : ok = true := hfirst
  have hcall : f s ub = (true, s', ub') := (hf s ub (by rw [hresult])).trans hresult
  rw [hnext hcall, hg _ _ hsecond]
  simp

end

end XrceClient
