import XrceClient.Session.BlockReading

/-!
# Reading from one block to the next

A payload that is spread over blocks is read with a callback that goes on to the next block.

- `Device.Continues`: the payload goes on in the next block where the last one ended.
- `Gets.split`, `Gets.withLast`: a transfer in two parts, and with another size kept for the
  padding.
- `deserializeFields_gets`: fields are read as the bytes that can be taken say.
-/

namespace XrceClient

open ByteMemory Program

/-- The next block continues the payload, and does not depend on the last field. -/
structure Device.Continues [MicroCdr] {σ : Type} (dev : Device σ) : Prop where
  offset : ∀ s ub s₁ ub₁, dev.onFull s ub = (false, s₁, ub₁) → ub₁.offset = ub.offset
  endianness : ∀ s ub s₁ ub₁, dev.onFull s ub = (false, s₁, ub₁) →
    ub₁.endianness = machineEndianness
  lastDataSize : ∀ s ub s₁ ub₁ last, dev.onFull s ub = (false, s₁, ub₁) →
    dev.onFull s { ub with lastDataSize := last } = (false, s₁, ub₁)

/-- Without a callback there is no next block. -/
theorem continues_plain [MicroCdr] : Device.plain.Continues where
  offset _ _ _ _ h := by cases h
  endianness _ _ _ _ h := by cases h
  lastDataSize _ _ _ _ _ h := by cases h

section

variable {σ : Type} {dev : Device σ}

theorem Gets.length {n : Nat} {s s' : σ} {ub ub' : UcdrBuffer} {bs : List UInt8}
    (h : Gets dev n s ub bs s' ub') : bs.length = n := by
  induction h with
  | zero s ub => rfl
  | byte hok hlt hrest ih => exact congrArg (· + 1) ih
  | chain hok hfull hcall hroom hrest ih => exact ih

/-- Where bytes can be taken the buffer is not past its end. -/
theorem Gets.le {n : Nat} {s s' : σ} {ub ub' : UcdrBuffer} {bs : List UInt8}
    (h : Gets dev n s ub bs s' ub') (hn : 0 < n) : ub.iterator ≤ ub.final := by
  cases h with
  | zero => exact absurd hn (Nat.lt_irrefl 0)
  | byte hok hlt hrest => exact Nat.le_of_lt hlt
  | chain hok hfull hcall hroom hrest => exact Nat.le_of_eq hfull

/-- Bytes can be taken in two parts. -/
theorem Gets.split {n : Nat} {s s' : σ} {ub ub' : UcdrBuffer} {bs : List UInt8}
    (h : Gets dev n s ub bs s' ub') {k : Nat} (hk : k ≤ n) :
    ∃ s₁ ub₁, Gets dev k s ub (bs.take k) s₁ ub₁ ∧ Gets dev (n - k) s₁ ub₁ (bs.drop k) s' ub' := by
  induction h generalizing k with
  | zero s ub =>
    obtain rfl := Nat.le_zero.mp hk
    exact ⟨s, ub, .zero s ub, .zero s ub⟩
  | @byte n s s' ub ub' bs hok hlt hrest ih =>
    cases k with
    | zero => exact ⟨s, ub, .zero s ub, .byte hok hlt hrest⟩
    | succ k =>
      obtain ⟨s₁, ub₁, hfirst, hsecond⟩ := ih (Nat.le_of_succ_le_succ hk)
      refine ⟨s₁, ub₁, .byte hok hlt hfirst, ?_⟩
      rw [Nat.succ_sub_succ]
      exact hsecond
  | @chain n s s₁ s' ub ub₁ ub' bs hok hfull hcall hroom hrest ih =>
    cases k with
    | zero => exact ⟨s, ub, .zero s ub, .chain hok hfull hcall hroom hrest⟩
    | succ k =>
      obtain ⟨s₂, ub₂, hfirst, hsecond⟩ := ih hk
      exact ⟨s₂, ub₂, .chain hok hfull hcall hroom hfirst, hsecond⟩

variable [MicroCdr]

/-- The size that is kept for the padding does not matter. -/
theorem Gets.withLast (hdev : dev.Continues) {n : Nat} {s s' : σ} {ub ub' : UcdrBuffer}
    {bs : List UInt8} (h : Gets dev n s ub bs s' ub') (last : Nat) :
    ∃ last', Gets dev n s { ub with lastDataSize := last } bs s'
      { ub' with lastDataSize := last' } := by
  induction h with
  | zero s ub => exact ⟨last, .zero s _⟩
  | byte hok hlt hrest ih =>
    obtain ⟨last', hrest'⟩ := ih
    exact ⟨last', .byte hok hlt hrest'⟩
  | @chain n s s₁ s' ub ub₁ ub' bs hok hfull hcall hroom hrest ih =>
    have hcall' := hdev.lastDataSize s ub s₁ ub₁ last hcall
    exact ⟨ub'.lastDataSize, .chain hok hfull hcall' hroom hrest⟩

/-- The payload goes on from one block to the next. -/
theorem Gets.offset (hdev : dev.Continues) {n : Nat} {s s' : σ} {ub ub' : UcdrBuffer}
    {bs : List UInt8} (h : Gets dev n s ub bs s' ub') :
    ub'.offset = ub.offset + n ∧
      (ub.endianness = machineEndianness → ub'.endianness = machineEndianness) := by
  induction h with
  | zero s ub => exact ⟨rfl, id⟩
  | byte hok hlt hrest ih =>
    obtain ⟨hoffset, hendianness⟩ := ih
    rw [UcdrBuffer.next_offset] at hoffset
    exact ⟨by omega, hendianness⟩
  | @chain n s s₁ s' ub ub₁ ub' bs hok hfull hcall hroom hrest ih =>
    obtain ⟨hoffset, hendianness⟩ := ih
    rw [hdev.offset s ub s₁ ub₁ hcall] at hoffset
    exact ⟨hoffset, fun _ => hendianness (hdev.endianness s ub s₁ ub₁ hcall)⟩

end

/-! ## Fields -/

section

variable [MicroCdr] [LawfulMicroCdr] {σ : Type} {dev : Device σ}

/-- A buffer operation on a device. -/
abbrev handleBuffer (dev : Device σ) {β : Type} (op : BufferOp β) (t : σ × UcdrBuffer) :
    β × σ × UcdrBuffer :=
  op.handle dev t.1 t.2

/-- A field is read from the bytes that can be taken. -/
theorem deserialize_gets {type : FieldType} {s s' : σ} {ub ub' : UcdrBuffer} {bs : List UInt8}
    (hdev : dev.Continues) (hpacked : type.PackedAt ub.offset ub.lastDataSize)
    (h : Gets dev type.size s ub bs s' ub') :
    type.deserialize.run (handleBuffer dev) (s, ub) =
      (some (type.decode ub.endianness bs), s', { ub' with lastDataSize := type.last }) := by
  cases type with
  | scalar width =>
    obtain ⟨hwidth, haligned⟩ := hpacked
    have hpad := padding_eq_zero haligned
    have hpos : 0 < width := by
      refine Nat.pos_of_ne_zero ?_
      rintro rfl
      simp at hwidth
    have hle := h.le hpos
    have halign : ucdrAlignTo ub width = { ub with lastDataSize := width } := by
      rw [LawfulMicroCdr.alignTo ub width hwidth hle, hpad, Nat.add_zero, Nat.min_eq_left hle]
      rfl
    obtain ⟨last', hget⟩ := h.withLast hdev width
    rw [← halign] at hget
    have hread := LawfulMicroCdr.deserialize ub.endianness hwidth (by omega) hget
    show ((ucdrDeserialize dev s ub ub.endianness width).1.map (Field.scalar width),
      (ucdrDeserialize dev s ub ub.endianness width).2) = _
    rw [hread]
    rfl
  | array size =>
    have h : Gets dev size s ub bs s' ub' := h
    have hread := LawfulMicroCdr.deserializeArray h
    show ((ucdrDeserializeArray dev s ub size).1.map Field.array,
      (ucdrDeserializeArray dev s ub size).2) = _
    rw [hread]
    rfl

/-- Fields are read from the bytes that can be taken, and what is behind them can be taken then. -/
theorem deserializeFields_gets {types : List FieldType} {n : Nat} {s s' : σ} {ub ub' : UcdrBuffer}
    {bs : List UInt8} (hdev : dev.Continues) (hmachine : ub.endianness = machineEndianness)
    (hpacked : Packed ub.offset ub.lastDataSize types)
    (h : Gets dev (fieldsSize types + n) s ub bs s' ub') :
    ∃ s₁ ub₁ ub₂, (deserializeFields types).run (handleBuffer dev) (s, ub) =
        (decodeFields machineEndianness types bs, s₁, ub₁) ∧
      ub₁.offset = ub.offset + fieldsSize types ∧
      Gets dev n s₁ ub₁ (bs.drop (fieldsSize types)) s' ub₂ := by
  induction types generalizing s ub bs ub' with
  | nil =>
    refine ⟨s, ub, ub', rfl, rfl, ?_⟩
    rw [fieldsSize_nil, Nat.zero_add] at h
    exact h
  | cons type types ih =>
    obtain ⟨hfield, hpacked⟩ := hpacked
    rw [fieldsSize_cons, Nat.add_assoc] at h
    have hlength := h.length
    obtain ⟨s₁, ub₁, hfirst, hrest⟩ := h.split (Nat.le_add_right _ _)
    rw [Nat.add_sub_cancel_left] at hrest
    obtain ⟨hoffset, hendianness⟩ := hfirst.offset hdev
    obtain ⟨last', hrest⟩ := hrest.withLast hdev type.last
    rw [← hoffset] at hpacked
    obtain ⟨s₂, ub₂, ub₃, hrun, hoffset₂, hbehind⟩ :=
      @ih s₁ { ub₁ with lastDataSize := type.last } _ _ (hendianness hmachine) hpacked hrest
    refine ⟨s₂, ub₂, ub₃, ?_, ?_, ?_⟩
    · rw [deserializeFields, run_bind, deserialize_gets hdev hfield hfirst, run_bind, hrun, run_pure,
        hmachine, decodeFields, if_pos (by omega)]
    · rw [fieldsSize_cons, hoffset₂]
      dsimp only
      omega
    · rw [fieldsSize_cons, ← List.drop_drop]
      exact hbehind

end

end XrceClient
