import XrceClient.Stream.Submessage

/-!
# Writing through a device

What can be said of bytes that are put into a buffer, whatever the device.

- `Puts.split`, `Puts.deterministic`: they are put one after the other, and in one way only.
- `Reaches`: the addresses that the next bytes of a buffer go to.
- `Device.Regular`: callbacks that do not look at the marks of a buffer, its byte order and the
  size of the last scalar. A header is four bytes that are put, then (`bufferSubmessageHeader_puts`).
- `Device.Projects`: a device that acts on a part of the state of another. What one does, the other
  does on that part.
-/

namespace XrceClient

section

variable {σ τ : Type} {dev : Device σ}

/-- Bytes that are put are put one after the other. -/
theorem Puts.split {s s' : σ} {ub ub' : UcdrBuffer} {front back : List UInt8}
    (h : Puts dev (front ++ back) s ub s' ub') :
    ∃ s₁ ub₁, Puts dev front s ub s₁ ub₁ ∧ Puts dev back s₁ ub₁ s' ub' := by
  obtain ⟨bs, hbs⟩ : ∃ bs, bs = front ++ back := ⟨_, rfl⟩
  rw [← hbs] at h
  induction h generalizing front with
  | nil s ub =>
    obtain ⟨rfl, rfl⟩ := List.append_eq_nil_iff.mp hbs.symm
    exact ⟨s, ub, .nil s ub, .nil s ub⟩
  | @byte b bs s s' ub ub' hok hlt hrest ih =>
    cases front with
    | nil =>
      obtain rfl : b :: bs = back := hbs
      exact ⟨s, ub, .nil s ub, .byte hok hlt hrest⟩
    | cons c front =>
      obtain ⟨rfl, hbs'⟩ := List.cons.inj hbs
      obtain ⟨s₁, ub₁, hfront, hback⟩ := ih hbs'
      exact ⟨s₁, ub₁, .byte hok hlt hfront, hback⟩
  | @chain b bs s s₁ s' ub ub₁ ub' hok hfull hcall hroom hrest ih =>
    cases front with
    | nil =>
      obtain rfl : b :: bs = back := hbs
      exact ⟨s, ub, .nil s ub, .chain hok hfull hcall hroom hrest⟩
    | cons c front =>
      obtain ⟨s₂, ub₂, hfront, hback⟩ := ih hbs
      obtain ⟨rfl, hbs'⟩ := List.cons.inj hbs
      exact ⟨s₂, ub₂, .chain hok hfull hcall hroom hfront, hback⟩


/-- There is one way to put bytes. -/
theorem Puts.deterministic {s s₁ s₂ : σ} {ub ub₁ ub₂ : UcdrBuffer} {bytes : List UInt8}
    (h₁ : Puts dev bytes s ub s₁ ub₁) (h₂ : Puts dev bytes s ub s₂ ub₂) : s₁ = s₂ ∧ ub₁ = ub₂ := by
  induction h₁ with
  | nil s ub =>
    cases h₂
    exact ⟨rfl, rfl⟩
  | byte hok hlt hrest ih =>
    cases h₂ with
    | byte _ _ hrest₂ => exact ih hrest₂
    | chain _ hfull => exact absurd hfull (Nat.ne_of_lt hlt)
  | chain hok hfull hcall hroom hrest ih =>
    cases h₂ with
    | byte _ hlt => exact absurd hfull (Nat.ne_of_lt hlt)
    | chain _ _ hcall₂ _ hrest₂ =>
      rw [hcall] at hcall₂
      cases hcall₂
      exact ih hrest₂

/-- The buffer does not go past the end of a block. -/
theorem Puts.le {s s' : σ} {ub ub' : UcdrBuffer} {bytes : List UInt8}
    (h : Puts dev bytes s ub s' ub') (hle : ub.iterator ≤ ub.final) : ub'.iterator ≤ ub'.final := by
  induction h with
  | nil s ub => exact hle
  | byte hok hlt hrest ih => exact ih hlt
  | chain hok hfull hcall hroom hrest ih => exact ih (Nat.le_of_lt hroom)

/-- Where something is put, the buffer is not past the end of its block. -/
theorem Puts.before {s s' : σ} {ub ub' : UcdrBuffer} {bytes : List UInt8}
    (h : Puts dev bytes s ub s' ub') (hne : bytes ≠ []) : ub.iterator ≤ ub.final := by
  cases h with
  | nil => exact absurd rfl hne
  | byte hok hlt hrest => exact Nat.le_of_lt hlt
  | chain hok hfull hcall hroom hrest => exact Nat.le_of_eq hfull

/-- What no store and no callback changes stays. -/
theorem Puts.keeps {α : Type} {f : σ → α} (hstore : ∀ s a b, f (dev.store s a b) = f s)
    (honFull : ∀ s ub, f (dev.onFull s ub).2.1 = f s) {s s' : σ} {ub ub' : UcdrBuffer}
    {bytes : List UInt8} (h : Puts dev bytes s ub s' ub') : f s' = f s := by
  induction h with
  | nil s ub => rfl
  | byte hok hlt hrest ih => rw [ih, hstore]
  | @chain b bs s s₁ s' ub ub₁ ub' hok hfull hcall hroom hrest ih =>
    have hsame := honFull s ub
    rw [hcall] at hsame
    rw [ih, hsame]

/-! ## Addresses -/

/-- `Reaches dev n s ub a`: one of the next `n` bytes of the buffer is at the address `a`. -/
inductive Reaches (dev : Device σ) : Nat → σ → UcdrBuffer → Nat → Prop
  | here {n : Nat} {s : σ} {ub : UcdrBuffer} (hlt : ub.iterator < ub.final) :
      Reaches dev (n + 1) s ub ub.iterator
  | byte {n : Nat} {s : σ} {ub : UcdrBuffer} {a : Nat} (hlt : ub.iterator < ub.final)
      (hrest : Reaches dev n s ub.next a) : Reaches dev (n + 1) s ub a
  | chain {n : Nat} {s s₁ : σ} {ub ub₁ : UcdrBuffer} {a : Nat} (hfull : ub.iterator = ub.final)
      (hcall : dev.onFull s ub = (false, s₁, ub₁)) (hroom : ub₁.iterator < ub₁.final)
      (hrest : Reaches dev (n + 1) s₁ ub₁ a) : Reaches dev (n + 1) s ub a

/-- Where there is room for all of them, the bytes are in the block. -/
theorem Reaches.within {n : Nat} {s : σ} {ub : UcdrBuffer} {a : Nat} (h : Reaches dev n s ub a)
    (hroom : ub.iterator + n ≤ ub.final) : ub.iterator ≤ a ∧ a < ub.iterator + n := by
  induction h with
  | here hlt => exact ⟨Nat.le_refl _, Nat.lt_add_of_pos_right (Nat.succ_pos _)⟩
  | byte hlt hrest ih =>
    have hbounds := ih (by rw [UcdrBuffer.next_iterator, UcdrBuffer.next_final]; omega)
    rw [UcdrBuffer.next_iterator] at hbounds
    omega
  | chain hfull hcall hroom' hrest ih => exact absurd hfull (by omega)

/-! ## Marks -/

/-- The buffer with another byte order, and another last scalar. -/
def UcdrBuffer.marked (ub : UcdrBuffer) (endianness : Endianness) (lastDataSize : Nat) : UcdrBuffer :=
  { ub with endianness, lastDataSize }

@[simp] theorem UcdrBuffer.marked_endianness (ub : UcdrBuffer) (e : Endianness) (last : Nat) :
    (ub.marked e last).endianness = e := rfl

/-- A callback that makes room goes on counting, and makes the same room whatever the marks. -/
structure Device.Regular (dev : Device σ) : Prop where
  marked : ∀ {s s₁ : σ} {ub ub₁ : UcdrBuffer}, dev.onFull s ub = (false, s₁, ub₁) →
    ∀ e last, dev.onFull s (ub.marked e last) = (false, s₁, ub₁)
  offset : ∀ {s s₁ : σ} {ub ub₁ : UcdrBuffer}, dev.onFull s ub = (false, s₁, ub₁) →
    ub₁.offset = ub.offset

/-- The marks of a buffer do not matter to bytes. -/
theorem Puts.marked (hdev : dev.Regular) {s s' : σ} {ub ub' : UcdrBuffer} {bytes : List UInt8}
    (h : Puts dev bytes s ub s' ub') (e : Endianness) (last : Nat) :
    ∃ e' last', Puts dev bytes s (ub.marked e last) s' (ub'.marked e' last') := by
  induction h with
  | nil s ub => exact ⟨e, last, .nil s _⟩
  | byte hok hlt hrest ih =>
    obtain ⟨e', last', hputs⟩ := ih
    exact ⟨e', last', .byte hok hlt hputs⟩
  | @chain b bs s s₁ s' ub ub₁ ub' hok hfull hcall hroom hrest ih =>
    exact ⟨ub'.endianness, ub'.lastDataSize, .chain hok hfull (hdev.marked hcall e last) hroom hrest⟩

/-- Bytes are counted. -/
theorem Puts.offset (hdev : dev.Regular) {s s' : σ} {ub ub' : UcdrBuffer} {bytes : List UInt8}
    (h : Puts dev bytes s ub s' ub') : ub'.offset = ub.offset + bytes.length := by
  induction h with
  | nil s ub => rfl
  | byte hok hlt hrest ih =>
    rw [ih, UcdrBuffer.next_offset, List.length_cons]
    omega
  | chain hok hfull hcall hroom hrest ih => rw [ih, hdev.offset hcall]

section

variable [MicroCdr] [LawfulMicroCdr]

/-- A scalar in front of which there is no padding is so many bytes, whatever the marks. -/
theorem ucdrSerialize_puts (hdev : dev.Regular) {s s' : σ} {ub ub' : UcdrBuffer} {k v : Nat}
    {e : Endianness} (hk : k ∈ [1, 2, 4, 8]) (hle : ub.iterator ≤ ub.final)
    (h : Puts dev (encodeScalar e k v) s ub s' ub') {e₁ : Endianness} {last₁ : Nat}
    (hpad : (ub.marked e₁ last₁).padding k = 0) :
    ∃ e₂ last₂, ucdrSerialize dev s (ub.marked e₁ last₁) e k v = (true, s', ub'.marked e₂ last₂) := by
  have halign : ucdrAlignTo (ub.marked e₁ last₁) k = ub.marked e₁ k := by
    rw [LawfulMicroCdr.alignTo (ub.marked e₁ last₁) k hk hle, hpad, Nat.add_zero, Nat.add_zero]
    exact congrArg (fun iterator => { ub.marked e₁ k with iterator }) (Nat.min_eq_left hle)
  obtain ⟨e₂, last₂, hputs⟩ := h.marked hdev e₁ k
  rw [← halign] at hputs
  exact ⟨e₂, k, LawfulMicroCdr.serialize e hk (by rw [hpad]; exact hle) hputs⟩

/-- A header at a multiple of four is four bytes. -/
theorem bufferSubmessageHeader_puts (hdev : dev.Regular) {s s' : σ} {ub ub' : UcdrBuffer}
    {submessageId flags : UInt8} {length : UInt16} (haligned : ub.offset % 4 = 0)
    (hle : ub.iterator ≤ ub.final)
    (h : Puts dev (submessageHeaderBytes submessageId length flags) s ub s' ub') :
    ∃ e last, (bufferSubmessageHeader dev s ub submessageId length flags).2 =
      (s', ub'.marked e last) := by
  have hpadding : ub.padding 4 = 0 := by
    rw [UcdrBuffer.padding, haligned]
    split <;> rfl
  have halign : ucdrAlignTo ub 4 = ub.marked ub.endianness 4 := by
    rw [LawfulMicroCdr.alignTo ub 4 (by simp) hle, hpadding, Nat.add_zero, Nat.add_zero,
      Nat.min_eq_left hle]
    rfl
  -- the two bytes, and the length
  obtain ⟨s₂, ub₂, hfront, hlength⟩ := h.split
  obtain ⟨s₁, ub₁, hid, hflags⟩ := hfront.split
  have hle₁ := hid.le hle
  have hle₂ := hflags.le hle₁
  have hoffset : ub₂.offset % 2 = 0 := by
    rw [hflags.offset hdev, hid.offset hdev, encodeScalar_length, encodeScalar_length]
    omega
  obtain ⟨e₁, last₁, hid⟩ := ucdrSerialize_puts hdev (by simp) hle hid
    (show (ub.marked machineEndianness 4).padding 1 = 0 by simp [UcdrBuffer.padding, Nat.mod_one])
  rw [encodeScalar_byte, ← encodeScalar_byte e₁] at hflags
  obtain ⟨e₂, last₂, hflags⟩ := ucdrSerialize_puts hdev (by simp) hle₁ hflags
    (show (ub₁.marked e₁ last₁).padding 1 = 0 by simp [UcdrBuffer.padding, Nat.mod_one])
  obtain ⟨e₃, last₃, hlength⟩ := ucdrSerialize_puts hdev (by simp) hle₂ hlength
    (show (ub₂.marked e₂ last₂).padding 2 = 0 by
      simp [UcdrBuffer.padding, UcdrBuffer.marked, hoffset])
  have hrun : serializeSubmessageHeader dev s (ub.marked machineEndianness 4) submessageId
      (flags ||| machineEndianness.value) length = (s', ub'.marked e₃ last₃) := by
    rw [serializeSubmessageHeader]
    simp only [UcdrBuffer.marked_endianness, hid, hflags, hlength]
  refine ⟨e₃, last₃, ?_⟩
  rw [bufferSubmessageHeader, halign]
  exact hrun

/-- Where a header of four bytes and more can be put, the header leaves the room for the rest. -/
theorem Puts.behind_header (hdev : dev.Regular) {s s₁ : σ} {ub ub₁ : UcdrBuffer}
    {submessageId flags : UInt8} {length : UInt16} {bytes : List UInt8}
    (haligned : ub.offset % 4 = 0)
    (h : Puts dev (submessageHeaderBytes submessageId length flags ++ bytes) s ub s₁ ub₁) :
    ∃ ub', Puts dev bytes (bufferSubmessageHeader dev s ub submessageId length flags).2.1
      (bufferSubmessageHeader dev s ub submessageId length flags).2.2 s₁ ub' := by
  obtain ⟨s₂, ub₂, hheader, hrest⟩ := h.split
  have hle := hheader.before (List.ne_nil_of_length_eq_add_one
    (submessageHeaderBytes_length submessageId length flags))
  obtain ⟨e, last, hbuffered⟩ := bufferSubmessageHeader_puts hdev haligned hle hheader
  obtain ⟨e', last', hrest⟩ := hrest.marked hdev e last
  rw [hbuffered]
  exact ⟨_, hrest⟩

end

/-! ## A part of the state -/

/-- The device acts on a part of the state of another. -/
structure Device.Projects (dev : Device σ) (dev' : Device τ) (part : σ → τ) : Prop where
  store : ∀ s a b, part (dev.store s a b) = dev'.store (part s) a b
  onFull : ∀ s ub, dev'.onFull (part s) ub =
    ((dev.onFull s ub).1, part (dev.onFull s ub).2.1, (dev.onFull s ub).2.2)

variable {dev' : Device τ} {part : σ → τ}

theorem Puts.project (hpart : dev.Projects dev' part) {s s' : σ} {ub ub' : UcdrBuffer}
    {bytes : List UInt8} (h : Puts dev bytes s ub s' ub') : Puts dev' bytes (part s) ub (part s') ub' := by
  induction h with
  | nil s ub => exact .nil _ ub
  | byte hok hlt hrest ih =>
    rw [hpart.store] at ih
    exact .byte hok hlt ih
  | chain hok hfull hcall hroom hrest ih =>
    refine .chain hok hfull ?_ hroom ih
    rw [hpart.onFull, hcall]

theorem Puts.lift (hpart : dev.Projects dev' part) {s : σ} {t' : τ} {ub ub' : UcdrBuffer}
    {bytes : List UInt8} (h : Puts dev' bytes (part s) ub t' ub') :
    ∃ s', part s' = t' ∧ Puts dev bytes s ub s' ub' := by
  obtain ⟨t, ht⟩ : ∃ t, t = part s := ⟨_, rfl⟩
  rw [← ht] at h
  induction h generalizing s with
  | nil t ub => exact ⟨s, ht.symm, .nil s ub⟩
  | byte hok hlt hrest ih =>
    obtain ⟨s', hs', hputs⟩ := ih (by rw [hpart.store, ht])
    exact ⟨s', hs', .byte hok hlt hputs⟩
  | @chain b bs t t₁ t' ub ub₁ ub' hok hfull hcall hroom hrest ih =>
    rw [ht, hpart.onFull] at hcall
    obtain ⟨⟨error, s₁, ub₂⟩, hcalled⟩ : ∃ r, dev.onFull s ub = r := ⟨_, rfl⟩
    rw [hcalled] at hcall
    obtain ⟨rfl, rfl, rfl⟩ : error = false ∧ part s₁ = t₁ ∧ ub₂ = ub₁ := by simpa using hcall
    obtain ⟨s', hs', hputs⟩ := ih rfl
    exact ⟨s', hs', .chain hok hfull hcalled hroom hputs⟩

theorem Reaches.project (hpart : dev.Projects dev' part) {n : Nat} {s : σ} {ub : UcdrBuffer} {a : Nat}
    (h : Reaches dev n s ub a) : Reaches dev' n (part s) ub a := by
  induction h with
  | here hlt => exact .here hlt
  | byte hlt hrest ih => exact .byte hlt ih
  | chain hfull hcall hroom hrest ih =>
    refine .chain hfull ?_ hroom ih
    rw [hpart.onFull, hcall]

end

end XrceClient
