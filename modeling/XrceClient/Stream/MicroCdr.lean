import XrceClient.Base.ByteMemory

/-!
# The Micro-CDR interface

Micro-CDR is a separate package: the client includes `ucdr/microcdr.h`, and the
package's sources are not part of the client's. The model takes its functions as the class
`MicroCdr` and what the client relies on as the class `LawfulMicroCdr`.

- `UcdrBuffer`: the `ucdrBuffer` fields that the client reads or writes. Its
  pointers are addresses in one region of memory, the region that the `Device` loads
  from and stores to.
- `Device`: that region together with the callback installed by
  `ucdr_set_on_full_buffer_callback`, over the state `σ` that both act on.
- `Gets` / `Puts`: the documented transfer rule. Bytes move one after the
  other at `iterator`; when a byte is wanted and `iterator` stands at `final`,
  the callback is asked for a new block. `GetStops` is the transfer that ends
  in the callback's refusal.
- `Device.Invariant`: what holds as long as a buffer moves within its block and
  the callback is called with it.
- `LawfulMicroCdr`: what the client relies on; `StickyMicroCdr` adds what it relies on after
  a failure, `BoundedMicroCdr` where there is not even room for the padding.
- `referenceMicroCdr`: an implementation that follows these rules.

A callback that answers with an empty block, or an `iterator` that stands past
`final`, is outside the documented rule: what is known there is only that the
invariants are kept.
-/

namespace XrceClient

open ByteMemory

/-- `ucdrEndianness`. -/
inductive Endianness where
  | bigEndianness
  | littleEndianness
  deriving DecidableEq, Repr

/-- The client's callbacks for `ucdr_set_on_full_buffer_callback`. Their `args`
is the stream (or session) that they belong to, and is `NULL` when there is no
callback. -/
inductive OnFullBuffer where
  | onFullInputBuffer
  | onFullOutputBuffer
  | onFullOutputBufferFragmented
  deriving DecidableEq, Repr

/-- `ucdrBuffer`. -/
structure UcdrBuffer where
  init : Nat
  iterator : Nat
  final : Nat
  offset : Nat
  lastDataSize : Nat
  endianness : Endianness
  error : Bool
  onFullBuffer : Option OnFullBuffer
  deriving DecidableEq, Repr

namespace UcdrBuffer

/-- The buffer with one more byte consumed. -/
def next (ub : UcdrBuffer) : UcdrBuffer :=
  { ub with iterator := ub.iterator + 1, offset := ub.offset + 1 }

@[simp] theorem next_init (ub : UcdrBuffer) : ub.next.init = ub.init := rfl
@[simp] theorem next_iterator (ub : UcdrBuffer) : ub.next.iterator = ub.iterator + 1 := rfl
@[simp] theorem next_final (ub : UcdrBuffer) : ub.next.final = ub.final := rfl
@[simp] theorem next_offset (ub : UcdrBuffer) : ub.next.offset = ub.offset + 1 := rfl
@[simp] theorem next_error (ub : UcdrBuffer) : ub.next.error = ub.error := rfl

/-- `ucdr_set_on_full_buffer_callback`. -/
def setOnFullBufferCallback (ub : UcdrBuffer) (onFullBuffer : Option OnFullBuffer) :
    UcdrBuffer :=
  { ub with onFullBuffer := onFullBuffer }

/-- Two buffers over the same block, with the same callback. -/
def SameBlock (ub ub' : UcdrBuffer) : Prop :=
  ub'.init = ub.init ∧ ub'.final = ub.final ∧ ub'.onFullBuffer = ub.onFullBuffer

theorem SameBlock.refl (ub : UcdrBuffer) : ub.SameBlock ub := ⟨rfl, rfl, rfl⟩

end UcdrBuffer

/-- The memory that a buffer points into, and the callback that is called when
the buffer is full. The callback returns `true` on error. -/
structure Device (σ : Type) where
  load : σ → Nat → UInt8
  store : σ → Nat → UInt8 → σ
  onFull : σ → UcdrBuffer → Bool × σ × UcdrBuffer

/-- A plain region of memory, with no callback installed. -/
def Device.plain : Device Memory where
  load m a := m a
  store m a v := write m a [v]
  onFull m ub := (true, m, ub)

/-- What does not depend on the place within a block, and is kept by the callback. -/
structure Device.Invariant {σ : Type} (dev : Device σ) (P : σ → UcdrBuffer → Prop) : Prop where
  move : ∀ s ub ub', P s ub → ub.SameBlock ub' → P s ub'
  onFull : ∀ s ub, P s ub → P (dev.onFull s ub).2.1 (dev.onFull s ub).2.2

/-! ## The transfer rule -/

section Transfer

variable {σ : Type} (dev : Device σ)

/-- `Gets dev n s ub bs s' ub'`: `n` bytes can be taken from `ub`, they are
`bs`, and the buffer is `ub'` afterwards. -/
inductive Gets : Nat → σ → UcdrBuffer → List UInt8 → σ → UcdrBuffer → Prop
  | zero (s : σ) (ub : UcdrBuffer) : Gets 0 s ub [] s ub
  | byte {n : Nat} {s s' : σ} {ub ub' : UcdrBuffer} {bs : List UInt8}
      (hok : ub.error = false) (hlt : ub.iterator < ub.final)
      (hrest : Gets n s ub.next bs s' ub') :
      Gets (n + 1) s ub (dev.load s ub.iterator :: bs) s' ub'
  | chain {n : Nat} {s s₁ s' : σ} {ub ub₁ ub' : UcdrBuffer} {bs : List UInt8}
      (hok : ub.error = false) (hfull : ub.iterator = ub.final)
      (hcall : dev.onFull s ub = (false, s₁, ub₁)) (hroom : ub₁.iterator < ub₁.final)
      (hrest : Gets (n + 1) s₁ ub₁ bs s' ub') :
      Gets (n + 1) s ub bs s' ub'

/-- `GetStops dev n s ub s' ub'`: taking `n` bytes ends in a refusal of the
callback. -/
inductive GetStops : Nat → σ → UcdrBuffer → σ → UcdrBuffer → Prop
  | refused {n : Nat} {s s₁ : σ} {ub ub₁ : UcdrBuffer}
      (hok : ub.error = false) (hfull : ub.iterator = ub.final)
      (hcall : dev.onFull s ub = (true, s₁, ub₁)) :
      GetStops (n + 1) s ub s₁ { ub₁ with error := true }
  | byte {n : Nat} {s s' : σ} {ub ub' : UcdrBuffer}
      (hok : ub.error = false) (hlt : ub.iterator < ub.final)
      (hrest : GetStops n s ub.next s' ub') :
      GetStops (n + 1) s ub s' ub'
  | chain {n : Nat} {s s₁ s' : σ} {ub ub₁ ub' : UcdrBuffer}
      (hok : ub.error = false) (hfull : ub.iterator = ub.final)
      (hcall : dev.onFull s ub = (false, s₁, ub₁)) (hroom : ub₁.iterator < ub₁.final)
      (hrest : GetStops (n + 1) s₁ ub₁ s' ub') :
      GetStops (n + 1) s ub s' ub'

/-- `Puts dev bs s ub s' ub'`: the bytes `bs` can be put into `ub`, and the
memory and buffer are `s'` and `ub'` afterwards. -/
inductive Puts : List UInt8 → σ → UcdrBuffer → σ → UcdrBuffer → Prop
  | nil (s : σ) (ub : UcdrBuffer) : Puts [] s ub s ub
  | byte {b : UInt8} {bs : List UInt8} {s s' : σ} {ub ub' : UcdrBuffer}
      (hok : ub.error = false) (hlt : ub.iterator < ub.final)
      (hrest : Puts bs (dev.store s ub.iterator b) ub.next s' ub') :
      Puts (b :: bs) s ub s' ub'
  | chain {b : UInt8} {bs : List UInt8} {s s₁ s' : σ} {ub ub₁ ub' : UcdrBuffer}
      (hok : ub.error = false) (hfull : ub.iterator = ub.final)
      (hcall : dev.onFull s ub = (false, s₁, ub₁)) (hroom : ub₁.iterator < ub₁.final)
      (hrest : Puts (b :: bs) s₁ ub₁ s' ub') :
      Puts (b :: bs) s ub s' ub'

end Transfer

/-! ## Scalars -/

/-- The bytes of an integer of the given width, in the given byte order. -/
def encodeScalar (e : Endianness) (width value : Nat) : List UInt8 :=
  match e with
  | .littleEndianness => leBytes width value
  | .bigEndianness => (leBytes width value).reverse

/-- The integer that bytes in the given byte order stand for. -/
def decodeScalar (e : Endianness) (bs : List UInt8) : Nat :=
  match e with
  | .littleEndianness => ofLeBytes bs
  | .bigEndianness => ofLeBytes bs.reverse

@[simp] theorem encodeScalar_length (e : Endianness) (width value : Nat) :
    (encodeScalar e width value).length = width := by
  cases e <;> simp [encodeScalar]

/-- How far `ucdr_align_to` moves: scalars lie at multiples of their width,
counted from the start of the payload. -/
def UcdrBuffer.padding (ub : UcdrBuffer) (dataSize : Nat) : Nat :=
  if ub.lastDataSize < dataSize then (dataSize - ub.offset % dataSize) % dataSize else 0

/-! ## The interface -/

/-- The Micro-CDR functions that the client calls. The scalar functions
`ucdr_(de)serialize_uint8_t`, `_uint16_t`, `_int32_t`, … are one family, told
apart by their width in bytes; `none` is a `false` result, with the output
left as it was. -/
class MicroCdr where
  machineEndianness : Endianness
  ucdrAlignment (currentAlignment dataSize : Nat) : Nat
  ucdrInitBufferOriginOffset (data size origin offset : Nat) : UcdrBuffer
  ucdrBufferRemaining (ub : UcdrBuffer) : Nat
  ucdrAlignTo (ub : UcdrBuffer) (size : Nat) : UcdrBuffer
  ucdrAdvanceBuffer {σ : Type} (dev : Device σ) (s : σ) (ub : UcdrBuffer) (size : Nat) :
    σ × UcdrBuffer
  ucdrDeserialize {σ : Type} (dev : Device σ) (s : σ) (ub : UcdrBuffer)
    (e : Endianness) (width : Nat) : Option Nat × σ × UcdrBuffer
  ucdrDeserializeArray {σ : Type} (dev : Device σ) (s : σ) (ub : UcdrBuffer) (size : Nat) :
    Option (List UInt8) × σ × UcdrBuffer
  ucdrSerialize {σ : Type} (dev : Device σ) (s : σ) (ub : UcdrBuffer)
    (e : Endianness) (width value : Nat) : Bool × σ × UcdrBuffer
  ucdrSerializeArray {σ : Type} (dev : Device σ) (s : σ) (ub : UcdrBuffer)
    (array : List UInt8) : Bool × σ × UcdrBuffer

export MicroCdr (machineEndianness ucdrAlignment ucdrInitBufferOriginOffset ucdrBufferRemaining
  ucdrAlignTo ucdrAdvanceBuffer ucdrDeserialize ucdrDeserializeArray ucdrSerialize
  ucdrSerializeArray)

section

variable [MicroCdr]

/-- `ucdr_init_buffer_origin`: an origin, and no offset. -/
def ucdrInitBufferOrigin (data size origin : Nat) : UcdrBuffer :=
  ucdrInitBufferOriginOffset data size origin 0

/-- `ucdr_init_buffer`: no origin, and no offset. -/
def ucdrInitBuffer (data size : Nat) : UcdrBuffer :=
  ucdrInitBufferOriginOffset data size 0 0

end

/-- What the client relies on. -/
class LawfulMicroCdr [MicroCdr] : Prop where
  alignment (n k : Nat) (hk : k ∈ [1, 2, 4, 8]) : ucdrAlignment n k = (k - n % k) % k
  init (data size origin offset : Nat) :
    ucdrInitBufferOriginOffset data size origin offset =
      { init := data, iterator := data + offset, final := data + size,
        offset := origin + offset, lastDataSize := 0, endianness := machineEndianness,
        error := false, onFullBuffer := none }
  remaining (ub : UcdrBuffer) (hle : ub.iterator ≤ ub.final) :
    ucdrBufferRemaining ub = ub.final - ub.iterator
  alignTo (ub : UcdrBuffer) (k : Nat) (hk : k ∈ [1, 2, 4, 8]) (hle : ub.iterator ≤ ub.final) :
    ucdrAlignTo ub k =
      { ub with iterator := min (ub.iterator + ub.padding k) ub.final,
                offset := ub.offset + ub.padding k, lastDataSize := k }
  advance {σ : Type} {dev : Device σ} {n : Nat} {s s' : σ} {ub ub' : UcdrBuffer}
    {bs : List UInt8} (h : Gets dev n s ub bs s' ub') :
    ucdrAdvanceBuffer dev s ub n = (s', { ub' with lastDataSize := 1 })
  advance_stops {σ : Type} {dev : Device σ} {n : Nat} {s s' : σ} {ub ub' : UcdrBuffer}
    (h : GetStops dev n s ub s' ub') :
    ucdrAdvanceBuffer dev s ub n = (s', { ub' with lastDataSize := 1 })
  deserializeArray {σ : Type} {dev : Device σ} {n : Nat} {s s' : σ} {ub ub' : UcdrBuffer}
    {bs : List UInt8} (h : Gets dev n s ub bs s' ub') :
    ucdrDeserializeArray dev s ub n = (some bs, s', { ub' with lastDataSize := 1 })
  deserializeArray_stops {σ : Type} {dev : Device σ} {n : Nat} {s s' : σ} {ub ub' : UcdrBuffer}
    (h : GetStops dev n s ub s' ub') :
    ucdrDeserializeArray dev s ub n = (none, s', { ub' with lastDataSize := 1 })
  deserialize {σ : Type} {dev : Device σ} {k : Nat} {s s' : σ} {ub ub' : UcdrBuffer}
    {bs : List UInt8} (e : Endianness) (hk : k ∈ [1, 2, 4, 8])
    (hpad : ub.iterator + ub.padding k ≤ ub.final)
    (h : Gets dev k s (ucdrAlignTo ub k) bs s' ub') :
    ucdrDeserialize dev s ub e k = (some (decodeScalar e bs), s', { ub' with lastDataSize := k })
  deserialize_stops {σ : Type} {dev : Device σ} {k : Nat} {s s' : σ} {ub ub' : UcdrBuffer}
    (e : Endianness) (hk : k ∈ [1, 2, 4, 8]) (hpad : ub.iterator + ub.padding k ≤ ub.final)
    (h : GetStops dev k s (ucdrAlignTo ub k) s' ub') :
    ucdrDeserialize dev s ub e k = (none, s', { ub' with lastDataSize := k })
  serializeArray {σ : Type} {dev : Device σ} {s s' : σ} {ub ub' : UcdrBuffer}
    {bs : List UInt8} (h : Puts dev bs s ub s' ub') :
    ucdrSerializeArray dev s ub bs = (true, s', { ub' with lastDataSize := 1 })
  serialize {σ : Type} {dev : Device σ} {k v : Nat} {s s' : σ} {ub ub' : UcdrBuffer}
    (e : Endianness) (hk : k ∈ [1, 2, 4, 8]) (hpad : ub.iterator + ub.padding k ≤ ub.final)
    (h : Puts dev (encodeScalar e k v) s (ucdrAlignTo ub k) s' ub') :
    ucdrSerialize dev s ub e k v = (true, s', { ub' with lastDataSize := k })
  alignTo_sameBlock (ub : UcdrBuffer) (k : Nat) : ub.SameBlock (ucdrAlignTo ub k)
  advance_preserves {σ : Type} {dev : Device σ} {P : σ → UcdrBuffer → Prop}
    (hP : dev.Invariant P) (s : σ) (ub : UcdrBuffer) (n : Nat) (h : P s ub) :
    P (ucdrAdvanceBuffer dev s ub n).1 (ucdrAdvanceBuffer dev s ub n).2
  deserialize_preserves {σ : Type} {dev : Device σ} {P : σ → UcdrBuffer → Prop}
    (hP : dev.Invariant P) (s : σ) (ub : UcdrBuffer) (e : Endianness) (n : Nat) (h : P s ub) :
    P (ucdrDeserialize dev s ub e n).2.1 (ucdrDeserialize dev s ub e n).2.2
  deserializeArray_preserves {σ : Type} {dev : Device σ} {P : σ → UcdrBuffer → Prop}
    (hP : dev.Invariant P) (s : σ) (ub : UcdrBuffer) (n : Nat) (h : P s ub) :
    P (ucdrDeserializeArray dev s ub n).2.1 (ucdrDeserializeArray dev s ub n).2.2

/-- A block of memory that is written to, from one call to another: the buffer does not go back,
and not past the end, and the bytes in front of it are kept. -/
structure Forward (m : Memory) (ub : UcdrBuffer) (t : Memory × UcdrBuffer) : Prop where
  init : t.2.init = ub.init
  final : t.2.final = ub.final
  le : ub.iterator ≤ t.2.iterator
  bound : t.2.iterator ≤ t.2.final
  kept : ∀ a < ub.iterator, t.1 a = m a

theorem Forward.refl {m : Memory} {ub : UcdrBuffer} (hle : ub.iterator ≤ ub.final) :
    Forward m ub (m, ub) :=
  ⟨rfl, rfl, Nat.le_refl _, hle, fun _ _ => rfl⟩

theorem Forward.trans {m : Memory} {ub : UcdrBuffer} {t t' : Memory × UcdrBuffer}
    (h : Forward m ub t) (h' : Forward t.1 t.2 t') : Forward m ub t' where
  init := h'.init.trans h.init
  final := h'.final.trans h.final
  le := Nat.le_trans h.le h'.le
  bound := h'.bound
  kept a ha := (h'.kept a (Nat.lt_of_lt_of_le ha h.le)).trans (h.kept a ha)

/-- What the client relies on where a call fails: a buffer in error is not read any more, and
stands where it is unless there is padding in front of the scalar. Writing goes forward, whether
it fails or not. -/
class StickyMicroCdr [MicroCdr] : Prop extends LawfulMicroCdr where
  advance_error {σ : Type} {dev : Device σ} {n : Nat} (s : σ) {ub : UcdrBuffer} (hn : 0 < n)
    (herror : ub.error = true) :
    ucdrAdvanceBuffer dev s ub n = (s, { ub with lastDataSize := 1 })
  deserializeArray_error {σ : Type} {dev : Device σ} {n : Nat} (s : σ) {ub : UcdrBuffer}
    (hn : 0 < n) (herror : ub.error = true) :
    ucdrDeserializeArray dev s ub n = (none, s, { ub with lastDataSize := 1 })
  deserialize_error {σ : Type} {dev : Device σ} {k : Nat} (s : σ) {ub : UcdrBuffer}
    (e : Endianness) (hk : k ∈ [1, 2, 4, 8]) (herror : ub.error = true) :
    ∃ ub', ucdrDeserialize dev s ub e k = (none, s, ub') ∧ ub'.error = true ∧
      ub.SameBlock ub' ∧ (ub.padding k = 0 → ub.iterator ≤ ub.final →
        ub' = { ub with lastDataSize := k })
  serialize_forward (m : Memory) {ub : UcdrBuffer} (e : Endianness) {k : Nat} (v : Nat)
    (hk : k ∈ [1, 2, 4, 8]) (hle : ub.iterator ≤ ub.final) :
    Forward m ub (ucdrSerialize Device.plain m ub e k v).2
  serializeArray_forward (m : Memory) {ub : UcdrBuffer} (bs : List UInt8)
    (hle : ub.iterator ≤ ub.final) :
    Forward m ub (ucdrSerializeArray Device.plain m ub bs).2

/-- What the client relies on besides where the buffer ends in the padding in front of a scalar:
the scalar is not read, and the buffer is in error. -/
class BoundedMicroCdr [MicroCdr] : Prop extends StickyMicroCdr where
  deserialize_cut (m : Memory) {ub : UcdrBuffer} (e : Endianness) {k : Nat}
    (hk : k ∈ [1, 2, 4, 8]) (hok : ub.error = false) (hle : ub.iterator ≤ ub.final)
    (hcut : ub.final < ub.iterator + ub.padding k) :
    ∃ ub', ucdrDeserialize Device.plain m ub e k = (none, m, ub') ∧ ub'.error = true

/-! ## A reference implementation -/

namespace ReferenceMicroCdr

section

variable {σ : Type} (dev : Device σ)

/-- Makes sure that a byte can be moved at `iterator`, calling the callback for
a new block at the end of the old one. -/
def checkBufferAvailable (s : σ) (ub : UcdrBuffer) : Bool × σ × UcdrBuffer :=
  if ub.error then
    (false, s, ub)
  else if ub.iterator < ub.final then
    (true, s, ub)
  else
    let (error, s₁, ub₁) := dev.onFull s ub
    if error = false ∧ ub₁.error = false ∧ ub₁.iterator < ub₁.final then
      (true, s₁, ub₁)
    else
      (false, s₁, { ub₁ with error := true })

/-- Takes `n` bytes. -/
def getBytes : Nat → σ → UcdrBuffer → Option (List UInt8) × σ × UcdrBuffer
  | 0, s, ub => (some [], s, ub)
  | n + 1, s, ub =>
    let (available, s₁, ub₁) := checkBufferAvailable dev s ub
    if available then
      let (bs, r) := getBytes n s₁ ub₁.next
      (bs.map (dev.load s₁ ub₁.iterator :: ·), r)
    else
      (none, s₁, ub₁)

/-- Puts the given bytes. -/
def putBytes : List UInt8 → σ → UcdrBuffer → Bool × σ × UcdrBuffer
  | [], s, ub => (true, s, ub)
  | b :: bs, s, ub =>
    let (available, s₁, ub₁) := checkBufferAvailable dev s ub
    if available then
      putBytes bs (dev.store s₁ ub₁.iterator b) ub₁.next
    else
      (false, s₁, ub₁)

variable {dev}

theorem checkBufferAvailable_room {s : σ} {ub : UcdrBuffer} (hok : ub.error = false)
    (hlt : ub.iterator < ub.final) : checkBufferAvailable dev s ub = (true, s, ub) := by
  simp [checkBufferAvailable, hok, hlt]

theorem checkBufferAvailable_chain {s s₁ : σ} {ub ub₁ : UcdrBuffer} (hok : ub.error = false)
    (hfull : ub.iterator = ub.final) (hcall : dev.onFull s ub = (false, s₁, ub₁))
    (hroom : ub₁.iterator < ub₁.final) (hok₁ : ub₁.error = false) :
    checkBufferAvailable dev s ub = (true, s₁, ub₁) := by
  simp [checkBufferAvailable, hok, hfull, hcall, hroom, hok₁]

theorem checkBufferAvailable_refused {s s₁ : σ} {ub ub₁ : UcdrBuffer} (hok : ub.error = false)
    (hfull : ub.iterator = ub.final) (hcall : dev.onFull s ub = (true, s₁, ub₁)) :
    checkBufferAvailable dev s ub = (false, s₁, { ub₁ with error := true }) := by
  simp [checkBufferAvailable, hok, hfull, hcall]

theorem checkBufferAvailable_error {s : σ} {ub : UcdrBuffer} (herror : ub.error = true) :
    checkBufferAvailable dev s ub = (false, s, ub) := by
  simp [checkBufferAvailable, herror]

theorem checkBufferAvailable_preserves {P : σ → UcdrBuffer → Prop} (hP : dev.Invariant P)
    (s : σ) (ub : UcdrBuffer) (h : P s ub) :
    P (checkBufferAvailable dev s ub).2.1 (checkBufferAvailable dev s ub).2.2 := by
  have h₁ := hP.onFull s ub h
  unfold checkBufferAvailable
  split
  · exact h
  · split
    · exact h
    · dsimp only
      split
      · exact h₁
      · exact hP.move _ _ _ h₁ ⟨rfl, rfl, rfl⟩

theorem getBytes_of_gets {n : Nat} {s s' : σ} {ub ub' : UcdrBuffer} {bs : List UInt8}
    (h : Gets dev n s ub bs s' ub') : getBytes dev n s ub = (some bs, s', ub') := by
  induction h with
  | zero s ub => rfl
  | byte hok hlt _ ih =>
    simp [getBytes, checkBufferAvailable_room hok hlt, ih]
  | @chain n s s₁ s' ub ub₁ ub' bs hok hfull hcall hroom hrest ih =>
    have hok₁ : ub₁.error = false := by cases hrest <;> assumption
    have hagain : checkBufferAvailable dev s₁ ub₁ = (true, s₁, ub₁) :=
      checkBufferAvailable_room hok₁ hroom
    have hchain := checkBufferAvailable_chain hok hfull hcall hroom hok₁
    rw [getBytes, hagain] at ih
    rw [getBytes, hchain]
    exact ih

theorem getBytes_of_getStops {n : Nat} {s s' : σ} {ub ub' : UcdrBuffer}
    (h : GetStops dev n s ub s' ub') : getBytes dev n s ub = (none, s', ub') := by
  induction h with
  | refused hok hfull hcall =>
    simp [getBytes, checkBufferAvailable_refused hok hfull hcall]
  | byte hok hlt _ ih =>
    simp [getBytes, checkBufferAvailable_room hok hlt, ih]
  | @chain n s s₁ s' ub ub₁ ub' hok hfull hcall hroom hrest ih =>
    have hok₁ : ub₁.error = false := by cases hrest <;> assumption
    have hagain : checkBufferAvailable dev s₁ ub₁ = (true, s₁, ub₁) :=
      checkBufferAvailable_room hok₁ hroom
    have hchain := checkBufferAvailable_chain hok hfull hcall hroom hok₁
    rw [getBytes, hagain] at ih
    rw [getBytes, hchain]
    exact ih

theorem getBytes_preserves {P : σ → UcdrBuffer → Prop} (hP : dev.Invariant P) (n : Nat)
    (s : σ) (ub : UcdrBuffer) (h : P s ub) :
    P (getBytes dev n s ub).2.1 (getBytes dev n s ub).2.2 := by
  induction n generalizing s ub with
  | zero => exact h
  | succ n ih =>
    have h₁ := checkBufferAvailable_preserves hP s ub h
    rw [getBytes]
    dsimp only
    split
    · exact ih _ _ (hP.move _ _ _ h₁ ⟨rfl, rfl, rfl⟩)
    · exact h₁

/-- Nothing is taken from a buffer in error. -/
theorem getBytes_error {n : Nat} (hn : 0 < n) {s : σ} {ub : UcdrBuffer}
    (herror : ub.error = true) : getBytes dev n s ub = (none, s, ub) := by
  cases n with
  | zero => exact absurd hn (Nat.lt_irrefl 0)
  | succ n => simp [getBytes, checkBufferAvailable_error herror]

/-- Bytes are put forward. -/
theorem putBytes_forward (bs : List UInt8) (m : Memory) {ub : UcdrBuffer}
    (hle : ub.iterator ≤ ub.final) : Forward m ub (putBytes Device.plain bs m ub).2 := by
  induction bs generalizing m ub with
  | nil => exact .refl hle
  | cons b bs ih =>
    rw [putBytes]
    by_cases herror : ub.error = true
    · rw [checkBufferAvailable_error herror]
      exact .refl hle
    by_cases hroom : ub.iterator < ub.final
    · rw [checkBufferAvailable_room (Bool.eq_false_iff.mpr herror) hroom]
      have hbyte : Forward m ub (write m ub.iterator [b], ub.next) :=
        ⟨rfl, rfl, Nat.le_succ _, hroom, fun a ha => write_outside _ (.inl ha)⟩
      exact hbyte.trans (ih _ hroom)
    · have hend : ub.iterator = ub.final := Nat.le_antisymm hle (Nat.le_of_not_lt hroom)
      rw [checkBufferAvailable_refused (Bool.eq_false_iff.mpr herror) hend rfl]
      exact ⟨rfl, rfl, Nat.le_refl _, hle, fun _ _ => rfl⟩

theorem putBytes_of_puts {bs : List UInt8} {s s' : σ} {ub ub' : UcdrBuffer}
    (h : Puts dev bs s ub s' ub') : putBytes dev bs s ub = (true, s', ub') := by
  induction h with
  | nil s ub => rfl
  | byte hok hlt _ ih =>
    simp [putBytes, checkBufferAvailable_room hok hlt, ih]
  | @chain b bs s s₁ s' ub ub₁ ub' hok hfull hcall hroom hrest ih =>
    have hok₁ : ub₁.error = false := by cases hrest <;> assumption
    have hagain : checkBufferAvailable dev s₁ ub₁ = (true, s₁, ub₁) :=
      checkBufferAvailable_room hok₁ hroom
    have hchain := checkBufferAvailable_chain hok hfull hcall hroom hok₁
    rw [putBytes, hagain] at ih
    rw [putBytes, hchain]
    exact ih

theorem puts_of_putBytes {bs : List UInt8} {s s' : σ} {ub ub' : UcdrBuffer}
    (hle : ub.iterator ≤ ub.final) (h : putBytes dev bs s ub = (true, s', ub')) :
    Puts dev bs s ub s' ub' := by
  induction bs generalizing s ub with
  | nil =>
    cases h
    exact .nil _ _
  | cons b bs ih =>
    rw [putBytes, checkBufferAvailable] at h
    by_cases herror : ub.error = true
    · rw [if_pos herror] at h
      cases h
    have hok := Bool.eq_false_iff.mpr herror
    rw [if_neg herror] at h
    by_cases hlt : ub.iterator < ub.final
    · rw [if_pos hlt] at h
      exact .byte hok hlt (ih hlt h)
    · rw [if_neg hlt] at h
      generalize hcall : dev.onFull s ub = result at h
      obtain ⟨error, s₁, ub₁⟩ := result
      dsimp only at h
      split at h
      · next hroom =>
        obtain ⟨rfl, hok₁, hlt₁⟩ := hroom
        exact .chain hok (Nat.le_antisymm hle (Nat.le_of_not_lt hlt)) hcall hlt₁
          (.byte hok₁ hlt₁ (ih hlt₁ h))
      · cases h

end

/-- Moves to a multiple of `size`, and not past the end. -/
def alignTo (ub : UcdrBuffer) (size : Nat) : UcdrBuffer :=
  { ub with iterator := min (ub.iterator + ub.padding size) ub.final,
            offset := ub.offset + ub.padding size, lastDataSize := size }

theorem alignTo_of_padding {ub : UcdrBuffer} {size : Nat} (hpad : ub.padding size = 0)
    (hle : ub.iterator ≤ ub.final) : alignTo ub size = { ub with lastDataSize := size } := by
  rw [alignTo, hpad, Nat.add_zero, Nat.add_zero, Nat.min_eq_left hle]

end ReferenceMicroCdr

open ReferenceMicroCdr in
/-- Micro-CDR on a little-endian machine, moving one byte after the other. -/
@[reducible] def referenceMicroCdr : MicroCdr where
  machineEndianness := .littleEndianness
  ucdrAlignment n k := (k - n % k) % k
  ucdrInitBufferOriginOffset data size origin offset :=
    { init := data, iterator := data + offset, final := data + size,
      offset := origin + offset, lastDataSize := 0, endianness := .littleEndianness,
      error := false, onFullBuffer := none }
  ucdrBufferRemaining ub := ub.final - ub.iterator
  ucdrAlignTo := alignTo
  ucdrAdvanceBuffer dev s ub n :=
    let r := getBytes dev n s ub
    (r.2.1, { r.2.2 with lastDataSize := 1 })
  ucdrDeserialize dev s ub e k :=
    let r := getBytes dev k s (alignTo ub k)
    (r.1.map (decodeScalar e), r.2.1, { r.2.2 with lastDataSize := k })
  ucdrDeserializeArray dev s ub n :=
    let r := getBytes dev n s ub
    (r.1, r.2.1, { r.2.2 with lastDataSize := 1 })
  ucdrSerialize dev s ub e k v :=
    let r := putBytes dev (encodeScalar e k v) s (alignTo ub k)
    (r.1, r.2.1, { r.2.2 with lastDataSize := k })
  ucdrSerializeArray dev s ub bs :=
    let r := putBytes dev bs s ub
    (r.1, r.2.1, { r.2.2 with lastDataSize := 1 })

open ReferenceMicroCdr in
theorem referenceMicroCdr_lawful : @LawfulMicroCdr referenceMicroCdr :=
  let _ : MicroCdr := referenceMicroCdr
  { alignment := fun _ _ _ => rfl
    init := fun _ _ _ _ => rfl
    remaining := fun _ _ => rfl
    alignTo := fun _ _ _ _ => rfl
    advance := fun h =>
      congrArg (fun r => (r.2.1, { r.2.2 with lastDataSize := 1 })) (getBytes_of_gets h)
    advance_stops := fun h =>
      congrArg (fun r => (r.2.1, { r.2.2 with lastDataSize := 1 })) (getBytes_of_getStops h)
    deserializeArray := fun h =>
      congrArg (fun r => (r.1, r.2.1, { r.2.2 with lastDataSize := 1 })) (getBytes_of_gets h)
    deserializeArray_stops := fun h =>
      congrArg (fun r => (r.1, r.2.1, { r.2.2 with lastDataSize := 1 }))
        (getBytes_of_getStops h)
    deserialize := fun {_ _ k _ _ _ _ _} e _ _ h =>
      congrArg (fun r => (r.1.map (decodeScalar e), r.2.1, { r.2.2 with lastDataSize := k }))
        (getBytes_of_gets h)
    deserialize_stops := fun {_ _ k _ _ _ _} e _ _ h =>
      congrArg (fun r => (r.1.map (decodeScalar e), r.2.1, { r.2.2 with lastDataSize := k }))
        (getBytes_of_getStops h)
    serializeArray := fun h =>
      congrArg (fun r => (r.1, r.2.1, { r.2.2 with lastDataSize := 1 })) (putBytes_of_puts h)
    serialize := fun {_ _ k _ _ _ _ _} _ _ _ h =>
      congrArg (fun r => (r.1, r.2.1, { r.2.2 with lastDataSize := k })) (putBytes_of_puts h)
    alignTo_sameBlock := fun _ _ => ⟨rfl, rfl, rfl⟩
    advance_preserves := fun hP s ub n h =>
      hP.move _ _ _ (getBytes_preserves hP n s ub h) ⟨rfl, rfl, rfl⟩
    deserialize_preserves := fun hP s _ _ n h =>
      hP.move _ _ _ (getBytes_preserves hP n s _ (hP.move _ _ _ h ⟨rfl, rfl, rfl⟩)) ⟨rfl, rfl, rfl⟩
    deserializeArray_preserves := fun hP s ub n h =>
      hP.move _ _ _ (getBytes_preserves hP n s ub h) ⟨rfl, rfl, rfl⟩ }

open ReferenceMicroCdr in
theorem referenceMicroCdr_sticky : @StickyMicroCdr referenceMicroCdr :=
  let _ : MicroCdr := referenceMicroCdr
  have width_pos {k : Nat} (hk : k ∈ [1, 2, 4, 8]) : 0 < k := by
    refine Nat.pos_of_ne_zero ?_
    rintro rfl
    simp at hk
  { toLawfulMicroCdr := referenceMicroCdr_lawful
    advance_error := fun {_ dev _} s ub hn herror => by
      have hget := @getBytes_error _ dev _ hn s ub herror
      exact congrArg (fun r => (r.2.1, ({ r.2.2 with lastDataSize := 1 } : UcdrBuffer))) hget
    deserializeArray_error := fun {_ dev _} s ub hn herror => by
      have hget := @getBytes_error _ dev _ hn s ub herror
      exact congrArg (fun r => (r.1, r.2.1, ({ r.2.2 with lastDataSize := 1 } : UcdrBuffer))) hget
    deserialize_error := fun {_ dev k} s ub e hk herror => by
      have hget := @getBytes_error _ dev k (width_pos hk) s (alignTo ub k) herror
      refine ⟨{ alignTo ub k with lastDataSize := k },
        congrArg (fun r => (r.1.map (decodeScalar e), r.2.1,
          ({ r.2.2 with lastDataSize := k } : UcdrBuffer))) hget, herror, ⟨rfl, rfl, rfl⟩, ?_⟩
      intro hpad hle
      rw [alignTo_of_padding hpad hle]
    serialize_forward := fun m ub e k v hk hle => by
      have halign : Forward m ub (m, alignTo ub k) :=
        ⟨rfl, rfl, Nat.le_min.mpr ⟨Nat.le_add_right _ _, hle⟩, Nat.min_le_right _ _, fun _ _ => rfl⟩
      have hput := halign.trans (putBytes_forward (encodeScalar e k v) m halign.bound)
      exact ⟨hput.init, hput.final, hput.le, hput.bound, hput.kept⟩
    serializeArray_forward := fun m ub bs hle => by
      have hput := putBytes_forward bs m hle
      exact ⟨hput.init, hput.final, hput.le, hput.bound, hput.kept⟩ }

open ReferenceMicroCdr in
theorem referenceMicroCdr_bounded : @BoundedMicroCdr referenceMicroCdr :=
  let _ : MicroCdr := referenceMicroCdr
  { toStickyMicroCdr := referenceMicroCdr_sticky
    deserialize_cut := fun m ub e k hk hok hle hcut => by
      have hend : (alignTo ub k).iterator = (alignTo ub k).final :=
        Nat.min_eq_right (Nat.le_of_lt hcut)
      have hstop : GetStops Device.plain k m (alignTo ub k) m { alignTo ub k with error := true } := by
        cases k with
        | zero => simp at hk
        | succ k => exact GetStops.refused hok hend rfl
      exact ⟨_, congrArg (fun r => (r.1.map (decodeScalar e), r.2.1,
        ({ r.2.2 with lastDataSize := k } : UcdrBuffer))) (getBytes_of_getStops hstop), rfl⟩ }

end XrceClient
