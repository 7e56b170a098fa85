import XrceClient.Session.BlockReading
import XrceClient.Session.SlotReading

/-!
# Reading a message out of its fragments

What readers get of a fragmented message, by the bytes of its fragments alone: the bytes that are
left of the fragment under the buffer, and the fragments behind it.

- `FragmentedMessage`, `Rest`: the fragments, and what is left of them.
- `FragmentedMessage.take`: taking bytes, from one fragment to the next.
- `BufferOp.onRest`, `FragmentedMessage.handle`: the operations of the reading functions.
- `ReadsRest`: a confined run that reads what is left.
- `handle_ok`, `handle_runsOut`: where the fragments have the bytes the confined run goes on, and
  where they run out it gives up.
-/

namespace XrceClient

open ByteMemory

/-- Where a message gives no more bytes. -/
inductive Ending where
  /-- A byte behind the last fragment was asked for. -/
  | runsOut
  /-- The documented rules of Micro-CDR say nothing, or the next fragment is without a payload or
  larger than its slot. -/
  | undocumented
  deriving DecidableEq, Repr

/-- The fragments of a message, each with its subheader, in the slots of a ring. -/
structure FragmentedMessage where
  fragments : List (List UInt8)
  /-- The number of bytes from one slot to the next. -/
  stride : Nat
  history : Nat
  deriving DecidableEq, Repr

/-- What is left of a message behind the iterator of a buffer. -/
structure Rest where
  /-- The fragment that the buffer was put over. -/
  fragment : Nat
  /-- Where in its slot the iterator is. -/
  place : Nat
  /-- The bytes that are left of the fragment. -/
  bytes : List UInt8
  offset : Nat
  endianness : Endianness
  deriving DecidableEq, Repr

/-- A buffer, by what is left. -/
structure RestBuffer extends Rest where
  lastDataSize : Nat
  deriving DecidableEq, Repr

/-- The buffers of a reading function, by what is left, and the flag of the stream. -/
structure RestCursor where
  buffer : RestBuffer
  outer : Option RestBuffer
  cleanupFlag : Bool
  deriving DecidableEq, Repr

namespace Rest

/-- How many bytes there are to the next multiple. -/
def padding (r : Rest) (size : Nat) : Nat := (size - r.offset % size) % size

/-- Behind bytes of the same fragment. -/
def skip (r : Rest) (n : Nat) : Rest :=
  { r with place := r.place + n, bytes := r.bytes.drop n }

/-- Behind the padding, or at the end of the fragment. -/
def pad (r : Rest) (n : Nat) : Rest :=
  { r.skip (min n r.bytes.length) with offset := r.offset + n }

/-- At the next multiple, or at the end of the fragment. -/
def alignTo (r : Rest) (size : Nat) : Rest := r.pad (r.padding size)

/-- Behind one byte. -/
def next (r : Rest) : Rest := { r.skip 1 with offset := r.offset + 1 }

end Rest

namespace RestBuffer

/-- How far `ucdr_align_to` moves. -/
def padding (b : RestBuffer) (size : Nat) : Nat :=
  if b.lastDataSize < size then b.toRest.padding size else 0

def alignTo (b : RestBuffer) (size : Nat) : RestBuffer where
  toRest := b.toRest.pad (b.padding size)
  lastDataSize := size

end RestBuffer

section

variable [MicroCdr]

namespace FragmentedMessage

variable (message : FragmentedMessage)

/-- A byte to take: in the fragment, or in the one behind it. -/
def room (r : Rest) : Except Ending Rest :=
  if r.bytes ≠ [] then
    .ok r
  else
    match message.fragments[r.fragment + 1]? with
    | some fragment =>
      if subheaderSize < fragment.length ∧ fragment.length + 4 ≤ message.stride then
        .ok
          { fragment := r.fragment + 1
            place := 8
            bytes := fragment.drop subheaderSize
            offset := r.offset
            endianness := machineEndianness }
      else
        .error .undocumented
    | none => if r.fragment + 1 < message.history then .error .runsOut else .error .undocumented

/-- Take bytes. -/
def take : Nat → Rest → Except Ending (List UInt8 × Rest)
  | 0, r => .ok ([], r)
  | n + 1, r => do
    let r ← message.room r
    let (bs, r') ← take n r.next
    return (r.bytes.headD 0 :: bs, r')

/-- A buffer over what is left of the fragment. Behind the last byte of a slot it is over the next
slot. -/
def copy (r : Rest) : RestBuffer where
  fragment := r.fragment + r.place / message.stride
  place := r.place % message.stride
  bytes := r.bytes
  offset := 0
  endianness := machineEndianness
  lastDataSize := 0

end FragmentedMessage

/-- A Micro-CDR call on what is left. -/
def BufferOp.onRest (message : FragmentedMessage) {β : Type} (op : BufferOp β) (b : RestBuffer) :
    Except Ending (β × RestBuffer) :=
  match op with
  | .alignTo size =>
    if size ∈ [1, 2, 4, 8] then .ok ((), b.alignTo size) else .error .undocumented
  | .bufferRemaining => .ok (b.bytes.length, b)
  | .offset => .ok (b.offset, b)
  | .deserialize e width =>
    if width ∈ [1, 2, 4, 8] ∧ b.padding width ≤ b.bytes.length then do
      let (bs, r) ← message.take width (b.alignTo width).toRest
      return (some (decodeScalar (e.getD b.endianness) bs), { r with lastDataSize := width })
    else
      .error .undocumented
  | .deserializeArray size => do
    let (bs, r) ← message.take size b.toRest
    return (some bs, { r with lastDataSize := 1 })
  | .advanceBuffer size => do
    let (_, r) ← message.take size b.toRest
    return ((), { r with lastDataSize := 1 })

/-- An operation of a reading function on what is left. A slot that a copy of the buffer gives back
is still in front of the buffer itself. -/
def FragmentedMessage.handle (message : FragmentedMessage) {β : Type} (op : ReadOp β)
    (c : RestCursor) : Except Ending (β × RestCursor) :=
  match op with
  | .buffer op =>
    if c.outer.isSome ∧ c.cleanupFlag then
      .error .undocumented
    else do
      let (b, buffer) ← op.onRest message c.buffer
      return (b, { c with buffer })
  | .setEndianness e => .ok (⟨⟩, { c with buffer := { c.buffer with endianness := e } })
  | .skip n =>
    if n ≤ c.buffer.bytes.length then
      .ok (⟨⟩, { c with buffer := { c.buffer with toRest := c.buffer.toRest.skip n } })
    else
      .error .undocumented
  | .openTemp =>
    .ok (⟨⟩, { c with buffer := message.copy c.buffer.toRest, outer := some c.buffer })
  | .rebaseTemp => .ok (⟨⟩, { c with buffer := message.copy c.buffer.toRest })
  | .closeTemp => .ok (⟨⟩, { c with buffer := c.outer.getD c.buffer, outer := none })
  | .setCleanupFlag b => .ok (⟨⟩, { c with cleanupFlag := b })
  | .emit _ => .ok (⟨⟩, c)

end

/-! ## The ring and the fragments -/

section

variable {message : FragmentedMessage} {first : Nat} {stream stream' : InputReliableStream}
  {ub ub' : UcdrBuffer} {r r' : Rest}

/-- The positions of the slots that the fragments are in, from a count on. -/
def FragmentedMessage.Slots (message : FragmentedMessage) (first p : Nat) : Prop :=
  ∃ i, i < message.fragments.length ∧ p = (first + i) % message.history

/-- The ring has the fragments behind the one with the given number. -/
structure HoldsFragments (message : FragmentedMessage) (first gone : Nat)
    (stream : InputReliableStream) : Prop where
  wellFormed : stream.base.WellFormed
  stride : stream.base.stride = message.stride
  history : stream.base.history.toNat = message.history
  le : message.fragments.length ≤ message.history
  size : ∀ i fragment, gone < i → message.fragments[i]? = some fragment →
    getReliableBufferSize stream.base (UInt16.ofNat (first + i)) = fragment.length
  bytes : ∀ i fragment, message.fragments[i]? = some fragment →
    fragment.length + 4 ≤ message.stride →
    stream.base.bytesFrom (UInt16.ofNat (first + i)) 0 fragment.length = fragment

/-- A buffer is over what is left. -/
structure Over (message : FragmentedMessage) (first : Nat) (stream : InputReliableStream)
    (ub : UcdrBuffer) (r : Rest) : Prop where
  ok : ub.error = false
  callback : ub.onFullBuffer ≠ none
  slot : ub.init / message.stride % message.history = (first + r.fragment) % message.history
  iterator : ub.iterator = ub.init / message.stride * message.stride + r.place
  final : ub.final = ub.iterator + r.bytes.length
  fits : r.place + r.bytes.length ≤ message.stride
  bytes : read stream.base.buffer ub.iterator r.bytes.length = r.bytes
  small : r.bytes.length < 2 ^ 32
  offset : ub.offset = r.offset
  endianness : ub.endianness = r.endianness

theorem HoldsFragments.mono {gone gone' : Nat} (h : HoldsFragments message first gone stream)
    (hle : gone ≤ gone') : HoldsFragments message first gone' stream :=
  { h with
    size := fun i fragment hi => h.size i fragment (Nat.lt_of_le_of_lt hle hi) }

/-- Two fragments are in different slots. -/
theorem HoldsFragments.slot_ne {gone : Nat} (h : HoldsFragments message first gone stream)
    {i j : Nat} (hlt : i < j) (hj : j < message.history) :
    stream.base.slot (UInt16.ofNat (first + j)) ≠ stream.base.slot (UInt16.ofNat (first + i)) := by
  rw [h.wellFormed.slot_ofNat, h.wellFormed.slot_ofNat, h.history]
  intro heq
  have hmod : first + j ≡ first + i [MOD message.history] := heq
  have hmod' := Nat.ModEq.add_left_cancel' first hmod
  rw [Nat.ModEq, Nat.mod_eq_of_lt hj, Nat.mod_eq_of_lt (by omega)] at hmod'
  omega

/-- A slot in front of the fragments is given back. -/
theorem HoldsFragments.clear {gone : Nat} (h : HoldsFragments message first gone stream)
    {q : SeqNum} (hslot : stream.base.slot q = stream.base.slot (UInt16.ofNat (first + gone))) :
    HoldsFragments message first gone
      { stream with base := setReliableBufferSize stream.base q 0 } where
  wellFormed := ⟨h.wellFormed.history, h.wellFormed.stride⟩
  stride := h.stride
  history := h.history
  le := h.le
  size i fragment hi hfragment := by
    have hlt := Nat.lt_of_lt_of_le (List.getElem?_eq_some_iff.mp hfragment).1 h.le
    have hne := h.slot_ne hi hlt
    rw [← hslot] at hne
    have hsame := ReliableStream.getReliableBufferSize_set_other
      (Nat.le_of_lt h.wellFormed.stride) hne 0
    exact hsame.trans (h.size i fragment hi hfragment)
  bytes i fragment hfragment hfits := by
    have hsame := @ReliableStream.bytesFrom_set stream.base q (UInt16.ofNat (first + i)) 0
      fragment.length (by rw [h.stride]; omega) 0
    exact hsame.trans (h.bytes i fragment hfragment hfits)

namespace Over

theorem le (h : Over message first stream ub r) : ub.iterator ≤ ub.final := by
  rw [h.final]
  exact Nat.le_add_right _ _

/-- Where the callback goes. -/
theorem nextPosition {gone : Nat} (hstream : HoldsFragments message first gone stream)
    (h : Over message first stream ub r) :
    nextPosition stream.base ub = (first + (r.fragment + 1)) % message.history ∧
      stream.base.slot (nextHistoryPosition stream.base ub) =
        stream.base.slot (UInt16.ofNat (first + (r.fragment + 1))) := by
  have hposition : stream.base.slot (nextHistoryPosition stream.base ub) =
      (first + (r.fragment + 1)) % message.history := by
    rw [nextHistoryPosition, getReliableBufferHistoryPosition, ← ReliableStream.stride,
      hstream.stride, UInt16.add_comm]
    have hcount := hstream.wellFormed.slot_ofNat (ub.init / message.stride + 1)
    rw [← Serial.ofNat_add_ofNat, hstream.history] at hcount
    refine hcount.trans ?_
    rw [← Nat.add_assoc]
    exact Nat.ModEq.add_right 1 h.slot
  refine ⟨hposition, ?_⟩
  rw [hposition, hstream.wellFormed.slot_ofNat, hstream.history]

/-- Behind bytes of the same fragment. -/
theorem skip (h : Over message first stream ub r) {n : Nat} (hn : n ≤ r.bytes.length) :
    Over message first stream { ub with iterator := ub.iterator + n } (r.skip n) := by
  have hlength : (r.skip n).bytes.length = r.bytes.length - n := List.length_drop
  have hfinal := h.final
  have hfits := h.fits
  have hsmall := h.small
  refine ⟨h.ok, h.callback, h.slot, ?_, ?_, ?_, ?_, ?_, h.offset, h.endianness⟩
  · show ub.iterator + n = _ + (r.place + n)
    rw [h.iterator, Nat.add_assoc]
  · rw [hlength]
    dsimp only
    omega
  · rw [hlength]
    show r.place + n + _ ≤ _
    omega
  · rw [hlength]
    show read _ (ub.iterator + n) _ = r.bytes.drop n
    rw [← read_drop, h.bytes]
  · rw [hlength]
    omega

theorem next (h : Over message first stream ub r) (hne : r.bytes ≠ []) :
    Over message first stream ub.next r.next :=
  { h.skip (List.length_pos_iff.mpr hne) with
    offset := congrArg (· + 1) h.offset }

/-- The byte that is next. -/
theorem load (h : Over message first stream ub r) (hne : r.bytes ≠ []) :
    stream.base.buffer ub.iterator = r.bytes.headD 0 := by
  obtain ⟨byte, bytes, hbytes⟩ := List.exists_cons_of_ne_nil hne
  have hread := h.bytes
  rw [hbytes, List.length_cons, read_succ] at hread
  rw [hbytes]
  exact (List.cons.inj hread).1

/-- A copy of the buffer. -/
theorem copy [MicroCdr] [LawfulMicroCdr] (hpos : 0 < message.stride)
    (h : Over message first stream ub r) {callback : Option OnFullBuffer}
    (hcallback : callback ≠ none) :
    Over message first stream (ub.rebase callback) (message.copy r).toRest := by
  have hsize : (ub.final - ub.iterator) % 2 ^ 32 = r.bytes.length := by
    rw [h.final, Nat.add_sub_cancel_left, Nat.mod_eq_of_lt h.small]
  have hdiv : ub.iterator / message.stride =
      ub.init / message.stride + r.place / message.stride := by
    rw [h.iterator, Nat.add_comm, Nat.add_mul_div_right _ _ hpos, Nat.add_comm]
  have hbuffer : ub.rebase callback =
      { init := ub.iterator, iterator := ub.iterator, final := ub.iterator + r.bytes.length,
        offset := 0, lastDataSize := 0, endianness := machineEndianness, error := false,
        onFullBuffer := callback } := by
    rw [UcdrBuffer.rebase, ucdrInitBuffer, LawfulMicroCdr.init, hsize]
    rfl
  rw [hbuffer]
  refine ⟨rfl, hcallback, ?_, ?_, rfl, ?_, h.bytes, h.small, rfl, rfl⟩
  · show ub.iterator / message.stride % message.history =
      (first + (r.fragment + r.place / message.stride)) % message.history
    rw [hdiv, ← Nat.add_assoc]
    exact Nat.ModEq.add_right _ h.slot
  · show ub.iterator = ub.iterator / message.stride * message.stride + r.place % message.stride
    have hplace : ub.iterator % message.stride = r.place % message.stride := by
      rw [h.iterator, Nat.add_comm, Nat.add_mul_mod_self_right]
    rw [← hplace, Nat.div_add_mod']
  · exact Nat.le_trans (Nat.add_le_add_right (Nat.mod_le _ _) _) h.fits

/-- The callback gives the next fragment. -/
theorem onFull [MicroCdr] [LawfulMicroCdr]
    (hstream : HoldsFragments message first r.fragment stream)
    (h : Over message first stream ub r) {fragment : List UInt8}
    (hfragment : message.fragments[r.fragment + 1]? = some fragment)
    (hpayload : subheaderSize < fragment.length) (hfits : fragment.length + 4 ≤ message.stride) :
    ∃ stream' ub', onFullInputBuffer stream ub = (false, stream', ub') ∧
      stream'.cleanupFlag = stream.cleanupFlag ∧ (stream.cleanupFlag = false → stream' = stream) ∧
      HoldsFragments message first (r.fragment + 1) stream' ∧
      Over message first stream' ub'
        { fragment := r.fragment + 1, place := 8, bytes := fragment.drop subheaderSize,
          offset := r.offset, endianness := machineEndianness } ∧
      ub'.final ≤ (XrceClient.nextPosition stream.base ub + 1) * message.stride := by
  obtain ⟨hposition, hslot⟩ := h.nextPosition hstream
  have hfour : subheaderSize = 4 := rfl
  have hsize : getReliableBufferSize stream.base (nextHistoryPosition stream.base ub) =
      fragment.length :=
    (ReliableStream.getReliableBufferSize_congr hslot).trans
      (hstream.size _ _ (Nat.lt_succ_self _) hfragment)
  have hsmall := @ReliableStream.getReliableBufferSize_lt stream.base
    (nextHistoryPosition stream.base ub)
  obtain ⟨hno, hub⟩ := @onFullInputBuffer_large _ stream ub _ (by omega)
  rw [hsize, hposition, hstream.stride] at hub
  rw [hsize] at hsmall
  obtain ⟨stream', hstream'⟩ : ∃ stream', stream' = (onFullInputBuffer stream ub).2.1 := ⟨_, rfl⟩
  have heq := congrArg (fun result => result.2.1) (onFullInputBuffer_eq stream ub)
  dsimp only at heq
  rw [← hstream'] at heq
  have hholds : HoldsFragments message first (r.fragment + 1) stream' := by
    rw [heq]
    split
    · exact (hstream.mono (Nat.le_succ _)).clear hslot
    · exact hstream.mono (Nat.le_succ _)
  -- the payload lies behind the size and the subheader
  have hlength : (fragment.drop subheaderSize).length = fragment.length - 4 := List.length_drop
  have hread := hholds.bytes _ _ hfragment hfits
  rw [ReliableStream.bytesFrom, ReliableStream.getReliableBuffer_eq, hholds.stride,
    hholds.wellFormed.slot_ofNat, hholds.history] at hread
  have hbytes := read_drop stream'.base.buffer
    ((first + (r.fragment + 1)) % message.history * message.stride + 4) fragment.length 4
  rw [hread] at hbytes
  have hdiv : ((first + (r.fragment + 1)) % message.history * message.stride + 8) /
      message.stride = (first + (r.fragment + 1)) % message.history := by
    rw [Nat.add_comm, Nat.add_mul_div_right _ _ (by omega), Nat.div_eq_of_lt (by omega),
      Nat.zero_add]
  refine ⟨stream', _, by rw [hstream', ← hno], ?_, ?_, hholds, ?_, ?_⟩
  · rw [heq]
    split <;> rfl
  · intro hflag
    rw [heq, if_neg (by rw [hflag]; decide)]
  · rw [hub]
    refine ⟨rfl, Option.some_ne_none _, ?_, ?_, ?_, ?_, ?_, ?_, h.offset, rfl⟩
    · rw [hdiv, Nat.mod_mod]
    · rw [hdiv]
    · rw [hlength]
    · dsimp only
      rw [hlength]
      omega
    · dsimp only
      rw [hlength]
      exact hbytes.symm
    · dsimp only
      rw [hlength]
      omega
  · rw [hub, hposition, Nat.succ_mul]
    dsimp only
    omega

end Over

/-- The ring and the buffer behind bytes that were taken. Only where slots are given back the ring
changes. -/
structure Advances (message : FragmentedMessage) (first : Nat)
    (stream stream' : InputReliableStream) (ub' : UcdrBuffer) (r r' : Rest) : Prop where
  flag : stream'.cleanupFlag = stream.cleanupFlag
  kept : stream.cleanupFlag = false → stream' = stream
  holds : HoldsFragments message first r'.fragment stream'
  reads : Over message first stream' ub' r'
  le : r.fragment ≤ r'.fragment

/-- Behind bytes of the same fragment. -/
theorem Over.advances (hstream : HoldsFragments message first r.fragment stream)
    (h : Over message first stream ub r') (hsame : r'.fragment = r.fragment) :
    Advances message first stream stream ub r r' :=
  ⟨rfl, fun _ => rfl, hsame ▸ hstream, h, Nat.le_of_eq hsame.symm⟩

theorem Advances.trans {stream'' : InputReliableStream} {ub'' : UcdrBuffer} {r'' : Rest}
    (h : Advances message first stream stream' ub' r r')
    (h' : Advances message first stream' stream'' ub'' r' r'') :
    Advances message first stream stream'' ub'' r r'' where
  flag := h'.flag.trans h.flag
  kept hoff := (h'.kept (h.flag.trans hoff)).trans (h.kept hoff)
  holds := h'.holds
  reads := h'.reads
  le := Nat.le_trans h.le h'.le

/-! ## Taking bytes -/

section

variable [MicroCdr] [LawfulMicroCdr] {own : Nat → Prop} [DecidablePred own]

omit [MicroCdr] [LawfulMicroCdr] in
theorem Over.documented (h : Over message first stream ub r) :
    ¬ (ub.error = true ∨ ub.final < ub.iterator ∨ ub.onFullBuffer = none) := by
  rw [h.ok]
  simp only [Bool.false_eq_true, false_or, not_or, Nat.not_lt]
  exact ⟨h.le, h.callback⟩

/-- A byte that the fragments have is one that the confined run gets. -/
theorem room_ok (hown : ∀ p, own p ↔ message.Slots first p)
    (hstream : HoldsFragments message first r.fragment stream)
    (h : Over message first stream ub r) (hroom : message.room r = .ok r') :
    ∃ stream' ub', room own stream ub = .ok (stream', ub') ∧
      Advances message first stream stream' ub' r r' ∧ r'.bytes ≠ [] := by
  rw [FragmentedMessage.room] at hroom
  rw [room]
  dsimp only
  rw [if_neg h.documented]
  split at hroom
  · next hne =>
    cases hroom
    have hpos := List.length_pos_iff.mpr hne
    rw [if_pos (by rw [h.final]; omega)]
    exact ⟨stream, ub, rfl, h.advances hstream rfl, hne⟩
  · next hnil =>
    rw [not_not] at hnil
    split at hroom
    · next fragment hfragment =>
      split at hroom
      · next husable =>
        cases hroom
        obtain ⟨stream', ub', hfull, hflag, hkept, hholds, hover, hend⟩ :=
          h.onFull hstream hfragment husable.1 husable.2
        have hinside := (List.getElem?_eq_some_iff.mp hfragment).1
        have hlength : (fragment.drop subheaderSize).length = fragment.length - 4 :=
          List.length_drop
        have hfour : subheaderSize = 4 := rfl
        have hposition := (h.nextPosition hstream).1
        have hfinal := hover.final
        dsimp only at hfinal
        have hroom : (onFullInputBuffer stream ub).1 = false ∧
            (onFullInputBuffer stream ub).2.2.iterator < (onFullInputBuffer stream ub).2.2.final ∧
            (onFullInputBuffer stream ub).2.2.final ≤
              (nextPosition stream.base ub + 1) * stream.base.stride := by
          rw [hfull]
          exact ⟨rfl, by dsimp only; omega, hstream.stride.symm ▸ hend⟩
        rw [if_neg (by rw [h.final, hnil]; exact Nat.lt_irrefl _), if_neg, if_pos hroom, hfull]
        · refine ⟨stream', ub', rfl, ⟨hflag, hkept, hholds, hover, Nat.le_succ _⟩, ?_⟩
          intro hempty
          dsimp only at hempty
          rw [hempty] at hlength
          rw [List.length_nil] at hlength
          omega
        · rw [not_not, hown, hposition]
          exact ⟨r.fragment + 1, hinside, rfl⟩
      · cases hroom
    · split at hroom <;> cases hroom

omit [LawfulMicroCdr] in
/-- Where the fragments run out the confined run gives up. -/
theorem room_runsOut (hown : ∀ p, own p ↔ message.Slots first p)
    (hstream : HoldsFragments message first r.fragment stream)
    (h : Over message first stream ub r) (hroom : message.room r = .error .runsOut) :
    ∃ p, room own stream ub = .error (.escaped p) := by
  rw [FragmentedMessage.room] at hroom
  rw [room]
  dsimp only
  rw [if_neg h.documented]
  split at hroom
  · cases hroom
  · next hnil =>
    rw [not_not] at hnil
    split at hroom
    · split at hroom <;> cases hroom
    · next hnone =>
      split at hroom
      · next hlt =>
        refine ⟨nextPosition stream.base ub, ?_⟩
        rw [if_neg (by rw [h.final, hnil]; exact Nat.lt_irrefl _), if_pos]
        rw [hown, (h.nextPosition hstream).1]
        rintro ⟨i, hi, heq⟩
        have hlast := List.getElem?_eq_none_iff.mp hnone
        have hne := hstream.slot_ne (Nat.lt_of_lt_of_le hi hlast) hlt
        rw [hstream.wellFormed.slot_ofNat, hstream.wellFormed.slot_ofNat, hstream.history] at hne
        exact hne heq
      · cases hroom

/-- What the fragments have is what the confined run takes. -/
theorem takeBytes_ok (hown : ∀ p, own p ↔ message.Slots first p)
    (hstream : HoldsFragments message first r.fragment stream)
    (h : Over message first stream ub r) {n : Nat} {bs : List UInt8}
    (htake : message.take n r = .ok (bs, r')) :
    ∃ stream' ub', takeBytes own n stream ub = .ok (bs, stream', ub') ∧
      Advances message first stream stream' ub' r r' := by
  induction n generalizing r stream ub bs with
  | zero =>
    cases htake
    exact ⟨stream, ub, rfl, h.advances hstream rfl⟩
  | succ n ih =>
    rw [FragmentedMessage.take] at htake
    simp only [bind, Except.bind] at htake
    split at htake
    · cases htake
    · next r₁ hroom =>
      obtain ⟨stream₁, ub₁, hroom', hfirst, hne⟩ := room_ok hown hstream h hroom
      split at htake
      · cases htake
      · next rest hrest =>
        cases htake
        have hnext := (hfirst.reads.next hne).advances hfirst.holds rfl
        obtain ⟨stream', ub', htake', hbehind⟩ := ih (r := r₁.next) hfirst.holds hnext.reads hrest
        refine ⟨stream', ub', ?_, (hfirst.trans hnext).trans hbehind⟩
        rw [takeBytes, hroom']
        simp only [bind, Except.bind]
        rw [htake', hfirst.reads.load hne]
        rfl

/-- Where the fragments run out the confined run asks for another slot. -/
theorem takeBytes_runsOut (hown : ∀ p, own p ↔ message.Slots first p)
    (hstream : HoldsFragments message first r.fragment stream)
    (h : Over message first stream ub r) {n : Nat}
    (htake : message.take n r = .error .runsOut) :
    ∃ p, takeBytes own n stream ub = .error (.escaped p) := by
  induction n generalizing r stream ub with
  | zero => cases htake
  | succ n ih =>
    rw [FragmentedMessage.take] at htake
    simp only [bind, Except.bind] at htake
    split at htake
    · next e hroom =>
      cases htake
      obtain ⟨p, hroom'⟩ := room_runsOut hown hstream h hroom
      refine ⟨p, ?_⟩
      rw [takeBytes, hroom']
      rfl
    · next r₁ hroom =>
      obtain ⟨stream₁, ub₁, hroom', hfirst, hne⟩ := room_ok hown hstream h hroom
      split at htake
      · next e hrest =>
        cases htake
        obtain ⟨p, hrest'⟩ := ih (r := r₁.next) hfirst.holds (hfirst.reads.next hne) hrest
        refine ⟨p, ?_⟩
        rw [takeBytes, hroom']
        simp only [bind, Except.bind]
        rw [hrest']
      · cases htake

/-! ## Operations -/

/-- A buffer is over what is left, and pads as it does. -/
structure OverBuffer (message : FragmentedMessage) (first : Nat) (stream : InputReliableStream)
    (ub : UcdrBuffer) (b : RestBuffer) : Prop where
  reads : Over message first stream ub b.toRest
  lastDataSize : ub.lastDataSize = b.lastDataSize

variable {b b' : RestBuffer}

omit [MicroCdr] [LawfulMicroCdr] [DecidablePred own] in
theorem OverBuffer.padding (h : OverBuffer message first stream ub b) (size : Nat) :
    ub.padding size = b.padding size := by
  rw [UcdrBuffer.padding, RestBuffer.padding, Rest.padding, h.lastDataSize, h.reads.offset]

omit [DecidablePred own] in
theorem OverBuffer.alignTo (h : OverBuffer message first stream ub b) {size : Nat}
    (hsize : size ∈ [1, 2, 4, 8]) :
    OverBuffer message first stream (ucdrAlignTo ub size) (b.alignTo size) := by
  have hmin : min (ub.iterator + b.padding size) ub.final =
      ub.iterator + min (b.padding size) b.bytes.length := by
    rw [h.reads.final]
    omega
  rw [LawfulMicroCdr.alignTo ub size hsize h.reads.le, h.padding, hmin]
  exact ⟨{ h.reads.skip (Nat.min_le_right (b.padding size) _) with
    offset := congrArg (· + b.padding size) h.reads.offset }, rfl⟩

/-- What a Micro-CDR call takes of the fragments, the confined call takes of the slots. -/
theorem within_onRest {β : Type} {op : BufferOp β} {a : β}
    (hown : ∀ p, own p ↔ message.Slots first p)
    (hstream : HoldsFragments message first b.fragment stream)
    (h : OverBuffer message first stream ub b) (hop : op.onRest message b = .ok (a, b')) :
    ∃ stream' ub', op.within own stream ub = .ok (a, stream', ub') ∧
      Advances message first stream stream' ub' b.toRest b'.toRest ∧
      ub'.lastDataSize = b'.lastDataSize := by
  cases op with
  | alignTo size =>
    rw [BufferOp.onRest] at hop
    split at hop
    · next hsize =>
      cases hop
      have haligned := h.alignTo hsize
      refine ⟨stream, ucdrAlignTo ub size, ?_, haligned.reads.advances hstream rfl,
        haligned.lastDataSize⟩
      rw [BufferOp.within, if_pos ⟨hsize, h.reads.le⟩]
    · cases hop
  | bufferRemaining =>
    cases hop
    refine ⟨stream, ub, ?_, h.reads.advances hstream rfl, h.lastDataSize⟩
    rw [BufferOp.within, LawfulMicroCdr.remaining ub h.reads.le, h.reads.final,
      Nat.add_sub_cancel_left]
  | offset =>
    cases hop
    refine ⟨stream, ub, ?_, h.reads.advances hstream rfl, h.lastDataSize⟩
    rw [BufferOp.within, h.reads.offset]
  | deserialize e width =>
    rw [BufferOp.onRest] at hop
    split at hop
    · next hwidth =>
      simp only [bind, Except.bind] at hop
      split at hop
      · cases hop
      · next r htake =>
        cases hop
        have haligned := (h.alignTo hwidth.1).reads
        obtain ⟨stream', ub', htake', hadvances⟩ := takeBytes_ok hown
          (r := (b.alignTo width).toRest) hstream haligned htake
        refine ⟨stream', { ub' with lastDataSize := width }, ?_,
          (haligned.advances hstream rfl).trans
            { hadvances with reads := { hadvances.reads with } }, rfl⟩
        rw [BufferOp.within, if_pos ⟨hwidth.1, by rw [h.padding, h.reads.final]; omega⟩, htake',
          h.reads.endianness]
        rfl
    · cases hop
  | deserializeArray size =>
    simp only [BufferOp.onRest, bind, Except.bind] at hop
    split at hop
    · cases hop
    · next r htake =>
      cases hop
      obtain ⟨stream', ub', htake', hadvances⟩ := takeBytes_ok hown hstream h.reads htake
      refine ⟨stream', { ub' with lastDataSize := 1 }, ?_,
        { hadvances with reads := { hadvances.reads with } }, rfl⟩
      rw [BufferOp.within, htake']
      rfl
  | advanceBuffer size =>
    simp only [BufferOp.onRest, bind, Except.bind] at hop
    split at hop
    · cases hop
    · next r htake =>
      cases hop
      obtain ⟨stream', ub', htake', hadvances⟩ := takeBytes_ok hown hstream h.reads htake
      refine ⟨stream', { ub' with lastDataSize := 1 }, ?_,
        { hadvances with reads := { hadvances.reads with } }, rfl⟩
      rw [BufferOp.within, htake']
      rfl

/-- A Micro-CDR call for which the fragments run out asks for another slot. -/
theorem within_runsOut {β : Type} {op : BufferOp β}
    (hown : ∀ p, own p ↔ message.Slots first p)
    (hstream : HoldsFragments message first b.fragment stream)
    (h : OverBuffer message first stream ub b) (hop : op.onRest message b = .error .runsOut) :
    ∃ p, op.within own stream ub = .error (.escaped p) := by
  cases op with
  | alignTo size =>
    rw [BufferOp.onRest] at hop
    split at hop <;> cases hop
  | bufferRemaining => cases hop
  | offset => cases hop
  | deserialize e width =>
    rw [BufferOp.onRest] at hop
    split at hop
    · next hwidth =>
      simp only [bind, Except.bind] at hop
      split at hop
      · next e htake =>
        cases hop
        obtain ⟨p, htake'⟩ := takeBytes_runsOut hown (r := (b.alignTo width).toRest) hstream
          (h.alignTo hwidth.1).reads htake
        refine ⟨p, ?_⟩
        rw [BufferOp.within, if_pos ⟨hwidth.1, by rw [h.padding, h.reads.final]; omega⟩, htake']
        rfl
      · cases hop
    · cases hop
  | deserializeArray size =>
    simp only [BufferOp.onRest, bind, Except.bind] at hop
    split at hop
    · next e htake =>
      cases hop
      obtain ⟨p, htake'⟩ := takeBytes_runsOut hown hstream h.reads htake
      exact ⟨p, by rw [BufferOp.within, htake']; rfl⟩
    · cases hop
  | advanceBuffer size =>
    simp only [BufferOp.onRest, bind, Except.bind] at hop
    split at hop
    · next e htake =>
      cases hop
      obtain ⟨p, htake'⟩ := takeBytes_runsOut hown hstream h.reads htake
      exact ⟨p, by rw [BufferOp.within, htake']; rfl⟩
    · cases hop

/-- A confined run reads what is left. Behind a copy of the buffer, slots are not given back. -/
structure ReadsRest (message : FragmentedMessage) (first : Nat) (t : InputReliableStream × Cursor)
    (c : RestCursor) : Prop where
  flag : t.1.cleanupFlag = c.cleanupFlag
  holds : HoldsFragments message first (c.outer.getD c.buffer).fragment t.1
  le : (c.outer.getD c.buffer).fragment ≤ c.buffer.fragment
  buffer : OverBuffer message first t.1 t.2.ub c.buffer
  outer : Option.Rel (OverBuffer message first t.1) t.2.outer c.outer

namespace ReadsRest

variable {t : InputReliableStream × Cursor} {c c' : RestCursor}

omit [MicroCdr] [LawfulMicroCdr] [DecidablePred own] in
theorem holds_buffer (h : ReadsRest message first t c) :
    HoldsFragments message first c.buffer.fragment t.1 :=
  h.holds.mono h.le

omit [MicroCdr] [LawfulMicroCdr] [DecidablePred own] in
/-- The buffer that is kept aside, or the buffer itself. -/
theorem kept (h : ReadsRest message first t c) :
    OverBuffer message first t.1 (t.2.outer.getD t.2.ub) (c.outer.getD c.buffer) := by
  have houter := h.outer
  cases ht : t.2.outer with
  | none =>
    cases hc : c.outer with
    | none => exact h.buffer
    | some buffer =>
      rw [ht, hc] at houter
      cases houter
  | some ub =>
    cases hc : c.outer with
    | none =>
      rw [ht, hc] at houter
      cases houter
    | some buffer =>
      rw [ht, hc] at houter
      cases houter with
      | some hover => exact hover

omit [DecidablePred own] in
/-- A copy of the buffer, and the buffer is kept aside or not. -/
theorem copy (h : ReadsRest message first t c) {callback : Option OnFullBuffer}
    (hcallback : callback ≠ none) :
    OverBuffer message first t.1 (t.2.ub.rebase callback) (message.copy c.buffer.toRest) := by
  have hstride := h.holds.wellFormed.stride
  rw [h.holds.stride] at hstride
  refine ⟨h.buffer.reads.copy (by omega) hcallback, ?_⟩
  rw [UcdrBuffer.rebase, ucdrInitBuffer, LawfulMicroCdr.init]
  rfl

end ReadsRest

/-- What an operation takes of the fragments, the confined operation takes of the slots. -/
theorem handle_ok {β : Type} {op : ReadOp β} {a : β} {t : InputReliableStream × Cursor}
    {c c' : RestCursor} (hown : ∀ p, own p ↔ message.Slots first p)
    (h : ReadsRest message first t c) (hop : message.handle op c = .ok (a, c')) :
    ∃ t', handleWithin own op t = .ok (a, t') ∧ ReadsRest message first t' c' := by
  obtain ⟨stream, ub, aside⟩ := t
  obtain ⟨buffer, outer, cleanupFlag⟩ := c
  have hcopy (callback : Option OnFullBuffer) (hcallback : callback ≠ none) := h.copy hcallback
  have hkept := h.kept
  obtain ⟨hflag, hholds, hle, hbuffer, houter⟩ := h
  dsimp only at hcopy hkept hflag hholds hle hbuffer houter
  cases op with
  | buffer op =>
    rw [FragmentedMessage.handle] at hop
    split at hop
    · cases hop
    · next hnot =>
      simp only [bind, Except.bind] at hop
      split at hop
      · cases hop
      · next result hresult =>
        cases hop
        obtain ⟨stream', ub', hwithin, hadvances, hlast⟩ :=
          within_onRest hown (hholds.mono hle) hbuffer hresult
        refine ⟨(stream', { ub := ub', outer := aside }), ?_, ?_⟩
        · rw [handleWithin]
          dsimp only
          rw [hwithin]
          rfl
        · cases houter with
          | none =>
            exact ⟨hadvances.flag.trans hflag, hadvances.holds, Nat.le_refl _,
              ⟨hadvances.reads, hlast⟩, .none⟩
          | some haside =>
            -- nothing is given back while there is a copy
            have hoff : stream.cleanupFlag = false := by
              rw [hflag]
              simpa using hnot
            have hsame := hadvances.kept hoff
            subst hsame
            exact ⟨hflag, hholds, Nat.le_trans hle hadvances.le, ⟨hadvances.reads, hlast⟩,
              .some haside⟩
  | setEndianness e =>
    cases hop
    have hbuffer' : OverBuffer message first stream { ub with endianness := e }
        { buffer with endianness := e } :=
      ⟨{ hbuffer.reads with endianness := rfl }, hbuffer.lastDataSize⟩
    refine ⟨_, rfl, hflag, ?_, ?_, hbuffer', houter⟩
    · cases houter <;> exact hholds
    · cases houter <;> exact hle
  | skip n =>
    rw [FragmentedMessage.handle] at hop
    split at hop
    · next hn =>
      cases hop
      dsimp only at hn
      have hbuffer' : OverBuffer message first stream { ub with iterator := ub.iterator + n }
          { buffer with toRest := buffer.toRest.skip n } :=
        ⟨hbuffer.reads.skip hn, hbuffer.lastDataSize⟩
      refine ⟨(stream, { ub := { ub with iterator := ub.iterator + n }, outer := aside }), ?_,
        hflag, ?_, ?_, hbuffer', houter⟩
      · rw [handleWithin]
        dsimp only
        rw [if_pos (by rw [hbuffer.reads.final]; omega)]
      · cases houter <;> exact hholds
      · cases houter <;> exact hle
    · cases hop
  | openTemp =>
    cases hop
    exact ⟨_, rfl, hflag, hholds.mono hle, Nat.le_add_right _ _,
      hcopy ub.onFullBuffer hbuffer.reads.callback, .some hbuffer⟩
  | rebaseTemp =>
    cases hop
    refine ⟨_, rfl, hflag, ?_, ?_, hcopy _ hkept.reads.callback, houter⟩
    · cases houter with
      | none => exact hholds.mono (Nat.le_add_right _ _)
      | some haside => exact hholds
    · cases houter with
      | none => exact Nat.le_refl _
      | some haside => exact Nat.le_trans hle (Nat.le_add_right _ _)
  | closeTemp =>
    cases hop
    exact ⟨_, rfl, hflag, hholds, Nat.le_refl _, hkept, .none⟩
  | setCleanupFlag flag =>
    cases hop
    have hover {ub : UcdrBuffer} {b : RestBuffer} (h : OverBuffer message first stream ub b) :
        OverBuffer message first { stream with cleanupFlag := flag } ub b :=
      ⟨{ h.reads with }, h.lastDataSize⟩
    refine ⟨({ stream with cleanupFlag := flag }, { ub, outer := aside }), ?_, rfl,
      { hholds with }, hle, hover hbuffer, ?_⟩
    · rw [handleWithin]
      dsimp only
      rw [if_pos (Option.isSome_iff_ne_none.mpr hbuffer.reads.callback)]
    · cases houter with
      | none => exact .none
      | some haside => exact .some (hover haside)
  | emit e =>
    cases hop
    exact ⟨_, rfl, hflag, hholds, hle, hbuffer, houter⟩

/-- An operation for which the fragments run out asks for another slot. -/
theorem handle_runsOut {β : Type} {op : ReadOp β} {t : InputReliableStream × Cursor}
    {c : RestCursor} (hown : ∀ p, own p ↔ message.Slots first p)
    (h : ReadsRest message first t c) (hop : message.handle op c = .error .runsOut) :
    ∃ p, handleWithin own op t = .error (.escaped p) := by
  cases op with
  | buffer op =>
    rw [FragmentedMessage.handle] at hop
    split at hop
    · cases hop
    · simp only [bind, Except.bind] at hop
      split at hop
      · next e herror =>
        cases hop
        obtain ⟨p, hwithin⟩ := within_runsOut hown h.holds_buffer h.buffer herror
        refine ⟨p, ?_⟩
        rw [handleWithin]
        dsimp only
        rw [hwithin]
        rfl
      · cases hop
  | skip n =>
    rw [FragmentedMessage.handle] at hop
    split at hop <;> cases hop
  | setEndianness e => cases hop
  | openTemp => cases hop
  | rebaseTemp => cases hop
  | closeTemp => cases hop
  | setCleanupFlag flag => cases hop
  | emit e => cases hop

/-- A program that the fragments have the bytes for comes to its end on the slots. -/
theorem attempt_ok {α : Type} {program : Program ReadOp α} {a : α}
    {t : InputReliableStream × Cursor} {c c' : RestCursor}
    (hown : ∀ p, own p ↔ message.Slots first p) (h : ReadsRest message first t c)
    (hp : program.attempt message.handle c = .ok (a, c')) :
    ∃ t', program.attempt (handleWithin own) t = .ok (a, t') ∧ ReadsRest message first t' c' :=
  Program.attempt_ok_attempt (handleWithin own) message.handle
    (fun _ _ _ _ _ hR hop => handle_ok hown hR hop) program h hp

/-- A program for which the fragments run out asks for another slot. -/
theorem attempt_runsOut {α : Type} {program : Program ReadOp α}
    {t : InputReliableStream × Cursor} {c : RestCursor}
    (hown : ∀ p, own p ↔ message.Slots first p) (h : ReadsRest message first t c)
    (hp : program.attempt message.handle c = .error .runsOut) :
    ∃ p, program.attempt (handleWithin own) t = .error (.escaped p) := by
  obtain ⟨e, hattempt, p, rfl⟩ := Program.attempt_error_attempt (handleWithin own) message.handle
    (Q := fun e => ∃ p, e = .escaped p) (fun _ _ _ _ _ hR hop => handle_ok hown hR hop)
    (fun _ _ _ hR hop => by
      obtain ⟨p, hescaped⟩ := handle_runsOut hown hR hop
      exact ⟨_, hescaped, p, rfl⟩) program h hp
  exact ⟨p, hattempt⟩

end

end

end XrceClient
