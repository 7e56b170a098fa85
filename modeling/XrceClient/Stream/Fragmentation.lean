import XrceClient.Stream.OutputRuns

/-!
# Messages in fragments (`output_reliable_stream.c`)

A message that fits in no slot is cut into fragments. The user gets a buffer over the room in the
first of their slots, and `on_full_output_buffer` goes on to the next one.

- `outputDevice`: the memory of a stream, with that callback.
- `puts_payloads`: bytes that are put into the buffer fill the room of one slot after the other.
- `Fragmented`: a message in fragments, as the slots hold it.
- `fragmentation`: what is written is what the fragments hold.
-/

namespace XrceClient

open ByteMemory OutputReliableStream

/-- The memory of an output stream, with its callback. -/
def outputDevice [MicroCdr] : Device OutputReliableStream where
  load stream a := stream.base.buffer a
  store stream a v := { stream with base := { stream.base with buffer := write stream.base.buffer a [v] } }
  onFull stream ub :=
    if ub.onFullBuffer = some .onFullOutputBuffer then
      let (error, ub) := onFullOutputBuffer stream ub
      (error, stream, ub)
    else
      (true, stream, ub)

/-! ## Bytes in one slot -/

section

variable [MicroCdr]

/-- Bytes that fit in the slot of a message are put there, and then the rest is put behind them. -/
theorem puts_slot {stream stream' : OutputReliableStream} {ub ub' : UcdrBuffer} {n k : Nat}
    {bytes rest : List UInt8} (hok : ub.error = false)
    (hiterator : ub.iterator = getReliableBuffer stream.base (UInt16.ofNat n) + k)
    (hroom : ub.iterator + bytes.length ≤ ub.final)
    (hrest : Puts outputDevice rest (stream.storeSlotBytes n k bytes)
      { ub with
        iterator := ub.iterator + bytes.length
        offset := ub.offset + bytes.length } stream' ub') :
    Puts outputDevice (bytes ++ rest) stream ub stream' ub' := by
  induction bytes generalizing stream ub k with
  | nil =>
    rw [storeSlotBytes, ReliableStream.storeBytes, write_nil] at hrest
    exact hrest
  | cons b bytes ih =>
    rw [List.length_cons] at hroom
    refine Puts.byte hok (by omega) ?_
    have hbuffer : getReliableBuffer (outputDevice.store stream ub.iterator b).base
        (UInt16.ofNat n) = getReliableBuffer stream.base (UInt16.ofNat n) := rfl
    have hstored : (outputDevice.store stream ub.iterator b).storeSlotBytes n (k + 1) bytes =
        stream.storeSlotBytes n k (b :: bytes) := by
      rw [storeSlotBytes, storeSlotBytes, ReliableStream.storeBytes, ReliableStream.storeBytes,
        write_cons, hbuffer, ← hiterator, ← Nat.add_assoc, ← hiterator]
      rfl
    refine @ih _ _ (k + 1) hok ?_ (by rw [UcdrBuffer.next_iterator, UcdrBuffer.next_final]; omega) ?_
    · rw [UcdrBuffer.next_iterator, hbuffer, hiterator, Nat.add_assoc]
    · rw [hstored]
      rw [List.length_cons, Nat.add_comm bytes.length, ← Nat.add_assoc, ← Nat.add_assoc] at hrest
      exact hrest

end

/-! ## What the slots of a message hold -/

/-- Where the payload starts in the `i`-th slot of a message, when it starts at `k` in the first. -/
def payloadStart (stream : OutputReliableStream) (k i : Nat) : Nat :=
  if i = 0 then k else stream.offset.toNat + 4

/-- What the slots of a message hold from there on. -/
def payloads (stream : OutputReliableStream) (n k count : Nat) : List UInt8 :=
  (List.range (count + 1)).flatMap fun i =>
    stream.base.bytesFrom (UInt16.ofNat (n + i)) (payloadStart stream k i)
      (stream.slotSize (n + i) - payloadStart stream k i)

theorem payloads_zero (stream : OutputReliableStream) (n k : Nat) :
    payloads stream n k 0 = stream.base.bytesFrom (UInt16.ofNat n) k (stream.slotSize n - k) :=
  List.append_nil _

theorem payloads_succ (stream : OutputReliableStream) (n k count : Nat) :
    payloads stream n k (count + 1) =
      stream.base.bytesFrom (UInt16.ofNat n) k (stream.slotSize n - k) ++
        payloads stream (n + 1) (stream.offset.toNat + 4) count := by
  rw [payloads, List.range_succ_eq_map, List.flatMap_cons, List.flatMap_map, payloads]
  congr 1
  refine List.flatMap_congr fun i _ => ?_
  have hstart : payloadStart stream (stream.offset.toNat + 4) i = stream.offset.toNat + 4 := by
    rw [payloadStart, ite_self]
  rw [Nat.succ_eq_add_one, payloadStart, if_neg (Nat.succ_ne_zero i), hstart,
    show n + (i + 1) = n + 1 + i by omega]

/-- Nothing but the payload in the slots of a message may differ. -/
structure Fills (stream stream' : OutputReliableStream) (n k count : Nat) : Prop where
  rest : stream' = { stream with base := { stream.base with buffer := stream'.base.buffer } }
  size : ∀ m, stream'.slotSize m = stream.slotSize m
  bytes : ∀ m j len, j + len ≤ getReliableBufferCapacity stream.base →
    (∀ i ≤ count, m % stream.base.history.toNat = (n + i) % stream.base.history.toNat →
      j + len ≤ payloadStart stream k i) →
    stream'.base.bytesFrom (UInt16.ofNat m) j len = stream.base.bytesFrom (UInt16.ofNat m) j len

theorem payloads_length {stream stream' : OutputReliableStream}
    (hsize : ∀ m, stream'.slotSize m = stream.slotSize m) (hoffset : stream'.offset = stream.offset)
    (n k count : Nat) :
    (payloads stream' n k count).length = (payloads stream n k count).length := by
  simp only [payloads, List.length_flatMap, ReliableStream.bytesFrom_length, payloadStart, hsize,
    hoffset]

theorem Fills.shape {stream stream' : OutputReliableStream} {n k count : Nat}
    (h : Fills stream stream' n k count) : SameShape stream stream' := by
  rw [h.rest]
  exact ⟨rfl, rfl, rfl⟩

theorem Fills.mono {stream stream' : OutputReliableStream} {n k count count' : Nat}
    (h : Fills stream stream' n k count) (hle : count ≤ count') : Fills stream stream' n k count' :=
  ⟨h.rest, h.size, fun m j len hlen hbefore =>
    h.bytes m j len hlen fun i hi => hbefore i (Nat.le_trans hi hle)⟩

/-- Bytes that are stored in one slot. -/
theorem fills_storeSlotBytes {stream : OutputReliableStream} (hwf : stream.Formed) (n : Nat) {k : Nat}
    {bytes : List UInt8} (hfit : k + bytes.length ≤ getReliableBufferCapacity stream.base) :
    Fills stream (stream.storeSlotBytes n k bytes) n k 0 := by
  have hcapacity := hwf.capacity_eq
  refine ⟨rfl, fun m => slotSize_storeSlotBytes hwf n m hfit, fun m j len hlen hbefore => ?_⟩
  by_cases hslot : m % stream.base.history.toNat = n % stream.base.history.toNat
  · have hbehind := hbefore 0 (Nat.le_refl 0) hslot
    have hsame : stream.base.slot (UInt16.ofNat m) = stream.base.slot (UInt16.ofNat n) := by
      rw [hwf.base.slot_ofNat, hwf.base.slot_ofNat, hslot]
    show (stream.base.storeBytes (UInt16.ofNat n) k bytes).bytesFrom (UInt16.ofNat m) j len = _
    rw [@ReliableStream.bytesFrom_congr (stream.base.storeBytes (UInt16.ofNat n) k bytes) _ _ hsame,
      ReliableStream.bytesFrom_congr hsame]
    exact ReliableStream.bytesFrom_storeBytes_before (UInt16.ofNat n) hbehind
  · refine ReliableStream.bytesFrom_storeBytes_other ?_ (by omega) (by omega)
    rwa [hwf.base.slot_ofNat, hwf.base.slot_ofNat]

/-- The first slot of a message is filled, and then the others. -/
theorem Fills.cons {stream stream₁ stream' : OutputReliableStream} {n k count : Nat}
    (hfirst : Fills stream stream₁ n k 0)
    (hothers : Fills stream₁ stream' (n + 1) (stream.offset.toNat + 4) count) :
    Fills stream stream' n k (count + 1) where
  rest := by
    rw [hothers.rest, hfirst.rest]
  size m := (hothers.size m).trans (hfirst.size m)
  bytes m j len hlen hbefore := by
    have hshape := hfirst.shape
    rw [hothers.bytes m j len (by rw [hshape.capacity]; exact hlen), hfirst.bytes m j len hlen]
    · intro i hi hslot
      obtain rfl : i = 0 := Nat.le_zero.mp hi
      exact hbefore 0 (Nat.zero_le _) hslot
    · intro i hi hslot
      have hstart := hbefore (i + 1) (Nat.succ_le_succ hi)
        (by rw [← hshape.history, hslot, show n + (i + 1) = n + 1 + i by omega])
      rw [payloadStart, if_neg (Nat.succ_ne_zero i)] at hstart
      rw [payloadStart, hshape.offset, ite_self]
      exact hstart

/-! ## Bytes in slot after slot -/

section

variable [MicroCdr]

/-- The buffer stands `k` bytes behind the start of the slot of the `n`-th message, and may go on
to the end of what the slot holds. -/
structure InOutputSlot (stream : OutputReliableStream) (ub : UcdrBuffer) (n k : Nat) : Prop where
  ok : ub.error = false
  init : ub.init / stream.base.stride = n % stream.base.history.toNat
  iterator : ub.iterator = getReliableBuffer stream.base (UInt16.ofNat n) + k
  final : ub.final = getReliableBuffer stream.base (UInt16.ofNat n) + stream.slotSize n
  callback : ub.onFullBuffer = some .onFullOutputBuffer

omit [MicroCdr] in
/-- An address in a slot belongs to that slot. -/
theorem address_div_stride {stream : OutputReliableStream} (hwf : stream.Formed) (n : Nat) {k : Nat}
    (hk : k < getReliableBufferCapacity stream.base) :
    (getReliableBuffer stream.base (UInt16.ofNat n) + k) / stream.base.stride =
      n % stream.base.history.toNat := by
  have hcapacity := hwf.capacity_eq
  rw [ReliableStream.getReliableBuffer_eq, hwf.base.slot_ofNat, Nat.add_assoc, Nat.mul_comm,
    Nat.mul_add_div (by omega), Nat.div_eq_of_lt (by omega), Nat.add_zero]

variable [LawfulMicroCdr]

/-- At the end of a slot the buffer goes on behind the header of the next fragment. -/
theorem onFull_inOutputSlot {stream : OutputReliableStream} (hwf : stream.Formed) {ub : UcdrBuffer}
    {n k : Nat} (h : InOutputSlot stream ub n k)
    (hroom : stream.offset.toNat + 4 < stream.slotSize (n + 1))
    (hbounded : stream.slotSize (n + 1) ≤ getReliableBufferCapacity stream.base) :
    ∃ ub', outputDevice.onFull stream ub = (false, stream, ub') ∧ ub'.iterator < ub'.final ∧
      InOutputSlot stream ub' (n + 1) (stream.offset.toNat + 4) := by
  have hcapacity := hwf.capacity_lt
  have hpos := hwf.base.history_pos
  have hle := hwf.base.history_le
  have hmod := Nat.mod_lt n hpos
  -- the next position is that of the next message
  have hposition : 1 + getReliableBufferHistoryPosition stream.base ub.init =
      UInt16.ofNat (n % stream.base.history.toNat + 1) := by
    rw [getReliableBufferHistoryPosition, ← ReliableStream.stride, h.init, ← UInt16.ofNat_one,
      Serial.ofNat_add_ofNat, Nat.add_comm]
  have hslot : stream.base.slot (UInt16.ofNat (n % stream.base.history.toNat + 1)) =
      stream.base.slot (UInt16.ofNat (n + 1)) := by
    rw [hwf.base.slot_ofNat, hwf.base.slot_ofNat, Nat.mod_add_mod]
  have hbuffer : getReliableBuffer stream.base (UInt16.ofNat (n % stream.base.history.toNat + 1)) =
      getReliableBuffer stream.base (UInt16.ofNat (n + 1)) := by
    rw [ReliableStream.getReliableBuffer_eq, ReliableStream.getReliableBuffer_eq, hslot]
  have hsize : getReliableBufferSize stream.base
      (UInt16.ofNat (n % stream.base.history.toNat + 1)) = stream.slotSize (n + 1) :=
    ReliableStream.getReliableBufferSize_congr hslot
  have hlength : (stream.slotSize (n + 1) - stream.offset.toNat - 4) % 2 ^ 32 =
      stream.slotSize (n + 1) - stream.offset.toNat - 4 := Nat.mod_eq_of_lt (by omega)
  have hcall : outputDevice.onFull stream ub = (false, stream,
      { init := getReliableBuffer stream.base (UInt16.ofNat (n + 1)) + stream.offset.toNat + 4
        iterator := getReliableBuffer stream.base (UInt16.ofNat (n + 1)) + stream.offset.toNat + 4
        final := getReliableBuffer stream.base (UInt16.ofNat (n + 1)) + stream.offset.toNat + 4 +
          (stream.slotSize (n + 1) - stream.offset.toNat - 4)
        offset := ub.offset
        lastDataSize := 0
        endianness := machineEndianness
        error := false
        onFullBuffer := some .onFullOutputBuffer }) := by
    show (if ub.onFullBuffer = some .onFullOutputBuffer then _ else _) = _
    rw [if_pos h.callback, hposition, hbuffer, hsize, ucdrInitBufferOrigin,
      LawfulMicroCdr.init, subheaderSize, hlength]
    rfl
  refine ⟨_, hcall, by dsimp only; omega, rfl, ?_, by dsimp only; omega, by dsimp only; omega, rfl⟩
  dsimp only
  rw [Nat.add_assoc, address_div_stride hwf (n + 1) (by omega)]

omit [LawfulMicroCdr] in
/-- Bytes in the first slot of a message. -/
theorem puts_firstSlot {stream : OutputReliableStream} (hwf : stream.Formed) {ub : UcdrBuffer}
    {n k : Nat} (h : InOutputSlot stream ub n k) (hk : k ≤ stream.slotSize n)
    (hbounded : stream.slotSize n ≤ getReliableBufferCapacity stream.base) {bytes : List UInt8}
    (hlength : bytes.length ≤ stream.slotSize n - k) :
    (∃ ub', Puts outputDevice bytes stream ub (stream.storeSlotBytes n k bytes) ub') ∧
      Fills stream (stream.storeSlotBytes n k bytes) n k 0 ∧
      ∃ rest, (stream.storeSlotBytes n k bytes).base.bytesFrom (UInt16.ofNat n) k
        (stream.slotSize n - k) = bytes ++ rest := by
  have hputs : Puts outputDevice (bytes ++ []) stream ub _ _ :=
    puts_slot h.ok h.iterator (by rw [h.iterator, h.final]; omega) (Puts.nil _ _)
  rw [List.append_nil] at hputs
  refine ⟨⟨_, hputs⟩, fills_storeSlotBytes hwf n (by omega), ?_⟩
  obtain ⟨room, hroom⟩ := Nat.exists_eq_add_of_le hlength
  refine ⟨(stream.storeSlotBytes n k bytes).base.bytesFrom (UInt16.ofNat n) (k + bytes.length) room, ?_⟩
  have hsame := ReliableStream.bytesFrom_storeBytes_same
    (Eq.refl (stream.base.slot (UInt16.ofNat n))) k bytes
  rw [hroom, ReliableStream.bytesFrom, read_append, ← ReliableStream.bytesFrom, Nat.add_assoc,
    ← ReliableStream.bytesFrom]
  exact congrArg (· ++ _) hsame

/-- Bytes that the slots of a message have room for are put there, in order. -/
theorem puts_payloads {stream : OutputReliableStream} (hwf : stream.Formed) {ub : UcdrBuffer}
    {n k count : Nat} (hcount : count < stream.base.history.toNat) (h : InOutputSlot stream ub n k)
    (hk : k ≤ stream.slotSize n) (hbounded : stream.slotSize n ≤ getReliableBufferCapacity stream.base)
    (hslots : ∀ i, 0 < i → i ≤ count → stream.offset.toNat + 4 < stream.slotSize (n + i) ∧
      stream.slotSize (n + i) ≤ getReliableBufferCapacity stream.base)
    {bytes : List UInt8} (hlength : bytes.length ≤ (payloads stream n k count).length) :
    ∃ stream' ub', Puts outputDevice bytes stream ub stream' ub' ∧
      Fills stream stream' n k count ∧ ∃ rest, payloads stream' n k count = bytes ++ rest := by
  have hcapacity := hwf.capacity_eq
  -- by induction on the slots behind the first one
  induction count generalizing stream ub n k bytes with
  | zero =>
    rw [payloads_zero, ReliableStream.bytesFrom_length] at hlength
    obtain ⟨⟨ub', hputs⟩, hfills, hheld⟩ := puts_firstSlot hwf h hk hbounded hlength
    refine ⟨_, ub', hputs, hfills, ?_⟩
    rw [payloads_zero, hfills.size]
    exact hheld
  | succ count ih =>
    rw [payloads_succ, List.length_append, ReliableStream.bytesFrom_length] at hlength
    obtain ⟨hnext, hnextBounded⟩ := hslots 1 Nat.one_pos (Nat.le_add_left 1 count)
    rcases Nat.lt_or_ge (stream.slotSize n - k) bytes.length with hlong | hfits
    · -- the bytes for the first slot, and the stream with them
      obtain ⟨chunk, rest, rfl, hchunk⟩ : ∃ chunk rest, bytes = chunk ++ rest ∧
          chunk.length = stream.slotSize n - k :=
        ⟨_, _, (List.take_append_drop (stream.slotSize n - k) bytes).symm,
          List.length_take_of_le (by omega)⟩
      rw [List.length_append, hchunk] at hlength hlong
      have hrestLength := Nat.le_of_add_le_add_left hlength
      have hfit : k + chunk.length ≤ getReliableBufferCapacity stream.base := by omega
      have hfills := fills_storeSlotBytes hwf n hfit
      have hwf₁ := hfills.shape.formed hwf
      obtain ⟨stream₁, hstream₁⟩ : ∃ stream₁, stream₁ = stream.storeSlotBytes n k chunk := ⟨_, rfl⟩
      rw [← hstream₁] at hfills hwf₁
      have hin : InOutputSlot stream₁
          { ub with iterator := ub.iterator + chunk.length, offset := ub.offset + chunk.length } n
          (stream.slotSize n) := by
        refine ⟨h.ok, ?_, ?_, ?_, h.callback⟩
        · rw [hfills.shape.stride, hfills.shape.history]
          exact h.init
        · rw [hfills.shape.buffer, h.iterator]
          dsimp only
          omega
        · rw [hfills.shape.buffer, hfills.size]
          exact h.final
      obtain ⟨ub₂, hcall, hroom₂, hin₂⟩ := onFull_inOutputSlot hwf₁ hin
        (by rw [hfills.shape.offset, hfills.size]; exact hnext)
        (by rw [hfills.shape.capacity, hfills.size]; exact hnextBounded)
      rw [hfills.shape.offset] at hin₂
      obtain ⟨stream', ub', hputs, hothers, held, hpayloads⟩ := ih hwf₁
        (by rw [hfills.shape.history]; omega) hin₂ (by rw [hfills.size]; exact Nat.le_of_lt hnext)
        (by rw [hfills.shape.capacity, hfills.size]; exact hnextBounded)
        (fun i hi hle => by
          rw [hfills.shape.offset, hfills.size, hfills.shape.capacity,
            show n + 1 + i = n + (i + 1) by omega]
          exact hslots (i + 1) (Nat.succ_pos i) (Nat.succ_le_succ hle))
        (show rest.length ≤ _ by
          rw [payloads_length hfills.size hfills.shape.offset]
          exact hrestLength)
        (by rw [hfills.shape.capacity, hfills.shape.stride]; exact hcapacity)
      refine ⟨stream', ub', ?_, hfills.cons hothers, held, ?_⟩
      · -- the rest is not empty, so the callback is called
        obtain ⟨b, bs, rfl⟩ : ∃ b bs, rest = b :: bs :=
          List.exists_cons_of_length_pos (by omega)
        refine puts_slot h.ok h.iterator (by rw [h.iterator, h.final]; omega) ?_
        rw [← hstream₁]
        refine Puts.chain h.ok ?_ hcall hroom₂ hputs
        rw [h.final]
        dsimp only
        rw [h.iterator]
        omega
      · have hshape := (hfills.cons hothers).shape
        rw [payloads_succ, hshape.offset, hpayloads, (hfills.cons hothers).size,
          List.append_assoc]
        congr 1
        rw [hothers.bytes n k _ (by rw [hfills.shape.capacity]; omega), hstream₁, ← hchunk]
        · exact ReliableStream.bytesFrom_storeBytes_same rfl k chunk
        · intro i hi hslot
          rw [hfills.shape.history] at hslot
          exact absurd hslot (mod_ne_of_window (by omega) (by omega) (by omega))
    · -- the bytes fit in the first slot
      obtain ⟨⟨ub', hputs⟩, hfills, held, hheld⟩ := puts_firstSlot hwf h hk hbounded hfits
      refine ⟨_, ub', hputs, hfills.mono (Nat.zero_le _), held ++ payloads
        (stream.storeSlotBytes n k bytes) (n + 1) (stream.offset.toNat + 4) count, ?_⟩
      rw [payloads_succ, hfills.size, hheld, List.append_assoc]
      rfl

/-- As many bytes as the slots of a message have room for fill them. -/
theorem puts_fragments {stream : OutputReliableStream} (hwf : stream.Formed) {ub : UcdrBuffer}
    {n k count : Nat} (hcount : count < stream.base.history.toNat) (h : InOutputSlot stream ub n k)
    (hk : k ≤ stream.slotSize n) (hbounded : stream.slotSize n ≤ getReliableBufferCapacity stream.base)
    (hslots : ∀ i, 0 < i → i ≤ count → stream.offset.toNat + 4 < stream.slotSize (n + i) ∧
      stream.slotSize (n + i) ≤ getReliableBufferCapacity stream.base)
    {bytes : List UInt8} (hlength : bytes.length = (payloads stream n k count).length) :
    ∃ stream' ub', Puts outputDevice bytes stream ub stream' ub' ∧
      Fills stream stream' n k count ∧ payloads stream' n k count = bytes := by
  obtain ⟨stream', ub', hputs, hfills, rest, hheld⟩ :=
    puts_payloads hwf hcount h hk hbounded hslots (Nat.le_of_eq hlength)
  have hsame := payloads_length hfills.size hfills.shape.offset n k count
  rw [hheld, List.length_append, ← hlength] at hsame
  have hnone : rest = [] := List.length_eq_zero_iff.mp (by omega)
  rw [hnone, List.append_nil] at hheld
  exact ⟨stream', ub', hputs, hfills, hheld⟩

end

/-! ## A message in fragments -/

/-- The sequence number of the `i`-th fragment. -/
def fragmentSeqNum (first : SeqNum) (i : Nat) : SeqNum := seqNumAdd first (UInt16.ofNat i)

/-- What the slot of a sequence number holds behind the header of a fragment. -/
def fragmentPayload (before after : OutputReliableStream) (seqNum : SeqNum) : List UInt8 :=
  after.base.bytesFrom seqNum (headerStart (getReliableBufferSize before.base seqNum) + 4)
    (fragmentLength before after seqNum)

/-- A message of that length is in fragments. Only the last one has the flag for it; they are in
the slot of the last written message, behind its contents, and in free slots, or in free slots
only. -/
structure Fragmented [MicroCdr] (before after : OutputReliableStream) (first : SeqNum)
    (count length : Nat) : Prop where
  start : first = before.lastWritten ∨ first = seqNumAdd before.lastWritten 1 ∧
    getReliableBufferSize before.base first = before.offset.toNat
  slots : 0 < count ∧ count < before.base.history.toNat
  free : ∀ i, 0 < i → i ≤ count →
    getReliableBufferSize before.base (fragmentSeqNum first i) = before.offset.toNat
  fragments : ∀ i < count, FragmentAt before after (fragmentSeqNum first i) 0
  last : FragmentAt before after (fragmentSeqNum first count) flagLastFragment
  lengths : ((List.range (count + 1)).map fun i =>
    fragmentLength before after (fragmentSeqNum first i)).sum = length
  others : ∀ seqNum, (∀ i ≤ count,
      before.base.slot seqNum ≠ before.base.slot (fragmentSeqNum first i)) →
    getReliableBufferSize after.base seqNum = getReliableBufferSize before.base seqNum ∧
      after.base.bytesFrom seqNum 0 (getReliableBufferCapacity before.base) =
        before.base.bytesFrom seqNum 0 (getReliableBufferCapacity before.base)
  lastWritten : after.lastWritten = fragmentSeqNum first count
  lastSent : after.lastSent = before.lastSent
  lastAcknown : after.lastAcknown = before.lastAcknown
  shape : SameShape before after

/-- A message fits neither behind the contents of the last written slot nor in a new one. -/
def NeedsFragments (stream : OutputReliableStream) (length : Nat) : Prop :=
  getReliableBufferCapacity stream.base <
      headerStart (getReliableBufferSize stream.base stream.lastWritten) + length ∧
    getReliableBufferCapacity stream.base < stream.offset.toNat + length

/-- The length of the payloads, where all slots but the last one are full. -/
theorem payloads_length_eq {stream : OutputReliableStream} {n k count : Nat} (hcount : 0 < count)
    (hfull : ∀ i < count, stream.slotSize (n + i) = getReliableBufferCapacity stream.base) :
    (payloads stream n k count).length = getReliableBufferCapacity stream.base - k +
      (getReliableBufferCapacity stream.base - (stream.offset.toNat + 4)) * (count - 1) +
        (stream.slotSize (n + count) - (stream.offset.toNat + 4)) := by
  induction count generalizing n k with
  | zero => exact absurd hcount (Nat.lt_irrefl 0)
  | succ count ih =>
    have hfirst := hfull 0 (Nat.succ_pos count)
    rw [Nat.add_zero] at hfirst
    rw [payloads_succ, List.length_append, ReliableStream.bytesFrom_length, hfirst,
      Nat.add_sub_cancel]
    rcases Nat.eq_zero_or_pos count with rfl | hpos
    · rw [payloads_zero, ReliableStream.bytesFrom_length]
      rfl
    · rw [ih hpos fun i hi => by
        rw [show n + 1 + i = n + (i + 1) by omega]
        exact hfull (i + 1) (Nat.succ_lt_succ hi)]
      obtain ⟨count, rfl⟩ := Nat.exists_eq_succ_of_ne_zero (Nat.ne_of_gt hpos)
      rw [Nat.succ_eq_add_one, Nat.add_sub_cancel, Nat.mul_succ,
        show n + 1 + (count + 1) = n + (count + 1 + 1) by omega]
      omega

section

variable [MicroCdr]

/-- Payload that is written leaves the headers alone. -/
theorem FragmentAt.of_fills {before after stream' : OutputReliableStream} {n k count : Nat}
    {flags : UInt8} (hfills : Fills after stream' n k count) (hshape : SameShape before after)
    {i : Nat} (hi : i ≤ count) (hcount : count < before.base.history.toNat)
    (hstart : headerStart (before.slotSize (n + i)) + 4 = payloadStart after k i)
    (h : FragmentAt before after (UInt16.ofNat (n + i)) flags) :
    FragmentAt before stream' (UInt16.ofNat (n + i)) flags := by
  have hsize : getReliableBufferSize stream'.base (UInt16.ofNat (n + i)) =
      getReliableBufferSize after.base (UInt16.ofNat (n + i)) := hfills.size (n + i)
  have hcapacity := hshape.capacity
  have hroom := h.room
  have hbounded := h.bounded
  have hbehind : before.slotSize (n + i) ≤ headerStart (before.slotSize (n + i)) :=
    Nat.le_add_right _ _
  rw [slotSize] at hstart hbehind
  -- no other fragment is in that slot
  have hbytes (j len : Nat)
      (hlen : j + len ≤ headerStart (getReliableBufferSize before.base (UInt16.ofNat (n + i))) + 4) :
      stream'.base.bytesFrom (UInt16.ofNat (n + i)) j len =
        after.base.bytesFrom (UInt16.ofNat (n + i)) j len := by
    refine hfills.bytes (n + i) j len (by omega) fun i' hi' hslot => ?_
    obtain rfl : i = i' := by
      by_contra hne
      rw [hshape.history] at hslot
      exact mod_ne_of_window (by omega) (by omega) (by omega) hslot
    omega
  refine ⟨?_, hsize ▸ h.room, hsize ▸ h.bounded, ?_⟩
  · rw [hbytes _ _ (Nat.le_refl _), fragmentLength, hsize]
    exact h.header
  · rw [hbytes _ _ (by omega)]
    exact h.kept

omit [MicroCdr] in
/-- Where the payload of a fragment starts, if all slots but the first were free. -/
theorem headerStart_payloadStart {before after : OutputReliableStream} {n count : Nat}
    (haligned : before.offset.toNat % 4 = 0) (hoffset : after.offset = before.offset)
    (hfree : ∀ i, 0 < i → i ≤ count → before.slotSize (n + i) = before.offset.toNat) {i : Nat}
    (hi : i ≤ count) :
    headerStart (before.slotSize (n + i)) + 4 =
      payloadStart after (headerStart (before.slotSize n) + 4) i := by
  rw [payloadStart]
  split
  · next hzero =>
    rw [hzero]
    rfl
  · next hne => rw [hfree i (Nat.pos_of_ne_zero hne) hi, headerStart_aligned haligned, hoffset]

omit [MicroCdr] in
/-- The payloads of the fragments are what their slots hold, and as long. -/
theorem fragmentPayloads_eq {before after : OutputReliableStream} {n count : Nat}
    (haligned : before.offset.toNat % 4 = 0) (hoffset : after.offset = before.offset)
    (hfree : ∀ i, 0 < i → i ≤ count → before.slotSize (n + i) = before.offset.toNat) :
    ((List.range (count + 1)).flatMap fun i =>
        fragmentPayload before after (fragmentSeqNum (UInt16.ofNat n) i)) =
      payloads after n (headerStart (before.slotSize n) + 4) count ∧
    ((List.range (count + 1)).map fun i =>
        fragmentLength before after (fragmentSeqNum (UInt16.ofNat n) i)).sum =
      (payloads after n (headerStart (before.slotSize n) + 4) count).length := by
  have hpayload : ((List.range (count + 1)).flatMap fun i =>
        fragmentPayload before after (fragmentSeqNum (UInt16.ofNat n) i)) =
      payloads after n (headerStart (before.slotSize n) + 4) count := by
    refine List.flatMap_congr fun i hi => ?_
    have hstart := headerStart_payloadStart haligned hoffset hfree
      (Nat.lt_succ_iff.mp (List.mem_range.mp hi))
    rw [slotSize] at hstart
    rw [fragmentSeqNum, seqNumAdd_ofNat, fragmentPayload, fragmentLength, hstart]
    rfl
  refine ⟨hpayload, ?_⟩
  rw [← hpayload, List.length_flatMap]
  simp only [fragmentPayload, ReliableStream.bytesFrom_length]

theorem Fragmented.slotSize_free {before after : OutputReliableStream} {n count length : Nat}
    (h : Fragmented before after (UInt16.ofNat n) count length) (i : Nat) (hpos : 0 < i)
    (hi : i ≤ count) : before.slotSize (n + i) = before.offset.toNat := by
  have hfree := h.free i hpos hi
  rw [fragmentSeqNum, seqNumAdd_ofNat] at hfree
  exact hfree

/-- A message stays in fragments when its payload is written. -/
theorem Fragmented.of_fills {before after stream' : OutputReliableStream} {n count length : Nat}
    (h : Fragmented before after (UInt16.ofNat n) count length) (hwf : before.Formed)
    (hfills : Fills after stream' n (headerStart (before.slotSize n) + 4) count) :
    Fragmented before stream' (UInt16.ofNat n) count length := by
  have hsize (seqNum : SeqNum) : getReliableBufferSize stream'.base seqNum =
      getReliableBufferSize after.base seqNum := by
    have hsame := hfills.size seqNum.toNat
    rw [slotSize, slotSize, UInt16.ofNat_toNat] at hsame
    exact hsame
  have hfragment {i : Nat} {flags : UInt8} (hi : i ≤ count)
      (hat : FragmentAt before after (fragmentSeqNum (UInt16.ofNat n) i) flags) :
      FragmentAt before stream' (fragmentSeqNum (UInt16.ofNat n) i) flags := by
    rw [fragmentSeqNum, seqNumAdd_ofNat] at hat ⊢
    exact hat.of_fills hfills h.shape hi h.slots.2
      (headerStart_payloadStart hwf.offset_aligned h.shape.offset h.slotSize_free hi)
  refine ⟨h.start, h.slots, h.free, fun i hi => hfragment (Nat.le_of_lt hi) (h.fragments i hi),
    hfragment (Nat.le_refl _) h.last, ?_, fun seqNum hother => ?_, ?_, ?_, ?_,
    h.shape.trans hfills.shape⟩
  · rw [← h.lengths]
    refine congrArg List.sum (List.map_congr_left fun i _ => ?_)
    rw [fragmentLength, hsize, fragmentLength]
  · obtain ⟨hsame, hbytes⟩ := h.others seqNum hother
    refine ⟨(hsize seqNum).trans hsame, ?_⟩
    have hkept := hfills.bytes seqNum.toNat 0 (getReliableBufferCapacity before.base)
      (by rw [h.shape.capacity, Nat.zero_add]) fun i hi hslot => ?_
    · rw [UInt16.ofNat_toNat] at hkept
      exact hkept.trans hbytes
    · refine absurd ?_ (hother i hi)
      rw [fragmentSeqNum, seqNumAdd_ofNat, hwf.base.slot_ofNat, ReliableStream.slot,
        ← h.shape.history]
      exact hslot
  · rw [hfills.rest]
    exact h.lastWritten
  · rw [hfills.rest]
    exact h.lastSent
  · rw [hfills.rest]
    exact h.lastAcknown

variable [LawfulMicroCdr]

/-- A message that is cut into fragments is in fragments, and its payload has room there. -/
theorem fragmented_of_writes {H : Nat} {stream stream' : OutputReliableStream} {win : OutputWindow H}
    (h : Tracks stream win) {ub : UcdrBuffer} {first count length : Nat}
    (hstart : first = win.written ∨
      first = win.written + 1 ∧ stream.slotSize first = stream.offset.toNat)
    (hwin : first + count ≤ win.acked + H) (hrw : Rewrites stream stream' first (first + count + 1))
    (hwrites : WritesFragments stream stream' ub first (first + count) length)
    (hlastWritten : stream'.lastWritten = UInt16.ofNat (first + count)) :
    Fragmented stream stream' (UInt16.ofNat first) count length ∧
      InOutputSlot stream' ub first (headerStart (stream.slotSize first) + 4) ∧
      (payloads stream' first (headerStart (stream.slotSize first) + 4) count).length = length ∧
      ∀ i, 0 < i → i ≤ count → stream'.offset.toNat + 4 < stream'.slotSize (first + i) := by
  have hacked := win.acked_le_sent
  have hsent := win.sent_lt_written
  have hpos : 0 < count := by have := hwrites.lt; omega
  have hcount : count < stream.base.history.toNat := by
    rw [h.history]
    omega
  -- the slots behind the first one were empty before
  have hfree (i : Nat) (hpos : 0 < i) (hi : i ≤ count) :
      stream.slotSize (first + i) = stream.offset.toNat := hwrites.empty _ (by omega) (by omega)
  have hseqNum (i : Nat) : fragmentSeqNum (UInt16.ofNat first) i = UInt16.ofNat (first + i) :=
    seqNumAdd_ofNat first i
  have hlength : (payloads stream' first (headerStart (stream.slotSize first) + 4) count).length =
      length := by
    have hblock := h.formed.blockSize_eq
    rw [payloads_length_eq hpos fun i hi => by
      rw [(hwrites.full (first + i) (by omega) (by omega)).1, hrw.shape.capacity]]
    rw [hrw.shape.capacity, hrw.shape.offset, hwrites.length_eq, Nat.add_sub_cancel_left,
      show getReliableBufferCapacity stream.base - (stream.offset.toNat + 4) =
        availableBlockSize stream by omega]
  refine ⟨⟨?_, ⟨hpos, hcount⟩, ?_, ?_, ?_, ?_, ?_, ?_, hrw.lastSent, hrw.lastAcknown, hrw.shape⟩, ?_,
    hlength, fun i hi hle => ?_⟩
  · rw [h.lastWritten, seqNumAdd_one]
    rcases hstart with rfl | ⟨rfl, hempty⟩
    · exact .inl rfl
    · exact .inr ⟨rfl, hempty⟩
  · intro i hpos hi
    rw [hseqNum]
    exact hfree i hpos hi
  · intro i hi
    rw [hseqNum]
    exact (hwrites.full (first + i) (by omega) (by omega)).2
  · rw [hseqNum]
    exact hwrites.last
  · rw [(fragmentPayloads_eq h.formed.offset_aligned hrw.shape.offset hfree).2, hlength]
  · intro seqNum hother
    have huntouched := hrw.untouched seqNum.toNat fun j hj₁ hj₂ hslot => by
      refine hother (j - first) (by omega) ?_
      rw [hseqNum, h.formed.base.slot_ofNat, Nat.add_sub_cancel' hj₁, ← hslot]
      rfl
    rw [OutputReliableStream.Untouched, slotSize, slotSize, slotBytes, slotBytes, UInt16.ofNat_toNat,
      hrw.shape.capacity] at huntouched
    exact huntouched
  · rw [hseqNum]
    exact hlastWritten
  · -- the buffer stands behind the header in the first slot
    have hfull := (hwrites.full first (Nat.le_refl _) hwrites.lt).1
    have hroom := (hwrites.full first (Nat.le_refl _) hwrites.lt).2.room
    rw [← slotSize, ← slotSize, hfull] at hroom
    rw [hwrites.buffer, ucdrInitBuffer, LawfulMicroCdr.init]
    refine ⟨rfl, ?_, ?_, ?_, rfl⟩
    · show (getReliableBuffer stream.base (UInt16.ofNat first) +
        headerStart (stream.slotSize first) + 4) / stream'.base.stride = _
      rw [hrw.shape.stride, hrw.shape.history, Nat.add_assoc, address_div_stride h.formed _ hroom]
    · show getReliableBuffer stream.base (UInt16.ofNat first) +
        headerStart (stream.slotSize first) + 4 + 0 = _
      rw [hrw.shape.buffer, Nat.add_zero, Nat.add_assoc]
    · show getReliableBuffer stream.base (UInt16.ofNat first) +
        headerStart (stream.slotSize first) + 4 + (getReliableBufferCapacity stream.base -
          headerStart (stream.slotSize first) - 4) = _
      rw [hrw.shape.buffer, hfull]
      omega
  · have hroom : headerStart (stream.slotSize (first + i)) + 4 < stream'.slotSize (first + i) := by
      rcases Nat.lt_or_eq_of_le hle with hlt | rfl
      · exact (hwrites.full (first + i) (by omega) (by omega)).2.room
      · exact hwrites.last.room
    rw [hfree i hi hle, headerStart_aligned h.formed.offset_aligned] at hroom
    rw [hrw.shape.offset]
    exact hroom

end

/-- A call that fails leaves the stream as it is. One that needs fragments and succeeds cuts the
message into them; what is written to the buffer then is what they hold, in order. -/
theorem fragmentation [MicroCdr] [LawfulMicroCdr] {buffer : Memory} {size : Nat} {history : UInt16}
    {headerOffset : UInt8} (hhistory : ∃ k, history.toNat = 2 ^ k)
    (haligned : headerOffset.toNat % 4 = 0)
    (hroom : headerOffset.toNat + 4 < size / history.toNat - 4)
    (hcapacity : size / history.toNat - 4 < 65536) {st : OutputState}
    (hrun : OutputReachable buffer size history headerOffset st) (length : Nat) (ub : UcdrBuffer) :
    let r := prepareReliableBufferToWrite st.stream length ub
    (r.1 = false → r.2.1 = st.stream) ∧
      (r.1 = true → NeedsFragments st.stream length → ∃ first count,
        Fragmented st.stream r.2.1 first count length ∧
          ∀ bytes : List UInt8, bytes.length = length → ∃ stream' ub',
            Puts outputDevice bytes r.2.1 r.2.2 stream' ub' ∧
              Fragmented st.stream stream' first count length ∧
              ((List.range (count + 1)).flatMap fun i =>
                fragmentPayload st.stream stream' (fragmentSeqNum first i)) = bytes) := by
  obtain ⟨win, hinv⟩ := outputReachable_inv hhistory haligned hroom hcapacity hrun
  have h := hinv.tracks
  intro r
  rcases prepareReliableBufferToWrite_cases h length ub with hrefused | ⟨n, hgrants⟩ |
    ⟨first, written, hgrants⟩
  · refine ⟨fun _ => congrArg (fun r => r.2.1) hrefused, fun hok _ => ?_⟩
    exact absurd ((congrArg Prod.fst hrefused).symm.trans hok) Bool.false_ne_true
  · -- a message in one slot needs no fragments
    have hok : r.1 = true := congrArg Prod.fst hgrants.result
    refine ⟨fun hrefused => absurd (hok.symm.trans hrefused) (by decide), fun _ hneeds => ?_⟩
    obtain ⟨hcurrent, hnew⟩ := hneeds
    have hfits := hgrants.fits
    rw [h.lastWritten, ← slotSize] at hcurrent
    rcases hgrants.slot with rfl | ⟨-, -, hempty⟩
    · omega
    · rw [hempty, headerStart_aligned h.formed.offset_aligned] at hfits
      omega
  · refine ⟨fun hrefused => absurd (hgrants.ok.symm.trans hrefused) (by decide), fun _ _ => ?_⟩
    have hrep := hgrants.tracks
    have hrw := hgrants.rewrites
    have hwrites := hgrants.writes
    obtain ⟨count, rfl⟩ := Nat.exists_eq_add_of_le (Nat.le_of_lt hwrites.lt)
    obtain ⟨hfragmented, hin, hpayloads, hslots⟩ :=
      fragmented_of_writes h hgrants.start hgrants.inWindow hrw hwrites hrep.lastWritten
    refine ⟨UInt16.ofNat first, count, hfragmented, fun bytes hbytes => ?_⟩
    have hfull := hwrites.full first (Nat.le_refl _) hwrites.lt
    obtain ⟨stream', ub', hputs, hfills, hheld⟩ := puts_fragments hrep.formed
      (by rw [hrw.shape.history]; exact hfragmented.slots.2) hin (Nat.le_of_lt hfull.2.room)
      (hrep.bounded first) (fun i hi hcount => ⟨hslots i hi hcount, hrep.bounded _⟩)
      (hbytes.trans hpayloads.symm)
    refine ⟨stream', ub', hputs, hfragmented.of_fills h.formed hfills, ?_⟩
    rw [(fragmentPayloads_eq h.formed.offset_aligned
      (hfills.shape.offset.trans hrw.shape.offset) hfragmented.slotSize_free).1]
    exact hheld

/-- A message of 24 bytes goes into the two slots of a new stream. -/
theorem fragmentation_twoSlots : ∃ first count,
    @Fragmented referenceMicroCdr twoSlots.stream (twoSlots.afterWrite 24).stream first count 24 := by
  obtain ⟨-, hsucceeds⟩ := @fragmentation referenceMicroCdr referenceMicroCdr_lawful (fun _ => 0) 64 2 8
    ⟨1, rfl⟩ rfl (by decide) (by decide) twoSlots .refl 24 (@ucdrInitBuffer referenceMicroCdr 0 0)
  obtain ⟨first, count, hfragmented, -⟩ := hsucceeds (by decide +kernel) ⟨by decide +kernel, by decide +kernel⟩
  exact ⟨first, count, hfragmented⟩

end XrceClient
