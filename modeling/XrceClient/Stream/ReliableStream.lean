import XrceClient.Base.ByteMemory
import XrceClient.Stream.SeqNum

/-!
# The slots of a reliable stream (`common_reliable_stream_internal.h`)

A reliable stream keeps its messages in one buffer, cut into `history` slots of
equal size. A slot starts with the size of its message, in a `length_t`, and goes
on with the message's bytes. A sequence number owns the slot at its remainder
by the history.

- `getReliableBuffer` … `setReliableBufferSize`: the accessors, on addresses
  relative to the start of the buffer.
- `getReliableBufferSize_set`: a size that is set is read back, in the same slot
  and in no other.
- `storeBytes`: a copy into the bytes of one slot; it leaves every size and the
  bytes of the other slots alone.

Addresses and `size_t` values are natural numbers: no sum of them wraps, as the
buffer fits in memory.
-/

namespace XrceClient

open ByteMemory

/-- `uxrReliableStream` (reliable_stream.h). The `buffer` is the memory from the
address that the source's pointer holds. -/
structure ReliableStream where
  buffer : Memory
  size : Nat
  history : UInt16

/-- `INTERNAL_RELIABLE_BUFFER_OFFSET`: `sizeof(length_t)`. -/
def internalReliableBufferOffset : Nat := 4

/-- `uxr_get_reliable_buffer` (common_reliable_stream_internal.h:33–40). -/
def getReliableBuffer (stream : ReliableStream) (seqNum : UInt16) : Nat :=
  (seqNum % stream.history).toNat * (stream.size / stream.history.toNat) +
    internalReliableBufferOffset

/-- `uxr_get_reliable_buffer_capacity` (common_reliable_stream_internal.h:42–46). -/
def getReliableBufferCapacity (stream : ReliableStream) : Nat :=
  stream.size / stream.history.toNat - internalReliableBufferOffset

/-- `uxr_get_reliable_buffer_history_position`
(common_reliable_stream_internal.h:48–53). -/
def getReliableBufferHistoryPosition (stream : ReliableStream) (currentPosition : Nat) : UInt16 :=
  UInt16.ofNat (currentPosition / (stream.size / stream.history.toNat))

/-- `uxr_get_reliable_buffer_size` (common_reliable_stream_internal.h:55–65). -/
def getReliableBufferSize (stream : ReliableStream) (seqNum : UInt16) : Nat :=
  ofLeBytes (read stream.buffer
    (getReliableBuffer stream (seqNum % stream.history) - internalReliableBufferOffset)
    internalReliableBufferOffset)

/-- `uxr_set_reliable_buffer_size` (common_reliable_stream_internal.h:67–77). -/
def setReliableBufferSize (stream : ReliableStream) (seqNum : UInt16) (length : Nat) :
    ReliableStream :=
  { stream with
    buffer := write stream.buffer
      (getReliableBuffer stream (seqNum % stream.history) - internalReliableBufferOffset)
      (leBytes internalReliableBufferOffset length) }

namespace ReliableStream

variable (stream : ReliableStream)

/-- The position in the ring of the slot that a sequence number owns. -/
def slot (seqNum : UInt16) : Nat := seqNum.toNat % stream.history.toNat

/-- The number of bytes from one slot to the next. -/
def stride : Nat := stream.size / stream.history.toNat

/-- The `n` bytes of a slot that start `k` bytes into its message. -/
def bytesFrom (seqNum : UInt16) (k n : Nat) : List UInt8 :=
  read stream.buffer (getReliableBuffer stream seqNum + k) n

/-- `memcpy` to the bytes of a slot that start `k` bytes into its message. -/
def storeBytes (seqNum : UInt16) (k : Nat) (bs : List UInt8) : ReliableStream :=
  { stream with buffer := write stream.buffer (getReliableBuffer stream seqNum + k) bs }

/-! ## Where the slots lie -/

theorem getReliableBuffer_eq (q : UInt16) :
    getReliableBuffer stream q = stream.slot q * stream.stride + 4 := by
  simp [getReliableBuffer, slot, stride, internalReliableBufferOffset, UInt16.toNat_mod]

theorem slot_mod (q : UInt16) : stream.slot (q % stream.history) = stream.slot q := by
  simp [slot, UInt16.toNat_mod]

theorem getReliableBufferSize_eq (q : UInt16) :
    getReliableBufferSize stream q =
      ofLeBytes (read stream.buffer (stream.slot q * stream.stride) 4) := by
  rw [getReliableBufferSize, getReliableBuffer_eq, slot_mod]
  rfl

theorem setReliableBufferSize_buffer (q : UInt16) (v : Nat) :
    (setReliableBufferSize stream q v).buffer =
      write stream.buffer (stream.slot q * stream.stride) (leBytes 4 v) := by
  rw [setReliableBufferSize, getReliableBuffer_eq, slot_mod]
  rfl

@[simp] theorem setReliableBufferSize_size (q : UInt16) (v : Nat) :
    (setReliableBufferSize stream q v).size = stream.size := rfl

@[simp] theorem setReliableBufferSize_history (q : UInt16) (v : Nat) :
    (setReliableBufferSize stream q v).history = stream.history := rfl

@[simp] theorem storeBytes_size (q : UInt16) (k : Nat) (bs : List UInt8) :
    (stream.storeBytes q k bs).size = stream.size := rfl

@[simp] theorem storeBytes_history (q : UInt16) (k : Nat) (bs : List UInt8) :
    (stream.storeBytes q k bs).history = stream.history := rfl

@[simp] theorem storeBytes_stride (q : UInt16) (k : Nat) (bs : List UInt8) :
    (stream.storeBytes q k bs).stride = stream.stride := rfl

/-- Two different multiples of the stride are at least a stride apart. -/
theorem mul_stride_apart {i j : Nat} (d : Nat) (h : i ≠ j) :
    i * d + d ≤ j * d ∨ j * d + d ≤ i * d := by
  rcases Nat.lt_or_gt_of_ne h with h | h
  · left
    have := Nat.mul_le_mul_right d h
    rwa [Nat.succ_mul] at this
  · right
    have := Nat.mul_le_mul_right d h
    rwa [Nat.succ_mul] at this

/-! ## Sizes -/

section

variable {stream}

/-- Sizes are stored in 32 bits. -/
theorem getReliableBufferSize_lt (q : UInt16) :
    getReliableBufferSize stream q < 2 ^ 32 := by
  rw [getReliableBufferSize_eq]
  refine lt_of_lt_of_le (ofLeBytes_lt _) ?_
  simp

theorem getReliableBufferSize_congr {q q' : UInt16} (h : stream.slot q = stream.slot q') :
    getReliableBufferSize stream q = getReliableBufferSize stream q' := by
  rw [getReliableBufferSize_eq, getReliableBufferSize_eq, h]

theorem getReliableBufferSize_set_same {p q : UInt16} (h : stream.slot q = stream.slot p)
    (v : Nat) : getReliableBufferSize (setReliableBufferSize stream p v) q = v % 2 ^ 32 := by
  rw [getReliableBufferSize_eq, setReliableBufferSize_buffer]
  show ofLeBytes (read _ (stream.slot q * stream.stride) 4) = _
  have hread := read_write_self stream.buffer (stream.slot p * stream.stride) (leBytes 4 v)
  rw [leBytes_length] at hread
  rw [h, hread, ofLeBytes_leBytes, show 256 ^ 4 = 2 ^ 32 from rfl]

theorem getReliableBufferSize_set_other (hstride : 4 ≤ stream.stride) {p q : UInt16}
    (h : stream.slot q ≠ stream.slot p) (v : Nat) :
    getReliableBufferSize (setReliableBufferSize stream p v) q =
      getReliableBufferSize stream q := by
  rw [getReliableBufferSize_eq, setReliableBufferSize_buffer, getReliableBufferSize_eq]
  show ofLeBytes (read _ (stream.slot q * stream.stride) 4) = _
  rw [read_write_disjoint]
  rw [leBytes_length]
  have := mul_stride_apart stream.stride h
  omega

/-- A size that is set is read back, in the same slot and in no other. -/
theorem getReliableBufferSize_set (hstride : 4 ≤ stream.stride) (p q : UInt16) (v : Nat) :
    getReliableBufferSize (setReliableBufferSize stream p v) q =
      if stream.slot q = stream.slot p then v % 2 ^ 32 else getReliableBufferSize stream q := by
  split
  · next h => exact getReliableBufferSize_set_same h v
  · next h => exact getReliableBufferSize_set_other hstride h v

theorem getReliableBufferSize_storeBytes {p q : UInt16} {k : Nat} {bs : List UInt8}
    (hfit : 4 + k + bs.length ≤ stream.stride) :
    getReliableBufferSize (stream.storeBytes p k bs) q = getReliableBufferSize stream q := by
  rw [getReliableBufferSize_eq, getReliableBufferSize_eq, storeBytes, getReliableBuffer_eq]
  show ofLeBytes (read _ (stream.slot q * stream.stride) 4) = _
  rw [read_write_disjoint]
  by_cases h : stream.slot q = stream.slot p
  · rw [h]
    omega
  · have := mul_stride_apart stream.stride h
    omega

/-! ## Bytes -/

theorem bytesFrom_congr {q q' : UInt16} (h : stream.slot q = stream.slot q') (k n : Nat) :
    stream.bytesFrom q k n = stream.bytesFrom q' k n := by
  rw [bytesFrom, bytesFrom, getReliableBuffer_eq, getReliableBuffer_eq, h]

@[simp] theorem bytesFrom_length (q : UInt16) (k n : Nat) :
    (stream.bytesFrom q k n).length = n := read_length _ _ _

theorem bytesFrom_set {p q : UInt16} {k n : Nat} (hfit : 4 + k + n ≤ stream.stride) (v : Nat) :
    (setReliableBufferSize stream p v).bytesFrom q k n = stream.bytesFrom q k n := by
  rw [bytesFrom, bytesFrom, setReliableBufferSize_buffer, getReliableBuffer_eq,
    getReliableBuffer_eq]
  show read _ (stream.slot q * stream.stride + 4 + k) n = _
  rw [read_write_disjoint]
  rw [leBytes_length]
  by_cases h : stream.slot q = stream.slot p
  · rw [h]
    omega
  · have := mul_stride_apart stream.stride h
    omega

theorem bytesFrom_storeBytes_same {p q : UInt16} (h : stream.slot q = stream.slot p) (k : Nat)
    (bs : List UInt8) : (stream.storeBytes p k bs).bytesFrom q k bs.length = bs := by
  rw [bytesFrom, storeBytes, getReliableBuffer_eq, getReliableBuffer_eq]
  show read _ (stream.slot q * stream.stride + 4 + k) bs.length = _
  rw [h, read_write_self]

theorem bytesFrom_storeBytes_before (q : UInt16) {k k' n : Nat} {bs : List UInt8}
    (h : k' + n ≤ k) : (stream.storeBytes q k bs).bytesFrom q k' n = stream.bytesFrom q k' n := by
  rw [bytesFrom, bytesFrom, storeBytes]
  show read (write stream.buffer (getReliableBuffer stream q + k) bs)
    (getReliableBuffer stream q + k') n = _
  exact read_write_disjoint _ (by omega)

theorem bytesFrom_storeBytes_other {p q : UInt16} (h : stream.slot q ≠ stream.slot p)
    {k k' n : Nat} {bs : List UInt8} (hbs : 4 + k + bs.length ≤ stream.stride)
    (hn : 4 + k' + n ≤ stream.stride) :
    (stream.storeBytes p k bs).bytesFrom q k' n = stream.bytesFrom q k' n := by
  rw [bytesFrom, bytesFrom, storeBytes, getReliableBuffer_eq, getReliableBuffer_eq,
    getReliableBuffer_eq]
  show read _ (stream.slot q * stream.stride + 4 + k') n = _
  rw [read_write_disjoint]
  have := mul_stride_apart stream.stride h
  omega

end

/-! ## Power-of-two histories -/

/-- The streams that the client's documentation allows: the history is a power
of two, and a slot holds more than the size of its message. -/
structure WellFormed : Prop where
  history : ∃ k, k ≤ 15 ∧ stream.history.toNat = 2 ^ k
  stride : 4 < stream.stride

namespace WellFormed

variable {stream}

theorem history_dvd (h : stream.WellFormed) : stream.history.toNat ∣ 65536 := by
  obtain ⟨k, hk, hk'⟩ := h.history
  rw [hk']
  exact pow_dvd_pow 2 (show k ≤ 16 by omega)

theorem history_pos (h : stream.WellFormed) : 0 < stream.history.toNat := by
  obtain ⟨k, _, hk'⟩ := h.history
  rw [hk']
  exact Nat.two_pow_pos k

theorem history_le (h : stream.WellFormed) : stream.history.toNat ≤ 32768 := by
  obtain ⟨k, hk, hk'⟩ := h.history
  rw [hk']
  exact Nat.pow_le_pow_right (by omega) hk

/-- The slot of a wire number is the slot of the count that it stands for. -/
theorem slot_ofNat (h : stream.WellFormed) (n : Nat) :
    stream.slot (UInt16.ofNat n) = n % stream.history.toNat :=
  Serial.mod_eq_of_dvd h.history_dvd n

/-- A slot is reached again after a whole turn of the ring. -/
theorem slot_turn (h : stream.WellFormed) (n : Nat) :
    stream.slot (UInt16.ofNat (n + stream.history.toNat)) = stream.slot (UInt16.ofNat n) := by
  rw [h.slot_ofNat, h.slot_ofNat, Nat.add_mod_right]

end WellFormed

end ReliableStream

end XrceClient
