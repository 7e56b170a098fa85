import XrceClient.Stream.Reception

/-!
# What a reception touches (`input_reliable_stream.c`)

A message that is stored is copied with the length that the transport gives it, whatever the
capacity of its slot.

- `TouchesOneSlot`: nothing changes outside the slot of a number, and no size exceeds the capacity.
- `touchesOneSlot_store`, `not_touchesOneSlot_store`: copying a message does so exactly if it fits.
- `reception_frame_iff`: a reception does so exactly if the message fits or is not copied.
-/

namespace XrceClient

open ByteMemory InputReliableStream

namespace InputReliableStream

/-- Where the slot of a number begins. -/
def slotStart (stream : InputReliableStream) (seqNum : SeqNum) : Nat :=
  stream.base.slot seqNum * stream.base.stride

/-- Nothing changes outside the slot of the number, so that the other slots keep their sizes and
bytes; and what lay within the capacity of its slot does so still. -/
structure TouchesOneSlot (stream stream' : InputReliableStream) (seqNum : SeqNum) : Prop where
  outside : ∀ a, ¬ (stream.slotStart seqNum ≤ a ∧ a < stream.slotStart seqNum + stream.base.stride) →
    stream'.base.buffer a = stream.base.buffer a
  sizes : ∀ q, stream.base.slot q ≠ stream.base.slot seqNum →
    getReliableBufferSize stream'.base q = getReliableBufferSize stream.base q
  bytes : ∀ q, stream.base.slot q ≠ stream.base.slot seqNum →
    ∀ k n, k + n ≤ getReliableBufferCapacity stream.base →
      stream'.base.bytesFrom q k n = stream.base.bytesFrom q k n
  within : ∀ q, getReliableBufferSize stream.base q ≤ getReliableBufferCapacity stream.base →
    getReliableBufferSize stream'.base q ≤ getReliableBufferCapacity stream.base

variable {stream stream' : InputReliableStream} {seqNum : SeqNum} {msg : Datagram}

theorem TouchesOneSlot.of_base_eq (h : stream'.base = stream.base) :
    TouchesOneSlot stream stream' seqNum where
  outside _ _ := by rw [h]
  sizes _ _ := by rw [h]
  bytes _ _ _ _ _ := by rw [h]
  within _ hq := by rwa [h]

theorem announce_base (stream : InputReliableStream) (seqNum : SeqNum) :
    (stream.announce seqNum).base = stream.base := by
  rw [announce]
  split <;> rfl

/-- The bytes of the buffer after a copy. -/
theorem store_buffer (stream : InputReliableStream) (seqNum : SeqNum) (msg : Datagram) :
    (stream.store seqNum msg).base.buffer =
      write (write stream.base.buffer (stream.slotStart seqNum + 4) msg.bytes)
        (stream.slotStart seqNum) (leBytes 4 msg.length) := by
  rw [store, ReliableStream.setReliableBufferSize_buffer, ReliableStream.storeBytes,
    ReliableStream.getReliableBuffer_eq]
  rfl

theorem store_size (hstride : 4 ≤ stream.base.stride) (q : SeqNum)
    (hfit : 4 + msg.length ≤ stream.base.stride) :
    getReliableBufferSize (stream.store seqNum msg).base q =
      if stream.base.slot q = stream.base.slot seqNum then msg.length % 2 ^ 32
      else getReliableBufferSize stream.base q := by
  have hlength : msg.bytes.length = msg.length := read_length _ _ _
  have hset := @ReliableStream.getReliableBufferSize_set
    (stream.base.storeBytes seqNum 0 msg.bytes) hstride seqNum q msg.length
  rw [ReliableStream.getReliableBufferSize_storeBytes (by rw [hlength]; omega)] at hset
  exact hset

/-- An empty message leaves an empty slot as it is. -/
theorem store_nil (hempty : getReliableBufferSize stream.base seqNum = 0) (hnil : msg.length = 0) :
    (stream.store seqNum msg).base.buffer = stream.base.buffer := by
  have hread : ofLeBytes (read stream.base.buffer (stream.slotStart seqNum) 4) = 0 := by
    rw [← hempty, ReliableStream.getReliableBufferSize_eq]
    rfl
  have hbytes : leBytes 4 0 = read stream.base.buffer (stream.slotStart seqNum) 4 := by
    have h := leBytes_ofLeBytes (read stream.base.buffer (stream.slotStart seqNum) 4)
    rwa [hread, read_length] at h
  rw [store_buffer, Datagram.bytes, hnil, read_zero, write_nil, hbytes, write_read_self]

/-- A message that fits is copied to its slot and nowhere else. -/
theorem touchesOneSlot_store (hempty : getReliableBufferSize stream.base seqNum = 0)
    (hfit : msg.length ≤ getReliableBufferCapacity stream.base) :
    TouchesOneSlot stream (stream.store seqNum msg) seqNum := by
  have hlength : msg.bytes.length = msg.length := read_length _ _ _
  have hcapacity : getReliableBufferCapacity stream.base = stream.base.stride - 4 := rfl
  -- slots without room for a size hold an empty message only
  by_cases hstride : 4 ≤ stream.base.stride
  swap
  · have hbuffer := store_nil hempty (show msg.length = 0 by omega)
    exact .of_base_eq (congrArg (fun buffer => { stream.base with buffer }) hbuffer)
  constructor
  · intro a ha
    rw [store_buffer, write_outside _ (by rw [leBytes_length]; omega),
      write_outside _ (by rw [hlength]; omega)]
  · intro q hq
    rw [store_size hstride q (by omega), if_neg hq]
  · intro q hq k n hkn
    show (setReliableBufferSize (stream.base.storeBytes seqNum 0 msg.bytes) seqNum
      msg.length).bytesFrom q k n = _
    rw [ReliableStream.bytesFrom_set (by
      show 4 + k + n ≤ stream.base.stride
      omega)]
    exact ReliableStream.bytesFrom_storeBytes_other hq (by rw [hlength]; omega) (by omega)
  · intro q hq
    rw [store_size hstride q (by omega)]
    split
    · exact Nat.le_trans (Nat.mod_le _ _) hfit
    · exact hq

/-- A message that does not fit gets a size beyond the capacity of its slot. -/
theorem not_touchesOneSlot_store (hlength : msg.length < 2 ^ 32)
    (hempty : getReliableBufferSize stream.base seqNum = 0)
    (hlong : getReliableBufferCapacity stream.base < msg.length) :
    ¬ TouchesOneSlot stream (stream.store seqNum msg) seqNum := by
  intro h
  have hsize : getReliableBufferSize (stream.store seqNum msg).base seqNum = msg.length := by
    show getReliableBufferSize (setReliableBufferSize
      (stream.base.storeBytes seqNum 0 msg.bytes) seqNum msg.length) seqNum = _
    rw [ReliableStream.getReliableBufferSize_set_same rfl, Nat.mod_eq_of_lt hlength]
  have hwithin := h.within seqNum (by rw [hempty]; exact Nat.zero_le _)
  rw [hsize] at hwithin
  exact Nat.lt_irrefl _ (Nat.lt_of_lt_of_le hlong hwithin)

theorem TouchesOneSlot.announce_iff :
    TouchesOneSlot stream (stream'.announce seqNum) seqNum ↔
      TouchesOneSlot stream stream' seqNum := by
  have hbase := announce_base stream' seqNum
  constructor
  · rintro ⟨houtside, hsizes, hbytes, hwithin⟩
    rw [hbase] at houtside hsizes hbytes hwithin
    exact ⟨houtside, hsizes, hbytes, hwithin⟩
  · rintro ⟨houtside, hsizes, hbytes, hwithin⟩
    rw [← hbase] at houtside hsizes hbytes hwithin
    exact ⟨houtside, hsizes, hbytes, hwithin⟩

end InputReliableStream

/-- A message that is not stored leaves the buffer as it was. -/
theorem receiveReliableMessage_base {stream : InputReliableStream} {seqNum : SeqNum}
    {msg : Datagram} {messageStored : Bool} (h : ¬ stream.Stores seqNum msg) {fuel : Nat}
    {r : Reception}
    (hr : receiveReliableMessage fuel stream seqNum msg messageStored = some r) :
    r.stream.base = stream.base := by
  unfold receiveReliableMessage at hr
  split at hr
  · next haccepts =>
    dsimp only at hr
    split at hr
    · cases hr
      exact announce_base _ _
    · next hplain =>
      rw [if_neg fun hempty => h ⟨haccepts, hplain, hempty⟩] at hr
      cases hr
      exact announce_base _ _
  · cases hr
    exact announce_base _ _

/-- **The frame of a reception.** Receiving a message touches its slot only, and keeps every size
within the capacity, exactly if the message fits in a slot or is not copied to one. -/
theorem reception_frame_iff {stream : InputReliableStream} {seqNum : SeqNum} {msg : Datagram}
    (hlength : msg.length < 2 ^ 32) {messageStored : Bool} {fuel : Nat} {r : Reception}
    (hr : receiveReliableMessage fuel stream seqNum msg messageStored = some r) :
    TouchesOneSlot stream r.stream seqNum ↔
      (stream.Stores seqNum msg → msg.length ≤ getReliableBufferCapacity stream.base) := by
  by_cases hstores : stream.Stores seqNum msg
  · rw [receiveReliableMessage_stored_stream hstores hr, TouchesOneSlot.announce_iff]
    constructor
    · intro h _
      by_contra hlong
      exact not_touchesOneSlot_store hlength hstores.2.2 (by omega) h
    · intro h
      exact touchesOneSlot_store hstores.2.2 (h hstores)
  · constructor
    · intro _ h
      exact absurd h hstores
    · intro _
      exact .of_base_eq (receiveReliableMessage_base hstores hr)

/-- A fragment of eight bytes fits in a slot with twelve. -/
theorem reception_frame_twoInputSlots :
    TouchesOneSlot twoInputSlots oneFragmentStored 0 ↔
      (twoInputSlots.Stores 0 intermediateFragment → 8 ≤ 12) :=
  reception_frame_iff (by decide) receive_intermediateFragment

/-- An intermediate fragment that does not fit in a slot of `twoInputSlots`. -/
def longFragment : Datagram := { intermediateFragment with length := 20 }

/-- A fragment of twenty bytes is copied to a slot with twelve, over the size of the next slot. -/
theorem longFragment_leaves_slot :
    receiveReliableMessage 2 twoInputSlots 0 longFragment false =
        some ⟨false, (twoInputSlots.store 0 longFragment).announce 0, true⟩ ∧
      ¬ TouchesOneSlot twoInputSlots ((twoInputSlots.store 0 longFragment).announce 0) 0 := by
  refine ⟨?_, fun h => ?_⟩
  · rw [receiveReliableMessage_of_stores (by decide +kernel), if_pos (by decide +kernel),
      show checkLastFragment 2 (twoInputSlots.store 0 longFragment) = some (false, 1) by
        decide +kernel]
    rfl
  · exact absurd (h.within 0 (by decide +kernel)) (by decide +kernel)

end XrceClient
