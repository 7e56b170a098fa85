import XrceClient.Session.ContinuousWriting
import XrceClient.Stream.DeviceWrites

/-!
# The blocks of continuous fragmentation

- `behind_openBlockAt`, `openBlockAt_holds`: a block that is opened, in the window and in its slot.
- `openNextBlock_full`: in a slot without room for a header no block is opened.
- `InBlock`: the user is in a block. `InBlock.within` says what bytes do that fit in the rest of the
  block, and `InBlock.turn` what the first one does that does not.
- `prepareOutputStreamFragmented_inBlock`: the first block.
-/

namespace XrceClient

open ByteMemory OutputReliableStream

section

variable [MicroCdr]

/-! ## A block is opened -/

section

variable [LawfulMicroCdr] {H : Nat} {stream : OutputReliableStream} {win : OutputWindow H}

/-- The header goes to the start of a slot without contents. -/
theorem bufferFragmentHeader_eq (hwf : stream.Formed) {n : Nat}
    (hempty : stream.slotSize n = stream.offset.toNat) (fragmentSize : UInt16) (flags : UInt8) :
    bufferFragmentHeader stream (UInt16.ofNat n) fragmentSize flags =
      (stream.storeSlotBytes n stream.offset.toNat
          (submessageHeaderBytes SubmessageId.fragment.value fragmentSize flags),
        { init := getReliableBuffer stream.base (UInt16.ofNat n)
          iterator := getReliableBuffer stream.base (UInt16.ofNat n) + stream.offset.toNat + 4
          final := getReliableBuffer stream.base (UInt16.ofNat n) +
            getReliableBufferCapacity stream.base
          offset := stream.offset.toNat + 4
          lastDataSize := 2
          endianness := machineEndianness
          error := false
          onFullBuffer := none }) := by
  have hroom := hwf.offset_lt
  have haligned := hwf.offset_aligned
  rw [slotSize] at hempty
  obtain ⟨tempUb, htempUb⟩ : ∃ tempUb, tempUb = ucdrInitBufferOriginOffset
      (getReliableBuffer stream.base (UInt16.ofNat n)) (getReliableBufferCapacity stream.base) 0
      stream.offset.toNat := ⟨_, rfl⟩
  rw [bufferFragmentHeader, hempty, ← htempUb]
  rw [LawfulMicroCdr.init, Nat.zero_add] at htempUb
  have hpad : tempUb.padding 4 = 0 := by
    rw [htempUb, UcdrBuffer.padding, if_pos (show 0 < 4 by decide)]
    dsimp only
    omega
  have hput := bufferSubmessageHeader_put stream.base.buffer tempUb SubmessageId.fragment.value
    fragmentSize flags (by rw [htempUb]) (by rw [hpad, htempUb]; dsimp only; omega)
    (by rw [hpad, htempUb]; exact haligned)
  rw [hpad] at hput
  have hmemory := congrArg Prod.fst hput
  have hbehind := congrArg Prod.snd hput
  dsimp only at hmemory hbehind ⊢
  rw [hmemory, hbehind, htempUb]
  rfl

/-- The stream and the buffer after a block was opened. -/
theorem openBlockAt_eq (hwf : stream.Formed) {n : Nat}
    (hempty : stream.slotSize n = stream.offset.toNat) (fragmentSize : UInt16) (flags : UInt8)
    (size : Nat) :
    openBlockAt stream (UInt16.ofNat n) fragmentSize flags size =
      ({ (stream.storeSlotBytes n stream.offset.toNat (submessageHeaderBytes
            SubmessageId.fragment.value fragmentSize flags)).setSlotSize n size with
          lastWritten := seqNumAdd (UInt16.ofNat n) 1 },
        (bufferFragmentHeader stream (UInt16.ofNat n) fragmentSize flags).2) := by
  rw [openBlockAt, bufferFragmentHeader_eq hwf hempty]
  rfl

/-- An opened block is in the window, and the next message begins behind it. -/
theorem behind_openBlockAt (h : Tracks stream win) {n : Nat} (hwritten : win.written ≤ n)
    (hwin : n ≤ win.acked + H) (hempty : stream.slotSize n = stream.offset.toNat)
    (hskipped : ∀ m, win.written ≤ m → m < n → stream.offset.toNat < stream.slotSize m)
    (fragmentSize : UInt16) (flags : UInt8) {size : Nat} (hsize : stream.offset.toNat < size)
    (hfit : size ≤ getReliableBufferCapacity stream.base) :
    ∃ win' : OutputWindow H,
      BehindBlock (openBlockAt stream (UInt16.ofNat n) fragmentSize flags size).1 win' n ∧
        win'.written = n + 1 := by
  have hbound := h.formed.capacity_lt
  have hroom := h.formed.offset_lt
  rw [openBlockAt_eq h.formed hempty]
  dsimp only
  obtain ⟨header, hheader⟩ : ∃ header, header =
      submessageHeaderBytes SubmessageId.fragment.value fragmentSize flags := ⟨_, rfl⟩
  have hlength : header.length = 4 := by rw [hheader, submessageHeaderBytes_length]
  rw [← hheader]
  have hstored : stream.offset.toNat + header.length ≤ getReliableBufferCapacity stream.base := by
    omega
  have hwf₁ := (@sameShape_storeSlotBytes stream n stream.offset.toNat header).formed h.formed
  have hslot := slotSize_setSlotSize_self hwf₁ n (show size < 2 ^ 32 by omega)
  have hrewrites := ((Rewrites.storeSlotBytes h.formed n hstored).trans
    (Rewrites.setSlotSize hwf₁ n size)).withLastWritten (UInt16.ofNat n)
  -- the slot is the last written one, and then the next one is
  have htracks := tracks_rewrite h hrewrites rfl hwritten (Nat.le_refl n) hwin hskipped
    (fun m h₁ h₂ => absurd h₁ (by omega)) (Nat.le_of_lt (hsize.trans_eq hslot.symm))
    (fun m h₁ h₂ => by
      obtain rfl : m = n := by omega
      exact hslot.trans_le hfit)
  have hclosed := tracks_closeSlot htracks hwin (hsize.trans_eq hslot.symm)
  refine ⟨_, ⟨hclosed, .inl rfl, hwin, fun _ => hsize.trans_eq hslot.symm, fun hfree => ?_⟩, rfl⟩
  exact htracks.empty (n + 1) (Nat.lt_succ_self n) hfree

/-- What the slot of an opened block holds. -/
theorem openBlockAt_holds (hwf : stream.Formed) {n : Nat}
    (hempty : stream.slotSize n = stream.offset.toNat) (fragmentSize : UInt16) (flags : UInt8)
    {size : Nat} (hfit : size ≤ getReliableBufferCapacity stream.base) :
    let stream' := (openBlockAt stream (UInt16.ofNat n) fragmentSize flags size).1
    SameShape stream stream' ∧ stream'.slotSize n = size ∧
      stream'.base.bytesFrom (UInt16.ofNat n) stream.offset.toNat 4 =
        submessageHeaderBytes SubmessageId.fragment.value fragmentSize flags := by
  have hbound := hwf.capacity_lt
  have hroom := hwf.offset_lt
  have hcapacity := hwf.capacity_eq
  rw [openBlockAt_eq hwf hempty]
  dsimp only
  obtain ⟨header, hheader⟩ : ∃ header, header =
      submessageHeaderBytes SubmessageId.fragment.value fragmentSize flags := ⟨_, rfl⟩
  have hlength : header.length = 4 := by rw [hheader, submessageHeaderBytes_length]
  rw [← hheader]
  have hwf₁ := (@sameShape_storeSlotBytes stream n stream.offset.toNat header).formed hwf
  refine ⟨⟨rfl, rfl, rfl⟩, slotSize_setSlotSize_self hwf₁ n (by omega), ?_⟩
  have hset := @ReliableStream.bytesFrom_set
    (stream.storeSlotBytes n stream.offset.toNat header).base (UInt16.ofNat n) (UInt16.ofNat n)
    stream.offset.toNat 4 (show 4 + stream.offset.toNat + 4 ≤ stream.base.stride by omega) size
  refine hset.trans ?_
  rw [← hlength]
  exact ReliableStream.bytesFrom_storeBytes_same rfl _ header

end

/-! ## A full slot is no block -/

section

variable [StickyMicroCdr]

/-- A header does not go into a buffer that is at its end. -/
theorem bufferSubmessageHeader_full (m : Memory) {ub : UcdrBuffer} (hfull : ub.iterator = ub.final)
    (submessageId : UInt8) (length : UInt16) (flags : UInt8) :
    (bufferSubmessageHeader Device.plain m ub submessageId length flags).2.2.iterator =
      (bufferSubmessageHeader Device.plain m ub submessageId length flags).2.2.final := by
  have halign := LawfulMicroCdr.alignTo ub 4 (by simp) (Nat.le_of_eq hfull)
  have hstart : (ucdrAlignTo ub 4).iterator = (ucdrAlignTo ub 4).final := by
    rw [halign]
    dsimp only
    omega
  obtain ⟨ub₀, hub₀⟩ : ∃ ub₀, ub₀ = { ucdrAlignTo ub 4 with endianness := machineEndianness } :=
    ⟨_, rfl⟩
  have hstart₀ : ub₀.iterator = ub₀.final := by
    rw [hub₀]
    exact hstart
  rw [bufferSubmessageHeader, ← hub₀, serializeSubmessageHeader]
  dsimp only
  -- three scalars, each of which goes forward, and not past the end
  have h₁ := StickyMicroCdr.serialize_forward m ub₀.endianness submessageId.toNat
    (show 1 ∈ [1, 2, 4, 8] by simp) (Nat.le_of_eq hstart₀)
  have h₂ := StickyMicroCdr.serialize_forward
    (ucdrSerialize Device.plain m ub₀ ub₀.endianness 1 submessageId.toNat).2.1
    (ucdrSerialize Device.plain m ub₀ ub₀.endianness 1 submessageId.toNat).2.2.endianness
    (flags ||| ub₀.endianness.value).toNat (show 1 ∈ [1, 2, 4, 8] by simp) h₁.bound
  have hall := (h₁.trans h₂).trans (StickyMicroCdr.serialize_forward _ Endianness.littleEndianness
    length.toNat (show 2 ∈ [1, 2, 4, 8] by simp) h₂.bound)
  exact Nat.le_antisymm hall.bound ((hall.final.trans hstart₀.symm).trans_le hall.le)

/-- In a slot without room for a header no block is opened. -/
theorem openNextBlock_full (stream : OutputReliableStream) (dataSize : Nat)
    (hfull : getReliableBufferSize stream.base stream.lastWritten =
      getReliableBufferCapacity stream.base) :
    ¬ (openNextBlock stream dataSize).2.iterator < (openNextBlock stream dataSize).2.final := by
  have htemp (fragmentSize : UInt16) (flags : UInt8) (size : Nat) :
      (openBlockAt stream stream.lastWritten fragmentSize flags size).2.iterator =
        (openBlockAt stream stream.lastWritten fragmentSize flags size).2.final := by
    rw [openBlockAt, bufferFragmentHeader]
    refine bufferSubmessageHeader_full stream.base.buffer ?_ SubmessageId.fragment.value fragmentSize
      flags
    rw [LawfulMicroCdr.init, hfull]
  rw [openNextBlock]
  dsimp only
  rw [ucdrInitBuffer, LawfulMicroCdr.init]
  dsimp only
  split
  · rw [htemp]
    omega
  · rw [htemp]
    omega

end

/-! ## The user is in a block -/

/-- What stands in the header of a block, and the size of its slot. -/
structure BlockHeader where
  fragmentSize : UInt16
  flags : UInt8
  size : Nat

/-- The user has put a payload into the open block, which is that of the message `n`. -/
structure InBlock {ω : Type} {H : Nat} (st : ContinuousState ω) (ub : UcdrBuffer)
    (win : OutputWindow H) (n : Nat) (header : BlockHeader) (payload : List UInt8) : Prop where
  behind : BehindBlock st.stream win n
  written : win.written = n + 1
  size : st.stream.slotSize n = header.size
  front : st.stream.base.bytesFrom (UInt16.ofNat n) st.stream.offset.toNat 4 =
    submessageHeaderBytes SubmessageId.fragment.value header.fragmentSize header.flags
  contents : st.stream.base.bytesFrom (UInt16.ofNat n) (st.stream.offset.toNat + 4) payload.length =
    payload
  ok : ub.error = false
  iterator : ub.iterator = getReliableBuffer st.stream.base (UInt16.ofNat n) +
    (st.stream.offset.toNat + 4 + payload.length)
  final : ub.final = getReliableBuffer st.stream.base (UInt16.ofNat n) +
    getReliableBufferCapacity st.stream.base
  callback : ub.onFullBuffer = some .onFullOutputBufferFragmented

section

variable {ω : Type} {flush : FlushCallback ω} {H : Nat} {st st' : ContinuousState ω}
  {ub ub' : UcdrBuffer} {win : OutputWindow H} {n : Nat} {header : BlockHeader}
  {payload : List UInt8}

/-- Bytes are stored behind the payload. -/
theorem InBlock.store (h : InBlock st ub win n header payload) {bytes : List UInt8} {ub₁ : UcdrBuffer}
    (hfit : st.stream.offset.toNat + 4 + payload.length + bytes.length ≤
      getReliableBufferCapacity st.stream.base)
    (hok : ub₁.error = false) (hiterator : ub₁.iterator = ub.iterator + bytes.length)
    (hfinal : ub₁.final = ub.final)
    (hcallback : ub₁.onFullBuffer = some .onFullOutputBufferFragmented) :
    InBlock (st.setStream (st.stream.storeSlotBytes n
      (st.stream.offset.toNat + 4 + payload.length) bytes)) ub₁ win n header (payload ++ bytes) := by
  obtain ⟨k, hk⟩ : ∃ k, k = st.stream.offset.toNat + 4 + payload.length := ⟨_, rfl⟩
  rw [← hk] at hfit ⊢
  have hsize (m : Nat) := slotSize_storeSlotBytes h.behind.tracks.formed n m hfit
  constructor
  · rw [ContinuousState.setStream_stream]
    exact
      { tracks := tracks_storeSlotBytes h.behind.tracks n hfit
        written := h.behind.written
        inWindow := h.behind.inWindow
        filled := fun hunacked => (h.behind.filled hunacked).trans_eq (hsize n).symm
        empty := fun hfree => (hsize (n + 1)).trans (h.behind.empty hfree) }
  · exact h.written
  · rw [ContinuousState.setStream_stream, hsize]
    exact h.size
  · rw [ContinuousState.setStream_stream]
    refine Eq.trans ?_ h.front
    exact ReliableStream.bytesFrom_storeBytes_before (UInt16.ofNat n)
      (show st.stream.offset.toNat + 4 ≤ k by omega)
  · rw [ContinuousState.setStream_stream, List.length_append]
    have hfront : (st.stream.storeSlotBytes n k bytes).base.bytesFrom (UInt16.ofNat n)
        (st.stream.offset.toNat + 4) payload.length = payload :=
      (ReliableStream.bytesFrom_storeBytes_before (UInt16.ofNat n) (Nat.le_of_eq hk.symm)).trans
        h.contents
    have hback : (st.stream.storeSlotBytes n k bytes).base.bytesFrom (UInt16.ofNat n) k
        bytes.length = bytes := ReliableStream.bytesFrom_storeBytes_same rfl k bytes
    have hsplit := read_append (st.stream.storeSlotBytes n k bytes).base.buffer
      (getReliableBuffer (st.stream.storeSlotBytes n k bytes).base (UInt16.ofNat n) +
        (st.stream.offset.toNat + 4)) payload.length bytes.length
    rw [Nat.add_assoc _ _ payload.length, ← hk] at hsplit
    refine Eq.trans hsplit ?_
    exact congrArg₂ (· ++ ·) hfront hback
  · exact hok
  · rw [ContinuousState.setStream_stream, hiterator, h.iterator, List.length_append]
    show _ = getReliableBuffer st.stream.base (UInt16.ofNat n) +
      (st.stream.offset.toNat + 4 + (payload.length + bytes.length))
    omega
  · rw [ContinuousState.setStream_stream, hfinal]
    exact h.final
  · exact hcallback

/-- A byte is put into the block. -/
theorem InBlock.byte (h : InBlock st ub win n header payload) (b : UInt8)
    (hroom : st.stream.offset.toNat + 4 + payload.length < getReliableBufferCapacity st.stream.base) :
    InBlock ((continuousDevice flush).store st ub.iterator b) ub.next win n header
      (payload ++ [b]) := by
  have hstore : (continuousDevice flush).store st ub.iterator b =
      st.setStream (st.stream.storeSlotBytes n
        (st.stream.offset.toNat + 4 + payload.length) [b]) := by
    rw [h.iterator]
    rfl
  rw [hstore]
  refine h.store ?_ h.ok rfl rfl h.callback
  rw [List.length_singleton]
  omega

/-- Bytes that fit in the rest of the block are put there. -/
theorem InBlock.within (h : InBlock st ub win n header payload) {bytes : List UInt8}
    (hfit : st.stream.offset.toNat + 4 + payload.length + bytes.length ≤
      getReliableBufferCapacity st.stream.base)
    (hputs : Puts (continuousDevice flush) bytes st ub st' ub') :
    InBlock st' ub' win n header (payload ++ bytes) ∧ st'.blocks = st.blocks ∧
      st'.args = st.args ∧ SameShape st.stream st'.stream := by
  induction bytes generalizing st ub payload with
  | nil =>
    cases hputs
    rw [List.append_nil]
    exact ⟨h, rfl, rfl, SameShape.refl _⟩
  | cons b bytes ih =>
    rw [List.length_cons] at hfit
    cases hputs with
    | byte hok hlt hrest =>
      have hbyte : InBlock ((continuousDevice flush).store st ub.iterator b) ub.next win n header
          (payload ++ [b]) := h.byte b (by omega)
      have hshape : SameShape st.stream
          ((continuousDevice flush).store st ub.iterator b).stream := by
        show SameShape st.stream (st.setStream _).stream
        rw [ContinuousState.setStream_stream]
        exact ⟨rfl, rfl, rfl⟩
      obtain ⟨hall, hblocks, hargs, hshape'⟩ := ih hbyte (by
        rw [hshape.offset, hshape.capacity, List.length_append, List.length_singleton]
        omega) hrest
      rw [List.append_assoc] at hall
      exact ⟨hall, hblocks, hargs, hshape.trans hshape'⟩
    | chain hok hfull hcall hroom hrest =>
      rw [h.iterator, h.final] at hfull
      omega

/-- Bytes that fit in the rest of the block can be put there. -/
theorem InBlock.can_put (flush : FlushCallback ω) (h : InBlock st ub win n header payload)
    {bytes : List UInt8}
    (hfit : st.stream.offset.toNat + 4 + payload.length + bytes.length ≤
      getReliableBufferCapacity st.stream.base) :
    ∃ st' ub', Puts (continuousDevice flush) bytes st ub st' ub' := by
  induction bytes generalizing st ub payload with
  | nil => exact ⟨st, ub, .nil st ub⟩
  | cons b bytes ih =>
    rw [List.length_cons] at hfit
    have hbyte : InBlock ((continuousDevice flush).store st ub.iterator b) ub.next win n header
        (payload ++ [b]) := h.byte b (by omega)
    have hshape : SameShape st.stream ((continuousDevice flush).store st ub.iterator b).stream := by
      show SameShape st.stream (st.setStream _).stream
      rw [ContinuousState.setStream_stream]
      exact ⟨rfl, rfl, rfl⟩
    obtain ⟨st', ub', hputs⟩ := ih hbyte (by
      rw [hshape.offset, hshape.capacity, List.length_append, List.length_singleton]
      omega)
    exact ⟨st', ub', .byte h.ok (by rw [h.iterator, h.final]; omega) hputs⟩

/-! ## The next block -/

/-- When the callback says that it has made room, it has flushed streams of the session, and has
written to none. -/
def FlushesStreams {ω : Type} (flush : FlushCallback ω) : Prop :=
  ∀ session world index, (flush session world).1 = true →
    Flushes (session.streams.outputReliable index)
      ((flush session world).2.1.streams.outputReliable index)

omit [MicroCdr] in
theorem makeRoom_flushes (hflush : FlushesStreams flush) {index : UInt8} {session : Session}
    {world : ω} (hroom : (makeRoom flush index session world).1 = true) :
    Flushes (session.streams.outputReliable index)
        ((makeRoom flush index session world).2.1.streams.outputReliable index) ∧
      getAvailableFreeSlots
        ((makeRoom flush index session world).2.1.streams.outputReliable index) ≠ 0 := by
  unfold makeRoom at hroom ⊢
  split
  · next hnone =>
    rw [if_pos hnone] at hroom
    dsimp only at hroom ⊢
    rw [Bool.and_eq_true] at hroom
    exact ⟨hflush session world index hroom.1, (of_decide_eq_true hroom.2).symm⟩
  · next hsome => exact ⟨.refl, fun hzero => hsome hzero.symm⟩

/-- The header of the block for the bytes that are left. -/
def nextHeader (stream : OutputReliableStream) (dataSize : Nat) : BlockHeader :=
  if dataSize + 8 ≤ getReliableBufferCapacity stream.base then
    { fragmentSize := UInt16.ofNat dataSize, flags := flagLastFragment, size := dataSize + 8 }
  else
    { fragmentSize := UInt16.ofNat (availableBlockSize stream)
      flags := 0
      size := getReliableBufferCapacity stream.base }

theorem openNextBlock_eq [LawfulMicroCdr] {stream : OutputReliableStream} (hwf : stream.Formed)
    {n : Nat} (hwritten : stream.lastWritten = UInt16.ofNat n)
    (hempty : stream.slotSize n = stream.offset.toNat) (dataSize : Nat) :
    openNextBlock stream dataSize =
      ((openBlockAt stream (UInt16.ofNat n) (nextHeader stream dataSize).fragmentSize
          (nextHeader stream dataSize).flags (nextHeader stream dataSize).size).1,
        { init := getReliableBuffer stream.base (UInt16.ofNat n) + stream.offset.toNat + 4
          iterator := getReliableBuffer stream.base (UInt16.ofNat n) + stream.offset.toNat + 4
          final := getReliableBuffer stream.base (UInt16.ofNat n) +
            getReliableBufferCapacity stream.base
          offset := 0
          lastDataSize := 0
          endianness := machineEndianness
          error := false
          onFullBuffer := none }) := by
  have hroom := hwf.offset_lt
  have hend : getReliableBuffer stream.base (UInt16.ofNat n) + stream.offset.toNat + 4 +
      (getReliableBuffer stream.base (UInt16.ofNat n) + getReliableBufferCapacity stream.base -
        (getReliableBuffer stream.base (UInt16.ofNat n) + stream.offset.toNat + 4)) =
      getReliableBuffer stream.base (UInt16.ofNat n) + getReliableBufferCapacity stream.base := by
    omega
  rw [openNextBlock, nextHeader, subheaderSize, writeDataPayloadSize, hwritten]
  dsimp only
  split
  · rw [openBlockAt_eq hwf hempty, bufferFragmentHeader_eq hwf hempty]
    dsimp only
    rw [ucdrInitBuffer, LawfulMicroCdr.init, hend]
  · rw [openBlockAt_eq hwf hempty, bufferFragmentHeader_eq hwf hempty]
    dsimp only
    rw [ucdrInitBuffer, LawfulMicroCdr.init, hend]

omit [MicroCdr] in
theorem nextHeader_size {stream : OutputReliableStream} (hwf : stream.Formed)
    (hoffset : stream.offset.toNat = 4 ∨ stream.offset.toNat = 8) {dataSize : Nat}
    (hdata : 0 < dataSize) :
    stream.offset.toNat < (nextHeader stream dataSize).size ∧
      (nextHeader stream dataSize).size ≤ getReliableBufferCapacity stream.base := by
  have hroom := hwf.offset_lt
  rw [nextHeader]
  split
  · dsimp only
    omega
  · dsimp only
    omega

/-- What the callback for a full block does when it does not fail. -/
theorem onFullOutputBufferFragmented_spec (hflush : FlushesStreams flush)
    {st₁ : ContinuousState ω} {ub₁ : UcdrBuffer}
    (hcall : onFullOutputBufferFragmented flush st ub = (false, st₁, ub₁)) :
    ∃ stream, Flushes st.stream stream ∧ getAvailableFreeSlots stream ≠ 0 ∧
      st₁.args.dataSize = st.args.dataSize - availableBlockSize stream ∧
      st₁.stream = (openNextBlock stream st₁.args.dataSize).1 ∧
      ub₁ = (openNextBlock stream st₁.args.dataSize).2.setOnFullBufferCallback
        (some .onFullOutputBufferFragmented) ∧
      st₁.blocks = st.blocks ++ [openBlock st.stream] := by
  have hflushes (havailable : (makeRoom flush st.args.streamId.index st.session st.world).1 = true) :=
    makeRoom_flushes hflush havailable
  rw [onFullOutputBufferFragmented] at hcall
  generalize makeRoom flush st.args.streamId.index st.session st.world = room at hcall hflushes
  obtain ⟨available, session, world⟩ := room
  cases available with
  | false => cases hcall
  | true =>
    obtain ⟨hstream, hfree⟩ := hflushes rfl
    obtain ⟨-, hresult⟩ := Prod.mk.inj hcall
    obtain ⟨rfl, rfl⟩ := Prod.mk.inj hresult
    exact ⟨_, hstream, hfree, rfl, StreamStorage.setOutputReliable_self _ _ _, rfl, rfl⟩

variable [StickyMicroCdr]

/-- The user goes on behind a full block. -/
theorem InBlock.next (hflush : FlushesStreams flush) (h : InBlock st ub win n header payload)
    (hoffset : st.stream.offset.toNat = 4 ∨ st.stream.offset.toNat = 8)
    (hfull : payload.length = availableBlockSize st.stream) {b : UInt8} {bytes : List UInt8}
    (hleft : st.args.dataSize = payload.length + (b :: bytes).length)
    (hputs : Puts (continuousDevice flush) (b :: bytes) st ub st' ub') :
    ∃ st₁ ub₁, st₁.blocks = st.blocks ++ [openBlock st.stream] ∧
      Puts (continuousDevice flush) (b :: bytes) st₁ ub₁ st' ub' ∧
        (header.size = getReliableBufferCapacity st.stream.base →
          SameShape st.stream st₁.stream ∧ st₁.args.dataSize = (b :: bytes).length ∧
            ∃ win₁ : OutputWindow H,
              InBlock st₁ ub₁ win₁ (n + 1) (nextHeader st.stream (b :: bytes).length) []) := by
  have hblock := h.behind.tracks.formed.blockSize_eq
  cases hputs with
  | byte hok hlt hrest =>
    rw [h.iterator, h.final] at hlt
    omega
  | @chain _ _ _ st₁ _ _ ub₁ _ hok hend hcall hroom hrest =>
    have hcalled : onFullOutputBufferFragmented flush st ub = (false, st₁, ub₁) :=
      (if_pos h.callback).symm.trans hcall
    obtain ⟨stream, hflushes, hfree, hsize₁, hstream, hub, hblocks⟩ :=
      onFullOutputBufferFragmented_spec hflush hcalled
    refine ⟨st₁, ub₁, hblocks, hrest, fun hsize => ?_⟩
    obtain ⟨win₂, hbehind, hshape, hacked, huntouched⟩ := h.behind.flush hflushes
    have hwf := hbehind.tracks.formed
    have hsent₂ := win₂.acked_le_sent
    have hsent₂' := win₂.sent_lt_written
    rw [hshape.blockSize, hleft, ← hfull, Nat.add_sub_cancel_left] at hsize₁
    rw [hsize₁] at hstream hub
    have hheader : nextHeader stream (b :: bytes).length = nextHeader st.stream (b :: bytes).length := by
      rw [nextHeader, nextHeader, hshape.capacity, hshape.blockSize]
    rcases hbehind.written with hwritten | hwritten
    · -- the block goes to the next slot, which is free
      have hfirst := @le_firstOpenable H stream win₂
      rw [getAvailableFreeSlots_eq hbehind.tracks] at hfree
      have hwin : n + 1 ≤ win₂.acked + H := by omega
      have hempty := hbehind.empty hwin
      have hlast := hbehind.tracks.lastWritten
      rw [hwritten] at hlast
      obtain ⟨hpos, hfit⟩ := nextHeader_size hwf (by rw [hshape.offset]; exact hoffset)
        (show 0 < (b :: bytes).length by rw [List.length_cons]; omega)
      rw [openNextBlock_eq hwf hlast hempty] at hstream hub
      dsimp only at hstream
      obtain ⟨win₁, hopened, hnext⟩ := behind_openBlockAt hbehind.tracks
        (Nat.le_of_eq hwritten) hwin hempty (fun m h₁ h₂ => absurd h₁ (by omega))
        (nextHeader stream (b :: bytes).length).fragmentSize
        (nextHeader stream (b :: bytes).length).flags hpos hfit
      obtain ⟨hsame, hslot, hfront⟩ := openBlockAt_holds hwf hempty
        (nextHeader stream (b :: bytes).length).fragmentSize
        (nextHeader stream (b :: bytes).length).flags hfit
      rw [← hstream] at hopened hsame hslot hfront
      refine ⟨hshape.trans hsame, hsize₁, win₁, ?_⟩
      rw [← hheader]
      refine ⟨hopened, hnext, hslot, ?_, ?_, by rw [hub]; rfl, ?_, ?_, by rw [hub]; rfl⟩
      · rw [hsame.offset]
        exact hfront
      · exact read_zero _ _
      · rw [hub, hsame.buffer, hsame.offset]
        exact Nat.add_assoc _ _ 4
      · rw [hub, hsame.buffer, hsame.capacity]
        rfl
    · -- the stream has taken the block back, and no block is opened in its slot
      obtain ⟨huntouched, -⟩ := huntouched n (by omega) h.behind.inWindow
      have hcapacity : getReliableBufferSize stream.base stream.lastWritten =
          getReliableBufferCapacity stream.base := by
        rw [hbehind.tracks.lastWritten, hwritten, hshape.capacity, ← hsize, ← h.size]
        exact huntouched
      rw [hub] at hroom
      exact absurd hroom (openNextBlock_full stream (b :: bytes).length hcapacity)

omit [StickyMicroCdr] in
/-- The blocks are kept on the record. -/
theorem puts_blocks {bytes : List UInt8} (hflush : FlushesStreams flush)
    (hputs : Puts (continuousDevice flush) bytes st ub st' ub') :
    ∃ more, st'.blocks = st.blocks ++ more := by
  induction hputs with
  | nil s ub => exact ⟨[], (List.append_nil _).symm⟩
  | byte hok hlt hrest ih => exact ih
  | @chain b bs s s₁ s' ub ub₁ ub' hok hfull hcall hroom hrest ih =>
    obtain ⟨more, hmore⟩ := ih
    have hcalled : onFullOutputBufferFragmented flush s ub = (false, s₁, ub₁) := by
      by_cases hcallback : ub.onFullBuffer = some .onFullOutputBufferFragmented
      · exact (if_pos hcallback).symm.trans hcall
      · exact absurd ((if_neg hcallback).symm.trans hcall) (by simp)
    obtain ⟨-, -, -, -, -, -, hblocks⟩ := onFullOutputBufferFragmented_spec hflush hcalled
    rw [hblocks, List.append_assoc] at hmore
    exact ⟨_, hmore⟩

/-- The user fills the block and goes on behind it. -/
theorem InBlock.turn (hflush : FlushesStreams flush) (h : InBlock st ub win n header payload)
    (hoffset : st.stream.offset.toNat = 4 ∨ st.stream.offset.toNat = 8)
    (hpayload : payload.length ≤ availableBlockSize st.stream) {data : List UInt8}
    (hlong : availableBlockSize st.stream < payload.length + data.length)
    (hleft : st.args.dataSize = payload.length + data.length)
    (hputs : Puts (continuousDevice flush) data st ub st' ub') :
    ∃ (chunk rest : List UInt8) (st₁ : ContinuousState ω) (ub₁ : UcdrBuffer)
        (st₂ : ContinuousState ω) (ub₂ : UcdrBuffer), data = chunk ++ rest ∧ 0 < rest.length ∧
      (payload ++ chunk).length = availableBlockSize st.stream ∧
      InBlock st₁ ub₁ win n header (payload ++ chunk) ∧ SameShape st.stream st₁.stream ∧
      st₂.blocks = st.blocks ++ [openBlock st₁.stream] ∧
      Puts (continuousDevice flush) rest st₂ ub₂ st' ub' ∧
      (header.size = getReliableBufferCapacity st.stream.base →
        SameShape st.stream st₂.stream ∧ st₂.args.dataSize = rest.length ∧
          ∃ win₂ : OutputWindow H,
            InBlock st₂ ub₂ win₂ (n + 1) (nextHeader st.stream rest.length) []) := by
  have hblock := h.behind.tracks.formed.blockSize_eq
  obtain ⟨chunk, rest, rfl, hchunk⟩ : ∃ chunk rest, data = chunk ++ rest ∧
      chunk.length = availableBlockSize st.stream - payload.length :=
    ⟨_, _, (List.take_append_drop (availableBlockSize st.stream - payload.length) data).symm,
      List.length_take_of_le (by omega)⟩
  rw [List.length_append] at hlong hleft
  obtain ⟨st₁, ub₁, hfront, hback⟩ := hputs.split
  obtain ⟨hin, hblocks, hargs, hshape⟩ := h.within (by omega) hfront
  obtain ⟨b, bytes, rfl⟩ : ∃ b bytes, rest = b :: bytes :=
    List.exists_cons_of_length_pos (by omega)
  have hlength : (payload ++ chunk).length = availableBlockSize st.stream := by
    rw [List.length_append]
    omega
  obtain ⟨st₂, ub₂, hblocks₂, hputs₂, hnext⟩ := hin.next hflush (by rw [hshape.offset]; exact hoffset)
    (by rw [hshape.blockSize]; exact hlength) (by rw [hargs, hleft, hlength]; omega) hback
  refine ⟨chunk, b :: bytes, st₁, ub₁, st₂, ub₂, rfl, Nat.succ_pos _, hlength, hin, hshape, ?_,
    hputs₂, fun hsize => ?_⟩
  · rw [hblocks₂, hblocks]
  · obtain ⟨hshape₂, hdata, win₂, hin₂⟩ := hnext (by rw [hshape.capacity]; exact hsize)
    refine ⟨hshape.trans hshape₂, hdata, win₂, ?_⟩
    rw [nextHeader, hshape.capacity, hshape.blockSize] at hin₂
    exact hin₂

/-! ## The first block -/

/-- The header and the base of the WRITE_DATA are written one behind the other. -/
theorem bufferWriteData_eq (m : Memory) {ub : UcdrBuffer} (dataSize : Nat)
    (base : BaseObjectRequest) (hok : ub.error = false) (hoffset : ub.offset = 0)
    (hroom : ub.iterator + (4 + base.requestId.length + base.objectId.length) ≤ ub.final) :
    bufferWriteData m ub dataSize base =
      (write m ub.iterator (submessageHeaderBytes SubmessageId.writeData.value
          (writeDataLength dataSize) formatData ++ base.requestId ++ base.objectId),
        ucdrInitBuffer (ub.iterator + (4 + base.requestId.length + base.objectId.length))
          (ub.final - (ub.iterator + (4 + base.requestId.length + base.objectId.length)))) := by
  have hpad : ub.padding 4 = 0 := by
    rw [UcdrBuffer.padding, hoffset]
    split <;> rfl
  have hput := bufferSubmessageHeader_put m ub SubmessageId.writeData.value
    (writeDataLength dataSize) formatData hok (by omega) (by rw [hoffset, hpad])
  rw [hpad] at hput
  have hmemory := congrArg Prod.fst hput
  have hbehind := congrArg Prod.snd hput
  dsimp only [Nat.add_zero] at hmemory hbehind
  obtain ⟨ub₁, hub₁⟩ : ∃ ub₁, ub₁ = { ub with
      iterator := ub.iterator + 4
      offset := ub.offset + 4
      lastDataSize := 2
      endianness := machineEndianness } := ⟨_, rfl⟩
  have hok₁ : ub₁.error = false := by rw [hub₁]; exact hok
  have hiterator₁ : ub₁.iterator = ub.iterator + 4 := by rw [hub₁]
  have hfinal₁ : ub₁.final = ub.final := by rw [hub₁]
  have hrequest (m : Memory) := LawfulMicroCdr.serializeArray
    (puts_plain base.requestId m ub₁ hok₁ (by omega))
  obtain ⟨ub₂, hub₂⟩ : ∃ ub₂, ub₂ = { ub₁ with
      iterator := ub₁.iterator + base.requestId.length
      offset := ub₁.offset + base.requestId.length
      lastDataSize := 1 } := ⟨_, rfl⟩
  have hok₂ : ub₂.error = false := by rw [hub₂]; exact hok₁
  have hiterator₂ : ub₂.iterator = ub₁.iterator + base.requestId.length := by rw [hub₂]
  have hfinal₂ : ub₂.final = ub.final := by rw [hub₂]; exact hfinal₁
  have hobject (m : Memory) := LawfulMicroCdr.serializeArray
    (puts_plain base.objectId m ub₂ hok₂ (by omega))
  rw [← hub₁] at hbehind
  rw [bufferWriteData]
  simp only [hmemory, hbehind, serializeBaseObjectRequest, hrequest, ← hub₂, hobject]
  rw [hiterator₂, hiterator₁, hfinal₂, write_append, write_append, List.length_append,
    submessageHeaderBytes_length, Nat.add_assoc ub.iterator 4, Nat.add_assoc ub.iterator]

omit [StickyMicroCdr] in
/-- The first block goes to the first slot without contents. -/
theorem openFirstBlock_eq [LawfulMicroCdr] {stream : OutputReliableStream} (h : Tracks stream win)
    (hfree : getAvailableFreeSlots stream ≠ 0) (userRequiredSpace : Nat) :
    openFirstBlock stream userRequiredSpace =
      ((openBlockAt stream (UInt16.ofNat (firstOpenable stream win))
          (UInt16.ofNat (availableBlockSize stream))
          (if userRequiredSpace < getReliableBufferCapacity stream.base then flagLastFragment else 0)
          (getReliableBufferCapacity stream.base)).1,
        ucdrInitBuffer
          (getReliableBuffer stream.base (UInt16.ofNat (firstOpenable stream win)) +
            stream.offset.toNat + 4)
          (getReliableBufferCapacity stream.base - stream.offset.toNat - 4)) := by
  have hbound := h.formed.capacity_lt
  have hacked := win.acked_le_sent
  have hsent := win.sent_lt_written
  have hfirst := @le_firstOpenable H stream win
  have hwin : firstOpenable stream win ≤ win.acked + H := by
    rw [getAvailableFreeSlots_eq h] at hfree
    omega
  have hempty := (h.empty_iff (by omega) hwin).mpr (Nat.le_refl _)
  have hseqNum : (if getReliableBufferSize stream.base stream.lastWritten > stream.offset.toNat then
      seqNumAdd stream.lastWritten 1 else stream.lastWritten) =
      UInt16.ofNat (firstOpenable stream win) := by
    have hle := h.offset_le win.written
    rw [firstOpenable, h.lastWritten, seqNumAdd_one]
    rw [slotSize] at hle ⊢
    by_cases hcontents : getReliableBufferSize stream.base (UInt16.ofNat win.written) =
        stream.offset.toNat
    · rw [if_pos hcontents, if_neg (by omega)]
    · rw [if_neg hcontents, if_pos (by omega)]
  rw [slotSize] at hempty
  rw [openFirstBlock]
  dsimp only
  rw [hseqNum, hempty, subheaderSize, Nat.mod_eq_of_lt (by omega)]

/-- The user is in the first block. -/
theorem openFirstBlock_inBlock {stream : OutputReliableStream} (h : Tracks stream win)
    (hfree : getAvailableFreeSlots stream ≠ 0)
    (hroom : stream.offset.toNat + 4 ≤ getReliableBufferCapacity stream.base)
    {userRequiredSpace : Nat} (hst : st.stream = (openFirstBlock stream userRequiredSpace).1) :
    SameShape stream st.stream ∧ ∃ (win' : OutputWindow H) (n : Nat),
      InBlock st ((openFirstBlock stream userRequiredSpace).2.setOnFullBufferCallback
          (some .onFullOutputBufferFragmented)) win' n
        { fragmentSize := UInt16.ofNat (availableBlockSize stream)
          flags := if userRequiredSpace < getReliableBufferCapacity stream.base then
            flagLastFragment else 0
          size := getReliableBufferCapacity stream.base } [] := by
  have hacked := win.acked_le_sent
  have hsent := win.sent_lt_written
  have hfirst := @le_firstOpenable H stream win
  have hlast := @firstOpenable_le H stream win
  rw [openFirstBlock_eq h hfree] at hst ⊢
  rw [getAvailableFreeSlots_eq h] at hfree
  obtain ⟨n, hn⟩ : ∃ n, n = firstOpenable stream win := ⟨_, rfl⟩
  rw [← hn] at hst hfree hfirst hlast ⊢
  have hempty := (h.empty_iff (show win.acked < n by omega) (by omega)).mpr (Nat.le_of_eq hn.symm)
  have hskipped : ∀ m, win.written ≤ m → m < n → stream.offset.toNat < stream.slotSize m := by
    intro m h₁ h₂
    obtain rfl : m = win.written := by omega
    refine Nat.lt_of_le_of_ne (h.offset_le _) fun hsame => ?_
    rw [firstOpenable, if_pos hsame.symm] at hn
    omega
  obtain ⟨flags, hflags⟩ : ∃ flags, flags =
      if userRequiredSpace < getReliableBufferCapacity stream.base then flagLastFragment else 0 :=
    ⟨_, rfl⟩
  rw [← hflags] at hst ⊢
  obtain ⟨win', hbehind, hwritten⟩ := behind_openBlockAt h hfirst (by omega) hempty hskipped
    (UInt16.ofNat (availableBlockSize stream)) flags
    (show stream.offset.toNat < getReliableBufferCapacity stream.base by omega) (Nat.le_refl _)
  obtain ⟨hsame, hslot, hfront⟩ := openBlockAt_holds h.formed hempty
    (UInt16.ofNat (availableBlockSize stream)) flags (Nat.le_refl _)
  dsimp only at hst
  rw [← hst] at hbehind hsame hslot hfront
  rw [ucdrInitBuffer, LawfulMicroCdr.init]
  refine ⟨⟨hsame.size, hsame.history, hsame.offset⟩, win', n, hbehind, hwritten, hslot, ?_,
    read_zero _ _, rfl, ?_, ?_, rfl⟩
  · rw [hsame.offset]
    exact hfront
  · rw [hsame.buffer, hsame.offset]
    exact Nat.add_assoc _ _ 4
  · rw [hsame.buffer, hsame.capacity]
    show getReliableBuffer stream.base (UInt16.ofNat n) + stream.offset.toNat + 4 + _ = _
    omega

/-- The header and the base of the WRITE_DATA are the first bytes of the payload. -/
theorem InBlock.writeData
    (h : InBlock st (ub.setOnFullBufferCallback (some .onFullOutputBufferFragmented)) win n header [])
    (hoffset : ub.offset = 0)
    (hroom : st.stream.offset.toNat + 12 ≤ getReliableBufferCapacity st.stream.base)
    (dataSize : Nat) {base : BaseObjectRequest}
    (hbase : base.requestId.length + base.objectId.length = 4) :
    InBlock
      (st.setStream { st.stream with
        base := { st.stream.base with
          buffer := (bufferWriteData st.stream.base.buffer ub dataSize base).1 } })
      ((bufferWriteData st.stream.base.buffer ub dataSize base).2.setOnFullBufferCallback
        (some .onFullOutputBufferFragmented)) win n header
      (submessageHeaderBytes SubmessageId.writeData.value (writeDataLength dataSize) formatData ++
        base.requestId ++ base.objectId) := by
  have hok : ub.error = false := h.ok
  have hiterator : ub.iterator = getReliableBuffer st.stream.base (UInt16.ofNat n) +
      (st.stream.offset.toNat + 4) := h.iterator
  have hfinal : ub.final = getReliableBuffer st.stream.base (UInt16.ofNat n) +
      getReliableBufferCapacity st.stream.base := h.final
  have hwrite := bufferWriteData_eq st.stream.base.buffer dataSize base hok hoffset (by omega)
  obtain ⟨front, hfront⟩ : ∃ front, front = submessageHeaderBytes SubmessageId.writeData.value
      (writeDataLength dataSize) formatData ++ base.requestId ++ base.objectId := ⟨_, rfl⟩
  have hlength : front.length = 8 := by
    rw [hfront, List.length_append, List.length_append, submessageHeaderBytes_length]
    omega
  rw [← hfront] at hwrite ⊢
  have hmemory : { st.stream with
      base := { st.stream.base with buffer := write st.stream.base.buffer ub.iterator front } } =
      st.stream.storeSlotBytes n (st.stream.offset.toNat + 4 + ([] : List UInt8).length) front := by
    rw [hiterator, storeSlotBytes, ReliableStream.storeBytes]
    rfl
  rw [hwrite, ucdrInitBuffer, LawfulMicroCdr.init]
  dsimp only
  rw [hmemory]
  refine h.store ?_ rfl ?_ ?_ rfl
  · rw [hlength, List.length_nil]
    omega
  · rw [hlength]
    show ub.iterator + (4 + base.requestId.length + base.objectId.length) + 0 = ub.iterator + 8
    omega
  · show ub.iterator + (4 + base.requestId.length + base.objectId.length) + _ = ub.final
    omega

/-- The user is in the first block, behind the header and the base of the WRITE_DATA. -/
theorem prepareOutputStreamFragmented_inBlock (hflush : FlushesStreams flush) {streamId : StreamId}
    {entityId : ObjectId} {dataSize : Nat} {requestId : UInt16}
    (htracks : Tracks (st.session.streams.outputReliable streamId.index) win)
    (hroom : (st.session.streams.outputReliable streamId.index).offset.toNat + 12 ≤
      getReliableBufferCapacity (st.session.streams.outputReliable streamId.index).base)
    (hprepared : prepareOutputStreamFragmented flush st streamId entityId ub dataSize =
      (requestId, st', ub'))
    (hvalid : requestId ≠ invalidRequestId) :
    SameShape (st.session.streams.outputReliable streamId.index) st'.stream ∧ st'.blocks = [] ∧
      st'.args.dataSize = dataSize + 8 ∧ ∃ (win' : OutputWindow H) (n : Nat),
        InBlock st' ub' win' n
          { fragmentSize := UInt16.ofNat (availableBlockSize st'.stream)
            flags := if dataSize + 8 < getReliableBufferCapacity st'.stream.base then
              flagLastFragment else 0
            size := getReliableBufferCapacity st'.stream.base }
          (submessageHeaderBytes SubmessageId.writeData.value (writeDataLength dataSize) formatData ++
            [(requestId >>> 8).toUInt8, requestId.toUInt8] ++ objectIdToRaw entityId) := by
  rw [prepareOutputStreamFragmented] at hprepared
  dsimp only at hprepared
  split at hprepared
  · cases hprepared
    exact absurd rfl hvalid
  split at hprepared
  · next havailable =>
    obtain ⟨hflushes, hfree⟩ := makeRoom_flushes hflush havailable
    generalize makeRoom flush streamId.index st.session st.world = made at hprepared hflushes hfree
    obtain ⟨_, session, world⟩ := made
    dsimp only at hprepared hflushes hfree
    generalize session.streams.outputReliable streamId.index = stream at hprepared hflushes hfree
    obtain ⟨win₂, h₂, hshape⟩ := Flushes.tracks htracks hflushes
    rw [← hshape.offset, ← hshape.capacity] at hroom
    obtain ⟨block, hblock⟩ : ∃ block, block =
        openFirstBlock stream (dataSize + subheaderSize + writeDataPayloadSize) := ⟨_, rfl⟩
    -- the block is opened, and then the header and the base are written
    let opened : ContinuousState ω :=
      { session := { session with
          info := (generateRequestId session.info).2
          streams := session.streams.setOutputReliable streamId.index block.1 }
        args := { streamId, dataSize := dataSize + subheaderSize + writeDataPayloadSize }
        world
        blocks := [] }
    have hopened : opened.stream = block.1 := StreamStorage.setOutputReliable_self _ _ _
    obtain ⟨hshape₁, win', n, hin⟩ := openFirstBlock_inBlock h₂ hfree (by omega)
      (hopened.trans (congrArg Prod.fst hblock))
    have hoffset : block.2.offset = 0 := by
      rw [hblock, openFirstBlock_eq h₂ hfree, ucdrInitBuffer, LawfulMicroCdr.init]
    rw [← hblock] at hin hprepared
    let base : BaseObjectRequest :=
      { requestId := [((generateRequestId session.info).1 >>> 8).toUInt8,
          (generateRequestId session.info).1.toUInt8]
        objectId := objectIdToRaw entityId }
    have hwritten := hin.writeData hoffset (by rw [hshape₁.offset, hshape₁.capacity]; exact hroom)
      dataSize (show base.requestId.length + base.objectId.length = 4 from rfl)
    rw [hopened] at hwritten hshape₁
    -- that is what the function gives to the user
    obtain ⟨stream', hstream'⟩ : ∃ stream', stream' =
        { block.1 with base := { block.1.base with
            buffer := (bufferWriteData block.1.base.buffer block.2 dataSize base).1 } } := ⟨_, rfl⟩
    have hst' : st' = opened.setStream stream' := by
      cases hprepared
      rw [hstream', ContinuousState.setStream]
      simp only [opened, StreamStorage.setOutputReliable, Function.update_idem]
      rfl
    have hub' : ub' = (bufferWriteData block.1.base.buffer block.2 dataSize
        base).2.setOnFullBufferCallback (some .onFullOutputBufferFragmented) := by
      cases hprepared
      rfl
    have hrequestId : requestId = (generateRequestId session.info).1 := by
      cases hprepared
      rfl
    have hshape' : SameShape stream st'.stream := by
      rw [hst', ContinuousState.setStream_stream, hstream']
      exact ⟨hshape₁.size, hshape₁.history, hshape₁.offset⟩
    rw [← hstream', ← hst', ← hub'] at hwritten
    refine ⟨hshape.trans hshape', by rw [hst']; rfl, by rw [hst']; rfl, win', n, ?_⟩
    rw [hshape'.blockSize, hshape'.capacity, hrequestId]
    exact hwritten
  · cases hprepared
    exact absurd rfl hvalid

end

end

end XrceClient
