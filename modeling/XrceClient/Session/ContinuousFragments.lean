import XrceClient.Session.ContinuousBlocks
import XrceClient.Session.ControlMessages

/-!
# What continuous fragmentation writes

- `InFragments`: blocks that hold a message in fragments: consecutive ones, of which only the last
  has the flag for it, each with a length and a size that are those of its payload.
- `InBlock.fragments`: from a block with the right header on, the blocks hold what is written.
  `InBlock.spoiled`: where messages start at eight, the blocks behind the first one hold nothing.
- `continuous_fragments_iff`: when a topic is held in fragments.
-/

namespace XrceClient

open ByteMemory OutputReliableStream

/-! ## Blocks that hold a message -/

section

variable [MicroCdr]

/-- A block holds a payload behind the header of a FRAGMENT. -/
structure HoldsFragment (offset : Nat) (block : ContinuousBlock) (flags : UInt8)
    (payload : List UInt8) : Prop where
  size : block.size = offset + 4 + payload.length
  header : (block.bytes.drop offset).take 4 = submessageHeaderBytes SubmessageId.fragment.value
    (UInt16.ofNat payload.length) flags
  payload : (block.bytes.drop (offset + 4)).take payload.length = payload

/-- Blocks hold a message in fragments. Only the last one has the flag for it. -/
inductive InFragments (offset : Nat) : List ContinuousBlock → List UInt8 → Prop
  | last {block : ContinuousBlock} {payload : List UInt8}
      (hblock : HoldsFragment offset block flagLastFragment payload) :
      InFragments offset [block] payload
  | cons {block next : ContinuousBlock} {blocks : List ContinuousBlock}
      {payload rest : List UInt8} (hblock : HoldsFragment offset block 0 payload)
      (hnext : next.seqNum = seqNumAdd block.seqNum 1)
      (hrest : InFragments offset (next :: blocks) rest) :
      InFragments offset (block :: next :: blocks) (payload ++ rest)

/-- The WRITE_DATA submessage for a topic. -/
def writeDataSubmessage (requestId : UInt16) (entityId : ObjectId) (data : List UInt8) :
    List UInt8 :=
  submessageHeaderBytes SubmessageId.writeData.value (writeDataLength data.length) formatData ++
    [(requestId >>> 8).toUInt8, requestId.toUInt8] ++ objectIdToRaw entityId ++ data

section

variable {ω : Type} {flush : FlushCallback ω} {H : Nat} {st st' : ContinuousState ω}
  {ub ub' : UcdrBuffer} {win : OutputWindow H} {n : Nat} {header : BlockHeader}
  {payload : List UInt8}

/-! ## What the blocks hold -/

theorem InBlock.openBlock_eq (h : InBlock st ub win n header payload) :
    openBlock st.stream =
      { seqNum := UInt16.ofNat n
        size := header.size
        bytes := st.stream.base.bytesFrom (UInt16.ofNat n) 0
          (getReliableBufferCapacity st.stream.base) } := by
  have hlast : seqNumSub st.stream.lastWritten 1 = UInt16.ofNat n := by
    rw [h.behind.tracks.lastWritten, h.written, seqNumSub_one (Nat.le_add_left 1 n),
      Nat.add_sub_cancel]
  rw [openBlock, hlast, ← h.size]
  rfl

/-- Bytes of the open block are those of its slot. -/
theorem InBlock.block_bytes (h : InBlock st ub win n header payload) {k len : Nat}
    (hfit : k + len ≤ getReliableBufferCapacity st.stream.base) :
    ((openBlock st.stream).bytes.drop k).take len =
      st.stream.base.bytesFrom (UInt16.ofNat n) k len := by
  rw [h.openBlock_eq]
  dsimp only
  rw [ReliableStream.bytesFrom, ReliableStream.bytesFrom, Nat.add_zero]
  exact (read_within _ _ hfit).symm

/-- A block whose header and size are right holds its payload. -/
theorem InBlock.holds (h : InBlock st ub win n header payload)
    (hlength : header.fragmentSize = UInt16.ofNat payload.length)
    (hsize : header.size = st.stream.offset.toNat + 4 + payload.length) :
    HoldsFragment st.stream.offset.toNat (openBlock st.stream) header.flags payload := by
  have hbounded := h.behind.tracks.bounded n
  rw [h.size] at hbounded
  constructor
  · rw [h.openBlock_eq]
    exact hsize
  · rw [h.block_bytes (by omega), h.front, hlength]
  · rw [h.block_bytes (by omega), h.contents]

/-- What the header of a block that holds a fragment says. -/
theorem InBlock.of_holds (h : InBlock st ub win n header payload) {flags : UInt8}
    {held : List UInt8}
    (hholds : HoldsFragment st.stream.offset.toNat (openBlock st.stream) flags held) :
    header.size = st.stream.offset.toNat + 4 + held.length ∧
      submessageHeaderBytes SubmessageId.fragment.value header.fragmentSize header.flags =
        submessageHeaderBytes SubmessageId.fragment.value (UInt16.ofNat held.length) flags := by
  have hroom := h.behind.tracks.formed.offset_lt
  obtain ⟨hsize, hfront, -⟩ := hholds
  rw [h.block_bytes (by omega), h.front] at hfront
  rw [h.openBlock_eq] at hsize
  exact ⟨hsize, hfront⟩

/-- The flag of the last fragment is read back. -/
theorem submessageHeaderBytes_flags {submessageId : UInt8} {length length' : UInt16} :
    submessageHeaderBytes submessageId length flagLastFragment ≠
      submessageHeaderBytes submessageId length' 0 := by
  intro heq
  rw [submessageHeaderBytes, submessageHeaderBytes] at heq
  obtain ⟨-, hflags⟩ := List.append_inj (List.append_inj heq (by simp)).1 (by simp)
  generalize machineEndianness = e at hflags
  cases e with
  | bigEndianness => exact absurd hflags (by decide)
  | littleEndianness => exact absurd hflags (by decide)

/-- The length of a fragment is read back. -/
theorem submessageHeaderBytes_length_inj {submessageId flags flags' : UInt8}
    {length length' : UInt16}
    (heq : submessageHeaderBytes submessageId length flags =
      submessageHeaderBytes submessageId length' flags') : length = length' := by
  rw [submessageHeaderBytes, submessageHeaderBytes] at heq
  have hlength := (List.append_inj' heq (by simp)).2
  have hdecoded := congrArg ofLeBytes hlength
  rw [encodeScalar, encodeScalar, ofLeBytes_leBytes, ofLeBytes_leBytes] at hdecoded
  have h₁ := length.toNat_lt
  have h₂ := length'.toNat_lt
  exact UInt16.toNat_inj.mp (by omega)

variable [StickyMicroCdr]

/-! ## From the open block on -/

/-- The header that is right for a block with that many bytes left. -/
def rightHeader (stream : OutputReliableStream) (dataSize : Nat) : BlockHeader :=
  if dataSize ≤ availableBlockSize stream then
    { fragmentSize := UInt16.ofNat dataSize
      flags := flagLastFragment
      size := stream.offset.toNat + 4 + dataSize }
  else
    { fragmentSize := UInt16.ofNat (availableBlockSize stream)
      flags := 0
      size := getReliableBufferCapacity stream.base }

omit [MicroCdr] [StickyMicroCdr] in
/-- Where messages start at four, the next header is right. -/
theorem nextHeader_eq_rightHeader {stream : OutputReliableStream} (hwf : stream.Formed)
    (hoffset : stream.offset.toNat = 4) (dataSize : Nat) :
    nextHeader stream dataSize = rightHeader stream dataSize := by
  have hblock := hwf.blockSize_eq
  rw [nextHeader, rightHeader, hoffset]
  by_cases hfits : dataSize ≤ availableBlockSize stream
  · rw [if_pos (by omega), if_pos hfits, Nat.add_comm dataSize 8]
  · rw [if_neg (by omega), if_neg hfits]

/-- From a block with the right header on, the blocks hold what is written. -/
theorem InBlock.fragments (hflush : FlushesStreams flush) {data : List UInt8}
    (h : InBlock st ub win n header payload)
    (hoffset : st.stream.offset.toNat = 4 ∨ st.stream.offset.toNat = 8)
    (hpayload : payload.length ≤ availableBlockSize st.stream)
    (hleft : st.args.dataSize = payload.length + data.length)
    (hheader : header = rightHeader st.stream (payload.length + data.length))
    (hright : payload.length + data.length ≤ availableBlockSize st.stream ∨
      st.stream.offset.toNat = 4)
    (hputs : Puts (continuousDevice flush) data st ub st' ub') :
    ∃ block blocks, st'.blocks ++ [openBlock st'.stream] = st.blocks ++ block :: blocks ∧
      block.seqNum = UInt16.ofNat n ∧
        InFragments st.stream.offset.toNat (block :: blocks) (payload ++ data) := by
  induction hlength : payload.length + data.length using Nat.strong_induction_on
    generalizing st ub win n header payload data with
  | _ length ih =>
  have hblock := h.behind.tracks.formed.blockSize_eq
  have hroom := h.behind.tracks.formed.offset_lt
  rcases Nat.lt_or_ge (availableBlockSize st.stream) (payload.length + data.length) with
    hlong | hfits
  · -- the block is filled, and the rest goes to the blocks behind it
    have hfour : st.stream.offset.toNat = 4 := by omega
    obtain ⟨chunk, rest, st₁, ub₁, st₂, ub₂, rfl, hrest, hfull, hin, hshape, hblocks, hputs₂,
      hnext⟩ := h.turn hflush hoffset hpayload hlong hleft hputs
    rw [rightHeader, if_neg (by omega)] at hheader
    obtain ⟨hshape₂, hdata, win₂, hin₂⟩ := hnext (by rw [hheader])
    have hwf₂ := hin₂.behind.tracks.formed
    rw [List.length_append] at hlength hlong
    rw [List.length_append] at hfull
    obtain ⟨block, blocks, hall, hseqNum, hfragments⟩ := ih rest.length (by omega) hin₂
      (by rw [hshape₂.offset]; exact hoffset) (Nat.zero_le _)
      (by rw [hdata, List.length_nil, Nat.zero_add])
      (by
        rw [nextHeader_eq_rightHeader h.behind.tracks.formed hfour, List.length_nil, Nat.zero_add,
          rightHeader, rightHeader, hshape₂.blockSize, hshape₂.offset, hshape₂.capacity])
      (.inr (hshape₂.offset ▸ hfour)) hputs₂ (by rw [List.length_nil, Nat.zero_add])
    rw [hshape₂.offset] at hfragments
    have hholds := hin.holds (by rw [hheader, List.length_append, hfull])
      (by rw [hheader, List.length_append, hfull, hshape.offset]; dsimp only; omega)
    rw [hshape.offset, hheader] at hholds
    refine ⟨openBlock st₁.stream, block :: blocks, ?_, by rw [hin.openBlock_eq], ?_⟩
    · rw [hall, hblocks, List.append_assoc, List.singleton_append]
    · rw [← List.append_assoc]
      refine .cons hholds ?_ hfragments
      rw [hseqNum, hin.openBlock_eq, seqNumAdd_one]
  · obtain ⟨hin, hblocks, -, hshape⟩ := h.within (by omega) hputs
    rw [rightHeader, if_pos hfits] at hheader
    have hholds := hin.holds (by rw [hheader, List.length_append])
      (by rw [hheader, List.length_append, hshape.offset])
    rw [hshape.offset, hheader] at hholds
    exact ⟨openBlock st'.stream, [], by rw [hblocks], by rw [hin.openBlock_eq], .last hholds⟩

/-- From a block behind the first one on, where messages start at eight, the blocks hold no
message: in the header of the last one the length and the size do not agree. -/
theorem InBlock.spoiled (hflush : FlushesStreams flush) {data : List UInt8}
    (h : InBlock st ub win n (nextHeader st.stream data.length) [])
    (hoffset : st.stream.offset.toNat = 8) (hleft : st.args.dataSize = data.length)
    (hlong : 4 < data.length) (hputs : Puts (continuousDevice flush) data st ub st' ub') :
    ∃ block blocks, st'.blocks ++ [openBlock st'.stream] = st.blocks ++ block :: blocks ∧
      ∀ whole, ¬ InFragments 8 (block :: blocks) whole := by
  -- by induction on the bytes that are left
  induction hlength : data.length using Nat.strong_induction_on
    generalizing st ub win n data with
  | _ length ih =>
  have hblock := h.behind.tracks.formed.blockSize_eq
  have hroom := h.behind.tracks.formed.offset_lt
  have hcapacity := h.behind.tracks.formed.capacity_lt
  rcases Nat.lt_or_ge (availableBlockSize st.stream) data.length with hbeyond | hfits
  · obtain ⟨chunk, rest, st₁, ub₁, st₂, ub₂, rfl, hrest, hfull, hin, hshape, hblocks, hputs₂,
      hnext⟩ := h.turn hflush (.inr hoffset) (Nat.zero_le _)
        (by rw [List.length_nil, Nat.zero_add]; exact hbeyond)
        (by rw [List.length_nil, Nat.zero_add]; exact hleft) hputs
    rw [List.nil_append] at hfull hin
    rw [List.length_append] at hlength hbeyond hlong
    rcases Nat.lt_or_ge (getReliableBufferCapacity st.stream.base) ((chunk ++ rest).length + 8)
      with hmore | hless
    · -- the block is full and another one follows: what is wrong is further on
      obtain ⟨hshape₂, hdata, win₂, hin₂⟩ := hnext (by rw [nextHeader, if_neg (by omega)])
      rw [List.length_append] at hmore
      obtain ⟨block, blocks, hall, hspoiled⟩ := ih rest.length (by omega)
        (by rw [nextHeader, hshape₂.capacity, hshape₂.blockSize, ← nextHeader]; exact hin₂)
        (by rw [hshape₂.offset, hoffset]) hdata (by omega) hputs₂ rfl
      refine ⟨openBlock st₁.stream, block :: blocks, ?_, fun whole hwhole => ?_⟩
      · rw [hall, hblocks, List.append_assoc, List.singleton_append]
      · cases hwhole with
        | cons hholds hseqNum hrest => exact hspoiled _ hrest
    · -- the block has the flag of the last one, and is not the last one
      obtain ⟨more, hmore⟩ := puts_blocks hflush hputs₂
      obtain ⟨block, blocks, htail⟩ : ∃ block blocks, more ++ [openBlock st'.stream] =
          block :: blocks := List.exists_cons_of_ne_nil (by simp)
      refine ⟨openBlock st₁.stream, block :: blocks, ?_, fun whole hwhole => ?_⟩
      · rw [hmore, hblocks, List.append_assoc, List.append_assoc, htail, List.singleton_append]
      · cases hwhole with
        | cons hholds hseqNum hrest =>
          rw [← hoffset, ← hshape.offset] at hholds
          have hheader := (hin.of_holds hholds).2
          rw [nextHeader, if_pos hless] at hheader
          exact submessageHeaderBytes_flags hheader
  · -- the last block, whose header says another length than its size does
    obtain ⟨hin, hblocks, -, hshape⟩ := h.within
      (by rw [List.length_nil]; omega) hputs
    refine ⟨openBlock st'.stream, [], by rw [hblocks], fun whole hwhole => ?_⟩
    cases hwhole with
    | last hholds =>
      rw [← hoffset, ← hshape.offset] at hholds
      obtain ⟨hsize, hheader⟩ := hin.of_holds hholds
      rw [nextHeader, if_pos (by omega)] at hsize hheader
      have hsame := congrArg UInt16.toNat (submessageHeaderBytes_length_inj hheader)
      rw [UInt16.toNat_ofNat', UInt16.toNat_ofNat', Nat.mod_eq_of_lt (by omega)] at hsame
      rw [hshape.offset] at hsize
      dsimp only at hsize
      rw [Nat.mod_eq_of_lt (by omega)] at hsame
      omega

/-! ## The whole topic -/

omit [StickyMicroCdr] in
/-- The user writes less than the first block has room for: its size and length are too large. -/
theorem InBlock.not_fragments_short (h : InBlock st ub win n header payload)
    (hsize : header.size = getReliableBufferCapacity st.stream.base) {data : List UInt8}
    (hshort : payload.length + data.length < availableBlockSize st.stream)
    (hputs : Puts (continuousDevice flush) data st ub st' ub') (hblocks : st.blocks = []) :
    ¬ InFragments st.stream.offset.toNat (st'.blocks ++ [openBlock st'.stream])
      (payload ++ data) := by
  have hblock := h.behind.tracks.formed.blockSize_eq
  obtain ⟨hin, hblocks', -, hshape⟩ := h.within (by omega) hputs
  rw [hblocks', hblocks, List.nil_append]
  intro hall
  obtain ⟨whole, hwhole⟩ : ∃ whole, whole = payload ++ data := ⟨_, rfl⟩
  have hlength := congrArg List.length hwhole
  rw [List.length_append] at hlength
  rw [← hwhole] at hall
  cases hall with
  | last hholds =>
    rw [← hshape.offset] at hholds
    have hheld := (hin.of_holds hholds).1
    rw [hshape.offset] at hheld
    omega

/-- The first block has the flag of the last one, and the user goes on behind it. -/
theorem InBlock.not_fragments_last (hflush : FlushesStreams flush)
    (h : InBlock st ub win n header payload)
    (hoffset : st.stream.offset.toNat = 4 ∨ st.stream.offset.toNat = 8)
    (hpayload : payload.length ≤ availableBlockSize st.stream)
    (hflags : header.flags = flagLastFragment) {data : List UInt8}
    (hlong : availableBlockSize st.stream < payload.length + data.length)
    (hleft : st.args.dataSize = payload.length + data.length)
    (hputs : Puts (continuousDevice flush) data st ub st' ub') (hblocks : st.blocks = []) :
    ∀ whole, ¬ InFragments st.stream.offset.toNat (st'.blocks ++ [openBlock st'.stream]) whole := by
  obtain ⟨chunk, rest, st₁, ub₁, st₂, ub₂, rfl, -, -, hin, hshape, hblocks₂, hputs₂, -⟩ :=
    h.turn hflush hoffset hpayload hlong hleft hputs
  obtain ⟨more, hmore⟩ := puts_blocks hflush hputs₂
  obtain ⟨block, blocks, htail⟩ : ∃ block blocks, more ++ [openBlock st'.stream] =
      block :: blocks := List.exists_cons_of_ne_nil (by simp)
  rw [hmore, hblocks₂, hblocks, List.nil_append, List.append_assoc, htail, List.singleton_append]
  intro whole hall
  cases hall with
  | cons hholds hseqNum hrest =>
    rw [← hshape.offset] at hholds
    have hheader := (hin.of_holds hholds).2
    rw [hflags] at hheader
    exact submessageHeaderBytes_flags hheader

/-- **Continuous fragmentation.** When the user has written a topic, the blocks hold its WRITE_DATA
in fragments exactly if the submessage fills the first block and no more, or messages start at four
and the submessage is at least as long as a whole slot. -/
theorem continuous_fragments_iff (hflush : FlushesStreams flush) {streamId : StreamId}
    {entityId : ObjectId} {dataSize : Nat} {requestId : UInt16} {opened : ContinuousState ω}
    {ub₁ : UcdrBuffer} {data : List UInt8}
    (htracks : Tracks (st.session.streams.outputReliable streamId.index) win)
    (hoffset : (st.session.streams.outputReliable streamId.index).offset.toNat = 4 ∨
      (st.session.streams.outputReliable streamId.index).offset.toNat = 8)
    (hroom : (st.session.streams.outputReliable streamId.index).offset.toNat + 12 ≤
      getReliableBufferCapacity (st.session.streams.outputReliable streamId.index).base)
    (hprepared : prepareOutputStreamFragmented flush st streamId entityId ub dataSize =
      (requestId, opened, ub₁))
    (hvalid : requestId ≠ invalidRequestId) (hdata : data.length = dataSize)
    (hputs : Puts (continuousDevice flush) data opened ub₁ st' ub') :
    InFragments (st.session.streams.outputReliable streamId.index).offset.toNat
        (st'.blocks ++ [openBlock st'.stream]) (writeDataSubmessage requestId entityId data) ↔
      dataSize + 8 = availableBlockSize (st.session.streams.outputReliable streamId.index) ∨
        (st.session.streams.outputReliable streamId.index).offset.toNat = 4 ∧
          getReliableBufferCapacity (st.session.streams.outputReliable streamId.index).base ≤
            dataSize + 8 := by
  obtain ⟨hshape, hblocks, hleft, win', n, hin⟩ :=
    prepareOutputStreamFragmented_inBlock hflush htracks hroom hprepared hvalid
  rw [← hshape.offset] at hoffset
  rw [← hshape.offset, ← hshape.capacity] at hroom ⊢
  rw [← hshape.blockSize]
  have hblock := hin.behind.tracks.formed.blockSize_eq
  have hbound := hin.behind.tracks.formed.capacity_lt
  rw [writeDataSubmessage, hdata]
  obtain ⟨front, hfront⟩ : ∃ front, front = submessageHeaderBytes SubmessageId.writeData.value
      (writeDataLength dataSize) formatData ++ [(requestId >>> 8).toUInt8, requestId.toUInt8] ++
        objectIdToRaw entityId := ⟨_, rfl⟩
  have hlength : front.length = 8 := by
    rw [hfront, List.length_append, List.length_append, submessageHeaderBytes_length]
    rfl
  rw [← hfront] at hin ⊢
  have hdataSize : opened.args.dataSize = front.length + data.length := by omega
  constructor
  · intro hall
    by_contra hwrong
    rcases Nat.lt_or_ge (dataSize + 8) (availableBlockSize opened.stream) with hshort | hlong
    · -- the message is shorter than the length in the header of its fragment
      exact hin.not_fragments_short rfl (by omega) hputs hblocks hall
    rcases Nat.lt_or_ge (dataSize + 8) (getReliableBufferCapacity opened.stream.base) with
      hless | hmore
    · -- the first block has the flag of the last one, and is followed by another
      exact hin.not_fragments_last hflush hoffset (by omega) (if_pos hless) (by omega) hdataSize
        hputs hblocks _ hall
    · -- messages start at eight
      have height : opened.stream.offset.toNat = 8 := by omega
      obtain ⟨chunk, rest, st₁, ub₁, st₂, ub₂, rfl, hrest, hfull, hin₁, hshape₁, hblocks₂, hputs₂,
        hnext⟩ := hin.turn hflush hoffset (by omega) (by omega) hdataSize hputs
      obtain ⟨hshape₂, hdata₂, win₂, hin₂⟩ := hnext rfl
      rw [List.length_append] at hfull hdata
      rw [nextHeader, ← hshape₂.capacity, ← hshape₂.blockSize, ← nextHeader] at hin₂
      obtain ⟨block, blocks, hblocks', hspoiled⟩ := hin₂.spoiled hflush
        (by rw [hshape₂.offset, height]) hdata₂ (by omega) hputs₂
      rw [hblocks', hblocks₂, hblocks, List.nil_append, List.singleton_append, height] at hall
      generalize front ++ (chunk ++ rest) = whole at hall
      cases hall with
      | cons hholds hseqNum hrest => exact hspoiled _ hrest
  · intro hright
    have hheader : BlockHeader.mk (UInt16.ofNat (availableBlockSize opened.stream))
        (if dataSize + 8 < getReliableBufferCapacity opened.stream.base then flagLastFragment else 0)
        (getReliableBufferCapacity opened.stream.base) =
          rightHeader opened.stream (front.length + data.length) := by
      rw [rightHeader]
      rcases hright with hexact | ⟨hfour, hmore⟩
      · rw [if_pos (by omega), if_pos (by omega), hlength, hdata, Nat.add_comm 8, hexact]
        congr 1
        omega
      · rw [if_neg (by omega), if_neg (by omega)]
    obtain ⟨block, blocks, hblocks', -, hfragments⟩ := hin.fragments hflush hoffset (by omega)
      hdataSize hheader (by omega) hputs
    rw [hblocks', hblocks]
    exact hfragments

end

end

/-! ## A topic of forty bytes, and one of four -/

/-- A callback that makes no room. -/
def neverFlushes : FlushCallback Unit := fun session world => (false, session, world)

theorem flushesStreams_neverFlushes : FlushesStreams neverFlushes :=
  fun _ _ _ hflushed => absurd hflushed Bool.false_ne_true

/-- The oldest message that waits in a stream goes out, and all that were sent are acknowledged. -/
def sendsOldest (stream : OutputReliableStream) : OutputReliableStream :=
  let (ready, sent, _) := prepareNextReliableBufferToSend stream
  if ready then processAcknack sent 0 (seqNumAdd sent.lastSent 1) else stream

/-- A callback that makes room in the first stream in this way. -/
def flushesFirst : FlushCallback Unit := fun session world =>
  (true,
    { session with
      streams := session.streams.setOutputReliable 0
        (sendsOldest (session.streams.outputReliable 0)) },
    world)

/-- Everything that was sent may be acknowledged. -/
theorem acknackInRange_sent (stream : OutputReliableStream) :
    AcknackInRange stream (seqNumAdd stream.lastSent 1) := by
  rw [AcknackInRange, Serial.dist, Serial.dist, seqNumAdd_eq, seqNumAdd_eq]
  refine Nat.le_of_eq (congrArg UInt16.toNat ?_)
  exact add_sub_add_right_eq_sub _ _ _

theorem flushesStreams_flushesFirst : FlushesStreams flushesFirst := by
  intro session world index _
  by_cases hindex : index = 0
  · rw [hindex]
    show Flushes _ ((session.streams.setOutputReliable 0 _).outputReliable 0)
    rw [StreamStorage.setOutputReliable_self, sendsOldest]
    dsimp only
    by_cases hready : (prepareNextReliableBufferToSend (session.streams.outputReliable 0)).1 = true
    · rw [if_pos hready]
      exact .tail (.single (.send _ hready)) (.acknack _ 0 _ (acknackInRange_sent _))
    · rw [if_neg hready]
  · show Flushes _ ((session.streams.setOutputReliable 0 _).outputReliable index)
    rw [StreamStorage.setOutputReliable_other _ hindex]

/-- A session with an output stream, with two slots of 28 bytes behind headers of four. -/
def beforeTopic : ContinuousState Unit where
  session := oneStreamEach
  args := { streamId := streamIdFromRaw 0x80 .outputStream, dataSize := 0 }
  world := ()
  blocks := []

/-- A topic of that size is to be written to it. -/
def openedFor (flush : FlushCallback Unit) (dataSize : Nat) :
    UInt16 × ContinuousState Unit × UcdrBuffer :=
  @prepareOutputStreamFragmented referenceMicroCdr Unit flush beforeTopic
    beforeTopic.args.streamId ⟨1, 5⟩ (@ucdrInitBuffer referenceMicroCdr 0 0) dataSize

theorem tracks_oneStreamEach :
    Tracks (oneStreamEach.streams.outputReliable 0) (OutputWindow.initial 2) :=
  tracks_init (fun _ => 0) ⟨1, rfl⟩ rfl (by decide) (by decide)

/-- The bytes of a topic. -/
def fortyBytes : List UInt8 := (List.range 40).map UInt8.ofNat

/-- A topic of forty bytes is held in three blocks. For the third one the first one has to go. -/
theorem continuous_fragments_iff_forty_bytes :
    ∃ st' ub', Puts (@continuousDevice referenceMicroCdr Unit flushesFirst) fortyBytes
        (openedFor flushesFirst 40).2.1 (openedFor flushesFirst 40).2.2 st' ub' ∧
      st'.blocks.length = 2 ∧ st'.stream.lastAcknown = 0 ∧
      @InFragments referenceMicroCdr 4 (st'.blocks ++ [openBlock st'.stream])
        (@writeDataSubmessage referenceMicroCdr (openedFor flushesFirst 40).1 ⟨1, 5⟩
          fortyBytes) := by
  have hput : (ReferenceMicroCdr.putBytes (@continuousDevice referenceMicroCdr Unit flushesFirst)
      fortyBytes (openedFor flushesFirst 40).2.1 (openedFor flushesFirst 40).2.2).1 = true ∧
    (ReferenceMicroCdr.putBytes (@continuousDevice referenceMicroCdr Unit flushesFirst)
      fortyBytes (openedFor flushesFirst 40).2.1
      (openedFor flushesFirst 40).2.2).2.1.blocks.length = 2 ∧
    (ReferenceMicroCdr.putBytes (@continuousDevice referenceMicroCdr Unit flushesFirst)
      fortyBytes (openedFor flushesFirst 40).2.1
      (openedFor flushesFirst 40).2.2).2.1.stream.lastAcknown = 0 := by decide +kernel
  generalize hresult : ReferenceMicroCdr.putBytes (@continuousDevice referenceMicroCdr Unit
    flushesFirst) fortyBytes (openedFor flushesFirst 40).2.1
    (openedFor flushesFirst 40).2.2 = result at hput
  obtain ⟨available, st', ub'⟩ := result
  obtain ⟨rfl, htwo, hacknown⟩ := hput
  have hputs := ReferenceMicroCdr.puts_of_putBytes (by decide +kernel) hresult
  refine ⟨st', ub', hputs, htwo, hacknown, ?_⟩
  exact (@continuous_fragments_iff referenceMicroCdr Unit flushesFirst 2 beforeTopic st'
    (@ucdrInitBuffer referenceMicroCdr 0 0) ub' _
    referenceMicroCdr_sticky flushesStreams_flushesFirst beforeTopic.args.streamId _ 40
    (openedFor flushesFirst 40).1 (openedFor flushesFirst 40).2.1 (openedFor flushesFirst 40).2.2
    fortyBytes tracks_oneStreamEach (.inl rfl) (by decide) rfl (by decide +kernel) rfl hputs).mpr
      (.inr ⟨rfl, by decide⟩)

/-- The user is in the first block, behind eight bytes. -/
theorem inBlock_openedFor {dataSize : Nat}
    (hvalid : (openedFor neverFlushes dataSize).1 ≠ invalidRequestId) :
    SameShape (oneStreamEach.streams.outputReliable 0) (openedFor neverFlushes dataSize).2.1.stream ∧
      (openedFor neverFlushes dataSize).2.1.blocks = [] ∧ ∃ (win : OutputWindow 2) (n : Nat)
        (header : BlockHeader) (front : List UInt8), front.length = 8 ∧ header.size = 28 ∧
          (∀ data, data.length = dataSize → front ++ data =
            @writeDataSubmessage referenceMicroCdr (openedFor neverFlushes dataSize).1 ⟨1, 5⟩
              data) ∧
          @InBlock referenceMicroCdr Unit 2 (openedFor neverFlushes dataSize).2.1
            (openedFor neverFlushes dataSize).2.2 win n header front := by
  obtain ⟨hshape, hblocks, -, win, n, hin⟩ := @prepareOutputStreamFragmented_inBlock
    referenceMicroCdr Unit neverFlushes 2 beforeTopic (openedFor neverFlushes dataSize).2.1
    (@ucdrInitBuffer referenceMicroCdr 0 0) (openedFor neverFlushes dataSize).2.2 _
    referenceMicroCdr_sticky flushesStreams_neverFlushes beforeTopic.args.streamId _ dataSize
    (openedFor neverFlushes dataSize).1 tracks_oneStreamEach (by decide) rfl hvalid
  refine ⟨hshape, hblocks, win, n, _, _, ?_, hshape.capacity, ?_, hin⟩
  · rw [List.length_append, List.length_append, @submessageHeaderBytes_length referenceMicroCdr]
    rfl
  · intro data hdata
    simp only [writeDataSubmessage, hdata]

/-- A shorter topic is held in a block whose length and size are those of a full one. -/
theorem continuous_fragments_four_bytes :
    ∃ st' ub', Puts (@continuousDevice referenceMicroCdr Unit neverFlushes) [1, 2, 3, 4]
        (openedFor neverFlushes 4).2.1 (openedFor neverFlushes 4).2.2 st' ub' ∧
      ¬ @InFragments referenceMicroCdr 4 (st'.blocks ++ [openBlock st'.stream])
        (@writeDataSubmessage referenceMicroCdr (openedFor neverFlushes 4).1 ⟨1, 5⟩
          [1, 2, 3, 4]) := by
  have hvalid : (openedFor neverFlushes 4).1 ≠ invalidRequestId := by decide +kernel
  obtain ⟨hshape, hblocks, win, n, header, front, hlength, hsize, hfront, hin⟩ :=
    inBlock_openedFor hvalid
  -- there is room for them in the first block
  obtain ⟨st', ub', hputs⟩ := @InBlock.can_put referenceMicroCdr Unit 2 _ _ win n header front
    neverFlushes hin [1, 2, 3, 4] (by rw [hshape.offset, hshape.capacity, hlength]; decide)
  have hshort := @InBlock.not_fragments_short referenceMicroCdr Unit neverFlushes 2 _ st' _ ub' win n
    header front hin (hsize.trans hshape.capacity.symm) [1, 2, 3, 4]
    (by rw [hshape.blockSize, hlength]; decide) hputs hblocks
  rw [hshape.offset, hfront [1, 2, 3, 4] rfl] at hshort
  exact ⟨st', ub', hputs, hshort⟩

end XrceClient
