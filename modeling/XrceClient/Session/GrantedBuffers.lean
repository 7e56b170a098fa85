import XrceClient.Session.FieldWriting
import XrceClient.Session.PackedMessages

/-!
# Granted buffers

The buffer in which a submessage is granted room, as the serializer of its payload finds it: there
is room for the payload, in the byte order of the machine, and no block of a message in fragments
ends within the padding of an integer where the slots of the stream are multiples of four.

- `endsAligned_payloads`: the blocks of a message in fragments end at multiples of four.
- `streamDevice_continues`, `streamDevice_storesBack`: the device of a stream.
- `Holding.writable`, `Holding.paddingKept`: what is granted behind the header of a submessage.
- `Holding.slotsAligned`: the slots stay multiples of four.
-/

namespace XrceClient

open ByteMemory OutputReliableStream

/-! ## The ends of blocks -/

section

variable {σ τ : Type} {dev : Device σ} {dev' : Device τ} {n k : Nat} {s : σ} {ub : UcdrBuffer}

theorem EndsAligned.mono (h : EndsAligned dev n s ub) (hle : k ≤ n) : EndsAligned dev k s ub := by
  intro bytes s' ub' hlength hputs
  rcases h bytes s' ub' (Nat.le_trans hlength hle) hputs with hroom | haligned
  · left
    omega
  · exact .inr haligned

theorem EndsAligned.lift {part : σ → τ} (hpart : dev.Projects dev' part)
    (h : EndsAligned dev' n (part s) ub) : EndsAligned dev n s ub :=
  fun bytes _ ub' hlength hputs => h bytes _ ub' hlength (hputs.project hpart)

end

/-! ## A message in fragments -/

section

variable [MicroCdr] [LawfulMicroCdr]

/-- The blocks of a message in fragments end at multiples of four, if what its slots hold does. Only
the last block may end elsewhere: it has room for all that is left. -/
theorem endsAligned_payloads {stream : OutputReliableStream} (hwf : stream.Formed) {ub : UcdrBuffer}
    {n k count : Nat} (h : InOutputSlot stream ub n k) (hk : k ≤ stream.slotSize n)
    (hbounded : stream.slotSize n ≤ getReliableBufferCapacity stream.base)
    (hslots : ∀ i, 0 < i → i ≤ count → stream.offset.toNat + 4 < stream.slotSize (n + i) ∧
      stream.slotSize (n + i) ≤ getReliableBufferCapacity stream.base)
    (haligned : ∀ i < count, stream.slotSize (n + i) % 4 = 0)
    (hstart : 0 < count → (ub.offset + (stream.slotSize n - k)) % 4 = 0) :
    EndsAligned outputDevice (payloads stream n k count).length stream ub := by
  -- by induction on the slots behind the first one
  induction count generalizing stream ub n k with
  | zero =>
    rw [payloads_zero, ReliableStream.bytesFrom_length]
    refine endsAligned_within ?_
    rw [h.iterator, h.final]
    omega
  | succ count ih =>
    have hend := hstart (Nat.succ_pos count)
    intro bytes stream' ub' hlength hputs
    rcases Nat.lt_or_ge (stream.slotSize n - k) bytes.length with hlong | hfits
    · -- the bytes up to the end of the first slot, and those in the others
      obtain ⟨chunk, rest, rfl, hchunk⟩ : ∃ chunk rest, bytes = chunk ++ rest ∧
          chunk.length = stream.slotSize n - k :=
        ⟨_, _, (List.take_append_drop (stream.slotSize n - k) bytes).symm,
          List.length_take_of_le (Nat.le_of_lt hlong)⟩
      obtain ⟨stream₁, ub₁, hfirst, hrest⟩ := hputs.split
      have hfit : k + chunk.length ≤ getReliableBufferCapacity stream.base := by omega
      have hfills := fills_storeSlotBytes hwf n hfit
      have hput := puts_slot h.ok h.iterator
        (by rw [h.iterator, h.final]; omega) (Puts.nil (stream.storeSlotBytes n k chunk) _)
      rw [List.append_nil] at hput
      obtain ⟨rfl, rfl⟩ := hfirst.deterministic hput
      have hwf₁ := hfills.shape.formed hwf
      have hin : InOutputSlot (stream.storeSlotBytes n k chunk)
          { ub with iterator := ub.iterator + chunk.length, offset := ub.offset + chunk.length } n
          (stream.slotSize n) := by
        refine ⟨h.ok, ?_, ?_, ?_, h.callback⟩
        · rw [hfills.shape.stride, hfills.shape.history]
          exact h.init
        · rw [hfills.shape.buffer, h.iterator]
          dsimp only
          omega
        · rw [hfills.shape.buffer, hfills.size]
          exact h.final
      obtain ⟨hnext, hnextBounded⟩ := hslots 1 Nat.one_pos (Nat.le_add_left 1 count)
      obtain ⟨ub₂, hcall, hroom₂, hin₂⟩ := onFull_inOutputSlot hwf₁ hin
        (by rw [hfills.shape.offset, hfills.size]; exact hnext)
        (by rw [hfills.shape.capacity, hfills.size]; exact hnextBounded)
      have hoffset : ub₂.offset = ub.offset + chunk.length := outputDevice_regular.offset hcall
      rw [hfills.shape.offset] at hin₂
      -- the next slot is opened, and the rest is put from there on
      obtain ⟨b, rest, rfl⟩ : ∃ b bs, rest = b :: bs := by
        rw [List.length_append] at hlong
        exact List.exists_cons_of_length_pos (by omega)
      have hchain : Puts outputDevice (b :: rest) (stream.storeSlotBytes n k chunk) ub₂ stream'
          ub' := by
        cases hrest with
        | byte hok hlt =>
          rw [h.final, h.iterator] at hlt
          dsimp only at hlt
          omega
        | chain hok hfull hcall' hroom hrest =>
          rw [hcall] at hcall'
          cases hcall'
          exact hrest
      have htotal : (payloads stream n k (count + 1)).length = stream.slotSize n - k +
          (payloads stream (n + 1) (stream.offset.toNat + 4) count).length := by
        rw [payloads_succ, List.length_append, ReliableStream.bytesFrom_length]
      have hsame : (payloads (stream.storeSlotBytes n k chunk) (n + 1) (stream.offset.toNat + 4)
          count).length = (payloads stream (n + 1) (stream.offset.toNat + 4) count).length :=
        payloads_length hfills.size hfills.shape.offset _ _ _
      rw [htotal, List.length_append, hchunk] at hlength ⊢
      have hnextEnds := ih hwf₁ hin₂ (by rw [hfills.size]; exact Nat.le_of_lt hnext)
        (by rw [hfills.shape.capacity, hfills.size]; exact hnextBounded)
        (fun i hi hle => by
          rw [hfills.shape.offset, hfills.size, hfills.shape.capacity,
            show n + 1 + i = n + (i + 1) by omega]
          exact hslots (i + 1) (Nat.succ_pos i) (Nat.succ_le_succ hle))
        (fun i hi => by
          rw [hfills.size, show n + 1 + i = n + (i + 1) by omega]
          exact haligned (i + 1) (Nat.succ_lt_succ hi))
        (fun hpos => by
          have hsize := haligned 1 (Nat.succ_lt_succ hpos)
          have hwhole := hwf.offset_aligned
          rw [hfills.size, hoffset, hchunk]
          omega)
        (b :: rest) stream' ub' (by rw [hsame]; omega) hchain
      rw [hsame] at hnextEnds
      rw [show stream.slotSize n - k +
          (payloads stream (n + 1) (stream.offset.toNat + 4) count).length -
            (stream.slotSize n - k + (b :: rest).length) =
          (payloads stream (n + 1) (stream.offset.toNat + 4) count).length - (b :: rest).length by
        omega]
      exact hnextEnds
    · -- the bytes are in the first slot, whose end is at a multiple of four
      obtain ⟨hiterator, hfinal⟩ := hputs.within (by rw [h.iterator, h.final]; omega)
      right
      rw [hiterator, hfinal, hputs.offset outputDevice_regular, h.iterator, h.final]
      omega

/-- The blocks in which room is granted in a reliable stream end at multiples of four, or behind all
of the submessage. -/
theorem Tracks.endsAligned {H : Nat} {stream stream₁ : OutputReliableStream} {win : OutputWindow H}
    (h : Tracks stream win) (hcapacity : getReliableBufferCapacity stream.base % 4 = 0)
    {length : Nat} {ub ub₁ : UcdrBuffer}
    (hgranted : prepareReliableBufferToWrite stream length ub = (true, stream₁, ub₁)) :
    EndsAligned outputDevice length stream₁ ub₁ := by
  rcases prepareReliableBufferToWrite_cases h length ub with hrefused | ⟨n, hgrants⟩ |
    ⟨first, written, hgrants⟩
  · rw [hgranted] at hrefused
    cases hrefused
  · have hub := congrArg (fun r => r.2.2) (hgranted.symm.trans hgrants.result)
    dsimp only at hub
    rw [hub, LawfulMicroCdr.init]
    refine endsAligned_within ?_
    dsimp only
    omega
  · rw [hgranted] at hgrants
    have htracks := hgrants.tracks
    have hrw := hgrants.rewrites
    have hwrites := hgrants.writes
    obtain ⟨count, rfl⟩ := Nat.exists_eq_add_of_le (Nat.le_of_lt hwrites.lt)
    obtain ⟨-, hin, hpayloads, hslots⟩ :=
      fragmented_of_writes h hgrants.start hgrants.inWindow hrw hwrites htracks.lastWritten
    have hfull (i : Nat) (hi : i < count) :=
      (hwrites.full (first + i) (Nat.le_add_right _ _) (Nat.add_lt_add_left hi _)).1
    have hfirst := hwrites.full first (Nat.le_refl _) hwrites.lt
    have hbuffer : ub₁ = _ := hwrites.buffer
    have hoffset : ub₁.offset = 0 := by
      rw [hbuffer, ucdrInitBuffer, LawfulMicroCdr.init]
      rfl
    rw [← hpayloads]
    refine endsAligned_payloads htracks.formed hin (Nat.le_of_lt hfirst.2.room)
      (htracks.bounded first) (fun i hi hle => ⟨hslots i hi hle, htracks.bounded _⟩) ?_ ?_
    · intro i hi
      rw [hfull i hi]
      exact hcapacity
    · intro hpos
      have hbehind : headerStart (stream.slotSize first) % 4 = 0 := by
        rw [headerStart]
        omega
      rw [hoffset, hfirst.1]
      omega

/-! ## The device of a stream -/

/-- The callback of a stream goes on counting, in the byte order of the machine. -/
theorem streamDevice_continues (streamId : StreamId) : (streamDevice streamId).Continues where
  offset _ _ _ _ hcall := (streamDevice_regular streamId).offset hcall
  endianness := by
    intro streams ub streams₁ ub₁ hcall
    obtain ⟨-, stream₁, hcalled, -⟩ := streamDevice_onFull_iff.mp hcall
    rw [outputDevice] at hcalled
    dsimp only at hcalled
    split at hcalled
    · rw [onFullOutputBuffer, ucdrInitBufferOrigin, LawfulMicroCdr.init] at hcalled
      cases hcalled
      rfl
    · cases hcalled
  lastDataSize _ ub _ _ last hcall :=
    (streamDevice_regular streamId).marked hcall ub.endianness last

omit [LawfulMicroCdr] in
theorem streamDevice_storesBack (streamId : StreamId) : (streamDevice streamId).StoresBack := by
  have hsame (memory : Memory) (a : Nat) : write memory a [memory a] = memory :=
    write_read_self memory a 1
  intro streams a
  cases htype : streamId.type with
  | noneStream => simp [streamDevice, writeStream, htype]
  | bestEffortStream => simp [streamDevice, writeStream, htype, hsame]
  | reliableStream =>
    simp [streamDevice, writeStream, htype, hsame, StreamStorage.setOutputReliable]

/-! ## Behind a header -/

section

variable {σ : Type} {dev : Device σ}

/-- Integers without padding in front of them leave the byte order of the machine. -/
theorem ucdrSerialize_machine (hdev : dev.Regular) (hcontinues : dev.Continues) {s s' : σ}
    {ub ub' : UcdrBuffer} {k v : Nat} {e : Endianness} (hk : k ∈ [1, 2, 4, 8])
    (hle : ub.iterator ≤ ub.final) (h : Puts dev (encodeScalar e k v) s ub s' ub') {last : Nat}
    (hpad : (ub.marked machineEndianness last).padding k = 0) :
    ucdrSerialize dev s (ub.marked machineEndianness last) e k v =
      (true, s', ub'.marked machineEndianness k) := by
  have halign : ucdrAlignTo (ub.marked machineEndianness last) k =
      ub.marked machineEndianness k := by
    rw [LawfulMicroCdr.alignTo (ub.marked machineEndianness last) k hk hle, hpad, Nat.add_zero,
      Nat.add_zero]
    exact congrArg (fun iterator => { ub.marked machineEndianness k with iterator })
      (Nat.min_eq_left hle)
  obtain ⟨e', last', hputs⟩ := h.marked hdev machineEndianness k
  have hmachine : e' = machineEndianness := hputs.endianness hcontinues rfl
  rw [← halign] at hputs
  have hrun := LawfulMicroCdr.serialize e hk (by rw [hpad]; exact hle) hputs
  rw [hmachine] at hrun
  exact hrun

/-- Behind a header the buffer is in the byte order of the machine. -/
theorem bufferSubmessageHeader_machine (hdev : dev.Regular) (hcontinues : dev.Continues) {s s' : σ}
    {ub ub' : UcdrBuffer} {submessageId flags : UInt8} {length : UInt16}
    (haligned : ub.offset % 4 = 0) (hle : ub.iterator ≤ ub.final)
    (h : Puts dev (submessageHeaderBytes submessageId length flags) s ub s' ub') :
    (bufferSubmessageHeader dev s ub submessageId length flags).2 =
      (s', ub'.marked machineEndianness 2) := by
  have hpadding : ub.padding 4 = 0 := by
    rw [UcdrBuffer.padding, haligned]
    split <;> rfl
  have halign : ucdrAlignTo ub 4 = ub.marked ub.endianness 4 := by
    rw [LawfulMicroCdr.alignTo ub 4 (by simp) hle, hpadding, Nat.add_zero, Nat.add_zero,
      Nat.min_eq_left hle]
    rfl
  obtain ⟨s₂, ub₂, hfront, hlength⟩ := h.split
  obtain ⟨s₁, ub₁, hid, hflags⟩ := hfront.split
  have hle₁ := hid.le hle
  have hle₂ := hflags.le hle₁
  have hoffset : ub₂.offset % 2 = 0 := by
    rw [hflags.offset hdev, hid.offset hdev, encodeScalar_length, encodeScalar_length]
    omega
  have hid := ucdrSerialize_machine hdev hcontinues (by simp) hle hid
    (show (ub.marked machineEndianness 4).padding 1 = 0 by simp [UcdrBuffer.padding, Nat.mod_one])
  rw [encodeScalar_byte, ← encodeScalar_byte machineEndianness] at hflags
  have hflags := ucdrSerialize_machine hdev hcontinues (by simp) hle₁ hflags
    (show (ub₁.marked machineEndianness 1).padding 1 = 0 by
      simp [UcdrBuffer.padding, Nat.mod_one])
  have hlength := ucdrSerialize_machine hdev hcontinues (by simp) hle₂ hlength
    (show (ub₂.marked machineEndianness 1).padding 2 = 0 by
      simp [UcdrBuffer.padding, UcdrBuffer.marked, hoffset])
  rw [bufferSubmessageHeader, halign]
  show serializeSubmessageHeader dev s (ub.marked machineEndianness 4) submessageId
      (flags ||| machineEndianness.value) length = _
  rw [serializeSubmessageHeader]
  simp only [UcdrBuffer.marked_endianness, hid, hflags, hlength]

end

/-! ## What is granted -/

section

variable {streamId : StreamId} {st : PackingState} {box : Outbox PackedSubmessage}
  {streams : StreamStorage} {ub : UcdrBuffer} {id mode : UInt8} {n : Nat}

/-- The slots of a reliable stream are multiples of four. -/
def SlotsAligned (streams : StreamStorage) (streamId : StreamId) : Prop :=
  streamId.type = .reliableStream →
    getReliableBufferCapacity (streams.outputReliable streamId.index).base % 4 = 0

theorem Holding.endsAligned (h : Holding streamId st box)
    (hslots : SlotsAligned st.streams streamId)
    (hgranted : prepareStreamToWriteSubmessage st.streams streamId n = some (streams, ub)) :
    EndsAligned (streamDevice streamId) (submessageSize n) streams ub := by
  cases h with
  | bestEffort htype hqueued hapart =>
    have hprepared := prepareStreamToWriteSubmessage_bestEffort htype hgranted
    obtain ⟨-, -, -, hiterator, hfinal, -⟩ := prepareBestEffortBufferToWrite_eq hqueued hprepared
    refine endsAligned_within ?_
    rw [hiterator, hfinal]
  | reliable htype win hqueued hapart =>
    have hprepared := prepareStreamToWriteSubmessage_reliable htype hgranted
    exact (hqueued.tracks.endsAligned (hslots htype) hprepared).lift (streamDevice_reliable htype)

/-- The four bytes of the header are put where room was made, at a multiple of four. -/
theorem Holding.behind_header (h : Holding streamId st box)
    (hgranted : bufferSubmessage st.streams streamId n id mode = some (streams, ub)) :
    ∃ streams₁ ub₁ ub₂, prepareStreamToWriteSubmessage st.streams streamId n =
        some (streams₁, ub₁) ∧
      Puts (streamDevice streamId) (submessageHeaderBytes id (UInt16.ofNat n) mode) streams₁ ub₁
        streams ub₂ ∧
      ub₁.iterator ≤ ub₁.final ∧ ub₁.offset % 4 = 0 ∧ ub = ub₂.marked machineEndianness 2 := by
  obtain ⟨⟨streams₁, ub₁⟩, hprepared, hheader⟩ := Option.map_eq_some_iff.mp hgranted
  dsimp only at hheader
  have haligned := h.aligned hprepared
  obtain ⟨payload, hpayload⟩ : ∃ payload : List UInt8, payload.length = n :=
    ⟨List.replicate n 0, List.length_replicate⟩
  subst hpayload
  obtain ⟨streams', ub', -, hputs, -⟩ := h.grant id mode hprepared
  obtain ⟨streams₂, ub₂, hfront, -⟩ := hputs.split
  have hle := hfront.before (List.ne_nil_of_length_eq_add_one (submessageHeaderBytes_length _ _ _))
  rw [bufferSubmessageHeader_machine (streamDevice_regular streamId)
    (streamDevice_continues streamId) haligned hle hfront] at hheader
  obtain ⟨rfl, rfl⟩ := Prod.mk.inj hheader
  exact ⟨streams₁, ub₁, ub₂, hprepared, hfront, hle, haligned, rfl⟩

/-- Behind the header of a submessage there is room for its payload, from a multiple of four on. -/
theorem Holding.writable (h : Holding streamId st box)
    (hgranted : bufferSubmessage st.streams streamId n id mode = some (streams, ub)) :
    Writable (streamDevice streamId) n streams ub ∧ ub.offset % 4 = 0 := by
  have hroom : HasRoom (streamDevice streamId) n streams ub := by
    intro bytes hlength
    subst hlength
    obtain ⟨streams', ub', -, hputs, -⟩ := h.write hgranted
    exact ⟨streams', ub', hputs⟩
  obtain ⟨streams₁, ub₁, ub₂, hprepared, hfront, hle, haligned, rfl⟩ := h.behind_header hgranted
  refine ⟨⟨hroom, hfront.le hle, rfl⟩, ?_⟩
  show ub₂.offset % 4 = 0
  rw [hfront.offset (streamDevice_regular streamId), submessageHeaderBytes_length]
  omega

/-- Where slots are multiples of four, no padding of the payload is at the end of one. -/
theorem Holding.paddingKept (h : Holding streamId st box) (hslots : SlotsAligned st.streams streamId)
    (hgranted : bufferSubmessage st.streams streamId n id mode = some (streams, ub))
    {fields : List Field}
    (hwidth : ∀ width value, Field.scalar width value ∈ fields → width ∈ [1, 2, 4])
    (hsize : laidSize ub.offset ub.lastDataSize fields ≤ n) :
    PaddingKept (streamDevice streamId) fields streams ub := by
  have hdev := streamDevice_regular streamId
  obtain ⟨hwritable, -⟩ := h.writable hgranted
  obtain ⟨streams₁, ub₁, ub₂, hprepared, hfront, hle, haligned, rfl⟩ := h.behind_header hgranted
  have hfour := submessageHeaderBytes_length id (UInt16.ofNat n) mode
  have hsubmessage : 4 + n ≤ submessageSize n := Nat.le_add_right _ _
  have hends := (h.endsAligned hslots hprepared).behind hdev hfront (by omega) machineEndianness 2
  exact (hends.mono (by omega)).paddingKept hdev hwidth hwritable.le hsize

/-- The slots of a stream stay as they are. -/
theorem Holding.slotsAligned {st' : PackingState} {events : List PackingEvent}
    (h : Holding streamId st box) (hslots : SlotsAligned st.streams streamId)
    (hstep : PackingStep streamId st events st') : SlotsAligned st'.streams streamId := by
  intro htype
  have hcapacity := hslots htype
  cases hstep with
  | write id mode payload hgranted hwritten =>
    obtain ⟨⟨streams₁, ub₁⟩, hprepared, hheader⟩ := Option.map_eq_some_iff.mp hgranted
    have haligned := h.aligned hprepared
    cases h with
    | bestEffort htype' => exact absurd (htype.symm.trans htype') (by decide)
    | reliable _ win hqueued hapart =>
      have hroom := prepareStreamToWriteSubmessage_reliable htype hprepared
      obtain ⟨stream', first, item, items, win', haccommodates⟩ :=
        hqueued.tracks.accommodates id mode hroom
      obtain ⟨ub', hputs⟩ := haccommodates.puts
      obtain ⟨streams', rfl, hlifted⟩ := Puts.lift (streamDevice_reliable htype) hputs
      obtain ⟨ub₂, hpayload⟩ := hlifted.behind_header (streamDevice_regular streamId) haligned
      dsimp only at hheader
      rw [hheader] at hpayload
      obtain ⟨rfl, rfl⟩ := hwritten.deterministic hpayload
      rw [haccommodates.shape.capacity]
      exact hcapacity
  | refused => exact hcapacity
  | sendBestEffort htype' => exact absurd (htype.symm.trans htype') (by decide)
  | @sendReliable stream stream' next _ hstream hsent =>
    have hbase : stream'.base = stream.base := by
      have hsame := congrArg (fun r => r.2.1) hsent
      rw [← show _ = stream' from hsame, prepareNextReliableBufferToSend]
      dsimp only
      split
      · rfl
      · rfl
    rw [StreamStorage.setOutputReliable_self, hbase, ← hstream]
    exact hcapacity
  | @acknack stream bitmap firstUnackedSeqNum _ hstream hrange =>
    rw [StreamStorage.setOutputReliable_self]
    show getReliableBufferCapacity (cleanBuffers _ stream).base % 4 = 0
    rw [(sameShape_cleanBuffers _ stream).capacity, ← hstream]
    exact hcapacity

end

end

end XrceClient
