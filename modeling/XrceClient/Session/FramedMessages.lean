import XrceClient.Session.FragmentExtent
import XrceClient.Session.FramedReading

/-!
# A fragmented message in its slots

A message that is given to the reader lies in the slots behind the last handled one. It is read
within them exactly if its submessages lie in its fragments.

- `InputReliableStream.messageUpTo`: the fragments of the message.
- `GivesFragments.readsRest`: what the reader is given is what is left of them.
- `message_reading_framed`: where the submessages lie in the fragments no other slot is read, and
  where the fragments run out another one is.
-/

namespace XrceClient

open ByteMemory

/-! ## The message in the ring -/

/-- The message in the slots behind the last handled one, up to a fragment. -/
def InputReliableStream.messageUpTo (stream : InputReliableStream) (last : SeqNum) :
    FragmentedMessage where
  fragments := (List.range (Serial.dist stream.lastHandled last)).map fun i =>
    let q := seqNumAdd stream.lastHandled (UInt16.ofNat (i + 1))
    stream.base.bytesFrom q 0 (getReliableBufferSize stream.base q)
  stride := stream.base.stride
  history := stream.base.history.toNat

section

variable {stream stream' : InputReliableStream} {nextMb : UcdrBuffer}

theorem messageUpTo_length (last : SeqNum) :
    (stream.messageUpTo last).fragments.length = Serial.dist stream.lastHandled last := by
  rw [InputReliableStream.messageUpTo, List.length_map, List.length_range]

/-- The slots of the message. -/
theorem messageUpTo_slots (hwf : stream.base.WellFormed) (last : SeqNum) (p : Nat) :
    MessageSlots stream last p ↔
      (stream.messageUpTo last).Slots (stream.lastHandled.toNat + 1) p := by
  rw [messageSlots_iff hwf, FragmentedMessage.Slots, messageUpTo_length]
  have hcount (i : Nat) :
      stream.lastHandled.toNat + 1 + i = stream.lastHandled.toNat + (i + 1) := by
    omega
  simp only [hcount]
  rfl

theorem messageUpTo_get {last : SeqNum} {i : Nat} {fragment : List UInt8}
    (h : (stream.messageUpTo last).fragments[i]? = some fragment) :
    fragment = stream.base.bytesFrom (UInt16.ofNat (stream.lastHandled.toNat + 1 + i)) 0
      (getReliableBufferSize stream.base (UInt16.ofNat (stream.lastHandled.toNat + 1 + i))) := by
  rw [InputReliableStream.messageUpTo, List.getElem?_map] at h
  obtain ⟨j, hj, rfl⟩ := Option.map_eq_some_iff.mp h
  obtain ⟨hlt, rfl⟩ := List.getElem?_eq_some_iff.mp hj
  rw [List.getElem_range, seqNumAdd_eq_ofNat,
    show stream.lastHandled.toNat + (i + 1) = stream.lastHandled.toNat + 1 + i by omega]

variable [MicroCdr]

/-- When the message is given to the reader, its fragments are in the ring. -/
theorem GivesFragments.holds (hwf : stream.base.WellFormed)
    (h : GivesFragments stream stream' nextMb)
    (hfew : (stream.messageUpTo stream'.lastHandled).fragments.length ≤
      (stream.messageUpTo stream'.lastHandled).history) :
    HoldsFragments (stream.messageUpTo stream'.lastHandled) (stream.lastHandled.toNat + 1) 0
      stream' := by
  have hfirst : seqNumAdd stream.lastHandled 1 = UInt16.ofNat (stream.lastHandled.toNat + 1) :=
    seqNumAdd_eq_ofNat stream.lastHandled 1
  refine ⟨h.wellFormed hwf, h.stride, congrArg UInt16.toNat h.history, hfew,
    fun i fragment hi hfragment => ?_, fun i fragment hfragment hfits => ?_⟩
  · have hlt := Nat.lt_of_lt_of_le (List.getElem?_eq_some_iff.mp hfragment).1 hfew
    have hne : stream.base.slot (UInt16.ofNat (stream.lastHandled.toNat + 1 + i)) ≠
        stream.base.slot (seqNumAdd stream.lastHandled 1) := by
      rw [hfirst, hwf.slot_ofNat, hwf.slot_ofNat]
      intro heq
      have hmod : stream.lastHandled.toNat + 1 + i ≡ stream.lastHandled.toNat + 1 + 0
          [MOD stream.base.history.toNat] := heq
      have hzero := Nat.ModEq.add_left_cancel' _ hmod
      rw [Nat.ModEq, Nat.zero_mod] at hzero
      exact Nat.ne_of_gt hi ((Nat.mod_eq_of_lt hlt).symm.trans hzero)
    rw [h.base, ReliableStream.getReliableBufferSize_set_other (Nat.le_of_lt hwf.stride) hne,
      messageUpTo_get hfragment, ReliableStream.bytesFrom_length]
  · have hget := messageUpTo_get hfragment
    have hlength := congrArg List.length hget
    rw [ReliableStream.bytesFrom_length] at hlength
    rw [h.base, hlength, ReliableStream.bytesFrom_set, ← hget]
    rw [Nat.add_zero, ← hlength, Nat.add_comm]
    exact hfits

/-- The reader is given the first fragment. -/
theorem GivesFragments.first [LawfulMicroCdr] (hwf : stream.base.WellFormed)
    (h : GivesFragments stream stream' nextMb) {fragment : List UInt8}
    (hfragment : (stream.messageUpTo stream'.lastHandled).fragments[0]? = some fragment)
    (hpayload : subheaderSize ≤ fragment.length)
    (hfits : fragment.length + 4 ≤ (stream.messageUpTo stream'.lastHandled).stride) :
    OverBuffer (stream.messageUpTo stream'.lastHandled) (stream.lastHandled.toNat + 1) stream'
      nextMb ((stream.messageUpTo stream'.lastHandled).copy (Rest.behindSubheader fragment)) := by
  have hfirst : seqNumAdd stream.lastHandled 1 = UInt16.ofNat (stream.lastHandled.toNat + 1) :=
    seqNumAdd_eq_ofNat stream.lastHandled 1
  have hget := messageUpTo_get hfragment
  rw [Nat.add_zero, ← hfirst] at hget
  have hsize : fragment.length =
      getReliableBufferSize stream.base (seqNumAdd stream.lastHandled 1) :=
    (congrArg List.length hget).trans (ReliableStream.bytesFrom_length _ _ _)
  have hsmall := @ReliableStream.getReliableBufferSize_lt stream.base
    (seqNumAdd stream.lastHandled 1)
  have hfour : subheaderSize = 4 := rfl
  have hstride := hwf.stride
  have hlength : (fragment.drop subheaderSize).length = fragment.length - 4 := List.length_drop
  have hslot : stream.base.slot (seqNumAdd stream.lastHandled 1) =
      (stream.lastHandled.toNat + 1) % stream.base.history.toNat := by
    rw [hfirst, hwf.slot_ofNat]
  change fragment.length + 4 ≤ stream.base.stride at hfits
  -- the payload lies behind the size and the subheader
  have hread : read stream'.base.buffer
      (stream.base.slot (seqNumAdd stream.lastHandled 1) * stream.base.stride + 8)
      (fragment.length - 4) = fragment.drop subheaderSize := by
    have hkept : stream'.base.bytesFrom (seqNumAdd stream.lastHandled 1) 0 fragment.length =
        fragment := by
      rw [h.base, ReliableStream.bytesFrom_set (by omega), hsize]
      exact hget.symm
    rw [ReliableStream.bytesFrom, ReliableStream.getReliableBuffer_eq, h.base] at hkept
    have hbehind := read_drop stream'.base.buffer
      (stream.base.slot (seqNumAdd stream.lastHandled 1) * stream.base.stride + 4)
      fragment.length 4
    rw [h.base] at hbehind ⊢
    exact hbehind.symm.trans (congrArg (List.drop 4) hkept)
  -- a buffer over the whole slot, of which the reader is given a copy
  generalize hstart : stream.base.slot (seqNumAdd stream.lastHandled 1) * stream.base.stride = start
    at hread
  let whole : UcdrBuffer :=
    { init := start, iterator := start + 8, final := start + 8 + (fragment.length - 4), offset := 0,
      lastDataSize := 0, endianness := machineEndianness, error := false,
      onFullBuffer := some .onFullInputBuffer }
  have hwhole : Over (stream.messageUpTo stream'.lastHandled) (stream.lastHandled.toNat + 1) stream'
      whole (Rest.behindSubheader fragment) := by
    have hdiv : start / stream.base.stride = stream.base.slot (seqNumAdd stream.lastHandled 1) := by
      rw [← hstart, Nat.mul_div_cancel _ (by omega)]
    have hbytes : (Rest.behindSubheader fragment).bytes = fragment.drop subheaderSize := rfl
    refine ⟨rfl, Option.some_ne_none _, ?_, ?_, ?_, ?_, ?_, ?_, rfl, rfl⟩
    · show start / stream.base.stride % stream.base.history.toNat = _ % stream.base.history.toNat
      rw [hdiv, hslot, Nat.mod_mod]
      rfl
    · show start + 8 = start / stream.base.stride * stream.base.stride + 8
      rw [hdiv, hstart]
    · rw [hbytes, hlength]
    · rw [hbytes, hlength]
      show 8 + (fragment.length - 4) ≤ stream.base.stride
      omega
    · rw [hbytes, hlength]
      exact hread
    · rw [hbytes, hlength]
      omega
  have hmb : nextMb = whole.rebase (some .onFullInputBuffer) := by
    have hfinal : whole.final - whole.iterator = fragment.length - 4 := Nat.add_sub_cancel_left _ _
    rw [h.eq.2, UcdrBuffer.rebase, hfinal, ReliableStream.getReliableBuffer_eq, hstart, ← hsize,
      show (fragment.length + 2 ^ 32 - 4) % 2 ^ 32 = (fragment.length - 4) % 2 ^ 32 by omega]
  have hpos : 0 < (stream.messageUpTo stream'.lastHandled).stride := by
    show 0 < stream.base.stride
    omega
  have hcopy := hwhole.copy hpos (Option.some_ne_none OnFullBuffer.onFullInputBuffer)
  rw [hmb]
  refine ⟨hcopy, ?_⟩
  rw [UcdrBuffer.rebase, ucdrInitBuffer, LawfulMicroCdr.init]
  rfl

/-- The reader starts in the first slot of the message. -/
theorem GivesFragments.inSlot [LawfulMicroCdr]
    (h : GivesFragments stream stream' nextMb) {fragment : List UInt8}
    (hfragment : (stream.messageUpTo stream'.lastHandled).fragments[0]? = some fragment)
    (hpayload : subheaderSize ≤ fragment.length)
    (hfits : fragment.length + 4 ≤ (stream.messageUpTo stream'.lastHandled).stride) :
    InSlot (MessageSlots stream stream'.lastHandled) stream'.base.stride nextMb := by
  have hfirst : seqNumAdd stream.lastHandled 1 = UInt16.ofNat (stream.lastHandled.toNat + 1) :=
    seqNumAdd_eq_ofNat stream.lastHandled 1
  have hsize := congrArg List.length (messageUpTo_get hfragment)
  rw [ReliableStream.bytesFrom_length, Nat.add_zero, ← hfirst] at hsize
  have hsmall := @ReliableStream.getReliableBufferSize_lt stream.base
    (seqNumAdd stream.lastHandled 1)
  have hfour : subheaderSize = 4 := rfl
  have hinside := (List.getElem?_eq_some_iff.mp hfragment).1
  rw [messageUpTo_length] at hinside
  change fragment.length + 4 ≤ stream.base.stride at hfits
  refine ⟨stream.base.slot (seqNumAdd stream.lastHandled 1), ⟨0, hinside, rfl⟩, ?_⟩
  rw [h.eq.2, ucdrInitBuffer, LawfulMicroCdr.init, ReliableStream.getReliableBuffer_eq, ← hsize,
    h.stride, Nat.succ_mul]
  show _ ≤ _ + 4 + 4 + 0 ∧ _ + 4 + 4 + 0 ≤ _ + 4 + 4 + _ ∧ _ + 4 + 4 + _ ≤ _
  omega

/-- What the reader is given is what is left of the message. -/
theorem GivesFragments.readsRest [LawfulMicroCdr] (hwf : stream.base.WellFormed)
    (h : GivesFragments stream stream' nextMb)
    (hfew : (stream.messageUpTo stream'.lastHandled).fragments.length ≤
      (stream.messageUpTo stream'.lastHandled).history) {fragment : List UInt8}
    (hfragment : (stream.messageUpTo stream'.lastHandled).fragments[0]? = some fragment)
    (hpayload : subheaderSize ≤ fragment.length)
    (hfits : fragment.length + 4 ≤ (stream.messageUpTo stream'.lastHandled).stride) :
    ReadsRest (stream.messageUpTo stream'.lastHandled) (stream.lastHandled.toNat + 1)
      (stream', { ub := nextMb, outer := none })
      { buffer := (stream.messageUpTo stream'.lastHandled).copy (Rest.behindSubheader fragment)
        outer := none
        cleanupFlag := stream'.cleanupFlag } where
  flag := rfl
  holds := (h.holds hwf hfew).mono (Nat.zero_le _)
  le := Nat.le_refl _
  buffer := h.first hwf hfragment hpayload hfits
  outer := .none

variable {shiftBeyond : Nat → UInt16} {config : ReadConfig} {fuel : Nat} {streamId : StreamId}

/-- Within the fragments the reader comes to its end, and where they run out it asks for another
slot. -/
theorem GivesFragments.reads [LawfulMicroCdr] (hwf : stream.base.WellFormed)
    (h : GivesFragments stream stream' nextMb)
    (hfew : (stream.messageUpTo stream'.lastHandled).fragments.length <
      (stream.messageUpTo stream'.lastHandled).history) :
    ((stream.messageUpTo stream'.lastHandled).extent config fuel streamId = .ok () →
      Contained config fuel streamId (MessageSlots stream stream'.lastHandled) stream' nextMb) ∧
    ((stream.messageUpTo stream'.lastHandled).extent config fuel streamId = .error .runsOut →
      Escapes config fuel streamId (MessageSlots stream stream'.lastHandled) stream' nextMb) := by
  have hown := messageUpTo_slots hwf stream'.lastHandled
  have hstride := h.stride
  rw [FragmentedMessage.extent, if_neg (Nat.not_le.mpr hfew)]
  cases hfragments : (stream.messageUpTo stream'.lastHandled).fragments with
  | nil =>
    constructor
    · intro hok
      cases hok
    · intro hruns
      cases hruns
  | cons fragment fragments =>
    dsimp only
    split
    · next husable =>
      have hfragment : (stream.messageUpTo stream'.lastHandled).fragments[0]? = some fragment := by
        rw [hfragments]
        rfl
      have hslot := h.inSlot hfragment husable.1 husable.2
      have hstart := h.readsRest hwf (Nat.le_of_lt hfew) hfragment husable.1 husable.2
      have hgoes := @readSubmessagesFrom_goes _ (stream.messageUpTo stream'.lastHandled)
        ((stream.messageUpTo stream'.lastHandled).copy (Rest.behindSubheader fragment)) config
        streamId fuel { id := 0, length := 0, flags := 0 } (.inl (show 0 < 4 by decide))
        stream'.cleanupFlag
      refine ⟨fun hok => ⟨hslot, ?_⟩, fun hruns => ⟨?_, hslot, ?_⟩⟩
      · rw [hok] at hgoes
        obtain ⟨⟨complete, c⟩, hread⟩ := hgoes
        obtain ⟨t, hattempt, -⟩ := attempt_ok hown hstart hread
        exact ⟨_, hattempt⟩
      · -- a slot without room for a payload gives no header
        by_contra hroom
        have hempty : fragment.drop subheaderSize = [] := by
          have hfits := husable.2
          change fragment.length + 4 ≤ stream.base.stride at hfits
          rw [hstride] at hroom
          refine List.drop_eq_nil_of_le ?_
          show _ ≤ 4
          omega
        cases fuel with
        | zero => cases hruns
        | succ fuel =>
          rw [FragmentedMessage.extentFrom] at hruns
          split at hruns
          · next heq =>
            have hlength := (Rest.header_some heq).2
            change 4 ≤ (fragment.drop subheaderSize).length at hlength
            rw [hempty] at hlength
            cases hlength
          · cases hruns
      · rw [hruns] at hgoes
        exact attempt_runsOut hown hstart hgoes
    · constructor
      · intro hok
        cases hok
      · intro hruns
        cases hruns

end

/-- The reliable stream 0. -/
def reliableStream : StreamId := streamIdFromRaw 0x80 .inputStream

end XrceClient
