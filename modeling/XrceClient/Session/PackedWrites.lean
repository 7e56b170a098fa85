import XrceClient.Base.Outbox
import XrceClient.Session.Packing
import XrceClient.Stream.DeviceWrites
import XrceClient.Stream.FlushedWindow
import XrceClient.Stream.Fragmentation

/-!
# What a write leaves in the slots

A submessage goes into an output reliable stream as one item of a message, or as FRAGMENT
submessages, one a message.

- `Pieces`: the items that a submessage becomes.
- `Packs.slot`: the slot of a message with one more submessage in it.
- `Accommodates`: what is known of a stream when a submessage is written to it: the items, where
  they are, and which addresses the user was granted.
- `accommodates_slot`, `accommodates_fragments`: so it is in one slot, and in several.
-/

namespace XrceClient

open ByteMemory OutputReliableStream

/-! ## One more submessage in a slot -/

/-- What the slot of the `n`-th message holds behind the header of the message. -/
def OutputReliableStream.contents (stream : OutputReliableStream) (n : Nat) : List UInt8 :=
  stream.base.bytesFrom (UInt16.ofNat n) stream.offset.toNat
    (stream.slotSize n - stream.offset.toNat)

/-- Bytes of a slot, one after the other. -/
theorem ReliableStream.bytesFrom_append (stream : ReliableStream) (q : UInt16) (k n m : Nat) :
    stream.bytesFrom q k (n + m) = stream.bytesFrom q k n ++ stream.bytesFrom q (k + n) m := by
  rw [bytesFrom, read_append, bytesFrom, bytesFrom, Nat.add_assoc]

/-- Equal bytes of a slot are equal in every part. -/
theorem ReliableStream.bytesFrom_within {stream stream' : ReliableStream} {q : UInt16} {size : Nat}
    (h : stream'.bytesFrom q 0 size = stream.bytesFrom q 0 size) {k n : Nat} (hle : k + n ≤ size) :
    stream'.bytesFrom q k n = stream.bytesFrom q k n := by
  rw [bytesFrom, bytesFrom, Nat.add_zero, Nat.add_zero] at h
  rw [bytesFrom, bytesFrom, read_within _ _ hle, read_within _ _ hle, h]

section

variable [MicroCdr] {stream stream' : OutputReliableStream} {n : Nat} {id flags : UInt8}
  {payload : List UInt8} {message : List PackedSubmessage}

/-- A submessage behind the alignment of what a slot holds. -/
theorem Packs.slot (h : Packs (stream.contents n) message) (hoffset : stream'.offset = stream.offset)
    (haligned : stream.offset.toNat % 4 = 0) (hle : stream.offset.toNat ≤ stream.slotSize n)
    (hlength : payload.length < 65536)
    (hkept : stream'.base.bytesFrom (UInt16.ofNat n) 0 (stream.slotSize n) =
      stream.base.bytesFrom (UInt16.ofNat n) 0 (stream.slotSize n))
    (hbytes : stream'.base.bytesFrom (UInt16.ofNat n) (headerStart (stream.slotSize n))
      (4 + payload.length) =
        submessageHeaderBytes id (UInt16.ofNat payload.length) flags ++ payload)
    (hroom : headerStart (stream.slotSize n) + 4 + payload.length ≤ stream'.slotSize n)
    (hclose : stream'.slotSize n ≤
      headerStart (stream.slotSize n) + 4 + payload.length + alignment payload.length) :
    Packs (stream'.contents n) (message ++ [{ id, flags := otherFlags flags, payload }]) := by
  obtain ⟨held, hheld⟩ := Nat.exists_eq_add_of_le hle
  have hcontents : stream.slotSize n - stream.offset.toNat = held := by
    rw [hheld, Nat.add_sub_cancel_left]
  have hstart : headerStart (stream.slotSize n) =
      stream.offset.toNat + (held + alignment held) := by
    rw [headerStart, alignment, hheld]
    omega
  have hsame := ReliableStream.bytesFrom_within hkept
    (show stream.offset.toNat + held ≤ stream.slotSize n by omega)
  rw [contents, ReliableStream.bytesFrom, hcontents] at h
  rw [contents, ReliableStream.bytesFrom, hoffset]
  rw [hstart, ReliableStream.bytesFrom, ← Nat.add_assoc] at hbytes
  rw [hstart] at hroom hclose
  exact h.behind hlength hsame hbytes (by omega) (by omega)

/-- A fragment behind the alignment of what a slot holds. -/
theorem FragmentAt.packs (hfragment : FragmentAt stream stream' (UInt16.ofNat n) flags)
    (h : Packs (stream.contents n) message) (hoffset : stream'.offset = stream.offset)
    (haligned : stream.offset.toNat % 4 = 0) (hle : stream.offset.toNat ≤ stream.slotSize n)
    (hcapacity : getReliableBufferCapacity stream.base < 65536) :
    Packs (stream'.contents n) (message ++ [{
      id := SubmessageId.fragment.value
      flags := otherFlags flags
      payload := fragmentPayload stream stream' (UInt16.ofNat n) }]) := by
  have hroom := hfragment.room
  have hbounded := hfragment.bounded
  have hlength : (fragmentPayload stream stream' (UInt16.ofNat n)).length =
      stream'.slotSize n - (headerStart (stream.slotSize n) + 4) := by
    rw [fragmentPayload, ReliableStream.bytesFrom_length]
    rfl
  rw [← slotSize] at hbounded
  rw [← slotSize, ← slotSize] at hroom
  refine h.slot hoffset haligned hle (by omega) hfragment.kept ?_ (by omega) (by omega)
  rw [ReliableStream.bytesFrom_append, hlength]
  exact congrArg (· ++ _) hfragment.header

/-! ## What a submessage becomes -/

/-- The FRAGMENT submessages that carry something in parts. Only the last one has the flag for
it. -/
def fragmentItems (chunks : List (List UInt8)) : List PackedSubmessage :=
  chunks.mapIdx fun i chunk =>
    { id := SubmessageId.fragment.value
      flags := if i + 1 = chunks.length then flagLastFragment else 0
      payload := chunk }

/-- The items that a submessage becomes: one, or FRAGMENT submessages that carry its header, its
payload and the bytes up to the next multiple of four. -/
inductive Pieces (id flags : UInt8) (payload : List UInt8) : List PackedSubmessage → Prop
  | whole (hlength : payload.length < 65536) :
      Pieces id flags payload [{ id, flags := otherFlags flags, payload }]
  | fragments (chunks : List (List UInt8)) (rest : List UInt8) (hmany : 2 ≤ chunks.length)
      (hchunks : ∀ chunk ∈ chunks, chunk ≠ [])
      (hrest : rest.length = submessagePadding payload.length)
      (hflatten : chunks.flatten =
        submessageHeaderBytes id (UInt16.ofNat payload.length) flags ++ payload ++ rest) :
      Pieces id flags payload (fragmentItems chunks)

/-- The bytes that are asked for, for a payload of that length (session.c:1212). -/
def submessageSize (payloadSize : Nat) : Nat :=
  subheaderSize + payloadSize + submessagePadding payloadSize

omit [MicroCdr] in
theorem submessagePadding_eq (payloadSize : Nat) :
    submessagePadding payloadSize = alignment payloadSize := by
  unfold submessagePadding alignment subheaderSize
  split <;> omega

/-- A submessage is written to a stream. The slots from `first` on have its items, the first of
them behind what its slot held, and the addresses that were granted are in these slots, behind
what they held. -/
structure Accommodates {H : Nat} (stream : OutputReliableStream) (win : OutputWindow H)
    (id flags : UInt8) (payload : List UInt8) (granted : OutputReliableStream × UcdrBuffer)
    (stream' : OutputReliableStream) (win' : OutputWindow H) (first : Nat)
    (item : PackedSubmessage) (items : List PackedSubmessage) : Prop where
  puts : ∃ ub', Puts outputDevice
    (submessageHeaderBytes id (UInt16.ofNat payload.length) flags ++ payload) granted.1 granted.2
    stream' ub'
  tracks : Tracks stream' win'
  acked : win'.acked = win.acked
  sent : win'.sent = win.sent
  shape : SameShape stream stream'
  start : first = win.written ∨
    first = win.written + 1 ∧ stream.slotSize first = stream.offset.toNat
  written : win'.written = first + items.length
  inWindow : win'.written ≤ win.acked + H
  untouched : ∀ m, win.acked < m → m < first → OutputReliableStream.Untouched stream stream' m
  pieces : Pieces id flags payload (item :: items)
  front : ∀ message, Packs (stream.contents first) message →
    Packs (stream'.contents first) (message ++ [item])
  others : ∀ i later, items[i]? = some later → Packs (stream'.contents (first + 1 + i)) [later]
  grows : stream.slotSize first ≤ stream'.slotSize first
  region : ∀ a, Reaches outputDevice (submessageSize payload.length) granted.1 granted.2 a →
    ∃ m k, first ≤ m ∧ m ≤ win'.written ∧
      a = getReliableBuffer stream.base (UInt16.ofNat m) + k ∧ k < stream'.slotSize m ∧
      (m = first → stream.slotSize first ≤ k)

variable [LawfulMicroCdr] {H : Nat} {win : OutputWindow H}

omit [LawfulMicroCdr] in
/-- A submessage in a slot that has room for it. -/
theorem accommodates_room (h : Tracks stream win) {stream₁ : OutputReliableStream}
    {ub₁ : UcdrBuffer} (hle : win.written ≤ n) (hwin : n ≤ win.acked + H)
    (hstart : n = win.written ∨ n = win.written + 1 ∧ stream.slotSize n = stream.offset.toNat)
    (hfits : headerStart (stream.slotSize n) + submessageSize payload.length ≤
      getReliableBufferCapacity stream.base)
    (htracks₁ : Tracks stream₁ (win.write n hle hwin)) (hrw₁ : Rewrites stream stream₁ n (n + 1))
    (hsize₁ : stream₁.slotSize n =
      headerStart (stream.slotSize n) + submessageSize payload.length)
    (hkept₁ : stream₁.base.bytesFrom (UInt16.ofNat n) 0 (stream.slotSize n) =
      stream.base.bytesFrom (UInt16.ofNat n) 0 (stream.slotSize n))
    (hok : ub₁.error = false)
    (hiterator : ub₁.iterator = getReliableBuffer stream.base (UInt16.ofNat n) +
      headerStart (stream.slotSize n))
    (hfinal : ub₁.final = ub₁.iterator + submessageSize payload.length) :
    ∃ stream', Accommodates stream win id flags payload (stream₁, ub₁) stream'
      (win.write n hle hwin) n { id, flags := otherFlags flags, payload } [] := by
  obtain ⟨bytes, hbytes⟩ : ∃ bytes, bytes =
      submessageHeaderBytes id (UInt16.ofNat payload.length) flags ++ payload := ⟨_, rfl⟩
  have hlength : bytes.length = 4 + payload.length := by
    rw [hbytes, List.length_append, submessageHeaderBytes_length]
  have hsize : submessageSize payload.length = 4 + payload.length + alignment payload.length := by
    rw [submessageSize, submessagePadding_eq, subheaderSize]
  have hbound := h.formed.capacity_lt
  have hbehind : stream.slotSize n ≤ headerStart (stream.slotSize n) := Nat.le_add_right _ _
  have hfit : headerStart (stream.slotSize n) + bytes.length ≤
      getReliableBufferCapacity stream₁.base := by
    rw [hrw₁.shape.capacity]
    omega
  have hrw := hrw₁.trans (.storeSlotBytes htracks₁.formed n hfit)
  have hsame := slotSize_storeSlotBytes htracks₁.formed n n hfit
  have hputs : Puts outputDevice (bytes ++ []) stream₁ ub₁ _ _ :=
    puts_slot hok (by rw [hrw₁.shape.buffer]; exact hiterator) (by omega) (Puts.nil _ _)
  rw [List.append_nil] at hputs
  refine ⟨stream₁.storeSlotBytes n (headerStart (stream.slotSize n)) bytes, ?_⟩
  refine
    { puts := ⟨_, by rw [← hbytes]; exact hputs⟩
      tracks := tracks_storeSlotBytes htracks₁ n hfit
      acked := rfl
      sent := rfl
      shape := hrw.shape
      start := hstart
      written := rfl
      inWindow := hwin
      untouched := fun m h₁ h₂ => hrw.untouched_before h hwin h₁ h₂
      pieces := .whole (by omega)
      front := fun message hmessage => ?_
      others := fun i later hlater => absurd hlater (by simp)
      grows := by
        rw [hsame, hsize₁]
        omega
      region := fun a hreach => ?_ }
  · refine hmessage.slot hrw.shape.offset h.formed.offset_aligned (h.offset_le n) (by omega) ?_ ?_
      ?_ ?_
    · refine Eq.trans ?_ hkept₁
      exact ReliableStream.bytesFrom_storeBytes_before _ (by omega)
    · rw [← hlength, ← hbytes]
      exact ReliableStream.bytesFrom_storeBytes_same rfl _ _
    · rw [hsame, hsize₁]
      omega
    · rw [hsame, hsize₁]
      omega
  · have hwithin := hreach.within (Nat.le_of_eq hfinal.symm)
    dsimp only at hwithin
    rw [hiterator] at hwithin
    obtain ⟨k, rfl⟩ := Nat.exists_eq_add_of_le (Nat.le_trans (Nat.le_add_right _ _) hwithin.1)
    refine ⟨n, k, Nat.le_refl _, Nat.le_refl _, rfl, ?_, fun _ => ?_⟩
    · rw [hsame, hsize₁]
      omega
    · omega

/-- A submessage in one slot. -/
theorem accommodates_slot (h : Tracks stream win)
    {r : Bool × OutputReliableStream × UcdrBuffer}
    (hgrants : GrantsSlot stream win n (submessageSize payload.length) r) :
    ∃ stream', Accommodates stream win id flags payload r.2 stream'
      (win.write n hgrants.le hgrants.inWindow) n { id, flags := otherFlags flags, payload } [] := by
  obtain ⟨htracks₁, hrw₁⟩ := hgrants.tracks h
  have hcapacity := h.formed.capacity_eq
  have hbound := h.formed.capacity_lt
  have hfits := hgrants.fits
  have hbehind : stream.slotSize n ≤ headerStart (stream.slotSize n) := Nat.le_add_right _ _
  have hstart : n = win.written ∨
      n = win.written + 1 ∧ stream.slotSize n = stream.offset.toNat :=
    hgrants.slot.imp_right fun hnext => ⟨hnext.1, hnext.2.2⟩
  have hstream := congrArg (fun r => r.2.1) hgrants.result
  have hub := congrArg (fun r => r.2.2) hgrants.result
  dsimp only at hstream hub
  rw [LawfulMicroCdr.init] at hub
  refine accommodates_room h hgrants.le hgrants.inWindow hstart hfits htracks₁ hrw₁ ?_ ?_ ?_ ?_ ?_
  · rw [hstream]
    exact slotSize_setSlotSize_self h.formed n (by omega)
  · rw [hstream]
    exact ReliableStream.bytesFrom_set (by omega) _
  · rw [hub]
  · rw [hub]
  · rw [hub]
    dsimp only
    omega

/-- The addresses that a message in fragments is granted are those of the payloads. -/
theorem Reaches.in_payloads (hwf : stream.Formed) {ub : UcdrBuffer} {k count length a : Nat}
    (hreach : Reaches outputDevice length stream ub a) (hin : InOutputSlot stream ub n k)
    (hk : k ≤ stream.slotSize n)
    (hslots : ∀ i, 0 < i → i ≤ count → stream.offset.toNat + 4 < stream.slotSize (n + i) ∧
      stream.slotSize (n + i) ≤ getReliableBufferCapacity stream.base)
    (hlength : length ≤ (payloads stream n k count).length) :
    ∃ i ≤ count, ∃ j, a = getReliableBuffer stream.base (UInt16.ofNat (n + i)) + j ∧
      payloadStart stream k i ≤ j ∧ j < stream.slotSize (n + i) := by
  obtain ⟨s, hs⟩ : ∃ s, s = stream := ⟨_, rfl⟩
  rw [← hs] at hreach
  -- by induction on the way to the byte
  induction hreach generalizing n k count with
  | @here length s ub hlt =>
    have hiterator := hin.iterator
    have hfinal := hin.final
    exact ⟨0, Nat.zero_le _, k, hiterator, Nat.le_refl _, by rw [Nat.add_zero]; omega⟩
  | @byte length s ub a hlt hrest ih =>
    have hiterator := hin.iterator
    have hfinal := hin.final
    have hnext : InOutputSlot stream ub.next n (k + 1) :=
      ⟨hin.ok, hin.init, by rw [UcdrBuffer.next_iterator, hiterator, Nat.add_assoc], hfinal,
        hin.callback⟩
    have hless : (payloads stream n k count).length =
        (payloads stream n (k + 1) count).length + 1 := by
      cases count with
      | zero =>
        rw [payloads_zero, payloads_zero, ReliableStream.bytesFrom_length,
          ReliableStream.bytesFrom_length]
        omega
      | succ count =>
        rw [payloads_succ, payloads_succ, List.length_append, List.length_append,
          ReliableStream.bytesFrom_length, ReliableStream.bytesFrom_length]
        omega
    obtain ⟨i, hi, j, ha, hstart, hend⟩ := ih hnext (by omega) hslots (by omega) hs
    refine ⟨i, hi, j, ha, ?_, hend⟩
    unfold payloadStart at hstart ⊢
    split at hstart
    · next hzero =>
      rw [if_pos hzero]
      omega
    · next hne =>
      rw [if_neg hne]
      exact hstart
  | @chain length s s₁ ub ub₁ a hfull hcall hroom hrest ih =>
    have hiterator := hin.iterator
    have hfinal := hin.final
    -- the slot is full, and the callback goes on to the next one
    have hend : k = stream.slotSize n := by omega
    cases count with
    | zero =>
      rw [payloads_zero, ReliableStream.bytesFrom_length] at hlength
      omega
    | succ count =>
      obtain ⟨hnext, hbounded⟩ := hslots 1 Nat.one_pos (Nat.le_add_left 1 count)
      obtain ⟨ub₂, hcall₂, -, hin₂⟩ := onFull_inOutputSlot hwf hin hnext hbounded
      rw [hs, hcall₂] at hcall
      obtain ⟨-, hpair⟩ := Prod.mk.inj hcall
      obtain ⟨hs₁, rfl⟩ := Prod.mk.inj hpair
      rw [payloads_succ, List.length_append, ReliableStream.bytesFrom_length, hend,
        Nat.sub_self, Nat.zero_add] at hlength
      obtain ⟨i, hi, j, ha, hstart, hlt⟩ := ih hin₂ (Nat.le_of_lt hnext)
        (fun i hpos hi => by
          rw [show n + 1 + i = n + (i + 1) by omega]
          exact hslots (i + 1) (Nat.succ_pos i) (Nat.succ_le_succ hi)) hlength hs₁.symm
      rw [show n + 1 + i = n + (i + 1) by omega] at ha hlt
      refine ⟨i + 1, Nat.succ_le_succ hi, j, ha, ?_, hlt⟩
      rw [payloadStart, ite_self] at hstart
      rw [payloadStart, if_neg (Nat.succ_ne_zero i)]
      exact hstart

omit [MicroCdr] [LawfulMicroCdr] in
/-- Payload leaves the window where it is. -/
theorem tracks_fills (h : Tracks stream win) {k count : Nat} (hfills : Fills stream stream' n k count) :
    Tracks stream' win := by
  have hoffset := hfills.shape.offset
  have hcapacity := hfills.shape.capacity
  have hrest := hfills.rest
  exact
    { formed := hfills.shape.formed h.formed
      history := by rw [hfills.shape.history]; exact h.history
      lastAcknown := by rw [hrest]; exact h.lastAcknown
      lastSent := by rw [hrest]; exact h.lastSent
      lastWritten := by rw [hrest]; exact h.lastWritten
      filled := fun m h₁ h₂ => by rw [hoffset, hfills.size]; exact h.filled m h₁ h₂
      empty := fun m h₁ h₂ => by rw [hoffset, hfills.size]; exact h.empty m h₁ h₂
      offset_le := fun m => by rw [hoffset, hfills.size]; exact h.offset_le m
      bounded := fun m => by rw [hcapacity, hfills.size]; exact h.bounded m }

omit [MicroCdr] [LawfulMicroCdr] in
theorem fragmentItems_getElem? (chunks : List (List UInt8)) (i : Nat) :
    (fragmentItems chunks)[i]? = chunks[i]?.map fun chunk =>
      { id := SubmessageId.fragment.value
        flags := if i + 1 = chunks.length then flagLastFragment else 0
        payload := chunk } := by
  rw [fragmentItems, List.getElem?_mapIdx]

omit [MicroCdr] [LawfulMicroCdr] in
/-- The slot of an empty message holds nothing. -/
theorem contents_empty (h : stream.slotSize n = stream.offset.toNat) : stream.contents n = [] := by
  rw [contents, h, Nat.sub_self]
  rfl

/-- The `i`-th fragment of a message, as an item. -/
def fragmentItem (before after : OutputReliableStream) (first count i : Nat) : PackedSubmessage where
  id := SubmessageId.fragment.value
  flags := if i + 1 = count + 1 then flagLastFragment else 0
  payload := fragmentPayload before after (fragmentSeqNum (UInt16.ofNat first) i)

omit [LawfulMicroCdr] in
/-- The fragment in the `i`-th slot of a message in fragments. -/
theorem Fragmented.packs {first count length i : Nat}
    (hfragmented : Fragmented stream stream' (UInt16.ofNat first) count length)
    (hwf : stream.Formed) (hi : i ≤ count)
    (hle : stream.offset.toNat ≤ stream.slotSize (first + i))
    (h : Packs (stream.contents (first + i)) message) :
    Packs (stream'.contents (first + i))
      (message ++ [fragmentItem stream stream' first count i]) := by
  have hoffset := hfragmented.shape.offset
  rw [fragmentItem, fragmentSeqNum, seqNumAdd_ofNat]
  rcases Nat.eq_or_lt_of_le hi with rfl | hlt
  · have hlast := hfragmented.last
    rw [fragmentSeqNum, seqNumAdd_ofNat] at hlast
    rw [if_pos rfl]
    exact hlast.packs h hoffset hwf.offset_aligned hle hwf.capacity_lt
  · have hfragment := hfragmented.fragments i hlt
    rw [fragmentSeqNum, seqNumAdd_ofNat] at hfragment
    rw [if_neg (by omega)]
    exact hfragment.packs h hoffset hwf.offset_aligned hle hwf.capacity_lt

omit [LawfulMicroCdr] in
/-- No fragment is empty. -/
theorem Fragmented.payload_ne_nil {first count length i : Nat}
    (hfragmented : Fragmented stream stream' (UInt16.ofNat first) count length) (hi : i ≤ count) :
    fragmentPayload stream stream' (fragmentSeqNum (UInt16.ofNat first) i) ≠ [] := by
  have hroom : headerStart (getReliableBufferSize stream.base (fragmentSeqNum (UInt16.ofNat first) i))
      + 4 < getReliableBufferSize stream'.base (fragmentSeqNum (UInt16.ofNat first) i) := by
    rcases Nat.eq_or_lt_of_le hi with rfl | hlt
    · exact hfragmented.last.room
    · exact (hfragmented.fragments i hlt).room
  refine List.ne_nil_of_length_pos ?_
  rw [fragmentPayload, ReliableStream.bytesFrom_length, fragmentLength]
  omega

omit [LawfulMicroCdr] in
/-- A submessage in fragments, as items. -/
theorem Fragmented.pieces {first count length : Nat} {rest : List UInt8}
    (hfragmented : Fragmented stream stream' (UInt16.ofNat first) count length)
    (hrest : rest.length = submessagePadding payload.length)
    (hheld : ((List.range (count + 1)).flatMap fun i =>
        fragmentPayload stream stream' (fragmentSeqNum (UInt16.ofNat first) i)) =
      submessageHeaderBytes id (UInt16.ofNat payload.length) flags ++ payload ++ rest) :
    ∃ item items, Pieces id flags payload (item :: items) ∧ items.length = count ∧
      ∀ i ≤ count, (item :: items)[i]? = some (fragmentItem stream stream' first count i) := by
  obtain ⟨chunks, hchunks⟩ : ∃ chunks, chunks = (List.range (count + 1)).map fun i =>
      fragmentPayload stream stream' (fragmentSeqNum (UInt16.ofNat first) i) := ⟨_, rfl⟩
  have hcount : chunks.length = count + 1 := by rw [hchunks, List.length_map, List.length_range]
  have hflatten : chunks.flatten =
      submessageHeaderBytes id (UInt16.ofNat payload.length) flags ++ payload ++ rest := by
    rw [hchunks, ← List.flatMap_def, hheld]
  have hitem (i : Nat) (hi : i ≤ count) : (fragmentItems chunks)[i]? =
      some (fragmentItem stream stream' first count i) := by
    rw [fragmentItems_getElem?, hcount, hchunks, List.getElem?_map,
      List.getElem?_range (Nat.lt_succ_of_le hi)]
    rfl
  have hitems : (fragmentItems chunks).length = count + 1 := by
    rw [fragmentItems, List.length_mapIdx, hcount]
  have hmany : 2 ≤ chunks.length := by
    have := hfragmented.slots.1
    omega
  have hpieces : Pieces id flags payload (fragmentItems chunks) := by
    refine .fragments chunks rest hmany ?_ hrest hflatten
    intro chunk hchunk
    rw [hchunks] at hchunk
    obtain ⟨i, hi, rfl⟩ := List.mem_map.mp hchunk
    exact hfragmented.payload_ne_nil (Nat.le_of_lt_succ (List.mem_range.mp hi))
  obtain ⟨item, items, hcons⟩ := List.exists_cons_of_length_pos
    (show 0 < (fragmentItems chunks).length by omega)
  rw [hcons] at hitem hitems hpieces
  exact ⟨item, items, hpieces, Nat.succ.inj hitems, hitem⟩

/-- A submessage in several slots. -/
theorem accommodates_fragments (h : Tracks stream win) {first written : Nat}
    {r : Bool × OutputReliableStream × UcdrBuffer}
    (hgrants : GrantsFragments stream win first written (submessageSize payload.length) r) :
    ∃ stream' item items, Accommodates stream win id flags payload r.2 stream'
      (win.write written hgrants.le hgrants.inWindow) first item items := by
  have hrep := hgrants.tracks
  have hrw := hgrants.rewrites
  have hwrites := hgrants.writes
  have hwin := hgrants.inWindow
  obtain ⟨count, rfl⟩ := Nat.exists_eq_add_of_le (Nat.le_of_lt hwrites.lt)
  obtain ⟨hafter, hin, hlength, hslots⟩ :=
    fragmented_of_writes h hgrants.start hgrants.inWindow hrw hwrites hrep.lastWritten
  have hfull := hwrites.full first (Nat.le_refl _) hwrites.lt
  have hk : headerStart (stream.slotSize first) + 4 ≤ r.2.1.slotSize first :=
    Nat.le_of_lt hfull.2.room
  have hbehind : stream.slotSize first ≤ headerStart (stream.slotSize first) :=
    Nat.le_add_right _ _
  have hroom : ∀ i, 0 < i → i ≤ count → r.2.1.offset.toNat + 4 < r.2.1.slotSize (first + i) ∧
      r.2.1.slotSize (first + i) ≤ getReliableBufferCapacity r.2.1.base :=
    fun i hpos hi => ⟨hslots i hpos hi, hrep.bounded _⟩
  -- what the user writes, and the bytes behind it
  obtain ⟨bytes, hbytes⟩ : ∃ bytes, bytes =
      submessageHeaderBytes id (UInt16.ofNat payload.length) flags ++ payload := ⟨_, rfl⟩
  have hsize : submessageSize payload.length = bytes.length + submessagePadding payload.length := by
    rw [hbytes, List.length_append, submessageHeaderBytes_length, submessageSize, subheaderSize]
  obtain ⟨stream', ub', hputs, hfills, rest, hheld⟩ := puts_payloads hrep.formed
    (by rw [hrw.shape.history]; exact hafter.slots.2) hin hk (hrep.bounded first) hroom
    (show bytes.length ≤ _ by omega)
  have hfragmented := hafter.of_fills h.formed hfills
  have hrest : rest.length = submessagePadding payload.length := by
    have htotal := payloads_length hfills.size hfills.shape.offset first
      (headerStart (stream.slotSize first) + 4) count
    rw [hheld, hlength, List.length_append] at htotal
    omega
  have hflatten : ((List.range (count + 1)).flatMap fun i =>
      fragmentPayload stream stream' (fragmentSeqNum (UInt16.ofNat first) i)) =
        submessageHeaderBytes id (UInt16.ofNat payload.length) flags ++ payload ++ rest := by
    rw [(fragmentPayloads_eq h.formed.offset_aligned (hfills.shape.offset.trans hrw.shape.offset)
      hfragmented.slotSize_free).1, hheld, hbytes]
  obtain ⟨item, items, hpieces, hitems, hitem⟩ := hfragmented.pieces hrest hflatten
  refine ⟨stream', item, items,
    { puts := ⟨ub', by rw [← hbytes]; exact hputs⟩
      tracks := tracks_fills hrep hfills
      acked := rfl
      sent := rfl
      shape := hrw.shape.trans hfills.shape
      start := hgrants.start
      written := congrArg (first + ·) hitems.symm
      inWindow := hwin
      untouched := fun m h₁ h₂ => ?_
      pieces := hpieces
      front := fun message hmessage => ?_
      others := fun i later hlater => ?_
      grows := ?_
      region := fun a hreach => ?_ }⟩
  · have hother := hfragmented.others (UInt16.ofNat m) fun i hi => by
      rw [fragmentSeqNum, seqNumAdd_ofNat, h.formed.base.slot_ofNat, h.formed.base.slot_ofNat]
      exact h.mod_ne (by omega) (by omega) (by omega)
    refine ⟨hother.1, ?_⟩
    rw [slotBytes, hfragmented.shape.capacity]
    exact hother.2
  · have hfirst := Option.some.inj (hitem 0 (Nat.zero_le _))
    have hpacked := hfragmented.packs h.formed (Nat.zero_le _) (h.offset_le (first + 0)) hmessage
    rw [hfirst]
    exact hpacked
  · have hlt := (List.getElem?_eq_some_iff.mp hlater).1
    have hnext := hitem (i + 1) (by omega)
    rw [List.getElem?_cons_succ, hlater] at hnext
    have hempty := contents_empty (hfragmented.slotSize_free (i + 1) (Nat.succ_pos i) (by omega))
    have hnil : Packs (stream.contents (first + (i + 1))) [] := by
      rw [hempty]
      exact .nil
    rw [show first + 1 + i = first + (i + 1) by omega, Option.some.inj hnext]
    exact hfragmented.packs h.formed (by omega) (h.offset_le _) hnil
  · rw [hfills.size]
    omega
  · obtain ⟨i, hi, j, ha, hstart, hend⟩ := hreach.in_payloads hrep.formed hin hk hroom
      (Nat.le_of_eq hlength.symm)
    refine ⟨first + i, j, Nat.le_add_right _ _, Nat.add_le_add_left hi _, ?_, ?_, fun hsame => ?_⟩
    · rw [ha, hrw.shape.buffer]
    · rw [hfills.size]
      exact hend
    · rw [payloadStart, if_pos (by omega)] at hstart
      omega

end

end XrceClient
