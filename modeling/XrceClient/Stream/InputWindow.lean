import XrceClient.Session.Headers
import XrceClient.Stream.OutputWindow

/-!
# The input window

What the ring of an input reliable stream is for: it keeps the messages behind the last
handled one that arrived too early.

- `messageKind`: what a message is, from its bytes.
- `Buffers stream message handled`: messages up to the `handled`-th are handled, and
  every filled slot of the window behind holds the message of its number, as `message`
  has it. Numbers are counts and do not wrap.
- `accepts_lt`: only messages behind the last handled one are taken, however late the others
  come.
- `Buffers.store`, `Buffers.clear`, `Buffers.advance`: the three ways in which the ring
  changes.
-/

namespace XrceClient

open ByteMemory InputReliableStream

/-! ## Kinds of messages -/

/-- The kind of a message with the given bytes. -/
def messageKind (bytes : List UInt8) : FragmentationInfo :=
  if SubmessageId.fragment.value = bytes.getD 0 0 then
    if flagLastFragment &&& bytes.getD 1 0 ≠ 0 then .lastFragment else .intermediateFragment
  else .noFragmented

/-- The client's callback sees the kind in the first two bytes of a message. -/
theorem onGetFragmentationInfo_read [MicroCdr] [LawfulMicroCdr] (memory : Memory) (buffer : Nat)
    {length : Nat} (hlength : 2 ≤ length) :
    onGetFragmentationInfo memory buffer = messageKind (read memory buffer length) := by
  obtain ⟨n, rfl⟩ := Nat.exists_eq_add_of_le' hlength
  rw [onGetFragmentationInfo_eq, messageKind, read_succ, read_succ]
  rfl

/-- A message that is not a fragment is known by its first byte. -/
theorem onGetFragmentationInfo_plain [MicroCdr] [LawfulMicroCdr] (memory : Memory)
    (buffer : Nat) {length : Nat} (hlength : 1 ≤ length)
    (hplain : messageKind (read memory buffer length) = .noFragmented) :
    onGetFragmentationInfo memory buffer = .noFragmented := by
  obtain ⟨n, rfl⟩ := Nat.exists_eq_add_of_le' hlength
  rw [messageKind, read_succ, List.getD_cons_zero] at hplain
  rw [onGetFragmentationInfo_eq]
  split
  · next hid =>
    rw [if_pos hid] at hplain
    split at hplain <;> cases hplain
  · rfl

/-! ## Slots by count -/

namespace InputReliableStream

variable {stream : InputReliableStream}

/-- The size stored in the slot of the `n`-th message. -/
def slotSize (stream : InputReliableStream) (n : Nat) : Nat :=
  getReliableBufferSize stream.base (UInt16.ofNat n)

/-- The message in the slot of the `n`-th message. -/
def slotMessage (stream : InputReliableStream) (n : Nat) : List UInt8 :=
  stream.base.bytesFrom (UInt16.ofNat n) 0 (stream.slotSize n)

/-- The stream with the slot of the `n`-th message emptied. -/
def clear (stream : InputReliableStream) (n : Nat) : InputReliableStream :=
  { stream with base := setReliableBufferSize stream.base (UInt16.ofNat n) 0 }

/-- Slots of one turn of the ring apart are the same. -/
theorem slotSize_turn (hwf : stream.base.WellFormed) (n : Nat) :
    stream.slotSize (n + stream.base.history.toNat) = stream.slotSize n :=
  ReliableStream.getReliableBufferSize_congr (hwf.slot_turn n)

theorem slot_eq_iff (hwf : stream.base.WellFormed) (m n : Nat) :
    stream.base.slot (UInt16.ofNat m) = stream.base.slot (UInt16.ofNat n) ↔
      m % stream.base.history.toNat = n % stream.base.history.toNat := by
  rw [hwf.slot_ofNat, hwf.slot_ofNat]

/-- Emptying the slot of one message empties it and leaves the others alone. -/
theorem slotSize_clear (hwf : stream.base.WellFormed) (n m : Nat) :
    (stream.clear n).slotSize m =
      if m % stream.base.history.toNat = n % stream.base.history.toNat then 0
      else stream.slotSize m := by
  have hstride := hwf.stride
  have hset := @ReliableStream.getReliableBufferSize_set stream.base (by omega)
    (UInt16.ofNat n) (UInt16.ofNat m) 0
  simp only [slot_eq_iff hwf] at hset
  exact hset

/-- Emptying a slot leaves all bytes alone. -/
theorem read_clear (hwf : stream.base.WellFormed) (n m : Nat) {k : Nat}
    (hfit : k + 4 ≤ stream.base.stride) :
    read (stream.clear n).base.buffer (getReliableBuffer stream.base (UInt16.ofNat m)) k =
      read stream.base.buffer (getReliableBuffer stream.base (UInt16.ofNat m)) k := by
  have := hwf.stride
  exact @ReliableStream.bytesFrom_set stream.base (UInt16.ofNat n) (UInt16.ofNat m) 0 k
    (by omega) 0

theorem slotMessage_clear (hwf : stream.base.WellFormed) {n m : Nat}
    (hne : m % stream.base.history.toNat ≠ n % stream.base.history.toNat)
    (hfit : stream.slotSize m + 4 ≤ stream.base.stride) :
    (stream.clear n).slotMessage m = stream.slotMessage m := by
  rw [slotMessage, slotSize_clear hwf, if_neg hne]
  exact ReliableStream.bytesFrom_set (by omega) 0

/-- The sizes after a message is stored. -/
theorem slotSize_store (hwf : stream.base.WellFormed) (n m : Nat) {msg : Datagram}
    (hfit : msg.length + 4 ≤ stream.base.stride) (hlength : msg.length < 2 ^ 32) :
    (stream.store (UInt16.ofNat n) msg).slotSize m =
      if m % stream.base.history.toNat = n % stream.base.history.toNat then msg.length
      else stream.slotSize m := by
  have hstride := hwf.stride
  have hbytes : msg.bytes.length = msg.length := read_length _ _ _
  have hset := @ReliableStream.getReliableBufferSize_set
    (stream.base.storeBytes (UInt16.ofNat n) 0 msg.bytes) (by exact Nat.le_of_lt hstride)
    (UInt16.ofNat n) (UInt16.ofNat m) msg.length
  rw [ReliableStream.getReliableBufferSize_storeBytes (by omega), Nat.mod_eq_of_lt hlength] at hset
  have hslot (q : SeqNum) : (stream.base.storeBytes (UInt16.ofNat n) 0 msg.bytes).slot q =
      stream.base.slot q := rfl
  simp only [hslot, slot_eq_iff hwf] at hset
  exact hset

/-- The stored message is in its slot. -/
theorem slotMessage_store_same (hwf : stream.base.WellFormed) {n m : Nat} {msg : Datagram}
    (hslot : m % stream.base.history.toNat = n % stream.base.history.toNat)
    (hfit : msg.length + 4 ≤ stream.base.stride) (hlength : msg.length < 2 ^ 32) :
    (stream.store (UInt16.ofNat n) msg).slotMessage m = msg.bytes := by
  have hbytes : msg.bytes.length = msg.length := read_length _ _ _
  rw [slotMessage, slotSize_store hwf n m hfit hlength, if_pos hslot]
  have hset := @ReliableStream.bytesFrom_set (stream.base.storeBytes (UInt16.ofNat n) 0 msg.bytes)
    (UInt16.ofNat n) (UInt16.ofNat m) 0 msg.length
    (show 4 + 0 + msg.length ≤ stream.base.stride by omega) msg.length
  have hsame := ReliableStream.bytesFrom_storeBytes_same ((slot_eq_iff hwf m n).mpr hslot) 0
    msg.bytes
  rw [hbytes] at hsame
  exact hset.trans hsame

/-- The other slots keep their messages. -/
theorem slotMessage_store_other (hwf : stream.base.WellFormed) {n m : Nat} {msg : Datagram}
    (hne : m % stream.base.history.toNat ≠ n % stream.base.history.toNat)
    (hfit : msg.length + 4 ≤ stream.base.stride) (hlength : msg.length < 2 ^ 32)
    (hm : stream.slotSize m + 4 ≤ stream.base.stride) :
    (stream.store (UInt16.ofNat n) msg).slotMessage m = stream.slotMessage m := by
  have hbytes : msg.bytes.length = msg.length := read_length _ _ _
  rw [slotMessage, slotSize_store hwf n m hfit hlength, if_neg hne]
  have hset := @ReliableStream.bytesFrom_set (stream.base.storeBytes (UInt16.ofNat n) 0 msg.bytes)
    (UInt16.ofNat n) (UInt16.ofNat m) 0 (stream.slotSize m)
    (show 4 + 0 + stream.slotSize m ≤ stream.base.stride by omega) msg.length
  refine hset.trans ?_
  exact ReliableStream.bytesFrom_storeBytes_other (mt (slot_eq_iff hwf m n).mp hne) (by omega)
    (by omega)

end InputReliableStream

/-! ## The window -/

/-- The messages up to the `handled`-th are handled, and every filled slot of the window
behind holds the message of its number. -/
structure Buffers (stream : InputReliableStream) (message : Nat → Option (List UInt8))
    (handled : Nat) : Prop where
  wellFormed : stream.base.WellFormed
  lastHandled : stream.lastHandled = UInt16.ofNat handled
  fits : ∀ n, stream.slotSize n + 4 ≤ stream.base.stride
  held : ∀ n, handled < n → n ≤ handled + stream.base.history.toNat →
    stream.slotSize n ≠ 0 → message n = some (stream.slotMessage n)

section

variable {stream : InputReliableStream} {message : Nat → Option (List UInt8)} {handled : Nat}

theorem buffers_init (buffer : Memory) {size : Nat} {history : UInt16}
    (onGetFragmentationInfo : Memory → Nat → FragmentationInfo)
    (hwf : ReliableStream.WellFormed ⟨buffer, size, history⟩)
    (message : Nat → Option (List UInt8)) :
    Buffers (initInputReliableStream buffer size history onGetFragmentationInfo) message 65535 ∧
      ∀ n, (initInputReliableStream buffer size history onGetFragmentationInfo).slotSize n = 0 := by
  obtain ⟨hsize, hhistory, hset⟩ := foldl_setReliableBufferSize ⟨buffer, size, history⟩ hwf 0
    history.toNat (by decide) (Nat.le_refl _)
  have hempty (n : Nat) :
      (initInputReliableStream buffer size history onGetFragmentationInfo).slotSize n = 0 := by
    refine hset _ ?_
    rw [hwf.slot_ofNat]
    exact Nat.mod_lt _ hwf.history_pos
  have hstride : (initInputReliableStream buffer size history
      onGetFragmentationInfo).base.stride = size / history.toNat := by
    rw [ReliableStream.stride]
    exact congrArg₂ (fun s (h : UInt16) => s / h.toNat) hsize hhistory
  have hwf' : (initInputReliableStream buffer size history
      onGetFragmentationInfo).base.WellFormed := by
    refine ⟨?_, ?_⟩
    · obtain ⟨k, hk, hpow⟩ := hwf.history
      exact ⟨k, hk, (congrArg UInt16.toNat hhistory).trans hpow⟩
    · rw [hstride]
      exact hwf.stride
  refine ⟨⟨hwf', rfl, fun n => ?_, fun n _ _ hfilled => absurd (hempty n) hfilled⟩, hempty⟩
  have := hwf'.stride
  rw [hempty]
  omega

/-- An announcement is no part of the window. -/
theorem announce_eq (stream : InputReliableStream) (seqNum : SeqNum) :
    ∃ lastAnnounced, stream.announce seqNum = { stream with lastAnnounced } := by
  rw [InputReliableStream.announce]
  split
  · exact ⟨seqNum, rfl⟩
  · exact ⟨stream.lastAnnounced, rfl⟩

theorem Buffers.announce (h : Buffers stream message handled) (seqNum : SeqNum) :
    Buffers (stream.announce seqNum) message handled := by
  rw [InputReliableStream.announce]
  split
  · exact ⟨h.wellFormed, h.lastHandled, h.fits, h.held⟩
  · exact h

/-- A message that is taken lies behind the last handled one, even if it comes very late. -/
theorem Buffers.accepts_lt (h : Buffers stream message handled) {n : Nat}
    (hlate : handled + stream.base.history.toNat < n + 65536)
    (hearly : n ≤ handled + stream.base.history.toNat)
    (haccepts : stream.accepts (UInt16.ofNat n) = true) : handled < n := by
  have hH := h.wellFormed.history_le
  obtain ⟨hahead, hwindow⟩ := of_decide_eq_true haccepts
  rw [seqNumCmp_neg_iff, h.lastHandled, Serial.dist_eq, Serial.toNat_ofNat, Serial.toNat_ofNat]
    at hahead
  rw [seqNumCmp_nonneg_iff, seqNumAdd_eq, h.lastHandled, Serial.dist_eq, UInt16.toNat_add,
    Serial.toNat_ofNat, Serial.toNat_ofNat] at hwindow
  unfold seqNumMidsize at hahead hwindow
  by_contra hle
  omega

/-- A message is stored in its slot. -/
theorem Buffers.store (h : Buffers stream message handled) {n : Nat} {msg : Datagram}
    (hlt : handled < n) (hwin : n ≤ handled + stream.base.history.toNat)
    (hfit : msg.length + 4 ≤ stream.base.stride) (hlength : msg.length < 2 ^ 32)
    (hmessage : message n = some msg.bytes) :
    Buffers (stream.store (UInt16.ofNat n) msg) message handled where
  wellFormed := ⟨h.wellFormed.history, h.wellFormed.stride⟩
  lastHandled := h.lastHandled
  fits m := by
    show _ ≤ stream.base.stride
    rw [slotSize_store h.wellFormed n m hfit hlength]
    split
    · exact hfit
    · exact h.fits m
  held m h₁ h₂ hfilled := by
    change m ≤ handled + stream.base.history.toNat at h₂
    rw [slotSize_store h.wellFormed n m hfit hlength] at hfilled
    by_cases hslot : m % stream.base.history.toNat = n % stream.base.history.toNat
    · -- one window has one message for each slot
      have hmn : m = n := by
        by_contra hne
        exact OutputReliableStream.mod_ne_of_window hne (by omega) (by omega) hslot
      rw [slotMessage_store_same h.wellFormed hslot hfit hlength, hmn, hmessage]
    · rw [if_neg hslot] at hfilled
      rw [slotMessage_store_other h.wellFormed hslot hfit hlength (h.fits m)]
      exact h.held m h₁ h₂ hfilled

/-- A slot is emptied. -/
theorem Buffers.clear (h : Buffers stream message handled) (n : Nat) :
    Buffers (stream.clear n) message handled where
  wellFormed := ⟨h.wellFormed.history, h.wellFormed.stride⟩
  lastHandled := h.lastHandled
  fits m := by
    have := h.fits m
    show _ ≤ stream.base.stride
    rw [slotSize_clear h.wellFormed]
    split <;> omega
  held m h₁ h₂ hfilled := by
    change m ≤ handled + stream.base.history.toNat at h₂
    rw [slotSize_clear h.wellFormed] at hfilled
    by_cases hslot : m % stream.base.history.toNat = n % stream.base.history.toNat
    · exact absurd (if_pos hslot) hfilled
    · rw [if_neg hslot] at hfilled
      rw [slotMessage_clear h.wellFormed hslot (h.fits m)]
      exact h.held m h₁ h₂ hfilled

/-- The window moves forward over messages whose slots are empty. -/
theorem Buffers.advance (h : Buffers stream message handled) {last : Nat} (hle : handled ≤ last)
    (hempty : ∀ n, handled < n → n ≤ last → stream.slotSize n = 0) :
    Buffers { stream with lastHandled := UInt16.ofNat last } message last where
  wellFormed := h.wellFormed
  lastHandled := rfl
  fits := h.fits
  held n h₁ h₂ hfilled := by
    change n ≤ last + stream.base.history.toNat at h₂
    rcases Nat.lt_or_ge (handled + stream.base.history.toNat) n with hnew | hold
    · -- the slots that are new in the window are those that it left
      obtain ⟨m, rfl⟩ := Nat.exists_eq_add_of_le' (show stream.base.history.toNat ≤ n by omega)
      have hturn := slotSize_turn h.wellFormed m
      have hm := hempty m (by omega) (by omega)
      exact absurd (hturn.trans hm) hfilled
    · exact h.held n (by omega) hold hfilled

end

end XrceClient
