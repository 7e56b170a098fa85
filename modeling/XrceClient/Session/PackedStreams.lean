import XrceClient.Session.EntityCreation
import XrceClient.Session.PackedWrites
import XrceClient.Session.Running

/-!
# What an output stream has to send

An output stream is an outbox: submessages are packed into its messages, and the messages leave in
order.

- `PutsPieces`: what a submessage does to the outbox.
- `Queued`: the slots of a reliable stream hold the messages of an outbox. `Queued.write`,
  `Queued.send` and `Queued.acknack` say what the calls do to both.
- `BestEffortQueued`: the same of a best-effort stream, which has one message at a time.
- `Apart`: the regions that were granted have no address in common, and none that is fresh.
-/

namespace XrceClient

open ByteMemory OutputReliableStream

/-! ## Regions -/

/-- The regions have no address in common, and none that may still be granted. -/
structure Apart (fresh : Set Nat) (granted : List (Set Nat)) : Prop where
  pairwise : granted.Pairwise Disjoint
  old : ∀ region ∈ granted, Disjoint region fresh

theorem Apart.nil (fresh : Set Nat) : Apart fresh [] where
  pairwise := .nil
  old _ hregion := absurd hregion List.not_mem_nil

theorem Apart.mono {fresh fresh' : Set Nat} {granted : List (Set Nat)} (h : Apart fresh granted)
    (hle : fresh' ⊆ fresh) : Apart fresh' granted where
  pairwise := h.pairwise
  old region hregion := (h.old region hregion).mono_right hle

/-- A region of addresses that are fresh, and are not any more. -/
theorem Apart.grant {fresh fresh' region : Set Nat} {granted : List (Set Nat)}
    (h : Apart fresh granted) (hregion : region ⊆ fresh) (hused : Disjoint region fresh')
    (hle : fresh' ⊆ fresh) : Apart fresh' (region :: granted) where
  pairwise := by
    refine List.pairwise_cons.mpr ⟨fun other hother => ?_, h.pairwise⟩
    exact ((h.old other hother).mono_right hregion).symm
  old other hother := by
    rcases List.mem_cons.mp hother with rfl | hother
    · exact hused
    · exact (h.mono hle).old other hother

section

variable [MicroCdr]

/-- What a submessage does to an outbox: its pieces go into messages, the first of them into the
current one unless that is closed before. -/
def PutsPieces (id flags : UInt8) (payload : List UInt8) (box box' : Outbox PackedSubmessage) : Prop :=
  ∃ item items box₀, Pieces id flags payload (item :: items) ∧ (box₀ = box ∨ box₀ = box.next) ∧
    box' = (box₀.put item).spread items

/-! ## Reliable streams -/

section

variable {H : Nat} {stream stream' : OutputReliableStream} {win win' : OutputWindow H}
  {box : Outbox PackedSubmessage} {id flags : UInt8} {payload : List UInt8} {n : Nat}
  {item : PackedSubmessage} {items message : List PackedSubmessage}

/-- The message of a number is what its slot holds, as long as it has a slot. -/
def Stored (stream : OutputReliableStream) (win : OutputWindow H) (n : Nat)
    (message : List PackedSubmessage) : Prop :=
  if n ≤ win.acked + H then Packs (stream.contents n) message else message = []

/-- The slots of a stream hold the messages of an outbox. -/
structure Queued (stream : OutputReliableStream) (win : OutputWindow H)
    (box : Outbox PackedSubmessage) : Prop where
  tracks : Tracks stream win
  written : win.written = win.sent + 1 + box.closed.length
  held : box.Held (Stored stream win) (win.sent + 1)

/-- The addresses that a write may grant: those behind the contents of the last written slot, and
those of free slots. -/
def freshAddresses (stream : OutputReliableStream) (win : OutputWindow H) : Set Nat :=
  { a | ∃ m k, win.written ≤ m ∧ m ≤ win.acked + H ∧
    a = getReliableBuffer stream.base (UInt16.ofNat m) + k ∧
    k < getReliableBufferCapacity stream.base ∧ (m = win.written → stream.slotSize m ≤ k) }

omit [MicroCdr] in
theorem contents_untouched (h : OutputReliableStream.Untouched stream stream' n)
    (hshape : SameShape stream stream')
    (hbounded : stream.slotSize n ≤ getReliableBufferCapacity stream.base)
    (hle : stream.offset.toNat ≤ stream.slotSize n) : stream'.contents n = stream.contents n := by
  rw [contents, contents, hshape.offset, h.1]
  exact h.bytesFrom hshape (by omega)

omit [MicroCdr] in
theorem Stored.untouched (hstored : Stored stream win n message) (h : Tracks stream win)
    (huntouched : OutputReliableStream.Untouched stream stream' n)
    (hshape : SameShape stream stream')
    (hacked : win'.acked = win.acked) : Stored stream' win' n message := by
  rw [Stored, hacked, contents_untouched huntouched hshape (h.bounded n) (h.offset_le n)]
  exact hstored

theorem Queued.write {granted : OutputReliableStream × UcdrBuffer} {first : Nat}
    (h : Queued stream win box) (hwrite : Accommodates stream win id flags payload granted stream'
      win' first item items) :
    ∃ box', PutsPieces id flags payload box box' ∧ Queued stream' win' box' := by
  have hacked := hwrite.acked
  have hsent := hwrite.sent
  have hwritten := hwrite.written
  have hinWindow := hwrite.inWindow
  have hqueued := h.written
  have hlow := win.acked_le_sent
  have hkept (m : Nat) (message : List PackedSubmessage) (hlo : win.sent + 1 ≤ m)
      (hhi : m < first) (hstored : Stored stream win m message) : Stored stream' win' m message :=
    hstored.untouched h.tracks (hwrite.untouched m (by omega) hhi) hwrite.shape hacked
  have hfront (message : List PackedSubmessage) (hstored : Packs (stream.contents first) message) :
      Stored stream' win' first (message ++ [item]) := by
    rw [Stored, if_pos (by omega)]
    exact hwrite.front message hstored
  -- the other items stand for themselves, each in a message of its own
  have hothers (i : Nat) (later : PackedSubmessage) (hlater : items[i]? = some later) :
      Stored stream' win' (first + 1 + i) [later] := by
    have hlt := (List.getElem?_eq_some_iff.mp hlater).1
    rw [Stored, if_pos (by omega)]
    exact hwrite.others i later hlater
  rcases hwrite.start with hfirst | ⟨hfirst, hempty⟩
  · -- behind the items of the current message
    have hcurrent := h.held.current
    rw [← hqueued, Stored, if_pos (by omega), ← hfirst] at hcurrent
    have hput : (box.put item).Held (Stored stream' win') (win.sent + 1) := by
      refine h.held.put ?_ fun m message hlo hhi => hkept m message hlo (by omega)
      rw [← hqueued, ← hfirst]
      exact hfront _ hcurrent
    refine ⟨(box.put item).spread items, ⟨item, items, box, hwrite.pieces, .inl rfl, rfl⟩,
      hwrite.tracks, ?_, ?_⟩
    · rw [Outbox.length_spread, Outbox.put_closed, hsent]
      omega
    · rw [hsent]
      refine hput.spread fun i later hlater => ?_
      rw [Outbox.put_closed, ← hqueued, ← hfirst]
      exact hothers i later hlater
  · -- in a message of its own
    have hheld : box.Held (Stored stream' win') (win.sent + 1) :=
      h.held.imp fun m message hlo hhi => hkept m message hlo (by omega)
    have hnil : Packs (stream.contents first) [] := by
      rw [contents_empty hempty]
      exact .nil
    have hput : (box.next.put item).Held (Stored stream' win') (win.sent + 1) := by
      refine hheld.nextPut ?_
      rw [← hqueued, ← hfirst]
      exact hfront [] hnil
    refine ⟨(box.next.put item).spread items, ⟨item, items, box.next, hwrite.pieces, .inr rfl, rfl⟩,
      hwrite.tracks, ?_, ?_⟩
    · rw [Outbox.length_spread, Outbox.length_nextPut, hsent]
      omega
    · rw [hsent]
      refine hput.spread fun i later hlater => ?_
      rw [Outbox.length_nextPut, ← Nat.add_assoc, ← hqueued, ← hfirst]
      exact hothers i later hlater

omit [MicroCdr] in
/-- Fewer addresses are fresh when the last written message moves on or grows. -/
theorem freshAddresses_subset (hshape : SameShape stream stream') (hacked : win'.acked = win.acked)
    (hwritten : win.written ≤ win'.written)
    (hgrows : win'.written = win.written → stream.slotSize win.written ≤ stream'.slotSize win.written) :
    freshAddresses stream' win' ⊆ freshAddresses stream win := by
  rintro a ⟨m, k, hlo, hhi, rfl, hk, hbehind⟩
  refine ⟨m, k, by omega, by omega, by rw [hshape.buffer], by rwa [hshape.capacity] at hk, ?_⟩
  rintro rfl
  have hsame : win'.written = win.written := by omega
  exact Nat.le_trans (hgrows hsame) (hbehind hsame.symm)

omit [MicroCdr] in
/-- The oldest message goes out: its slot holds what the outbox has of it. -/
theorem Queued.sendNext (h : Queued stream win box)
    (hsent : (prepareNextReliableBufferToSend stream).1 = true) :
    ∃ message box', ∃ win' : OutputWindow H, box.leave = some (message, box') ∧
      Packs (stream.contents (win.sent + 1)) message ∧
      Queued (prepareNextReliableBufferToSend stream).2.1 win' box' ∧ win'.acked = win.acked ∧
      win.written ≤ win'.written := by
  obtain ⟨-, hroom, hcontents⟩ := (prepareNext_fst_cmp h.tracks).mp hsent
  obtain ⟨hlt, htracks⟩ := tracks_prepareNext h.tracks hsent
  have hqueued := h.written
  have hoffset := prepareNext_offset stream
  have hsame (n : Nat) : (prepareNextReliableBufferToSend stream).2.1.contents n =
      stream.contents n := by
    rw [contents, slotSize, hoffset, prepareNext_base, contents, slotSize]
  have hstored {n : Nat} {message : List PackedSubmessage} (hmessage : Stored stream win n message) :
      Stored (prepareNextReliableBufferToSend stream).2.1 (win.sendNext hlt) n message := by
    rw [Stored, hsame]
    exact hmessage
  obtain ⟨closed, current⟩ := box
  cases closed with
  | cons message closed =>
    -- the current message stays the current one
    rw [List.length_cons] at hqueued
    obtain ⟨hmessage, hbehind⟩ := h.held.behind
    rw [Stored, if_pos (by omega)] at hmessage
    have hwritten : (win.sendNext hlt).written = win.written := if_neg (by omega)
    refine ⟨message, ⟨closed, current⟩, win.sendNext hlt, Outbox.leave_closed _ _ _, hmessage,
      ⟨htracks, ?_, ?_⟩, rfl, Nat.le_of_eq hwritten.symm⟩
    · rw [hwritten, hqueued]
      show _ = win.sent + 1 + 1 + closed.length
      omega
    · exact hbehind.imp fun n message _ _ hmessage => hstored hmessage
  | nil =>
    -- the current message is closed as it goes out
    rw [List.length_nil, Nat.add_zero] at hqueued
    have hcurrent : Stored stream win (win.sent + 1) current := h.held.current
    rw [Stored, if_pos (by omega)] at hcurrent
    have hne : current ≠ [] := by
      refine hcurrent.ne_nil fun hnil => ?_
      have hlength := congrArg List.length hnil
      rw [contents, ReliableStream.bytesFrom_length, List.length_nil] at hlength
      omega
    have hwritten : (win.sendNext hlt).written = win.written + 1 := if_pos hqueued.symm
    refine ⟨current, Outbox.empty, win.sendNext hlt, Outbox.leave_current hne, hcurrent,
      ⟨htracks, ?_, fun i message hnone => absurd hnone (by simp [Outbox.empty]), ?_⟩, rfl, by omega⟩
    · rw [hwritten, hqueued]
      rfl
    · show Stored _ _ (win.sent + 1 + 1) []
      rw [Stored]
      split
      · next hin =>
        have hempty := h.tracks.empty (win.sent + 1 + 1) (by omega) hin
        rw [hsame, contents_empty hempty]
        exact .nil
      · rfl

omit [MicroCdr] in
/-- What goes out is read behind the header of the message. -/
theorem Queued.send (h : Queued stream win box) {next : NextBuffer}
    (hsent : prepareNextReliableBufferToSend stream = (true, stream', next)) :
    ∃ message box', ∃ win' : OutputWindow H, box.leave = some (message, box') ∧
      stream'.offset.toNat ≤ next.length ∧
      Packs (read stream'.base.buffer (next.buffer + stream'.offset.toNat)
        (next.length - stream'.offset.toNat)) message ∧
      Queued stream' win' box' ∧ freshAddresses stream' win' ⊆ freshAddresses stream win := by
  have hnext := prepareNext_nextBuffer h.tracks
  have hbase := @prepareNext_base stream
  have hoffset := prepareNext_offset stream
  obtain ⟨message, box', win', hleave, hpacks, hqueued, hacked, hwritten⟩ :=
    h.sendNext (congrArg Prod.fst hsent)
  rw [hsent] at hnext hbase hoffset hqueued
  dsimp only at hnext hbase hoffset hqueued
  rw [contents, ReliableStream.bytesFrom] at hpacks
  refine ⟨message, box', win', hleave, ?_, ?_, hqueued, ?_⟩
  · rw [hnext, hoffset]
    exact h.tracks.offset_le _
  · rw [hnext, hbase, hoffset]
    exact hpacks
  · refine freshAddresses_subset ⟨by rw [hbase], by rw [hbase], hoffset⟩ hacked hwritten fun _ => ?_
    rw [slotSize, slotSize, hbase]

omit [MicroCdr] in
/-- An acknowledgement empties slots of messages that left, and the message behind the window gets
one. -/
theorem Queued.acknack (h : Queued stream win box) (bitmap : UInt16) {firstUnackedSeqNum : SeqNum}
    (hrange : AcknackInRange stream firstUnackedSeqNum) :
    ∃ win' : OutputWindow H, Queued (processAcknack stream bitmap firstUnackedSeqNum) win' box := by
  obtain ⟨win', hmoves, hsent, hwritten⟩ := moves_acknack h.tracks bitmap hrange
  have hqueued := h.written
  have hacked := hmoves.acked_le
  have hunsent := win'.acked_le_sent
  have hle := win.written_le
  refine ⟨win', hmoves.tracks, by rw [hwritten, hsent]; exact hqueued, ?_⟩
  rw [hsent]
  refine h.held.imp fun n message hlo hhi hmessage => ?_
  rw [Stored] at hmessage
  split at hmessage
  · next hin =>
    rw [Stored, if_pos (by omega), contents_untouched (hmoves.untouched n (by omega) hin)
      hmoves.shape (h.tracks.bounded n) (h.tracks.offset_le n)]
    exact hmessage
  · next hout =>
    rw [hmessage, Stored]
    split
    · -- the slot is that of a message that is acknowledged now
      have hempty := hmoves.cleaned (n - H) (by omega) (by omega)
      rw [← hmoves.tracks.slotSize_turn, Nat.sub_add_cancel (by omega), ← hmoves.shape.offset]
        at hempty
      rw [contents_empty hempty]
      exact .nil
    · rfl

/-! ### What is granted -/

omit [MicroCdr] in
/-- An address is in one slot only. -/
theorem OutputReliableStream.Formed.address_inj (hwf : stream.Formed) {m n k j : Nat}
    (hk : k < getReliableBufferCapacity stream.base) (hj : j < getReliableBufferCapacity stream.base)
    (h : getReliableBuffer stream.base (UInt16.ofNat m) + k =
      getReliableBuffer stream.base (UInt16.ofNat n) + j) :
    m % stream.base.history.toNat = n % stream.base.history.toNat ∧ k = j := by
  have hslot := address_div_stride hwf m hk
  rw [h, address_div_stride hwf n hj] at hslot
  rw [ReliableStream.getReliableBuffer_eq, ReliableStream.getReliableBuffer_eq, hwf.base.slot_ofNat,
    hwf.base.slot_ofNat, hslot] at h
  exact ⟨hslot.symm, by omega⟩

/-- What is granted was fresh, and is not any more. -/
theorem Accommodates.apart {granted : OutputReliableStream × UcdrBuffer} {first : Nat}
    {region : Set Nat} {regions : List (Set Nat)}
    (hwrite : Accommodates stream win id flags payload granted stream' win' first item items)
    (hregion : ∀ a ∈ region,
      Reaches outputDevice (submessageSize payload.length) granted.1 granted.2 a)
    (h : Apart (freshAddresses stream win) regions) :
    Apart (freshAddresses stream' win') (region :: regions) := by
  have hacked := hwrite.acked
  have hstart := hwrite.start
  have hwritten := hwrite.written
  have hinWindow := hwrite.inWindow
  have hunsent := win.acked_le_sent
  have hunwritten := win.sent_lt_written
  refine h.grant ?_ (Set.disjoint_left.mpr ?_) ?_
  · rintro a ha
    obtain ⟨m, k, hlo, hhi, rfl, hk, hbehind⟩ := hwrite.region a (hregion a ha)
    have hbounded := hwrite.tracks.bounded m
    rw [hwrite.shape.capacity] at hbounded
    refine ⟨m, k, by omega, by omega, rfl, by omega, ?_⟩
    intro hm
    have hfirst : m = first := by omega
    rw [hfirst]
    exact hbehind hfirst
  · rintro a ha ⟨m', k', hlo', hhi', heq, hk', hbehind'⟩
    obtain ⟨m, k, hlo, hhi, rfl, hk, -⟩ := hwrite.region a (hregion a ha)
    have hbounded := hwrite.tracks.bounded m
    rw [← hwrite.shape.buffer] at heq
    obtain ⟨hslot, rfl⟩ := hwrite.tracks.formed.address_inj (Nat.lt_of_lt_of_le hk hbounded) hk' heq
    -- the last written slot is the only one of both
    have hsame : m = m' := by
      by_contra hne
      exact hwrite.tracks.mod_ne hne (by omega) (by omega) hslot
    subst hsame
    exact absurd (hbehind' (by omega)) (Nat.not_le_of_gt hk)
  · refine freshAddresses_subset hwrite.shape hacked (by omega) fun hsame => ?_
    have hfirst : first = win.written := by omega
    rw [← hfirst]
    exact hwrite.grows

end

/-! ## Best-effort streams -/

section

variable {stream : OutputBestEffortStream} {box : Outbox PackedSubmessage}

/-- The buffer of a stream holds the one message of an outbox. -/
structure BestEffortQueued (stream : OutputBestEffortStream) (box : Outbox PackedSubmessage) :
    Prop where
  offset_aligned : stream.offset.toNat % 4 = 0
  writer_aligned : stream.writer % 4 = 0
  offset_le : stream.offset.toNat ≤ stream.writer
  writer_le : stream.writer ≤ stream.size
  size_lt : stream.size < 65536
  closed : box.closed = []
  current : Packs (read stream.buffer stream.offset.toNat (stream.writer - stream.offset.toNat))
    box.current

/-- The addresses that a write may grant: those behind the message. -/
def freshBytes (stream : OutputBestEffortStream) : Set Nat := { a | stream.writer ≤ a }

omit [MicroCdr] in
theorem submessageSize_aligned (payloadSize : Nat) : submessageSize payloadSize % 4 = 0 := by
  rw [submessageSize, submessagePadding_eq, subheaderSize, alignment]
  omega

/-- Room behind the message. -/
theorem prepareBestEffortBufferToWrite_eq [LawfulMicroCdr] (h : BestEffortQueued stream box)
    {size : Nat} {stream₁ : OutputBestEffortStream} {ub₁ : UcdrBuffer}
    (hgrant : prepareBestEffortBufferToWrite stream size = some (stream₁, ub₁)) :
    stream.writer + size ≤ stream.size ∧ stream₁ = { stream with writer := stream.writer + size } ∧
      ub₁.error = false ∧ ub₁.iterator = stream.writer ∧ ub₁.final = stream.writer + size ∧
        ub₁.offset = stream.writer := by
  have hpadding : submessagePadding stream.writer = 0 := if_neg (by rw [subheaderSize, h.writer_aligned]; simp)
  have hsize := h.size_lt
  rw [prepareBestEffortBufferToWrite] at hgrant
  rw [hpadding, Nat.add_zero] at hgrant
  split at hgrant
  · next hle =>
    rw [Nat.mod_eq_of_lt (by omega), Nat.mod_eq_of_lt (by omega), LawfulMicroCdr.init] at hgrant
    obtain ⟨rfl, rfl⟩ := Prod.mk.inj (Option.some.inj hgrant)
    refine ⟨hle, rfl, rfl, Nat.zero_add _, Nat.zero_add _, Nat.zero_add _⟩
  · cases hgrant

/-- A submessage behind the message. -/
theorem BestEffortQueued.write [LawfulMicroCdr] (h : BestEffortQueued stream box) {id flags : UInt8}
    {payload : List UInt8} {stream₁ : OutputBestEffortStream} {ub₁ : UcdrBuffer}
    (hgrant : prepareBestEffortBufferToWrite stream (submessageSize payload.length) =
      some (stream₁, ub₁)) :
    ∃ buffer ub', ∃ box', Puts Device.plain
        (submessageHeaderBytes id (UInt16.ofNat payload.length) flags ++ payload) stream₁.buffer ub₁
        buffer ub' ∧
      PutsPieces id flags payload box box' ∧ BestEffortQueued { stream₁ with buffer } box' := by
  obtain ⟨hroom, rfl, hok, hiterator, hfinal, -⟩ := prepareBestEffortBufferToWrite_eq h hgrant
  have hle := h.offset_le
  have hlt := h.size_lt
  have hwriter := h.writer_aligned
  have hoffset := h.offset_aligned
  have hsize : submessageSize payload.length = 4 + payload.length + alignment payload.length := by
    rw [submessageSize, submessagePadding_eq, subheaderSize]
  obtain ⟨bytes, hbytes⟩ : ∃ bytes, bytes =
      submessageHeaderBytes id (UInt16.ofNat payload.length) flags ++ payload := ⟨_, rfl⟩
  have hlength : bytes.length = 4 + payload.length := by
    rw [hbytes, List.length_append, submessageHeaderBytes_length]
  have hputs := puts_plain bytes stream.buffer ub₁ hok (by omega)
  rw [hiterator] at hputs
  refine ⟨_, _, box.put { id, flags := otherFlags flags, payload }, hbytes ▸ hputs,
    ⟨_, [], box, .whole (by omega), .inl rfl, rfl⟩, ?_⟩
  refine
    { offset_aligned := hoffset
      writer_aligned := ?_
      offset_le := Nat.le_trans hle (Nat.le_add_right _ _)
      writer_le := hroom
      size_lt := hlt
      closed := h.closed
      current := ?_ }
  · have haligned := submessageSize_aligned payload.length
    show (stream.writer + submessageSize payload.length) % 4 = 0
    omega
  · have halignment : alignment (stream.writer - stream.offset.toNat) = 0 := by
      rw [alignment]
      omega
    have hkept := @read_write_disjoint stream.buffer stream.writer stream.offset.toNat
      (stream.writer - stream.offset.toNat) bytes (.inl (by omega))
    rw [← hbytes]
    refine h.current.behind (by omega) hkept ?_ ?_ ?_
    · rw [halignment, ← hbytes, ← hlength, Nat.add_zero, Nat.add_sub_cancel' hle, read_write_self]
    · dsimp only
      omega
    · dsimp only
      omega

omit [MicroCdr] in
/-- The message goes out, and the buffer is empty again. -/
theorem BestEffortQueued.send (h : BestEffortQueued stream box) {stream' : OutputBestEffortStream}
    {next : NextBuffer} (hsent : prepareBestEffortBufferToSend stream = (true, stream', next)) :
    ∃ message box', box.leave = some (message, box') ∧ stream'.offset.toNat ≤ next.length ∧
      Packs (read stream'.buffer (next.buffer + stream'.offset.toNat)
        (next.length - stream'.offset.toNat)) message ∧ BestEffortQueued stream' box' := by
  rw [prepareBestEffortBufferToSend] at hsent
  split at hsent
  · next hcontents =>
    cases hsent
    obtain ⟨closed, current⟩ := box
    obtain rfl : closed = [] := h.closed
    have hcurrent : Packs _ current := h.current
    have hne : current ≠ [] := by
      refine hcurrent.ne_nil fun hnil => ?_
      have hlength := congrArg List.length hnil
      rw [read_length, List.length_nil] at hlength
      omega
    have hle := h.offset_le
    rw [← Nat.zero_add stream.offset.toNat] at hcurrent
    refine ⟨current, Outbox.empty, Outbox.leave_current hne, hle, by simpa using hcurrent, ?_⟩
    refine
      { offset_aligned := h.offset_aligned
        writer_aligned := h.offset_aligned
        offset_le := Nat.le_refl _
        writer_le := Nat.le_trans hle h.writer_le
        size_lt := h.size_lt
        closed := rfl
        current := ?_ }
    dsimp only
    rw [Nat.sub_self]
    exact .nil
  · cases hsent

end

end

end XrceClient
