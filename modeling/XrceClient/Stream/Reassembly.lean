import XrceClient.Stream.AcknackContent

/-!
# Messages put together again

What the reader of an input reliable stream gets, when some messages come in one slot and others in
the fragments of several slots, and the reader goes through each of them to its end.

- `Assembles`, `assemble`: the messages that slots make up, as a relation and as a function.
- `nextUnits`, `readStreamUnits`: the loop of `read_stream` and reception, for such a reader.
- `readContents_readToEnd`: it reads to the end of a message, and not beyond it.
- `Waits`: no message of the window is whole.
- `HoldsReceived.takesUnits`: the loop takes whole messages out of the window, until none is left.
- `HoldsReceived.takesOnReception`: so does reception, with the message that arrived among them.
-/

namespace XrceClient

open ByteMemory InputReliableStream

/-! ## The messages that slots make up -/

/-- What a fragment adds to its message. -/
def fragmentContent (slot : List UInt8) : List UInt8 := slot.drop subheaderSize

/-- Slots hold these messages, and each of them is whole. -/
inductive Assembles : List (List UInt8) → List (List UInt8) → Prop
  | nil : Assembles [] []
  | whole {slots units : List (List UInt8)} {slot : List UInt8} (h : Assembles slots units)
      (hkind : messageKind slot = .noFragmented) : Assembles (slots ++ [slot]) (units ++ [slot])
  | fragmented {slots units : List (List UInt8)} {fragments : List (List UInt8)}
      {last : List UInt8} (h : Assembles slots units)
      (hfragments : ∀ slot ∈ fragments, messageKind slot = .intermediateFragment)
      (hlast : messageKind last = .lastFragment) :
      Assembles (slots ++ (fragments ++ [last]))
        (units ++ [(fragments ++ [last]).flatMap fragmentContent])

/-- The messages that slots make up, behind the fragments of one that is still open. A whole message
among its fragments breaks it off. -/
def assembleFrom : Option (List UInt8) → List (List UInt8) → List (List UInt8)
  | _, [] => []
  | opened, slot :: slots =>
    match messageKind slot with
    | .noFragmented => if opened.isNone then slot :: assembleFrom none slots else []
    | .intermediateFragment =>
      assembleFrom (some (opened.getD [] ++ fragmentContent slot)) slots
    | .lastFragment => (opened.getD [] ++ fragmentContent slot) :: assembleFrom none slots

/-- The messages that slots make up. -/
def assemble (slots : List (List UInt8)) : List (List UInt8) := assembleFrom none slots

theorem Assembles.append {slots slots' units units' : List (List UInt8)}
    (h : Assembles slots units) (h' : Assembles slots' units') :
    Assembles (slots ++ slots') (units ++ units') := by
  induction h' with
  | nil => simpa using h
  | whole _ hkind ih =>
    rw [← List.append_assoc, ← List.append_assoc]
    exact ih.whole hkind
  | @fragmented slots' units' fragments last _ hfragments hlast ih =>
    rw [← List.append_assoc slots slots', ← List.append_assoc units]
    exact ih.fragmented hfragments hlast

/-- The fragments of a message, up to the last one. -/
theorem assembleFrom_fragments {fragments : List (List UInt8)} {last : List UInt8}
    (hfragments : ∀ slot ∈ fragments, messageKind slot = .intermediateFragment)
    (hlast : messageKind last = .lastFragment) (opened : Option (List UInt8))
    (rest : List (List UInt8)) :
    assembleFrom opened (fragments ++ last :: rest) =
      (opened.getD [] ++ (fragments ++ [last]).flatMap fragmentContent) ::
        assembleFrom none rest := by
  induction fragments generalizing opened with
  | nil =>
    show assembleFrom opened (last :: rest) = _
    rw [assembleFrom, hlast]
    simp
  | cons slot fragments ih =>
    have hslot := hfragments slot List.mem_cons_self
    show assembleFrom opened (slot :: (fragments ++ last :: rest)) = _
    rw [assembleFrom, hslot]
    dsimp only
    rw [ih fun slot hmem => hfragments slot (List.mem_cons_of_mem _ hmem)]
    simp

theorem Assembles.assemble_append {slots units : List (List UInt8)} (h : Assembles slots units)
    (rest : List (List UInt8)) : assemble (slots ++ rest) = units ++ assemble rest := by
  induction h generalizing rest with
  | nil => rfl
  | @whole slots units slot _ hkind ih =>
    rw [List.append_assoc, ih, List.append_assoc, List.singleton_append, assemble, assembleFrom,
      hkind]
    rfl
  | fragmented _ hfragments hlast ih =>
    rw [List.append_assoc, ih, List.append_assoc, List.append_assoc, List.singleton_append, assemble,
      assembleFrom_fragments hfragments hlast]
    simp [assemble]

/-- What whole messages make up is a prefix of what they make up with others behind. -/
theorem Assembles.prefix_assemble {slots units : List (List UInt8)} (h : Assembles slots units)
    (rest : List (List UInt8)) : units <+: assemble (slots ++ rest) :=
  ⟨assemble rest, (h.assemble_append rest).symm⟩

/-! ## The reader -/

section

variable [MicroCdr]

/-- The contents of the blocks of a fragmented message behind the first one, as its reader comes to
them, and the stream behind them. -/
def readContents : Nat → InputReliableStream → UcdrBuffer → List UInt8 × InputReliableStream
  | 0, stream, _ => ([], stream)
  | blocks + 1, stream, ub =>
    let (_, stream, ub) := onFullInputBuffer stream ub
    let (bytes, stream') := readContents blocks stream ub
    (read stream.base.buffer ub.iterator (ub.final - ub.iterator) ++ bytes, stream')

/-- The reader of a message goes through all its blocks, and then through those of the next one that
is whole: the loop of `read_stream` (session.c:896–900). -/
def nextUnits : Nat → InputReliableStream → Option (List (List UInt8) × InputReliableStream)
  | 0, _ => none
  | fuel + 1, stream => do
    let (available, stream', nextMb) ← nextInputReliableBufferAvailable
      stream.base.history.toNat stream (ucdrInitBuffer 0 0) subheaderSize
    if available then
      let first := read stream'.base.buffer nextMb.iterator (nextMb.final - nextMb.iterator)
      let blocks := Serial.dist (seqNumAdd stream.lastHandled 1) stream'.lastHandled
      let (rest, stream'') := readContents blocks { stream' with cleanupFlag := true } nextMb
      let (units, last) ← nextUnits fuel stream''
      return ((first ++ rest) :: units, last)
    else
      return ([], stream')

/-- The case of `UXR_RELIABLE_STREAM` in `read_stream` (session.c:884–904), for such a reader. -/
def readStreamUnits (fuel : Nat) (stream : InputReliableStream) (seqNum : SeqNum)
    (msg : Datagram) : Option (List (List UInt8) × InputReliableStream) := do
  let received ← receiveReliableMessage stream.base.history.toNat stream seqNum msg false
  if received.readyToRead then
    let (units, stream) ← nextUnits fuel received.stream
    return (if received.messageStored then units else msg.bytes :: units, stream)
  else
    return ([], received.stream)

/-- The reader empties slots. -/
theorem readContents_emptied (blocks : Nat) (stream : InputReliableStream) (ub : UcdrBuffer) :
    Emptied stream (readContents blocks stream ub).2 := by
  induction blocks generalizing stream ub with
  | zero => exact .refl
  | succ blocks ih => exact (Emptied.refl.onFullInputBuffer ub).trans (ih _ _)

end

/-! ### One block -/

section

variable [MicroCdr] [LawfulMicroCdr] {stream : InputReliableStream}

omit [MicroCdr] [LawfulMicroCdr] in
theorem fragmentContent_read (memory : Memory) (buffer : Nat) {length : Nat} (h : 4 ≤ length) :
    fragmentContent (read memory buffer length) = read memory (buffer + 4) (length - 4) := by
  obtain ⟨n, rfl⟩ := Nat.exists_eq_add_of_le h
  rw [read_append, fragmentContent, Nat.add_sub_cancel_left]
  exact List.drop_left' (read_length _ _ _)

/-- One call of the callback empties the slot behind that in which the buffer starts. -/
theorem onFullInputBuffer_clear (hwf : stream.base.WellFormed)
    (hcleanup : stream.cleanupFlag = true) {ub : UcdrBuffer} {p : Nat}
    (hinit : ub.init = getReliableBuffer stream.base (UInt16.ofNat p) + 4)
    (hsize : 4 < stream.slotSize (p + 1)) (hfits : stream.slotSize (p + 1) + 4 ≤ stream.base.stride) :
    (onFullInputBuffer stream ub).2.1 = stream.clear (p + 1) ∧
      (onFullInputBuffer stream ub).2.2.init =
        getReliableBuffer stream.base (UInt16.ofNat (p + 1)) + 4 := by
  have hposition : stream.base.slot (nextHistoryPosition stream.base ub) =
      stream.base.slot (UInt16.ofNat (p + 1)) := by
    have hdiv : ub.init / stream.base.stride = p % stream.base.history.toNat := by
      rw [hinit, ReliableStream.getReliableBuffer_eq, hwf.slot_ofNat]
      refine Nat.div_eq_of_lt_le ?_ ?_
      · omega
      · rw [Nat.succ_mul]
        omega
    rw [nextHistoryPosition, getReliableBufferHistoryPosition]
    change stream.base.slot (1 + UInt16.ofNat (ub.init / stream.base.stride)) = _
    rw [hdiv, UInt16.add_comm, Serial.ofNat_succ, hwf.slot_ofNat, hwf.slot_ofNat, Nat.mod_add_mod]
  have hnext : getReliableBufferSize stream.base (nextHistoryPosition stream.base ub) =
      stream.slotSize (p + 1) := ReliableStream.getReliableBufferSize_congr hposition
  have hlarge : ¬ getReliableBufferSize stream.base (nextHistoryPosition stream.base ub) <
      subheaderSize := by
    rw [hnext]
    exact Nat.not_lt.mpr (Nat.le_of_lt hsize)
  have hbuffer : getReliableBuffer stream.base (nextHistoryPosition stream.base ub) =
      getReliableBuffer stream.base (UInt16.ofNat (p + 1)) := by
    rw [ReliableStream.getReliableBuffer_eq, ReliableStream.getReliableBuffer_eq, hposition]
  have hclear : setReliableBufferSize stream.base (nextHistoryPosition stream.base ub) 0 =
      setReliableBufferSize stream.base (UInt16.ofNat (p + 1)) 0 := by
    have hset (q : SeqNum) : setReliableBufferSize stream.base q 0 =
        { stream.base with buffer := (setReliableBufferSize stream.base q 0).buffer } := rfl
    rw [hset, hset (UInt16.ofNat (p + 1)), ReliableStream.setReliableBufferSize_buffer,
      ReliableStream.setReliableBufferSize_buffer, hposition]
  unfold onFullInputBuffer
  dsimp only
  rw [if_neg hlarge, if_pos hcleanup]
  refine ⟨?_, ?_⟩
  · rw [clear, ← hclear]
  · show (ucdrInitBufferOrigin _ _ _).init = _
    rw [ucdrInitBufferOrigin, LawfulMicroCdr.init, hbuffer]
    rfl

/-- The block behind that of the `p`-th slot holds what the next slot holds behind the header of its
fragment. -/
theorem onFullInputBuffer_content (hwf : stream.base.WellFormed)
    (hcleanup : stream.cleanupFlag = true) (hhistory : 1 < stream.base.history.toNat)
    {ub : UcdrBuffer} {p : Nat}
    (hinit : ub.init = getReliableBuffer stream.base (UInt16.ofNat p) + 4)
    (hsize : 4 < stream.slotSize (p + 1))
    (hfits : stream.slotSize (p + 1) + 4 ≤ stream.base.stride) :
    read (onFullInputBuffer stream ub).2.1.base.buffer (onFullInputBuffer stream ub).2.2.iterator
        ((onFullInputBuffer stream ub).2.2.final - (onFullInputBuffer stream ub).2.2.iterator) =
      fragmentContent (stream.slotMessage (p + 1)) := by
  obtain ⟨hstream, hblock⟩ := onFullInputBuffer_clear hwf hcleanup hinit hsize hfits
  have hstride := hwf.stride
  -- addresses of slots tell their numbers, up to turns of the ring
  have hslot {q q' : SeqNum}
      (h : getReliableBuffer stream.base q = getReliableBuffer stream.base q') :
      stream.base.slot q = stream.base.slot q' := by
    rw [ReliableStream.getReliableBuffer_eq, ReliableStream.getReliableBuffer_eq] at h
    exact Nat.eq_of_mul_eq_mul_right (by omega) (Nat.add_right_cancel h)
  -- the new block is the rest of a slot
  have hub : (onFullInputBuffer stream ub).2.2 = ub ∨ ∃ position,
      (onFullInputBuffer stream ub).2.2 =
        (ucdrInitBufferOrigin (getReliableBuffer stream.base position + subheaderSize)
          ((getReliableBufferSize stream.base position - subheaderSize) % 2 ^ 32)
          ub.offset).setOnFullBufferCallback (some .onFullInputBuffer) := by
    unfold onFullInputBuffer
    dsimp only
    split
    · exact .inl rfl
    · exact .inr ⟨_, rfl⟩
  rcases hub with hsame | ⟨position, hub⟩
  · rw [hsame, hinit] at hblock
    have hturn := (slot_eq_iff hwf _ _).mp (hslot (Nat.add_right_cancel hblock))
    exact absurd hturn (OutputReliableStream.mod_ne_of_window (by omega) (by omega) (by omega))
  · rw [hub, ucdrInitBufferOrigin, LawfulMicroCdr.init] at hblock
    have hposition := hslot (Nat.add_right_cancel hblock)
    have hlength : getReliableBufferSize stream.base position = stream.slotSize (p + 1) :=
      ReliableStream.getReliableBufferSize_congr hposition
    have hlt : stream.slotSize (p + 1) < 2 ^ 32 := ReliableStream.getReliableBufferSize_lt _
    rw [hstream, hub, ucdrInitBufferOrigin, LawfulMicroCdr.init, hlength]
    show read (stream.clear (p + 1)).base.buffer (getReliableBuffer stream.base position + 4 + 0)
      (getReliableBuffer stream.base position + 4 + (stream.slotSize (p + 1) - 4) % 2 ^ 32 -
        (getReliableBuffer stream.base position + 4 + 0)) = _
    rw [Nat.mod_eq_of_lt (by omega), Nat.add_zero, Nat.add_sub_cancel_left,
      Nat.add_right_cancel hblock, slotMessage, ReliableStream.bytesFrom, Nat.add_zero,
      fragmentContent_read _ _ (Nat.le_of_lt hsize)]
    exact @ReliableStream.bytesFrom_set stream.base (UInt16.ofNat (p + 1)) (UInt16.ofNat (p + 1)) 4
      (stream.slotSize (p + 1) - 4) (by omega) 0

/-- The reader empties the slots of the blocks that it goes through, and no others. -/
theorem readContents_readToEnd (hwf : stream.base.WellFormed) (hcleanup : stream.cleanupFlag = true)
    {ub : UcdrBuffer} {p blocks : Nat}
    (hinit : ub.init = getReliableBuffer stream.base (UInt16.ofNat p) + 4)
    (hblocks : blocks < stream.base.history.toNat)
    (hsizes : ∀ n, p < n → n ≤ p + blocks →
      4 < stream.slotSize n ∧ stream.slotSize n + 4 ≤ stream.base.stride) :
    ReadToEnd stream (readContents blocks stream ub).2 p blocks := by
  induction blocks generalizing stream ub p with
  | zero => exact ⟨fun n h₁ h₂ => absurd h₁ (Nat.not_lt.mpr h₂), fun n _ _ => rfl⟩
  | succ blocks ih =>
    obtain ⟨hsize, hfits⟩ := hsizes (p + 1) (Nat.lt_succ_self p) (by omega)
    obtain ⟨hstream, hub⟩ := onFullInputBuffer_clear hwf hcleanup hinit hsize hfits
    have hother (n : Nat) (h₁ : p + 1 < n) (h₂ : n ≤ p + stream.base.history.toNat) :
        (stream.clear (p + 1)).slotSize n = stream.slotSize n := by
      rw [slotSize_clear hwf, if_neg (OutputReliableStream.mod_ne_of_window (by omega) (by omega)
        (by omega))]
    have hrest := @ih (stream.clear (p + 1)) ⟨hwf.history, hwf.stride⟩ hcleanup
      (onFullInputBuffer stream ub).2.2 (p + 1) hub (Nat.lt_of_succ_lt hblocks) ?_
    · have hemptied := readContents_emptied blocks (stream.clear (p + 1))
        (onFullInputBuffer stream ub).2.2
      rw [readContents]
      dsimp only
      rw [hstream]
      refine ⟨fun n h₁ h₂ => ?_, fun n h₁ h₂ => ?_⟩
      · rcases Nat.eq_or_lt_of_le h₁ with rfl | hlater
        · have hfirst := (slotSize_clear hwf (p + 1) (p + 1)).trans (if_pos rfl)
          rcases hemptied.size_or (Nat.le_of_lt hwf.stride) (UInt16.ofNat (p + 1)) with
            hsame | hzero
          · exact hsame.trans hfirst
          · exact hzero
        · exact hrest.emptied n hlater (by omega)
      · exact (hrest.kept n (by omega)
          (show n < p + 1 + stream.base.history.toNat by omega)).trans (hother n (by omega) (by omega))
    · intro n h₁ h₂
      rw [hother n h₁ (by omega)]
      exact hsizes n (by omega) (by omega)

/-- The reader of a fragmented message gets what its slots hold. -/
theorem readContents_bytes (hwf : stream.base.WellFormed) (hcleanup : stream.cleanupFlag = true)
    {ub : UcdrBuffer} {p blocks : Nat}
    (hinit : ub.init = getReliableBuffer stream.base (UInt16.ofNat p) + 4)
    (hblocks : blocks < stream.base.history.toNat)
    (hsizes : ∀ n, p < n → n ≤ p + blocks →
      4 < stream.slotSize n ∧ stream.slotSize n + 4 ≤ stream.base.stride) :
    (readContents blocks stream ub).1 =
      (List.range blocks).flatMap fun i => fragmentContent (stream.slotMessage (p + 1 + i)) := by
  induction blocks generalizing stream ub p with
  | zero => rfl
  | succ blocks ih =>
    obtain ⟨hsize, hfits⟩ := hsizes (p + 1) (Nat.lt_succ_self p) (by omega)
    obtain ⟨hstream, hub⟩ := onFullInputBuffer_clear hwf hcleanup hinit hsize hfits
    have hfirst := onFullInputBuffer_content hwf hcleanup (by omega) hinit hsize hfits
    have hother (n : Nat) (h₁ : p + 1 < n) (h₂ : n ≤ p + 1 + blocks) :
        n % stream.base.history.toNat ≠ (p + 1) % stream.base.history.toNat :=
      OutputReliableStream.mod_ne_of_window (by omega) (by omega) (by omega)
    have hrest := @ih (stream.clear (p + 1)) ⟨hwf.history, hwf.stride⟩ hcleanup
      (onFullInputBuffer stream ub).2.2 (p + 1) hub (Nat.lt_of_succ_lt hblocks) ?_
    · rw [readContents, List.range_succ_eq_map, List.flatMap_cons, List.flatMap_map]
      dsimp only
      rw [hfirst, hstream, hrest]
      refine congrArg (fragmentContent (stream.slotMessage (p + 1)) ++ ·) ?_
      refine List.flatMap_congr fun i hi => ?_
      have hi' := List.mem_range.mp hi
      rw [slotMessage_clear hwf (hother _ (by omega) (by omega)) (hsizes _ (by omega) (by omega)).2,
        show p + 1 + 1 + i = p + 1 + i.succ by omega]
    · intro n h₁ h₂
      rw [slotSize_clear hwf, if_neg (hother n h₁ h₂)]
      exact hsizes n (by omega) (by omega)

omit [MicroCdr] [LawfulMicroCdr] in
/-- A walk that finds the last fragment has come over intermediate ones only. -/
theorem checkLastFragmentFrom_whole {fuel p : Nat} {last : SeqNum}
    (h : checkLastFragmentFrom stream fuel (UInt16.ofNat p) = some (true, last)) :
    ∃ j, j < fuel ∧ last = UInt16.ofNat (p + 1 + j) ∧
      (∀ n, p < n → n ≤ p + 1 + j → stream.slotSize n ≠ 0) ∧
      (∀ n, p < n → n < p + 1 + j →
        stream.fragmentationInfo (UInt16.ofNat n) = .intermediateFragment) ∧
      stream.fragmentationInfo (UInt16.ofNat (p + 1 + j)) = .lastFragment := by
  induction fuel generalizing p with
  | zero => cases h
  | succ fuel ih =>
    rw [checkLastFragmentFrom, seqNumAdd_one] at h
    split at h
    · next hfilled =>
      split at h
      · next hinfo =>
        cases h
        refine ⟨0, Nat.succ_pos fuel, rfl, ?_, ?_, hinfo⟩
        · intro n h₁ h₂
          rw [Nat.le_antisymm h₂ h₁]
          exact hfilled
        · intro n h₁ h₂
          omega
      · next hinfo =>
        obtain ⟨j, hle, hlast, hwalk, hintermediate, hfound⟩ := ih h
        refine ⟨j + 1, by omega, by rw [hlast]; congr 1; omega, ?_, ?_, ?_⟩
        · intro n h₁ h₂
          rcases Nat.eq_or_lt_of_le h₁ with rfl | hlater
          · exact hfilled
          · exact hwalk n hlater (by omega)
        · intro n h₁ h₂
          rcases Nat.eq_or_lt_of_le h₁ with rfl | hlater
          · exact hinfo
          · exact hintermediate n hlater (by omega)
        · rw [show p + 1 + (j + 1) = p + 1 + 1 + j by omega]
          exact hfound
      · cases h
    · cases h

end

/-! ### One message -/

section

variable [MicroCdr] {stream : InputReliableStream} {message : Nat → List UInt8} {handled : Nat}
  {received : Nat → Prop}

/-- The messages that follow on the `handled`-th. -/
def following (message : Nat → List UInt8) (handled count : Nat) : List (List UInt8) :=
  (List.range count).map fun i => message (handled + 1 + i)

/-- The flag is no part of what is held. -/
theorem HoldsReceived.setFlag (h : HoldsReceived message stream handled received) (flag : Bool) :
    HoldsReceived message { stream with cleanupFlag := flag } handled received :=
  ⟨⟨h.buffers.wellFormed, h.buffers.lastHandled, h.buffers.fits, h.buffers.held⟩, h.callback,
    h.filled, h.bounded, h.payload⟩

/-- A message is taken out of the window, with all its fragments. -/
structure TakesUnit (message : Nat → List UInt8) (stream : InputReliableStream) (handled : Nat)
    (received : Nat → Prop) (unit : List UInt8) (stream' : InputReliableStream) (count : Nat) :
    Prop where
  holds : HoldsReceived message stream' (handled + count) received
  pos : 0 < count
  assembles : Assembles (following message handled count) [unit]
  received : ∀ n, handled < n → n ≤ handled + count → received n
  history : stream'.base.history = stream.base.history
  stride : stream'.base.stride = stream.base.stride

variable [LawfulMicroCdr]

/-- A message in one slot. -/
theorem HoldsReceived.takesWhole (h : HoldsReceived message stream handled received)
    (hwhole : stream.fragmentationInfo (seqNumAdd stream.lastHandled 1) = .noFragmented)
    {stream' : InputReliableStream} {fuel : Nat} {ub ub' : UcdrBuffer} {fragmentOffset : Nat}
    (hr : nextInputReliableBufferAvailable fuel stream ub fragmentOffset =
      some (true, stream', ub')) :
    TakesUnit message stream handled received
        (read stream'.base.buffer ub'.iterator (ub'.final - ub'.iterator)) stream' 1 ∧
      stream'.lastHandled = UInt16.ofNat (handled + 1) := by
  have hpos := h.buffers.wellFormed.history_pos
  have htaken := h.takeWhole hwhole hr
  have hinfo := hwhole
  rw [h.buffers.lastHandled, seqNumAdd_one] at hinfo
  rw [nextInputReliableBufferAvailable, h.buffers.lastHandled, seqNumAdd_one] at hr
  dsimp only at hr
  rw [hinfo] at hr
  split at hr
  · next hfilled =>
    cases hr
    obtain ⟨hheld, hkind⟩ := h.kind (Nat.lt_succ_self handled) (by omega) hfilled
    have hread : read (stream.clear (handled + 1)).base.buffer
        (ucdrInitBuffer (getReliableBuffer stream.base (UInt16.ofNat (handled + 1)))
          (getReliableBufferSize stream.base (UInt16.ofNat (handled + 1)) % 2 ^ 32)).iterator
        ((ucdrInitBuffer (getReliableBuffer stream.base (UInt16.ofNat (handled + 1)))
          (getReliableBufferSize stream.base (UInt16.ofNat (handled + 1)) % 2 ^ 32)).final -
          (ucdrInitBuffer (getReliableBuffer stream.base (UInt16.ofNat (handled + 1)))
            (getReliableBufferSize stream.base (UInt16.ofNat (handled + 1)) % 2 ^ 32)).iterator) =
        message (handled + 1) := by
      rw [ucdrInitBuffer, LawfulMicroCdr.init,
        Nat.mod_eq_of_lt (ReliableStream.getReliableBufferSize_lt _)]
      simp only [Nat.add_zero, Nat.add_sub_cancel_left]
      rw [hheld, slotMessage, ReliableStream.bytesFrom, Nat.add_zero]
      exact read_clear h.buffers.wellFormed (handled + 1) (handled + 1) (h.buffers.fits (handled + 1))
    refine ⟨⟨htaken, Nat.one_pos, ?_, ?_, rfl, rfl⟩, rfl⟩
    · have hsingle : following message handled 1 = [message (handled + 1)] := rfl
      rw [hsingle]
      refine (congrArg (fun bytes => Assembles [message (handled + 1)] [bytes]) hread).mpr ?_
      exact Assembles.nil.whole (hkind ▸ hinfo)
    · intro n h₁ h₂
      rw [Nat.le_antisymm h₂ h₁]
      exact (h.filled _ (Nat.lt_succ_self handled) (by omega)).mp hfilled
  · cases hr

/-- What the search for a message in fragments finds. -/
theorem HoldsReceived.nextFragmented (h : HoldsReceived message stream handled received)
    (hfragmented : stream.fragmentationInfo (seqNumAdd stream.lastHandled 1) ≠ .noFragmented)
    {stream' : InputReliableStream} {ub ub' : UcdrBuffer}
    (hr : nextInputReliableBufferAvailable stream.base.history.toNat stream ub subheaderSize =
      some (true, stream', ub')) :
    ∃ blocks, blocks < stream.base.history.toNat ∧
      stream' = { stream.clear (handled + 1) with
        lastHandled := UInt16.ofNat (handled + 1 + blocks) } ∧
      ub'.init = getReliableBuffer stream.base (UInt16.ofNat (handled + 1)) + 4 ∧
      ub'.iterator = ub'.init ∧
      ub'.final = ub'.init +
        (stream.slotSize (handled + 1) + 2 ^ 32 - subheaderSize) % 2 ^ 32 ∧
      (∀ n, handled < n → n ≤ handled + 1 + blocks → stream.slotSize n ≠ 0) ∧
      (∀ n, handled < n → n < handled + 1 + blocks →
        stream.fragmentationInfo (UInt16.ofNat n) = .intermediateFragment) ∧
      stream.fragmentationInfo (UInt16.ofNat (handled + 1 + blocks)) = .lastFragment := by
  rw [h.buffers.lastHandled, seqNumAdd_one] at hfragmented
  rw [nextInputReliableBufferAvailable, h.buffers.lastHandled, seqNumAdd_one] at hr
  dsimp only at hr
  split at hr
  · split at hr
    · next hinfo => exact absurd hinfo hfragmented
    · obtain ⟨⟨found, last⟩, hcheck, heq⟩ := Option.map_eq_some_iff.mp hr
      dsimp only at heq
      cases found with
      | false => cases heq
      | true =>
        rw [if_pos rfl] at heq
        cases heq
        rw [checkLastFragment, h.buffers.lastHandled] at hcheck
        obtain ⟨j, hj, rfl, hfilled, hintermediate, hlast⟩ := checkLastFragmentFrom_whole hcheck
        refine ⟨j, hj, rfl, ?_, ?_, ?_, hfilled, hintermediate, hlast⟩
        · rw [ucdrInitBuffer, LawfulMicroCdr.init]
          rfl
        · rw [ucdrInitBuffer, LawfulMicroCdr.init]
          rfl
        · rw [ucdrInitBuffer, LawfulMicroCdr.init]
          rfl
  · cases hr

/-- The slots behind the `handled`-th message hold the fragments of the next one, each with a
payload. -/
structure FragmentsWait (message : Nat → List UInt8) (stream : InputReliableStream)
    (handled blocks : Nat) : Prop where
  held : ∀ n, handled < n → n ≤ handled + 1 + blocks → message n = stream.slotMessage n
  payload : ∀ n, handled < n → n ≤ handled + 1 + blocks → 4 < stream.slotSize n
  intermediate : ∀ n, handled < n → n < handled + 1 + blocks →
    messageKind (message n) = .intermediateFragment
  last : messageKind (message (handled + 1 + blocks)) = .lastFragment

theorem HoldsReceived.fragmentsWait (h : HoldsReceived message stream handled received) {blocks : Nat}
    (hblocks : blocks < stream.base.history.toNat)
    (hfilled : ∀ n, handled < n → n ≤ handled + 1 + blocks → stream.slotSize n ≠ 0)
    (hintermediate : ∀ n, handled < n → n < handled + 1 + blocks →
      stream.fragmentationInfo (UInt16.ofNat n) = .intermediateFragment)
    (hlast : stream.fragmentationInfo (UInt16.ofNat (handled + 1 + blocks)) = .lastFragment) :
    FragmentsWait message stream handled blocks := by
  have hkind (n : Nat) (h₁ : handled < n) (h₂ : n ≤ handled + 1 + blocks) :=
    h.kind h₁ (by omega) (hfilled n h₁ h₂)
  have hmiddle (n : Nat) (h₁ : handled < n) (h₂ : n < handled + 1 + blocks) :=
    (hkind n h₁ (by omega)).2.symm.trans (hintermediate n h₁ h₂)
  have hend := (hkind (handled + 1 + blocks) (by omega) (Nat.le_refl _)).2.symm.trans hlast
  refine ⟨fun n h₁ h₂ => (hkind n h₁ h₂).1, fun n h₁ h₂ => ?_, hmiddle, hend⟩
  have hfragment : messageKind (message n) ≠ .noFragmented := by
    rcases Nat.lt_or_eq_of_le h₂ with hlt | rfl
    · rw [hmiddle n h₁ hlt]
      decide
    · rw [hend]
      decide
  have hpayload := h.payload n ((h.filled n h₁ (by omega)).mp (hfilled n h₁ h₂)) hfragment
  rw [(hkind n h₁ h₂).1, slotMessage, ReliableStream.bytesFrom_length] at hpayload
  exact hpayload

omit [MicroCdr] [LawfulMicroCdr] in
/-- Fragments up to a last one make up one message. -/
theorem FragmentsWait.assembles {blocks : Nat}
    (h : FragmentsWait message stream handled blocks) :
    Assembles (following message handled (1 + blocks))
      [fragmentContent (message (handled + 1)) ++
        (List.range blocks).flatMap fun i => fragmentContent (message (handled + 1 + 1 + i))] := by
  have hfragments : following message handled (1 + blocks) =
      (List.range blocks).map (fun i => message (handled + 1 + i)) ++
        [message (handled + 1 + blocks)] := by
    rw [following, Nat.add_comm 1 blocks, List.range_succ, List.map_append]
    rfl
  have hbytes : (following message handled (1 + blocks)).flatMap fragmentContent =
      fragmentContent (message (handled + 1)) ++
        (List.range blocks).flatMap fun i => fragmentContent (message (handled + 1 + 1 + i)) := by
    rw [following, Nat.add_comm 1 blocks, List.range_succ_eq_map, List.map_cons, List.flatMap_cons,
      List.map_map, List.flatMap_map]
    refine congrArg (fragmentContent (message (handled + 1)) ++ ·) ?_
    refine List.flatMap_congr fun i _ => ?_
    show fragmentContent (message (handled + 1 + (i + 1))) = _
    congr 2
    omega
  rw [← hbytes, hfragments]
  refine Assembles.nil.fragmented ?_ h.last
  intro slot hslot
  obtain ⟨i, hi, rfl⟩ := List.mem_map.mp hslot
  have hi' := List.mem_range.mp hi
  exact h.intermediate _ (by omega) (by omega)

omit [MicroCdr] [LawfulMicroCdr] in
/-- The first block is the slot of the first fragment, behind its header. -/
theorem FragmentsWait.firstBlock {blocks : Nat} (h : FragmentsWait message stream handled blocks)
    (hfits : stream.slotSize (handled + 1) + 4 ≤ stream.base.stride) :
    read (stream.clear (handled + 1)).base.buffer
        (getReliableBuffer stream.base (UInt16.ofNat (handled + 1)) + 4)
        ((stream.slotSize (handled + 1) + 2 ^ 32 - subheaderSize) % 2 ^ 32) =
      fragmentContent (message (handled + 1)) := by
  have hsize := h.payload (handled + 1) (Nat.lt_succ_self _) (by omega)
  have hlt : stream.slotSize (handled + 1) < 2 ^ 32 := ReliableStream.getReliableBufferSize_lt _
  have hlength : (stream.slotSize (handled + 1) + 2 ^ 32 - subheaderSize) % 2 ^ 32 =
      stream.slotSize (handled + 1) - 4 := by
    show (stream.slotSize (handled + 1) + 2 ^ 32 - 4) % 2 ^ 32 = _
    omega
  rw [h.held (handled + 1) (Nat.lt_succ_self _) (by omega), slotMessage, ReliableStream.bytesFrom,
    Nat.add_zero, fragmentContent_read _ _ (Nat.le_of_lt hsize), hlength]
  exact @ReliableStream.bytesFrom_set stream.base (UInt16.ofNat (handled + 1))
    (UInt16.ofNat (handled + 1)) 4 (stream.slotSize (handled + 1) - 4) (by omega) 0

/-- What the reader gets behind the first block, and what it leaves. -/
theorem FragmentsWait.nextBlocks (hwf : stream.base.WellFormed) {blocks : Nat}
    (h : FragmentsWait message stream handled blocks)
    (hfits : ∀ n, stream.slotSize n + 4 ≤ stream.base.stride)
    (hblocks : blocks < stream.base.history.toNat) {stream' : InputReliableStream} {ub : UcdrBuffer}
    (hstream' : stream'.base = (stream.clear (handled + 1)).base) (hcleanup : stream'.cleanupFlag = true)
    (hinit : ub.init = getReliableBuffer stream.base (UInt16.ofNat (handled + 1)) + 4) :
    (readContents blocks stream' ub).1 =
        ((List.range blocks).flatMap fun i => fragmentContent (message (handled + 1 + 1 + i))) ∧
      ReadToEnd stream' (readContents blocks stream' ub).2 (handled + 1) blocks := by
  have hother (n : Nat) (h₁ : handled + 1 < n) (h₂ : n ≤ handled + 1 + blocks) :
      n % stream.base.history.toNat ≠ (handled + 1) % stream.base.history.toNat :=
    OutputReliableStream.mod_ne_of_window (by omega) (by omega) (by omega)
  have hslotSize (n : Nat) : stream'.slotSize n = (stream.clear (handled + 1)).slotSize n := by
    rw [slotSize, hstream']
    rfl
  have hslotMessage (n : Nat) : stream'.slotMessage n = (stream.clear (handled + 1)).slotMessage n := by
    rw [slotMessage, hslotSize, hstream']
    rfl
  have hwf' : stream'.base.WellFormed := by
    rw [hstream']
    exact ⟨hwf.history, hwf.stride⟩
  have hinit' : ub.init = getReliableBuffer stream'.base (UInt16.ofNat (handled + 1)) + 4 := by
    rw [hstream']
    exact hinit
  have hblocks' : blocks < stream'.base.history.toNat := by
    rw [hstream']
    exact hblocks
  have hsizes (n : Nat) (h₁ : handled + 1 < n) (h₂ : n ≤ handled + 1 + blocks) :
      4 < stream'.slotSize n ∧ stream'.slotSize n + 4 ≤ stream'.base.stride := by
    rw [hslotSize, slotSize_clear hwf, if_neg (hother n h₁ h₂), hstream']
    exact ⟨h.payload n (by omega) h₂, hfits n⟩
  refine ⟨?_, readContents_readToEnd hwf' hcleanup hinit' hblocks' hsizes⟩
  refine (readContents_bytes hwf' hcleanup hinit' hblocks' hsizes).trans ?_
  refine List.flatMap_congr fun i hi => ?_
  have hi' := List.mem_range.mp hi
  rw [h.held (handled + 1 + 1 + i) (by omega) (by omega), hslotMessage]
  exact congrArg fragmentContent (slotMessage_clear hwf (hother _ (by omega) (by omega)) (hfits _))

/-- A message in fragments. -/
theorem HoldsReceived.takesFragmented (h : HoldsReceived message stream handled received)
    (hfragmented : stream.fragmentationInfo (seqNumAdd stream.lastHandled 1) ≠ .noFragmented)
    {stream' : InputReliableStream} {ub ub' : UcdrBuffer}
    (hr : nextInputReliableBufferAvailable stream.base.history.toNat stream ub subheaderSize =
      some (true, stream', ub')) :
    ∃ blocks, blocks < stream.base.history.toNat ∧
      stream'.lastHandled = UInt16.ofNat (handled + 1 + blocks) ∧
      TakesUnit message stream handled received
        (read stream'.base.buffer ub'.iterator (ub'.final - ub'.iterator) ++
          (readContents blocks { stream' with cleanupFlag := true } ub').1)
        (readContents blocks { stream' with cleanupFlag := true } ub').2 (1 + blocks) := by
  obtain ⟨blocks, hblocks, hstream', hinit, hiterator, hfinal, hfilled, hintermediate, hlast⟩ :=
    h.nextFragmented hfragmented hr
  have hwait := h.fragmentsWait hblocks hfilled hintermediate hlast
  have hfirst := hwait.firstBlock (h.buffers.fits (handled + 1))
  have hlastHandled : stream'.lastHandled = UInt16.ofNat (handled + 1 + blocks) := by
    rw [hstream']
  have hbase : stream'.base = (stream.clear (handled + 1)).base := by
    rw [hstream']
  obtain ⟨hrest, hend⟩ := hwait.nextBlocks h.buffers.wellFormed h.buffers.fits hblocks
    (show { stream' with cleanupFlag := true }.base = _ from hbase) rfl hinit
  have hemptied : Emptied stream' (readContents blocks { stream' with cleanupFlag := true } ub').2 :=
    (Emptied.refl.flag true).trans (readContents_emptied _ _ _)
  refine ⟨blocks, hblocks, hlastHandled, ?_, by omega, ?_, ?_, ?_, ?_⟩
  · rw [← Nat.add_assoc]
    exact h.takeThrough hr hblocks hlastHandled hemptied ⟨hend.emptied, hend.kept⟩
  · rw [hrest, hbase, hfinal, hiterator, hinit, Nat.add_sub_cancel_left, hfirst]
    exact hwait.assembles
  · intro n h₁ h₂
    exact (h.filled n h₁ (by omega)).mp (hfilled n h₁ (by omega))
  · rw [hemptied.shape.2, hbase]
    rfl
  · rw [hemptied.stride, hbase]
    rfl

omit [LawfulMicroCdr] in
theorem TakesUnit.setFlag {unit : List UInt8} {stream' : InputReliableStream} {count : Nat}
    (h : TakesUnit message stream handled received unit stream' count) (flag : Bool) :
    TakesUnit message stream handled received unit { stream' with cleanupFlag := flag } count :=
  ⟨h.holds.setFlag flag, h.pos, h.assembles, h.received, h.history, h.stride⟩

/-- A message, in one slot or in the fragments of several. -/
theorem HoldsReceived.takesUnit (h : HoldsReceived message stream handled received)
    {stream' : InputReliableStream} {ub ub' : UcdrBuffer}
    (hr : nextInputReliableBufferAvailable stream.base.history.toNat stream ub subheaderSize =
      some (true, stream', ub')) :
    ∃ count, TakesUnit message stream handled received
      (read stream'.base.buffer ub'.iterator (ub'.final - ub'.iterator) ++
        (readContents (Serial.dist (seqNumAdd stream.lastHandled 1) stream'.lastHandled)
          { stream' with cleanupFlag := true } ub').1)
      (readContents (Serial.dist (seqNumAdd stream.lastHandled 1) stream'.lastHandled)
        { stream' with cleanupFlag := true } ub').2 count := by
  have hH := h.buffers.wellFormed.history_le
  have hnumber (blocks : Nat) (hblocks : blocks < stream.base.history.toNat)
      (hlast : stream'.lastHandled = UInt16.ofNat (handled + 1 + blocks)) :
      Serial.dist (seqNumAdd stream.lastHandled 1) stream'.lastHandled = blocks := by
    rw [h.buffers.lastHandled, seqNumAdd_one, hlast, Serial.dist_ofNat (by omega) (by omega)]
    omega
  by_cases hwhole : stream.fragmentationInfo (seqNumAdd stream.lastHandled 1) = .noFragmented
  · obtain ⟨htaken, hlast⟩ := h.takesWhole hwhole hr
    rw [hnumber 0 h.buffers.wellFormed.history_pos hlast]
    refine ⟨1, ?_⟩
    show TakesUnit message stream handled received (_ ++ []) _ 1
    rw [List.append_nil]
    exact htaken.setFlag true
  · obtain ⟨blocks, hblocks, hlast, htaken⟩ := h.takesFragmented hwhole hr
    rw [hnumber blocks hblocks hlast]
    exact ⟨1 + blocks, htaken⟩

/-! ### All messages that are whole -/

omit [MicroCdr] [LawfulMicroCdr] in
theorem following_add (a b : Nat) :
    following message handled (a + b) =
      following message handled a ++ following message (handled + a) b := by
  rw [following, List.range_add, List.map_append, List.map_map]
  refine congrArg (following message handled a ++ ·) (List.map_congr_left fun i _ => ?_)
  show message (handled + 1 + (a + i)) = message (handled + a + 1 + i)
  congr 1
  omega

/-- No whole message follows on an intermediate fragment. -/
def Chained (message : Nat → List UInt8) (received : Nat → Prop) : Prop :=
  ∀ n, received n → received (n + 1) → messageKind (message n) = .intermediateFragment →
    messageKind (message (n + 1)) ≠ .noFragmented

/-- The reader waits for a message: one of the window is missing, and all that were received in
front of it are intermediate fragments. -/
structure Waits (message : Nat → List UInt8) (handled history : Nat) (received : Nat → Prop) :
    Prop where
  missing : ∃ n, handled < n ∧ n ≤ handled + history ∧ ¬ received n
  opened : ∀ n, handled < n → (∀ m, handled < m → m ≤ n → received m) →
    messageKind (message n) = .intermediateFragment

/-- A walk that does not find the last fragment ends at a slot that is empty. -/
theorem HoldsReceived.waits_of_walk (h : HoldsReceived message stream handled received)
    (hchained : Chained message received) {fuel p : Nat} {last : SeqNum} (hp : handled ≤ p)
    (hfuel : p + fuel ≤ handled + stream.base.history.toNat)
    (hfragment : received (p + 1) → messageKind (message (p + 1)) ≠ .noFragmented)
    (hwalk : checkLastFragmentFrom stream fuel (UInt16.ofNat p) = some (false, last)) :
    Waits message p fuel received := by
  induction fuel generalizing p with
  | zero => cases hwalk
  | succ fuel ih =>
    rw [checkLastFragmentFrom, seqNumAdd_one] at hwalk
    split at hwalk
    · next hfilled =>
      have hreceived : received (p + 1) := (h.filled _ (by omega) (by omega)).mp hfilled
      obtain ⟨-, hkind⟩ := h.kind (n := p + 1) (by omega) (by omega) hfilled
      split at hwalk
      · cases hwalk
      · next hinfo =>
        rw [hkind] at hinfo
        obtain ⟨⟨n, h₁, h₂, hmissing⟩, hopened⟩ := ih (by omega) (by omega)
          (fun hnext => hchained _ hreceived hnext hinfo) hwalk
        refine ⟨⟨n, by omega, by omega, hmissing⟩, ?_⟩
        intro m hm hall
        rcases Nat.eq_or_lt_of_le hm with rfl | hlater
        · exact hinfo
        · exact hopened m hlater fun k h₁ h₂ => hall k (by omega) h₂
      · next hinfo =>
        rw [hkind] at hinfo
        exact absurd hinfo (hfragment hreceived)
    · next hempty =>
      have hmissing : ¬ received (p + 1) := by
        intro hreceived
        exact hempty ((h.filled _ (by omega) (by omega)).mpr hreceived)
      refine ⟨⟨p + 1, Nat.lt_succ_self p, by omega, hmissing⟩, ?_⟩
      intro n hn hall
      exact absurd (hall (p + 1) (Nat.lt_succ_self p) hn) hmissing

/-- While the reader waits, the search finds nothing. -/
theorem HoldsReceived.waits_drained (h : HoldsReceived message stream handled received)
    (hwaits : Waits message handled stream.base.history.toNat received) :
    ∃ fuel ub r, nextInputReliableBufferAvailable fuel stream ub subheaderSize = some r ∧
      r.1 = false := by
  obtain ⟨⟨n, h₁, h₂, hmissing⟩, hopened⟩ := hwaits
  obtain ⟨first, hfirst, hle⟩ := exists_firstMissing h₁ hmissing
  have hbehind := hfirst.behind
  -- the walk comes over the intermediate fragments to the first missing one
  have hwalk (p fuel : Nat) (hp : handled ≤ p) (hlt : p < first) (hfuel : first ≤ p + fuel) :
      ∃ last, checkLastFragmentFrom stream fuel (UInt16.ofNat p) = some (false, last) := by
    induction fuel generalizing p with
    | zero => omega
    | succ fuel ih =>
      rw [checkLastFragmentFrom, seqNumAdd_one]
      rcases Nat.eq_or_lt_of_le (show p + 1 ≤ first from hlt) with rfl | hlater
      · refine ⟨_, if_neg ?_⟩
        intro hfilled
        exact hfirst.missing ((h.filled _ (by omega) (by omega)).mp hfilled)
      · have hreceived := hfirst.least (p + 1) (by omega) hlater
        have hfilled := (h.filled (p + 1) (by omega) (by omega)).mpr hreceived
        obtain ⟨-, hkind⟩ := h.kind (n := p + 1) (by omega) (by omega) hfilled
        have hinfo := hopened (p + 1) (by omega) fun m h₁ h₂ => hfirst.least m h₁ (by omega)
        change getReliableBufferSize stream.base (UInt16.ofNat (p + 1)) ≠ 0 at hfilled
        rw [if_pos hfilled, hkind, hinfo]
        exact ih (p + 1) (by omega) hlater (by omega)
  obtain ⟨last, hlast⟩ := hwalk handled stream.base.history.toNat (Nat.le_refl _) hbehind (by omega)
  refine ⟨stream.base.history.toNat, ucdrInitBuffer 0 0, ?_⟩
  rw [nextInputReliableBufferAvailable, h.buffers.lastHandled, seqNumAdd_one]
  dsimp only
  by_cases hempty : getReliableBufferSize stream.base (UInt16.ofNat (handled + 1)) ≠ 0
  · have hreceived := (h.filled _ (Nat.lt_succ_self handled) (by omega)).mp hempty
    obtain ⟨-, hkind⟩ := h.kind (n := handled + 1) (by omega) (by omega) hempty
    have hinfo := hopened (handled + 1) (by omega) fun m h₁ h₂ => by
      rw [Nat.le_antisymm h₂ h₁]
      exact hreceived
    rw [if_pos hempty, hkind, hinfo]
    dsimp only
    rw [checkLastFragment, h.buffers.lastHandled, hlast]
    exact ⟨_, rfl, rfl⟩
  · rw [if_neg hempty]
    exact ⟨_, rfl, rfl⟩

/-- Messages are taken out of the window, and none that is left is whole. -/
structure TakesUnits (message : Nat → List UInt8) (stream : InputReliableStream) (handled : Nat)
    (received : Nat → Prop) (units : List (List UInt8)) (stream' : InputReliableStream)
    (count : Nat) : Prop where
  holds : HoldsReceived message stream' (handled + count) received
  waits : Waits message (handled + count) stream'.base.history.toNat received
  assembles : Assembles (following message handled count) units
  received : ∀ n, handled < n → n ≤ handled + count → received n
  history : stream'.base.history = stream.base.history
  stride : stream'.base.stride = stream.base.stride

omit [LawfulMicroCdr] in
/-- A message, and then the others. -/
theorem TakesUnit.cons {unit : List UInt8} {units : List (List UInt8)}
    {stream₁ stream' : InputReliableStream} {count count' : Nat}
    (h : TakesUnit message stream handled received unit stream₁ count)
    (h' : TakesUnits message stream₁ (handled + count) received units stream' count') :
    TakesUnits message stream handled received (unit :: units) stream' (count + count') where
  holds := by
    rw [← Nat.add_assoc]
    exact h'.holds
  waits := by
    rw [← Nat.add_assoc]
    exact h'.waits
  assembles := by
    rw [following_add]
    exact h.assembles.append h'.assembles
  received n h₁ h₂ := by
    rcases Nat.lt_or_ge (handled + count) n with hlater | hearlier
    · exact h'.received n hlater (by omega)
    · exact h.received n h₁ hearlier
  history := h'.history.trans h.history
  stride := h'.stride.trans h.stride

/-- The loop over the messages in the slots. -/
theorem HoldsReceived.takesUnits (h : HoldsReceived message stream handled received)
    (hchained : Chained message received) {fuel : Nat}
    {units : List (List UInt8)} {stream' : InputReliableStream}
    (hloop : nextUnits fuel stream = some (units, stream')) :
    ∃ count, TakesUnits message stream handled received units stream' count := by
  induction fuel generalizing stream handled units with
  | zero => cases hloop
  | succ fuel ih =>
    rw [nextUnits] at hloop
    obtain ⟨⟨available, stream₁, nextMb⟩, hnext, hloop⟩ := Option.bind_eq_some_iff.mp hloop
    dsimp only at hloop
    cases available with
    | false =>
      rw [if_neg Bool.false_ne_true] at hloop
      cases hloop
      -- nothing is taken
      have hnone : stream' = stream ∧ Waits message handled stream.base.history.toNat received := by
        rw [nextInputReliableBufferAvailable, h.buffers.lastHandled, seqNumAdd_one] at hnext
        dsimp only at hnext
        split at hnext
        · next hfilled =>
          have hpos := h.buffers.wellFormed.history_pos
          obtain ⟨-, hkind⟩ := h.kind (n := handled + 1) (by omega) (by omega) hfilled
          split at hnext
          · cases hnext
          · next hinfo =>
            obtain ⟨⟨found, last⟩, hwalk, heq⟩ := Option.map_eq_some_iff.mp hnext
            cases found with
            | true => cases heq
            | false =>
              cases heq
              rw [checkLastFragment, h.buffers.lastHandled] at hwalk
              refine ⟨rfl, h.waits_of_walk hchained (Nat.le_refl _) (Nat.le_refl _) ?_ hwalk⟩
              intro _
              rw [← hkind]
              exact hinfo
        · next hempty =>
          cases hnext
          have hpos := h.buffers.wellFormed.history_pos
          have hmissing : ¬ received (handled + 1) := by
            intro hreceived
            exact hempty ((h.filled _ (by omega) (by omega)).mpr hreceived)
          refine ⟨rfl, ⟨handled + 1, by omega, by omega, hmissing⟩, ?_⟩
          intro n hn hall
          exact absurd (hall (handled + 1) (by omega) hn) hmissing
      obtain ⟨rfl, hwaits⟩ := hnone
      exact ⟨0, h, hwaits, .nil, fun n h₁ h₂ => absurd h₁ (by omega), rfl, rfl⟩
    | true =>
      rw [if_pos rfl] at hloop
      obtain ⟨⟨units', last⟩, hrest, heq⟩ := Option.bind_eq_some_iff.mp hloop
      cases heq
      obtain ⟨count, htaken⟩ := h.takesUnit hnext
      obtain ⟨count', hothers⟩ := ih htaken.holds hrest
      exact ⟨count + count', htaken.cons hothers⟩

/-! ### Reception -/

omit [MicroCdr] [LawfulMicroCdr] in
/-- A whole message that has to wait leaves the reader waiting. -/
theorem Waits.store_whole {history n : Nat} (h : Waits message handled history received)
    (hchained : Chained message fun m => received m ∨ m = n) (hlt : handled + 1 < n)
    (hwhole : messageKind (message n) = .noFragmented) :
    Waits message handled history fun m => received m ∨ m = n := by
  -- the message in front of it is missing, or one before that
  have hbefore : ∃ m, handled < m ∧ m < n ∧ ¬ received m := by
    by_contra hall
    push Not at hall
    have hopened := h.opened (n - 1) (by omega) fun m h₁ h₂ => hall m h₁ (by omega)
    refine hchained (n - 1) (.inl (hall _ (by omega) (by omega))) (.inr (by omega)) hopened ?_
    rw [Nat.sub_add_cancel (by omega)]
    exact hwhole
  obtain ⟨m, h₁, h₂, hmissing⟩ := hbefore
  obtain ⟨⟨k, hk₁, hk₂, hk⟩, hopened⟩ := h
  refine ⟨?_, ?_⟩
  · by_cases hm : m ≤ handled + history
    · refine ⟨m, h₁, hm, ?_⟩
      rintro (hreceived | rfl)
      · exact hmissing hreceived
      · exact Nat.lt_irrefl _ h₂
    · refine ⟨k, hk₁, hk₂, ?_⟩
      rintro (hreceived | rfl)
      · exact hk hreceived
      · omega
  · intro j hj hall
    refine hopened j hj ?_
    intro i hi hij
    rcases hall i hi hij with hreceived | rfl
    · exact hreceived
    · -- all before it were received, too, and that one was not
      rcases hall m h₁ (by omega) with hreceived | rfl
      · exact absurd hreceived hmissing
      · exact absurd h₂ (Nat.lt_irrefl _)

omit [MicroCdr] [LawfulMicroCdr] in
theorem Waits.congr {history : Nat} {received' : Nat → Prop}
    (h : Waits message handled history received) (hsame : ∀ n, received' n ↔ received n) :
    Waits message handled history received' := by
  obtain rfl : received = received' := funext fun n => propext (hsame n).symm
  exact h

omit [MicroCdr] [LawfulMicroCdr] in
/-- Reception keeps the slots of the ring as large as they are. -/
theorem receiveReliableMessage_stride {fuel : Nat} {seqNum : SeqNum} {msg : Datagram}
    {messageStored : Bool} {r : Reception}
    (hr : receiveReliableMessage fuel stream seqNum msg messageStored = some r) :
    r.stream.base.stride = stream.base.stride := by
  have hannounce (s : InputReliableStream) : (s.announce seqNum).base = s.base := by
    rw [announce]
    split <;> rfl
  by_cases hstores : stream.Stores seqNum msg
  · rw [receiveReliableMessage_stored_stream hstores hr, hannounce]
    rfl
  · rw [receiveReliableMessage] at hr
    split at hr
    · next haccepts =>
      dsimp only at hr
      split at hr
      · cases hr
        rw [hannounce]
      · next hnot =>
        rw [if_neg fun hempty => hstores ⟨haccepts, hnot, hempty⟩] at hr
        cases hr
        rw [hannounce]
    · cases hr
      rw [hannounce]

/-- After a reception with which nothing is ready, the reader still waits. -/
theorem HoldsReceived.waits_receive (h : HoldsReceived message stream handled received)
    (hwaits : Waits message handled stream.base.history.toNat received) {seqNum : SeqNum}
    {msg : Datagram} {messageStored : Bool}
    (hmsg : stream.accepts seqNum = true →
      Storable stream msg ∧ message (arrival handled seqNum) = msg.bytes)
    (hchained : Chained message fun n =>
      received n ∨ stream.accepts seqNum = true ∧ n = arrival handled seqNum)
    {r : Reception}
    (hr : receiveReliableMessage stream.base.history.toNat stream seqNum msg messageStored = some r)
    (hready : r.readyToRead = false) :
    Waits message handled stream.base.history.toNat fun n =>
      received n ∨ stream.accepts seqNum = true ∧ n = arrival handled seqNum := by
  by_cases haccepts : stream.accepts seqNum = true
  · obtain ⟨hstorable, hmessage⟩ := hmsg haccepts
    obtain ⟨hlt, hwindow⟩ := h.buffers.arrival_window haccepts
    have hnumber : UInt16.ofNat (arrival handled seqNum) = seqNum := ofNat_arrival _ _
    generalize arrival handled seqNum = n at hmessage hchained hlt hwindow hnumber ⊢
    simp only [haccepts, true_and] at hchained ⊢
    have hkind : stream.onGetFragmentationInfo msg.memory msg.buffer = messageKind (message n) := by
      rw [h.callback, hmessage]
      exact onGetFragmentationInfo_storable hstorable.nonempty hstorable.payload
    by_cases hstores : stream.Stores seqNum msg
    · rw [receiveReliableMessage_of_stores hstores, hkind] at hr
      split at hr
      · next hfragment =>
        obtain ⟨⟨found, last⟩, hwalk, rfl⟩ := Option.map_eq_some_iff.mp hr
        dsimp only at hready
        subst hready
        -- the walk over the slots, with the new fragment among them, did not find the last one
        have hstored := h.store hlt hwindow hstorable hmessage
        rw [hnumber] at hstored
        rw [checkLastFragment, hstored.buffers.lastHandled] at hwalk
        refine hstored.waits_of_walk hchained (Nat.le_refl _) (Nat.le_refl _) ?_ hwalk
        rintro (hreceived | rfl)
        · rw [hwaits.opened (handled + 1) (Nat.lt_succ_self _) fun m h₁ h₂ => by
            rwa [Nat.le_antisymm h₂ h₁]]
          decide
        · exact hfragment
      · next hwhole =>
        have hwhole' := not_not.mp hwhole
        refine hwaits.store_whole hchained (Nat.lt_of_le_of_ne hlt ?_) hwhole'
        rintro rfl
        refine hstores.2.1 ⟨hkind.trans hwhole', ?_⟩
        rw [← hnumber, h.buffers.lastHandled, seqNumAdd_one]
    · -- it was received before
      have hfilled : stream.slotSize n ≠ 0 := by
        intro hempty
        rw [receiveReliableMessage, if_pos haccepts] at hr
        dsimp only at hr
        split at hr
        · cases hr
          cases hready
        · next hnot =>
          refine hstores ⟨haccepts, hnot, ?_⟩
          rw [← hnumber]
          exact hempty
      have hreceived := (h.filled n hlt hwindow).mp hfilled
      refine hwaits.congr fun m => ⟨?_, .inl⟩
      rintro (hm | rfl)
      · exact hm
      · exact hreceived
  · exact hwaits.congr fun m => ⟨fun hm => hm.resolve_right fun hnew => haccepts hnew.1, .inl⟩

/-- A message that is handed over where it arrived is whole, and the next one. -/
theorem HoldsReceived.takesDirect (h : HoldsReceived message stream handled received)
    {seqNum : SeqNum} {msg : Datagram}
    (hmsg : stream.accepts seqNum = true →
      Storable stream msg ∧ message (arrival handled seqNum) = msg.bytes)
    {fuel : Nat} {r : Reception}
    (hr : receiveReliableMessage fuel stream seqNum msg false = some r)
    (hready : r.readyToRead = true) (hdirect : r.messageStored = false)
    {received' : Nat → Prop} (hholds : HoldsReceived message r.stream (handled + 1) received')
    (hnew : stream.accepts seqNum = true → received' (arrival handled seqNum)) :
    TakesUnit message stream handled received' msg.bytes r.stream 1 := by
  have hhistory := receiveReliableMessage_history hr
  have hstride := receiveReliableMessage_stride hr
  have hH := h.buffers.wellFormed.history_le
  rw [receiveReliableMessage] at hr
  split at hr
  · next haccepts =>
    obtain ⟨hstorable, hmessage⟩ := hmsg haccepts
    obtain ⟨hlt, hwindow⟩ := h.buffers.arrival_window haccepts
    have harrived := hnew haccepts
    have hnumber : UInt16.ofNat (arrival handled seqNum) = seqNum := ofNat_arrival _ _
    generalize arrival handled seqNum = n at hmessage hlt hwindow hnumber harrived
    dsimp only at hr
    rw [h.callback, h.buffers.lastHandled, seqNumAdd_one] at hr
    split at hr
    · next hnext =>
      obtain ⟨hwhole, hnext⟩ := hnext
      obtain rfl : handled + 1 = n :=
        Serial.ofNat_inj_of_lt hlt (by omega) (hnext.symm.trans hnumber.symm)
      refine ⟨hholds, Nat.one_pos, ?_, ?_, hhistory, hstride⟩
      · have hsingle : following message handled 1 = [message (handled + 1)] := rfl
        rw [hsingle, hmessage]
        refine Assembles.nil.whole ?_
        rw [← hwhole]
        exact (onGetFragmentationInfo_storable hstorable.nonempty hstorable.payload).symm
      · intro m h₁ h₂
        rw [Nat.le_antisymm h₂ h₁]
        exact harrived
    · split at hr
      · split at hr
        · obtain ⟨_, -, heq⟩ := Option.map_eq_some_iff.mp hr
          rw [← heq] at hdirect
          cases hdirect
        · cases hr
          cases hready
      · cases hr
        cases hready
  · cases hr
    cases hready

/-- A message that arrives is handed over with all that it makes whole, or it waits, or it is
dropped. -/
theorem HoldsReceived.takesOnReception (h : HoldsReceived message stream handled received)
    (hwaits : Waits message handled stream.base.history.toNat received) {seqNum : SeqNum}
    {msg : Datagram}
    (hmsg : stream.accepts seqNum = true →
      Storable stream msg ∧ message (arrival handled seqNum) = msg.bytes)
    (hchained : Chained message fun n =>
      received n ∨ stream.accepts seqNum = true ∧ n = arrival handled seqNum)
    {fuel : Nat} {units : List (List UInt8)} {stream' : InputReliableStream}
    (hread : readStreamUnits fuel stream seqNum msg = some (units, stream')) :
    ∃ count, TakesUnits message stream handled
      (fun n => received n ∨ stream.accepts seqNum = true ∧ n = arrival handled seqNum) units
      stream' count := by
  rw [readStreamUnits] at hread
  obtain ⟨r, hr, hread⟩ := Option.bind_eq_some_iff.mp hread
  have hholds := h.receive (h.waits_drained hwaits) hmsg hr
  have hhistory := receiveReliableMessage_history hr
  have hstride := receiveReliableMessage_stride hr
  cases hready : r.readyToRead with
  | false =>
    rw [hready, if_neg Bool.false_ne_true] at hread
    cases hread
    rw [if_neg fun hdirect => Bool.false_ne_true (hready.symm.trans hdirect.1)] at hholds
    refine ⟨0, hholds, ?_, .nil, fun n h₁ h₂ => absurd h₁ (by omega), hhistory, hstride⟩
    rw [hhistory]
    exact h.waits_receive hwaits hmsg hchained hr hready
  | true =>
    rw [hready, if_pos rfl] at hread
    obtain ⟨⟨others, last⟩, hloop, heq⟩ := Option.bind_eq_some_iff.mp hread
    cases heq
    cases hstored : r.messageStored with
    | false =>
      -- the message is the first one that is handed over
      rw [if_pos ⟨hready, hstored⟩] at hholds
      obtain ⟨count, htaken⟩ := hholds.takesUnits hchained hloop
      have hfirst := h.takesDirect hmsg hr hready hstored hholds fun haccepts => .inr ⟨haccepts, rfl⟩
      exact ⟨1 + count, hfirst.cons htaken⟩
    | true =>
      rw [if_neg fun hdirect => Bool.false_ne_true (hdirect.2.symm.trans hstored)] at hholds
      obtain ⟨count, htaken⟩ := hholds.takesUnits hchained hloop
      exact ⟨count, htaken.holds, htaken.waits, htaken.assembles, htaken.received,
        htaken.history.trans hhistory, htaken.stride.trans hstride⟩

end

end XrceClient
