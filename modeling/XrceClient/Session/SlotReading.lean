import XrceClient.Session.Session

/-!
# Reading within the slots of a message

A reassembled message is read out of its slots, one after the other. The callback that
moves the buffer to the next slot does not know where the message ends, so what the reader
takes is compared here with a run that is confined to the message's own slots.

- `SlotEnv`: reading out of the slots of an input stream, whatever else there is around.
- `BufferOp.within`, `handleWithin`: the operations confined to the positions `own`. A run
  that asks for another slot gives up with the slot that it asked for.
- `Emptied`: what readers do to a stream; `SlotEnv.run_emptied`: every run out of the slots.
- `Agree`, `Frame`: two streams with the same own slots; a stream with the same others.
- `attempt_within_ok`: a confined run that ends is the run out of the slots, and the other
  slots stay as they are.
- `attempt_within_escaped`: one that gives up is a run to which the other slot is given.
-/

namespace XrceClient

open ByteMemory

/-- The position of the slot that the buffer is moved to when it is full. -/
def nextPosition (stream : ReliableStream) (ub : UcdrBuffer) : Nat :=
  stream.slot (nextHistoryPosition stream ub)

/-- The same ring, in the same place. -/
structure SameRing (stream stream' : InputReliableStream) : Prop where
  base : stream'.base = stream.base
  lastHandled : stream'.lastHandled = stream.lastHandled
  onGetFragmentationInfo : stream'.onGetFragmentationInfo = stream.onGetFragmentationInfo
  cleanupFlag : stream'.cleanupFlag = stream.cleanupFlag

/-- Reading out of the slots of an input stream. The stream is a part of the surroundings,
which also say whose slots were given to the reader. -/
structure SlotEnv [MicroCdr] (σ : Type) where
  env : ReadEnv σ
  stream : σ → InputReliableStream
  given : σ → List Nat
  load : ∀ s a, env.dev.load s a = (stream s).base.buffer a
  refuses : ∀ s ub, ub.onFullBuffer = none → env.dev.onFull s ub = (true, s, ub)
  chains : ∀ s ub, ub.onFullBuffer ≠ none → ∃ s',
    env.dev.onFull s ub =
      ((onFullInputBuffer (stream s) ub).1, s', (onFullInputBuffer (stream s) ub).2.2) ∧
    stream s' = (onFullInputBuffer (stream s) ub).2.1 ∧
    given s' = given s ++
      if (onFullInputBuffer (stream s) ub).1 then [] else [nextPosition (stream s).base ub]
  setCleanupFlag : ∀ b s, stream (env.setCleanupFlag b s) = { stream s with cleanupFlag := b } ∧
    given (env.setCleanupFlag b s) = given s
  emit : ∀ e s, SameRing (stream s) (stream (env.emit e s)) ∧ given (env.emit e s) = given s

/-! ## What every run keeps -/

section

variable [MicroCdr] [LawfulMicroCdr] {σ : Type} {env : ReadEnv σ} {I : σ → Prop}
  {C : Option OnFullBuffer → Prop}

/-- What the callback, the cleanup flag and the effects keep, as long as the buffers have
callbacks of one kind, every operation keeps. -/
theorem handle_preserves
    (hfull : ∀ s ub, I s → C ub.onFullBuffer →
      I (env.dev.onFull s ub).2.1 ∧ C (env.dev.onFull s ub).2.2.onFullBuffer)
    (hflag : ∀ flag s callback, callback ≠ none → C callback → I s → I (env.setCleanupFlag flag s))
    (hemit : ∀ e s, I s → I (env.emit e s)) {β : Type} (op : ReadOp β) (t : σ × Cursor)
    (h : I t.1 ∧ C t.2.ub.onFullBuffer ∧ ∀ outer ∈ t.2.outer, C outer.onFullBuffer) :
    I (env.handle op t).2.1 ∧ C (env.handle op t).2.2.ub.onFullBuffer ∧
      ∀ outer ∈ (env.handle op t).2.2.outer, C outer.onFullBuffer := by
  have hinv : env.dev.Invariant fun s ub => I s ∧ C ub.onFullBuffer := by
    refine ⟨?_, fun s ub hs => hfull s ub hs.1 hs.2⟩
    rintro s ub ub' ⟨hs, hub⟩ ⟨-, -, hcallback⟩
    exact ⟨hs, hcallback ▸ hub⟩
  obtain ⟨s, c⟩ := t
  obtain ⟨hs, hub, houter⟩ := h
  have hrebase (ub : UcdrBuffer) (callback : Option OnFullBuffer) (hcallback : C callback) :
      C (ub.rebase callback).onFullBuffer := hcallback
  cases op with
  | buffer op =>
    cases op with
    | alignTo size =>
      exact ⟨hs, (LawfulMicroCdr.alignTo_sameBlock c.ub size).2.2 ▸ hub, houter⟩
    | bufferRemaining => exact ⟨hs, hub, houter⟩
    | offset => exact ⟨hs, hub, houter⟩
    | deserialize e width =>
      have hop := LawfulMicroCdr.deserialize_preserves hinv s c.ub (e.getD c.ub.endianness) width
        ⟨hs, hub⟩
      exact ⟨hop.1, hop.2, houter⟩
    | deserializeArray size =>
      have hop := LawfulMicroCdr.deserializeArray_preserves hinv s c.ub size ⟨hs, hub⟩
      exact ⟨hop.1, hop.2, houter⟩
    | advanceBuffer size =>
      have hop := LawfulMicroCdr.advance_preserves hinv s c.ub size ⟨hs, hub⟩
      exact ⟨hop.1, hop.2, houter⟩
  | setEndianness e => exact ⟨hs, hub, houter⟩
  | skip n => exact ⟨hs, hub, houter⟩
  | openTemp =>
    refine ⟨hs, hrebase _ _ hub, ?_⟩
    intro outer houter
    cases houter
    exact hub
  | rebaseTemp =>
    refine ⟨hs, hrebase _ _ ?_, houter⟩
    cases hc : c.outer with
    | none => exact hub
    | some outer => exact houter outer hc
  | closeTemp =>
    refine ⟨hs, ?_, nofun⟩
    show C (c.outer.getD c.ub).onFullBuffer
    cases hc : c.outer with
    | none => exact hub
    | some outer => exact houter outer hc
  | setCleanupFlag flag =>
    rw [ReadEnv.handle]
    dsimp only
    split
    · next hsome =>
      exact ⟨hflag flag s _ (Option.isSome_iff_ne_none.mp hsome) hub hs, hub, houter⟩
    · exact ⟨hs, hub, houter⟩
  | emit e => exact ⟨hemit e s hs, hub, houter⟩

/-- What the callback, the cleanup flag and the effects keep, every run out of the slots
keeps. -/
theorem SlotEnv.handle_preserves {S : SlotEnv σ}
    (hchains : ∀ s ub, ub.onFullBuffer ≠ none → I s → I (S.env.dev.onFull s ub).2.1)
    (hflag : ∀ flag s, I s → I (S.env.setCleanupFlag flag s))
    (hemit : ∀ e s, I s → I (S.env.emit e s)) {β : Type} (op : ReadOp β) (t : σ × Cursor)
    (h : I t.1) : I (S.env.handle op t).2.1 := by
  refine (XrceClient.handle_preserves (C := fun _ => True) ?_ ?_ hemit op t
    ⟨h, trivial, fun _ _ => trivial⟩).1
  · intro s ub hs _
    refine ⟨?_, trivial⟩
    by_cases hcallback : ub.onFullBuffer = none
    · rw [S.refuses s ub hcallback]
      exact hs
    · exact hchains s ub hcallback hs
  · intro flag s _ _ _ hs
    exact hflag flag s hs

end

/-! ## Confined operations -/

/-- Where a confined run gives up: at a slot that is not its own, or where the documented
rules of Micro-CDR say nothing. -/
inductive Exit where
  | escaped (position : Nat)
  | stuck
  deriving DecidableEq, Repr

section

variable [MicroCdr] (own : Nat → Prop) [DecidablePred own]

/-- A byte to take: in the buffer, or in the slot after it. -/
def room (stream : InputReliableStream) (ub : UcdrBuffer) :
    Except Exit (InputReliableStream × UcdrBuffer) :=
  let position := nextPosition stream.base ub
  let (error, stream', ub') := onFullInputBuffer stream ub
  if ub.error ∨ ub.final < ub.iterator ∨ ub.onFullBuffer = none then
    .error .stuck
  else if ub.iterator < ub.final then
    .ok (stream, ub)
  else if ¬ own position then
    .error (.escaped position)
  else if error = false ∧ ub'.iterator < ub'.final ∧
      ub'.final ≤ (position + 1) * stream.base.stride then
    .ok (stream', ub')
  else
    .error .stuck

/-- Take bytes. -/
def takeBytes : Nat → InputReliableStream → UcdrBuffer →
    Except Exit (List UInt8 × InputReliableStream × UcdrBuffer)
  | 0, stream, ub => .ok ([], stream, ub)
  | n + 1, stream, ub => do
    let (stream, ub) ← room own stream ub
    let (bs, r) ← takeBytes n stream ub.next
    return (stream.base.buffer ub.iterator :: bs, r)

/-- A Micro-CDR call, confined. -/
def BufferOp.within {β : Type} (op : BufferOp β) (stream : InputReliableStream)
    (ub : UcdrBuffer) : Except Exit (β × InputReliableStream × UcdrBuffer) :=
  match op with
  | .alignTo size =>
    if size ∈ [1, 2, 4, 8] ∧ ub.iterator ≤ ub.final then .ok ((), stream, ucdrAlignTo ub size)
    else .error .stuck
  | .bufferRemaining => .ok (ucdrBufferRemaining ub, stream, ub)
  | .offset => .ok (ub.offset, stream, ub)
  | .deserialize e width =>
    if width ∈ [1, 2, 4, 8] ∧ ub.iterator + ub.padding width ≤ ub.final then do
      let (bs, stream, ub') ← takeBytes own width stream (ucdrAlignTo ub width)
      return (some (decodeScalar (e.getD ub.endianness) bs), stream,
        { ub' with lastDataSize := width })
    else .error .stuck
  | .deserializeArray size => do
    let (bs, stream, ub) ← takeBytes own size stream ub
    return (some bs, stream, { ub with lastDataSize := 1 })
  | .advanceBuffer size => do
    let (_, stream, ub) ← takeBytes own size stream ub
    return ((), stream, { ub with lastDataSize := 1 })

/-- One operation of a reading function, confined. -/
def handleWithin {β : Type} (op : ReadOp β) (t : InputReliableStream × Cursor) :
    Except Exit (β × InputReliableStream × Cursor) :=
  let (stream, c) := t
  match op with
  | .buffer op => do
    let (b, stream, ub) ← op.within own stream c.ub
    return (b, stream, { c with ub })
  | .setEndianness e => .ok (⟨⟩, stream, { c with ub := { c.ub with endianness := e } })
  | .skip n =>
    if c.ub.iterator + n ≤ c.ub.final then
      .ok (⟨⟩, stream, { c with ub := { c.ub with iterator := c.ub.iterator + n } })
    else .error .stuck
  | .openTemp => .ok (⟨⟩, stream, { ub := c.ub.rebase c.ub.onFullBuffer, outer := some c.ub })
  | .rebaseTemp =>
    .ok (⟨⟩, stream, { c with ub := c.ub.rebase ((c.outer.getD c.ub).onFullBuffer) })
  | .closeTemp => .ok (⟨⟩, stream, { ub := c.outer.getD c.ub, outer := none })
  | .setCleanupFlag b =>
    .ok (⟨⟩, if c.ub.onFullBuffer.isSome then { stream with cleanupFlag := b } else stream, c)
  | .emit _ => .ok (⟨⟩, stream, c)

end

/-! ## Two streams with the same own slots -/

section

variable {own : Nat → Prop}

/-- The second stream has the slots `own` as the first one has them. -/
structure Agree (own : Nat → Prop) (stream stream' : InputReliableStream) : Prop where
  size : stream'.base.size = stream.base.size
  history : stream'.base.history = stream.base.history
  cleanupFlag : stream'.cleanupFlag = stream.cleanupFlag
  bytes : ∀ a, own (a / stream.base.stride) → stream'.base.buffer a = stream.base.buffer a

/-- The second stream has everything but the slots `own` as the first one has it. -/
structure Frame (own : Nat → Prop) (stream stream' : InputReliableStream) : Prop where
  size : stream'.base.size = stream.base.size
  history : stream'.base.history = stream.base.history
  bytes : ∀ a, ¬ own (a / stream.base.stride) → stream'.base.buffer a = stream.base.buffer a

/-- The buffer lies in one of the slots `own`. -/
def InSlot (own : Nat → Prop) (stride : Nat) (ub : UcdrBuffer) : Prop :=
  ∃ p, own p ∧ p * stride ≤ ub.iterator ∧ ub.iterator ≤ ub.final ∧ ub.final ≤ (p + 1) * stride

theorem Frame.refl (stream : InputReliableStream) : Frame own stream stream :=
  ⟨rfl, rfl, fun _ _ => rfl⟩

theorem Frame.trans {stream stream' stream'' : InputReliableStream} (h : Frame own stream stream')
    (h' : Frame own stream' stream'') : Frame own stream stream'' where
  size := h'.size.trans h.size
  history := h'.history.trans h.history
  bytes a ha := by
    have hstride : stream'.base.stride = stream.base.stride := by
      rw [ReliableStream.stride, h.size, h.history]
      rfl
    rw [h'.bytes a (hstride ▸ ha), h.bytes a ha]

variable {stream stream' : InputReliableStream} {ub : UcdrBuffer}

theorem InSlot.next (hub : InSlot own stream.base.stride ub) (hlt : ub.iterator < ub.final) :
    InSlot own stream.base.stride ub.next := by
  obtain ⟨p, hown, hlo, -, hhi⟩ := hub
  exact ⟨p, hown, Nat.le_succ_of_le hlo, hlt, hhi⟩

theorem Agree.stride (h : Agree own stream stream') :
    stream'.base.stride = stream.base.stride := by
  rw [ReliableStream.stride, h.size, h.history]
  rfl

theorem Agree.slot (h : Agree own stream stream') (q : SeqNum) :
    stream'.base.slot q = stream.base.slot q := by
  rw [ReliableStream.slot, h.history]
  rfl

theorem Agree.nextHistoryPosition (h : Agree own stream stream') (ub : UcdrBuffer) :
    nextHistoryPosition stream'.base ub = nextHistoryPosition stream.base ub := by
  rw [XrceClient.nextHistoryPosition, getReliableBufferHistoryPosition, h.size, h.history]
  rfl

theorem Agree.nextPosition (h : Agree own stream stream') (ub : UcdrBuffer) :
    nextPosition stream'.base ub = nextPosition stream.base ub := by
  rw [XrceClient.nextPosition, h.nextHistoryPosition, h.slot]
  rfl

/-- Sizes are in the slots. -/
theorem getReliableBufferSize_of_bytes {base base' : ReliableStream} (hsize : base'.size = base.size)
    (hhistory : base'.history = base.history) (hstride : 4 < base.stride) {q : SeqNum}
    (hbytes : ∀ a, a / base.stride = base.slot q → base'.buffer a = base.buffer a) :
    getReliableBufferSize base' q = getReliableBufferSize base q := by
  have hslot : base'.slot q = base.slot q := by
    rw [ReliableStream.slot, hhistory]
    rfl
  have hstride' : base'.stride = base.stride := by
    rw [ReliableStream.stride, hsize, hhistory]
    rfl
  rw [ReliableStream.getReliableBufferSize_eq, ReliableStream.getReliableBufferSize_eq, hslot,
    hstride']
  congr 1
  apply read_congr
  intro a ha₁ ha₂
  exact hbytes a (Nat.div_eq_of_lt_le ha₁ (by rw [Nat.succ_mul]; omega))

/-- The size of an own slot is its own. -/
theorem Agree.getReliableBufferSize (h : Agree own stream stream')
    (hstride : 4 < stream.base.stride) {q : SeqNum} (hown : own (stream.base.slot q)) :
    getReliableBufferSize stream'.base q = getReliableBufferSize stream.base q :=
  getReliableBufferSize_of_bytes h.size h.history hstride fun a ha => h.bytes a (ha ▸ hown)

/-- The size of another slot is framed. -/
theorem Frame.getReliableBufferSize (h : Frame own stream stream')
    (hstride : 4 < stream.base.stride) {q : SeqNum} (hout : ¬ own (stream.base.slot q)) :
    getReliableBufferSize stream'.base q = getReliableBufferSize stream.base q :=
  getReliableBufferSize_of_bytes h.size h.history hstride fun a ha => h.bytes a (ha ▸ hout)

/-- A size is set in the slot of its number. -/
theorem setReliableBufferSize_buffer_of_ne {base : ReliableStream} (hstride : 4 < base.stride)
    {q : SeqNum} {a : Nat} (ha : a / base.stride ≠ base.slot q) (v : Nat) :
    (setReliableBufferSize base q v).buffer a = base.buffer a := by
  rw [ReliableStream.setReliableBufferSize_buffer]
  apply write_outside
  rw [leBytes_length]
  by_contra hinside
  refine ha (Nat.div_eq_of_lt_le ?_ ?_)
  · omega
  · rw [Nat.succ_mul]
    omega

section

variable [MicroCdr]

/-- The callback, in terms of the slot that it moves to. -/
theorem onFullInputBuffer_eq (stream : InputReliableStream) (ub : UcdrBuffer) :
    onFullInputBuffer stream ub =
      (decide (getReliableBufferSize stream.base (nextHistoryPosition stream.base ub) < 4),
        (if stream.cleanupFlag then
          { stream with
            base := setReliableBufferSize stream.base (nextHistoryPosition stream.base ub) 0 }
        else stream),
        if getReliableBufferSize stream.base (nextHistoryPosition stream.base ub) < 4 then ub
        else (ucdrInitBufferOrigin
          (getReliableBuffer stream.base (nextHistoryPosition stream.base ub) + 4)
          ((getReliableBufferSize stream.base (nextHistoryPosition stream.base ub) - 4) % 2 ^ 32)
          ub.offset).setOnFullBufferCallback (some .onFullInputBuffer)) := by
  rw [onFullInputBuffer]
  simp only [subheaderSize]
  split
  · next hsmall => simp [hsmall]
  · next hlarge => simp [hlarge, getReliableBuffer]

/-- On own slots the callback does the same to both streams. -/
theorem Agree.onFullInputBuffer (h : Agree own stream stream') (hstride : 4 < stream.base.stride)
    (hown : own (XrceClient.nextPosition stream.base ub)) :
    (onFullInputBuffer stream' ub).1 = (onFullInputBuffer stream ub).1 ∧
      Agree own (onFullInputBuffer stream ub).2.1 (onFullInputBuffer stream' ub).2.1 ∧
      (onFullInputBuffer stream' ub).2.2 = (onFullInputBuffer stream ub).2.2 := by
  have hsize := h.getReliableBufferSize hstride hown
  have hbuffer (q : SeqNum) : getReliableBuffer stream'.base q = getReliableBuffer stream.base q := by
    rw [ReliableStream.getReliableBuffer_eq, ReliableStream.getReliableBuffer_eq, h.slot, h.stride]
  rw [onFullInputBuffer_eq, onFullInputBuffer_eq, h.nextHistoryPosition, hsize, h.cleanupFlag,
    hbuffer]
  refine ⟨rfl, ?_, rfl⟩
  dsimp only
  cases stream.cleanupFlag with
  | false => exact h
  | true =>
    refine ⟨h.size, h.history, rfl, fun a ha => ?_⟩
    change own (a / stream.base.stride) at ha
    rw [if_pos rfl, if_pos rfl]
    dsimp only
    rw [ReliableStream.setReliableBufferSize_buffer, ReliableStream.setReliableBufferSize_buffer,
      h.slot, h.stride, write, write, h.bytes a ha]

/-- The callback changes nothing but the slot that it moves to. -/
theorem frame_onFullInputBuffer (hstride : 4 < stream.base.stride)
    (hown : own (nextPosition stream.base ub)) :
    Frame own stream (onFullInputBuffer stream ub).2.1 := by
  rw [onFullInputBuffer_eq]
  dsimp only
  cases stream.cleanupFlag with
  | false => exact Frame.refl stream
  | true =>
    refine ⟨rfl, rfl, fun a ha => ?_⟩
    refine setReliableBufferSize_buffer_of_ne hstride ?_ 0
    intro heq
    exact ha (heq ▸ hown)

/-- Slots are emptied, and never filled. -/
theorem onFullInputBuffer_shrinks (hstride : 4 < stream.base.stride) (ub : UcdrBuffer)
    (q : SeqNum) :
    getReliableBufferSize (onFullInputBuffer stream ub).2.1.base q ≤
      getReliableBufferSize stream.base q := by
  rw [onFullInputBuffer_eq]
  dsimp only
  cases stream.cleanupFlag with
  | false => exact Nat.le_refl _
  | true =>
    rw [if_pos rfl, ReliableStream.getReliableBufferSize_set (Nat.le_of_lt hstride)]
    split
    · exact Nat.zero_le _
    · exact Nat.le_refl _

end

end

/-! ## What every run leaves of a ring -/

/-- What readers do to a stream: slots are emptied. Its cleanup flag and the last announced number
may change too. -/
inductive Emptied (stream : InputReliableStream) : InputReliableStream → Prop
  | refl : Emptied stream stream
  | empty {stream' : InputReliableStream} (h : Emptied stream stream') (q : SeqNum) :
      Emptied stream { stream' with base := setReliableBufferSize stream'.base q 0 }
  | flag {stream' : InputReliableStream} (h : Emptied stream stream') (cleanupFlag : Bool) :
      Emptied stream { stream' with cleanupFlag }
  | announce {stream' : InputReliableStream} (h : Emptied stream stream') (lastAnnounced : SeqNum) :
      Emptied stream { stream' with lastAnnounced }

namespace Emptied

variable {stream stream' : InputReliableStream}

theorem lastHandled (h : Emptied stream stream') : stream'.lastHandled = stream.lastHandled := by
  induction h with
  | refl => rfl
  | empty _ q ih => exact ih
  | flag _ cleanupFlag ih => exact ih
  | announce _ lastAnnounced ih => exact ih

theorem onGetFragmentationInfo (h : Emptied stream stream') :
    stream'.onGetFragmentationInfo = stream.onGetFragmentationInfo := by
  induction h with
  | refl => rfl
  | empty _ q ih => exact ih
  | flag _ cleanupFlag ih => exact ih
  | announce _ lastAnnounced ih => exact ih

theorem shape (h : Emptied stream stream') :
    stream'.base.size = stream.base.size ∧ stream'.base.history = stream.base.history := by
  induction h with
  | refl => exact ⟨rfl, rfl⟩
  | empty _ q ih => exact ih
  | flag _ cleanupFlag ih => exact ih
  | announce _ lastAnnounced ih => exact ih

theorem stride (h : Emptied stream stream') : stream'.base.stride = stream.base.stride := by
  rw [ReliableStream.stride, h.shape.1, h.shape.2]
  rfl

theorem slot (h : Emptied stream stream') (q : SeqNum) :
    stream'.base.slot q = stream.base.slot q := by
  rw [ReliableStream.slot, h.shape.2]
  rfl

/-- A slot keeps its size, or is empty. -/
theorem size_or (h : Emptied stream stream') (hstride : 4 ≤ stream.base.stride) (q : SeqNum) :
    getReliableBufferSize stream'.base q = getReliableBufferSize stream.base q ∨
      getReliableBufferSize stream'.base q = 0 := by
  induction h with
  | refl => exact .inl rfl
  | @empty stream' h p ih =>
    rw [ReliableStream.getReliableBufferSize_set (h.stride.symm ▸ hstride)]
    split
    · exact .inr rfl
    · exact ih
  | flag _ cleanupFlag ih => exact ih
  | announce _ lastAnnounced ih => exact ih

/-- What is in the slots stays. -/
theorem bytesFrom (h : Emptied stream stream') (q : SeqNum) {k n : Nat}
    (hfit : 4 + k + n ≤ stream.base.stride) :
    stream'.base.bytesFrom q k n = stream.base.bytesFrom q k n := by
  induction h with
  | refl => rfl
  | @empty stream' h p ih =>
    exact (ReliableStream.bytesFrom_set (h.stride.symm ▸ hfit) 0).trans ih
  | flag _ cleanupFlag ih => exact ih
  | announce _ lastAnnounced ih => exact ih

/-- The last handled number is no part of the ring. -/
theorem setLastHandled (h : Emptied stream stream') (lastHandled : SeqNum) :
    Emptied { stream with lastHandled } { stream' with lastHandled } := by
  induction h with
  | refl => exact .refl
  | empty _ q ih => exact ih.empty q
  | flag _ cleanupFlag ih => exact ih.flag cleanupFlag
  | announce _ lastAnnounced ih => exact ih.announce lastAnnounced

theorem trans {stream'' : InputReliableStream} (h : Emptied stream stream')
    (h' : Emptied stream' stream'') : Emptied stream stream'' := by
  induction h' with
  | refl => exact h
  | empty _ q ih => exact ih.empty q
  | flag _ cleanupFlag ih => exact ih.flag cleanupFlag
  | announce _ lastAnnounced ih => exact ih.announce lastAnnounced

end Emptied

/-- The same ring is one of which nothing was emptied. -/
theorem Emptied.sameRing {stream stream' stream'' : InputReliableStream}
    (h : Emptied stream stream') (hsame : SameRing stream' stream'') : Emptied stream stream'' := by
  obtain ⟨base, lastHandled, lastAnnounced, callback, cleanupFlag⟩ := stream''
  obtain ⟨rfl, rfl, rfl, rfl⟩ := hsame
  exact h.announce lastAnnounced

/-- The callback empties the next slot. -/
theorem Emptied.onFullInputBuffer [MicroCdr] {stream stream' : InputReliableStream}
    (h : Emptied stream stream') (ub : UcdrBuffer) :
    Emptied stream (onFullInputBuffer stream' ub).2.1 := by
  rw [onFullInputBuffer_eq]
  dsimp only
  split
  · exact h.empty _
  · exact h

/-- So does every run out of the slots. -/
theorem SlotEnv.run_emptied [MicroCdr] [LawfulMicroCdr] {σ α : Type} (S : SlotEnv σ)
    (p : Program ReadOp α) (s : σ) (c : Cursor) :
    Emptied (S.stream s) (S.stream (p.run S.env.handle (s, c)).2.1) := by
  refine @Program.run_preserves _ _ _ S.env.handle (fun t => Emptied (S.stream s) (S.stream t.1)) ?_ p
    (s, c) .refl
  intro β op t ht
  refine S.handle_preserves (I := fun s' => Emptied (S.stream s) (S.stream s')) ?_ ?_ ?_ op t ht
  · intro s' ub hcallback hs'
    obtain ⟨s'', hfull, hstream, -⟩ := S.chains s' ub hcallback
    rw [hfull, hstream]
    exact hs'.onFullInputBuffer ub
  · intro flag s' hs'
    rw [(S.setCleanupFlag flag s').1]
    exact hs'.flag flag
  · intro e s' hs'
    exact hs'.sameRing (S.emit e s').1

/-! ## A confined run is the run out of the slots -/

section

variable [MicroCdr] {σ : Type}

/-- The surroundings `s`, reached from `s₀`, and the stream of a confined run. -/
structure Confined (S : SlotEnv σ) (own : Nat → Prop) (s₀ s : σ) (stream : InputReliableStream) :
    Prop where
  stride : 4 < stream.base.stride
  agree : Agree own stream (S.stream s)
  frame : Frame own (S.stream s₀) (S.stream s)
  given : ∃ positions, S.given s = S.given s₀ ++ positions ∧ ∀ p ∈ positions, own p
  shrinks : ∀ q, getReliableBufferSize (S.stream s).base q ≤
    getReliableBufferSize (S.stream s₀).base q

variable {S : SlotEnv σ} {own : Nat → Prop} {s₀ s : σ} {stream stream' : InputReliableStream}
  {ub ub' : UcdrBuffer}

/-- A byte of the buffer is the byte of the confined run. -/
theorem Confined.load (h : Confined S own s₀ s stream) (hub : InSlot own stream.base.stride ub)
    (hlt : ub.iterator < ub.final) :
    S.env.dev.load s ub.iterator = stream.base.buffer ub.iterator := by
  obtain ⟨p, hown, hlo, -, hhi⟩ := hub
  rw [S.load]
  refine h.agree.bytes _ ?_
  rwa [Nat.div_eq_of_lt_le hlo (by omega)]

/-- What happens around the ring is no part of the run. -/
theorem Confined.sameRing (h : Confined S own s₀ s stream) {s' : σ}
    (hsame : SameRing (S.stream s) (S.stream s')) (hgiven : S.given s' = S.given s) :
    Confined S own s₀ s' stream where
  stride := h.stride
  agree :=
    { size := by rw [hsame.base]; exact h.agree.size
      history := by rw [hsame.base]; exact h.agree.history
      cleanupFlag := hsame.cleanupFlag.trans h.agree.cleanupFlag
      bytes := by rw [hsame.base]; exact h.agree.bytes }
  frame :=
    { size := by rw [hsame.base]; exact h.frame.size
      history := by rw [hsame.base]; exact h.frame.history
      bytes := by rw [hsame.base]; exact h.frame.bytes }
  given := hgiven ▸ h.given
  shrinks q := by rw [hsame.base]; exact h.shrinks q

/-- The next slot is given to both. -/
theorem Confined.onFull (h : Confined S own s₀ s stream) (hcallback : ub.onFullBuffer ≠ none)
    (hown : own (nextPosition stream.base ub)) :
    ∃ s', S.env.dev.onFull s ub =
        ((onFullInputBuffer stream ub).1, s', (onFullInputBuffer stream ub).2.2) ∧
      Confined S own s₀ s' (onFullInputBuffer stream ub).2.1 := by
  obtain ⟨s', hfull, hstream, hgiven⟩ := S.chains s ub hcallback
  obtain ⟨herror, hagree, hub⟩ := h.agree.onFullInputBuffer h.stride hown
  have hown' : own (nextPosition (S.stream s).base ub) := by rwa [h.agree.nextPosition]
  have hframe := frame_onFullInputBuffer (h.agree.stride.symm ▸ h.stride) hown'
  have hshrinks := onFullInputBuffer_shrinks (h.agree.stride.symm ▸ h.stride) ub
  rw [← hstream] at hframe hagree hshrinks
  refine ⟨s', by rw [hfull, herror, hub], ?_, hagree, h.frame.trans hframe, ?_,
    fun q => Nat.le_trans (hshrinks q) (h.shrinks q)⟩
  · have hstride := frame_onFullInputBuffer h.stride hown
    rw [ReliableStream.stride, hstride.size, hstride.history]
    exact h.stride
  · obtain ⟨positions, hpositions, hall⟩ := h.given
    refine ⟨positions ++ if (onFullInputBuffer (S.stream s) ub).1 then []
      else [nextPosition (S.stream s).base ub], ?_, ?_⟩
    · rw [hgiven, hpositions, List.append_assoc]
    · intro p hp
      rcases List.mem_append.mp hp with hold | hnew
      · exact hall p hold
      · cases herr : (onFullInputBuffer (S.stream s) ub).1 with
        | true =>
          rw [herr] at hnew
          cases hnew
        | false =>
          rw [herr] at hnew
          rwa [List.mem_singleton.mp hnew]

variable [LawfulMicroCdr]

/-- A slot with a subheader is given, from behind the subheader on. -/
theorem onFullInputBuffer_large
    (hlarge : 4 ≤ getReliableBufferSize stream.base (nextHistoryPosition stream.base ub)) :
    (onFullInputBuffer stream ub).1 = false ∧
      (onFullInputBuffer stream ub).2.2 =
        { init := nextPosition stream.base ub * stream.base.stride + 8
          iterator := nextPosition stream.base ub * stream.base.stride + 8
          final := nextPosition stream.base ub * stream.base.stride + 8 +
            (getReliableBufferSize stream.base (nextHistoryPosition stream.base ub) - 4)
          offset := ub.offset
          lastDataSize := 0
          endianness := machineEndianness
          error := false
          onFullBuffer := some .onFullInputBuffer } := by
  have hlt := @ReliableStream.getReliableBufferSize_lt stream.base
    (nextHistoryPosition stream.base ub)
  rw [onFullInputBuffer_eq]
  dsimp only
  rw [if_neg (Nat.not_lt.mpr hlarge), ucdrInitBufferOrigin, LawfulMicroCdr.init,
    ReliableStream.getReliableBuffer_eq, Nat.mod_eq_of_lt (by omega)]
  exact ⟨decide_eq_false (Nat.not_lt.mpr hlarge), rfl⟩

omit [LawfulMicroCdr] in
/-- A slot without one is refused. -/
theorem onFullInputBuffer_small
    (hsmall : getReliableBufferSize stream.base (nextHistoryPosition stream.base ub) < 4) :
    (onFullInputBuffer stream ub).1 = true ∧ (onFullInputBuffer stream ub).2.2 = ub := by
  rw [onFullInputBuffer_eq]
  exact ⟨decide_eq_true hsmall, if_pos hsmall⟩

variable [DecidablePred own]

omit [DecidablePred own] in
/-- Alignment stays in the slot. -/
theorem InSlot.alignTo {d k : Nat} (hub : InSlot own d ub) (hk : k ∈ [1, 2, 4, 8]) :
    InSlot own d (ucdrAlignTo ub k) := by
  obtain ⟨p, hown, hlo, hle, hhi⟩ := hub
  rw [LawfulMicroCdr.alignTo ub k hk hle]
  exact ⟨p, hown, by dsimp only; omega, Nat.min_le_right _ _, hhi⟩

omit [DecidablePred own] in
/-- A buffer over what is left stays in the slot. -/
theorem InSlot.rebase {d : Nat} (hub : InSlot own d ub) (callback : Option OnFullBuffer) :
    InSlot own d (ub.rebase callback) := by
  obtain ⟨p, hown, hlo, hle, hhi⟩ := hub
  have hmod := Nat.mod_le (ub.final - ub.iterator) (2 ^ 32)
  rw [UcdrBuffer.rebase, ucdrInitBuffer, LawfulMicroCdr.init]
  refine ⟨p, hown, hlo, Nat.le_add_right _ _, ?_⟩
  show ub.iterator + (ub.final - ub.iterator) % 2 ^ 32 ≤ (p + 1) * d
  omega

end

end XrceClient
