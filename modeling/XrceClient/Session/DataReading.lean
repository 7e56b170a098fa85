import XrceClient.Session.Payloads
import XrceClient.Session.SessionSlots

/-!
# DATA submessages in a block

`read_format_data` gives the callbacks a buffer of their own, over what is left of the message,
and goes behind the data by the length that the header says.

- `datagramEnv_blocks`, `slotsEnv_blocks`: received messages and slots are blocks.
- `callback_plain`: whatever a callback does, the session and the outer buffer stay as they are.
- `readTopic_plain`, `readRequest_plain`, `readReply_plain`: the three kinds of objects.
- `readFormatData_plain`: what is called, and where the buffer stands behind it.
-/

namespace XrceClient

open ByteMemory Program

section

variable [MicroCdr]

theorem datagramEnv_blocks (shiftBeyond : Nat → UInt16) (memory : Memory) :
    (datagramEnv shiftBeyond memory).Blocks where
  refuses _ _ _ := rfl
  load_emit _ _ := rfl

theorem slotsEnv_blocks (shiftBeyond : Nat → UInt16) (index : UInt8) :
    (slotsEnv shiftBeyond index).Blocks where
  refuses session ub hcallback := by
    dsimp only [slotsEnv]
    rw [hcallback]
  load_emit e session := by
    have hring := (@sameRing_emit index session _ shiftBeyond e).1
    funext a
    exact congrFun (congrArg ReliableStream.buffer hring.base) a

end

section

variable [MicroCdr] [StickyMicroCdr] {σ : Type} {env : ReadEnv σ} {s : σ} {c : Cursor} {b : Block}

/-- A buffer over bytes that were received. -/
theorem holds_init (hblocks : env.Blocks) (a n : Nat) :
    Holds env.dev s (ucdrInitBuffer a n)
      { bytes := read (env.dev.load s) a n
        offset := 0
        lastDataSize := 0
        endianness := machineEndianness
        failed := false } := by
  have hlength := read_length (env.dev.load s) a n
  rw [ucdrInitBuffer, LawfulMicroCdr.init]
  refine ⟨hblocks.refuses _, rfl, ?_, ?_, rfl, rfl, rfl, rfl⟩
  · rw [hlength]
    rfl
  · rw [hlength]
    rfl

/-- A program that reads without a callback leaves everything but its buffer as it is. -/
theorem callback_plain (hblocks : env.Blocks) (hcallback : c.ub.onFullBuffer = none) {α : Type}
    (program : Program BufferOp α) :
    ∃ a ub', (readBuffer program).run env.handle (s, c) = (a, s, { c with ub := ub' }) ∧
      ub'.onFullBuffer = none := by
  have hinvariant : env.dev.Invariant fun s' ub => s' = s ∧ ub.onFullBuffer = none := by
    refine ⟨?_, ?_⟩
    · rintro s' ub ub' ⟨hs, hnone⟩ hblock
      exact ⟨hs, hblock.2.2.trans hnone⟩
    · rintro s' ub ⟨rfl, hnone⟩
      rw [hblocks.refuses s' ub hnone]
      exact ⟨rfl, hnone⟩
  have hstep {β : Type} (op : BufferOp β) (ub : UcdrBuffer) (hnone : ub.onFullBuffer = none) :
      (op.handle env.dev s ub).2.1 = s ∧ (op.handle env.dev s ub).2.2.onFullBuffer = none := by
    cases op with
    | alignTo size =>
      exact ⟨rfl, (LawfulMicroCdr.alignTo_sameBlock ub size).2.2.trans hnone⟩
    | bufferRemaining => exact ⟨rfl, hnone⟩
    | offset => exact ⟨rfl, hnone⟩
    | deserialize e width =>
      exact LawfulMicroCdr.deserialize_preserves hinvariant s ub _ width ⟨rfl, hnone⟩
    | deserializeArray size =>
      exact LawfulMicroCdr.deserializeArray_preserves hinvariant s ub size ⟨rfl, hnone⟩
    | advanceBuffer size =>
      exact LawfulMicroCdr.advance_preserves hinvariant s ub size ⟨rfl, hnone⟩
  rw [readBuffer, Program.run_translate]
  induction program generalizing c with
  | done a => exact ⟨a, c.ub, rfl, hcallback⟩
  | step op next ih =>
    obtain ⟨hs, hnone⟩ := hstep op c.ub hcallback
    have hhandle : env.handle (.buffer op) (s, c) = ((op.handle env.dev s c.ub).1, s,
        { c with ub := (op.handle env.dev s c.ub).2.2 }) := by
      rw [ReadEnv.handle]
      exact congrArg (fun s' => ((op.handle env.dev s c.ub).1, s', _)) hs
    obtain ⟨a, ub', hrun, hnone'⟩ := @ih (op.handle env.dev s c.ub).1
      { c with ub := (op.handle env.dev s c.ub).2.2 } hnone
    refine ⟨a, ub', ?_, hnone'⟩
    rw [Program.run, hhandle]
    exact hrun

/-- The buffer that a callback is given. -/
def Block.rebase (b : Block) : Block where
  bytes := b.bytes.take (b.bytes.length % 2 ^ 32)
  offset := 0
  lastDataSize := 0
  endianness := machineEndianness
  failed := false

theorem Holds.rebase (h : Holds env.dev s c.ub b) :
    Holds env.dev s (c.ub.rebase none) b.rebase := by
  have hmod := Nat.mod_le b.bytes.length (2 ^ 32)
  have hlength : (b.bytes.take (b.bytes.length % 2 ^ 32)).length = b.bytes.length % 2 ^ 32 := by
    rw [List.length_take, Nat.min_eq_left hmod]
  have hsize : c.ub.final - c.ub.iterator = b.bytes.length := by
    rw [h.final, Nat.add_sub_cancel_left]
  rw [UcdrBuffer.rebase, UcdrBuffer.setOnFullBufferCallback, ucdrInitBuffer, LawfulMicroCdr.init,
    hsize]
  refine ⟨h.refuses, rfl, ?_, ?_, rfl, rfl, rfl, rfl⟩
  · rw [Block.rebase, hlength]
    rfl
  · rw [Block.rebase]
    dsimp only
    rw [hlength]
    exact h.read_eq hmod

/-! ## Identities in front of the data -/

/-- The fields of `SampleIdentity`. -/
def sampleIdentityFields : List FieldType :=
  [.array 12, .array 3, .scalar 1, .scalar 4, .scalar 4]

def SampleIdentity.ofFields (fields : List (Option Field)) : SampleIdentity where
  guidPrefix := (arrayAt fields 0).getD (List.replicate 12 0)
  entityKey := (arrayAt fields 1).getD (List.replicate 3 0)
  entityKind := (scalarAt fields 2).getD 0
  high := (scalarAt fields 3).getD 0
  low := (scalarAt fields 4).getD 0

omit [MicroCdr] [StickyMicroCdr] in
theorem deserializeSampleIdentity_eq :
    deserializeSampleIdentity =
      (fun fields => (fields.all Option.isSome, SampleIdentity.ofFields fields)) <$>
        deserializeFields sampleIdentityFields := by
  refine step_congr fun guidPrefix => step_congr fun entityKey => step_congr fun entityKind =>
    step_congr fun high => step_congr fun low => congrArg Program.done ?_
  simp [SampleIdentity.ofFields, Bool.and_assoc]

omit [MicroCdr] [StickyMicroCdr] in
theorem deserializeBaseObjectRequest_all (output : BaseObjectRequest) :
    deserializeBaseObjectRequest output =
      (fun fields => (fields.all Option.isSome, BaseObjectRequest.ofFields output fields)) <$>
        deserializeFields baseObjectRequestFields := by
  refine step_congr fun requestId => step_congr fun objectId => congrArg Program.done ?_
  simp [BaseObjectRequest.ofFields]

omit [MicroCdr] [StickyMicroCdr] in
theorem decodeFields_all (e : Endianness) {types : List FieldType} {bytes : List UInt8}
    (h : fieldsSize types ≤ bytes.length) :
    (decodeFields e types bytes).all Option.isSome = true := by
  induction types generalizing bytes with
  | nil => rfl
  | cons type types ih =>
    rw [fieldsSize_cons] at h
    rw [decodeFields, if_pos (Nat.le_of_add_right_le h), List.all_cons,
      ih (by rw [List.length_drop]; omega)]
    rfl

/-- Where bytes are missing, one of the fields is not read. -/
theorem fields_short (h : Holds env.dev s c.ub b) (hok : b.failed = false)
    {types : List FieldType} (hpacked : Packed b.offset b.lastDataSize types)
    (hshort : b.bytes.length < fieldsSize types) :
    ((readBuffer (deserializeFields types)).run env.handle (s, c)).1.all Option.isSome = false := by
  induction types generalizing c b with
  | nil => exact absurd hshort (Nat.not_lt_zero _)
  | cons type types ih =>
    obtain ⟨hfield, hpacked⟩ := hpacked
    rw [fieldsSize_cons] at hshort
    have hread := FieldType.deserialize_onBlock hfield.padding
    obtain ⟨ub', hrun, hholds⟩ := run_onBlock h hread
    rw [readBuffer, Program.run_translate] at hrun ⊢
    rw [deserializeFields, run_bind, hrun, run_bind]
    rw [Block.take, if_neg (by simp [hok])] at hholds ⊢
    by_cases hthere : type.size ≤ b.bytes.length
    · rw [if_pos hthere] at hholds ⊢
      have hrest := @ih { c with ub := ub' } (b.behind type.size type.last) hholds hok hpacked
        (by rw [Block.behind, List.length_drop]; omega)
      rw [readBuffer, Program.run_translate] at hrest
      rw [run_pure, List.all_cons]
      exact (congrArg (_ && ·) hrest).trans (Bool.and_false _)
    · rw [if_neg hthere]
      rfl

/-- An identity in front of the data is used only if all of it is there. -/
theorem identity_plain (hblocks : env.Blocks) (h : Holds env.dev s c.ub b)
    (hok : b.failed = false) {α : Type} {program : Program BufferOp (Bool × α)}
    {f : List (Option Field) → α} {types : List FieldType}
    (hprogram : program =
      (fun fields => (fields.all Option.isSome, f fields)) <$> deserializeFields types)
    (hpacked : Packed b.offset b.lastDataSize types) :
    ∃ value ub', (readBuffer program).run env.handle (s, c) = (value, s, { c with ub := ub' }) ∧
      ub'.onFullBuffer = none ∧
      (fieldsSize types ≤ b.bytes.length →
        value = (true, f (decodeFields b.endianness types b.bytes)) ∧
          Holds env.dev s ub' (b.behind (fieldsSize types) (lastSize b.lastDataSize types))) ∧
      (b.bytes.length < fieldsSize types → value.1 = false) := by
  by_cases hthere : fieldsSize types ≤ b.bytes.length
  · have hread := attempt_map (fun fields => (fields.all Option.isSome, f fields))
      (deserializeFields_onBlock hok hpacked hthere)
    obtain ⟨ub', hrun, hholds⟩ := run_onBlock h (hprogram ▸ hread)
    refine ⟨_, ub', hrun, hholds.callback, fun _ => ⟨?_, hholds⟩,
      fun hshort => absurd hthere (Nat.not_le_of_lt hshort)⟩
    rw [decodeFields_all _ hthere]
  · obtain ⟨value, ub', hrun, hnone⟩ := callback_plain hblocks h.callback program
    refine ⟨value, ub', hrun, hnone, fun h => absurd h hthere, fun hshort => ?_⟩
    have hfields := fields_short h hok hpacked hshort
    have hvalue : value = ((readBuffer program).run env.handle (s, c)).1 := by rw [hrun]
    rw [hvalue, hprogram, readBuffer, Program.run_translate, run_map]
    rw [readBuffer, Program.run_translate] at hfields
    exact hfields

/-! ## The three kinds of objects -/

/-- What `read_format_data` calls: a callback, with the length it is told, on a buffer. -/
structure DataCall where
  /-- The call, by what the callback reads. -/
  effect : List UInt8 → Effect
  callback : ReadCallback
  length : UInt16
  block : Block

/-- The call for a buffer over what is left of the message. -/
def dataCall (config : ReadConfig) (length : UInt16) (streamId : StreamId) (objectId : ObjectId)
    (requestId : UInt16) (b : Block) : Option DataCall :=
  if objectId.type = dataReaderId then
    config.onTopic.map fun onTopic =>
      { effect := .onTopic objectId requestId streamId length
        callback := onTopic objectId requestId streamId length
        length
        block := b }
  else if objectId.type = replierId then
    if fieldsSize sampleIdentityFields ≤ b.bytes.length then
      let sampleId :=
        SampleIdentity.ofFields (decodeFields b.endianness sampleIdentityFields b.bytes)
      let length := length - 24
      config.onRequest.map fun onRequest =>
        { effect := .onRequest objectId requestId sampleId length
          callback := onRequest objectId requestId sampleId length
          length
          block := (b.behind 24 4).rebase }
    else
      none
  else if objectId.type = requesterId then
    if fieldsSize baseObjectRequestFields ≤ b.bytes.length then
      let request :=
        BaseObjectRequest.ofFields .zero (decodeFields b.endianness baseObjectRequestFields b.bytes)
      let replyId := uint16FromRaw request.requestId
      let length := length - 4
      config.onReply.map fun onReply =>
        { effect := .onReply objectId requestId replyId length
          callback := onReply objectId requestId replyId length
          length
          block := (b.behind 4 1).rebase }
    else
      none
  else
    none

/-- A state with the effect of a call, if there is one. -/
def Called (env : ReadEnv σ) (call : Option DataCall) (s s' : σ) : Prop :=
  match call with
  | none => s' = s
  | some call => ∃ c, Holds env.dev s c.ub call.block ∧
      s' = env.emit (call.effect ((readBuffer call.callback).run env.handle (s, c)).1) s

variable (config : ReadConfig) (length : UInt16) (streamId : StreamId) (objectId : ObjectId)
  (requestId : UInt16)

omit [StickyMicroCdr] in
/-- With no bytes left only a callback for topics is called. -/
theorem dataCall_empty (hempty : b.bytes = []) :
    dataCall config length streamId objectId requestId b =
      if objectId.type = dataReaderId then
        config.onTopic.map fun onTopic =>
          { effect := .onTopic objectId requestId streamId length
            callback := onTopic objectId requestId streamId length
            length
            block := b }
      else none := by
  rw [dataCall, hempty]
  split
  · rfl
  · split
    · rfl
    · split <;> rfl

/-- A topic, whose callback may read what it likes. -/
theorem readTopic_plain (hblocks : env.Blocks) (h : Holds env.dev s c.ub b)
    (htype : objectId.type = dataReaderId) :
    ∃ s' ub', (readTopic config length streamId objectId requestId).run env.handle (s, c) =
        (⟨⟩, s', { c with ub := ub' }) ∧
      Called env (dataCall config length streamId objectId requestId b) s s' := by
  rw [readTopic, dataCall, if_pos htype]
  cases hinstalled : config.onTopic with
  | none => exact ⟨s, c.ub, rfl, rfl⟩
  | some onTopic =>
    obtain ⟨read, ub', hrun, -⟩ :=
      callback_plain hblocks h.callback (onTopic objectId requestId streamId length)
    refine ⟨_, ub', ?_, c, h, rfl⟩
    dsimp only
    rw [run_bind, hrun]
    rfl

omit [MicroCdr] [StickyMicroCdr] in
/-- What is left of a length behind some bytes. -/
theorem length_behind {offset offset' n : Nat} (h : offset' = offset + n) (hn : n < 65536) :
    UInt16.ofNat (length.toNat + 65536 - (offset' - offset) % 65536) = length - UInt16.ofNat n := by
  rw [h, Nat.add_sub_cancel_left, Nat.mod_eq_of_lt hn]
  apply UInt16.toNat_inj.mp
  rw [UInt16.toNat_sub, UInt16.toNat_ofNat', UInt16.toNat_ofNat', Nat.mod_eq_of_lt hn]
  congr 1
  omega

/-- A callback on a buffer of its own, behind an identity. -/
theorem callback_behind (hblocks : env.Blocks) (h : Holds env.dev s c.ub b)
    (houter : (c.outer.getD c.ub).onFullBuffer = none) (d : DataCall)
    (hblock : d.block = b.rebase) :
    ∃ s' ub', (do
        call .rebaseTemp
        let read ← readBuffer d.callback
        call (.emit (d.effect read)) : Program ReadOp PUnit).run env.handle (s, c) =
        (⟨⟩, s', { c with ub := ub' }) ∧
      Called env (some d) s s' := by
  have hrebased : Holds env.dev s (c.ub.rebase none) d.block := hblock ▸ h.rebase
  have hrebase : env.handle .rebaseTemp (s, c) = (⟨⟩, s, { c with ub := c.ub.rebase none }) := by
    rw [ReadEnv.handle, houter]
  obtain ⟨read, ub', hrun, -⟩ := callback_plain hblocks
    (c := { c with ub := c.ub.rebase none }) hrebased.callback d.callback
  refine ⟨_, ub', ?_, { c with ub := c.ub.rebase none }, hrebased, rfl⟩
  rw [run_bind, run_call, hrebase, run_bind, hrun]
  rfl

/-- A callback for data with an identity in front. -/
theorem identified_plain (hblocks : env.Blocks) (h : Holds env.dev s c.ub b)
    (houter : ∀ ub, (c.outer.getD ub).onFullBuffer = none) (hok : b.failed = false) {α : Type}
    {program : Program BufferOp (Bool × α)} {f : List (Option Field) → α} {types : List FieldType}
    (hprogram : program =
      (fun fields => (fields.all Option.isSome, f fields)) <$> deserializeFields types)
    (hpacked : Packed b.offset b.lastDataSize types) (hsize : fieldsSize types < 65536)
    (callback : α → UInt16 → ReadCallback) (effect : α → UInt16 → List UInt8 → Effect) :
    ∃ s' ub', (do
        let offset ← call (.buffer .offset)
        let (ok, identity) ← readBuffer program
        if ok then
          let offset' ← call (.buffer .offset)
          let rest := UInt16.ofNat (length.toNat + 65536 - (offset' - offset) % 65536)
          call .rebaseTemp
          let read ← readBuffer (callback identity rest)
          call (.emit (effect identity rest read)) : Program ReadOp PUnit).run env.handle (s, c) =
        (⟨⟩, s', { c with ub := ub' }) ∧
      Called env
        (if fieldsSize types ≤ b.bytes.length then
          let identity := f (decodeFields b.endianness types b.bytes)
          let rest := length - UInt16.ofNat (fieldsSize types)
          some
            { effect := effect identity rest
              callback := callback identity rest
              length := rest
              block := (b.behind (fieldsSize types) (lastSize b.lastDataSize types)).rebase }
        else none) s s' := by
  obtain ⟨value, ub₁, hrun, hnone, hall, hshort⟩ := identity_plain hblocks h hok hprogram hpacked
  have hoffset : env.handle (.buffer .offset) (s, c) = (c.ub.offset, s, c) := rfl
  rw [run_bind, run_call, run_bind, hoffset, hrun]
  by_cases hthere : fieldsSize types ≤ b.bytes.length
  · -- all of the identity is there, and the callback gets what is behind it
    obtain ⟨rfl, hholds⟩ := hall hthere
    have hlength : UInt16.ofNat (length.toNat + 65536 - (ub₁.offset - c.ub.offset) % 65536) =
        length - UInt16.ofNat (fieldsSize types) :=
      length_behind length (by rw [hholds.offset, h.offset]; rfl) hsize
    have hoffset' : env.handle (.buffer .offset) (s, { c with ub := ub₁ }) =
        (ub₁.offset, s, { c with ub := ub₁ }) := rfl
    rw [if_pos hthere]
    generalize f (decodeFields b.endianness types b.bytes) = identity
    obtain ⟨s', ub', hrest, hcalled⟩ :=
      callback_behind (c := { c with ub := ub₁ }) hblocks hholds (houter ub₁)
        { effect := effect identity (length - UInt16.ofNat (fieldsSize types))
          callback := callback identity (length - UInt16.ofNat (fieldsSize types))
          length := length - UInt16.ofNat (fieldsSize types)
          block := (b.behind (fieldsSize types) (lastSize b.lastDataSize types)).rebase } rfl
    refine ⟨s', ub', ?_, hcalled⟩
    dsimp only
    rw [if_pos rfl, run_bind, run_call, hoffset']
    dsimp only
    rw [hlength]
    exact hrest
  · -- without the identity nothing is called
    rw [if_neg hthere]
    refine ⟨s, ub₁, ?_, rfl⟩
    dsimp only
    rw [if_neg (Bool.eq_false_iff.mp (hshort (Nat.lt_of_not_le hthere)))]
    rfl

/-- A request, with the identity of its sample in front. -/
theorem readRequest_plain (hblocks : env.Blocks) (h : Holds env.dev s c.ub b)
    (houter : ∀ ub, (c.outer.getD ub).onFullBuffer = none) (hok : b.failed = false)
    (hoffset : b.offset = 0) (hlast : b.lastDataSize = 0) (htype : objectId.type = replierId) :
    ∃ s' ub', (readRequest config length objectId requestId).run env.handle (s, c) =
        (⟨⟩, s', { c with ub := ub' }) ∧
      Called env (dataCall config length streamId objectId requestId b) s s' := by
  have hne : ¬ objectId.type = dataReaderId := by
    rw [htype]
    decide
  rw [readRequest, dataCall, if_neg hne, if_pos htype]
  cases hinstalled : config.onRequest with
  | none => exact ⟨s, c.ub, rfl, by split <;> rfl⟩
  | some onRequest =>
    have hpacked : Packed b.offset b.lastDataSize sampleIdentityFields := by
      rw [hoffset, hlast]
      simp [sampleIdentityFields, Packed, FieldType.PackedAt, FieldType.size]
    exact identified_plain length hblocks h houter hok deserializeSampleIdentity_eq hpacked
      (by decide) (onRequest objectId requestId) (.onRequest objectId requestId)

/-- A reply, with the identity of its request in front. -/
theorem readReply_plain (hblocks : env.Blocks) (h : Holds env.dev s c.ub b)
    (houter : ∀ ub, (c.outer.getD ub).onFullBuffer = none) (hok : b.failed = false)
    (htype : objectId.type = requesterId) :
    ∃ s' ub', (readReply config length objectId requestId).run env.handle (s, c) =
        (⟨⟩, s', { c with ub := ub' }) ∧
      Called env (dataCall config length streamId objectId requestId b) s s' := by
  have hne : ¬ objectId.type = dataReaderId ∧ ¬ objectId.type = replierId := by
    rw [htype]
    decide
  rw [readReply, dataCall, if_neg hne.1, if_neg hne.2, if_pos htype]
  cases hinstalled : config.onReply with
  | none => exact ⟨s, c.ub, rfl, by split <;> rfl⟩
  | some onReply =>
    have hpacked : Packed b.offset b.lastDataSize baseObjectRequestFields := ⟨trivial, trivial, trivial⟩
    exact identified_plain length hblocks h houter hok (deserializeBaseObjectRequest_all .zero)
      hpacked (by decide)
      (fun request => onReply objectId requestId (uint16FromRaw request.requestId))
      (fun request => .onReply objectId requestId (uint16FromRaw request.requestId))

/-- The block that a requester is left with in front of the last advance. -/
def Block.skip (b : Block) (n : Nat) : Block := { b with bytes := b.bytes.drop n }

omit [StickyMicroCdr] in
theorem Called.holds {call : Option DataCall} {s' : σ} {ub : UcdrBuffer} (hblocks : env.Blocks)
    (hcalled : Called env call s s') (h : Holds env.dev s ub b) : Holds env.dev s' ub b := by
  cases call with
  | none => exact hcalled ▸ h
  | some call =>
    obtain ⟨-, -, rfl⟩ := hcalled
    exact h.emit hblocks _

omit [MicroCdr] [StickyMicroCdr] in
theorem holds_skip (h : Holds env.dev s c.ub b) {n : Nat} (hn : n ≤ b.bytes.length) :
    Holds env.dev s { c.ub with iterator := c.ub.iterator + n } (b.skip n) where
  refuses := h.refuses
  callback := h.callback
  final := by
    rw [Block.skip, List.length_drop]
    have hfinal := h.final
    dsimp only
    omega
  bytes := by
    rw [Block.skip, List.length_drop, ← read_drop, h.bytes]
  offset := h.offset
  lastDataSize := h.lastDataSize
  endianness := h.endianness
  failed := h.failed

/-- Behind the data the outer buffer goes on by the length. -/
theorem advance_plain (hblocks : env.Blocks) (hcallback : c.ub.onFullBuffer = none) (n : Nat) :
    ∃ ub', (do
        call (.setCleanupFlag true)
        call (.buffer (.advanceBuffer n)) : Program ReadOp PUnit).run env.handle (s, c) =
        (⟨⟩, s, { c with ub := ub' }) ∧
      ∀ b, Holds env.dev s c.ub b → Holds env.dev s ub' (b.take n 1).2 := by
  have hflag : (call (.setCleanupFlag true)).run env.handle (s, c) = (⟨⟩, s, c) := by
    rw [run_call, ReadEnv.handle, hcallback]
    rfl
  obtain ⟨_, ub', hrun, -⟩ := callback_plain hblocks hcallback (call (.advanceBuffer n))
  refine ⟨ub', ?_, fun b h => ?_⟩
  · rw [run_bind, hflag]
    exact hrun
  · obtain ⟨ub'', hcall, hholds⟩ := holds_advance h n
    have hub' : (ucdrAdvanceBuffer env.dev s c.ub n).2 = ub' :=
      congrArg (fun result => result.2.2.ub) hrun
    rw [← hub', hcall]
    exact hholds

/-- What `read_format_data` calls, and where it leaves the buffer. -/
theorem readFormatData_plain (hblocks : env.Blocks) (h : Holds env.dev s c.ub b) :
    ∃ s' ub', (readFormatData config length streamId objectId requestId).run env.handle (s, c) =
        (⟨⟩, s', { ub := ub', outer := none }) ∧
      Called env (dataCall config length streamId objectId requestId b.rebase) s s' ∧
      (objectId.type ≠ requesterId → Holds env.dev s' ub' (b.take length.toNat 1).2) ∧
      (objectId.type = requesterId → length.toNat ≤ b.bytes.length →
        Holds env.dev s' ub' ((b.skip length.toNat).take length.toNat 1).2) := by
  obtain ⟨temp, htemp⟩ : ∃ temp : Cursor, temp = { ub := c.ub.rebase none, outer := some c.ub } :=
    ⟨_, rfl⟩
  have hopen : env.handle .openTemp (s, c) = (⟨⟩, s, temp) := by
    rw [ReadEnv.handle, h.callback, htemp]
  have hrebased : Holds env.dev s temp.ub b.rebase := htemp ▸ h.rebase
  have hflag : env.handle (.setCleanupFlag false) (s, temp) = (⟨⟩, s, temp) := by
    rw [ReadEnv.handle, hrebased.callback]
    rfl
  have houter : ∀ ub, (temp.outer.getD ub).onFullBuffer = none := by
    intro ub
    rw [htemp]
    exact h.callback
  have hclose (s' : σ) (ub' : UcdrBuffer) :
      env.handle .closeTemp (s', { temp with ub := ub' }) = (⟨⟩, s', { ub := c.ub, outer := none }) := by
    rw [ReadEnv.handle, htemp]
    rfl
  have hclosing (p : Program ReadOp PUnit) {s' : σ} {ub₁ : UcdrBuffer}
      (hrun : p.run env.handle (s, temp) = (⟨⟩, s', { temp with ub := ub₁ })) :
      ∃ ub', (do
          p
          call .closeTemp
          call (.setCleanupFlag true)
          call (.buffer (.advanceBuffer length.toNat)) : Program ReadOp PUnit).run env.handle
            (s, temp) = (⟨⟩, s', { ub := ub', outer := none }) ∧
        ∀ b, Holds env.dev s' c.ub b → Holds env.dev s' ub' (b.take length.toNat 1).2 := by
    obtain ⟨ub', hadvance, hbehind⟩ := advance_plain (s := s')
      (c := { ub := c.ub, outer := none }) hblocks h.callback length.toNat
    refine ⟨ub', ?_, hbehind⟩
    rw [run_bind, run_bind, hrun, run_call, hclose]
    exact hadvance
  rw [readFormatData, run_bind, run_call, hopen, run_bind, run_call, hflag]
  by_cases htopic : objectId.type = dataReaderId
  · obtain ⟨s', ub₁, hrun, hcalled⟩ := readTopic_plain config length streamId objectId requestId
      hblocks hrebased htopic
    obtain ⟨ub', hrest, hbehind⟩ := hclosing _ hrun
    refine ⟨s', ub', ?_, hcalled, fun _ => hbehind b (hcalled.holds hblocks h), ?_⟩
    · rw [if_pos htopic]
      exact hrest
    · intro hrequester
      rw [htopic] at hrequester
      exact absurd hrequester (by decide)
  · rw [if_neg htopic]
    by_cases hreplier : objectId.type = replierId
    · obtain ⟨s', ub₁, hrun, hcalled⟩ := readRequest_plain config length streamId objectId
        requestId hblocks hrebased houter rfl rfl rfl hreplier
      obtain ⟨ub', hrest, hbehind⟩ := hclosing _ hrun
      refine ⟨s', ub', ?_, hcalled, fun _ => hbehind b (hcalled.holds hblocks h), ?_⟩
      · rw [if_pos hreplier]
        exact hrest
      · intro hrequester
        rw [hreplier] at hrequester
        exact absurd hrequester (by decide)
    · rw [if_neg hreplier]
      by_cases hrequester : objectId.type = requesterId
      · -- the outer buffer is behind the data already when it goes on by the length
        obtain ⟨s', ub₁, hrun, hcalled⟩ := readReply_plain config length streamId objectId
          requestId hblocks hrebased houter rfl hrequester
        obtain ⟨ub', hadvance, hbehind⟩ := advance_plain (s := s')
          (c := { ub := { c.ub with iterator := c.ub.iterator + length.toNat }, outer := none })
          hblocks h.callback length.toNat
        refine ⟨s', ub', ?_, hcalled, fun hne => absurd hrequester hne, fun _ hlength => ?_⟩
        · rw [if_pos hrequester, run_bind, run_bind, hrun, run_call, hclose]
          exact hadvance
        · exact hbehind _ (holds_skip (hcalled.holds hblocks h) hlength)
      · have hnone : dataCall config length streamId objectId requestId b.rebase = none := by
          rw [dataCall, if_neg htopic, if_neg hreplier, if_neg hrequester]
        obtain ⟨ub', hrest, hbehind⟩ := hclosing (pure ⟨⟩) rfl
        refine ⟨s, ub', ?_, hnone ▸ rfl, fun _ => hbehind b h, fun h => absurd h hrequester⟩
        rw [if_neg hrequester]
        exact hrest

/-! ## DATA -/

/-- The base of a DATA, as far as its bytes are there. -/
def dataBase (config : ReadConfig) (b : Block) : BaseObjectRequest :=
  BaseObjectRequest.ofFields config.uninitialized.base
    (decodeFields b.endianness baseObjectRequestFields b.bytes)

/-- What a DATA calls, once its base is read. -/
def submessageDataCall (config : ReadConfig) (length : UInt16) (format : UInt8)
    (streamId : StreamId) (base : BaseObjectRequest) (b : Block) : Option DataCall :=
  if format = formatData then
    dataCall config (length - 4) streamId (objectIdFromRaw base.objectId)
      (uint16FromRaw base.requestId) b.rebase
  else
    none

/-- What is read of a DATA: its base, and with `FORMAT_DATA` the data. -/
theorem readSubmessageData_plain (format : UInt8) (hblocks : env.Blocks)
    (h : Holds env.dev s c.ub b) (hok : b.failed = false) (houter : c.outer = none) :
    ∃ b₁ s' ub', (readSubmessageData config length streamId format).run env.handle (s, c) =
        (⟨⟩, s', { ub := ub', outer := none }) ∧
      Called env (submessageDataCall config length format streamId (dataBase config b) b₁)
        (env.emit (.status (objectIdFromRaw (dataBase config b).objectId)
          (uint16FromRaw (dataBase config b).requestId) statusOk) s) s' ∧
      (4 ≤ b.bytes.length → b₁ = b.behind 4 1) ∧
      (b.bytes.length < 4 → b₁.bytes = [] ∧ b₁.failed = true) ∧
      (format ≠ formatData → Holds env.dev s' ub' b₁) ∧
      (format = formatData →
        ((objectIdFromRaw (dataBase config b).objectId).type ≠ requesterId →
          Holds env.dev s' ub' (b₁.take (length - 4).toNat 1).2) ∧
        ((objectIdFromRaw (dataBase config b).objectId).type = requesterId →
          (length - 4).toNat ≤ b₁.bytes.length →
          Holds env.dev s' ub' ((b₁.skip (length - 4).toNat).take (length - 4).toNat 1).2)) := by
  obtain ⟨ub₁, b₁, hbase, hholds, hwhole, hcut⟩ :=
    payload_block (deserializeBaseObjectRequest_eq config.uninitialized.base) h hok
      ⟨trivial, trivial, trivial⟩ (by simp [baseObjectRequestFields, CalmBehind, Calm, FieldType.CalmAfter])
  have hemitted := hholds.emit hblocks (.status (objectIdFromRaw (dataBase config b).objectId)
    (uint16FromRaw (dataBase config b).requestId) statusOk)
  have hsize : fieldsSize baseObjectRequestFields = 4 := rfl
  have hstart : (readSubmessageData config length streamId format).run env.handle (s, c) =
      (readSubmessageFormat config (length - 4) format streamId
        (objectIdFromRaw (dataBase config b).objectId)
        (uint16FromRaw (dataBase config b).requestId)).run env.handle
          (env.emit (.status (objectIdFromRaw (dataBase config b).objectId)
            (uint16FromRaw (dataBase config b).requestId) statusOk) s, { c with ub := ub₁ }) := by
    rw [readSubmessageData, run_bind, hbase]
    rfl
  rw [hstart]
  clear hstart hbase
  generalize dataBase config b = base at hemitted ⊢
  generalize env.emit (.status (objectIdFromRaw base.objectId) (uint16FromRaw base.requestId)
    statusOk) s = s₁ at hemitted ⊢
  rw [readSubmessageFormat]
  by_cases hformat : format = formatData
  · obtain ⟨s', ub', hrun, hcalled, hother, hrequester⟩ := readFormatData_plain config (length - 4)
      streamId (objectIdFromRaw base.objectId) (uint16FromRaw base.requestId)
      (c := { c with ub := ub₁ }) hblocks hemitted
    rw [← show submessageDataCall config length format streamId base b₁ = _ from if_pos hformat]
      at hcalled
    rw [if_pos hformat]
    exact ⟨b₁, s', ub', hrun, hcalled, hwhole, fun h => (hcut h).symm,
      fun hne => absurd hformat hne, fun _ => ⟨hother, hrequester⟩⟩
  · have hnone : submessageDataCall config length format streamId base b₁ = none := if_neg hformat
    rw [if_neg hformat]
    refine ⟨b₁, s₁, ub₁, ?_, hnone ▸ rfl, hwhole, fun h => (hcut h).symm, fun _ => hemitted,
      fun h => absurd h hformat⟩
    rw [houter]
    rfl

end

end XrceClient
