import XrceClient.Session.Headers
import XrceClient.Stream.Fields

/-!
# Reading a message that lies in one block

A message that was received, or that lies whole in a slot, is read without a callback: what is
left of it is a list of bytes.

- `Block`: the bytes that are left, with what Micro-CDR keeps besides.
- `Holds`: a buffer over a block.
- `BufferOp.onBlock`: the Micro-CDR calls on a block, as far as they are documented;
  `run_onBlock` says that a program does on a buffer what it does on the block.
- `deserializeFields`: reading the fields of a payload. `deserializeFields_onBlock` says what
  is read, whether all of it is there or not.
-/

namespace XrceClient

open ByteMemory

/-! ## Blocks -/

/-- What is left of a block. -/
structure Block where
  bytes : List UInt8
  offset : Nat
  lastDataSize : Nat
  endianness : Endianness
  failed : Bool
  deriving DecidableEq, Repr

namespace Block

/-- How far `ucdr_align_to` moves. -/
def padding (b : Block) (dataSize : Nat) : Nat :=
  if b.lastDataSize < dataSize then (dataSize - b.offset % dataSize) % dataSize else 0

/-- The block behind the padding. -/
def alignTo (b : Block) (size : Nat) : Block :=
  { b with
    bytes := b.bytes.drop (b.padding size)
    offset := b.offset + b.padding size
    lastDataSize := size }

/-- The block behind some of its bytes. -/
def behind (b : Block) (n last : Nat) : Block :=
  { b with bytes := b.bytes.drop n, offset := b.offset + n, lastDataSize := last }

/-- The block of which more was asked than is left. -/
def exhausted (b : Block) (last : Nat) : Block :=
  { b with bytes := [], offset := b.offset + b.bytes.length, lastDataSize := last, failed := true }

/-- Taking bytes. -/
def take (b : Block) (n last : Nat) : Option (List UInt8) × Block :=
  if b.failed ∧ 0 < n then (none, { b with lastDataSize := last })
  else if n ≤ b.bytes.length then (some (b.bytes.take n), b.behind n last)
  else (none, b.exhausted last)

end Block

/-- A Micro-CDR call on a block. The documentation says nothing about padding behind the end,
nor about padding after a failure. -/
def BufferOp.onBlock {β : Type} (op : BufferOp β) (b : Block) : Except Unit (β × Block) :=
  match op with
  | .alignTo size => if size ∈ [1, 2, 4, 8] then .ok ((), b.alignTo size) else .error ()
  | .bufferRemaining => .ok (b.bytes.length, b)
  | .offset => .ok (b.offset, b)
  | .deserialize e width =>
    if width ∈ [1, 2, 4, 8] ∧ b.padding width ≤ b.bytes.length ∧
        (b.failed = true → b.padding width = 0) then
      let (bs, b') := (b.alignTo width).take width width
      .ok (bs.map (decodeScalar (e.getD b.endianness)), b')
    else
      .error ()
  | .deserializeArray size => .ok (b.take size 1)
  | .advanceBuffer size => .ok ((), (b.take size 1).2)

/-- The block behind its first bytes. -/
def Block.next (b : Block) (n : Nat) (rest : List UInt8) : Block :=
  { b with bytes := rest, offset := b.offset + n, lastDataSize := n }

theorem Block.take_front {b : Block} {front rest : List UInt8} (hok : b.failed = false)
    (hbytes : b.bytes = front ++ rest) (last : Nat) :
    b.take front.length last =
      (some front, { b with bytes := rest, offset := b.offset + front.length,
                            lastDataSize := last }) := by
  have hroom : front.length ≤ b.bytes.length := by
    rw [hbytes, List.length_append]
    exact Nat.le_add_right _ _
  rw [Block.take, if_neg (by simp [hok]), if_pos hroom, Block.behind, hbytes, List.take_left,
    List.drop_left]

/-- A scalar that is next. -/
theorem onBlock_deserialize {b : Block} {front rest : List UInt8} (e : Option Endianness)
    (hwidth : front.length ∈ [1, 2, 4, 8]) (hok : b.failed = false)
    (hpad : b.padding front.length = 0) (hbytes : b.bytes = front ++ rest) :
    (BufferOp.deserialize e front.length).onBlock b =
      .ok (some (decodeScalar (e.getD b.endianness) front), b.next front.length rest) := by
  have htake : (b.alignTo front.length).take front.length front.length =
      b.take front.length front.length := by
    rw [Block.alignTo, hpad]
    rfl
  rw [BufferOp.onBlock, if_pos ⟨hwidth, by omega, fun _ => hpad⟩, htake,
    Block.take_front hok hbytes]
  rfl

/-- An array that is next. -/
theorem onBlock_deserializeArray {b : Block} {front rest : List UInt8} (hok : b.failed = false)
    (hbytes : b.bytes = front ++ rest) :
    (BufferOp.deserializeArray front.length).onBlock b =
      .ok (some front, { b with bytes := rest, offset := b.offset + front.length,
                                lastDataSize := 1 }) := by
  rw [BufferOp.onBlock, Block.take_front hok hbytes]

/-- The buffer is over the block, and no callback is installed. -/
structure Holds {σ : Type} (dev : Device σ) (s : σ) (ub : UcdrBuffer) (b : Block) : Prop where
  refuses : ∀ ub', ub'.onFullBuffer = none → dev.onFull s ub' = (true, s, ub')
  callback : ub.onFullBuffer = none
  final : ub.final = ub.iterator + b.bytes.length
  bytes : read (dev.load s) ub.iterator b.bytes.length = b.bytes
  offset : ub.offset = b.offset
  lastDataSize : ub.lastDataSize = b.lastDataSize
  endianness : ub.endianness = b.endianness
  failed : ub.error = b.failed

section

variable {σ : Type} {dev : Device σ} {s : σ} {ub : UcdrBuffer} {b : Block}

/-- Part of what can be read. -/
theorem read_drop (m : Memory) (a n k : Nat) :
    (read m a n).drop k = read m (a + k) (n - k) := by
  induction k generalizing a n with
  | zero => rfl
  | succ k ih =>
    cases n with
    | zero => rw [read_zero, List.drop_nil, Nat.zero_sub, read_zero]
    | succ n =>
      rw [read_succ, List.drop_succ_cons, ih, Nat.succ_sub_succ,
        show a + 1 + k = a + (k + 1) by omega]

theorem read_take (m : Memory) (a : Nat) {n k : Nat} (hle : k ≤ n) :
    (read m a n).take k = read m a k := by
  obtain ⟨rest, rfl⟩ := Nat.exists_eq_add_of_le hle
  have hlength := read_length m a k
  rw [read_append, List.take_append_of_le_length (Nat.le_of_eq hlength.symm),
    List.take_of_length_le (Nat.le_of_eq hlength)]

namespace Holds

theorem le (h : Holds dev s ub b) : ub.iterator ≤ ub.final := by
  rw [h.final]
  exact Nat.le_add_right _ _

theorem padding (h : Holds dev s ub b) (k : Nat) : ub.padding k = b.padding k := by
  rw [UcdrBuffer.padding, Block.padding, h.lastDataSize, h.offset]

/-- The buffer behind some bytes. -/
theorem behind (h : Holds dev s ub b) {n : Nat} (hn : n ≤ b.bytes.length) (last : Nat) :
    Holds dev s { ub with iterator := ub.iterator + n, offset := ub.offset + n,
                          lastDataSize := last } (b.behind n last) where
  refuses := h.refuses
  callback := h.callback
  final := by
    rw [Block.behind, List.length_drop]
    have hfinal := h.final
    dsimp only
    omega
  bytes := by
    rw [Block.behind, List.length_drop, ← read_drop, h.bytes]
  offset := congrArg (· + n) h.offset
  lastDataSize := rfl
  endianness := h.endianness
  failed := h.failed

/-- The bytes in front of the end. -/
theorem read_eq (h : Holds dev s ub b) {n : Nat} (hn : n ≤ b.bytes.length) :
    read (dev.load s) ub.iterator n = b.bytes.take n := by
  rw [← read_take _ _ hn, h.bytes]

variable [MicroCdr] [LawfulMicroCdr]

theorem alignTo (h : Holds dev s ub b) {k : Nat} (hk : k ∈ [1, 2, 4, 8]) :
    Holds dev s (ucdrAlignTo ub k) (b.alignTo k) := by
  rw [LawfulMicroCdr.alignTo ub k hk h.le, h.padding]
  refine ⟨h.refuses, h.callback, ?_, ?_, congrArg (· + b.padding k) h.offset, rfl, h.endianness,
    h.failed⟩
  · rw [Block.alignTo, List.length_drop]
    have hfinal := h.final
    dsimp only
    omega
  · rw [Block.alignTo, List.length_drop]
    dsimp only
    by_cases hle : b.padding k ≤ b.bytes.length
    · rw [Nat.min_eq_left (by rw [h.final]; omega), ← read_drop, h.bytes]
    · rw [List.drop_eq_nil_of_le (by omega), Nat.sub_eq_zero_of_le (by omega), read_zero]

end Holds

/-- More bytes than are left: the transfer ends at the end of the block. -/
theorem getStops_of_holds (h : Holds dev s ub b) (hok : b.failed = false) {n : Nat}
    (hn : b.bytes.length < n) :
    GetStops dev n s ub s
      { ub with iterator := ub.iterator + b.bytes.length, offset := ub.offset + b.bytes.length,
                error := true } := by
  induction n generalizing ub b with
  | zero => exact absurd hn (Nat.not_lt_zero _)
  | succ n ih =>
    cases hbytes : b.bytes with
    | nil =>
      have hend : ub.iterator = ub.final := by rw [h.final, hbytes]; rfl
      exact GetStops.refused (h.failed.trans hok) hend (h.refuses ub h.callback)
    | cons byte bytes =>
      have hlength : b.bytes.length = bytes.length + 1 := by rw [hbytes]; rfl
      have hlt : ub.iterator < ub.final := by rw [h.final, hlength]; omega
      have hrest := @ih ub.next (b.behind 1 ub.lastDataSize)
        (h.behind (by omega) ub.lastDataSize) hok
        (by rw [Block.behind, List.length_drop]; omega)
      rw [Block.behind, List.length_drop, hlength] at hrest
      rw [List.length_cons]
      have hstop := GetStops.byte (h.failed.trans hok) hlt hrest
      simpa [UcdrBuffer.next, Nat.add_assoc, Nat.add_comm, Nat.add_left_comm] using hstop

end

/-! ## Programs on a block -/

section

variable [MicroCdr] [StickyMicroCdr] {σ : Type} {dev : Device σ} {s : σ} {ub : UcdrBuffer}
  {b b' : Block}

omit [MicroCdr] [StickyMicroCdr] in
/-- The end of a block that was exhausted. -/
theorem Holds.exhausted (h : Holds dev s ub b) (last : Nat) :
    Holds dev s
      { ub with iterator := ub.iterator + b.bytes.length, offset := ub.offset + b.bytes.length,
                error := true, lastDataSize := last } (b.exhausted last) :=
  ⟨h.refuses, h.callback, h.final, rfl, congrArg (· + b.bytes.length) h.offset, rfl, h.endianness,
    rfl⟩

theorem holds_deserializeArray (h : Holds dev s ub b) (n : Nat) :
    ∃ ub', ucdrDeserializeArray dev s ub n = ((b.take n 1).1, s, ub') ∧
      Holds dev s ub' (b.take n 1).2 := by
  rw [Block.take]
  split
  · next hfailed =>
    rw [StickyMicroCdr.deserializeArray_error s hfailed.2 (h.failed.trans hfailed.1)]
    exact ⟨_, rfl, h.refuses, h.callback, h.final, h.bytes, h.offset, rfl, h.endianness, h.failed⟩
  · next hok =>
    rcases Nat.eq_zero_or_pos n with rfl | hpos
    · -- no bytes are there even after a failure
      rw [if_pos (Nat.zero_le _), LawfulMicroCdr.deserializeArray (Gets.zero s ub)]
      exact ⟨_, rfl, h.behind (Nat.zero_le _) 1⟩
    · have hok' : b.failed = false := by
        rw [← Bool.not_eq_true]
        exact fun hfailed => hok ⟨hfailed, hpos⟩
      split
      · next hn =>
        rw [ucdrDeserializeArray_room dev s ub n (h.failed.trans hok') (by rw [h.final]; omega),
          h.read_eq hn]
        exact ⟨_, rfl, h.behind hn 1⟩
      · next hn =>
        rw [LawfulMicroCdr.deserializeArray_stops
          (getStops_of_holds h hok' (Nat.lt_of_not_le hn))]
        exact ⟨_, rfl, h.exhausted 1⟩

theorem holds_advance (h : Holds dev s ub b) (n : Nat) :
    ∃ ub', ucdrAdvanceBuffer dev s ub n = (s, ub') ∧ Holds dev s ub' (b.take n 1).2 := by
  rw [Block.take]
  split
  · next hfailed =>
    rw [StickyMicroCdr.advance_error s hfailed.2 (h.failed.trans hfailed.1)]
    exact ⟨_, rfl, h.refuses, h.callback, h.final, h.bytes, h.offset, rfl, h.endianness, h.failed⟩
  · next hok =>
    rcases Nat.eq_zero_or_pos n with rfl | hpos
    · rw [if_pos (Nat.zero_le _), LawfulMicroCdr.advance (Gets.zero s ub)]
      exact ⟨_, rfl, h.behind (Nat.zero_le _) 1⟩
    · have hok' : b.failed = false := by
        rw [← Bool.not_eq_true]
        exact fun hfailed => hok ⟨hfailed, hpos⟩
      split
      · next hn =>
        rw [LawfulMicroCdr.advance
          (gets_room dev n s ub (h.failed.trans hok') (by rw [h.final]; omega))]
        exact ⟨_, rfl, h.behind hn 1⟩
      · next hn =>
        rw [LawfulMicroCdr.advance_stops (getStops_of_holds h hok' (Nat.lt_of_not_le hn))]
        exact ⟨_, rfl, h.exhausted 1⟩

theorem holds_deserialize (h : Holds dev s ub b) (e : Endianness) {k : Nat}
    (hk : k ∈ [1, 2, 4, 8]) (hpad : b.padding k ≤ b.bytes.length)
    (hfailed : b.failed = true → b.padding k = 0) :
    ∃ ub', ucdrDeserialize dev s ub e k =
        (((b.alignTo k).take k k).1.map (decodeScalar e), s, ub') ∧
      Holds dev s ub' ((b.alignTo k).take k k).2 := by
  have hpos : 0 < k := by
    refine Nat.pos_of_ne_zero ?_
    rintro rfl
    simp at hk
  have haligned := h.alignTo hk
  have hroom : ub.iterator + ub.padding k ≤ ub.final := by
    rw [h.padding, h.final]
    omega
  rw [Block.take]
  by_cases herror : b.failed = true
  · have hnone := hfailed herror
    obtain ⟨ub', hcall, -, -, hstill⟩ :=
      @StickyMicroCdr.deserialize_error _ _ _ dev _ s _ e hk (h.failed.trans herror)
    rw [if_pos ⟨herror, hpos⟩, hcall]
    refine ⟨ub', rfl, ?_⟩
    rw [hstill (h.padding k ▸ hnone) h.le, Block.alignTo, hnone]
    exact ⟨h.refuses, h.callback, h.final, h.bytes, h.offset, rfl, h.endianness, h.failed⟩
  · have hok : (b.alignTo k).failed = false := Bool.eq_false_iff.mpr herror
    rw [if_neg fun hboth => herror hboth.1]
    split
    · next hn =>
      have hget := gets_room dev k s (ucdrAlignTo ub k) (haligned.failed.trans hok)
        (by rw [haligned.final]; omega)
      rw [LawfulMicroCdr.deserialize e hk hroom hget, haligned.read_eq hn]
      exact ⟨_, rfl, haligned.behind hn k⟩
    · next hn =>
      rw [LawfulMicroCdr.deserialize_stops e hk hroom
        (getStops_of_holds haligned hok (Nat.lt_of_not_le hn))]
      exact ⟨_, rfl, haligned.exhausted k⟩

/-- Reading out of a block: nothing comes behind its end, and the effects of submessages leave
the bytes alone. -/
structure ReadEnv.Blocks (env : ReadEnv σ) : Prop where
  refuses : ∀ s ub, ub.onFullBuffer = none → env.dev.onFull s ub = (true, s, ub)
  load_emit : ∀ e s, env.dev.load (env.emit e s) = env.dev.load s

omit [MicroCdr] [StickyMicroCdr] in
/-- An effect leaves the block as it is. -/
theorem Holds.emit {env : ReadEnv σ} (hblocks : env.Blocks) (h : Holds env.dev s ub b)
    (e : Effect) : Holds env.dev (env.emit e s) ub b :=
  { h with
    refuses := hblocks.refuses _
    bytes := by rw [hblocks.load_emit]; exact h.bytes }

/-- A Micro-CDR call does on a buffer what it does on the block. -/
theorem handle_onBlock {β : Type} {op : BufferOp β} {r : β} (h : Holds dev s ub b)
    (hop : op.onBlock b = .ok (r, b')) :
    ∃ ub', op.handle dev s ub = (r, s, ub') ∧ Holds dev s ub' b' := by
  cases op with
  | alignTo size =>
    rw [BufferOp.onBlock] at hop
    split at hop
    · next hsize =>
      cases hop
      exact ⟨_, rfl, h.alignTo hsize⟩
    · cases hop
  | bufferRemaining =>
    cases hop
    refine ⟨ub, ?_, h⟩
    rw [BufferOp.handle, LawfulMicroCdr.remaining ub h.le, h.final, Nat.add_sub_cancel_left]
  | offset =>
    cases hop
    exact ⟨ub, by rw [BufferOp.handle, h.offset], h⟩
  | deserialize e width =>
    rw [BufferOp.onBlock] at hop
    split at hop
    · next hdoc =>
      cases hop
      rw [BufferOp.handle, h.endianness]
      exact holds_deserialize h _ hdoc.1 hdoc.2.1 hdoc.2.2
    · cases hop
  | deserializeArray size =>
    obtain ⟨ub', hcall, hholds⟩ := holds_deserializeArray h size
    rw [BufferOp.onBlock] at hop
    obtain ⟨rfl, rfl⟩ := Prod.mk.inj (Except.ok.inj hop)
    exact ⟨ub', hcall, hholds⟩
  | advanceBuffer size =>
    obtain ⟨ub', hcall, hholds⟩ := holds_advance h size
    cases hop
    refine ⟨ub', ?_, hholds⟩
    rw [BufferOp.handle, hcall]

/-- The same for a call of a reading function. -/
theorem run_buffer {β : Type} {op : BufferOp β} {r : β} {c : Cursor} {env : ReadEnv σ}
    (h : Holds env.dev s c.ub b) (hop : op.onBlock b = .ok (r, b')) :
    ∃ ub', env.handle (.buffer op) (s, c) = (r, s, { c with ub := ub' }) ∧
      Holds env.dev s ub' b' := by
  obtain ⟨ub', hcall, h'⟩ := handle_onBlock h hop
  refine ⟨ub', ?_, h'⟩
  rw [ReadEnv.handle]
  dsimp only
  rw [hcall]

/-- A program does on a buffer what it does on the block. -/
theorem run_onBlock {α : Type} {program : Program BufferOp α} {a : α} {c : Cursor}
    {env : ReadEnv σ} (h : Holds env.dev s c.ub b)
    (hp : program.attempt BufferOp.onBlock b = .ok (a, b')) :
    ∃ ub', (readBuffer program).run env.handle (s, c) = (a, s, { c with ub := ub' }) ∧
      Holds env.dev s ub' b' := by
  rw [readBuffer, Program.run_translate]
  induction program generalizing c b with
  | done a =>
    obtain ⟨rfl, rfl⟩ := Prod.mk.inj (Except.ok.inj hp)
    exact ⟨c.ub, rfl, h⟩
  | step op next ih =>
    rw [Program.attempt] at hp
    cases hop : op.onBlock b with
    | error e =>
      rw [hop] at hp
      cases hp
    | ok r =>
      rw [hop] at hp
      obtain ⟨ub₁, hcall, h₁⟩ := run_buffer h hop
      obtain ⟨ub', hrun, h'⟩ := @ih r.1 _ { c with ub := ub₁ } h₁ hp
      refine ⟨ub', ?_, h'⟩
      rw [Program.run, hcall]
      exact hrun

end

/-! ## Fields -/

open Program

/-- Reading one field. -/
def FieldType.deserialize : FieldType → Program BufferOp (Option Field)
  | scalar width => (fun v => v.map (Field.scalar width)) <$> call (.deserialize none width)
  | array size => (fun bs => bs.map Field.array) <$> call (.deserializeArray size)

/-- Reading the fields of a payload. -/
def deserializeFields : List FieldType → Program BufferOp (List (Option Field))
  | [] => return []
  | type :: types => do
    let field ← type.deserialize
    let fields ← deserializeFields types
    return field :: fields

/-- After a failure a field needs no padding either: it is no wider than what comes before it. -/
def FieldType.CalmAfter (last : Nat) : FieldType → Prop
  | scalar width => width ∈ [1, 2, 4, 8] ∧ (1 < width → width ≤ last)
  | array size => 0 < size

/-- The fields need no padding once one of them could not be read. -/
def Calm : Nat → List FieldType → Prop
  | _, [] => True
  | last, type :: types => type.CalmAfter last ∧ Calm type.last types

/-- Wherever the reading of the fields fails, the fields behind need no padding. -/
def CalmBehind : List FieldType → Prop
  | [] => True
  | type :: types => Calm type.last types

section

variable {b : Block} {type : FieldType} {types : List FieldType}

theorem attempt_map {α β : Type} (f : α → β) {program : Program BufferOp α} {a : α} {b b' : Block}
    (h : program.attempt BufferOp.onBlock b = .ok (a, b')) :
    (f <$> program).attempt BufferOp.onBlock b = .ok (f a, b') :=
  Program.attempt_bind_of_ok BufferOp.onBlock h

theorem Block.padding_eq_zero {width : Nat}
    (h : b.lastDataSize < width → b.offset % width = 0 ∨ width = 1) : b.padding width = 0 := by
  rw [Block.padding]
  split
  · next hlt =>
    rcases h hlt with haligned | rfl
    · rw [haligned, Nat.sub_zero, Nat.mod_self]
    · exact Nat.mod_one _
  · rfl

/-- Without padding, a field is read from the bytes that are next. -/
theorem FieldType.deserialize_onBlock
    (h : ∀ width, type = .scalar width → width ∈ [1, 2, 4, 8] ∧ b.padding width = 0) :
    type.deserialize.attempt BufferOp.onBlock b =
      .ok ((b.take type.size type.last).1.map fun bs => type.decode b.endianness bs,
        (b.take type.size type.last).2) := by
  cases type with
  | scalar width =>
    obtain ⟨hwidth, hpad⟩ := h width rfl
    have htake : (b.alignTo width).take width width = b.take width width := by
      rw [Block.alignTo, hpad]
      rfl
    refine (attempt_map _ (?_ : (call _).attempt BufferOp.onBlock b =
      .ok ((b.take width width).1.map (decodeScalar b.endianness), (b.take width width).2))).trans ?_
    · rw [Program.attempt_call, BufferOp.onBlock, if_pos ⟨hwidth, by omega, fun _ => hpad⟩, htake]
      rfl
    · rw [Option.map_map]
      rfl
  | array size => exact attempt_map _ (Program.attempt_call _ _ _)

/-- Reading a field, and then the others. -/
theorem deserializeFields_cons {field : Option Field} {fields : List (Option Field)}
    {b₁ b' : Block} (h : type.deserialize.attempt BufferOp.onBlock b = .ok (field, b₁))
    (hrest : (deserializeFields types).attempt BufferOp.onBlock b₁ = .ok (fields, b')) :
    (deserializeFields (type :: types)).attempt BufferOp.onBlock b = .ok (field :: fields, b') :=
  (Program.attempt_bind_of_ok BufferOp.onBlock h).trans (attempt_map _ hrest)

theorem FieldType.PackedAt.padding (h : type.PackedAt b.offset b.lastDataSize) (width : Nat)
    (htype : type = .scalar width) : width ∈ [1, 2, 4, 8] ∧ b.padding width = 0 := by
  subst htype
  exact ⟨h.1, Block.padding_eq_zero fun hlt => .inl (h.2 hlt)⟩

theorem FieldType.CalmAfter.padding (h : type.CalmAfter b.lastDataSize) (width : Nat)
    (htype : type = .scalar width) : width ∈ [1, 2, 4, 8] ∧ b.padding width = 0 := by
  subst htype
  obtain ⟨hwidth, hnarrow⟩ := h
  refine ⟨hwidth, Block.padding_eq_zero fun hlt => .inr ?_⟩
  by_contra hne
  have hpos : width ≠ 0 := by
    rintro rfl
    simp at hwidth
  exact Nat.not_le_of_lt hlt (hnarrow (by omega))

theorem FieldType.CalmAfter.size_pos {last : Nat} (h : type.CalmAfter last) : 0 < type.size := by
  cases type with
  | scalar width =>
    refine Nat.pos_of_ne_zero ?_
    rintro hzero
    rw [FieldType.size] at hzero
    subst hzero
    exact absurd h.1 (by simp)
  | array size => exact h

/-- Fields that are all there. -/
theorem deserializeFields_onBlock (hok : b.failed = false)
    (hpacked : Packed b.offset b.lastDataSize types)
    (hroom : fieldsSize types ≤ b.bytes.length) :
    (deserializeFields types).attempt BufferOp.onBlock b =
      .ok (decodeFields b.endianness types b.bytes,
        b.behind (fieldsSize types) (lastSize b.lastDataSize types)) := by
  induction types generalizing b with
  | nil => rfl
  | cons type types ih =>
    obtain ⟨hfield, hpacked⟩ := hpacked
    rw [fieldsSize_cons] at hroom
    have hthere : type.size ≤ b.bytes.length := Nat.le_of_add_right_le hroom
    have htake : b.take type.size type.last =
        (some (b.bytes.take type.size), b.behind type.size type.last) := by
      rw [Block.take, if_neg (by simp [hok]), if_pos hthere]
    have hread := FieldType.deserialize_onBlock hfield.padding
    rw [htake] at hread
    have hrest := @ih (b.behind type.size type.last) hok hpacked
      (by rw [Block.behind, List.length_drop]; omega)
    rw [deserializeFields_cons hread hrest, decodeFields, if_pos hthere, fieldsSize_cons, lastSize]
    simp [Block.behind, Nat.add_assoc]

/-- After a failure nothing is read. -/
theorem deserializeFields_failed (hfailed : b.failed = true) (hcalm : Calm b.lastDataSize types) :
    ∃ b', (deserializeFields types).attempt BufferOp.onBlock b =
        .ok (types.map fun _ => none, b') ∧
      b'.failed = true ∧ b'.bytes = b.bytes := by
  induction types generalizing b with
  | nil => exact ⟨b, rfl, hfailed, rfl⟩
  | cons type types ih =>
    obtain ⟨hfield, hcalm⟩ := hcalm
    have htake : b.take type.size type.last = (none, { b with lastDataSize := type.last }) := by
      rw [Block.take, if_pos ⟨hfailed, hfield.size_pos⟩]
    have hread := FieldType.deserialize_onBlock hfield.padding
    rw [htake] at hread
    obtain ⟨b', hrest, hfailed', hbytes⟩ := @ih { b with lastDataSize := type.last } hfailed hcalm
    exact ⟨b', deserializeFields_cons hread hrest, hfailed', hbytes⟩

/-- Fields of which bytes are missing: what is there in front is read. -/
theorem deserializeFields_cut (hok : b.failed = false)
    (hpacked : Packed b.offset b.lastDataSize types) (hcalm : CalmBehind types)
    (hcut : b.bytes.length < fieldsSize types) :
    ∃ b', (deserializeFields types).attempt BufferOp.onBlock b =
        .ok (decodeFields b.endianness types b.bytes, b') ∧
      b'.failed = true ∧ b'.bytes = [] := by
  induction types generalizing b with
  | nil => exact absurd hcut (Nat.not_lt_zero _)
  | cons type types ih =>
    obtain ⟨hfield, hpacked⟩ := hpacked
    rw [fieldsSize_cons] at hcut
    have hread := FieldType.deserialize_onBlock hfield.padding
    rw [Block.take, if_neg (by simp [hok])] at hread
    rw [decodeFields]
    by_cases hthere : type.size ≤ b.bytes.length
    · rw [if_pos hthere] at hread
      have hcalm' : CalmBehind types := by
        cases types with
        | nil => trivial
        | cons type' types' => exact hcalm.2
      obtain ⟨b', hrest, hfailed, hbytes⟩ := @ih (b.behind type.size type.last) hok hpacked hcalm'
        (by rw [Block.behind, List.length_drop]; omega)
      rw [if_pos hthere]
      exact ⟨b', deserializeFields_cons hread hrest, hfailed, hbytes⟩
    · rw [if_neg hthere] at hread
      obtain ⟨b', hrest, hfailed, hbytes⟩ :=
        @deserializeFields_failed (b.exhausted type.last) types rfl hcalm
      rw [if_neg hthere]
      exact ⟨b', deserializeFields_cons hread hrest, hfailed, hbytes⟩

end

end XrceClient
