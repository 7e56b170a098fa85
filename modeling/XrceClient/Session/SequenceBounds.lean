import XrceClient.Session.FilledSequences
import XrceClient.Session.AcceptedValues

/-!
# Sequences and the capacity of their arrays

- `Fill.Within`, `Filling.Bounded`: what is written stays within bounds, and a deserializer that
  succeeds has filled all of its arrays. `Filling.Bounded.bind` for one part and those behind it.
- `bounded_…`: each deserializer, with the capacities of its arrays.
-/

namespace XrceClient

open ByteMemory

/-- No more elements were written than the bound of the array says, and no larger size was
accepted. -/
def Fill.Within (bound : SequenceField → Nat) (fill : Fill) : Prop :=
  fill.written ≤ bound fill.field ∧
    (fill.filled = true → ∀ size ∈ fill.size, size ≤ bound fill.field)

namespace Filling

variable {α β : Type} {bound : SequenceField → Nat}

/-- Every array is filled within its bound, and all of them are filled where the result is there. -/
structure Bounded (bound : SequenceField → Nat) (q : Filling (Option α)) : Prop where
  within : ∀ s, ∀ fill ∈ q.fills s, fill.Within bound
  filled : ∀ s a, (q.erase.run s).1 = some a → ∀ fill ∈ q.fills s, fill.filled = true

theorem bounded_plain (p : StateM (Memory × UcdrBuffer) (Option α)) : Bounded bound (plain p) :=
  ⟨fun _ _ hmem => absurd hmem List.not_mem_nil, fun _ _ _ _ hmem => absurd hmem List.not_mem_nil⟩

theorem bounded_pure (a : Option α) : Bounded bound (pure a : Filling (Option α)) :=
  bounded_plain (pure a)

/-- One part, and those behind it: they have no result if the part has none. -/
theorem Bounded.bind {q : Filling (Option α)} {g : Option α → Filling (Option β)}
    (hq : q.Bounded bound) (hg : ∀ a, (g a).Bounded bound)
    (hnone : ∀ s, ((g none).erase.run s).1 = none) : (q >>= g).Bounded bound := by
  constructor
  · intro s fill hmem
    rcases List.mem_append.mp hmem with hmem | hmem
    · exact hq.within s fill hmem
    · exact (hg _).within _ fill hmem
  · intro s b hsome fill hmem
    change ((g (q.erase.run s).1).erase.run (q.erase.run s).2).1 = some b at hsome
    rcases hpart : (q.erase.run s).1 with _ | a
    · rw [hpart, hnone] at hsome
      exact absurd hsome nofun
    · rcases List.mem_append.mp hmem with hmem | hmem
      · exact hq.filled s a hpart fill hmem
      · exact (hg _).filled _ b hsome fill hmem

/-- A part without sequences, and those behind it. -/
theorem bounded_plain_bind (p : StateM (Memory × UcdrBuffer) α) {g : α → Filling (Option β)}
    (hg : ∀ a, (g a).Bounded bound) : (plain p >>= g).Bounded bound :=
  ⟨fun s => (hg _).within (p.run s).2, fun s => (hg _).filled (p.run s).2⟩

/-- What is made of the last part. -/
theorem Bounded.bind_pure {q : Filling (Option α)} (hq : q.Bounded bound)
    {f : Option α → Option β} (hnone : f none = none) :
    Bounded bound (q >>= fun a => pure (f a)) :=
  hq.bind (fun _ => bounded_pure _) fun _ => hnone

theorem Bounded.map {q : Filling (Option α)} (hq : q.Bounded bound) (f : α → β) :
    Bounded bound (Option.map f <$> q) := hq.bind_pure (f := Option.map f) rfl

/-- A size that is larger than the bound is refused in the end, wherever it is read. -/
theorem Bounded.refuses {q : Filling (Option α)} (hq : q.Bounded bound) {s : Memory × UcdrBuffer}
    {fill : Fill} (hmem : fill ∈ q.fills s) {size : Nat} (hsize : size ∈ fill.size)
    (hlarge : bound fill.field < size) : (q.erase.run s).1 = none := by
  rcases hresult : (q.erase.run s).1 with _ | a
  · rfl
  · have hfilled := hq.filled s a hresult fill hmem
    have hle := (hq.within s fill hmem).2 hfilled size hsize
    exact absurd hlarge (Nat.not_lt.mpr hle)

end Filling

open Filling

/-- No more bytes are moved than are wanted. -/
theorem UcdrBuffer.moved_le (ub : UcdrBuffer) (n : Nat) : ub.moved n ≤ n := by
  rw [moved]
  split
  · exact Nat.zero_le n
  · exact Nat.min_le_left _ _

namespace XrceTypes

variable [MicroCdr] {α β : Type} {bound : SequenceField → Nat}

/-! ## Readers of sequences -/

/-- A sequence with more items than the reader has room for is refused. -/
theorem sequence_refused {capacity : Nat} {s : Memory × UcdrBuffer}
    (hlarge : capacity < ((readScalar Device.plain 4).run s).1.getD 0) :
    ((deserializeSequence Device.plain capacity).run s).1 = none := by
  rw [deserializeSequence, StateT.run_bind]
  show ((if _ then _ else _ : StateM (Memory × UcdrBuffer) (Option (List UInt8))).run _).1 = none
  rw [if_pos hlarge]
  rfl

theorem fills_sequence (field : SequenceField) (capacity : Nat) (s : Memory × UcdrBuffer) :
    (fillSequence field capacity).fills s =
      [{ field
         size := ((readScalar Device.plain 4).run s).1
         written :=
          if capacity < ((readScalar Device.plain 4).run s).1.getD 0 then 0
          else ((readScalar Device.plain 4).run s).2.2.moved
            (((readScalar Device.plain 4).run s).1.getD 0)
         filled := ((deserializeSequence Device.plain capacity).run s).1.isSome }] := rfl

theorem bounded_sequence {field : SequenceField} {capacity : Nat} (hle : capacity ≤ bound field) :
    Bounded bound (fillSequence field capacity) := by
  constructor
  · intro s fill hmem
    rw [fills_sequence] at hmem
    obtain rfl := List.mem_singleton.mp hmem
    constructor
    · dsimp only
      split
      · exact Nat.zero_le _
      · next hsize =>
        exact Nat.le_trans (UcdrBuffer.moved_le _ _) (Nat.le_trans (Nat.not_lt.mp hsize) hle)
    · intro hfilled size hsize
      dsimp only at hfilled hsize
      by_cases hlarge : capacity < size
      · have hrefused := @sequence_refused _ capacity s (by
          rw [Option.mem_def.mp hsize]
          exact hlarge)
        rw [hrefused] at hfilled
        exact absurd hfilled nofun
      · exact Nat.le_trans (Nat.not_lt.mp hlarge) hle
  · intro s bytes hsome fill hmem
    rw [fills_sequence] at hmem
    obtain rfl := List.mem_singleton.mp hmem
    change ((deserializeSequence Device.plain capacity).run s).1 = some bytes at hsome
    dsimp only
    rw [hsome]
    rfl

omit [MicroCdr] in
/-- The items end with one that cannot be read. -/
theorem fillItems_none {item : Filling (Option α)} {s : Memory × UcdrBuffer} (n : Nat)
    (hresult : (item.erase.run s).1 = none) :
    (fillItems item (n + 1)).fills s = item.fills s ∧
      ((fillItems item (n + 1)).erase.run s).1 = (none, 1) := by
  constructor
  · rw [fillItems, fills_bind, hresult]
    exact List.append_nil _
  · rw [fillItems, erase_bind, StateT.run_bind]
    dsimp only [bind, pure]
    rw [hresult]
    rfl

omit [MicroCdr] in
/-- The items go on behind one that was read. -/
theorem fillItems_some {item : Filling (Option α)} {s : Memory × UcdrBuffer} (n : Nat) {a : α}
    (hresult : (item.erase.run s).1 = some a) :
    (fillItems item (n + 1)).fills s =
        item.fills s ++ (fillItems item n).fills (item.erase.run s).2 ∧
      ((fillItems item (n + 1)).erase.run s).1 =
        (((fillItems item n).erase.run (item.erase.run s).2).1.1.map (a :: ·),
          ((fillItems item n).erase.run (item.erase.run s).2).1.2 + 1) := by
  constructor
  · rw [fillItems, fills_bind, hresult]
    dsimp only
    rw [fills_bind]
    exact congrArg _ (List.append_nil _)
  · rw [fillItems, erase_bind, StateT.run_bind]
    dsimp only [bind, pure]
    rw [hresult]
    rfl

omit [MicroCdr] in
/-- The items are within their bounds, there are no more of them than were announced, and all
arrays in them are filled where all items are read. -/
theorem bounded_items {item : Filling (Option α)} (hitem : item.Bounded bound) (n : Nat)
    (s : Memory × UcdrBuffer) :
    (∀ fill ∈ (fillItems item n).fills s, fill.Within bound) ∧
      ((fillItems item n).erase.run s).1.2 ≤ n ∧
      (((fillItems item n).erase.run s).1.1.isSome = true →
        ∀ fill ∈ (fillItems item n).fills s, fill.filled = true) := by
  induction n generalizing s with
  | zero =>
    exact ⟨fun _ hmem => absurd hmem List.not_mem_nil, Nat.le_refl 0,
      fun _ _ hmem => absurd hmem List.not_mem_nil⟩
  | succ n ih =>
    obtain ⟨hwithin, hcount, hfilled⟩ := ih (item.erase.run s).2
    rcases hresult : (item.erase.run s).1 with _ | a
    · -- The item fails: it is the last one that is written.
      obtain ⟨hfills, hrun⟩ := fillItems_none n hresult
      rw [hfills, hrun]
      exact ⟨hitem.within s, Nat.succ_le_succ (Nat.zero_le n),
        fun h => absurd h Bool.false_ne_true⟩
    · obtain ⟨hfills, hrun⟩ := fillItems_some n hresult
      rw [hfills, hrun]
      refine ⟨fun fill hmem => ?_, Nat.succ_le_succ hcount, fun hsome fill hmem => ?_⟩
      · rcases List.mem_append.mp hmem with hmem | hmem
        · exact hitem.within s fill hmem
        · exact hwithin fill hmem
      · rcases List.mem_append.mp hmem with hmem | hmem
        · exact hitem.filled s a hresult fill hmem
        · refine hfilled ?_ fill hmem
          rw [Option.isSome_map] at hsome
          exact hsome

omit [MicroCdr] in
/-- A sequence of which nothing was written and that is not there in the end. -/
theorem bounded_unfilled (field : SequenceField) (size : Option Nat)
    (before : StateM (Memory × UcdrBuffer) PUnit) :
    Bounded bound (do
      plain before
      record { field, size, written := 0, filled := false }
      return none : Filling (Option α)) := by
  constructor
  · intro s fill hmem
    obtain rfl : fill = { field, size, written := 0, filled := false } := by simpa using hmem
    exact ⟨Nat.zero_le _, fun hfilled => absurd hfilled nofun⟩
  · intro s a hsome
    exact absurd hsome nofun

theorem bounded_seq {field : SequenceField} {sequenceMax : Nat} (hle : sequenceMax ≤ bound field)
    {item : Filling (Option α)} (hitem : item.Bounded bound) :
    Bounded bound (fillSeq field sequenceMax item) := by
  refine (bounded_plain _).bind (fun size => ?_) fun s => ?_
  · by_cases hlarge : sequenceMax < size.getD 0
    · rw [if_pos hlarge]
      exact bounded_unfilled field size setError
    · rw [if_neg hlarge]
      cases size with
      | none => exact bounded_unfilled field none (pure ⟨⟩)
      | some n =>
        have hn : n ≤ bound field := Nat.le_trans (Nat.not_lt.mp hlarge) hle
        constructor
        · intro s fill hmem
          obtain ⟨hwithin, hcount, -⟩ := bounded_items hitem n s
          rcases List.mem_append.mp hmem with hmem | hmem
          · exact hwithin fill hmem
          · obtain rfl := List.mem_singleton.mp hmem
            refine ⟨Nat.le_trans hcount hn, fun _ size hsize => ?_⟩
            obtain rfl := Option.some.inj hsize
            exact hn
        · intro s items hsome fill hmem
          obtain ⟨-, -, hfilled⟩ := bounded_items hitem n s
          have hitems : ((fillItems item n).erase.run s).1.1 = some items := hsome
          rcases List.mem_append.mp hmem with hmem | hmem
          · exact hfilled (by rw [hitems]; rfl) fill hmem
          · obtain rfl := List.mem_singleton.mp hmem
            exact congrArg Option.isSome hitems
  · rw [Option.getD_none, if_neg (Nat.not_lt_zero sequenceMax)]
    rfl

theorem bounded_optional {content : Filling (Option α)} (hcontent : content.Bounded bound) :
    Bounded bound (fillOptional content) := by
  refine (bounded_plain _).bind (fun flag => ?_) fun s => rfl
  have hif : Bounded bound (fillIfSet flag (Option.map some <$> content) none) := by
    rw [fillIfSet]
    split
    · exact hcontent.map some
    · exact bounded_pure _
  refine hif.bind (fun a => bounded_pure _) fun s => ?_
  cases flag <;> rfl

/-! ## Objects -/

variable {profile : BuildProfile}

theorem bounded_propertySeq : Bounded (SequenceField.capacity profile) (fillPropertySeq profile) :=
  bounded_seq (Nat.le_refl _) (bounded_plain _)

theorem bounded_createClientPayload :
    Bounded (SequenceField.capacity profile) (fillCreateClientPayload profile) := by
  have hproperties (flag : Option Nat) :
      Bounded (SequenceField.capacity profile)
        (fillIfSet flag (fillPropertySeq profile) []) := by
    rw [fillIfSet]
    split
    · exact bounded_propertySeq
    · exact bounded_pure _
  refine bounded_plain_bind _ fun cookie => bounded_plain_bind _ fun version => ?_
  refine bounded_plain_bind _ fun vendorId => bounded_plain_bind _ fun clientKey => ?_
  refine bounded_plain_bind _ fun sessionId => bounded_plain_bind _ fun flag => ?_
  refine (hproperties flag).bind (fun properties => ?_) fun s => ?_
  · exact bounded_plain_bind _ fun mtu => bounded_pure _
  · cases cookie <;> cases version <;> cases vendorId <;> cases clientKey <;> cases sessionId <;>
      cases flag <;> rfl

theorem bounded_formats (family : FormatFamily) :
    Bounded (SequenceField.capacity profile) (fillFormats family) := by
  refine bounded_plain_bind _ fun format => ?_
  split
  · split
    · exact bounded_plain_bind _ fun reference => bounded_pure _
    · exact bounded_pure _
  · exact bounded_plain_bind _ fun xml => bounded_pure _
  · split
    · have hbytes : Bounded (SequenceField.capacity profile) (fillSequence .representation _) :=
        bounded_sequence (Nat.le_refl _)
      exact hbytes.bind_pure rfl
    · exact bounded_pure _
  · exact bounded_pure _
  · exact bounded_pure _

theorem bounded_participantRepresentation :
    Bounded (SequenceField.capacity profile) fillParticipantRepresentation :=
  (bounded_formats _).bind (fun _ => bounded_plain_bind _ fun _ => bounded_pure _) fun _ => rfl

theorem bounded_withObjectId (family : FormatFamily)
    (variant : RepresentationFormats → List UInt8 → ObjectVariant) :
    Bounded (SequenceField.capacity profile) (fillWithObjectId family variant) :=
  (bounded_formats _).bind (fun _ => bounded_plain_bind _ fun _ => bounded_pure _) fun _ => rfl

theorem bounded_objectVariant (output : List Property) :
    Bounded (SequenceField.capacity profile) (fillObjectVariant profile output) := by
  refine bounded_plain_bind _ fun kind => ?_
  split
  · exact (bounded_plain _).map ObjectVariant.agent
  · exact bounded_createClientPayload.map ObjectVariant.client
  · exact (bounded_formats _).map ObjectVariant.application
  · exact bounded_participantRepresentation
  · exact (bounded_formats _).map ObjectVariant.qosProfile
  · exact (bounded_formats _).map ObjectVariant.type
  case h_14 => exact bounded_pure _
  case h_15 => exact bounded_pure _
  all_goals exact bounded_withObjectId _ _

theorem bounded_transportLocatorSeq :
    Bounded (SequenceField.capacity profile) fillTransportLocatorSeq :=
  bounded_seq (Nat.le_refl _) (bounded_plain _)

theorem bounded_agentActivityInfo :
    Bounded (SequenceField.capacity profile) fillAgentActivityInfo := by
  refine bounded_plain_bind _ fun availability => bounded_transportLocatorSeq.bind_pure ?_
  cases availability <;> rfl

theorem bounded_activityInfoVariant :
    Bounded (SequenceField.capacity profile) fillActivityInfoVariant := by
  refine bounded_plain_bind _ fun kind => ?_
  split
  · exact bounded_agentActivityInfo
  · exact bounded_plain _
  · exact bounded_plain _
  · exact bounded_pure _
  · exact bounded_pure _

theorem bounded_objectInfo (output : List Property) :
    Bounded (SequenceField.capacity profile) (fillObjectInfo profile output) := by
  have hconfig := bounded_optional (@bounded_objectVariant _ profile output)
  have hactivity := bounded_optional (@bounded_activityInfoVariant _ profile)
  refine hconfig.bind (fun config => hactivity.bind_pure ?_) fun _ => rfl
  cases config <;> rfl

theorem bounded_createPayload (output : List Property) :
    Bounded (SequenceField.capacity profile) (fillCreatePayload profile output) := by
  refine bounded_plain_bind _ fun base => (bounded_objectVariant output).bind_pure ?_
  cases base <;> rfl

theorem bounded_infoPayload (output : List Property) :
    Bounded (SequenceField.capacity profile) (fillInfoPayload profile output) := by
  refine bounded_plain_bind _ fun base => (bounded_objectInfo output).bind_pure ?_
  cases base <;> rfl

theorem bounded_stringSequence : Bounded (SequenceField.capacity profile) fillStringSequence :=
  bounded_seq (Nat.le_refl _) (bounded_plain _)

theorem bounded_groupBinaryQos :
    Bounded (SequenceField.capacity profile) fillGroupBinaryQos := by
  have hdata : Bounded (SequenceField.capacity profile) (fillSequence .groupData _) :=
    bounded_sequence (Nat.le_refl _)
  refine (bounded_optional bounded_stringSequence).bind
    (fun partitions => (bounded_optional hdata).bind_pure ?_) fun _ => rfl
  cases partitions <;> rfl

theorem bounded_groupBinary : Bounded (SequenceField.capacity profile) fillGroupBinary := by
  refine bounded_plain_bind _ fun name =>
    (bounded_optional bounded_groupBinaryQos).bind_pure ?_
  cases name <;> rfl

/-! ## Samples -/

theorem bounded_sampleData : Bounded (SequenceField.capacity profile) fillSampleData :=
  bounded_sequence (Nat.le_refl _)

theorem bounded_sampleDataSeq : Bounded (SequenceField.capacity profile) fillSampleDataSeq :=
  bounded_seq (Nat.le_refl _) bounded_sampleData

theorem bounded_sample : Bounded (SequenceField.capacity profile) fillSample := by
  refine bounded_plain_bind _ fun info => bounded_sampleData.bind_pure ?_
  cases info <;> rfl

theorem bounded_sampleSeq : Bounded (SequenceField.capacity profile) fillSampleSeq :=
  bounded_seq (Nat.le_refl _) bounded_sample

theorem bounded_sampleDelta : Bounded (SequenceField.capacity profile) fillSampleDelta := by
  refine bounded_plain_bind _ fun infoDelta => bounded_sampleData.bind_pure ?_
  cases infoDelta <;> rfl

theorem bounded_sampleDeltaSequence :
    Bounded (SequenceField.capacity profile) fillSampleDeltaSequence :=
  bounded_seq (Nat.le_refl _) bounded_sampleDelta

theorem bounded_packedSamples : Bounded (SequenceField.capacity profile) fillPackedSamples := by
  refine bounded_plain_bind _ fun infoBase => bounded_sampleDeltaSequence.bind_pure ?_
  cases infoBase <;> rfl

theorem bounded_samplePackedSeq : Bounded (SequenceField.capacity profile) fillSamplePackedSeq :=
  bounded_seq (Nat.le_refl _) bounded_packedSamples

theorem bounded_dataRepresentation :
    Bounded (SequenceField.capacity profile) fillDataRepresentation := by
  refine bounded_plain_bind _ fun format => ?_
  split
  · exact bounded_sampleData.map DataRepresentation.data
  · exact bounded_sample.map DataRepresentation.sample
  · exact bounded_sampleDataSeq.map DataRepresentation.dataSeq
  · exact bounded_sampleSeq.map DataRepresentation.sampleSeq
  · exact bounded_packedSamples.map DataRepresentation.packedSamples
  · exact bounded_pure _
  · exact bounded_pure _

theorem bounded_dataPayload {content : Filling (Option α)} (hcontent : content.Bounded bound) :
    Bounded bound (fillDataPayload content) := by
  refine bounded_plain_bind _ fun base => hcontent.bind_pure ?_
  cases base <;> rfl

end XrceTypes

end XrceClient
