import XrceClient.Session.RepresentationRoundTrip

/-!
# Reading what was cut off

A deserializer of the source goes on where a part cannot be read: the next parts are asked for in
a buffer that is in error, and the result is `false` in the end. So what it makes of a buffer that
ends too early is found part by part.

- `Broken`: what a deserializer gets from a buffer in error.
- `Cut`: a deserializer fails where the buffer ends in front of the end of the fields.
- `ReadsWhole`, `Decodes`: it reads a value from fields, and nothing from a strict prefix of them;
  `Decodes.bind` for one part and those behind it.
- `RoundTripsExactly`: what is written is read, and no strict prefix of it.

What is a `Decodes` of its parts is one by `Decodes.bind`, so each deserializer is proved here in
the shape in which it is written.
-/

namespace XrceClient

open ByteMemory

/-! ## Ends of buffers -/

namespace UcdrBuffer

variable (ub : UcdrBuffer) (final : Nat)

theorem behind_withFinal (type : FieldType) :
    ({ ub with final } : UcdrBuffer).behind type = { ub.behind type with final } := by
  cases type <;> rfl

/-- Where fields lie does not depend on the end of the buffer. -/
theorem after_withFinal (fields : List Field) :
    ({ ub with final } : UcdrBuffer).after fields = { ub.after fields with final } := by
  induction fields generalizing ub with
  | nil => rfl
  | cons field fields ih => rw [after_cons, after_cons, behind_withFinal, ih]

end UcdrBuffer

theorem FieldsAt.withFinal {m : Memory} {ub : UcdrBuffer} {fields : List Field}
    (h : FieldsAt m ub fields) (final : Nat) : FieldsAt m { ub with final } fields := by
  induction fields generalizing ub with
  | nil => exact trivial
  | cons field fields ih =>
    obtain ⟨hfield, hfields⟩ := h
    constructor
    · cases field <;> exact hfield
    · rw [UcdrBuffer.behind_withFinal]
      exact ih hfields

/-! ## Deserializers that fail -/

section

variable {α β : Type} {fields fields' : List Field}

/-- From a buffer in error the deserializer gets the result, and the error stays. -/
def Broken (deserialize : StateM (Memory × UcdrBuffer) α) (a : α) : Prop :=
  ∀ m ub, ub.error = true →
    ∃ ub', deserialize.run (m, ub) = (a, m, ub') ∧ ub'.error = true

theorem broken_pure (a : α) : Broken (pure a) a := fun _ ub herror => ⟨ub, rfl, herror⟩

theorem Broken.bind {p : StateM (Memory × UcdrBuffer) α} {f : α → StateM (Memory × UcdrBuffer) β}
    {a : α} {b : β} (hp : Broken p a) (hf : Broken (f a) b) : Broken (p >>= f) b := by
  intro m ub herror
  obtain ⟨ub₁, hrun₁, herror₁⟩ := hp m ub herror
  obtain ⟨ub₂, hrun₂, herror₂⟩ := hf m ub₁ herror₁
  refine ⟨ub₂, ?_, herror₂⟩
  rw [← hrun₂, StateT.run_bind, hrun₁]
  rfl

/-- The deserializer fails where the buffer ends in front of the end of the fields. Memory holds
the fields as far as the buffer goes. -/
def Cut (deserialize : StateM (Memory × UcdrBuffer) (Option α)) (fields : List Field) : Prop :=
  ∀ m whole ub, ub.error = false → FieldsAt whole ub fields → (∀ a < ub.final, m a = whole a) →
    ub.iterator ≤ ub.final → ub.final < (ub.after fields).iterator →
      ∃ ub', deserialize.run (m, ub) = (none, m, ub') ∧ ub'.error = true

/-- From the fields the deserializer reads the value, and from no strict prefix of them anything. -/
structure ReadsWhole (deserialize : StateM (Memory × UcdrBuffer) (Option α)) (a : α)
    (fields : List Field) : Prop where
  yields : Yields deserialize (some a) fields
  cut : Cut deserialize fields

/-- And it reads nothing from a buffer in error. -/
structure Decodes (deserialize : StateM (Memory × UcdrBuffer) (Option α)) (a : α)
    (fields : List Field) : Prop extends ReadsWhole deserialize a fields where
  broken : Broken deserialize none

theorem cut_nil (deserialize : StateM (Memory × UcdrBuffer) (Option α)) : Cut deserialize [] := by
  intro m whole ub hok hholds hsame hle hcut
  exact absurd hcut (Nat.not_lt.mpr hle)

theorem readsWhole_pure (a : α) : ReadsWhole (pure (some a)) a [] := ⟨yields_pure _, cut_nil _⟩

/-- One part, and what is behind it. Where the buffer ends in the part, the rest is read from a
buffer in error. -/
theorem Decodes.bind {p : StateM (Memory × UcdrBuffer) (Option α)}
    {f : Option α → StateM (Memory × UcdrBuffer) (Option β)} {a : α} {b : β}
    (hp : Decodes p a fields) (hf : ReadsWhole (f (some a)) b fields') (hnone : Broken (f none) none) :
    Decodes (p >>= f) b (fields ++ fields') := by
  refine ⟨⟨hp.yields.bind hf.yields, ?_⟩, hp.broken.bind hnone⟩
  intro m whole ub hok hholds hsame hle hcut
  obtain ⟨hfirst, hsecond⟩ := fieldsAt_append.mp hholds
  obtain ⟨hfinal, herror, -⟩ := ub.after_kept fields
  rw [UcdrBuffer.after_append] at hcut
  by_cases hroom : (ub.after fields).iterator ≤ ub.final
  · -- The part is there: the buffer ends behind it.
    have hrun := hp.yields m ub hok (hfirst.congr fun a ha => hsame a (by omega)) hroom
    obtain ⟨ub', hrest, herror'⟩ := hf.cut m whole (ub.after fields) (herror.trans hok) hsecond
      (by rw [hfinal]; exact hsame) (by rw [hfinal]; exact hroom) (by rw [hfinal]; exact hcut)
    refine ⟨ub', ?_, herror'⟩
    rw [StateT.run_bind, hrun]
    exact hrest
  · obtain ⟨ub₁, hrun, herror₁⟩ := hp.cut m whole ub hok hfirst hsame hle (Nat.lt_of_not_le hroom)
    obtain ⟨ub', hrest, herror'⟩ := hnone m ub₁ herror₁
    refine ⟨ub', ?_, herror'⟩
    rw [StateT.run_bind, hrun]
    exact hrest

/-- The same for parts in front of which there are others. -/
theorem Decodes.andThen {p : StateM (Memory × UcdrBuffer) (Option α)}
    {f : Option α → StateM (Memory × UcdrBuffer) (Option β)} {a : α} {b : β}
    (hp : Decodes p a fields) (hf : ReadsWhole (f (some a)) b fields')
    (hnone : Broken (f none) none) : ReadsWhole (p >>= f) b (fields ++ fields') :=
  (hp.bind hf hnone).toReadsWhole

/-- What is made of the last part. -/
theorem ReadsWhole.bind_pure {p : StateM (Memory × UcdrBuffer) (Option α)} {a : α}
    (h : ReadsWhole p a fields) {f : Option α → Option β} {b : β} (hsome : f (some a) = some b)
    (hnone : f none = none) : ReadsWhole (p >>= fun x => pure (f x)) b fields := by
  constructor
  · have hread := h.yields.bind_pure f
    rw [hsome] at hread
    exact hread
  · intro m whole ub hok hholds hsame hle hcut
    obtain ⟨ub', hrun, herror⟩ := h.cut m whole ub hok hholds hsame hle hcut
    refine ⟨ub', ?_, herror⟩
    rw [StateT.run_bind, hrun, ← hnone]
    rfl

/-- From a buffer in error nothing is made of the last part. -/
theorem Broken.bind_pure {p : StateM (Memory × UcdrBuffer) (Option α)} (h : Broken p none)
    {f : Option α → Option β} (hnone : f none = none) :
    Broken (p >>= fun x => pure (f x)) none := by
  have hrest : Broken (pure (f none) : StateM (Memory × UcdrBuffer) (Option β)) none := by
    rw [hnone]
    exact broken_pure none
  exact h.bind hrest

theorem Decodes.bind_pure {p : StateM (Memory × UcdrBuffer) (Option α)} {a : α}
    (h : Decodes p a fields) {f : Option α → Option β} {b : β} (hsome : f (some a) = some b)
    (hnone : f none = none) : Decodes (p >>= fun x => pure (f x)) b fields :=
  ⟨h.toReadsWhole.bind_pure hsome hnone, h.broken.bind_pure hnone⟩

theorem Decodes.map {p : StateM (Memory × UcdrBuffer) (Option α)} {a : α}
    (h : Decodes p a fields) (f : α → β) : Decodes (Option.map f <$> p) (f a) fields :=
  h.bind_pure (f := Option.map f) rfl rfl

end

/-! ## Parts -/

section

variable [MicroCdr] [BoundedMicroCdr] {α : Type}

omit [MicroCdr] [BoundedMicroCdr] in
/-- Bytes are wanted behind the end of a plain region. -/
theorem getStops_plain {n : Nat} (m : Memory) {ub : UcdrBuffer} (hok : ub.error = false)
    (hle : ub.iterator ≤ ub.final) (hcut : ub.final < ub.iterator + n) :
    ∃ ub', GetStops Device.plain n m ub m ub' ∧ ub'.error = true := by
  induction n generalizing ub with
  | zero => exact absurd hcut (Nat.not_lt.mpr hle)
  | succ n ih =>
    by_cases hend : ub.iterator = ub.final
    · exact ⟨_, GetStops.refused hok hend rfl, rfl⟩
    · obtain ⟨ub', hstops, herror⟩ := @ih ub.next hok
        (by rw [UcdrBuffer.next_iterator, UcdrBuffer.next_final]; omega)
        (by rw [UcdrBuffer.next_iterator, UcdrBuffer.next_final]; omega)
      exact ⟨ub', GetStops.byte hok (by omega) hstops, herror⟩

theorem broken_scalar {width : Nat} (hwidth : width ∈ [1, 2, 4, 8]) :
    Broken (readScalar Device.plain width) none := by
  intro m ub herror
  obtain ⟨ub', hread, herror', -⟩ : ∃ ub', ucdrDeserialize Device.plain m ub ub.endianness width =
      (none, m, ub') ∧ ub'.error = true ∧ _ :=
    StickyMicroCdr.deserialize_error m ub.endianness hwidth herror
  exact ⟨ub', hread, herror'⟩

theorem decodes_scalar {width value : Nat} (hwidth : width ∈ [1, 2, 4, 8])
    (hfits : value < 256 ^ width) :
    Decodes (readScalar Device.plain width) value [.scalar width value] := by
  refine ⟨⟨yields_scalar hwidth hfits, ?_⟩, broken_scalar hwidth⟩
  intro m whole ub hok _ _ hle hcut
  change ub.final < ub.iterator + ub.padding width + width at hcut
  by_cases hpad : ub.iterator + ub.padding width ≤ ub.final
  · -- There is room for the padding: the scalar itself is cut.
    have halign := LawfulMicroCdr.alignTo ub width hwidth hle
    rw [Nat.min_eq_left hpad] at halign
    obtain ⟨ub', hstops, herror⟩ := @getStops_plain width m (ucdrAlignTo ub width)
      (by rw [halign]; exact hok) (by rw [halign]; exact hpad) (by rw [halign]; exact hcut)
    exact ⟨_, LawfulMicroCdr.deserialize_stops ub.endianness hwidth hpad hstops, herror⟩
  · exact BoundedMicroCdr.deserialize_cut m ub.endianness hwidth hok hle (Nat.lt_of_not_le hpad)

theorem readsWhole_array (bytes : List UInt8) :
    ReadsWhole (readArray Device.plain bytes.length) bytes [.array bytes] := by
  refine ⟨yields_array bytes, ?_⟩
  intro m whole ub hok _ _ hle hcut
  obtain ⟨ub', hstops, herror⟩ := getStops_plain m hok hle hcut
  exact ⟨_, LawfulMicroCdr.deserializeArray_stops hstops, herror⟩

theorem decodes_bytes {bytes : List UInt8} {n : Nat} (hlength : bytes.length = n) (hn : 0 < n) :
    Decodes (readArray Device.plain n) bytes [.array bytes] := by
  subst hlength
  refine ⟨readsWhole_array bytes, ?_⟩
  intro m ub herror
  have hread : ucdrDeserializeArray Device.plain m ub bytes.length = _ :=
    StickyMicroCdr.deserializeArray_error m hn herror
  exact ⟨_, hread, herror⟩

/-- No bytes at all can be read from a buffer in error. -/
theorem broken_noBytes : Broken (readArray Device.plain 0) (some []) := by
  intro m ub herror
  exact ⟨_, LawfulMicroCdr.deserializeArray (Gets.zero m ub), herror⟩

namespace XrceTypes

theorem decodes_uint8 (n : UInt8) :
    Decodes (readScalar Device.plain 1) n.toNat [.scalar 1 n.toNat] :=
  decodes_scalar (by simp) (UInt8.toNat_lt n)

theorem decodes_uint16 (n : UInt16) :
    Decodes (readScalar Device.plain 2) n.toNat [.scalar 2 n.toNat] :=
  decodes_scalar (by simp) (UInt16.toNat_lt n)

theorem decodes_uint32 (n : UInt32) :
    Decodes (readScalar Device.plain 4) n.toNat [.scalar 4 n.toNat] :=
  decodes_scalar (by simp) (UInt32.toNat_lt n)

theorem decodes_uint64 (n : UInt64) :
    Decodes (readScalar Device.plain 8) n.toNat [.scalar 8 n.toNat] :=
  decodes_scalar (by simp) (UInt64.toNat_lt n)

theorem decodes_flag (flag : Bool) :
    Decodes (readScalar Device.plain 1) flag.toNat [.scalar 1 flag.toNat] :=
  decodes_scalar (by simp) (by cases flag <;> decide)

theorem decodes_sequence {capacity : Nat} {bytes : List UInt8} (hle : bytes.length ≤ capacity)
    (hcapacity : capacity < 256 ^ 4) :
    Decodes (deserializeSequence Device.plain capacity) bytes
      [.scalar 4 bytes.length, .array bytes] := by
  have hlength : Decodes (readScalar Device.plain 4) bytes.length [.scalar 4 bytes.length] :=
    decodes_scalar (by simp) (Nat.lt_of_le_of_lt hle hcapacity)
  refine @Decodes.bind _ _ _ [.array bytes] _ _ _ _ hlength ?_ ?_
  · rw [Option.getD_some, if_neg (Nat.not_lt.mpr hle)]
    exact (readsWhole_array bytes).bind_pure rfl rfl
  · -- A size that cannot be read is taken for zero.
    rw [Option.getD_none, if_neg (Nat.not_lt_zero capacity)]
    exact broken_noBytes.bind (broken_pure none)

theorem decodes_string {string : List UInt8} (hfits : StringFits string) :
    Decodes (deserializeString Device.plain) string (stringFields string) := by
  have hlength : (string ++ [0]).length ≤ stringSizeMax := by
    rw [List.length_append]
    exact hfits.2
  have hread := decodes_sequence hlength (by decide)
  rw [List.length_append] at hread
  exact hread.bind_pure (congrArg some (takeWhile_string hfits.1)) rfl

omit [MicroCdr] [BoundedMicroCdr] in
theorem readsWhole_items {item : StateM (Memory × UcdrBuffer) (Option α)}
    {itemFields : α → List Field} {items : List α}
    (h : ∀ a ∈ items, Decodes item a (itemFields a)) :
    ReadsWhole (deserializeItems item items.length) items (items.flatMap itemFields) := by
  induction items with
  | nil => exact readsWhole_pure []
  | cons a items ih =>
    have hrest := ih fun b hmem => h b (List.mem_cons_of_mem _ hmem)
    have hitem := h a List.mem_cons_self
    exact hitem.andThen (hrest.bind_pure rfl rfl) (broken_pure none)

theorem decodes_seq {sequenceMax : Nat} (hmax : sequenceMax < 256 ^ 4)
    {item : StateM (Memory × UcdrBuffer) (Option α)} {itemFields : α → List Field}
    {items : List α} (hlength : items.length ≤ sequenceMax)
    (h : ∀ a ∈ items, Decodes item a (itemFields a)) :
    Decodes (deserializeSeq Device.plain sequenceMax item) items
      (sequenceFields itemFields items) := by
  have hsize : Decodes (readScalar Device.plain 4) items.length [.scalar 4 items.length] :=
    decodes_scalar (by simp) (Nat.lt_of_le_of_lt hlength hmax)
  refine @Decodes.bind _ _ _ (items.flatMap itemFields) _ _ _ _ hsize ?_ ?_
  · rw [Option.getD_some, if_neg (Nat.not_lt.mpr hlength)]
    exact readsWhole_items h
  · rw [Option.getD_none, if_neg (Nat.not_lt_zero sequenceMax)]
    exact broken_pure none

/-- A flag, and the content behind it if there is some. -/
theorem decodes_optional {content : StateM (Memory × UcdrBuffer) (Option α)}
    {contentFields : α → List Field} {value : Option α}
    (h : ∀ a ∈ value, Decodes content a (contentFields a)) :
    Decodes (deserializeOptional Device.plain content) value
      (optionalFields contentFields value) := by
  refine @Decodes.bind _ _ _ ((value.map contentFields).getD []) _ _ _ _
    (decodes_flag value.isSome) ?_ ?_
  · cases value with
    | none => exact readsWhole_pure none
    | some a => exact ((h a rfl).map some).toReadsWhole.bind_pure rfl rfl
  · exact (broken_pure (some none)).bind (broken_pure none)

theorem decodes_baseObjectRequest {base : BaseObjectRequest} (hfits : base.Fits) :
    Decodes (deserializeBaseObjectRequest Device.plain) base base.fields := by
  have hrequest := decodes_bytes hfits.1 (by simp)
  have hobject := decodes_bytes hfits.2 (by simp)
  exact hrequest.bind (hobject.toReadsWhole.bind_pure rfl rfl) (hobject.broken.bind_pure rfl)

end XrceTypes

end

/-! ## Round trips -/

/-- In every buffer with enough room the value is written. From what was written, whatever comes
behind it, the same value is read and the buffer is left as the serializer left it; and nothing is
read where the buffer ends in front of that end. -/
def RoundTripsExactly {α : Type}
    (serialize : Memory → UcdrBuffer → α → Bool × Memory × UcdrBuffer)
    (deserialize : StateM (Memory × UcdrBuffer) (Option α)) (a : α) : Prop :=
  ∃ size, ∀ m ub, ub.error = false → ub.iterator + size ≤ ub.final →
    ∃ m' ub', serialize m ub a = (true, m', ub') ∧
      (∀ m'', (∀ address < ub'.iterator, m'' address = m' address) →
        deserialize.run (m'', ub) = (some a, m'', ub')) ∧
      ∀ m'' final, ub.iterator ≤ final → final < ub'.iterator →
        (∀ address < final, m'' address = m' address) →
          (deserialize.run (m'', { ub with final })).1 = none

/-- A value that is written as fields from which it is decoded round trips. -/
theorem roundTripsExactly_of_fields [MicroCdr] [LawfulMicroCdr] {α : Type}
    {serialize : Memory → UcdrBuffer → α → Bool × Memory × UcdrBuffer}
    {deserialize : StateM (Memory × UcdrBuffer) (Option α)} {a : α} {fields : List Field}
    (hserializes : Serializes (fun m ub => serialize m ub a) fields)
    (hdecodes : Decodes deserialize a fields) : RoundTripsExactly serialize deserialize a := by
  refine ⟨fieldsSize (fields.map Field.type) + 7 * fields.length, fun m ub hok hroom => ?_⟩
  have hle := ub.after_ge hserializes.width
  obtain ⟨m', hwritten, hfields⟩ := hserializes.fieldsAt m hok (by omega)
  refine ⟨m', ub.after fields, hwritten, ?_, ?_⟩
  · intro m'' hsame
    exact hdecodes.yields m'' ub hok (hfields.congr hsame) (by omega)
  · intro m'' final hstart hcut hsame
    obtain ⟨ub', hrun, -⟩ := hdecodes.cut m'' m' { ub with final } hok (hfields.withFinal final)
      hsame hstart (by rw [UcdrBuffer.after_withFinal]; exact hcut)
    rw [hrun]

end XrceClient
