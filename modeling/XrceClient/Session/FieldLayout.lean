import XrceClient.Stream.Fields
import XrceClient.Session.Headers

/-!
# Fields in memory

Where the fields of a payload lie in memory, with the padding that each of them needs behind
the one before it, and what is written there and read back.

- `UcdrBuffer.behind` / `UcdrBuffer.after`: the buffer behind a field, and behind fields.
- `FieldsAt`: the fields lie in memory from a buffer on.
- `serializeFields_fieldsAt`: writing fields puts them there.
- `Serializes`: a serializer writes the given fields; `Serializes.and`.
- `Yields`: a deserializer reads a value from the given fields; `Yields.bind`.
-/

namespace XrceClient

open ByteMemory

/-! ## Places -/

namespace UcdrBuffer

/-- Where the bytes of a field begin. -/
def start (ub : UcdrBuffer) : FieldType → Nat
  | .scalar width => ub.iterator + ub.padding width
  | .array _ => ub.iterator

/-- The buffer behind a field. -/
def behind (ub : UcdrBuffer) : FieldType → UcdrBuffer
  | .scalar width =>
    { ub with
      iterator := ub.iterator + ub.padding width + width
      offset := ub.offset + ub.padding width + width
      lastDataSize := width }
  | .array size =>
    { ub with iterator := ub.iterator + size, offset := ub.offset + size, lastDataSize := 1 }

/-- The buffer behind fields. -/
def after (ub : UcdrBuffer) (fields : List Field) : UcdrBuffer :=
  fields.foldl (fun ub field => ub.behind field.type) ub

variable (ub : UcdrBuffer)

@[simp] theorem behind_final (type : FieldType) : (ub.behind type).final = ub.final := by
  cases type <;> rfl

@[simp] theorem behind_error (type : FieldType) : (ub.behind type).error = ub.error := by
  cases type <;> rfl

@[simp] theorem behind_endianness (type : FieldType) :
    (ub.behind type).endianness = ub.endianness := by
  cases type <;> rfl

theorem behind_iterator (type : FieldType) :
    (ub.behind type).iterator = ub.start type + type.size := by
  cases type <;> rfl

theorem start_le (type : FieldType) : ub.iterator ≤ ub.start type := by
  cases type with
  | scalar width => exact Nat.le_add_right _ _
  | array size => exact Nat.le_refl _

@[simp] theorem after_nil : ub.after [] = ub := rfl

theorem after_cons (field : Field) (fields : List Field) :
    ub.after (field :: fields) = (ub.behind field.type).after fields := rfl

theorem after_append (fields fields' : List Field) :
    ub.after (fields ++ fields') = (ub.after fields).after fields' := List.foldl_append

theorem after_kept (fields : List Field) :
    (ub.after fields).final = ub.final ∧ (ub.after fields).error = ub.error ∧
      (ub.after fields).endianness = ub.endianness := by
  induction fields generalizing ub with
  | nil => exact ⟨rfl, rfl, rfl⟩
  | cons field fields ih =>
    obtain ⟨hfinal, herror, hendianness⟩ := ih (ub.behind field.type)
    rw [after_cons]
    exact ⟨hfinal.trans (ub.behind_final _), herror.trans (ub.behind_error _),
      hendianness.trans (ub.behind_endianness _)⟩

/-- Fields take their bytes at least. -/
theorem after_le (fields : List Field) :
    ub.iterator + fieldsSize (fields.map Field.type) ≤ (ub.after fields).iterator := by
  induction fields generalizing ub with
  | nil => exact Nat.le_refl _
  | cons field fields ih =>
    have hrest := ih (ub.behind field.type)
    have hstart := ub.start_le field.type
    rw [behind_iterator] at hrest
    rw [after_cons, List.map_cons, fieldsSize_cons]
    omega

/-- And no more than seven bytes of padding for each. -/
theorem after_ge {fields : List Field}
    (hwidth : ∀ width value, Field.scalar width value ∈ fields → width ∈ [1, 2, 4, 8]) :
    (ub.after fields).iterator ≤
      ub.iterator + fieldsSize (fields.map Field.type) + 7 * fields.length := by
  induction fields generalizing ub with
  | nil => exact Nat.le_refl _
  | cons field fields ih =>
    have hrest := ih (ub.behind field.type)
      fun width value hmem => hwidth width value (List.mem_cons_of_mem _ hmem)
    have hstart : ub.start field.type ≤ ub.iterator + 7 := by
      cases field with
      | array bytes => exact Nat.le_add_right _ _
      | scalar width value =>
        have hmem := hwidth width value List.mem_cons_self
        have hpad : ub.padding width ≤ 7 := by
          rw [padding]
          have hpos : 0 < width := by
            simp only [List.mem_cons, List.not_mem_nil, or_false] at hmem
            omega
          have hlt := Nat.mod_lt (width - ub.offset % width) hpos
          simp only [List.mem_cons, List.not_mem_nil, or_false] at hmem
          split <;> omega
        exact Nat.add_le_add_left hpad _
    rw [behind_iterator] at hrest
    rw [after_cons, List.map_cons, fieldsSize_cons, List.length_cons]
    omega

end UcdrBuffer

/-- The fields lie in memory from the buffer on. -/
def FieldsAt (m : Memory) : UcdrBuffer → List Field → Prop
  | _, [] => True
  | ub, field :: fields =>
    read m (ub.start field.type) field.type.size = field.encode ub.endianness ∧
      FieldsAt m (ub.behind field.type) fields

/-- Only the bytes of the fields matter. -/
theorem FieldsAt.congr {m m' : Memory} {ub : UcdrBuffer} {fields : List Field}
    (h : FieldsAt m ub fields) (heq : ∀ a < (ub.after fields).iterator, m' a = m a) :
    FieldsAt m' ub fields := by
  induction fields generalizing ub with
  | nil => exact trivial
  | cons field fields ih =>
    obtain ⟨hfield, hfields⟩ := h
    have hbehind := ub.behind_iterator field.type
    have hle := (ub.behind field.type).after_le fields
    rw [UcdrBuffer.after_cons] at heq
    refine ⟨?_, ih hfields heq⟩
    rw [← hfield]
    exact read_congr fun i _ hi => heq i (by omega)

theorem fieldsAt_append {m : Memory} {ub : UcdrBuffer} {fields fields' : List Field} :
    FieldsAt m ub (fields ++ fields') ↔
      FieldsAt m ub fields ∧ FieldsAt m (ub.after fields) fields' := by
  induction fields generalizing ub with
  | nil => exact ⟨fun h => ⟨trivial, h⟩, And.right⟩
  | cons field fields ih =>
    rw [List.cons_append, FieldsAt, FieldsAt, ih, UcdrBuffer.after_cons, and_assoc]

/-! ## Writing -/

section

variable [MicroCdr] {σ : Type} (dev : Device σ)

theorem serializeFields_append (s : σ) (ub : UcdrBuffer) (fields fields' : List Field) :
    serializeFields dev s ub (fields ++ fields') =
      let first := serializeFields dev s ub fields
      let second := serializeFields dev first.2.1 first.2.2 fields'
      (first.1 && second.1, second.2) := by
  induction fields generalizing s ub with
  | nil => rfl
  | cons field fields ih =>
    rw [List.cons_append, serializeFields, serializeFields]
    dsimp only
    rw [ih, Bool.and_assoc]

end

section

variable [MicroCdr] [LawfulMicroCdr]

/-- A field with room is put in its place. -/
theorem serializeField_plain (m : Memory) {ub : UcdrBuffer} {field : Field}
    (hwidth : ∀ width value, field = .scalar width value → width ∈ [1, 2, 4, 8])
    (hok : ub.error = false) (hroom : (ub.behind field.type).iterator ≤ ub.final) :
    serializeField Device.plain m ub field =
      (true, write m (ub.start field.type) (field.encode ub.endianness),
        ub.behind field.type) := by
  cases field with
  | array bytes =>
    exact LawfulMicroCdr.serializeArray (puts_plain bytes m ub hok hroom)
  | scalar width value =>
    have hk := hwidth width value rfl
    change ub.iterator + ub.padding width + width ≤ ub.final at hroom
    have halign := LawfulMicroCdr.alignTo ub width hk (by omega)
    rw [Nat.min_eq_left (by omega)] at halign
    have hput := puts_plain (encodeScalar ub.endianness width value) m (ucdrAlignTo ub width)
      (by rw [halign]; exact hok) (by rw [halign, encodeScalar_length]; exact hroom)
    rw [serializeField, LawfulMicroCdr.serialize ub.endianness hk (by omega) hput, halign,
      encodeScalar_length]
    rfl

/-- Fields with room are put in their places; what is in front of them is kept. -/
theorem serializeFields_fieldsAt {fields : List Field} (m : Memory) {ub : UcdrBuffer}
    (hwidth : ∀ width value, Field.scalar width value ∈ fields → width ∈ [1, 2, 4, 8])
    (hok : ub.error = false) (hroom : (ub.after fields).iterator ≤ ub.final) :
    ∃ m', serializeFields Device.plain m ub fields = (true, m', ub.after fields) ∧
      FieldsAt m' ub fields ∧ ∀ a < ub.iterator, m' a = m a := by
  induction fields generalizing m ub with
  | nil => exact ⟨m, rfl, trivial, fun _ _ => rfl⟩
  | cons field fields ih =>
    rw [UcdrBuffer.after_cons] at hroom
    have hfirst : (ub.behind field.type).iterator ≤ ub.final :=
      Nat.le_trans (Nat.le_trans (Nat.le_add_right _ _) (UcdrBuffer.after_le _ fields)) hroom
    have hput := @serializeField_plain _ _ m ub field
      (fun width value heq => hwidth width value (heq ▸ List.mem_cons_self)) hok hfirst
    obtain ⟨m', hrest, hholds, hkept⟩ :=
      ih (write m (ub.start field.type) (field.encode ub.endianness))
        (fun width value hmem => hwidth width value (List.mem_cons_of_mem _ hmem))
        ((ub.behind_error _).trans hok) (Nat.le_trans hroom (Nat.le_of_eq (ub.behind_final _).symm))
    have hstart := ub.start_le field.type
    have hbehind := ub.behind_iterator field.type
    refine ⟨m', ?_, ⟨?_, hholds⟩, fun a ha => ?_⟩
    · rw [serializeFields, hput]
      dsimp only
      rw [hrest]
      rfl
    · have hsame : read m' (ub.start field.type) field.type.size =
          read (write m (ub.start field.type) (field.encode ub.endianness))
            (ub.start field.type) field.type.size :=
        read_congr fun i _ hi => hkept i (by omega)
      rw [hsame, ← Field.encode_length ub.endianness field]
      exact read_write_self _ _ _
    · rw [hkept a (by omega)]
      exact write_outside _ (.inl (by omega))

/-! ## Serializers -/

omit [LawfulMicroCdr] in
/-- Where the fields can be written, the serializer writes them. Their integers have widths that
Micro-CDR knows. -/
structure Serializes (serialize : Memory → UcdrBuffer → Bool × Memory × UcdrBuffer)
    (fields : List Field) : Prop where
  width : ∀ width value, Field.scalar width value ∈ fields → width ∈ [1, 2, 4, 8]
  run : ∀ m ub, (serializeFields Device.plain m ub fields).1 = true →
    serialize m ub = serializeFields Device.plain m ub fields

omit [LawfulMicroCdr] in
theorem serializes_scalar (width value : Nat) (hwidth : width ∈ [1, 2, 4, 8]) :
    Serializes (fun m ub => ucdrSerialize Device.plain m ub ub.endianness width value)
      [.scalar width value] := by
  constructor
  · intro width' value' hmem
    obtain ⟨rfl, -⟩ := Field.scalar.inj (List.mem_singleton.mp hmem)
    exact hwidth
  · intro m ub _
    rw [serializeFields, serializeField]
    simp [serializeFields]

omit [LawfulMicroCdr] in
theorem serializes_array (bytes : List UInt8) :
    Serializes (fun m ub => ucdrSerializeArray Device.plain m ub bytes) [.array bytes] := by
  constructor
  · intro width value hmem
    exact Field.noConfusion (List.mem_singleton.mp hmem)
  · intro m ub _
    rw [serializeFields, serializeField]
    simp [serializeFields]

omit [LawfulMicroCdr] in
theorem serializes_nothing : Serializes (fun m ub => (true, m, ub)) [] :=
  ⟨fun _ _ hmem => absurd hmem List.not_mem_nil, fun _ _ _ => rfl⟩

omit [MicroCdr] [LawfulMicroCdr] in
theorem width_append {fields fields' : List Field}
    (h : ∀ width value, Field.scalar width value ∈ fields → width ∈ [1, 2, 4, 8])
    (h' : ∀ width value, Field.scalar width value ∈ fields' → width ∈ [1, 2, 4, 8])
    (width value : Nat) (hmem : Field.scalar width value ∈ fields ++ fields') :
    width ∈ [1, 2, 4, 8] :=
  (List.mem_append.mp hmem).elim (h width value) (h' width value)

omit [LawfulMicroCdr] in
/-- One serializer, and then another. -/
theorem Serializes.and {f g : Memory → UcdrBuffer → Bool × Memory × UcdrBuffer}
    {fields fields' : List Field} (hf : Serializes f fields) (hg : Serializes g fields') :
    Serializes
      (fun m ub =>
        let (ok, m, ub) := f m ub
        let (ok', m, ub) := g m ub
        (ok && ok', m, ub)) (fields ++ fields') := by
  refine ⟨width_append hf.width hg.width, fun m ub hok => ?_⟩
  rw [serializeFields_append] at hok ⊢
  dsimp only at hok ⊢
  obtain ⟨hfirst, hsecond⟩ := Bool.and_eq_true_iff.mp hok
  rw [hf.run m ub hfirst, hg.run _ _ hsecond]

omit [LawfulMicroCdr] in
/-- One serializer, and another if the first one succeeds. -/
theorem Serializes.andThen {f g h : Memory → UcdrBuffer → Bool × Memory × UcdrBuffer}
    {fields fields' : List Field} (hf : Serializes f fields) (hg : Serializes g fields')
    (hnext : ∀ {m ub m' ub'}, f m ub = (true, m', ub') → h m ub = g m' ub') :
    Serializes h (fields ++ fields') := by
  refine ⟨width_append hf.width hg.width, fun m ub hok => ?_⟩
  rw [serializeFields_append] at hok ⊢
  dsimp only at hok ⊢
  obtain ⟨hfirst, hsecond⟩ := Bool.and_eq_true_iff.mp hok
  rcases hresult : serializeFields Device.plain m ub fields with ⟨ok, m', ub'⟩
  rw [hresult] at hfirst hsecond
  dsimp only at hfirst
  subst hfirst
  have hcall : f m ub = (true, m', ub') := (hf.run m ub (by rw [hresult])).trans hresult
  rw [hnext hcall, hg.run _ _ hsecond, Bool.true_and]

/-- What a serializer writes lies in memory, where there is room for it. -/
theorem Serializes.fieldsAt {serialize : Memory → UcdrBuffer → Bool × Memory × UcdrBuffer}
    {fields : List Field} (h : Serializes serialize fields) (m : Memory) {ub : UcdrBuffer}
    (hok : ub.error = false) (hroom : (ub.after fields).iterator ≤ ub.final) :
    ∃ m', serialize m ub = (true, m', ub.after fields) ∧ FieldsAt m' ub fields := by
  obtain ⟨m', hput, hfields, -⟩ := serializeFields_fieldsAt m h.width hok hroom
  refine ⟨m', ?_, hfields⟩
  rw [h.run m ub (by rw [hput]), hput]

end

/-! ## Deserializers -/

section

variable [MicroCdr] {σ : Type} (dev : Device σ)

/-- `ucdr_deserialize_uint8_t` and the others of its family. -/
def readScalar (width : Nat) : StateM (σ × UcdrBuffer) (Option Nat) := fun (s, ub) =>
  ucdrDeserialize dev s ub ub.endianness width

/-- `ucdr_deserialize_array_uint8_t`. -/
def readArray (size : Nat) : StateM (σ × UcdrBuffer) (Option (List UInt8)) := fun (s, ub) =>
  ucdrDeserializeArray dev s ub size

/-- A deserializer sets the error of the buffer. -/
def setError : StateM (σ × UcdrBuffer) PUnit := modify fun (s, ub) => (s, { ub with error := true })

end

section

variable {α β : Type} {fields fields' : List Field}

/-- From the fields, the deserializer gets the result, and it goes behind them. -/
def Yields (deserialize : StateM (Memory × UcdrBuffer) α) (a : α) (fields : List Field) : Prop :=
  ∀ m ub, ub.error = false → FieldsAt m ub fields → (ub.after fields).iterator ≤ ub.final →
    deserialize.run (m, ub) = (a, m, ub.after fields)

theorem yields_pure (a : α) : Yields (pure a) a [] := fun _ _ _ _ _ => rfl

theorem Yields.bind {p : StateM (Memory × UcdrBuffer) α}
    {f : α → StateM (Memory × UcdrBuffer) β} {a : α} {b : β} (hp : Yields p a fields)
    (hf : Yields (f a) b fields') : Yields (p >>= f) b (fields ++ fields') := by
  intro m ub hok hholds hroom
  obtain ⟨hfirst, hsecond⟩ := fieldsAt_append.mp hholds
  obtain ⟨hfinal, herror, -⟩ := ub.after_kept fields
  rw [UcdrBuffer.after_append] at hroom
  have hle : (ub.after fields).iterator ≤ ub.final :=
    Nat.le_trans (Nat.le_trans (Nat.le_add_right _ _) (UcdrBuffer.after_le _ fields')) hroom
  have hrun := hp m ub hok hfirst hle
  have hrun' := hf m _ (herror.trans hok) hsecond (hfinal ▸ hroom)
  rw [UcdrBuffer.after_append, ← hrun', StateT.run_bind, hrun]
  rfl

theorem Yields.map {p : StateM (Memory × UcdrBuffer) α} {a : α} (h : Yields p a fields)
    (f : α → β) : Yields (f <$> p) (f a) fields := by
  intro m ub hok hholds hroom
  rw [StateT.run_map, h m ub hok hholds hroom]
  rfl

theorem Yields.bind_pure {p : StateM (Memory × UcdrBuffer) α} {a : α} (h : Yields p a fields)
    (f : α → β) : Yields (p >>= fun a => pure (f a)) (f a) fields := h.map f

variable [MicroCdr] [LawfulMicroCdr]

theorem yields_array (bytes : List UInt8) :
    Yields (readArray Device.plain bytes.length) (some bytes) [.array bytes] := by
  intro m ub hok hholds hroom
  have hget := gets_room Device.plain bytes.length m ub hok hroom
  have hread := LawfulMicroCdr.deserializeArray hget
  have hbytes : read m ub.iterator bytes.length = bytes := hholds.1
  rw [show Device.plain.load m = m from rfl, hbytes] at hread
  exact hread

theorem yields_scalar {width value : Nat} (hwidth : width ∈ [1, 2, 4, 8])
    (hfits : value < 256 ^ width) :
    Yields (readScalar Device.plain width) (some value) [.scalar width value] := by
  intro m ub hok hholds hroom
  change ub.iterator + ub.padding width + width ≤ ub.final at hroom
  have halign := LawfulMicroCdr.alignTo ub width hwidth (by omega)
  rw [Nat.min_eq_left (by omega)] at halign
  have hget := gets_room Device.plain width m (ucdrAlignTo ub width) (by rw [halign]; exact hok)
    (by rw [halign]; exact hroom)
  have hread := LawfulMicroCdr.deserialize ub.endianness hwidth (by omega) hget
  have hbytes : read m (ub.iterator + ub.padding width) width =
      encodeScalar ub.endianness width value := hholds.1
  rw [halign] at hread
  dsimp only at hread
  rw [show Device.plain.load m = m from rfl, hbytes, decodeScalar_encodeScalar _ hfits] at hread
  exact hread

end

end XrceClient
