import XrceClient.Stream.Submessage

/-!
# Fields of a payload

A payload is a sequence of integers and arrays of bytes, one behind the other.

- `Field`, `FieldType`: a field with its value, and what is known of it before it is read.
- `encodeFields` / `decodeFields`: the bytes of fields in a byte order, and back. Behind the
  first field of which bytes are missing there is nothing to read.
- `decodeFields_encodeFields`: what is encoded is decoded.
- `Packed`: the fields need no padding from an offset on.
- `serializeFields_plain`: writing packed fields puts their bytes in place.
-/

namespace XrceClient

open ByteMemory

/-- A field of a payload: an integer of a width, or an array of bytes. -/
inductive Field where
  | scalar (width value : Nat)
  | array (bytes : List UInt8)
  deriving DecidableEq, Repr

/-- What is known of a field before it is read. -/
inductive FieldType where
  | scalar (width : Nat)
  | array (size : Nat)
  deriving DecidableEq, Repr

/-- The number of bytes of a field. -/
def FieldType.size : FieldType → Nat
  | scalar width => width
  | array size => size

/-- What Micro-CDR keeps of a field for the padding of the next. -/
def FieldType.last : FieldType → Nat
  | scalar width => width
  | array _ => 1

def Field.type : Field → FieldType
  | scalar width _ => .scalar width
  | array bytes => .array bytes.length

/-- The values that the type of a field has room for. -/
def Field.Fits : Field → Prop
  | scalar width value => value < 256 ^ width
  | array _ => True

/-- The number of bytes of fields. -/
def fieldsSize (types : List FieldType) : Nat := (types.map FieldType.size).sum

@[simp] theorem fieldsSize_nil : fieldsSize [] = 0 := rfl

@[simp] theorem fieldsSize_cons (type : FieldType) (types : List FieldType) :
    fieldsSize (type :: types) = type.size + fieldsSize types := by
  rw [fieldsSize, List.map_cons, List.sum_cons]
  rfl

/-! ## Bytes -/

/-- The bytes of a field. -/
def Field.encode (e : Endianness) : Field → List UInt8
  | scalar width value => encodeScalar e width value
  | array bytes => bytes

/-- The field that bytes stand for. -/
def FieldType.decode (e : Endianness) (bytes : List UInt8) : FieldType → Field
  | scalar width => .scalar width (decodeScalar e bytes)
  | array _ => .array bytes

def encodeFields (e : Endianness) (fields : List Field) : List UInt8 :=
  fields.flatMap (Field.encode e)

/-- The fields at the start of some bytes. -/
def decodeFields (e : Endianness) : List FieldType → List UInt8 → List (Option Field)
  | [], _ => []
  | type :: types, bytes =>
    if type.size ≤ bytes.length then
      some (type.decode e (bytes.take type.size)) :: decodeFields e types (bytes.drop type.size)
    else
      none :: types.map fun _ => none

@[simp] theorem Field.encode_length (e : Endianness) (field : Field) :
    (field.encode e).length = field.type.size := by
  cases field with
  | scalar width value => exact encodeScalar_length e width value
  | array bytes => rfl

theorem encodeFields_cons (e : Endianness) (field : Field) (fields : List Field) :
    encodeFields e (field :: fields) = field.encode e ++ encodeFields e fields := by
  rw [encodeFields, List.flatMap_cons]
  rfl

@[simp] theorem encodeFields_length (e : Endianness) (fields : List Field) :
    (encodeFields e fields).length = fieldsSize (fields.map Field.type) := by
  induction fields with
  | nil => rfl
  | cons field fields ih =>
    rw [encodeFields_cons, List.length_append, Field.encode_length, ih, List.map_cons,
      fieldsSize_cons]

theorem decodeScalar_encodeScalar (e : Endianness) {width value : Nat}
    (hfits : value < 256 ^ width) : decodeScalar e (encodeScalar e width value) = value := by
  cases e with
  | littleEndianness => exact (ofLeBytes_leBytes width value).trans (Nat.mod_eq_of_lt hfits)
  | bigEndianness =>
    rw [decodeScalar, encodeScalar, List.reverse_reverse]
    exact (ofLeBytes_leBytes width value).trans (Nat.mod_eq_of_lt hfits)

/-- A field is decoded from its bytes. -/
theorem Field.decode_encode (e : Endianness) {field : Field} (hfits : field.Fits) :
    field.type.decode e (field.encode e) = field := by
  cases field with
  | scalar width value => exact congrArg (Field.scalar width) (decodeScalar_encodeScalar e hfits)
  | array bytes => rfl

/-- Fields are decoded from their bytes, whatever comes behind them. -/
theorem decodeFields_encodeFields (e : Endianness) {fields : List Field}
    (hfits : ∀ field ∈ fields, field.Fits) (rest : List UInt8) :
    decodeFields e (fields.map Field.type) (encodeFields e fields ++ rest) =
      fields.map some := by
  induction fields with
  | nil => rfl
  | cons field fields ih =>
    have hlength := Field.encode_length e field
    have hroom : field.type.size ≤ (encodeFields e (field :: fields) ++ rest).length := by
      rw [encodeFields_cons, List.length_append, List.length_append, hlength]
      omega
    rw [List.map_cons, decodeFields, if_pos hroom, encodeFields_cons, List.append_assoc,
      ← hlength, List.take_left, List.drop_left,
      Field.decode_encode e (hfits field List.mem_cons_self),
      ih fun field' hmem => hfits field' (List.mem_cons_of_mem _ hmem), List.map_cons]

/-! ## Places -/

/-- A field needs no padding: an integer lies at a multiple of its width, or is no wider than
what comes before it. -/
def FieldType.PackedAt (offset last : Nat) : FieldType → Prop
  | scalar width => width ∈ [1, 2, 4, 8] ∧ (last < width → offset % width = 0)
  | array _ => True

/-- None of the fields needs padding. -/
def Packed : Nat → Nat → List FieldType → Prop
  | _, _, [] => True
  | offset, last, type :: types =>
    type.PackedAt offset last ∧ Packed (offset + type.size) type.last types

/-- What is kept behind fields for the padding of the next. -/
def lastSize : Nat → List FieldType → Nat
  | last, [] => last
  | _, type :: types => lastSize type.last types

theorem padding_eq_zero {ub : UcdrBuffer} {width : Nat}
    (h : ub.lastDataSize < width → ub.offset % width = 0) : ub.padding width = 0 := by
  rw [UcdrBuffer.padding]
  split
  · next hlt => rw [h hlt, Nat.sub_zero, Nat.mod_self]
  · rfl

/-! ## Writing -/

section

variable [MicroCdr] {σ : Type} (dev : Device σ)

/-- Writing one field. -/
def serializeField (s : σ) (ub : UcdrBuffer) : Field → Bool × σ × UcdrBuffer
  | .scalar width value => ucdrSerialize dev s ub ub.endianness width value
  | .array bytes => ucdrSerializeArray dev s ub bytes

/-- Writing fields, one behind the other. -/
def serializeFields : σ → UcdrBuffer → List Field → Bool × σ × UcdrBuffer
  | s, ub, [] => (true, s, ub)
  | s, ub, field :: fields =>
    let (ok, s, ub) := serializeField dev s ub field
    let (ok', s, ub) := serializeFields s ub fields
    (ok && ok', s, ub)

end

variable [MicroCdr] [LawfulMicroCdr]

/-- Fields that need no padding and fit are put in place. -/
theorem serializeFields_plain {fields : List Field} {m : Memory} {ub : UcdrBuffer}
    (hok : ub.error = false) (hpacked : Packed ub.offset ub.lastDataSize (fields.map Field.type))
    (hroom : ub.iterator + fieldsSize (fields.map Field.type) ≤ ub.final) :
    serializeFields Device.plain m ub fields =
      (true, write m ub.iterator (encodeFields ub.endianness fields),
        { ub with
          iterator := ub.iterator + fieldsSize (fields.map Field.type)
          offset := ub.offset + fieldsSize (fields.map Field.type)
          lastDataSize := lastSize ub.lastDataSize (fields.map Field.type) }) := by
  induction fields generalizing m ub with
  | nil =>
    rw [serializeFields, encodeFields, List.flatMap_nil, write_nil]
    rfl
  | cons field fields ih =>
    rw [List.map_cons, fieldsSize_cons] at hroom
    rw [serializeFields, encodeFields_cons, write_append, Field.encode_length]
    cases field with
    | scalar width value =>
      obtain ⟨⟨hwidth, haligned⟩, hpacked⟩ := hpacked
      rw [Field.type, FieldType.size] at hroom
      have hput := ucdrSerialize_plain m ub ub.endianness value hwidth hok
        (padding_eq_zero haligned) (by omega)
      have hrest := @ih (write m ub.iterator (encodeScalar ub.endianness width value))
        { ub with iterator := ub.iterator + width, offset := ub.offset + width,
                  lastDataSize := width } hok hpacked (by dsimp only; omega)
      rw [serializeField, hput]
      dsimp only
      rw [hrest]
      simp [Field.type, FieldType.size, FieldType.last, Field.encode, lastSize, Nat.add_assoc]
    | array bytes =>
      obtain ⟨-, hpacked⟩ := hpacked
      rw [Field.type, FieldType.size] at hroom
      have hput := LawfulMicroCdr.serializeArray (puts_plain bytes m ub hok (by omega))
      have hrest := @ih (write m ub.iterator bytes)
        { ub with iterator := ub.iterator + bytes.length, offset := ub.offset + bytes.length,
                  lastDataSize := 1 } hok hpacked (by dsimp only; omega)
      rw [serializeField, hput]
      dsimp only
      rw [hrest]
      simp [Field.type, FieldType.size, FieldType.last, Field.encode, lastSize, Nat.add_assoc]

omit [LawfulMicroCdr] in
/-- Writing fields goes forward, also where they do not fit. -/
theorem serializeFields_forward [StickyMicroCdr] {fields : List Field}
    (hwidth : ∀ width, FieldType.scalar width ∈ fields.map Field.type → width ∈ [1, 2, 4, 8])
    {m : Memory} {ub : UcdrBuffer} (hle : ub.iterator ≤ ub.final) :
    Forward m ub (serializeFields Device.plain m ub fields).2 := by
  induction fields generalizing m ub with
  | nil => exact .refl hle
  | cons field fields ih =>
    have hfield : Forward m ub (serializeField Device.plain m ub field).2 := by
      cases field with
      | scalar width value =>
        exact StickyMicroCdr.serialize_forward m ub.endianness value
          (hwidth width List.mem_cons_self) hle
      | array bytes => exact StickyMicroCdr.serializeArray_forward m bytes hle
    exact hfield.trans (ih (fun width hmem => hwidth width (List.mem_cons_of_mem _ hmem))
      hfield.bound)

end XrceClient
