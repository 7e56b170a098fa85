import Mathlib.Tactic.Common

/-!
# Byte stuffing

A frame begins with a flag byte. So that the flag stands nowhere else, the flag and the
escape byte are sent as two bytes: the escape byte and the byte itself, changed by a mask.

- `Stuffing`: the three bytes, with what makes them work.
- `stuff`: the bytes that stand for a list of octets.
- `begin_not_mem_stuff`: the flag is not among them.
- `stuff_cons_cases`: the first octet, from the first one or two bytes.
- `Reads`: what one or two bytes are to a reader, in any bytes. Readers of the same bytes find the
  same octet.
- `behind_first_flag`: the flag says where a frame begins.
-/

/-- A flag, an escape byte and a mask. -/
structure Stuffing where
  beginFlag : UInt8
  escFlag : UInt8
  xorFlag : UInt8
  esc_ne_begin : escFlag ≠ beginFlag
  masked_ne_begin : ∀ b, b = beginFlag ∨ b = escFlag → b ^^^ xorFlag ≠ beginFlag

namespace Stuffing

variable (f : Stuffing)

/-- The byte cannot stand for itself. -/
def Special (b : UInt8) : Prop := b = f.beginFlag ∨ b = f.escFlag

instance (b : UInt8) : Decidable (f.Special b) := inferInstanceAs (Decidable (_ ∨ _))

/-- The bytes that stand for an octet. -/
def stuffOctet (b : UInt8) : List UInt8 :=
  if f.Special b then [f.escFlag, b ^^^ f.xorFlag] else [b]

/-- The bytes that stand for a list of octets. -/
def stuff (bs : List UInt8) : List UInt8 := bs.flatMap f.stuffOctet

variable {f}

@[simp] theorem stuff_nil : f.stuff [] = [] := rfl

theorem stuff_cons (b : UInt8) (bs : List UInt8) :
    f.stuff (b :: bs) = f.stuffOctet b ++ f.stuff bs := List.flatMap_cons

theorem stuff_append (bs cs : List UInt8) : f.stuff (bs ++ cs) = f.stuff bs ++ f.stuff cs :=
  List.flatMap_append

theorem stuffOctet_ne_nil (b : UInt8) : f.stuffOctet b ≠ [] := by
  rw [stuffOctet]
  split <;> simp

theorem begin_not_mem_stuffOctet (b : UInt8) : f.beginFlag ∉ f.stuffOctet b := by
  rw [stuffOctet]
  split
  · next hspecial =>
    intro hmem
    rcases List.mem_cons.mp hmem with h | h
    · exact f.esc_ne_begin h.symm
    · exact f.masked_ne_begin b hspecial (List.mem_singleton.mp h).symm
  · next hplain =>
    intro hmem
    exact hplain (.inl (List.mem_singleton.mp hmem).symm)

/-- The flag does not occur in stuffed octets. -/
theorem begin_not_mem_stuff (bs : List UInt8) : f.beginFlag ∉ f.stuff bs := by
  intro hmem
  obtain ⟨b, -, hb⟩ := List.mem_flatMap.mp hmem
  exact begin_not_mem_stuffOctet b hb

/-- The first octet is either one byte other than the flags, or the escape byte and a masked
byte from which the mask gives it back. -/
theorem stuff_cons_cases (b : UInt8) (bs : List UInt8) :
    (f.stuff (b :: bs) = b :: f.stuff bs ∧ b ≠ f.beginFlag ∧ b ≠ f.escFlag) ∨
      ∃ c, f.stuff (b :: bs) = f.escFlag :: c :: f.stuff bs ∧ c ≠ f.beginFlag ∧
        c ^^^ f.xorFlag = b := by
  rw [stuff_cons, stuffOctet]
  split
  · next hspecial =>
    refine .inr ⟨b ^^^ f.xorFlag, rfl, f.masked_ne_begin b hspecial, ?_⟩
    rw [UInt8.xor_assoc, UInt8.xor_self, UInt8.xor_zero]
  · next hplain =>
    exact .inl ⟨rfl, fun h => hplain (.inl h), fun h => hplain (.inr h)⟩

/-- What the bytes are to a reader of octets, who takes one byte, or two behind an escape byte: an
octet, or a flag, which is one behind an escape byte too. -/
inductive Reads (f : Stuffing) : List UInt8 → Option UInt8 → Prop
  | plain (b : UInt8) (hbegin : b ≠ f.beginFlag) (hesc : b ≠ f.escFlag) : Reads f [b] (some b)
  | masked (b : UInt8) (hbegin : b ≠ f.beginFlag) : Reads f [f.escFlag, b] (some (b ^^^ f.xorFlag))
  | flag : Reads f [f.beginFlag] none
  | escapedFlag : Reads f [f.escFlag, f.beginFlag] none

theorem Reads.length_pos {bs : List UInt8} {octet : Option UInt8} (h : f.Reads bs octet) :
    0 < bs.length := by
  cases h <;> simp

/-- In the same bytes readers of an octet take the same one. -/
theorem Reads.deterministic {used used' rest rest' : List UInt8} {octet octet' : UInt8}
    (h : f.Reads used (some octet)) (h' : f.Reads used' (some octet'))
    (hsame : used ++ rest = used' ++ rest') : used = used' ∧ octet = octet' := by
  cases h with
  | plain b hbegin hesc =>
    cases h' with
    | plain b' hbegin' hesc' =>
      obtain ⟨rfl, -⟩ := List.cons.inj hsame
      exact ⟨rfl, rfl⟩
    | masked b' hbegin' => exact absurd (List.cons.inj hsame).1 hesc
  | masked b hbegin =>
    cases h' with
    | plain b' hbegin' hesc' => exact absurd (List.cons.inj hsame).1.symm hesc'
    | masked b' hbegin' =>
      obtain ⟨rfl, -⟩ := List.cons.inj (List.cons.inj hsame).2
      exact ⟨rfl, rfl⟩

/-- The bytes that stand for an octet are that octet to a reader. -/
theorem reads_stuffOctet (b : UInt8) : f.Reads (f.stuffOctet b) (some b) := by
  rw [stuffOctet]
  split
  · next hspecial =>
    have hmasked := Reads.masked (b ^^^ f.xorFlag) (f.masked_ne_begin b hspecial)
    rwa [UInt8.xor_assoc, UInt8.xor_self, UInt8.xor_zero] at hmasked
  · next hplain => exact .plain b (fun h => hplain (.inl h)) fun h => hplain (.inr h)

/-- What comes behind the first flag of a list. -/
theorem behind_first_flag {b : UInt8} {xs ys as bs : List UInt8} (hxs : b ∉ xs) (hys : b ∉ ys)
    (h : xs ++ b :: as = ys ++ b :: bs) : as = bs := by
  induction xs generalizing ys with
  | nil =>
    cases ys with
    | nil => exact (List.cons.inj h).2
    | cons y ys => exact absurd ((List.cons.inj h).1 ▸ List.mem_cons_self) hys
  | cons x xs ih =>
    cases ys with
    | nil => exact absurd ((List.cons.inj h).1 ▸ List.mem_cons_self) hxs
    | cons y ys =>
      exact ih (fun hmem => hxs (List.mem_cons_of_mem _ hmem))
        (fun hmem => hys (List.mem_cons_of_mem _ hmem)) (List.cons.inj h).2

end Stuffing
