import Mathlib.Logic.Function.Iterate
import Mathlib.Tactic.Common

/-!
# Shift registers with feedback

A register of `w` bits that is shifted towards its low end, where a bit that falls out is fed
back through a polynomial. Bits that come in are added at the low end.

- `shift`: one shift; it adds up (`shift_xor`), and loses nothing where the polynomial has its
  highest bit (`shift_injective`).
- `shift_iterate_split`: several shifts are a table over the low bits, and the others moved down.
- `feed`: bits come in one after the other; up to `w` of them are a number (`feed_short`).
- `Burst`: two lists of bits differ within a window; `feed_ne_of_burst`.
-/

namespace ShiftRegister

variable {w : Nat}

/-- One shift; the bit that falls out is fed back. -/
def shift (poly c : BitVec w) : BitVec w :=
  if c.getLsbD 0 then (c >>> 1) ^^^ poly else c >>> 1

section

variable {poly : BitVec w}

theorem shift_low {c : BitVec w} (h : c.getLsbD 0 = true) : shift poly c = (c >>> 1) ^^^ poly :=
  if_pos h

theorem shift_clear {c : BitVec w} (h : c.getLsbD 0 = false) : shift poly c = c >>> 1 :=
  if_neg (by simp [h])

/-- Shifts add up. -/
theorem shift_xor (a b : BitVec w) : shift poly (a ^^^ b) = shift poly a ^^^ shift poly b := by
  have hlow : (a ^^^ b).getLsbD 0 = (a.getLsbD 0 ^^ b.getLsbD 0) := BitVec.getLsbD_xor
  have hhigh : (a ^^^ b) >>> 1 = a >>> 1 ^^^ b >>> 1 := BitVec.ushiftRight_xor_distrib ..
  cases ha : a.getLsbD 0 with
  | false =>
    cases hb : b.getLsbD 0 with
    | false => rw [shift_clear (by simp [hlow, ha, hb]), shift_clear ha, shift_clear hb, hhigh]
    | true =>
      rw [shift_low (by simp [hlow, ha, hb]), shift_clear ha, shift_low hb, hhigh,
        BitVec.xor_assoc]
  | true =>
    cases hb : b.getLsbD 0 with
    | false =>
      rw [shift_low (by simp [hlow, ha, hb]), shift_low ha, shift_clear hb, hhigh]
      ac_rfl
    | true =>
      -- what is fed back twice is not there
      rw [shift_clear (by simp [hlow, ha, hb]), shift_low ha, shift_low hb, hhigh]
      have hcancel : (a >>> 1 ^^^ poly) ^^^ (b >>> 1 ^^^ poly) =
          (a >>> 1 ^^^ b >>> 1) ^^^ (poly ^^^ poly) := by ac_rfl
      rw [hcancel, BitVec.xor_self, BitVec.xor_zero]

theorem iterate_shift_xor (n : Nat) (a b : BitVec w) :
    (shift poly)^[n] (a ^^^ b) = (shift poly)^[n] a ^^^ (shift poly)^[n] b := by
  induction n generalizing a b with
  | zero => rfl
  | succ n ih => rw [Function.iterate_succ_apply, shift_xor, ih]; rfl

/-- Only zero is shifted to zero. -/
theorem eq_zero_of_shift (hpoly : poly.msb = true) {c : BitVec w} (h : shift poly c = 0) :
    c = 0 := by
  have hlow : c.getLsbD 0 = false := by
    by_contra hlow
    rw [shift_low (by simpa using hlow)] at h
    -- the highest bit is the one of the polynomial
    have hmsb := congrArg BitVec.msb h
    rw [BitVec.msb_xor, hpoly, BitVec.msb_ushiftRight] at hmsb
    simp at hmsb
  rw [shift_clear hlow] at h
  refine BitVec.eq_of_getLsbD_eq fun i _ => ?_
  cases i with
  | zero => simpa using hlow
  | succ i =>
    have hbit := congrArg (fun x : BitVec w => x.getLsbD i) h
    simpa [Nat.add_comm] using hbit

theorem shift_injective (hpoly : poly.msb = true) : Function.Injective (shift poly) := by
  intro a b h
  have hzero : shift poly (a ^^^ b) = 0 := by
    rw [shift_xor, h, BitVec.xor_self]
    rfl
  exact BitVec.xor_eq_zero_iff.mp (eq_zero_of_shift hpoly hzero)

/-! ## Several shifts -/

/-- Where the low bits are clear the others are moved down. -/
theorem shift_iterate_of_clear (n : Nat) {c : BitVec w} (h : ∀ i < n, c.getLsbD i = false) :
    (shift poly)^[n] c = c >>> n := by
  induction n with
  | zero => simp
  | succ n ih =>
    have hlow : (c >>> n).getLsbD 0 = false := by
      rw [BitVec.getLsbD_ushiftRight]
      exact h n (Nat.lt_succ_self n)
    rw [Function.iterate_succ_apply', ih fun i hi => h i (by omega), shift_clear hlow,
      BitVec.shiftRight_add]

/-- Several shifts, from a table over the low bits. -/
theorem shift_iterate_split (n : Nat) {low c : BitVec w}
    (hlow : ∀ i < n, low.getLsbD i = c.getLsbD i) (hhigh : low >>> n = 0#w) :
    (shift poly)^[n] c = c >>> n ^^^ (shift poly)^[n] low := by
  have hsplit : c = (c ^^^ low) ^^^ low := by
    rw [BitVec.xor_assoc, BitVec.xor_self, BitVec.xor_zero]
  have hclear : ∀ i < n, (c ^^^ low).getLsbD i = false := by
    intro i hi
    rw [BitVec.getLsbD_xor, hlow i hi, Bool.xor_self]
  calc (shift poly)^[n] c
      = (shift poly)^[n] (c ^^^ low) ^^^ (shift poly)^[n] low := by
        rw [← iterate_shift_xor, ← hsplit]
    _ = (c ^^^ low) >>> n ^^^ (shift poly)^[n] low := by rw [shift_iterate_of_clear n hclear]
    _ = c >>> n ^^^ (shift poly)^[n] low := by
        rw [BitVec.ushiftRight_xor_distrib, hhigh, BitVec.xor_zero]

end

/-! ## Bits that come in -/

/-- The bits as a number, the first one lowest. -/
def ofBits (w : Nat) (bits : List Bool) : BitVec w := (BitVec.ofBoolListLE bits).setWidth w

theorem getLsbD_ofBits (bits : List Bool) (i : Nat) :
    (ofBits w bits).getLsbD i = (decide (i < w) && bits.getD i false) := by
  rw [ofBits, BitVec.getLsbD_setWidth, BitVec.getLsbD_ofBoolListLE]

/-- The bits come in one after the other, with a shift behind each. -/
def feed (poly c : BitVec w) (bits : List Bool) : BitVec w :=
  bits.foldl (fun c b => shift poly (c ^^^ ofBits w [b])) c

section

variable {poly : BitVec w}

@[simp] theorem feed_nil (c : BitVec w) : feed poly c [] = c := rfl

theorem feed_cons (c : BitVec w) (b : Bool) (bits : List Bool) :
    feed poly c (b :: bits) = feed poly (shift poly (c ^^^ ofBits w [b])) bits := rfl

theorem feed_append (c : BitVec w) (bits bits' : List Bool) :
    feed poly c (bits ++ bits') = feed poly (feed poly c bits) bits' := List.foldl_append

theorem feed_injective (hpoly : poly.msb = true) (bits : List Bool) :
    Function.Injective fun c => feed poly c bits := by
  induction bits with
  | nil => exact fun _ _ h => h
  | cons b bits ih =>
    intro c d h
    exact (BitVec.xor_left_inj (ofBits w [b])).mp (shift_injective hpoly (ih h))

/-- The number, from its lowest bit. -/
theorem ofBits_cons (b : Bool) (bits : List Bool) :
    ofBits w (b :: bits) = ofBits w [b] ^^^ ofBits w bits <<< 1 := by
  refine BitVec.eq_of_getLsbD_eq fun i hi => ?_
  rw [BitVec.getLsbD_xor, BitVec.getLsbD_shiftLeft, getLsbD_ofBits, getLsbD_ofBits, getLsbD_ofBits]
  cases i with
  | zero => simp
  | succ i => simp [hi, Nat.lt_of_succ_lt hi]

/-- A number below the highest bit is a shift of itself. -/
theorem shift_shiftLeft {bits : List Bool} (h : bits.length < w) :
    shift poly (ofBits w bits <<< 1) = ofBits w bits := by
  rw [shift_clear (by simp)]
  refine BitVec.eq_of_getLsbD_eq fun i hi => ?_
  rw [BitVec.getLsbD_ushiftRight, BitVec.getLsbD_shiftLeft, getLsbD_ofBits, getLsbD_ofBits]
  by_cases hlast : 1 + i < w
  · simp [hlast, hi]
  · -- the highest bit is clear
    have hnone : bits[i]? = none := List.getElem?_eq_none (by omega)
    simp [hlast, hnone]

/-- Bits that fit into the register may as well come in at once. -/
theorem feed_short {bits : List Bool} (h : bits.length ≤ w) (c : BitVec w) :
    feed poly c bits = (shift poly)^[bits.length] (c ^^^ ofBits w bits) := by
  induction bits generalizing c with
  | nil =>
    have hzero : ofBits w [] = 0#w := by
      refine BitVec.eq_of_getLsbD_eq fun i _ => ?_
      simp [getLsbD_ofBits]
    rw [feed_nil, hzero, BitVec.xor_zero]
    rfl
  | cons b bits ih =>
    rw [List.length_cons] at h
    have hstep : shift poly (c ^^^ ofBits w [b]) ^^^ ofBits w bits =
        shift poly (c ^^^ ofBits w (b :: bits)) := by
      rw [ofBits_cons b bits, ← BitVec.xor_assoc, shift_xor (c ^^^ ofBits w [b]),
        shift_shiftLeft h]
    rw [feed_cons, ih (by omega), hstep, List.length_cons, Function.iterate_succ_apply]

/-- The number has all the bits. -/
theorem ofBits_injective {bits bits' : List Bool} (h : bits.length ≤ w)
    (hlength : bits.length = bits'.length) (heq : ofBits w bits = ofBits w bits') :
    bits = bits' := by
  refine List.ext_getElem hlength fun i hi hi' => ?_
  have hbit := congrArg (fun x : BitVec w => x.getLsbD i) heq
  simp only [getLsbD_ofBits] at hbit
  simpa [hi, hi', Nat.lt_of_lt_of_le hi h] using hbit

/-! ## Bursts -/

/-- The lists differ, and only within so many successive places. -/
structure Burst (n : Nat) (bits bits' : List Bool) : Prop where
  length : bits.length = bits'.length
  ne : bits ≠ bits'
  within : ∃ k, ∀ i, bits[i]? ≠ bits'[i]? → k ≤ i ∧ i < k + n

/-- The window, and what is the same on both its sides. -/
theorem Burst.split {n : Nat} {bits bits' : List Bool} (h : Burst n bits bits') :
    ∃ before window window' after, bits = before ++ window ++ after ∧
      bits' = before ++ window' ++ after ∧ window.length = window'.length ∧
      window.length ≤ n ∧ window ≠ window' := by
  obtain ⟨k, hwithin⟩ := h.within
  have hbefore : bits.take k = bits'.take k := by
    refine List.ext_getElem? fun i => ?_
    rw [List.getElem?_take, List.getElem?_take]
    by_cases hi : i < k
    · rw [if_pos hi, if_pos hi]
      by_contra hne
      exact absurd (hwithin i hne).1 (by omega)
    · rw [if_neg hi, if_neg hi]
  have hafter : bits.drop (k + n) = bits'.drop (k + n) := by
    refine List.ext_getElem? fun i => ?_
    rw [List.getElem?_drop, List.getElem?_drop]
    by_contra hne
    exact absurd (hwithin _ hne).2 (by omega)
  have hsplit (l : List Bool) : l = l.take k ++ (l.drop k).take n ++ l.drop (k + n) := by
    rw [← List.drop_drop, List.append_assoc, List.take_append_drop, List.take_append_drop]
  refine ⟨bits.take k, (bits.drop k).take n, (bits'.drop k).take n, bits.drop (k + n),
    hsplit bits, ?_, by simp [h.length], List.length_take_le _ _, fun heq => h.ne ?_⟩
  · rw [hbefore, hafter]
    exact hsplit bits'
  · rw [hsplit bits, hsplit bits', hbefore, hafter, heq]

/-- Bits that differ within as many places as the register has lead to different registers. -/
theorem feed_ne_of_burst (hpoly : poly.msb = true) {bits bits' : List Bool}
    (h : Burst w bits bits') (c : BitVec w) : feed poly c bits ≠ feed poly c bits' := by
  obtain ⟨before, window, window', after, rfl, rfl, hlength, hle, hne⟩ := h.split
  intro heq
  rw [feed_append, feed_append, feed_append, feed_append] at heq
  have hwindow := feed_injective hpoly after heq
  have hle' : window'.length ≤ w := hlength ▸ hle
  have hshort := @feed_short w poly window hle (feed poly c before)
  have hshort' := @feed_short w poly window' hle' (feed poly c before)
  rw [← hlength] at hshort'
  have hnumber := (shift_injective hpoly).iterate window.length
    (hshort.symm.trans (hwindow.trans hshort'))
  exact hne (ofBits_injective hle hlength ((BitVec.xor_right_inj _).mp hnumber))

end

end ShiftRegister
