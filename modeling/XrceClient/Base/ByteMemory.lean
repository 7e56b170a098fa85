import Mathlib

/-!
# Byte memory

A region of memory as a function from addresses to bytes, and the integers that
programs copy in and out of it.

- `write` / `read`: a block of bytes stored at an address and loaded back;
  `read_write_self` and `read_write_disjoint` say how the two meet.
- `leBytes` / `ofLeBytes`: the little-endian bytes of an integer, with
  `ofLeBytes_leBytes` as the round trip modulo the width.
-/

namespace ByteMemory

/-- A region of bytes, addressed from its start. -/
abbrev Memory := Nat → UInt8

/-- Store the bytes `bs` from address `a` on. -/
def write (m : Memory) (a : Nat) (bs : List UInt8) : Memory :=
  fun i => if a ≤ i then bs.getD (i - a) (m i) else m i

/-- Load `n` bytes from address `a` on. -/
def read (m : Memory) (a n : Nat) : List UInt8 :=
  (List.range n).map fun i => m (a + i)

@[simp] theorem read_length (m : Memory) (a n : Nat) : (read m a n).length = n := by
  simp [read]

theorem getElem_read (m : Memory) (a n i : Nat) (h : i < (read m a n).length) :
    (read m a n)[i] = m (a + i) := by
  simp [read]

@[simp] theorem read_zero (m : Memory) (a : Nat) : read m a 0 = [] := rfl

theorem read_succ (m : Memory) (a n : Nat) :
    read m a (n + 1) = m a :: read m (a + 1) n := by
  simp only [read, List.range_succ_eq_map, List.map_cons, List.map_map, Nat.add_zero]
  congr 1
  apply List.map_congr_left
  intro i _
  simp only [Function.comp]
  congr 1
  omega

theorem read_append (m : Memory) (a n k : Nat) :
    read m a (n + k) = read m a n ++ read m (a + n) k := by
  induction n generalizing a with
  | zero => simp
  | succ n ih =>
    rw [show n + 1 + k = (n + k) + 1 from by omega, read_succ, read_succ, ih (a + 1),
      List.cons_append, show a + 1 + n = a + (n + 1) from by omega]

/-- A block within a block. -/
theorem read_within (m : Memory) (a : Nat) {k n c : Nat} (h : k + n ≤ c) :
    read m (a + k) n = ((read m a c).drop k).take n := by
  obtain ⟨r, rfl⟩ := Nat.exists_eq_add_of_le h
  rw [Nat.add_assoc, read_append, List.drop_left' (read_length m a k), read_append,
    List.take_left' (read_length m (a + k) n)]

theorem read_congr {m m' : Memory} {a n : Nat}
    (h : ∀ i, a ≤ i → i < a + n → m i = m' i) : read m a n = read m' a n := by
  apply List.map_congr_left
  intro i hi
  have hi' := List.mem_range.mp hi
  exact h (a + i) (by omega) (by omega)

/-- A write changes nothing outside its block. -/
theorem write_outside (m : Memory) {a i : Nat} {bs : List UInt8}
    (h : i < a ∨ a + bs.length ≤ i) : write m a bs i = m i := by
  unfold write
  split
  · rw [List.getD_eq_default _ _ (by omega)]
  · rfl

theorem write_inside (m : Memory) (a : Nat) (bs : List UInt8) (k : Nat) (h : k < bs.length) :
    write m a bs (a + k) = bs[k] := by
  unfold write
  rw [if_pos (by omega), Nat.add_sub_cancel_left, List.getD_eq_getElem _ _ h]

@[simp] theorem write_nil (m : Memory) (a : Nat) : write m a [] = m := by
  funext i
  exact write_outside m (by simp; omega)

/-- Blocks can be written one after the other. -/
theorem write_append (m : Memory) (a : Nat) (bs cs : List UInt8) :
    write m a (bs ++ cs) = write (write m a bs) (a + bs.length) cs := by
  funext i
  by_cases h₁ : i < a
  · rw [write_outside _ (.inl h₁), write_outside _ (.inl (by omega)), write_outside _ (.inl h₁)]
  · obtain ⟨k, rfl⟩ := Nat.exists_eq_add_of_le (show a ≤ i by omega)
    by_cases h₂ : k < bs.length
    · rw [write_inside _ _ _ k (by simp; omega), write_outside _ (.inl (by omega)),
        write_inside _ _ _ k h₂, List.getElem_append_left h₂]
    · obtain ⟨j, rfl⟩ := Nat.exists_eq_add_of_le (show bs.length ≤ k by omega)
      rw [← Nat.add_assoc]
      by_cases h₃ : j < cs.length
      · rw [write_inside _ (a + bs.length) _ j h₃, Nat.add_assoc,
          write_inside _ a _ (bs.length + j) (by simp; omega)]
        simp
      · rw [write_outside _ (.inr (by simp; omega)), write_outside _ (.inr (by omega)),
          write_outside _ (.inr (by omega))]

theorem write_cons (m : Memory) (a : Nat) (b : UInt8) (bs : List UInt8) :
    write m a (b :: bs) = write (write m a [b]) (a + 1) bs := write_append m a [b] bs

theorem read_write_self (m : Memory) (a : Nat) (bs : List UInt8) :
    read (write m a bs) a bs.length = bs := by
  apply List.ext_getElem (by simp)
  intro k h₁ h₂
  rw [getElem_read, write_inside m a bs k h₂]

/-- Writing back what was read changes nothing. -/
theorem write_read_self (m : Memory) (a n : Nat) : write m a (read m a n) = m := by
  funext i
  by_cases h : i < a ∨ a + n ≤ i
  · exact write_outside m (by simpa using h)
  · obtain ⟨k, rfl⟩ := Nat.exists_eq_add_of_le (show a ≤ i by omega)
    rw [write_inside m a _ k (by simp; omega), getElem_read]

theorem read_write_disjoint (m : Memory) {a b n : Nat} {bs : List UInt8}
    (h : b + n ≤ a ∨ a + bs.length ≤ b) : read (write m a bs) b n = read m b n := by
  apply read_congr
  intro i hi₁ hi₂
  exact write_outside m (by omega)

/-! ## Little-endian integers -/

/-- The `w` low bytes of `v`, least significant first. -/
def leBytes : Nat → Nat → List UInt8
  | 0, _ => []
  | w + 1, v => UInt8.ofNat v :: leBytes w (v / 256)

/-- The integer whose bytes, least significant first, are the list. -/
def ofLeBytes : List UInt8 → Nat
  | [] => 0
  | b :: bs => b.toNat + 256 * ofLeBytes bs

@[simp] theorem leBytes_length (w v : Nat) : (leBytes w v).length = w := by
  induction w generalizing v with
  | zero => rfl
  | succ w ih => rw [leBytes, List.length_cons, ih]

theorem ofLeBytes_leBytes (w v : Nat) : ofLeBytes (leBytes w v) = v % 256 ^ w := by
  induction w generalizing v with
  | zero => simp [leBytes, ofLeBytes, Nat.mod_one]
  | succ w ih =>
    rw [leBytes, ofLeBytes, ih, Nat.pow_succ', Nat.mod_mul, UInt8.toNat_ofNat']

theorem leBytes_ofLeBytes (bs : List UInt8) : leBytes bs.length (ofLeBytes bs) = bs := by
  induction bs with
  | nil => rfl
  | cons b bs ih =>
    have hb := b.toNat_lt
    rw [List.length_cons, leBytes, ofLeBytes,
      show (b.toNat + 256 * ofLeBytes bs) / 256 = ofLeBytes bs by omega, ih]
    congr 1
    apply UInt8.toNat_inj.mp
    rw [UInt8.toNat_ofNat']
    omega

theorem ofLeBytes_lt (bs : List UInt8) : ofLeBytes bs < 256 ^ bs.length := by
  induction bs with
  | nil => simp [ofLeBytes]
  | cons b bs ih =>
    have hb := b.toNat_lt
    rw [ofLeBytes, List.length_cons, Nat.pow_succ']
    omega

end ByteMemory
