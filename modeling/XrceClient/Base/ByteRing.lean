import XrceClient.Base.ByteMemory

/-!
# Byte rings

A queue of bytes in a block of `n` bytes that is used in a circle: it begins at `tail`, and
ends before `head`. One byte stays unused, so that a full ring is not an empty one.

- `ringContents`: the bytes of the queue, in order.
- `ringContents_pop`: the first of them is at `tail`; `ringContents_split`: any number of them.
- `ringContents_write`: bytes written behind `head` come behind the others.
-/

namespace ByteMemory

/-- How many bytes a ring holds. -/
def ringLength (n tail head : Nat) : Nat := (head + n - tail) % n

/-- The bytes of a ring, from `tail` to `head`. -/
def ringContents (n : Nat) (m : Memory) (tail head : Nat) : List UInt8 :=
  (List.range (ringLength n tail head)).map fun i => m ((tail + i) % n)

variable {n tail head : Nat} {m : Memory}

@[simp] theorem ringContents_length :
    (ringContents n m tail head).length = ringLength n tail head := by
  simp [ringContents]

theorem getElem_ringContents {i : Nat} (h : i < (ringContents n m tail head).length) :
    (ringContents n m tail head)[i] = m ((tail + i) % n) := by
  simp [ringContents]

theorem ringLength_eq (ht : tail < n) (hh : head < n) :
    ringLength n tail head = if tail ≤ head then head - tail else head + n - tail := by
  rw [ringLength]
  split
  · next hle =>
    rw [show head + n - tail = head - tail + n by omega, Nat.add_mod_right]
    exact Nat.mod_eq_of_lt (by omega)
  · next hlt => exact Nat.mod_eq_of_lt (by omega)

theorem ringLength_cases (ht : tail < n) (hh : head < n) :
    (tail ≤ head ∧ ringLength n tail head = head - tail) ∨
      (head < tail ∧ ringLength n tail head = head + n - tail) := by
  rw [ringLength_eq ht hh]
  split
  · next hle => exact .inl ⟨hle, rfl⟩
  · next hlt => exact .inr ⟨Nat.lt_of_not_le hlt, rfl⟩

theorem ringLength_eq_zero_iff (ht : tail < n) (hh : head < n) :
    ringLength n tail head = 0 ↔ head = tail := by
  rw [ringLength_eq ht hh]
  split <;> omega

theorem ringLength_lt (ht : tail < n) : ringLength n tail head < n := Nat.mod_lt _ (by omega)

theorem ringContents_eq_nil_iff (ht : tail < n) (hh : head < n) :
    ringContents n m tail head = [] ↔ head = tail := by
  rw [← List.length_eq_zero_iff, ringContents_length, ringLength_eq_zero_iff ht hh]

/-- The position behind the end of the block is its start. -/
theorem succ_mod_ring (ht : tail < n) :
    (tail + 1) % n = if tail + 1 = n then 0 else tail + 1 := by
  split
  · next heq => rw [heq, Nat.mod_self]
  · next hne => exact Nat.mod_eq_of_lt (by omega)

/-- The first byte of a ring is taken by moving `tail`. -/
theorem ringContents_pop (ht : tail < n) (hh : head < n) (hne : head ≠ tail) :
    ringContents n m tail head = m tail :: ringContents n m ((tail + 1) % n) head := by
  have hnext : (tail + 1) % n < n := Nat.mod_lt _ (by omega)
  have hlength : ringLength n tail head = ringLength n ((tail + 1) % n) head + 1 := by
    rw [ringLength_eq ht hh, ringLength_eq hnext hh, succ_mod_ring ht]
    split <;> split <;> split <;> omega
  rw [ringContents, hlength, List.range_succ_eq_map, List.map_cons, List.map_map, ringContents,
    Nat.add_zero, Nat.mod_eq_of_lt ht]
  congr 1
  refine List.map_congr_left fun i _ => ?_
  rw [Function.comp_apply, Nat.mod_add_mod, Nat.add_right_comm]
  rfl

/-- The bytes in front of a position of the ring, and those behind it. -/
theorem ringContents_split (ht : tail < n) (hh : head < n) {k : Nat}
    (hk : k ≤ ringLength n tail head) :
    ringContents n m tail head =
      ringContents n m tail ((tail + k) % n) ++ ringContents n m ((tail + k) % n) head := by
  have hlt := @ringLength_lt n tail head ht
  have hnext : (tail + k) % n < n := Nat.mod_lt _ (by omega)
  have hmod : (tail + k) % n = if tail + k < n then tail + k else tail + k - n := by
    split
    · next hin => exact Nat.mod_eq_of_lt hin
    · next hout =>
      rw [Nat.mod_eq_sub_mod (by omega)]
      exact Nat.mod_eq_of_lt (by omega)
  have hfront : ringLength n tail ((tail + k) % n) = k := by
    rw [ringLength_eq ht hnext, hmod]
    by_cases hin : tail + k < n
    · rw [if_pos hin, if_pos (Nat.le_add_right _ _)]
      omega
    · rw [if_neg hin, if_neg (by omega)]
      omega
  have hback : ringLength n tail head = k + ringLength n ((tail + k) % n) head := by
    rw [ringLength_eq hnext hh, hmod]
    rcases ringLength_cases ht hh with ⟨hle, hring⟩ | ⟨hwraps, hring⟩
    · rw [if_pos (show tail + k < n by omega), if_pos (show tail + k ≤ head by omega)]
      omega
    · by_cases hin : tail + k < n
      · rw [if_pos hin, if_neg (show ¬ tail + k ≤ head by omega)]
        omega
      · rw [if_neg hin, if_pos (show tail + k - n ≤ head by omega)]
        omega
  rw [ringContents, hback, List.range_add, List.map_append, List.map_map, ringContents, hfront,
    ringContents]
  congr 1
  refine List.map_congr_left fun i _ => ?_
  rw [Function.comp_apply, Nat.mod_add_mod, Nat.add_assoc]

/-- Bytes that are written behind `head`, with room for them before the end of the block and
before `tail`, come behind the others. -/
theorem ringContents_write (ht : tail < n) (hh : head < n) {bs : List UInt8}
    (hend : head + bs.length ≤ n) (hroom : ringLength n tail head + bs.length < n) :
    ringContents n (write m head bs) tail ((head + bs.length) % n) =
      ringContents n m tail head ++ bs := by
  have hnext : (head + bs.length) % n < n := Nat.mod_lt _ (by omega)
  have hmod : (head + bs.length) % n = if head + bs.length = n then 0 else head + bs.length := by
    split
    · next heq => rw [heq, Nat.mod_self]
    · next hne => exact Nat.mod_eq_of_lt (by omega)
  have hlength : ringLength n tail ((head + bs.length) % n) =
      ringLength n tail head + bs.length := by
    rw [ringLength_eq ht hh] at hroom ⊢
    rw [ringLength_eq ht hnext, hmod]
    split at hroom <;> split <;> split <;> omega
  have hposition (j : Nat) (hj : j < n) : (tail + j) % n =
      if tail + j < n then tail + j else tail + j - n := by
    split
    · next hlt => exact Nat.mod_eq_of_lt hlt
    · next hle =>
      rw [Nat.mod_eq_sub_mod (by omega)]
      exact Nat.mod_eq_of_lt (by omega)
  refine List.ext_getElem (by simp [hlength]) fun i hi₁ hi₂ => ?_
  have hi : i < ringLength n tail head + bs.length := by
    rw [ringContents_length, hlength] at hi₁
    exact hi₁
  rw [getElem_ringContents]
  by_cases hold : i < ringLength n tail head
  · rw [List.getElem_append_left (by simpa using hold), getElem_ringContents]
    refine write_outside m ?_
    rw [hposition i (by omega)]
    rcases ringLength_cases ht hh with ⟨hle, hring⟩ | ⟨hlt, hring⟩
    · rw [if_pos (by omega)]
      omega
    · split <;> omega
  · obtain ⟨k, rfl⟩ := Nat.exists_eq_add_of_le (Nat.le_of_not_lt hold)
    rw [List.getElem_append_right (by simp)]
    simp only [ringContents_length, Nat.add_sub_cancel_left]
    have hbehind : (tail + (ringLength n tail head + k)) % n = head + k := by
      rw [hposition _ (by omega)]
      rcases ringLength_cases ht hh with ⟨hle, hring⟩ | ⟨hlt, hring⟩
      · rw [if_pos (by omega)]
        omega
      · rw [if_neg (by omega)]
        omega
    rw [hbehind]
    exact write_inside m head bs k (by omega)

end ByteMemory
