import XrceClient.Base.SerialNumber

/-!
# Sequence numbers (`seq_num.c`)

`uxrSeqNum` is a `uint16_t`. The three functions of `seq_num.c` compute in
`int`, so the additions and subtractions below are those of `Nat` before the
cast back.
-/

namespace XrceClient

/-- `uxrSeqNum` (seq_num.h). -/
abbrev SeqNum := UInt16

/-- `SEQ_NUM_MAX` (seq_num_internal.h). -/
def seqNumMax : SeqNum := 65535

/-- `SEQ_NUM_SIZE` (seq_num.c:4). -/
def seqNumSize : Nat := 65536

/-- `SEQ_NUM_MIDSIZE` (seq_num.c:5). -/
def seqNumMidsize : Nat := 32768

/-- `uxr_seq_num_add` (seq_num.c:10–15). -/
def seqNumAdd (seqNum : SeqNum) (increment : UInt16) : SeqNum :=
  UInt16.ofNat ((seqNum.toNat + increment.toNat) % seqNumSize)

/-- `uxr_seq_num_sub` (seq_num.c:17–24). -/
def seqNumSub (seqNum : SeqNum) (decrement : UInt16) : SeqNum :=
  if decrement > seqNum then
    UInt16.ofNat (seqNum.toNat + (seqNumSize - decrement.toNat))
  else
    UInt16.ofNat (seqNum.toNat - decrement.toNat)

/-- `uxr_seq_num_cmp` (seq_num.c:26–45). -/
def seqNumCmp (seqNum1 seqNum2 : SeqNum) : Int :=
  if seqNum1 = seqNum2 then
    0
  else if (seqNum1 < seqNum2 ∧ seqNum2.toNat - seqNum1.toNat < seqNumMidsize) ∨
      (seqNum1 > seqNum2 ∧ seqNum1.toNat - seqNum2.toNat > seqNumMidsize) then
    -1
  else
    1

/-! ## The functions are serial arithmetic -/

theorem seqNumAdd_eq (a b : UInt16) : seqNumAdd a b = a + b := by
  apply UInt16.toNat_inj.mp
  rw [seqNumAdd, UInt16.toNat_add, Serial.toNat_ofNat, seqNumSize]
  omega

theorem seqNumSub_eq (a b : UInt16) : seqNumSub a b = a - b := by
  apply UInt16.toNat_inj.mp
  have ha := a.toNat_lt
  have hb := b.toNat_lt
  unfold seqNumSub seqNumSize
  rw [UInt16.toNat_sub]
  split
  · next h =>
    rw [Serial.toNat_ofNat]
    have := UInt16.lt_iff_toNat_lt.mp h
    omega
  · next h =>
    rw [Serial.toNat_ofNat]
    have := UInt16.lt_iff_toNat_lt.not.mp h
    omega

/-- `uxr_seq_num_cmp` is non-positive exactly when the second number is less
than half the circle ahead. -/
theorem seqNumCmp_nonpos_iff (a b : SeqNum) :
    0 ≥ seqNumCmp a b ↔ Serial.dist a b < seqNumMidsize := by
  have ha := a.toNat_lt
  have hb := b.toNat_lt
  rw [Serial.dist_eq]
  unfold seqNumCmp seqNumMidsize
  simp only [UInt16.lt_iff_toNat_lt, gt_iff_lt, ← UInt16.toNat_inj]
  split
  · next h =>
    simp only [ge_iff_le, Int.le_refl, true_iff]
    omega
  · next h =>
    split
    · next h' =>
      simp only [ge_iff_le, Int.reduceNeg, Int.reduceLE, true_iff]
      omega
    · next h' =>
      simp only [ge_iff_le, Int.reduceLE, false_iff]
      omega

theorem seqNumCmp_eq_zero_iff (a b : SeqNum) : seqNumCmp a b = 0 ↔ a = b := by
  unfold seqNumCmp
  split
  · next h => simp [h]
  · next h => split <;> simp [h]

/-- `uxr_seq_num_cmp` is negative exactly when the second number is ahead by
less than half the circle. -/
theorem seqNumCmp_neg_iff (a b : SeqNum) :
    0 > seqNumCmp a b ↔ 0 < Serial.dist a b ∧ Serial.dist a b < seqNumMidsize := by
  have h0 : 0 > seqNumCmp a b ↔ 0 ≥ seqNumCmp a b ∧ seqNumCmp a b ≠ 0 := by omega
  rw [h0, seqNumCmp_nonpos_iff, Ne, seqNumCmp_eq_zero_iff, ← Serial.dist_eq_zero_iff]
  omega

/-- `uxr_seq_num_cmp` is non-negative exactly when the second number is not
strictly ahead by less than half the circle. -/
theorem seqNumCmp_nonneg_iff (a b : SeqNum) :
    0 ≤ seqNumCmp a b ↔ ¬ (0 < Serial.dist a b ∧ Serial.dist a b < seqNumMidsize) := by
  rw [← seqNumCmp_neg_iff]
  omega

/-! ## On the wire images of counts -/

@[simp] theorem seqNumAdd_ofNat (m n : Nat) :
    seqNumAdd (UInt16.ofNat m) (UInt16.ofNat n) = UInt16.ofNat (m + n) := by
  rw [seqNumAdd_eq, Serial.ofNat_add_ofNat]

theorem seqNumAdd_one (m : Nat) :
    seqNumAdd (UInt16.ofNat m) 1 = UInt16.ofNat (m + 1) := seqNumAdd_ofNat m 1

theorem seqNumAdd_eq_ofNat (q : SeqNum) (n : Nat) :
    seqNumAdd q (UInt16.ofNat n) = UInt16.ofNat (q.toNat + n) := by
  have h := seqNumAdd_ofNat q.toNat n
  rwa [UInt16.ofNat_toNat] at h

theorem seqNumSub_ofNat {m n : Nat} (h : n ≤ m) :
    seqNumSub (UInt16.ofNat m) (UInt16.ofNat n) = UInt16.ofNat (m - n) := by
  rw [seqNumSub_eq, Serial.ofNat_sub_ofNat h]

theorem seqNumSub_one {m : Nat} (h : 1 ≤ m) :
    seqNumSub (UInt16.ofNat m) 1 = UInt16.ofNat (m - 1) := seqNumSub_ofNat h

/-- Serial order agrees with the order of counts that are less than half the
circle apart. -/
theorem seqNumCmp_ofNat_nonpos {m n : Nat} (h₁ : m ≤ n + seqNumMidsize)
    (h₂ : n < m + seqNumMidsize) :
    0 ≥ seqNumCmp (UInt16.ofNat m) (UInt16.ofNat n) ↔ m ≤ n := by
  rw [seqNumCmp_nonpos_iff, Serial.dist_eq, Serial.toNat_ofNat, Serial.toNat_ofNat]
  unfold seqNumMidsize at *
  omega

theorem seqNumCmp_ofNat_neg {m n : Nat} (h₁ : m ≤ n + seqNumMidsize)
    (h₂ : n < m + seqNumMidsize) :
    0 > seqNumCmp (UInt16.ofNat m) (UInt16.ofNat n) ↔ m < n := by
  rw [seqNumCmp_neg_iff, Serial.dist_eq, Serial.toNat_ofNat, Serial.toNat_ofNat]
  unfold seqNumMidsize at *
  omega

end XrceClient
