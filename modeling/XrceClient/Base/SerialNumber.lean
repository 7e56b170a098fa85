import Mathlib.Data.Nat.ModEq
import Mathlib.Tactic.Common

/-!
# 16-bit serial numbers

A counter that is sent as a 16-bit number is known to the other side only
modulo `2^16`. The library relates the wire number to the unbounded count that
it stands for.

- `dist a b`: how many increments lead from `a` to `b`; serial order is the
  order of these distances from a common origin.
- `ofNat_*`: the wire image of a count, and how `dist` reads a difference of
  counts back as long as the two lie less than `2^16` apart.
- `mod_eq_of_dvd`, `eq_of_mod_eq`: a ring of `H ∣ 2^16` cells sees the same cell
  for a count and its wire image, and separates the counts of any window of `H`.
-/

namespace Serial

/-- The number of increments from `a` to `b`, wrapping. -/
def dist (a b : UInt16) : Nat := (b - a).toNat

theorem dist_eq (a b : UInt16) :
    dist a b = (65536 - a.toNat + b.toNat) % 65536 := UInt16.toNat_sub b a

theorem dist_lt (a b : UInt16) : dist a b < 65536 := UInt16.toNat_lt _

@[simp] theorem dist_self (a : UInt16) : dist a a = 0 := by simp [dist]

theorem dist_eq_zero_iff {a b : UInt16} : dist a b = 0 ↔ a = b := by
  constructor
  · intro h
    rw [dist_eq] at h
    have ha := a.toNat_lt
    have hb := b.toNat_lt
    exact UInt16.toNat_inj.mp (by omega)
  · rintro rfl
    exact dist_self a

/-- Walking the distance arrives. -/
theorem add_dist (a b : UInt16) : a + UInt16.ofNat (dist a b) = b := by
  rw [dist, UInt16.ofNat_toNat, UInt16.add_comm, UInt16.sub_add_cancel]

theorem toNat_add_ofNat (a : UInt16) (n : Nat) :
    (a + UInt16.ofNat n).toNat = (a.toNat + n) % 65536 := by
  rw [UInt16.toNat_add, UInt16.toNat_ofNat']
  omega

/-! ## Counts and their wire images -/

theorem toNat_ofNat (n : Nat) : (UInt16.ofNat n).toNat = n % 65536 := UInt16.toNat_ofNat'

/-- The wire distance of two counts less than `2^16` apart is their difference. -/
theorem dist_ofNat {m n : Nat} (hle : m ≤ n) (hlt : n < m + 65536) :
    dist (UInt16.ofNat m) (UInt16.ofNat n) = n - m := by
  rw [dist_eq, toNat_ofNat, toNat_ofNat]
  omega

/-- A count and a later one less than `2^16` ahead differ on the wire. -/
theorem ofNat_inj_of_lt {m n : Nat} (hle : m ≤ n) (hlt : n < m + 65536)
    (h : UInt16.ofNat m = UInt16.ofNat n) : m = n := by
  have hd := dist_ofNat hle hlt
  rw [h, dist_self] at hd
  omega

theorem ofNat_add_ofNat (m n : Nat) :
    UInt16.ofNat m + UInt16.ofNat n = UInt16.ofNat (m + n) :=
  (UInt16.ofNat_add m n).symm

theorem ofNat_succ (n : Nat) : UInt16.ofNat n + 1 = UInt16.ofNat (n + 1) := ofNat_add_ofNat n 1

/-- A turn of the circle leads back. -/
theorem ofNat_turn (n : Nat) : UInt16.ofNat (65536 + n) = UInt16.ofNat n := by
  apply UInt16.toNat_inj.mp
  rw [toNat_ofNat, toNat_ofNat, Nat.add_mod_left]

theorem ofNat_sub_ofNat {m n : Nat} (h : n ≤ m) :
    UInt16.ofNat m - UInt16.ofNat n = UInt16.ofNat (m - n) :=
  (UInt16.ofNat_sub h).symm

/-! ## Rings whose size divides `2^16` -/

theorem mod_eq_of_dvd {H : Nat} (hH : H ∣ 65536) (n : Nat) :
    (UInt16.ofNat n).toNat % H = n % H := by
  rw [toNat_ofNat, Nat.mod_mod_of_dvd n hH]

/-- Two counts of one window of `H` that share a ring cell are equal. -/
theorem eq_of_mod_eq {H m n : Nat} (hle : m ≤ n) (hlt : n < m + H)
    (h : m % H = n % H) : m = n := by
  have hdvd : H ∣ n - m := (Nat.modEq_iff_dvd' hle).mp h
  have : n - m = 0 := Nat.eq_zero_of_dvd_of_lt hdvd (by omega)
  omega

end Serial
