import Mathlib

/-!
# Spending

A loop that spends a budget in shares, and goes on only as long as something is left of it.

- `Share`: a share of what is left of the budget; nothing only where nothing is left.
- `Spends`: the shares of a run of the loop.
- `Spends.sum_le`, `Spends.length_le`, `Spends.share`: all of them together, their number, and each.
-/

/-- A share of a budget: no more than the budget, and nothing only where the budget is. -/
structure Share (budget amount : Int) : Prop where
  nonneg : 0 ≤ amount
  le : amount ≤ budget
  pos : 0 < budget → 0 < amount

/-- Shares of a budget, one after the other. Behind each but the last something is left. -/
inductive Spends : Int → List Int → Prop
  | nil (budget : Int) : Spends budget []
  | cons {budget amount : Int} {amounts : List Int} (share : Share budget amount)
    (more : amounts ≠ [] → amount < budget) (rest : Spends (budget - amount) amounts) :
    Spends budget (amount :: amounts)

namespace Spends

variable {budget : Int} {amounts : List Int}

theorem nonneg (h : Spends budget amounts) : ∀ amount ∈ amounts, 0 ≤ amount := by
  induction h with
  | nil => exact List.forall_mem_nil _
  | cons share _ _ ih => exact List.forall_mem_cons.mpr ⟨share.nonneg, ih⟩

theorem sum_le (h : Spends budget amounts) (hbudget : 0 ≤ budget) : amounts.sum ≤ budget := by
  induction h with
  | nil => simpa using hbudget
  | cons share _ _ ih =>
    have hrest := ih (by have := share.le; omega)
    rw [List.sum_cons]
    omega

/-- A positive budget has no more shares than units. -/
theorem length_le (h : Spends budget amounts) : amounts.length ≤ max 1 budget.toNat := by
  induction h with
  | nil => exact Nat.zero_le _
  | @cons budget amount amounts share more rest ih =>
    by_cases hlast : amounts = []
    · rw [hlast]
      exact Nat.le_max_left _ _
    · -- something is left, so that the share is not nothing
      have hleft := more hlast
      have hpos := share.pos (Int.lt_of_le_of_lt share.nonneg hleft)
      rw [List.length_cons]
      omega

/-- Each share is one of what the shares before it have left. -/
theorem share (h : Spends budget amounts) (i : Nat) (hi : i < amounts.length) :
    Share (budget - (amounts.take i).sum) amounts[i] := by
  induction h generalizing i with
  | nil => exact absurd hi (Nat.not_lt_zero i)
  | cons share _ _ ih =>
    cases i with
    | zero => simpa using share
    | succ i =>
      have hrest := ih i (Nat.lt_of_succ_lt_succ hi)
      rw [List.take_succ_cons, List.sum_cons, ← Int.sub_sub]
      exact hrest

end Spends
