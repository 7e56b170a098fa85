import Mathlib.Tactic.Common

/-!
# Fuel

A loop without a bound of its own takes a number of turns, and has no result if they are not
enough. Once it has one, more turns change nothing.

- `Steady`: a result stays, whatever is added to the fuel; `Steady.le`.
- `Steady.bind`, `Steady.map`, `Steady.ite`: so it is for what is made of steady parts.
- `Steady.unique`: two results are the same.
-/

/-- A result stays with more fuel. -/
def Steady {α : Type*} (f : Nat → Option α) : Prop :=
  ∀ ⦃n a⦄, f n = some a → f (n + 1) = some a

namespace Steady

variable {α β : Type*} {f g : Nat → Option α}

theorem le (h : Steady f) {n m : Nat} {a : α} (hn : f n = some a) (hle : n ≤ m) :
    f m = some a := by
  induction hle with
  | refl => exact hn
  | step _ ih => exact h ih

/-- Two results are the same, whatever the fuel was. -/
theorem unique (h : Steady f) {n m : Nat} {a b : α} (hn : f n = some a) (hm : f m = some b) :
    b = a := by
  rcases Nat.le_total n m with hle | hle
  · exact Option.some.inj (hm.symm.trans (h.le hn hle))
  · exact Option.some.inj ((h.le hm hle).symm.trans hn)

theorem const (a : Option α) : Steady fun _ => a := fun _ _ h => h

theorem ite {p : Prop} [Decidable p] (hf : Steady f) (hg : Steady g) :
    Steady fun n => if p then f n else g n := by
  intro n a h
  dsimp only at h ⊢
  split at h
  · next hp => rw [if_pos hp, hf h]
  · next hp => rw [if_neg hp, hg h]

theorem bind {k : α → Nat → Option β} (hf : Steady f) (hk : ∀ a, Steady (k a)) :
    Steady fun n => (f n).bind fun a => k a n := by
  intro n b h
  obtain ⟨a, ha, hb⟩ := Option.bind_eq_some_iff.mp h
  exact Option.bind_eq_some_iff.mpr ⟨a, hf ha, hk a hb⟩

theorem map (hf : Steady f) (k : α → β) : Steady fun n => (f n).map k := by
  intro n b h
  obtain ⟨a, ha, hb⟩ := Option.map_eq_some_iff.mp h
  exact Option.map_eq_some_iff.mpr ⟨a, hf ha, hb⟩

end Steady
