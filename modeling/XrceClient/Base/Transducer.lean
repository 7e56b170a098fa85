import Mathlib.Tactic.Common

/-!
# Transducers

A machine that takes its input one symbol at a time and puts out a list of results at each.
What it has put out depends on the symbols alone, and so does what is put out by a reader
that takes them in chunks, as long as each chunk does to the reader what its symbols do to
the machine.

- `run`: the machine on a list of symbols; `run_append`.
- `Consumes`: a front part of the input was taken; `Consumes.trans`.
- `ResetsAt`: a symbol after which nothing that came before counts; `run_resetsAt`.
- `Avoids`: a run that does not come to a bad step.
-/

/-- A machine with states `σ`, symbols `β` and results `ω`. -/
structure Transducer (σ β ω : Type*) where
  step : σ → β → σ × List ω

namespace Transducer

variable {σ β ω : Type*} (m : Transducer σ β ω)

/-- The state behind a list of symbols, and the results. -/
def run : σ → List β → σ × List ω
  | s, [] => (s, [])
  | s, b :: bs => ((run (m.step s b).1 bs).1, (m.step s b).2 ++ (run (m.step s b).1 bs).2)

variable {m}

@[simp] theorem run_nil (s : σ) : m.run s [] = (s, []) := rfl

theorem run_cons (s : σ) (b : β) (bs : List β) :
    m.run s (b :: bs) =
      ((m.run (m.step s b).1 bs).1, (m.step s b).2 ++ (m.run (m.step s b).1 bs).2) := rfl

theorem run_singleton (s : σ) (b : β) : m.run s [b] = m.step s b := by
  rw [run_cons, run_nil, List.append_nil]

theorem run_append (s : σ) (bs cs : List β) :
    m.run s (bs ++ cs) =
      ((m.run (m.run s bs).1 cs).1, (m.run s bs).2 ++ (m.run (m.run s bs).1 cs).2) := by
  induction bs generalizing s with
  | nil => rfl
  | cons b bs ih => rw [List.cons_append, run_cons, ih, run_cons, List.append_assoc]

/-! ## Parts of a run -/

variable (m) in
/-- A front part of the symbols was taken, which leads from one state to the other and puts out
the results. -/
def Consumes (s : σ) (bs : List β) (s' : σ) (bs' : List β) (ws : List ω) : Prop :=
  ∃ used, bs = used ++ bs' ∧ m.run s used = (s', ws)

section

variable {s s' s'' : σ} {bs bs' bs'' : List β} {ws ws' : List ω}

theorem Consumes.refl (s : σ) (bs : List β) : m.Consumes s bs s bs [] := ⟨[], rfl, rfl⟩

theorem Consumes.trans (h : m.Consumes s bs s' bs' ws) (h' : m.Consumes s' bs' s'' bs'' ws') :
    m.Consumes s bs s'' bs'' (ws ++ ws') := by
  obtain ⟨used, rfl, hrun⟩ := h
  obtain ⟨used', rfl, hrun'⟩ := h'
  refine ⟨used ++ used', (List.append_assoc ..).symm, ?_⟩
  rw [run_append, hrun, hrun']

/-- What the machine puts out on the whole is what it has put out and what it puts out on the
rest. -/
theorem Consumes.results (h : m.Consumes s bs s' bs' ws) :
    (m.run s bs).2 = ws ++ (m.run s' bs').2 := by
  obtain ⟨used, rfl, hrun⟩ := h
  rw [run_append, hrun]

end

/-! ## Resets -/

variable (m) in
/-- The symbol leads to the state from everywhere, and puts nothing out. -/
def ResetsAt (b : β) (s₀ : σ) : Prop := ∀ s, m.step s b = (s₀, [])

/-- Behind a reset the run is that of the reset state, whatever came before. -/
theorem run_resetsAt {b : β} {s₀ : σ} (h : m.ResetsAt b s₀) (s : σ) (before after : List β) :
    (m.run s (before ++ b :: after)).2 = (m.run s before).2 ++ (m.run s₀ after).2 := by
  rw [run_append, run_cons, h]
  rfl

/-! ## Runs without a bad step -/

variable (m) in
/-- No step of the run is bad. -/
def Avoids (Bad : σ → β → Prop) : σ → List β → Prop
  | _, [] => True
  | s, b :: bs => ¬ Bad s b ∧ Avoids Bad (m.step s b).1 bs

instance decidableAvoids (Bad : σ → β → Prop) [∀ s b, Decidable (Bad s b)] :
    ∀ (s : σ) (bs : List β), Decidable (m.Avoids Bad s bs)
  | _, [] => inferInstanceAs (Decidable True)
  | s, b :: bs =>
    have := decidableAvoids Bad (m.step s b).1 bs
    inferInstanceAs (Decidable (¬ Bad s b ∧ m.Avoids Bad (m.step s b).1 bs))

theorem Avoids.append {Bad : σ → β → Prop} {s : σ} {bs cs : List β}
    (h : m.Avoids Bad s (bs ++ cs)) : m.Avoids Bad (m.run s bs).1 cs := by
  induction bs generalizing s with
  | nil => exact h
  | cons b bs ih => exact ih h.2

theorem Avoids.consumes {Bad : σ → β → Prop} {s s' : σ} {bs bs' : List β} {ws : List ω}
    (h : m.Avoids Bad s bs) (hconsumes : m.Consumes s bs s' bs' ws) : m.Avoids Bad s' bs' := by
  obtain ⟨used, rfl, hrun⟩ := hconsumes
  have hrest := h.append
  rwa [hrun] at hrest

end Transducer
