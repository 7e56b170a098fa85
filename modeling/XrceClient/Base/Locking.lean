import XrceClient.Base.Program
import Mathlib.Logic.Relation
import Mathlib.Logic.Function.Basic

/-!
# Threads and locks

Threads that share a state and take recursive mutexes, in any interleaving.

- `LockOp`: a thread takes a mutex, releases one, or acts on the shared state.
- `LockStep`: one of the threads goes on. It waits for a mutex that another one holds.
- `StepDisciplined`: a step changes only what is guarded by a mutex that its thread holds, and
  releases the mutex that the matching lock took.
- `KeepsLocks`: a thread follows the discipline exactly as far as its acts meet their conditions,
  whatever the others do in between. It is checked operation by operation, with `keeps_bind`,
  `keeps_locked` and `keepsHeld_foldlM`.
- `disciplined_iff`: so do the threads in every interleaving.
- `exclusive_run`: no two threads hold a mutex, and so what it guards is changed by its holder only.
- `LockThread.only`: a system of one thread, which runs as far as the thread goes.
- `alone`: a thread that nobody interrupts.
-/

open Relation

/-- The operations of a thread on a state `σ` with the mutexes `μ`. Which mutex is meant is looked
up when the operation takes place; where there is none, none is taken. A key says which unlock
belongs to which lock, and the acts have names in `ι`. -/
inductive LockOp (κ μ σ ι : Type) : Type → Type 1
  | lock (key : κ) (pick : σ → Option μ) : LockOp κ μ σ ι PUnit
  | unlock (key : κ) (pick : σ → Option μ) : LockOp κ μ σ ι PUnit
  | act {β : Type} (name : ι) (f : σ → β × σ) : LockOp κ μ σ ι β

/-- What a thread does. -/
abbrev Threaded (κ μ σ ι : Type) := Program (LockOp κ μ σ ι)

/-- What is left of a thread, and what its open locks took, the last one first. -/
structure LockThread (κ μ σ ι : Type) where
  rest : Threaded κ μ σ ι PUnit
  held : List (κ × Option μ)

/-- Threads that share a state. -/
structure LockSystem (θ κ μ σ ι : Type) where
  shared : σ
  threads : θ → LockThread κ μ σ ι

/-- What happens in a step. -/
inductive LockEvent (κ μ ι : Type) where
  | took (key : κ) (mutex : Option μ)
  | released (key : κ) (mutex : Option μ)
  | acted (name : ι)
  deriving DecidableEq, Repr

section

variable {θ κ μ σ ι : Type} [DecidableEq θ] [DecidableEq κ] [DecidableEq μ] {α β : Type}

/-- An open lock of the thread took the mutex. -/
def LockThread.Holds (t : LockThread κ μ σ ι) (m : μ) : Prop := ∃ key, (key, some m) ∈ t.held

/-- The next operation of a thread. -/
def LockThread.next (t : LockThread κ μ σ ι) (s : σ) :
    Option (LockEvent κ μ ι × σ × LockThread κ μ σ ι) :=
  match t.rest with
  | .done _ => none
  | .step (.lock key pick) next =>
    some (.took key (pick s), s, { rest := next ⟨⟩, held := (key, pick s) :: t.held })
  | .step (.unlock key pick) next =>
    some (.released key (pick s), s, { rest := next ⟨⟩, held := t.held.erase (key, pick s) })
  | .step (.act name f) next => some (.acted name, (f s).2, { t with rest := next (f s).1 })

/-- A step of a thread. It does not take a mutex that another one holds. -/
inductive LockStep (i : θ) :
    LockEvent κ μ ι → LockSystem θ κ μ σ ι → LockSystem θ κ μ σ ι → Prop
  | intro {sys : LockSystem θ κ μ σ ι} {event : LockEvent κ μ ι} {s : σ} {t : LockThread κ μ σ ι}
    (hnext : (sys.threads i).next sys.shared = some (event, s, t))
    (hfree : ∀ key m, event = .took key (some m) → ∀ j, j ≠ i → ¬ (sys.threads j).Holds m) :
    LockStep i event sys { shared := s, threads := Function.update sys.threads i t }

/-- What the mutexes guard: `changes m s s'` if what `m` guards is different in `s'`. An act is to
be guarded if it meets its condition, and `inv` holds all along. -/
structure LockDiscipline (μ σ ι : Type) where
  inv : σ → Prop
  meets : ι → σ → Prop
  changes : μ → σ → σ → Prop
  not_changes : ∀ m s, ¬ changes m s s

variable (d : LockDiscipline μ σ ι)

/-- A step changes only what is guarded by a mutex that its thread holds, and releases the mutex
that the last open lock with its key took. -/
structure StepDisciplined (i : θ) (event : LockEvent κ μ ι) (sys sys' : LockSystem θ κ μ σ ι) :
    Prop where
  guarded : ∀ m, d.changes m sys.shared sys'.shared → (sys.threads i).Holds m
  matched : ∀ key mutex, event = .released key mutex →
    (sys.threads i).held.lookup key = some mutex

/-- An act meets its condition. -/
def LockEvent.Meets (event : LockEvent κ μ ι) (s : σ) : Prop :=
  ∀ name, event = .acted name → d.meets name s

/-- One of the threads goes on. -/
def LockSystem.Step (sys sys' : LockSystem θ κ μ σ ι) : Prop := ∃ i event, LockStep i event sys sys'

/-! ## One thread -/

/-- What an operation does for the discipline: `Q` holds of its result and of what is held then,
whatever the others have made of the state. -/
def LockOp.KeepsLocks :
    LockOp κ μ σ ι β → List (κ × Option μ) → (β → List (κ × Option μ) → Prop) → Prop
  | .lock key pick, held, Q => ∀ s, d.inv s → Q ⟨⟩ ((key, pick s) :: held)
  | .unlock key pick, held, Q =>
    ∃ mutex, held.lookup key = some mutex ∧ (∀ s, d.inv s → pick s = mutex) ∧
      Q ⟨⟩ (held.erase (key, mutex))
  | .act name f, held, Q => ∀ s, d.inv s → d.inv (f s).2 ∧
    ((∀ m, d.changes m s (f s).2 → ∃ key, (key, some m) ∈ held) ↔ d.meets name s) ∧ Q (f s).1 held

/-- A thread follows the discipline as far as its acts meet their conditions, and `Q` holds in the
end. -/
def KeepsLocks : Threaded κ μ σ ι α → List (κ × Option μ) →
    (α → List (κ × Option μ) → Prop) → Prop
  | .done a, held, Q => Q a held
  | .step op next, held, Q => op.KeepsLocks d held fun b held => KeepsLocks (next b) held Q

/-- A thread does so, and has no other open locks in the end. -/
def KeepsHeld (p : Threaded κ μ σ ι α) (held : List (κ × Option μ)) : Prop :=
  KeepsLocks d p held fun _ held' => held' = held

variable {d} {held : List (κ × Option μ)}

theorem LockOp.KeepsLocks.mono {op : LockOp κ μ σ ι β} {Q Q' : β → List (κ × Option μ) → Prop}
    (h : op.KeepsLocks d held Q) (hQ : ∀ b held, Q b held → Q' b held) :
    op.KeepsLocks d held Q' := by
  cases op with
  | lock key pick => exact fun s hs => hQ _ _ (h s hs)
  | unlock key pick =>
    obtain ⟨mutex, hheld, hpick, hrest⟩ := h
    exact ⟨mutex, hheld, hpick, hQ _ _ hrest⟩
  | act name f =>
    intro s hs
    obtain ⟨hinv, hguarded, hresult⟩ := h s hs
    exact ⟨hinv, hguarded, hQ _ _ hresult⟩

theorem KeepsLocks.mono {p : Threaded κ μ σ ι α} {Q Q' : α → List (κ × Option μ) → Prop}
    (h : KeepsLocks d p held Q) (hQ : ∀ a held, Q a held → Q' a held) : KeepsLocks d p held Q' := by
  induction p generalizing held with
  | done a => exact hQ _ _ h
  | step op next ih => exact LockOp.KeepsLocks.mono h fun b _ hb => ih b hb

/-- One part after the other. -/
theorem keeps_bind {p : Threaded κ μ σ ι α} {f : α → Threaded κ μ σ ι β}
    {Q : β → List (κ × Option μ) → Prop}
    (h : KeepsLocks d p held fun a held => KeepsLocks d (f a) held Q) :
    KeepsLocks d (p >>= f) held Q := by
  induction p generalizing held with
  | done a => exact h
  | step op next ih => exact LockOp.KeepsLocks.mono h fun b _ hb => ih b hb

theorem KeepsHeld.bind {p : Threaded κ μ σ ι α} {f : α → Threaded κ μ σ ι β}
    {Q : β → List (κ × Option μ) → Prop} (hp : KeepsHeld d p held)
    (hf : ∀ a, KeepsLocks d (f a) held Q) : KeepsLocks d (p >>= f) held Q := by
  refine keeps_bind (hp.mono ?_)
  rintro a _ rfl
  exact hf a

theorem keepsHeld_pure (a : α) : KeepsHeld d (pure a : Threaded κ μ σ ι α) held := rfl

/-- A loop over a list. -/
theorem keepsHeld_foldlM {γ : Type} {f : β → γ → Threaded κ μ σ ι β} {xs : List γ}
    (hf : ∀ b, ∀ x ∈ xs, KeepsHeld d (f b x) held) (b : β) :
    KeepsHeld d (xs.foldlM f b) held := by
  induction xs generalizing b with
  | nil => exact rfl
  | cons x xs ih =>
    rw [List.foldlM_cons]
    exact (hf b x List.mem_cons_self).bind fun b' =>
      ih (fun b x hx => hf b x (List.mem_cons_of_mem _ hx)) b'

/-- Between a lock and its unlock. -/
def locked (key : κ) (pick : σ → Option μ) (p : Threaded κ μ σ ι α) : Threaded κ μ σ ι α := do
  Program.call (.lock key pick)
  let a ← p
  Program.call (.unlock key pick)
  return a

omit [DecidableEq μ] in
theorem lookup_cons_self (key : κ) (mutex : Option μ) :
    ((key, mutex) :: held).lookup key = some mutex := by
  rw [List.lookup_cons, beq_self_eq_true]

/-- The mutex is the same one in every state, so that the unlock releases what the lock took. -/
theorem keeps_locked {key : κ} {pick : σ → Option μ} {p : Threaded κ μ σ ι α}
    (hpick : ∀ s s', d.inv s → d.inv s' → pick s' = pick s)
    (hp : ∀ s, d.inv s → KeepsHeld d p ((key, pick s) :: held)) :
    KeepsHeld d (locked key pick p) held := by
  intro s hs
  refine (hp s hs).bind fun a => ?_
  refine ⟨pick s, lookup_cons_self key _, fun s' hs' => hpick s s' hs hs', ?_⟩
  exact List.erase_cons_head _ _

/-- Locks of several mutexes, one after the other. -/
def lockEach : List (κ × μ) → Threaded κ μ σ ι PUnit
  | [] => pure ⟨⟩
  | (key, m) :: keys => do
    Program.call (.lock key fun _ => some m)
    lockEach keys

/-- The unlocks, in the order of the locks. -/
def unlockEach : List (κ × μ) → Threaded κ μ σ ι PUnit
  | [] => pure ⟨⟩
  | (key, m) :: keys => do
    Program.call (.unlock key fun _ => some m)
    unlockEach keys

/-- What the locks of several mutexes leave open. -/
def openLocks (keys : List (κ × μ)) : List (κ × Option μ) :=
  (keys.map (Prod.map id some)).reverse

omit [DecidableEq κ] [DecidableEq μ] in
theorem openLocks_cons (key : κ) (m : μ) (keys : List (κ × μ)) :
    openLocks ((key, m) :: keys) = openLocks keys ++ [(key, some m)] := by
  rw [openLocks, List.map_cons, List.reverse_cons]
  rfl

theorem keeps_lockEach {keys : List (κ × μ)} {Q : PUnit → List (κ × Option μ) → Prop}
    (h : Q ⟨⟩ (openLocks keys ++ held)) :
    KeepsLocks d (lockEach keys : Threaded κ μ σ ι PUnit) held Q := by
  induction keys generalizing held with
  | nil => exact h
  | cons key keys ih =>
    intro s _
    refine ih ?_
    rw [openLocks_cons, List.append_assoc] at h
    exact h

theorem keepsHeld_unlockEach {keys : List (κ × μ)} (hkeys : (keys.map Prod.fst).Nodup) :
    KeepsLocks d (unlockEach keys : Threaded κ μ σ ι PUnit) (openLocks keys ++ held)
      fun _ held' => held' = held := by
  induction keys with
  | nil => exact rfl
  | cons key keys ih =>
    obtain ⟨key, m⟩ := key
    obtain ⟨hnew, hkeys⟩ := List.nodup_cons.mp hkeys
    have hother : ∀ entry ∈ openLocks keys, entry.1 ≠ key := by
      rintro entry hentry rfl
      obtain ⟨other, hmem, rfl⟩ := List.mem_map.mp (List.mem_reverse.mp hentry)
      have hkey : other.1 ∈ keys.map Prod.fst := List.mem_map_of_mem hmem
      exact hnew hkey
    rw [openLocks_cons, List.append_assoc, List.singleton_append]
    refine ⟨some m, ?_, fun _ _ => rfl, ?_⟩
    · have hnone : (openLocks keys).lookup key = none := by
        refine List.lookup_eq_none_iff.mpr fun entry hentry => ?_
        simpa using (hother entry hentry).symm
      rw [List.lookup_append, hnone, lookup_cons_self]
      rfl
    · have hnot : (key, some m) ∉ openLocks keys := fun hmem => hother _ hmem rfl
      rw [List.erase_append_right _ hnot, List.erase_cons_head]
      exact ih hkeys

/-- Between the locks of several mutexes and their unlocks. -/
theorem keepsHeld_lockedEach {keys : List (κ × μ)} (hkeys : (keys.map Prod.fst).Nodup)
    {p : Threaded κ μ σ ι α} (hp : KeepsHeld d p (openLocks keys ++ held)) :
    KeepsHeld d (do lockEach keys; let a ← p; unlockEach keys; return a) held := by
  refine keeps_bind (keeps_lockEach ?_)
  refine hp.bind fun a => keeps_bind ?_
  refine (keepsHeld_unlockEach hkeys).mono ?_
  rintro _ _ rfl
  exact rfl

/-! ## All threads -/

/-- What is left of the threads follows the discipline. -/
structure LockSystem.Disciplined (d : LockDiscipline μ σ ι) (sys : LockSystem θ κ μ σ ι) :
    Prop where
  inv : d.inv sys.shared
  keeps : ∀ i, KeepsLocks d (sys.threads i).rest (sys.threads i).held fun _ _ => True

/-- What one thread does by itself. -/
theorem LockThread.next_disciplined {t t' : LockThread κ μ σ ι} {s s' : σ}
    {event : LockEvent κ μ ι} (hinv : d.inv s) (hkeeps : KeepsLocks d t.rest t.held fun _ _ => True)
    (hnext : t.next s = some (event, s', t')) :
    (d.inv s' ∧ KeepsLocks d t'.rest t'.held fun _ _ => True) ∧
      ((∀ m, d.changes m s s' → t.Holds m) ↔ event.Meets d s) ∧
      ∀ key mutex, event = .released key mutex → t.held.lookup key = some mutex := by
  have hsame (Holds : μ → Prop) : ∀ m, d.changes m s s → Holds m :=
    fun m hchanges => absurd hchanges (d.not_changes m s)
  obtain ⟨rest, held⟩ := t
  cases rest with
  | done a => cases hnext
  | step op next =>
    cases op with
    | lock key pick =>
      cases hnext
      refine ⟨⟨hinv, hkeeps s hinv⟩, iff_of_true (hsame _) ?_, ?_⟩
      · rintro _ ⟨⟩
      · rintro _ _ ⟨⟩
    | unlock key pick =>
      cases hnext
      obtain ⟨mutex, hheld, hpick, hrest⟩ := hkeeps
      have hpicked := hpick s hinv
      refine ⟨⟨hinv, ?_⟩, iff_of_true (hsame _) ?_, ?_⟩
      · rw [hpicked]
        exact hrest
      · rintro _ ⟨⟩
      · rintro _ _ ⟨⟩
        rw [hpicked]
        exact hheld
    | act name f =>
      cases hnext
      obtain ⟨hinv', hguarded, hrest⟩ := hkeeps s hinv
      refine ⟨⟨hinv', hrest⟩, hguarded.trans ⟨?_, fun hmeets => hmeets name rfl⟩, ?_⟩
      · rintro hmeets _ ⟨⟩
        exact hmeets
      · rintro _ _ ⟨⟩

/-- What one step preserves, and what it does for the discipline. -/
theorem LockSystem.Disciplined.step {sys sys' : LockSystem θ κ μ σ ι} {i : θ}
    {event : LockEvent κ μ ι} (h : sys.Disciplined d) (hstep : LockStep i event sys sys') :
    (StepDisciplined d i event sys sys' ↔ event.Meets d sys.shared) ∧ sys'.Disciplined d := by
  obtain ⟨hnext, -⟩ := hstep
  rename_i s t
  obtain ⟨⟨hinv, hkeeps⟩, hguarded, hmatched⟩ :=
    LockThread.next_disciplined h.inv (h.keeps i) hnext
  refine ⟨⟨fun hstep => hguarded.mp hstep.guarded, fun hmeets => ⟨hguarded.mpr hmeets, hmatched⟩⟩,
    hinv, fun j => ?_⟩
  by_cases hij : j = i
  · subst hij
    dsimp only
    rw [Function.update_self]
    exact hkeeps
  · dsimp only
    rw [Function.update_of_ne hij]
    exact h.keeps j

/-- What a run preserves. -/
theorem disciplined_run {sys sys' : LockSystem θ κ μ σ ι} (h : sys.Disciplined d)
    (hrun : ReflTransGen LockSystem.Step sys sys') : sys'.Disciplined d := by
  induction hrun with
  | refl => exact h
  | tail _ hstep ih =>
    obtain ⟨i, event, hstep⟩ := hstep
    exact (ih.step hstep).2

/-- In every run, the steps that follow the discipline are those whose acts meet their
conditions. -/
theorem disciplined_iff {start sys sys' : LockSystem θ κ μ σ ι} {i : θ} {event : LockEvent κ μ ι}
    (h : start.Disciplined d) (hrun : ReflTransGen LockSystem.Step start sys)
    (hstep : LockStep i event sys sys') :
    StepDisciplined d i event sys sys' ↔ event.Meets d sys.shared :=
  ((disciplined_run h hrun).step hstep).1

/-! ## Mutual exclusion -/

/-- No two threads hold a mutex. -/
def LockSystem.Exclusive (sys : LockSystem θ κ μ σ ι) : Prop :=
  ∀ i j m, (sys.threads i).Holds m → (sys.threads j).Holds m → i = j

omit [DecidableEq θ] in
/-- A thread holds what it held, or what it takes. -/
theorem LockThread.next_holds {t t' : LockThread κ μ σ ι} {s s' : σ} {event : LockEvent κ μ ι}
    (hnext : t.next s = some (event, s', t')) {m : μ} (hholds : t'.Holds m) :
    t.Holds m ∨ ∃ key, event = .took key (some m) := by
  obtain ⟨rest, held⟩ := t
  obtain ⟨key', hmem⟩ := hholds
  cases rest with
  | done a => cases hnext
  | step op next =>
    cases op with
    | lock key pick =>
      cases hnext
      rcases List.mem_cons.mp hmem with heq | hmem
      · obtain ⟨-, hpick⟩ := Prod.mk.inj heq
        exact .inr ⟨key, by rw [hpick]⟩
      · exact .inl ⟨key', hmem⟩
    | unlock key pick =>
      cases hnext
      exact .inl ⟨key', List.mem_of_mem_erase hmem⟩
    | act name f =>
      cases hnext
      exact .inl ⟨key', hmem⟩

theorem LockSystem.Exclusive.step {sys sys' : LockSystem θ κ μ σ ι} {i : θ}
    {event : LockEvent κ μ ι} (h : sys.Exclusive) (hstep : LockStep i event sys sys') :
    sys'.Exclusive := by
  obtain ⟨hnext, hfree⟩ := hstep
  rename_i s t
  -- a mutex that the thread holds now is held by no other one
  have hown : ∀ j m, j ≠ i → t.Holds m → ¬ (sys.threads j).Holds m := by
    intro j m hj hholds hother
    rcases LockThread.next_holds hnext hholds with hheld | ⟨key, htook⟩
    · exact hj (h j i m hother hheld)
    · exact hfree key m htook j hj hother
  intro j j' m hj hj'
  dsimp only at hj hj'
  by_cases hji : j = i
  · by_cases hji' : j' = i
    · rw [hji, hji']
    · rw [hji, Function.update_self] at hj
      rw [Function.update_of_ne hji'] at hj'
      exact absurd hj' (hown j' m hji' hj)
  · rw [Function.update_of_ne hji] at hj
    by_cases hji' : j' = i
    · rw [hji', Function.update_self] at hj'
      exact absurd hj (hown j m hji hj')
    · rw [Function.update_of_ne hji'] at hj'
      exact h j j' m hj hj'

theorem exclusive_run {sys sys' : LockSystem θ κ μ σ ι} (h : sys.Exclusive)
    (hrun : ReflTransGen LockSystem.Step sys sys') : sys'.Exclusive := by
  induction hrun with
  | refl => exact h
  | tail _ hstep ih =>
    obtain ⟨i, event, hstep⟩ := hstep
    exact ih.step hstep

omit [DecidableEq θ] [DecidableEq μ] in
/-- While a thread holds a mutex, the steps of the others leave alone what it guards. -/
theorem StepDisciplined.not_changes {sys sys' : LockSystem θ κ μ σ ι} {i j : θ}
    {event : LockEvent κ μ ι} (h : StepDisciplined d i event sys sys') (hexclusive : sys.Exclusive)
    (hij : i ≠ j) {m : μ} (hholds : (sys.threads j).Holds m) :
    ¬ d.changes m sys.shared sys'.shared :=
  fun hchanges => hij (hexclusive i j m (h.guarded m hchanges) hholds)

end

/-! ## One thread only -/

section

variable {κ μ σ ι : Type} [DecidableEq κ] [DecidableEq μ] {t t' : LockThread κ μ σ ι} {s s' : σ}

/-- A thread that goes on a number of times. -/
def LockThread.after : Nat → LockThread κ μ σ ι → σ → Option (LockThread κ μ σ ι × σ)
  | 0, t, s => some (t, s)
  | n + 1, t, s => (t.next s).bind fun step => after n step.2.2 step.2.1

/-- No other threads. -/
def LockThread.only (t : LockThread κ μ σ ι) (s : σ) : LockSystem Unit κ μ σ ι where
  shared := s
  threads _ := t

/-- Nothing is in the way of the only thread. -/
theorem LockThread.only_step {event : LockEvent κ μ ι} (h : t.next s = some (event, s', t')) :
    LockStep () event (t.only s) (t'.only s') := by
  have hsystem : t'.only s' =
      { shared := s', threads := Function.update (t.only s).threads () t' } := by
    rw [LockThread.only]
    congr
  rw [hsystem]
  exact .intro h fun _ _ _ j hj => absurd rfl hj

theorem LockThread.only_run {n : Nat} (h : t.after n s = some (t', s')) :
    ReflTransGen LockSystem.Step (t.only s) (t'.only s') := by
  induction n generalizing t s with
  | zero =>
    cases h
    exact .refl
  | succ n ih =>
    obtain ⟨⟨event, s₁, t₁⟩, hnext, hrest⟩ := Option.bind_eq_some_iff.mp h
    exact (ih hrest).head ⟨(), event, LockThread.only_step hnext⟩

end

/-! ## A thread alone -/

section

variable {κ μ σ ι α β : Type}

/-- An operation of a thread that no other one is in the way of. -/
def LockOp.alone : LockOp κ μ σ ι β → σ → β × σ
  | .lock _ _, s => (⟨⟩, s)
  | .unlock _ _, s => (⟨⟩, s)
  | .act _ f, s => f s

/-- A thread that nobody interrupts. -/
def alone (p : Threaded κ μ σ ι α) (s : σ) : α × σ := p.run LockOp.alone s

@[simp] theorem alone_pure (a : α) (s : σ) : alone (pure a : Threaded κ μ σ ι α) s = (a, s) := rfl

@[simp] theorem alone_bind (p : Threaded κ μ σ ι α) (f : α → Threaded κ μ σ ι β) (s : σ) :
    alone (p >>= f) s = alone (f (alone p s).1) (alone p s).2 := Program.run_bind _ p f s

@[simp] theorem alone_act (name : ι) (f : σ → β × σ) (s : σ) :
    alone (Program.call (LockOp.act name f) : Threaded κ μ σ ι β) s = f s := rfl

@[simp] theorem alone_locked (key : κ) (pick : σ → Option μ) (p : Threaded κ μ σ ι α) (s : σ) :
    alone (locked key pick p) s = alone p s := by
  rw [locked, alone_bind, alone_bind, alone_bind]
  rfl

@[simp] theorem alone_lockEach (keys : List (κ × μ)) (s : σ) :
    alone (lockEach keys : Threaded κ μ σ ι PUnit) s = (⟨⟩, s) := by
  induction keys with
  | nil => rfl
  | cons key keys ih =>
    rw [lockEach, alone_bind]
    exact ih

@[simp] theorem alone_unlockEach (keys : List (κ × μ)) (s : σ) :
    alone (unlockEach keys : Threaded κ μ σ ι PUnit) s = (⟨⟩, s) := by
  induction keys with
  | nil => rfl
  | cons key keys ih =>
    rw [unlockEach, alone_bind]
    exact ih

end
