import Mathlib.Data.List.Basic
import Mathlib.Tactic.Common

/-!
# Outboxes

Items are packed into messages, and the messages leave in the order in which they were begun.

- `Outbox`: the messages that are closed, oldest first, and the one that items still go into.
- `put`, `next`, `spread`: an item goes behind the others of the current message; the current
  message is closed; several items, of which each but the first begins a message.
- `leave`: the oldest message leaves.
- `Held`: the messages are numbered from some number on, and each is as its number says. What is
  put, spread and sent keeps it so.
-/

/-- Messages on their way out. -/
structure Outbox (α : Type*) where
  closed : List (List α)
  current : List α
  deriving DecidableEq, Repr

namespace Outbox

variable {α : Type*}

/-- Nothing is on its way. -/
def empty : Outbox α where
  closed := []
  current := []

/-- One more item in the current message. -/
def put (box : Outbox α) (item : α) : Outbox α :=
  { box with current := box.current ++ [item] }

/-- The current message is closed. -/
def next (box : Outbox α) : Outbox α where
  closed := box.closed ++ [box.current]
  current := []

/-- Items that each begin a message. -/
def spread (box : Outbox α) (items : List α) : Outbox α :=
  items.foldl (fun box item => box.next.put item) box

/-- The oldest message leaves, unless there is nothing in it. -/
def leave : Outbox α → Option (List α × Outbox α)
  | { closed := message :: closed, current } => some (message, { closed, current })
  | { closed := [], current := [] } => none
  | { closed := [], current } => some (current, empty)

@[simp] theorem put_closed (box : Outbox α) (item : α) : (box.put item).closed = box.closed := rfl

@[simp] theorem put_current (box : Outbox α) (item : α) :
    (box.put item).current = box.current ++ [item] := rfl

@[simp] theorem next_closed (box : Outbox α) : box.next.closed = box.closed ++ [box.current] := rfl

@[simp] theorem next_current (box : Outbox α) : box.next.current = [] := rfl

theorem leave_closed (message : List α) (closed : List (List α)) (current : List α) :
    leave { closed := message :: closed, current } = some (message, { closed, current }) := rfl

theorem leave_current {current : List α} (h : current ≠ []) :
    leave { closed := [], current } = some (current, empty) := by
  cases current with
  | nil => exact absurd rfl h
  | cons item items => rfl

/-! ## Numbered messages -/

/-- The messages are numbered from `start` on, and `P` holds of each and its number. -/
structure Held (P : Nat → List α → Prop) (start : Nat) (box : Outbox α) : Prop where
  closed : ∀ i message, box.closed[i]? = some message → P (start + i) message
  current : P (start + box.closed.length) box.current

variable {P Q : Nat → List α → Prop} {start : Nat} {box : Outbox α}

/-- Only the messages that are there matter. -/
theorem Held.imp (h : box.Held P start)
    (hkept : ∀ n message, start ≤ n → n ≤ start + box.closed.length → P n message → Q n message) :
    box.Held Q start where
  closed i message hmessage := by
    have hlt := (List.getElem?_eq_some_iff.mp hmessage).1
    exact hkept _ _ (Nat.le_add_right _ _) (Nat.add_le_add_left (Nat.le_of_lt hlt) _)
      (h.closed i message hmessage)
  current := hkept _ _ (Nat.le_add_right _ _) (Nat.le_refl _) h.current

/-- An item in the current message. -/
theorem Held.put {item : α} (h : box.Held P start)
    (hitem : Q (start + box.closed.length) (box.current ++ [item]))
    (hkept : ∀ n message, start ≤ n → n < start + box.closed.length → P n message → Q n message) :
    (box.put item).Held Q start where
  closed i message hmessage := by
    have hlt := (List.getElem?_eq_some_iff.mp hmessage).1
    exact hkept _ _ (Nat.le_add_right _ _) (Nat.add_lt_add_left hlt _)
      (h.closed i message hmessage)
  current := hitem

/-- An item that begins a message. -/
theorem Held.nextPut {item : α} (h : box.Held P start)
    (hitem : P (start + box.closed.length + 1) [item]) : (box.next.put item).Held P start where
  closed i message hmessage := by
    rw [put_closed, next_closed, List.getElem?_append] at hmessage
    split at hmessage
    · exact h.closed i message hmessage
    · next hlast =>
      obtain ⟨hlt, rfl⟩ := List.getElem?_eq_some_iff.mp hmessage
      rw [List.length_singleton] at hlt
      obtain rfl : i = box.closed.length := by omega
      simpa using h.current
  current := by
    rw [put_closed, next_closed, List.length_append, List.length_singleton]
    exact hitem

theorem length_nextPut (box : Outbox α) (item : α) :
    (box.next.put item).closed.length = box.closed.length + 1 := by
  rw [put_closed, next_closed, List.length_append, List.length_singleton]

theorem length_spread (box : Outbox α) (items : List α) :
    (box.spread items).closed.length = box.closed.length + items.length := by
  induction items generalizing box with
  | nil => rfl
  | cons item items ih =>
    have hrest := ih (box.next.put item)
    rw [length_nextPut] at hrest
    rw [List.length_cons]
    exact hrest.trans (by omega)

/-- Items that each begin a message. -/
theorem Held.spread {items : List α} (h : box.Held P start)
    (hitems : ∀ i item, items[i]? = some item → P (start + box.closed.length + 1 + i) [item]) :
    (box.spread items).Held P start := by
  induction items generalizing box with
  | nil => exact h
  | cons item items ih =>
    have hfirst := hitems 0 item rfl
    refine @ih (box.next.put item) (h.nextPut hfirst) fun i item' hitem' => ?_
    have hlater := hitems (i + 1) item' hitem'
    rw [length_nextPut]
    rwa [show start + (box.closed.length + 1) + 1 + i = start + box.closed.length + 1 + (i + 1) by
      omega]

/-- The messages behind the one that leaves. -/
theorem Held.behind {message : List α} {closed : List (List α)} {current : List α}
    (h : Held P start { closed := message :: closed, current }) :
    P start message ∧ Held P (start + 1) { closed, current } := by
  refine ⟨h.closed 0 message rfl, fun i later hlater => ?_, ?_⟩
  · rw [Nat.add_assoc, Nat.add_comm 1]
    exact h.closed (i + 1) later hlater
  · have hcurrent := h.current
    rw [List.length_cons] at hcurrent
    rw [Nat.add_assoc, Nat.add_comm 1]
    exact hcurrent

end Outbox
