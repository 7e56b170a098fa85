import Mathlib.Data.List.Nodup
import Mathlib.Logic.Function.Basic
import Mathlib.Tactic.Common

/-!
# Intrusive lists

Singly linked lists whose links are stored in their members. A set of members is spread over
several lists, and members move between them.

- `Linked next head xs`: from `head` the links lead through `xs` to the end.
- `Linked.push`, `Linked.frame`: a new head, and links that change elsewhere.
- `Partition univ place`: every member of `univ` is in exactly one place, and once there.
- `Partition.move`, `Partition.move_linked`: a member moves from the head of one place to the
  head of another, and the links follow.
-/

namespace LinkedList

variable {α ι : Type}

/-- From `head` the links lead through `xs`, and then to the end. -/
inductive Linked (next : α → Option α) : Option α → List α → Prop
  | nil : Linked next none []
  | cons {a : α} {xs : List α} (h : Linked next (next a) xs) : Linked next (some a) (a :: xs)

namespace Linked

variable {next next' : α → Option α} {head : Option α} {xs ys : List α}

/-- The links decide what is in a list. -/
theorem unique (h : Linked next head xs) (h' : Linked next head ys) : xs = ys := by
  induction h generalizing ys with
  | nil =>
    cases h'
    rfl
  | cons _ ih =>
    cases h' with
    | cons h' => rw [ih h']

theorem nil_iff (h : Linked next head xs) : xs = [] ↔ head = none := by
  cases h with
  | nil => exact ⟨fun _ => rfl, fun _ => rfl⟩
  | cons _ => exact ⟨nofun, nofun⟩

theorem head?_eq (h : Linked next head xs) : xs.head? = head := by
  cases h <;> rfl

/-- A member in front of the list, behind which the rest is linked. -/
theorem tail {a : α} (h : Linked next (some a) xs) :
    ∃ ys, xs = a :: ys ∧ Linked next (next a) ys := by
  cases h with
  | cons h => exact ⟨_, rfl, h⟩

/-- The links of others do not matter. -/
theorem frame (h : Linked next head xs) (hsame : ∀ a ∈ xs, next' a = next a) :
    Linked next' head xs := by
  induction h with
  | nil => exact .nil
  | @cons a xs _ ih =>
    refine .cons ?_
    rw [hsame a List.mem_cons_self]
    exact ih fun b hb => hsame b (List.mem_cons_of_mem a hb)

variable [DecidableEq α]

/-- A member that was not in the list becomes its head. -/
theorem push (h : Linked next head xs) {a : α} (ha : a ∉ xs) :
    Linked (Function.update next a head) (some a) (a :: xs) := by
  refine .cons ?_
  rw [Function.update_self]
  refine h.frame fun b hb => Function.update_of_ne ?_ _ _
  rintro rfl
  exact ha hb

end Linked

/-- The list that the links lead through, as far as `fuel` members. -/
def walk (next : α → Option α) : Nat → Option α → List α
  | 0, _ => []
  | _ + 1, none => []
  | fuel + 1, some a => a :: walk next fuel (next a)

theorem Linked.walk_eq {next : α → Option α} {head : Option α} {xs : List α}
    (h : Linked next head xs) {fuel : Nat} (hfuel : xs.length ≤ fuel) :
    walk next fuel head = xs := by
  induction h generalizing fuel with
  | nil => cases fuel <;> rfl
  | cons _ ih =>
    cases fuel with
    | zero => exact absurd hfuel (Nat.not_succ_le_zero _)
    | succ fuel => rw [walk, ih (Nat.le_of_succ_le_succ hfuel)]

/-! ## Several places -/

/-- The members are spread over the places: each is in one of them, and once. -/
structure Partition (univ : α → Prop) (place : ι → List α) : Prop where
  nodup : ∀ p, (place p).Nodup
  disjoint : ∀ {p q a}, a ∈ place p → a ∈ place q → p = q
  covers : ∀ a, univ a ↔ ∃ p, a ∈ place p

namespace Partition

variable [DecidableEq ι] {univ : α → Prop} {place : ι → List α}

/-- The places after the head of one moved to the head of another. -/
def moved (place : ι → List α) (source target : ι) (a : α) (rest : List α) : ι → List α :=
  let place := Function.update place source rest
  Function.update place target (a :: place target)

theorem mem_moved {source target : ι} {a : α} {rest : List α}
    (hsource : place source = a :: rest) (p : ι) (b : α) :
    b ∈ moved place source target a rest p ↔
      (b = a ∧ p = target) ∨ (b ∈ (if p = source then rest else place p)) := by
  rw [moved]
  by_cases htarget : p = target
  · subst htarget
    rw [Function.update_self, List.mem_cons, Function.update_apply]
    constructor
    · rintro (rfl | hmem)
      · exact .inl ⟨rfl, rfl⟩
      · exact .inr hmem
    · rintro (⟨rfl, -⟩ | hmem)
      · exact .inl rfl
      · exact .inr hmem
  · rw [Function.update_of_ne htarget, Function.update_apply]
    constructor
    · exact .inr
    · rintro (⟨-, heq⟩ | hmem)
      · exact absurd heq htarget
      · exact hmem

/-- A member moves from the head of one place to the head of another. -/
theorem move (h : Partition univ place) {source target : ι} {a : α} {rest : List α}
    (hsource : place source = a :: rest) :
    Partition univ (moved place source target a rest) := by
  have hnodup : (a :: rest).Nodup := hsource ▸ h.nodup source
  obtain ⟨harest, hrest⟩ := List.nodup_cons.mp hnodup
  have hout (p : ι) : a ∉ (if p = source then rest else place p) := by
    split
    · exact harest
    · rename_i hne
      intro hmem
      exact hne (h.disjoint hmem (hsource ▸ List.mem_cons_self))
  have hsub {p : ι} {b : α} (hmem : b ∈ (if p = source then rest else place p)) :
      b ∈ place p := by
    split at hmem
    · rename_i heq
      rw [heq, hsource]
      exact List.mem_cons_of_mem a hmem
    · exact hmem
  refine ⟨fun p => ?_, fun {p q b} hp hq => ?_, fun b => ?_⟩
  · have hkept : (if p = source then rest else place p).Nodup := by
      split
      · exact hrest
      · exact h.nodup p
    rw [moved]
    by_cases htarget : p = target
    · subst htarget
      rw [Function.update_self, Function.update_apply]
      exact List.nodup_cons.mpr ⟨hout p, hkept⟩
    · rw [Function.update_of_ne htarget, Function.update_apply]
      exact hkept
  · rw [mem_moved hsource] at hp hq
    rcases hp with ⟨rfl, rfl⟩ | hp
    · rcases hq with ⟨-, rfl⟩ | hq
      · rfl
      · exact absurd hq (hout q)
    · rcases hq with ⟨rfl, -⟩ | hq
      · exact absurd hp (hout p)
      · exact h.disjoint (hsub hp) (hsub hq)
  · rw [h.covers b]
    constructor
    · rintro ⟨p, hmem⟩
      by_cases hp : p = source
      · rw [hp, hsource] at hmem
        rcases List.mem_cons.mp hmem with rfl | hmem
        · exact ⟨target, (mem_moved hsource _ _).mpr (.inl ⟨rfl, rfl⟩)⟩
        · exact ⟨source, (mem_moved hsource _ _).mpr (.inr (by rwa [if_pos rfl]))⟩
      · exact ⟨p, (mem_moved hsource _ _).mpr (.inr (by rwa [if_neg hp]))⟩
    · rintro ⟨p, hmem⟩
      rcases (mem_moved hsource _ _).mp hmem with ⟨rfl, -⟩ | hmem
      · exact ⟨source, hsource ▸ List.mem_cons_self⟩
      · exact ⟨p, hsub hmem⟩

/-- The lists after a member moved. Some of the places are lists with a head, and in the others
the links do not count. -/
theorem move_linked [DecidableEq α] (h : Partition univ place) {listed : ι → Prop}
    {next next' : α → Option α} {heads heads' : ι → Option α}
    (hlists : ∀ p, listed p → Linked next (heads p) (place p)) {source target : ι} {a : α}
    {rest : List α} (hsource : place source = a :: rest) (hne : source ≠ target)
    (hnext : ∀ b, b ≠ a → next' b = next b)
    (hother : ∀ p, listed p → p ≠ source → p ≠ target → heads' p = heads p)
    (hleft : listed source → heads' source = next a)
    (hentered : listed target → heads' target = some a ∧ next' a = heads target) (p : ι)
    (hp : listed p) : Linked next' (heads' p) (moved place source target a rest p) := by
  have hnotin (q : ι) (hq : q ≠ source) : a ∉ place q := by
    intro hmem
    exact hq (h.disjoint hmem (hsource ▸ List.mem_cons_self))
  have hkeep {head : Option α} {xs : List α} (hlinked : Linked next head xs) (ha : a ∉ xs) :
      Linked next' head xs := by
    refine hlinked.frame fun b hb => hnext b ?_
    rintro rfl
    exact ha hb
  rw [moved]
  by_cases htarget : p = target
  · subst htarget
    obtain ⟨hhead, hlink⟩ := hentered hp
    rw [Function.update_self, Function.update_of_ne hne.symm, hhead]
    refine .cons ?_
    rw [hlink]
    exact hkeep (hlists p hp) (hnotin p hne.symm)
  · rw [Function.update_of_ne htarget]
    by_cases hp' : p = source
    · subst hp'
      have hnodup : (a :: rest).Nodup := hsource ▸ h.nodup p
      have hlinked := hlists p hp
      rw [hsource] at hlinked
      have hhead : heads p = some a := hlinked.head?_eq.symm
      rw [hhead] at hlinked
      obtain ⟨ys, hys, hrest⟩ := hlinked.tail
      cases hys
      rw [Function.update_self, hleft hp]
      exact hkeep hrest (List.nodup_cons.mp hnodup).1
    · rw [Function.update_of_ne hp', hother p hp hp' htarget]
      exact hkeep (hlists p hp) (hnotin p hp')

end Partition

end LinkedList
