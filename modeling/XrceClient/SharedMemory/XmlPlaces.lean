import Mathlib.Data.Nat.Find
import XrceClient.SharedMemory.Matching

/-!
# Places in XML (`matching.c`)

The names in a description are found by their surroundings: a tag by its name behind an angle
bracket, its end by the same name behind a slash, and in both cases it is the first such place
that counts.

- `FirstBehind`: the first place at which something is found; `scan_eq_some_iff` says that the
  loops of the source look for it.
- `TagPlaces`: the places that `find_tag_xml` takes for a tag.
- `Taken`, `findTagXml_eq_some_iff`: the piece of the text that it finds.
- `Inside`: what is in front of the end of a piece. The length of a piece that ends in front of its
  start is so large that nothing is behind it.
-/

namespace XrceClient

open ByteMemory

/-! ## First places -/

/-- The first place behind `start` at which something is found. -/
structure FirstBehind (found : Nat → Bool) (start place : Nat) : Prop where
  behind : start < place
  holds : found place = true
  first : ∀ p < place, start < p → found p = false

namespace FirstBehind

variable {found : Nat → Bool} {start place place' : Nat}

theorem unique (h : FirstBehind found start place) (h' : FirstBehind found start place') :
    place = place' := by
  rcases Nat.lt_trichotomy place place' with hlt | heq | hlt
  · have := h'.first place hlt h.behind
    rw [h.holds] at this
    cases this
  · exact heq
  · have := h.first place' hlt h'.behind
    rw [h'.holds] at this
    cases this

/-- Where there is a place, there is a first one. -/
theorem of_place (hbehind : start < place) (hfound : found place = true) :
    ∃ first ≤ place, FirstBehind found start first := by
  have hex : ∃ p, start < p ∧ found p = true := ⟨place, hbehind, hfound⟩
  refine ⟨Nat.find hex, Nat.find_le ⟨hbehind, hfound⟩, (Nat.find_spec hex).1,
    (Nat.find_spec hex).2, ?_⟩
  intro p hp hstart
  have hnot := Nat.find_min hex hp
  simpa [hstart] using hnot

end FirstBehind

/-- A loop ends at the first place. -/
theorem scan_eq_some_iff {found : Nat → Bool} {start len : Nat} :
    ∀ {fuel i k : Nat}, scan found start len fuel i = some (some k) ↔
      i ≤ k ∧ k < len ∧ k < i + fuel ∧ found (start + k) = true ∧
        ∀ j < k, i ≤ j → found (start + j) = false := by
  intro fuel
  induction fuel with
  | zero =>
    intro i k
    unfold scan
    constructor
    · intro h
      split at h
      · cases h
      · cases h
    · rintro ⟨hik, -, hki, -⟩
      omega
  | succ fuel ih =>
    intro i k
    unfold scan
    by_cases hlen : i < len
    · by_cases hfound : found (start + i) = true
      · simp only [hlen, hfound, if_true, Option.some.injEq]
        constructor
        · rintro rfl
          exact ⟨le_rfl, hlen, by omega, hfound, fun j hj hij => by omega⟩
        · rintro ⟨hik, -, -, -, hfirst⟩
          -- the loop cannot have passed a place
          by_contra hne
          rw [hfirst i (by omega) le_rfl] at hfound
          cases hfound
      · simp only [hlen, hfound, if_true, Bool.false_eq_true, if_false, ih]
        have hfound := Bool.eq_false_iff.mpr hfound
        constructor
        · rintro ⟨hik, hk, hki, hplace, hfirst⟩
          refine ⟨by omega, hk, by omega, hplace, fun j hj hij => ?_⟩
          rcases Nat.eq_or_lt_of_le hij with rfl | hlt
          · exact hfound
          · exact hfirst j hj hlt
        · rintro ⟨hik, hk, hki, hplace, hfirst⟩
          rcases Nat.eq_or_lt_of_le hik with rfl | hlt
          · rw [hplace] at hfound
            cases hfound
          · exact ⟨hlt, hk, by omega, hplace, fun j hj hij => hfirst j hj (by omega)⟩
    · simp only [hlen, if_false]
      constructor
      · intro h
        cases h
      · rintro ⟨hik, hk, -⟩
        omega

/-- A loop that ends without a place has seen all of the text up to its end. -/
theorem scan_eq_none_iff {found : Nat → Bool} {start len : Nat} :
    ∀ {fuel i : Nat}, scan found start len fuel i = some none ↔
      len ≤ i + fuel ∧ ∀ j < len, i ≤ j → found (start + j) = false := by
  intro fuel
  induction fuel with
  | zero =>
    intro i
    unfold scan
    by_cases hlen : i < len
    · simp only [hlen, if_true]
      constructor
      · intro h
        cases h
      · rintro ⟨hle, -⟩
        omega
    · simp only [hlen, if_false, true_iff]
      exact ⟨by omega, fun j hj hij => by omega⟩
  | succ fuel ih =>
    intro i
    unfold scan
    by_cases hlen : i < len
    · by_cases hfound : found (start + i) = true
      · simp only [hlen, hfound, if_true]
        constructor
        · intro h
          cases h
        · rintro ⟨-, hall⟩
          rw [hall i hlen le_rfl] at hfound
          cases hfound
      · simp only [hlen, hfound, if_true, Bool.false_eq_true, if_false, ih]
        have hfound := Bool.eq_false_iff.mpr hfound
        constructor
        · rintro ⟨hle, hall⟩
          refine ⟨by omega, fun j hj hij => ?_⟩
          rcases Nat.eq_or_lt_of_le hij with rfl | hlt
          · exact hfound
          · exact hall j hj hlt
        · rintro ⟨hle, hall⟩
          exact ⟨by omega, fun j hj hij => hall j hj (by omega)⟩
    · simp only [hlen, if_false, true_iff]
      exact ⟨by omega, fun j hj hij => by omega⟩

/-- What a loop finds behind `i` is the first place behind it. -/
theorem scan_eq_firstBehind_iff {found : Nat → Bool} {start len fuel i k : Nat} :
    scan found start len fuel (i + 1) = some (some k) ↔
      k < len ∧ k ≤ i + fuel ∧ FirstBehind found (start + i) (start + k) := by
  rw [scan_eq_some_iff]
  constructor
  · rintro ⟨hik, hk, hfuel, hplace, hfirst⟩
    refine ⟨hk, by omega, by omega, hplace, fun p hp hstart => ?_⟩
    obtain ⟨j, rfl⟩ := Nat.exists_eq_add_of_le (by omega : start ≤ p)
    exact hfirst j (by omega) (by omega)
  · rintro ⟨hk, hfuel, hbehind, hplace, hfirst⟩
    exact ⟨by omega, hk, by omega, hplace, fun j hj hij => hfirst (start + j) (by omega) (by omega)⟩

/-! ## Characters and names in the text -/

/-- A character is at a position. -/
def charAt (xml : List UInt8) (c : Char) (position : Nat) : Bool :=
  xml.getD position 0 = UInt8.ofNat c.toNat

/-- The name of a tag is at a position, behind an angle bracket or a slash. -/
def tagAt (xml : List UInt8) (c : Char) (tag : String) (position : Nat) : Bool :=
  startsAt xml (chars tag) position && xml.getD (position - 1) 0 = UInt8.ofNat c.toNat

theorem startsAt_iff {xml name : List UInt8} {position : Nat} :
    startsAt xml name position = true ↔ name <+: xml.drop position := by
  rw [startsAt, List.isPrefixOf_iff_prefix]

/-- A name that is there is there as a whole. -/
theorem startsAt_le {xml name : List UInt8} {position : Nat} (hname : name ≠ [])
    (h : startsAt xml name position = true) : position + name.length ≤ xml.length := by
  have hle := (startsAt_iff.mp h).length_le
  have hpos := List.length_pos_iff.mpr hname
  rw [List.length_drop] at hle
  omega

theorem tagAt_le {xml : List UInt8} {c : Char} {tag : String} {position : Nat}
    (htag : chars tag ≠ []) (h : tagAt xml c tag position = true) :
    position + (chars tag).length ≤ xml.length :=
  startsAt_le htag (Bool.and_eq_true_iff.mp h).1

theorem tagAt_lt {xml : List UInt8} {c : Char} {tag : String} {position : Nat}
    (htag : chars tag ≠ []) (h : tagAt xml c tag position = true) : position < xml.length := by
  have hle := tagAt_le htag h
  have hpos := List.length_pos_iff.mpr htag
  omega

theorem charAt_lt {xml : List UInt8} {c : Char} {position : Nat} (hc : UInt8.ofNat c.toNat ≠ 0)
    (h : charAt xml c position = true) : position < xml.length := by
  by_contra hlt
  simp only [charAt, List.getD_eq_getElem?_getD, decide_eq_true_eq] at h
  rw [List.getElem?_eq_none (by omega)] at h
  exact hc h.symm

/-- The place of a character is the first one from a position on. -/
theorem placeOf_eq_some_iff {xml : List UInt8} {c : Char} {position place : Nat}
    (hc : UInt8.ofNat c.toNat ≠ 0) :
    placeOf xml c position = some place ↔ charAt xml c (position + place) = true ∧
      ∀ p < position + place, position ≤ p → charAt xml c p = false := by
  have hdrop (i : Nat) (hi : i < (xml.drop position).length) :
      decide ((xml.drop position)[i] = UInt8.ofNat c.toNat) = charAt xml c (position + i) := by
    rw [List.length_drop] at hi
    rw [charAt, List.getD_eq_getElem _ _ (by omega), List.getElem_drop]
  rw [placeOf, List.findIdx?_eq_some_iff_getElem]
  constructor
  · rintro ⟨hplace, hholds, hfirst⟩
    refine ⟨by rw [← hdrop place hplace]; exact hholds, fun p hp hposition => ?_⟩
    obtain ⟨i, rfl⟩ := Nat.exists_eq_add_of_le hposition
    have hi : i < place := by omega
    rw [← hdrop i (by omega)]
    exact Bool.eq_false_iff.mpr (hfirst i hi)
  · rintro ⟨hholds, hfirst⟩
    have hplace : place < (xml.drop position).length := by
      have := charAt_lt hc hholds
      rw [List.length_drop]
      omega
    refine ⟨hplace, by rw [hdrop place hplace]; exact hholds, fun i hi => ?_⟩
    rw [hdrop i (by omega)]
    exact Bool.eq_false_iff.mp (hfirst (position + i) (by omega) (by omega))

/-- There is no place of a character if it is not in the rest of the text. -/
theorem placeOf_eq_none_iff {xml : List UInt8} {c : Char} {position : Nat}
    (hc : UInt8.ofNat c.toNat ≠ 0) :
    placeOf xml c position = none ↔ ∀ p, position ≤ p → charAt xml c p = false := by
  constructor
  · intro hnone p hposition
    by_contra hholds
    have hholds := Bool.eq_true_of_not_eq_false hholds
    obtain ⟨i, rfl⟩ := Nat.exists_eq_add_of_le hposition
    have hlt := charAt_lt hc hholds
    rw [placeOf, List.findIdx?_eq_none_iff] at hnone
    have hmem : xml[position + i] ∈ xml.drop position := by
      have hi : i < (xml.drop position).length := by
        rw [List.length_drop]
        omega
      rw [← List.getElem_drop (h := by rw [List.length_drop]; omega)]
      exact List.getElem_mem hi
    have hne := hnone _ hmem
    rw [charAt, List.getD_eq_getElem _ _ hlt] at hholds
    rw [hholds] at hne
    cases hne
  · intro hall
    cases hplace : placeOf xml c position with
    | none => rfl
    | some place =>
      rw [placeOf_eq_some_iff hc, hall _ (by omega)] at hplace
      cases hplace.1

/-! ## The places of a tag -/

/-- The places that are taken for a tag behind `start`: of its name, of its content, and of the
name in its end. -/
structure TagPlaces (xml : List UInt8) (tag : String) (start opener content closer : Nat) :
    Prop where
  opens : FirstBehind (tagAt xml '<' tag) start opener
  behind : opener < content
  bracket : charAt xml '>' (content - 1) = true
  attributes : ∀ p < content - 1, opener ≤ p → charAt xml '>' p = false
  closes : FirstBehind (tagAt xml '/' tag) opener closer

/-- What is between the start of a content and its end, as a `size_t`. -/
def contentLen (content closer : Nat) : Nat := (closer + (2 ^ 64 - 2) - content) % 2 ^ 64

/-- The piece of the text that is taken for the content of a tag in a window of the text. -/
def Taken (xml : List UInt8) (window : Nat × Nat) (tag : String) (piece : Nat × Nat) : Prop :=
  ∃ opener content closer, TagPlaces xml tag window.1 opener content closer ∧
    closer < window.1 + window.2 ∧ piece = (content, contentLen content closer)

/-- `find_tag_xml` finds the content of a tag exactly where it is taken to be. -/
theorem findTagXml_eq_some_iff {xml : List UInt8} {start len : Nat} {tag : String}
    {piece : Nat × Nat} (htag : chars tag ≠ []) :
    findTagXml xml start len tag = some (some piece) ↔ Taken xml (start, len) tag piece := by
  have hbracket : UInt8.ofNat '>'.toNat ≠ 0 := by decide
  constructor
  · intro h
    unfold findTagXml at h
    obtain ⟨found, hscan, h⟩ := Option.bind_eq_some_iff.mp h
    cases found with
    | none => cases h
    | some i =>
      obtain ⟨tagOpenerLen, hplace, h⟩ := Option.bind_eq_some_iff.mp h
      obtain ⟨found, hscan', h⟩ := Option.bind_eq_some_iff.mp h
      cases found with
      | none => cases h
      | some j =>
        cases h
        obtain ⟨-, -, hopens⟩ := scan_eq_firstBehind_iff.mp hscan
        obtain ⟨hj, -, hcloses⟩ := scan_eq_firstBehind_iff.mp hscan'
        obtain ⟨hholds, hfirst⟩ := (placeOf_eq_some_iff hbracket).mp hplace
        exact ⟨start + i, start + i + tagOpenerLen + 1, start + j,
          ⟨hopens, by omega, hholds, fun p hp => hfirst p (by omega), hcloses⟩,
          by dsimp only; omega, rfl⟩
  · rintro ⟨opener, content, closer, hplaces, hwindow, rfl⟩
    obtain ⟨hopens, hbehind, hholds, hfirst, hcloses⟩ := hplaces
    have hopener := tagAt_lt htag hopens.holds
    have hcloser := tagAt_lt htag hcloses.holds
    have hlt := hopens.behind
    have hlt' := hcloses.behind
    dsimp only at hopens hlt hwindow
    -- the places, counted from the start of the window as the source counts them
    obtain ⟨i, rfl⟩ := Nat.exists_eq_add_of_le hlt.le
    obtain ⟨j, rfl⟩ := Nat.exists_eq_add_of_le (hlt.trans hlt').le
    obtain ⟨tagOpenerLen, rfl⟩ : ∃ tagOpenerLen, content = start + i + tagOpenerLen + 1 :=
      ⟨content - (start + i) - 1, by omega⟩
    have hscan : scan (tagAt xml '<' tag) start len (xml.length - start) (0 + 1) = some (some i) :=
      scan_eq_firstBehind_iff.mpr ⟨by omega, by omega, hopens⟩
    have hplace : placeOf xml '>' (start + i) = some tagOpenerLen :=
      (placeOf_eq_some_iff hbracket).mpr ⟨hholds, fun p hp => hfirst p (by omega)⟩
    have hscan' : scan (tagAt xml '/' tag) start len (xml.length - start - i) (i + 1) =
        some (some j) :=
      scan_eq_firstBehind_iff.mpr ⟨by omega, by omega, hcloses⟩
    unfold findTagXml
    refine Option.bind_eq_some_iff.mpr ⟨some i, hscan, ?_⟩
    refine Option.bind_eq_some_iff.mpr ⟨tagOpenerLen, hplace, ?_⟩
    exact Option.bind_eq_some_iff.mpr ⟨some j, hscan', rfl⟩

/-! ## What is inside of a content -/

/-- A place is in front of the end of a content, or the content ends in front of its start. -/
def Inside (content closer place : Nat) : Prop := closer < content + 2 ∨ place + 2 < closer

theorem contentLen_eq {content closer : Nat} (h : content + 2 ≤ closer) (hlt : closer < 2 ^ 64) :
    contentLen content closer = closer - 2 - content := by
  unfold contentLen
  omega

/-- The length of a content that ends in front of its start. -/
theorem contentLen_negative {content closer : Nat} (h : closer < content + 2)
    (hlt : content ≤ 2 ^ 64 - 2) : content + contentLen content closer = closer + (2 ^ 64 - 2) := by
  unfold contentLen
  rw [Nat.mod_eq_of_lt (by omega)]
  omega

/-- A window of the text ends where `Inside` says. -/
theorem lt_window_iff {content closer place size : Nat} (hcontent : content ≤ size)
    (hcloser : 1 < closer) (hcloser' : closer < size) (hplace : place < size)
    (hsize : size < 2 ^ 64 - 1) :
    place < content + contentLen content closer ↔ Inside content closer place := by
  unfold Inside
  by_cases h : content + 2 ≤ closer
  · rw [contentLen_eq h (by omega)]
    omega
  · rw [contentLen_negative (by omega) (by omega)]
    constructor
    · intro _
      exact Or.inl (by omega)
    · intro _
      omega

end XrceClient
