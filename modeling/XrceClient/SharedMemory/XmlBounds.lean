import XrceClient.SharedMemory.XmlTopics

/-!
# The ends of XML (`matching.c`)

Here the functions that look into XML are written with what each of their steps reads: `memcmp`
reads as many bytes as the name has that it compares, and is not defined where one of them is
behind the terminating zero.

- `compareAt`, `scanInBounds`: a comparison with its bounds, and the loops over them.
- `findTagXmlInBounds`, `findTagPropertyInBounds`, `generateHashInBounds`: the functions of the
  source, up to the result that says whether the names were found.
- `topicNamesInBounds_refines`, `serviceNamesInBounds_refines`: where they are defined, they find
  what the functions without these bounds find.
- `hash_inBounds_iff`: where nothing behind the text is read, no length is used that was not set,
  and nothing is written behind the buffer.
-/

namespace XrceClient

open ByteMemory

/-! ## Functions that keep to the text -/

/-- A comparison that reads `width` bytes from a position on. -/
def compareAt (xml : List UInt8) (width : Nat) (found : Nat → Bool) (position : Nat) :
    Option Bool :=
  if position + width ≤ xml.length + 1 then some (found position) else none

/-- The loop of `scan`, where the comparisons may not be defined. -/
def scanInBounds (compare : Nat → Option Bool) (start len : Nat) :
    Nat → Nat → Option (Option Nat)
  | 0, i => if i < len then none else some none
  | fuel + 1, i =>
    if i < len then do
      if ← compare (start + i) then
        some (some i)
      else
        scanInBounds compare start len fuel (i + 1)
    else
      some none

/-- `find_tag_xml` (matching.c:40–72). -/
def findTagXmlInBounds (xml : List UInt8) (start len : Nat) (tag : String) :
    Option (Option (Nat × Nat)) := do
  let tagBehind (c : Char) : Nat → Option Bool :=
    compareAt xml (chars tag).length (tagAt xml c tag)
  match ← scanInBounds (tagBehind '<') start len (xml.length - start) 1 with
  | none => some none
  | some i =>
    let tagOpenerLen ← placeOf xml '>' (start + i)
    let content := start + i + tagOpenerLen + 1
    match ← scanInBounds (tagBehind '/') start len (xml.length - start - i) (i + 1) with
    | none => some none
    | some j => some (some (content, contentLen content (start + j)))

/-- `find_tag_property` (matching.c:74–111). -/
def findTagPropertyInBounds (xml : List UInt8) (tag property : String) :
    Option (Option (Nat × Nat)) := do
  let tagOpens := compareAt xml (chars tag).length (tagAt xml '<' tag)
  let propertyStarts := compareAt xml (chars property).length (startsAt xml (chars property))
  match ← scanInBounds tagOpens 0 xml.length xml.length 1 with
  | none => some none
  | some i =>
    match ← scanInBounds propertyStarts 0 xml.length (xml.length - i) (i + 1) with
    | none => some none
    | some j =>
      let content := j + (chars property).length + 2
      let contentLen ← placeOf xml '"' content
      some (some (content, contentLen))

/-- The loop over the tags around a topic (matching.c:138–151). -/
def findTagsInBounds (xml : List UInt8) : List String → Nat × Nat → Option (Option (Nat × Nat))
  | [], content => some (some content)
  | tag :: tags, content => do
    match ← findTagXmlInBounds xml content.1 content.2 tag with
    | some content => findTagsInBounds xml tags content
    | none => some none

/-- The names of a topic (matching.c:124–166): their lengths are used whether they were found or
not. -/
def topicNamesInBounds (xml : List UInt8) (dataReaderOrWriter : String) :
    Option (Option (List (List UInt8))) := do
  match ← findTagsInBounds xml ["dds", dataReaderOrWriter, "topic"] (0, xml.length) with
  | none => some none
  | some content =>
    let topicName ← ← findTagXmlInBounds xml content.1 content.2 "name"
    let typeName ← ← findTagXmlInBounds xml content.1 content.2 "dataType"
    if topicName.2 + typeName.2 < nameTypeBufferSize then
      some (some [slice xml topicName, slice xml typeName])
    else
      none

/-- The names of a service (matching.c:170–214). -/
def serviceNamesInBounds (xml : List UInt8) (requesterOrReplier : String) :
    Option (Option (List (List UInt8))) := do
  let serviceName ← findTagPropertyInBounds xml requesterOrReplier "service_name"
  let requestType ← findTagPropertyInBounds xml requesterOrReplier "request_type"
  let replyType ← findTagPropertyInBounds xml requesterOrReplier "reply_type"
  match serviceName, requestType, replyType with
  | some serviceName, some requestType, some replyType =>
    if serviceName.2 + requestType.2 + replyType.2 < nameTypeBufferSize then
      some (some [slice xml serviceName, slice xml requestType, slice xml replyType])
    else
      none
  | some serviceName, some requestType, none =>
    if serviceName.2 + requestType.2 ≤ nameTypeBufferSize then some none else none
  | some serviceName, none, _ =>
    if serviceName.2 ≤ nameTypeBufferSize then some none else none
  | none, _, _ => some none

/-- `uxr_generate_hash_from_xml` (matching.c:112–219), up to its result. Other kinds of objects
have no names to find. -/
def generateHashInBounds (xml : List UInt8) (type : UInt8) : Option Bool :=
  if type = dataReaderId then (topicNamesInBounds xml "data_reader").map Option.isSome
  else if type = dataWriterId then (topicNamesInBounds xml "data_writer").map Option.isSome
  else if type = requesterId then (serviceNamesInBounds xml "requester").map Option.isSome
  else if type = replierId then (serviceNamesInBounds xml "replier").map Option.isSome
  else some true

/-! ## The loops -/

section Loops

variable {xml : List UInt8} {width : Nat} {found : Nat → Bool} {start len : Nat}

/-- Where something is found, it was found in the text. -/
theorem scanInBounds_eq_some_iff
    (hfound : ∀ p, found p = true → p + width ≤ xml.length + 1) :
    ∀ {fuel i k : Nat}, scanInBounds (compareAt xml width found) start len fuel i = some (some k) ↔
      scan found start len fuel i = some (some k) := by
  intro fuel
  induction fuel with
  | zero =>
    intro i k
    unfold scanInBounds scan
    rfl
  | succ fuel ih =>
    intro i k
    by_cases hlen : i < len
    · by_cases hin : start + i + width ≤ xml.length + 1
      · unfold scanInBounds scan
        simp only [hlen, if_true, compareAt, hin, Option.bind_eq_bind, Option.bind_some]
        by_cases hplace : found (start + i) = true
        · simp only [hplace, if_true]
        · simp only [hplace, Bool.false_eq_true, if_false, ih]
      · -- behind the end of the text nothing is found
        have hnone : scanInBounds (compareAt xml width found) start len (fuel + 1) i = none := by
          unfold scanInBounds
          simp [hlen, compareAt, hin]
        rw [hnone]
        constructor
        · intro h
          cases h
        · intro h
          obtain ⟨hik, -, -, hplace, -⟩ := scan_eq_some_iff.mp h
          have := hfound _ hplace
          omega
    · unfold scanInBounds scan
      simp only [hlen, if_false]

/-- A loop that finds nothing has compared at the last place in front of its end. -/
theorem scanInBounds_eq_none_iff :
    ∀ {fuel i : Nat}, scanInBounds (compareAt xml width found) start len fuel i = some none ↔
      scan found start len fuel i = some none ∧
        (i < len → start + len - 1 + width ≤ xml.length + 1) := by
  intro fuel
  induction fuel with
  | zero =>
    intro i
    unfold scanInBounds scan
    by_cases hlen : i < len
    · simp only [hlen, if_true]
      constructor
      · intro h
        cases h
      · rintro ⟨h, -⟩
        cases h
    · simp [hlen]
  | succ fuel ih =>
    intro i
    by_cases hlen : i < len
    · unfold scanInBounds scan
      by_cases hin : start + i + width ≤ xml.length + 1
      · simp only [hlen, if_true, compareAt, hin, Option.bind_eq_bind, Option.bind_some,
          true_imp_iff]
        by_cases hplace : found (start + i) = true
        · simp [hplace]
        · simp only [hplace, Bool.false_eq_true, if_false, ih]
          constructor
          · rintro ⟨hscan, hlast⟩
            refine ⟨hscan, ?_⟩
            -- this may have been the last place
            by_cases hnext : i + 1 < len
            · exact hlast hnext
            · have : len = i + 1 := by omega
              subst this
              omega
          · rintro ⟨hscan, hlast⟩
            exact ⟨hscan, fun _ => hlast⟩
      · simp only [hlen, if_true, compareAt, hin, if_false, true_imp_iff]
        constructor
        · intro h
          cases h
        · rintro ⟨-, hlast⟩
          omega
    · unfold scanInBounds scan
      simp [hlen]

/-- A loop within the bounds finds what it finds without them. -/
theorem scanInBounds_refines (hfound : ∀ p, found p = true → p + width ≤ xml.length + 1)
    {fuel i : Nat} {place : Option Nat}
    (h : scanInBounds (compareAt xml width found) start len fuel i = some place) :
    scan found start len fuel i = some place := by
  cases place with
  | none => exact (scanInBounds_eq_none_iff.mp h).1
  | some k => exact (scanInBounds_eq_some_iff hfound).mp h

end Loops

/-! ## Tags -/

/-- A tag is not in a window of the text, and looking for it does not leave the text: neither at
the last place in the window, nor behind the start of a tag that is not closed. -/
structure Absent (xml : List UInt8) (window : Nat × Nat) (tag : String) : Prop where
  last : 1 < window.2 → window.1 + window.2 - 1 + (chars tag).length ≤ xml.length + 1
  bracket : ∀ opener < window.1 + window.2, FirstBehind (tagAt xml '<' tag) window.1 opener →
    ∃ p, opener ≤ p ∧ charAt xml '>' p = true
  notClosed : ∀ opener < window.1 + window.2, FirstBehind (tagAt xml '<' tag) window.1 opener →
    ∀ closer, FirstBehind (tagAt xml '/' tag) opener closer → window.1 + window.2 ≤ closer

section Tags

variable {xml : List UInt8} {start len : Nat} {tag : String}

theorem tagAt_inBounds (c : Char) (htag : chars tag ≠ []) (p : Nat)
    (h : tagAt xml c tag p = true) : p + (chars tag).length ≤ xml.length + 1 := by
  have := tagAt_le htag h
  omega

/-- What is found within the bounds, or not found, is so without them. -/
theorem findTagXmlInBounds_refines {found : Option (Nat × Nat)} (htag : chars tag ≠ [])
    (h : findTagXmlInBounds xml start len tag = some found) :
    findTagXml xml start len tag = some found := by
  have hfound (c : Char) := @tagAt_inBounds xml tag c htag
  unfold findTagXmlInBounds at h
  unfold findTagXml
  obtain ⟨place, hscan, h⟩ := Option.bind_eq_some_iff.mp h
  refine Option.bind_eq_some_iff.mpr ⟨place, scanInBounds_refines (hfound '<') hscan, ?_⟩
  cases place with
  | none => exact h
  | some i =>
    obtain ⟨tagOpenerLen, hplace, h⟩ := Option.bind_eq_some_iff.mp h
    obtain ⟨place, hscan', h⟩ := Option.bind_eq_some_iff.mp h
    refine Option.bind_eq_some_iff.mpr ⟨tagOpenerLen, hplace, ?_⟩
    exact Option.bind_eq_some_iff.mpr ⟨place, scanInBounds_refines (hfound '/') hscan', h⟩

/-- A tag is found exactly where it is taken to be. -/
theorem findTagXmlInBounds_eq_some_iff {piece : Nat × Nat} (htag : chars tag ≠ []) :
    findTagXmlInBounds xml start len tag = some (some piece) ↔
      Taken xml (start, len) tag piece := by
  have hfound (c : Char) := @tagAt_inBounds xml tag c htag
  rw [← findTagXml_eq_some_iff htag]
  constructor
  · exact findTagXmlInBounds_refines htag
  · intro h
    unfold findTagXml at h
    unfold findTagXmlInBounds
    obtain ⟨found, hscan, h⟩ := Option.bind_eq_some_iff.mp h
    cases found with
    | none => cases h
    | some i =>
      obtain ⟨tagOpenerLen, hplace, h⟩ := Option.bind_eq_some_iff.mp h
      obtain ⟨found, hscan', h⟩ := Option.bind_eq_some_iff.mp h
      cases found with
      | none => cases h
      | some j =>
        refine Option.bind_eq_some_iff.mpr
          ⟨some i, (scanInBounds_eq_some_iff (hfound '<')).mpr hscan, ?_⟩
        refine Option.bind_eq_some_iff.mpr ⟨tagOpenerLen, hplace, ?_⟩
        exact Option.bind_eq_some_iff.mpr
          ⟨some j, (scanInBounds_eq_some_iff (hfound '/')).mpr hscan', h⟩

/-- A tag is not found exactly where it is absent. -/
theorem findTagXmlInBounds_eq_none_iff (htag : chars tag ≠ []) :
    findTagXmlInBounds xml start len tag = some none ↔ Absent xml (start, len) tag := by
  have hbracket : UInt8.ofNat '>'.toNat ≠ 0 := by decide
  have hfound (c : Char) := @tagAt_inBounds xml tag c htag
  have hwidth := List.length_pos_iff.mpr htag
  unfold findTagXmlInBounds
  constructor
  · intro h
    obtain ⟨found, hscan, h⟩ := Option.bind_eq_some_iff.mp h
    cases found with
    | none =>
      obtain ⟨hscan, hlast⟩ := scanInBounds_eq_none_iff.mp hscan
      obtain ⟨-, hnothing⟩ := scan_eq_none_iff.mp hscan
      -- there is no start of the tag in the window
      have hno (opener : Nat) (hin : opener < start + len)
          (hopens : FirstBehind (tagAt xml '<' tag) start opener) : False := by
        obtain ⟨i, rfl⟩ := Nat.exists_eq_add_of_lt hopens.behind
        have hcontra := hnothing (i + 1) (by omega) (by omega)
        rw [← Nat.add_assoc, hopens.holds] at hcontra
        cases hcontra
      exact ⟨hlast, fun opener hin hopens => (hno opener hin hopens).elim,
        fun opener hin hopens => (hno opener hin hopens).elim⟩
    | some i =>
      obtain ⟨hi, -, hopens⟩ := scan_eq_firstBehind_iff.mp
        ((scanInBounds_eq_some_iff (hfound '<')).mp hscan)
      obtain ⟨tagOpenerLen, hplace, h⟩ := Option.bind_eq_some_iff.mp h
      obtain ⟨hholds, -⟩ := (placeOf_eq_some_iff hbracket).mp hplace
      obtain ⟨found, hscan', h⟩ := Option.bind_eq_some_iff.mp h
      cases found with
      | some j => cases h
      | none =>
        obtain ⟨hscan', hlast⟩ := scanInBounds_eq_none_iff.mp hscan'
        obtain ⟨-, hnothing⟩ := scan_eq_none_iff.mp hscan'
        refine ⟨fun _ => ?_, ?_, ?_⟩
        · by_cases hnext : i + 1 < len
          · exact hlast hnext
          · have := tagAt_le htag hopens.holds
            dsimp only
            omega
        · intro opener _ hopens'
          exact ⟨start + i + tagOpenerLen, by rw [hopens'.unique hopens]; omega, hholds⟩
        · intro opener _ hopens' closer hcloses
          have hopener := hopens'.unique hopens
          subst hopener
          by_contra hin
          have hbehind := hcloses.behind
          obtain ⟨j, rfl⟩ := Nat.exists_eq_add_of_le (by omega : start ≤ closer)
          have hcontra := hnothing j (by dsimp only at hin; omega) (by omega)
          rw [hcloses.holds] at hcontra
          cases hcontra
  · rintro ⟨hlast, hbrackets, hnotClosed⟩
    dsimp only at hlast hbrackets hnotClosed
    by_cases hopener : ∃ opener < start + len, FirstBehind (tagAt xml '<' tag) start opener
    · obtain ⟨opener, hin, hopens⟩ := hopener
      have hle := tagAt_le htag hopens.holds
      have hbehind := hopens.behind
      obtain ⟨i, rfl⟩ := Nat.exists_eq_add_of_le hbehind.le
      have hscan : scan (tagAt xml '<' tag) start len (xml.length - start) (0 + 1) =
          some (some i) :=
        scan_eq_firstBehind_iff.mpr ⟨by omega, by omega, hopens⟩
      obtain ⟨p, hp, hholds⟩ := hbrackets _ hin hopens
      obtain ⟨tagOpenerLen, hplace⟩ : ∃ tagOpenerLen,
          placeOf xml '>' (start + i) = some tagOpenerLen := by
        rw [← Option.ne_none_iff_exists']
        intro hnone
        rw [(placeOf_eq_none_iff hbracket).mp hnone p hp] at hholds
        cases hholds
      -- what closes the tag is behind the window
      have hscan' : scan (tagAt xml '/' tag) start len (xml.length - start - i) (i + 1) =
          some none := by
        refine scan_eq_none_iff.mpr ⟨by omega, fun j hj hij => ?_⟩
        by_contra hcloses
        obtain ⟨closer, hle, hfirst⟩ := FirstBehind.of_place (by omega : start + i < start + j)
          (Bool.eq_true_of_not_eq_false hcloses)
        have := hnotClosed _ hin hopens closer hfirst
        omega
      refine Option.bind_eq_some_iff.mpr
        ⟨some i, (scanInBounds_eq_some_iff (hfound '<')).mpr hscan, ?_⟩
      refine Option.bind_eq_some_iff.mpr ⟨tagOpenerLen, hplace, ?_⟩
      exact Option.bind_eq_some_iff.mpr
        ⟨none, scanInBounds_eq_none_iff.mpr ⟨hscan', fun _ => hlast (by omega)⟩, rfl⟩
    · have hscan : scan (tagAt xml '<' tag) start len (xml.length - start) 1 = some none := by
        refine scan_eq_none_iff.mpr ⟨by omega, fun j hj hij => ?_⟩
        by_contra hopens
        obtain ⟨opener, hle, hfirst⟩ := FirstBehind.of_place (by omega : start < start + j)
          (Bool.eq_true_of_not_eq_false hopens)
        exact hopener ⟨opener, by omega, hfirst⟩
      exact Option.bind_eq_some_iff.mpr
        ⟨none, scanInBounds_eq_none_iff.mpr ⟨hscan, hlast⟩, rfl⟩

/-- A tag is absent from a whole text only if this is so short that it is not looked for. -/
theorem absent_whole_iff (htag : 2 < (chars tag).length) :
    Absent xml (0, xml.length) tag ↔ xml.length ≤ 1 := by
  constructor
  · intro h
    by_contra hlong
    have := h.last (by dsimp only; omega)
    dsimp only at this
    omega
  · intro hshort
    have hne : chars tag ≠ [] := List.length_pos_iff.mp (by omega)
    have hno (opener : Nat) (hopens : FirstBehind (tagAt xml '<' tag) 0 opener) : False := by
      have := tagAt_le hne hopens.holds
      omega
    exact ⟨fun h => absurd h (by dsimp only; omega),
      fun opener _ hopens => (hno opener hopens).elim, fun opener _ hopens => (hno opener hopens).elim⟩

end Tags

/-! ## Topics -/

/-- The elements of a topic are there, and its names fit. -/
def TopicComplete (xml : List UInt8) (dataReaderOrWriter : String) : Prop :=
  ∃ dds endpoint topic name dataType,
    Taken xml (0, xml.length) "dds" dds ∧ Taken xml dds dataReaderOrWriter endpoint ∧
    Taken xml endpoint "topic" topic ∧ Taken xml topic "name" name ∧
    Taken xml topic "dataType" dataType ∧ name.2 + dataType.2 < nameTypeBufferSize

/-- An element around a topic is absent. -/
def TopicAbsent (xml : List UInt8) (dataReaderOrWriter : String) : Prop :=
  xml.length ≤ 1 ∨ ∃ dds, Taken xml (0, xml.length) "dds" dds ∧
    (Absent xml dds dataReaderOrWriter ∨ ∃ endpoint,
      Taken xml dds dataReaderOrWriter endpoint ∧ Absent xml endpoint "topic")

section Topics

variable {xml : List UInt8} {dataReaderOrWriter : String}

theorem findTagsInBounds_refines {tags : List String} {found : Option (Nat × Nat)} :
    ∀ {window : Nat × Nat}, (∀ tag ∈ tags, chars tag ≠ []) →
      findTagsInBounds xml tags window = some found → findTags xml tags window = some found := by
  induction tags with
  | nil =>
    intro window _ h
    exact h
  | cons tag tags ih =>
    intro window htags h
    have htag := htags tag List.mem_cons_self
    rw [findTagsInBounds] at h
    rw [findTags]
    obtain ⟨place, hplace, h⟩ := Option.bind_eq_some_iff.mp h
    refine Option.bind_eq_some_iff.mpr ⟨place, findTagXmlInBounds_refines htag hplace, ?_⟩
    cases place with
    | none => exact h
    | some inner => exact ih (fun t ht => htags t (List.mem_cons_of_mem _ ht)) h

theorem findTagsInBounds_eq_some_iff {tag : String} {tags : List String}
    {window piece : Nat × Nat} (htag : chars tag ≠ []) :
    findTagsInBounds xml (tag :: tags) window = some (some piece) ↔
      ∃ inner, Taken xml window tag inner ∧
        findTagsInBounds xml tags inner = some (some piece) := by
  rw [findTagsInBounds]
  constructor
  · intro h
    obtain ⟨found, hfound, h⟩ := Option.bind_eq_some_iff.mp h
    cases found with
    | none => cases h
    | some inner => exact ⟨inner, (findTagXmlInBounds_eq_some_iff htag).mp hfound, h⟩
  · rintro ⟨inner, htaken, h⟩
    exact Option.bind_eq_some_iff.mpr
      ⟨some inner, (findTagXmlInBounds_eq_some_iff htag).mpr htaken, h⟩

theorem findTagsInBounds_eq_none_iff {tag : String} {tags : List String} {window : Nat × Nat}
    (htag : chars tag ≠ []) : findTagsInBounds xml (tag :: tags) window = some none ↔
      Absent xml window tag ∨
        ∃ inner, Taken xml window tag inner ∧ findTagsInBounds xml tags inner = some none := by
  rw [findTagsInBounds]
  constructor
  · intro h
    obtain ⟨found, hfound, h⟩ := Option.bind_eq_some_iff.mp h
    cases found with
    | none => exact Or.inl ((findTagXmlInBounds_eq_none_iff htag).mp hfound)
    | some inner => exact Or.inr ⟨inner, (findTagXmlInBounds_eq_some_iff htag).mp hfound, h⟩
  · rintro (habsent | ⟨inner, htaken, h⟩)
    · exact Option.bind_eq_some_iff.mpr
        ⟨none, (findTagXmlInBounds_eq_none_iff htag).mpr habsent, rfl⟩
    · exact Option.bind_eq_some_iff.mpr
        ⟨some inner, (findTagXmlInBounds_eq_some_iff htag).mpr htaken, h⟩

/-- The tags around a topic. -/
theorem findTagsInBounds_topic_eq_none_iff (hendpoint : chars dataReaderOrWriter ≠ []) :
    findTagsInBounds xml ["dds", dataReaderOrWriter, "topic"] (0, xml.length) = some none ↔
      TopicAbsent xml dataReaderOrWriter := by
  have hnil {window : Nat × Nat} : findTagsInBounds xml [] window ≠ some none := by
    intro h
    cases h
  rw [findTagsInBounds_eq_none_iff (by decide), absent_whole_iff (by decide)]
  unfold TopicAbsent
  simp only [findTagsInBounds_eq_none_iff hendpoint,
    findTagsInBounds_eq_none_iff (by decide : chars "topic" ≠ []), hnil, and_false, exists_false,
    or_false]

/-- The names of a topic within the bounds are those without them. -/
theorem topicNamesInBounds_refines {names : Option (List (List UInt8))}
    (hendpoint : chars dataReaderOrWriter ≠ [])
    (h : topicNamesInBounds xml dataReaderOrWriter = some names) :
    topicNames xml dataReaderOrWriter = some names := by
  have htags : ∀ tag ∈ ["dds", dataReaderOrWriter, "topic"], chars tag ≠ [] := by
    simp only [List.mem_cons, List.not_mem_nil, or_false]
    rintro tag (rfl | rfl | rfl)
    · decide
    · exact hendpoint
    · decide
  unfold topicNamesInBounds at h
  unfold topicNames
  obtain ⟨topic, hfound, h⟩ := Option.bind_eq_some_iff.mp h
  refine Option.bind_eq_some_iff.mpr ⟨topic, findTagsInBounds_refines htags hfound, ?_⟩
  cases topic with
  | none => exact h
  | some topic =>
    obtain ⟨_, hname, hnames⟩ := Option.bind_eq_some_iff.mp h
    obtain ⟨name, rfl, hnames'⟩ := Option.bind_eq_some_iff.mp hnames
    obtain ⟨_, hdataType, htypes⟩ := Option.bind_eq_some_iff.mp hnames'
    obtain ⟨dataType, rfl, hcopied⟩ := Option.bind_eq_some_iff.mp htypes
    refine Option.bind_eq_some_iff.mpr
      ⟨some name, findTagXmlInBounds_refines (by decide) hname, ?_⟩
    refine Option.bind_eq_some_iff.mpr ⟨name, rfl, ?_⟩
    refine Option.bind_eq_some_iff.mpr
      ⟨some dataType, findTagXmlInBounds_refines (by decide) hdataType, ?_⟩
    exact Option.bind_eq_some_iff.mpr ⟨dataType, rfl, hcopied⟩

/-- The names of a topic that is complete are found. -/
theorem TopicComplete.found (hendpoint : chars dataReaderOrWriter ≠ [])
    (h : TopicComplete xml dataReaderOrWriter) :
    ∃ names, topicNamesInBounds xml dataReaderOrWriter = some (some names) := by
  obtain ⟨dds, endpoint, topic, name, dataType, hdds, hendpoint', htopic, hname, hdataType,
    hfits⟩ := h
  have htags : findTagsInBounds xml ["dds", dataReaderOrWriter, "topic"] (0, xml.length) =
      some (some topic) :=
    (findTagsInBounds_eq_some_iff (by decide)).mpr
      ⟨dds, hdds, (findTagsInBounds_eq_some_iff hendpoint).mpr
        ⟨endpoint, hendpoint', (findTagsInBounds_eq_some_iff (by decide)).mpr
          ⟨topic, htopic, rfl⟩⟩⟩
  unfold topicNamesInBounds
  refine ⟨[slice xml name, slice xml dataType], ?_⟩
  refine Option.bind_eq_some_iff.mpr ⟨some topic, htags, ?_⟩
  refine Option.bind_eq_some_iff.mpr
    ⟨some name, (findTagXmlInBounds_eq_some_iff (by decide)).mpr hname, ?_⟩
  refine Option.bind_eq_some_iff.mpr ⟨name, rfl, ?_⟩
  refine Option.bind_eq_some_iff.mpr
    ⟨some dataType, (findTagXmlInBounds_eq_some_iff (by decide)).mpr hdataType, ?_⟩
  refine Option.bind_eq_some_iff.mpr ⟨dataType, rfl, ?_⟩
  exact if_pos hfits

/-- No names are found only if an element around the topic is absent. -/
theorem topicNamesInBounds_eq_none_iff (hendpoint : chars dataReaderOrWriter ≠ []) :
    topicNamesInBounds xml dataReaderOrWriter = some none ↔
      TopicAbsent xml dataReaderOrWriter := by
  rw [← findTagsInBounds_topic_eq_none_iff hendpoint]
  unfold topicNamesInBounds
  constructor
  · intro h
    obtain ⟨found, hfound, h⟩ := Option.bind_eq_some_iff.mp h
    cases found with
    | none => exact hfound
    | some topic =>
      -- the lengths are used even where nothing was found
      obtain ⟨_, -, hnames⟩ := Option.bind_eq_some_iff.mp h
      obtain ⟨name, -, hnames⟩ := Option.bind_eq_some_iff.mp hnames
      obtain ⟨_, -, htypes⟩ := Option.bind_eq_some_iff.mp hnames
      obtain ⟨dataType, -, htypes⟩ := Option.bind_eq_some_iff.mp htypes
      split at htypes
      · cases htypes
      · cases htypes
  · intro h
    exact Option.bind_eq_some_iff.mpr ⟨none, h, rfl⟩

/-- Looking for the names of a topic is defined if they are there and fit, or if an element around
them is absent; and it succeeds in the first case. -/
theorem topicNamesInBounds_isSome_iff (hendpoint : chars dataReaderOrWriter ≠ []) (found : Bool) :
    (topicNamesInBounds xml dataReaderOrWriter).map Option.isSome = some found ↔
      if found then TopicComplete xml dataReaderOrWriter
      else TopicAbsent xml dataReaderOrWriter := by
  rw [Option.map_eq_some_iff]
  cases found with
  | true =>
    rw [if_pos rfl]
    constructor
    · rintro ⟨names, hfound, hsome⟩
      obtain ⟨names, rfl⟩ := Option.isSome_iff_exists.mp hsome
      obtain ⟨dds, endpoint, topic, name, dataType, h₁, h₂, h₃, h₄, h₅, hfits, -⟩ :=
        (topicNames_eq_some_iff hendpoint).mp (topicNamesInBounds_refines hendpoint hfound)
      exact ⟨dds, endpoint, topic, name, dataType, h₁, h₂, h₃, h₄, h₅, hfits⟩
    · intro hcomplete
      obtain ⟨names, hfound⟩ := hcomplete.found hendpoint
      exact ⟨some names, hfound, rfl⟩
  | false =>
    rw [if_neg Bool.false_ne_true]
    constructor
    · rintro ⟨names, hfound, hnone⟩
      cases names with
      | some names => cases hnone
      | none => exact (topicNamesInBounds_eq_none_iff hendpoint).mp hfound
    · intro habsent
      exact ⟨none, (topicNamesInBounds_eq_none_iff hendpoint).mpr habsent, rfl⟩

end Topics

/-! ## Services -/

/-- The piece of the text that is taken for a property of a tag. -/
def PropertyTaken (xml : List UInt8) (tag property : String) (piece : Nat × Nat) : Prop :=
  ∃ opener place, FirstBehind (tagAt xml '<' tag) 0 opener ∧
    FirstBehind (startsAt xml (chars property)) opener place ∧
    piece.1 = place + (chars property).length + 2 ∧ charAt xml '"' (piece.1 + piece.2) = true ∧
    ∀ p < piece.1 + piece.2, piece.1 ≤ p → charAt xml '"' p = false

/-- The properties of a service are there, and its names fit. -/
def ServiceComplete (xml : List UInt8) (requesterOrReplier : String) : Prop :=
  ∃ serviceName requestType replyType,
    PropertyTaken xml requesterOrReplier "service_name" serviceName ∧
    PropertyTaken xml requesterOrReplier "request_type" requestType ∧
    PropertyTaken xml requesterOrReplier "reply_type" replyType ∧
    serviceName.2 + requestType.2 + replyType.2 < nameTypeBufferSize

section Services

variable {xml : List UInt8} {tag property requesterOrReplier : String}

/-- A property is found where it is taken to be. -/
theorem findTagPropertyInBounds_eq_some_iff {piece : Nat × Nat} (htag : chars tag ≠ [])
    (hproperty : chars property ≠ []) :
    findTagPropertyInBounds xml tag property = some (some piece) ↔
      PropertyTaken xml tag property piece := by
  have hquote : UInt8.ofNat '"'.toNat ≠ 0 := by decide
  have hfound := @tagAt_inBounds xml tag '<' htag
  have hfound' (p : Nat) (h : startsAt xml (chars property) p = true) :
      p + (chars property).length ≤ xml.length + 1 := by
    have := startsAt_le hproperty h
    omega
  unfold findTagPropertyInBounds
  constructor
  · intro h
    obtain ⟨found, hscan, h⟩ := Option.bind_eq_some_iff.mp h
    cases found with
    | none => cases h
    | some i =>
      obtain ⟨found, hscan', h⟩ := Option.bind_eq_some_iff.mp h
      cases found with
      | none => cases h
      | some j =>
        obtain ⟨contentLen, hplace, h⟩ := Option.bind_eq_some_iff.mp h
        cases h
        obtain ⟨-, -, hopens⟩ := scan_eq_firstBehind_iff.mp
          ((scanInBounds_eq_some_iff hfound).mp hscan)
        obtain ⟨-, -, hstarts⟩ := scan_eq_firstBehind_iff.mp
          ((scanInBounds_eq_some_iff hfound').mp hscan')
        obtain ⟨hholds, hfirst⟩ := (placeOf_eq_some_iff hquote).mp hplace
        simp only [Nat.zero_add] at hopens hstarts
        exact ⟨i, j, hopens, hstarts, rfl, hholds, hfirst⟩
  · rintro ⟨opener, place, hopens, hstarts, hpiece, hholds, hfirst⟩
    have hopener := tagAt_lt htag hopens.holds
    have hle := startsAt_le hproperty hstarts.holds
    have hpos := List.length_pos_iff.mpr hproperty
    have hbehind := hopens.behind
    have hbehind' := hstarts.behind
    have hscan : scan (tagAt xml '<' tag) 0 xml.length xml.length (0 + 1) = some (some opener) :=
      scan_eq_firstBehind_iff.mpr ⟨by omega, by omega, by simpa using hopens⟩
    have hscan' : scan (startsAt xml (chars property)) 0 xml.length (xml.length - opener)
        (opener + 1) = some (some place) :=
      scan_eq_firstBehind_iff.mpr ⟨by omega, by omega, by simpa using hstarts⟩
    refine Option.bind_eq_some_iff.mpr
      ⟨some opener, (scanInBounds_eq_some_iff hfound).mpr hscan, ?_⟩
    refine Option.bind_eq_some_iff.mpr
      ⟨some place, (scanInBounds_eq_some_iff hfound').mpr hscan', ?_⟩
    refine Option.bind_eq_some_iff.mpr
      ⟨piece.2, (placeOf_eq_some_iff hquote).mpr ⟨hpiece ▸ hholds, ?_⟩, ?_⟩
    · intro p hp hle
      exact hfirst p (by omega) (by omega)
    · rw [← hpiece]

/-- A property is not found only in a text that is so short that it is not looked for. -/
theorem findTagPropertyInBounds_eq_none_iff (htag : 2 < (chars tag).length)
    (hproperty : 2 < (chars property).length) :
    findTagPropertyInBounds xml tag property = some none ↔ xml.length ≤ 1 := by
  have hne : chars tag ≠ [] := List.length_pos_iff.mp (by omega)
  have hfound := @tagAt_inBounds xml tag '<' hne
  unfold findTagPropertyInBounds
  constructor
  · intro h
    by_contra hlong
    obtain ⟨found, hscan, h⟩ := Option.bind_eq_some_iff.mp h
    cases found with
    | none =>
      have := (scanInBounds_eq_none_iff.mp hscan).2 (by omega)
      omega
    | some i =>
      obtain ⟨-, -, hopens⟩ := scan_eq_firstBehind_iff.mp
        ((scanInBounds_eq_some_iff hfound).mp hscan)
      have hle := tagAt_le hne hopens.holds
      obtain ⟨found, hscan', h⟩ := Option.bind_eq_some_iff.mp h
      cases found with
      | none =>
        have := (scanInBounds_eq_none_iff.mp hscan').2 (by omega)
        omega
      | some j =>
        obtain ⟨contentLen, -, h⟩ := Option.bind_eq_some_iff.mp h
        cases h
  · intro hshort
    refine Option.bind_eq_some_iff.mpr ⟨none, scanInBounds_eq_none_iff.mpr ⟨?_, ?_⟩, rfl⟩
    · exact scan_eq_none_iff.mpr ⟨by omega, fun j hj hij => by omega⟩
    · intro hlong
      omega

/-- Looking for the names of a service is defined if they are there and fit, or in a text in which
nothing is looked for. -/
theorem serviceNamesInBounds_isSome_iff (htag : 2 < (chars requesterOrReplier).length)
    (found : Bool) :
    (serviceNamesInBounds xml requesterOrReplier).map Option.isSome = some found ↔
      if found then ServiceComplete xml requesterOrReplier else xml.length ≤ 1 := by
  have hne : chars requesterOrReplier ≠ [] := List.length_pos_iff.mp (by omega)
  have hservice : 2 < (chars "service_name").length := by decide
  have hrequest : 2 < (chars "request_type").length := by decide
  have hreply : 2 < (chars "reply_type").length := by decide
  have hservice' : chars "service_name" ≠ [] := by decide
  have hrequest' : chars "request_type" ≠ [] := by decide
  have hreply' : chars "reply_type" ≠ [] := by decide
  rw [Option.map_eq_some_iff]
  unfold serviceNamesInBounds
  constructor
  · rintro ⟨names, h, rfl⟩
    obtain ⟨serviceName, h₁, h⟩ := Option.bind_eq_some_iff.mp h
    obtain ⟨requestType, h₂, h⟩ := Option.bind_eq_some_iff.mp h
    obtain ⟨replyType, h₃, h⟩ := Option.bind_eq_some_iff.mp h
    cases serviceName with
    | none =>
      cases h
      exact (findTagPropertyInBounds_eq_none_iff htag hservice).mp h₁
    | some serviceName =>
      have hlong : ¬ xml.length ≤ 1 := by
        intro hshort
        rw [(findTagPropertyInBounds_eq_none_iff htag hservice).mpr hshort] at h₁
        cases h₁
      -- where one property is found, the text is so long that the others are looked for
      cases requestType with
      | none => exact absurd ((findTagPropertyInBounds_eq_none_iff htag hrequest).mp h₂) hlong
      | some requestType =>
        cases replyType with
        | none => exact absurd ((findTagPropertyInBounds_eq_none_iff htag hreply).mp h₃) hlong
        | some replyType =>
          dsimp only at h
          split at h
          · rename_i hfits
            cases h
            exact ⟨serviceName, requestType, replyType,
              (findTagPropertyInBounds_eq_some_iff hne hservice').mp h₁,
              (findTagPropertyInBounds_eq_some_iff hne hrequest').mp h₂,
              (findTagPropertyInBounds_eq_some_iff hne hreply').mp h₃, hfits⟩
          · cases h
  · cases found with
    | true =>
      rw [if_pos rfl]
      rintro ⟨serviceName, requestType, replyType, h₁, h₂, h₃, hfits⟩
      refine ⟨some [slice xml serviceName, slice xml requestType, slice xml replyType], ?_, rfl⟩
      refine Option.bind_eq_some_iff.mpr
        ⟨_, (findTagPropertyInBounds_eq_some_iff hne hservice').mpr h₁, ?_⟩
      refine Option.bind_eq_some_iff.mpr
        ⟨_, (findTagPropertyInBounds_eq_some_iff hne hrequest').mpr h₂, ?_⟩
      refine Option.bind_eq_some_iff.mpr
        ⟨_, (findTagPropertyInBounds_eq_some_iff hne hreply').mpr h₃, ?_⟩
      exact if_pos hfits
    | false =>
      rw [if_neg Bool.false_ne_true]
      intro hshort
      refine ⟨none, ?_, rfl⟩
      refine Option.bind_eq_some_iff.mpr
        ⟨_, (findTagPropertyInBounds_eq_none_iff htag hservice).mpr hshort, ?_⟩
      refine Option.bind_eq_some_iff.mpr
        ⟨_, (findTagPropertyInBounds_eq_none_iff htag hrequest).mpr hshort, ?_⟩
      exact Option.bind_eq_some_iff.mpr
        ⟨_, (findTagPropertyInBounds_eq_none_iff htag hreply).mpr hshort, rfl⟩

/-- A property that is found within the bounds, or not found, is so without them. -/
theorem findTagPropertyInBounds_refines {found : Option (Nat × Nat)}
    (htag : 2 < (chars tag).length) (hproperty : 2 < (chars property).length)
    (h : findTagPropertyInBounds xml tag property = some found) :
    findTagProperty xml tag property = some found := by
  have hne : chars tag ≠ [] := List.length_pos_iff.mp (by omega)
  have hne' : chars property ≠ [] := List.length_pos_iff.mp (by omega)
  have hfound := @tagAt_inBounds xml tag '<' hne
  have hfound' (p : Nat) (h : startsAt xml (chars property) p = true) :
      p + (chars property).length ≤ xml.length + 1 := by
    have := startsAt_le hne' h
    omega
  unfold findTagPropertyInBounds at h
  unfold findTagProperty
  obtain ⟨place, hscan, h⟩ := Option.bind_eq_some_iff.mp h
  refine Option.bind_eq_some_iff.mpr ⟨place, scanInBounds_refines hfound hscan, ?_⟩
  cases place with
  | none => exact h
  | some i =>
    obtain ⟨place, hscan', h⟩ := Option.bind_eq_some_iff.mp h
    exact Option.bind_eq_some_iff.mpr ⟨place, scanInBounds_refines hfound' hscan', h⟩

/-- The names of a service within the bounds are those without them. -/
theorem serviceNamesInBounds_refines {names : Option (List (List UInt8))}
    (htag : 2 < (chars requesterOrReplier).length)
    (h : serviceNamesInBounds xml requesterOrReplier = some names) :
    serviceNames xml requesterOrReplier = some names := by
  unfold serviceNamesInBounds at h
  obtain ⟨serviceName, h₁, h⟩ := Option.bind_eq_some_iff.mp h
  obtain ⟨requestType, h₂, h⟩ := Option.bind_eq_some_iff.mp h
  obtain ⟨replyType, h₃, h⟩ := Option.bind_eq_some_iff.mp h
  unfold serviceNames
  refine Option.bind_eq_some_iff.mpr
    ⟨serviceName, findTagPropertyInBounds_refines htag (by decide) h₁, ?_⟩
  refine Option.bind_eq_some_iff.mpr
    ⟨requestType, findTagPropertyInBounds_refines htag (by decide) h₂, ?_⟩
  exact Option.bind_eq_some_iff.mpr
    ⟨replyType, findTagPropertyInBounds_refines htag (by decide) h₃, h⟩

end Services

/-! ## Descriptions -/

/-- What a description in XML needs is there, and its names fit. -/
def XmlComplete (xml : List UInt8) (type : UInt8) : Prop :=
  if type = dataReaderId then TopicComplete xml "data_reader"
  else if type = dataWriterId then TopicComplete xml "data_writer"
  else if type = requesterId then ServiceComplete xml "requester"
  else if type = replierId then ServiceComplete xml "replier"
  else True

/-- No tag in the text opens an element of this name, or none closes one. -/
def LacksElement (xml : List UInt8) (tag : String) : Prop :=
  (∀ p, tagAt xml '<' tag p = false) ∨ ∀ p, tagAt xml '/' tag p = false

/-- The name of a property is nowhere in the text. -/
def LacksProperty (xml : List UInt8) (property : String) : Prop :=
  ∀ p, startsAt xml (chars property) p = false

/-- An element or a property that a description in XML needs is nowhere in it. -/
def XmlLacks (xml : List UInt8) (type : UInt8) : Prop :=
  if type = dataReaderId then
    ∃ tag ∈ ["dds", "data_reader", "topic", "name", "dataType"], LacksElement xml tag
  else if type = dataWriterId then
    ∃ tag ∈ ["dds", "data_writer", "topic", "name", "dataType"], LacksElement xml tag
  else if type = requesterId ∨ type = replierId then
    ∃ property ∈ ["service_name", "request_type", "reply_type"], LacksProperty xml property
  else
    False

theorem Taken.not_lacks {xml : List UInt8} {window piece : Nat × Nat} {tag : String}
    (h : Taken xml window tag piece) : ¬ LacksElement xml tag := by
  obtain ⟨opener, content, closer, hplaces, -⟩ := h
  rintro (hopens | hcloses)
  · exact Bool.false_ne_true ((hopens opener).symm.trans hplaces.opens.holds)
  · exact Bool.false_ne_true ((hcloses closer).symm.trans hplaces.closes.holds)

theorem PropertyTaken.not_lacks {xml : List UInt8} {piece : Nat × Nat} {tag property : String}
    (h : PropertyTaken xml tag property piece) : ¬ LacksProperty xml property := by
  obtain ⟨opener, place, -, hstarts, -⟩ := h
  exact fun hlacks => Bool.false_ne_true ((hlacks place).symm.trans hstarts.holds)

theorem TopicComplete.not_lacks {xml : List UInt8} {dataReaderOrWriter : String}
    (h : TopicComplete xml dataReaderOrWriter) :
    ¬ ∃ tag ∈ ["dds", dataReaderOrWriter, "topic", "name", "dataType"], LacksElement xml tag := by
  obtain ⟨dds, endpoint, topic, name, dataType, h₁, h₂, h₃, h₄, h₅, -⟩ := h
  rintro ⟨tag, hmem, hlacks⟩
  simp only [List.mem_cons, List.not_mem_nil, or_false] at hmem
  rcases hmem with rfl | rfl | rfl | rfl | rfl
  · exact h₁.not_lacks hlacks
  · exact h₂.not_lacks hlacks
  · exact h₃.not_lacks hlacks
  · exact h₄.not_lacks hlacks
  · exact h₅.not_lacks hlacks

theorem ServiceComplete.not_lacks {xml : List UInt8} {requesterOrReplier : String}
    (h : ServiceComplete xml requesterOrReplier) :
    ¬ ∃ property ∈ ["service_name", "request_type", "reply_type"],
      LacksProperty xml property := by
  obtain ⟨serviceName, requestType, replyType, h₁, h₂, h₃, -⟩ := h
  rintro ⟨property, hmem, hlacks⟩
  simp only [List.mem_cons, List.not_mem_nil, or_false] at hmem
  rcases hmem with rfl | rfl | rfl
  · exact h₁.not_lacks hlacks
  · exact h₂.not_lacks hlacks
  · exact h₃.not_lacks hlacks

/-- What a description needs is not there if it is nowhere in the text. -/
theorem XmlLacks.not_complete {xml : List UInt8} {type : UInt8} (h : XmlLacks xml type) :
    ¬ XmlComplete xml type := by
  unfold XmlLacks at h
  unfold XmlComplete
  by_cases hreader : type = dataReaderId
  · rw [if_pos hreader] at h ⊢
    exact fun hcomplete => hcomplete.not_lacks h
  rw [if_neg hreader] at h ⊢
  by_cases hwriter : type = dataWriterId
  · rw [if_pos hwriter] at h ⊢
    exact fun hcomplete => hcomplete.not_lacks h
  rw [if_neg hwriter] at h ⊢
  split at h
  · next hservice =>
    by_cases hrequester : type = requesterId
    · rw [if_pos hrequester]
      exact fun hcomplete => hcomplete.not_lacks h
    · rw [if_neg hrequester, if_pos (hservice.resolve_left hrequester)]
      exact fun hcomplete => hcomplete.not_lacks h
  · exact h.elim

/-- Something is absent from a description in XML, and looking for it does not leave the text. -/
def XmlAbsent (xml : List UInt8) (type : UInt8) : Prop :=
  if type = dataReaderId then TopicAbsent xml "data_reader"
  else if type = dataWriterId then TopicAbsent xml "data_writer"
  else if type = requesterId ∨ type = replierId then xml.length ≤ 1
  else False

/-- The function is defined with a result exactly in these cases. -/
theorem generateHashInBounds_eq_some_iff {xml : List UInt8} {type : UInt8} (found : Bool) :
    generateHashInBounds xml type = some found ↔
      if found then XmlComplete xml type else XmlAbsent xml type := by
  unfold generateHashInBounds XmlComplete XmlAbsent
  by_cases hreader : type = dataReaderId
  · subst hreader
    exact topicNamesInBounds_isSome_iff (by decide) found
  by_cases hwriter : type = dataWriterId
  · subst hwriter
    exact topicNamesInBounds_isSome_iff (by decide) found
  by_cases hrequester : type = requesterId
  · subst hrequester
    exact serviceNamesInBounds_isSome_iff (by decide) found
  by_cases hreplier : type = replierId
  · subst hreplier
    exact serviceNamesInBounds_isSome_iff (by decide) found
  · rw [if_neg hreader, if_neg hwriter, if_neg hrequester, if_neg hreplier, if_neg hreader,
      if_neg hwriter, if_neg hrequester, if_neg hreplier, if_neg hreader, if_neg hwriter,
      if_neg (not_or.mpr ⟨hrequester, hreplier⟩)]
    cases found with
    | true => simp
    | false => simp

/-- For the kinds with names, the result says whether names are found without the bounds. -/
theorem generateHashInBounds_refines {xml : List UInt8} {type : UInt8} {found : Bool}
    (htype : type ∈ [dataReaderId, dataWriterId, requesterId, replierId])
    (h : generateHashInBounds xml type = some found) :
    ∃ names, xmlNames xml type = some names ∧ names.isSome = found := by
  simp only [List.mem_cons, List.not_mem_nil, or_false] at htype
  rcases htype with rfl | rfl | rfl | rfl
  · obtain ⟨names, hnames, hfound⟩ := Option.map_eq_some_iff.mp h
    exact ⟨names, topicNamesInBounds_refines (by decide) hnames, hfound⟩
  · obtain ⟨names, hnames, hfound⟩ := Option.map_eq_some_iff.mp h
    exact ⟨names, topicNamesInBounds_refines (by decide) hnames, hfound⟩
  · obtain ⟨names, hnames, hfound⟩ := Option.map_eq_some_iff.mp h
    exact ⟨names, serviceNamesInBounds_refines (by decide) hnames, hfound⟩
  · obtain ⟨names, hnames, hfound⟩ := Option.map_eq_some_iff.mp h
    exact ⟨names, serviceNamesInBounds_refines (by decide) hnames, hfound⟩

/-- Looking for names in XML reads nothing behind the text, uses no length that was not set and
writes nothing behind its buffer, and says so where something is missing or does not fit, as where
it is nowhere in the text, exactly if everything is there and fits, or if it stops at an element
that is absent near enough to the start of the text. -/
theorem hash_inBounds_iff (xml : List UInt8) (type : UInt8) :
    (∃ found, generateHashInBounds xml type = some found ∧
      (¬ XmlComplete xml type → found = false) ∧ (XmlLacks xml type → found = false)) ↔
    XmlComplete xml type ∨ XmlAbsent xml type := by
  constructor
  · rintro ⟨found, hfound, -⟩
    have hfound := (generateHashInBounds_eq_some_iff found).mp hfound
    cases found with
    | true => exact Or.inl hfound
    | false => exact Or.inr hfound
  · rintro (hcomplete | habsent)
    · exact ⟨true, (generateHashInBounds_eq_some_iff true).mpr hcomplete,
        fun hnot => absurd hcomplete hnot, fun hlacks => absurd hcomplete hlacks.not_complete⟩
    · exact ⟨false, (generateHashInBounds_eq_some_iff false).mpr habsent, fun _ => rfl,
        fun _ => rfl⟩

/-- Without the type of a topic, a length that was not set is used; a name of a hundred characters
ends behind the buffer; and a text without any tag is compared behind its end. -/
theorem hash_leavesBounds :
    generateHashInBounds
      (chars "<dds><data_writer><topic><name>a</name></topic></data_writer></dds>") dataWriterId =
        none ∧
    generateHashInBounds
      (topicXml "data_writer" (String.ofList (List.replicate 100 'a')) "T") dataWriterId = none ∧
    generateHashInBounds (chars "abc") dataWriterId = none := by
  refine ⟨?_, ?_, ?_⟩
  · decide +kernel
  · decide +kernel
  · decide +kernel

end XrceClient
