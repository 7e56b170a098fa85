import XrceClient.SharedMemory.XmlPlaces

/-!
# Topics in XML (`matching.c`)

The XML of a data writer or a data reader has an element of its topic, in which the elements `name`
and `dataType` stand.

- `TopicDocument`: such a text, with the places of its elements.
- `Hashed`: what is hashed are the texts of these two elements, one behind the other.
- `OpenersClear`, `ClosersClear`: nothing else in the text looks like one of their tags.
- `topics_hashed_iff`: where their texts are what is hashed, and which documents then have the same
  input of the hash.
-/

namespace XrceClient

open ByteMemory

/-! ## Documents -/

/-- An element in a text: the place of its name in the tag that opens it, of its content, and of
its name in the tag that closes it. -/
structure XmlElement (xml : List UInt8) (tag : String) where
  opener : Nat
  content : Nat
  closer : Nat
  inText : 0 < opener
  opens : tagAt xml '<' tag opener = true
  tagged : opener < content ∧ charAt xml '>' (content - 1) = true
  ends : content + 2 ≤ closer
  closes : tagAt xml '/' tag closer = true
  closed : charAt xml '<' (closer - 2) = true

namespace XmlElement

variable {xml : List UInt8} {tag tag' : String}

/-- The text of an element. -/
def text (e : XmlElement xml tag) : List UInt8 := slice xml (e.content, e.closer - 2 - e.content)

/-- An element is in the content of another one. -/
def Contains (e : XmlElement xml tag) (e' : XmlElement xml tag') : Prop :=
  e.content < e'.opener ∧ e'.closer + 2 < e.closer

/-- An element is behind another one. -/
def Behind (e : XmlElement xml tag) (e' : XmlElement xml tag') : Prop := e.closer < e'.opener

/-- The tag that opens an element is the first one from `start` on with its name at the start of
its own, and the angle bracket that ends it is the first one in it. -/
def OpensFirst (e : XmlElement xml tag) (start : Nat) : Prop :=
  (∀ p < e.opener, start < p → tagAt xml '<' tag p = false) ∧
    ∀ p < e.content - 1, e.opener ≤ p → charAt xml '>' p = false

/-- A place behind the opening tag is the first one with the name behind a slash. -/
def ClosesAt (e : XmlElement xml tag) (closer : Nat) : Prop :=
  FirstBehind (tagAt xml '/' tag) e.opener closer

end XmlElement

/-- A text in which an endpoint is described: the elements `name` and `dataType` stand in the
element of a topic, in any order, and what is in them has no angle brackets and fits. -/
structure TopicDocument (dataReaderOrWriter : String) where
  xml : List UInt8
  size : xml.length < 2 ^ 64 - 1
  dds : XmlElement xml "dds"
  endpoint : XmlElement xml dataReaderOrWriter
  topic : XmlElement xml "topic"
  name : XmlElement xml "name"
  dataType : XmlElement xml "dataType"
  endpointInside : dds.Contains endpoint
  topicInside : endpoint.Contains topic
  nameInside : topic.Contains name
  dataTypeInside : topic.Contains dataType
  apart : name.Behind dataType ∨ dataType.Behind name
  plain : ∀ c ∈ name.text ++ dataType.text, c ≠ UInt8.ofNat '<'.toNat ∧ c ≠ UInt8.ofNat '>'.toNat
  fits : name.text.length + dataType.text.length < nameTypeBufferSize

namespace TopicDocument

variable {dataReaderOrWriter : String}

/-- The texts of the two elements, one behind the other. -/
def hashInput (doc : TopicDocument dataReaderOrWriter) : List UInt8 :=
  doc.name.text ++ doc.dataType.text

/-- The names that are found are the texts of the two elements. -/
def TextsFound (doc : TopicDocument dataReaderOrWriter) : Prop :=
  ∃ names, topicNames doc.xml dataReaderOrWriter = some (some names) ∧
    names.flatten = doc.hashInput

/-- `uxr_generate_hash_from_xml` returns `true` for an endpoint of a kind, and hashes the texts of
the two elements. -/
def Hashed (doc : TopicDocument dataReaderOrWriter) (type : UInt8) : Prop :=
  (∃ names, xmlNames doc.xml type = some (some names) ∧ names.flatten = doc.hashInput) ∧
    ∀ id hash, id.type = type →
      generateHashFromXml doc.xml id hash = some (hashString doc.hashInput none)

/-- No other tag is taken for one that opens an element of the document. -/
structure OpenersClear (doc : TopicDocument dataReaderOrWriter) : Prop where
  dds : doc.dds.OpensFirst 0
  endpoint : doc.endpoint.OpensFirst doc.dds.content
  topic : doc.topic.OpensFirst doc.endpoint.content
  name : doc.name.OpensFirst doc.topic.content
  dataType : doc.dataType.OpensFirst doc.topic.content

/-- The names behind a slash are those in the closing tags of `name` and `dataType`, and no name
behind a slash ends the contents around them too early. -/
def ClosersClear (doc : TopicDocument dataReaderOrWriter) : Prop :=
  doc.name.ClosesAt doc.name.closer ∧ doc.dataType.ClosesAt doc.dataType.closer ∧
    ∃ ddsCloser endpointCloser topicCloser,
      doc.dds.ClosesAt ddsCloser ∧ doc.endpoint.ClosesAt endpointCloser ∧
      doc.topic.ClosesAt topicCloser ∧
      Inside doc.dds.content ddsCloser endpointCloser ∧
      Inside doc.endpoint.content endpointCloser topicCloser ∧
      Inside doc.topic.content topicCloser doc.name.closer ∧
      Inside doc.topic.content topicCloser doc.dataType.closer

/-- The same text, with the same texts of `name` and `dataType`. The contents around these may begin
elsewhere: at an angle bracket in an attribute, if that is where a tag is taken to end. -/
structure SameNames (doc read : TopicDocument dataReaderOrWriter) : Prop where
  xml : read.xml = doc.xml
  hashInput : read.hashInput = doc.hashInput

/-- What is taken for the two elements has the same texts. -/
def SameTexts (doc : TopicDocument dataReaderOrWriter) : Prop :=
  ∃ dds endpoint topic name dataType,
    Taken doc.xml (0, doc.xml.length) "dds" dds ∧ Taken doc.xml dds dataReaderOrWriter endpoint ∧
    Taken doc.xml endpoint "topic" topic ∧ Taken doc.xml topic "name" name ∧
    Taken doc.xml topic "dataType" dataType ∧ name.2 + dataType.2 < nameTypeBufferSize ∧
    slice doc.xml name ++ slice doc.xml dataType = doc.hashInput

end TopicDocument

/-! ## What is found -/

theorem findTags_eq_some_iff {xml : List UInt8} {tag : String} {tags : List String}
    {window piece : Nat × Nat} (htag : chars tag ≠ []) :
    findTags xml (tag :: tags) window = some (some piece) ↔
      ∃ inner, Taken xml window tag inner ∧ findTags xml tags inner = some (some piece) := by
  rw [findTags]
  constructor
  · intro h
    obtain ⟨found, hfound, h⟩ := Option.bind_eq_some_iff.mp h
    cases found with
    | none => cases h
    | some inner => exact ⟨inner, (findTagXml_eq_some_iff htag).mp hfound, h⟩
  · rintro ⟨inner, htaken, h⟩
    exact Option.bind_eq_some_iff.mpr ⟨some inner, (findTagXml_eq_some_iff htag).mpr htaken, h⟩

/-- The names of a topic are found where the tags are taken to be, if they fit. -/
theorem topicNames_eq_some_iff {xml : List UInt8} {dataReaderOrWriter : String}
    {names : List (List UInt8)} (hendpoint : chars dataReaderOrWriter ≠ []) :
    topicNames xml dataReaderOrWriter = some (some names) ↔ ∃ dds endpoint topic name dataType,
      Taken xml (0, xml.length) "dds" dds ∧ Taken xml dds dataReaderOrWriter endpoint ∧
      Taken xml endpoint "topic" topic ∧ Taken xml topic "name" name ∧
      Taken xml topic "dataType" dataType ∧ name.2 + dataType.2 < nameTypeBufferSize ∧
      names = [slice xml name, slice xml dataType] := by
  have hdds : chars "dds" ≠ [] := by decide
  have htopic : chars "topic" ≠ [] := by decide
  have hname : chars "name" ≠ [] := by decide
  have hdataType : chars "dataType" ≠ [] := by decide
  unfold topicNames
  constructor
  · intro h
    obtain ⟨found, hfound, h⟩ := Option.bind_eq_some_iff.mp h
    cases found with
    | none => cases h
    | some topic =>
      obtain ⟨dds, hddsTaken, hfound⟩ := (findTags_eq_some_iff hdds).mp hfound
      obtain ⟨endpoint, hendpointTaken, hfound⟩ := (findTags_eq_some_iff hendpoint).mp hfound
      obtain ⟨topic', htopicTaken, hfound⟩ := (findTags_eq_some_iff htopic).mp hfound
      cases hfound
      obtain ⟨_, hfound, hnames⟩ := Option.bind_eq_some_iff.mp h
      obtain ⟨name, rfl, hnames'⟩ := Option.bind_eq_some_iff.mp hnames
      obtain ⟨_, hfound', htypes⟩ := Option.bind_eq_some_iff.mp hnames'
      obtain ⟨dataType, rfl, hcopied⟩ := Option.bind_eq_some_iff.mp htypes
      split at hcopied
      · rename_i hfits
        cases hcopied
        exact ⟨dds, endpoint, topic, name, dataType, hddsTaken, hendpointTaken, htopicTaken,
          (findTagXml_eq_some_iff hname).mp hfound,
          (findTagXml_eq_some_iff hdataType).mp hfound', hfits, rfl⟩
      · cases hcopied
  · rintro ⟨dds, endpoint, topic, name, dataType, hddsTaken, hendpointTaken, htopicTaken,
      hnameTaken, hdataTypeTaken, hfits, rfl⟩
    have htags : findTags xml ["dds", dataReaderOrWriter, "topic"] (0, xml.length) =
        some (some topic) :=
      (findTags_eq_some_iff hdds).mpr ⟨dds, hddsTaken, (findTags_eq_some_iff hendpoint).mpr
        ⟨endpoint, hendpointTaken, (findTags_eq_some_iff htopic).mpr ⟨topic, htopicTaken, rfl⟩⟩⟩
    refine Option.bind_eq_some_iff.mpr ⟨some topic, htags, ?_⟩
    refine Option.bind_eq_some_iff.mpr
      ⟨some name, (findTagXml_eq_some_iff hname).mpr hnameTaken, ?_⟩
    refine Option.bind_eq_some_iff.mpr ⟨name, rfl, ?_⟩
    refine Option.bind_eq_some_iff.mpr
      ⟨some dataType, (findTagXml_eq_some_iff hdataType).mpr hdataTypeTaken, ?_⟩
    refine Option.bind_eq_some_iff.mpr ⟨dataType, rfl, ?_⟩
    exact if_pos hfits

/-! ## What is taken for an element -/

namespace XmlElement

variable {xml : List UInt8} {tag : String} (e : XmlElement xml tag)

theorem places {start closer : Nat} (hstart : start < e.opener) (hfirst : e.OpensFirst start)
    (hcloses : e.ClosesAt closer) : TagPlaces xml tag start e.opener e.content closer :=
  ⟨⟨hstart, e.opens, hfirst.1⟩, e.tagged.1, e.tagged.2, hfirst.2, hcloses⟩

/-- Where nothing else is taken for the opening tag, the content is that of the element. -/
theorem taken_iff {window piece : Nat × Nat} (hstart : window.1 < e.opener)
    (hfirst : e.OpensFirst window.1) : Taken xml window tag piece ↔ ∃ closer,
      e.ClosesAt closer ∧ closer < window.1 + window.2 ∧
        piece = (e.content, contentLen e.content closer) := by
  constructor
  · rintro ⟨opener, content, closer, hplaces, hwindow, rfl⟩
    have hopener : opener = e.opener :=
      hplaces.opens.unique ⟨hstart, e.opens, hfirst.1⟩
    subst hopener
    -- the first closing brackets are the same
    have hcontent : content = e.content := by
      rcases Nat.lt_trichotomy content e.content with hlt | heq | hlt
      · have hne := hfirst.2 (content - 1) (by have := hplaces.behind; omega)
          (by have := hplaces.behind; omega)
        rw [hplaces.bracket] at hne
        cases hne
      · exact heq
      · have hne := hplaces.attributes (e.content - 1) (by have := e.tagged.1; omega)
          (by have := e.tagged.1; omega)
        rw [e.tagged.2] at hne
        cases hne
    subst hcontent
    exact ⟨closer, hplaces.closes, hwindow, rfl⟩
  · rintro ⟨closer, hcloses, hwindow, rfl⟩
    exact ⟨e.opener, e.content, closer, e.places hstart hfirst hcloses, hwindow, rfl⟩

theorem content_le : e.content ≤ xml.length := by
  have hbracket : UInt8.ofNat '>'.toNat ≠ 0 := by decide
  have := charAt_lt hbracket e.tagged.2
  omega

theorem closer_lt (htag : chars tag ≠ []) : e.closer < xml.length := tagAt_lt htag e.closes

/-- What is in the window of an element. -/
theorem lt_content_iff {closer place : Nat} (hsize : xml.length < 2 ^ 64 - 1)
    (htag : chars tag ≠ []) (hcloses : e.ClosesAt closer) (hplace : place < xml.length) :
    place < e.content + contentLen e.content closer ↔ Inside e.content closer place :=
  lt_window_iff e.content_le (by have := hcloses.behind; have := e.inText; omega)
    (tagAt_lt htag hcloses.holds) hplace hsize

theorem text_length : e.text.length = e.closer - 2 - e.content := by
  have hbracket : UInt8.ofNat '<'.toNat ≠ 0 := by decide
  have hlt := charAt_lt hbracket e.closed
  rw [text, slice, List.length_take, List.length_drop]
  omega

/-- A piece that starts like the content and has no angle bracket is not longer than the text. -/
theorem length_le_of_plain {len : Nat}
    (hplain : UInt8.ofNat '<'.toNat ∉ slice xml (e.content, len)) : len ≤ e.text.length := by
  by_contra hlong
  have hbracket : UInt8.ofNat '<'.toNat ≠ 0 := by decide
  have hlt := charAt_lt hbracket e.closed
  have hends := e.ends
  rw [e.text_length] at hlong
  have hindex : e.closer - 2 - e.content < (slice xml (e.content, len)).length := by
    rw [slice, List.length_take, List.length_drop]
    dsimp only
    omega
  -- the bracket of the closing tag is in the piece
  have hat : (slice xml (e.content, len))[e.closer - 2 - e.content] = UInt8.ofNat '<'.toNat := by
    have hclosed := e.closed
    rw [charAt, decide_eq_true_eq, List.getD_eq_getElem _ _ hlt] at hclosed
    rw [← hclosed]
    simp only [slice, List.getElem_take, List.getElem_drop]
    congr 1
    omega
  exact hplain (hat ▸ List.getElem_mem hindex)

end XmlElement

/-- Two pieces that start like the contents of elements without angle brackets have the same texts
exactly if they are as long. -/
theorem slices_eq_texts_iff {xml : List UInt8} {tag tag' : String} (e : XmlElement xml tag)
    (e' : XmlElement xml tag') {len len' : Nat}
    (hplain : UInt8.ofNat '<'.toNat ∉ e.text ++ e'.text) :
    slice xml (e.content, len) ++ slice xml (e'.content, len') = e.text ++ e'.text ↔
      len = e.text.length ∧ len' = e'.text.length := by
  constructor
  · intro heq
    rw [← heq, List.mem_append, not_or] at hplain
    have hlen := e.length_le_of_plain hplain.1
    have hlen' := e'.length_le_of_plain hplain.2
    have hsum := congrArg List.length heq
    rw [List.length_append, List.length_append, slice, slice, List.length_take, List.length_take]
      at hsum
    dsimp only at hsum
    omega
  · rintro ⟨rfl, rfl⟩
    rw [e.text_length, e'.text_length]
    rfl

/-! ## Documents in which nothing else is taken for a tag -/

namespace TopicDocument

variable {dataReaderOrWriter : String} {doc : TopicDocument dataReaderOrWriter}

/-- The names of a document are found if no content around them ends too early. -/
theorem OpenersClear.topicNames_iff (h : doc.OpenersClear)
    (hendpoint : chars dataReaderOrWriter ≠ []) {names : List (List UInt8)} :
    topicNames doc.xml dataReaderOrWriter = some (some names) ↔
      ∃ ddsCloser endpointCloser topicCloser nameCloser dataTypeCloser,
        (doc.dds.ClosesAt ddsCloser ∧ doc.endpoint.ClosesAt endpointCloser ∧
          doc.topic.ClosesAt topicCloser ∧ doc.name.ClosesAt nameCloser ∧
          doc.dataType.ClosesAt dataTypeCloser) ∧
        (Inside doc.dds.content ddsCloser endpointCloser ∧
          Inside doc.endpoint.content endpointCloser topicCloser ∧
          Inside doc.topic.content topicCloser nameCloser ∧
          Inside doc.topic.content topicCloser dataTypeCloser) ∧
        contentLen doc.name.content nameCloser + contentLen doc.dataType.content dataTypeCloser <
          nameTypeBufferSize ∧
        names = [slice doc.xml (doc.name.content, contentLen doc.name.content nameCloser),
          slice doc.xml (doc.dataType.content, contentLen doc.dataType.content dataTypeCloser)] := by
  have hdds : chars "dds" ≠ [] := by decide
  have htopic : chars "topic" ≠ [] := by decide
  have hname : chars "name" ≠ [] := by decide
  have hdataType : chars "dataType" ≠ [] := by decide
  rw [topicNames_eq_some_iff hendpoint]
  constructor
  · rintro ⟨dds, endpoint, topic, name, dataType, hddsTaken, hendpointTaken, htopicTaken,
      hnameTaken, hdataTypeTaken, hfits, rfl⟩
    -- from the outermost element to the innermost one
    obtain ⟨c₁, hc₁, -, rfl⟩ := (doc.dds.taken_iff doc.dds.inText h.dds).mp hddsTaken
    obtain ⟨c₂, hc₂, hin₂, rfl⟩ :=
      (doc.endpoint.taken_iff doc.endpointInside.1 h.endpoint).mp hendpointTaken
    obtain ⟨c₃, hc₃, hin₃, rfl⟩ := (doc.topic.taken_iff doc.topicInside.1 h.topic).mp htopicTaken
    obtain ⟨c₄, hc₄, hin₄, rfl⟩ := (doc.name.taken_iff doc.nameInside.1 h.name).mp hnameTaken
    obtain ⟨c₅, hc₅, hin₅, rfl⟩ :=
      (doc.dataType.taken_iff doc.dataTypeInside.1 h.dataType).mp hdataTypeTaken
    refine ⟨c₁, c₂, c₃, c₄, c₅, ⟨hc₁, hc₂, hc₃, hc₄, hc₅⟩, ⟨?_, ?_, ?_, ?_⟩, hfits, rfl⟩
    · exact (doc.dds.lt_content_iff doc.size hdds hc₁ (tagAt_lt hendpoint hc₂.holds)).mp hin₂
    · exact (doc.endpoint.lt_content_iff doc.size hendpoint hc₂
        (tagAt_lt htopic hc₃.holds)).mp hin₃
    · exact (doc.topic.lt_content_iff doc.size htopic hc₃ (tagAt_lt hname hc₄.holds)).mp hin₄
    · exact (doc.topic.lt_content_iff doc.size htopic hc₃ (tagAt_lt hdataType hc₅.holds)).mp hin₅
  · rintro ⟨c₁, c₂, c₃, c₄, c₅, ⟨hc₁, hc₂, hc₃, hc₄, hc₅⟩, ⟨hin₂, hin₃, hin₄, hin₅⟩, hfits, rfl⟩
    refine ⟨(doc.dds.content, contentLen doc.dds.content c₁),
      (doc.endpoint.content, contentLen doc.endpoint.content c₂),
      (doc.topic.content, contentLen doc.topic.content c₃),
      (doc.name.content, contentLen doc.name.content c₄),
      (doc.dataType.content, contentLen doc.dataType.content c₅), ?_, ?_, ?_, ?_, ?_, hfits, rfl⟩
    · refine (doc.dds.taken_iff doc.dds.inText h.dds).mpr ⟨c₁, hc₁, ?_, rfl⟩
      have := tagAt_lt hdds hc₁.holds
      dsimp only
      omega
    · refine (doc.endpoint.taken_iff doc.endpointInside.1 h.endpoint).mpr ⟨c₂, hc₂, ?_, rfl⟩
      exact (doc.dds.lt_content_iff doc.size hdds hc₁ (tagAt_lt hendpoint hc₂.holds)).mpr hin₂
    · refine (doc.topic.taken_iff doc.topicInside.1 h.topic).mpr ⟨c₃, hc₃, ?_, rfl⟩
      exact (doc.endpoint.lt_content_iff doc.size hendpoint hc₂
        (tagAt_lt htopic hc₃.holds)).mpr hin₃
    · refine (doc.name.taken_iff doc.nameInside.1 h.name).mpr ⟨c₄, hc₄, ?_, rfl⟩
      exact (doc.topic.lt_content_iff doc.size htopic hc₃ (tagAt_lt hname hc₄.holds)).mpr hin₄
    · refine (doc.dataType.taken_iff doc.dataTypeInside.1 h.dataType).mpr ⟨c₅, hc₅, ?_, rfl⟩
      exact (doc.topic.lt_content_iff doc.size htopic hc₃ (tagAt_lt hdataType hc₅.holds)).mpr hin₅

end TopicDocument

/-- The text that ends at a closer is that of the element exactly if it is its own. -/
theorem XmlElement.contentLen_eq_text_iff {xml : List UInt8} {tag : String}
    (e : XmlElement xml tag) {closer : Nat} (hsize : xml.length < 2 ^ 64 - 1)
    (htag : chars tag ≠ []) (hcloser : closer < xml.length) :
    contentLen e.content closer = e.text.length ↔ closer = e.closer := by
  have hcontent := e.content_le
  have hends := e.ends
  have hlt := e.closer_lt htag
  rw [e.text_length]
  by_cases h : e.content + 2 ≤ closer
  · rw [contentLen_eq h (by omega)]
    omega
  · have hnegative := contentLen_negative (by omega : closer < e.content + 2) (by omega)
    omega

namespace TopicDocument

variable {dataReaderOrWriter : String} {doc : TopicDocument dataReaderOrWriter}

theorem plain_texts (doc : TopicDocument dataReaderOrWriter) :
    UInt8.ofNat '<'.toNat ∉ doc.name.text ++ doc.dataType.text :=
  fun hmem => (doc.plain _ hmem).1 rfl

/-- Where nothing else is taken for an opening tag, it depends on the closing tags. -/
theorem OpenersClear.textsFound_iff (h : doc.OpenersClear)
    (hendpoint : chars dataReaderOrWriter ≠ []) : doc.TextsFound ↔ doc.ClosersClear := by
  have hname : chars "name" ≠ [] := by decide
  have hdataType : chars "dataType" ≠ [] := by decide
  constructor
  · rintro ⟨names, hfound, hnames⟩
    obtain ⟨c₁, c₂, c₃, c₄, c₅, ⟨hc₁, hc₂, hc₃, hc₄, hc₅⟩, ⟨hin₂, hin₃, hin₄, hin₅⟩, -, rfl⟩ :=
      (h.topicNames_iff hendpoint).mp hfound
    rw [List.flatten_cons, List.flatten_cons, List.flatten_nil, List.append_nil] at hnames
    obtain ⟨hlen, hlen'⟩ := (slices_eq_texts_iff _ _ doc.plain_texts).mp hnames
    have hc := (doc.name.contentLen_eq_text_iff doc.size hname (tagAt_lt hname hc₄.holds)).mp hlen
    have hc' := (doc.dataType.contentLen_eq_text_iff doc.size hdataType
      (tagAt_lt hdataType hc₅.holds)).mp hlen'
    subst hc
    subst hc'
    exact ⟨hc₄, hc₅, c₁, c₂, c₃, hc₁, hc₂, hc₃, hin₂, hin₃, hin₄, hin₅⟩
  · rintro ⟨hc₄, hc₅, c₁, c₂, c₃, hc₁, hc₂, hc₃, hin₂, hin₃, hin₄, hin₅⟩
    have hlen := (doc.name.contentLen_eq_text_iff doc.size hname (doc.name.closer_lt hname)).mpr rfl
    have hlen' := (doc.dataType.contentLen_eq_text_iff doc.size hdataType
      (doc.dataType.closer_lt hdataType)).mpr rfl
    refine ⟨_, (h.topicNames_iff hendpoint).mpr ⟨c₁, c₂, c₃, _, _, ⟨hc₁, hc₂, hc₃, hc₄, hc₅⟩,
      ⟨hin₂, hin₃, hin₄, hin₅⟩, by rw [hlen, hlen']; exact doc.fits, rfl⟩, ?_⟩
    rw [List.flatten_cons, List.flatten_cons, List.flatten_nil, List.append_nil]
    exact (slices_eq_texts_iff _ _ doc.plain_texts).mpr ⟨hlen, hlen'⟩

/-- In any case the texts are those that are taken for the two elements. -/
theorem textsFound_iff_sameTexts (doc : TopicDocument dataReaderOrWriter)
    (hendpoint : chars dataReaderOrWriter ≠ []) : doc.TextsFound ↔ doc.SameTexts := by
  have hflat (a b : List UInt8) : [a, b].flatten = a ++ b := by simp
  constructor
  · rintro ⟨names, hfound, hnames⟩
    obtain ⟨dds, endpoint, topic, name, dataType, h₁, h₂, h₃, h₄, h₅, hfits, rfl⟩ :=
      (topicNames_eq_some_iff hendpoint).mp hfound
    exact ⟨dds, endpoint, topic, name, dataType, h₁, h₂, h₃, h₄, h₅, hfits, hflat _ _ ▸ hnames⟩
  · rintro ⟨dds, endpoint, topic, name, dataType, h₁, h₂, h₃, h₄, h₅, hfits, htexts⟩
    exact ⟨_, (topicNames_eq_some_iff hendpoint).mpr
      ⟨dds, endpoint, topic, name, dataType, h₁, h₂, h₃, h₄, h₅, hfits, rfl⟩, by
      rw [hflat, htexts]⟩

/-- The texts are found, if nothing else looks like a tag; and where something else is taken for
an opening tag, if the same texts are found with it. -/
theorem textsFound_iff (doc : TopicDocument dataReaderOrWriter)
    (hendpoint : chars dataReaderOrWriter ≠ []) : doc.TextsFound ↔
      (doc.OpenersClear ∧ doc.ClosersClear) ∨ (¬ doc.OpenersClear ∧ doc.SameTexts) := by
  by_cases h : doc.OpenersClear
  · rw [h.textsFound_iff hendpoint]
    simp [h]
  · rw [doc.textsFound_iff_sameTexts hendpoint]
    simp [h]

/-- What is found is what is hashed. -/
theorem hashed_iff_textsFound {type : UInt8} (doc : TopicDocument dataReaderOrWriter)
    (htype : xmlNames doc.xml type = topicNames doc.xml dataReaderOrWriter) :
    doc.Hashed type ↔ doc.TextsFound := by
  constructor
  · rintro ⟨⟨names, hfound, hnames⟩, -⟩
    exact ⟨names, htype ▸ hfound, hnames⟩
  · rintro ⟨names, hfound, hnames⟩
    refine ⟨⟨names, htype.trans hfound, hnames⟩, ?_⟩
    rintro id hash rfl
    unfold generateHashFromXml
    rw [htype, hfound, ← hnames]
    rfl

/-- What is hashed depends on the text, and not on where the contents begin. -/
theorem SameNames.hashed_iff {doc read : TopicDocument dataReaderOrWriter} {type : UInt8}
    (h : doc.SameNames read) : doc.Hashed type ↔ read.Hashed type := by
  rw [Hashed, Hashed, h.xml, h.hashInput]

/-- Where the text can be read such that nothing else is taken for an opening tag, it depends on the
closing tags. -/
theorem SameNames.hashed_iff_closersClear {doc read : TopicDocument dataReaderOrWriter}
    {type : UInt8} (h : doc.SameNames read) (hopeners : read.OpenersClear)
    (hendpoint : chars dataReaderOrWriter ≠ [])
    (htype : xmlNames read.xml type = topicNames read.xml dataReaderOrWriter) :
    doc.Hashed type ↔ read.ClosersClear :=
  h.hashed_iff.trans ((read.hashed_iff_textsFound htype).trans (hopeners.textsFound_iff hendpoint))

/-- For a data writer or a data reader, what is hashed are the texts of the elements `name` and
`dataType` exactly if nothing else looks like one of the tags, or the same texts are found where
it is taken for one. Where nothing else is taken for an opening tag, it depends on the closing tags,
also where the tags around the two elements are taken to end at a bracket in an attribute. Nothing
is between the texts: a data writer and a data reader with the same input have the same names
exactly if these are as long. -/
theorem topics_hashed_iff (writer : TopicDocument "data_writer")
    (reader : TopicDocument "data_reader") :
    (writer.Hashed dataWriterId ↔ (writer.OpenersClear ∧ writer.ClosersClear) ∨
      (¬ writer.OpenersClear ∧ writer.SameTexts)) ∧
    (reader.Hashed dataReaderId ↔ (reader.OpenersClear ∧ reader.ClosersClear) ∨
      (¬ reader.OpenersClear ∧ reader.SameTexts)) ∧
    (∀ read, writer.SameNames read → read.OpenersClear →
      (writer.Hashed dataWriterId ↔ read.ClosersClear)) ∧
    (∀ read, reader.SameNames read → read.OpenersClear →
      (reader.Hashed dataReaderId ↔ read.ClosersClear)) ∧
    ((writer.hashInput = reader.hashInput →
        writer.name.text = reader.name.text ∧ writer.dataType.text = reader.dataType.text) ↔
      (writer.hashInput = reader.hashInput →
        writer.name.text.length = reader.name.text.length)) := by
  refine ⟨?_, ?_, ?_, ?_, ?_⟩
  · rw [writer.hashed_iff_textsFound rfl, writer.textsFound_iff (by decide)]
  · rw [reader.hashed_iff_textsFound rfl, reader.textsFound_iff (by decide)]
  · exact fun read hread hopeners => hread.hashed_iff_closersClear hopeners (by decide) rfl
  · exact fun read hread hopeners => hread.hashed_iff_closersClear hopeners (by decide) rfl
  · constructor
    · intro hsame hinput
      rw [(hsame hinput).1]
    · intro hlength hinput
      exact List.append_inj hinput (hlength hinput)

end TopicDocument

/-! ## Documents without anything else -/

/-- The text that describes an endpoint by the names of its topic and of its type. -/
def topicXml (dataReaderOrWriter name dataType : String) : List UInt8 :=
  chars "<dds><" ++ chars dataReaderOrWriter ++ chars "><topic><name>" ++ chars name ++
    chars "</name><dataType>" ++ chars dataType ++ chars "</dataType></topic></" ++
    chars dataReaderOrWriter ++ chars "></dds>"

/-- Places at which an element is. -/
def elementAt (xml : List UInt8) (tag : String) (opener content closer : Nat) : Bool :=
  decide (0 < opener) && tagAt xml '<' tag opener && decide (opener < content) &&
    charAt xml '>' (content - 1) && decide (content + 2 ≤ closer) && tagAt xml '/' tag closer &&
    charAt xml '<' (closer - 2)

/-- The element at these places. -/
def XmlElement.of {xml : List UInt8} {tag : String} (opener content closer : Nat)
    (h : elementAt xml tag opener content closer = true) : XmlElement xml tag :=
  have h' : (((((0 < opener ∧ tagAt xml '<' tag opener = true) ∧ opener < content) ∧
      charAt xml '>' (content - 1) = true) ∧ content + 2 ≤ closer) ∧
      tagAt xml '/' tag closer = true) ∧ charAt xml '<' (closer - 2) = true := by
    simpa [elementAt] using h
  ⟨opener, content, closer, h'.1.1.1.1.1.1, h'.1.1.1.1.1.2, ⟨h'.1.1.1.1.2, h'.1.1.1.2⟩, h'.1.1.2,
    h'.1.2, h'.2⟩

/-- A topic whose name is the name of a tag behind a slash. -/
def slashedName : TopicDocument "data_writer" where
  xml := topicXml "data_writer" "a/name" "T"
  size := by decide +kernel
  dds := .of 1 5 90 (by decide +kernel)
  endpoint := .of 6 18 76 (by decide +kernel)
  topic := .of 19 25 68 (by decide +kernel)
  name := .of 26 31 39 (by decide +kernel)
  dataType := .of 45 54 57 (by decide +kernel)
  endpointInside := by unfold XmlElement.Contains; decide
  topicInside := by unfold XmlElement.Contains; decide
  nameInside := by unfold XmlElement.Contains; decide
  dataTypeInside := by unfold XmlElement.Contains; decide
  apart := by unfold XmlElement.Behind; decide
  plain := by decide +kernel
  fits := by decide +kernel

/-- A topic and a type of it that are joined to `abc`. -/
def writerOfAbc : TopicDocument "data_writer" where
  xml := topicXml "data_writer" "ab" "c"
  size := by decide +kernel
  dds := .of 1 5 86 (by decide +kernel)
  endpoint := .of 6 18 72 (by decide +kernel)
  topic := .of 19 25 64 (by decide +kernel)
  name := .of 26 31 35 (by decide +kernel)
  dataType := .of 41 50 53 (by decide +kernel)
  endpointInside := by unfold XmlElement.Contains; decide
  topicInside := by unfold XmlElement.Contains; decide
  nameInside := by unfold XmlElement.Contains; decide
  dataTypeInside := by unfold XmlElement.Contains; decide
  apart := by unfold XmlElement.Behind; decide
  plain := by decide +kernel
  fits := by decide +kernel

/-- Another topic and type that are joined to `abc`. -/
def readerOfAbc : TopicDocument "data_reader" where
  xml := topicXml "data_reader" "a" "bc"
  size := by decide +kernel
  dds := .of 1 5 86 (by decide +kernel)
  endpoint := .of 6 18 72 (by decide +kernel)
  topic := .of 19 25 64 (by decide +kernel)
  name := .of 26 31 34 (by decide +kernel)
  dataType := .of 40 49 53 (by decide +kernel)
  endpointInside := by unfold XmlElement.Contains; decide
  topicInside := by unfold XmlElement.Contains; decide
  nameInside := by unfold XmlElement.Contains; decide
  dataTypeInside := by unfold XmlElement.Contains; decide
  apart := by unfold XmlElement.Behind; decide
  plain := by decide +kernel
  fits := by decide +kernel

/-- Nothing in front of the slash is taken for the name; and other names have the same input. -/
theorem slashedName_not_hashed : ¬ slashedName.Hashed dataWriterId ∧
    writerOfAbc.Hashed dataWriterId ∧ readerOfAbc.Hashed dataReaderId ∧
    writerOfAbc.hashInput = readerOfAbc.hashInput ∧
    writerOfAbc.name.text ≠ readerOfAbc.name.text := by
  refine ⟨?_, ?_, ?_, by decide +kernel, by decide +kernel⟩
  · rintro ⟨⟨names, hfound, hnames⟩, -⟩
    have hread : xmlNames slashedName.xml dataWriterId = some (some [[], chars "T"]) := by
      decide +kernel
    rw [hread] at hfound
    cases hfound
    exact absurd hnames (by decide +kernel)
  · refine (writerOfAbc.hashed_iff_textsFound rfl).mpr ⟨[chars "ab", chars "c"], ?_, ?_⟩
    · decide +kernel
    · decide +kernel
  · refine (readerOfAbc.hashed_iff_textsFound rfl).mpr ⟨[chars "a", chars "bc"], ?_, ?_⟩
    · decide +kernel
    · decide +kernel

end XrceClient
