import XrceClient.SharedMemory.Map
import XrceClient.SharedMemory.XmlTopics

/-!
# What entities are described with (`shared_memory.c`)

An entity is described with names, or with a text in which the names stand. What a text says is told
by its elements and attributes, whatever the client finds in it.

- `xmlPieces`, `xmlElements`: the markup of a text, and its elements.
- `xmlDescription`, `DescribedWith.description`: the names that a text, or a description, gives.
- `xmlEntity_document`: what is hashed for a data writer or reader in whose text nothing else looks
  like a tag.
-/

namespace XrceClient

open ByteMemory

/-! ## The markup of a text -/

/-- What a character is part of: text, a tag, with the quotation mark of the value that is open, a
comment, or a CDATA section. -/
inductive XmlMode where
  | text
  | tag (quote : Option UInt8)
  | comment
  | data
  deriving DecidableEq

/-- A piece of a text: what stands between two tags, or in one. -/
inductive XmlPiece where
  | text (content : List UInt8)
  | tag (content : List UInt8)
  deriving DecidableEq

/-- The pieces that were read, and what was read of the next one. -/
structure XmlPieces where
  pieces : List XmlPiece
  mode : XmlMode
  content : List UInt8

/-- The next character. A comment leaves nothing, and a CDATA section its text. -/
def XmlPieces.next (read : XmlPieces) (c : UInt8) : XmlPieces :=
  let content := read.content ++ [c]
  match read.mode with
  | .text =>
    if [c] = chars "<" then ⟨read.pieces ++ [.text read.content], .tag none, []⟩
    else { read with content }
  | .tag (some quote) =>
    { read with mode := .tag (if c = quote then none else some quote), content }
  | .tag none =>
    if [c] = chars ">" then ⟨read.pieces ++ [.tag read.content], .text, []⟩
    else if content = chars "!--" then ⟨read.pieces, .comment, []⟩
    else if content = chars "![CDATA[" then ⟨read.pieces, .data, []⟩
    else { read with mode := .tag (if c ∈ chars "\"'" then some c else none), content }
  | .comment =>
    if chars "-->" <:+ content then ⟨read.pieces, .text, []⟩ else { read with content }
  | .data =>
    if chars "]]>" <:+ content then
      ⟨read.pieces ++ [.text (content.take (content.length - 3))], .text, []⟩
    else { read with content }

/-- The pieces of a text, if nothing is left open in it. -/
def xmlPieces (xml : List UInt8) : Option (List XmlPiece) :=
  let read := xml.foldl XmlPieces.next ⟨[], .text, []⟩
  if read.mode = .text then some (read.pieces ++ [.text read.content]) else none

/-! ## The elements -/

/-- A blank. -/
def isXmlBlank (c : UInt8) : Bool := c ∈ chars " \t\r\n"

/-- The names and the values of the attributes in a tag, behind its name. -/
def xmlAttributes : Nat → List UInt8 → List (List UInt8 × List UInt8)
  | 0, _ => []
  | fuel + 1, content =>
    let (name, rest) := (content.dropWhile isXmlBlank).span fun c =>
      !isXmlBlank c && [c] ≠ chars "="
    match rest.dropWhile isXmlBlank with
    | equals :: rest =>
      match rest.dropWhile isXmlBlank with
      | quote :: rest =>
        if [equals] = chars "=" ∧ quote ∈ chars "\"'" then
          let (value, rest) := rest.span (· ≠ quote)
          (name, value) :: xmlAttributes fuel (rest.drop 1)
        else []
      | [] => []
    | [] => []

/-- What was read of the elements: those that are open, the innermost first, with their texts, those
that are closed, with the names on the way to them and their texts, and the tags that opened them,
with their attributes. -/
structure XmlElements where
  opened : List (List UInt8 × List UInt8)
  closed : List (List (List UInt8) × List UInt8)
  tags : List (List UInt8 × List (List UInt8 × List UInt8))

namespace XmlElements

/-- A tag that opens an element. -/
def opens (read : XmlElements) (name : List UInt8) (attributes : List (List UInt8 × List UInt8)) :
    XmlElements :=
  { read with opened := (name, []) :: read.opened, tags := read.tags ++ [(name, attributes)] }

/-- A tag that closes the innermost element. -/
def closes (read : XmlElements) (name : List UInt8) : Option XmlElements :=
  match read.opened with
  | (opened, text) :: rest =>
    if opened = name then
      some { read with
        opened := rest, closed := read.closed ++ [((read.opened.map Prod.fst).reverse, text)] }
    else none
  | [] => none

/-- The next piece. An instruction says nothing; a declaration may give texts another meaning. -/
def next (read : XmlElements) : XmlPiece → Option XmlElements
  | .text content =>
    match read.opened with
    | (name, text) :: rest => some { read with opened := (name, text ++ content) :: rest }
    | [] => some read
  | .tag content =>
    if chars "?" <+: content then some read
    else if chars "!" <+: content then none
    else if chars "/" <+: content then
      read.closes ((content.drop 1).takeWhile fun c => !isXmlBlank c)
    else
      let name := content.takeWhile fun c => !isXmlBlank c && [c] ≠ chars "/"
      let read := read.opens name (xmlAttributes content.length (content.drop name.length))
      if chars "/" <:+ content then read.closes name else some read

/-- The text of the only element at the end of a way. -/
def text (elements : XmlElements) (way : List String) : Option (List UInt8) :=
  match elements.closed.filter fun found => found.1 = way.map chars with
  | [(_, text)] => some text
  | _ => none

/-- The value of an attribute of the only element with its name. -/
def property (elements : XmlElements) (name property : String) : Option (List UInt8) :=
  match elements.tags.filter fun found => found.1 = chars name with
  | [(_, attributes)] => attributes.lookup (chars property)
  | _ => none

/-- The names in the element of a topic. -/
def topic (elements : XmlElements) (way : List String) : Option Description := do
  let topicName ← elements.text (way ++ ["name"])
  let typeName ← elements.text (way ++ ["dataType"])
  return .topic topicName typeName

/-- The names in the tag of a requester or a replier. -/
def service (elements : XmlElements) (requesterOrReplier : String) : Option Description := do
  let serviceName ← elements.property requesterOrReplier "service_name"
  let requestType ← elements.property requesterOrReplier "request_type"
  let replyType ← elements.property requesterOrReplier "reply_type"
  return .service serviceName requestType replyType

end XmlElements

/-- The elements of a text, if all of them are closed. -/
def xmlElements (xml : List UInt8) : Option XmlElements := do
  let elements ← (← xmlPieces xml).foldlM XmlElements.next ⟨[], [], []⟩
  if elements.opened = [] then some elements else none

/-! ## Descriptions -/

/-- The names that a text gives of an object of a kind. -/
def xmlDescription (xml : List UInt8) (type : UInt8) : Option Description := do
  let elements ← xmlElements xml
  if type = topicId then elements.topic ["dds", "topic"]
  else if type = dataWriterId then elements.topic ["dds", "data_writer", "topic"]
  else if type = dataReaderId then elements.topic ["dds", "data_reader", "topic"]
  else if type = requesterId then elements.service "requester"
  else if type = replierId then elements.service "replier"
  else none

/-- A slash, a comment and the name of another element are no tags of the element. -/
example : xmlDescription (chars ("<dds><data_writer><topic><!-- <name>c</name> -->" ++
    "<name_x>x</name_x><name>a/name</name><dataType>T</dataType></topic></data_writer></dds>"))
    dataWriterId = some (.topic (chars "a/name") (chars "T")) := by
  decide +kernel

/-- Attributes may stand next to each other. -/
example : xmlDescription (chars ("<dds><requester profile_name=\"p\"service_name=\"s\"" ++
    "request_type=\"q\" reply_type=\"r\"></requester></dds>")) requesterId =
    some (.service (chars "s") (chars "q") (chars "r")) := by
  decide +kernel

/-- The names that a description gives. -/
def DescribedWith.description : DescribedWith → Option Description
  | .nothing => none
  | .xml text type => xmlDescription text type
  | .names description => some description

/-- Two entities were described with the same names. -/
def SharedEntity.sameDescription (entity entity' : SharedEntity) : Prop :=
  ∃ description, entity.describedWith.description = some description ∧
    entity'.describedWith.description = some description

/-! ## Documents -/

namespace TopicDocument

variable {dataReaderOrWriter : String}

/-- The names in a document. -/
def description (doc : TopicDocument dataReaderOrWriter) : Description :=
  .topic doc.name.text doc.dataType.text

/-- Where nothing else looks like one of the tags, the hash is that of the names. -/
theorem xmlEntity_document (doc : TopicDocument dataReaderOrWriter)
    (hendpoint : chars dataReaderOrWriter ≠ []) (hopeners : doc.OpenersClear)
    (hclosers : doc.ClosersClear) {session : Nat} {entityId : ObjectId}
    (htype : xmlNames doc.xml entityId.type = topicNames doc.xml dataReaderOrWriter)
    {entity : SharedEntity}
    (hentity : SharedMemoryMap.xmlEntity session entityId doc.xml = some entity) :
    entity = { objectId := entityId, session, type := .hashEntity,
               data := .hash (hashString doc.hashInput none), relatedTopic := none,
               describedWith := .xml doc.xml entityId.type } := by
  have hhashed := (doc.hashed_iff_textsFound htype).mpr
    ((hopeners.textsFound_iff hendpoint).mpr hclosers)
  rw [SharedMemoryMap.xmlEntity, hhashed.2 entityId 0 rfl] at hentity
  cases hentity
  rfl

end TopicDocument

end XrceClient
