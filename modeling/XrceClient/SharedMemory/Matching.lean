import XrceClient.Session.Reading

/-!
# Hashes of descriptions (`matching.c`)

Two endpoints match when the names that they were described with have the same hash.

- `hashString`: the hash, over a string and its terminating zero.
- `findTagXml`, `findTagProperty`: the names in a description in XML.
- `generateHashFromXml`, `generateHashFromStrings`: the hash of a description.

Strings are the bytes in front of their terminating zero. The functions that look into XML are
not defined where the source reads behind the end of the string, uses a length that was not set,
or writes behind the end of its buffer of `nameTypeBufferSize` bytes.
-/

namespace XrceClient

open ByteMemory

/-! ## The hash -/

/-- The hash with one more character. -/
def hashChar (hash : UInt32) (c : UInt8) : UInt32 := hash * 33 + c.toUInt32

/-- The loop of `hash_string` (matching.c:29–32), to the terminating zero. -/
def hashLoop (hash : UInt32) : List UInt8 → UInt32
  | [] => hashChar hash 0
  | c :: string => if c = 0 then hashChar hash 0 else hashLoop (hashChar hash c) string

/-- `hash_string` (matching.c:15–38). The hash goes on from another one, or starts anew. -/
def hashString (string : List UInt8) (hash : Option UInt32) : UInt32 :=
  hashLoop (hash.getD 5381) string

/-- `uxr_generate_hash_from_strings` (matching.c:229–247). -/
def generateHashFromStrings : List (List UInt8) → Option UInt32 → UInt32
  | [], hash => hash.getD 0
  | string :: strings, hash => generateHashFromStrings strings (some (hashString string hash))

/-- The bytes of a hash in memory. -/
def hashBytes [MicroCdr] (hash : UInt32) : List UInt8 :=
  encodeScalar machineEndianness 4 hash.toNat

/-- `0 == strcmp` on two hashes: they are compared up to the first zero. -/
def sameHashString [MicroCdr] (hash hash' : UInt32) : Bool :=
  (hashBytes hash).takeWhile (· ≠ 0) = (hashBytes hash').takeWhile (· ≠ 0)

/-! ## XML -/

/-- The characters of a name. -/
def chars (name : String) : List UInt8 := name.toList.map fun c => UInt8.ofNat c.toNat

/-- Whether the text at a position starts with a name. -/
def startsAt (xml name : List UInt8) (position : Nat) : Bool := name.isPrefixOf (xml.drop position)

/-- A loop from `i` up to `len` over the text from `start` on, to the first place of which `found`
says so; `fuel` characters are left, and reading behind them is not defined. -/
def scan (found : Nat → Bool) (start len : Nat) : Nat → Nat → Option (Option Nat)
  | 0, i => if i < len then none else some none
  | fuel + 1, i =>
    if i < len then
      if found (start + i) then some (some i) else scan found start len fuel (i + 1)
    else
      some none

/-- The place of a character from a position on; behind the end of the text nothing is defined. -/
def placeOf (xml : List UInt8) (c : Char) (position : Nat) : Option Nat :=
  (xml.drop position).findIdx? (· = UInt8.ofNat c.toNat)

/-- `find_tag_xml` (matching.c:40–72), in the `len` characters from `start` on: the start of the
content and its length, if the tag is there. -/
def findTagXml (xml : List UInt8) (start len : Nat) (tag : String) :
    Option (Option (Nat × Nat)) := do
  let tagBehind (c : Char) (position : Nat) : Bool :=
    startsAt xml (chars tag) position && xml.getD (position - 1) 0 = UInt8.ofNat c.toNat
  match ← scan (tagBehind '<') start len (xml.length - start) 1 with
  | none => some none
  | some i =>
    let tagOpenerLen ← placeOf xml '>' (start + i)
    let content := start + i + tagOpenerLen + 1
    match ← scan (tagBehind '/') start len (xml.length - start - i) (i + 1) with
    | none => some none
    | some j => some (some (content, (start + j + (2 ^ 64 - 2) - content) % 2 ^ 64))

/-- `find_tag_property` (matching.c:74–111): the start of the value and its length, if the
property is there. -/
def findTagProperty (xml : List UInt8) (tag property : String) : Option (Option (Nat × Nat)) := do
  let tagOpens (position : Nat) : Bool :=
    startsAt xml (chars tag) position && xml.getD (position - 1) 0 = UInt8.ofNat '<'.toNat
  match ← scan tagOpens 0 xml.length xml.length 1 with
  | none => some none
  | some i =>
    match ← scan (startsAt xml (chars property)) 0 xml.length (xml.length - i) (i + 1) with
    | none => some none
    | some j =>
      let content := j + (chars property).length + 2
      let contentLen ← placeOf xml '"' content
      some (some (content, contentLen))

/-- The size of `name_type_buffer` (matching.c:118). -/
def nameTypeBufferSize : Nat := 100

/-- A piece of the text. -/
def slice (xml : List UInt8) (piece : Nat × Nat) : List UInt8 := (xml.drop piece.1).take piece.2

/-- The loop over the tags around a topic (matching.c:138–151): the text in the innermost one. -/
def findTags (xml : List UInt8) : List String → Nat × Nat → Option (Option (Nat × Nat))
  | [], content => some (some content)
  | tag :: tags, content => do
    match ← findTagXml xml content.1 content.2 tag with
    | some content => findTags xml tags content
    | none => some none

/-- The names of a topic and of its type in the XML of a data reader or writer
(matching.c:124–166). The names are copied with the lengths that were found, and the lengths are
not set where they were not. -/
def topicNames (xml : List UInt8) (dataReaderOrWriter : String) :
    Option (Option (List (List UInt8))) := do
  match ← findTags xml ["dds", dataReaderOrWriter, "topic"] (0, xml.length) with
  | none => some none
  | some content =>
    let topicName ← ← findTagXml xml content.1 content.2 "name"
    let typeName ← ← findTagXml xml content.1 content.2 "dataType"
    if topicName.2 + typeName.2 < nameTypeBufferSize then
      some (some [slice xml topicName, slice xml typeName])
    else
      none

/-- The names of a service and of its types in the XML of a requester or a replier
(matching.c:170–214). -/
def serviceNames (xml : List UInt8) (requesterOrReplier : String) :
    Option (Option (List (List UInt8))) := do
  let serviceName ← findTagProperty xml requesterOrReplier "service_name"
  let requestType ← findTagProperty xml requesterOrReplier "request_type"
  let replyType ← findTagProperty xml requesterOrReplier "reply_type"
  -- a name is copied when it was found, and so were those in front of it
  match serviceName, requestType, replyType with
  | some serviceName, some requestType, some replyType =>
    if serviceName.2 + requestType.2 + replyType.2 < nameTypeBufferSize then
      some (some [slice xml serviceName, slice xml requestType, slice xml replyType])
    else
      none
  | some serviceName, some requestType, none =>
    if serviceName.2 + requestType.2 ≤ nameTypeBufferSize then some none else none
  | some serviceName, none, _ =>
    if serviceName.2 ≤ nameTypeBufferSize then some none else none
  | none, _, _ => some none

/-- `UXR_TOPIC_ID` (object_id.h). -/
def topicId : UInt8 := 2

/-- `UXR_DATAWRITER_ID` (object_id.h). -/
def dataWriterId : UInt8 := 5

/-- The names in a description in XML, by the kind of the object. -/
def xmlNames (xml : List UInt8) (type : UInt8) : Option (Option (List (List UInt8))) :=
  if type = dataReaderId then topicNames xml "data_reader"
  else if type = dataWriterId then topicNames xml "data_writer"
  else if type = requesterId then serviceNames xml "requester"
  else if type = replierId then serviceNames xml "replier"
  else some none

/-- `uxr_generate_hash_from_xml` (matching.c:112–219): the hash, which stays as it is where no
names are found. -/
def generateHashFromXml (xml : List UInt8) (id : ObjectId) (hash : UInt32) : Option UInt32 := do
  match ← xmlNames xml id.type with
  | some names => some (hashString names.flatten none)
  | none => some hash

end XrceClient
