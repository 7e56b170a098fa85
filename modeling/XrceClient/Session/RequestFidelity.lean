import XrceClient.Session.RequestRuns

/-!
# Faithful requests

A call that buffers a request computes the length of the payload on its own, and makes nothing of
what the serializers return.

- `FaithfulSubmessage`: the submessage that was buffered has the length of its payload in its
  header, and the payload is the request.
- `FaithfulSubmessage.sized`, `buffered_requests_faithful_iff`: that is so exactly where the length
  has sixteen bits, an object is all in its representation, the padding of a participant is put
  where it was counted, and the identifiers have twelve bits and four, unless a slot ends within
  the padding of the payload.
-/

namespace XrceClient

open ByteMemory XrceTypes OutputReliableStream

/-! ## What the types see to -/

/-- What the types of the source see to: an entity has a format for its representation, and the
parts of an identity have their sizes. -/
def Request.Suited : Request → Prop
  | create _ entity representation => representation.Suits entity.family
  | reply sampleId _ => sampleId.Fits
  | _ => True

theorem Asks.suited [MicroCdr] {stack : Memory} {session : Session} {streamId : StreamId}
    {objectId : ObjectId} {request : Request} {result : UInt16 × Session}
    (h : Asks stack session streamId objectId request result) : request.Suited := by
  cases h with
  | reply _ _ hfits => exact hfits
  | _ => trivial

/-! ## What is sent -/

/-- The object that an entity belongs to. -/
def Entity.parent : Entity → Option ObjectId
  | participant _ => none
  | topic objectId | publisher objectId | subscriber objectId | dataWriter objectId
  | dataReader objectId | requester objectId | replier objectId => some objectId

/-- The identifiers of objects in a request. -/
def Request.objectIds (objectId : ObjectId) : Request → List ObjectId
  | create _ entity _ => objectId :: entity.parent.toList
  | _ => [objectId]

/-- Twelve bits and four are enough for the identifiers. -/
def Request.IdsFit (objectId : ObjectId) (request : Request) : Prop :=
  ∀ id ∈ request.objectIds objectId, id.id < 4096 ∧ id.type < 16

theorem objectIdFromRaw_toRaw_iff (objectId : ObjectId) :
    objectIdFromRaw (objectIdToRaw objectId) = objectId ↔
      objectId.id < 4096 ∧ objectId.type < 16 := by
  constructor
  · intro hread
    rw [← hread]
    constructor
    · show (objectIdFromRaw (objectIdToRaw objectId)).id.toNat < 4096
      have hhigh := ((objectIdToRaw objectId).getD 0 0).toNat_lt
      have hlow := ((objectIdToRaw objectId).getD 1 0).toNat_lt
      rw [objectIdFromRaw, UInt16.toNat_ofNat']
      omega
    · show (objectIdFromRaw (objectIdToRaw objectId)).type.toNat < 16
      rw [objectIdFromRaw, UInt8.toNat_and]
      exact Nat.lt_succ_of_le Nat.and_le_right
  · rintro ⟨hid, htype⟩
    exact requestBase_objectId 0 hid htype

section

variable [MicroCdr]

/-- The formats hold the representation, an object in the bytes that there are for one. -/
def Representation.EncodedIn (formats : RepresentationFormats) : Representation → Prop
  | reference string => formats = .byReference string
  | xml string => formats = .asXmlString string
  | binary object => ∃ bytes, formats = .inBinary bytes ∧ bytes.length ≤ binarySequenceMax ∧
    LaidOut machineEndianness 0 0 object.fields bytes

/-- The payload is the request, field by field, each at its place. -/
def Request.EncodedIn (base : BaseObjectRequest) (payload : List UInt8) : Request → Prop
  | create _ entity representation => ∃ formats, representation.EncodedIn formats ∧
    LaidOut machineEndianness 0 0 (base.fields ++ (entity.variant formats).fields) payload
  | delete => LaidOut machineEndianness 0 0 base.fields payload
  | writeData data => LaidOut machineEndianness 0 0 (base.fields ++ [.array data]) payload
  | reply sampleId data =>
    LaidOut machineEndianness 0 0 (base.fields ++ (sampleId.fields ++ [.array data])) payload
  | readData dataStreamId control =>
    LaidOut machineEndianness 0 0 (base.fields ++ (requestedData dataStreamId control).fields)
      payload

/-- A call has buffered a submessage: its header and its payload are in the stream, where room was
made. The header has the length of the payload, and the payload is the request. -/
structure FaithfulSubmessage (stack : Memory) (session : Session) (streamId : StreamId)
    (objectId : ObjectId) (request : Request) (result : UInt16 × Session)
    (payload : List UInt8) : Prop where
  put : ∃ streams ub ub', prepareStreamToWriteSubmessage session.streams streamId
      (request.reserved stack objectId) = some (streams, ub) ∧
    Puts (streamDevice streamId) (submessageHeaderBytes request.submessageId
      (UInt16.ofNat (request.reserved stack objectId)) request.mode ++ payload) streams ub
      result.2.streams ub'
  requestId : result.1 = (generateRequestId session.info).1
  reserved : payload.length = request.reserved stack objectId
  header : (UInt16.ofNat (request.reserved stack objectId)).toNat = payload.length
  encoded : request.EncodedIn (requestBase result.1 objectId) payload
  requestRead : uint16FromRaw (requestBase result.1 objectId).requestId = result.1
  objectsRead : ∀ id ∈ request.objectIds objectId, objectIdFromRaw (objectIdToRaw id) = id
  read : request.Fits → request.ReadFrom (requestBase result.1 objectId) payload

/-- The content of the formats that hold a representation. -/
theorem Representation.EncodedIn.content_eq {representation : Representation}
    {formats : RepresentationFormats} (h : representation.EncodedIn formats) :
    representation.Sized ∧ ∃ (n : Nat) (bytes : List UInt8),
      formats.content = [.scalar 4 n, .array bytes] ∧ bytes.length = representation.size := by
  cases representation with
  | reference string | xml string =>
    subst h
    exact ⟨trivial, _, _, rfl, by simp [size]⟩
  | binary object =>
    obtain ⟨bytes, rfl, hle, hlaid⟩ := h
    exact ⟨Nat.le_trans (Nat.le_of_eq hlaid.length.symm) hle, _, bytes, rfl, hlaid.length⟩

variable [LawfulMicroCdr] {stack : Memory} {session : Session} {streamId : StreamId}
  {objectId : ObjectId} {request : Request} {result : UInt16 × Session} {payload : List UInt8}

omit [MicroCdr] [LawfulMicroCdr] in
/-- A length of sixteen bits that goes round is the sum only where the same byte is counted. -/
theorem Entity.sized_of_reserved {entity : Entity} {representation : Representation}
    (hreserved : entity.sentSize representation =
      (createPayloadLength objectId (UInt16.ofNat representation.size)).toNat) :
    (representation.size % 2 = 1 →
      (objectId.type = objkParticipant ↔ entity.kind = objkParticipant)) ∧
      entity.sentSize representation < 65536 := by
  rw [createPayloadLength_toNat] at hreserved
  refine ⟨fun hodd => ?_, by omega⟩
  rw [Entity.sentSize] at hreserved
  by_cases hobject : objectId.type = objkParticipant
  · by_cases hkind : entity.kind = objkParticipant
    · exact ⟨fun _ => hkind, fun _ => hobject⟩
    · rw [if_pos hobject, if_neg hkind] at hreserved
      omega
  · by_cases hkind : entity.kind = objkParticipant
    · rw [if_neg hobject, if_pos hkind] at hreserved
      omega
    · exact ⟨fun h => absurd h hobject, fun h => absurd h hkind⟩

/-- Only a request that is sized and whose identifiers fit is buffered faithfully. -/
theorem FaithfulSubmessage.sized
    (h : FaithfulSubmessage stack session streamId objectId request result payload)
    (hsuited : request.Suited) : request.Sized objectId ∧ request.IdsFit objectId := by
  refine ⟨?_, fun id hmem => (objectIdFromRaw_toRaw_iff id).mp (h.objectsRead id hmem)⟩
  have hreserved := h.reserved
  have hheader := h.header
  have hencoded := h.encoded
  have hlt := (UInt16.ofNat (request.reserved stack objectId)).toNat_lt
  rw [hheader] at hlt
  cases request with
  | create mode entity representation =>
    obtain ⟨formats, hformats, hlaid⟩ := hencoded
    obtain ⟨hsized, n, bytes, hcontent, hbytes⟩ := hformats.content_eq
    have hlength := hlaid.length
    rw [laidSize_create hcontent (requestBase_fits _ _) rfl, hbytes] at hlength
    rw [Request.reserved, hsized.length_eq stack, hlength] at hreserved
    exact ⟨hsuited, hsized, Entity.sized_of_reserved hreserved⟩
  | delete | readData dataStreamId control => trivial
  | writeData data =>
    rw [hreserved] at hlt
    exact hlt
  | reply sampleId data =>
    rw [hreserved] at hlt
    exact ⟨hsuited, hlt⟩

end

/-! ## One call -/

section

variable [MicroCdr] [BoundedMicroCdr] {stack : Memory} {session : Session} {streamId : StreamId}
  {objectId : ObjectId} {request : Request} {result : UInt16 × Session} {st : PackingState}
  {box : Outbox PackedSubmessage}

/-- The formats of a representation hold it. -/
theorem Representation.Sized.encodedIn {representation : Representation}
    (h : representation.Sized) (stack : Memory) :
    representation.EncodedIn (representation.formats stack) := by
  cases representation with
  | reference string | xml string => rfl
  | binary object =>
    have hlaid := object.laidOut_bytes stack h
    exact ⟨object.bytes stack, rfl, hlaid.length.trans_le h, hlaid⟩

/-- What is laid out for a request is the request. -/
theorem Request.Sized.encodedIn (h : request.Sized objectId) {base : BaseObjectRequest}
    {payload : List UInt8}
    (hlaid : LaidOut machineEndianness 0 0 (request.fields stack base) payload) :
    request.EncodedIn base payload := by
  cases request with
  | create mode entity representation => exact ⟨_, h.2.1.encodedIn stack, hlaid⟩
  | _ => exact hlaid

omit [MicroCdr] [BoundedMicroCdr] in
/-- The room that is asked for has a length of sixteen bits. -/
theorem Request.Sized.payloadSize_lt (h : request.Sized objectId) :
    request.payloadSize objectId < 65536 := by
  cases request with
  | create mode entity representation => exact UInt16.toNat_lt _
  | delete => exact show 4 < 65536 by decide
  | writeData data => exact h
  | reply sampleId data => exact h.2
  | readData dataStreamId control =>
    rw [payloadSize]
    split <;> decide

omit [BoundedMicroCdr] in
/-- What is buffered is put behind its header. -/
theorem Holding.written [StickyMicroCdr] (h : Holding streamId st box) {st' : PackingState}
    {id mode : UInt8} {payload : List UInt8}
    (hstep : PackingStep streamId st [.buffered id mode payload] st') :
    ∃ streams ub ub', prepareStreamToWriteSubmessage st.streams streamId payload.length =
        some (streams, ub) ∧
      Puts (streamDevice streamId)
        (submessageHeaderBytes id (UInt16.ofNat payload.length) mode ++ payload) streams ub
        st'.streams ub' := by
  cases hstep with
  | write _ _ _ hgranted hwritten =>
    obtain ⟨⟨streams, ub⟩, hprepared, hheader⟩ := Option.map_eq_some_iff.mp hgranted
    obtain ⟨streams', ub', -, hputs, -⟩ := h.grant id mode hprepared
    obtain ⟨ub₁, hpayload⟩ :=
      hputs.behind_header (streamDevice_regular streamId) (h.aligned hprepared)
    dsimp only at hheader
    rw [hheader] at hpayload
    -- there is one way to put the payload there
    obtain ⟨rfl, rfl⟩ := hwritten.deterministic hpayload
    exact ⟨streams, ub, ub', hprepared, hputs⟩

/-- A request that is sized and whose identifiers fit is refused or buffered faithfully. -/
theorem Request.buffer_faithful (h : Holding streamId st box)
    (hstreams : session.streams = st.streams) (hsized : request.Sized objectId)
    (hids : request.IdsFit objectId)
    (hplaced : request.Placed stack st.streams streamId objectId)
    (hvalid : (request.buffer stack session streamId objectId).1 ≠ invalidRequestId) :
    ∃ payload, FaithfulSubmessage stack session streamId objectId request
      (request.buffer stack session streamId objectId) payload := by
  rcases Request.buffer_cases h hstreams hsized hplaced with hrefused |
    ⟨payload, streams', hbuffered, hcarries, hpacking⟩
  · exact absurd (congrArg Prod.fst hrefused) hvalid
  · have hreserved := request.reserved_eq stack hsized
    have hlength : payload.length = request.reserved stack objectId :=
      hcarries.length.trans hreserved.symm
    have hobjects : ∀ id ∈ request.objectIds objectId,
        objectIdFromRaw (objectIdToRaw id) = id :=
      fun id hmem => (objectIdFromRaw_toRaw_iff id).mpr (hids id hmem)
    obtain ⟨stack', hlaid⟩ := hcarries.laid
    rw [hbuffered]
    refine ⟨payload, ?_, rfl, hlength, ?_, hsized.encodedIn hlaid, hcarries.requestRead, hobjects,
      hcarries.read⟩
    · rw [← hlength, hstreams]
      exact h.written hpacking
    · rw [hlength, hreserved, UInt16.toNat_ofNat']
      exact Nat.mod_eq_of_lt hsized.payloadSize_lt

end

/-! ## Runs -/

section

variable [MicroCdr] [BoundedMicroCdr] {streamId : StreamId} {st : RequestState}
  {events : List RequestEvent} {stack : Memory} {objectId : ObjectId} {request : Request}
  {result : UInt16 × Session} {aligned : Prop}

/-- **Buffered requests are faithful just where the length that is computed is right**: behind any
run, a call that returns the identifier of a request has buffered the request in a submessage with
the length of its payload exactly if the request is sized and its identifiers fit, as long as no
slot ends within the padding of the payload; one that returns none has done nothing. -/
theorem buffered_requests_faithful_iff {session : Session}
    (hcreated : CreatedStream session.streams streamId)
    (hslots : aligned → SlotsAligned session.streams streamId)
    (hrun : RequestRun aligned streamId { session, granted := [], generated := 0 } events st)
    (hcall : Asks stack st.session streamId objectId request result) :
    (result.1 = invalidRequestId → result.2 = st.session) ∧
      (result.1 ≠ invalidRequestId →
        aligned ∨ request.Placed stack st.session.streams streamId objectId →
        ((∃ payload, FaithfulSubmessage stack st.session streamId objectId request result
            payload) ↔
          request.Sized objectId ∧ request.IdsFit objectId)) := by
  refine ⟨hcall.refused, fun hvalid hplaced => ?_⟩
  constructor
  · rintro ⟨payload, hfaithful⟩
    exact hfaithful.sized hcall.suited
  · rintro ⟨hsized, hids⟩
    have hinv : RequestInv session.info.lastRequestId aligned streamId
        { session, granted := [], generated := 0 } Outbox.empty := ⟨hcreated.holding, hslots, rfl⟩
    obtain ⟨-, box, -, -, hreached, -⟩ := hinv.run hrun
    have hplaced := hreached.placed hsized hplaced
    have hresult := hcall.eq hsized
    subst hresult
    exact Request.buffer_faithful hreached.holding rfl hsized hids hplaced hvalid

end

/-- The stream of `topicSession`. -/
def topicStreamId : StreamId := streamId 0 .bestEffortStream .outputStream

theorem topicSession_created : CreatedStream topicSession.streams topicStreamId :=
  .bestEffort StreamStorage.zeroed (fun _ => 0) 64 4 (.inl rfl) (by decide) (by decide)

/-- A topic is created in that session, as it was asked for. -/
theorem buffered_requests_faithful_iff_topic :
    ∃ payload, @FaithfulSubmessage referenceMicroCdr (fun _ => 0) topicSession topicStreamId ⟨1, 2⟩
      (.create 0 (.topic ⟨1, 1⟩) (.xml [0x61]))
      (@bufferCreateTopicXml referenceMicroCdr topicSession topicStreamId ⟨1, 2⟩ ⟨1, 1⟩ [0x61] 0)
      payload := by
  let _ : MicroCdr := referenceMicroCdr
  have _ : BoundedMicroCdr := referenceMicroCdr_bounded
  have hvalid : (bufferCreateTopicXml topicSession topicStreamId ⟨1, 2⟩ ⟨1, 1⟩ [0x61] 0).1 ≠
      invalidRequestId := by decide +kernel
  refine ((buffered_requests_faithful_iff topicSession_created
    (fun _ htype => absurd htype (by decide)) (.refl _)
    (.topicXml ⟨1, 2⟩ ⟨1, 1⟩ [0x61] 0)).2 hvalid (.inl trivial)).mpr
      ⟨⟨trivial, trivial, ?_, ?_⟩, ?_⟩
  · decide
  · decide
  · unfold Request.IdsFit
    decide

/-- A string in XML with as many characters as a length of sixteen bits can count. -/
def longXml : List UInt8 := List.replicate 65535 0x61

/-- The length of its payload is counted as that of an empty string without a terminator, and so the
call finds room for it in a stream of sixty-four bytes. -/
theorem buffered_requests_longXml :
    CreatedStream topicSession.streams topicStreamId ∧
      (@bufferCreateTopicXml referenceMicroCdr topicSession topicStreamId ⟨1, 2⟩ ⟨1, 1⟩ longXml
        0).1 ≠ invalidRequestId ∧
      ∀ payload, ¬ @FaithfulSubmessage referenceMicroCdr (fun _ => 0) topicSession topicStreamId
        ⟨1, 2⟩ (.create 0 (.topic ⟨1, 1⟩) (.xml longXml))
        (@bufferCreateTopicXml referenceMicroCdr topicSession topicStreamId ⟨1, 2⟩ ⟨1, 1⟩ longXml 0)
        payload := by
  let _ : MicroCdr := referenceMicroCdr
  have _ : BoundedMicroCdr := referenceMicroCdr_bounded
  have hlength : longXml.length = 65535 := List.length_replicate
  refine ⟨topicSession_created, ?_, fun payload hfaithful => ?_⟩
  · have hroom : (bufferSubmessage topicSession.streams topicStreamId 14
        SubmessageId.create.value 0).isSome = true := by decide +kernel
    obtain ⟨granted, hgranted⟩ := Option.isSome_iff_exists.mp hroom
    have hreserved :
        (createPayloadLength ⟨1, 2⟩ (UInt16.ofNat (longXml.length + 1))).toNat = 14 := by
      rw [hlength]
      decide
    rw [bufferCreateTopicXml, createEntityXml, bufferCreate, bufferPayload, hreserved, hgranted]
    exact generateRequestId_ne _
  · obtain ⟨⟨-, -, -, hlt⟩, -⟩ := hfaithful.sized trivial
    rw [Entity.sentSize, Representation.size, hlength] at hlt
    omega

end XrceClient
