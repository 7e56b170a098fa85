import XrceClient.Session.GrantedBuffers
import XrceClient.Session.RequestPayloads

/-!
# Requests that leave a stream

An application makes requests with the calls of the session, and the output stream that they are
buffered in yields messages. In between, anything else is done with the session.

- `Request.reserved`: the length that a call computes.
- `Asks`: the calls, and the request that each of them makes.
- `requestIdAfter_inj`: until they start over, the identifiers of requests differ.
- `RequestStep`, `RequestRun`: what is done with a session, seen from one output stream.
- `CarriesRequest`: a payload says what is asked for, under the identifiers of the request.
- `requests_leave_in_order`: what leaves the stream are the requests.
-/

namespace XrceClient

open ByteMemory XrceTypes OutputReliableStream

/-! ## The calls -/

section

variable [MicroCdr]

section

variable (stack : Memory)

/-- The bytes of a representation as they are handed over. For an object that is how far it was
serialized. -/
def Representation.length : Representation → Nat
  | reference string | xml string => string.length + 1
  | binary object => (object.bytes stack).length

/-- The room that a call asks for. -/
def Request.reserved (objectId : ObjectId) : Request → Nat
  | create _ _ representation =>
    (createPayloadLength objectId (UInt16.ofNat (representation.length stack))).toNat
  | request => request.payloadSize objectId

theorem Representation.Sized.length_eq [LawfulMicroCdr] {representation : Representation}
    (h : representation.Sized) : representation.length stack = representation.size := by
  cases representation with
  | reference string | xml string => rfl
  | binary object => exact (object.laidOut_bytes stack h).length

theorem Request.reserved_eq [LawfulMicroCdr] {objectId : ObjectId} {request : Request}
    (hsized : request.Sized objectId) :
    request.reserved stack objectId = request.payloadSize objectId := by
  cases request with
  | create mode entity representation =>
    rw [reserved, payloadSize, hsized.2.1.length_eq stack]
  | _ => rfl

end

/-- The calls that buffer a request for an object, and what they return. -/
inductive Asks (stack : Memory) (session : Session) (streamId : StreamId) :
    ObjectId → Request → UInt16 × Session → Prop
  | participantXml (objectId : ObjectId) (domainId : UInt16) (xml : List UInt8) (mode : UInt8) :
      Asks stack session streamId objectId
        (.create mode (.participant domainId.toInt16) (.xml xml))
        (bufferCreateParticipantXml session streamId objectId domainId xml mode)
  | topicXml (objectId participantId : ObjectId) (xml : List UInt8) (mode : UInt8) :
      Asks stack session streamId objectId (.create mode (.topic participantId) (.xml xml))
        (bufferCreateTopicXml session streamId objectId participantId xml mode)
  | publisherXml (objectId participantId : ObjectId) (xml : List UInt8) (mode : UInt8) :
      Asks stack session streamId objectId (.create mode (.publisher participantId) (.xml xml))
        (bufferCreatePublisherXml session streamId objectId participantId xml mode)
  | subscriberXml (objectId participantId : ObjectId) (xml : List UInt8) (mode : UInt8) :
      Asks stack session streamId objectId (.create mode (.subscriber participantId) (.xml xml))
        (bufferCreateSubscriberXml session streamId objectId participantId xml mode)
  | datawriterXml (objectId publisherId : ObjectId) (xml : List UInt8) (mode : UInt8) :
      Asks stack session streamId objectId (.create mode (.dataWriter publisherId) (.xml xml))
        (bufferCreateDatawriterXml session streamId objectId publisherId xml mode)
  | datareaderXml (objectId subscriberId : ObjectId) (xml : List UInt8) (mode : UInt8) :
      Asks stack session streamId objectId (.create mode (.dataReader subscriberId) (.xml xml))
        (bufferCreateDatareaderXml session streamId objectId subscriberId xml mode)
  | requesterXml (objectId participantId : ObjectId) (xml : List UInt8) (mode : UInt8) :
      Asks stack session streamId objectId (.create mode (.requester participantId) (.xml xml))
        (bufferCreateRequesterXml session streamId objectId participantId xml mode)
  | replierXml (objectId participantId : ObjectId) (xml : List UInt8) (mode : UInt8) :
      Asks stack session streamId objectId (.create mode (.replier participantId) (.xml xml))
        (bufferCreateReplierXml session streamId objectId participantId xml mode)
  | participantRef (objectId : ObjectId) (domainId : UInt16) (ref : List UInt8) (mode : UInt8) :
      Asks stack session streamId objectId
        (.create mode (.participant domainId.toInt16) (.reference ref))
        (bufferCreateParticipantRef session streamId objectId domainId ref mode)
  | topicRef (objectId participantId : ObjectId) (ref : List UInt8) (mode : UInt8) :
      Asks stack session streamId objectId (.create mode (.topic participantId) (.reference ref))
        (bufferCreateTopicRef session streamId objectId participantId ref mode)
  | datawriterRef (objectId publisherId : ObjectId) (ref : List UInt8) (mode : UInt8) :
      Asks stack session streamId objectId
        (.create mode (.dataWriter publisherId) (.reference ref))
        (bufferCreateDatawriterRef session streamId objectId publisherId ref mode)
  | datareaderRef (objectId subscriberId : ObjectId) (ref : List UInt8) (mode : UInt8) :
      Asks stack session streamId objectId
        (.create mode (.dataReader subscriberId) (.reference ref))
        (bufferCreateDatareaderRef session streamId objectId subscriberId ref mode)
  | requesterRef (objectId participantId : ObjectId) (ref : List UInt8) (mode : UInt8) :
      Asks stack session streamId objectId
        (.create mode (.requester participantId) (.reference ref))
        (bufferCreateRequesterRef session streamId objectId participantId ref mode)
  | replierRef (objectId participantId : ObjectId) (ref : List UInt8) (mode : UInt8) :
      Asks stack session streamId objectId
        (.create mode (.replier participantId) (.reference ref))
        (bufferCreateReplierRef session streamId objectId participantId ref mode)
  | participantBin (objectId : ObjectId) (domainId : UInt16)
      (participantName : Option (List UInt8)) (mode : UInt8) :
      Asks stack session streamId objectId
        (.create mode (.participant domainId.toInt16)
          (.binary (.participant (participantObject participantName))))
        (bufferCreateParticipantBin stack session streamId objectId domainId participantName mode)
  | topicBin (objectId participantId : ObjectId) (topicName typeName : List UInt8) (mode : UInt8) :
      Asks stack session streamId objectId
        (.create mode (.topic participantId) (.binary (.topic (topicObject topicName typeName))))
        (bufferCreateTopicBin stack session streamId objectId participantId topicName typeName mode)
  | publisherBin (objectId participantId : ObjectId) (mode : UInt8) :
      Asks stack session streamId objectId
        (.create mode (.publisher participantId) (.binary (.group groupObject)))
        (bufferCreatePublisherBin stack session streamId objectId participantId mode)
  | subscriberBin (objectId participantId : ObjectId) (mode : UInt8) :
      Asks stack session streamId objectId
        (.create mode (.subscriber participantId) (.binary (.group groupObject)))
        (bufferCreateSubscriberBin stack session streamId objectId participantId mode)
  | datawriterBin (objectId publisherId topicId : ObjectId) (qos : Qos) (mode : UInt8) :
      Asks stack session streamId objectId
        (.create mode (.dataWriter publisherId)
          (.binary (.dataWriter (datawriterObject topicId qos))))
        (bufferCreateDatawriterBin stack session streamId objectId publisherId topicId qos mode)
  | datareaderBin (objectId subscriberId topicId : ObjectId) (qos : Qos) (mode : UInt8) :
      Asks stack session streamId objectId
        (.create mode (.dataReader subscriberId)
          (.binary (.dataReader (datareaderObject topicId qos))))
        (bufferCreateDatareaderBin stack session streamId objectId subscriberId topicId qos mode)
  | requesterBin (objectId participantId : ObjectId)
      (serviceName requestType replyType requestTopicName replyTopicName : List UInt8)
      (mode : UInt8) :
      Asks stack session streamId objectId
        (.create mode (.requester participantId) (.binary (.service
          (serviceObject serviceName requestType replyType requestTopicName replyTopicName))))
        (bufferCreateRequesterBin stack session streamId objectId participantId serviceName
          requestType replyType requestTopicName replyTopicName mode)
  | replierBin (objectId participantId : ObjectId)
      (serviceName requestType replyType requestTopicName replyTopicName : List UInt8)
      (mode : UInt8) :
      Asks stack session streamId objectId
        (.create mode (.replier participantId) (.binary (.service
          (serviceObject serviceName requestType replyType requestTopicName replyTopicName))))
        (bufferCreateReplierBin stack session streamId objectId participantId serviceName
          requestType replyType requestTopicName replyTopicName mode)
  | deleteEntity (objectId : ObjectId) :
      Asks stack session streamId objectId .delete
        (bufferDeleteEntity session streamId objectId)
  | topic (datawriterId : ObjectId) (buffer : List UInt8) :
      Asks stack session streamId datawriterId (.writeData buffer)
        (bufferTopic session streamId datawriterId buffer)
  | request (requesterId : ObjectId) (buffer : List UInt8) :
      Asks stack session streamId requesterId (.writeData buffer)
        (bufferRequest session streamId requesterId buffer)
  | reply (replierId : ObjectId) (sampleId : SampleIdentity) (buffer : List UInt8)
      (hfits : sampleId.Fits) :
      Asks stack session streamId replierId (.reply sampleId buffer)
        (bufferReply session streamId replierId sampleId buffer)
  | requestData (datareaderId : ObjectId) (dataStreamId : StreamId)
      (control : Option DataDeliveryControl) :
      Asks stack session streamId datareaderId (.readData dataStreamId control)
        (bufferRequestData session streamId datareaderId dataStreamId control)
  | cancelData (datareaderId : ObjectId) :
      Asks stack session streamId datareaderId
        (.readData (streamIdFromRaw 0 .inputStream)
          (some
            { maxSamples := 0
              maxElapsedTime := 0
              maxBytesPerSeconds := 0
              minPacePeriod := 0 }))
        (bufferCancelData session streamId datareaderId)

variable {stack : Memory} {session : Session} {streamId : StreamId} {objectId : ObjectId}
  {request : Request} {result : UInt16 × Session}

/-- Each call asks for that room, and puts its request there. -/
theorem Asks.eq_reserved (h : Asks stack session streamId objectId request result) :
    result = bufferPayload session streamId (request.reserved stack objectId) request.submessageId
      request.mode objectId fun base streams ub =>
        request.serialize stack (streamDevice streamId) base streams ub := by
  cases h with
  | _ => rfl

/-- Each call buffers its request. -/
theorem Asks.eq [LawfulMicroCdr] (h : Asks stack session streamId objectId request result)
    (hsized : request.Sized objectId) :
    result = request.buffer stack session streamId objectId := by
  rw [h.eq_reserved, request.reserved_eq stack hsized, Request.buffer]

end

/-! ## Identifiers -/

/-- The identifier of a request that is the next one but so many, in a session whose last one is
given. -/
def requestIdAfter (last : UInt16) : Nat → UInt16
  | 0 => last
  | n + 1 =>
    (generateRequestId
      { id := 0, key := [], lastRequestedStatus := 0, lastRequestId := requestIdAfter last n }).1

/-- The number of the identifiers that are generated before they start over. -/
def requestRound : Nat := 65526

theorem generateRequestId_next (info : SessionInfo) :
    (generateRequestId info).1 = requestIdAfter info.lastRequestId 1 ∧
      (generateRequestId info).2.lastRequestId = requestIdAfter info.lastRequestId 1 :=
  ⟨rfl, rfl⟩

theorem requestIdAfter_add (last : UInt16) (m n : Nat) :
    requestIdAfter (requestIdAfter last m) n = requestIdAfter last (m + n) := by
  induction n with
  | zero => rfl
  | succ n ih => rw [requestIdAfter, ih, ← Nat.add_assoc, requestIdAfter]

theorem requestIdAfter_succ_toNat (last : UInt16) (n : Nat) :
    (requestIdAfter last (n + 1)).toNat =
      if (requestIdAfter last n).toNat = 65535 ∨ (requestIdAfter last n).toNat ≤ 9 then 10
      else (requestIdAfter last n).toNat + 1 := by
  have hlt := (requestIdAfter last n).toNat_lt
  have hmax : requestIdAfter last n = 0xFFFF ↔ (requestIdAfter last n).toNat = 65535 :=
    UInt16.toNat_inj.symm
  have hreserved : requestIdAfter last n ≤ reservedRequestsId ↔
      (requestIdAfter last n).toNat ≤ 9 := UInt16.le_iff_toNat_le
  rw [requestIdAfter, generateRequestId]
  simp only [hmax, hreserved]
  split
  · rfl
  · rw [UInt16.toNat_add]
    show (_ + 1) % 65536 = _
    omega

/-- The identifiers are those behind the reserved ones, and they go round. -/
theorem requestIdAfter_round (last : UInt16) (n : Nat) :
    10 ≤ (requestIdAfter last (n + 1)).toNat ∧
      (requestIdAfter last (n + 1)).toNat - 10 =
        ((requestIdAfter last 1).toNat - 10 + n) % requestRound := by
  have hlt := (requestIdAfter last 1).toNat_lt
  rw [requestRound]
  induction n with
  | zero =>
    have hfirst := requestIdAfter_succ_toNat last 0
    rw [Nat.zero_add] at hfirst ⊢
    constructor
    · split at hfirst
      · omega
      · omega
    · omega
  | succ n ih =>
    obtain ⟨hle, hrank⟩ := ih
    have hnext := requestIdAfter_succ_toNat last (n + 1)
    have hbound := (requestIdAfter last (n + 1)).toNat_lt
    split at hnext
    · constructor
      · omega
      · omega
    · constructor
      · omega
      · omega

/-- Until they start over, all identifiers differ. -/
theorem requestIdAfter_inj {last : UInt16} {m n : Nat} (hm : 0 < m) (hmn : m < n)
    (hround : n ≤ requestRound) : requestIdAfter last m ≠ requestIdAfter last n := by
  intro heq
  obtain ⟨m, rfl⟩ : ∃ k, m = k + 1 := ⟨m - 1, by omega⟩
  obtain ⟨n, rfl⟩ : ∃ k, n = k + 1 := ⟨n - 1, by omega⟩
  obtain ⟨-, hrank⟩ := requestIdAfter_round last m
  obtain ⟨-, hrank'⟩ := requestIdAfter_round last n
  rw [heq] at hrank
  rw [requestRound] at hround hrank hrank'
  omega

/-- The identifiers of a request, as they are sent. -/
def requestBase (requestId : UInt16) (objectId : ObjectId) : BaseObjectRequest where
  requestId := [(requestId >>> 8).toUInt8, requestId.toUInt8]
  objectId := objectIdToRaw objectId

theorem initBaseObjectRequest_eq (info : SessionInfo) (objectId : ObjectId) :
    initBaseObjectRequest info objectId = ((generateRequestId info).1,
      requestBase (generateRequestId info).1 objectId, (generateRequestId info).2) := rfl

theorem requestBase_fits (requestId : UInt16) (objectId : ObjectId) :
    (requestBase requestId objectId).Fits := ⟨rfl, rfl⟩

/-- The identifier of a request is read back. -/
theorem requestBase_requestId (requestId : UInt16) (objectId : ObjectId) :
    uint16FromRaw (requestBase requestId objectId).requestId = requestId := by
  have hlt := requestId.toNat_lt
  apply UInt16.toNat_inj.mp
  simp [uint16FromRaw, requestBase, Nat.shiftRight_eq_div_pow]
  omega

/-- So is that of an object, where it has twelve bits and the type has four. -/
theorem requestBase_objectId (requestId : UInt16) {objectId : ObjectId} (hid : objectId.id < 4096)
    (htype : objectId.type < 16) :
    objectIdFromRaw (requestBase requestId objectId).objectId = objectId := by
  obtain ⟨id, type⟩ := objectId
  have hid : id.toNat < 4096 := hid
  have htype : type.toNat < 16 := htype
  have hmask (n : Nat) : n &&& 15 = n % 16 := Nat.and_two_pow_sub_one_eq_mod n 4
  rw [objectIdFromRaw, requestBase, objectIdToRaw, ObjectId.mk.injEq]
  constructor
  · apply UInt16.toNat_inj.mp
    simp [hmask, Nat.shiftRight_eq_div_pow, Nat.shiftLeft_eq]
    omega
  · apply UInt8.toNat_inj.mp
    simp [hmask, Nat.shiftLeft_eq]
    omega

/-! ## What is done with a session -/

section

variable [MicroCdr]

/-- The payload says what is asked for, under the identifiers of the request. -/
structure CarriesRequest (requestId : UInt16) (objectId : ObjectId) (request : Request)
    (payload : List UInt8) : Prop where
  length : payload.length = request.payloadSize objectId
  requestRead : uint16FromRaw (requestBase requestId objectId).requestId = requestId
  objectRead : objectId.id < 4096 → objectId.type < 16 →
    objectIdFromRaw (requestBase requestId objectId).objectId = objectId
  laid : ∃ stack, LaidOut machineEndianness 0 0
    (request.fields stack (requestBase requestId objectId)) payload
  read : request.Fits → request.ReadFrom (requestBase requestId objectId) payload

/-- What is seen of a session at one of its output streams: requests that were accepted, and what is
seen of the stream itself. -/
inductive RequestEvent where
  | request (requestId : UInt16) (objectId : ObjectId) (request : Request)
  | packing (event : PackingEvent)

/-- The identifier of a request. -/
def RequestEvent.requestId : RequestEvent → Option UInt16
  | request requestId _ _ => some requestId
  | packing _ => none

/-- The session, the regions that were granted in the stream, and how many identifiers of requests
were generated. -/
structure RequestState where
  session : Session
  granted : List (Set Nat)
  generated : Nat

/-- The stream is the same one. -/
structure SameStream (streamId : StreamId) (streams streams' : StreamStorage) : Prop where
  bestEffort : streams'.outputBestEffort streamId.index = streams.outputBestEffort streamId.index
  reliable : streams'.outputReliable streamId.index = streams.outputReliable streamId.index

def RequestState.packing (st : RequestState) : PackingState where
  streams := st.session.streams
  granted := st.granted

/-- Where the submessage of a request is granted room, no slot ends within the padding of its
payload. -/
def Request.Placed (stack : Memory) (streams : StreamStorage) (streamId : StreamId)
    (objectId : ObjectId) (request : Request) : Prop :=
  ∀ streams' ub base, BaseObjectRequest.Fits base →
    bufferSubmessage streams streamId (request.payloadSize objectId) request.submessageId
      request.mode = some (streams', ub) →
    PaddingKept (streamDevice streamId) (request.fields stack base) streams' ub

/-- One call: a request is accepted or refused, the stream is used in another way, or the session
does something that leaves the stream alone, and may generate identifiers for requests that go
through other streams. Where requests are placed is of interest only in a stream whose slots are not
aligned. -/
inductive RequestStep (aligned : Prop) (streamId : StreamId) :
    RequestState → List RequestEvent → RequestState → Prop
  | accepted {st : RequestState} {stack : Memory} {objectId : ObjectId} {request : Request}
      {requestId : UInt16} {session : Session}
      (hcall : Asks stack st.session streamId objectId request (requestId, session))
      (hsized : request.Sized objectId)
      (hplaced : aligned ∨ request.Placed stack st.session.streams streamId objectId)
      (hvalid : requestId ≠ invalidRequestId) :
      RequestStep aligned streamId st [.request requestId objectId request]
        { session
          granted := grantedRegion st.session.streams streamId (request.payloadSize objectId) ::
            st.granted
          generated := st.generated + 1 }
  | refused {st : RequestState} {stack : Memory} {objectId : ObjectId} {request : Request}
      {session : Session}
      (hcall : Asks stack st.session streamId objectId request (invalidRequestId, session)) :
      RequestStep aligned streamId st [] { st with session }
  | packing {st : RequestState} {events : List PackingEvent} {st' : PackingState}
      (hstep : PackingStep streamId st.packing events st') :
      RequestStep aligned streamId st (events.map .packing)
        { st with
          session := { st.session with streams := st'.streams }
          granted := st'.granted }
  | elsewhere {st : RequestState} {session : Session} (count : Nat)
      (hsame : SameStream streamId st.session.streams session.streams)
      (hids : session.info.lastRequestId = requestIdAfter st.session.info.lastRequestId count) :
      RequestStep aligned streamId st [] { st with session, generated := st.generated + count }

/-- Calls, one after the other, and what is seen of them. -/
inductive RequestRun (aligned : Prop) (streamId : StreamId) :
    RequestState → List RequestEvent → RequestState → Prop
  | refl (st : RequestState) : RequestRun aligned streamId st [] st
  | step {st st₁ st' : RequestState} {events rest : List RequestEvent}
      (hstep : RequestStep aligned streamId st events st₁)
      (hrest : RequestRun aligned streamId st₁ rest st') :
      RequestRun aligned streamId st (events ++ rest) st'

/-- A request is seen of the stream as a submessage that says what is asked for. -/
inductive Shows : RequestEvent → PackingEvent → Prop
  | request {requestId : UInt16} {objectId : ObjectId} {request : Request} {payload : List UInt8}
      (hcarries : CarriesRequest requestId objectId request payload) :
      Shows (.request requestId objectId request)
        (.buffered request.submessageId request.mode payload)
  | packing (event : PackingEvent) : Shows (.packing event) event

theorem shows_packing (events : List PackingEvent) :
    List.Forall₂ Shows (events.map .packing) events := by
  induction events with
  | nil => exact .nil
  | cons event events ih => exact .cons (.packing event) ih

end

/-! ## One call -/

section

variable [MicroCdr] [BoundedMicroCdr] {streamId : StreamId} {st st' : PackingState}
  {box : Outbox PackedSubmessage} {events : List PackingEvent}

/-- In a stream with aligned slots, requests are always placed so. -/
theorem Holding.placed (h : Holding streamId st box) (hslots : SlotsAligned st.streams streamId)
    (stack : Memory) {objectId : ObjectId} {request : Request} (hsized : request.Sized objectId) :
    request.Placed stack st.streams streamId objectId := by
  intro streams ub base hfits hgranted
  obtain ⟨-, haligned⟩ := h.writable hgranted
  exact h.paddingKept hslots hgranted (fun _ _ hmem => Request.width_mem stack hmem)
    (Nat.le_of_eq (request.laidSize_eq stack hsized hfits haligned))

/-- A request is refused, or it gets the next identifier, and its payload is buffered. -/
theorem Request.buffer_cases (h : Holding streamId st box) {session : Session}
    (hstreams : session.streams = st.streams) {stack : Memory} {objectId : ObjectId}
    {request : Request} (hsized : request.Sized objectId)
    (hplaced : request.Placed stack st.streams streamId objectId) :
    request.buffer stack session streamId objectId = (invalidRequestId, session) ∨
      ∃ payload streams, request.buffer stack session streamId objectId =
          ((generateRequestId session.info).1,
            { session with info := (generateRequestId session.info).2, streams }) ∧
        CarriesRequest (generateRequestId session.info).1 objectId request payload ∧
        PackingStep streamId st [.buffered request.submessageId request.mode payload]
          { streams
            granted := grantedRegion st.streams streamId (request.payloadSize objectId) ::
              st.granted } := by
  rw [Request.buffer, bufferPayload, hstreams]
  cases hgranted : bufferSubmessage st.streams streamId (request.payloadSize objectId)
      request.submessageId request.mode with
  | none => exact .inl rfl
  | some granted =>
    obtain ⟨streams, ub⟩ := granted
    obtain ⟨base, hbase⟩ : ∃ base, base = requestBase (generateRequestId session.info).1 objectId :=
      ⟨_, rfl⟩
    have hfits : base.Fits := hbase ▸ requestBase_fits _ _
    have hwidth (width value : Nat) (hmem : Field.scalar width value ∈ request.fields stack base) :=
      Request.width_mem stack hmem
    obtain ⟨hwritable, haligned⟩ := h.writable hgranted
    have hsize : laidSize ub.offset ub.lastDataSize (request.fields stack base) = _ :=
      request.laidSize_eq stack hsized hfits haligned
    -- the payload is put behind the header, and is read from there
    obtain ⟨payload, streams', ub', ub'', hlaid, hputs, hwritten⟩ :=
      hwritable.fields (streamDevice_regular streamId) (streamDevice_continues streamId)
        (streamDevice_storesBack streamId) hwidth (Nat.le_of_eq hsize)
        (hplaced streams ub base hfits hgranted)
    have hrun : request.serialize stack (streamDevice streamId) base streams ub = _ :=
      Request.writes stack hsized base streams ub (by rw [hwritten])
    have hlength : payload.length = request.payloadSize objectId := hlaid.length.trans hsize
    have hfront :=
      (hlaid.shift hwidth (show ub.offset % 4 = 0 % 4 from haligned)).front hwidth rfl 0
    refine .inr ⟨payload, streams', ?_, ⟨hlength, requestBase_requestId _ _,
      requestBase_objectId _, ⟨stack, hbase ▸ hfront⟩, ?_⟩, ?_⟩
    · dsimp only
      rw [initBaseObjectRequest_eq, ← hbase]
      dsimp only
      rw [hrun, hwritten]
    · intro hfitting
      rw [← hbase]
      exact request.readFrom stack hsized hfitting hfits hfront
    · rw [← hlength] at hgranted ⊢
      exact .write _ _ payload hgranted hputs

omit [BoundedMicroCdr] in
/-- Where a payload is refused, nothing was done. -/
theorem bufferPayload_refused {session : Session} {payloadSize : Nat} {submessageId mode : UInt8}
    {objectId : ObjectId}
    {serialize : BaseObjectRequest → StreamStorage → UcdrBuffer →
      Bool × StreamStorage × UcdrBuffer}
    (hrefused : (bufferPayload session streamId payloadSize submessageId mode objectId
      serialize).1 = invalidRequestId) :
    (bufferPayload session streamId payloadSize submessageId mode objectId serialize).2 =
      session := by
  rw [bufferPayload] at hrefused ⊢
  split at hrefused
  · exact absurd hrefused (generateRequestId_ne _)
  · rfl

omit [BoundedMicroCdr] in
/-- A call that gets no room does nothing. -/
theorem Asks.refused {stack : Memory} {session : Session} {objectId : ObjectId} {request : Request}
    {result : UInt16 × Session} (h : Asks stack session streamId objectId request result)
    (hrefused : result.1 = invalidRequestId) : result.2 = session := by
  have hresult := h.eq_reserved
  subst hresult
  exact bufferPayload_refused hrefused

omit [MicroCdr] [BoundedMicroCdr] in
theorem Holding.same (h : Holding streamId st box) {streams : StreamStorage}
    (hsame : SameStream streamId st.streams streams) :
    Holding streamId { streams, granted := st.granted } box := by
  cases h with
  | bestEffort htype hqueued hapart =>
    rw [← hsame.bestEffort] at hqueued hapart
    exact .bestEffort htype hqueued hapart
  | reliable htype win hqueued hapart =>
    rw [← hsame.reliable] at hqueued hapart
    exact .reliable htype win hqueued hapart

end

/-! ## Runs -/

/-- The identifiers that are seen are some of those between the two numbers, in order. -/
def Numbered (last : UInt16) (first stop : Nat) (events : List RequestEvent) : Prop :=
  first ≤ stop ∧ ∃ indices : List Nat,
    events.filterMap RequestEvent.requestId = indices.map (requestIdAfter last) ∧
      indices.Pairwise (· < ·) ∧ ∀ i ∈ indices, first < i ∧ i ≤ stop

theorem Numbered.none (last : UInt16) {first stop : Nat} (hle : first ≤ stop)
    {events : List RequestEvent} (hnone : events.filterMap RequestEvent.requestId = []) :
    Numbered last first stop events :=
  ⟨hle, [], hnone, .nil, fun _ hmem => absurd hmem List.not_mem_nil⟩

theorem Numbered.append {last : UInt16} {first middle stop : Nat} {events rest : List RequestEvent}
    (h : Numbered last first middle events) (hrest : Numbered last middle stop rest) :
    Numbered last first stop (events ++ rest) := by
  obtain ⟨hle, indices, hids, hordered, hbetween⟩ := h
  obtain ⟨hle', indices', hids', hordered', hbetween'⟩ := hrest
  refine ⟨Nat.le_trans hle hle', indices ++ indices', ?_, ?_, ?_⟩
  · rw [List.filterMap_append, List.map_append, hids, hids']
  · refine List.pairwise_append.mpr ⟨hordered, hordered', fun i hi j hj => ?_⟩
    exact Nat.lt_of_le_of_lt (hbetween i hi).2 (hbetween' j hj).1
  · intro i hmem
    rcases List.mem_append.mp hmem with hi | hi
    · exact ⟨(hbetween i hi).1, Nat.le_trans (hbetween i hi).2 hle'⟩
    · exact ⟨Nat.lt_of_le_of_lt hle (hbetween' i hi).1, (hbetween' i hi).2⟩

/-- Until the identifiers start over, no two requests have the same one. -/
theorem Numbered.nodup {last : UInt16} {stop : Nat} {events : List RequestEvent}
    (h : Numbered last 0 stop events) (hround : stop ≤ requestRound) :
    (events.filterMap RequestEvent.requestId).Nodup := by
  obtain ⟨-, indices, hids, hordered, hbetween⟩ := h
  rw [hids, List.Nodup, List.pairwise_map]
  refine hordered.imp_of_mem fun {i j} hi hj hlt => ?_
  exact requestIdAfter_inj (hbetween i hi).1 hlt (Nat.le_trans (hbetween j hj).2 hround)

section

variable [MicroCdr] [BoundedMicroCdr] {streamId : StreamId} {st st' : RequestState}
  {box : Outbox PackedSubmessage} {events : List RequestEvent} {last : UInt16} {aligned : Prop}

/-- The stream holds what the outbox has, in slots that are multiples of four if they were so, and
so many identifiers were generated. -/
structure RequestInv (last : UInt16) (aligned : Prop) (streamId : StreamId) (st : RequestState)
    (box : Outbox PackedSubmessage) : Prop where
  holding : Holding streamId st.packing box
  slots : aligned → SlotsAligned st.session.streams streamId
  ids : st.session.info.lastRequestId = requestIdAfter last st.generated

theorem RequestInv.placed (h : RequestInv last aligned streamId st box) {stack : Memory}
    {objectId : ObjectId} {request : Request} (hsized : request.Sized objectId)
    (hplaced : aligned ∨ request.Placed stack st.session.streams streamId objectId) :
    request.Placed stack st.session.streams streamId objectId := by
  rcases hplaced with haligned | hplaced
  · exact h.holding.placed (h.slots haligned) stack hsized
  · exact hplaced

/-- What one call keeps, and what is seen of it. -/
theorem RequestInv.step (h : RequestInv last aligned streamId st box)
    (hstep : RequestStep aligned streamId st events st') :
    ∃ seen box', List.Forall₂ Shows events seen ∧ Accepts box seen box' ∧
      RequestInv last aligned streamId st' box' ∧
      Numbered last st.generated st'.generated events := by
  cases hstep with
  | @accepted stack objectId request requestId session hcall hsized hplaced hvalid =>
    have hresult := hcall.eq hsized
    rcases Request.buffer_cases h.holding rfl hsized (h.placed hsized hplaced) with hrefused |
      ⟨payload, streams, hbuffered, hcarries, hpacking⟩
    · -- a request that gets an identifier was not refused
      rw [hrefused] at hresult
      exact absurd (congrArg Prod.fst hresult) hvalid
    · rw [hbuffered] at hresult
      obtain ⟨rfl, rfl⟩ := Prod.mk.inj hresult
      obtain ⟨hid, hlast⟩ := generateRequestId_next st.session.info
      rw [h.ids, requestIdAfter_add] at hid hlast
      obtain ⟨box', haccepts, hholding⟩ := h.holding.step hpacking
      have hslots (haligned : aligned) :=
        h.holding.slotsAligned (h.slots haligned) hpacking
      refine ⟨_, box', .cons (.request hcarries) .nil, haccepts, ⟨hholding, hslots, hlast⟩,
        Nat.le_succ _, [st.generated + 1], ?_, List.pairwise_singleton _ _, ?_⟩
      · simp [RequestEvent.requestId, hid]
      · simp
  | @refused stack objectId request session hcall =>
    obtain rfl : session = st.session := hcall.refused rfl
    exact ⟨[], box, .nil, .nil box, h, .none last (Nat.le_refl _) rfl⟩
  | @packing events st₁ hstep =>
    obtain ⟨box', haccepts, hholding⟩ := h.holding.step hstep
    have hslots (haligned : aligned) := h.holding.slotsAligned (h.slots haligned) hstep
    refine ⟨events, box', shows_packing events, haccepts, ⟨hholding, hslots, h.ids⟩,
      .none last (Nat.le_refl _) ?_⟩
    rw [List.filterMap_map]
    exact List.filterMap_eq_nil_iff.mpr fun _ _ => rfl
  | @elsewhere session count hsame hids =>
    have hslots (haligned : aligned) : SlotsAligned session.streams streamId := by
      intro htype
      rw [hsame.reliable]
      exact h.slots haligned htype
    refine ⟨[], box, .nil, .nil box, ⟨h.holding.same hsame, hslots, ?_⟩,
      .none last (Nat.le_add_right _ _) rfl⟩
    rw [hids, h.ids, requestIdAfter_add]

/-- What a run keeps, and what is seen of it. -/
theorem RequestInv.run (h : RequestInv last aligned streamId st box)
    (hrun : RequestRun aligned streamId st events st') :
    ∃ seen box', List.Forall₂ Shows events seen ∧ Accepts box seen box' ∧
      RequestInv last aligned streamId st' box' ∧
      Numbered last st.generated st'.generated events := by
  induction hrun generalizing box with
  | refl st => exact ⟨[], box, .nil, .nil box, h, .none last (Nat.le_refl _) rfl⟩
  | step hstep _ ih =>
    obtain ⟨seen, box₁, hshows, haccepts, h₁, hnumbered⟩ := h.step hstep
    obtain ⟨rest, box', hshows', haccepts', h', hnumbered'⟩ := ih h₁
    exact ⟨seen ++ rest, box', List.rel_append hshows hshows', haccepts.append haccepts', h',
      hnumbered.append hnumbered'⟩

/-- **Requests leave a stream in order**: whatever else is done with a session, what is seen of an
output stream are the requests that were accepted. Each of them is a submessage whose payload has
the length that was asked for and, if there is room for its parts in the types of the source, is read
as the request, under its identifiers; the messages that leave have these submessages, in order;
until the identifiers start over, no two requests have the same one; and a call that is refused has
changed nothing. The slots of the stream are multiples of four, or no slot ends within the padding of
a request. -/
theorem requests_leave_in_order {session : Session}
    (hcreated : CreatedStream session.streams streamId)
    (hslots : aligned → SlotsAligned session.streams streamId)
    (hrun : RequestRun aligned streamId { session, granted := [], generated := 0 } events st) :
    (∃ seen box, List.Forall₂ Shows events seen ∧ Accepts Outbox.empty seen box) ∧
      (st.generated ≤ requestRound → (events.filterMap RequestEvent.requestId).Nodup) ∧
      ∀ {stack : Memory} {objectId : ObjectId} {request : Request} {session' : Session},
        Asks stack st.session streamId objectId request (invalidRequestId, session') →
        session' = st.session := by
  have hinv : RequestInv session.info.lastRequestId aligned streamId
      { session, granted := [], generated := 0 } Outbox.empty := ⟨hcreated.holding, hslots, rfl⟩
  obtain ⟨seen, box, hshows, haccepts, -, hnumbered⟩ := hinv.run hrun
  exact ⟨⟨seen, box, hshows, haccepts⟩, hnumbered.nodup, fun hcall => hcall.refused rfl⟩

end

/-- A session with one best-effort stream. -/
def topicSession : Session where
  info := { id := 0x81, key := [0, 0, 0, 0], lastRequestedStatus := 0, lastRequestId := 9 }
  streams := (addOutputBestEffortBuffer StreamStorage.zeroed (fun _ => 0) 64 4).2
  sent := []
  effects := []
  accesses := []

/-- A topic is created in it, and the message leaves. -/
theorem requests_leave_in_order_topic :
    ∃ parsed seen box,
      List.Forall₂ (@Shows referenceMicroCdr)
        [.request 10 ⟨1, 2⟩ (.create 0 (.topic ⟨1, 1⟩) (.xml [0x61])), .packing (.yielded parsed)]
        seen ∧
      @Accepts referenceMicroCdr Outbox.empty seen box := by
  let _ : MicroCdr := referenceMicroCdr
  have _ : BoundedMicroCdr := referenceMicroCdr_bounded
  obtain ⟨⟨requestId, session⟩, hresult⟩ : ∃ result, result = bufferCreateTopicXml topicSession
      (streamId 0 .bestEffortStream .outputStream) ⟨1, 2⟩ ⟨1, 1⟩ [0x61] 0 := ⟨_, rfl⟩
  -- the call returns an identifier, and there is a message then
  have hid : requestId = 10 := by
    rw [show requestId = _ from congrArg Prod.fst hresult]
    decide +kernel
  have hready : (prepareBestEffortBufferToSend (session.streams.outputBestEffort 0)).1 = true := by
    rw [show session = _ from congrArg Prod.snd hresult]
    decide +kernel
  subst hid
  have hcall : Asks (fun _ => 0) topicSession
      (streamId 0 .bestEffortStream .outputStream) ⟨1, 2⟩
      (.create 0 (.topic ⟨1, 1⟩) (.xml [0x61])) (10, session) :=
    hresult ▸ .topicXml ⟨1, 2⟩ ⟨1, 1⟩ [0x61] 0
  obtain ⟨stream', next, hsent⟩ : ∃ stream' next, prepareBestEffortBufferToSend
      (session.streams.outputBestEffort 0) = (true, stream', next) :=
    ⟨_, _, Prod.ext hready rfl⟩
  have hcreated : CreatedStream topicSession.streams
      (streamId 0 .bestEffortStream .outputStream) :=
    .bestEffort StreamStorage.zeroed (fun _ => 0) 64 4 (.inl rfl) (by decide) (by decide)
  obtain ⟨⟨seen, box, hshows, haccepts⟩, -⟩ := requests_leave_in_order hcreated
    (fun _ htype => absurd htype (by decide))
    (.step (.accepted hcall ⟨trivial, trivial, by decide, by decide⟩ (.inl trivial) (by decide))
      (.step (.packing (.sendBestEffort rfl rfl hsent)) (.refl _)))
  exact ⟨_, seen, box, hshows, haccepts⟩

end XrceClient
