import XrceClient.Session.GrantedBuffers
import XrceClient.Session.RequestRuns
import XrceClient.SharedMemory.Replies
import XrceClient.SharedMemory.SampleTracking

/-!
# The routes of replies (`write_access.c`, `shared_memory.c`)

A requester asks with `uxr_buffer_request`, a replier is handed the request and answers with
`uxr_buffer_reply`. What these calls put into the shared memory is handed over later.

- `bufferRequestShared`, `bufferReplyShared`: the calls, with what they do to the shared memory.
- `bufferReplyShared_holds`: behind `uxr_buffer_reply` the buffer in the item holds the reply.
- `RequestExchange`: a run with a request and a reply to it.
- `RequestExchange.RoutesReply`: the requester gets the reply, and no other one does.
- `routes_reply_iff`: when this is so.
-/

namespace XrceClient

open ByteMemory XrceTypes

/-! ## The calls -/

/-- The arguments of a call that buffers data: the session with what is in it, the stream, the
entity and the data. -/
structure WriteCall where
  client : Session
  session : Nat
  streamId : StreamId
  entityId : ObjectId
  buffer : List UInt8

section

variable [MicroCdr] {σ : Type}

/-- What the calls do before they pass the buffer on: there is room for so many bytes, and the
request is written (write_access.c:28–41, 57–72). -/
def WriteCall.start (call : WriteCall) (length : Nat) : Option (UInt16 × Session × UcdrBuffer) := do
  let (streams, ub) ← bufferSubmessage call.client.streams call.streamId
    (writeDataPayloadSize + length) SubmessageId.writeData.value formatData
  let (requestId, base, info) := initBaseObjectRequest call.client.info call.entityId
  let (_, streams, ub) := serializeBaseObjectRequest (streamDevice call.streamId) streams ub base
  return (requestId, { call.client with info, streams }, ub)

/-- `uxr_buffer_request` (write_access.c:21–48): what it returns, the session and the process. -/
def bufferRequestShared (config : SharedMemoryConfig) (process : SharedProcess σ)
    (call : WriteCall) : UInt16 × Session × SharedProcess σ :=
  match call.start call.buffer.length with
  | some (requestId, client, ub) =>
    let process := process.prepare config call.session call.entityId ub
      (UInt16.ofNat call.buffer.length) requestId
    let (_, streams, _) :=
      ucdrSerializeArray (streamDevice call.streamId) client.streams ub call.buffer
    (requestId, { client with streams }, process)
  | none => (invalidRequestId, call.client, process)

/-- `uxr_buffer_reply` (write_access.c:50–79). -/
def bufferReplyShared (config : SharedMemoryConfig) (process : SharedProcess σ)
    (call : WriteCall) (sampleId : SampleIdentity) : UInt16 × Session × SharedProcess σ :=
  match call.start (sampleIdentitySize + call.buffer.length) with
  | some (requestId, client, ub) =>
    let process := process.prepare config call.session call.entityId ub
      (UInt16.ofNat (sampleIdentitySize + call.buffer.length)) requestId
    let (_, streams, ub) :=
      serializeSampleIdentity (streamDevice call.streamId) client.streams ub sampleId
    let (_, streams, _) := ucdrSerializeArray (streamDevice call.streamId) streams ub call.buffer
    (requestId, { client with streams }, process)
  | none => (invalidRequestId, call.client, process)

/-- Without shared memory it is the same call. -/
theorem bufferRequestShared_eq (config : SharedMemoryConfig) (process : SharedProcess σ)
    (call : WriteCall) :
    ((bufferRequestShared config process call).1, (bufferRequestShared config process call).2.1) =
      bufferRequest call.client call.streamId call.entityId call.buffer := by
  rw [bufferRequestShared, WriteCall.start, bufferRequest, bufferDataRequest, bufferPayload]
  cases bufferSubmessage call.client.streams call.streamId
    (writeDataPayloadSize + call.buffer.length) SubmessageId.writeData.value formatData with
  | none => rfl
  | some room => rfl

theorem bufferReplyShared_eq (config : SharedMemoryConfig) (process : SharedProcess σ)
    (call : WriteCall) (sampleId : SampleIdentity) :
    ((bufferReplyShared config process call sampleId).1,
        (bufferReplyShared config process call sampleId).2.1) =
      bufferReply call.client call.streamId call.entityId sampleId call.buffer := by
  have hsize : writeDataPayloadSize + (sampleIdentitySize + call.buffer.length) =
      writeDataPayloadSize + 24 + call.buffer.length := (Nat.add_assoc _ 24 _).symm
  rw [bufferReplyShared, WriteCall.start, bufferReply, bufferPayload, hsize]
  cases bufferSubmessage call.client.streams call.streamId
    (writeDataPayloadSize + 24 + call.buffer.length) SubmessageId.writeData.value formatData with
  | none => rfl
  | some room => rfl

/-- A call that returns a request has published its data. -/
theorem bufferRequestShared_published {config : SharedMemoryConfig} {process : SharedProcess σ}
    {call : WriteCall} (h : (bufferRequestShared config process call).1 ≠ invalidRequestId) :
    ∃ ub, (bufferRequestShared config process call).2.2 =
      process.prepare config call.session call.entityId ub (UInt16.ofNat call.buffer.length)
        (bufferRequestShared config process call).1 := by
  rw [bufferRequestShared] at h ⊢
  cases hstart : call.start call.buffer.length with
  | none =>
    rw [hstart] at h
    exact absurd rfl h
  | some started => exact ⟨started.2.2, rfl⟩

theorem bufferReplyShared_published {config : SharedMemoryConfig} {process : SharedProcess σ}
    {call : WriteCall} {sampleId : SampleIdentity}
    (h : (bufferReplyShared config process call sampleId).1 ≠ invalidRequestId) :
    ∃ requestId client ub,
      call.start (sampleIdentitySize + call.buffer.length) = some (requestId, client, ub) ∧
      (bufferReplyShared config process call sampleId).2.2 =
        process.prepare config call.session call.entityId ub
          (UInt16.ofNat (sampleIdentitySize + call.buffer.length)) requestId := by
  rw [bufferReplyShared] at h ⊢
  cases hstart : call.start (sampleIdentitySize + call.buffer.length) with
  | none =>
    rw [hstart] at h
    exact absurd rfl h
  | some started => exact ⟨started.1, started.2.1, started.2.2, rfl, rfl⟩

end

/-! ## What the buffer in the item holds -/

section

variable [MicroCdr] [LawfulMicroCdr] {σ : Type} {dev : Device σ}

/-- Bytes are written where there is room for them, and there is room for the rest. -/
theorem Writable.array (hdev : dev.Regular) (hcontinues : dev.Continues) {n : Nat} {s : σ}
    {ub : UcdrBuffer} (h : Writable dev n s ub) {bytes : List UInt8} (hle : bytes.length ≤ n) :
    ∃ s' ub', ucdrSerializeArray dev s ub bytes = (true, s', ub') ∧
      Writable dev (n - bytes.length) s' ub' ∧ ub'.offset = ub.offset + bytes.length := by
  obtain ⟨s', ub', hputs⟩ := h.room.mono hle bytes rfl
  refine ⟨s', ub'.marked machineEndianness 1, ?_, (h.after hcontinues hputs hle).marked hdev 1,
    hputs.offset hdev⟩
  rw [LawfulMicroCdr.serializeArray hputs, UcdrBuffer.marked,
    ← hputs.endianness hcontinues h.endianness]

/-- Behind the request there is room for the data, from a multiple of four on. -/
theorem WriteCall.start_writable {call : WriteCall} {granted : List (Set Nat)}
    {box : Outbox PackedSubmessage}
    (hstream : Holding call.streamId { streams := call.client.streams, granted } box)
    {length : Nat} {requestId : UInt16} {client : Session} {ub : UcdrBuffer}
    (h : call.start length = some (requestId, client, ub)) :
    Writable (streamDevice call.streamId) length client.streams ub ∧ ub.offset % 4 = 0 := by
  obtain ⟨⟨streams, room⟩, hgranted, hstarted⟩ := Option.bind_eq_some_iff.mp h
  obtain ⟨hwritable, haligned⟩ := hstream.writable hgranted
  have hdev := streamDevice_regular call.streamId
  have hcontinues := streamDevice_continues call.streamId
  have hfour : writeDataPayloadSize = 4 := rfl
  obtain ⟨base, hbase⟩ : ∃ base,
      base = (initBaseObjectRequest call.client.info call.entityId).2.1 := ⟨_, rfl⟩
  have hrequest : base.requestId.length = 2 := by
    rw [hbase]
    rfl
  have hobject : base.objectId.length = 2 := by
    rw [hbase]
    rfl
  obtain ⟨s₁, ub₁, hfirst, hroom, hoffset⟩ := hwritable.array hdev hcontinues
    (show base.requestId.length ≤ _ by omega)
  obtain ⟨s₂, ub₂, hsecond, hroom', hoffset'⟩ := hroom.array hdev hcontinues
    (show base.objectId.length ≤ _ by omega)
  have hwritten : serializeBaseObjectRequest (streamDevice call.streamId) streams room base =
      (true, s₂, ub₂) := by
    rw [serializeBaseObjectRequest, hfirst]
    dsimp only
    rw [hsecond]
    rfl
  dsimp only at hstarted
  rw [← hbase, hwritten] at hstarted
  cases hstarted
  have hrest : writeDataPayloadSize + length - base.requestId.length - base.objectId.length =
      length := by omega
  rw [hrest] at hroom'
  refine ⟨hroom', ?_⟩
  show ub₂.offset % 4 = 0
  omega

/-- What is stored is loaded, and nothing else changes. -/
def Device.Stores (dev : Device σ) : Prop :=
  ∀ s a b c, dev.load (dev.store s a b) c = if c = a then b else dev.load s c

omit [MicroCdr] [LawfulMicroCdr] in
/-- Bytes that are put into a block are there, and the others stay. -/
theorem Puts.loads (hstores : dev.Stores) {s s' : σ} {ub ub' : UcdrBuffer} {bytes : List UInt8}
    (h : Puts dev bytes s ub s' ub') (hroom : ub.iterator + bytes.length ≤ ub.final) :
    read (dev.load s') ub.iterator bytes.length = bytes ∧
      ∀ a < ub.iterator, dev.load s' a = dev.load s a := by
  induction h with
  | nil s ub => exact ⟨rfl, fun _ _ => rfl⟩
  | @byte b bs s s' ub ub' hok hlt hrest ih =>
    rw [List.length_cons] at hroom
    obtain ⟨hread, hkept⟩ := ih (by
      rw [UcdrBuffer.next_iterator, UcdrBuffer.next_final]
      omega)
    rw [UcdrBuffer.next_iterator] at hread hkept
    constructor
    · rw [List.length_cons, read_succ, hread, hkept _ (Nat.lt_succ_self _), hstores, if_pos rfl]
    · intro a ha
      rw [hkept a (Nat.lt_succ_of_lt ha), hstores, if_neg (Nat.ne_of_lt ha)]
  | chain hok hfull hcall hroom' hrest ih =>
    rw [List.length_cons] at hroom
    omega

omit [LawfulMicroCdr] in
theorem streamDevice_stores {streamId : StreamId}
    (htype : streamId.type = .bestEffortStream ∨ streamId.type = .reliableStream) :
    (streamDevice streamId).Stores := by
  have hwrite (memory : Memory) (a : Nat) (b : UInt8) (c : Nat) :
      write memory a [b] c = if c = a then b else memory c := by
    split
    · next heq =>
      subst heq
      exact write_inside memory c [b] 0 Nat.one_pos
    · next hne =>
      refine write_outside memory ?_
      rw [List.length_singleton]
      omega
  intro streams a b c
  rcases htype with htype | htype
  · simp [streamDevice, writeStream, htype, hwrite]
  · simp [streamDevice, writeStream, htype, hwrite, StreamStorage.setOutputReliable]

omit [MicroCdr] [LawfulMicroCdr] in
/-- An identity and a reply take as many bytes as were counted for them. -/
theorem laidSize_reply {sampleId : SampleIdentity} (hsized : sampleId.WellSized)
    (buffer : List UInt8) {offset : Nat} (haligned : offset % 4 = 0) (last : Nat) :
    laidSize offset last (sampleId.fields ++ [.array buffer]) =
      sampleIdentitySize + buffer.length := by
  have hprefix := hsized.guidPrefix
  have hkey := hsized.entityKey
  simp only [SampleIdentity.fields, List.cons_append, List.nil_append, laidSize, gapBefore,
    Field.type, FieldType.size, FieldType.last, hprefix, hkey, sampleIdentitySize]
  simp
  omega

omit [MicroCdr] [LawfulMicroCdr] in
/-- An array behind other fields needs no padding. -/
theorem Packed.append_array {types : List FieldType} {offset last : Nat}
    (h : Packed offset last types) (n : Nat) : Packed offset last (types ++ [.array n]) := by
  induction types generalizing offset last with
  | nil => exact ⟨trivial, trivial⟩
  | cons type types ih => exact ⟨h.1, ih h.2⟩

/-- Behind `uxr_buffer_reply` the identity and the reply are in the buffer that is in the item, if
it is one block. -/
theorem bufferReplyShared_holds {call : WriteCall} {granted : List (Set Nat)}
    {box : Outbox PackedSubmessage}
    (hstream : Holding call.streamId { streams := call.client.streams, granted } box)
    {sampleId : SampleIdentity} (hsized : sampleId.WellSized) {requestId : UInt16}
    {client : Session} {ub : UcdrBuffer}
    (hstart : call.start (sampleIdentitySize + call.buffer.length) = some (requestId, client, ub))
    (hblock : ub.iterator + (sampleIdentitySize + call.buffer.length) ≤ ub.final)
    (config : SharedMemoryConfig) (process : SharedProcess σ) :
    HoldsReply (streamDevice call.streamId)
      (bufferReplyShared config process call sampleId).2.1.streams ub sampleId call.buffer := by
  have hdev := streamDevice_regular call.streamId
  have hcontinues := streamDevice_continues call.streamId
  have htype : call.streamId.type = .bestEffortStream ∨ call.streamId.type = .reliableStream := by
    cases hstream with
    | bestEffort htype => exact .inl htype
    | reliable htype => exact .inr htype
  obtain ⟨hwritable, haligned⟩ := WriteCall.start_writable hstream hstart
  have hsize := laidSize_reply hsized call.buffer haligned ub.lastDataSize
  have hwidth : ∀ width value, Field.scalar width value ∈ sampleId.fields ++ [.array call.buffer] →
      width ∈ [1, 2, 4] := by
    intro width value hmem
    simp [SampleIdentity.fields] at hmem
    rcases hmem with ⟨rfl, -⟩ | ⟨rfl, -⟩ | ⟨rfl, -⟩ <;> decide
  have hkept : PaddingKept (streamDevice call.streamId) (sampleId.fields ++ [.array call.buffer])
      client.streams ub :=
    (endsAligned_within hblock).paddingKept hdev hwidth hwritable.le (Nat.le_of_eq hsize)
  obtain ⟨payload, s', ub', ub'', hlaid, hputs, hwritten⟩ := hwritable.fields hdev hcontinues
    (streamDevice_storesBack call.streamId) hwidth (Nat.le_of_eq hsize) hkept
  have hlength : payload.length = sampleIdentitySize + call.buffer.length :=
    hlaid.length.trans hsize
  have hpacked : Packed ub.offset ub.lastDataSize
      ((sampleId.fields ++ [Field.array call.buffer]).map Field.type) := by
    rw [List.map_append, hsized.types]
    exact (packed_sampleIdentity haligned).append_array call.buffer.length
  have hpayload : payload = encodeFields machineEndianness sampleId.fields ++ call.buffer := by
    rw [hlaid.packed hpacked]
    simp [encodeFields, Field.encode]
  -- the serializers put these bytes, and they are in the memory of the stream
  have hcalls := (writes_sampleIdentity sampleId).and
    (@writes_array _ _ (streamDevice call.streamId) call.buffer) client.streams ub
    (by rw [hwritten])
  rw [hwritten] at hcalls
  have hstreams : (bufferReplyShared config process call sampleId).2.1.streams = s' := by
    rw [bufferReplyShared, hstart]
    exact congrArg (fun result => result.2.1) hcalls
  have hread := (hputs.loads (streamDevice_stores htype) (hlength ▸ hblock)).1
  have hget := @gets_room _ (streamDevice call.streamId) (24 + call.buffer.length) s' ub
    (hwritable.room.error (Nat.lt_of_lt_of_le (by decide) (Nat.le_add_right 24 _))) hblock
  rw [hlength] at hread
  change read _ _ (24 + call.buffer.length) = _ at hread
  rw [hread, hpayload] at hget
  rw [hstreams]
  exact ⟨_, _, hget⟩

end

/-! ## Receivers -/

section

variable {σ : Type} {config : SharedMemoryConfig} {process : SharedProcess σ}

/-- What is published for an entity goes from the one that is found for it to those that match. -/
theorem mem_receivers_iff {session : Nat} {entityId : ObjectId} {i j : Nat} :
    (i, j) ∈ process.receivers config session entityId ↔
      process.map.getEntityIndex process.sessions session entityId = some i ∧
        j < process.map.entitiesLen ∧ (process.map.matrix i j).matched = true := by
  obtain ⟨hentities, hmatrix⟩ := process.map.sharedMemoryInit_entities config
  have hindex : (process.map.sharedMemoryInit config).getEntityIndex process.sessions session
      entityId = process.map.getEntityIndex process.sessions session entityId := by
    rw [SharedMemoryMap.getEntityIndex, hentities]
    rfl
  rw [SharedProcess.receivers, hindex, hmatrix, SharedMemoryMap.entitiesLen, hentities]
  cases process.map.getEntityIndex process.sessions session entityId with
  | none =>
    constructor
    · intro hmem
      cases hmem
    · rintro ⟨hnone, -⟩
      cases hnone
  | some entityIndex =>
    dsimp only
    rw [List.mem_map]
    constructor
    · rintro ⟨k, hmem, heq⟩
      cases heq
      obtain ⟨hk, hmatched⟩ := List.mem_filter.mp hmem
      exact ⟨rfl, List.mem_range.mp hk, hmatched⟩
    · rintro ⟨hsame, hj, hmatched⟩
      cases hsame
      exact ⟨j, List.mem_filter.mpr ⟨List.mem_range.mpr hj, hmatched⟩, rfl⟩

/-- The entity that is found has the identifier. -/
theorem getEntityIndex_entity {sessions : Nat → SharedSession} {map : SharedMemoryMap}
    {session : Nat} {entityId : ObjectId} {i : Nat}
    (h : map.getEntityIndex sessions session entityId = some i) :
    i < map.entitiesLen ∧ (map.entity i).objectId = entityId := by
  obtain ⟨hi, hcompare, -⟩ := List.findIdx?_eq_some_iff_getElem.mp h
  refine ⟨hi, ?_⟩
  simp only [SharedMemoryMap.entityCompare, Bool.and_eq_true, decide_eq_true_eq] at hcompare
  rw [SharedMemoryMap.entity, List.getD_eq_getElem _ _ hi]
  exact congrArg₂ ObjectId.mk hcompare.1.2.symm hcompare.2.symm

end

/-! ## The exchange -/

section

variable [MicroCdr] {σ : Type} {dev : Device σ} {config : SharedMemoryConfig}

/-- A requester asks, the request is handed over to a replier, and the replier answers with the
identity that its callback was given. In between the application and `uxr_handle_shared_memory` do
anything, but no session is deleted. -/
structure RequestExchange (dev : Device σ) (config : SharedMemoryConfig) where
  /-- The process when `uxr_buffer_request` is called. -/
  asking : SharedProcess σ
  started : ∃ sessions memory, (SharedProcess.initial sessions memory).Follows dev config asking
  request : WriteCall
  kind : request.entityId.type = requesterId
  asked : (bufferRequestShared config asking request).1 ≠ invalidRequestId
  /-- The process when the request is handed over, from one entity to another one. -/
  handling : SharedProcess σ
  waited : (bufferRequestShared config asking request).2.2.Follows dev config handling
  requester : Nat
  replier : Nat
  item : Nat
  frames : List HandleFrame
  handed : handling.HandsOver requester replier item frames asking.samples
  uninitialized : SampleIdentity
  wellSized : uninitialized.WellSized
  call : SharedCall
  called : (handling.handOver dev uninitialized requester replier item
    frames).handed.getLast?.bind Handing.call = some call
  sampleId : SampleIdentity
  callback : call.callback = .onRequest sampleId
  /-- The process when `uxr_buffer_reply` is called. -/
  answering : SharedProcess σ
  went : (handling.handOver dev uninitialized requester replier item frames).Follows dev config
    answering
  reply : WriteCall
  answers : answering.map.getEntityIndex answering.sessions reply.session reply.entityId =
    some replier
  stream : ∃ granted box,
    Holding reply.streamId { streams := reply.client.streams, granted } box
  answered : (bufferReplyShared config answering reply sampleId).1 ≠ invalidRequestId

namespace RequestExchange

variable (exchange : RequestExchange dev config)

/-- What `uxr_buffer_request` returned. -/
def requestId : UInt16 := (bufferRequestShared config exchange.asking exchange.request).1

/-- The process behind `uxr_buffer_reply`. -/
def replied : SharedProcess σ :=
  (bufferReplyShared config exchange.answering exchange.reply exchange.sampleId).2.2

/-- The key of the requester's session when its request was handed over. -/
def key : Vector UInt8 4 :=
  (exchange.handling.sessions (exchange.handling.map.entity exchange.requester).session).key

variable (process : SharedProcess σ)

/-- The requester is called with the reply, for the request that it was told. -/
def Delivers (dev : Device σ) (uninitialized : SampleIdentity) (i j a : Nat)
    (frames : List HandleFrame) : Prop :=
  ∃ call s' ub', (process.handOver dev uninitialized i j a frames).handed.getLast?.bind
      Handing.call = some call ∧
    call.callback = .onReply exchange.requestId ∧ call.session = (process.map.entity j).session ∧
    call.objectId = exchange.request.entityId ∧
    call.length.toNat = exchange.reply.buffer.length ∧
    Gets dev exchange.reply.buffer.length
      (process.handOver dev uninitialized i j a frames).memory call.ub exchange.reply.buffer s' ub'

/-- When the reply is handed over it is delivered to the requester that asked; another requester is
not called. -/
def RoutesReply (dev : Device σ) (uninitialized : SampleIdentity) (i j a : Nat)
    (frames : List HandleFrame) : Prop :=
  if j = exchange.requester then exchange.Delivers process dev uninitialized i j a frames
  else (process.map.entity j).objectId.type = requesterId →
    (process.handOver dev uninitialized i j a frames).handed.getLast?.bind Handing.call = none

/-- The session of the requester that asked has a callback and the key that it had, its identifier
is less than 256, and the length of the reply has sixteen bits. Another requester with a callback
has not that key and the low byte of that identifier. -/
def Routable (j : Nat) : Prop :=
  let session := process.sessions (process.map.entity j).session
  if j = exchange.requester then
    session.onReply = true ∧ session.key = exchange.key ∧
      exchange.request.entityId.id.toNat < 256 ∧ exchange.reply.buffer.length < 65536
  else
    ¬ ((process.map.entity j).objectId.type = requesterId ∧ session.onReply = true ∧
      session.key = exchange.key ∧
      (process.map.entity j).objectId.id.toNat = exchange.request.entityId.id.toNat % 256)

/-- The reply waits for each entity that matched the replier, or was handed over to it, and once. A
call of `uxr_handle_shared_memory` during which the map is not used otherwise hands it over. -/
structure Waits (dev : Device σ) : Prop where
  once : ∀ j < exchange.answering.map.entitiesLen,
    (exchange.answering.map.matrix exchange.replier j).matched = true →
    (process.handedSamples exchange.replier j ++
      process.map.queued config exchange.replier j).count exchange.answering.samples = 1
  flushed : process.frames = [] → ∀ actions process',
    (∀ action ∈ actions, @SharedAction.usesMap σ action = false ∧ action.deletes = false) →
    process.run dev config (.handle :: actions) = some process' → process'.frames = [] →
    ∀ j < exchange.answering.map.entitiesLen,
      (exchange.answering.map.matrix exchange.replier j).matched = true →
      (process'.handedSamples exchange.replier j).count exchange.answering.samples = 1

/-! ### What is known of it -/

section

variable {exchange : RequestExchange dev config} {handing : SharedProcess σ}

/-- The request was queued by the requester, with the identifier that it was told. -/
theorem request_queued : ∃ given served,
    exchange.handling.Tracked config given served ∧ given.sample = exchange.asking.samples ∧
    given.requestId = exchange.requestId ∧
    (∀ target ∈ served, target ∈ exchange.asking.receivers config exchange.request.session
      exchange.request.entityId) ∧
    exchange.asking.map.entities <+: exchange.handling.map.entities ∧
    exchange.handling.Numbered config := by
  obtain ⟨sessions, memory, hstarted⟩ := exchange.started
  have hnumbered := hstarted.numbered (SharedProcess.initial_numbered sessions memory)
  obtain ⟨ub, hpublished⟩ := bufferRequestShared_published exchange.asked
  have hwaited := exchange.waited
  rw [hpublished] at hwaited
  obtain ⟨served, hmatch, -, htracked⟩ := hnumbered.prepare_tracked exchange.request.session
    exchange.request.entityId ub (UInt16.ofNat exchange.request.buffer.length) exchange.requestId
  refine ⟨_, served, hwaited.tracked htracked, rfl, rfl, hmatch, ?_,
    hwaited.numbered (hnumbered.prepare _ _ _ _ _)⟩
  have hentities := hwaited.entities
  rw [SharedProcess.prepare_entities] at hentities
  exact hentities

/-- The requester is the entity that was found for the one that asked. -/
theorem requester_entity : exchange.requester < exchange.handling.map.entitiesLen ∧
    (exchange.handling.map.entity exchange.requester).objectId = exchange.request.entityId := by
  obtain ⟨given, served, htracked, hsample, -, hmatch, hentities, -⟩ := exchange.request_queued
  have hhanded := exchange.handed
  rw [← hsample] at hhanded
  obtain ⟨hindex, -, -⟩ := mem_receivers_iff.mp (hmatch _ (htracked.handsOver hhanded).2)
  obtain ⟨hi, hentity⟩ := getEntityIndex_entity hindex
  obtain ⟨hi', hsame⟩ := SharedProcess.entity_of_prefix hentities hi
  exact ⟨hi', hsame ▸ hentity⟩

/-- The replier was given the identity of the requester and of its request. -/
theorem sampleId_eq : exchange.sampleId =
    requestIdentity exchange.key exchange.request.entityId exchange.requestId
      exchange.uninitialized := by
  obtain ⟨given, served, htracked, hsample, hrequest, -⟩ := exchange.request_queued
  have hhanded := exchange.handed
  rw [← hsample] at hhanded
  obtain ⟨hcontent, -⟩ := htracked.handsOver hhanded
  have hcalled := exchange.called
  rw [handOver_dispatch.1] at hcalled
  obtain ⟨-, hidentity⟩ := request_sampleId hcalled exchange.callback
  rw [exchange.requester_entity.2] at hidentity
  rw [hidentity, ← hrequest, ← hcontent]
  rfl

/-- It was a replier that was called. -/
theorem replier_kind :
    (exchange.handling.map.entity exchange.replier).objectId.type = replierId := by
  have hcalled := exchange.called
  rw [handOver_dispatch.1] at hcalled
  exact (request_sampleId hcalled exchange.callback).1

/-- The reply was queued by the replier, in the buffer behind the request. -/
theorem reply_queued (hafter : exchange.replied.Follows dev config handing) : ∃ given served,
    handing.Tracked config given served ∧ given.sample = exchange.answering.samples ∧
    given.dataSize = UInt16.ofNat (24 + exchange.reply.buffer.length) ∧
    (∃ requestId client, exchange.reply.start (sampleIdentitySize + exchange.reply.buffer.length) =
      some (requestId, client, given.data)) ∧
    (∀ target ∈ served, target ∈ exchange.answering.receivers config exchange.reply.session
      exchange.reply.entityId) ∧
    (exchange.answering.enoughItems config exchange.reply.session exchange.reply.entityId = true →
      served = exchange.answering.receivers config exchange.reply.session
        exchange.reply.entityId) ∧
    exchange.answering.map.entities <+: handing.map.entities ∧
    exchange.handling.map.entities <+: exchange.answering.map.entities := by
  obtain ⟨-, -, -, -, -, -, -, hhandling⟩ := exchange.request_queued
  have hhanded : exchange.handling.Follows dev config _ :=
    exchange.handed.follows exchange.uninitialized
  have hnumbered := exchange.went.numbered (hhanded.numbered hhandling)
  obtain ⟨requestId, client, ub, hstart, hpublished⟩ :=
    bufferReplyShared_published exchange.answered
  rw [replied, hpublished] at hafter
  obtain ⟨served, hmatch, hall, htracked⟩ := hnumbered.prepare_tracked exchange.reply.session
    exchange.reply.entityId ub
    (UInt16.ofNat (sampleIdentitySize + exchange.reply.buffer.length)) requestId
  have hentities := hafter.entities
  rw [SharedProcess.prepare_entities] at hentities
  refine ⟨_, served, hafter.tracked htracked, rfl, rfl, ⟨requestId, client, hstart⟩, hmatch, hall,
    hentities, ?_⟩
  exact (SharedProcess.entities_handOver dev).symm ▸ exchange.went.entities

/-- The requester stays where it is. -/
theorem requester_stays (hentities : exchange.handling.map.entities <+: handing.map.entities) :
    (handing.map.entity exchange.requester).objectId = exchange.request.entityId := by
  obtain ⟨hi, hentity⟩ := exchange.requester_entity
  rw [(SharedProcess.entity_of_prefix hentities hi).2, hentity]

/-- Which requesters take the reply. -/
theorem repliesTo_sampleId {key : Vector UInt8 4} {objectId : ObjectId}
    (hkind : objectId.type = requesterId) :
    repliesTo exchange.sampleId key objectId = true ↔
      key = exchange.key ∧ objectId.id.toNat = exchange.request.entityId.id.toNat % 256 := by
  rw [exchange.sampleId_eq, repliesTo_iff, hkind, exchange.kind]
  simp

/-- What a requester does with the reply: it is called if its session has a callback and the reply
is for it. -/
theorem handOver_reply [LawfulMicroCdr] (hdev : dev.Continues)
    (hafter : exchange.replied.Follows dev config handing) (uninitialized : SampleIdentity)
    {i j a : Nat} {frames : List HandleFrame}
    (hhands : handing.HandsOver i j a frames exchange.answering.samples)
    (hkept : HoldsReply dev handing.memory (handing.map.memPool a).data exchange.sampleId
      exchange.reply.buffer)
    (hkind : (handing.map.entity j).objectId.type = requesterId) :
    let session := handing.sessions (handing.map.entity j).session
    let objectId := (handing.map.entity j).objectId
    if session.onReply = true ∧ repliesTo exchange.sampleId session.key objectId = true then
      ∃ ub s' ub', (handing.handOver dev uninitialized i j a frames).handed.getLast?.bind
          Handing.call = some
            { callback := .onReply exchange.requestId, session := (handing.map.entity j).session,
              objectId, ub, length := UInt16.ofNat exchange.reply.buffer.length,
              args := session.onTopicArgs } ∧
        Gets dev exchange.reply.buffer.length
          (handing.handOver dev uninitialized i j a frames).memory ub exchange.reply.buffer s' ub'
    else (handing.handOver dev uninitialized i j a frames).handed.getLast?.bind Handing.call =
      none := by
  intro session objectId
  obtain ⟨given, served, htracked, hsample, hsize, ⟨requestId, client, hstart⟩, -⟩ :=
    exchange.reply_queued hafter
  rw [← hsample] at hhands
  obtain ⟨hcontent, -⟩ := htracked.handsOver hhands
  have hdata : (handing.map.memPool a).data = given.data := congrArg QueuedSample.data hcontent
  have hdataSize : (handing.map.memPool a).dataSize =
      UInt16.ofNat (24 + exchange.reply.buffer.length) :=
    (congrArg QueuedSample.dataSize hcontent).trans hsize
  obtain ⟨granted, box, hstream⟩ := exchange.stream
  obtain ⟨hwritable, haligned⟩ := WriteCall.start_writable hstream hstart
  have hwell : exchange.sampleId.WellSized := by
    rw [exchange.sampleId_eq]
    exact requestIdentity_wellSized _ _ _ exchange.wellSized
  have hlow : UInt16.ofNat exchange.sampleId.low = exchange.requestId := by
    rw [exchange.sampleId_eq]
    exact UInt16.ofNat_toNat
  obtain ⟨hcall, hmemory, -⟩ :=
    @handOver_dispatch _ σ dev handing uninitialized i j a frames
  rw [hcall, hmemory, dispatch_requester hkind]
  by_cases hinstalled : session.onReply = true
  · obtain ⟨s₁, ub₁, s', ub', hget, hdispatch, hs⟩ := dispatchReply_spec hdev
      (handing.map.entity j).session objectId hwell uninitialized
      (hdata ▸ hwritable.endianness) (hdata ▸ haligned) hkept hdataSize hinstalled
    rw [hdispatch, hs, hlow]
    by_cases htakes : repliesTo exchange.sampleId session.key objectId = true
    · rw [if_pos ⟨hinstalled, htakes⟩, if_pos htakes]
      exact ⟨ub₁, s', ub', rfl, hget⟩
    · rw [if_neg fun h => htakes h.2, if_neg htakes]
  · rw [if_neg fun h => hinstalled h.1, dispatchReply, if_neg hinstalled]

/-- The requester that asked is called with the reply. -/
theorem delivers_iff [LawfulMicroCdr] (hdev : dev.Continues)
    (hafter : exchange.replied.Follows dev config handing) (uninitialized : SampleIdentity)
    {i a : Nat} {frames : List HandleFrame}
    (hhands : handing.HandsOver i exchange.requester a frames exchange.answering.samples)
    (hkept : HoldsReply dev handing.memory (handing.map.memPool a).data exchange.sampleId
      exchange.reply.buffer) :
    let session := handing.sessions (handing.map.entity exchange.requester).session
    exchange.Delivers handing dev uninitialized i exchange.requester a frames ↔
      session.onReply = true ∧ session.key = exchange.key ∧
        exchange.request.entityId.id.toNat < 256 ∧ exchange.reply.buffer.length < 65536 := by
  intro session
  obtain ⟨given, served, -, -, -, -, -, -, hbefore, hbetween⟩ := exchange.reply_queued hafter
  have hobject := exchange.requester_stays (hbetween.trans hbefore)
  have hkind : (handing.map.entity exchange.requester).objectId.type = requesterId := by
    rw [hobject, exchange.kind]
  have hreply := exchange.handOver_reply hdev hafter uninitialized hhands hkept hkind
  have htakes := @repliesTo_sampleId _ σ dev config exchange session.key _ hkind
  rw [hobject] at htakes
  dsimp only at hreply
  rw [hobject] at hreply
  constructor
  · rintro ⟨call, s', ub', hcall, -, -, -, hlength, -⟩
    split at hreply
    · next hcalled =>
      obtain ⟨ub, s₁, ub₁, hcall', -⟩ := hreply
      obtain ⟨hkey, hid⟩ := htakes.mp hcalled.2
      rw [hcall] at hcall'
      cases hcall'
      refine ⟨hcalled.1, hkey, by omega, ?_⟩
      rw [← hlength]
      exact UInt16.toNat_lt _
    · rw [hcall] at hreply
      cases hreply
  · rintro ⟨hinstalled, hkey, hid, hlength⟩
    rw [if_pos ⟨hinstalled, htakes.mpr ⟨hkey, (Nat.mod_eq_of_lt hid).symm⟩⟩] at hreply
    obtain ⟨ub, s', ub', hcall, hget⟩ := hreply
    exact ⟨_, s', ub', hcall, rfl, rfl, rfl, UInt16.toNat_ofNat_of_lt' hlength, hget⟩

/-- The reply waits for the entities that matched, until it is handed over. -/
theorem waits (hafter : exchange.replied.Follows dev config handing)
    (henough : exchange.answering.enoughItems config exchange.reply.session
      exchange.reply.entityId = true) : exchange.Waits handing dev := by
  obtain ⟨given, served, htracked, hsample, -, -, -, hall, hentities, hbetween⟩ :=
    exchange.reply_queued hafter
  have hserved (j : Nat) (hj : j < exchange.answering.map.entitiesLen)
      (hmatched : (exchange.answering.map.matrix exchange.replier j).matched = true) :
      (exchange.replier, j) ∈ served := by
    rw [hall henough]
    exact mem_receivers_iff.mpr ⟨exchange.answers, hj, hmatched⟩
  refine ⟨fun j hj hmatched => ?_, fun hframes actions process' hquiet hrun hframes' j hj
    hmatched => ?_⟩
  · rw [← hsample, htracked.once, if_pos (hserved j hj hmatched)]
  · have hfollows : handing.Follows dev config process' := by
      refine ⟨.handle :: actions, fun action hmem => ?_, hrun⟩
      rcases List.mem_cons.mp hmem with rfl | hmem
      · rfl
      · exact (hquiet action hmem).2
    have hlater := hentities.trans hfollows.entities
    have hj' := (SharedProcess.entity_of_prefix hlater hj).1
    have hreplier := exchange.handed.receiver
    obtain ⟨hi, hsame⟩ := SharedProcess.entity_of_prefix (hbetween.trans hlater) hreplier
    have hkind : SharedProcess.handlesKind
        (process'.map.entity exchange.replier).objectId.type = true := by
      rw [hsame, exchange.replier_kind]
      rfl
    rw [← hsample]
    exact htracked.flushed hframes hquiet hrun hframes' (hserved j hj hmatched) hkind hi hj'

end

end RequestExchange

end

/-- A reply waits for the entities that matched the replier, if there were free items for it, and is
handed over to each of them. Where its bytes are still in the buffer then, it is delivered to the
requester that asked if and only if its session has a callback and the key that it had, its
identifier is less than 256, and the length of the reply has sixteen bits; another requester is not
called if and only if it has no callback, or not that key, or not the low byte of that
identifier. -/
theorem routes_reply_iff [MicroCdr] [LawfulMicroCdr] {σ : Type} {dev : Device σ}
    (hdev : dev.Continues) {config : SharedMemoryConfig} (exchange : RequestExchange dev config)
    {handing : SharedProcess σ} (hafter : exchange.replied.Follows dev config handing) :
    (exchange.answering.enoughItems config exchange.reply.session exchange.reply.entityId = true →
      exchange.Waits handing dev) ∧
    ∀ uninitialized i j a frames, handing.HandsOver i j a frames exchange.answering.samples →
      HoldsReply dev handing.memory (handing.map.memPool a).data exchange.sampleId
        exchange.reply.buffer →
      (exchange.RoutesReply handing dev uninitialized i j a frames ↔
        exchange.Routable handing j) := by
  refine ⟨exchange.waits hafter, fun uninitialized i j a frames hhands hkept => ?_⟩
  rw [RequestExchange.RoutesReply, RequestExchange.Routable]
  by_cases hj : j = exchange.requester
  · subst hj
    rw [if_pos rfl, if_pos rfl]
    exact exchange.delivers_iff hdev hafter uninitialized hhands hkept
  · rw [if_neg hj, if_neg hj]
    by_cases hkind : (handing.map.entity j).objectId.type = requesterId
    · have hreply := exchange.handOver_reply hdev hafter uninitialized hhands hkept hkind
      have htakes := @RequestExchange.repliesTo_sampleId _ σ dev config exchange
        (handing.sessions (handing.map.entity j).session).key _ hkind
      dsimp only at hreply
      constructor
      · rintro hnone ⟨-, hinstalled, hsame⟩
        rw [if_pos ⟨hinstalled, htakes.mpr hsame⟩] at hreply
        obtain ⟨ub, s', ub', hcall, -⟩ := hreply
        rw [hnone hkind] at hcall
        cases hcall
      · intro hnot _
        rw [if_neg fun htaken => hnot ⟨hkind, htaken.1, htakes.mp htaken.2⟩] at hreply
        exact hreply
    · exact ⟨fun _ hroutable => hkind hroutable.1, fun _ hkind' => absurd hkind' hkind⟩

/-- A best-effort stream. -/
def replyStreamId : StreamId := streamId 0 .bestEffortStream .outputStream

/-- The memory of that stream. -/
def replyDevice : Device StreamStorage := @streamDevice referenceMicroCdr replyStreamId

/-- A call in a session with that stream. -/
def replyCall (entityId : ObjectId) : WriteCall where
  client := topicSession
  session := 0
  streamId := replyStreamId
  entityId
  buffer := [1, 2, 3, 4]

theorem replyCall_holding (entityId : ObjectId) :
    Holding (replyCall entityId).streamId
      { streams := (replyCall entityId).client.streams, granted := [] } Outbox.empty :=
  have _ : @LawfulMicroCdr referenceMicroCdr := referenceMicroCdr_lawful
  (CreatedStream.bestEffort StreamStorage.zeroed (fun _ => 0) 64 4 (.inl rfl) (by decide)
    (by decide)).holding

/-- The state behind some actions. -/
def repliesAfter (process : SharedProcess StreamStorage)
    (actions : List (SharedAction StreamStorage)) : SharedProcess StreamStorage :=
  (@SharedProcess.run StreamStorage referenceMicroCdr replyDevice tenItems process actions).getD
    process

/-- The names of a service. -/
def namedService : ServiceBinary where
  serviceName := chars "S"
  requestType := chars "Q"
  replyType := chars "R"
  requestTopicName := []
  replyTopicName := []

/-- A requester with some identifier, a replier, and a requester with the identifier 1. -/
def threeEntities (id : UInt16) : SharedProcess StreamStorage :=
  repliesAfter (.initial (fun _ => listeningSession) topicSession.streams)
    [ .addBin 0 ⟨id, requesterId⟩ (.requester namedService),
      .addBin 0 ⟨1, replierId⟩ (.replier namedService),
      .addBin 0 ⟨1, requesterId⟩ (.requester namedService) ]

/-- The first requester asks, and `uxr_handle_shared_memory` comes to its request. -/
def requestHandled (id : UInt16) : SharedProcess StreamStorage :=
  repliesAfter (@bufferRequestShared referenceMicroCdr StreamStorage tenItems (threeEntities id)
    (replyCall ⟨id, requesterId⟩)).2.2
    [.handle, .advance .zero, .advance .zero]

/-- The callback for the request is called. -/
def requestCalled (id : UInt16) : SharedProcess StreamStorage :=
  @SharedProcess.handOver StreamStorage referenceMicroCdr replyDevice (requestHandled id) .zero 0 1
    9 []

/-- The identity that comes with the request. -/
def askedIdentity (id : UInt16) : SampleIdentity :=
  requestIdentity listeningSession.key ⟨id, requesterId⟩ 10 .zero

/-- The replier answers in the callback. -/
def answeredCall (id : UInt16) : UInt16 × Session × SharedProcess StreamStorage :=
  @bufferReplyShared referenceMicroCdr StreamStorage tenItems (requestCalled id)
    (replyCall ⟨1, replierId⟩) (askedIdentity id)

/-- The callback returns, and `uxr_handle_shared_memory` comes to the reply. -/
def replyHandled (id : UInt16) : SharedProcess StreamStorage :=
  repliesAfter (answeredCall id).2.2
    [ .proceed (fun _ => listeningSession) (answeredCall id).2.1.streams, .callbackReturns,
      .advance .zero, .advance .zero, .advance .zero, .advance .zero ]

theorem follows_repliesAfter {process : SharedProcess StreamStorage}
    {actions : List (SharedAction StreamStorage)}
    (hkeeps : ∀ action ∈ actions, action.deletes = false)
    (hruns : (@SharedProcess.run StreamStorage referenceMicroCdr replyDevice tenItems process
      actions).isSome = true) :
    @SharedProcess.Follows StreamStorage referenceMicroCdr replyDevice tenItems process
      (repliesAfter process actions) := by
  refine ⟨actions, hkeeps, ?_⟩
  obtain ⟨process', hrun⟩ := Option.isSome_iff_exists.mp hruns
  rw [repliesAfter, hrun]
  rfl

/-- The requester has a small identifier, or one that is greater than a byte. -/
def askedBy (id : UInt16) (hid : id = 2 ∨ id = 257) :
    @RequestExchange referenceMicroCdr StreamStorage replyDevice tenItems :=
  let _ : MicroCdr := referenceMicroCdr
  { asking := threeEntities id
    started := by
      refine ⟨fun _ => listeningSession, topicSession.streams, ?_⟩
      exact follows_repliesAfter (by simp [SharedAction.deletes])
        (by rcases hid with rfl | rfl <;> decide +kernel)
    request := replyCall ⟨id, requesterId⟩
    kind := rfl
    asked := by rcases hid with rfl | rfl <;> decide +kernel
    handling := requestHandled id
    waited := follows_repliesAfter (by simp [SharedAction.deletes])
      (by rcases hid with rfl | rfl <;> decide +kernel)
    requester := 0
    replier := 1
    item := 9
    frames := []
    handed := by
      rcases hid with rfl | rfl <;>
        exact ⟨by decide +kernel, by decide +kernel, by decide +kernel, by decide +kernel⟩
    uninitialized := .zero
    wellSized := ⟨rfl, rfl, by decide, by decide, by decide⟩
    call :=
      { callback := .onRequest (askedIdentity id), session := 0, objectId := ⟨1, replierId⟩,
        ub := ((requestHandled id).map.memPool 9).data, length := 4, args := 1 }
    called := by rcases hid with rfl | rfl <;> decide +kernel
    sampleId := askedIdentity id
    callback := rfl
    answering := requestCalled id
    went := ⟨[], nofun, rfl⟩
    reply := replyCall ⟨1, replierId⟩
    answers := by rcases hid with rfl | rfl <;> decide +kernel
    stream := ⟨[], _, replyCall_holding _⟩
    answered := by rcases hid with rfl | rfl <;> decide +kernel }

section

variable (id : UInt16) (hid : id = 2 ∨ id = 257)

theorem replied_askedBy :
    @RequestExchange.replied referenceMicroCdr StreamStorage replyDevice tenItems (askedBy id hid) =
      (answeredCall id).2.2 := by
  let _ : MicroCdr := referenceMicroCdr
  have hanswering : (askedBy id hid).answering = requestCalled id := rfl
  have hreply : (askedBy id hid).reply = replyCall ⟨1, replierId⟩ := rfl
  have hsampleId : (askedBy id hid).sampleId = askedIdentity id := rfl
  show (bufferReplyShared tenItems (askedBy id hid).answering (askedBy id hid).reply
    (askedBy id hid).sampleId).2.2 = _
  rw [hanswering, hreply, hsampleId, answeredCall]

theorem askedBy_follows : @SharedProcess.Follows StreamStorage referenceMicroCdr replyDevice
    tenItems (@RequestExchange.replied referenceMicroCdr StreamStorage replyDevice tenItems
      (askedBy id hid)) (replyHandled id) := by
  rw [replied_askedBy, replyHandled]
  exact follows_repliesAfter (by simp [SharedAction.deletes])
    (by rcases hid with rfl | rfl <;> decide +kernel)

include hid in
theorem replyHandled_handsOver :
    (replyHandled id).HandsOver 1 0 8 [] (requestCalled id).samples := by
  rcases hid with rfl | rfl <;>
    exact ⟨by decide +kernel, by decide +kernel, by decide +kernel, by decide +kernel⟩

include hid in
/-- The application did not change the buffer of the stream. -/
theorem replyHandled_holds : @HoldsReply referenceMicroCdr StreamStorage replyDevice
    (replyHandled id).memory ((replyHandled id).map.memPool 8).data (askedIdentity id)
    [1, 2, 3, 4] := by
  have hbuffer : ((replyHandled id).map.memPool 8).data.error = false ∧
      ((replyHandled id).map.memPool 8).data.iterator + 28 ≤
        ((replyHandled id).map.memPool 8).data.final := by
    rcases hid with rfl | rfl <;> decide +kernel
  have hread : read (replyDevice.load (replyHandled id).memory)
      ((replyHandled id).map.memPool 8).data.iterator 28 =
        encodeFields (@machineEndianness referenceMicroCdr) (askedIdentity id).fields ++
          [1, 2, 3, 4] := by
    rcases hid with rfl | rfl <;> decide +kernel
  have hget := @gets_room StreamStorage replyDevice 28 (replyHandled id).memory _ hbuffer.1
    hbuffer.2
  rw [hread] at hget
  exact ⟨_, _, hget⟩

end

/-- The reply to a small identifier goes to its requester. -/
theorem routes_reply_iff_small :
    @RequestExchange.RoutesReply referenceMicroCdr StreamStorage replyDevice tenItems
      (askedBy 2 (.inl rfl)) (replyHandled 2) replyDevice .zero 1 0 8 [] := by
  let _ : MicroCdr := referenceMicroCdr
  have _ : LawfulMicroCdr := referenceMicroCdr_lawful
  refine ((routes_reply_iff (streamDevice_continues replyStreamId) (askedBy 2 (.inl rfl))
    (askedBy_follows 2 (.inl rfl))).2 .zero 1 0 8 [] (replyHandled_handsOver 2 (.inl rfl))
    (replyHandled_holds 2 (.inl rfl))).mpr ?_
  unfold RequestExchange.Routable
  exact ⟨by decide +kernel, by decide +kernel, by decide, by decide⟩

/-- The reply to a requester with the identifier 257 is not delivered to it. -/
theorem reply_to_257_not_routed :
    ¬ ∀ id hid, @RequestExchange.RoutesReply referenceMicroCdr StreamStorage replyDevice tenItems
      (askedBy id hid) (replyHandled id) replyDevice .zero 1 0 8 [] := by
  let _ : MicroCdr := referenceMicroCdr
  have _ : LawfulMicroCdr := referenceMicroCdr_lawful
  intro hall
  have hroutes := hall 257 (.inr rfl)
  have hroutable := ((askedBy 257 (.inr rfl)).delivers_iff (streamDevice_continues replyStreamId)
    (askedBy_follows 257 (.inr rfl)) .zero (replyHandled_handsOver 257 (.inr rfl))
    (replyHandled_holds 257 (.inr rfl))).mp hroutes
  exact absurd hroutable.2.2.1 (by decide)

end XrceClient
