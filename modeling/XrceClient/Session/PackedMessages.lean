import XrceClient.Session.PackedStreams

/-!
# Packed messages of a session

Submessages are buffered into an output stream of a session, and the messages that the stream
yields are read again.

- `streamDevice`: the memory of an output stream, as the user of a buffer writes to it.
- `bufferSubmessage`: the call that makes room for a submessage and puts its header there.
- `PackingStep`, `PackingRun`: what is done with one stream, and the record of it.
- `Accepts`: the record is that of an outbox.
- `Holding`: the stream holds what the outbox has, and the granted regions have nothing in common.
-/

namespace XrceClient

open ByteMemory OutputReliableStream

section

variable [MicroCdr]

/-! ## The memory of a stream -/

/-- The memory of an output stream, with the callback of a reliable one. -/
def streamDevice (streamId : StreamId) : Device StreamStorage where
  load streams a :=
    match streamId.type with
    | .bestEffortStream => (streams.outputBestEffort streamId.index).buffer a
    | .reliableStream => (streams.outputReliable streamId.index).base.buffer a
    | _ => 0
  store streams a v := writeStream streams streamId fun memory => write memory a [v]
  onFull streams ub :=
    match streamId.type with
    | .reliableStream =>
      let (error, stream, ub) := outputDevice.onFull (streams.outputReliable streamId.index) ub
      (error, streams.setOutputReliable streamId.index stream, ub)
    | _ => (true, streams, ub)

/-- `uxr_prepare_stream_to_write_submessage` (session.c:1203–1238), with the header. -/
def bufferSubmessage (streams : StreamStorage) (streamId : StreamId) (payloadSize : Nat)
    (submessageId mode : UInt8) : Option (StreamStorage × UcdrBuffer) :=
  (prepareStreamToWriteSubmessage streams streamId payloadSize).map fun (streams, ub) =>
    (bufferSubmessageHeader (streamDevice streamId) streams ub submessageId
      (UInt16.ofNat payloadSize) mode).2

/-- The addresses of a submessage that room was made for: its header, its payload and the bytes up
to the next multiple of four. -/
def grantedRegion (streams : StreamStorage) (streamId : StreamId) (payloadSize : Nat) : Set Nat :=
  { a | ∃ granted, prepareStreamToWriteSubmessage streams streamId payloadSize = some granted ∧
    Reaches (streamDevice streamId) (submessageSize payloadSize) granted.1 granted.2 a }

/-! ## What is done with a stream -/

/-- What is seen of a stream: submessages that were buffered, and messages as they are read. -/
inductive PackingEvent
  | buffered (id flags : UInt8) (payload : List UInt8)
  | yielded (parsed : Option (List (SubmessageHeader × List UInt8) × Nat))

/-- The streams, and the regions that were granted since addresses became free the last time. -/
structure PackingState where
  streams : StreamStorage
  granted : List (Set Nat)

/-- One call: room for a submessage, whose payload is written then; a message that goes out; an
acknowledgement. -/
inductive PackingStep (streamId : StreamId) :
    PackingState → List PackingEvent → PackingState → Prop
  | write {st : PackingState} {streams streams' : StreamStorage} {ub ub' : UcdrBuffer}
      (id mode : UInt8) (payload : List UInt8)
      (hgranted : bufferSubmessage st.streams streamId payload.length id mode = some (streams, ub))
      (hwritten : Puts (streamDevice streamId) payload streams ub streams' ub') :
      PackingStep streamId st [.buffered id mode payload]
        { streams := streams'
          granted := grantedRegion st.streams streamId payload.length :: st.granted }
  | refused {st : PackingState} (id mode : UInt8) (payloadSize : Nat)
      (hrefused : bufferSubmessage st.streams streamId payloadSize id mode = none) :
      PackingStep streamId st [] st
  | sendBestEffort {st : PackingState} {stream stream' : OutputBestEffortStream} {next : NextBuffer}
      (htype : streamId.type = .bestEffortStream)
      (hstream : st.streams.outputBestEffort streamId.index = stream)
      (hsent : prepareBestEffortBufferToSend stream = (true, stream', next)) :
      PackingStep streamId st
        [.yielded (parseMessage stream'.buffer next.buffer next.length stream'.offset.toNat)]
        { streams := st.streams.setOutputBestEffort streamId.index stream'
          granted := [] }
  | sendReliable {st : PackingState} {stream stream' : OutputReliableStream} {next : NextBuffer}
      (htype : streamId.type = .reliableStream)
      (hstream : st.streams.outputReliable streamId.index = stream)
      (hsent : prepareNextReliableBufferToSend stream = (true, stream', next)) :
      PackingStep streamId st
        [.yielded (parseMessage stream'.base.buffer next.buffer next.length stream'.offset.toNat)]
        { streams := st.streams.setOutputReliable streamId.index stream'
          granted := st.granted }
  | acknack {st : PackingState} {stream : OutputReliableStream} (bitmap : UInt16)
      (firstUnackedSeqNum : SeqNum) (htype : streamId.type = .reliableStream)
      (hstream : st.streams.outputReliable streamId.index = stream)
      (hrange : AcknackInRange stream firstUnackedSeqNum) :
      PackingStep streamId st []
        { streams := st.streams.setOutputReliable streamId.index
            (processAcknack stream bitmap firstUnackedSeqNum)
          granted := [] }

/-- Calls, one after the other, and what is seen of them. -/
inductive PackingRun (streamId : StreamId) :
    PackingState → List PackingEvent → PackingState → Prop
  | refl (st : PackingState) : PackingRun streamId st [] st
  | step {st st₁ st' : PackingState} {events rest : List PackingEvent}
      (hstep : PackingStep streamId st events st₁) (hrest : PackingRun streamId st₁ rest st') :
      PackingRun streamId st (events ++ rest) st'

/-- A stream that was just created, and its identifier. -/
inductive CreatedStream : StreamStorage → StreamId → Prop
  | bestEffort (storage : StreamStorage) (buffer : Memory) (size : Nat) (headerOffset : UInt8)
      (hoffset : headerOffset = 4 ∨ headerOffset = 8) (hroom : headerOffset.toNat + 4 < size)
      (hsize : size < 65536) :
      CreatedStream (addOutputBestEffortBuffer storage buffer size headerOffset).2
        (addOutputBestEffortBuffer storage buffer size headerOffset).1
  | reliable (storage : StreamStorage) (buffer : Memory) (size : Nat) (history : UInt16)
      (headerOffset : UInt8) (hhistory : ∃ k, history.toNat = 2 ^ k)
      (hoffset : headerOffset = 4 ∨ headerOffset = 8)
      (hroom : headerOffset.toNat + 4 < size / history.toNat - 4)
      (hcapacity : size / history.toNat - 4 < 65536) :
      CreatedStream (addOutputReliableBuffer storage buffer size history headerOffset).2
        (addOutputReliableBuffer storage buffer size history headerOffset).1

/-! ## What an outbox lets one see -/

/-- What is seen of a stream is what an outbox does: submessages go into it in pieces, and what is
read of a message that it yields are the submessages that went into it, in order, with fewer than
four bytes left over. -/
inductive Accepts : Outbox PackedSubmessage → List PackingEvent → Outbox PackedSubmessage → Prop
  | nil (box : Outbox PackedSubmessage) : Accepts box [] box
  | buffered {box box₁ box' : Outbox PackedSubmessage} {events : List PackingEvent}
      {id flags : UInt8} {payload : List UInt8} (hbox : PutsPieces id flags payload box box₁)
      (hrest : Accepts box₁ events box') :
      Accepts box (.buffered id flags payload :: events) box'
  | yielded {box box₁ box' : Outbox PackedSubmessage} {events : List PackingEvent}
      {message : List PackedSubmessage} {left : Nat} (hbox : box.leave = some (message, box₁))
      (hleft : left < 4) (hrest : Accepts box₁ events box') :
      Accepts box (.yielded (some (message.map PackedSubmessage.parsed, left)) :: events) box'

theorem Accepts.append {box box₁ box' : Outbox PackedSubmessage} {events rest : List PackingEvent}
    (h : Accepts box events box₁) (hrest : Accepts box₁ rest box') :
    Accepts box (events ++ rest) box' := by
  induction h with
  | nil => exact hrest
  | buffered hbox _ ih => exact .buffered hbox (ih hrest)
  | yielded hbox hleft _ ih => exact .yielded hbox hleft (ih hrest)

/-! ## The device of one stream -/

theorem streamDevice_bestEffort {streamId : StreamId} (htype : streamId.type = .bestEffortStream) :
    (streamDevice streamId).Projects Device.plain
      (fun streams => (streams.outputBestEffort streamId.index).buffer) where
  store streams a v := by
    show ((writeStream streams streamId _).outputBestEffort streamId.index).buffer = _
    rw [writeStream, htype]
    dsimp only
    rw [Function.update_self]
    rfl
  onFull streams ub := by
    rw [streamDevice, htype]
    rfl

theorem streamDevice_reliable {streamId : StreamId} (htype : streamId.type = .reliableStream) :
    (streamDevice streamId).Projects outputDevice
      (fun streams => streams.outputReliable streamId.index) where
  store streams a v := by
    show (writeStream _ _ _).outputReliable _ = _
    rw [writeStream, htype]
    exact StreamStorage.setOutputReliable_self _ _ _
  onFull streams ub := by
    rw [streamDevice, htype]
    dsimp only
    rw [StreamStorage.setOutputReliable_self]

end

section

variable [MicroCdr] [LawfulMicroCdr]

/-- The callback of a reliable stream looks at the start of a buffer and at its offset. -/
theorem outputDevice_regular : outputDevice.Regular where
  marked {stream stream₁ ub ub₁} hcall e last := by
    rw [outputDevice] at hcall ⊢
    dsimp only at hcall ⊢
    split at hcall
    · next hcallback =>
      rw [if_pos (show (ub.marked e last).onFullBuffer = _ from hcallback)]
      exact hcall
    · cases hcall
  offset {stream stream₁ ub ub₁} hcall := by
    rw [outputDevice] at hcall
    dsimp only at hcall
    split at hcall
    · rw [onFullOutputBuffer, ucdrInitBufferOrigin, LawfulMicroCdr.init] at hcall
      cases hcall
      rfl
    · cases hcall

omit [LawfulMicroCdr] in
/-- Room is made in a reliable stream, by its callback. -/
theorem streamDevice_onFull_iff {streamId : StreamId} {streams streams₁ : StreamStorage}
    {ub ub₁ : UcdrBuffer} :
    (streamDevice streamId).onFull streams ub = (false, streams₁, ub₁) ↔
      streamId.type = .reliableStream ∧ ∃ stream₁,
        outputDevice.onFull (streams.outputReliable streamId.index) ub = (false, stream₁, ub₁) ∧
          streams.setOutputReliable streamId.index stream₁ = streams₁ := by
  obtain ⟨⟨error, stream₂, ub₂⟩, hcalled⟩ : ∃ r, r =
      outputDevice.onFull (streams.outputReliable streamId.index) ub := ⟨_, rfl⟩
  cases htype : streamId.type with
  | reliableStream =>
    have honFull : (streamDevice streamId).onFull streams ub =
        (error, streams.setOutputReliable streamId.index stream₂, ub₂) := by
      simp only [streamDevice, htype, ← hcalled]
    rw [honFull, ← hcalled]
    simp only [Prod.mk.injEq, true_and]
    constructor
    · rintro ⟨rfl, rfl, rfl⟩
      exact ⟨stream₂, ⟨rfl, rfl, rfl⟩, rfl⟩
    · rintro ⟨stream₁, ⟨rfl, rfl, rfl⟩, rfl⟩
      exact ⟨rfl, rfl, rfl⟩
  | bestEffortStream => simp [streamDevice, htype]
  | noneStream => simp [streamDevice, htype]

theorem streamDevice_regular (streamId : StreamId) : (streamDevice streamId).Regular where
  marked hcall e last := by
    obtain ⟨htype, stream₁, hcalled, hstreams⟩ := streamDevice_onFull_iff.mp hcall
    exact streamDevice_onFull_iff.mpr
      ⟨htype, stream₁, outputDevice_regular.marked hcalled e last, hstreams⟩
  offset hcall := by
    obtain ⟨htype, stream₁, hcalled, hstreams⟩ := streamDevice_onFull_iff.mp hcall
    exact outputDevice_regular.offset hcalled

/-! ## One call -/

/-- The stream holds what the outbox has, and the regions have no address in common. -/
inductive Holding (streamId : StreamId) (st : PackingState) (box : Outbox PackedSubmessage) : Prop
  | bestEffort (htype : streamId.type = .bestEffortStream)
      (hqueued : BestEffortQueued (st.streams.outputBestEffort streamId.index) box)
      (hapart : Apart (freshBytes (st.streams.outputBestEffort streamId.index)) st.granted)
  | reliable (htype : streamId.type = .reliableStream) {H : Nat} (win : OutputWindow H)
      (hqueued : Queued (st.streams.outputReliable streamId.index) win box)
      (hapart : Apart (freshAddresses (st.streams.outputReliable streamId.index) win) st.granted)

variable {streamId : StreamId} {st : PackingState} {box : Outbox PackedSubmessage}
  {streams streams' : StreamStorage} {ub ub' : UcdrBuffer} {id mode : UInt8}
  {payload : List UInt8}

omit [LawfulMicroCdr] in
/-- Room in a best-effort stream. -/
theorem prepareStreamToWriteSubmessage_bestEffort (htype : streamId.type = .bestEffortStream)
    {payloadSize : Nat}
    (h : prepareStreamToWriteSubmessage st.streams streamId payloadSize = some (streams, ub)) :
    prepareBestEffortBufferToWrite (st.streams.outputBestEffort streamId.index)
      (submessageSize payloadSize) = some (streams.outputBestEffort streamId.index, ub) := by
  rw [prepareStreamToWriteSubmessage, htype] at h
  dsimp only at h
  obtain ⟨stream, hstream, h⟩ := Option.bind_eq_some_iff.mp h
  obtain ⟨⟨stream₁, ub₁⟩, hprepared, h⟩ := Option.bind_eq_some_iff.mp h
  obtain ⟨rfl, rfl⟩ := Prod.mk.inj (Option.some.inj h)
  rw [getOutputBestEffortStream] at hstream
  split at hstream
  · obtain rfl := Option.some.inj hstream
    dsimp only
    rw [Function.update_self]
    exact hprepared
  · cases hstream

omit [LawfulMicroCdr] in
/-- Room in a reliable stream. -/
theorem prepareStreamToWriteSubmessage_reliable (htype : streamId.type = .reliableStream)
    {payloadSize : Nat}
    (h : prepareStreamToWriteSubmessage st.streams streamId payloadSize = some (streams, ub)) :
    prepareReliableBufferToWrite (st.streams.outputReliable streamId.index)
        (submessageSize payloadSize) (ucdrInitBuffer 0 0) =
      (true, streams.outputReliable streamId.index, ub) := by
  rw [prepareStreamToWriteSubmessage, htype] at h
  dsimp only at h
  obtain ⟨stream, hstream, h⟩ := Option.bind_eq_some_iff.mp h
  rw [getOutputReliableStream] at hstream
  split at hstream
  · obtain rfl := Option.some.inj hstream
    split at h
    · next havailable =>
      obtain ⟨rfl, rfl⟩ := Prod.mk.inj (Option.some.inj h)
      rw [StreamStorage.setOutputReliable_self]
      exact Prod.ext havailable (Prod.ext rfl rfl)
    · cases h
  · cases hstream

/-- Room in a reliable stream is that of one slot, or of several. -/
theorem Tracks.accommodates {H : Nat} {stream stream₁ : OutputReliableStream} {win : OutputWindow H}
    (h : Tracks stream win) (id flags : UInt8)
    (hgranted : prepareReliableBufferToWrite stream (submessageSize payload.length) ub =
      (true, stream₁, ub')) :
    ∃ stream' first item items, ∃ win' : OutputWindow H,
      Accommodates stream win id flags payload (stream₁, ub') stream' win' first item items := by
  rcases prepareReliableBufferToWrite_cases h (submessageSize payload.length) ub with
    hrefused | ⟨n, hgrants⟩ | ⟨first, written, hgrants⟩
  · rw [hgranted] at hrefused
    cases hrefused
  · rw [hgranted] at hgrants
    obtain ⟨stream', haccommodates⟩ := accommodates_slot h hgrants
    exact ⟨_, _, _, _, _, haccommodates⟩
  · rw [hgranted] at hgrants
    obtain ⟨stream', item, items, haccommodates⟩ := accommodates_fragments h hgrants
    exact ⟨_, _, _, _, _, haccommodates⟩

omit [LawfulMicroCdr] in
/-- What is written to a best-effort stream changes its buffer only. -/
theorem streamDevice_keeps (htype : streamId.type = .bestEffortStream) {bytes : List UInt8}
    (h : Puts (streamDevice streamId) bytes streams ub streams' ub') :
    streams'.outputBestEffort streamId.index =
      { streams.outputBestEffort streamId.index with
        buffer := (streams'.outputBestEffort streamId.index).buffer } := by
  have hkept : { streams'.outputBestEffort streamId.index with buffer := fun _ => 0 } =
      { streams.outputBestEffort streamId.index with buffer := fun _ => 0 } := by
    refine h.keeps (f := fun streams : StreamStorage =>
      { streams.outputBestEffort streamId.index with buffer := fun _ => 0 }) ?_ ?_
    · intro streams a v
      simp [streamDevice, writeStream, htype]
    · intro streams ub
      simp [streamDevice, htype]
  obtain ⟨stream', hstream'⟩ : ∃ stream', stream' = streams'.outputBestEffort streamId.index :=
    ⟨_, rfl⟩
  rw [← hstream'] at hkept ⊢
  cases stream'
  injection hkept with _ hwriter hsize hoffset hlastSend
  dsimp only at hwriter hsize hoffset hlastSend ⊢
  rw [← hwriter, ← hsize, ← hoffset, ← hlastSend]

/-- Where there is room for a submessage, its header and its payload can be put there, and then the
stream holds them as well. -/
theorem Holding.grant (h : Holding streamId st box) (id flags : UInt8)
    (hgranted : prepareStreamToWriteSubmessage st.streams streamId payload.length =
      some (streams, ub)) :
    ∃ streams' ub' box', Puts (streamDevice streamId)
        (submessageHeaderBytes id (UInt16.ofNat payload.length) flags ++ payload) streams ub
        streams' ub' ∧
      PutsPieces id flags payload box box' ∧ Holding streamId
        { streams := streams'
          granted := grantedRegion st.streams streamId payload.length :: st.granted } box' := by
  have hregion (a : Nat) (ha : a ∈ grantedRegion st.streams streamId payload.length) :
      Reaches (streamDevice streamId) (submessageSize payload.length) streams ub a := by
    obtain ⟨granted, hsame, hreach⟩ := ha
    rw [hgranted] at hsame
    obtain rfl := Option.some.inj hsame
    exact hreach
  cases h with
  | bestEffort htype hqueued hapart =>
    have hprojects := streamDevice_bestEffort htype
    have hprepared := prepareStreamToWriteSubmessage_bestEffort htype hgranted
    obtain ⟨hroom, hstream, -, hiterator, hfinal, -⟩ :=
      prepareBestEffortBufferToWrite_eq hqueued hprepared
    obtain ⟨buffer, ub', box', hputs, hpieces, hqueued'⟩ := hqueued.write hprepared
    obtain ⟨streams', rfl, hlifted⟩ := Puts.lift hprojects hputs
    rw [← streamDevice_keeps htype hlifted] at hqueued'
    refine ⟨streams', ub', box', hlifted, hpieces, .bestEffort htype hqueued' ?_⟩
    have hwriter : (streams'.outputBestEffort streamId.index).writer =
        (st.streams.outputBestEffort streamId.index).writer + submessageSize payload.length := by
      rw [streamDevice_keeps htype hlifted, hstream]
    have hwithin (a : Nat) (ha : a ∈ grantedRegion st.streams streamId payload.length) :
        (st.streams.outputBestEffort streamId.index).writer ≤ a ∧
          a < (streams'.outputBestEffort streamId.index).writer := by
      have hbounds := (hregion a ha).within (by omega)
      omega
    refine hapart.grant (fun a ha => (hwithin a ha).1) (Set.disjoint_left.mpr ?_) fun a ha => ?_
    · intro a ha hfresh
      exact Nat.not_le_of_gt (hwithin a ha).2 hfresh
    · exact Nat.le_trans (by rw [hwriter]; exact Nat.le_add_right _ _) ha
  | reliable htype win hqueued hapart =>
    have hprojects := streamDevice_reliable htype
    have hprepared := prepareStreamToWriteSubmessage_reliable htype hgranted
    obtain ⟨stream', first, item, items, win', haccommodates⟩ :=
      hqueued.tracks.accommodates id flags hprepared
    obtain ⟨box', hpieces, hqueued'⟩ := hqueued.write haccommodates
    obtain ⟨ub', hputs⟩ := haccommodates.puts
    obtain ⟨streams', rfl, hlifted⟩ := Puts.lift hprojects hputs
    refine ⟨streams', ub', box', hlifted, hpieces, .reliable htype win' hqueued' ?_⟩
    exact haccommodates.apart (fun a ha => (hregion a ha).project hprojects) hapart

/-- The buffer that was granted is at a multiple of four. -/
theorem Holding.aligned (h : Holding streamId st box) {payloadSize : Nat}
    (hgranted : prepareStreamToWriteSubmessage st.streams streamId payloadSize =
      some (streams, ub)) : ub.offset % 4 = 0 := by
  cases h with
  | bestEffort htype hqueued hapart =>
    have hprepared := prepareStreamToWriteSubmessage_bestEffort htype hgranted
    obtain ⟨-, -, -, -, -, hoffset⟩ := prepareBestEffortBufferToWrite_eq hqueued hprepared
    rw [hoffset]
    exact hqueued.writer_aligned
  | reliable htype win hqueued hapart =>
    have hprepared := prepareStreamToWriteSubmessage_reliable htype hgranted
    exact (prepareReliableBufferToWrite_aligned hqueued.tracks.formed.offset_aligned hprepared).1

/-- Behind the header of a submessage its payload can be put, in one way, and then the stream holds
the submessage. -/
theorem Holding.write (h : Holding streamId st box)
    (hgranted : bufferSubmessage st.streams streamId payload.length id mode = some (streams, ub)) :
    ∃ streams' ub' box', Puts (streamDevice streamId) payload streams ub streams' ub' ∧
      PutsPieces id mode payload box box' ∧ Holding streamId
        { streams := streams'
          granted := grantedRegion st.streams streamId payload.length :: st.granted } box' := by
  obtain ⟨⟨streams₁, ub₁⟩, hprepared, hheader⟩ := Option.map_eq_some_iff.mp hgranted
  obtain ⟨streams', ub', box', hputs, hpieces, hholding⟩ := h.grant id mode hprepared
  obtain ⟨ub₂, hpayload⟩ :=
    hputs.behind_header (streamDevice_regular streamId) (h.aligned hprepared)
  dsimp only at hheader
  rw [hheader] at hpayload
  exact ⟨streams', ub₂, box', hpayload, hpieces, hholding⟩

end

section

variable [MicroCdr] [StickyMicroCdr] {streamId : StreamId} {st st' : PackingState}
  {box : Outbox PackedSubmessage} {events : List PackingEvent}

/-- One call keeps what is held, and what is seen of it is what the outbox does. -/
theorem Holding.step (h : Holding streamId st box) (hstep : PackingStep streamId st events st') :
    ∃ box', Accepts box events box' ∧ Holding streamId st' box' := by
  cases hstep with
  | write id mode payload hgranted hwritten =>
    obtain ⟨streams₁, ub₁, box', hputs, hpieces, hholding⟩ := h.write hgranted
    obtain ⟨rfl, rfl⟩ := hwritten.deterministic hputs
    exact ⟨box', .buffered hpieces (.nil box'), hholding⟩
  | refused id mode payloadSize hrefused => exact ⟨box, .nil box, h⟩
  | @sendBestEffort stream stream' next htype hstream hsent =>
    cases h with
    | reliable htype' => exact absurd (htype.symm.trans htype') (by decide)
    | bestEffort _ hqueued hapart =>
      rw [hstream] at hqueued
      obtain ⟨message, box', hleave, hle, hpacks, hqueued'⟩ := hqueued.send hsent
      obtain ⟨left, hlt, hparsed⟩ := parseMessage_packs hqueued'.offset_aligned hle hpacks
      refine ⟨box', by rw [hparsed]; exact .yielded hleave hlt (.nil box'), .bestEffort htype ?_
        (.nil _)⟩
      rw [StreamStorage.setOutputBestEffort_self]
      exact hqueued'
  | @sendReliable stream stream' next htype hstream hsent =>
    cases h with
    | bestEffort htype' => exact absurd (htype.symm.trans htype') (by decide)
    | reliable _ win hqueued hapart =>
      rw [hstream] at hqueued hapart
      obtain ⟨message, box', win', hleave, hle, hpacks, hqueued', hfresh⟩ := hqueued.send hsent
      obtain ⟨left, hlt, hparsed⟩ :=
        parseMessage_packs hqueued'.tracks.formed.offset_aligned hle hpacks
      refine ⟨box', by rw [hparsed]; exact .yielded hleave hlt (.nil box'), .reliable htype win' ?_ ?_⟩
      · rw [StreamStorage.setOutputReliable_self]
        exact hqueued'
      · rw [StreamStorage.setOutputReliable_self]
        exact hapart.mono hfresh
  | @acknack stream bitmap firstUnackedSeqNum htype hstream hrange =>
    cases h with
    | bestEffort htype' => exact absurd (htype.symm.trans htype') (by decide)
    | reliable _ win hqueued hapart =>
      rw [hstream] at hqueued
      obtain ⟨win', hqueued'⟩ := hqueued.acknack bitmap hrange
      refine ⟨box, .nil box, .reliable htype win' ?_ (.nil _)⟩
      rw [StreamStorage.setOutputReliable_self]
      exact hqueued'

/-! ## Runs -/

omit [MicroCdr] [StickyMicroCdr] in
/-- A stream that was just created holds an empty outbox. -/
theorem CreatedStream.holding {streams : StreamStorage} (h : CreatedStream streams streamId) :
    Holding streamId { streams, granted := [] } Outbox.empty := by
  cases h with
  | bestEffort storage buffer size headerOffset hoffset hroom hsize =>
    refine .bestEffort rfl ?_ (.nil _)
    have hstream : (addOutputBestEffortBuffer storage buffer size headerOffset).2.outputBestEffort
        (addOutputBestEffortBuffer storage buffer size headerOffset).1.index =
        initOutputBestEffortStream buffer size headerOffset := Function.update_self _ _ _
    have haligned : headerOffset.toNat % 4 = 0 := by
      rcases hoffset with rfl | rfl <;> rfl
    rw [hstream]
    exact
      { offset_aligned := haligned
        writer_aligned := haligned
        offset_le := Nat.le_refl _
        writer_le := by
          show headerOffset.toNat ≤ size
          omega
        size_lt := hsize
        closed := rfl
        current := by
          show Packs (read _ _ (headerOffset.toNat - headerOffset.toNat)) []
          rw [Nat.sub_self]
          exact .nil }
  | reliable storage buffer size history headerOffset hhistory hoffset hroom hcapacity =>
    refine .reliable rfl (OutputWindow.initial history.toNat) ?_ (.nil _)
    have hstream : (addOutputReliableBuffer storage buffer size history headerOffset).2.outputReliable
        (addOutputReliableBuffer storage buffer size history headerOffset).1.index =
        initOutputReliableStream buffer size history headerOffset := Function.update_self _ _ _
    have haligned : headerOffset.toNat % 4 = 0 := by
      rcases hoffset with rfl | rfl <;> rfl
    obtain ⟨htracks, hempty⟩ := tracks_init_empty buffer hhistory haligned hroom hcapacity
    rw [hstream]
    refine ⟨htracks, rfl, fun i message hnone => absurd hnone (by simp [Outbox.empty]), ?_⟩
    show Stored _ _ 65536 []
    rw [Stored, contents_empty (hempty 65536)]
    split
    · exact .nil
    · rfl

/-- A run keeps what is held, and what is seen of it is what an outbox does. -/
theorem Holding.run (h : Holding streamId st box) (hrun : PackingRun streamId st events st') :
    ∃ box', Accepts box events box' ∧ Holding streamId st' box' := by
  induction hrun generalizing box with
  | refl st => exact ⟨box, .nil box, h⟩
  | step hstep _ ih =>
    obtain ⟨box₁, haccepts, h₁⟩ := h.step hstep
    obtain ⟨box', hrest, h'⟩ := ih h₁
    exact ⟨box', haccepts.append hrest, h'⟩

/-- **Packed messages parse back**: whatever is buffered into a stream, and whatever it yields in
between, the regions that were granted have no address in common, each has room for its payload, and
what is read of the messages is what was packed into them, in order. -/
theorem packed_messages_parse_back {streams : StreamStorage}
    (hcreated : CreatedStream streams streamId)
    (hrun : PackingRun streamId { streams, granted := [] } events st) :
    st.granted.Pairwise Disjoint ∧ (∃ box, Accepts Outbox.empty events box) ∧
      ∀ (id mode : UInt8) (payload : List UInt8) (streams₁ : StreamStorage) (ub₁ : UcdrBuffer),
        bufferSubmessage st.streams streamId payload.length id mode = some (streams₁, ub₁) →
          ∃ streams₂ ub₂, Puts (streamDevice streamId) payload streams₁ ub₁ streams₂ ub₂ := by
  obtain ⟨box, haccepts, h⟩ := hcreated.holding.run hrun
  refine ⟨?_, ⟨box, haccepts⟩, ?_⟩
  · cases h with
    | bestEffort htype hqueued hapart => exact hapart.pairwise
    | reliable htype win hqueued hapart => exact hapart.pairwise
  · intro id mode payload streams₁ ub₁ hgranted
    obtain ⟨streams₂, ub₂, -, hputs, -⟩ := h.write hgranted
    exact ⟨streams₂, ub₂, hputs⟩

end

/-- A best-effort stream into which one submessage is buffered, and which yields it. -/
theorem packed_messages_parse_back_bestEffort :
    ∃ parsed box, @Accepts referenceMicroCdr Outbox.empty
      [.buffered 5 0 [1, 2, 3], .yielded parsed] box := by
  let _ : MicroCdr := referenceMicroCdr
  have _ : StickyMicroCdr := referenceMicroCdr_sticky
  obtain ⟨streams, hstreams⟩ : ∃ streams, streams =
      (addOutputBestEffortBuffer StreamStorage.zeroed (fun _ => 0) 64 4).2 := ⟨_, rfl⟩
  have hcreated : CreatedStream streams (streamId 0 .bestEffortStream .outputStream) := by
    rw [hstreams]
    exact .bestEffort StreamStorage.zeroed (fun _ => 0) 64 4 (.inl rfl) (by decide) (by decide)
  obtain ⟨streams₁, ub₁, hprepared, hwriter, hoffset⟩ : ∃ streams₁ ub₁,
      prepareStreamToWriteSubmessage streams (streamId 0 .bestEffortStream .outputStream) 3 =
        some (streams₁, ub₁) ∧
      (streams₁.outputBestEffort 0).writer = 12 ∧ (streams₁.outputBestEffort 0).offset = 4 := by
    rw [hstreams]
    exact ⟨_, _, rfl, rfl, rfl⟩
  have hholding := hcreated.holding
  obtain ⟨streams₂, ub₂, box, hputs, -⟩ := @Holding.grant _ _ _ _ _ _ _ [1, 2, 3] hholding 5 0 hprepared
  have hkept := streamDevice_keeps rfl hputs
  obtain ⟨ub₃, hpayload⟩ := hputs.behind_header (streamDevice_regular _) (hholding.aligned hprepared)
  have hgranted := congrArg (Option.map fun granted : StreamStorage × UcdrBuffer =>
    (bufferSubmessageHeader (streamDevice (streamId 0 .bestEffortStream .outputStream)) granted.1
      granted.2 5 (UInt16.ofNat 3) 0).2) hprepared
  have hcontents : (streams₂.outputBestEffort 0).writer >
      (streams₂.outputBestEffort 0).offset.toNat := by
    rw [show streams₂.outputBestEffort 0 = _ from hkept]
    show (streams₁.outputBestEffort 0).writer > (streams₁.outputBestEffort 0).offset.toNat
    rw [hwriter, hoffset]
    decide
  obtain ⟨stream', next, hsent⟩ : ∃ stream' next,
      prepareBestEffortBufferToSend (streams₂.outputBestEffort 0) = (true, stream', next) :=
    ⟨_, _, if_pos hcontents⟩
  have hwrite : PackingStep (streamId 0 .bestEffortStream .outputStream)
      { streams, granted := [] } _ _ := .write 5 0 [1, 2, 3] hgranted hpayload
  obtain ⟨-, ⟨box, haccepts⟩, -⟩ := packed_messages_parse_back hcreated
    (.step hwrite (.step (.sendBestEffort rfl rfl hsent) (.refl _)))
  exact ⟨_, box, haccepts⟩

end XrceClient
