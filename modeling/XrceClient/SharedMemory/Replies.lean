import XrceClient.Session.ChainReading
import XrceClient.Session.DataReading
import XrceClient.Session.EntityCreation
import XrceClient.SharedMemory.Pool
import XrceClient.Stream.Fragmentation

/-!
# Requests and replies (`shared_memory.c`)

A replier gets the identity of the requester with a request, and puts it in front of its reply. The
reply goes to all requesters that match, and each of them looks whether it is its own.

- `repliesTo_iff`: which requesters take a reply.
- `HoldsReply`: an identity with a reply behind it in a buffer.
- `readSampleIdentity_gets`: the identity in front of a reply is read back, and the reply is behind
  it.
- `request_sampleId`, `dispatchReply_spec`: what a replier and a requester are called with.
-/

namespace XrceClient

open ByteMemory Program

/-! ## Identities -/

/-- The arrays of an identity have the source's lengths, and its numbers the source's widths. -/
structure SampleIdentity.WellSized (sampleId : SampleIdentity) : Prop where
  guidPrefix : sampleId.guidPrefix.length = 12
  entityKey : sampleId.entityKey.length = 3
  entityKind : sampleId.entityKind < 256
  high : sampleId.high < 2 ^ 32
  low : sampleId.low < 2 ^ 32

theorem SampleIdentity.WellSized.types {sampleId : SampleIdentity} (h : sampleId.WellSized) :
    sampleId.fields.map Field.type = sampleIdentityFields := by
  show [FieldType.array sampleId.guidPrefix.length, .array sampleId.entityKey.length, .scalar 1,
    .scalar 4, .scalar 4] = _
  rw [h.guidPrefix, h.entityKey]
  rfl

theorem SampleIdentity.WellSized.fits {sampleId : SampleIdentity} (h : sampleId.WellSized) :
    ∀ field ∈ sampleId.fields, field.Fits := by
  intro field hmem
  simp only [SampleIdentity.fields, List.mem_cons, List.not_mem_nil, or_false] at hmem
  rcases hmem with rfl | rfl | rfl | rfl | rfl
  · trivial
  · trivial
  · exact h.entityKind
  · exact h.high
  · exact h.low

/-- What a request is given is an identity. -/
theorem requestIdentity_wellSized (key : Vector UInt8 4) (objectId : ObjectId) (requestId : UInt16)
    {uninitialized : SampleIdentity} (h : uninitialized.WellSized) :
    (requestIdentity key objectId requestId uninitialized).WellSized where
  guidPrefix := by
    rw [requestIdentity, List.length_append, List.length_drop, h.guidPrefix, Vector.length_toList]
  entityKey := by
    rw [requestIdentity, List.length_append, List.length_drop, h.entityKey]
    rfl
  entityKind := objectId.type.toNat_lt
  high := h.high
  low := Nat.lt_of_lt_of_le requestId.toNat_lt (by decide)

/-- A requester takes the reply if its key is that of the one that asked, its identifier is the low
byte of that one's, and its kind is the same. -/
theorem repliesTo_iff (key key' : Vector UInt8 4) (objectId objectId' : ObjectId)
    (requestId : UInt16) (uninitialized : SampleIdentity) :
    repliesTo (requestIdentity key objectId requestId uninitialized) key' objectId' = true ↔
      key' = key ∧ objectId'.id.toNat = objectId.id.toNat % 256 ∧ objectId'.type = objectId.type := by
  have hprefix : (requestIdentity key objectId requestId uninitialized).guidPrefix.take 4 =
      key.toList := by
    rw [requestIdentity, List.take_append_of_le_length (by rw [Vector.length_toList]),
      List.take_of_length_le (by rw [Vector.length_toList])]
  have hhigh : ((requestIdentity key objectId requestId uninitialized).entityKey.getD 1 0).toNat /
      256 = 0 := Nat.div_eq_of_lt (UInt8.toNat_lt _)
  have hlow : ((requestIdentity key objectId requestId uninitialized).entityKey.getD 0 0).toNat =
      objectId.id.toNat % 256 := UInt16.toNat_toUInt8 objectId.id
  rw [repliesTo, hprefix, hhigh, hlow, Nat.zero_add]
  simp only [Bool.and_eq_true, decide_eq_true_eq, and_assoc]
  refine and_congr ?_ (and_congr Iff.rfl ?_)
  · exact ⟨fun h => (Vector.toList_inj.mp h).symm, fun h => by rw [h]⟩
  · exact ⟨fun h => (UInt8.toNat_inj.mp h).symm, fun h => by rw [h]; rfl⟩

/-! ## The identity in front of a reply -/

section

variable [MicroCdr] {σ : Type} {dev : Device σ}

/-- `SAMPLE_IDENTITY_SIZE` (write_access.c). -/
def sampleIdentitySize : Nat := 24

/-- The identity and the reply can be taken out of a buffer. -/
def HoldsReply (dev : Device σ) (s : σ) (ub : UcdrBuffer) (sampleId : SampleIdentity)
    (buffer : List UInt8) : Prop :=
  ∃ s' ub', Gets dev (24 + buffer.length) s ub
    (encodeFields machineEndianness sampleId.fields ++ buffer) s' ub'

omit [MicroCdr] in
theorem readSampleIdentity_eq (output : SampleIdentity) :
    readSampleIdentity output = (fun fields =>
      { guidPrefix := (arrayAt fields 0).getD output.guidPrefix
        entityKey := (arrayAt fields 1).getD output.entityKey
        entityKind := (scalarAt fields 2).getD output.entityKind
        high := (scalarAt fields 3).getD output.high
        low := (scalarAt fields 4).getD output.low : SampleIdentity }) <$>
      deserializeFields sampleIdentityFields := by
  refine step_congr fun guidPrefix => step_congr fun entityKey => step_congr fun entityKind =>
    step_congr fun high => step_congr fun low => congrArg Program.done ?_
  simp

omit [MicroCdr] in
/-- An identity at a multiple of four needs no padding. -/
theorem packed_sampleIdentity {offset last : Nat} (h : offset % 4 = 0) :
    Packed offset last sampleIdentityFields := by
  refine ⟨trivial, trivial, ⟨by decide, fun _ => Nat.mod_one _⟩, ⟨by decide, fun _ => ?_⟩,
    ⟨by decide, fun _ => ?_⟩, trivial⟩
  · dsimp only [FieldType.size]
    omega
  · dsimp only [FieldType.size]
    omega

variable [LawfulMicroCdr]

/-- The identity is read back, and then the reply is next. -/
theorem readSampleIdentity_gets (hdev : dev.Continues) {s : σ} {ub : UcdrBuffer}
    {sampleId : SampleIdentity} (hsized : sampleId.WellSized) (output : SampleIdentity)
    {buffer : List UInt8} (hmachine : ub.endianness = machineEndianness)
    (haligned : ub.offset % 4 = 0) (h : HoldsReply dev s ub sampleId buffer) :
    ∃ s₁ ub₁ s' ub', runBuffer dev (readSampleIdentity output) s ub = (sampleId, s₁, ub₁) ∧
      ub₁.offset = ub.offset + 24 ∧ Gets dev buffer.length s₁ ub₁ buffer s' ub' := by
  obtain ⟨s', ub', hget⟩ := h
  have hpacked : Packed ub.offset ub.lastDataSize sampleIdentityFields :=
    packed_sampleIdentity haligned
  have hsize : fieldsSize sampleIdentityFields = 24 := rfl
  have hencoded : (encodeFields machineEndianness sampleId.fields).length = 24 := by
    rw [encodeFields_length, hsized.types]
    rfl
  obtain ⟨s₁, ub₁, ub₂, hrun, hoffset, hrest⟩ := deserializeFields_gets hdev hmachine hpacked hget
  refine ⟨s₁, ub₁, s', ub₂, ?_, hoffset, ?_⟩
  · have hdecoded := decodeFields_encodeFields machineEndianness hsized.fits buffer
    rw [hsized.types] at hdecoded
    rw [hdecoded] at hrun
    rw [runBuffer, readSampleIdentity_eq, run_map]
    show ((fun fields => _) ((deserializeFields sampleIdentityFields).run (handleBuffer dev)
      (s, ub)).1, ((deserializeFields sampleIdentityFields).run (handleBuffer dev) (s, ub)).2) = _
    rw [hrun]
    rfl
  · rw [hsize, ← hencoded, List.drop_left] at hrest
    exact hrest

/-! ## Replies -/

/-- Whether a requester is called for a reply: if it is the one that asked, with what the callback
reads. -/
theorem dispatchReply_spec (hdev : dev.Continues) (session : Nat) {sharedSession : SharedSession}
    (objectId : ObjectId) {s : σ} {item : BufferItem} {sampleId : SampleIdentity}
    (hsized : sampleId.WellSized) (uninitialized : SampleIdentity) {buffer : List UInt8}
    (hmachine : item.data.endianness = machineEndianness) (haligned : item.data.offset % 4 = 0)
    (h : HoldsReply dev s item.data sampleId buffer)
    (hsize : item.dataSize = UInt16.ofNat (24 + buffer.length))
    (hinstalled : sharedSession.onReply = true) :
    ∃ s₁ ub₁ s' ub', Gets dev buffer.length s₁ ub₁ buffer s' ub' ∧
      (dispatchReply dev session sharedSession objectId uninitialized s item).1 =
        (if repliesTo sampleId sharedSession.key objectId then
          some { callback := .onReply (UInt16.ofNat sampleId.low), session, objectId, ub := ub₁,
                 length := UInt16.ofNat buffer.length, args := sharedSession.onTopicArgs }
        else none) ∧
      (dispatchReply dev session sharedSession objectId uninitialized s item).2.1 = s₁ := by
  obtain ⟨s₁, ub₁, s', ub', hread, hoffset, hrest⟩ :=
    readSampleIdentity_gets hdev hsized uninitialized hmachine haligned h
  have hlength : item.dataSize - (UInt16.ofNat ub₁.offset - UInt16.ofNat item.data.offset) =
      UInt16.ofNat buffer.length := by
    rw [hsize, hoffset]
    apply UInt16.toNat_inj.mp
    simp only [UInt16.toNat_sub, UInt16.toNat_ofNat']
    omega
  refine ⟨s₁, ub₁, s', ub', hrest, ?_, ?_⟩
  · rw [dispatchReply, if_pos hinstalled, hread]
    dsimp only
    split
    · rw [hlength]
    · rfl
  · rw [dispatchReply, if_pos hinstalled, hread]
    dsimp only
    split
    · rfl
    · rfl

end

section

variable [MicroCdr] {σ : Type} {dev : Device σ} {sessions : Nat → SharedSession}
  {map : SharedMemoryMap}

/-- It is a replier that is called for a request, and this is what it is given. -/
theorem request_sampleId {requester replier : Nat} {uninitialized : SampleIdentity} {s : σ}
    {request : BufferItem} {call : SharedCall} {sampleId : SampleIdentity}
    (hrequest : (dispatch dev sessions map requester replier uninitialized s request).1 = some call)
    (hcallback : call.callback = .onRequest sampleId) :
    (map.entity replier).objectId.type = replierId ∧
      sampleId = requestIdentity (sessions (map.entity requester).session).key
        (map.entity requester).objectId request.requestId uninitialized := by
  rw [dispatch] at hrequest
  split at hrequest
  · -- a reader has another callback
    rw [dispatchTopic] at hrequest
    split at hrequest
    · cases hrequest
      cases hcallback
    · cases hrequest
  · split at hrequest
    · rename_i hreplier
      rw [dispatchRequest] at hrequest
      split at hrequest
      · cases hrequest
        cases hcallback
        exact ⟨hreplier, rfl⟩
      · cases hrequest
    · split at hrequest
      · -- and so does a requester
        rw [dispatchReply] at hrequest
        split at hrequest
        · dsimp only at hrequest
          split at hrequest
          · cases hrequest
            cases hcallback
          · cases hrequest
        · cases hrequest
      · cases hrequest

/-- What a requester does with a reply. -/
theorem dispatch_requester {replier requester : Nat} {uninitialized : SampleIdentity} {s : σ}
    {item : BufferItem} (hrequester : (map.entity requester).objectId.type = requesterId) :
    dispatch dev sessions map replier requester uninitialized s item =
      dispatchReply dev (map.entity requester).session (sessions (map.entity requester).session)
        (map.entity requester).objectId uninitialized s item := by
  rw [dispatch, if_neg (by rw [hrequester]; decide), if_neg (by rw [hrequester]; decide),
    if_pos hrequester]

/-- The call and the memory afterwards are those of `dispatch`, and no session changes. -/
theorem handOver_dispatch {process : SharedProcess σ} {uninitialized : SampleIdentity}
    {i j a : Nat} {frames : List HandleFrame} :
    (process.handOver dev uninitialized i j a frames).handed.getLast?.bind Handing.call =
        (dispatch dev process.sessions process.map i j uninitialized process.memory
          (process.map.memPool a)).1 ∧
      (process.handOver dev uninitialized i j a frames).memory =
        (dispatch dev process.sessions process.map i j uninitialized process.memory
          (process.map.memPool a)).2.1 ∧
      (process.handOver dev uninitialized i j a frames).sessions = process.sessions := by
  refine ⟨?_, rfl, rfl⟩
  rw [SharedProcess.handOver, List.getLast?_append_of_ne_nil _ (List.cons_ne_nil _ _)]
  rfl

end

end XrceClient
