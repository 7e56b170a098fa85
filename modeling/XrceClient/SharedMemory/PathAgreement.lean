import XrceClient.SharedMemory.Replies

/-!
# Shared memory and the agent (`shared_memory.c`, `read_access.c`)

The same payload comes to a callback from `uxr_handle_shared_memory` or, through the agent, from
`read_format_data`.

- `readFormatDataShown`: what `read_format_data` shows a callback, and `on_data_flag` afterwards.
  `readFormatData_shows` says that it is what `readFormatData` does.
- `Carries`: an item with a payload for its receiver.
- `PathsAgree`: both paths show the same.
- `paths_agree_iff`: when they do.
-/

namespace XrceClient

open ByteMemory Program

/-! ## Through the agent -/

/-- What a callback for data is shown. -/
structure Shown where
  session : Nat
  objectId : ObjectId
  payload : List UInt8
  length : UInt16
  args : Nat
  deriving DecidableEq, Repr

/-- What `read_format_data` shows a callback of the data behind the buffer, and `on_data_flag`
afterwards (read_access.c:174–245). -/
def readFormatDataShown (session : Nat) (sharedSession : SharedSession) (objectId : ObjectId)
    (length : UInt16) (data : List UInt8) : Option Shown × Bool :=
  if objectId.type = dataReaderId then
    if sharedSession.onTopic then
      (some { session, objectId, payload := data, length, args := sharedSession.onTopicArgs }, true)
    else
      (none, sharedSession.onDataFlag)
  else if objectId.type = replierId then
    -- the identity of the requester is in front of a request
    if sharedSession.onRequest && 24 ≤ data.length then
      (some { session, objectId, payload := data.drop 24, length := length - 24,
              args := sharedSession.onRequestArgs }, true)
    else
      (none, sharedSession.onDataFlag)
  else if objectId.type = requesterId then
    -- the request is in front of its reply
    if sharedSession.onReply && 4 ≤ data.length then
      (some { session, objectId, payload := data.drop 4, length := length - 4,
              args := sharedSession.onReplyArgs }, true)
    else
      (none, sharedSession.onDataFlag)
  else
    (none, sharedSession.onDataFlag)

/-- The callbacks of a session. -/
structure Installs (sharedSession : SharedSession) (config : ReadConfig) : Prop where
  onTopic : config.onTopic.isSome = sharedSession.onTopic
  onRequest : config.onRequest.isSome = sharedSession.onRequest
  onReply : config.onReply.isSome = sharedSession.onReply

section

variable {config : ReadConfig} {session : Nat} {sharedSession : SharedSession}

/-- A callback that is installed is called with what it is shown. -/
theorem dataCall_shown [MicroCdr] (hinstalls : Installs sharedSession config) (length : UInt16)
    (streamId : StreamId) (objectId : ObjectId) (requestId : UInt16) {b : Block}
    (hsize : b.bytes.length < 2 ^ 32) :
    (dataCall config length streamId objectId requestId b.rebase).map
        (fun call => (call.block.bytes, call.length)) =
      (readFormatDataShown session sharedSession objectId length b.bytes).1.map
        (fun shown => (shown.payload, shown.length)) := by
  have hwhole {bytes : List UInt8} (h : bytes.length < 2 ^ 32) :
      bytes.take (bytes.length % 2 ^ 32) = bytes := by
    rw [Nat.mod_eq_of_lt h, List.take_length]
  have hrebase : b.rebase.bytes = b.bytes := hwhole hsize
  have hbehind (n last : Nat) : ((b.rebase.behind n last).rebase).bytes = b.bytes.drop n := by
    rw [Block.rebase, Block.behind, hrebase]
    apply hwhole
    rw [List.length_drop]
    omega
  have hidentity : fieldsSize sampleIdentityFields = 24 := rfl
  have hrequest : fieldsSize baseObjectRequestFields = 4 := rfl
  unfold dataCall readFormatDataShown
  rw [hrebase, hidentity, hrequest]
  split
  · rw [← hinstalls.onTopic]
    cases config.onTopic with
    | none => rfl
    | some onTopic => exact congrArg (fun bytes => some (bytes, length)) hrebase
  · split
    · rw [← hinstalls.onRequest]
      cases config.onRequest with
      | none =>
        split <;> rfl
      | some onRequest =>
        by_cases hthere : 24 ≤ b.bytes.length
        · rw [if_pos hthere, if_pos (by simpa using hthere)]
          exact congrArg (fun bytes => some (bytes, length - 24)) (hbehind 24 4)
        · rw [if_neg hthere, if_neg (by simpa using hthere)]
          rfl
    · split
      · rw [← hinstalls.onReply]
        cases config.onReply with
        | none =>
          split <;> rfl
        | some onReply =>
          by_cases hthere : 4 ≤ b.bytes.length
          · rw [if_pos hthere, if_pos (by simpa using hthere)]
            exact congrArg (fun bytes => some (bytes, length - 4)) (hbehind 4 1)
          · rw [if_neg hthere, if_neg (by simpa using hthere)]
            rfl
      · rfl

/-- `read_format_data` calls a callback as `readFormatDataShown` says. -/
theorem readFormatData_shows [MicroCdr] [StickyMicroCdr] {σ : Type} {env : ReadEnv σ} {s : σ}
    {c : Cursor} {b : Block} (hinstalls : Installs sharedSession config) (length : UInt16)
    (streamId : StreamId) (objectId : ObjectId) (requestId : UInt16) (hblocks : env.Blocks)
    (h : Holds env.dev s c.ub b) (hsize : b.bytes.length < 2 ^ 32) :
    ∃ s' ub' call,
      (readFormatData config length streamId objectId requestId).run env.handle (s, c) =
        (⟨⟩, s', { ub := ub', outer := none }) ∧
      Called env call s s' ∧
      call.map (fun call => (call.block.bytes, call.length)) =
        (readFormatDataShown session sharedSession objectId length b.bytes).1.map
          (fun shown => (shown.payload, shown.length)) := by
  obtain ⟨s', ub', hrun, hcalled, -⟩ :=
    readFormatData_plain config length streamId objectId requestId hblocks h
  exact ⟨s', ub', _, hrun, hcalled,
    dataCall_shown hinstalls length streamId objectId requestId hsize⟩

/-- How many bytes are in front of the payload when it comes through the agent. -/
def frontSize (type : UInt8) : Nat :=
  if type = replierId then 24 else if type = requesterId then 4 else 0

/-- Whether a session has the callback for a kind of entity. -/
def SharedSession.listens (sharedSession : SharedSession) (type : UInt8) : Bool :=
  if type = dataReaderId then sharedSession.onTopic
  else if type = replierId then sharedSession.onRequest
  else if type = requesterId then sharedSession.onReply
  else false

/-- The argument that is registered for that callback. -/
def SharedSession.registeredArgs (sharedSession : SharedSession) (type : UInt8) : Nat :=
  if type = replierId then sharedSession.onRequestArgs
  else if type = requesterId then sharedSession.onReplyArgs
  else sharedSession.onTopicArgs

/-- A payload that comes through the agent is shown as it was written. -/
theorem readFormatDataShown_payload {objectId : ObjectId} {front payload : List UInt8}
    (hfront : front.length = frontSize objectId.type) :
    readFormatDataShown session sharedSession objectId
        (UInt16.ofNat (front.length + payload.length)) (front ++ payload) =
      if sharedSession.listens objectId.type then
        (some { session, objectId, payload, length := UInt16.ofNat payload.length,
                args := sharedSession.registeredArgs objectId.type }, true)
      else
        (none, sharedSession.onDataFlag) := by
  have hdrop : (front ++ payload).drop front.length = payload := List.drop_left
  have hlength {n : Nat} (hn : n = front.length) :
      UInt16.ofNat (front.length + payload.length) - UInt16.ofNat n =
        UInt16.ofNat payload.length := by
    rw [hn]
    apply UInt16.toNat_inj.mp
    simp only [UInt16.toNat_sub, UInt16.toNat_ofNat']
    omega
  have hthere {n : Nat} (hn : n = front.length) : decide (n ≤ (front ++ payload).length) = true := by
    rw [hn, List.length_append]
    exact decide_eq_true (Nat.le_add_right _ _)
  unfold readFormatDataShown SharedSession.listens SharedSession.registeredArgs
  rw [frontSize] at hfront
  by_cases hreader : objectId.type = dataReaderId
  · rw [hreader] at hfront ⊢
    have hempty : front = [] := List.eq_nil_of_length_eq_zero hfront
    rw [hempty]
    simp only [if_pos, List.nil_append, List.length_nil, Nat.zero_add]
    rfl
  · rw [if_neg hreader, if_neg hreader]
    by_cases hreplier : objectId.type = replierId
    · rw [if_pos hreplier] at hfront
      rw [if_pos hreplier, if_pos hreplier, if_pos hreplier, hthere hfront.symm, Bool.and_true,
        ← hlength hfront.symm, ← hfront, hdrop, hfront]
      rfl
    · rw [if_neg hreplier] at hfront
      rw [if_neg hreplier, if_neg hreplier, if_neg hreplier]
      by_cases hrequester : objectId.type = requesterId
      · rw [if_pos hrequester] at hfront
        rw [if_pos hrequester, if_pos hrequester, if_pos hrequester, hthere hfront.symm,
          Bool.and_true, ← hlength hfront.symm, ← hfront, hdrop, hfront]
        rfl
      · rw [if_neg hrequester, if_neg hrequester, if_neg Bool.false_ne_true]

end

/-! ## Through shared memory -/

section

variable [MicroCdr] {σ : Type} (dev : Device σ)

/-- The item of a payload that was written for a receiver: the payload itself, and in front of a
reply the identity that came with a request of the receiver, behind a multiple of four bytes. -/
def Carries (process : SharedProcess σ) (receiver : SharedEntity) (item : BufferItem)
    (payload : List UInt8) : Prop :=
  if receiver.objectId.type = requesterId then
    item.dataSize = UInt16.ofNat (24 + payload.length) ∧
      item.data.endianness = machineEndianness ∧ item.data.offset % 4 = 0 ∧
      ∃ requestId uninitialized, uninitialized.WellSized ∧
        HoldsReply dev process.memory item.data
          (requestIdentity (process.sessions receiver.session).key receiver.objectId requestId
            uninitialized) payload
  else
    item.dataSize = UInt16.ofNat payload.length ∧
      ∃ s' ub', Gets dev payload.length process.memory item.data payload s' ub'

/-- A call with what is shown. -/
structure SharedCall.Shows (call : SharedCall) (memory : σ) (shown : Shown) : Prop where
  session : call.session = shown.session
  objectId : call.objectId = shown.objectId
  payload : ∃ s' ub', Gets dev shown.payload.length memory call.ub shown.payload s' ub'
  length : call.length = shown.length
  args : call.args = shown.args

/-- `uxr_handle_shared_memory` hands over the item `a` from the entity `i` to the entity `j`, and
it shows the callback what came through the agent, with the same effect on `on_data_flag`. -/
structure PathsAgree (process : SharedProcess σ) (uninitialized : SampleIdentity) (i j a : Nat)
    (frames : List HandleFrame) (network : Option Shown × Bool) : Prop where
  called : ∀ shown, network.1 = some shown →
    ∃ call ∈ (process.handOver dev uninitialized i j a frames).handed.getLast?.bind Handing.call,
      call.Shows dev (process.handOver dev uninitialized i j a frames).memory shown
  silent : network.1 = none →
    (process.handOver dev uninitialized i j a frames).handed.getLast?.bind Handing.call = none
  onDataFlag :
    ((process.handOver dev uninitialized i j a frames).sessions
      (process.map.entity j).session).onDataFlag = network.2

variable {dev} {process : SharedProcess σ} {uninitialized : SampleIdentity} {i j a : Nat}
  {frames : List HandleFrame}

/-- A reader or a replier is called with the payload that the item carries. -/
theorem dispatch_carried {payload : List UInt8}
    (hkind : (process.map.entity j).objectId.type ≠ requesterId)
    (hcarries : Carries dev process (process.map.entity j) (process.map.memPool a) payload) :
    let session := (process.map.entity j).session
    let objectId := (process.map.entity j).objectId
    (dispatch dev process.sessions process.map i j uninitialized process.memory
        (process.map.memPool a)).2.1 = process.memory ∧
      if (process.sessions session).listens objectId.type then
        ∃ call, (dispatch dev process.sessions process.map i j uninitialized process.memory
            (process.map.memPool a)).1 = some call ∧
          call.Shows dev process.memory
            { session, objectId, payload, length := UInt16.ofNat payload.length,
              args := (process.sessions session).onTopicArgs }
      else
        (dispatch dev process.sessions process.map i j uninitialized process.memory
          (process.map.memPool a)).1 = none := by
  intro session objectId
  rw [Carries, if_neg hkind] at hcarries
  obtain ⟨hsize, hget⟩ := hcarries
  rw [SharedSession.listens, dispatch]
  by_cases hreader : objectId.type = dataReaderId
  · rw [if_pos hreader, if_pos hreader]
    refine ⟨rfl, ?_⟩
    rw [dispatchTopic]
    split
    · exact ⟨_, rfl, rfl, rfl, hget, hsize, rfl⟩
    · rfl
  · rw [if_neg hreader, if_neg hreader]
    by_cases hreplier : objectId.type = replierId
    · rw [if_pos hreplier, if_pos hreplier]
      refine ⟨rfl, ?_⟩
      rw [dispatchRequest]
      split
      · exact ⟨_, rfl, rfl, rfl, hget, hsize, rfl⟩
      · rfl
    · rw [if_neg hreplier, if_neg hreplier, if_neg hkind, if_neg hkind]
      refine ⟨rfl, ?_⟩
      rw [if_neg Bool.false_ne_true]

/-- A requester is called with the reply that the item carries, if its identifier is a byte. -/
theorem dispatch_carried_reply [LawfulMicroCdr] (hdev : dev.Continues) {payload : List UInt8}
    (hkind : (process.map.entity j).objectId.type = requesterId)
    (hcarries : Carries dev process (process.map.entity j) (process.map.memPool a) payload) :
    let session := (process.map.entity j).session
    let objectId := (process.map.entity j).objectId
    if (process.sessions session).onReply ∧ objectId.id.toNat < 256 then
      ∃ call, (dispatch dev process.sessions process.map i j uninitialized process.memory
          (process.map.memPool a)).1 = some call ∧
        call.Shows dev (dispatch dev process.sessions process.map i j uninitialized process.memory
            (process.map.memPool a)).2.1
          { session, objectId, payload, length := UInt16.ofNat payload.length,
            args := (process.sessions session).onTopicArgs }
    else
      (dispatch dev process.sessions process.map i j uninitialized process.memory
        (process.map.memPool a)).1 = none := by
  intro session objectId
  rw [Carries, if_pos hkind] at hcarries
  obtain ⟨hsize, hmachine, haligned, requestId, contents, hsized, hheld⟩ := hcarries
  rw [dispatch_requester hkind]
  by_cases hinstalled : (process.sessions session).onReply = true
  · obtain ⟨s₁, ub₁, s', ub', hget, hcall, hmemory⟩ := dispatchReply_spec hdev session objectId
      (requestIdentity_wellSized _ _ _ hsized) uninitialized hmachine haligned hheld hsize
      hinstalled
    have htakes : repliesTo (requestIdentity (process.sessions session).key objectId requestId
        contents) (process.sessions session).key objectId = true ↔ objectId.id.toNat < 256 := by
      rw [repliesTo_iff]
      constructor
      · rintro ⟨-, hid, -⟩
        omega
      · intro hid
        exact ⟨rfl, (Nat.mod_eq_of_lt hid).symm, rfl⟩
    rw [hcall]
    by_cases hid : objectId.id.toNat < 256
    · rw [if_pos ⟨hinstalled, hid⟩, if_pos (htakes.mpr hid)]
      refine ⟨_, rfl, rfl, rfl, ⟨s', ub', ?_⟩, rfl, rfl⟩
      rw [hmemory]
      exact hget
    · rw [if_neg fun h => hid h.2, if_neg fun h => hid (htakes.mp h)]
  · rw [if_neg fun h => hinstalled h.1, dispatchReply, if_neg hinstalled]

/-- A callback that is called is shown the payload, with the argument of the one for topics. -/
theorem handOver_carried [LawfulMicroCdr] (hdev : dev.Continues) {payload : List UInt8}
    (hcarries : Carries dev process (process.map.entity j) (process.map.memPool a) payload) :
    let session := (process.map.entity j).session
    let objectId := (process.map.entity j).objectId
    if (process.sessions session).listens objectId.type ∧
        (objectId.type = requesterId → objectId.id.toNat < 256) then
      ∃ call, (process.handOver dev uninitialized i j a frames).handed.getLast?.bind Handing.call =
          some call ∧
        call.Shows dev (process.handOver dev uninitialized i j a frames).memory
          { session, objectId, payload, length := UInt16.ofNat payload.length,
            args := (process.sessions session).onTopicArgs }
    else
      (process.handOver dev uninitialized i j a frames).handed.getLast?.bind Handing.call = none := by
  intro session objectId
  obtain ⟨hcall, hmemory, -⟩ :=
    @handOver_dispatch _ σ dev process uninitialized i j a frames
  rw [hcall, hmemory]
  by_cases hkind : objectId.type = requesterId
  · have hreply :=
      @dispatch_carried_reply _ σ dev process uninitialized i j a _ hdev payload hkind hcarries
    have hlistens : (process.sessions session).listens objectId.type =
        (process.sessions session).onReply := by
      rw [hkind]
      rfl
    have hiff : ((process.sessions session).listens objectId.type = true ∧
          (objectId.type = requesterId → objectId.id.toNat < 256)) ↔
        ((process.sessions session).onReply = true ∧ objectId.id.toNat < 256) := by
      rw [hlistens]
      exact and_congr Iff.rfl ⟨fun h => h hkind, fun h _ => h⟩
    rw [if_congr hiff rfl rfl]
    exact hreply
  · obtain ⟨hkept, hdata⟩ :=
      @dispatch_carried _ σ dev process uninitialized i j a payload hkind hcarries
    have hiff : ((process.sessions session).listens objectId.type = true ∧
          (objectId.type = requesterId → objectId.id.toNat < 256)) ↔
        (process.sessions session).listens objectId.type = true :=
      ⟨fun h => h.1, fun h => ⟨h, fun hrequester => absurd hrequester hkind⟩⟩
    rw [if_congr hiff rfl rfl, hkept]
    exact hdata

end

/-- A payload is shown the same on both paths if and only if the receiver has no callback for it, or
`on_data_flag` was set before, the argument of the callback is that of the callback for topics, and
the identifier of a requester is less than 256. -/
theorem paths_agree_iff [MicroCdr] [LawfulMicroCdr] {σ : Type} {dev : Device σ}
    (hdev : dev.Continues) (process : SharedProcess σ) (uninitialized : SampleIdentity)
    (i j a : Nat) (frames : List HandleFrame) {front payload : List UInt8}
    (hfront : front.length = frontSize (process.map.entity j).objectId.type)
    (hcarries : Carries dev process (process.map.entity j) (process.map.memPool a) payload) :
    PathsAgree dev process uninitialized i j a frames
        (readFormatDataShown (process.map.entity j).session
          (process.sessions (process.map.entity j).session) (process.map.entity j).objectId
          (UInt16.ofNat (front.length + payload.length)) (front ++ payload)) ↔
      ((process.sessions (process.map.entity j).session).listens
          (process.map.entity j).objectId.type = true →
        (process.sessions (process.map.entity j).session).onDataFlag = true ∧
        (process.sessions (process.map.entity j).session).registeredArgs
            (process.map.entity j).objectId.type =
          (process.sessions (process.map.entity j).session).onTopicArgs ∧
        ((process.map.entity j).objectId.type = requesterId →
          (process.map.entity j).objectId.id.toNat < 256)) := by
  have hcarried :=
    @handOver_carried _ σ dev process uninitialized i j a frames _ hdev payload hcarries
  dsimp only at hcarried
  rw [readFormatDataShown_payload hfront]
  constructor
  · rintro ⟨hcalled, -, hflag⟩ hlistens
    rw [if_pos hlistens] at hcalled hflag
    obtain ⟨call, hcall, hshows⟩ := hcalled _ rfl
    have hcall : (process.handOver dev uninitialized i j a frames).handed.getLast?.bind Handing.call
        = some call := hcall
    split at hcarried
    · next hreceives =>
      obtain ⟨call', hcall', hshows'⟩ := hcarried
      obtain rfl : call = call' := Option.some.inj (hcall.symm.trans hcall')
      exact ⟨hflag, hshows.args.symm.trans hshows'.args, hreceives.2⟩
    · rw [hcarried] at hcall
      cases hcall
  · intro hcondition
    by_cases hlistens : (process.sessions (process.map.entity j).session).listens
        (process.map.entity j).objectId.type = true
    · obtain ⟨hflag, hargs, hid⟩ := hcondition hlistens
      rw [if_pos ⟨hlistens, hid⟩] at hcarried
      obtain ⟨call, hcall, hshows⟩ := hcarried
      rw [if_pos hlistens]
      refine ⟨?_, nofun, hflag⟩
      rintro _ ⟨⟩
      rw [hargs]
      exact ⟨call, hcall, hshows⟩
    · rw [if_neg fun h => hlistens h.1] at hcarried
      rw [if_neg hlistens]
      exact ⟨nofun, fun _ => hcarried, rfl⟩

/-- A requester and a replier, and a second requester with the identifier 1; all of them match. -/
def askingMap (id : UInt16) : SharedMemoryMap :=
  { SharedMemoryMap.zero with
    entities := [ { SharedEntity.zero with objectId := ⟨id, requesterId⟩ },
      { SharedEntity.zero with objectId := ⟨1, replierId⟩ },
      { SharedEntity.zero with objectId := ⟨1, requesterId⟩ } ]
    matrix := fun _ _ => { matched := true, list := none } }

/-- A request of four bytes waits for the replier, whose session already got data. -/
def requestWaits (onRequestArgs : Nat) : SharedProcess Memory :=
  let process := SharedProcess.initial
    (fun _ => { listeningSession with onRequestArgs, onDataFlag := true })
    fun address => UInt8.ofNat (address + 1)
  { process with
    map := { askingMap 2 with
      memPool := fun _ =>
        { BufferItem.zero with data := @ucdrInitBuffer referenceMicroCdr 0 4, dataSize := 4 }
      matrix := fun _ _ => { matched := true, list := some 0 } } }

/-- The item carries the request. -/
theorem requestWaits_carries (onRequestArgs : Nat) :
    @Carries referenceMicroCdr Memory Device.plain (requestWaits onRequestArgs)
      ((requestWaits onRequestArgs).map.entity 1) ((requestWaits onRequestArgs).map.memPool 0)
      [1, 2, 3, 4] := by
  have hkind : ((requestWaits onRequestArgs).map.entity 1).objectId.type ≠ requesterId :=
    (by decide : replierId ≠ requesterId)
  unfold Carries
  rw [if_neg hkind]
  exact ⟨rfl, _, _, gets_room Device.plain 4 (fun address => UInt8.ofNat (address + 1))
    (@ucdrInitBuffer referenceMicroCdr 0 4) rfl (Nat.le_refl 4)⟩

/-- What comes through the agent for the replier, with the identity of the requester in front. -/
def requestFromAgent (onRequestArgs : Nat) : Option Shown × Bool :=
  readFormatDataShown 0 ((requestWaits onRequestArgs).sessions 0) ⟨1, replierId⟩ (UInt16.ofNat 28)
    (List.replicate 24 9 ++ [1, 2, 3, 4])

/-- With the same argument for topics and requests the request is shown the same. -/
theorem paths_agree_same_args :
    @PathsAgree referenceMicroCdr Memory Device.plain (requestWaits 1) .zero 0 1 0 []
      (requestFromAgent 1) :=
  (@paths_agree_iff referenceMicroCdr referenceMicroCdr_lawful Memory Device.plain
    (@continues_plain referenceMicroCdr) (requestWaits 1) .zero 0 1 0 []
    (List.replicate 24 9) [1, 2, 3, 4] rfl (requestWaits_carries 1)).mpr
    fun _ => ⟨rfl, rfl, fun hkind => absurd hkind (by decide)⟩

/-- With another argument for requests a replier gets that for topics. -/
theorem paths_disagree_other_args :
    ¬ ∀ onRequestArgs, @PathsAgree referenceMicroCdr Memory Device.plain (requestWaits onRequestArgs)
      .zero 0 1 0 [] (requestFromAgent onRequestArgs) := by
  intro hall
  obtain ⟨call, hcall, hshows⟩ := @PathsAgree.called referenceMicroCdr _ _ _ _ _ _ _ _ _ (hall 2) _ rfl
  have hargs : ((@SharedProcess.handOver Memory referenceMicroCdr Device.plain (requestWaits 2) .zero 0
      1 0 []).handed.getLast?.bind Handing.call).map SharedCall.args = some 1 := by
    decide +kernel
  obtain ⟨call', hcall', hone⟩ := Option.map_eq_some_iff.mp hargs
  obtain rfl : call' = call := Option.some.inj (hcall'.symm.trans hcall)
  rw [hshows.args] at hone
  cases hone

end XrceClient
