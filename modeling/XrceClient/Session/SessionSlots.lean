import XrceClient.Session.ControlMessages
import XrceClient.Session.SlotReading

/-!
# The slots of a session's streams

`slotsEnv` reads out of the slots of one input stream of a session; it is a `SlotEnv`: what
the submessages do to the session besides leaves the ring of the stream alone.
-/

namespace XrceClient

/-- The slots that readers were given, by position. -/
def Session.slotsGiven (index : UInt8) (session : Session) : List Nat :=
  session.accesses.filterMap fun
    | .inputSlot index' position => if index' = index then some position else none
    | _ => none

section

variable {index : UInt8} {session : Session}

theorem SameRing.refl (stream : InputReliableStream) : SameRing stream stream := ⟨rfl, rfl, rfl, rfl⟩

theorem SameRing.trans {stream stream' stream'' : InputReliableStream} (h : SameRing stream stream')
    (h' : SameRing stream' stream'') : SameRing stream stream'' :=
  ⟨h'.base.trans h.base, h'.lastHandled.trans h.lastHandled,
    h'.onGetFragmentationInfo.trans h.onGetFragmentationInfo, h'.cleanupFlag.trans h.cleanupFlag⟩

/-- An announcement is no part of the ring. -/
theorem sameRing_announce (stream : InputReliableStream) (seqNum : SeqNum) :
    SameRing stream (stream.announce seqNum) := by
  rw [InputReliableStream.announce]
  split <;> exact ⟨rfl, rfl, rfl, rfl⟩

/-- A stream of the session is replaced by one with the same ring. -/
theorem sameRing_setInputReliable {streams : StreamStorage} {index' : UInt8}
    {stream : InputReliableStream} (h : SameRing (streams.inputReliable index') stream) :
    SameRing (streams.inputReliable index)
      ((streams.setInputReliable index' stream).inputReliable index) := by
  rw [StreamStorage.setInputReliable]
  dsimp only
  by_cases hindex : index = index'
  · rw [hindex, Function.update_self]
    exact h
  · rw [Function.update_of_ne hindex]
    exact SameRing.refl _

theorem slotsGiven_access (accesses : List StorageAccess)
    (h : ∀ access ∈ accesses, ∀ i p, access ≠ .inputSlot i p) :
    (session.access accesses).slotsGiven index = session.slotsGiven index := by
  rw [Session.slotsGiven, Session.access, List.filterMap_append]
  have hnil : accesses.filterMap (fun
      | .inputSlot index' position => if index' = index then some position else none
      | _ => none) = [] := by
    refine List.filterMap_eq_nil_iff.mpr ?_
    intro access hmem
    cases access with
    | inputSlot i p => exact absurd rfl (h _ hmem i p)
    | _ => rfl
  rw [hnil, List.append_nil]
  rfl

theorem acknackAccesses_ne_inputSlot (stream : InputReliableStream) :
    ∀ access ∈ acknackAccesses stream, ∀ i p, access ≠ .inputSlot i p := by
  intro access hmem i p
  rw [acknackAccesses] at hmem
  split at hmem
  · rw [List.mem_singleton.mp hmem]
    exact StorageAccess.noConfusion
  · cases hmem

theorem processAcknackAccesses_ne_inputSlot (stream : OutputReliableStream) (bitmap : UInt16)
    (seqNum : SeqNum) :
    ∀ access ∈ processAcknackAccesses stream bitmap seqNum, ∀ i p, access ≠ .inputSlot i p := by
  intro access hmem i p
  rw [processAcknackAccesses] at hmem
  split at hmem
  · rw [List.mem_singleton.mp hmem]
    exact StorageAccess.noConfusion
  · cases hmem

variable [MicroCdr] {shiftBeyond : Nat → UInt16}

theorem slotsGiven_writeSubmessageAcknack (id : StreamId) :
    (writeSubmessageAcknack shiftBeyond session id).slotsGiven index =
      session.slotsGiven index := by
  refine slotsGiven_access _ ?_
  intro access hmem
  rcases List.mem_cons.mp hmem with rfl | hmem
  · exact fun _ _ => StorageAccess.noConfusion
  · exact acknackAccesses_ne_inputSlot _ access hmem

/-- What a submessage does to the session leaves the rings of its input streams alone. -/
theorem sameRing_emit (e : Effect) :
    SameRing (session.streams.inputReliable index)
        ((Session.emit shiftBeyond e session).streams.inputReliable index) ∧
      (Session.emit shiftBeyond e session).slotsGiven index = session.slotsGiven index := by
  cases e with
  | heartbeat payload =>
    rw [Session.emit, readSubmessageHeartbeat]
    dsimp only
    split
    · next stream hfound =>
      rw [slotsGiven_writeSubmessageAcknack, writeSubmessageAcknack_streams]
      refine ⟨?_, slotsGiven_access _ (by simp)⟩
      rw [getInputReliableStream] at hfound
      split at hfound
      · cases hfound
        exact sameRing_setInputReliable (sameRing_announce _ _)
      · cases hfound
    · exact ⟨SameRing.refl _, rfl⟩
  | acknack payload whole =>
    rw [Session.emit, readSubmessageAcknack]
    dsimp only
    split
    · next stream hfound =>
      refine ⟨SameRing.refl _, slotsGiven_access _ ?_⟩
      intro access hmem
      rcases List.mem_cons.mp hmem with rfl | hmem
      · exact fun _ _ => StorageAccess.noConfusion
      · exact processAcknackAccesses_ne_inputSlot _ _ _ access hmem
    · exact ⟨SameRing.refl _, rfl⟩
  | deleteSessionStatus requestId status whole =>
    rw [Session.emit]
    dsimp only
    split <;> exact ⟨SameRing.refl _, rfl⟩
  | _ => exact ⟨SameRing.refl _, rfl⟩

end

/-- Reading out of the slots of a stream of a session. -/
def sessionSlots [MicroCdr] (shiftBeyond : Nat → UInt16) (index : UInt8) : SlotEnv Session where
  env := slotsEnv shiftBeyond index
  stream session := session.streams.inputReliable index
  given := Session.slotsGiven index
  load _ _ := rfl
  refuses session ub hcallback := by
    show (match ub.onFullBuffer with | none => _ | some _ => _) = _
    rw [hcallback]
  chains session ub hcallback := by
    obtain ⟨callback, hcallback⟩ := Option.ne_none_iff_exists'.mp hcallback
    rcases hr : onFullInputBuffer (session.streams.inputReliable index) ub with
      ⟨error, stream, ub'⟩
    let position := nextPosition (session.streams.inputReliable index).base ub
    let accesses : List StorageAccess :=
      .remainder stream.base.history ::
        if error then [] else [.inputSlot index position]
    refine ⟨{ session.access accesses with
      streams := session.streams.setInputReliable index stream }, ?_, Function.update_self _ _ _, ?_⟩
    · show (match ub.onFullBuffer with | none => _ | some _ => _) = _
      rw [hcallback]
      dsimp only
      rw [hr]
      rfl
    · show (session.access accesses).slotsGiven index = _
      rw [Session.slotsGiven, Session.access, List.filterMap_append, Session.slotsGiven]
      congr 1
      cases error <;> simp [accesses, position]
  setCleanupFlag flag session := ⟨Function.update_self _ _ _, rfl⟩
  emit e session := sameRing_emit e

end XrceClient
