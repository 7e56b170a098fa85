import XrceClient.Session.SessionSlots
import XrceClient.Stream.InputWindow
import XrceClient.Stream.Reception

/-!
# Reading a reassembled message and the other slots

Where the reading of a message is confined to its own slots, and where it is not.

- `Lure`: a slot that is filled, with an empty one behind it.
- `attempt_within_escaped`: a confined run that gives up at such a slot is a run to which
  the slot is given.
-/

namespace XrceClient

open ByteMemory

/-! ## Transfers that end in a refusal -/

section

variable {σ : Type} {dev : Device σ}

end

/-! ## Slots that lead the reader on -/

section

variable [MicroCdr] {σ : Type}

/-- A slot outside of `own` that a reader is led into: it holds a message with at least one byte
behind the subheader, and the slot after it is empty. -/
structure Lure (own : Nat → Prop) (stream : InputReliableStream) (p : Nat) : Prop where
  wellFormed : stream.base.WellFormed
  position : p < stream.base.history.toNat
  outside : ¬ own p
  filled : 5 ≤ stream.slotSize p
  fits : stream.slotSize p + 4 ≤ stream.base.stride
  empty : stream.slotSize (p + 1) < 4

variable {S : SlotEnv σ} {own : Nat → Prop} {s₀ s : σ} {stream stream' : InputReliableStream}
  {ub ub' : UcdrBuffer} {p : Nat}

variable [LawfulMicroCdr]

/-- A buffer that is full before the slot is moved into it, and no further. -/
theorem Lure.opens (h : Lure own (S.stream s) p) (hcallback : ub.onFullBuffer ≠ none)
    (hposition : nextPosition (S.stream s).base ub = p) :
    ∃ s' ub', S.env.dev.onFull s ub = (false, s', ub') ∧ ub'.iterator < ub'.final ∧
      ub'.error = false ∧ p ∈ S.given s' ∧ ∀ ub'', ub'.SameBlock ub'' →
        ∃ s'', S.env.dev.onFull s' ub'' = (true, s'', ub'') ∧ p ∈ S.given s'' := by
  obtain ⟨s', hfull, hstream, hgiven⟩ := S.chains s ub hcallback
  have hwf := h.wellFormed
  have hfilled := h.filled
  have hfits := h.fits
  have hslot : (S.stream s).base.slot (UInt16.ofNat p) = p := by
    rw [hwf.slot_ofNat, Nat.mod_eq_of_lt h.position]
  -- the slot is the one that the callback moves to
  have hsize : getReliableBufferSize (S.stream s).base
      (nextHistoryPosition (S.stream s).base ub) = (S.stream s).slotSize p :=
    ReliableStream.getReliableBufferSize_congr (hposition.trans hslot.symm)
  have hlarge := @onFullInputBuffer_large _ (S.stream s) ub _ (by omega)
  rw [hsize, hposition] at hlarge
  obtain ⟨hno, hub⟩ := hlarge
  have hmem : p ∈ S.given s' := by
    rw [hgiven, hno, hposition]
    exact List.mem_append_right _ (List.mem_singleton_self p)
  rw [hno, hub] at hfull
  refine ⟨s', _, hfull, by dsimp only; omega, rfl, hmem, fun ub'' hblock => ?_⟩
  -- behind it lies an empty slot
  obtain ⟨hinit, -, hcb⟩ := hblock
  have hne : ub''.onFullBuffer ≠ none := by
    rw [hcb]
    exact Option.some_ne_none _
  obtain ⟨s'', hfull', -, hgiven'⟩ := S.chains s' ub'' hne
  have hshrinks := onFullInputBuffer_shrinks hwf.stride ub
  rw [← hstream] at hshrinks
  have hbase : (S.stream s').base.size = (S.stream s).base.size ∧
      (S.stream s').base.history = (S.stream s).base.history := by
    rw [hstream, onFullInputBuffer_eq]
    dsimp only
    cases (S.stream s).cleanupFlag <;> exact ⟨rfl, rfl⟩
  have hnext : nextHistoryPosition (S.stream s').base ub'' = UInt16.ofNat (p + 1) := by
    rw [nextHistoryPosition, getReliableBufferHistoryPosition, hbase.1, hbase.2, hinit,
      ← Serial.ofNat_add_ofNat, UInt16.add_comm]
    congr 2
    refine Nat.div_eq_of_lt_le ?_ ?_
    · exact Nat.le_add_right _ _
    · show p * (S.stream s).base.stride + 8 < (p + 1) * (S.stream s).base.stride
      rw [Nat.succ_mul]
      omega
  have hempty := Nat.lt_of_le_of_lt (hshrinks (UInt16.ofNat (p + 1))) h.empty
  rw [← hnext] at hempty
  obtain ⟨hyes, hsame⟩ := onFullInputBuffer_small hempty
  rw [hyes, hsame] at hfull'
  rw [hyes] at hgiven'
  refine ⟨s'', hfull', ?_⟩
  rw [hgiven']
  exact List.mem_append_left _ hmem

/-! ## Runs that give up -/

section

variable [DecidablePred own]

end

end

/-! ## Where a run gives up -/

section

variable [MicroCdr] {own : Nat → Prop} [DecidablePred own] {stream : InputReliableStream}
  {ub : UcdrBuffer} {p : Nat}

end

/-! ## The reading of a message -/

/-- A session before and after the reading of the message in the slots `own`: no other slot has
changed, and none was given to the reader. -/
structure Framed (index : UInt8) (own : Nat → Prop) (session session' : Session) : Prop where
  slots : Frame own (session.streams.inputReliable index) (session'.streams.inputReliable index)
  given : ∃ positions, session'.slotsGiven index = session.slotsGiven index ++ positions ∧
    ∀ p ∈ positions, own p

/-- What happens around the ring is framed. -/
theorem Framed.sameRing {own : Nat → Prop} {session₀ session session' : Session} {index : UInt8}
    (h : Framed index own session₀ session)
    (hbase : (session'.streams.inputReliable index).base =
      (session.streams.inputReliable index).base)
    (hgiven : session'.slotsGiven index = session.slotsGiven index) :
    Framed index own session₀ session' where
  slots :=
    { size := by rw [hbase]; exact h.slots.size
      history := by rw [hbase]; exact h.slots.history
      bytes := by rw [hbase]; exact h.slots.bytes }
  given := hgiven ▸ h.given

section

variable [MicroCdr]

/-- The positions of the slots behind the last handled message, up to the message `last`. -/
def MessageSlots (stream : InputReliableStream) (last : SeqNum) (p : Nat) : Prop :=
  ∃ i, i < Serial.dist stream.lastHandled last ∧
    p = stream.base.slot (seqNumAdd stream.lastHandled (UInt16.ofNat (i + 1)))

instance (stream : InputReliableStream) (last : SeqNum) :
    DecidablePred (MessageSlots stream last) := fun p =>
  inferInstanceAs (Decidable (∃ i, i < Serial.dist stream.lastHandled last ∧
    p = stream.base.slot (seqNumAdd stream.lastHandled (UInt16.ofNat (i + 1)))))

/-- A fragmented message is given to the reader, as a buffer over its first slot. -/
structure GivesFragments (stream stream' : InputReliableStream) (nextMb : UcdrBuffer) : Prop where
  fragmented : stream.fragmentationInfo (seqNumAdd stream.lastHandled 1) ≠ .noFragmented
  available : ∃ fuel ub, nextInputReliableBufferAvailable fuel stream ub subheaderSize =
    some (true, stream', nextMb)

variable (shiftBeyond : Nat → UInt16) (config : ReadConfig) (fuel : Nat) (streamId : StreamId)
  (own : Nat → Prop) (stream : InputReliableStream) (nextMb : UcdrBuffer)

/-- The reader of a message, confined to the slots `own`. -/
def confinedReading [DecidablePred own] : Except Exit (Bool × InputReliableStream × Cursor) :=
  (readSubmessageList config fuel streamId).attempt (handleWithin own)
    (stream, { ub := nextMb, outer := none })

/-- On the message alone the reader comes to its end. -/
def Contained [DecidablePred own] : Prop :=
  InSlot own stream.base.stride nextMb ∧
    ∃ r, confinedReading config fuel streamId own stream nextMb = .ok r

/-- On the message alone the reader asks for another slot. The slots have room for a byte behind a
subheader. -/
def Escapes [DecidablePred own] : Prop :=
  8 < stream.base.stride ∧ InSlot own stream.base.stride nextMb ∧
    ∃ p, confinedReading config fuel streamId own stream nextMb = .error (.escaped p)

variable {shiftBeyond config fuel streamId own stream nextMb}

/-- What the callback does within own slots is framed. -/
theorem Framed.onFull {session₀ session : Session} {ub : UcdrBuffer} {index : UInt8}
    (h : Framed index own session₀ session)
    (hstride : 4 < (session₀.streams.inputReliable index).base.stride)
    (hcallback : ub.onFullBuffer ≠ none)
    (hnext : own (nextPosition (session.streams.inputReliable index).base ub)) :
    Framed index own session₀ ((slotsEnv shiftBeyond index).dev.onFull session ub).2.1 := by
  obtain ⟨session', hfull, hstream, hgiven⟩ :=
    (sessionSlots shiftBeyond index).chains session ub hcallback
  change session'.streams.inputReliable index = _ at hstream
  change session'.slotsGiven index = session.slotsGiven index ++ _ at hgiven
  change (slotsEnv shiftBeyond index).dev.onFull session ub = _ at hfull
  obtain ⟨hframe, positions, hpositions, hown⟩ := h
  have hstride' : 4 < (session.streams.inputReliable index).base.stride := by
    rw [ReliableStream.stride, hframe.size, hframe.history]
    exact hstride
  rw [hfull]
  refine ⟨?_, _, by rw [hgiven, hpositions, List.append_assoc], ?_⟩
  · rw [hstream]
    exact hframe.trans (frame_onFullInputBuffer hstride' hnext)
  · intro p hp
    rcases List.mem_append.mp hp with hold | hnew
    · exact hown p hold
    · split at hnew
      · cases hnew
      · rwa [List.mem_singleton.mp hnew]

variable [LawfulMicroCdr]

omit [LawfulMicroCdr] in
/-- What becomes of the stream and what the reader gets. -/
theorem GivesFragments.eq {stream' : InputReliableStream}
    (h : GivesFragments stream stream' nextMb) :
    stream' = { stream with
      base := setReliableBufferSize stream.base (seqNumAdd stream.lastHandled 1) 0
      lastHandled := stream'.lastHandled } ∧
    nextMb = (ucdrInitBuffer (getReliableBuffer stream.base (seqNumAdd stream.lastHandled 1) + 4)
      ((getReliableBufferSize stream.base (seqNumAdd stream.lastHandled 1) + 2 ^ 32 - 4) %
        2 ^ 32)).setOnFullBufferCallback (some .onFullInputBuffer) := by
  obtain ⟨hfragmented, fuel, ub, havailable⟩ := h
  rw [nextInputReliableBufferAvailable] at havailable
  dsimp only at havailable
  split at havailable
  · split at havailable
    · next hinfo => exact absurd hinfo hfragmented
    · obtain ⟨⟨found, last⟩, -, heq⟩ := Option.map_eq_some_iff.mp havailable
      cases found with
      | false => cases heq
      | true =>
        cases heq
        exact ⟨rfl, rfl⟩
  · cases havailable

omit [LawfulMicroCdr] in
/-- The size of the first slot is set to zero. -/
theorem GivesFragments.base {stream' : InputReliableStream}
    (h : GivesFragments stream stream' nextMb) : stream'.base =
      setReliableBufferSize stream.base (seqNumAdd stream.lastHandled 1) 0 :=
  congrArg InputReliableStream.base h.eq.1

omit [LawfulMicroCdr] in
theorem GivesFragments.history {stream' : InputReliableStream}
    (h : GivesFragments stream stream' nextMb) :
    stream'.base.history = stream.base.history := by
  rw [h.base]
  rfl

omit [LawfulMicroCdr] in
theorem GivesFragments.stride {stream' : InputReliableStream}
    (h : GivesFragments stream stream' nextMb) : stream'.base.stride = stream.base.stride := by
  rw [h.base]
  rfl

omit [LawfulMicroCdr] in
theorem GivesFragments.wellFormed {stream' : InputReliableStream}
    (h : GivesFragments stream stream' nextMb) (hwf : stream.base.WellFormed) :
    stream'.base.WellFormed := by
  rw [h.base]
  exact ⟨hwf.history, hwf.stride⟩

omit [MicroCdr] [LawfulMicroCdr] in
theorem messageSlots_iff (hwf : stream.base.WellFormed) (last : SeqNum) (p : Nat) :
    MessageSlots stream last p ↔ ∃ i, i < Serial.dist stream.lastHandled last ∧
      p = (stream.lastHandled.toNat + (i + 1)) % stream.base.history.toNat := by
  have hslot (i : Nat) : stream.base.slot (seqNumAdd stream.lastHandled (UInt16.ofNat (i + 1))) =
      (stream.lastHandled.toNat + (i + 1)) % stream.base.history.toNat := by
    rw [seqNumAdd_eq_ofNat, hwf.slot_ofNat]
  simp only [MessageSlots, hslot]

end

end XrceClient
