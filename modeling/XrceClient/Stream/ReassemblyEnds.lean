import XrceClient.Stream.Reassembly

/-!
# Putting messages together ends

A message that fits in the ring with all its fragments does not keep the walk over them going.

- `Closes`: no ring full of intermediate fragments was received.
- `HoldsReceived.takesUnits_isSome`: the loop over the messages comes to its end then.
- `HoldsReceived.takesOnReception_isSome`: so does reception.
-/

namespace XrceClient

open ByteMemory InputReliableStream

/-- Of `history` messages in a row, not all are intermediate fragments that were received. -/
def Closes (message : Nat → List UInt8) (history : Nat) (received : Nat → Prop) : Prop :=
  ∀ p, ∃ n, p < n ∧ n ≤ p + history ∧
    ¬ (received n ∧ messageKind (message n) = .intermediateFragment)

theorem Closes.mono {message : Nat → List UInt8} {history : Nat} {received received' : Nat → Prop}
    (h : Closes message history received') (hsub : ∀ n, received n → received' n) :
    Closes message history received := by
  intro p
  obtain ⟨n, h₁, h₂, hnot⟩ := h p
  exact ⟨n, h₁, h₂, fun hn => hnot ⟨hsub n hn.1, hn.2⟩⟩

section

variable [MicroCdr] [LawfulMicroCdr] {message : Nat → List UInt8} {stream : InputReliableStream}
  {handled : Nat} {received : Nat → Prop}

/-- The ring is not full of intermediate fragments. -/
theorem HoldsReceived.not_allWaiting (h : HoldsReceived message stream handled received)
    (hcloses : Closes message stream.base.history.toNat received) : ¬ AllWaiting stream := by
  intro hall
  obtain ⟨n, h₁, h₂, hnot⟩ := hcloses handled
  obtain ⟨hfilled, hinfo⟩ := hall (UInt16.ofNat n)
  obtain ⟨-, hkind⟩ := h.kind h₁ h₂ hfilled
  exact hnot ⟨(h.filled n h₁ h₂).mp hfilled, hkind.symm.trans hinfo⟩

/-- The search for the next message comes to its end. -/
theorem HoldsReceived.next_isSome (h : HoldsReceived message stream handled received)
    (hcloses : Closes message stream.base.history.toNat received) (ub : UcdrBuffer) :
    ∃ r, nextInputReliableBufferAvailable stream.base.history.toNat stream ub subheaderSize =
      some r := by
  have hwf := h.buffers.wellFormed
  refine Option.ne_none_iff_exists'.mp ?_
  intro hnone
  exact h.not_allWaiting hcloses
    ((nextInputReliableBufferAvailable_eq_none_iff hwf.history_dvd hwf.history_pos).mp hnone)

/-- So does the loop over the messages: each turn takes at least one out of the window. -/
theorem HoldsReceived.takesUnits_isSome (h : HoldsReceived message stream handled received)
    (hcloses : Closes message stream.base.history.toNat received) {fuel : Nat}
    (hleft : ∀ n, received n → n ≤ handled + fuel) : (nextUnits (fuel + 1) stream).isSome := by
  -- the turns that are left are as many as the messages that may be
  induction fuel generalizing stream handled with
  | zero =>
    obtain ⟨⟨available, stream₁, nextMb⟩, hnext⟩ := h.next_isSome hcloses (ucdrInitBuffer 0 0)
    rw [nextUnits, hnext]
    cases available with
    | false => rfl
    | true =>
      obtain ⟨count, htaken⟩ := h.takesUnit hnext
      have hpos := htaken.pos
      have hfirst := hleft _ (htaken.received (handled + 1) (Nat.lt_succ_self _) (by omega))
      omega
  | succ fuel ih =>
    obtain ⟨⟨available, stream₁, nextMb⟩, hnext⟩ := h.next_isSome hcloses (ucdrInitBuffer 0 0)
    rw [nextUnits, hnext]
    cases available with
    | false => rfl
    | true =>
      obtain ⟨count, htaken⟩ := h.takesUnit hnext
      have hpos := htaken.pos
      have hrest := ih htaken.holds (by rw [htaken.history]; exact hcloses) fun n hn => by
        have := hleft n hn
        omega
      obtain ⟨⟨units, last⟩, hunits⟩ := Option.isSome_iff_exists.mp hrest
      simp only [Option.bind_eq_bind, Option.bind_some, if_true]
      rw [hunits]
      rfl

/-- Reception of a message comes to its end, with all that it makes whole. -/
theorem HoldsReceived.takesOnReception_isSome (h : HoldsReceived message stream handled received)
    (hwaits : Waits message handled stream.base.history.toNat received) {seqNum : SeqNum}
    {msg : Datagram}
    (hmsg : stream.accepts seqNum = true →
      Storable stream msg ∧ message (arrival handled seqNum) = msg.bytes)
    (hcloses : Closes message stream.base.history.toNat fun n =>
      received n ∨ stream.accepts seqNum = true ∧ n = arrival handled seqNum) :
    (readStreamUnits (stream.base.history.toNat + 1) stream seqNum msg).isSome := by
  have hwf := h.buffers.wellFormed
  have hring := h.not_allWaiting (hcloses.mono fun n hn => .inl hn)
  -- nor is the ring full of them with the message in its slot
  have hadmits : stream.Admits seqNum msg := by
    intro hstores
    obtain ⟨hstorable, hmessage⟩ := hmsg hstores.1
    obtain ⟨hlt, hwindow⟩ := h.buffers.arrival_window hstores.1
    have hstored := h.store hlt hwindow hstorable hmessage
    rw [ofNat_arrival] at hstored
    refine hstored.not_allWaiting (hcloses.mono ?_)
    rintro n (hn | rfl)
    · exact .inl hn
    · exact .inr ⟨hstores.1, rfl⟩
  obtain ⟨r, hr, -⟩ := @receptionReturns_of_admits stream seqNum msg false _ (ucdrInitBuffer 0 0) 0
    hwf.history_dvd hwf.history_pos hring hadmits
  have hholds := h.receive (h.waits_drained hwaits) hmsg hr
  have hhistory := receiveReliableMessage_history hr
  rw [readStreamUnits, hr]
  cases hready : r.readyToRead with
  | false =>
    simp only [Option.bind_eq_bind, Option.bind_some, hready, Bool.false_eq_true, if_false]
    rfl
  | true =>
    have hloop : (nextUnits (stream.base.history.toNat + 1) r.stream).isSome := by
      refine hholds.takesUnits_isSome (by rw [hhistory]; exact hcloses) fun n hn => ?_
      have hbound := hholds.bounded n hn
      rw [hhistory] at hbound
      exact hbound
    obtain ⟨⟨units, last⟩, hunits⟩ := Option.isSome_iff_exists.mp hloop
    simp only [Option.bind_eq_bind, Option.bind_some, hready, if_true]
    rw [hunits]
    rfl

end

end XrceClient
