import XrceClient.Stream.OutputRuns

/-!
# Sending that fails (`output_reliable_stream.c`, `session.c`)

Flushing prepares the next message, and cancels it where the transport refuses it. Preparing opens
the next slot if the message is the last written one; cancelling takes from the slot behind the
message whether that was so.

- `cancelledSend`: a message that is prepared and at once cancelled.
- `GuessesRight`: the slot behind the message is empty if preparing opened it, and not empty if it
  was the open one before.
- `cancelledSend_restores_iff`: the stream is as it was exactly then.
- `guessesRight_iff_of_tracks`: without continuous fragmentation that is so unless the window is
  full.
-/

namespace XrceClient

open OutputReliableStream

namespace OutputReliableStream

/-- The stream after its next message was prepared and at once cancelled
(session.c:629–637). -/
def cancelledSend (stream : OutputReliableStream) : OutputReliableStream :=
  let (_, prepared, next) := prepareNextReliableBufferToSend stream
  cancelReliableBufferToSend prepared next.seqNum

/-- The three numbers and every slot are what they were. -/
structure AsItWas (stream stream' : OutputReliableStream) : Prop where
  lastSent : stream'.lastSent = stream.lastSent
  lastWritten : stream'.lastWritten = stream.lastWritten
  lastAcknown : stream'.lastAcknown = stream.lastAcknown
  base : stream'.base = stream.base

/-- The slot behind the next message is empty if the next message is the last written one, and it
is not empty if it is the slot of the last written one. -/
structure GuessesRight (stream : OutputReliableStream) : Prop where
  opened : stream.lastWritten = seqNumAdd stream.lastSent 1 →
    getReliableBufferSize stream.base (seqNumAdd (seqNumAdd stream.lastSent 1) 1) =
      stream.offset.toNat
  kept : stream.lastWritten = seqNumAdd (seqNumAdd stream.lastSent 1) 1 →
    getReliableBufferSize stream.base (seqNumAdd (seqNumAdd stream.lastSent 1) 1) ≠
      stream.offset.toNat

variable {stream : OutputReliableStream}

theorem seqNumAdd_one_ne (q : SeqNum) : seqNumAdd q 1 ≠ q := by
  rw [seqNumAdd_eq]
  intro h
  have hq := congrArg UInt16.toNat h
  rw [UInt16.toNat_add] at hq
  have := q.toNat_lt
  simp only [UInt16.reduceToNat] at hq
  omega

theorem seqNumSub_seqNumAdd_one (q : SeqNum) : seqNumSub (seqNumAdd q 1) 1 = q := by
  rw [seqNumAdd_eq, seqNumSub_eq]
  exact UInt16.add_sub_cancel q 1

/-- Only `lastWritten` may have changed. -/
theorem cancelledSend_eq (h : (prepareNextReliableBufferToSend stream).1 = true) :
    cancelledSend stream =
      let seqNum := seqNumAdd stream.lastSent 1
      let opened :=
        if seqNum = stream.lastWritten then seqNumAdd stream.lastWritten 1 else stream.lastWritten
      { stream with
        lastWritten :=
          if opened = seqNumAdd seqNum 1 ∧
              stream.offset.toNat = getReliableBufferSize stream.base (seqNumAdd seqNum 1) then
            seqNum
          else opened } := by
  have hdata := of_decide_eq_true h
  rw [cancelledSend, prepareNextReliableBufferToSend]
  dsimp only
  rw [if_pos hdata, cancelReliableBufferToSend]
  dsimp only
  rw [seqNumSub_seqNumAdd_one]

end OutputReliableStream

/-- **A failed send.** A message that is prepared and at once cancelled leaves the stream as it was
exactly if the slot behind it says rightly whether preparing opened it. -/
theorem cancelledSend_restores_iff {stream : OutputReliableStream}
    (h : (prepareNextReliableBufferToSend stream).1 = true) :
    AsItWas stream (cancelledSend stream) ↔ GuessesRight stream := by
  rw [cancelledSend_eq h]
  have hne := seqNumAdd_one_ne (seqNumAdd stream.lastSent 1)
  constructor
  · rintro ⟨-, hwritten, -, -⟩
    dsimp only at hwritten
    constructor
    · intro hlast
      rw [if_pos hlast.symm, hlast] at hwritten
      split at hwritten
      · next hguess => exact hguess.2.symm
      · exact absurd hwritten hne
    · intro hlast hempty
      have hother : ¬ seqNumAdd stream.lastSent 1 = stream.lastWritten := by
        rw [hlast]
        exact hne.symm
      rw [if_neg hother, if_pos ⟨hlast, hempty.symm⟩] at hwritten
      exact hother hwritten
  · rintro ⟨hopened, hkept⟩
    refine ⟨rfl, ?_, rfl, rfl⟩
    dsimp only
    by_cases hlast : seqNumAdd stream.lastSent 1 = stream.lastWritten
    · rw [if_pos hlast, if_pos ⟨by rw [hlast], (hopened hlast.symm).symm⟩]
      exact hlast
    · rw [if_neg hlast, if_neg]
      rintro ⟨hnext, hempty⟩
      exact hkept hnext hempty.symm

section

variable {H : Nat} {stream : OutputReliableStream} {win : OutputWindow H}

/-- Of a stream that only `uxr_prepare_reliable_buffer_to_write` writes to, the slot behind the
message says the truth unless the window is full, or the slot of the last written message was
opened and not closed again. -/
theorem guessesRight_iff_of_tracks (h : Tracks stream win)
    (hsent : (prepareNextReliableBufferToSend stream).1 = true) :
    GuessesRight stream ↔
      ¬ (win.written = win.sent + 1 ∧ win.written = win.acked + H) ∧
        ¬ (win.written = win.sent + 2 ∧ stream.slotSize win.written = stream.offset.toNat) := by
  have hH := h.history_le
  have hacked := win.acked_le_sent
  have hwritten := win.sent_lt_written
  have hbound := win.written_le
  obtain ⟨-, hroom, hcontents⟩ := (prepareNext_fst_cmp h).mp hsent
  have hsize (n : Nat) :
      getReliableBufferSize stream.base (UInt16.ofNat n) = stream.slotSize n := rfl
  have hcount {n : Nat} (h₁ : win.written ≤ n + 65535) (h₂ : n < win.written + 65536)
      (heq : UInt16.ofNat win.written = UInt16.ofNat n) : win.written = n := by
    rcases Nat.le_total win.written n with hle | hle
    · exact Serial.ofNat_inj_of_lt hle (by omega) heq
    · exact (Serial.ofNat_inj_of_lt hle (by omega) heq.symm).symm
  constructor
  · rintro ⟨hopened, hkept⟩
    rw [h.lastWritten, h.lastSent, seqNumAdd_one, seqNumAdd_one] at hopened hkept
    constructor
    · rintro ⟨hlast, hfull⟩
      -- behind a full window lies the slot of the first unacknowledged message
      have hempty := hopened (by rw [hlast])
      rw [hsize, show win.sent + 1 + 1 = win.acked + 1 + H by omega, h.slotSize_turn] at hempty
      rcases Nat.lt_or_ge (win.acked + 1) win.written with hlt | hge
      · have hfilled := h.filled (win.acked + 1) (by omega) hlt
        omega
      · rw [show win.sent + 1 = win.acked + 1 by omega] at hcontents
        omega
    · rintro ⟨hlast, hempty⟩
      rw [hlast] at hempty
      exact hkept (by rw [hlast]) hempty
  · rintro ⟨hroom', hclosed⟩
    constructor
    · intro hlast
      rw [h.lastWritten, h.lastSent, seqNumAdd_one] at hlast
      have hlast' := hcount (by omega) (by omega) hlast
      rw [h.lastSent, seqNumAdd_one, seqNumAdd_one, hsize]
      exact h.empty (win.sent + 1 + 1) (by omega) (by omega)
    · intro hlast
      rw [h.lastWritten, h.lastSent, seqNumAdd_one, seqNumAdd_one] at hlast
      have hlast' := hcount (by omega) (by omega) hlast
      rw [h.lastSent, seqNumAdd_one, seqNumAdd_one, hsize]
      intro hempty
      exact hclosed ⟨hlast', hlast' ▸ hempty⟩

end

/-! ## One message in flight, and one to send -/

/-- Of two slots, one holds a message in flight and the other one to send. -/
def oneToSend : OutputState := ((twoSlots.afterWrite 8).afterSend).afterWrite 8

theorem cancelledSend_restores_iff_twoSlots :
    AsItWas (twoSlots.afterWrite 8).stream (cancelledSend (twoSlots.afterWrite 8).stream) :=
  (cancelledSend_restores_iff (by decide +kernel)).mpr
    ⟨fun _ => by decide +kernel, fun h => absurd h (by decide +kernel)⟩

/-- With the window full, the number of the last written message stays behind the one whose send
failed. -/
theorem cancelledSend_full_window :
    @OutputReachable referenceMicroCdr (fun _ => 0) 64 2 8 oneToSend ∧
      (prepareNextReliableBufferToSend oneToSend.stream).1 = true ∧
        oneToSend.stream.lastWritten = 1 ∧ (cancelledSend oneToSend.stream).lastWritten = 2 := by
  refine ⟨?_, by decide +kernel, by decide +kernel, by decide +kernel⟩
  exact reachable_afterWrite
    (reachable_afterSend (reachable_afterWrite .refl (by decide))) (by decide)

end XrceClient
