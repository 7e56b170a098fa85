import XrceClient.Session.EndToEnd
import XrceClient.Session.EntityCreation
import XrceClient.Session.Running

/-!
# A best-effort stream from end to end

An output best-effort stream, an input best-effort stream, and a channel between them that may lose,
duplicate and reorder messages. Nothing is acknowledged and nothing is sent again.

- `BestEffortLink`: the two streams, and what was sent and handed over so far.
- `BestEffortStep`: a call on one side, or a message that arrives.
- `BestEffortInv`: the number that the receiver keeps is that of the newest message it handed over.
- `best_effort_in_order`: messages are handed over in the order in which they were sent, each at most
  once; and it is said exactly which ones the receiver takes.
-/

namespace XrceClient

open ByteMemory

/-- Two ends of a best-effort stream and the channel between them. `newest` counts the messages up to
the last one that was handed over; no code sees it. -/
structure BestEffortLink where
  output : OutputBestEffortStream
  input : InputBestEffortStream
  data : List DataMessage
  sent : List (List UInt8)
  handed : List (List UInt8)
  newest : Nat

/-- The two ends before anything is sent. -/
def initialBestEffortLink (buffer : Memory) (size : Nat) (offset : UInt8) : BestEffortLink where
  output := initOutputBestEffortStream buffer size offset
  input := initInputBestEffortStream
  data := []
  sent := []
  handed := []
  newest := 0

/-- What a flush finds in the buffer, behind the room for the session's header. -/
def OutputBestEffortStream.contents (stream : OutputBestEffortStream) : List UInt8 :=
  read stream.buffer stream.offset.toNat (stream.writer - stream.offset.toNat)

section

variable [MicroCdr]

/-- One step of a link. -/
inductive BestEffortStep : BestEffortLink → BestEffortLink → Prop
  /-- The user gets room for a message behind the others that were not sent yet. -/
  | write (link : BestEffortLink) (size : Nat) (output : OutputBestEffortStream) (ub : UcdrBuffer)
      (hroom : prepareBestEffortBufferToWrite link.output size = some (output, ub)) :
      BestEffortStep link { link with output }
  /-- The user fills it in. -/
  | fill (link : BestEffortLink) (k : Nat) (bytes : List UInt8) :
      BestEffortStep link
        { link with
          output := { link.output with buffer := ByteMemory.write link.output.buffer k bytes } }
  /-- All that was written is sent as one message. -/
  | send (link : BestEffortLink) (output : OutputBestEffortStream) (next : NextBuffer)
      (hnext : prepareBestEffortBufferToSend link.output = (true, output, next)) :
      BestEffortStep link
        { link with
          output
          data := ⟨next.seqNum, link.output.contents, link.sent.length + 1⟩ :: link.data
          sent := link.sent ++ [link.output.contents] }
  /-- A message arrives that was on the way for at most `2^15` numbers. It stays on the channel, as
  it may arrive again. -/
  | deliver (link : BestEffortLink) (m : DataMessage) (hm : m ∈ link.data)
      (hdelay : link.sent.length ≤ m.sentAt + 32768) :
      BestEffortStep link
        (if (receiveBestEffortMessage link.input m.seqNum).1 then
          { link with
            input := (receiveBestEffortMessage link.input m.seqNum).2
            handed := link.handed ++ [m.bytes]
            newest := m.sentAt }
        else
          { link with input := (receiveBestEffortMessage link.input m.seqNum).2 })

/-- A link after any run. -/
def BestEffortReachable (buffer : Memory) (size : Nat) (offset : UInt8) : BestEffortLink → Prop :=
  Relation.ReflTransGen BestEffortStep (initialBestEffortLink buffer size offset)

end

/-- Messages are numbered in the order in which they are sent, and those that were handed over are
some of the first `newest`. -/
structure BestEffortInv (link : BestEffortLink) : Prop where
  lastSend : link.output.lastSend = UInt16.ofNat (65535 + link.sent.length)
  data : ∀ m ∈ link.data, ∃ k, m.seqNum = UInt16.ofNat (65536 + k) ∧
    link.sent[k]? = some m.bytes ∧ m.sentAt = k + 1
  lastHandled : link.input.lastHandled = UInt16.ofNat (65535 + link.newest)
  newest_le : link.newest ≤ link.sent.length
  handed : link.handed.Sublist (link.sent.take link.newest)

section

variable {link : BestEffortLink}

theorem bestEffortInv_initial (buffer : Memory) (size : Nat) (offset : UInt8) :
    BestEffortInv (initialBestEffortLink buffer size offset) where
  lastSend := rfl
  data := by
    intro m hm
    cases hm
  lastHandled := rfl
  newest_le := Nat.le_refl 0
  handed := List.nil_sublist _

/-- What is under way was sent with its number. -/
theorem BestEffortInv.sentAt (h : BestEffortInv link) {m : DataMessage} (hm : m ∈ link.data) :
    0 < m.sentAt ∧ m.sentAt ≤ link.sent.length ∧ m.seqNum = UInt16.ofNat (65535 + m.sentAt) ∧
      link.sent[m.sentAt - 1]? = some m.bytes := by
  obtain ⟨k, hseqNum, hk, hsentAt⟩ := h.data m hm
  obtain ⟨hlt, -⟩ := List.getElem?_eq_some_iff.mp hk
  rw [hsentAt]
  refine ⟨Nat.succ_pos k, hlt, ?_, hk⟩
  rw [hseqNum]
  congr 1
  omega

/-- A message is new to the receiver: it is behind all that were handed over, by less than half a turn
of the 16-bit numbers, or whole turns more. -/
def IsNew (link : BestEffortLink) (m : DataMessage) : Prop :=
  link.newest < m.sentAt ∧ 0 < (m.sentAt - link.newest) % 65536 ∧
    (m.sentAt - link.newest) % 65536 < 32768

/-- The receiver takes exactly the messages that are new to it. -/
theorem BestEffortInv.takes_iff (h : BestEffortInv link) {m : DataMessage} (hm : m ∈ link.data)
    (hdelay : link.sent.length ≤ m.sentAt + 32768) :
    (receiveBestEffortMessage link.input m.seqNum).1 = true ↔ IsNew link m := by
  obtain ⟨hpos, hle, hseqNum, -⟩ := h.sentAt hm
  have hnewest := h.newest_le
  have hcmp : 0 > seqNumCmp link.input.lastHandled m.seqNum ↔ IsNew link m := by
    rw [h.lastHandled, hseqNum, seqNumCmp_neg_iff, Serial.dist_eq, Serial.toNat_ofNat,
      Serial.toNat_ofNat]
    unfold IsNew seqNumMidsize
    omega
  rw [receiveBestEffortMessage, ← hcmp]
  split
  · next htaken => exact iff_of_true rfl htaken
  · next hdropped => exact iff_of_false Bool.false_ne_true hdropped

variable [MicroCdr]

/-- Room for a message moves the writer only. -/
theorem prepareBestEffortBufferToWrite_writer {stream stream' : OutputBestEffortStream} {size : Nat}
    {ub : UcdrBuffer} (h : prepareBestEffortBufferToWrite stream size = some (stream', ub)) :
    stream' = { stream with writer := stream.writer + size } := by
  unfold prepareBestEffortBufferToWrite at h
  dsimp only at h
  split at h
  · cases h
    rfl
  · cases h

/-- One step keeps the numbers in order. -/
theorem BestEffortInv.step {link' : BestEffortLink} (h : BestEffortInv link)
    (hstep : BestEffortStep link link') : BestEffortInv link' := by
  cases hstep with
  | write size output ub hroom =>
    rw [prepareBestEffortBufferToWrite_writer hroom]
    exact ⟨h.lastSend, h.data, h.lastHandled, h.newest_le, h.handed⟩
  | fill k bytes => exact ⟨h.lastSend, h.data, h.lastHandled, h.newest_le, h.handed⟩
  | send output next hnext =>
    have hcount := h.newest_le
    rw [prepareBestEffortBufferToSend] at hnext
    split at hnext
    · cases hnext
      have hlast : seqNumAdd link.output.lastSend 1 = UInt16.ofNat (65536 + link.sent.length) := by
        rw [h.lastSend, seqNumAdd_one]
        congr 1
        omega
      refine ⟨?_, ?_, h.lastHandled, ?_, ?_⟩
      · show seqNumAdd link.output.lastSend 1 = _
        rw [hlast, List.length_append, List.length_singleton]
        congr 1
        omega
      · intro m hm
        rcases List.mem_cons.mp hm with rfl | hold
        · exact ⟨link.sent.length, hlast, List.getElem?_concat_length, rfl⟩
        · obtain ⟨k, hseqNum, hk, hsentAt⟩ := h.data m hold
          obtain ⟨hlt, -⟩ := List.getElem?_eq_some_iff.mp hk
          exact ⟨k, hseqNum, by rwa [List.getElem?_append_left hlt], hsentAt⟩
      · show link.newest ≤ (link.sent ++ _).length
        rw [List.length_append]
        omega
      · show link.handed.Sublist ((link.sent ++ _).take link.newest)
        rw [List.take_append_of_le_length hcount]
        exact h.handed
    · cases hnext
  | deliver m hm hdelay =>
    have htakes := h.takes_iff hm hdelay
    have hreceive : receiveBestEffortMessage link.input m.seqNum =
        if 0 > seqNumCmp link.input.lastHandled m.seqNum then (true, { lastHandled := m.seqNum })
        else (false, link.input) := rfl
    split
    · next htaken =>
      obtain ⟨hnewer, -, -⟩ := htakes.mp htaken
      obtain ⟨hpos, hle, hseqNum, hbytes⟩ := h.sentAt hm
      refine ⟨h.lastSend, h.data, ?_, hle, ?_⟩
      · show (receiveBestEffortMessage link.input m.seqNum).2.lastHandled = _
        rw [hreceive] at htaken ⊢
        split
        · exact hseqNum
        · next hdropped =>
          rw [if_neg hdropped] at htaken
          cases htaken
      · -- the message is behind those that were handed over before
        show (link.handed ++ [m.bytes]).Sublist (link.sent.take m.sentAt)
        have hlast : link.sent.take m.sentAt = link.sent.take (m.sentAt - 1) ++ [m.bytes] := by
          obtain ⟨hlt, hget⟩ := List.getElem?_eq_some_iff.mp hbytes
          rw [← hget, ← List.take_succ_eq_append_getElem hlt, Nat.sub_add_cancel hpos]
        rw [hlast]
        refine List.Sublist.append (h.handed.trans ?_) (List.Sublist.refl _)
        exact List.IsPrefix.sublist (List.take_prefix_take_left (by omega))
    · next hdropped =>
      have hsame : (receiveBestEffortMessage link.input m.seqNum).2 = link.input := by
        rw [hreceive] at hdropped ⊢
        split
        · next htaken =>
          rw [if_pos htaken] at hdropped
          exact absurd rfl hdropped
        · rfl
      rw [hsame]
      exact ⟨h.lastSend, h.data, h.lastHandled, h.newest_le, h.handed⟩

theorem bestEffortReachable_inv {buffer : Memory} {size : Nat} {offset : UInt8}
    (hrun : BestEffortReachable buffer size offset link) : BestEffortInv link := by
  induction hrun with
  | refl => exact bestEffortInv_initial buffer size offset
  | tail _ hstep ih => exact ih.step hstep

end

/-- **Best effort, in order.** After any run, the messages that were handed over are some of those that
were sent, in the order in which they were sent and each at most once. Of the messages under way, the
receiver takes exactly those that are new to it. -/
theorem best_effort_in_order [MicroCdr] {buffer : Memory} {size : Nat} {offset : UInt8}
    {link : BestEffortLink} (hrun : BestEffortReachable buffer size offset link) :
    link.handed.Sublist link.sent ∧
      ∀ m ∈ link.data, link.sent.length ≤ m.sentAt + 32768 →
        ((receiveBestEffortMessage link.input m.seqNum).1 = true ↔ IsNew link m) := by
  have h := bestEffortReachable_inv hrun
  refine ⟨h.handed.trans (List.take_sublist _ _), ?_⟩
  intro m hm hdelay
  exact h.takes_iff hm hdelay

/-- Four bytes are written, filled in and sent. -/
def BestEffortLink.sendOne (link : BestEffortLink) (byte : UInt8) : BestEffortLink :=
  let output : OutputBestEffortStream := { link.output with
    writer := link.output.writer + 4, buffer := ByteMemory.write link.output.buffer 4 [byte] }
  { link with
    output := (prepareBestEffortBufferToSend output).2.1
    data := ⟨(prepareBestEffortBufferToSend output).2.2.seqNum, output.contents,
      link.sent.length + 1⟩ :: link.data
    sent := link.sent ++ [output.contents] }

theorem BestEffortLink.sendOne_reachable {link : BestEffortLink}
    (hrun : @BestEffortReachable referenceMicroCdr (fun _ => 0) 16 4 link)
    (hempty : link.output.writer = 4 ∧ link.output.size = 16 ∧ link.output.offset = 4)
    (byte : UInt8) : @BestEffortReachable referenceMicroCdr (fun _ => 0) 16 4 (link.sendOne byte) := by
  obtain ⟨hwriter, hsize, hoffset⟩ := hempty
  have hroom : ∃ ub, @prepareBestEffortBufferToWrite referenceMicroCdr link.output 4 =
      some ({ link.output with writer := link.output.writer + 4 }, ub) := by
    refine ⟨_, if_pos ?_⟩
    rw [hwriter, hsize]
    decide
  obtain ⟨ub, hub⟩ := hroom
  refine .tail (.tail (hrun.tail (@BestEffortStep.write referenceMicroCdr link 4 _ ub hub))
    (@BestEffortStep.fill referenceMicroCdr _ 4 [byte]))
    (@BestEffortStep.send referenceMicroCdr _ _ _ (Prod.ext ?_ rfl))
  rw [prepareBestEffortBufferToSend]
  dsimp only
  rw [if_pos]
  show link.output.writer + 4 > link.output.offset.toNat
  rw [hwriter, hoffset]
  decide

/-- Two messages are sent, and the second one overtakes the first one: it is handed over, and the
first one is not taken any more. -/
theorem best_effort_in_order_overtaken : ∃ link : BestEffortLink,
    @BestEffortReachable referenceMicroCdr (fun _ => 0) 16 4 link ∧
      link.handed = [[2, 0, 0, 0]] ∧ link.handed.Sublist link.sent ∧
      ¬ (receiveBestEffortMessage link.input 0).1 = true := by
  have hrun : @BestEffortReachable referenceMicroCdr (fun _ => 0) 16 4
      (((initialBestEffortLink (fun _ => 0) 16 4).sendOne 1).sendOne 2) :=
    (BestEffortLink.sendOne_reachable (BestEffortLink.sendOne_reachable .refl
      ⟨by decide, by decide, by decide⟩ 1) ⟨by decide +kernel, by decide +kernel, by decide +kernel⟩ 2)
  have hdata : (((initialBestEffortLink (fun _ => 0) 16 4).sendOne 1).sendOne 2).data =
      [⟨1, [2, 0, 0, 0], 2⟩, ⟨0, [1, 0, 0, 0], 1⟩] := rfl
  have hsecond : (⟨1, [2, 0, 0, 0], 2⟩ : DataMessage) ∈
      (((initialBestEffortLink (fun _ => 0) 16 4).sendOne 1).sendOne 2).data := by
    rw [hdata]
    exact List.mem_cons_self
  have hdelivered := hrun.tail (@BestEffortStep.deliver referenceMicroCdr _ _ hsecond (by decide))
  have htaken : (receiveBestEffortMessage
      (((initialBestEffortLink (fun _ => 0) 16 4).sendOne 1).sendOne 2).input 1).1 = true := by
    decide +kernel
  rw [if_pos htaken] at hdelivered
  obtain ⟨hsublist, htakes⟩ := @best_effort_in_order referenceMicroCdr _ _ _ _ hdelivered
  refine ⟨_, hdelivered, rfl, hsublist, ?_⟩
  have hfirst := htakes ⟨0, [1, 0, 0, 0], 1⟩ (by
    show _ ∈ (((initialBestEffortLink (fun _ => 0) 16 4).sendOne 1).sendOne 2).data
    rw [hdata]
    exact List.mem_cons_of_mem _ List.mem_cons_self) (by decide)
  rw [hfirst]
  rintro ⟨hnewer, -, -⟩
  exact absurd hnewer (by decide)

end XrceClient
