import XrceClient.Session.EndToEnd
import XrceClient.Stream.ReassemblyEnds

/-!
# A reliable stream from end to end, with fragments

The link of an output reliable stream and an input reliable stream, for messages of any length. The
sender cuts long ones into fragments, each in a slot of its own; the receiver hands a message over
when all of its slots have arrived, to a reader that reads each message to its end. That a session
with such readers is at the end of such a link is `FragmentInv.readStream_step`.

- `Orderly`: what the slots hold that are sent: whole messages, and fragments one behind the other.
- `FragmentStep`: a call on one side, or a message that arrives.
- `SenderInv`, `ReceiverInv`, `FragmentInv`: what holds at the two ends, and between them.
- `fragments_end_to_end`: what was handed over are the messages that the sent slots make up, up to
  some slot, and every slot behind that one is still at one of the two ends.
-/

namespace XrceClient

open ByteMemory InputReliableStream OutputReliableStream

/-- The contents of slots that are sent one after the other: a fragment has a payload, no whole
message follows on an intermediate fragment, and the fragments of a message fit in a ring of
`history` slots. -/
structure Orderly (history : Nat) (sent : List (List UInt8)) : Prop where
  payload : ∀ bytes ∈ sent, messageKind bytes ≠ .noFragmented → 4 < bytes.length
  chained : ∀ (k : Nat) (bytes bytes' : List UInt8), sent[k]? = some bytes →
    sent[k + 1]? = some bytes' → messageKind bytes = .intermediateFragment →
      messageKind bytes' ≠ .noFragmented
  closes : ∀ k : Nat, k + history ≤ sent.length → ∃ (i : Nat) (bytes : List UInt8), i < history ∧
    sent[k + i]? = some bytes ∧ messageKind bytes ≠ .intermediateFragment

section

variable [MicroCdr] (shiftBeyond : Nat → UInt16)

/-- One step of a link. -/
inductive FragmentStep : Link → Link → Prop
  /-- The user asks for room for a message of any length. -/
  | write (link : Link) (length : Nat) (ub : UcdrBuffer) :
      FragmentStep link
        { link with output := (prepareReliableBufferToWrite link.output length ub).2.1 }
  /-- The user fills in a message that is not sent yet. -/
  | fill (link : Link) (seqNum : SeqNum) (k : Nat) (bytes : List UInt8)
      (hunsent : Serial.dist link.output.lastAcknown link.output.lastSent <
        Serial.dist link.output.lastAcknown seqNum)
      (hwritten : Serial.dist link.output.lastAcknown seqNum ≤
        link.output.base.history.toNat)
      (hfit : k + bytes.length ≤ getReliableBufferCapacity link.output.base) :
      FragmentStep link
        { link with
          output := { link.output with base := link.output.base.storeBytes seqNum k bytes } }
  /-- The next slot is sent: a whole message, or the next fragment of one. -/
  | send (link : Link) (stream : OutputReliableStream) (next : NextBuffer)
      (hnext : prepareNextReliableBufferToSend link.output = (true, stream, next))
      (horderly : Orderly link.output.base.history.toNat
        (link.sent ++ [messageContents stream next])) :
      FragmentStep link
        { link with
          output := stream
          data := ⟨next.seqNum, messageContents stream next, link.sent.length + 1⟩ :: link.data
          sent := link.sent ++ [messageContents stream next] }
  /-- A message arrives that was on the way for at most `2^15` numbers. It stays on the
  channel, as it may arrive again. What is handed over is read to its end. It is answered. -/
  | deliver (link : Link) (m : DataMessage) (hm : m ∈ link.data)
      (hdelay : link.sent.length ≤ m.sentAt + 32768) (msg : Datagram) (hbytes : msg.bytes = m.bytes)
      (units : List (List UInt8)) (input : InputReliableStream)
      (hread : readStreamUnits (link.input.base.history.toNat + 1) link.input m.seqNum msg =
        some (units, input)) :
      FragmentStep link
        { link with
          input
          acknacks := link.acknacks ++ [computeAcknack shiftBeyond input]
          handed := link.handed ++ units }
  /-- The sender says what it has sent. -/
  | heartbeat (link : Link) :
      FragmentStep link
        { link with
          heartbeats := link.heartbeats ++
            [(seqNumAdd link.output.lastAcknown 1, link.output.lastSent)] }
  /-- A HEARTBEAT arrives, and is answered. -/
  | takeHeartbeat (link : Link) (first last : SeqNum) (rest : List (SeqNum × SeqNum))
      (hhead : link.heartbeats = (first, last) :: rest) :
      FragmentStep link
        { link with
          input := processHeartbeat link.input first last
          heartbeats := rest
          acknacks := link.acknacks ++
            [computeAcknack shiftBeyond (processHeartbeat link.input first last)] }
  /-- An ACKNACK arrives, and what is lost is sent again. -/
  | takeAcknack (link : Link) (first : SeqNum) (bitmap : UInt16)
      (rest : List (SeqNum × UInt16)) (hhead : link.acknacks = (first, bitmap) :: rest) :
      FragmentStep link
        { link with
          output := (sendLostMessages (processAcknack link.output bitmap first)).2
          acknacks := rest
          data := (sendLostMessages (processAcknack link.output bitmap first)).1.map
            (fun next => ⟨next.seqNum,
              messageContents (processAcknack link.output bitmap first) next,
              link.sent.length⟩) ++ link.data }
  | loseHeartbeats (link : Link) (heartbeats : List (SeqNum × SeqNum))
      (hlost : heartbeats.Sublist link.heartbeats) : FragmentStep link { link with heartbeats }
  | loseAcknacks (link : Link) (acknacks : List (SeqNum × UInt16))
      (hlost : acknacks.Sublist link.acknacks) : FragmentStep link { link with acknacks }

end

/-! ## What a step keeps -/

/-- The contents that were sent with the number of a count. -/
def messageAt (sent : List (List UInt8)) (n : Nat) : List UInt8 := (sentMessage sent n).getD []

/-- The sender's window is over the contents that were sent, and so are the messages under way. -/
structure SenderInv {H : Nat} (link : Link) (win : OutputWindow H) : Prop where
  represents : Represents link.output win
  started : 65535 ≤ win.acked
  sentCount : win.sent = 65535 + link.sent.length
  contents : ∀ n, win.acked < n → n ≤ win.sent →
    sentMessage link.sent n = some (link.output.slotContents n)
  bounded : ∀ bytes ∈ link.sent, 1 ≤ bytes.length ∧
    bytes.length + 4 ≤ link.output.base.stride ∧ bytes.length < 2 ^ 32
  orderly : Orderly H link.sent
  data : ∀ m ∈ link.data, ∃ k, m.seqNum = UInt16.ofNat (65536 + k) ∧
    link.sent[k]? = some m.bytes ∧ m.sentAt ≤ k + H

/-- The receiver has consumed the first slots that were sent, and has all of them up to the
`first`-th. The other ones that it received are in its slots. -/
structure ReceiverInv [MicroCdr] (link : Link) (H consumed first : Nat) (received : Nat → Prop) :
    Prop where
  history : link.input.base.history.toNat = H
  holds : HoldsReceived (messageAt link.sent) link.input (65535 + consumed) received
  waits : Waits (messageAt link.sent) (65535 + consumed) H received
  known : ∀ n, received n → 65536 ≤ n ∧ n < 65536 + link.sent.length
  handled : ∀ n, 65536 ≤ n → n ≤ 65535 + consumed → received n
  assembles : Assembles (link.sent.take consumed) link.handed
  missing : FirstMissing (65535 + consumed) received (first + 1)

/-- The two ends, and what is acknowledged between them. -/
structure FragmentInv [MicroCdr] {H : Nat} (link : Link) (win : OutputWindow H)
    (consumed first : Nat) (received : Nat → Prop) : Prop where
  sender : SenderInv link win
  receiver : ReceiverInv link H consumed first received
  stride : link.input.base.stride = link.output.base.stride
  acknacks : AcknacksInOrder win.acked first link.acknacks

/-! ### What was sent -/

section

variable {history : Nat} {sent : List (List UInt8)}

theorem messageAt_add (sent : List (List UInt8)) (k : Nat) :
    messageAt sent (65536 + k) = sent[k]?.getD [] := by
  rw [messageAt, sentMessage, Nat.add_sub_cancel_left]

theorem messageAt_eq {k : Nat} {bytes : List UInt8} (h : sent[k]? = some bytes) :
    messageAt sent (65536 + k) = bytes := by
  rw [messageAt_add, h]
  rfl

/-- What was sent stays what it is. -/
theorem messageAt_append {n : Nat} (h₁ : 65536 ≤ n) (h₂ : n < 65536 + sent.length)
    (bytes : List UInt8) : messageAt (sent ++ [bytes]) n = messageAt sent n := by
  obtain ⟨k, rfl⟩ := Nat.exists_eq_add_of_le h₁
  rw [messageAt_add, messageAt_add, List.getElem?_append_left (by omega)]

/-- The messages behind the first ones. -/
theorem following_messageAt {consumed count : Nat} (hle : consumed + count ≤ sent.length) :
    sent.take consumed ++ following (messageAt sent) (65535 + consumed) count =
      sent.take (consumed + count) := by
  induction count with
  | zero => exact List.append_nil _
  | succ count ih =>
    have hlt : consumed + count < sent.length := by omega
    have hlast : messageAt sent (65535 + consumed + 1 + count) = sent[consumed + count] := by
      rw [show 65535 + consumed + 1 + count = 65536 + (consumed + count) by omega]
      exact messageAt_eq (List.getElem?_eq_getElem hlt)
    have hnext : following (messageAt sent) (65535 + consumed) (count + 1) =
        following (messageAt sent) (65535 + consumed) count ++ [sent[consumed + count]] := by
      rw [following, List.range_succ, List.map_append, List.map_singleton, hlast]
      rfl
    rw [hnext, ← List.append_assoc, ih (by omega), ← Nat.add_assoc,
      List.take_succ_eq_append_getElem hlt]

/-- Among messages that were sent, no whole one follows on an intermediate fragment. -/
theorem Orderly.chained_messageAt (h : Orderly history sent) {received : Nat → Prop}
    (hknown : ∀ n, received n → 65536 ≤ n ∧ n < 65536 + sent.length) :
    Chained (messageAt sent) received := by
  intro n hn hnext hkind
  obtain ⟨h₁, -⟩ := hknown n hn
  obtain ⟨-, h₂⟩ := hknown (n + 1) hnext
  obtain ⟨k, rfl⟩ := Nat.exists_eq_add_of_le h₁
  have hk := List.getElem?_eq_getElem (show k < sent.length by omega)
  have hk' := List.getElem?_eq_getElem (show k + 1 < sent.length by omega)
  rw [messageAt_eq hk] at hkind
  rw [Nat.add_assoc, messageAt_eq hk']
  exact h.chained k _ _ hk hk' hkind

/-- A message has not more fragments than the ring has slots. -/
theorem Orderly.closes_messageAt (h : Orderly history sent) (hpos : 0 < history)
    {received : Nat → Prop} (hknown : ∀ n, received n → 65536 ≤ n ∧ n < 65536 + sent.length) :
    Closes (messageAt sent) history received := by
  intro p
  by_contra hall
  -- otherwise all of them were sent, and are intermediate fragments
  have hfull (n : Nat) (h₁ : p < n) (h₂ : n ≤ p + history) :
      received n ∧ messageKind (messageAt sent n) = .intermediateFragment := by
    by_contra hnot
    exact hall ⟨n, h₁, h₂, hnot⟩
  obtain ⟨hfirst, -⟩ := hknown _ (hfull (p + 1) (Nat.lt_succ_self p) (by omega)).1
  obtain ⟨-, hlast⟩ := hknown _ (hfull (p + history) (by omega) (Nat.le_refl _)).1
  obtain ⟨k, hk⟩ := Nat.exists_eq_add_of_le hfirst
  obtain ⟨i, bytes, hi, hbytes, hkind⟩ := h.closes k (by omega)
  refine hkind ?_
  rw [← messageAt_eq hbytes]
  exact (hfull _ (by omega) (by omega)).2

end

/-! ### What the receiver holds -/

section

variable [MicroCdr] {message message' : Nat → List UInt8} {stream : InputReliableStream}
  {handled history : Nat} {received : Nat → Prop}

/-- Only the messages that were received matter. -/
theorem HoldsReceived.of_agree (h : HoldsReceived message stream handled received)
    (hagree : ∀ n, received n → message' n = message n) :
    HoldsReceived message' stream handled received := by
  have hbuffers := h.buffers
  refine ⟨⟨hbuffers.wellFormed, hbuffers.lastHandled, hbuffers.fits, ?_⟩, h.callback, h.filled,
    h.bounded, ?_⟩
  · intro n h₁ h₂ hfilled
    rw [hagree n ((h.filled n h₁ h₂).mp hfilled)]
    exact hbuffers.held n h₁ h₂ hfilled
  · intro n hreceived hkind
    rw [hagree n hreceived] at hkind ⊢
    exact h.payload n hreceived hkind

omit [MicroCdr] in
theorem Waits.of_agree (h : Waits message handled history received)
    (hagree : ∀ n, received n → message' n = message n) :
    Waits message' handled history received := by
  refine ⟨h.missing, ?_⟩
  intro n hn hall
  rw [hagree n (hall n hn (Nat.le_refl n))]
  exact h.opened n hn hall

variable {link : Link} {H consumed first : Nat}

/-- All slots up to the first missing one were received. -/
theorem ReceiverInv.received_of_le (h : ReceiverInv link H consumed first received) {n : Nat}
    (h₁ : 65536 ≤ n) (h₂ : n ≤ first) : received n := by
  rcases Nat.lt_or_ge (65535 + consumed) n with hbehind | hbefore
  · exact h.missing.least n hbehind (by omega)
  · exact h.handled n h₁ hbefore

theorem ReceiverInv.consumed_le_first (h : ReceiverInv link H consumed first received) :
    65535 + consumed ≤ first := by
  have := h.missing.behind
  omega

/-- They were sent. -/
theorem ReceiverInv.first_le (h : ReceiverInv link H consumed first received) :
    first ≤ 65535 + link.sent.length := by
  have hle := h.consumed_le_first
  rcases Nat.lt_or_ge first 65536 with hnone | hsome
  · omega
  · obtain ⟨-, hlt⟩ := h.known first (h.received_of_le hsome (Nat.le_refl _))
    omega

/-- The ACKNACK asks for the first missing slot. -/
theorem ReceiverInv.computeAcknack_fst (h : ReceiverInv link H consumed first received)
    (shiftBeyond : Nat → UInt16) :
    (computeAcknack shiftBeyond link.input).1 = UInt16.ofNat (first + 1) := by
  refine h.holds.getFirstUnacked_eq h.missing ?_
  obtain ⟨n, h₁, h₂, hmissing⟩ := h.waits.missing
  rw [h.history]
  by_contra hbeyond
  exact hmissing (h.missing.least n h₁ (by omega))

/-- So the acknowledgements on the way stay in order. -/
theorem ReceiverInv.push_acknack {link' : Link} {consumed' first' acked : Nat}
    {received' : Nat → Prop} (h : ReceiverInv link' H consumed' first' received')
    (shiftBeyond : Nat → UInt16) {acknacks : List (SeqNum × UInt16)}
    (hacknacks : AcknacksInOrder acked first acknacks) (hle : first ≤ first') :
    AcknacksInOrder acked first' (acknacks ++ [computeAcknack shiftBeyond link'.input]) := by
  have hnumber := h.computeAcknack_fst shiftBeyond
  have hack : computeAcknack shiftBeyond link'.input =
      (UInt16.ofNat (first' + 1), (computeAcknack shiftBeyond link'.input).2) := by
    rw [← hnumber]
  rw [hack]
  exact hacknacks.push hle _

end

/-! ### The sender's steps -/

section

variable {H : Nat} {link : Link} {win : OutputWindow H}

/-- The sender's buffer changes, but for the slots that are sent and unacknowledged. -/
theorem SenderInv.withOutput (h : SenderInv link win) {output : OutputReliableStream}
    {win' : OutputWindow H} (hrep : Represents output win')
    (hshape : SameShape link.output output) (hsent : win'.sent = win.sent)
    (hacked : win'.acked = win.acked)
    (huntouched : ∀ n, win.acked < n → n ≤ win.sent →
      OutputReliableStream.Untouched link.output output n) :
    SenderInv { link with output } win' where
  represents := hrep
  started := hacked ▸ h.started
  sentCount := hsent.trans h.sentCount
  contents n h₁ h₂ := by
    rw [hacked] at h₁
    rw [hsent] at h₂
    rw [h.contents n h₁ h₂]
    exact congrArg some
      (slotContents_untouched h.represents.tracks hshape (huntouched n h₁ h₂)).symm
  bounded bytes hbytes := by
    show 1 ≤ bytes.length ∧ bytes.length + 4 ≤ output.base.stride ∧ bytes.length < 2 ^ 32
    rw [hshape.stride]
    exact h.bounded bytes hbytes
  orderly := h.orderly
  data := h.data

/-- The user writes a message: its slots are behind those that are sent. -/
theorem SenderInv.write [MicroCdr] [LawfulMicroCdr] (h : SenderInv link win) (length : Nat)
    (ub : UcdrBuffer) :
    ∃ win' : OutputWindow H,
      SenderInv { link with output := (prepareReliableBufferToWrite link.output length ub).2.1 }
        win' ∧ win'.acked = win.acked ∧
        SameShape link.output (prepareReliableBufferToWrite link.output length ub).2.1 := by
  have hrep := h.represents.tracks
  have hsent := win.sent_lt_written
  rcases tracks_write hrep length ub with ⟨-, hsame⟩ |
    ⟨-, first, written, hle, hwin, hfirst, hrep', hrw⟩
  · rw [hsame]
    exact ⟨win, h, rfl, SameShape.refl _⟩
  · refine ⟨_, h.withOutput (hrep'.represents h.represents.history_le) hrw.shape rfl rfl ?_, rfl,
      hrw.shape⟩
    intro n h₁ h₂
    exact hrw.untouched_before hrep hwin h₁ (by omega)

/-- A slot goes out for the first time. -/
theorem SenderInv.send (h : SenderInv link win) {stream : OutputReliableStream}
    {next : NextBuffer}
    (hnext : prepareNextReliableBufferToSend link.output = (true, stream, next))
    (horderly : Orderly H (link.sent ++ [messageContents stream next])) :
    ∃ win' : OutputWindow H,
      SenderInv
        { link with
          output := stream
          data := ⟨next.seqNum, messageContents stream next, link.sent.length + 1⟩ :: link.data
          sent := link.sent ++ [messageContents stream next] } win' ∧
        win'.acked = win.acked ∧ stream.base = link.output.base := by
  have hrep := h.represents.tracks
  have hfst : (prepareNextReliableBufferToSend link.output).1 = true := congrArg Prod.fst hnext
  have hstream : (prepareNextReliableBufferToSend link.output).2.1 = stream :=
    congrArg (fun r => r.2.1) hnext
  have hbase : stream.base = link.output.base := hstream ▸ prepareNext_base
  have hoffset : stream.offset = link.output.offset := by
    rw [← hstream, prepareNextReliableBufferToSend]
    dsimp only
    split <;> rfl
  obtain ⟨hlt, hfilled⟩ := (prepareNext_fst h.represents).mp hfst
  obtain ⟨_, hrep'⟩ := tracks_prepareNext hrep hfst
  rw [hstream] at hrep'
  obtain rfl : next = _ := (congrArg (fun r => r.2.2) hnext).symm.trans (prepareNext_nextBuffer hrep)
  have hslot (n : Nat) : stream.slotContents n = link.output.slotContents n := by
    rw [slotContents, slotContents, OutputReliableStream.slotSize, OutputReliableStream.slotSize,
      hbase, hoffset]
  have hcontents : messageContents stream
      { buffer := getReliableBuffer link.output.base (UInt16.ofNat (win.sent + 1))
        length := link.output.slotSize (win.sent + 1)
        seqNum := UInt16.ofNat (win.sent + 1) } = link.output.slotContents (win.sent + 1) := by
    rw [messageContents, hbase, hoffset]
    rfl
  rw [hcontents] at horderly ⊢
  have hlength : (link.output.slotContents (win.sent + 1)).length =
      link.output.slotSize (win.sent + 1) - link.output.offset.toNat := read_length _ _ _
  have hbounded := hrep.bounded (win.sent + 1)
  have hcapacity := hrep.formed.capacity_lt
  have hstride := hrep.formed.capacity_eq
  have hcount := h.sentCount
  refine ⟨win.sendNext hlt, ⟨hrep'.represents h.represents.history_le, h.started, ?_, ?_, ?_,
    horderly, ?_⟩, rfl, hbase⟩
  · rw [List.length_append, List.length_singleton]
    simp only [OutputWindow.sendNext]
    omega
  · intro n h₁ h₂
    simp only [OutputWindow.sendNext] at h₁ h₂
    rw [hslot]
    -- the slot that is sent now, or an earlier one
    rcases Nat.lt_or_ge win.sent n with hnew | hold
    · obtain rfl : n = win.sent + 1 := by omega
      rw [sentMessage, show win.sent + 1 - 65536 = link.sent.length from by omega,
        List.getElem?_concat_length]
    · exact sentMessage_append (h.contents n h₁ hold)
  · intro bytes hbytes
    rw [hbase]
    rcases List.mem_append.mp hbytes with hold | hnew
    · exact h.bounded bytes hold
    · rw [List.mem_singleton.mp hnew]
      exact ⟨by omega, by omega, by omega⟩
  · intro m hm
    have hH := hrep.history_pos
    rcases List.mem_cons.mp hm with rfl | hold
    · refine ⟨link.sent.length, ?_, List.getElem?_concat_length, by dsimp only; omega⟩
      rw [show win.sent + 1 = 65536 + link.sent.length from by omega]
    · obtain ⟨k, hseqNum, hk, hage⟩ := h.data m hold
      obtain ⟨hklt, -⟩ := List.getElem?_eq_some_iff.mp hk
      exact ⟨k, hseqNum, by rwa [List.getElem?_append_left hklt], hage⟩

/-- An ACKNACK within the window arrives. -/
theorem SenderInv.takeAcknack (h : SenderInv link win) {count : Nat} (bitmap : UInt16)
    (hacked : win.acked ≤ count) (hcount : count ≤ win.sent) (acknacks : List (SeqNum × UInt16)) :
    ∃ win' : OutputWindow H,
      SenderInv
        { link with
          output := (sendLostMessages
            (processAcknack link.output bitmap (UInt16.ofNat (count + 1)))).2
          acknacks
          data := (sendLostMessages
              (processAcknack link.output bitmap (UInt16.ofNat (count + 1)))).1.map
            (fun next => ⟨next.seqNum,
              messageContents (processAcknack link.output bitmap (UInt16.ofNat (count + 1))) next,
              link.sent.length⟩) ++ link.data } win' ∧
        win'.acked = count ∧
        SameShape link.output (sendLostMessages
          (processAcknack link.output bitmap (UInt16.ofNat (count + 1)))).2 := by
  have hrep := h.represents.tracks
  have hsentCount := h.sentCount
  have hstarted := h.started
  have hwritten := win.sent_lt_written
  have hle := win.written_le
  obtain ⟨k, rfl⟩ := Nat.exists_eq_add_of_le hacked
  have hrep' := tracks_processAcknack hrep bitmap hcount
  have hprocessed := processAcknack_eq hrep bitmap hcount
  have hshape : SameShape link.output
      (processAcknack link.output bitmap (UInt16.ofNat (win.acked + k + 1))) := by
    have hclean := sameShape_cleanBuffers k link.output
    rw [hprocessed]
    exact ⟨hclean.size, hclean.history, hclean.offset⟩
  have hcontents : ∀ n, win.acked + k < n → n ≤ win.sent →
      (processAcknack link.output bitmap (UInt16.ofNat (win.acked + k + 1))).slotContents n =
        link.output.slotContents n := by
    intro n h₁ h₂
    refine slotContents_untouched hrep hshape ?_
    rw [hprocessed]
    exact cleanBuffers_untouched hrep k hcount h₁ (by omega)
  generalize processAcknack link.output bitmap (UInt16.ofNat (win.acked + k + 1)) = processed
    at hrep' hshape hcontents
  have hshape' : SameShape link.output (sendLostMessages processed).2 := by
    rw [sendLostMessages_stream]
    exact ⟨hshape.size, hshape.history, hshape.offset⟩
  refine ⟨win.acknowledge (win.acked + k) hacked hcount, ⟨?_, Nat.le_trans h.started hacked,
    h.sentCount, ?_, ?_, h.orderly, ?_⟩, rfl, hshape'⟩
  · rw [sendLostMessages_stream]
    exact (tracks_sendLost hrep' false).represents h.represents.history_le
  · intro n h₁ h₂
    simp only [OutputWindow.acknowledge] at h₁ h₂
    rw [h.contents n (by omega) h₂, sendLostMessages_stream]
    exact congrArg some (hcontents n h₁ h₂).symm
  · intro bytes hbytes
    show 1 ≤ bytes.length ∧ bytes.length + 4 ≤ (sendLostMessages processed).2.base.stride ∧
      bytes.length < 2 ^ 32
    rw [hshape'.stride]
    exact h.bounded bytes hbytes
  · intro m hm
    -- a message that is sent again, or one that is under way
    rcases List.mem_append.mp hm with hlost | hold
    · obtain ⟨next, hnext, rfl⟩ := List.mem_map.mp hlost
      obtain ⟨n, h₁, h₂, rfl⟩ := mem_sendLostMessages hrep' hnext
      simp only [OutputWindow.acknowledge] at h₁ h₂
      have hsent := h.contents n (by omega) h₂
      obtain ⟨j, rfl⟩ := Nat.exists_eq_add_of_le (show 65536 ≤ n by omega)
      refine ⟨j, rfl, ?_, by dsimp only; omega⟩
      rw [sentMessage, Nat.add_sub_cancel_left] at hsent
      rw [hsent, ← hcontents _ h₁ h₂]
      rfl
    · exact h.data m hold

end

/-! ### The receiver's steps -/

section

variable [MicroCdr] {link : Link} {H consumed first : Nat} {received : Nat → Prop}

/-- What the receiver holds does not depend on what is sent behind it. -/
theorem ReceiverInv.grow (h : ReceiverInv link H consumed first received) (bytes : List UInt8)
    (output : OutputReliableStream) (data : List DataMessage) :
    ReceiverInv { link with output, data, sent := link.sent ++ [bytes] } H consumed first received
    where
  history := h.history
  holds := h.holds.of_agree fun n hn => messageAt_append (h.known n hn).1 (h.known n hn).2 bytes
  waits := h.waits.of_agree fun n hn => messageAt_append (h.known n hn).1 (h.known n hn).2 bytes
  known n hn := by
    obtain ⟨h₁, h₂⟩ := h.known n hn
    rw [List.length_append]
    exact ⟨h₁, by omega⟩
  handled := h.handled
  assembles := by
    have hconsumed := h.consumed_le_first
    have hsent := h.first_le
    rw [List.take_append_of_le_length (by omega)]
    exact h.assembles
  missing := h.missing

/-- A HEARTBEAT changes what is announced only. -/
theorem ReceiverInv.takeHeartbeat (h : ReceiverInv link H consumed first received)
    (firstSeqNum last : SeqNum) (heartbeats : List (SeqNum × SeqNum))
    (acknacks : List (SeqNum × UInt16)) :
    ReceiverInv
      { link with input := processHeartbeat link.input firstSeqNum last, heartbeats, acknacks } H
      consumed first received := by
  obtain ⟨lastAnnounced, heq⟩ := announce_eq link.input last
  refine ⟨?_, h.holds.announce last, h.waits, h.known, h.handled, h.assembles, h.missing⟩
  show (link.input.announce last).base.history.toNat = H
  rw [heq]
  exact h.history

/-- The count of a message that is accepted is the one that it was sent with. -/
theorem ReceiverInv.arrival_eq (h : ReceiverInv link H consumed first received) (hH : H ≤ 16384)
    {k : Nat} (hlate : link.sent.length ≤ k + H + 32768) (hearly : k ≤ consumed + 2 * H)
    (haccepts : link.input.accepts (UInt16.ofNat (65536 + k)) = true) :
    arrival (65535 + consumed) (UInt16.ofNat (65536 + k)) = 65536 + k := by
  have hconsumed := h.consumed_le_first
  have hsent := h.first_le
  have hhistory := h.history
  obtain ⟨hlt, hwindow⟩ := h.holds.buffers.arrival_window haccepts
  have hnumber := ofNat_arrival (65535 + consumed) (UInt16.ofNat (65536 + k))
  generalize arrival (65535 + consumed) (UInt16.ofNat (65536 + k)) = n at hlt hwindow hnumber
  rcases Nat.le_total n (65536 + k) with hle | hle
  · exact Serial.ofNat_inj_of_lt hle (by omega) hnumber
  · exact (Serial.ofNat_inj_of_lt hle (by omega) hnumber.symm).symm

end

/-! ### The steps -/

section

variable [MicroCdr] {H : Nat} {link : Link} {win : OutputWindow H} {consumed first : Nat}
  {received : Nat → Prop}

/-- What arrives at the receiver is what was sent with its number. -/
theorem FragmentInv.arrives (h : FragmentInv link win consumed first received) {m : DataMessage}
    (hm : m ∈ link.data) (hdelay : link.sent.length ≤ m.sentAt + 32768) {msg : Datagram}
    (hbytes : msg.bytes = m.bytes) :
    (link.input.accepts m.seqNum = true → Storable link.input msg ∧
      messageAt link.sent (arrival (65535 + consumed) m.seqNum) = msg.bytes) ∧
    ∀ n, received n ∨ link.input.accepts m.seqNum = true ∧
        n = arrival (65535 + consumed) m.seqNum →
      65536 ≤ n ∧ n < 65536 + link.sent.length := by
  have hH := h.sender.represents.history_le
  have hhistory := h.sender.represents.tracks.history
  have hsent := win.sent_lt_written
  have hwritten := win.written_le
  have hcount := h.sender.sentCount
  have hacked := h.acknacks.acked_le
  have hbehind := h.receiver.missing.behind
  have hwindow : first ≤ 65535 + consumed + H := by
    obtain ⟨n, h₁, h₂, hmissing⟩ := h.receiver.waits.missing
    by_contra hbeyond
    exact hmissing (h.receiver.missing.least n h₁ (by omega))
  obtain ⟨k, hseqNum, hk, hage⟩ := h.sender.data m hm
  obtain ⟨hklt, -⟩ := List.getElem?_eq_some_iff.mp hk
  have harrival (haccepts : link.input.accepts m.seqNum = true) :
      arrival (65535 + consumed) m.seqNum = 65536 + k := by
    rw [hseqNum] at haccepts ⊢
    exact h.receiver.arrival_eq (by omega) (by omega) (by omega) haccepts
  have hmessage := messageAt_eq hk
  rw [← hbytes] at hmessage
  have hbounded := h.sender.bounded m.bytes (List.mem_of_getElem? hk)
  have hpayload := h.sender.orderly.payload m.bytes (List.mem_of_getElem? hk)
  rw [← hbytes] at hbounded hpayload
  have hlength : msg.bytes.length = msg.length := read_length _ _ _
  rw [hlength] at hbounded hpayload
  obtain ⟨hpos, hfit, hlt⟩ := hbounded
  refine ⟨fun haccepts => ?_, ?_⟩
  · rw [harrival haccepts]
    exact ⟨⟨hpos, hpayload, h.stride ▸ hfit, hlt⟩, hmessage⟩
  · rintro n (hreceived | ⟨haccepts, rfl⟩)
    · exact h.receiver.known n hreceived
    · rw [harrival haccepts]
      omega

variable [LawfulMicroCdr]

/-- A message arrives at the receiver. -/
theorem FragmentInv.deliver (shiftBeyond : Nat → UInt16)
    (h : FragmentInv link win consumed first received) {m : DataMessage} (hm : m ∈ link.data)
    (hdelay : link.sent.length ≤ m.sentAt + 32768) {msg : Datagram} (hbytes : msg.bytes = m.bytes)
    {units : List (List UInt8)} {input : InputReliableStream}
    (hread : readStreamUnits (link.input.base.history.toNat + 1) link.input m.seqNum msg =
      some (units, input)) :
    ∃ (consumed' first' : Nat) (received' : Nat → Prop), FragmentInv
      { link with
        input
        acknacks := link.acknacks ++ [computeAcknack shiftBeyond input]
        handed := link.handed ++ units } win consumed' first' received' ∧
      (∀ n, received n → received' n) ∧
      (link.input.accepts m.seqNum = true → received' (arrival (65535 + consumed) m.seqNum)) := by
  have hr := h.receiver
  obtain ⟨hmsg, hknown⟩ := h.arrives hm hdelay hbytes
  have hwaits := hr.waits
  rw [← hr.history] at hwaits
  obtain ⟨count, htaken⟩ := hr.holds.takesOnReception hwaits hmsg
    (h.sender.orderly.chained_messageAt hknown) hread
  have hold (n : Nat) (hn : received n) : received n ∨ link.input.accepts m.seqNum = true ∧
    n = arrival (65535 + consumed) m.seqNum := .inl hn
  obtain ⟨received', hreceived'⟩ : ∃ received' : Nat → Prop, received' = fun n =>
    received n ∨ link.input.accepts m.seqNum = true ∧ n = arrival (65535 + consumed) m.seqNum :=
    ⟨_, rfl⟩
  rw [← hreceived'] at htaken
  have hgrows : ∀ n, received n → received' n := hreceived' ▸ hold
  have hnew (haccepts : link.input.accepts m.seqNum = true) :
      received' (arrival (65535 + consumed) m.seqNum) := hreceived' ▸ .inr ⟨haccepts, rfl⟩
  replace hknown : ∀ n, received' n → 65536 ≤ n ∧ n < 65536 + link.sent.length :=
    hreceived' ▸ hknown
  have hhistory : input.base.history.toNat = H :=
    (congrArg UInt16.toNat htaken.history).trans hr.history
  -- one of the window is still missing, and so there is a first one
  have hwaits' := htaken.waits
  rw [hhistory] at hwaits'
  obtain ⟨missing, h₁, h₂, hmissing⟩ := hwaits'.missing
  obtain ⟨next, hnext, -⟩ := exists_firstMissing h₁ hmissing
  have hbehind := hnext.behind
  obtain ⟨first', rfl⟩ : ∃ first', next = first' + 1 := ⟨next - 1, by omega⟩
  have hle : first ≤ first' := by
    by_contra hlt
    refine hnext.missing (hgrows _ (hr.received_of_le ?_ (by omega)))
    omega
  have hcount : consumed + count ≤ link.sent.length := by
    rcases Nat.eq_zero_or_pos count with rfl | hpos
    · have := hr.consumed_le_first
      have := hr.first_le
      omega
    · obtain ⟨-, hlast⟩ := hknown _ (htaken.received (65535 + consumed + count) (by omega)
        (Nat.le_refl _))
      omega
  have hreceiver : ReceiverInv
      { link with
        input
        acknacks := link.acknacks ++ [computeAcknack shiftBeyond input]
        handed := link.handed ++ units } H (consumed + count) first' received' := by
    refine ⟨hhistory, ?_, ?_, hknown, ?_, ?_, ?_⟩
    · rw [← Nat.add_assoc]
      exact htaken.holds
    · rw [← Nat.add_assoc]
      exact hwaits'
    · intro n hn₁ hn₂
      rcases Nat.lt_or_ge (65535 + consumed) n with hnew | hbefore
      · exact htaken.received n hnew (by omega)
      · exact hgrows n (hr.handled n hn₁ hbefore)
    · have happend := hr.assembles.append htaken.assembles
      rw [following_messageAt hcount] at happend
      exact happend
    · rw [← Nat.add_assoc]
      exact hnext
  refine ⟨consumed + count, first', received', ⟨?_, hreceiver, htaken.stride.trans h.stride,
    hreceiver.push_acknack shiftBeyond h.acknacks hle⟩, hgrows, hnew⟩
  have hsender := h.sender
  exact ⟨hsender.represents, hsender.started, hsender.sentCount, hsender.contents, hsender.bounded,
    hsender.orderly, hsender.data⟩

omit [LawfulMicroCdr] in
/-- The sender says what it has sent. -/
theorem FragmentInv.heartbeat (h : FragmentInv link win consumed first received)
    (heartbeats : List (SeqNum × SeqNum)) :
    FragmentInv { link with heartbeats } win consumed first received := by
  have hs := h.sender
  have hr := h.receiver
  exact ⟨⟨hs.represents, hs.started, hs.sentCount, hs.contents, hs.bounded, hs.orderly, hs.data⟩,
    ⟨hr.history, hr.holds, hr.waits, hr.known, hr.handled, hr.assembles, hr.missing⟩, h.stride,
    h.acknacks⟩

omit [LawfulMicroCdr] in
/-- A HEARTBEAT arrives, and is answered. -/
theorem FragmentInv.takeHeartbeat (shiftBeyond : Nat → UInt16)
    (h : FragmentInv link win consumed first received) (firstSeqNum last : SeqNum)
    (heartbeats : List (SeqNum × SeqNum)) :
    FragmentInv
      { link with
        input := processHeartbeat link.input firstSeqNum last
        heartbeats
        acknacks := link.acknacks ++
          [computeAcknack shiftBeyond (processHeartbeat link.input firstSeqNum last)] }
      win consumed first received := by
  have hs := h.sender
  have hreceiver := h.receiver.takeHeartbeat firstSeqNum last heartbeats (link.acknacks ++
    [computeAcknack shiftBeyond (processHeartbeat link.input firstSeqNum last)])
  refine ⟨⟨hs.represents, hs.started, hs.sentCount, hs.contents, hs.bounded, hs.orderly, hs.data⟩,
    hreceiver, ?_, hreceiver.push_acknack shiftBeyond h.acknacks (Nat.le_refl _)⟩
  obtain ⟨lastAnnounced, heq⟩ := announce_eq link.input last
  show (link.input.announce last).base.stride = _
  rw [heq]
  exact h.stride

omit [LawfulMicroCdr] in
/-- An ACKNACK for a number within the window arrives, with those behind it still on the way. -/
theorem FragmentInv.takeAcknack (h : FragmentInv link win consumed first received) {count : Nat}
    (bitmap : UInt16) (hacked : win.acked ≤ count) {rest : List (SeqNum × UInt16)}
    (hrest : AcknacksInOrder count first rest) :
    ∃ win' : OutputWindow H, FragmentInv
      { link with
        output := (sendLostMessages
          (processAcknack link.output bitmap (UInt16.ofNat (count + 1)))).2
        acknacks := rest
        data := (sendLostMessages
            (processAcknack link.output bitmap (UInt16.ofNat (count + 1)))).1.map
          (fun next => ⟨next.seqNum,
            messageContents (processAcknack link.output bitmap (UInt16.ofNat (count + 1))) next,
            link.sent.length⟩) ++ link.data } win' consumed first received ∧
      win'.acked = count := by
  have hr := h.receiver
  have hsent := hr.first_le
  have hcount := h.sender.sentCount
  have hle := hrest.acked_le
  obtain ⟨win', hsender, hacked', hshape⟩ := h.sender.takeAcknack bitmap hacked (by omega) rest
  refine ⟨win', ⟨hsender, ?_, h.stride.trans hshape.stride.symm, hacked' ▸ hrest⟩, hacked'⟩
  exact ⟨hr.history, hr.holds, hr.waits, hr.known, hr.handled, hr.assembles, hr.missing⟩

/-- One step keeps the invariant. -/
theorem FragmentInv.step {shiftBeyond : Nat → UInt16} {link' : Link}
    (h : FragmentInv link win consumed first received)
    (hstep : FragmentStep shiftBeyond link link') :
    ∃ (win' : OutputWindow H) (consumed' first' : Nat) (received' : Nat → Prop),
      FragmentInv link' win' consumed' first' received' := by
  have hs := h.sender
  have hr := h.receiver
  have hrep := hs.represents.tracks
  cases hstep with
  | write length ub =>
    obtain ⟨win', hsender, hacked, hshape⟩ := hs.write length ub
    refine ⟨win', consumed, first, received, hsender, ?_, h.stride.trans hshape.stride.symm,
      hacked ▸ h.acknacks⟩
    exact ⟨hr.history, hr.holds, hr.waits, hr.known, hr.handled, hr.assembles, hr.missing⟩
  | fill seqNum k bytes hunsent hwin hfit =>
    rw [hrep.dist_lastSent] at hunsent
    rw [hrep.history] at hwin
    rw [← hrep.ofNat_dist seqNum]
    have hle := win.acked_le_sent
    have hshape := @sameShape_storeSlotBytes link.output
      (win.acked + Serial.dist link.output.lastAcknown seqNum) k bytes
    refine ⟨win, consumed, first, received, hs.withOutput
      ((tracks_storeSlotBytes hrep _ hfit).represents hs.represents.history_le) hshape rfl rfl ?_,
      ?_, h.stride.trans hshape.stride.symm, h.acknacks⟩
    · intro n h₁ h₂
      exact untouched_storeSlotBytes hrep.formed hfit
        (hrep.mod_ne (by omega) (by omega) (by omega))
    · exact ⟨hr.history, hr.holds, hr.waits, hr.known, hr.handled, hr.assembles, hr.missing⟩
  | send stream next hnext horderly =>
    rw [hrep.history] at horderly
    obtain ⟨win', hsender, hacked, hbase⟩ := hs.send hnext horderly
    refine ⟨win', consumed, first, received, hsender, hr.grow _ _ _, ?_, hacked ▸ h.acknacks⟩
    show link.input.base.stride = stream.base.stride
    rw [hbase]
    exact h.stride
  | deliver m hm hdelay msg hbytes units input hread =>
    obtain ⟨consumed', first', received', h', -⟩ := h.deliver shiftBeyond hm hdelay hbytes hread
    exact ⟨win, consumed', first', received', h'⟩
  | heartbeat => exact ⟨win, consumed, first, received, h.heartbeat _⟩
  | takeHeartbeat firstSeqNum last rest _ =>
    exact ⟨win, consumed, first, received, h.takeHeartbeat shiftBeyond firstSeqNum last rest⟩
  | takeAcknack firstSeqNum bitmap rest hhead =>
    -- the number in the ACKNACK is within the window
    obtain ⟨count, rfl, hacked, -, hrest⟩ := (hhead ▸ h.acknacks).pop
    obtain ⟨win', h', -⟩ := h.takeAcknack bitmap hacked hrest
    exact ⟨win', consumed, first, received, h'⟩
  | loseHeartbeats heartbeats _ => exact ⟨win, consumed, first, received, h.heartbeat heartbeats⟩
  | loseAcknacks acknacks hlost =>
    exact ⟨win, consumed, first, received,
      ⟨hs.represents, hs.started, hs.sentCount, hs.contents, hs.bounded, hs.orderly, hs.data⟩,
      ⟨hr.history, hr.holds, hr.waits, hr.known, hr.handled, hr.assembles, hr.missing⟩, h.stride,
      h.acknacks.sublist hlost⟩

end

/-- Nothing was sent yet. -/
theorem fragmentInv_initial [MicroCdr] (outputBuffer inputBuffer : Memory)
    {outputSize inputSize : Nat} {history : UInt16} {headerOffset : UInt8}
    (hhistory : ∃ k, k ≤ 14 ∧ history.toNat = 2 ^ k) (haligned : headerOffset.toNat % 4 = 0)
    (hroom : headerOffset.toNat + 4 < outputSize / history.toNat - 4)
    (hcapacity : outputSize / history.toNat - 4 < 65536)
    (hsame : inputSize / history.toNat = outputSize / history.toNat) :
    FragmentInv
      (initialLink (initOutputReliableStream outputBuffer outputSize history headerOffset)
        (initInputReliableStream inputBuffer inputSize history onGetFragmentationInfo))
      (OutputWindow.initial history.toNat) 0 65535 fun _ => False := by
  have hlink := linkInv_initial outputBuffer inputBuffer hhistory haligned hroom hcapacity hsame
  have hpos : 0 < history.toNat := by
    obtain ⟨k, -, hpow⟩ := hhistory
    rw [hpow]
    exact Nat.two_pow_pos k
  have hwf : ReliableStream.WellFormed ⟨inputBuffer, inputSize, history⟩ := by
    obtain ⟨k, hk, hpow⟩ := hhistory
    refine ⟨⟨k, by omega, hpow⟩, ?_⟩
    show 4 < inputSize / history.toNat
    omega
  refine ⟨⟨hlink.represents, hlink.started, hlink.sentCount, hlink.contents, nofun, ?_, nofun⟩, ?_,
    hlink.stride, hlink.acknacks⟩
  · refine ⟨nofun, fun k bytes bytes' h => ?_, fun k hk => ?_⟩
    · cases h
    · have hlength : k + history.toNat ≤ 0 := hk
      omega
  · refine ⟨hlink.history, holdsReceived_reset hwf rfl, ⟨⟨65536, ?_, ?_, id⟩, ?_⟩, ?_, ?_,
      Assembles.nil, ⟨?_, id, ?_⟩⟩
    · decide
    · omega
    · intro n hn hall
      exact absurd (hall n hn (Nat.le_refl n)) id
    · intro n hn
      exact absurd hn id
    · intro n h₁ h₂
      omega
    · decide
    · intro n h₁ h₂
      omega

/-! ## Runs -/

/-- A link between two new streams, after any run. -/
def FragmentsReachable [MicroCdr] (shiftBeyond : Nat → UInt16) (output : OutputReliableStream)
    (input : InputReliableStream) : Link → Prop :=
  Relation.ReflTransGen (FragmentStep shiftBeyond) (initialLink output input)

/-- The `k`-th message, counted from zero, waits in its slot of the receiver. -/
def WaitsInSlot (stream : InputReliableStream) (k : Nat) (bytes : List UInt8) : Prop :=
  getReliableBufferSize stream.base (UInt16.ofNat k) ≠ 0 ∧
    stream.base.bytesFrom (UInt16.ofNat k) 0
      (getReliableBufferSize stream.base (UInt16.ofNat k)) = bytes

section

variable [MicroCdr] {shiftBeyond : Nat → UInt16} {output : OutputReliableStream}
  {input : InputReliableStream} {H : Nat} {link : Link} {win : OutputWindow H}
  {consumed first : Nat} {received : Nat → Prop}

/-- What is not consumed is at one of the two ends. -/
theorem FragmentInv.kept (h : FragmentInv link win consumed first received) {k : Nat}
    (hk : k < link.sent.length) (hconsumed : consumed ≤ k) :
    WaitsInSlot link.input k link.sent[k] ∨ Kept link.output k link.sent[k] := by
  have hturn := Serial.ofNat_turn k
  by_cases hreceived : received (65536 + k)
  · left
    have hholds := h.receiver.holds
    have hwindow := hholds.bounded _ hreceived
    have hfilled := (hholds.filled (65536 + k) (by omega) hwindow).mpr hreceived
    have hheld := Option.some.inj (hholds.buffers.held _ (by omega) hwindow hfilled)
    rw [messageAt_eq (List.getElem?_eq_getElem hk)] at hheld
    rw [slotMessage, InputReliableStream.slotSize, hturn] at hheld
    rw [InputReliableStream.slotSize, hturn] at hfilled
    exact ⟨hfilled, hheld.symm⟩
  · right
    have hfirst : first < 65536 + k := by
      by_contra hle
      exact hreceived (h.receiver.received_of_le (Nat.le_add_right _ _) (by omega))
    have hcount := h.sender.sentCount
    have hacked := h.acknacks.acked_le
    have hsent := win.sent_lt_written
    have hfilled := h.sender.represents.filled (65536 + k) (by omega) (by omega)
    have hcontents := h.sender.contents (65536 + k) (by omega) (by omega)
    rw [OutputReliableStream.slotSize, hturn] at hfilled
    rw [OutputReliableStream.slotContents, OutputReliableStream.slotSize, hturn, sentMessage,
      Nat.add_sub_cancel_left, List.getElem?_eq_getElem hk] at hcontents
    exact ⟨hfilled, (Option.some.inj hcontents).symm⟩

variable [LawfulMicroCdr]

/-- What is under way can be read. -/
theorem FragmentInv.readable (h : FragmentInv link win consumed first received) {m : DataMessage}
    (hm : m ∈ link.data) (hdelay : link.sent.length ≤ m.sentAt + 32768) {msg : Datagram}
    (hbytes : msg.bytes = m.bytes) :
    (readStreamUnits (link.input.base.history.toNat + 1) link.input m.seqNum msg).isSome := by
  have hr := h.receiver
  obtain ⟨hmsg, hknown⟩ := h.arrives hm hdelay hbytes
  have hwaits := hr.waits
  have hcloses := h.sender.orderly.closes_messageAt h.sender.represents.tracks.history_pos hknown
  rw [← hr.history] at hwaits hcloses
  exact hr.holds.takesOnReception_isSome hwaits hmsg hcloses

theorem fragmentsReachable_inv
    (hinit : FragmentInv (initialLink output input) win consumed first received)
    (hrun : FragmentsReachable shiftBeyond output input link) :
    ∃ (win' : OutputWindow H) (consumed' first' : Nat) (received' : Nat → Prop),
      FragmentInv link win' consumed' first' received' := by
  induction hrun with
  | refl => exact ⟨win, consumed, first, received, hinit⟩
  | tail _ hstep ih =>
    obtain ⟨win', consumed', first', received', h⟩ := ih
    exact h.step hstep

end

/-- **Messages of any length, end to end.** After any run, the messages that were handed to the
reader are those that the sent slots make up, up to some slot. Every slot behind it is kept by the
sender or waits in the receiver's ring, and whatever arrives can be read. -/
theorem fragments_end_to_end [MicroCdr] [LawfulMicroCdr] {shiftBeyond : Nat → UInt16}
    {outputBuffer inputBuffer : Memory} {outputSize inputSize : Nat} {history : UInt16}
    {headerOffset : UInt8} (hhistory : ∃ k, k ≤ 14 ∧ history.toNat = 2 ^ k)
    (haligned : headerOffset.toNat % 4 = 0)
    (hroom : headerOffset.toNat + 4 < outputSize / history.toNat - 4)
    (hcapacity : outputSize / history.toNat - 4 < 65536)
    (hsame : inputSize / history.toNat = outputSize / history.toNat) {link : Link}
    (hrun : FragmentsReachable shiftBeyond
      (initOutputReliableStream outputBuffer outputSize history headerOffset)
      (initInputReliableStream inputBuffer inputSize history onGetFragmentationInfo) link) :
    (∃ consumed ≤ link.sent.length, Assembles (link.sent.take consumed) link.handed ∧
      link.handed <+: assemble link.sent ∧
      ∀ k (hk : k < link.sent.length), consumed ≤ k →
        WaitsInSlot link.input k link.sent[k] ∨ Kept link.output k link.sent[k]) ∧
    ∀ m ∈ link.data, link.sent.length ≤ m.sentAt + 32768 → ∀ msg : Datagram,
      msg.bytes = m.bytes →
        (readStreamUnits (link.input.base.history.toNat + 1) link.input m.seqNum msg).isSome := by
  obtain ⟨win, consumed, first, received, h⟩ := fragmentsReachable_inv
    (fragmentInv_initial outputBuffer inputBuffer hhistory haligned hroom hcapacity hsame) hrun
  have hbehind := h.receiver.consumed_le_first
  have hsent := h.receiver.first_le
  have hprefix := h.receiver.assembles.prefix_assemble (link.sent.drop consumed)
  rw [List.take_append_drop] at hprefix
  exact ⟨⟨consumed, by omega, h.receiver.assembles, hprefix,
      fun k hk hconsumed => h.kept hk hconsumed⟩,
    fun m hm hdelay msg hbytes => h.readable hm hdelay hbytes⟩

/-- A message of 24 bytes is cut into two fragments, and the payload of the second one is filled
in. -/
def twoFragments : Link :=
  let output := (@prepareReliableBufferToWrite referenceMicroCdr twoSlotLink.output 24
    (@ucdrInitBuffer referenceMicroCdr 0 0)).2.1
  { twoSlotLink with
    output := { output with base := output.base.storeBytes 1 12 [1, 2, 3, 4, 5, 6, 7, 8] } }

/-- The next slot is sent. -/
def Link.sendNext (link : Link) : Link :=
  let r := prepareNextReliableBufferToSend link.output
  { link with
    output := r.2.1
    data := ⟨r.2.2.seqNum, messageContents r.2.1 r.2.2, link.sent.length + 1⟩ :: link.data
    sent := link.sent ++ [messageContents r.2.1 r.2.2] }

/-- The two fragments, as they are sent. -/
def firstFragment : List UInt8 := [13, 1, 16, 0] ++ List.replicate 16 0

def secondFragment : List UInt8 := [13, 3, 8, 0, 1, 2, 3, 4, 5, 6, 7, 8]

/-- A fragment, once it arrives. -/
def fragmentArriving (bytes : List UInt8) : Datagram where
  memory := fun a => bytes.getD a 0
  buffer := 0
  length := bytes.length

deriving instance DecidableEq for DataMessage

theorem sent_twoFragments :
    twoFragments.sendNext.sendNext.sent = [firstFragment, secondFragment] := by decide +kernel

theorem data_twoFragments : twoFragments.sendNext.sendNext.data =
    [⟨1, secondFragment, 2⟩, ⟨0, firstFragment, 1⟩] := by decide +kernel

theorem orderly_firstFragment : Orderly 2 [firstFragment] := by
  refine ⟨by decide +kernel, ?_, ?_⟩
  · intro k bytes bytes' _ hk'
    cases hk'
  · intro k hk
    have hlength : k + 2 ≤ 1 := hk
    omega

theorem orderly_twoFragments : Orderly 2 [firstFragment, secondFragment] := by
  refine ⟨by decide +kernel, ?_, ?_⟩
  · intro k bytes bytes' _ hk' _
    obtain ⟨hlt, rfl⟩ := List.getElem?_eq_some_iff.mp hk'
    have hlength : k + 1 < 2 := hlt
    obtain rfl : k = 0 := by omega
    show messageKind secondFragment ≠ .noFragmented
    decide +kernel
  · intro k hk
    have hlength : k + 2 ≤ 2 := hk
    obtain rfl : k = 0 := by omega
    exact ⟨1, secondFragment, by decide, rfl, by decide +kernel⟩

theorem reachable_twoFragments : @FragmentsReachable referenceMicroCdr (fun _ => 0)
    (initOutputReliableStream (fun _ => 0) 64 2 8)
    (initInputReliableStream (fun _ => 0) 64 2 (@onGetFragmentationInfo referenceMicroCdr))
    twoFragments.sendNext.sendNext := by
  have hfound : (prepareNextReliableBufferToSend twoFragments.output).1 = true := by decide +kernel
  have hfound' : (prepareNextReliableBufferToSend twoFragments.sendNext.output).1 = true := by
    decide +kernel
  have hfirst : twoFragments.sendNext.sent = [firstFragment] := by decide +kernel
  refine .tail (.tail (.tail (.single (@FragmentStep.write referenceMicroCdr (fun _ => 0) twoSlotLink
    24 (@ucdrInitBuffer referenceMicroCdr 0 0)))
    (@FragmentStep.fill referenceMicroCdr (fun _ => 0) _ 1 12 [1, 2, 3, 4, 5, 6, 7, 8]
      (by decide +kernel) (by decide +kernel) (by decide)))
    (@FragmentStep.send referenceMicroCdr (fun _ => 0) twoFragments _ _ (Prod.ext hfound rfl) ?_))
    (@FragmentStep.send referenceMicroCdr (fun _ => 0) twoFragments.sendNext _ _
      (Prod.ext hfound' rfl) ?_)
  · show Orderly 2 twoFragments.sendNext.sent
    rw [hfirst]
    exact orderly_firstFragment
  · show Orderly 2 twoFragments.sendNext.sendNext.sent
    rw [sent_twoFragments]
    exact orderly_twoFragments

/-- The second fragment arrives before the first one, and then the message is handed over as a
whole, and it is what the two slots make up. -/
theorem fragments_end_to_end_twoFragments : ∃ link : Link,
    @FragmentsReachable referenceMicroCdr (fun _ => 0) (initOutputReliableStream (fun _ => 0) 64 2 8)
      (initInputReliableStream (fun _ => 0) 64 2 (@onGetFragmentationInfo referenceMicroCdr))
      link ∧ link.handed = [List.replicate 16 0 ++ [1, 2, 3, 4, 5, 6, 7, 8]] ∧
      link.handed <+: assemble link.sent := by
  obtain ⟨⟨units, input⟩, hr⟩ : ∃ r, @readStreamUnits referenceMicroCdr 3 twoSlotLink.input 1
      (fragmentArriving secondFragment) = some r := Option.isSome_iff_exists.mp (by decide +kernel)
  have hnone : ∀ r ∈ @readStreamUnits referenceMicroCdr 3 twoSlotLink.input 1
      (fragmentArriving secondFragment), r.1 = [] ∧
        ((@readStreamUnits referenceMicroCdr 3 r.2 0 (fragmentArriving firstFragment)).isSome ∧
        ∀ r' ∈ @readStreamUnits referenceMicroCdr 3 r.2 0 (fragmentArriving firstFragment),
          r'.1 = [List.replicate 16 0 ++ [1, 2, 3, 4, 5, 6, 7, 8]]) ∧
        r.2.base.history.toNat = 2 := by decide +kernel
  obtain ⟨hunits, ⟨hsome, hwhole⟩, hhistory⟩ := hnone _ hr
  dsimp only at hunits hsome hwhole hhistory
  obtain ⟨⟨units', input'⟩, hr'⟩ := Option.isSome_iff_exists.mp hsome
  have hdata := data_twoFragments
  have hcount : twoFragments.sendNext.sendNext.sent.length = 2 := by
    rw [sent_twoFragments]
    rfl
  have hsecond := reachable_twoFragments.tail (@FragmentStep.deliver referenceMicroCdr (fun _ => 0)
    twoFragments.sendNext.sendNext ⟨1, secondFragment, 2⟩ (by rw [hdata]; exact List.mem_cons_self)
    (by rw [hcount]; decide) (fragmentArriving secondFragment) (by decide +kernel) units input hr)
  have hfirst := hsecond.tail (@FragmentStep.deliver referenceMicroCdr (fun _ => 0) _
    ⟨0, firstFragment, 1⟩ (by dsimp only; rw [hdata]; exact List.mem_cons_of_mem _ List.mem_cons_self)
    (by dsimp only; rw [hcount]; decide) (fragmentArriving firstFragment)
    (by decide +kernel) units' input' (by dsimp only; rw [hhistory]; exact hr'))
  refine ⟨_, hfirst, ?_, ?_⟩
  · show ([] ++ units) ++ units' = _
    have hunits' : units' = [List.replicate 16 0 ++ [1, 2, 3, 4, 5, 6, 7, 8]] := hwhole _ hr'
    rw [hunits, hunits']
    rfl
  · obtain ⟨⟨consumed, -, -, hprefix, -⟩, -⟩ := @fragments_end_to_end referenceMicroCdr
      referenceMicroCdr_lawful (fun _ => 0) (fun _ => 0) (fun _ => 0) 64 64 2 8 ⟨1, by decide, rfl⟩ rfl
      (by decide) (by decide) rfl _ hfirst
    exact hprefix

end XrceClient
