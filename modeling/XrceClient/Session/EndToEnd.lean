import XrceClient.Session.ControlMessages
import XrceClient.Stream.Delivery

/-!
# A reliable stream from end to end

An output reliable stream and an input reliable stream of the same shape, and the three
channels between them. The data channel may lose, duplicate and reorder messages; the
HEARTBEAT and ACKNACK channels may lose messages and keep their order.

- `Link`: the two streams, what is on the channels, and the contents of the slots that were
  sent and that were handed to the reader so far.
- `LinkStep`: a call on one side, or a message that arrives.
- `LinkInv`: two windows over the same contents, the receiver's never behind the
  sender's. `linkStep_inv` is its step lemma.
- `end_to_end`: what was handed over is a prefix of what was sent, and what was not handed
  over is still in the sender's slots.

The contents of a slot are those behind the room for the session's header. Which messages
were sent and handed over is kept only to state the result.
-/

namespace XrceClient

open ByteMemory InputReliableStream OutputReliableStream

/-- A message on the data channel. `sentAt` counts the messages that were sent so far,
this one included; no code sees it. -/
structure DataMessage where
  seqNum : SeqNum
  bytes : List UInt8
  sentAt : Nat

/-- Two ends of a reliable stream and the channels between them. -/
structure Link where
  output : OutputReliableStream
  input : InputReliableStream
  data : List DataMessage
  heartbeats : List (SeqNum × SeqNum)
  acknacks : List (SeqNum × UInt16)
  sent : List (List UInt8)
  handed : List (List UInt8)

/-- The contents of the message that a sending function found. -/
def messageContents (stream : OutputReliableStream) (next : NextBuffer) : List UInt8 :=
  read stream.base.buffer (next.buffer + stream.offset.toNat) (next.length - stream.offset.toNat)

/-- The two ends before anything is sent. -/
def initialLink (output : OutputReliableStream) (input : InputReliableStream) : Link :=
  { output, input, data := [], heartbeats := [], acknacks := [], sent := [], handed := [] }

section

variable [MicroCdr] (shiftBeyond : Nat → UInt16)

/-- One step of a link. -/
inductive LinkStep : Link → Link → Prop
  /-- The user asks for room for a message that fits a slot. -/
  | write (link : Link) (length : Nat) (ub : UcdrBuffer) (hpos : 1 ≤ length)
      (hfit : link.output.offset.toNat + length ≤ getReliableBufferCapacity link.output.base) :
      LinkStep link
        { link with output := (prepareReliableBufferToWrite link.output length ub).2.1 }
  /-- The user fills in a message that is not sent yet. -/
  | fill (link : Link) (seqNum : SeqNum) (k : Nat) (bytes : List UInt8)
      (hunsent : Serial.dist link.output.lastAcknown link.output.lastSent <
        Serial.dist link.output.lastAcknown seqNum)
      (hwritten : Serial.dist link.output.lastAcknown seqNum ≤
        link.output.base.history.toNat)
      (hfit : k + bytes.length ≤ getReliableBufferCapacity link.output.base) :
      LinkStep link
        { link with
          output := { link.output with base := link.output.base.storeBytes seqNum k bytes } }
  /-- The next message is sent. It is not a fragment. -/
  | send (link : Link) (stream : OutputReliableStream) (next : NextBuffer)
      (hnext : prepareNextReliableBufferToSend link.output = (true, stream, next))
      (hplain : messageKind (messageContents stream next) = .noFragmented) :
      LinkStep link
        { link with
          output := stream
          data := ⟨next.seqNum, messageContents stream next, link.sent.length + 1⟩ :: link.data
          sent := link.sent ++ [messageContents stream next] }
  /-- A message arrives that was on the way for at most `2^15` numbers. It stays on the
  channel, as it may arrive again. It is answered. -/
  | deliver (link : Link) (m : DataMessage) (hm : m ∈ link.data)
      (hdelay : link.sent.length ≤ m.sentAt + 32768) (msg : Datagram) (hbytes : msg.bytes = m.bytes)
      (messages : List (List UInt8)) (input : InputReliableStream)
      (hread : readStreamMessages (link.input.base.history.toNat + 1) link.input m.seqNum msg =
        some (messages, input)) :
      LinkStep link
        { link with
          input
          acknacks := link.acknacks ++ [computeAcknack shiftBeyond input]
          handed := link.handed ++ messages }
  /-- The sender says what it has sent. -/
  | heartbeat (link : Link) :
      LinkStep link
        { link with
          heartbeats := link.heartbeats ++
            [(seqNumAdd link.output.lastAcknown 1, link.output.lastSent)] }
  /-- A HEARTBEAT arrives, and is answered. -/
  | takeHeartbeat (link : Link) (first last : SeqNum) (rest : List (SeqNum × SeqNum))
      (hhead : link.heartbeats = (first, last) :: rest) :
      LinkStep link
        { link with
          input := processHeartbeat link.input first last
          heartbeats := rest
          acknacks := link.acknacks ++
            [computeAcknack shiftBeyond (processHeartbeat link.input first last)] }
  /-- An ACKNACK arrives, and what is lost is sent again. -/
  | takeAcknack (link : Link) (first : SeqNum) (bitmap : UInt16)
      (rest : List (SeqNum × UInt16)) (hhead : link.acknacks = (first, bitmap) :: rest) :
      LinkStep link
        { link with
          output := (sendLostMessages (processAcknack link.output bitmap first)).2
          acknacks := rest
          data := (sendLostMessages (processAcknack link.output bitmap first)).1.map
            (fun next => ⟨next.seqNum,
              messageContents (processAcknack link.output bitmap first) next,
              link.sent.length⟩) ++ link.data }
  | loseHeartbeats (link : Link) (heartbeats : List (SeqNum × SeqNum))
      (hlost : heartbeats.Sublist link.heartbeats) : LinkStep link { link with heartbeats }
  | loseAcknacks (link : Link) (acknacks : List (SeqNum × UInt16))
      (hlost : acknacks.Sublist link.acknacks) : LinkStep link { link with acknacks }

end

/-! ## What a step keeps -/

/-- The contents of the slot of the `n`-th message. -/
def OutputReliableStream.slotContents (stream : OutputReliableStream) (n : Nat) : List UInt8 :=
  stream.base.bytesFrom (UInt16.ofNat n) stream.offset.toNat
    (stream.slotSize n - stream.offset.toNat)

/-- The contents that were sent with the number of a count. The first message has the count
`2^16`, of wire image 0. -/
def sentMessage (sent : List (List UInt8)) (n : Nat) : Option (List UInt8) := sent[n - 65536]?

/-- The acknowledgements on the way: they are for messages between those acknowledged and those
handled, and never go back. -/
def AcknacksInOrder (acked handled : Nat) (acknacks : List (SeqNum × UInt16)) : Prop :=
  ∃ counts : List Nat, acknacks.map Prod.fst = counts.map (fun c => UInt16.ofNat (c + 1)) ∧
    (acked :: (counts ++ [handled])).Pairwise (· ≤ ·)

/-- Two windows over the same contents, and the messages between them. -/
structure LinkInv [MicroCdr] {H : Nat} (link : Link) (win : OutputWindow H) : Prop where
  represents : Represents link.output win
  started : 65535 ≤ win.acked
  sentCount : win.sent = 65535 + link.sent.length
  contents : ∀ n, win.acked < n → n ≤ win.sent →
    sentMessage link.sent n = some (link.output.slotContents n)
  bounded : ∀ bytes ∈ link.sent, 1 ≤ bytes.length ∧ bytes.length + 4 ≤ link.input.base.stride ∧
    bytes.length < 2 ^ 32 ∧ messageKind bytes = .noFragmented
  data : ∀ m ∈ link.data, ∃ k, m.seqNum = UInt16.ofNat (65536 + k) ∧
    link.sent[k]? = some m.bytes ∧ m.sentAt ≤ k + H
  history : link.input.base.history.toNat = H
  stride : link.input.base.stride = link.output.base.stride
  expects : Expects link.input (sentMessage link.sent) (65535 + link.handed.length)
  prefixed : link.handed <+: link.sent
  acknacks : AcknacksInOrder win.acked (65535 + link.handed.length) link.acknacks

/-! ### Acknowledgements on the way -/

section

variable {acked handled : Nat} {acknacks : List (SeqNum × UInt16)}

theorem AcknacksInOrder.acked_le (h : AcknacksInOrder acked handled acknacks) :
    acked ≤ handled := by
  obtain ⟨counts, -, hordered⟩ := h
  exact (List.pairwise_cons.mp hordered).1 handled (by simp)

/-- The receiver acknowledges what it has handled. -/
theorem AcknacksInOrder.push (h : AcknacksInOrder acked handled acknacks) {handled' : Nat}
    (hle : handled ≤ handled') (bitmap : UInt16) :
    AcknacksInOrder acked handled' (acknacks ++ [(UInt16.ofNat (handled' + 1), bitmap)]) := by
  obtain ⟨counts, hnumbers, hordered⟩ := h
  rw [← List.cons_append, List.pairwise_append] at hordered
  obtain ⟨hcounts, -, hbelow⟩ := hordered
  refine ⟨counts ++ [handled'], by simp [hnumbers], ?_⟩
  rw [← List.cons_append, ← List.cons_append, List.pairwise_append, List.pairwise_append]
  have hbelow' (c : Nat) (hc : c ∈ acked :: counts) : c ≤ handled' :=
    Nat.le_trans (hbelow c hc handled (List.mem_singleton_self _)) hle
  refine ⟨⟨hcounts, List.pairwise_singleton _ _, ?_⟩, List.pairwise_singleton _ _, ?_⟩
  · intro c hc c' hc'
    rw [List.mem_singleton.mp hc']
    exact hbelow' c hc
  · intro c hc c' hc'
    rw [List.mem_singleton.mp hc']
    rcases List.mem_append.mp hc with hold | hnew
    · exact hbelow' c hold
    · exact Nat.le_of_eq (List.mem_singleton.mp hnew)

/-- The first acknowledgement on the way is for a message between the two ends. -/
theorem AcknacksInOrder.pop {first : SeqNum} {bitmap : UInt16}
    (h : AcknacksInOrder acked handled ((first, bitmap) :: acknacks)) :
    ∃ count, first = UInt16.ofNat (count + 1) ∧ acked ≤ count ∧ count ≤ handled ∧
      AcknacksInOrder count handled acknacks := by
  obtain ⟨counts, hnumbers, hordered⟩ := h
  cases counts with
  | nil => cases hnumbers
  | cons count counts =>
    rw [List.map_cons, List.map_cons, List.cons.injEq] at hnumbers
    obtain ⟨hacked, hrest⟩ := List.pairwise_cons.mp hordered
    refine ⟨count, hnumbers.1, hacked count List.mem_cons_self, ?_, counts, hnumbers.2, hrest⟩
    exact (List.pairwise_cons.mp hrest).1 handled (by simp)

theorem AcknacksInOrder.sublist (h : AcknacksInOrder acked handled acknacks)
    {acknacks' : List (SeqNum × UInt16)} (hsub : acknacks'.Sublist acknacks) :
    AcknacksInOrder acked handled acknacks' := by
  obtain ⟨counts, hnumbers, hordered⟩ := h
  have hmap := hsub.map Prod.fst
  rw [hnumbers] at hmap
  obtain ⟨counts', hcounts, heq⟩ := List.sublist_map_iff.mp hmap
  exact ⟨counts', heq, hordered.sublist ((hcounts.append_right _).cons_cons _)⟩

end

/-! ### Contents of slots -/

section

variable {H : Nat} {stream stream' : OutputReliableStream} {win : OutputWindow H}

/-- What is untouched has the same contents. -/
theorem slotContents_untouched (h : Tracks stream win) (hshape : SameShape stream stream')
    {n : Nat} (huntouched : Untouched stream stream' n) :
    stream'.slotContents n = stream.slotContents n := by
  have hwithin (s : OutputReliableStream)
      (hbounded : s.slotSize n ≤ getReliableBufferCapacity s.base)
      (hoffset : s.offset.toNat ≤ s.slotSize n) :
      s.slotContents n =
        ((s.slotBytes n).drop s.offset.toNat).take (s.slotSize n - s.offset.toNat) := by
    rw [slotContents, slotBytes, ReliableStream.bytesFrom, ReliableStream.bytesFrom, Nat.add_zero]
    exact read_within _ _ (by omega)
  have hbounded := h.bounded n
  have hoffset := h.offset_le n
  obtain ⟨hsize, hbytes⟩ := huntouched
  rw [hwithin stream hbounded hoffset, hwithin stream', hsize, hbytes, hshape.offset]
  · rw [hsize, hshape.capacity]
    exact hbounded
  · rw [hsize, hshape.offset]
    exact hoffset

theorem sentMessage_eq_some {sent : List (List UInt8)} {n : Nat} {bytes : List UInt8}
    (h : sentMessage sent n = some bytes) : bytes ∈ sent := List.mem_of_getElem? h

/-- What was sent stays what it is. -/
theorem sentMessage_append {sent : List (List UInt8)} {n : Nat} {bytes bytes' : List UInt8}
    (h : sentMessage sent n = some bytes) : sentMessage (sent ++ [bytes']) n = some bytes := by
  rw [sentMessage] at h ⊢
  obtain ⟨hlt, -⟩ := List.getElem?_eq_some_iff.mp h
  rwa [List.getElem?_append_left hlt]

end

section

variable [MicroCdr] {H : Nat} {link : Link} {win : OutputWindow H}

theorem LinkInv.plain (h : LinkInv link win) (n : Nat) (bytes : List UInt8)
    (hn : sentMessage link.sent n = some bytes) : messageKind bytes = .noFragmented :=
  (h.bounded bytes (sentMessage_eq_some hn)).2.2.2

theorem LinkInv.acked_le (h : LinkInv link win) : win.acked ≤ 65535 + link.handed.length :=
  h.acknacks.acked_le

theorem LinkInv.handed_le (h : LinkInv link win) : link.handed.length ≤ link.sent.length :=
  h.prefixed.length_le

/-- The sender's buffer changes, but for the messages that are sent and unacknowledged. -/
theorem LinkInv.withOutput (h : LinkInv link win) {output : OutputReliableStream}
    {win' : OutputWindow H} (hrep : Represents output win')
    (hshape : SameShape link.output output) (hsent : win'.sent = win.sent)
    (hacked : win'.acked = win.acked)
    (huntouched : ∀ n, win.acked < n → n ≤ win.sent → Untouched link.output output n) :
    LinkInv { link with output } win' where
  represents := hrep
  started := hacked ▸ h.started
  sentCount := hsent.trans h.sentCount
  contents n h₁ h₂ := by
    rw [hacked] at h₁
    rw [hsent] at h₂
    rw [h.contents n h₁ h₂]
    exact congrArg some (slotContents_untouched h.represents.tracks hshape (huntouched n h₁ h₂)).symm
  bounded := h.bounded
  data := h.data
  history := h.history
  stride := h.stride.trans hshape.stride.symm
  expects := h.expects
  prefixed := h.prefixed
  acknacks := hacked ▸ h.acknacks

/-- The first number that the receiver misses. -/
theorem Expects.getFirstUnacked_eq {stream : InputReliableStream}
    {message : Nat → Option (List UInt8)} {handled : Nat} (h : Expects stream message handled) :
    getFirstUnacked stream = UInt16.ofNat (handled + 1) := by
  obtain ⟨n, hn⟩ := Nat.exists_eq_add_of_le' h.buffers.wellFormed.history_pos
  have hempty : getReliableBufferSize stream.base (UInt16.ofNat (handled + 1)) = 0 := h.next
  rw [getFirstUnacked, hn, getFirstUnackedFrom, h.buffers.lastHandled, seqNumAdd_ofNat]
  exact if_pos hempty

/-- A HEARTBEAT arrives at the receiver. -/
theorem linkInv_takeHeartbeat (shiftBeyond : Nat → UInt16) (h : LinkInv link win)
    (first last : SeqNum) (rest : List (SeqNum × SeqNum)) :
    LinkInv
      { link with
        input := processHeartbeat link.input first last
        heartbeats := rest
        acknacks := link.acknacks ++
          [computeAcknack shiftBeyond (processHeartbeat link.input first last)] } win := by
  have hexpects := h.expects.announce last
  obtain ⟨lastAnnounced, heq⟩ := announce_eq link.input last
  have hack : computeAcknack shiftBeyond (processHeartbeat link.input first last) =
      (UInt16.ofNat (65535 + link.handed.length + 1),
        (computeAcknack shiftBeyond (processHeartbeat link.input first last)).2) := by
    rw [← hexpects.getFirstUnacked_eq]
    rfl
  refine ⟨h.represents, h.started, h.sentCount, h.contents, fun bytes hb => ?_, h.data, ?_, ?_, hexpects,
    h.prefixed, ?_⟩
  · show _ ∧ _ ≤ (link.input.announce last).base.stride ∧ _
    rw [heq]
    exact h.bounded bytes hb
  · show (link.input.announce last).base.history.toNat = H
    rw [heq]
    exact h.history
  · show (link.input.announce last).base.stride = _
    rw [heq]
    exact h.stride
  · rw [hack]
    exact h.acknacks.push (Nat.le_refl _) _

end

/-! ### Messages sent again -/

/-- More fuel than needed changes nothing. -/
theorem nackIteration_mono {stream : OutputReliableStream} {fuel fuel' : Nat} {q : SeqNum}
    {r : List NextBuffer × OutputReliableStream} (hle : fuel ≤ fuel')
    (h : nackIteration fuel stream q = some r) : nackIteration fuel' stream q = some r := by
  induction fuel generalizing fuel' q stream r with
  | zero => cases h
  | succ fuel ih =>
    obtain ⟨fuel', rfl⟩ := Nat.exists_eq_add_of_le' (Nat.le_trans (Nat.succ_pos fuel) hle)
    rw [nackIteration] at h ⊢
    cases hnext : nextReliableNackBufferToSend stream q with
    | none =>
      rw [hnext] at h
      cases h
    | some found =>
      obtain ⟨next, stream', q'⟩ := found
      rw [hnext] at h
      cases next with
      | none => exact h
      | some next =>
        obtain ⟨rest, hrest, heq⟩ := Option.map_eq_some_iff.mp h
        have hrest' := ih (Nat.le_of_succ_le_succ hle) hrest
        exact Option.map_eq_some_iff.mpr ⟨rest, hrest', heq⟩

/-- What is sent again are messages of the window. -/
theorem mem_sendLostMessages {H : Nat} {stream : OutputReliableStream} {win : OutputWindow H}
    (h : Tracks stream win) {next : NextBuffer} (hnext : next ∈ (sendLostMessages stream).1) :
    ∃ n, win.acked < n ∧ n ≤ win.sent ∧ next =
      { buffer := getReliableBuffer stream.base (UInt16.ofNat n)
        length := stream.slotSize n
        seqNum := UInt16.ofNat n } := by
  have hH := h.history_le
  have hsent := win.acked_le_sent
  have hwritten := win.sent_lt_written
  have hle := win.written_le
  by_cases hlost : stream.sendLost = true
  · have hfuel : win.sent - win.acked + 1 ≤ seqNumSize := by rw [seqNumSize]; omega
    have hiteration := nackIteration_mono hfuel
      (nackIteration_eq h hlost _ (Nat.le_refl _))
    rw [Nat.sub_sub_self hsent, ← h.lastAcknown] at hiteration
    have heq := Option.some.inj (hiteration.symm.trans sendLostMessages_eq)
    rw [← heq, nextBuffers, h.lastAcknown] at hnext
    obtain ⟨i, hi, rfl⟩ := List.mem_map.mp hnext
    have hi' := List.mem_range.mp hi
    refine ⟨win.acked + (i + 1), by omega, by omega, ?_⟩
    rw [Serial.ofNat_add_ofNat]
    rfl
  · have hnil := sendLostMessages_nil_iff.mpr (.inl (Bool.eq_false_iff.mpr hlost))
    rw [hnil] at hnext
    cases hnext

/-! ### The steps -/

section

variable [MicroCdr] {H : Nat} {link : Link} {win : OutputWindow H}

/-- A message goes out for the first time. -/
theorem linkInv_send (h : LinkInv link win) {stream : OutputReliableStream} {next : NextBuffer}
    (hnext : prepareNextReliableBufferToSend link.output = (true, stream, next))
    (hplain : messageKind (messageContents stream next) = .noFragmented) :
    ∃ win' : OutputWindow H, LinkInv
      { link with
        output := stream
        data := ⟨next.seqNum, messageContents stream next, link.sent.length + 1⟩ :: link.data
        sent := link.sent ++ [messageContents stream next] } win' := by
  have hrep := h.represents.tracks
  have hH := hrep.history_pos
  have hfst : (prepareNextReliableBufferToSend link.output).1 = true := congrArg Prod.fst hnext
  have hstream : (prepareNextReliableBufferToSend link.output).2.1 = stream :=
    congrArg (fun r => r.2.1) hnext
  have hbase : stream.base = link.output.base := hstream ▸ prepareNext_base
  have hoffset : stream.offset = link.output.offset := by
    rw [← hstream, prepareNextReliableBufferToSend]
    dsimp only
    split <;> rfl
  obtain ⟨hlt, hfilled⟩ := (prepareNext_fst h.represents).mp hfst
  obtain ⟨_, hrep'⟩ := tracks_prepareNext hrep hfst
  rw [hstream] at hrep'
  obtain rfl : next = _ := (congrArg (fun r => r.2.2) hnext).symm.trans (prepareNext_nextBuffer hrep)
  have hslot (n : Nat) : stream.slotContents n = link.output.slotContents n := by
    rw [slotContents, slotContents, OutputReliableStream.slotSize, OutputReliableStream.slotSize,
      hbase, hoffset]
  have hcontents : messageContents stream
      { buffer := getReliableBuffer link.output.base (UInt16.ofNat (win.sent + 1))
        length := link.output.slotSize (win.sent + 1)
        seqNum := UInt16.ofNat (win.sent + 1) } = link.output.slotContents (win.sent + 1) := by
    rw [messageContents, hbase, hoffset]
    rfl
  rw [hcontents] at hplain ⊢
  have hlength : (link.output.slotContents (win.sent + 1)).length =
      link.output.slotSize (win.sent + 1) - link.output.offset.toNat := read_length _ _ _
  have hbounded := hrep.bounded (win.sent + 1)
  have hcapacity := hrep.formed.capacity_lt
  have hstride := hrep.formed.capacity_eq
  have hcount := h.sentCount
  refine ⟨win.sendNext hlt, hrep'.represents h.represents.history_le, h.started, ?_, fun n h₁ h₂ => ?_, fun bytes hbytes => ?_, fun m hm => ?_,
    h.history, ?_, ?_, h.prefixed.trans (List.prefix_append _ _), h.acknacks⟩
  · rw [List.length_append, List.length_singleton]
    simp only [OutputWindow.sendNext]
    omega
  · simp only [OutputWindow.sendNext] at h₁ h₂
    rw [hslot]
    -- the message that is sent now, or an earlier one
    rcases Nat.lt_or_ge win.sent n with hnew | hold
    · obtain rfl : n = win.sent + 1 := by omega
      rw [sentMessage, show win.sent + 1 - 65536 = link.sent.length from by omega,
        List.getElem?_concat_length]
    · exact sentMessage_append (h.contents n h₁ hold)
  · rcases List.mem_append.mp hbytes with hold | hnew
    · exact h.bounded bytes hold
    · rw [List.mem_singleton.mp hnew, h.stride]
      exact ⟨by omega, by omega, by omega, hplain⟩
  · rcases List.mem_cons.mp hm with rfl | hold
    · refine ⟨link.sent.length, ?_, List.getElem?_concat_length, by dsimp only; omega⟩
      rw [show win.sent + 1 = 65536 + link.sent.length from by omega]
    · obtain ⟨k, hseqNum, hk, hage⟩ := h.data m hold
      obtain ⟨hklt, -⟩ := List.getElem?_eq_some_iff.mp hk
      exact ⟨k, hseqNum, by rwa [List.getElem?_append_left hklt], hage⟩
  · rw [hbase]
    exact h.stride
  · have hbuffers := h.expects.buffers
    refine ⟨⟨hbuffers.wellFormed, hbuffers.lastHandled, hbuffers.fits, fun n h₁ h₂ hn => ?_⟩,
      h.expects.callback, h.expects.next⟩
    exact sentMessage_append (hbuffers.held n h₁ h₂ hn)

/-- An ACKNACK arrives at the sender. -/
theorem linkInv_takeAcknack (h : LinkInv link win) {first : SeqNum} {bitmap : UInt16}
    {rest : List (SeqNum × UInt16)} (hhead : link.acknacks = (first, bitmap) :: rest) :
    ∃ win' : OutputWindow H, LinkInv
      { link with
        output := (sendLostMessages (processAcknack link.output bitmap first)).2
        acknacks := rest
        data := (sendLostMessages (processAcknack link.output bitmap first)).1.map
          (fun next => ⟨next.seqNum,
            messageContents (processAcknack link.output bitmap first) next,
            link.sent.length⟩) ++ link.data } win' := by
  have hrep := h.represents.tracks
  have hstarted := h.started
  have hcount := h.sentCount
  have hhanded := h.handed_le
  have hwritten := win.sent_lt_written
  have hle := win.written_le
  -- the number in the ACKNACK is within the window
  obtain ⟨count, rfl, hacked, hhandled, hrest⟩ := (hhead ▸ h.acknacks).pop
  obtain ⟨k, rfl⟩ := Nat.exists_eq_add_of_le hacked
  have hk : win.acked + k ≤ win.sent := by omega
  have hrep' := tracks_processAcknack hrep bitmap hk
  have hprocessed := processAcknack_eq hrep bitmap hk
  have hshape : SameShape link.output
      (processAcknack link.output bitmap (UInt16.ofNat (win.acked + k + 1))) := by
    have hclean := sameShape_cleanBuffers k link.output
    rw [hprocessed]
    exact ⟨hclean.size, hclean.history, hclean.offset⟩
  have hcontents : ∀ n, win.acked + k < n → n ≤ win.sent →
      (processAcknack link.output bitmap (UInt16.ofNat (win.acked + k + 1))).slotContents n =
        link.output.slotContents n := by
    intro n h₁ h₂
    refine slotContents_untouched hrep hshape ?_
    rw [hprocessed]
    exact cleanBuffers_untouched hrep k hk h₁ (by omega)
  generalize processAcknack link.output bitmap (UInt16.ofNat (win.acked + k + 1)) = processed
    at hrep' hshape hcontents
  refine ⟨win.acknowledge (win.acked + k) hacked hk, ?_, Nat.le_trans h.started hacked,
    h.sentCount, fun n h₁ h₂ => ?_,
    h.bounded, fun m hm => ?_, h.history, ?_, h.expects, h.prefixed, hrest⟩
  · rw [sendLostMessages_stream]
    exact (tracks_sendLost hrep' false).represents h.represents.history_le
  · simp only [OutputWindow.acknowledge] at h₁ h₂
    rw [h.contents n (by omega) h₂, sendLostMessages_stream]
    exact congrArg some (hcontents n h₁ h₂).symm
  · -- a message that is sent again, or one that is under way
    rcases List.mem_append.mp hm with hlost | hold
    · obtain ⟨next, hnext, rfl⟩ := List.mem_map.mp hlost
      obtain ⟨n, h₁, h₂, rfl⟩ := mem_sendLostMessages hrep' hnext
      simp only [OutputWindow.acknowledge] at h₁ h₂
      have hsent := h.contents n (by omega) h₂
      obtain ⟨j, rfl⟩ := Nat.exists_eq_add_of_le (show 65536 ≤ n by omega)
      refine ⟨j, rfl, ?_, by dsimp only; omega⟩
      rw [sentMessage, Nat.add_sub_cancel_left] at hsent
      rw [hsent, ← hcontents _ h₁ h₂]
      rfl
    · exact h.data m hold
  · rw [sendLostMessages_stream]
    exact h.stride.trans hshape.stride.symm

variable [LawfulMicroCdr]

/-- A message arrives at the receiver. -/
theorem linkInv_deliver (shiftBeyond : Nat → UInt16) (h : LinkInv link win) {m : DataMessage}
    (hm : m ∈ link.data) (hdelay : link.sent.length ≤ m.sentAt + 32768) {msg : Datagram}
    (hbytes : msg.bytes = m.bytes) {messages : List (List UInt8)} {input : InputReliableStream}
    (hread : readStreamMessages (link.input.base.history.toNat + 1) link.input m.seqNum msg =
      some (messages, input)) :
    LinkInv
      { link with
        input
        acknacks := link.acknacks ++ [computeAcknack shiftBeyond input]
        handed := link.handed ++ messages } win := by
  have hH := h.represents.history_le
  have hsent := win.sent_lt_written
  have hwritten := win.written_le
  have hcount := h.sentCount
  have hacked := h.acked_le
  have hhanded := h.handed_le
  have hhistory := h.history
  -- the message under way is the one that was sent with its number
  obtain ⟨k, hseqNum, hk, hage⟩ := h.data m hm
  obtain ⟨hklt, -⟩ := List.getElem?_eq_some_iff.mp hk
  have hmessage : sentMessage link.sent (65536 + k) = some msg.bytes := by
    rw [sentMessage, Nat.add_sub_cancel_left, hk, hbytes]
  obtain ⟨hpos, hfit, hlength, -⟩ := h.bounded _ (sentMessage_eq_some hmessage)
  rw [Datagram.bytes, read_length] at hpos hfit hlength
  rw [hseqNum] at hread
  obtain ⟨hexpects, hinOrder, hhistory', hstride'⟩ := readStreamMessages_delivers h.expects h.plain
    (by omega) (by omega) hmessage hpos hfit hlength hread
  have hlen : (link.handed ++ messages).length = link.handed.length + messages.length :=
    List.length_append
  have hprefix : link.handed ++ messages <+: link.sent := by
    obtain ⟨rest, hrest⟩ := h.prefixed
    refine List.prefix_iff_getElem?.mpr fun i hi => ?_
    rcases Nat.lt_or_ge i link.handed.length with hold | hnew
    · rw [← hrest, List.getElem?_append_left hold, List.getElem_append_left hold,
        List.getElem?_eq_getElem hold]
    · obtain ⟨j, rfl⟩ := Nat.exists_eq_add_of_le hnew
      have hj : j < messages.length := by omega
      have hmessage := hinOrder j hj
      rw [sentMessage, show 65535 + link.handed.length + 1 + j - 65536 = link.handed.length + j
        from by omega] at hmessage
      rw [hmessage, List.getElem_append_right hnew]
      simp
  refine ⟨h.represents, h.started, h.sentCount, h.contents, fun bytes hb => ?_, h.data,
    (congrArg UInt16.toNat hhistory').trans hhistory, hstride'.trans h.stride, ?_, hprefix, ?_⟩
  · rw [hstride']
    exact h.bounded bytes hb
  · rw [hlen, ← Nat.add_assoc]
    exact hexpects
  · have hack : computeAcknack shiftBeyond input =
        (UInt16.ofNat (65535 + (link.handed ++ messages).length + 1),
          (computeAcknack shiftBeyond input).2) := by
      rw [hlen, ← Nat.add_assoc, ← hexpects.getFirstUnacked_eq]
      rfl
    have hle : 65535 + link.handed.length ≤ 65535 + (link.handed ++ messages).length := by omega
    rw [hack]
    exact h.acknacks.push hle _

/-- One step keeps the invariant. -/
theorem linkStep_inv {shiftBeyond : Nat → UInt16} {link' : Link} (h : LinkInv link win)
    (hstep : LinkStep shiftBeyond link link') :
    ∃ win' : OutputWindow H, LinkInv link' win' := by
  have hrep := h.represents.tracks
  have hsent := win.sent_lt_written
  cases hstep with
  | write length ub hpos hfit =>
    rcases tracks_write hrep length ub with ⟨-, hsame⟩ |
      ⟨-, first, written, hle, hwin, hfirst, hrep', hrw⟩
    · rw [hsame]
      exact ⟨win, h⟩
    · exact ⟨_, h.withOutput (hrep'.represents h.represents.history_le) hrw.shape rfl rfl fun n h₁ h₂ =>
        hrw.untouched_before hrep hwin h₁ (by omega)⟩
  | fill seqNum k bytes hunsent hwin hfit =>
    rw [hrep.dist_lastSent] at hunsent
    rw [hrep.history] at hwin
    rw [← hrep.ofNat_dist seqNum]
    have := win.acked_le_sent
    refine ⟨win, h.withOutput
      ((tracks_storeSlotBytes hrep _ hfit).represents h.represents.history_le)
      (sameShape_storeSlotBytes _ _ _) rfl rfl fun n h₁ h₂ => ?_⟩
    exact untouched_storeSlotBytes hrep.formed hfit
      (hrep.mod_ne (by omega) (by omega) (by omega))
  | send stream next hnext hplain => exact linkInv_send h hnext hplain
  | deliver m hm hdelay msg hbytes messages input hread =>
    exact ⟨win, linkInv_deliver shiftBeyond h hm hdelay hbytes hread⟩
  | heartbeat =>
    exact ⟨win, h.represents, h.started, h.sentCount, h.contents, h.bounded, h.data, h.history, h.stride,
      h.expects, h.prefixed, h.acknacks⟩
  | takeHeartbeat first last rest _ => exact ⟨win, linkInv_takeHeartbeat shiftBeyond h first last rest⟩
  | takeAcknack first bitmap rest hhead => exact linkInv_takeAcknack h hhead
  | loseHeartbeats heartbeats _ =>
    exact ⟨win, h.represents, h.started, h.sentCount, h.contents, h.bounded, h.data, h.history, h.stride,
      h.expects, h.prefixed, h.acknacks⟩
  | loseAcknacks acknacks hlost =>
    exact ⟨win, h.represents, h.started, h.sentCount, h.contents, h.bounded, h.data, h.history, h.stride,
      h.expects, h.prefixed, h.acknacks.sublist hlost⟩

end

/-- Nothing was sent yet. -/
theorem linkInv_initial [MicroCdr] (outputBuffer inputBuffer : Memory) {outputSize inputSize : Nat}
    {history : UInt16} {headerOffset : UInt8}
    (hhistory : ∃ k, k ≤ 14 ∧ history.toNat = 2 ^ k) (haligned : headerOffset.toNat % 4 = 0)
    (hroom : headerOffset.toNat + 4 < outputSize / history.toNat - 4)
    (hcapacity : outputSize / history.toNat - 4 < 65536)
    (hsame : inputSize / history.toNat = outputSize / history.toNat) :
    LinkInv
      (initialLink (initOutputReliableStream outputBuffer outputSize history headerOffset)
        (initInputReliableStream inputBuffer inputSize history onGetFragmentationInfo))
      (OutputWindow.initial history.toNat) := by
  have hrep := represents_init outputBuffer hhistory haligned hroom hcapacity
  have hwf : ReliableStream.WellFormed ⟨inputBuffer, inputSize, history⟩ := by
    obtain ⟨k, hk, hpow⟩ := hhistory
    refine ⟨⟨k, by omega, hpow⟩, ?_⟩
    show 4 < inputSize / history.toNat
    omega
  obtain ⟨hsize, hhist, -⟩ := foldl_setReliableBufferSize ⟨inputBuffer, inputSize, history⟩ hwf 0
    history.toNat (by decide) (Nat.le_refl _)
  obtain ⟨hbuffers, hempty⟩ :=
    buffers_init inputBuffer onGetFragmentationInfo hwf (sentMessage [])
  have hstride : (initInputReliableStream inputBuffer inputSize history
      onGetFragmentationInfo).base.stride = inputSize / history.toNat :=
    congrArg₂ (fun s (h : UInt16) => s / h.toNat) hsize hhist
  have hwf' : ReliableStream.WellFormed ⟨outputBuffer, outputSize, history⟩ := by
    refine ⟨hwf.history, ?_⟩
    show 4 < outputSize / history.toNat
    omega
  obtain ⟨hsize', hhist', -⟩ := foldl_setReliableBufferSize ⟨outputBuffer, outputSize, history⟩
    hwf' headerOffset.toNat history.toNat (by have := headerOffset.toNat_lt; omega)
    (Nat.le_refl _)
  have hstride' : (initOutputReliableStream outputBuffer outputSize history
      headerOffset).base.stride = outputSize / history.toNat :=
    congrArg₂ (fun s (h : UInt16) => s / h.toNat) hsize' hhist'
  refine ⟨hrep, Nat.le_refl _, rfl, fun n h₁ h₂ => ?_, nofun, nofun, ?_, ?_,
    ⟨hbuffers, rfl, hempty _⟩, List.prefix_refl _, [], rfl, ?_⟩
  · simp only [OutputWindow.initial] at h₁ h₂
    omega
  · exact congrArg UInt16.toNat hhist
  · exact hstride.trans (hsame.trans hstride'.symm)
  · simp [OutputWindow.initial, initialLink]

/-! ## Runs -/

/-- A link between two new streams, after any run. -/
def LinkReachable [MicroCdr] (shiftBeyond : Nat → UInt16) (output : OutputReliableStream)
    (input : InputReliableStream) : Link → Prop :=
  Relation.ReflTransGen (LinkStep shiftBeyond) (initialLink output input)

/-- The `k`-th message, counted from zero, is in its slot, which is not marked empty. -/
def Kept (stream : OutputReliableStream) (k : Nat) (bytes : List UInt8) : Prop :=
  stream.offset.toNat < getReliableBufferSize stream.base (UInt16.ofNat k) ∧
    stream.base.bytesFrom (UInt16.ofNat k) stream.offset.toNat
      (getReliableBufferSize stream.base (UInt16.ofNat k) - stream.offset.toNat) = bytes

section

variable [MicroCdr] {shiftBeyond : Nat → UInt16} {output : OutputReliableStream}
  {input : InputReliableStream} {H : Nat} {link : Link}

/-- What is not handed over is kept. -/
theorem LinkInv.kept {win : OutputWindow H} (h : LinkInv link win) {k : Nat}
    (hk : k < link.sent.length) (hhanded : link.handed.length ≤ k) :
    Kept link.output k link.sent[k] := by
  have hcount := h.sentCount
  have hacked := h.acked_le
  have hsent := win.sent_lt_written
  have hturn := Serial.ofNat_turn k
  have hfilled := h.represents.filled (65536 + k) (by omega) (by omega)
  have hcontents := h.contents (65536 + k) (by omega) (by omega)
  rw [OutputReliableStream.slotSize, hturn] at hfilled
  rw [OutputReliableStream.slotContents, OutputReliableStream.slotSize, hturn, sentMessage,
    Nat.add_sub_cancel_left, List.getElem?_eq_getElem hk] at hcontents
  exact ⟨hfilled, (Option.some.inj hcontents).symm⟩

variable [LawfulMicroCdr]

theorem linkReachable_inv {win : OutputWindow H} (hinit : LinkInv (initialLink output input) win)
    (hrun : LinkReachable shiftBeyond output input link) :
    ∃ win' : OutputWindow H, LinkInv link win' := by
  induction hrun with
  | refl => exact ⟨win, hinit⟩
  | tail _ hstep ih =>
    obtain ⟨win', h⟩ := ih
    exact linkStep_inv h hstep

/-- A message on the way can be read. -/
theorem LinkInv.readable {win : OutputWindow H} (h : LinkInv link win) {m : DataMessage}
    (hm : m ∈ link.data) (hdelay : link.sent.length ≤ m.sentAt + 32768) {msg : Datagram}
    (hbytes : msg.bytes = m.bytes) :
    (readStreamMessages (link.input.base.history.toNat + 1) link.input m.seqNum msg).isSome := by
  have hH := h.represents.history_le
  have hsent := win.sent_lt_written
  have hwritten := win.written_le
  have hcount := h.sentCount
  have hacked := h.acked_le
  have hhanded := h.handed_le
  have hhistory := h.history
  obtain ⟨k, hseqNum, hk, hage⟩ := h.data m hm
  obtain ⟨hklt, -⟩ := List.getElem?_eq_some_iff.mp hk
  have hmessage : sentMessage link.sent (65536 + k) = some msg.bytes := by
    rw [sentMessage, Nat.add_sub_cancel_left, hk, hbytes]
  obtain ⟨hpos, hfit, hlength, -⟩ := h.bounded _ (sentMessage_eq_some hmessage)
  rw [Datagram.bytes, read_length] at hpos hfit hlength
  rw [hseqNum]
  exact readStreamMessages_isSome h.expects h.plain (by omega) (by omega) hmessage hpos hfit
    hlength

end

/-- After any run, what was handed to the reader is a prefix of what was sent. What was not
handed over is still in the sender's slots, and whatever arrives can be read. -/
theorem end_to_end [MicroCdr] [LawfulMicroCdr] {shiftBeyond : Nat → UInt16}
    {outputBuffer inputBuffer : Memory} {outputSize inputSize : Nat} {history : UInt16}
    {headerOffset : UInt8} (hhistory : ∃ k, k ≤ 14 ∧ history.toNat = 2 ^ k)
    (haligned : headerOffset.toNat % 4 = 0)
    (hroom : headerOffset.toNat + 4 < outputSize / history.toNat - 4)
    (hcapacity : outputSize / history.toNat - 4 < 65536)
    (hsame : inputSize / history.toNat = outputSize / history.toNat) {link : Link}
    (hrun : LinkReachable shiftBeyond
      (initOutputReliableStream outputBuffer outputSize history headerOffset)
      (initInputReliableStream inputBuffer inputSize history onGetFragmentationInfo) link) :
    link.handed <+: link.sent ∧
      (∀ k (hk : k < link.sent.length), link.handed.length ≤ k →
        Kept link.output k link.sent[k]) ∧
      ∀ m ∈ link.data, link.sent.length ≤ m.sentAt + 32768 → ∀ msg : Datagram,
        msg.bytes = m.bytes →
          (readStreamMessages (link.input.base.history.toNat + 1) link.input m.seqNum msg).isSome := by
  obtain ⟨win, h⟩ := linkReachable_inv
    (linkInv_initial outputBuffer inputBuffer hhistory haligned hroom hcapacity hsame) hrun
  exact ⟨h.prefixed, fun _ hk hhanded => h.kept hk hhanded,
    fun _ hm hdelay _ hbytes => h.readable hm hdelay hbytes⟩

/-- A link of two slots of 28 bytes, behind headers of 8. -/
def twoSlotLink : Link :=
  initialLink (initOutputReliableStream (fun _ => 0) 64 2 8)
    (initInputReliableStream (fun _ => 0) 64 2 (@onGetFragmentationInfo referenceMicroCdr))

/-- A message of eight bytes is written and filled in. -/
def oneFilled : Link :=
  let output := (@prepareReliableBufferToWrite referenceMicroCdr twoSlotLink.output 8
    (@ucdrInitBuffer referenceMicroCdr 0 0)).2.1
  { twoSlotLink with
    output := { output with base := output.base.storeBytes 0 8 [9, 1, 4, 0, 1, 2, 3, 4] } }

/-- It is sent. -/
def oneOnTheWay : Link :=
  let r := prepareNextReliableBufferToSend oneFilled.output
  { oneFilled with
    output := r.2.1
    data := [⟨r.2.2.seqNum, messageContents r.2.1 r.2.2, 1⟩]
    sent := [messageContents r.2.1 r.2.2] }

theorem reachable_oneOnTheWay : @LinkReachable referenceMicroCdr (fun _ => 0)
    (initOutputReliableStream (fun _ => 0) 64 2 8)
    (initInputReliableStream (fun _ => 0) 64 2 (@onGetFragmentationInfo referenceMicroCdr))
    oneOnTheWay := by
  refine .tail (.tail (.single (@LinkStep.write referenceMicroCdr (fun _ => 0) twoSlotLink 8
    (@ucdrInitBuffer referenceMicroCdr 0 0) (by decide) (by decide)))
    (@LinkStep.fill referenceMicroCdr (fun _ => 0) _ 0 8 [9, 1, 4, 0, 1, 2, 3, 4]
      (by decide +kernel) (by decide +kernel) (by decide))) ?_
  have hfound : (prepareNextReliableBufferToSend oneFilled.output).1 = true := by decide +kernel
  exact @LinkStep.send referenceMicroCdr (fun _ => 0) oneFilled _ _ (Prod.ext hfound rfl)
    (by decide +kernel)

/-- The message, once it arrives. -/
def oneArriving : Datagram where
  memory := fun a => [9, 1, 4, 0, 1, 2, 3, 4].getD a 0
  buffer := 0
  length := 8

/-- After a message is sent and has arrived, one message was handed over, and it is the one that
was sent. -/
theorem end_to_end_oneArriving : ∃ link : Link,
    @LinkReachable referenceMicroCdr (fun _ => 0) (initOutputReliableStream (fun _ => 0) 64 2 8)
      (initInputReliableStream (fun _ => 0) 64 2 (@onGetFragmentationInfo referenceMicroCdr))
      link ∧ link.handed.length = 1 ∧ link.handed <+: link.sent := by
  have hread : (@readStreamMessages referenceMicroCdr 3 oneOnTheWay.input 0 oneArriving).isSome ∧
      ∀ r ∈ @readStreamMessages referenceMicroCdr 3 oneOnTheWay.input 0 oneArriving,
        r.1.length = 1 := by decide +kernel
  obtain ⟨⟨messages, input⟩, hr⟩ := Option.isSome_iff_exists.mp hread.1
  have hdelivered := reachable_oneOnTheWay.tail (@LinkStep.deliver referenceMicroCdr (fun _ => 0)
    oneOnTheWay _ (List.mem_singleton_self _) (by decide) oneArriving (by decide +kernel) messages
    input hr)
  refine ⟨_, hdelivered, hread.2 _ hr, ?_⟩
  exact (@end_to_end referenceMicroCdr referenceMicroCdr_lawful (fun _ => 0) (fun _ => 0)
    (fun _ => 0) 64 64 2 8 ⟨1, by decide, rfl⟩ rfl (by decide) (by decide) rfl _ hdelivered).1

end XrceClient
