import Mathlib.Logic.Relation
import XrceClient.Transport.TcpReceive

/-!
# A TCP connection from end to end

One side sends messages with `send_tcp_msg`, the other one receives them with `recv_tcp_msg`, on a
connection that keeps the order of its bytes. Either platform takes or gives as much at a time as it
likes, and the calls of the two sides come in any order.

- `TcpLinkStep`: a call on one side.
- `TcpLinkInv`: what was taken of the connection is what the byte by byte receiver has seen.
- `tcp_end_to_end`: the messages that are returned are those that count as sent, in order, up to
  some, and all of them once everything has come.
-/

namespace XrceClient

open ByteMemory

/-- A connection. `sent` are the messages that count as sent, and `returned` those that the calls
of the receiver returned; no code reads either. -/
structure TcpLink where
  inFlight : List UInt8
  connected : Bool
  input : TcpInputBuffer
  sent : List (List UInt8)
  returned : List (List UInt8)

/-- A call on one side of a connection, over which messages of at most `mtu` bytes go. -/
inductive TcpLinkStep (mtu : Nat) : TcpLink → TcpLink → Prop
  /-- A message is sent over a platform that takes the size bytes as it should. The connection is
  given up if it fails. -/
  | send (link : TcpLink) (hconnected : link.connected = true) {σ : Type} (writer : TcpWriter σ)
      (platform : σ) (errorCode : UInt8) (buf : List UInt8) (hpos : 0 < buf.length)
      (hfit : buf.length ≤ mtu)
      (hkept : SizeKept buf
        (writer.counts (msgSizeBuf buf.length) maxWriteTcpAttempts platform)) :
      TcpLinkStep mtu link
        { link with
          inFlight := link.inFlight ++ (sendTcpMsg writer buf platform errorCode).2.accepted
          connected := (sendTcpMsg writer buf platform errorCode).1
          sent := link.sent ++
            if (sendTcpMsg writer buf platform errorCode).1 then [buf] else [] }
  /-- The receiver asks for a message, and gets one or not. -/
  | receive (link : TcpLink) {σ : Type} (reader : TcpReader σ) (receiving receiving' : TcpReceiving σ)
      (hpending : reader.pending receiving.platform = link.inFlight)
      (hinput : receiving.inputBuffer = link.input) (timeout : Int) (turns fuel : Nat)
      (message : Option (List UInt8))
      (hcall : recvTcpMsg reader turns fuel timeout receiving = some (message, receiving')) :
      TcpLinkStep mtu link
        { link with
          inFlight := reader.pending receiving'.platform
          input := receiving'.inputBuffer
          returned := link.returned ++ message.toList }

/-- A new connection. The buffer of the receiver may hold anything. -/
def newTcpLink (input : TcpInputBuffer) : TcpLink where
  inFlight := []
  connected := true
  input
  sent := []
  returned := []

/-- The states that a new connection gets to. -/
def TcpLinkReachable (mtu : Nat) (input : TcpInputBuffer) : TcpLink → Prop :=
  Relation.ReflTransGen (TcpLinkStep mtu) (newTcpLink input)

/-! ## What a step keeps -/

/-- A part of a frame that is not all of one, behind which nothing is sent any more. -/
def Unfinished (mtu : Nat) (connected : Bool) (part : List UInt8) : Prop :=
  if connected then part = []
  else ∃ buf : List UInt8, buf.length ≤ mtu ∧ part <+: tcpFrame buf ∧
    part.length < (tcpFrame buf).length

/-- Of the bytes that were taken for the messages, the receiver has seen those that are not in
flight, and has returned what they put out. -/
structure TcpLinkInv (mtu : Nat) (link : TcpLink) : Prop where
  sizes : ∀ buf ∈ link.sent, 0 < buf.length ∧ buf.length ≤ mtu
  sound : link.input.Sound
  idle : link.input.state ≠ .messageAvailable
  wire : ∃ seen part, seen ++ link.inFlight = (link.sent.map tcpFrame).flatten ++ part ∧
    Unfinished mtu link.connected part ∧
    tcpReceiver.run .size seen = (link.input.awaited, link.returned)

section

variable {mtu : Nat} {link link' : TcpLink}

/-- A call that sends puts a frame on the wire, or a part of one and gives up. -/
theorem sendTcpMsg_wire {σ : Type} {writer : TcpWriter σ} {platform : σ} {errorCode : UInt8}
    {buf : List UInt8} (hpos : 0 < buf.length) (hlen : buf.length < 2 ^ 16)
    (hkept : SizeKept buf
      (writer.counts (msgSizeBuf buf.length) maxWriteTcpAttempts platform)) :
    SentFramed buf (sendTcpMsg writer buf platform errorCode) := by
  have hfollows := sendTcpMsg_follows (List.length_pos_iff.mp hpos) platform errorCode
    (Prod.eta (takenOfSize (msgSizeBuf buf.length) 0 (writer.counts (msgSizeBuf buf.length)
      maxWriteTcpAttempts platform))).symm
  have hcounts {c : Nat} (hc : c ∈ writer.counts (msgSizeBuf buf.length) maxWriteTcpAttempts
      platform) : 0 < c ∧ c ≤ 2 := TcpWriter.mem_counts hc
  rcases takenOfSize_framed hpos hlen (fun _ hc => hcounts hc)
    (TcpWriter.counts_length_le (msgSizeBuf buf.length) maxWriteTcpAttempts platform) with
    ⟨hsent, hsize, -⟩ | ⟨hsent, hsize, hpart⟩
  · rw [hsent] at hfollows
    obtain ⟨k, haccepted, hk, hresult⟩ := hfollows
    rw [SentFramed, haccepted, hresult, hsize.mp hkept, tcpFrame]
    refine ⟨(List.prefix_append_right_inj _).mpr (List.take_prefix _ _), ?_⟩
    rw [List.append_cancel_left_eq, List.take_eq_self_iff]
    omega
  · rw [hsent] at hfollows
    obtain ⟨haccepted, hresult⟩ := hfollows
    rw [SentFramed, haccepted, hresult]
    exact ⟨hsize.mp hkept, fun h => absurd h Bool.false_ne_true, fun h => absurd h hpart⟩

theorem tcpLinkInv_new {input : TcpInputBuffer} (hempty : input.state = .bufferEmpty) :
    TcpLinkInv mtu (newTcpLink input) where
  sizes := nofun
  sound := by
    show input.Sound
    rw [TcpInputBuffer.Sound, hempty]
    trivial
  idle := by
    show input.state ≠ .messageAvailable
    rw [hempty]
    exact TcpInputBufferState.noConfusion
  wire := by
    refine ⟨[], [], rfl, rfl, ?_⟩
    show (TcpAwaited.size, []) = (input.awaited, [])
    rw [TcpInputBuffer.awaited, hempty]

theorem TcpLinkInv.step (hmtu : mtu < 2 ^ 16) (h : TcpLinkInv mtu link)
    (hstep : TcpLinkStep mtu link link') : TcpLinkInv mtu link' := by
  obtain ⟨seen, part, hwire, hpart, hrun⟩ := h.wire
  cases hstep with
  | send hconnected writer platform errorCode buf hpos hfit hkept =>
    obtain ⟨hfront, hall⟩ := @sendTcpMsg_wire _ writer platform errorCode buf hpos (by omega) hkept
    generalize sendTcpMsg writer buf platform errorCode = r at hfront hall
    obtain ⟨result, sending⟩ := r
    rw [hconnected, Unfinished, if_pos rfl] at hpart
    subst hpart
    rw [List.append_nil] at hwire
    cases result with
    | true =>
      have htaken : sending.accepted = tcpFrame buf := hall.mp rfl
      refine ⟨?_, h.sound, h.idle, seen, [], ?_, rfl, hrun⟩
      · intro buf' hbuf'
        rcases List.mem_append.mp hbuf' with hold | hnew
        · exact h.sizes buf' hold
        · rw [List.mem_singleton.mp hnew]
          exact ⟨hpos, hfit⟩
      · dsimp only
        rw [← List.append_assoc, hwire, htaken, if_pos rfl, List.map_append, List.flatten_append]
        simp
    | false =>
      refine ⟨?_, h.sound, h.idle, seen, sending.accepted, ?_, ?_, hrun⟩
      · intro buf' hbuf'
        rcases List.mem_append.mp hbuf' with hold | hnew
        · exact h.sizes buf' hold
        · exact absurd hnew (by simp)
      · dsimp only
        rw [← List.append_assoc, hwire, if_neg Bool.false_ne_true, List.append_nil]
      · refine ⟨buf, hfit, hfront, Nat.lt_of_le_of_ne hfront.length_le ?_⟩
        intro hsame
        exact absurd (hall.mpr (hfront.eq_of_length hsame)) Bool.false_ne_true
  | receive reader receiving receiving' hpending hinput timeout turns fuel message hcall =>
    have hsound : receiving.inputBuffer.Sound := hinput ▸ h.sound
    have hidle : receiving.inputBuffer.state ≠ .messageAvailable := hinput ▸ h.idle
    obtain ⟨hfollows, hidle'⟩ := recvTcpMsg_follows hsound hcall
    obtain ⟨ws, ⟨used, hused, htaken⟩, hmessages⟩ := hfollows.consumes
    rw [TcpInputBuffer.available_eq_nil hidle, TcpInputBuffer.available_eq_nil hidle',
      List.nil_append, List.append_nil] at hmessages
    subst hmessages
    refine ⟨h.sizes, hfollows.sound, hidle', seen ++ used, part, ?_, hpart, ?_⟩
    · rw [List.append_assoc, ← hused, hpending]
      exact hwire
    · rw [hinput] at htaken
      rw [Transducer.run_append, hrun]
      dsimp only
      rw [htaken]

theorem tcpLinkReachable_inv (hmtu : mtu < 2 ^ 16) {input : TcpInputBuffer}
    (hempty : input.state = .bufferEmpty) (hrun : TcpLinkReachable mtu input link) :
    TcpLinkInv mtu link := by
  induction hrun with
  | refl => exact tcpLinkInv_new hempty
  | tail _ hstep ih => exact ih.step hmtu hstep

/-! ## What the receiver puts out -/

/-- What is put out on frames, and on a part of one behind them, are the payloads. -/
theorem run_tcpFrames_unfinished (hmtu : mtu < 2 ^ 16) {sent : List (List UInt8)}
    (hsizes : ∀ buf ∈ sent, 0 < buf.length ∧ buf.length ≤ mtu) {connected : Bool}
    {part : List UInt8} (hpart : Unfinished mtu connected part) :
    (tcpReceiver.run .size ((sent.map tcpFrame).flatten ++ part)).2 = sent := by
  have hlen (buf : List UInt8) (hbuf : buf ∈ sent) : buf.length < 2 ^ 16 := by
    have := (hsizes buf hbuf).2
    omega
  have hnonempty : sent.filter (· ≠ []) = sent := by
    refine List.filter_eq_self.mpr fun buf hbuf => ?_
    exact decide_eq_true (List.length_pos_iff.mp (hsizes buf hbuf).1)
  have hnothing : (tcpReceiver.run .size part).2 = [] := by
    rw [Unfinished] at hpart
    split at hpart
    · rw [hpart]
      rfl
    · obtain ⟨buf, hfit, hfront, hless⟩ := hpart
      exact run_tcpFrame_part (by omega) hfront hless
  rw [Transducer.run_append, run_tcpFrames hlen, hnonempty]
  dsimp only
  rw [hnothing, List.append_nil]

end

/-- **A connection from end to end.** However the calls of the two sides come, and whatever the
platforms take and give at a time, the messages that were returned are the first ones of those that
count as sent, in order, and all of them once nothing is in flight. A call of the receiver comes to
its end, if a read that brings nothing takes some time. -/
theorem tcp_end_to_end {mtu : Nat} (hmtu : mtu < 2 ^ 16) {input : TcpInputBuffer}
    (hempty : input.state = .bufferEmpty) {link : TcpLink}
    (hrun : TcpLinkReachable mtu input link) :
    link.returned <+: link.sent ∧ (link.inFlight = [] → link.returned = link.sent) ∧
      ∀ {σ : Type} (reader : TcpReader σ) (receiving : TcpReceiving σ) (timeout : Int),
        reader.pending receiving.platform = link.inFlight → receiving.inputBuffer = link.input →
        reader.Patient →
        ∃ message receiving', recvTcpMsg reader (link.inFlight.length + 1)
          (timeout.toNat + link.inFlight.length + 1) timeout receiving =
            some (message, receiving') := by
  have h := tcpLinkReachable_inv hmtu hempty hrun
  obtain ⟨seen, part, hwire, hpart, hseen⟩ := h.wire
  have hall := run_tcpFrames_unfinished hmtu h.sizes hpart
  rw [← hwire, Transducer.run_append, hseen] at hall
  dsimp only at hall
  refine ⟨⟨_, hall⟩, ?_, ?_⟩
  · intro hnone
    rw [hnone, Transducer.run_nil, List.append_nil] at hall
    exact hall
  · intro σ reader receiving timeout hpending hinput hpatient
    refine recvTcpMsg_ends hpatient (hinput ▸ h.sound) ?_ ?_
    · rw [hpending]
      omega
    · rw [hpending]
      omega

/-- A connection on which two messages were sent, by a platform that takes two bytes at a time. -/
def twoMessagesSent : TcpLink where
  inFlight := [2, 0, 5, 6, 1, 0, 7]
  connected := true
  input := ⟨fun _ => 0, 0, .bufferEmpty, 0⟩
  sent := [[5, 6], [7]]
  returned := []

theorem reachable_twoMessagesSent : TcpLinkReachable 512 twoMessagesSent.input twoMessagesSent :=
  .tail (.single (.send (newTcpLink twoMessagesSent.input) rfl (atMostWriter 2) () 0 [5, 6]
      (by decide) (by decide) trivial))
    (.send { twoMessagesSent with inFlight := [2, 0, 5, 6], sent := [[5, 6]] } rfl (atMostWriter 2) ()
      0 [7] (by decide) (by decide) trivial)

/-- They arrive one byte every millisecond, and the first call returns the first one. -/
theorem tcp_end_to_end_twoMessages : ∃ link, TcpLinkReachable 512 twoMessagesSent.input link ∧
    link.returned = [[5, 6]] ∧ link.returned <+: link.sent := by
  obtain ⟨-, -, hends⟩ := tcp_end_to_end (by decide) rfl reachable_twoMessagesSent
  obtain ⟨message, receiving', hcall⟩ := hends slowReader
    ⟨twoMessagesSent.inFlight, twoMessagesSent.input, 0, 0⟩ 5 rfl rfl fun _ _ _ _ _ => Nat.one_pos
  have hfirst : ∀ r ∈ recvTcpMsg slowReader 8 13 5
      ⟨twoMessagesSent.inFlight, twoMessagesSent.input, 0, 0⟩, r.1 = some [5, 6] := by
    decide +kernel
  have hmessage : message = some [5, 6] := hfirst _ hcall
  have hreachable := reachable_twoMessagesSent.tail
    (.receive twoMessagesSent slowReader _ receiving' rfl rfl 5 _ _ message hcall)
  obtain ⟨hfront, -, -⟩ := tcp_end_to_end (by decide) rfl hreachable
  refine ⟨_, hreachable, ?_, hfront⟩
  rw [hmessage]
  rfl

end XrceClient
