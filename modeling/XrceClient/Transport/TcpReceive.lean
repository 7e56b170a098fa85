import Mathlib.Logic.Relation
import XrceClient.Base.Transducer
import XrceClient.Transport.TcpSend

/-!
# Receiving over TCP (`tcp_transport.c`)

The receiver reads the size of a message and then the message, as much as the platform has at a
time, and goes on in a later call where an earlier one stopped.

- `readTcpTurn`: one turn of the state machine; `readTcpData`, its loop; `recvTcpMsg`, a call.
- `tcpReceiver`: a receiver that takes the stream one byte at a time.
- `readTcpTurn_turned`: what a turn can do to the first, and what it does to the second.
- `recvCalls_follows`: successive calls return the messages that the second puts out.
- `recvTcpMsg_reads`, `recvCalls_all`: a call reads what there is, so enough calls read all.
- `recv_tcp_framing`.
-/

namespace XrceClient

open ByteMemory

/-- The result of `uxr_read_tcp_data_platform`: the bytes read and the error code; and how many
milliseconds it took. -/
structure TcpDelivery where
  bytes : List UInt8
  errcode : UInt8
  elapsed : Nat

/-- `uxr_read_tcp_data_platform` (tcp_transport_internal.h), which gives the next bytes of the
connection and no more than it is asked for, and `uxr_disconnect_tcp_platform`. -/
structure TcpReader (σ : Type) where
  pending : σ → List UInt8
  read : σ → Nat → Int → TcpDelivery × σ
  disconnect : σ → σ
  length_le : ∀ platform len timeout, (read platform len timeout).1.bytes.length ≤ len
  read_pending : ∀ platform len timeout, pending platform =
    (read platform len timeout).1.bytes ++ pending (read platform len timeout).2
  disconnect_pending : ∀ platform, pending (disconnect platform) = pending platform

/-- `uxrTCPInputBufferState` (tcp_transport.h). -/
inductive TcpInputBufferState where
  | bufferEmpty
  | sizeIncomplete
  | sizeRead
  | messageIncomplete
  | messageAvailable
  deriving DecidableEq, Repr

/-- `uxrTCPInputBuffer` (tcp_transport.h). -/
structure TcpInputBuffer where
  buffer : Memory
  position : Nat
  state : TcpInputBufferState
  msgSize : Nat

/-- What `recv_tcp_msg` works on: the transport, `error_code`, and the time that `uxr_millis`
gives. -/
structure TcpReceiving (σ : Type) where
  platform : σ
  inputBuffer : TcpInputBuffer
  errorCode : UInt8
  millis : Nat

variable {σ : Type} (reader : TcpReader σ)

/-- A call of `uxr_read_tcp_data_platform`. -/
def TcpReceiving.ask (receiving : TcpReceiving σ) (len : Nat) (timeout : Int) :
    TcpDelivery × TcpReceiving σ :=
  let result := reader.read receiving.platform len timeout
  (result.1,
    { receiving with
      platform := result.2
      millis := receiving.millis + result.1.elapsed })

/-- What every state does when nothing is read. -/
def TcpReceiving.nothingRead (receiving : TcpReceiving σ) (errcode : UInt8) : TcpReceiving σ :=
  { receiving with
    platform :=
      if 0 < errcode then reader.disconnect receiving.platform else receiving.platform
    errorCode := errcode }

/-- `UXR_TCP_BUFFER_EMPTY` (tcp_transport.c:162–196). -/
def readTcpSize (timeout : Int) (receiving : TcpReceiving σ) : Option Nat × TcpReceiving σ :=
  let input := { receiving.inputBuffer with position := 0 }
  let (delivery, receiving) := { receiving with inputBuffer := input }.ask reader 2 timeout
  match delivery.bytes with
  | [] => (some 0, receiving.nothingRead reader delivery.errcode)
  | [lsb] =>
    (none,
      { receiving with
        inputBuffer := { input with msgSize := lsb.toNat, state := .sizeIncomplete } })
  | lsb :: msb :: _ =>
    let msgSize := msb.toNat <<< 8 ||| lsb.toNat
    if msgSize ≠ 0 then
      (none, { receiving with inputBuffer := { input with msgSize, state := .sizeRead } })
    else (none, { receiving with inputBuffer := { input with msgSize } })

/-- `UXR_TCP_SIZE_INCOMPLETE` (tcp_transport.c:197–225). -/
def readTcpSizeMsb (timeout : Int) (receiving : TcpReceiving σ) : Option Nat × TcpReceiving σ :=
  let input := receiving.inputBuffer
  let (delivery, receiving) := receiving.ask reader 1 timeout
  match delivery.bytes with
  | [] => (some 0, receiving.nothingRead reader delivery.errcode)
  | msb :: _ =>
    let msgSize := msb.toNat <<< 8 ||| input.msgSize
    if msgSize ≠ 0 then
      (none, { receiving with inputBuffer := { input with msgSize, state := .sizeRead } })
    else (none, { receiving with inputBuffer := { input with msgSize, state := .bufferEmpty } })

/-- `UXR_TCP_SIZE_READ` (tcp_transport.c:226–257). -/
def readTcpMessage (timeout : Int) (receiving : TcpReceiving σ) : Option Nat × TcpReceiving σ :=
  let input := receiving.inputBuffer
  let (delivery, receiving) := receiving.ask reader input.msgSize timeout
  let input := { input with buffer := write input.buffer 0 delivery.bytes }
  if 0 < delivery.bytes.length then
    if delivery.bytes.length = input.msgSize then
      (none, { receiving with inputBuffer := { input with state := .messageAvailable } })
    else
      (some 0,
        { receiving with
          inputBuffer :=
            { input with position := delivery.bytes.length, state := .messageIncomplete } })
  else (some 0, receiving.nothingRead reader delivery.errcode)

/-- `UXR_TCP_MESSAGE_INCOMPLETE` (tcp_transport.c:258–290). -/
def readTcpMessageRest (timeout : Int) (receiving : TcpReceiving σ) :
    Option Nat × TcpReceiving σ :=
  let input := receiving.inputBuffer
  let (delivery, receiving) := receiving.ask reader (input.msgSize - input.position) timeout
  let input := { input with buffer := write input.buffer input.position delivery.bytes }
  if 0 < delivery.bytes.length then
    let input := { input with position := input.position + delivery.bytes.length }
    if input.position = input.msgSize then
      (none, { receiving with inputBuffer := { input with state := .messageAvailable } })
    else (some 0, { receiving with inputBuffer := input })
  else (some 0, receiving.nothingRead reader delivery.errcode)

/-- One turn of the loop in `read_tcp_data` (tcp_transport.c:158–303), with the result if the loop
is left. -/
def readTcpTurn (timeout : Int) (receiving : TcpReceiving σ) : Option Nat × TcpReceiving σ :=
  match receiving.inputBuffer.state with
  | .bufferEmpty => readTcpSize reader timeout receiving
  | .sizeIncomplete => readTcpSizeMsb reader timeout receiving
  | .sizeRead => readTcpMessage reader timeout receiving
  | .messageIncomplete => readTcpMessageRest reader timeout receiving
  | .messageAvailable =>
    (some receiving.inputBuffer.msgSize,
      { receiving with inputBuffer.state := .bufferEmpty })

/-- `read_tcp_data` (tcp_transport.c:150–306), taking at most `fuel` turns. -/
def readTcpData (timeout : Int) : Nat → TcpReceiving σ → Option (Nat × TcpReceiving σ)
  | 0, _ => none
  | fuel + 1, receiving =>
    match readTcpTurn reader timeout receiving with
    | (some rv, receiving) => some (rv, receiving)
    | (none, receiving) => readTcpData timeout fuel receiving

/-- `recv_tcp_msg` (tcp_transport.c:115–142), making at most `fuel` calls of `read_tcp_data`, each of
at most `turns` turns. The result is the message to which `buf` and `len` point, if it is true. -/
def recvTcpMsg (turns : Nat) : Nat → Int → TcpReceiving σ → Option (Option (List UInt8) × TcpReceiving σ)
  | 0, _, _ => none
  | fuel + 1, timeout, receiving => do
    let (bytesRead, receiving') ← readTcpData reader timeout turns receiving
    let timeout := timeout - (receiving'.millis - receiving.millis : Nat)
    if 0 < bytesRead then
      return (some (read receiving'.inputBuffer.buffer 0 bytesRead), receiving')
    else if 0 < timeout then recvTcpMsg turns fuel timeout receiving'
    else return (none, receiving')

/-- Successive calls, with the messages that they return. -/
def recvCalls (turns fuel : Nat) :
    List Int → TcpReceiving σ → Option (List (List UInt8) × TcpReceiving σ)
  | [], receiving => some ([], receiving)
  | timeout :: timeouts, receiving => do
    let (message, receiving) ← recvTcpMsg reader turns fuel timeout receiving
    let (messages, receiving) ← recvCalls turns fuel timeouts receiving
    return (message.toList ++ messages, receiving)

/-! ## A receiver that takes one byte at a time -/

/-- What comes next on the connection, with what has come of it. -/
inductive TcpAwaited where
  | size
  | sizeMsb (lsb : UInt8)
  | payload (msgSize : Nat) (octets : List UInt8)

namespace TcpAwaited

/-- What comes behind a byte, and the message that is complete with it. -/
def accept : TcpAwaited → UInt8 → TcpAwaited × List (List UInt8)
  | .size, b => (.sizeMsb b, [])
  | .sizeMsb lsb, b =>
    (if ofLeBytes [lsb, b] = 0 then .size else .payload (ofLeBytes [lsb, b]) [], [])
  | .payload msgSize octets, b =>
    if octets.length + 1 = msgSize then (.size, [octets ++ [b]])
    else (.payload msgSize (octets ++ [b]), [])

end TcpAwaited

/-- The receiver. -/
def tcpReceiver : Transducer TcpAwaited UInt8 (List UInt8) := ⟨TcpAwaited.accept⟩

/-- The rest of a payload, up to its last byte. -/
theorem run_tcpPayload {octets kept : List UInt8} {msgSize : Nat}
    (hless : kept.length < msgSize) (hle : kept.length + octets.length ≤ msgSize) :
    tcpReceiver.run (.payload msgSize kept) octets =
      if kept.length + octets.length = msgSize then (.size, [kept ++ octets])
      else (.payload msgSize (kept ++ octets), []) := by
  induction octets generalizing kept with
  | nil =>
    rw [Transducer.run_nil, List.length_nil, if_neg (by omega), List.append_nil]
  | cons octet octets ih =>
    rw [List.length_cons] at hle ⊢
    rw [Transducer.run_cons]
    by_cases hlast : kept.length + 1 = msgSize
    · have hnil : octets = [] := List.length_eq_zero_iff.mp (by omega)
      have hstep : tcpReceiver.step (.payload msgSize kept) octet =
          (.size, [kept ++ [octet]]) := if_pos hlast
      rw [hstep, hnil, if_pos (by simpa using hlast)]
      rfl
    · have hstep : tcpReceiver.step (.payload msgSize kept) octet =
          (.payload msgSize (kept ++ [octet]), []) := if_neg hlast
      rw [hstep, ih (by simp; omega) (by simp; omega), List.nil_append, List.append_assoc,
        List.length_append, List.length_singleton, Nat.add_assoc, Nat.add_comm 1]
      rfl

/-- The two size bytes of a message. -/
theorem run_tcpSize {len : Nat} (hlen : len < 2 ^ 16) :
    tcpReceiver.run .size (msgSizeBuf len) =
      (if len = 0 then .size else .payload len [], []) := by
  have hsize : ofLeBytes (leBytes 2 len) = len := by
    rw [ofLeBytes_leBytes, Nat.mod_eq_of_lt (by omega)]
  rw [msgSizeBuf_eq]
  show (if ofLeBytes (leBytes 2 len) = 0 then TcpAwaited.size
    else .payload (ofLeBytes (leBytes 2 len)) [], []) = _
  rw [hsize]

/-- A frame puts out its payload, if it has one. -/
theorem run_tcpFrame {buf : List UInt8} (hlen : buf.length < 2 ^ 16) :
    tcpReceiver.run .size (tcpFrame buf) = (.size, if buf = [] then [] else [buf]) := by
  rw [tcpFrame, Transducer.run_append, run_tcpSize hlen]
  by_cases hnil : buf = []
  · subst hnil
    rfl
  · have hpos := List.length_pos_iff.mpr hnil
    rw [if_neg (by omega), if_neg hnil, run_tcpPayload hpos (by simp), if_pos (by simp)]
    rfl

/-- Frames put out their payloads that are not empty. -/
theorem run_tcpFrames {frames : List (List UInt8)} (h : ∀ buf ∈ frames, buf.length < 2 ^ 16) :
    tcpReceiver.run .size (frames.map tcpFrame).flatten =
      (.size, frames.filter (· ≠ [])) := by
  induction frames with
  | nil => rfl
  | cons buf frames ih =>
    rw [List.map_cons, List.flatten_cons, Transducer.run_append,
      run_tcpFrame (h buf List.mem_cons_self),
      ih fun buf hbuf => h buf (List.mem_cons_of_mem _ hbuf)]
    by_cases hnil : buf = []
    · rw [if_pos hnil, List.filter_cons_of_neg (by simpa using hnil)]
      rfl
    · rw [if_neg hnil, List.filter_cons_of_pos (by simpa using hnil)]
      rfl

/-! ## The states of the machine -/

namespace TcpInputBuffer

/-- What comes next on the connection. -/
def awaited (input : TcpInputBuffer) : TcpAwaited :=
  match input.state with
  | .bufferEmpty | .messageAvailable => .size
  | .sizeIncomplete => .sizeMsb (UInt8.ofNat input.msgSize)
  | .sizeRead => .payload input.msgSize []
  | .messageIncomplete => .payload input.msgSize (read input.buffer 0 input.position)

/-- The message that is complete and was not returned. -/
def available (input : TcpInputBuffer) : List (List UInt8) :=
  match input.state with
  | .messageAvailable => [read input.buffer 0 input.msgSize]
  | _ => []

/-- What holds of the size and the position in each state. -/
def Sound (input : TcpInputBuffer) : Prop :=
  match input.state with
  | .bufferEmpty => True
  | .sizeIncomplete => input.msgSize < 256
  | .sizeRead | .messageAvailable => 0 < input.msgSize
  | .messageIncomplete => input.position < input.msgSize

theorem available_eq_nil {input : TcpInputBuffer} (h : input.state ≠ .messageAvailable) :
    input.available = [] := by
  unfold available
  split
  · next hstate => exact absurd hstate h
  · rfl

end TcpInputBuffer

/-- The receiver has used a front part of what was pending, and has returned the messages in it. -/
structure TcpFollows (r r' : TcpReceiving σ) (messages : List (List UInt8)) : Prop where
  sound : r'.inputBuffer.Sound
  millis : r.millis ≤ r'.millis
  consumes : ∃ ws, tcpReceiver.Consumes r.inputBuffer.awaited (reader.pending r.platform)
      r'.inputBuffer.awaited (reader.pending r'.platform) ws ∧
    r.inputBuffer.available ++ ws = messages ++ r'.inputBuffer.available

section

variable {reader} {r r' r'' : TcpReceiving σ} {messages messages' : List (List UInt8)}

theorem TcpFollows.refl (h : r.inputBuffer.Sound) : TcpFollows reader r r [] :=
  ⟨h, Nat.le_refl _, [], .refl _ _, List.append_nil _⟩

theorem TcpFollows.trans (h : TcpFollows reader r r' messages)
    (h' : TcpFollows reader r' r'' messages') :
    TcpFollows reader r r'' (messages ++ messages') := by
  obtain ⟨ws, hconsumes, hmessages⟩ := h.consumes
  obtain ⟨ws', hconsumes', hmessages'⟩ := h'.consumes
  refine ⟨h'.sound, Nat.le_trans h.millis h'.millis, ws ++ ws', hconsumes.trans hconsumes', ?_⟩
  rw [← List.append_assoc, hmessages, List.append_assoc, hmessages', List.append_assoc]

theorem TcpFollows.length_le (h : TcpFollows reader r r' messages) :
    (reader.pending r'.platform).length ≤ (reader.pending r.platform).length := by
  obtain ⟨ws, ⟨used, heq, -⟩, -⟩ := h.consumes
  rw [heq, List.length_append]
  exact Nat.le_add_left _ _

/-- The receiver reads some bytes and does with them what the other one does. -/
theorem TcpFollows.of_run {bytes : List UInt8} {ws : List (List UInt8)}
    (hpending : reader.pending r.platform = bytes ++ reader.pending r'.platform)
    (hrun : tcpReceiver.run r.inputBuffer.awaited bytes = (r'.inputBuffer.awaited, ws))
    (hmessages : r.inputBuffer.available ++ ws = messages ++ r'.inputBuffer.available)
    (hsound : r'.inputBuffer.Sound) (hmillis : r.millis ≤ r'.millis) :
    TcpFollows reader r r' messages :=
  ⟨hsound, hmillis, ws, ⟨bytes, hpending, hrun⟩, hmessages⟩

variable (reader) in
/-- A read that brings nothing, though it may wait, takes some time. -/
def TcpReader.Patient : Prop :=
  ∀ platform len timeout, 0 < timeout → (reader.read platform len timeout).1.bytes = [] →
    0 < (reader.read platform len timeout).1.elapsed

variable (reader) in
/-- A read brings nothing, though it asks for something. -/
def TcpReader.NothingRead (timeout : Int) (platform platform' : σ) : Prop :=
  ∃ len, 0 < len ∧ (reader.read platform len timeout).1.bytes = [] ∧
    (platform' = (reader.read platform len timeout).2 ∨
      platform' = reader.disconnect (reader.read platform len timeout).2)

theorem TcpReader.NothingRead.pending {timeout : Int} {platform platform' : σ}
    (h : reader.NothingRead timeout platform platform') :
    reader.pending platform' = reader.pending platform := by
  obtain ⟨len, -, hnone, rfl | rfl⟩ := h
  · rw [reader.read_pending platform len timeout, hnone, List.nil_append]
  · rw [reader.disconnect_pending, reader.read_pending platform len timeout, hnone,
      List.nil_append]

variable (reader) in
/-- While there are bytes on the connection, one read after the other cannot bring nothing for
ever. -/
def TcpReader.Delivers : Prop :=
  WellFounded fun platform' platform =>
    reader.pending platform ≠ [] ∧ ∃ timeout, reader.NothingRead timeout platform platform'

/-- Reads that bring nothing, one after the other, leave what is on the connection. -/
theorem TcpReader.NothingRead.transGen {timeout : Int} {platform platform₁ platform' : σ}
    (h : reader.NothingRead timeout platform platform₁)
    (hafter : Relation.ReflTransGen (fun s s' => ∃ timeout, reader.NothingRead timeout s s')
      platform₁ platform') (hsome : reader.pending platform ≠ []) :
    Relation.TransGen (fun s' s =>
        reader.pending s ≠ [] ∧ ∃ timeout, reader.NothingRead timeout s s') platform' platform ∧
      reader.pending platform' = reader.pending platform := by
  induction hafter with
  | refl => exact ⟨.single ⟨hsome, timeout, h⟩, h.pending⟩
  | tail _ hstep ih =>
    obtain ⟨timeout', hnothing⟩ := hstep
    exact ⟨.head ⟨ih.2 ▸ hsome, timeout', hnothing⟩ ih.1, hnothing.pending.trans ih.2⟩

variable (reader) in
/-- What a turn can do: read something and go on; leave the loop with nothing, when it read less
than it asked for; or return a message. -/
inductive TcpTurned (timeout : Int) (r : TcpReceiving σ) :
    Option Nat × TcpReceiving σ → Prop where
  | goesOn (r' : TcpReceiving σ) (follows : TcpFollows reader r r' [])
      (less : (reader.pending r'.platform).length < (reader.pending r.platform).length) :
      TcpTurned timeout r (none, r')
  | leaves (r' : TcpReceiving σ) (follows : TcpFollows reader r r' [])
      (state : r'.inputBuffer.state ≠ .messageAvailable)
      (idle : (reader.pending r'.platform).length < (reader.pending r.platform).length ∨
        reader.NothingRead timeout r.platform r'.platform ∧
          (reader.Patient → 0 < timeout → r.millis < r'.millis)) :
      TcpTurned timeout r (some 0, r')
  | returns (n : Nat) (r' : TcpReceiving σ) (pos : 0 < n)
      (follows : TcpFollows reader r r' [read r'.inputBuffer.buffer 0 n])
      (state : r'.inputBuffer.state ≠ .messageAvailable) :
      TcpTurned timeout r (some n, r')

/-! ## One turn -/

variable (reader) in
/-- What a call of `uxr_read_tcp_data_platform` does to the receiver `r`, which has changed its
buffer to `input`. -/
structure Asked (r : TcpReceiving σ) (input : TcpInputBuffer) (len : Nat) (timeout : Int)
    (delivery : TcpDelivery) (r₁ : TcpReceiving σ) : Prop where
  pending : reader.pending r.platform = delivery.bytes ++ reader.pending r₁.platform
  length_le : delivery.bytes.length ≤ len
  inputBuffer : r₁.inputBuffer = input
  millis : r.millis ≤ r₁.millis
  platform : delivery.bytes = (reader.read r.platform len timeout).1.bytes ∧
    r₁.platform = (reader.read r.platform len timeout).2
  idle : delivery.bytes = [] → reader.Patient → 0 < timeout → r.millis < r₁.millis

variable {input : TcpInputBuffer} {len : Nat} {timeout : Int} {delivery : TcpDelivery}
  {r₁ : TcpReceiving σ}

theorem asked_of_eq
    (hask : { r with inputBuffer := input }.ask reader len timeout = (delivery, r₁)) :
    Asked reader r input len timeout delivery r₁ := by
  cases hask
  exact
    { pending := reader.read_pending r.platform len timeout
      length_le := reader.length_le r.platform len timeout
      inputBuffer := rfl
      millis := Nat.le_add_right _ _
      platform := ⟨rfl, rfl⟩
      idle := fun hnone hpatient hwaits =>
        Nat.lt_add_of_pos_right (hpatient r.platform len timeout hwaits hnone) }

/-- Nothing is read. The other receiver stands still. -/
theorem Asked.nothingRead (h : Asked reader r input len timeout delivery r₁) (hlen : 0 < len)
    (hnone : delivery.bytes = []) (hsound : input.Sound)
    (hawaited : input.awaited = r.inputBuffer.awaited)
    (hstate : input.state ≠ .messageAvailable) (havailable : r.inputBuffer.available = [])
    (errcode : UInt8) :
    TcpTurned reader timeout r (some 0, r₁.nothingRead reader errcode) := by
  have hplatform : reader.pending (r₁.nothingRead reader errcode).platform =
      reader.pending r₁.platform := by
    unfold TcpReceiving.nothingRead
    dsimp only
    split
    · exact reader.disconnect_pending _
    · rfl
  have hinput : (r₁.nothingRead reader errcode).inputBuffer = input := h.inputBuffer
  have hpending := h.pending
  rw [hnone] at hpending
  have hnothing : reader.NothingRead timeout r.platform
      (r₁.nothingRead reader errcode).platform := by
    refine ⟨len, hlen, h.platform.1 ▸ hnone, ?_⟩
    rw [← h.platform.2]
    unfold TcpReceiving.nothingRead
    dsimp only
    split
    · exact .inr rfl
    · exact .inl rfl
  refine .leaves _ ?_ (by rwa [hinput]) (.inr ⟨hnothing, h.idle hnone⟩)
  refine ⟨by rwa [hinput], h.millis, [], ⟨[], hplatform.symm ▸ hpending, ?_⟩, ?_⟩
  · rw [hinput, hawaited]
    rfl
  · rw [hinput, havailable, TcpInputBuffer.available_eq_nil hstate]

/-- Some bytes are read, and the loop goes on. -/
theorem Asked.goesOn (h : Asked reader r input len timeout delivery r₁)
    (hsome : 0 < delivery.bytes.length) {input' : TcpInputBuffer}
    (hrun : tcpReceiver.run r.inputBuffer.awaited delivery.bytes =
      (input'.awaited, input'.available))
    (havailable : r.inputBuffer.available = []) (hsound : input'.Sound) :
    TcpTurned reader timeout r (none, { r₁ with inputBuffer := input' }) := by
  refine .goesOn _ (show TcpFollows reader r { r₁ with inputBuffer := input' } [] from
    .of_run h.pending hrun ?_ hsound h.millis) ?_
  · rw [havailable]
  · have hlength := congrArg List.length h.pending
    rw [List.length_append] at hlength
    dsimp only
    omega

/-- Some bytes of a message are read, but not all of them. -/
theorem Asked.leaves (h : Asked reader r input len timeout delivery r₁)
    (hsome : 0 < delivery.bytes.length) {input' : TcpInputBuffer}
    (hrun : tcpReceiver.run r.inputBuffer.awaited delivery.bytes = (input'.awaited, []))
    (havailable : r.inputBuffer.available = []) (hstate : input'.state ≠ .messageAvailable)
    (hsound : input'.Sound) :
    TcpTurned reader timeout r (some 0, { r₁ with inputBuffer := input' }) := by
  refine .leaves _ (show TcpFollows reader r { r₁ with inputBuffer := input' } [] from
    .of_run h.pending hrun ?_ hsound h.millis) hstate (.inl ?_)
  · rw [havailable, TcpInputBuffer.available_eq_nil hstate]
  · have hlength := congrArg List.length h.pending
    rw [List.length_append] at hlength
    dsimp only
    omega

theorem size_eq_ofLeBytes (lsb msb : UInt8) :
    msb.toNat <<< 8 ||| lsb.toNat = ofLeBytes [lsb, msb] := by
  rw [← Nat.shiftLeft_add_eq_or_of_lt lsb.toNat_lt, Nat.shiftLeft_eq, ofLeBytes, ofLeBytes,
    ofLeBytes]
  omega

/-- The size is awaited. -/
theorem readTcpSize_turned (hstate : r.inputBuffer.state = .bufferEmpty) :
    TcpTurned reader timeout r (readTcpSize reader timeout r) := by
  have hawaited : r.inputBuffer.awaited = .size := by
    rw [TcpInputBuffer.awaited, hstate]
  have havailable : r.inputBuffer.available = [] :=
    TcpInputBuffer.available_eq_nil (by rw [hstate]; nofun)
  unfold readTcpSize
  dsimp only
  cases hask : ({ r with inputBuffer := { r.inputBuffer with position := 0 } } :
    TcpReceiving σ).ask reader 2 timeout with
  | mk delivery r₁ =>
    have hasked := asked_of_eq hask
    obtain ⟨bytes, errcode, elapsed⟩ := delivery
    match bytes with
    | [] =>
      refine hasked.nothingRead Nat.two_pos rfl ?_ ?_ ?_ havailable errcode
      all_goals
        simp [TcpInputBuffer.Sound, TcpInputBuffer.awaited, hstate]
    | [lsb] =>
      refine hasked.goesOn Nat.one_pos ?_ havailable lsb.toNat_lt
      rw [hawaited]
      show (TcpAwaited.sizeMsb lsb, []) = (TcpAwaited.sizeMsb (UInt8.ofNat lsb.toNat), [])
      rw [UInt8.ofNat_toNat]
    | lsb :: msb :: rest =>
      have hrest : rest = [] := by
        have hlength := hasked.length_le
        simp only [List.length_cons] at hlength
        exact List.length_eq_zero_iff.mp (by omega)
      subst hrest
      have hrun : tcpReceiver.run .size [lsb, msb] =
        (if ofLeBytes [lsb, msb] = 0 then .size else .payload (ofLeBytes [lsb, msb]) [], []) := rfl
      dsimp only
      rw [size_eq_ofLeBytes]
      split
      · next hsize =>
        refine hasked.goesOn Nat.two_pos ?_ havailable (Nat.pos_of_ne_zero hsize)
        rw [hawaited, hrun, if_neg hsize]
        rfl
      · next hsize =>
        refine hasked.goesOn Nat.two_pos ?_ havailable (by simp [TcpInputBuffer.Sound, hstate])
        rw [hawaited, hrun, if_pos (not_not.mp hsize)]
        simp [TcpInputBuffer.awaited, TcpInputBuffer.available, hstate]

/-- The second byte of the size is awaited. -/
theorem readTcpSizeMsb_turned (hstate : r.inputBuffer.state = .sizeIncomplete)
    (hsound : r.inputBuffer.Sound) :
    TcpTurned reader timeout r (readTcpSizeMsb reader timeout r) := by
  have hawaited : r.inputBuffer.awaited = .sizeMsb (UInt8.ofNat r.inputBuffer.msgSize) := by
    rw [TcpInputBuffer.awaited, hstate]
  have hne : r.inputBuffer.state ≠ .messageAvailable := by rw [hstate]; nofun
  have havailable := TcpInputBuffer.available_eq_nil hne
  have hless : r.inputBuffer.msgSize < 256 := by
    rwa [TcpInputBuffer.Sound, hstate] at hsound
  unfold readTcpSizeMsb
  dsimp only
  cases hask : r.ask reader 1 timeout with
  | mk delivery r₁ =>
    have hasked := @asked_of_eq σ reader r r.inputBuffer 1 timeout delivery r₁ hask
    obtain ⟨bytes, errcode, elapsed⟩ := delivery
    match bytes with
    | [] => exact hasked.nothingRead Nat.one_pos rfl hsound rfl hne havailable errcode
    | msb :: rest =>
      have hrest : rest = [] := by
        have hlength := hasked.length_le
        simp only [List.length_cons] at hlength
        exact List.length_eq_zero_iff.mp (by omega)
      subst hrest
      have hsize : msb.toNat <<< 8 ||| r.inputBuffer.msgSize =
          ofLeBytes [UInt8.ofNat r.inputBuffer.msgSize, msb] := by
        rw [← size_eq_ofLeBytes, UInt8.toNat_ofNat', Nat.mod_eq_of_lt hless]
      have hrun (lsb : UInt8) : tcpReceiver.run (.sizeMsb lsb) [msb] =
        (if ofLeBytes [lsb, msb] = 0 then .size else .payload (ofLeBytes [lsb, msb]) [], []) := rfl
      dsimp only
      rw [hsize]
      split
      · next hsize =>
        refine hasked.goesOn Nat.one_pos ?_ havailable (Nat.pos_of_ne_zero hsize)
        rw [hawaited, hrun, if_neg hsize]
        rfl
      · next hsize =>
        refine hasked.goesOn Nat.one_pos ?_ havailable trivial
        rw [hawaited, hrun, if_pos (not_not.mp hsize)]
        rfl

/-- The payload is awaited. -/
theorem readTcpMessage_turned (hstate : r.inputBuffer.state = .sizeRead)
    (hsound : r.inputBuffer.Sound) :
    TcpTurned reader timeout r (readTcpMessage reader timeout r) := by
  have hawaited : r.inputBuffer.awaited = .payload r.inputBuffer.msgSize [] := by
    rw [TcpInputBuffer.awaited, hstate]
  have hne : r.inputBuffer.state ≠ .messageAvailable := by rw [hstate]; nofun
  have havailable := TcpInputBuffer.available_eq_nil hne
  have hpos : 0 < r.inputBuffer.msgSize := by
    rwa [TcpInputBuffer.Sound, hstate] at hsound
  unfold readTcpMessage
  dsimp only
  cases hask : r.ask reader r.inputBuffer.msgSize timeout with
  | mk delivery r₁ =>
    have hasked := @asked_of_eq σ reader r r.inputBuffer _ timeout delivery r₁ hask
    have hlength := hasked.length_le
    have hrun : tcpReceiver.run r.inputBuffer.awaited delivery.bytes =
        if delivery.bytes.length = r.inputBuffer.msgSize then (.size, [delivery.bytes])
        else (.payload r.inputBuffer.msgSize delivery.bytes, []) := by
      rw [hawaited, run_tcpPayload hpos (by simpa using hlength), List.length_nil, Nat.zero_add,
        List.nil_append]
    have hread := read_write_self r.inputBuffer.buffer 0 delivery.bytes
    dsimp only
    split
    · next hsome =>
      split
      · next hall =>
        refine hasked.goesOn hsome ?_ havailable hpos
        rw [hrun, if_pos hall]
        show _ = (TcpAwaited.size, [read _ 0 r.inputBuffer.msgSize])
        rw [← hall, hread]
      · next hpart =>
        refine hasked.leaves hsome ?_ havailable nofun (Nat.lt_of_le_of_ne hlength hpart)
        rw [hrun, if_neg hpart]
        show _ = (TcpAwaited.payload r.inputBuffer.msgSize (read _ 0 delivery.bytes.length), [])
        rw [hread]
    · next hnone =>
      have hnil := List.length_eq_zero_iff.mp (Nat.eq_zero_of_not_pos hnone)
      exact hasked.nothingRead hpos hnil hsound rfl hne havailable _

/-- The rest of the payload is awaited. -/
theorem readTcpMessageRest_turned (hstate : r.inputBuffer.state = .messageIncomplete)
    (hsound : r.inputBuffer.Sound) :
    TcpTurned reader timeout r (readTcpMessageRest reader timeout r) := by
  have hawaited : r.inputBuffer.awaited =
      .payload r.inputBuffer.msgSize (read r.inputBuffer.buffer 0 r.inputBuffer.position) := by
    rw [TcpInputBuffer.awaited, hstate]
  have hne : r.inputBuffer.state ≠ .messageAvailable := by rw [hstate]; nofun
  have havailable := TcpInputBuffer.available_eq_nil hne
  have hless : r.inputBuffer.position < r.inputBuffer.msgSize := by
    rwa [TcpInputBuffer.Sound, hstate] at hsound
  unfold readTcpMessageRest
  dsimp only
  cases hask : r.ask reader (r.inputBuffer.msgSize - r.inputBuffer.position) timeout with
  | mk delivery r₁ =>
    have hasked := @asked_of_eq σ reader r r.inputBuffer _ timeout delivery r₁ hask
    have hlength := hasked.length_le
    have hrun : tcpReceiver.run r.inputBuffer.awaited delivery.bytes =
        if r.inputBuffer.position + delivery.bytes.length = r.inputBuffer.msgSize then
          (.size, [read r.inputBuffer.buffer 0 r.inputBuffer.position ++ delivery.bytes])
        else
          (.payload r.inputBuffer.msgSize
            (read r.inputBuffer.buffer 0 r.inputBuffer.position ++ delivery.bytes), []) := by
      rw [hawaited, run_tcpPayload (by rwa [read_length]) (by rw [read_length]; omega),
        read_length]
    have hread : read (write r.inputBuffer.buffer r.inputBuffer.position delivery.bytes) 0
        (r.inputBuffer.position + delivery.bytes.length) =
        read r.inputBuffer.buffer 0 r.inputBuffer.position ++ delivery.bytes := by
      rw [read_append, read_write_disjoint _ (.inl (Nat.le_of_eq (Nat.zero_add _))), Nat.zero_add,
        read_write_self]
    dsimp only
    split
    · next hsome =>
      split
      · next hall =>
        refine hasked.goesOn hsome ?_ havailable (Nat.zero_lt_of_lt hless)
        rw [hrun, if_pos hall]
        show _ = (TcpAwaited.size, [read _ 0 r.inputBuffer.msgSize])
        rw [← hread, hall]
      · next hpart =>
        refine hasked.leaves hsome ?_ havailable hne ?_
        · rw [hrun, if_neg hpart, ← hread, TcpInputBuffer.awaited, hstate]
        · rw [TcpInputBuffer.Sound, hstate]
          show r.inputBuffer.position + delivery.bytes.length < r.inputBuffer.msgSize
          omega
    · next hnone =>
      have hnil := List.length_eq_zero_iff.mp (Nat.eq_zero_of_not_pos hnone)
      exact hasked.nothingRead (Nat.sub_pos_of_lt hless) hnil hsound rfl hne havailable _

/-- What a turn can do, whatever the state. -/
theorem readTcpTurn_turned (hsound : r.inputBuffer.Sound) :
    TcpTurned reader timeout r (readTcpTurn reader timeout r) := by
  unfold readTcpTurn
  split
  · next hstate => exact readTcpSize_turned hstate
  · next hstate => exact readTcpSizeMsb_turned hstate hsound
  · next hstate => exact readTcpMessage_turned hstate hsound
  · next hstate => exact readTcpMessageRest_turned hstate hsound
  · next hstate =>
    have hpos : 0 < r.inputBuffer.msgSize := by
      rwa [TcpInputBuffer.Sound, hstate] at hsound
    refine .returns _ _ hpos ?_ nofun
    refine ⟨trivial, Nat.le_refl _, [], ⟨[], rfl, ?_⟩, ?_⟩
    · rw [TcpInputBuffer.awaited, hstate]
      rfl
    · rw [TcpInputBuffer.available, hstate]
      rfl

/-! ## Calls -/

theorem TcpTurned.leave {n : Nat} (h : TcpTurned reader timeout r (none, r'))
    (h' : TcpTurned reader timeout r' (some n, r'')) :
    TcpTurned reader timeout r (some n, r'') := by
  cases h with
  | goesOn _ follows less =>
    cases h' with
    | leaves _ follows' state idle =>
      exact .leaves _ (follows.trans follows') state (.inl (Nat.lt_of_le_of_lt follows'.length_le less))
    | returns n _ pos follows' state => exact .returns n _ pos (follows.trans follows') state

/-- The loop does in the end what a turn does that leaves it. -/
theorem readTcpData_turned {fuel n : Nat} (hsound : r.inputBuffer.Sound)
    (h : readTcpData reader timeout fuel r = some (n, r')) :
    TcpTurned reader timeout r (some n, r') := by
  induction fuel generalizing r with
  | zero => cases h
  | succ fuel ih =>
    have hturned := @readTcpTurn_turned σ reader r timeout hsound
    rw [readTcpData] at h
    generalize readTcpTurn reader timeout r = result at h hturned
    obtain ⟨_ | n₁, r₁⟩ := result
    · cases hturned with
      | goesOn _ follows less =>
        exact TcpTurned.leave (.goesOn r₁ follows less) (ih follows.sound h)
    · cases h
      exact hturned

/-- The loop is left, since every turn that goes on reads something. -/
theorem readTcpData_ends {fuel : Nat} (hsound : r.inputBuffer.Sound)
    (hfuel : (reader.pending r.platform).length < fuel) :
    ∃ n r', readTcpData reader timeout fuel r = some (n, r') := by
  induction fuel generalizing r with
  | zero => exact absurd hfuel (Nat.not_lt_zero _)
  | succ fuel ih =>
    have hturned := @readTcpTurn_turned σ reader r timeout hsound
    rw [readTcpData]
    generalize readTcpTurn reader timeout r = result at hturned
    obtain ⟨_ | n₁, r₁⟩ := result
    · cases hturned with
      | goesOn _ follows less => exact ih follows.sound (by omega)
    · exact ⟨n₁, r₁, rfl⟩

/-- What a call returns is what the other receiver puts out meanwhile. -/
theorem recvTcpMsg_follows {turns fuel : Nat} {message : Option (List UInt8)}
    (hsound : r.inputBuffer.Sound)
    (h : recvTcpMsg reader turns fuel timeout r = some (message, r')) :
    TcpFollows reader r r' message.toList ∧ r'.inputBuffer.state ≠ .messageAvailable := by
  induction fuel generalizing r timeout with
  | zero => cases h
  | succ fuel ih =>
    rw [recvTcpMsg] at h
    obtain ⟨⟨n, r₁⟩, hdata, hrest⟩ := Option.bind_eq_some_iff.mp h
    dsimp only at hrest
    cases readTcpData_turned hsound hdata with
    | leaves _ follows state idle =>
      rw [if_neg (Nat.lt_irrefl 0)] at hrest
      split at hrest
      · obtain ⟨hfollows, hstate⟩ := ih follows.sound hrest
        exact ⟨follows.trans hfollows, hstate⟩
      · cases hrest
        exact ⟨follows, state⟩
    | returns n _ pos follows state =>
      rw [if_pos pos] at hrest
      cases hrest
      exact ⟨follows, state⟩

/-- A call returns, if a read that brings nothing takes some time. -/
theorem recvTcpMsg_ends (hpatient : reader.Patient) {turns fuel : Nat}
    (hsound : r.inputBuffer.Sound) (hturns : (reader.pending r.platform).length < turns)
    (hfuel : timeout.toNat + (reader.pending r.platform).length < fuel) :
    ∃ message r', recvTcpMsg reader turns fuel timeout r = some (message, r') := by
  induction fuel generalizing r timeout with
  | zero => exact absurd hfuel (Nat.not_lt_zero _)
  | succ fuel ih =>
    obtain ⟨n, r₁, hdata⟩ := @readTcpData_ends σ reader r timeout turns hsound hturns
    have hturned := readTcpData_turned hsound hdata
    rw [recvTcpMsg, hdata]
    simp only [Option.bind_eq_bind, Option.bind_some]
    split
    · exact ⟨_, _, rfl⟩
    · split
      · next hwaits =>
        cases hturned with
        | leaves _ follows state idle =>
          have hlength := follows.length_le
          have hmillis := follows.millis
          refine ih follows.sound (by omega) ?_
          rcases idle with hless | htime
          · omega
          · have hlater := htime.2 hpatient (by omega)
            omega
        | returns n _ pos follows state => exact absurd pos (by assumption)
      · exact ⟨_, _, rfl⟩

/-- A message comes from the connection. -/
theorem TcpFollows.returned {message : List UInt8} (h : TcpFollows reader r r' [message])
    (hstate : r.inputBuffer.state ≠ .messageAvailable) :
    (reader.pending r'.platform).length < (reader.pending r.platform).length := by
  obtain ⟨ws, ⟨used, heq, hrun⟩, hmessages⟩ := h.consumes
  rw [TcpInputBuffer.available_eq_nil hstate, List.nil_append] at hmessages
  have hused : used ≠ [] := by
    rintro rfl
    rw [Transducer.run_nil] at hrun
    have hws : [] = ws := congrArg Prod.snd hrun
    rw [← hws] at hmessages
    cases hmessages
  have hpos := List.length_pos_iff.mpr hused
  rw [heq, List.length_append]
  omega

/-- A call takes bytes from the connection, or is given nothing from its first read on. -/
theorem recvTcpMsg_reads {turns fuel : Nat} {message : Option (List UInt8)}
    (hsound : r.inputBuffer.Sound) (hstate : r.inputBuffer.state ≠ .messageAvailable)
    (h : recvTcpMsg reader turns fuel timeout r = some (message, r')) :
    (reader.pending r'.platform).length < (reader.pending r.platform).length ∨
      ∃ platform, reader.NothingRead timeout r.platform platform ∧
        Relation.ReflTransGen (fun s s' => ∃ timeout, reader.NothingRead timeout s s') platform
          r'.platform := by
  induction fuel generalizing r timeout with
  | zero => cases h
  | succ fuel ih =>
    rw [recvTcpMsg] at h
    obtain ⟨⟨n, r₁⟩, hdata, hrest⟩ := Option.bind_eq_some_iff.mp h
    dsimp only at hrest
    cases readTcpData_turned hsound hdata with
    | leaves _ follows state idle =>
      rw [if_neg (Nat.lt_irrefl 0)] at hrest
      split at hrest
      · have hlength := (recvTcpMsg_follows follows.sound hrest).1.length_le
        rcases idle with hless | ⟨hnothing, -⟩
        · exact .inl (Nat.lt_of_le_of_lt hlength hless)
        · rcases ih follows.sound state hrest with hless | ⟨platform, hfirst, hafter⟩
          · exact .inl (Nat.lt_of_lt_of_le hless follows.length_le)
          · exact .inr ⟨r₁.platform, hnothing, .head ⟨_, hfirst⟩ hafter⟩
      · cases hrest
        exact idle.imp_right fun hnothing => ⟨_, hnothing.1, .refl⟩
    | returns n _ pos follows state =>
      rw [if_pos pos] at hrest
      cases hrest
      exact .inl (follows.returned hstate)

/-- Successive calls return what the other receiver puts out meanwhile. -/
theorem recvCalls_follows {turns fuel : Nat} {timeouts : List Int} (hsound : r.inputBuffer.Sound)
    (hstate : r.inputBuffer.state ≠ .messageAvailable)
    (h : recvCalls reader turns fuel timeouts r = some (messages, r')) :
    TcpFollows reader r r' messages ∧ r'.inputBuffer.state ≠ .messageAvailable := by
  induction timeouts generalizing r messages with
  | nil =>
    cases h
    exact ⟨.refl hsound, hstate⟩
  | cons timeout timeouts ih =>
    rw [recvCalls] at h
    obtain ⟨⟨message, r₁⟩, hcall, hrest⟩ := Option.bind_eq_some_iff.mp h
    obtain ⟨⟨messages₁, r₂⟩, hcalls, hlast⟩ := Option.bind_eq_some_iff.mp hrest
    cases hlast
    obtain ⟨hfollows, hstate₁⟩ := recvTcpMsg_follows hsound hcall
    obtain ⟨hfollows', hstate₂⟩ := ih hfollows.sound hstate₁ hcalls
    exact ⟨hfollows.trans hfollows', hstate₂⟩

theorem recvCalls_ends (hpatient : reader.Patient) {turns fuel : Nat} {timeouts : List Int}
    (hsound : r.inputBuffer.Sound) (hturns : (reader.pending r.platform).length < turns)
    (hfuel : ∀ timeout ∈ timeouts, timeout.toNat + (reader.pending r.platform).length < fuel) :
    ∃ messages r', recvCalls reader turns fuel timeouts r = some (messages, r') := by
  induction timeouts generalizing r with
  | nil => exact ⟨[], r, rfl⟩
  | cons timeout timeouts ih =>
    obtain ⟨message, r₁, hcall⟩ :=
      recvTcpMsg_ends hpatient hsound hturns (hfuel timeout List.mem_cons_self)
    obtain ⟨hfollows, -⟩ := recvTcpMsg_follows hsound hcall
    have hlength := hfollows.length_le
    obtain ⟨messages, r', hcalls⟩ := ih hfollows.sound (by omega) fun timeout htimeout => by
      have := hfuel timeout (List.mem_cons_of_mem _ htimeout)
      omega
    exact ⟨message.toList ++ messages, r', by simp [recvCalls, hcall, hcalls]⟩

theorem recvCalls_append {turns fuel : Nat} {timeouts timeouts' : List Int}
    (h : recvCalls reader turns fuel timeouts r = some (messages, r')) :
    recvCalls reader turns fuel (timeouts ++ timeouts') r =
      (recvCalls reader turns fuel timeouts' r').map fun (messages', r'') =>
        (messages ++ messages', r'') := by
  induction timeouts generalizing r messages with
  | nil =>
    cases h
    rw [List.nil_append]
    simp
  | cons timeout timeouts ih =>
    rw [recvCalls] at h
    obtain ⟨⟨message, r₁⟩, hcall, hrest⟩ := Option.bind_eq_some_iff.mp h
    obtain ⟨⟨messages₁, r₂⟩, hcalls, hlast⟩ := Option.bind_eq_some_iff.mp hrest
    cases hlast
    rw [List.cons_append, recvCalls, hcall]
    simp only [Option.bind_eq_bind, Option.bind_some]
    rw [ih hcalls]
    cases recvCalls reader turns fuel timeouts' r' with
    | none => rfl
    | some result => simp

/-- Enough calls read all that is on the connection. -/
theorem recvCalls_all (hpatient : reader.Patient) (hdelivers : reader.Delivers)
    {turns fuel : Nat} {timeouts : Nat → Int} (hsound : r.inputBuffer.Sound)
    (hstate : r.inputBuffer.state ≠ .messageAvailable)
    (hturns : (reader.pending r.platform).length < turns)
    (hfuel : ∀ i, (timeouts i).toNat + (reader.pending r.platform).length < fuel) :
    ∃ n messages r', recvCalls reader turns fuel ((List.range n).map timeouts) r =
      some (messages, r') ∧ reader.pending r'.platform = [] := by
  -- the calls that read something make what is pending shorter; between them come only finitely
  -- many to which nothing is given
  induction hlength : (reader.pending r.platform).length using Nat.strong_induction_on
    generalizing r timeouts with
  | _ length ih =>
    induction hplatform : r.platform using hdelivers.transGen.induction
      generalizing r timeouts with
    | _ platform ihIdle =>
      by_cases hnone : reader.pending r.platform = []
      · exact ⟨0, [], r, rfl, hnone⟩
      obtain ⟨message, r₁, hcall⟩ := recvTcpMsg_ends hpatient hsound hturns (hfuel 0)
      obtain ⟨hfollows, hstate₁⟩ := recvTcpMsg_follows hsound hcall
      have hle := hfollows.length_le
      have hfuel₁ (i : Nat) :
          (timeouts (i + 1)).toNat + (reader.pending r₁.platform).length < fuel := by
        have := hfuel (i + 1)
        omega
      have hrest : ∃ n messages r', recvCalls reader turns fuel
          ((List.range n).map fun i => timeouts (i + 1)) r₁ = some (messages, r') ∧
          reader.pending r'.platform = [] := by
        rcases recvTcpMsg_reads hsound hstate hcall with hless | ⟨platform₁, hfirst, hafter⟩
        · exact ih _ (hlength ▸ hless) hfollows.sound hstate₁ (by omega) hfuel₁ rfl
        · obtain ⟨hbefore, hsame⟩ := hfirst.transGen hafter hnone
          exact ihIdle _ (hplatform ▸ hbefore) hfollows.sound hstate₁ (by omega) hfuel₁
            (by rw [hsame, hlength]) rfl
      obtain ⟨n, messages, r', hcalls, hall⟩ := hrest
      refine ⟨n + 1, message.toList ++ messages, r', ?_, hall⟩
      rw [List.range_succ_eq_map, List.map_cons, List.map_map, recvCalls, hcall]
      simp only [Option.bind_eq_bind, Option.bind_some]
      rw [show timeouts ∘ Nat.succ = fun i => timeouts (i + 1) from rfl, hcalls]
      rfl

/-! ## Frames -/

/-- A frame that has not come completely has put out nothing. -/
theorem run_tcpFrame_part {buf part : List UInt8} (hlen : buf.length < 2 ^ 16)
    (hpart : part <+: tcpFrame buf) (hless : part.length < (tcpFrame buf).length) :
    (tcpReceiver.run .size part).2 = [] := by
  obtain ⟨rest, hrest⟩ := hpart
  match part with
  | [] | [_] => rfl
  | lsb :: msb :: octets =>
    have hsize : [lsb, msb] = msgSizeBuf buf.length := congrArg (List.take 2) hrest
    have hoctets : octets ++ rest = buf := congrArg (List.drop 2) hrest
    have hlength : octets.length < buf.length := by
      rw [tcpFrame, List.length_append, msgSizeBuf_length] at hless
      simp only [List.length_cons] at hless
      omega
    show (tcpReceiver.run .size ([lsb, msb] ++ octets)).2 = []
    rw [hsize, Transducer.run_append, run_tcpSize hlen, if_neg (by omega),
      run_tcpPayload (by rw [List.length_nil]; omega) (by rw [List.length_nil]; omega),
      if_neg (by rw [List.length_nil]; omega)]
    rfl

/-- What was taken of the frames: some of them completely, and a part of the next one. -/
theorem taken_of_frames {frames : List (List UInt8)} {used rest : List UInt8}
    (h : ∀ buf ∈ frames, buf.length < 2 ^ 16) (hused : (frames.map tcpFrame).flatten = used ++ rest) :
    ∃ received left part, frames = received ++ left ∧
      used = (received.map tcpFrame).flatten ++ part ∧
      (left.map tcpFrame).flatten = part ++ rest ∧
      (∀ buf ∈ left.head?, part.length < (tcpFrame buf).length) ∧
      (tcpReceiver.run .size used).2 = received.filter (· ≠ []) := by
  induction frames generalizing used with
  | nil =>
    obtain ⟨rfl, rfl⟩ := List.append_eq_nil_iff.mp hused.symm
    exact ⟨[], [], [], rfl, rfl, rfl, nofun, rfl⟩
  | cons buf frames ih =>
    rw [List.map_cons, List.flatten_cons] at hused
    have hbuf := h buf List.mem_cons_self
    by_cases hless : used.length < (tcpFrame buf).length
    · refine ⟨[], buf :: frames, used, rfl, rfl, hused, ?_, ?_⟩
      · rintro _ ⟨⟩
        exact hless
      · have hpart : used <+: tcpFrame buf :=
          List.prefix_of_prefix_length_le ⟨rest, hused.symm⟩ (List.prefix_append _ _)
            (Nat.le_of_lt hless)
        exact run_tcpFrame_part hbuf hpart hless
    · obtain ⟨used', rfl⟩ : tcpFrame buf <+: used :=
        List.prefix_of_prefix_length_le (List.prefix_append _ _) ⟨rest, hused.symm⟩
          (Nat.le_of_not_lt hless)
      rw [List.append_assoc, List.append_cancel_left_eq] at hused
      obtain ⟨received, left, part, rfl, rfl, hleft, hhead, hrun⟩ :=
        ih (fun buf hbuf => h buf (List.mem_cons_of_mem _ hbuf)) hused
      refine ⟨buf :: received, left, part, rfl, by simp, hleft, hhead, ?_⟩
      rw [Transducer.run_append, run_tcpFrame hbuf]
      dsimp only
      rw [hrun]
      by_cases hnil : buf = []
      · rw [if_pos hnil, List.filter_cons_of_neg (by simpa using hnil), List.nil_append]
      · rw [if_neg hnil, List.filter_cons_of_pos (by simpa using hnil)]
        rfl

/-- **The framing of a stream.** Whatever the platform delivers at a time, successive calls return
the payloads of the frames that have come completely, without the empty ones, and nothing else; so
they return all of them, once everything was delivered. A call reads what the platform gives it:
one that leaves as much as it found was given nothing. The calls return, if a read that brings
nothing takes some time; and a platform that does not bring nothing for ever gives all payloads to
enough calls. -/
theorem recv_tcp_framing {mtu : Nat} (hmtu : mtu < 2 ^ 16) {frames : List (List UInt8)}
    (hframes : ∀ buf ∈ frames, buf.length ≤ mtu) (hstate : r.inputBuffer.state = .bufferEmpty)
    (hpending : reader.pending r.platform = (frames.map tcpFrame).flatten) (turns fuel : Nat) :
    (∀ timeouts messages r', recvCalls reader turns fuel timeouts r = some (messages, r') →
      (∃ received left part, frames = received ++ left ∧
        messages = received.filter (· ≠ []) ∧
        (left.map tcpFrame).flatten = part ++ reader.pending r'.platform ∧
        ∀ buf ∈ left.head?, part.length < (tcpFrame buf).length) ∧
      (reader.pending r'.platform = [] → messages = frames.filter (· ≠ [])) ∧
      ∀ timeout message r'', recvTcpMsg reader turns fuel timeout r' = some (message, r'') →
        (reader.pending r''.platform).length < (reader.pending r'.platform).length ∨
        ∃ len, 0 < len ∧ (reader.read r'.platform len timeout).1.bytes = []) ∧
    (reader.Patient → (reader.pending r.platform).length < turns →
      (∀ timeouts : List Int,
        (∀ timeout ∈ timeouts, timeout.toNat + (reader.pending r.platform).length < fuel) →
        ∃ messages r', recvCalls reader turns fuel timeouts r = some (messages, r')) ∧
      (reader.Delivers → ∀ timeouts : Nat → Int,
        (∀ i, (timeouts i).toNat + (reader.pending r.platform).length < fuel) →
        ∃ n, ∀ m ≥ n, ∃ r', recvCalls reader turns fuel ((List.range m).map timeouts) r =
          some (frames.filter (· ≠ []), r'))) := by
  have hlen (buf : List UInt8) (hbuf : buf ∈ frames) : buf.length < 2 ^ 16 :=
    Nat.lt_of_le_of_lt (hframes buf hbuf) hmtu
  have hsound : r.inputBuffer.Sound := by
    rw [TcpInputBuffer.Sound, hstate]
    trivial
  have hne : r.inputBuffer.state ≠ .messageAvailable := by rw [hstate]; nofun
  have hreturned (timeouts : List Int) (messages : List (List UInt8)) (r' : TcpReceiving σ)
      (hcalls : recvCalls reader turns fuel timeouts r = some (messages, r')) :
      ∃ used, (frames.map tcpFrame).flatten = used ++ reader.pending r'.platform ∧
        (tcpReceiver.run .size used).2 = messages := by
    obtain ⟨hfollows, hne'⟩ := recvCalls_follows hsound hne hcalls
    obtain ⟨ws, ⟨used, hused, hrun⟩, hmessages⟩ := hfollows.consumes
    rw [TcpInputBuffer.available_eq_nil hne, TcpInputBuffer.available_eq_nil hne',
      List.nil_append, List.append_nil] at hmessages
    rw [TcpInputBuffer.awaited, hstate] at hrun
    exact ⟨used, hpending ▸ hused, hmessages ▸ congrArg Prod.snd hrun⟩
  have hall (timeouts : List Int) (messages : List (List UInt8)) (r' : TcpReceiving σ)
      (hcalls : recvCalls reader turns fuel timeouts r = some (messages, r'))
      (hnone : reader.pending r'.platform = []) : messages = frames.filter (· ≠ []) := by
    obtain ⟨used, hused, hrun⟩ := hreturned timeouts messages r' hcalls
    rw [hnone, List.append_nil] at hused
    rw [← hrun, ← hused, run_tcpFrames hlen]
  refine ⟨fun timeouts messages r' hcalls => ⟨?_, hall timeouts messages r' hcalls, ?_⟩,
    fun hpatient hturns => ⟨fun timeouts hfuel => recvCalls_ends hpatient hsound hturns hfuel,
      fun hdelivers timeouts hfuel => ?_⟩⟩
  · obtain ⟨used, hused, hrun⟩ := hreturned timeouts messages r' hcalls
    obtain ⟨received, left, part, hsplit, -, hleft, hhead, hreceived⟩ := taken_of_frames hlen hused
    exact ⟨received, left, part, hsplit, hrun.symm.trans hreceived, hleft, hhead⟩
  · intro timeout message r'' hcall
    obtain ⟨hfollows, hne'⟩ := recvCalls_follows hsound hne hcalls
    rcases recvTcpMsg_reads hfollows.sound hne' hcall with hless | ⟨_, ⟨len, hpos, hnone, -⟩, -⟩
    · exact .inl hless
    · exact .inr ⟨len, hpos, hnone⟩
  · obtain ⟨n, messages, r₁, hcalls, hnone⟩ :=
      recvCalls_all hpatient hdelivers hsound hne hturns hfuel
    refine ⟨n, fun m hm => ?_⟩
    have hturned : ∀ timeout ∈ (List.range m).map timeouts,
        timeout.toNat + (reader.pending r.platform).length < fuel := by
      simpa using fun i _ => hfuel i
    obtain ⟨messages', r', hcalls'⟩ := recvCalls_ends hpatient hsound hturns hturned
    -- nothing is left for the calls behind the first `n`
    have hnone' : reader.pending r'.platform = [] := by
      have hsplit : (List.range m).map timeouts =
          (List.range n).map timeouts ++ (List.range (m - n)).map fun i => timeouts (n + i) := by
        rw [← Nat.add_sub_of_le hm, List.range_add, List.map_append, List.map_map,
          Nat.add_sub_cancel_left]
        rfl
      rw [hsplit, recvCalls_append hcalls] at hcalls'
      obtain ⟨⟨messages₁, r₂⟩, hlater, heq⟩ := Option.map_eq_some_iff.mp hcalls'
      cases heq
      obtain ⟨hfollows, hne₁⟩ := recvCalls_follows hsound hne hcalls
      have hle := (recvCalls_follows hfollows.sound hne₁ hlater).1.length_le
      rw [hnone] at hle
      exact List.length_eq_zero_iff.mp (Nat.le_zero.mp hle)
    exact ⟨r', hall _ _ _ hcalls' hnone' ▸ hcalls'⟩

end

/-- A connection that delivers one byte every millisecond. -/
def slowReader : TcpReader (List UInt8) where
  pending := id
  read platform len _ := (⟨platform.take (min len 1), 0, 1⟩, platform.drop (min len 1))
  disconnect := id
  length_le platform len _ := by
    rw [List.length_take]
    omega
  read_pending platform len _ := (List.take_append_drop _ _).symm
  disconnect_pending _ := rfl

/-- The receiver behind `uxr_init_tcp_transport`, in front of three frames. -/
def beforeFrames : TcpReceiving (List UInt8) where
  platform := ([[5, 6], [], [7]].map tcpFrame).flatten
  inputBuffer := ⟨fun _ => 0, 0, .bufferEmpty, 0⟩
  errorCode := 0
  millis := 0

/-- Enough calls return both messages. -/
theorem recv_three_frames :
    ∃ n, ∀ m ≥ n, ∃ r', recvCalls slowReader 10 20 ((List.range m).map fun _ => 5) beforeFrames =
      some ([[5, 6], [7]], r') := by
  have hdelivers : slowReader.Delivers := by
    -- each read brings a byte
    refine ⟨fun platform => ⟨_, fun platform' h => ?_⟩⟩
    obtain ⟨hsome, timeout, len, hlen, hnone, -⟩ := h
    have hlength := congrArg List.length hnone
    change (List.take (min len 1) platform).length = 0 at hlength
    have hpos : 0 < platform.length := List.length_pos_iff.mpr hsome
    rw [List.length_take] at hlength
    omega
  exact ((@recv_tcp_framing _ slowReader beforeFrames 512 (by decide) [[5, 6], [], [7]] (by decide)
    rfl rfl 10 20).2 (fun _ _ _ _ _ => Nat.one_pos) (by decide)).2 hdelivers (fun _ => 5)
      fun _ => by decide

end XrceClient
