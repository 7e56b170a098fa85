import Mathlib.Logic.Relation
import XrceClient.Transport.TcpReceive

/-!
# The bounds of a TCP receiver

The receiver reads a message into a buffer of `UXR_CONFIG_TCP_TRANSPORT_MTU` bytes, and takes the
size of the message from the stream without a look at the size of the buffer.

- `TcpInputBuffer.request`: the region of the buffer that the platform is asked to fill;
  `readTcpTurn_request`.
- `announcedSizes`: the sizes in a stream.
- `TcpAwaited.announces`: the sizes that a receiver comes to. A byte leaves some of them behind and
  adds none (`accept_announces`).
- `tcp_bounds_iff`: the receiver stays in its buffer on exactly the streams that announce no
  message that is longer.
-/

namespace XrceClient

open ByteMemory

/-! ## Requests -/

/-- The region of `input_buffer.buffer` that the next turn asks the platform to fill, as a position
and a length (tcp_transport.c:229–233, 261–267). In the other states it asks for bytes of a size,
which go to local variables, or for nothing. -/
def TcpInputBuffer.request (input : TcpInputBuffer) : Option (Nat × Nat) :=
  match input.state with
  | .sizeRead => some (0, input.msgSize)
  | .messageIncomplete => some (input.position, input.msgSize - input.position)
  | _ => none

variable {σ : Type} (reader : TcpReader σ)

/-- A turn fills a part of the region that it asks for, with what the platform gives. -/
theorem readTcpTurn_request (timeout : Int) {r : TcpReceiving σ} {position len : Nat}
    (h : r.inputBuffer.request = some (position, len)) :
    (readTcpTurn reader timeout r).2.inputBuffer.buffer =
      write r.inputBuffer.buffer position (reader.read r.platform len timeout).1.bytes := by
  have hnothing {bytes : List UInt8} (hnone : ¬ 0 < bytes.length) (m : Memory) (a : Nat) :
      m = write m a bytes := by
    rw [List.length_eq_zero_iff.mp (Nat.eq_zero_of_not_pos hnone), write_nil]
  rw [TcpInputBuffer.request] at h
  rw [readTcpTurn]
  split at h
  · next hstate =>
    cases h
    rw [hstate]
    show (readTcpMessage reader timeout r).2.inputBuffer.buffer = _
    rw [readTcpMessage, TcpReceiving.ask]
    generalize reader.read r.platform r.inputBuffer.msgSize timeout = result
    dsimp only
    by_cases hsome : 0 < result.1.bytes.length
    · rw [if_pos hsome]
      by_cases hall : result.1.bytes.length = r.inputBuffer.msgSize
      · rw [if_pos hall]
      · rw [if_neg hall]
    · rw [if_neg hsome]
      exact hnothing hsome _ _
  · next hstate =>
    cases h
    rw [hstate]
    show (readTcpMessageRest reader timeout r).2.inputBuffer.buffer = _
    rw [readTcpMessageRest, TcpReceiving.ask]
    generalize reader.read r.platform (r.inputBuffer.msgSize - r.inputBuffer.position) timeout =
      result
    dsimp only
    by_cases hsome : 0 < result.1.bytes.length
    · rw [if_pos hsome]
      by_cases hall : r.inputBuffer.position + result.1.bytes.length = r.inputBuffer.msgSize
      · rw [if_pos hall]
      · rw [if_neg hall]
    · rw [if_neg hsome]
      exact hnothing hsome _ _
  · cases h

/-- One turn after the other, with any timeouts. -/
def TcpRun : TcpReceiving σ → TcpReceiving σ → Prop :=
  Relation.ReflTransGen fun r r' => ∃ timeout, r' = (readTcpTurn reader timeout r).2

/-- The receiver asks for no byte behind its buffer, and reports no message that is longer. -/
structure WithinBuffer (mtu : Nat) (r : TcpReceiving σ) : Prop where
  request : ∀ position len, r.inputBuffer.request = some (position, len) → position + len ≤ mtu
  reported : ∀ timeout fuel n r', readTcpData reader timeout fuel r = some (n, r') → n ≤ mtu

/-! ## The sizes in a stream -/

/-- The sizes that a stream announces: two bytes, and the next two bytes behind so many. -/
def announcedSizes : List UInt8 → List Nat
  | lsb :: msb :: bytes =>
    ofLeBytes [lsb, msb] :: announcedSizes (bytes.drop (ofLeBytes [lsb, msb]))
  | _ => []
termination_by bytes => bytes.length
decreasing_by
  rw [List.length_drop, List.length_cons, List.length_cons]
  omega

theorem announcedSizes_cons (lsb msb : UInt8) (bytes : List UInt8) :
    announcedSizes (lsb :: msb :: bytes) =
      ofLeBytes [lsb, msb] :: announcedSizes (bytes.drop (ofLeBytes [lsb, msb])) := by
  rw [announcedSizes]

namespace TcpAwaited

/-- The sizes that a receiver comes to, its own message included. -/
def announces : TcpAwaited → List UInt8 → List Nat
  | .size, bytes => announcedSizes bytes
  | .sizeMsb lsb, bytes => announcedSizes (lsb :: bytes)
  | .payload msgSize octets, bytes =>
    msgSize :: announcedSizes (bytes.drop (msgSize - octets.length))

/-- A payload is not complete. -/
def Sound : TcpAwaited → Prop
  | .payload msgSize octets => octets.length < msgSize
  | _ => True

/-- What a byte does to the sizes to come. -/
theorem accept_announces {s : TcpAwaited} (h : s.Sound) (b : UInt8) (bytes : List UInt8) :
    (s.accept b).1.Sound ∧
      (∀ size ∈ (s.accept b).1.announces bytes, size ∈ s.announces (b :: bytes)) ∧
      ∀ message ∈ (s.accept b).2, message.length ∈ s.announces (b :: bytes) := by
  cases s with
  | size => exact ⟨trivial, fun size hsize => hsize, nofun⟩
  | sizeMsb lsb =>
    have hannounced := announcedSizes_cons lsb b bytes
    rw [accept, announces, hannounced]
    by_cases hzero : ofLeBytes [lsb, b] = 0
    · -- a message without a payload
      rw [if_pos hzero, hzero]
      exact ⟨trivial, fun size hsize => List.mem_cons_of_mem _ hsize, nofun⟩
    · rw [if_neg hzero]
      exact ⟨Nat.pos_of_ne_zero hzero, fun size hsize => hsize, nofun⟩
  | payload msgSize octets =>
    have hless : octets.length < msgSize := h
    rw [accept]
    by_cases hlast : octets.length + 1 = msgSize
    · -- the last byte of the message
      rw [if_pos hlast]
      refine ⟨trivial, fun size hsize => ?_, fun message hmessage => ?_⟩
      · refine List.mem_cons_of_mem _ ?_
        rw [show msgSize - octets.length = 1 by omega]
        exact hsize
      · obtain rfl := List.mem_singleton.mp hmessage
        rw [List.length_append, List.length_singleton, hlast]
        exact List.mem_cons_self
    · rw [if_neg hlast]
      refine ⟨?_, fun size hsize => ?_, nofun⟩
      · rw [Sound, List.length_append, List.length_singleton]
        omega
      · rw [announces, List.length_append, List.length_singleton] at hsize
        rw [announces, show msgSize - octets.length = msgSize - (octets.length + 1) + 1 by omega,
          List.drop_succ_cons]
        exact hsize

/-- What bytes do to the sizes to come. -/
theorem run_announces {s : TcpAwaited} (h : s.Sound) (used rest : List UInt8) :
    (tcpReceiver.run s used).1.Sound ∧
      (∀ size ∈ (tcpReceiver.run s used).1.announces rest, size ∈ s.announces (used ++ rest)) ∧
      ∀ message ∈ (tcpReceiver.run s used).2, message.length ∈ s.announces (used ++ rest) := by
  induction used generalizing s with
  | nil => exact ⟨h, fun size hsize => hsize, nofun⟩
  | cons b used ih =>
    obtain ⟨hsound, hsizes, hmessages⟩ := accept_announces h b (used ++ rest)
    obtain ⟨hsound', hsizes', hmessages'⟩ := ih hsound
    rw [Transducer.run_cons]
    refine ⟨hsound', fun size hsize => hsizes size (hsizes' size hsize), fun message hmessage => ?_⟩
    rcases List.mem_append.mp hmessage with hfirst | hlater
    · exact hmessages message hfirst
    · exact hsizes _ (hmessages' message hlater)

end TcpAwaited

/-! ## The receiver -/

/-- No size that is longer than the buffer has come or is to come. -/
structure TcpWithin (mtu : Nat) (r : TcpReceiving σ) : Prop where
  sound : r.inputBuffer.Sound
  announced : ∀ size ∈ r.inputBuffer.awaited.announces (reader.pending r.platform), size ≤ mtu
  available : ∀ message ∈ r.inputBuffer.available, message.length ≤ mtu

theorem TcpInputBuffer.Sound.awaited {input : TcpInputBuffer} (h : input.Sound) :
    input.awaited.Sound := by
  rw [TcpInputBuffer.Sound] at h
  rw [TcpInputBuffer.awaited]
  cases hstate : input.state with
  | bufferEmpty => trivial
  | sizeIncomplete => trivial
  | messageAvailable => trivial
  | sizeRead =>
    rw [hstate] at h
    exact h
  | messageIncomplete =>
    rw [hstate] at h
    show (read input.buffer 0 input.position).length < input.msgSize
    rwa [read_length]

section

variable {reader} {mtu : Nat} {r r' : TcpReceiving σ}

theorem TcpWithin.follows (h : TcpWithin reader mtu r) {messages : List (List UInt8)}
    (hfollows : TcpFollows reader r r' messages) :
    TcpWithin reader mtu r' ∧ ∀ message ∈ messages, message.length ≤ mtu := by
  obtain ⟨ws, ⟨used, hpending, hrun⟩, hmessages⟩ := hfollows.consumes
  obtain ⟨-, hsizes, houtputs⟩ :=
    TcpAwaited.run_announces h.sound.awaited used (reader.pending r'.platform)
  rw [hrun, ← hpending] at hsizes houtputs
  have hall : ∀ message ∈ messages ++ r'.inputBuffer.available, message.length ≤ mtu := by
    intro message hmessage
    rw [← hmessages] at hmessage
    rcases List.mem_append.mp hmessage with hbefore | hnow
    · exact h.available message hbefore
    · exact h.announced _ (houtputs message hnow)
  refine ⟨⟨hfollows.sound, fun size hsize => h.announced size (hsizes size hsize),
    fun message hmessage => hall message (List.mem_append_right _ hmessage)⟩,
    fun message hmessage => hall message (List.mem_append_left _ hmessage)⟩

/-- A turn keeps it so, and what it reports fits into the buffer. -/
theorem TcpWithin.turn (h : TcpWithin reader mtu r) (timeout : Int) :
    TcpWithin reader mtu (readTcpTurn reader timeout r).2 ∧
      ∀ n, (readTcpTurn reader timeout r).1 = some n → n ≤ mtu := by
  have hturned := @readTcpTurn_turned σ reader r timeout h.sound
  generalize readTcpTurn reader timeout r = result at hturned
  cases hturned with
  | goesOn r' follows less => exact ⟨(h.follows follows).1, nofun⟩
  | leaves r' follows state idle =>
    refine ⟨(h.follows follows).1, ?_⟩
    rintro _ ⟨⟩
    exact Nat.zero_le _
  | returns n r' pos follows state =>
    obtain ⟨hwithin, hmessages⟩ := h.follows follows
    refine ⟨hwithin, ?_⟩
    rintro _ ⟨⟩
    have hlength := hmessages _ List.mem_cons_self
    rwa [read_length] at hlength

theorem TcpWithin.run (h : TcpWithin reader mtu r) (hrun : TcpRun reader r r') :
    TcpWithin reader mtu r' := by
  induction hrun with
  | refl => exact h
  | tail _ hturn ih =>
    obtain ⟨timeout, rfl⟩ := hturn
    exact (ih.turn timeout).1

/-- What a call reports fits into the buffer. -/
theorem TcpWithin.reported (h : TcpWithin reader mtu r) {timeout : Int} {fuel n : Nat}
    (hdata : readTcpData reader timeout fuel r = some (n, r')) : n ≤ mtu := by
  induction fuel generalizing r with
  | zero => cases hdata
  | succ fuel ih =>
    obtain ⟨hwithin, hreported⟩ := h.turn timeout
    rw [readTcpData] at hdata
    generalize readTcpTurn reader timeout r = result at hdata hwithin hreported
    obtain ⟨_ | n₁, r₁⟩ := result
    · exact ih hwithin hdata
    · cases hdata
      exact hreported n rfl

theorem TcpWithin.withinBuffer (h : TcpWithin reader mtu r) : WithinBuffer reader mtu r where
  request position len hrequest := by
    have hannounced := h.announced
    have hsound := h.sound
    rw [TcpInputBuffer.request] at hrequest
    rw [TcpInputBuffer.awaited] at hannounced
    rw [TcpInputBuffer.Sound] at hsound
    split at hrequest
    · next hstate =>
      cases hrequest
      rw [hstate] at hannounced
      rw [Nat.zero_add]
      exact hannounced _ List.mem_cons_self
    · next hstate =>
      cases hrequest
      rw [hstate] at hannounced hsound
      dsimp only at hsound
      have hsize : r.inputBuffer.msgSize ≤ mtu := hannounced _ List.mem_cons_self
      omega
    · cases hrequest
  reported timeout fuel n r' hdata := h.reported hdata

end

/-! ## A connection that delivers what it has -/

theorem promptRead_length_le (platform : List UInt8) (len : Nat) (_timeout : Int) :
    (platform.take len).length ≤ len := List.length_take_le len platform

theorem promptRead_pending (platform : List UInt8) (len : Nat) (_timeout : Int) :
    platform = platform.take len ++ platform.drop len := (List.take_append_drop len platform).symm

theorem promptRead_disconnect (platform : List UInt8) : id (id platform) = id platform := rfl

/-- A connection that delivers as much as it is asked for, as long as it has so much. -/
def promptReader : TcpReader (List UInt8) where
  pending := id
  read platform len _ := (⟨platform.take len, 0, 0⟩, platform.drop len)
  disconnect := id
  length_le := promptRead_length_le
  read_pending := promptRead_pending
  disconnect_pending := promptRead_disconnect

/-- In front of a size, the receiver comes to the message of that size. -/
theorem promptReader_size {r : TcpReceiving (List UInt8)} {lsb msb : UInt8} {bytes : List UInt8}
    (hstate : r.inputBuffer.state = .bufferEmpty) (hpending : r.platform = lsb :: msb :: bytes) :
    ∃ r', TcpRun promptReader r r' ∧ r'.platform = bytes ∧
      if ofLeBytes [lsb, msb] = 0 then r'.inputBuffer.state = .bufferEmpty
      else r'.inputBuffer.state = .sizeRead ∧ r'.inputBuffer.msgSize = ofLeBytes [lsb, msb] := by
  refine ⟨_, .single ⟨0, rfl⟩, ?_⟩
  have hsize := size_eq_ofLeBytes lsb msb
  have hturn : readTcpTurn promptReader 0 r = readTcpSize promptReader 0 r := by
    rw [readTcpTurn, hstate]
  rw [hturn, readTcpSize]
  simp only [TcpReceiving.ask, promptReader, hpending, List.take_succ_cons, List.drop_succ_cons,
    List.take_zero, List.drop_zero, hsize]
  by_cases hzero : ofLeBytes [lsb, msb] = 0
  · simp only [hzero, ne_eq, not_true_eq_false, if_false, if_true]
    exact ⟨trivial, hstate⟩
  · simp only [hzero, ne_eq, not_false_eq_true, if_false, if_true]
    exact ⟨trivial, trivial, trivial⟩

/-- The receiver comes to the size behind a message. -/
theorem promptReader_message {r : TcpReceiving (List UInt8)}
    (hstate : r.inputBuffer.state = .sizeRead) (hpos : 0 < r.inputBuffer.msgSize)
    (hpending : r.inputBuffer.msgSize ≤ r.platform.length) :
    ∃ r', TcpRun promptReader r r' ∧ r'.platform = r.platform.drop r.inputBuffer.msgSize ∧
      r'.inputBuffer.state = .bufferEmpty := by
  have hlength : (r.platform.take r.inputBuffer.msgSize).length = r.inputBuffer.msgSize :=
    List.length_take_of_le hpending
  obtain ⟨r₁, hturn, hplatform, hstate₁⟩ : ∃ r₁, readTcpTurn promptReader 0 r = (none, r₁) ∧
      r₁.platform = r.platform.drop r.inputBuffer.msgSize ∧
        r₁.inputBuffer.state = .messageAvailable := by
    rw [readTcpTurn, hstate]
    show ∃ r₁, readTcpMessage promptReader 0 r = (none, r₁) ∧ _
    simp only [readTcpMessage, TcpReceiving.ask, promptReader, hlength, hpos, if_true]
    exact ⟨_, rfl, rfl, rfl⟩
  have hfirst : TcpRun promptReader r r₁ := .single ⟨0, by rw [hturn]⟩
  refine ⟨_, hfirst.tail ⟨0, rfl⟩, ?_, ?_⟩
  · rw [readTcpTurn, hstate₁]
    exact hplatform
  · rw [readTcpTurn, hstate₁]

/-- The receiver comes to every size in the stream, and asks for so many bytes. -/
theorem promptReader_bounds {mtu : Nat} {r : TcpReceiving (List UInt8)}
    (hstate : r.inputBuffer.state = .bufferEmpty)
    (h : ∀ r', TcpRun promptReader r r' → WithinBuffer promptReader mtu r') :
    ∀ size ∈ announcedSizes r.platform, size ≤ mtu := by
  obtain ⟨bytes, hbytes⟩ : ∃ bytes, bytes = r.platform := ⟨_, rfl⟩
  rw [← hbytes]
  induction bytes using announcedSizes.induct generalizing r with
  | case1 lsb msb bytes ih =>
    obtain ⟨r₁, hrun, hplatform, hsize⟩ := promptReader_size hstate hbytes.symm
    have hlater (r' : TcpReceiving (List UInt8)) (hrun' : TcpRun promptReader r₁ r') :=
      h r' (hrun.trans hrun')
    rw [announcedSizes_cons]
    by_cases hzero : ofLeBytes [lsb, msb] = 0
    · rw [if_pos hzero] at hsize
      rw [hzero] at ih ⊢
      refine List.forall_mem_cons.mpr ⟨Nat.zero_le _, ?_⟩
      exact ih hsize hlater (by rw [hplatform]; rfl)
    · rw [if_neg hzero] at hsize
      obtain ⟨hstate₁, hmsgSize⟩ := hsize
      -- the request for the message
      have hwithin := (hlater r₁ .refl).request 0 (ofLeBytes [lsb, msb]) (by
        rw [TcpInputBuffer.request, hstate₁, hmsgSize])
      refine List.forall_mem_cons.mpr ⟨by omega, ?_⟩
      by_cases hall : ofLeBytes [lsb, msb] ≤ bytes.length
      · obtain ⟨r₂, hrun₂, hplatform₂, hstate₂⟩ := promptReader_message hstate₁
          (by rw [hmsgSize]; exact Nat.pos_of_ne_zero hzero) (by rw [hmsgSize, hplatform]; exact hall)
        exact ih hstate₂ (fun r' hrun' => hlater r' (hrun₂.trans hrun'))
          (by rw [hplatform₂, hmsgSize, hplatform])
      · -- the message does not come completely
        rw [List.drop_eq_nil_of_le (Nat.le_of_not_le hall), announcedSizes]
        · exact nofun
        · exact nofun
  | case2 bytes hshort =>
    rw [announcedSizes]
    · exact nofun
    · exact hshort

/-! ## Streams -/

/-- **The bounds of the receiver.** Whatever the chunks in which a stream is delivered, the receiver
stays in its buffer and reports nothing that is longer, if and only if the stream announces no
message that is longer than the buffer. -/
theorem tcp_bounds_iff (mtu : Nat) (stream : List UInt8) :
    (∀ (σ : Type) (reader : TcpReader σ) (r r' : TcpReceiving σ),
      r.inputBuffer.state = .bufferEmpty → reader.pending r.platform = stream →
        TcpRun reader r r' → WithinBuffer reader mtu r') ↔
      ∀ size ∈ announcedSizes stream, size ≤ mtu := by
  constructor
  · intro h
    have hbounds := @promptReader_bounds mtu ⟨stream, ⟨fun _ => 0, 0, .bufferEmpty, 0⟩, 0, 0⟩ rfl
    exact hbounds fun r' => h _ promptReader _ r' rfl rfl
  · intro h σ reader r r' hstate hpending hrun
    refine TcpWithin.withinBuffer (TcpWithin.run ?_ hrun)
    refine ⟨?_, ?_, ?_⟩
    · rw [TcpInputBuffer.Sound, hstate]
      trivial
    · rw [TcpInputBuffer.awaited, hstate, hpending]
      exact h
    · rw [TcpInputBuffer.available_eq_nil (by rw [hstate]; rintro ⟨⟩)]
      rintro _ ⟨⟩

/-- The size of a message with 513 bytes: the receiver asks for all of them, and its buffer has 512. -/
theorem tcp_bounds_exceeded :
    ¬ ∀ (stream : List UInt8) (σ : Type) (reader : TcpReader σ) (r r' : TcpReceiving σ),
      r.inputBuffer.state = .bufferEmpty → reader.pending r.platform = stream →
        TcpRun reader r r' → WithinBuffer reader 512 r' := by
  intro h
  have hbounds := @promptReader_bounds 512 ⟨[1, 2], ⟨fun _ => 0, 0, .bufferEmpty, 0⟩, 0, 0⟩ rfl
    fun r' => h [1, 2] _ promptReader _ r' rfl rfl
  rw [announcedSizes_cons] at hbounds
  exact absurd (hbounds 513 List.mem_cons_self) (by decide)

end XrceClient
