import XrceClient.Transport.FramingRead

/-!
# The framing round trip

Messages are written to a stream of bytes, and the stream is read. The calls of the reader
report the messages for its address, each once and in their order, however the stream is cut
up by the two callbacks.

- `readFramedMsg_finished`: what a call comes to.
- `readCalls`: the messages that a number of calls report.
- `readCalls_reads` / `readCalls_complete`: they are the first ones that were sent; and all
  of them, once the transport has delivered everything.
-/

namespace XrceClient

open ByteMemory FramingIo

section

variable {addr : UInt8} {len : Nat} {frames : List MsgFrame} {r : FramedRead}

/-- Within a frame something is still to come. -/
theorem InFrame.ne_nil {frame : MsgFrame} {octets : List UInt8} (h : InFrame frame octets r) :
    octets ≠ [] := by
  rw [InFrame] at h
  rintro rfl
  cases hstate : r.io.state <;> rw [hstate] at h <;>
    simp [MsgFrame.header, MsgFrame.checksum] at h

/-- Where every byte was used, every frame was read. -/
theorem Reads.done (h : Reads addr len r frames) (hunread : r.unread = []) : frames = [] := by
  rcases h.place with ⟨-, skipped, -, hplace⟩ | ⟨frame, rest, octets, -, hin, hplace⟩
  · rw [hunread] at hplace
    cases frames with
    | nil => rfl
    | cons frame rest =>
      have hnil := (List.append_eq_nil_iff.mp hplace.symm).2
      rw [List.flatMap_cons, MsgFrame.bytes] at hnil
      cases hnil
  · rw [hunread] at hplace
    have hnil := (List.append_eq_nil_iff.mp hplace.symm).1
    cases octets with
    | nil => exact absurd rfl hin.ne_nil
    | cons octet octets =>
      rw [Stuffing.stuff_cons] at hnil
      exact absurd (List.append_eq_nil_iff.mp hnil).1 (Stuffing.stuffOctet_ne_nil octet)

/-- What a call comes to: it stops for want of bytes, or a message is reported. -/
inductive Finished (addr : UInt8) (len : Nat) (frames : List MsgFrame) (r : FramedRead) :
    FramedRead → Prop
  | pauses (r' : FramedRead) (frames' : List MsgFrame) (reads : Reads addr len r' frames')
      (same : delivered addr frames' = delivered addr frames) (rv : r'.rv = 0)
      (work : r'.work ≤ r.work) (later : r.transport.Later r'.transport)
      (done : r'.transport.pending = [] → frames' = [])
      (idle : r.transport.calls < r'.transport.calls ∨ r'.io.ring = []) :
      Finished addr len frames r r'
  | reports (r' : FramedRead) (frames' : List MsgFrame) (reads : Reads addr len r' frames')
      (message : delivered addr frames =
        (r'.remoteAddr, read r'.buf 0 r'.rv) :: delivered addr frames')
      (pos : 0 < r'.rv) (work : r'.work ≤ r.work) (later : r.transport.Later r'.transport) :
      Finished addr len frames r r'

/-- The state machine is left after as many turns as there is work. -/
theorem readTurns_finished {fuel : Nat} (h : Reads addr len r frames) (hrv : r.rv = 0)
    (hfuel : r.work < fuel) :
    ∃ r', readTurns len fuel r = some r' ∧ Finished addr len frames r r' := by
  induction fuel generalizing r frames with
  | zero => omega
  | succ fuel ih =>
    have houtcome := readTurn_outcome h
    rw [readTurns]
    generalize readTurn len r = result at houtcome
    cases houtcome with
    | goesOn r' frames' reads same rv less later =>
      obtain ⟨r'', hturns, hfinished⟩ := ih reads (rv.trans hrv) (by omega)
      refine ⟨r'', hturns, ?_⟩
      cases hfinished with
      | pauses frames'' reads' same' rv' work' later' done' idle' =>
        refine .pauses _ frames'' reads' (same'.trans same) rv' (by omega) (later.trans later')
          done' ?_
        exact idle'.imp_left fun hcalls => Nat.lt_of_le_of_lt later.calls hcalls
      | reports frames'' reads' message' pos' work' later' =>
        exact .reports _ frames'' reads' (same ▸ message') pos' (by omega) (later.trans later')
    | pauses r' frames' reads same rv work later idle =>
      refine ⟨r', rfl, .pauses r' frames' reads same (rv.trans hrv) work later ?_ ?_⟩
      · intro hpending
        rcases idle with ⟨-, hne⟩ | ⟨-, hring⟩
        · exact absurd hpending hne
        · exact reads.done (by rw [FramedRead.unread, hring, hpending]; rfl)
      · exact idle.imp And.left And.right
    | reports r' frames' reads message pos work later =>
      exact ⟨r', rfl, .reports r' frames' reads message pos work later⟩

/-- A result that is set is no part of the place of the reader. -/
theorem Reads.withRv (h : Reads addr len r frames) (rv : Nat) :
    Reads addr len { r with rv } frames := ⟨h.ok, h.localAddr, h.sendable, h.place⟩

theorem Reads.waited {r' : FramedRead} (h : Reads addr len r frames) (hwaited : Waited r r') :
    Reads addr len r' frames := by
  refine ⟨hwaited.ok, ?_, h.sendable, ?_⟩
  · rw [hwaited.only]
    exact h.localAddr
  · rcases h.place with ⟨hstate, skipped, hskipped, hunread⟩ |
      ⟨frame, rest, octets, hframes, hin, hunread⟩
    · refine .inl ⟨?_, skipped, hskipped, hwaited.unread.trans hunread⟩
      rw [hwaited.only]
      exact hstate
    · exact .inr ⟨frame, rest, octets, hframes, hwaited.inFrame hin, hwaited.unread.trans hunread⟩

/-- What a call comes to. One that begins with an empty ring calls the callback. -/
theorem readFramedMsg_finished {fuel : Nat} (h : Reads addr len r frames)
    (hfuel : r.work < fuel) :
    ∃ r', readFramedMsg len fuel r = some r' ∧ Finished addr len frames r r' ∧
      (r.io.ring = [] → r.transport.calls < r'.transport.calls) := by
  have h₀ := h.withRv 0
  rw [readFramedMsg]
  dsimp only
  by_cases hempty : r.io.rbHead = r.io.rbTail
  · -- the ring is empty, and is filled once before the turns
    have hring := (ring_eq_nil_iff h.ok).mpr hempty
    obtain ⟨bytesRead, io', transport', hread, hwaited, hwork, hsame, hcalls⟩ :=
      @waited_readTransport { r with rv := 0 } h.ok 5 (by decide)
    have hcalls' := (hcalls (hasRoom (by rw [hring]; exact Nat.zero_le 1))).1
    have hreads := h₀.waited hwaited
    have hwork' : { r with io := io', transport := transport', rv := 0 }.work ≤ r.work := by
      change { r with io := io', transport := transport', rv := 0 }.work + bytesRead = r.work
        at hwork
      omega
    rw [if_pos hempty, hread]
    dsimp only
    by_cases hmore : io'.rbTail ≠ io'.rbHead
    · rw [if_pos hmore]
      obtain ⟨r', hturns, hfinished⟩ :=
        @readTurns_finished _ _ _ { r with io := io', transport := transport', rv := 0 } fuel hreads
          rfl (by omega)
      refine ⟨r', hturns, ?_, fun _ => ?_⟩
      · cases hfinished with
        | pauses frames' reads same rv work later done idle =>
          exact .pauses _ frames' reads same rv (by omega) (hwaited.later.trans later) done
            (.inl (Nat.lt_of_lt_of_le hcalls' later.calls))
        | reports frames' reads message pos work later =>
          exact .reports _ frames' reads message pos (by omega) (hwaited.later.trans later)
      · cases hfinished with
        | pauses frames' reads same rv work later done idle =>
          exact Nat.lt_of_lt_of_le hcalls' later.calls
        | reports frames' reads message pos work later =>
          exact Nat.lt_of_lt_of_le hcalls' later.calls
    · have hring' : io'.ring = [] := (ring_eq_nil_iff hwaited.ok).mpr (not_not.mp hmore).symm
      rw [if_neg hmore]
      refine ⟨_, rfl, .pauses _ frames hreads rfl rfl hwork' hwaited.later ?_ (.inl hcalls'),
        fun _ => hcalls'⟩
      intro hpending
      refine hreads.done ?_
      rw [FramedRead.unread, hring']
      exact hpending
  · -- the turns begin with what the ring holds
    have hne : r.io.rbTail ≠ r.io.rbHead := fun heq => hempty heq.symm
    rw [if_neg hempty, if_pos hne]
    obtain ⟨r', hturns, hfinished⟩ :=
      @readTurns_finished _ _ _ { r with rv := 0 } fuel h₀ rfl hfuel
    refine ⟨r', hturns, ?_, fun hring => absurd ((ring_eq_nil_iff h.ok).mp hring) hempty⟩
    cases hfinished with
    | pauses frames' reads same rv work later done idle =>
      exact .pauses _ frames' reads same rv work later done idle
    | reports frames' reads message pos work later =>
      exact .reports _ frames' reads message pos work later

end

/-! ## Successive calls -/

/-- A number of calls of `uxr_read_framed_msg` with the same buffer: the messages that they
report, with the addresses of their senders. -/
def readCalls (len fuel : Nat) : Nat → FramedRead →
    Option (List (UInt8 × List UInt8) × FramedRead)
  | 0, r => some ([], r)
  | n + 1, r => do
    let r ← readFramedMsg len fuel r
    let (messages, r') ← readCalls len fuel n r
    return (if r.rv ≠ 0 then (r.remoteAddr, read r.buf 0 r.rv) :: messages else messages, r')

section

variable {addr : UInt8} {len fuel : Nat} {frames : List MsgFrame} {r : FramedRead}

/-- The calls report the messages in the order of their frames. -/
theorem readCalls_reads (n : Nat) (h : Reads addr len r frames) (hfuel : r.work < fuel) :
    ∃ messages r' frames', readCalls len fuel n r = some (messages, r') ∧
      Reads addr len r' frames' ∧ r'.work ≤ r.work ∧
      delivered addr frames = messages ++ delivered addr frames' := by
  induction n generalizing r frames with
  | zero => exact ⟨[], r, frames, rfl, h, Nat.le_refl _, rfl⟩
  | succ n ih =>
    obtain ⟨r₁, hcall, hfinished, -⟩ := readFramedMsg_finished h hfuel
    cases hfinished with
    | pauses frames₁ reads same rv work later done idle =>
      obtain ⟨messages, r', frames', hcalls, hreads, hwork, hdelivered⟩ := ih reads (by omega)
      refine ⟨messages, r', frames', ?_, hreads, by omega, same ▸ hdelivered⟩
      simp [readCalls, hcall, hcalls, rv]
    | reports frames₁ reads message pos work later =>
      obtain ⟨messages, r', frames', hcalls, hreads, hwork, hdelivered⟩ := ih reads (by omega)
      refine ⟨(r₁.remoteAddr, read r₁.buf 0 r₁.rv) :: messages, r', frames', ?_, hreads, by omega, ?_⟩
      · simp [readCalls, hcall, hcalls, Nat.ne_of_gt pos]
      · rw [message, hdelivered]
        rfl

theorem readCalls_add {n m : Nat} {messages messages' : List (UInt8 × List UInt8)}
    {r' r'' : FramedRead} (h : readCalls len fuel n r = some (messages, r'))
    (h' : readCalls len fuel m r' = some (messages', r'')) :
    readCalls len fuel (n + m) r = some (messages ++ messages', r'') := by
  induction n generalizing r messages with
  | zero =>
    cases h
    rwa [Nat.zero_add]
  | succ n ih =>
    rw [readCalls] at h
    cases hcall : readFramedMsg len fuel r with
    | none =>
      rw [hcall] at h
      cases h
    | some r₁ =>
      cases hcalls : readCalls len fuel n r₁ with
      | none => simp [hcall, hcalls] at h
      | some result =>
        obtain ⟨messages₁, r₁'⟩ := result
        simp only [hcall, hcalls, Option.pure_def, Option.bind_eq_bind, Option.bind_some,
          Option.some.injEq, Prod.mk.injEq] at h
        obtain ⟨rfl, rfl⟩ := h
        rw [Nat.succ_add, readCalls]
        simp only [hcall, ih hcalls, Option.pure_def, Option.bind_eq_bind, Option.bind_some]
        split <;> rfl

/-- The read callback delivers something again and again. -/
def ReadTransport.Fair (transport : ReadTransport) : Prop :=
  ∀ n, ∃ k, n ≤ k ∧ 0 < transport.delivers k

/-- Up to the next delivery of the callback: the calls of it, and the bytes in the ring that a call
of the reader may use up without one. -/
def waits (k : Nat) (r : FramedRead) : Nat :=
  2 * (k - r.transport.calls) + if r.io.ring = [] then 0 else 1

/-- As long as messages are missing, some call reports one or takes bytes from the transport.
The induction follows the calls of the callback up to the next one that delivers. -/
theorem readCalls_progress {k d : Nat} (h : Reads addr len r frames) (hfuel : r.work < fuel)
    (hmissing : delivered addr frames ≠ []) (hk : r.transport.calls ≤ k)
    (hdelivers : 0 < r.transport.delivers k) (hd : waits k r ≤ d) :
    ∃ n messages r' frames', readCalls len fuel n r = some (messages, r') ∧
      Reads addr len r' frames' ∧ r'.work ≤ r.work ∧ r.transport.Later r'.transport ∧
      delivered addr frames = messages ++ delivered addr frames' ∧
      (r'.transport.pending.length < r.transport.pending.length ∨ messages ≠ []) := by
  induction d using Nat.strongRecOn generalizing r frames with
  | ind d ih =>
    obtain ⟨r₁, hcall, hfinished, hempty⟩ := readFramedMsg_finished h hfuel
    cases hfinished with
    | reports frames₁ reads message pos work later =>
      refine ⟨1, [(r₁.remoteAddr, read r₁.buf 0 r₁.rv)], r₁, frames₁, ?_, reads, work, later, message,
        .inr (by simp)⟩
      simp [readCalls, hcall, Nat.ne_of_gt pos]
    | pauses frames₁ reads same rv work later done idle =>
      by_cases hshort : r₁.transport.pending.length < r.transport.pending.length
      · refine ⟨1, [], r₁, frames₁, ?_, reads, work, later, same.symm, .inl hshort⟩
        simp [readCalls, hcall, rv]
      · have hsame := later.eq_of_length (Nat.le_of_not_lt hshort)
        have hpending : r.transport.pending ≠ [] := by
          intro hnil
          rw [done (hsame.trans hnil)] at same
          exact hmissing same.symm
        have hk₁ : r₁.transport.calls ≤ k := by
          by_contra hover
          have hzero := later.idle hsame hpending k hk (Nat.lt_of_not_le hover)
          omega
        have hwaits : waits k r₁ < waits k r := by
          rw [waits, waits]
          by_cases hring : r.io.ring = []
          · have hcalls := hempty hring
            rw [if_pos hring]
            split <;> omega
          · rw [if_neg hring]
            rcases idle with hcalls | hring₁
            · split <;> omega
            · have hcalls := later.calls
              rw [if_pos hring₁]
              omega
        obtain ⟨n, messages, r', frames', hcalls, hreads, hwork, hlater, hdelivered, hprogress⟩ :=
          ih (waits k r₁) (by omega) reads (by omega) (by rw [same]; exact hmissing) hk₁
            (by rw [later.delivers]; exact hdelivers) (Nat.le_refl _)
        refine ⟨n + 1, messages, r', frames', ?_, hreads, by omega, later.trans hlater,
          same ▸ hdelivered, ?_⟩
        · simp [readCalls, hcall, hcalls, rv]
        · rw [hsame] at hprogress
          exact hprogress

/-- With a callback that delivers again and again, some number of calls reports everything. -/
theorem readCalls_complete {m : Nat} (h : Reads addr len r frames) (hfuel : r.work < fuel)
    (hfair : r.transport.Fair)
    (hm : r.transport.pending.length + (delivered addr frames).length ≤ m) :
    ∃ n r', readCalls len fuel n r = some (delivered addr frames, r') := by
  induction m using Nat.strongRecOn generalizing r frames with
  | ind m ih =>
    by_cases hmissing : delivered addr frames = []
    · exact ⟨0, r, by rw [readCalls, hmissing]⟩
    · obtain ⟨k, hk, hdelivers⟩ := hfair r.transport.calls
      obtain ⟨n, messages, r', frames', hcalls, hreads, hwork, hlater, hdelivered, hprogress⟩ :=
        readCalls_progress h hfuel hmissing hk hdelivers (Nat.le_refl _)
      have hless : r'.transport.pending.length + (delivered addr frames').length <
          r.transport.pending.length + (delivered addr frames).length := by
        have hle := hlater.length_le
        rw [hdelivered, List.length_append]
        rcases hprogress with hshort | hsome
        · omega
        · have hpos := List.length_pos_iff.mpr hsome
          omega
      have hfair' : r'.transport.Fair := by
        rw [ReadTransport.Fair, hlater.delivers]
        exact hfair
      obtain ⟨n', r'', hrest⟩ := ih _ (by omega) hreads (by omega) hfair' (Nat.le_refl _)
      exact ⟨n + n', r'', by rw [hdelivered]; exact readCalls_add hcalls hrest⟩

end

/-! ## The round trip -/

/-- The messages are written one behind the other, each by a writer of its own: the state of the
writer, whose address the message comes from, the address it is for and its payload. -/
def writeAll (transport : WriteTransport) :
    List (FramingIo × UInt8 × List UInt8) → Option WriteTransport
  | [] => some transport
  | (io, remoteAddr, payload) :: messages => do
    let (_, _, transport) ← writeFramedMsg io transport payload remoteAddr
    writeAll transport messages

/-- The frame that a writer makes of a message. -/
def frameOf (message : FramingIo × UInt8 × List UInt8) : MsgFrame :=
  ⟨message.1.localAddr, message.2.1, message.2.2⟩

theorem writeAll_writes {transport : WriteTransport} (hpositive : transport.Positive)
    {messages : List (FramingIo × UInt8 × List UInt8)}
    (hlength : ∀ message ∈ messages, message.2.2.length ≤ 65535) :
    ∃ transport', writeAll transport messages = some transport' ∧
      transport'.written =
        transport.written ++ (messages.map frameOf).flatMap MsgFrame.bytes := by
  induction messages generalizing transport with
  | nil => exact ⟨transport, rfl, (List.append_nil _).symm⟩
  | cons message messages ih =>
    obtain ⟨io, remoteAddr, payload⟩ := message
    obtain ⟨io', transport₁, hwrite, hpositive₁, -, hwritten₁⟩ :=
      writeFramedMsg_writes io hpositive remoteAddr (hlength _ List.mem_cons_self)
    obtain ⟨transport', hrest, hwritten⟩ :=
      ih hpositive₁ fun message hmem => hlength message (List.mem_cons_of_mem _ hmem)
    refine ⟨transport', ?_, ?_⟩
    · simp [writeAll, hwrite, hrest]
    · rw [hwritten, hwritten₁, List.map_cons, List.flatMap_cons, List.append_assoc]
      rfl

/-- Whatever the messages, the addresses and the ways in which the two callbacks cut up the
stream: what the successive calls of a reader report are the messages for its address, with
their senders, in order and each once. At any time these are the first of them, and a callback
that delivers again and again brings all of them. -/
theorem framing_round_trip (messages : List (FramingIo × UInt8 × List UInt8))
    (accepts : Nat → Nat) (hpositive : ∀ n, 0 < accepts n) (addr : UInt8) (len : Nat)
    (hlength : ∀ message ∈ messages, 1 ≤ message.2.2.length ∧ message.2.2.length ≤ 65535 ∧
      (message.2.1 = addr → message.2.2.length ≤ len)) :
    ∃ line, writeAll ⟨accepts, 0, []⟩ messages = some line ∧
      ∀ (io : FramingIo) (delivers : Nat → Nat) (buf : Memory) (remoteAddr : UInt8) (rv : Nat),
        ∃ turns, ∀ fuel ≥ turns,
          let reader : FramedRead :=
            ⟨initFramingIo io addr, ⟨delivers, 0, line.written⟩, buf, remoteAddr, rv⟩
          let sent := delivered addr (messages.map frameOf)
          (∀ n, ∃ read reader', readCalls len fuel n reader = some (read, reader') ∧
              read <+: sent) ∧
            ((∀ n, ∃ k, n ≤ k ∧ 0 < delivers k) →
              ∃ n reader', readCalls len fuel n reader = some (sent, reader')) := by
  obtain ⟨line, hwrite, hwritten⟩ :=
    @writeAll_writes ⟨accepts, 0, []⟩ hpositive messages fun message hmem => (hlength message hmem).2.1
  refine ⟨line, hwrite, fun io delivers buf remoteAddr rv => ?_⟩
  have hpos : 0 < framingBufferSize := by decide
  have hok : (initFramingIo io addr).RingOk := ⟨hpos, hpos⟩
  have hring : (initFramingIo io addr).ring = [] := (ring_eq_nil_iff hok).mpr rfl
  have hreads : Reads addr len
      ⟨initFramingIo io addr, ⟨delivers, 0, line.written⟩, buf, remoteAddr, rv⟩
      (messages.map frameOf) := by
    refine ⟨hok, rfl, ?_, .inl ⟨rfl, [], by simp, ?_⟩⟩
    · intro frame hmem
      obtain ⟨message, hmessage, rfl⟩ := List.mem_map.mp hmem
      obtain ⟨h₁, h₂, h₃⟩ := hlength message hmessage
      exact ⟨h₁, h₂, h₃⟩
    · rw [FramedRead.unread, hring, hwritten]
      rfl
  refine ⟨FramedRead.work
    ⟨initFramingIo io addr, ⟨delivers, 0, line.written⟩, buf, remoteAddr, rv⟩ + 1,
    fun fuel hfuel => ⟨fun n => ?_, fun hfair => ?_⟩⟩
  · obtain ⟨read, reader', frames', hcalls, -, -, hdelivered⟩ := readCalls_reads n hreads hfuel
    exact ⟨read, reader', hcalls, _, hdelivered.symm⟩
  · exact readCalls_complete hreads hfuel hfair (Nat.le_refl _)

/-- A state in memory that is all zero, with its address. -/
def framingIOFor (addr : UInt8) : FramingIo :=
  initFramingIo
    { state := .uninitialized, localAddr := 0, rb := fun _ => 0, rbHead := 0, rbTail := 0
      srcAddr := 0, msgLen := 0, msgPos := 0, msgCrc := 0, cmpCrc := 0, wb := fun _ => 0
      wbPos := 0 } addr

/-- A message for reader 1 and one for reader 2; the flag and the escape byte are among the
octets. -/
def twoMessages : List (FramingIo × UInt8 × List UInt8) :=
  [(framingIOFor 0x7E, 1, [0x7D, 0x7E]), (framingIOFor 0, 2, [5])]

/-- Both messages are written; reader 1 reports the first one, and nothing else. -/
theorem framing_round_trip_twoMessages :
    ∃ line, writeAll ⟨fun _ => 1, 0, []⟩ twoMessages = some line ∧
      ∃ fuel n reader', readCalls 4 fuel n
          ⟨framingIOFor 1, ⟨fun _ => 1, 0, line.written⟩, fun _ => 0, 0, 0⟩ =
        some ([(0x7E, [0x7D, 0x7E])], reader') := by
  obtain ⟨line, hwrite, hread⟩ := framing_round_trip twoMessages (fun _ => 1)
    (fun _ => Nat.one_pos) 1 4 (by
      intro message hmem
      rcases List.mem_cons.mp hmem with rfl | hmem
      · decide
      · rw [List.mem_singleton.mp hmem]
        decide)
  obtain ⟨turns, hturns⟩ := hread (framingIOFor 1) (fun _ => 1) (fun _ => 0) 0 0
  obtain ⟨n, reader', hcalls⟩ :=
    (hturns turns (Nat.le_refl _)).2 fun n => ⟨n, Nat.le_refl n, Nat.one_pos⟩
  exact ⟨line, hwrite, turns, n, reader', hcalls⟩

end XrceClient
