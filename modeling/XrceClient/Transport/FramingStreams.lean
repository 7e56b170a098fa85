import XrceClient.Transport.FramingResync

/-!
# Successive calls on any stream

The messages that successive calls of `readFramedMsg` report are those of the bytes that the
calls have used, whatever comes before a frame and however the transport cuts up the stream,
in every run in which no turn loses a flag.

- `TurnsKeep` / `CallsKeep`: no turn of a run loses a flag.
- `readCalls_follows`: what was reported so far.
- `readCalls_all`: everything is reported, once the transport has delivered it.
- `callsKeep_of_avoids`: where no frame of a stream is cut short in a field, no run on it loses
  a flag.
- `framing_resynchronises`.
-/

namespace XrceClient

open ByteMemory FramingIo

/-- What a call does before its turns: the result is zero, and an empty ring is read into. -/
def FramedRead.beginCall (r : FramedRead) : FramedRead :=
  if r.io.rbHead = r.io.rbTail then
    { r with
      io := (framingReadTransport r.io r.transport 5).2.1
      transport := (framingReadTransport r.io r.transport 5).2.2
      rv := 0 }
  else { r with rv := 0 }

/-- No turn of the state machine loses a flag. -/
def TurnsKeep (len : Nat) : Nat → FramedRead → Prop
  | 0, _ => True
  | fuel + 1, r =>
    ¬ r.LosesFlag ∧ ((readTurn len r).1 = false → TurnsKeep len fuel (readTurn len r).2)

/-- No turn of a number of calls loses a flag. -/
def CallsKeep (len fuel : Nat) : Nat → FramedRead → Prop
  | 0, _ => True
  | n + 1, r =>
    (r.beginCall.io.rbTail ≠ r.beginCall.io.rbHead → TurnsKeep len fuel r.beginCall) ∧
      ∀ r', readFramedMsg len fuel r = some r' → CallsKeep len fuel n r'

section

variable {addr : UInt8} {len fuel : Nat} {r r' : FramedRead}

theorem readFramedMsg_eq :
    readFramedMsg len fuel r =
      if r.beginCall.io.rbTail ≠ r.beginCall.io.rbHead then readTurns len fuel r.beginCall
      else some r.beginCall := by
  rw [readFramedMsg, FramedRead.beginCall]

/-! ## One call -/

/-- The turns, once they are left. -/
theorem readTurns_follows (h : r.Listens addr) (hrv : r.rv = 0) (hkeeps : TurnsKeep len fuel r)
    (hturns : readTurns len fuel r = some r') :
    Follows addr len r r' r'.message ∧
      (r'.work < r.work ∨ r.io.ring = [] ∨
        (r'.Starved ∧ r.transport.calls < r'.transport.calls)) := by
  induction fuel generalizing r with
  | zero => cases hturns
  | succ fuel ih =>
    have hturned := @readTurn_turned addr len r h hrv hkeeps.1
    have hnext := hkeeps.2
    rw [readTurns] at hturns
    generalize readTurn len r = result at hturned hnext hturns
    cases hturned with
    | goesOn r₁ follows rv less =>
      obtain ⟨hfollows, -⟩ := ih follows.listens rv (hnext rfl) hturns
      have hwork := hfollows.work
      exact ⟨follows.trans hfollows, .inl (by omega)⟩
    | leaves r₁ follows idle =>
      cases hturns
      exact ⟨follows, idle⟩

/-- The turns are left, after no more of them than there is work. -/
theorem readTurns_ends (h : r.Listens addr) (hrv : r.rv = 0) (hkeeps : TurnsKeep len fuel r)
    (hfuel : r.work < fuel) : ∃ r', readTurns len fuel r = some r' := by
  induction fuel generalizing r with
  | zero => omega
  | succ fuel ih =>
    have hturned := @readTurn_turned addr len r h hrv hkeeps.1
    have hnext := hkeeps.2
    rw [readTurns]
    generalize readTurn len r = result at hturned hnext
    cases hturned with
    | goesOn r₁ follows rv less => exact ih follows.listens rv (hnext rfl) (by omega)
    | leaves r₁ follows idle => exact ⟨r₁, rfl⟩

theorem beginCall_follows (h : r.Listens addr) :
    Follows addr len r r.beginCall [] ∧ r.beginCall.rv = 0 ∧
      (r.beginCall.io.ring = [] → r.transport.calls < r.beginCall.transport.calls) := by
  rw [FramedRead.beginCall]
  split
  · next hempty =>
    have hring := (ring_eq_nil_iff h.ok).mpr hempty
    obtain ⟨bytesRead, io', transport', hread, hwaited, hwork, -, hcalls⟩ :=
      @waited_readTransport { r with rv := 0 } h.ok 5 (by decide)
    have hfirst : Follows addr len r { r with rv := 0 } [] :=
      ⟨h.withRv 0, ⟨[], rfl, rfl⟩, .refl _, Nat.le_refl _⟩
    dsimp only at hread
    rw [hread]
    refine ⟨hfirst.trans (hwaited.follows (h.withRv 0) (by omega)), rfl, fun _ => ?_⟩
    exact (hcalls (hasRoom (by rw [show FramingIo.ring _ = [] from hring]; exact Nat.zero_le 1))).1
  · next hmore =>
    refine ⟨⟨h.withRv 0, ⟨[], rfl, rfl⟩, .refl _, Nat.le_refl _⟩, rfl, fun hring => ?_⟩
    exact absurd ((ring_eq_nil_iff h.ok).mp hring) hmore

/-- A call that has returned. -/
theorem readFramedMsg_follows (h : r.Listens addr)
    (hkeeps : r.beginCall.io.rbTail ≠ r.beginCall.io.rbHead → TurnsKeep len fuel r.beginCall)
    (hcall : readFramedMsg len fuel r = some r') :
    Follows addr len r r' r'.message ∧
      (r'.work < r.work ∨ (r'.Starved ∧ r.transport.calls < r'.transport.calls)) := by
  obtain ⟨hbegin, hrv, hcalls⟩ := @beginCall_follows addr len r h
  have hworkBegin := hbegin.work
  have hcallsBegin := hbegin.later.calls
  have hring := ring_eq_nil_iff hbegin.listens.ok
  rw [readFramedMsg_eq] at hcall
  by_cases hmore : r.beginCall.io.rbTail ≠ r.beginCall.io.rbHead
  · rw [if_pos hmore] at hcall
    obtain ⟨hfollows, hidle⟩ := readTurns_follows hbegin.listens hrv (hkeeps hmore) hcall
    refine ⟨hbegin.trans hfollows, ?_⟩
    rcases hidle with hless | hempty | ⟨hstarved, hlater⟩
    · exact .inl (by omega)
    · exact absurd (hring.mp hempty).symm hmore
    · exact .inr ⟨hstarved, by omega⟩
  · rw [if_neg hmore] at hcall
    cases hcall
    have hempty := hring.mpr (not_not.mp hmore).symm
    exact ⟨hbegin.noMessage hrv, .inr ⟨.inl hempty, hcalls hempty⟩⟩

theorem readFramedMsg_ends (h : r.Listens addr)
    (hkeeps : r.beginCall.io.rbTail ≠ r.beginCall.io.rbHead → TurnsKeep len fuel r.beginCall)
    (hfuel : r.work < fuel) : ∃ r', readFramedMsg len fuel r = some r' := by
  obtain ⟨hbegin, hrv, -⟩ := @beginCall_follows addr len r h
  rw [readFramedMsg_eq]
  split
  · next hmore =>
    exact readTurns_ends hbegin.listens hrv (hkeeps hmore) (Nat.lt_of_le_of_lt hbegin.work hfuel)
  · exact ⟨_, rfl⟩

/-! ## Successive calls -/

theorem readCalls_succ {n : Nat} {messages : List (UInt8 × List UInt8)} {r₁ : FramedRead}
    (hcall : readFramedMsg len fuel r = some r₁)
    (hcalls : readCalls len fuel n r₁ = some (messages, r')) :
    readCalls len fuel (n + 1) r = some (r₁.message ++ messages, r') := by
  rw [readCalls, hcall, FramedRead.message]
  simp only [hcalls, Option.pure_def, Option.bind_eq_bind, Option.bind_some]
  split <;> rfl

/-- What the calls of a run without a lost flag have reported so far. -/
theorem readCalls_follows (n : Nat) (h : r.Listens addr) (hkeeps : CallsKeep len fuel n r)
    (hfuel : r.work < fuel) :
    ∃ messages r', readCalls len fuel n r = some (messages, r') ∧
      Follows addr len r r' messages := by
  induction n generalizing r with
  | zero => exact ⟨[], r, rfl, .refl h⟩
  | succ n ih =>
    obtain ⟨r₁, hcall⟩ := readFramedMsg_ends h hkeeps.1 hfuel
    obtain ⟨hfollows, -⟩ := readFramedMsg_follows h hkeeps.1 hcall
    obtain ⟨messages, r', hcalls, hrest⟩ :=
      ih hfollows.listens (hkeeps.2 r₁ hcall) (Nat.lt_of_le_of_lt hfollows.work hfuel)
    exact ⟨_, r', readCalls_succ hcall hcalls, hfollows.trans hrest⟩

/-- The messages that are still to be reported. -/
def FramedRead.missing (addr : UInt8) (len : Nat) (r : FramedRead) : List (UInt8 × List UInt8) :=
  ((receiver addr len).run r.receives r.unread).2

/-- A reader that has nothing to take, and gets nothing more, misses nothing. -/
theorem missing_of_starved (h : r.Starved) (hpending : r.transport.pending = []) :
    r.missing addr len = [] := by
  rw [FramedRead.missing, FramedRead.unread, hpending, List.append_nil]
  rcases h with hring | hring <;> rw [hring]
  · rfl
  · rw [Transducer.run_singleton, receiver_step, if_neg (by decide)]
    split
    · rfl
    · rw [FramedRead.receives, if_neg Bool.false_ne_true, if_pos rfl]

theorem Follows.missing {messages : List (UInt8 × List UInt8)}
    (h : Follows addr len r r' messages) :
    r.missing addr len = messages ++ r'.missing addr len := h.consumes.results

theorem CallsKeep.later {n m : Nat} {messages : List (UInt8 × List UInt8)}
    (h : CallsKeep len fuel (n + m) r) (hcalls : readCalls len fuel n r = some (messages, r')) :
    CallsKeep len fuel m r' := by
  induction n generalizing r messages with
  | zero =>
    cases hcalls
    rwa [Nat.zero_add] at h
  | succ n ih =>
    rw [Nat.succ_add] at h
    rw [readCalls] at hcalls
    cases hcall : readFramedMsg len fuel r with
    | none =>
      rw [hcall] at hcalls
      cases hcalls
    | some r₁ =>
      cases hrest : readCalls len fuel n r₁ with
      | none => simp [hcall, hrest] at hcalls
      | some result =>
        obtain ⟨messages₁, r₁'⟩ := result
        simp only [hcall, hrest, Option.pure_def, Option.bind_eq_bind, Option.bind_some,
          Option.some.injEq, Prod.mk.injEq] at hcalls
        obtain ⟨-, rfl⟩ := hcalls
        exact ih (h.2 r₁ hcall) hrest

/-- As long as the callback delivers again, some number of calls gets on with the stream, or there
is nothing more in it. The induction follows the calls of the callback up to the next one that
delivers. -/
theorem readCalls_getsOn {k d : Nat} (h : r.Listens addr) (hkeeps : ∀ n, CallsKeep len fuel n r)
    (hfuel : r.work < fuel) (hk : r.transport.calls ≤ k)
    (hdelivers : 0 < r.transport.delivers k) (hd : k - r.transport.calls ≤ d) :
    ∃ n messages r', readCalls len fuel n r = some (messages, r') ∧
      Follows addr len r r' messages ∧
      (r'.work + r'.transport.pending.length < r.work + r.transport.pending.length ∨
        r'.missing addr len = []) := by
  induction d using Nat.strongRecOn generalizing r with
  | ind d ih =>
    obtain ⟨r₁, hcall⟩ := readFramedMsg_ends h (hkeeps 1).1 hfuel
    obtain ⟨hfollows, hidle⟩ := readFramedMsg_follows h (hkeeps 1).1 hcall
    have hcalls₁ : readCalls len fuel 1 r = some (r₁.message, r₁) := by
      have hone := @readCalls_succ len fuel r r₁ 0 [] r₁ hcall rfl
      rwa [List.append_nil] at hone
    have hwork := hfollows.work
    have hlength := hfollows.later.length_le
    by_cases hless : r₁.work + r₁.transport.pending.length < r.work + r.transport.pending.length
    · exact ⟨1, _, r₁, hcalls₁, hfollows, .inl hless⟩
    · have hsame := hfollows.later.eq_of_length (by omega)
      obtain ⟨hstarved, hlater⟩ := hidle.resolve_left (by omega)
      by_cases hpending : r.transport.pending = []
      · exact ⟨1, _, r₁, hcalls₁, hfollows, .inr (missing_of_starved hstarved (hsame.trans hpending))⟩
      · have hk₁ : r₁.transport.calls ≤ k := by
          by_contra hover
          have hzero := hfollows.later.idle hsame hpending k hk (Nat.lt_of_not_le hover)
          omega
        obtain ⟨n, messages, r', hrest, hfollows', hprogress⟩ :=
          ih (k - r₁.transport.calls) (by omega) hfollows.listens
            (fun n => (hkeeps (n + 1)).2 r₁ hcall) (by omega) hk₁
            (by rw [hfollows.later.delivers]; exact hdelivers) (Nat.le_refl _)
        refine ⟨n + 1, _, r', readCalls_succ hcall hrest, hfollows.trans hfollows', ?_⟩
        exact hprogress.imp_left fun hshort => by omega

/-- With a callback that delivers again and again, some number of calls reports everything. -/
theorem readCalls_all {m : Nat} (h : r.Listens addr) (hkeeps : ∀ n, CallsKeep len fuel n r)
    (hfuel : r.work < fuel) (hfair : r.transport.Fair)
    (hm : r.work + r.transport.pending.length ≤ m) :
    ∃ n r', readCalls len fuel n r = some (r.missing addr len, r') := by
  induction m using Nat.strongRecOn generalizing r with
  | ind m ih =>
    obtain ⟨k, hk, hdelivers⟩ := hfair r.transport.calls
    obtain ⟨n, messages, r₁, hcalls, hfollows, hprogress⟩ :=
      readCalls_getsOn h hkeeps hfuel hk hdelivers (Nat.le_refl _)
    rw [hfollows.missing]
    rcases hprogress with hless | hnone
    · have hfair₁ : r₁.transport.Fair := by
        rw [ReadTransport.Fair, hfollows.later.delivers]
        exact hfair
      obtain ⟨n', r', hrest⟩ := ih _ (Nat.lt_of_lt_of_le hless hm) hfollows.listens
        (fun n' => (hkeeps (n + n')).later hcalls) (Nat.lt_of_le_of_lt hfollows.work hfuel) hfair₁
        (Nat.le_refl _)
      exact ⟨n + n', r', readCalls_add hcalls hrest⟩
    · rw [hnone, List.append_nil]
      exact ⟨n, r₁, hcalls⟩

/-! ## Streams without a frame that is cut short -/

/-- A flag that is lost cuts a frame short. -/
theorem not_losesFlag_of_avoids
    (h : (receiver addr len).Avoids CutShort r.receives r.unread) : ¬ r.LosesFlag := by
  rintro ⟨hfield, hflag, -⟩
  obtain ⟨used, rest, hreads, hring⟩ := flagNext_iff.mp hflag
  obtain ⟨hin, hne⟩ := awaited_inField hfield
  rw [FramedRead.unread, hring, List.append_assoc] at h
  cases hreads with
  | flag => exact h.1 ⟨hin, rfl⟩
  | escapedFlag =>
    have hstep : (receiver addr len).step r.receives framing.escFlag = (⟨r.awaited, true⟩, []) := by
      show (receiver addr len).step r.receives framingEscFlag = _
      rw [receiver_step, if_neg (by decide), FramedRead.receives, if_neg hne,
        if_neg Bool.false_ne_true, if_pos rfl]
    have hnext := h.2.1
    rw [hstep] at hnext
    exact hnext ⟨hin, rfl⟩

theorem turnsKeep_of_avoids (h : r.Listens addr) (hrv : r.rv = 0)
    (havoids : (receiver addr len).Avoids CutShort r.receives r.unread) :
    TurnsKeep len fuel r := by
  induction fuel generalizing r with
  | zero => trivial
  | succ fuel ih =>
    have hkeeps := not_losesFlag_of_avoids havoids
    have hturned := @readTurn_turned addr len r h hrv hkeeps
    refine ⟨hkeeps, ?_⟩
    generalize readTurn len r = result at hturned
    cases hturned with
    | goesOn r₁ follows rv less =>
      exact fun _ => ih follows.listens rv (havoids.consumes follows.consumes)
    | leaves r₁ follows idle => nofun

/-- Where no frame is cut short in a field, no run loses a flag, whatever the transport does. -/
theorem callsKeep_of_avoids (h : r.Listens addr)
    (havoids : (receiver addr len).Avoids CutShort r.receives r.unread) (n : Nat) :
    CallsKeep len fuel n r := by
  induction n generalizing r with
  | zero => trivial
  | succ n ih =>
    obtain ⟨hbegin, hrv, -⟩ := @beginCall_follows addr len r h
    have hturns : r.beginCall.io.rbTail ≠ r.beginCall.io.rbHead →
        TurnsKeep len fuel r.beginCall :=
      fun _ => turnsKeep_of_avoids hbegin.listens hrv (havoids.consumes hbegin.consumes)
    refine ⟨hturns, fun r' hcall => ?_⟩
    obtain ⟨hfollows, -⟩ := readFramedMsg_follows h hturns hcall
    exact ih hfollows.listens (havoids.consumes hfollows.consumes)

end

/-! ## Any stream -/

/-- A reader with the address in front of a stream, whatever is in its memory. -/
def readerOf (io : FramingIo) (addr : UInt8) (delivers : Nat → Nat) (bytes : List UInt8)
    (buf : Memory) (remoteAddr : UInt8) (rv : Nat) : FramedRead :=
  ⟨initFramingIo io addr, ⟨delivers, 0, bytes⟩, buf, remoteAddr, rv⟩

section

variable (io : FramingIo) (addr : UInt8) (delivers : Nat → Nat) (bytes : List UInt8)
  (buf : Memory) (remoteAddr : UInt8) (rv : Nat)

theorem readerOf_listens :
    (readerOf io addr delivers bytes buf remoteAddr rv).Listens addr ∧
      (readerOf io addr delivers bytes buf remoteAddr rv).receives = ⟨.beginFlag, false⟩ ∧
      (readerOf io addr delivers bytes buf remoteAddr rv).unread = bytes := by
  have hpos : 0 < framingBufferSize := by decide
  have hok : (initFramingIo io addr).RingOk := ⟨hpos, hpos⟩
  refine ⟨⟨hok, rfl, trivial⟩, rfl, ?_⟩
  show (initFramingIo io addr).ring ++ bytes = bytes
  rw [(ring_eq_nil_iff hok).mpr rfl, List.nil_append]

end

/-- Whatever the stream and the ways in which the callback cuts it up: in a run in which no turn
loses a flag, the messages reported so far are those in the bytes used so far; a callback that
delivers again and again brings those of the whole stream; and among them is that of every
complete frame for the address, whatever is in front of it. -/
theorem framing_resynchronises (addr : UInt8) (len : Nat) (bytes : List UInt8) (io : FramingIo)
    (delivers : Nat → Nat) (buf : Memory) (remoteAddr : UInt8) (rv : Nat) :
    ∃ turns, ∀ fuel ≥ turns,
      let reader := readerOf io addr delivers bytes buf remoteAddr rv
      (∀ n, CallsKeep len fuel n reader →
        ∃ used reader', bytes = used ++ reader'.unread ∧
          readCalls len fuel n reader = some (messagesIn addr len used, reader')) ∧
        ((∀ n, ∃ k, n ≤ k ∧ 0 < delivers k) → (∀ n, CallsKeep len fuel n reader) →
          (∃ n reader', readCalls len fuel n reader = some (messagesIn addr len bytes, reader')) ∧
            ∀ (before : List UInt8) (frame : MsgFrame) (after : List UInt8),
              bytes = before ++ frame.bytes ++ after → frame.Sendable addr len →
              frame.dstAddr = addr →
              ∃ n reader', readCalls len fuel n reader =
                some (messagesIn addr len before ++
                  (frame.srcAddr, frame.payload) :: messagesIn addr len after, reader')) := by
  obtain ⟨hlistens, hreceives, hunread⟩ :=
    readerOf_listens io addr delivers bytes buf remoteAddr rv
  refine ⟨(readerOf io addr delivers bytes buf remoteAddr rv).work + 1, fun fuel hfuel => ?_⟩
  intro reader
  refine ⟨fun n hkeeps => ?_, fun hfair hkeeps => ?_⟩
  · obtain ⟨messages, reader', hcalls, hfollows⟩ := readCalls_follows n hlistens hkeeps hfuel
    obtain ⟨used, hsplit, hrun⟩ := hfollows.consumes
    refine ⟨used, reader', hunread.symm.trans hsplit, ?_⟩
    rw [hreceives] at hrun
    rw [messagesIn, hrun]
    exact hcalls
  · have hmissing : reader.missing addr len = messagesIn addr len bytes := by
      rw [FramedRead.missing, hreceives, hunread, messagesIn]
    obtain ⟨n, reader', hcalls⟩ :=
      readCalls_all hlistens hkeeps hfuel hfair (Nat.le_refl _)
    rw [hmissing] at hcalls
    refine ⟨⟨n, reader', hcalls⟩, ?_⟩
    intro before frame after hbytes hsendable hdst
    refine ⟨n, reader', ?_⟩
    rw [← messagesIn_frame hsendable hdst, ← hbytes]
    exact hcalls

/-- A frame that ends within its payload, and a whole one behind it. -/
def brokenStream : List UInt8 :=
  [0x11, 0x7E, 3, 1, 4, 0, 0x22] ++ MsgFrame.bytes ⟨2, 1, [5]⟩

/-- The whole frame is received, one byte at a time. -/
theorem framing_resynchronises_broken :
    ∃ fuel n reader', readCalls 8 fuel n
        (readerOf (framingIOFor 1) 1 (fun _ => 1) brokenStream (fun _ => 0) 0 0) =
      some ([(2, [5])], reader') := by
  obtain ⟨turns, hturns⟩ :=
    framing_resynchronises 1 8 brokenStream (framingIOFor 1) (fun _ => 1) (fun _ => 0) 0 0
  obtain ⟨hlistens, hreceives, hunread⟩ :=
    readerOf_listens (framingIOFor 1) 1 (fun _ => 1) brokenStream (fun _ => 0) 0 0
  have havoids : (receiver 1 8).Avoids CutShort ⟨.beginFlag, false⟩ brokenStream := by
    decide +kernel
  rw [← hreceives, ← hunread] at havoids
  obtain ⟨hall, hframe⟩ := (hturns turns (Nat.le_refl _)).2
    (fun n => ⟨n, Nat.le_refl n, Nat.one_pos⟩) fun n => callsKeep_of_avoids hlistens havoids n
  obtain ⟨n, reader', hcalls⟩ := hframe [0x11, 0x7E, 3, 1, 4, 0, 0x22] ⟨2, 1, [5]⟩ []
    (by rw [List.append_nil]; rfl) ⟨by decide, by decide, by decide⟩ rfl
  exact ⟨turns, n, reader', hcalls⟩

/-- A frame that ends behind its first address, and a whole one behind it. -/
def cutStream : List UInt8 := [0x7E, 3] ++ MsgFrame.bytes ⟨2, 1, [5]⟩

/-- The same bytes in two ways: where the transport pauses behind the second flag, the frame is
reported; where it delivers everything, it is not, although every byte was used. -/
theorem cutStream_chunks :
    (readCalls 8 40 4 (readerOf (framingIOFor 1) 1
        (fun call => if call = 0 then 3 else if call = 1 then 0 else 40) cutStream
        (fun _ => 0) 0 0)).map Prod.fst = some [(2, [5])] ∧
      (readCalls 8 40 4 (readerOf (framingIOFor 1) 1 (fun _ => 40) cutStream
        (fun _ => 0) 0 0)).map (fun result => (result.1, result.2.unread)) = some ([], []) := by
  decide +kernel

end XrceClient
