import XrceClient.Base.Fuel
import XrceClient.Session.Waiting

/-!
# More fuel

The functions of a session that take a fuel argument have the same result with more of it.

- `steady_readMessage`: reading a message.
- `steady_flash`: flushing the output streams.
- `steady_listenMessageReliablyIn`, `steady_listenUntil`, `steady_listenUntilPong`: waiting for the
  agent.
-/

namespace XrceClient

open ByteMemory

section

variable {stream : InputReliableStream} {seqNum : SeqNum} {msg : Datagram}

theorem steady_checkLastFragmentFrom (next : SeqNum) :
    Steady fun fuel => checkLastFragmentFrom stream fuel next := by
  intro n r h
  induction n generalizing next with
  | zero => cases h
  | succ n ih =>
    change checkLastFragmentFrom stream (n + 1) next = some r at h
    show checkLastFragmentFrom stream (n + 2) next = some r
    unfold checkLastFragmentFrom at h ⊢
    dsimp only at h ⊢
    split at h
    · next hfilled =>
      rw [if_pos hfilled]
      cases hinfo : stream.fragmentationInfo (seqNumAdd next 1) with
      | intermediateFragment =>
        rw [hinfo] at h
        exact ih _ h
      | lastFragment =>
        rw [hinfo] at h
        exact h
      | noFragmented =>
        rw [hinfo] at h
        exact h
    · next hempty =>
      rw [if_neg hempty]
      exact h

theorem steady_receiveReliableMessage (messageStored : Bool) :
    Steady fun fuel => receiveReliableMessage fuel stream seqNum msg messageStored :=
  .ite (.ite (.const _)
    (.ite (.ite ((steady_checkLastFragmentFrom _).map _) (.const _)) (.const _))) (.const _)

variable [MicroCdr] {ub : UcdrBuffer} {fragmentOffset : Nat}

theorem steady_nextInputReliableBufferAvailable :
    Steady fun fuel => nextInputReliableBufferAvailable fuel stream ub fragmentOffset := by
  intro n r h
  unfold nextInputReliableBufferAvailable at h ⊢
  dsimp only at h ⊢
  split at h
  · next hfilled =>
    rw [if_pos hfilled]
    split at h
    · exact h
    · exact (steady_checkLastFragmentFrom _).map _ h
  · next hempty =>
    rw [if_neg hempty]
    exact h

end

section

variable [MicroCdr] {shiftBeyond : Nat → UInt16} {config : ReadConfig}

/-- A list of submessages that was read to its end. -/
theorem steady_readSubmessagesFrom {σ : Type} (env : ReadEnv σ) (streamId : StreamId)
    (header : SubmessageHeader) (t : σ × Cursor) {n : Nat}
    (h : ((readSubmessagesFrom config streamId n header).run env.handle t).1 = true) :
    (readSubmessagesFrom config streamId (n + 1) header).run env.handle t =
      (readSubmessagesFrom config streamId n header).run env.handle t := by
  induction n generalizing header t with
  | zero => exact absurd h Bool.false_ne_true
  | succ n ih =>
    rw [readSubmessagesFrom, Program.run_bind] at h
    rw [readSubmessagesFrom, Program.run_bind, readSubmessagesFrom, Program.run_bind]
    generalize (readSubmessageHeader header).run env.handle t = result at h ⊢
    obtain ⟨⟨found, header'⟩, t'⟩ := result
    cases found with
    | false => rfl
    | true =>
      simp only [if_true, Program.run_bind] at h ⊢
      exact ih _ _ h

theorem steady_readSubmessages (env : ReadEnv Session) (session : Session) (ub : UcdrBuffer)
    (streamId : StreamId) :
    Steady fun fuel => readSubmessages config fuel env session ub streamId := by
  intro n session' h
  unfold readSubmessages ReadEnv.read readSubmessageList at h ⊢
  dsimp only at h ⊢
  split at h
  · next hcomplete =>
    rw [steady_readSubmessagesFrom _ _ _ _ hcomplete, if_pos hcomplete]
    exact h
  · cases h

theorem steady_readNextBuffers (streamId : StreamId) (session : Session) (nextMb : UcdrBuffer) :
    Steady fun fuel => readNextBuffers shiftBeyond config streamId fuel session nextMb := by
  intro n session' h
  induction n generalizing session nextMb with
  | zero => cases h
  | succ n ih =>
    dsimp only at h ih ⊢
    rw [readNextBuffers] at h ⊢
    obtain ⟨next, hnext, h⟩ := Option.bind_eq_some_iff.mp h
    refine Option.bind_eq_some_iff.mpr ⟨next, steady_nextInputReliableBufferAvailable hnext, ?_⟩
    dsimp only at h ⊢
    split at h
    · next havailable =>
      rw [if_pos havailable]
      obtain ⟨session₁, hread, h⟩ := Option.bind_eq_some_iff.mp h
      exact Option.bind_eq_some_iff.mpr
        ⟨session₁, steady_readSubmessages _ _ _ _ hread, ih _ _ h⟩
    · next hnone =>
      rw [if_neg hnone]
      exact h

theorem steady_readReliableStream (session : Session) (memory : Memory) (ub : UcdrBuffer)
    (streamId : StreamId) (seqNum : SeqNum) (stream : InputReliableStream) :
    Steady fun fuel =>
      readReliableStream shiftBeyond config fuel session memory ub streamId seqNum stream := by
  refine .bind (steady_receiveReliableMessage _) fun received => .ite (.ite ?_ ?_) (.const _)
  · exact .bind (.const _) fun session => steady_readNextBuffers _ _ _
  · exact .bind (steady_readSubmessages _ _ _ _) fun session => steady_readNextBuffers _ _ _

theorem steady_readStream (session : Session) (memory : Memory) (ub : UcdrBuffer)
    (streamId : StreamId) (seqNum : SeqNum) :
    Steady fun fuel => readStream shiftBeyond config fuel session memory ub streamId seqNum := by
  unfold readStream
  cases streamId.type with
  | noneStream => exact steady_readSubmessages _ _ _ _
  | bestEffortStream =>
    dsimp only
    cases getInputBestEffortStream session.streams streamId.index with
    | none => exact .const _
    | some stream => exact .ite (steady_readSubmessages _ _ _ _) (.const _)
  | reliableStream =>
    refine .map ?_ _
    cases getInputReliableStream session.streams streamId.index with
    | none => exact .const _
    | some stream => exact steady_readReliableStream _ _ _ _ _ _

/-- Reading a message. -/
theorem steady_readMessage (session : Session) (msg : Datagram) :
    Steady fun fuel => readMessage shiftBeyond config fuel session msg :=
  .ite (steady_readStream _ _ _ _ _) (.const _)

/-! ## Flushing -/

theorem steady_flashReliableStream (platform : Platform) (i : UInt8) (run : Run) :
    Steady fun fuel => flashReliableStream platform i fuel run := by
  intro n run' h
  induction n generalizing run with
  | zero => cases h
  | succ n ih =>
    unfold flashReliableStream at h ⊢
    dsimp only at h ⊢
    split at h
    · next hready =>
      rw [if_pos hready]
      split at h
      · next hsent =>
        rw [if_pos hsent]
        exact ih _ h
      · next hrefused =>
        rw [if_neg hrefused]
        exact h
    · next hnone =>
      rw [if_neg hnone]
      exact h

variable {ω : Type} {world : World ω}

theorem steady_flash (waiting : WaitingSession ω) : Steady fun fuel => waiting.flash world fuel := by
  refine .map ?_ _
  unfold flashOutputStreams
  generalize List.range _ = streams
  generalize { waiting.session.start with
    session := flashBestEffortStreams waiting.session.start.session } = run
  induction streams generalizing run with
  | nil => exact .const _
  | cons i streams ih =>
    exact .bind (steady_flashReliableStream world.platform (UInt8.ofNat i) run) ih

/-! ## Waiting -/

/-- A call with its result, if it has come to its end. -/
def finished {α : Type} (result : Option α × WaitingSession ω) : Option (α × WaitingSession ω) :=
  result.1.map fun a => (a, result.2)

omit [MicroCdr] in
theorem finished_andThen {α β : Type} (result : Option α × WaitingSession ω)
    (next : α → WaitingSession ω → Option β × WaitingSession ω) :
    finished (andThen result next) =
      (finished result).bind fun r => finished (next r.1 r.2) := by
  obtain ⟨_ | a, waiting⟩ := result <;> rfl

theorem steady_listenMessageIn (waiting : WaitingSession ω) (pollMs : Int) :
    Steady fun fuel => finished (listenMessageIn world shiftBeyond config fuel waiting pollMs) := by
  intro n r h
  unfold listenMessageIn at h ⊢
  dsimp only at h ⊢
  split at h
  · next msg hmsg =>
    cases hread : readMessage shiftBeyond config n waiting.session msg with
    | none =>
      rw [hread] at h
      cases h
    | some session =>
      have hmore : readMessage shiftBeyond config (n + 1) waiting.session msg = some session :=
        steady_readMessage _ _ hread
      rw [hread] at h
      rw [hmore]
      exact h
  · exact h

theorem steady_listenMessageReliablyForIn (waiting : WaitingSession ω) (poll : Int) :
    Steady fun fuel =>
      finished (listenMessageReliablyForIn world shiftBeyond config fuel waiting poll) := by
  intro n r h
  induction n generalizing waiting poll with
  | zero => cases h
  | succ n ih =>
    dsimp only at h ih ⊢
    rw [listenMessageReliablyForIn] at h ⊢
    dsimp only at h ⊢
    rw [finished_andThen] at h ⊢
    obtain ⟨⟨received, waiting'⟩, hlisten, hnext⟩ := Option.bind_eq_some_iff.mp h
    refine Option.bind_eq_some_iff.mpr ⟨_, steady_listenMessageIn _ _ hlisten, ?_⟩
    dsimp only at hnext ⊢
    cases received with
    | true => exact hnext
    | false =>
      rw [if_neg Bool.false_ne_true] at hnext ⊢
      split at hnext
      · next hmore =>
        rw [if_pos hmore]
        exact ih _ _ hnext
      · next hover =>
        rw [if_neg hover]
        exact hnext

theorem steady_listenMessageReliablyIn (waiting : WaitingSession ω) (pollMs : Int) :
    Steady fun fuel =>
      finished (listenMessageReliablyIn world shiftBeyond config fuel waiting pollMs) :=
  steady_listenMessageReliablyForIn _ _

theorem steady_listenUntil (asks : Int → Int) (answered : WaitingSession ω → Bool)
    (timeoutMs startTimestamp : Int) (waiting : WaitingSession ω) (remainingTime : Int) :
    Steady fun fuel => finished (listenUntil world shiftBeyond config asks answered timeoutMs
      startTimestamp fuel waiting remainingTime) := by
  intro n r h
  induction n generalizing waiting remainingTime with
  | zero => cases h
  | succ n ih =>
    dsimp only at h ih ⊢
    rw [listenUntil, finished_andThen] at h ⊢
    obtain ⟨⟨received, waiting'⟩, hlisten, hnext⟩ := Option.bind_eq_some_iff.mp h
    refine Option.bind_eq_some_iff.mpr ⟨_, steady_listenMessageReliablyIn _ _ hlisten, ?_⟩
    dsimp only at hnext ⊢
    split at hnext
    · next hmore =>
      rw [if_pos hmore]
      exact ih _ _ hnext
    · next hover =>
      rw [if_neg hover]
      exact hnext

theorem steady_listenUntilPong (timeoutMs startTimestamp : Int) (waiting : WaitingSession ω)
    (remainingTime : Int) :
    Steady fun fuel => finished (listenUntilPong world shiftBeyond config timeoutMs
      startTimestamp fuel waiting remainingTime) := by
  intro n r h
  induction n generalizing waiting remainingTime with
  | zero => cases h
  | succ n ih =>
    dsimp only at h ih ⊢
    rw [listenUntilPong, finished_andThen] at h ⊢
    obtain ⟨⟨received, waiting'⟩, hlisten, hnext⟩ := Option.bind_eq_some_iff.mp h
    refine Option.bind_eq_some_iff.mpr ⟨_, steady_listenMessageReliablyIn _ _ hlisten, ?_⟩
    dsimp only at hnext ⊢
    split at hnext
    · next hpong =>
      rw [if_pos hpong]
      exact hnext
    · next hnone =>
      rw [if_neg hnone]
      split at hnext
      · next hmore =>
        rw [if_pos hmore]
        exact ih _ _ hnext
      · next hover =>
        rw [if_neg hover]
        exact hnext

end

end XrceClient
