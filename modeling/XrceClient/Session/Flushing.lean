import XrceClient.Base.Loops
import XrceClient.Session.Running

/-!
# Flushing the output streams

`uxr_flash_output_streams` sends the messages that are buffered in each reliable stream, up to
the first that the transport refuses.

- `Session.Windows`: a window represents each of the reliable streams.
- `MessageBuffered`: a message is in the buffer of a stream, and not acknowledged.
- `Flushed stream stream' i attempts`: what the flush makes of one stream, and which attempts
  it takes.
- `flashOutputStreams_flushed`: so it is for every stream.
-/

namespace XrceClient

open ByteMemory OutputReliableStream

/-- The key has its four bytes, and a window represents each of the created streams, which have
room for the header of the session. -/
structure Session.Windows (session : Session) : Prop where
  key : session.info.key.length = clientKeySize
  offset : ∀ i, i < session.streams.outputReliableSize →
    (session.streams.outputReliable i).offset.toNat = sessionHeaderOffset session.info
  represents : ∀ i, i < session.streams.outputReliableSize →
    ∃ (H : Nat) (win : OutputWindow H), Represents (session.streams.outputReliable i) win

/-- The message of a number is in the buffer, and not acknowledged. -/
structure MessageBuffered (stream : OutputReliableStream) (q : SeqNum) : Prop where
  behind : 0 < Serial.dist stream.lastAcknown q
  written : Serial.dist stream.lastAcknown q ≤ Serial.dist stream.lastAcknown stream.lastWritten
  window : Serial.dist stream.lastAcknown q ≤ stream.base.history.toNat
  contents : stream.offset.toNat < getReliableBufferSize stream.base q

section

variable {H : Nat} {stream : OutputReliableStream} {win : OutputWindow H}

/-- The buffered messages, by their counts. -/
theorem Tracks.buffered_iff (h : Tracks stream win) {n : Nat} (h₁ : win.acked < n)
    (h₂ : n < win.acked + 65536) :
    MessageBuffered stream (UInt16.ofNat n) ↔
      n ≤ win.acked + H ∧ stream.offset.toNat < stream.slotSize n := by
  have hdist := h.dist_ofNat (Nat.le_of_lt h₁) h₂
  constructor
  · rintro ⟨-, -, hwindow, hcontents⟩
    rw [hdist, h.history] at hwindow
    exact ⟨by omega, hcontents⟩
  · rintro ⟨hwindow, hcontents⟩
    refine ⟨by omega, ?_, by rw [hdist, h.history]; omega, hcontents⟩
    -- behind the last written message the slots are empty
    have hwritten : n ≤ win.written := by
      by_contra hbehind
      have hempty := h.empty n (Nat.lt_of_not_le hbehind) hwindow
      omega
    rw [hdist, h.dist_lastWritten]
    omega

/-- The count of a buffered message. -/
theorem Tracks.count_of_buffered (h : Tracks stream win) {q : SeqNum}
    (hq : MessageBuffered stream q) :
    ∃ n, q = UInt16.ofNat n ∧ win.acked < n ∧ n ≤ win.acked + H ∧
      stream.offset.toNat < stream.slotSize n := by
  have hcount := h.ofNat_dist q
  have hlt := Serial.dist_lt stream.lastAcknown q
  have hbehind := hq.behind
  rw [← hcount, h.buffered_iff (by omega) (by omega)] at hq
  exact ⟨_, hcount.symm, by omega, hq⟩

/-- Where nothing more can be sent, every buffered message is sent. -/
theorem Represents.sent_of_not_prepareNext (h : Represents stream win)
    (hend : (prepareNextReliableBufferToSend stream).1 = false) {n : Nat}
    (hwindow : n ≤ win.acked + H) (hcontents : stream.offset.toNat < stream.slotSize n) :
    n ≤ win.sent := by
  by_contra hunsent
  have hacked := win.acked_le_sent
  have hwritten := win.sent_lt_written
  have hnext : ¬ stream.offset.toNat < stream.slotSize (win.sent + 1) := by
    intro hfilled
    have hready := (prepareNext_fst h).mpr ⟨by omega, hfilled⟩
    rw [hend] at hready
    cases hready
  -- the next message is the last written one, and the slots behind it are empty
  have hlast : win.written = win.sent + 1 := by
    by_contra hmore
    exact hnext (h.filled _ (by omega) (by omega))
  rcases Nat.lt_or_eq_of_le (show win.sent + 1 ≤ n by omega) with hlt | rfl
  · have hempty := h.empty n (by omega) hwindow
    omega
  · exact hnext hcontents

end

/-! ## One stream -/

/-- Attempts for the messages behind a count, which all succeed. -/
def sentAttempts (i : UInt8) (sent count : Nat) : List Attempt :=
  (List.range count).map fun k =>
    { index := i, seqNum := UInt16.ofNat (sent + k + 1), sent := true }

theorem sentAttempts_succ (i : UInt8) (sent count : Nat) :
    sentAttempts i sent (count + 1) =
      { index := i, seqNum := UInt16.ofNat (sent + 1), sent := true } ::
        sentAttempts i (sent + 1) count := by
  rw [sentAttempts, List.range_succ_eq_map, List.map_cons, List.map_map, sentAttempts]
  refine congrArg (List.cons _) (List.map_congr_left fun k _ => ?_)
  show Attempt.mk i (UInt16.ofNat (sent + (k + 1) + 1)) true = _
  rw [show sent + (k + 1) + 1 = sent + 1 + k + 1 by omega]

theorem mem_sentAttempts {i : UInt8} {sent count : Nat} {attempt : Attempt} :
    attempt ∈ sentAttempts i sent count ↔
      ∃ n, sent < n ∧ n ≤ sent + count ∧ attempt = ⟨i, UInt16.ofNat n, true⟩ := by
  rw [sentAttempts, List.mem_map]
  constructor
  · rintro ⟨k, hk, rfl⟩
    have hlt := List.mem_range.mp hk
    exact ⟨sent + k + 1, by omega, by omega, rfl⟩
  · rintro ⟨n, hlt, hle, rfl⟩
    refine ⟨n - sent - 1, List.mem_range.mpr (by omega), ?_⟩
    rw [show sent + (n - sent - 1) + 1 = n by omega]

/-- Two streams with the same slots, of which one has sent more messages. -/
structure FlushedTo {H : Nat} (stream stream' : OutputReliableStream) (win win' : OutputWindow H) :
    Prop where
  before : Represents stream win
  after : Represents stream' win'
  acked : win'.acked = win.acked
  sent : win.sent ≤ win'.sent
  shape : SameShape stream stream'
  slots : ∀ n, stream'.slotSize n = stream.slotSize n

/-- How the flush of a stream ends: nothing is left to send, or the transport refuses a message
that is buffered. -/
inductive FlushEnds {H : Nat} (stream stream' : OutputReliableStream) (win win' : OutputWindow H)
    (i : UInt8) : List Attempt → Prop
  | complete (hend : (prepareNextReliableBufferToSend stream').1 = false) :
      FlushEnds stream stream' win win' i (sentAttempts i win.sent (win'.sent - win.sent))
  | refused (hwindow : win'.sent < win.acked + H)
      (hcontents : stream.offset.toNat < stream.slotSize (win'.sent + 1)) :
      FlushEnds stream stream' win win' i (sentAttempts i win.sent (win'.sent - win.sent) ++
        [⟨i, UInt16.ofNat (win'.sent + 1), false⟩])

/-- What the flush makes of a stream, and the attempts that it takes. -/
def Flushed (stream stream' : OutputReliableStream) (i : UInt8) (attempts : List Attempt) : Prop :=
  ∃ (H : Nat) (win win' : OutputWindow H),
    FlushedTo stream stream' win win' ∧ FlushEnds stream stream' win win' i attempts

theorem FlushedTo.refl {H : Nat} {stream : OutputReliableStream} {win : OutputWindow H}
    (h : Represents stream win) : FlushedTo stream stream win win :=
  ⟨h, h, rfl, Nat.le_refl _, SameShape.refl _, fun _ => rfl⟩

section

variable {H : Nat} {stream stream' stream'' : OutputReliableStream} {win win' win'' : OutputWindow H}

theorem FlushedTo.trans (h : FlushedTo stream stream' win win') (h' : FlushedTo stream' stream'' win' win'') :
    FlushedTo stream stream'' win win'' where
  before := h.before
  after := h'.after
  acked := h'.acked.trans h.acked
  sent := Nat.le_trans h.sent h'.sent
  shape := h.shape.trans h'.shape
  slots n := (h'.slots n).trans (h.slots n)

/-- A message that was sent comes before the attempts behind it. -/
theorem FlushEnds.cons {i : UInt8} {attempts : List Attempt}
    (h : FlushEnds stream' stream'' win' win'' i attempts) (hsent : win'.sent = win.sent + 1)
    (hle : win'.sent ≤ win''.sent) (hacked : win'.acked = win.acked)
    (hoffset : stream'.offset = stream.offset) (hslots : ∀ n, stream'.slotSize n = stream.slotSize n) :
    FlushEnds stream stream'' win win'' i (⟨i, UInt16.ofNat (win.sent + 1), true⟩ :: attempts) := by
  have hcount : sentAttempts i win.sent (win''.sent - win.sent) =
      ⟨i, UInt16.ofNat (win.sent + 1), true⟩ :: sentAttempts i win'.sent (win''.sent - win'.sent) := by
    rw [hsent, ← sentAttempts_succ]
    congr 1
    omega
  cases h with
  | complete hend =>
    rw [← hcount]
    exact .complete hend
  | refused hwindow hcontents =>
    rw [← List.cons_append, ← hcount]
    rw [hacked] at hwindow
    rw [hslots, hoffset] at hcontents
    exact .refused hwindow hcontents

/-- The attempts of a stream are its own. -/
theorem FlushEnds.index {i : UInt8} {attempts : List Attempt}
    (h : FlushEnds stream stream' win win' i attempts) :
    ∀ attempt ∈ attempts, attempt.index = i := by
  have hsent (attempt : Attempt)
      (hmem : attempt ∈ sentAttempts i win.sent (win'.sent - win.sent)) : attempt.index = i := by
    obtain ⟨n, -, -, rfl⟩ := mem_sentAttempts.mp hmem
    rfl
  cases h with
  | complete hend => exact hsent
  | refused hwindow hcontents =>
    intro attempt hmem
    rcases List.mem_append.mp hmem with hmem | hmem
    · exact hsent attempt hmem
    · rw [List.mem_singleton.mp hmem]

end

section

variable [MicroCdr] [LawfulMicroCdr] {platform : Platform} {info : SessionInfo} {i : UInt8}
  {H : Nat} {stream : OutputReliableStream} {win : OutputWindow H}

/-- Stamping the header of a message is writing into its slot. -/
theorem stampedMessage_stream (hkey : info.key.length = clientKeySize) {next : NextBuffer} {n : Nat}
    (hbuffer : next.buffer = getReliableBuffer stream.base (UInt16.ofNat n)) :
    ∃ header, header.length = sessionHeaderOffset info ∧
      (stampedMessage info i stream next).2 = stream.storeSlotBytes n 0 header := by
  refine ⟨messageHeaderBytes info.id (streamId i .reliableStream .outputStream).raw next.seqNum
    info.key, messageHeaderBytes_length hkey _ _, ?_⟩
  rw [stampedMessage]
  dsimp only
  rw [stampSessionHeader_plain info hkey, hbuffer]
  rfl

/-- The message that is sent next, and the stream behind it. -/
theorem flushedTo_send (h : Represents stream win) (hkey : info.key.length = clientKeySize)
    (hoffset : stream.offset.toNat = sessionHeaderOffset info)
    (hsent : (prepareNextReliableBufferToSend stream).1 = true) :
    ∃ hlt : win.sent < win.acked + H, FlushedTo stream
      (stampedMessage info i (prepareNextReliableBufferToSend stream).2.1
        (prepareNextReliableBufferToSend stream).2.2).2 win (win.sendNext hlt) := by
  obtain ⟨hlt, hrep⟩ := tracks_prepareNext h.tracks hsent
  have hbase : (prepareNextReliableBufferToSend stream).2.1.base = stream.base := prepareNext_base
  have hshape : SameShape stream (prepareNextReliableBufferToSend stream).2.1 := by
    refine ⟨by rw [hbase], by rw [hbase], ?_⟩
    rw [prepareNextReliableBufferToSend]
    dsimp only
    split <;> rfl
  obtain ⟨header, hlength, hstamped⟩ :=
    @stampedMessage_stream _ _ info i (prepareNextReliableBufferToSend stream).2.1 hkey
      (prepareNextReliableBufferToSend stream).2.2 (win.sent + 1)
      (by rw [prepareNext_nextBuffer h.tracks, hbase])
  have hfit : 0 + header.length ≤
      getReliableBufferCapacity (prepareNextReliableBufferToSend stream).2.1.base := by
    have hroom := h.wellFormed.offset_lt
    rw [hbase]
    omega
  rw [hstamped]
  refine ⟨hlt, h, (tracks_storeSlotBytes hrep _ hfit).represents h.history_le, rfl, Nat.le_succ _,
    hshape.trans (sameShape_storeSlotBytes _ _ _), fun n => ?_⟩
  rw [slotSize_storeSlotBytes hrep.formed _ _ hfit, slotSize, slotSize, hbase]

/-- The message that is refused, and the stream with it taken back. -/
theorem flushedTo_cancel (h : Represents stream win) (hkey : info.key.length = clientKeySize)
    (hoffset : stream.offset.toNat = sessionHeaderOffset info)
    (hsent : (prepareNextReliableBufferToSend stream).1 = true) :
    ∃ win' : OutputWindow H, win'.sent = win.sent ∧ FlushedTo stream
      (cancelReliableBufferToSend
        (stampedMessage info i (prepareNextReliableBufferToSend stream).2.1
          (prepareNextReliableBufferToSend stream).2.2).2
        (prepareNextReliableBufferToSend stream).2.2.seqNum) win win' := by
  obtain ⟨hlt, hflushed⟩ := @flushedTo_send _ _ info i _ _ _ h hkey hoffset hsent
  have hafter := hflushed.after
  have hacked : (win.sendNext hlt).acked < (win.sendNext hlt).sent :=
    Nat.lt_succ_of_le win.acked_le_sent
  have hseqNum : (prepareNextReliableBufferToSend stream).2.2.seqNum =
      UInt16.ofNat (win.sendNext hlt).sent := by
    rw [prepareNext_nextBuffer h.tracks]
    rfl
  rw [hseqNum]
  exact ⟨(win.sendNext hlt).cancel hacked _, rfl, h,
    (tracks_cancel hafter.tracks hacked).represents hafter.history_le, rfl, Nat.le_refl _, ⟨hflushed.shape.size, hflushed.shape.history, hflushed.shape.offset⟩,
    hflushed.slots⟩

end

/-! ## A session -/

/-- Two sessions that differ in one output stream and in what they sent. -/
structure SameBut (i : UInt8) (session session' : Session) : Prop where
  info : session'.info = session.info
  effects : session'.effects = session.effects
  size : session'.streams.outputReliableSize = session.streams.outputReliableSize
  others : ∀ j, j ≠ i → session'.streams.outputReliable j = session.streams.outputReliable j

theorem SameBut.refl (i : UInt8) (session : Session) : SameBut i session session :=
  ⟨rfl, rfl, rfl, fun _ _ => rfl⟩

section

variable [MicroCdr] [LawfulMicroCdr] {platform : Platform} {i : UInt8} {fuel : Nat} {run run' : Run}

/-- The loop over the messages of a stream sends them up to the first that is refused. -/
theorem flashReliableStream_flushed {H : Nat} {win : OutputWindow H}
    (h : flashReliableStream platform i fuel run = some run')
    (hrep : Represents (run.session.streams.outputReliable i) win)
    (hkey : run.session.info.key.length = clientKeySize)
    (hoffset : (run.session.streams.outputReliable i).offset.toNat =
      sessionHeaderOffset run.session.info) :
    ∃ attempts, run'.attempts = run.attempts ++ attempts ∧ SameBut i run.session run'.session ∧
      ∃ win', FlushedTo (run.session.streams.outputReliable i)
          (run'.session.streams.outputReliable i) win win' ∧
        FlushEnds (run.session.streams.outputReliable i) (run'.session.streams.outputReliable i)
          win win' i attempts := by
  -- by induction on the turns of the loop
  induction fuel generalizing run win with
  | zero => cases h
  | succ fuel ih =>
    rw [flashReliableStream] at h
    dsimp only at h
    split at h
    · -- there is a message to send
      next hready =>
      obtain ⟨hwindow, hcontents⟩ := (prepareNext_fst hrep).mp hready
      have hseqNum : (prepareNextReliableBufferToSend
          (run.session.streams.outputReliable i)).2.2.seqNum = UInt16.ofNat (win.sent + 1) := by
        rw [prepareNext_nextBuffer hrep.tracks]
      split at h
      · -- the message is sent, and the loop goes on
        next hsent =>
        obtain ⟨hlt, hflushed⟩ :=
          @flushedTo_send _ _ run.session.info i _ _ _ hrep hkey hoffset hready
        obtain ⟨attempts, hattempts, hsame, win', hflushed', hends⟩ := @ih _ _ h
          (by rw [StreamStorage.setOutputReliable_self]; exact hflushed.after) hkey
          (by rw [StreamStorage.setOutputReliable_self, hflushed.shape.offset]; exact hoffset)
        dsimp only at hattempts hflushed' hends
        rw [StreamStorage.setOutputReliable_self] at hflushed' hends
        refine ⟨_, ?_, ⟨hsame.info, hsame.effects, hsame.size, ?_⟩, win', hflushed.trans hflushed',
          hends.cons rfl hflushed'.sent rfl hflushed.shape.offset hflushed.slots⟩
        · rw [hattempts, List.append_assoc, hseqNum, hsent]
          rfl
        · intro j hj
          rw [hsame.others j hj, StreamStorage.setOutputReliable_other _ hj]
          rfl
      · -- the message is refused, and taken back
        next hrefused =>
        cases h
        obtain ⟨win', hsent', hflushed⟩ :=
          @flushedTo_cancel _ _ run.session.info i _ _ _ hrep hkey hoffset hready
        refine ⟨_, rfl, ⟨rfl, rfl, rfl, fun j hj => ?_⟩, win', ?_, ?_⟩
        · exact StreamStorage.setOutputReliable_other _ hj _
        · dsimp only
          rw [StreamStorage.setOutputReliable_self]
          exact hflushed
        · have hends := @FlushEnds.refused _ (run.session.streams.outputReliable i)
            (cancelReliableBufferToSend
              (stampedMessage run.session.info i
                (prepareNextReliableBufferToSend (run.session.streams.outputReliable i)).2.1
                (prepareNextReliableBufferToSend (run.session.streams.outputReliable i)).2.2).2
              (prepareNextReliableBufferToSend (run.session.streams.outputReliable i)).2.2.seqNum)
            win win' i (hsent' ▸ hwindow) (hsent' ▸ hcontents)
          dsimp only
          rw [hsent', Nat.sub_self, ← hseqNum] at hends
          rw [StreamStorage.setOutputReliable_self, Bool.eq_false_iff.mpr hrefused]
          exact hends
    · next hready =>
      cases h
      rw [Bool.not_eq_true] at hready
      refine ⟨[], (List.append_nil _).symm, SameBut.refl _ _, win, .refl hrep, ?_⟩
      have hnone : sentAttempts i win.sent (win.sent - win.sent) = [] := by
        rw [Nat.sub_self]
        rfl
      exact hnone ▸ .complete hready

omit [LawfulMicroCdr] in
/-- The best-effort streams have nothing to do with the reliable ones. -/
theorem flashBestEffortStreams_eq (session : Session) :
    (flashBestEffortStreams session).control = session.control ∧
      (flashBestEffortStreams session).effects = session.effects := by
  refine Loop.foldl_range_induction (fun (_ : Nat) (session' : Session) =>
    session'.control = session.control ∧ session'.effects = session.effects) ⟨rfl, rfl⟩ ?_
  rintro k session' - h
  rw [flashBestEffortStream]
  dsimp only
  split
  · exact h
  · exact h

/-- The flush sends the messages of every reliable stream. -/
theorem flashOutputStreams_flushed (hwin : run.session.Windows)
    (h : flashOutputStreams platform fuel run = some run') :
    ∃ attempts, run'.attempts = run.attempts ++ attempts ∧
      run'.session.info = run.session.info ∧ run'.session.effects = run.session.effects ∧
      run'.session.streams.outputReliableSize = run.session.streams.outputReliableSize ∧
      (∀ attempt ∈ attempts, attempt.index < run.session.streams.outputReliableSize) ∧
      ∀ i, i < run.session.streams.outputReliableSize →
        Flushed (run.session.streams.outputReliable i) (run'.session.streams.outputReliable i) i
          (attempts.filter fun attempt => attempt.index = i) := by
  obtain ⟨hcontrol, heffects⟩ := flashBestEffortStreams_eq run.session
  have hinfo : (flashBestEffortStreams run.session).info = run.session.info :=
    congrArg ControlState.info hcontrol
  have hstreams : (flashBestEffortStreams run.session).streams.outputReliable =
      run.session.streams.outputReliable := congrArg ControlState.outputReliable hcontrol
  have hsize : (flashBestEffortStreams run.session).streams.outputReliableSize =
      run.session.streams.outputReliableSize := congrArg ControlState.outputReliableSize hcontrol
  -- the streams below the one of the turn are flushed, the others are as they were
  have hloop := Loop.foldlM_range_induction h (fun (k : Nat) (run' : Run) =>
    ∃ attempts, run'.attempts = run.attempts ++ attempts ∧
      run'.session.info = run.session.info ∧ run'.session.effects = run.session.effects ∧
      run'.session.streams.outputReliableSize = run.session.streams.outputReliableSize ∧
      (∀ attempt ∈ attempts, attempt.index.toNat < k) ∧
      (∀ i, i.toNat < k →
        Flushed (run.session.streams.outputReliable i) (run'.session.streams.outputReliable i) i
          (attempts.filter fun attempt => attempt.index = i)) ∧
      ∀ i, k ≤ i.toNat →
        run'.session.streams.outputReliable i = run.session.streams.outputReliable i)
    ⟨[], (List.append_nil _).symm, hinfo, heffects, hsize, nofun,
      fun i hi => absurd hi (Nat.not_lt_zero _), fun i _ => congrFun hstreams i⟩ ?_
  · obtain ⟨attempts, hattempts, hinfo', heffects', hsize', hindex, hflushed, -⟩ := hloop
    exact ⟨attempts, hattempts, hinfo', heffects', hsize',
      fun attempt hmem => UInt8.lt_iff_toNat_lt.mpr (hindex attempt hmem),
      fun i hi => hflushed i (UInt8.lt_iff_toNat_lt.mp hi)⟩
  · rintro k run₁ run₂ hk ⟨attempts, hattempts, hinfo₁, heffects₁, hsize₁, hindex, hflushed, hrest⟩ hturn
    have hlt : k < 256 := Nat.lt_trans hk (UInt8.toNat_lt _)
    have hk' : (UInt8.ofNat k).toNat = k := by rw [UInt8.toNat_ofNat', Nat.mod_eq_of_lt hlt]
    have hcreated : UInt8.ofNat k < run.session.streams.outputReliableSize := by
      rw [UInt8.lt_iff_toNat_lt, hk']
      exact hk
    obtain ⟨H, win, hrep⟩ := hwin.represents _ hcreated
    have hsame := hrest (UInt8.ofNat k) (Nat.le_of_eq hk'.symm)
    obtain ⟨attempts', hattempts', hbut, win', hflushed', hends⟩ :=
      flashReliableStream_flushed hturn (hsame ▸ hrep) (hinfo₁ ▸ hwin.key)
        (by rw [hsame, hinfo₁]; exact hwin.offset _ hcreated)
    rw [hsame] at hflushed' hends
    have hown := hends.index
    -- the attempts of the turn are all for its own stream
    have hother (i : UInt8) (hi : i ≠ UInt8.ofNat k) :
        attempts'.filter (fun attempt => attempt.index = i) = [] := by
      refine List.filter_eq_nil_iff.mpr fun attempt hmem hattempt => hi ?_
      rw [← of_decide_eq_true hattempt, hown attempt hmem]
    refine ⟨attempts ++ attempts', ?_, hbut.info.trans hinfo₁, hbut.effects.trans heffects₁,
      hbut.size.trans hsize₁, ?_, ?_, ?_⟩
    · rw [hattempts', hattempts, List.append_assoc]
    · intro attempt hmem
      rcases List.mem_append.mp hmem with hmem | hmem
      · exact Nat.lt_succ_of_lt (hindex attempt hmem)
      · rw [hown attempt hmem, hk']
        exact Nat.lt_succ_self k
    · intro i hi
      rw [List.filter_append]
      by_cases hik : i = UInt8.ofNat k
      · -- the stream of this turn
        have hnone : attempts.filter (fun attempt => attempt.index = i) = [] := by
          refine List.filter_eq_nil_iff.mpr fun attempt hmem hattempt => ?_
          have hbefore := hindex attempt hmem
          rw [of_decide_eq_true hattempt, hik, hk'] at hbefore
          exact Nat.lt_irrefl _ hbefore
        have hall : attempts'.filter (fun attempt => attempt.index = i) = attempts' :=
          List.filter_eq_self.mpr fun attempt hmem =>
            decide_eq_true ((hown attempt hmem).trans hik.symm)
        rw [hnone, hall, List.nil_append, hik]
        exact ⟨H, win, win', hflushed', hends⟩
      · have hne : i.toNat ≠ k := by
          intro heq
          exact hik (UInt8.toNat_inj.mp (heq.trans hk'.symm))
        rw [hother i hik, List.append_nil, hbut.others i hik]
        exact hflushed i (by omega)
    · intro i hi
      have hik : i ≠ UInt8.ofNat k := by
        rintro rfl
        omega
      rw [hbut.others i hik]
      exact hrest i (by omega)

end

end XrceClient
