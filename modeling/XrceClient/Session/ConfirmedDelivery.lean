import XrceClient.Session.Deletion
import XrceClient.Session.Flushing

/-!
# Confirmed delivery

`uxr_run_session_until_confirm_delivery` flushes the output streams and listens until no stream
waits for an acknowledgement.

- `AckedBy control control' effects`: the last numbers acknowledged are those of the ACKNACKs
  among the effects, and the last numbers sent do not move.
- `Delivered`: the message was handed to the transport, which took it, and an ACKNACK for its
  stream covers it.
- `AcknackMisread`: an ACKNACK that is cut short or names another stream is taken for the stream.
- `confirmed_delivery_iff`: a message that the transport refuses is taken back, and the stream
  then waits for no acknowledgement of it; and what is misread counts as an acknowledgement.
-/

namespace XrceClient

open OutputReliableStream

/-- The number of an ACKNACK that is taken for a stream. -/
def acknackFor (i : UInt8) : Effect → Option SeqNum
  | .acknack payload _ =>
    if ControlState.acknackIndex payload = i then some payload.firstUnackedSeqNum else none
  | _ => none

/-- The last number that the ACKNACKs for a stream acknowledge. -/
def lastAcked (i : UInt8) (effects : List Effect) : Option SeqNum :=
  (effects.filterMap (acknackFor i)).getLast?.map fun firstUnacked => seqNumSub firstUnacked 1

theorem lastAcked_append (i : UInt8) (effects effects' : List Effect) :
    lastAcked i (effects ++ effects') = (lastAcked i effects').or (lastAcked i effects) := by
  rw [lastAcked, List.filterMap_append, List.getLast?_append, Option.map_or]
  rfl

/-- Between the control states, the created output streams were acknowledged by the effects, and
nothing new was sent. -/
structure AckedBy (control control' : ControlState) (effects : List Effect) : Prop where
  size : control'.outputReliableSize = control.outputReliableSize
  lastSent : ∀ i, i < control.outputReliableSize →
    (control'.outputReliable i).lastSent = (control.outputReliable i).lastSent
  lastAcknown : ∀ i, i < control.outputReliableSize →
    (control'.outputReliable i).lastAcknown =
      (lastAcked i effects).getD (control.outputReliable i).lastAcknown

namespace AckedBy

variable {control control' control'' : ControlState} {effects effects' : List Effect}

theorem refl (control : ControlState) : AckedBy control control [] :=
  ⟨rfl, fun _ _ => rfl, fun _ _ => rfl⟩

theorem trans (h : AckedBy control control' effects) (h' : AckedBy control' control'' effects') :
    AckedBy control control'' (effects ++ effects') where
  size := h'.size.trans h.size
  lastSent i hi := by
    rw [h'.lastSent i (h.size ▸ hi), h.lastSent i hi]
  lastAcknown i hi := by
    rw [h'.lastAcknown i (h.size ▸ hi), h.lastAcknown i hi, lastAcked_append]
    cases lastAcked i effects' <;> rfl

end AckedBy

/-- Emptying slots sends nothing. -/
theorem cleanBuffers_lastSent (k : Nat) (stream : OutputReliableStream) :
    (cleanBuffers k stream).lastSent = stream.lastSent := by
  induction k generalizing stream with
  | zero => rfl
  | succ k ih =>
    rw [cleanBuffers]
    exact ih _

theorem ackedBy_take (control : ControlState) (effect : Effect) :
    AckedBy control (control.take effect) [effect] := by
  cases effect with
  | acknack payload whole =>
    rw [ControlState.take, ControlState.takeAcknack]
    split
    · next hcreated =>
      refine ⟨rfl, fun i _ => ?_, fun i _ => ?_⟩
      · dsimp only
        by_cases hi : i = ControlState.acknackIndex payload
        · rw [hi, Function.update_self, sendLostMessages_stream]
          exact cleanBuffers_lastSent _ _
        · rw [Function.update_of_ne hi]
      · dsimp only
        by_cases hi : i = ControlState.acknackIndex payload
        · rw [hi, Function.update_self, sendLostMessages_stream, lastAcked, List.filterMap_cons,
            acknackFor, if_pos rfl]
          exact (processAcknack_lastAcknown (control.outputReliable _)
            (uint16FromRaw payload.nackBitmap) payload.firstUnackedSeqNum).trans
              (seqNumSub_eq _ _).symm
        · rw [Function.update_of_ne hi, lastAcked, List.filterMap_cons, acknackFor,
            if_neg (Ne.symm hi)]
          rfl
    · next hunknown =>
      refine ⟨rfl, fun _ _ => rfl, fun i hi => ?_⟩
      have hne : ControlState.acknackIndex payload ≠ i := by
        rintro rfl
        exact hunknown hi
      rw [lastAcked, List.filterMap_cons, acknackFor, if_neg hne]
      rfl
  | deleteSessionStatus requestId status whole =>
    rw [ControlState.take]
    split <;> exact ⟨rfl, fun _ _ => rfl, fun _ _ => rfl⟩
  | _ => exact ⟨rfl, fun _ _ => rfl, fun _ _ => rfl⟩

theorem ackedBy_foldl (effects : List Effect) (control : ControlState) :
    AckedBy control (effects.foldl ControlState.take control) effects := by
  induction effects generalizing control with
  | nil => exact AckedBy.refl control
  | cons effect effects ih => exact (ackedBy_take control effect).trans (ih _)

/-- A session listened: the effects took place, and its streams were acknowledged by them. -/
structure Listened (session session' : Session) (effects : List Effect) : Prop where
  record : session'.effects = session.effects ++ effects
  control : AckedBy session.control session'.control effects

theorem Takes.listened {session session' : Session} {effects : List Effect}
    (h : Takes session session' effects) : Listened session session' effects :=
  ⟨h.record, h.control ▸ ackedBy_foldl effects session.control⟩

theorem Listened.refl (session : Session) : Listened session session [] :=
  (Takes.refl session).listened

theorem Listened.trans {session session' session'' : Session} {effects effects' : List Effect}
    (h : Listened session session' effects) (h' : Listened session' session'' effects') :
    Listened session session'' (effects ++ effects') :=
  ⟨by rw [h'.record, h.record, List.append_assoc], h.control.trans h'.control⟩

/-! ## Listening -/

section

variable [MicroCdr] {platform : Platform}

omit [MicroCdr] in
theorem updateOutputStreamHeartbeatTimestamp_keeps (stream : OutputReliableStream)
    (timestamp : Int) :
    (updateOutputStreamHeartbeatTimestamp platform stream timestamp).2.lastSent =
        stream.lastSent ∧
      (updateOutputStreamHeartbeatTimestamp platform stream timestamp).2.lastAcknown =
        stream.lastAcknown := by
  rw [updateOutputStreamHeartbeatTimestamp]
  split
  · dsimp only
    split
    · exact ⟨rfl, rfl⟩
    · split <;> exact ⟨rfl, rfl⟩
  · exact ⟨rfl, rfl⟩

/-- A heartbeat says what was sent, and changes none of it. -/
theorem listened_heartbeatStream (timestamp : Int) (state : Session × Int) (i : UInt8) :
    Listened state.1 (heartbeatStream platform timestamp state i).1 [] := by
  obtain ⟨session, earliest⟩ := state
  have hkeeps := @updateOutputStreamHeartbeatTimestamp_keeps platform
    (session.streams.outputReliable i) timestamp
  rw [heartbeatStream]
  dsimp only
  rcases hupdate : updateOutputStreamHeartbeatTimestamp platform
    (session.streams.outputReliable i) timestamp with ⟨mustConfirm, stream⟩
  rw [hupdate] at hkeeps
  obtain ⟨hsent, hacked⟩ := hkeeps
  dsimp only at hsent hacked ⊢
  have hset : AckedBy session.control
      { session.control with
        outputReliable := Function.update session.streams.outputReliable i stream } [] := by
    refine ⟨rfl, fun j _ => ?_, fun j _ => ?_⟩
    · dsimp only
      by_cases hj : j = i
      · rw [hj, Function.update_self]
        exact hsent
      · rw [Function.update_of_ne hj]
        rfl
    · dsimp only
      by_cases hj : j = i
      · rw [hj, Function.update_self]
        exact hacked
      · rw [Function.update_of_ne hj]
        rfl
  cases mustConfirm
  · exact ⟨(List.append_nil _).symm, hset⟩
  · exact ⟨(List.append_nil _).symm, hset⟩

theorem listened_heartbeatStreams (timestamp : Int) (session : Session) :
    Listened session (heartbeatStreams platform timestamp session).1 [] := by
  refine Loop.foldl_range_induction
    (fun (_ : Nat) (state : Session × Int) => Listened session state.1 []) (Listened.refl session) ?_
  rintro k state - h
  exact h.trans (listened_heartbeatStream timestamp state (UInt8.ofNat k))

variable [LawfulMicroCdr] {shiftBeyond : Nat → UInt16} {config : ReadConfig} {fuel : Nat}
  {run run' : Run}

omit [LawfulMicroCdr] in
/-- Listening attempts to send nothing. -/
theorem listenMessage_attempts {pollMs : Int} {received : Bool}
    (h : listenMessage platform shiftBeyond config fuel run pollMs = some (received, run')) :
    run'.attempts = run.attempts := by
  rw [listenMessage] at h
  dsimp only at h
  split at h
  · obtain ⟨session, -, heq⟩ := Option.map_eq_some_iff.mp h
    cases heq
    rfl
  · cases h
    rfl

theorem listened_listenMessageReliablyFor {poll : Int} {received : Bool}
    (h : listenMessageReliablyFor platform shiftBeyond config fuel run poll =
      some (received, run')) :
    run'.attempts = run.attempts ∧ ∃ effects, Listened run.session run'.session effects := by
  induction fuel generalizing run poll with
  | zero => cases h
  | succ fuel ih =>
    rw [listenMessageReliablyFor] at h
    obtain ⟨⟨received', run₁⟩, hlisten, h⟩ := Option.bind_eq_some_iff.mp h
    have hheartbeats := @listened_heartbeatStreams _ platform (platform.millis run.looked) run.session
    have hattempts := listenMessage_attempts hlisten
    obtain ⟨effects, htakes⟩ := takes_listenMessage hlisten
    have hlistened := hheartbeats.trans htakes.listened
    dsimp only at h
    split at h
    · cases h
      exact ⟨hattempts, _, hlistened⟩
    · split at h
      · obtain ⟨hattempts', effects', hlistened'⟩ := ih h
        exact ⟨hattempts'.trans hattempts, _, hlistened.trans hlistened'⟩
      · cases h
        exact ⟨hattempts, _, hlistened⟩

theorem listened_listenUntilConfirmed {timeoutMs startTimestamp remainingTime : Int}
    (h : listenUntilConfirmed platform shiftBeyond config timeoutMs startTimestamp fuel run
      remainingTime = some run') :
    run'.attempts = run.attempts ∧ ∃ effects, Listened run.session run'.session effects := by
  induction fuel generalizing run remainingTime with
  | zero => cases h
  | succ fuel ih =>
    rw [listenUntilConfirmed] at h
    split at h
    · obtain ⟨⟨received, run₁⟩, hlisten, h⟩ := Option.bind_eq_some_iff.mp h
      obtain ⟨hattempts, effects, hlistened⟩ := listened_listenMessageReliablyFor hlisten
      obtain ⟨hattempts', effects', hlistened'⟩ := ih h
      exact ⟨hattempts'.trans hattempts, _, hlistened.trans hlistened'⟩
    · cases h
      exact ⟨rfl, _, Listened.refl _⟩

end

/-! ## The call -/

/-- The ACKNACK was received as a whole, and names the output reliable stream. -/
def AcknackNames (i : UInt8) (payload : AcknackPayload) (whole : Bool) : Prop :=
  whole = true ∧ payload.streamId = (streamId i .reliableStream .outputStream).raw

/-- An ACKNACK that was taken for a stream covers a number: the first number that it does not
acknowledge lies behind. -/
def AcknackTaken (effects : List Effect) (i : UInt8) (q : SeqNum) : Prop :=
  ∃ payload whole, .acknack payload whole ∈ effects ∧ ControlState.acknackIndex payload = i ∧
    0 > seqNumCmp q payload.firstUnackedSeqNum

/-- An ACKNACK for the stream covers the number. -/
def AcknackCovers (effects : List Effect) (i : UInt8) (q : SeqNum) : Prop :=
  ∃ payload whole, .acknack payload whole ∈ effects ∧ AcknackNames i payload whole ∧
    0 > seqNumCmp q payload.firstUnackedSeqNum

/-- An ACKNACK that was taken for the stream covers the number, though it is cut short or names
another stream: `read_submessage_acknack` looks at the index of its stream only. -/
def AcknackMisread (effects : List Effect) (i : UInt8) (q : SeqNum) : Prop :=
  ∃ payload whole, .acknack payload whole ∈ effects ∧ ControlState.acknackIndex payload = i ∧
    ¬ AcknackNames i payload whole ∧ 0 > seqNumCmp q payload.firstUnackedSeqNum

theorem AcknackTaken.covers {effects : List Effect} {i : UInt8} {q : SeqNum}
    (h : AcknackTaken effects i q)
    (hmisread : AcknackMisread effects i q → AcknackCovers effects i q) :
    AcknackCovers effects i q := by
  obtain ⟨payload, whole, hmem, hindex, hcovers⟩ := h
  by_cases hnames : AcknackNames i payload whole
  · exact ⟨payload, whole, hmem, hnames, hcovers⟩
  · exact hmisread ⟨payload, whole, hmem, hindex, hnames, hcovers⟩

/-- A buffered message was sent, before the call or in it, and acknowledged. -/
structure Delivered (stream : OutputReliableStream) (i : UInt8) (q : SeqNum)
    (attempts : List Attempt) (effects : List Effect) : Prop where
  sent : Unacknowledged stream q ∨ { index := i, seqNum := q, sent := true } ∈ attempts
  acknowledged : AcknackCovers effects i q

theorem acknackTaken_of_lastAcked {i : UInt8} {effects : List Effect} {last q : SeqNum}
    (h : lastAcked i effects = some last) (hcovers : 0 > seqNumCmp q (seqNumAdd last 1)) :
    AcknackTaken effects i q := by
  obtain ⟨firstUnacked, hlast, hsub⟩ := Option.map_eq_some_iff.mp h
  obtain ⟨effect, hmem, heffect⟩ := List.mem_filterMap.mp (List.mem_of_getLast? hlast)
  have hfirst : seqNumAdd last 1 = firstUnacked := by
    rw [← hsub, seqNumAdd_eq, seqNumSub_eq, UInt16.sub_add_cancel]
  cases effect with
  | acknack payload whole =>
    rw [acknackFor] at heffect
    split at heffect
    · next hindex =>
      cases heffect
      exact ⟨payload, whole, hmem, hindex, hfirst ▸ hcovers⟩
    · cases heffect
  | _ => cases heffect

/-- A stream of which nothing was refused, and which waits for no acknowledgement in the end,
has sent what was buffered, and an ACKNACK that covers it was taken for the stream. -/
theorem sent_and_taken {stream stream' : OutputReliableStream} {i : UInt8} {H : Nat}
    {win win' : OutputWindow H} {attempts : List Attempt} {effects : List Effect}
    (hflushed : FlushedTo stream stream' win win')
    (hends : FlushEnds stream stream' win win' i attempts)
    (hsent : ∀ attempt ∈ attempts, attempt.sent = true)
    (hconfirmed : (lastAcked i effects).getD stream'.lastAcknown = stream'.lastSent)
    {q : SeqNum} (hq : MessageBuffered stream q) :
    (Unacknowledged stream q ∨ { index := i, seqNum := q, sent := true } ∈ attempts) ∧
      AcknackTaken effects i q := by
  have hH := hflushed.before.history_le
  obtain ⟨n, rfl, hbehind, hwindow, hcontents⟩ := hflushed.before.tracks.count_of_buffered hq
  cases hends with
  | refused hroom hfilled =>
    exact absurd (hsent _ (List.mem_append_right _ (List.mem_singleton_self _))) nofun
  | complete hend =>
    have hle : n ≤ win'.sent := by
      refine hflushed.after.sent_of_not_prepareNext hend (hflushed.acked ▸ hwindow) ?_
      rw [hflushed.slots, hflushed.shape.offset]
      exact hcontents
    have hacked := hflushed.acked
    have hin := win'.sent_lt_written
    have hroom := win'.written_le
    constructor
    · by_cases hbefore : n ≤ win.sent
      · refine .inl ?_
        have hlast := hflushed.before.tracks.dist_ofNat win.acked_le_sent
          (Nat.lt_of_le_of_lt hflushed.sent (by omega))
        rw [← hflushed.before.lastSent] at hlast
        rw [Unacknowledged, hlast,
          hflushed.before.tracks.dist_ofNat (Nat.le_of_lt hbehind) (by omega)]
        omega
      · exact .inr (mem_sentAttempts.mpr ⟨n, by omega, by omega, rfl⟩)
    · have hdist := hflushed.after.tracks.dist_ofNat win'.acked_le_sent (by omega)
      rw [← hflushed.after.lastSent] at hdist
      cases hlast : lastAcked i effects with
      | none =>
        -- without an ACKNACK, nothing had been waiting
        rw [hlast, Option.getD_none] at hconfirmed
        rw [hconfirmed, Serial.dist_self] at hdist
        omega
      | some last =>
        rw [hlast, Option.getD_some, hflushed.after.lastSent] at hconfirmed
        refine acknackTaken_of_lastAcked hlast ?_
        rw [hconfirmed, show (1 : UInt16) = UInt16.ofNat 1 from rfl, seqNumAdd_ofNat]
        exact (seqNumCmp_ofNat_neg (by unfold seqNumMidsize; omega)
          (by unfold seqNumMidsize; omega)).mpr (by omega)

/-- A message that the transport refused was not sent. -/
theorem sent_of_delivered {stream stream' : OutputReliableStream} {i : UInt8} {H : Nat}
    {win win' : OutputWindow H} {attempts : List Attempt}
    (hflushed : FlushedTo stream stream' win win')
    (hends : FlushEnds stream stream' win win' i attempts)
    (hsent : ∀ q, MessageBuffered stream q →
      Unacknowledged stream q ∨ { index := i, seqNum := q, sent := true } ∈ attempts) :
    ∀ attempt ∈ attempts, attempt.sent = true := by
  have hH := hflushed.before.history_le
  have hall (attempt : Attempt)
      (hmem : attempt ∈ sentAttempts i win.sent (win'.sent - win.sent)) : attempt.sent = true := by
    obtain ⟨n, -, -, rfl⟩ := mem_sentAttempts.mp hmem
    rfl
  cases hends with
  | complete hend => exact hall
  | refused hroom hfilled =>
    exfalso
    have hmore := hflushed.sent
    have hacked := win.acked_le_sent
    have hbuffered : MessageBuffered stream (UInt16.ofNat (win'.sent + 1)) :=
      (hflushed.before.tracks.buffered_iff (by omega) (by omega)).mpr ⟨hroom, hfilled⟩
    have hdist : Serial.dist stream.lastAcknown (UInt16.ofNat (win'.sent + 1)) =
        win'.sent + 1 - win.acked := hflushed.before.tracks.dist_ofNat (by omega) (by omega)
    rcases hsent _ hbuffered with ⟨-, hbefore⟩ | hmem
    · have hlast := hflushed.before.tracks.dist_ofNat hacked (by omega)
      rw [← hflushed.before.lastSent] at hlast
      rw [hdist, hlast] at hbefore
      omega
    · rcases List.mem_append.mp hmem with hmem | hmem
      · obtain ⟨n, hbehind, hle, heq⟩ := mem_sentAttempts.mp hmem
        have hn : Serial.dist stream.lastAcknown (UInt16.ofNat n) = n - win.acked :=
          hflushed.before.tracks.dist_ofNat (by omega) (by omega)
        rw [← show UInt16.ofNat (win'.sent + 1) = UInt16.ofNat n from congrArg Attempt.seqNum heq,
          hdist] at hn
        omega
      · cases List.mem_singleton.mp hmem

theorem outputStreamsConfirmed_iff (storage : StreamStorage) :
    outputStreamsConfirmed storage = true ↔ ∀ i, i < storage.outputReliableSize →
      (storage.outputReliable i).lastAcknown = (storage.outputReliable i).lastSent := by
  have hstream (stream : OutputReliableStream) :
      isOutputUpToDate stream = true ↔ stream.lastAcknown = stream.lastSent := by
    rw [isOutputUpToDate, decide_eq_true_iff, eq_comm, seqNumCmp_eq_zero_iff]
  rw [outputStreamsConfirmed, List.all_eq_true]
  constructor
  · intro hall i hi
    have hconfirmed := hall i.toNat (List.mem_range.mpr (UInt8.lt_iff_toNat_lt.mp hi))
    rw [UInt8.ofNat_toNat] at hconfirmed
    exact (hstream _).mp hconfirmed
  · intro hall k hk
    have hlt := List.mem_range.mp hk
    have hsize := storage.outputReliableSize.toNat_lt
    refine (hstream _).mpr (hall _ (UInt8.lt_iff_toNat_lt.mpr ?_))
    rw [UInt8.toNat_ofNat', Nat.mod_eq_of_lt (by omega)]
    exact hlt

section

variable [MicroCdr] [LawfulMicroCdr] {platform : Platform} {shiftBeyond : Nat → UInt16}
  {config : ReadConfig} {fuel : Nat} {run run' : Run}

/-- Where the call says that the delivery is confirmed, every message that was buffered has been
delivered exactly if the transport refused none of the messages of the flush, and what a misread
ACKNACK covers is covered by one for the stream as well. -/
theorem confirmed_delivery_iff {timeoutMs : Int} (hwin : run.session.Windows)
    (h : runSessionUntilConfirmDelivery platform shiftBeyond config fuel run timeoutMs =
      some (true, run')) :
    ∃ effects attempts, run'.session.effects = run.session.effects ++ effects ∧
      run'.attempts = run.attempts ++ attempts ∧
      ((∀ i, i < run.session.streams.outputReliableSize →
          ∀ q, MessageBuffered (run.session.streams.outputReliable i) q →
            Delivered (run.session.streams.outputReliable i) i q attempts effects) ↔
        (∀ attempt ∈ attempts, attempt.sent = true) ∧
          ∀ i, i < run.session.streams.outputReliableSize →
            ∀ q, MessageBuffered (run.session.streams.outputReliable i) q →
              AcknackMisread effects i q → AcknackCovers effects i q) := by
  rw [runSessionUntilConfirmDelivery] at h
  obtain ⟨run₁, hflush, h⟩ := Option.bind_eq_some_iff.mp h
  obtain ⟨run₂, hlisten, h⟩ := Option.bind_eq_some_iff.mp h
  obtain ⟨hresult, rfl⟩ := Prod.mk.inj (Option.some.inj h)
  obtain ⟨attempts, hattempts, -, heffects, hsize, hindex, hflushed⟩ :=
    @flashOutputStreams_flushed _ _ platform fuel { run with looked := run.looked + 1 } _ hwin
      hflush
  obtain ⟨hattempts', effects, hlistened⟩ := listened_listenUntilConfirmed hlisten
  refine ⟨effects, attempts, ?_, ?_, ?_⟩
  · rw [hlistened.record, heffects]
  · rw [hattempts', hattempts]
  have hown (i : UInt8) (attempt : Attempt) (hi : attempt.index = i) :
      attempt ∈ attempts.filter (fun attempt => attempt.index = i) ↔ attempt ∈ attempts := by
    rw [List.mem_filter, decide_eq_true_iff]
    exact ⟨And.left, fun hmem => ⟨hmem, hi⟩⟩
  constructor
  · intro hall
    refine ⟨fun attempt hmem => ?_, fun i hi q hq _ => (hall i hi q hq).acknowledged⟩
    have hi := hindex attempt hmem
    obtain ⟨H, win, win', hto, hends⟩ := hflushed attempt.index hi
    refine sent_of_delivered hto hends (fun q hq => ?_) attempt ((hown _ _ rfl).mpr hmem)
    exact (hall _ hi q hq).sent.imp_right (hown _ _ rfl).mpr
  · rintro ⟨hall, hmisread⟩ i hi q hq
    obtain ⟨H, win, win', hto, hends⟩ := hflushed i hi
    have hcreated : i < run₁.session.control.outputReliableSize := by
      rw [show run₁.session.control.outputReliableSize = _ from hsize]
      exact hi
    have hconfirmed := (outputStreamsConfirmed_iff _).mp hresult i (by
      rw [show run₂.session.streams.outputReliableSize = _ from hlistened.control.size]
      exact hcreated)
    obtain ⟨hsent, htaken⟩ := @sent_and_taken _ _ _ _ _ _ _ effects hto hends
      (fun attempt hmem => hall _ (List.mem_filter.mp hmem).1)
      ((hlistened.control.lastAcknown i hcreated).symm.trans
        (hconfirmed.trans (hlistened.control.lastSent i hcreated))) q hq
    exact ⟨hsent.imp_right (hown _ _ rfl).mp, htaken.covers (hmisread i hi q hq)⟩

end

/-! ## A message that is refused -/

/-- A session with one output stream, in which one message is buffered. -/
def oneBuffered : Session :=
  { noStreams with
    info := { noStreams.info with id := 0x01 }
    streams := { noStreams.streams.setOutputReliable 0 (twoSlots.afterWrite 8).stream with
      outputReliableSize := 1 } }

/-- An ACKNACK for the message, for the session 0x01. -/
def firstAcknack : Datagram :=
  .ofBytes [0x01, 0, 0, 0, 0, 0, 0, 0, 10, 1, 5, 0, 1, 0, 0, 0, 0x80]

/-- The call for that session. -/
def confirmation (platform : Platform) : Option (Bool × Run) :=
  @runSessionUntilConfirmDelivery referenceMicroCdr platform (fun _ => 0) noCallbacks 4
    oneBuffered.start 0

theorem windows_oneBuffered : oneBuffered.Windows := by
  have honly (i : UInt8) (hi : i < oneBuffered.streams.outputReliableSize) : i = 0 :=
    UInt8.toNat_inj.mp (Nat.lt_one_iff.mp (UInt8.lt_iff_toNat_lt.mp hi))
  refine ⟨rfl, fun i hi => ?_, fun i hi => ?_⟩
  · rw [honly i hi]
    decide +kernel
  · rw [honly i hi]
    obtain ⟨win, hinv⟩ := @outputReachable_inv referenceMicroCdr referenceMicroCdr_lawful
      (fun _ => 0) 64 2 8 ⟨1, rfl⟩ rfl (by decide) (by decide) _
      (@reachable_afterWrite _ .refl 8 (by decide))
    exact ⟨_, win, hinv.tracks.represents (by decide)⟩

/-- The message is delivered where the transport takes it and the agent acknowledges it. -/
theorem confirmed_delivery_iff_firstAcknack : ∃ run',
    confirmation (arriving [firstAcknack]) = some (true, run') ∧
      Delivered (twoSlots.afterWrite 8).stream 0 0 run'.attempts run'.session.effects := by
  have hcalled : ∀ r ∈ confirmation (arriving [firstAcknack]),
      r.1 = true ∧ (∀ attempt ∈ r.2.attempts, attempt.sent = true) ∧
        r.2.session.effects = [.acknack
          { firstUnackedSeqNum := 1, nackBitmap := [0, 0], streamId := 0x80 } true] := by
    decide +kernel
  obtain ⟨⟨confirmed, run'⟩, hcall⟩ : ∃ r, confirmation (arriving [firstAcknack]) = some r :=
    Option.isSome_iff_exists.mp (by decide +kernel)
  obtain ⟨hconfirmed, hsent, hrecord⟩ := hcalled _ hcall
  dsimp only at hconfirmed hsent hrecord
  subst hconfirmed
  obtain ⟨effects, attempts, heffects, hattempts, hiff⟩ :=
    @confirmed_delivery_iff referenceMicroCdr referenceMicroCdr_lawful _ _ _ _ _ _ _
      windows_oneBuffered hcall
  rw [show run'.attempts = attempts from hattempts] at hsent
  have hsame : run'.session.effects = effects := heffects
  refine ⟨run', hcall, ?_⟩
  rw [hsame] at hrecord ⊢
  rw [show run'.attempts = attempts from hattempts]
  refine hiff.mpr ⟨hsent, ?_⟩ 0 (by decide) 0 (by constructor <;> decide +kernel)
  -- the ACKNACK that was read is one for the stream
  rintro i - q - ⟨payload, whole, hmem, rfl, hnot, -⟩
  rw [hrecord, List.mem_singleton] at hmem
  cases hmem
  exact absurd ⟨rfl, rfl⟩ hnot

/-- Where the transport refuses it, the call says that the delivery is confirmed as well: the
message is still in its slot. -/
theorem refused_message_confirmed : ∃ run',
    confirmation { arriving [] with sendMsg _ := false } = some (true, run') ∧
      MessageBuffered (twoSlots.afterWrite 8).stream 0 ∧
      ¬ Delivered (twoSlots.afterWrite 8).stream 0 0 run'.attempts run'.session.effects := by
  have hcalled : ∀ r ∈ confirmation { arriving [] with sendMsg _ := false },
      r.1 = true ∧ r.2.session.effects = [] := by
    decide +kernel
  obtain ⟨⟨confirmed, run'⟩, hcall⟩ :
      ∃ r, confirmation { arriving [] with sendMsg _ := false } = some r :=
    Option.isSome_iff_exists.mp (by decide +kernel)
  obtain ⟨hconfirmed, heffects⟩ := hcalled _ hcall
  dsimp only at hconfirmed heffects
  subst hconfirmed
  refine ⟨run', hcall, by constructor <;> decide +kernel, ?_⟩
  rintro ⟨-, payload, whole, hacknack, -⟩
  rw [heffects] at hacknack
  cases hacknack

/-- An ACKNACK for the stream of none, for the session 0x01. -/
def strayAcknack : Datagram :=
  .ofBytes [0x01, 0, 0, 0, 0, 0, 0, 0, 10, 1, 5, 0, 1, 0, 0, 0, 0]

/-- So it does where an ACKNACK arrives that names no stream, or one that is cut short in front of
the stream. -/
example : (∀ r ∈ confirmation (arriving [strayAcknack]), r.1 = true ∧
      ∀ effect ∈ r.2.session.effects, effect = .acknack
        { firstUnackedSeqNum := 1, nackBitmap := [0, 0], streamId := 0 } true) ∧
    ∀ r ∈ confirmation (arriving [{ firstAcknack with length := 16 }]), r.1 = true ∧
      ∀ effect ∈ r.2.session.effects, effect = .acknack
        { firstUnackedSeqNum := 1, nackBitmap := [0, 0], streamId := 0 } false := by
  decide +kernel

end XrceClient
