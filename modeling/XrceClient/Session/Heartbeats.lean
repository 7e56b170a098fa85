import XrceClient.Session.Running
import XrceClient.Stream.OutputRuns

/-!
# The heartbeats of a stream (`output_reliable_stream.c`)

While messages are unacknowledged, every call of `uxr_update_output_stream_heartbeat_timestamp`
moves the deadline of the next heartbeat, whether it asks for one or not; and a counter of eight
bits gates the first call behind a wrap.

- `HeartbeatCalls`: the calls while messages are unacknowledged. Between them the stream may change
  as it likes, but for the two fields.
- `NotStarved`: between two calls that are the interval apart a heartbeat is asked for.
- `triesBefore_eq`: the counter, from the number of the calls that come late.
- `heartbeats_not_starved_iff`: the spacing of the calls with which no heartbeat is missed.
-/

namespace XrceClient

/-- A number of calls, at times that do not go back. No ACKNACK is processed between them, so that
the two fields of the heartbeats are those that the call before left. -/
structure HeartbeatCalls (platform : Platform) (count : Nat) where
  stream : Nat → OutputReliableStream
  time : Nat → Int
  unacknowledged : ∀ k < count, 0 > seqNumCmp (stream k).lastAcknown (stream k).lastSent
  timestamp : ∀ k, k + 1 < count → (stream (k + 1)).nextHeartbeatTimestamp =
    (updateOutputStreamHeartbeatTimestamp platform (stream k) (time k)).2.nextHeartbeatTimestamp
  tries : ∀ k, k + 1 < count → (stream (k + 1)).nextHeartbeatTries =
    (updateOutputStreamHeartbeatTimestamp platform (stream k) (time k)).2.nextHeartbeatTries
  mono : ∀ k, k + 1 < count → time k ≤ time (k + 1)

namespace HeartbeatCalls

variable {platform : Platform} {count : Nat} (calls : HeartbeatCalls platform count)

/-- The result of a call. -/
def asks (k : Nat) : Bool :=
  (updateOutputStreamHeartbeatTimestamp platform (calls.stream k) (calls.time k)).1

/-- Whenever two of the calls are the interval apart, one of those after the first, up to the
second, asks for a heartbeat. -/
def NotStarved : Prop :=
  ∀ i j, i < j → j < count → platform.minHeartbeatTimeInterval ≤ calls.time j - calls.time i →
    ∃ k, i < k ∧ k ≤ j ∧ calls.asks k = true

/-- A call is late: it comes the interval after the one before it, and the first one comes after
the deadline that the stream had, and is not the one that starts to count. -/
def Late : Nat → Prop
  | 0 => (calls.stream 0).nextHeartbeatTries ≠ 0 ∧
      (calls.stream 0).nextHeartbeatTimestamp ≤ calls.time 0
  | k + 1 => platform.minHeartbeatTimeInterval ≤ calls.time (k + 1) - calls.time k

instance (k : Nat) : Decidable (calls.Late k) := by
  cases k with
  | zero => exact inferInstanceAs (Decidable (_ ∧ _))
  | succ k => exact inferInstanceAs (Decidable (_ ≤ _))

/-- The late calls before a call, and the tries that the stream had. -/
def lateBefore (k : Nat) : Nat :=
  (calls.stream 0).nextHeartbeatTries.toNat - 1 + Nat.count calls.Late k

/-- Two late calls do not follow each other where the counter wraps in between. -/
def NeverGated : Prop :=
  ∀ k, k + 1 < count → calls.Late k → calls.Late (k + 1) → ¬ 255 ∣ calls.lateBefore (k + 1)

/-- Between two calls that are the interval apart there are two consecutive ones that are. -/
def NeverPostponed : Prop :=
  ∀ i j, i < j → j < count → platform.minHeartbeatTimeInterval ≤ calls.time j - calls.time i →
    ∃ k, i ≤ k ∧ k < j ∧ platform.minHeartbeatTimeInterval ≤ calls.time (k + 1) - calls.time k

/-! ## The deadline and the counter -/

/-- What a call does, while messages are unacknowledged. -/
theorem update_eq {stream : OutputReliableStream} (time : Int)
    (h : 0 > seqNumCmp stream.lastAcknown stream.lastSent) :
    updateOutputStreamHeartbeatTimestamp platform stream time =
      (decide (stream.nextHeartbeatTries ≠ 0 ∧ stream.nextHeartbeatTimestamp ≤ time),
        { stream with
          nextHeartbeatTries :=
            if stream.nextHeartbeatTries = 0 then 1
            else if stream.nextHeartbeatTimestamp ≤ time then stream.nextHeartbeatTries + 1
            else stream.nextHeartbeatTries
          nextHeartbeatTimestamp := time + platform.minHeartbeatTimeInterval }) := by
  unfold updateOutputStreamHeartbeatTimestamp
  rw [if_pos h]
  dsimp only
  by_cases htries : stream.nextHeartbeatTries = 0
  · simp [htries]
  · by_cases hlate : stream.nextHeartbeatTimestamp ≤ time
    · simp [htries, hlate]
    · simp [htries, hlate]

/-- A call that is not the first one is past its deadline if it is late. -/
theorem late_iff {k : Nat} (hk : k < count) (htries : (calls.stream k).nextHeartbeatTries ≠ 0) :
    (calls.stream k).nextHeartbeatTimestamp ≤ calls.time k ↔ calls.Late k := by
  cases k with
  | zero => exact ⟨fun h => ⟨htries, h⟩, And.right⟩
  | succ k =>
    rw [calls.timestamp k hk, update_eq _ (calls.unacknowledged k (by omega)), Late]
    dsimp only
    omega

/-- A call asks for a heartbeat if it is late and the counter does not gate it. -/
theorem asks_iff {k : Nat} (hk : k < count) :
    calls.asks k = true ↔ (calls.stream k).nextHeartbeatTries ≠ 0 ∧ calls.Late k := by
  rw [asks, update_eq _ (calls.unacknowledged k hk), decide_eq_true_iff]
  constructor
  · rintro ⟨htries, hlate⟩
    exact ⟨htries, (calls.late_iff hk htries).mp hlate⟩
  · rintro ⟨htries, hlate⟩
    exact ⟨htries, (calls.late_iff hk htries).mpr hlate⟩

/-- The counter after a call. -/
theorem tries_succ {k : Nat} (hk : k + 1 < count) :
    (calls.stream (k + 1)).nextHeartbeatTries =
      if (calls.stream k).nextHeartbeatTries = 0 then 1
      else if calls.Late k then (calls.stream k).nextHeartbeatTries + 1
      else (calls.stream k).nextHeartbeatTries := by
  rw [calls.tries k hk, update_eq _ (calls.unacknowledged k (by omega))]
  dsimp only
  by_cases htries : (calls.stream k).nextHeartbeatTries = 0
  · rw [if_pos htries, if_pos htries]
  · rw [if_neg htries, if_neg htries]
    exact if_congr (calls.late_iff (by omega) htries) rfl rfl

/-- The counter before a call: zero behind a late call with which it wraps, and otherwise the late
calls so far, in turns of 255. -/
def Counted (k : Nat) : Prop :=
  (calls.stream (k + 1)).nextHeartbeatTries.toNat =
    if calls.Late k ∧ 255 ∣ calls.lateBefore (k + 1) then 0
    else calls.lateBefore (k + 1) % 255 + 1

theorem lateBefore_succ (k : Nat) :
    calls.lateBefore (k + 1) = calls.lateBefore k + if calls.Late k then 1 else 0 := by
  rw [lateBefore, lateBefore, Nat.count_succ, Nat.add_assoc]

theorem counted_zero (hcount : 1 < count) : calls.Counted 0 := by
  have hbound := (calls.stream 0).nextHeartbeatTries.toNat_lt
  rw [Counted, calls.tries_succ hcount, calls.lateBefore_succ]
  by_cases htries : (calls.stream 0).nextHeartbeatTries = 0
  · have hlate : ¬ calls.Late 0 := fun h => h.1 htries
    simp [htries, hlate, lateBefore]
  · have hpos : (calls.stream 0).nextHeartbeatTries.toNat ≠ 0 := fun h =>
      htries (UInt8.toNat_inj.mp h)
    rw [if_neg htries]
    by_cases hlate : calls.Late 0
    · rw [if_pos hlate, if_pos hlate, UInt8.toNat_add]
      simp only [lateBefore, Nat.count_zero, hlate, true_and, UInt8.reduceToNat]
      split <;> omega
    · rw [if_neg hlate, if_neg hlate, if_neg fun h => hlate h.1]
      simp only [lateBefore, Nat.count_zero]
      omega

/-- One call keeps the count, unless it comes late where the counter has just wrapped. -/
theorem counted_succ {k : Nat} (hk : k + 2 < count) (h : calls.Counted k)
    (hgate : calls.Late k → calls.Late (k + 1) → ¬ 255 ∣ calls.lateBefore (k + 1)) :
    calls.Counted (k + 1) := by
  rw [Counted] at h ⊢
  rw [calls.tries_succ hk, calls.lateBefore_succ (k + 1)]
  by_cases hwrapped : calls.Late k ∧ 255 ∣ calls.lateBefore (k + 1)
  · -- the call behind the wrap starts to count again
    rw [if_pos hwrapped] at h
    have htries : (calls.stream (k + 1)).nextHeartbeatTries = 0 := UInt8.toNat_inj.mp h
    have hlate : ¬ calls.Late (k + 1) := fun hlate => hgate hwrapped.1 hlate hwrapped.2
    rw [if_pos htries, if_neg hlate, if_neg fun h => hlate h.1]
    show 1 = calls.lateBefore (k + 1) % 255 + 1
    rw [Nat.mod_eq_zero_of_dvd hwrapped.2]
  · rw [if_neg hwrapped] at h
    have htries : (calls.stream (k + 1)).nextHeartbeatTries ≠ 0 := fun hzero => by
      rw [hzero] at h
      exact absurd h (by simp)
    rw [if_neg htries]
    by_cases hlate : calls.Late (k + 1)
    · rw [if_pos hlate, if_pos hlate, UInt8.toNat_add, h]
      simp only [hlate, true_and, UInt8.reduceToNat]
      split <;> omega
    · rw [if_neg hlate, if_neg hlate, if_neg fun h => hlate h.1, h]
      rfl

/-- Before every call, the counter is that of the late calls. -/
theorem triesBefore_eq {k : Nat} (hk : k + 1 < count)
    (hgate : ∀ i < k, calls.Late i → calls.Late (i + 1) → ¬ 255 ∣ calls.lateBefore (i + 1)) :
    calls.Counted k := by
  induction k with
  | zero => exact calls.counted_zero hk
  | succ k ih =>
    have hcounted := ih (by omega) fun i hi => hgate i (by omega)
    exact calls.counted_succ hk hcounted (hgate k (by omega))

/-- A late call is gated exactly where the counter has just wrapped. -/
theorem gated_iff {k : Nat} (hcounted : calls.Counted k) :
    (calls.stream (k + 1)).nextHeartbeatTries = 0 ↔
      calls.Late k ∧ 255 ∣ calls.lateBefore (k + 1) := by
  rw [Counted] at hcounted
  constructor
  · intro hzero
    rw [hzero] at hcounted
    by_contra hwrapped
    rw [if_neg hwrapped] at hcounted
    exact absurd hcounted (by simp)
  · intro hwrapped
    rw [if_pos hwrapped] at hcounted
    exact UInt8.toNat_inj.mp hcounted

theorem neverGated_of_notStarved (h : calls.NotStarved) : calls.NeverGated := by
  intro k
  induction k using Nat.strongRecOn with
  | _ k ih =>
    intro hk hlate hnext hwrapped
    have hcounted := calls.triesBefore_eq hk fun i hi => ih i hi (by omega)
    have hgated := (calls.gated_iff hcounted).mpr ⟨hlate, hwrapped⟩
    obtain ⟨j, hlo, hhi, hasks⟩ := h k (k + 1) (Nat.lt_succ_self k) hk hnext
    obtain rfl : j = k + 1 := by omega
    exact ((calls.asks_iff hk).mp hasks).1 hgated

theorem neverPostponed_of_notStarved (h : calls.NotStarved) : calls.NeverPostponed := by
  intro i j hij hj hapart
  obtain ⟨k, hlo, hhi, hasks⟩ := h i j hij hj hapart
  obtain ⟨-, hlate⟩ := (calls.asks_iff (by omega)).mp hasks
  cases k with
  | zero => omega
  | succ k => exact ⟨k, by omega, by omega, hlate⟩

/-- **Heartbeats.** No heartbeat is missed exactly if the calls that are the interval apart have two
consecutive ones between them that are, and no late call follows the one with which the counter
wraps. -/
theorem heartbeats_not_starved_iff :
    calls.NotStarved ↔ calls.NeverPostponed ∧ calls.NeverGated := by
  constructor
  · intro h
    exact ⟨calls.neverPostponed_of_notStarved h, calls.neverGated_of_notStarved h⟩
  · rintro ⟨hpostponed, hgated⟩ i j hij hj hapart
    obtain ⟨k, hlo, hhi, hlate⟩ := hpostponed i j hij hj hapart
    refine ⟨k + 1, by omega, by omega, (calls.asks_iff (by omega)).mpr ⟨?_, hlate⟩⟩
    intro hzero
    have hcounted := calls.triesBefore_eq (show k + 1 < count by omega)
      fun i hi => hgated i (by omega)
    obtain ⟨hprevious, hwrapped⟩ := (calls.gated_iff hcounted).mp hzero
    exact hgated k (by omega) hprevious hlate hwrapped

end HeartbeatCalls

/-! ## Calls at a steady pace -/

/-- The stream after a number of calls, the first one at time zero. -/
def afterHeartbeats (platform : Platform) (period : Int) (stream : OutputReliableStream) :
    Nat → OutputReliableStream
  | 0 => stream
  | k + 1 =>
    (updateOutputStreamHeartbeatTimestamp platform (afterHeartbeats platform period stream k)
      (period * k)).2

theorem afterHeartbeats_unacknowledged (platform : Platform) (period : Int)
    {stream : OutputReliableStream} (h : 0 > seqNumCmp stream.lastAcknown stream.lastSent)
    (k : Nat) :
    0 > seqNumCmp (afterHeartbeats platform period stream k).lastAcknown
      (afterHeartbeats platform period stream k).lastSent := by
  induction k with
  | zero => exact h
  | succ k ih =>
    rw [afterHeartbeats, HeartbeatCalls.update_eq _ ih]
    exact ih

/-- Calls with a period. -/
def steadyCalls (platform : Platform) (period : Int) (hperiod : 0 ≤ period)
    (stream : OutputReliableStream) (h : 0 > seqNumCmp stream.lastAcknown stream.lastSent)
    (count : Nat) : HeartbeatCalls platform count where
  stream := afterHeartbeats platform period stream
  time k := period * k
  unacknowledged k _ := afterHeartbeats_unacknowledged platform period h k
  timestamp _ _ := rfl
  tries _ _ := rfl
  mono k _ := Int.mul_le_mul_of_nonneg_left (by omega) hperiod

/-- A transport that gives nothing, and heartbeats every 100 milliseconds. -/
def silent : Platform where
  sendMsg _ := true
  recvMsg _ _ := none
  millis _ := 0
  minSessionConnectionInterval := 1000
  minHeartbeatTimeInterval := 100

theorem unacknowledged_twoSlots :
    0 > seqNumCmp (twoSlots.afterWrite 8).afterSend.stream.lastAcknown
      (twoSlots.afterWrite 8).afterSend.stream.lastSent := by
  decide +kernel

/-- With calls every 60 milliseconds the deadline moves on before each of them. -/
theorem steadyCalls_starved :
    ¬ (steadyCalls silent 60 (by decide) (twoSlots.afterWrite 8).afterSend.stream
      unacknowledged_twoSlots 3).NotStarved := by
  intro h
  obtain ⟨k, hlo, hhi, hasks⟩ := h 0 2 (by decide) (by decide) (by decide)
  obtain rfl | rfl : k = 1 ∨ k = 2 := by omega
  · exact absurd hasks (by decide +kernel)
  · exact absurd hasks (by decide +kernel)

end XrceClient
