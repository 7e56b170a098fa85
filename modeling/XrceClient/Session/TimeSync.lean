import XrceClient.Session.Application

/-!
# Time synchronization (`session.c`, `time_internal.h`)

The agent answers a TIMESTAMP with the time at which it was received and the time of the answer, and
the session keeps half of what the two ways differ by as the offset of the clocks.

- `int64`: what fits into an `int64_t`. `processTimestampReplyInt64` is `process_timestamp_reply`
  with every result of its arithmetic checked.
- `Exchange`: the times of a TIMESTAMP and its answer, by the clock of the client.
- `timestamp_reply_offset`: nothing overflows, and the offset is that of the clocks up to half of
  what the delays differ by.
- `epochNanos`: the time of the agent, as the session has it.
-/

namespace XrceClient

/-! ## Arithmetic that does not overflow -/

/-- A result that fits into an `int64_t`. -/
def int64 (n : Int) : Option Int :=
  if -9223372036854775808 ≤ n ∧ n ≤ 9223372036854775807 then some n else none

theorem int64_eq_some {n : Int} (hlow : -9223372036854775808 ≤ n)
    (hhigh : n ≤ 9223372036854775807) : int64 n = some n := if_pos ⟨hlow, hhigh⟩

/-- `(int64_t) sec * 1000000000 + nsec` (time_internal.h:30), none if it overflows. -/
def nanosInt64 (sec nsec : Int) : Option Int := do
  let product ← int64 (sec * 1000000000)
  int64 (product + nsec)

/-- `uxr_convert_to_nanos` (time_internal.h:26–31), none if it overflows. -/
def convertToNanosInt64 (time : Time) : Option Int :=
  nanosInt64 (Int.bmod time.seconds (2 ^ 32)) time.nanoseconds

/-- `((t0 + t3) - (t1 + t2)) / 2` (session.c:1198), none if it overflows. -/
def halfDifferenceInt64 (t0 t1 t2 t3 : Int) : Option Int := do
  let client ← int64 (t0 + t3)
  let agent ← int64 (t1 + t2)
  let difference ← int64 (client - agent)
  int64 (difference.tdiv 2)

namespace Application

/-- The offset that a timestamp gives (session.c:1191–1198), none if it overflows. -/
def offsetInt64 (nanos : Int) (timestamp : TimestampReplyPayload) : Option Int := do
  let t3 := nanos
  let t0 ← convertToNanosInt64 timestamp.originateTimestamp
  let t1 ← convertToNanosInt64 timestamp.receiveTimestamp
  let t2 ← convertToNanosInt64 timestamp.transmitTimestamp
  halfDifferenceInt64 t0 t1 t2 t3

/-- `process_timestamp_reply` (session.c:1175–1201), none if its arithmetic overflows. -/
def processTimestampReplyInt64 (nanos : Int) (app : Application)
    (timestamp : TimestampReplyPayload) : Option Application := do
  let app ←
    if app.onTime then do
      let receive ← convertToNanosInt64 timestamp.receiveTimestamp
      let transmit ← convertToNanosInt64 timestamp.transmitTimestamp
      let originate ← convertToNanosInt64 timestamp.originateTimestamp
      some (app.call (.onTime nanos receive transmit originate))
    else do
      let timeOffset ← offsetInt64 nanos timestamp
      some { app with timeOffset }
  return { app with synchronized := true }

end Application

/-- The fields of a timestamp have their width. -/
structure TimestampReplyPayload.Sized (timestamp : TimestampReplyPayload) : Prop where
  originate : timestamp.originateTimestamp.nanoseconds < 2 ^ 32
  receive : timestamp.receiveTimestamp.nanoseconds < 2 ^ 32
  transmit : timestamp.transmitTimestamp.nanoseconds < 2 ^ 32

/-- A time that a timestamp can express. -/
def Expressible (nanos : Int) : Prop :=
  -2147483648 * 1000000000 ≤ nanos ∧ nanos ≤ 2147483647 * 1000000000 + 4294967295

theorem convertToNanos_eq (time : Time) :
    convertToNanos time = Int.bmod time.seconds (2 ^ 32) * 1000000000 + time.nanoseconds := rfl

/-- Seconds are those of an `int32_t`. -/
theorem bmod_seconds (seconds : Nat) :
    -2147483648 ≤ Int.bmod seconds (2 ^ 32) ∧ Int.bmod seconds (2 ^ 32) ≤ 2147483647 := by
  have hlow := @Int.le_bmod seconds (2 ^ 32) (by decide)
  have hhigh := @Int.bmod_lt seconds (2 ^ 32) (by decide)
  omega

/-- Half of an integer, rounded towards zero. -/
theorem two_mul_tdiv (n : Int) : n - 1 ≤ 2 * n.tdiv 2 ∧ 2 * n.tdiv 2 ≤ n + 1 := by
  have hsplit := Int.mul_tdiv_add_tmod n 2
  have hlow := Int.lt_tmod_of_pos n (show 0 < 2 by decide)
  have hhigh := Int.tmod_lt_of_pos n (show 0 < 2 by decide)
  omega

theorem expressible_convertToNanos {time : Time} (h : time.nanoseconds < 2 ^ 32) :
    Expressible (convertToNanos time) := by
  obtain ⟨hlow, hhigh⟩ := bmod_seconds time.seconds
  rw [Expressible, convertToNanos_eq]
  omega

theorem nanosInt64_eq {sec nsec : Int} (hlow : -2147483648 ≤ sec) (hhigh : sec ≤ 2147483647)
    (hpos : 0 ≤ nsec) (hlt : nsec < 4294967296) :
    nanosInt64 sec nsec = some (sec * 1000000000 + nsec) := by
  rw [nanosInt64, int64_eq_some (by omega) (by omega)]
  exact int64_eq_some (by omega) (by omega)

theorem convertToNanosInt64_eq {time : Time} (h : time.nanoseconds < 2 ^ 32) :
    convertToNanosInt64 time = some (convertToNanos time) := by
  obtain ⟨hlow, hhigh⟩ := bmod_seconds time.seconds
  rw [convertToNanosInt64, convertToNanos_eq]
  exact nanosInt64_eq hlow hhigh (by omega) (by omega)

/-- The sums of two times, their difference and its half fit into an `int64_t`. -/
theorem halfDifferenceInt64_eq {t0 t1 t2 t3 : Int} (h0 : Expressible t0) (h1 : Expressible t1)
    (h2 : Expressible t2) (h3 : Expressible t3) :
    halfDifferenceInt64 t0 t1 t2 t3 = some (((t0 + t3) - (t1 + t2)).tdiv 2) := by
  rw [Expressible] at h0 h1 h2 h3
  have hhalf := two_mul_tdiv ((t0 + t3) - (t1 + t2))
  simp only [halfDifferenceInt64, Option.bind_eq_bind]
  rw [int64_eq_some (by omega) (by omega), Option.bind_some, int64_eq_some (by omega) (by omega),
    Option.bind_some, int64_eq_some (by omega) (by omega), Option.bind_some]
  exact int64_eq_some (by omega) (by omega)

namespace Application

variable {nanos : Int} {timestamp : TimestampReplyPayload}

theorem offsetOf_eq : offsetOf nanos timestamp =
    ((convertToNanos timestamp.originateTimestamp + nanos) -
      (convertToNanos timestamp.receiveTimestamp +
        convertToNanos timestamp.transmitTimestamp)).tdiv 2 := rfl

theorem offsetInt64_of {t0 t1 t2 : Int}
    (h0 : convertToNanosInt64 timestamp.originateTimestamp = some t0)
    (h1 : convertToNanosInt64 timestamp.receiveTimestamp = some t1)
    (h2 : convertToNanosInt64 timestamp.transmitTimestamp = some t2) :
    offsetInt64 nanos timestamp = halfDifferenceInt64 t0 t1 t2 nanos := by
  rw [offsetInt64, h0, h1, h2]
  rfl

theorem offsetInt64_eq (hsized : timestamp.Sized) (hnanos : Expressible nanos) :
    offsetInt64 nanos timestamp = some (offsetOf nanos timestamp) := by
  rw [offsetInt64_of (convertToNanosInt64_eq hsized.originate)
    (convertToNanosInt64_eq hsized.receive) (convertToNanosInt64_eq hsized.transmit), offsetOf_eq]
  exact halfDifferenceInt64_eq (expressible_convertToNanos hsized.originate)
    (expressible_convertToNanos hsized.receive) (expressible_convertToNanos hsized.transmit) hnanos

/-- A TIMESTAMP_REPLY is processed without an overflow. -/
theorem processTimestampReplyInt64_eq (hsized : timestamp.Sized) (hnanos : Expressible nanos)
    (app : Application) :
    processTimestampReplyInt64 nanos app timestamp =
      some (processTimestampReply nanos app timestamp) := by
  rw [processTimestampReplyInt64, processTimestampReply, offsetInt64_eq hsized hnanos,
    convertToNanosInt64_eq hsized.originate, convertToNanosInt64_eq hsized.receive,
    convertToNanosInt64_eq hsized.transmit]
  generalize offsetOf nanos timestamp = offset
  generalize convertToNanos timestamp.originateTimestamp = originate
  generalize convertToNanos timestamp.receiveTimestamp = receive
  generalize convertToNanos timestamp.transmitTimestamp = transmit
  cases app.onTime with
  | true => rfl
  | false => rfl

end Application

/-! ## The offset of the clocks -/

/-- `uxr_epoch_nanos` (session.c:559–563), at a time of the client. -/
def epochNanos (nanos : Int) (app : Application) : Int := nanos - app.timeOffset

/-- A TIMESTAMP and its answer, by the clock of the client: when it is sent, how long it takes,
when the agent answers, and how long the answer takes. -/
structure Exchange where
  sent : Int
  request : Int
  answered : Int
  reply : Int

/-- The timestamps of an agent whose clock is behind that of the client by `d`. -/
structure Exchange.Stamps (exchange : Exchange) (d : Int) (timestamp : TimestampReplyPayload) :
    Prop where
  originate : convertToNanos timestamp.originateTimestamp = exchange.sent
  receive : convertToNanos timestamp.receiveTimestamp = exchange.sent + exchange.request - d
  transmit : convertToNanos timestamp.transmitTimestamp = exchange.answered - d

/-- When the answer is processed, by the clock of the client. -/
def Exchange.received (exchange : Exchange) : Int := exchange.answered + exchange.reply

/-- The offset is off by half of what the delays differ by, up to truncation. -/
theorem offsetOf_stamps {exchange : Exchange} {d : Int} {timestamp : TimestampReplyPayload}
    (h : exchange.Stamps d timestamp) :
    |2 * Application.offsetOf exchange.received timestamp - 2 * d| ≤
      |exchange.request - exchange.reply| + 1 := by
  rw [Application.offsetOf_eq, h.originate, h.receive, h.transmit, Exchange.received]
  have hsum : exchange.sent + (exchange.answered + exchange.reply) -
      (exchange.sent + exchange.request - d + (exchange.answered - d)) =
        2 * d - (exchange.request - exchange.reply) := by omega
  rw [hsum]
  generalize exchange.request - exchange.reply = delays
  obtain ⟨hlow, hhigh⟩ := two_mul_tdiv (2 * d - delays)
  rw [abs_le]
  rcases abs_cases delays with ⟨habs, hsign⟩ | ⟨habs, hsign⟩
  · rw [habs]
    constructor <;> omega
  · rw [habs]
    constructor <;> omega

/-- **Time synchronization.** Whatever the timestamps, nothing overflows; and if they are those of an
agent whose clock differs by a constant, the offset is that constant up to half of what the delays
differ by, so that with equal delays the session has the time of the agent. -/
theorem timestamp_reply_offset {nanos : Int} {timestamp : TimestampReplyPayload}
    (hsized : timestamp.Sized) (hnanos : Expressible nanos) (app : Application) :
    ∃ app', Application.processTimestampReplyInt64 nanos app timestamp = some app' ∧
      (app.onTime = false → ∀ (exchange : Exchange) (d : Int), 0 ≤ exchange.request →
        0 ≤ exchange.reply → exchange.Stamps d timestamp → exchange.received = nanos →
          |2 * app'.timeOffset - 2 * d| ≤ |exchange.request - exchange.reply| + 1 ∧
          (exchange.request = exchange.reply → ∀ now, epochNanos now app' = now - d)) := by
  refine ⟨_, Application.processTimestampReplyInt64_eq hsized hnanos app, ?_⟩
  rintro hnone exchange d - - hstamps rfl
  have hoffset : (Application.processTimestampReply exchange.received app timestamp).timeOffset =
      Application.offsetOf exchange.received timestamp := by
    rw [Application.processTimestampReply, hnone]
    generalize Application.offsetOf exchange.received timestamp = offset
    rfl
  have hbound := offsetOf_stamps hstamps
  rw [hoffset]
  refine ⟨hbound, fun hsame now => ?_⟩
  rw [hsame, Int.sub_self, abs_zero, abs_le] at hbound
  rw [epochNanos, hoffset]
  omega

/-- An application without callbacks, and without an offset yet. -/
def unsynchronized : Application where
  onStatus := false
  onTime := false
  statusList := []
  timeOffset := 0
  synchronized := false
  onDataFlag := false
  onPongFlag := 0
  calls := []

/-- The timestamps of a request that took 5 nanoseconds. -/
def minuteBehind : TimestampReplyPayload where
  transmitTimestamp := { seconds := 40, nanoseconds := 5 }
  receiveTimestamp := { seconds := 40, nanoseconds := 5 }
  originateTimestamp := { seconds := 100, nanoseconds := 0 }

/-- An answer to a TIMESTAMP that was sent after 100 seconds, of an agent that is a minute behind. -/
theorem timestamp_reply_minute :
    ∃ app', Application.processTimestampReplyInt64 100000000008 unsynchronized minuteBehind =
      some app' ∧ |2 * app'.timeOffset - 2 * 60000000000| ≤ |5 - 3| + 1 := by
  have hstamps : Exchange.Stamps ⟨100000000000, 5, 100000000005, 3⟩ 60000000000 minuteBehind :=
    ⟨by decide +kernel, by decide +kernel, by decide +kernel⟩
  obtain ⟨app', happ', hoffset⟩ := @timestamp_reply_offset 100000000008 minuteBehind
    ⟨by decide, by decide, by decide⟩ (by rw [Expressible]; omega) unsynchronized
  exact ⟨app', happ', (hoffset rfl _ _ (by decide) (by decide) hstamps rfl).1⟩

end XrceClient
