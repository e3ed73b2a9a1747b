import SsmBridge.Construction.StreamData

/-!
# What a configuration is handed to

The calls that take a field of `SessionConfig` and have a precondition of their own: the start of
`heartbeat_task` and the loop of `send_stream_data` in `src/connection.rs`, `subscribe` in
`src/channels.rs` and the deadline of `ReconnectingSession::send` in `src/reconnect.rs`.

A call whose precondition is not met panics, so that these return an `Except`.  The preconditions of
`interval_at` and `mpsc::channel` are tokio's; an `Instant` has a largest value, which depends on
the platform.  Times are in nanoseconds and a `usize` has 64 bits.
-/

namespace SsmBridge

/-! ## The clock and the queues -/

/-- Why a call panicked. -/
inductive Panic
  | instantOverflow
  | zeroPeriod
  | channelCapacity
  deriving DecidableEq

/-- A monotonic clock. -/
structure Clock where
  now : ℕ
  /-- The largest `Instant`. -/
  limit : ℕ
  now_le : now ≤ limit

/-- `Instant::now() + duration`. -/
def Clock.after (clock : Clock) (duration : ℕ) : Except Panic ℕ :=
  if clock.now + duration ≤ clock.limit then .ok (clock.now + duration) else .error .instantOverflow

structure Interval where
  start : ℕ
  period : ℕ
  deriving DecidableEq

/-- `tokio::time::interval_at`. -/
def intervalAt (start period : ℕ) : Except Panic Interval :=
  if period = 0 then .error .zeroPeriod else .ok ⟨start, period⟩

/-- `Semaphore::MAX_PERMITS`: `usize::MAX >> 3`. -/
def maxPermits : ℕ := (2 ^ 64 - 1) / 8

/-- `mpsc::channel`: the capacity of the queue. -/
def mpscChannel (capacity : ℕ) : Except Panic ℕ :=
  if capacity = 0 ∨ maxPermits < capacity then .error .channelCapacity else .ok capacity

/-! ## The calls -/

/-- The configuration with the one field that only waiting calls read. -/
structure WaitingConfig extends SessionConfig where
  /-- How long to wait for the session to become ready before giving up. -/
  readyTimeout : ℕ
  deriving DecidableEq

/-- The ticker of `heartbeat_task`. -/
def heartbeatTicker (clock : Clock) (interval : ℕ) : Except Panic Interval :=
  match clock.after interval with
  | .error e => .error e
  | .ok start => intervalAt start interval

/-- `OutputFanout::subscribe`, with the queue it makes first. -/
def OutputFanout.trySubscribe (f : OutputFanout) (capacity : ℕ) :
    Except Panic (ℕ × OutputFanout) :=
  match mpscChannel (max capacity 1) with
  | .error e => .error e
  | .ok _ => .ok (f.subscribe capacity)

/-- The deadline of `ReconnectingSession::send`. -/
def sendDeadline (clock : Clock) (config : WaitingConfig) : Except Panic ℕ :=
  clock.after config.readyTimeout

/-- Where the loop of `send_stream_data` is after one round. -/
def chunkEnd (chunkSize len offset : ℕ) : ℕ := min ((offset + chunkSize) % 2 ^ 64) len

/-- The longest slice: `isize::MAX` bytes. -/
def maxSlice : ℕ := 2 ^ 63 - 1

end SsmBridge
