import SsmBridge.Construction.System

/-!
# A session with a clock

The operations of `System` take the time as an argument, each its own.  `TimedSystem` is a session
whose operations read one clock, with the tickers of `heartbeat_task` in `src/connection.rs`: a
heartbeat is polled when its ticker is due or the session has closed, which is when it does
something.

The ticker is tokio's `interval_at` with `MissedTickBehavior::Delay`; it is made when the task runs
for the first time.  Times are in nanoseconds.  All channels of a session have the same heartbeat
interval.

`heard` is an observation: from which channel the reader took a frame, and when.
-/

namespace SsmBridge

open Machine

/-- How late tokio lets a tick be before it moves the ticks after it: 5 ms. -/
def tickTolerance : ℕ := 5 * 10 ^ 6

/-- The ticker of a heartbeat. -/
structure Ticker where
  /-- The channel was opened, and the task spawned, at this time. -/
  openedAt : ℕ
  /-- The next tick, once the ticker was made. -/
  deadline : Option ℕ
  deriving DecidableEq

namespace Ticker

/-- When the task has something to do next. -/
def due (t : Ticker) : ℕ := t.deadline.getD t.openedAt

/-- The task runs for the first time. -/
def begin (interval now : ℕ) (t : Ticker) : Ticker := { t with deadline := some (now + interval) }

/-- The ticker ticks. -/
def tick (interval now : ℕ) (t : Ticker) : Ticker :=
  { t with deadline := some ((if t.due + tickTolerance < now then now else t.due) + interval) }

end Ticker

/-- A session, the time, and the tickers of its channels. -/
structure TimedSystem where
  system : System
  now : ℕ
  tickers : List Ticker
  heard : List (ℕ × ℕ)
  deriving DecidableEq

inductive TimedLabel
  | act (l : Label)
  /-- The heartbeat task of a channel runs for the first time. -/
  | begin (c : ℕ)
  | elapse (nanos : ℕ)

/-- What an operation reads off the clock. -/
def Action.clock : Action → Option ℕ
  | .track _ now | .heartbeatTick now | .retransmitTick now | .readerFrame now _ => some now
  | _ => none

namespace TimedSystem

/-- A session whose first channel was just opened. -/
def start (config : ChannelConfig) : TimedSystem where
  system := System.start config
  now := config.openedAt
  tickers := [⟨config.openedAt, none⟩]
  heard := []

section

variable (s : TimedSystem)

/-- The heartbeat task of a channel has a ticker that meets the condition. -/
def ticker (c : ℕ) (p : ℕ → Bool) : Bool := s.tickers[c]?.any fun t => t.deadline.any p

/-- The session has closed on the channel. -/
def closed (c : ℕ) : Bool := s.system.channels[c]?.any (·.core.isClosed)

/-- The operation of a channel may happen now. -/
def allows (c : ℕ) (a : Action) : Bool :=
  a.clock.all (· = s.now) &&
    match a with
    | .heartbeatPoll => s.ticker c fun due => s.closed c || decide (due ≤ s.now)
    | .heartbeatTick _ => s.ticker c fun due => decide (due ≤ s.now)
    | _ => true

/-- The tickers after an operation of a channel. -/
def tickersAfter (interval c : ℕ) : Action → List Ticker
  | .heartbeatTick _ => s.tickers.modify c (Ticker.tick interval s.now)
  | _ => s.tickers

/-- The frames heard after an operation of a channel. -/
def heardAfter (c : ℕ) : Action → List (ℕ × ℕ)
  | .readerFrame _ _ => s.heard ++ [(c, s.now)]
  | _ => s.heard

end

/-- A step of the session on the clock. -/
def step (interval : ℕ) (env : Env) (s : TimedSystem) : TimedLabel → Option TimedSystem
  | .act (.act c a) =>
      if s.allows c a then
        (s.system.step env (.act c a)).map fun system => { s with
          system
          tickers := s.tickersAfter interval c a
          heard := s.heardAfter c a }
      else none
  | .act (.resume config) =>
      if config.openedAt = s.now then
        (s.system.step env (.resume config)).map fun system => { s with
          system
          tickers := s.tickers ++ [⟨s.now, none⟩] }
      else none
  | .begin c =>
      if s.tickers[c]?.any (·.deadline.isNone) then
        some { s with tickers := s.tickers.modify c (Ticker.begin interval s.now) }
      else none
  | .elapse nanos => some { s with now := s.now + nanos }

/-- No heartbeat of an open channel has been due for longer than `late`. -/
def Prompt (late : ℕ) (s : TimedSystem) : Prop :=
  ∀ (c : ℕ) (ch : Channel) (t : Ticker), s.system.channels[c]? = some ch →
    s.tickers[c]? = some t → ch.core.isClosed = false → s.now ≤ t.due + late

end TimedSystem

end SsmBridge
