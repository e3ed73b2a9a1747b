import Mathlib.Algebra.Ring.Nat
import SsmBridge.Construction.Session

/-!
# Reconnection attempts

The model of `reconnect` in `src/reconnect.rs`: a loop that backs off, tries `resume_session` while
there is a session to resume and `start_session` otherwise, and ends when a session was adopted, a
failure is final or the attempts are used up.

What happens outside the crate during one attempt is an `Attempt`: the random sample, a shutdown
that is signalled during the sleep, what the service answered and how opening the data channel
ended.  `reconnect` reads a tape of attempts and is undefined where the tape ends and the loop goes
on.  `Duration`s are in nanoseconds; their product panics above `Duration::MAX`, which ends the
task.  The attempt counter is a `u32` and wraps, as it does in a release build.

The log of a run holds the events emitted, the calls made and the sessions adopted, in order.
-/

namespace SsmBridge

/-! ## Configuration and outcomes -/

/-- `Duration::MAX`, in nanoseconds. -/
def durationMax : ℕ := 2 ^ 64 * 10 ^ 9 - 1

/-- How hard to try, and how long to wait between attempts. -/
structure ReconnectConfig where
  maxAttempts : UInt32
  initialDelay : ℕ
  maxDelay : ℕ
  target : String
  /-- What `SessionConfig::validate` says about the template for each new session. -/
  validate : Except Error Unit

/-- A session handle: its identifier, and which stream state it holds. -/
structure OpenedSession where
  id : String
  continuity : ℕ
  deriving DecidableEq

/-- What `ssm:ResumeSession` answers. -/
structure ResumeResponse where
  streamUrl : Option String
  tokenValue : Option String
  deriving DecidableEq

/-- What happens outside the crate during one attempt. -/
structure Attempt where
  /-- The sample `jitter` draws. -/
  sample : ℕ
  /-- Shutdown is signalled before the sleep is over. -/
  shutdown : Bool
  resumeCall : Except SdkError ResumeResponse
  /-- `Session::open` on the stream of the response. -/
  openResumed : Except Error Unit
  startSession : Except Error OpenedSession

/-- Lifecycle notifications of a reconnecting session. -/
inductive ReconnectEvent
  | disconnected (reason : CloseReason)
  | reconnecting (attempt : UInt32) (delay : ℕ)
  | resumed (sessionId : String) (attempts : UInt32)
  | reconnected (sessionId : String) (attempts : UInt32)
  | gaveUp (attempts : UInt32) (reason : String)
  deriving DecidableEq

/-- What a run of `reconnect` does that results are stated about. -/
inductive ReconnectStep
  | event (e : ReconnectEvent)
  /-- `resume_session` is called for this session. -/
  | resumeCall (sessionId : String)
  /-- `start_session` is called. -/
  | startCall
  | adopt (session : OpenedSession)
  deriving DecidableEq

/-- How `reconnect` ends. -/
inductive ReconnectResult
  /-- `Ok(())`. -/
  | ok
  | err (e : Error)
  /-- The task panicked. -/
  | panicked
  deriving DecidableEq

/-! ## The loop -/

/-- A uniform sample from `[0, ceiling]`, in whole milliseconds. -/
def jitter (ceiling sample : ℕ) : ℕ :=
  let millis := min (ceiling / 10 ^ 6) (2 ^ 64 - 1)
  if millis = 0 then 0 else sample % (millis + 1) * 10 ^ 6

/-- `SessionManager::resume_session`: no usable token means that the session cannot be resumed. -/
def resumeSession (config : ReconnectConfig) (a : Attempt) (session : OpenedSession) :
    Except Error (Option OpenedSession) :=
  match config.validate, a.resumeCall with
  | .error e, _ => .error e
  | .ok (), .error e => .error (.ofSdkError e)
  | .ok (), .ok response =>
      match response.streamUrl, response.tokenValue with
      | some _, some token =>
          if token = "" then .ok none
          else
            match a.openResumed with
            | .error e => .error e
            | .ok () => .ok (some session)
      | _, _ => .ok none

/-- What the loop of `reconnect` carries from one attempt to the next. -/
structure Reconnecting where
  attempt : UInt32
  ceiling : ℕ
  resumeFrom : Option OpenedSession
  log : List ReconnectStep

/-- How an attempt ends: the loop goes on, or it is left. -/
inductive Round
  | again (r : Reconnecting)
  | finished (result : ReconnectResult) (log : List ReconnectStep)

/-- Double the ceiling for the next attempt; the product panics when it overflows. -/
def backOff (config : ReconnectConfig) (r : Reconnecting) : Round :=
  if 2 * r.ceiling ≤ durationMax then
    .again { r with ceiling := min (2 * r.ceiling) config.maxDelay }
  else .finished .panicked r.log

/-- The second half of an attempt: start a new session. -/
def startRound (config : ReconnectConfig) (a : Attempt) (r : Reconnecting) : Round :=
  let r := { r with log := r.log ++ [.startCall] }
  match a.startSession with
  | .ok session =>
      .finished .ok (r.log ++ [.adopt session, .event (.reconnected session.id r.attempt)])
  | .error e => if e.isRetriable then backOff config r else .finished (.err e) r.log

/-- The first half of an attempt: resume the session, if there is one to resume. -/
def resumeRound (config : ReconnectConfig) (a : Attempt) (r : Reconnecting) : Round :=
  match r.resumeFrom with
  | none => startRound config a r
  | some session =>
      let r := { r with log := r.log ++ [.resumeCall session.id] }
      match resumeSession config a session with
      | .ok (some session) =>
          .finished .ok (r.log ++ [.adopt session, .event (.resumed session.id r.attempt)])
      | .ok none => startRound config a { r with resumeFrom := none }
      | .error e =>
          if e.isRetriable then backOff config r
          else startRound config a { r with resumeFrom := none }

/-- One attempt: announce it, sleep, and try. -/
def reconnectRound (config : ReconnectConfig) (a : Attempt) (r : Reconnecting) : Round :=
  let delay := jitter r.ceiling a.sample
  let r := { r with log := r.log ++ [.event (.reconnecting r.attempt delay)] }
  if a.shutdown then
    .finished (.err (.sessionClosed "shutdown requested while reconnecting")) r.log
  else resumeRound config a r

/-- The attempt count has passed the limit, if there is one. -/
def ReconnectConfig.exhausted (config : ReconnectConfig) (attempt : UInt32) : Bool :=
  decide (0 < config.maxAttempts) && decide (config.maxAttempts < attempt)

/-- The loop, over a tape of attempts: its result and its log. -/
def reconnectLoop (config : ReconnectConfig) :
    List Attempt → Reconnecting → Option (ReconnectResult × List ReconnectStep)
  | tape, r =>
      let r := { r with attempt := r.attempt + 1 }
      if config.exhausted r.attempt then
        some (.err (.transport
          s!"gave up reconnecting to {config.target} after {config.maxAttempts} attempts"), r.log)
      else
        match tape with
        | [] => none
        | a :: rest =>
            match reconnectRound config a r with
            | .again r => reconnectLoop config rest r
            | .finished result log => some (result, log)

/-- `reconnect`: retry with exponential backoff until a session opens. -/
def reconnect (config : ReconnectConfig) (resumeFrom : Option OpenedSession)
    (tape : List Attempt) : Option (ReconnectResult × List ReconnectStep) :=
  reconnectLoop config tape
    { attempt := 0, ceiling := config.initialDelay, resumeFrom, log := [] }

end SsmBridge
