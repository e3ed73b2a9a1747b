import SsmBridge.Construction.Retry
import SsmBridge.Framework.Machine

/-!
# The supervisor and the callers of a reconnecting session

`supervise` and `reconnect` of `src/reconnect.rs`, one atomic step at a time, with any number of
calls of `ReconnectingSession::send` and `terminate` between their steps.

The supervisor is suspended in the `select!` on the current session, in the one on the backoff, and
inside `resume_session` and `start_session`; what those calls return is the environment's.  The
shutdown signal is its flag: `cancelled()` is ready when the flag is up.  A session is known by the
order in which the sessions were opened, and of each there is why it was closed.  Which session a
call of `send` queued its data on, and whether it slept, are observations.
-/

namespace SsmBridge.Supervisor

/-! ## Program counters -/

/-- What the loop of `reconnect` carries from one attempt to the next. -/
structure Retry where
  attempt : UInt32
  ceiling : ℕ
  resumeFrom : Option ℕ
  deriving DecidableEq

/-- Where the supervisor is. -/
inductive SupervisorPc
  /-- At the top of the loop, about to read the current session. -/
  | reading
  /-- About to poll `cancelled()`. -/
  | selecting (session : ℕ)
  /-- About to poll `session.closed()`. -/
  | polling (session : ℕ)
  | waiting (session : ℕ)
  /-- The session is closed; about to read why. -/
  | deciding (session : ℕ)
  /-- At the top of the loop of `reconnect`. -/
  | attempting (retry : Retry)
  /-- About to poll `cancelled()` before the backoff. -/
  | pausing (retry : Retry)
  | sleeping (retry : Retry)
  /-- Inside `resume_session`. -/
  | resuming (retry : Retry)
  /-- Inside `start_session`. -/
  | starting (retry : Retry)
  /-- About to install a session. -/
  | adopting (session : ℕ)
  /-- About to emit `GaveUp`. -/
  | givingUp
  | closingOutput
  /-- About to clear the current session. -/
  | clearing
  /-- Finished after `GaveUp`. -/
  | finished
  /-- Left without giving up. -/
  | returned
  /-- The backoff overflowed. -/
  | panicked
  deriving DecidableEq

/-- Where a call of `terminate` is. -/
inductive TerminatePc
  | entering
  /-- The signal is given; about to take the current session. -/
  | taking
  /-- About to terminate the session it took. -/
  | ending (session : ℕ)
  | closingOutput
  | returned
  deriving DecidableEq

/-- The call has taken the current session. -/
def TerminatePc.hasTaken : TerminatePc → Bool
  | .entering | .taking => false
  | .ending _ | .closingOutput | .returned => true

/-- Where a call of `send` is. -/
inductive SendPc
  /-- At the top of the loop, about to read the current session. -/
  | reading
  /-- About to look whether the session is closed. -/
  | checking (session : ℕ)
  /-- Inside `session.send`. -/
  | sending (session : ℕ)
  /-- About to look at the shutdown signal. -/
  | latching
  /-- About to look at the deadline. -/
  | expiring
  | sleeping
  | returned (result : Except Error Unit)
  deriving DecidableEq

/-- A call of `send`. -/
structure SendCall where
  data : Bytes
  pc : SendPc
  /-- The call began after the reconnecting session had stopped. -/
  late : Bool
  /-- How often the loop was entered. -/
  iterations : ℕ
  /-- The session that the data was queued on. -/
  queued : Option ℕ
  slept : Bool
  deriving DecidableEq

/-! ## State -/

structure Supervised where
  /-- The sessions opened so far: why each was closed. -/
  sessions : List (Option CloseReason)
  /-- The session installed in `current`. -/
  current : Option ℕ
  shutdown : Bool
  outputClosed : Bool
  supervisor : SupervisorPc
  terminates : List TerminatePc
  sends : List SendCall
  deriving DecidableEq

/-- `connect_with`, after the first session was adopted. -/
def Supervised.new : Supervised where
  sessions := [none]
  current := some 0
  shutdown := false
  outputClosed := false
  supervisor := .reading
  terminates := []
  sends := []

namespace Supervised

/-- `session.is_closed()`. -/
def isClosed (σ : Supervised) (i : ℕ) : Bool := (σ.sessions[i]?).any Option.isSome

/-- Close a session; the first reason stays. -/
def closeSession (σ : Supervised) (i : ℕ) (reason : CloseReason) : Supervised :=
  { σ with sessions := σ.sessions.modify i (fun r => some (r.getD reason)) }

/-- `terminate` has returned, or the supervisor has given up and finished. -/
def stopped (σ : Supervised) : Bool :=
  σ.terminates.any (· == .returned) || σ.supervisor == .finished

end Supervised

/-! ## The supervisor -/

/-- Double the ceiling for the next attempt; the product panics when it overflows. -/
def backOff (config : ReconnectConfig) (retry : Retry) : SupervisorPc :=
  if 2 * retry.ceiling ≤ durationMax then
    .attempting { retry with ceiling := min (2 * retry.ceiling) config.maxDelay }
  else .panicked

/-- The steps of `supervise` and `reconnect` that wait for nothing outside. -/
def superviseStep (config : ReconnectConfig) (σ : Supervised) : Option Supervised :=
  match σ.supervisor with
  | .reading =>
      match σ.current with
      | some i => some { σ with supervisor := .selecting i }
      | none => some { σ with supervisor := .returned }
  | .selecting i => some { σ with supervisor := if σ.shutdown then .returned else .polling i }
  | .polling i => some { σ with supervisor := if σ.isClosed i then .deciding i else .waiting i }
  | .waiting i =>
      if σ.shutdown || σ.isClosed i then some { σ with supervisor := .selecting i } else none
  | .deciding i =>
      let reason := ((σ.sessions[i]?).join).getD (.transport "connection lost")
      let retry : Retry :=
        { attempt := 0, ceiling := config.initialDelay
          resumeFrom := if reason.isResumable then some i else none }
      if reason.isRecoverable then some { σ with supervisor := .attempting retry }
      else some { σ with supervisor := .givingUp }
  | .attempting retry =>
      let retry := { retry with attempt := retry.attempt + 1 }
      if config.exhausted retry.attempt then some { σ with supervisor := .givingUp }
      else some { σ with supervisor := .pausing retry }
  | .pausing retry =>
      some { σ with supervisor := if σ.shutdown then .givingUp else .sleeping retry }
  | .sleeping _ => if σ.shutdown then some { σ with supervisor := .givingUp } else none
  | .adopting i => some { σ with current := some i, supervisor := .reading }
  | .givingUp => some { σ with supervisor := .closingOutput }
  | .closingOutput => some { σ with outputClosed := true, supervisor := .clearing }
  | .clearing => some { σ with current := none, supervisor := .finished }
  | .resuming _ | .starting _ | .finished | .returned | .panicked => none

/-- The backoff is over. -/
def sleepEnds (σ : Supervised) : Option Supervised :=
  match σ.supervisor with
  | .sleeping retry =>
      some { σ with supervisor := if retry.resumeFrom.isSome then .resuming retry else .starting retry }
  | _ => none

/-- `resume_session` returns: a session, none, or an error. -/
def resumeReturns (config : ReconnectConfig) (σ : Supervised) (result : Except Error Bool) :
    Option Supervised :=
  match σ.supervisor with
  | .resuming retry =>
      match result with
      | .ok true =>
          some { σ with sessions := σ.sessions ++ [none], supervisor := .adopting σ.sessions.length }
      | .ok false => some { σ with supervisor := .starting { retry with resumeFrom := none } }
      | .error e =>
          if e.isRetriable then some { σ with supervisor := backOff config retry }
          else some { σ with supervisor := .starting { retry with resumeFrom := none } }
  | _ => none

/-- `start_session` returns. -/
def startReturns (config : ReconnectConfig) (σ : Supervised) (result : Except Error Unit) :
    Option Supervised :=
  match σ.supervisor with
  | .starting retry =>
      match result with
      | .ok () =>
          some { σ with sessions := σ.sessions ++ [none], supervisor := .adopting σ.sessions.length }
      | .error e =>
          if e.isRetriable then some { σ with supervisor := backOff config retry }
          else some { σ with supervisor := .givingUp }
  | _ => none

/-! ## The callers -/

/-- The next step of a call of `terminate`. -/
def terminateStep (σ : Supervised) (k : ℕ) : Option Supervised :=
  match σ.terminates[k]? with
  | some .entering => some { σ with shutdown := true, terminates := σ.terminates.set k .taking }
  | some .taking =>
      some { σ with current := none
                    terminates := σ.terminates.set k (match σ.current with
                      | some i => .ending i
                      | none => .closingOutput) }
  | some (.ending i) =>
      some { σ.closeSession i .terminated with terminates := σ.terminates.set k .closingOutput }
  | some .closingOutput =>
      some { σ with outputClosed := true, terminates := σ.terminates.set k .returned }
  | some .returned | none => none

/-- The next step of a call of `send`, by itself: `room` says whether the session's queue has room,
`expired` whether the deadline has passed. -/
def SendCall.step (σ : Supervised) (room expired : Bool) (readyTimeout : ℕ) (call : SendCall) :
    Option SendCall :=
  match call.pc with
  | .reading =>
      some { call with
        iterations := call.iterations + 1
        pc := match σ.current with
          | some i => .checking i
          | none => .latching }
  | .checking i => some { call with pc := if σ.isClosed i then .latching else .sending i }
  | .sending i =>
      if σ.isClosed i then some { call with pc := .latching }
      else if room then some { call with queued := some i, pc := .returned (.ok ()) }
      else none
  | .latching =>
      some { call with
        pc := if σ.shutdown then
            .returned (.error (.sessionClosed "the reconnecting session has stopped"))
          else .expiring }
  | .expiring =>
      some { call with pc := if expired then .returned (.error (.timeout readyTimeout)) else .sleeping }
  | .sleeping => some { call with slept := true, pc := .reading }
  | .returned _ => none

def sendStep (σ : Supervised) (k : ℕ) (room expired : Bool) (readyTimeout : ℕ) :
    Option Supervised :=
  match σ.sends[k]? with
  | some call =>
      (call.step σ room expired readyTimeout).map (fun call =>
        { σ with sends := σ.sends.set k call })
  | none => none

/-! ## Steps -/

inductive Label
  | supervise
  | sleepEnds
  | resumeReturns (result : Except Error Bool)
  | startReturns (result : Except Error Unit)
  /-- A session ends. -/
  | sessionCloses (i : ℕ) (reason : CloseReason)
  /-- Another call of `terminate`. -/
  | terminate
  | terminateStep (k : ℕ)
  /-- Another call of `send`. -/
  | send (data : Bytes)
  | sendStep (k : ℕ) (room expired : Bool)
  deriving DecidableEq

def step (config : ReconnectConfig) (readyTimeout : ℕ) (σ : Supervised) :
    Label → Option Supervised
  | .supervise => superviseStep config σ
  | .sleepEnds => sleepEnds σ
  | .resumeReturns result => resumeReturns config σ result
  | .startReturns result => startReturns config σ result
  | .sessionCloses i reason => some (σ.closeSession i reason)
  | .terminate => some { σ with terminates := σ.terminates ++ [.entering] }
  | .terminateStep k => terminateStep σ k
  | .send data =>
      some { σ with sends := σ.sends ++
        [{ data, pc := .reading, late := σ.stopped, iterations := 0, queued := none, slept := false }] }
  | .sendStep k room expired => sendStep σ k room expired readyTimeout

end SsmBridge.Supervisor
