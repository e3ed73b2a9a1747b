import SsmBridge.Construction.Retry
import SsmBridge.Construction.StreamData

/-!
# The supervisor and what it reports

`supervise` of `src/reconnect.rs` with the events it emits, over any number of session ends.  One
step is the end of the current session, one attempt of `reconnect`, or the return of the supervisor.
What the attempt does is `reconnectRound`; here are the loop around the attempts, the decision
whether to reconnect at all, and the event that closes an outage.

The history of a run is kept by outages: each has the session that ended and why, the argument that
`reconnect` was called with, what every attempt met outside the crate and what it did there, and how
`reconnect` ended.  The events are the ones sent on the broadcast channel, in order.
-/

namespace SsmBridge

/-! ## Texts -/

/-- The `Display` text of a close reason. -/
def CloseReason.display : CloseReason → String
  | .terminated => "terminated by the local application"
  | .agentClosed exitCode detail =>
      "the agent closed the session" ++ (detail.elim "" fun d => s!": {d}") ++
        (exitCode.elim "" fun code => s!" (exit code {code})")
  | .peerUnresponsive idle => s!"no traffic from the agent for {durationDebug idle}"
  | .deliveryFailed sequence attempts =>
      s!"message {sequence} was never acknowledged after {attempts} attempts"
  | .transport e => s!"transport failure: {e}"
  | .protocol e => s!"protocol failure: {e}"

/-- What `reconnect` returns when the attempts are used up. -/
def ReconnectConfig.exhaustedError (config : ReconnectConfig) : Error :=
  .transport s!"gave up reconnecting to {config.target} after {config.maxAttempts} attempts"

/-! ## The history of a run -/

/-- What one attempt met outside the crate, and what it did. -/
structure AttemptRecord where
  attempt : Attempt
  log : List ReconnectStep

/-- The end of a session, and what was done about it. -/
structure Outage where
  session : OpenedSession
  reason : CloseReason
  /-- What `reconnect` was called with, if it was. -/
  called : Option (Option OpenedSession)
  attempts : List AttemptRecord
  /-- How `reconnect` ended, if it has. -/
  result : Option ReconnectResult

/-- The event that a step of `reconnect` emits. -/
def ReconnectStep.emitted : ReconnectStep → Option ReconnectEvent
  | .event e => some e
  | _ => none

/-- The session that a step of `reconnect` installs. -/
def ReconnectStep.adopted : ReconnectStep → Option OpenedSession
  | .adopt session => some session
  | _ => none

namespace Supervision

/-! ## State -/

/-- Where the supervisor is. -/
inductive Phase
  /-- In the `select!` on the current session. -/
  | watching (session : OpenedSession)
  /-- At the top of the loop of `reconnect`, in this outage. -/
  | reconnecting (r : Reconnecting) (outage : Outage)
  /-- Returned without a word. -/
  | left
  /-- Given up. -/
  | finished
  /-- The backoff overflowed. -/
  | panicked

/-- The supervisor at its watch. -/
structure Watch where
  phase : Phase
  /-- The outages that are over. -/
  past : List Outage
  events : List ReconnectEvent

/-- The supervisor of a session that was just opened. -/
def Watch.new (session : OpenedSession) : Watch where
  phase := .watching session
  past := []
  events := []

/-- The outage under way. -/
def Phase.outage : Phase → Option Outage
  | .reconnecting _ o => some o
  | _ => none

/-- All outages so far. -/
def Watch.outages (s : Watch) : List Outage := s.past ++ s.phase.outage.toList

/-! ## Steps -/

inductive Label
  /-- Shutdown is signalled while the session is up, or there is no current session. -/
  | stop
  /-- The current session has ended; this is its close reason. -/
  | closed (reason : Option CloseReason)
  /-- An attempt of `reconnect`. -/
  | attempt (a : Attempt)
  /-- The attempts are used up. -/
  | exhaust

/-- `GaveUp` after `reconnect` returned this error. -/
def giveUp (config : ReconnectConfig) (e : Error) : ReconnectEvent :=
  .gaveUp config.maxAttempts e.display

/-- The session ended: report it, and call `reconnect` if that could help. -/
def sessionClosed (config : ReconnectConfig) (s : Watch) (session : OpenedSession)
    (reason : CloseReason) : Watch :=
  let o : Outage := { session, reason, called := none, attempts := [], result := none }
  if reason.isRecoverable then
    let resumeFrom := if reason.isResumable then some session else none
    { s with
      phase := .reconnecting
        { attempt := 0, ceiling := config.initialDelay, resumeFrom, log := [] }
        { o with called := some resumeFrom }
      events := s.events ++ [.disconnected reason] }
  else
    { phase := .finished
      past := s.past ++ [o]
      events := s.events ++ [.disconnected reason, .gaveUp 0 reason.display] }

/-- What the supervisor does with the result of an attempt. -/
def afterRound (config : ReconnectConfig) (s : Watch) (o : Outage) (a : Attempt) :
    Round → Watch
  | .again r =>
      { s with
        phase := .reconnecting r { o with attempts := o.attempts ++ [⟨a, r.log⟩] }
        events := s.events ++ r.log.filterMap ReconnectStep.emitted }
  | .finished result log =>
      let o : Outage := { o with attempts := o.attempts ++ [⟨a, log⟩], result := some result }
      let s : Watch :=
        { s with past := s.past ++ [o], events := s.events ++ log.filterMap ReconnectStep.emitted }
      match result with
      -- The loop reads the session that was installed; without one it returns.
      | .ok => { s with phase := (log.findSome? ReconnectStep.adopted).elim .left .watching }
      | .err e => { s with phase := .finished, events := s.events ++ [giveUp config e] }
      | .panicked => { s with phase := .panicked }

/-- One step of `supervise`. -/
def step (config : ReconnectConfig) (s : Watch) : Label → Option Watch
  | .stop =>
      match s.phase with
      | .watching _ => some { s with phase := .left }
      | _ => none
  | .closed reason =>
      match s.phase with
      | .watching session =>
          some (sessionClosed config s session (reason.getD (.transport "connection lost")))
      | _ => none
  | .attempt a =>
      match s.phase with
      | .reconnecting r o =>
          -- The log of the attempt starts empty, so that it can be told from the others.
          let r := { r with attempt := r.attempt + 1, log := [] }
          if config.exhausted r.attempt then none
          else some (afterRound config s o a (reconnectRound config a r))
      | _ => none
  | .exhaust =>
      match s.phase with
      | .reconnecting r o =>
          if config.exhausted (r.attempt + 1) then
            some
              { phase := .finished
                past := s.past ++ [{ o with result := some (.err config.exhaustedError) }]
                events := s.events ++ [giveUp config config.exhaustedError] }
          else none
      | _ => none

/-! ## What a step can do -/

/-- The answer to a resume gives the session up for good: it cannot be resumed, or asking again
would not help. -/
def Definite (config : ReconnectConfig) (a : Attempt) (session : OpenedSession) : Prop :=
  resumeSession config a session = .ok none ∨
    ∃ e, resumeSession config a session = .error e ∧ e.isRetriable = false

/-- The calls an attempt makes before it turns to `start_session`. -/
inductive TurnsToStart (config : ReconnectConfig) (a : Attempt) (r : Reconnecting) :
    List ReconnectStep → Prop
  | absent : r.resumeFrom = none → TurnsToStart config a r []
  | refused {session : OpenedSession} : r.resumeFrom = some session → Definite config a session →
      TurnsToStart config a r [.resumeCall session.id]

/-- The event that announces an attempt. -/
def announce (r : Reconnecting) (a : Attempt) : ReconnectStep :=
  .event (.reconnecting r.attempt (jitter r.ceiling a.sample))

/-- What one attempt does, with its log starting empty. -/
inductive RoundSpec (config : ReconnectConfig) (a : Attempt) (r : Reconnecting) : Round → Prop
  | shutdown : a.shutdown = true →
      RoundSpec config a r (.finished
        (.err (.sessionClosed "shutdown requested while reconnecting")) [announce r a])
  | resumed {session : OpenedSession} : r.resumeFrom = some session → a.shutdown = false →
      resumeSession config a session = .ok (some session) →
      RoundSpec config a r (.finished .ok [announce r a, .resumeCall session.id, .adopt session,
        .event (.resumed session.id r.attempt)])
  | resumeLater {session : OpenedSession} {e : Error} : r.resumeFrom = some session →
      a.shutdown = false → resumeSession config a session = .error e → e.isRetriable = true →
      RoundSpec config a r
        (backOff config { r with log := [announce r a, .resumeCall session.id] })
  | started {calls : List ReconnectStep} {session : OpenedSession} : a.shutdown = false →
      TurnsToStart config a r calls → a.startSession = .ok session →
      RoundSpec config a r (.finished .ok (announce r a :: (calls ++
        [.startCall, .adopt session, .event (.reconnected session.id r.attempt)])))
  | startFailed {calls : List ReconnectStep} {e : Error} : a.shutdown = false →
      TurnsToStart config a r calls → a.startSession = .error e → e.isRetriable = false →
      RoundSpec config a r (.finished (.err e) (announce r a :: (calls ++ [.startCall])))
  | startLater {calls : List ReconnectStep} {e : Error} : a.shutdown = false →
      TurnsToStart config a r calls → a.startSession = .error e → e.isRetriable = true →
      RoundSpec config a r (backOff config
        { r with resumeFrom := none, log := announce r a :: (calls ++ [.startCall]) })

section Steps

variable {config : ReconnectConfig} {a : Attempt} {r : Reconnecting} {s s' : Watch} {l : Label}

/-- A session that is resumed is the one that was lost. -/
lemma eq_of_resumeSession {session session' : OpenedSession}
    (h : resumeSession config a session = .ok (some session')) : session' = session := by
  unfold resumeSession at h
  split at h
  · cases h
  · cases h
  · split at h
    · split at h
      · cases h
      · split at h
        · cases h
        · exact (Option.some_inj.mp (Except.ok.inj h)).symm
    · cases h

lemma roundSpec_startRound {calls : List ReconnectStep} (hup : a.shutdown = false)
    (hcalls : TurnsToStart config a r calls) :
    RoundSpec config a r (startRound config a
      { r with resumeFrom := none, log := announce r a :: calls }) := by
  unfold startRound
  cases hstart : a.startSession with
  | ok session =>
    simp only [List.cons_append, List.append_assoc, List.nil_append]
    exact .started hup hcalls hstart
  | error e =>
    dsimp only
    split
    · next he => exact .startLater hup hcalls hstart he
    · next he => exact .startFailed hup hcalls hstart (by simpa using he)

/-- **One attempt.** It resumes the session it was given, or opens a new one when there is none to
resume or the resume was turned down for good, and its log tells which of these it did. -/
theorem roundSpec_reconnectRound (hlog : r.log = []) :
    RoundSpec config a r (reconnectRound config a r) := by
  unfold reconnectRound
  simp only [hlog, List.nil_append]
  split
  · next hshutdown => exact .shutdown hshutdown
  · next hup =>
    have hup : a.shutdown = false := by simpa using hup
    unfold resumeRound
    cases hfrom : r.resumeFrom with
    | none =>
      simpa only [announce, hfrom] using roundSpec_startRound hup (.absent hfrom)
    | some session =>
      simp only [List.cons_append, List.nil_append]
      cases hres : resumeSession config a session with
      | ok resumed =>
        cases resumed with
        | none => exact roundSpec_startRound hup (.refused hfrom (.inl hres))
        | some session' =>
          obtain rfl := eq_of_resumeSession hres
          exact .resumed hfrom hup hres
      | error e =>
        dsimp only
        split
        · next he =>
          simpa only [hfrom, announce] using RoundSpec.resumeLater hfrom hup hres he
        · next he =>
          exact roundSpec_startRound hup (.refused hfrom (.inr ⟨e, hres, by simpa using he⟩))

/-- The loop state with which an attempt begins. -/
def nextAttempt (r : Reconnecting) : Reconnecting := { r with attempt := r.attempt + 1, log := [] }

/-- What a step of the supervisor does. -/
inductive StepSpec (config : ReconnectConfig) (s : Watch) : Label → Watch → Prop
  | stop {session : OpenedSession} : s.phase = .watching session →
      StepSpec config s .stop { s with phase := .left }
  | closed {session : OpenedSession} {reason : Option CloseReason} : s.phase = .watching session →
      StepSpec config s (.closed reason)
        (sessionClosed config s session (reason.getD (.transport "connection lost")))
  | attempt {r : Reconnecting} {o : Outage} {a : Attempt} {round : Round} :
      s.phase = .reconnecting r o → config.exhausted (r.attempt + 1) = false →
      RoundSpec config a (nextAttempt r) round →
      StepSpec config s (.attempt a) (afterRound config s o a round)
  | exhaust {r : Reconnecting} {o : Outage} : s.phase = .reconnecting r o →
      config.exhausted (r.attempt + 1) = true →
      StepSpec config s .exhaust
        { phase := .finished
          past := s.past ++ [{ o with result := some (.err config.exhaustedError) }]
          events := s.events ++ [giveUp config config.exhaustedError] }

theorem stepSpec_of_step (h : step config s l = some s') : StepSpec config s l s' := by
  cases l with
  | stop =>
    simp only [step] at h
    split at h
    · next session hphase =>
      cases h
      exact .stop hphase
    · cases h
  | closed reason =>
    simp only [step] at h
    split at h
    · next session hphase =>
      cases h
      exact .closed hphase
    · cases h
  | attempt a =>
    simp only [step] at h
    split at h
    · next r o hphase =>
      split at h
      · cases h
      · next hlimit =>
        cases h
        exact .attempt hphase (by simpa using hlimit) (roundSpec_reconnectRound rfl)
    · cases h
  | exhaust =>
    simp only [step] at h
    split at h
    · next r o hphase =>
      split at h
      · next hlimit =>
        cases h
        exact .exhaust hphase hlimit
      · cases h
    · cases h

end Steps

end Supervision

end SsmBridge
