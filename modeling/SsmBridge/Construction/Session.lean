import SsmBridge.Construction.Fanout
import Mathlib.Data.Int.Notation

/-!
# The state a session shares with its tasks

The model of `CloseReason` and `SessionCore` in `src/session.rs`.

`SessionCore::close` swaps the closed flag, stores the reason, closes the fan-out and wakes the
waiters; here it is one step, so that the flag and the reason are one field: the core is closed
when it has a reason.
-/

namespace SsmBridge

/-- Why a session ended. -/
inductive CloseReason
  | terminated
  | agentClosed (exitCode : Option ℤ) (detail : Option String)
  /-- Silent for this many nanoseconds. -/
  | peerUnresponsive (idle : ℕ)
  | deliveryFailed (sequence : Int64) (attempts : ℕ)
  | transport (message : String)
  | protocol (message : String)
  deriving DecidableEq

namespace CloseReason

/-- Whether the session ended for a reason a reconnect could plausibly fix. -/
def isRecoverable : CloseReason → Bool
  | .peerUnresponsive _ | .deliveryFailed _ _ | .transport _ => true
  | _ => false

/-- Whether a reconnect should resume this session rather than replace it. -/
def isResumable : CloseReason → Bool
  | .peerUnresponsive _ | .transport _ => true
  | _ => false

end CloseReason

/-- State shared between a session handle and the tasks driving its channel. -/
structure SessionCore where
  fanout : OutputFanout
  subscriberCapacity : ℕ
  /-- Set once the agent will accept data; cleared by `pause_publication`. -/
  sendable : Bool
  closeReason : Option CloseReason
  agentVersion : Option String
  banner : Option String
  exitCode : Option ℤ
  deriving DecidableEq

namespace SessionCore

/-- The core of a channel that was just opened. -/
def new (subscriberCapacity : ℕ) : SessionCore where
  fanout := OutputFanout.new
  subscriberCapacity := subscriberCapacity
  sendable := false
  closeReason := none
  agentVersion := none
  banner := none
  exitCode := none

/-- Whether the session has ended. -/
def isClosed (core : SessionCore) : Bool := core.closeReason.isSome

/-- The session has ended, for a reason a resume answers. -/
def closedResumably (core : SessionCore) : Bool :=
  core.closeReason.any CloseReason.isResumable

/-- End the session, recording why; only the first caller's reason is kept. -/
def close (core : SessionCore) (reason : CloseReason) : SessionCore :=
  match core.closeReason with
  | some _ => core
  | none => { core with closeReason := some reason, fanout := core.fanout.close }

/-- Open or close the send gate. -/
def setSendable (core : SessionCore) (sendable : Bool) : SessionCore := { core with sendable }

/-- Hand a payload to every subscriber. -/
def emitOutput (core : SessionCore) (data : Bytes) : SessionCore :=
  { core with fanout := core.fanout.send data }

/-- Note the agent's version; the first one stays. -/
def setAgentVersion (core : SessionCore) (version : Option String) : SessionCore :=
  { core with agentVersion := core.agentVersion <|> version }

/-- Note the operator message. -/
def setSessionBanner (core : SessionCore) (banner : Option String) : SessionCore :=
  { core with banner }

/-- Note the exit status, if there is one. -/
def setExitCode (core : SessionCore) (code : Option ℤ) : SessionCore :=
  if code.isSome then { core with exitCode := code } else core

end SessionCore

end SsmBridge
