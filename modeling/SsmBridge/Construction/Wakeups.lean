import SsmBridge.Construction.Session
import SsmBridge.Construction.Ack
import SsmBridge.Framework.Machine
import SsmBridge.Framework.Notify

/-!
# `SessionCore` and `ShutdownSignal`, one atomic step at a time

`Construction.Session` takes `SessionCore::close` as one step.  Here the flags, the reason and the
notifications are set one after the other, in the order of the source, and any other task can come
in between: the observers of a close (`closed`, `is_closed`, and `close_reason` afterwards), the
callers of `wait_sendable`, the senders that wait for room in the outgoing buffer, and the callers
of `ShutdownSignal::cancelled`.  There may be any number of each.

A call of `close` begins with the swap of the flag, and one that loses it returns at once; so the
calls that have not swapped yet need no state, and the one that won is `closing`.  The same goes
for `shutdown`.  Several calls of `set_sendable(true)` can be between their swap and their
notification; each is known by the generation of the flag that its swap began.
-/

namespace SsmBridge.Wakeups

/-! ## Program counters -/

/-- Where the call of `close` that won has got to. -/
inductive ClosePc
  /-- No call has swapped the flag. -/
  | idle
  | storing (reason : CloseReason)
  | closingFanout (reason : CloseReason)
  | notifyingClosed (reason : CloseReason)
  | notifyingSendable (reason : CloseReason)
  | notifyingAck (reason : CloseReason)
  | completed (reason : CloseReason)
  deriving DecidableEq

/-- The reason the winning call was given. -/
def ClosePc.reason : ClosePc → Option CloseReason
  | .idle => none
  | .storing r | .closingFanout r | .notifyingClosed r | .notifyingSendable r | .notifyingAck r
  | .completed r => some r

/-- Where the call of `shutdown` that won has got to. -/
inductive ShutdownPc
  | idle
  | notifying
  | completed
  deriving DecidableEq

/-- How an observer learns of a close. -/
inductive Via
  /-- `closed().await`. -/
  | closed
  /-- `is_closed()`. -/
  | isClosed
  deriving DecidableEq

/-- An observer of a close. -/
inductive ObserverPc
  /-- In `closed()`, about to enqueue its future. -/
  | entering
  /-- Enqueued; about to read the flag. -/
  | enabled (ticket : ℕ)
  | parked (ticket : ℕ)
  /-- In `is_closed()`, about to read the flag. -/
  | polling
  /-- `is_closed()` returned false. -/
  | declined
  /-- `closed()` has resolved, or `is_closed()` returned true. -/
  | resolved
  /-- `close_reason()` returned this afterwards. -/
  | answered (reason : Option CloseReason)
  deriving DecidableEq

/-- A caller of `wait_sendable`. -/
inductive GatePc
  | entering
  | enabled (ticket : ℕ)
  /-- `is_sendable()` returned false; about to read the closed flag. -/
  | unsendable (ticket : ℕ)
  | parked (ticket : ℕ)
  | resolved
  deriving DecidableEq

/-- A caller of `ShutdownSignal::cancelled`. -/
inductive CancelPc
  | entering
  | enabled (ticket : ℕ)
  | parked (ticket : ℕ)
  | resolved
  deriving DecidableEq

/-- A sender in the loop of `send_payload` that waits for room.  After a failed `track` it carries
whether `notify_ack` ran since. -/
inductive RoomPc
  | entering
  /-- Enqueued for an acknowledgement; about to `track`. -/
  | enabled (ticket : ℕ)
  /-- `track` failed; about to enqueue in `closed()`. -/
  | full (ticket : ℕ) (acked : Bool)
  /-- Enqueued for a close too; about to read the flag. -/
  | registered (ticket close : ℕ) (acked : Bool)
  | parked (ticket close : ℕ) (acked : Bool)
  | tracked
  | gaveUp
  deriving DecidableEq

/-- `notify_ack` ran. -/
def RoomPc.noteAck : RoomPc → RoomPc
  | .full t _ => .full t true
  | .registered t u _ => .registered t u true
  | .parked t u _ => .parked t u true
  | pc => pc

/-! ## State -/

/-- A session core and a shutdown signal, with the tasks that use them. -/
structure Core where
  closed : Bool
  reason : Option CloseReason
  fanoutClosed : Bool
  closing : ClosePc
  closedNotify : Notify
  sendable : Bool
  /-- How often the flag was raised. -/
  generation : ℕ
  /-- The raises whose notification is still to come. -/
  notifying : List ℕ
  sendableNotify : Notify
  outgoing : OutgoingBuffer
  /-- Acknowledgements that removed an entry and are about to `notify_ack`. -/
  acking : ℕ
  ackNotify : Notify
  triggered : Bool
  shutdown : ShutdownPc
  shutdownNotify : Notify
  observers : List ObserverPc
  gates : List GatePc
  senders : List RoomPc
  cancels : List CancelPc
  deriving DecidableEq

/-- A core that was just made, on an outgoing buffer that may hold something already. -/
def Core.new (outgoing : OutgoingBuffer) : Core where
  closed := false
  reason := none
  fanoutClosed := false
  closing := .idle
  closedNotify := Notify.new
  sendable := false
  generation := 0
  notifying := []
  sendableNotify := Notify.new
  outgoing := outgoing
  acking := 0
  ackNotify := Notify.new
  triggered := false
  shutdown := .idle
  shutdownNotify := Notify.new
  observers := []
  gates := []
  senders := []
  cancels := []

/-! ## The signalling side -/

/-- `close`: swap the flag. -/
def close (s : Core) (reason : CloseReason) : Core :=
  if s.closed then s else { s with closed := true, closing := .storing reason }

/-- The next step of the call of `close` that won. -/
def closeStep (s : Core) : Option Core :=
  match s.closing with
  | .storing r => some { s with reason := some r, closing := .closingFanout r }
  | .closingFanout r => some { s with fanoutClosed := true, closing := .notifyingClosed r }
  | .notifyingClosed r =>
      some { s with closedNotify := s.closedNotify.notifyWaiters, closing := .notifyingSendable r }
  | .notifyingSendable r =>
      some { s with sendableNotify := s.sendableNotify.notifyWaiters, closing := .notifyingAck r }
  | .notifyingAck r =>
      some { s with ackNotify := s.ackNotify.notifyWaiters, closing := .completed r }
  | .idle | .completed _ => none

/-- `set_sendable`: swap the flag; a raise is to be notified. -/
def setSendable (s : Core) (sendable : Bool) : Core :=
  if sendable && !s.sendable then
    { s with sendable, generation := s.generation + 1
             notifying := (s.generation + 1) :: s.notifying }
  else { s with sendable }

/-- The notification of one raise. -/
def notifySendable (s : Core) (generation : ℕ) : Option Core :=
  if generation ∈ s.notifying then
    some { s with notifying := s.notifying.filter (· ≠ generation)
                  sendableNotify := s.sendableNotify.notifyWaiters }
  else none

/-- An acknowledgement arrives; one that removes an entry goes on to `notify_ack`. -/
def acknowledge (s : Core) (now : ℕ) (sequence : Int64) : Core :=
  match s.outgoing.acknowledge now sequence with
  | (true, outgoing) => { s with outgoing, acking := s.acking + 1 }
  | (false, outgoing) => { s with outgoing }

def notifyAck (s : Core) : Option Core :=
  match s.acking with
  | 0 => none
  | acking + 1 =>
      some { s with acking, ackNotify := s.ackNotify.notifyWaiters
                    senders := s.senders.map RoomPc.noteAck }

/-- `ShutdownSignal::shutdown`: swap the flag. -/
def beginShutdown (s : Core) : Core :=
  if s.triggered then s else { s with triggered := true, shutdown := .notifying }

def notifyShutdown (s : Core) : Option Core :=
  match s.shutdown with
  | .notifying =>
      some { s with shutdownNotify := s.shutdownNotify.notifyWaiters, shutdown := .completed }
  | _ => none

/-! ## The waiting side -/

/-- The next step of an observer. -/
def observerStep (s : Core) (i : ℕ) : Option Core :=
  match s.observers[i]? with
  | some .entering =>
      some { s with closedNotify := s.closedNotify.enable.2
                    observers := s.observers.set i (.enabled s.closedNotify.enable.1) }
  | some (.enabled t) =>
      some { s with observers := s.observers.set i (if s.closed then .resolved else .parked t) }
  | some (.parked t) =>
      if s.closedNotify.notified t then some { s with observers := s.observers.set i .resolved }
      else none
  | some .polling =>
      some { s with observers := s.observers.set i (if s.closed then .resolved else .declined) }
  | some .resolved | some (.answered _) =>
      some { s with observers := s.observers.set i (.answered s.reason) }
  | some .declined | none => none

/-- The next step of a caller of `wait_sendable`. -/
def gateStep (s : Core) (i : ℕ) : Option Core :=
  match s.gates[i]? with
  | some .entering =>
      some { s with sendableNotify := s.sendableNotify.enable.2
                    gates := s.gates.set i (.enabled s.sendableNotify.enable.1) }
  | some (.enabled t) =>
      some { s with gates := s.gates.set i (if s.sendable then .resolved else .unsendable t) }
  | some (.unsendable t) =>
      some { s with gates := s.gates.set i (if s.closed then .resolved else .parked t) }
  | some (.parked t) =>
      if s.sendableNotify.notified t then some { s with gates := s.gates.set i .entering }
      else none
  | some .resolved | none => none

/-- The next step of a caller of `cancelled`. -/
def cancelStep (s : Core) (i : ℕ) : Option Core :=
  match s.cancels[i]? with
  | some .entering =>
      some { s with shutdownNotify := s.shutdownNotify.enable.2
                    cancels := s.cancels.set i (.enabled s.shutdownNotify.enable.1) }
  | some (.enabled t) =>
      some { s with cancels := s.cancels.set i (if s.triggered then .resolved else .parked t) }
  | some (.parked t) =>
      if s.shutdownNotify.notified t then some { s with cancels := s.cancels.set i .resolved }
      else none
  | some .resolved | none => none

/-- The next step of a sender that is not parked. -/
def senderStep (s : Core) (i now : ℕ) (wire : Bytes) (sequence : Int64) : Option Core :=
  match s.senders[i]? with
  | some .entering =>
      some { s with ackNotify := s.ackNotify.enable.2
                    senders := s.senders.set i (.enabled s.ackNotify.enable.1) }
  | some (.enabled t) =>
      match s.outgoing.track now wire sequence with
      | (true, outgoing) => some { s with outgoing, senders := s.senders.set i .tracked }
      | (false, outgoing) => some { s with outgoing, senders := s.senders.set i (.full t false) }
  | some (.full t acked) =>
      some { s with
        closedNotify := s.closedNotify.enable.2
        senders := s.senders.set i (.registered t s.closedNotify.enable.1 acked) }
  | some (.registered t u acked) =>
      some { s with senders := s.senders.set i (if s.closed then .gaveUp else .parked t u acked) }
  | _ => none

/-- A parked sender was woken by an acknowledgement, or by the last step of a close. -/
def senderRetry (s : Core) (i : ℕ) : Option Core :=
  match s.senders[i]? with
  | some (.parked t _ _) =>
      if s.ackNotify.notified t then some { s with senders := s.senders.set i .entering }
      else none
  | _ => none

/-- A parked sender was woken by a close. -/
def senderGiveUp (s : Core) (i : ℕ) : Option Core :=
  match s.senders[i]? with
  | some (.parked _ u _) =>
      if s.closedNotify.notified u then some { s with senders := s.senders.set i .gaveUp }
      else none
  | _ => none

/-! ## The machine -/

/-- An atomic step. -/
inductive Label
  | close (reason : CloseReason)
  | closeStep
  | setSendable (sendable : Bool)
  | notifySendable (generation : ℕ)
  | acknowledge (now : ℕ) (sequence : Int64)
  | notifyAck
  | shutdown
  | notifyShutdown
  /-- Another observer. -/
  | observe (via : Via)
  | observerStep (i : ℕ)
  /-- Another caller of `wait_sendable`. -/
  | waitSendable
  | gateStep (i : ℕ)
  /-- Another caller of `cancelled`. -/
  | cancelled
  | cancelStep (i : ℕ)
  /-- Another sender. -/
  | send
  | senderStep (i now : ℕ) (wire : Bytes) (sequence : Int64)
  | senderRetry (i : ℕ)
  | senderGiveUp (i : ℕ)

/-- Perform an atomic step. -/
def step (s : Core) : Label → Option Core
  | .close reason => some (close s reason)
  | .closeStep => closeStep s
  | .setSendable sendable => some (setSendable s sendable)
  | .notifySendable generation => notifySendable s generation
  | .acknowledge now sequence => some (acknowledge s now sequence)
  | .notifyAck => notifyAck s
  | .shutdown => some (beginShutdown s)
  | .notifyShutdown => notifyShutdown s
  | .observe .closed => some { s with observers := s.observers ++ [.entering] }
  | .observe .isClosed => some { s with observers := s.observers ++ [.polling] }
  | .observerStep i => observerStep s i
  | .waitSendable => some { s with gates := s.gates ++ [.entering] }
  | .gateStep i => gateStep s i
  | .cancelled => some { s with cancels := s.cancels ++ [.entering] }
  | .cancelStep i => cancelStep s i
  | .send => some { s with senders := s.senders ++ [.entering] }
  | .senderStep i now wire sequence => senderStep s i now wire sequence
  | .senderRetry i => senderRetry s i
  | .senderGiveUp i => senderGiveUp s i

/-- What `supervise` makes of the reason it reads after the session was closed. -/
def superviseReason (reason : Option CloseReason) : CloseReason :=
  reason.getD (.transport "connection lost")

end SsmBridge.Wakeups
