import SsmBridge.Construction.Channel
import SsmBridge.Construction.Fanout
import SsmBridge.Construction.Router

/-!
# The multiplexer's tasks

`recv_task`, `send_task` and `keepalive_task` of `src/mux.rs` around the `Inner` of
`Construction.Router`, with the holder of the `SmuxSession`, the holders of the streams and the
session below.  Whatever a task does to `Inner` is one of the steps of `Inner.step`.

A `select!` is polled branch by branch.  The first poll of a `notified()` enqueues the future, and
the task then goes on to its next branch; it is parked once every branch is pending, and from there
it goes on when one of them is ready.  `session.closed()` and the branch polled after it are one
step, since nothing that can come between them is seen by the second.

Of the session there is what the tasks see: why it was closed, `recv_task`'s part of the output
fan-out and the command queue.  Closing the session and closing its fan-out are two steps.
`emitted` and `consumed` are observations.
-/

namespace SsmBridge.Smux

/-! ## Program counters -/

/-- Where `recv_task` is. -/
inductive RecvPc
  /-- About to subscribe to the session's output. -/
  | starting
  /-- At the top of the loop. -/
  | selecting
  /-- Enqueued on `die`; about to poll the output. -/
  | polled (ticket : ℕ)
  | parked (ticket : ℕ)
  /-- In `dispatch`. -/
  | dispatching
  /-- In `route_push`, for this id. -/
  | routing (id : UInt32)
  /-- Out of the loop, about to close the multiplexer. -/
  | leaving (reason : StreamCloseReason)
  | ended
  deriving DecidableEq

/-- Where `send_task` is. -/
inductive SendPc
  /-- At the top of the loop, about to enqueue on `die`. -/
  | enabling
  /-- About to check the latch. -/
  | checking (ticket : ℕ)
  /-- In the first `select!`, about to poll `die`. -/
  | polling (ticket : ℕ)
  /-- About to poll the session and the frame queue. -/
  | waiting (ticket : ℕ)
  | parked (ticket : ℕ)
  /-- Holding a frame; about to poll the `die` of the second `select!` for the first time. -/
  | taken (frame : Frame)
  /-- About to poll `session.send`. -/
  | sending (frame : Frame) (ticket : ℕ)
  /-- Waiting for room in the session's queue. -/
  | stalled (frame : Frame) (ticket : ℕ)
  | leaving
  /-- About to let go of the frame queue. -/
  | returning
  | ended
  deriving DecidableEq

/-- Where `keepalive_task` is. -/
inductive KeepalivePc
  /-- Not configured. -/
  | off
  | selecting
  /-- Enqueued on `die`; about to poll the ticker. -/
  | polled (ticket : ℕ)
  | parked (ticket : ℕ)
  /-- The frame queue refused the NOP; about to check the latch. -/
  | refused
  | ended
  deriving DecidableEq

/-! ## State -/

structure SmuxConfig where
  keepalive : Bool

/-- The multiplexer, its tasks and what they see of the session. -/
structure Mux where
  inner : Inner
  /-- The `SmuxSession` has not been dropped. -/
  alive : Bool
  recv : RecvPc
  /-- The reassembly buffer. -/
  buf : Bytes
  /-- The subscription of `recv_task`. -/
  output : Option OutputStream
  send : SendPc
  keepalive : KeepalivePc
  subscriberCapacity : ℕ
  /-- Why the session was closed, once it was. -/
  sessionReason : Option CloseReason
  fanoutClosed : Bool
  /-- The session's command queue. -/
  commands : List Bytes
  /-- The output of the session. -/
  emitted : List Bytes
  /-- What `recv_task` has taken of it. -/
  consumed : List Bytes
  deriving DecidableEq

/-- `SmuxSession::new`: the tasks are spawned and have not run yet. -/
def Mux.new (config : SmuxConfig) (subscriberCapacity : ℕ) : Mux where
  inner := .new
  alive := true
  recv := .starting
  buf := []
  output := none
  send := .enabling
  keepalive := if config.keepalive then .selecting else .off
  subscriberCapacity := subscriberCapacity
  sessionReason := none
  fanoutClosed := false
  commands := []
  emitted := []
  consumed := []

namespace Mux

/-- A step on the shared state. -/
def act (σ : Mux) (l : Label) : Option Mux := (σ.inner.step l).map (fun inner => { σ with inner })

/-- `session.is_closed()`. -/
def sessionClosed (σ : Mux) : Bool := σ.sessionReason.isSome

/-- The session's queue takes another command. -/
def commandRoom (σ : Mux) : Bool := decide (σ.commands.length < commandQueueDepth)

/-- The output stream has a chunk or has ended. -/
def outputReady (σ : Mux) : Bool := σ.output.any (fun o => !o.attached || !o.queue.isEmpty)

end Mux

/-! ## `recv_task` -/

/-- `session.output()`. -/
def recvSubscribe (σ : Mux) : Mux :=
  { σ with output := some { queue := [], capacity := max σ.subscriberCapacity 1
                            attached := !σ.fanoutClosed, dropped := false, lagged := false }
           recv := .selecting }

/-- The poll of `output.next()`. -/
def recvNext (σ : Mux) (ticket : ℕ) : Option Mux :=
  match σ.output with
  | some o =>
      match o.queue with
      | chunk :: rest =>
          some { σ with output := some { o with queue := rest }, buf := σ.buf ++ chunk
                        consumed := σ.consumed ++ [chunk], recv := .dispatching }
      | [] =>
          if o.attached then some { σ with recv := .parked ticket }
          else some { σ with recv := .leaving (if o.lagged then .desynchronised else .clean) }
  | none => none

/-- One round of the loop of `dispatch`. -/
def recvDispatch (σ : Mux) : Option Mux :=
  match decodeFrame σ.buf with
  | .incomplete => some { σ with recv := .selecting }
  | .corrupt _ => some { σ with buf := [], recv := .leaving .desynchronised }
  | .item f rest =>
      if f.cmd = cmdPsh then
        (σ.act (.routePush f.streamId f.payload)).map (fun τ =>
          { τ with buf := rest, recv := .routing f.streamId })
      else if f.cmd = cmdFin then
        (σ.act (.routeFin f.streamId f.payload)).map (fun τ => { τ with buf := rest })
      else some { σ with buf := rest }

def recvStep (σ : Mux) : Option Mux :=
  match σ.recv with
  | .starting => some (recvSubscribe σ)
  | .selecting =>
      (σ.act .dieEnabled).map (fun τ => { τ with recv := .polled σ.inner.die.enable.1 })
  | .polled t => recvNext σ t
  | .parked t =>
      if σ.inner.die.notified t then some { σ with recv := .leaving .clean }
      else if σ.outputReady then some { σ with recv := .polled t }
      else none
  | .dispatching => recvDispatch σ
  | .routing id =>
      (σ.act (.routeStep id)).map (fun τ =>
        if τ.inner.router = .idle then { τ with recv := .dispatching } else τ)
  | .leaving reason => (σ.act (.close reason)).map (fun τ => { τ with recv := .ended })
  | .ended => none

/-! ## `send_task` -/

/-- The poll of the session and of the frame queue. -/
def sendReceive (σ : Mux) (ticket : ℕ) : Option Mux :=
  if σ.sessionClosed then some { σ with send := .leaving }
  else
    match σ.inner.frames with
    | frame :: _ => (σ.act .frameTaken).map (fun τ => { τ with send := .taken frame })
    | [] => some { σ with send := .parked ticket }

/-- The poll of `session.send`. -/
def sendFrame (σ : Mux) (frame : Frame) (ticket : ℕ) : Mux :=
  if σ.sessionClosed then { σ with send := .leaving }
  else if σ.commandRoom then
    { σ with commands := σ.commands ++ [frame.encode], send := .enabling }
  else { σ with send := .stalled frame ticket }

def sendStep (σ : Mux) : Option Mux :=
  match σ.send with
  | .enabling =>
      (σ.act .dieEnabled).map (fun τ => { τ with send := .checking σ.inner.die.enable.1 })
  | .checking t => some { σ with send := if σ.inner.closed then .leaving else .polling t }
  | .polling t =>
      some { σ with send := if σ.inner.die.notified t then .leaving else .waiting t }
  | .waiting t => sendReceive σ t
  | .parked t =>
      if σ.inner.die.notified t || σ.sessionClosed || !σ.inner.frames.isEmpty then
        some { σ with send := .polling t }
      else none
  | .taken frame =>
      (σ.act .dieEnabled).map (fun τ => { τ with send := .sending frame σ.inner.die.enable.1 })
  | .sending frame t => some (sendFrame σ frame t)
  | .stalled frame t =>
      if σ.inner.die.notified t then some { σ with send := .leaving }
      else if σ.sessionClosed || σ.commandRoom then some { σ with send := .sending frame t }
      else none
  | .leaving => (σ.act (.close .clean)).map (fun τ => { τ with send := .returning })
  | .returning => (σ.act .framesDropped).map (fun τ => { τ with send := .ended })
  | .ended => none

/-! ## `keepalive_task` -/

/-- The tick: queue a NOP. -/
def keepaliveTick (σ : Mux) : Option Mux :=
  (σ.act .keepAlive).map (fun τ =>
    { τ with keepalive := if σ.inner.framesRoom then .selecting else .refused })

/-- A step of `keepalive_task`; `elapsed` says whether a tick is due. -/
def keepaliveStep (σ : Mux) (elapsed : Bool) : Option Mux :=
  match σ.keepalive with
  | .selecting =>
      (σ.act .dieEnabled).map (fun τ => { τ with keepalive := .polled σ.inner.die.enable.1 })
  | .polled t => if elapsed then keepaliveTick σ else some { σ with keepalive := .parked t }
  | .parked t =>
      if σ.inner.die.notified t then some { σ with keepalive := .ended }
      else if elapsed then keepaliveTick σ
      else none
  | .refused => some { σ with keepalive := if σ.inner.closed then .ended else .selecting }
  | .off | .ended => none

/-! ## The callers and the session -/

/-- A call of `open_stream` is under way. -/
def StreamPhase.opening : StreamPhase → Bool
  | .numbered | .registered | .refused => true
  | _ => false

/-- `Drop for SmuxSession`; `open_stream` borrows the session, so no call of it is under way. -/
def dropSession (σ : Mux) : Option Mux :=
  if σ.alive && σ.inner.admitted == 0 && σ.inner.streams.all (fun st => !st.phase.opening) then
    (σ.act (.close .clean)).map (fun τ => { τ with alive := false })
  else none

/-- The steps that the holders of the session and of the streams take. -/
def Label.byCaller : Label → Bool
  | .openAdmit | .openNumber | .openRegister _ | .openReturn _ | .openRefuse _ | .openWithdraw _
  | .pollRead _ _ | .pollThrottled _ | .pollClosed _ | .pollWrite _ _ | .pollShutdown _
  | .dropStream _ | .dropRemove _ | .dropRelease _ => true
  | .routePush _ _ | .routeStep _ | .routeFin _ _ | .close _ | .closeStep | .closeSweep _
  | .frameTaken | .framesDropped | .keepAlive | .dieEnabled => false

/-- A step of a caller; only a session that was not dropped opens streams. -/
def callerStep (σ : Mux) (l : Label) : Option Mux :=
  if l.byCaller && (σ.alive || l != .openAdmit) then σ.act l else none

/-- The session's output reaches `recv_task`, if it has subscribed. -/
def emit (σ : Mux) (chunk : Bytes) : Option Mux :=
  if σ.fanoutClosed then none
  else some { σ with emitted := σ.emitted ++ [chunk], output := σ.output.map (.offer chunk) }

/-- The session is closed; the first reason stays. -/
def sessionClose (σ : Mux) (reason : CloseReason) : Mux :=
  { σ with sessionReason := some (σ.sessionReason.getD reason) }

/-- A closed session closes its fan-out. -/
def fanoutClose (σ : Mux) : Option Mux :=
  if σ.sessionClosed then
    some { σ with fanoutClosed := true
                  output := σ.output.map (fun o => { o with attached := false }) }
  else none

/-! ## Steps -/

inductive MuxLabel
  | caller (l : Label)
  | dropSession
  /-- The call of `close` that raised the flag goes on. -/
  | closeStep
  /-- That call tags a stream. -/
  | closeSweep (i : ℕ)
  | recv
  | send
  | keepalive (elapsed : Bool)
  | emit (chunk : Bytes)
  | sessionClose (reason : CloseReason)
  | fanoutClose
  /-- Another user of the session queues a command. -/
  | command (data : Bytes)
  /-- The session takes a command off its queue. -/
  | commandTaken
  deriving DecidableEq

def Mux.step (σ : Mux) : MuxLabel → Option Mux
  | .caller l => callerStep σ l
  | .dropSession => Smux.dropSession σ
  | .closeStep => σ.act .closeStep
  | .closeSweep i => σ.act (.closeSweep i)
  | .recv => recvStep σ
  | .send => sendStep σ
  | .keepalive elapsed => keepaliveStep σ elapsed
  | .emit chunk => Smux.emit σ chunk
  | .sessionClose reason => some (Smux.sessionClose σ reason)
  | .fanoutClose => Smux.fanoutClose σ
  | .command data =>
      if σ.commandRoom then some { σ with commands := σ.commands ++ [data] } else none
  | .commandTaken =>
      match σ.commands with
      | _ :: rest => some { σ with commands := rest }
      | [] => none

end SsmBridge.Smux
