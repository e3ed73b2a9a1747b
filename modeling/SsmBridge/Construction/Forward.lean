import SsmBridge.Construction.Documents
import SsmBridge.Construction.MuxTasks
import SsmBridge.Construction.Supervision
import SsmBridge.Framework.CopyLoop

/-!
# Forwarding local connections

The model of `src/port_forward.rs` on top of the multiplexer of `Construction.MuxTasks`: the task
that runs `forward`, and one task for each connection it has accepted.  `forward_connection` opens a
stream and copies in both directions at once; a copy is a loop of `Framework.CopyLoop`, with the
buffer of `tokio::io::copy`.  What the listener and the TCP sockets do is up to the labels.

Whatever a connection does to its stream is a step of `Mux.step`.  How far `open_stream` and the
drop of the stream have got shows in the stream, so that a connection keeps only the index of it.

`ShutdownSignal::shutdown` and the close of the session are one step each; `select!` is biased, so
that the accept loop takes no connection once one of them has been seen.  A poll of a connection
that is under way goes on when the signal is raised.  Output of the session reaches nobody before
`recv_task` has subscribed.

`refused`, `queued` and `handed` are observations: the connections turned away, the frames put on
the outbound queue, and what `send_task` has handed to the session.
-/

namespace SsmBridge.Smux.Forward

open CopyLoop Machine

/-! ## State -/

/-- The buffer of `tokio::io::copy`. -/
def copyBufSize : ℕ := 8 * 1024

structure PortForwardConfig where
  /-- Maximum simultaneous forwarded connections. -/
  maxConnections : ℕ
  /-- Send smux keep-alive frames. -/
  keepalive : Bool

/-- Where the task of an accepted connection is. -/
inductive ConnectionPc
  /-- About to call `open_stream`. -/
  | accepted
  /-- `open_stream` found the multiplexer open; about to draw an id. -/
  | admitted
  /-- From the drawing of the id to the end of the drop. -/
  | streaming (i : ℕ)
  /-- `forward_connection` has returned. -/
  | ended (stream : Option ℕ)
  deriving DecidableEq

/-- An accepted connection. -/
structure Connection where
  pc : ConnectionPc
  /-- From the local client to the stream. -/
  outbound : Copy UInt8
  /-- From the stream to the local client. -/
  inbound : Copy UInt8
  deriving DecidableEq

namespace Connection

def new : Connection where
  pc := .accepted
  outbound := .new
  inbound := .new

/-- The stream whose id was drawn for the connection. -/
def stream? (c : Connection) : Option ℕ :=
  match c.pc with
  | .accepted | .admitted => none
  | .streaming i => some i
  | .ended stream => stream

/-- `forward_connection` has returned, and the permit is back. -/
def isEnded (c : Connection) : Bool :=
  match c.pc with
  | .ended _ => true
  | _ => false

/-- The stream the connection copies to and from. -/
def held (c : Connection) (σ : Inner) : Option ℕ :=
  match c.pc with
  | .streaming i => if (σ.streams[i]?).any (fun st => st.phase == .held) then some i else none
  | _ => none

end Connection

/-- Where `forward` is. -/
inductive ForwardPc
  /-- About to look at the session's type. -/
  | starting
  /-- Waiting for the session to become ready. -/
  | waiting
  /-- `wait_ready` was woken; about to look at the gate. -/
  | resolved
  /-- In the accept loop. -/
  | accepting
  | returned (result : Except Error Unit)
  deriving DecidableEq

/-- The forwarder, its connections and the multiplexer they share. -/
structure PortForwarder where
  sessionType : SessionType
  readyTimeout : ℕ
  maxConnections : ℕ
  pc : ForwardPc
  /-- The session's send gate. -/
  sendable : Bool
  shutdown : Bool
  mux : Mux
  /-- `SmuxSession::new` was called. -/
  created : Bool
  permits : ℕ
  connections : List Connection
  refused : ℕ
  queued : List Frame
  handed : List Bytes
  deriving DecidableEq

/-- A bound forwarder and the session it is about to be given. -/
def PortForwarder.new (config : PortForwardConfig) (sessionType : SessionType)
    (readyTimeout subscriberCapacity : ℕ) : PortForwarder where
  sessionType := sessionType
  readyTimeout := readyTimeout
  maxConnections := config.maxConnections
  pc := .starting
  sendable := false
  shutdown := false
  mux := .new ⟨config.keepalive⟩ subscriberCapacity
  created := false
  permits := config.maxConnections
  connections := []
  refused := 0
  queued := []
  handed := []

/-! ## Calls on a stream -/

/-- What `poll_read` returns. -/
inductive ReadResult
  | pending
  /-- These bytes, none at the end of the stream. -/
  | ready (chunk : Bytes)

/-- The result of `poll_read` with room for `size` bytes; one that is still pending goes on to look
at the close flag. -/
def readResult (σ : Inner) (i size : ℕ) : Option ReadResult :=
  match σ.streams[i]? with
  | some st =>
      if st.phase ≠ .held ∨ st.polling = true then none
      else if st.readClosed then some (.ready [])
      else
        match st.remainder, st.queue with
        | some chunk, _ => some (.ready (chunk.take size))
        | none, chunk :: _ => some (.ready (chunk.take size))
        | none, [] => some (if σ.senderAlive i st then .pending else .ready [])
  | none => none

/-- `poll_shutdown` is ready: FIN is queued, or there is nobody to queue it for. -/
def shutdownReady (σ : Inner) (i : ℕ) : Bool :=
  (σ.streams[i]?).any (fun st => st.writeClosed) || !σ.framesOpen || σ.framesRoom

/-! ## A connection -/

/-- What a step of a connection does: a step on the multiplexer, and the connection afterwards. -/
structure Act where
  call : Option Label
  next : Connection

inductive ConnectionLabel
  /-- `open_stream`, or the drop of the stream, goes on. -/
  | advance
  /-- The `select!` is over: both copies are, or shutdown was requested. -/
  | leave
  /-- The local client has sent a piece. -/
  | receive (piece : Bytes)
  /-- The local client has closed its direction. -/
  | clientEnds
  /-- The local client cannot be read from. -/
  | receiveFails
  /-- The outbound copy writes to the stream. -/
  | write
  /-- The outbound copy is through; it goes on to half-close the stream. -/
  | windOutbound
  | shutdownStream
  /-- The inbound copy reads from the stream. -/
  | read
  /-- A read that got nothing looks at the close flag. -/
  | readClosed
  /-- A read is turned away because the task has used up its budget. -/
  | throttled
  /-- The local client takes `n` bytes. -/
  | deliver (n : ℕ)
  /-- The local client cannot be written to. -/
  | deliverFails
  /-- The inbound copy is through; it goes on to half-close the connection. -/
  | windInbound
  | shutdownClient
  deriving DecidableEq

namespace Connection

variable (c : Connection) (σ : Inner)

/-- `forward_connection` before and after the copies. -/
def advance : Option Act :=
  match c.pc with
  | .accepted =>
      some (if σ.closed then ⟨none, { c with pc := .ended none }⟩
        else ⟨some .openAdmit, { c with pc := .admitted }⟩)
  | .admitted => some ⟨some .openNumber, { c with pc := .streaming σ.streams.length }⟩
  | .streaming i =>
      match σ.streams[i]? with
      | some st =>
          match st.phase with
          | .numbered => some ⟨some (.openRegister i), c⟩
          | .registered => some ⟨some (if σ.framesRoom then .openReturn i else .openRefuse i), c⟩
          | .refused => some ⟨some (.openWithdraw i), c⟩
          | .held => none
          | .dropping => some ⟨some (.dropRemove i), c⟩
          | .removed => some ⟨some (.dropRelease i), c⟩
          | .failed | .dropped => some ⟨none, { c with pc := .ended (some i) }⟩
      | none => none
  | .ended _ => none

/-- The end of the `select!`. -/
def leave (shutdown : Bool) (i : ℕ) : Option Act :=
  if shutdown || (c.outbound.isDone && c.inbound.isDone) then some ⟨some (.dropStream i), c⟩ else none

/-- The outbound copy offers what it holds to `poll_write`. -/
def write (i : ℕ) : Option Act :=
  let call : Option Label := some (.pollWrite i c.outbound.held)
  if c.outbound.stage = .copying ∧ c.outbound.held ≠ [] then
    match writeResult σ i c.outbound.held with
    | some .pending => some ⟨call, c⟩
    | some (.written n) =>
        (c.outbound.drain n).map (fun outbound => ⟨call, { c with outbound }⟩)
    | some (.failed _) => c.outbound.fail.map (fun outbound => ⟨call, { c with outbound }⟩)
    | none => none
  else none

/-- The outbound copy is done and shuts its sink down. -/
def shutdownStream (i : ℕ) : Option Act :=
  if c.outbound.stage = .closing then
    if shutdownReady σ i then
      c.outbound.shut.map (fun outbound => ⟨some (.pollShutdown i), { c with outbound }⟩)
    else some ⟨some (.pollShutdown i), c⟩
  else none

/-- The inbound copy reads as much as fits into its buffer. -/
def read (i : ℕ) : Option Act :=
  let size := c.inbound.room copyBufSize
  if c.inbound.reads copyBufSize then
    match readResult σ i size with
    | some .pending => some ⟨some (.pollRead i size), c⟩
    | some (.ready chunk) =>
        (c.inbound.receive copyBufSize chunk).map (fun inbound =>
          ⟨some (.pollRead i size), { c with inbound }⟩)
    | none => none
  else none

/-- The end of a read that got nothing. -/
def readClosed (i : ℕ) : Option Act :=
  if σ.closed then
    (c.inbound.sourceEnd copyBufSize).map (fun inbound =>
      ⟨some (.pollClosed i), { c with inbound }⟩)
  else some ⟨some (.pollClosed i), c⟩

/-- A step of one of the two copies, or the end of both. -/
def copy (shutdown : Bool) (i : ℕ) : ConnectionLabel → Option Act
  | .advance => none
  | .leave => c.leave shutdown i
  | .receive piece =>
      (c.outbound.fill copyBufSize piece).map (fun outbound => ⟨none, { c with outbound }⟩)
  | .clientEnds =>
      (c.outbound.sourceEnd copyBufSize).map (fun outbound => ⟨none, { c with outbound }⟩)
  | .receiveFails =>
      if c.outbound.reads copyBufSize then
        c.outbound.fail.map (fun outbound => ⟨none, { c with outbound }⟩)
      else none
  | .write => c.write σ i
  | .windOutbound => c.outbound.wind.map (fun outbound => ⟨none, { c with outbound }⟩)
  | .shutdownStream => c.shutdownStream σ i
  | .read => c.read σ i
  | .readClosed => c.readClosed σ i
  | .throttled =>
      if c.inbound.reads copyBufSize then some ⟨some (.pollThrottled i), c⟩ else none
  | .deliver n => (c.inbound.drain n).map (fun inbound => ⟨none, { c with inbound }⟩)
  | .deliverFails =>
      if c.inbound.held ≠ [] ∨ c.inbound.stage = .closing then
        c.inbound.fail.map (fun inbound => ⟨none, { c with inbound }⟩)
      else none
  | .windInbound => c.inbound.wind.map (fun inbound => ⟨none, { c with inbound }⟩)
  | .shutdownClient => c.inbound.shut.map (fun inbound => ⟨none, { c with inbound }⟩)

/-- A read of the stream is under way. -/
def reading (i : ℕ) : Bool := (σ.streams[i]?).any SmuxStream.polling

/-- A step of the task; a read that has begun is ended before anything else is done. -/
def step (shutdown : Bool) (l : ConnectionLabel) : Option Act :=
  if l = .advance then c.advance σ
  else
    (c.held σ).bind fun i =>
      if reading σ i = true ∧ l ≠ .readClosed then none else c.copy σ shutdown i l

end Connection

/-! ## The forwarder -/

inductive ForwardLabel
  /-- The task that runs `forward` goes on. -/
  | forward
  /-- The session was not ready in time. -/
  | readyTimeout
  /-- The listener has a connection. -/
  | accept
  /-- The listener fails. -/
  | acceptFails (kind : IoErrorKind) (message : String)
  /-- The task of a connection goes on. -/
  | connection (k : ℕ) (l : ConnectionLabel)
  /-- A task of the multiplexer goes on, or the session does something. -/
  | mux (l : MuxLabel)
  /-- The session's send gate is opened or closed. -/
  | setSendable (sendable : Bool)
  | shutdown
  deriving DecidableEq

namespace PortForwarder

variable (f : PortForwarder)

/-- A step of the multiplexer and the session. -/
def act (l : MuxLabel) : Option PortForwarder :=
  (f.mux.step l).map fun m =>
    { f with
      mux := m
      queued := f.queued ++ m.inner.frames.drop f.mux.inner.frames.length
      handed := f.handed ++ if l = .send then m.commands.drop f.mux.commands.length else [] }

/-- `forward` has returned. -/
def returned : Bool :=
  match f.pc with
  | .returned _ => true
  | _ => false

/-- What goes on beside the connections.  The `SmuxSession` is dropped by the last of its holders,
`forward` and the connections. -/
def background : MuxLabel → Bool
  | .caller _ => false
  | .recv | .send | .keepalive _ | .closeStep | .closeSweep _ => f.created
  | .dropSession => f.created && f.returned && f.connections.all Connection.isEnded
  | .emit _ => f.mux.output.isSome
  | .sessionClose _ | .fanoutClose | .command _ | .commandTaken => true

/-- The error of a call on a session that has ended, or is about to. -/
def closedError : Error :=
  .sessionClosed (f.mux.sessionReason.elim "session is closing" CloseReason.display)

def wrongType : Error :=
  .config ("PortForwarder needs a port-forwarding session. Start it with " ++
    "SessionBuilder::port_forward(port) or " ++
    ".document(PortForwardingToRemoteHost::new(host, port)).")

/-- The task that runs `forward`, up to its next wait. -/
def forward : Option PortForwarder :=
  match f.pc with
  | .starting =>
      some { f with pc := if f.sessionType = .port then .waiting else .returned (.error wrongType) }
  | .waiting =>
      if f.shutdown then some { f with pc := .returned (.ok ()) }
      else if f.sendable || f.mux.sessionClosed then some { f with pc := .resolved }
      else none
  | .resolved =>
      some (if f.sendable then { f with pc := .accepting, created := true }
        else { f with pc := .returned (.error f.closedError) })
  | .accepting =>
      if f.shutdown then some { f with pc := .returned (.ok ()) }
      else if f.mux.sessionClosed then some { f with pc := .returned (.ok ()), shutdown := true }
      else none
  | .returned _ => none

/-- The accept loop waits for a connection. -/
def listening : Bool := f.pc == .accepting && !f.shutdown && !f.mux.sessionClosed

/-- A connection is given a permit and a task, or closed. -/
def accept : PortForwarder :=
  match f.permits with
  | 0 => { f with refused := f.refused + 1 }
  | n + 1 => { f with permits := n, connections := f.connections ++ [.new] }

/-- A connection after a step of its own; its permit comes back at the end. -/
def settle (k : ℕ) (c : Connection) : PortForwarder :=
  { f with connections := f.connections.set k c
           permits := f.permits + if c.isEnded then 1 else 0 }

/-- The task of a connection goes on. -/
def connection (k : ℕ) (l : ConnectionLabel) : Option PortForwarder :=
  (f.connections[k]?).bind fun c =>
    (c.step f.mux.inner f.shutdown l).bind fun a =>
      match a.call with
      | some call => (f.act (.caller call)).map (·.settle k a.next)
      | none => some (f.settle k a.next)

def step (f : PortForwarder) : ForwardLabel → Option PortForwarder
  | .forward => f.forward
  | .readyTimeout =>
      if f.pc = .waiting ∧ f.shutdown = false ∧ f.sendable = false ∧ f.mux.sessionClosed = false then
        some { f with pc := .returned (.error (.timeout f.readyTimeout)) }
      else none
  | .accept => if f.listening then some f.accept else none
  | .acceptFails kind message =>
      if f.listening then some { f with pc := .returned (.error (.io kind message)) } else none
  | .connection k l => f.connection k l
  | .mux l => if f.background l then f.act l else none
  | .setSendable sendable => some { f with sendable }
  | .shutdown => some { f with shutdown := true }

end PortForwarder

end SsmBridge.Smux.Forward
