import SsmBridge.Construction.Inbound
import SsmBridge.Construction.Deliver

/-!
# One data channel

The model of the five tasks that `connect` spawns in `src/connection.rs`, and of the state they
share.  A task is a program counter whose values are the points at which it can be suspended or at
which another task can come in between; the operations below move one task from one such point to
the next and return the new shared state, or `none` when the task is not there or would have to
wait.

`send_payload` is reached by two tasks, the reader and the command task.  Each has a call slot of
its own, `SendPc`, so that the operations on the outbound path are written once.  The steps of a
call are: read the cipher and encrypt; take the lock on `Continuity::sequence` and build the
message; test for room and, in the same step, track the message and advance the counter; hand the
message to the writer queue and release the lock.

`tokio::select!` with `biased` polls `closed()` first and the other branch afterwards, and another
thread may close the session in between: every such loop has a point for each of the two polls.

The events an operation returns are observations for stating results; nothing reads them.
-/

namespace SsmBridge

/-! ## State -/

/-- Unacknowledged messages held in each direction. -/
def messageBufferCapacity : ℕ := 10000

/-- Retransmission attempts before the session is declared unrecoverable. -/
def maxRetransmitAttempts : ℕ := 3000

/-- Depth of the queue feeding the writer task. -/
def writerQueueDepth : ℕ := 1024

/-- Depth of the queue feeding the command task. -/
def commandQueueDepth : ℕ := 256

/-- The two tasks that reach `send_payload`. -/
inductive Sender
  | reader
  | command
  deriving DecidableEq, Repr

/-- The stream state that survives a channel being rebuilt. -/
structure Continuity where
  /-- Next number of the outbound stream. -/
  sequence : Int64
  /-- Which call of `send_payload` holds the lock on the counter: its channel and task. -/
  holder : Option (ℕ × Sender)
  outgoing : OutgoingBuffer
  inbound : Inbound
  crypto : Option SessionCrypto
  deriving DecidableEq

/-- State for a brand-new session. -/
def Continuity.fresh : Continuity where
  sequence := 0
  holder := none
  outgoing := OutgoingBuffer.new messageBufferCapacity maxRetransmitAttempts
  inbound := { expected := 0, incoming := IncomingBuffer.new messageBufferCapacity }
  crypto := none

/-- Work submitted to the data channel by the owning session. -/
inductive Command
  | data (bytes : Bytes)
  | control (payloadType : PayloadType) (data : Bytes)
  deriving DecidableEq

/-- A frame on its way to the socket. -/
inductive Frame
  | binary (wire : Bytes)
  | ping
  deriving DecidableEq

/-- A payload after the encryption step of `send_payload`. -/
structure Outgoing where
  payloadType : PayloadType
  /-- The bytes the caller handed in. -/
  plain : Bytes
  /-- The cipher they were encrypted with, if any. -/
  cipher : Option SessionCrypto
  /-- What goes on the wire. -/
  payload : Bytes
  deriving DecidableEq

/-- Where a call of `send_payload` has got to. -/
inductive SendPc
  | idle
  | called (payloadType : PayloadType) (plain : Bytes)
  /-- Encrypted; waiting for the lock. -/
  | locking (out : Outgoing)
  /-- Holding the lock, with the message built; about to test for room. -/
  | tracking (out : Outgoing) (wire : Bytes)
  /-- Holding the lock; parked until an acknowledgement arrives or the session closes. -/
  | waiting (out : Outgoing) (wire : Bytes) (notified : Bool)
  /-- Holding the lock, the message tracked; waiting for room in the writer queue. -/
  | writing (sequence : Int64) (wire : Bytes)
  | returned (result : Except Error Unit)
  deriving DecidableEq

/-- The call holds the lock on the counter. -/
def SendPc.holds : SendPc → Bool
  | .tracking _ _ | .waiting _ _ _ | .writing _ _ => true
  | _ => false

inductive WriterPc
  | select
  | polled
  | sending (frame : Frame)
  /-- Out of the loop, closing the sink. -/
  | closing
  | ended
  deriving DecidableEq

inductive RetransmitPc
  | select
  | polled
  | resending (sequence : Int64) (wire : Bytes)
  | ended
  deriving DecidableEq

inductive HeartbeatPc
  | select
  | polled
  | ended
  deriving DecidableEq

inductive CommandPc
  | select
  | polled
  /-- Holding a command back until the agent is listening. -/
  | gate (command : Command)
  | gatePolled (command : Command)
  /-- Inside `send_stream_data`, with the bytes after the chunk being sent. -/
  | streaming (rest : Bytes)
  | controlling
  | failing (e : Error)
  | ended
  deriving DecidableEq

inductive ReaderPc
  | select
  | polled
  /-- About to compare a message with the expected number. -/
  | routing (m : ClientMessage)
  /-- Ahead of the expected number; about to buffer it. -/
  | ahead (m : ClientMessage)
  /-- Buffered; about to acknowledge it. -/
  | stored (m : ClientMessage)
  /-- The expected number; about to acknowledge it. -/
  | due (m : ClientMessage)
  | delivering (m : ClientMessage)
  | negotiating (m : ClientMessage) (request : HandshakeRequest)
  | replying (m : ClientMessage) (after : AfterReply)
  /-- Delivered; about to advance the counter. -/
  | advancing (m : ClientMessage)
  /-- About to take the next message out of the reorder buffer. -/
  | draining (next : Int64)
  /-- Out of the loop; the message is the one whose delivery failed, if that is why. -/
  | failing (reason : CloseReason) (m : Option ClientMessage)
  | ended
  deriving DecidableEq

/-- One data channel: the session core, the two queues and its tasks. -/
structure Channel where
  core : SessionCore
  /-- The session handle was dropped, which aborts the tasks. -/
  aborted : Bool
  writerQueue : List Frame
  writer : WriterPc
  commandQueue : List Command
  command : CommandPc
  commandSend : SendPc
  reader : ReaderPc
  readerSend : SendPc
  handshake : HandshakeHandler
  kmsCalls : ℕ
  retransmit : RetransmitPc
  heartbeat : HeartbeatPc
  lastInbound : ℕ
  idleTimeout : ℕ
  chunkSize : ℕ
  deriving DecidableEq

namespace Channel

/-- The call slot of a sender. -/
def slot (ch : Channel) : Sender → SendPc
  | .reader => ch.readerSend
  | .command => ch.commandSend

/-- Move a call of `send_payload` on. -/
def setSlot (ch : Channel) (who : Sender) (pc : SendPc) : Channel :=
  match who with
  | .reader => { ch with readerSend := pc }
  | .command => { ch with commandSend := pc }

/-- The writer task still owns its end of the queue. -/
def writerAlive (ch : Channel) : Bool := decide (ch.writer ≠ .ended)

/-- The writer queue can take another frame. -/
def writerRoom (ch : Channel) : Bool :=
  ch.writerAlive && decide (ch.writerQueue.length < writerQueueDepth)

/-- `try_write`: enqueue without waiting, or drop. -/
def tryWrite (ch : Channel) (frame : Frame) : Bool × Channel :=
  if ch.writerRoom then (true, { ch with writerQueue := ch.writerQueue ++ [frame] }) else (false, ch)

/-- End the session on this channel. -/
def close (ch : Channel) (reason : CloseReason) : Channel :=
  { ch with core := ch.core.close reason }

/-- `notify_ack`: wake the calls parked for buffer room. -/
def notifyAck (ch : Channel) : Channel :=
  let wake : SendPc → SendPc
    | .waiting out wire _ => .waiting out wire true
    | pc => pc
  { ch with readerSend := wake ch.readerSend, commandSend := wake ch.commandSend }

end Channel

/-! ## Observations -/

/-- A message that was given its number. -/
structure Issued where
  sequence : Int64
  wire : Bytes
  out : Outgoing
  sender : Sender
  deriving DecidableEq

/-- What an operation did that results are stated about. -/
inductive Event
  /-- A message was tracked and the counter advanced past its number. -/
  | issued (message : Issued)
  /-- The first transmission of a message was accepted by the writer queue. -/
  | enqueued (sequence : Int64) (wire : Bytes)
  /-- A retransmission was accepted by the writer queue. -/
  | resent (sequence : Int64) (wire : Bytes)
  /-- An `acknowledge` message for this number was processed. -/
  | retired (sequence : Int64)
  /-- An acknowledgement for a received message was accepted by the writer queue. -/
  | acknowledged (sequence : Int64)
  /-- The counter of the inbound stream advanced. -/
  | advanced
  /-- The payload of this message was handed to the output fan-out. -/
  | emitted (sequence : Int64) (payload : Bytes)
  /-- A handshake request was processed. -/
  | negotiated (request : HandshakeRequest)
  /-- A command was accepted from the session. -/
  | accepted (command : Command)
  /-- A command passed the send gate, with the cipher that was installed at the time. -/
  | admitted (command : Command) (cipher : Option SessionCrypto)
  deriving DecidableEq

/-- The result of an operation on one channel. -/
structure Outcome where
  cont : Continuity
  channel : Channel
  events : List Event
  deriving DecidableEq

end SsmBridge
