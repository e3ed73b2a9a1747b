import SsmBridge.Construction.Message
import Mathlib.Data.List.AList

/-!
# Reliable delivery: acknowledgements, retransmission and reordering

The model of `src/ack.rs`.  Both directions of the data channel carry sequence numbers and both
sides retransmit, so the client keeps two bounded buffers: `OutgoingBuffer`, the messages it has
sent and not seen acknowledged, oldest first, and `IncomingBuffer`, the messages that arrived
ahead of the one it is waiting for, keyed by sequence number.

Time is a number of nanoseconds and is an argument of every operation that reads the clock, so a
run may place the operations at any instants.  `Duration` arithmetic is arithmetic on naturals
with truncating division.

Each operation returns its result next to the new buffer; a refused operation returns the old
one, which is what the source leaves behind.
-/

namespace SsmBridge

/-! ## Acknowledgement messages -/

/-- JSON body of an `acknowledge` message. -/
structure AcknowledgeContent where
  /-- Type of the message being acknowledged. -/
  messageType : MessageType
  /-- Identifier of the message being acknowledged. -/
  messageId : Uuid
  /-- Sequence number of the message being acknowledged. -/
  sequenceNumber : Int64
  /-- `false` when the message arrived out of order and was buffered. -/
  isSequential : Bool
  deriving DecidableEq

/-- Bit values of the `Flags` header field. -/
def flagSyn : UInt64 := 1

/-- The last-message bit of the `Flags` header field. -/
def flagFin : UInt64 := 2

/-- Build an `acknowledge` message for a received message.  The header carries sequence number
zero and both flags; the acknowledged number is in the JSON payload. -/
def buildAck (sha256 : Bytes → Digest) (ackJson : AcknowledgeContent → Bytes) (stamp : Stamp)
    (received : ClientMessage) (isSequential : Bool) : ClientMessage :=
  let content : AcknowledgeContent :=
    { messageType := received.messageType
      messageId := received.messageId
      sequenceNumber := received.sequenceNumber
      isSequential := isSequential }
  { ClientMessage.new sha256 stamp .acknowledge 0 .undefined (ackJson content) with
    flags := flagSyn ||| flagFin }

/-! ## Round-trip estimation -/

/-- Initial RTT estimate before any sample is available, in nanoseconds. -/
def initialRtt : ℕ := 100 * 1000000

/-- Initial retransmission timeout, used until the first RTT sample lands. -/
def initialRto : ℕ := 200 * 1000000

/-- Lower bound on the retransmission timeout. -/
def minRto : ℕ := 50 * 1000000

/-- Upper bound on the retransmission timeout. -/
def maxRto : ℕ := 30 * 1000000000

/-- How many mean deviations of headroom the retransmission timeout carries. -/
def rtoVarianceFactor : ℕ := 4

/-- Smoothed round-trip time and the retransmission timeout derived from it. -/
structure RttEstimate where
  smoothed : ℕ
  /-- Mean deviation of the round-trip time. -/
  variance : ℕ
  /-- Current retransmission timeout. -/
  rto : ℕ
  /-- Number of samples folded into the estimate; the counter wraps. -/
  samples : UInt64
  deriving DecidableEq, Repr

/-- The estimate before any sample. -/
def RttEstimate.initial : RttEstimate where
  smoothed := initialRtt
  variance := initialRtt / 2
  rto := initialRto
  samples := 0

/-- `Duration::abs_diff`. -/
def absDiff (a b : ℕ) : ℕ := max a b - min a b

/-- Fold in a new RTT sample. -/
def RttEstimate.record (e : RttEstimate) (sample : ℕ) : RttEstimate :=
  let smoothed := if e.samples = 0 then sample else (e.smoothed * 7 + sample) / 8
  let variance :=
    if e.samples = 0 then sample / 2 else (e.variance * 3 + absDiff e.smoothed sample) / 4
  { smoothed := smoothed
    variance := variance
    rto := max minRto (min maxRto (smoothed + variance * rtoVarianceFactor))
    samples := e.samples + 1 }

/-! ## The outgoing buffer -/

/-- A message sent and not yet acknowledged. -/
structure Pending where
  /-- The serialized message. -/
  wire : Bytes
  sequence : Int64
  /-- When it was last handed to the writer. -/
  lastSent : ℕ
  /-- How many times it was handed to the writer. -/
  attempts : ℕ
  deriving DecidableEq

/-- What the retransmit scheduler should do on this tick. -/
inductive RetransmitAction
  /-- Nothing is overdue. -/
  | idle
  /-- Resend these bytes; the entry's timer has already been reset. -/
  | resend (sequence : Int64) (wire : Bytes)
  /-- The oldest unacknowledged message exhausted its retry budget. -/
  | gaveUp (sequence : Int64) (attempts : ℕ)
  deriving DecidableEq

/-- Messages sent but not yet acknowledged, oldest first. -/
structure OutgoingBuffer where
  pending : List Pending
  rtt : RttEstimate
  capacity : ℕ
  maxAttempts : ℕ
  deriving DecidableEq

namespace OutgoingBuffer

/-- A buffer holding at most `capacity` messages, each transmitted at most `maxAttempts` times. -/
def new (capacity maxAttempts : ℕ) : OutgoingBuffer :=
  { pending := [], rtt := RttEstimate.initial, capacity, maxAttempts }

/-- Record a message that is being handed to the writer; refused when the buffer is full. -/
def track (b : OutgoingBuffer) (now : ℕ) (wire : Bytes) (sequence : Int64) :
    Bool × OutgoingBuffer :=
  if b.capacity ≤ b.pending.length then (false, b)
  else
    (true, { b with pending := b.pending ++ [{ wire, sequence, lastSent := now, attempts := 1 }] })

/-- Retire an acknowledged message, feeding its age to the estimate unless it was resent.
Unknown and repeated numbers are ignored. -/
def acknowledge (b : OutgoingBuffer) (now : ℕ) (sequence : Int64) : Bool × OutgoingBuffer :=
  match b.pending.find? (fun p => p.sequence == sequence) with
  | none => (false, b)
  | some entry =>
      let rtt := if entry.attempts = 1 then b.rtt.record (now - entry.lastSent) else b.rtt
      (true, { b with pending := b.pending.eraseP (fun p => p.sequence == sequence), rtt := rtt })

/-- Decide what the retransmit scheduler should do right now: only the head is ever resent. -/
def pollRetransmit (b : OutgoingBuffer) (now : ℕ) : RetransmitAction × OutgoingBuffer :=
  match b.pending with
  | [] => (.idle, b)
  | head :: rest =>
      if now - head.lastSent ≤ b.rtt.rto then (.idle, b)
      else if b.maxAttempts ≤ head.attempts then (.gaveUp head.sequence head.attempts, b)
      else
        (.resend head.sequence head.wire,
          { b with
            pending := { head with attempts := head.attempts + 1, lastSent := now } :: rest })

end OutgoingBuffer

/-! ## The incoming buffer -/

/-- Out-of-order inbound messages, keyed by sequence number. -/
structure IncomingBuffer where
  messages : AList (fun _ : Int64 => ClientMessage)
  capacity : ℕ
  deriving DecidableEq

namespace IncomingBuffer

/-- A buffer holding at most `capacity` out-of-order messages. -/
def new (capacity : ℕ) : IncomingBuffer := { messages := ∅, capacity }

/-- Number of buffered messages. -/
def len (b : IncomingBuffer) : ℕ := b.messages.keys.length

/-- Store an out-of-order message; refused when the buffer is full and the number is new. -/
def insert (b : IncomingBuffer) (m : ClientMessage) : Bool × IncomingBuffer :=
  if b.capacity ≤ b.len ∧ m.sequenceNumber ∉ b.messages then (false, b)
  else (true, { b with messages := b.messages.insert m.sequenceNumber m })

/-- Take the message with this sequence number, if it is buffered. -/
def take (b : IncomingBuffer) (sequence : Int64) : Option ClientMessage × IncomingBuffer :=
  (b.messages.lookup sequence, { b with messages := b.messages.erase sequence })

end IncomingBuffer

end SsmBridge
