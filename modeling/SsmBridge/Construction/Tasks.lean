import SsmBridge.Construction.Channel

/-!
# The tasks of a data channel

One operation per stretch of a task that runs without another task coming in between.  Every
operation takes the shared stream state and the channel, and is undefined when the task is
elsewhere or would have to wait.
-/

namespace SsmBridge

/-! ## `send_payload` -/

/-- Encrypt if required: only stream output is, and only once a cipher is installed. -/
def sendEncrypt (env : Env) (nonce : Nonce) (who : Sender) (k : Continuity) (ch : Channel) :
    Option Outcome :=
  match ch.slot who with
  | .called payloadType plain =>
      match payloadType, k.crypto with
      | .output, some crypto =>
          match crypto.encrypt env.aead nonce plain with
          | .error e => some ⟨k, ch.setSlot who (.returned (.error e)), []⟩
          | .ok payload =>
              some ⟨k, ch.setSlot who (.locking ⟨payloadType, plain, some crypto, payload⟩), []⟩
      | _, _ => some ⟨k, ch.setSlot who (.locking ⟨payloadType, plain, none, plain⟩), []⟩
  | _ => none

/-- Take the lock on the counter and build the message under it. -/
def sendLock (env : Env) (stamp : Stamp) (c : ℕ) (who : Sender) (k : Continuity) (ch : Channel) :
    Option Outcome :=
  match ch.slot who, k.holder with
  | .locking out, none =>
      let wire := (ClientMessage.new env.sha256 stamp .inputStreamData k.sequence out.payloadType
        out.payload).serialize
      some ⟨{ k with holder := some (c, who) }, ch.setSlot who (.tracking out wire), []⟩
  | _, _ => none

/-- Track the message and advance the counter, or park for an acknowledgement. -/
def sendTrack (now : ℕ) (who : Sender) (k : Continuity) (ch : Channel) : Option Outcome :=
  match ch.slot who with
  | .tracking out wire =>
      match k.outgoing.track now wire k.sequence with
      | (true, outgoing) =>
          some ⟨{ k with outgoing, sequence := k.sequence + 1 },
            ch.setSlot who (.writing k.sequence wire), [.issued ⟨k.sequence, wire, out, who⟩]⟩
      | (false, outgoing) =>
          some ⟨{ k with outgoing }, ch.setSlot who (.waiting out wire false), []⟩
  | _ => none

/-- Test for room again.  A close wakes this branch too, and wins it when it lands between the two
polls. -/
def sendRetry (who : Sender) (k : Continuity) (ch : Channel) : Option Outcome :=
  match ch.slot who with
  | .waiting out wire notified =>
      if notified || ch.core.isClosed then some ⟨k, ch.setSlot who (.tracking out wire), []⟩
      else none
  | _ => none

/-- The session closed while the call was waiting for room. -/
def sendGiveUp (who : Sender) (k : Continuity) (ch : Channel) : Option Outcome :=
  match ch.slot who with
  | .waiting _ _ _ =>
      if ch.core.isClosed then
        some ⟨{ k with holder := none }, ch.setSlot who (.returned (.error
          (.sessionClosed "session closed while waiting for acknowledgements"))), []⟩
      else none
  | _ => none

/-- Hand the message to the writer queue, still under the lock, and release it. -/
def sendWrite (who : Sender) (k : Continuity) (ch : Channel) : Option Outcome :=
  match ch.slot who with
  | .writing sequence wire =>
      if ch.writerRoom then
        some ⟨{ k with holder := none },
          { ch.setSlot who (.returned (.ok ())) with
            writerQueue := ch.writerQueue ++ [.binary wire] }, [.enqueued sequence wire]⟩
      else if ch.writerAlive then none
      else
        some ⟨{ k with holder := none }, ch.setSlot who (.returned (.error
          (.transport "the data channel writer has stopped"))), []⟩
  | _ => none

/-- Dropping a call in flight releases the lock it holds. -/
def abandon (c : ℕ) (who : Sender) (k : Continuity) : Continuity :=
  if k.holder = some (c, who) then { k with holder := none } else k

/-- The call is suspended. -/
def SendPc.parked : SendPc → Bool
  | .locking _ | .waiting _ _ _ | .writing _ _ => true
  | _ => false

/-! ## The writer task -/

def writerPoll (k : Continuity) (ch : Channel) : Option Outcome :=
  match ch.writer with
  | .select =>
      some ⟨k, { ch with writer := if ch.core.isClosed then .closing else .polled }, []⟩
  | _ => none

def writerRecv (k : Continuity) (ch : Channel) : Option Outcome :=
  match ch.writer, ch.writerQueue with
  | .polled, frame :: rest =>
      some ⟨k, { ch with writer := .sending frame, writerQueue := rest }, []⟩
  | .polled, [] => some ⟨k, { ch with writer := .select }, []⟩
  | _, _ => none

def writerSent (k : Continuity) (ch : Channel) : Option Outcome :=
  match ch.writer with
  | .sending _ => some ⟨k, { ch with writer := .select }, []⟩
  | _ => none

/-- The socket died; an orderly close that was already reported keeps its reason. -/
def writerFailed (message : String) (k : Continuity) (ch : Channel) : Option Outcome :=
  match ch.writer with
  | .sending _ =>
      some ⟨k, { ch.close (.transport s!"WebSocket write failed: {message}") with
        writer := .closing }, []⟩
  | _ => none

/-- The sink is closed and the queue's receiver dropped with what is left in it. -/
def writerFinish (k : Continuity) (ch : Channel) : Option Outcome :=
  match ch.writer with
  | .closing => some ⟨k, { ch with writer := .ended, writerQueue := [] }, []⟩
  | _ => none

def writerAbort (k : Continuity) (ch : Channel) : Option Outcome :=
  match ch.aborted, ch.writer with
  | true, .select | true, .sending _ | true, .closing =>
      some ⟨k, { ch with writer := .ended, writerQueue := [] }, []⟩
  | _, _ => none

/-! ## The heartbeat task -/

def heartbeatPoll (k : Continuity) (ch : Channel) : Option Outcome :=
  match ch.heartbeat with
  | .select =>
      some ⟨k, { ch with heartbeat := if ch.core.isClosed then .ended else .polled }, []⟩
  | _ => none

def heartbeatTick (now : ℕ) (k : Continuity) (ch : Channel) : Option Outcome :=
  match ch.heartbeat with
  | .polled =>
      let idle := now - ch.lastInbound
      if ch.idleTimeout < idle then
        some ⟨k, { ch.close (.peerUnresponsive idle) with heartbeat := .ended }, []⟩
      else some ⟨k, { (ch.tryWrite .ping).2 with heartbeat := .select }, []⟩
  | _ => none

def heartbeatAbort (k : Continuity) (ch : Channel) : Option Outcome :=
  match ch.aborted, ch.heartbeat with
  | true, .select => some ⟨k, { ch with heartbeat := .ended }, []⟩
  | _, _ => none

/-! ## The retransmission task -/

def retransmitPoll (k : Continuity) (ch : Channel) : Option Outcome :=
  match ch.retransmit with
  | .select =>
      some ⟨k, { ch with retransmit := if ch.core.isClosed then .ended else .polled }, []⟩
  | _ => none

def retransmitTick (now : ℕ) (k : Continuity) (ch : Channel) : Option Outcome :=
  match ch.retransmit with
  | .polled =>
      match k.outgoing.pollRetransmit now with
      | (.idle, outgoing) => some ⟨{ k with outgoing }, { ch with retransmit := .select }, []⟩
      | (.resend sequence wire, outgoing) =>
          some ⟨{ k with outgoing }, { ch with retransmit := .resending sequence wire }, []⟩
      | (.gaveUp sequence attempts, outgoing) =>
          some ⟨{ k with outgoing }, { ch.close (.deliveryFailed sequence attempts) with
            retransmit := .ended }, []⟩
  | _ => none

def retransmitWrite (k : Continuity) (ch : Channel) : Option Outcome :=
  match ch.retransmit with
  | .resending sequence wire =>
      if ch.writerRoom then
        some ⟨k, { ch with retransmit := .select
                           writerQueue := ch.writerQueue ++ [.binary wire] },
          [.resent sequence wire]⟩
      else none
  | _ => none

/-- The session closed, or the writer is gone. -/
def retransmitStop (k : Continuity) (ch : Channel) : Option Outcome :=
  match ch.retransmit with
  | .resending _ _ =>
      if ch.core.isClosed || !ch.writerAlive then some ⟨k, { ch with retransmit := .ended }, []⟩
      else none
  | _ => none

def retransmitAbort (k : Continuity) (ch : Channel) : Option Outcome :=
  match ch.aborted, ch.retransmit with
  | true, .select | true, .resending _ _ => some ⟨k, { ch with retransmit := .ended }, []⟩
  | _, _ => none

/-! ## The command task -/

/-- The command task is over, and its queue is dropped with what is left in it. -/
def Channel.endCommand (ch : Channel) : Channel :=
  { ch with command := .ended, commandQueue := [], commandSend := .idle }

def commandPoll (k : Continuity) (ch : Channel) : Option Outcome :=
  match ch.command with
  | .select =>
      if ch.core.isClosed then some ⟨k, ch.endCommand, []⟩
      else some ⟨k, { ch with command := .polled }, []⟩
  | _ => none

def commandRecv (k : Continuity) (ch : Channel) : Option Outcome :=
  match ch.command, ch.commandQueue with
  | .polled, command :: rest =>
      some ⟨k, { ch with command := .gate command, commandQueue := rest }, []⟩
  | .polled, [] =>
      -- The queue also ends when the session handle, which owns its sender, is gone.
      if ch.aborted then some ⟨k, ch.endCommand, []⟩
      else some ⟨k, { ch with command := .select }, []⟩
  | _, _ => none

def commandGate (k : Continuity) (ch : Channel) : Option Outcome :=
  match ch.command with
  | .gate command =>
      if ch.core.isClosed then some ⟨k, ch.endCommand, []⟩
      else some ⟨k, { ch with command := .gatePolled command }, []⟩
  | _ => none

/-- One round of the chunk loop of `send_stream_data`: send the next chunk, or return. -/
def Channel.sendStreamData (ch : Channel) (data : Bytes) : Channel :=
  if data = [] then { ch with command := .select, commandSend := .idle }
  else { ch with command := .streaming (data.drop ch.chunkSize)
                 commandSend := .called .output (data.take ch.chunkSize) }

/-- `wait_sendable` resolves when the gate is open and also when the session has closed. -/
def commandAdmit (k : Continuity) (ch : Channel) : Option Outcome :=
  match ch.command with
  | .gatePolled command =>
      if ch.core.sendable || ch.core.isClosed then
        let ch := match command with
          | .data bytes => ch.sendStreamData bytes
          | .control payloadType data =>
              { ch with command := .controlling, commandSend := .called payloadType data }
        some ⟨k, ch, [.admitted command k.crypto]⟩
      else some ⟨k, { ch with command := .gate command }, []⟩
  | _ => none

/-- A call of `send_payload` came back. -/
def commandReturn (k : Continuity) (ch : Channel) : Option Outcome :=
  match ch.command, ch.commandSend with
  | .streaming rest, .returned (.ok ()) => some ⟨k, ch.sendStreamData rest, []⟩
  | .controlling, .returned (.ok ()) =>
      some ⟨k, { ch with command := .select, commandSend := .idle }, []⟩
  | .streaming _, .returned (.error e) =>
      some ⟨k, { ch with command := .failing e, commandSend := .idle }, []⟩
  | .controlling, .returned (.error e) =>
      some ⟨k, { ch with command := .failing e, commandSend := .idle }, []⟩
  | _, _ => none

def commandFail (k : Continuity) (ch : Channel) : Option Outcome :=
  match ch.command with
  | .failing e => some ⟨k, (ch.close (.transport e.display)).endCommand, []⟩
  | _ => none

def commandAbort (c : ℕ) (k : Continuity) (ch : Channel) : Option Outcome :=
  match ch.aborted, ch.command with
  | true, .select | true, .gate _ => some ⟨k, ch.endCommand, []⟩
  | true, .streaming _ | true, .controlling =>
      if ch.commandSend.parked then some ⟨abandon c .command k, ch.endCommand, []⟩ else none
  | _, _ => none

/-! ## The reader task -/

/-- What the WebSocket stream yields. A binary frame is given by what
`ClientMessage::deserialize` makes of it. -/
inductive InFrame
  | binary (decoded : Except Error ClientMessage)
  | text (text : String)
  | close (reason : Option String)
  /-- A ping, a pong or a raw frame. -/
  | other
  | failed (message : String)
  | ended
  deriving DecidableEq

/-- `str::trim`. -/
def trim (text : String) : String := String.ofList (trimMatches isWhitespace text.toList)

/-- The first `max` characters. -/
def truncate (text : String) (max : ℕ) : String := String.ofList (text.toList.take max)

/-- The reason that comes with a `channel_closed` message. Older agents send bare text in place of
a document. -/
def channelClosedDetail (env : Env) (payload : Bytes) : Option String :=
  let text :=
    match env.channelClosed payload with
    | some parsed => parsed.output.getD ""
    | none => String.ofList (Utf8.lossy payload)
  let trimmed := truncate (trim text) 500
  if trimmed = "" then none else some trimmed

/-- Bare text is only discarded when it is blank. -/
lemma channelClosedDetail_eq_none_iff {env : Env} {payload : Bytes} {text : List Char}
    (hparse : env.channelClosed payload = none) (htext : fromUtf8 payload = .ok text) :
    channelClosedDetail env payload = none ↔ trimMatches isWhitespace text = [] := by
  have hlossy : Utf8.lossy payload = text := Utf8.lossy_of_decode htext
  simp [channelClosedDetail, hparse, hlossy, truncate, trim, String.ofList_eq_empty_iff]

def readerPoll (k : Continuity) (ch : Channel) : Option Outcome :=
  match ch.reader with
  | .select => some ⟨k, { ch with reader := if ch.core.isClosed then .ended else .polled }, []⟩
  | _ => none

/-- The plain-text control messages the gateway sends outside the binary framing. -/
def handleText (ch : Channel) (text : String) : Channel :=
  if trim text = "start_publication" then
    { ch with core := ch.core.setSendable true, reader := .select }
  else if trim text = "pause_publication" then
    { ch with core := ch.core.setSendable false, reader := .select }
  else if trim text = "channel_closed" then
    { ch with reader := .failing (.agentClosed ch.core.exitCode none) none }
  else { ch with reader := .select }

/-- `route`, for a message that is not stream data; stream data goes to the delivery contract. -/
def route (env : Env) (now : ℕ) (m : ClientMessage) (k : Continuity) (ch : Channel) : Outcome :=
  match m.messageType with
  | .outputStreamData => ⟨k, { ch with reader := .routing m }, []⟩
  | .acknowledge =>
      match env.parseAck m.payload with
      | .error e =>
          ⟨k, { ch with reader := .failing (.protocol
            (Error.protocol s!"malformed acknowledge payload: {e}").display) none }, []⟩
      | .ok sequence =>
          match k.outgoing.acknowledge now sequence with
          | (true, outgoing) =>
              ⟨{ k with outgoing }, { ch.notifyAck with reader := .select }, [.retired sequence]⟩
          | (false, outgoing) =>
              ⟨{ k with outgoing }, { ch with reader := .select }, [.retired sequence]⟩
  | .startPublication => ⟨k, { ch with core := ch.core.setSendable true, reader := .select }, []⟩
  | .pausePublication => ⟨k, { ch with core := ch.core.setSendable false, reader := .select }, []⟩
  | .channelClosed =>
      ⟨k, { ch.close (.agentClosed ch.core.exitCode (channelClosedDetail env m.payload)) with
        reader := .select }, []⟩
  | .inputStreamData => ⟨k, { ch with reader := .select }, []⟩

/-- A frame arrived: it proves the peer alive, is decoded and routed. -/
def readerFrame (env : Env) (now : ℕ) (frame : InFrame) (k : Continuity) (ch : Channel) :
    Option Outcome :=
  match ch.reader with
  | .polled =>
      let ch := { ch with lastInbound := now }
      match frame with
      | .binary (.ok m) => some (route env now m k ch)
      | .binary (.error e) =>
          some ⟨k, { ch with reader := .failing (.protocol e.display) none }, []⟩
      | .text text => some ⟨k, handleText ch text, []⟩
      | .close reason =>
          let detail := (reason.map trim).filter (fun r => decide (r ≠ ""))
          some ⟨k, { ch with reader := .failing (.agentClosed ch.core.exitCode detail) none }, []⟩
      | .other => some ⟨k, { ch with reader := .select }, []⟩
      | .failed message =>
          let reason := CloseReason.transport s!"WebSocket read failed: {message}"
          some ⟨k, { ch with reader := .failing reason none }, []⟩
      | .ended =>
          some ⟨k, { ch with reader := .failing (.transport "WebSocket stream ended") none }, []⟩
  | _ => none

/-- Compare the message with the expected number. -/
def readerRoute (k : Continuity) (ch : Channel) : Option Outcome :=
  match ch.reader with
  | .routing m =>
      let reader : ReaderPc :=
        if m.sequenceNumber < k.inbound.expected then .select
        else if k.inbound.expected < m.sequenceNumber then .ahead m
        else .due m
      some ⟨k, { ch with reader }, []⟩
  | _ => none

/-- Buffer a message that is ahead; the full buffer drops it without acknowledging. -/
def readerStore (k : Continuity) (ch : Channel) : Option Outcome :=
  match ch.reader with
  | .ahead m =>
      match k.inbound.incoming.insert m with
      | (true, incoming) =>
          some ⟨{ k with inbound := { k.inbound with incoming } }, { ch with reader := .stored m },
            []⟩
      | (false, incoming) =>
          some ⟨{ k with inbound := { k.inbound with incoming } }, { ch with reader := .select }, []⟩
  | _ => none

/-- `acknowledge`: enqueue the reply, or drop it when the writer queue is full. -/
def acknowledge (env : Env) (stamp : Stamp) (ch : Channel) (m : ClientMessage) (sequential : Bool) :
    Channel × List Event :=
  match ch.tryWrite (.binary (buildAck env.sha256 env.ackJson stamp m sequential).serialize) with
  | (true, ch) => (ch, [.acknowledged m.sequenceNumber])
  | (false, ch) => (ch, [])

def readerAck (env : Env) (stamp : Stamp) (k : Continuity) (ch : Channel) : Option Outcome :=
  match ch.reader with
  | .stored m =>
      let (ch, events) := acknowledge env stamp ch m false
      some ⟨k, { ch with reader := .select }, events⟩
  | .due m =>
      let (ch, events) := acknowledge env stamp ch m true
      some ⟨k, { ch with reader := .delivering m }, events⟩
  | _ => none

/-- What a delivery reads of the client. -/
def readerView (k : Continuity) (ch : Channel) : ReaderView := ⟨ch.handshake, ch.core, k.crypto⟩

/-- Go on with a delivery: it is over, or it has a reply to send. -/
def progress (m : ClientMessage) (ch : Channel) : Progress → Channel
  | .finished (.ok ()) => { ch with reader := .advancing m }
  | .finished (.error e) => { ch with reader := .failing (.protocol e.display) (some m) }
  | .reply payloadType payload after =>
      { ch with reader := .replying m after, readerSend := .called payloadType payload }

def readerDeliver (env : Env) (nonce : Nonce) (k : Continuity) (ch : Channel) : Option Outcome :=
  match ch.reader with
  | .delivering m =>
      let (delivery, v, output) := deliver env nonce (readerView k ch) m
      let ch := { ch with core := v.core, handshake := v.handshake }
      let emitted := output.toList.map (Event.emitted m.sequenceNumber)
      match delivery with
      | .progress p => some ⟨k, progress m ch p, emitted⟩
      | .request request =>
          let started := if ch.handshake.state = .awaitingRequest then [Event.negotiated request]
            else []
          some ⟨k, { ch with reader := .negotiating m request }, started⟩
  | _ => none

/-- The actions of a handshake request were performed. -/
def readerNegotiated (env : Env) (k : Continuity) (ch : Channel) : Option Outcome :=
  match ch.reader with
  | .negotiating m request =>
      let (p, v, calls) := requestDone env ch.kmsCalls (readerView k ch) request
      some ⟨k, progress m { ch with handshake := v.handshake, kmsCalls := calls } p, []⟩
  | _ => none

/-- The reply of a delivery was handed over, or could not be. -/
def readerReplied (k : Continuity) (ch : Channel) : Option Outcome :=
  match ch.reader, ch.readerSend with
  | .replying m after, .returned (.ok ()) =>
      let (result, v) := replySent (readerView k ch) after
      some ⟨{ k with crypto := v.crypto },
        progress m { ch with core := v.core, readerSend := .idle } (.finished result), []⟩
  | .replying m _, .returned (.error e) =>
      some ⟨k, progress m { ch with readerSend := .idle } (.finished (.error e)), []⟩
  | _, _ => none

def readerAdvance (k : Continuity) (ch : Channel) : Option Outcome :=
  match ch.reader with
  | .advancing _ =>
      let next := k.inbound.expected + 1
      some ⟨{ k with inbound := { k.inbound with expected := next } },
        { ch with reader := .draining next }, [.advanced]⟩
  | _ => none

def readerTake (k : Continuity) (ch : Channel) : Option Outcome :=
  match ch.reader with
  | .draining next =>
      let (buffered, incoming) := k.inbound.incoming.take next
      let reader : ReaderPc :=
        match buffered with
        | some m => .delivering m
        | none => .select
      some ⟨{ k with inbound := { k.inbound with incoming } }, { ch with reader }, []⟩
  | _ => none

def readerClose (k : Continuity) (ch : Channel) : Option Outcome :=
  match ch.reader with
  | .failing reason _ => some ⟨k, { ch.close reason with reader := .ended }, []⟩
  | _ => none

/-- The reader is suspended in the KMS call of a request. -/
def awaitsKms (h : HandshakeHandler) (request : HandshakeRequest) : Bool :=
  decide (h.state = .awaitingRequest) &&
    request.requestedClientActions.any (fun a => decide (a.actionType = .kmsEncryption))

def readerAbort (c : ℕ) (k : Continuity) (ch : Channel) : Option Outcome :=
  match ch.aborted, ch.reader with
  | true, .select => some ⟨k, { ch with reader := .ended }, []⟩
  | true, .negotiating _ request =>
      if awaitsKms ch.handshake request then some ⟨k, { ch with reader := .ended }, []⟩ else none
  | true, .replying _ _ =>
      if ch.readerSend.parked then
        some ⟨abandon c .reader k, { ch with reader := .ended, readerSend := .idle }, []⟩
      else none
  | _, _ => none

/-! ## The session handle -/

/-- Queue a command.  The caller's check for a closed session may have been passed just before the
close. -/
def dispatch (command : Command) (k : Continuity) (ch : Channel) : Option Outcome :=
  if ch.command ≠ .ended ∧ ch.commandQueue.length < commandQueueDepth ∧ ch.aborted = false then
    some ⟨k, { ch with commandQueue := ch.commandQueue ++ [command] }, [.accepted command]⟩
  else none

/-- `Session::send`. -/
def sendData (data : Bytes) (k : Continuity) (ch : Channel) : Option Outcome :=
  dispatch (.data data) k ch

/-- `Session::send_terminal_size`, given the JSON of the size. -/
def sendTerminalSize (size : Bytes) (k : Continuity) (ch : Channel) : Option Outcome :=
  dispatch (.control .size size) k ch

def terminate (k : Continuity) (ch : Channel) : Option Outcome :=
  some ⟨k, ch.close .terminated, []⟩

/-- Dropping the handle closes the session and aborts its tasks. -/
def dropSession (k : Continuity) (ch : Channel) : Option Outcome :=
  some ⟨k, { ch.close .terminated with aborted := true }, []⟩

end SsmBridge
