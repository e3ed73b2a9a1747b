import SsmBridge.Construction.Tasks
import SsmBridge.Framework.Machine

/-!
# A session and the channels that carry it

A session outlives its data channel: when the channel closes for a resumable reason, `resume_session`
opens another one on the same `Continuity`.  `System` is the shared stream state, the channels
opened so far, newest last, and the log of what happened; a label is an operation of one task of one
channel, or a resume.  The tasks of a replaced channel may still be running.
-/

namespace SsmBridge

open Machine

/-- An operation of one channel. -/
inductive Action
  | encrypt (who : Sender) (nonce : Nonce)
  | lock (who : Sender) (stamp : Stamp)
  | track (who : Sender) (now : ℕ)
  | retry (who : Sender)
  | giveUp (who : Sender)
  | write (who : Sender)
  | writerPoll
  | writerRecv
  | writerSent
  | writerFailed (message : String)
  | writerFinish
  | writerAbort
  | heartbeatPoll
  | heartbeatTick (now : ℕ)
  | heartbeatAbort
  | retransmitPoll
  | retransmitTick (now : ℕ)
  | retransmitWrite
  | retransmitStop
  | retransmitAbort
  | commandPoll
  | commandRecv
  | commandGate
  | commandAdmit
  | commandReturn
  | commandFail
  | commandAbort
  | readerPoll
  | readerFrame (now : ℕ) (frame : InFrame)
  | readerRoute
  | readerStore
  | readerAck (stamp : Stamp)
  | readerDeliver (nonce : Nonce)
  | readerNegotiated
  | readerReplied
  | readerAdvance
  | readerTake
  | readerClose
  | readerAbort
  | sendData (data : Bytes)
  | sendTerminalSize (size : Bytes)
  | terminate
  | drop

/-- Perform an operation on channel `c`. -/
def perform (env : Env) (c : ℕ) (k : Continuity) (ch : Channel) : Action → Option Outcome
  | .encrypt who nonce => sendEncrypt env nonce who k ch
  | .lock who stamp => sendLock env stamp c who k ch
  | .track who now => sendTrack now who k ch
  | .retry who => sendRetry who k ch
  | .giveUp who => sendGiveUp who k ch
  | .write who => sendWrite who k ch
  | .writerPoll => writerPoll k ch
  | .writerRecv => writerRecv k ch
  | .writerSent => writerSent k ch
  | .writerFailed message => writerFailed message k ch
  | .writerFinish => writerFinish k ch
  | .writerAbort => writerAbort k ch
  | .heartbeatPoll => heartbeatPoll k ch
  | .heartbeatTick now => heartbeatTick now k ch
  | .heartbeatAbort => heartbeatAbort k ch
  | .retransmitPoll => retransmitPoll k ch
  | .retransmitTick now => retransmitTick now k ch
  | .retransmitWrite => retransmitWrite k ch
  | .retransmitStop => retransmitStop k ch
  | .retransmitAbort => retransmitAbort k ch
  | .commandPoll => commandPoll k ch
  | .commandRecv => commandRecv k ch
  | .commandGate => commandGate k ch
  | .commandAdmit => commandAdmit k ch
  | .commandReturn => commandReturn k ch
  | .commandFail => commandFail k ch
  | .commandAbort => commandAbort c k ch
  | .readerPoll => readerPoll k ch
  | .readerFrame now frame => readerFrame env now frame k ch
  | .readerRoute => readerRoute k ch
  | .readerStore => readerStore k ch
  | .readerAck stamp => readerAck env stamp k ch
  | .readerDeliver nonce => readerDeliver env nonce k ch
  | .readerNegotiated => readerNegotiated env k ch
  | .readerReplied => readerReplied k ch
  | .readerAdvance => readerAdvance k ch
  | .readerTake => readerTake k ch
  | .readerClose => readerClose k ch
  | .readerAbort => readerAbort c k ch
  | .sendData data => sendData data k ch
  | .sendTerminalSize size => sendTerminalSize size k ch
  | .terminate => terminate k ch
  | .drop => dropSession k ch

/-- How a channel is opened. -/
structure ChannelConfig where
  kms : KmsSupport
  outputBuffer : ℕ
  payloadChunkSize : ℕ
  idleTimeout : ℕ
  openedAt : ℕ
  deriving DecidableEq

/-- `Session::open` and `connect`: a new core, new queues, new tasks and a new handshake handler. -/
def Channel.open (config : ChannelConfig) : Channel where
  core := SessionCore.new config.outputBuffer
  aborted := false
  writerQueue := []
  writer := .select
  commandQueue := []
  command := .select
  commandSend := .idle
  reader := .select
  readerSend := .idle
  handshake := HandshakeHandler.new config.kms
  kmsCalls := 0
  retransmit := .select
  heartbeat := .select
  lastInbound := config.openedAt
  idleTimeout := config.idleTimeout
  chunkSize := max 1 (min config.payloadChunkSize maxPayloadSize)

/-- One session: its stream state, its channels and what has happened. -/
structure System where
  cont : Continuity
  channels : List Channel
  log : List (ℕ × Event)
  deriving DecidableEq

/-- A session whose first channel was just opened. -/
def System.start (config : ChannelConfig) : System where
  cont := Continuity.fresh
  channels := [Channel.open config]
  log := []

/-- A step of the session. -/
inductive Label
  | act (c : ℕ) (action : Action)
  | resume (config : ChannelConfig)

/-- The newest channel was closed for a reason that a resume answers. -/
def System.resumable (s : System) : Bool := s.channels.getLast?.any (·.core.closedResumably)

/-- Perform an operation, or open the next channel. -/
def System.step (env : Env) (s : System) : Label → Option System
  | .act c action =>
      match s.channels[c]? with
      | none => none
      | some ch =>
          match perform env c s.cont ch action with
          | none => none
          | some o =>
              some { cont := o.cont, channels := s.channels.set c o.channel
                     log := s.log ++ o.events.map (fun e => (c, e)) }
  | .resume config =>
      if s.resumable then some { s with channels := s.channels ++ [Channel.open config] } else none

/-- The states of a session, over all interleavings. -/
abbrev Session (env : Env) (config : ChannelConfig) : System → Prop :=
  Reachable (System.step env) free (System.start config)

/-- The events of a session, without the channel they happened on. -/
def System.events (s : System) : List Event := s.log.map Prod.snd

/-! ## Concrete runs -/

/-- A configuration with small queues and a KMS client. -/
def sampleConfig : ChannelConfig where
  kms := .client ⟨"s", "t"⟩
  outputBuffer := 16
  payloadChunkSize := 1024
  idleTimeout := 1000
  openedAt := 0

/-- Operations of one channel, one after the other. -/
def onChannel (c : ℕ) (actions : List Action) : List Label := actions.map (Label.act c)

/-- The agent's `start_publication`. -/
def startPublication : ClientMessage :=
  { agentMessage 0 .undefined [] with messageType := .startPublication }

/-- The reader receives a message. -/
def receiving (m : ClientMessage) : List Action :=
  [.readerPoll, .readerFrame 0 (.binary (.ok m))]

/-- The reader receives a message of the agent's stream and acknowledges it. -/
def receivingData (m : ClientMessage) : List Action :=
  receiving m ++ ([.readerRoute, .readerAck ⟨0, toArray _ []⟩] : List Action)

/-- The command task takes the next command through the gate. -/
def admitting : List Action := [.commandPoll, .commandRecv, .commandGate, .commandAdmit]

/-- A call of `send_payload` that gives its message a number. -/
def numbering (who : Sender) : List Action :=
  [.encrypt who (toArray _ []), .lock who ⟨0, toArray _ []⟩, .track who 0]

/-- Answer the handshake request that was received, up to the next message. -/
def answering : List Action :=
  ([.readerDeliver (toArray _ []), .readerNegotiated] : List Action) ++ numbering .reader ++
    ([.write .reader, .readerReplied, .readerAdvance, .readerTake] : List Action)

end SsmBridge
