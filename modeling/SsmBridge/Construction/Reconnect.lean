import SsmBridge.Construction.System

/-!
# The durable output of a reconnecting session

The model of `src/reconnect.rs` as far as the output goes: `Inner::adopt`, `pump_output` and
`supervise` around one session and the channels that resume it, and the fan-out that
`ReconnectingSession::output` subscribes to.

Every adopted channel has a pump, a task that subscribes to the channel's own fan-out when it first
runs and forwards what it receives into the durable one.  The channel's reader runs from the moment
`connect` spawned it, which is inside `resume_session` and so before the channel is adopted.

A session that cannot be resumed is replaced by a new one, with a `Continuity` of its own; that is
the end of the session modelled here.
-/

namespace SsmBridge

/-- Where the pump of a channel has got to. -/
inductive PumpPc
  /-- Spawned and not run yet. -/
  | spawned
  /-- Waiting for the next chunk of its stream. -/
  | pumping (stream : ℕ)
  /-- About to hand a chunk to the durable fan-out. -/
  | forwarding (stream : ℕ) (chunk : Bytes)
  | ended
  deriving DecidableEq

/-- Where the supervisor has got to. -/
inductive SupervisorPc
  /-- A channel was opened and is not adopted yet.  For the first one this is `connect_with`, which
  spawns the supervisor afterwards. -/
  | adopting
  | watching
  /-- Inside `reconnect`, with or without a session to resume. -/
  | reconnecting (resumeFrom : Bool)
  /-- Out of the loop; about to close the durable fan-out. -/
  | closing
  | ended
  deriving DecidableEq

/-- A subscription to the durable output, as its owner sees it. -/
structure Subscriber where
  /-- How many payloads the readers had delivered when it subscribed. -/
  joined : ℕ
  /-- The chunks it has received. -/
  received : List Bytes
  deriving DecidableEq

/-- A session handle that outlives the channels underneath it. -/
structure ReconnectingSession where
  config : ChannelConfig
  /-- The session and the channels opened for it. -/
  session : System
  /-- The pumps of the adopted channels. -/
  pumps : List PumpPc
  supervisor : SupervisorPc
  shutdown : Bool
  /-- The durable fan-out. -/
  output : OutputFanout
  /-- Its subscribers, by the handle of their stream. -/
  subscribers : List Subscriber
  deriving DecidableEq

/-- The payload an event hands to a fan-out, with the number of its message. -/
def Event.output : Event → Option (Int64 × Bytes)
  | .emitted n payload => some (n, payload)
  | _ => none

/-- The payloads the readers handed to the fan-outs, in order. -/
def System.emitted (s : System) : List (Int64 × Bytes) := s.events.filterMap Event.output

/-- Another state of a channel's fan-out. -/
def Channel.withFanout (ch : Channel) (fanout : OutputFanout) : Channel :=
  { ch with core := { ch.core with fanout } }

/-- A step of a reconnecting session. -/
inductive Move
  /-- An operation of one of the channels, by its tasks or by a caller. -/
  | act (c : ℕ) (action : Action)
  | adopt
  /-- The supervisor sees the current session closed. -/
  | observe
  /-- The supervisor sees the shutdown. -/
  | stop
  /-- `resume_session` succeeds at this time. -/
  | resume (now : ℕ)
  /-- The session cannot be resumed. -/
  | refuse
  | giveUp
  /-- The supervisor closes the durable fan-out and finishes. -/
  | finish
  /-- The pump of a channel runs for the first time. -/
  | pumpStart (c : ℕ)
  | pumpNext (c : ℕ)
  | pumpSend (c : ℕ)
  | pumpEnd (c : ℕ)
  | subscribe
  | recv (i : ℕ)
  | dropStream (i : ℕ)
  /-- `terminate` signals the shutdown. -/
  | shutdown
  /-- `terminate` closes the durable fan-out. -/
  | closeOutput

namespace ReconnectingSession

/-- `connect_with`, up to the first session being open. -/
def start (config : ChannelConfig) : ReconnectingSession where
  config := config
  session := System.start config
  pumps := []
  supervisor := .adopting
  shutdown := false
  output := OutputFanout.new
  subscribers := []

/-- Change the fan-out of a channel and move its pump. -/
def setPump (r : ReconnectingSession) (c : ℕ) (ch : Channel) (fanout : OutputFanout)
    (pump : PumpPc) : ReconnectingSession :=
  { r with session := { r.session with channels := r.session.channels.set c (ch.withFanout fanout) }
           pumps := r.pumps.set c pump }

/-! ## `pump_output` -/

/-- `session.output()`: subscribe to the channel's fan-out. -/
def pumpStart (r : ReconnectingSession) (c : ℕ) : Option ReconnectingSession :=
  match r.pumps[c]?, r.session.channels[c]? with
  | some .spawned, some ch =>
      let (stream, fanout) := ch.core.fanout.subscribe ch.core.subscriberCapacity
      some (r.setPump c ch fanout (.pumping stream))
  | _, _ => none

def pumpNext (r : ReconnectingSession) (c : ℕ) : Option ReconnectingSession :=
  match r.pumps[c]?, r.session.channels[c]? with
  | some (.pumping stream), some ch =>
      match ch.core.fanout.recv stream with
      | some (chunk, fanout) => some (r.setPump c ch fanout (.forwarding stream chunk))
      | none => none
  | _, _ => none

def pumpSend (r : ReconnectingSession) (c : ℕ) : Option ReconnectingSession :=
  match r.pumps[c]? with
  | some (.forwarding stream chunk) =>
      some { r with output := r.output.send chunk, pumps := r.pumps.set c (.pumping stream) }
  | _ => none

/-- The stream of the pump has ended, for whatever reason. -/
def pumpEnd (r : ReconnectingSession) (c : ℕ) : Option ReconnectingSession :=
  match r.pumps[c]?, r.session.channels[c]? with
  | some (.pumping stream), some ch =>
      if (ch.core.fanout.streams[stream]?).any OutputStream.ended then
        some { r with pumps := r.pumps.set c .ended }
      else none
  | _, _ => none

/-! ## `supervise` -/

/-- Install a session that was opened and spawn its pump. -/
def adopt (r : ReconnectingSession) : Option ReconnectingSession :=
  match r.supervisor with
  | .adopting => some { r with pumps := r.pumps ++ [.spawned], supervisor := .watching }
  | _ => none

def observe (r : ReconnectingSession) : Option ReconnectingSession :=
  match r.supervisor, r.session.channels.getLast?.bind (·.core.closeReason) with
  | .watching, some reason =>
      if reason.isRecoverable then
        some { r with supervisor := .reconnecting reason.isResumable }
      else some { r with supervisor := .closing }
  | _, _ => none

def stop (r : ReconnectingSession) : Option ReconnectingSession :=
  match r.supervisor, r.shutdown with
  | .watching, true => some { r with supervisor := .ended }
  | _, _ => none

/-- The service resumed the session: `Session::open` runs, on the same `Continuity`. -/
def resume (env : Env) (r : ReconnectingSession) (now : ℕ) : Option ReconnectingSession :=
  match r.supervisor, System.step env r.session (.resume { r.config with openedAt := now }) with
  | .reconnecting true, some session => some { r with session, supervisor := .adopting }
  | _, _ => none

def refuse (r : ReconnectingSession) : Option ReconnectingSession :=
  match r.supervisor with
  | .reconnecting true => some { r with supervisor := .reconnecting false }
  | _ => none

def giveUp (r : ReconnectingSession) : Option ReconnectingSession :=
  match r.supervisor with
  | .reconnecting _ => some { r with supervisor := .closing }
  | _ => none

def finish (r : ReconnectingSession) : Option ReconnectingSession :=
  match r.supervisor with
  | .closing => some { r with output := r.output.close, supervisor := .ended }
  | _ => none

/-! ## The handle -/

/-- `ReconnectingSession::output`. -/
def subscribe (r : ReconnectingSession) : ReconnectingSession :=
  { r with output := (r.output.subscribe r.config.outputBuffer).2
           subscribers := r.subscribers ++ [⟨r.session.emitted.length, []⟩] }

/-- A subscriber takes the next chunk off its stream. -/
def recv (r : ReconnectingSession) (i : ℕ) : Option ReconnectingSession :=
  match r.output.recv i, r.subscribers[i]? with
  | some (chunk, output), some sub =>
      some { r with
        output
        subscribers := r.subscribers.set i { sub with received := sub.received ++ [chunk] } }
  | _, _ => none

def dropStream (r : ReconnectingSession) (i : ℕ) : ReconnectingSession :=
  { r with output := { r.output with
      streams := r.output.streams.modify i (fun s => { s with dropped := true }) } }

/-- Perform a step. -/
def step (env : Env) (r : ReconnectingSession) : Move → Option ReconnectingSession
  | .act c action =>
      (System.step env r.session (.act c action)).map (fun session => { r with session })
  | .adopt => r.adopt
  | .observe => r.observe
  | .stop => r.stop
  | .resume now => r.resume env now
  | .refuse => r.refuse
  | .giveUp => r.giveUp
  | .finish => r.finish
  | .pumpStart c => r.pumpStart c
  | .pumpNext c => r.pumpNext c
  | .pumpSend c => r.pumpSend c
  | .pumpEnd c => r.pumpEnd c
  | .subscribe => some r.subscribe
  | .recv i => r.recv i
  | .dropStream i => some (r.dropStream i)
  | .shutdown => some { r with shutdown := true }
  | .closeOutput => if r.shutdown then some { r with output := r.output.close } else none

end ReconnectingSession

end SsmBridge
