import SsmBridge.Construction.Interactive
import SsmBridge.Construction.Reconnect

/-!
# A shell on a channel of a session

`Construction.Interactive` has the shell beside a session that changes as it likes.  Here the
session is one of `Construction.System`, with all its tasks, and the shell is attached to one of its
channels.  A step is one of the session, or one of the shell's own; what the shell's task asks of
its session is done on the channel: it subscribes to the output, takes a chunk off its stream,
queues a command, terminates the session, and drops its stream.  After every step the shell sees
what is on the channel then.

The future of `attach` holds a handle of the session, so that the session is not dropped while it is
there.  Other handles may queue commands of their own, and terminate the session.

`joined` is an observation: how many payloads the channel had delivered when the shell subscribed.
-/

namespace SsmBridge

/-- The payloads that one channel handed to its fan-out, in order. -/
def System.payloadsOn (s : System) (c : ℕ) : List Bytes :=
  s.log.filterMap fun (c', e) => if c' = c then e.output.map Prod.snd else none

/-- Drop a stream, with what is queued in it. -/
def OutputFanout.dropStream (f : OutputFanout) (i : ℕ) : OutputFanout :=
  { f with streams := f.streams.modify i (fun o => { o with queue := [], dropped := true }) }

namespace Terminal

/-! ## What the shell sees -/

/-- The session as it is on this channel. -/
def SessionView.look (v : SessionView) (ch : Channel) : SessionView :=
  { v with
    sendable := ch.core.sendable
    reason := ch.core.closeReason
    banner := ch.core.banner
    exitCode := ch.core.exitCode
    subscriberCapacity := ch.core.subscriberCapacity
    fanoutClosed := ch.core.fanout.closed
    commands := ch.commandQueue
    commandsOpen := decide (ch.command ≠ .ended) }

/-- The shell sees this channel, and its subscription is this stream. -/
def Shell.look (s : Shell) (ch : Channel) (stream : Option ℕ) : Shell :=
  { s with session := s.session.look ch, output := stream.bind (ch.core.fanout.streams[·]?) }

/-- The session hands out these payloads. -/
def Shell.hear (s : Shell) (chunks : List Bytes) : Shell :=
  { s with offered := if s.receiving then s.offered ++ chunks else s.offered }

/-! ## What the shell asks for -/

/-- What a step of the task asks of its session. -/
inductive SessionCall
  | subscribe
  /-- Take a chunk off the stream. -/
  | recv
  | dispatch (command : Command)
  | terminate
  /-- Drop the stream. -/
  | drop
  deriving DecidableEq

/-- What the task asks for on its way from one place to another. -/
def SessionCall.between : ShellPc → ShellPc → Option SessionCall
  | .subscribing, .selecting => some .subscribe
  | .selecting, .writing _ => some .recv
  | .queueing command, .selecting => some (.dispatch command)
  | .queueingSize command, .subscribing => some (.dispatch command)
  | .ending _ _ _, .terminating _ _ _ => some .terminate
  | pc, pc' => if pc.pumps && !pc'.pumps then some .drop else none

/-- A channel does what it is asked for: what comes of it, and the stream the shell has then. -/
def SessionCall.perform (k : Continuity) (ch : Channel) (stream : Option ℕ) :
    SessionCall → Option (Outcome × Option ℕ)
  | .subscribe =>
      let (i, fanout) := ch.core.fanout.subscribe ch.core.subscriberCapacity
      some (⟨k, ch.withFanout fanout, []⟩, some i)
  | .recv =>
      stream.bind fun i =>
        (ch.core.fanout.recv i).map fun (_, fanout) => (⟨k, ch.withFanout fanout, []⟩, some i)
  | .dispatch command => (SsmBridge.dispatch command k ch).map (·, stream)
  | .terminate => (SsmBridge.terminate k ch).map (·, stream)
  | .drop => stream.map fun i => (⟨k, ch.withFanout (ch.core.fanout.dropStream i), []⟩, some i)

/-! ## Steps -/

/-- A session and the shell that is attached to one of its channels. -/
structure AttachedShell where
  session : System
  shell : Shell
  /-- The handle of its subscription. -/
  stream : Option ℕ
  joined : ℕ
  deriving DecidableEq

/-- The session as a shell finds it that is attached to this channel. -/
def openedSession (id : String) (readyTimeout : ℕ) (ch : Channel) : SessionView :=
  SessionView.look
    { id, readyTimeout, sendable := false, reason := none, banner := none, exitCode := none
      subscriberCapacity := 0, fanoutClosed := false, commands := [], commandsOpen := true } ch

/-- A shell that is about to be attached. -/
def AttachedShell.new (config : InteractiveConfig) (tty : Tty) (id : String) (readyTimeout : ℕ)
    (session : System) (ch : Channel) : AttachedShell where
  session := session
  shell := .new config tty (openedSession id readyTimeout ch)
  stream := none
  joined := 0

inductive AttachedLabel
  | session (l : Label)
  | shell (l : ShellLabel)

/-- The last handle of the session is dropped. -/
def dropsSession (c : ℕ) : Label → Bool
  | .act c' .drop => c' == c
  | _ => false

namespace AttachedShell

/-- The session has gone on to this state. -/
def follow (c : ℕ) (a : AttachedShell) (session : System) : AttachedShell :=
  match session.channels[c]? with
  | some ch =>
      let chunks := (session.payloadsOn c).drop (a.session.payloadsOn c).length
      { a with session, shell := (a.shell.hear chunks).look ch a.stream }
  | none => { a with session }

/-- The shell goes on to this state, and the channel does what it asks for. -/
def go (c : ℕ) (a : AttachedShell) (shell : Shell) : Option AttachedShell :=
  match SessionCall.between a.shell.pc shell.pc, a.session.channels[c]? with
  | none, _ => some { a with shell }
  | some call, some ch =>
      (call.perform a.session.cont ch a.stream).map fun (o, stream) =>
        { session :=
            { cont := o.cont
              channels := a.session.channels.set c o.channel
              log := a.session.log ++ o.events.map (fun e => (c, e)) }
          shell := shell.look o.channel stream
          stream
          joined := if call = .subscribe then (a.session.payloadsOn c).length else a.joined }
  | some _, none => none

/-- A step of the session, or of the shell. -/
def step (env : Env) (c : ℕ) (a : AttachedShell) : AttachedLabel → Option AttachedShell
  | .session l =>
      if a.shell.pc.running && dropsSession c l then none
      else (System.step env a.session l).map (follow c a)
  | .shell l => if l.isOwn then (a.shell.step l).bind (go c a) else none

end AttachedShell

end Terminal

end SsmBridge
