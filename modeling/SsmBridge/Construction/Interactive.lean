import SsmBridge.Construction.Channel
import SsmBridge.Construction.Fanout
import SsmBridge.Construction.Supervision
import SsmBridge.Construction.Terminal
import SsmBridge.Framework.Machine

/-!
# The interactive shell

`InteractiveShell::attach` of `src/interactive.rs`, with `drive` and `pump`, on top of
`Construction.Terminal`.  A step is what the task does between two points at which it can be
suspended or something else can come in between.  The `select!` of the pump is biased: it polls the
output, the input and the end of the session in this order, and the session goes on between one poll
and the next, so that each of the three is a step of its own.

Of the session there is what the shell sees: the send gate, why it was closed, the banner and the
exit code, its subscription of the output, and the command queue.  Closing the session and closing
its fan-out are two steps.  The future can be dropped wherever it is suspended, and `println!` can
panic; both are `abandon`.

`offered` and `accepted` are observations: the output that reached the subscription, and the
commands the session took.  So are `polled`, what had been offered when the pump polled the output
last, `terminations`, the calls of `Session::terminate`, and `unrestored`, that the terminal refused
to leave raw mode.
-/

namespace SsmBridge.Terminal

open Machine

/-! ## State -/

structure InteractiveConfig where
  showBanner : Bool
  sendInitialSize : Bool
  deriving DecidableEq

/-- What goes to stdout. -/
inductive Printed
  | line (text : String)
  /-- Output of the agent. -/
  | output (data : Bytes)
  /-- The move to column zero at the end. -/
  | cursor (data : Bytes)
  deriving DecidableEq

/-- The output of the agent on stdout. -/
def shown (stdout : List Printed) : Bytes :=
  stdout.flatMap fun
    | .output data => data
    | .line _ | .cursor _ => []

/-- What the shell sees of its session. -/
structure SessionView where
  id : String
  readyTimeout : ℕ
  sendable : Bool
  /-- Why the session was closed, once it was. -/
  reason : Option CloseReason
  banner : Option String
  exitCode : Option ℤ
  subscriberCapacity : ℕ
  fanoutClosed : Bool
  /-- The command queue. -/
  commands : List Command
  /-- Its receiving half is there. -/
  commandsOpen : Bool
  deriving DecidableEq

/-- How `pump` came to its end. -/
inductive PumpEnd
  | outputEnded
  | inputEnded
  | sessionClosed
  | failed (e : Error)
  deriving DecidableEq

/-- What `pump` returns. -/
def PumpEnd.result : PumpEnd → Except Error Unit
  | .failed e => .error e
  | .outputEnded | .inputEnded | .sessionClosed => .ok ()

/-- Where `attach` is. -/
inductive ShellPc
  | starting
  /-- In `drive`, waiting for the session to become ready. -/
  | waiting
  /-- `wait_ready` was woken; about to look at the gate. -/
  | resolved
  /-- About to enter raw mode. -/
  | entering
  /-- About to look at the size of the terminal. -/
  | sizing
  /-- About to look whether the session is closed, before the initial size is queued. -/
  | sendingSize (command : Command)
  /-- About to queue the initial size. -/
  | queueingSize (command : Command)
  /-- About to subscribe to the output. -/
  | subscribing
  /-- At the `select!` of the pump, about to poll the output. -/
  | selecting
  /-- About to poll the input. -/
  | reading
  /-- About to look whether the session is closed. -/
  | checking
  /-- Waiting at the `select!`. -/
  | parked
  /-- About to write a chunk to the terminal. -/
  | writing (chunk : Bytes)
  /-- About to look whether the session is closed, before a command is queued. -/
  | sending (command : Command)
  /-- About to queue a command. -/
  | queueing (command : Command)
  /-- The pump has returned; about to move the cursor. -/
  | leaving (how : PumpEnd)
  /-- About to drop the guard. -/
  | restoring (how : PumpEnd)
  /-- About to read why the session was closed. -/
  | closing (how : PumpEnd)
  /-- About to read the exit code. -/
  | reporting (how : PumpEnd) (reason : Option CloseReason)
  /-- About to terminate the session. -/
  | ending (how : PumpEnd) (reason : Option CloseReason) (exitCode : Option ℤ)
  /-- Inside `terminate`. -/
  | terminating (how : PumpEnd) (reason : Option CloseReason) (exitCode : Option ℤ)
  /-- About to return an error, which drops the guard. -/
  | failing (e : Error)
  | returned (result : Except Error (Option ℤ))
  /-- The future was dropped, or the task has panicked. -/
  | abandoned
  deriving DecidableEq

/-- The future of `attach` is there. -/
def ShellPc.running : ShellPc → Bool
  | .returned _ | .abandoned => false
  | _ => true

/-- The pump is running. -/
def ShellPc.pumps : ShellPc → Bool
  | .selecting | .reading | .checking | .parked | .writing _ | .sending _ | .queueing _ => true
  | _ => false

/-- The shell, its terminal and its session. -/
structure Shell where
  config : InteractiveConfig
  tty : Tty
  session : SessionView
  pc : ShellPc
  guard : Option RawModeGuard
  output : Option OutputStream
  reader : Option TerminalReader
  stdout : List Printed
  offered : List Bytes
  polled : List Bytes
  accepted : List Command
  terminations : ℕ
  unrestored : Bool
  deriving DecidableEq

/-- A shell that is about to be attached to a session. -/
def Shell.new (config : InteractiveConfig) (tty : Tty) (session : SessionView) : Shell where
  config := config
  tty := tty
  session := session
  pc := .starting
  guard := none
  output := none
  reader := none
  stdout := []
  offered := []
  polled := []
  accepted := []
  terminations := 0
  unrestored := false

/-! ## The session -/

namespace SessionView

variable (s : SessionView)

/-- `is_closed()`. -/
def closed : Bool := s.reason.isSome

/-- The error of a call on a session that has ended, or is about to. -/
def closedError : Error :=
  .sessionClosed (s.reason.elim "session is closing" CloseReason.display)

/-- The command queue takes another command. -/
def hasRoom : Bool := decide (s.commands.length < commandQueueDepth)

/-- `SessionCore::close`; the first reason stays. -/
def close (reason : CloseReason) : SessionView := { s with reason := some (s.reason.getD reason) }

/-- `session.output()`. -/
def subscribe : OutputStream where
  queue := []
  capacity := max s.subscriberCapacity 1
  attached := !s.fanoutClosed
  dropped := false
  lagged := false

end SessionView

/-- The payload of `send_terminal_size`. -/
def sizeJson (size : TerminalSize) : Bytes :=
  ("\x7b\"cols\":" ++ toString size.cols.toNat ++ ",\"rows\":" ++ toString size.rows.toNat ++
    "\x7d").toUTF8.data.toList

def sizeCommand (size : TerminalSize) : Command := .control .size (sizeJson size)

/-- What is printed at the end. -/
def endText : Option CloseReason → String
  | some .terminated | none => "Session ended."
  | some reason => "Session ended: " ++ reason.display

/-! ## The task -/

inductive SessionLabel
  /-- The session's send gate is opened or closed. -/
  | setSendable (sendable : Bool)
  | setBanner (banner : Option String)
  | setExitCode (code : Option ℤ)
  /-- The session is closed, and then its fan-out. -/
  | close (reason : CloseReason)
  | fanoutClose
  /-- Output of the agent. -/
  | emit (chunk : Bytes)
  /-- Another handle of the session queues a command. -/
  | commandQueued (command : Command)
  /-- The session takes a command off its queue. -/
  | commandTaken
  /-- The session drops its queue. -/
  | commandsDropped
  deriving DecidableEq

inductive ShellLabel
  /-- The task goes on. -/
  | advance
  /-- The session was not ready in time. -/
  | readyTimeout
  /-- Raw mode cannot be entered. -/
  | rawFails (kind : IoErrorKind) (message : String)
  /-- After `n` bytes the terminal cannot be written to. -/
  | writeFails (n : ℕ) (kind : IoErrorKind) (message : String)
  /-- The terminal refuses to leave raw mode. -/
  | restoreFails
  /-- The future is dropped, or the task panics. -/
  | abandon (restored : Bool)
  | reader (l : ReaderLabel)
  /-- The terminal has a new size. -/
  | resize (size : Option TerminalSize)
  | session (l : SessionLabel)
  deriving DecidableEq

/-- A step of the shell's task or of its terminal. -/
def ShellLabel.isOwn : ShellLabel → Bool
  | .session _ => false
  | _ => true

namespace Shell

variable (s : Shell)

/-- Write to stdout. -/
def print (p : Printed) : Shell := { s with stdout := s.stdout ++ [p] }

/-- Write a line to stdout, if the banner is to be shown. -/
def announce (text : String) : Shell := if s.config.showBanner then s.print (.line text) else s

/-- Drop the guard. -/
def restore (restored : Bool) : Shell :=
  match s.guard with
  | some guard =>
      { s with
        guard := none
        tty := guard.drop restored s.tty
        unrestored := s.unrestored || (!guard.wasRaw && !restored) }
  | none => s

/-- The pump's reader and its subscription are dropped. -/
def dropPump : Shell :=
  { s with
    reader := s.reader.map TerminalReader.drop
    output := s.output.map (fun o => { o with queue := [], dropped := true }) }

/-- The pump returns. -/
def pumpReturns (how : PumpEnd) : Shell := { s.dropPump with pc := .leaving how }

/-- The first half of `dispatch`: a session that has ended takes no command. -/
def dispatch (next : ShellPc) (failed : Error → Shell) : Shell :=
  if s.session.closed then failed s.session.closedError else { s with pc := next }

/-- The second half: queue the command.  Without room the task waits for it, and looks again whether
the session is closed when it is woken. -/
def queue (command : Command) (next again : ShellPc) (failed : Error → Shell) : Shell :=
  if !s.session.commandsOpen then failed s.session.closedError
  else if s.session.hasRoom then
    { s with
      session := { s.session with commands := s.session.commands ++ [command] }
      accepted := s.accepted ++ [command]
      pc := next }
  else { s with pc := again }

/-- The first branch of the `select!`: `output.next()`. -/
def pollOutput : Option Shell :=
  match s.output with
  | some o =>
      let s := { s with polled := s.offered }
      match o.queue with
      | chunk :: rest =>
          some { s with output := some { o with queue := rest }, pc := .writing chunk }
      | [] => if o.attached then some { s with pc := .reading } else some (s.pumpReturns .outputEnded)
  | none => none

/-- The second branch: `terminal_input.next()`. -/
def pollInput : Option Shell :=
  match s.reader with
  | some r =>
      match r.next with
      | some (some (.input bytes, r)) =>
          some { s with reader := some r, pc := .sending (.data bytes) }
      | some (some (.resize size, r)) =>
          some { s with reader := some r, pc := .sending (sizeCommand size) }
      | some (some (.eof, _)) | some none => some (s.pumpReturns .inputEnded)
      | none => some { s with pc := .checking }
  | none => none

/-- The third branch: `session.closed()`. -/
def pollClosed : Shell :=
  if s.session.closed then s.pumpReturns .sessionClosed else { s with pc := .parked }

/-- One of the branches has something to return. -/
def ready : Bool :=
  s.output.any (fun o => !o.queue.isEmpty || !o.attached) ||
    s.reader.any (fun r => r.next.isSome) || s.session.closed

/-- The banner of the session. -/
def showSessionBanner : Shell :=
  match s.session.banner with
  | some banner => s.print (.line banner)
  | none => s

/-- The task, up to its next wait. -/
def advance : Option Shell :=
  match s.pc with
  | .starting =>
      match requireTerminal s.tty with
      | .ok _ =>
          some { s.announce ("Starting session with SessionId: " ++ s.session.id) with
            pc := .waiting }
      | .error e => some { s with pc := .returned (.error e) }
  | .waiting =>
      if s.session.sendable || s.session.closed then some { s with pc := .resolved } else none
  | .resolved =>
      if s.session.sendable then some { s.showSessionBanner with pc := .entering }
      else some { s with pc := .returned (.error s.session.closedError) }
  | .entering =>
      let (guard, tty) := RawModeGuard.enter s.tty
      some { s with
        guard := some guard
        tty := tty
        pc := if s.config.sendInitialSize then .sizing else .subscribing }
  | .sizing => some { s with pc := .sendingSize (sizeCommand (.current s.tty)) }
  | .sendingSize command =>
      some (s.dispatch (.queueingSize command) (fun e => { s with pc := .failing e }))
  | .queueingSize command =>
      some (s.queue command .subscribing (.sendingSize command)
        (fun e => { s with pc := .failing e }))
  | .subscribing =>
      some { s with
        reader := some .start
        output := some s.session.subscribe
        pc := .selecting }
  | .selecting => s.pollOutput
  | .reading => s.pollInput
  | .checking => some s.pollClosed
  | .parked => if s.ready then some { s with pc := .selecting } else none
  | .writing chunk => some { s.print (.output chunk) with pc := .selecting }
  | .sending command =>
      some (s.dispatch (.queueing command) (fun e => s.pumpReturns (.failed e)))
  | .queueing command =>
      some (s.queue command .selecting (.sending command) (fun e => s.pumpReturns (.failed e)))
  | .leaving how => some { s.print (.cursor [13, 10]) with pc := .restoring how }
  | .restoring how => some { s.restore true with pc := .closing how }
  | .closing how => some { s with pc := .reporting how s.session.reason }
  | .reporting how reason => some { s with pc := .ending how reason s.session.exitCode }
  | .ending how reason exitCode =>
      some { s with
        session := s.session.close .terminated
        terminations := s.terminations + 1
        pc := .terminating how reason exitCode }
  | .terminating how reason exitCode =>
      some { s.announce (endText reason) with
        pc := .returned (how.result.map fun _ => exitCode) }
  | .failing e => some { s.restore true with pc := .returned (.error e) }
  | .returned _ | .abandoned => none

/-- A write to the terminal fails after `n` bytes; the last one's failure is ignored. -/
def writeFails (n : ℕ) (e : Error) : Option Shell :=
  match s.pc with
  | .writing chunk => some ((s.print (.output (chunk.take n))).pumpReturns (.failed e))
  | .leaving how => some { s.print (.cursor ([13, 10].take n)) with pc := .restoring how }
  | _ => none

/-- Drop the guard on a terminal that refuses to leave raw mode. -/
def restoreFails : Option Shell :=
  match s.pc with
  | .restoring how => some { s.restore false with pc := .closing how }
  | .failing e => some { s.restore false with pc := .returned (.error e) }
  | _ => none

/-- Everything the future holds is dropped. -/
def abandon (restored : Bool) : Option Shell :=
  match s.pc with
  | .returned _ | .abandoned => none
  | _ =>
      some { s.dropPump.restore restored with pc := .abandoned }

/-- The output of the agent reaches the subscription. -/
def receiving : Bool := s.output.any (fun o => o.attached && !o.dropped)

/-- What the session does. -/
def sessionStep : SessionLabel → Option Shell
  | .setSendable sendable => some { s with session := { s.session with sendable } }
  | .setBanner banner => some { s with session := { s.session with banner } }
  | .setExitCode exitCode => some { s with session := { s.session with exitCode } }
  | .close reason => some { s with session := s.session.close reason }
  | .fanoutClose =>
      if s.session.closed then
        some { s with session := { s.session with fanoutClosed := true }
                      output := s.output.map (fun o => { o with attached := false }) }
      else none
  | .emit chunk =>
      if s.session.fanoutClosed then none
      else
        some { s with output := s.output.map (.offer chunk)
                      offered := if s.receiving then s.offered ++ [chunk] else s.offered }
  | .commandQueued command =>
      if s.session.commandsOpen then
        some { s with session := { s.session with commands := s.session.commands ++ [command] } }
      else none
  | .commandTaken =>
      match s.session.commands with
      | _ :: rest => some { s with session := { s.session with commands := rest } }
      | [] => none
  | .commandsDropped =>
      if s.session.closed then
        some { s with session := { s.session with commands := [], commandsOpen := false } }
      else none

def step : ShellLabel → Option Shell
  | .advance => s.advance
  | .readyTimeout =>
      if s.pc = .waiting ∧ s.session.sendable = false ∧ s.session.closed = false then
        some { s with pc := .returned (.error (.timeout s.session.readyTimeout)) }
      else none
  | .rawFails kind message =>
      if s.pc = .entering then some { s with pc := .returned (.error (.io kind message)) } else none
  | .writeFails n kind message => s.writeFails n (.io kind message)
  | .restoreFails => s.restoreFails
  | .abandon restored => s.abandon restored
  | .reader l =>
      (s.reader.bind (·.step s.tty l)).map fun reader => { s with reader := some reader }
  | .resize size => some { s with tty := { s.tty with size } }
  | .session l => s.sessionStep l

end Shell

end SsmBridge.Terminal
