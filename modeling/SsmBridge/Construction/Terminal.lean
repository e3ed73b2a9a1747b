import SsmBridge.Construction.Errors
import Mathlib.Data.List.Basic

/-!
# The local terminal

The model of `src/terminal.rs` on unix: the raw-mode guard, and `TerminalReader` with the thread
that reads stdin and the task that watches for resizes.  The two share one bounded queue of events,
on which both wait when it is full.

What the terminal does is up to the labels: what a read of stdin returns, when SIGWINCH is
delivered, whether the signal can be watched.  A signal that is delivered twice before the watcher
looks is seen once, and one that is delivered before the watcher has started is not seen.

`typed`, `reported` and `posted` are observations: what was read from stdin, which sizes the watcher
has found to be new, and what was put on the queue.
-/

namespace SsmBridge.Terminal

/-! ## The terminal -/

/-- Terminal dimensions. -/
structure TerminalSize where
  cols : UInt16
  rows : UInt16
  deriving DecidableEq

/-- The fallback size. -/
def TerminalSize.default : TerminalSize := ⟨80, 24⟩

/-- The terminal that stdin and stdout are connected to, if they are. -/
structure Tty where
  isTerminal : Bool
  raw : Bool
  /-- What the terminal answers when it is asked for its size. -/
  size : Option TerminalSize
  deriving DecidableEq

/-- `TerminalSize::current`. -/
def TerminalSize.current (tty : Tty) : TerminalSize := tty.size.getD .default

/-- `require_terminal`. -/
def requireTerminal (tty : Tty) : Except Error Unit :=
  if tty.isTerminal then .ok ()
  else .error (.config ("an interactive shell needs stdin and stdout attached to a terminal; " ++
    "use Session::send and Session::output for piped or headless use"))

/-- Puts the terminal in raw mode and restores it on drop. -/
structure RawModeGuard where
  wasRaw : Bool
  deriving DecidableEq

namespace RawModeGuard

/-- Enter raw mode. -/
def enter (tty : Tty) : RawModeGuard × Tty := (⟨tty.raw⟩, { tty with raw := true })

/-- Restore the mode; `restored` says whether the terminal lets it. -/
def drop (guard : RawModeGuard) (restored : Bool) (tty : Tty) : Tty :=
  if guard.wasRaw || !restored then tty else { tty with raw := false }

end RawModeGuard

/-! ## The reader -/

/-- What the local terminal produced. -/
inductive TerminalEvent
  /-- Bytes read from stdin, to forward verbatim. -/
  | input (bytes : Bytes)
  | resize (size : TerminalSize)
  /-- Stdin reached end of file. -/
  | eof
  deriving DecidableEq

/-- Read buffer size for stdin. -/
def stdinBuffer : ℕ := 16 * 1024

/-- Depth of the queue of events. -/
def eventQueueDepth : ℕ := 64

/-- Where the stdin thread is. -/
inductive StdinPc
  /-- About to look at the flag. -/
  | checking
  /-- Blocked in `read`. -/
  | reading
  | sending (event : TerminalEvent)
  | finished
  deriving DecidableEq

/-- Where the resize watcher is. -/
inductive WatcherPc
  | starting
  /-- About to look at the flag. -/
  | checking
  /-- Waiting for SIGWINCH. -/
  | waiting
  | sending (size : TerminalSize)
  | finished
  deriving DecidableEq

/-- `TerminalReader`, with the thread and the task that feed it. -/
structure TerminalReader where
  events : List TerminalEvent
  /-- The receiving half of the queue is there. -/
  receiving : Bool
  running : Bool
  stdin : StdinPc
  watcher : WatcherPc
  /-- SIGWINCH was delivered and the watcher has not seen it. -/
  signalled : Bool
  /-- The last size the watcher has seen. -/
  last : TerminalSize
  typed : List Bytes
  reported : List TerminalSize
  posted : List TerminalEvent
  deriving DecidableEq

inductive ReaderLabel
  /-- The stdin thread goes on. -/
  | stdin
  /-- The read of the stdin thread returns some bytes. -/
  | read (chunk : Bytes)
  /-- The read returns the end of stdin. -/
  | readEnd
  /-- The read returns an error. -/
  | readFails (kind : IoErrorKind)
  /-- The watcher goes on. -/
  | watch
  /-- The watcher cannot watch the signal. -/
  | watchFails
  /-- There are no more signals. -/
  | signalsEnd
  /-- SIGWINCH is delivered. -/
  | signal
  deriving DecidableEq

namespace TerminalReader

/-- `TerminalReader::start`. -/
def start : TerminalReader where
  events := []
  receiving := true
  running := true
  stdin := .checking
  watcher := .starting
  signalled := false
  last := .default
  typed := []
  reported := []
  posted := []

variable (r : TerminalReader)

/-- Drop of the reader. -/
def drop : TerminalReader := { r with receiving := false, running := false, events := [] }

/-- Put an event on the queue. -/
def post (event : TerminalEvent) : TerminalReader :=
  { r with events := r.events ++ [event], posted := r.posted ++ [event] }

/-- The queue takes another event. -/
def hasRoom : Bool := decide (r.events.length < eventQueueDepth)

/-- The stdin thread. -/
def stdinStep : Option TerminalReader :=
  match r.stdin with
  | .checking => some { r with stdin := if r.running then .reading else .finished }
  | .sending event =>
      if !r.receiving then some { r with stdin := .finished }
      else if r.hasRoom then
        some { r.post event with stdin := if event = .eof then .finished else .checking }
      else none
  | .reading | .finished => none

/-- The resize watcher. -/
def watchStep (tty : Tty) : Option TerminalReader :=
  match r.watcher with
  | .starting => some { r with watcher := .checking, last := .current tty }
  | .checking => some { r with watcher := if r.running then .waiting else .finished }
  | .waiting =>
      if r.signalled then
        let size := TerminalSize.current tty
        -- SIGWINCH comes without a change of the size, too.
        if size = r.last then some { r with signalled := false, watcher := .checking }
        else
          some { r with signalled := false, last := size, watcher := .sending size
                        reported := r.reported ++ [size] }
      else none
  | .sending size =>
      if !r.receiving then some { r with watcher := .finished }
      else if r.hasRoom then some { r.post (.resize size) with watcher := .checking }
      else none
  | .finished => none

def step (tty : Tty) : ReaderLabel → Option TerminalReader
  | .stdin => r.stdinStep
  | .read chunk =>
      if r.stdin = .reading ∧ chunk ≠ [] ∧ chunk.length ≤ stdinBuffer then
        some { r with stdin := .sending (.input chunk), typed := r.typed ++ [chunk] }
      else none
  | .readEnd => if r.stdin = .reading then some { r with stdin := .sending .eof } else none
  | .readFails kind =>
      if r.stdin = .reading then
        some { r with stdin := if kind = .interrupted then .checking else .sending .eof }
      else none
  | .watch => r.watchStep tty
  | .watchFails => if r.watcher = .starting then some { r with watcher := .finished } else none
  | .signalsEnd => if r.watcher = .waiting then some { r with watcher := .finished } else none
  | .signal =>
      some (if r.watcher = .starting ∨ r.watcher = .finished then r
        else { r with signalled := true })

/-- What `next` would return: nothing yet, the end, or an event. -/
def next : Option (Option (TerminalEvent × TerminalReader)) :=
  match r.events with
  | event :: rest => some (some (event, { r with events := rest }))
  | [] => if r.stdin = .finished ∧ r.watcher = .finished then some none else none

end TerminalReader

end SsmBridge.Terminal
