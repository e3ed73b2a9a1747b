import SsmBridge.Construction.Smux
import SsmBridge.Framework.Machine
import SsmBridge.Framework.Notify

/-!
# The multiplexer and its streams

The model of `Inner`, `SmuxSession::open_stream` and `SmuxStream` in `src/mux.rs`, in atomic steps:
a step is what one thread does between two points at which another can come in.

A stream is one record from the moment its id is drawn: the `SmuxStream` of the caller, the two
halves of its inbound queue and the close tag that both sides share.  The map of `Inner` is the
flag `listed`: an entry under an id is the stream with that id whose flag is up, and inserting one
takes the flag of every other stream with the id down.  Streams are kept in the order in which
their ids were drawn, so that the index is the caller's handle.

`recv_task` is the only caller of `route_push` and `route_fin`, so at most one frame is being
routed at a time; `router` says how far it has got.  Of the calls of `close`, the one that raises
the flag goes on, and `closing` says how far.  The lock on the map is held across steps only by
that call, while it tags the streams.

What was routed, and what a stream has returned, are observations for stating results; nothing
reads them.
-/

namespace SsmBridge.Smux

open Machine

/-! ## State -/

/-- Outbound frame queue depth, shared by all streams. -/
def frameQueueDepth : ℕ := 256

/-- Per-stream inbound queue depth, in frames. -/
def streamQueueDepth : ℕ := 256

/-- Why a stream reached end of file. -/
inductive StreamCloseReason
  | clean
  | slowConsumer
  | desynchronised
  deriving DecidableEq

/-- How far `open_stream`, and later the drop of the stream, have got. -/
inductive StreamPhase
  /-- The id is drawn. -/
  | numbered
  /-- The entry is in the map; about to announce the stream. -/
  | registered
  /-- The announcement was refused; about to take the entry out again. -/
  | refused
  /-- `open_stream` returned an error. -/
  | failed
  /-- The caller holds the stream. -/
  | held
  /-- Being dropped: FIN is queued, the entry about to be taken out. -/
  | dropping
  /-- The entry is out; about to let go of the queue. -/
  | removed
  | dropped
  deriving DecidableEq

/-- A stream, with its queue and its close tag. -/
structure SmuxStream where
  id : UInt32
  phase : StreamPhase
  /-- The map holds the entry of this stream under its id. -/
  listed : Bool
  queue : List Bytes
  /-- The close tag; `none` while the stream is open. -/
  tag : Option StreamCloseReason
  /-- Remainder of a frame that did not fit in the caller's last buffer. -/
  remainder : Option Bytes
  readClosed : Bool
  writeClosed : Bool
  /-- A read found the queue empty and is about to consult the close flag. -/
  polling : Bool
  /-- The bytes that reads have returned. -/
  returned : Bytes
  /-- How many frames with its id had been routed when the entry was made. -/
  since : ℕ
  deriving DecidableEq

def SmuxStream.new (id : UInt32) : SmuxStream where
  id := id
  phase := .numbered
  listed := false
  queue := []
  tag := none
  remainder := none
  readClosed := false
  writeClosed := false
  polling := false
  returned := []
  since := 0

/-- The receiving half of the queue is gone. -/
def SmuxStream.gone (st : SmuxStream) : Bool :=
  match st.phase with
  | .failed | .dropped => true
  | _ => false

/-- How far the routing of a PSH frame has got. -/
inductive RouterPc
  | idle
  /-- The stream was found; about to queue the payload. -/
  | sending (i : ℕ) (id : UInt32) (payload : Bytes)
  /-- Its queue is full; about to tag it. -/
  | evicting (i : ℕ) (id : UInt32)
  /-- About to take the entry out of the map; `evicted` tells why. -/
  | removing (i : ℕ) (id : UInt32) (evicted : Bool)
  /-- About to reply with FIN. -/
  | replying (found : Option ℕ) (id : UInt32)
  deriving DecidableEq

/-- The id of the frame being routed. -/
def RouterPc.id? : RouterPc → Option UInt32
  | .idle => none
  | .sending _ id _ | .evicting _ id | .removing _ id _ | .replying _ id => some id

/-- The stream whose sending half the routing holds a clone of. -/
def RouterPc.target : RouterPc → Option ℕ
  | .idle => none
  | .sending i _ _ | .evicting i _ | .removing i _ _ => some i
  | .replying found _ => found

/-- How far the call of `close` that raised the flag has got. -/
inductive ClosePc
  | idle
  | notifying (reason : StreamCloseReason)
  | locking (reason : StreamCloseReason)
  /-- Holding the lock on the map, tagging the streams. -/
  | sweeping (reason : StreamCloseReason)
  | completed (reason : StreamCloseReason)
  deriving DecidableEq

def ClosePc.reason : ClosePc → Option StreamCloseReason
  | .idle => none
  | .notifying r | .locking r | .sweeping r | .completed r => some r

/-- The state that the tasks, the streams and their owner share. -/
structure Inner where
  streams : List SmuxStream
  /-- The outbound frame queue. -/
  frames : List Frame
  /-- Its receiving half, which `send_task` owns, is there. -/
  framesOpen : Bool
  nextId : UInt32
  closed : Bool
  closing : ClosePc
  die : Notify
  /-- Calls of `open_stream` that found the session open and have not drawn an id yet. -/
  admitted : ℕ
  router : RouterPc
  /-- The PSH and FIN frames routed so far. -/
  routed : List Frame
  deriving DecidableEq

/-- `SmuxSession::new`. -/
def Inner.new : Inner where
  streams := []
  frames := []
  framesOpen := true
  nextId := 1
  closed := false
  closing := .idle
  die := .new
  admitted := 0
  router := .idle
  routed := []

namespace Inner

/-- The lock on the map is taken. -/
def locked (σ : Inner) : Bool :=
  match σ.closing with
  | .sweeping _ => true
  | _ => false

/-- The outbound queue takes another frame. -/
def framesRoom (σ : Inner) : Bool := σ.framesOpen && decide (σ.frames.length < frameQueueDepth)

/-- Append a frame to the outbound queue. -/
def enqueue (σ : Inner) (frame : Frame) : Inner := { σ with frames := σ.frames ++ [frame] }

/-- `frames.try_send`, the result ignored. -/
def tryFrame (σ : Inner) (frame : Frame) : Inner :=
  if σ.framesRoom then σ.enqueue frame else σ

/-- Change one stream. -/
def modify (σ : Inner) (i : ℕ) (f : SmuxStream → SmuxStream) : Inner :=
  { σ with streams := σ.streams.modify i f }

/-- `streams.get(&id)`. -/
def lookup (σ : Inner) (id : UInt32) : Option ℕ :=
  σ.streams.findIdx? (fun st => st.listed && st.id == id)

/-- `streams.remove(&id)`. -/
def unlist (σ : Inner) (id : UInt32) : Inner :=
  let clear (st : SmuxStream) : SmuxStream := if st.id = id then { st with listed := false } else st
  { σ with streams := σ.streams.map clear }

/-- Record a frame that is being routed. -/
def record (σ : Inner) (frame : Frame) : Inner := { σ with routed := σ.routed ++ [frame] }

/-- Move the routing of a frame on. -/
def moveRouter (σ : Inner) (router : RouterPc) : Inner := { σ with router }

/-- The frames routed so far that carry an id. -/
def routedTo (σ : Inner) (id : UInt32) : List Frame := σ.routed.filter (fun f => f.streamId == id)

/-- A sending half of the stream's queue is left: the entry's, or the clone of a routing. -/
def senderAlive (σ : Inner) (i : ℕ) (st : SmuxStream) : Bool :=
  st.listed || decide (σ.router.target = some i)

end Inner

/-! ## `open_stream` -/

/-- The check for a closed session. -/
def openAdmit (σ : Inner) : Option Inner :=
  if σ.closed then none else some { σ with admitted := σ.admitted + 1 }

/-- Draw an id; the counter wraps. -/
def openNumber (σ : Inner) : Option Inner :=
  match σ.admitted with
  | 0 => none
  | n + 1 =>
      some { σ with admitted := n, streams := σ.streams ++ [.new σ.nextId], nextId := σ.nextId + 2 }

/-- Put the entry into the map, in place of whatever is there under the id. -/
def openRegister (σ : Inner) (i : ℕ) : Option Inner :=
  match σ.streams[i]?, σ.locked with
  | some st, false =>
      match st.phase with
      | .numbered =>
          some ((σ.unlist st.id).modify i (fun st =>
            { st with phase := .registered, listed := true, since := (σ.routedTo st.id).length }))
      | _ => none
  | _, _ => none

/-- The announcement was queued and the stream is returned. -/
def openReturn (σ : Inner) (i : ℕ) : Option Inner :=
  match σ.streams[i]? with
  | some st =>
      match st.phase, σ.framesRoom with
      | .registered, true =>
          some ((σ.enqueue ⟨cmdSyn, st.id, []⟩).modify i (fun st => { st with phase := .held }))
      | _, _ => none
  | none => none

/-- The announcement was refused: the queue is full, or its receiver is gone. -/
def openRefuse (σ : Inner) (i : ℕ) : Option Inner :=
  match σ.streams[i]? with
  | some st =>
      match st.phase, σ.framesRoom with
      | .registered, false => some (σ.modify i (fun st => { st with phase := .refused }))
      | _, _ => none
  | none => none

/-- Take the entry out again and return the error. -/
def openWithdraw (σ : Inner) (i : ℕ) : Option Inner :=
  match σ.streams[i]?, σ.locked with
  | some st, false =>
      match st.phase with
      | .refused => some ((σ.unlist st.id).modify i (fun st => { st with phase := .failed }))
      | _ => none
  | _, _ => none

/-! ## Routing -/

/-- `route_push`, up to the end of the lookup. -/
def routePush (σ : Inner) (id : UInt32) (payload : Bytes) : Option Inner :=
  match σ.router, σ.locked with
  | .idle, false =>
      let σ := σ.record ⟨cmdPsh, id, payload⟩
      match σ.lookup id with
      | some i => some (σ.moveRouter (.sending i id payload))
      | none => some (σ.moveRouter (.replying none id))
  | _, _ => none

/-- The rest of `route_push`, one step at a time. -/
def routeStep (σ : Inner) (id : UInt32) : Option Inner :=
  if σ.router.id? = some id then
    match σ.router with
    | .idle => none
    | .sending i id payload =>
        match σ.streams[i]? with
        | some st =>
            if st.gone then some (σ.moveRouter (.removing i id false))
            else if streamQueueDepth ≤ st.queue.length then some (σ.moveRouter (.evicting i id))
            else
              some ((σ.modify i (fun st => { st with queue := st.queue ++ [payload] })).moveRouter
                .idle)
        | none => none
    | .evicting i id =>
        some ((σ.modify i (fun st => { st with tag := some .slowConsumer })).moveRouter
          (.removing i id true))
    | .removing i id evicted =>
        if σ.locked then none
        else some ((σ.unlist id).moveRouter (if evicted then .replying (some i) id else .idle))
    | .replying _ id => some ((σ.tryFrame ⟨cmdFin, id, []⟩).moveRouter .idle)
  else none

/-- Tag a stream that has no tag yet. -/
def SmuxStream.close (reason : StreamCloseReason) (st : SmuxStream) : SmuxStream :=
  { st with tag := some (st.tag.getD reason) }

/-- `route_fin`: dropping the sender gives the reader a clean end of file. The lock is held
throughout. -/
def routeFin (σ : Inner) (id : UInt32) (payload : Bytes) : Option Inner :=
  match σ.router, σ.locked with
  | .idle, false =>
      let σ := σ.record ⟨cmdFin, id, payload⟩
      match σ.lookup id with
      | some i => some ((σ.unlist id).modify i (SmuxStream.close .clean))
      | none => some σ
  | _, _ => none

/-! ## `close` -/

/-- Raise the flag; a call that finds it up returns. -/
def close (σ : Inner) (reason : StreamCloseReason) : Inner :=
  if σ.closed then σ else { σ with closed := true, closing := .notifying reason }

/-- The rest of the call that raised the flag. -/
def closeStep (σ : Inner) : Option Inner :=
  match σ.closing with
  | .notifying r => some { σ with die := σ.die.notifyWaiters, closing := .locking r }
  | .locking r => some { σ with closing := .sweeping r }
  | .sweeping r =>
      if σ.streams.all (fun st => !st.listed || st.tag.isSome) then
        some { σ with streams := σ.streams.map (fun st => { st with listed := false })
                      closing := .completed r }
      else none
  | .idle | .completed _ => none

/-- Tag one stream of the map. -/
def closeSweep (σ : Inner) (i : ℕ) : Option Inner :=
  match σ.closing, σ.streams[i]? with
  | .sweeping r, some st => if st.listed then some (σ.modify i (SmuxStream.close r)) else none
  | _, _ => none

/-! ## `SmuxStream` -/

/-- Serve a read of `size` bytes from a chunk. -/
def SmuxStream.serve (st : SmuxStream) (size : ℕ) (chunk : Bytes) : SmuxStream :=
  { st with returned := st.returned ++ chunk.take size
            remainder := if chunk.drop size = [] then none else some (chunk.drop size) }

/-- `poll_read` with room for `size` bytes, up to the result of `poll_recv`. -/
def pollRead (σ : Inner) (i : ℕ) (size : ℕ) : Option Inner :=
  match σ.streams[i]? with
  | some st =>
      if st.phase ≠ .held ∨ st.polling = true then none
      else if st.readClosed then some σ
      else
        match st.remainder, st.queue with
        | some chunk, _ => some (σ.modify i (fun st => st.serve size chunk))
        | none, chunk :: rest =>
            some (σ.modify i (fun st => ({ st with queue := rest } : SmuxStream).serve size chunk))
        | none, [] =>
            if σ.senderAlive i st then some (σ.modify i (fun st => { st with polling := true }))
            else some (σ.modify i (fun st => { st with readClosed := true }))
  | none => none

/-- A `poll_read` whose `poll_recv` is pending although something is queued, because the task has
used up its budget. -/
def pollThrottled (σ : Inner) (i : ℕ) : Option Inner :=
  match σ.streams[i]? with
  | some st =>
      if st.phase ≠ .held ∨ st.polling = true ∨ st.readClosed = true ∨ st.remainder ≠ none then none
      else some (σ.modify i (fun st => { st with polling := true }))
  | none => none

/-- The end of a `poll_read` that got nothing: only a closed session makes that an end of file. -/
def pollClosed (σ : Inner) (i : ℕ) : Option Inner :=
  match σ.streams[i]? with
  | some st =>
      if st.polling then
        some (σ.modify i (fun st => { st with polling := false, readClosed := σ.closed }))
      else none
  | none => none

/-- `poll_write`. -/
def pollWrite (σ : Inner) (i : ℕ) (data : Bytes) : Option Inner :=
  match σ.streams[i]? with
  | some st =>
      if st.phase ≠ .held then none
      else if st.writeClosed || σ.closed || !σ.framesRoom then some σ
      else some (σ.enqueue ⟨cmdPsh, st.id, data.take maxFramePayload⟩)
  | none => none

/-- What `poll_write` returns. -/
inductive WriteResult
  | pending
  | written (n : ℕ)
  | failed (message : String)

/-- The result of `poll_write`; the errors are of the kind `BrokenPipe`. -/
def writeResult (σ : Inner) (i : ℕ) (data : Bytes) : Option WriteResult :=
  match σ.streams[i]? with
  | some st =>
      if st.phase ≠ .held then none
      else if st.writeClosed then some (.failed "smux stream is write-closed")
      else if σ.closed || !σ.framesOpen then some (.failed "smux session is closed")
      else if σ.framesRoom then some (.written (min data.length maxFramePayload))
      else some .pending
  | none => none

/-- `poll_shutdown`. -/
def pollShutdown (σ : Inner) (i : ℕ) : Option Inner :=
  match σ.streams[i]? with
  | some st =>
      if st.phase ≠ .held then none
      else if st.writeClosed then some σ
      else if !σ.framesOpen then some (σ.modify i (fun st => { st with writeClosed := true }))
      else if σ.framesRoom then
        some ((σ.enqueue ⟨cmdFin, st.id, []⟩).modify i (fun st => { st with writeClosed := true }))
      else some σ
  | none => none

/-- Dropping a stream tells the agent. -/
def dropStream (σ : Inner) (i : ℕ) : Option Inner :=
  match σ.streams[i]? with
  | some st =>
      if st.phase ≠ .held ∨ st.polling = true then none
      else
        let σ := if st.writeClosed then σ else σ.tryFrame ⟨cmdFin, st.id, []⟩
        some (σ.modify i (fun st => { st with phase := .dropping }))
  | none => none

/-- The drop takes whatever the map holds under the id out. -/
def dropRemove (σ : Inner) (i : ℕ) : Option Inner :=
  match σ.streams[i]?, σ.locked with
  | some st, false =>
      match st.phase with
      | .dropping => some ((σ.unlist st.id).modify i (fun st => { st with phase := .removed }))
      | _ => none
  | _, _ => none

/-- The drop lets go of the queue. -/
def dropRelease (σ : Inner) (i : ℕ) : Option Inner :=
  match σ.streams[i]? with
  | some st =>
      match st.phase with
      | .removed => some (σ.modify i (fun st => { st with phase := .dropped }))
      | _ => none
  | none => none

/-- `close_reason()`: only a closed read half has one, and an open tag reads as clean. -/
def SmuxStream.closeReason (st : SmuxStream) : Option StreamCloseReason :=
  if st.readClosed then
    some (match st.tag with
      | some .slowConsumer => .slowConsumer
      | some .desynchronised => .desynchronised
      | _ => .clean)
  else none

/-! ## Steps -/

inductive Label
  | openAdmit
  | openNumber
  | openRegister (i : ℕ)
  | openReturn (i : ℕ)
  | openRefuse (i : ℕ)
  | openWithdraw (i : ℕ)
  | routePush (id : UInt32) (payload : Bytes)
  | routeStep (id : UInt32)
  | routeFin (id : UInt32) (payload : Bytes)
  | close (reason : StreamCloseReason)
  | closeStep
  | closeSweep (i : ℕ)
  | pollRead (i : ℕ) (size : ℕ)
  | pollThrottled (i : ℕ)
  | pollClosed (i : ℕ)
  | pollWrite (i : ℕ) (data : Bytes)
  | pollShutdown (i : ℕ)
  | dropStream (i : ℕ)
  | dropRemove (i : ℕ)
  | dropRelease (i : ℕ)
  /-- `send_task` takes a frame off the outbound queue. -/
  | frameTaken
  /-- `send_task` lets go of the outbound queue. -/
  | framesDropped
  /-- `keepalive_task` tries to queue a NOP. -/
  | keepAlive
  /-- A task enqueues a future on the death notification. -/
  | dieEnabled
  deriving DecidableEq

def Inner.step (σ : Inner) : Label → Option Inner
  | .openAdmit => openAdmit σ
  | .openNumber => openNumber σ
  | .openRegister i => openRegister σ i
  | .openReturn i => openReturn σ i
  | .openRefuse i => openRefuse σ i
  | .openWithdraw i => openWithdraw σ i
  | .routePush id payload => routePush σ id payload
  | .routeStep id => routeStep σ id
  | .routeFin id payload => routeFin σ id payload
  | .close reason => some (close σ reason)
  | .closeStep => closeStep σ
  | .closeSweep i => closeSweep σ i
  | .pollRead i size => pollRead σ i size
  | .pollThrottled i => pollThrottled σ i
  | .pollClosed i => pollClosed σ i
  | .pollWrite i data => pollWrite σ i data
  | .pollShutdown i => pollShutdown σ i
  | .dropStream i => dropStream σ i
  | .dropRemove i => dropRemove σ i
  | .dropRelease i => dropRelease σ i
  | .frameTaken =>
      match σ.frames with
      | _ :: rest => some { σ with frames := rest }
      | [] => none
  | .framesDropped => some { σ with frames := [], framesOpen := false }
  | .keepAlive => some (σ.tryFrame ⟨cmdNop, 0, []⟩)
  | .dieEnabled => some { σ with die := σ.die.enable.2 }

end SsmBridge.Smux
