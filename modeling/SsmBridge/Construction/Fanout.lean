import SsmBridge.Construction.Errors
import Mathlib.Data.List.Basic

/-!
# Fan-out of agent output

The model of `src/channels.rs`.  Every subscriber has its own bounded queue; a subscriber whose
queue is full when a chunk arrives is evicted and its stream reports `lagged`, and the others go
on.

A queue is shared by the subscriber entry that fills it and the `OutputStream` that empties it, so
the two are one record, `OutputStream`, kept in the order of subscription: the index is the
subscriber's handle.  `attached` says whether the sending half is still in the fan-out's list.
-/

namespace SsmBridge

/-- One subscription: the queue, and the state of its two ends. -/
structure OutputStream where
  queue : List Bytes
  capacity : ℕ
  /-- The sending half is in the fan-out's list of subscribers. -/
  attached : Bool
  /-- The receiving half was dropped by its consumer. -/
  dropped : Bool
  /-- The subscriber was evicted for falling behind. -/
  lagged : Bool
  deriving DecidableEq

namespace OutputStream

/-- What `send` does to one subscriber: enqueue the chunk, or evict it. -/
def offer (data : Bytes) (s : OutputStream) : OutputStream :=
  if !s.attached then s
  else if s.dropped then { s with attached := false }
  else if s.capacity ≤ s.queue.length then { s with attached := false, lagged := true }
  else { s with queue := s.queue ++ [data] }

/-- The stream has ended: nothing is queued and nothing can be. -/
def ended (s : OutputStream) : Bool := !s.attached && s.queue.isEmpty

end OutputStream

/-- Distributes agent output to every subscriber. -/
structure OutputFanout where
  streams : List OutputStream
  closed : Bool
  deriving DecidableEq

namespace OutputFanout

/-- An empty fan-out. -/
def new : OutputFanout := { streams := [], closed := false }

/-- Add a subscriber with the given queue depth; on a closed fan-out its stream is already over.
The handle is the index of the new stream. -/
def subscribe (f : OutputFanout) (capacity : ℕ) : ℕ × OutputFanout :=
  (f.streams.length, { f with
    streams := f.streams ++ [{ queue := [], capacity := max capacity 1, attached := !f.closed
                               dropped := false, lagged := false }] })

/-- Deliver a chunk to every subscriber, evicting any that cannot keep up. -/
def send (f : OutputFanout) (data : Bytes) : OutputFanout :=
  { f with streams := f.streams.map (OutputStream.offer data) }

/-- End every subscriber's stream and reject future subscriptions. -/
def close (f : OutputFanout) : OutputFanout :=
  if f.closed then f
  else { streams := f.streams.map (fun s => { s with attached := false }), closed := true }

/-- Receive the next chunk of a stream: `none` when it would have to wait or has ended. -/
def recv (f : OutputFanout) (i : ℕ) : Option (Bytes × OutputFanout) :=
  match f.streams[i]? with
  | some s =>
      match s.queue with
      | chunk :: rest => some (chunk, { f with streams := f.streams.set i { s with queue := rest } })
      | [] => none
  | none => none

end OutputFanout

end SsmBridge
