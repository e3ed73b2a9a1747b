import SsmBridge.Construction.Fanout
import SsmBridge.Framework.Machine

/-!
# The fan-out under concurrent calls

`OutputFanout` treats `send`, `subscribe` and `close` as single steps.  Here they are cut at the
points where another thread can come in between.

`send` holds the lock on the list of subscribers while `retain` goes through it, but a consumer
needs no lock to take a chunk out of its queue or to drop its stream, and may do so between two
subscribers, or between the lag flag of an evicted subscriber and the end of its sending half.
`subscribe` reads the closed flag and adds its subscriber under the lock.  `close` swaps the flag
without the lock; the call that finds it clear takes the lock afterwards and drops the sending
halves one after the other.

The list of a fan-out shrinks and the streams stay, so a step names the stream it is about: `next`
is how far the call that holds the lock has got among all streams, and the streams that are not in
the list are passed over.  What was sent, what each stream yielded and when it was subscribed is
kept for stating results; nothing reads it.

A call that nothing comes in between of does what `OutputFanout` says it does.
-/

namespace SsmBridge.FanoutCalls

open Machine

/-- A chunk that `try_send` could not put on a full queue. -/
structure Refusal where
  /-- How many chunks were sent before it. -/
  chunk : ℕ
  /-- The queue it found. -/
  queue : List Bytes
  deriving DecidableEq

/-- A stream and what is known of its past. -/
structure Subscription where
  stream : OutputStream
  /-- How many chunks had been sent when it was subscribed. -/
  since : ℕ
  /-- The chunks its consumer received. -/
  yielded : List Bytes
  /-- The chunk that found its queue full. -/
  refused : Option Refusal
  /-- The fan-out was closed when it was subscribed. -/
  late : Bool
  deriving DecidableEq

/-- Who holds the lock on the list of subscribers. -/
inductive Lock
  | free
  /-- `subscribe` has found the fan-out open. -/
  | subscribing (capacity : ℕ)
  /-- `send` has got to stream `next`. -/
  | sending (data : Bytes) (next : ℕ)
  /-- `send` has raised the lag flag of stream `next`; its sending half is not dropped yet. -/
  | evicting (data : Bytes) (next : ℕ)
  /-- `close` has got to stream `next`. -/
  | clearing (next : ℕ)
  deriving DecidableEq

/-- A fan-out, its streams and the calls on it. -/
structure Fanout where
  streams : List Subscription
  closed : Bool
  lock : Lock
  /-- The call of `close` that swapped the flag has yet to take the lock. -/
  closing : Bool
  /-- The chunks sent so far. -/
  sent : List Bytes
  /-- How many of them were sent before the flag was swapped. -/
  closedAt : Option ℕ
  deriving DecidableEq

/-- An empty fan-out. -/
def Fanout.new : Fanout where
  streams := []
  closed := false
  lock := .free
  closing := false
  sent := []
  closedAt := none

/-- A step of one of the calls. -/
inductive Call
  /-- `subscribe` takes the lock and reads the flag. -/
  | subscribe (capacity : ℕ)
  /-- It adds its subscriber and returns. -/
  | push
  /-- `send` takes the lock. -/
  | send (data : Bytes)
  /-- `retain` calls `try_send` for one subscriber. -/
  | offer (i : ℕ)
  /-- An evicted subscriber is dropped. -/
  | evict (i : ℕ)
  /-- `send` returns. -/
  | sendReturn
  /-- `close` swaps the flag. -/
  | close
  /-- It takes the lock. -/
  | closeLock
  /-- One subscriber is dropped. -/
  | clear (i : ℕ)
  /-- `close` returns. -/
  | closeReturn
  /-- The consumer of a stream receives a chunk. -/
  | recv (i : ℕ)
  /-- The consumer drops the stream. -/
  | drop (i : ℕ)
  deriving DecidableEq

namespace Subscription

/-- A new stream. -/
def new (capacity since : ℕ) (late : Bool) : Subscription where
  stream := { queue := [], capacity := max capacity 1, attached := !late, dropped := false
              lagged := false }
  since := since
  yielded := []
  refused := none
  late := late

/-- The sending half is dropped. -/
def detach (r : Subscription) : Subscription :=
  { r with stream := { r.stream with attached := false } }

/-- `try_send` succeeds. -/
def enqueue (r : Subscription) (data : Bytes) : Subscription :=
  { r with stream := { r.stream with queue := r.stream.queue ++ [data] } }

/-- `try_send` fails on a full queue: the lag flag is raised. -/
def lag (r : Subscription) (chunk : ℕ) : Subscription :=
  { r with stream := { r.stream with lagged := true }, refused := some ⟨chunk, r.stream.queue⟩ }

/-- The consumer takes the first chunk of the queue; `recv` waits when there is none and returns
`None` when the stream has ended, and a dropped stream has no consumer. -/
def recv (r : Subscription) : Option Subscription :=
  match r.stream.dropped, r.stream.queue with
  | false, chunk :: rest =>
      some { r with stream := { r.stream with queue := rest }, yielded := r.yielded ++ [chunk] }
  | _, _ => none

/-- The consumer drops the stream, and the chunks left in its queue with it. -/
def drop (r : Subscription) : Subscription :=
  { r with stream := { r.stream with dropped := true, queue := [] } }

/-- The stream has a consumer, and `recv` returns `None`. -/
def ended (r : Subscription) : Bool := !r.stream.dropped && r.stream.ended

end Subscription

namespace Fanout

/-- Replace a stream. -/
def update (f : Fanout) (i : ℕ) (r : Subscription) : Fanout :=
  { f with streams := f.streams.set i r }

/-- `subscribe`, up to reading the flag. -/
def subscribe (f : Fanout) (capacity : ℕ) : Option Fanout :=
  match f.lock with
  | .free =>
      if f.closed then
        some { f with streams := f.streams ++ [.new 1 f.sent.length true] }
      else some { f with lock := .subscribing capacity }
  | _ => none

def push (f : Fanout) : Option Fanout :=
  match f.lock with
  | .subscribing capacity =>
      some { f with streams := f.streams ++ [.new capacity f.sent.length false], lock := .free }
  | _ => none

def send (f : Fanout) (data : Bytes) : Option Fanout :=
  match f.lock with
  | .free => some { f with lock := .sending data 0, sent := f.sent ++ [data] }
  | _ => none

/-- What `try_send` says about one subscriber, and what `retain` does with it. -/
def offer (f : Fanout) (i : ℕ) : Option Fanout :=
  match f.lock, f.streams[i]? with
  | .sending data next, some r =>
      if next ≠ i then none
      else if !r.stream.attached then some { f with lock := .sending data (i + 1) }
      else if r.stream.dropped then
        some { f.update i r.detach with lock := .sending data (i + 1) }
      else if r.stream.capacity ≤ r.stream.queue.length then
        some { f.update i (r.lag (f.sent.length - 1)) with lock := .evicting data i }
      else some { f.update i (r.enqueue data) with lock := .sending data (i + 1) }
  | _, _ => none

def evict (f : Fanout) (i : ℕ) : Option Fanout :=
  match f.lock, f.streams[i]? with
  | .evicting data next, some r =>
      if next ≠ i then none
      else some { f.update i r.detach with lock := .sending data (i + 1) }
  | _, _ => none

def sendReturn (f : Fanout) : Option Fanout :=
  match f.lock with
  | .sending _ next => if f.streams.length ≤ next then some { f with lock := .free } else none
  | _ => none

/-- `close`, up to the swap; only the call that finds the flag clear goes on. -/
def close (f : Fanout) : Fanout :=
  if f.closed then f
  else { f with closed := true, closing := true, closedAt := some f.sent.length }

def closeLock (f : Fanout) : Option Fanout :=
  match f.lock, f.closing with
  | .free, true => some { f with lock := .clearing 0, closing := false }
  | _, _ => none

def clear (f : Fanout) (i : ℕ) : Option Fanout :=
  match f.lock, f.streams[i]? with
  | .clearing next, some r =>
      if next ≠ i then none else some { f.update i r.detach with lock := .clearing (i + 1) }
  | _, _ => none

def closeReturn (f : Fanout) : Option Fanout :=
  match f.lock with
  | .clearing next => if f.streams.length ≤ next then some { f with lock := .free } else none
  | _ => none

def recv (f : Fanout) (i : ℕ) : Option Fanout :=
  (f.streams[i]?.bind Subscription.recv).map (f.update i)

def drop (f : Fanout) (i : ℕ) : Option Fanout :=
  f.streams[i]?.map (fun r => f.update i r.drop)

/-- A step of one of the calls, in any order. -/
def step (f : Fanout) : Call → Option Fanout
  | .subscribe capacity => f.subscribe capacity
  | .push => f.push
  | .send data => f.send data
  | .offer i => f.offer i
  | .evict i => f.evict i
  | .sendReturn => f.sendReturn
  | .close => some f.close
  | .closeLock => f.closeLock
  | .clear i => f.clear i
  | .closeReturn => f.closeReturn
  | .recv i => f.recv i
  | .drop i => f.drop i

/-- The fan-out as the calls leave it. -/
def toOutputFanout (f : Fanout) : OutputFanout := ⟨f.streams.map Subscription.stream, f.closed⟩

end Fanout

/-- The states of a fan-out, over all interleavings. -/
abbrev Reached : Fanout → Prop := Reachable Fanout.step free Fanout.new

/-! ## Calls that are not interleaved -/

section

variable {f : Fanout} {data : Bytes} {i : ℕ} {r : Subscription}

/-- One subscriber's turn in `retain`. -/
lemma exists_offer (hlock : f.lock = .sending data i) (hr : f.streams[i]? = some r) :
    ∃ r', r'.stream = r.stream.offer data ∧
      Reachable Fanout.step free f { f.update i r' with lock := .sending data (i + 1) } := by
  have hoffer {f' : Fanout} (h : f.offer i = some f') : Reachable Fanout.step free f f' :=
    .tail (l := .offer i) .refl h trivial
  rw [Fanout.offer, hlock, hr] at hoffer
  simp only [ne_eq, not_true_eq_false, if_false] at hoffer
  cases hattached : r.stream.attached with
  | false =>
    refine ⟨r, by simp [OutputStream.offer, hattached], hoffer ?_⟩
    have hset : f.streams.set i r = f.streams := by
      obtain ⟨hi, rfl⟩ := List.getElem?_eq_some_iff.mp hr
      exact List.set_getElem_self hi
    simp [hattached, Fanout.update, hset]
  | true =>
    cases hdropped : r.stream.dropped with
    | true =>
      refine ⟨r.detach, by simp [OutputStream.offer, Subscription.detach, hattached, hdropped], ?_⟩
      exact hoffer (by simp [hattached, hdropped])
    | false =>
      by_cases hfull : r.stream.capacity ≤ r.stream.queue.length
      · -- An eviction takes a second step, for the sending half.
        refine ⟨(r.lag (f.sent.length - 1)).detach, ?_, ?_⟩
        · simp [OutputStream.offer, Subscription.detach, Subscription.lag, hattached, hdropped,
            hfull]
        · have hlag : Reachable Fanout.step free f
              { f.update i (r.lag (f.sent.length - 1)) with lock := .evicting data i } :=
            hoffer (by simp [hattached, hdropped, hfull])
          refine hlag.tail (l := .evict i) ?_ trivial
          obtain ⟨hi, -⟩ := List.getElem?_eq_some_iff.mp hr
          simp [Fanout.step, Fanout.evict, Fanout.update, hi]
      · refine ⟨r.enqueue data, ?_, hoffer (by simp [hattached, hdropped, hfull])⟩
        simp [OutputStream.offer, Subscription.enqueue, hattached, hdropped, hfull]

/-- A call that holds the lock and has a turn for every stream: `lock` says how far it has got and
`turn` what a turn does. -/
lemma exists_sweep (lock : ℕ → Lock) (turn : OutputStream → OutputStream)
    (hturn : ∀ (f : Fanout) (i : ℕ) (r : Subscription), f.lock = lock i → f.streams[i]? = some r →
      ∃ r', r'.stream = turn r.stream ∧
        Reachable Fanout.step free f { f.update i r' with lock := lock (i + 1) })
    (f : Fanout) (done : List Subscription) {todo : List Subscription}
    (hlock : f.lock = lock done.length) (hstreams : f.streams = done ++ todo) :
    ∃ todo', todo'.map Subscription.stream = todo.map (fun r => turn r.stream) ∧
      Reachable Fanout.step free f
        { f with streams := done ++ todo', lock := lock (done.length + todo.length) } := by
  induction todo generalizing f done with
  | nil =>
    refine ⟨[], rfl, ?_⟩
    rw [← hstreams, List.length_nil, Nat.add_zero, ← hlock]
    exact .refl
  | cons r rest ih =>
    have hr : f.streams[done.length]? = some r := by simp [hstreams]
    obtain ⟨r', hr', hreach⟩ := hturn f done.length r hlock hr
    obtain ⟨rest', hrest', hreach'⟩ :=
      ih { f.update done.length r' with lock := lock (done.length + 1) } (done ++ [r']) (by simp)
        (by simp [Fanout.update, hstreams])
    refine ⟨r' :: rest', by simp [hr', hrest'], hreach.trans ?_⟩
    have hlength : done.length + (r :: rest).length = (done ++ [r']).length + rest.length := by
      simp only [List.length_cons, List.length_append, List.length_nil]
      omega
    rw [hlength, List.append_cons]
    exact hreach'

/-- **`send`**, when nothing comes in between. -/
theorem exists_send (data : Bytes) (hlock : f.lock = .free) :
    ∃ f', Reachable Fanout.step free f f' ∧ f'.lock = .free ∧
      f'.toOutputFanout = f.toOutputFanout.send data := by
  have hstart : Reachable Fanout.step free f
      { f with lock := .sending data 0, sent := f.sent ++ [data] } :=
    .tail (l := .send data) .refl (by simp [Fanout.step, Fanout.send, hlock]) trivial
  obtain ⟨streams, hstreams, hreach⟩ :=
    exists_sweep (.sending data) (OutputStream.offer data) (fun f i r => exists_offer)
      { f with lock := .sending data 0, sent := f.sent ++ [data] } [] rfl rfl
  have hlength : streams.length = f.streams.length := by
    simpa using congrArg List.length hstreams
  refine ⟨{ f with streams, lock := .free, sent := f.sent ++ [data] },
    (hstart.trans hreach).tail (l := .sendReturn) ?_ trivial, rfl, ?_⟩
  · simp [Fanout.step, Fanout.sendReturn, hlength]
  · simp [Fanout.toOutputFanout, OutputFanout.send, hstreams]

/-- **`close`**, when nothing comes in between; a call that finds the flag set does nothing. -/
theorem exists_close (hlock : f.lock = .free) :
    ∃ f', Reachable Fanout.step free f f' ∧ f'.lock = .free ∧
      f'.toOutputFanout = f.toOutputFanout.close := by
  cases hclosed : f.closed with
  | true =>
    refine ⟨f, .refl, hlock, ?_⟩
    simp [Fanout.toOutputFanout, OutputFanout.close, hclosed]
  | false =>
    have hclose : Reachable Fanout.step free f f.close :=
      .tail (l := .close) .refl rfl trivial
    have hstart : Reachable Fanout.step free f
        { f.close with lock := .clearing 0, closing := false } := by
      refine hclose.tail (l := .closeLock) ?_ trivial
      simp [Fanout.step, Fanout.closeLock, Fanout.close, hclosed, hlock]
    have hturn (f : Fanout) (i : ℕ) (r : Subscription) (hlock : f.lock = .clearing i)
        (hr : f.streams[i]? = some r) : ∃ r', r'.stream = { r.stream with attached := false } ∧
          Reachable Fanout.step free f { f.update i r' with lock := .clearing (i + 1) } := by
      refine ⟨r.detach, rfl, .tail (l := .clear i) .refl ?_ trivial⟩
      simp [Fanout.step, Fanout.clear, hlock, hr]
    obtain ⟨streams, hstreams, hreach⟩ := exists_sweep .clearing
      (fun s => { s with attached := false }) hturn
      { f.close with lock := .clearing 0, closing := false } [] rfl rfl
    have hlength : streams.length = f.close.streams.length := by
      simpa using congrArg List.length hstreams
    refine ⟨{ f.close with streams, lock := .free, closing := false },
      (hstart.trans hreach).tail (l := .closeReturn) ?_ trivial, rfl, ?_⟩
    · simp [Fanout.step, Fanout.closeReturn, hlength]
    · simp only [Fanout.toOutputFanout, OutputFanout.close, hstreams]
      simp [Fanout.close, hclosed]

/-- **`subscribe`**, when nothing comes in between.  On a closed fan-out the two give a stream that
is over, with queues of different capacity that nothing ever enters. -/
theorem exists_subscribe (capacity : ℕ) (hlock : f.lock = .free) (hopen : f.closed = false) :
    ∃ f', Reachable Fanout.step free f f' ∧ f'.lock = .free ∧
      f'.toOutputFanout = (f.toOutputFanout.subscribe capacity).2 := by
  have hstart : Reachable Fanout.step free f { f with lock := .subscribing capacity } :=
    .tail (l := .subscribe capacity) .refl (by simp [Fanout.step, Fanout.subscribe, hlock, hopen])
      trivial
  refine ⟨_, hstart.tail (l := .push) rfl trivial, rfl, ?_⟩
  simp [Fanout.toOutputFanout, OutputFanout.subscribe, Subscription.new, hopen]

/-- **`recv`** takes no lock. -/
theorem recv_toOutputFanout {g : OutputFanout} {chunk : Bytes} (hr : f.streams[i]? = some r)
    (hdropped : r.stream.dropped = false) (hg : f.toOutputFanout.recv i = some (chunk, g)) :
    ∃ f', f.recv i = some f' ∧ f'.toOutputFanout = g := by
  cases hqueue : r.stream.queue with
  | nil => simp [OutputFanout.recv, Fanout.toOutputFanout, hr, hqueue] at hg
  | cons head rest =>
    simp only [OutputFanout.recv, Fanout.toOutputFanout, List.getElem?_map, hr, Option.map_some,
      hqueue, Option.some_inj, Prod.mk.injEq] at hg
    obtain ⟨-, rfl⟩ := hg
    refine ⟨f.update i { r with stream := { r.stream with queue := rest }
                                yielded := r.yielded ++ [head] }, ?_, ?_⟩
    · simp [Fanout.recv, Subscription.recv, hr, hdropped, hqueue]
    · simp [Fanout.toOutputFanout, Fanout.update, List.map_set]

end

end SsmBridge.FanoutCalls
