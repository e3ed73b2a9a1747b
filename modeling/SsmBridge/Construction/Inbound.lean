import SsmBridge.Construction.Ack

/-!
# The in-order delivery contract

The model of `route_stream_data` in `src/connection.rs`, and of the two fields of `Continuity` it
runs on: the next sequence number the client waits for and the reorder buffer.

An arriving message is compared with `expected`.  A lower number is a message already processed
and is dropped in silence; a higher one is parked in the reorder buffer and acknowledged, unless
the full buffer refuses it; the expected one is acknowledged, delivered, and followed by every
buffered message the gap was holding back.

The two operations on the shared state, `Inbound.arrive` and `Inbound.advance`, are separate
definitions because a reader is suspended between them: `deliver` awaits the key service and the
outbound path.  `routeStreamData` is their composition for a reader that runs a message to its
end; what acknowledging and delivering do to the rest of the client is the parameter
`ReaderEffects`.
-/

namespace SsmBridge

/-- The inbound half of `Continuity`: the next number expected from the agent, and the messages
that arrived ahead of it. -/
structure Inbound where
  expected : Int64
  incoming : IncomingBuffer
  deriving DecidableEq

/-- Which branch of the delivery contract a message takes. -/
inductive Arrival
  /-- Below the expected number: already processed, dropped without acknowledging. -/
  | stale
  /-- Ahead of the expected number and stored. -/
  | buffered
  /-- Ahead of the expected number and refused by the full buffer. -/
  | refused
  /-- The expected number. -/
  | inOrder
  deriving DecidableEq, Repr

namespace Inbound

/-- Compare an arriving message with the expected number and buffer it when it is ahead. -/
def arrive (s : Inbound) (m : ClientMessage) : Arrival × Inbound :=
  if m.sequenceNumber < s.expected then (.stale, s)
  else if s.expected < m.sequenceNumber then
    match s.incoming.insert m with
    | (true, incoming) => (.buffered, { s with incoming })
    | (false, incoming) => (.refused, { s with incoming })
  else (.inOrder, s)

/-- `advance_expected`, and the `take(next)` that heads the next round of the drain loop. -/
def advance (s : Inbound) : Option ClientMessage × Inbound :=
  let next := s.expected + 1
  let (buffered, incoming) := s.incoming.take next
  (buffered, { expected := next, incoming })

/-- Every round of the drain loop that finds a message shortens the buffer. -/
lemma len_advance_lt {s s' : Inbound} {m : ClientMessage} (h : s.advance = (some m, s')) :
    s'.incoming.len < s.incoming.len := by
  simp only [advance, IncomingBuffer.take, Prod.mk.injEq] at h
  obtain ⟨hlookup, rfl⟩ := h
  have hmem : s.expected + 1 ∈ s.incoming.messages.keys := by
    rw [← AList.mem_keys, ← AList.lookup_isSome, hlookup]
    rfl
  have hpos := List.length_pos_of_mem hmem
  simp only [IncomingBuffer.len, AList.keys_erase, List.length_erase_of_mem hmem]
  omega

end Inbound

/-- What the reader does besides keeping its place in the stream: send an acknowledgement
(attempted, possibly dropped) and act on an in-order message. -/
structure ReaderEffects (σ : Type) where
  /-- `acknowledge(state, message, sequential)`. -/
  acknowledge : σ → ClientMessage → Bool → σ
  /-- `deliver(state, reader, message)`. -/
  deliver : σ → ClientMessage → Except Error Unit × σ

variable {σ : Type}

/-- Deliver a message that is due, then drain whatever the gap was holding back. -/
def deliverAndDrain (io : ReaderEffects σ) (s : Inbound) (w : σ) (m : ClientMessage) :
    Except Error Unit × Inbound × σ :=
  match io.deliver w m with
  | (.error e, w) => (.error e, s, w)
  | (.ok (), w) =>
      match _h : s.advance with
      | (none, s') => (.ok (), s', w)
      | (some next, s') => deliverAndDrain io s' w next
termination_by s.incoming.len
decreasing_by exact Inbound.len_advance_lt _h

/-- Apply the agent's in-order delivery contract to one message. -/
def routeStreamData (io : ReaderEffects σ) (s : Inbound) (w : σ) (m : ClientMessage) :
    Except Error Unit × Inbound × σ :=
  match s.arrive m with
  | (.stale, s) => (.ok (), s, w)
  | (.buffered, s) => (.ok (), s, io.acknowledge w m false)
  | (.refused, s) => (.ok (), s, w)
  | (.inOrder, s) => deliverAndDrain io s (io.acknowledge w m true) m

/-- Nothing waits behind the expected message: it is delivered and the counter advances. -/
lemma routeStreamData_alone (io : ReaderEffects σ) {s s' : Inbound} (w : σ) {m : ClientMessage}
    (harrive : s.arrive m = (.inOrder, s)) (hadvance : s.advance = (none, s')) :
    routeStreamData io s w m =
      match io.deliver (io.acknowledge w m true) m with
      | (.error e, w) => (.error e, s, w)
      | (.ok (), w) => (.ok (), s', w) := by
  rw [routeStreamData, harrive]
  dsimp only
  rw [deliverAndDrain]
  split
  · rfl
  · split <;> simp_all

/-- Feed messages one after another; the reader task ends at the first failed delivery. -/
def routeAll (io : ReaderEffects σ) : Inbound → σ → List ClientMessage →
    Except Error Unit × Inbound × σ
  | s, w, [] => (.ok (), s, w)
  | s, w, m :: rest =>
      match routeStreamData io s w m with
      | (.error e, s, w) => (.error e, s, w)
      | (.ok (), s, w) => routeAll io s w rest

end SsmBridge
