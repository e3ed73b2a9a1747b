import SsmBridge.Framework.Relay
import SsmBridge.Construction.Reconnect
import SsmBridge.Properties.InboundPath

/-!
# The durable output across a resume

A subscriber of `ReconnectingSession::output` should see the agent's output as one stream, whatever
channel carried it.  A payload takes three hops: the reader of a channel hands it to the channel's
fan-out, the pump of the channel takes it from there, and forwards it into the durable fan-out.

Three of these hops can go wrong across a resume.  The reader of the new channel runs before its
pump has subscribed, and what it hands over in the meantime reaches nobody
(`output_before_pump_is_lost`).  The pump of the new channel may forward before the old one has
emptied its queue.  And the reader of the old channel may still be in the middle of a message when
the new one receives it again.  `durable_output_gapless` is what holds of the runs in which none of
this happens, nor the end of the durable fan-out with chunks still on their way.

The invariant has three parts: `Reading` (the messages handed over have increasing numbers),
`Piped` (what was handed over is what was forwarded and what the pumps hold) and `Served` (what a
subscriber got is the end of what was forwarded).
-/

namespace SsmBridge

open Machine Relay SignedCounter

/-! ## What the pumps hold -/

/-- The chunks in the queue of a stream. -/
def OutputFanout.queued (f : OutputFanout) (i : ℕ) : List Bytes :=
  match f.streams[i]? with
  | some s => s.queue
  | none => []

/-- The stream takes another chunk. -/
def OutputStream.ready (s : OutputStream) : Bool :=
  s.attached && !s.dropped && decide (s.queue.length < s.capacity)

/-- What a pump has taken or can take from the fan-out of its channel. -/
def PumpPc.holds (f : OutputFanout) : PumpPc → List Bytes
  | .pumping i => f.queued i
  | .forwarding i chunk => chunk :: f.queued i
  | _ => []

/-- The stream a pump is subscribed to. -/
def PumpPc.stream : PumpPc → Option ℕ
  | .pumping i | .forwarding i _ => some i
  | _ => none

namespace ReconnectingSession

/-- What the pump of a channel has yet to forward. -/
def holds (r : ReconnectingSession) (c : ℕ) : List Bytes :=
  match r.pumps[c]?, r.session.channels[c]? with
  | some pump, some ch => pump.holds ch.core.fanout
  | _, _ => []

/-- What all the pumps have yet to forward, the older ones first. -/
def backlog (r : ReconnectingSession) : List Bytes :=
  Relay.backlog r.session.channels.length r.holds

/-- The pump of a channel has subscribed, and its stream takes another chunk. -/
def attended (r : ReconnectingSession) (c : ℕ) : Bool :=
  match r.pumps[c]?, r.session.channels[c]? with
  | some pump, some ch =>
      pump.stream.any (fun i => (ch.core.fanout.streams[i]?).any OutputStream.ready)
  | _, _ => false

end ReconnectingSession

/-- The condition on the steps: a payload is handed over only to a pump that takes it and while the
durable fan-out is open, a pump forwards only when the older ones hold nothing, the session is
resumed only after its readers have ended, and the durable fan-out is closed only when the pumps hold
nothing. -/
def Orderly (r : ReconnectingSession) (m : Move) (r' : ReconnectingSession) : Prop :=
  match m with
  | .act c _ => r'.session.emitted = r.session.emitted ∨
      (r.attended c = true ∧ r.output.closed = false)
  | .pumpSend c => ∀ c' < c, r.holds c' = []
  | .resume _ => ∀ ch ∈ r.session.channels, ch.reader = .ended
  | .finish | .closeOutput => r.backlog = []
  | _ => True

instance (r : ReconnectingSession) (m : Move) (r' : ReconnectingSession) :
    Decidable (Orderly r m r') := by
  unfold Orderly
  split <;> infer_instance

/-- The moves of the pumps, and of one subscriber taking its chunks. -/
def DeliversTo (i : ℕ) (r : ReconnectingSession) (m : Move) (r' : ReconnectingSession) : Prop :=
  Orderly r m r' ∧ (m = .recv i ∨ ∃ c, m = .pumpNext c ∨ m = .pumpSend c)

/-- **The durable output is gapless and in order.** What the subscribers of the reconnecting session
have received is what the readers of its channels delivered, one channel after the other. -/
structure ReconnectingSession.Gapless (env : Env) (r : ReconnectingSession) : Prop where
  /-- The readers deliver by increasing sequence number, each number once. -/
  inOrder : (r.session.emitted.map Prod.fst).Pairwise (· < ·)
  /-- A subscriber that was not evicted and did not leave has received, or has in its queue or on
  its way through the pumps, all payloads from a point that was no later than its subscription, and
  it receives them all when the pumps run and it takes its chunks. -/
  complete : ∀ (i : ℕ) (sub : Subscriber) (s : OutputStream), r.subscribers[i]? = some sub →
    r.output.streams[i]? = some s → s.lagged = false → s.dropped = false →
    ∃ start ≤ sub.joined,
      sub.received ++ s.queue ++ r.backlog = (r.session.emitted.map Prod.snd).drop start ∧
      ∃ r' sub', Reachable (ReconnectingSession.step env) (DeliversTo i) r r' ∧
        r'.subscribers[i]? = some sub' ∧
        sub'.received = (r.session.emitted.map Prod.snd).drop start
  /-- When the durable stream has ended nothing is on its way any more. -/
  ended : r.output.closed = true → r.backlog = []

/-! ## Fan-outs -/

lemma OutputStream.capacity_offer (data : Bytes) (s : OutputStream) :
    (s.offer data).capacity = s.capacity := by
  unfold OutputStream.offer
  split_ifs <;> rfl

namespace OutputFanout

variable {f f' : OutputFanout} {i : ℕ} {s : OutputStream} {chunk data : Bytes}

lemma queued_of (h : f.streams[i]? = some s) : f.queued i = s.queue := by
  rw [queued, h]

lemma queued_close : f.close.queued i = f.queued i := by
  unfold close
  by_cases h : f.closed = true
  · rw [if_pos h]
  · rw [if_neg h, queued, queued, List.getElem?_map]
    cases f.streams[i]? <;> rfl

/-- A new stream is empty. -/
lemma queued_subscribe (capacity : ℕ) : (f.subscribe capacity).2.queued i = f.queued i := by
  unfold subscribe queued
  by_cases hlt : i < f.streams.length
  · rw [List.getElem?_append_left hlt]
  · have hle := Nat.le_of_not_lt hlt
    rw [List.getElem?_append_right hle, List.getElem?_eq_none hle]
    cases i - f.streams.length <;> rfl

lemma offer_ready (h : s.ready = true) :
    s.offer data = { s with queue := s.queue ++ [data] } := by
  simp only [OutputStream.ready, Bool.and_eq_true, Bool.not_eq_true', decide_eq_true_eq] at h
  obtain ⟨⟨hattached, hdropped⟩, hroom⟩ := h
  simp [OutputStream.offer, hattached, hdropped, Nat.not_le.mpr hroom]

lemma queued_send (hs : f.streams[i]? = some s) (h : s.ready = true) :
    (f.send data).queued i = f.queued i ++ [data] := by
  rw [queued_of hs, send, queued, List.getElem?_map, hs]
  simp [offer_ready h]

/-- Receiving takes the head off one queue. -/
lemma recv_cases (h : f.recv i = some (chunk, f')) :
    ∃ s rest, f.streams[i]? = some s ∧ s.queue = chunk :: rest ∧
      f' = { f with streams := f.streams.set i { s with queue := rest } } := by
  unfold recv at h
  split at h
  · next s hs =>
    split at h
    · next chunk' rest hq =>
      cases h
      exact ⟨s, rest, hs, hq, rfl⟩
    · cases h
  · cases h

lemma recv_of {rest : List Bytes} (hs : f.streams[i]? = some s) (hqueue : s.queue = chunk :: rest) :
    f.recv i =
      some (chunk, { f with streams := f.streams.set i { s with queue := rest } }) := by
  simp only [recv, hs, hqueue]

lemma exists_recv (h : f.queued i ≠ []) : ∃ chunk f', f.recv i = some (chunk, f') := by
  unfold queued at h
  split at h
  · next s hs =>
    cases hqueue : s.queue with
    | nil => exact absurd hqueue h
    | cons chunk rest => exact ⟨chunk, _, recv_of hs hqueue⟩
  · exact absurd rfl h

lemma queued_recv (h : f.recv i = some (chunk, f')) : f.queued i = chunk :: f'.queued i := by
  obtain ⟨s, rest, hs, hq, rfl⟩ := recv_cases h
  have hlt := (List.getElem?_eq_some_iff.mp hs).1
  rw [queued_of hs, hq, queued, List.getElem?_set_self hlt]

end OutputFanout

/-- A closed core has a closed fan-out, with no stream attached. -/
structure SessionCore.Shut (core : SessionCore) : Prop where
  closed : core.fanout.closed = core.isClosed
  detached : core.isClosed = true → ∀ s ∈ core.fanout.streams, s.attached = false

namespace SessionCore.Shut

variable {core core' : SessionCore}

lemma of_eq (h : core.Shut) (hfanout : core'.fanout = core.fanout)
    (hreason : core'.closeReason = core.closeReason) : core'.Shut := by
  constructor
  · rw [hfanout, SessionCore.isClosed, hreason]
    exact h.closed
  · rw [hfanout, SessionCore.isClosed, hreason]
    exact h.detached

lemma close (h : core.Shut) (reason : CloseReason) : (core.close reason).Shut := by
  unfold SessionCore.close
  split
  · exact h
  · next hopen =>
    have hclosed : core.fanout.closed = false := by simp [h.closed, SessionCore.isClosed, hopen]
    constructor
    · simp [OutputFanout.close, hclosed, SessionCore.isClosed]
    · intro _ s hs
      simp only [OutputFanout.close, hclosed, Bool.false_eq_true, if_false, List.mem_map] at hs
      obtain ⟨s₀, -, rfl⟩ := hs
      rfl

lemma quiet (h : core.Shut) (hq : core.Quiet core') : core'.Shut := by
  obtain ⟨base, rfl | ⟨reason, rfl⟩, hfanout, hreason⟩ := hq
  · exact h.of_eq hfanout hreason
  · exact (h.close reason).of_eq hfanout hreason

/-- The streams of a fan-out may change, as long as none is attached to a closed one. -/
lemma restream (h : core.Shut) (hreason : core'.closeReason = core.closeReason)
    (hclosed : core'.fanout.closed = core.fanout.closed)
    (hdetached : core.fanout.closed = true → (∀ s ∈ core.fanout.streams, s.attached = false) →
      ∀ s ∈ core'.fanout.streams, s.attached = false) : core'.Shut := by
  have hsame : core'.isClosed = core.isClosed := by
    unfold SessionCore.isClosed
    rw [hreason]
  constructor
  · rw [hclosed, hsame]
    exact h.closed
  · rw [hsame]
    intro hc
    exact hdetached (h.closed.trans hc) (h.detached hc)

lemma send (h : core.Shut) {data : Bytes} (hfanout : core'.fanout = core.fanout.send data)
    (hreason : core'.closeReason = core.closeReason) : core'.Shut := by
  apply h.restream hreason
  · rw [hfanout]
    rfl
  · intro _ hall s hs
    rw [hfanout] at hs
    obtain ⟨s₀, hs₀, rfl⟩ := List.mem_map.mp hs
    simp [OutputStream.offer, hall s₀ hs₀]

lemma subscribe (h : core.Shut) (capacity : ℕ) :
    ({ core with fanout := (core.fanout.subscribe capacity).2 } : SessionCore).Shut := by
  refine h.restream rfl rfl ?_
  intro hclosed hall s hs
  simp only [OutputFanout.subscribe, List.mem_append, List.mem_singleton] at hs
  obtain hs | rfl := hs
  · exact hall s hs
  · simp [hclosed]

lemma recv (h : core.Shut) {i : ℕ} {chunk : Bytes} {fanout : OutputFanout}
    (hrecv : core.fanout.recv i = some (chunk, fanout)) :
    ({ core with fanout } : SessionCore).Shut := by
  obtain ⟨s, rest, hs, -, rfl⟩ := OutputFanout.recv_cases hrecv
  refine h.restream rfl rfl ?_
  intro _ hall s' hs'
  obtain hmem | rfl := List.mem_or_eq_of_mem_set hs'
  · exact hall s' hmem
  · exact hall s (List.mem_of_getElem? hs)

end SessionCore.Shut

/-! ## Moves -/

/-- What a move does. -/
inductive Moved (env : Env) (r : ReconnectingSession) : Move → ReconnectingSession → Prop
  | act (c : ℕ) (a : Action) (ch : Channel) (o : Outcome) (hch : r.session.channels[c]? = some ch)
      (ho : perform env c r.session.cont ch a = some o) :
      Moved env r (.act c a) { r with session := r.session.after c o }
  | adopted (hpc : r.supervisor = .adopting) :
      Moved env r .adopt { r with pumps := r.pumps ++ [.spawned], supervisor := .watching }
  | resumed (now : ℕ) (config : ChannelConfig) (hr : r.session.resumable = true) :
      Moved env r (.resume now)
        { r with session := r.session.resumed config, supervisor := .adopting }
  /-- The supervisor moves on, or the shutdown is signalled. -/
  | controlled (m : Move) (supervisor : SupervisorPc) (shutdown : Bool)
      (hpc : supervisor = .adopting → r.supervisor = .adopting) :
      Moved env r m { r with supervisor, shutdown }
  | closed (m : Move) (supervisor : SupervisorPc) (hm : m = .finish ∨ m = .closeOutput)
      (hpc : supervisor = .adopting → r.supervisor = .adopting) :
      Moved env r m { r with output := r.output.close, supervisor }
  | started (c : ℕ) (ch : Channel) (hpump : r.pumps[c]? = some .spawned)
      (hch : r.session.channels[c]? = some ch) :
      Moved env r (.pumpStart c) (r.setPump c ch
        (ch.core.fanout.subscribe ch.core.subscriberCapacity).2
        (.pumping ch.core.fanout.streams.length))
  | took (c i : ℕ) (ch : Channel) (chunk : Bytes) (fanout : OutputFanout)
      (hpump : r.pumps[c]? = some (.pumping i)) (hch : r.session.channels[c]? = some ch)
      (hrecv : ch.core.fanout.recv i = some (chunk, fanout)) :
      Moved env r (.pumpNext c) (r.setPump c ch fanout (.forwarding i chunk))
  | forwarded (c i : ℕ) (chunk : Bytes) (hpump : r.pumps[c]? = some (.forwarding i chunk)) :
      Moved env r (.pumpSend c)
        { r with output := r.output.send chunk, pumps := r.pumps.set c (.pumping i) }
  | finished (c i : ℕ) (ch : Channel) (hpump : r.pumps[c]? = some (.pumping i))
      (hch : r.session.channels[c]? = some ch) (hempty : ch.core.fanout.queued i = []) :
      Moved env r (.pumpEnd c) { r with pumps := r.pumps.set c .ended }
  | subscribed : Moved env r .subscribe r.subscribe
  | received (i : ℕ) (chunk : Bytes) (output : OutputFanout) (sub : Subscriber)
      (hrecv : r.output.recv i = some (chunk, output)) (hsub : r.subscribers[i]? = some sub) :
      Moved env r (.recv i) { r with
        output
        subscribers := r.subscribers.set i { sub with received := sub.received ++ [chunk] } }
  | dropped (i : ℕ) : Moved env r (.dropStream i) (r.dropStream i)

theorem moved_cases {env : Env} {r r' : ReconnectingSession} {m : Move}
    (h : r.step env m = some r') : Moved env r m r' := by
  cases m <;> simp only [ReconnectingSession.step] at h
  case act c a =>
    obtain ⟨s, hs, rfl⟩ := Option.map_eq_some_iff.mp h
    obtain ⟨c', a', ch, o, hl, hch, ho, rfl⟩ | ⟨config, hl, -, -⟩ := System.step_cases hs
    · cases hl
      exact .act c a ch o hch ho
    · cases hl
  case adopt =>
    unfold ReconnectingSession.adopt at h
    split at h <;> cases h
    next hpc => exact .adopted hpc
  case observe =>
    unfold ReconnectingSession.observe at h
    split at h
    · split at h <;> cases h
      · exact .controlled _ _ r.shutdown (by simp)
      · exact .controlled _ _ r.shutdown (by simp)
    · cases h
  case stop =>
    unfold ReconnectingSession.stop at h
    split at h <;> cases h
    exact .controlled _ _ r.shutdown (by simp)
  case resume now =>
    unfold ReconnectingSession.resume at h
    split at h
    · next s _ hs =>
      cases h
      obtain ⟨c, a, ch, o, hl, -, -, -⟩ | ⟨config, hl, hr, rfl⟩ := System.step_cases hs
      · cases hl
      · exact .resumed now config hr
    · cases h
  case refuse =>
    unfold ReconnectingSession.refuse at h
    split at h <;> cases h
    exact .controlled _ _ r.shutdown (by simp)
  case giveUp =>
    unfold ReconnectingSession.giveUp at h
    split at h <;> cases h
    exact .controlled _ _ r.shutdown (by simp)
  case finish =>
    unfold ReconnectingSession.finish at h
    split at h <;> cases h
    exact .closed _ _ (.inl rfl) (by simp)
  case pumpStart c =>
    unfold ReconnectingSession.pumpStart at h
    split at h
    · next ch hpump hch =>
      cases h
      exact .started c ch hpump hch
    · cases h
  case pumpNext c =>
    unfold ReconnectingSession.pumpNext at h
    split at h
    · next i ch hpump hch =>
      split at h
      · next chunk fanout hrecv =>
        cases h
        exact .took c i ch chunk fanout hpump hch hrecv
      · cases h
    · cases h
  case pumpSend c =>
    unfold ReconnectingSession.pumpSend at h
    split at h
    · next i chunk hpump =>
      cases h
      exact .forwarded c i chunk hpump
    · cases h
  case pumpEnd c =>
    unfold ReconnectingSession.pumpEnd at h
    split at h
    · next i ch hpump hch =>
      split at h
      · next hended =>
        cases h
        refine .finished c i ch hpump hch ?_
        cases hs : ch.core.fanout.streams[i]? with
        | none => simp [hs] at hended
        | some s =>
          simp only [hs, Option.any_some, OutputStream.ended, Bool.and_eq_true,
            List.isEmpty_iff] at hended
          rw [OutputFanout.queued_of hs]
          exact hended.2
      · cases h
    · cases h
  case subscribe =>
    cases h
    exact .subscribed
  case recv i =>
    unfold ReconnectingSession.recv at h
    split at h
    · next chunk output sub hrecv hsub =>
      cases h
      exact .received i chunk output sub hrecv hsub
    · cases h
  case dropStream i =>
    cases h
    exact .dropped i
  case shutdown =>
    cases h
    exact .controlled _ r.supervisor true id
  case closeOutput =>
    split at h <;> cases h
    exact .closed _ r.supervisor (.inr rfl) id

/-! ## Reading in order -/

/-- Where the readers of the channels are. -/
def System.readers (s : System) : List ReaderPc := s.channels.map Channel.reader

/-- Only the newest channel is read, and what was handed over so far has increasing numbers, below
the counter but for the message whose delivery is just over. -/
structure Reading (s : System) : Prop where
  expected : s.cont.inbound.expected.toInt = s.advances
  keys : ∀ n m, s.cont.inbound.incoming.messages.lookup n = some m → m.sequenceNumber = n
  older : ∀ c pc, c + 1 < s.readers.length → s.readers[c]? = some pc → pc = .ended
  newest : ∀ pc, s.readers.getLast? = some pc → pc.Within (· = s.cont.inbound.expected)
  numbers : ∀ x ∈ s.emitted, x.1 < s.cont.inbound.expected ∨
    (x.1 = s.cont.inbound.expected ∧ ∃ m, s.readers.getLast? = some (.advancing m))
  inOrder : s.emitted.Pairwise (fun x y => x.1 < y.1)

namespace Reading

variable {env : Env} {s s' : System} {c : ℕ} {ch : Channel} {o : Outcome}

lemma congr (h : Reading s) (hinbound : s'.cont.inbound = s.cont.inbound)
    (hreaders : s'.readers = s.readers) (hemitted : s'.emitted = s.emitted)
    (hadvances : s'.advances = s.advances) : Reading s' := by
  constructor
  · rw [hinbound, hadvances]
    exact h.expected
  · rw [hinbound]
    exact h.keys
  · rw [hreaders]
    exact h.older
  · rw [hreaders, hinbound]
    exact h.newest
  · rw [hemitted, hreaders, hinbound]
    exact h.numbers
  · rw [hemitted]
    exact h.inOrder

lemma start (config : ChannelConfig) : Reading (System.start config) where
  expected := rfl
  keys n m h := by cases h
  older c pc hlast _ := by simp [System.readers, System.start] at hlast
  newest pc hpc := by
    cases hpc
    exact .idle rfl (by simp [Channel.open]) (by simp [Channel.open])
  numbers x hx := by simp [System.emitted, System.events, System.start] at hx
  inOrder := List.Pairwise.nil

lemma readers_after : (s.after c o).readers = s.readers.set c o.channel.reader :=
  List.map_set

lemma emitted_after : (s.after c o).emitted = s.emitted ++ o.events.filterMap Event.output := by
  rw [System.emitted, System.events_after, List.filterMap_append]
  rfl

/-- An operation that emits nothing. -/
lemma output_eq_nil (h : ∀ n p, Event.emitted n p ∉ o.events) :
    o.events.filterMap Event.output = [] := by
  refine List.filterMap_eq_nil_iff.mpr (fun e he => ?_)
  cases e with
  | emitted n p => exact absurd he (h n p)
  | _ => rfl

/-- The channel that was replaced has stopped reading, so its other tasks change nothing here. -/
lemma after_older (h : Reading s) (hch : s.channels[c]? = some ch)
    (holder : c + 1 < s.channels.length) (hin : InboundStep s.cont ch o)
    (hout : OutputStep ch o) : Reading (s.after c o) := by
  have hpc : s.readers[c]? = some ch.reader := by simp [System.readers, hch]
  have hended : ch.reader = .ended := h.older c ch.reader (by simpa [System.readers] using holder) hpc
  obtain ⟨hreader, hinbound, hnone⟩ := hin.of_ended hended
  have hnothing : o.events.filterMap Event.output = [] := by
    cases hout with
    | quiet hcore hevents => exact output_eq_nil hevents
    | emitted m payload hfrom hto hfanout hreason hevents => simp [hended] at hfrom
  refine h.congr hinbound ?_ ?_ ?_
  · obtain ⟨hlt, hget⟩ := List.getElem?_eq_some_iff.mp hpc
    rw [readers_after, hreader, ← hended, ← hget, List.set_getElem_self]
  · rw [emitted_after, hnothing, List.append_nil]
  · rw [System.advances, System.events_after, List.count_append,
      List.count_eq_zero_of_not_mem hnone]
    rfl

/-- The counter after an operation. -/
lemma counter_after (h : Reading s) (hin : InboundStep s.cont ch o)
    (hwrap : (s.after c o).advances < 2 ^ 63) :
    o.cont.inbound.expected.toInt = (s.after c o).advances ∧
      ((o.cont.inbound.expected = s.cont.inbound.expected ∧ Event.advanced ∉ o.events) ∨
        ∀ n, n ≤ s.cont.inbound.expected → n < o.cont.inbound.expected) := by
  have hadvances : (s.after c o).advances = s.advances + o.events.count .advanced := by
    rw [System.advances, System.events_after, List.count_append]
    rfl
  obtain ⟨hsame, hnone⟩ | ⟨hnext, hevents⟩ := hin.counter
  · rw [hsame, hadvances, List.count_eq_zero_of_not_mem hnone]
    exact ⟨h.expected, .inl ⟨rfl, hnone⟩⟩
  · have hlt : s.cont.inbound.expected.toInt < 2 ^ 63 - 1 := by
      rw [hadvances, hevents] at hwrap
      rw [h.expected]
      simp only [List.count_singleton_self] at hwrap
      omega
    rw [hnext, toInt_add_one hlt, hadvances, hevents, h.expected]
    exact ⟨by simp, .inr (fun n hn => lt_add_one hlt hn)⟩

/-- The newest channel goes on reading. -/
lemma after_newest (h : Reading s) (hch : s.channels[c]? = some ch)
    (hnewest : c + 1 = s.channels.length) (hin : InboundStep s.cont ch o) (hout : OutputStep ch o)
    (hwrap : (s.after c o).advances < 2 ^ 63) : Reading (s.after c o) := by
  have hlen : s.readers.length = s.channels.length := List.length_map _
  have hlast : s.readers.getLast? = some ch.reader := by
    rw [List.getLast?_eq_getElem?, hlen, show s.channels.length - 1 = c by omega]
    simp [System.readers, hch]
  have hlast' : (s.after c o).readers.getLast? = some o.channel.reader := by
    rw [readers_after, List.getLast?_eq_getElem?, List.length_set, hlen,
      show s.channels.length - 1 = c by omega]
    exact List.getElem?_set_self (by omega)
  have hexact := h.newest ch.reader hlast
  obtain ⟨hexpected, hcounter⟩ := h.counter_after hin hwrap
  have hold : ∀ x ∈ s.emitted, x.1 < o.cont.inbound.expected ∨
      (x.1 = o.cont.inbound.expected ∧
        ∃ m, (s.after c o).readers.getLast? = some (.advancing m)) := by
    intro x hx
    obtain ⟨hsame, hnone⟩ | hmore := hcounter
    · rw [hsame, hlast']
      obtain hlt | ⟨heq, m, hm⟩ := h.numbers x hx
      · exact .inl hlt
      · rw [hlast] at hm
        obtain hreader | hadv := hin.of_advancing (Option.some.inj hm)
        · exact .inr ⟨heq, m, by rw [hreader]⟩
        · exact absurd hadv hnone
    · refine .inl (hmore _ ?_)
      obtain hlt | ⟨heq, -⟩ := h.numbers x hx
      · exact Int64.le_of_lt hlt
      · exact heq ▸ Int64.le_refl _
  have hemitted : (∀ x ∈ (s.after c o).emitted, x.1 < o.cont.inbound.expected ∨
      (x.1 = o.cont.inbound.expected ∧
        ∃ m, (s.after c o).readers.getLast? = some (.advancing m))) ∧
      (s.after c o).emitted.Pairwise (fun x y => x.1 < y.1) := by
    rw [emitted_after]
    cases hout with
    | quiet hcore hevents =>
      rw [output_eq_nil hevents, List.append_nil]
      exact ⟨hold, h.inOrder⟩
    | emitted m payload hfrom hto hfanout hreason hevents =>
      -- The message is the one the counter stands at, and everything before it is below.
      have hnumber : m.sequenceNumber = s.cont.inbound.expected := hexact.held m (by rw [hfrom]; rfl)
      have hsame : o.cont.inbound.expected = s.cont.inbound.expected := by
        obtain ⟨hsame, -⟩ | ⟨-, hadv⟩ := hin.counter
        · exact hsame
        · rw [hevents] at hadv
          cases hadv
      have hbelow : ∀ x ∈ s.emitted, x.1 < s.cont.inbound.expected := by
        intro x hx
        obtain hlt | ⟨-, m', hm'⟩ := h.numbers x hx
        · exact hlt
        · rw [hlast, hfrom] at hm'
          cases hm'
      rw [hevents]
      constructor
      · intro x hx
        obtain hx | hx := List.mem_append.mp hx
        · exact hold x hx
        · rw [List.mem_singleton.mp hx]
          exact .inr ⟨hnumber.trans hsame.symm, m, by rw [hlast', hto]⟩
      · refine List.pairwise_append.mpr ⟨h.inOrder, List.pairwise_singleton _ _, ?_⟩
        intro x hx y hy
        rw [List.mem_singleton.mp hy]
        exact hnumber ▸ hbelow x hx
  refine ⟨hexpected, hin.keys h.keys, ?_, ?_, hemitted.1, hemitted.2⟩
  · intro c' pc holder hpc
    rw [readers_after, List.length_set, hlen] at holder
    rw [readers_after, List.getElem?_set_ne (by omega)] at hpc
    exact h.older c' pc (by omega) hpc
  · intro pc hpc
    rw [hlast'] at hpc
    cases hpc
    exact hin.within h.keys hexact rfl (fun hsame n hn => hn.trans hsame.symm)

lemma after (h : Reading s) (hch : s.channels[c]? = some ch) (hin : InboundStep s.cont ch o)
    (hout : OutputStep ch o) (hwrap : (s.after c o).advances < 2 ^ 63) :
    Reading (s.after c o) := by
  have hlt := (List.getElem?_eq_some_iff.mp hch).1
  by_cases hnewest : c + 1 = s.channels.length
  · exact h.after_newest hch hnewest hin hout hwrap
  · exact h.after_older hch (by omega) hin hout

/-- A session is resumed after its readers have ended. -/
lemma resumed {config : ChannelConfig} (h : Reading s)
    (hended : ∀ ch ∈ s.channels, ch.reader = .ended) : Reading (s.resumed config) := by
  have hreaders : (s.resumed config).readers = s.readers ++ [.select] := List.map_append
  have hall : ∀ pc ∈ s.readers, pc = .ended := by
    intro pc hpc
    obtain ⟨ch, hch, rfl⟩ := List.mem_map.mp hpc
    exact hended ch hch
  refine ⟨h.expected, h.keys, ?_, ?_, ?_, h.inOrder⟩
  · intro c pc holder hpc
    rw [hreaders, List.length_append, List.length_singleton] at holder
    rw [hreaders, List.getElem?_append_left (by omega)] at hpc
    exact hall pc (List.mem_of_getElem? hpc)
  · intro pc hpc
    rw [hreaders, List.getLast?_concat] at hpc
    cases hpc
    exact .idle rfl (by simp) (by simp)
  · intro x hx
    obtain hlt | ⟨-, m, hm⟩ := h.numbers x hx
    · exact .inl hlt
    · have hadv := hall _ (List.mem_of_getLast? hm)
      cases hadv

end Reading

/-! ## Pumping in order -/

lemma PumpPc.holds_congr {f f' : OutputFanout} (h : ∀ i, f'.queued i = f.queued i)
    (pump : PumpPc) : pump.holds f' = pump.holds f := by
  cases pump <;> simp [PumpPc.holds, h]

/-- A subscribed pump gets what is handed over to its stream. -/
lemma PumpPc.holds_send {f : OutputFanout} {pump : PumpPc} {i : ℕ} {s : OutputStream}
    {payload : Bytes} (hstream : pump.stream = some i) (hs : f.streams[i]? = some s)
    (hready : s.ready = true) : pump.holds (f.send payload) = pump.holds f ++ [payload] := by
  cases pump with
  | pumping j =>
    cases hstream
    exact OutputFanout.queued_send hs hready
  | forwarding j chunk =>
    cases hstream
    simp [PumpPc.holds, OutputFanout.queued_send hs hready]
  | _ => cases hstream

lemma SessionCore.Quiet.queued {core core' : SessionCore} (h : core.Quiet core') (i : ℕ) :
    core'.fanout.queued i = core.fanout.queued i := by
  obtain ⟨base, rfl | ⟨reason, rfl⟩, hfanout, -⟩ := h
  · rw [hfanout]
  · rw [hfanout]
    unfold SessionCore.close
    split
    · rfl
    · exact OutputFanout.queued_close

namespace ReconnectingSession

/-- What the readers handed over is what was forwarded and what the pumps hold. -/
structure Piped (r : ReconnectingSession) (forwarded : List Bytes) : Prop where
  adopted : r.pumps.length ≤ r.session.channels.length
  adopting : r.supervisor = .adopting → r.pumps.length < r.session.channels.length
  shut : r.session.Each (fun ch => ch.core.Shut)
  older : ∀ (c : ℕ) (ch : Channel), c + 1 < r.session.channels.length →
    r.session.channels[c]? = some ch → ch.core.isClosed = true
  piped : r.session.emitted.map Prod.snd = forwarded ++ r.backlog
  closed : r.output.closed = true → r.backlog = []

variable {env : Env} {r : ReconnectingSession} {c : ℕ} {ch : Channel} {o : Outcome} {a : Action}
  {forwarded : List Bytes} {fanout : OutputFanout} {pump pump' : PumpPc}

lemma holds_of (hpump : r.pumps[c]? = some pump) (hch : r.session.channels[c]? = some ch) :
    r.holds c = pump.holds ch.core.fanout := by
  rw [holds, hpump, hch]

/-- The pump of a channel that takes another chunk. -/
lemma attended_cases (hch : r.session.channels[c]? = some ch) (h : r.attended c = true) :
    ∃ pump i s, r.pumps[c]? = some pump ∧ pump.stream = some i ∧
      ch.core.fanout.streams[i]? = some s ∧ s.ready = true := by
  unfold attended at h
  rw [hch] at h
  cases hpump : r.pumps[c]? with
  | none => simp [hpump] at h
  | some pump =>
    simp only [hpump, Option.any_eq_true] at h
    obtain ⟨i, hi, s, hs, hready⟩ := h
    exact ⟨pump, i, s, rfl, hi, hs, hready⟩

/-! ### Operations of a channel -/

section

variable (r)

lemma holds_act_of_ne {c' : ℕ} (hne : c' ≠ c) :
    holds { r with session := r.session.after c o } c' = r.holds c' := by
  unfold holds
  rw [System.channel_after_of_ne hne]

lemma holds_act_self (hpump : r.pumps[c]? = some pump) (hch : r.session.channels[c]? = some ch) :
    holds { r with session := r.session.after c o } c = pump.holds o.channel.core.fanout := by
  unfold holds
  rw [hpump, System.channel_after_self hch]

lemma backlog_act : backlog { r with session := r.session.after c o } =
    Relay.backlog r.session.channels.length (holds { r with session := r.session.after c o }) := by
  unfold backlog
  rw [show (r.session.after c o).channels.length = r.session.channels.length from List.length_set]

end

/-- Channels stay shut, and all but the newest closed. -/
lemma Piped.channels_act (h : Piped r forwarded) (hch : r.session.channels[c]? = some ch)
    (hstep : ChannelStep env c r.session.cont ch o) (hout : OutputStep ch o) :
    (r.session.after c o).Each (fun ch => ch.core.Shut) ∧
      ∀ (c' : ℕ) (ch' : Channel), c' + 1 < (r.session.after c o).channels.length →
        (r.session.after c o).channels[c']? = some ch' → ch'.core.isClosed = true := by
  constructor
  · intro c' ch' hch'
    obtain ⟨-, rfl⟩ | ⟨-, hold⟩ := System.channel_after hch'
    · cases hout with
      | quiet hcore hevents => exact (h.shut c ch hch).quiet hcore
      | emitted m payload hfrom hto hfanout hreason hevents =>
        exact (h.shut c ch hch).send hfanout hreason
    · exact h.shut c' ch' hold
  · intro c' ch' holder hch'
    have holder' : c' + 1 < r.session.channels.length := by simpa [System.after] using holder
    obtain ⟨rfl, rfl⟩ | ⟨-, hold⟩ := System.channel_after hch'
    · obtain ⟨reason, hr⟩ := Option.isSome_iff_exists.mp (h.older c' ch holder' hch)
      simp [SessionCore.isClosed, hstep.closeReason hr]
    · exact h.older c' ch' holder' hold

/-- An operation that hands nothing over leaves the pumps what they hold. -/
lemma backlog_quiet (hch : r.session.channels[c]? = some ch)
    (hcore : ch.core.Quiet o.channel.core) :
    backlog { r with session := r.session.after c o } = r.backlog := by
  rw [backlog_act]
  refine backlog_congr (fun c' _ => ?_)
  by_cases hne : c' = c
  · subst hne
    unfold holds
    rw [System.channel_after_self hch, hch]
    cases r.pumps[c']? with
    | none => rfl
    | some pump => exact pump.holds_congr hcore.queued
  · exact r.holds_act_of_ne hne

/-- A payload handed over to an attended channel, which must be the newest, is last in line. -/
lemma Piped.backlog_emitted (h : Piped r forwarded) (hch : r.session.channels[c]? = some ch)
    {payload : Bytes} (hfanout : o.channel.core.fanout = ch.core.fanout.send payload)
    (hattended : r.attended c = true) :
    backlog { r with session := r.session.after c o } = r.backlog ++ [payload] := by
  obtain ⟨pump, i, s, hpump, hstream, hs, hready⟩ := attended_cases hch hattended
  have hnewest : c + 1 = r.session.channels.length := by
    have hlt := (List.getElem?_eq_some_iff.mp hch).1
    by_contra hne
    have hclosed := h.older c ch (by omega) hch
    have hdetached := (h.shut c ch hch).detached hclosed s (List.mem_of_getElem? hs)
    simp [OutputStream.ready, hdetached] at hready
  rw [backlog_act]
  refine backlog_took hnewest ?_ (fun c' hne => r.holds_act_of_ne hne)
  rw [r.holds_act_self hpump hch, holds_of hpump hch, hfanout]
  exact PumpPc.holds_send hstream hs hready

lemma Piped.act (h : Piped r forwarded) (hch : r.session.channels[c]? = some ch)
    (ho : perform env c r.session.cont ch a = some o)
    (horderly : Orderly r (.act c a) { r with session := r.session.after c o }) :
    Piped { r with session := r.session.after c o } forwarded := by
  have hout := perform_output ho
  obtain ⟨hshut, holder⟩ := h.channels_act hch (perform_cases ho) hout
  have hlen : (r.session.after c o).channels.length = r.session.channels.length := List.length_set
  have hadopted : r.pumps.length ≤ (r.session.after c o).channels.length := hlen ▸ h.adopted
  have hadopting : r.supervisor = .adopting →
      r.pumps.length < (r.session.after c o).channels.length := hlen ▸ h.adopting
  cases hout with
  | quiet hcore hevents =>
    have hbacklog := backlog_quiet hch hcore
    refine ⟨hadopted, hadopting, hshut, holder, ?_, ?_⟩
    · rw [hbacklog, Reading.emitted_after, Reading.output_eq_nil hevents, List.append_nil]
      exact h.piped
    · rw [hbacklog]
      exact h.closed
  | emitted m payload hfrom hto hfanout hreason hevents =>
    have hemitted : (r.session.after c o).emitted =
        r.session.emitted ++ [(m.sequenceNumber, payload)] := by
      rw [Reading.emitted_after, hevents]
      rfl
    obtain hsame | ⟨hattended, hopen⟩ := horderly
    · exact absurd (hemitted.symm.trans hsame) (by simp)
    · have hbacklog := h.backlog_emitted hch hfanout hattended
      refine ⟨hadopted, hadopting, hshut, holder, ?_, ?_⟩
      · rw [hbacklog, hemitted, List.map_append, h.piped, List.append_assoc]
        rfl
      · intro hclosed
        rw [hopen] at hclosed
        cases hclosed

/-! ### Pumps and the supervisor -/

lemma setPump_self (hch : r.session.channels[c]? = some ch) :
    r.setPump c ch ch.core.fanout pump = { r with pumps := r.pumps.set c pump } := by
  obtain ⟨hlt, hget⟩ := List.getElem?_eq_some_iff.mp hch
  have hsame : r.session.channels.set c ch = r.session.channels := by
    rw [← hget, List.set_getElem_self]
  show { r with session := { r.session with channels := r.session.channels.set c ch }
                pumps := r.pumps.set c pump } = _
  rw [hsame]

lemma holds_setPump (hpump : r.pumps[c]? = some pump) (hch : r.session.channels[c]? = some ch) :
    (r.setPump c ch fanout pump').holds c = pump'.holds fanout := by
  have hp := (List.getElem?_eq_some_iff.mp hpump).1
  have hc := (List.getElem?_eq_some_iff.mp hch).1
  simp [holds, ReconnectingSession.setPump, hp, hc, Channel.withFanout]

lemma holds_setPump_of_ne {c' : ℕ} (hne : c' ≠ c) :
    (r.setPump c ch fanout pump').holds c' = r.holds c' := by
  unfold holds ReconnectingSession.setPump
  rw [List.getElem?_set_ne (Ne.symm hne), List.getElem?_set_ne (Ne.symm hne)]

lemma backlog_setPump : (r.setPump c ch fanout pump').backlog =
    Relay.backlog r.session.channels.length (r.setPump c ch fanout pump').holds := by
  unfold backlog ReconnectingSession.setPump
  rw [List.length_set]

/-- A pump that takes a chunk out of its queue, or that subscribes or ends, holds what it held. -/
lemma backlog_setPump_eq (hpump : r.pumps[c]? = some pump)
    (hch : r.session.channels[c]? = some ch)
    (hholds : pump'.holds fanout = pump.holds ch.core.fanout) :
    (r.setPump c ch fanout pump').backlog = r.backlog := by
  rw [backlog_setPump]
  refine backlog_congr (fun c' _ => ?_)
  by_cases hne : c' = c
  · subst hne
    rw [holds_setPump hpump hch, hholds, holds_of hpump hch]
  · exact holds_setPump_of_ne hne

lemma Piped.setPump (h : Piped r forwarded) (hpump : r.pumps[c]? = some pump)
    (hch : r.session.channels[c]? = some ch) (hshut : (ch.withFanout fanout).core.Shut)
    (hholds : pump'.holds fanout = pump.holds ch.core.fanout) :
    Piped (r.setPump c ch fanout pump') forwarded := by
  have hbacklog := backlog_setPump_eq hpump hch hholds
  refine ⟨?_, ?_, ?_, ?_, ?_, ?_⟩
  · simpa [ReconnectingSession.setPump] using h.adopted
  · intro hpc
    simpa [ReconnectingSession.setPump] using h.adopting hpc
  · intro c' ch' hch'
    obtain ⟨-, rfl⟩ | ⟨-, hold⟩ := Machine.getElem?_of_set hch'
    · exact hshut
    · exact h.shut c' ch' hold
  · intro c' ch' holder hch'
    have holder' : c' + 1 < r.session.channels.length := by simpa [ReconnectingSession.setPump] using holder
    obtain ⟨rfl, rfl⟩ | ⟨-, hold⟩ := Machine.getElem?_of_set hch'
    · exact h.older c' ch holder' hch
    · exact h.older c' ch' holder' hold
  · rw [hbacklog]
    exact h.piped
  · rw [hbacklog]
    exact h.closed

/-- The oldest pump that holds something forwards the chunk that is first in line. -/
lemma backlog_forward (output : OutputFanout) {i : ℕ} {chunk : Bytes}
    (hpump : r.pumps[c]? = some (.forwarding i chunk)) (hlt : c < r.session.channels.length)
    (hfront : ∀ c' < c, r.holds c' = []) :
    r.backlog = chunk :: backlog { r with output, pumps := r.pumps.set c (.pumping i) } := by
  have hch : r.session.channels[c]? = some r.session.channels[c] := List.getElem?_eq_getElem hlt
  have hholds : ∀ c', holds { r with output, pumps := r.pumps.set c (.pumping i) } c' =
      (r.setPump c r.session.channels[c] r.session.channels[c].core.fanout (.pumping i)).holds c' := by
    intro c'
    rw [setPump_self hch]
    rfl
  refine backlog_gave hlt hfront ?_ (fun c' hne => ?_)
  · rw [hholds, holds_setPump hpump hch, holds_of hpump hch]
    rfl
  · rw [hholds, holds_setPump_of_ne hne]

lemma Piped.forward (h : Piped r forwarded) {i : ℕ} {chunk : Bytes}
    (hpump : r.pumps[c]? = some (.forwarding i chunk)) (hfront : ∀ c' < c, r.holds c' = []) :
    r.output.closed = false ∧
      Piped { r with output := r.output.send chunk, pumps := r.pumps.set c (.pumping i) }
        (forwarded ++ [chunk]) := by
  have hlt : c < r.session.channels.length :=
    Nat.lt_of_lt_of_le (List.getElem?_eq_some_iff.mp hpump).1 h.adopted
  have hbacklog := backlog_forward (r.output.send chunk) hpump hlt hfront
  have hopen : r.output.closed = false := by
    by_contra hclosed
    have hempty := h.closed (by simpa using hclosed)
    rw [hbacklog] at hempty
    cases hempty
  refine ⟨hopen, ?_, ?_, h.shut, h.older, ?_, ?_⟩
  · simpa using h.adopted
  · intro hpc
    simpa using h.adopting hpc
  · rw [List.append_assoc, List.singleton_append, ← hbacklog]
    exact h.piped
  · intro hclosed
    have hclosed' : r.output.closed = true := hclosed
    rw [hopen] at hclosed'
    cases hclosed'

lemma Piped.adopt (h : Piped r forwarded) (hpc : r.supervisor = .adopting) :
    Piped { r with pumps := r.pumps ++ [.spawned], supervisor := .watching } forwarded := by
  set r' : ReconnectingSession :=
    { r with pumps := r.pumps ++ [.spawned], supervisor := .watching } with hr'
  have hholds : ∀ c', r'.holds c' = r.holds c' := by
    intro c'
    unfold holds
    by_cases hlt : c' < r.pumps.length
    · rw [show r'.pumps[c']? = r.pumps[c']? from List.getElem?_append_left hlt]
    · -- A pump that was just spawned holds as little as one that does not exist.
      have hle := Nat.le_of_not_lt hlt
      rw [show r'.pumps[c']? = [PumpPc.spawned][c' - r.pumps.length]? from
        List.getElem?_append_right hle, List.getElem?_eq_none hle]
      cases c' - r.pumps.length <;> cases r.session.channels[c']? <;> rfl
  have hbacklog : r'.backlog = r.backlog := backlog_congr (fun c' _ => hholds c')
  refine ⟨?_, ?_, h.shut, h.older, hbacklog ▸ h.piped, hbacklog ▸ h.closed⟩
  · rw [hr', List.length_append, List.length_singleton]
    exact h.adopting hpc
  · intro hwatching
    cases hwatching

lemma Piped.resume (h : Piped r forwarded) {config : ChannelConfig}
    (hr : r.session.resumable = true) :
    Piped { r with session := r.session.resumed config, supervisor := .adopting } forwarded := by
  set r' : ReconnectingSession :=
    { r with session := r.session.resumed config, supervisor := .adopting } with hr'
  have hlen : r'.session.channels.length = r.session.channels.length + 1 := by
    simp [hr', System.resumed]
  have hbacklog : r'.backlog = r.backlog := by
    have hnew : r'.holds r.session.channels.length = [] := by
      unfold holds
      rw [show r'.pumps[r.session.channels.length]? = none from List.getElem?_eq_none h.adopted]
    unfold backlog
    rw [hlen, backlog_joined hnew]
    refine backlog_congr (fun c' hc' => ?_)
    unfold holds
    rw [show r'.session.channels[c']? = r.session.channels[c']? from
      List.getElem?_append_left hc']
  refine ⟨?_, ?_, ?_, ?_, hbacklog ▸ h.piped, hbacklog ▸ h.closed⟩
  · rw [hlen]
    exact Nat.le_succ_of_le h.adopted
  · intro _
    rw [hlen]
    exact Nat.lt_succ_of_le h.adopted
  · intro c ch hch
    obtain ⟨-, rfl⟩ | hold := System.channel_resumed hch
    · exact ⟨rfl, fun hclosed => by cases hclosed⟩
    · exact h.shut c ch hold
  · intro c ch holder hch
    rw [hlen] at holder
    obtain ⟨hc, -⟩ | hold := System.channel_resumed hch
    · omega
    · by_cases hnewest : c + 1 < r.session.channels.length
      · exact h.older c ch hnewest hold
      · -- The channel that is being replaced is the newest one.
        have hclast : c = r.session.channels.length - 1 := by omega
        rw [hclast, ← List.getLast?_eq_getElem?] at hold
        have hresumable : ch.core.closedResumably = true := by
          simpa [System.resumable, hold] using hr
        cases hreason : ch.core.closeReason with
        | none => simp [SessionCore.closedResumably, hreason] at hresumable
        | some reason => simp [SessionCore.isClosed, hreason]

/-- Moves that touch neither the channels nor the pumps. -/
lemma Piped.same (h : Piped r forwarded) {r' : ReconnectingSession}
    (hsession : r'.session = r.session) (hpumps : r'.pumps = r.pumps)
    (hpc : r'.supervisor = .adopting → r.supervisor = .adopting)
    (hclosed : r'.output.closed = true → r.backlog = []) : Piped r' forwarded := by
  have hbacklog : r'.backlog = r.backlog := by
    have hholds : r'.holds = r.holds := by
      funext c
      unfold holds
      rw [hsession, hpumps]
    unfold backlog
    rw [hsession, hholds]
  refine ⟨?_, ?_, ?_, ?_, ?_, ?_⟩
  · rw [hpumps, hsession]
    exact h.adopted
  · intro hadopting
    rw [hpumps, hsession]
    exact h.adopting (hpc hadopting)
  · rw [hsession]
    exact h.shut
  · rw [hsession]
    exact h.older
  · rw [hsession, hbacklog]
    exact h.piped
  · rw [hbacklog]
    exact hclosed

lemma Piped.start (config : ChannelConfig) : Piped (ReconnectingSession.start config) [] where
  adopted := Nat.zero_le _
  adopting _ := Nat.zero_lt_one
  shut c ch hch := by
    rw [System.channel_start hch]
    exact ⟨rfl, fun hclosed => by cases hclosed⟩
  older c ch holder _ := by simp [ReconnectingSession.start, System.start] at holder
  piped := rfl
  closed hclosed := by cases hclosed

/-! ## Serving the subscribers -/

/-- A subscriber that was not evicted and did not leave got the end of what was forwarded, from a
point that was no later than its subscription. -/
structure Served (r : ReconnectingSession) (forwarded : List Bytes) : Prop where
  count : r.subscribers.length = r.output.streams.length
  room : ∀ s ∈ r.output.streams, 0 < s.capacity
  each : ∀ (i : ℕ) (sub : Subscriber) (s : OutputStream), r.subscribers[i]? = some sub →
    r.output.streams[i]? = some s → s.lagged = false → s.dropped = false →
    (s.attached = true ∨ r.output.closed = true) ∧
      ∃ start ≤ sub.joined, start ≤ forwarded.length ∧
        sub.received ++ s.queue = forwarded.drop start

lemma Served.same (h : Served r forwarded) {r' : ReconnectingSession}
    (houtput : r'.output = r.output) (hsubscribers : r'.subscribers = r.subscribers) :
    Served r' forwarded := by
  refine ⟨?_, houtput ▸ h.room, ?_⟩
  · rw [hsubscribers, houtput]
    exact h.count
  · rw [hsubscribers, houtput]
    exact h.each

/-- Every attached stream gets the chunk, or its subscriber is evicted. -/
lemma Served.send (h : Served r forwarded) (hopen : r.output.closed = false) {chunk : Bytes}
    {r' : ReconnectingSession} (houtput : r'.output = r.output.send chunk)
    (hsubscribers : r'.subscribers = r.subscribers) : Served r' (forwarded ++ [chunk]) := by
  refine ⟨?_, ?_, ?_⟩
  · rw [hsubscribers, houtput]
    simpa [OutputFanout.send] using h.count
  · intro s hs
    rw [houtput] at hs
    obtain ⟨s₀, hs₀, rfl⟩ := List.mem_map.mp hs
    rw [OutputStream.capacity_offer]
    exact h.room s₀ hs₀
  · intro i sub s hsub hs hlagged hdropped
    rw [hsubscribers] at hsub
    rw [houtput] at hs ⊢
    simp only [OutputFanout.send, List.getElem?_map, Option.map_eq_some_iff] at hs
    obtain ⟨s₀, hs₀, rfl⟩ := hs
    by_cases hattached : s₀.attached = true
    · unfold OutputStream.offer at hlagged hdropped ⊢
      simp only [hattached, Bool.not_true, Bool.false_eq_true, if_false] at hlagged hdropped ⊢
      split_ifs at hlagged hdropped ⊢ with hleft hfull
      · exact absurd hdropped (by simp [hleft])
      · obtain ⟨-, start, hjoined, hlen, hgot⟩ :=
          h.each i sub s₀ hsub hs₀ hlagged (by simpa using hleft)
        refine ⟨.inl rfl, start, hjoined, ?_, ?_⟩
        · rw [List.length_append]
          omega
        · rw [List.drop_append_of_le_length hlen, ← hgot, List.append_assoc]
    · -- A stream that is not attached was evicted or left, since the fan-out is open.
      have hoffer : s₀.offer chunk = s₀ := by simp [OutputStream.offer, hattached]
      rw [hoffer] at hlagged hdropped
      obtain ⟨hatt | hclosed, -⟩ := h.each i sub s₀ hsub hs₀ hlagged hdropped
      · exact absurd hatt hattached
      · rw [hopen] at hclosed
        cases hclosed

lemma Served.subscribe (h : Served r forwarded)
    (hjoined : forwarded.length ≤ r.session.emitted.length) :
    Served r.subscribe forwarded := by
  refine ⟨?_, ?_, ?_⟩
  · simp [ReconnectingSession.subscribe, OutputFanout.subscribe, h.count]
  · intro s hs
    obtain hs | hs := List.mem_append.mp hs
    · exact h.room s hs
    · rw [List.mem_singleton.mp hs]
      exact Nat.lt_of_lt_of_le Nat.zero_lt_one (Nat.le_max_right _ _)
  · intro i sub s hsub hs hlagged hdropped
    simp only [ReconnectingSession.subscribe, OutputFanout.subscribe] at hsub hs ⊢
    by_cases hlt : i < r.subscribers.length
    · rw [List.getElem?_append_left hlt] at hsub
      rw [List.getElem?_append_left (h.count ▸ hlt)] at hs
      exact h.each i sub s hsub hs hlagged hdropped
    · have hle := Nat.le_of_not_lt hlt
      rw [List.getElem?_append_right hle] at hsub
      rw [List.getElem?_append_right (h.count ▸ hle)] at hs
      obtain rfl := List.mem_singleton.mp (List.mem_of_getElem? hsub)
      obtain rfl := List.mem_singleton.mp (List.mem_of_getElem? hs)
      refine ⟨?_, forwarded.length, hjoined, le_rfl, by simp⟩
      cases r.output.closed <;> simp

lemma Served.recv (h : Served r forwarded) {i : ℕ} {chunk : Bytes} {output : OutputFanout}
    {sub : Subscriber} (hrecv : r.output.recv i = some (chunk, output))
    (hsub : r.subscribers[i]? = some sub) :
    Served { r with
      output
      subscribers := r.subscribers.set i { sub with received := sub.received ++ [chunk] } }
      forwarded := by
  obtain ⟨s, rest, hs, hqueue, rfl⟩ := OutputFanout.recv_cases hrecv
  refine ⟨?_, ?_, ?_⟩
  · simpa using h.count
  · intro s' hs'
    obtain hmem | rfl := List.mem_or_eq_of_mem_set hs'
    · exact h.room s' hmem
    · exact h.room s (List.mem_of_getElem? hs)
  · intro j sub' s' hsub' hs' hlagged hdropped
    by_cases hij : i = j
    · subst hij
      have hlt := (List.getElem?_eq_some_iff.mp hsub).1
      have hlt' := (List.getElem?_eq_some_iff.mp hs).1
      simp only [List.getElem?_set_self hlt, Option.some.injEq] at hsub'
      simp only [List.getElem?_set_self hlt', Option.some.injEq] at hs'
      subst hsub' hs'
      obtain ⟨hstays, start, hjoined, hlen, hgot⟩ := h.each i sub s hsub hs hlagged hdropped
      refine ⟨hstays, start, hjoined, hlen, ?_⟩
      rw [← hgot, hqueue]
      simp
    · simp only [List.getElem?_set_ne hij] at hsub' hs'
      exact h.each j sub' s' hsub' hs' hlagged hdropped

lemma streams_dropStream {i j : ℕ} {s : OutputStream}
    (hs : (r.dropStream i).output.streams[j]? = some s) :
    ∃ s₀, r.output.streams[j]? = some s₀ ∧ s.capacity = s₀.capacity ∧
      (s.dropped = false → s = s₀) := by
  simp only [ReconnectingSession.dropStream, List.getElem?_modify] at hs
  cases hj : r.output.streams[j]? with
  | none => simp [hj] at hs
  | some s₀ =>
    simp only [hj, Option.map_eq_map, Option.map_some, Option.some.injEq] at hs
    subst hs
    refine ⟨s₀, rfl, ?_, ?_⟩ <;> split_ifs <;> simp

lemma Served.dropStream (h : Served r forwarded) (i : ℕ) : Served (r.dropStream i) forwarded := by
  refine ⟨?_, ?_, ?_⟩
  · simpa [ReconnectingSession.dropStream] using h.count
  · intro s hs
    obtain ⟨j, hj⟩ := List.getElem?_of_mem hs
    obtain ⟨s₀, hs₀, hcapacity, -⟩ := streams_dropStream hj
    rw [hcapacity]
    exact h.room s₀ (List.mem_of_getElem? hs₀)
  · intro j sub s hsub hs hlagged hdropped
    obtain ⟨s₀, hs₀, -, hsame⟩ := streams_dropStream hs
    obtain rfl := hsame hdropped
    exact h.each j sub s hsub hs₀ hlagged hdropped

/-- Closing the fan-out leaves the queues to their subscribers. -/
lemma Served.close (h : Served r forwarded) {r' : ReconnectingSession}
    (houtput : r'.output = r.output.close) (hsubscribers : r'.subscribers = r.subscribers) :
    Served r' forwarded := by
  by_cases hclosed : r.output.closed = true
  · refine h.same ?_ hsubscribers
    rw [houtput, OutputFanout.close, if_pos hclosed]
  · have hstreams : r'.output = ⟨r.output.streams.map (fun s => { s with attached := false }), true⟩ := by
      rw [houtput, OutputFanout.close, if_neg hclosed]
    refine ⟨?_, ?_, ?_⟩
    · rw [hsubscribers, hstreams]
      simpa using h.count
    · intro s hs
      rw [hstreams] at hs
      obtain ⟨s₀, hs₀, rfl⟩ := List.mem_map.mp hs
      exact h.room s₀ hs₀
    · intro i sub s hsub hs hlagged hdropped
      rw [hsubscribers] at hsub
      rw [hstreams] at hs ⊢
      simp only [List.getElem?_map, Option.map_eq_some_iff] at hs
      obtain ⟨s₀, hs₀, rfl⟩ := hs
      exact ⟨.inr rfl, (h.each i sub s₀ hsub hs₀ hlagged hdropped).2⟩

/-! ## Runs -/

/-- The three parts of the invariant. -/
structure Orderliness (r : ReconnectingSession) : Prop where
  reading : r.session.advances < 2 ^ 63 → Reading r.session
  served : ∃ forwarded, Piped r forwarded ∧ Served r forwarded

/-- Moves that leave the channels alone do not disturb the readers. -/
lemma Orderliness.of_parts (h : Orderliness r) {r' : ReconnectingSession}
    (hinbound : r'.session.cont = r.session.cont) (hreaders : r'.session.readers = r.session.readers)
    (hlog : r'.session.log = r.session.log) (hpiped : Piped r' forwarded)
    (hserved : Served r' forwarded) : Orderliness r' := by
  have hevents : r'.session.events = r.session.events := by
    unfold System.events
    rw [hlog]
  have hadvances : r'.session.advances = r.session.advances := by
    unfold System.advances
    rw [hevents]
  refine ⟨fun hwrap => ?_, forwarded, hpiped, hserved⟩
  refine (h.reading (hadvances ▸ hwrap)).congr (by rw [hinbound]) hreaders ?_ hadvances
  unfold System.emitted
  rw [hevents]

lemma readers_setPump (hch : r.session.channels[c]? = some ch) :
    (r.setPump c ch fanout pump).session.readers = r.session.readers := by
  obtain ⟨hlt, hget⟩ := List.getElem?_eq_some_iff.mp hch
  show (r.session.channels.set c (ch.withFanout fanout)).map Channel.reader = _
  have hreader : (r.session.channels.map Channel.reader)[c]? = some ch.reader := by simp [hch]
  obtain ⟨hlt', hget'⟩ := List.getElem?_eq_some_iff.mp hreader
  rw [List.map_set, show (ch.withFanout fanout).reader = ch.reader from rfl, ← hget',
    List.set_getElem_self]
  rfl

/-- An orderly move keeps the invariant. -/
theorem Orderliness.step {m : Move} {r' : ReconnectingSession} (h : Orderliness r)
    (hmoved : Moved env r m r') (horderly : Orderly r m r') : Orderliness r' := by
  obtain ⟨forwarded, hpiped, hserved⟩ := h.served
  cases hmoved with
  | act c a ch o hch ho =>
    refine ⟨fun hwrap => ?_, forwarded, hpiped.act hch ho horderly, hserved.same rfl rfl⟩
    have hbefore : r.session.advances < 2 ^ 63 := by
      have hcount : (r.session.after c o).advances < 2 ^ 63 := hwrap
      rw [System.advances, System.events_after, List.count_append] at hcount
      exact Nat.lt_of_le_of_lt (Nat.le_add_right _ _) hcount
    exact (h.reading hbefore).after hch (perform_inbound ho) (perform_output ho) hwrap
  | adopted hpc => exact h.of_parts rfl rfl rfl (hpiped.adopt hpc) (hserved.same rfl rfl)
  | resumed now config hr =>
    exact ⟨fun hwrap => (h.reading hwrap).resumed horderly, forwarded, hpiped.resume hr,
      hserved.same rfl rfl⟩
  | controlled m supervisor shutdown hpc =>
    exact h.of_parts rfl rfl rfl (hpiped.same rfl rfl hpc hpiped.closed) (hserved.same rfl rfl)
  | closed m supervisor hm hpc =>
    have hempty : r.backlog = [] := by
      obtain rfl | rfl := hm <;> exact horderly
    exact h.of_parts rfl rfl rfl (hpiped.same rfl rfl hpc (fun _ => hempty)) (hserved.close rfl rfl)
  | started c ch hpump hch =>
    refine h.of_parts rfl (readers_setPump hch) rfl
      (hpiped.setPump hpump hch ((hpiped.shut c ch hch).subscribe _) ?_) (hserved.same rfl rfl)
    show OutputFanout.queued _ _ = []
    rw [OutputFanout.queued_subscribe, OutputFanout.queued, List.getElem?_eq_none le_rfl]
  | took c i ch chunk fanout hpump hch hrecv =>
    refine h.of_parts rfl (readers_setPump hch) rfl
      (hpiped.setPump hpump hch ((hpiped.shut c ch hch).recv hrecv) ?_) (hserved.same rfl rfl)
    exact (OutputFanout.queued_recv hrecv).symm
  | forwarded c i chunk hpump =>
    obtain ⟨hopen, hpiped'⟩ := hpiped.forward hpump horderly
    exact h.of_parts rfl rfl rfl hpiped' (hserved.send hopen rfl rfl)
  | finished c i ch hpump hch hempty =>
    rw [← setPump_self hch]
    exact h.of_parts rfl (readers_setPump hch) rfl
      (hpiped.setPump hpump hch (hpiped.shut c ch hch) hempty.symm) (hserved.same rfl rfl)
  | subscribed =>
    have hjoined : forwarded.length ≤ r.session.emitted.length := by
      have hlen := congrArg List.length hpiped.piped
      rw [List.length_map, List.length_append] at hlen
      omega
    exact h.of_parts rfl rfl rfl (hpiped.same rfl rfl id hpiped.closed) (hserved.subscribe hjoined)
  | received i chunk output sub hrecv hsub =>
    have hclosed : output.closed = r.output.closed := by
      obtain ⟨s, rest, -, -, rfl⟩ := OutputFanout.recv_cases hrecv
      rfl
    exact h.of_parts rfl rfl rfl
      (hpiped.same rfl rfl id (fun hc => hpiped.closed (hclosed.symm.trans hc)))
      (hserved.recv hrecv hsub)
  | dropped i =>
    exact h.of_parts rfl rfl rfl (hpiped.same rfl rfl id hpiped.closed) (hserved.dropStream i)

theorem orderliness_of_run {config : ChannelConfig}
    (hr : Reachable (ReconnectingSession.step env) Orderly (ReconnectingSession.start config) r) :
    Orderliness r := by
  refine Reachable.invariant (P := Orderliness) ?_ ?_ hr
  · refine ⟨fun _ => .start config, [], .start config, rfl, ?_, ?_⟩
    · intro s hs
      cases hs
    · intro i sub s hsub
      simp [ReconnectingSession.start] at hsub
  · intro r m r' ih hstep horderly
    exact ih.step (moved_cases hstep) horderly

/-! ## Draining -/

/-- Some pump holds what is first in line. -/
lemma exists_front (h : r.backlog ≠ []) : ∃ c, r.holds c ≠ [] ∧ ∀ c' < c, r.holds c' = [] := by
  have hsome : ∃ c, r.holds c ≠ [] := by
    by_contra hnone
    push Not at hnone
    exact h (List.flatMap_eq_nil_iff.mpr (fun c _ => hnone c))
  classical
  refine ⟨Nat.find hsome, Nat.find_spec hsome, fun c' hc' => ?_⟩
  exact not_not.mp (Nat.find_min hsome hc')

/-- The pump that holds what is first in line has it in hand, or can take it. -/
lemma exists_forwarding (env : Env) (h : r.backlog ≠ []) :
    ∃ r₁ c j chunk, (r₁ = r ∨ r.step env (.pumpNext c) = some r₁) ∧
      r₁.pumps[c]? = some (.forwarding j chunk) ∧ c < r₁.session.channels.length ∧
      (∀ c' < c, r₁.holds c' = []) ∧ r₁.backlog = r.backlog ∧ r₁.output = r.output ∧
      r₁.subscribers = r.subscribers := by
  obtain ⟨c, hc, hfront⟩ := exists_front h
  unfold holds at hc
  split at hc
  · next pump ch hpump hch =>
    have hlt := (List.getElem?_eq_some_iff.mp hch).1
    cases pump with
    | spawned => exact absurd rfl hc
    | ended => exact absurd rfl hc
    | forwarding j chunk => exact ⟨r, c, j, chunk, .inl rfl, hpump, hlt, hfront, rfl, rfl, rfl⟩
    | pumping j =>
      obtain ⟨chunk, fanout, hrecv⟩ := OutputFanout.exists_recv hc
      have hstep : r.step env (.pumpNext c) =
          some (r.setPump c ch fanout (.forwarding j chunk)) := by
        simp only [ReconnectingSession.step, ReconnectingSession.pumpNext, hpump, hch, hrecv]
      have hheld := (OutputFanout.queued_recv hrecv).symm
      have hp := (List.getElem?_eq_some_iff.mp hpump).1
      refine ⟨_, c, j, chunk, .inr hstep, ?_, ?_, ?_, backlog_setPump_eq hpump hch hheld, rfl, rfl⟩
      · exact List.getElem?_set_self hp
      · simpa [ReconnectingSession.setPump] using hlt
      · intro c' hc'
        rw [holds_setPump_of_ne (Nat.ne_of_lt hc')]
        exact hfront c' hc'
  · exact absurd rfl hc

section

variable {i : ℕ} {sub : Subscriber} {s : OutputStream}

/-- The subscriber takes a chunk. -/
lemma Orderliness.recv (env : Env) (h : Orderliness r) (hsub : r.subscribers[i]? = some sub)
    (hs : r.output.streams[i]? = some s) {chunk : Bytes} {rest : List Bytes}
    (hqueue : s.queue = chunk :: rest) :
    ∃ r₁, r.step env (.recv i) = some r₁ ∧ Orderliness r₁ ∧
      r₁.subscribers[i]? = some { sub with received := sub.received ++ [chunk] } ∧
      r₁.output.streams[i]? = some { s with queue := rest } ∧ r₁.backlog = r.backlog := by
  have hstep : r.step env (.recv i) = some { r with
      output := { r.output with streams := r.output.streams.set i { s with queue := rest } }
      subscribers := r.subscribers.set i { sub with received := sub.received ++ [chunk] } } := by
    simp only [ReconnectingSession.step, ReconnectingSession.recv, OutputFanout.recv_of hs hqueue,
      hsub]
  have hlt := (List.getElem?_eq_some_iff.mp hsub).1
  have hlt' := (List.getElem?_eq_some_iff.mp hs).1
  exact ⟨_, hstep, h.step (moved_cases hstep) trivial, List.getElem?_set_self hlt,
    List.getElem?_set_self hlt', rfl⟩

/-- A subscriber whose queue is empty gets the chunk that is first in line. -/
lemma Orderliness.send (env : Env) (h : Orderliness r) (hsub : r.subscribers[i]? = some sub)
    (hs : r.output.streams[i]? = some s) (hlagged : s.lagged = false) (hdropped : s.dropped = false)
    (hqueue : s.queue = []) (hbacklog : r.backlog ≠ []) :
    ∃ r₂ chunk, Reachable (ReconnectingSession.step env) (DeliversTo i) r r₂ ∧ Orderliness r₂ ∧
      r₂.subscribers[i]? = some sub ∧ r₂.output.streams[i]? = some { s with queue := [chunk] } ∧
      r.backlog = chunk :: r₂.backlog := by
  obtain ⟨r₁, c, j, chunk, hnext, hpump, hlt, hfront, hsame, houtput, hsubscribers⟩ :=
    exists_forwarding env hbacklog
  have hreach : Orderliness r₁ ∧ Reachable (ReconnectingSession.step env) (DeliversTo i) r r₁ := by
    obtain rfl | hstep := hnext
    · exact ⟨h, .refl⟩
    · exact ⟨h.step (moved_cases hstep) trivial, .tail .refl hstep ⟨trivial, .inr ⟨c, .inl rfl⟩⟩⟩
  obtain ⟨h₁, hreach₁⟩ := hreach
  have hstep : r₁.step env (.pumpSend c) = some { r₁ with
      output := r₁.output.send chunk, pumps := r₁.pumps.set c (.pumping j) } := by
    simp only [ReconnectingSession.step, ReconnectingSession.pumpSend, hpump]
  have hready : s.ready = true := by
    obtain ⟨forwarded, hpiped, hserved⟩ := h.served
    have hroom := hserved.room s (List.mem_of_getElem? hs)
    obtain ⟨hattached | hclosed, -⟩ := hserved.each i sub s hsub hs hlagged hdropped
    · simp [OutputStream.ready, hattached, hdropped, hqueue, hroom]
    · exact absurd (hpiped.closed hclosed) hbacklog
  refine ⟨_, chunk, hreach₁.tail hstep ⟨hfront, .inr ⟨c, .inr rfl⟩⟩,
    h₁.step (moved_cases hstep) hfront, ?_, ?_, ?_⟩
  · rw [← hsubscribers] at hsub
    exact hsub
  · show (r₁.output.send chunk).streams[i]? = _
    rw [houtput, OutputFanout.send, List.getElem?_map, hs, Option.map_some,
      OutputFanout.offer_ready hready, hqueue]
    rfl
  · rw [← hsame]
    exact backlog_forward _ hpump hlt hfront

/-- **What is on its way arrives.**  A subscriber that is neither lagged nor gone has only to take
its chunks, and the pumps to run, for everything on its way to reach it. -/
theorem Orderliness.drains (env : Env) (h : Orderliness r) (hsub : r.subscribers[i]? = some sub)
    (hs : r.output.streams[i]? = some s) (hlagged : s.lagged = false) (hdropped : s.dropped = false) :
    ∃ r' sub', Reachable (ReconnectingSession.step env) (DeliversTo i) r r' ∧
      r'.subscribers[i]? = some sub' ∧ sub'.received = sub.received ++ s.queue ++ r.backlog := by
  -- A chunk counts twice while a pump holds it and once in the subscriber's queue.  The queue is
  -- emptied first, so that a chunk that is forwarded always finds room in it.
  induction hn : 2 * r.backlog.length + s.queue.length using Nat.strong_induction_on
    generalizing r sub s with
  | _ n ih =>
  cases hqueue : s.queue with
  | cons chunk rest =>
    obtain ⟨r₁, hstep, h₁, hsub₁, hs₁, hbacklog⟩ := h.recv env hsub hs hqueue
    have hless : 2 * r₁.backlog.length + rest.length < n := by
      rw [hbacklog]
      simp only [hqueue, List.length_cons] at hn
      omega
    obtain ⟨r', sub', hreach, hsub', hreceived⟩ := ih _ hless h₁ hsub₁ hs₁ hlagged hdropped rfl
    have hfirst : Reachable (ReconnectingSession.step env) (DeliversTo i) r r₁ :=
      .tail .refl hstep ⟨trivial, .inl rfl⟩
    refine ⟨r', sub', hfirst.trans hreach, hsub', ?_⟩
    rw [hreceived, hbacklog]
    simp
  | nil =>
    by_cases hempty : r.backlog = []
    · exact ⟨r, sub, .refl, hsub, by simp [hempty]⟩
    · obtain ⟨r₂, chunk, hfirst, h₂, hsub₂, hs₂, hbacklog⟩ :=
        h.send env hsub hs hlagged hdropped hqueue hempty
      have hless : 2 * r₂.backlog.length + 1 < n := by
        simp only [hqueue, hbacklog, List.length_cons, List.length_nil] at hn
        omega
      obtain ⟨r', sub', hreach, hsub', hreceived⟩ := ih _ hless h₂ hsub₂ hs₂ hlagged hdropped rfl
      refine ⟨r', sub', hfirst.trans hreach, hsub', ?_⟩
      rw [hreceived, hbacklog]
      simp

end

end ReconnectingSession

/-- **The durable output is gapless across resumes.**  In every orderly run, whatever the tasks of
the channels, the pumps, the supervisor and the subscribers do in between, the readers deliver each
number once and in order, and a subscriber that is not reported lagged receives all of it. -/
theorem durable_output_gapless {env : Env} {config : ChannelConfig} {r : ReconnectingSession}
    (hr : Reachable (ReconnectingSession.step env) Orderly (ReconnectingSession.start config) r)
    (hwrap : r.session.advances < 2 ^ 63) : r.Gapless env := by
  have h := ReconnectingSession.orderliness_of_run hr
  obtain ⟨forwarded, hpiped, hserved⟩ := h.served
  refine ⟨?_, ?_, hpiped.closed⟩
  · exact List.pairwise_map.mpr (h.reading hwrap).inOrder
  · intro i sub s hsub hs hlagged hdropped
    obtain ⟨-, start, hjoined, hlen, hgot⟩ := hserved.each i sub s hsub hs hlagged hdropped
    have htotal : sub.received ++ s.queue ++ r.backlog =
        (r.session.emitted.map Prod.snd).drop start := by
      rw [hgot, hpiped.piped, List.drop_append_of_le_length hlen]
    obtain ⟨r', sub', hreach, hsub', hreceived⟩ := h.drains env hsub hs hlagged hdropped
    exact ⟨start, hjoined, htotal, r', sub', hreach, hsub', hreceived.trans htotal⟩

/-- The agent's output number `n` is received and delivered on channel `c`. -/
def delivering (c : ℕ) (n : Int64) (byte : UInt8) : List Move :=
  List.map (Move.act c) (receivingData (agentMessage n .output [byte]) ++
    ([.readerDeliver (toArray _ []), .readerAdvance, .readerTake] : List Action))

/-- The pump of a channel forwards one chunk, and the subscriber receives it. -/
def passingOn (c : ℕ) : List Move := [.pumpNext c, .pumpSend c, .recv 0]

/-- A subscriber joins, gets the first chunk, and the channel is lost. -/
def firstChannel : List Move :=
  ([.adopt, .pumpStart 0, .subscribe] : List Move) ++ delivering 0 0 104 ++ passingOn 0 ++
    ([.act 0 .readerPoll, .act 0 (.readerFrame 0 .ended), .act 0 .readerClose, .observe,
      .resume 0] : List Move)

theorem durable_output_gapless_resumed :
    ∃ r, Reachable (ReconnectingSession.step sampleEnv) Orderly
        (ReconnectingSession.start sampleConfig) r ∧
      r.session.emitted = [(0, [104]), (1, [105])] ∧ r.subscribers = [⟨0, [[104], [105]]⟩] ∧
      r.Gapless sampleEnv := by
  have hrun : (runIf (ReconnectingSession.step sampleEnv) (fun r m r' => decide (Orderly r m r'))
      (ReconnectingSession.start sampleConfig)
      (firstChannel ++ ([.adopt, .pumpStart 1] : List Move) ++ delivering 1 1 105 ++
        ([.pumpEnd 0] : List Move) ++ passingOn 1)).any
      (fun r => decide (r.session.emitted = [(0, [104]), (1, [105])] ∧
        r.subscribers = [⟨0, [[104], [105]]⟩] ∧ r.session.advances = 2)) = true := by
    decide +kernel
  obtain ⟨r, hr, hp⟩ := exists_of_runIf (fun r m r' h => of_decide_eq_true h) hrun
  obtain ⟨hemitted, hsubscribers, hadvances⟩ := of_decide_eq_true hp
  exact ⟨r, hr, hemitted, hsubscribers, durable_output_gapless hr (by rw [hadvances]; decide)⟩

/-- **Output before the pump is lost.**  The reader of the resumed channel delivers a message before
the channel is adopted; the subscriber is not lagged, nothing is queued or on its way, and the
payload never reaches it. -/
theorem output_before_pump_is_lost :
    ∃ r, Reachable (ReconnectingSession.step sampleEnv) free
        (ReconnectingSession.start sampleConfig) r ∧
      r.session.emitted = [(0, [104]), (1, [105])] ∧ r.subscribers = [⟨0, [[104]]⟩] ∧
      r.pumps = [.pumping 0, .pumping 0] ∧ r.backlog = [] ∧ ¬r.Gapless sampleEnv := by
  have hrun : (run (ReconnectingSession.step sampleEnv) (ReconnectingSession.start sampleConfig)
      (firstChannel ++ delivering 1 1 105 ++ ([.adopt, .pumpStart 1] : List Move))).any
      (fun r => decide (r.session.emitted = [(0, [104]), (1, [105])] ∧
        r.subscribers = [⟨0, [[104]]⟩] ∧ r.pumps = [.pumping 0, .pumping 0] ∧ r.backlog = [] ∧
        r.output.streams = [⟨[], 16, true, false, false⟩])) = true := by
    decide +kernel
  obtain ⟨r, hr, hp⟩ := exists_of_run hrun
  obtain ⟨hemitted, hsubscribers, hpumps, hbacklog, hstreams⟩ := of_decide_eq_true hp
  refine ⟨r, hr, hemitted, hsubscribers, hpumps, hbacklog, ?_⟩
  intro hgapless
  obtain ⟨start, hjoined, hgot, -⟩ := hgapless.complete 0 ⟨0, [[104]]⟩ ⟨[], 16, true, false, false⟩
    (by rw [hsubscribers]; rfl) (by rw [hstreams]; rfl) rfl rfl
  obtain rfl : start = 0 := Nat.le_zero.mp hjoined
  rw [hbacklog, hemitted] at hgot
  cases hgot

end SsmBridge
