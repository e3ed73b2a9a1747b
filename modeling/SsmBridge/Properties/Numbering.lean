import SsmBridge.Framework.NumberedStream
import SsmBridge.Properties.Footprint
import SsmBridge.Properties.WireFormat

/-!
# Outbound numbering and the unacknowledged messages

Two tasks of every channel number their messages from the counter of the `Continuity`, and every
channel that carries the session shares it.  A session is therefore a `NumberedStream` whose parties
are the call slots of all channels: `System.stream` reads the state of the protocol off a session,
and `stream_step` says that a step of the session is a step of the protocol or does not concern it.

`outbound_numbering` collects what follows for every reachable state.
-/

namespace SsmBridge

open Machine NumberedStream

/-! ## The session as a numbered stream -/

/-- What a call does with the lock on the counter. -/
def SendPc.phase : SendPc → Phase Bytes
  | .tracking _ wire | .waiting _ wire _ => .building wire
  | .writing n wire => .handing n wire
  | _ => .away

/-- The part of an event that concerns the outbound stream. -/
def Event.entry : Event → Option (Entry Bytes)
  | .issued i => some (.issued i.sequence i.wire)
  | .enqueued n wire => some (.handed n wire)
  | .retired n => some (.retired n)
  | _ => none

/-- The number in the header of a serialized message. -/
def wireNumber (wire : Bytes) : Int64 := (u64At wire 48).toInt64

namespace System

/-- What the call slots of all channels do with the lock. -/
def phase (s : System) (p : ℕ × Sender) : Phase Bytes :=
  match s.channels[p.1]? with
  | some ch => (ch.slot p.2).phase
  | none => .away

/-- The outbound stream of a session. -/
def stream (s : System) : NumberedStream.State (ℕ × Sender) Bytes where
  next := s.cont.sequence
  holder := s.cont.holder
  phase := s.phase
  pending := s.cont.outgoing.items
  log := s.events.filterMap Event.entry

variable {s : System} {c : ℕ} {ch : Channel} {o : Outcome}

lemma phase_self (hch : s.channels[c]? = some ch) (who : Sender) :
    s.phase (c, who) = (ch.slot who).phase := by
  simp [phase, hch]

/-- An operation that moves one call changes the phase of that party. -/
lemma phase_after (hch : s.channels[c]? = some ch) (who : Sender)
    (hother : ∀ who', who' ≠ who → (o.channel.slot who').phase = (ch.slot who').phase) :
    (s.after c o).phase = Function.update s.phase (c, who) (o.channel.slot who).phase := by
  funext p
  obtain ⟨c', who'⟩ := p
  by_cases hc : c' = c
  · subst hc
    rw [phase_self (channel_after_self hch)]
    by_cases hwho : who' = who
    · rw [hwho, Function.update_self]
    · rw [hother who' hwho, Function.update_of_ne (by simpa using hwho), phase_self hch]
  · rw [Function.update_of_ne (by simp [hc])]
    simp only [phase, channel_after_of_ne hc]

/-- An operation that moves no call changes no phase. -/
lemma phase_after_eq (hch : s.channels[c]? = some ch)
    (hslots : ∀ who, (o.channel.slot who).phase = (ch.slot who).phase) :
    (s.after c o).phase = s.phase := by
  rw [phase_after hch .reader (fun who' _ => hslots who'), hslots, ← phase_self hch,
    Function.update_eq_self]

/-- The stream after an operation. -/
lemma stream_after :
    (s.after c o).stream =
      { next := o.cont.sequence
        holder := o.cont.holder
        phase := (s.after c o).phase
        pending := o.cont.outgoing.items
        log := s.stream.log ++ o.events.filterMap Event.entry } := by
  simp only [stream, events_after, List.filterMap_append]
  rfl

/-- An operation that does not concern the stream. -/
lemma stream_after_eq (hch : s.channels[c]? = some ch) (hseq : o.cont.sequence = s.cont.sequence)
    (hholder : o.cont.holder = s.cont.holder)
    (hitems : o.cont.outgoing.items = s.cont.outgoing.items)
    (hslots : ∀ who, (o.channel.slot who).phase = (ch.slot who).phase)
    (hentries : o.events.filterMap Event.entry = []) : (s.after c o).stream = s.stream := by
  rw [stream_after, hseq, hholder, hitems, phase_after_eq hch hslots, hentries, List.append_nil]
  rfl

end System

lemma SendPc.phase_unnotified (pc : SendPc) : pc.unnotified.phase = pc.phase := by
  cases pc <;> rfl

lemma SendPc.phase_eq_of_unnotified {pc pc' : SendPc} (h : pc'.unnotified = pc.unnotified) :
    pc'.phase = pc.phase := by
  rw [← pc'.phase_unnotified, h, pc.phase_unnotified]

/-- The messages a call builds carry the number the counter shows. -/
lemma wireNumber_new (sha256 : Bytes → Digest) (stamp : Stamp) (t : MessageType) (n : Int64)
    (p : PayloadType) (payload : Bytes) :
    wireNumber (ClientMessage.new sha256 stamp t n p payload).serialize = n := by
  rw [wireNumber, u64At_serialize_sequenceNumber]
  simp [ClientMessage.new]

/-! ## The simulation -/

section Simulation

variable {env : Env} {s : System} {c : ℕ} {ch : Channel} {o : Outcome}

/-- The wire of a message carries its number. -/
def carries (n : Int64) (wire : Bytes) : Prop := wireNumber wire = n

/-- A step of the protocol, or no change to the stream. -/
def Simulated (s s' : System) : Prop :=
  s'.stream = s.stream ∨ Step carries s.cont.outgoing.capacity s.stream s'.stream

/-- The phase of the party whose call moved, and of no other. -/
lemma phase_send {who : Sender} (hch : s.channels[c]? = some ch)
    (h : SendStep env c who s.cont ch o) :
    (s.after c o).phase = Function.update s.phase (c, who) (o.channel.slot who).phase :=
  System.phase_after hch who (fun who' hwho => by rw [h.frame.slot who' hwho])

/-- A call that neither takes nor lets go of the lock does not concern the stream. -/
lemma simulated_send_eq {who : Sender} (hch : s.channels[c]? = some ch)
    (h : SendStep env c who s.cont ch o) (hcont : o.cont = s.cont) (hevents : o.events = [])
    (hphase : (o.channel.slot who).phase = (ch.slot who).phase) : Simulated s (s.after c o) := by
  left
  refine System.stream_after_eq hch (by rw [hcont]) (by rw [hcont]) (by rw [hcont]) ?_
    (by rw [hevents]; rfl)
  intro who'
  by_cases hwho : who' = who
  · rw [hwho, hphase]
  · rw [h.frame.slot who' hwho]

lemma OutgoingBuffer.items_append (b : OutgoingBuffer) (p : Pending) :
    ({ b with pending := b.pending ++ [p] } : OutgoingBuffer).items =
      b.items ++ [(p.sequence, p.wire)] := by
  simp [OutgoingBuffer.items]

/-- A call that lets go of the lock without handing its message on. -/
lemma simulated_letGo {who : Sender} (hch : s.channels[c]? = some ch) {slot : SendPc}
    (hbusy : (ch.slot who).phase ≠ .away) (haway : slot.phase = .away) :
    Simulated s (s.after c ⟨{ s.cont with holder := none }, ch.setSlot who slot, []⟩) := by
  right
  have hphase : (s.after c ⟨{ s.cont with holder := none }, ch.setSlot who slot, []⟩).phase =
      Function.update s.phase (c, who) .away := by
    rw [System.phase_after hch who (fun who' hwho => by rw [ch.slot_setSlot_of_ne who slot hwho]),
      ch.slot_setSlot, haway]
  have hself : s.stream.phase (c, who) ≠ .away := by
    show s.phase (c, who) ≠ .away
    rwa [System.phase_self hch who]
  convert Step.letGo (c, who) hself using 1
  rw [System.stream_after, hphase, List.filterMap_nil, List.append_nil]
  rfl

lemma simulated_send {who : Sender} (hch : s.channels[c]? = some ch)
    (h : SendStep env c who s.cont ch o) : Simulated s (s.after c o) := by
  have hphase := phase_send hch h
  have hself := System.phase_self hch who
  have hquiet := simulated_send_eq hch h
  cases h with
  | refused payloadType plain e hslot => exact hquiet rfl rfl (by simp [hslot, SendPc.phase])
  | encrypted payloadType plain out hslot hout =>
    exact hquiet rfl rfl (by simp [hslot, SendPc.phase])
  | locked out stamp hslot hfree =>
    right
    have hw : carries s.stream.next (ClientMessage.new env.sha256 stamp .inputStreamData
        s.cont.sequence out.payloadType out.payload).serialize :=
      wireNumber_new _ _ _ _ _ _
    convert Step.lock (s := s.stream) (c, who) _ hfree hw using 1
    rw [System.stream_after, hphase]
    simp [SendPc.phase, System.stream]
  | tracked out wire now hslot hroom =>
    right
    have hbuilding : s.stream.phase (c, who) = .building wire := by
      show s.phase (c, who) = _
      rw [hself, hslot]
      rfl
    have hlength : s.stream.pending.length < s.cont.outgoing.capacity := by
      simpa [System.stream, OutgoingBuffer.items] using hroom
    convert Step.issue (c, who) wire hbuilding hlength using 1
    rw [System.stream_after, hphase, OutgoingBuffer.items_append]
    simp [SendPc.phase, System.stream, Event.entry]
  | parked out wire hslot => exact hquiet rfl rfl (by simp [hslot, SendPc.phase])
  | retried out wire notified hslot => exact hquiet rfl rfl (by simp [hslot, SendPc.phase])
  | gaveUp out wire notified e hslot =>
    exact simulated_letGo hch (by simp [hslot, SendPc.phase]) rfl
  | wrote n wire hslot =>
    right
    have hhanding : s.stream.phase (c, who) = .handing n wire := by
      show s.phase (c, who) = _
      rw [hself, hslot]
      rfl
    convert Step.hand (c, who) n wire hhanding using 1
    rw [System.stream_after, hphase, Channel.slot_writerQueue, Channel.slot_setSlot]
    simp [SendPc.phase, System.stream, Event.entry]
  | failed n wire e hslot => exact simulated_letGo hch (by simp [hslot, SendPc.phase]) rfl

/-- Dropping a call in flight lets go of the lock if the call holds it. -/
lemma simulated_abandon (who : Sender) {capacity : ℕ} (hinv : Inv carries capacity s.stream)
    (hch : s.channels[c]? = some ch) (hslot : o.channel.slot who = .idle)
    (hother : ∀ who', who' ≠ who → (o.channel.slot who').phase = (ch.slot who').phase)
    (hcont : o.cont = abandon c who s.cont) (hevents : o.events = []) :
    Simulated s (s.after c o) := by
  have hself := System.phase_self hch who
  have hphase : (s.after c o).phase = Function.update s.phase (c, who) .away := by
    rw [System.phase_after hch who hother, hslot]
    rfl
  by_cases hholds : s.cont.holder = some (c, who)
  · right
    have hbusy : s.stream.phase (c, who) ≠ .away := (hinv.holder_iff (c, who)).mp hholds
    convert Step.letGo (c, who) hbusy using 1
    rw [System.stream_after, hphase, hcont, hevents]
    simp [abandon, hholds, System.stream]
  · left
    have haway : s.phase (c, who) = .away := by
      by_contra hbusy
      exact hholds ((hinv.holder_iff (c, who)).mpr hbusy)
    rw [System.stream_after, hphase, hcont, hevents, ← haway, Function.update_eq_self]
    simp [abandon, hholds, System.stream]

lemma slot_phase_of {ch' : Channel} (hcommand : ch'.commandSend.phase = ch.commandSend.phase)
    (hreader : ch'.readerSend.phase = ch.readerSend.phase) (who : Sender) :
    (ch'.slot who).phase = (ch.slot who).phase := by
  cases who with
  | reader => exact hreader
  | command => exact hcommand

lemma simulated_command {capacity : ℕ} (hinv : Inv carries capacity s.stream)
    (hch : s.channels[c]? = some ch) (ht : ch.Tidy) (h : CommandStep c s.cont ch o) :
    Simulated s (s.after c o) := by
  -- A command step that does not drop a call starts or ends with the slot outside the lock.
  have hquiet : o.cont = s.cont → (∀ e ∈ o.events, e.entry = none) →
      o.channel.readerSend = ch.readerSend → o.channel.commandSend.phase = .away →
      ch.commandSend.phase = .away → Simulated s (s.after c o) := by
    intro hcont hevents hreader haway haway'
    left
    refine System.stream_after_eq hch (by rw [hcont]) (by rw [hcont]) (by rw [hcont])
      (slot_phase_of (haway.trans haway'.symm) (by rw [hreader])) ?_
    exact List.filterMap_eq_nil_iff.mpr hevents
  have hidle : ch.command.sending = false → ch.commandSend.phase = .away := by
    intro hc
    rw [ht.command hc]
    rfl
  have hstream : ∀ data, (ch.sendStreamData data).commandSend.phase = .away ∧
      (ch.sendStreamData data).readerSend = ch.readerSend := by
    intro data
    unfold Channel.sendStreamData
    split <;> exact ⟨rfl, rfl⟩
  cases h with
  | moved pc hfrom hto hheld hlive hlive' =>
    exact hquiet rfl (by simp) rfl (hidle hfrom) (hidle hfrom)
  | received command rest hpc hqueue =>
    have haway := hidle (by simp [hpc, CommandPc.sending])
    exact hquiet rfl (by simp) rfl haway haway
  | admittedData bytes hpc =>
    exact hquiet rfl (by simp [Event.entry]) (hstream bytes).2 (hstream bytes).1
      (hidle (by simp [hpc, CommandPc.sending]))
  | admittedControl payloadType data hpc =>
    exact hquiet rfl (by simp [Event.entry]) rfl rfl (hidle (by simp [hpc, CommandPc.sending]))
  | chunkSent rest hpc hslot =>
    exact hquiet rfl (by simp) (hstream rest).2 (hstream rest).1 (by simp [hslot, SendPc.phase])
  | controlSent hpc hslot =>
    exact hquiet rfl (by simp) rfl rfl (by simp [hslot, SendPc.phase])
  | failed e hpc hslot => exact hquiet rfl (by simp) rfl rfl (by simp [hslot, SendPc.phase])
  | ended core hpc hcore => exact hquiet rfl (by simp) rfl rfl (hidle hpc)
  | aborted hpc hslot =>
    refine simulated_abandon .command hinv hch rfl ?_ rfl rfl
    intro who' hwho
    cases who' with
    | reader => rfl
    | command => exact absurd rfl hwho

lemma Event.entry_of_isInbound {e : Event} (h : e.isInbound = true) : e.entry = none := by
  cases e <;> simp_all [Event.isInbound, Event.entry]

lemma OutgoingBuffer.items_acknowledge (b : OutgoingBuffer) (now : ℕ) (n : Int64) :
    (b.acknowledge now n).2.items = b.items.eraseP (fun x => x.1 == n) := by
  unfold OutgoingBuffer.acknowledge OutgoingBuffer.items
  split
  · next hnone =>
    rw [List.eraseP_of_forall_not]
    simpa using hnone
  · rw [List.eraseP_map]
    rfl

lemma simulated_reader {capacity : ℕ} (hinv : Inv carries capacity s.stream)
    (hch : s.channels[c]? = some ch) (ht : ch.Tidy) (h : ReaderStep c s.cont ch o) :
    Simulated s (s.after c o) := by
  cases h with
  | inward inbound ch' events hfrom hslot hkept hevents =>
    left
    exact System.stream_after_eq hch rfl rfl rfl
      (slot_phase_of (SendPc.phase_eq_of_unnotified hkept.commandSend) (by rw [hslot]))
      (List.filterMap_eq_nil_iff.mpr (fun e he => Event.entry_of_isInbound (hevents e he)))
  | called payloadType payload ch' events hfrom hto hslot htype hkept hevents =>
    left
    exact System.stream_after_eq hch rfl rfl rfl
      (slot_phase_of (SendPc.phase_eq_of_unnotified hkept.commandSend)
        (by rw [hslot, ht.reader hfrom]; rfl))
      (List.filterMap_eq_nil_iff.mpr (fun e he => Event.entry_of_isInbound (hevents e he)))
  | returned result crypto ch' hfrom hslot hcrypto hkept =>
    left
    exact System.stream_after_eq hch rfl rfl rfl
      (slot_phase_of (SendPc.phase_eq_of_unnotified hkept.commandSend) (by rw [hslot, hfrom]; rfl))
      rfl
  | retired n now ch' hfrom hslot hkept =>
    right
    convert Step.retire (s := s.stream) n using 1
    rw [System.stream_after, System.phase_after_eq hch
      (slot_phase_of (SendPc.phase_eq_of_unnotified hkept.commandSend)
        (SendPc.phase_eq_of_unnotified hslot)), OutgoingBuffer.items_acknowledge]
    rfl
  | aborted haborted hfrom hslot =>
    refine simulated_abandon .reader hinv hch rfl ?_ rfl rfl
    intro who' hwho
    cases who' with
    | reader => exact absurd rfl hwho
    | command => rfl

/-- **A step of a channel is a step of the numbered stream, or does not concern it.** The five steps
of `send_payload` are those of `NumberedStream`, whichever channel and task they are taken on. -/
theorem simulated_step {capacity : ℕ} (hinv : Inv carries capacity s.stream)
    (hch : s.channels[c]? = some ch) (ht : ch.Tidy) (h : ChannelStep env c s.cont ch o) :
    Simulated s (s.after c o) := by
  cases h with
  | send who h => exact simulated_send hch h
  | command h => exact simulated_command hinv hch ht h
  | reader h => exact simulated_reader hinv hch ht h
  | background h =>
    left
    obtain ⟨outgoing, core, aborted, queue, writer, heartbeat, retransmit, events, hitems, -, -, -,
      -, hevents⟩ := h
    refine System.stream_after_eq hch rfl rfl hitems (slot_phase_of rfl rfl) ?_
    refine List.filterMap_eq_nil_iff.mpr (fun e he => ?_)
    obtain ⟨n, w, rfl, -⟩ := hevents e he
    rfl
  | accepted command hcommand halive h =>
    subst h
    left
    exact System.stream_after_eq hch rfl rfl rfl (slot_phase_of rfl rfl) rfl

lemma stream_resumed {config : ChannelConfig} : (s.resumed config).stream = s.stream := by
  have hphase : (s.resumed config).phase = s.phase := by
    funext p
    obtain ⟨c, who⟩ := p
    simp only [System.phase]
    cases hold : s.channels[c]? with
    | some ch =>
      have hnew : (s.resumed config).channels[c]? = some ch := by
        obtain ⟨hlt, -⟩ := List.getElem?_eq_some_iff.mp hold
        simpa [System.resumed, List.getElem?_append_left hlt] using hold
      rw [hnew]
    | none =>
      cases hnew : (s.resumed config).channels[c]? with
      | none => rfl
      | some ch =>
        obtain ⟨-, rfl⟩ | hch := System.channel_resumed hnew
        · cases who <;> rfl
        · rw [hold] at hch
          cases hch
  simp only [System.stream, hphase]
  rfl

end Simulation

/-! ## Runs -/

/-- The invariant of the outbound path. -/
structure Numbered (s : System) : Prop where
  stream : Inv carries messageBufferCapacity s.stream
  capacity : s.cont.outgoing.capacity = messageBufferCapacity
  tidy : s.Each Channel.Tidy
  /-- What the retransmission tasks hold was issued. -/
  resending : s.Each (fun ch => ∀ n w, ch.retransmit = .resending n w →
    (n, w) ∈ issued s.stream.log)
  resent : ∀ n w, Event.resent n w ∈ s.events → (n, w) ∈ issued s.stream.log

namespace Numbered

variable {env : Env} {s : System} {c : ℕ} {ch : Channel} {o : Outcome} {config : ChannelConfig}

lemma start (config : ChannelConfig) : Numbered (System.start config) where
  stream := by
    have hphase : (System.start config).phase = fun _ => .away := by
      funext p
      obtain ⟨c, who⟩ := p
      simp only [System.phase]
      split
      · next ch hch =>
        rw [System.channel_start hch]
        cases who <;> rfl
      · rfl
    have hstart : (System.start config).stream = NumberedStream.State.initial := by
      simp only [System.stream, hphase]
      rfl
    rw [hstart]
    exact .initial
  capacity := rfl
  tidy c ch hch := System.channel_start hch ▸ .open config
  resending c ch hch n w h := by
    rw [System.channel_start hch] at h
    cases h
  resent n w h := by simp [System.start, System.events] at h

/-- The capacity of the buffer is fixed. -/
lemma outgoing_capacity (h : ChannelStep env c s.cont ch o) :
    o.cont.outgoing.capacity = s.cont.outgoing.capacity := by
  cases h with
  | send who h => exact h.frame.capacity
  | command h =>
    cases h with
    | aborted hpc hslot => simp
    | _ => rfl
  | reader h =>
    cases h with
    | retired n now ch' hfrom hslot hkept =>
      show (s.cont.outgoing.acknowledge now n).2.capacity = _
      unfold OutgoingBuffer.acknowledge
      split <;> rfl
    | aborted haborted hfrom hslot => simp
    | _ => rfl
  | background h =>
    cases h
    assumption
  | accepted command hcommand halive h =>
    subst h
    rfl

/-- Only a poll of the buffer gives the retransmission task something to send, and it sends what it
holds. -/
lemma retransmits (h : ChannelStep env c s.cont ch o) (n : Int64) (w : Bytes) :
    (o.channel.retransmit = .resending n w →
      ch.retransmit = .resending n w ∨ (n, w) ∈ s.cont.outgoing.items) ∧
    (Event.resent n w ∈ o.events → ch.retransmit = .resending n w) := by
  cases h with
  | send who h =>
    rw [h.frame.retransmit]
    refine ⟨.inl, fun he => ?_⟩
    cases h <;> simp at he
  | command h =>
    have hkept : o.channel.retransmit = ch.retransmit ∧ Event.resent n w ∉ o.events := by
      cases h <;> simp [Channel.sendStreamData, Channel.endCommand] <;> split <;> rfl
    exact ⟨fun hpc => .inl (hkept.1 ▸ hpc), fun he => absurd he hkept.2⟩
  | reader h =>
    have hkept : o.channel.retransmit = ch.retransmit ∧ Event.resent n w ∉ o.events := by
      cases h with
      | inward inbound ch' events hfrom hslot hkept hevents =>
        exact ⟨hkept.retransmit, fun he => by simpa [Event.isInbound] using hevents _ he⟩
      | called payloadType payload ch' events hfrom hto hslot htype hkept hevents =>
        exact ⟨hkept.retransmit, fun he => by simpa [Event.isInbound] using hevents _ he⟩
      | returned result crypto ch' hfrom hslot hcrypto hkept =>
        exact ⟨hkept.retransmit, by simp⟩
      | retired m now ch' hfrom hslot hkept => exact ⟨hkept.retransmit, by simp⟩
      | aborted haborted hfrom hslot => exact ⟨rfl, by simp⟩
    exact ⟨fun hpc => .inl (hkept.1 ▸ hpc), fun he => absurd he hkept.2⟩
  | background h =>
    obtain ⟨outgoing, core, aborted, queue, writer, heartbeat, retransmit, events, -, -, -, -,
      hresending, hevents⟩ := h
    refine ⟨hresending n w, fun he => ?_⟩
    obtain ⟨n', w', heq, hpc⟩ := hevents _ he
    cases heq
    exact hpc
  | accepted command hcommand halive h =>
    subst h
    exact ⟨.inl, by simp⟩

/-- What was issued stays issued. -/
lemma issued_after {x : Int64 × Bytes} (hx : x ∈ issued s.stream.log) :
    x ∈ issued (s.after c o).stream.log := by
  rw [System.stream_after]
  simp only [issued_append, List.mem_append]
  exact .inl hx

lemma after (h : Numbered s) (hch : s.channels[c]? = some ch)
    (hstep : ChannelStep env c s.cont ch o) : Numbered (s.after c o) where
  stream := by
    obtain heq | hproto := simulated_step h.stream hch (h.tidy c ch hch) hstep
    · rw [heq]
      exact h.stream
    · rw [h.capacity] at hproto
      exact h.stream.step hproto
  capacity := (outgoing_capacity hstep).trans h.capacity
  tidy c' ch' hch' := by
    obtain ⟨-, rfl⟩ | ⟨-, hold⟩ := System.channel_after hch'
    · exact (h.tidy c ch hch).step hstep
    · exact h.tidy c' ch' hold
  resending c' ch' hch' n w hpc := by
    apply issued_after
    obtain ⟨-, rfl⟩ | ⟨-, hold⟩ := System.channel_after hch'
    · obtain hpc | hitem := (retransmits hstep n w).1 hpc
      · exact h.resending c ch hch n w hpc
      · exact h.stream.pending_sublist.subset hitem
    · exact h.resending c' ch' hold n w hpc
  resent n w he := by
    apply issued_after
    rw [System.events_after, List.mem_append] at he
    obtain he | he := he
    · exact h.resent n w he
    · exact h.resending c ch hch n w ((retransmits hstep n w).2 he)

lemma resumed (h : Numbered s) : Numbered (s.resumed config) where
  stream := by
    rw [stream_resumed]
    exact h.stream
  capacity := h.capacity
  tidy c ch hch := by
    obtain ⟨-, rfl⟩ | hold := System.channel_resumed hch
    · exact .open config
    · exact h.tidy c ch hold
  resending c ch hch n w hpc := by
    rw [stream_resumed]
    obtain ⟨-, rfl⟩ | hold := System.channel_resumed hch
    · cases hpc
    · exact h.resending c ch hold n w hpc
  resent n w he := by
    rw [stream_resumed]
    exact h.resent n w he

/-- Every state of a session is numbered. -/
theorem of_session {s : System} (hs : Session env config s) : Numbered s := by
  refine Reachable.invariant (start config) ?_ hs
  intro s l s' ih hstep _
  obtain ⟨c, a, ch, o, -, hch, ho, rfl⟩ | ⟨config', -, -, rfl⟩ := System.step_cases hstep
  · exact ih.after hch (perform_cases ho)
  · exact ih.resumed

end Numbered

/-! ## The numbering of a session -/

/-- The messages issued so far, in order. -/
def System.issued (s : System) : List Issued :=
  s.events.filterMap (fun e => match e with
    | .issued i => some i
    | _ => none)

/-- The first transmissions a channel's writer queue accepted, in order. -/
def System.transmitted (s : System) (c : ℕ) : List Int64 :=
  (s.log.filter (fun x => x.1 == c)).filterMap (fun x => match x.2 with
    | .enqueued n _ => some n
    | _ => none)

/-- The messages issued and not acknowledged since, replayed from the events. -/
def unacknowledged (events : List Event) : List (Int64 × Bytes) :=
  events.foldl (fun items e => match e with
    | .issued i => items ++ [(i.sequence, i.wire)]
    | .retired n => items.filter (fun x => x.1 != n)
    | _ => items) []

/-- The laws of outbound numbering in a state of a session. -/
structure OutboundNumbering (env : Env) (s : System) : Prop where
  /-- The issued numbers are exactly those below the counter. -/
  numbers : ∀ n, n ∈ s.issued.map Issued.sequence ↔ 0 ≤ n ∧ n < s.cont.sequence
  /-- Each was issued once, in order. -/
  once : (s.issued.map Issued.sequence).Pairwise (· < ·)
  /-- It is bound to bytes whose header carries the number. -/
  header : ∀ i ∈ s.issued, wireNumber i.wire = i.sequence
  /-- The binding is for good: they are the bytes of every transmission and stay so in every later
  state. -/
  transmissions : ∀ n w, Event.enqueued n w ∈ s.events ∨ Event.resent n w ∈ s.events →
    ∃ i ∈ s.issued, i.sequence = n ∧ i.wire = w
  kept : ∀ s', Reachable (System.step env) free s s' → s.issued <+: s'.issued
  /-- The pending messages are those issued and not acknowledged since. -/
  pending : s.cont.outgoing.items = unacknowledged s.events
  /-- They are in increasing order and within the capacity. -/
  increasing : (s.cont.outgoing.pending.map Pending.sequence).Pairwise (· < ·)
  bounded : s.cont.outgoing.pending.length ≤ s.cont.outgoing.capacity
  /-- A step of `send_payload` that does not track its message changes neither. -/
  untracked : ∀ c ch who a o, s.channels[c]? = some ch → a.task = .send who →
    perform env c s.cont ch a = some o → (∀ i, Event.issued i ∉ o.events) →
    o.cont.sequence = s.cont.sequence ∧ o.cont.outgoing = s.cont.outgoing
  /-- Within a channel, first transmissions are queued in increasing order. -/
  inOrder : ∀ c, (s.transmitted c).Pairwise (· < ·)

namespace System

variable {s : System}

lemma issued_stream : NumberedStream.issued s.stream.log =
    s.issued.map (fun i => (i.sequence, i.wire)) := by
  simp only [NumberedStream.issued, stream, issued, List.filterMap_filterMap,
    List.map_filterMap]
  congr 1
  funext e
  cases e <;> rfl

lemma numbers_issued :
    (NumberedStream.issued s.stream.log).map Prod.fst = s.issued.map Issued.sequence := by
  rw [issued_stream, List.map_map]
  rfl

lemma outstanding_stream : outstanding s.stream.log = unacknowledged s.events := by
  simp only [outstanding, stream, unacknowledged, List.foldl_filterMap]
  congr 1
  funext items e
  cases e <;> rfl

lemma mem_handed {n : Int64} {w : Bytes} (h : Event.enqueued n w ∈ s.events) :
    (n, w) ∈ handed s.stream.log := by
  simp only [handed, stream, List.mem_filterMap]
  exact ⟨.handed n w, ⟨_, h, rfl⟩, rfl⟩

/-- A channel's first transmissions, among those of the session. -/
lemma transmitted_sublist (s : System) (c : ℕ) :
    (s.transmitted c).Sublist ((handed s.stream.log).map Prod.fst) := by
  have hall : (handed s.stream.log).map Prod.fst =
      s.log.filterMap (fun x => match x.2 with
        | .enqueued n _ => some n
        | _ => none) := by
    simp only [handed, stream, events, List.filterMap_filterMap, List.map_filterMap,
      List.filterMap_map]
    congr 1
    funext x
    obtain ⟨c', e⟩ := x
    cases e <;> rfl
  rw [hall]
  exact List.filter_sublist.filterMap _

/-- The log only grows. -/
lemma issued_prefix {env : Env} {s s' : System} (h : Reachable (System.step env) free s s') :
    s.issued <+: s'.issued := by
  refine Reachable.invariant (P := fun s' => s.issued <+: s'.issued) (List.prefix_refl _) ?_ h
  intro t l t' ih hstep _
  obtain ⟨c, a, ch, o, -, -, -, rfl⟩ | ⟨config, -, -, rfl⟩ := System.step_cases hstep
  · simp only [issued, events_after, List.filterMap_append] at ih ⊢
    exact ih.trans (List.prefix_append _ _)
  · exact ih

end System

lemma SendStep.untracked {env : Env} {c : ℕ} {who : Sender} {k : Continuity} {ch : Channel}
    {o : Outcome} (h : SendStep env c who k ch o) (hnone : ∀ i, Event.issued i ∉ o.events) :
    o.cont.sequence = k.sequence ∧ o.cont.outgoing = k.outgoing := by
  cases h with
  | tracked out wire now hslot hroom => exact absurd (List.mem_singleton.mpr rfl) (hnone _)
  | _ => exact ⟨rfl, rfl⟩

/-- Messages are issued in the order of their numbers. -/
lemma System.pairwise_issued {env : Env} {config : ChannelConfig} {s : System}
    (hs : Session env config s) (hk : s.issued.length < 2 ^ 63) :
    s.issued.Pairwise (fun i j => i.sequence < j.sequence) := by
  have hlen : (NumberedStream.issued s.stream.log).length = s.issued.length := by
    rw [System.issued_stream, List.length_map]
  have hpair := (Numbered.of_session hs).stream.pairwise_issued (hlen ▸ hk.le)
  rw [System.numbers_issued] at hpair
  exact List.pairwise_map.mp hpair

/-- The header of an issued message shows its number. -/
lemma System.wireNumber_issued {env : Env} {config : ChannelConfig} {s : System}
    (hs : Session env config s) {i : Issued} (hi : i ∈ s.issued) :
    wireNumber i.wire = i.sequence := by
  have hpair : (i.sequence, i.wire) ∈ NumberedStream.issued s.stream.log := by
    rw [System.issued_stream]
    exact List.mem_map_of_mem hi
  exact (Numbered.of_session hs).stream.carried _ hpair

/-- **Outbound numbering.**  In every reachable state of a session that has issued fewer than
`2 ^ 63` messages, the issued numbers, their bytes, the pending messages and the order of
transmission obey `OutboundNumbering`. -/
theorem outbound_numbering {env : Env} {config : ChannelConfig} {s : System}
    (hs : Session env config s) (hk : s.issued.length < 2 ^ 63) : OutboundNumbering env s := by
  have hnum := Numbered.of_session hs
  have hlen : (NumberedStream.issued s.stream.log).length = s.issued.length := by
    rw [System.issued_stream, List.length_map]
  have hlt : (NumberedStream.issued s.stream.log).length < 2 ^ 63 := hlen ▸ hk
  have hmem : ∀ {n w}, (n, w) ∈ NumberedStream.issued s.stream.log →
      ∃ i ∈ s.issued, i.sequence = n ∧ i.wire = w := by
    intro n w hnw
    rw [System.issued_stream] at hnw
    obtain ⟨i, hi, heq⟩ := List.mem_map.mp hnw
    cases heq
    exact ⟨i, hi, rfl, rfl⟩
  exact
    { numbers := by
        intro n
        rw [← System.numbers_issued]
        exact hnum.stream.mem_numbers hlt n
      once := List.pairwise_map.mpr (System.pairwise_issued hs hk)
      header := fun i hi => System.wireNumber_issued hs hi
      transmissions := by
        rintro n w (henq | hres)
        · exact hmem (hnum.stream.handed_sublist.subset (System.mem_handed henq))
        · exact hmem (hnum.resent n w hres)
      kept := fun s' hs' => System.issued_prefix hs'
      pending := by
        rw [← System.outstanding_stream]
        exact hnum.stream.pending_eq hlt.le
      increasing := by
        have hpair := hnum.stream.pairwise_of_sublist hlt.le hnum.stream.pending_sublist
        simpa [System.stream, OutgoingBuffer.items, Function.comp_def] using hpair
      bounded := by
        have hle := hnum.stream.length_pending
        rw [hnum.capacity]
        simpa [System.stream, OutgoingBuffer.items] using hle
      untracked := fun c ch who a o _ ha ho hnone => (send_cases ha ho).untracked hnone
      inOrder := by
        intro c
        exact (hnum.stream.pairwise_of_sublist hlt.le hnum.stream.handed_sublist).sublist
          (s.transmitted_sublist c) }

/-- The caller's byte has been encrypted when the reader takes the lock with its answer to the
handshake request; then the byte follows, and the answer is sent once more. -/
def typedRun : List Label :=
  onChannel 0 (receiving startPublication ++ ([.sendData [97]] : List Action) ++ admitting ++
    ([.encrypt .command (toArray _ [])] : List Action) ++
    receivingData (agentMessage 0 .handshakeRequest plainRequestJson) ++ answering ++
    ([.lock .command ⟨0, toArray _ []⟩, .track .command 0, .write .command,
      .retransmitPoll, .retransmitTick 2000000000, .retransmitWrite] : List Action))

theorem outbound_numbering_typed :
    ∃ s, Session sampleEnv sampleConfig s ∧
      s.issued.map (fun i => (i.sequence, i.out.payloadType)) =
        [(0, .handshakeResponse), (1, .output)] ∧
      s.transmitted 0 = [0, 1] ∧ (∃ w, Event.resent 0 w ∈ s.events) ∧
      OutboundNumbering sampleEnv s := by
  have hrun : (run (System.step sampleEnv) (System.start sampleConfig) typedRun).any (fun s =>
      decide (s.issued.map (fun i => (i.sequence, i.out.payloadType)) =
          [(0, .handshakeResponse), (1, .output)] ∧ s.transmitted 0 = [0, 1]) &&
        s.events.any (fun e => match e with
          | .resent n _ => decide (n = 0)
          | _ => false)) = true := by
    decide +kernel
  obtain ⟨s, hs, hp⟩ := exists_of_run hrun
  obtain ⟨hp, hresent⟩ := (Bool.and_eq_true _ _).mp hp
  obtain ⟨hissued, htransmitted⟩ := of_decide_eq_true hp
  have hlen : s.issued.length < 2 ^ 63 := by
    have := congrArg List.length hissued
    simp only [List.length_map, List.length_cons, List.length_nil] at this
    omega
  obtain ⟨e, he, htest⟩ := List.any_eq_true.mp hresent
  cases e with
  | resent n w =>
    obtain rfl := of_decide_eq_true htest
    exact ⟨s, hs, hissued, htransmitted, ⟨w, he⟩, outbound_numbering hs hlen⟩
  | _ => cases htest

end SsmBridge
