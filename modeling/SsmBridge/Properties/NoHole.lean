import SsmBridge.Framework.Relay
import SsmBridge.Properties.Numbering
import Mathlib.Data.List.Sort

/-!
# The outbound byte stream across channels

What `Session::send` accepts passes through the command queue of one channel and the chunk loop of
its command task before it is numbered, and only what is numbered is carried into the next channel.
A channel relays what it accepted in order: this is `Channel.Relays`, and it holds of every channel
at every point.  But a channel that dies with commands queued, or between two chunks, drops the
rest, and a channel that resumes the session goes on with whatever is sent next: the stream has a
hole (`accepted_bytes_dropped`).

So the channels of a session act like one queue when they take turns, that is when nothing is
accepted on one of them while another owes bytes it has accepted.
-/

namespace SsmBridge

open Machine Relay

/-! ## The two byte streams -/

/-- The bytes an accepted `Session::send` adds to the caller's stream. -/
def Event.acceptedBytes : Event → Bytes
  | .accepted (.data bytes) => bytes
  | _ => []

/-- The caller bytes of all sends accepted so far, in the order accepted. -/
def System.acceptedBytes (s : System) : Bytes := s.events.flatMap Event.acceptedBytes

/-- The messages of stream output numbered so far. -/
def System.outputs (s : System) : List Issued :=
  s.issued.filter (fun i => decide (i.out.payloadType = .output))

/-- Their caller bytes, by increasing sequence number. -/
def System.numberedBytes (s : System) : Bytes :=
  (s.outputs.insertionSort (fun i j => i.sequence ≤ j.sequence)).flatMap (fun i => i.out.plain)

/-- What an event takes into a channel or gives to the numbered stream. -/
def transfer : ℕ × Event → Option (Transfer ℕ UInt8)
  | (c, .accepted (.data bytes)) => some (.took c bytes)
  | (c, .issued i) => if i.out.payloadType = .output then some (.gave c i.out.plain) else none
  | _ => none

def System.transfers (s : System) : List (Transfer ℕ UInt8) := s.log.filterMap transfer

/-- The transfers of one operation of channel `c`. -/
def Outcome.transfers (o : Outcome) (c : ℕ) : List (Transfer ℕ UInt8) :=
  (o.events.map (fun e => (c, e))).filterMap transfer

lemma System.transfers_after {s : System} {c : ℕ} {o : Outcome} :
    (s.after c o).transfers = s.transfers ++ o.transfers c :=
  List.filterMap_append

/-- The channel has numbered all it accepted. -/
def System.Settled (s : System) (c : ℕ) : Prop :=
  takenBy c s.transfers = givenBy c s.transfers

instance (s : System) (c : ℕ) : Decidable (s.Settled c) :=
  inferInstanceAs (Decidable (takenBy c s.transfers = givenBy c s.transfers))

/-- Caller data is accepted on a channel only while the other channels owe nothing. -/
def SendsInTurn (s : System) (l : Label) (_ : System) : Prop :=
  match l with
  | .act c (.sendData data) => data = [] ∨ ∀ c' < s.channels.length, c' ≠ c → s.Settled c'
  | _ => True

instance (s : System) (l : Label) (s' : System) : Decidable (SendsInTurn s l s') := by
  unfold SendsInTurn
  split <;> infer_instance

lemma transfer_output {i : Issued} (c : ℕ) (h : i.out.payloadType = .output) :
    transfer (c, .issued i) = some (.gave c i.out.plain) := if_pos h

lemma transfer_of_not_output {i : Issued} (c : ℕ) (h : i.out.payloadType ≠ .output) :
    transfer (c, .issued i) = none := if_neg h

lemma System.taken_transfers (s : System) : taken s.transfers = s.acceptedBytes := by
  unfold System.transfers System.acceptedBytes System.events
  induction s.log with
  | nil => rfl
  | cons x log ih =>
    obtain ⟨c, e⟩ := x
    rw [List.map_cons, List.flatMap_cons, ← ih]
    cases e with
    | accepted command => cases command <;> rfl
    | issued i =>
      by_cases h : i.out.payloadType = .output
      · rw [List.filterMap_cons_some (transfer_output c h)]
        rfl
      · rw [List.filterMap_cons_none (transfer_of_not_output c h)]
        rfl
    | _ => rfl

lemma System.given_transfers (s : System) :
    given s.transfers = s.outputs.flatMap (fun i => i.out.plain) := by
  unfold System.transfers System.outputs System.issued System.events
  induction s.log with
  | nil => rfl
  | cons x log ih =>
    obtain ⟨c, e⟩ := x
    cases e with
    | accepted command => cases command <;> exact ih
    | issued i =>
      by_cases h : i.out.payloadType = .output
      · rw [List.filterMap_cons_some (transfer_output c h), given, ih]
        simp only [List.map_cons, List.filterMap_cons]
        rw [List.filter_cons_of_pos (by simpa using h), List.flatMap_cons]
      · rw [List.filterMap_cons_none (transfer_of_not_output c h), ih]
        simp only [List.map_cons, List.filterMap_cons]
        rw [List.filter_cons_of_neg (by simpa using h)]
    | _ => exact ih

/-- Messages are numbered in order, so nothing has to be sorted. -/
lemma System.numberedBytes_eq {env : Env} {config : ChannelConfig} {s : System}
    (hs : Session env config s) (hk : s.issued.length < 2 ^ 63) :
    s.numberedBytes = given s.transfers := by
  have hsorted : s.outputs.Pairwise (fun i j => i.sequence ≤ j.sequence) :=
    ((System.pairwise_issued hs hk).filter _).imp Int64.le_of_lt
  rw [System.given_transfers, System.numberedBytes, hsorted.insertionSort_eq]

/-! ## What a channel has on its way -/

/-- The caller bytes of a call that has not numbered its message yet. -/
def SendPc.chunk : SendPc → Bytes
  | .called payloadType plain => if payloadType = .output then plain else []
  | .locking out | .tracking out _ | .waiting out _ _ =>
      if out.payloadType = .output then out.plain else []
  | _ => []

def Command.bytes : Command → Bytes
  | .data bytes => bytes
  | .control _ _ => []

/-- The caller bytes the command task has in hand, after the chunk being sent. -/
def CommandPc.rest : CommandPc → Bytes
  | .streaming rest => rest
  | .gate command | .gatePolled command => command.bytes
  | _ => []

/-- The caller bytes a channel has accepted and not numbered, in order. -/
def Channel.flight (ch : Channel) : Bytes :=
  ch.commandSend.chunk ++ ch.command.rest ++ ch.commandQueue.flatMap Command.bytes

/-- The command task will not send anything any more. -/
def Channel.Doomed (ch : Channel) : Prop :=
  ch.command.live = false ∨ ∃ e, ch.commandSend = .returned (.error e)

/-- A channel that accepted `took` and numbered `gave` so far: it has the difference on its way, or
has dropped it. -/
def Channel.Relays (ch : Channel) (took gave : Bytes) : Prop :=
  took = gave ++ ch.flight ∨ (ch.Doomed ∧ gave <+: took)

/-- What the tasks of a channel may hold. -/
structure Channel.Typed (ch : Channel) : Prop where
  tidy : ch.Tidy
  /-- The reader's replies are not stream output. -/
  replies : ch.readerSend.chunk = []
  /-- Control commands are not stream output. -/
  controls : ch.Controls

section

variable {env : Env} {c : ℕ} {k : Continuity} {ch : Channel} {o : Outcome} {took gave : Bytes}

lemma SendPc.chunk_unnotified (pc : SendPc) : pc.unnotified.chunk = pc.chunk := by
  cases pc <;> rfl

lemma SendPc.chunk_eq_of_unnotified {pc pc' : SendPc} (h : pc'.unnotified = pc.unnotified) :
    pc'.chunk = pc.chunk := by
  rw [← pc.chunk_unnotified, ← h, pc'.chunk_unnotified]

/-- Outside `send_payload`, the task has in hand the command it holds back. -/
lemma CommandPc.rest_eq {pc : CommandPc} (h : pc.sending = false) :
    pc.rest = pc.held.toList.flatMap Command.bytes := by
  cases pc with
  | streaming rest => cases h
  | gate command => exact (List.append_nil _).symm
  | gatePolled command => exact (List.append_nil _).symm
  | _ => rfl

lemma Channel.Relays.gave_le (h : ch.Relays took gave) : gave <+: took := by
  obtain rfl | ⟨-, hle⟩ := h
  · exact List.prefix_append _ _
  · exact hle

/-- A channel whose call slot is in use inside a call is not doomed. -/
lemma Channel.Relays.flight_eq (h : ch.Relays took gave) (hlive : ¬ch.Doomed) :
    took = gave ++ ch.flight := by
  obtain heq | ⟨hdoomed, -⟩ := h
  · exact heq
  · exact absurd hdoomed hlive

/-- A step that changes nothing on the way keeps the relay. -/
lemma Channel.Relays.congr {ch' : Channel} (h : ch.Relays took gave)
    (hcommand : ch'.command = ch.command) (hqueue : ch'.commandQueue = ch.commandQueue)
    (hslot : ch'.commandSend.unnotified = ch.commandSend.unnotified) : ch'.Relays took gave := by
  obtain heq | ⟨hdoomed, hle⟩ := h
  · refine .inl ?_
    rw [heq, Channel.flight, Channel.flight, hcommand, hqueue,
      SendPc.chunk_eq_of_unnotified hslot]
  · refine .inr ⟨?_, hle⟩
    obtain hdead | ⟨e, he⟩ := hdoomed
    · exact .inl (hcommand ▸ hdead)
    · refine .inr ⟨e, ?_⟩
      rw [he] at hslot
      cases hpc : ch'.commandSend <;> rw [hpc] at hslot <;>
        simp_all [SendPc.unnotified]

/-! ## Steps of a channel -/

lemma Outcome.transfers_of_events (h : ∀ e ∈ o.events, transfer (c, e) = none) :
    o.transfers c = [] := by
  refine List.filterMap_eq_nil_iff.mpr ?_
  intro x hx
  obtain ⟨e, he, rfl⟩ := List.mem_map.mp hx
  exact h e he

/-- A step of a call keeps its chunk, loses it with an error, or numbers it. -/
lemma SendStep.transfers {who : Sender} (h : SendStep env c who k ch o) :
    (o.transfers c = [] ∧ ((o.channel.slot who).chunk = (ch.slot who).chunk ∨
      ∃ e, o.channel.slot who = .returned (.error e))) ∨
    (o.transfers c = [.gave c (ch.slot who).chunk] ∧ (o.channel.slot who).chunk = []) := by
  cases h with
  | refused payloadType plain e hslot => exact .inl ⟨rfl, .inr ⟨e, by simp⟩⟩
  | encrypted payloadType plain out hslot hout =>
    refine .inl ⟨rfl, .inl ?_⟩
    rw [Channel.slot_setSlot, hslot]
    cases hout <;> rfl
  | locked out stamp hslot hfree =>
    refine .inl ⟨rfl, .inl ?_⟩
    rw [Channel.slot_setSlot, hslot]
    rfl
  | tracked out wire now hslot hroom =>
    by_cases htype : out.payloadType = .output
    · refine .inr ⟨?_, by simp [SendPc.chunk]⟩
      rw [hslot, SendPc.chunk, if_pos htype]
      exact List.filterMap_cons_some (transfer_output c htype)
    · refine .inl ⟨List.filterMap_cons_none (transfer_of_not_output c htype), .inl ?_⟩
      rw [Channel.slot_setSlot, hslot]
      exact (if_neg htype).symm
  | parked out wire hslot =>
    refine .inl ⟨rfl, .inl ?_⟩
    rw [Channel.slot_setSlot, hslot]
    rfl
  | retried out wire notified hslot =>
    refine .inl ⟨rfl, .inl ?_⟩
    rw [Channel.slot_setSlot, hslot]
    rfl
  | gaveUp out wire notified e hslot => exact .inl ⟨rfl, .inr ⟨e, by simp⟩⟩
  | wrote n wire hslot =>
    refine .inl ⟨rfl, .inl ?_⟩
    rw [Channel.slot_writerQueue, Channel.slot_setSlot, hslot]
    rfl
  | failed n wire e hslot => exact .inl ⟨rfl, .inr ⟨e, by simp⟩⟩

lemma SendStep.not_doomed (h : SendStep env c .command k ch o) (ht : ch.Tidy) : ¬ch.Doomed := by
  rintro (hdead | ⟨e, he⟩)
  · refine h.slot_ne_idle (ht.command ?_)
    cases hpc : ch.command <;> simp_all [CommandPc.live, CommandPc.sending]
  · cases h <;> simp_all [Channel.slot]

lemma SendStep.relays {who : Sender} (h : SendStep env c who k ch o) (ht : ch.Typed)
    (hr : ch.Relays took gave) :
    o.channel.Relays (took ++ takenBy c (o.transfers c)) (gave ++ givenBy c (o.transfers c)) := by
  have hf := h.frame
  cases who with
  | reader =>
    have hkept : o.channel.Relays took gave :=
      hr.congr hf.command hf.commandQueue
        (congrArg SendPc.unnotified (hf.slot .command (by simp)))
    -- What the reader numbers is no stream output, so it gives nothing to the stream.
    have hchunk : (ch.slot .reader).chunk = [] := ht.replies
    obtain ⟨htr, -⟩ | ⟨htr, -⟩ := h.transfers
    · simpa [htr, takenBy, givenBy] using hkept
    · simpa [htr, hchunk, takenBy, givenBy] using hkept
  | command =>
    have heq := hr.flight_eq (h.not_doomed ht.tidy)
    obtain ⟨htr, hslot | ⟨e, he⟩⟩ | ⟨htr, hslot⟩ := h.transfers
    · refine .inl ?_
      have hslot' : o.channel.commandSend.chunk = ch.commandSend.chunk := hslot
      simp [htr, takenBy, givenBy, heq, Channel.flight, hslot', hf.command, hf.commandQueue]
    · refine .inr ⟨.inr ⟨e, he⟩, ?_⟩
      simpa [htr, takenBy, givenBy] using hr.gave_le
    · refine .inl ?_
      have hslot' : o.channel.commandSend.chunk = [] := hslot
      simp [htr, takenBy, givenBy, heq, Channel.flight, Channel.slot, hslot', hf.command,
        hf.commandQueue]

/-- The next round of the chunk loop takes its chunk off the bytes in hand. -/
lemma Channel.flight_sendStreamData (data : Bytes) :
    (ch.sendStreamData data).flight = data ++ ch.commandQueue.flatMap Command.bytes := by
  unfold Channel.sendStreamData
  split
  · next hempty => simp [Channel.flight, SendPc.chunk, CommandPc.rest, hempty]
  · simp [Channel.flight, SendPc.chunk, CommandPc.rest]

/-- Outside a call the bytes on the way are those of the commands held and queued. -/
lemma Channel.Tidy.flight_eq (ht : ch.Tidy) (h : ch.command.sending = false) :
    ch.flight = (ch.command.held.toList ++ ch.commandQueue).flatMap Command.bytes := by
  rw [Channel.flight, ht.command h, CommandPc.rest_eq h, List.flatMap_append]
  rfl

lemma Channel.not_doomed (hlive : ch.command.live = true)
    (hslot : ∀ e, ch.commandSend ≠ .returned (.error e)) : ¬ch.Doomed := by
  rintro (hdead | ⟨e, he⟩)
  · rw [hlive] at hdead
    cases hdead
  · exact hslot e he

lemma Channel.Tidy.not_doomed (ht : ch.Tidy) (hlive : ch.command.live = true)
    (h : ch.command.sending = false) : ¬ch.Doomed :=
  Channel.not_doomed hlive (by simp [ht.command h])

/-- A step of the command task moves its bytes on, or gives up on them. -/
lemma CommandStep.relays (h : CommandStep c k ch o) (ht : ch.Typed) (hr : ch.Relays took gave) :
    o.channel.Relays took gave := by
  cases h with
  | moved pc hfrom hto hheld hlive hlive' =>
    have heq := hr.flight_eq (ht.tidy.not_doomed hlive hfrom)
    rw [ht.tidy.flight_eq hfrom, ← hheld] at heq
    refine .inl ?_
    have htidy : Channel.Tidy { ch with command := pc } := ⟨fun _ => ht.tidy.command hfrom,
      ht.tidy.reader⟩
    rw [htidy.flight_eq hto]
    exact heq
  | received command rest hpc hqueue =>
    have hfrom : ch.command.sending = false := by simp [hpc, CommandPc.sending]
    have heq := hr.flight_eq (ht.tidy.not_doomed (by simp [hpc, CommandPc.live]) hfrom)
    refine .inl ?_
    have hidle := ht.tidy.command hfrom
    rw [heq]
    simp [Channel.flight, hpc, hqueue, hidle, CommandPc.rest]
  | admittedData bytes hpc =>
    have hfrom : ch.command.sending = false := by simp [hpc, CommandPc.sending]
    have heq := hr.flight_eq (ht.tidy.not_doomed (by simp [hpc, CommandPc.live]) hfrom)
    refine .inl ?_
    rw [heq, Channel.flight_sendStreamData, ht.tidy.flight_eq hfrom]
    simp [hpc, CommandPc.held, Command.bytes]
  | admittedControl payloadType data hpc =>
    have hfrom : ch.command.sending = false := by simp [hpc, CommandPc.sending]
    have heq := hr.flight_eq (ht.tidy.not_doomed (by simp [hpc, CommandPc.live]) hfrom)
    have hsize : payloadType = .size := by
      refine ht.controls payloadType data (List.mem_append_left _ ?_)
      simp [hpc, CommandPc.held]
    refine .inl ?_
    rw [heq, ht.tidy.flight_eq hfrom]
    simp [Channel.flight, hpc, hsize, CommandPc.held, CommandPc.rest, SendPc.chunk, Command.bytes]
  | chunkSent rest hpc hslot =>
    have heq := hr.flight_eq (Channel.not_doomed (by simp [hpc, CommandPc.live]) (by simp [hslot]))
    refine .inl ?_
    rw [heq, Channel.flight_sendStreamData]
    simp [Channel.flight, hpc, hslot, SendPc.chunk, CommandPc.rest]
  | controlSent hpc hslot =>
    have heq := hr.flight_eq (Channel.not_doomed (by simp [hpc, CommandPc.live]) (by simp [hslot]))
    refine .inl ?_
    rw [heq]
    simp [Channel.flight, hpc, hslot, SendPc.chunk, CommandPc.rest]
  | failed e hpc hslot => exact .inr ⟨.inl rfl, hr.gave_le⟩
  | ended core hpc hcore => exact .inr ⟨.inl rfl, hr.gave_le⟩
  | aborted hpc hslot => exact .inr ⟨.inl rfl, hr.gave_le⟩

lemma transfer_of_isInbound {e : Event} (h : e.isInbound = true) : transfer (c, e) = none := by
  cases e <;> first | rfl | cases h

lemma ReaderStep.transfers (h : ReaderStep c k ch o) : o.transfers c = [] := by
  cases h with
  | inward inbound ch' events hfrom hslot hkept hevents =>
    exact Outcome.transfers_of_events (fun e he => transfer_of_isInbound (hevents e he))
  | called payloadType payload ch' events hfrom hto hslot htype hkept hevents =>
    exact Outcome.transfers_of_events (fun e he => transfer_of_isInbound (hevents e he))
  | _ => rfl

lemma BackgroundStep.transfers (h : BackgroundStep k ch o) : o.transfers c = [] := by
  obtain ⟨outgoing, core, aborted, queue, writer, heartbeat, retransmit, events, -, -, -, -, -,
    hevents⟩ := h
  refine Outcome.transfers_of_events (fun e he => ?_)
  obtain ⟨n, w, rfl, -⟩ := hevents e he
  rfl

lemma CommandStep.transfers (h : CommandStep c k ch o) : o.transfers c = [] := by
  refine Outcome.transfers_of_events (fun e he => ?_)
  obtain ⟨command, cipher, rfl⟩ := h.frame.events e he
  rfl

lemma transfers_accepted (c : ℕ) (command : Command) :
    takenBy c ([(c, Event.accepted command)].filterMap transfer) = command.bytes ∧
      givenBy c ([(c, Event.accepted command)].filterMap transfer) = [] := by
  cases command with
  | data bytes => simp [transfer, takenBy, givenBy, Command.bytes]
  | control payloadType data => exact ⟨rfl, rfl⟩

/-- **A channel relays in order.**  Every operation of the channel, at whatever point its tasks are,
keeps what was numbered a prefix of what was accepted, with the rest on its way or given up. -/
theorem ChannelStep.relays (h : ChannelStep env c k ch o) (ht : ch.Typed)
    (hr : ch.Relays took gave) :
    o.channel.Relays (took ++ takenBy c (o.transfers c)) (gave ++ givenBy c (o.transfers c)) := by
  cases h with
  | send who h => exact h.relays ht hr
  | command h => simpa [h.transfers, takenBy, givenBy] using h.relays ht hr
  | reader h =>
    have hkept : o.channel.Relays took gave :=
      hr.congr h.kept.command h.kept.commandQueue h.kept.commandSend
    simpa [h.transfers, takenBy, givenBy] using hkept
  | background h =>
    have hkept : o.channel.Relays took gave := by
      cases h
      exact hr.congr rfl rfl rfl
    simpa [h.transfers, takenBy, givenBy] using hkept
  | accepted command hcommand halive h =>
    subst h
    obtain ⟨htook, hgave⟩ := transfers_accepted c command
    simp only [Outcome.transfers, List.map_cons, List.map_nil, htook, hgave, List.append_nil]
    obtain rfl | ⟨hdoomed, hle⟩ := hr
    · refine .inl ?_
      simp [Channel.flight]
    · exact .inr ⟨hdoomed, hle.trans (List.prefix_append _ _)⟩

/-- An operation takes something in, gives something on or neither. -/
lemma ChannelStep.transfers (h : ChannelStep env c k ch o) :
    o.transfers c = [] ∨ (∃ xs, o.transfers c = [.gave c xs]) ∨
      ∃ xs, o.transfers c = [.took c xs] ∧ o.events = [.accepted (.data xs)] := by
  cases h with
  | send who h =>
    obtain ⟨htr, -⟩ | ⟨htr, -⟩ := h.transfers
    · exact .inl htr
    · exact .inr (.inl ⟨_, htr⟩)
  | command h => exact .inl h.transfers
  | reader h => exact .inl h.transfers
  | background h => exact .inl h.transfers
  | accepted command hcommand halive h =>
    subst h
    cases command with
    | data bytes => exact .inr (.inr ⟨bytes, rfl, rfl⟩)
    | control payloadType data => exact .inl rfl

/-- Only `Session::send` takes caller data in. -/
lemma action_of_accepted {a : Action} {data : Bytes} (h : perform env c k ch a = some o)
    (hev : o.events = [.accepted (.data data)]) : a = .sendData data := by
  have hmem : Event.accepted (.data data) ∈ o.events := by simp [hev]
  cases ha : a.task with
  | send who => cases send_cases ha h <;> simp at hmem
  | writer =>
    obtain ⟨outgoing, core, aborted, queue, writer, heartbeat, retransmit, events, -, -, -, -, -,
      hevents⟩ := writer_cases ha h
    simpa using hevents _ hmem
  | heartbeat =>
    obtain ⟨outgoing, core, aborted, queue, writer, heartbeat, retransmit, events, -, -, -, -, -,
      hevents⟩ := heartbeat_cases ha h
    simpa using hevents _ hmem
  | retransmit =>
    obtain ⟨outgoing, core, aborted, queue, writer, heartbeat, retransmit, events, -, -, -, -, -,
      hevents⟩ := retransmit_cases ha h
    simpa using hevents _ hmem
  | command => simpa using (command_cases ha h).frame.events _ hmem
  | reader =>
    cases reader_cases ha h with
    | inward inbound ch' events hfrom hslot hkept hevents =>
      simpa [Event.isInbound] using hevents _ hmem
    | called payloadType payload ch' events hfrom hto hslot htype hkept hevents =>
      simpa [Event.isInbound] using hevents _ hmem
    | _ => simp at hmem
  | handle =>
    cases a <;> simp only [Action.task, reduceCtorEq] at ha <;> simp only [perform] at h
    case sendData bytes =>
      unfold sendData dispatch at h
      split at h <;> cases h
      simpa using hev
    case sendTerminalSize size =>
      unfold sendTerminalSize dispatch at h
      split at h <;> cases h
      simp at hev
    case terminate =>
      cases h
      simp at hev
    case drop =>
      cases h
      simp at hev

/-- The reader's slot never holds stream output. -/
lemma ChannelStep.replies (h : ChannelStep env c k ch o) (hr : ch.readerSend.chunk = []) :
    o.channel.readerSend.chunk = [] := by
  cases h with
  | send who h =>
    cases who with
    | reader =>
      have hchunk : (ch.slot .reader).chunk = [] := hr
      show (o.channel.slot .reader).chunk = []
      obtain ⟨-, hslot | ⟨e, he⟩⟩ | ⟨-, hslot⟩ := h.transfers
      · exact hslot.trans hchunk
      · rw [he]
        rfl
      · exact hslot
    | command =>
      rw [show o.channel.readerSend = ch.readerSend from h.frame.slot .reader (by simp)]
      exact hr
  | command h =>
    rw [h.frame.readerSend]
    exact hr
  | reader h =>
    cases h with
    | inward inbound ch' events hfrom hslot hkept hevents => exact hslot ▸ hr
    | called payloadType payload ch' events hfrom hto hslot htype hkept hevents =>
      rw [hslot]
      exact if_neg htype
    | returned result crypto ch' hfrom hslot hcrypto hkept =>
      rw [hslot]
      rfl
    | retired n now ch' hfrom hslot hkept => exact (SendPc.chunk_eq_of_unnotified hslot).trans hr
    | aborted haborted hfrom hslot => rfl
  | background h =>
    cases h
    exact hr
  | accepted command hcommand halive h =>
    subst h
    exact hr

lemma Channel.Typed.open (config : ChannelConfig) : (Channel.open config).Typed :=
  ⟨.open config, rfl, .open config⟩

theorem Channel.Typed.step (ht : ch.Typed) (h : ChannelStep env c k ch o) : o.channel.Typed :=
  ⟨ht.tidy.step h, h.replies ht.replies, ht.controls.step h⟩

end

/-! ## Runs -/

/-- The channels of a session relay in order and take turns. -/
structure System.Relays (s : System) : Prop where
  channels : ∀ (c : ℕ) (ch : Channel), s.channels[c]? = some ch →
    ch.Relays (takenBy c s.transfers) (givenBy c s.transfers)
  /-- Channels that were not opened yet have done nothing. -/
  unopened : ∀ c, s.channels.length ≤ c →
    takenBy c s.transfers = [] ∧ givenBy c s.transfers = []
  inTurn : InTurn s.transfers

namespace System

variable {env : Env} {s : System} {c : ℕ} {ch : Channel} {a : Action} {o : Outcome}
  {config : ChannelConfig}

lemma Relays.start (config : ChannelConfig) : (System.start config).Relays where
  channels c ch hch := by
    rw [channel_start hch]
    exact .inl rfl
  unopened _ _ := ⟨rfl, rfl⟩
  inTurn := .nil

/-- The transfers of an operation belong to its channel. -/
lemma transfers_of_ne (h : ChannelStep env c s.cont ch o) {c' : ℕ} (hne : c' ≠ c) :
    takenBy c' (o.transfers c) = [] ∧ givenBy c' (o.transfers c) = [] := by
  obtain htr | ⟨xs, htr⟩ | ⟨xs, htr, -⟩ := h.transfers
  · rw [htr]
    exact ⟨rfl, rfl⟩
  · simp [htr, takenBy, givenBy, Ne.symm hne]
  · simp [htr, takenBy, givenBy, Ne.symm hne]

lemma Relays.inTurn_after (h : s.Relays) (ho : perform env c s.cont ch a = some o)
    (hturn : SendsInTurn s (.act c a) (s.after c o))
    (hrelays : o.channel.Relays (takenBy c s.transfers ++ takenBy c (o.transfers c))
      (givenBy c s.transfers ++ givenBy c (o.transfers c))) :
    InTurn (s.transfers ++ o.transfers c) := by
  obtain htr | ⟨xs, htr⟩ | ⟨xs, htr, hev⟩ := (perform_cases ho).transfers
  · rw [htr, List.append_nil]
    exact h.inTurn
  · rw [htr] at hrelays ⊢
    refine .gave c xs h.inTurn ?_
    simpa [takenBy, givenBy] using hrelays.gave_le
  · rw [htr]
    refine .took c xs h.inTurn (fun hne j hj => ?_)
    have ha := action_of_accepted ho hev
    subst ha
    obtain hempty | hsettled := hturn
    · exact absurd hempty hne
    · by_cases hlt : j < s.channels.length
      · exact hsettled j hlt hj
      · obtain ⟨htook, hgave⟩ := h.unopened j (Nat.le_of_not_lt hlt)
        rw [htook, hgave]

lemma Relays.after (h : s.Relays) (htyped : s.Each Channel.Typed)
    (hch : s.channels[c]? = some ch) (ho : perform env c s.cont ch a = some o)
    (hturn : SendsInTurn s (.act c a) (s.after c o)) : (s.after c o).Relays := by
  have hstep := perform_cases ho
  have hrelays := hstep.relays (htyped c ch hch) (h.channels c ch hch)
  refine ⟨?_, ?_, ?_⟩
  · intro c' ch' hch'
    rw [transfers_after, takenBy_append, givenBy_append]
    obtain ⟨rfl, rfl⟩ | ⟨hne, hold⟩ := channel_after hch'
    · exact hrelays
    · obtain ⟨htook, hgave⟩ := transfers_of_ne hstep hne
      rw [htook, hgave, List.append_nil, List.append_nil]
      exact h.channels c' ch' hold
  · intro c' hc'
    have hlen : (s.after c o).channels.length = s.channels.length := List.length_set
    have hlt : c < s.channels.length := (List.getElem?_eq_some_iff.mp hch).1
    obtain ⟨htook, hgave⟩ := h.unopened c' (hlen ▸ hc')
    have hne : c' ≠ c := by omega
    obtain ⟨htook', hgave'⟩ := transfers_of_ne hstep hne
    rw [transfers_after, takenBy_append, givenBy_append, htook, hgave, htook', hgave']
    exact ⟨rfl, rfl⟩
  · rw [transfers_after]
    exact h.inTurn_after ho hturn hrelays

lemma Relays.resumed (h : s.Relays) : (s.resumed config).Relays where
  channels c ch hch := by
    obtain ⟨rfl, rfl⟩ | hold := channel_resumed hch
    · obtain ⟨htook, hgave⟩ := h.unopened s.channels.length le_rfl
      refine .inl ?_
      show takenBy _ s.transfers = givenBy _ s.transfers ++ _
      rw [htook, hgave]
      rfl
    · exact h.channels c ch hold
  unopened c hc := by
    simp only [System.resumed, List.length_append, List.length_singleton] at hc
    exact h.unopened c (by omega)
  inTurn := h.inTurn

end System

/-- In a run whose sends take turns, the channels act like one queue. -/
theorem relays_of_run {env : Env} {config : ChannelConfig} {s : System}
    (hs : Reachable (System.step env) SendsInTurn (System.start config) s) : s.Relays := by
  refine Reachable.invariant_with (Q := fun s => s.Each Channel.Typed) ?_ (.start config) ?_ hs
  · intro s hs
    exact channels_invariant .open (fun c k ch o ht h => ht.step h) hs
  · intro s l s' htyped ih hstep hturn
    obtain ⟨c, a, ch, o, rfl, hch, ho, rfl⟩ | ⟨config', -, -, rfl⟩ := System.step_cases hstep
    · exact ih.after htyped hch ho hturn
    · exact ih.resumed

/-- **No hole in the outbound stream.**  In every run in which caller data is accepted on a channel
only while the other channels owe nothing, and in every state of it, the caller bytes numbered so
far are a prefix of those accepted. -/
theorem no_hole_in_turn {env : Env} {config : ChannelConfig} {s : System}
    (hs : Reachable (System.step env) SendsInTurn (System.start config) s)
    (hk : s.issued.length < 2 ^ 63) : s.numberedBytes <+: s.acceptedBytes := by
  rw [System.numberedBytes_eq hs.unguarded hk, ← System.taken_transfers]
  exact (relays_of_run hs).inTurn.given_prefix

/-- One channel opens, accepts a byte and numbers it. -/
def sendingByte (c : ℕ) (byte : UInt8) : List Label :=
  onChannel c (receiving startPublication ++ [.sendData [byte]] ++ admitting ++ numbering .command)

/-- The socket of a channel ends, its reader notices, and the session is resumed. -/
def replacing (c : ℕ) : List Label :=
  onChannel c [.readerPoll, .readerFrame 0 .ended, .readerClose] ++ [.resume sampleConfig]

theorem no_hole_in_turn_resumed :
    ∃ s, Reachable (System.step sampleEnv) SendsInTurn (System.start sampleConfig) s ∧
      s.channels.length = 2 ∧ s.acceptedBytes = [97, 98] ∧ s.numberedBytes = [97, 98] ∧
      s.numberedBytes <+: s.acceptedBytes := by
  have hrun : (runIf (System.step sampleEnv) (fun s l s' => decide (SendsInTurn s l s'))
      (System.start sampleConfig)
      (sendingByte 0 97 ++ onChannel 0 [.write .command] ++ replacing 0 ++ sendingByte 1 98)).any
      (fun s => decide (s.channels.length = 2 ∧ s.acceptedBytes = [97, 98] ∧
        s.numberedBytes = [97, 98] ∧ s.issued.length = 2)) = true := by
    decide +kernel
  obtain ⟨s, hs, hp⟩ := exists_of_runIf (fun s l s' h => of_decide_eq_true h) hrun
  obtain ⟨hchannels, haccepted, hnumbered, hissued⟩ := of_decide_eq_true hp
  exact ⟨s, hs, hchannels, haccepted, hnumbered, no_hole_in_turn hs (by rw [hissued]; decide)⟩

/-- **A channel drops what it accepted.**  A send was accepted, the channel closed with the command
still queued, and the channel that resumes the session numbers what is sent next. -/
theorem accepted_bytes_dropped :
    ∃ s, Session sampleEnv sampleConfig s ∧ s.acceptedBytes = [97, 98] ∧ s.numberedBytes = [98] ∧
      ¬s.numberedBytes <+: s.acceptedBytes := by
  have hrun : (run (System.step sampleEnv) (System.start sampleConfig)
      (onChannel 0 [.sendData [97]] ++ replacing 0 ++ onChannel 0 [.commandPoll] ++
        sendingByte 1 98)).any
      (fun s => decide (s.acceptedBytes = [97, 98] ∧ s.numberedBytes = [98])) = true := by
    decide +kernel
  obtain ⟨s, hs, hp⟩ := exists_of_run hrun
  obtain ⟨haccepted, hnumbered⟩ := of_decide_eq_true hp
  refine ⟨s, hs, haccepted, hnumbered, ?_⟩
  rw [haccepted, hnumbered]
  decide

end SsmBridge
