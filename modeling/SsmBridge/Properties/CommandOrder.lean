import SsmBridge.Framework.Chunks
import SsmBridge.Properties.NoHole
import SsmBridge.Properties.WireContents

/-!
# The messages of the command task

The command task takes its commands off a queue, holds each back at the send gate, cuts the data of
those that carry data into chunks and has every piece numbered, while the reader numbers replies of
its own in between and the cipher may be installed at any point.

What a channel has on its way is kept apart in two parts: `Channel.inHand`, the messages of the
command that is past the gate, and `Channel.waiting`, the commands behind it.  `PipelineStep` says
once what an operation does to them.  What was accepted then is, in order, what was numbered, what
is in hand and what is waiting, until the command task fails (`Channel.Sends`).

The chunk loop goes on when a call of `send_payload` returns, with other tasks in between.  Its
measure is the number of bytes after the chunk being sent, which no other step raises.
-/

namespace SsmBridge

open Machine Chunks

/-! ## What a command is sent as -/

/-- The messages a command is sent as. -/
def Command.messages (size : ℕ) : Command → List Bytes
  | .data bytes => chunks size bytes
  | .control _ payload => [payload]

/-- The pieces a command may be sent as: a control payload whole, data in pieces that are neither
empty nor too long and make up the data. -/
def Command.SplitsInto (size : ℕ) (pieces : List Bytes) : Command → Prop
  | .data bytes => (∀ p ∈ pieces, 1 ≤ p.length ∧ p.length ≤ size) ∧ pieces.flatten = bytes
  | .control _ payload => pieces = [payload]

lemma Command.splitsInto_messages {size : ℕ} (hsize : 1 ≤ size) (command : Command) :
    command.SplitsInto size (command.messages size) := by
  cases command with
  | data bytes => exact ⟨fun p hp => length_of_mem_chunks hsize hp, flatten_chunks hsize⟩
  | control payloadType data => exact rfl

/-- The message of a call that has not been numbered yet. -/
def SendPc.message : SendPc → List Bytes
  | .called _ plain => [plain]
  | .locking out | .tracking out _ | .waiting out _ _ => [out.plain]
  | _ => []

/-- The messages after the one being sent. -/
def CommandPc.following (size : ℕ) : CommandPc → List Bytes
  | .streaming rest => chunks size rest
  | _ => []

namespace Channel

/-- The messages of the command past the gate that have no number yet. -/
def inHand (ch : Channel) : List Bytes :=
  ch.commandSend.message ++ ch.command.following ch.chunkSize

/-- The commands that are not past the gate. -/
def waiting (ch : Channel) : List Command := ch.command.held.toList ++ ch.commandQueue

end Channel

/-! ## What an operation does -/

/-- The command that was accepted by this event. -/
def Event.command : Event → Option Command
  | .accepted command => some command
  | _ => none

/-- The message that the command task got a number for by this event. -/
def Event.sent : Event → Option Issued
  | .issued i => if i.sender = .command then some i else none
  | _ => none

/-- The command that passed the gate by this event. -/
def Event.passed : Event → Option Command
  | .admitted command _ => some command
  | _ => none

namespace Outcome

def accepted (o : Outcome) : List Command := o.events.filterMap Event.command

def sent (o : Outcome) : List Bytes := (o.events.filterMap Event.sent).map (fun i => i.out.plain)

def passed (o : Outcome) : List Command := o.events.filterMap Event.passed

end Outcome

/-- What an operation does to the messages of the command task. -/
inductive PipelineStep (ch : Channel) (o : Outcome) : Prop
  | quiet (haccepted : o.accepted = []) (hsent : o.sent = []) (hpassed : o.passed = [])
      (hhand : o.channel.inHand = ch.inHand) (hwaiting : o.channel.waiting = ch.waiting)
      (hdoomed : ch.Doomed → o.channel.Doomed)
  | accepted (command : Command) (haccepted : o.accepted = [command]) (hsent : o.sent = [])
      (hpassed : o.passed = []) (hhand : o.channel.inHand = ch.inHand)
      (hwaiting : o.channel.waiting = ch.waiting ++ [command])
      (hdoomed : ch.Doomed → o.channel.Doomed)
  | passed (command : Command) (hlive : ¬ ch.Doomed) (haccepted : o.accepted = [])
      (hsent : o.sent = []) (hpassed : o.passed = [command]) (hidle : ch.inHand = [])
      (hhand : o.channel.inHand = command.messages ch.chunkSize)
      (hwaiting : ch.waiting = command :: o.channel.waiting)
  | sent (message : Bytes) (hlive : ¬ ch.Doomed) (haccepted : o.accepted = [])
      (hsent : o.sent = [message]) (hpassed : o.passed = [])
      (hhand : ch.inHand = message :: o.channel.inHand)
      (hwaiting : o.channel.waiting = ch.waiting)
  | gaveUp (haccepted : o.accepted = []) (hsent : o.sent = []) (hpassed : o.passed = [])
      (hdoomed : o.channel.Doomed)

section

variable {env : Env} {c : ℕ} {k : Continuity} {ch : Channel} {o : Outcome}

lemma SendPc.message_eq_of_unnotified {pc pc' : SendPc} (h : pc'.unnotified = pc.unnotified) :
    pc'.message = pc.message := by
  have hsame : ∀ pc : SendPc, pc.unnotified.message = pc.message := by
    intro pc
    cases pc <;> rfl
  rw [← hsame pc, ← h, hsame pc']

/-- A step of a call keeps its message, fails or gets it a number. -/
lemma SendStep.message {who : Sender} (h : SendStep env c who k ch o) :
    o.accepted = [] ∧ o.passed = [] ∧
      ((o.events.filterMap Event.sent = [] ∧
          ((o.channel.slot who).message = (ch.slot who).message ∨
            ∃ e, o.channel.slot who = .returned (.error e))) ∨
        ∃ i : Issued, o.events = [.issued i] ∧ i.sender = who ∧
          (ch.slot who).message = [i.out.plain] ∧ (o.channel.slot who).message = []) := by
  cases h with
  | refused payloadType plain e hslot => exact ⟨rfl, rfl, .inl ⟨rfl, .inr ⟨e, by simp⟩⟩⟩
  | encrypted payloadType plain out hslot hout =>
    refine ⟨rfl, rfl, .inl ⟨rfl, .inl ?_⟩⟩
    rw [Channel.slot_setSlot, hslot]
    cases hout <;> rfl
  | locked out stamp hslot hfree =>
    refine ⟨rfl, rfl, .inl ⟨rfl, .inl ?_⟩⟩
    rw [Channel.slot_setSlot, hslot]
    rfl
  | tracked out wire now hslot hroom =>
    refine ⟨rfl, rfl, .inr ⟨_, rfl, rfl, ?_, ?_⟩⟩
    · rw [hslot]
      rfl
    · simp [SendPc.message]
  | parked out wire hslot =>
    refine ⟨rfl, rfl, .inl ⟨rfl, .inl ?_⟩⟩
    rw [Channel.slot_setSlot, hslot]
    rfl
  | retried out wire notified hslot =>
    refine ⟨rfl, rfl, .inl ⟨rfl, .inl ?_⟩⟩
    rw [Channel.slot_setSlot, hslot]
    rfl
  | gaveUp out wire notified e hslot => exact ⟨rfl, rfl, .inl ⟨rfl, .inr ⟨e, by simp⟩⟩⟩
  | wrote n wire hslot =>
    refine ⟨rfl, rfl, .inl ⟨rfl, .inl ?_⟩⟩
    rw [Channel.slot_writerQueue, Channel.slot_setSlot, hslot]
    rfl
  | failed n wire e hslot => exact ⟨rfl, rfl, .inl ⟨rfl, .inr ⟨e, by simp⟩⟩⟩

/-- Doom is a matter of the command task alone. -/
lemma Channel.Doomed.congr {ch' : Channel} (h : ch.Doomed) (hcommand : ch'.command = ch.command)
    (hslot : ch'.commandSend.unnotified = ch.commandSend.unnotified) : ch'.Doomed := by
  obtain hdead | ⟨e, he⟩ := h
  · exact .inl (hcommand ▸ hdead)
  · refine .inr ⟨e, ?_⟩
    rw [he] at hslot
    cases hpc : ch'.commandSend <;> rw [hpc] at hslot <;> simp_all [SendPc.unnotified]

/-- An operation that leaves the command task alone. -/
lemma PipelineStep.of_kept (haccepted : o.accepted = []) (hsent : o.sent = [])
    (hpassed : o.passed = []) (hcommand : o.channel.command = ch.command)
    (hqueue : o.channel.commandQueue = ch.commandQueue)
    (hslot : o.channel.commandSend.unnotified = ch.commandSend.unnotified)
    (hsize : o.channel.chunkSize = ch.chunkSize) : PipelineStep ch o := by
  refine .quiet haccepted hsent hpassed ?_ ?_ (fun h => h.congr hcommand hslot)
  · rw [Channel.inHand, Channel.inHand, hcommand, hsize, SendPc.message_eq_of_unnotified hslot]
  · rw [Channel.waiting, Channel.waiting, hcommand, hqueue]

lemma SendStep.pipeline {who : Sender} (h : SendStep env c who k ch o) (ht : ch.Tidy) :
    PipelineStep ch o := by
  have hf := h.frame
  obtain ⟨haccepted, hpassed, hmessage⟩ := h.message
  cases who with
  | reader =>
    have hsent : o.sent = [] := by
      obtain ⟨hsent, -⟩ | ⟨i, hevents, hsender, -⟩ := hmessage
      · rw [Outcome.sent, hsent]
        rfl
      · simp [Outcome.sent, hevents, Event.sent, hsender]
    exact .of_kept haccepted hsent hpassed hf.command hf.commandQueue
      (congrArg SendPc.unnotified (hf.slot .command (by simp))) hf.chunkSize
  | command =>
    have hlive := h.not_doomed ht
    have hwaiting : o.channel.waiting = ch.waiting := by
      rw [Channel.waiting, Channel.waiting, hf.command, hf.commandQueue]
    obtain ⟨hsent, hslot | ⟨e, he⟩⟩ | ⟨i, hevents, hsender, hslot, hslot'⟩ := hmessage
    · have hslot' : o.channel.commandSend.message = ch.commandSend.message := hslot
      refine .quiet haccepted (by rw [Outcome.sent, hsent]; rfl) hpassed ?_ hwaiting
        (fun hdoomed => absurd hdoomed hlive)
      rw [Channel.inHand, Channel.inHand, hf.command, hf.chunkSize, hslot']
    · exact .gaveUp haccepted (by rw [Outcome.sent, hsent]; rfl) hpassed (.inr ⟨e, he⟩)
    · have hbefore : ch.commandSend.message = [i.out.plain] := hslot
      have hafter : o.channel.commandSend.message = [] := hslot'
      refine .sent i.out.plain hlive haccepted ?_ hpassed ?_ hwaiting
      · simp [Outcome.sent, hevents, Event.sent, hsender]
      · rw [Channel.inHand, Channel.inHand, hbefore, hafter, hf.command, hf.chunkSize]
        rfl

/-- A round of the chunk loop leaves the chunks of the data in hand. -/
lemma Channel.inHand_sendStreamData (hsize : 1 ≤ ch.chunkSize) (data : Bytes) :
    (ch.sendStreamData data).inHand = chunks ch.chunkSize data ∧
      (ch.sendStreamData data).waiting = ch.commandQueue := by
  unfold Channel.sendStreamData
  split
  · next hempty =>
    subst hempty
    exact ⟨rfl, rfl⟩
  · next hne => exact ⟨(chunks_of_ne_nil hsize hne).symm, rfl⟩

/-- Outside a call nothing is in hand. -/
lemma Channel.Tidy.inHand_eq (ht : ch.Tidy) (h : ch.command.sending = false) : ch.inHand = [] := by
  rw [Channel.inHand, ht.command h]
  cases hpc : ch.command <;> simp_all [CommandPc.following, CommandPc.sending, SendPc.message]

lemma CommandStep.pipeline (h : CommandStep c k ch o) (ht : ch.Tidy) (hsize : 1 ≤ ch.chunkSize) :
    PipelineStep ch o := by
  cases h with
  | moved pc hfrom hto hheld hlive hlive' =>
    have htidy : Channel.Tidy { ch with command := pc } := ⟨fun _ => ht.command hfrom, ht.reader⟩
    refine .quiet rfl rfl rfl ?_ ?_ (fun hdoomed => absurd hdoomed (ht.not_doomed hlive hfrom))
    · rw [htidy.inHand_eq hto, ht.inHand_eq hfrom]
    · rw [Channel.waiting, Channel.waiting, hheld]
  | received command rest hpc hqueue =>
    have hfrom : ch.command.sending = false := by simp [hpc, CommandPc.sending]
    refine .quiet rfl rfl rfl ?_ ?_ (fun hdoomed =>
      absurd hdoomed (ht.not_doomed (by simp [hpc, CommandPc.live]) hfrom))
    · simp [Channel.inHand, hpc, CommandPc.following]
    · simp [Channel.waiting, hpc, hqueue, CommandPc.held]
  | admittedData bytes hpc =>
    have hfrom : ch.command.sending = false := by simp [hpc, CommandPc.sending]
    obtain ⟨hhand, hwaiting⟩ := Channel.inHand_sendStreamData hsize bytes
    refine .passed (.data bytes) (ht.not_doomed (by simp [hpc, CommandPc.live]) hfrom) rfl rfl rfl
      (ht.inHand_eq hfrom) hhand ?_
    rw [hwaiting, Channel.waiting, hpc]
    rfl
  | admittedControl payloadType data hpc =>
    have hfrom : ch.command.sending = false := by simp [hpc, CommandPc.sending]
    refine .passed (.control payloadType data)
      (ht.not_doomed (by simp [hpc, CommandPc.live]) hfrom) rfl rfl rfl (ht.inHand_eq hfrom) rfl ?_
    rw [Channel.waiting, hpc]
    rfl
  | chunkSent rest hpc hslot =>
    obtain ⟨hhand, hwaiting⟩ := Channel.inHand_sendStreamData hsize rest
    refine .quiet rfl rfl rfl ?_ ?_ (fun hdoomed => absurd hdoomed
      (Channel.not_doomed (by simp [hpc, CommandPc.live]) (by simp [hslot])))
    · rw [hhand, Channel.inHand, hpc, hslot]
      rfl
    · rw [hwaiting, Channel.waiting, hpc]
      rfl
  | controlSent hpc hslot =>
    refine .quiet rfl rfl rfl ?_ ?_ (fun hdoomed => absurd hdoomed
      (Channel.not_doomed (by simp [hpc, CommandPc.live]) (by simp [hslot])))
    · rw [Channel.inHand, Channel.inHand, hpc, hslot]
      rfl
    · rw [Channel.waiting, Channel.waiting, hpc]
      rfl
  | failed e hpc hslot => exact .gaveUp rfl rfl rfl (.inl rfl)
  | ended core hpc hcore => exact .gaveUp rfl rfl rfl (.inl rfl)
  | aborted hpc hslot => exact .gaveUp rfl rfl rfl (.inl rfl)

/-- Events of other tasks say nothing about commands. -/
lemma Outcome.nothing_of_events (h : ∀ e ∈ o.events, e.command = none ∧ e.sent = none ∧
    e.passed = none) : o.accepted = [] ∧ o.sent = [] ∧ o.passed = [] := by
  have hsent : o.events.filterMap Event.sent = [] :=
    List.filterMap_eq_nil_iff.mpr (fun e he => (h e he).2.1)
  refine ⟨List.filterMap_eq_nil_iff.mpr (fun e he => (h e he).1), ?_,
    List.filterMap_eq_nil_iff.mpr (fun e he => (h e he).2.2)⟩
  rw [Outcome.sent, hsent]
  rfl

lemma Event.nothing_of_isInbound {e : Event} (h : e.isInbound = true) :
    e.command = none ∧ e.sent = none ∧ e.passed = none := by
  cases e <;> simp_all [Event.isInbound, Event.command, Event.sent, Event.passed]

lemma ReaderStep.nothing (h : ReaderStep c k ch o) :
    o.accepted = [] ∧ o.sent = [] ∧ o.passed = [] := by
  cases h with
  | inward inbound ch' events hfrom hslot hkept hevents =>
    exact Outcome.nothing_of_events (fun e he => Event.nothing_of_isInbound (hevents e he))
  | called payloadType payload ch' events hfrom hto hslot htype hkept hevents =>
    exact Outcome.nothing_of_events (fun e he => Event.nothing_of_isInbound (hevents e he))
  | _ => exact ⟨rfl, rfl, rfl⟩

lemma BackgroundStep.nothing (h : BackgroundStep k ch o) :
    o.accepted = [] ∧ o.sent = [] ∧ o.passed = [] := by
  obtain ⟨outgoing, core, aborted, queue, writer, heartbeat, retransmit, events, -, -, -, -, -,
    hevents⟩ := h
  refine Outcome.nothing_of_events (fun e he => ?_)
  obtain ⟨n, w, rfl, -⟩ := hevents e he
  exact ⟨rfl, rfl, rfl⟩

lemma ReaderStep.pipeline (h : ReaderStep c k ch o) : PipelineStep ch o := by
  have hkept := h.kept
  obtain ⟨haccepted, hsent, hpassed⟩ := h.nothing
  exact .of_kept haccepted hsent hpassed hkept.command hkept.commandQueue hkept.commandSend
    hkept.chunkSize

lemma BackgroundStep.pipeline (h : BackgroundStep k ch o) : PipelineStep ch o := by
  obtain ⟨haccepted, hsent, hpassed⟩ := h.nothing
  cases h
  exact .of_kept haccepted hsent hpassed rfl rfl rfl rfl

/-- What an operation does to the messages of the command task. -/
theorem ChannelStep.pipeline (h : ChannelStep env c k ch o) (ht : ch.Tidy)
    (hsize : 1 ≤ ch.chunkSize) : PipelineStep ch o := by
  cases h with
  | send who h => exact h.pipeline ht
  | command h => exact h.pipeline ht hsize
  | reader h => exact h.pipeline
  | background h => exact h.pipeline
  | accepted command hcommand halive h =>
    subst h
    refine .accepted command rfl rfl rfl rfl ?_ (fun hdoomed => hdoomed.congr rfl rfl)
    simp [Channel.waiting]

lemma ChannelStep.chunkSize (h : ChannelStep env c k ch o) :
    o.channel.chunkSize = ch.chunkSize := by
  cases h with
  | send who h => exact h.frame.chunkSize
  | command h => exact h.frame.chunkSize
  | reader h => exact h.kept.chunkSize
  | background h =>
    cases h
    rfl
  | accepted command hcommand halive h => rw [h]

end

/-! ## What a channel has sent -/

/-- What the command task of a channel needs to work. -/
structure Channel.Sending (ch : Channel) : Prop where
  tidy : ch.Tidy
  chunkSize : 1 ≤ ch.chunkSize

lemma Channel.Sending.open (config : ChannelConfig) : (Channel.open config).Sending :=
  ⟨.open config, Nat.le_max_left _ _⟩

lemma Channel.Sending.step {env : Env} {c : ℕ} {k : Continuity} {ch : Channel} {o : Outcome}
    (hs : ch.Sending) (h : ChannelStep env c k ch o) : o.channel.Sending :=
  ⟨hs.tidy.step h, h.chunkSize ▸ hs.chunkSize⟩

/-- A channel that accepted `took` and numbered `gave` so far: it has the difference on its way, or
has given up on it. -/
def Channel.Sends (ch : Channel) (took : List Command) (gave : List Bytes) : Prop :=
  took.flatMap (Command.messages ch.chunkSize) =
      gave ++ ch.inHand ++ ch.waiting.flatMap (Command.messages ch.chunkSize) ∨
    (ch.Doomed ∧ gave <+: took.flatMap (Command.messages ch.chunkSize))

section

variable {env : Env} {c : ℕ} {k : Continuity} {ch : Channel} {o : Outcome} {took : List Command}
  {gave : List Bytes}

lemma Channel.Sends.prefix_took (h : ch.Sends took gave) :
    gave <+: took.flatMap (Command.messages ch.chunkSize) := by
  obtain heq | ⟨-, hle⟩ := h
  · rw [heq, List.append_assoc]
    exact List.prefix_append _ _
  · exact hle

lemma Channel.Sends.eq_of_live (h : ch.Sends took gave) (hlive : ¬ ch.Doomed) :
    took.flatMap (Command.messages ch.chunkSize) =
      gave ++ ch.inHand ++ ch.waiting.flatMap (Command.messages ch.chunkSize) := by
  obtain heq | ⟨hdoomed, -⟩ := h
  · exact heq
  · exact absurd hdoomed hlive

/-- **A channel sends in order.**  Every operation keeps what was numbered a prefix of what was
accepted, with the rest on its way or given up. -/
theorem PipelineStep.sends (h : PipelineStep ch o) (hsize : o.channel.chunkSize = ch.chunkSize)
    (hs : ch.Sends took gave) :
    o.channel.Sends (took ++ o.accepted) (gave ++ o.sent) := by
  have hprefix := hs.prefix_took
  unfold Channel.Sends
  rw [hsize]
  cases h with
  | quiet haccepted hsent hpassed hhand hwaiting hdoomed =>
    rw [haccepted, hsent, List.append_nil, List.append_nil, hhand, hwaiting]
    exact hs.imp id (fun h => ⟨hdoomed h.1, h.2⟩)
  | accepted command haccepted hsent hpassed hhand hwaiting hdoomed =>
    rw [haccepted, hsent, List.append_nil, hhand, hwaiting, List.flatMap_append,
      List.flatMap_append]
    obtain heq | ⟨hdead, hle⟩ := hs
    · refine .inl ?_
      rw [heq, List.append_assoc]
    · exact .inr ⟨hdoomed hdead, hle.trans (List.prefix_append _ _)⟩
  | passed command hlive haccepted hsent hpassed hidle hhand hwaiting =>
    have heq := hs.eq_of_live hlive
    refine .inl ?_
    rw [haccepted, hsent, List.append_nil, List.append_nil, heq, hidle, hhand, hwaiting]
    simp
  | sent message hlive haccepted hsent hpassed hhand hwaiting =>
    have heq := hs.eq_of_live hlive
    refine .inl ?_
    rw [haccepted, hsent, List.append_nil, heq, hhand, hwaiting]
    simp
  | gaveUp haccepted hsent hpassed hdoomed =>
    rw [haccepted, hsent, List.append_nil, List.append_nil]
    exact .inr ⟨hdoomed, hprefix⟩

end

/-! ## Runs -/

namespace System

/-- What happened on one channel, in order. -/
def eventsOn (s : System) (c : ℕ) : List Event :=
  (s.log.filter (fun x => x.1 == c)).map Prod.snd

/-- The commands one channel accepted, in the order they were queued. -/
def commandsOn (s : System) (c : ℕ) : List Command := (s.eventsOn c).filterMap Event.command

/-- The messages the command task of one channel got numbers for. -/
def sentOn (s : System) (c : ℕ) : List Issued := (s.eventsOn c).filterMap Event.sent

/-- Their plaintexts, by increasing sequence number. -/
def plaintextsOn (s : System) (c : ℕ) : List Bytes :=
  ((s.sentOn c).insertionSort (fun i j => i.sequence ≤ j.sequence)).map (fun i => i.out.plain)

variable {env : Env} {config : ChannelConfig} {s : System} {c : ℕ} {ch : Channel} {o : Outcome}

lemma eventsOn_after_self : (s.after c o).eventsOn c = s.eventsOn c ++ o.events := by
  simp [eventsOn, after, List.filter_map, Function.comp_def]

lemma eventsOn_after_of_ne {c' : ℕ} (h : c' ≠ c) : (s.after c o).eventsOn c' = s.eventsOn c' := by
  simp [eventsOn, after, List.filter_map, Function.comp_def, Ne.symm h]

lemma sentOn_sublist (s : System) (c : ℕ) : (s.sentOn c).Sublist s.issued := by
  have hsent : s.events.filterMap Event.sent =
      s.issued.filter (fun i => decide (i.sender = .command)) := by
    simp only [issued, List.filter_filterMap]
    congr 1
    funext e
    cases e with
    | issued i =>
      by_cases h : i.sender = .command
      · simp [Event.sent, h, Option.filter]
      · simp [Event.sent, h, Option.filter]
    | _ => rfl
  have hevents : (s.eventsOn c).Sublist s.events := List.filter_sublist.map _
  exact (hevents.filterMap Event.sent).trans (hsent ▸ List.filter_sublist)

/-- Messages are numbered in order, so nothing has to be sorted. -/
lemma plaintextsOn_eq (hs : Session env config s) (hk : s.issued.length < 2 ^ 63) (c : ℕ) :
    s.plaintextsOn c = (s.sentOn c).map (fun i => i.out.plain) := by
  have hsorted : (s.sentOn c).Pairwise (fun i j => i.sequence ≤ j.sequence) :=
    ((System.pairwise_issued hs hk).sublist (s.sentOn_sublist c)).imp Int64.le_of_lt
  rw [plaintextsOn, hsorted.insertionSort_eq]

/-- Every channel sends its commands in order. -/
structure SendsInOrder (s : System) : Prop where
  channels : ∀ (c : ℕ) (ch : Channel), s.channels[c]? = some ch →
    ch.Sends (s.commandsOn c) ((s.sentOn c).map (fun i => i.out.plain))
  unopened : ∀ c, s.channels.length ≤ c → s.eventsOn c = []

lemma SendsInOrder.start (config : ChannelConfig) : (System.start config).SendsInOrder where
  channels c ch hch := by
    rw [channel_start hch]
    exact .inl rfl
  unopened _ _ := rfl

lemma SendsInOrder.after (h : s.SendsInOrder) (hsending : s.Each Channel.Sending)
    (hch : s.channels[c]? = some ch) (hstep : ChannelStep env c s.cont ch o) :
    (s.after c o).SendsInOrder := by
  have hready := hsending c ch hch
  refine ⟨?_, ?_⟩
  · intro c' ch' hch'
    obtain ⟨rfl, rfl⟩ | ⟨hne, hold⟩ := channel_after hch'
    · have hsends := (hstep.pipeline hready.tidy hready.chunkSize).sends hstep.chunkSize
        (h.channels c' ch hch)
      simpa only [commandsOn, sentOn, eventsOn_after_self, List.filterMap_append, List.map_append,
        Outcome.accepted, Outcome.sent] using hsends
    · rw [commandsOn, sentOn, eventsOn_after_of_ne hne]
      exact h.channels c' ch' hold
  · intro c' hc'
    have hlen : (s.after c o).channels.length = s.channels.length := List.length_set
    have hlt : c < s.channels.length := (List.getElem?_eq_some_iff.mp hch).1
    rw [eventsOn_after_of_ne (by omega)]
    exact h.unopened c' (hlen ▸ hc')

lemma SendsInOrder.resumed (h : s.SendsInOrder) : (s.resumed config).SendsInOrder where
  channels c ch hch := by
    obtain ⟨rfl, rfl⟩ | hold := channel_resumed hch
    · have hnone : (s.resumed config).eventsOn s.channels.length = [] :=
        h.unopened s.channels.length (Nat.le_refl _)
      refine .inl ?_
      rw [commandsOn, sentOn, hnone]
      rfl
    · exact h.channels c ch hold
  unopened c hc := by
    simp only [System.resumed, List.length_append, List.length_singleton] at hc
    exact h.unopened c (by omega)

theorem sendsInOrder_of_session (hs : Session env config s) : s.SendsInOrder := by
  refine Reachable.invariant_with (Q := fun s => s.Each Channel.Sending) ?_ (.start config) ?_ hs
  · intro s hs
    exact channels_invariant .open (fun c k ch o hsending h => hsending.step h) hs
  · intro s l s' hsending ih hstep _
    obtain ⟨c, a, ch, o, -, hch, ho, rfl⟩ | ⟨config', -, -, rfl⟩ := System.step_cases hstep
    · exact ih.after hsending hch (perform_cases ho)
    · exact ih.resumed

end System

/-- The command task has dealt with everything that was queued, and has not failed. -/
def Channel.Processed (ch : Channel) : Prop :=
  ch.commandQueue = [] ∧ (ch.command = .select ∨ ch.command = .polled)

/-! ## The chunk loop -/

/-- A call of `send_payload` returns to the command task of channel `c`. -/
def Label.returnsTo (c : ℕ) : Label → Bool
  | .act c' .commandReturn => c' == c
  | _ => false

/-- The bytes after the chunk being sent, when the command task is in the chunk loop. -/
def Channel.inLoop (ch : Channel) : Option Bytes :=
  match ch.command with
  | .streaming rest => some rest
  | _ => none

/-- The same for channel `c` of a session. -/
def System.inLoop (s : System) (c : ℕ) : Option Bytes := s.channels[c]?.bind Channel.inLoop

section

variable {env : Env} {config : ChannelConfig} {c : ℕ} {k : Continuity} {ch : Channel} {o : Outcome}
  {rest rest' : Bytes}

lemma Channel.inLoop_eq_some : ch.inLoop = some rest ↔ ch.command = .streaming rest := by
  unfold Channel.inLoop
  cases ch.command <;> simp

/-- The next round, if there is one, has fewer bytes to go. -/
lemma Channel.inLoop_sendStreamData (hsize : 1 ≤ ch.chunkSize)
    (hloop : (ch.sendStreamData rest).inLoop = some rest') : rest'.length < rest.length := by
  unfold Channel.sendStreamData at hloop
  split at hloop
  · cases hloop
  · next hne =>
    cases hloop
    exact length_drop_lt hsize hne

/-- No operation lengthens what is left in the loop. -/
lemma ChannelStep.inLoop_le (h : ChannelStep env c k ch o) (hsize : 1 ≤ ch.chunkSize)
    (hloop : ch.inLoop = some rest) (hloop' : o.channel.inLoop = some rest') :
    rest'.length ≤ rest.length := by
  have hsame : o.channel.command = ch.command → rest'.length ≤ rest.length := by
    intro hcommand
    rw [Channel.inLoop, hcommand, ← Channel.inLoop, hloop] at hloop'
    cases hloop'
    exact Nat.le_refl _
  have hpc := Channel.inLoop_eq_some.mp hloop
  cases h with
  | send who h => exact hsame h.frame.command
  | command h =>
    cases h with
    | chunkSent data hpc' hslot =>
      rw [hpc] at hpc'
      cases hpc'
      exact Nat.le_of_lt (Channel.inLoop_sendStreamData hsize hloop')
    | moved pc hfrom hto hheld hlive hlive' => simp [hpc, CommandPc.sending] at hfrom
    | received command more hpc' hqueue => simp [hpc] at hpc'
    | admittedData bytes hpc' => simp [hpc] at hpc'
    | admittedControl payloadType data hpc' => simp [hpc] at hpc'
    | _ => cases hloop'
  | reader h => exact hsame h.kept.command
  | background h =>
    cases h
    exact hsame rfl
  | accepted command hcommand halive h =>
    subst h
    exact hsame rfl

/-- Every return of a call shortens it. -/
lemma inLoop_lt_of_commandReturn (h : commandReturn k ch = some o) (hsize : 1 ≤ ch.chunkSize)
    (hloop : ch.inLoop = some rest) (hloop' : o.channel.inLoop = some rest') :
    rest'.length < rest.length := by
  have hpc := Channel.inLoop_eq_some.mp hloop
  unfold commandReturn at h
  rw [hpc] at h
  split at h
  · next data _ hdata _ =>
    cases hdata
    cases h
    exact Channel.inLoop_sendStreamData hsize hloop'
  · next hcontrol _ => cases hcontrol
  · next hdata _ =>
    cases hdata
    cases h
    cases hloop'
  · next hcontrol _ => cases hcontrol
  · cases h

/-- How many bytes channel `c` has left in the loop. -/
def System.leftInLoop (s : System) (c : ℕ) : ℕ := ((s.inLoop c).map List.length).getD 0

/-- A step lowers the measure of a loop that goes on when it returns to it, and never raises it. -/
lemma System.leftInLoop_step {s s' : System} {l : Label} (hs : Session env config s)
    (hin : (s.inLoop c).isSome = true) (hstep : System.step env s l = some s')
    (hin' : (s'.inLoop c).isSome = true) :
    s'.leftInLoop c + (if l.returnsTo c then 1 else 0) ≤ s.leftInLoop c := by
  obtain ⟨r, hr⟩ := Option.isSome_iff_exists.mp hin
  obtain ⟨r', hr'⟩ := Option.isSome_iff_exists.mp hin'
  rw [leftInLoop, leftInLoop, hr, hr']
  obtain ⟨ch, hch, hloop⟩ := Option.bind_eq_some_iff.mp hr
  obtain ⟨ch', hch', hloop'⟩ := Option.bind_eq_some_iff.mp hr'
  have hready : ch.Sending :=
    channels_invariant .open (fun c k ch o hsending h => hsending.step h) hs c ch hch
  have hsame : ch' = ch → r' = r := by
    rintro rfl
    exact Option.some_inj.mp (hloop'.symm.trans hloop)
  obtain ⟨c', a, ch₁, o, rfl, hch₁, ho, rfl⟩ | ⟨config', rfl, -, rfl⟩ := System.step_cases hstep
  · by_cases hc : c' = c
    · subst hc
      obtain rfl : ch = ch₁ := Option.some_inj.mp (hch.symm.trans hch₁)
      obtain rfl : o.channel = ch' :=
        Option.some_inj.mp ((System.channel_after_self hch).symm.trans hch')
      cases a with
      | commandReturn =>
        have hlt := inLoop_lt_of_commandReturn ho hready.chunkSize hloop hloop'
        simp only [Label.returnsTo, beq_self_eq_true, if_true]
        exact hlt
      | _ => exact (perform_cases ho).inLoop_le hready.chunkSize hloop hloop'
    · rw [System.channel_after_of_ne (Ne.symm hc), hch] at hch'
      rw [hsame (Option.some_inj.mp hch').symm]
      cases a <;> simp [Label.returnsTo, hc]
  · rw [System.resumed, List.getElem?_append_left (List.getElem?_eq_some_iff.mp hch).1, hch] at hch'
    rw [hsame (Option.some_inj.mp hch').symm]
    simp [Label.returnsTo]

/-- **The chunk loop ends.**  Whatever the other tasks do, the command task has left the loop once
more calls of `send_payload` have returned to it than there were bytes left. -/
theorem chunk_loop_left {s s' : System} {labels : List Label} (hs : Session env config s)
    (hloop : s.inLoop c = some rest) (hrun : run (System.step env) s labels = some s')
    (hmany : rest.length < labels.countP (Label.returnsTo c)) :
    ∃ before after t, labels = before ++ after ∧ run (System.step env) s before = some t ∧
      t.inLoop c = none := by
  have hin : (s.inLoop c).isSome = true := by rw [hloop]; rfl
  have hleft : s.leftInLoop c < labels.countP (Label.returnsTo c) := by
    rw [System.leftInLoop, hloop]
    exact hmany
  obtain ⟨before, after, t, hlabels, hbefore, hout⟩ :=
    exists_left_of_run (fun _ _ _ => System.leftInLoop_step) hs hin hrun hleft
  exact ⟨before, after, t, hlabels, hbefore, Option.not_isSome_iff_eq_none.mp hout⟩

end

/-- **Command order and chunking.**  On every channel of every session, in every state of it, the
plaintexts that the command task got numbers for are, by increasing number, a prefix of what the
accepted commands split into, in queue order, and all of it once the queue has been dealt with
without a failure; each is on the wire under its number, in the clear or encrypted; and from
wherever the chunk loop has got to, every run leaves it when more calls of `send_payload` have
returned to it than there were bytes left. -/
theorem commands_in_order {env : Env} {config : ChannelConfig} {s : System}
    (hs : Session env config s) (hk : s.issued.length < 2 ^ 63) {c : ℕ} {ch : Channel}
    (hch : s.channels[c]? = some ch) :
    (∃ pieces : List (List Bytes),
      List.Forall₂ (fun command p => command.SplitsInto ch.chunkSize p) (s.commandsOn c) pieces ∧
      s.plaintextsOn c <+: pieces.flatten ∧
      (ch.Processed → s.plaintextsOn c = pieces.flatten)) ∧
    (∀ i ∈ s.sentOn c, i.out.Carries env ∧
      ∃ stamp, i.wire = (ClientMessage.new env.sha256 stamp .inputStreamData i.sequence
        i.out.payloadType i.out.payload).serialize) ∧
    ∀ (rest : Bytes) (labels : List Label) (s' : System), ch.command = .streaming rest →
      run (System.step env) s labels = some s' →
      rest.length < labels.countP (Label.returnsTo c) →
      ∃ before after t, labels = before ++ after ∧ run (System.step env) s before = some t ∧
        t.inLoop c = none := by
  have hready : ch.Sending :=
    channels_invariant .open (fun c k ch o hsending h => hsending.step h) hs c ch hch
  have hsends := (System.sendsInOrder_of_session hs).channels c ch hch
  rw [System.plaintextsOn_eq hs hk]
  refine ⟨⟨(s.commandsOn c).map (Command.messages ch.chunkSize), ?_, ?_, ?_⟩, ?_, ?_⟩
  · rw [List.forall₂_map_right_iff, List.forall₂_same]
    exact fun command _ => command.splitsInto_messages hready.chunkSize
  · exact hsends.prefix_took
  · rintro ⟨hqueue, hpc⟩
    have hidle : ch.command.sending = false ∧ ch.command.held = none ∧ ch.command.live = true := by
      obtain hpc | hpc := hpc <;> rw [hpc] <;> exact ⟨rfl, rfl, rfl⟩
    obtain ⟨hfrom, hheld, hlive⟩ := hidle
    have heq := hsends.eq_of_live (hready.tidy.not_doomed hlive hfrom)
    rw [hready.tidy.inHand_eq hfrom, Channel.waiting, hheld, hqueue] at heq
    rw [← List.flatMap_def, heq]
    simp
  · intro i hi
    have hissued := (s.sentOn_sublist c).subset hi
    exact ⟨(issued_wired hs i hissued).1, exists_wire_eq hs hissued⟩
  · intro rest labels s' hpc hrun hmany
    have hloop : s.inLoop c = some rest := by
      rw [System.inLoop, hch]
      exact Channel.inLoop_eq_some.mpr hpc
    exact chunk_loop_left hs hloop hrun hmany

/-- The rest of a call, and the command task going on. -/
def returning : List Action := [.write .command, .commandReturn]

/-- Three bytes are to go out in chunks of two, with a terminal size behind them, and the first chunk
has been handed to the writer. -/
def firstChunk : List Label :=
  onChannel 0 (receiving startPublication ++
    ([.sendData [97, 98, 99], .sendTerminalSize [9]] : List Action) ++ admitting ++
    numbering .command ++ ([.write .command] : List Action))

/-- The command task sends the second chunk and leaves the loop. -/
def secondChunk : List Label :=
  onChannel 0 ([.commandReturn] ++ numbering .command ++ returning)

def chunkedRun : List Label :=
  firstChunk ++ secondChunk ++ onChannel 0 (admitting ++ numbering .command ++ returning)

theorem commands_in_order_chunked :
    (∃ s ch, Session sampleEnv { sampleConfig with payloadChunkSize := 2 } s ∧
      s.channels[0]? = some ch ∧ ch.Processed ∧ s.plaintextsOn 0 = [[97, 98], [99], [9]] ∧
      (∃ pieces : List (List Bytes),
        List.Forall₂ (fun (command : Command) p => command.SplitsInto ch.chunkSize p)
          [Command.data [97, 98, 99], .control .size [9]] pieces ∧
        s.plaintextsOn 0 = pieces.flatten) ∧
      ∀ i ∈ s.sentOn 0, i.out.Carries sampleEnv) ∧
    ∃ s ch s', Session sampleEnv { sampleConfig with payloadChunkSize := 2 } s ∧
      s.channels[0]? = some ch ∧ ch.command = .streaming [99] ∧
      run (System.step sampleEnv) s secondChunk = some s' ∧
      ∃ before after t, secondChunk = before ++ after ∧
        run (System.step sampleEnv) s before = some t ∧ t.inLoop 0 = none := by
  have hall : (run (System.step sampleEnv)
      (System.start { sampleConfig with payloadChunkSize := 2 }) chunkedRun).any
      (fun (s : System) => decide (s.commandsOn 0 = [.data [97, 98, 99], .control .size [9]] ∧
        s.plaintextsOn 0 = [[97, 98], [99], [9]] ∧ s.issued.length = 3 ∧
        s.channels.map (fun ch => ch.commandQueue) = [[]] ∧
        s.channels.map (fun ch => ch.command) = [.select])) = true := by
    decide +kernel
  have hfirst : (run (System.step sampleEnv)
      (System.start { sampleConfig with payloadChunkSize := 2 }) firstChunk).any
      (fun (s : System) => decide (s.issued.length = 1 ∧
          s.channels.map (fun ch => ch.command) = [.streaming [99]]) &&
        (run (System.step sampleEnv) s secondChunk).isSome) = true := by
    decide +kernel
  refine ⟨?_, ?_⟩
  · obtain ⟨s, hs, hp⟩ := exists_of_run hall
    obtain ⟨hcommands, hplain, hissued, hqueues, hpcs⟩ := of_decide_eq_true hp
    obtain ⟨ch, hchannels, hqueue⟩ := List.map_eq_singleton_iff.mp hqueues
    have hch : s.channels[0]? = some ch := by rw [hchannels]; rfl
    have hpc : ch.command = .select := by simpa [hchannels] using hpcs
    obtain ⟨⟨pieces, hsplit, -, heq⟩, hwire, -⟩ :=
      commands_in_order hs (by rw [hissued]; decide) hch
    have hprocessed : ch.Processed := ⟨hqueue, .inl hpc⟩
    exact ⟨s, ch, hs, hch, hprocessed, hplain, ⟨pieces, hcommands ▸ hsplit, heq hprocessed⟩,
      fun i hi => (hwire i hi).1⟩
  · obtain ⟨s, hs, hp⟩ := exists_of_run hfirst
    obtain ⟨hp, hrun⟩ := (Bool.and_eq_true _ _).mp hp
    obtain ⟨hissued, hpcs⟩ := of_decide_eq_true hp
    obtain ⟨s', hs'⟩ := Option.isSome_iff_exists.mp hrun
    obtain ⟨ch, hchannels, hpc⟩ := List.map_eq_singleton_iff.mp hpcs
    have hch : s.channels[0]? = some ch := by rw [hchannels]; rfl
    obtain ⟨-, -, hloop⟩ := commands_in_order hs (by rw [hissued]; decide) hch
    exact ⟨s, ch, s', hs, hch, hpc, hs', hloop [99] secondChunk s' hpc hs' (by decide)⟩

end SsmBridge
