import SsmBridge.Construction.Attached
import SsmBridge.Properties.CommandOrder
import SsmBridge.Properties.DurableOutput
import SsmBridge.Properties.Shell
import Mathlib.Logic.Relation

/-!
# The interactive shell on a channel

`Construction.Interactive` has the shell beside a session that changes on its own
(`Shell.sessionStep`), and all that is proved of the shell is proved of it there.  Here that session
is a channel of `System`, in the machine of `Construction.Attached`: whatever the tasks of the
channel do, those of the other channels and the other handles of the session, the session of the
shell can do too (`Shell.follows`), and what the task of the shell asks for, the channel can do
(`Acts.asks`, `Asks.answered`).  So the shell on a channel is a run of `Shell.step`, and it is
offered what the channel hands over from its subscription on (`shell_on_channel`).

A delivery changes the core of its channel in several ways; `perform_core` reduces every operation
to single changes, and `perform_queueChange` says what it does to the command queue.
-/

namespace SsmBridge

open Machine

/-! ## Changes of the core -/

/-- A single change of the core. -/
inductive SessionCore.Change (core : SessionCore) : SessionCore → Prop
  | sendable (sendable : Bool) : Change core (core.setSendable sendable)
  | emitted (data : Bytes) : Change core (core.emitOutput data)
  | agentVersion (version : Option String) : Change core (core.setAgentVersion version)
  | banner (banner : Option String) : Change core (core.setSessionBanner banner)
  | exitCode (code : Option ℤ) : Change core (core.setExitCode code)
  | closed (reason : CloseReason) : Change core (core.close reason)

/-- Any number of them. -/
abbrev SessionCore.Changes : SessionCore → SessionCore → Prop :=
  Relation.ReflTransGen SessionCore.Change

variable {env : Env} {c : ℕ} {k : Continuity} {ch : Channel} {o : Outcome} {a : Action}

lemma Closing.changes {core core' : SessionCore} (h : Closing core core') : core.Changes core' := by
  obtain rfl | ⟨reason, rfl⟩ := h
  · exact .refl
  · exact .single (.closed reason)

lemma CoreChange.changes {core core' : SessionCore} (h : CoreChange core core') :
    core.Changes core' := by
  cases h with
  | none => exact .refl
  | gate sendable => exact .single (.sendable sendable)
  | closed exitCode detail => exact .single (.closed _)

lemma Delivered.changes {v : ReaderView} {m : ClientMessage}
    {r : Delivery × ReaderView × Option Bytes} (h : Delivered env v m r) :
    v.core.Changes r.2.1.core := by
  cases h with
  | opened => exact .single (.sendable true)
  | emitted payload hpayload => exact .tail (.single (.sendable true)) (.emitted payload)
  | rejected e core handshake hcore =>
    obtain rfl | rfl := hcore
    · exact .refl
    · exact .single (.sendable true)
  | request request => exact .refl
  | completed handshake banner => exact .tail (.single (.banner banner)) (.sendable true)
  | challenged payload => exact .refl
  | exited code => exact .single (.exitCode code)
  | terminated code => exact .single (.closed _)
  | ignored => exact .refl

lemma replySent_changes (v : ReaderView) (after : AfterReply) :
    v.core.Changes (replySent v after).2.core := by
  cases after with
  | fail errors => exact .refl
  | install => exact .single (.agentVersion _)
  | answered => exact .refl

lemma reader_changes (ha : a.task = .reader) (h : perform env c k ch a = some o) :
    ch.core.Changes o.channel.core := by
  cases a <;> simp only [Action.task, reduceCtorEq] at ha <;> simp only [perform] at h
  case readerPoll =>
    unfold readerPoll at h
    split at h <;> cases h
    exact .refl
  case readerFrame now frame =>
    obtain ⟨-, hout⟩ := readerFrame_cases h
    cases hout with
    | control core hcore => exact hcore.changes
    | _ => exact .refl
  case readerRoute =>
    unfold readerRoute at h
    split at h <;> cases h
    exact .refl
  case readerStore =>
    unfold readerStore at h
    split at h
    · split at h <;> cases h <;> exact .refl
    · cases h
  case readerAck stamp =>
    obtain ⟨m, queue, events, reader, -, -, rfl⟩ := readerAck_cases h
    exact .refl
  case readerDeliver nonce =>
    obtain ⟨m, d, v, output, -, hd, hcase⟩ := readerDeliver_cases h
    have hdel := deliver_cases env nonce (readerView k ch) m
    rw [hd] at hdel
    obtain ⟨p, -, rfl⟩ | ⟨request, events, -, -, rfl⟩ := hcase
    · rw [progress_eq]
      exact hdel.changes
    · exact hdel.changes
  case readerNegotiated =>
    obtain ⟨m, request, p, v, calls, -, -, rfl⟩ := readerNegotiated_cases h
    rw [progress_eq]
  case readerReplied =>
    obtain ⟨m, after, -, ⟨-, result, v, hv, rfl⟩ | ⟨e, -, rfl⟩⟩ := readerReplied_cases h
    · have hcore := replySent_changes (readerView k ch) after
      rw [hv] at hcore
      rw [progress_eq]
      exact hcore
    · rw [progress_eq]
  case readerAdvance =>
    unfold readerAdvance at h
    split at h <;> cases h
    exact .refl
  case readerTake =>
    unfold readerTake at h
    split at h <;> cases h
    exact .refl
  case readerClose =>
    unfold readerClose at h
    split at h <;> cases h
    exact .single (.closed _)
  case readerAbort =>
    unfold readerAbort at h
    split at h
    · cases h
      exact .refl
    · split at h <;> cases h
      exact .refl
    · split at h <;> cases h
      exact .refl
    · cases h

/-- What an operation does to the core. -/
theorem perform_core (h : perform env c k ch a = some o) : ch.core.Changes o.channel.core := by
  have hbackground : BackgroundStep k ch o → ch.core.Changes o.channel.core := by
    rintro ⟨outgoing, core, aborted, queue, writer, heartbeat, retransmit, events, -, -, hcore⟩
    exact hcore.changes
  cases ha : a.task with
  | send who =>
    rw [(send_cases ha h).frame.core]
  | writer => exact hbackground (writer_cases ha h)
  | heartbeat => exact hbackground (heartbeat_cases ha h)
  | retransmit => exact hbackground (retransmit_cases ha h)
  | command => exact (command_cases ha h).frame.core.changes
  | reader => exact reader_changes ha h
  | handle =>
    cases handle_cases ha h with
    | accepted command hcommand halive => exact .refl
    | ended hb => exact hbackground hb

lemma SessionCore.Changes.capacity {core core' : SessionCore} (h : core.Changes core') :
    core'.subscriberCapacity = core.subscriberCapacity := by
  induction h with
  | refl => rfl
  | tail _ hchange ih =>
    rw [← ih]
    cases hchange with
    | exitCode code =>
      unfold SessionCore.setExitCode
      split <;> rfl
    | closed reason =>
      unfold SessionCore.close
      split <;> rfl
    | _ => rfl

/-- Only the drop of the handle aborts a channel. -/
lemma perform_aborted (ha : a ≠ .drop) (h : perform env c k ch a = some o) :
    o.channel.aborted = ch.aborted := by
  cases htask : a.task with
  | send who => exact (send_cases htask h).frame.aborted
  | command => exact (command_cases htask h).frame.aborted
  | reader => exact (reader_cases htask h).kept.aborted
  | writer | heartbeat | retransmit | handle =>
    cases a <;> simp only [Action.task, reduceCtorEq] at htask <;>
      simp only [perform, writerPoll, writerRecv, writerSent, writerFailed, writerFinish,
        writerAbort, heartbeatPoll, heartbeatTick, heartbeatAbort, retransmitPoll, retransmitTick,
        retransmitWrite, retransmitStop, retransmitAbort, sendData, sendTerminalSize,
        SsmBridge.dispatch, terminate, Channel.tryWrite] at h <;>
      (try contradiction) <;> (repeat' split at h) <;> cases h <;> rfl

/-! ## The command queue -/

/-- What an operation does to the command queue of its channel. -/
inductive QueueChange (ch : Channel) (o : Outcome) : Prop
  | kept (hqueue : o.channel.commandQueue = ch.commandQueue)
      (hended : o.channel.command = .ended ↔ ch.command = .ended)
  | queued (command : Command) (hqueue : o.channel.commandQueue = ch.commandQueue ++ [command])
      (hopen : ch.command ≠ .ended) (hended : o.channel.command = ch.command)
  | taken (command : Command) (hqueue : ch.commandQueue = command :: o.channel.commandQueue)
      (hended : o.channel.command = .ended ↔ ch.command = .ended)
  | dropped (hqueue : o.channel.commandQueue = []) (hended : o.channel.command = .ended)
      (hclosed : o.channel.core.isClosed = true)

lemma QueueChange.sendStreamData {data : Bytes} {cont : Continuity} {events : List Event}
    (hlive : ch.command ≠ .ended) : QueueChange ch ⟨cont, ch.sendStreamData data, events⟩ := by
  unfold Channel.sendStreamData
  split <;> exact .kept rfl (by simp [hlive])

lemma command_queueChange (hab : ch.aborted = true → ch.core.isClosed = true)
    (ha : a.task = .command) (h : perform env c k ch a = some o) : QueueChange ch o := by
  cases a <;> simp only [Action.task, reduceCtorEq] at ha <;> simp only [perform] at h
  case commandPoll =>
    unfold commandPoll at h
    split at h
    · next hpc =>
      split at h <;> cases h
      · next hclosed => exact .dropped rfl rfl hclosed
      · exact .kept rfl (by simp [hpc])
    · cases h
  case commandRecv =>
    unfold commandRecv at h
    split at h
    · next command rest hpc hqueue =>
      cases h
      exact .taken command hqueue (by simp [hpc])
    · next hpc hqueue =>
      split at h <;> cases h
      · next haborted => exact .dropped rfl rfl (hab haborted)
      · exact .kept rfl (by simp [hpc])
    · cases h
  case commandGate =>
    unfold commandGate at h
    split at h
    · next command hpc =>
      split at h <;> cases h
      · next hclosed => exact .dropped rfl rfl hclosed
      · exact .kept rfl (by simp [hpc])
    · cases h
  case commandAdmit =>
    unfold commandAdmit at h
    split at h
    · next command hpc =>
      split at h <;> cases h
      · cases command with
        | data bytes => exact .sendStreamData (by simp [hpc])
        | control payloadType data => exact .kept rfl (by simp [hpc])
      · exact .kept rfl (by simp [hpc])
    · cases h
  case commandReturn =>
    unfold commandReturn at h
    split at h <;> cases h
    · next hpc hslot => exact .sendStreamData (by simp [hpc])
    · next hpc hslot => exact .kept rfl (by simp [hpc])
    · next hpc hslot => exact .kept rfl (by simp [hpc])
    · next hpc hslot => exact .kept rfl (by simp [hpc])
  case commandFail =>
    unfold commandFail at h
    split at h <;> cases h
    exact .dropped rfl rfl (SessionCore.isClosed_of_close _ _)
  case commandAbort =>
    unfold commandAbort at h
    split at h
    · next haborted _ =>
      cases h
      exact .dropped rfl rfl (hab haborted)
    · next haborted _ =>
      cases h
      exact .dropped rfl rfl (hab haborted)
    · next haborted _ =>
      split at h <;> cases h
      exact .dropped rfl rfl (hab haborted)
    · next haborted _ =>
      split at h <;> cases h
      exact .dropped rfl rfl (hab haborted)
    · cases h

/-- What an operation does to the command queue. -/
theorem perform_queueChange (hab : ch.aborted = true → ch.core.isClosed = true)
    (h : perform env c k ch a = some o) : QueueChange ch o := by
  have hbackground : BackgroundStep k ch o → QueueChange ch o := by
    rintro ⟨outgoing, core, aborted, queue, writer, heartbeat, retransmit, events⟩
    exact .kept rfl Iff.rfl
  cases htask : a.task with
  | send who =>
    have hframe := (send_cases htask h).frame
    exact .kept hframe.commandQueue (by rw [hframe.command])
  | writer => exact hbackground (writer_cases htask h)
  | heartbeat => exact hbackground (heartbeat_cases htask h)
  | retransmit => exact hbackground (retransmit_cases htask h)
  | command => exact command_queueChange hab htask h
  | reader =>
    have hkept := (reader_cases htask h).kept
    exact .kept hkept.commandQueue (by rw [hkept.command])
  | handle =>
    cases handle_cases htask h with
    | accepted command hcommand halive => exact .queued command rfl halive rfl
    | ended hb => exact hbackground hb

/-! ## The output of a channel -/

lemma SessionCore.Shut.perform (h : ch.core.Shut) (ho : perform env c k ch a = some o) :
    o.channel.core.Shut := by
  cases perform_output ho with
  | quiet hcore hevents => exact h.quiet hcore
  | emitted m payload hfrom hto hfanout hreason hevents => exact h.send hfanout hreason

/-- Closing a channel closes its fan-out. -/
lemma System.shut_of_session {config : ChannelConfig} {σ : System} (h : Session env config σ) :
    σ.Each (fun ch => ch.core.Shut) := by
  have hopen (config : ChannelConfig) : (Channel.open config).core.Shut :=
    ⟨rfl, fun _ o ho => by cases ho⟩
  refine h.invariant (P := fun σ : System => σ.Each (fun ch => ch.core.Shut)) ?_ ?_
  · intro c ch hch
    rw [System.channel_start hch]
    exact hopen config
  · intro σ l σ' hσ hstep _ c ch' hch'
    obtain ⟨c₀, act, ch, o, -, hch, ho, rfl⟩ | ⟨config', -, -, rfl⟩ := System.step_cases hstep
    · obtain ⟨rfl, rfl⟩ | ⟨-, hold⟩ := System.channel_after hch'
      · exact (hσ _ ch hch).perform ho
      · exact hσ c ch' hold
    · obtain ⟨-, rfl⟩ | hold := System.channel_resumed hch'
      · exact hopen config'
      · exact hσ c ch' hold

/-- The stream that is dropped is not attached again. -/
lemma SessionCore.Shut.dropStream {core : SessionCore} (h : core.Shut) (i : ℕ) :
    ({ core with fanout := core.fanout.dropStream i } : SessionCore).Shut := by
  refine h.restream rfl rfl fun _ hall o ho => ?_
  obtain ⟨n, hn⟩ := List.getElem?_of_mem ho
  rw [OutputFanout.dropStream, List.getElem?_modify] at hn
  obtain ⟨o₀, ho₀, rfl⟩ := Option.map_eq_some_iff.mp hn
  have hdetached := hall o₀ (List.mem_of_getElem? ho₀)
  split <;> exact hdetached

namespace System

variable {s : System} {c' : ℕ}

lemma payloadsOn_append (s : System) (c : ℕ) (cont : Continuity) (channels : List Channel)
    (events : List Event) :
    System.payloadsOn ⟨cont, channels, s.log ++ events.map (fun e => (c, e))⟩ c =
      s.payloadsOn c ++ events.filterMap (fun e => e.output.map Prod.snd) := by
  simp [payloadsOn, List.filterMap_append, List.filterMap_map]

lemma payloadsOn_append_of_ne (hne : c' ≠ c) (cont : Continuity) (channels : List Channel)
    (events : List Event) :
    System.payloadsOn ⟨cont, channels, s.log ++ events.map (fun e => (c', e))⟩ c =
      s.payloadsOn c := by
  simp [payloadsOn, List.filterMap_append, List.filterMap_map, hne]

end System

namespace Terminal

/-! ## What the session does -/

namespace Shell

variable {i : Option ℕ} {s s' : Shell}

lemma look_session (hs : s.look ch i = s) : s.session.look ch = s.session :=
  congrArg Shell.session hs

lemma look_output (hs : s.look ch i = s) : i.bind (ch.core.fanout.streams[·]?) = s.output :=
  congrArg Shell.output hs

/-- What an operation hands to the subscribers of its channel. -/
abbrev chunksOf (o : Outcome) : List Bytes := o.events.filterMap (fun e => e.output.map Prod.snd)

/-- The session closes, or not, and then it has the close reason and the fan-out of the channel, and
the subscription holds what the stream holds. -/
structure Follows (s : Shell) (i : Option ℕ) (o : Outcome) (s' : Shell) : Prop where
  run : Reachable sessionStep free s s'
  eq : s' = { s with
    session := { s.session with
      reason := o.channel.core.closeReason
      fanoutClosed := o.channel.core.fanout.closed }
    output := i.bind (o.channel.core.fanout.streams[·]?)
    offered := (s.hear (chunksOf o)).offered }

lemma hear_of_not_receiving (h : s.receiving = false) (chunks : List Bytes) :
    s.hear chunks = s := by
  simp [hear, h]

lemma hear_nil (s : Shell) : s.hear [] = s := by
  simp [hear]

/-- Neither the fan-out nor the close reason changes. -/
lemma Follows.same (hs : s.look ch i = s) (hfanout : o.channel.core.fanout = ch.core.fanout)
    (hreason : o.channel.core.closeReason = ch.core.closeReason)
    (hchunks : s.hear (chunksOf o) = s) : s.Follows i o s where
  run := .refl
  eq := by
    have hsession := look_session hs
    have hreason' : ch.core.closeReason = s.session.reason := congrArg SessionView.reason hsession
    have hclosed : ch.core.fanout.closed = s.session.fanoutClosed :=
      congrArg SessionView.fanoutClosed hsession
    rw [hchunks, hfanout, hreason, hreason', hclosed, look_output hs]

/-- The session closes. -/
lemma Follows.closes (hs : s.look ch i = s) (hshut : ch.core.Shut) {reason : CloseReason}
    (hopen : ch.core.closeReason = none)
    (hfanout : o.channel.core.fanout = ch.core.fanout.close)
    (hreason : o.channel.core.closeReason = some reason) (hchunks : s.hear (chunksOf o) = s) :
    ∃ s', s.Follows i o s' := by
  have hclosed : ch.core.fanout.closed = false := by
    rw [hshut.closed, SessionCore.isClosed, hopen]
    rfl
  have hnone : s.session.reason = none :=
    (congrArg SessionView.reason (look_session hs)).symm.trans hopen
  let s₁ : Shell := { s with session := s.session.close reason }
  let s₂ : Shell := { s₁ with
    session := { s₁.session with fanoutClosed := true }
    output := s₁.output.map (fun o => { o with attached := false }) }
  have h₁ : s.sessionStep (.close reason) = some s₁ := rfl
  have h₂ : s₁.sessionStep .fanoutClose = some s₂ := rfl
  refine ⟨s₂, (Reachable.refl.tail h₁ trivial).tail h₂ trivial, ?_⟩
  have houtput : i.bind (ch.core.fanout.close.streams[·]?) =
      s.output.map (fun o => { o with attached := false }) := by
    rw [← look_output hs]
    cases i with
    | none => rfl
    | some i => simp [OutputFanout.close, hclosed]
  have hall : ch.core.fanout.close.closed = true := by simp [OutputFanout.close, hclosed]
  rw [hchunks, hfanout, hreason, houtput, hall]
  have hfirst : s.session.reason.getD reason = reason := by
    rw [hnone]
    rfl
  simp only [s₂, s₁, SessionView.close, hfirst]

/-- A payload goes to the subscribers. -/
lemma Follows.emits (hs : s.look ch i = s) (hshut : ch.core.Shut) {payload : Bytes}
    (hfanout : o.channel.core.fanout = ch.core.fanout.send payload)
    (hreason : o.channel.core.closeReason = ch.core.closeReason)
    (hchunks : chunksOf o = [payload]) :
    ∃ s', s.Follows i o s' := by
  have hsession := look_session hs
  have hsame : ch.core.fanout.closed = s.session.fanoutClosed :=
    congrArg SessionView.fanoutClosed hsession
  have houtput : i.bind (o.channel.core.fanout.streams[·]?) = s.output.map (.offer payload) := by
    rw [← look_output hs, hfanout]
    cases i with
    | none => rfl
    | some i => simp [OutputFanout.send]
  cases hclosed : ch.core.fanout.closed with
  | true =>
    -- Nobody is listening to a fan-out that is closed.
    have hdetached : ∀ o ∈ ch.core.fanout.streams, o.attached = false :=
      hshut.detached (hshut.closed.symm.trans hclosed)
    have hstreams : ch.core.fanout.send payload = ch.core.fanout := by
      refine congrArg (OutputFanout.mk · _) ((List.map_congr_left fun o ho => ?_).trans
        (List.map_id' _))
      simp [OutputStream.offer, hdetached o ho]
    have hdeaf : s.receiving = false := by
      rw [receiving, ← look_output hs]
      cases i with
      | none => rfl
      | some i =>
        rw [Option.bind_some]
        cases ho : ch.core.fanout.streams[i]? with
        | none => rfl
        | some o => simp [hdetached o (List.mem_of_getElem? ho)]
    exact ⟨s, .same hs (hfanout.trans hstreams) hreason (hear_of_not_receiving hdeaf _)⟩
  | false =>
    have hstep : s.sessionStep (.emit payload) = some { s with
        output := s.output.map (.offer payload)
        offered := if s.receiving then s.offered ++ [payload] else s.offered } := by
      simp only [sessionStep, ← hsame, hclosed, Bool.false_eq_true, if_false]
    refine ⟨_, Reachable.refl.tail hstep trivial, ?_⟩
    have hreason' : ch.core.closeReason = s.session.reason := congrArg SessionView.reason hsession
    have hclosed' : o.channel.core.fanout.closed = s.session.fanoutClosed := by
      rw [hfanout]
      exact hsame
    rw [hchunks, hreason, hreason', hclosed', houtput]
    rfl

/-- The session of the shell goes along with what an operation does to the output. -/
lemma exists_follows (hs : s.look ch i = s) (hshut : ch.core.Shut) (h : OutputStep ch o) :
    ∃ s', s.Follows i o s' := by
  cases h with
  | quiet hcore hevents =>
    have hchunks : chunksOf o = [] := by
      rw [List.filterMap_eq_nil_iff]
      intro e he
      cases e with
      | emitted n p => exact absurd he (hevents n p)
      | _ => rfl
    have hsilent : s.hear (chunksOf o) = s := hchunks ▸ hear_nil s
    obtain ⟨base, rfl | ⟨reason, rfl⟩, hfanout, hreason⟩ := hcore
    · exact ⟨s, .same hs hfanout hreason hsilent⟩
    · cases hopen : ch.core.closeReason with
      | some r =>
        have hsame : ch.core.close reason = ch.core := by rw [SessionCore.close, hopen]
        exact ⟨s, .same hs (by rw [hfanout, hsame]) (by rw [hreason, hsame]) hsilent⟩
      | none =>
        have hclose : ch.core.close reason =
            { ch.core with closeReason := some reason, fanout := ch.core.fanout.close } := by
          rw [SessionCore.close, hopen]
        exact Follows.closes hs hshut hopen (by rw [hfanout, hclose]) (by rw [hreason, hclose])
          hsilent
  | emitted m payload hfrom hto hfanout hreason hevents =>
    exact Follows.emits hs hshut hfanout hreason (by rw [chunksOf, hevents]; rfl)

/-- **The session of the shell goes along with every operation of the channel.** Of the output
nothing happens but that a payload is handed over or the fan-out is closed; the gate, the banner and
the exit code are set to what they are afterwards; and the command queue takes one step at most. -/
theorem follows (hs : s.look ch i = s) (hshut : ch.core.Shut)
    (hab : ch.aborted = true → ch.core.isClosed = true) (h : perform env c k ch a = some o) :
    Reachable sessionStep free s ((s.hear (chunksOf o)).look o.channel i) := by
  obtain ⟨s₁, hrun, rfl⟩ := exists_follows hs hshut (perform_output h)
  have hsession := look_session hs
  have hcapacity : o.channel.core.subscriberCapacity = s.session.subscriberCapacity :=
    (perform_core h).capacity.trans (congrArg SessionView.subscriberCapacity hsession)
  have hcommands : ch.commandQueue = s.session.commands := congrArg SessionView.commands hsession
  have hopen : decide (ch.command ≠ CommandPc.ended) = s.session.commandsOpen :=
    congrArg SessionView.commandsOpen hsession
  -- The gate, the banner and the exit code are set to what they are now.
  let s₂ : Shell := { s with
    session := { s.session with
      sendable := o.channel.core.sendable
      reason := o.channel.core.closeReason
      banner := o.channel.core.banner
      exitCode := o.channel.core.exitCode
      fanoutClosed := o.channel.core.fanout.closed }
    output := i.bind (o.channel.core.fanout.streams[·]?)
    offered := (s.hear (chunksOf o)).offered }
  have hrun₂ : Reachable sessionStep free s s₂ :=
    ((hrun.tail (l := .setSendable o.channel.core.sendable) rfl trivial).tail
      (l := .setBanner o.channel.core.banner) rfl trivial).tail
      (l := .setExitCode o.channel.core.exitCode) rfl trivial
  have hlook : (s.hear (chunksOf o)).look o.channel i = { s₂ with
      session := { s₂.session with
        commands := o.channel.commandQueue
        commandsOpen := decide (o.channel.command ≠ CommandPc.ended) } } := by
    show { s₂ with session := { s₂.session with
      subscriberCapacity := o.channel.core.subscriberCapacity
      commands := o.channel.commandQueue
      commandsOpen := decide (o.channel.command ≠ CommandPc.ended) } } = _
    rw [hcapacity]
  rw [hlook]
  cases perform_queueChange hab h with
  | kept hqueue hended =>
    have hopen' : decide (o.channel.command ≠ CommandPc.ended) = s₂.session.commandsOpen := by
      refine Eq.trans ?_ hopen
      simp [hended]
    rw [hqueue, hcommands, hopen']
    exact hrun₂
  | queued command hqueue hlive hended =>
    have hopen' : s.session.commandsOpen = true := hopen.symm.trans (by simp [hlive])
    refine hrun₂.tail (l := .commandQueued command) ?_ trivial
    rw [sessionStep, if_pos hopen', hqueue, hcommands, hended, hopen]
  | taken command hqueue hended =>
    have hopen' : decide (o.channel.command ≠ CommandPc.ended) = s.session.commandsOpen := by
      refine Eq.trans ?_ hopen
      simp [hended]
    have hhead : s₂.session.commands = command :: o.channel.commandQueue :=
      hcommands.symm.trans hqueue
    refine hrun₂.tail (l := .commandTaken) ?_ trivial
    rw [sessionStep, hhead, hopen']
  | dropped hqueue hended hclosed =>
    refine hrun₂.tail (l := .commandsDropped) ?_ trivial
    have hclosed' : s₂.session.closed = true := hclosed
    rw [sessionStep, if_pos hclosed', hqueue, hended]
    rfl

/-! ## What the shell does -/

/-- What a step of the task does to what it sees of the session, along with what it asks for. -/
inductive Asks (s s' : Shell) : Option SessionCall → Prop
  | nothing (hsession : s'.session = s.session) (houtput : s'.output = s.output)
      (haccepted : s'.accepted = s.accepted) : Asks s s' none
  | subscribe (hnone : s.output = none) (hsession : s'.session = s.session)
      (houtput : s'.output = some s.session.subscribe) (haccepted : s'.accepted = s.accepted) :
      Asks s s' (some .subscribe)
  | recv {o : OutputStream} {chunk : Bytes} {rest : List Bytes} (ho : s.output = some o)
      (hqueue : o.queue = chunk :: rest) (hsession : s'.session = s.session)
      (houtput : s'.output = some { o with queue := rest })
      (haccepted : s'.accepted = s.accepted) : Asks s s' (some .recv)
  | dispatch {command : Command} (hrunning : s.pc.running = true)
      (hopen : s.session.commandsOpen = true) (hroom : s.session.hasRoom = true)
      (hsession : s'.session = { s.session with commands := s.session.commands ++ [command] })
      (houtput : s'.output = s.output) (haccepted : s'.accepted = s.accepted ++ [command]) :
      Asks s s' (some (.dispatch command))
  | terminate (hsession : s'.session = s.session.close .terminated)
      (houtput : s'.output = s.output) (haccepted : s'.accepted = s.accepted) :
      Asks s s' (some .terminate)
  | drop {o : OutputStream} (ho : s.output = some o) (hsession : s'.session = s.session)
      (houtput : s'.output = some { o with queue := [], dropped := true })
      (haccepted : s'.accepted = s.accepted) : Asks s s' (some .drop)

lemma between_self (pc : ShellPc) : SessionCall.between pc pc = none := by
  cases pc <;> rfl

lemma between_abandoned (pc : ShellPc) :
    SessionCall.between pc .abandoned = if pc.pumps then some .drop else none := by
  cases pc <;> rfl

/-- The guard has no part in it. -/
lemma restore_kept (s : Shell) (restored : Bool) :
    (s.restore restored).session = s.session ∧ (s.restore restored).output = s.output ∧
      (s.restore restored).accepted = s.accepted ∧ (s.restore restored).offered = s.offered := by
  unfold restore
  split <;> exact ⟨rfl, rfl, rfl, rfl⟩

/-- Without a pump there is nothing to drop. -/
lemma Shows.dropped (hshows : s.Shows) (hpumps : s.pc.pumps = false) :
    s.dropPump.output = s.output := by
  cases ho : s.output with
  | none => simp [dropPump, ho]
  | some o =>
    have hshowing := hshows.showing o ho
    have hdropped : o.dropped = true := by
      by_contra hd
      have hp := hshowing.pumps (by simpa using hd)
      rw [hpumps] at hp
      cases hp
    have hqueue := (hshowing.dropped hdropped).2
    rw [dropPump, ho]
    refine congrArg some ?_
    rw [← hqueue, ← hdropped]

/-- The pump has a subscription to drop. -/
lemma Shows.asks_drop (hshows : s.Shows) (hpumps : s.pc.pumps = true)
    (hsession : s'.session = s.session) (houtput : s'.output = s.dropPump.output)
    (haccepted : s'.accepted = s.accepted) : s.Asks s' (some .drop) := by
  obtain ⟨o, ho, -⟩ := hshows.exists_output (.inl hpumps)
  exact .drop ho hsession (houtput.trans (by simp [dropPump, ho])) haccepted

/-- **Every step of the task asks for what it does to the session.** What it asks for shows in where
it comes from and goes to, and what it does not ask for it leaves alone. -/
theorem Acts.asks (h : s.Acts s') (hshows : s.Shows) :
    s.Asks s' (SessionCall.between s.pc s'.pc) := by
  cases h with
  | refused hpc | begins hpc | woken hpc | ready hpc | rawFails hpc | sizes hpc | checksSize hpc
  | waitsSize hpc | outputPending hpc | reads hpc | inputPending hpc | parks hpc | unparks hpc
  | writes hpc | checks hpc | waits hpc | leaves hpc | readsReason hpc | readsExitCode hpc
  | returns hpc =>
    rw [hpc]
    exact .nothing rfl rfl rfl
  | notReady hpc | sizeFails hpc =>
    rcases hpc with hpc | hpc <;> rw [hpc] <;> exact .nothing rfl rfl rfl
  | enters hpc =>
    rw [hpc]
    dsimp only
    split <;> exact .nothing rfl rfl rfl
  | sendsSize hpc hopen hroom | sends hpc hopen hroom =>
    have hrunning : s.pc.running = true := by rw [hpc]; rfl
    rw [hpc]
    exact .dispatch hrunning hopen hroom rfl rfl rfl
  | subscribes hpc =>
    have hnone := hshows.before (by rw [hpc]; rfl)
    rw [hpc]
    exact .subscribe hnone rfl rfl rfl
  | shows hpc ho hqueue =>
    rw [hpc]
    exact .recv ho hqueue rfl rfl rfl
  | outputEnds hpc | inputEnds hpc | closes hpc | writeFails hpc =>
    have hpumps : s.pc.pumps = true := by rw [hpc]; rfl
    rw [hpc]
    exact hshows.asks_drop hpumps rfl rfl rfl
  | sendFails hpc =>
    have hpumps : s.pc.pumps = true := by rcases hpc with hpc | hpc <;> rw [hpc] <;> rfl
    rcases hpc with hpc | hpc <;> rw [hpc] <;> exact hshows.asks_drop hpumps rfl rfl rfl
  | @restores how restored hpc =>
    obtain ⟨hsession, houtput, haccepted, -⟩ := s.restore_kept restored
    rw [hpc]
    exact .nothing hsession houtput haccepted
  | @fails e restored hpc =>
    obtain ⟨hsession, houtput, haccepted, -⟩ := s.restore_kept restored
    rw [hpc]
    exact .nothing hsession houtput haccepted
  | terminates hpc =>
    rw [hpc]
    exact .terminate rfl rfl rfl
  | @abandons restored hpc =>
    obtain ⟨hsession, houtput, haccepted, -⟩ := s.dropPump.restore_kept restored
    rw [between_abandoned]
    split
    · next hpumps => exact hshows.asks_drop hpumps hsession houtput haccepted
    · next hpumps =>
      exact .nothing hsession (houtput.trans (hshows.dropped (by simpa using hpumps))) haccepted
  | reader | resizes =>
    rw [between_self]
    exact .nothing rfl rfl rfl

/-- Only the session offers output. -/
lemma Acts.offered (h : s.Acts s') : s'.offered = s.offered := by
  cases h with
  | restores | fails => exact (s.restore_kept _).2.2.2
  | abandons => exact (s.dropPump.restore_kept _).2.2.2
  | _ => rfl

/-- A call is answered by the channel, and the shell sees what it has done. -/
structure Answers (k : Continuity) (ch : Channel) (i : Option ℕ) (s s' : Shell) (call : SessionCall)
    (o : Outcome) (j : Option ℕ) : Prop where
  performed : call.perform k ch i = some (o, j)
  run : Reachable sessionStep free s' (s'.look o.channel j)
  shut : o.channel.core.Shut
  aborted : o.channel.aborted = ch.aborted
  closed : ch.core.isClosed = true → o.channel.core.isClosed = true
  silent : chunksOf o = []
  accepted : s'.accepted = s.accepted ++ o.events.filterMap Event.command
  receiving : call ≠ .subscribe → (s'.look o.channel j).receiving = true → s.receiving = true

/-- The shell's view is a stream of the fan-out. -/
lemma stream_of_look {o : OutputStream} (hs : s.look ch i = s) (ho : s.output = some o) :
    ∃ n, i = some n ∧ ch.core.fanout.streams[n]? = some o := by
  rw [← look_output hs] at ho
  exact Option.bind_eq_some_iff.mp ho

/-- Only the streams of the fan-out change. -/
lemma look_withFanout {fanout : OutputFanout} {j : Option ℕ} (hs : s.look ch i = s)
    (hsession : s'.session = s.session) (hclosed : fanout.closed = ch.core.fanout.closed)
    (houtput : s'.output = j.bind (fanout.streams[·]?)) :
    s'.look (ch.withFanout fanout) j = s' := by
  have hview : s'.session.look (ch.withFanout fanout) = s'.session := by
    rw [hsession]
    refine Eq.trans ?_ (look_session hs)
    show { s.session.look ch with fanoutClosed := fanout.closed } = s.session.look ch
    rw [hclosed]
    rfl
  rw [look, hview]
  exact (congrArg (fun output => { s' with output }) houtput.symm)

/-- The shell sees already what the channel has become. -/
lemma Answers.seen {call : SessionCall} {j : Option ℕ}
    (hperformed : call.perform k ch i = some (o, j)) (hlook : s'.look o.channel j = s')
    (hshut : o.channel.core.Shut)
    (haborted : o.channel.aborted = ch.aborted)
    (hclosed : ch.core.isClosed = true → o.channel.core.isClosed = true) (hsilent : chunksOf o = [])
    (haccepted : s'.accepted = s.accepted ++ o.events.filterMap Event.command)
    (hreceiving : call ≠ .subscribe → s'.receiving = true → s.receiving = true) :
    Answers k ch i s s' call o j where
  performed := hperformed
  run := by
    rw [hlook]
    exact .refl
  shut := hshut
  aborted := haborted
  closed := hclosed
  silent := hsilent
  accepted := haccepted
  receiving hcall := by
    rw [hlook]
    exact hreceiving hcall

lemma Answers.subscribe (hs : s.look ch i = s) (hshut : ch.core.Shut)
    (hsession : s'.session = s.session) (houtput : s'.output = some s.session.subscribe)
    (haccepted : s'.accepted = s.accepted) : ∃ o j, Answers k ch i s s' .subscribe o j := by
  have hlook : s'.look (ch.withFanout (ch.core.fanout.subscribe ch.core.subscriberCapacity).2)
      (some ch.core.fanout.streams.length) = s' := by
    refine look_withFanout hs hsession rfl ?_
    have hcapacity : ch.core.subscriberCapacity = s.session.subscriberCapacity :=
      congrArg SessionView.subscriberCapacity (look_session hs)
    have hclosed : ch.core.fanout.closed = s.session.fanoutClosed :=
      congrArg SessionView.fanoutClosed (look_session hs)
    rw [houtput, SessionView.subscribe, ← hcapacity, ← hclosed]
    simp [OutputFanout.subscribe]
  exact ⟨_, _, .seen rfl hlook (hshut.subscribe _) rfl id rfl (by simpa using haccepted)
    fun hcall => absurd rfl hcall⟩

lemma Answers.recv {out : OutputStream} {chunk : Bytes} {rest : List Bytes} (hs : s.look ch i = s)
    (hshut : ch.core.Shut) (ho : s.output = some out) (hqueue : out.queue = chunk :: rest)
    (hsession : s'.session = s.session) (houtput : s'.output = some { out with queue := rest })
    (haccepted : s'.accepted = s.accepted) : ∃ o j, Answers k ch i s s' .recv o j := by
  obtain ⟨n, rfl, hn⟩ := stream_of_look hs ho
  have hrecv := OutputFanout.recv_of hn hqueue
  have hlt := (List.getElem?_eq_some_iff.mp hn).1
  have hlook : s'.look (ch.withFanout { ch.core.fanout with
      streams := ch.core.fanout.streams.set n { out with queue := rest } }) (some n) = s' :=
    look_withFanout hs hsession rfl (houtput.trans (by simp [hlt]))
  refine ⟨⟨k, ch.withFanout _, []⟩, some n, .seen (by simp [SessionCall.perform, hrecv]) hlook
    (hshut.recv hrecv) rfl id rfl (by simpa using haccepted) fun _ hr => ?_⟩
  simpa [Shell.receiving, houtput, ho] using hr

lemma Answers.drop {out : OutputStream} (hs : s.look ch i = s) (hshut : ch.core.Shut)
    (ho : s.output = some out) (hsession : s'.session = s.session)
    (houtput : s'.output = some { out with queue := [], dropped := true })
    (haccepted : s'.accepted = s.accepted) : ∃ o j, Answers k ch i s s' .drop o j := by
  obtain ⟨n, rfl, hn⟩ := stream_of_look hs ho
  have hlook : s'.look (ch.withFanout (ch.core.fanout.dropStream n)) (some n) = s' :=
    look_withFanout hs hsession rfl (houtput.trans (by simp [OutputFanout.dropStream, hn]))
  refine ⟨⟨k, ch.withFanout _, []⟩, some n, .seen rfl hlook (hshut.dropStream n) rfl id rfl
    (by simpa using haccepted) fun _ hr => ?_⟩
  simp [Shell.receiving, houtput] at hr

lemma Answers.dispatch {command : Command} (hs : s.look ch i = s) (hshut : ch.core.Shut)
    (hlive : ch.aborted = false) (hopen : s.session.commandsOpen = true)
    (hroom : s.session.hasRoom = true)
    (hsession : s'.session = { s.session with commands := s.session.commands ++ [command] })
    (houtput : s'.output = s.output) (haccepted : s'.accepted = s.accepted ++ [command]) :
    ∃ o j, Answers k ch i s s' (.dispatch command) o j := by
  have hview := look_session hs
  have hcommands : ch.commandQueue = s.session.commands := congrArg SessionView.commands hview
  have hended : ch.command ≠ CommandPc.ended :=
    of_decide_eq_true ((congrArg SessionView.commandsOpen hview).trans hopen)
  have hlength : ch.commandQueue.length < commandQueueDepth := by
    rw [hcommands]
    exact of_decide_eq_true hroom
  let ch' : Channel := { ch with commandQueue := ch.commandQueue ++ [command] }
  have hview' : s'.session.look ch' = s'.session := by
    rw [hsession, ← hcommands]
    exact congrArg (fun v : SessionView => { v with commands := ch.commandQueue ++ [command] })
      hview
  have hlook : s'.look ch' i = s' := by
    rw [Shell.look, hview']
    exact congrArg (fun output => { s' with output }) ((look_output hs).trans houtput.symm)
  refine ⟨⟨k, ch', [.accepted command]⟩, i, .seen ?_ hlook hshut rfl id rfl haccepted
    fun _ hr => ?_⟩
  · simp [SessionCall.perform, SsmBridge.dispatch, hended, hlength, hlive, ch']
  · rwa [Shell.receiving, ← houtput]

/-- The channel closes its fan-out along with it, which the shell sees as a step of the session. -/
lemma Answers.terminate (hs : s.look ch i = s) (hshut : ch.core.Shut)
    (hsession : s'.session = s.session.close .terminated) (houtput : s'.output = s.output)
    (haccepted : s'.accepted = s.accepted) : ∃ o j, Answers k ch i s s' .terminate o j := by
  have hview := look_session hs
  have hreason : ch.core.closeReason = s.session.reason := congrArg SessionView.reason hview
  have hsame : s'.receiving = s.receiving := by rw [Shell.receiving, houtput, Shell.receiving]
  have hclosed (reason : CloseReason) : (ch.core.close reason).isClosed = true :=
    SessionCore.isClosed_of_close _ _
  cases hcase : ch.core.closeReason with
  | some reason =>
    have hcore : ch.close .terminated = ch := by
      rw [Channel.close, SessionCore.close, hcase]
    have hsession' : s'.session = s.session := by
      rw [hsession, SessionView.close, ← hreason, hcase]
      exact congrArg (fun reason => { s.session with reason }) (hcase.symm.trans hreason)
    have hlook : s'.look ch i = s' := by
      rw [Shell.look, hsession', hview, look_output hs, ← houtput, ← hsession']
    exact ⟨⟨k, ch, []⟩, i, .seen (by simp [SessionCall.perform, SsmBridge.terminate, hcore]) hlook
      hshut rfl id rfl (by simpa using haccepted) fun _ hr => hsame ▸ hr⟩
  | none =>
    have hcore : ch.core.close .terminated = { ch.core with
        closeReason := some .terminated, fanout := ch.core.fanout.close } := by
      rw [SessionCore.close, hcase]
    have hopen : ch.core.fanout.closed = false := by
      rw [hshut.closed, SessionCore.isClosed, hcase]
      rfl
    have hstreams : i.bind (ch.core.fanout.close.streams[·]?) =
        s'.output.map (fun o => { o with attached := false }) := by
      rw [houtput, ← look_output hs]
      cases i with
      | none => rfl
      | some i => simp [OutputFanout.close, hopen]
    have hlook : s'.look (ch.close .terminated) i = { s' with
        session := { s'.session with fanoutClosed := true }
        output := s'.output.map (fun o => { o with attached := false }) } := by
      have hfirst : s.session.close .terminated =
          { s.session with reason := some .terminated } := by
        rw [SessionView.close, ← hreason, hcase]
        rfl
      have hclosed' : ch.core.fanout.close.closed = true := by simp [OutputFanout.close, hopen]
      have hview' : s'.session.look (ch.close .terminated) =
          { s'.session with fanoutClosed := true } := by
        rw [hsession, hfirst, Channel.close, hcore]
        refine Eq.trans ?_ (congrArg (fun v : SessionView =>
          { v with reason := some .terminated, fanoutClosed := true }) hview)
        show { s.session.look ch with
          reason := some .terminated, fanoutClosed := ch.core.fanout.close.closed } = _
        rw [hclosed']
      rw [Shell.look, hview', Channel.close, hcore, hstreams]
    refine ⟨⟨k, ch.close .terminated, []⟩, i, rfl, ?_, hshut.close _, rfl, fun _ => hclosed _, rfl,
      by simpa using haccepted, fun _ hr => ?_⟩
    · have hstep : s'.sessionStep .fanoutClose = some (s'.look (ch.close .terminated) i) := by
        rw [hlook, sessionStep, hsession]
        rfl
      exact Reachable.refl.tail hstep trivial
    · rw [hlook] at hr
      cases ho : s'.output <;> simp [Shell.receiving, ho] at hr

/-- **The channel answers what the shell asks for.** The shell decides by what it sees, which is the
channel as it is, so that the channel has the chunk or the room that the shell counts on. -/
theorem Asks.answered {call : SessionCall} (h : s.Asks s' (some call)) (hs : s.look ch i = s)
    (hshut : ch.core.Shut) (hlive : s.pc.running = true → ch.aborted = false) :
    ∃ o j, Answers k ch i s s' call o j := by
  cases h with
  | subscribe hnone hsession houtput haccepted =>
    exact Answers.subscribe hs hshut hsession houtput haccepted
  | recv ho hqueue hsession houtput haccepted =>
    exact Answers.recv hs hshut ho hqueue hsession houtput haccepted
  | dispatch hrunning hopen hroom hsession houtput haccepted =>
    exact Answers.dispatch hs hshut (hlive hrunning) hopen hroom hsession houtput haccepted
  | terminate hsession houtput haccepted =>
    exact Answers.terminate hs hshut hsession houtput haccepted
  | drop ho hsession houtput haccepted => exact Answers.drop hs hshut ho hsession houtput haccepted

/-- A task that has ended does not go on. -/
lemma Acts.running (h : s.Acts s') (hrunning : s'.pc.running = true) : s.pc.running = true := by
  cases h with
  | refused hpc | begins hpc | woken hpc | ready hpc | rawFails hpc | enters hpc | sizes hpc
  | checksSize hpc | waitsSize hpc | sendsSize hpc | subscribes hpc | shows hpc | outputEnds hpc
  | outputPending hpc | reads hpc | inputEnds hpc | inputPending hpc | closes hpc | parks hpc
  | unparks hpc | writes hpc | writeFails hpc | checks hpc | waits hpc | sends hpc | leaves hpc
  | restores hpc | readsReason hpc | readsExitCode hpc | terminates hpc | returns hpc | fails hpc =>
    rw [hpc]
    rfl
  | notReady hpc | sizeFails hpc | sendFails hpc => rcases hpc with hpc | hpc <;> rw [hpc] <;> rfl
  | abandons hpc => exact hpc
  | reader | resizes => exact hrunning

/-- A stream that has ended receives nothing any more. -/
lemma receiving_of_sessionStep {l : SessionLabel} (h : s.sessionStep l = some s')
    (hr : s'.receiving = true) : s.receiving = true := by
  cases l with
  | emit chunk =>
    simp only [sessionStep] at h
    split at h <;> cases h
    cases ho : s.output with
    | none => simp [receiving, ho] at hr
    | some o =>
      simp only [receiving, ho, OutputStream.offer, Option.map_some, Option.any_some] at hr ⊢
      split at hr
      · exact hr
      · next hattached =>
        split at hr
        · simp at hr
        · next hdropped =>
          simp only [Bool.not_eq_true, Bool.not_eq_false'] at hattached hdropped
          simp [hattached, hdropped]
  | fanoutClose =>
    simp only [sessionStep] at h
    split at h <;> cases h
    cases ho : s.output <;> simp [receiving, ho] at hr
  | _ =>
    simp only [sessionStep] at h
    (repeat' split at h) <;> cases h
    all_goals exact hr

lemma receiving_of_run (h : Reachable sessionStep free s s') (hr : s'.receiving = true) :
    s.receiving = true := by
  refine h.invariant (P := fun t : Shell => t.receiving = true → s.receiving = true) id ?_ hr
  exact fun _ _ _ ht hstep _ hr => ht (receiving_of_sessionStep hstep hr)

/-- Steps of the session are steps of the shell. -/
lemma reachable_of_session {init : Shell} (hs : Reachable step free init s)
    (h : Reachable sessionStep free s s') : Reachable step free init s' := by
  refine h.invariant (P := Reachable step free init) hs fun t l t' ht hstep _ => ?_
  exact ht.tail (l := .session l) hstep trivial

end Shell

/-! ## A shell on a channel -/

/-- The channel a shell is attached to, which cannot be dropped while the shell is running. -/
structure Shell.On (s : Shell) (ch : Channel) (stream : Option ℕ) : Prop where
  seen : s.look ch stream = s
  shut : ch.core.Shut
  ended : ch.aborted = true → ch.core.isClosed = true
  live : s.pc.running = true → ch.aborted = false

/-- The output the channel delivered since the subscription is what the shell was offered, as long
as the subscription is attached. -/
structure AttachedShell.Fed (c : ℕ) (a : AttachedShell) : Prop where
  joined : a.joined ≤ (a.session.payloadsOn c).length
  offered : a.shell.offered <+: (a.session.payloadsOn c).drop a.joined
  receiving : a.shell.receiving = true →
    a.shell.offered = (a.session.payloadsOn c).drop a.joined

/-- The shell is one of `Shell.step`, on a channel of the session. -/
structure AttachedShell.Attached (c : ℕ) (init : Shell) (a : AttachedShell) : Prop where
  first : init.Shows
  run : Reachable Shell.step free init a.shell
  on : ∃ ch, a.session.channels[c]? = some ch ∧ a.shell.On ch a.stream
  fed : a.Fed c
  accepted : a.shell.accepted.Sublist (a.session.commandsOn c)

namespace AttachedShell

variable {a a' : AttachedShell} {init s' : Shell} {σ' : System} {l : Label} {act : Action}

lemma Attached.shows (h : a.Attached c init) : a.shell.Shows :=
  h.run.invariant h.first fun _ _ _ hs hstep _ => hs.step hstep

lemma follow_eq (hch : σ'.channels[c]? = some ch) : a.follow c σ' = { a with
    session := σ'
    shell := (a.shell.hear ((σ'.payloadsOn c).drop (a.session.payloadsOn c).length)).look ch
      a.stream } := by
  simp only [follow, hch]

/-- The session goes on, and its channel stays as it is. -/
lemma Attached.waits (h : a.Attached c init) (hch : σ'.channels[c]? = a.session.channels[c]?)
    (hevents : σ'.eventsOn c = a.session.eventsOn c)
    (hpayloads : σ'.payloadsOn c = a.session.payloadsOn c) : (a.follow c σ').Attached c init := by
  obtain ⟨ch, hch₀, hon⟩ := h.on
  have hfollow : a.follow c σ' = { a with session := σ' } := by
    rw [follow_eq (hch.trans hch₀), hpayloads, List.drop_length, Shell.hear_nil, hon.seen]
  rw [hfollow]
  refine ⟨h.first, h.run, ⟨ch, hch.trans hch₀, hon⟩, ?_, ?_⟩
  · obtain ⟨hjoined, hoffered, hreceiving⟩ := h.fed
    rw [← hpayloads] at hjoined hoffered hreceiving
    exact ⟨hjoined, hoffered, hreceiving⟩
  · show a.shell.accepted.Sublist (σ'.commandsOn c)
    rw [System.commandsOn, hevents]
    exact h.accepted

/-- Output comes in. -/
lemma Fed.hears (h : a.Fed c) {chunks : List Bytes} {shell : Shell}
    (hpayloads : σ'.payloadsOn c = a.session.payloadsOn c ++ chunks)
    (hoffered : shell.offered = (a.shell.hear chunks).offered)
    (hreceiving : shell.receiving = true → a.shell.receiving = true) :
    Fed c { a with session := σ', shell } := by
  have hdrop : (σ'.payloadsOn c).drop a.joined =
      (a.session.payloadsOn c).drop a.joined ++ chunks := by
    rw [hpayloads, List.drop_append_of_le_length h.joined]
  refine ⟨?_, ?_, fun hr => ?_⟩
  · rw [hpayloads, List.length_append]
    exact Nat.le_add_right_of_le h.joined
  · show shell.offered <+: (σ'.payloadsOn c).drop a.joined
    rw [hdrop, hoffered, Shell.hear]
    split
    · next hr =>
      show a.shell.offered ++ chunks <+: _
      exact ⟨[], by rw [List.append_nil, h.receiving hr]⟩
    · exact h.offered.trans (List.prefix_append _ _)
  · show shell.offered = (σ'.payloadsOn c).drop a.joined
    rw [hdrop, hoffered, Shell.hear, if_pos (hreceiving hr), h.receiving (hreceiving hr)]

/-- The channel does something. -/
lemma Attached.performs (h : a.Attached c init) (hch : a.session.channels[c]? = some ch)
    (ho : perform env c a.session.cont ch act = some o)
    (hact : a.shell.pc.running = true → act ≠ .drop) :
    (a.follow c (a.session.after c o)).Attached c init := by
  obtain ⟨ch₀, hch₀, hon⟩ := h.on
  obtain rfl : ch = ch₀ := Option.some_inj.mp (hch.symm.trans hch₀)
  have hpayloads : (a.session.after c o).payloadsOn c =
      a.session.payloadsOn c ++ Shell.chunksOf o := System.payloadsOn_append _ _ _ _ _
  have hafter := System.channel_after_self (o := o) hch
  have hrun := Shell.follows hon.seen hon.shut hon.ended ho
  rw [follow_eq hafter, hpayloads, List.drop_left]
  refine ⟨h.first, Shell.reachable_of_session h.run hrun,
    ⟨o.channel, hafter, rfl, ?_, ?_, ?_⟩, ?_, ?_⟩
  · exact hon.shut.perform ho
  · exact (perform_cases ho).aborted_closed hon.ended
  · intro hrunning
    rw [perform_aborted (hact hrunning) ho]
    exact hon.live hrunning
  · exact h.fed.hears hpayloads rfl (Shell.receiving_of_run hrun)
  · show a.shell.accepted.Sublist ((a.session.after c o).commandsOn c)
    rw [System.commandsOn, System.eventsOn_after_self, List.filterMap_append]
    exact h.accepted.trans (List.sublist_append_left _ _)

/-- The session goes on. -/
lemma Attached.session (h : a.Attached c init) (hstep : System.step env a.session l = some σ')
    (hl : (a.shell.pc.running && dropsSession c l) = false) : (a.follow c σ').Attached c init := by
  obtain ⟨c', act, ch, o, rfl, hch, ho, rfl⟩ | ⟨config, -, -, rfl⟩ := System.step_cases hstep
  · by_cases hc : c' = c
    · subst hc
      refine h.performs hch ho fun hrunning hact => ?_
      simp [hrunning, hact, dropsSession] at hl
    · refine h.waits (System.channel_after_of_ne (Ne.symm hc))
        (System.eventsOn_after_of_ne (Ne.symm hc)) ?_
      exact System.payloadsOn_append_of_ne hc _ _ _
  · obtain ⟨ch, hch, -⟩ := h.on
    refine h.waits ?_ rfl rfl
    show (a.session.channels ++ [_])[c]? = _
    rw [List.getElem?_append_left (List.getElem?_eq_some_iff.mp hch).1]

/-- The shell asks for nothing. -/
lemma Attached.goes (h : a.Attached c init) (hs' : Reachable Shell.step free init s')
    (hacts : a.shell.Acts s') (hasks : a.shell.Asks s' none) :
    Attached c init { a with shell := s' } := by
  obtain ⟨ch, hch, hon⟩ := h.on
  cases hasks with
  | nothing hsession houtput haccepted =>
    have hreceiving : s'.receiving = a.shell.receiving := by
      rw [Shell.receiving, houtput, Shell.receiving]
    refine ⟨h.first, hs', ⟨ch, hch, ?_, hon.shut, hon.ended, fun hr => hon.live (hacts.running hr)⟩,
      ⟨h.fed.joined, ?_, fun hr => ?_⟩, ?_⟩
    · rw [Shell.look, hsession, Shell.look_session hon.seen, Shell.look_output hon.seen, ← hsession,
        ← houtput]
    · rw [hacts.offered]
      exact h.fed.offered
    · rw [hacts.offered]
      exact h.fed.receiving (hreceiving ▸ hr)
    · rw [haccepted]
      exact h.accepted

/-- The channel does what the shell asks for. -/
lemma Attached.calls (h : a.Attached c init) (hs' : Reachable Shell.step free init s')
    (hacts : a.shell.Acts s') {call : SessionCall} (hasks : a.shell.Asks s' (some call))
    (hch : a.session.channels[c]? = some ch) {j : Option ℕ}
    (hanswers : Shell.Answers a.session.cont ch a.stream a.shell s' call o j) :
    Attached c init
      { session := a.session.after c o
        shell := s'.look o.channel j
        stream := j
        joined := if call = .subscribe then (a.session.payloadsOn c).length else a.joined } := by
  obtain ⟨ch₀, hch₀, hon⟩ := h.on
  obtain rfl : ch = ch₀ := Option.some_inj.mp (hch.symm.trans hch₀)
  have hpayloads : (a.session.after c o).payloadsOn c = a.session.payloadsOn c := by
    refine (System.payloadsOn_append _ _ _ _ _).trans ?_
    rw [show o.events.filterMap _ = [] from hanswers.silent, List.append_nil]
  refine ⟨h.first, Shell.reachable_of_session hs' hanswers.run,
    ⟨o.channel, System.channel_after_self hch, rfl, hanswers.shut, fun hab => ?_, fun hr => ?_⟩,
    ?_, ?_⟩
  · exact hanswers.closed (hon.ended (hanswers.aborted ▸ hab))
  · rw [hanswers.aborted]
    exact hon.live (hacts.running hr)
  · by_cases hcall : call = .subscribe
    · subst hcall
      cases hasks with
      | subscribe hnone hsession houtput haccepted =>
        have hoffered : s'.offered = [] := by
          rw [hacts.offered]
          exact (h.shows.nothing hnone).2.2.1
        have hdrop : ((a.session.after c o).payloadsOn c).drop
            (a.session.payloadsOn c).length = [] := by
          rw [hpayloads, List.drop_length]
        refine ⟨?_, ?_, fun _ => ?_⟩
        · simp [hpayloads]
        · show s'.offered <+: _
          rw [hoffered]
          exact List.nil_prefix
        · exact hoffered.trans hdrop.symm
    · rw [if_neg hcall]
      refine ⟨?_, ?_, fun hr => ?_⟩
      · rw [hpayloads]
        exact h.fed.joined
      · show s'.offered <+: ((a.session.after c o).payloadsOn c).drop a.joined
        rw [hpayloads, hacts.offered]
        exact h.fed.offered
      · show s'.offered = ((a.session.after c o).payloadsOn c).drop a.joined
        rw [hpayloads, hacts.offered]
        exact h.fed.receiving (hanswers.receiving hcall hr)
  · show s'.accepted.Sublist ((a.session.after c o).commandsOn c)
    rw [System.commandsOn, System.eventsOn_after_self, List.filterMap_append, hanswers.accepted]
    exact h.accepted.append (List.Sublist.refl _)

/-- **The session answers every step of the task.** And afterwards the shell is again one that sees
its channel as it is. -/
theorem Attached.answered (h : a.Attached c init) (env : Env) {l : ShellLabel} (hl : l.isOwn = true)
    (hstep : a.shell.step l = some s') :
    ∃ a', AttachedShell.step env c a (.shell l) = some a' ∧
      Reachable Shell.sessionStep free s' a'.shell ∧ a'.Attached c init := by
  obtain ⟨ch, hch, hon⟩ := h.on
  have hs' := h.run.tail hstep trivial
  have hacts := Shell.acts_of_step hl hstep
  have hasks := hacts.asks h.shows
  cases hcall : SessionCall.between a.shell.pc s'.pc with
  | none =>
    rw [hcall] at hasks
    refine ⟨{ a with shell := s' }, ?_, .refl, h.goes hs' hacts hasks⟩
    simp only [step, hl, if_true, hstep, Option.bind_some, go, hcall]
  | some call =>
    rw [hcall] at hasks
    obtain ⟨o, j, hanswers⟩ := hasks.answered (k := a.session.cont) hon.seen hon.shut hon.live
    refine ⟨_, ?_, hanswers.run, h.calls hs' hacts hasks hch hanswers⟩
    simp only [step, hl, if_true, hstep, Option.bind_some, go, hcall, hch, hanswers.performed,
      Option.map_some]
    rfl

theorem Attached.step {l : AttachedLabel} (h : a.Attached c init)
    (hstep : AttachedShell.step env c a l = some a') : a'.Attached c init := by
  cases l with
  | session l =>
    simp only [AttachedShell.step] at hstep
    split at hstep
    · cases hstep
    · next hl =>
      obtain ⟨σ', hσ', rfl⟩ := Option.map_eq_some_iff.mp hstep
      exact h.session hσ' (by simpa using hl)
  | shell l =>
    have henabled := hstep
    simp only [AttachedShell.step] at hstep
    split at hstep
    · next hl =>
      obtain ⟨s', hs', -⟩ := Option.bind_eq_some_iff.mp hstep
      obtain ⟨a₁, ha₁, -, hattached⟩ := h.answered env hl hs'
      cases henabled.symm.trans ha₁
      exact hattached
    · cases hstep

lemma Attached.new {channelConfig : ChannelConfig} {σ : System} (hσ : Session env channelConfig σ)
    (hch : σ.channels[c]? = some ch) (hlive : ch.aborted = false) (config : InteractiveConfig)
    (tty : Tty) (id : String) (readyTimeout : ℕ) :
    (AttachedShell.new config tty id readyTimeout σ ch).Attached c
      (.new config tty (openedSession id readyTimeout ch)) := by
  have hshut : ch.core.Shut := System.shut_of_session hσ c ch hch
  refine ⟨.new _ _ _, .refl, ⟨ch, hch, rfl, hshut, fun hab => ?_, fun _ => hlive⟩,
    ⟨Nat.zero_le _, ?_, ?_⟩, ?_⟩
  · rw [hlive] at hab
    cases hab
  · exact List.nil_prefix
  · intro hr
    cases hr
  · exact List.nil_sublist _

end AttachedShell

/-- **A shell on a channel of a session.** Whatever the tasks of the session do, its other channels
and the other handles of the session, a shell that is attached to one of its channels is one of
`Shell.step`, and it sees the channel as it is.  It is offered what the channel hands over from its
subscription on, and shows it in order; the commands it queues are among those the channel accepts,
in their order; and the session takes part in every step of its task. -/
theorem shell_on_channel {channelConfig : ChannelConfig} {σ : System}
    (hσ : Session env channelConfig σ) (hch : σ.channels[c]? = some ch)
    (hlive : ch.aborted = false) {config : InteractiveConfig} {tty : Tty} {id : String}
    {readyTimeout : ℕ} {a : AttachedShell}
    (h : Reachable (AttachedShell.step env c) free (.new config tty id readyTimeout σ ch) a) :
    Reachable Shell.step free (.new config tty (openedSession id readyTimeout ch)) a.shell ∧
    (∃ ch', a.session.channels[c]? = some ch' ∧ a.shell.look ch' a.stream = a.shell) ∧
    a.shell.offered <+: (a.session.payloadsOn c).drop a.joined ∧
    (a.shell.receiving = true → a.shell.offered = (a.session.payloadsOn c).drop a.joined) ∧
    shown a.shell.stdout <+: ((a.session.payloadsOn c).drop a.joined).flatten ∧
    a.shell.accepted.Sublist (a.session.commandsOn c) ∧
    ∀ l s', l.isOwn = true → a.shell.step l = some s' →
      ∃ a', AttachedShell.step env c a (.shell l) = some a' ∧
        Reachable Shell.sessionStep free s' a'.shell := by
  have hattached : a.Attached c (.new config tty (openedSession id readyTimeout ch)) :=
    h.invariant (.new hσ hch hlive config tty id readyTimeout) fun _ _ _ ha hstep _ => ha.step hstep
  obtain ⟨ch', hch', hon⟩ := hattached.on
  have hshown := (output_shown hattached.run).1
  refine ⟨hattached.run, ⟨ch', hch', hon.seen⟩, hattached.fed.offered, hattached.fed.receiving,
    hshown.trans ?_, hattached.accepted, fun l s' hl hstep => ?_⟩
  · obtain ⟨rest, hrest⟩ := hattached.fed.offered
    exact ⟨rest.flatten, by rw [← hrest, List.flatten_append]⟩
  · obtain ⟨a', ha', hrun, -⟩ := hattached.answered env hl hstep
    exact ⟨a', ha', hrun⟩

/-- The reader hands a byte of the agent's output over. -/
def deliveringByte (n : Int64) (byte : UInt8) : List Action :=
  receivingData (agentMessage n .output [byte]) ++
    ([.readerDeliver (toArray _ []), .readerAdvance, .readerTake] : List Action)

/-- A byte comes before the shell is attached, and one when it has queued its initial size and
subscribed: it is offered the second one, and shows it. -/
theorem shell_on_channel_second :
    ∃ σ ch a, Session sampleEnv sampleConfig σ ∧ σ.channels[0]? = some ch ∧
      Reachable (AttachedShell.step sampleEnv 0) free
        (.new ⟨false, true⟩ ⟨true, false, none⟩ "s" 30 σ ch) a ∧
      a.session.payloadsOn 0 = [[104], [105]] ∧ a.shell.offered = [[105]] ∧
      shown a.shell.stdout = [105] ∧ a.shell.accepted.length = 1 ∧
      a.shell.accepted.Sublist (a.session.commandsOn 0) := by
  let ls : List AttachedLabel := List.flatten
    [List.replicate 8 (.shell .advance), (onChannel 0 (deliveringByte 1 105)).map .session,
      List.replicate 2 (.shell .advance), (onChannel 0 admitting).map .session]
  have hrun : (run (System.step sampleEnv) (System.start sampleConfig)
      (onChannel 0 (deliveringByte 0 104))).any (fun σ => σ.channels[0]?.any (fun ch =>
        !ch.aborted && (run (AttachedShell.step sampleEnv 0)
          (.new ⟨false, true⟩ ⟨true, false, none⟩ "s" 30 σ ch) ls).any (fun a =>
            decide (a.session.payloadsOn 0 = [[104], [105]] ∧ a.joined = 1 ∧
              a.shell.receiving = true ∧ shown a.shell.stdout = [105] ∧
              a.shell.accepted.length = 1)))) = true := by
    decide +kernel
  obtain ⟨σ, hσ, hp⟩ := exists_of_run hrun
  obtain ⟨ch, hch, hp⟩ := (Option.any_eq_true _ _).mp hp
  simp only [Bool.and_eq_true, Bool.not_eq_true'] at hp
  obtain ⟨hlive, hp⟩ := hp
  obtain ⟨a, ha, hp⟩ := exists_of_run hp
  obtain ⟨hpayloads, hjoined, hreceiving, hshown, haccepted⟩ := of_decide_eq_true hp
  obtain ⟨-, -, -, hoffered, -, hcommands, -⟩ := shell_on_channel hσ hch hlive ha
  refine ⟨σ, ch, a, hσ, hch, ha, hpayloads, ?_, hshown, haccepted, hcommands⟩
  rw [hoffered hreceiving, hpayloads, hjoined]
  rfl

end Terminal

end SsmBridge
