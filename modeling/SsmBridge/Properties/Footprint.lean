import SsmBridge.Construction.System
import SsmBridge.Framework.Machine

/-!
# What each task can change

A step of a session is one operation of one task of one channel, and most tasks touch little of the
state they share.  This module says once what a step can do: `System.step_cases` inverts a step of
the session, and the frame lemmas below bound what an operation changes by the task it belongs to
(`Action.task`).  The properties of the following modules then only look at the operations that
reach the part of the state they are about.

Four operations of the reader decide between many outcomes; `readerFrame_cases`,
`readerDeliver_cases`, `readerNegotiated_cases` and `readerReplied_cases` list them.
-/

namespace SsmBridge

open Machine

/-! ## Steps of a session -/

/-- The state after an operation of channel `c`. -/
def System.after (s : System) (c : ℕ) (o : Outcome) : System where
  cont := o.cont
  channels := s.channels.set c o.channel
  log := s.log ++ o.events.map (fun e => (c, e))

/-- The state after a resume. -/
def System.resumed (s : System) (config : ChannelConfig) : System :=
  { s with channels := s.channels ++ [Channel.open config] }

theorem System.step_cases {env : Env} {s s' : System} {l : Label}
    (h : System.step env s l = some s') :
    (∃ c a ch o, l = .act c a ∧ s.channels[c]? = some ch ∧ perform env c s.cont ch a = some o ∧
      s' = s.after c o) ∨
    (∃ config, l = .resume config ∧ s.resumable = true ∧ s' = s.resumed config) := by
  unfold System.step at h
  split at h
  · next c a =>
    split at h
    · cases h
    · next ch hch =>
      split at h
      · cases h
      · next o ho =>
        cases h
        exact .inl ⟨c, a, ch, o, rfl, hch, ho, rfl⟩
  · next config =>
    split at h
    · next hr =>
      cases h
      exact .inr ⟨config, rfl, hr, rfl⟩
    · cases h

namespace System

variable {s : System} {c c' : ℕ} {ch ch' : Channel} {o : Outcome} {config : ChannelConfig}

lemma channel_start (h : (start config).channels[c]? = some ch) : ch = Channel.open config := by
  obtain ⟨hz, hch⟩ := List.getElem?_eq_some_iff.mp h
  simp only [start, List.getElem_singleton] at hch
  exact hch.symm

/-- A channel after an operation is the one it was performed on, or an untouched one. -/
lemma channel_after (h : (s.after c o).channels[c']? = some ch') :
    (c' = c ∧ ch' = o.channel) ∨ (c' ≠ c ∧ s.channels[c']? = some ch') :=
  Machine.getElem?_of_set h

lemma channel_after_self (hch : s.channels[c]? = some ch) :
    (s.after c o).channels[c]? = some o.channel := by
  obtain ⟨hlt, -⟩ := List.getElem?_eq_some_iff.mp hch
  simp [after, hlt]

lemma channel_after_of_ne (hcc : c' ≠ c) : (s.after c o).channels[c']? = s.channels[c']? := by
  simp [after, List.getElem?_set_ne (Ne.symm hcc)]

lemma events_after : (s.after c o).events = s.events ++ o.events := by
  simp [after, events, Function.comp_def]

/-- A channel after a resume is the new one, or one that was there. -/
lemma channel_resumed (h : (s.resumed config).channels[c']? = some ch') :
    (c' = s.channels.length ∧ ch' = Channel.open config) ∨ s.channels[c']? = some ch' :=
  (Machine.getElem?_of_concat h).imp_right And.right

end System

/-! ## Tasks -/

/-- The task an operation belongs to; the steps of `send_payload` belong to the call. -/
inductive Task
  | send (who : Sender)
  | writer
  | heartbeat
  | retransmit
  | command
  | reader
  | handle
  deriving DecidableEq

def Action.task : Action → Task
  | .encrypt who _ | .lock who _ | .track who _ | .retry who | .giveUp who | .write who => .send who
  | .writerPoll | .writerRecv | .writerSent | .writerFailed _ | .writerFinish
  | .writerAbort => .writer
  | .heartbeatPoll | .heartbeatTick _ | .heartbeatAbort => .heartbeat
  | .retransmitPoll | .retransmitTick _ | .retransmitWrite | .retransmitStop
  | .retransmitAbort => .retransmit
  | .commandPoll | .commandRecv | .commandGate | .commandAdmit | .commandReturn | .commandFail
  | .commandAbort => .command
  | .readerPoll | .readerFrame _ _ | .readerRoute | .readerStore | .readerAck _ | .readerDeliver _
  | .readerNegotiated | .readerReplied | .readerAdvance | .readerTake | .readerClose
  | .readerAbort => .reader
  | .sendData _ | .sendTerminalSize _ | .terminate | .drop => .handle

variable {env : Env} {c : ℕ} {k : Continuity} {ch : Channel} {o : Outcome} {a : Action}

/-! ## The reader's larger operations -/

/-- A change of the core that a frame other than stream data can make. -/
inductive CoreChange (core : SessionCore) : SessionCore → Prop
  | none : CoreChange core core
  | gate (sendable : Bool) : CoreChange core (core.setSendable sendable)
  | closed (exitCode : Option ℤ) (detail : Option String) :
      CoreChange core (core.close (.agentClosed exitCode detail))

/-- What a frame can lead to. -/
inductive FrameOutcome (now : ℕ) (k : Continuity) (ch : Channel) : Outcome → Prop
  | data (m : ClientMessage) (hm : m.messageType = .outputStreamData) :
      FrameOutcome now k ch ⟨k, { ch with lastInbound := now, reader := .routing m }, []⟩
  | retired (n : Int64) :
      FrameOutcome now k ch ⟨{ k with outgoing := (k.outgoing.acknowledge now n).2 },
        { ch with lastInbound := now, reader := .select }, [.retired n]⟩
  | retiredWaking (n : Int64) :
      FrameOutcome now k ch ⟨{ k with outgoing := (k.outgoing.acknowledge now n).2 },
        { ch.notifyAck with lastInbound := now, reader := .select }, [.retired n]⟩
  | control (core : SessionCore) (hcore : CoreChange ch.core core) :
      FrameOutcome now k ch ⟨k, { ch with lastInbound := now, core, reader := .select }, []⟩
  | failing (reason : CloseReason) :
      FrameOutcome now k ch ⟨k, { ch with lastInbound := now, reader := .failing reason none }, []⟩

lemma route_cases (now : ℕ) (m : ClientMessage) :
    FrameOutcome now k ch (route env now m k { ch with lastInbound := now }) := by
  unfold route
  split
  · next hm => exact .data m hm
  · split
    · exact .failing _
    · next n hn =>
      split
      · next outgoing hack =>
        have hout : outgoing = (k.outgoing.acknowledge now n).2 := by rw [hack]
        exact hout ▸ .retiredWaking n
      · next outgoing hack =>
        have hout : outgoing = (k.outgoing.acknowledge now n).2 := by rw [hack]
        exact hout ▸ .retired n
  · exact .control _ (.gate true)
  · exact .control _ (.gate false)
  · exact .control _ (.closed _ _)
  · exact .control _ .none

theorem readerFrame_cases {now : ℕ} {frame : InFrame}
    (h : readerFrame env now frame k ch = some o) :
    ch.reader = .polled ∧ FrameOutcome now k ch o := by
  unfold readerFrame at h
  split at h
  · next hpc =>
    refine ⟨hpc, ?_⟩
    cases frame with
    | binary decoded =>
      cases decoded with
      | ok m =>
        cases h
        exact route_cases now m
      | error e =>
        cases h
        exact .failing _
    | text text =>
      cases h
      unfold handleText
      split_ifs
      · exact .control _ (.gate true)
      · exact .control _ (.gate false)
      · exact .failing _
      · exact .control _ .none
    | close reason =>
      cases h
      exact .failing _
    | other =>
      cases h
      exact .control _ .none
    | failed message =>
      cases h
      exact .failing _
    | ended =>
      cases h
      exact .failing _
  · cases h

/-- Going on with a delivery moves the reader and may start a call of `send_payload`. -/
def afterProgress (m : ClientMessage) : Progress → ReaderPc
  | .finished (.ok ()) => .advancing m
  | .finished (.error e) => .failing (.protocol e.display) (some m)
  | .reply _ _ after => .replying m after

/-- The call slot of the reader when a delivery goes on. -/
def callOf (pc : SendPc) : Progress → SendPc
  | .finished _ => pc
  | .reply payloadType payload _ => .called payloadType payload

lemma progress_eq (m : ClientMessage) (ch : Channel) (p : Progress) :
    progress m ch p =
      { ch with reader := afterProgress m p, readerSend := callOf ch.readerSend p } := by
  cases p with
  | finished result => cases result <;> rfl
  | reply payloadType payload after => rfl

/-- The channel after the part of a delivery that precedes its first `await`. -/
def Channel.delivered (ch : Channel) (v : ReaderView) : Channel :=
  { ch with core := v.core, handshake := v.handshake }

theorem readerDeliver_cases {nonce : Nonce} (h : readerDeliver env nonce k ch = some o) :
    ∃ m delivery v output, ch.reader = .delivering m ∧
      deliver env nonce (readerView k ch) m = (delivery, v, output) ∧
      ((∃ p, delivery = .progress p ∧
          o = ⟨k, progress m (ch.delivered v) p, output.toList.map (.emitted m.sequenceNumber)⟩) ∨
        (∃ request events, delivery = .request request ∧
          (events = [] ∨ (events = [.negotiated request] ∧ v.handshake.state = .awaitingRequest)) ∧
          o = ⟨k, { ch.delivered v with reader := .negotiating m request }, events⟩)) := by
  unfold readerDeliver at h
  split at h
  · next m hpc =>
    rcases hd : deliver env nonce (readerView k ch) m with ⟨delivery, v, output⟩
    refine ⟨m, delivery, v, output, hpc, hd, ?_⟩
    rw [hd] at h
    cases delivery with
    | progress p =>
      cases h
      exact .inl ⟨p, rfl, rfl⟩
    | request request =>
      cases h
      refine .inr ⟨request, _, rfl, ?_, rfl⟩
      split_ifs with hs
      · exact .inr ⟨rfl, hs⟩
      · exact .inl rfl
  · cases h

theorem readerNegotiated_cases (h : readerNegotiated env k ch = some o) :
    ∃ m request p v calls, ch.reader = .negotiating m request ∧
      requestDone env ch.kmsCalls (readerView k ch) request = (p, v, calls) ∧
      o = ⟨k, progress m { ch with handshake := v.handshake, kmsCalls := calls } p, []⟩ := by
  unfold readerNegotiated at h
  split at h
  · next m request hpc =>
    cases h
    exact ⟨m, request, _, _, _, hpc, rfl, rfl⟩
  · cases h

theorem readerReplied_cases (h : readerReplied k ch = some o) :
    ∃ m after, ch.reader = .replying m after ∧
      ((ch.readerSend = .returned (.ok ()) ∧ ∃ result v,
          replySent (readerView k ch) after = (result, v) ∧
          o = ⟨{ k with crypto := v.crypto },
            progress m { ch with core := v.core, readerSend := .idle } (.finished result), []⟩) ∨
        (∃ e, ch.readerSend = .returned (.error e) ∧
          o = ⟨k, progress m { ch with readerSend := .idle } (.finished (.error e)), []⟩)) := by
  unfold readerReplied at h
  split at h
  · next m after hpc hslot =>
    cases h
    exact ⟨m, after, hpc, .inl ⟨hslot, _, _, rfl, rfl⟩⟩
  · next m after e hpc hslot =>
    cases h
    exact ⟨m, after, hpc, .inr ⟨e, hslot, rfl⟩⟩
  · cases h

/-! ## Calls of `send_payload` -/

/-- The payload of a call after the encryption step: only stream output is encrypted, and only once
a cipher is installed. -/
inductive Sealed (env : Env) (crypto : Option SessionCrypto) (payloadType : PayloadType)
    (plain : Bytes) : Outgoing → Prop
  | cipher (cipher : SessionCrypto) (nonce : Nonce) (payload : Bytes)
      (hcrypto : crypto = some cipher) (htype : payloadType = .output)
      (hpayload : cipher.encrypt env.aead nonce plain = .ok payload) :
      Sealed env crypto payloadType plain ⟨payloadType, plain, some cipher, payload⟩
  | plain (hnone : payloadType = .output → crypto = none) :
      Sealed env crypto payloadType plain ⟨payloadType, plain, none, plain⟩

/-- What a step of a call does. -/
inductive SendStep (env : Env) (c : ℕ) (who : Sender) (k : Continuity) (ch : Channel) :
    Outcome → Prop
  | refused (payloadType : PayloadType) (plain : Bytes) (e : Error)
      (hslot : ch.slot who = .called payloadType plain) :
      SendStep env c who k ch ⟨k, ch.setSlot who (.returned (.error e)), []⟩
  | encrypted (payloadType : PayloadType) (plain : Bytes) (out : Outgoing)
      (hslot : ch.slot who = .called payloadType plain)
      (hout : Sealed env k.crypto payloadType plain out) :
      SendStep env c who k ch ⟨k, ch.setSlot who (.locking out), []⟩
  | locked (out : Outgoing) (stamp : Stamp) (hslot : ch.slot who = .locking out)
      (hfree : k.holder = none) :
      SendStep env c who k ch ⟨{ k with holder := some (c, who) },
        ch.setSlot who (.tracking out (ClientMessage.new env.sha256 stamp .inputStreamData
          k.sequence out.payloadType out.payload).serialize), []⟩
  | tracked (out : Outgoing) (wire : Bytes) (now : ℕ) (hslot : ch.slot who = .tracking out wire)
      (hroom : k.outgoing.pending.length < k.outgoing.capacity) :
      SendStep env c who k ch
        ⟨{ k with sequence := k.sequence + 1
                  outgoing := { k.outgoing with pending := k.outgoing.pending ++
                    [{ wire, sequence := k.sequence, lastSent := now, attempts := 1 }] } },
          ch.setSlot who (.writing k.sequence wire), [.issued ⟨k.sequence, wire, out, who⟩]⟩
  | parked (out : Outgoing) (wire : Bytes) (hslot : ch.slot who = .tracking out wire) :
      SendStep env c who k ch ⟨k, ch.setSlot who (.waiting out wire false), []⟩
  | retried (out : Outgoing) (wire : Bytes) (notified : Bool)
      (hslot : ch.slot who = .waiting out wire notified) :
      SendStep env c who k ch ⟨k, ch.setSlot who (.tracking out wire), []⟩
  | gaveUp (out : Outgoing) (wire : Bytes) (notified : Bool) (e : Error)
      (hslot : ch.slot who = .waiting out wire notified) :
      SendStep env c who k ch ⟨{ k with holder := none }, ch.setSlot who (.returned (.error e)), []⟩
  | wrote (n : Int64) (wire : Bytes) (hslot : ch.slot who = .writing n wire) :
      SendStep env c who k ch ⟨{ k with holder := none },
        { ch.setSlot who (.returned (.ok ())) with
          writerQueue := ch.writerQueue ++ [.binary wire] }, [.enqueued n wire]⟩
  | failed (n : Int64) (wire : Bytes) (e : Error) (hslot : ch.slot who = .writing n wire) :
      SendStep env c who k ch ⟨{ k with holder := none }, ch.setSlot who (.returned (.error e)), []⟩

lemma sendEncrypt_step {nonce : Nonce} {who : Sender} (h : sendEncrypt env nonce who k ch = some o) :
    SendStep env c who k ch o := by
  unfold sendEncrypt at h
  split at h
  · next payloadType plain hslot =>
    split at h
    · next crypto hcrypto =>
      split at h
      · next e he =>
        cases h
        exact .refused _ _ _ hslot
      · next payload hp =>
        cases h
        exact .encrypted _ _ _ hslot (.cipher _ _ _ hcrypto rfl hp)
    · next hnone =>
      cases h
      refine .encrypted _ _ _ hslot (.plain ?_)
      intro htype
      by_contra hsome
      obtain ⟨crypto, hcrypto⟩ := Option.ne_none_iff_exists'.mp hsome
      exact hnone crypto htype hcrypto
  · cases h

/-- The steps of a call. -/
theorem send_cases {who : Sender} (ha : a.task = .send who) (h : perform env c k ch a = some o) :
    SendStep env c who k ch o := by
  cases a <;> simp only [Action.task, Task.send.injEq, reduceCtorEq] at ha <;> subst ha <;>
    simp only [perform] at h
  case encrypt nonce => exact sendEncrypt_step h
  case lock stamp =>
    unfold sendLock at h
    split at h
    · next out hslot hfree =>
      cases h
      exact .locked out stamp hslot hfree
    · cases h
  case track now =>
    unfold sendTrack at h
    split at h
    · next out wire hslot =>
      unfold OutgoingBuffer.track at h
      by_cases hroom : k.outgoing.capacity ≤ k.outgoing.pending.length
      · rw [if_pos hroom] at h
        cases h
        exact .parked out wire hslot
      · rw [if_neg hroom] at h
        cases h
        exact .tracked out wire now hslot (Nat.lt_of_not_le hroom)
    · cases h
  case retry =>
    unfold sendRetry at h
    split at h
    · next out wire notified hslot =>
      split at h
      · cases h
        exact .retried out wire notified hslot
      · cases h
    · cases h
  case giveUp =>
    unfold sendGiveUp at h
    split at h
    · next out wire notified hslot =>
      split at h
      · cases h
        exact .gaveUp out wire notified _ hslot
      · cases h
    · cases h
  case write =>
    unfold sendWrite at h
    split at h
    · next n wire hslot =>
      split at h
      · cases h
        exact .wrote n wire hslot
      · split at h
        · cases h
        · cases h
          exact .failed n wire _ hslot
    · cases h

/-! ## Dropping a call -/

section

variable (c) (who : Sender) (k)

@[simp] lemma abandon_outgoing : (abandon c who k).outgoing = k.outgoing := by
  unfold abandon
  split <;> rfl

@[simp] lemma abandon_inbound : (abandon c who k).inbound = k.inbound := by
  unfold abandon
  split <;> rfl

@[simp] lemma abandon_crypto : (abandon c who k).crypto = k.crypto := by
  unfold abandon
  split <;> rfl

end

/-! ## The command task -/

/-- The command task is inside `send_payload`. -/
def CommandPc.sending : CommandPc → Bool
  | .streaming _ | .controlling => true
  | _ => false

/-- The command task has not failed or ended. -/
def CommandPc.live : CommandPc → Bool
  | .failing _ | .ended => false
  | _ => true

/-- The command the task is holding back, if any. -/
def CommandPc.held : CommandPc → Option Command
  | .gate command | .gatePolled command => some command
  | _ => none

/-- The core was left alone or closed. -/
def Closing (core core' : SessionCore) : Prop :=
  core' = core ∨ ∃ reason, core' = core.close reason

/-- What a step of the command task does. -/
inductive CommandStep (c : ℕ) (k : Continuity) (ch : Channel) : Outcome → Prop
  | moved (pc : CommandPc) (hfrom : ch.command.sending = false) (hto : pc.sending = false)
      (hheld : pc.held = ch.command.held) (hlive : ch.command.live = true)
      (hlive' : pc.live = true) :
      CommandStep c k ch ⟨k, { ch with command := pc }, []⟩
  | received (command : Command) (rest : List Command) (hpc : ch.command = .polled)
      (hqueue : ch.commandQueue = command :: rest) :
      CommandStep c k ch ⟨k, { ch with command := .gate command, commandQueue := rest }, []⟩
  | admittedData (bytes : Bytes) (hpc : ch.command = .gatePolled (.data bytes)) :
      CommandStep c k ch ⟨k, ch.sendStreamData bytes, [.admitted (.data bytes) k.crypto]⟩
  | admittedControl (payloadType : PayloadType) (data : Bytes)
      (hpc : ch.command = .gatePolled (.control payloadType data)) :
      CommandStep c k ch
        ⟨k, { ch with command := .controlling, commandSend := .called payloadType data },
          [.admitted (.control payloadType data) k.crypto]⟩
  | chunkSent (rest : Bytes) (hpc : ch.command = .streaming rest)
      (hslot : ch.commandSend = .returned (.ok ())) :
      CommandStep c k ch ⟨k, ch.sendStreamData rest, []⟩
  | controlSent (hpc : ch.command = .controlling) (hslot : ch.commandSend = .returned (.ok ())) :
      CommandStep c k ch ⟨k, { ch with command := .select, commandSend := .idle }, []⟩
  | failed (e : Error) (hpc : ch.command.sending = true)
      (hslot : ch.commandSend = .returned (.error e)) :
      CommandStep c k ch ⟨k, { ch with command := .failing e, commandSend := .idle }, []⟩
  | ended (core : SessionCore) (hpc : ch.command.sending = false) (hcore : Closing ch.core core) :
      CommandStep c k ch ⟨k, { ch.endCommand with core }, []⟩
  | aborted (hpc : ch.command.sending = true) (hslot : ch.commandSend.parked = true) :
      CommandStep c k ch ⟨abandon c .command k, ch.endCommand, []⟩

/-- The steps of the command task. -/
theorem command_cases (ha : a.task = .command) (h : perform env c k ch a = some o) :
    CommandStep c k ch o := by
  cases a <;> simp only [Action.task, reduceCtorEq] at ha <;> simp only [perform] at h
  case commandPoll =>
    unfold commandPoll at h
    split at h
    · next hpc =>
      split at h
      · cases h
        exact .ended ch.core (by simp [hpc, CommandPc.sending]) (.inl rfl)
      · cases h
        exact .moved .polled (by simp [hpc, CommandPc.sending]) rfl (by simp [hpc, CommandPc.held])
          (by simp [hpc, CommandPc.live]) rfl
    · cases h
  case commandRecv =>
    unfold commandRecv at h
    split at h
    · next command rest hpc hqueue =>
      cases h
      exact .received command rest hpc hqueue
    · next hpc hqueue =>
      split at h
      · cases h
        exact .ended ch.core (by simp [hpc, CommandPc.sending]) (.inl rfl)
      · cases h
        exact .moved .select (by simp [hpc, CommandPc.sending]) rfl (by simp [hpc, CommandPc.held])
          (by simp [hpc, CommandPc.live]) rfl
    · cases h
  case commandGate =>
    unfold commandGate at h
    split at h
    · next command hpc =>
      split at h
      · cases h
        exact .ended ch.core (by simp [hpc, CommandPc.sending]) (.inl rfl)
      · cases h
        exact .moved (.gatePolled command) (by simp [hpc, CommandPc.sending]) rfl
          (by simp [hpc, CommandPc.held]) (by simp [hpc, CommandPc.live]) rfl
    · cases h
  case commandAdmit =>
    unfold commandAdmit at h
    split at h
    · next command hpc =>
      split at h
      · cases command with
        | data bytes =>
          cases h
          exact .admittedData bytes hpc
        | control payloadType data =>
          cases h
          exact .admittedControl payloadType data hpc
      · cases h
        exact .moved (.gate command) (by simp [hpc, CommandPc.sending]) rfl
          (by simp [hpc, CommandPc.held]) (by simp [hpc, CommandPc.live]) rfl
    · cases h
  case commandReturn =>
    unfold commandReturn at h
    split at h
    · next rest hpc hslot =>
      cases h
      exact .chunkSent rest hpc hslot
    · next hpc hslot =>
      cases h
      exact .controlSent hpc hslot
    · next rest e hpc hslot =>
      cases h
      exact .failed e (by simp [hpc, CommandPc.sending]) hslot
    · next e hpc hslot =>
      cases h
      exact .failed e (by simp [hpc, CommandPc.sending]) hslot
    · cases h
  case commandFail =>
    unfold commandFail at h
    split at h
    · next e hpc =>
      cases h
      exact .ended (ch.core.close (.transport e.display)) (by simp [hpc, CommandPc.sending])
        (.inr ⟨_, rfl⟩)
    · cases h
  case commandAbort =>
    unfold commandAbort at h
    split at h
    · next hpc =>
      cases h
      exact .ended ch.core (by simp [hpc, CommandPc.sending]) (.inl rfl)
    · next command _ hpc =>
      cases h
      exact .ended ch.core (by simp [hpc, CommandPc.sending]) (.inl rfl)
    · next rest _ hpc =>
      split at h
      · next hslot =>
        cases h
        exact .aborted (by simp [hpc, CommandPc.sending]) hslot
      · cases h
    · next _ hpc =>
      split at h
      · next hslot =>
        cases h
        exact .aborted (by simp [hpc, CommandPc.sending]) hslot
      · cases h
    · cases h

/-! ## The background tasks and the session handle -/

/-- The numbers and bytes that are pending. -/
def OutgoingBuffer.items (b : OutgoingBuffer) : List (Int64 × Bytes) :=
  b.pending.map (fun p => (p.sequence, p.wire))

lemma OutgoingBuffer.pollRetransmit_spec (b : OutgoingBuffer) (now : ℕ) :
    (b.pollRetransmit now).2.items = b.items ∧ (b.pollRetransmit now).2.capacity = b.capacity ∧
      ∀ n w, (b.pollRetransmit now).1 = .resend n w → (n, w) ∈ b.items := by
  unfold OutgoingBuffer.pollRetransmit OutgoingBuffer.items
  split
  · simp
  · next head rest hpending =>
    split_ifs
    · simp
    · simp
    · refine ⟨by simp [hpending], rfl, ?_⟩
      intro n w hnw
      cases hnw
      simp [hpending]

/-- What a step of the writer, heartbeat or retransmission task does, or the end of the session by
its owner. -/
inductive BackgroundStep (k : Continuity) (ch : Channel) : Outcome → Prop
  | mk (outgoing : OutgoingBuffer) (core : SessionCore) (aborted : Bool) (queue : List Frame)
      (writer : WriterPc) (heartbeat : HeartbeatPc) (retransmit : RetransmitPc)
      (events : List Event)
      (hitems : outgoing.items = k.outgoing.items)
      (hcapacity : outgoing.capacity = k.outgoing.capacity)
      (hcore : Closing ch.core core)
      (haborted : aborted = ch.aborted ∨ core.isClosed = true)
      (hresending : ∀ n w, retransmit = .resending n w →
        ch.retransmit = .resending n w ∨ (n, w) ∈ k.outgoing.items)
      (hevents : ∀ e ∈ events, ∃ n w, e = .resent n w ∧ ch.retransmit = .resending n w) :
      BackgroundStep k ch ⟨{ k with outgoing },
        { ch with core, aborted, writerQueue := queue, writer, heartbeat, retransmit }, events⟩

/-- A background step that leaves the buffer alone and resends nothing. -/
lemma BackgroundStep.local {core : SessionCore} {queue : List Frame} {writer : WriterPc}
    {heartbeat : HeartbeatPc} {retransmit : RetransmitPc} (hcore : Closing ch.core core)
    (hresending : ∀ n w, retransmit = .resending n w → ch.retransmit = .resending n w) :
    BackgroundStep k ch
      ⟨k, { ch with core, writerQueue := queue, writer, heartbeat, retransmit }, []⟩ :=
  .mk k.outgoing core ch.aborted queue writer heartbeat retransmit [] rfl rfl hcore (.inl rfl)
    (fun n w h => .inl (hresending n w h)) (by simp)

/-- A step that leaves the core alone too. -/
lemma BackgroundStep.pc {queue : List Frame} {writer : WriterPc} {heartbeat : HeartbeatPc}
    {retransmit : RetransmitPc}
    (hresending : ∀ n w, retransmit = .resending n w → ch.retransmit = .resending n w) :
    BackgroundStep k ch ⟨k, { ch with writerQueue := queue, writer, heartbeat, retransmit }, []⟩ :=
  .local (.inl rfl) hresending

lemma writer_cases (ha : a.task = .writer) (h : perform env c k ch a = some o) :
    BackgroundStep k ch o := by
  cases a <;> simp only [Action.task, reduceCtorEq] at ha <;> simp only [perform] at h
  case writerPoll =>
    unfold writerPoll at h
    split at h <;> cases h
    exact .pc (fun _ _ h => h)
  case writerRecv =>
    unfold writerRecv at h
    split at h <;> cases h
    · exact .pc (fun _ _ h => h)
    · exact .pc (fun _ _ h => h)
  case writerSent =>
    unfold writerSent at h
    split at h <;> cases h
    exact .pc (fun _ _ h => h)
  case writerFailed message =>
    unfold writerFailed at h
    split at h <;> cases h
    exact .local (.inr ⟨_, rfl⟩) (fun _ _ h => h)
  case writerFinish =>
    unfold writerFinish at h
    split at h <;> cases h
    exact .pc (fun _ _ h => h)
  case writerAbort =>
    unfold writerAbort at h
    split at h <;> cases h
    · exact .pc (fun _ _ h => h)
    · exact .pc (fun _ _ h => h)
    · exact .pc (fun _ _ h => h)

lemma Channel.tryWrite_snd (frame : Frame) :
    ∃ queue, (ch.tryWrite frame).2 = { ch with writerQueue := queue } := by
  unfold Channel.tryWrite
  split
  · exact ⟨_, rfl⟩
  · exact ⟨ch.writerQueue, rfl⟩

lemma heartbeat_cases (ha : a.task = .heartbeat) (h : perform env c k ch a = some o) :
    BackgroundStep k ch o := by
  cases a <;> simp only [Action.task, reduceCtorEq] at ha <;> simp only [perform] at h
  case heartbeatPoll =>
    unfold heartbeatPoll at h
    split at h <;> cases h
    exact .pc (fun _ _ h => h)
  case heartbeatTick now =>
    unfold heartbeatTick at h
    split at h
    · dsimp only at h
      split at h
      · cases h
        exact .local (.inr ⟨_, rfl⟩) (fun _ _ h => h)
      · cases h
        obtain ⟨queue, hqueue⟩ := ch.tryWrite_snd .ping
        rw [hqueue]
        exact .pc (fun _ _ h => h)
    · cases h
  case heartbeatAbort =>
    unfold heartbeatAbort at h
    split at h <;> cases h
    exact .pc (fun _ _ h => h)

lemma retransmit_cases (ha : a.task = .retransmit) (h : perform env c k ch a = some o) :
    BackgroundStep k ch o := by
  cases a <;> simp only [Action.task, reduceCtorEq] at ha <;> simp only [perform] at h
  case retransmitPoll =>
    unfold retransmitPoll at h
    split at h <;> cases h
    refine .pc (fun n w hpc => ?_)
    split at hpc <;> cases hpc
  case retransmitTick now =>
    unfold retransmitTick at h
    obtain ⟨hitems, hcapacity, hresend⟩ := k.outgoing.pollRetransmit_spec now
    split at h
    · split at h
      · next outgoing hpoll =>
        cases h
        rw [hpoll] at hitems hcapacity
        exact .mk outgoing ch.core ch.aborted _ _ _ _ [] hitems hcapacity (.inl rfl) (.inl rfl)
          (by simp) (by simp)
      · next n w outgoing hpoll =>
        cases h
        rw [hpoll] at hitems hcapacity hresend
        refine .mk outgoing ch.core ch.aborted _ _ _ _ [] hitems hcapacity (.inl rfl) (.inl rfl) ?_
          (by simp)
        intro n' w' hnw
        cases hnw
        exact .inr (hresend n w rfl)
      · next n attempts outgoing hpoll =>
        cases h
        rw [hpoll] at hitems hcapacity
        exact .mk outgoing _ ch.aborted _ _ _ _ [] hitems hcapacity (.inr ⟨_, rfl⟩) (.inl rfl)
          (by simp) (by simp)
    · cases h
  case retransmitWrite =>
    unfold retransmitWrite at h
    split at h
    · next n w hpc =>
      split at h
      · cases h
        exact .mk k.outgoing ch.core ch.aborted _ _ _ _ _ rfl rfl (.inl rfl) (.inl rfl) (by simp)
          (by simp [hpc])
      · cases h
    · cases h
  case retransmitStop =>
    unfold retransmitStop at h
    split at h
    · split at h <;> cases h
      exact .pc (by simp)
    · cases h
  case retransmitAbort =>
    unfold retransmitAbort at h
    split at h <;> cases h
    · exact .pc (by simp)
    · exact .pc (by simp)

lemma SessionCore.isClosed_of_close (core : SessionCore) (reason : CloseReason) :
    (core.close reason).isClosed = true := by
  unfold SessionCore.close
  split
  · next r hr => simp [SessionCore.isClosed, hr]
  · rfl

/-- What a step of the session handle does. -/
inductive HandleStep (k : Continuity) (ch : Channel) : Outcome → Prop
  | accepted (command : Command) (hcommand : ∀ p d, command = .control p d → p = .size)
      (halive : ch.command ≠ .ended) :
      HandleStep k ch
        ⟨k, { ch with commandQueue := ch.commandQueue ++ [command] }, [.accepted command]⟩
  | ended {o : Outcome} (h : BackgroundStep k ch o) : HandleStep k ch o

theorem handle_cases (ha : a.task = .handle) (h : perform env c k ch a = some o) :
    HandleStep k ch o := by
  cases a <;> simp only [Action.task, reduceCtorEq] at ha <;> simp only [perform] at h
  case sendData data =>
    unfold sendData dispatch at h
    split at h
    · next halive =>
      cases h
      exact .accepted _ (by simp) halive.1
    · cases h
  case sendTerminalSize size =>
    unfold sendTerminalSize dispatch at h
    split at h
    · next halive =>
      cases h
      exact .accepted _ (by simp) halive.1
    · cases h
  case terminate =>
    cases h
    exact .ended (.local (.inr ⟨_, rfl⟩) (fun _ _ h => h))
  case drop =>
    cases h
    exact .ended (.mk k.outgoing _ true _ _ _ _ [] rfl rfl (.inr ⟨_, rfl⟩)
      (.inr (SessionCore.isClosed_of_close _ _)) (fun _ _ h => .inl h) (by simp))

/-! ## The reader task -/

/-- A call slot up to the wake-up it may have received. -/
def SendPc.unnotified : SendPc → SendPc
  | .waiting out wire _ => .waiting out wire false
  | pc => pc

/-- The reader is inside `send_payload`. -/
def ReaderPc.awaitsReply : ReaderPc → Bool
  | .replying _ _ => true
  | _ => false

/-- What the reader leaves to the other tasks. -/
structure Channel.Kept (ch ch' : Channel) : Prop where
  command : ch'.command = ch.command
  commandQueue : ch'.commandQueue = ch.commandQueue
  commandSend : ch'.commandSend.unnotified = ch.commandSend.unnotified
  retransmit : ch'.retransmit = ch.retransmit
  aborted : ch'.aborted = ch.aborted
  chunkSize : ch'.chunkSize = ch.chunkSize
  closeReason : ∀ r, ch.core.closeReason = some r → ch'.core.closeReason = some r

/-- The events of the inbound path. -/
def Event.isInbound : Event → Bool
  | .acknowledged _ | .advanced | .emitted _ _ | .negotiated _ => true
  | .issued _ | .enqueued _ _ | .resent _ _ | .retired _ | .accepted _ | .admitted _ _ => false

/-- What a step of the reader does, as far as the outbound path goes. -/
inductive ReaderStep (c : ℕ) (k : Continuity) (ch : Channel) : Outcome → Prop
  | inward (inbound : Inbound) (ch' : Channel) (events : List Event)
      (hfrom : ch.reader.awaitsReply = false) (hslot : ch'.readerSend = ch.readerSend)
      (hkept : ch.Kept ch') (hevents : ∀ e ∈ events, e.isInbound = true) :
      ReaderStep c k ch ⟨{ k with inbound }, ch', events⟩
  | called (payloadType : PayloadType) (payload : Bytes) (ch' : Channel) (events : List Event)
      (hfrom : ch.reader.awaitsReply = false) (hto : ch'.reader.awaitsReply = true)
      (hslot : ch'.readerSend = .called payloadType payload) (htype : payloadType ≠ .output)
      (hkept : ch.Kept ch') (hevents : ∀ e ∈ events, e.isInbound = true) :
      ReaderStep c k ch ⟨k, ch', events⟩
  | returned (result : Except Error Unit) (crypto : Option SessionCrypto) (ch' : Channel)
      (hfrom : ch.readerSend = .returned result) (hslot : ch'.readerSend = .idle)
      (hcrypto : k.crypto = none ∨ crypto = k.crypto) (hkept : ch.Kept ch') :
      ReaderStep c k ch ⟨{ k with crypto }, ch', []⟩
  | retired (n : Int64) (now : ℕ) (ch' : Channel) (hfrom : ch.reader.awaitsReply = false)
      (hslot : ch'.readerSend.unnotified = ch.readerSend.unnotified) (hkept : ch.Kept ch') :
      ReaderStep c k ch
        ⟨{ k with outgoing := (k.outgoing.acknowledge now n).2 }, ch', [.retired n]⟩
  | aborted (haborted : ch.aborted = true) (hfrom : ch.reader.awaitsReply = true)
      (hslot : ch.readerSend.parked = true) :
      ReaderStep c k ch
        ⟨abandon c .reader k, { ch with reader := .ended, readerSend := .idle }, []⟩

section

variable (ch)

lemma Channel.Kept.of_core {core : SessionCore} {reader : ReaderPc} {readerSend : SendPc}
    {handshake : HandshakeHandler} {calls now : ℕ} {queue : List Frame}
    (hcore : ∀ r, ch.core.closeReason = some r → core.closeReason = some r) :
    ch.Kept { ch with core, reader, readerSend, handshake, kmsCalls := calls, lastInbound := now
                      writerQueue := queue } :=
  ⟨rfl, rfl, rfl, rfl, rfl, rfl, hcore⟩

lemma Channel.Kept.inner {reader : ReaderPc} {readerSend : SendPc} {handshake : HandshakeHandler}
    {calls now : ℕ} {queue : List Frame} :
    ch.Kept { ch with reader, readerSend, handshake, kmsCalls := calls, lastInbound := now
                      writerQueue := queue } :=
  .of_core ch (fun _ h => h)

lemma Channel.Kept.notifyAck {now : ℕ} {reader : ReaderPc} :
    ch.Kept { ch.notifyAck with lastInbound := now, reader } where
  command := rfl
  commandQueue := rfl
  commandSend := by
    unfold Channel.notifyAck
    cases ch.commandSend <;> rfl
  retransmit := rfl
  aborted := rfl
  chunkSize := rfl
  closeReason _ h := h

lemma Channel.readerSend_notifyAck :
    ch.notifyAck.readerSend.unnotified = ch.readerSend.unnotified := by
  unfold Channel.notifyAck
  cases ch.readerSend <;> rfl

end

lemma SessionCore.closeReason_close {core : SessionCore} {r : CloseReason}
    (h : core.closeReason = some r) (reason : CloseReason) :
    (core.close reason).closeReason = some r := by
  simp [SessionCore.close, h]

lemma CoreChange.closeReason {core core' : SessionCore} (h : CoreChange core core')
    {r : CloseReason} (hr : core.closeReason = some r) : core'.closeReason = some r := by
  cases h with
  | none => exact hr
  | gate b => exact hr
  | closed e d => exact SessionCore.closeReason_close hr _

/-- What a delivery can do up to its first `await`. -/
inductive Delivered (env : Env) (v : ReaderView) (m : ClientMessage) :
    Delivery × ReaderView × Option Bytes → Prop
  | opened :
      Delivered env v m
        (.progress (.finished (.ok ())), { v with core := v.core.setSendable true }, none)
  | emitted (payload : Bytes) (hpayload : decryptIfNeeded env v.crypto m = .ok payload) :
      Delivered env v m (.progress (.finished (.ok ())),
        { v with core := (v.core.setSendable true).emitOutput payload }, some payload)
  | rejected (e : Error) (core : SessionCore) (handshake : HandshakeHandler)
      (hcore : core = v.core ∨ core = v.core.setSendable true) :
      Delivered env v m (.progress (.finished (.error e)), { v with core, handshake }, none)
  | request (request : HandshakeRequest) : Delivered env v m (.request request, v, none)
  | completed (handshake : HandshakeHandler) (banner : Option String) :
      Delivered env v m (.progress (.finished (.ok ())),
        { v with handshake, core := (v.core.setSessionBanner banner).setSendable true }, none)
  | challenged (payload : Bytes) :
      Delivered env v m (.progress (.reply .encChallengeResponse payload .answered), v, none)
  | exited (code : Option ℤ) :
      Delivered env v m
        (.progress (.finished (.ok ())), { v with core := v.core.setExitCode code }, none)
  | terminated (code : Option ℤ) :
      Delivered env v m (.progress (.finished (.ok ())),
        { v with core := v.core.close (.agentClosed code none) }, none)
  | ignored : Delivered env v m (.progress (.finished (.ok ())), v, none)

theorem deliver_cases (env : Env) (nonce : Nonce) (v : ReaderView) (m : ClientMessage) :
    Delivered env v m (deliver env nonce v m) := by
  unfold deliver
  split
  case h_1 | h_2 | h_3 =>
    dsimp only
    split
    · exact .opened
    · split
      · next e he => exact .rejected e _ v.handshake (.inr rfl)
      · next payload hp => exact .emitted payload hp
  case h_4 =>
    split
    · next e he => exact .rejected _ v.core v.handshake (.inl rfl)
    · next request hr => exact .request request
  case h_5 =>
    split
    · next e he => exact .rejected _ v.core v.handshake (.inl rfl)
    · next complete hc =>
      split
      · next e handshake he => exact .rejected e v.core handshake (.inl rfl)
      · next banner handshake hb => exact .completed handshake banner
  case h_6 =>
    split
    · next e he => exact .rejected _ v.core v.handshake (.inl rfl)
    · next challenge hc =>
      split
      · next e he => exact .rejected e v.core v.handshake (.inl rfl)
      · next response hr =>
        split
        · next e he => exact .rejected e v.core v.handshake (.inl rfl)
        · next payload hp => exact .challenged payload
  case h_7 =>
    split
    · next e he => exact .rejected e v.core v.handshake (.inl rfl)
    · next payload hp => exact .exited _
  case h_8 =>
    split
    · exact .terminated _
    · exact .ignored
  all_goals exact .ignored

/-- A delivery does not undo a close. -/
lemma Delivered.closeReason {v : ReaderView} {m : ClientMessage}
    {r : Delivery × ReaderView × Option Bytes} (h : Delivered env v m r) {reason : CloseReason}
    (hr : v.core.closeReason = some reason) : r.2.1.core.closeReason = some reason := by
  cases h with
  | rejected e core handshake hcore =>
    obtain rfl | rfl := hcore <;> exact hr
  | exited code =>
    show (v.core.setExitCode code).closeReason = some reason
    unfold SessionCore.setExitCode
    split <;> exact hr
  | terminated code => exact SessionCore.closeReason_close hr _
  | _ => exact hr

lemma requestDone_reply {calls : ℕ} {v : ReaderView} {request : HandshakeRequest}
    {payloadType : PayloadType} {payload : Bytes} {after : AfterReply}
    (h : (requestDone env calls v request).1 = .reply payloadType payload after) :
    payloadType = .handshakeResponse := by
  unfold requestDone at h
  split at h
  · cases h
  · cases h
  · dsimp only at h
    split at h
    · cases h
    · cases h
      rfl

lemma replySent_core (v : ReaderView) (after : AfterReply) :
    (replySent v after).2.core.closeReason = v.core.closeReason := by
  cases after <;> rfl

lemma replySent_crypto (v : ReaderView) (after : AfterReply) :
    v.crypto = none ∨ (replySent v after).2.crypto = v.crypto := by
  cases hv : v.crypto with
  | none => exact .inl rfl
  | some crypto => cases after <;> simp [replySent, hv]

lemma acknowledge_eq (env : Env) (ch : Channel) (stamp : Stamp) (m : ClientMessage)
    (sequential : Bool) :
    ∃ queue events, acknowledge env stamp ch m sequential =
        ({ ch with writerQueue := queue }, events) ∧
      (events = [] ∨ events = [.acknowledged m.sequenceNumber]) := by
  unfold acknowledge Channel.tryWrite
  split
  · next ch' hw =>
    split at hw <;> cases hw
    exact ⟨_, _, rfl, .inr rfl⟩
  · next ch' hw =>
    split at hw <;> cases hw
    exact ⟨ch.writerQueue, _, rfl, .inl rfl⟩

theorem readerAck_cases {stamp : Stamp} (h : readerAck env stamp k ch = some o) :
    ∃ m queue events reader, (events = [] ∨ events = [.acknowledged m.sequenceNumber]) ∧
      ((ch.reader = .stored m ∧ reader = .select) ∨ (ch.reader = .due m ∧ reader = .delivering m)) ∧
      o = ⟨k, { ch with writerQueue := queue, reader }, events⟩ := by
  unfold readerAck at h
  split at h
  · next m hpc =>
    obtain ⟨queue, events, hack, hev⟩ := acknowledge_eq env ch stamp m false
    rw [hack] at h
    cases h
    exact ⟨m, queue, events, .select, hev, .inl ⟨hpc, rfl⟩, rfl⟩
  · next m hpc =>
    obtain ⟨queue, events, hack, hev⟩ := acknowledge_eq env ch stamp m true
    rw [hack] at h
    cases h
    exact ⟨m, queue, events, .delivering m, hev, .inr ⟨hpc, rfl⟩, rfl⟩
  · cases h

/-- A delivery that goes on is an inward step or calls `send_payload`. -/
lemma readerStep_progress {m : ClientMessage} {ch₁ : Channel} {p : Progress} {events : List Event}
    (hfrom : ch.reader.awaitsReply = false) (hslot : ch₁.readerSend = ch.readerSend)
    (hkept : ch.Kept ch₁) (hevents : ∀ e ∈ events, e.isInbound = true)
    (htype : ∀ payloadType payload after, p = .reply payloadType payload after →
      payloadType ≠ .output) :
    ReaderStep c k ch ⟨k, progress m ch₁ p, events⟩ := by
  have hkept' : ch.Kept (progress m ch₁ p) := by
    rw [progress_eq]
    exact ⟨hkept.command, hkept.commandQueue, hkept.commandSend, hkept.retransmit, hkept.aborted,
      hkept.chunkSize, hkept.closeReason⟩
  cases p with
  | finished result =>
    refine .inward k.inbound _ events hfrom ?_ hkept' hevents
    rw [progress_eq]
    exact hslot
  | reply payloadType payload after =>
    exact .called payloadType payload _ events hfrom rfl rfl (htype _ _ _ rfl) hkept' hevents

theorem reader_cases (ha : a.task = .reader) (h : perform env c k ch a = some o) :
    ReaderStep c k ch o := by
  cases a <;> simp only [Action.task, reduceCtorEq] at ha <;> simp only [perform] at h
  case readerPoll =>
    unfold readerPoll at h
    split at h <;> cases h
    next hpc =>
      exact .inward k.inbound _ [] (by simp [hpc, ReaderPc.awaitsReply]) rfl (.inner ch)
        (by simp)
  case readerFrame now frame =>
    obtain ⟨hpc, hout⟩ := readerFrame_cases h
    have hfrom : ch.reader.awaitsReply = false := by simp [hpc, ReaderPc.awaitsReply]
    cases hout with
    | data m hm => exact .inward k.inbound _ [] hfrom rfl (.inner ch) (by simp)
    | retired n => exact .retired n now _ hfrom rfl (.inner ch)
    | retiredWaking n => exact .retired n now _ hfrom ch.readerSend_notifyAck (.notifyAck ch)
    | control core hcore =>
      exact .inward k.inbound _ [] hfrom rfl (.of_core ch (fun r hr => hcore.closeReason hr))
        (by simp)
    | failing reason => exact .inward k.inbound _ [] hfrom rfl (.inner ch) (by simp)
  case readerRoute =>
    unfold readerRoute at h
    split at h <;> cases h
    next m hpc =>
      exact .inward k.inbound _ [] (by simp [hpc, ReaderPc.awaitsReply]) rfl (.inner ch)
        (by simp)
  case readerStore =>
    unfold readerStore at h
    split at h
    · next m hpc =>
      have hfrom : ch.reader.awaitsReply = false := by simp [hpc, ReaderPc.awaitsReply]
      split at h <;> cases h
      · exact .inward _ _ [] hfrom rfl (.inner ch) (by simp)
      · exact .inward _ _ [] hfrom rfl (.inner ch) (by simp)
    · cases h
  case readerAck stamp =>
    obtain ⟨m, queue, events, reader, hev, hpc, rfl⟩ := readerAck_cases h
    have hfrom : ch.reader.awaitsReply = false := by
      obtain ⟨hpc, -⟩ | ⟨hpc, -⟩ := hpc <;> simp [hpc, ReaderPc.awaitsReply]
    refine .inward k.inbound _ events hfrom rfl (.inner ch) ?_
    obtain rfl | rfl := hev <;> simp [Event.isInbound]
  case readerDeliver nonce =>
    obtain ⟨m, d, v, output, hpc, hd, hcase⟩ := readerDeliver_cases h
    have hdel := deliver_cases env nonce (readerView k ch) m
    rw [hd] at hdel
    have hfrom : ch.reader.awaitsReply = false := by simp [hpc, ReaderPc.awaitsReply]
    have hcore : ∀ r, ch.core.closeReason = some r → v.core.closeReason = some r :=
      fun r hr => hdel.closeReason hr
    obtain ⟨p, rfl, rfl⟩ | ⟨request, events, rfl, hev, rfl⟩ := hcase
    · refine readerStep_progress hfrom rfl (.of_core ch hcore) (by simp [Event.isInbound]) ?_
      intro payloadType payload after hp
      subst hp
      cases hdel
      simp
    · refine .inward k.inbound _ events hfrom rfl (.of_core ch hcore) ?_
      obtain rfl | ⟨rfl, -⟩ := hev <;> simp [Event.isInbound]
  case readerNegotiated =>
    obtain ⟨m, request, p, v, calls, hpc, hd, rfl⟩ := readerNegotiated_cases h
    refine readerStep_progress (by simp [hpc, ReaderPc.awaitsReply]) rfl (.inner ch) (by simp) ?_
    intro payloadType payload after hp
    have hreply : (requestDone env ch.kmsCalls (readerView k ch) request).1 =
        .reply payloadType payload after := by
      rw [hd]
      exact hp
    simp [requestDone_reply hreply]
  case readerReplied =>
    obtain ⟨m, after, hpc, ⟨hslot, result, v, hv, rfl⟩ | ⟨e, hslot, rfl⟩⟩ := readerReplied_cases h
    · have hcore := replySent_core (readerView k ch) after
      have hcrypto := replySent_crypto (readerView k ch) after
      rw [hv] at hcore hcrypto
      rw [progress_eq]
      exact .returned _ v.crypto _ hslot rfl hcrypto (.of_core ch (fun r hr => hcore.trans hr))
    · rw [progress_eq]
      exact .returned _ k.crypto _ hslot rfl (.inr rfl) (.inner ch)
  case readerAdvance =>
    unfold readerAdvance at h
    split at h <;> cases h
    next m hpc =>
      exact .inward _ _ _ (by simp [hpc, ReaderPc.awaitsReply]) rfl (.inner ch)
        (by simp [Event.isInbound])
  case readerTake =>
    unfold readerTake at h
    split at h <;> cases h
    next n hpc =>
      exact .inward _ _ [] (by simp [hpc, ReaderPc.awaitsReply]) rfl (.inner ch)
        (by simp)
  case readerClose =>
    unfold readerClose at h
    split at h <;> cases h
    next reason m hpc =>
      exact .inward k.inbound _ [] (by simp [hpc, ReaderPc.awaitsReply]) rfl
        (.of_core ch (fun r hr => SessionCore.closeReason_close hr _)) (by simp)
  case readerAbort =>
    unfold readerAbort at h
    split at h
    · next hab hpc =>
      cases h
      exact .inward k.inbound _ [] (by simp [hpc, ReaderPc.awaitsReply]) rfl (.inner ch) (by simp)
    · next m request hab hpc =>
      split at h <;> cases h
      exact .inward k.inbound _ [] (by simp [hpc, ReaderPc.awaitsReply]) rfl (.inner ch) (by simp)
    · next m after hab hpc =>
      split at h
      · next hslot =>
        cases h
        exact .aborted hab (by simp [hpc, ReaderPc.awaitsReply]) hslot
      · cases h
    · cases h

/-- The reader leaves the command task and the close reason alone. -/
lemma ReaderStep.kept (h : ReaderStep c k ch o) : ch.Kept o.channel := by
  cases h with
  | inward inbound ch' events hfrom hslot hkept hevents => exact hkept
  | called payloadType payload ch' events hfrom hto hslot htype hkept hevents => exact hkept
  | returned result crypto ch' hfrom hslot hcrypto hkept => exact hkept
  | retired n now ch' hfrom hslot hkept => exact hkept
  | aborted haborted hfrom hslot => exact .inner ch

/-! ## Any operation -/

/-- What an operation does, by the task it belongs to. -/
inductive ChannelStep (env : Env) (c : ℕ) (k : Continuity) (ch : Channel) (o : Outcome) : Prop
  | send (who : Sender) (h : SendStep env c who k ch o)
  | command (h : CommandStep c k ch o)
  | reader (h : ReaderStep c k ch o)
  | background (h : BackgroundStep k ch o)
  | accepted (command : Command) (hcommand : ∀ p d, command = .control p d → p = .size)
      (halive : ch.command ≠ .ended)
      (h : o = ⟨k, { ch with commandQueue := ch.commandQueue ++ [command] }, [.accepted command]⟩)

theorem perform_cases (h : perform env c k ch a = some o) : ChannelStep env c k ch o := by
  cases ha : a.task with
  | send who => exact .send who (send_cases ha h)
  | writer => exact .background (writer_cases ha h)
  | heartbeat => exact .background (heartbeat_cases ha h)
  | retransmit => exact .background (retransmit_cases ha h)
  | command => exact .command (command_cases ha h)
  | reader => exact .reader (reader_cases ha h)
  | handle =>
    cases handle_cases ha h with
    | accepted command hcommand halive => exact .accepted command hcommand halive rfl
    | ended hb => exact .background hb

/-- A call slot is in use only while its task waits for it. -/
structure Channel.Tidy (ch : Channel) : Prop where
  command : ch.command.sending = false → ch.commandSend = .idle
  reader : ch.reader.awaitsReply = false → ch.readerSend = .idle

lemma Channel.Tidy.open (config : ChannelConfig) : (Channel.open config).Tidy :=
  ⟨fun _ => rfl, fun _ => rfl⟩

lemma SendPc.unnotified_eq_idle {pc : SendPc} : pc.unnotified = .idle ↔ pc = .idle := by
  cases pc <;> simp [SendPc.unnotified]

section

variable (ch) (who : Sender) (pc : SendPc)

@[simp] lemma Channel.slot_setSlot : (ch.setSlot who pc).slot who = pc := by
  cases who <;> rfl

lemma Channel.slot_setSlot_of_ne {who' : Sender} (h : who' ≠ who) :
    (ch.setSlot who pc).slot who' = ch.slot who' := by
  cases who <;> cases who' <;> first | rfl | exact absurd rfl h

end

@[simp] lemma Channel.slot_writerQueue (ch : Channel) (queue : List Frame) (who : Sender) :
    ({ ch with writerQueue := queue } : Channel).slot who = ch.slot who := by
  cases who <;> rfl

/-- What a step of a call leaves alone. -/
structure SendFrame (who : Sender) (k : Continuity) (ch : Channel) (o : Outcome) : Prop where
  command : o.channel.command = ch.command
  commandQueue : o.channel.commandQueue = ch.commandQueue
  reader : o.channel.reader = ch.reader
  core : o.channel.core = ch.core
  aborted : o.channel.aborted = ch.aborted
  chunkSize : o.channel.chunkSize = ch.chunkSize
  retransmit : o.channel.retransmit = ch.retransmit
  inbound : o.cont.inbound = k.inbound
  crypto : o.cont.crypto = k.crypto
  capacity : o.cont.outgoing.capacity = k.outgoing.capacity
  slot : ∀ who', who' ≠ who → o.channel.slot who' = ch.slot who'

lemma SendFrame.setSlot {who : Sender} {sequence : Int64} {holder : Option (ℕ × Sender)}
    {outgoing : OutgoingBuffer} {pc : SendPc} {queue : List Frame} {events : List Event}
    (hcapacity : outgoing.capacity = k.outgoing.capacity) :
    SendFrame who k ch ⟨{ k with sequence, holder, outgoing },
      { ch.setSlot who pc with writerQueue := queue }, events⟩ := by
  refine ⟨?_, ?_, ?_, ?_, ?_, ?_, ?_, rfl, rfl, hcapacity, ?_⟩
  case refine_8 => exact fun who' h => ch.slot_setSlot_of_ne who pc h
  all_goals cases who <;> rfl

lemma SendStep.frame {who : Sender} (h : SendStep env c who k ch o) : SendFrame who k ch o := by
  cases h with
  | tracked out wire now hslot hroom => exact .setSlot rfl
  | _ => exact .setSlot rfl

lemma SendStep.slot_ne_idle {who : Sender} (h : SendStep env c who k ch o) :
    ch.slot who ≠ .idle := by
  cases h <;> simp [*]

lemma Channel.Tidy.send {who : Sender} (ht : ch.Tidy) (h : SendStep env c who k ch o) :
    o.channel.Tidy := by
  have hf := h.frame
  have hbusy := h.slot_ne_idle
  cases who with
  | reader =>
    refine ⟨fun hc => ?_, fun hr => ?_⟩
    · rw [show o.channel.commandSend = ch.commandSend from hf.slot .command (by simp)]
      exact ht.command (hf.command ▸ hc)
    · exact absurd (ht.reader (hf.reader ▸ hr)) hbusy
  | command =>
    refine ⟨fun hc => ?_, fun hr => ?_⟩
    · exact absurd (ht.command (hf.command ▸ hc)) hbusy
    · rw [show o.channel.readerSend = ch.readerSend from hf.slot .reader (by simp)]
      exact ht.reader (hf.reader ▸ hr)

/-- What a step of the command task leaves alone. -/
structure CommandFrame (k : Continuity) (ch : Channel) (o : Outcome) : Prop where
  reader : o.channel.reader = ch.reader
  readerSend : o.channel.readerSend = ch.readerSend
  core : Closing ch.core o.channel.core
  aborted : o.channel.aborted = ch.aborted
  chunkSize : o.channel.chunkSize = ch.chunkSize
  retransmit : o.channel.retransmit = ch.retransmit
  outgoing : o.cont.outgoing = k.outgoing
  inbound : o.cont.inbound = k.inbound
  crypto : o.cont.crypto = k.crypto
  events : ∀ e ∈ o.events, ∃ command cipher, e = .admitted command cipher

lemma CommandStep.frame (h : CommandStep c k ch o) : CommandFrame k ch o := by
  have hstream : ∀ (data : Bytes) (events : List Event),
      (∀ e ∈ events, ∃ command cipher, e = .admitted command cipher) →
      CommandFrame k ch ⟨k, ch.sendStreamData data, events⟩ := by
    intro data events hevents
    unfold Channel.sendStreamData
    split <;> exact ⟨rfl, rfl, .inl rfl, rfl, rfl, rfl, rfl, rfl, rfl, hevents⟩
  cases h with
  | admittedData bytes hpc => exact hstream bytes _ (by simp)
  | chunkSent rest hpc hslot => exact hstream rest _ (by simp)
  | ended core hpc hcore => exact ⟨rfl, rfl, hcore, rfl, rfl, rfl, rfl, rfl, rfl, by simp⟩
  | aborted hpc hslot =>
    exact ⟨rfl, rfl, .inl rfl, rfl, rfl, rfl, by simp, by simp, by simp, by simp⟩
  | _ => exact ⟨rfl, rfl, .inl rfl, rfl, rfl, rfl, rfl, rfl, rfl, by simp⟩

lemma Channel.Tidy.sendStreamData (ht : ch.Tidy) (data : Bytes) : (ch.sendStreamData data).Tidy := by
  unfold Channel.sendStreamData
  split
  · exact ⟨fun _ => rfl, ht.reader⟩
  · exact ⟨fun h => by simp [CommandPc.sending] at h, ht.reader⟩

lemma Channel.Tidy.commandStep (ht : ch.Tidy) (h : CommandStep c k ch o) : o.channel.Tidy := by
  cases h with
  | moved pc hfrom hto hheld hlive hlive' => exact ⟨fun _ => ht.command hfrom, ht.reader⟩
  | received command rest hpc hqueue =>
    exact ⟨fun _ => ht.command (by simp [hpc, CommandPc.sending]), ht.reader⟩
  | admittedData bytes hpc => exact ht.sendStreamData bytes
  | admittedControl payloadType data hpc =>
    exact ⟨fun h => by simp [CommandPc.sending] at h, ht.reader⟩
  | chunkSent rest hpc hslot => exact ht.sendStreamData rest
  | controlSent hpc hslot => exact ⟨fun _ => rfl, ht.reader⟩
  | failed e hpc hslot => exact ⟨fun _ => rfl, ht.reader⟩
  | ended core hpc hcore => exact ⟨fun _ => rfl, ht.reader⟩
  | aborted hpc hslot => exact ⟨fun _ => rfl, ht.reader⟩

/-- The command task's slot stays tidy when the reader moves. -/
lemma Channel.Kept.command_idle {ch' : Channel} (hkept : ch.Kept ch') (ht : ch.Tidy)
    (h : ch'.command.sending = false) : ch'.commandSend = .idle := by
  have hidle := ht.command (hkept.command ▸ h)
  have hslot := hkept.commandSend
  rw [hidle] at hslot
  exact SendPc.unnotified_eq_idle.mp hslot

lemma Channel.Tidy.readerStep (ht : ch.Tidy) (h : ReaderStep c k ch o) : o.channel.Tidy := by
  cases h with
  | inward inbound ch' events hfrom hslot hkept hevents =>
    exact ⟨hkept.command_idle ht, fun _ => hslot.trans (ht.reader hfrom)⟩
  | called payloadType payload ch' events hfrom hto hslot htype hkept hevents =>
    exact ⟨hkept.command_idle ht, fun h => by simp [hto] at h⟩
  | returned result crypto ch' hfrom hslot hcrypto hkept =>
    exact ⟨hkept.command_idle ht, fun _ => hslot⟩
  | retired n now ch' hfrom hslot hkept =>
    refine ⟨hkept.command_idle ht, fun _ => ?_⟩
    rw [ht.reader hfrom] at hslot
    exact SendPc.unnotified_eq_idle.mp hslot
  | aborted haborted hfrom hslot => exact ⟨ht.command, fun _ => rfl⟩

/-- A core that was closed stays closed, with its reason. -/
lemma Closing.closeReason {core core' : SessionCore} (h : Closing core core') {r : CloseReason}
    (hr : core.closeReason = some r) : core'.closeReason = some r := by
  obtain rfl | ⟨reason, rfl⟩ := h
  · exact hr
  · exact SessionCore.closeReason_close hr reason

lemma ChannelStep.closeReason (h : ChannelStep env c k ch o) {r : CloseReason}
    (hr : ch.core.closeReason = some r) : o.channel.core.closeReason = some r := by
  cases h with
  | send who h =>
    rw [h.frame.core]
    exact hr
  | command h => exact h.frame.core.closeReason hr
  | reader h => exact h.kept.closeReason r hr
  | background h =>
    obtain ⟨outgoing, core, aborted, queue, writer, heartbeat, retransmit, events, -, -, hcore, -,
      -, -⟩ := h
    exact hcore.closeReason hr
  | accepted command hcommand halive h =>
    subst h
    exact hr

/-- An open channel was open before. -/
lemma open_before (h : perform env c k ch a = some o) (hopen : o.channel.core.isClosed = false) :
    ch.core.isClosed = false := by
  by_contra hclosed
  obtain ⟨r, hr⟩ := Option.isSome_iff_exists.mp (Bool.eq_true_of_not_eq_false hclosed)
  simp [SessionCore.isClosed, (perform_cases h).closeReason hr] at hopen

/-- Only a closed channel is aborted. -/
lemma ChannelStep.aborted_closed (h : ChannelStep env c k ch o)
    (hch : ch.aborted = true → ch.core.isClosed = true) :
    o.channel.aborted = true → o.channel.core.isClosed = true := by
  intro hab
  have hstays : ch.core.isClosed = true → o.channel.core.isClosed = true := by
    intro hclosed
    obtain ⟨r, hr⟩ := Option.isSome_iff_exists.mp hclosed
    simp [SessionCore.isClosed, h.closeReason hr]
  cases h with
  | send who h => exact hstays (hch (h.frame.aborted ▸ hab))
  | command h => exact hstays (hch (h.frame.aborted ▸ hab))
  | reader h => exact hstays (hch (h.kept.aborted ▸ hab))
  | background h =>
    obtain ⟨outgoing, core, aborted, queue, writer, heartbeat, retransmit, events, -, -, -,
      haborted, -, -⟩ := h
    obtain rfl | hclosed := haborted
    · exact hstays (hch hab)
    · exact hclosed
  | accepted command hcommand halive h =>
    subst h
    exact hch hab

/-- Call slots stay tidy. -/
theorem Channel.Tidy.step (ht : ch.Tidy) (h : ChannelStep env c k ch o) : o.channel.Tidy := by
  cases h with
  | send who h => exact ht.send h
  | command h => exact ht.commandStep h
  | reader h => exact ht.readerStep h
  | background h =>
    cases h
    exact ⟨ht.command, ht.reader⟩
  | accepted command hcommand halive h =>
    subst h
    exact ⟨ht.command, ht.reader⟩

/-- The only control command is the size of the terminal. -/
def Channel.Controls (ch : Channel) : Prop :=
  ∀ p d, .control p d ∈ ch.command.held.toList ++ ch.commandQueue → p = .size

lemma Channel.Controls.open (config : ChannelConfig) : (Channel.open config).Controls := by
  simp [Channel.Controls, Channel.open, CommandPc.held]

lemma Channel.Controls.sendStreamData (hc : ch.Controls) (data : Bytes) :
    (ch.sendStreamData data).Controls := by
  have hqueue : ∀ p d, Command.control p d ∈ ch.commandQueue → p = .size :=
    fun p d hmem => hc p d (List.mem_append_right _ hmem)
  unfold Channel.sendStreamData
  split <;> simpa [Channel.Controls, CommandPc.held] using hqueue

lemma Channel.Controls.commandStep (hc : ch.Controls) (h : CommandStep c k ch o) :
    o.channel.Controls := by
  have hqueue : ∀ p d, Command.control p d ∈ ch.commandQueue → p = .size :=
    fun p d hmem => hc p d (List.mem_append_right _ hmem)
  cases h with
  | moved pc hfrom hto hheld hlive hlive' =>
    show ∀ p d, _ ∈ pc.held.toList ++ ch.commandQueue → _
    rw [hheld]
    exact hc
  | received command rest hpc hqueue' =>
    intro p d hmem
    refine hqueue p d ?_
    rw [hqueue']
    simpa [CommandPc.held] using hmem
  | admittedData bytes hpc => exact hc.sendStreamData bytes
  | chunkSent rest hpc hslot => exact hc.sendStreamData rest
  | ended core hpc hcore => simp [Channel.Controls, Channel.endCommand, CommandPc.held]
  | aborted hpc hslot => simp [Channel.Controls, Channel.endCommand, CommandPc.held]
  | _ => simpa [Channel.Controls, CommandPc.held] using hqueue

theorem Channel.Controls.step (hc : ch.Controls) (h : ChannelStep env c k ch o) :
    o.channel.Controls := by
  cases h with
  | send who h =>
    unfold Channel.Controls
    rw [h.frame.command, h.frame.commandQueue]
    exact hc
  | command h => exact hc.commandStep h
  | reader h =>
    unfold Channel.Controls
    rw [h.kept.command, h.kept.commandQueue]
    exact hc
  | background h =>
    cases h
    exact hc
  | accepted command hcommand halive h =>
    subst h
    intro p d hmem
    simp only [← List.append_assoc, List.mem_append (s := _ ++ _), List.mem_singleton] at hmem
    obtain hmem | rfl := hmem
    · exact hc p d hmem
    · exact hcommand p d rfl

/-- All channels have a property. -/
def System.Each (s : System) (P : Channel → Prop) : Prop :=
  ∀ (c : ℕ) (ch : Channel), s.channels[c]? = some ch → P ch

/-- A property that all channels have at first, every new one has and every operation of the channel
keeps holds of all channels throughout. -/
theorem channels_invariant_from {init : System} {guard : System → Label → System → Prop}
    {P : Channel → Prop} (hinit : init.Each P) (hopen : ∀ config, P (Channel.open config))
    (hstep : ∀ c k ch o, P ch → ChannelStep env c k ch o → P o.channel) {s : System}
    (hs : Reachable (System.step env) guard init s) :
    s.Each P := by
  refine Reachable.invariant (P := fun s => s.Each P) hinit ?_ hs
  intro s l s' ih hs' _ c ch hch
  obtain ⟨c', a, ch', o, -, hch', ho, rfl⟩ | ⟨config', -, -, rfl⟩ := System.step_cases hs'
  · obtain ⟨-, rfl⟩ | ⟨-, hold⟩ := System.channel_after hch
    · exact hstep c' s.cont ch' o (ih c' ch' hch') (perform_cases ho)
    · exact ih c ch hold
  · obtain ⟨-, rfl⟩ | hold := System.channel_resumed hch
    · exact hopen config'
    · exact ih c ch hold

/-- The same for a session that was just opened. -/
theorem channels_invariant {config : ChannelConfig} {guard : System → Label → System → Prop}
    {P : Channel → Prop} (hopen : ∀ config, P (Channel.open config))
    (hstep : ∀ c k ch o, P ch → ChannelStep env c k ch o → P o.channel) {s : System}
    (hs : Reachable (System.step env) guard (System.start config) s) :
    s.Each P :=
  channels_invariant_from (fun _ _ hch => System.channel_start hch ▸ hopen config) hopen hstep hs

end SsmBridge
