import SsmBridge.Properties.Numbering

/-!
# Where a call of `send_payload` is parked

`send_payload` holds the lock on `Continuity::sequence` while it waits twice: for room in the
outgoing buffer, which only acknowledgements make, and for room in the writer queue, which only the
writer makes.

*The reader.*  Acknowledgements are processed by the reader task alone, and the reader sends too: its
answers to handshake and challenge messages go through `send_payload`.  When it finds the buffer
full, or the command task parked on a full buffer with the lock in its hands, it waits for an
acknowledgement that only it could process.  `reader_not_starved` is what holds as long as no step
runs into that.

*The successor.*  A call parked on the writer queue is not woken by a close, and the writer may be
stuck in a socket that takes nothing more.  The lock then stays with the closed channel, and every
channel that resumes the session waits for it.  `closed_channel_unblocked` is what holds as long as
no channel closes, or goes on, with a full writer queue.
-/

namespace SsmBridge

open Machine

variable {env : Env} {c : ℕ} {k : Continuity} {ch : Channel} {o : Outcome} {a : Action}

/-! ## The reader and the acknowledgements -/

/-- The call is parked until an acknowledgement arrives: no wake-up has reached it. -/
def SendPc.awaitsAck : SendPc → Bool
  | .waiting _ _ notified => !notified
  | _ => false

/-- The call is parked until it gets the lock. -/
def SendPc.awaitsLock : SendPc → Bool
  | .locking _ => true
  | _ => false

/-- The reader of an open channel is parked inside `send_payload`, and short of a close only an
acknowledgement would let it go on: it waits for one itself, or for the lock that the command task
keeps while waiting for one. -/
def System.ReaderStarved (s : System) (c : ℕ) (ch : Channel) : Prop :=
  ch.core.isClosed = false ∧
    (ch.readerSend.awaitsAck = true ∨
      (ch.readerSend.awaitsLock = true ∧ s.cont.holder = some (c, .command) ∧
        ch.commandSend.awaitsAck = true))

/-- The outgoing buffer can take another message. -/
def Continuity.hasRoom (k : Continuity) : Bool :=
  decide (k.outgoing.pending.length < k.outgoing.capacity)

/-- On an open channel, the reader finds room for its reply, the command task finds room if the
reader is waiting for the lock, and the reader does not ask for the lock while the command task is
parked for room. -/
def Channel.answersFreely (k : Continuity) (ch : Channel) : Action → Bool
  | .track .reader _ => ch.core.isClosed || k.hasRoom
  | .track .command _ => ch.core.isClosed || k.hasRoom || !ch.readerSend.awaitsLock
  | .encrypt .reader _ => ch.core.isClosed || !ch.commandSend.awaitsAck
  | _ => true

/-- No step makes a reader wait for an acknowledgement. -/
def System.answersFreely (s : System) : Label → Bool
  | .act c a => (s.channels[c]?).all (fun ch => ch.answersFreely s.cont a)
  | .resume _ => true

/-- The reader of an open channel does not wait for an acknowledgement, nor for a call that does. -/
def Channel.ReaderFree (ch : Channel) : Prop :=
  ch.core.isClosed = false → ch.readerSend.awaitsAck = false ∧
    (ch.readerSend.awaitsLock = true → ch.commandSend.awaitsAck = false)

lemma Channel.ReaderFree.open (config : ChannelConfig) : (Channel.open config).ReaderFree :=
  fun _ => ⟨rfl, fun _ => rfl⟩

/-- The call is waiting for room in the writer queue, its message tracked. -/
def SendPc.awaitsWriter : SendPc → Bool
  | .writing _ _ => true
  | _ => false

/-- When a step of a call leaves it waiting: for an acknowledgement if it found the buffer full, for
the lock once its payload is encrypted, and for the writer once its message is tracked. -/
structure SendParks (a : Action) (who : Sender) (k : Continuity) (pc : SendPc) : Prop where
  ack : pc.awaitsAck = true → (∃ now, a = .track who now) ∧ k.hasRoom = false
  lock : pc.awaitsLock = true → ∃ nonce, a = .encrypt who nonce
  writer : pc.awaitsWriter = true → ∃ now, a = .track who now

/-- A call that has returned or goes on holding the lock is not waiting. -/
lemma SendParks.none {who : Sender} {pc : SendPc} (hack : pc.awaitsAck = false)
    (hlock : pc.awaitsLock = false) (hwriter : pc.awaitsWriter = false) : SendParks a who k pc :=
  ⟨by simp [hack], by simp [hlock], by simp [hwriter]⟩

lemma send_parks {who : Sender} (ha : a.task = .send who) (h : perform env c k ch a = some o) :
    SendParks a who k (o.channel.slot who) := by
  cases a <;> simp only [Action.task, Task.send.injEq, reduceCtorEq] at ha <;> subst ha <;>
    simp only [perform] at h
  case encrypt who nonce =>
    have hlocking : ∀ out, SendParks (.encrypt who nonce) who k (.locking out) := fun out =>
      ⟨by simp [SendPc.awaitsAck], fun _ => ⟨nonce, rfl⟩, by simp [SendPc.awaitsWriter]⟩
    unfold sendEncrypt at h
    split at h
    · split at h
      · split at h <;> cases h <;> rw [Channel.slot_setSlot]
        · exact .none rfl rfl rfl
        · exact hlocking _
      · cases h
        rw [Channel.slot_setSlot]
        exact hlocking _
    · cases h
  case lock stamp =>
    unfold sendLock at h
    split at h <;> cases h
    rw [Channel.slot_setSlot]
    exact .none rfl rfl rfl
  case track now =>
    unfold sendTrack at h
    split at h
    · split at h <;> cases h
      · rw [Channel.slot_setSlot]
        exact ⟨by simp [SendPc.awaitsAck], by simp [SendPc.awaitsLock], fun _ => ⟨now, rfl⟩⟩
      · next outgoing htrack =>
        rw [Channel.slot_setSlot]
        refine ⟨fun _ => ⟨⟨now, rfl⟩, ?_⟩, by simp [SendPc.awaitsLock],
          by simp [SendPc.awaitsWriter]⟩
        unfold OutgoingBuffer.track at htrack
        split at htrack
        · next hfull => simpa [Continuity.hasRoom] using hfull
        · cases htrack
    · cases h
  case retry =>
    unfold sendRetry at h
    split at h
    · split at h <;> cases h
      rw [Channel.slot_setSlot]
      exact .none rfl rfl rfl
    · cases h
  case giveUp =>
    unfold sendGiveUp at h
    split at h
    · split at h <;> cases h
      rw [Channel.slot_setSlot]
      exact .none rfl rfl rfl
    · cases h
  case write =>
    unfold sendWrite at h
    split at h
    · split at h
      · cases h
        rw [Channel.slot_writerQueue, Channel.slot_setSlot]
        exact .none rfl rfl rfl
      · split at h <;> cases h
        rw [Channel.slot_setSlot]
        exact .none rfl rfl rfl
    · cases h

lemma Channel.ReaderFree.send {who : Sender} (hch : ch.ReaderFree) (ha : a.task = .send who)
    (h : perform env c k ch a = some o) (hguard : ch.answersFreely k a = true) :
    o.channel.ReaderFree := by
  have hframe := (send_cases ha h).frame
  have hparks := send_parks ha h
  intro hopen
  rw [hframe.core] at hopen
  obtain ⟨hack, hlock⟩ := hch hopen
  cases who with
  | reader =>
    have hother : o.channel.commandSend = ch.commandSend := hframe.slot .command (by simp)
    refine ⟨?_, fun hslot => ?_⟩
    · by_contra hslot
      obtain ⟨⟨now, rfl⟩, hfull⟩ := hparks.ack (Bool.eq_true_of_not_eq_false hslot)
      simp [Channel.answersFreely, hopen, hfull] at hguard
    · obtain ⟨nonce, rfl⟩ := hparks.lock hslot
      rw [hother]
      simpa [Channel.answersFreely, hopen] using hguard
  | command =>
    have hother : o.channel.readerSend = ch.readerSend := hframe.slot .reader (by simp)
    rw [hother]
    refine ⟨hack, fun hreader => ?_⟩
    by_contra hslot
    obtain ⟨⟨now, rfl⟩, hfull⟩ := hparks.ack (Bool.eq_true_of_not_eq_false hslot)
    simp [Channel.answersFreely, hopen, hfull, hreader] at hguard

/-- The call slot is idle, or was just filled. -/
def SendPc.Fresh (pc : SendPc) : Prop :=
  pc = .idle ∨ ∃ payloadType plain, pc = .called payloadType plain

lemma SendPc.Fresh.not_parked {pc : SendPc} (h : pc.Fresh) :
    pc.awaitsAck = false ∧ pc.awaitsLock = false ∧ pc.awaitsWriter = false := by
  obtain rfl | ⟨payloadType, plain, rfl⟩ := h <;> exact ⟨rfl, rfl, rfl⟩

/-- A step of the command task leaves its call alone, ends it or starts one. -/
lemma CommandStep.slot (h : CommandStep c k ch o) :
    o.channel.commandSend = ch.commandSend ∨ o.channel.commandSend.Fresh := by
  have hstream : ∀ data, (ch.sendStreamData data).commandSend.Fresh := by
    intro data
    unfold Channel.sendStreamData
    split
    · exact .inl rfl
    · exact .inr ⟨_, _, rfl⟩
  cases h with
  | moved pc hfrom hto hheld hlive hlive' => exact .inl rfl
  | received command rest hpc hqueue => exact .inl rfl
  | admittedData bytes hpc => exact .inr (hstream bytes)
  | chunkSent rest hpc hslot => exact .inr (hstream rest)
  | admittedControl payloadType data hpc => exact .inr (.inr ⟨_, _, rfl⟩)
  | _ => exact .inr (.inl rfl)

/-- So is the reader's, after a step of the reader task. -/
lemma ReaderStep.slot (ht : ch.Tidy) (h : ReaderStep c k ch o) : o.channel.readerSend.Fresh := by
  cases h with
  | inward inbound ch' events hfrom hslot hkept hevents =>
    exact .inl (hslot.trans (ht.reader hfrom))
  | called payloadType payload ch' events hfrom hto hslot htype hkept hevents =>
    exact .inr ⟨_, _, hslot⟩
  | returned result crypto ch' hfrom hslot hcrypto hkept => exact .inl hslot
  | retired n now ch' hfrom hslot hkept =>
    rw [ht.reader hfrom] at hslot
    exact .inl (SendPc.unnotified_eq_idle.mp hslot)
  | aborted haborted hfrom hslot => exact .inl rfl

lemma Channel.ReaderFree.background (hch : ch.ReaderFree) (hb : BackgroundStep k ch o)
    (hbefore : o.channel.core.isClosed = false → ch.core.isClosed = false) :
    o.channel.ReaderFree := by
  cases hb
  exact fun hopen => hch (hbefore hopen)

theorem Channel.ReaderFree.step (hch : ch.ReaderFree) (ht : ch.Tidy)
    (h : perform env c k ch a = some o) (hguard : ch.answersFreely k a = true) :
    o.channel.ReaderFree := by
  have hbefore := open_before h
  cases ha : a.task with
  | send who => exact hch.send ha h hguard
  | command =>
    intro hopen
    have hcommand := command_cases ha h
    obtain ⟨hack, hlock⟩ := hch (hbefore hopen)
    rw [hcommand.frame.readerSend]
    refine ⟨hack, fun hreader => ?_⟩
    obtain hslot | hslot := hcommand.slot
    · rw [hslot]
      exact hlock hreader
    · exact hslot.not_parked.1
  | reader =>
    intro _
    obtain ⟨hack, hlock, -⟩ := ((reader_cases ha h).slot ht).not_parked
    exact ⟨hack, fun hreader => by simp [hlock] at hreader⟩
  | writer => exact hch.background (writer_cases ha h) hbefore
  | heartbeat => exact hch.background (heartbeat_cases ha h) hbefore
  | retransmit => exact hch.background (retransmit_cases ha h) hbefore
  | handle =>
    cases handle_cases ha h with
    | accepted command hcommand halive => exact hch
    | ended hb => exact hch.background hb hbefore

/-- A session whose outgoing buffer holds `capacity` messages. -/
def System.startAt (capacity : ℕ) (config : ChannelConfig) : System :=
  { System.start config with
    cont := { Continuity.fresh with
      outgoing := OutgoingBuffer.new capacity maxRetransmitAttempts } }

/-- **The reader does not wait for what only the reader can produce.** Whatever the capacity of the
outgoing buffer and however the tasks and the agent's messages interleave: as long as the reader
meets neither a full buffer nor a command task that is parked on one, it is never parked inside
`send_payload` with nothing but an acknowledgement to let it go on. -/
theorem reader_not_starved (env : Env) (capacity : ℕ) (config : ChannelConfig) (s : System)
    (h : Reachable (System.step env) (fun s l _ => s.answersFreely l = true)
      (System.startAt capacity config) s) :
    ∀ c ch, s.channels[c]? = some ch → ¬ s.ReaderStarved c ch := by
  have hinit : ∀ {P : Channel → Prop}, (∀ config, P (Channel.open config)) →
      (System.startAt capacity config).Each P := by
    intro P hopen c ch hch
    have hstart : (System.start config).channels[c]? = some ch := hch
    exact System.channel_start hstart ▸ hopen config
  have hfree : s.Each Channel.ReaderFree := by
    refine Reachable.invariant_with (Q := fun s => s.Each Channel.Tidy)
      (P := fun s => s.Each Channel.ReaderFree) (fun s hs => ?_) (hinit .open) ?_ h
    · exact channels_invariant_from (hinit .open) .open (fun c k ch o ht h => ht.step h) hs
    · intro s l s' htidy ih hstep hguard c ch hch
      obtain ⟨c', a, ch', o, rfl, hch', ho, rfl⟩ | ⟨config', -, -, rfl⟩ := System.step_cases hstep
      · obtain ⟨-, rfl⟩ | ⟨-, hold⟩ := System.channel_after hch
        · refine (ih c' ch' hch').step (htidy c' ch' hch') ho ?_
          simpa [System.answersFreely, hch'] using hguard
        · exact ih c ch hold
      · obtain ⟨-, rfl⟩ | hold := System.channel_resumed hch
        · exact .open config'
        · exact ih c ch hold
  rintro c ch hch ⟨hopen, hack | ⟨hlock, -, hack⟩⟩
  · simp [(hfree c ch hch hopen).1] at hack
  · simp [(hfree c ch hch hopen).2 hlock] at hack

/-- The caller has queued two bytes when the handshake request comes, and the outgoing buffer has room
for two messages. The first byte is sent while the reader holds its encrypted answer, the answer
takes the other place, and the second byte parks. -/
def parkedRun : List Label :=
  onChannel 0 (receiving startPublication ++ ([.sendData [97], .sendData [98]] : List Action) ++
    admitting ++ ([.encrypt .command (toArray _ [])] : List Action) ++
    receivingData (agentMessage 0 .handshakeRequest plainRequestJson) ++
    ([.readerDeliver (toArray _ []), .readerNegotiated, .encrypt .reader (toArray _ []),
      .lock .command ⟨0, toArray _ []⟩, .track .command 0, .write .command, .commandReturn,
      .lock .reader ⟨0, toArray _ []⟩, .track .reader 0, .write .reader,
      .readerReplied] : List Action) ++
    admitting ++ numbering .command ++ ([.readerAdvance, .readerTake] : List Action))

theorem reader_not_starved_answering :
    ∃ (s : System) (ch : Channel), s.channels[0]? = some ch ∧
      s.issued.map (fun i => (i.sequence, i.out.payloadType)) =
        [(0, .output), (1, .handshakeResponse)] ∧
      ch.commandSend.awaitsAck = true ∧ ch.reader = .select ∧ ¬ s.ReaderStarved 0 ch := by
  have hrun : (runIf (System.step sampleEnv) (fun s l _ => s.answersFreely l)
      (System.startAt 2 sampleConfig) parkedRun).any (fun (s : System) =>
        (s.channels[0]?).any (fun (ch : Channel) => decide
          (s.issued.map (fun i => (i.sequence, i.out.payloadType)) =
              [(0, .output), (1, .handshakeResponse)] ∧
            ch.commandSend.awaitsAck = true ∧ ch.reader = .select))) = true := by
    decide +kernel
  have htest : ∀ (s : System) (l : Label) (_ : System), s.answersFreely l →
      s.answersFreely l = true := fun _ _ _ h => h
  obtain ⟨s, hs, hp⟩ := exists_of_runIf htest hrun
  obtain ⟨ch, hch, hp⟩ := (Option.any_eq_true _ _).mp hp
  obtain ⟨hissued, hack, hreader⟩ := of_decide_eq_true hp
  exact ⟨s, ch, hch, hissued, hack, hreader,
    reader_not_starved sampleEnv 2 sampleConfig s hs 0 ch hch⟩

/-! ### Filling the buffer -/

/-- A channel that has been told to start and whose tasks are all idle. -/
def idleChannel : Channel :=
  { Channel.open sampleConfig with core := (SessionCore.new 16).setSendable true }

/-- The same channel with the command task sending one byte. -/
def sendingChannel (pc : SendPc) : Channel :=
  { idleChannel with command := .streaming [], commandSend := pc }

/-- A session with one channel, without a cipher and before the first message of the agent. -/
def System.carrying (sequence : Int64) (holder : Option (ℕ × Sender)) (outgoing : OutgoingBuffer)
    (ch : Channel) (log : List (ℕ × Event)) : System :=
  ⟨⟨sequence, holder, outgoing, Continuity.fresh.inbound, none⟩, [ch], log⟩

/-- A call for one byte takes the lock. -/
def takingLock : List Action :=
  .sendData [97] :: admitting ++
    ([.encrypt .command (toArray _ []), .lock .command ⟨0, toArray _ []⟩] : List Action)

/-- Its message leaves for the socket. -/
def leaving : List Action :=
  [.write .command, .commandReturn, .writerPoll, .writerRecv, .writerSent]

/-- One more message is sent and not acknowledged. -/
lemma reachable_sendOne {init : System} {sequence : Int64} {outgoing : OutgoingBuffer}
    {log : List (ℕ × Event)} (hroom : outgoing.pending.length < outgoing.capacity)
    (h : Reachable (System.step sampleEnv) free init
      (.carrying sequence none outgoing idleChannel log)) :
    ∃ p log', Reachable (System.step sampleEnv) free init
      (.carrying (sequence + 1) none { outgoing with pending := outgoing.pending ++ [p] }
        idleChannel log') := by
  let out : Outgoing := ⟨.output, [97], none, [97]⟩
  let wire := (ClientMessage.new sampleEnv.sha256 ⟨0, toArray _ []⟩ .inputStreamData sequence
    .output [97]).serialize
  let tracked : OutgoingBuffer :=
    { outgoing with pending := outgoing.pending ++ [{ wire, sequence, lastSent := 0, attempts := 1 }] }
  obtain ⟨log₁, hlock⟩ : ∃ log₁, run (System.step sampleEnv)
      (.carrying sequence none outgoing idleChannel log) (onChannel 0 takingLock) =
      some (.carrying sequence (some (0, .command)) outgoing
        (sendingChannel (.tracking out wire)) log₁) := ⟨_, rfl⟩
  obtain ⟨log₂, htrack⟩ : ∃ log₂, System.step sampleEnv
      (.carrying sequence (some (0, .command)) outgoing (sendingChannel (.tracking out wire)) log₁)
      (.act 0 (.track .command 0)) =
      some (.carrying (sequence + 1) (some (0, .command)) tracked
        (sendingChannel (.writing sequence wire)) log₂) := by
    have hfull : ¬ outgoing.capacity ≤ outgoing.pending.length := by omega
    simp [System.carrying, System.step, perform, sendTrack, Channel.slot, Channel.setSlot,
      sendingChannel, OutgoingBuffer.track, hfull, tracked]
  obtain ⟨log₃, hwrite⟩ : ∃ log₃, run (System.step sampleEnv)
      (.carrying (sequence + 1) (some (0, .command)) tracked
        (sendingChannel (.writing sequence wire)) log₂) (onChannel 0 leaving) =
      some (.carrying (sequence + 1) none tracked idleChannel log₃) := ⟨_, rfl⟩
  exact ⟨_, log₃, ((h.of_run hlock).tail htrack trivial).of_run hwrite⟩

/-- An agent that acknowledges nothing lets the buffer fill up. -/
lemma reachable_loaded (capacity n : ℕ) (hn : n ≤ capacity) :
    ∃ sequence outgoing log, outgoing.capacity = capacity ∧ outgoing.pending.length = n ∧
      Reachable (System.step sampleEnv) free (System.startAt capacity sampleConfig)
        (.carrying sequence none outgoing idleChannel log) := by
  induction n with
  | zero =>
    have hrun : run (System.step sampleEnv) (System.startAt capacity sampleConfig)
        (onChannel 0 (receiving startPublication)) =
        some (.carrying 0 none (OutgoingBuffer.new capacity maxRetransmitAttempts) idleChannel
          []) := rfl
    exact ⟨_, _, _, rfl, rfl, Reachable.refl.of_run hrun⟩
  | succ n ih =>
    obtain ⟨sequence, outgoing, log, hcapacity, hpending, hs⟩ := ih (by omega)
    obtain ⟨p, log', hs'⟩ := reachable_sendOne (by omega) hs
    refine ⟨_, _, log', ?_, ?_, hs'⟩
    · exact hcapacity
    · simp [hpending]

/-- The agent's handshake request comes late: the reader's answer takes the lock. -/
def answeringLate : List Action :=
  receivingData (agentMessage 0 .handshakeRequest plainRequestJson) ++
    ([.readerDeliver (toArray _ []), .readerNegotiated, .encrypt .reader (toArray _ []),
      .lock .reader ⟨0, toArray _ []⟩] : List Action)

/-- **The reader waits for itself.** The buffer is full of messages of the command task when the
handshake request comes; the answer waits for room, and it is the reader who would receive the
acknowledgements that make room. -/
theorem late_handshake_starves_reader :
    ∃ s ch, Reachable (System.step sampleEnv) free
        (System.startAt messageBufferCapacity sampleConfig) s ∧
      s.channels[0]? = some ch ∧ s.ReaderStarved 0 ch := by
  obtain ⟨sequence, outgoing, log, hcapacity, hpending, hs⟩ :=
    reachable_loaded messageBufferCapacity messageBufferCapacity le_rfl
  obtain ⟨ch, log₁, out, wire, hlock, hopen, hslot⟩ : ∃ ch log₁ out wire,
      run (System.step sampleEnv) (.carrying sequence none outgoing idleChannel log)
        (onChannel 0 answeringLate) =
        some (.carrying sequence (some (0, .reader)) outgoing ch log₁) ∧
      ch.core.isClosed = false ∧ ch.readerSend = .tracking out wire :=
    ⟨_, _, _, _, rfl, rfl, rfl⟩
  have hfull : outgoing.capacity ≤ outgoing.pending.length := by omega
  have htrack : System.step sampleEnv (.carrying sequence (some (0, .reader)) outgoing ch log₁)
      (.act 0 (.track .reader 0)) =
      some (.carrying sequence (some (0, .reader)) outgoing
        { ch with readerSend := .waiting out wire false } log₁) := by
    simp [System.carrying, System.step, perform, sendTrack, Channel.slot, Channel.setSlot,
      hslot, OutgoingBuffer.track, hfull]
  exact ⟨_, _, (hs.of_run hlock).tail htrack trivial, rfl, hopen, .inl rfl⟩

/-! ## The writer queue -/

/-- The operation puts a frame on the writer queue that is no call's message, if there is room. -/
def Channel.pushes (ch : Channel) : Action → Bool
  | .heartbeatTick now => decide (now - ch.lastInbound ≤ ch.idleTimeout)
  | .retransmitWrite | .readerAck _ => true
  | _ => false

/-- What an operation does to the writer and its queue. -/
inductive QueueStep (a : Action) (ch ch' : Channel) : Prop
  | kept (halive : ch'.writerAlive = true → ch.writerAlive = true)
      (hlength : ch'.writerQueue.length ≤ ch.writerQueue.length)
  /-- A call hands its message over. -/
  | handed (who : Sender) (n : Int64) (wire : Bytes) (hslot : ch.slot who = .writing n wire)
      (hslot' : ch'.slot who = .returned (.ok ()))
      (hother : ∀ who', who' ≠ who → ch'.slot who' = ch.slot who')
  | pushed (ha : ch.pushes a = true) (halive : ch'.writerAlive = ch.writerAlive)
      (hcore : ch'.core = ch.core)
      (hlength : ch'.writerQueue.length = ch.writerQueue.length + 1)

/-- An operation that leaves the writer and its queue alone. -/
lemma QueueStep.same {ch' : Channel} (hwriter : ch'.writer = ch.writer)
    (hqueue : ch'.writerQueue = ch.writerQueue) : QueueStep a ch ch' := by
  refine .kept (fun h => ?_) (by rw [hqueue])
  rwa [Channel.writerAlive, hwriter] at h

/-- A frame was pushed, or dropped because there was no room. -/
lemma QueueStep.tryWrite (frame : Frame) (ha : ch.pushes a = true) :
    QueueStep a ch (ch.tryWrite frame).2 := by
  unfold Channel.tryWrite
  split
  · exact .pushed ha rfl rfl (by simp)
  · exact .same rfl rfl

/-- The reader's pc does not matter for the writer queue. -/
lemma QueueStep.withReader {ch' : Channel} (h : QueueStep a ch ch') (reader : ReaderPc) :
    QueueStep a ch { ch' with reader } := by
  cases h with
  | kept halive hlength => exact .kept halive hlength
  | handed who n wire hslot hslot' hother => exact .handed who n wire hslot hslot' hother
  | pushed ha halive hcore hlength => exact .pushed ha halive hcore hlength

lemma send_queue {who : Sender} (ha : a.task = .send who) (h : perform env c k ch a = some o) :
    QueueStep a ch o.channel := by
  cases send_cases ha h with
  | wrote n wire hslot =>
    refine .handed who n wire hslot ?_ fun who' hwho => ?_
    · rw [Channel.slot_writerQueue, Channel.slot_setSlot]
    · rw [Channel.slot_writerQueue, Channel.slot_setSlot_of_ne _ _ _ hwho]
  | _ => cases who <;> exact .same rfl rfl

lemma command_queue (ha : a.task = .command) (h : perform env c k ch a = some o) :
    QueueStep a ch o.channel := by
  have hstream : ∀ data, QueueStep a ch (ch.sendStreamData data) := by
    intro data
    unfold Channel.sendStreamData
    split <;> exact .same rfl rfl
  cases command_cases ha h with
  | admittedData bytes hpc => exact hstream bytes
  | chunkSent rest hpc hslot => exact hstream rest
  | _ => exact .same rfl rfl

/-- The writer takes frames off its queue and drops it when it ends. -/
lemma writer_queue (ha : a.task = .writer) (h : perform env c k ch a = some o) :
    QueueStep a ch o.channel := by
  cases a <;> simp only [Action.task, reduceCtorEq] at ha <;> simp only [perform] at h
  case writerPoll =>
    unfold writerPoll at h
    split at h <;> cases h
    next hpc => exact .kept (by simp [Channel.writerAlive, hpc]) le_rfl
  case writerRecv =>
    unfold writerRecv at h
    split at h <;> cases h
    · next frame rest hpc hqueue =>
      exact .kept (by simp [Channel.writerAlive, hpc]) (by simp [hqueue])
    · next hpc hqueue => exact .kept (by simp [Channel.writerAlive, hpc]) le_rfl
  case writerSent =>
    unfold writerSent at h
    split at h <;> cases h
    next frame hpc => exact .kept (by simp [Channel.writerAlive, hpc]) le_rfl
  case writerFailed message =>
    unfold writerFailed at h
    split at h <;> cases h
    next frame hpc => exact .kept (by simp [Channel.writerAlive, hpc]) le_rfl
  case writerFinish =>
    unfold writerFinish at h
    split at h <;> cases h
    exact .kept (by simp [Channel.writerAlive]) (by simp)
  case writerAbort =>
    unfold writerAbort at h
    split at h <;> cases h
    · exact .kept (by simp [Channel.writerAlive]) (by simp)
    · exact .kept (by simp [Channel.writerAlive]) (by simp)
    · exact .kept (by simp [Channel.writerAlive]) (by simp)

lemma heartbeat_queue (ha : a.task = .heartbeat) (h : perform env c k ch a = some o) :
    QueueStep a ch o.channel := by
  cases a <;> simp only [Action.task, reduceCtorEq] at ha <;> simp only [perform] at h
  case heartbeatPoll =>
    unfold heartbeatPoll at h
    split at h <;> cases h
    exact .same rfl rfl
  case heartbeatTick now =>
    unfold heartbeatTick at h
    split at h
    · dsimp only at h
      split at h <;> cases h
      · exact .same rfl rfl
      · next hidle =>
        have hwrite : QueueStep (.heartbeatTick now) ch (ch.tryWrite .ping).2 :=
          .tryWrite .ping (by simpa [Channel.pushes] using hidle)
        cases hwrite with
        | kept halive hlength => exact .kept halive hlength
        | handed who n wire hslot hslot' hother => exact .handed who n wire hslot hslot' hother
        | pushed ha halive hcore hlength => exact .pushed ha halive hcore hlength
    · cases h
  case heartbeatAbort =>
    unfold heartbeatAbort at h
    split at h <;> cases h
    exact .same rfl rfl

lemma retransmit_queue (ha : a.task = .retransmit) (h : perform env c k ch a = some o) :
    QueueStep a ch o.channel := by
  cases a <;> simp only [Action.task, reduceCtorEq] at ha <;> simp only [perform] at h
  case retransmitPoll =>
    unfold retransmitPoll at h
    split at h <;> cases h
    exact .same rfl rfl
  case retransmitTick now =>
    unfold retransmitTick at h
    split at h
    · split at h <;> cases h <;> exact .same rfl rfl
    · cases h
  case retransmitWrite =>
    unfold retransmitWrite at h
    split at h
    · split at h <;> cases h
      exact .pushed rfl rfl rfl (by simp)
    · cases h
  case retransmitStop =>
    unfold retransmitStop at h
    split at h
    · split at h <;> cases h
      exact .same rfl rfl
    · cases h
  case retransmitAbort =>
    unfold retransmitAbort at h
    split at h <;> cases h <;> exact .same rfl rfl

lemma handle_queue (ha : a.task = .handle) (h : perform env c k ch a = some o) :
    QueueStep a ch o.channel := by
  cases a <;> simp only [Action.task, reduceCtorEq] at ha <;> simp only [perform] at h
  case sendData data =>
    unfold sendData dispatch at h
    split at h <;> cases h
    exact .same rfl rfl
  case sendTerminalSize size =>
    unfold sendTerminalSize dispatch at h
    split at h <;> cases h
    exact .same rfl rfl
  case terminate =>
    cases h
    exact .same rfl rfl
  case drop =>
    cases h
    exact .same rfl rfl

lemma acknowledge_queue {stamp : Stamp} {m : ClientMessage} {sequential : Bool}
    (ha : ch.pushes a = true) (reader : ReaderPc) :
    QueueStep a ch { (acknowledge env stamp ch m sequential).1 with reader } := by
  have hwrite : QueueStep a ch (ch.tryWrite
      (.binary (buildAck env.sha256 env.ackJson stamp m sequential).serialize)).2 := .tryWrite _ ha
  unfold acknowledge
  split
  · next ch' hch' =>
    rw [hch'] at hwrite
    exact hwrite.withReader reader
  · next ch' hch' =>
    rw [hch'] at hwrite
    exact hwrite.withReader reader

/-- The reader task leaves the queue alone but for its acknowledgements. -/
lemma reader_queue (ha : a.task = .reader) (h : perform env c k ch a = some o) :
    QueueStep a ch o.channel := by
  cases a <;> simp only [Action.task, reduceCtorEq] at ha <;> simp only [perform] at h
  case readerPoll =>
    unfold readerPoll at h
    split at h <;> cases h
    exact .same rfl rfl
  case readerFrame now frame =>
    obtain ⟨-, hout⟩ := readerFrame_cases h
    cases hout <;> exact .same rfl rfl
  case readerRoute =>
    unfold readerRoute at h
    split at h <;> cases h
    exact .same rfl rfl
  case readerStore =>
    unfold readerStore at h
    split at h
    · split at h <;> cases h <;> exact .same rfl rfl
    · cases h
  case readerAck stamp =>
    unfold readerAck at h
    split at h <;> cases h
    · exact acknowledge_queue rfl .select
    · exact acknowledge_queue rfl (.delivering _)
  case readerDeliver nonce =>
    obtain ⟨m, d, v, output, -, -, ⟨p, -, rfl⟩ | ⟨request, events, -, -, rfl⟩⟩ :=
      readerDeliver_cases h
    · rw [progress_eq]
      exact .same rfl rfl
    · exact .same rfl rfl
  case readerNegotiated =>
    obtain ⟨m, request, p, v, calls, -, -, rfl⟩ := readerNegotiated_cases h
    rw [progress_eq]
    exact .same rfl rfl
  case readerReplied =>
    obtain ⟨m, after, -, ⟨-, result, v, -, rfl⟩ | ⟨e, -, rfl⟩⟩ := readerReplied_cases h <;>
      rw [progress_eq] <;> exact .same rfl rfl
  case readerAdvance =>
    unfold readerAdvance at h
    split at h <;> cases h
    exact .same rfl rfl
  case readerTake =>
    unfold readerTake at h
    split at h <;> cases h
    exact .same rfl rfl
  case readerClose =>
    unfold readerClose at h
    split at h <;> cases h
    exact .same rfl rfl
  case readerAbort =>
    unfold readerAbort at h
    split at h
    · cases h
      exact .same rfl rfl
    · split at h <;> cases h
      exact .same rfl rfl
    · split at h <;> cases h
      exact .same rfl rfl
    · cases h

/-- What an operation does to the writer queue. -/
theorem perform_queue (h : perform env c k ch a = some o) : QueueStep a ch o.channel := by
  cases ha : a.task with
  | send who => exact send_queue ha h
  | writer => exact writer_queue ha h
  | heartbeat => exact heartbeat_queue ha h
  | retransmit => exact retransmit_queue ha h
  | command => exact command_queue ha h
  | reader => exact reader_queue ha h
  | handle => exact handle_queue ha h

/-! ## The successor -/

/-- A call of the channel waits for the writer. -/
def Channel.awaitsWriter (ch : Channel) : Bool :=
  ch.readerSend.awaitsWriter || ch.commandSend.awaitsWriter

/-- The writer queue takes nothing more for now. -/
def Channel.writerFull (ch : Channel) : Bool :=
  ch.writerAlive && decide (writerQueueDepth ≤ ch.writerQueue.length)

/-- The call is parked inside `send_payload`, past the point where it took the lock: it waits for an
acknowledgement, or for a writer whose queue is full. -/
def Channel.parkedHolding (ch : Channel) (who : Sender) : Bool :=
  match ch.slot who with
  | .waiting _ _ notified => !notified && !ch.core.isClosed
  | .writing _ _ => ch.writerFull
  | _ => false

/-- A channel does not close while a call waits for a full writer queue; once it is closed, no
message is tracked while the queue is full, and no other frame fills it up while a call waits. -/
def Channel.leavesRoom (ch : Channel) (closes : Bool) (a : Action) : Bool :=
  match ch.core.isClosed, a with
  | false, _ => !closes || !ch.awaitsWriter || !ch.writerFull
  | true, .track _ _ => !ch.writerFull
  | true, _ => !ch.pushes a || !ch.awaitsWriter || !ch.writerAlive ||
      decide (ch.writerQueue.length + 1 < writerQueueDepth)

/-- No step leaves a call of a closed channel parked on the writer queue. -/
def System.leavesRoom (s : System) (l : Label) (s' : System) : Bool :=
  match l with
  | .act c a => (s.channels[c]?).all (fun ch => (s'.channels[c]?).all (fun ch' =>
      ch.leavesRoom ch'.core.isClosed a))
  | .resume _ => true

/-- On a closed channel no call waits for a full writer queue. -/
def Channel.Unblocked (ch : Channel) : Prop :=
  ch.core.isClosed = true → ∀ who, (ch.slot who).awaitsWriter = true → ch.writerFull = false

lemma Channel.Unblocked.open (config : ChannelConfig) : (Channel.open config).Unblocked := by
  intro hclosed
  cases hclosed

lemma SendPc.awaitsWriter_of_unnotified {pc pc' : SendPc} (h : pc'.unnotified = pc.unnotified) :
    pc'.awaitsWriter = pc.awaitsWriter := by
  cases pc <;> cases pc' <;> simp_all [SendPc.unnotified, SendPc.awaitsWriter]

/-- A call comes to wait for the writer by tracking its message. -/
lemma awaitsWriter_before (ht : ch.Tidy) (h : perform env c k ch a = some o) {who : Sender}
    (hslot : (o.channel.slot who).awaitsWriter = true) :
    (ch.slot who).awaitsWriter = true ∨ ∃ now, a = .track who now := by
  have hbackground : BackgroundStep k ch o → (ch.slot who).awaitsWriter = true := by
    intro hb
    cases hb
    cases who <;> exact hslot
  cases ha : a.task with
  | send who' =>
    by_cases hwho : who = who'
    · subst hwho
      exact .inr ((send_parks ha h).writer hslot)
    · rw [(send_cases ha h).frame.slot who hwho] at hslot
      exact .inl hslot
  | command =>
    have hcommand := command_cases ha h
    cases who with
    | reader =>
      left
      rw [← hslot]
      exact congrArg SendPc.awaitsWriter hcommand.frame.readerSend.symm
    | command =>
      obtain hsame | hfresh := hcommand.slot
      · left
        rw [← hslot]
        exact congrArg SendPc.awaitsWriter hsame.symm
      · exact absurd hslot (by simp [Channel.slot, hfresh.not_parked.2.2])
  | reader =>
    have hreader := reader_cases ha h
    cases who with
    | reader => exact absurd hslot (by simp [Channel.slot, (hreader.slot ht).not_parked.2.2])
    | command =>
      left
      rw [← hslot]
      exact (SendPc.awaitsWriter_of_unnotified hreader.kept.commandSend).symm
  | writer => exact .inl (hbackground (writer_cases ha h))
  | heartbeat => exact .inl (hbackground (heartbeat_cases ha h))
  | retransmit => exact .inl (hbackground (retransmit_cases ha h))
  | handle =>
    cases handle_cases ha h with
    | accepted command hcommand halive =>
      left
      cases who <;> exact hslot
    | ended hb => exact .inl (hbackground hb)

/-- Tracking leaves the core and the queue alone. -/
lemma track_kept {who : Sender} {now : ℕ} (h : perform env c k ch (.track who now) = some o) :
    o.channel.core = ch.core ∧ o.channel.writerFull = ch.writerFull := by
  simp only [perform, sendTrack] at h
  split at h
  · split at h <;> cases h <;> cases who <;> exact ⟨rfl, rfl⟩
  · cases h

theorem Channel.Unblocked.step (hch : ch.Unblocked) (ht : ch.Tidy)
    (halone : ∀ who who', (ch.slot who).awaitsWriter = true →
      (ch.slot who').awaitsWriter = true → who = who')
    (h : perform env c k ch a = some o) (hguard : ch.leavesRoom o.channel.core.isClosed a = true) :
    o.channel.Unblocked := by
  intro hclosed who hslot
  obtain hbefore | ⟨now, rfl⟩ := awaitsWriter_before ht h hslot
  · have hwaits : ch.awaitsWriter = true := by
      cases who with
      | reader => simp [Channel.awaitsWriter, show ch.readerSend.awaitsWriter = true from hbefore]
      | command => simp [Channel.awaitsWriter, show ch.commandSend.awaitsWriter = true from hbefore]
    cases perform_queue h with
    | kept halive hlength =>
      have hroom : ch.writerFull = false := by
        cases hopen : ch.core.isClosed with
        | true => exact hch hopen who hbefore
        | false => simpa [Channel.leavesRoom, hopen, hclosed, hwaits] using hguard
      by_contra hfull
      have hfull' := Bool.eq_true_of_not_eq_false hfull
      simp only [Channel.writerFull, Bool.and_eq_true, decide_eq_true_eq] at hfull'
      simp [Channel.writerFull, halive hfull'.1, hfull'.2.trans hlength] at hroom
    | handed who' n wire hfrom hto hother =>
      have hwho : who = who' := halone who who' hbefore (by rw [hfrom]; rfl)
      rw [hwho, hto] at hslot
      cases hslot
    | pushed ha halive hcore hlength =>
      rw [hcore] at hclosed
      have hroom : ch.writerAlive = false ∨ ch.writerQueue.length + 1 < writerQueueDepth := by
        cases a with
        | track who now => cases ha
        | _ => simpa [Channel.leavesRoom, hclosed, hwaits, ha] using hguard
      rw [Channel.writerFull, halive, hlength]
      obtain hdead | hroom := hroom
      · simp [hdead]
      · simp [hroom]
  · obtain ⟨hcore, hfull⟩ := track_kept h
    rw [hcore] at hclosed
    rw [hfull]
    simpa [Channel.leavesRoom, hclosed] using hguard

/-- The lock keeps two calls of a channel from waiting for the writer at once. -/
lemma Numbered.awaitsWriter_unique {s : System} (h : Numbered s) (hch : s.channels[c]? = some ch)
    {who who' : Sender} (hwho : (ch.slot who).awaitsWriter = true)
    (hwho' : (ch.slot who').awaitsWriter = true) : who = who' := by
  have hphase : ∀ who, (ch.slot who).awaitsWriter = true → s.stream.phase (c, who) ≠ .away := by
    intro who hslot
    show s.phase (c, who) ≠ .away
    rw [System.phase_self hch]
    cases hpc : ch.slot who <;> simp_all [SendPc.awaitsWriter, SendPc.phase]
  by_contra hne
  exact hphase who hwho (h.stream.away_of_ne (hphase who' hwho') (by simpa using hne))

/-- **A closed channel does not hold up its successor.** Whatever the interleaving and whenever the
socket stops taking frames: as long as no channel closes, or goes on once closed, with a call left
waiting for a full writer queue, no task of a closed channel is parked inside `send_payload` with
the lock that the resumed channel needs. -/
theorem closed_channel_unblocked (env : Env) (config : ChannelConfig) (s : System)
    (h : Reachable (System.step env) (fun s l s' => s.leavesRoom l s' = true)
      (System.start config) s) :
    ∀ c ch who, s.channels[c]? = some ch → ch.core.isClosed = true →
      ¬ (s.cont.holder = some (c, who) ∧ ch.parkedHolding who = true) := by
  have hfree : s.Each Channel.Unblocked := by
    refine Reachable.invariant_with (Q := Numbered) (P := fun s => s.Each Channel.Unblocked)
      (fun s hs => .of_session hs) ?_ ?_ h
    · exact fun c ch hch => System.channel_start hch ▸ .open config
    · intro s l s' hnum ih hstep hguard c ch hch
      obtain ⟨c', a, ch', o, rfl, hch', ho, rfl⟩ | ⟨config', -, -, rfl⟩ := System.step_cases hstep
      · obtain ⟨-, rfl⟩ | ⟨-, hold⟩ := System.channel_after hch
        · refine (ih c' ch' hch').step (hnum.tidy c' ch' hch')
            (fun _ _ => hnum.awaitsWriter_unique hch') ho ?_
          simpa [System.leavesRoom, hch', System.channel_after_self hch'] using hguard
        · exact ih c ch hold
      · obtain ⟨-, rfl⟩ | hold := System.channel_resumed hch
        · exact .open config'
        · exact ih c ch hold
  rintro c ch who hch hclosed ⟨-, hparked⟩
  unfold Channel.parkedHolding at hparked
  split at hparked
  · simp [hclosed] at hparked
  · next n wire hslot =>
    have hroom := hfree c ch hch hclosed who (by rw [hslot]; rfl)
    simp [hroom] at hparked
  · cases hparked

/-- The session is terminated while a call has not handed its message over yet; the queue is
empty. -/
def closedRun : List Label :=
  onChannel 0 (receiving startPublication ++ ([.sendData [97]] : List Action) ++ admitting ++
    numbering .command ++ ([.terminate] : List Action))

theorem closed_channel_unblocked_empty :
    ∃ (s : System) (ch : Channel), s.channels[0]? = some ch ∧ ch.core.isClosed = true ∧
      s.cont.holder = some (0, .command) ∧ ch.parkedHolding .command = false := by
  have hrun : (runIf (System.step sampleEnv) System.leavesRoom (System.start sampleConfig)
      closedRun).any (fun s => (s.channels[0]?).any (fun ch =>
        ch.core.isClosed && decide (s.cont.holder = some (0, .command)))) = true := by
    decide +kernel
  have htest : ∀ s l s', System.leavesRoom s l s' → System.leavesRoom s l s' = true :=
    fun _ _ _ h => h
  obtain ⟨s, hs, hp⟩ := exists_of_runIf htest hrun
  obtain ⟨ch, hch, hp⟩ := (Option.any_eq_true _ _).mp hp
  obtain ⟨hclosed, hholder⟩ := Bool.and_eq_true_iff.mp hp
  have hholder := of_decide_eq_true hholder
  refine ⟨s, ch, hch, hclosed, hholder, ?_⟩
  by_contra hparked
  exact closed_channel_unblocked sampleEnv sampleConfig s hs 0 ch .command hch hclosed
    ⟨hholder, Bool.eq_true_of_not_eq_false hparked⟩

/-- The socket takes nothing more: the writer is stuck with a ping, and `n` more are queued. -/
def stuckChannel (n : ℕ) : Channel :=
  { idleChannel with writer := .sending .ping, writerQueue := List.replicate n .ping }

/-- The heartbeat fills the queue of a writer that is stuck. -/
lemma reachable_stuck (n : ℕ) (hn : n ≤ writerQueueDepth) :
    Session sampleEnv sampleConfig (.carrying 0 none Continuity.fresh.outgoing (stuckChannel n)
      []) := by
  induction n with
  | zero =>
    have hrun : run (System.step sampleEnv) (System.start sampleConfig) (onChannel 0
        (receiving startPublication ++ ([.heartbeatPoll, .heartbeatTick 0, .writerPoll,
          .writerRecv] : List Action))) =
        some (.carrying 0 none Continuity.fresh.outgoing (stuckChannel 0) []) := rfl
    exact Reachable.refl.of_run hrun
  | succ n ih =>
    have hpoll : System.step sampleEnv
        (.carrying 0 none Continuity.fresh.outgoing (stuckChannel n) []) (.act 0 .heartbeatPoll) =
        some (.carrying 0 none Continuity.fresh.outgoing
          { stuckChannel n with heartbeat := .polled } []) := rfl
    have hlt : n < writerQueueDepth := hn
    have htick : System.step sampleEnv (.carrying 0 none Continuity.fresh.outgoing
          { stuckChannel n with heartbeat := .polled } []) (.act 0 (.heartbeatTick 0)) =
        some (.carrying 0 none Continuity.fresh.outgoing (stuckChannel (n + 1)) []) := by
      simp [System.carrying, System.step, perform, heartbeatTick, Channel.tryWrite,
        Channel.writerRoom, Channel.writerAlive, stuckChannel, hlt, List.replicate_succ',
        idleChannel, Channel.open]
    exact ((ih (by omega)).tail hpoll trivial).tail htick trivial

/-- A call finds room in the outgoing buffer and none in the writer queue, and the session is
terminated. -/
def blockedRun : List Label :=
  onChannel 0 (([.sendData [97]] : List Action) ++ admitting ++ numbering .command ++
    ([.terminate] : List Action))

/-- **A closed channel holds the lock.** The writer is stuck in the socket and its queue is full; a
call of the command task waits for it with the lock on the counter, and the close does not wake
it. -/
theorem closed_channel_keeps_lock :
    ∃ s ch, Session sampleEnv sampleConfig s ∧ s.channels[0]? = some ch ∧
      ch.core.isClosed = true ∧ s.cont.holder = some (0, .command) ∧
      ch.parkedHolding .command = true := by
  have hrun : (run (System.step sampleEnv) (.carrying 0 none Continuity.fresh.outgoing
      (stuckChannel writerQueueDepth) []) blockedRun).any (fun s => (s.channels[0]?).any (fun ch =>
        ch.core.isClosed && decide (s.cont.holder = some (0, .command)) &&
          ch.parkedHolding .command)) = true := by
    decide +kernel
  obtain ⟨s, hs, hp⟩ := exists_of_run hrun
  obtain ⟨ch, hch, hp⟩ := (Option.any_eq_true _ _).mp hp
  simp only [Bool.and_eq_true, decide_eq_true_eq] at hp
  exact ⟨s, ch, (reachable_stuck _ le_rfl).trans hs, hch, hp.1.1, hp.1.2, hp.2⟩

end SsmBridge
