import SsmBridge.Properties.CommandOrder

/-!
# What a pause holds back

`pause_publication` closes the send gate, and `start_publication` or the end of the handshake opens
it.  But the gate is also opened by output: `deliver` takes output that arrives while the gate is
closed for a sign of an agent without a handshake, also when the gate was closed by a pause.  And
`wait_sendable` resolves for a closed session, so that a command passes when the session closes
between the two polls of the gate.

Where neither happens between the pause and what ends it, no command passes the gate
(`pause_honoured`), and what is numbered in the meantime are messages of the command that had passed
it before.
-/

namespace SsmBridge

open Machine

/-! ## What opens and closes the gate -/

/-- The frame is a `pause_publication`, as text or as a message. -/
def InFrame.pauses : InFrame → Bool
  | .text line => decide (trim line = "pause_publication")
  | .binary (.ok m) => decide (m.messageType = .pausePublication)
  | _ => false

/-- The frame is a `start_publication`, as text or as a message. -/
def InFrame.starts : InFrame → Bool
  | .text line => decide (trim line = "start_publication")
  | .binary (.ok m) => decide (m.messageType = .startPublication)
  | _ => false

/-- The payload types whose delivery opens the gate as if there were no handshake. -/
def PayloadType.opensGate : PayloadType → Bool
  | .output | .stdErr | .undefined => true
  | _ => false

def ReaderPc.delivery : ReaderPc → Option ClientMessage
  | .delivering m => some m
  | _ => none

namespace System

/-- The message the reader of a channel is about to deliver. -/
def delivery (s : System) (c : ℕ) : Option ClientMessage :=
  s.channels[c]?.bind (fun ch => ch.reader.delivery)

/-- The step processes a `start_publication` or a `HandshakeComplete` on channel `c`. -/
def resumes (s : System) (c : ℕ) : Label → Bool
  | .act c' (.readerFrame _ frame) => c' == c && frame.starts
  | .act c' (.readerDeliver _) =>
      c' == c && (s.delivery c).any (fun m => decide (m.payloadType = .handshakeComplete))
  | _ => false

/-- The step neither delivers output on channel `c` nor polls its gate after a close. -/
def undisturbed (s : System) (c : ℕ) : Label → Bool
  | .act c' (.readerDeliver _) => !(c' == c && (s.delivery c).any (·.payloadType.opensGate))
  | .act c' .commandAdmit => !(c' == c && s.channels[c]?.any (·.core.isClosed))
  | _ => true

/-- The commands that passed the gate of one channel. -/
def passedOn (s : System) (c : ℕ) : List Command := (s.eventsOn c).filterMap Event.passed

end System

/-- The steps after a pause on channel `c`, up to what ends it. -/
def Paused (c : ℕ) (s : System) (l : Label) (_ : System) : Prop := s.resumes c l = false

/-- Those that leave the pause undisturbed. -/
def PausedUndisturbed (c : ℕ) (s : System) (l : Label) (_ : System) : Prop :=
  s.resumes c l = false ∧ s.undisturbed c l = true

/-! ## The gate stays closed -/

section

variable {env : Env} {c : ℕ} {k : Continuity} {ch : Channel} {o : Outcome} {a : Action}

@[simp] lemma SessionCore.sendable_close (core : SessionCore) (reason : CloseReason) :
    (core.close reason).sendable = core.sendable := by
  unfold SessionCore.close
  split <;> rfl

@[simp] lemma SessionCore.sendable_setExitCode (core : SessionCore) (code : Option ℤ) :
    (core.setExitCode code).sendable = core.sendable := by
  unfold SessionCore.setExitCode
  split <;> rfl

lemma Closing.sendable {core core' : SessionCore} (h : Closing core core') :
    core'.sendable = core.sendable := by
  obtain rfl | ⟨reason, rfl⟩ := h
  · rfl
  · exact SessionCore.sendable_close core reason

@[simp] lemma progress_core (m : ClientMessage) (ch : Channel) (p : Progress) :
    (progress m ch p).core = ch.core := by
  rw [progress_eq]

/-- A frame opens the gate only if it is a `start_publication`. -/
lemma readerFrame_sendable {now : ℕ} {frame : InFrame}
    (h : readerFrame env now frame k ch = some o) (hstarts : frame.starts = false)
    (hclosed : ch.core.sendable = false) : o.channel.core.sendable = false := by
  unfold readerFrame at h
  split at h
  · cases frame with
    | binary decoded =>
      cases decoded with
      | ok m =>
        cases h
        simp only [InFrame.starts, decide_eq_false_iff_not] at hstarts
        cases hm : m.messageType with
        | startPublication => exact absurd hm hstarts
        | acknowledge =>
          simp only [route, hm]
          split
          · exact hclosed
          · split <;> exact hclosed
        | _ => simp [route, hm, Channel.close, SessionCore.setSendable, hclosed]
      | error e =>
        cases h
        exact hclosed
    | text text =>
      cases h
      simp only [InFrame.starts, decide_eq_false_iff_not] at hstarts
      unfold handleText
      rw [if_neg hstarts]
      split_ifs
      · rfl
      · exact hclosed
      · exact hclosed
    | _ =>
      cases h
      exact hclosed
  · cases h

/-- A `pause_publication` closes the gate. -/
lemma readerFrame_pauses {now : ℕ} {frame : InFrame} (h : readerFrame env now frame k ch = some o)
    (hpauses : frame.pauses = true) :
    o.channel.core.sendable = false := by
  unfold readerFrame at h
  split at h
  · cases frame with
    | binary decoded =>
      cases decoded with
      | ok m =>
        cases h
        simp only [InFrame.pauses, decide_eq_true_eq] at hpauses
        simp only [route, hpauses]
        rfl
      | error e => cases hpauses
    | text text =>
      cases h
      simp only [InFrame.pauses, decide_eq_true_eq] at hpauses
      simp only [handleText, hpauses]
      rfl
    | _ => cases hpauses
  · cases h

/-- A delivery opens the gate only for output and at the end of the handshake. -/
lemma deliver_sendable (env : Env) (nonce : Nonce) (v : ReaderView) {m : ClientMessage}
    (houtput : m.payloadType.opensGate = false) (hcomplete : m.payloadType ≠ .handshakeComplete) :
    (deliver env nonce v m).2.1.core.sendable = v.core.sendable := by
  unfold deliver
  split
  case h_1 hm | h_2 hm | h_3 hm =>
    rw [hm] at houtput
    cases houtput
  case h_4 => split <;> rfl
  case h_5 hm => exact absurd hm hcomplete
  case h_6 =>
    split
    · rfl
    · split
      · rfl
      · split <;> rfl
  case h_7 =>
    split
    · rfl
    · exact SessionCore.sendable_setExitCode _ _
  case h_8 =>
    split
    · exact SessionCore.sendable_close _ _
    · rfl
  all_goals rfl

lemma readerDeliver_sendable {nonce : Nonce} (h : readerDeliver env nonce k ch = some o)
    (houtput : ∀ m ∈ ch.reader.delivery, m.payloadType.opensGate = false)
    (hcomplete : ∀ m ∈ ch.reader.delivery, m.payloadType ≠ .handshakeComplete) :
    o.channel.core.sendable = ch.core.sendable := by
  obtain ⟨m, delivery, v, output, hpc, hd, hcase⟩ := readerDeliver_cases h
  have hm : m ∈ ch.reader.delivery := by simp [hpc, ReaderPc.delivery]
  have hsendable := deliver_sendable env nonce (readerView k ch) (houtput m hm) (hcomplete m hm)
  rw [hd] at hsendable
  obtain ⟨p, -, rfl⟩ | ⟨request, events, -, -, rfl⟩ := hcase
  · rw [progress_core]
    exact hsendable
  · exact hsendable

lemma BackgroundStep.sendable (h : BackgroundStep k ch o) :
    o.channel.core.sendable = ch.core.sendable := by
  obtain ⟨outgoing, core, aborted, queue, writer, heartbeat, retransmit, events, -, -, hcore, -⟩ :=
    h
  exact hcore.sendable

/-- The other steps of the reader leave the gate alone. -/
lemma reader_sendable (ha : a.task = .reader) (h : perform env c k ch a = some o)
    (hframe : ∀ now frame, a ≠ .readerFrame now frame)
    (hdeliver : ∀ nonce, a ≠ .readerDeliver nonce) :
    o.channel.core.sendable = ch.core.sendable := by
  cases a <;> simp only [Action.task, reduceCtorEq] at ha <;> simp only [perform] at h
  case readerFrame now frame => exact absurd rfl (hframe now frame)
  case readerDeliver nonce => exact absurd rfl (hdeliver nonce)
  case readerPoll =>
    unfold readerPoll at h
    split at h <;> cases h
    rfl
  case readerRoute =>
    unfold readerRoute at h
    split at h <;> cases h
    rfl
  case readerStore =>
    unfold readerStore at h
    split at h
    · split at h <;> cases h <;> rfl
    · cases h
  case readerAck stamp =>
    obtain ⟨m, queue, events, reader, -, -, rfl⟩ := readerAck_cases h
    rfl
  case readerNegotiated =>
    obtain ⟨m, request, p, v, calls, -, -, rfl⟩ := readerNegotiated_cases h
    rw [progress_core]
  case readerReplied =>
    obtain ⟨m, after, -, ⟨-, result, v, hv, rfl⟩ | ⟨e, -, rfl⟩⟩ := readerReplied_cases h
    · rw [progress_core]
      cases after <;> cases hv <;> rfl
    · rw [progress_core]
  case readerAdvance =>
    unfold readerAdvance at h
    split at h <;> cases h
    rfl
  case readerTake =>
    unfold readerTake at h
    split at h <;> cases h
    rfl
  case readerClose =>
    unfold readerClose at h
    split at h <;> cases h
    exact SessionCore.sendable_close _ _
  case readerAbort =>
    unfold readerAbort at h
    split at h
    · cases h
      rfl
    · split at h <;> cases h
      rfl
    · split at h <;> cases h
      rfl
    · cases h

/-- **The gate stays closed** unless a `start_publication` arrives, or a message is delivered that
opens it. -/
theorem perform_sendable (h : perform env c k ch a = some o) (hclosed : ch.core.sendable = false)
    (hframe : ∀ now frame, a = .readerFrame now frame → frame.starts = false)
    (hdeliver : ∀ nonce, a = .readerDeliver nonce → ∀ m ∈ ch.reader.delivery,
      m.payloadType.opensGate = false ∧ m.payloadType ≠ .handshakeComplete) :
    o.channel.core.sendable = false := by
  cases ha : a.task with
  | send who => rw [(send_cases ha h).frame.core, hclosed]
  | writer => rw [(writer_cases ha h).sendable, hclosed]
  | heartbeat => rw [(heartbeat_cases ha h).sendable, hclosed]
  | retransmit => rw [(retransmit_cases ha h).sendable, hclosed]
  | command => rw [(command_cases ha h).frame.core.sendable, hclosed]
  | handle =>
    cases handle_cases ha h with
    | accepted command hcommand halive => exact hclosed
    | ended hb => rw [hb.sendable, hclosed]
  | reader =>
    by_cases hf : ∃ now frame, a = .readerFrame now frame
    · obtain ⟨now, frame, rfl⟩ := hf
      exact readerFrame_sendable h (hframe now frame rfl) hclosed
    · by_cases hd : ∃ nonce, a = .readerDeliver nonce
      · obtain ⟨nonce, rfl⟩ := hd
        rw [readerDeliver_sendable h (fun m hm => (hdeliver nonce rfl m hm).1)
          (fun m hm => (hdeliver nonce rfl m hm).2), hclosed]
      · rw [reader_sendable ha h (fun now frame heq => hf ⟨now, frame, heq⟩)
          (fun nonce heq => hd ⟨nonce, heq⟩), hclosed]

/-- A command passes the gate only when it is open, or the session has closed. -/
lemma perform_passed (h : perform env c k ch a = some o) (hpassed : o.passed ≠ []) :
    a = .commandAdmit ∧ (ch.core.sendable = true ∨ ch.core.isClosed = true) := by
  cases ha : a.task with
  | send who => exact absurd (send_cases ha h).message.2.1 hpassed
  | writer => exact absurd (writer_cases ha h).nothing.2.2 hpassed
  | heartbeat => exact absurd (heartbeat_cases ha h).nothing.2.2 hpassed
  | retransmit => exact absurd (retransmit_cases ha h).nothing.2.2 hpassed
  | reader => exact absurd (reader_cases ha h).nothing.2.2 hpassed
  | handle =>
    cases handle_cases ha h with
    | accepted command hcommand halive => exact absurd rfl hpassed
    | ended hb => exact absurd hb.nothing.2.2 hpassed
  | command =>
    cases a <;> simp only [Action.task, reduceCtorEq] at ha <;> simp only [perform] at h
    case commandAdmit =>
      unfold commandAdmit at h
      split at h
      · split at h
        · next hopen => exact ⟨rfl, by simpa using hopen⟩
        · cases h
          exact absurd rfl hpassed
      · cases h
    case commandPoll =>
      unfold commandPoll at h
      split at h
      · split at h <;> cases h <;> exact absurd rfl hpassed
      · cases h
    case commandRecv =>
      unfold commandRecv at h
      split at h
      · cases h
        exact absurd rfl hpassed
      · split at h <;> cases h <;> exact absurd rfl hpassed
      · cases h
    case commandGate =>
      unfold commandGate at h
      split at h
      · split at h <;> cases h <;> exact absurd rfl hpassed
      · cases h
    case commandReturn =>
      unfold commandReturn at h
      split at h <;> cases h <;> exact absurd rfl hpassed
    case commandFail =>
      unfold commandFail at h
      split at h <;> cases h
      exact absurd rfl hpassed
    case commandAbort =>
      unfold commandAbort at h
      split at h
      · cases h
        exact absurd rfl hpassed
      · cases h
        exact absurd rfl hpassed
      · split at h <;> cases h
        exact absurd rfl hpassed
      · split at h <;> cases h
        exact absurd rfl hpassed
      · cases h

end

/-! ## Runs -/

section

variable {env : Env} {c : ℕ} {s s₁ : System} {ch ch₁ : Channel} {o : Outcome} {a : Action}

/-- Channel `c` in a state after the pause that was processed in `s₁`: the gate is closed, nothing
passed it since, and what was numbered since was in hand at the pause. -/
structure PausedSince (c : ℕ) (s₁ : System) (ch₁ : Channel) (s : System) (ch : Channel) : Prop where
  channel : s.channels[c]? = some ch
  ready : ch.Sending
  closed : ch.core.sendable = false
  passed : s.passedOn c = s₁.passedOn c
  sent : ∃ since : List Issued, s.sentOn c = s₁.sentOn c ++ since ∧
    (since.map (fun i => i.out.plain) ++ ch.inHand = ch₁.inHand ∨
      ch.Doomed ∧ since.map (fun i => i.out.plain) <+: ch₁.inHand)

lemma PausedSince.init (hch : s₁.channels[c]? = some ch₁) (hready : ch₁.Sending)
    (hclosed : ch₁.core.sendable = false) : PausedSince c s₁ ch₁ s₁ ch₁ :=
  ⟨hch, hready, hclosed, rfl, [], (List.append_nil _).symm, .inl rfl⟩

/-- Numbering goes on with what is in hand, or has been given up. -/
lemma PipelineStep.sent_prefix {since : List Issued} (h : PipelineStep ch o) (hno : o.passed = [])
    (hsent : since.map (fun i => i.out.plain) ++ ch.inHand = ch₁.inHand ∨
      ch.Doomed ∧ since.map (fun i => i.out.plain) <+: ch₁.inHand) :
    (since ++ o.events.filterMap Event.sent).map (fun i => i.out.plain) ++ o.channel.inHand =
        ch₁.inHand ∨
      o.channel.Doomed ∧
        (since ++ o.events.filterMap Event.sent).map (fun i => i.out.plain) <+: ch₁.inHand := by
  have hnew : (o.events.filterMap Event.sent).map (fun i => i.out.plain) = o.sent := rfl
  rw [List.map_append, hnew]
  cases h with
  | quiet haccepted hnone hpassed hhand hwaiting hdoomed =>
    rw [hnone, List.append_nil, hhand]
    exact hsent.imp id (fun h => ⟨hdoomed h.1, h.2⟩)
  | accepted command haccepted hnone hpassed hhand hwaiting hdoomed =>
    rw [hnone, List.append_nil, hhand]
    exact hsent.imp id (fun h => ⟨hdoomed h.1, h.2⟩)
  | passed command hlive haccepted hnone hpassed hidle hhand hwaiting =>
    rw [hno] at hpassed
    cases hpassed
  | sent message hlive haccepted hmessage hpassed hhand hwaiting =>
    obtain heq | ⟨hdoomed, -⟩ := hsent
    · refine .inl ?_
      rw [← heq, hmessage, hhand]
      simp
    · exact absurd hdoomed hlive
  | gaveUp haccepted hnone hpassed hdoomed =>
    rw [hnone, List.append_nil]
    refine .inr ⟨hdoomed, ?_⟩
    obtain heq | ⟨-, hle⟩ := hsent
    · rw [← heq]
      exact List.prefix_append _ _
    · exact hle

/-- A step of the paused channel. -/
lemma PausedSince.after (h : PausedSince c s₁ ch₁ s ch) (ho : perform env c s.cont ch a = some o)
    (hresumes : s.resumes c (.act c a) = false) (hquiet : s.undisturbed c (.act c a) = true) :
    PausedSince c s₁ ch₁ (s.after c o) o.channel := by
  have hstep := perform_cases ho
  have hdelivery : s.delivery c = ch.reader.delivery := by simp [System.delivery, h.channel]
  have hno : o.passed = [] := by
    by_contra hpassed
    obtain ⟨rfl, hopen | hended⟩ := perform_passed ho hpassed
    · rw [h.closed] at hopen
      cases hopen
    · simp [System.undisturbed, h.channel, hended] at hquiet
  have hpipeline := hstep.pipeline h.ready.tidy h.ready.chunkSize
  refine ⟨System.channel_after_self h.channel, h.ready.step hstep, ?_, ?_, ?_⟩
  · refine perform_sendable ho h.closed ?_ ?_
    · rintro now frame rfl
      simpa [System.resumes] using hresumes
    · rintro nonce rfl m hm
      have hm' : s.delivery c = some m := hdelivery.trans hm
      constructor
      · simpa [System.undisturbed, hm'] using hquiet
      · simpa [System.resumes, hm'] using hresumes
  · rw [System.passedOn, System.eventsOn_after_self, List.filterMap_append,
      show o.events.filterMap Event.passed = [] from hno, List.append_nil]
    exact h.passed
  · obtain ⟨since, hsince, hsent⟩ := h.sent
    refine ⟨since ++ o.events.filterMap Event.sent, ?_, hpipeline.sent_prefix hno hsent⟩
    rw [System.sentOn, System.eventsOn_after_self, List.filterMap_append, ← List.append_assoc,
      ← hsince]
    rfl

/-- A step of another channel. -/
lemma PausedSince.after_of_ne (h : PausedSince c s₁ ch₁ s ch) {c' : ℕ} (hne : c ≠ c') :
    PausedSince c s₁ ch₁ (s.after c' o) ch := by
  refine ⟨?_, h.ready, h.closed, ?_, ?_⟩
  · rw [System.channel_after_of_ne hne, h.channel]
  · rw [System.passedOn, System.eventsOn_after_of_ne hne]
    exact h.passed
  · rw [System.sentOn, System.eventsOn_after_of_ne hne]
    exact h.sent

lemma PausedSince.resumed (h : PausedSince c s₁ ch₁ s ch) (config : ChannelConfig) :
    PausedSince c s₁ ch₁ (s.resumed config) ch := by
  refine ⟨?_, h.ready, h.closed, h.passed, h.sent⟩
  rw [System.resumed, List.getElem?_append_left (List.getElem?_eq_some_iff.mp h.channel).1,
    h.channel]

end

/-- **A pause is honoured where it is left undisturbed.**  From the step that processes a
`pause_publication` on a channel, in every run that neither processes a `start_publication` or a
`HandshakeComplete` there nor delivers output there nor polls the gate of the closed channel, no
command passes the gate, and the messages numbered for the command task are those that were in hand
at the pause. -/
theorem pause_honoured {env : Env} {config : ChannelConfig} {s s₁ s₂ : System} {c now : ℕ}
    {frame : InFrame} {ch₁ : Channel} (hs : Session env config s) (hpause : frame.pauses = true)
    (hstep : System.step env s (.act c (.readerFrame now frame)) = some s₁)
    (hch : s₁.channels[c]? = some ch₁)
    (hrun : Reachable (System.step env) (PausedUndisturbed c) s₁ s₂) :
    s₂.passedOn c = s₁.passedOn c ∧
      ∃ since : List Issued, s₂.sentOn c = s₁.sentOn c ++ since ∧
        since.map (fun i => i.out.plain) <+: ch₁.inHand := by
  have hready : ch₁.Sending :=
    channels_invariant .open (fun c k ch o hsending h => hsending.step h)
      (hs.tail hstep trivial) c ch₁ hch
  have hclosed : ch₁.core.sendable = false := by
    obtain ⟨c', a, ch, o, hl, hold, ho, rfl⟩ | ⟨config', hl, -, -⟩ := System.step_cases hstep
    · cases hl
      rw [System.channel_after_self hold] at hch
      cases hch
      exact readerFrame_pauses ho hpause
    · cases hl
  have hinv : ∃ ch, PausedSince c s₁ ch₁ s₂ ch := by
    refine Reachable.invariant (P := fun s => ∃ ch, PausedSince c s₁ ch₁ s ch)
      ⟨ch₁, .init hch hready hclosed⟩ ?_ hrun
    rintro s l s' ⟨ch, h⟩ hs' ⟨hresumes, hquiet⟩
    obtain ⟨c', a, ch', o, rfl, hch', ho, rfl⟩ | ⟨config', -, -, rfl⟩ := System.step_cases hs'
    · by_cases hcc : c = c'
      · subst hcc
        obtain rfl : ch' = ch := Option.some_inj.mp (hch'.symm.trans h.channel)
        exact ⟨_, h.after ho hresumes hquiet⟩
      · exact ⟨ch, h.after_of_ne hcc⟩
    · exact ⟨ch, h.resumed config'⟩
  obtain ⟨ch, h⟩ := hinv
  refine ⟨h.passed, ?_⟩
  obtain ⟨since, hsince, hsent⟩ := h.sent
  refine ⟨since, hsince, ?_⟩
  obtain heq | ⟨-, hle⟩ := hsent
  · rw [← heq]
    exact List.prefix_append _ _
  · exact hle

/-- The agent's `pause_publication`. -/
def pausePublication : ClientMessage :=
  { agentMessage 0 .undefined [] with messageType := .pausePublication }

/-- A run up to a pause, the pause, and a run after it. -/
def runPaused (config : ChannelConfig) (before after : List Action)
    (test : System → Label → System → Bool) (p : System → System → Bool) : Bool :=
  (run (System.step sampleEnv) (System.start config) (onChannel 0 before)).any (fun s =>
    (System.step sampleEnv s (.act 0 (.readerFrame 0 (.binary (.ok pausePublication))))).any
      (fun s₁ => (runIf (System.step sampleEnv) test s₁ (onChannel 0 after)).any (p s₁)))

lemma exists_of_runPaused {config : ChannelConfig} {before after : List Action}
    {test : System → Label → System → Bool} (guard : System → Label → System → Prop)
    (htest : ∀ s l s', test s l s' → guard s l s') {p : System → System → Bool}
    (h : runPaused config before after test p = true) :
    ∃ s s₁ s₂, Session sampleEnv config s ∧
      System.step sampleEnv s (.act 0 (.readerFrame 0 (.binary (.ok pausePublication)))) = some s₁ ∧
      Reachable (System.step sampleEnv) guard s₁ s₂ ∧ p s₁ s₂ = true := by
  obtain ⟨s, hs, h⟩ := (Option.any_eq_true _ _).mp h
  obtain ⟨s₁, hs₁, h⟩ := (Option.any_eq_true _ _).mp h
  obtain ⟨s₂, hs₂, h⟩ := (Option.any_eq_true _ _).mp h
  exact ⟨s, s₁, s₂, Reachable.refl.of_run hs, hs₁, Reachable.refl.of_runIf htest hs₂, h⟩

/-- A command is past the gate and another is queued when the pause arrives: the first goes on and
the second is held back. -/
theorem pause_honoured_midway :
    ∃ s s₁ s₂, Session sampleEnv { sampleConfig with payloadChunkSize := 2 } s ∧
      System.step sampleEnv s (.act 0 (.readerFrame 0 (.binary (.ok pausePublication)))) = some s₁ ∧
      Reachable (System.step sampleEnv) (PausedUndisturbed 0) s₁ s₂ ∧
      s₁.passedOn 0 = [.data [97, 98, 99]] ∧ s₂.passedOn 0 = s₁.passedOn 0 ∧
      s₂.plaintextsOn 0 = [[97, 98], [99]] := by
  have hrun : runPaused { sampleConfig with payloadChunkSize := 2 }
      (receiving startPublication ++ ([.sendData [97, 98, 99]] : List Action) ++ admitting ++
        ([.sendData [100], .readerPoll] : List Action))
      (numbering .command ++ returning ++ numbering .command ++ returning ++ admitting)
      (fun (s : System) l _ => !s.resumes 0 l && s.undisturbed 0 l)
      (fun (s₁ s₂ : System) => decide (s₁.passedOn 0 = [.data [97, 98, 99]] ∧
        s₁.channels.length = 1 ∧ s₂.plaintextsOn 0 = [[97, 98], [99]])) = true := by
    decide +kernel
  obtain ⟨s, s₁, s₂, hs, hstep, hreach, hp⟩ := exists_of_runPaused (PausedUndisturbed 0)
    (fun s l _ h => by simpa [PausedUndisturbed] using h) hrun
  obtain ⟨hpassed, hlength, hsent⟩ := of_decide_eq_true hp
  have hch : s₁.channels[0]? = some (s₁.channels[0]) := List.getElem?_eq_getElem _
  obtain ⟨hkept, -⟩ := pause_honoured hs rfl hstep hch hreach
  exact ⟨s, s₁, s₂, hs, hstep, hreach, hpassed, hkept, hsent⟩

/-- **Output undoes a pause.**  The agent pauses, then a byte of output arrives, and a command that
was queued during the pause passes the gate and is numbered. -/
theorem pause_undone_by_output :
    ∃ s s₁ s₂, Session sampleEnv sampleConfig s ∧
      System.step sampleEnv s (.act 0 (.readerFrame 0 (.binary (.ok pausePublication)))) = some s₁ ∧
      Reachable (System.step sampleEnv) (Paused 0) s₁ s₂ ∧
      s₁.passedOn 0 = [] ∧ s₁.commandsOn 0 = [] ∧
      s₂.passedOn 0 = [.data [97]] ∧ s₂.plaintextsOn 0 = [[97]] := by
  have hrun : runPaused sampleConfig
      (receiving startPublication ++ ([.readerPoll] : List Action))
      (([.sendData [97]] : List Action) ++ receivingData (agentMessage 0 .output [120]) ++
        ([.readerDeliver (toArray _ [])] : List Action) ++ admitting ++ numbering .command)
      (fun (s : System) l _ => !s.resumes 0 l)
      (fun (s₁ s₂ : System) => decide (s₁.passedOn 0 = [] ∧ s₁.commandsOn 0 = [] ∧
        s₂.passedOn 0 = [.data [97]] ∧ s₂.plaintextsOn 0 = [[97]])) = true := by
    decide +kernel
  obtain ⟨s, s₁, s₂, hs, hstep, hreach, hp⟩ := exists_of_runPaused (Paused 0)
    (fun s l _ h => by simpa [Paused] using h) hrun
  obtain ⟨hnone, hempty, hpassed, hsent⟩ := of_decide_eq_true hp
  exact ⟨s, s₁, s₂, hs, hstep, hreach, hnone, hempty, hpassed, hsent⟩

end SsmBridge
