import SsmBridge.Construction.Heartbeat
import SsmBridge.Properties.Footprint

/-!
# Silence of the peer

The heartbeat of a channel closes the session when nothing has come from the peer for longer than
the idle timeout.  `silence_is_real` says that it is right when it does: a session that ended as
unresponsive heard no frame for the time it names, which is longer than the idle timeout, however
late the task ran.  `silence_is_noticed` bounds the other way: on a channel that is still open, a
frame came not longer ago than the idle timeout, one interval of the ticker and the delay of the
task.  The idle timeout alone is not enough, because silence is only looked for when the ticker
ticks.

Both follow from what a step does to one channel and its ticker (`Beat`).  That the delay of the
task is only a matter of scheduling is `heartbeat_never_waits`: its steps wait for no other task.
-/

namespace SsmBridge

open Machine

variable {env : Env} {c : ℕ} {k : Continuity} {ch : Channel} {o : Outcome} {a : Action}

/-! ## What a heartbeat reads -/

/-- The reader is not about to report silence. -/
def Channel.Sane (ch : Channel) : Prop :=
  ∀ idle m, ch.reader ≠ .failing (.peerUnresponsive idle) m

/-- An operation that neither hears the peer nor finds it silent, of another task. -/
structure Channel.Quiet (ch ch' : Channel) : Prop where
  idleTimeout : ch'.idleTimeout = ch.idleTimeout
  lastInbound : ch'.lastInbound = ch.lastInbound
  heartbeat : ch'.heartbeat = ch.heartbeat
  silent : ∀ idle, ch'.core.closeReason = some (.peerUnresponsive idle) →
    ch.core.closeReason = some (.peerUnresponsive idle)
  sane : ch'.Sane

/-- The operations of the heartbeat, and the one that it waits for. -/
def Action.pulse : Action → Bool
  | .heartbeatPoll | .heartbeatTick _ | .heartbeatAbort | .readerFrame _ _ => true
  | _ => false

/-- A close for another reason is no silence. -/
lemma SessionCore.silent_of_close {core : SessionCore} {reason : CloseReason} {idle : ℕ}
    (hreason : ∀ i, reason ≠ .peerUnresponsive i)
    (h : (core.close reason).closeReason = some (.peerUnresponsive idle)) :
    core.closeReason = some (.peerUnresponsive idle) := by
  unfold SessionCore.close at h
  split at h
  · exact h
  · cases h
    exact absurd rfl (hreason idle)

lemma Channel.Quiet.refl (hs : ch.Sane) : ch.Quiet ch := ⟨rfl, rfl, rfl, fun _ h => h, hs⟩

lemma send_quiet {who : Sender} (hs : ch.Sane) (ha : a.task = .send who)
    (h : perform env c k ch a = some o) : ch.Quiet o.channel := by
  cases send_cases ha h <;> cases who <;> exact ⟨rfl, rfl, rfl, fun _ h => h, hs⟩

lemma command_quiet (hs : ch.Sane) (ha : a.task = .command)
    (h : perform env c k ch a = some o) : ch.Quiet o.channel := by
  have hstream : ∀ data, ch.Quiet (ch.sendStreamData data) := by
    intro data
    unfold Channel.sendStreamData
    split <;> exact ⟨rfl, rfl, rfl, fun _ h => h, hs⟩
  cases a <;> simp only [Action.task, reduceCtorEq] at ha <;> simp only [perform] at h
  case commandPoll =>
    unfold commandPoll at h
    split at h
    · split at h <;> cases h <;> exact ⟨rfl, rfl, rfl, fun _ h => h, hs⟩
    · cases h
  case commandRecv =>
    unfold commandRecv at h
    split at h
    · cases h
      exact ⟨rfl, rfl, rfl, fun _ h => h, hs⟩
    · split at h <;> cases h <;> exact ⟨rfl, rfl, rfl, fun _ h => h, hs⟩
    · cases h
  case commandGate =>
    unfold commandGate at h
    split at h
    · split at h <;> cases h <;> exact ⟨rfl, rfl, rfl, fun _ h => h, hs⟩
    · cases h
  case commandAdmit =>
    unfold commandAdmit at h
    split at h
    · next command hpc =>
      split at h <;> cases h
      · cases command with
        | data bytes => exact hstream bytes
        | control payloadType data => exact ⟨rfl, rfl, rfl, fun _ h => h, hs⟩
      · exact ⟨rfl, rfl, rfl, fun _ h => h, hs⟩
    · cases h
  case commandReturn =>
    unfold commandReturn at h
    split at h <;> cases h
    · exact hstream _
    · exact ⟨rfl, rfl, rfl, fun _ h => h, hs⟩
    · exact ⟨rfl, rfl, rfl, fun _ h => h, hs⟩
    · exact ⟨rfl, rfl, rfl, fun _ h => h, hs⟩
  case commandFail =>
    unfold commandFail at h
    split at h <;> cases h
    exact ⟨rfl, rfl, rfl, fun _ h => SessionCore.silent_of_close (by simp) h, hs⟩
  case commandAbort =>
    unfold commandAbort at h
    split at h
    · cases h
      exact ⟨rfl, rfl, rfl, fun _ h => h, hs⟩
    · cases h
      exact ⟨rfl, rfl, rfl, fun _ h => h, hs⟩
    · split at h <;> cases h
      exact ⟨rfl, rfl, rfl, fun _ h => h, hs⟩
    · split at h <;> cases h
      exact ⟨rfl, rfl, rfl, fun _ h => h, hs⟩
    · cases h

lemma writer_quiet (hs : ch.Sane) (ha : a.task = .writer) (h : perform env c k ch a = some o) :
    ch.Quiet o.channel := by
  cases a <;> simp only [Action.task, reduceCtorEq] at ha <;> simp only [perform] at h
  case writerFailed message =>
    unfold writerFailed at h
    split at h <;> cases h
    exact ⟨rfl, rfl, rfl, fun _ h => SessionCore.silent_of_close (by simp) h, hs⟩
  case writerPoll =>
    unfold writerPoll at h
    split at h <;> cases h
    exact ⟨rfl, rfl, rfl, fun _ h => h, hs⟩
  case writerRecv =>
    unfold writerRecv at h
    split at h <;> cases h <;> exact ⟨rfl, rfl, rfl, fun _ h => h, hs⟩
  case writerSent =>
    unfold writerSent at h
    split at h <;> cases h
    exact ⟨rfl, rfl, rfl, fun _ h => h, hs⟩
  case writerFinish =>
    unfold writerFinish at h
    split at h <;> cases h
    exact ⟨rfl, rfl, rfl, fun _ h => h, hs⟩
  case writerAbort =>
    unfold writerAbort at h
    split at h <;> cases h <;> exact ⟨rfl, rfl, rfl, fun _ h => h, hs⟩

lemma retransmit_quiet (hs : ch.Sane) (ha : a.task = .retransmit)
    (h : perform env c k ch a = some o) : ch.Quiet o.channel := by
  cases a <;> simp only [Action.task, reduceCtorEq] at ha <;> simp only [perform] at h
  case retransmitPoll =>
    unfold retransmitPoll at h
    split at h <;> cases h
    exact ⟨rfl, rfl, rfl, fun _ h => h, hs⟩
  case retransmitTick now =>
    unfold retransmitTick at h
    split at h
    · split at h <;> cases h
      · exact ⟨rfl, rfl, rfl, fun _ h => h, hs⟩
      · exact ⟨rfl, rfl, rfl, fun _ h => h, hs⟩
      · exact ⟨rfl, rfl, rfl, fun _ h => SessionCore.silent_of_close (by simp) h, hs⟩
    · cases h
  case retransmitWrite =>
    unfold retransmitWrite at h
    split at h
    · split at h <;> cases h
      exact ⟨rfl, rfl, rfl, fun _ h => h, hs⟩
    · cases h
  case retransmitStop =>
    unfold retransmitStop at h
    split at h
    · split at h <;> cases h
      exact ⟨rfl, rfl, rfl, fun _ h => h, hs⟩
    · cases h
  case retransmitAbort =>
    unfold retransmitAbort at h
    split at h <;> cases h <;> exact ⟨rfl, rfl, rfl, fun _ h => h, hs⟩

lemma handle_quiet (hs : ch.Sane) (ha : a.task = .handle) (h : perform env c k ch a = some o) :
    ch.Quiet o.channel := by
  cases a <;> simp only [Action.task, reduceCtorEq] at ha <;> simp only [perform] at h
  case sendData data =>
    unfold sendData dispatch at h
    split at h <;> cases h
    exact ⟨rfl, rfl, rfl, fun _ h => h, hs⟩
  case sendTerminalSize size =>
    unfold sendTerminalSize dispatch at h
    split at h <;> cases h
    exact ⟨rfl, rfl, rfl, fun _ h => h, hs⟩
  case terminate =>
    cases h
    exact ⟨rfl, rfl, rfl, fun _ h => SessionCore.silent_of_close (by simp) h, hs⟩
  case drop =>
    cases h
    exact ⟨rfl, rfl, rfl, fun _ h => SessionCore.silent_of_close (by simp) h, hs⟩

/-- The core a delivery leaves was not closed for silence by it. -/
lemma Delivered.silent {v : ReaderView} {m : ClientMessage}
    {r : Delivery × ReaderView × Option Bytes} (h : Delivered env v m r) {idle : ℕ}
    (hr : r.2.1.core.closeReason = some (.peerUnresponsive idle)) :
    v.core.closeReason = some (.peerUnresponsive idle) := by
  cases h with
  | rejected e core handshake hcore =>
    obtain rfl | rfl := hcore <;> exact hr
  | exited code =>
    change (v.core.setExitCode code).closeReason = _ at hr
    unfold SessionCore.setExitCode at hr
    split at hr <;> exact hr
  | terminated code => exact SessionCore.silent_of_close (by simp) hr
  | _ => exact hr

/-- Going on with a delivery reports no silence. -/
lemma progress_quiet {ch' : Channel} (m : ClientMessage) (p : Progress)
    (htimeout : ch'.idleTimeout = ch.idleTimeout) (hlast : ch'.lastInbound = ch.lastInbound)
    (hheartbeat : ch'.heartbeat = ch.heartbeat)
    (hsilent : ∀ idle, ch'.core.closeReason = some (.peerUnresponsive idle) →
      ch.core.closeReason = some (.peerUnresponsive idle)) :
    ch.Quiet (progress m ch' p) := by
  cases p with
  | finished result =>
    cases result <;> exact ⟨htimeout, hlast, hheartbeat, hsilent, by simp [Channel.Sane, progress]⟩
  | reply payloadType payload after =>
    exact ⟨htimeout, hlast, hheartbeat, hsilent, by simp [Channel.Sane, progress]⟩

lemma reader_quiet (hs : ch.Sane) (ha : a.task = .reader) (hpulse : a.pulse = false)
    (h : perform env c k ch a = some o) : ch.Quiet o.channel := by
  cases a <;> simp only [Action.task, reduceCtorEq] at ha <;> simp only [perform] at h
  case readerPoll =>
    unfold readerPoll at h
    split at h <;> cases h
    refine ⟨rfl, rfl, rfl, fun _ h => h, fun idle m => ?_⟩
    show (if ch.core.isClosed = true then ReaderPc.ended else .polled) ≠ _
    split <;> simp
  case readerFrame now frame => cases hpulse
  case readerRoute =>
    unfold readerRoute at h
    split at h <;> cases h
    next m hpc =>
      refine ⟨rfl, rfl, rfl, fun _ h => h, fun idle m' => ?_⟩
      show (if m.sequenceNumber < k.inbound.expected then ReaderPc.select
        else if k.inbound.expected < m.sequenceNumber then .ahead m else .due m) ≠ _
      split_ifs <;> simp
  case readerStore =>
    unfold readerStore at h
    split at h
    · split at h <;> cases h <;> exact ⟨rfl, rfl, rfl, fun _ h => h, by simp [Channel.Sane]⟩
    · cases h
  case readerAck stamp =>
    obtain ⟨m, queue, events, reader, -, ⟨-, rfl⟩ | ⟨-, rfl⟩, rfl⟩ := readerAck_cases h <;>
      exact ⟨rfl, rfl, rfl, fun _ h => h, by simp [Channel.Sane]⟩
  case readerDeliver nonce =>
    obtain ⟨m, d, v, output, -, hd, hcase⟩ := readerDeliver_cases h
    have hdel := deliver_cases env nonce (readerView k ch) m
    rw [hd] at hdel
    obtain ⟨p, -, rfl⟩ | ⟨request, events, -, -, rfl⟩ := hcase
    · exact progress_quiet m p rfl rfl rfl fun _ h => hdel.silent h
    · exact ⟨rfl, rfl, rfl, fun _ h => hdel.silent h, by simp [Channel.Sane]⟩
  case readerNegotiated =>
    obtain ⟨m, request, p, v, calls, -, -, rfl⟩ := readerNegotiated_cases h
    exact progress_quiet m p rfl rfl rfl fun _ h => h
  case readerReplied =>
    obtain ⟨m, after, -, ⟨-, result, v, hv, rfl⟩ | ⟨e, -, rfl⟩⟩ := readerReplied_cases h
    · have hcore := replySent_core (readerView k ch) after
      rw [hv] at hcore
      exact progress_quiet m _ rfl rfl rfl fun _ h => hcore.symm.trans h
    · exact progress_quiet m (.finished (.error e)) rfl rfl rfl fun _ h => h
  case readerAdvance =>
    unfold readerAdvance at h
    split at h <;> cases h
    exact ⟨rfl, rfl, rfl, fun _ h => h, by simp [Channel.Sane]⟩
  case readerTake =>
    unfold readerTake at h
    split at h <;> cases h
    refine ⟨rfl, rfl, rfl, fun _ h => h, fun idle m => ?_⟩
    dsimp only
    split <;> simp
  case readerClose =>
    unfold readerClose at h
    split at h <;> cases h
    next reason m hpc =>
      have hreason : ∀ i, reason ≠ .peerUnresponsive i := by
        rintro i rfl
        exact hs i m hpc
      exact ⟨rfl, rfl, rfl, fun _ h => SessionCore.silent_of_close hreason h,
        by simp [Channel.Sane]⟩
  case readerAbort =>
    unfold readerAbort at h
    split at h
    · cases h
      exact ⟨rfl, rfl, rfl, fun _ h => h, by simp [Channel.Sane]⟩
    · split at h <;> cases h
      exact ⟨rfl, rfl, rfl, fun _ h => h, by simp [Channel.Sane]⟩
    · split at h <;> cases h
      exact ⟨rfl, rfl, rfl, fun _ h => h, by simp [Channel.Sane]⟩
    · cases h

/-- All other operations are quiet. -/
theorem perform_quiet (hs : ch.Sane) (hpulse : a.pulse = false)
    (h : perform env c k ch a = some o) : ch.Quiet o.channel := by
  cases ha : a.task with
  | send who => exact send_quiet hs ha h
  | writer => exact writer_quiet hs ha h
  | heartbeat =>
    cases a <;> simp only [Action.task, reduceCtorEq] at ha <;> cases hpulse
  | retransmit => exact retransmit_quiet hs ha h
  | command => exact command_quiet hs ha h
  | reader => exact reader_quiet hs ha hpulse h
  | handle => exact handle_quiet hs ha h

lemma route_quiet (now : ℕ) (m : ClientMessage) :
    ch.Quiet (route env now m k ch).channel := by
  unfold route
  split
  · exact ⟨rfl, rfl, rfl, fun _ h => h, by simp [Channel.Sane]⟩
  · split
    · exact ⟨rfl, rfl, rfl, fun _ h => h, by simp [Channel.Sane]⟩
    · split <;> exact ⟨rfl, rfl, rfl, fun _ h => h, by simp [Channel.Sane]⟩
  · exact ⟨rfl, rfl, rfl, fun _ h => h, by simp [Channel.Sane]⟩
  · exact ⟨rfl, rfl, rfl, fun _ h => h, by simp [Channel.Sane]⟩
  · exact ⟨rfl, rfl, rfl, fun _ h => SessionCore.silent_of_close (by simp) h,
      by simp [Channel.Sane]⟩
  · exact ⟨rfl, rfl, rfl, fun _ h => h, by simp [Channel.Sane]⟩

lemma handleText_quiet (text : String) : ch.Quiet (handleText ch text) := by
  unfold handleText
  split_ifs <;> exact ⟨rfl, rfl, rfl, fun _ h => h, by simp [Channel.Sane]⟩

/-- A frame proves the peer alive. -/
lemma frame_quiet {now : ℕ} {frame : InFrame} (h : readerFrame env now frame k ch = some o) :
    ({ ch with lastInbound := now } : Channel).Quiet o.channel := by
  unfold readerFrame at h
  split at h
  · cases frame with
    | binary decoded =>
      cases decoded with
      | ok m =>
        cases h
        exact route_quiet now m
      | error e =>
        cases h
        exact ⟨rfl, rfl, rfl, fun _ h => h, by simp [Channel.Sane]⟩
    | text text =>
      cases h
      exact handleText_quiet text
    | _ =>
      cases h
      exact ⟨rfl, rfl, rfl, fun _ h => h, by simp [Channel.Sane]⟩
  · cases h

/-- The heartbeat looks for silence. -/
lemma heartbeatTick_cases {now : ℕ} (h : heartbeatTick now k ch = some o) :
    (ch.idleTimeout < now - ch.lastInbound ∧ o.channel =
      { ch.close (.peerUnresponsive (now - ch.lastInbound)) with heartbeat := .ended }) ∨
    (now - ch.lastInbound ≤ ch.idleTimeout ∧
      ∃ queue, o.channel = { ch with writerQueue := queue, heartbeat := .select }) := by
  unfold heartbeatTick at h
  split at h
  · dsimp only at h
    split at h
    · next hidle =>
      cases h
      exact .inl ⟨hidle, rfl⟩
    · next hidle =>
      cases h
      obtain ⟨queue, hqueue⟩ := ch.tryWrite_snd .ping
      exact .inr ⟨Nat.le_of_not_lt hidle, queue, by rw [hqueue]⟩
  · cases h

/-- The heartbeat is polled or aborted. -/
lemma heartbeat_moved (h : perform env c k ch a = some o)
    (ha : a = .heartbeatPoll ∨ a = .heartbeatAbort) :
    ∃ pc, o.channel = { ch with heartbeat := pc } := by
  obtain rfl | rfl := ha
  · simp only [perform, heartbeatPoll] at h
    split at h <;> cases h
    exact ⟨_, rfl⟩
  · simp only [perform, heartbeatAbort] at h
    split at h <;> cases h
    exact ⟨_, rfl⟩

lemma pulse_cases (hpulse : a.pulse = true) :
    (∃ now, a = .heartbeatTick now) ∨ (∃ now frame, a = .readerFrame now frame) ∨
      (a = .heartbeatPoll ∨ a = .heartbeatAbort) := by
  cases a <;> first
    | exact .inl ⟨_, rfl⟩
    | exact .inr (.inl ⟨_, _, rfl⟩)
    | exact .inr (.inr (.inl rfl))
    | exact .inr (.inr (.inr rfl))
    | cases hpulse

/-- The heartbeat of an open channel is running. -/
structure Channel.Beating (ch : Channel) : Prop where
  aborted : ch.aborted = true → ch.core.isClosed = true
  ended : ch.heartbeat = .ended → ch.core.isClosed = true

lemma Channel.Beating.open (config : ChannelConfig) : (Channel.open config).Beating :=
  ⟨fun h => (by cases h), fun h => (by cases h)⟩

lemma Channel.Beating.perform (hb : ch.Beating) (hs : ch.Sane)
    (h : perform env c k ch a = some o) : o.channel.Beating := by
  refine ⟨(perform_cases h).aborted_closed hb.aborted, fun hended => ?_⟩
  have hstays : ch.core.isClosed = true → o.channel.core.isClosed = true := by
    intro hclosed
    by_contra hopen
    rw [open_before h (Bool.eq_false_of_not_eq_true hopen)] at hclosed
    cases hclosed
  cases hpulse : a.pulse with
  | false => exact hstays (hb.ended ((perform_quiet hs hpulse h).heartbeat ▸ hended))
  | true =>
    obtain ⟨now, rfl⟩ | ⟨now, frame, rfl⟩ | rfl | rfl := pulse_cases hpulse
    · obtain ⟨-, hch⟩ | ⟨-, queue, hch⟩ := heartbeatTick_cases h
      · rw [hch]
        exact SessionCore.isClosed_of_close _ _
      · rw [hch] at hended
        cases hended
    · exact hstays (hb.ended ((frame_quiet h).heartbeat ▸ hended))
    · simp only [SsmBridge.perform, heartbeatPoll] at h
      split at h <;> cases h
      by_contra hopen
      simp [Bool.eq_false_of_not_eq_true hopen] at hended
    · simp only [SsmBridge.perform, heartbeatAbort] at h
      split at h <;> cases h
      next hab _ => exact hb.aborted hab

/-! ## Steps on the clock -/

namespace TimedSystem

variable {interval late : ℕ} {s s' : TimedSystem} {l : TimedLabel} {t : Ticker}

/-- The state after an operation of channel `c`. -/
def after (s : TimedSystem) (interval c : ℕ) (a : Action) (o : Outcome) : TimedSystem :=
  { s with system := s.system.after c o
           tickers := s.tickersAfter interval c a
           heard := s.heardAfter c a }

/-- What a step can do. -/
inductive Moves (interval : ℕ) (env : Env) (s : TimedSystem) : TimedLabel → TimedSystem → Prop
  | act {c : ℕ} {a : Action} {ch : Channel} {o : Outcome} (hallows : s.allows c a = true)
      (hch : s.system.channels[c]? = some ch) (ho : perform env c s.system.cont ch a = some o) :
      Moves interval env s (.act (.act c a)) (s.after interval c a o)
  | resume {config : ChannelConfig} (hnow : config.openedAt = s.now)
      (hresumable : s.system.resumable = true) :
      Moves interval env s (.act (.resume config)) { s with
        system := s.system.resumed config
        tickers := s.tickers ++ [⟨s.now, none⟩] }
  | begin {c : ℕ} {t : Ticker} (ht : s.tickers[c]? = some t) (hnew : t.deadline = none) :
      Moves interval env s (.begin c)
        { s with tickers := s.tickers.modify c (Ticker.begin interval s.now) }
  | elapse (nanos : ℕ) : Moves interval env s (.elapse nanos) { s with now := s.now + nanos }

theorem step_moves (h : step interval env s l = some s') : Moves interval env s l s' := by
  cases l with
  | act l =>
    cases l with
    | act c a =>
      simp only [step] at h
      split at h
      · next hallows =>
        obtain ⟨system, hsystem, rfl⟩ := Option.map_eq_some_iff.mp h
        obtain ⟨c', a', ch, o, hl, hch, ho, rfl⟩ | ⟨config, hl, -⟩ := System.step_cases hsystem
        · cases hl
          exact .act hallows hch ho
        · cases hl
      · cases h
    | resume config =>
      simp only [step] at h
      split at h
      · next hnow =>
        obtain ⟨system, hsystem, rfl⟩ := Option.map_eq_some_iff.mp h
        obtain ⟨c', a', ch, o, hl, -⟩ | ⟨config', hl, hresumable, rfl⟩ :=
          System.step_cases hsystem
        · cases hl
        · cases hl
          exact .resume hnow hresumable
      · cases h
  | begin c =>
    simp only [step] at h
    split at h
    · next hnew =>
      cases h
      obtain ⟨t, ht, hnone⟩ := (Option.any_eq_true _ _).mp hnew
      exact .begin ht (Option.isNone_iff_eq_none.mp hnone)
    · cases h
  | elapse nanos =>
    cases h
    exact .elapse nanos

lemma now_le (h : step interval env s l = some s') : s.now ≤ s'.now := by
  cases step_moves h with
  | act hallows hch ho => exact le_rfl
  | resume hnow hresumable => exact le_rfl
  | begin ht hnew => exact le_rfl
  | elapse nanos => exact Nat.le_add_right _ _

/-- The session under the clock is one of `System`. -/
theorem untimed {config : ChannelConfig}
    (h : Reachable (step interval env) free (start config) s) : Session env config s.system := by
  have hstep : ∀ s l s' system, s.system = system → step interval env s l = some s' → free s l s' →
      ∃ system', Reachable (System.step env) free system system' ∧ s'.system = system' := by
    rintro s l s' _ rfl hstep -
    cases step_moves hstep with
    | @act c a ch o hallows hch ho =>
      refine ⟨_, Reachable.refl.tail (l := .act c a) ?_ trivial, rfl⟩
      simp [System.step, hch, ho, after, System.after]
    | @resume config' hnow hresumable =>
      refine ⟨_, Reachable.refl.tail (l := .resume config') ?_ trivial, rfl⟩
      simp [System.step, hresumable, System.resumed]
    | begin ht hnew => exact ⟨_, .refl, rfl⟩
    | elapse nanos => exact ⟨_, .refl, rfl⟩
  obtain ⟨system, hsystem, rfl⟩ := h.simulates (R := fun s system => s.system = system) rfl hstep
  exact hsystem

/-- What a step does to a channel and its ticker, and whether the channel was heard. -/
inductive Beat (interval now : ℕ) (ch : Channel) (t : Ticker) : Channel → Ticker → Bool → Prop
  | quiet {ch' : Channel} (hquiet : ch.Quiet ch')
      (hopen : ch'.core.isClosed = false → ch.core.isClosed = false) :
      Beat interval now ch t ch' t false
  | heard {ch' : Channel} (hquiet : ({ ch with lastInbound := now } : Channel).Quiet ch')
      (hopen : ch'.core.isClosed = false → ch.core.isClosed = false) :
      Beat interval now ch t ch' t true
  | silent (hidle : ch.idleTimeout < now - ch.lastInbound) :
      Beat interval now ch t
        { ch.close (.peerUnresponsive (now - ch.lastInbound)) with heartbeat := .ended }
        (t.tick interval now) false
  | ticked (queue : List Frame) (hidle : now - ch.lastInbound ≤ ch.idleTimeout)
      (hdue : t.due ≤ now) :
      Beat interval now ch t { ch with writerQueue := queue, heartbeat := .select }
        (t.tick interval now) false
  | moved (pc : HeartbeatPc) : Beat interval now ch t { ch with heartbeat := pc } t false
  | begun (hnew : t.deadline = none) : Beat interval now ch t ch (t.begin interval now) false

/-- The channels and the tickers belong together, and only the channels there are were heard. -/
structure Paired (s : TimedSystem) : Prop where
  tickers : s.tickers.length = s.system.channels.length
  heard : ∀ p ∈ s.heard, p.1 < s.system.channels.length
  sane : ∀ ch ∈ s.system.channels, ch.Sane

/-- A channel and its ticker before a step. -/
structure Before (interval c : ℕ) (s s' : TimedSystem) (ch' : Channel) (t' : Ticker) (ch : Channel)
    (t : Ticker) : Prop where
  channel : s.system.channels[c]? = some ch
  ticker : s.tickers[c]? = some t
  beat : ∃ heard, Beat interval s.now ch t ch' t' heard ∧
    ∀ u, (c, u) ∈ s'.heard ↔ (c, u) ∈ s.heard ∨ (heard = true ∧ u = s.now)

lemma ticker_modify {f : Ticker → Ticker} {c' : ℕ} {ts : List Ticker}
    (h : (ts.modify c' f)[c]? = some t) :
    ∃ t₀, ts[c]? = some t₀ ∧ t = if c' = c then f t₀ else t₀ := by
  rw [List.getElem?_modify] at h
  obtain ⟨t₀, ht₀, rfl⟩ := Option.map_eq_some_iff.mp h
  exact ⟨t₀, ht₀, rfl⟩

lemma heardAfter_of_pulse (hpulse : a.pulse = false) : s.heardAfter c a = s.heard := by
  cases a <;> first | rfl | cases hpulse

lemma tickersAfter_of_pulse (hpulse : a.pulse = false) :
    s.tickersAfter interval c a = s.tickers := by
  cases a <;> first | rfl | cases hpulse

/-- An operation of another channel. -/
lemma ticker_of_ne {c' : ℕ} (hne : c ≠ c') (h : (s.tickersAfter interval c' a)[c]? = some t) :
    s.tickers[c]? = some t := by
  unfold tickersAfter at h
  split at h
  · obtain ⟨t₀, ht₀, rfl⟩ := ticker_modify h
    rwa [if_neg (Ne.symm hne)]
  · exact h

lemma heard_of_ne {c' u : ℕ} (hne : c ≠ c') : (c, u) ∈ s.heardAfter c' a ↔ (c, u) ∈ s.heard := by
  unfold heardAfter
  split <;> simp [hne]

lemma allows_clock {now : ℕ} (h : s.allows c a = true) (hclock : a.clock = some now) :
    now = s.now := by
  simp only [allows, hclock, Option.all_some, Bool.and_eq_true, decide_eq_true_eq] at h
  exact h.1

lemma allows_tick {now : ℕ} (h : s.allows c (.heartbeatTick now) = true)
    (ht : s.tickers[c]? = some t) : now = s.now ∧ t.due ≤ s.now := by
  refine ⟨allows_clock h rfl, ?_⟩
  simp only [allows, ticker, ht, Option.any_some, Bool.and_eq_true] at h
  obtain ⟨deadline, hdeadline, hle⟩ := (Option.any_eq_true _ _).mp h.2
  simpa [Ticker.due, hdeadline] using hle

/-- What a step does to one channel, unless it opens it. -/
theorem Paired.before (hs : s.Paired) (h : step interval env s l = some s') {ch' : Channel}
    {t' : Ticker} (hch' : s'.system.channels[c]? = some ch') (ht' : s'.tickers[c]? = some t') :
    (∃ ch t, Before interval c s s' ch' t' ch t) ∨
    (∃ config, c = s.system.channels.length ∧ ch' = Channel.open config ∧ t' = ⟨s.now, none⟩ ∧
      config.openedAt = s.now ∧ s'.heard = s.heard) := by
  have hsane : ∀ {c : ℕ} {ch : Channel}, s.system.channels[c]? = some ch → ch.Sane := fun hch =>
    hs.sane _ (List.mem_of_getElem? hch)
  cases step_moves h with
  | @act c₀ a ch₀ o hallows hch₀ ho =>
    obtain ⟨rfl, rfl⟩ | ⟨hne, hch⟩ := System.channel_after hch'
    · refine .inl ⟨ch₀, ?_⟩
      have hopen := open_before ho
      cases hpulse : a.pulse with
      | false =>
        refine ⟨t', hch₀, ?_, false, .quiet (perform_quiet (hsane hch₀) hpulse ho) hopen, ?_⟩
        · rwa [after, tickersAfter_of_pulse hpulse] at ht'
        · intro u
          simp [after, heardAfter_of_pulse hpulse]
      | true =>
        obtain ⟨now, rfl⟩ | ⟨now, frame, rfl⟩ | ha := pulse_cases hpulse
        · obtain ⟨t, ht, rfl⟩ := ticker_modify ht'
          obtain ⟨rfl, hdue⟩ := allows_tick hallows ht
          rw [if_pos rfl]
          obtain ⟨hidle, hch⟩ | ⟨hidle, queue, hch⟩ := heartbeatTick_cases ho
          · refine ⟨t, hch₀, ht, false, hch ▸ .silent hidle, fun u => ?_⟩
            simp [after, heardAfter]
          · refine ⟨t, hch₀, ht, false, hch ▸ .ticked queue hidle hdue, fun u => ?_⟩
            simp [after, heardAfter]
        · obtain rfl := allows_clock hallows rfl
          refine ⟨t', hch₀, ht', true, .heard (frame_quiet ho) hopen, fun u => ?_⟩
          simp [after, heardAfter]
        · obtain ⟨pc, hpc⟩ := heartbeat_moved ho ha
          rw [hpc]
          obtain rfl | rfl := ha <;>
            exact ⟨t', hch₀, ht', false, .moved pc, fun u => by simp [after, heardAfter]⟩
    · refine .inl ⟨ch', t', hch, ticker_of_ne hne ht', false, .quiet (.refl (hsane hch)) id, ?_⟩
      intro u
      simp [after, heard_of_ne hne]
  | @resume config hnow hresumable =>
    obtain ⟨hc, rfl⟩ | hch := System.channel_resumed hch'
    · obtain ⟨-, rfl⟩ | ⟨hlt, -⟩ := Machine.getElem?_of_concat ht'
      · exact .inr ⟨config, hc, rfl, rfl, hnow, rfl⟩
      · rw [hs.tickers, hc] at hlt
        exact absurd hlt (lt_irrefl _)
    · obtain ⟨hc, rfl⟩ | ⟨-, ht⟩ := Machine.getElem?_of_concat ht'
      · rw [hc, hs.tickers, List.getElem?_eq_none le_rfl] at hch
        cases hch
      · refine .inl ⟨ch', t', hch, ht, false, .quiet (.refl (hsane hch)) id, ?_⟩
        simp
  | @begin c₀ t₀ ht₀ hnew =>
    obtain ⟨t, ht, rfl⟩ := ticker_modify ht'
    refine .inl ⟨ch', t, hch', ht, false, ?_, by simp⟩
    split
    · next hc =>
      subst hc
      obtain rfl : t₀ = t := Option.some_injective _ (ht₀.symm.trans ht)
      exact .begun hnew
    · exact .quiet (.refl (hsane hch')) id
  | elapse nanos =>
    refine .inl ⟨ch', t', hch', ht', false, .quiet (.refl (hsane hch')) id, ?_⟩
    simp

/-- What was sane stays sane. -/
lemma Beat.sane {now : ℕ} {ch ch' : Channel} {t' : Ticker} {heard : Bool}
    (h : Beat interval now ch t ch' t' heard) (hs : ch.Sane) : ch'.Sane := by
  cases h with
  | quiet hquiet hopen => exact hquiet.sane
  | heard hquiet hopen => exact hquiet.sane
  | silent hidle => exact hs
  | ticked queue hidle hdue => exact hs
  | moved pc => exact hs
  | begun hnew => exact hs

theorem Paired.step (hs : s.Paired) (h : step interval env s l = some s') : s'.Paired := by
  have hlength : s'.tickers.length = s'.system.channels.length := by
    cases step_moves h with
    | @act c a ch o hallows hch ho =>
      have hticked : (s.tickersAfter interval c a).length = s.tickers.length := by
        unfold tickersAfter
        split <;> simp
      simpa [after, System.after, hticked] using hs.tickers
    | resume hnow hresumable => simpa [System.resumed] using hs.tickers
    | begin ht hnew => simpa using hs.tickers
    | elapse nanos => exact hs.tickers
  have hgrows : s.system.channels.length ≤ s'.system.channels.length := by
    cases step_moves h with
    | act hallows hch ho => simp [after, System.after]
    | resume hnow hresumable => simp [System.resumed]
    | begin ht hnew => exact le_rfl
    | elapse nanos => exact le_rfl
  refine ⟨hlength, fun p hp => ?_, fun ch' hch' => ?_⟩
  · cases step_moves h with
    | @act c a ch o hallows hch ho =>
      change p ∈ s.heardAfter c a at hp
      unfold heardAfter at hp
      split at hp
      · obtain hp | hp := List.mem_append.mp hp
        · exact (hs.heard p hp).trans_le hgrows
        · obtain rfl := List.mem_singleton.mp hp
          exact (List.getElem?_eq_some_iff.mp hch).1.trans_le hgrows
      · exact (hs.heard p hp).trans_le hgrows
    | resume hnow hresumable => exact (hs.heard p hp).trans_le hgrows
    | begin ht hnew => exact hs.heard p hp
    | elapse nanos => exact hs.heard p hp
  · obtain ⟨c, hc, rfl⟩ := List.getElem_of_mem hch'
    have ht' := List.getElem?_eq_getElem (hlength ▸ hc)
    obtain ⟨ch, t, hch, -, heard, hbeat, -⟩ | ⟨config, -, hnew, -⟩ :=
      hs.before h (List.getElem?_eq_getElem hc) ht'
    · exact hbeat.sane (hs.sane ch (List.mem_of_getElem? hch))
    · rw [hnew]
      exact fun _ _ h => by cases h

/-! ## The two bounds -/

/-- Nothing came from channel `c` for `idle` up to some time, and it was open all along. -/
def Silence (s : TimedSystem) (c openedAt idle : ℕ) : Prop :=
  ∃ v ≤ s.now, openedAt + idle ≤ v ∧
    ∀ u, (c, u) ∈ s.heard → u + idle ≤ v ∨ v ≤ u

/-- What the channel remembers of its frames is so. -/
structure Watched (s : TimedSystem) (c : ℕ) (ch : Channel) (t : Ticker) : Prop where
  opened : t.openedAt ≤ ch.lastInbound
  past : ch.lastInbound ≤ s.now
  last : ch.lastInbound = t.openedAt ∨ (c, ch.lastInbound) ∈ s.heard
  heard : ∀ u, (c, u) ∈ s.heard → u ≤ ch.lastInbound
  silent : ∀ idle, ch.core.closeReason = some (.peerUnresponsive idle) →
    ch.idleTimeout < idle ∧ s.Silence c t.openedAt idle

/-- The next tick of an open channel is in time. -/
def OnTime (interval late : ℕ) (ch : Channel) (t : Ticker) : Prop :=
  ch.core.isClosed = false → t.due ≤ ch.lastInbound + max ch.idleTimeout late + interval

/-- A silence of the past stays one. -/
lemma Silence.mono {openedAt idle : ℕ} (h : s.Silence c openedAt idle) (hnow : s.now ≤ s'.now)
    (hheard : ∀ u, (c, u) ∈ s'.heard → (c, u) ∈ s.heard ∨ s.now ≤ u) :
    s'.Silence c openedAt idle := by
  obtain ⟨v, hv, hopened, hnone⟩ := h
  refine ⟨v, hv.trans hnow, hopened, fun u hu => ?_⟩
  obtain hu | hu := hheard u hu
  · exact hnone u hu
  · exact .inr (hv.trans hu)

/-- The channel goes on without a frame. -/
lemma Watched.keep {ch' : Channel} {t' : Ticker} (hw : s.Watched c ch t) (hnow : s.now ≤ s'.now)
    (hlast : ch'.lastInbound = ch.lastInbound) (htimeout : ch'.idleTimeout = ch.idleTimeout)
    (hopened : t'.openedAt = t.openedAt) (hheard : ∀ u, (c, u) ∈ s'.heard ↔ (c, u) ∈ s.heard)
    (hsilent : ∀ idle, ch'.core.closeReason = some (.peerUnresponsive idle) →
      ch.core.closeReason = some (.peerUnresponsive idle) ∨
        (idle = s.now - ch.lastInbound ∧ ch.idleTimeout < idle)) :
    s'.Watched c ch' t' := by
  refine ⟨?_, ?_, ?_, ?_, fun idle hidle => ?_⟩
  · rw [hopened, hlast]
    exact hw.opened
  · rw [hlast]
    exact hw.past.trans hnow
  · rw [hopened, hlast, hheard]
    exact hw.last
  · intro u hu
    rw [hlast]
    exact hw.heard u ((hheard u).mp hu)
  · rw [htimeout, hopened]
    obtain hold | ⟨rfl, hlong⟩ := hsilent idle hidle
    · obtain ⟨hlong, hsilence⟩ := hw.silent idle hold
      exact ⟨hlong, hsilence.mono hnow fun u hu => .inl ((hheard u).mp hu)⟩
    · have hopen := hw.opened
      have hpast := hw.past
      refine ⟨hlong, s.now, hnow, by omega, fun u hu => .inl ?_⟩
      have hu := hw.heard u ((hheard u).mp hu)
      omega

/-- What a channel remembers stays right. -/
lemma Watched.beat {ch' : Channel} {t' : Ticker} (hw : s.Watched c ch t)
    (hb : Before interval c s s' ch' t' ch t) (hnow : s.now ≤ s'.now) : s'.Watched c ch' t' := by
  obtain ⟨heard, hbeat, hheard⟩ := hb.beat
  cases hbeat with
  | quiet hquiet hopen =>
    exact hw.keep hnow hquiet.lastInbound hquiet.idleTimeout rfl (by simpa using hheard)
      fun idle h => .inl (hquiet.silent idle h)
  | heard hquiet hopen =>
    have hheard : ∀ u, (c, u) ∈ s'.heard ↔ (c, u) ∈ s.heard ∨ u = s.now := by simpa using hheard
    have hlast : ch'.lastInbound = s.now := hquiet.lastInbound
    refine ⟨?_, ?_, ?_, fun u hu => ?_, fun idle hidle => ?_⟩
    · rw [hlast]
      exact hw.opened.trans hw.past
    · rw [hlast]
      exact hnow
    · rw [hlast]
      exact .inr ((hheard _).mpr (.inr rfl))
    · rw [hlast]
      obtain hu | rfl := (hheard u).mp hu
      · exact (hw.heard u hu).trans hw.past
      · exact le_rfl
    · obtain ⟨hlong, hsilence⟩ := hw.silent idle (hquiet.silent idle hidle)
      refine ⟨by rwa [hquiet.idleTimeout], hsilence.mono hnow fun u hu => ?_⟩
      exact ((hheard u).mp hu).imp_right fun hu => hu.ge
  | silent hidle =>
    refine hw.keep hnow rfl rfl rfl (by simpa using hheard) fun idle h => ?_
    change (ch.core.close _).closeReason = _ at h
    unfold SessionCore.close at h
    split at h
    · exact .inl h
    · cases h
      exact .inr ⟨rfl, hidle⟩
  | ticked queue hidle hdue =>
    exact hw.keep hnow rfl rfl rfl (by simpa using hheard) fun idle h => .inl h
  | moved pc => exact hw.keep hnow rfl rfl rfl (by simpa using hheard) fun idle h => .inl h
  | begun hnew => exact hw.keep hnow rfl rfl rfl (by simpa using hheard) fun idle h => .inl h

/-- The ticker of an open channel stays in time, when its task is not delayed for too long. -/
lemma OnTime.beat {ch' : Channel} {t' : Ticker} {heard : Bool} (ho : OnTime interval late ch t)
    (hw : s.Watched c ch t) (hb : Beat interval s.now ch t ch' t' heard)
    (hprompt : ch.core.isClosed = false → s.now ≤ t.due + late) : OnTime interval late ch' t' := by
  intro hopen'
  have hpast := hw.past
  cases hb with
  | quiet hquiet hopen =>
    rw [hquiet.lastInbound, hquiet.idleTimeout]
    exact ho (hopen hopen')
  | heard hquiet hopen =>
    have hdue := ho (hopen hopen')
    rw [show ch'.lastInbound = s.now from hquiet.lastInbound,
      show ch'.idleTimeout = ch.idleTimeout from hquiet.idleTimeout]
    omega
  | silent hidle =>
    rw [show Channel.core _ = ch.core.close _ from rfl, SessionCore.isClosed_of_close] at hopen'
    cases hopen'
  | ticked queue hidle hdue =>
    -- The next tick is one interval after this one, or after it was due.
    have hnext : (t.tick interval s.now).due ≤ s.now + interval := by
      show (if t.due + tickTolerance < s.now then s.now else t.due) + interval ≤ _
      split <;> omega
    refine hnext.trans ?_
    show s.now + interval ≤ ch.lastInbound + max ch.idleTimeout late + interval
    omega
  | moved pc => exact ho hopen'
  | begun hnew =>
    have hdue : t.due = t.openedAt := by simp [Ticker.due, hnew]
    have hdelay := hprompt hopen'
    have hopened := hw.opened
    show s.now + interval ≤ _
    omega

/-- All channels remember their frames. -/
structure Watches (s : TimedSystem) : Prop extends s.Paired where
  watched : ∀ {c : ℕ} {ch : Channel} {t : Ticker}, s.system.channels[c]? = some ch →
    s.tickers[c]? = some t → s.Watched c ch t

lemma Watched.open {config : ChannelConfig} (hnow : config.openedAt ≤ s.now)
    (hheard : ∀ u, (c, u) ∉ s.heard) :
    s.Watched c (Channel.open config) ⟨config.openedAt, none⟩ :=
  ⟨le_rfl, hnow, .inl rfl, fun u hu => absurd hu (hheard u), fun _ h => by cases h⟩

lemma ticker_start {config : ChannelConfig} (h : (start config).tickers[c]? = some t) :
    t = ⟨config.openedAt, none⟩ := by
  obtain ⟨hc, ht⟩ := List.getElem?_eq_some_iff.mp h
  simp only [start, List.getElem_singleton] at ht
  exact ht.symm

lemma Watches.start (config : ChannelConfig) : (start config).Watches := by
  refine ⟨⟨rfl, by simp [TimedSystem.start], ?_⟩, fun {c ch t} hch ht => ?_⟩
  · intro ch hch
    obtain rfl := List.mem_singleton.mp hch
    exact fun _ _ h => by cases h
  · obtain rfl := System.channel_start hch
    obtain rfl := ticker_start ht
    exact .open le_rfl (by simp [TimedSystem.start])

theorem Watches.step (hs : s.Watches) (h : step interval env s l = some s') : s'.Watches := by
  refine ⟨hs.toPaired.step h, fun {c ch' t'} hch' ht' => ?_⟩
  have hnow := now_le h
  obtain ⟨ch, t, hb⟩ | ⟨config, hc, rfl, rfl, hopened, hheard⟩ := hs.toPaired.before h hch' ht'
  · exact (hs.watched hb.channel hb.ticker).beat hb hnow
  · have hnone : ∀ u, (c, u) ∉ s'.heard := by
      intro u hu
      rw [hheard] at hu
      exact absurd (hs.heard _ hu) (by simp [hc])
    rw [← hopened]
    exact .open (hopened.le.trans hnow) hnone

lemma watches {config : ChannelConfig}
    (h : Reachable (step interval env) free (start config) s) : s.Watches :=
  h.invariant (.start config) fun _ _ _ hs hstep _ => hs.step hstep

/-- A run of prompt heartbeats. -/
abbrev PromptRun (interval : ℕ) (env : Env) (late : ℕ) (config : ChannelConfig) :
    TimedSystem → Prop :=
  Reachable (step interval env) (fun _ _ s' => s'.Prompt late) (start config)

/-- In a run whose heartbeats are not delayed for too long, every ticker is in time. -/
theorem on_time {config : ChannelConfig}
    (h : PromptRun interval env late config s) :
    s.Prompt late ∧ ∀ {c : ℕ} {ch : Channel} {t : Ticker}, s.system.channels[c]? = some ch →
      s.tickers[c]? = some t → OnTime interval late ch t := by
  refine h.invariant_with (Q := fun s => s.Watches)
    (P := fun s => s.Prompt late ∧ ∀ {c : ℕ} {ch : Channel} {t : Ticker},
      s.system.channels[c]? = some ch → s.tickers[c]? = some t → OnTime interval late ch t)
    (fun _ hs => watches hs) ⟨?_, ?_⟩ ?_
  · intro c ch t hch ht hopen
    obtain rfl := ticker_start ht
    exact Nat.le_add_right _ _
  · intro c ch t hch ht hopen
    obtain rfl := System.channel_start hch
    obtain rfl := ticker_start ht
    show config.openedAt ≤ config.openedAt + _ + _
    omega
  · intro s l s' hs hp hstep hprompt
    refine ⟨hprompt, fun {c ch' t'} hch' ht' => ?_⟩
    obtain ⟨ch, t, hb⟩ | ⟨config', -, rfl, rfl, hopened, -⟩ := hs.toPaired.before hstep hch' ht'
    · obtain ⟨heard, hbeat, -⟩ := hb.beat
      exact (hp.2 hb.channel hb.ticker).beat (hs.watched hb.channel hb.ticker) hbeat
        (hp.1 c ch t hb.channel hb.ticker)
    · intro _
      show s.now ≤ config'.openedAt + _ + _
      omega

/-- The heartbeat of the first channel ticks. -/
def ticking (nanos now : ℕ) : List TimedLabel :=
  [.elapse nanos, .act (.act 0 .heartbeatPoll), .act (.act 0 (.heartbeatTick now))]

/-- **Silence is noticed.** When no heartbeat task is delayed for more than `late`, a channel that
is open was opened, or heard its peer, not longer ago than the idle timeout, one interval and the
delay together. -/
theorem silence_is_noticed {config : ChannelConfig}
    (h : PromptRun interval env late config s)
    (hch : s.system.channels[c]? = some ch) (ht : s.tickers[c]? = some t)
    (hopen : ch.core.isClosed = false) :
    ∃ u, (u = t.openedAt ∨ (c, u) ∈ s.heard) ∧
      s.now ≤ u + (max ch.idleTimeout late + interval + late) := by
  obtain ⟨hprompt, hontime⟩ := on_time h
  have hdelay := hprompt c ch t hch ht hopen
  have hdue := hontime hch ht hopen
  exact ⟨ch.lastInbound, ((watches h.unguarded).watched hch ht).last, by omega⟩

/-- Whether the heartbeats are prompt. -/
def promptly (late : ℕ) (s : TimedSystem) : Bool :=
  (s.system.channels.zip s.tickers).all fun p =>
    p.1.core.isClosed || decide (s.now ≤ p.2.due + late)

lemma prompt_of_promptly (h : s.promptly late = true) : s.Prompt late := by
  intro c ch t hch ht hopen
  have hmem : (ch, t) ∈ s.system.channels.zip s.tickers :=
    List.mem_of_getElem? (List.getElem?_zip_eq_some.mpr ⟨hch, ht⟩)
  simpa [hopen] using List.all_eq_true.mp h _ hmem

/-- The bound is attained: with an idle timeout of 1000, an interval of 300 and a delay of 100, a
channel that never heard its peer is open after 1400. -/
theorem silence_is_noticed_at_the_bound :
    ∃ s ch t, PromptRun 300 sampleEnv 100 sampleConfig s ∧
      s.system.channels[0]? = some ch ∧ s.tickers[0]? = some t ∧ ch.core.isClosed = false ∧
      s.heard = [] ∧ t.openedAt = 0 ∧ ch.idleTimeout = 1000 ∧ s.now = 1400 ∧
      ∃ u, (u = t.openedAt ∨ (0, u) ∈ s.heard) ∧
        s.now ≤ u + (max ch.idleTimeout 100 + 300 + 100) := by
  have hrun : (runIf (step 300 sampleEnv) (fun _ _ s' => s'.promptly 100) (start sampleConfig)
      (([.elapse 100, .begin 0] : List TimedLabel) ++ ticking 300 400 ++ ticking 300 700 ++
        ticking 300 1000 ++ ([.elapse 400] : List TimedLabel))).any
      (fun (s : TimedSystem) => decide (s.heard = [] ∧ s.now = 1400) &&
        (s.tickers[0]?.any fun (t : Ticker) => decide (t.openedAt = 0)) &&
        s.system.channels[0]?.any fun (ch : Channel) =>
          decide (ch.core.isClosed = false ∧ ch.idleTimeout = 1000)) = true := by
    decide +kernel
  obtain ⟨s, hs, hp⟩ := exists_of_runIf (fun _ _ _ ht => prompt_of_promptly ht) hrun
  rw [Bool.and_eq_true, Bool.and_eq_true] at hp
  obtain ⟨⟨hnow, hticker⟩, hp⟩ := hp
  obtain ⟨t, ht, hopened⟩ := (Option.any_eq_true _ _).mp hticker
  obtain ⟨ch, hch, hopen⟩ := (Option.any_eq_true _ _).mp hp
  obtain ⟨hheard, hnow⟩ := of_decide_eq_true hnow
  obtain ⟨hopen, hidle⟩ := of_decide_eq_true hopen
  exact ⟨s, ch, t, hs, hch, ht, hopen, hheard, of_decide_eq_true hopened, hidle, hnow,
    silence_is_noticed hs hch ht hopen⟩

/-! ## The heartbeat never waits -/

/-- The steps of the heartbeat tasks, and the passing of time. -/
def byHeartbeat : TimedLabel → Bool
  | .begin _ | .elapse _ | .act (.act _ .heartbeatPoll) | .act (.act _ (.heartbeatTick _)) => true
  | _ => false

lemma beating {config : ChannelConfig}
    (h : Reachable (step interval env) free (start config) s) :
    ∀ (c : ℕ) (ch : Channel), s.system.channels[c]? = some ch → ch.Beating := by
  refine h.invariant_with (Q := fun s => s.Watches)
    (P := fun s => ∀ (c : ℕ) (ch : Channel), s.system.channels[c]? = some ch → ch.Beating)
    (fun _ hs => watches hs) ?_ ?_
  · intro c ch hch
    obtain rfl := System.channel_start hch
    exact .open config
  · intro s l s' hs hb hstep _ c ch' hch'
    cases step_moves hstep with
    | @act c₀ a ch₀ o hallows hch₀ ho =>
      obtain ⟨rfl, rfl⟩ | ⟨-, hch⟩ := System.channel_after hch'
      · exact (hb c ch₀ hch₀).perform (hs.sane ch₀ (List.mem_of_getElem? hch₀)) ho
      · exact hb c ch' hch
    | resume hnow hresumable =>
      obtain ⟨-, rfl⟩ | hch := System.channel_resumed hch'
      · exact .open _
      · exact hb c ch' hch
    | begin ht hnew => exact hb c ch' hch'
    | elapse nanos => exact hb c ch' hch'

/-- Without the passing of time no ticker comes closer to its tick. -/
lemma Beat.due_le {ch' : Channel} {t' : Ticker} {heard : Bool}
    (hb : Beat interval s.now ch t ch' t' heard) (hw : s.Watched c ch t) : t.due ≤ t'.due := by
  cases hb with
  | quiet hquiet hopen => exact le_rfl
  | heard hquiet hopen => exact le_rfl
  | silent hidle =>
    show t.due ≤ (if t.due + tickTolerance < s.now then s.now else t.due) + interval
    split <;> omega
  | ticked queue hidle hdue =>
    show t.due ≤ (if t.due + tickTolerance < s.now then s.now else t.due) + interval
    split <;> omega
  | moved pc => exact le_rfl
  | begun hnew =>
    have hdue : t.due = t.openedAt := by simp [Ticker.due, hnew]
    have hopened := hw.opened.trans hw.past
    show t.due ≤ s.now + interval
    omega

lemma Beat.open {now : ℕ} {ch' : Channel} {t' : Ticker} {heard : Bool}
    (hb : Beat interval now ch t ch' t' heard) (hopen' : ch'.core.isClosed = false) :
    ch.core.isClosed = false := by
  cases hb with
  | quiet hquiet hopen => exact hopen hopen'
  | heard hquiet hopen => exact hopen hopen'
  | silent hidle =>
    rw [show Channel.core _ = ch.core.close _ from rfl, SessionCore.isClosed_of_close] at hopen'
    cases hopen'
  | ticked queue hidle hdue => exact hopen'
  | moved pc => exact hopen'
  | begun hnew => exact hopen'

/-- No heartbeat of the channel is due. -/
def CaughtUp (s : TimedSystem) (c : ℕ) : Prop :=
  ∀ (ch : Channel) (t : Ticker), s.system.channels[c]? = some ch → s.tickers[c]? = some t →
    ch.core.isClosed = false → s.now < t.due

/-- Only the passing of time makes a heartbeat late. -/
lemma Prompt.keep (hp : s.Prompt late) (hw : s.Watches) (h : step interval env s l = some s')
    (hnow : s'.now = s.now) : s'.Prompt late := by
  intro c ch' t' hch' ht' hopen'
  obtain ⟨ch, t, hb⟩ | ⟨config, -, -, rfl, -⟩ := hw.toPaired.before h hch' ht'
  · obtain ⟨heard, hbeat, -⟩ := hb.beat
    have hdue := hbeat.due_le (hw.watched hb.channel hb.ticker)
    have hdelay := hp c ch t hb.channel hb.ticker (hbeat.open hopen')
    omega
  · show s'.now ≤ s.now + late
    omega

lemma length_of_byHeartbeat (h : step interval env s l = some s') (hl : byHeartbeat l = true) :
    s'.system.channels.length = s.system.channels.length := by
  cases step_moves h with
  | act hallows hch ho => simp [after, System.after]
  | resume hnow hresumable => cases hl
  | begin ht hnew => rfl
  | elapse nanos => rfl

lemma CaughtUp.keep {c : ℕ} (hc : s.CaughtUp c) (hw : s.Watches)
    (h : step interval env s l = some s') (hl : byHeartbeat l = true) (hnow : s'.now = s.now) :
    s'.CaughtUp c := by
  intro ch' t' hch' ht' hopen'
  obtain ⟨ch, t, hb⟩ | ⟨config, rfl, -⟩ := hw.toPaired.before h hch' ht'
  · obtain ⟨heard, hbeat, -⟩ := hb.beat
    have hdue := hbeat.due_le (hw.watched hb.channel hb.ticker)
    have hbefore := hc ch t hb.channel hb.ticker (hbeat.open hopen')
    omega
  · have hlt := (List.getElem?_eq_some_iff.mp hch').1
    rw [length_of_byHeartbeat h hl] at hlt
    exact absurd hlt (lt_irrefl _)

/-- How far the heartbeat of a channel is behind. -/
def behind (c : ℕ) (s : TimedSystem) : ℕ :=
  match s.system.channels[c]?, s.tickers[c]? with
  | some ch, some t => 2 * (s.now + 1 - t.due) + if ch.heartbeat = .select then 1 else 0
  | _, _ => 0

lemma behind_eq (hch : s.system.channels[c]? = some ch) (ht : s.tickers[c]? = some t) :
    behind c s = 2 * (s.now + 1 - t.due) + if ch.heartbeat = .select then 1 else 0 := by
  rw [behind, hch, ht]

lemma ticker_modify_self {f : Ticker → Ticker} (ht : s.tickers[c]? = some t) :
    (s.tickers.modify c f)[c]? = some (f t) := by
  simp [ht]

/-- The task of an open channel that is behind has a step, whatever the others do. -/
lemma exists_step (hi : 0 < interval) (hb : ch.Beating) (hch : s.system.channels[c]? = some ch)
    (ht : s.tickers[c]? = some t) (hopen : ch.core.isClosed = false) (hdue : t.due ≤ s.now) :
    ∃ l s', byHeartbeat l = true ∧ step interval env s l = some s' ∧ s'.now = s.now ∧
      behind c s' < behind c s := by
  cases hdeadline : t.deadline with
  | none =>
    refine ⟨.begin c, { s with tickers := s.tickers.modify c (Ticker.begin interval s.now) }, rfl,
      by simp [step, ht, hdeadline], rfl, ?_⟩
    rw [behind_eq hch ht, behind_eq
      (s := { s with tickers := s.tickers.modify c (Ticker.begin interval s.now) }) hch
      (ticker_modify_self ht)]
    have hnext : (t.begin interval s.now).due = s.now + interval := rfl
    simp only [hnext]
    omega
  | some deadline =>
    have hdeadline' : deadline ≤ s.now := by simpa [Ticker.due, hdeadline] using hdue
    cases hpc : ch.heartbeat with
    | select =>
      obtain ⟨o, ho, hpolled⟩ : ∃ o, perform env c s.system.cont ch .heartbeatPoll = some o ∧
          o.channel = { ch with heartbeat := .polled } := by
        simp [perform, heartbeatPoll, hpc, hopen]
      refine ⟨.act (.act c .heartbeatPoll), s.after interval c .heartbeatPoll o, rfl, ?_, rfl, ?_⟩
      · simp [step, allows, Action.clock, ticker, ht, hdeadline, hdeadline', System.step, hch, ho,
          after, System.after]
      · have hch' : (s.after interval c .heartbeatPoll o).system.channels[c]? = some o.channel :=
          System.channel_after_self hch
        rw [behind_eq hch ht, behind_eq hch' ht, hpolled]
        simp [hpc, after]
    | polled =>
      obtain ⟨o, ho⟩ : ∃ o, perform env c s.system.cont ch (.heartbeatTick s.now) = some o := by
        simp only [perform, heartbeatTick, hpc]
        split <;> exact ⟨_, rfl⟩
      refine ⟨.act (.act c (.heartbeatTick s.now)), s.after interval c (.heartbeatTick s.now) o,
        rfl, ?_, rfl, ?_⟩
      · simp [step, allows, Action.clock, ticker, ht, hdeadline, hdeadline', System.step, hch, ho,
          after, System.after]
      · have hch' : (s.after interval c (.heartbeatTick s.now) o).system.channels[c]? =
            some o.channel := System.channel_after_self hch
        have ht' : (s.after interval c (.heartbeatTick s.now) o).tickers[c]? =
            some (t.tick interval s.now) := ticker_modify_self ht
        rw [behind_eq hch ht, behind_eq hch' ht']
        have hnext : t.due + interval ≤ (t.tick interval s.now).due := by
          show _ ≤ (if t.due + tickTolerance < s.now then s.now else t.due) + interval
          split <;> omega
        simp only [hpc, reduceCtorEq, if_false, after]
        split <;> omega
    | ended => simp [hb.ended hpc] at hopen

section

variable {config : ChannelConfig} (hi : 0 < interval)

/-- A run of the heartbeat tasks alone. -/
abbrev HeartbeatRun (interval : ℕ) (env : Env) (late : ℕ) (s : TimedSystem) :
    TimedSystem → Prop :=
  Reachable (step interval env) (fun _ l s' => byHeartbeat l = true ∧ s'.Prompt late) s

include hi

/-- The heartbeat of a channel catches up in no time. -/
lemma exists_caughtUp (c : ℕ) (h : PromptRun interval env late config s) :
    ∃ s', HeartbeatRun interval env late s s' ∧ PromptRun interval env late config s' ∧
      s'.now = s.now ∧ (∀ c', s.CaughtUp c' → s'.CaughtUp c') ∧ s'.CaughtUp c := by
  have hprogress : ∀ s₁, (PromptRun interval env late config s₁ ∧ s₁.now = s.now ∧
        ∀ c', s.CaughtUp c' → s₁.CaughtUp c') → ¬ s₁.CaughtUp c →
      ∃ s₂, HeartbeatRun interval env late s₁ s₂ ∧ (PromptRun interval env late config s₂ ∧
        s₂.now = s.now ∧ ∀ c', s.CaughtUp c' → s₂.CaughtUp c') ∧ behind c s₂ < behind c s₁ := by
    rintro s₁ ⟨hrun, hnow, hkept⟩ hlate
    simp only [CaughtUp, not_forall, not_lt] at hlate
    obtain ⟨ch, t, hch, ht, hopen, hdue⟩ := hlate
    have hw := watches hrun.unguarded
    obtain ⟨l, s₂, hl, hstep, hnow₂, hbehind⟩ :=
      exists_step hi (beating hrun.unguarded c ch hch) hch ht hopen hdue
    have hprompt := (on_time hrun).1.keep hw hstep hnow₂
    exact ⟨s₂, Reachable.refl.tail hstep ⟨hl, hprompt⟩,
      ⟨hrun.tail hstep hprompt, hnow₂.trans hnow,
        fun c' hc' => (hkept c' hc').keep hw hstep hl hnow₂⟩, hbehind⟩
  obtain ⟨s', hs', ⟨hrun, hnow, hkept⟩, hc⟩ :=
    Reachable.exists_done (behind c) hprogress ⟨h, rfl, fun _ hc => hc⟩
  exact ⟨s', hs', hrun, hnow, hkept, hc⟩

/-- All heartbeats catch up in no time. -/
lemma exists_all_caughtUp (h : PromptRun interval env late config s) (n : ℕ) :
    ∃ s', HeartbeatRun interval env late s s' ∧ PromptRun interval env late config s' ∧
      s'.now = s.now ∧ ∀ c < n, s'.CaughtUp c := by
  induction n with
  | zero => exact ⟨s, .refl, h, rfl, fun c hc => absurd hc (Nat.not_lt_zero c)⟩
  | succ n ih =>
    obtain ⟨s₁, hs₁, hrun₁, hnow₁, hall⟩ := ih
    obtain ⟨s₂, hs₂, hrun₂, hnow₂, hkept, hn⟩ := exists_caughtUp hi n hrun₁
    refine ⟨s₂, hs₁.trans hs₂, hrun₂, hnow₂.trans hnow₁, fun c hc => ?_⟩
    obtain hlt | rfl := Nat.lt_succ_iff_lt_or_eq.mp hc
    · exact hkept c (hall c hlt)
    · exact hn

end

lemma length_of_heartbeatRun (h : HeartbeatRun interval env late s s') :
    s'.system.channels.length = s.system.channels.length := by
  induction h with
  | refl => rfl
  | tail hr hstep hg ih => exact (length_of_byHeartbeat hstep hg.1).trans ih

/-- **The heartbeat never waits.** From every state of a run with prompt heartbeats, the heartbeat
tasks alone go on until any time, and are prompt. -/
theorem heartbeat_never_waits {config : ChannelConfig} (hi : 0 < interval)
    (h : PromptRun interval env late config s) (horizon : ℕ) :
    ∃ s', HeartbeatRun interval env late s s' ∧ horizon ≤ s'.now := by
  have hprogress : ∀ s₁, PromptRun interval env late config s₁ → ¬ horizon ≤ s₁.now →
      ∃ s₂, HeartbeatRun interval env late s₁ s₂ ∧ PromptRun interval env late config s₂ ∧
        horizon - s₂.now < horizon - s₁.now := by
    intro s₁ hrun hlt
    obtain ⟨s₂, hs₂, hrun₂, hnow, hall⟩ := exists_all_caughtUp hi hrun s₁.system.channels.length
    -- Now that no heartbeat is due, the clock may go on.
    have hprompt : ({ s₂ with now := s₂.now + 1 } : TimedSystem).Prompt late := by
      intro c ch t hch ht hopen
      have hlt : c < s₂.system.channels.length := (List.getElem?_eq_some_iff.mp hch).1
      rw [length_of_heartbeatRun hs₂] at hlt
      have hdue := hall c hlt ch t hch ht hopen
      show s₂.now + 1 ≤ t.due + late
      omega
    have hstep : step interval env s₂ (.elapse 1) = some { s₂ with now := s₂.now + 1 } := rfl
    refine ⟨_, hs₂.tail hstep ⟨rfl, hprompt⟩, hrun₂.tail hstep hprompt, ?_⟩
    show horizon - (s₂.now + 1) < _
    omega
  obtain ⟨s', hs', -, hnow⟩ :=
    Reachable.exists_done (fun s₁ => horizon - s₁.now) hprogress h
  exact ⟨s', hs', hnow⟩

/-- A session whose heartbeat ticks every nanosecond and is patient. -/
def patientConfig : ChannelConfig := { sampleConfig with idleTimeout := 10000 }

/-- The session at time `now`, `n` pings in a queue that the writer task never looks into. -/
def stalled (n now : ℕ) (heartbeat : HeartbeatPc) : TimedSystem where
  system := { System.start patientConfig with
    channels := [{ Channel.open patientConfig with
      writerQueue := List.replicate n .ping
      heartbeat }] }
  now
  tickers := [⟨0, some (n + 1)⟩]
  heard := []

/-- Its ticker is not overdue. -/
lemma prompt_stalled {n now : ℕ} (hnow : now ≤ n + 1) (heartbeat : HeartbeatPc) :
    (stalled n now heartbeat).Prompt 0 := by
  intro c ch t _ ht _
  cases c with
  | zero =>
    cases ht
    exact hnow
  | succ c => cases ht

lemma step_stalled_poll (n : ℕ) :
    step 1 sampleEnv (stalled n (n + 1) .select) (.act (.act 0 .heartbeatPoll)) =
      some (stalled n (n + 1) .polled) := by
  simp [step, allows, ticker, Action.clock, stalled, System.start, System.step, perform,
    SsmBridge.heartbeatPoll, Channel.open, SessionCore.new, SessionCore.isClosed, tickersAfter,
    heardAfter]

/-- A tick finds room for its ping. -/
lemma step_stalled_tick {n : ℕ} (hn : n < writerQueueDepth) :
    step 1 sampleEnv (stalled n (n + 1) .polled) (.act (.act 0 (.heartbeatTick (n + 1)))) =
      some (stalled (n + 1) (n + 1) .select) := by
  have hpatient : ¬ 10000 < n + 1 := by
    simp only [writerQueueDepth] at hn
    omega
  simp [step, allows, ticker, Action.clock, stalled, System.start, System.step, perform,
    SsmBridge.heartbeatTick, Channel.open, patientConfig, sampleConfig, hpatient, Channel.tryWrite,
    Channel.writerRoom, Channel.writerAlive, hn, List.replicate_succ', tickersAfter, heardAfter,
    Ticker.tick, Ticker.due]

/-- The queue fills up to its depth, one ping a tick. -/
lemma prompt_run_stalled {n : ℕ} (hn : n ≤ writerQueueDepth) :
    PromptRun 1 sampleEnv 0 patientConfig (stalled n n .select) := by
  induction n with
  | zero =>
    have hstep : step 1 sampleEnv (start patientConfig) (.begin 0) = some (stalled 0 0 .select) := rfl
    exact Reachable.refl.tail hstep (prompt_stalled (Nat.zero_le _) _)
  | succ n ih =>
    have helapse : step 1 sampleEnv (stalled n n .select) (.elapse 1) =
        some (stalled n (n + 1) .select) := rfl
    have hdue : (stalled n (n + 1) .select).Prompt 0 := prompt_stalled (Nat.le_refl _) _
    exact (((ih (Nat.le_of_succ_le hn)).tail helapse hdue).tail (step_stalled_poll n)
      (prompt_stalled (Nat.le_refl _) _)).tail (step_stalled_tick hn)
      (prompt_stalled (Nat.le_succ _) _)

/-- With a full writer queue and a writer that never runs, the heartbeats go on. -/
theorem heartbeat_never_waits_stalled :
    ∃ s ch s', PromptRun 1 sampleEnv 0 patientConfig s ∧ s.system.channels[0]? = some ch ∧
      ch.core.isClosed = false ∧ ch.writerQueue.length = writerQueueDepth ∧
      HeartbeatRun 1 sampleEnv 0 s s' ∧ 5000 ≤ s'.now := by
  have hfull := prompt_run_stalled le_rfl
  obtain ⟨s', hs', hnow⟩ := heartbeat_never_waits Nat.one_pos hfull 5000
  exact ⟨_, _, s', hfull, rfl, rfl, List.length_replicate, hs', hnow⟩

end TimedSystem

end SsmBridge
