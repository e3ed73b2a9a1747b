import SsmBridge.Construction.Wakeups

/-!
# A closed session and its reason

`SessionCore::close` raises the closed flag before it stores the reason.  Whoever learns of the
close from the notification finds the reason there, because that is stored first; whoever reads the
flag, through `is_closed()` or through the test at the head of `closed()`, may come between the two
and find nothing.  The supervisor then takes the session for one that lost its connection.

`close_reason_visible` is what holds when no read of the flag falls into that gap: everyone who has
learnt of the close reads the reason of the call that won, for ever after.

`step_effect` says once what an atomic step can do; the results here and in
`Properties.NoLostWakeup` are read off it.
-/

namespace SsmBridge.Wakeups

open Machine

variable {s s' : Core} {l : Label}

/-! ## What a step can do -/

/-- A move of an observer that is enqueued already, or does not enqueue. -/
inductive ObserverMove (s : Core) : ObserverPc → ObserverPc → Prop
  | seen {t : ℕ} (hclosed : s.closed = true) : ObserverMove s (.enabled t) .resolved
  | park {t : ℕ} (hopen : s.closed = false) : ObserverMove s (.enabled t) (.parked t)
  | woken {t : ℕ} (h : s.closedNotify.notified t = true) : ObserverMove s (.parked t) .resolved
  | polled (hclosed : s.closed = true) : ObserverMove s .polling .resolved
  | declined (hopen : s.closed = false) : ObserverMove s .polling .declined
  | ask : ObserverMove s .resolved (.answered s.reason)
  | askAgain {r : Option CloseReason} : ObserverMove s (.answered r) (.answered s.reason)

/-- A move of a caller of `wait_sendable` that is enqueued already. -/
inductive GateMove (s : Core) : GatePc → GatePc → Prop
  | sendable {t : ℕ} (h : s.sendable = true) : GateMove s (.enabled t) .resolved
  | unsendable {t : ℕ} (h : s.sendable = false) : GateMove s (.enabled t) (.unsendable t)
  | closed {t : ℕ} (h : s.closed = true) : GateMove s (.unsendable t) .resolved
  | park {t : ℕ} (h : s.closed = false) : GateMove s (.unsendable t) (.parked t)
  | woken {t : ℕ} (h : s.sendableNotify.notified t = true) : GateMove s (.parked t) .entering

/-- A move of a caller of `cancelled` that is enqueued already. -/
inductive CancelMove (s : Core) : CancelPc → CancelPc → Prop
  | triggered {t : ℕ} (h : s.triggered = true) : CancelMove s (.enabled t) .resolved
  | park {t : ℕ} (h : s.triggered = false) : CancelMove s (.enabled t) (.parked t)
  | woken {t : ℕ} (h : s.shutdownNotify.notified t = true) : CancelMove s (.parked t) .resolved

/-- A move of a sender that does not enqueue. -/
inductive RoomMove (s : Core) : RoomPc → RoomPc → Prop
  | tracked {t : ℕ} : RoomMove s (.enabled t) .tracked
  | full {t : ℕ} : RoomMove s (.enabled t) (.full t false)
  | closed {t u : ℕ} {acked : Bool} (h : s.closed = true) :
      RoomMove s (.registered t u acked) .gaveUp
  | park {t u : ℕ} {acked : Bool} (h : s.closed = false) :
      RoomMove s (.registered t u acked) (.parked t u acked)
  | retry {t u : ℕ} {acked : Bool} (h : s.ackNotify.notified t = true) :
      RoomMove s (.parked t u acked) .entering
  | giveUp {t u : ℕ} {acked : Bool} (h : s.closedNotify.notified u = true) :
      RoomMove s (.parked t u acked) .gaveUp

/-- What an atomic step does. -/
inductive Effect (s : Core) : Label → Core → Prop
  | none {l : Label} : Effect s l s
  | closeSwap {l : Label} {r : CloseReason} (h : s.closed = false) :
      Effect s l { s with closed := true, closing := .storing r }
  | closeStore {l : Label} {r : CloseReason} (h : s.closing = .storing r) :
      Effect s l { s with reason := some r, closing := .closingFanout r }
  | closeFanout {l : Label} {r : CloseReason} (h : s.closing = .closingFanout r) :
      Effect s l { s with fanoutClosed := true, closing := .notifyingClosed r }
  | closeClosed {l : Label} {r : CloseReason} (h : s.closing = .notifyingClosed r) :
      Effect s l { s with closedNotify := s.closedNotify.notifyWaiters
                          closing := .notifyingSendable r }
  | closeSendable {l : Label} {r : CloseReason} (h : s.closing = .notifyingSendable r) :
      Effect s l { s with sendableNotify := s.sendableNotify.notifyWaiters
                          closing := .notifyingAck r }
  | closeAck {l : Label} {r : CloseReason} (h : s.closing = .notifyingAck r) :
      Effect s l { s with ackNotify := s.ackNotify.notifyWaiters, closing := .completed r }
  | raise {l : Label} (h : s.sendable = false) :
      Effect s l { s with sendable := true, generation := s.generation + 1
                          notifying := (s.generation + 1) :: s.notifying }
  | lower {l : Label} : Effect s l { s with sendable := false }
  | notifySendable {l : Label} {g : ℕ} (h : g ∈ s.notifying) :
      Effect s l { s with notifying := s.notifying.filter (· ≠ g)
                          sendableNotify := s.sendableNotify.notifyWaiters }
  | buffer {l : Label} {outgoing : OutgoingBuffer} {acking : ℕ} :
      Effect s l { s with outgoing, acking }
  | notifyAck {l : Label} {acking : ℕ} :
      Effect s l { s with acking, ackNotify := s.ackNotify.notifyWaiters
                          senders := s.senders.map RoomPc.noteAck }
  | trigger {l : Label} (h : s.triggered = false) :
      Effect s l { s with triggered := true, shutdown := .notifying }
  | notifyShutdown {l : Label} (h : s.shutdown = .notifying) :
      Effect s l { s with shutdownNotify := s.shutdownNotify.notifyWaiters
                          shutdown := .completed }
  | newObserver {l : Label} {pc : ObserverPc} (h : pc = .entering ∨ pc = .polling) :
      Effect s l { s with observers := s.observers ++ [pc] }
  | enterObserver {l : Label} {i : ℕ} :
      Effect s l { s with closedNotify := s.closedNotify.enable.2
                          observers := s.observers.set i (.enabled s.closedNotify.enable.1) }
  | moveObserver {i : ℕ} {pc pc' : ObserverPc} (h : s.observers[i]? = some pc)
      (hmove : ObserverMove s pc pc') :
      Effect s (.observerStep i) { s with observers := s.observers.set i pc' }
  | newGate {l : Label} : Effect s l { s with gates := s.gates ++ [.entering] }
  | enterGate {l : Label} {i : ℕ} :
      Effect s l { s with sendableNotify := s.sendableNotify.enable.2
                          gates := s.gates.set i (.enabled s.sendableNotify.enable.1) }
  | moveGate {l : Label} {i : ℕ} {pc pc' : GatePc} (h : s.gates[i]? = some pc)
      (hmove : GateMove s pc pc') : Effect s l { s with gates := s.gates.set i pc' }
  | newCancel {l : Label} : Effect s l { s with cancels := s.cancels ++ [.entering] }
  | enterCancel {l : Label} {i : ℕ} :
      Effect s l { s with shutdownNotify := s.shutdownNotify.enable.2
                          cancels := s.cancels.set i (.enabled s.shutdownNotify.enable.1) }
  | moveCancel {l : Label} {i : ℕ} {pc pc' : CancelPc} (h : s.cancels[i]? = some pc)
      (hmove : CancelMove s pc pc') : Effect s l { s with cancels := s.cancels.set i pc' }
  | newSender {l : Label} : Effect s l { s with senders := s.senders ++ [.entering] }
  | enterSender {l : Label} {i : ℕ} :
      Effect s l { s with ackNotify := s.ackNotify.enable.2
                          senders := s.senders.set i (.enabled s.ackNotify.enable.1) }
  | registerSender {l : Label} {i t : ℕ} {acked : Bool} (h : s.senders[i]? = some (.full t acked)) :
      Effect s l { s with
        closedNotify := s.closedNotify.enable.2
        senders := s.senders.set i (.registered t s.closedNotify.enable.1 acked) }
  | moveSender {l : Label} {i : ℕ} {outgoing : OutgoingBuffer} {pc pc' : RoomPc}
      (h : s.senders[i]? = some pc) (hmove : RoomMove s pc pc') :
      Effect s l { s with outgoing, senders := s.senders.set i pc' }

lemma observerStep_effect {i : ℕ} (h : observerStep s i = some s') :
    Effect s (.observerStep i) s' := by
  unfold observerStep at h
  split at h
  · cases h
    exact .enterObserver
  · next t hpc =>
    cases h
    refine .moveObserver hpc ?_
    split
    · next hc => exact .seen hc
    · next hc => exact .park (by simpa using hc)
  · next t hpc =>
    split at h <;> cases h
    next hw => exact .moveObserver hpc (.woken hw)
  · next hpc =>
    cases h
    refine .moveObserver hpc ?_
    split
    · next hc => exact .polled hc
    · next hc => exact .declined (by simpa using hc)
  · next hpc =>
    cases h
    exact .moveObserver hpc .ask
  · next r hpc =>
    cases h
    exact .moveObserver hpc .askAgain
  · cases h
  · cases h

lemma gateStep_effect {i : ℕ} (h : gateStep s i = some s') : Effect s (.gateStep i) s' := by
  unfold gateStep at h
  split at h
  · cases h
    exact .enterGate
  · next t hpc =>
    cases h
    refine .moveGate hpc ?_
    split
    · next hc => exact .sendable hc
    · next hc => exact .unsendable (by simpa using hc)
  · next t hpc =>
    cases h
    refine .moveGate hpc ?_
    split
    · next hc => exact .closed hc
    · next hc => exact .park (by simpa using hc)
  · next t hpc =>
    split at h <;> cases h
    next hw => exact .moveGate hpc (.woken hw)
  · cases h
  · cases h

lemma cancelStep_effect {i : ℕ} (h : cancelStep s i = some s') : Effect s (.cancelStep i) s' := by
  unfold cancelStep at h
  split at h
  · cases h
    exact .enterCancel
  · next t hpc =>
    cases h
    refine .moveCancel hpc ?_
    split
    · next hc => exact .triggered hc
    · next hc => exact .park (by simpa using hc)
  · next t hpc =>
    split at h <;> cases h
    next hw => exact .moveCancel hpc (.woken hw)
  · cases h
  · cases h

lemma senderStep_effect {i now : ℕ} {wire : Bytes} {n : Int64}
    (h : senderStep s i now wire n = some s') : Effect s l s' := by
  unfold senderStep at h
  split at h
  · cases h
    exact .enterSender
  · next t hpc =>
    split at h <;> cases h
    · exact .moveSender hpc .tracked
    · exact .moveSender hpc .full
  · next t acked hpc =>
    cases h
    exact .registerSender hpc
  · next t u acked hpc =>
    cases h
    refine .moveSender hpc ?_
    split
    · next hc => exact .closed hc
    · next hc => exact .park (by simpa using hc)
  · cases h

/-- **What an atomic step can do.** All invariants of the wakeups are proved from this list and not
from the step function. -/
lemma step_effect (h : step s l = some s') : Effect s l s' := by
  cases l with
  | close r =>
    simp only [step, close, Option.some.injEq] at h
    split at h <;> subst h
    · exact .none
    · next hopen => exact .closeSwap (by simpa using hopen)
  | closeStep =>
    simp only [step, closeStep] at h
    split at h <;> cases h
    · next r hr => exact .closeStore hr
    · next r hr => exact .closeFanout hr
    · next r hr => exact .closeClosed hr
    · next r hr => exact .closeSendable hr
    · next r hr => exact .closeAck hr
  | setSendable b =>
    simp only [step, setSendable, Option.some.injEq] at h
    split at h <;> subst h
    · next hraise =>
      simp only [Bool.and_eq_true, Bool.not_eq_true'] at hraise
      obtain ⟨rfl, hs⟩ := hraise
      exact .raise hs
    · next hraise =>
      cases b with
      | false => exact .lower
      | true =>
        have hs : s.sendable = true := by simpa using hraise
        rw [show { s with sendable := true } = s by rw [← hs]]
        exact .none
  | notifySendable g =>
    simp only [step, notifySendable] at h
    split at h <;> cases h
    next hg => exact .notifySendable hg
  | acknowledge now n =>
    simp only [step, acknowledge, Option.some.injEq] at h
    split at h <;> subst h <;> exact .buffer
  | notifyAck =>
    simp only [step, notifyAck] at h
    split at h <;> cases h
    exact .notifyAck
  | shutdown =>
    simp only [step, beginShutdown, Option.some.injEq] at h
    split at h <;> subst h
    · exact .none
    · next ht => exact .trigger (by simpa using ht)
  | notifyShutdown =>
    simp only [step, notifyShutdown] at h
    split at h <;> cases h
    next hs => exact .notifyShutdown hs
  | observe via =>
    cases via <;> cases h
    · exact .newObserver (.inl rfl)
    · exact .newObserver (.inr rfl)
  | observerStep i => exact observerStep_effect h
  | waitSendable =>
    cases h
    exact .newGate
  | gateStep i => exact gateStep_effect h
  | cancelled =>
    cases h
    exact .newCancel
  | cancelStep i => exact cancelStep_effect h
  | send =>
    cases h
    exact .newSender
  | senderStep i now wire n => exact senderStep_effect h
  | senderRetry i =>
    simp only [step, senderRetry] at h
    split at h <;> try cases h
    next hpc =>
    split at h <;> cases h
    next hw => exact .moveSender hpc (.retry hw)
  | senderGiveUp i =>
    simp only [step, senderGiveUp] at h
    split at h <;> try cases h
    next hpc =>
    split at h <;> cases h
    next hw => exact .moveSender hpc (.giveUp hw)

/-! ## The reason, once stored -/

/-- The reason as far as the call that won has stored it. -/
def ClosePc.stored : ClosePc → Option CloseReason
  | .idle | .storing _ => none
  | .closingFanout r | .notifyingClosed r | .notifyingSendable r | .notifyingAck r
  | .completed r => some r

/-- What has been stored is the reason of the call that won. -/
lemma ClosePc.reason_of_stored {pc : ClosePc} {r : CloseReason} (h : pc.stored = some r) :
    pc.reason = some r := by
  cases pc <;> simp_all [ClosePc.stored, ClosePc.reason]

/-- The flag, the reason and the notification agree with where the winning call has got to. -/
structure Stored (s : Core) : Prop where
  closed : s.closed = decide (s.closing ≠ .idle)
  reason : s.reason = s.closing.stored
  /-- Nobody is woken by a close before the reason is there. -/
  woken : ∀ t, s.closedNotify.notified t = true → s.reason.isSome = true

lemma Stored.new (outgoing : OutgoingBuffer) : Stored (Core.new outgoing) :=
  ⟨rfl, rfl, fun t h => by simp [Core.new] at h⟩

/-- Enqueueing a future wakes nobody. -/
lemma Stored.enable (h : Stored s) :
    ∀ t, s.closedNotify.enable.2.notified t = true → s.reason.isSome = true := fun t ht =>
  h.woken t (by simpa using ht)

lemma Stored.after (hs : Stored s) (h : Effect s l s') : Stored s' := by
  have hreason := hs.reason
  cases h with
  | closeSwap hopen =>
    have hidle : s.closing = .idle := by simpa [hs.closed] using hopen
    rw [hidle] at hreason
    exact ⟨by simp, hreason, hs.woken⟩
  | closeStore hpc =>
    refine ⟨?_, rfl, fun _ _ => rfl⟩
    simpa [hpc] using hs.closed
  | closeFanout hpc =>
    rw [hpc] at hreason
    exact ⟨by simpa [hpc] using hs.closed, hreason, hs.woken⟩
  | closeClosed hpc =>
    rw [hpc] at hreason
    refine ⟨by simpa [hpc] using hs.closed, hreason, fun t ht => ?_⟩
    rw [hreason]
    rfl
  | closeSendable hpc =>
    rw [hpc] at hreason
    exact ⟨by simpa [hpc] using hs.closed, hreason, hs.woken⟩
  | closeAck hpc =>
    rw [hpc] at hreason
    exact ⟨by simpa [hpc] using hs.closed, hreason, hs.woken⟩
  | enterObserver => exact ⟨hs.closed, hs.reason, hs.enable⟩
  | registerSender => exact ⟨hs.closed, hs.reason, hs.enable⟩
  | _ => exact ⟨hs.closed, hs.reason, hs.woken⟩

/-- **A stored reason stays.** Only the first call of `close` gets to write, since the others find
the cell taken. -/
lemma Stored.reason_kept (hs : Stored s) (h : Effect s l s') {r : CloseReason}
    (hr : s.reason = some r) : s'.reason = some r := by
  have hstored := hs.reason
  cases h with
  | closeStore hpc =>
    rw [hr, hpc] at hstored
    cases hstored
  | _ => exact hr

lemma Stored.of_run (hs : Stored s) (h : Reachable step free s s') : Stored s' :=
  h.invariant hs fun _ _ _ hs hstep _ => hs.after (step_effect hstep)

lemma Stored.reason_kept_of_run (hs : Stored s) (h : Reachable step free s s') {r : CloseReason}
    (hr : s.reason = some r) : s'.reason = some r := by
  have hboth : Stored s' ∧ s'.reason = some r := by
    refine h.invariant (P := fun t => Stored t ∧ t.reason = some r) ⟨hs, hr⟩ ?_
    rintro a l b ⟨ha, hra⟩ hstep -
    exact ⟨ha.after (step_effect hstep), ha.reason_kept (step_effect hstep) hra⟩
  exact hboth.2

/-! ## Those who have learnt of the close -/

/-- The step is no read of the closed flag between its swap and the store of the reason. -/
def readsOutsideGap (s : Core) : Label → Bool
  | .observerStep i =>
      match s.observers[i]? with
      | some (.enabled _) | some .polling => !s.closed || s.reason.isSome
      | _ => true
  | _ => true

/-- An observer that has learnt of the close finds the reason, and has been told nothing else. -/
def ObserverPc.Informed (reason : Option CloseReason) : ObserverPc → Prop
  | .resolved => reason.isSome = true
  | .answered r => r = reason ∧ reason.isSome = true
  | _ => True

lemma ObserverMove.informed {i : ℕ} {pc pc' : ObserverPc} (hs : Stored s)
    (hi : s.observers[i]? = some pc) (hmove : ObserverMove s pc pc')
    (hpc : pc.Informed s.reason) (hguard : readsOutsideGap s (.observerStep i) = true) :
    pc'.Informed s.reason := by
  simp only [readsOutsideGap, hi] at hguard
  cases hmove with
  | seen hclosed => simpa [hclosed, ObserverPc.Informed] using hguard
  | park => trivial
  | woken hw => exact hs.woken _ hw
  | polled hclosed => simpa [hclosed, ObserverPc.Informed] using hguard
  | declined => trivial
  | ask => exact ⟨rfl, hpc⟩
  | askAgain => exact ⟨rfl, hpc.2⟩

/-- The reason is stored and everyone who should know it can. -/
structure Visible (s : Core) : Prop extends Stored s where
  informed : ∀ pc ∈ s.observers, pc.Informed s.reason

lemma informed_of_reason_kept {reason reason' : Option CloseReason} {pc : ObserverPc}
    (h : pc.Informed reason) (hkept : ∀ r, reason = some r → reason' = some r) :
    pc.Informed reason' := by
  cases pc with
  | resolved =>
    obtain ⟨r, hr⟩ := Option.isSome_iff_exists.mp h
    simp [ObserverPc.Informed, hkept r hr]
  | answered a =>
    obtain ⟨r, hr⟩ := Option.isSome_iff_exists.mp h.2
    simp [ObserverPc.Informed, h.1, hr, hkept r hr]
  | _ => trivial

lemma Visible.after (hs : Visible s) (hstep : step s l = some s')
    (hguard : readsOutsideGap s l = true) : Visible s' := by
  have heffect := step_effect hstep
  refine ⟨hs.toStored.after heffect, fun pc hpc => ?_⟩
  have hkept : ∀ r, s.reason = some r → s'.reason = some r := fun r hr =>
    hs.toStored.reason_kept heffect hr
  cases heffect with
  | newObserver hnew =>
    rcases List.mem_append.mp hpc with hold | hlast
    · exact hs.informed pc hold
    · rw [List.mem_singleton.mp hlast]
      rcases hnew with rfl | rfl <;> trivial
  | enterObserver =>
    rcases List.mem_or_eq_of_mem_set hpc with hold | rfl
    · exact hs.informed pc hold
    · trivial
  | moveObserver hi hmove =>
    rcases List.mem_or_eq_of_mem_set hpc with hold | rfl
    · exact hs.informed pc hold
    · have hold := hs.informed _ (List.mem_of_getElem? hi)
      have hnew := hmove.informed hs.toStored hi hold hguard
      exact hnew
  | _ => exact informed_of_reason_kept (hs.informed pc hpc) hkept

lemma visible_of_run {outgoing : OutgoingBuffer}
    (h : Reachable step (fun s l _ => readsOutsideGap s l = true) (Core.new outgoing) s) :
    Visible s :=
  h.invariant ⟨Stored.new outgoing, by simp [Core.new]⟩
    fun _ _ _ hs hstep hguard => hs.after hstep hguard

/-! ## The result -/

/-- **A closed session has its reason.** In every run in which the closed flag is never read between
its swap and the store of the reason: whoever has seen the session closed finds the reason of the
call of `close` that won, in this state and in every later one, and what it has read is that
reason, which is then also the one `supervise` acts on. -/
theorem close_reason_visible (outgoing : OutgoingBuffer) (s : Core)
    (h : Reachable step (fun s l _ => readsOutsideGap s l = true) (Core.new outgoing) s) :
    (.resolved ∈ s.observers → ∃ r, s.closing.reason = some r ∧ s.reason = some r ∧
      ∀ s', Reachable step free s s' → s'.closing.reason = some r ∧ s'.reason = some r) ∧
    (∀ answer, .answered answer ∈ s.observers → ∃ r, s.closing.reason = some r ∧
      answer = some r ∧ superviseReason answer = r ∧
      ∀ s', Reachable step free s s' → s'.closing.reason = some r ∧ s'.reason = some r) := by
  have hs := visible_of_run h
  have hlater : ∀ r, s.reason = some r → ∀ s', Reachable step free s s' →
      s'.closing.reason = some r ∧ s'.reason = some r := by
    intro r hr s' hrun
    have hr' := hs.toStored.reason_kept_of_run hrun hr
    have hstored := (hs.toStored.of_run hrun).reason
    exact ⟨ClosePc.reason_of_stored (hstored ▸ hr'), hr'⟩
  refine ⟨fun hpc => ?_, fun answer hpc => ?_⟩
  · obtain ⟨r, hr⟩ := Option.isSome_iff_exists.mp (hs.informed _ hpc)
    exact ⟨r, (hlater r hr s .refl).1, hr, hlater r hr⟩
  · obtain ⟨hanswer, hsome⟩ := hs.informed _ hpc
    obtain ⟨r, hr⟩ := Option.isSome_iff_exists.mp hsome
    refine ⟨r, (hlater r hr s .refl).1, hanswer.trans hr, ?_, hlater r hr⟩
    rw [hanswer, hr]
    rfl

/-- A core on an empty outgoing buffer. -/
def sampleCore : Core := Core.new (OutgoingBuffer.new 1 1)

/-- An observer parks in `closed()`, the session is terminated, and the observer asks why. -/
def waitingRun : List Label :=
  [.observe .closed, .observerStep 0, .observerStep 0, .close .terminated, .closeStep, .closeStep,
    .closeStep, .observerStep 0, .observerStep 0]

theorem close_reason_visible_waiting :
    ∃ s : Core, ObserverPc.answered (some .terminated) ∈ s.observers ∧
      ∃ r, s.closing.reason = some r ∧ superviseReason (some .terminated) = r := by
  have hrun : (runIf step (fun s l _ => readsOutsideGap s l) sampleCore waitingRun).any
      (fun s => decide (ObserverPc.answered (some .terminated) ∈ s.observers)) = true := by
    decide +kernel
  have htest : ∀ (s : Core) (l : Label) (_ : Core), readsOutsideGap s l →
      readsOutsideGap s l = true := fun _ _ _ h => h
  obtain ⟨s, hs, hp⟩ := exists_of_runIf htest hrun
  have hmem := of_decide_eq_true hp
  obtain ⟨r, hr, -, hsup, -⟩ := (close_reason_visible _ s hs).2 _ hmem
  exact ⟨s, hmem, r, hr, hsup⟩

/-- An observer enqueues itself in `closed()`, the session is terminated, and the observer reads the
flag and asks why before the reason is stored. -/
def hastyRun : List Label :=
  [.observe .closed, .observerStep 0, .close .terminated, .observerStep 0, .observerStep 0]

/-- **A terminated session looks like a lost connection.** An observer sees the flag raised by
`terminate` and asks for the reason before it is stored; the supervisor's fallback for that answer
is a reason to reconnect. -/
theorem terminated_without_reason :
    (∃ s, Reachable step free sampleCore s ∧ s.closing.reason = some .terminated ∧
      ObserverPc.answered none ∈ s.observers) ∧
    superviseReason none ≠ .terminated ∧ CloseReason.terminated.isRecoverable = false ∧
      (superviseReason none).isRecoverable = true := by
  have hrun : (run step sampleCore hastyRun).any
      (fun s => decide (s.closing.reason = some .terminated ∧
        ObserverPc.answered none ∈ s.observers)) = true := by
    decide +kernel
  obtain ⟨s, hs, hp⟩ := exists_of_run hrun
  exact ⟨⟨s, hs, of_decide_eq_true hp⟩, by decide, rfl, rfl⟩

end SsmBridge.Wakeups
