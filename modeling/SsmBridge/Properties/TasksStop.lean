import SsmBridge.Construction.MuxTasks
import SsmBridge.Properties.Lanes

/-!
# The multiplexer's tasks stop

`close` wakes the futures that are enqueued on `die` when it notifies, so a task that enqueues a
future afterwards has to look at the latch.  `send_task` does so in its first `select!`, and only
there: the second one, and every round of `recv_task` and of `keepalive_task`, begins with a fresh
future and no look at the latch.  A close that lands while such a task is between two waits is
missed, and the task parks on a future that nothing will wake.

In the runs in which no such wait begins after the notification, every task that is parked when
`close` has completed has been woken.
-/

namespace SsmBridge.Smux

open Machine

/-! ## The notification -/

/-- `close` has notified. -/
def ClosePc.signalled : ClosePc → Bool
  | .idle | .notifying _ => false
  | .locking _ | .sweeping _ | .completed _ => true

def Inner.signalled (σ : Inner) : Bool := σ.closing.signalled

variable {σ σ' : Inner} {l : Label} {t : ℕ} {c : Prop}

/-- What a step does to the latch and to the notification. -/
inductive Inner.Signals (σ : Inner) (σ' : Inner) : Prop
  | kept (hdie : σ'.die = σ.die) (hclosing : σ'.closing = σ.closing) (hclosed : σ'.closed = σ.closed)
  | enabled (hdie : σ'.die = σ.die.enable.2) (hclosing : σ'.closing = σ.closing)
      (hclosed : σ'.closed = σ.closed)
  | raised (reason : StreamCloseReason) (hdie : σ'.die = σ.die)
      (hclosing : σ'.closing = .notifying reason) (hclosed : σ'.closed = true)
  | notified (hdie : σ'.die = σ.die.notifyWaiters) (hclosed : σ'.closed = σ.closed)
      (hclosing : σ.closing ≠ .idle)
  | advanced (hdie : σ'.die = σ.die) (hclosed : σ'.closed = σ.closed) (hclosing : σ.closing ≠ .idle)
      (hsignalled : σ.signalled = true)

theorem signals_of_step (h : σ.step l = some σ') : σ.Signals σ' := by
  cases hl : l.isLocal with
  | true =>
    have hsame := sameShared_of_step hl h
    exact .kept hsame.die hsame.closing hsame.closed
  | false =>
    cases takes_of_step h with
    | @close reason =>
      unfold close
      split
      · exact .kept rfl rfl rfl
      · exact .raised reason rfl rfl rfl
    | closeNotify hpc => exact .notified rfl rfl (by simp [hpc])
    | closeLock hpc | closeClear hpc =>
      exact .advanced rfl rfl (by simp [hpc]) (by simp [Inner.signalled, hpc, ClosePc.signalled])
    | dieEnabled => exact .enabled rfl rfl rfl
    | reply =>
      unfold Inner.tryFrame
      split <;> exact .kept rfl rfl rfl
    | pushFound | pushUnknown | sendGone | sendFull | sendQueued | evict | remove | finFound
    | finUnknown => exact .kept rfl rfl rfl
    | openAdmit | openNumber | openRegister | openReturn | openRefuse | openWithdraw | closeSweep
    | readClosed | readRemainder | readQueue | readPending | readEnd | pollThrottled | pollClosed
    | writeRefused | write | shutdownIdle | shutdownGone | shutdown | dropQuietly | dropStream
    | dropRemove | dropRelease | frameTaken | framesDropped | keepAlive => cases hl

/-- A close under way has raised the flag. -/
def Inner.Latched (σ : Inner) : Prop := σ.closing ≠ .idle → σ.closed = true

lemma Inner.Latched.step (h : σ.Latched) (hstep : σ.step l = some σ') : σ'.Latched := by
  cases signals_of_step hstep with
  | kept hdie hclosing hclosed | enabled hdie hclosing hclosed =>
    intro hne
    rw [hclosed]
    exact h (hclosing ▸ hne)
  | raised reason hdie hclosing hclosed => exact fun _ => hclosed
  | notified hdie hclosed hclosing | advanced hdie hclosed hclosing =>
    exact fun _ => hclosed.trans (h hclosing)

lemma Inner.Latched.not_signalled (h : σ.Latched) (hclosed : σ.closed = false) :
    ¬ σ.signalled = true := by
  intro hsignalled
  have hne : σ.closing ≠ .idle := by
    intro hidle
    simp [Inner.signalled, hidle, ClosePc.signalled] at hsignalled
  simp [h hne] at hclosed

/-- The future is enqueued, and woken once `close` has notified. -/
def Inner.Owes (σ : Inner) (t : ℕ) : Prop := σ.die.Owed t (σ.signalled = true)

/-- The future is enqueued. -/
def Inner.Enqueued (σ : Inner) (t : ℕ) : Prop := σ.die.Owed t False

lemma Inner.Enqueued.step (h : σ.Enqueued t) (hstep : σ.step l = some σ') : σ'.Enqueued t := by
  unfold Inner.Enqueued at h ⊢
  cases signals_of_step hstep with
  | kept hdie | raised _ hdie | advanced hdie => rwa [hdie]
  | enabled hdie =>
    rw [hdie]
    exact h.enable
  | notified hdie =>
    rw [hdie]
    exact h.notifyWaiters

/-- A future that is owed its wake-up gets it. -/
lemma Inner.Owes.step (h : σ.Owes t) (hstep : σ.step l = some σ') : σ'.Owes t := by
  unfold Inner.Owes at h ⊢
  cases signals_of_step hstep with
  | kept hdie hclosing =>
    rw [hdie, Inner.signalled, hclosing]
    exact h
  | enabled hdie hclosing =>
    rw [hdie, Inner.signalled, hclosing]
    exact h.enable
  | raised reason hdie hclosing =>
    rw [hdie]
    refine h.mono fun hsignalled => ?_
    simp [Inner.signalled, hclosing, ClosePc.signalled] at hsignalled
  | notified hdie =>
    rw [hdie]
    exact h.notifyWaiters
  | advanced hdie hclosed hclosing hsignalled =>
    rw [hdie]
    exact h.mono fun _ => .inr hsignalled

/-- A future enqueued before the notification is owed one. -/
lemma Inner.owes_of_dieEnabled (hstep : σ.step .dieEnabled = some σ') (h : ¬ σ.signalled = true) :
    σ'.Owes σ.die.enable.1 := by
  cases hstep
  exact Notify.owed_enable h

lemma Inner.enqueued_of_dieEnabled (hstep : σ.step .dieEnabled = some σ') :
    σ'.Enqueued σ.die.enable.1 := by
  cases hstep
  exact Notify.owed_enable id

/-! ## The tasks -/

/-- The future that `recv_task` waits on. -/
def RecvPc.ticket : RecvPc → Option ℕ
  | .polled t | .parked t => some t
  | _ => none

def KeepalivePc.ticket : KeepalivePc → Option ℕ
  | .polled t | .parked t => some t
  | _ => none

/-- The future that `send_task` waits on, having looked at the latch or found the queue full. -/
def SendPc.ticket : SendPc → Option ℕ
  | .polling t | .waiting t | .parked t | .stalled _ t => some t
  | _ => none

/-- A future of `send_task` that is enqueued only. -/
def SendPc.fresh : SendPc → Option ℕ
  | .checking t | .sending _ t => some t
  | _ => none

/-- No task waits on a future that `close` will not wake. -/
structure Mux.Watched (σ : Mux) : Prop where
  latched : σ.inner.Latched
  recv : ∀ t, σ.recv.ticket = some t → σ.inner.Owes t
  keepalive : ∀ t, σ.keepalive.ticket = some t → σ.inner.Owes t
  send : ∀ t, σ.send.ticket = some t → σ.inner.Owes t
  fresh : ∀ t, σ.send.fresh = some t → σ.inner.Enqueued t

/-- After the notification no wait on a fresh future begins: `recv_task` and `keepalive_task` do not
start another round, and `send_task` finds room for a frame that it took before. -/
structure Mux.InTime (σ : Mux) (l : MuxLabel) : Prop where
  recv : l = .recv → σ.inner.signalled = true → σ.recv ≠ .selecting
  keepalive : ∀ elapsed, l = .keepalive elapsed → σ.inner.signalled = true →
    σ.keepalive ≠ .selecting
  send : l = .send → σ.inner.signalled = true → ∀ frame t, σ.send = .sending frame t →
    σ.inner.die.notified t = false → σ.commandRoom = true

section

variable {m m' : Mux}

lemma Mux.act_cases (h : m.act l = some m') :
    ∃ inner, m.inner.step l = some inner ∧ m' = { m with inner } := by
  obtain ⟨inner, hstep, rfl⟩ := Option.map_eq_some_iff.mp h
  exact ⟨inner, hstep, rfl⟩

namespace Mux.Watched

lemma new (config : SmuxConfig) (capacity : ℕ) : (Mux.new config capacity).Watched where
  latched h := absurd rfl h
  recv t h := nomatch h
  keepalive t h := by
    unfold Mux.new at h
    dsimp only at h
    split at h <;> cases h
  send t h := nomatch h
  fresh t h := nomatch h

/-- A step on the shared state wakes whom it has to. -/
lemma act (hw : m.Watched) (h : m.act l = some m') : m'.Watched := by
  obtain ⟨inner, hstep, rfl⟩ := Mux.act_cases h
  exact ⟨hw.latched.step hstep, fun t ht => (hw.recv t ht).step hstep,
    fun t ht => (hw.keepalive t ht).step hstep, fun t ht => (hw.send t ht).step hstep,
    fun t ht => (hw.fresh t ht).step hstep⟩

/-- Something other than the shared state and the tasks changes. -/
lemma of_eq (hw : m.Watched) (hinner : m'.inner = m.inner) (hrecv : m'.recv = m.recv)
    (hkeepalive : m'.keepalive = m.keepalive) (hsend : m'.send = m.send) : m'.Watched := by
  refine ⟨?_, ?_, ?_, ?_, ?_⟩
  · rw [hinner]
    exact hw.latched
  · rw [hinner, hrecv]
    exact hw.recv
  · rw [hinner, hkeepalive]
    exact hw.keepalive
  · rw [hinner, hsend]
    exact hw.send
  · rw [hinner, hsend]
    exact hw.fresh

lemma recvTo (hw : m.Watched) {pc : RecvPc} (hpc : ∀ t, pc.ticket = some t → m.inner.Owes t) :
    ({ m with recv := pc } : Mux).Watched :=
  ⟨hw.latched, hpc, hw.keepalive, hw.send, hw.fresh⟩

lemma keepaliveTo (hw : m.Watched) {pc : KeepalivePc}
    (hpc : ∀ t, pc.ticket = some t → m.inner.Owes t) :
    ({ m with keepalive := pc } : Mux).Watched :=
  ⟨hw.latched, hw.recv, hpc, hw.send, hw.fresh⟩

lemma sendTo (hw : m.Watched) {pc : SendPc} (hpc : ∀ t, pc.ticket = some t → m.inner.Owes t)
    (hfresh : ∀ t, pc.fresh = some t → m.inner.Enqueued t) :
    ({ m with send := pc } : Mux).Watched :=
  ⟨hw.latched, hw.recv, hw.keepalive, hpc, hfresh⟩

/-- A program counter without a future. -/
lemma recvIdle (hw : m.Watched) {pc : RecvPc} (hpc : pc.ticket = none) :
    ({ m with recv := pc } : Mux).Watched :=
  hw.recvTo fun t ht => by simp [hpc] at ht

lemma keepaliveIdle (hw : m.Watched) {pc : KeepalivePc} (hpc : pc.ticket = none) :
    ({ m with keepalive := pc } : Mux).Watched :=
  hw.keepaliveTo fun t ht => by simp [hpc] at ht

lemma sendIdle (hw : m.Watched) {pc : SendPc} (hpc : pc.ticket = none) (hfresh : pc.fresh = none) :
    ({ m with send := pc } : Mux).Watched :=
  hw.sendTo (fun t ht => by simp [hpc] at ht) (fun t ht => by simp [hfresh] at ht)

/-! ### One step of each task -/

lemma recvNext (hw : m.Watched) (ht : m.inner.Owes t) (h : recvNext m t = some m') :
    m'.Watched := by
  unfold Smux.recvNext at h
  split at h
  · split at h
    · cases h
      exact (hw.recvIdle rfl).of_eq rfl rfl rfl rfl
    · split at h <;> cases h
      · refine hw.recvTo fun t' ht' => ?_
        cases ht'
        exact ht
      · exact hw.recvIdle rfl
  · cases h

lemma recvDispatch (hw : m.Watched) (h : recvDispatch m = some m') : m'.Watched := by
  unfold Smux.recvDispatch at h
  split at h
  · cases h
    exact hw.recvIdle rfl
  · cases h
    exact (hw.recvIdle rfl).of_eq rfl rfl rfl rfl
  · split at h
    · obtain ⟨τ, hact, rfl⟩ := Option.map_eq_some_iff.mp h
      exact ((hw.act hact).recvIdle rfl).of_eq rfl rfl rfl rfl
    · split at h
      · obtain ⟨τ, hact, rfl⟩ := Option.map_eq_some_iff.mp h
        exact (hw.act hact).of_eq rfl rfl rfl rfl
      · cases h
        exact hw.of_eq rfl rfl rfl rfl

lemma recvStep (hw : m.Watched) (hintime : m.InTime .recv) (h : recvStep m = some m') :
    m'.Watched := by
  unfold Smux.recvStep at h
  split at h
  · cases h
    exact (hw.recvIdle rfl).of_eq rfl rfl rfl rfl
  · next hpc =>
    obtain ⟨τ, hact, rfl⟩ := Option.map_eq_some_iff.mp h
    obtain ⟨inner, hstep, rfl⟩ := Mux.act_cases hact
    refine (hw.act hact).recvTo fun t ht => ?_
    cases ht
    exact Inner.owes_of_dieEnabled hstep fun hs => hintime.recv rfl hs hpc
  · next t hpc => exact hw.recvNext (hw.recv t (by rw [hpc]; rfl)) h
  · next t hpc =>
    have ht := hw.recv t (by rw [hpc]; rfl)
    split at h
    · cases h
      exact hw.recvIdle rfl
    · split at h <;> cases h
      refine hw.recvTo fun t' ht' => ?_
      cases ht'
      exact ht
  · exact hw.recvDispatch h
  · obtain ⟨τ, hact, rfl⟩ := Option.map_eq_some_iff.mp h
    split
    · exact (hw.act hact).recvIdle rfl
    · exact hw.act hact
  · obtain ⟨τ, hact, rfl⟩ := Option.map_eq_some_iff.mp h
    exact (hw.act hact).recvIdle rfl
  · cases h

lemma sendReceive (hw : m.Watched) (ht : m.inner.Owes t) (h : sendReceive m t = some m') :
    m'.Watched := by
  unfold Smux.sendReceive at h
  split at h
  · cases h
    exact hw.sendIdle rfl rfl
  · split at h
    · obtain ⟨τ, hact, rfl⟩ := Option.map_eq_some_iff.mp h
      exact (hw.act hact).sendIdle rfl rfl
    · cases h
      refine hw.sendTo (fun t' ht' => ?_) (fun t' ht' => ?_)
      · cases ht'
        exact ht
      · cases ht'

lemma sendFrame {frame : Frame} (hw : m.Watched) (hintime : m.InTime .send)
    (hpc : m.send = .sending frame t) : (sendFrame m frame t).Watched := by
  unfold Smux.sendFrame
  split
  · exact hw.sendIdle rfl rfl
  · split
    · exact (hw.sendIdle rfl rfl).of_eq rfl rfl rfl rfl
    · next hroom =>
      have henqueued := hw.fresh t (by rw [hpc]; rfl)
      refine hw.sendTo (fun t' ht' => ?_) (fun t' ht' => ?_)
      · cases ht'
        refine ⟨henqueued.1, fun hsignalled => ?_⟩
        by_contra hnot
        exact hroom (hintime.send rfl hsignalled frame t hpc (by simpa using hnot))
      · cases ht'

lemma sendStep (hw : m.Watched) (hintime : m.InTime .send) (h : sendStep m = some m') :
    m'.Watched := by
  unfold Smux.sendStep at h
  split at h
  · obtain ⟨τ, hact, rfl⟩ := Option.map_eq_some_iff.mp h
    obtain ⟨inner, hstep, rfl⟩ := Mux.act_cases hact
    refine (hw.act hact).sendTo (fun t ht => ?_) (fun t ht => ?_)
    · cases ht
    · cases ht
      exact Inner.enqueued_of_dieEnabled hstep
  · next t hpc =>
    cases h
    split
    · exact hw.sendIdle rfl rfl
    · next hclosed =>
      -- The latch was down after the future was enqueued, so its notification is still to come.
      refine hw.sendTo (fun t' ht' => ?_) (fun t' ht' => ?_)
      · cases ht'
        refine ⟨(hw.fresh t (by rw [hpc]; rfl)).1, fun hsignalled => ?_⟩
        exact absurd hsignalled (hw.latched.not_signalled (by simpa using hclosed))
      · cases ht'
  · next t hpc =>
    have ht := hw.send t (by rw [hpc]; rfl)
    cases h
    split
    · exact hw.sendIdle rfl rfl
    · refine hw.sendTo (fun t' ht' => ?_) (fun t' ht' => ?_)
      · cases ht'
        exact ht
      · cases ht'
  · next t hpc => exact hw.sendReceive (hw.send t (by rw [hpc]; rfl)) h
  · next t hpc =>
    have ht := hw.send t (by rw [hpc]; rfl)
    split at h <;> cases h
    refine hw.sendTo (fun t' ht' => ?_) (fun t' ht' => ?_)
    · cases ht'
      exact ht
    · cases ht'
  · obtain ⟨τ, hact, rfl⟩ := Option.map_eq_some_iff.mp h
    obtain ⟨inner, hstep, rfl⟩ := Mux.act_cases hact
    refine (hw.act hact).sendTo (fun t ht => ?_) (fun t ht => ?_)
    · cases ht
    · cases ht
      exact Inner.enqueued_of_dieEnabled hstep
  · next frame t hpc =>
    cases h
    exact hw.sendFrame hintime hpc
  · next frame t hpc =>
    have ht := hw.send t (by rw [hpc]; rfl)
    split at h
    · cases h
      exact hw.sendIdle rfl rfl
    · split at h <;> cases h
      refine hw.sendTo (fun t' ht' => ?_) (fun t' ht' => ?_)
      · cases ht'
      · cases ht'
        exact ht.mono fun hc => hc.elim
  · obtain ⟨τ, hact, rfl⟩ := Option.map_eq_some_iff.mp h
    exact (hw.act hact).sendIdle rfl rfl
  · obtain ⟨τ, hact, rfl⟩ := Option.map_eq_some_iff.mp h
    exact (hw.act hact).sendIdle rfl rfl
  · cases h

lemma keepaliveTick (hw : m.Watched) (h : keepaliveTick m = some m') : m'.Watched := by
  obtain ⟨τ, hact, rfl⟩ := Option.map_eq_some_iff.mp h
  refine (hw.act hact).keepaliveIdle ?_
  split <;> rfl

lemma keepaliveStep {elapsed : Bool} (hw : m.Watched) (hintime : m.InTime (.keepalive elapsed))
    (h : keepaliveStep m elapsed = some m') : m'.Watched := by
  unfold Smux.keepaliveStep at h
  split at h
  · next hpc =>
    obtain ⟨τ, hact, rfl⟩ := Option.map_eq_some_iff.mp h
    obtain ⟨inner, hstep, rfl⟩ := Mux.act_cases hact
    refine (hw.act hact).keepaliveTo fun t ht => ?_
    cases ht
    exact Inner.owes_of_dieEnabled hstep fun hs => hintime.keepalive elapsed rfl hs hpc
  · next t hpc =>
    split at h
    · exact hw.keepaliveTick h
    · cases h
      refine hw.keepaliveTo fun t' ht' => ?_
      cases ht'
      exact hw.keepalive t (by rw [hpc]; rfl)
  · split at h
    · cases h
      exact hw.keepaliveIdle rfl
    · split at h
      · exact hw.keepaliveTick h
      · cases h
  · cases h
    refine hw.keepaliveIdle ?_
    split <;> rfl
  · cases h
  · cases h

/-- **Every task keeps watching.** A task that waits for something is also woken by the end of the
multiplexer, unless it has seen it already. -/
theorem step {l : MuxLabel} (hw : m.Watched) (hintime : m.InTime l) (h : m.step l = some m') :
    m'.Watched := by
  cases l with
  | recv => exact hw.recvStep hintime h
  | send => exact hw.sendStep hintime h
  | keepalive elapsed => exact hw.keepaliveStep hintime h
  | caller l =>
    simp only [Mux.step, callerStep] at h
    split at h
    · exact hw.act h
    · cases h
  | dropSession =>
    simp only [Mux.step, dropSession] at h
    split at h
    · obtain ⟨τ, hact, rfl⟩ := Option.map_eq_some_iff.mp h
      exact (hw.act hact).of_eq rfl rfl rfl rfl
    · cases h
  | closeStep => exact hw.act h
  | closeSweep i => exact hw.act h
  | emit chunk =>
    simp only [Mux.step, emit] at h
    split at h <;> cases h
    exact hw.of_eq rfl rfl rfl rfl
  | sessionClose reason =>
    cases h
    exact hw.of_eq rfl rfl rfl rfl
  | fanoutClose =>
    simp only [Mux.step, fanoutClose] at h
    split at h <;> cases h
    exact hw.of_eq rfl rfl rfl rfl
  | command data =>
    simp only [Mux.step] at h
    split at h <;> cases h
    exact hw.of_eq rfl rfl rfl rfl
  | commandTaken =>
    simp only [Mux.step] at h
    split at h <;> cases h
    exact hw.of_eq rfl rfl rfl rfl

end Mux.Watched

/-! ## The result -/

namespace Mux

/-- `recv_task` is parked: its future was not woken and the output has nothing for it. -/
def recvWaits (σ : Mux) : Bool :=
  match σ.recv with
  | .parked t => !σ.inner.die.notified t && !σ.outputReady
  | _ => false

/-- `send_task` is parked, for a frame or for room in the session's queue. -/
def sendWaits (σ : Mux) : Bool :=
  match σ.send with
  | .parked t => !σ.inner.die.notified t && !σ.sessionClosed && σ.inner.frames.isEmpty
  | .stalled _ t => !σ.inner.die.notified t && !σ.sessionClosed && !σ.commandRoom
  | _ => false

/-- `keepalive_task` is parked. -/
def keepaliveWaits (σ : Mux) : Bool :=
  match σ.keepalive with
  | .parked t => !σ.inner.die.notified t
  | _ => false

/-- `close` has completed. -/
def closeCompleted (σ : Mux) : Bool :=
  match σ.inner.closing with
  | .completed _ => true
  | _ => false

/-- The session stays open. -/
def SessionOpen (_ : Mux) (l : MuxLabel) (_ : Mux) : Prop := ∀ reason, l ≠ .sessionClose reason

end Mux

lemma Inner.Owes.notified (h : σ.Owes t) (hs : σ.signalled = true) : σ.die.notified t = true :=
  h.2 hs

lemma Mux.signalled_of_closeCompleted (h : m.closeCompleted = true) : m.inner.signalled = true := by
  unfold Mux.closeCompleted at h
  split at h
  · next hpc => simp [Inner.signalled, hpc, ClosePc.signalled]
  · cases h

/-- **The multiplexer's tasks stop.** If after the notification no wait on a fresh future begins, then
no task is parked once `close` has completed. -/
theorem tasks_stop {config : SmuxConfig} {capacity : ℕ}
    (h : Reachable Mux.step (fun σ l σ' => σ.InTime l ∧ Mux.SessionOpen σ l σ')
      (.new config capacity) m) (hdone : m.closeCompleted = true) :
    m.recvWaits = false ∧ m.sendWaits = false ∧ m.keepaliveWaits = false := by
  have hw : m.Watched :=
    h.invariant (.new config capacity) fun _ _ _ hw hstep hguard => hw.step hguard.1 hstep
  have hs := Mux.signalled_of_closeCompleted hdone
  refine ⟨?_, ?_, ?_⟩
  · unfold Mux.recvWaits
    split
    · next t hpc => simp [(hw.recv t (by rw [hpc]; rfl)).notified hs]
    · rfl
  · unfold Mux.sendWaits
    split
    · next t hpc => simp [(hw.send t (by rw [hpc]; rfl)).notified hs]
    · next frame t hpc => simp [(hw.send t (by rw [hpc]; rfl)).notified hs]
    · rfl
  · unfold Mux.keepaliveWaits
    split
    · next t hpc => simp [(hw.keepalive t (by rw [hpc]; rfl)).notified hs]
    · rfl

/-- All three tasks are parked when the session is dropped, and are woken. -/
theorem tasks_stop_parked :
    ∃ σ, Reachable Mux.step (fun σ l σ' => σ.InTime l ∧ Mux.SessionOpen σ l σ')
        (.new ⟨true⟩ 8192) σ ∧
      (σ.closeCompleted = true ∧ σ.recv = .parked 0 ∧ σ.send = .parked 1 ∧
        σ.keepalive = .parked 2) ∧
      σ.recvWaits = false ∧ σ.sendWaits = false ∧ σ.keepaliveWaits = false := by
  let run : List MuxLabel := [.recv, .recv, .recv, .send, .send, .send, .send, .keepalive false,
    .keepalive false, .dropSession, .closeStep, .closeStep, .closeStep]
  let test (σ : Mux) (l : MuxLabel) (_ : Mux) : Bool :=
    decide (l ∈ run) && (!σ.inner.signalled || l == .closeStep)
  have htest : ∀ (σ : Mux) (l : MuxLabel) (σ' : Mux), test σ l σ' →
      σ.InTime l ∧ Mux.SessionOpen σ l σ' := by
    intro σ l σ' ht
    simp only [test, Bool.and_eq_true, Bool.or_eq_true, Bool.not_eq_true', beq_iff_eq] at ht
    obtain ⟨hmem, hsignal⟩ := ht
    refine ⟨⟨?_, ?_, ?_⟩, ?_⟩
    · rintro rfl hs
      simp [hs] at hsignal
    · rintro elapsed rfl hs
      simp [hs] at hsignal
    · rintro rfl hs
      simp [hs] at hsignal
    · rintro reason rfl
      simp [run] at hmem
  have hrun : (runIf Mux.step test (.new ⟨true⟩ 8192) run).any (fun σ =>
      σ.closeCompleted && decide (σ.recv = .parked 0 ∧ σ.send = .parked 1 ∧
        σ.keepalive = .parked 2)) = true := by decide +kernel
  obtain ⟨σ, hσ, hp⟩ := exists_of_runIf htest hrun
  simp only [Bool.and_eq_true, decide_eq_true_eq] at hp
  exact ⟨σ, hσ, hp, tasks_stop hσ hp.1⟩

/-- The session is dropped before `recv_task` has run: the close completes, and `recv_task` then parks
on a future that was enqueued too late, waiting for output. -/
theorem recv_task_misses_close :
    ¬ ∀ (config : SmuxConfig) (capacity : ℕ) (σ : Mux),
      Reachable Mux.step Mux.SessionOpen (.new config capacity) σ → σ.closeCompleted = true →
      σ.recvWaits = false ∧ σ.sendWaits = false ∧ σ.keepaliveWaits = false := by
  intro h
  have htest : ∀ (σ : Mux) (l : MuxLabel) (σ' : Mux),
      (l ∈ [MuxLabel.dropSession, .closeStep, .recv] : Bool) → Mux.SessionOpen σ l σ' := by
    rintro σ l σ' hl reason rfl
    simp at hl
  have hrun : (runIf Mux.step (fun _ l _ => decide (l ∈ [MuxLabel.dropSession, .closeStep, .recv]))
      (.new ⟨false⟩ 8192)
      [.dropSession, .closeStep, .closeStep, .closeStep, .recv, .recv, .recv]).any
      (fun σ => σ.closeCompleted && σ.recvWaits) = true := by decide +kernel
  obtain ⟨σ, hσ, hp⟩ := exists_of_runIf htest hrun
  simp only [Bool.and_eq_true] at hp
  have hfalse := (h ⟨false⟩ 8192 σ hσ hp.1).1
  rw [hp.2] at hfalse
  cases hfalse

end

end SsmBridge.Smux
