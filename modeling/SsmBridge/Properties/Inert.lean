import SsmBridge.Construction.Supervisor

/-!
# A stopped reconnecting session is inert

`terminate` raises the shutdown flag and then takes the current session; a supervisor that was
inside `resume_session` or `start_session` meanwhile installs its session afterwards and leaves, so
that an open session stays in `current`.  And a supervisor that gives up on its own clears `current`
but raises no flag, so that `send` sleeps until its deadline.

In the runs in which no session is installed after one was taken, and the supervisor gives up only
once the flag is up, a stopped session is inert: nothing is installed in `current`, and a call of
`send` that begins then fails in its first iteration.
-/

namespace SsmBridge.Supervisor

open Machine

variable {config : ReconnectConfig} {readyTimeout : ℕ} {σ σ' : Supervised} {l : Label}

/-! ## The condition -/

/-- No session is installed after `terminate` has taken the current one, and the supervisor gives up
only after the shutdown signal. -/
structure Supervised.Orderly (σ : Supervised) (l : Label) : Prop where
  adopt : l = .supervise → ∀ i, σ.supervisor = .adopting i →
    σ.terminates.any TerminatePc.hasTaken = false
  giveUp : l = .supervise → σ.supervisor = .givingUp → σ.shutdown = true

/-! ## The invariant -/

/-- `GaveUp` was emitted. -/
def SupervisorPc.gaveUp : SupervisorPc → Bool
  | .closingOutput | .clearing | .finished => true
  | _ => false

/-- The error of a reconnecting session that has stopped. -/
def stoppedError : Error := .sessionClosed "the reconnecting session has stopped"

/-- A call of `send` on its way to fail in its first iteration. -/
def SendCall.failing (call : SendCall) : Bool :=
  call.queued.isNone && !call.slept &&
    match call.pc with
    | .reading => call.iterations == 0
    | .latching => call.iterations == 1
    | .returned result => call.iterations == 1 && result == .error stoppedError
    | _ => false

structure Supervised.Inert (σ : Supervised) : Prop where
  signalled : ∀ pc ∈ σ.terminates, pc ≠ .entering → σ.shutdown = true
  taken : ∀ pc ∈ σ.terminates, pc.hasTaken = true → σ.current = none
  gaveUp : σ.supervisor.gaveUp = true → σ.shutdown = true
  finished : σ.supervisor = .finished → σ.current = none
  late : ∀ call ∈ σ.sends, call.late = true → σ.stopped = true ∧ call.failing = true

lemma gaveUp_backOff {retry : Retry} : (backOff config retry).gaveUp = false := by
  unfold backOff
  split <;> rfl

lemma late_of_step {room expired : Bool} {call call' : SendCall}
    (h : call.step σ room expired readyTimeout = some call') : call'.late = call.late := by
  unfold SendCall.step at h
  split at h
  · cases h
    rfl
  · cases h
    rfl
  · split at h
    · cases h
      rfl
    · split at h <;> cases h
      rfl
  · cases h
    rfl
  · cases h
    rfl
  · cases h
    rfl
  · cases h

namespace Supervised.Inert

/-- Once stopped, nothing is installed and the flag is up. -/
lemma of_stopped (h : σ.Inert) (hs : σ.stopped = true) :
    σ.current = none ∧ σ.shutdown = true := by
  simp only [Supervised.stopped, Bool.or_eq_true, List.any_eq_true, beq_iff_eq] at hs
  obtain ⟨pc, hpc, rfl⟩ | hfinished := hs
  · exact ⟨h.taken _ hpc rfl, h.signalled _ hpc (by simp)⟩
  · exact ⟨h.finished hfinished, h.gaveUp (by rw [hfinished]; rfl)⟩

lemma new : Supervised.new.Inert where
  signalled _ h := nomatch h
  taken _ h := nomatch h
  gaveUp h := nomatch h
  finished h := nomatch h
  late _ h := nomatch h

/-- A step of the supervisor that leaves `current` alone and does not go beyond `GaveUp`. -/
lemma supervisorTo (h : σ.Inert) {pc : SupervisorPc} (hpc : pc.gaveUp = false)
    (hfinished : σ.supervisor ≠ .finished) : ({ σ with supervisor := pc } : Supervised).Inert := by
  refine ⟨h.signalled, h.taken, by simp [hpc], ?_, fun call hcall hlate => ?_⟩
  · rintro rfl
    cases hpc
  · obtain ⟨hs, hfailing⟩ := h.late call hcall hlate
    refine ⟨?_, hfailing⟩
    simp only [Supervised.stopped, Bool.or_eq_true, beq_iff_eq] at hs ⊢
    exact hs.imp_right fun hf => absurd hf hfinished

/-- The calls of `send` are as before, and a stop lasts. -/
lemma late_of (h : σ.Inert) (hsends : σ'.sends = σ.sends)
    (hstopped : σ.stopped = true → σ'.stopped = true) :
    ∀ call ∈ σ'.sends, call.late = true → σ'.stopped = true ∧ call.failing = true := by
  intro call hcall hlate
  rw [hsends] at hcall
  exact (h.late call hcall hlate).imp_left hstopped

/-- Installing a session, before `terminate` has taken one. -/
lemma adopt (h : σ.Inert) {i : ℕ} (hpc : σ.supervisor = .adopting i)
    (htaken : σ.terminates.any TerminatePc.hasTaken = false) :
    ({ σ with current := some i, supervisor := .reading } : Supervised).Inert := by
  have hnone : ∀ pc ∈ σ.terminates, pc.hasTaken = false := by simpa using htaken
  refine ⟨h.signalled, fun pc hmem ht => ?_, fun hg => ?_, fun hf => ?_, h.late_of rfl fun hs => ?_⟩
  · simp [hnone pc hmem] at ht
  · cases hg
  · cases hf
  · -- Nothing has stopped: neither has `terminate` returned nor the supervisor finished.
    simp only [Supervised.stopped, Bool.or_eq_true, List.any_eq_true, beq_iff_eq] at hs
    obtain ⟨pc, hmem, rfl⟩ | hfinished := hs
    · cases hnone _ hmem
    · simp [hpc] at hfinished

lemma superviseStep (h : σ.Inert) (horderly : σ.Orderly .supervise)
    (hstep : superviseStep config σ = some σ') : σ'.Inert := by
  unfold Supervisor.superviseStep at hstep
  split at hstep
  · next hpc =>
    split at hstep <;> cases hstep <;> exact h.supervisorTo rfl (by simp [hpc])
  · next i hpc =>
    cases hstep
    refine h.supervisorTo ?_ (by simp [hpc])
    split <;> rfl
  · next i hpc =>
    cases hstep
    refine h.supervisorTo ?_ (by simp [hpc])
    split <;> rfl
  · next i hpc =>
    split at hstep <;> cases hstep
    exact h.supervisorTo rfl (by simp [hpc])
  · next i hpc =>
    dsimp only at hstep
    split at hstep <;> cases hstep <;> exact h.supervisorTo rfl (by simp [hpc])
  · next retry hpc =>
    dsimp only at hstep
    split at hstep <;> cases hstep <;> exact h.supervisorTo rfl (by simp [hpc])
  · next retry hpc =>
    cases hstep
    refine h.supervisorTo ?_ (by simp [hpc])
    split <;> rfl
  · next retry hpc =>
    split at hstep <;> cases hstep
    exact h.supervisorTo rfl (by simp [hpc])
  · next i hpc =>
    cases hstep
    exact h.adopt hpc (horderly.adopt rfl i hpc)
  · next hpc =>
    cases hstep
    refine ⟨h.signalled, h.taken, fun _ => horderly.giveUp rfl hpc, ?_, h.late_of rfl fun hs => ?_⟩
    · intro hfinished
      cases hfinished
    · simpa [Supervised.stopped, hpc] using hs
  · next hpc =>
    cases hstep
    refine ⟨h.signalled, h.taken, fun _ => h.gaveUp (by rw [hpc]; rfl), ?_, h.late_of rfl fun hs => ?_⟩
    · intro hfinished
      cases hfinished
    · simpa [Supervised.stopped, hpc] using hs
  · next hpc =>
    cases hstep
    refine ⟨h.signalled, fun _ _ _ => rfl, fun _ => h.gaveUp (by rw [hpc]; rfl), fun _ => rfl,
      h.late_of rfl fun hs => ?_⟩
    simp [Supervised.stopped]
  all_goals cases hstep

/-- A session was opened. -/
lemma opened (h : σ.Inert) {sessions : List (Option CloseReason)} {i : ℕ}
    (hfinished : σ.supervisor ≠ .finished) :
    ({ σ with sessions, supervisor := .adopting i } : Supervised).Inert := by
  have hadopting : ({ σ with supervisor := .adopting i } : Supervised).Inert :=
    h.supervisorTo rfl hfinished
  exact ⟨hadopting.signalled, hadopting.taken, hadopting.gaveUp, hadopting.finished, hadopting.late⟩

lemma resumeReturns {result : Except Error Bool} (h : σ.Inert)
    (hstep : resumeReturns config σ result = some σ') : σ'.Inert := by
  unfold Supervisor.resumeReturns at hstep
  split at hstep
  · next retry hpc =>
    have hfinished : σ.supervisor ≠ .finished := by simp [hpc]
    split at hstep
    · cases hstep
      exact h.opened hfinished
    · cases hstep
      exact h.supervisorTo rfl hfinished
    · split at hstep <;> cases hstep
      · exact h.supervisorTo gaveUp_backOff hfinished
      · exact h.supervisorTo rfl hfinished
  · cases hstep

lemma startReturns {result : Except Error Unit} (h : σ.Inert)
    (hstep : startReturns config σ result = some σ') : σ'.Inert := by
  unfold Supervisor.startReturns at hstep
  split at hstep
  · next retry hpc =>
    have hfinished : σ.supervisor ≠ .finished := by simp [hpc]
    split at hstep
    · cases hstep
      exact h.opened hfinished
    · split at hstep <;> cases hstep
      · exact h.supervisorTo gaveUp_backOff hfinished
      · exact h.supervisorTo rfl hfinished
  · cases hstep

/-- A call of `terminate` moves on; `pc` is where it was. -/
lemma terminateTo (h : σ.Inert) {k : ℕ} {pc pc' : TerminatePc} {current : Option ℕ}
    {shutdown outputClosed : Bool} {sessions : List (Option CloseReason)}
    (hk : σ.terminates[k]? = some pc) (hpc : pc ≠ .returned)
    (hcurrent : current = σ.current ∨ current = none)
    (hshutdown : σ.shutdown = true ∨ pc = .entering → shutdown = true)
    (htaken : pc'.hasTaken = true → current = none) :
    ({ σ with sessions, current, shutdown, outputClosed
              terminates := σ.terminates.set k pc' } : Supervised).Inert := by
  have hmem : pc ∈ σ.terminates := List.mem_of_getElem? hk
  refine ⟨fun q hq hne => ?_, fun q hq ht => ?_, fun hg => ?_, fun hf => ?_, h.late_of rfl ?_⟩
  · by_cases hentering : pc = .entering
    · exact hshutdown (.inr hentering)
    · exact hshutdown (.inl (h.signalled pc hmem hentering))
  · obtain hold | rfl := List.mem_or_eq_of_mem_set hq
    · exact hcurrent.elim (fun hc => hc.trans (h.taken q hold ht)) id
    · exact htaken ht
  · exact hshutdown (.inl (h.gaveUp hg))
  · exact hcurrent.elim (fun hc => hc.trans (h.finished hf)) id
  · intro hs
    simp only [Supervised.stopped, Bool.or_eq_true, List.any_eq_true, beq_iff_eq] at hs ⊢
    refine hs.imp_left fun hreturned => ?_
    obtain ⟨q, hq, rfl⟩ := hreturned
    obtain ⟨j, hj⟩ := List.mem_iff_getElem?.mp hq
    have hjk : k ≠ j := by
      rintro rfl
      rw [hk] at hj
      exact hpc (Option.some.inj hj)
    exact ⟨_, List.mem_of_getElem? (by rw [List.getElem?_set_ne hjk, hj]), rfl⟩

lemma terminateStep {k : ℕ} (h : σ.Inert) (hstep : terminateStep σ k = some σ') : σ'.Inert := by
  unfold Supervisor.terminateStep at hstep
  split at hstep
  · next hk =>
    cases hstep
    refine h.terminateTo hk (by simp) (.inl rfl) (fun _ => rfl) (fun ht => ?_)
    cases ht
  · next hk =>
    cases hstep
    refine h.terminateTo hk (by simp) (.inr rfl) (fun hs => ?_) (fun _ => rfl)
    exact hs.resolve_right (by simp)
  · next i hk =>
    cases hstep
    refine h.terminateTo hk (by simp) (.inl rfl) (fun hs => ?_) (fun _ => ?_)
    · exact hs.resolve_right (by simp)
    · exact h.taken _ (List.mem_of_getElem? hk) rfl
  · next hk =>
    cases hstep
    refine h.terminateTo hk (by simp) (.inl rfl) (fun hs => ?_) (fun _ => ?_)
    · exact hs.resolve_right (by simp)
    · exact h.taken _ (List.mem_of_getElem? hk) rfl
  · cases hstep
  · cases hstep

/-- A call that is on its way to fail, on a stopped session, stays on it. -/
lemma failing_step {room expired : Bool} {call call' : SendCall} (h : σ.Inert)
    (hs : σ.stopped = true) (hfailing : call.failing = true)
    (hstep : call.step σ room expired readyTimeout = some call') : call'.failing = true := by
  obtain ⟨hcurrent, hshutdown⟩ := h.of_stopped hs
  simp only [SendCall.failing] at hfailing ⊢
  cases hpc : call.pc with
  | reading =>
    simp only [SendCall.step, hpc, hcurrent] at hstep
    cases hstep
    simpa [hpc] using hfailing
  | latching =>
    simp only [SendCall.step, hpc, hshutdown] at hstep
    cases hstep
    simpa [hpc, stoppedError] using hfailing
  | returned result =>
    simp only [SendCall.step, hpc] at hstep
    cases hstep
  | checking | sending | expiring | sleeping => simp [hpc] at hfailing

lemma sendStep {k : ℕ} {room expired : Bool} (h : σ.Inert)
    (hstep : sendStep σ k room expired readyTimeout = some σ') : σ'.Inert := by
  unfold Supervisor.sendStep at hstep
  split at hstep
  · next call hk =>
    obtain ⟨call', hcall, rfl⟩ := Option.map_eq_some_iff.mp hstep
    refine ⟨h.signalled, h.taken, h.gaveUp, h.finished, fun c hc hlate => ?_⟩
    obtain hold | rfl := List.mem_or_eq_of_mem_set hc
    · exact h.late c hold hlate
    · obtain ⟨hs, hfailing⟩ := h.late call (List.mem_of_getElem? hk)
        (late_of_step hcall ▸ hlate)
      exact ⟨hs, h.failing_step hs hfailing hcall⟩
  · cases hstep

/-- **What an orderly step preserves.** Once the supervisor has stopped, or is about to, nothing
installs a session any more, and the calls in flight are on their way to an error. -/
theorem step (h : σ.Inert) (horderly : σ.Orderly l)
    (hstep : step config readyTimeout σ l = some σ') : σ'.Inert := by
  cases l with
  | supervise => exact h.superviseStep horderly hstep
  | sleepEnds =>
    simp only [Supervisor.step, sleepEnds] at hstep
    split at hstep
    · next retry hpc =>
      cases hstep
      refine h.supervisorTo ?_ (by simp [hpc])
      split <;> rfl
    · cases hstep
  | resumeReturns result => exact h.resumeReturns hstep
  | startReturns result => exact h.startReturns hstep
  | sessionCloses i reason =>
    cases hstep
    exact ⟨h.signalled, h.taken, h.gaveUp, h.finished, h.late⟩
  | terminate =>
    cases hstep
    refine ⟨fun pc hpc hne => ?_, fun pc hpc ht => ?_, h.gaveUp, h.finished, h.late_of rfl ?_⟩
    · obtain hold | rfl := (by simpa using hpc : pc ∈ σ.terminates ∨ pc = .entering)
      · exact h.signalled pc hold hne
      · exact absurd rfl hne
    · obtain hold | rfl := (by simpa using hpc : pc ∈ σ.terminates ∨ pc = .entering)
      · exact h.taken pc hold ht
      · cases ht
    · intro hs
      simp only [Supervised.stopped, List.any_append, Bool.or_eq_true] at hs ⊢
      exact hs.imp_left .inl
  | terminateStep k => exact h.terminateStep hstep
  | send data =>
    cases hstep
    refine ⟨h.signalled, h.taken, h.gaveUp, h.finished, fun call hcall hlate => ?_⟩
    obtain hold | rfl := List.mem_append.mp hcall |>.imp_right List.eq_of_mem_singleton
    · exact h.late call hold hlate
    · exact ⟨hlate, rfl⟩
  | sendStep k room expired => exact h.sendStep hstep

end Supervised.Inert

/-! ## The result -/

/-- The call failed in its first iteration, having neither queued its data nor slept. -/
def SendCall.Failed (call : SendCall) : Prop :=
  call.pc = .returned (.error stoppedError) ∧ call.iterations = 1 ∧ call.queued = none ∧
    call.slept = false

lemma SendCall.failed_of_failing {call : SendCall} (h : call.failing = true)
    {result : Except Error Unit} (hpc : call.pc = .returned result) : call.Failed := by
  simp only [SendCall.failing, hpc, Bool.and_eq_true, Option.isNone_iff_eq_none, beq_iff_eq,
    Bool.not_eq_true'] at h
  obtain ⟨⟨hqueued, hslept⟩, hiterations, rfl⟩ := h
  exact ⟨hpc, hiterations, hqueued, hslept⟩

/-- How many steps a call that is on its way to fail has left. -/
def SendPc.left : SendPc → ℕ
  | .reading => 2
  | .latching => 1
  | _ => 0

/-- A call that is on its way to fail takes a step towards it. -/
lemma Supervised.Inert.failing_left (h : σ.Inert) {call : SendCall} (hs : σ.stopped = true)
    (hleft : call.pc.left ≠ 0) (readyTimeout : ℕ) (room expired : Bool) :
    ∃ call', call.step σ room expired readyTimeout = some call' ∧
      call'.pc.left < call.pc.left := by
  obtain ⟨hcurrent, hshutdown⟩ := h.of_stopped hs
  cases hpc : call.pc with
  | reading =>
    simp only [SendCall.step, hpc, hcurrent]
    exact ⟨_, rfl, by simp [SendPc.left]⟩
  | latching =>
    simp only [SendCall.step, hpc, hshutdown]
    exact ⟨_, rfl, by simp [SendPc.left]⟩
  | checking | sending | expiring | sleeping | returned => simp [hpc, SendPc.left] at hleft

/-- It gets there by its own steps. -/
lemma exists_run_of_late (h : σ.Inert) {k : ℕ} {call : SendCall}
    (hk : σ.sends[k]? = some call) (hlate : call.late = true) (room expired : Bool) :
    ∃ n σ', run (step config readyTimeout) σ (List.replicate n (.sendStep k room expired)) =
        some σ' ∧ ∃ call', σ'.sends[k]? = some call' ∧ call'.Failed := by
  obtain ⟨hs, hfailing⟩ := h.late call (List.mem_of_getElem? hk) hlate
  induction hn : call.pc.left using Nat.strongRecOn generalizing σ call with
  | ind n ih =>
    by_cases hleft : call.pc.left = 0
    · refine ⟨0, σ, rfl, call, hk, ?_⟩
      cases hpc : call.pc with
      | returned result => exact SendCall.failed_of_failing hfailing hpc
      | reading | latching => simp [hpc, SendPc.left] at hleft
      | checking | sending | expiring | sleeping => simp [SendCall.failing, hpc] at hfailing
    · obtain ⟨call', hcall, hlt⟩ := h.failing_left hs hleft readyTimeout room expired
      have hstep : Supervisor.sendStep σ k room expired readyTimeout =
          some { σ with sends := σ.sends.set k call' } := by
        simp [Supervisor.sendStep, hk, hcall]
      have hk' : (σ.sends.set k call')[k]? = some call' := by
        simp [(List.getElem?_eq_some_iff.mp hk).1]
      obtain ⟨m, σ', hrun, hfailed⟩ := ih _ (hn ▸ hlt) (h.sendStep hstep) hk'
        ((late_of_step hcall).trans hlate) hs (h.failing_step hs hfailing hcall) rfl
      refine ⟨m + 1, σ', ?_, hfailed⟩
      rw [List.replicate_succ, run]
      simp only [Supervisor.step, hstep, Option.bind_some]
      exact hrun

/-- **A stopped reconnecting session is inert.** If no session is installed after one was taken, and
the supervisor gives up only after the shutdown signal, then in every state after a stop no open
session is installed; and a call of `send` that began after the stop fails in its first iteration,
by its own steps, without queueing its data and without sleeping. -/
theorem stopped_session_inert
    (h : Reachable (step config readyTimeout) (fun σ l _ => σ.Orderly l) .new σ) :
    (σ.stopped = true → ∀ i, σ.current = some i → σ.isClosed i = true) ∧
    ∀ k call, σ.sends[k]? = some call → call.late = true →
      (call.queued = none ∧ call.slept = false ∧ call.pc ≠ .sleeping) ∧
      (∀ result, call.pc = .returned result → call.Failed) ∧
      ∀ room expired, ∃ n σ',
        run (step config readyTimeout) σ (List.replicate n (.sendStep k room expired)) = some σ' ∧
          ∃ call', σ'.sends[k]? = some call' ∧ call'.Failed := by
  have hinert : σ.Inert := h.invariant .new fun _ _ _ hi hstep horderly => hi.step horderly hstep
  refine ⟨fun hs i hi => ?_, fun k call hk hlate => ⟨?_, fun result hpc => ?_, ?_⟩⟩
  · rw [(hinert.of_stopped hs).1] at hi
    cases hi
  · have hfailing := (hinert.late call (List.mem_of_getElem? hk) hlate).2
    simp only [SendCall.failing, Bool.and_eq_true, Option.isNone_iff_eq_none,
      Bool.not_eq_true'] at hfailing
    refine ⟨hfailing.1.1, hfailing.1.2, fun hpc => ?_⟩
    simp [hpc] at hfailing
  · exact SendCall.failed_of_failing (hinert.late call (List.mem_of_getElem? hk) hlate).2 hpc
  · exact exists_run_of_late hinert hk hlate

/-- The session is terminated while the supervisor sleeps before an attempt; a `send` follows. -/
theorem stopped_session_inert_asleep :
    ∃ σ, Reachable (step ⟨10, 10 ^ 9, 60 * 10 ^ 9, "i-0123456789abcdef0", .ok ()⟩ (30 * 10 ^ 9))
        (fun σ l _ => σ.Orderly l) .new σ ∧
      (σ.stopped = true ∧ σ.supervisor = .finished) ∧
      (∀ i, σ.current = some i → σ.isClosed i = true) ∧
      ∃ call, σ.sends[0]? = some call ∧ call.late = true ∧ call.Failed := by
  let labels : List Label := [.supervise, .supervise, .supervise, .sessionCloses 0 (.transport "reset"),
    .supervise, .supervise, .supervise, .supervise, .supervise, .supervise, .terminate,
    .terminateStep 0, .terminateStep 0, .terminateStep 0, .terminateStep 0, .supervise, .supervise,
    .supervise, .supervise, .send [1], .sendStep 0 true false, .sendStep 0 true false]
  let test (σ : Supervised) (_ : Label) (_ : Supervised) : Bool :=
    match σ.supervisor with
    | .adopting _ => false
    | .givingUp => σ.shutdown
    | _ => true
  have htest : ∀ (σ : Supervised) (l : Label) (σ' : Supervised), test σ l σ' → σ.Orderly l := by
    intro σ l σ' ht
    refine ⟨fun _ i hi => ?_, fun _ hg => ?_⟩
    · simp [test, hi] at ht
    · simpa [test, hg] using ht
  have hrun : (runIf (step ⟨10, 10 ^ 9, 60 * 10 ^ 9, "i-0123456789abcdef0", .ok ()⟩ (30 * 10 ^ 9)) test
      .new labels).any (fun (σ : Supervised) =>
        decide (σ.stopped = true ∧ σ.supervisor = .finished) &&
        (σ.sends[0]?).any (fun (call : SendCall) => call.late &&
          call.pc == .returned (.error stoppedError))) = true := by decide +kernel
  obtain ⟨σ, hσ, hp⟩ := exists_of_runIf htest hrun
  simp only [Bool.and_eq_true, decide_eq_true_eq] at hp
  obtain ⟨call, hcall, hp'⟩ := (Option.any_eq_true _ _).mp hp.2
  simp only [Bool.and_eq_true, beq_iff_eq] at hp'
  obtain ⟨hclosed, hsends⟩ := stopped_session_inert hσ
  obtain ⟨-, hfailed, -⟩ := hsends 0 call hcall hp'.1
  exact ⟨σ, hσ, hp.1, hclosed hp.1.1, call, hcall, hp'.1, hfailed _ hp'.2⟩

/-- The session is terminated while the supervisor is inside `start_session`: the supervisor then
installs the new session, and leaves it open in `current`. -/
theorem session_installed_after_terminate :
    ¬ ∀ (config : ReconnectConfig) (readyTimeout : ℕ) (σ : Supervised),
      Reachable (step config readyTimeout) free .new σ →
      (σ.stopped = true → ∀ i, σ.current = some i → σ.isClosed i = true) ∧
      ∀ k call, σ.sends[k]? = some call → call.late = true →
        (call.queued = none ∧ call.slept = false ∧ call.pc ≠ .sleeping) ∧
        (∀ result, call.pc = .returned result → call.Failed) ∧
        ∀ room expired, ∃ n σ',
          run (step config readyTimeout) σ (List.replicate n (.sendStep k room expired)) = some σ' ∧
            ∃ call', σ'.sends[k]? = some call' ∧ call'.Failed := by
  intro h
  have hrun : (run (step ⟨10, 10 ^ 9, 60 * 10 ^ 9, "i-0123456789abcdef0", .ok ()⟩ (30 * 10 ^ 9)) .new
      [.supervise, .supervise, .supervise, .sessionCloses 0 (.deliveryFailed 1 3000), .supervise,
        .supervise, .supervise, .supervise, .supervise, .supervise, .sleepEnds, .terminate,
        .terminateStep 0, .terminateStep 0, .terminateStep 0, .terminateStep 0,
        .startReturns (.ok ()), .supervise, .supervise, .supervise]).any (fun σ =>
      decide (σ.stopped = true ∧ σ.supervisor = .returned ∧ σ.current = some 1) &&
        !σ.isClosed 1) = true := by decide +kernel
  obtain ⟨σ, hσ, hp⟩ := exists_of_run hrun
  simp only [Bool.and_eq_true, decide_eq_true_eq, Bool.not_eq_true'] at hp
  obtain ⟨⟨hs, -, hcurrent⟩, hopen⟩ := hp
  have hclosed := (h _ _ σ hσ).1 hs 1 hcurrent
  rw [hopen] at hclosed
  cases hclosed

end SsmBridge.Supervisor
