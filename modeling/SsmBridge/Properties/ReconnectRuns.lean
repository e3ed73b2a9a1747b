import SsmBridge.Properties.ResumeFirst

/-!
# The outages of the supervisor are runs of `reconnect`

`Construction.Retry` has `reconnect` as a function of a tape of attempts, `Construction.Supervision`
has the supervisor take one attempt at a time.  `outage_is_reconnect_run` says that they are the
same: what an outage that is over did and how it ended is what `reconnect` computes from what its
attempts met.  Results about `reconnect` are thereby results about the supervisor.
-/

namespace SsmBridge

variable {config : ReconnectConfig} {a : Attempt} {r : Reconnecting}

/-! ## Logs -/

/-- The round with a log in front of its own. -/
def Round.after (log : List ReconnectStep) : Round → Round
  | .again r => .again { r with log := log ++ r.log }
  | .finished result steps => .finished result (log ++ steps)

lemma backOff_after (log : List ReconnectStep) :
    backOff config { r with log := log ++ r.log } = (backOff config r).after log := by
  unfold backOff
  dsimp only
  split <;> rfl

lemma startRound_after (log : List ReconnectStep) :
    startRound config a { r with log := log ++ r.log } = (startRound config a r).after log := by
  unfold startRound
  cases a.startSession with
  | ok session => simp [Round.after]
  | error e =>
    dsimp only
    split
    · rw [← backOff_after]
      simp
    · simp [Round.after]

lemma resumeRound_after (log : List ReconnectStep) :
    resumeRound config a { r with log := log ++ r.log } = (resumeRound config a r).after log := by
  obtain ⟨attempt, ceiling, resumeFrom, steps⟩ := r
  cases resumeFrom with
  | none => exact startRound_after (r := ⟨attempt, ceiling, none, steps⟩) log
  | some session =>
    unfold resumeRound
    dsimp only
    cases resumeSession config a session with
    | ok resumed =>
      cases resumed with
      | none =>
        dsimp only
        rw [← startRound_after, List.append_assoc]
      | some session' => simp [Round.after]
    | error e =>
      dsimp only
      split
      · rw [← backOff_after, List.append_assoc]
      · rw [← startRound_after, List.append_assoc]

/-- An attempt only adds to the log. -/
lemma reconnectRound_after (log : List ReconnectStep) :
    reconnectRound config a { r with log := log ++ r.log } =
      (reconnectRound config a r).after log := by
  unfold reconnectRound
  dsimp only
  split
  · simp [Round.after]
  · rw [← resumeRound_after]
    simp

namespace Supervision

open Machine

variable {s s' : Watch} {l : Label} {session : OpenedSession} {o : Outage}

/-! ## One attempt -/

lemma reconnectRound_nextAttempt (log : List ReconnectStep) :
    reconnectRound config a { r with attempt := r.attempt + 1, log } =
      (reconnectRound config a (nextAttempt r)).after log := by
  rw [← reconnectRound_after]
  simp [nextAttempt]

/-- The loop goes on after an attempt that is to be repeated. -/
lemma reconnectLoop_again {r' : Reconnecting} {rest : List Attempt} {log : List ReconnectStep}
    (hlimit : config.exhausted (r.attempt + 1) = false)
    (hround : reconnectRound config a (nextAttempt r) = .again r') :
    reconnectLoop config (a :: rest) { r with log } =
      reconnectLoop config rest { r' with log := log ++ r'.log } := by
  rw [reconnectLoop]
  simp [hlimit, reconnectRound_nextAttempt, hround, Round.after]

/-- The loop ends with an attempt that ends it. -/
lemma reconnectLoop_finished {result : ReconnectResult} {steps : List ReconnectStep}
    {rest : List Attempt} {log : List ReconnectStep}
    (hlimit : config.exhausted (r.attempt + 1) = false)
    (hround : reconnectRound config a (nextAttempt r) = .finished result steps) :
    reconnectLoop config (a :: rest) { r with log } = some (result, log ++ steps) := by
  rw [reconnectLoop]
  simp [hlimit, reconnectRound_nextAttempt, hround, Round.after]

/-- The loop ends when the attempts are used up. -/
lemma reconnectLoop_exhausted {log : List ReconnectStep}
    (hlimit : config.exhausted (r.attempt + 1) = true) :
    reconnectLoop config [] { r with log } = some (.err config.exhaustedError, log) := by
  rw [reconnectLoop]
  simp [hlimit, ReconnectConfig.exhaustedError]

/-! ## Outages -/

/-- What the attempts of an outage met. -/
def tapeOf (attempts : List AttemptRecord) : List Attempt := attempts.map (·.attempt)

/-- The outage is a run of `reconnect`. -/
def IsRun (config : ReconnectConfig) (o : Outage) : Prop :=
  ∀ resumeFrom, o.called = some resumeFrom →
    ∃ result, o.result = some result ∧
      reconnect config resumeFrom (tapeOf o.attempts) = some (result, stepsOf o.attempts)

/-- The outages that are over are runs, and the one under way is the beginning of one. -/
structure Recorded (config : ReconnectConfig) (s : Watch) : Prop where
  past : ∀ o ∈ s.past, IsRun config o
  current : ∀ r o resumeFrom, s.phase = .reconnecting r o → o.called = some resumeFrom →
    ∀ rest, reconnect config resumeFrom (tapeOf o.attempts ++ rest) =
      reconnectLoop config rest { r with log := stepsOf o.attempts }

/-- Without an outage under way only the past counts. -/
lemma Recorded.of_past (hpast : ∀ o ∈ s.past, IsRun config o) (hphase : s.phase.outage = none) :
    Recorded config s := by
  refine ⟨hpast, ?_⟩
  intro r o resumeFrom hreconnecting
  rw [hreconnecting] at hphase
  cases hphase

lemma Recorded.new (session : OpenedSession) : Recorded config (Watch.new session) := by
  apply Recorded.of_past
  · intro o ho
    cases ho
  · rfl

/-- An outage that ends is a run. -/
lemma Recorded.past_concat (h : Recorded config s) (ho : IsRun config o) :
    ∀ o' ∈ s.past ++ [o], IsRun config o' := by
  intro o' ho'
  rcases List.mem_append.mp ho' with ho' | ho'
  · exact h.past o' ho'
  · rw [List.mem_singleton.mp ho']
    exact ho

/-- The end of a session begins a run, or no run is needed. -/
lemma Recorded.sessionClosed (h : Recorded config s) (reason : CloseReason) :
    Recorded config (sessionClosed config s session reason) := by
  unfold Supervision.sessionClosed
  dsimp only
  split
  · refine ⟨h.past, ?_⟩
    intro r o resumeFrom hphase hcalled rest
    cases hphase
    cases hcalled
    rfl
  · apply Recorded.of_past
    · apply h.past_concat
      intro resumeFrom hcalled
      cases hcalled
    · rfl

lemma Recorded.attempt (h : Recorded config s) (hphase : s.phase = .reconnecting r o)
    (hlimit : config.exhausted (r.attempt + 1) = false) :
    Recorded config (afterRound config s o a (reconnectRound config a (nextAttempt r))) := by
  cases hround : reconnectRound config a (nextAttempt r) with
  | again r' =>
    refine ⟨h.past, ?_⟩
    intro r₁ o₁ resumeFrom hphase₁ hcalled rest
    cases hphase₁
    have hrun := h.current r o resumeFrom hphase hcalled (a :: rest)
    rw [reconnectLoop_again hlimit hround] at hrun
    simpa [tapeOf, stepsOf] using hrun
  | finished result steps =>
    have hover : IsRun config
        { o with attempts := o.attempts ++ [⟨a, steps⟩], result := some result } := by
      intro resumeFrom hcalled
      have hrun := h.current r o resumeFrom hphase hcalled [a]
      rw [reconnectLoop_finished hlimit hround] at hrun
      exact ⟨result, rfl, by simpa [tapeOf, stepsOf] using hrun⟩
    cases result with
    | ok =>
      -- The supervisor watches the session that was installed, or has returned.
      apply Recorded.of_past
      · exact h.past_concat hover
      · simp only [afterRound]
        cases steps.findSome? ReconnectStep.adopted <;> rfl
    | err e => exact .of_past (h.past_concat hover) rfl
    | panicked => exact .of_past (h.past_concat hover) rfl

lemma Recorded.step (h : Recorded config s) (hstep : step config s l = some s') :
    Recorded config s' := by
  cases l with
  | stop =>
    simp only [Supervision.step] at hstep
    split at hstep
    · cases hstep
      exact .of_past h.past rfl
    · cases hstep
  | closed reason =>
    simp only [Supervision.step] at hstep
    split at hstep
    · cases hstep
      exact h.sessionClosed _
    · cases hstep
  | attempt a =>
    simp only [Supervision.step] at hstep
    split at hstep
    · next r o hphase =>
      split at hstep
      · cases hstep
      · next hlimit =>
        cases hstep
        exact h.attempt hphase (Bool.eq_false_iff.mpr hlimit)
    · cases hstep
  | exhaust =>
    simp only [Supervision.step] at hstep
    split at hstep
    · next r o hphase =>
      split at hstep
      · next hlimit =>
        cases hstep
        refine .of_past (h.past_concat ?_) rfl
        intro resumeFrom hcalled
        have hrun := h.current r o resumeFrom hphase hcalled []
        rw [reconnectLoop_exhausted hlimit, List.append_nil] at hrun
        exact ⟨_, rfl, hrun⟩
      · cases hstep
    · cases hstep

/-- **Every outage that is over is a run of `reconnect`.** If the supervisor called it, then its
result and its steps are what `reconnect` computes from what the attempts met. -/
theorem outage_is_reconnect_run {session : OpenedSession}
    (h : Reachable (step config) free (Watch.new session) s) (ho : o ∈ s.past) : IsRun config o :=
  (h.invariant (Recorded.new session) (fun _ _ _ hs hstep _ => hs.step hstep)).past o ho

end Supervision

end SsmBridge
