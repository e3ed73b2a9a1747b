import SsmBridge.Properties.Backoff

/-!
# Resuming before replacing

A session that can be resumed is resumed, and a new one is started only after the service has
definitely refused.  `ResumesFirst` says this of one outage, together with the bounds on what
`reconnect` does: at most one call of each kind in an attempt, no more attempts than allowed, and
one session installed on success.

All of it holds in every run (`resumes_first_iff`) but for the limit on the attempts at its largest
value.  The attempt count is incremented before it is compared with the limit, and with `u32::MAX`
as the limit the count wraps to zero instead of passing it.
-/

namespace SsmBridge.Supervision

open Machine

/-! ## The property -/

def isResumeCall : ReconnectStep → Bool
  | .resumeCall _ => true
  | _ => false

def isStartCall : ReconnectStep → Bool
  | .startCall => true
  | _ => false

def isAdopt : ReconnectStep → Bool
  | .adopt _ => true
  | _ => false

/-- The attempt asked for the session that `reconnect` was to resume and was definitely refused. -/
def Refused (config : ReconnectConfig) (called : Option (Option OpenedSession))
    (record : AttemptRecord) : Prop :=
  ∃ session, called = some (some session) ∧ .resumeCall session.id ∈ record.log ∧
    Definite config record.attempt session

/-- The steps of all attempts of an outage. -/
def stepsOf (attempts : List AttemptRecord) : List ReconnectStep := attempts.flatMap (·.log)

/-- The outage is answered by a resume first and a new session after a refusal. -/
structure Orderly (config : ReconnectConfig) (o : Outage) : Prop where
  recoverable : ∀ resumeFrom, o.called = some resumeFrom → o.reason.isRecoverable = true
  argument : ∀ resumeFrom, o.called = some resumeFrom →
    resumeFrom = if o.reason.isResumable then some o.session else none
  uncalled : o.called = none → o.attempts = []
  start : ∀ n record, o.attempts[n]? = some record → .startCall ∈ record.log →
    o.called = some none ∨ ∃ earlier ∈ o.attempts.take (n + 1), Refused config o.called earlier
  never : o.attempts.Pairwise fun earlier later =>
    Refused config o.called earlier ∨ .startCall ∈ earlier.log →
      later.log.countP isResumeCall = 0
  once : ∀ record ∈ o.attempts,
    record.log.countP isResumeCall ≤ 1 ∧ record.log.countP isStartCall ≤ 1
  adopts : o.result = some .ok → (stepsOf o.attempts).countP isAdopt = 1
  adopts_none : ∀ e, o.result = some (.err e) → (stepsOf o.attempts).countP isAdopt = 0

/-- The same with the limit on the attempts. -/
structure ResumesFirst (config : ReconnectConfig) (o : Outage) : Prop extends Orderly config o where
  limit : 0 < config.maxAttempts → o.attempts.length ≤ config.maxAttempts.toNat

/-! ## One attempt -/

section Rounds

variable {config : ReconnectConfig} {a : Attempt} {r r' : Reconnecting} {round : Round}
  {calls : List ReconnectStep}

lemma TurnsToStart.countP (h : TurnsToStart config a r calls) :
    calls.countP isResumeCall ≤ 1 ∧ calls.countP isStartCall = 0 ∧ calls.countP isAdopt = 0 := by
  cases h with
  | absent => simp
  | refused => simp [isResumeCall, isStartCall, isAdopt]

/-- What an attempt says of the session when it turns to `start_session`. -/
lemma TurnsToStart.of_mem (h : TurnsToStart config a r calls) :
    r.resumeFrom = none ∨ ∃ session, r.resumeFrom = some session ∧ .resumeCall session.id ∈ calls ∧
      Definite config a session := by
  cases h with
  | absent hfrom => exact .inl hfrom
  | refused hfrom hdefinite => exact .inr ⟨_, hfrom, by simp, hdefinite⟩

/-- The kinds of an attempt: it tried no new session, or it turned to one. -/
lemma RoundSpec.log_cases (h : RoundSpec config a r round) :
    (∃ rest, round.log = announce r a :: rest ∧ rest.countP isStartCall = 0 ∧
      rest.countP isResumeCall ≤ 1 ∧ (0 < rest.countP isResumeCall → r.resumeFrom ≠ none)) ∨
    ∃ calls rest, TurnsToStart config a r calls ∧
      round.log = announce r a :: (calls ++ .startCall :: rest) ∧
      rest.countP isStartCall = 0 ∧ rest.countP isResumeCall = 0 := by
  cases h with
  | shutdown => exact .inl ⟨[], rfl, by simp, by simp, by simp⟩
  | resumed hfrom => exact .inl ⟨_, rfl, rfl, Nat.le_refl 1, by simp [hfrom]⟩
  | resumeLater hfrom =>
    rw [log_backOff]
    exact .inl ⟨_, rfl, by simp [isStartCall], by simp [isResumeCall], by simp [hfrom]⟩
  | started _ hcalls => exact .inr ⟨_, _, hcalls, rfl, rfl, rfl⟩
  | startFailed _ hcalls => exact .inr ⟨_, [], hcalls, rfl, rfl, rfl⟩
  | startLater _ hcalls =>
    rw [log_backOff]
    exact .inr ⟨_, [], hcalls, rfl, rfl, rfl⟩

/-- One call of each kind at most. -/
lemma RoundSpec.once (h : RoundSpec config a r round) :
    round.log.countP isResumeCall ≤ 1 ∧ round.log.countP isStartCall ≤ 1 := by
  rcases h.log_cases with
    ⟨rest, hlog, hstart, hresume, -⟩ | ⟨calls, rest, hcalls, hlog, hstart, hresume⟩
  · rw [hlog]
    simp [announce, isResumeCall, isStartCall, hstart, hresume]
  · obtain ⟨hresume', hstart', -⟩ := hcalls.countP
    rw [hlog]
    simp [announce, isResumeCall, isStartCall, List.countP_cons, hstart, hresume, hstart', hresume']

/-- A new session is started only where there is none to resume. -/
lemma RoundSpec.of_start (h : RoundSpec config a r round) (hstart : .startCall ∈ round.log) :
    r.resumeFrom = none ∨ ∃ session, r.resumeFrom = some session ∧
      .resumeCall session.id ∈ round.log ∧ Definite config a session := by
  rcases h.log_cases with ⟨rest, hlog, hnone, -⟩ | ⟨calls, rest, hcalls, hlog, -⟩
  · rw [hlog, List.mem_cons] at hstart
    rcases hstart with hstart | hstart
    · cases hstart
    · exact absurd rfl (List.countP_eq_zero.mp hnone _ hstart)
  · refine hcalls.of_mem.imp_right ?_
    rintro ⟨session, hfrom, hcall, hdefinite⟩
    refine ⟨session, hfrom, ?_, hdefinite⟩
    rw [hlog]
    exact List.mem_cons_of_mem _ (List.mem_append_left _ hcall)

/-- Nothing to resume, nothing resumed. -/
lemma RoundSpec.no_resume (h : RoundSpec config a r round) (hfrom : r.resumeFrom = none) :
    round.log.countP isResumeCall = 0 := by
  rcases h.log_cases with ⟨rest, hlog, -, -, hresume⟩ | ⟨calls, rest, hcalls, hlog, -, hresume⟩
  · have hzero : rest.countP isResumeCall = 0 := by
      by_contra hne
      exact hresume (Nat.pos_of_ne_zero hne) hfrom
    rw [hlog]
    simpa [announce, isResumeCall] using List.countP_eq_zero.mp hzero
  · cases hcalls with
    | absent =>
      rw [hlog]
      simpa [announce, isResumeCall] using List.countP_eq_zero.mp hresume
    | refused hsome => simp [hfrom] at hsome

/-- The loop goes on with the session still to be resumed, or after it was given up. -/
lemma RoundSpec.again_cases (h : RoundSpec config a r (.again r')) :
    (∃ session, r.resumeFrom = some session ∧ r'.resumeFrom = some session ∧
      .startCall ∉ r'.log ∧ ¬ Definite config a session) ∨
    (r'.resumeFrom = none ∧ .startCall ∈ r'.log) := by
  generalize hround : Round.again r' = round at h
  cases h with
  | shutdown | resumed | started | startFailed => cases hround
  | @resumeLater session e hfrom _ hres he =>
    refine .inl ⟨session, hfrom, ?_⟩
    rcases backOff_cases config _ with ⟨-, heq⟩ | ⟨-, heq⟩
    · rw [heq] at hround
      cases hround
      refine ⟨hfrom, by simp [announce], ?_⟩
      rintro (hnone | ⟨e', he', hfinal⟩)
      · simp [hres] at hnone
      · rw [hres] at he'
        cases he'
        simp [he] at hfinal
    · rw [heq] at hround
      cases hround
  | startLater =>
    refine .inr ?_
    rcases backOff_cases config _ with ⟨-, heq⟩ | ⟨-, heq⟩
    · rw [heq] at hround
      cases hround
      exact ⟨rfl, by simp⟩
    · rw [heq] at hround
      cases hround

lemma RoundSpec.adopts_ok {log : List ReconnectStep}
    (h : RoundSpec config a r (.finished .ok log)) :
    log.countP isAdopt = 1 := by
  generalize hround : Round.finished .ok log = round at h
  cases h with
  | shutdown | startFailed => cases hround
  | resumed =>
    cases hround
    simp [announce, isAdopt, List.countP_cons]
  | started _ hcalls =>
    cases hround
    simp [announce, isAdopt, List.countP_cons, hcalls.countP.2.2]
  | resumeLater | startLater => exact absurd hround.symm (backOff_ne_ok _ _ _)

/-- No session is installed by an attempt that does not succeed. -/
lemma RoundSpec.adopts_none (h : RoundSpec config a r round)
    (hround : ∀ log, round ≠ .finished .ok log) : round.log.countP isAdopt = 0 := by
  cases h with
  | shutdown => simp [Round.log, announce, isAdopt]
  | resumed | started => exact absurd rfl (hround _)
  | resumeLater =>
    rw [log_backOff]
    simp [announce, isAdopt]
  | startFailed _ hcalls =>
    simpa [Round.log, announce, isAdopt] using List.countP_eq_zero.mp hcalls.countP.2.2
  | startLater _ hcalls =>
    rw [log_backOff]
    simpa [announce, isAdopt] using List.countP_eq_zero.mp hcalls.countP.2.2

end Rounds

/-! ## Whole outages -/

section Outages

variable {config : ReconnectConfig} {s s' : Watch} {l : Label} {r r' : Reconnecting} {o : Outage}
  {a : Attempt} {round : Round}

/-- What the loop knows while it has not ended. -/
structure Trying (config : ReconnectConfig) (r : Reconnecting) (o : Outage) : Prop where
  orderly : Orderly config o
  unended : o.result = none
  unadopted : (stepsOf o.attempts).countP isAdopt = 0
  pending : ∀ session, r.resumeFrom = some session → o.called = some (some session) ∧
    ∀ record ∈ o.attempts, ¬ Refused config o.called record ∧ .startCall ∉ record.log
  given_up : r.resumeFrom = none →
    o.called = some none ∨ ∃ record ∈ o.attempts, Refused config o.called record

lemma countP_stepsOf_concat (attempts : List AttemptRecord) (record : AttemptRecord) :
    (stepsOf (attempts ++ [record])).countP isAdopt =
      (stepsOf attempts).countP isAdopt + record.log.countP isAdopt := by
  simp [stepsOf]

/-- The refusal that an attempt meets is one of the call it belongs to. -/
lemma Trying.refused (h : Trying config r o) {session : OpenedSession} {log : List ReconnectStep}
    (hfrom : r.resumeFrom = some session) (hcall : .resumeCall session.id ∈ log)
    (hdefinite : Definite config a session) : Refused config o.called ⟨a, log⟩ :=
  ⟨session, (h.pending session hfrom).1, hcall, hdefinite⟩

/-- An attempt keeps the order. -/
lemma Trying.orderly_concat (h : Trying config r o)
    (hspec : RoundSpec config a (nextAttempt r) round) (result : Option ReconnectResult)
    (hok : result = some .ok → ∃ log, round = .finished .ok log)
    (herr : ∀ e, result = some (.err e) → ∀ log, round ≠ .finished .ok log) :
    Orderly config { o with attempts := o.attempts ++ [⟨a, round.log⟩], result } where
  recoverable := h.orderly.recoverable
  argument := h.orderly.argument
  uncalled hcalled := by
    cases hfrom : r.resumeFrom with
    | none =>
      rcases h.given_up hfrom with hnone | ⟨_, -, session, hsome, -⟩
      · simp [hnone] at hcalled
      · simp [hsome] at hcalled
    | some session => simp [(h.pending session hfrom).1] at hcalled
  start := by
    intro n record hn hstart
    rcases getElem?_of_concat hn with ⟨rfl, rfl⟩ | ⟨hlt, hn⟩
    · rw [List.take_of_length_le (by simp)]
      rcases hspec.of_start hstart with hfrom | ⟨session, hfrom, hcall, hdefinite⟩
      · refine (h.given_up hfrom).imp_right ?_
        rintro ⟨record, hmem, hrefused⟩
        exact ⟨record, List.mem_append_left _ hmem, hrefused⟩
      · exact .inr ⟨_, List.mem_append_right _ List.mem_cons_self,
          h.refused hfrom hcall hdefinite⟩
    · rw [List.take_append_of_le_length hlt]
      exact h.orderly.start n record hn hstart
  never := by
    refine List.pairwise_append.mpr ⟨h.orderly.never, List.pairwise_singleton _ _, ?_⟩
    intro earlier hearlier later hlater hgone
    rw [List.mem_singleton.mp hlater]
    cases hfrom : r.resumeFrom with
    | none => exact hspec.no_resume hfrom
    | some session =>
      obtain ⟨hrefused, hstart⟩ := (h.pending session hfrom).2 earlier hearlier
      exact absurd hgone (not_or.mpr ⟨hrefused, hstart⟩)
  once record hrecord := by
    rcases List.mem_append.mp hrecord with hrecord | hrecord
    · exact h.orderly.once record hrecord
    · rw [List.mem_singleton.mp hrecord]
      exact hspec.once
  adopts hresult := by
    obtain ⟨log, rfl⟩ := hok hresult
    rw [countP_stepsOf_concat, h.unadopted, Nat.zero_add]
    exact hspec.adopts_ok
  adopts_none e hresult := by
    rw [countP_stepsOf_concat, h.unadopted, Nat.zero_add]
    exact hspec.adopts_none (herr e hresult)

lemma Trying.again (h : Trying config r o)
    (hspec : RoundSpec config a (nextAttempt r) (.again r')) :
    Trying config r' { o with attempts := o.attempts ++ [⟨a, r'.log⟩] } := by
  have hround : ∀ log, Round.again r' ≠ .finished .ok log := by simp
  refine ⟨h.orderly_concat hspec _ (by simp [h.unended]) (by simp), h.unended, ?_, ?_, ?_⟩
  · rw [countP_stepsOf_concat, h.unadopted, Nat.zero_add]
    exact hspec.adopts_none hround
  · intro session hsession
    rcases hspec.again_cases with ⟨session', hfrom, hfrom', hstart, hdefinite⟩ | ⟨hnone, -⟩
    · obtain rfl : session' = session := by simpa [hfrom'] using hsession
      obtain ⟨hcalled, hbefore⟩ := h.pending session' hfrom
      refine ⟨hcalled, fun record hrecord => ?_⟩
      rcases List.mem_append.mp hrecord with hrecord | hrecord
      · exact hbefore record hrecord
      · rw [List.mem_singleton.mp hrecord]
        refine ⟨?_, hstart⟩
        rintro ⟨session, hsame, -, hrefusal⟩
        obtain rfl : session' = session := by simpa [hcalled] using hsame
        exact hdefinite hrefusal
    · simp [hnone] at hsession
  · intro hfrom'
    rcases hspec.again_cases with ⟨session, -, hsome, -⟩ | ⟨-, hstart⟩
    · simp [hfrom'] at hsome
    · rcases hspec.of_start hstart with hfrom | ⟨session, hfrom, hcall, hdefinite⟩
      · refine (h.given_up hfrom).imp_right ?_
        rintro ⟨record, hmem, hrefused⟩
        exact ⟨record, List.mem_append_left _ hmem, hrefused⟩
      · exact .inr ⟨_, List.mem_append_right _ List.mem_cons_self,
          h.refused hfrom hcall hdefinite⟩

/-- An outage in which `reconnect` was just called, or was not. -/
lemma Orderly.of_nil (hrecoverable : ∀ resumeFrom, o.called = some resumeFrom →
      o.reason.isRecoverable = true ∧
        resumeFrom = if o.reason.isResumable then some o.session else none)
    (hattempts : o.attempts = []) (hresult : o.result ≠ some .ok) : Orderly config o where
  recoverable resumeFrom hcalled := (hrecoverable resumeFrom hcalled).1
  argument resumeFrom hcalled := (hrecoverable resumeFrom hcalled).2
  uncalled _ := hattempts
  start := by simp [hattempts]
  never := by simp [hattempts]
  once := by simp [hattempts]
  adopts h := absurd h hresult
  adopts_none _ _ := by simp [hattempts, stepsOf]

/-- What holds of every state of the supervisor. -/
structure Answered (config : ReconnectConfig) (s : Watch) : Prop where
  past : ∀ o ∈ s.past, Orderly config o
  current : ∀ r o, s.phase = .reconnecting r o → Trying config r o

lemma Answered.step (h : Answered config s) (hstep : step config s l = some s') :
    Answered config s' := by
  have hpast : ∀ {o : Outage}, Orderly config o → ∀ o' ∈ s.past ++ [o], Orderly config o' := by
    intro o ho o' ho'
    rcases List.mem_append.mp ho' with ho' | ho'
    · exact h.past o' ho'
    · rwa [List.mem_singleton.mp ho']
  cases stepSpec_of_step hstep with
  | stop => exact ⟨h.past, by simp⟩
  | closed hphase =>
    unfold sessionClosed
    dsimp only
    split
    · next hrecoverable =>
      refine ⟨h.past, fun r o ho => ?_⟩
      cases ho
      refine ⟨.of_nil ?_ rfl (by simp), rfl, rfl, ?_, ?_⟩
      · intro resumeFrom hcalled
        exact ⟨hrecoverable, (Option.some_inj.mp hcalled).symm⟩
      · intro session hsession
        exact ⟨congrArg some hsession, by simp⟩
      · intro hnone
        exact .inl (congrArg some hnone)
    · exact ⟨hpast (.of_nil (by simp) rfl (by simp)), by simp⟩
  | @attempt r o a round hphase hlimit hspec =>
    have htrying := h.current r o hphase
    cases round with
    | again r' =>
      refine ⟨h.past, fun r₁ o₁ ho => ?_⟩
      cases ho
      exact htrying.again hspec
    | finished result log =>
      have horderly := hpast (htrying.orderly_concat hspec (some result) ?_ ?_)
      · cases result with
        | ok =>
          refine ⟨horderly, ?_⟩
          simp only [afterRound]
          cases log.findSome? ReconnectStep.adopted <;> simp
        | err | panicked => exact ⟨horderly, by simp [afterRound]⟩
      · intro hok
        cases hok
        exact ⟨log, rfl⟩
      · intro e herr log' hround
        cases herr
        cases hround
  | @exhaust r o hphase hlimit =>
    have htrying := h.current r o hphase
    refine ⟨hpast ?_, by simp⟩
    exact { htrying.orderly with
      adopts := by simp
      adopts_none := fun _ _ => htrying.unadopted }

theorem Answered.of_reachable {session : OpenedSession}
    (h : Reachable (Supervision.step config) free (Watch.new session) s) : Answered config s :=
  h.invariant ⟨by simp [Watch.new], by simp [Watch.new]⟩ fun _ _ _ hs hstep _ => hs.step hstep

lemma Answered.orderly (h : Answered config s) (ho : o ∈ s.outages) : Orderly config o := by
  rcases List.mem_append.mp ho with ho | ho
  · exact h.past o ho
  · cases hphase : s.phase with
    | reconnecting r o' =>
      rw [hphase] at ho
      rw [List.mem_singleton.mp ho]
      exact (h.current r o' hphase).orderly
    | watching | left | finished | panicked =>
      rw [hphase] at ho
      cases ho

end Outages

/-! ## The result -/

/-- With the largest limit, a run may pass it. -/
lemma exists_beyond_limit {config : ReconnectConfig} (session : OpenedSession)
    (hmax : config.maxAttempts = 4294967295)
    (hfits : ∀ n < 4294967295, 2 * config.ceilingAfter n ≤ durationMax) :
    ∃ s, Reachable (step config) free (Watch.new session) s ∧
      ∃ o ∈ s.outages, o.attempts.length = 4294967296 := by
  have hlimit : ∀ n < 4294967295, config.exhausted (UInt32.ofNat (n + 1)) = false :=
    fun n hn => exhausted_eq_false (.inr (by rw [hmax]; exact hn))
  obtain ⟨s, hs⟩ : ∃ s, Failing config session 4294967295 s := exists_failing hlimit hfits
  -- The count wraps, and zero is below the limit.
  have hwrap : config.exhausted (UInt32.ofNat (4294967295 + 1)) = false := by
    rw [ReconnectConfig.exhausted, hmax]
    decide
  obtain ⟨o, round, log, hlen, hstep, -⟩ := step_failingAttempt hs 0 hwrap
  obtain ⟨o', ho', hattempts⟩ := exists_mem_outages_afterRound config s o (failingAttempt 0) round
  refine ⟨_, hs.1.tail hstep trivial, o', ho', ?_⟩
  rw [hattempts, List.length_append, hlen, List.length_singleton]

/-- **When a resume is tried first and given up only on a definite answer.** In every run of the
supervisor every outage is answered so, within the limit on the attempts, if and only if that limit
is not `u32::MAX` or the backoff overflows before that many attempts. -/
theorem resumes_first_iff (config : ReconnectConfig) :
    (∀ session s, Reachable (step config) free (Watch.new session) s →
      ∀ o ∈ s.outages, ResumesFirst config o) ↔
    (config.maxAttempts ≠ 4294967295 ∨
      ∃ n < 4294967295, durationMax < 2 * config.ceilingAfter n) := by
  constructor
  · intro h
    by_contra hcon
    simp only [ne_eq, not_or, not_not, not_exists, not_and, Nat.not_lt] at hcon
    obtain ⟨hmax, hfits⟩ := hcon
    obtain ⟨s, hreach, o, ho, hlen⟩ := exists_beyond_limit ⟨"", 0⟩ hmax hfits
    have hlimit := (h _ s hreach o ho).limit
    rw [hmax, hlen] at hlimit
    exact absurd (hlimit (by decide)) (by decide)
  · intro hconfig session s hreach o ho
    have hpaced := (Kept.of_reachable hreach).paced ho
    refine ⟨(Answered.of_reachable hreach).orderly ho, fun hpos => ?_⟩
    by_cases hmax : config.maxAttempts = 4294967295
    · obtain ⟨n, hn, hbig⟩ := hconfig.resolve_left (not_not.mpr hmax)
      have hlen : ¬ n + 1 < o.attempts.length := fun hlt => by
        have := hpaced.fits n hlt
        omega
      rw [hmax]
      change o.attempts.length ≤ 4294967295
      omega
    · exact hpaced.limit hpos hmax

/-- As many attempts as a `u32` can count, without a pause. -/
def countlessConfig : ReconnectConfig :=
  { sampleReconnectConfig with maxAttempts := 4294967295, initialDelay := 0, maxDelay := 0 }

/-- **The largest limit is passed**: of 4294967295 attempts allowed, one more is made. -/
theorem largest_limit_passed :
    ∃ s, Reachable (step countlessConfig) free (Watch.new sampleSession) s ∧
      ∃ o ∈ s.outages, countlessConfig.maxAttempts.toNat < o.attempts.length ∧
        ¬ ResumesFirst countlessConfig o := by
  obtain ⟨s, hreach, o, ho, hlen⟩ := exists_beyond_limit sampleSession
    (show countlessConfig.maxAttempts = 4294967295 from rfl)
    (fun n _ => by simp [ReconnectConfig.ceilingAfter, countlessConfig])
  have hlimit : countlessConfig.maxAttempts.toNat < o.attempts.length := by
    rw [hlen]
    decide
  refine ⟨s, hreach, o, ho, hlimit, fun h => ?_⟩
  exact absurd (h.limit (by decide)) (Nat.not_le.mpr hlimit)

end SsmBridge.Supervision
