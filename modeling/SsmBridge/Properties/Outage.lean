import SsmBridge.Construction.Retry
import Mathlib.Tactic.Ring
import Mathlib.Tactic.Linarith

/-!
# Reconnecting through a network outage

During an outage every attempt of `reconnect` fails at the transport level: the AWS call gets no
response, or the data channel cannot be opened.  Such attempts should be waited out, and the session
resumed by the first attempt that gets through.

`resumes_after_outage_iff` says when it is.  A failed data channel is an `Error::Transport` or
`Error::Timeout` and is waited out.  An unanswered AWS call is an `Error::Aws` without a code, and
that is not retriable: the resume is abandoned although the service said nothing about the session.
The doubling of the backoff is the other way the loop can end: a `Duration` above half of
`Duration::MAX` cannot be doubled.
-/

namespace SsmBridge

/-! ## Failures at the transport level -/

/-- A failure of opening a data channel at the transport level. -/
def Error.isTransport : Error → Bool
  | .transport _ | .timeout _ => true
  | _ => false

/-- `ssm:ResumeSession` got a response. -/
def Attempt.answered (a : Attempt) : Bool :=
  match a.resumeCall with
  | .ok _ => true
  | .error e => e.answered

/-- The attempt fails to resume at the transport level: the call gets no response, or the data
channel cannot be opened. -/
def Attempt.CutOff (config : ReconnectConfig) (session : OpenedSession) (a : Attempt) : Prop :=
  ∃ e, resumeSession config a session = .error e ∧ (e.isTransport = true ∨ a.answered = false)

/-- The ceiling of the backoff after `n` attempts. -/
def ReconnectConfig.ceilingAfter (config : ReconnectConfig) (n : ℕ) : ℕ :=
  if n = 0 then config.initialDelay else min (config.initialDelay * 2 ^ n) config.maxDelay

/-- How many attempts a log announces. -/
def announced (log : List ReconnectStep) : ℕ :=
  log.countP (fun s => s matches .event (.reconnecting _ _))

/-- The loop resumes this session with its `n`-th attempt, and no attempt tries anything else. -/
def ResumesAt (config : ReconnectConfig) (session : OpenedSession) (tape : List Attempt)
    (r : Reconnecting) (n : ℕ) : Prop :=
  ∃ log, reconnectLoop config tape r = some (.ok, log) ∧
    ReconnectStep.adopt session ∈ log ∧ ReconnectStep.startCall ∉ log ∧ announced log = n

/-- The log an attempt leaves. -/
def Round.log : Round → List ReconnectStep
  | .again r => r.log
  | .finished _ log => log

section Rounds

variable {config : ReconnectConfig} {session : OpenedSession} {a : Attempt} {r r' : Reconnecting}
  {result : ReconnectResult} {log : List ReconnectStep} {tape : List Attempt}

/-- A session that was resumed had a valid configuration. -/
lemma validate_of_resumeSession {s : Option OpenedSession}
    (h : resumeSession config a session = .ok s) : config.validate = .ok () := by
  unfold resumeSession at h
  cases hv : config.validate with
  | error e => simp [hv] at h
  | ok u => rfl

/-- An attempt that is cut off either fails to open the channel, or gets no response and so an
error without a code. -/
lemma Attempt.CutOff.cases (hvalid : config.validate = .ok ()) (h : a.CutOff config session) :
    (a.answered = true ∧ ∃ e, resumeSession config a session = .error e ∧ e.isRetriable = true) ∨
      (a.answered = false ∧
        ∃ e, resumeSession config a session = .error e ∧ e.isRetriable = false) := by
  obtain ⟨e, he, hcut⟩ := h
  cases hcall : a.resumeCall with
  | error sdk =>
    have hres : resumeSession config a session = .error (.ofSdkError sdk) := by
      simp only [resumeSession, hvalid, hcall]
    have hsdk : sdk.answered = false := by
      rcases hcut with htransport | hanswered
      · rw [hres] at he
        cases he
        cases htransport
      · simpa [Attempt.answered, hcall] using hanswered
    refine .inr ⟨by simpa [Attempt.answered, hcall] using hsdk, _, hres, ?_⟩
    simp [Error.ofSdkError, Error.isRetriable, sdk.code_of_unanswered hsdk]
  | ok response =>
    have hanswered : a.answered = true := by simp [Attempt.answered, hcall]
    refine .inl ⟨hanswered, e, he, ?_⟩
    have htransport : e.isTransport = true := by simpa [hanswered] using hcut
    cases e <;> simp_all [Error.isTransport, Error.isRetriable]

/-! ## The log only grows -/

lemma log_backOff : (backOff config r).log = r.log := by
  unfold backOff
  split <;> rfl

lemma log_startRound : r.log ++ [.startCall] <+: (startRound config a r).log := by
  unfold startRound
  cases a.startSession with
  | ok s => exact List.prefix_append _ _
  | error e =>
    dsimp only
    split
    · simp only [log_backOff, List.prefix_rfl]
    · exact List.prefix_rfl

lemma log_startRound_of_none {r' : Reconnecting} (hlog : r.log <+: r'.log) :
    r.log <+: (startRound config a r').log :=
  hlog.trans ((List.prefix_append _ _).trans log_startRound)

lemma log_resumeRound (r : Reconnecting) : r.log <+: (resumeRound config a r).log := by
  unfold resumeRound
  split
  · exact log_startRound_of_none List.prefix_rfl
  · dsimp only
    have hcall : ∀ step, r.log <+: r.log ++ [step] := fun step => List.prefix_append _ _
    split
    · exact (hcall _).trans (List.prefix_append _ _)
    · exact log_startRound_of_none (hcall _)
    · split
      · rw [log_backOff]
        exact hcall _
      · exact log_startRound_of_none (hcall _)

lemma log_reconnectRound (r : Reconnecting) : r.log <+: (reconnectRound config a r).log := by
  unfold reconnectRound
  dsimp only
  split
  · exact List.prefix_append _ _
  · refine List.IsPrefix.trans ?_ (log_resumeRound _)
    exact List.prefix_append _ _

lemma log_reconnectLoop (h : reconnectLoop config tape r = some (result, log)) :
    r.log <+: log := by
  induction tape generalizing r with
  | nil =>
    unfold reconnectLoop at h
    dsimp only at h
    split at h <;> cases h
    exact List.prefix_rfl
  | cons a rest ih =>
    unfold reconnectLoop at h
    dsimp only at h
    have hround : r.log <+: (reconnectRound config a { r with attempt := r.attempt + 1 }).log :=
      log_reconnectRound { r with attempt := r.attempt + 1 }
    split at h
    · cases h
      exact List.prefix_rfl
    · split at h
      · next r' hr' =>
        rw [hr'] at hround
        exact hround.trans (ih h)
      · next res log' hr' =>
        rw [hr'] at hround
        cases h
        exact hround

/-! ## One attempt of an outage -/

/-- Below the limit, an attempt is made. -/
lemma not_exhausted (h : config.maxAttempts = 0 ∨ r.attempt.toNat < config.maxAttempts.toNat) :
    config.exhausted (r.attempt + 1) = false := by
  rcases h with h | h
  · simp [ReconnectConfig.exhausted, h]
  · have hlt := config.maxAttempts.toNat_lt
    have hnext : (r.attempt + 1).toNat = r.attempt.toNat + 1 := by
      rw [UInt32.toNat_add, UInt32.toNat_one, Nat.mod_eq_of_lt (by omega)]
    simp only [ReconnectConfig.exhausted, Bool.and_eq_false_iff, decide_eq_false_iff_not,
      UInt32.lt_iff_toNat_lt, hnext]
    omega

/-- What is left of the limit after an attempt. -/
lemma next_below_limit {n : ℕ}
    (h : config.maxAttempts = 0 ∨ r.attempt.toNat + (n + 1) < config.maxAttempts.toNat) :
    config.maxAttempts = 0 ∨ (r.attempt + 1).toNat + n < config.maxAttempts.toNat := by
  refine h.imp_right fun h => ?_
  have hlt := config.maxAttempts.toNat_lt
  rw [UInt32.toNat_add, UInt32.toNat_one, Nat.mod_eq_of_lt (by omega)]
  omega

/-- The loop after an attempt that tried to resume and goes on with this ceiling. -/
def Reconnecting.tried (r : Reconnecting) (session : OpenedSession) (a : Attempt) (ceiling : ℕ) :
    Reconnecting :=
  { r with
    attempt := r.attempt + 1
    ceiling
    log := r.log ++ [.event (.reconnecting (r.attempt + 1) (jitter r.ceiling a.sample)),
      .resumeCall session.id] }

/-- A failed data channel is waited out. -/
lemma reconnectLoop_of_retriable {e : Error} (hlimit : config.exhausted (r.attempt + 1) = false)
    (hshutdown : a.shutdown = false) (hfrom : r.resumeFrom = some session)
    (he : resumeSession config a session = .error e) (hretry : e.isRetriable = true) :
    reconnectLoop config (a :: tape) r =
      if 2 * r.ceiling ≤ durationMax then
        reconnectLoop config tape (r.tried session a (min (2 * r.ceiling) config.maxDelay))
      else some (.panicked, (r.tried session a r.ceiling).log) := by
  rw [reconnectLoop]
  simp only [hlimit, reconnectRound, resumeRound, hshutdown, hfrom, he, hretry, backOff,
    Bool.false_eq_true, if_false, if_true, Reconnecting.tried, List.append_assoc,
    List.cons_append, List.nil_append]
  split_ifs <;> rfl

/-- An unanswered call abandons the resume. -/
lemma reconnectLoop_of_permanent {e : Error} (hlimit : config.exhausted (r.attempt + 1) = false)
    (hshutdown : a.shutdown = false) (hfrom : r.resumeFrom = some session)
    (he : resumeSession config a session = .error e) (hretry : e.isRetriable = false) {n : ℕ} :
    ¬ ResumesAt config session (a :: tape) r n := by
  rintro ⟨log, hrun, -, hstart, -⟩
  rw [reconnectLoop] at hrun
  simp only [hlimit, reconnectRound, resumeRound, hshutdown, hfrom, he, hretry,
    Bool.false_eq_true, if_false] at hrun
  generalize hr : ({ attempt := r.attempt + 1, ceiling := r.ceiling, resumeFrom := none, log := _ } :
    Reconnecting) = r' at hrun
  have hcall : ReconnectStep.startCall ∈ (startRound config a r').log :=
    log_startRound.mem (by simp)
  cases hround : startRound config a r' with
  | again next =>
    rw [hround] at hrun hcall
    exact hstart ((log_reconnectLoop hrun).mem hcall)
  | finished result log' =>
    rw [hround] at hrun hcall
    cases hrun
    exact hstart hcall

/-- The attempt that gets through ends the loop. -/
lemma reconnectLoop_of_resumed (hlimit : config.exhausted (r.attempt + 1) = false)
    (hshutdown : a.shutdown = false) (hfrom : r.resumeFrom = some session)
    (hopen : resumeSession config a session = .ok (some session)) :
    reconnectLoop config (a :: tape) r = some (.ok, (r.tried session a r.ceiling).log ++
      [.adopt session, .event (.resumed session.id (r.attempt + 1))]) := by
  rw [reconnectLoop]
  simp [hlimit, reconnectRound, resumeRound, hshutdown, hfrom, hopen, Reconnecting.tried]

/-! ## A whole outage -/

/-- The ceilings an outage of this length goes through can all be doubled. -/
def BackoffFits (config : ReconnectConfig) : ℕ → ℕ → Prop
  | _, 0 => True
  | ceiling, n + 1 =>
      2 * ceiling ≤ durationMax ∧ BackoffFits config (min (2 * ceiling) config.maxDelay) n

lemma announced_tried (c : ℕ) : announced (r.tried session a c).log = announced r.log + 1 := by
  simp [announced, Reconnecting.tried]

lemma resumesAt_iff {failed rest : List Attempt} {last : Attempt}
    (hlimit : config.maxAttempts = 0 ∨ r.attempt.toNat + failed.length < config.maxAttempts.toNat)
    (hfrom : r.resumeFrom = some session) (hstart : ReconnectStep.startCall ∉ r.log)
    (hfailed : ∀ a ∈ failed, a.CutOff config session ∧ a.shutdown = false)
    (hopen : resumeSession config last session = .ok (some session))
    (hshutdown : last.shutdown = false) :
    ResumesAt config session (failed ++ last :: rest) r (announced r.log + failed.length + 1) ↔
      (∀ a ∈ failed, a.answered = true) ∧ BackoffFits config r.ceiling failed.length := by
  have hvalid := validate_of_resumeSession hopen
  induction failed generalizing r with
  | nil =>
    have hlimit' := not_exhausted (by simpa using hlimit)
    refine iff_of_true ⟨_, reconnectLoop_of_resumed hlimit' hshutdown hfrom hopen, ?_⟩
      ⟨by simp, trivial⟩
    simp [Reconnecting.tried, announced, hstart]
  | cons a failed ih =>
    have hlimit' : config.maxAttempts = 0 ∨ r.attempt.toNat < config.maxAttempts.toNat := by
      refine hlimit.imp_right fun h => ?_
      rw [List.length_cons] at h
      omega
    obtain ⟨hcut, hup⟩ := hfailed a List.mem_cons_self
    have hrest : ∀ a ∈ failed, a.CutOff config session ∧ a.shutdown = false :=
      fun b hb => hfailed b (List.mem_cons_of_mem _ hb)
    rcases hcut.cases hvalid with ⟨hanswered, e, he, hretry⟩ | ⟨hanswered, e, he, hretry⟩
    · rw [List.cons_append, ResumesAt,
        reconnectLoop_of_retriable (not_exhausted hlimit') hup hfrom he hretry]
      by_cases hfit : 2 * r.ceiling ≤ durationMax
      · have hnext := ih (r := r.tried session a (min (2 * r.ceiling) config.maxDelay))
          (next_below_limit hlimit) hfrom (by simpa [Reconnecting.tried] using hstart) hrest
        have hcount : announced r.log + (a :: failed).length + 1 =
            announced r.log + 1 + failed.length + 1 := by
          rw [List.length_cons]
          omega
        rw [announced_tried] at hnext
        rw [if_pos hfit, hcount, List.forall_mem_cons, List.length_cons, BackoffFits,
          eq_true hanswered, eq_true hfit, true_and, true_and]
        exact hnext
      · refine iff_of_false ?_ fun h => hfit h.2.1
        rintro ⟨log, hrun, -⟩
        rw [if_neg hfit] at hrun
        cases hrun
    · refine iff_of_false ?_ fun h => ?_
      · exact reconnectLoop_of_permanent (not_exhausted hlimit') hup hfrom he hretry
      · simp [h.1 a List.mem_cons_self] at hanswered

end Rounds

/-! ## The condition on the configuration -/

/-- Doubling and capping, `n` times over. -/
lemma min_double_min {c m n : ℕ} : min (2 * min (c * 2 ^ n) m) m = min (c * 2 ^ (n + 1)) m := by
  have hpow : c * 2 ^ (n + 1) = 2 * (c * 2 ^ n) := by ring
  rw [hpow]
  omega

lemma backoffFits_capped_iff {config : ReconnectConfig} {k n : ℕ} :
    BackoffFits config (min (config.initialDelay * 2 ^ (k + 1)) config.maxDelay) n ↔
      ∀ i < n, 2 * config.ceilingAfter (k + 1 + i) ≤ durationMax := by
  induction n generalizing k with
  | zero => simp [BackoffFits]
  | succ n ih =>
    rw [BackoffFits, min_double_min, ih]
    constructor
    · rintro ⟨hfirst, hlater⟩ i hi
      cases i with
      | zero => simpa [ReconnectConfig.ceilingAfter] using hfirst
      | succ i =>
        rw [show k + 1 + (i + 1) = k + 1 + 1 + i by omega]
        exact hlater i (by omega)
    · intro h
      refine ⟨by simpa [ReconnectConfig.ceilingAfter] using h 0 (by omega), fun i hi => ?_⟩
      have := h (i + 1) (by omega)
      rwa [show k + 1 + (i + 1) = k + 1 + 1 + i by omega] at this

/-- The ceilings of an outage, in terms of the configuration. -/
lemma backoffFits_iff {config : ReconnectConfig} {n : ℕ} :
    BackoffFits config config.initialDelay n ↔
      ∀ i < n, 2 * config.ceilingAfter i ≤ durationMax := by
  cases n with
  | zero => simp [BackoffFits]
  | succ n =>
    have hfirst : min (2 * config.initialDelay) config.maxDelay =
        min (config.initialDelay * 2 ^ (0 + 1)) config.maxDelay := by
      rw [Nat.mul_comm 2, Nat.zero_add, Nat.pow_one]
    rw [BackoffFits, hfirst, backoffFits_capped_iff]
    constructor
    · rintro ⟨h₀, hlater⟩ i hi
      cases i with
      | zero => simpa [ReconnectConfig.ceilingAfter] using h₀
      | succ i =>
        rw [show i + 1 = 0 + 1 + i by omega]
        exact hlater i (by omega)
    · intro h
      refine ⟨by simpa [ReconnectConfig.ceilingAfter] using h 0 (by omega), fun i hi => ?_⟩
      rw [show 0 + 1 + i = i + 1 by omega]
      exact h (i + 1) (by omega)

/-! ## The result -/

/-- `reconnect` resumes this session with its `n`-th attempt, and no attempt tries anything else. -/
def ReconnectResumesAt (config : ReconnectConfig) (session : OpenedSession) (tape : List Attempt)
    (n : ℕ) : Prop :=
  ∃ log, reconnect config (some session) tape = some (.ok, log) ∧
    ReconnectStep.adopt session ∈ log ∧ ReconnectStep.startCall ∉ log ∧ announced log = n

/-- **An outage is outlasted exactly when every call was answered.** Let the first attempts be cut
off, fewer than the limit allows, and the next one get through.  Then that attempt resumes the
session, with nothing else tried before, if and only if `ssm:ResumeSession` was answered in each of
the failed attempts and the backoff stayed within half of `Duration::MAX`. -/
theorem resumes_after_outage_iff (config : ReconnectConfig) (session : OpenedSession)
    (failed : List Attempt) (last : Attempt) (rest : List Attempt)
    (hlimit : config.maxAttempts = 0 ∨ failed.length < config.maxAttempts.toNat)
    (hfailed : ∀ a ∈ failed, a.CutOff config session ∧ a.shutdown = false)
    (hopen : resumeSession config last session = .ok (some session))
    (hshutdown : last.shutdown = false) :
    ReconnectResumesAt config session (failed ++ last :: rest) (failed.length + 1) ↔
      (∀ a ∈ failed, a.answered = true) ∧
        ∀ i < failed.length, 2 * config.ceilingAfter i ≤ durationMax := by
  have hiff : ResumesAt config session (failed ++ last :: rest)
      ⟨0, config.initialDelay, some session, []⟩ (announced [] + failed.length + 1) ↔ _ :=
    resumesAt_iff (by simpa using hlimit) rfl (by simp) hfailed hopen hshutdown
  rw [← backoffFits_iff, ← hiff]
  simp [ReconnectResumesAt, ResumesAt, reconnect, announced]

/-- The default settings. -/
def sampleReconnectConfig : ReconnectConfig where
  maxAttempts := 10
  initialDelay := 10 ^ 9
  maxDelay := 60 * 10 ^ 9
  target := "i-0123456789abcdef0"
  validate := .ok ()

/-- The session that was lost. -/
def sampleSession : OpenedSession := ⟨"session-1", 0⟩

/-- The service answers and the data channel opens. -/
def throughAttempt : Attempt where
  sample := 0
  shutdown := false
  resumeCall := .ok ⟨some "wss://ssmmessages", some "token"⟩
  openResumed := .ok ()
  startSession := .error (.config "unused")

/-- The service answers and the data channel cannot be opened. -/
def refusedAttempt : Attempt :=
  { throughAttempt with openResumed := .error (.transport "could not open the SSM WebSocket") }

/-- Neither call gets a response. -/
def unansweredAttempt : Attempt :=
  { throughAttempt with
    resumeCall := .error ⟨false, none, none, "DispatchFailure", fun _ => rfl⟩
    startSession := .error (.ofSdkError ⟨false, none, none, "DispatchFailure", fun _ => rfl⟩) }

theorem resumes_after_outage_refused :
    ReconnectResumesAt sampleReconnectConfig sampleSession
      [refusedAttempt, refusedAttempt, throughAttempt] 3 :=
  (resumes_after_outage_iff sampleReconnectConfig sampleSession [refusedAttempt, refusedAttempt]
    throughAttempt [] (.inr (by decide))
    (fun a ha => ⟨⟨.transport "could not open the SSM WebSocket", by
      simp only [List.mem_cons, List.not_mem_nil, or_false, or_self] at ha
      subst ha
      exact ⟨rfl, .inl rfl⟩⟩, by
      simp only [List.mem_cons, List.not_mem_nil, or_false, or_self] at ha
      subst ha
      rfl⟩) rfl rfl).mpr ⟨by decide, by decide⟩

/-- **A short outage loses the session.** With the default settings, one unanswered
`ssm:ResumeSession` gives the session up for a new one, and when `ssm:StartSession` is not answered
either, the loop ends at its first attempt, although the next one would have resumed. -/
theorem unanswered_call_ends_reconnect :
    (sampleReconnectConfig.maxAttempts = 0 ∨ 1 < sampleReconnectConfig.maxAttempts.toNat) ∧
    unansweredAttempt.CutOff sampleReconnectConfig sampleSession ∧
    resumeSession sampleReconnectConfig throughAttempt sampleSession = .ok (some sampleSession) ∧
    reconnect sampleReconnectConfig (some sampleSession) [unansweredAttempt, throughAttempt] =
      some (.err (.aws "DispatchFailure" none),
        [.event (.reconnecting 1 0), .resumeCall "session-1", .startCall]) ∧
    ¬ ReconnectResumesAt sampleReconnectConfig sampleSession [unansweredAttempt, throughAttempt]
      2 := by
  refine ⟨.inr (by decide), ⟨_, rfl, .inr rfl⟩, rfl, rfl, ?_⟩
  rintro ⟨log, hrun, -, hstart, -⟩
  cases hrun

end SsmBridge
