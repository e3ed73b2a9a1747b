import SsmBridge.Construction.Supervision
import SsmBridge.Properties.Outage

/-!
# The backoff and its cap

Before each attempt `reconnect` sleeps a random time below a ceiling, which starts at
`initial_delay` and is doubled, up to `max_delay`, after each failed attempt.

`Kept` follows the attempts of every outage: their numbers, their delays and their ceilings, the
attempt with index `n` having the ceiling `ceilingAfter n`.  `backoff_respects_cap_iff` says when
the delays stay below the cap and no product of durations overflows.  The first ceiling is
`initial_delay` itself, which nothing compares with `max_delay`, and the product is taken before the
minimum with `max_delay`.
-/

namespace SsmBridge.Supervision

open Machine

section Rounds

variable {config : ReconnectConfig} {a : Attempt} {r r' : Reconnecting} {round : Round}

/-! ## What an attempt logs and leaves -/

/-- A failed attempt is followed by another one, or the product overflows. -/
lemma backOff_cases (config : ReconnectConfig) (r : Reconnecting) :
    (2 * r.ceiling ≤ durationMax ∧
      backOff config r = .again { r with ceiling := min (2 * r.ceiling) config.maxDelay }) ∨
    (durationMax < 2 * r.ceiling ∧ backOff config r = .finished .panicked r.log) := by
  unfold backOff
  split
  · next h => exact .inl ⟨h, rfl⟩
  · next h => exact .inr ⟨by omega, rfl⟩

lemma backOff_ne_ok (config : ReconnectConfig) (r : Reconnecting) (log : List ReconnectStep) :
    backOff config r ≠ .finished .ok log := by
  rcases backOff_cases config r with ⟨-, heq⟩ | ⟨-, heq⟩ <;> simp [heq]

lemma backOff_ne_err (config : ReconnectConfig) (r : Reconnecting) (e : Error)
    (log : List ReconnectStep) : backOff config r ≠ .finished (.err e) log := by
  rcases backOff_cases config r with ⟨-, heq⟩ | ⟨-, heq⟩ <;> simp [heq]

/-- The steps that announce an attempt. -/
def isAnnouncement : ReconnectStep → Bool
  | .event (.reconnecting _ _) => true
  | _ => false

lemma TurnsToStart.not_announcement {calls : List ReconnectStep} (h : TurnsToStart config a r calls)
    {step : ReconnectStep} (hstep : step ∈ calls) : isAnnouncement step = false := by
  cases h with
  | absent => simp at hstep
  | refused =>
    rw [List.mem_singleton] at hstep
    rw [hstep]
    rfl

/-- An attempt is announced once, before anything else. -/
lemma RoundSpec.log_eq (h : RoundSpec config a r round) :
    ∃ rest, round.log = announce r a :: rest ∧ ∀ step ∈ rest, isAnnouncement step = false := by
  cases h with
  | shutdown => exact ⟨[], rfl, by simp⟩
  | resumed => exact ⟨_, rfl, by simp [isAnnouncement]⟩
  | resumeLater =>
    rw [log_backOff]
    exact ⟨_, rfl, by simp [isAnnouncement]⟩
  | @started calls session _ hcalls _ =>
    refine ⟨_, rfl, fun step hstep => ?_⟩
    rcases List.mem_append.mp hstep with hstep | hstep
    · exact hcalls.not_announcement hstep
    · simp only [List.mem_cons, List.not_mem_nil, or_false] at hstep
      rcases hstep with rfl | rfl | rfl <;> rfl
  | @startFailed calls e _ hcalls _ _ =>
    refine ⟨_, rfl, fun step hstep => ?_⟩
    rcases List.mem_append.mp hstep with hstep | hstep
    · exact hcalls.not_announcement hstep
    · rw [List.mem_singleton.mp hstep]
      rfl
  | @startLater calls e _ hcalls _ _ =>
    rw [log_backOff]
    refine ⟨_, rfl, fun step hstep => ?_⟩
    rcases List.mem_append.mp hstep with hstep | hstep
    · exact hcalls.not_announcement hstep
    · rw [List.mem_singleton.mp hstep]
      rfl

/-- The loop goes on with the same count and the doubled ceiling. -/
lemma RoundSpec.of_again (h : RoundSpec config a r (.again r')) :
    2 * r.ceiling ≤ durationMax ∧ r'.attempt = r.attempt ∧
      r'.ceiling = min (2 * r.ceiling) config.maxDelay := by
  generalize hround : Round.again r' = round at h
  cases h with
  | shutdown | resumed | started | startFailed => cases hround
  | resumeLater hfrom _ _ _ =>
    rcases backOff_cases config _ with ⟨hfits, heq⟩ | ⟨-, heq⟩
    · rw [heq] at hround
      cases hround
      exact ⟨hfits, rfl, rfl⟩
    · rw [heq] at hround
      cases hround
  | startLater _ _ _ _ =>
    rcases backOff_cases config _ with ⟨hfits, heq⟩ | ⟨-, heq⟩
    · rw [heq] at hround
      cases hround
      exact ⟨hfits, rfl, rfl⟩
    · rw [heq] at hround
      cases hround

/-- The task panics only where the ceiling cannot be doubled. -/
lemma RoundSpec.of_panicked {log : List ReconnectStep}
    (h : RoundSpec config a r (.finished .panicked log)) : durationMax < 2 * r.ceiling := by
  generalize hround : Round.finished .panicked log = round at h
  cases h with
  | shutdown | resumed | started | startFailed => cases hround
  | resumeLater | startLater =>
    rcases backOff_cases config _ with ⟨-, heq⟩ | ⟨hbig, -⟩
    · rw [heq] at hround
      cases hround
    · exact hbig

end Rounds

/-! ## The pace of an outage -/

/-- The ceiling of the next attempt. -/
lemma min_double_ceilingAfter (config : ReconnectConfig) (n : ℕ) :
    min (2 * config.ceilingAfter n) config.maxDelay = config.ceilingAfter (n + 1) := by
  cases n with
  | zero => simp [ReconnectConfig.ceilingAfter, Nat.mul_comm]
  | succ n => simpa [ReconnectConfig.ceilingAfter] using min_double_min

/-- The attempt with index `n` is announced under its number, with a delay below its ceiling. -/
def AnnouncedAs (config : ReconnectConfig) (n : ℕ) (record : AttemptRecord) : Prop :=
  ∃ rest, record.log = .event (.reconnecting (UInt32.ofNat (n + 1))
      (jitter (config.ceilingAfter n) record.attempt.sample)) :: rest ∧
    ∀ step ∈ rest, isAnnouncement step = false

/-- The limit on the attempts, where the counter cannot pass it by. -/
def WithinLimit (config : ReconnectConfig) (n : ℕ) : Prop :=
  0 < config.maxAttempts → config.maxAttempts ≠ 4294967295 → n ≤ config.maxAttempts.toNat

/-- What holds of the attempts of an outage. -/
structure Paced (config : ReconnectConfig) (o : Outage) : Prop where
  announced : ∀ n record, o.attempts[n]? = some record → AnnouncedAs config n record
  /-- Every attempt but the last was followed by a doubling. -/
  fits : ∀ n, n + 1 < o.attempts.length → 2 * config.ceilingAfter n ≤ durationMax
  limit : WithinLimit config o.attempts.length

/-- What the loop knows of the attempts before. -/
structure Pacing (config : ReconnectConfig) (r : Reconnecting) (o : Outage) : Prop where
  paced : Paced config o
  number : r.attempt = UInt32.ofNat o.attempts.length
  ceiling : r.ceiling = config.ceilingAfter o.attempts.length
  fits : ∀ n < o.attempts.length, 2 * config.ceilingAfter n ≤ durationMax
  below : 0 < config.maxAttempts → r.attempt ≤ config.maxAttempts

/-- What holds of every state of the supervisor. -/
structure Kept (config : ReconnectConfig) (s : Watch) : Prop where
  past : ∀ o ∈ s.past, Paced config o
  current : ∀ r o, s.phase = .reconnecting r o → Pacing config r o
  panicked : s.phase = .panicked → ∃ n, WithinLimit config (n + 1) ∧
    durationMax < 2 * config.ceilingAfter n

section Steps

variable {config : ReconnectConfig} {s s' : Watch} {l : Label} {r r' : Reconnecting} {o : Outage}
  {a : Attempt} {round : Round}

lemma toNat_succ_of_le {n m : UInt32} (h : n ≤ m) (hm : m ≠ 4294967295) :
    (n + 1).toNat = n.toNat + 1 := by
  have hlt : m.toNat ≠ 4294967295 := fun h => hm (UInt32.toNat_inj.mp h)
  have hle := UInt32.le_iff_toNat_le.mp h
  have := m.toNat_lt
  rw [UInt32.toNat_add, UInt32.toNat_one, Nat.mod_eq_of_lt (by omega)]

/-- Below the limit, the attempt that is made is within it. -/
lemma Pacing.next_within (h : Pacing config r o)
    (hlimit : config.exhausted (r.attempt + 1) = false) :
    WithinLimit config (o.attempts.length + 1) := by
  intro hpos hmax
  have hlen := h.paced.limit hpos hmax
  have hlt := config.maxAttempts.toNat_lt
  have hnumber : r.attempt.toNat = o.attempts.length := by
    rw [h.number, UInt32.toNat_ofNat', Nat.mod_eq_of_lt (by omega)]
  have hnext := toNat_succ_of_le (h.below hpos) hmax
  simp only [ReconnectConfig.exhausted, Bool.and_eq_false_iff, decide_eq_false_iff_not,
    UInt32.lt_iff_toNat_lt] at hlimit
  have hpos := UInt32.lt_iff_toNat_lt.mp hpos
  omega

/-- An attempt keeps the pace. -/
lemma Pacing.paced_concat (h : Pacing config r o)
    (hlimit : config.exhausted (r.attempt + 1) = false)
    (hspec : RoundSpec config a (nextAttempt r) round) (result : Option ReconnectResult) :
    Paced config { o with attempts := o.attempts ++ [⟨a, round.log⟩], result } where
  announced := by
    intro n record hn
    rcases getElem?_of_concat hn with ⟨rfl, rfl⟩ | ⟨-, hn⟩
    · obtain ⟨rest, hlog, hrest⟩ := hspec.log_eq
      refine ⟨rest, ?_, hrest⟩
      have hnumber : UInt32.ofNat (o.attempts.length + 1) = r.attempt + 1 := by
        rw [UInt32.ofNat_add, h.number]
        rfl
      rw [hlog, announce, nextAttempt, hnumber, h.ceiling]
    · exact h.paced.announced n record hn
  fits n hn := h.fits n (by simpa using hn)
  limit := by simpa using h.next_within hlimit

lemma Pacing.again (h : Pacing config r o) (hlimit : config.exhausted (r.attempt + 1) = false)
    (hspec : RoundSpec config a (nextAttempt r) (.again r')) :
    Pacing config r' { o with attempts := o.attempts ++ [⟨a, r'.log⟩] } := by
  obtain ⟨hfits, hattempt, hceiling⟩ := hspec.of_again
  have hlen : (o.attempts ++ [AttemptRecord.mk a r'.log]).length = o.attempts.length + 1 := by simp
  refine ⟨h.paced_concat hlimit hspec o.result, ?_, ?_, fun n hn => ?_, fun hpos => ?_⟩
  · rw [hlen, hattempt, nextAttempt, h.number, UInt32.ofNat_add]
    rfl
  · rw [hlen, hceiling, nextAttempt, h.ceiling, min_double_ceilingAfter]
  · rw [hlen] at hn
    rcases Nat.lt_succ_iff_lt_or_eq.mp hn with hn | rfl
    · exact h.fits n hn
    · rw [← h.ceiling]
      exact hfits
  · rw [hattempt]
    simpa [ReconnectConfig.exhausted, hpos, nextAttempt] using hlimit

lemma Kept.new (config : ReconnectConfig) (session : OpenedSession) :
    Kept config (Watch.new session) where
  past := by simp [Watch.new]
  current := by simp [Watch.new]
  panicked := by simp [Watch.new]

/-- An outage without an attempt. -/
lemma Paced.of_nil (h : o.attempts = []) : Paced config o where
  announced := by simp [h]
  fits := by simp [h]
  limit := fun _ _ => by simp [h]

lemma Kept.step (h : Kept config s) (hstep : step config s l = some s') : Kept config s' := by
  have hpast : ∀ {o : Outage}, Paced config o → ∀ o' ∈ s.past ++ [o], Paced config o' := by
    intro o ho o' ho'
    rcases List.mem_append.mp ho' with ho' | ho'
    · exact h.past o' ho'
    · rwa [List.mem_singleton.mp ho']
  cases stepSpec_of_step hstep with
  | stop => exact ⟨h.past, by simp, by simp⟩
  | closed hphase =>
    unfold sessionClosed
    dsimp only
    split
    · refine ⟨h.past, fun r o ho => ?_, by simp⟩
      cases ho
      exact ⟨.of_nil rfl, rfl, by simp [ReconnectConfig.ceilingAfter], by simp,
        fun _ => UInt32.le_iff_toNat_le.mpr (Nat.zero_le _)⟩
    · exact ⟨hpast (.of_nil rfl), by simp, by simp⟩
  | @attempt r o a round hphase hlimit hspec =>
    have hpacing := h.current r o hphase
    cases round with
    | again r' =>
      refine ⟨h.past, fun r₁ o₁ ho => ?_, by simp [afterRound]⟩
      cases ho
      exact hpacing.again hlimit hspec
    | finished result log =>
      have hpaced := hpast (hpacing.paced_concat hlimit hspec (some result))
      cases result with
      | ok =>
        refine ⟨hpaced, ?_, ?_⟩
        · simp only [afterRound]
          cases log.findSome? ReconnectStep.adopted <;> simp
        · simp only [afterRound]
          cases log.findSome? ReconnectStep.adopted <;> simp
      | err e => exact ⟨hpaced, by simp [afterRound], by simp [afterRound]⟩
      | panicked =>
        refine ⟨hpaced, by simp [afterRound], fun _ => ⟨o.attempts.length, ?_, ?_⟩⟩
        · exact hpacing.next_within hlimit
        · rw [← hpacing.ceiling]
          exact hspec.of_panicked
  | @exhaust r o hphase hlimit =>
    have hpacing := h.current r o hphase
    refine ⟨hpast ⟨hpacing.paced.announced, hpacing.paced.fits, hpacing.paced.limit⟩, by simp,
      by simp⟩

/-- Every state of the supervisor is paced. -/
theorem Kept.of_reachable {session : OpenedSession}
    (h : Reachable (Supervision.step config) free (Watch.new session) s) : Kept config s :=
  h.invariant (Kept.new config session) fun _ _ _ hs hstep _ => hs.step hstep

lemma Kept.paced (h : Kept config s) (ho : o ∈ s.outages) : Paced config o := by
  rcases List.mem_append.mp ho with ho | ho
  · exact h.past o ho
  · cases hphase : s.phase with
    | reconnecting r o' =>
      rw [hphase] at ho
      rw [List.mem_singleton.mp ho]
      exact (h.current r o' hphase).paced
    | watching | left | finished | panicked =>
      rw [hphase] at ho
      cases ho

end Steps

/-! ## Runs in which every attempt fails -/

section Failing

variable {config : ReconnectConfig} {session : OpenedSession} {n : ℕ}

/-- There is nothing to resume and no session can be opened: the attempt fails and is to be
repeated. -/
def failingAttempt (sample : ℕ) : Attempt where
  sample
  shutdown := false
  resumeCall := .ok ⟨none, none⟩
  openResumed := .ok ()
  startSession := .error (.transport "could not open the SSM WebSocket")

/-- In the midst of an outage with this many failed attempts. -/
def Failing (config : ReconnectConfig) (session : OpenedSession) (n : ℕ) (s : Watch) : Prop :=
  Reachable (step config) free (Watch.new session) s ∧
    ∃ r o, s.phase = .reconnecting r o ∧ o.attempts.length = n ∧ r.resumeFrom = none

/-- What one more failed attempt does. -/
lemma step_failingAttempt {s : Watch} (h : Failing config session n s) (sample : ℕ)
    (hlimit : config.exhausted (UInt32.ofNat (n + 1)) = false) :
    ∃ o round log, o.attempts.length = n ∧
      step config s (.attempt (failingAttempt sample)) =
        some (afterRound config s o (failingAttempt sample) round) ∧
      round =
        if 2 * config.ceilingAfter n ≤ durationMax then
          .again ⟨UInt32.ofNat (n + 1), config.ceilingAfter (n + 1), none, log⟩
        else .finished .panicked log := by
  obtain ⟨hreach, r, o, hphase, hlen, hfrom⟩ := h
  have hpacing := (Kept.of_reachable hreach).current r o hphase
  have hnumber : r.attempt + 1 = UInt32.ofNat (n + 1) := by
    rw [hpacing.number, hlen, UInt32.ofNat_add]
    rfl
  have hceiling : r.ceiling = config.ceilingAfter n := by rw [hpacing.ceiling, hlen]
  refine ⟨o, _, [.event (.reconnecting (UInt32.ofNat (n + 1))
    (jitter (config.ceilingAfter n) sample)), .startCall], hlen, ?_, rfl⟩
  rw [← min_double_ceilingAfter, ← hceiling]
  simp [step, hphase, hnumber, hlimit, reconnectRound, failingAttempt, resumeRound, hfrom,
    startRound, Error.isRetriable, backOff, -UInt32.ofNat_add]

/-- The attempt is on record afterwards. -/
lemma exists_mem_outages_afterRound (config : ReconnectConfig) (s : Watch) (o : Outage)
    (a : Attempt) (round : Round) :
    ∃ o' ∈ (afterRound config s o a round).outages,
      o'.attempts = o.attempts ++ [⟨a, round.log⟩] := by
  cases round with
  | again r =>
    exact ⟨_, List.mem_append_right _ (List.mem_singleton.mpr rfl), rfl⟩
  | finished result log =>
    cases result <;>
      exact ⟨_, List.mem_append_left _ (List.mem_append_right _ (List.mem_singleton.mpr rfl)), rfl⟩

/-- An outage lasts as long as attempts are made and the ceiling can be doubled. -/
lemma exists_failing (hlimit : ∀ i < n, config.exhausted (UInt32.ofNat (i + 1)) = false)
    (hfits : ∀ i < n, 2 * config.ceilingAfter i ≤ durationMax) :
    ∃ s, Failing config session n s := by
  induction n with
  | zero =>
    exact ⟨_, .tail (l := .closed (some (.deliveryFailed 0 0))) .refl rfl trivial, _, _,
      rfl, rfl, rfl⟩
  | succ n ih =>
    obtain ⟨s, hs⟩ := ih (fun i hi => hlimit i (by omega)) (fun i hi => hfits i (by omega))
    obtain ⟨o, round, log, hlen, hstep, hround⟩ := step_failingAttempt hs 0 (hlimit n (by omega))
    rw [hround, if_pos (hfits n (by omega))] at hstep
    exact ⟨_, hs.1.tail hstep trivial, _, _, rfl, by simp [hlen], rfl⟩

/-- Attempts are made up to the limit. -/
lemma exhausted_eq_false (h : config.maxAttempts = 0 ∨ n < config.maxAttempts.toNat) :
    config.exhausted (UInt32.ofNat (n + 1)) = false := by
  rcases h with h | h
  · simp [ReconnectConfig.exhausted, h]
  · have hlt := config.maxAttempts.toNat_lt
    simp only [ReconnectConfig.exhausted, Bool.and_eq_false_iff, decide_eq_false_iff_not,
      UInt32.lt_iff_toNat_lt, UInt32.toNat_ofNat', Nat.mod_eq_of_lt (show n + 1 < 2 ^ 32 by omega)]
    omega

/-- Ceilings that can be doubled a hundred times over can be doubled for ever. -/
lemma ceilingAfter_fits (h : ∀ i < 100, 2 * config.ceilingAfter i ≤ durationMax) (n : ℕ) :
    2 * config.ceilingAfter n ≤ durationMax := by
  by_cases hn : n < 100
  · exact h n hn
  · have hlast := h 99 (by omega)
    rcases Nat.eq_zero_or_pos config.initialDelay with hzero | hpos
    · simp [ReconnectConfig.ceilingAfter, hzero]
    · have hbig : 2 ^ 99 ≤ config.initialDelay * 2 ^ 99 := Nat.le_mul_of_pos_left _ hpos
      have hcap : 2 * config.maxDelay ≤ durationMax := by
        rw [ReconnectConfig.ceilingAfter, if_neg (by omega)] at hlast
        simp only [durationMax] at hlast ⊢
        omega
      have hle : config.ceilingAfter n ≤ config.maxDelay := by
        rw [ReconnectConfig.ceilingAfter, if_neg (by omega)]
        exact Nat.min_le_right _ _
      omega

end Failing

/-! ## The result -/

/-- The greatest sample below this ceiling: whole milliseconds, in a `u64`. -/
def longestSample (ceiling : ℕ) : ℕ := min (ceiling / 10 ^ 6) (2 ^ 64 - 1)

/-- The longest delay `jitter` can draw below this ceiling. -/
def longestDelay (ceiling : ℕ) : ℕ := longestSample ceiling * 10 ^ 6

lemma jitter_le (ceiling sample : ℕ) : jitter ceiling sample ≤ longestDelay ceiling := by
  unfold jitter longestDelay longestSample
  dsimp only
  split
  · exact Nat.zero_le _
  · exact Nat.mul_le_mul_right _ (Nat.le_of_lt_succ (Nat.mod_lt _ (Nat.succ_pos _)))

lemma longestDelay_le (ceiling : ℕ) : longestDelay ceiling ≤ ceiling := by
  unfold longestDelay longestSample
  omega

lemma jitter_longest (ceiling : ℕ) :
    jitter ceiling (longestSample ceiling) = longestDelay ceiling := by
  unfold jitter longestDelay longestSample
  dsimp only
  split
  · next h => rw [h, Nat.zero_mul]
  · rw [Nat.mod_eq_of_lt (Nat.lt_succ_self _)]

/-- The delay before every attempt is below the cap and below its power of two, and no product of
durations has overflowed. -/
def CapRespected (config : ReconnectConfig) (s : Watch) : Prop :=
  s.phase ≠ .panicked ∧
    ∀ o ∈ s.outages, ∀ n record number delay, o.attempts[n]? = some record →
      .event (.reconnecting number delay) ∈ record.log →
      delay ≤ config.maxDelay ∧ delay ≤ config.initialDelay * 2 ^ n

lemma AnnouncedAs.delay_eq {config : ReconnectConfig} {n : ℕ} {record : AttemptRecord}
    (h : AnnouncedAs config n record) {number : UInt32} {delay : ℕ}
    (hmem : .event (.reconnecting number delay) ∈ record.log) :
    number = UInt32.ofNat (n + 1) ∧
      delay = jitter (config.ceilingAfter n) record.attempt.sample := by
  obtain ⟨rest, hlog, hrest⟩ := h
  rw [hlog] at hmem
  rcases List.mem_cons.mp hmem with heq | hmem
  · cases heq
    exact ⟨rfl, rfl⟩
  · cases hrest _ hmem

section Cap

variable {config : ReconnectConfig} {s : Watch}

/-- The first attempt may draw the longest delay below `initial_delay`. -/
lemma longestDelay_le_of_capRespected
    (h : ∀ session s, Reachable (step config) free (Watch.new session) s → CapRespected config s) :
    longestDelay config.initialDelay ≤ config.maxDelay := by
  have hfirst : config.maxAttempts = 0 ∨ 0 < config.maxAttempts.toNat := by
    rw [← UInt32.toNat_inj]
    exact Nat.eq_zero_or_pos _
  obtain ⟨s, hs⟩ : ∃ s, Failing config ⟨"", 0⟩ 0 s := exists_failing (by simp) (by simp)
  obtain ⟨o, round, log, hlen, hstep, -⟩ := step_failingAttempt hs
    (longestSample config.initialDelay) (exhausted_eq_false hfirst)
  have hreach := hs.1.tail hstep trivial
  obtain ⟨o', ho', hattempts⟩ := exists_mem_outages_afterRound config s o
    (failingAttempt (longestSample config.initialDelay)) round
  have hn : o'.attempts[0]? =
      some ⟨failingAttempt (longestSample config.initialDelay), round.log⟩ := by
    rw [hattempts, List.length_eq_zero_iff.mp hlen]
    rfl
  obtain ⟨rest, hlog, -⟩ := ((Kept.of_reachable hreach).paced ho').announced 0 _ hn
  have hcap := ((h _ _ hreach).2 o' ho' 0 _ _ _ hn (hlog ▸ List.mem_cons_self)).1
  rw [← jitter_longest]
  exact hcap

/-- The first ceiling that cannot be doubled ends the task. -/
lemma fits_of_capRespected
    (h : ∀ session s, Reachable (step config) free (Watch.new session) s → CapRespected config s)
    (n : ℕ) (hn : config.maxAttempts = 0 ∨ n < config.maxAttempts.toNat) :
    2 * config.ceilingAfter n ≤ durationMax := by
  induction n using Nat.strong_induction_on with
  | _ n ih =>
    by_contra hbig
    have hbefore : ∀ i < n, config.maxAttempts = 0 ∨ i < config.maxAttempts.toNat :=
      fun i hi => hn.imp_right (Nat.lt_trans hi)
    obtain ⟨s, hs⟩ : ∃ s, Failing config ⟨"", 0⟩ n s :=
      exists_failing (fun i hi => exhausted_eq_false (hbefore i hi))
        (fun i hi => ih i hi (hbefore i hi))
    obtain ⟨o, round, log, -, hstep, hround⟩ :=
      step_failingAttempt hs 0 (exhausted_eq_false hn)
    rw [hround, if_neg hbig] at hstep
    exact (h _ _ (hs.1.tail hstep trivial)).1 rfl

/-- The task does not end while the ceilings can be doubled. -/
lemma Kept.not_panicked (h : Kept config s)
    (hfits : ∀ n, (config.maxAttempts = 0 ∨ n < config.maxAttempts.toNat) →
      2 * config.ceilingAfter n ≤ durationMax) : s.phase ≠ .panicked := by
  intro hphase
  obtain ⟨n, hwithin, hbig⟩ := h.panicked hphase
  have hfits' : 2 * config.ceilingAfter n ≤ durationMax := by
    by_cases hzero : config.maxAttempts = 0
    · exact hfits n (.inl hzero)
    · by_cases hmax : config.maxAttempts = 4294967295
      · -- The count may have wrapped, but the ceilings have settled long before.
        refine ceilingAfter_fits (fun i hi => hfits i (.inr ?_)) n
        rw [hmax]
        exact Nat.lt_trans hi (by decide)
      · exact hfits n (.inr (hwithin (UInt32.pos_iff_ne_zero.mpr hzero) hmax))
  omega

/-- What is drawn below a ceiling is below the cap and below the doubled initial delay. -/
lemma jitter_ceilingAfter_le (hfirst : longestDelay config.initialDelay ≤ config.maxDelay)
    (n sample : ℕ) :
    jitter (config.ceilingAfter n) sample ≤ config.maxDelay ∧
      jitter (config.ceilingAfter n) sample ≤ config.initialDelay * 2 ^ n := by
  have hle := jitter_le (config.ceilingAfter n) sample
  have hlong := longestDelay_le (config.ceilingAfter n)
  cases n with
  | zero =>
    simp only [ReconnectConfig.ceilingAfter, if_true] at hle hlong ⊢
    omega
  | succ n =>
    simp only [ReconnectConfig.ceilingAfter, Nat.succ_ne_zero, if_false] at hle hlong ⊢
    omega

end Cap

/-- **When the backoff respects its cap.** In every run of the supervisor every delay is at most
`max_delay` and at most `initial_delay * 2 ^ n`, and no product of durations overflows, if and only
if the longest delay below `initial_delay` is at most `max_delay` and every ceiling, up to the limit
on the attempts, is at most half of `Duration::MAX`. -/
theorem backoff_respects_cap_iff (config : ReconnectConfig) :
    (∀ session s, Reachable (step config) free (Watch.new session) s → CapRespected config s) ↔
      longestDelay config.initialDelay ≤ config.maxDelay ∧
        ∀ n, (config.maxAttempts = 0 ∨ n < config.maxAttempts.toNat) →
          2 * config.ceilingAfter n ≤ durationMax := by
  constructor
  · intro h
    exact ⟨longestDelay_le_of_capRespected h, fits_of_capRespected h⟩
  · rintro ⟨hfirst, hfits⟩ session s hreach
    have hkept := Kept.of_reachable hreach
    refine ⟨hkept.not_panicked hfits, ?_⟩
    intro o ho n record number delay hn hmem
    obtain ⟨-, rfl⟩ := ((hkept.paced ho).announced n record hn).delay_eq hmem
    exact jitter_ceilingAfter_le hfirst n record.attempt.sample

/-- A first delay of two minutes under a cap of one. -/
def eagerConfig : ReconnectConfig :=
  { sampleReconnectConfig with initialDelay := 120 * 10 ^ 9 }

/-- Delays without an end. -/
def endlessConfig : ReconnectConfig :=
  { sampleReconnectConfig with initialDelay := durationMax, maxDelay := durationMax }

/-- **The first delay may exceed the cap**, and the doubling may overflow. -/
theorem first_delay_exceeds_cap :
    (∃ s, Reachable (step eagerConfig) free (Watch.new sampleSession) s ∧
      .reconnecting 1 (120 * 10 ^ 9) ∈ s.events ∧ ¬ CapRespected eagerConfig s) ∧
    ∃ s, Reachable (step endlessConfig) free (Watch.new sampleSession) s ∧
      s.phase = .panicked ∧ ¬ CapRespected endlessConfig s := by
  refine ⟨⟨_, .tail (.tail .refl (l := .closed none) rfl trivial)
    (l := .attempt (failingAttempt 120000)) rfl trivial, ?_, fun h => ?_⟩,
    _, .tail (.tail .refl (l := .closed (some (.deliveryFailed 0 0))) rfl trivial)
    (l := .attempt (failingAttempt 0)) rfl trivial, ?_, fun h => ?_⟩
  · exact List.mem_cons_of_mem _ List.mem_cons_self
  · have hdelay := (h.2 _ List.mem_cons_self 0 _ 1 (120 * 10 ^ 9) rfl List.mem_cons_self).1
    exact absurd hdelay (by decide)
  · rfl
  · exact h.1 rfl

end SsmBridge.Supervision
