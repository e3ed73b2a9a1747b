import SsmBridge.Properties.Backoff
import Mathlib.Data.List.Forall2

/-!
# The events of the supervisor

The events of an outage are `Disconnected`, one `Reconnecting` for each attempt, numbered from one,
and one event that closes it with the number of attempts made.  `TrueStory` says that the events of
a run are of this form, outage by outage.

The closing event is emitted in three places.  `Resumed` and `Reconnected` take their number from
the attempt count of `reconnect`; `GaveUp` after a failed `reconnect` takes it from `max_attempts`,
whatever ended the loop.  `truthful` is the condition on a step under which the two agree and the
loop neither overflows its count nor its backoff, and `events_tell_the_story` is the result for
every run whose steps meet it.
-/

namespace SsmBridge.Supervision

open Machine

/-! ## The story -/

/-- `k` announcements, numbered from one. -/
def CountsUp (k : ℕ) (events : List ReconnectEvent) : Prop :=
  events.length = k ∧ ∀ i e, events[i]? = some e →
    ∃ number delay, e = .reconnecting number delay ∧ number.toNat = i + 1

/-- The event closes an outage of `k` attempts. -/
def Closes (k : ℕ) : ReconnectEvent → Prop
  | .resumed _ attempts | .reconnected _ attempts => attempts.toNat = k ∧ 0 < k
  | .gaveUp attempts _ => attempts.toNat = k
  | _ => False

/-- The events of an outage that is under way. -/
def ToldSoFar (o : Outage) (events : List ReconnectEvent) : Prop :=
  ∃ announcements, events = .disconnected o.reason :: announcements ∧
    CountsUp o.attempts.length announcements

/-- The events of an outage that is over. -/
def Told (o : Outage) (events : List ReconnectEvent) : Prop :=
  ∃ announcements closing, events = .disconnected o.reason :: (announcements ++ [closing]) ∧
    CountsUp o.attempts.length announcements ∧ Closes o.attempts.length closing

/-- The events are those of the outages, one after the other. -/
def TrueStory (s : Watch) : Prop :=
  ∃ told current, s.events = told.flatten ++ current ∧ List.Forall₂ Told s.past told ∧
    (s.phase.outage = none → current = []) ∧ ∀ o, s.phase.outage = some o → ToldSoFar o current

/-! ## The condition on a step -/

/-- The attempt asks for its session and is told to come back later. -/
def deferred (config : ReconnectConfig) (a : Attempt) (r : Reconnecting) : Bool :=
  match r.resumeFrom with
  | none => false
  | some session =>
      match resumeSession config a session with
      | .error e => e.isRetriable
      | .ok _ => false

/-- The attempt turns to `start_session`. -/
def turnsToStart (config : ReconnectConfig) (a : Attempt) (r : Reconnecting) : Bool :=
  match r.resumeFrom with
  | none => true
  | some session =>
      match resumeSession config a session with
      | .error e => !e.isRetriable
      | .ok resumed => resumed.isNone

/-- `start_session` fails, and asking again could help or could not. -/
def startFails (a : Attempt) (retriable : Bool) : Bool :=
  match a.startSession with
  | .error e => e.isRetriable == retriable
  | .ok _ => false

/-- The attempt ends the reconnection: shutdown is signalled, or the failure is final. -/
def fatal (config : ReconnectConfig) (a : Attempt) (r : Reconnecting) : Bool :=
  a.shutdown || (turnsToStart config a r && startFails a false)

/-- The attempt fails and is to be repeated. -/
def repeated (config : ReconnectConfig) (a : Attempt) (r : Reconnecting) : Bool :=
  !a.shutdown && (deferred config a r || (turnsToStart config a r && startFails a true))

/-- An attempt that ends the reconnection is the last one allowed, one that is to be repeated can be
followed by a longer backoff, and the count can be raised. -/
def truthful (config : ReconnectConfig) (s : Watch) : Label → Bool
  | .attempt a =>
      match s.phase with
      | .reconnecting r _ =>
          decide (r.attempt ≠ 4294967295) &&
            (!fatal config a r || decide (r.attempt + 1 = config.maxAttempts)) &&
            (!repeated config a r || decide (2 * r.ceiling ≤ durationMax))
      | _ => true
  | _ => true

/-! ## One attempt -/

section Rounds

variable {config : ReconnectConfig} {a : Attempt} {r r' : Reconnecting} {round : Round}
  {calls log : List ReconnectStep}

lemma TurnsToStart.silent (h : TurnsToStart config a r calls) :
    calls.filterMap ReconnectStep.emitted = [] := by
  cases h <;> rfl

lemma TurnsToStart.turns (h : TurnsToStart config a r calls) : turnsToStart config a r = true := by
  cases h with
  | absent hfrom => simp [turnsToStart, hfrom]
  | refused hfrom hdefinite =>
    rcases hdefinite with hnone | ⟨e, he, hfinal⟩
    · simp [turnsToStart, hfrom, hnone]
    · simp [turnsToStart, hfrom, he, hfinal]

/-- What an attempt reports of itself, and by what it was closed. -/
lemma RoundSpec.emits (h : RoundSpec config a r round) :
    ∃ closing, round.log.filterMap ReconnectStep.emitted =
        .reconnecting r.attempt (jitter r.ceiling a.sample) :: closing ∧
      ((∃ log, round = .finished .ok log) ∧ (∃ e, closing = [e] ∧
          ∀ k, r.attempt.toNat = k → 0 < k → Closes k e) ∨
        (∀ log, round ≠ .finished .ok log) ∧ closing = []) := by
  cases h with
  | shutdown => exact ⟨_, rfl, .inr ⟨by simp, rfl⟩⟩
  | resumed => exact ⟨_, rfl, .inl ⟨⟨_, rfl⟩, _, rfl, fun _ hk hpos => ⟨hk, hpos⟩⟩⟩
  | @started calls session _ hcalls _ =>
    refine ⟨[.reconnected session.id r.attempt], ?_,
      .inl ⟨⟨_, rfl⟩, _, rfl, fun _ hk hpos => ⟨hk, hpos⟩⟩⟩
    simp [Round.log, announce, List.filterMap_cons, ReconnectStep.emitted, hcalls.silent]
  | startFailed _ hcalls =>
    refine ⟨[], ?_, .inr ⟨by simp, rfl⟩⟩
    simp [Round.log, announce, ReconnectStep.emitted, hcalls.silent]
  | resumeLater =>
    refine ⟨[], ?_, .inr ⟨?_, rfl⟩⟩
    · simp [log_backOff, announce, ReconnectStep.emitted]
    · exact backOff_ne_ok _ _
  | startLater _ hcalls =>
    refine ⟨[], ?_, .inr ⟨?_, rfl⟩⟩
    · simp [log_backOff, announce, ReconnectStep.emitted, hcalls.silent]
    · exact backOff_ne_ok _ _

/-- Only a fatal attempt ends with an error. -/
lemma RoundSpec.fatal_of_err {e : Error} (h : RoundSpec config a r (.finished (.err e) log)) :
    fatal config a r = true := by
  generalize hround : Round.finished (.err e) log = round at h
  cases h with
  | shutdown hshutdown => simp [fatal, hshutdown]
  | resumed | started => cases hround
  | startFailed _ hcalls hstart he =>
    simp [fatal, hcalls.turns, startFails, hstart, he]
  | resumeLater | startLater => exact absurd hround.symm (backOff_ne_err _ _ _ _)

/-- Only an attempt that is to be repeated overflows. -/
lemma RoundSpec.repeated_of_panicked (h : RoundSpec config a r (.finished .panicked log)) :
    repeated config a r = true := by
  generalize hround : Round.finished .panicked log = round at h
  cases h with
  | shutdown | resumed | started | startFailed => cases hround
  | resumeLater hfrom hup hres he => simp [repeated, hup, deferred, hfrom, hres, he]
  | startLater hup hcalls hstart he =>
    simp [repeated, hup, hcalls.turns, startFails, hstart, he]

end Rounds

/-! ## Whole runs -/

section Runs

variable {config : ReconnectConfig} {s s' : Watch} {l : Label} {r r' : Reconnecting} {o : Outage}
  {a : Attempt} {round : Round} {events : List ReconnectEvent}

lemma CountsUp.concat {k : ℕ} (h : CountsUp k events) {number : UInt32} (delay : ℕ)
    (hnumber : number.toNat = k + 1) :
    CountsUp (k + 1) (events ++ [.reconnecting number delay]) := by
  refine ⟨by simp [h.1], fun i e hi => ?_⟩
  rcases getElem?_of_concat hi with ⟨rfl, rfl⟩ | ⟨-, hi⟩
  · exact ⟨number, delay, rfl, by rw [hnumber, h.1]⟩
  · exact h.2 i e hi

/-- What holds of every state of a run that reports truthfully. -/
structure Reporting (s : Watch) : Prop where
  story : TrueStory s
  counted : ∀ r o, s.phase = .reconnecting r o → r.attempt.toNat = o.attempts.length

/-- An outage is over, and its events are closed. -/
lemma TrueStory.close (h : TrueStory s) (hphase : s.phase = .reconnecting r o) {o' : Outage}
    {phase : Phase} (hdone : phase.outage = none) {more : List ReconnectEvent}
    (htold : ∀ current, ToldSoFar o current → Told o' (current ++ more)) :
    TrueStory { phase, past := s.past ++ [o'], events := s.events ++ more } := by
  obtain ⟨told, current, hevents, hpast, -, hcurrent⟩ := h
  have hsofar := hcurrent o (by rw [hphase]; rfl)
  refine ⟨told ++ [current ++ more], [], ?_, List.rel_append hpast (.cons (htold _ hsofar) .nil),
    fun _ => rfl, fun o ho => ?_⟩
  · simp [hevents]
  · simp [hdone] at ho

/-- While no outage is under way, everything is told. -/
lemma TrueStory.events_eq (h : TrueStory s) (hphase : s.phase.outage = none) :
    ∃ told, s.events = told.flatten ∧ List.Forall₂ Told s.past told := by
  obtain ⟨told, current, hevents, hpast, hnone, -⟩ := h
  exact ⟨told, by simp [hevents, hnone hphase], hpast⟩

/-- The number of the attempt that is made. -/
lemma Reporting.next_toNat (h : Reporting s) (hphase : s.phase = .reconnecting r o)
    (hcount : r.attempt ≠ 4294967295) : (r.attempt + 1).toNat = o.attempts.length + 1 := by
  rw [toNat_succ_of_le (UInt32.le_refl _) hcount, h.counted r o hphase]

/-- One more announcement. -/
lemma ToldSoFar.attempt (h : ToldSoFar o events) {o' : Outage} (hreason : o'.reason = o.reason)
    (hlen : o'.attempts.length = o.attempts.length + 1) {number : UInt32} (delay : ℕ)
    (hnumber : number.toNat = o.attempts.length + 1) :
    ToldSoFar o' (events ++ [.reconnecting number delay]) := by
  obtain ⟨announcements, rfl, hcounts⟩ := h
  refine ⟨announcements ++ [.reconnecting number delay], by rw [hreason]; rfl, ?_⟩
  rw [hlen]
  exact hcounts.concat delay hnumber

/-- The closing event. -/
lemma ToldSoFar.close (h : ToldSoFar o events) {o' : Outage} (hreason : o'.reason = o.reason)
    (hlen : o'.attempts.length = o.attempts.length) {e : ReconnectEvent}
    (he : Closes o.attempts.length e) : Told o' (events ++ [e]) := by
  obtain ⟨announcements, rfl, hcounts⟩ := h
  exact ⟨announcements, e, by rw [hreason]; rfl, hlen ▸ hcounts, hlen ▸ he⟩

lemma Reporting.attempt (h : Reporting s) (hphase : s.phase = .reconnecting r o)
    (hcount : r.attempt ≠ 4294967295)
    (hfatal : fatal config a r = true → r.attempt + 1 = config.maxAttempts)
    (hrepeated : repeated config a r = true → 2 * r.ceiling ≤ durationMax)
    (hspec : RoundSpec config a (nextAttempt r) round) :
    Reporting (afterRound config s o a round) := by
  have hnumber := h.next_toNat hphase hcount
  obtain ⟨closing, hemits, hclosing⟩ := hspec.emits
  -- The outage with this attempt on record, before its closing event.
  have hmade : ∀ current, ToldSoFar o current → ToldSoFar
      { o with attempts := o.attempts ++ [⟨a, round.log⟩] }
      (current ++ [.reconnecting (r.attempt + 1) (jitter r.ceiling a.sample)]) := by
    intro current hcurrent
    refine hcurrent.attempt ?_ ?_ _ hnumber
    · rfl
    · simp
  cases round with
  | again r' =>
    obtain ⟨-, rfl⟩ := hclosing.resolve_left fun h => by simp at h
    obtain ⟨-, hattempt, -⟩ := hspec.of_again
    obtain ⟨told, current, hevents, hpast, -, hcurrent⟩ := h.story
    refine ⟨⟨told, current ++ [.reconnecting (r.attempt + 1) (jitter r.ceiling a.sample)], ?_,
      hpast, by simp [afterRound, Phase.outage], fun o' ho' => ?_⟩, ?_⟩
    · simp only [afterRound, hevents, List.append_assoc]
      exact congrArg _ (congrArg _ hemits)
    · cases ho'
      exact hmade current (hcurrent o (by rw [hphase]; rfl))
    · intro r₁ o₁ ho₁
      cases ho₁
      simp [hattempt, nextAttempt, hnumber]
  | finished result log =>
    cases result with
    | ok =>
      obtain ⟨-, e, rfl, he⟩ := hclosing.resolve_right fun h => h.1 log rfl
      have hdone :
          ((log.findSome? ReconnectStep.adopted).elim Phase.left .watching).outage = none := by
        cases log.findSome? ReconnectStep.adopted <;> rfl
      refine ⟨h.story.close hphase hdone fun current hcurrent => ?_, ?_⟩
      · rw [show log.filterMap ReconnectStep.emitted = _ from hemits, List.append_cons current]
        refine (hmade current hcurrent).close ?_ ?_ (he _ ?_ ?_)
        · rfl
        · rfl
        · simpa [nextAttempt] using hnumber
        · simp
      · intro r₁ o₁ ho₁
        simp only [afterRound] at ho₁
        rw [ho₁] at hdone
        cases hdone
    | err e =>
      obtain ⟨-, rfl⟩ := hclosing.resolve_left fun h => by simp at h
      have hlast := congrArg UInt32.toNat (hfatal hspec.fatal_of_err)
      refine ⟨?_, by simp [afterRound]⟩
      simp only [afterRound, List.append_assoc]
      refine h.story.close hphase rfl fun current hcurrent => ?_
      rw [show log.filterMap ReconnectStep.emitted = _ from hemits, ← List.append_assoc]
      refine (hmade current hcurrent).close ?_ ?_ ?_
      · rfl
      · rfl
      · simpa [giveUp, Closes, hnumber] using hlast.symm
    | panicked =>
      have hbig := hspec.of_panicked
      have hfits := hrepeated hspec.repeated_of_panicked
      exact absurd hfits (Nat.not_le.mpr hbig)

lemma Reporting.step (hkept : Kept config s) (h : Reporting s) (hstep : step config s l = some s')
    (htruthful : truthful config s l = true) : Reporting s' := by
  cases stepSpec_of_step hstep with
  | stop hphase =>
    obtain ⟨told, hevents, hpast⟩ := h.story.events_eq (by rw [hphase]; rfl)
    exact ⟨⟨told, [], by simpa using hevents, hpast, fun _ => rfl, by simp [Phase.outage]⟩, by simp⟩
  | @closed session reason hphase =>
    obtain ⟨told, hevents, hpast⟩ := h.story.events_eq (by rw [hphase]; rfl)
    generalize reason.getD (.transport "connection lost") = why
    unfold sessionClosed
    dsimp only
    split
    · refine ⟨⟨told, [.disconnected why], ?_, hpast, by simp [Phase.outage], fun o ho => ?_⟩, ?_⟩
      · rw [hevents]
      · cases ho
        exact ⟨[], rfl, rfl, by simp⟩
      · intro r o ho
        cases ho
        rfl
    · refine ⟨⟨told ++ [[.disconnected why, .gaveUp 0 why.display]], [], ?_,
        List.rel_append hpast (.cons ?_ .nil), fun _ => rfl, by simp [Phase.outage]⟩, by simp⟩
      · simp [hevents]
      · exact ⟨[], _, rfl, ⟨rfl, by simp⟩, rfl⟩
  | @attempt r o a round hphase hlimit hspec =>
    simp only [truthful, hphase, Bool.and_eq_true, Bool.or_eq_true, Bool.not_eq_true',
      decide_eq_true_eq] at htruthful
    obtain ⟨⟨hcount, hfatal⟩, hrepeated⟩ := htruthful
    refine h.attempt hphase hcount ?_ ?_ hspec
    · intro hf
      exact hfatal.resolve_left (by simp [hf])
    · intro hr
      exact hrepeated.resolve_left (by simp [hr])
  | @exhaust r o hphase hlimit =>
    have hcounted := h.counted r o hphase
    -- The count is at the limit: it was not beyond it before, and is after one more.
    have hlast : config.maxAttempts.toNat = o.attempts.length := by
      simp only [ReconnectConfig.exhausted, Bool.and_eq_true, decide_eq_true_eq] at hlimit
      have hbelow := UInt32.le_iff_toNat_le.mp ((hkept.current r o hphase).below hlimit.1)
      have habove := UInt32.lt_iff_toNat_lt.mp hlimit.2
      have hstep : (r.attempt + 1).toNat ≤ r.attempt.toNat + 1 := by
        rw [UInt32.toNat_add, UInt32.toNat_one]
        exact Nat.mod_le _ _
      omega
    refine ⟨h.story.close hphase rfl fun current hcurrent => ?_, by simp⟩
    refine hcurrent.close ?_ ?_ hlast
    · rfl
    · rfl

end Runs

/-! ## The result -/

/-- **Events tell the true story.** In every run in which an attempt that ends the reconnection is
the last one allowed, the backoff can be doubled after each failed attempt, and the attempt count
does not overflow: after each `Disconnected` come `Reconnecting` events numbered from one and, once
the outage is over, one closing event, which has the number of attempts that were made. -/
theorem events_tell_the_story (config : ReconnectConfig) (session : OpenedSession) (s : Watch)
    (h : Reachable (step config) (fun s l _ => truthful config s l = true) (Watch.new session) s) :
    TrueStory s := by
  have hreporting : Reporting s := by
    refine h.invariant_with (fun _ hs => Kept.of_reachable hs) ?_
      fun _ _ _ hkept hs hstep hguard => hs.step hkept hstep hguard
    exact ⟨⟨[], [], rfl, .nil, fun _ => rfl, by simp [Watch.new, Phase.outage]⟩,
      by simp [Watch.new]⟩
  exact hreporting.story

theorem story_of_a_resumed_session :
    ∃ s, TrueStory s ∧ s.events =
      [.disconnected (.transport "connection lost"), .reconnecting 1 0, .reconnecting 2 0,
        .resumed "session-1" 2, .disconnected .terminated,
        .gaveUp 0 "terminated by the local application"] :=
  ⟨_, events_tell_the_story sampleReconnectConfig sampleSession _
    (.tail (.tail (.tail (.tail .refl (l := .closed none) rfl rfl)
      (l := .attempt refusedAttempt) rfl rfl) (l := .attempt throughAttempt) rfl rfl)
      (l := .closed (some .terminated)) rfl rfl), rfl⟩

/-- **A final failure is reported with the limit.** With the default settings the first attempt
fails for good, and `GaveUp` says that ten attempts were made. -/
theorem final_failure_reports_limit :
    ∃ s, Reachable (step sampleReconnectConfig) free (Watch.new sampleSession) s ∧
      s.events = [.disconnected (.transport "connection lost"), .reconnecting 1 0,
        .gaveUp 10 "AWS API error: DispatchFailure"] ∧ ¬ TrueStory s := by
  refine ⟨_, .tail (.tail .refl (l := .closed none) rfl trivial)
    (l := .attempt unansweredAttempt) rfl trivial, rfl, ?_⟩
  rintro ⟨told, current, hevents, hpast, hnone, -⟩
  obtain rfl := hnone rfl
  obtain ⟨events, rest, ⟨announcements, closing, rfl, hcounts, hcloses⟩, hrest, rfl⟩ :=
    List.forall₂_cons_left_iff.mp hpast
  cases List.forall₂_nil_left_iff.mp hrest
  have hlast : some (giveUp sampleReconnectConfig (.aws "DispatchFailure" none)) = _ :=
    congrArg List.getLast? hevents
  have hclosing : giveUp sampleReconnectConfig (.aws "DispatchFailure" none) = closing := by
    simpa [List.getLast?_cons] using hlast
  rw [← hclosing] at hcloses
  exact absurd (show (10 : ℕ) = 1 from hcloses) (by decide)

end SsmBridge.Supervision
