import SsmBridge.Properties.Outage
import SsmBridge.Properties.ResumeFirst
import SsmBridge.Construction.Supervisor

/-!
# One supervisor at two grains

`Supervisor.step` takes `supervise` one poll at a time, among calls of `send` and `terminate`;
`Supervision.step` takes an attempt of `reconnect` whole and keeps the history.  `refines_watch`
says that the first decides as the second does: along every run of the one there goes a run of the
other that has opened as many sessions, watches the one opened last, is in the same attempt with the
same ceiling and the same session to resume, records of every session that ended why it ended, and
has given up, left or panicked when the first one has.

The fine supervisor knows a session by its number, the coarse one by its handle.  The handles are
read off the history (`Watch.handles`), and the session with number `i` is the `i`-th of them.  An
attempt of the coarse supervisor is made up when the fine one is through with it; until then
`Turned` remembers what the service said of the session that was to be resumed.
-/

namespace SsmBridge.Supervision

open Machine
open Supervisor (Supervised Retry)

/-! ## Where the two are -/

/-- The sessions that were opened, in order: the first one, and those that `reconnect` installed. -/
def Watch.handles (first : OpenedSession) (w : Watch) : List OpenedSession :=
  first :: w.outages.flatMap (fun o => (stepsOf o.attempts).filterMap ReconnectStep.adopted)

/-- The session that was opened last, and its number. -/
structure Latest (names : List OpenedSession) (i : ℕ) (session : OpenedSession) : Prop where
  name : names[i]? = some session
  last : i + 1 = names.length

/-- The loop state of one supervisor is that of the other; `names` are the handles of the sessions
opened so far.  Only the last one can be resumed. -/
structure Carries (names : List OpenedSession) (retry : Retry) (r : Reconnecting) : Prop where
  attempt : r.attempt = retry.attempt
  ceiling : r.ceiling = retry.ceiling
  resumeFrom : r.resumeFrom = retry.resumeFrom.bind (names[·]?)
  last : ∀ i, retry.resumeFrom = some i → i + 1 = names.length

/-- What an attempt has found out before `start_session`. -/
def Turned (config : ReconnectConfig) (r : Reconnecting) : Prop :=
  r.resumeFrom = none ∨ ∃ session call opened, r.resumeFrom = some session ∧
    ∀ a : Attempt, a.resumeCall = call → a.openResumed = opened → Definite config a session

/-- The fine supervisor is where the coarse one is. -/
inductive At (config : ReconnectConfig) (names : List OpenedSession)
    (sessions : List (Option CloseReason)) (current : Option ℕ) :
    Supervisor.SupervisorPc → Phase → Prop
  | reading {i : ℕ} {session : OpenedSession} (hlatest : Latest names i session)
      (hcurrent : ∀ j, current = some j → j = i) :
      At config names sessions current .reading (.watching session)
  | selecting {i : ℕ} {session : OpenedSession} (hlatest : Latest names i session) :
      At config names sessions current (.selecting i) (.watching session)
  | polling {i : ℕ} {session : OpenedSession} (hlatest : Latest names i session) :
      At config names sessions current (.polling i) (.watching session)
  | waiting {i : ℕ} {session : OpenedSession} (hlatest : Latest names i session) :
      At config names sessions current (.waiting i) (.watching session)
  | deciding {i : ℕ} {session : OpenedSession} {reason : CloseReason}
      (hlatest : Latest names i session) (hclosed : sessions[i]? = some (some reason)) :
      At config names sessions current (.deciding i) (.watching session)
  | adopting {i : ℕ} {session : OpenedSession} (hlatest : Latest names i session) :
      At config names sessions current (.adopting i) (.watching session)
  | attempting {retry : Retry} {r : Reconnecting} {o : Outage} (hcarries : Carries names retry r) :
      At config names sessions current (.attempting retry) (.reconnecting r o)
  | pausing {retry : Retry} {r : Reconnecting} {o : Outage}
      (hcarries : Carries names retry (nextAttempt r))
      (hlimit : config.exhausted retry.attempt = false) :
      At config names sessions current (.pausing retry) (.reconnecting r o)
  | sleeping {retry : Retry} {r : Reconnecting} {o : Outage}
      (hcarries : Carries names retry (nextAttempt r))
      (hlimit : config.exhausted retry.attempt = false) :
      At config names sessions current (.sleeping retry) (.reconnecting r o)
  | resuming {retry : Retry} {r : Reconnecting} {o : Outage}
      (hcarries : Carries names retry (nextAttempt r))
      (hlimit : config.exhausted retry.attempt = false) {session : OpenedSession}
      (hsession : r.resumeFrom = some session) :
      At config names sessions current (.resuming retry) (.reconnecting r o)
  | starting {retry : Retry} {r : Reconnecting} {o : Outage}
      (hattempt : r.attempt + 1 = retry.attempt) (hceiling : r.ceiling = retry.ceiling)
      (hnone : retry.resumeFrom = none) (hlimit : config.exhausted retry.attempt = false)
      (hturned : Turned config r) :
      At config names sessions current (.starting retry) (.reconnecting r o)
  | givingUp : At config names sessions current .givingUp .finished
  | closingOutput : At config names sessions current .closingOutput .finished
  | clearing : At config names sessions current .clearing .finished
  | finished : At config names sessions current .finished .finished
  | returned : At config names sessions current .returned .left
  | panicked : At config names sessions current .panicked .panicked

/-- The history agrees with the sessions: as many were opened, the outages are the ends of the first
ones, in order and with their reasons, and a session that is watched is the next. -/
structure Aligned (first : OpenedSession) (sessions : List (Option CloseReason)) (w : Watch) :
    Prop where
  opened : (w.handles first).length = sessions.length
  ended : (w.outages.map Outage.reason).map some <+: sessions
  watching : ∀ session, w.phase = .watching session → w.outages.length + 1 = sessions.length
  reconnecting : ∀ r o, w.phase = .reconnecting r o → w.outages.length = sessions.length

/-- The two supervisors agree. -/
structure Related (config : ReconnectConfig) (first : OpenedSession) (σ : Supervised) (w : Watch) :
    Prop where
  aligned : Aligned first σ.sessions w
  place : At config (w.handles first) σ.sessions σ.current σ.supervisor w.phase

section

variable {config : ReconnectConfig} {first : OpenedSession} {names : List OpenedSession}
  {sessions sessions' : List (Option CloseReason)} {current : Option ℕ} {retry : Retry}
  {r : Reconnecting} {o : Outage} {w w' : Watch} {a : Attempt}

/-! ## The history -/

/-- An outage under way goes on, or is over. -/
lemma handles_goesOn {past : List Outage} {o' : Outage} {log : List ReconnectStep}
    (hw : w.outages = past ++ [o]) (hw' : w'.outages = past ++ [o'])
    (hsteps : stepsOf o'.attempts = stepsOf o.attempts ++ log) :
    w'.handles first = w.handles first ++ log.filterMap ReconnectStep.adopted := by
  simp [Watch.handles, hw, hw', hsteps]

lemma outages_of_reconnecting (hphase : w.phase = .reconnecting r o) :
    w.outages = w.past ++ [o] := by
  rw [Watch.outages, hphase]
  rfl

lemma outages_of_watching {session : OpenedSession} (hphase : w.phase = .watching session) :
    w.outages = w.past := by
  rw [Watch.outages, hphase]
  exact List.append_nil _

/-- An attempt is added to its outage. -/
lemma outages_afterRound (config : ReconnectConfig) (w : Watch) (o : Outage) (a : Attempt)
    (round : Round) : ∃ o', o'.reason = o.reason ∧
      stepsOf o'.attempts = stepsOf o.attempts ++ round.log ∧
      (afterRound config w o a round).outages = w.past ++ [o'] := by
  cases round with
  | again r' => exact ⟨{ o with attempts := o.attempts ++ [⟨a, r'.log⟩] }, rfl, by
      simp [stepsOf, Round.log], rfl⟩
  | finished result log =>
    refine ⟨{ o with attempts := o.attempts ++ [⟨a, log⟩], result := some result }, rfl, by
      simp [stepsOf, Round.log], ?_⟩
    cases result with
    | ok =>
      rw [Watch.outages, afterRound]
      cases log.findSome? ReconnectStep.adopted <;> exact List.append_nil _
    | err e => exact List.append_nil _
    | panicked => exact List.append_nil _

lemma handles_afterRound (hphase : w.phase = .reconnecting r o) (round : Round) :
    (afterRound config w o a round).handles first =
      w.handles first ++ round.log.filterMap ReconnectStep.adopted := by
  obtain ⟨o', -, hsteps, houtages⟩ := outages_afterRound config w o a round
  exact handles_goesOn (outages_of_reconnecting hphase) houtages hsteps

/-- The supervisor is done; no session was opened or ended. -/
lemma Aligned.leaves (h : Aligned first sessions w) (hhandles : w'.handles first = w.handles first)
    (hreasons : w'.outages.map Outage.reason = w.outages.map Outage.reason)
    (hwatching : ∀ session, w'.phase ≠ .watching session)
    (hreconnecting : ∀ r o, w'.phase ≠ .reconnecting r o) : Aligned first sessions w' where
  opened := by
    rw [hhandles]
    exact h.opened
  ended := by
    rw [hreasons]
    exact h.ended
  watching session hphase := absurd hphase (hwatching session)
  reconnecting r o hphase := absurd hphase (hreconnecting r o)

/-- The reason of a closed session stays. -/
lemma closed_kept {i j : ℕ} {reason reason' : CloseReason}
    (h : sessions[i]? = some (some reason)) :
    (sessions.modify j (fun r => some (r.getD reason')))[i]? = some (some reason) := by
  rw [List.getElem?_modify, h]
  split <;> rfl

lemma Aligned.close (h : Aligned first sessions w) (i : ℕ) (reason : CloseReason) :
    Aligned first (sessions.modify i (fun r => some (r.getD reason))) w where
  opened := h.opened.trans (List.length_modify _ _ _).symm
  ended := by
    rw [List.prefix_iff_getElem?]
    intro k hk
    have hended := List.prefix_iff_getElem?.mp h.ended k hk
    rw [List.getElem_map] at hended ⊢
    exact closed_kept hended
  watching session hphase := (h.watching session hphase).trans (List.length_modify _ _ _).symm
  reconnecting r o hphase := (h.reconnecting r o hphase).trans (List.length_modify _ _ _).symm

/-- The session that is watched has ended. -/
lemma Aligned.closed (config : ReconnectConfig) {session : OpenedSession} {i : ℕ}
    {reason : CloseReason} (h : Aligned first sessions w) (hphase : w.phase = .watching session)
    (hlast : i + 1 = sessions.length) (hreason : sessions[i]? = some (some reason)) :
    Aligned first sessions (sessionClosed config w session reason) ∧
      (sessionClosed config w session reason).handles first = w.handles first := by
  obtain ⟨o, hor, hoa, houtages⟩ : ∃ o : Outage, o.reason = reason ∧ o.attempts = [] ∧
      (sessionClosed config w session reason).outages = w.outages ++ [o] := by
    rw [outages_of_watching hphase]
    unfold sessionClosed
    split
    · exact ⟨_, rfl, rfl, rfl⟩
    · exact ⟨_, rfl, rfl, List.append_nil _⟩
  have hhandles : (sessionClosed config w session reason).handles first = w.handles first := by
    simp [Watch.handles, houtages, hoa, stepsOf]
  have hlength := h.watching session hphase
  obtain rfl : i = w.outages.length := by omega
  refine ⟨⟨by rw [hhandles]; exact h.opened, ?_, fun session' hwatching => ?_, fun r' o' _ => ?_⟩,
    hhandles⟩
  · have htake := List.prefix_iff_eq_take.mp h.ended
    rw [List.length_map, List.length_map] at htake
    rw [houtages, List.map_append, List.map_append, htake, List.map_singleton, List.map_singleton,
      hor]
    have hnext : sessions.take (w.outages.length + 1) =
        sessions.take w.outages.length ++ [some reason] := by
      rw [List.take_add_one, hreason]
      rfl
    exact hnext ▸ List.take_prefix _ _
  · unfold sessionClosed at hwatching
    split at hwatching <;> cases hwatching
  · rw [houtages, List.length_append]
    exact hlast

/-- An attempt that installs no session. -/
lemma Aligned.fails {round : Round} (h : Aligned first sessions w)
    (hphase : w.phase = .reconnecting r o)
    (hnone : round.log.filterMap ReconnectStep.adopted = []) :
    Aligned first sessions (afterRound config w o a round) := by
  obtain ⟨o', hreason, -, houtages⟩ := outages_afterRound config w o a round
  have hw := outages_of_reconnecting hphase
  refine ⟨?_, ?_, fun session hwatching => ?_, fun r' o' _ => ?_⟩
  · rw [handles_afterRound hphase, hnone, List.append_nil]
    exact h.opened
  · have hended := h.ended
    rw [hw] at hended
    rw [houtages]
    simpa [hreason] using hended
  · have hfind : round.log.findSome? ReconnectStep.adopted = none := by
      rw [← List.head?_filterMap, hnone]
      rfl
    cases round with
    | again r' => cases hwatching
    | finished result log =>
      cases result with
      | ok =>
        rw [afterRound, show log.findSome? ReconnectStep.adopted = none from hfind] at hwatching
        cases hwatching
      | err e => cases hwatching
      | panicked => cases hwatching
  · have hlength := h.reconnecting r o hphase
    rw [hw, List.length_append] at hlength
    rw [houtages, List.length_append]
    exact hlength

/-- An attempt that installs a session. -/
lemma Aligned.adopts (config : ReconnectConfig) (a : Attempt) {session : OpenedSession}
    {log : List ReconnectStep} (h : Aligned first sessions w) (hphase : w.phase = .reconnecting r o)
    (hone : log.filterMap ReconnectStep.adopted = [session]) :
    Aligned first (sessions ++ [none]) (afterRound config w o a (.finished .ok log)) ∧
      (afterRound config w o a (.finished .ok log)).phase = .watching session := by
  have hphase' : (afterRound config w o a (.finished .ok log)).phase = .watching session := by
    have hfind : log.findSome? ReconnectStep.adopted = some session := by
      rw [← List.head?_filterMap, hone]
      rfl
    simp [afterRound, hfind]
  obtain ⟨o', hreason, -, houtages⟩ := outages_afterRound config w o a (.finished .ok log)
  have hw := outages_of_reconnecting hphase
  refine ⟨⟨?_, ?_, fun session' _ => ?_, fun r' o' hreconnecting => ?_⟩, hphase'⟩
  · rw [handles_afterRound hphase, Round.log, hone, List.length_append, List.length_append,
      h.opened]
    rfl
  · have hended := h.ended
    rw [hw] at hended
    rw [houtages]
    exact (by simpa [hreason] using hended : _ <+: sessions).trans (List.prefix_append _ _)
  · have hlength := h.reconnecting r o hphase
    rw [hw, List.length_append] at hlength
    rw [houtages, List.length_append, List.length_append]
    exact congrArg (· + 1) hlength
  · rw [hphase'] at hreconnecting
    cases hreconnecting

/-! ## Places -/

lemma Carries.limit (h : Carries names retry (nextAttempt r))
    (hlimit : config.exhausted retry.attempt = false) :
    config.exhausted (r.attempt + 1) = false := by
  rw [← h.attempt] at hlimit
  exact hlimit

/-- A place does not depend on why the open sessions will be closed, and a caller of `terminate` may
take the current one. -/
lemma At.mono {current' : Option ℕ} {pc : Supervisor.SupervisorPc} {phase : Phase}
    (h : At config names sessions current pc phase)
    (hclosed : ∀ (i : ℕ) (reason : CloseReason), sessions[i]? = some (some reason) →
      sessions'[i]? = some (some reason))
    (hcurrent : ∀ j, current' = some j → current = some j) :
    At config names sessions' current' pc phase := by
  cases h with
  | reading hlatest h => exact .reading hlatest fun j hj => h j (hcurrent j hj)
  | selecting hlatest => exact .selecting hlatest
  | polling hlatest => exact .polling hlatest
  | waiting hlatest => exact .waiting hlatest
  | deciding hlatest h => exact .deciding hlatest (hclosed _ _ h)
  | adopting hlatest => exact .adopting hlatest
  | attempting hcarries => exact .attempting hcarries
  | pausing hcarries hlimit => exact .pausing hcarries hlimit
  | sleeping hcarries hlimit => exact .sleeping hcarries hlimit
  | resuming hcarries hlimit hsession => exact .resuming hcarries hlimit hsession
  | starting hattempt hceiling hnone hlimit hturned =>
    exact .starting hattempt hceiling hnone hlimit hturned
  | givingUp => exact .givingUp
  | closingOutput => exact .closingOutput
  | clearing => exact .clearing
  | finished => exact .finished
  | returned => exact .returned
  | panicked => exact .panicked

/-- Both double the ceiling, or panic. -/
lemma At.backOff (hcarries : Carries names retry r) :
    At config names sessions current (Supervisor.backOff config retry)
      (afterRound config w o a (SsmBridge.backOff config r)).phase := by
  unfold Supervisor.backOff SsmBridge.backOff
  rw [hcarries.ceiling]
  split
  · exact .attempting ⟨hcarries.attempt, rfl, hcarries.resumeFrom, hcarries.last⟩
  · exact .panicked

/-! ## Attempts -/

/-- An attempt of the coarse supervisor. -/
lemma attempt_step (hphase : w.phase = .reconnecting r o)
    (hlimit : config.exhausted (r.attempt + 1) = false) (a : Attempt) :
    step config w (.attempt a) =
      some (afterRound config w o a (reconnectRound config a (nextAttempt r))) := by
  simp [step, hphase, hlimit, nextAttempt]

/-- Shutdown is signalled before the attempt. -/
lemma round_shutdown (config : ReconnectConfig) (r : Reconnecting) (hdown : a.shutdown = true) :
    ∃ e, reconnectRound config a (nextAttempt r) =
      .finished (.err e) [announce (nextAttempt r) a] := by
  simp [reconnectRound, hdown, nextAttempt, announce]

/-- The session is resumed. -/
lemma round_resumed {session : OpenedSession} (hup : a.shutdown = false)
    (hfrom : r.resumeFrom = some session)
    (hresume : resumeSession config a session = .ok (some session)) :
    ∃ log, log.filterMap ReconnectStep.adopted = [session] ∧
      reconnectRound config a (nextAttempt r) = .finished .ok log := by
  simp only [reconnectRound, resumeRound, nextAttempt, hup, hfrom, hresume]
  exact ⟨_, rfl, rfl⟩

/-- Resuming failed for now. -/
lemma round_resumeLater {session : OpenedSession} {e : Error} (hup : a.shutdown = false)
    (hfrom : r.resumeFrom = some session) (hresume : resumeSession config a session = .error e)
    (he : e.isRetriable = true) :
    ∃ log, log.filterMap ReconnectStep.adopted = [] ∧ reconnectRound config a (nextAttempt r) =
      backOff config { nextAttempt r with log } := by
  simp only [reconnectRound, resumeRound, nextAttempt, hup, hfrom, hresume, he]
  exact ⟨_, rfl, rfl⟩

/-- The attempt turns to `start_session`. -/
lemma round_turned (hup : a.shutdown = false)
    (hturned : r.resumeFrom = none ∨ ∃ session, r.resumeFrom = some session ∧
      Definite config a session) :
    ∃ log, log.filterMap ReconnectStep.adopted = [] ∧ reconnectRound config a (nextAttempt r) =
      startRound config a { nextAttempt r with resumeFrom := none, log } := by
  obtain hnone | ⟨session, hfrom, hrefused | ⟨e, hresume, he⟩⟩ := hturned
  · refine ⟨[announce (nextAttempt r) a], rfl, ?_⟩
    simp [reconnectRound, resumeRound, nextAttempt, hup, hnone, announce]
  · refine ⟨[announce (nextAttempt r) a, .resumeCall session.id], rfl, ?_⟩
    simp [reconnectRound, resumeRound, nextAttempt, hup, hfrom, hrefused, announce]
  · refine ⟨[announce (nextAttempt r) a, .resumeCall session.id], rfl, ?_⟩
    simp [reconnectRound, resumeRound, nextAttempt, hup, hfrom, hresume, he, announce]

lemma log_backOff : (SsmBridge.backOff config r).log = r.log := by
  unfold SsmBridge.backOff
  split <;> rfl

/-! ## Steps -/

/-- The coarse supervisor goes on to where the fine one is. -/
def Follows (config : ReconnectConfig) (first : OpenedSession) (w : Watch) (σ : Supervised) :
    Prop :=
  ∃ w', Reachable (step config) free w w' ∧ Related config first σ w'

variable {σ σ' : Supervised}

lemma Follows.stay (haligned : Aligned first σ.sessions w)
    (h : At config (w.handles first) σ.sessions σ.current σ.supervisor w.phase) :
    Follows config first w σ :=
  ⟨w, .refl, haligned, h⟩

lemma Follows.step {l : Label} (hstep : step config w l = some w')
    (haligned : Aligned first σ.sessions w')
    (h : At config (w'.handles first) σ.sessions σ.current σ.supervisor w'.phase) :
    Follows config first w σ :=
  ⟨w', Reachable.refl.tail hstep trivial, haligned, h⟩

/-- An attempt that installs no session. -/
lemma Follows.fails {round : Round} (haligned : Aligned first σ.sessions w)
    (hphase : w.phase = .reconnecting r o) (hlimit : config.exhausted (r.attempt + 1) = false)
    (hround : reconnectRound config a (nextAttempt r) = round)
    (hnone : round.log.filterMap ReconnectStep.adopted = [])
    (h : At config (w.handles first) σ.sessions σ.current σ.supervisor
      (afterRound config w o a round).phase) : Follows config first w σ := by
  have hstep := attempt_step hphase hlimit a
  rw [hround] at hstep
  refine .step hstep (haligned.fails hphase hnone) ?_
  rw [handles_afterRound hphase, hnone, List.append_nil]
  exact h

/-- An attempt that installs a session. -/
lemma Follows.adopts {session : OpenedSession} {log : List ReconnectStep}
    (haligned : Aligned first sessions w) (hphase : w.phase = .reconnecting r o)
    (hlimit : config.exhausted (r.attempt + 1) = false)
    (hround : reconnectRound config a (nextAttempt r) = .finished .ok log)
    (hone : log.filterMap ReconnectStep.adopted = [session])
    (hsessions : σ.sessions = sessions ++ [none])
    (hpc : σ.supervisor = .adopting sessions.length) : Follows config first w σ := by
  have hstep := attempt_step hphase hlimit a
  rw [hround] at hstep
  obtain ⟨hadopts, hphase'⟩ := haligned.adopts config a hphase hone
  refine .step hstep (hsessions ▸ hadopts) ?_
  rw [handles_afterRound hphase, Round.log, hone, hphase', hpc]
  refine .adopting ⟨?_, ?_⟩
  · rw [← haligned.opened, List.getElem?_concat_length]
  · rw [List.length_append, haligned.opened]
    rfl

/-- An attempt that ends with the shutdown. -/
lemma follows_shutdown (haligned : Aligned first σ.sessions w)
    (hphase : w.phase = .reconnecting r o) (hlimit : config.exhausted (r.attempt + 1) = false)
    (hpc : σ.supervisor = .givingUp) : Follows config first w σ := by
  let a : Attempt := ⟨0, true, .ok ⟨none, none⟩, .ok (), .ok ⟨"", 0⟩⟩
  obtain ⟨e, hround⟩ := round_shutdown (a := a) config r rfl
  refine .fails haligned hphase hlimit hround rfl ?_
  rw [hpc]
  exact .givingUp

/-- The attempts are used up. -/
lemma follows_exhausted (haligned : Aligned first σ.sessions w)
    (hphase : w.phase = .reconnecting r o) (hlimit : config.exhausted (r.attempt + 1) = true)
    (hpc : σ.supervisor = .givingUp) : Follows config first w σ := by
  let left : Watch :=
    { phase := .finished
      past := w.past ++ [{ o with result := some (.err config.exhaustedError) }]
      events := w.events ++ [giveUp config config.exhaustedError] }
  have hexhaust : step config w .exhaust = some left := by
    rw [step, hphase]
    exact if_pos hlimit
  have hw := outages_of_reconnecting hphase
  have hleft : left.outages =
      w.past ++ [{ o with result := some (.err config.exhaustedError) }] := List.append_nil _
  have hplace : At config (left.handles first) σ.sessions σ.current σ.supervisor left.phase := by
    rw [hpc]
    exact .givingUp
  refine .step hexhaust (haligned.leaves ?_ ?_ (fun _ h => ?_) fun _ _ h => ?_) hplace
  · exact (handles_goesOn hw hleft (List.append_nil _).symm).trans
      (List.append_nil _)
  · rw [hw, hleft, List.map_append, List.map_append]
    rfl
  · cases h
  · cases h

/-- The session has ended; the supervisor decides what to do. -/
lemma deciding_follows {i : ℕ} (h : Related config first σ w) (hpc : σ.supervisor = .deciding i)
    (hstep : Supervisor.superviseStep config σ = some σ') : Follows config first w σ' := by
  obtain ⟨haligned, hat⟩ := h
  rw [hpc] at hat
  generalize hphase : w.phase = phase at hat
  cases hat with
  | @deciding _ session reason hlatest hclosed =>
    obtain ⟨hclosed', hhandles⟩ := haligned.closed config hphase
      (haligned.opened ▸ hlatest.last) hclosed
    have hwatch : step config w (.closed (some reason)) =
        some (sessionClosed config w session reason) := by
      rw [step, hphase]
      rfl
    simp only [Supervisor.superviseStep, hpc, hclosed, Option.join_some, Option.getD_some] at hstep
    split at hstep <;> cases hstep
    · next hrecoverable =>
      refine .step hwatch hclosed' ?_
      rw [hhandles, sessionClosed, if_pos hrecoverable]
      refine .attempting ⟨rfl, rfl, ?_, fun j hj => ?_⟩
      · dsimp only
        split
        · exact hlatest.name.symm
        · rfl
      · dsimp only at hj
        split at hj <;> cases hj
        exact hlatest.last
    · next hrecoverable =>
      refine .step hwatch hclosed' ?_
      rw [sessionClosed, if_neg hrecoverable]
      exact .givingUp

/-- The steps of the supervisor that wait for nothing outside. -/
lemma supervise_follows (hrelated : Related config first σ w)
    (h : Supervisor.superviseStep config σ = some σ') : Follows config first w σ' := by
  have hdecides := h
  obtain ⟨haligned, hat⟩ := hrelated
  unfold Supervisor.superviseStep at h
  generalize hphase : w.phase = phase at hat
  generalize hpc : σ.supervisor = pc at hat h
  have hleaves {session : OpenedSession} (hwatching : w.phase = .watching session) :
      Aligned first σ.sessions { w with phase := .left } := by
    have houtages : Watch.outages { w with phase := .left } = w.outages :=
      (List.append_nil _).trans (outages_of_watching hwatching).symm
    refine haligned.leaves ?_ (by rw [houtages]) (fun _ h => ?_) fun _ _ h => ?_
    · rw [Watch.handles, houtages, Watch.handles]
    · cases h
    · cases h
  cases hat with
  | @reading i session hlatest hcurrent =>
    dsimp only at h
    split at h
    · next j hj =>
      cases h
      obtain rfl := hcurrent j hj
      exact .stay haligned (hphase ▸ .selecting hlatest)
    · cases h
      exact .step (l := .stop) (by rw [step, hphase]) (hleaves hphase) .returned
  | selecting hlatest =>
    cases hshutdown : σ.shutdown with
    | false =>
      simp only [hshutdown, Bool.false_eq_true, if_false] at h
      cases h
      exact .stay haligned (hphase ▸ .polling hlatest)
    | true =>
      simp only [hshutdown, if_true] at h
      cases h
      exact .step (l := .stop) (by rw [step, hphase]) (hleaves hphase) .returned
  | @polling i session hlatest =>
    dsimp only at h
    cases hclosed : σ.isClosed i with
    | false =>
      simp only [hclosed, Bool.false_eq_true, if_false] at h
      cases h
      exact .stay haligned (hphase ▸ .waiting hlatest)
    | true =>
      simp only [hclosed, if_true] at h
      cases h
      obtain ⟨reason?, hsession, hreason⟩ := (Option.any_eq_true _ _).mp hclosed
      obtain ⟨reason, rfl⟩ := Option.isSome_iff_exists.mp hreason
      exact .stay haligned (hphase ▸ .deciding hlatest hsession)
  | waiting hlatest =>
    dsimp only at h
    split at h <;> cases h
    exact .stay haligned (hphase ▸ .selecting hlatest)
  | deciding hlatest hclosed =>
    refine deciding_follows ⟨haligned, ?_⟩ hpc hdecides
    rw [hphase, hpc]
    exact .deciding hlatest hclosed
  | adopting hlatest =>
    cases h
    exact .stay haligned (hphase ▸ .reading hlatest fun j hj => (Option.some_inj.mp hj).symm)
  | @attempting retry r o hcarries =>
    dsimp only at h
    split at h <;> cases h
    · next hlimit =>
      exact follows_exhausted haligned hphase (hcarries.attempt ▸ hlimit) rfl
    · next hlimit =>
      have hnext : Carries (w.handles first) { retry with attempt := retry.attempt + 1 }
          (nextAttempt r) :=
        ⟨congrArg (· + 1) hcarries.attempt, hcarries.ceiling, hcarries.resumeFrom, hcarries.last⟩
      exact .stay haligned (hphase ▸ .pausing hnext (Bool.eq_false_of_not_eq_true hlimit))
  | @pausing retry r o hcarries hlimit =>
    cases hshutdown : σ.shutdown with
    | false =>
      simp only [hshutdown, Bool.false_eq_true, if_false] at h
      cases h
      exact .stay haligned (hphase ▸ .sleeping hcarries hlimit)
    | true =>
      simp only [hshutdown, if_true] at h
      cases h
      exact follows_shutdown haligned hphase (hcarries.limit hlimit) rfl
  | @sleeping retry r o hcarries hlimit =>
    dsimp only at h
    split at h <;> cases h
    exact follows_shutdown haligned hphase (hcarries.limit hlimit) rfl
  | resuming hcarries hlimit hsession => cases h
  | starting hattempt hceiling hnone hlimit hturned => cases h
  | givingUp =>
    cases h
    exact .stay haligned (hphase ▸ .closingOutput)
  | closingOutput =>
    cases h
    exact .stay haligned (hphase ▸ .clearing)
  | clearing =>
    cases h
    exact .stay haligned (hphase ▸ .finished)
  | finished => cases h
  | returned => cases h
  | panicked => cases h

/-- The backoff is over. -/
lemma sleepEnds_follows (hrelated : Related config first σ w)
    (h : Supervisor.sleepEnds σ = some σ') : Follows config first w σ' := by
  obtain ⟨haligned, hat⟩ := hrelated
  unfold Supervisor.sleepEnds at h
  split at h
  · next retry hpc =>
    cases h
    rw [hpc] at hat
    generalize hphase : w.phase = phase at hat
    cases hat with
    | @sleeping _ r o hcarries hlimit =>
      refine .stay haligned ?_
      rw [hphase]
      have hresume := hcarries.resumeFrom
      cases hfrom : retry.resumeFrom with
      | some i =>
        rw [hfrom] at hresume
        have hlast := hcarries.last i hfrom
        exact .resuming hcarries hlimit
          (hresume.trans (List.getElem?_eq_getElem (by omega)))
      | none =>
        rw [hfrom] at hresume
        exact .starting hcarries.attempt hcarries.ceiling hfrom hlimit (.inl hresume)
  · cases h

/-- `resume_session` returns. -/
lemma resumeReturns_follows (hvalid : config.validate = .ok ())
    (hrelated : Related config first σ w) {result : Except Error Bool}
    (h : Supervisor.resumeReturns config σ result = some σ') :
    Follows config first w σ' := by
  obtain ⟨haligned, hat⟩ := hrelated
  unfold Supervisor.resumeReturns at h
  split at h
  · next retry hpc =>
    rw [hpc] at hat
    generalize hphase : w.phase = phase at hat
    cases hat with
    | @resuming _ r o hcarries hlimit session hsession =>
      cases result with
      | ok resumed =>
        cases resumed with
        | true =>
          cases h
          let a : Attempt := ⟨0, false, .ok ⟨some "", some "token"⟩, .ok (), .ok session⟩
          have hresume : resumeSession config a session = .ok (some session) := by
            simp [resumeSession, hvalid, a]
          obtain ⟨log, hone, hround⟩ := round_resumed rfl hsession hresume
          exact .adopts haligned hphase (hcarries.limit hlimit) hround hone rfl rfl
        | false =>
          cases h
          refine .stay haligned ?_
          rw [hphase]
          refine .starting hcarries.attempt hcarries.ceiling rfl hlimit
            (.inr ⟨session, .ok ⟨none, none⟩, .ok (), hsession, fun a hcall hopened => .inl ?_⟩)
          simp [resumeSession, hvalid, hcall]
      | error e =>
        have hresume : ∀ a : Attempt, a.resumeCall = .ok ⟨some "", some "token"⟩ →
            a.openResumed = .error e → resumeSession config a session = .error e := by
          intro a hcall hopened
          simp [resumeSession, hvalid, hcall, hopened]
        dsimp only at h
        split at h <;> cases h
        · next he =>
          let a : Attempt := ⟨0, false, .ok ⟨some "", some "token"⟩, .error e, .ok session⟩
          obtain ⟨log, hnone, hround⟩ := round_resumeLater rfl hsession (hresume a rfl rfl) he
          refine .fails haligned hphase (hcarries.limit hlimit) hround (log_backOff ▸ hnone) ?_
          exact .backOff ⟨hcarries.attempt, hcarries.ceiling, hcarries.resumeFrom, hcarries.last⟩
        · next he =>
          refine .stay haligned ?_
          rw [hphase]
          exact .starting hcarries.attempt hcarries.ceiling rfl hlimit
            (.inr ⟨session, _, _, hsession, fun a hcall hopened =>
              .inr ⟨e, hresume a hcall hopened, by simpa using he⟩⟩)
  · cases h

/-- `start_session` returns. -/
lemma startReturns_follows (hrelated : Related config first σ w) {result : Except Error Unit}
    (h : Supervisor.startReturns config σ result = some σ') : Follows config first w σ' := by
  obtain ⟨haligned, hat⟩ := hrelated
  unfold Supervisor.startReturns at h
  split at h
  · next retry hpc =>
    rw [hpc] at hat
    generalize hphase : w.phase = phase at hat
    cases hat with
    | @starting _ r o hattempt hceiling hnone hlimit hturned =>
      have hlimit' : config.exhausted (r.attempt + 1) = false := by
        rw [hattempt]
        exact hlimit
      -- The attempt that met what was found out, and this answer.
      obtain ⟨a, hstart, log, hlog, hround⟩ : ∃ a : Attempt,
          a.startSession = result.map (fun _ => ⟨"", σ.sessions.length⟩) ∧
          ∃ log, log.filterMap ReconnectStep.adopted = [] ∧
            reconnectRound config a (nextAttempt r) =
              startRound config a { nextAttempt r with resumeFrom := none, log } := by
        obtain hnone | ⟨session, call, opened, hfrom, hdefinite⟩ := hturned
        · exact ⟨⟨0, false, .ok ⟨none, none⟩, .ok (), _⟩, rfl, round_turned rfl (.inl hnone)⟩
        · exact ⟨⟨0, false, call, opened, _⟩, rfl,
            round_turned rfl (.inr ⟨session, hfrom, hdefinite _ rfl rfl⟩)⟩
      cases result with
      | ok opened =>
        cases h
        simp only [startRound, hstart, Except.map] at hround
        refine .adopts haligned hphase hlimit' hround
          (?_ : _ = [⟨"", σ.sessions.length⟩]) rfl rfl
        simp only [List.filterMap_append, hlog, List.append_assoc, List.nil_append]
        rfl
      | error e =>
        simp only [startRound, hstart, Except.map] at hround
        dsimp only at h
        split at h <;> cases h
        · next he =>
          rw [if_pos he] at hround
          refine .fails haligned hphase hlimit' hround ?_ ?_
          · rw [log_backOff, List.filterMap_append, hlog]
            rfl
          · exact .backOff ⟨hattempt, hceiling, by simp [hnone], fun i hi => by simp [hnone] at hi⟩
        · next he =>
          rw [if_neg he] at hround
          refine .fails haligned hphase hlimit' hround ?_ .givingUp
          rw [Round.log, List.filterMap_append, hlog]
          rfl
  · cases h

/-- The coarse supervisor follows every step of the fine one. -/
theorem step_follows (hvalid : config.validate = .ok ()) {timeout : ℕ} {l : Supervisor.Label}
    (hrelated : Related config first σ w)
    (h : Supervisor.step config timeout σ l = some σ') : Follows config first w σ' := by
  have ⟨haligned, hat⟩ := hrelated
  have hclosed : ∀ (j : ℕ) (reason : CloseReason),
      Follows config first w (σ.closeSession j reason) := fun j reason =>
    .stay (haligned.close j reason) (hat.mono (fun _ _ => closed_kept) fun _ => id)
  cases l with
  | supervise => exact supervise_follows hrelated h
  | sleepEnds => exact sleepEnds_follows hrelated h
  | resumeReturns result => exact resumeReturns_follows hvalid hrelated h
  | startReturns result => exact startReturns_follows hrelated h
  | sessionCloses i reason =>
    cases h
    exact hclosed i reason
  | terminate =>
    cases h
    exact .stay haligned hat
  | terminateStep k =>
    simp only [Supervisor.step, Supervisor.terminateStep] at h
    split at h <;> cases h
    · exact .stay haligned hat
    · exact .stay haligned (hat.mono (fun _ _ => id) fun _ h => (by cases h))
    · obtain ⟨w', hw', hrelated'⟩ := hclosed _ .terminated
      exact ⟨w', hw', hrelated'.aligned, hrelated'.place⟩
    · exact .stay haligned hat
  | send data =>
    cases h
    exact .stay haligned hat
  | sendStep k room expired =>
    simp only [Supervisor.step, Supervisor.sendStep] at h
    split at h
    · obtain ⟨call, -, rfl⟩ := Option.map_eq_some_iff.mp h
      exact .stay haligned hat
    · cases h

/-- At first both watch the first session. -/
lemma Related.new : Related config first Supervised.new (Watch.new first) where
  aligned :=
    { opened := rfl
      ended := List.nil_prefix
      watching := fun _ _ => rfl
      reconnecting := fun _ _ h => (by cases h) }
  place := .reading (i := 0) ⟨rfl, rfl⟩ fun _ hj => (Option.some_inj.mp hj).symm

end

/-- **The fine supervisor decides as the coarse one.** Along every run of `supervise` taken one poll
at a time, among callers and closing sessions, goes one run of the attempt-at-a-time supervisor that
is always where it is.  What is proved about that one's histories is thereby true of this one's. -/
theorem refines_watch {config : ReconnectConfig} (hvalid : config.validate = .ok ()) {timeout : ℕ}
    (first : OpenedSession) (ls : List Supervisor.Label) :
    FollowsAlong (Supervisor.step config timeout) (step config) (Related config first)
      Supervised.new ls (Watch.new first) :=
  followsAlong_of_step (fun _ _ _ _ hrelated hstep => step_follows hvalid hrelated hstep)
    Related.new ls

/-- The session is lost and resumed: one outage, two handles, and the second one is watched. -/
theorem refines_watch_resumed :
    ∃ σ w session, run (Supervisor.step ⟨0, 10, 100, "i-a", .ok ()⟩ 30) Supervised.new
        ([.sessionCloses 0 (.transport "reset")] ++ List.replicate 6 .supervise ++
          [.sleepEnds, .resumeReturns (.ok true), .supervise]) = some σ ∧
      Reachable (step ⟨0, 10, 100, "i-a", .ok ()⟩) free (Watch.new ⟨"s", 7⟩) w ∧
      w.outages.map Outage.reason = [.transport "reset"] ∧
      (w.handles ⟨"s", 7⟩).length = 2 ∧ (w.handles ⟨"s", 7⟩)[1]? = some session ∧
      w.phase = .watching session := by
  have hrun : (run (Supervisor.step ⟨0, 10, 100, "i-a", .ok ()⟩ 30) Supervised.new
      (([.sessionCloses 0 (.transport "reset")] : List Supervisor.Label) ++
        List.replicate 6 .supervise ++
        ([.sleepEnds, .resumeReturns (.ok true), .supervise] : List Supervisor.Label))).any
      (fun (σ : Supervised) => decide (σ.supervisor = .reading) &&
        decide (σ.sessions = [some (.transport "reset"), none])) = true := by
    decide +kernel
  obtain ⟨σ, hσ, hp⟩ := (Option.any_eq_true _ _).mp hrun
  simp only [Bool.and_eq_true, decide_eq_true_eq] at hp
  obtain ⟨hpc, hsessions⟩ := hp
  obtain ⟨w, hw, haligned, hplace⟩ := (refines_watch rfl ⟨"s", 7⟩ _).last hσ
  rw [hpc] at hplace
  rw [hsessions] at haligned
  generalize hphase : w.phase = phase at hplace
  cases hplace with
  | @reading i session hlatest =>
    have hlast := hlatest.last.trans haligned.opened
    obtain rfl : i = 1 := Nat.succ.inj hlast
    have hcount : (w.outages.map Outage.reason).length = 1 := by
      rw [List.length_map]
      exact Nat.succ.inj (haligned.watching session hphase)
    obtain ⟨reason, hreason⟩ := List.length_eq_one_iff.mp hcount
    have hended := haligned.ended
    rw [hreason, List.map_singleton, List.cons_prefix_cons] at hended
    cases hended.1
    exact ⟨σ, w, session, hσ, hw, hreason, haligned.opened, hlatest.name, hphase⟩

end SsmBridge.Supervision
