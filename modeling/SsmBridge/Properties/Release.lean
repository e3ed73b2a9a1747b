import SsmBridge.Construction.Ending

/-!
# Terminating releases the AWS session

`terminate` calls `ssm:TerminateSession` if it read the closed flag down.  The flag also goes up
when the session ends by itself, and another call can read it before the first one raises it.

`terminate_releases_iff` is about every run in which at least one call was made and all have
returned. The session is released, or was closed by the agent, and at most one call issued the
request, if and only if each call that read the flag did so in turn: none read it down after another
one had, and none found it up before one had found it down, unless the agent had closed the session.
-/

namespace SsmBridge.Ending

open Machine
open Pool (Termination)

variable {σ σ' : SharedSession} {l : Label} {i : ℕ} {call call' : Termination}

/-! ## What calls have read -/

/-- The call read the flag down. -/
def readOpen : Termination → Bool
  | .called => false
  | .closing first | .joining first | .returned first => first

/-- The call has issued `ssm:TerminateSession`. -/
def hasIssued (σ : SharedSession) : Termination → Bool
  | .returned first => first && σ.session.ssm
  | .called | .closing _ | .joining _ => false

/-- How many calls read the flag down. -/
def SharedSession.openReads (σ : SharedSession) : ℕ := σ.calls.countP readOpen

/-- How many calls issued the request. -/
def SharedSession.issuers (σ : SharedSession) : ℕ := σ.calls.countP (hasIssued σ)

/-- The close reason is `AgentClosed`. -/
def SharedSession.AgentClosed (σ : SharedSession) : Prop :=
  ∃ exitCode detail, σ.closeReason = some (.agentClosed exitCode detail)

/-- A call that reads the flag down is the first to do so; one that reads it up does so after
another read it down, or after the agent closed the session. -/
def ReadsInTurn (σ : SharedSession) (l : Label) (_ : SharedSession) : Prop :=
  ∀ i, l = .proceed i → σ.calls[i]? = some .called →
    (σ.session.closed = false → σ.openReads = 0) ∧
      (σ.session.closed = true → 0 < σ.openReads ∨ σ.AgentClosed)

/-- A call after its own step counts as before. -/
lemma countP_readOpen_set (hi : σ.calls[i]? = some call) (h : readOpen call' = readOpen call) :
    (σ.calls.set i call').countP readOpen = σ.openReads := by
  have hset := countP_set_add (b := call') (p := readOpen) hi
  rw [h] at hset
  exact Nat.add_right_cancel hset

/-- A call that reads the flag down is counted. -/
lemma countP_readOpen_set_of_called (hi : σ.calls[i]? = some .called) :
    (σ.calls.set i (.closing true)).countP readOpen = σ.openReads + 1 := by
  have hset := countP_set_add (b := .closing true) (p := readOpen) hi
  simpa [readOpen, SharedSession.openReads] using hset

/-- Only a call that reads an open session adds to the count. -/
lemma openReads_of_moves (h : Moves σ l σ') :
    σ'.openReads = σ.openReads ∨
      ∃ i, l = .proceed i ∧ σ.calls[i]? = some .called ∧ σ.session.closed = false ∧
        σ'.openReads = σ.openReads + 1 := by
  cases h with
  | late hclosed => exact Or.inl rfl
  | close hopen => exact Or.inl rfl
  | terminate =>
    left
    simp [SharedSession.openReads, readOpen]
  | @read i hi =>
    cases hclosed : σ.session.closed with
    | true => exact Or.inl (countP_readOpen_set hi rfl)
    | false =>
      exact Or.inr ⟨i, rfl, hi, rfl, countP_readOpen_set_of_called hi⟩
  | shut hi => exact Or.inl (countP_readOpen_set hi rfl)
  | request hi => exact Or.inl (countP_readOpen_set hi rfl)

/-! ## Every run -/

/-- What holds in every state of a run. -/
structure Sound (σ : SharedSession) : Prop where
  reason : σ.session.closed = σ.closeReason.isSome
  ssm : σ.session.ssm = true
  released : σ.session.released = true ↔ ∃ (j : ℕ), σ.calls[j]? = some (.returned true)

lemma Sound.opened (id : String) (config : SessionConfig) : Sound (opened id config) := by
  refine ⟨rfl, rfl, ?_⟩
  simp [Ending.opened]

/-- Moves of a call that do not return leave the returned calls. -/
lemma returned_iff_of_set (hi : σ.calls[i]? = some call) (hcall : call ≠ .returned true)
    (hcall' : call' ≠ .returned true) :
    (∃ (j : ℕ), (σ.calls.set i call')[j]? = some (.returned true)) ↔
      ∃ (j : ℕ), σ.calls[j]? = some (.returned true) := by
  constructor
  · rintro ⟨j, hj⟩
    rcases getElem?_of_set hj with ⟨-, rfl⟩ | ⟨-, hget⟩
    · exact absurd rfl hcall'
    · exact ⟨j, hget⟩
  · rintro ⟨j, hj⟩
    have hne : i ≠ j := by
      rintro rfl
      exact hcall (Option.some_inj.mp (hi.symm.trans hj))
    exact ⟨j, by rw [List.getElem?_set_ne hne, hj]⟩

lemma Sound.step (hσ : Sound σ) (h : step σ l = some σ') : Sound σ' := by
  cases moves_of_step h with
  | late hclosed => exact hσ
  | close hopen => exact ⟨rfl, hσ.ssm, hσ.released⟩
  | terminate =>
    refine ⟨hσ.reason, hσ.ssm, ?_⟩
    rw [hσ.released]
    constructor
    · rintro ⟨j, hj⟩
      have hlt := (List.getElem?_eq_some_iff.mp hj).1
      exact ⟨j, by rw [List.getElem?_append_left hlt, hj]⟩
    · rintro ⟨j, hj⟩
      rcases getElem?_of_concat hj with ⟨-, hcall⟩ | ⟨-, hget⟩
      · cases hcall
      · exact ⟨j, hget⟩
  | read hi =>
    refine ⟨hσ.reason, hσ.ssm, ?_⟩
    rw [returned_iff_of_set hi (by simp) (by simp)]
    exact hσ.released
  | shut hi =>
    refine ⟨?_, hσ.ssm, ?_⟩
    · have hreason := hσ.reason
      cases hclosed : σ.session.closed with
      | true =>
        rw [hclosed] at hreason
        simpa using hreason
      | false => rfl
    · rw [returned_iff_of_set hi (by simp) (by simp)]
      exact hσ.released
  | @request i first hi =>
    refine ⟨hσ.reason, hσ.ssm, ?_⟩
    have hlt := (List.getElem?_eq_some_iff.mp hi).1
    cases first with
    | true =>
      have hnow : ∃ (j : ℕ), (σ.calls.set i (.returned true))[j]? = some (.returned true) :=
        ⟨i, List.getElem?_set_self hlt⟩
      simpa [hσ.ssm] using hnow
    | false =>
      rw [returned_iff_of_set hi (by simp) (by simp)]
      simpa using hσ.released

lemma Sound.of_run {id : String} {config : SessionConfig} {ls : List Label}
    (hrun : run Ending.step (Ending.opened id config) ls = some σ) : Sound σ :=
  (Reachable.refl.of_run hrun).invariant (Sound.opened id config) (fun _ _ _ hσ h _ => hσ.step h)

/-- The session stays closed, for the same reason. -/
lemma closed_of_moves (hclosed : σ.session.closed = true) (h : Moves σ l σ') :
    σ'.session.closed = true ∧ σ'.closeReason = σ.closeReason := by
  cases h with
  | late _ => exact ⟨hclosed, rfl⟩
  | close hopen => exact absurd (hclosed.symm.trans hopen) (by decide)
  | terminate => exact ⟨hclosed, rfl⟩
  | read _ => exact ⟨hclosed, rfl⟩
  | shut _ => exact ⟨rfl, by rw [hclosed, if_pos rfl]⟩
  | request _ => exact ⟨hclosed, rfl⟩

lemma Sound.closed_of_agentClosed (hσ : Sound σ) (h : σ.AgentClosed) : σ.session.closed = true := by
  obtain ⟨exitCode, detail, hreason⟩ := h
  rw [hσ.reason, hreason]
  rfl

/-! ## Calls in turn -/

/-- At most one call read the flag down, and one did if any has read it and the agent has not closed
the session. -/
structure InTurn (σ : SharedSession) : Prop where
  most : σ.openReads ≤ 1
  least : ∀ (j : ℕ) (call : Termination), σ.calls[j]? = some call → call ≠ .called →
    0 < σ.openReads ∨ σ.AgentClosed

lemma InTurn.least_step (hσ : Sound σ) (hmoves : Moves σ l σ')
    (h : 0 < σ.openReads ∨ σ.AgentClosed) : 0 < σ'.openReads ∨ σ'.AgentClosed := by
  rcases h with hread | hagent
  · left
    rcases openReads_of_moves hmoves with hsame | ⟨-, -, -, -, hmore⟩
    · rw [hsame]
      exact hread
    · rw [hmore]
      exact Nat.succ_pos _
  · right
    obtain ⟨-, hreason⟩ := closed_of_moves (hσ.closed_of_agentClosed hagent) hmoves
    rw [SharedSession.AgentClosed, hreason]
    exact hagent

lemma InTurn.step (hσ : Sound σ) (h : InTurn σ) (hstep : step σ l = some σ')
    (hturn : ReadsInTurn σ l σ') : InTurn σ' := by
  have hmoves := moves_of_step hstep
  constructor
  · rcases openReads_of_moves hmoves with hsame | ⟨i, rfl, hcall, hopen, hmore⟩
    · rw [hsame]
      exact h.most
    · rw [hmore, (hturn i rfl hcall).1 hopen]
  · -- What a call that has read the flag knew, it knows after the step.
    have hkept : ∀ (j : ℕ) (call : Termination), σ.calls[j]? = some call → call ≠ .called →
        0 < σ'.openReads ∨ σ'.AgentClosed :=
      fun j call hj hcall => InTurn.least_step hσ hmoves (h.least j call hj hcall)
    cases hmoves with
    | late _ => exact hkept
    | close _ => exact hkept
    | terminate =>
      intro j call hj hcall
      rcases getElem?_of_concat hj with ⟨-, rfl⟩ | ⟨-, hget⟩
      · exact absurd rfl hcall
      · exact hkept j call hget hcall
    | @read i hi =>
      intro _ _ _ _
      cases hclosed : σ.session.closed with
      | true => 
        have hknown := InTurn.least_step hσ (.read hi) ((hturn i rfl hi).2 hclosed)
        rwa [hclosed] at hknown
      | false =>
        left
        apply List.countP_pos_iff.mpr
        refine ⟨.closing true, ?_, rfl⟩
        have hlt := (List.getElem?_eq_some_iff.mp hi).1
        exact List.mem_of_getElem? (List.getElem?_set_self hlt)
    | @shut i first hi =>
      intro _ _ _ _
      exact hkept i (.closing first) hi (by simp)
    | @request i first hi =>
      intro _ _ _ _
      exact hkept i (.joining first) hi (by simp)

/-! ## Calls out of turn -/

/-- Closed by something else than the agent, before any call read the flag. -/
structure Unreleased (σ : SharedSession) : Prop where
  closed : σ.session.closed = true
  unread : σ.openReads = 0
  reason : ¬ σ.AgentClosed

/-- No later call releases such a session. -/
lemma Unreleased.step (h : Unreleased σ) (hstep : step σ l = some σ') : Unreleased σ' := by
  have hmoves := moves_of_step hstep
  obtain ⟨hclosed, hreason⟩ := closed_of_moves h.closed hmoves
  refine ⟨hclosed, ?_, ?_⟩
  · rcases openReads_of_moves hmoves with hsame | ⟨-, -, -, hopen, -⟩
    · rw [hsame, h.unread]
    · exact absurd (h.closed.symm.trans hopen) (by decide)
  · rw [SharedSession.AgentClosed, hreason]
    exact h.reason

/-- Two calls read the flag down. -/
lemma two_le_openReads_step (h : 2 ≤ σ.openReads) (hstep : step σ l = some σ') :
    2 ≤ σ'.openReads := by
  rcases openReads_of_moves (moves_of_step hstep) with hsame | ⟨-, -, -, -, hmore⟩
  · rwa [hsame]
  · omega

/-- A call that reads the flag out of turn spoils the run. -/
lemma of_not_readsInTurn (hstep : step σ l = some σ') (h : ¬ ReadsInTurn σ l σ') :
    2 ≤ σ'.openReads ∨ Unreleased σ' := by
  rw [ReadsInTurn] at h
  push Not at h
  obtain ⟨i, rfl, hcall, hbad⟩ := h
  cases hclosed : σ.session.closed with
  | false =>
    left
    have hread : σ.openReads ≠ 0 := by
      intro hzero
      have hcontra := (hbad (fun _ => hzero)).1
      exact absurd (hcontra.symm.trans hclosed) (by decide)
    have hσ' : { σ with calls := σ.calls.set i (.closing true) } = σ' := by
      simpa [Ending.step, proceed, hcall, Termination.step, hclosed] using hstep
    have hmore := countP_readOpen_set_of_called hcall
    rw [← hσ']
    show 2 ≤ (σ.calls.set i (.closing true)).countP readOpen
    omega
  | true =>
    right
    obtain ⟨-, hunread, hagent⟩ := hbad (fun hopen => absurd (hopen.symm.trans hclosed) (by decide))
    exact Unreleased.step ⟨hclosed, by omega, hagent⟩ hstep

/-! ## All calls have returned -/

/-- A call that has returned issued the request if it read the flag down. -/
lemma issuers_eq_openReads (hσ : Sound σ) (hreturned : ∀ call ∈ σ.calls, call.hasReturned = true) :
    σ.issuers = σ.openReads := by
  apply List.countP_congr
  intro call hmem
  cases call with
  | returned first => simp [hasIssued, readOpen, hσ.ssm]
  | called => exact absurd (hreturned _ hmem) (by decide)
  | closing first => exact absurd (hreturned _ hmem) (by simp [Termination.hasReturned])
  | joining first => exact absurd (hreturned _ hmem) (by simp [Termination.hasReturned])

/-- A session that was read in turn is released once its calls have returned. -/
lemma InTurn.released (hσ : Sound σ) (h : InTurn σ) (hcalled : σ.calls ≠ [])
    (hreturned : ∀ call ∈ σ.calls, call.hasReturned = true) :
    σ.session.released = true ∨ σ.AgentClosed := by
  obtain ⟨call, hmem⟩ := List.exists_mem_of_ne_nil _ hcalled
  obtain ⟨j, hj⟩ := List.mem_iff_getElem?.mp hmem
  have hnot : call ≠ .called := by
    rintro rfl
    exact absurd (hreturned _ hmem) (by decide)
  rcases h.least j call hj hnot with hread | hagent
  · left
    -- The call that read the flag down has returned, so it issued the request.
    obtain ⟨reader, hreader, hopen⟩ := List.countP_pos_iff.mp hread
    have hdone := hreturned reader hreader
    cases reader with
    | returned first =>
      obtain ⟨k, hk⟩ := List.mem_iff_getElem?.mp hreader
      obtain rfl : first = true := hopen
      exact hσ.released.mpr ⟨k, hk⟩
    | called => cases hdone
    | closing first => cases hdone
    | joining first => cases hdone
  · exact Or.inr hagent

lemma Unreleased.not_released (hσ : Sound σ) (h : Unreleased σ) :
    ¬ (σ.session.released = true ∨ σ.AgentClosed) := by
  rintro (hreleased | hagent)
  · obtain ⟨j, hj⟩ := hσ.released.mp hreleased
    have hpos : 0 < σ.openReads := List.countP_pos_iff.mpr ⟨_, List.mem_of_getElem? hj, rfl⟩
    rw [h.unread] at hpos
    exact Nat.lt_irrefl 0 hpos
  · exact h.reason hagent

/-- In every run in which `terminate` was called and all calls have returned: the session was
released or closed by the agent, and at most one call issued the request, if and only if the calls
read the closed flag in turn. -/
theorem terminate_releases_iff (id : String) (config : SessionConfig) (ls : List Label)
    (σ : SharedSession) (hrun : run step (opened id config) ls = some σ) (hcalled : σ.calls ≠ [])
    (hreturned : ∀ call ∈ σ.calls, call.hasReturned = true) :
    ((σ.session.released = true ∨ σ.AgentClosed) ∧ σ.issuers ≤ 1) ↔
      Along step ReadsInTurn (opened id config) ls := by
  have hσ := Sound.of_run hrun
  rw [issuers_eq_openReads hσ hreturned]
  constructor
  · rintro ⟨hleast, hmost⟩
    refine along_of_not_spoiled (fun τ => 2 ≤ τ.openReads ∨ Unreleased τ)
      (fun _ _ _ _ hstep => of_not_readsInTurn hstep) ?_ hrun ?_
    · rintro τ l τ' (htwo | hunreleased) hstep
      · exact Or.inl (two_le_openReads_step htwo hstep)
      · exact Or.inr (hunreleased.step hstep)
    · rintro (htwo | hunreleased)
      · omega
      · exact hunreleased.not_released hσ hleast
  · intro halong
    have hinit : InTurn (opened id config) := ⟨Nat.zero_le _, by simp [opened]⟩
    have hturn : InTurn σ :=
      (Reachable.of_along hrun halong).invariant_with
        (fun _ hreach => hreach.invariant (Sound.opened id config) (fun _ _ _ hτ h _ => hτ.step h))
        hinit (fun _ _ _ hτ h hs hg => h.step hτ hs hg)
    exact ⟨hturn.released hσ hcalled hreturned, hturn.most⟩

/-- A session that is open. -/
def openSession : SharedSession := opened "s-1" ⟨"i-0", none, 30000000000, 120000000000, 1024, 8192⟩

/-- Two calls, one after the other. -/
theorem terminate_releases_twice :
    (∃ σ, run step openSession [.terminate, .proceed 0, .proceed 0, .proceed 0, .terminate,
        .proceed 1, .proceed 1, .proceed 1] = some σ ∧ σ.session.released = true ∧ σ.issuers = 1) ∧
      Along step ReadsInTurn openSession [.terminate, .proceed 0, .proceed 0, .proceed 0,
        .terminate, .proceed 1, .proceed 1, .proceed 1] := by
  refine ⟨⟨_, rfl, by decide, by decide⟩, ?_⟩
  exact (terminate_releases_iff _ _ _ _ rfl (by decide) (by decide)).mp
    ⟨Or.inl (by decide), by decide⟩

/-- A call on a session that lost its connection returns and releases nothing. -/
theorem lost_session_never_released :
    ¬ ∀ (id : String) (config : SessionConfig) (ls : List Label) (σ : SharedSession),
      run step (opened id config) ls = some σ → σ.calls ≠ [] →
      (∀ call ∈ σ.calls, call.hasReturned = true) →
      (σ.session.released = true ∨ σ.AgentClosed) ∧ σ.issuers ≤ 1 := by
  intro hall
  have hbad := (hall "s-1" ⟨"i-0", none, 30000000000, 120000000000, 1024, 8192⟩
    [.close (.transport "connection reset"), .terminate, .proceed 0, .proceed 0, .proceed 0] _ rfl
    (by decide) (by decide)).1
  rcases hbad with hreleased | ⟨exitCode, detail, hreason⟩
  · revert hreleased
    decide
  · cases hreason

/-- Two calls that both read the flag before one raises it both issue the request. -/
example : (run step openSession [.terminate, .terminate, .proceed 0, .proceed 1, .proceed 0,
    .proceed 1, .proceed 0, .proceed 1]).map SharedSession.issuers = some 2 := by
  decide

end SsmBridge.Ending
