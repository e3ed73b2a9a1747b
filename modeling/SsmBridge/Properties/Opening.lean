import SsmBridge.Construction.OpeningMoves

/-!
# What opening a session does, and to whom

Four invariants of a call of `attach`, `start_session` or `resume_session` over all its runs, with
any answers of the services and of the sockets, and with a future that is dropped while it waits.

`Call.Careful` is about where something is sent: an upgrade goes to an endpoint that the policy
accepts, and a session's token is sent only on the socket to the URL it was given out with
(`token_stays_with_its_endpoint`).  `Call.Traced` is about what is sent: the log shows right before
an upgrade the key that its request was built with and, if it is signed, the credentials, and right
after it how it was refused.  `Call.Paced` is about when: at most three times, with the backoff in
between.  The two together are `upgrades_are_fresh`.  `Call.Accounted` is about the services: a
session that was started and cannot be opened is released, unless the service gave it out without an
address or a token (`started_session_is_released`).
-/

namespace SsmBridge.Connect

open Machine
open Pool (StartResponse)

variable {crates : UpgradeCrates}

/-! ## Where something is sent -/

lemma upgradeRequest_eq_ok {url key : String} {request : Request}
    (h : upgradeRequest crates url key = .ok request) :
    crates.intoClientRequest url key = .ok request := by
  unfold upgradeRequest at h
  split at h <;> cases h
  assumption

namespace Call

variable {s s' : Call}

/-- The caller or the service has given out this session. -/
def Granted (s : Call) (o : Opening) : Prop :=
  match s.origin with
  | .attach sessionId streamUrl token => o = s.attachment sessionId streamUrl token
  | .start =>
      (∃ t, (t, .answered o.sessionId o.streamUrl o.token) ∈ s.log) ∧
        o = s.managed o.sessionId o.streamUrl o.token Continuity.fresh
  | .resume sessionId continuity =>
      (∃ t, (t, .answered sessionId o.streamUrl o.token) ∈ s.log) ∧
        o = s.managed sessionId o.streamUrl o.token continuity

/-- The policy accepts the endpoint. -/
def Accepts (crates : UpgradeCrates) (s : Call) (url : String) : Prop :=
  s.config.endpointPolicy.validate crates.url url = .ok ()

/-- What is behind an entry of the log. -/
def Entry (crates : UpgradeCrates) (s : Call) : ℕ × Did → Prop
  | (_, .upgrade url _) => s.Accepts crates url
  | (_, .wrote url message) =>
      ∃ o requestId, s.Granted o ∧ o.streamUrl = url ∧ s.Accepts crates url ∧
        message = openMessage o requestId ∧ ∃ t request, (t, .upgrade url request) ∈ s.log
  | _ => True

/-- What is known where `connect` is. -/
def AtDial (crates : UpgradeCrates) (s : Call) (o : Opening) : DialPc → Prop
  | .checking => True
  | .connecting _ _ =>
      s.Accepts crates o.streamUrl ∧ ∃ t request, (t, .upgrade o.streamUrl request) ∈ s.log
  | .dialing _ _ | .resolving _ _ _ | .sleeping _ _ _ | .sending => s.Accepts crates o.streamUrl

/-- What is known where the call is. -/
def At (crates : UpgradeCrates) (s : Call) : CallPc → Prop
  | .starting => s.origin = .start
  | .opening o pc => s.Granted o ∧ s.AtDial crates o pc
  | .returned (.ok (some opened)) => ∃ o, s.Granted o ∧ opened.sessionId = o.sessionId ∧
      opened.config = s.config ∧ opened.ssm = o.ssm ∧ opened.continuity = o.continuity
  | _ => True

/-- The log has grown, at most. -/
structure Extends (s' s : Call) : Prop where
  manager : s'.manager = s.manager
  origin : s'.origin = s.origin
  config : s'.config = s.config
  log : s.log ⊆ s'.log

lemma Granted.mono {o : Opening} (h : s.Granted o) (he : s'.Extends s) : s'.Granted o := by
  have hmanaged : ∀ sessionId streamUrl token continuity,
      s'.managed sessionId streamUrl token continuity =
        s.managed sessionId streamUrl token continuity := by
    intro sessionId streamUrl token continuity
    simp only [managed, he.manager, he.config]
  have hattachment : ∀ sessionId streamUrl token,
      s'.attachment sessionId streamUrl token = s.attachment sessionId streamUrl token := by
    intro sessionId streamUrl token
    simp only [attachment, he.manager]
  unfold Granted at h ⊢
  rw [he.origin]
  cases horigin : s.origin with
  | attach sessionId streamUrl token =>
    rw [horigin] at h
    exact h.trans (hattachment _ _ _).symm
  | start =>
    rw [horigin] at h
    obtain ⟨⟨t, ht⟩, ho⟩ := h
    exact ⟨⟨t, he.log ht⟩, ho.trans (hmanaged _ _ _ _).symm⟩
  | resume sessionId continuity =>
    rw [horigin] at h
    obtain ⟨⟨t, ht⟩, ho⟩ := h
    exact ⟨⟨t, he.log ht⟩, ho.trans (hmanaged _ _ _ _).symm⟩

lemma Accepts.mono {url : String} (h : s.Accepts crates url) (he : s'.Extends s) :
    s'.Accepts crates url := by
  unfold Accepts at h ⊢
  rw [he.config]
  exact h

lemma Entry.mono {e : ℕ × Did} (h : s.Entry crates e) (he : s'.Extends s) :
    s'.Entry crates e := by
  obtain ⟨t, did⟩ := e
  cases did with
  | upgrade url request => exact Accepts.mono h he
  | wrote url message =>
    obtain ⟨o, requestId, hgranted, hurl, haccepts, hmessage, t', request, hup⟩ := h
    exact ⟨o, requestId, hgranted.mono he, hurl, haccepts.mono he, hmessage, t', request,
      he.log hup⟩
  | _ => trivial

lemma AtDial.mono {o : Opening} {pc : DialPc} (h : s.AtDial crates o pc) (he : s'.Extends s) :
    s'.AtDial crates o pc := by
  cases pc with
  | checking => trivial
  | connecting attempt backoff =>
    obtain ⟨haccepts, t, request, hup⟩ := h
    exact ⟨haccepts.mono he, t, request, he.log hup⟩
  | dialing | resolving | sleeping | sending => exact Accepts.mono h he

lemma At.mono {pc : CallPc} (h : s.At crates pc) (he : s'.Extends s) : s'.At crates pc := by
  cases pc with
  | starting => exact he.origin.trans h
  | opening o pc => exact ⟨Granted.mono h.1 he, AtDial.mono h.2 he⟩
  | returned result =>
    match result, h with
    | .error _, _ => trivial
    | .ok none, _ => trivial
    | .ok (some opened), ⟨o, hgranted, hid, hconfig, hrest⟩ =>
        exact ⟨o, hgranted.mono he, hid, hconfig.trans he.config.symm, hrest⟩
  | _ => trivial

/-- Only what was granted is opened, and only where the policy accepts it. -/
structure Careful (crates : UpgradeCrates) (s : Call) : Prop where
  log : ∀ e ∈ s.log, s.Entry crates e
  pc : s.At crates s.pc

lemma extends_note (s : Call) (did : Did) : (s.note did).Extends s :=
  ⟨rfl, rfl, rfl, List.subset_append_left _ _⟩

namespace Careful

lemma new (manager : Manager) (origin : Origin) (config : OpeningConfig) (now : ℕ) :
    (Call.new manager origin config now).Careful crates :=
  ⟨fun _ he => absurd he List.not_mem_nil, trivial⟩

/-- The call does something. -/
lemma note (h : s.Careful crates) (did : Did)
    (hentry : (s.note did).Entry crates (s.now, did)) : (s.note did).Careful crates where
  log e he := by
    rcases List.mem_append.mp he with hold | hnew
    · exact (h.log e hold).mono (extends_note s did)
    · rw [List.mem_singleton.mp hnew]
      exact hentry
  pc := h.pc.mono (extends_note s did)

/-- The call goes on. -/
lemma goto {pc : CallPc} (h : s.Careful crates) (hpc : s.At crates pc) :
    (s.goto pc).Careful crates := by
  have he : (s.goto pc).Extends s := ⟨rfl, rfl, rfl, List.Subset.refl _⟩
  exact ⟨fun e hmem => (h.log e hmem).mono he, hpc.mono he⟩

/-- The call has failed. -/
lemma fails {o : Opening} {e : Error} (h : s.Careful crates) : (s.fails o e).Careful crates := by
  unfold Call.fails
  split
  · exact (h.note (.terminateSession _) trivial).goto trivial
  · exact h.goto trivial
  · exact h.goto trivial

/-- The service, or the caller, has given out a session. -/
lemma grants {o : Opening} (h : s.Careful crates) (hgranted : s.Granted o) :
    (s.goto (.opening o .checking)).Careful crates :=
  h.goto ⟨hgranted, trivial⟩

/-- An upgrade goes out. -/
lemma dials {o : Opening} {attempt backoff : ℕ} {request : Request} (h : s.Careful crates)
    (hgranted : s.Granted o) (haccepts : s.Accepts crates o.streamUrl) :
    (s.dial o attempt backoff request).Careful crates := by
  have he := extends_note s (.upgrade o.streamUrl request)
  have hnote := h.note (.upgrade o.streamUrl request) (haccepts.mono he)
  exact hnote.goto ⟨hgranted.mono he, haccepts.mono he, s.now, request,
    List.mem_append_right _ (List.mem_singleton_self _)⟩

theorem step {l : Label} (h : s.Careful crates) (hstep : s.step crates l = some s') :
    s'.Careful crates := by
  have hpc := h.pc
  cases moves_of_step hstep with
  | refused | notStarted | released | drops => exact h.goto trivial
  | @notResumed result _ hresult =>
    refine h.goto ?_
    match result, hresult with
    | .error _, _ => trivial
    | .ok none, _ => trivial
    | .ok (some opened), hresult => exact absurd rfl (hresult opened)
  | incomplete => exact (h.note (.started _) trivial).goto trivial
  | starts _ horigin => exact (h.note (.startSession _) trivial).goto horigin
  | resumes => exact (h.note (.resumeSession _) trivial).goto trivial
  | attaches _ horigin =>
    refine h.grants ?_
    unfold Granted
    rw [horigin]
  | @started sessionId streamUrl token hat =>
    rw [hat] at hpc
    refine ((h.note (.started _) trivial).note (.answered sessionId streamUrl token) trivial).grants
      ?_
    have horigin : s.origin = .start := hpc
    unfold Granted
    simp only [Call.note, horigin]
    exact ⟨⟨s.now, List.mem_append_right _ (List.mem_singleton_self _)⟩, rfl⟩
  | @resumed sessionId streamUrl token continuity _ horigin =>
    refine (h.note (.answered sessionId streamUrl token) trivial).grants ?_
    have horigin' : (s.note (.answered sessionId streamUrl token)).origin =
        .resume sessionId continuity := horigin
    unfold Granted
    rw [horigin']
    exact ⟨⟨s.now, List.mem_append_right _ (List.mem_singleton_self _)⟩, rfl⟩
  | fails => exact h.fails
  | spoils _ hdid =>
    obtain ⟨key, rfl⟩ | ⟨answer, rfl⟩ | ⟨io, rfl⟩ := hdid
    · exact (h.note (.built key) trivial).fails
    · exact (h.note (.resolved answer) trivial).fails
    · exact (h.note (.refused io) trivial).fails
  | accepts hat hpolicy =>
    rw [hat] at hpc
    exact h.goto ⟨hpc.1, hpolicy⟩
  | wakes hat =>
    rw [hat] at hpc
    exact h.goto ⟨hpc.1, hpc.2⟩
  | @dials o attempt backoff key request hat =>
    rw [hat] at hpc
    have he := extends_note s (.built key)
    exact (h.note (.built key) trivial).dials (hpc.1.mono he) (hpc.2.mono he)
  | @builds o attempt backoff key request hat =>
    rw [hat] at hpc
    have he := extends_note s (.built key)
    exact (h.note (.built key) trivial).goto ⟨hpc.1.mono he, hpc.2.mono he⟩
  | @signs o attempt backoff built request region credentials hat =>
    rw [hat] at hpc
    have he := extends_note s (.resolved (.ok credentials))
    exact (h.note (.resolved (.ok credentials)) trivial).dials (hpc.1.mono he) (hpc.2.mono he)
  | @connects o attempt backoff requestId hat =>
    rw [hat] at hpc
    obtain ⟨hgranted, haccepts, t, request, hup⟩ := hpc
    have he := extends_note s (.wrote o.streamUrl (openMessage o requestId))
    have hnote := h.note (.wrote o.streamUrl (openMessage o requestId))
      ⟨o, requestId, hgranted.mono he, rfl, haccepts.mono he, rfl, t, request, he.log hup⟩
    exact hnote.goto ⟨hgranted.mono he, haccepts.mono he⟩
  | backs hat =>
    rw [hat] at hpc
    have hnote := h.note (.refused true) trivial
    have he := extends_note s (.refused true)
    exact hnote.goto ⟨hpc.1.mono he, hpc.2.1.mono he⟩
  | opens hat =>
    rw [hat] at hpc
    exact h.goto ⟨_, hpc.1, rfl, rfl, rfl, rfl⟩
  | @elapses nanos =>
    have he : Call.Extends { s with now := s.now + nanos } s := ⟨rfl, rfl, rfl, List.Subset.refl _⟩
    exact ⟨fun e hmem => (h.log e hmem).mono he, hpc.mono he⟩

end Careful

/-! ## When it is sent -/

/-- When upgrades were sent. -/
def times (log : List (ℕ × Did)) : List ℕ :=
  log.filterMap fun e => match e.2 with
    | .upgrade _ _ => some e.1
    | _ => none

/-- How often the network has refused one. -/
def refusals (log : List (ℕ × Did)) : ℕ := log.countP fun e => e.2 = .refused true

/-- How often a session's token was sent. -/
def tokensSent (log : List (ℕ × Did)) : ℕ :=
  log.countP fun e => match e.2 with
    | .wrote _ _ => true
    | _ => false

@[simp]
lemma times_append (log log' : List (ℕ × Did)) : times (log ++ log') = times log ++ times log' := by
  simp [times]

@[simp]
lemma refusals_append (log log' : List (ℕ × Did)) :
    refusals (log ++ log') = refusals log + refusals log' := by
  simp [refusals]

@[simp]
lemma tokensSent_append (log log' : List (ℕ × Did)) :
    tokensSent (log ++ log') = tokensSent log + tokensSent log' := by
  simp [tokensSent]

lemma times_note (s : Call) (did : Did) :
    times (s.note did).log = times s.log ++ times [(s.now, did)] :=
  times_append _ _

lemma refusals_note (s : Call) (did : Did) :
    refusals (s.note did).log = refusals s.log + refusals [(s.now, did)] :=
  refusals_append _ _

lemma tokensSent_note (s : Call) (did : Did) :
    tokensSent (s.note did).log = tokensSent s.log + tokensSent [(s.now, did)] :=
  tokensSent_append _ _

/-- The backoff is between one and the next; it doubles. -/
def Spaced (times : List ℕ) : Prop :=
  ∀ i t u, times[i]? = some t → times[i + 1]? = some u → t + firstBackoff * 2 ^ i ≤ u

/-- The next one may be sent at `due`. -/
def Ready (times : List ℕ) (due : ℕ) : Prop :=
  ∀ t ∈ times.getLast?, t + firstBackoff * 2 ^ (times.length - 1) ≤ due

lemma Spaced.concat {times : List ℕ} {t : ℕ} (h : Spaced times) (hready : Ready times t) :
    Spaced (times ++ [t]) := by
  intro i u v hu hv
  have hi : i + 1 < (times ++ [t]).length := (List.getElem?_eq_some_iff.mp hv).1
  rw [List.length_append, List.length_singleton] at hi
  rw [List.getElem?_append_left (by omega)] at hu
  by_cases hlast : i + 1 < times.length
  · rw [List.getElem?_append_left hlast] at hv
    exact h i u v hu hv
  · -- The new one follows the last one.
    have hlength : times.length = i + 1 := by omega
    rw [← hlength, List.getElem?_concat_length] at hv
    cases hv
    have hu' : times.getLast? = some u := by
      rw [List.getLast?_eq_getElem?, hlength]
      exact hu
    have hle := hready u hu'
    rwa [hlength, Nat.add_sub_cancel] at hle

/-- The next attempt, after so many upgrades. -/
structure Next (count refusals attempt backoff : ℕ) : Prop where
  number : attempt = count + 1
  limit : attempt ≤ connectAttempts
  delay : backoff = firstBackoff * 2 ^ count
  refused : count ≤ refusals

/-- What was sent up to here. -/
def Pace (s : Call) : CallPc → Prop
  | .called | .starting | .resuming => times s.log = [] ∧ tokensSent s.log = 0
  | .opening _ .checking => times s.log = [] ∧ tokensSent s.log = 0
  | .opening _ (.dialing attempt backoff) | .opening _ (.resolving attempt backoff _) =>
      Next (times s.log).length (refusals s.log) attempt backoff ∧ Ready (times s.log) s.now ∧
        tokensSent s.log = 0
  | .opening _ (.sleeping attempt backoff due) =>
      Next (times s.log).length (refusals s.log) attempt backoff ∧ Ready (times s.log) due ∧
        tokensSent s.log = 0
  | .opening _ (.connecting attempt backoff) =>
      (times s.log).length = attempt ∧ backoff = firstBackoff * 2 ^ (attempt - 1) ∧ 0 < attempt ∧
        (∀ t ∈ (times s.log).getLast?, t ≤ s.now) ∧ tokensSent s.log = 0
  | .opening _ .sending | .releasing _ | .returned _ | .dropped => True

structure Paced (s : Call) : Prop where
  spaced : Spaced (times s.log)
  count : (times s.log).length ≤ connectAttempts
  refused : (times s.log).length ≤ refusals s.log + 1
  tokens : tokensSent s.log ≤ 1
  pace : s.Pace s.pc

lemma Next.mono {count refusals refusals' attempt backoff : ℕ}
    (h : Next count refusals attempt backoff) (hle : refusals ≤ refusals') :
    Next count refusals' attempt backoff :=
  ⟨h.number, h.limit, h.delay, h.refused.trans hle⟩

namespace Paced

lemma new (manager : Manager) (origin : Origin) (config : OpeningConfig) (now : ℕ) :
    (Call.new manager origin config now).Paced where
  spaced i t u ht := by cases ht
  count := Nat.zero_le _
  refused := Nat.zero_le _
  tokens := Nat.zero_le _
  pace := ⟨rfl, rfl⟩

/-- The call goes on. -/
lemma goto {pc : CallPc} (h : s.Paced) (hpc : s.Pace pc) : (s.goto pc).Paced := by
  refine ⟨h.spaced, h.count, h.refused, h.tokens, ?_⟩
  show Pace (s.goto pc) pc
  cases pc with
  | opening o pc => cases pc <;> exact hpc
  | _ => exact hpc

/-- The call does something other than to send. -/
lemma note (h : s.Paced) (did : Did) (htimes : times [(s.now, did)] = [])
    (htokens : tokensSent [(s.now, did)] = 0) : (s.note did).Paced := by
  have ht : times (s.note did).log = times s.log := by rw [times_note, htimes, List.append_nil]
  have hk : tokensSent (s.note did).log = tokensSent s.log := by
    rw [tokensSent_note, htokens, Nat.add_zero]
  have hr : refusals s.log ≤ refusals (s.note did).log := by
    rw [refusals_note]
    exact Nat.le_add_right _ _
  have hpace := h.pace
  refine ⟨ht ▸ h.spaced, ht ▸ h.count, ?_, hk ▸ h.tokens, ?_⟩
  · rw [ht]
    exact h.refused.trans (Nat.add_le_add_right hr 1)
  · show Pace (s.note did) s.pc
    cases hpc : s.pc with
    | opening o pc =>
      rw [hpc] at hpace
      cases pc with
      | dialing | resolving | sleeping =>
        simp only [Pace, ht, hk] at hpace ⊢
        exact ⟨hpace.1.mono hr, hpace.2⟩
      | checking | connecting =>
        simp only [Pace, ht, hk] at hpace ⊢
        exact hpace
      | sending => trivial
    | called | starting | resuming =>
      rw [hpc] at hpace
      simpa only [Pace, ht, hk] using hpace
    | releasing | returned | dropped => trivial

/-- The call does something before its first attempt. -/
lemma begins {pc : CallPc} (h : s.Paced) (did : Did) (htimes : times [(s.now, did)] = [])
    (htokens : tokensSent [(s.now, did)] = 0) (hempty : times s.log = [] ∧ tokensSent s.log = 0)
    (hpc : times (s.note did).log = [] ∧ tokensSent (s.note did).log = 0 → (s.note did).Pace pc) :
    ((s.note did).goto pc).Paced := by
  refine (h.note did htimes htokens).goto (hpc ⟨?_, ?_⟩)
  · rw [times_note, htimes, List.append_nil, hempty.1]
  · rw [tokensSent_note, htokens, Nat.add_zero, hempty.2]

/-- Being told something is not to send anything. -/
lemma told (h : s.Paced) (did : Did) (hdid : did.isTold = true) : (s.note did).Paced := by
  refine h.note did ?_ ?_ <;> cases did <;> first | rfl | cases hdid

/-- What was sent up to here, after the call was told something. -/
lemma pace_told (h : s.Paced) (did : Did) (hdid : did.isTold = true) {pc : CallPc}
    (hpc : s.pc = pc) : (s.note did).Pace pc := by
  have hpace := (h.told did hdid).pace
  rwa [show (s.note did).pc = pc from hpc] at hpace

/-- The call has failed. -/
lemma fails {o : Opening} {e : Error} (h : s.Paced) : (s.fails o e).Paced := by
  unfold Call.fails
  split
  · exact (h.note _ rfl rfl).goto trivial
  · exact h.goto trivial
  · exact h.goto trivial

/-- An upgrade goes out. -/
lemma dials {o : Opening} {attempt backoff : ℕ} {request : Request} (h : s.Paced)
    (hnext : Next (times s.log).length (refusals s.log) attempt backoff)
    (hready : Ready (times s.log) s.now) (htokens : tokensSent s.log = 0) :
    (s.dial o attempt backoff request).Paced := by
  have ht : times (s.note (.upgrade o.streamUrl request)).log = times s.log ++ [s.now] :=
    times_append _ _
  have hk : tokensSent (s.note (.upgrade o.streamUrl request)).log = 0 :=
    (tokensSent_note _ _).trans htokens
  have hr : refusals (s.note (.upgrade o.streamUrl request)).log = refusals s.log :=
    refusals_note _ _
  have hlimit := hnext.limit
  rw [hnext.number] at hlimit
  refine ⟨?_, ?_, ?_, ?_, ?_, ?_, ?_, ?_, ?_⟩
  · exact ht ▸ h.spaced.concat hready
  · show (times (s.note _).log).length ≤ connectAttempts
    simpa [ht] using hlimit
  · show (times (s.note _).log).length ≤ refusals (s.note _).log + 1
    rw [ht, hr]
    simpa using hnext.refused
  · show tokensSent (s.note _).log ≤ 1
    rw [hk]
    exact Nat.zero_le _
  · show (times (s.note _).log).length = attempt
    simp [ht, hnext.number]
  · rw [hnext.delay, hnext.number, Nat.add_sub_cancel]
  · rw [hnext.number]
    exact Nat.succ_pos _
  · show ∀ t ∈ (times (s.note _).log).getLast?, t ≤ s.now
    simp [ht]
  · exact hk

/-- The message with the token goes out. -/
lemma sends {o : Opening} {requestId : String} (h : s.Paced) (htokens : tokensSent s.log = 0) :
    ((s.note (.wrote o.streamUrl (openMessage o requestId))).goto (.opening o .sending)).Paced := by
  have ht : times (s.note (.wrote o.streamUrl (openMessage o requestId))).log = times s.log :=
    (times_note _ _).trans (List.append_nil _)
  have hk : tokensSent (s.note (.wrote o.streamUrl (openMessage o requestId))).log = 1 :=
    (tokensSent_note _ _).trans (congrArg (· + 1) htokens)
  have hr : refusals (s.note (.wrote o.streamUrl (openMessage o requestId))).log =
      refusals s.log :=
    refusals_note _ _
  refine ⟨ht ▸ h.spaced, ht ▸ h.count, ?_, hk.le, trivial⟩
  show (times (s.note _).log).length ≤ refusals (s.note _).log + 1
  rw [ht, hr]
  exact h.refused

/-- The upgrade is refused, and the call backs off before the next one. -/
lemma backs {o : Opening} {attempt backoff : ℕ} (h : s.Paced)
    (hpace : s.Pace (.opening o (.connecting attempt backoff)))
    (hattempt : attempt ≠ connectAttempts) :
    ((s.note (.refused true)).goto
      (.opening o (.sleeping (attempt + 1) (2 * backoff) (s.now + backoff)))).Paced := by
  obtain ⟨hlength, hbackoff, hpos, hlast, htokens⟩ := hpace
  have hcount := h.count
  have hrefused := h.refused
  refine (h.note (.refused true) rfl rfl).goto ?_
  have ht : times (s.note (.refused true)).log = times s.log :=
    (times_note _ _).trans (List.append_nil _)
  have hk : tokensSent (s.note (.refused true)).log = 0 := (tokensSent_note _ _).trans htokens
  have hr : refusals (s.note (.refused true)).log = refusals s.log + 1 := refusals_note _ _
  refine ⟨⟨?_, ?_, ?_, ?_⟩, ?_, hk⟩
  · rw [ht, hlength]
  · omega
  · rw [ht, hlength, hbackoff]
    obtain ⟨n, rfl⟩ := Nat.exists_eq_succ_of_ne_zero hpos.ne'
    rw [Nat.succ_eq_add_one, Nat.add_sub_cancel, Nat.pow_succ]
    ring
  · rw [ht, hr]
    exact hrefused
  · rw [ht]
    intro t hmem
    rw [hlength, ← hbackoff]
    exact Nat.add_le_add_right (hlast t hmem) _

theorem step {l : Label} (h : s.Paced) (hstep : s.step crates l = some s') : s'.Paced := by
  have hpace := h.pace
  cases moves_of_step hstep with
  | refused | notStarted | notResumed | released | drops | opens => exact h.goto trivial
  | attaches hat =>
    rw [hat] at hpace
    exact h.goto hpace
  | starts hat =>
    rw [hat] at hpace
    exact h.begins (.startSession _) rfl rfl hpace id
  | resumes hat =>
    rw [hat] at hpace
    exact h.begins (.resumeSession _) rfl rfl hpace id
  | incomplete => exact (h.told (.started _) rfl).goto trivial
  | started hat =>
    exact (h.told (.started _) rfl).begins (.answered _ _ _) rfl rfl
      (h.pace_told (.started _) rfl hat) id
  | resumed hat =>
    rw [hat] at hpace
    exact h.begins (.answered _ _ _) rfl rfl hpace id
  | fails => exact h.fails
  | spoils _ hdid =>
    refine (h.told _ ?_).fails
    obtain ⟨key, rfl⟩ | ⟨answer, rfl⟩ | ⟨io, rfl⟩ := hdid <;> rfl
  | accepts hat =>
    rw [hat] at hpace
    obtain ⟨htimes, htokens⟩ := hpace
    refine h.goto ⟨⟨?_, ?_, ?_, ?_⟩, ?_, htokens⟩
    · rw [htimes]
      rfl
    · decide
    · rw [htimes]
      rfl
    · rw [htimes]
      exact Nat.zero_le _
    · rw [htimes]
      intro t ht
      cases ht
  | wakes hat hdue =>
    rw [hat] at hpace
    exact h.goto ⟨hpace.1, fun t ht => (hpace.2.1 t ht).trans hdue, hpace.2.2⟩
  | @dials o attempt backoff key request hat =>
    have hpace := h.pace_told (.built key) rfl hat
    exact (h.told (.built key) rfl).dials hpace.1 hpace.2.1 hpace.2.2
  | @builds o attempt backoff key request hat =>
    have hpace := h.pace_told (.built key) rfl hat
    exact (h.told (.built key) rfl).goto hpace
  | @signs o attempt backoff built request region credentials hat =>
    have hpace := h.pace_told (.resolved (.ok credentials)) rfl hat
    exact (h.told (.resolved (.ok credentials)) rfl).dials hpace.1 hpace.2.1 hpace.2.2
  | @connects o attempt backoff requestId hat =>
    rw [hat] at hpace
    exact h.sends hpace.2.2.2.2
  | @backs o attempt backoff hat hattempt =>
    rw [hat] at hpace
    exact h.backs hpace hattempt
  | @elapses nanos =>
    refine ⟨h.spaced, h.count, h.refused, h.tokens, ?_⟩
    show Pace { s with now := s.now + nanos } s.pc
    cases hpc : s.pc with
    | opening o pc =>
      rw [hpc] at hpace
      cases pc with
      | dialing | resolving =>
        exact ⟨hpace.1, fun t ht => (hpace.2.1 t ht).trans (Nat.le_add_right _ _), hpace.2.2⟩
      | connecting =>
        obtain ⟨hlength, hbackoff, hpos, hlast, htokens⟩ := hpace
        exact ⟨hlength, hbackoff, hpos, fun t ht => (hlast t ht).trans (Nat.le_add_right _ _),
          htokens⟩
      | checking | sleeping | sending => exact hpace
    | _ =>
      rw [hpc] at hpace
      exact hpace

end Paced

/-! ## What is sent -/

/-- The signer of a session that was granted is the manager's, unless the session was attached. -/
lemma Granted.signer {o : Opening} (h : s.Granted o) :
    (∃ id url token, s.origin = .attach id url token) ∧ o.signer = none ∨
      (∀ id url token, s.origin ≠ .attach id url token) ∧ o.signer = s.manager.signer := by
  unfold Granted at h
  cases horigin : s.origin with
  | attach sessionId streamUrl token =>
    rw [horigin] at h
    exact .inl ⟨⟨_, _, _, rfl⟩, by rw [h]; rfl⟩
  | start | resume =>
    rw [horigin] at h
    exact .inr ⟨by simp, by rw [h.2]; rfl⟩

/-- Every upgrade was refused by the network, and nothing came in between. -/
def AllRefused (log : List (ℕ × Did)) : Prop :=
  ∀ front back t url request, log = front ++ (t, .upgrade url request) :: back →
    ∃ t' rest, back = (t', .refused true) :: rest

/-- An upgrade that is followed by another one was refused by the network. -/
def RefusedBetween (log : List (ℕ × Did)) : Prop :=
  ∀ front back t url request, log = front ++ (t, .upgrade url request) :: back →
    times back ≠ [] → ∃ t' rest, back = (t', .refused true) :: rest

/-- What comes right before an upgrade: the key of its request, unless it is unsigned the
credentials of its signature, and before that only upgrades that were refused. -/
inductive Prepared (crates : UpgradeCrates) (manager : Manager) (origin : Origin) (url : String)
    (t : ℕ) (request : Request) : List (ℕ × Did) → Prop
  | unsigned {front : List (ℕ × Did)} {t' : ℕ} {key : String} (hrefused : AllRefused front)
      (hbuilt : crates.intoClientRequest url key = .ok request)
      (horigin : (∃ id url' token, origin = .attach id url' token) ∨ manager.signer = none ∨
        isPresigned crates.url url = true) :
      Prepared crates manager origin url t request (front ++ [(t', .built key)])
  | signed {front : List (ℕ × Did)} {t' : ℕ} {key region : String} {base : Request}
      {credentials : Credentials} (hrefused : AllRefused front)
      (hbuilt : crates.intoClientRequest url key = .ok base)
      (horigin : ∀ id url' token, origin ≠ .attach id url' token)
      (hsigner : manager.signer = some region) (hpresigned : isPresigned crates.url url = false)
      (hsigned : signRequest crates region credentials t base = .ok request) :
      Prepared crates manager origin url t request
        (front ++ [(t', .built key), (t, .resolved (.ok credentials))])

section

variable {log front back : List (ℕ × Did)} {e x : ℕ × Did}

/-- A log with one more entry is cut at that entry or before it. -/
lemma cut_concat (h : log ++ [e] = front ++ x :: back) :
    back = [] ∧ front = log ∧ x = e ∨
      ∃ back', back = back' ++ [e] ∧ log = front ++ x :: back' := by
  rcases List.eq_nil_or_concat back with rfl | ⟨back', last, rfl⟩
  · obtain ⟨hfront, hx⟩ := List.append_inj' h rfl
    exact .inl ⟨rfl, hfront.symm, (List.singleton_inj.mp hx).symm⟩
  · rw [List.concat_eq_append, ← List.cons_append, ← List.append_assoc] at h
    obtain ⟨hlog, hlast⟩ := List.append_inj' h rfl
    rw [List.singleton_inj.mp hlast]
    exact .inr ⟨back', List.concat_eq_append, hlog⟩

lemma AllRefused.nil : AllRefused [] := by
  intro front back t url request h
  simp at h

/-- Something else is done. -/
lemma AllRefused.concat (h : AllRefused log) (hne : ∀ url request, e.2 ≠ .upgrade url request) :
    AllRefused (log ++ [e]) := by
  intro front back t url request hcut
  obtain ⟨-, -, rfl⟩ | ⟨back', rfl, hlog⟩ := cut_concat hcut
  · exact absurd rfl (hne url request)
  · obtain ⟨t', rest, rfl⟩ := h front back' t url request hlog
    exact ⟨t', rest ++ [e], rfl⟩

/-- An upgrade is refused. -/
lemma AllRefused.refuse {t t' : ℕ} {url : String} {request : Request} (h : AllRefused log) :
    AllRefused (log ++ [(t, .upgrade url request)] ++ [(t', .refused true)]) := by
  intro front back u url' request' hcut
  obtain ⟨-, -, hx⟩ | ⟨back', rfl, hbefore⟩ := cut_concat hcut
  · cases hx
  · obtain ⟨rfl, -, -⟩ | ⟨back, rfl, hlog⟩ := cut_concat hbefore
    · exact ⟨t', [], rfl⟩
    · obtain ⟨u', rest, rfl⟩ := h front back u url' request' hlog
      exact ⟨u', rest ++ _ ++ _, rfl⟩

lemma RefusedBetween.nil : RefusedBetween [] := by
  intro front back t url request h
  simp at h

/-- Something else is done. -/
lemma RefusedBetween.concat (h : RefusedBetween log)
    (hne : ∀ url request, e.2 ≠ .upgrade url request) : RefusedBetween (log ++ [e]) := by
  intro front back t url request hcut hback
  obtain ⟨-, -, rfl⟩ | ⟨back', rfl, hlog⟩ := cut_concat hcut
  · exact absurd rfl (hne url request)
  · have hnone : times [e] = [] := by
      obtain ⟨t, did⟩ := e
      cases did <;> first | rfl | exact absurd rfl (hne _ _)
    rw [times_append, hnone, List.append_nil] at hback
    obtain ⟨t', rest, rfl⟩ := h front back' t url request hlog hback
    exact ⟨t', rest ++ [e], rfl⟩

/-- Another upgrade is sent. -/
lemma AllRefused.upgrade {t : ℕ} {url : String} {request : Request} (h : AllRefused log) :
    RefusedBetween (log ++ [(t, .upgrade url request)]) := by
  intro front back u url' request' hcut hback
  obtain ⟨rfl, -, -⟩ | ⟨back', rfl, hlog⟩ := cut_concat hcut
  · exact absurd rfl hback
  · obtain ⟨t', rest, rfl⟩ := h front back' u url' request' hlog
    exact ⟨t', rest ++ _, rfl⟩

end

/-- The log shows what every upgrade was made of, and how it was refused. -/
structure LogTraced (crates : UpgradeCrates) (manager : Manager) (origin : Origin)
    (log : List (ℕ × Did)) : Prop where
  prepared : ∀ front back t url request, log = front ++ (t, .upgrade url request) :: back →
    Prepared crates manager origin url t request front
  refused : RefusedBetween log

/-- What the log ends with, where the call is. -/
def Trail (crates : UpgradeCrates) (s : Call) : CallPc → Prop
  | .called | .starting | .resuming | .opening _ .checking | .opening _ (.dialing _ _)
  | .opening _ (.sleeping _ _ _) => AllRefused s.log
  | .opening o (.resolving _ _ base) => ∃ front t key, s.log = front ++ [(t, .built key)] ∧
      AllRefused front ∧ crates.intoClientRequest o.streamUrl key = .ok base ∧
        o.unsigned crates = false
  | .opening _ (.connecting _ _) => ∃ front t url request,
      s.log = front ++ [(t, .upgrade url request)] ∧ AllRefused front
  | .opening _ .sending | .releasing _ | .returned _ | .dropped => True

structure Traced (crates : UpgradeCrates) (manager : Manager) (origin : Origin) (s : Call) :
    Prop where
  log : LogTraced crates manager origin s.log
  trail : s.Trail crates s.pc

section

variable {manager : Manager} {origin : Origin} {log : List (ℕ × Did)} {e : ℕ × Did}

/-- Up to an upgrade all earlier ones were refused. -/
lemma Prepared.allRefused {url : String} {t : ℕ} {request : Request}
    (h : Prepared crates manager origin url t request log) : AllRefused log := by
  cases h with
  | unsigned hrefused => exact hrefused.concat (by simp)
  | @signed front t' key region base credentials hrefused =>
    have hbuilt : AllRefused (front ++ [(t', .built key)]) := hrefused.concat (by simp)
    have hboth : AllRefused (front ++ [(t', .built key)] ++ [(t, .resolved (.ok credentials))]) :=
      hbuilt.concat (by simp)
    rwa [List.append_assoc] at hboth

/-- Something else is done. -/
lemma LogTraced.concat (h : LogTraced crates manager origin log)
    (hne : ∀ url request, e.2 ≠ .upgrade url request) :
    LogTraced crates manager origin (log ++ [e]) where
  prepared front back t url request hcut := by
    obtain ⟨-, -, rfl⟩ | ⟨back', -, hlog⟩ := cut_concat hcut
    · exact absurd rfl (hne url request)
    · exact h.prepared front back' t url request hlog
  refused := h.refused.concat hne

/-- An upgrade is sent. -/
lemma LogTraced.upgrade {url : String} {t : ℕ} {request : Request}
    (h : LogTraced crates manager origin log)
    (hprepared : Prepared crates manager origin url t request log) :
    LogTraced crates manager origin (log ++ [(t, .upgrade url request)]) where
  prepared front back t' url' request' hcut := by
    obtain ⟨-, rfl, hx⟩ | ⟨back', -, hlog⟩ := cut_concat hcut
    · cases hx
      exact hprepared
    · exact h.prepared front back' t' url' request' hlog
  refused := hprepared.allRefused.upgrade

end

namespace Traced

variable {manager : Manager} {origin : Origin}

lemma new (manager : Manager) (origin : Origin) (config : OpeningConfig) (now : ℕ) :
    (Call.new manager origin config now).Traced crates manager origin where
  log := ⟨fun front back t url request h => by simp [Call.new] at h, .nil⟩
  trail := .nil

/-- The call has failed. -/
lemma fails {o : Opening} {e : Error} (h : LogTraced crates manager origin s.log) :
    (s.fails o e).Traced crates manager origin := by
  unfold Call.fails
  split
  · exact ⟨h.concat (by simp), trivial⟩
  · exact ⟨h, trivial⟩
  · exact ⟨h, trivial⟩

/-- An upgrade goes out. -/
lemma dials {o : Opening} {attempt backoff : ℕ} {request : Request}
    (h : LogTraced crates manager origin s.log)
    (hprepared : Prepared crates manager origin o.streamUrl s.now request s.log) :
    (s.dial o attempt backoff request).Traced crates manager origin :=
  ⟨h.upgrade hprepared, s.log, s.now, o.streamUrl, request, rfl, hprepared.allRefused⟩

/-- An unsigned upgrade may go out so. -/
lemma unsigned_of_granted {o : Opening} (hgranted : s.Granted o) (horigin : s.origin = origin)
    (hmanager : s.manager = manager) (hunsigned : o.unsigned crates = true) :
    (∃ id url token, origin = .attach id url token) ∨ manager.signer = none ∨
      isPresigned crates.url o.streamUrl = true := by
  subst horigin hmanager
  rw [Opening.unsigned, Bool.or_eq_true, Option.isNone_iff_eq_none] at hunsigned
  rcases hunsigned with hnone | hpresigned
  · rcases hgranted.signer with ⟨hattach, -⟩ | ⟨-, hsigner⟩
    · exact .inl hattach
    · exact .inr (.inl (hsigner.symm.trans hnone))
  · exact .inr (.inr hpresigned)

theorem step {l : Label} (h : s.Traced crates manager origin) (hc : s.Careful crates)
    (horigin : s.origin = origin) (hmanager : s.manager = manager)
    (hstep : s.step crates l = some s') : s'.Traced crates manager origin := by
  have htrail := h.trail
  have hat := hc.pc
  cases moves_of_step hstep with
  | refused | notStarted | notResumed | released | drops | opens => exact ⟨h.log, trivial⟩
  | attaches hpc | accepts hpc | wakes hpc =>
    rw [hpc] at htrail
    exact ⟨h.log, htrail⟩
  | starts hpc | resumes hpc | resumed hpc =>
    rw [hpc] at htrail
    exact ⟨h.log.concat (by simp), htrail.concat (by simp)⟩
  | incomplete => exact ⟨h.log.concat (by simp), trivial⟩
  | started hpc =>
    rw [hpc] at htrail
    exact ⟨(h.log.concat (by simp)).concat (by simp), (htrail.concat (by simp)).concat (by simp)⟩
  | fails => exact fails h.log
  | @spoils o pc did e hpc hdid =>
    refine fails (s := s.note did) (h.log.concat ?_)
    obtain ⟨key, rfl⟩ | ⟨answer, rfl⟩ | ⟨io, rfl⟩ := hdid <;> simp
  | @dials o attempt backoff key request hpc hbuilt hunsigned =>
    rw [hpc] at htrail hat
    exact dials (s := s.note (.built key)) (h.log.concat (by simp))
      (.unsigned htrail (upgradeRequest_eq_ok hbuilt)
        (unsigned_of_granted hat.1 horigin hmanager hunsigned))
  | @builds o attempt backoff key request hpc hbuilt hunsigned =>
    rw [hpc] at htrail
    exact ⟨h.log.concat (by simp), s.log, s.now, key, rfl, htrail, upgradeRequest_eq_ok hbuilt,
      hunsigned⟩
  | @signs o attempt backoff built request region credentials hpc hsigner hsigned =>
    rw [hpc] at htrail hat
    obtain ⟨front, t, key, hlog, hrefused, hbuilt, hunsigned⟩ := htrail
    refine dials (s := s.note (.resolved (.ok credentials))) (h.log.concat (by simp)) ?_
    show Prepared crates manager origin o.streamUrl s.now request (s.log ++ [_])
    rw [hlog, List.append_assoc]
    rw [Opening.unsigned, Bool.or_eq_false_iff] at hunsigned
    rcases hat.1.signer with ⟨-, hnone⟩ | ⟨hattach, hmanaged⟩
    · simp [hsigner] at hnone
    · exact .signed hrefused hbuilt (horigin ▸ hattach)
        (hmanager ▸ hmanaged.symm.trans hsigner) hunsigned.2 hsigned
  | connects hpc => exact ⟨h.log.concat (by simp), trivial⟩
  | backs hpc =>
    rw [hpc] at htrail
    obtain ⟨front, t, url, request, hlog, hrefused⟩ := htrail
    refine ⟨h.log.concat (by simp), ?_⟩
    show AllRefused (s.log ++ [_])
    rw [hlog]
    exact hrefused.refuse
  | elapses =>
    refine ⟨h.log, ?_⟩
    show Trail crates { s with now := _ } s.pc
    cases hpc : s.pc with
    | opening o pc =>
      rw [hpc] at htrail
      cases pc <;> exact htrail
    | _ =>
      rw [hpc] at htrail
      exact htrail

end Traced

/-! ## The services -/

/-- The calls of the SSM service. -/
def calls (log : List (ℕ × Did)) : List Did :=
  (log.map Prod.snd).filter fun
    | .startSession _ | .resumeSession _ | .terminateSession _ => true
    | .started _ | .answered _ _ _ | .built _ | .resolved _ | .upgrade _ _ | .refused _
    | .wrote _ _ => false

/-- The sessions that `ssm:StartSession` has started. -/
def responses (log : List (ℕ × Did)) : List StartResponse :=
  (told log).filterMap fun
    | .started response => some response
    | _ => none

lemma calls_note (s : Call) (did : Did) :
    calls (s.note did).log = calls s.log ++ calls [(s.now, did)] := by
  simp [calls, note]

lemma responses_note (s : Call) (did : Did) :
    responses (s.note did).log = responses s.log ++ responses [(s.now, did)] := by
  simp [responses, told, note]

/-- How a call of `start_session` fails.  A session that the service gave out completely is
released; one that came without an address or a token is not. -/
inductive Failed (input : StartSessionInput) : List Did → List StartResponse → Prop
  | unanswered {calls : List Did} (hcalls : calls <+: [.startSession input]) : Failed input calls []
  | incomplete {response : StartResponse} (hresponse : response.sessionId = none ∨
      response.streamUrl = none ∨ response.tokenValue = none) :
      Failed input [.startSession input] [response]
  | released {id url token : String} :
      Failed input [.startSession input, .terminateSession id] [⟨some id, some url, some token⟩]

/-- The calls of `start_session`, and what the service has answered. -/
def Started (input : StartSessionInput) (calls : List Did) (responses : List StartResponse) :
    CallPc → Prop
  | .called => calls = [] ∧ responses = []
  | .starting => calls = [.startSession input] ∧ responses = []
  | .opening o _ =>
      calls = [.startSession input] ∧
        responses = [⟨some o.sessionId, some o.streamUrl, some o.token⟩]
  | .releasing _ => ∃ id url token, calls = [.startSession input, .terminateSession id] ∧
      responses = [⟨some id, some url, some token⟩]
  | .returned (.ok (some opened)) => ∃ url token, calls = [.startSession input] ∧
      responses = [⟨some opened.sessionId, some url, some token⟩]
  | .returned (.error _) => Failed input calls responses
  | .dropped => True
  | .resuming | .returned (.ok none) => False

/-- The calls of the service are accounted for. -/
def Accounted (s : Call) : Prop :=
  match s.origin with
  | .attach _ _ _ => calls s.log = []
  | .start => Started (startRequest s.config) (calls s.log) (responses s.log) s.pc
  | .resume sessionId _ =>
      (s.pc = .called → calls s.log = []) ∧ calls s.log <+: [.resumeSession sessionId]

/-- What a call keeps. -/
lemma Moves.kept (h : s.Moves crates s') :
    s'.manager = s.manager ∧ s'.origin = s.origin ∧ s'.config = s.config := by
  have hfails : ∀ (s : Call) o e, (s.fails o e).manager = s.manager ∧
      (s.fails o e).origin = s.origin ∧ (s.fails o e).config = s.config := by
    intro s o e
    unfold Call.fails
    split <;> exact ⟨rfl, rfl, rfl⟩
  cases h with
  | fails => exact hfails _ _ _
  | spoils => exact hfails _ _ _
  | _ => exact ⟨rfl, rfl, rfl⟩

lemma fails_start {o : Opening} {e : Error} (h : s.origin = .start) :
    s.fails o e = (s.note (.terminateSession o.sessionId)).goto (.releasing e) := by
  simp only [fails, h]

lemma fails_other {o : Opening} {e : Error} (h : s.origin ≠ .start) :
    s.fails o e = s.goto (.returned (.error e)) := by
  unfold fails
  split
  · next hstart => exact absurd hstart h
  · rfl
  · rfl

/-- Being told something is not a call of a service. -/
lemma calls_told {did : Did} (hdid : did.isTold = true) : calls (s.note did).log = calls s.log := by
  rw [calls_note]
  cases did <;> first | exact List.append_nil _ | cases hdid

/-- Only the answer of `ssm:StartSession` is one. -/
lemma responses_note_of_ne (s : Call) (did : Did) (hdid : ∀ response, did ≠ .started response) :
    responses (s.note did).log = responses s.log := by
  rw [responses_note]
  cases did <;> first | exact List.append_nil _ | exact absurd rfl (hdid _)

lemma calls_dial {o : Opening} {attempt backoff : ℕ} {request : Request} :
    calls (s.dial o attempt backoff request).log = calls s.log :=
  (calls_note _ _).trans (List.append_nil _)

lemma responses_dial {o : Opening} {attempt backoff : ℕ} {request : Request} :
    responses (s.dial o attempt backoff request).log = responses s.log :=
  responses_note_of_ne _ _ fun _ => (by simp)

/-- Only the start of the task calls a service, and a start that fails. -/
lemma Moves.calls (h : s.Moves crates s') (horigin : s.origin ≠ .start) :
    calls s'.log = calls s.log ∨
    ∃ sessionId continuity, s.pc = .called ∧ s.origin = .resume sessionId continuity ∧
      Call.calls s'.log = Call.calls s.log ++ [.resumeSession sessionId] := by
  cases h with
  | starts _ hstart => exact absurd hstart horigin
  | resumes hpc hresume => exact .inr ⟨_, _, hpc, hresume, calls_note _ _⟩
  | fails =>
    rw [fails_other horigin]
    exact .inl rfl
  | @spoils o pc did e hpc hdid =>
    rw [fails_other (s := s.note did) horigin]
    refine .inl (calls_told ?_)
    obtain ⟨key, rfl⟩ | ⟨answer, rfl⟩ | ⟨io, rfl⟩ := hdid <;> rfl
  | dials | signs => exact .inl (calls_dial.trans (calls_told rfl))
  | started => exact .inl (((calls_note _ _).trans (List.append_nil _)).trans (calls_told rfl))
  | incomplete | builds => exact .inl (calls_told rfl)
  | resumed | connects | backs => exact .inl ((calls_note _ _).trans (List.append_nil _))
  | _ => exact .inl rfl

/-- No call begins again. -/
lemma Moves.called (h : s.Moves crates s') (hcalled : s'.pc = .called) :
    s.pc = .called ∧ s'.log = s.log := by
  have hfails : ∀ (s : Call) o e, (s.fails o e).pc ≠ .called := by
    intro s o e
    unfold Call.fails
    split <;> nofun
  cases h with
  | fails => exact absurd hcalled (hfails _ _ _)
  | spoils => exact absurd hcalled (hfails _ _ _)
  | elapses => exact ⟨hcalled, rfl⟩
  | _ => cases hcalled

/-- A call of `start_session` goes on without a call of a service. -/
lemma Started.fails {input : StartSessionInput} {o : Opening} {e : Error} {pc : DialPc}
    (h : Started input (calls s.log) (responses s.log) (.opening o pc))
    (horigin : s.origin = .start) :
    Started input (calls (s.fails o e).log) (responses (s.fails o e).log) (s.fails o e).pc := by
  rw [fails_start horigin]
  refine ⟨o.sessionId, o.streamUrl, o.token, ?_, ?_⟩
  · exact (calls_note _ _).trans (by rw [h.1]; rfl)
  · exact (responses_note_of_ne _ _ (by simp)).trans h.2

/-- A call of `start_session` is told something while it opens the session. -/
lemma Started.told {input : StartSessionInput} {o : Opening} {pc pc' : DialPc} {did : Did}
    (h : Started input (calls s.log) (responses s.log) (.opening o pc)) (hdid : did.isTold = true)
    (hne : ∀ response, did ≠ .started response) :
    Started input (calls (s.note did).log) (responses (s.note did).log) (.opening o pc') :=
  ⟨(calls_told hdid).trans h.1, (responses_note_of_ne _ _ hne).trans h.2⟩

lemma Started.step (h : Started (startRequest s.config) (calls s.log) (responses s.log) s.pc)
    (horigin : s.origin = .start) (hmoves : s.Moves crates s') :
    Started (startRequest s.config) (calls s'.log) (responses s'.log) s'.pc := by
  cases hmoves with
  | refused hpc =>
    rw [hpc] at h
    show Failed _ (calls s.log) (responses s.log)
    rw [h.1, h.2]
    exact .unanswered List.nil_prefix
  | attaches _ hattach => simp [horigin] at hattach
  | resumes _ hresume => simp [horigin] at hresume
  | resumed _ hresume => simp [horigin] at hresume
  | starts hpc =>
    rw [hpc] at h
    exact ⟨(calls_note _ _).trans (by rw [h.1]; rfl),
      (responses_note_of_ne _ _ (by simp)).trans h.2⟩
  | notStarted hpc =>
    rw [hpc] at h
    show Failed _ (calls s.log) (responses s.log)
    rw [h.1, h.2]
    exact .unanswered List.prefix_rfl
  | @incomplete response e hpc hresponse =>
    rw [hpc] at h
    have hcalls : calls (s.note (.started response)).log = _ := (calls_told rfl).trans h.1
    have hresponses : responses (s.note (.started response)).log = [response] :=
      (responses_note _ _).trans (by rw [h.2]; rfl)
    show Failed _ (calls (s.note (.started response)).log) (responses (s.note _).log)
    rw [hcalls, hresponses]
    exact .incomplete hresponse
  | @started sessionId streamUrl token hpc =>
    rw [hpc] at h
    have hcalls : calls (s.note (.started ⟨some sessionId, some streamUrl, some token⟩)).log = _ :=
      (calls_told rfl).trans h.1
    have hresponses : responses
        (s.note (.started ⟨some sessionId, some streamUrl, some token⟩)).log = _ :=
      (responses_note _ _).trans (by rw [h.2])
    exact ⟨((calls_note _ _).trans (List.append_nil _)).trans hcalls,
      (responses_note_of_ne _ _ (by simp)).trans hresponses⟩
  | notResumed hpc =>
    rw [hpc] at h
    exact h.elim
  | fails hpc =>
    rw [hpc] at h
    exact h.fails horigin
  | @spoils o pc did e hpc hdid =>
    rw [hpc] at h
    have htold : Started (startRequest s.config) (calls (s.note did).log) (responses (s.note did).log)
        (.opening o pc) := by
      refine h.told ?_ ?_ <;>
        obtain ⟨key, rfl⟩ | ⟨answer, rfl⟩ | ⟨io, rfl⟩ := hdid <;> simp [Did.isTold]
    exact Started.fails (s := s.note did) htold horigin
  | accepts hpc | wakes hpc =>
    rw [hpc] at h
    exact h
  | opens hpc =>
    rw [hpc] at h
    exact ⟨_, _, h⟩
  | builds hpc | backs hpc =>
    rw [hpc] at h
    exact h.told rfl (by simp)
  | dials hpc | signs hpc =>
    rw [hpc] at h
    exact ⟨calls_dial.trans ((calls_told rfl).trans h.1),
      responses_dial.trans ((responses_note_of_ne _ _ (by simp)).trans h.2)⟩
  | connects hpc =>
    rw [hpc] at h
    exact ⟨((calls_note _ _).trans (List.append_nil _)).trans h.1,
      (responses_note_of_ne _ _ (by simp)).trans h.2⟩
  | released hpc =>
    rw [hpc] at h
    obtain ⟨id, url, token, hcalls, hresponses⟩ := h
    show Failed _ (calls s.log) (responses s.log)
    rw [hcalls, hresponses]
    exact .released
  | elapses => exact h
  | drops => trivial

namespace Accounted

lemma new (manager : Manager) (origin : Origin) (config : OpeningConfig) (now : ℕ) :
    (Call.new manager origin config now).Accounted := by
  cases origin with
  | attach sessionId streamUrl token => rfl
  | start => exact ⟨rfl, rfl⟩
  | resume sessionId continuity => exact ⟨fun _ => rfl, List.nil_prefix⟩

theorem step {l : Label} (h : s.Accounted) (hstep : s.step crates l = some s') :
    s'.Accounted := by
  have hmoves := moves_of_step hstep
  obtain ⟨-, horigin', hconfig⟩ := hmoves.kept
  unfold Accounted at h ⊢
  rw [horigin', hconfig]
  cases horigin : s.origin with
  | attach sessionId streamUrl token =>
    rw [horigin] at h
    rcases hmoves.calls (by simp [horigin]) with hcalls | ⟨_, _, _, hresume, _⟩
    · exact hcalls.trans h
    · simp [horigin] at hresume
  | start =>
    rw [horigin] at h
    exact h.step horigin hmoves
  | resume sessionId continuity =>
    rw [horigin] at h
    refine ⟨fun hcalled => ?_, ?_⟩
    · obtain ⟨hpc, hlog⟩ := hmoves.called hcalled
      rw [hlog]
      exact h.1 hpc
    · rcases hmoves.calls (by simp [horigin]) with hcalls | ⟨id, k, hpc, hresume, hcalls⟩
      · exact hcalls ▸ h.2
      · cases horigin.symm.trans hresume
        rw [hcalls, h.1 hpc]
        exact List.prefix_rfl

end Accounted

end Call

/-! ## The results -/

/-- The crates, for one stream URL. -/
def sampleCrates : UpgradeCrates where
  url :=
    { parse := fun raw => .ok
        { scheme := "wss", hostStr := some "ssmmessages.eu-central-1.amazonaws.com", rest := raw,
          query := none }
      write := Url.rest }
  intoClientRequest := fun url key =>
    .ok { uri := url, host := some "ssmmessages.eu-central-1.amazonaws.com", key, headers := [] }
  sign := fun r => .ok
    [("x-amz-date", toString r.time),
      ("authorization",
        "AWS4-HMAC-SHA256 Credential=" ++ r.credentials.accessKeyId ++ "/" ++ r.region)]

def sampleUrl : String := "wss://ssmmessages.eu-central-1.amazonaws.com/v1/data-channel/s"

def sampleOpening : OpeningConfig :=
  { target := "i-0123456789abcdef0", reason := none, heartbeatInterval := 1, idleTimeout := 2,
    payloadChunkSize := 1024, outputBuffer := 16, document := none, endpointPolicy := .awsOnly }

def sampleManager : Manager := ⟨some "eu-central-1", false⟩

/-- Started, and the first upgrade sent. -/
def dialling : List Label :=
  [.advance, .startAnswers (.ok ⟨some "s", some sampleUrl, some "t"⟩), .advance, .build "k1",
    .resolves (.ok ⟨"AKIDEXAMPLE", "secret", none⟩)]

/-- The network refuses that upgrade, and a second one is sent with new credentials. -/
def diallingAgain : List Label :=
  dialling ++ ([.connectFails true "refused", .elapse 200000000, .advance, .build "k2",
    .resolves (.ok ⟨"AKIDOTHER", "other", none⟩)] : List Label)

variable {manager : Manager} {origin : Origin} {config : OpeningConfig} {now : ℕ} {s : Call}

/-- The states of a call, over all its runs. -/
abbrev Runs (crates : UpgradeCrates) (manager : Manager) (origin : Origin) (config : OpeningConfig)
    (now : ℕ) : Call → Prop :=
  Reachable (Call.step crates) free (.new manager origin config now)

lemma Runs.kept (h : Runs crates manager origin config now s) :
    s.manager = manager ∧ s.origin = origin ∧ s.config = config := by
  refine h.invariant (P := fun s => s.manager = manager ∧ s.origin = origin ∧ s.config = config)
    ⟨rfl, rfl, rfl⟩ fun s l s' hs hstep _ => ?_
  obtain ⟨hmanager, horigin, hconfig⟩ := (Call.moves_of_step hstep).kept
  exact ⟨hmanager.trans hs.1, horigin.trans hs.2.1, hconfig.trans hs.2.2⟩

lemma Runs.careful (h : Runs crates manager origin config now s) : s.Careful crates :=
  h.invariant (.new _ _ _ _) fun _ _ _ hs hstep _ => hs.step hstep

lemma Runs.paced (h : Runs crates manager origin config now s) : s.Paced :=
  h.invariant (.new _ _ _ _) fun _ _ _ hs hstep _ => hs.step hstep

lemma Runs.accounted (h : Runs crates manager origin config now s) : s.Accounted :=
  h.invariant (.new _ _ _ _) fun _ _ _ hs hstep _ => hs.step hstep

/-- The URL and the token were given out together. -/
lemma Call.Granted.given {o : Opening} (h : s.Granted o) :
    s.origin = .attach o.sessionId o.streamUrl o.token ∨
      ∃ t, (t, .answered o.sessionId o.streamUrl o.token) ∈ s.log := by
  unfold Granted at h
  cases horigin : s.origin with
  | attach sessionId streamUrl token =>
    rw [horigin] at h
    exact .inl (by rw [h]; rfl)
  | start =>
    rw [horigin] at h
    exact .inr h.1
  | resume sessionId continuity =>
    rw [horigin] at h
    obtain ⟨⟨t, ht⟩, ho⟩ := h
    refine .inr ⟨t, ?_⟩
    rwa [show o.sessionId = sessionId by rw [ho]; rfl]

/-- **A token is sent only to the endpoint it was given out with, and only if the policy accepts
it.** The URL is checked before each upgrade, and the message that carries the token goes to the URL
that came with it. -/
theorem token_stays_with_its_endpoint (h : Runs crates manager origin config now s) :
    (∀ t url request, (t, .upgrade url request) ∈ s.log →
      config.endpointPolicy.validate crates.url url = .ok ()) ∧
    (∀ t url message, (t, .wrote url message) ∈ s.log →
      (origin = .attach message.clientId url message.tokenValue ∨
        ∃ t', (t', .answered message.clientId url message.tokenValue) ∈ s.log) ∧
      config.endpointPolicy.validate crates.url url = .ok () ∧
      ∃ t' request, (t', .upgrade url request) ∈ s.log) ∧
    Call.tokensSent s.log ≤ 1 := by
  obtain ⟨-, horigin, hconfig⟩ := h.kept
  have hlog := h.careful.log
  refine ⟨fun t url request hmem => ?_, fun t url message hmem => ?_, h.paced.tokens⟩
  · have haccepts : s.Accepts crates url := hlog _ hmem
    rwa [Call.Accepts, hconfig] at haccepts
  · obtain ⟨o, requestId, hgranted, rfl, haccepts, rfl, hup⟩ := hlog _ hmem
    rw [Call.Accepts, hconfig] at haccepts
    exact ⟨horigin ▸ hgranted.given, haccepts, hup⟩

/-- A token that is sent after the second upgrade. -/
theorem token_stays_with_its_endpoint_second :
    ∃ s, Runs sampleCrates sampleManager .start sampleOpening 0 s ∧
      (∃ t url message, (t, .wrote url message) ∈ s.log ∧ message.tokenValue = "t" ∧
        sampleOpening.endpointPolicy.validate sampleCrates.url url = .ok ()) ∧
      Call.tokensSent s.log = 1 := by
  let ls : List Label := dialling ++ ([.connectFails true "refused", .elapse 200000000, .advance,
    .build "k2", .resolves (.ok ⟨"AKIDEXAMPLE", "secret", none⟩), .connects "r"] : List Label)
  let wrote : ℕ × Did := (200000000, .wrote sampleUrl ⟨"1.0", "r", "t", "s", "1.2.764.0"⟩)
  have hrun : (run (Call.step sampleCrates) (.new sampleManager .start sampleOpening 0) ls).any
      (fun s => decide (wrote ∈ s.log) && decide (Call.tokensSent s.log = 1)) = true := by
    decide +kernel
  obtain ⟨s, hs, hp⟩ := exists_of_run hrun
  simp only [Bool.and_eq_true, decide_eq_true_eq] at hp
  obtain ⟨-, hwrote, -⟩ := token_stays_with_its_endpoint hs
  exact ⟨s, hs, ⟨_, _, _, hp.1, rfl, (hwrote _ _ _ hp.1).2.1⟩, hp.2⟩

lemma Runs.traced (h : Runs crates manager origin config now s) :
    s.Traced crates manager origin := by
  refine h.invariant_with (Q := fun s => Runs crates manager origin config now s)
    (fun _ hs => hs) (.new _ _ _ _) fun s l s' hs ht hstep _ => ?_
  obtain ⟨hmanager, horigin, -⟩ := hs.kept
  exact ht.step hs.careful horigin hmanager hstep

/-- What a call was told is what came from outside, as it came. -/
lemma told_of_run {ls : List Label}
    (h : run (Call.step crates) (.new manager origin config now) ls = some s) :
    Call.told s.log = ls.filterMap Label.told := by
  refine run_invariant (P := fun ls s => Call.told s.log = ls.filterMap Label.told) rfl
    (fun ls s l s' _ htold hstep => ?_) h
  rw [Call.told_of_step hstep, htold, List.filterMap_append]
  cases hl : l.told <;> simp [hl]

/-- **Every upgrade is built for its attempt, and signed when it is sent.** The log tells, as they
came, the keys that were drawn and the credentials that were resolved.  Right before an upgrade it
has a key and, unless the upgrade goes out unsigned, credentials, which are those of this request;
so no two upgrades share a key or credentials.  There are three at most, with the backoff in
between, and only one that the network has refused is followed by another one. -/
theorem upgrades_are_fresh {ls : List Label}
    (h : run (Call.step crates) (.new manager origin config now) ls = some s) :
    Call.told s.log = ls.filterMap Label.told ∧
    (∀ front back t url request, s.log = front ++ (t, .upgrade url request) :: back →
      ∃ before t' key base, crates.intoClientRequest url key = .ok base ∧
        (front = before ++ [(t', .built key)] ∧ request = base ∧
            ((∃ id url' token, origin = .attach id url' token) ∨ manager.signer = none ∨
              isPresigned crates.url url = true) ∨
          ∃ region credentials,
            front = before ++ [(t', .built key), (t, .resolved (.ok credentials))] ∧
            (∀ id url' token, origin ≠ .attach id url' token) ∧ manager.signer = some region ∧
            isPresigned crates.url url = false ∧
            signRequest crates region credentials t base = .ok request)) ∧
    (∀ front back t url request, s.log = front ++ (t, .upgrade url request) :: back →
      Call.times back ≠ [] → ∃ t' rest, back = (t', .refused true) :: rest) ∧
    (Call.times s.log).length ≤ 3 ∧
    ∀ i t u, (Call.times s.log)[i]? = some t → (Call.times s.log)[i + 1]? = some u →
      t + 200000000 * 2 ^ i ≤ u := by
  have hruns : Runs crates manager origin config now s := Reachable.refl.of_run h
  have hpaced := hruns.paced
  have hlog := hruns.traced.log
  refine ⟨told_of_run h, fun front back t url request hcut => ?_, hlog.refused, hpaced.count,
    hpaced.spaced⟩
  cases hlog.prepared front back t url request hcut with
  | unsigned _ hbuilt hunsigned =>
    exact ⟨_, _, _, _, hbuilt, .inl ⟨rfl, rfl, hunsigned⟩⟩
  | signed _ hbuilt hattach hsigner hpresigned hsigned =>
    exact ⟨_, _, _, _, hbuilt, .inr ⟨_, _, rfl, hattach, hsigner, hpresigned, hsigned⟩⟩

/-- The network refuses the first upgrade.  The second one comes after 200 ms, with another key and
with the credentials that were resolved for it. -/
theorem upgrades_are_fresh_second :
    ∃ s front base request,
      run (Call.step sampleCrates) (.new sampleManager .start sampleOpening 0) diallingAgain =
        some s ∧
      s.log = front ++ [(200000000, .built "k2"),
        (200000000, .resolved (.ok ⟨"AKIDOTHER", "other", none⟩)),
        (200000000, .upgrade sampleUrl request)] ∧
      sampleCrates.intoClientRequest sampleUrl "k2" = .ok base ∧
      signRequest sampleCrates "eu-central-1" ⟨"AKIDOTHER", "other", none⟩ 200000000 base =
        .ok request := by
  have hrun : (run (Call.step sampleCrates) (.new sampleManager .start sampleOpening 0)
      diallingAgain).any (fun s => decide (s.log.drop 7 = [(200000000, .built "k2"),
        (200000000, .resolved (.ok ⟨"AKIDOTHER", "other", none⟩)),
        (200000000, .upgrade sampleUrl ⟨sampleUrl, some "ssmmessages.eu-central-1.amazonaws.com",
          "k2", [("x-amz-date", "200000000"),
            ("authorization", "AWS4-HMAC-SHA256 Credential=AKIDOTHER/eu-central-1")]⟩)])) =
        true := by
    decide +kernel
  obtain ⟨s, hs, hp⟩ := (Option.any_eq_true _ _).mp hrun
  have hlog := (List.take_append_drop 7 s.log).symm
  rw [of_decide_eq_true hp] at hlog
  obtain ⟨-, hprepared, -⟩ := upgrades_are_fresh hs
  obtain ⟨before, t', key, base, hbuilt, ⟨-, -, hunsigned⟩ |
    ⟨region, credentials, hfront, -, hsigner, -, hsigned⟩⟩ :=
    hprepared (s.log.take 7 ++ [(200000000, .built "k2"),
      (200000000, .resolved (.ok ⟨"AKIDOTHER", "other", none⟩))]) [] 200000000 sampleUrl _
      (by rw [List.append_assoc]; exact hlog)
  · rcases hunsigned with ⟨_, _, _, horigin⟩ | hsigner | hpresigned
    · cases horigin
    · cases hsigner
    · exact absurd hpresigned (by decide)
  · obtain ⟨-, hlast⟩ := List.append_inj' hfront rfl
    cases hlast
    cases hsigner
    exact ⟨s, _, base, _, hs, hlog, hbuilt, hsigned⟩

/-- **A session that was started and not opened is released, and no other.** What an error leaves
behind depends on the service's answer alone: nothing was started, or the session was released, or
the answer lacked the address or the token, and then a session it names stays as it is. -/
theorem started_session_is_released {ls : List Label}
    (h : run (Call.step crates) (.new manager origin config now) ls = some s) :
    Call.told s.log = ls.filterMap Label.told ∧
    (∀ id url token, origin = .attach id url token → Call.calls s.log = []) ∧
    (∀ id continuity, origin = .resume id continuity →
      Call.calls s.log <+: [.resumeSession id] ∧
      ∀ opened, s.pc = .returned (.ok (some opened)) →
        opened.sessionId = id ∧ opened.continuity = continuity) ∧
    (origin = .start →
      (∀ e, s.pc = .returned (.error e) →
        Call.responses s.log = [] ∧ Call.calls s.log <+: [.startSession (startRequest config)] ∨
        (∃ response, Call.responses s.log = [response] ∧
          Call.calls s.log = [.startSession (startRequest config)] ∧
          (response.sessionId = none ∨ response.streamUrl = none ∨ response.tokenValue = none)) ∨
        ∃ id url token, Call.responses s.log = [⟨some id, some url, some token⟩] ∧
          Call.calls s.log = [.startSession (startRequest config), .terminateSession id]) ∧
      ∀ result, s.pc = .returned (.ok result) → ∃ opened url token, result = some opened ∧
        Call.responses s.log = [⟨some opened.sessionId, some url, some token⟩] ∧
        opened.continuity = Continuity.fresh ∧
        Call.calls s.log = [.startSession (startRequest config)]) := by
  have hruns : Runs crates manager origin config now s := Reachable.refl.of_run h
  obtain ⟨-, horigin, hconfig⟩ := hruns.kept
  have haccounted := hruns.accounted
  have hpc := hruns.careful.pc
  refine ⟨told_of_run h, fun id url token hattach => ?_,
    fun id continuity hresume => ⟨?_, fun opened hret => ?_⟩,
    fun hstart => ⟨fun e hret => ?_, fun result hret => ?_⟩⟩
  · rw [Call.Accounted, horigin, hattach] at haccounted
    exact haccounted
  · rw [Call.Accounted, horigin, hresume] at haccounted
    exact haccounted.2
  · rw [hret] at hpc
    obtain ⟨o, hgranted, hid, -, -, hcontinuity⟩ := hpc
    rw [Call.Granted, horigin, hresume] at hgranted
    obtain ⟨-, ho⟩ := hgranted
    exact ⟨hid.trans (by rw [ho]; rfl), hcontinuity.trans (by rw [ho]; rfl)⟩
  · rw [Call.Accounted, horigin, hstart, hret, hconfig] at haccounted
    have hfailed : Call.Failed (startRequest config) (Call.calls s.log) (Call.responses s.log) :=
      haccounted
    generalize Call.calls s.log = calls at hfailed ⊢
    generalize Call.responses s.log = responses at hfailed ⊢
    cases hfailed with
    | unanswered hcalls => exact .inl ⟨rfl, hcalls⟩
    | incomplete hresponse => exact .inr (.inl ⟨_, rfl, rfl, hresponse⟩)
    | released => exact .inr (.inr ⟨_, _, _, rfl, rfl⟩)
  · rw [Call.Accounted, horigin, hstart, hret, hconfig] at haccounted
    rw [hret] at hpc
    cases result with
    | none => exact haccounted.elim
    | some opened =>
      obtain ⟨o, hgranted, -, -, -, hcontinuity⟩ := hpc
      obtain ⟨url, token, hcalls, hresponses⟩ := haccounted
      rw [Call.Granted, horigin, hstart] at hgranted
      exact ⟨opened, url, token, rfl, hresponses,
        hcontinuity.trans (by rw [hgranted.2]; rfl), hcalls⟩

/-- The gateway rejects the upgrade. -/
theorem started_session_is_released_rejected :
    ∃ s e, run (Call.step sampleCrates) (.new sampleManager .start sampleOpening 0)
        (dialling ++ [.connectFails false "403", .releaseAnswers]) = some s ∧
      s.pc = .returned (.error e) ∧
      Call.calls s.log = [.startSession (startRequest sampleOpening), .terminateSession "s"] := by
  have hrun : (run (Call.step sampleCrates) (.new sampleManager .start sampleOpening 0)
      (dialling ++ [.connectFails false "403", .releaseAnswers])).any
      (fun s => decide (s.pc = .returned (.error
          (.transport "could not open the SSM WebSocket: 403"))) &&
        decide (Call.responses s.log = [⟨some "s", some sampleUrl, some "t"⟩])) = true := by
    decide +kernel
  obtain ⟨s, hs, hp⟩ := (Option.any_eq_true _ _).mp hrun
  simp only [Bool.and_eq_true, decide_eq_true_eq] at hp
  obtain ⟨hpc, hresponses⟩ := hp
  obtain ⟨-, -, -, hstart⟩ := started_session_is_released hs
  refine ⟨s, _, hs, hpc, ?_⟩
  rcases (hstart rfl).1 _ hpc with ⟨hnone, -⟩ | ⟨response, hone, -, hmissing⟩ |
    ⟨id, url, token, hone, hcalls⟩
  · simp [hnone] at hresponses
  · cases List.singleton_inj.mp (hone.symm.trans hresponses)
    simp at hmissing
  · cases List.singleton_inj.mp (hone.symm.trans hresponses)
    exact hcalls

end SsmBridge.Connect
