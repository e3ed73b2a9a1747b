import SsmBridge.Construction.Opening

/-!
# What a step of an opening does

`Call.Moves` lists what can become of a call that opens a session, with the condition under which
it does, and `Call.moves_of_step` says that the list is complete.  What a step is told from outside is
not on the list; `Call.told_of_step` says that it is noted.
-/

namespace SsmBridge.Connect

variable {crates : UpgradeCrates}

/-- The request of an attempt goes out as it was built. -/
def Opening.unsigned (crates : UpgradeCrates) (o : Opening) : Bool :=
  o.signer.isNone || isPresigned crates.url o.streamUrl

/-- What can become of a call. -/
inductive Call.Moves (crates : UpgradeCrates) (s : Call) : Call → Prop
  | refused {e : Error} (hpc : s.pc = .called) (hconfig : s.config.validate = .error e) :
      Moves crates s (s.goto (.returned (.error e)))
  | attaches {sessionId streamUrl token : String} (hpc : s.pc = .called)
      (horigin : s.origin = .attach sessionId streamUrl token) :
      Moves crates s (s.goto (.opening (s.attachment sessionId streamUrl token) .checking))
  | starts (hpc : s.pc = .called) (horigin : s.origin = .start) :
      Moves crates s ((s.note (.startSession (startRequest s.config))).goto .starting)
  | resumes {sessionId : String} {continuity : Continuity} (hpc : s.pc = .called)
      (horigin : s.origin = .resume sessionId continuity) :
      Moves crates s ((s.note (.resumeSession sessionId)).goto .resuming)
  | notStarted {e : Error} (hpc : s.pc = .starting) :
      Moves crates s (s.goto (.returned (.error e)))
  | incomplete {response : Pool.StartResponse} {e : Error} (hpc : s.pc = .starting)
      (hresponse : response.sessionId = none ∨ response.streamUrl = none ∨
        response.tokenValue = none) :
      Moves crates s ((s.note (.started response)).goto (.returned (.error e)))
  | started {sessionId streamUrl token : String} (hpc : s.pc = .starting) :
      Moves crates s (((s.note (.started ⟨some sessionId, some streamUrl, some token⟩)).note
        (.answered sessionId streamUrl token)).goto
          (.opening (s.managed sessionId streamUrl token Continuity.fresh) .checking))
  | notResumed {result : Except Error (Option Opened)} (hpc : s.pc = .resuming)
      (hresult : ∀ opened, result ≠ .ok (some opened)) :
      Moves crates s (s.goto (.returned result))
  | resumed {sessionId streamUrl token : String} {continuity : Continuity} (hpc : s.pc = .resuming)
      (horigin : s.origin = .resume sessionId continuity) (htoken : token ≠ "") :
      Moves crates s ((s.note (.answered sessionId streamUrl token)).goto
        (.opening (s.managed sessionId streamUrl token continuity) .checking))
  | fails {o : Opening} {pc : DialPc} {e : Error} (hpc : s.pc = .opening o pc) :
      Moves crates s (s.fails o e)
  | spoils {o : Opening} {pc : DialPc} {did : Did} {e : Error} (hpc : s.pc = .opening o pc)
      (hdid : (∃ key, did = .built key) ∨ (∃ answer, did = .resolved answer) ∨
        ∃ io, did = .refused io) :
      Moves crates s ((s.note did).fails o e)
  | accepts {o : Opening} (hpc : s.pc = .opening o .checking)
      (hpolicy : s.config.endpointPolicy.validate crates.url o.streamUrl = .ok ()) :
      Moves crates s (s.goto (.opening o (.dialing 1 firstBackoff)))
  | wakes {o : Opening} {attempt backoff due : ℕ}
      (hpc : s.pc = .opening o (.sleeping attempt backoff due)) (hdue : due ≤ s.now) :
      Moves crates s (s.goto (.opening o (.dialing attempt backoff)))
  | dials {o : Opening} {attempt backoff : ℕ} {key : String} {request : Request}
      (hpc : s.pc = .opening o (.dialing attempt backoff))
      (hbuilt : upgradeRequest crates o.streamUrl key = .ok request)
      (hunsigned : o.unsigned crates = true) :
      Moves crates s ((s.note (.built key)).dial o attempt backoff request)
  | builds {o : Opening} {attempt backoff : ℕ} {key : String} {request : Request}
      (hpc : s.pc = .opening o (.dialing attempt backoff))
      (hbuilt : upgradeRequest crates o.streamUrl key = .ok request)
      (hunsigned : o.unsigned crates = false) :
      Moves crates s ((s.note (.built key)).goto (.opening o (.resolving attempt backoff request)))
  | signs {o : Opening} {attempt backoff : ℕ} {built request : Request} {region : String}
      {credentials : Credentials} (hpc : s.pc = .opening o (.resolving attempt backoff built))
      (hsigner : o.signer = some region)
      (hsigned : signRequest crates region credentials s.now built = .ok request) :
      Moves crates s ((s.note (.resolved (.ok credentials))).dial o attempt backoff request)
  | connects {o : Opening} {attempt backoff : ℕ} {requestId : String}
      (hpc : s.pc = .opening o (.connecting attempt backoff)) :
      Moves crates s
        ((s.note (.wrote o.streamUrl (openMessage o requestId))).goto (.opening o .sending))
  | backs {o : Opening} {attempt backoff : ℕ}
      (hpc : s.pc = .opening o (.connecting attempt backoff))
      (hattempt : attempt ≠ connectAttempts) :
      Moves crates s ((s.note (.refused true)).goto
        (.opening o (.sleeping (attempt + 1) (2 * backoff) (s.now + backoff))))
  | opens {o : Opening} (hpc : s.pc = .opening o .sending) :
      Moves crates s (s.goto (.returned (.ok (some (s.opened o)))))
  | released {e : Error} (hpc : s.pc = .releasing e) :
      Moves crates s (s.goto (.returned (.error e)))
  | elapses {nanos : ℕ} : Moves crates s { s with now := s.now + nanos }
  | drops (hpc : ∀ result, s.pc ≠ .returned result) : Moves crates s (s.goto .dropped)

namespace Call

variable {s s' : Call} {l : Label}

lemma moves_of_advance (h : s.advance crates = some s') : s.Moves crates s' := by
  unfold advance at h
  split at h
  · next hpc =>
    split at h
    · next e hconfig =>
      cases h
      exact .refused hpc hconfig
    · split at h <;> cases h
      · next horigin => exact .attaches hpc horigin
      · next horigin => exact .starts hpc horigin
      · next horigin => exact .resumes hpc horigin
  · next o hpc =>
    split at h <;> cases h
    · exact .fails hpc
    · next hpolicy => exact .accepts hpc hpolicy
  · next o attempt backoff due hpc =>
    split at h <;> cases h
    next hdue => exact .wakes hpc hdue
  · cases h

lemma moves_of_startAnswers {answer : Except SdkError Pool.StartResponse}
    (h : s.startAnswers answer = some s') : s.Moves crates s' := by
  unfold startAnswers at h
  split at h
  · next hpc =>
    split at h
    · cases h
      exact .notStarted hpc
    · next response =>
      dsimp only at h
      split at h <;> cases h
      · next hid => exact .incomplete hpc (.inl hid)
      · next hid hurl => exact .incomplete hpc (.inr (.inl hurl))
      · next hid hurl htoken => exact .incomplete hpc (.inr (.inr htoken))
      · next hid hurl htoken =>
        obtain ⟨sessionId, streamUrl, tokenValue⟩ := response
        cases hid
        cases hurl
        cases htoken
        exact .started hpc
  · cases h

lemma moves_of_resumeAnswers {answer : Except SdkError ResumeResponse}
    (h : s.resumeAnswers answer = some s') : s.Moves crates s' := by
  unfold resumeAnswers at h
  split at h
  · next sessionId continuity hpc horigin =>
    split at h
    · cases h
      exact .notResumed hpc (by simp)
    · split at h
      · split at h <;> cases h
        · exact .notResumed hpc (by simp)
        · next htoken => exact .resumed hpc horigin htoken
      · cases h
        exact .notResumed hpc (by simp)
  · cases h

lemma moves_of_build {key : String} (h : s.build crates key = some s') : s.Moves crates s' := by
  unfold build at h
  split at h
  · next o attempt backoff hpc =>
    dsimp only at h
    split at h
    · cases h
      exact .spoils hpc (.inl ⟨_, rfl⟩)
    · next request hbuilt =>
      split at h
      · next hsigner =>
        cases h
        exact .dials hpc hbuilt (by simp [Opening.unsigned, hsigner])
      · next region hsigner =>
        split at h <;> cases h
        · next hpresigned => exact .dials hpc hbuilt (by simp [Opening.unsigned, hpresigned])
        · next hpresigned =>
          exact .builds hpc hbuilt (by simp [Opening.unsigned, hsigner, hpresigned])
  · cases h

lemma moves_of_resolves {answer : Except String Credentials}
    (h : s.resolves crates answer = some s') : s.Moves crates s' := by
  unfold resolves at h
  split at h
  · next o attempt backoff built hpc =>
    dsimp only at h
    split at h
    · cases h
      exact .spoils hpc (.inr (.inl ⟨_, rfl⟩))
    · next credentials region hsigner =>
      split at h <;> cases h
      · exact .spoils hpc (.inr (.inl ⟨_, rfl⟩))
      · next request hsigned => exact .signs hpc hsigner hsigned
    · cases h
  · cases h

lemma moves_of_connectFails {io : Bool} {text : String} (h : s.connectFails io text = some s') :
    s.Moves crates s' := by
  unfold connectFails at h
  split at h
  · next o attempt backoff hpc =>
    dsimp only at h
    split at h
    · cases h
      exact .spoils hpc (.inr (.inr ⟨_, rfl⟩))
    · next hagain =>
      cases h
      simp only [Bool.or_eq_true, Bool.not_eq_true', decide_eq_true_eq, not_or,
        Bool.not_eq_false] at hagain
      rw [hagain.1]
      exact .backs hpc hagain.2
  · cases h

/-- **What becomes of a call is on the list.** The cases follow the call through the service's
answer, the attempts to connect and the first message; each says what it adds to the log. -/
theorem moves_of_step (h : s.step crates l = some s') : s.Moves crates s' := by
  cases l with
  | advance => exact moves_of_advance h
  | startAnswers answer => exact moves_of_startAnswers h
  | resumeAnswers answer => exact moves_of_resumeAnswers h
  | build key => exact moves_of_build h
  | resolves answer => exact moves_of_resolves h
  | connects requestId =>
    simp only [step, connects] at h
    split at h <;> cases h
    next hpc => exact .connects hpc
  | connectFails io text => exact moves_of_connectFails h
  | sent result =>
    simp only [step, sent] at h
    split at h
    · next o hpc =>
      split at h <;> cases h
      · exact .opens hpc
      · exact .fails hpc
    · cases h
  | releaseAnswers =>
    simp only [step, releaseAnswers] at h
    split at h <;> cases h
    next e hpc => exact .released hpc
  | elapse nanos =>
    cases h
    exact .elapses
  | drop =>
    simp only [step, drop] at h
    split at h <;> cases h
    next hreturned _ => exact .drops hreturned

/-! ## What a call is told -/

/-- What a call was told, in order. -/
def told (log : List (ℕ × Did)) : List Did := (log.map Prod.snd).filter Did.isTold

@[simp]
lemma told_note (s : Call) (did : Did) :
    told (s.note did).log = told s.log ++ if did.isTold then [did] else [] := by
  cases hdid : did.isTold <;> simp [told, note, hdid]

@[simp]
lemma told_goto (s : Call) (pc : CallPc) : told (s.goto pc).log = told s.log := rfl

@[simp]
lemma told_fails (s : Call) (o : Opening) (e : Error) : told (s.fails o e).log = told s.log := by
  unfold fails
  split <;> simp [Did.isTold]

@[simp]
lemma told_dial (s : Call) (o : Opening) (attempt backoff : ℕ) (request : Request) :
    told (s.dial o attempt backoff request).log = told s.log := by
  simp [dial, Did.isTold]

/-- What a call is told is noted as it comes, and nothing else is noted so. -/
theorem told_of_step (h : s.step crates l = some s') :
    told s'.log = told s.log ++ l.told.toList := by
  cases l with
  | advance =>
    simp only [step] at h
    unfold advance at h
    split at h
    · split at h
      · cases h
        simp [Label.told]
      · split at h <;> cases h <;> simp [Label.told, Did.isTold]
    · split at h <;> cases h <;> simp [Label.told]
    · split at h <;> cases h
      simp [Label.told]
    · cases h
  | startAnswers answer =>
    simp only [step] at h
    unfold startAnswers at h
    split at h
    · split at h
      · cases h
        simp [Label.told]
      · dsimp only at h
        split at h <;> cases h <;> simp [Label.told, Did.isTold]
    · cases h
  | resumeAnswers answer =>
    simp only [step] at h
    unfold resumeAnswers at h
    split at h
    · split at h
      · cases h
        simp [Label.told]
      · split at h
        · split at h <;> cases h <;> simp [Label.told, Did.isTold]
        · cases h
          simp [Label.told]
    · cases h
  | build key =>
    simp only [step] at h
    unfold build at h
    split at h
    · dsimp only at h
      split at h
      · cases h
        simp [Label.told, Did.isTold]
      · split at h
        · cases h
          simp [Label.told, Did.isTold]
        · split at h <;> cases h <;> simp [Label.told, Did.isTold]
    · cases h
  | resolves answer =>
    simp only [step] at h
    unfold resolves at h
    split at h
    · dsimp only at h
      split at h
      · cases h
        simp [Label.told, Did.isTold]
      · split at h <;> cases h <;> simp [Label.told, Did.isTold]
      · cases h
    · cases h
  | connects requestId =>
    simp only [step, connects] at h
    split at h <;> cases h
    simp [Label.told, Did.isTold]
  | connectFails io text =>
    simp only [step] at h
    unfold connectFails at h
    split at h
    · dsimp only at h
      split at h <;> cases h <;> simp [Label.told, Did.isTold]
    · cases h
  | sent result =>
    simp only [step, sent] at h
    split at h
    · split at h <;> cases h <;> simp [Label.told]
    · cases h
  | releaseAnswers =>
    simp only [step, releaseAnswers] at h
    split at h <;> cases h
    simp [Label.told]
  | elapse nanos =>
    cases h
    simp [Label.told]
  | drop =>
    simp only [step, drop] at h
    split at h <;> cases h
    simp [Label.told]

end Call

end SsmBridge.Connect
