import SsmBridge.Construction.ReaderRun

/-!
# What a resume changes for the agent's messages

A resumed channel inherits the counters, the reorder buffer and the cipher, and starts with a new
handshake handler.  The handler remembers two things the rest of the stream may need: that a
request was answered, and the cipher a challenge is answered with.  `UsesHandshake` names the
messages that need one of them: a handshake request, which a handler that has answered one ignores,
a completion, which only a handler that has answered one accepts, and a challenge under the
negotiated cipher.

`Lockstep` relates the reader that was replaced and the one that replaced it.  A message that does
not use the handshake keeps it (`deliverMessage_lockstep`), and one that does is observed to differ
(`deliverMessage_diverges`).  Since a trace only grows, the two runs agree exactly when no message
they process uses the handshake: `resume_transparent_iff`.
-/

namespace SsmBridge

/-! ## Messages that need what the handler remembers -/

/-- The message makes the client do something that depends on an answered handshake. -/
def UsesHandshake (env : Env) (h : HandshakeHandler) (m : ClientMessage) : Prop :=
  match m.payloadType with
  | .handshakeRequest => ∃ request, env.codec.request m.payload = .ok request
  | .handshakeComplete =>
      h.state = .awaitingComplete ∧ ∃ complete, env.codec.complete m.payload = .ok complete
  | .encChallengeRequest =>
      ∃ crypto challenge plaintext, h.crypto = some crypto ∧
        env.codec.challenge m.payload = .ok challenge ∧
        crypto.decrypt env.aead challenge = .ok plaintext
  | _ => False

/-- Serializing a response and encrypting a payload do not fail. -/
structure RepliesSucceed (env : Env) : Prop where
  response : ∀ r, ∃ payload, env.codec.response r = .ok payload
  challengeResponse : ∀ c, ∃ payload, env.codec.challengeResponse c = .ok payload
  encrypt : ∀ key nonce plaintext, ∃ c, env.aead.encrypt key nonce plaintext = some c

/-- The two readers differ in nothing but the handshake handler and the parts of the core that no
delivery reads. -/
structure Lockstep (h : HandshakeHandler) (w w' : ReaderRun) : Prop where
  handshake : w.view.handshake = h
  handshake' : w'.view.handshake = HandshakeHandler.new h.kms
  crypto : w'.view.crypto = w.view.crypto
  closed : w'.view.core.isClosed = w.view.core.isClosed
  calls : w'.calls = w.calls
  nonces : w'.nonces = w.nonces
  trace : w'.trace = w.trace

namespace SessionCore

@[simp] lemma isClosed_setSendable (core : SessionCore) (b : Bool) :
    (core.setSendable b).isClosed = core.isClosed := rfl

@[simp] lemma isClosed_emitOutput (core : SessionCore) (data : Bytes) :
    (core.emitOutput data).isClosed = core.isClosed := rfl

@[simp] lemma isClosed_setSessionBanner (core : SessionCore) (banner : Option String) :
    (core.setSessionBanner banner).isClosed = core.isClosed := rfl

@[simp] lemma isClosed_setAgentVersion (core : SessionCore) (version : Option String) :
    (core.setAgentVersion version).isClosed = core.isClosed := rfl

@[simp] lemma isClosed_setExitCode (core : SessionCore) (code : Option ℤ) :
    (core.setExitCode code).isClosed = core.isClosed := by
  unfold setExitCode
  split <;> rfl

@[simp] lemma isClosed_close (core : SessionCore) (reason : CloseReason) :
    (core.close reason).isClosed = true := by
  unfold close
  cases h : core.closeReason with
  | none => rfl
  | some r => simp [isClosed, h]

end SessionCore

/-- A message that carries none of the three handshake payloads is finished at once, and what it
does depends on nothing but the cipher. -/
lemma deliver_plain (env : Env) (crypto : Option SessionCrypto) (m : ClientMessage)
    (hrequest : m.payloadType ≠ .handshakeRequest) (hcomplete : m.payloadType ≠ .handshakeComplete)
    (hchallenge : m.payloadType ≠ .encChallengeRequest) :
    ∃ result output terminated, ∀ nonce v, v.crypto = crypto →
      ∃ core, deliver env nonce v m = (.progress (.finished result), { v with core }, output) ∧
        core.isClosed = (v.core.isClosed || terminated) := by
  cases hpt : m.payloadType with
  | handshakeRequest => exact absurd hpt hrequest
  | handshakeComplete => exact absurd hpt hcomplete
  | encChallengeRequest => exact absurd hpt hchallenge
  | output | stdErr | undefined =>
    by_cases hempty : m.payload = []
    · refine ⟨.ok (), none, false, fun nonce v _ => ⟨v.core.setSendable true, ?_, by simp⟩⟩
      simp only [deliver, hpt, if_pos hempty]
    · cases hdec : decryptIfNeeded env crypto m with
      | error e =>
        refine ⟨.error e, none, false, fun nonce v hv => ⟨v.core.setSendable true, ?_, by simp⟩⟩
        subst hv
        simp only [deliver, hpt, if_neg hempty, hdec]
      | ok payload =>
        refine ⟨.ok (), some payload, false, fun nonce v hv =>
          ⟨(v.core.setSendable true).emitOutput payload, ?_, by simp⟩⟩
        subst hv
        simp only [deliver, hpt, if_neg hempty, hdec]
  | exitCode =>
    cases hdec : decryptIfNeeded env crypto m with
    | error e =>
      refine ⟨.error e, none, false, fun nonce v hv => ⟨v.core, ?_, by simp⟩⟩
      subst hv
      simp only [deliver, hpt, hdec]
    | ok payload =>
      refine ⟨.ok (), none, false, fun nonce v hv =>
        ⟨v.core.setExitCode (parseExitCode payload), ?_, by simp⟩⟩
      subst hv
      simp only [deliver, hpt, hdec]
  | flag =>
    rcases hflag : ControlFlag.fromPayload m.payload with _ | _ | _ | _
    · exact ⟨.ok (), none, false, fun nonce v _ => ⟨v.core, by simp only [deliver, hpt, hflag],
        by simp⟩⟩
    · exact ⟨.ok (), none, false, fun nonce v _ => ⟨v.core, by simp only [deliver, hpt, hflag],
        by simp⟩⟩
    · exact ⟨.ok (), none, true, fun nonce v _ =>
        ⟨v.core.close (.agentClosed v.core.exitCode none), by simp only [deliver, hpt, hflag],
          by simp⟩⟩
    · exact ⟨.ok (), none, false, fun nonce v _ => ⟨v.core, by simp only [deliver, hpt, hflag],
        by simp⟩⟩
  | error | size | parameter | handshakeResponse | encChallengeResponse =>
    exact ⟨.ok (), none, false, fun nonce v _ => ⟨v.core, by simp only [deliver, hpt], by simp⟩⟩

/-! ## One message on both sides -/

section

variable {env : Env} {nonceAt : ℕ → Nonce} {h : HandshakeHandler} {w w' : ReaderRun}
  {m : ClientMessage}

/-- Every delivery adds one observation, of its own message, to the trace. -/
lemma deliverMessage_trace (env : Env) (nonceAt : ℕ → Nonce) (w : ReaderRun) (m : ClientMessage) :
    ∃ o : Observation, o.message = m ∧
      o.failed = !(deliverFully env (nonceAt w.nonces) w.calls w.view m).1.isOk ∧
      o.reply = (deliverFully env (nonceAt w.nonces) w.calls w.view m).2.2.2.2 ∧
      (deliverMessage env nonceAt w m).2.trace = w.trace ++ [o] :=
  ⟨_, rfl, rfl, rfl, rfl⟩

/-- Two deliveries that finish at once, both well or both badly, are in lockstep. -/
lemma lockstep_of_finished {result result' : Except Error Unit} {output : Option Bytes}
    {core core' : SessionCore} (hl : Lockstep h w w')
    (hd : deliver env (nonceAt w.nonces) w.view m =
      (.progress (.finished result), { w.view with core }, output))
    (hd' : deliver env (nonceAt w'.nonces) w'.view m =
      (.progress (.finished result'), { w'.view with core := core' }, output))
    (hresult : result'.isOk = result.isOk) (hclosed : core'.isClosed = core.isClosed) :
    (deliverMessage env nonceAt w' m).1.isOk = (deliverMessage env nonceAt w m).1.isOk ∧
      Lockstep h (deliverMessage env nonceAt w m).2 (deliverMessage env nonceAt w' m).2 := by
  simp only [deliverMessage, deliverFully, hd, hd', finish]
  refine ⟨hresult, hl.handshake, hl.handshake', hl.crypto, hclosed, hl.calls, ?_, ?_⟩
  · simp only [hl.nonces]
  · simp only [hl.trace, hl.crypto, hresult]

/-- Two deliveries that reject the message outright are in lockstep. -/
lemma lockstep_of_rejected {e e' : Error} (hl : Lockstep h w w')
    (hd : deliver env (nonceAt w.nonces) w.view m =
      (.progress (.finished (.error e)), w.view, none))
    (hd' : deliver env (nonceAt w'.nonces) w'.view m =
      (.progress (.finished (.error e')), w'.view, none)) :
    (deliverMessage env nonceAt w' m).1.isOk = (deliverMessage env nonceAt w m).1.isOk ∧
      Lockstep h (deliverMessage env nonceAt w m).2 (deliverMessage env nonceAt w' m).2 :=
  lockstep_of_finished hl hd hd' rfl hl.closed

/-- A handler that is not waiting for a completion rejects it. -/
lemma onComplete_rejected {h : HandshakeHandler} (hstate : h.state ≠ .awaitingComplete)
    (complete : HandshakeComplete) :
    h.onComplete complete =
      (.error (.protocol s!"HandshakeComplete received in state {h.state.debug}"), h) := by
  rw [HandshakeHandler.onComplete, if_pos hstate]

/-- A message that does not use the handshake is handled alike by the two readers. -/
lemma deliverMessage_lockstep (hl : Lockstep h w w') (hm : ¬UsesHandshake env h m) :
    (deliverMessage env nonceAt w' m).1.isOk = (deliverMessage env nonceAt w m).1.isOk ∧
      Lockstep h (deliverMessage env nonceAt w m).2 (deliverMessage env nonceAt w' m).2 := by
  by_cases hrequest : m.payloadType = .handshakeRequest
  · simp only [UsesHandshake, hrequest, not_exists] at hm
    cases hparse : env.codec.request m.payload with
    | error e =>
      exact lockstep_of_rejected hl (by simp only [deliver, hrequest, hparse]; rfl)
        (by simp only [deliver, hrequest, hparse]; rfl)
    | ok request => exact absurd hparse (hm request)
  by_cases hcomplete : m.payloadType = .handshakeComplete
  · simp only [UsesHandshake, hcomplete, not_and, not_exists] at hm
    cases hparse : env.codec.complete m.payload with
    | error e =>
      exact lockstep_of_rejected hl (by simp only [deliver, hcomplete, hparse]; rfl)
        (by simp only [deliver, hcomplete, hparse]; rfl)
    | ok complete =>
      have hstate : w.view.handshake.state ≠ .awaitingComplete := by
        rw [hl.handshake]
        exact fun hawaiting => hm hawaiting complete hparse
      have hstate' : w'.view.handshake.state ≠ .awaitingComplete := by
        rw [hl.handshake']
        exact nofun
      exact lockstep_of_rejected hl
        (by simp only [deliver, hcomplete, hparse, onComplete_rejected hstate]; rfl)
        (by simp only [deliver, hcomplete, hparse, onComplete_rejected hstate']; rfl)
  by_cases hchallenge : m.payloadType = .encChallengeRequest
  · simp only [UsesHandshake, hchallenge, not_exists, not_and] at hm
    cases hparse : env.codec.challenge m.payload with
    | error e =>
      exact lockstep_of_rejected hl (by simp only [deliver, hchallenge, hparse]; rfl)
        (by simp only [deliver, hchallenge, hparse]; rfl)
    | ok challenge =>
      have hanswer' : ∃ e, ∀ nonce,
          w'.view.handshake.answerChallenge env.aead nonce challenge = .error e := by
        rw [hl.handshake']
        exact ⟨_, fun _ => rfl⟩
      have hanswer : ∃ e, ∀ nonce,
          w.view.handshake.answerChallenge env.aead nonce challenge = .error e := by
        rw [hl.handshake]
        cases hcrypto : h.crypto with
        | none =>
          exact ⟨_, fun _ => by simp only [HandshakeHandler.answerChallenge, hcrypto]; rfl⟩
        | some crypto =>
          cases hdec : crypto.decrypt env.aead challenge with
          | error e =>
            exact ⟨e, fun _ => by simp only [HandshakeHandler.answerChallenge, hcrypto, hdec]⟩
          | ok plaintext => exact absurd hdec (hm crypto challenge plaintext hcrypto hparse)
      obtain ⟨e, he⟩ := hanswer
      obtain ⟨e', he'⟩ := hanswer'
      exact lockstep_of_rejected hl (by simp only [deliver, hchallenge, hparse, he]; rfl)
        (by simp only [deliver, hchallenge, hparse, he']; rfl)
  obtain ⟨result, output, terminated, hplain⟩ :=
    deliver_plain env w.view.crypto m hrequest hcomplete hchallenge
  obtain ⟨core, hd, hclosed⟩ := hplain (nonceAt w.nonces) w.view rfl
  obtain ⟨core', hd', hclosed'⟩ := hplain (nonceAt w'.nonces) w'.view hl.crypto
  exact lockstep_of_finished hl hd hd' rfl (by rw [hclosed, hclosed', hl.closed])

/-- A handler that has answered a request ignores another one. -/
lemma requestDone_duplicate {v : ReaderView}
    (hstate : v.handshake.state = .awaitingComplete ∨ v.handshake.state = .completed) (calls : ℕ)
    (request : HandshakeRequest) :
    requestDone env calls v request = (.finished (.ok ()), v, calls) := by
  rcases hstate with hs | hs <;> simp only [requestDone, HandshakeHandler.onRequest, hs]

/-- A handler that has seen nothing answers a request. -/
lemma requestDone_fresh (hreplies : RepliesSucceed env) {v : ReaderView}
    (hstate : v.handshake.state = .awaitingRequest) (calls : ℕ) (request : HandshakeRequest) :
    ∃ payload after v' calls', requestDone env calls v request =
      (.reply .handshakeResponse payload after, v', calls') := by
  simp only [requestDone, HandshakeHandler.onRequest, hstate]
  obtain ⟨payload, hpayload⟩ := hreplies.response _
  rw [hpayload]
  exact ⟨payload, _, _, _, rfl⟩

/-- The two readers did the same up to a message that they handled differently. -/
def Diverged (w w' : ReaderRun) : Prop :=
  ∃ (t : List Observation) (o o' : Observation), o ≠ o' ∧ t ++ [o] <+: w.trace ∧
    t ++ [o'] <+: w'.trace

/-- Deliveries that end differently, or answer differently, are told apart by the trace. -/
lemma diverged_of_deliverFully (hl : Lockstep h w w')
    (hne : (deliverFully env (nonceAt w.nonces) w.calls w.view m).1.isOk ≠
          (deliverFully env (nonceAt w'.nonces) w'.calls w'.view m).1.isOk ∨
        (deliverFully env (nonceAt w.nonces) w.calls w.view m).2.2.2.2 ≠
          (deliverFully env (nonceAt w'.nonces) w'.calls w'.view m).2.2.2.2) :
    Diverged (deliverMessage env nonceAt w m).2 (deliverMessage env nonceAt w' m).2 := by
  obtain ⟨o, -, hfailed, hreply, htrace⟩ := deliverMessage_trace env nonceAt w m
  obtain ⟨o', -, hfailed', hreply', htrace'⟩ := deliverMessage_trace env nonceAt w' m
  rw [hl.trace] at htrace'
  refine ⟨w.trace, o, o', ?_, htrace ▸ List.prefix_refl _, htrace' ▸ List.prefix_refl _⟩
  rintro rfl
  rcases hne with hresult | hanswer
  · exact hresult (Bool.not_inj (hfailed.symm.trans hfailed'))
  · exact hanswer (hreply.symm.trans hreply')

/-- A message that uses the handshake is observed to be handled differently. -/
lemma deliverMessage_diverges (hreplies : RepliesSucceed env)
    (hstate : h.state = .awaitingComplete ∨ h.state = .completed) (hl : Lockstep h w w')
    (hm : UsesHandshake env h m) :
    Diverged (deliverMessage env nonceAt w m).2 (deliverMessage env nonceAt w' m).2 := by
  have hawaits' : w'.view.handshake.state ≠ .awaitingComplete := by
    rw [hl.handshake']
    exact nofun
  cases hpt : m.payloadType <;> simp only [UsesHandshake, hpt] at hm
  case handshakeRequest =>
    -- The old handler ignores the request, the new one answers it.
    obtain ⟨request, hparse⟩ := hm
    have hold : requestDone env w.calls w.view request = _ :=
      requestDone_duplicate (hl.handshake ▸ hstate) w.calls request
    obtain ⟨payload, after, v', calls', hnew⟩ :
        ∃ payload after v' calls', requestDone env w'.calls w'.view request =
          (.reply .handshakeResponse payload after, v', calls') :=
      requestDone_fresh hreplies (by rw [hl.handshake']; rfl) w'.calls request
    refine diverged_of_deliverFully hl (.inr ?_)
    simp [deliverFully, deliver, hpt, hparse, hold, hnew, finish]
  case handshakeComplete =>
    -- Only the old handler waits for a completion.
    obtain ⟨hawaiting, complete, hparse⟩ := hm
    have hold : w.view.handshake.onComplete complete =
        (.ok (complete.customerMessage.filter (fun m => decide (m ≠ ""))),
          { w.view.handshake with state := .completed }) := by
      rw [HandshakeHandler.onComplete, if_neg (not_not_intro (hl.handshake ▸ hawaiting))]
    refine diverged_of_deliverFully hl (.inl ?_)
    simp [deliverFully, deliver, hpt, hparse, hold, onComplete_rejected hawaits', finish,
      Except.isOk, Except.toBool]
  case encChallengeRequest =>
    -- Only the old handler has the cipher the challenge is answered with.
    obtain ⟨crypto, challenge, plaintext, hcrypto, hparse, hdec⟩ := hm
    obtain ⟨c, hc⟩ := hreplies.encrypt crypto.encryptKey (nonceAt w.nonces).toList plaintext
    obtain ⟨payload, hpayload⟩ :=
      hreplies.challengeResponse ((nonceAt w.nonces).toList ++ c)
    have hold : w.view.handshake.answerChallenge env.aead (nonceAt w.nonces) challenge =
        .ok ((nonceAt w.nonces).toList ++ c) := by
      rw [hl.handshake]
      simp only [HandshakeHandler.answerChallenge, hcrypto, hdec, SessionCrypto.encrypt, hc]
    have hnew : w'.view.handshake.answerChallenge env.aead (nonceAt w'.nonces) challenge =
        .error (.protocol "agent sent an encryption challenge but no key was negotiated") := by
      rw [hl.handshake']
      rfl
    refine diverged_of_deliverFully hl (.inl ?_)
    simp [deliverFully, deliver, hpt, hparse, hold, hpayload, hnew, finish, replySent, Except.isOk,
      Except.toBool]

end

/-! ## Two runs side by side -/

section

variable {env : Env} {nonceAt : ℕ → Nonce} {h : HandshakeHandler}

lemma Diverged.mono {w w' w₁ w₁' : ReaderRun} (hd : Diverged w w') (ht : w.trace <+: w₁.trace)
    (ht' : w'.trace <+: w₁'.trace) : Diverged w₁ w₁' := by
  obtain ⟨t, o, o', hne, hp, hp'⟩ := hd
  exact ⟨t, o, o', hne, hp.trans ht, hp'.trans ht'⟩

lemma Diverged.trace_ne {w w' : ReaderRun} (hd : Diverged w w') : w'.trace ≠ w.trace := by
  obtain ⟨t, o, o', hne, hp, hp'⟩ := hd
  intro heq
  rw [heq] at hp'
  have hsame := List.prefix_of_prefix_length_le hp hp' (by simp)
  exact hne (by simpa using hsame)

lemma deliverMessage_prefix (w : ReaderRun) (m : ClientMessage) :
    w.trace <+: (deliverMessage env nonceAt w m).2.trace :=
  List.prefix_append _ _

lemma deliverAndDrain_prefix (s : Inbound) (w : ReaderRun) (m : ClientMessage) :
    w.trace <+: (deliverAndDrain (sessionReader env nonceAt) s w m).2.2.trace := by
  have hdeliver : ∀ {w m r}, (sessionReader env nonceAt).deliver w m = r →
      w.trace <+: r.2.trace := by
    rintro w m r rfl
    exact deliverMessage_prefix w m
  fun_induction deliverAndDrain (sessionReader env nonceAt) s w m with
  | case1 s w m e w' hd => exact hdeliver hd
  | case2 s w m w' hd => exact hdeliver hd
  | case3 s w m w' hd _ next s' ih => exact (hdeliver hd).trans ih

/-- The drain loop starts with the message in hand. -/
lemma deliverAndDrain_first (s : Inbound) (w : ReaderRun) (m : ClientMessage) :
    (deliverMessage env nonceAt w m).2.trace <+:
      (deliverAndDrain (sessionReader env nonceAt) s w m).2.2.trace := by
  rw [deliverAndDrain]
  simp only [sessionReader]
  rcases deliverMessage env nonceAt w m with ⟨_ | _, w₁⟩
  · exact List.prefix_refl _
  · dsimp only
    split
    · exact List.prefix_refl _
    · exact deliverAndDrain_prefix _ w₁ _

lemma routeStreamData_prefix (s : Inbound) (w : ReaderRun) (m : ClientMessage) :
    w.trace <+: (routeStreamData (sessionReader env nonceAt) s w m).2.2.trace := by
  rw [routeStreamData]
  rcases s.arrive m with ⟨_ | _ | _ | _, s₁⟩
  · exact List.prefix_refl _
  · exact List.prefix_refl _
  · exact List.prefix_refl _
  · exact deliverAndDrain_prefix s₁ w m

lemma receiveAll_prefix (s : Inbound) (w : ReaderRun) (msgs : List ClientMessage) :
    w.trace <+: (receiveAll env nonceAt s w msgs).2.trace := by
  induction msgs generalizing s w with
  | nil => exact List.prefix_refl _
  | cons m rest ih =>
    rw [receiveAll]
    split
    · exact List.prefix_refl _
    · have hstep : w.trace <+: (routeStreamData (sessionReader env nonceAt) s w m).2.2.trace :=
        routeStreamData_prefix s w m
      split
      · rename_i s₁ w₁ heq
        rw [heq] at hstep
        exact hstep.trans (ih s₁ w₁)
      · rename_i e s₁ w₁ heq
        rw [heq] at hstep
        exact hstep

/-- The two runs since `w₀`: either no message used the handshake and they agree, or one did and
they differ. -/
def Paired (env : Env) (h : HandshakeHandler) (w₀ w w' : ReaderRun) (agree : Prop) : Prop :=
  ∃ added, w.trace = w₀.trace ++ added ∧
    ((∀ o ∈ added, ¬UsesHandshake env h o.message) ∧ Lockstep h w w' ∧ agree ∨
      (∃ o ∈ added, UsesHandshake env h o.message) ∧ Diverged w w')

/-- Runs that have come apart stay apart. -/
lemma Paired.of_diverged {w₀ w w' w₁ w₁' : ReaderRun} {added : List Observation} {agree : Prop}
    (ht : w.trace = w₀.trace ++ added) (huses : ∃ o ∈ added, UsesHandshake env h o.message)
    (hdiv : Diverged w w') (hp : w.trace <+: w₁.trace) (hp' : w'.trace <+: w₁'.trace) :
    Paired env h w₀ w₁ w₁' agree := by
  obtain ⟨more, hmore⟩ := hp
  obtain ⟨o, ho, hu⟩ := huses
  refine ⟨added ++ more, by rw [← hmore, ht, List.append_assoc], .inr ⟨⟨o, ?_, hu⟩, ?_⟩⟩
  · exact List.mem_append_left _ ho
  · exact hdiv.mono ⟨more, hmore⟩ hp'

/-- Runs that agree so far are paired as what follows is. -/
lemma Paired.of_lockstep {w₀ w w₁ w₁' : ReaderRun} {added : List Observation} {agree : Prop}
    (ht : w.trace = w₀.trace ++ added) (hclean : ∀ o ∈ added, ¬UsesHandshake env h o.message)
    (hnext : Paired env h w w₁ w₁' agree) : Paired env h w₀ w₁ w₁' agree := by
  obtain ⟨more, hmore, hcase⟩ := hnext
  refine ⟨added ++ more, by rw [hmore, ht, List.append_assoc], ?_⟩
  refine hcase.imp (fun ⟨hc, hrest⟩ => ⟨fun o ho => ?_, hrest⟩)
    (fun ⟨⟨o, ho, hu⟩, hdiv⟩ => ⟨⟨o, List.mem_append_right _ ho, hu⟩, hdiv⟩)
  rcases List.mem_append.mp ho with hold | hnew
  · exact hclean o hold
  · exact hc o hnew

lemma deliverAndDrain_paired (hreplies : RepliesSucceed env)
    (hstate : h.state = .awaitingComplete ∨ h.state = .completed) (s : Inbound) {w w' : ReaderRun}
    (hl : Lockstep h w w') (m : ClientMessage) :
    Paired env h w (deliverAndDrain (sessionReader env nonceAt) s w m).2.2
      (deliverAndDrain (sessionReader env nonceAt) s w' m).2.2
      ((deliverAndDrain (sessionReader env nonceAt) s w' m).1.isOk =
          (deliverAndDrain (sessionReader env nonceAt) s w m).1.isOk ∧
        (deliverAndDrain (sessionReader env nonceAt) s w' m).2.1 =
          (deliverAndDrain (sessionReader env nonceAt) s w m).2.1) := by
  induction hlen : s.incoming.len using Nat.strong_induction_on generalizing s w w' m with
  | _ k ih =>
    obtain ⟨o, hmessage, -, -, htrace⟩ := deliverMessage_trace env nonceAt w m
    by_cases huses : UsesHandshake env h m
    · exact Paired.of_diverged htrace ⟨o, by simp, hmessage ▸ huses⟩
        (deliverMessage_diverges hreplies hstate hl huses) (deliverAndDrain_first s w m)
        (deliverAndDrain_first s w' m)
    · obtain ⟨hok, hnext⟩ : _ ∧ Lockstep h (deliverMessage env nonceAt w m).2
          (deliverMessage env nonceAt w' m).2 := deliverMessage_lockstep hl huses
      have hclean : ∀ o' ∈ [o], ¬UsesHandshake env h o'.message := by
        simpa [hmessage] using huses
      refine Paired.of_lockstep htrace hclean ?_
      rw [deliverAndDrain, deliverAndDrain]
      simp only [sessionReader]
      have hstay : ∀ {agree : Prop}, agree → Paired env h (deliverMessage env nonceAt w m).2
          (deliverMessage env nonceAt w m).2 (deliverMessage env nonceAt w' m).2 agree :=
        fun hagree => ⟨[], by simp, .inl ⟨by simp, hnext, hagree⟩⟩
      rcases hd : deliverMessage env nonceAt w m with ⟨_ | _, w₁⟩ <;>
        rcases hd' : deliverMessage env nonceAt w' m with ⟨_ | _, w₁'⟩ <;>
        rw [hd, hd'] at hok hnext hstay <;> dsimp only at hok hnext hstay ⊢
      · exact hstay ⟨rfl, rfl⟩
      · cases hok
      · cases hok
      · rcases hadv : s.advance with ⟨_ | next, s₁⟩
        · exact hstay ⟨rfl, rfl⟩
        · exact ih s₁.incoming.len (hlen ▸ Inbound.len_advance_lt hadv) s₁ hnext next rfl

lemma routeStreamData_paired (hreplies : RepliesSucceed env)
    (hstate : h.state = .awaitingComplete ∨ h.state = .completed) (s : Inbound) {w w' : ReaderRun}
    (hl : Lockstep h w w') (m : ClientMessage) :
    Paired env h w (routeStreamData (sessionReader env nonceAt) s w m).2.2
      (routeStreamData (sessionReader env nonceAt) s w' m).2.2
      ((routeStreamData (sessionReader env nonceAt) s w' m).1.isOk =
          (routeStreamData (sessionReader env nonceAt) s w m).1.isOk ∧
        (routeStreamData (sessionReader env nonceAt) s w' m).2.1 =
          (routeStreamData (sessionReader env nonceAt) s w m).2.1) := by
  have hstay : ∀ {agree : Prop}, agree → Paired env h w w w' agree :=
    fun hagree => ⟨[], by simp, .inl ⟨by simp, hl, hagree⟩⟩
  simp only [routeStreamData]
  rcases s.arrive m with ⟨_ | _ | _ | _, s₁⟩
  · exact hstay ⟨rfl, rfl⟩
  · exact hstay ⟨rfl, rfl⟩
  · exact hstay ⟨rfl, rfl⟩
  · exact deliverAndDrain_paired hreplies hstate s₁ hl m

/-- Ending both sessions keeps the lockstep, whatever the two error texts are. -/
lemma Lockstep.fail {w w' : ReaderRun} (hl : Lockstep h w w') (e e' : Error) :
    Lockstep h (w.fail e) (w'.fail e') :=
  ⟨hl.handshake, hl.handshake', hl.crypto, by simp [ReaderRun.fail], hl.calls, hl.nonces, hl.trace⟩

/-- **Two readers, one stream.** Past the handshake a reader that starts afresh and one that goes on
do the same with every message, as long as their replies are sent. -/
lemma receiveAll_paired (hreplies : RepliesSucceed env)
    (hstate : h.state = .awaitingComplete ∨ h.state = .completed) (s : Inbound) {w w' : ReaderRun}
    (hl : Lockstep h w w') (msgs : List ClientMessage) :
    Paired env h w (receiveAll env nonceAt s w msgs).2 (receiveAll env nonceAt s w' msgs).2
      True := by
  induction msgs generalizing s w w' with
  | nil => exact ⟨[], by simp [receiveAll], .inl ⟨by simp, hl, trivial⟩⟩
  | cons m rest ih =>
    simp only [receiveAll, hl.closed]
    split
    · exact ⟨[], by simp, .inl ⟨by simp, hl, trivial⟩⟩
    · obtain ⟨added, htrace, hcase⟩ : Paired env h w
          (routeStreamData (sessionReader env nonceAt) s w m).2.2
          (routeStreamData (sessionReader env nonceAt) s w' m).2.2 _ :=
        routeStreamData_paired hreplies hstate s hl m
      rcases hr : routeStreamData (sessionReader env nonceAt) s w m with ⟨r, s₁, w₁⟩
      rcases hr' : routeStreamData (sessionReader env nonceAt) s w' m with ⟨r', s₁', w₁'⟩
      rw [hr, hr'] at hcase
      rw [hr] at htrace
      rcases hcase with ⟨hclean, hlock, hok, hs⟩ | ⟨huses, hdiv⟩
      · refine Paired.of_lockstep htrace hclean ?_
        dsimp only at hs hok hlock
        subst hs
        rcases r with e | _ <;> rcases r' with e' | _
        · exact ⟨[], by simp [ReaderRun.fail], .inl ⟨by simp, hlock.fail e e', trivial⟩⟩
        · cases hok
        · cases hok
        · exact ih s₁' hlock
      · refine Paired.of_diverged htrace huses hdiv ?_ ?_
        · rcases r with e | _
          · exact List.prefix_refl _
          · exact receiveAll_prefix s₁ w₁ rest
        · rcases r' with e' | _
          · exact List.prefix_refl _
          · exact receiveAll_prefix s₁' w₁' rest

end

/-! ## A handler that has seen nothing -/

section

variable {env : Env} {nonceAt : ℕ → Nonce}

/-- The two readers differ only in the parts of the core that no delivery reads. -/
structure SameHandler (w w' : ReaderRun) : Prop where
  handshake : w'.view.handshake = w.view.handshake
  crypto : w'.view.crypto = w.view.crypto
  closed : w'.view.core.isClosed = w.view.core.isClosed
  calls : w'.calls = w.calls
  nonces : w'.nonces = w.nonces
  trace : w'.trace = w.trace

/-- What a delivery does depends on the handler and the cipher, not on the core. -/
lemma deliverFully_congr (env : Env) (nonce : Nonce) (calls : ℕ) {v v' : ReaderView}
    (hh : v'.handshake = v.handshake) (hc : v'.crypto = v.crypto)
    (hclosed : v'.core.isClosed = v.core.isClosed) (m : ClientMessage) :
    ∃ r handshake crypto core core' calls' output reply,
      deliverFully env nonce calls v m = (r, ⟨handshake, core, crypto⟩, calls', output, reply) ∧
      deliverFully env nonce calls v' m = (r, ⟨handshake, core', crypto⟩, calls', output, reply) ∧
      core'.isClosed = core.isClosed := by
  obtain ⟨hs, core, crypto⟩ := v
  obtain ⟨hs', core', crypto'⟩ := v'
  dsimp only at hh hc hclosed
  subst hh hc
  by_cases hrequest : m.payloadType = .handshakeRequest
  · simp only [deliverFully, deliver, hrequest]
    cases env.codec.request m.payload with
    | error e => exact ⟨_, _, _, _, _, _, _, _, rfl, rfl, hclosed⟩
    | ok request =>
      simp only [requestDone]
      rcases hs'.onRequest env.codec env.kms calls request with ⟨_ | _ | response, hs₁, calls₁⟩
      · exact ⟨_, _, _, _, _, _, _, _, rfl, rfl, hclosed⟩
      · exact ⟨_, _, _, _, _, _, _, _, rfl, rfl, hclosed⟩
      · dsimp only
        cases env.codec.response response with
        | error e => exact ⟨_, _, _, _, _, _, _, _, rfl, rfl, hclosed⟩
        | ok payload =>
          simp only [finish]
          by_cases hfailed : hs₁.state = .failed
          · simp only [if_pos hfailed, replySent]
            exact ⟨_, _, _, _, _, _, _, _, rfl, rfl, hclosed⟩
          · simp only [if_neg hfailed, replySent]
            exact ⟨_, _, _, _, _, _, _, _, rfl, rfl, by simpa using hclosed⟩
  by_cases hcomplete : m.payloadType = .handshakeComplete
  · simp only [deliverFully, deliver, hcomplete]
    cases env.codec.complete m.payload with
    | error e => exact ⟨_, _, _, _, _, _, _, _, rfl, rfl, hclosed⟩
    | ok complete =>
      dsimp only
      rcases hs'.onComplete complete with ⟨_ | banner, hs₁⟩
      · exact ⟨_, _, _, _, _, _, _, _, rfl, rfl, hclosed⟩
      · exact ⟨_, _, _, _, _, _, _, _, rfl, rfl, by simpa using hclosed⟩
  by_cases hchallenge : m.payloadType = .encChallengeRequest
  · simp only [deliverFully, deliver, hchallenge]
    cases env.codec.challenge m.payload with
    | error e => exact ⟨_, _, _, _, _, _, _, _, rfl, rfl, hclosed⟩
    | ok challenge =>
      dsimp only
      cases hs'.answerChallenge env.aead nonce challenge with
      | error e => exact ⟨_, _, _, _, _, _, _, _, rfl, rfl, hclosed⟩
      | ok response =>
        dsimp only
        cases env.codec.challengeResponse response with
        | error e => exact ⟨_, _, _, _, _, _, _, _, rfl, rfl, hclosed⟩
        | ok payload => exact ⟨_, _, _, _, _, _, _, _, rfl, rfl, hclosed⟩
  obtain ⟨result, output, terminated, hplain⟩ :=
    deliver_plain env crypto' m hrequest hcomplete hchallenge
  obtain ⟨core₁, hd, hclosed₁⟩ := hplain nonce ⟨hs', core, crypto'⟩ rfl
  obtain ⟨core₁', hd', hclosed₁'⟩ := hplain nonce ⟨hs', core', crypto'⟩ rfl
  refine ⟨result, hs', crypto', core₁, core₁', calls, output, none, ?_, ?_, ?_⟩
  · simp only [deliverFully, hd, finish]
  · simp only [deliverFully, hd', finish]
  · rw [hclosed₁, hclosed₁', hclosed]

lemma deliverMessage_same {w w' : ReaderRun} (hs : SameHandler w w') (m : ClientMessage) :
    (deliverMessage env nonceAt w' m).1 = (deliverMessage env nonceAt w m).1 ∧
      SameHandler (deliverMessage env nonceAt w m).2 (deliverMessage env nonceAt w' m).2 := by
  obtain ⟨r, hs₁, crypto, core, core', calls, output, reply, hd, hd', hclosed⟩ :=
    deliverFully_congr env (nonceAt w.nonces) w.calls hs.handshake hs.crypto hs.closed m
  rw [← hs.nonces, ← hs.calls] at hd'
  simp only [deliverMessage, hd, hd']
  exact ⟨trivial, rfl, rfl, hclosed, rfl, by rw [hs.nonces], by simp [hs.trace, hs.crypto]⟩

lemma deliverAndDrain_same (s : Inbound) {w w' : ReaderRun} (hs : SameHandler w w')
    (m : ClientMessage) :
    ∃ r s₁ w₁ w₁', deliverAndDrain (sessionReader env nonceAt) s w m = (r, s₁, w₁) ∧
      deliverAndDrain (sessionReader env nonceAt) s w' m = (r, s₁, w₁') ∧ SameHandler w₁ w₁' := by
  induction hlen : s.incoming.len using Nat.strong_induction_on generalizing s w w' m with
  | _ k ih =>
    obtain ⟨hresult, hnext⟩ : _ ∧ SameHandler (deliverMessage env nonceAt w m).2
      (deliverMessage env nonceAt w' m).2 := deliverMessage_same hs m
    rw [deliverAndDrain, deliverAndDrain]
    simp only [sessionReader]
    rcases hd : deliverMessage env nonceAt w m with ⟨r, w₁⟩
    rcases hd' : deliverMessage env nonceAt w' m with ⟨r', w₁'⟩
    rw [hd, hd'] at hresult hnext
    dsimp only at hresult hnext
    subst hresult
    rcases r' with e | _
    · exact ⟨_, _, _, _, rfl, rfl, hnext⟩
    · rcases hadv : s.advance with ⟨_ | next, s₁⟩
      · exact ⟨_, _, _, _, rfl, rfl, hnext⟩
      · exact ih s₁.incoming.len (hlen ▸ Inbound.len_advance_lt hadv) s₁ hnext next rfl

lemma routeStreamData_same (s : Inbound) {w w' : ReaderRun} (hs : SameHandler w w')
    (m : ClientMessage) :
    ∃ r s₁ w₁ w₁', routeStreamData (sessionReader env nonceAt) s w m = (r, s₁, w₁) ∧
      routeStreamData (sessionReader env nonceAt) s w' m = (r, s₁, w₁') ∧ SameHandler w₁ w₁' := by
  simp only [routeStreamData]
  rcases s.arrive m with ⟨_ | _ | _ | _, s₁⟩
  · exact ⟨_, _, _, _, rfl, rfl, hs⟩
  · exact ⟨_, _, _, _, rfl, rfl, hs⟩
  · exact ⟨_, _, _, _, rfl, rfl, hs⟩
  · exact deliverAndDrain_same s₁ hs m

/-- Readers with equal handlers see the same stream. -/
lemma receiveAll_same (s : Inbound) {w w' : ReaderRun} (hs : SameHandler w w')
    (msgs : List ClientMessage) :
    (receiveAll env nonceAt s w' msgs).2.trace = (receiveAll env nonceAt s w msgs).2.trace := by
  induction msgs generalizing s w w' with
  | nil => exact hs.trace
  | cons m rest ih =>
    obtain ⟨r, s₁, w₁, w₁', hr, hr', hnext⟩ :
        ∃ r s₁ w₁ w₁', routeStreamData (sessionReader env nonceAt) s w m = (r, s₁, w₁) ∧
          routeStreamData (sessionReader env nonceAt) s w' m = (r, s₁, w₁') ∧ SameHandler w₁ w₁' :=
      routeStreamData_same s hs m
    simp only [receiveAll, hs.closed, hr, hr']
    split
    · exact hs.trace
    · rcases r with e | _
      · exact hnext.trace
      · exact ih s₁ hnext

/-! ## The handler of an open session -/

/-- While the session is open, the handler has either seen nothing or answered a request. -/
def OpenHandler (h : HandshakeHandler) : Prop :=
  h = HandshakeHandler.new h.kms ∨ h.state = .awaitingComplete ∨ h.state = .completed

/-- A request that a new handler processes without failing leaves it waiting for the completion. -/
lemma requestDone_open {calls : ℕ} {v : ReaderView} {request : HandshakeRequest}
    (hstate : v.handshake.state = .awaitingRequest)
    (hok : (finish (requestDone env calls v request).2.1 (requestDone env calls v request).1).1 =
      .ok ()) :
    (finish (requestDone env calls v request).2.1
      (requestDone env calls v request).1).2.1.handshake.state = .awaitingComplete := by
  simp only [requestDone, HandshakeHandler.onRequest, hstate] at hok ⊢
  cases hresponse : env.codec.response _ with
  | error e =>
    rw [hresponse] at hok
    cases hok
  | ok payload =>
    rw [hresponse] at hok
    dsimp only [finish] at hok ⊢
    -- Either every action succeeded, or the delivery failed after its reply.
    split_ifs at hok ⊢ <;> first | rfl | contradiction

/-- A delivery that succeeds leaves the handler of an open session behind. -/
lemma deliverFully_open {nonce : Nonce} {calls : ℕ} {v : ReaderView} {m : ClientMessage}
    (hopen : OpenHandler v.handshake) (hok : (deliverFully env nonce calls v m).1 = .ok ()) :
    OpenHandler (deliverFully env nonce calls v m).2.1.handshake := by
  by_cases hrequest : m.payloadType = .handshakeRequest
  · simp only [deliverFully, deliver, hrequest] at hok ⊢
    cases hparse : env.codec.request m.payload with
    | error e => exact hopen
    | ok request =>
      rw [hparse] at hok
      rcases hopen with hnew | hanswered
      · exact .inr (.inl (requestDone_open (by rw [hnew]; rfl) hok))
      · simp only [requestDone_duplicate hanswered, finish]
        exact .inr hanswered
  by_cases hcomplete : m.payloadType = .handshakeComplete
  · simp only [deliverFully, deliver, hcomplete] at hok ⊢
    cases hparse : env.codec.complete m.payload with
    | error e => exact hopen
    | ok complete =>
      rw [hparse] at hok
      by_cases hawaiting : v.handshake.state = .awaitingComplete
      · simp only [HandshakeHandler.onComplete, if_neg (not_not_intro hawaiting), finish]
        exact .inr (.inr rfl)
      · simp only [onComplete_rejected hawaiting, finish] at hok
        cases hok
  by_cases hchallenge : m.payloadType = .encChallengeRequest
  · simp only [deliverFully, deliver, hchallenge]
    cases env.codec.challenge m.payload with
    | error e => exact hopen
    | ok challenge =>
      dsimp only
      cases v.handshake.answerChallenge env.aead nonce challenge with
      | error e => exact hopen
      | ok response =>
        dsimp only
        cases env.codec.challengeResponse response <;> exact hopen
  obtain ⟨result, output, terminated, hplain⟩ :=
    deliver_plain env v.crypto m hrequest hcomplete hchallenge
  obtain ⟨core, hd, -⟩ := hplain nonce v rfl
  simp only [deliverFully, hd, finish]
  exact hopen

lemma deliverAndDrain_open (s : Inbound) (w : ReaderRun) (m : ClientMessage)
    (hopen : OpenHandler w.view.handshake)
    (hok : (deliverAndDrain (sessionReader env nonceAt) s w m).1 = .ok ()) :
    OpenHandler (deliverAndDrain (sessionReader env nonceAt) s w m).2.2.view.handshake := by
  have hdeliver : ∀ {w m w'}, OpenHandler w.view.handshake →
      (sessionReader env nonceAt).deliver w m = (.ok (), w') →
      OpenHandler w'.view.handshake := by
    intro w m w' hopen hd
    have hw : (deliverMessage env nonceAt w m).2 = w' := congrArg Prod.snd hd
    rw [← hw]
    exact deliverFully_open hopen (congrArg Prod.fst hd)
  fun_induction deliverAndDrain (sessionReader env nonceAt) s w m with
  | case1 s w m e w' hd => cases hok
  | case2 s w m w' hd => exact hdeliver hopen hd
  | case3 s w m w' hd _ next s' ih => exact ih (hdeliver hopen hd) hok

/-- A run that did not end the session leaves the handler of an open session behind. -/
lemma receiveAll_open (s : Inbound) (w : ReaderRun) (msgs : List ClientMessage)
    (hopen : OpenHandler w.view.handshake)
    (hclosed : (receiveAll env nonceAt s w msgs).2.view.core.isClosed = false) :
    OpenHandler (receiveAll env nonceAt s w msgs).2.view.handshake := by
  induction msgs generalizing s w with
  | nil => exact hopen
  | cons m rest ih =>
    simp only [receiveAll] at hclosed ⊢
    split_ifs at hclosed ⊢ with hc
    · exact hopen
    · rcases hr : routeStreamData (sessionReader env nonceAt) s w m with ⟨_ | _, s₁, w₁⟩
      · rw [hr] at hclosed
        simp [ReaderRun.fail] at hclosed
      · rw [hr] at hclosed
        refine ih s₁ w₁ ?_ hclosed
        rw [routeStreamData] at hr
        rcases harr : s.arrive m with ⟨_ | _ | _ | _, s₂⟩ <;> rw [harr] at hr
        · cases hr
          exact hopen
        · cases hr
          exact hopen
        · cases hr
          exact hopen
        · have hdrain := deliverAndDrain_open s₂ w m hopen (congrArg Prod.fst hr)
          rwa [show deliverAndDrain (sessionReader env nonceAt) s₂ w m = _ from hr] at hdrain

end

/-! ## Transparency -/

/-- **When a resume is transparent.** For every stream of messages and every cut between two of
them at which the session is still open: what the messages after the cut do on the resumed channel
is what they do on the channel that was not replaced if and only if the handler had not seen a
request yet, or no message processed after the cut uses the handshake. -/
theorem resume_transparent_iff (env : Env) (hreplies : RepliesSucceed env) (nonceAt : ℕ → Nonce)
    (kms : KmsSupport) (capacity subscribers : ℕ) (e₀ : Int64) (before after : List ClientMessage)
    (s : Inbound) (w : ReaderRun)
    (hrun : receiveAll env nonceAt ⟨e₀, IncomingBuffer.new capacity⟩
      (ReaderRun.start kms subscribers) before = (s, w))
    (hopen : w.view.core.isClosed = false) :
    (receiveAll env nonceAt s (w.resume subscribers) after).2.trace =
        (receiveAll env nonceAt s w after).2.trace ↔
      w.view.handshake.state = .awaitingRequest ∨
        ∀ o ∈ (receiveAll env nonceAt s w after).2.trace.drop w.trace.length,
          ¬UsesHandshake env w.view.handshake o.message := by
  have hhandler : OpenHandler w.view.handshake := by
    have hend : _ → OpenHandler (receiveAll env nonceAt ⟨e₀, IncomingBuffer.new capacity⟩
        (ReaderRun.start kms subscribers) before).2.view.handshake :=
      receiveAll_open _ _ before (.inl rfl)
    rw [hrun] at hend
    exact hend hopen
  rcases hhandler with hnew | hanswered
  · have hstate : w.view.handshake.state = .awaitingRequest := by rw [hnew]; rfl
    have hsame : SameHandler w (w.resume subscribers) :=
      ⟨hnew.symm, rfl, hopen.symm ▸ rfl, rfl, rfl, rfl⟩
    exact iff_of_true (receiveAll_same s hsame after) (.inl hstate)
  · have hl : Lockstep w.view.handshake w (w.resume subscribers) :=
      ⟨rfl, rfl, rfl, hopen.symm ▸ rfl, rfl, rfl, rfl⟩
    obtain ⟨added, htrace, hcase⟩ : Paired env _ w (receiveAll env nonceAt s w after).2 _ True :=
      receiveAll_paired hreplies hanswered s hl after
    have hstate : w.view.handshake.state ≠ .awaitingRequest := by
      rcases hanswered with hs | hs <;> rw [hs] <;> exact nofun
    rw [htrace, List.drop_left]
    rcases hcase with ⟨hclean, hlock, -⟩ | ⟨⟨o, ho, huses⟩, hdiv⟩
    · exact iff_of_true (by rw [← htrace]; exact hlock.trace) (.inr hclean)
    · refine iff_of_false (by rw [← htrace]; exact hdiv.trace_ne) ?_
      rintro (hs | hclean)
      · exact hstate hs
      · exact hclean o ho huses

lemma sampleEnv_repliesSucceed : RepliesSucceed sampleEnv :=
  ⟨fun _ => ⟨_, rfl⟩, fun c => ⟨c, rfl⟩, fun _ _ _ => ⟨_, rfl⟩⟩

/-- Twelve zero bytes. -/
def zeroNonce : Nonce := toArray _ []

/-- A reader of a session that goes well. -/
def sampleReader (w : ReaderRun) (ms : List ClientMessage) : ReaderRun :=
  ms.foldl (fun w m => (deliverMessage sampleEnv (fun _ => zeroNonce) w m).2) w

/-- The messages come one by one, with the numbers that are expected. -/
lemma receiveAll_cons (n n' : Int64) {w : ReaderRun} {m : ClientMessage} {rest : List ClientMessage}
    (hopen : w.view.core.isClosed = false) (hn : m.sequenceNumber = n) (hn' : n + 1 = n')
    (hok : (deliverMessage sampleEnv (fun _ => zeroNonce) w m).1 = .ok ()) :
    receiveAll sampleEnv (fun _ => zeroNonce) ⟨n, IncomingBuffer.new 4⟩ w (m :: rest) =
      receiveAll sampleEnv (fun _ => zeroNonce) ⟨n', IncomingBuffer.new 4⟩
        (deliverMessage sampleEnv (fun _ => zeroNonce) w m).2 rest := by
  subst hn hn'
  have harrive : Inbound.arrive ⟨m.sequenceNumber, IncomingBuffer.new 4⟩ m =
      (.inOrder, ⟨m.sequenceNumber, IncomingBuffer.new 4⟩) := by
    simp [Inbound.arrive]
  have hadvance : Inbound.advance ⟨m.sequenceNumber, IncomingBuffer.new 4⟩ =
      (none, ⟨m.sequenceNumber + 1, IncomingBuffer.new 4⟩) := rfl
  have hdeliver : (sessionReader sampleEnv fun _ => zeroNonce).deliver
      ((sessionReader sampleEnv fun _ => zeroNonce).acknowledge w m true) m =
      (.ok (), (deliverMessage sampleEnv (fun _ => zeroNonce) w m).2) := by
    rw [← hok]
    rfl
  rw [receiveAll, hopen, routeStreamData_alone _ _ harrive hadvance, hdeliver]
  rfl

/-- The channel is replaced after the agent's request was answered and a first chunk of output was
emitted.  The new handler has seen no request, but the output after the cut does not use it, and
both readers go on with the same two chunks. -/
theorem resume_transparent_output :
    ∃ s w, receiveAll sampleEnv (fun _ => zeroNonce) ⟨0, IncomingBuffer.new 4⟩
        (ReaderRun.start .noClient 8) [agentMessage 0 .handshakeRequest plainRequestJson,
          agentMessage 1 .output [97]] = (s, w) ∧
      w.view.handshake.state = .awaitingComplete ∧
      ((receiveAll sampleEnv (fun _ => zeroNonce) s w
        [agentMessage 2 .output [98], agentMessage 3 .output [99]]).2.trace.filterMap
          Observation.output).map Prod.fst = [[97], [98], [99]] ∧
      (receiveAll sampleEnv (fun _ => zeroNonce) s (w.resume 8)
          [agentMessage 2 .output [98], agentMessage 3 .output [99]]).2.trace =
        (receiveAll sampleEnv (fun _ => zeroNonce) s w
          [agentMessage 2 .output [98], agentMessage 3 .output [99]]).2.trace := by
  have hbefore : receiveAll sampleEnv (fun _ => zeroNonce) ⟨0, IncomingBuffer.new 4⟩
      (ReaderRun.start .noClient 8) [agentMessage 0 .handshakeRequest plainRequestJson,
        agentMessage 1 .output [97]] = (⟨2, IncomingBuffer.new 4⟩, sampleReader
          (ReaderRun.start .noClient 8) [agentMessage 0 .handshakeRequest plainRequestJson,
            agentMessage 1 .output [97]]) := by
    rw [receiveAll_cons 0 1 rfl rfl rfl rfl,
      receiveAll_cons 1 2 rfl rfl rfl rfl]
    rfl
  have hafter : receiveAll sampleEnv (fun _ => zeroNonce) ⟨2, IncomingBuffer.new 4⟩
      (sampleReader (ReaderRun.start .noClient 8)
        [agentMessage 0 .handshakeRequest plainRequestJson, agentMessage 1 .output [97]])
      [agentMessage 2 .output [98], agentMessage 3 .output [99]] =
      (⟨4, IncomingBuffer.new 4⟩, sampleReader (ReaderRun.start .noClient 8)
        [agentMessage 0 .handshakeRequest plainRequestJson, agentMessage 1 .output [97],
          agentMessage 2 .output [98], agentMessage 3 .output [99]]) := by
    rw [receiveAll_cons 2 3 rfl rfl rfl rfl,
      receiveAll_cons 3 4 rfl rfl rfl rfl]
    rfl
  refine ⟨_, _, hbefore, by decide, by rw [hafter]; decide, ?_⟩
  refine (resume_transparent_iff sampleEnv sampleEnv_repliesSucceed (fun _ => zeroNonce) .noClient 4
    8 0 _ _ _ _ hbefore (by decide)).mpr (.inr ?_)
  rw [hafter]
  have hdropped : ((sampleReader (ReaderRun.start .noClient 8)
      [agentMessage 0 .handshakeRequest plainRequestJson, agentMessage 1 .output [97],
        agentMessage 2 .output [98], agentMessage 3 .output [99]]).trace.drop
      (sampleReader (ReaderRun.start .noClient 8)
        [agentMessage 0 .handshakeRequest plainRequestJson,
          agentMessage 1 .output [97]]).trace.length).map (·.message.payloadType) =
        [.output, .output] := by decide
  intro o ho huses
  have hmem := List.mem_map_of_mem (f := (·.message.payloadType)) ho
  rw [hdropped] at hmem
  have htype : o.message.payloadType = .output := by simpa using hmem
  simp [UsesHandshake, htype] at huses

/-- The channel is replaced between the handshake request and its completion: the completion that
was accepted on the old channel ends the session on the new one. -/
theorem resume_breaks_handshake :
    ¬∀ (before after : List ClientMessage) (s : Inbound) (w : ReaderRun),
      receiveAll sampleEnv (fun _ => zeroNonce) ⟨0, IncomingBuffer.new 4⟩
          (ReaderRun.start .noClient 8) before = (s, w) →
        w.view.core.isClosed = false →
        (receiveAll sampleEnv (fun _ => zeroNonce) s (w.resume 8) after).2.trace =
          (receiveAll sampleEnv (fun _ => zeroNonce) s w after).2.trace := by
  intro hclaim
  have hbefore : receiveAll sampleEnv (fun _ => zeroNonce) ⟨0, IncomingBuffer.new 4⟩
      (ReaderRun.start .noClient 8) [agentMessage 0 .handshakeRequest plainRequestJson] =
      (⟨1, IncomingBuffer.new 4⟩, (deliverMessage sampleEnv (fun _ => zeroNonce)
        (ReaderRun.start .noClient 8) (agentMessage 0 .handshakeRequest plainRequestJson)).2) := by
    simp only [receiveAll, routeStreamData_alone _ _ (rfl : Inbound.arrive ⟨0, IncomingBuffer.new 4⟩
      (agentMessage 0 .handshakeRequest plainRequestJson) = _) rfl]
    rfl
  have hsame := hclaim _ [agentMessage 1 .handshakeComplete completeJson] _ _ hbefore rfl
  simp only [receiveAll, routeStreamData_alone _ _ (rfl : Inbound.arrive ⟨1, IncomingBuffer.new 4⟩
    (agentMessage 1 .handshakeComplete completeJson) = _) rfl] at hsame
  exact absurd hsame (by decide)

end SsmBridge
