import SsmBridge.Construction.Reconnect
import SsmBridge.Properties.InboundPath
import SsmBridge.Properties.NoPlaintext
import SsmBridge.Properties.Pause

/-!
# The authenticity of output

Once a session has a cipher, what its subscribers see should have been decrypted with it.  Which
payloads are decrypted is decided by `PayloadType.isEncryptedInbound`, and which are emitted by the
branches of `deliver`; the two lists differ in `undefined`, whose payload is emitted as it comes
(`undefined_output_not_authentic`).

In a run that delivers no such payload, the cipher stays the one that was installed, on every
channel that resumes the session, and every payload emitted is what it decrypts the message to.  A
message that it does not decrypt ends the session: the reader has nothing left to do but to close
it.
-/

namespace SsmBridge

open Machine

namespace System

/-- The step delivers a payload of the undefined type. -/
def deliversUndefined (s : System) : Label → Bool
  | .act c (.readerDeliver _) =>
      (s.delivery c).any (fun m => decide (m.payloadType = .undefined ∧ m.payload ≠ []))
  | _ => false

/-- The channel was closed. -/
def closedOn (s : System) (c : ℕ) : Bool := s.channels[c]?.any (fun ch => ch.core.isClosed)

/-- What one channel emitted, in order. -/
def outputsOn (s : System) (c : ℕ) : List (Int64 × Bytes) :=
  (s.eventsOn c).filterMap Event.output

end System

/-- No payload of the undefined type is delivered. -/
def NoUndefined (s : System) (l : Label) (_ : System) : Prop := s.deliversUndefined l = false

/-- The session is over on channel `c`: it emits nothing any more, and is closed or is closed by the
next step of its reader. -/
def Ends (env : Env) (s : System) (c : ℕ) : Prop :=
  ∀ s', Reachable (System.step env) free s s' → s'.outputsOn c = s.outputsOn c ∧
    (s'.closedOn c = true ∨
      ∃ s'', System.step env s' (.act c .readerClose) = some s'' ∧ s''.closedOn c = true)

/-- A step of a session with a cipher. -/
structure AuthenticStep (env : Env) (cipher : SessionCrypto) (s : System) (l : Label)
    (s' : System) : Prop where
  installed : s'.cont.crypto = some cipher
  /-- What is emitted was decrypted. -/
  emitted : ∀ c n payload, (c, Event.emitted n payload) ∈ s'.log.drop s.log.length →
    ∃ m, s.delivery c = some m ∧ m.sequenceNumber = n ∧
      cipher.decrypt env.aead m.payload = .ok payload
  /-- What cannot be decrypted ends the session. -/
  refused : ∀ c nonce m e, l = .act c (.readerDeliver nonce) → s.delivery c = some m →
    m.payloadType.isEncryptedInbound = true → m.payload ≠ [] →
    cipher.decrypt env.aead m.payload = .error e → s'.log = s.log ∧ Ends env s' c

section

variable {env : Env} {c : ℕ} {k : Continuity} {ch : Channel} {o : Outcome} {a : Action}
  {cipher : SessionCrypto}

/-! ## Deliveries -/

/-- What a delivery emits is what decryption makes of the payload. -/
lemma deliver_output {nonce : Nonce} {v : ReaderView} {m : ClientMessage} {payload : Bytes}
    (h : (deliver env nonce v m).2.2 = some payload) :
    m.payload ≠ [] ∧ decryptIfNeeded env v.crypto m = .ok payload ∧
      (m.payloadType = .undefined ∨ m.payloadType.isEncryptedInbound = true) := by
  cases hm : m.payloadType <;> simp only [deliver, hm] at h
  case output | stdErr | undefined =>
    by_cases hempty : m.payload = []
    · rw [if_pos hempty] at h
      cases h
    · rw [if_neg hempty] at h
      cases hd : decryptIfNeeded env v.crypto m with
      | error e =>
        rw [hd] at h
        cases h
      | ok p =>
        rw [hd] at h
        cases h
        exact ⟨hempty, rfl, by simp [PayloadType.isEncryptedInbound]⟩
  case handshakeRequest => split at h <;> cases h
  case handshakeComplete =>
    split at h
    · cases h
    · split at h <;> cases h
  case encChallengeRequest =>
    split at h
    · cases h
    · split at h
      · cases h
      · split at h <;> cases h
  case exitCode => split at h <;> cases h
  case flag => split at h <;> cases h
  all_goals cases h

/-- A payload that cannot be decrypted makes the delivery fail, with nothing emitted. -/
lemma deliver_refused (nonce : Nonce) {v : ReaderView} {m : ClientMessage} {e : Error}
    (htype : m.payloadType.isEncryptedInbound = true) (hpayload : m.payload ≠ [])
    (hd : decryptIfNeeded env v.crypto m = .error e) :
    ∃ v', deliver env nonce v m = (.progress (.finished (.error e)), v', none) := by
  cases hm : m.payloadType <;> rw [hm] at htype <;> simp only [PayloadType.isEncryptedInbound,
    Bool.false_eq_true] at htype
  case output | stdErr =>
    refine ⟨{ v with core := v.core.setSendable true }, ?_⟩
    simp only [deliver, hm, if_neg hpayload, hd]
  case exitCode =>
    refine ⟨v, ?_⟩
    simp only [deliver, hm, hd]

lemma decryptIfNeeded_of_type {m : ClientMessage}
    (htype : m.payloadType.isEncryptedInbound = true) :
    decryptIfNeeded env (some cipher) m = cipher.decrypt env.aead m.payload := by
  simp [decryptIfNeeded, htype]

/-- What the other tasks leave alone. -/
lemma perform_reader_eq (h : perform env c k ch a = some o) (ha : a.task ≠ .reader) :
    o.channel.reader = ch.reader := by
  cases ht : a.task with
  | send who => exact (send_cases ht h).frame.reader
  | writer =>
    cases writer_cases ht h
    rfl
  | heartbeat =>
    cases heartbeat_cases ht h
    rfl
  | retransmit =>
    cases retransmit_cases ht h
    rfl
  | command => exact (command_cases ht h).frame.reader
  | reader => exact absurd ht ha
  | handle =>
    cases handle_cases ht h with
    | accepted command hcommand halive => rfl
    | ended hb =>
      cases hb
      rfl

/-- At a delivery the reader has one step to take. -/
lemma action_of_delivering {m : ClientMessage} (h : perform env c k ch a = some o)
    (ha : a.task = .reader) (hpc : ch.reader = .delivering m) :
    ∃ nonce, a = .readerDeliver nonce := by
  cases a <;> simp only [Action.task, reduceCtorEq] at ha <;> simp only [perform] at h
  case readerDeliver nonce => exact ⟨nonce, rfl⟩
  case readerAbort =>
    cases hab : ch.aborted <;> simp [readerAbort, hpc, hab] at h
  all_goals
    simp [readerPoll, readerFrame, readerRoute, readerStore, readerAck, readerNegotiated,
      readerReplied, readerAdvance, readerTake, readerClose, hpc] at h

/-- A reader that was refused a delivery closes the session next. -/
lemma action_of_failing {reason : CloseReason} {m : Option ClientMessage}
    (h : perform env c k ch a = some o) (ha : a.task = .reader)
    (hpc : ch.reader = .failing reason m) : a = .readerClose := by
  cases a <;> simp only [Action.task, reduceCtorEq] at ha <;> simp only [perform] at h
  case readerClose => rfl
  case readerAbort =>
    cases hab : ch.aborted <;> simp [readerAbort, hpc, hab] at h
  all_goals
    simp [readerPoll, readerFrame, readerRoute, readerStore, readerAck, readerNegotiated,
      readerReplied, readerAdvance, readerTake, readerDeliver, hpc] at h

/-- Only a delivery emits, and it emits what decryption makes of the payload. -/
lemma perform_emitted (h : perform env c k ch a = some o) {n : Int64} {payload : Bytes}
    (hemitted : Event.emitted n payload ∈ o.events) :
    ∃ nonce m, a = .readerDeliver nonce ∧ ch.reader = .delivering m ∧ m.sequenceNumber = n ∧
      m.payload ≠ [] ∧ decryptIfNeeded env k.crypto m = .ok payload ∧
      (m.payloadType = .undefined ∨ m.payloadType.isEncryptedInbound = true) := by
  cases perform_output h with
  | quiet hcore hevents => exact absurd hemitted (hevents n payload)
  | emitted m payload' hfrom hto hfanout hreason hevents =>
    have ha : a.task = .reader := by
      by_contra hne
      rw [perform_reader_eq h hne, hfrom] at hto
      cases hto
    obtain ⟨nonce, rfl⟩ := action_of_delivering h ha hfrom
    rw [hevents, List.mem_singleton] at hemitted
    cases hemitted
    obtain ⟨m', delivery, v, output, hpc, hd, ⟨p, -, rfl⟩ | ⟨request, events, -, hev, rfl⟩⟩ :=
      readerDeliver_cases h
    · obtain rfl : m = m' := ReaderPc.delivering.inj (hfrom.symm.trans hpc)
      have houtput : output = some payload := by
        cases output with
        | none => cases hevents
        | some q => simpa using hevents
      have hdelivered : (deliver env nonce (readerView k ch) m).2.2 = some payload := by
        rw [hd]
        exact houtput
      exact ⟨nonce, m, rfl, hfrom, rfl, deliver_output hdelivered⟩
    · obtain rfl | ⟨rfl, -⟩ := hev <;> cases hevents

end

/-! ## A session that ends -/

section

variable {env : Env} {c : ℕ} {s : System} {ch : Channel} {o : Outcome} {a : Action}

/-- The reader of a channel was refused a delivery, and closes the session or has done so. -/
def Channel.Ending (ch : Channel) : Prop :=
  (∃ reason m, ch.reader = .failing reason m) ∨ (ch.reader = .ended ∧ ch.core.isClosed = true)

lemma SessionCore.isClosed_iff (core : SessionCore) :
    core.isClosed = true ↔ ∃ r, core.closeReason = some r := by
  rw [SessionCore.isClosed, Option.isSome_iff_exists]

/-- At the end of its task the reader takes no step. -/
lemma not_reader_of_ended {k : Continuity} (h : perform env c k ch a = some o)
    (hpc : ch.reader = .ended) : a.task ≠ .reader := by
  intro ha
  cases a <;> simp only [Action.task, reduceCtorEq] at ha <;> simp only [perform] at h
  case readerAbort =>
    cases hab : ch.aborted <;> simp [readerAbort, hpc, hab] at h
  all_goals
    simp [readerPoll, readerFrame, readerRoute, readerStore, readerAck, readerNegotiated,
      readerReplied, readerAdvance, readerTake, readerDeliver, readerClose, hpc] at h

/-- Such a channel stays as it is, or is closed, and emits nothing. -/
lemma Channel.Ending.step {k : Continuity} (h : ch.Ending) (ho : perform env c k ch a = some o) :
    o.channel.Ending ∧ o.events.filterMap Event.output = [] := by
  refine ⟨?_, ?_⟩
  · obtain ⟨reason, m, hpc⟩ | ⟨hpc, hclosed⟩ := h
    · by_cases ha : a.task = .reader
      · obtain rfl := action_of_failing ho ha hpc
        simp only [perform, readerClose, hpc] at ho
        cases ho
        exact .inr ⟨rfl, SessionCore.isClosed_of_close _ _⟩
      · exact .inl ⟨reason, m, (perform_reader_eq ho ha).trans hpc⟩
    · obtain ⟨r, hr⟩ := ch.core.isClosed_iff.mp hclosed
      refine .inr ⟨(perform_reader_eq ho (not_reader_of_ended ho hpc)).trans hpc, ?_⟩
      exact o.channel.core.isClosed_iff.mpr ⟨r, (perform_cases ho).closeReason hr⟩
  · refine List.filterMap_eq_nil_iff.mpr (fun e he => ?_)
    cases e with
    | emitted n payload =>
      obtain ⟨nonce, m, -, hpc, -⟩ := perform_emitted ho he
      obtain ⟨reason, m', hpc'⟩ | ⟨hpc', -⟩ := h
      · rw [hpc] at hpc'
        cases hpc'
      · rw [hpc] at hpc'
        cases hpc'
    | _ => rfl

lemma Channel.Ending.ends (hch : s.channels[c]? = some ch) (h : ch.Ending) : Ends env s c := by
  intro s' hs'
  have hinv : s'.outputsOn c = s.outputsOn c ∧ ∃ ch', s'.channels[c]? = some ch' ∧ ch'.Ending := by
    refine Reachable.invariant (P := fun s' => s'.outputsOn c = s.outputsOn c ∧
      ∃ ch', s'.channels[c]? = some ch' ∧ ch'.Ending) ⟨rfl, ch, hch, h⟩ ?_ hs'
    rintro t l t' ⟨houtputs, ch', hch', hending⟩ hstep -
    obtain ⟨c', a, chₐ, o, rfl, hchₐ, ho, rfl⟩ | ⟨config', -, -, rfl⟩ := System.step_cases hstep
    · by_cases hcc : c = c'
      · subst hcc
        obtain rfl : chₐ = ch' := Option.some_inj.mp (hchₐ.symm.trans hch')
        obtain ⟨hending', hnothing⟩ := hending.step ho
        refine ⟨?_, o.channel, System.channel_after_self hchₐ, hending'⟩
        rw [System.outputsOn, System.eventsOn_after_self, List.filterMap_append, hnothing,
          List.append_nil]
        exact houtputs
      · refine ⟨?_, ch', ?_, hending⟩
        · rw [System.outputsOn, System.eventsOn_after_of_ne hcc]
          exact houtputs
        · rw [System.channel_after_of_ne hcc, hch']
    · exact ⟨houtputs, ch', System.channel_resumed_of hch', hending⟩
  obtain ⟨houtputs, ch', hch', ⟨reason, m, hpc⟩ | ⟨-, hclosed⟩⟩ := hinv
  · refine ⟨houtputs, .inr ?_⟩
    have hperform : perform env c s'.cont ch' .readerClose =
        some ⟨s'.cont, { ch'.close reason with reader := .ended }, []⟩ := by
      simp only [perform, readerClose, hpc]
    refine ⟨s'.after c ⟨s'.cont, { ch'.close reason with reader := .ended }, []⟩, ?_, ?_⟩
    · simp only [System.step, hch', hperform]
      rfl
    · simp only [System.closedOn, System.channel_after_self hch', Option.any_some]
      exact SessionCore.isClosed_of_close _ _
  · refine ⟨houtputs, .inl ?_⟩
    simp only [System.closedOn, hch', Option.any_some, hclosed]

end

/-! ## Runs -/

section

variable {env : Env} {cipher : SessionCrypto} {s s' : System} {l : Label}

/-- A step of a session with a cipher that delivers no undefined payload. -/
lemma authenticStep_of_step (hcipher : s.cont.crypto = some cipher)
    (hstep : System.step env s l = some s') (hguard : NoUndefined s l s') :
    AuthenticStep env cipher s l s' := by
  obtain ⟨c, a, ch, o, rfl, hch, ho, rfl⟩ | ⟨config', rfl, -, rfl⟩ := System.step_cases hstep
  · have hdelivery : s.delivery c = ch.reader.delivery := by simp [System.delivery, hch]
    refine ⟨(perform_cases ho).crypto_eq hcipher, ?_, ?_⟩
    · intro c' n payload hmem
      have hnew : (s.after c o).log.drop s.log.length = o.events.map (fun e => (c, e)) := by
        simp [System.after]
      rw [hnew, List.mem_map] at hmem
      obtain ⟨e, he, heq⟩ := hmem
      cases heq
      obtain ⟨nonce, m, rfl, hpc, hn, hpayload, hdecrypt, htype⟩ := perform_emitted ho he
      have hm : s.delivery c = some m := by simp [hdelivery, hpc, ReaderPc.delivery]
      refine ⟨m, hm, hn, ?_⟩
      have hencrypted : m.payloadType.isEncryptedInbound = true := by
        obtain hundefined | hencrypted := htype
        · simp [NoUndefined, System.deliversUndefined, hm, hundefined, hpayload] at hguard
        · exact hencrypted
      rw [hcipher, decryptIfNeeded_of_type hencrypted] at hdecrypt
      exact hdecrypt
    · intro c' nonce m e hl hm htype hpayload hdecrypt
      cases hl
      rw [hdelivery] at hm
      have hpc : ch.reader = .delivering m := by
        cases hr : ch.reader <;> simp [hr, ReaderPc.delivery] at hm
        rw [hm]
      obtain ⟨m', delivery, v, output, hpc', hd, hcase⟩ := readerDeliver_cases ho
      obtain rfl : m = m' := ReaderPc.delivering.inj (hpc.symm.trans hpc')
      have hneeded : decryptIfNeeded env (readerView s.cont ch).crypto m = .error e := by
        show decryptIfNeeded env s.cont.crypto m = .error e
        rw [hcipher, decryptIfNeeded_of_type htype, hdecrypt]
      obtain ⟨v', hrefused⟩ := deliver_refused nonce htype hpayload hneeded
      rw [hd] at hrefused
      cases hrefused
      obtain ⟨p, hp, rfl⟩ | ⟨request, events, hp, -⟩ := hcase
      · cases hp
        refine ⟨by simp [System.after], ?_⟩
        apply Channel.Ending.ends (System.channel_after_self hch)
        refine .inl ⟨.protocol e.display, some m, ?_⟩
        rw [progress_eq]
        rfl
      · cases hp
  · refine ⟨hcipher, ?_, ?_⟩
    · intro c n payload hmem
      simp [System.resumed] at hmem
    · intro c nonce m e hl
      cases hl

end

/-- **Output is authentic where none is of the undefined type.**  Once a cipher is installed, in
every run that delivers no payload of the undefined type, on every channel, the cipher stays and
every step emits only what it decrypted, and ends the session if it cannot decrypt. -/
theorem output_authentic {env : Env} {s s₁ s₂ : System} {cipher : SessionCrypto} {l : Label}
    (hcipher : s.cont.crypto = some cipher)
    (hrun : Reachable (System.step env) NoUndefined s s₁) (hstep : System.step env s₁ l = some s₂)
    (hguard : NoUndefined s₁ l s₂) : AuthenticStep env cipher s₁ l s₂ := by
  have hkept : s₁.cont.crypto = some cipher := by
    refine Reachable.invariant (P := fun s => s.cont.crypto = some cipher) hcipher ?_ hrun
    intro t l t' ih ht hg
    exact (authenticStep_of_step ih ht hg).installed
  exact authenticStep_of_step hkept hstep hguard

/-- The handshake installs a cipher, and a message of the agent is about to be delivered. -/
def ciphered (m : ClientMessage) : List Label :=
  onChannel 0 (receivingData (agentMessage 0 .handshakeRequest kmsRequestJson) ++ answering ++
    receivingData m)

/-- The message `hi`, under the cipher of `sampleEnv`. -/
def sealedMessage : ClientMessage :=
  agentMessage 1 .output (List.replicate nonceLen 0 ++ [104, 105] ++ List.replicate tagLen 0)

theorem output_authentic_sealed :
    ∃ s s' cipher, Session sampleEnv sampleConfig s ∧ s.cont.crypto = some cipher ∧
      System.step sampleEnv s (.act 0 (.readerDeliver (toArray _ []))) = some s' ∧
      s'.outputsOn 0 = [(1, [104, 105])] ∧
      AuthenticStep sampleEnv cipher s (.act 0 (.readerDeliver (toArray _ []))) s' := by
  have hrun : (run (System.step sampleEnv) (System.start sampleConfig)
      (ciphered sealedMessage)).any (fun s => s.cont.crypto.isSome &&
        !s.deliversUndefined (.act 0 (.readerDeliver (toArray _ []))) &&
        (System.step sampleEnv s (.act 0 (.readerDeliver (toArray _ [])))).any
          (fun s' => decide (s'.outputsOn 0 = [(1, [104, 105])]))) = true := by
    decide +kernel
  obtain ⟨s, hs, hp⟩ := exists_of_run hrun
  rw [Bool.and_eq_true, Bool.and_eq_true] at hp
  obtain ⟨⟨hsome, hguard⟩, hp⟩ := hp
  obtain ⟨cipher, hcipher⟩ := Option.isSome_iff_exists.mp hsome
  obtain ⟨s', hstep, hout⟩ := (Option.any_eq_true _ _).mp hp
  exact ⟨s, s', cipher, hs, hcipher, hstep, of_decide_eq_true hout,
    output_authentic hcipher .refl hstep (by simpa [NoUndefined] using hguard)⟩

/-- **Output of the undefined type is not decrypted.**  The session has a cipher, and a byte that
does not decrypt under it is emitted all the same. -/
theorem undefined_output_not_authentic :
    ∃ s s' cipher m, Session sampleEnv sampleConfig s ∧ s.cont.crypto = some cipher ∧
      System.step sampleEnv s (.act 0 (.readerDeliver (toArray _ []))) = some s' ∧
      s.delivery 0 = some m ∧ m.payload = [120] ∧ s'.outputsOn 0 = [(1, [120])] ∧
      (∀ payload, cipher.decrypt sampleEnv.aead m.payload ≠ .ok payload) ∧
      s'.closedOn 0 = false := by
  have hrun : (run (System.step sampleEnv) (System.start sampleConfig)
      (ciphered (agentMessage 1 .undefined [120]))).any (fun s => s.cont.crypto.isSome &&
        decide (s.delivery 0 = some (agentMessage 1 .undefined [120])) &&
        (System.step sampleEnv s (.act 0 (.readerDeliver (toArray _ [])))).any
          (fun s' => decide (s'.outputsOn 0 = [(1, [120])] ∧ s'.closedOn 0 = false))) = true := by
    decide +kernel
  obtain ⟨s, hs, hp⟩ := exists_of_run hrun
  rw [Bool.and_eq_true, Bool.and_eq_true] at hp
  obtain ⟨⟨hsome, hm⟩, hp⟩ := hp
  obtain ⟨cipher, hcipher⟩ := Option.isSome_iff_exists.mp hsome
  obtain ⟨s', hstep, hout⟩ := (Option.any_eq_true _ _).mp hp
  obtain ⟨houtputs, hopen⟩ := of_decide_eq_true hout
  refine ⟨s, s', cipher, _, hs, hcipher, hstep, of_decide_eq_true hm, rfl, houtputs, ?_, hopen⟩
  intro payload hdecrypt
  cases hdecrypt

end SsmBridge
