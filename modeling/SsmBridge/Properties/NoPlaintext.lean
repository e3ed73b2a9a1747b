import SsmBridge.Properties.WireContents

/-!
# Stream output on a session that mandates encryption

A handshake request may ask for session encryption.  From then on nothing the caller sends should
reach the wire in the clear, and nothing sent before should have.  The code keeps data back until
the send gate opens, and encrypts it when a cipher is installed at the moment `send_payload` starts.
But the gate is opened by a `start_publication`, by output or by a completed handshake alike, and
the first two can come before the request: `plaintext_before_handshake` is such a run.

What does hold is `no_plaintext_behind_gate`: if the cipher is installed whenever caller data passes
the gate, then every message of stream output is encrypted.
-/

namespace SsmBridge

open Machine

/-! ## Encrypted messages -/

/-- The payload is the encryption of the caller's bytes. -/
def Outgoing.Encrypted (env : Env) (out : Outgoing) : Prop :=
  ∃ cipher nonce, out.cipher = some cipher ∧ cipher.encrypt env.aead nonce out.plain = .ok out.payload

/-- An issued message that carries its caller's bytes encrypted. -/
def Issued.Encrypted (env : Env) (i : Issued) : Prop := i.out.Encrypted env ∧ i.out.IsWire env i.wire

/-- A handshake request with a `KMSEncryption` action was processed. -/
def Event.asksForEncryption : Event → Bool
  | .negotiated request =>
      request.requestedClientActions.any (fun a => decide (a.actionType = .kmsEncryption))
  | _ => false

/-- Caller data passed the gate, if at all, with a cipher installed. -/
def Event.underCipher : Event → Bool
  | .admitted (.data bytes) cipher => bytes.isEmpty || cipher.isSome
  | _ => true

/-- The client processed a request for encryption at some point of the run. -/
def System.MandatesEncryption (s : System) : Prop := ∃ e ∈ s.events, e.asksForEncryption = true

/-- Whenever caller data passed the gate, the cipher was installed. -/
def CipherAtGate (events : List Event) : Prop := ∀ e ∈ events, e.underCipher = true

instance (s : System) : Decidable s.MandatesEncryption :=
  inferInstanceAs (Decidable (∃ e ∈ s.events, e.asksForEncryption = true))

instance (events : List Event) : Decidable (CipherAtGate events) :=
  inferInstanceAs (Decidable (∀ e ∈ events, e.underCipher = true))

/-! ## The invariant -/

/-- What a call may hold when no plaintext is on its way. -/
def SendPc.Encrypting (crypto : Option SessionCrypto) : SendPc → Prop
  | .called payloadType _ => payloadType = .output → crypto.isSome = true
  | .locking out | .tracking out _ | .waiting out _ _ =>
      out.payloadType = .output → out.cipher.isSome = true
  | _ => True

/-- No plaintext is on its way in a channel. -/
structure Channel.Encrypting (crypto : Option SessionCrypto) (ch : Channel) : Prop where
  slot : ∀ who, (ch.slot who).Encrypting crypto
  streaming : ∀ rest, ch.command = .streaming rest → crypto.isSome = true

section

variable {env : Env} {c : ℕ} {k : Continuity} {ch : Channel} {o : Outcome}
  {crypto crypto' : Option SessionCrypto}

lemma SendPc.Encrypting.mono {pc : SendPc} (hcrypto : crypto.isSome = true → crypto'.isSome = true)
    (h : pc.Encrypting crypto) : pc.Encrypting crypto' := by
  cases pc with
  | called payloadType plain => exact fun htype => hcrypto (h htype)
  | _ => exact h

lemma SendPc.encrypting_unnotified {pc pc' : SendPc} (hpc : pc'.unnotified = pc.unnotified)
    (h : pc.Encrypting crypto) : pc'.Encrypting crypto := by
  have hiff : ∀ pc : SendPc, pc.unnotified.Encrypting crypto ↔ pc.Encrypting crypto := by
    intro pc
    cases pc <;> rfl
  rw [← hiff, hpc, hiff]
  exact h

lemma Channel.Encrypting.mono (hcrypto : crypto.isSome = true → crypto'.isSome = true)
    (h : ch.Encrypting crypto) : ch.Encrypting crypto' :=
  ⟨fun who => (h.slot who).mono hcrypto, fun rest hpc => hcrypto (h.streaming rest hpc)⟩

lemma Channel.Encrypting.open (config : ChannelConfig) :
    (Channel.open config).Encrypting crypto where
  slot who := by cases who <;> trivial
  streaming rest h := by cases h

/-- A sealed payload of stream output is encrypted once a cipher is installed. -/
lemma Sealed.encrypted {payloadType : PayloadType} {plain : Bytes} {out : Outgoing}
    (h : Sealed env crypto payloadType plain out)
    (hcrypto : payloadType = .output → crypto.isSome = true) (htype : out.payloadType = .output) :
    out.cipher.isSome = true := by
  cases h with
  | cipher cipher nonce payload hcipher _ hpayload => rfl
  | plain hnone =>
    have hsome := hcrypto htype
    simp [hnone htype] at hsome

/-- A step of a call keeps plaintext out, and issues only encrypted output. -/
lemma SendStep.encrypting {who : Sender} (h : SendStep env c who k ch o)
    (hslot : (ch.slot who).Encrypting k.crypto) :
    (o.channel.slot who).Encrypting k.crypto ∧
      ∀ i, Event.issued i ∈ o.events → i.out.payloadType = .output →
        i.out.cipher.isSome = true := by
  cases h with
  | refused payloadType plain e hpc => simp [SendPc.Encrypting]
  | encrypted payloadType plain out hpc hout =>
    rw [hpc] at hslot
    refine ⟨?_, by simp⟩
    rw [Channel.slot_setSlot]
    exact fun htype => hout.encrypted hslot htype
  | locked out stamp hpc hfree =>
    rw [hpc] at hslot
    refine ⟨?_, by simp⟩
    rw [Channel.slot_setSlot]
    exact hslot
  | tracked out wire now hpc hroom =>
    rw [hpc] at hslot
    refine ⟨by simp [SendPc.Encrypting], ?_⟩
    intro i hi htype
    rw [List.mem_singleton] at hi
    cases hi
    exact hslot htype
  | parked out wire hpc =>
    rw [hpc] at hslot
    refine ⟨?_, by simp⟩
    rw [Channel.slot_setSlot]
    exact hslot
  | retried out wire notified hpc =>
    rw [hpc] at hslot
    refine ⟨?_, by simp⟩
    rw [Channel.slot_setSlot]
    exact hslot
  | gaveUp out wire notified e hpc => simp [SendPc.Encrypting]
  | wrote n wire hpc =>
    refine ⟨?_, by simp⟩
    rw [Channel.slot_writerQueue, Channel.slot_setSlot]
    trivial
  | failed n wire e hpc => simp [SendPc.Encrypting]

/-- Slots of a channel, one by one. -/
lemma Channel.slots_encrypting (hcommand : ch.commandSend.Encrypting crypto)
    (hreader : ch.readerSend.Encrypting crypto) (who : Sender) :
    (ch.slot who).Encrypting crypto := by
  cases who with
  | reader => exact hreader
  | command => exact hcommand

/-- The next chunk is sent with a cipher installed. -/
lemma Channel.Encrypting.sendStreamData (h : ch.Encrypting crypto) {data : Bytes}
    (hcrypto : data ≠ [] → crypto.isSome = true) :
    (ch.sendStreamData data).Encrypting crypto := by
  unfold Channel.sendStreamData
  split
  · exact ⟨Channel.slots_encrypting trivial (h.slot .reader), by simp⟩
  · next hne =>
    exact ⟨Channel.slots_encrypting (fun _ => hcrypto hne) (h.slot .reader), fun _ _ => hcrypto hne⟩

/-- A step of the command task keeps plaintext out when the cipher is installed at the gate. -/
lemma CommandStep.encrypting (h : CommandStep c k ch o) (hch : ch.Encrypting k.crypto)
    (hcontrols : ch.Controls) (hgate : CipherAtGate o.events) :
    o.channel.Encrypting k.crypto := by
  have hidle : ∀ who, (({ ch with commandSend := .idle } : Channel).slot who).Encrypting k.crypto :=
    Channel.slots_encrypting trivial (hch.slot .reader)
  cases h with
  | moved pc hfrom hto hheld hlive hlive' =>
    refine ⟨hch.slot, ?_⟩
    rintro rest rfl
    cases hto
  | received command rest hpc hqueue' => exact ⟨hch.slot, by simp⟩
  | admittedData bytes hpc =>
    refine hch.sendStreamData (fun hne => ?_)
    have hevent := hgate (.admitted (.data bytes) k.crypto) (List.mem_singleton.mpr rfl)
    simpa [Event.underCipher, hne] using hevent
  | admittedControl payloadType data hpc =>
    have hsize : payloadType = .size := by
      refine hcontrols payloadType data (List.mem_append_left _ ?_)
      simp [hpc, CommandPc.held]
    refine ⟨Channel.slots_encrypting (fun htype => ?_) (hch.slot .reader), by simp⟩
    rw [hsize] at htype
    cases htype
  | chunkSent rest hpc hslot => exact hch.sendStreamData (fun _ => hch.streaming rest hpc)
  | controlSent hpc hslot => exact ⟨hidle, by simp⟩
  | failed e hpc hslot => exact ⟨hidle, by simp⟩
  | ended core hpc hcore => exact ⟨hidle, by simp [Channel.endCommand]⟩
  | aborted hpc hslot => exact ⟨hidle, by simp [Channel.endCommand]⟩

/-- What the reader leaves alone stays free of plaintext. -/
lemma Channel.Encrypting.kept {ch' : Channel} (h : ch.Encrypting crypto) (hkept : ch.Kept ch')
    (hslot : ch'.readerSend.Encrypting crypto) : ch'.Encrypting crypto where
  slot := Channel.slots_encrypting
    (SendPc.encrypting_unnotified hkept.commandSend (h.slot .command)) hslot
  streaming rest hpc := h.streaming rest (hkept.command ▸ hpc)

lemma ReaderStep.encrypting (h : ReaderStep c k ch o) (hch : ch.Encrypting k.crypto) :
    o.channel.Encrypting o.cont.crypto := by
  cases h with
  | inward inbound ch' events hfrom hslot hkept hevents =>
    exact hch.kept hkept (hslot ▸ hch.slot .reader)
  | called payloadType payload ch' events hfrom hto hslot htype hkept hevents =>
    refine hch.kept hkept ?_
    rw [hslot]
    exact fun htype' => absurd htype' htype
  | returned result crypto ch' hfrom hslot hcrypto hkept =>
    refine (hch.kept hkept ?_).mono ?_
    · rw [hslot]
      trivial
    · intro hsome
      obtain hnone | heq := hcrypto
      · simp [hnone] at hsome
      · exact heq ▸ hsome
  | retired n now ch' hfrom hslot hkept =>
    exact hch.kept hkept (SendPc.encrypting_unnotified hslot (hch.slot .reader))
  | aborted haborted hfrom hslot =>
    rw [abandon_crypto]
    exact ⟨Channel.slots_encrypting (hch.slot .command) trivial, hch.streaming⟩

/-- A cipher is never taken away or replaced. -/
lemma ChannelStep.crypto_eq {cipher : SessionCrypto} (h : ChannelStep env c k ch o)
    (hcipher : k.crypto = some cipher) : o.cont.crypto = some cipher := by
  cases h with
  | send who h => rw [h.frame.crypto, hcipher]
  | command h => rw [h.frame.crypto, hcipher]
  | reader h =>
    cases h with
    | returned result crypto ch' hfrom hslot hcrypto hkept =>
      obtain hnone | heq := hcrypto
      · rw [hnone] at hcipher
        cases hcipher
      · exact heq.trans hcipher
    | aborted haborted hfrom hslot => rw [abandon_crypto, hcipher]
    | _ => exact hcipher
  | background h =>
    cases h
    exact hcipher
  | accepted command hcommand halive h =>
    subst h
    exact hcipher

lemma ChannelStep.crypto_isSome (h : ChannelStep env c k ch o) (hsome : k.crypto.isSome = true) :
    o.cont.crypto.isSome = true := by
  obtain ⟨cipher, hcipher⟩ := Option.isSome_iff_exists.mp hsome
  rw [h.crypto_eq hcipher]
  rfl

/-- A step keeps plaintext out of its channel. -/
lemma ChannelStep.encrypting (h : ChannelStep env c k ch o) (hch : ch.Encrypting k.crypto)
    (hcontrols : ch.Controls) (hgate : CipherAtGate o.events) :
    o.channel.Encrypting o.cont.crypto := by
  cases h with
  | send who h =>
    have hf := h.frame
    refine ⟨fun who' => ?_, ?_⟩
    · rw [hf.crypto]
      by_cases hwho : who' = who
      · exact hwho ▸ (h.encrypting (hch.slot who)).1
      · rw [hf.slot who' hwho]
        exact hch.slot who'
    · rw [hf.command, hf.crypto]
      exact hch.streaming
  | command h =>
    rw [h.frame.crypto]
    exact h.encrypting hch hcontrols hgate
  | reader h => exact h.encrypting hch
  | background h =>
    cases h
    exact ⟨Channel.slots_encrypting (hch.slot .command) (hch.slot .reader), hch.streaming⟩
  | accepted command hcommand halive h =>
    subst h
    exact ⟨Channel.slots_encrypting (hch.slot .command) (hch.slot .reader), hch.streaming⟩

/-- It issues only encrypted output. -/
lemma ChannelStep.issues_encrypted (h : ChannelStep env c k ch o) (hch : ch.Encrypting k.crypto)
    {i : Issued} (hi : Event.issued i ∈ o.events) (htype : i.out.payloadType = .output) :
    i.out.cipher.isSome = true := by
  obtain ⟨who, hsend⟩ := h.send_of_issued hi
  exact (hsend.encrypting (hch.slot who)).2 i hi htype

end

/-! ## Runs -/

/-- No plaintext is on its way, and none was issued. -/
structure System.Encrypting (s : System) : Prop where
  channels : s.Each (Channel.Encrypting s.cont.crypto)
  issued : ∀ i ∈ s.issued, i.out.payloadType = .output → i.out.cipher.isSome = true

theorem encrypting_of_gate {env : Env} {config : ChannelConfig} {s : System}
    (hs : Session env config s) : CipherAtGate s.events → s.Encrypting := by
  refine Reachable.invariant_with (P := fun s => CipherAtGate s.events → s.Encrypting)
    (Q := fun s => s.Each Channel.Controls) ?_ ?_ ?_ hs
  · intro s hs
    exact channels_invariant .open (fun c k ch o hc h => hc.step h) hs
  · intro _
    refine ⟨fun c ch hch => System.channel_start hch ▸ .open config, ?_⟩
    intro i hi
    simp [System.mem_issued, System.start, System.events] at hi
  · intro s l s' hcontrols ih hstep _ hgate
    obtain ⟨c, a, ch, o, -, hch, ho, rfl⟩ | ⟨config', -, -, rfl⟩ := System.step_cases hstep
    · rw [System.events_after] at hgate
      have hbefore := ih (fun e he => hgate e (List.mem_append_left _ he))
      have hnow : CipherAtGate o.events := fun e he => hgate e (List.mem_append_right _ he)
      have hstep' := perform_cases ho
      have hchannel := hstep'.encrypting (hbefore.channels c ch hch) (hcontrols c ch hch) hnow
      refine ⟨fun c' ch' hch' => ?_, fun i hi => ?_⟩
      · obtain ⟨-, rfl⟩ | ⟨-, hold⟩ := System.channel_after hch'
        · exact hchannel
        · exact (hbefore.channels c' ch' hold).mono hstep'.crypto_isSome
      · rw [System.mem_issued, System.events_after, List.mem_append] at hi
        obtain hi | hi := hi
        · exact hbefore.issued i (System.mem_issued.mpr hi)
        · exact hstep'.issues_encrypted (hbefore.channels c ch hch) hi
    · have hbefore := ih hgate
      refine ⟨fun c ch hch => ?_, hbefore.issued⟩
      obtain ⟨-, rfl⟩ | hold := System.channel_resumed hch
      · exact .open config'
      · exact hbefore.channels c ch hold

/-- **No plaintext behind the gate.**  In every run in which caller data passes the gate only once
the cipher is installed, a session that processes a request for encryption issues no stream output
in the clear, before, during or after that handshake and on whichever channel. -/
theorem no_plaintext_behind_gate {env : Env} {config : ChannelConfig} {s : System}
    (hs : Session env config s) (hgate : CipherAtGate s.events) :
    s.MandatesEncryption → ∀ i ∈ s.issued, i.out.payloadType = .output → i.Encrypted env := by
  intro _ i hi htype
  have hsome := (encrypting_of_gate hs hgate).issued i hi htype
  obtain ⟨cipher, hcipher⟩ := Option.isSome_iff_exists.mp hsome
  obtain ⟨hcarries, hwire⟩ := issued_wired hs i hi
  rw [Outgoing.Carries, hcipher] at hcarries
  obtain ⟨nonce, hpayload⟩ := hcarries
  exact ⟨⟨cipher, nonce, hcipher, hpayload⟩, hwire⟩

/-- The agent asks for encryption, the handshake completes, and the caller sends one byte. -/
def encryptedRun : List Label :=
  onChannel 0 (receivingData (agentMessage 0 .handshakeRequest kmsRequestJson) ++ answering ++
    receivingData (agentMessage 1 .handshakeComplete completeJson) ++
    ([.readerDeliver (toArray _ []), .readerAdvance, .readerTake, .sendData [97]] : List Action) ++
    admitting ++ numbering .command)

theorem no_plaintext_behind_gate_typed :
    ∃ s, Session sampleEnv sampleConfig s ∧ CipherAtGate s.events ∧ s.MandatesEncryption ∧
      ∃ i ∈ s.issued, i.out.payloadType = .output ∧ i.out.plain = [97] ∧ i.Encrypted sampleEnv := by
  have hrun : (run (System.step sampleEnv) (System.start sampleConfig) encryptedRun).any (fun s =>
      decide (CipherAtGate s.events ∧ s.MandatesEncryption ∧
        ∃ i ∈ s.issued, i.out.payloadType = .output ∧ i.out.plain = [97])) = true := by
    decide +kernel
  obtain ⟨s, hs, hp⟩ := exists_of_run hrun
  obtain ⟨hgate, hkms, i, hi, htype, hplain⟩ := of_decide_eq_true hp
  exact ⟨s, hs, hgate, hkms, i, hi, htype, hplain,
    no_plaintext_behind_gate hs hgate hkms i hi htype⟩

/-- The gateway says `start_publication`, the caller sends one byte, and only then the agent asks for
encryption. -/
def plaintextRun : List Label :=
  onChannel 0 (receiving startPublication ++ ([.sendData [97]] : List Action) ++ admitting ++
    numbering .command ++ ([.write .command] : List Action) ++
    receivingData (agentMessage 0 .handshakeRequest kmsRequestJson) ++ answering)

/-- **The gate does not wait for the handshake.**  The caller's byte was numbered in the clear on a
session that mandates encryption. -/
theorem plaintext_before_handshake :
    ∃ s, Session sampleEnv sampleConfig s ∧ s.MandatesEncryption ∧
      ∃ i ∈ s.issued, i.out.payloadType = .output ∧ i.out.plain = [97] ∧ i.out.payload = [97] ∧
        ¬i.Encrypted sampleEnv := by
  have hrun : (run (System.step sampleEnv) (System.start sampleConfig) plaintextRun).any (fun s =>
      decide (s.MandatesEncryption ∧ ∃ i ∈ s.issued, i.out.payloadType = .output ∧
        i.out.plain = [97] ∧ i.out.payload = [97] ∧ i.out.cipher = none)) = true := by
    decide +kernel
  obtain ⟨s, hs, hp⟩ := exists_of_run hrun
  obtain ⟨hkms, i, hi, htype, hplain, hpayload, hcipher⟩ := of_decide_eq_true hp
  refine ⟨s, hs, hkms, i, hi, htype, hplain, hpayload, ?_⟩
  rintro ⟨⟨cipher, nonce, hsome, -⟩, -⟩
  rw [hcipher] at hsome
  cases hsome

end SsmBridge
