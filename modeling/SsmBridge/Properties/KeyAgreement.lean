import SsmBridge.Construction.Deliver

/-!
# Both ends agree on the keys

The client and the agent build their ciphers from the same 64 bytes, the agent with the halves the
other way round.  `Mirrored` is what this gives: each side decrypts with the key that the other
encrypts with.  Everything else follows from it and from what the cipher promises of a single key
and nonce: a frame of one side is read by the other, and the answer to a challenge reaches the
agent as the bytes that the agent encrypted.
-/

namespace SsmBridge

/-- What a cipher with nonces of 12 bytes and tags of 16 promises of a plaintext: encryption
succeeds and adds the tag, and decryption under the same key and nonce inverts it. -/
def Aead.LawfulOn (aead : Aead) (plaintext : Bytes) : Prop :=
  ∀ key nonce : Bytes, key.length = 32 → nonce.length = nonceLen →
    ∃ ciphertext, aead.encrypt key nonce plaintext = some ciphertext ∧
      ciphertext.length = plaintext.length + tagLen ∧
      aead.decrypt key nonce ciphertext = some plaintext

namespace SessionCrypto

/-! ## The two halves -/

/-- The order in which the agent applies the key material. -/
def swapHalves (material : Bytes) : Bytes := material.drop 32 ++ material.take 32

/-- Each side decrypts with the key that the other encrypts with. -/
structure Mirrored (client agent : SessionCrypto) : Prop where
  sent : agent.decryptKey = client.encryptKey
  received : client.decryptKey = agent.encryptKey
  length_sent : client.encryptKey.length = 32
  length_received : agent.encryptKey.length = 32

section Keys

variable {client agent : SessionCrypto} {material blob blob' : Bytes}

lemma fromKeyMaterial_ok (h : material.length = dataKeyBytes) (blob : Bytes) :
    fromKeyMaterial material blob = .ok ⟨blob, material.drop 32, material.take 32⟩ := by
  have hhalf : material.length / 2 = 32 := by
    rw [h]
    rfl
  rw [fromKeyMaterial, if_neg (not_not.mpr h)]
  simp only [hhalf]

/-- Key material of another length is refused. -/
lemma fromKeyMaterial_error (h : material.length ≠ dataKeyBytes) (blob : Bytes) :
    ∃ e, fromKeyMaterial material blob = .error (.crypto e) := by
  rw [fromKeyMaterial, if_pos h]
  exact ⟨_, rfl⟩

lemma length_swapHalves (material : Bytes) : (swapHalves material).length = material.length := by
  rw [swapHalves, List.length_append, List.length_drop, List.length_take]
  omega

/-- **The agent's key pair mirrors the client's.** The two ends read the same material with its
halves swapped, so that each encrypts with the key the other decrypts with. -/
theorem mirrored_of_swapHalves (h : material.length = dataKeyBytes)
    (hclient : fromKeyMaterial material blob = .ok client)
    (hagent : fromKeyMaterial (swapHalves material) blob' = .ok agent) :
    Mirrored client agent := by
  rw [fromKeyMaterial_ok h] at hclient
  rw [fromKeyMaterial_ok ((length_swapHalves material).trans h)] at hagent
  cases hclient
  cases hagent
  have hdrop : (material.drop 32).length = 32 := by
    rw [List.length_drop, h]
    rfl
  refine ⟨?_, ?_, hdrop, ?_⟩
  · show (material.drop 32 ++ material.take 32).take 32 = material.drop 32
    exact List.take_left' hdrop
  · show material.take 32 = (material.drop 32 ++ material.take 32).drop 32
    exact (List.drop_left' hdrop).symm
  · show ((swapHalves material).drop 32).length = 32
    rw [List.length_drop, length_swapHalves, h]
    rfl

end Keys

/-! ## Frames -/

section Frames

variable {client agent : SessionCrypto} {aead : Aead} {plaintext frame : Bytes}

/-- **A frame of one side is read by whoever holds the key.** It is 28 bytes longer than what it
carries. -/
theorem decrypt_encrypt (haead : aead.LawfulOn plaintext) (hlength : client.encryptKey.length = 32)
    (hkey : agent.decryptKey = client.encryptKey) (nonce : Nonce) :
    ∃ frame, client.encrypt aead nonce plaintext = .ok frame ∧
      frame.length = plaintext.length + (nonceLen + tagLen) ∧
      agent.decrypt aead frame = .ok plaintext := by
  have hnonce : nonce.toList.length = nonceLen := nonce.toList_length
  obtain ⟨ciphertext, hencrypt, htag, hdecrypt⟩ :=
    haead client.encryptKey nonce.toList hlength hnonce
  refine ⟨nonce.toList ++ ciphertext, ?_, ?_, ?_⟩
  · rw [encrypt, hencrypt]
  · rw [List.length_append, hnonce, htag]
    omega
  · have hlong : ¬ (nonce.toList ++ ciphertext).length < nonceLen + tagLen := by
      rw [List.length_append, hnonce, htag]
      omega
    rw [decrypt, if_neg hlong, List.take_left' hnonce, List.drop_left' hnonce, hkey]
    simp only [hdecrypt]

/-- A frame without room for nonce and tag is refused before the cipher sees it. -/
lemma decrypt_short (h : frame.length < nonceLen + tagLen) :
    ∃ e, client.decrypt aead frame = .error (.crypto e) := by
  rw [decrypt, if_pos h]
  exact ⟨_, rfl⟩

end Frames

end SessionCrypto

/-! ## Challenges -/

namespace HandshakeHandler

variable {h : HandshakeHandler} {client agent : SessionCrypto} {aead : Aead}
  {challenge plaintext : Bytes}

/-- A challenge that the client reads is answered with the same bytes for the agent. -/
lemma answerChallenge_ok (hcrypto : h.crypto = some client) (haead : aead.LawfulOn plaintext)
    (hlength : client.encryptKey.length = 32) (hkey : agent.decryptKey = client.encryptKey)
    (hread : client.decrypt aead challenge = .ok plaintext) (nonce : Nonce) :
    ∃ response, h.answerChallenge aead nonce challenge = .ok response ∧
      agent.decrypt aead response = .ok plaintext := by
  obtain ⟨frame, hencrypt, -, hdecrypt⟩ :=
    SessionCrypto.decrypt_encrypt haead hlength hkey nonce
  refine ⟨frame, ?_, hdecrypt⟩
  simp only [answerChallenge, hcrypto, hread, hencrypt]

/-- One that it cannot read is not answered. -/
lemma answerChallenge_error {e : Error} (hcrypto : h.crypto = some client)
    (hread : client.decrypt aead challenge = .error e) (nonce : Nonce) :
    h.answerChallenge aead nonce challenge = .error e := by
  simp only [answerChallenge, hcrypto, hread]

end HandshakeHandler

/-! ## The two ends -/

/-- The two ends of a session understand each other, whatever the nonces. -/
structure KeysAgree (aead : Aead) (client agent : SessionCrypto) : Prop where
  toAgent : ∀ nonce plaintext, ∃ frame, client.encrypt aead nonce plaintext = .ok frame ∧
    frame.length = plaintext.length + 28 ∧ agent.decrypt aead frame = .ok plaintext
  toClient : ∀ nonce plaintext, ∃ frame, agent.encrypt aead nonce plaintext = .ok frame ∧
    frame.length = plaintext.length + 28 ∧ client.decrypt aead frame = .ok plaintext
  short : ∀ frame : Bytes, frame.length < 28 →
    (∃ e, client.decrypt aead frame = .error (.crypto e)) ∧
      (∃ e, agent.decrypt aead frame = .error (.crypto e))
  answered : ∀ (h : HandshakeHandler) nonce challenge plaintext, h.crypto = some client →
    client.decrypt aead challenge = .ok plaintext →
    ∃ response, h.answerChallenge aead nonce challenge = .ok response ∧
      agent.decrypt aead response = .ok plaintext
  refused : ∀ (h : HandshakeHandler) nonce challenge e, h.crypto = some client →
    client.decrypt aead challenge = .error e → h.answerChallenge aead nonce challenge = .error e

lemma SessionCrypto.Mirrored.keysAgree {aead : Aead} {client agent : SessionCrypto}
    (h : Mirrored client agent) (haead : ∀ plaintext, aead.LawfulOn plaintext) :
    KeysAgree aead client agent where
  toAgent nonce plaintext := decrypt_encrypt (haead plaintext) h.length_sent h.sent nonce
  toClient nonce plaintext := decrypt_encrypt (haead plaintext) h.length_received h.received nonce
  short _ hshort := ⟨decrypt_short hshort, decrypt_short hshort⟩
  answered _ nonce _ plaintext hcrypto hread :=
    HandshakeHandler.answerChallenge_ok hcrypto (haead plaintext) h.length_sent h.sent hread nonce
  refused _ nonce _ _ hcrypto hread := HandshakeHandler.answerChallenge_error hcrypto hread nonce

/-- **Key agreement.** From 64 bytes of key material, and from them with the halves the other way
round, come two ciphers that understand each other; key material of another length is refused. -/
theorem session_keys_agree (aead : Aead) (haead : ∀ plaintext, aead.LawfulOn plaintext)
    (material blob blob' : Bytes) :
    (material.length = dataKeyBytes →
      ∃ client agent, SessionCrypto.fromKeyMaterial material blob = .ok client ∧
        SessionCrypto.fromKeyMaterial (SessionCrypto.swapHalves material) blob' = .ok agent ∧
        KeysAgree aead client agent) ∧
      (material.length ≠ dataKeyBytes →
        ∃ e, SessionCrypto.fromKeyMaterial material blob = .error (.crypto e)) := by
  constructor
  · intro hlength
    have hclient := SessionCrypto.fromKeyMaterial_ok hlength blob
    have hagent := SessionCrypto.fromKeyMaterial_ok
      ((SessionCrypto.length_swapHalves material).trans hlength) blob'
    have hmirrored := SessionCrypto.mirrored_of_swapHalves hlength hclient hagent
    exact ⟨_, _, hclient, hagent, hmirrored.keysAgree haead⟩
  · intro hlength
    exact SessionCrypto.fromKeyMaterial_error hlength blob

/-- A cipher that tags a plaintext with key bytes, and refuses another tag. -/
def tagAead : Aead where
  encrypt key _ plaintext := some (plaintext ++ key.take tagLen)
  decrypt key _ ciphertext :=
    if ciphertext.drop (ciphertext.length - tagLen) = key.take tagLen then
      some (ciphertext.take (ciphertext.length - tagLen))
    else none

lemma tagAead_lawfulOn (plaintext : Bytes) : tagAead.LawfulOn plaintext := by
  intro key nonce hkey _
  have htag : (key.take tagLen).length = tagLen := by
    rw [List.length_take, hkey]
    rfl
  have hlength : (plaintext ++ key.take tagLen).length - tagLen = plaintext.length := by
    rw [List.length_append, htag, Nat.add_sub_cancel]
  refine ⟨plaintext ++ key.take tagLen, rfl, ?_, ?_⟩
  · rw [List.length_append, htag]
  · simp only [tagAead, hlength, List.drop_left, List.take_left, if_true]

/-- The key material of bytes 0 to 63. -/
def countingMaterial : Bytes := (List.range 64).map UInt8.ofNat

/-- The two ends with that material understand each other; a key of one byte is refused. -/
theorem session_keys_agree_counting :
    (∃ client agent, SessionCrypto.fromKeyMaterial countingMaterial [9] = .ok client ∧
      SessionCrypto.fromKeyMaterial (SessionCrypto.swapHalves countingMaterial) [9] = .ok agent ∧
      KeysAgree tagAead client agent) ∧
      ∃ e, SessionCrypto.fromKeyMaterial [7] [9] = .error (.crypto e) :=
  ⟨(session_keys_agree tagAead tagAead_lawfulOn countingMaterial [9] [9]).1 (by decide),
    (session_keys_agree tagAead tagAead_lawfulOn [7] [9] [9]).2 (by decide)⟩

/-! ## The reader -/

section Reader

variable {env : Env} {v : ReaderView} {m : ClientMessage} {client agent : SessionCrypto}
  {challenge : Bytes}

/-- **Challenges on the wire.** The reader replies to a challenge that its cipher reads with a frame
in which the agent finds the same bytes, and ends the session over one that it does not. -/
theorem deliver_challenge (haead : ∀ plaintext, env.aead.LawfulOn plaintext)
    (hmirrored : SessionCrypto.Mirrored client agent) (hcrypto : v.handshake.crypto = some client)
    (htype : m.payloadType = .encChallengeRequest)
    (hchallenge : env.codec.challenge m.payload = .ok challenge) (nonce : Nonce) :
    (∃ plaintext response, client.decrypt env.aead challenge = .ok plaintext ∧
      agent.decrypt env.aead response = .ok plaintext ∧
      ∀ payload, env.codec.challengeResponse response = .ok payload →
        deliver env nonce v m =
          (.progress (.reply .encChallengeResponse payload .answered), v, none)) ∨
      ∃ e, client.decrypt env.aead challenge = .error e ∧
        deliver env nonce v m = (.progress (.finished (.error e)), v, none) := by
  cases hread : client.decrypt env.aead challenge with
  | ok plaintext =>
    obtain ⟨response, hanswer, hagent⟩ := HandshakeHandler.answerChallenge_ok hcrypto
      (haead plaintext) hmirrored.length_sent hmirrored.sent hread nonce
    refine Or.inl ⟨plaintext, response, rfl, hagent, ?_⟩
    intro payload hpayload
    simp only [deliver, htype, hchallenge, hanswer, hpayload]
  | error e =>
    have hanswer := HandshakeHandler.answerChallenge_error hcrypto hread nonce
    refine Or.inr ⟨e, rfl, ?_⟩
    simp only [deliver, htype, hchallenge, hanswer]

end Reader

end SsmBridge
