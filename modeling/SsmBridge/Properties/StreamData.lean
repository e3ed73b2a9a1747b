import SsmBridge.Construction.StreamData
import SsmBridge.Properties.Footprint
import SsmBridge.Properties.KeyAgreement
import SsmBridge.Properties.WireFormat

/-!
# What the client sends, its own parser accepts

`StreamAccepted` says that the messages of one call of `send_stream_data` parse, that their payloads
are within the limit of the format, and that the receiver gets back the bytes that were sent.

A configuration may ask for chunks as long as the largest payload.  Encryption then adds the nonce
and the tag on top, and the message is too long for its own parser.  `sendStreamData_accepted_iff`
says that this is the only way to fail: without a cipher every call is accepted, and with one a call
is accepted exactly when its longest chunk leaves room for the 28 bytes.
-/

namespace SsmBridge

open Chunks

/-! ## The cipher -/

/-- What AES-256-GCM promises: encryption adds a tag of 16 bytes, and decryption under the same key
and nonce inverts it.  The primitive takes plaintexts of up to `2 ^ 36` bytes. -/
def Aead.Lawful (aead : Aead) : Prop :=
  ∀ key nonce plaintext : Bytes, key.length = 32 → nonce.length = nonceLen →
    plaintext.length ≤ 2 ^ 36 →
    ∃ ciphertext, aead.encrypt key nonce plaintext = some ciphertext ∧
      ciphertext.length = plaintext.length + tagLen ∧
      aead.decrypt key nonce ciphertext = some plaintext

namespace SessionCrypto

/-- The cipher was built from a data key. -/
def Negotiated (c : SessionCrypto) : Prop :=
  ∃ material blob, fromKeyMaterial material blob = .ok c

/-- The other side of the session applies the halves of the key the other way round. -/
def peer (c : SessionCrypto) : SessionCrypto :=
  { c with encryptKey := c.decryptKey, decryptKey := c.encryptKey }

variable {c : SessionCrypto} {aead : Aead}

lemma Negotiated.length_encryptKey (h : c.Negotiated) : c.encryptKey.length = 32 := by
  obtain ⟨material, blob, hc⟩ := h
  rw [fromKeyMaterial] at hc
  split at hc
  · cases hc
  · next hlength =>
    cases hc
    have h64 : material.length = 64 := not_not.mp hlength
    simp [h64]

/-- An encrypted payload is 28 bytes longer, and the other side reads it. -/
lemma encrypt_spec (haead : aead.Lawful) (hc : c.Negotiated) (nonce : Nonce) {plaintext : Bytes}
    (hlength : plaintext.length ≤ 2 ^ 36) :
    ∃ frame, c.encrypt aead nonce plaintext = .ok frame ∧
      frame.length = plaintext.length + (nonceLen + tagLen) ∧
      c.peer.decrypt aead frame = .ok plaintext := by
  have hlawful : aead.LawfulOn plaintext :=
    fun key nonce hkey hnonce => haead key nonce plaintext hkey hnonce hlength
  exact decrypt_encrypt hlawful hc.length_encryptKey rfl nonce

end SessionCrypto

/-! ## What the receiver makes of a message -/

/-- The bytes a receiver with the matching key takes out of a message. -/
def receivedPayload (env : Env) (crypto : Option SessionCrypto) (m : ClientMessage) :
    Option Bytes :=
  match crypto with
  | none => some m.payload
  | some c => (c.peer.decrypt env.aead m.payload).toOption

/-- Parse a message and take the bytes out of it. -/
def received (env : Env) (crypto : Option SessionCrypto) (wire : Bytes) : Option Bytes :=
  match ClientMessage.deserialize env.sha256 wire with
  | some (.ok m) => receivedPayload env crypto m
  | _ => none

/-- The messages of a call are accepted, and carry the bytes that were sent. -/
structure StreamAccepted (env : Env) (crypto : Option SessionCrypto) (wires : List Bytes)
    (data : Bytes) : Prop where
  parsed : ∀ wire ∈ wires, ∃ m, ClientMessage.deserialize env.sha256 wire = some (.ok m) ∧
    m.payload.length ≤ maxPayloadSize
  content : (wires.mapM (received env crypto)).map List.flatten = some data

section Payload

variable {env : Env} {crypto : Option SessionCrypto} {x : SendContext} {chunk : Bytes}

/-- Bytes that encryption adds to a payload. -/
def overhead : Option SessionCrypto → ℕ
  | none => 0
  | some _ => nonceLen + tagLen

lemma overhead_le (crypto : Option SessionCrypto) : overhead crypto ≤ 28 := by
  cases crypto with
  | none => exact Nat.zero_le _
  | some c => exact Nat.le_refl _

/-- The payload of an output message. -/
lemma encryptIfNeeded_output (haead : env.aead.Lawful) (hcrypto : ∀ c ∈ crypto, c.Negotiated)
    (nonce : Nonce) (hchunk : chunk.length ≤ maxPayloadSize) :
    ∃ payload, encryptIfNeeded env crypto nonce .output chunk = .ok payload ∧
      payload.length = chunk.length + overhead crypto ∧
      ∀ m : ClientMessage, m.payload = payload → receivedPayload env crypto m = some chunk := by
  cases crypto with
  | none =>
    refine ⟨chunk, rfl, rfl, ?_⟩
    intro m hm
    rw [receivedPayload, hm]
  | some c =>
    have hshort : chunk.length ≤ 2 ^ 36 := hchunk.trans (by decide)
    obtain ⟨frame, hencrypt, hlength, hdecrypt⟩ :=
      SessionCrypto.encrypt_spec haead (hcrypto c rfl) nonce hshort
    refine ⟨frame, hencrypt, hlength, ?_⟩
    intro m hm
    rw [receivedPayload, hm, hdecrypt]
    rfl

/-- A message built with a number that is not negative is read back unless it is too long. -/
lemma deserialize_new (env : Env) (stamp : Stamp) {n : Int64} (hn : 0 ≤ n)
    (payloadType : PayloadType) {payload : Bytes} (hsmall : payload.length < 2 ^ 32) :
    let m := ClientMessage.new env.sha256 stamp .inputStreamData n payloadType payload
    (payload.length ≤ maxPayloadSize →
        ClientMessage.deserialize env.sha256 m.serialize = some (.ok m)) ∧
      (maxPayloadSize < payload.length →
        ∃ e, ClientMessage.deserialize env.sha256 m.serialize = some (.error e)) := by
  intro m
  have hvalid : m.validate env.sha256 = .ok () := by
    rw [validate_ok_iff]
    exact Or.inr ⟨hn, Or.inr rfl⟩
  have hpayload : m.payload = payload := rfl
  rw [deserialize_eq env.sha256 (headerSize_le_length_serialize m),
    readFrame_serialize env.sha256 m hsmall, hvalid, hpayload]
  constructor
  · intro hfits
    rw [if_neg (not_lt.mpr hfits)]
  · intro hlong
    rw [if_pos hlong]
    exact ⟨_, rfl⟩

/-- One message of a call. -/
lemma sendPayload_output (haead : env.aead.Lawful) (hcrypto : ∀ c ∈ crypto, c.Negotiated)
    (hx : 0 ≤ x.sequence) (hchunk : chunk.length ≤ maxPayloadSize) :
    ∃ wire, sendPayload env crypto x .output chunk = .ok wire ∧
      (chunk.length + overhead crypto ≤ maxPayloadSize →
        (∃ m, ClientMessage.deserialize env.sha256 wire = some (.ok m) ∧
          m.payload.length ≤ maxPayloadSize) ∧ received env crypto wire = some chunk) ∧
      (maxPayloadSize < chunk.length + overhead crypto →
        ∃ e, ClientMessage.deserialize env.sha256 wire = some (.error e)) := by
  obtain ⟨payload, hpayload, hlength, hreceived⟩ :=
    encryptIfNeeded_output haead hcrypto x.nonce hchunk
  have hover := overhead_le crypto
  have hsmall : payload.length < 2 ^ 32 := by
    have hmax : maxPayloadSize + 28 < 2 ^ 32 := by decide
    omega
  obtain ⟨hok, herr⟩ := deserialize_new env x.stamp hx .output hsmall
  rw [hlength] at hok herr
  refine ⟨_, by rw [sendPayload, hpayload], ?_, herr⟩
  intro hfits
  refine ⟨⟨_, hok hfits, ?_⟩, ?_⟩
  · show payload.length ≤ maxPayloadSize
    omega
  · rw [received, hok hfits]
    exact hreceived _ rfl

/-- The steps of a call in `Channel` build the message that `sendPayload` returns: the encryption
step reads the cipher, and the number is read later, under the lock. -/
theorem sendPayload_of_steps {nonce : Nonce} {stamp : Stamp} {c : ℕ} {who : Sender}
    {k k' : Continuity} {ch ch' : Channel} {o o' : Outcome} {out : Outgoing}
    (hencrypt : sendEncrypt env nonce who k ch = some o) (hout : o.channel.slot who = .locking out)
    (hlock : sendLock env stamp c who k' ch' = some o') (hslot : ch'.slot who = .locking out) :
    ∃ wire, o'.channel.slot who = .tracking out wire ∧
      sendPayload env k.crypto ⟨k'.sequence, nonce, stamp⟩ out.payloadType out.plain =
        .ok wire := by
  refine ⟨(ClientMessage.new env.sha256 stamp .inputStreamData k'.sequence out.payloadType
    out.payload).serialize, ?_, ?_⟩
  · unfold sendLock at hlock
    split at hlock
    · next out' hslot' hfree =>
      cases hlock
      obtain rfl : out' = out := SendPc.locking.inj (hslot'.symm.trans hslot)
      simp
    · cases hlock
  · have hpayload : encryptIfNeeded env k.crypto nonce out.payloadType out.plain =
        .ok out.payload := by
      unfold sendEncrypt at hencrypt
      split at hencrypt
      · next payloadType plain hcalled =>
        unfold encryptIfNeeded
        split at hencrypt
        · next crypto hcrypto =>
          cases hsealed : crypto.encrypt env.aead nonce plain with
          | error e =>
            rw [hsealed] at hencrypt
            cases hencrypt
            simp at hout
          | ok payload =>
            rw [hsealed] at hencrypt
            cases hencrypt
            simp only [Channel.slot_setSlot, SendPc.locking.injEq] at hout
            subst hout
            simpa [hcrypto] using hsealed
        · next hplain =>
          cases hencrypt
          simp only [Channel.slot_setSlot, SendPc.locking.injEq] at hout
          subst hout
          split
          · next crypto htype hcrypto => exact absurd hcrypto (hplain crypto htype)
          · rfl
      · cases hencrypt
    simp only [sendPayload, hpayload]

end Payload

/-! ## The whole call -/

section Call

variable {env : Env} {crypto : Option SessionCrypto} {contextAt : ℕ → SendContext}

/-- Chunks that leave room for what encryption adds are all accepted. -/
lemma sendChunks_accepted (haead : env.aead.Lawful) (hcrypto : ∀ c ∈ crypto, c.Negotiated)
    (hnumbers : ∀ i, 0 ≤ (contextAt i).sequence) {pieces : List Bytes}
    (hfits : ∀ chunk ∈ pieces, chunk.length + overhead crypto ≤ maxPayloadSize) (i : ℕ) :
    StreamAccepted env crypto (sendChunks env crypto contextAt i pieces).1 pieces.flatten := by
  induction pieces generalizing i with
  | nil => exact ⟨by simp [sendChunks], rfl⟩
  | cons chunk rest ih =>
    have hchunk := hfits chunk List.mem_cons_self
    obtain ⟨wire, hwire, hok, -⟩ := sendPayload_output haead hcrypto (hnumbers i)
      (show chunk.length ≤ maxPayloadSize by omega)
    obtain ⟨hparsed, hreceived⟩ := hok hchunk
    have hrest := ih (fun c hc => hfits c (List.mem_cons_of_mem _ hc)) (i + 1)
    simp only [sendChunks, hwire]
    refine ⟨?_, ?_⟩
    · intro w hw
      rcases List.mem_cons.mp hw with rfl | hw
      · exact hparsed
      · exact hrest.parsed w hw
    · obtain ⟨plains, hplains, hflat⟩ := Option.map_eq_some_iff.mp hrest.content
      simp [hreceived, hplains, hflat]

/-- A first chunk that does not is refused. -/
lemma sendChunks_refused (haead : env.aead.Lawful) (hcrypto : ∀ c ∈ crypto, c.Negotiated)
    (hnumbers : ∀ i, 0 ≤ (contextAt i).sequence) {chunk : Bytes} {rest : List Bytes} {i : ℕ}
    {data : Bytes} (hchunk : chunk.length ≤ maxPayloadSize)
    (hlong : maxPayloadSize < chunk.length + overhead crypto) :
    ¬ StreamAccepted env crypto (sendChunks env crypto contextAt i (chunk :: rest)).1 data := by
  intro haccepted
  obtain ⟨wire, hwire, -, herr⟩ := sendPayload_output haead hcrypto (hnumbers i) hchunk
  obtain ⟨e, he⟩ := herr hlong
  have hmem : wire ∈ (sendChunks env crypto contextAt i (chunk :: rest)).1 := by
    simp only [sendChunks, hwire, List.mem_cons, true_or]
  obtain ⟨m, hm, -⟩ := haccepted.parsed wire hmem
  rw [he] at hm
  cases hm

end Call

/-! ## From the configuration to the wire -/

/-- A configuration that passes the checks passes those on the sizes and times. -/
lemma SessionConfig.validateLimits_of_validate {config : SessionConfig}
    (h : config.validate = .ok ()) : config.validateLimits = .ok () := by
  simp only [validate] at h
  split at h
  · cases h
  · split at h
    · cases h
    · cases hreason : validateReason config.reason with
      | error e =>
        rw [hreason] at h
        cases h
      | ok u =>
        rw [hreason] at h
        exact h

/-- Its sizes and times are within the limits. -/
lemma SessionConfig.limits_of_validate {config : SessionConfig} (h : config.validate = .ok ()) :
    1 ≤ config.payloadChunkSize ∧ config.payloadChunkSize ≤ maxPayloadSize ∧
      config.heartbeatInterval < config.idleTimeout := by
  have hlimits := validateLimits_of_validate h
  rw [validateLimits] at hlimits
  split at hlimits
  · cases hlimits
  · next hzero =>
    split at hlimits
    · cases hlimits
    · next hmax =>
      split at hlimits
      · cases hlimits
      · next hidle =>
        exact ⟨Nat.pos_of_ne_zero hzero, Nat.le_of_not_lt hmax, Nat.lt_of_not_le hidle⟩

/-- A configuration that passes the checks has a chunk size within the format. -/
lemma SessionConfig.chunkSize_of_validate {config : SessionConfig} (h : config.validate = .ok ()) :
    1 ≤ config.payloadChunkSize ∧ config.payloadChunkSize ≤ maxPayloadSize :=
  ⟨(limits_of_validate h).1, (limits_of_validate h).2.1⟩

/-- The clamp of `connect` leaves such a chunk size alone. -/
lemma SessionConfig.chunkSize_open {config : SessionConfig} (h : config.validate = .ok ())
    (kms : KmsSupport) (openedAt : ℕ) :
    (Channel.open (config.channelConfig kms openedAt)).chunkSize = config.payloadChunkSize := by
  obtain ⟨hone, hmax⟩ := chunkSize_of_validate h
  show max 1 (min config.payloadChunkSize maxPayloadSize) = config.payloadChunkSize
  omega

/-- The first chunk is the longest. -/
lemma chunks_eq_cons {size : ℕ} (hsize : 1 ≤ size) {data : Bytes} (hdata : data ≠ []) :
    ∃ rest, chunks size data = data.take size :: rest ∧
      (data.take size).length = min size data.length :=
  ⟨_, chunks_of_ne_nil hsize hdata, List.length_take⟩

/-- With chunks that are too long for what encryption adds, a call is refused. -/
lemma sendStreamData_refused {env : Env} {crypto : Option SessionCrypto} {size : ℕ}
    {contextAt : ℕ → SendContext} (haead : env.aead.Lawful)
    (hcrypto : ∀ c ∈ crypto, c.Negotiated) (hnumbers : ∀ i, 0 ≤ (contextAt i).sequence)
    (hsize : 1 ≤ size) (hmax : size ≤ maxPayloadSize) {data : Bytes}
    (hlong : maxPayloadSize < min size data.length + overhead crypto) :
    ¬ StreamAccepted env crypto (sendStreamData env crypto size contextAt data).1 data := by
  have hover := overhead_le crypto
  have hdata : data ≠ [] := by
    rintro rfl
    have h28 : 28 < maxPayloadSize := by decide
    simp only [List.length_nil] at hlong
    omega
  obtain ⟨rest, hchunks, hlength⟩ := chunks_eq_cons hsize hdata
  rw [sendStreamData, hchunks]
  apply sendChunks_refused haead hcrypto hnumbers
  · omega
  · omega

/-- **Accepted by its own parser.**  Under a configuration that passes the checks, the messages of a
call of `send_stream_data` parse, are within the limit and carry the bytes that were sent, exactly
when there is no cipher or the longest chunk of the call leaves room for nonce and tag. -/
theorem sendStreamData_accepted_iff (env : Env) (haead : env.aead.Lawful) (config : SessionConfig)
    (hconfig : config.validate = .ok ()) (kms : KmsSupport) (openedAt : ℕ)
    (crypto : Option SessionCrypto) (hcrypto : ∀ c ∈ crypto, c.Negotiated)
    (contextAt : ℕ → SendContext) (hnumbers : ∀ i, 0 ≤ (contextAt i).sequence) (data : Bytes) :
    StreamAccepted env crypto (sendStreamData env crypto
        (Channel.open (config.channelConfig kms openedAt)).chunkSize contextAt data).1 data ↔
      crypto = none ∨
        min config.payloadChunkSize data.length + (nonceLen + tagLen) ≤ maxPayloadSize := by
  obtain ⟨hone, hmax⟩ := SessionConfig.chunkSize_of_validate hconfig
  rw [SessionConfig.chunkSize_open hconfig]
  have hroom : (crypto = none ∨
      min config.payloadChunkSize data.length + (nonceLen + tagLen) ≤ maxPayloadSize) ↔
      min config.payloadChunkSize data.length + overhead crypto ≤ maxPayloadSize := by
    cases crypto with
    | none =>
      have hle : min config.payloadChunkSize data.length ≤ maxPayloadSize := by omega
      simpa [overhead] using hle
    | some c => simp [overhead]
  rw [hroom]
  constructor
  · intro haccepted
    by_contra hlong
    exact sendStreamData_refused haead hcrypto hnumbers hone hmax (Nat.lt_of_not_le hlong) haccepted
  · intro hfits
    have hchunks : ∀ chunk ∈ chunks config.payloadChunkSize data,
        chunk.length + overhead crypto ≤ maxPayloadSize := by
      intro chunk hchunk
      have hle := length_le_of_mem_chunks hone hchunk
      omega
    have haccepted := sendChunks_accepted haead hcrypto hnumbers hchunks 0
    rwa [flatten_chunks hone] at haccepted

/-- A cipher built from a data key of sevens. -/
def sampleCrypto : SessionCrypto := ⟨[9], List.replicate 32 7, List.replicate 32 7⟩

lemma sampleCrypto_negotiated : ∀ c ∈ some sampleCrypto, c.Negotiated := by
  intro c hc
  cases hc
  exact ⟨List.replicate 64 7, [9], rfl⟩

lemma sampleEnv_lawful : sampleEnv.aead.Lawful := by
  intro key nonce plaintext _ _ _
  refine ⟨_, rfl, ?_, ?_⟩
  · simp [tagLen]
  · simp [sampleEnv, tagLen]

/-- Messages that are numbered from zero. -/
def sampleContext (i : ℕ) : SendContext := ⟨if i = 0 then 0 else 1, toArray _ [], ⟨0, toArray _ []⟩⟩

lemma sampleContext_sequence (i : ℕ) : 0 ≤ (sampleContext i).sequence := by
  simp only [sampleContext]
  split <;> decide

/-- A configuration that passes the checks. -/
def sampleSessionConfig (payloadChunkSize : ℕ) : SessionConfig :=
  ⟨"i-0", none, 30000000000, 120000000000, payloadChunkSize, 64⟩

/-- Three bytes in chunks of two, encrypted. -/
theorem sendStreamData_accepted_encrypted :
    StreamAccepted sampleEnv (some sampleCrypto) (sendStreamData sampleEnv (some sampleCrypto)
      (Channel.open ((sampleSessionConfig 2).channelConfig .notCompiled 0)).chunkSize sampleContext
      [97, 98, 99]).1 [97, 98, 99] :=
  (sendStreamData_accepted_iff sampleEnv sampleEnv_lawful (sampleSessionConfig 2) (by decide)
    .notCompiled 0 (some sampleCrypto) sampleCrypto_negotiated sampleContext sampleContext_sequence
    [97, 98, 99]).mpr (Or.inr (by decide))

/-- A chunk of the largest size is accepted by the checks, and refused by the parser once it is
encrypted. -/
theorem sendStreamData_refused_encrypted :
    (sampleSessionConfig maxPayloadSize).validate = .ok () ∧
      ¬ StreamAccepted sampleEnv (some sampleCrypto) (sendStreamData sampleEnv (some sampleCrypto)
        (Channel.open ((sampleSessionConfig maxPayloadSize).channelConfig .notCompiled 0)).chunkSize
        sampleContext (List.replicate maxPayloadSize 0)).1 (List.replicate maxPayloadSize 0) := by
  have hvalid : (sampleSessionConfig maxPayloadSize).validate = .ok () := by decide
  refine ⟨hvalid, ?_⟩
  rw [SessionConfig.chunkSize_open hvalid]
  apply sendStreamData_refused sampleEnv_lawful sampleCrypto_negotiated sampleContext_sequence
  · decide
  · exact Nat.le_refl _
  · rw [List.length_replicate]
    show maxPayloadSize < min maxPayloadSize maxPayloadSize + 28
    omega

end SsmBridge
