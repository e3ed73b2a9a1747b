import SsmBridge.Construction.Crypto

/-!
# The agent handshake

The model of `src/handshake.rs`: the request the agent opens a session with, the response the
client answers it with, and `HandshakeHandler`, the state machine between them.

JSON is the parameter `HandshakeCodec`: the `serde_json` conversions the source calls, with their
error texts.  The KMS call of a `KMSEncryption` action is answered by an oracle indexed by the call
number, so `onRequest` threads the number of calls made so far; an `await` inside it suspends the
reader but shares nothing, so the whole request is one function.

The `kms` feature decides what `handle_kms_encryption` is.  `KmsSupport` covers both builds: a build
without the feature, a handler created without a KMS client, and a handler that has one.
-/

namespace SsmBridge

/-! ## Wire types -/

/-- Version this client reports to the agent in its handshake response. -/
def clientProtocolVersion : String := "1.2.764.0"

/-- An action the agent asks the client to perform during the handshake. -/
inductive ActionType
  | kmsEncryption
  | sessionType
  deriving DecidableEq, Repr

/-- Outcome of a requested action, as reported back to the agent. -/
inductive ActionStatus
  | success
  | failed
  | unsupported
  deriving DecidableEq, Repr

/-- The kind of session the agent negotiated. -/
inductive NegotiatedSessionType
  | standardStream
  | interactiveCommands
  | port
  deriving DecidableEq, Repr

/-- The spelling of a session type on the wire. -/
def NegotiatedSessionType.parse (raw : String) : Option NegotiatedSessionType :=
  if raw = "Standard_Stream" then some .standardStream
  else if raw = "InteractiveCommands" then some .interactiveCommands
  else if raw = "Port" then some .port
  else none

/-- A JSON value the client passes through without looking inside. -/
structure JsonValue where
  text : String
  deriving DecidableEq, Repr

/-- One entry of `RequestedClientActions`. -/
structure RequestedClientAction where
  actionType : ActionType
  actionParameters : JsonValue
  deriving DecidableEq, Repr

/-- The agent's handshake request. -/
structure HandshakeRequest where
  agentVersion : String
  requestedClientActions : List RequestedClientAction
  deriving DecidableEq, Repr

/-- One entry of `ProcessedClientActions`. -/
structure ProcessedClientAction where
  actionType : ActionType
  actionStatus : ActionStatus
  actionResult : Option JsonValue
  error : Option String
  deriving DecidableEq, Repr

/-- The client's handshake response. -/
structure HandshakeResponse where
  clientVersion : String
  processedClientActions : List ProcessedClientAction
  errors : List String
  deriving DecidableEq, Repr

/-- The agent's confirmation that the handshake finished. -/
structure HandshakeComplete where
  handshakeTimeToComplete : Int64
  customerMessage : Option String
  deriving DecidableEq

/-- The `serde_json` conversions of the handshake messages, with the text of their errors. -/
structure HandshakeCodec where
  /-- `from_slice::<HandshakeRequest>`. -/
  request : Bytes → Except String HandshakeRequest
  /-- `from_slice::<HandshakeComplete>`. -/
  complete : Bytes → Except String HandshakeComplete
  /-- `from_slice::<EncryptionChallengeRequest>`, down to its challenge bytes. -/
  challenge : Bytes → Except String Bytes
  /-- `from_value::<SessionTypeRequest>`, down to its session type. -/
  sessionType : JsonValue → Except String String
  /-- `from_value::<KmsEncryptionRequest>`, down to its key id. -/
  kmsKeyId : JsonValue → Except String String
  /-- `to_value(KmsEncryptionResponse)`. -/
  kmsCipherTextKey : Bytes → JsonValue
  /-- `response_payload`. -/
  response : HandshakeResponse → Except Error Bytes
  /-- `to_vec(EncryptionChallengeResponse)`. -/
  challengeResponse : Bytes → Except Error Bytes

/-! ## The handler -/

/-- Where the handshake has got to. -/
inductive HandshakeState
  | awaitingRequest
  | awaitingComplete
  | completed
  | failed
  deriving DecidableEq, Repr

/-- The `Debug` rendering that reaches the error text of `on_complete`. -/
def HandshakeState.debug : HandshakeState → String
  | .awaitingRequest => "AwaitingRequest"
  | .awaitingComplete => "AwaitingComplete"
  | .completed => "Completed"
  | .failed => "Failed"

/-- The session a KMS data key is negotiated for. -/
structure KmsContext where
  sessionId : String
  targetId : String
  deriving DecidableEq, Repr

/-- What the handler can do about a `KMSEncryption` action. -/
inductive KmsSupport
  /-- The build has no `kms` feature. -/
  | notCompiled
  /-- The handler was created without a KMS client. -/
  | noClient
  | client (context : KmsContext)
  deriving DecidableEq, Repr

/-- Drives the handshake and, when the agent asks for it, session encryption. -/
structure HandshakeHandler where
  state : HandshakeState
  agentVersion : Option String
  sessionType : Option NegotiatedSessionType
  kms : KmsSupport
  crypto : Option SessionCrypto
  deriving DecidableEq

/-- The answers of `kms:GenerateDataKey`: call number, key id and encryption context. -/
abbrev KmsOracle := ℕ → String → KmsContext → Except Error DataKey

/-- A successful action. -/
def success (actionType : ActionType) (result : Option JsonValue) : ProcessedClientAction :=
  { actionType, actionStatus := .success, actionResult := result, error := none }

/-- A failed action. -/
def failure (actionType : ActionType) (message : String) : ProcessedClientAction :=
  { actionType, actionStatus := .failed, actionResult := none, error := some message }

namespace HandshakeHandler

/-- A handler that has seen nothing. -/
def new (kms : KmsSupport) : HandshakeHandler :=
  { state := .awaitingRequest, agentVersion := none, sessionType := none, kms, crypto := none }

/-- Note the session type; an unknown one is taken for a shell. -/
def handleSessionType (codec : HandshakeCodec) (h : HandshakeHandler)
    (action : RequestedClientAction) : ProcessedClientAction × HandshakeHandler :=
  match codec.sessionType action.actionParameters with
  | .ok raw =>
      let negotiated := (NegotiatedSessionType.parse raw).getD .standardStream
      (success .sessionType none, { h with sessionType := some negotiated })
  | .error e => (failure .sessionType s!"could not parse SessionType parameters: {e}", h)

/-- Negotiate a session key with KMS; the result counts the KMS calls made so far. -/
def handleKmsEncryption (codec : HandshakeCodec) (kms : KmsOracle) (calls : ℕ)
    (h : HandshakeHandler) (action : RequestedClientAction) :
    ProcessedClientAction × HandshakeHandler × ℕ :=
  match h.kms with
  | .notCompiled =>
      ({ actionType := .kmsEncryption, actionStatus := .unsupported, actionResult := none
         error := some ("this build of aws-ssm-bridge was compiled without the \x60kms\x60 " ++
          "feature, but the session preferences require encrypted sessions. Rebuild with " ++
          "\x60--features kms\x60, or disable \"Encrypt session data\" in the Session Manager " ++
          "preferences.") }, h, calls)
  | .noClient =>
      (failure .kmsEncryption ("this session was created without a KMS client, so session " ++
        "encryption cannot be negotiated"), h, calls)
  | .client context =>
      match codec.kmsKeyId action.actionParameters with
      | .error e =>
          (failure .kmsEncryption s!"could not parse KMSEncryption parameters: {e}", h, calls)
      | .ok keyId =>
          match SessionCrypto.negotiate (kms calls keyId context) with
          | .ok crypto =>
              (success .kmsEncryption (some (codec.kmsCipherTextKey crypto.cipherTextBlob)),
                { h with crypto := some crypto }, calls + 1)
          | .error e =>
              (failure .kmsEncryption (s!"kms:GenerateDataKey failed for key {keyId}: " ++
                e.display ++ ". The caller needs kms:GenerateDataKey on this key, and the " ++
                "target's instance profile needs kms:Decrypt."), h, calls + 1)

/-- Perform the requested actions in order. -/
def processActions (codec : HandshakeCodec) (kms : KmsOracle) :
    ℕ → HandshakeHandler → List RequestedClientAction →
    List ProcessedClientAction × HandshakeHandler × ℕ
  | calls, h, [] => ([], h, calls)
  | calls, h, action :: rest =>
      let (result, h, calls) :=
        match action.actionType with
        | .sessionType =>
            let (result, h) := handleSessionType codec h action
            (result, h, calls)
        | .kmsEncryption => handleKmsEncryption codec kms calls h action
      let (results, h, calls) := processActions codec kms calls h rest
      (result :: results, h, calls)

/-- Process a `HandshakeRequest` and produce the response to send back; `none` for a duplicate
received after the response was already sent. -/
def onRequest (codec : HandshakeCodec) (kms : KmsOracle) (calls : ℕ) (h : HandshakeHandler)
    (request : HandshakeRequest) :
    Except Error (Option HandshakeResponse) × HandshakeHandler × ℕ :=
  match h.state with
  | .awaitingComplete | .completed => (.ok none, h, calls)
  | .failed =>
      (.error (.protocol "HandshakeRequest received after the handshake already failed"), h, calls)
  | .awaitingRequest =>
      let h := { h with agentVersion := some request.agentVersion }
      let (processed, h, calls) := processActions codec kms calls h request.requestedClientActions
      let state :=
        if processed.any (fun a => decide (a.actionStatus ≠ .success)) then .failed
        else .awaitingComplete
      (.ok (some
        { clientVersion := clientProtocolVersion
          processedClientActions := processed
          errors := processed.filterMap (·.error) }), { h with state }, calls)

/-- Process a `HandshakeComplete`, returning the agent's operator message. -/
def onComplete (h : HandshakeHandler) (complete : HandshakeComplete) :
    Except Error (Option String) × HandshakeHandler :=
  if h.state ≠ .awaitingComplete then
    (.error (.protocol s!"HandshakeComplete received in state {h.state.debug}"), h)
  else
    -- Go serialises an absent banner as the empty string.
    (.ok (complete.customerMessage.filter (fun m => decide (m ≠ ""))), { h with state := .completed })

/-- Answer an encryption challenge: decrypt with the inbound key, re-encrypt with the outbound
one. -/
def answerChallenge (aead : Aead) (nonce : Nonce) (h : HandshakeHandler) (challenge : Bytes) :
    Except Error Bytes :=
  match h.crypto with
  | none =>
      .error (.protocol "agent sent an encryption challenge but no key was negotiated")
  | some crypto =>
      match crypto.decrypt aead challenge with
      | .error e => .error e
      | .ok plaintext => crypto.encrypt aead nonce plaintext

end HandshakeHandler

end SsmBridge
