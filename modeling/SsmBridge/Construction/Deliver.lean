import SsmBridge.Construction.Ack
import SsmBridge.Construction.Handshake
import SsmBridge.Construction.Session

/-!
# Acting on one in-order message

The model of `deliver` in `src/connection.rs`.  The function awaits in two places: a handshake
request may call KMS, and a reply goes through `send_payload`.  It is therefore cut there into
`deliver`, `requestDone` and `replySent`.  The first says whether the delivery makes `Progress` or
has a request to process, the second makes progress on the request, and progress is either the end
of the delivery or a reply to send, after which `replySent` ends it.

What the parts read and write is `ReaderView`: the handshake handler, which belongs to the reader,
the session core, and the cipher cell of the `Continuity`.
-/

namespace SsmBridge

/-- The payload of a `channel_closed` message. -/
structure ChannelClosed where
  output : Option String
  deriving DecidableEq

/-- The code the client relies on and does not contain: hashing, encryption, JSON, KMS. -/
structure Env where
  sha256 : Bytes → Digest
  aead : Aead
  codec : HandshakeCodec
  kms : KmsOracle
  /-- `serde_json::to_vec(AcknowledgeContent)`. -/
  ackJson : AcknowledgeContent → Bytes
  /-- `ack::parse_ack`, down to the acknowledged number. -/
  parseAck : Bytes → Except String Int64
  /-- `serde_json::from_slice::<ChannelClosed>`. -/
  channelClosed : Bytes → Option ChannelClosed

/-- The part of the client a delivery reads and writes, besides the outbound path. -/
structure ReaderView where
  handshake : HandshakeHandler
  core : SessionCore
  /-- `Continuity::crypto`. -/
  crypto : Option SessionCrypto
  deriving DecidableEq

/-- What is left to do once a reply has been handed to the writer. -/
inductive AfterReply
  /-- The handshake failed: end the session with the collected errors. -/
  | fail (errors : String)
  /-- The handshake succeeded: publish the agent version and install the cipher. -/
  | install
  /-- An encryption challenge was answered. -/
  | answered
  deriving DecidableEq

/-- A delivery that is over, or has a reply to send. -/
inductive Progress
  | finished (result : Except Error Unit)
  | reply (payloadType : PayloadType) (payload : Bytes) (after : AfterReply)
  deriving DecidableEq

/-- How a delivery goes on from its start. -/
inductive Delivery
  | progress (progress : Progress)
  | request (request : HandshakeRequest)
  deriving DecidableEq

/-- The digits of `parse::<i32>`. -/
def parseDigits (digits : List Char) : Option ℕ :=
  if digits.isEmpty then none
  else if digits.all Char.isDigit then
    some (digits.foldl (fun acc c => acc * 10 + (c.toNat - '0'.toNat)) 0)
  else none

/-- `str::parse::<i32>`: an optional sign, digits, and the range check. -/
def parseI32 (text : List Char) : Option ℤ :=
  let value : Option ℤ :=
    match text with
    | '-' :: digits => (parseDigits digits).map (fun n => -(n : ℤ))
    | '+' :: digits => (parseDigits digits).map (fun n => (n : ℤ))
    | digits => (parseDigits digits).map (fun n => (n : ℤ))
  value.filter (fun v => decide (-2 ^ 31 ≤ v ∧ v < 2 ^ 31))

/-- The exit status in an `exit_code` payload. -/
def parseExitCode (payload : Bytes) : Option ℤ :=
  (fromUtf8 payload).toOption.bind (fun text => parseI32 (trimMatches isWhitespace text))

/-- Decrypt a payload of an encrypted type once a cipher is installed. -/
def decryptIfNeeded (env : Env) (crypto : Option SessionCrypto) (m : ClientMessage) :
    Except Error Bytes :=
  match crypto with
  | some c =>
      if m.payloadType.isEncryptedInbound then c.decrypt env.aead m.payload else .ok m.payload
  | none => .ok m.payload

/-- Act on one in-order message, up to its first `await`; the payload of an output message is
returned next to the new state. -/
def deliver (env : Env) (nonce : Nonce) (v : ReaderView) (m : ClientMessage) :
    Delivery × ReaderView × Option Bytes :=
  match m.payloadType with
  | .output | .stdErr | .undefined =>
      -- Output before any handshake comes from an agent that starts streaming immediately.
      let v := { v with core := v.core.setSendable true }
      if m.payload = [] then (.progress (.finished (.ok ())), v, none)
      else
        match decryptIfNeeded env v.crypto m with
        | .error e => (.progress (.finished (.error e)), v, none)
        | .ok payload =>
            (.progress (.finished (.ok ())), { v with core := v.core.emitOutput payload },
              some payload)
  | .handshakeRequest =>
      match env.codec.request m.payload with
      | .error e =>
          (.progress (.finished (.error (.protocol s!"malformed HandshakeRequest: {e}"))), v, none)
      | .ok request => (.request request, v, none)
  | .handshakeComplete =>
      match env.codec.complete m.payload with
      | .error e =>
          (.progress (.finished (.error (.protocol s!"malformed HandshakeComplete: {e}"))), v, none)
      | .ok complete =>
          match v.handshake.onComplete complete with
          | (.error e, handshake) => (.progress (.finished (.error e)), { v with handshake }, none)
          | (.ok banner, handshake) =>
              (.progress (.finished (.ok ())),
                { v with handshake, core := (v.core.setSessionBanner banner).setSendable true },
                none)
  | .encChallengeRequest =>
      match env.codec.challenge m.payload with
      | .error e =>
          (.progress (.finished (.error (.protocol s!"malformed encryption challenge: {e}"))), v,
            none)
      | .ok challenge =>
          match v.handshake.answerChallenge env.aead nonce challenge with
          | .error e => (.progress (.finished (.error e)), v, none)
          | .ok response =>
              match env.codec.challengeResponse response with
              | .error e => (.progress (.finished (.error e)), v, none)
              | .ok payload => (.progress (.reply .encChallengeResponse payload .answered), v, none)
  | .exitCode =>
      match decryptIfNeeded env v.crypto m with
      | .error e => (.progress (.finished (.error e)), v, none)
      | .ok payload =>
          (.progress (.finished (.ok ())),
            { v with core := v.core.setExitCode (parseExitCode payload) }, none)
  | .flag =>
      match ControlFlag.fromPayload m.payload with
      | some .terminateSession =>
          (.progress (.finished (.ok ())),
            { v with core := v.core.close (.agentClosed v.core.exitCode none) }, none)
      | _ => (.progress (.finished (.ok ())), v, none)
  | .error | .size | .parameter | .handshakeResponse | .encChallengeResponse =>
      (.progress (.finished (.ok ())), v, none)

/-- The rest of a handshake request once its actions were performed; `calls` numbers the KMS
calls. -/
def requestDone (env : Env) (calls : ℕ) (v : ReaderView) (request : HandshakeRequest) :
    Progress × ReaderView × ℕ :=
  match v.handshake.onRequest env.codec env.kms calls request with
  | (.error e, handshake, calls) => (.finished (.error e), { v with handshake }, calls)
  -- A duplicate: the response was already sent.
  | (.ok none, handshake, calls) => (.finished (.ok ()), { v with handshake }, calls)
  | (.ok (some response), handshake, calls) =>
      let after : AfterReply :=
        if handshake.state = .failed then .fail ("; ".intercalate response.errors) else .install
      -- The response is sent even when actions failed.
      match env.codec.response response with
      | .error e => (.finished (.error e), { v with handshake }, calls)
      | .ok payload => (.reply .handshakeResponse payload after, { v with handshake }, calls)

/-- The rest of a delivery once its reply was handed to the writer.  The cipher cell is written
once: a second cipher is ignored. -/
def replySent (v : ReaderView) : AfterReply → Except Error Unit × ReaderView
  | .fail errors => (.error (.unsupported errors), v)
  | .install =>
      (.ok (), { v with core := v.core.setAgentVersion v.handshake.agentVersion
                        crypto := v.crypto <|> v.handshake.crypto })
  | .answered => (.ok (), v)

/-! ## A concrete environment -/

/-- The handshake request `{"AgentVersion":"3.3.0","RequestedClientActions":[]}`. -/
def plainRequestJson : Bytes :=
  [123, 34, 65, 103, 101, 110, 116, 86, 101, 114, 115, 105, 111, 110, 34, 58, 34, 51, 46, 51,
   46, 48, 34, 44, 34, 82, 101, 113, 117, 101, 115, 116, 101, 100, 67, 108, 105, 101, 110, 116,
   65, 99, 116, 105, 111, 110, 115, 34, 58, 91, 93, 125]

/-- The handshake request with a `KMSEncryption` action for the key `k`. -/
def kmsRequestJson : Bytes :=
  [123, 34, 65, 103, 101, 110, 116, 86, 101, 114, 115, 105, 111, 110, 34, 58, 34, 51, 46, 51,
   46, 48, 34, 44, 34, 82, 101, 113, 117, 101, 115, 116, 101, 100, 67, 108, 105, 101, 110, 116,
   65, 99, 116, 105, 111, 110, 115, 34, 58, 91, 123, 34, 65, 99, 116, 105, 111, 110, 84, 121,
   112, 101, 34, 58, 34, 75, 77, 83, 69, 110, 99, 114, 121, 112, 116, 105, 111, 110, 34, 44, 34,
   65, 99, 116, 105, 111, 110, 80, 97, 114, 97, 109, 101, 116, 101, 114, 115, 34, 58, 123, 34,
   75, 77, 83, 75, 101, 121, 73, 100, 34, 58, 34, 107, 34, 125, 125, 93, 125]

/-- The completion `{"HandshakeTimeToComplete":1}`. -/
def completeJson : Bytes :=
  [123, 34, 72, 97, 110, 100, 115, 104, 97, 107, 101, 84, 105, 109, 101, 84, 111, 67, 111, 109,
   112, 108, 101, 116, 101, 34, 58, 49, 125]

/-- The response `{"ClientVersion":"1.2.764.0","ProcessedClientActions":[],"Errors":[]}`. -/
def plainResponseJson : Bytes :=
  [123, 34, 67, 108, 105, 101, 110, 116, 86, 101, 114, 115, 105, 111, 110, 34, 58, 34, 49, 46,
   50, 46, 55, 54, 52, 46, 48, 34, 44, 34, 80, 114, 111, 99, 101, 115, 115, 101, 100, 67, 108,
   105, 101, 110, 116, 65, 99, 116, 105, 111, 110, 115, 34, 58, 91, 93, 44, 34, 69, 114, 114,
   111, 114, 115, 34, 58, 91, 93, 125]

/-- An environment that knows the handshake messages above, and a KMS that hands out one data
key. -/
def sampleEnv : Env where
  sha256 _ := toArray _ []
  aead := ⟨fun _ _ p => some (p ++ List.replicate tagLen 0),
    fun _ _ c => some (c.take (c.length - tagLen))⟩
  codec :=
    { request := fun b =>
        if b = plainRequestJson then .ok ⟨"3.3.0", []⟩
        else if b = kmsRequestJson then .ok ⟨"3.3.0", [⟨.kmsEncryption, ⟨"KMSKeyId k"⟩⟩]⟩
        else .error "expected value at line 1 column 1"
      complete := fun b =>
        if b = completeJson then .ok ⟨1, none⟩ else .error "expected value at line 1 column 1"
      challenge := fun _ => .error "expected value at line 1 column 1"
      sessionType := fun _ => .error "missing field SessionType"
      kmsKeyId := fun _ => .ok "k"
      kmsCipherTextKey := fun _ => ⟨"KMSCipherTextKey"⟩
      response := fun _ => .ok plainResponseJson
      challengeResponse := fun c => .ok c }
  kms _ _ _ := .ok ⟨some (List.replicate dataKeyBytes 7), some [9]⟩
  ackJson _ := []
  parseAck _ := .error "expected value at line 1 column 1"
  channelClosed _ := none

/-- A message of the agent's stream, with everything but its number, type and payload zero. -/
def agentMessage (n : Int64) (payloadType : PayloadType) (payload : Bytes) : ClientMessage :=
  ClientMessage.new sampleEnv.sha256 ⟨0, toArray _ []⟩ .outputStreamData n payloadType payload

end SsmBridge
