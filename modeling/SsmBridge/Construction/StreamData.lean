import SsmBridge.Construction.System
import SsmBridge.Framework.Chunks

/-!
# Sending caller data

The model of `SessionConfig::validate` in `src/session.rs` and, as one function, of
`send_stream_data` and `send_payload` in `src/connection.rs`: the messages that one call puts on
the wire.  In `Channel` the same call is cut into the steps between which other tasks come in;
here what those tasks decide is an argument, `SendContext`, one for each message.
-/

namespace SsmBridge

open Chunks

/-! ## The configuration -/

/-- Longest target that `ssm:StartSession` accepts, in characters. -/
def maxTargetChars : ℕ := 400

/-- Longest reason that `ssm:StartSession` accepts, in characters. -/
def maxReasonChars : ℕ := 256

/-- The configuration of one session; durations are in nanoseconds. -/
structure SessionConfig where
  target : String
  reason : Option String
  heartbeatInterval : ℕ
  /-- Declare the connection dead after this long with no inbound traffic. -/
  idleTimeout : ℕ
  /-- Bytes per protocol message when splitting caller data. -/
  payloadChunkSize : ℕ
  /-- Queue depth for each subscriber, in messages. -/
  outputBuffer : ℕ
  deriving DecidableEq

namespace SessionConfig

/-- The checks on the reason, when there is one. -/
def validateReason : Option String → Except Error Unit
  | none => .ok ()
  | some reason =>
      let reasonChars := reason.length
      if reasonChars = 0 then .error (.config "reason must not be empty; leave it unset instead")
      else if maxReasonChars < reasonChars then
        .error (.config
          s!"reason is {reasonChars} characters; ssm:StartSession accepts at most {maxReasonChars}")
      else .ok ()

/-- The checks on the sizes and times. -/
def validateLimits (config : SessionConfig) : Except Error Unit :=
  if config.payloadChunkSize = 0 then .error (.config "payload_chunk_size must be at least 1")
  else if maxPayloadSize < config.payloadChunkSize then
    let size := config.payloadChunkSize
    .error (.config
      s!"payload_chunk_size {size} exceeds the {maxPayloadSize}-byte protocol limit")
  else if config.idleTimeout ≤ config.heartbeatInterval then
    let idle := durationDebug config.idleTimeout
    let heartbeat := durationDebug config.heartbeatInterval
    .error (.config (s!"idle_timeout ({idle}) must exceed heartbeat_interval ({heartbeat}), " ++
      "otherwise a healthy connection is declared dead between pings"))
  else .ok ()

/-- Refuse a configuration that cannot work. -/
def validate (config : SessionConfig) : Except Error Unit :=
  -- Length only, never a pattern: the service decides what a target looks like.
  let targetChars := config.target.length
  if trim config.target = "" then .error (.config "target must not be empty")
  else if maxTargetChars < targetChars then
    .error (.config
      s!"target is {targetChars} characters; ssm:StartSession accepts at most {maxTargetChars}")
  else
    match validateReason config.reason with
    | .error e => .error e
    | .ok () => config.validateLimits

/-- What `Session::open` hands on to the data channel. -/
def channelConfig (config : SessionConfig) (kms : KmsSupport) (openedAt : ℕ) : ChannelConfig where
  kms := kms
  outputBuffer := config.outputBuffer
  payloadChunkSize := config.payloadChunkSize
  idleTimeout := config.idleTimeout
  openedAt := openedAt

end SessionConfig

/-! ## One call -/

/-- What one call of `send_payload` finds around it: the number it is given under the lock, the
random nonce, the clock and a fresh UUID. -/
structure SendContext where
  sequence : Int64
  nonce : Nonce
  stamp : Stamp

/-- Encrypt if required; only stream output is. -/
def encryptIfNeeded (env : Env) (crypto : Option SessionCrypto) (nonce : Nonce)
    (payloadType : PayloadType) (payload : Bytes) : Except Error Bytes :=
  match payloadType, crypto with
  | .output, some c => c.encrypt env.aead nonce payload
  | _, _ => .ok payload

/-- The message that a call of `send_payload` writes. -/
def sendPayload (env : Env) (crypto : Option SessionCrypto) (x : SendContext)
    (payloadType : PayloadType) (payload : Bytes) : Except Error Bytes :=
  match encryptIfNeeded env crypto x.nonce payloadType payload with
  | .error e => .error e
  | .ok payload =>
      .ok (ClientMessage.new env.sha256 x.stamp .inputStreamData x.sequence payloadType
        payload).serialize

/-- Send one chunk after the other; the first failure ends the call. -/
def sendChunks (env : Env) (crypto : Option SessionCrypto) (contextAt : ℕ → SendContext) :
    ℕ → List Bytes → List Bytes × Except Error Unit
  | _, [] => ([], .ok ())
  | i, chunk :: rest =>
      match sendPayload env crypto (contextAt i) .output chunk with
      | .error e => ([], .error e)
      | .ok wire =>
          let sent := sendChunks env crypto contextAt (i + 1) rest
          (wire :: sent.1, sent.2)

/-- Split caller data into protocol-sized chunks and send each one: the messages written, and the
result. -/
def sendStreamData (env : Env) (crypto : Option SessionCrypto) (chunkSize : ℕ)
    (contextAt : ℕ → SendContext) (data : Bytes) : List Bytes × Except Error Unit :=
  sendChunks env crypto contextAt 0 (chunks chunkSize data)

end SsmBridge
