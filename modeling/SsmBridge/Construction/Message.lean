import SsmBridge.Construction.Errors
import SsmBridge.Framework.BigEndian
import SsmBridge.Framework.Utf8
import Mathlib.Data.Vector.Basic

/-!
# The binary wire format

The model of `src/binary_protocol.rs`: a message on the data channel is a fixed 120-byte header
followed by a payload, all integers big-endian.

```text
offset  size  field
     0     4  HeaderLength   u32  always 116
     4    32  MessageType         ASCII, space-padded
    36     4  SchemaVersion  u32
    40     8  CreatedDate    u64
    48     8  SequenceNumber i64
    56     8  Flags          u64
    64    16  MessageId           UUID, least-significant half first
    80    32  PayloadDigest       SHA-256 of the payload
   112     4  PayloadType    u32
   116     4  PayloadLength  u32
   120     …  Payload
```

`ClientMessage.serialize` is the writer.  `ClientMessage.decode` is the reader, kept in the
cursor style of the source: each `get_*` consumes bytes from the front of what is left, and a
read past the end is a *panic*, which is a third outcome next to a message and a protocol error.
`Decoder` therefore stacks the cursor over `Except Error` over `Option`, where `none` is the
panic, and `ClientMessage.deserialize` runs it on a whole frame.

SHA-256 is a parameter throughout: nothing in the format depends on which function it is.
-/

namespace SsmBridge

open BigEndian

/-! ## Header constants -/

/-- Value of the `HeaderLength` field: the header size excluding the field itself. -/
def headerLength : ℕ := 116

/-- Total on-wire header size, including the `HeaderLength` field. -/
def headerSize : ℕ := 120

/-- Width of the `MessageType` field. -/
def messageTypeLen : ℕ := 32

/-- Width of the `MessageId` field. -/
def messageIdLen : ℕ := 16

/-- Width of the `PayloadDigest` field. -/
def digestLen : ℕ := 32

/-- Largest payload the client will emit or accept in a single message (10 MiB). -/
def maxPayloadSize : ℕ := 10 * 1024 * 1024

/-- A SHA-256 digest. -/
abbrev Digest := List.Vector UInt8 digestLen

/-- A UUID, as its sixteen bytes in RFC 4122 order. -/
abbrev Uuid := List.Vector UInt8 messageIdLen

/-! ## Message and payload types -/

/-- The `MessageType` header field. -/
inductive MessageType
  | inputStreamData
  | outputStreamData
  | acknowledge
  | channelClosed
  | startPublication
  | pausePublication
  deriving DecidableEq, Repr

/-- The on-wire ASCII name. -/
def MessageType.asStr : MessageType → String
  | .inputStreamData => "input_stream_data"
  | .outputStreamData => "output_stream_data"
  | .acknowledge => "acknowledge"
  | .channelClosed => "channel_closed"
  | .startPublication => "start_publication"
  | .pausePublication => "pause_publication"

/-- The message type an on-wire name denotes. -/
def MessageType.parse (s : String) : Option MessageType :=
  if s = "input_stream_data" then some .inputStreamData
  else if s = "output_stream_data" then some .outputStreamData
  else if s = "acknowledge" then some .acknowledge
  else if s = "channel_closed" then some .channelClosed
  else if s = "start_publication" then some .startPublication
  else if s = "pause_publication" then some .pausePublication
  else none

/-- The `PayloadType` header field: what the payload bytes mean. -/
inductive PayloadType
  | undefined
  | output
  | error
  | size
  | parameter
  | handshakeRequest
  | handshakeResponse
  | handshakeComplete
  | encChallengeRequest
  | encChallengeResponse
  | flag
  | stdErr
  | exitCode
  deriving DecidableEq, Repr

/-- The `repr(u32)` discriminant. -/
def PayloadType.toU32 : PayloadType → UInt32
  | .undefined => 0
  | .output => 1
  | .error => 2
  | .size => 3
  | .parameter => 4
  | .handshakeRequest => 5
  | .handshakeResponse => 6
  | .handshakeComplete => 7
  | .encChallengeRequest => 8
  | .encChallengeResponse => 9
  | .flag => 10
  | .stdErr => 11
  | .exitCode => 12

/-- Parse from the wire representation. -/
def PayloadType.fromU32 (value : UInt32) : Except Error PayloadType :=
  match value.toNat with
  | 0 => .ok .undefined
  | 1 => .ok .output
  | 2 => .ok .error
  | 3 => .ok .size
  | 4 => .ok .parameter
  | 5 => .ok .handshakeRequest
  | 6 => .ok .handshakeResponse
  | 7 => .ok .handshakeComplete
  | 8 => .ok .encChallengeRequest
  | 9 => .ok .encChallengeResponse
  | 10 => .ok .flag
  | 11 => .ok .stdErr
  | 12 => .ok .exitCode
  | _ => .error (.protocol s!"unknown PayloadType {value}")

/-- Whether the agent encrypts this payload once a session key is negotiated. -/
def PayloadType.isEncryptedInbound : PayloadType → Bool
  | .output | .stdErr | .exitCode => true
  | _ => false

/-- Payload of a `flag` message. -/
inductive ControlFlag
  | disconnectToPort
  | terminateSession
  | connectToPortError
  deriving DecidableEq, Repr

/-- Parse a big-endian `u32` flag payload; anything after the first four bytes is ignored. -/
def ControlFlag.fromPayload (payload : Bytes) : Option ControlFlag :=
  if payload.length < 4 then none
  else
    match beNat (payload.take 4) with
    | 1 => some .disconnectToPort
    | 2 => some .terminateSession
    | 3 => some .connectToPortError
    | _ => none

/-! ## The message -/

/-- A single message on the data channel. -/
structure ClientMessage where
  messageType : MessageType
  /-- Protocol schema version. -/
  schemaVersion : UInt32
  /-- Creation time, Unix milliseconds. -/
  createdDate : UInt64
  /-- Sequence number within this direction's stream. -/
  sequenceNumber : Int64
  /-- SYN/FIN bits. -/
  flags : UInt64
  /-- Unique identifier, echoed back in acknowledgements. -/
  messageId : Uuid
  /-- SHA-256 of the payload as it appears on the wire. -/
  payloadDigest : Digest
  payloadType : PayloadType
  payload : Bytes
  deriving DecidableEq

/-- What `ClientMessage::new` takes from the clock and the UUID generator. -/
structure Stamp where
  /-- Unix milliseconds. -/
  nowMillis : UInt64
  /-- A fresh version-4 UUID. -/
  uuid : Uuid
  deriving DecidableEq

/-- Build a message, computing the digest automatically. -/
def ClientMessage.new (sha256 : Bytes → Digest) (stamp : Stamp) (messageType : MessageType)
    (sequenceNumber : Int64) (payloadType : PayloadType) (payload : Bytes) : ClientMessage where
  messageType := messageType
  schemaVersion := 1
  createdDate := stamp.nowMillis
  sequenceNumber := sequenceNumber
  flags := 0
  messageId := stamp.uuid
  payloadDigest := sha256 payload
  payloadType := payloadType
  payload := payload

/-! ## Writing -/

/-- The type name in its 32-byte field, padded with spaces. -/
def paddedMessageType (messageType : MessageType) : Bytes :=
  let s := messageType.asStr.toUTF8.data.toList
  s ++ List.replicate (messageTypeLen - s.length) 32

/-- Encode to the on-wire byte representation. -/
def ClientMessage.serialize (m : ClientMessage) : Bytes :=
  beBytes 4 headerLength ++ (paddedMessageType m.messageType ++
    (beBytes 4 m.schemaVersion.toNat ++ (beBytes 8 m.createdDate.toNat ++
      (beBytes 8 m.sequenceNumber.toUInt64.toNat ++ (beBytes 8 m.flags.toNat ++
        -- Java long-pair order: the least-significant half of the UUID goes first.
        (m.messageId.toList.drop 8 ++ (m.messageId.toList.take 8 ++
          (m.payloadDigest.toList ++ (beBytes 4 m.payloadType.toU32.toNat ++
            (beBytes 4 m.payload.length ++ m.payload))))))))))

/-! ## Reading -/

/-- A reader with a cursor: it may panic (`none`), fail, or return a value and what is left. -/
abbrev Decoder := StateT Bytes (ExceptT Error Option)

/-- Consume `n` bytes; `bytes::Buf` panics when fewer remain. -/
def copyToSlice (n : ℕ) : Decoder Bytes := fun data =>
  if n ≤ data.length then some (.ok (data.take n, data.drop n)) else none

/-- Consume a big-endian `u32`. -/
def getU32 : Decoder UInt32 := do
  let bs ← copyToSlice 4
  return UInt32.ofNat (beNat bs)

/-- Consume a big-endian `u64`. -/
def getU64 : Decoder UInt64 := do
  let bs ← copyToSlice 8
  return UInt64.ofNat (beNat bs)

/-- Consume a big-endian two's-complement `i64`. -/
def getI64 : Decoder Int64 := do
  let v ← getU64
  return v.toInt64

/-- How many bytes the cursor has left. -/
def remaining : Decoder ℕ := fun data => some (.ok (data.length, data))

/-- `char::is_whitespace`: the Unicode `White_Space` property. -/
def isWhitespace (c : Char) : Bool :=
  let n := c.toNat
  (9 ≤ n && n ≤ 13) || n == 0x20 || n == 0x85 || n == 0xA0 || n == 0x1680 ||
    (0x2000 ≤ n && n ≤ 0x200A) || n == 0x2028 || n == 0x2029 || n == 0x202F ||
    n == 0x205F || n == 0x3000

/-- `str::from_utf8`, as the characters of the text. -/
def fromUtf8 (bytes : Bytes) : Except Utf8.Break (List Char) := Utf8.decode bytes

/-- The `Display` text of a `Utf8Error`. -/
def utf8ErrorText (e : Utf8.Break) : String :=
  match e.errorLen with
  | some n => s!"invalid utf-8 sequence of {n} bytes from index {e.validUpTo}"
  | none => s!"incomplete utf-8 byte sequence from index {e.validUpTo}"

/-- `str::trim_matches`: strip matching characters from both ends. -/
def trimMatches (p : Char → Bool) (text : List Char) : List Char :=
  (text.dropWhile p).rdropWhile p

/-- Agents pad with spaces; some builds pad with NULs. -/
def isTypePadding (c : Char) : Bool := c.toNat == 0 || isWhitespace c

/-- Whether `Debug` shows a character as it is. Outside ASCII this keeps of the Unicode tables what
tells blanks, combining marks, format characters and private use apart from letters and signs. -/
def isPrintable (c : Char) : Bool :=
  let n := c.toNat
  let combining := 0x300 ≤ n && n ≤ 0x36F
  let format := n == 0xAD || (0x200B ≤ n && n ≤ 0x200F) || (0x202A ≤ n && n ≤ 0x202E) ||
    (0x2060 ≤ n && n ≤ 0x206F) || n == 0xFEFF
  let privateUse := 0xE000 ≤ n && n ≤ 0xF8FF
  n == 0x20 ||
    !(n < 0x20 || (0x7F ≤ n && n < 0xA0) || isWhitespace c || combining || format || privateUse)

/-- What `Debug` writes for a character of a string. -/
def escapeDebug (c : Char) : List Char :=
  if c.toNat = 0 then ['\\', '0']
  else if c = '\t' then ['\\', 't']
  else if c = '\r' then ['\\', 'r']
  else if c = '\n' then ['\\', 'n']
  else if c = '\\' || c = '"' then ['\\', c]
  else if isPrintable c then [c]
  else ['\\', 'u', '\x7b'] ++ Nat.toDigits 16 c.toNat ++ ['\x7d']

/-- The `Debug` text of a string. -/
def debugText (text : List Char) : String :=
  String.ofList ('"' :: text.flatMap escapeDebug ++ ['"'])

/-- The message type named by the 32-byte header field. -/
def parseMessageType (bytes : Bytes) : Except Error MessageType :=
  match fromUtf8 bytes with
  | .error e =>
      let reason := utf8ErrorText e
      .error (.protocol s!"MessageType is not valid UTF-8: {reason}")
  | .ok text =>
      let name := trimMatches isTypePadding text
      match MessageType.parse (String.ofList name) with
      | some messageType => .ok messageType
      | none =>
          let shown := debugText name
          .error (.protocol s!"unknown MessageType {shown}")

example : parseMessageType [0x66, 0x22, 0x07, 0x20] =
      .error (.protocol "unknown MessageType \"f\\\"\\u\x7b7\x7d\"") ∧
    parseMessageType [0x61, 0xFF] =
      .error (.protocol
        "MessageType is not valid UTF-8: invalid utf-8 sequence of 1 bytes from index 1") := by
  decide +kernel

/-- The semantic checks every message but the two publication controls must pass. -/
def ClientMessage.validate (sha256 : Bytes → Digest) (m : ClientMessage) : Except Error Unit :=
  match m.messageType with
  -- Publication control messages carry no payload and no digest.
  | .startPublication | .pausePublication => .ok ()
  | _ =>
      if m.sequenceNumber < 0 then
        .error (.protocol s!"negative sequence number {m.sequenceNumber.toInt}")
      -- A zero-length payload has no digest to check.
      else if m.payload ≠ [] ∧ sha256 m.payload ≠ m.payloadDigest then
        .error (.protocol
          s!"payload digest mismatch on {m.messageType.asStr} seq {m.sequenceNumber.toInt}")
      else .ok ()

/-- A zero-initialised array of `n` bytes with the given bytes copied to its front. -/
def toArray (n : ℕ) (bs : Bytes) : List.Vector UInt8 n :=
  ⟨(bs ++ List.replicate n 0).take n, by simp⟩

/-- The cursor program of `ClientMessage::deserialize`. -/
def ClientMessage.decode (sha256 : Bytes → Digest) : Decoder ClientMessage := do
  let total ← remaining
  if total < headerSize then
    throw (.protocol s!"message truncated: {total} bytes, need at least {headerSize}")
  else
    let headerLen ← getU32
    if headerLen.toNat ≠ headerLength then
      throw (.protocol s!"bad HeaderLength {headerLen}, expected {headerLength}")
    else
      let typeBytes ← copyToSlice messageTypeLen
      let messageType ← liftM (parseMessageType typeBytes)
      let schemaVersion ← getU32
      let createdDate ← getU64
      let sequenceNumber ← getI64
      let flags ← getU64
      let wireUuid ← copyToSlice messageIdLen
      let messageId : Uuid := toArray _ (wireUuid.drop 8 ++ wireUuid.take 8)
      let digest ← copyToSlice digestLen
      let payloadCode ← getU32
      let payloadType ← liftM (PayloadType.fromU32 payloadCode)
      let payloadLength ← getU32
      -- The declared length is checked before anything is copied.
      if maxPayloadSize < payloadLength.toNat then
        throw (.protocol
          s!"declared payload of {payloadLength} bytes exceeds the {maxPayloadSize}-byte limit")
      else
        let left ← remaining
        if left < payloadLength.toNat then
          throw (.protocol s!"declared payload of {payloadLength} bytes but only {left} remain")
        else
          let payload ← copyToSlice payloadLength.toNat
          let m : ClientMessage :=
            { messageType, schemaVersion, createdDate, sequenceNumber, flags, messageId,
              payloadDigest := toArray _ digest, payloadType, payload }
          liftM (m.validate sha256)
          return m

/-- Decode a frame: `none` is a panic, `some (.error e)` a protocol violation. -/
def ClientMessage.deserialize (sha256 : Bytes → Digest) (data : Bytes) :
    Option (Except Error ClientMessage) :=
  let run : Option (Except Error (ClientMessage × Bytes)) := ClientMessage.decode sha256 data
  run.map (Except.map Prod.fst)

end SsmBridge
