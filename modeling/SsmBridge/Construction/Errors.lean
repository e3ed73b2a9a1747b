import Mathlib.Data.List.DropRight
import Mathlib.Data.Nat.Notation

/-!
# The error type of the crate

`Error` renders the flat `enum Error` of `src/errors.rs`, one constructor per failure domain,
with the payload each variant carries.  `Error.display` is the `thiserror` rendering that
`to_string` produces; it matters because a failure inside the reader becomes the text of the
close reason the session ends with.

`Error.isRetriable` decides whether an attempt is worth repeating, and `Error.ofSdkError` is the
conversion of a failed AWS call.  The SDK itself is outside the crate: a `SdkError` is what the
conversion reads of it, with the one law that is relied on.
-/

namespace SsmBridge

/-- A byte string on the wire or in a queue (`bytes::Bytes`). -/
abbrev Bytes := List UInt8

/-- The `std::io::ErrorKind`s the retry classifier distinguishes; every other kind is `other`. -/
inductive IoErrorKind
  | connectionReset
  | connectionAborted
  | connectionRefused
  | brokenPipe
  | timedOut
  | notConnected
  | interrupted
  | other
  deriving DecidableEq, Repr

/-- The error type returned by every fallible operation of the crate. -/
inductive Error
  /-- An AWS API call failed; `code` is the typed service code when the SDK provided one. -/
  | aws (message : String) (code : Option String)
  /-- The SSM binary protocol was violated by the remote peer. -/
  | protocol (message : String)
  /-- The WebSocket transport failed or was closed. -/
  | transport (message : String)
  /-- The session is not in a state that permits the requested operation. -/
  | sessionClosed (message : String)
  /-- Invalid configuration or arguments supplied by the caller. -/
  | config (message : String)
  /-- The agent required a feature this client does not implement. -/
  | unsupported (message : String)
  /-- Session encryption (KMS / AES-GCM) failed. -/
  | crypto (message : String)
  /-- An underlying I/O operation failed. -/
  | io (kind : IoErrorKind) (message : String)
  /-- JSON (de)serialization failed. -/
  | serialization (message : String)
  /-- The operation did not complete within its deadline, in nanoseconds. -/
  | timeout (nanos : ℕ)
  deriving DecidableEq, Repr

/-! ## The texts of errors -/

/-- A decimal fraction of so many digits, without trailing zeros; empty for zero. -/
def fractionDigits (width fraction : ℕ) : String :=
  let digits := (Nat.repr fraction).toList
  let padded := List.replicate (width - digits.length) '0' ++ digits
  let kept := padded.rdropWhile (· == '0')
  if kept.isEmpty then "" else String.ofList ('.' :: kept)

/-- The `Debug` text of a `Duration`, in the largest unit that leaves an integral part. -/
def durationDebug (nanos : ℕ) : String :=
  let render (unit width : ℕ) (suffix : String) : String :=
    let whole := nanos / unit
    let fraction := fractionDigits width (nanos % unit)
    s!"{whole}{fraction}{suffix}"
  if 1000000000 ≤ nanos then render 1000000000 9 "s"
  else if 1000000 ≤ nanos then render 1000000 6 "ms"
  else if 1000 ≤ nanos then render 1000 3 "µs"
  else render 1 0 "ns"

example : durationDebug 1500000000 = "1.5s" ∧ durationDebug 30050000 = "30.05ms" := by
  decide +kernel

/-- The `Display` text of an error. -/
def Error.display : Error → String
  | .aws message (some code) => s!"AWS API error ({code}): {message}"
  | .aws message none => s!"AWS API error: {message}"
  | .protocol message => s!"protocol error: {message}"
  | .transport message => s!"transport error: {message}"
  | .sessionClosed message => s!"session closed: {message}"
  | .config message => s!"invalid configuration: {message}"
  | .unsupported message => s!"unsupported by this client: {message}"
  | .crypto message => s!"session encryption error: {message}"
  | .io _ message => s!"I/O error: {message}"
  | .serialization message => s!"serialization error: {message}"
  | .timeout nanos =>
      let limit := durationDebug nanos
      s!"operation timed out after {limit}"

/-! ## Which errors a retry can fix -/

/-- AWS service error codes that indicate a transient condition. -/
def isTransientAwsCode (code : String) : Bool :=
  code ∈ ["ThrottlingException", "Throttling", "ThrottledException", "TooManyRequestsException",
    "RequestThrottled", "RequestThrottledException", "ProvisionedThroughputExceededException",
    "TransactionInProgressException", "ServiceUnavailable", "ServiceUnavailableException",
    "InternalServerError", "InternalFailure", "RequestTimeout", "RequestTimeoutException"]

/-- Whether retrying the same operation could plausibly succeed. -/
def Error.isRetriable : Error → Bool
  | .timeout _ | .transport _ => true
  | .io kind _ => decide (kind ≠ .other)
  | .aws _ code => code.any isTransientAwsCode
  | _ => false

/-- A failed call of an AWS service, as far as the crate reads it. -/
structure SdkError where
  /-- The service sent a response. -/
  answered : Bool
  code : Option String
  message : Option String
  /-- The `Debug` rendering. -/
  debug : String
  /-- A code is the service's. -/
  code_of_unanswered : answered = false → code = none
  deriving DecidableEq

/-- `From<SdkError>`: prefer the service's own message, fall back to the debug form. -/
def Error.ofSdkError (e : SdkError) : Error := .aws (e.message.getD e.debug) e.code

end SsmBridge
