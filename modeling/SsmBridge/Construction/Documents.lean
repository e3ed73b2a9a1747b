import Mathlib.Data.Nat.Notation

/-!
# Session documents

What a session's document says about it: the model of `SessionType` in `src/documents.rs` and of
`DocumentSpec` in `src/session.rs`.
-/

namespace SsmBridge

/-- What a session's byte stream means, and therefore how to drive it. -/
inductive SessionType
  /-- A bidirectional byte stream: shell, SSH transport, or a command's stdio. -/
  | standardStream
  /-- TCP connections multiplexed over smux. -/
  | port
  deriving DecidableEq

/-- A resolved document name and its parameters. -/
structure DocumentSpec where
  name : String
  parameters : List (String × List String)
  sessionType : SessionType
  deriving DecidableEq

/-- The session type implied by the configured document. -/
def sessionTypeOf (document : Option DocumentSpec) : SessionType :=
  document.elim .standardStream DocumentSpec.sessionType

end SsmBridge
