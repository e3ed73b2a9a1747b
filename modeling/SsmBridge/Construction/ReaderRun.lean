import SsmBridge.Construction.Inbound
import SsmBridge.Construction.Deliver

/-!
# A reader running on its own

`reader_task` on a channel whose outbound path never holds it up: each message is routed to its
end before the next one is read.  `deliverMessage` composes the three parts of a delivery, and
`receiveAll` is the loop, which ends when the core is closed and closes it when a delivery fails.

A run keeps a trace of what each delivered message did: the output it emitted and the response it
caused, each with the cipher that was used, and whether it ended the session.

`ReaderRun.resume` is what `connect` does for a channel that replaces another one: the inbound
counter, the reorder buffer and the cipher are inherited, the session core and the handshake
handler are new.
-/

namespace SsmBridge

/-- What one delivered message did. -/
structure Observation where
  message : ClientMessage
  /-- The output emitted, with the cipher it was decrypted with. -/
  output : Option (Bytes × Option SessionCrypto)
  /-- The response sent, with the cipher it was made with. -/
  reply : Option (PayloadType × Bytes × Option SessionCrypto)
  /-- The delivery failed, which ends the session with a protocol error. -/
  failed : Bool
  deriving DecidableEq

/-- The state of a reader that runs on its own. -/
structure ReaderRun where
  view : ReaderView
  /-- KMS calls made so far. -/
  calls : ℕ
  /-- Nonces drawn so far. -/
  nonces : ℕ
  trace : List Observation
  deriving DecidableEq

/-- The cipher `decrypt_if_needed` uses for a message. -/
def cipherFor (crypto : Option SessionCrypto) (m : ClientMessage) : Option SessionCrypto :=
  if m.payloadType.isEncryptedInbound then crypto else none

/-- Send the reply of a delivery, if it has one, and end it. -/
def finish (v : ReaderView) : Progress →
    Except Error Unit × ReaderView × Option (PayloadType × Bytes × Option SessionCrypto)
  | .finished result => (result, v, none)
  | .reply payloadType payload after =>
      let cipher := if payloadType = .encChallengeResponse then v.handshake.crypto else none
      let (result, v) := replySent v after
      (result, v, some (payloadType, payload, cipher))

/-- A whole delivery: its result, the state it leaves, the KMS calls made, the output emitted and
the reply sent. -/
def deliverFully (env : Env) (nonce : Nonce) (calls : ℕ) (v : ReaderView) (m : ClientMessage) :
    Except Error Unit × ReaderView × ℕ × Option Bytes ×
      Option (PayloadType × Bytes × Option SessionCrypto) :=
  match deliver env nonce v m with
  | (.progress progress, v, output) =>
      let (result, v, reply) := finish v progress
      (result, v, calls, output, reply)
  | (.request request, v, output) =>
      let (progress, v, calls) := requestDone env calls v request
      let (result, v, reply) := finish v progress
      (result, v, calls, output, reply)

/-- Act on one in-order message from start to end, and note what it did. -/
def deliverMessage (env : Env) (nonceAt : ℕ → Nonce) (w : ReaderRun) (m : ClientMessage) :
    Except Error Unit × ReaderRun :=
  let (result, v, calls, output, reply) := deliverFully env (nonceAt w.nonces) w.calls w.view m
  let observation : Observation :=
    { message := m
      output := output.map (fun payload => (payload, cipherFor w.view.crypto m))
      reply := reply
      failed := !result.isOk }
  (result, { view := v, calls := calls, nonces := w.nonces + 1
             trace := w.trace ++ [observation] })

/-- The reader's effects on a channel that never holds it up. -/
def sessionReader (env : Env) (nonceAt : ℕ → Nonce) : ReaderEffects ReaderRun where
  acknowledge w _ _ := w
  deliver := deliverMessage env nonceAt

/-- A failed delivery ends the session. -/
def ReaderRun.fail (w : ReaderRun) (e : Error) : ReaderRun :=
  { w with view := { w.view with core := w.view.core.close (.protocol e.display) } }

/-- The loop of `reader_task`, over the messages of the output stream. -/
def receiveAll (env : Env) (nonceAt : ℕ → Nonce) : Inbound → ReaderRun → List ClientMessage →
    Inbound × ReaderRun
  | s, w, [] => (s, w)
  | s, w, m :: rest =>
      if w.view.core.isClosed then (s, w)
      else
        match routeStreamData (sessionReader env nonceAt) s w m with
        | (.ok (), s, w) => receiveAll env nonceAt s w rest
        | (.error e, s, w) => (s, w.fail e)

/-- A reader on a new session. -/
def ReaderRun.start (kms : KmsSupport) (subscriberCapacity : ℕ) : ReaderRun where
  view := { handshake := HandshakeHandler.new kms, core := SessionCore.new subscriberCapacity
            crypto := none }
  calls := 0
  nonces := 0
  trace := []

/-- The reader of the channel that resumes this one's session. -/
def ReaderRun.resume (w : ReaderRun) (subscriberCapacity : ℕ) : ReaderRun :=
  { w with view := { handshake := HandshakeHandler.new w.view.handshake.kms
                     core := SessionCore.new subscriberCapacity
                     crypto := w.view.crypto } }

end SsmBridge
