import SsmBridge.Construction.Documents
import SsmBridge.Construction.Endpoint
import SsmBridge.Construction.Pool
import SsmBridge.Construction.Retry

/-!
# Opening a session

From a configuration to a data channel: `SessionManager::start_session`, `resume_session` and
`Session::attach` of `src/session.rs`, with `Session::open`, `connect` and `dial` of
`src/connection.rs` and the signing of the upgrade in `src/signing.rs`.  In `Construction.Pool` and
`Construction.Retry` each of these calls is one step; here it is a task that waits for the services,
for credentials, for the socket and for its own backoff, and that can be dropped while it waits.

The crates that build a WebSocket request and that sign one are `UpgradeCrates`.  The message that
opens the channel is its value; its JSON text is not modelled.  The system clock and the timer are
one clock, in nanoseconds.

`log` is what the call did and what it was told, and when.  What it was told is noted as it came,
by `Label.told`: the answer of `ssm:StartSession`, the key each request is built with, the
credentials each signature is made with, and how each upgrade failed.  `answered` is an observation:
the service has given out a session, with everything that a data channel needs.
-/

namespace SsmBridge.Connect

open Pool (StartResponse)

/-! ## The upgrade request -/

/-- Credentials, as the provider chain resolves them. -/
structure Credentials where
  accessKeyId : String
  secretAccessKey : String
  sessionToken : Option String
  deriving DecidableEq

/-- A WebSocket upgrade, as far as it is read and written. -/
structure Request where
  uri : String
  /-- The `Host` header, when it is text. -/
  host : Option String
  /-- `Sec-WebSocket-Key`. -/
  key : String
  /-- The headers that signing adds. -/
  headers : List (String × String)
  deriving DecidableEq

/-- What is signed. -/
structure SignableRequest where
  service : String
  region : String
  method : String
  uri : String
  signedHeaders : List (String × String)
  body : Bytes
  credentials : Credentials
  time : ℕ

/-- Where signing can fail. -/
inductive SigningFailure
  | parameters (text : String)
  | signable (text : String)
  | signature (text : String)
  | headerName (text : String)
  | headerValue (text : String)

/-- The crates that build a request and sign it. -/
structure UpgradeCrates where
  url : UrlCrate
  /-- `into_client_request`, with the key it draws. -/
  intoClientRequest : String → String → Except String Request
  /-- `aws_sigv4`: the headers of the signature. -/
  sign : SignableRequest → Except SigningFailure (List (String × String))

/-- SigV4 service name for the Message Gateway. -/
def serviceName : String := "ssmmessages"

def SigningFailure.error : SigningFailure → Error
  | .parameters text => .config s!"could not build SigV4 signing parameters: {text}"
  | .signable text => .config s!"could not build the signable request: {text}"
  | .signature text => .config s!"could not sign the data channel upgrade: {text}"
  | .headerName text => .config s!"SigV4 produced an invalid header name: {text}"
  | .headerValue text => .config s!"SigV4 produced an invalid header value: {text}"

/-- `HeaderMap::insert`. -/
def insertHeader (headers : List (String × String)) (header : String × String) :
    List (String × String) :=
  headers.filter (·.1 ≠ header.1) ++ [header]

variable (crates : UpgradeCrates)

/-- Build the WebSocket upgrade request. -/
def upgradeRequest (streamUrl key : String) : Except Error Request :=
  match crates.intoClientRequest streamUrl key with
  | .ok request => .ok request
  | .error e => .error (.config s!"stream URL is not a valid WebSocket URL: {e}")

/-- Sign an upgrade request; only `host` is signed. -/
def signRequest (region : String) (credentials : Credentials) (time : ℕ) (request : Request) :
    Except Error Request :=
  match request.host with
  | none => .error (.config "upgrade request has no Host header to sign")
  | some host =>
      match crates.sign
          { service := serviceName, region, method := "GET", uri := request.uri,
            signedHeaders := [("host", host)], body := [], credentials, time } with
      | .error failure => .error failure.error
      | .ok headers => .ok { request with headers := headers.foldl insertHeader request.headers }

/-! ## The call -/

/-- The configuration of a session that is to be opened. -/
structure OpeningConfig extends SessionConfig where
  document : Option DocumentSpec
  endpointPolicy : EndpointPolicy
  deriving DecidableEq

/-- The input of `ssm:StartSession`. -/
structure StartSessionInput where
  target : String
  documentName : Option String
  parameters : Option (List (String × List String))
  reason : Option String
  deriving DecidableEq

/-- What is sent; an empty name is a plain shell, which the service wants without a name. -/
def startRequest (config : OpeningConfig) : StartSessionInput where
  target := config.target
  documentName := config.document.bind (fun d => if d.name = "" then none else some d.name)
  parameters :=
    config.document.bind (fun d => if d.parameters = [] then none else some d.parameters)
  reason := config.reason

/-- The clients of a session manager. -/
structure Manager where
  /-- The region of the signer, if there is one. -/
  signer : Option String
  /-- The build has the `kms` feature. -/
  kms : Bool
  deriving DecidableEq

/-- Which call it is. -/
inductive Origin
  | attach (sessionId streamUrl token : String)
  | start
  | resume (sessionId : String) (continuity : Continuity)
  deriving DecidableEq

/-- What `Session::open` is called with, next to the configuration. -/
structure Opening where
  sessionId : String
  streamUrl : String
  token : String
  ssm : Bool
  signer : Option String
  continuity : Continuity
  kms : KmsSupport
  deriving DecidableEq

/-- The first message on the channel. -/
structure OpenDataChannelInput where
  messageSchemaVersion : String
  requestId : String
  tokenValue : String
  clientId : String
  clientVersion : String
  deriving DecidableEq

/-- An open session. -/
structure Opened where
  sessionId : String
  config : OpeningConfig
  ssm : Bool
  continuity : Continuity
  channel : Channel
  deriving DecidableEq

/-- WebSocket dial attempts before giving up. -/
def connectAttempts : ℕ := 3

/-- The first backoff: 200 ms. -/
def firstBackoff : ℕ := 200 * 10 ^ 6

/-- Where `connect` is. -/
inductive DialPc
  /-- About to check the endpoint. -/
  | checking
  /-- About to build the request of an attempt. -/
  | dialing (attempt backoff : ℕ)
  /-- Waiting for credentials. -/
  | resolving (attempt backoff : ℕ) (request : Request)
  /-- In `connect_async`. -/
  | connecting (attempt backoff : ℕ)
  /-- Waiting for the next attempt, which is due at `due`. -/
  | sleeping (attempt backoff due : ℕ)
  /-- The message that opens the channel is being sent. -/
  | sending
  deriving DecidableEq

inductive CallPc
  | called
  /-- Waiting for `ssm:StartSession`. -/
  | starting
  /-- Waiting for `ssm:ResumeSession`. -/
  | resuming
  | opening (o : Opening) (pc : DialPc)
  /-- Waiting for `ssm:TerminateSession`. -/
  | releasing (e : Error)
  | returned (result : Except Error (Option Opened))
  /-- The future was dropped. -/
  | dropped
  deriving DecidableEq

/-- What a call does, and what it is told. -/
inductive Did
  | startSession (input : StartSessionInput)
  /-- `ssm:StartSession` has answered. -/
  | started (response : StartResponse)
  | answered (sessionId streamUrl token : String)
  | resumeSession (sessionId : String)
  | terminateSession (sessionId : String)
  /-- A request is built with this key. -/
  | built (key : String)
  /-- The provider has answered. -/
  | resolved (answer : Except String Credentials)
  /-- An upgrade is sent. -/
  | upgrade (url : String) (request : Request)
  /-- The last upgrade has failed, with an I/O error or with another one. -/
  | refused (io : Bool)
  /-- The message that opens the channel is sent on the socket to this URL. -/
  | wrote (url : String) (message : OpenDataChannelInput)
  deriving DecidableEq

structure Call where
  manager : Manager
  origin : Origin
  config : OpeningConfig
  now : ℕ
  pc : CallPc
  log : List (ℕ × Did)
  deriving DecidableEq

def Call.new (manager : Manager) (origin : Origin) (config : OpeningConfig) (now : ℕ) : Call where
  manager := manager
  origin := origin
  config := config
  now := now
  pc := .called
  log := []

inductive Label
  /-- The task goes on without anything new from outside. -/
  | advance
  | startAnswers (answer : Except SdkError StartResponse)
  | resumeAnswers (answer : Except SdkError ResumeResponse)
  /-- A request is built with this key. -/
  | build (key : String)
  /-- The provider answers. -/
  | resolves (answer : Except String Credentials)
  /-- The socket is open; the request id of the first message. -/
  | connects (requestId : String)
  /-- `connect_async` fails. -/
  | connectFails (io : Bool) (text : String)
  /-- The first message was sent, or was not. -/
  | sent (result : Except String Unit)
  /-- `ssm:TerminateSession` answers. -/
  | releaseAnswers
  | elapse (nanos : ℕ)
  | drop

/-- The call is told this, and does not do it. -/
def Did.isTold : Did → Bool
  | .started _ | .built _ | .resolved _ | .refused _ => true
  | .startSession _ | .answered _ _ _ | .resumeSession _ | .terminateSession _ | .upgrade _ _
  | .wrote _ _ => false

/-- What the call is told in a step. -/
def Label.told : Label → Option Did
  | .startAnswers (.ok response) => some (.started response)
  | .build key => some (.built key)
  | .resolves answer => some (.resolved answer)
  | .connectFails io _ => some (.refused io)
  | .advance | .startAnswers (.error _) | .resumeAnswers _ | .connects _ | .sent _ | .releaseAnswers
  | .elapse _ | .drop => none

namespace Call

variable (s : Call)

def note (did : Did) : Call := { s with log := s.log ++ [(s.now, did)] }

def goto (pc : CallPc) : Call := { s with pc }

/-- What `attach` opens. -/
def attachment (sessionId streamUrl token : String) : Opening where
  sessionId := sessionId
  streamUrl := streamUrl
  token := token
  ssm := false
  signer := none
  continuity := Continuity.fresh
  kms := if s.manager.kms then .noClient else .notCompiled

/-- What the manager opens. -/
def managed (sessionId streamUrl token : String) (continuity : Continuity) : Opening where
  sessionId := sessionId
  streamUrl := streamUrl
  token := token
  ssm := true
  signer := s.manager.signer
  continuity := continuity
  kms := if s.manager.kms then .client ⟨sessionId, s.config.target⟩ else .notCompiled

/-- What `Session::open` returns. -/
def opened (o : Opening) : Opened where
  sessionId := o.sessionId
  config := s.config
  ssm := o.ssm
  continuity := o.continuity
  channel := Channel.open (s.config.channelConfig o.kms s.now)

/-- `Session::open` fails; a session that was just started is released. -/
def fails (o : Opening) (e : Error) : Call :=
  match s.origin with
  | .start => (s.note (.terminateSession o.sessionId)).goto (.releasing e)
  | .attach _ _ _ | .resume _ _ => s.goto (.returned (.error e))

/-- Send the upgrade. -/
def dial (o : Opening) (attempt backoff : ℕ) (request : Request) : Call :=
  (s.note (.upgrade o.streamUrl request)).goto (.opening o (.connecting attempt backoff))

/-- The first message on the socket. -/
def openMessage (o : Opening) (requestId : String) : OpenDataChannelInput where
  messageSchemaVersion := "1.0"
  requestId := requestId
  tokenValue := o.token
  clientId := o.sessionId
  clientVersion := clientProtocolVersion

/-- The task, up to its next wait. -/
def advance : Option Call :=
  match s.pc with
  | .called =>
      match s.config.validate with
      | .error e => some (s.goto (.returned (.error e)))
      | .ok () =>
          match s.origin with
          | .attach sessionId streamUrl token =>
              some (s.goto (.opening (s.attachment sessionId streamUrl token) .checking))
          | .start => some ((s.note (.startSession (startRequest s.config))).goto .starting)
          | .resume sessionId _ => some ((s.note (.resumeSession sessionId)).goto .resuming)
  | .opening o .checking =>
      match s.config.endpointPolicy.validate crates.url o.streamUrl with
      | .error e => some (s.fails o e)
      | .ok () => some (s.goto (.opening o (.dialing 1 firstBackoff)))
  | .opening o (.sleeping attempt backoff due) =>
      if due ≤ s.now then some (s.goto (.opening o (.dialing attempt backoff))) else none
  | _ => none

def startAnswers (answer : Except SdkError StartResponse) : Option Call :=
  match s.pc with
  | .starting =>
      match answer with
      | .error e => some (s.goto (.returned (.error (.ofSdkError e))))
      | .ok response =>
          let s := s.note (.started response)
          match response.sessionId, response.streamUrl, response.tokenValue with
          | none, _, _ =>
              some (s.goto (.returned (.error (.aws "StartSession returned no session ID" none))))
          -- The session is there, and nobody releases it.
          | some _, none, _ =>
              some (s.goto (.returned (.error (.aws "StartSession returned no stream URL" none))))
          | some _, some _, none =>
              some (s.goto (.returned (.error (.aws "StartSession returned no token" none))))
          | some id, some url, some token =>
              some ((s.note (.answered id url token)).goto
                (.opening (s.managed id url token Continuity.fresh) .checking))
  | _ => none

def resumeAnswers (answer : Except SdkError ResumeResponse) : Option Call :=
  match s.pc, s.origin with
  | .resuming, .resume sessionId continuity =>
      match answer with
      | .error e => some (s.goto (.returned (.error (.ofSdkError e))))
      | .ok response =>
          match response.streamUrl, response.tokenValue with
          | some url, some token =>
              -- No token is how the service says that the session has timed out.
              if token = "" then some (s.goto (.returned (.ok none)))
              else
                some ((s.note (.answered sessionId url token)).goto
                  (.opening (s.managed sessionId url token continuity) .checking))
          | _, _ => some (s.goto (.returned (.ok none)))
  | _, _ => none

/-- Build the request of an attempt; one that is to be signed waits for credentials first. -/
def build (key : String) : Option Call :=
  match s.pc with
  | .opening o (.dialing attempt backoff) =>
      let s := s.note (.built key)
      match upgradeRequest crates o.streamUrl key with
      | .error e => some (s.fails o e)
      | .ok request =>
          match o.signer with
          | none => some (s.dial o attempt backoff request)
          | some _ =>
              if isPresigned crates.url o.streamUrl then some (s.dial o attempt backoff request)
              else some (s.goto (.opening o (.resolving attempt backoff request)))
  | _ => none

/-- Sign the request and send it. -/
def resolves (answer : Except String Credentials) : Option Call :=
  match s.pc with
  | .opening o (.resolving attempt backoff request) =>
      let s := s.note (.resolved answer)
      match answer, o.signer with
      | .error e, _ =>
          some (s.fails o
            (.aws s!"could not resolve credentials to sign the data channel: {e}" none))
      | .ok credentials, some region =>
          match signRequest crates region credentials s.now request with
          | .error e => some (s.fails o e)
          | .ok request => some (s.dial o attempt backoff request)
      | .ok _, none => none
  | _ => none

def connects (requestId : String) : Option Call :=
  match s.pc with
  | .opening o (.connecting _ _) =>
      some ((s.note (.wrote o.streamUrl (openMessage o requestId))).goto (.opening o .sending))
  | _ => none

/-- Only a network failure is tried again. -/
def connectFails (io : Bool) (text : String) : Option Call :=
  match s.pc with
  | .opening o (.connecting attempt backoff) =>
      let s := s.note (.refused io)
      if !io || attempt = connectAttempts then
        some (s.fails o (.transport s!"could not open the SSM WebSocket: {text}"))
      else some (s.goto (.opening o (.sleeping (attempt + 1) (2 * backoff) (s.now + backoff))))
  | _ => none

def sent (result : Except String Unit) : Option Call :=
  match s.pc with
  | .opening o .sending =>
      match result with
      | .ok () => some (s.goto (.returned (.ok (some (s.opened o)))))
      | .error e => some (s.fails o (.transport s!"failed to open the data channel: {e}"))
  | _ => none

/-- How releasing the session ends is only logged. -/
def releaseAnswers : Option Call :=
  match s.pc with
  | .releasing e => some (s.goto (.returned (.error e)))
  | _ => none

def drop : Option Call :=
  match s.pc with
  | .returned _ | .dropped => none
  | _ => some (s.goto .dropped)

def step : Label → Option Call
  | .advance => s.advance crates
  | .startAnswers answer => s.startAnswers answer
  | .resumeAnswers answer => s.resumeAnswers answer
  | .build key => s.build crates key
  | .resolves answer => s.resolves crates answer
  | .connects requestId => s.connects requestId
  | .connectFails io text => s.connectFails io text
  | .sent result => s.sent result
  | .releaseAnswers => s.releaseAnswers
  | .elapse nanos => some { s with now := s.now + nanos }
  | .drop => s.drop

end Call

end SsmBridge.Connect
