import SsmBridge.Construction.StreamData
import SsmBridge.Framework.Machine
import Mathlib.Data.List.AList

/-!
# The session pool

The model of `src/pool.rs`, with any number of calls on one pool in progress.

The map is behind a lock, and what a call does under it is cut only where it reads `is_closed`:
`reap` looks at one entry after the other, and a session ends without asking for the lock.  Between
the two admission checks of `start_with` there is `SessionManager::start_session`; what the service
and `Session::open` answer, and when, is the environment's.  `Session::terminate` reads the closed
flag, closes the session, joins its tasks and, if it was the first, calls `ssm:TerminateSession`.

An `Arc<Session>` is an index into `heap`, which holds every session made so far.  Calls are kept in
the order in which they were made; which call opened a session, and whether it was released, are
observations.  A call that is dropped before it returns is not modelled.
-/

namespace SsmBridge.Pool

/-! ## Configuration -/

/-- Limits and defaults for a pool. -/
structure PoolConfig where
  /-- Maximum live sessions; `0` means unlimited. -/
  maxSessions : ℕ
  /-- Allow more than one session to the same target. -/
  allowDuplicateTargets : Bool
  /-- Template applied to sessions started through `start`. -/
  sessionDefaults : SessionConfig

/-- What `start` hands to `start_with`. -/
def PoolConfig.start (config : PoolConfig) (target : String) : SessionConfig :=
  { config.sessionDefaults with target }

/-- A point-in-time view of a pool. -/
structure PoolStats where
  live : ℕ
  started : ℕ
  ended : ℕ
  deriving DecidableEq

/-! ## Sessions -/

/-- A session, as far as the pool sees it. -/
structure Session where
  id : String
  config : SessionConfig
  closed : Bool
  /-- It has a client to call `ssm:TerminateSession` with. -/
  ssm : Bool
  /-- `ssm:TerminateSession` has been called for it. -/
  released : Bool
  /-- The call of `start_with` that opened it. -/
  opener : Option ℕ
  deriving DecidableEq

/-- Where a call of `Session::terminate` is. -/
inductive Termination
  /-- About to read the closed flag. -/
  | called
  /-- About to close the session; `first` says it was open. -/
  | closing (first : Bool)
  /-- Joining the tasks, and calling `ssm:TerminateSession` when it was the first. -/
  | joining (first : Bool)
  | returned (first : Bool)
  deriving DecidableEq

/-- One step of `Session::terminate`. -/
def Termination.step (x : Session) : Termination → Option (Termination × Session)
  | .called => some (.closing !x.closed, x)
  | .closing first => some (.joining first, { x with closed := true })
  | .joining first => some (.returned first, { x with released := x.released || (first && x.ssm) })
  | .returned _ => none

/-- The call has returned. -/
def Termination.hasReturned : Termination → Bool
  | .returned _ => true
  | _ => false

/-! ## Calls -/

/-- What `ssm:StartSession` answers. -/
structure StartResponse where
  sessionId : Option String
  streamUrl : Option String
  tokenValue : Option String
  deriving DecidableEq

/-- Where a call of `start_with` is. -/
inductive StartPc
  /-- About to take the lock for `check_admission`. -/
  | checking
  /-- Waiting for `ssm:StartSession`. -/
  | starting
  /-- In `Session::open`. -/
  | opening (id : String)
  /-- The data channel failed to open; the AWS session is being released. -/
  | releasing (id : String) (error : Error)
  /-- About to take the lock for the second check. -/
  | opened (session : ℕ)
  /-- Turned away by the second check: the session is being terminated. -/
  | rejected (session : ℕ) (error : Error) (termination : Termination)
  /-- In the map and not counted yet. -/
  | admitted (session : ℕ)
  /-- Returned an error, with no session open. -/
  | failed (error : Error)
  | returned (session : ℕ)
  deriving DecidableEq

/-- The call has returned. -/
def StartPc.hasReturned : StartPc → Bool
  | .rejected _ _ termination => termination.hasReturned
  | .failed _ | .returned _ => true
  | _ => false

/-- Where a call of `insert` is. -/
inductive InsertPc
  | waiting
  /-- In the map and not counted yet. -/
  | admitted
  | returned (result : Except Error Unit)
  deriving DecidableEq

/-- The calls that only look. -/
inductive Query
  | get (id : String)
  | forTarget (target : String)
  | sessions
  | sessionIds
  | stats
  deriving DecidableEq

/-- What they return. -/
inductive Reply
  | session (session : Option ℕ)
  | sessions (sessions : List ℕ)
  | ids (ids : List String)
  | stats (stats : PoolStats)
  deriving DecidableEq

/-- The calls that take sessions out of the map and terminate them. -/
inductive Removal
  | terminate (id : String)
  | terminateTarget (target : String)
  | shutdown
  deriving DecidableEq

/-- Where one of them is. -/
inductive RemovalPc
  | waiting
  /-- The sessions it took, each with its `terminate`. -/
  | terminating (doomed : List (ℕ × Termination))
  | returned
  deriving DecidableEq

/-- A call on the pool. -/
inductive Call
  | startWith (config : SessionConfig) (pc : StartPc)
  | insert (session : ℕ) (pc : InsertPc)
  | query (query : Query) (reply : Option Reply)
  | removal (removal : Removal) (pc : RemovalPc)
  deriving DecidableEq

/-- The call is about to take the lock and reap. -/
def Call.reaps : Call → Bool
  | .startWith _ .checking | .startWith _ (.opened _) | .insert _ .waiting | .query _ none => true
  | _ => false

/-! ## State -/

/-- The call that holds the lock. -/
structure Holder where
  call : ℕ
  /-- The entries `reap` has yet to look at. -/
  unchecked : List String
  deriving DecidableEq

/-- A bounded collection of concurrent sessions, and the calls on it. -/
structure SessionPool where
  config : PoolConfig
  sessions : AList (fun _ : String => ℕ)
  started : ℕ
  lock : Option Holder
  heap : List Session
  calls : List Call

namespace SessionPool

/-- Build a pool. -/
def new (config : PoolConfig) : SessionPool where
  config := config
  sessions := ∅
  started := 0
  lock := none
  heap := []
  calls := []

/-- The sessions in the map. -/
def values (p : SessionPool) : List ℕ := p.sessions.entries.map Sigma.snd

def isClosed (p : SessionPool) (s : ℕ) : Bool := p.heap[s]?.any Session.closed

/-- The session is one against `target`. -/
def hasTarget (p : SessionPool) (target : String) (s : ℕ) : Bool :=
  p.heap[s]?.any (fun x => x.config.target == target)

def setCall (p : SessionPool) (c : ℕ) (call : Call) : SessionPool :=
  { p with calls := p.calls.set c call }

def setSession (p : SessionPool) (s : ℕ) (x : Session) : SessionPool :=
  { p with heap := p.heap.set s x }

/-! ## Under the lock -/

/-- The source's `admit`: whether the limits let in another session. -/
def admission (p : SessionPool) (target : String) : Except Error Unit :=
  let live := p.sessions.entries.length
  let maxSessions := p.config.maxSessions
  if 0 < maxSessions ∧ maxSessions ≤ live then
    .error (.config s!"session pool is full ({live} of {maxSessions} in use)")
  else if !p.config.allowDuplicateTargets && p.values.any (p.hasTarget target) then
    .error (.config (s!"a session to {target} is already open and " ++
      "PoolConfig::allow_duplicate_targets is false"))
  else .ok ()

/-- The map with another session, under its own id. -/
def put (p : SessionPool) (s : ℕ) : AList (fun _ : String => ℕ) :=
  match p.heap[s]? with
  | some x => p.sessions.insert x.id s
  | none => p.sessions

/-- `check_admission` and, when it lets the call go on, the beginning of `start_session`. -/
def check (p : SessionPool) (config : SessionConfig) : StartPc :=
  match p.admission config.target with
  | .error e => .failed e
  | .ok () =>
      match config.validate with
      | .error e => .failed e
      | .ok () => .starting

def stats (p : SessionPool) : PoolStats :=
  let live := p.sessions.entries.length
  -- A session is counted after it is in the map, so `started` may be behind.
  { live, started := p.started, ended := p.started - live }

def answerQuery (p : SessionPool) : Query → Reply
  | .get id => .session (p.sessions.lookup id)
  | .forTarget target => .sessions (p.values.filter (p.hasTarget target))
  | .sessions => .sessions p.values
  | .sessionIds => .ids p.sessions.keys
  | .stats => .stats p.stats

/-- What the call that holds the lock does once it has reaped. -/
def act (p : SessionPool) (c : ℕ) : Call → Option SessionPool
  | .startWith config .checking => some (p.setCall c (.startWith config (p.check config)))
  | .startWith config (.opened s) =>
      match p.admission config.target with
      | .ok () => some { p.setCall c (.startWith config (.admitted s)) with sessions := p.put s }
      | .error e => some (p.setCall c (.startWith config (.rejected s e .called)))
  | .insert s .waiting =>
      match p.heap[s]? with
      | some x =>
          match p.admission x.config.target with
          | .ok () => some { p.setCall c (.insert s .admitted) with sessions := p.put s }
          | .error e => some (p.setCall c (.insert s (.returned (.error e))))
      | none => none
  | .query query none => some (p.setCall c (.query query (some (p.answerQuery query))))
  | _ => none

/-- Take the lock. -/
def acquire (p : SessionPool) (c : ℕ) : Option SessionPool :=
  match p.lock, p.calls[c]? with
  | none, some call =>
      if call.reaps then some { p with lock := some { call := c, unchecked := p.sessions.keys } }
      else none
  | _, _ => none

/-- `reap` looks at one entry. -/
def reap (p : SessionPool) (id : String) : Option SessionPool :=
  match p.lock with
  | some holder =>
      if id ∈ holder.unchecked then
        let closed := (p.sessions.lookup id).any p.isClosed
        some { p with sessions := if closed then p.sessions.erase id else p.sessions
                      lock := some { holder with unchecked := holder.unchecked.erase id } }
      else none
  | none => none

/-- Nothing is left to reap: the rest of the critical section. -/
def unlock (p : SessionPool) : Option SessionPool :=
  match p.lock with
  | some holder =>
      match holder.unchecked, p.calls[holder.call]? with
      | [], some call => ({ p with lock := none }).act holder.call call
      | _, _ => none
  | none => none

/-- Remove these ids from the map, one after the other. -/
def take : List String → AList (fun _ : String => ℕ) →
    List ℕ × AList (fun _ : String => ℕ)
  | [], m => ([], m)
  | id :: ids, m =>
      let rest := take ids (m.erase id)
      ((m.lookup id).toList ++ rest.1, rest.2)

/-- What a call takes out of the map, and what it leaves. -/
def doomed (p : SessionPool) : Removal → List ℕ × AList (fun _ : String => ℕ)
  | .terminate id => take [id] p.sessions
  | .terminateTarget target =>
      take ((p.sessions.entries.filter (fun e => p.hasTarget target e.2)).map Sigma.fst) p.sessions
  | .shutdown => (p.values, ∅)

def remove (p : SessionPool) (c : ℕ) : Option SessionPool :=
  match p.lock, p.calls[c]? with
  | none, some (.removal removal .waiting) =>
      some { p with
        sessions := (p.doomed removal).2
        calls := p.calls.set c
          (.removal removal (.terminating ((p.doomed removal).1.map (fun s => (s, .called))))) }
  | _, _ => none

/-! ## Away from the lock -/

/-- `ssm:StartSession` answers. -/
def startAnswers (p : SessionPool) (c : ℕ) (answer : Except SdkError StartResponse) :
    Option SessionPool :=
  match p.calls[c]? with
  | some (.startWith config .starting) =>
      let pc : StartPc :=
        match answer with
        | .error e => .failed (.ofSdkError e)
        | .ok response =>
            match response.sessionId, response.streamUrl, response.tokenValue with
            | none, _, _ => .failed (.aws "StartSession returned no session ID" none)
            | some _, none, _ => .failed (.aws "StartSession returned no stream URL" none)
            | some _, some _, none => .failed (.aws "StartSession returned no token" none)
            | some id, some _, some _ => .opening id
      some (p.setCall c (.startWith config pc))
  | _ => none

/-- `Session::open` returns. -/
def openReturns (p : SessionPool) (c : ℕ) (result : Except Error Unit) : Option SessionPool :=
  match p.calls[c]? with
  | some (.startWith config (.opening id)) =>
      match result with
      | .error e => some (p.setCall c (.startWith config (.releasing id e)))
      | .ok () =>
          let session : Session :=
            { id, config, closed := false, ssm := true, released := false, opener := some c }
          some { p.setCall c (.startWith config (.opened p.heap.length)) with
            heap := p.heap ++ [session] }
  | _ => none

/-- `terminate_session` returns for a session that was never opened. -/
def releaseReturns (p : SessionPool) (c : ℕ) : Option SessionPool :=
  match p.calls[c]? with
  | some (.startWith config (.releasing _ e)) =>
      some (p.setCall c (.startWith config (.failed e)))
  | _ => none

/-- A session that was let in is counted, and the call returns it. -/
def count (p : SessionPool) (c : ℕ) : Option SessionPool :=
  match p.calls[c]? with
  | some (.startWith config (.admitted s)) =>
      some { p.setCall c (.startWith config (.returned s)) with started := p.started + 1 }
  | some (.insert s .admitted) =>
      some { p.setCall c (.insert s (.returned (.ok ()))) with started := p.started + 1 }
  | _ => none

/-- A call of `start_with` terminates the session it could not keep. -/
def terminateRejected (p : SessionPool) (c : ℕ) : Option SessionPool :=
  match p.calls[c]? with
  | some (.startWith config (.rejected s e termination)) =>
      match p.heap[s]? with
      | some x =>
          (termination.step x).map (fun r =>
            (p.setSession s r.2).setCall c (.startWith config (.rejected s e r.1)))
      | none => none
  | _ => none

/-- `terminate_all` polls one of its calls of `Session::terminate`. -/
def terminateDoomed (p : SessionPool) (c k : ℕ) : Option SessionPool :=
  match p.calls[c]? with
  | some (.removal removal (.terminating doomed)) =>
      match doomed[k]? with
      | some (s, termination) =>
          match p.heap[s]? with
          | some x =>
              (termination.step x).map (fun r =>
                (p.setSession s r.2).setCall c
                  (.removal removal (.terminating (doomed.set k (s, r.1)))))
          | none => none
      | none => none
  | _ => none

/-- `terminate_all` returns. -/
def removalReturns (p : SessionPool) (c : ℕ) : Option SessionPool :=
  match p.calls[c]? with
  | some (.removal removal (.terminating doomed)) =>
      if doomed.all (fun d => d.2.hasReturned) then
        some (p.setCall c (.removal removal .returned))
      else none
  | _ => none

/-- A session ends, whoever ended it. -/
def sessionEnds (p : SessionPool) (s : ℕ) : Option SessionPool :=
  p.heap[s]?.map (fun x => p.setSession s { x with closed := true })

/-- A session is made without the pool. -/
def external (p : SessionPool) (id : String) (config : SessionConfig) (ssm : Bool) : SessionPool :=
  { p with heap := p.heap ++
      [{ id, config, closed := false, ssm, released := false, opener := none }] }

end SessionPool

/-! ## Steps -/

/-- A call, as it is made. -/
inductive Request
  | start (target : String)
  | startWith (config : SessionConfig)
  | insert (session : ℕ)
  | query (query : Query)
  | removal (removal : Removal)

def Request.call (pool : PoolConfig) : Request → Call
  | .start target => .startWith (pool.start target) .checking
  | .startWith config => .startWith config .checking
  | .insert session => .insert session .waiting
  | .query q => .query q none
  | .removal r => .removal r .waiting

/-- What can happen next. -/
inductive Label
  | request (request : Request)
  | acquire (c : ℕ)
  | reap (id : String)
  | unlock
  | remove (c : ℕ)
  | startAnswers (c : ℕ) (answer : Except SdkError StartResponse)
  | openReturns (c : ℕ) (result : Except Error Unit)
  | releaseReturns (c : ℕ)
  | count (c : ℕ)
  | terminateRejected (c : ℕ)
  | terminateDoomed (c k : ℕ)
  | removalReturns (c : ℕ)
  | sessionEnds (s : ℕ)
  | external (id : String) (config : SessionConfig) (ssm : Bool)

/-- A step of the pool, of one of its calls or of its surroundings. -/
def SessionPool.step (p : SessionPool) : Label → Option SessionPool
  | .request request => some { p with calls := p.calls ++ [request.call p.config] }
  | .acquire c => p.acquire c
  | .reap id => p.reap id
  | .unlock => p.unlock
  | .remove c => p.remove c
  | .startAnswers c answer => p.startAnswers c answer
  | .openReturns c result => p.openReturns c result
  | .releaseReturns c => p.releaseReturns c
  | .count c => p.count c
  | .terminateRejected c => p.terminateRejected c
  | .terminateDoomed c k => p.terminateDoomed c k
  | .removalReturns c => p.removalReturns c
  | .sessionEnds s => p.sessionEnds s
  | .external id config ssm => some (p.external id config ssm)

end SsmBridge.Pool
