import SsmBridge.Construction.Pool

/-!
# Calls of `terminate` on one session

A session opened by `start_session` or `resume_session` of `src/session.rs`, with any number of
calls of `Session::terminate` in progress.  A call goes through the steps of `Termination`: it reads
the closed flag, closes the session, and joins the tasks and calls `ssm:TerminateSession` if the
flag was down.  Between these the tasks of the session, which end it for their own reasons, and
other calls come in.

`SessionCore::close` keeps the reason of the first caller; swapping the flag and storing the reason
are one step, since no call here reads the reason.
-/

namespace SsmBridge.Ending

open Pool (Termination)

/-- A session and the calls of `terminate` on it, in the order in which they were made. -/
structure SharedSession where
  session : Pool.Session
  closeReason : Option CloseReason
  calls : List Termination
  deriving DecidableEq

/-- `Session::open`, as `start_session` and `resume_session` call it. -/
def opened (id : String) (config : SessionConfig) : SharedSession where
  session := { id, config, closed := false, ssm := true, released := false, opener := none }
  closeReason := none
  calls := []

inductive Label
  /-- A task of the session closes it. -/
  | close (reason : CloseReason)
  /-- `terminate` is called. -/
  | terminate
  /-- The next step of a call. -/
  | proceed (i : ℕ)
  deriving DecidableEq

/-- `SessionCore::close`. -/
def close (σ : SharedSession) (reason : CloseReason) : SharedSession :=
  if σ.session.closed then σ
  else { σ with session := { σ.session with closed := true }, closeReason := some reason }

/-- The next step of a call; the one that closes the session leaves its reason. -/
def proceed (σ : SharedSession) (i : ℕ) (call : Termination) : Option SharedSession :=
  (call.step σ.session).map (fun next => {
    session := next.2
    closeReason :=
      if !σ.session.closed && next.2.closed then some .terminated else σ.closeReason
    calls := σ.calls.set i next.1 })

def step (σ : SharedSession) : Label → Option SharedSession
  | .close reason => some (close σ reason)
  | .terminate => some { σ with calls := σ.calls ++ [.called] }
  | .proceed i => σ.calls[i]?.bind (proceed σ i)

/-- What a step can do. -/
inductive Moves (σ : SharedSession) : Label → SharedSession → Prop
  | late {reason : CloseReason} (hclosed : σ.session.closed = true) : Moves σ (.close reason) σ
  | close {reason : CloseReason} (hopen : σ.session.closed = false) :
      Moves σ (.close reason)
        { σ with session := { σ.session with closed := true }, closeReason := some reason }
  | terminate : Moves σ .terminate { σ with calls := σ.calls ++ [.called] }
  | read {i : ℕ} (hi : σ.calls[i]? = some .called) :
      Moves σ (.proceed i) { σ with calls := σ.calls.set i (.closing !σ.session.closed) }
  | shut {i : ℕ} {first : Bool} (hi : σ.calls[i]? = some (.closing first)) :
      Moves σ (.proceed i)
        { session := { σ.session with closed := true }
          closeReason := if σ.session.closed then σ.closeReason else some .terminated
          calls := σ.calls.set i (.joining first) }
  | request {i : ℕ} {first : Bool} (hi : σ.calls[i]? = some (.joining first)) :
      Moves σ (.proceed i)
        { σ with
          session :=
            { σ.session with released := σ.session.released || (first && σ.session.ssm) }
          calls := σ.calls.set i (.returned first) }

lemma moves_of_step {σ σ' : SharedSession} {l : Label} (h : step σ l = some σ') : Moves σ l σ' := by
  cases l with
  | close reason =>
    simp only [step, close] at h
    split at h
    · next hclosed =>
      cases h
      exact .late hclosed
    · next hopen =>
      cases h
      exact .close (Bool.eq_false_iff.mpr hopen)
  | terminate =>
    cases h
    exact .terminate
  | proceed i =>
    obtain ⟨call, hcall, hnext⟩ := Option.bind_eq_some_iff.mp h
    cases call with
    | called =>
      simp only [proceed, Termination.step, Option.map_some, Bool.not_and_self] at hnext
      cases hnext
      exact .read hcall
    | closing first =>
      simp only [proceed, Termination.step, Option.map_some, Bool.and_true] at hnext
      have hreason : (if !σ.session.closed then some CloseReason.terminated else σ.closeReason) =
          if σ.session.closed then σ.closeReason else some .terminated := by
        cases σ.session.closed <;> rfl
      rw [hreason] at hnext
      cases hnext
      exact .shut hcall
    | joining first =>
      simp only [proceed, Termination.step, Option.map_some, Bool.not_and_self] at hnext
      cases hnext
      exact .request hcall
    | returned first => cases hnext

end SsmBridge.Ending
