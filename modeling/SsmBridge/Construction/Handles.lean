import SsmBridge.Framework.Machine
import Mathlib.Data.List.Basic

/-!
# The handles of a reconnecting session

`Clone` and `Drop` of `ReconnectingSession` in `src/reconnect.rs`, with the drops of different
handles on different threads.

The handles share the supervisor through an `Arc`; nothing else holds a reference to it.  A drop
reads the strong count, acts on what it read, and then the fields of the handle are dropped, which
releases its reference: each of these is a step of its own.  A handle is known by the order in which
handles were made.  Whether a drop stopped the supervisor is an observation.
-/

namespace SsmBridge.Handles

/-- Where a handle is. -/
inductive HandlePc
  /-- Its drop has not begun. -/
  | live
  /-- The drop has read the strong count and is about to compare it. -/
  | counted (count : ℕ)
  /-- Shutdown is signalled; about to abort the supervisor. -/
  | aborting
  /-- The body of the drop is left; about to release the reference. -/
  | releasing (stopped : Bool)
  | gone (stopped : Bool)
  deriving DecidableEq

/-- The reference of the handle is released. -/
def HandlePc.isGone : HandlePc → Bool
  | .gone _ => true
  | .live | .counted _ | .aborting | .releasing _ => false

/-- The handles and what they share. -/
structure Shared where
  /-- `Arc::strong_count(&self.supervisor)`. -/
  strongCount : ℕ
  /-- The flag of `inner.shutdown`. -/
  shutdown : Bool
  /-- The supervisor task is aborted. -/
  aborted : Bool
  handles : List HandlePc
  deriving DecidableEq

/-- `connect_with`. -/
def Shared.new : Shared where
  strongCount := 1
  shutdown := false
  aborted := false
  handles := [.live]

/-- One step of a handle. -/
inductive Label
  | clone (i : ℕ)
  /-- The first statement of `terminate`. -/
  | terminate (i : ℕ)
  /-- The next step of the handle's drop. -/
  | drop (i : ℕ)
  deriving DecidableEq

/-- The next step of a drop. -/
def dropStep (σ : Shared) (i : ℕ) : HandlePc → Option Shared
  | .live => some { σ with handles := σ.handles.set i (.counted σ.strongCount) }
  | .counted count =>
      -- Only the final handle tears things down; clones share the supervisor.
      if count = 1 then some { σ with shutdown := true, handles := σ.handles.set i .aborting }
      else some { σ with handles := σ.handles.set i (.releasing false) }
  | .aborting => some { σ with aborted := true, handles := σ.handles.set i (.releasing true) }
  | .releasing stopped =>
      some { σ with
        strongCount := σ.strongCount - 1
        handles := σ.handles.set i (.gone stopped) }
  | .gone _ => none

/-- A handle can be cloned, and `terminate` called on it, as long as it is not being dropped. -/
def step (σ : Shared) : Label → Option Shared
  | .clone i =>
      if σ.handles[i]? = some .live then
        some { σ with strongCount := σ.strongCount + 1, handles := σ.handles ++ [.live] }
      else none
  | .terminate i => if σ.handles[i]? = some .live then some { σ with shutdown := true } else none
  | .drop i => σ.handles[i]?.bind (dropStep σ i)

/-- What a step can do. -/
inductive Moves (σ : Shared) : Label → Shared → Prop
  | clone {i : ℕ} (hlive : σ.handles[i]? = some .live) :
      Moves σ (.clone i)
        { σ with strongCount := σ.strongCount + 1, handles := σ.handles ++ [.live] }
  | terminate {i : ℕ} (hlive : σ.handles[i]? = some .live) :
      Moves σ (.terminate i) { σ with shutdown := true }
  | count {i : ℕ} (hpc : σ.handles[i]? = some .live) :
      Moves σ (.drop i) { σ with handles := σ.handles.set i (.counted σ.strongCount) }
  | signal {i : ℕ} (hpc : σ.handles[i]? = some (.counted 1)) :
      Moves σ (.drop i) { σ with shutdown := true, handles := σ.handles.set i .aborting }
  | pass {i count : ℕ} (hpc : σ.handles[i]? = some (.counted count)) (hcount : count ≠ 1) :
      Moves σ (.drop i) { σ with handles := σ.handles.set i (.releasing false) }
  | abort {i : ℕ} (hpc : σ.handles[i]? = some .aborting) :
      Moves σ (.drop i) { σ with aborted := true, handles := σ.handles.set i (.releasing true) }
  | release {i : ℕ} {stopped : Bool} (hpc : σ.handles[i]? = some (.releasing stopped)) :
      Moves σ (.drop i)
        { σ with strongCount := σ.strongCount - 1, handles := σ.handles.set i (.gone stopped) }

lemma moves_of_step {σ σ' : Shared} {l : Label} (h : step σ l = some σ') : Moves σ l σ' := by
  cases l with
  | clone i =>
    simp only [step] at h
    split at h
    · next hlive =>
      cases h
      exact .clone hlive
    · cases h
  | terminate i =>
    simp only [step] at h
    split at h
    · next hlive =>
      cases h
      exact .terminate hlive
    · cases h
  | drop i =>
    obtain ⟨pc, hpc, hdrop⟩ := Option.bind_eq_some_iff.mp h
    cases pc with
    | live =>
      cases hdrop
      exact .count hpc
    | counted count =>
      simp only [dropStep] at hdrop
      split at hdrop
      · next hone =>
        cases hdrop
        subst hone
        exact .signal hpc
      · next hcount =>
        cases hdrop
        exact .pass hpc hcount
    | aborting =>
      cases hdrop
      exact .abort hpc
    | releasing stopped =>
      cases hdrop
      exact .release hpc
    | gone stopped => cases hdrop

end SsmBridge.Handles
