import Mathlib.Data.List.Basic

/-!
# A broadcast to the futures that are waiting

`tokio::sync::Notify`, as far as `notify_waiters` goes: it wakes exactly the futures that are
enqueued at that moment, and a future is enqueued by `enable` or by its first poll.  Every enqueued
future has a ticket, the number of futures enqueued before it, and `Notify` holds for each ticket
whether it was woken.

A waiter that enqueues itself and then finds its condition false relies on this: from then on,
whatever makes the condition true is followed by a broadcast that reaches it.  `Notify.Owed t c` is
that obligation, *the future with ticket `t` is enqueued, and it has been woken if `c`*, and the
lemmas say how the operations keep it.
-/

/-- The futures enqueued so far, and which of them were woken. -/
structure Notify where
  woken : List Bool
  deriving DecidableEq

namespace Notify

def new : Notify := ⟨[]⟩

/-- Enqueue a future; its ticket is the number of those before it. -/
def enable (n : Notify) : ℕ × Notify := (n.woken.length, ⟨n.woken ++ [false]⟩)

/-- Wake every future that is enqueued. -/
def notifyWaiters (n : Notify) : Notify := ⟨n.woken.map (fun _ => true)⟩

/-- The future with this ticket was woken. -/
def notified (n : Notify) (t : ℕ) : Bool := n.woken[t]? == some true

/-- The future is enqueued, and it has been woken if `c`. -/
def Owed (n : Notify) (t : ℕ) (c : Prop) : Prop := t < n.woken.length ∧ (c → n.notified t = true)

variable {n : Notify} {t : ℕ} {c c' : Prop}

@[simp] lemma notified_new : new.notified t = false := rfl

/-- Enqueueing a future wakes none. -/
@[simp] lemma notified_enable : n.enable.2.notified t = n.notified t := by
  simp only [notified, enable, List.getElem?_append]
  split_ifs with ht
  · rfl
  · cases t - n.woken.length with
    | zero => simp [List.getElem?_eq_none (Nat.le_of_not_lt ht)]
    | succ k => simp [List.getElem?_eq_none (Nat.le_of_not_lt ht)]

lemma notified_notifyWaiters : n.notifyWaiters.notified t = decide (t < n.woken.length) := by
  simp only [notified, notifyWaiters, List.getElem?_map]
  by_cases ht : t < n.woken.length <;> simp [ht]

/-! ## What a waiter is owed -/

/-- A future that was just enqueued is owed nothing yet. -/
lemma owed_enable (h : ¬ c) : n.enable.2.Owed n.enable.1 c :=
  ⟨by simp [enable], fun hc => absurd hc h⟩

lemma Owed.mono (h : n.Owed t c) (hc : c' → n.notified t = true ∨ c) : n.Owed t c' :=
  ⟨h.1, fun hc' => (hc hc').elim id h.2⟩

lemma Owed.enable (h : n.Owed t c) : n.enable.2.Owed t c := by
  refine ⟨?_, fun hc => by rw [notified_enable, h.2 hc]⟩
  simp only [Notify.enable, List.length_append, List.length_singleton]
  exact Nat.lt_succ_of_lt h.1

/-- A broadcast settles every obligation. -/
lemma Owed.notifyWaiters (h : n.Owed t c) : n.notifyWaiters.Owed t c' := by
  refine ⟨by simpa [Notify.notifyWaiters] using h.1, fun _ => ?_⟩
  rw [notified_notifyWaiters, decide_eq_true h.1]

/-- A future that was not woken is owed nothing. -/
lemma Owed.not_of_parked (h : n.Owed t c) (hparked : n.notified t = false) : ¬ c := by
  intro hc
  rw [h.2 hc] at hparked
  cases hparked

end Notify
