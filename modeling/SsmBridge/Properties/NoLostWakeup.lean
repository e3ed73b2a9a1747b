import SsmBridge.Properties.CloseVisible

/-!
# No lost wake-up

Every wait in `SessionCore` and `ShutdownSignal` enqueues its future, then tests its condition, and
only then parks; every signal sets the condition and then broadcasts.  So a task that parks found
the condition false with its future already enqueued, and whatever sets the condition afterwards is
followed by a broadcast that reaches it.

What a waiter relies on is a `Debt`: the ticket of its future, and what has to have happened for the
future to have been woken.  The invariant is that every debt is met.  A step meets every debt it
found met (`Debt.Met.after`) and leaves none that is new and not met (`debts_after`);
`no_lost_wakeup` reads off it that nobody is parked once a signal has been given.
-/

namespace SsmBridge.Wakeups

open Machine

variable {s s' : Core} {l : Label}

/-! ## Which signals have been given -/

/-- The close has notified those who wait in `closed()`. -/
def ClosePc.closedDone : ClosePc → Bool
  | .notifyingSendable _ | .notifyingAck _ | .completed _ => true
  | _ => false

/-- The close has notified those who wait in `wait_sendable()`. -/
def ClosePc.sendableDone : ClosePc → Bool
  | .notifyingAck _ | .completed _ => true
  | _ => false

/-- The flag is up and the notification of the raise has been issued. -/
def Core.Raised (s : Core) : Prop := s.sendable = true ∧ s.generation ∉ s.notifying

/-! ## What the waiters are owed -/

/-- The four broadcasts. -/
inductive Signal
  | closed
  | sendable
  | ack
  | shutdown

def Core.notify (s : Core) : Signal → Notify
  | .closed => s.closedNotify
  | .sendable => s.sendableNotify
  | .ack => s.ackNotify
  | .shutdown => s.shutdownNotify

/-- What has to have happened for a future to have been woken. -/
inductive Due
  /-- Nothing yet: the future is enqueued. -/
  | nothing (signal : Signal)
  | closed
  | raised
  | raisedOrClosed
  | shutdown
  /-- An acknowledgement, if one was noted. -/
  | ack (noted : Bool)

def Due.signal : Due → Signal
  | .nothing signal => signal
  | .closed => .closed
  | .raised | .raisedOrClosed => .sendable
  | .shutdown => .shutdown
  | .ack _ => .ack

def Due.Holds (s : Core) : Due → Prop
  | .nothing _ => False
  | .closed => s.closing.closedDone = true
  | .raised => s.Raised
  | .raisedOrClosed => s.Raised ∨ s.closing.sendableDone = true
  | .shutdown => s.shutdown = .completed
  | .ack noted => noted = true

/-- What a waiter is owed. -/
structure Debt where
  due : Due
  ticket : ℕ

/-- The future is enqueued, and it has been woken if it is due. -/
def Debt.Met (s : Core) (d : Debt) : Prop := (s.notify d.due.signal).Owed d.ticket (d.due.Holds s)

def ObserverPc.debts : ObserverPc → List Debt
  | .enabled t => [⟨.nothing .closed, t⟩]
  | .parked t => [⟨.closed, t⟩]
  | _ => []

def GatePc.debts : GatePc → List Debt
  | .enabled t => [⟨.nothing .sendable, t⟩]
  | .unsendable t => [⟨.raised, t⟩]
  | .parked t => [⟨.raisedOrClosed, t⟩]
  | _ => []

def CancelPc.debts : CancelPc → List Debt
  | .enabled t => [⟨.nothing .shutdown, t⟩]
  | .parked t => [⟨.shutdown, t⟩]
  | _ => []

def RoomPc.debts : RoomPc → List Debt
  | .enabled t => [⟨.nothing .ack, t⟩]
  | .full t acked => [⟨.ack acked, t⟩]
  | .registered t u acked => [⟨.ack acked, t⟩, ⟨.nothing .closed, u⟩]
  | .parked t u acked => [⟨.ack acked, t⟩, ⟨.closed, u⟩]
  | _ => []

/-- What all the waiters are owed. -/
def Core.debts (s : Core) : List Debt :=
  s.observers.flatMap ObserverPc.debts ++ s.gates.flatMap GatePc.debts ++
    s.cancels.flatMap CancelPc.debts ++ s.senders.flatMap RoomPc.debts

/-- Every waiter is owed only what it got. -/
structure Settled (s : Core) : Prop extends Stored s where
  triggered : s.triggered = decide (s.shutdown ≠ .idle)
  met : ∀ d ∈ s.debts, d.Met s

/-! ## Debts that were met stay met -/

/-- A session that is open has not begun to close. -/
lemma Stored.idle_of_open (hs : Stored s) (h : s.closed = false) : s.closing = .idle := by
  simpa [hs.closed] using h

/-- A step that broadcasts nothing the debt waits for, and makes nothing due that was not. -/
lemma Debt.Met.of_same {d : Debt} (h : d.Met s)
    (hnotify : s'.notify d.due.signal = s.notify d.due.signal)
    (hdue : d.due.Holds s' → d.due.Holds s) : d.Met s' := by
  rw [Debt.Met, hnotify]
  exact Notify.Owed.mono h fun h' => .inr (hdue h')

/-- A broadcast meets the debts that wait for it. -/
lemma Debt.Met.of_broadcast {d : Debt} (h : d.Met s)
    (hnotify : s'.notify d.due.signal = (s.notify d.due.signal).notifyWaiters) : d.Met s' := by
  rw [Debt.Met, hnotify]
  exact Notify.Owed.notifyWaiters h

lemma Debt.Met.of_enable {d : Debt} (h : d.Met s)
    (hnotify : s'.notify d.due.signal = (s.notify d.due.signal).enable.2)
    (hdue : d.due.Holds s' → d.due.Holds s) : d.Met s' := by
  rw [Debt.Met, hnotify]
  exact (Notify.Owed.enable h).mono fun h' => .inr (hdue h')

/-- **Every step keeps every debt met.** Whoever makes a condition true owes a wakeup to those who
wait for it, and stays on the way to it until it is given. -/
lemma Debt.Met.after {d : Debt} (hs : Stored s) (hd : d.Met s) (h : Effect s l s') :
    d.Met s' := by
  obtain ⟨due, t⟩ := d
  cases h with
  | closeSwap hopen =>
    have hidle := hs.idle_of_open hopen
    refine hd.of_same (by cases due <;> rfl) fun hdue => ?_
    cases due <;> simp_all [Due.Holds, ClosePc.closedDone, ClosePc.sendableDone, Core.Raised]
  | closeStore hpc =>
    refine hd.of_same (by cases due <;> rfl) fun hdue => ?_
    cases due <;> simp_all [Due.Holds, ClosePc.closedDone, ClosePc.sendableDone, Core.Raised]
  | closeFanout hpc =>
    refine hd.of_same (by cases due <;> rfl) fun hdue => ?_
    cases due <;> simp_all [Due.Holds, ClosePc.closedDone, ClosePc.sendableDone, Core.Raised]
  | closeClosed hpc =>
    cases hsignal : due.signal with
    | closed => exact hd.of_broadcast (by rw [hsignal]; rfl)
    | _ =>
      refine hd.of_same (by rw [hsignal]; rfl) fun hdue => ?_
      cases due <;> simp_all [Due.Holds, Due.signal, ClosePc.sendableDone, Core.Raised]
  | closeSendable hpc =>
    cases hsignal : due.signal with
    | sendable => exact hd.of_broadcast (by rw [hsignal]; rfl)
    | _ =>
      refine hd.of_same (by rw [hsignal]; rfl) fun hdue => ?_
      cases due <;> simp_all [Due.Holds, Due.signal, ClosePc.closedDone]
  | closeAck hpc =>
    cases hsignal : due.signal with
    | ack => exact hd.of_broadcast (by rw [hsignal]; rfl)
    | _ =>
      refine hd.of_same (by rw [hsignal]; rfl) fun hdue => ?_
      cases due <;> simp_all [Due.Holds, Due.signal, ClosePc.closedDone, ClosePc.sendableDone,
        Core.Raised]
  | raise hlow =>
    refine hd.of_same (by cases due <;> rfl) fun hdue => ?_
    cases due <;> simp_all [Due.Holds, Core.Raised]
  | lower =>
    refine hd.of_same (by cases due <;> rfl) fun hdue => ?_
    cases due <;> simp_all [Due.Holds, Core.Raised]
  | notifySendable hg =>
    cases hsignal : due.signal with
    | sendable => exact hd.of_broadcast (by rw [hsignal]; rfl)
    | _ =>
      refine hd.of_same (by rw [hsignal]; rfl) fun hdue => ?_
      cases due <;> simp_all [Due.Holds, Due.signal]
  | notifyAck =>
    cases hsignal : due.signal with
    | ack => exact hd.of_broadcast (by rw [hsignal]; rfl)
    | _ => exact hd.of_same (by rw [hsignal]; rfl) fun hdue => by cases due <;> exact hdue
  | trigger htriggered =>
    refine hd.of_same (by cases due <;> rfl) fun hdue => ?_
    cases due <;> simp_all [Due.Holds, Core.Raised]
  | notifyShutdown hpc =>
    cases hsignal : due.signal with
    | shutdown => exact hd.of_broadcast (by rw [hsignal]; rfl)
    | _ =>
      refine hd.of_same (by rw [hsignal]; rfl) fun hdue => ?_
      cases due <;> simp_all [Due.Holds, Due.signal, Core.Raised]
  | enterObserver =>
    cases hsignal : due.signal with
    | closed => exact hd.of_enable (by rw [hsignal]; rfl) fun hdue => by cases due <;> exact hdue
    | _ => exact hd.of_same (by rw [hsignal]; rfl) fun hdue => by cases due <;> exact hdue
  | enterGate =>
    cases hsignal : due.signal with
    | sendable => exact hd.of_enable (by rw [hsignal]; rfl) fun hdue => by cases due <;> exact hdue
    | _ => exact hd.of_same (by rw [hsignal]; rfl) fun hdue => by cases due <;> exact hdue
  | enterCancel =>
    cases hsignal : due.signal with
    | shutdown => exact hd.of_enable (by rw [hsignal]; rfl) fun hdue => by cases due <;> exact hdue
    | _ => exact hd.of_same (by rw [hsignal]; rfl) fun hdue => by cases due <;> exact hdue
  | enterSender =>
    cases hsignal : due.signal with
    | ack => exact hd.of_enable (by rw [hsignal]; rfl) fun hdue => by cases due <;> exact hdue
    | _ => exact hd.of_same (by rw [hsignal]; rfl) fun hdue => by cases due <;> exact hdue
  | registerSender =>
    cases hsignal : due.signal with
    | closed => exact hd.of_enable (by rw [hsignal]; rfl) fun hdue => by cases due <;> exact hdue
    | _ => exact hd.of_same (by rw [hsignal]; rfl) fun hdue => by cases due <;> exact hdue
  | _ => exact hd

/-! ## No step leaves a debt that is new and not met -/

lemma mem_debts {d : Debt} : d ∈ s.debts ↔
    d ∈ s.observers.flatMap ObserverPc.debts ∨ d ∈ s.gates.flatMap GatePc.debts ∨
      d ∈ s.cancels.flatMap CancelPc.debts ∨ d ∈ s.senders.flatMap RoomPc.debts := by
  simp only [Core.debts, List.mem_append, or_assoc]

lemma mem_flatMap_set {α : Type} {f : α → List Debt} {xs : List α} {i : ℕ} {x : α} {d : Debt}
    (h : d ∈ (xs.set i x).flatMap f) : d ∈ xs.flatMap f ∨ d ∈ f x := by
  obtain ⟨y, hy, hd⟩ := List.mem_flatMap.mp h
  rcases List.mem_or_eq_of_mem_set hy with hy | rfl
  · exact .inl (List.mem_flatMap.mpr ⟨y, hy, hd⟩)
  · exact .inr hd

lemma mem_flatMap_concat {α : Type} {f : α → List Debt} {xs : List α} {x : α} {d : Debt}
    (hx : f x = []) (h : d ∈ (xs ++ [x]).flatMap f) : d ∈ xs.flatMap f := by
  simpa [hx] using h

/-- What is owed to one task is owed. -/
lemma mem_flatMap_of_getElem? {α : Type} {f : α → List Debt} {xs : List α} {i : ℕ} {x : α}
    {d : Debt} (hx : xs[i]? = some x) (h : d ∈ f x) : d ∈ xs.flatMap f :=
  List.mem_flatMap.mpr ⟨x, List.mem_of_getElem? hx, h⟩

/-- An observer parks in a session that is open. -/
lemma ObserverMove.met {pc pc' : ObserverPc} (hs : Stored s) (hmove : ObserverMove s pc pc')
    (hpc : ∀ d ∈ pc.debts, d.Met s) : ∀ d ∈ pc'.debts, d.Met s := by
  cases hmove with
  | park hopen =>
    simp only [ObserverPc.debts, List.forall_mem_singleton] at *
    refine Notify.Owed.mono hpc fun hdue => ?_
    simp [Due.Holds, hs.idle_of_open hopen, ClosePc.closedDone] at hdue
  | _ => simp [ObserverPc.debts]

/-- A task waits at the gate when the flag was down, and parks in a session that is open. -/
lemma GateMove.met {pc pc' : GatePc} (hs : Stored s) (hmove : GateMove s pc pc')
    (hpc : ∀ d ∈ pc.debts, d.Met s) : ∀ d ∈ pc'.debts, d.Met s := by
  cases hmove with
  | unsendable hlow =>
    simp only [GatePc.debts, List.forall_mem_singleton] at *
    refine Notify.Owed.mono hpc fun hdue => ?_
    simp [Due.Holds, Core.Raised, hlow] at hdue
  | park hopen =>
    simp only [GatePc.debts, List.forall_mem_singleton] at *
    refine Notify.Owed.mono hpc fun hdue => .inr (hdue.resolve_right fun hdone => ?_)
    simp [hs.idle_of_open hopen, ClosePc.sendableDone] at hdone
  | _ => simp [GatePc.debts]

lemma CancelMove.met {pc pc' : CancelPc} (htriggered : s.triggered = decide (s.shutdown ≠ .idle))
    (hmove : CancelMove s pc pc') (hpc : ∀ d ∈ pc.debts, d.Met s) :
    ∀ d ∈ pc'.debts, d.Met s := by
  cases hmove with
  | park hup =>
    simp only [CancelPc.debts, List.forall_mem_singleton] at *
    refine Notify.Owed.mono hpc fun hdue => ?_
    have hdone : s.shutdown = .completed := hdue
    simp [htriggered, hdone] at hup
  | _ => simp [CancelPc.debts]

/-- A sender parks after a failed `track`, in a session that is open. -/
lemma RoomMove.met {pc pc' : RoomPc} (hs : Stored s) (hmove : RoomMove s pc pc')
    (hpc : ∀ d ∈ pc.debts, d.Met s) : ∀ d ∈ pc'.debts, d.Met s := by
  cases hmove with
  | full =>
    simp only [RoomPc.debts, List.forall_mem_singleton] at *
    refine Notify.Owed.mono hpc fun hdue => ?_
    simp [Due.Holds] at hdue
  | park hopen =>
    simp only [RoomPc.debts, List.forall_mem_cons, List.not_mem_nil, false_imp_iff,
      implies_true, and_true] at *
    refine ⟨hpc.1, Notify.Owed.mono hpc.2 fun hdue => ?_⟩
    simp [Due.Holds, hs.idle_of_open hopen, ClosePc.closedDone] at hdue
  | _ => simp [RoomPc.debts]

/-- `notify_ack` reaches the senders whose last `track` failed before it. -/
lemma met_noteAck {pc : RoomPc} {acking : ℕ} (hpc : ∀ d ∈ pc.debts, d.Met s) :
    ∀ d ∈ pc.noteAck.debts, d.Met { s with
      acking, ackNotify := s.ackNotify.notifyWaiters, senders := s.senders.map RoomPc.noteAck } := by
  cases pc with
  | entering => simp [RoomPc.noteAck, RoomPc.debts]
  | tracked => simp [RoomPc.noteAck, RoomPc.debts]
  | gaveUp => simp [RoomPc.noteAck, RoomPc.debts]
  | enabled t =>
    simp only [RoomPc.noteAck, RoomPc.debts, List.forall_mem_singleton] at *
    exact hpc.of_broadcast rfl
  | full t acked =>
    simp only [RoomPc.noteAck, RoomPc.debts, List.forall_mem_singleton] at *
    exact Notify.Owed.notifyWaiters hpc
  | registered t u acked =>
    simp only [RoomPc.noteAck, RoomPc.debts, List.forall_mem_cons, List.not_mem_nil,
      false_imp_iff, implies_true, and_true] at *
    exact ⟨Notify.Owed.notifyWaiters hpc.1, hpc.2⟩
  | parked t u acked =>
    simp only [RoomPc.noteAck, RoomPc.debts, List.forall_mem_cons, List.not_mem_nil,
      false_imp_iff, implies_true, and_true] at *
    exact ⟨Notify.Owed.notifyWaiters hpc.1, hpc.2⟩

/-- The debts after a step were there before, or are met. -/
lemma debts_after (hs : Settled s) (h : Effect s l s') :
    ∀ d ∈ s'.debts, d ∈ s.debts ∨ d.Met s' := by
  intro d hd
  rw [mem_debts] at hd ⊢
  cases h with
  | newObserver hnew =>
    refine .inl (hd.imp_left fun h => mem_flatMap_concat ?_ h)
    rcases hnew with rfl | rfl <;> rfl
  | newGate => exact .inl (hd.imp_right (Or.imp_left (mem_flatMap_concat rfl)))
  | newCancel => exact .inl (hd.imp_right (Or.imp_right (Or.imp_left (mem_flatMap_concat rfl))))
  | newSender => exact .inl (hd.imp_right (Or.imp_right (Or.imp_right (mem_flatMap_concat rfl))))
  | enterObserver =>
    rcases hd with hd | hd
    · rcases mem_flatMap_set hd with hd | hd
      · exact .inl (.inl hd)
      · rw [List.mem_singleton.mp hd]
        exact .inr (Notify.owed_enable (fun h => h))
    · exact .inl (.inr hd)
  | moveObserver hi hmove =>
    rcases hd with hd | hd
    · rcases mem_flatMap_set hd with hd | hd
      · exact .inl (.inl hd)
      · have hold := fun d hd => hs.met d (mem_debts.mpr (.inl (mem_flatMap_of_getElem? hi hd)))
        exact .inr (hmove.met hs.toStored hold d hd)
    · exact .inl (.inr hd)
  | enterGate =>
    rcases hd with hd | hd | hd
    · exact .inl (.inl hd)
    · rcases mem_flatMap_set hd with hd | hd
      · exact .inl (.inr (.inl hd))
      · rw [List.mem_singleton.mp hd]
        exact .inr (Notify.owed_enable (fun h => h))
    · exact .inl (.inr (.inr hd))
  | moveGate hi hmove =>
    rcases hd with hd | hd | hd
    · exact .inl (.inl hd)
    · rcases mem_flatMap_set hd with hd | hd
      · exact .inl (.inr (.inl hd))
      · have hold := fun d hd =>
          hs.met d (mem_debts.mpr (.inr (.inl (mem_flatMap_of_getElem? hi hd))))
        exact .inr (hmove.met hs.toStored hold d hd)
    · exact .inl (.inr (.inr hd))
  | enterCancel =>
    rcases hd with hd | hd | hd | hd
    · exact .inl (.inl hd)
    · exact .inl (.inr (.inl hd))
    · rcases mem_flatMap_set hd with hd | hd
      · exact .inl (.inr (.inr (.inl hd)))
      · rw [List.mem_singleton.mp hd]
        exact .inr (Notify.owed_enable (fun h => h))
    · exact .inl (.inr (.inr (.inr hd)))
  | moveCancel hi hmove =>
    rcases hd with hd | hd | hd | hd
    · exact .inl (.inl hd)
    · exact .inl (.inr (.inl hd))
    · rcases mem_flatMap_set hd with hd | hd
      · exact .inl (.inr (.inr (.inl hd)))
      · have hold := fun d hd =>
          hs.met d (mem_debts.mpr (.inr (.inr (.inl (mem_flatMap_of_getElem? hi hd)))))
        exact .inr (hmove.met hs.triggered hold d hd)
    · exact .inl (.inr (.inr (.inr hd)))
  | enterSender =>
    rcases hd with hd | hd | hd | hd
    · exact .inl (.inl hd)
    · exact .inl (.inr (.inl hd))
    · exact .inl (.inr (.inr (.inl hd)))
    · rcases mem_flatMap_set hd with hd | hd
      · exact .inl (.inr (.inr (.inr hd)))
      · rw [List.mem_singleton.mp hd]
        exact .inr (Notify.owed_enable (fun h => h))
  | registerSender hi =>
    rcases hd with hd | hd | hd | hd
    · exact .inl (.inl hd)
    · exact .inl (.inr (.inl hd))
    · exact .inl (.inr (.inr (.inl hd)))
    · rcases mem_flatMap_set hd with hd | hd
      · exact .inl (.inr (.inr (.inr hd)))
      · rcases List.mem_cons.mp hd with rfl | hd
        · have hack := mem_flatMap_of_getElem? (f := RoomPc.debts) hi List.mem_cons_self
          exact .inr (hs.met _ (mem_debts.mpr (.inr (.inr (.inr hack)))))
        · rw [List.mem_singleton.mp hd]
          exact .inr (Notify.owed_enable (fun h => h))
  | moveSender hi hmove =>
    rcases hd with hd | hd | hd | hd
    · exact .inl (.inl hd)
    · exact .inl (.inr (.inl hd))
    · exact .inl (.inr (.inr (.inl hd)))
    · rcases mem_flatMap_set hd with hd | hd
      · exact .inl (.inr (.inr (.inr hd)))
      · have hold := fun d hd =>
          hs.met d (mem_debts.mpr (.inr (.inr (.inr (mem_flatMap_of_getElem? hi hd)))))
        exact .inr (hmove.met hs.toStored hold d hd)
  | notifyAck =>
    rcases hd with hd | hd | hd | hd
    · exact .inl (.inl hd)
    · exact .inl (.inr (.inl hd))
    · exact .inl (.inr (.inr (.inl hd)))
    · obtain ⟨pc', hpc', hd⟩ := List.mem_flatMap.mp hd
      obtain ⟨pc, hpc, rfl⟩ := List.mem_map.mp hpc'
      have hold := fun d hd =>
        hs.met d (mem_debts.mpr (.inr (.inr (.inr (List.mem_flatMap.mpr ⟨pc, hpc, hd⟩)))))
      exact .inr (met_noteAck hold d hd)
  | _ => exact .inl hd

/-! ## Whole runs -/

lemma Settled.after (hs : Settled s) (h : Effect s l s') : Settled s' := by
  refine ⟨hs.toStored.after h, ?_, fun d hd => ?_⟩
  · cases h with
    | trigger => rfl
    | notifyShutdown hpc => simpa [hpc] using hs.triggered
    | _ => exact hs.triggered
  · rcases debts_after hs h d hd with hold | hmet
    · exact (hs.met d hold).after hs.toStored h
    · exact hmet

lemma settled_of_run {outgoing : OutgoingBuffer}
    (h : Reachable step free (Core.new outgoing) s) : Settled s :=
  h.invariant ⟨Stored.new outgoing, rfl, by simp [Core.new, Core.debts]⟩
    fun _ _ _ hs hstep _ => hs.after (step_effect hstep)

/-- A task that is parked is not due. -/
lemma Settled.not_due {d : Debt} (hs : Settled s) (hd : d ∈ s.debts)
    (hparked : (s.notify d.due.signal).notified d.ticket = false) : ¬ d.due.Holds s :=
  Notify.Owed.not_of_parked (hs.met d hd) hparked

/-! ## The result -/

/-- A task is parked in `closed()`: it waits there, and its future was not woken. -/
def Core.ParkedInClosed (s : Core) : Prop :=
  (∃ t, .parked t ∈ s.observers ∧ s.closedNotify.notified t = false) ∨
    ∃ t u acked, .parked t u acked ∈ s.senders ∧ s.closedNotify.notified u = false

def Core.ParkedInWaitSendable (s : Core) : Prop :=
  ∃ t, .parked t ∈ s.gates ∧ s.sendableNotify.notified t = false

def Core.ParkedInCancelled (s : Core) : Prop :=
  ∃ t, .parked t ∈ s.cancels ∧ s.shutdownNotify.notified t = false

/-- A sender is parked for room, and `notify_ack` ran after its last failed `track`. -/
def Core.ParkedDespiteAck (s : Core) : Prop :=
  ∃ t u, .parked t u true ∈ s.senders ∧ s.ackNotify.notified t = false

lemma Settled.not_parkedInClosed (hs : Settled s) (hdone : s.closing.closedDone = true) :
    ¬ s.ParkedInClosed := by
  rintro (⟨t, ht, hparked⟩ | ⟨t, u, acked, ht, hparked⟩)
  · have hd : (⟨.closed, t⟩ : Debt) ∈ s.debts :=
      mem_debts.mpr (.inl (List.mem_flatMap.mpr ⟨_, ht, List.mem_cons_self⟩))
    exact hs.not_due hd hparked hdone
  · have hd : (⟨.closed, u⟩ : Debt) ∈ s.debts := by
      refine mem_debts.mpr (.inr (.inr (.inr (List.mem_flatMap.mpr ⟨_, ht, ?_⟩))))
      exact List.mem_cons_of_mem _ List.mem_cons_self
    exact hs.not_due hd hparked hdone

lemma Settled.not_parkedInWaitSendable (hs : Settled s)
    (hdone : s.Raised ∨ s.closing.sendableDone = true) : ¬ s.ParkedInWaitSendable := by
  rintro ⟨t, ht, hparked⟩
  have hd : (⟨.raisedOrClosed, t⟩ : Debt) ∈ s.debts :=
    mem_debts.mpr (.inr (.inl (List.mem_flatMap.mpr ⟨_, ht, List.mem_cons_self⟩)))
  exact hs.not_due hd hparked hdone

/-- **No lost wake-up.** No reachable state, whatever the tasks and the order of their steps, has a
completed close and a task parked in `closed()` or `wait_sendable()`; a completed shutdown and a task
parked in `cancelled()`; the sendable flag up, with the notification of its raise issued, and a task
parked in `wait_sendable()`; or a sender parked for room when `notify_ack` ran after its last failed
`track`. -/
theorem no_lost_wakeup (outgoing : OutgoingBuffer) (s : Core)
    (h : Reachable step free (Core.new outgoing) s) :
    ¬ ((∃ r, s.closing = .completed r) ∧ (s.ParkedInClosed ∨ s.ParkedInWaitSendable)) ∧
    ¬ (s.shutdown = .completed ∧ s.ParkedInCancelled) ∧
    ¬ ((s.sendable = true ∧ s.generation ∉ s.notifying) ∧ s.ParkedInWaitSendable) ∧
    ¬ s.ParkedDespiteAck := by
  have hs := settled_of_run h
  refine ⟨?_, ?_, fun ⟨hraised, hparked⟩ => ?_, ?_⟩
  · rintro ⟨⟨r, hr⟩, hparked | hparked⟩
    · exact hs.not_parkedInClosed (by rw [hr]; rfl) hparked
    · exact hs.not_parkedInWaitSendable (.inr (by rw [hr]; rfl)) hparked
  · rintro ⟨hdone, t, ht, hparked⟩
    have hd : (⟨.shutdown, t⟩ : Debt) ∈ s.debts :=
      mem_debts.mpr (.inr (.inr (.inl (List.mem_flatMap.mpr ⟨_, ht, List.mem_cons_self⟩))))
    exact hs.not_due hd hparked hdone
  · exact hs.not_parkedInWaitSendable (.inl hraised) hparked
  · rintro ⟨t, u, ht, hparked⟩
    have hd : (⟨.ack true, t⟩ : Debt) ∈ s.debts :=
      mem_debts.mpr (.inr (.inr (.inr (List.mem_flatMap.mpr ⟨_, ht, List.mem_cons_self⟩))))
    exact hs.not_due hd hparked rfl

/-- A task parks in `closed()`, another in `wait_sendable()`, and the session is closed. -/
def closeRun : List Label :=
  [.observe .closed, .observerStep 0, .observerStep 0, .waitSendable, .gateStep 0, .gateStep 0,
    .gateStep 0, .close .terminated, .closeStep, .closeStep, .closeStep, .closeStep, .closeStep]

theorem no_lost_wakeup_closed :
    ∃ s : Core, s.closing = .completed .terminated ∧ s.observers = [.parked 0] ∧
      s.gates = [.parked 0] ∧ ¬ (s.ParkedInClosed ∨ s.ParkedInWaitSendable) := by
  have hrun : (run step sampleCore closeRun).any (fun s => decide
      (s.closing = .completed .terminated ∧ s.observers = [.parked 0] ∧ s.gates = [.parked 0])) =
      true := by
    decide +kernel
  obtain ⟨s, hs, hp⟩ := exists_of_run hrun
  obtain ⟨hclosed, hobservers, hgates⟩ := of_decide_eq_true hp
  exact ⟨s, hclosed, hobservers, hgates,
    fun hparked => (no_lost_wakeup _ s hs).1 ⟨⟨_, hclosed⟩, hparked⟩⟩

end SsmBridge.Wakeups
