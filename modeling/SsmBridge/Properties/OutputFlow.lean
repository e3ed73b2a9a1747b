import SsmBridge.Properties.LaneEnd
import SsmBridge.Properties.Reassembly
import SsmBridge.Properties.TasksStop

/-!
# From the session's output to the routed frames

What `recv_task` has routed, in terms of the session's output.  `Mux.Flow` is the invariant: the
frames decoded so far are the first frames of the output, and they are all of them once `recv_task`
has left its loop at the end of the output.  It holds as long as the session emits nothing before
`recv_task` has subscribed.

A step of the multiplexer takes at most one step on the shared state; `Mux.Effect` says which, and
`Mux.Aside` what the steps beside `recv_task` leave alone.
-/

namespace SsmBridge.Smux

open Machine StreamDecoder

/-! ## What a step can do -/

/-- `recv_task` is out of its loop. -/
def RecvPc.stopped : RecvPc → Bool
  | .leaving _ | .ended => true
  | _ => false

/-- The step calls `close` with the reason `Clean`. -/
def Mux.closesClean (σ : Mux) : MuxLabel → Bool
  | .dropSession => true
  | .send => σ.send == .leaving
  | .recv => σ.recv == .leaving .clean
  | _ => false

/-- Which steps on the shared state a step beside `recv_task` can take. -/
inductive Mux.Issues (m : Mux) (l : MuxLabel) : Label → Prop
  | caller {l' : Label} (hl : l = .caller l') (hcaller : l'.byCaller = true) : Issues m l l'
  | clean (h : m.closesClean l = true) : Issues m l (.close .clean)
  | closeStep : Issues m l .closeStep
  | closeSweep (i : ℕ) : Issues m l (.closeSweep i)
  | frameTaken : Issues m l .frameTaken
  | framesDropped : Issues m l .framesDropped
  | keepAlive : Issues m l .keepAlive
  | dieEnabled : Issues m l .dieEnabled

/-- `recv_task` and its input are as before. -/
structure Mux.SameInput (m m' : Mux) : Prop where
  recv : m'.recv = m.recv
  buf : m'.buf = m.buf
  output : m'.output = m.output
  emitted : m'.emitted = m.emitted
  consumed : m'.consumed = m.consumed
  fanoutClosed : m'.fanoutClosed = m.fanoutClosed
  sessionReason : m.sessionReason.isSome = true → m'.sessionReason = m.sessionReason

/-- A step beside `recv_task`: on the shared state, or on neither. -/
inductive Mux.Aside (m : Mux) (l : MuxLabel) (m' : Mux) : Prop
  | same (hinner : m'.inner = m.inner) (hinput : m.SameInput m')
  | acts (l' : Label) (hstep : m.inner.step l' = some m'.inner) (hissues : m.Issues l l')
      (hinput : m.SameInput m')

/-- The steps beside `recv_task`. -/
def MuxLabel.isAside : MuxLabel → Bool
  | .recv | .emit _ | .fanoutClose => false
  | _ => true

variable {m m' : Mux} {l : MuxLabel}

lemma Mux.Aside.of_act {l' : Label} {f : Mux → Mux} (hissues : m.Issues l l')
    (hf : ∀ τ, f τ = { τ with alive := (f τ).alive, send := (f τ).send, keepalive := (f τ).keepalive })
    (h : (m.act l').map f = some m') : m.Aside l m' := by
  obtain ⟨τ, hact, rfl⟩ := Option.map_eq_some_iff.mp h
  obtain ⟨inner, hstep, rfl⟩ := Mux.act_cases hact
  rw [hf]
  exact .acts l' hstep hissues ⟨rfl, rfl, rfl, rfl, rfl, rfl, fun _ => rfl⟩

/-- A step of a task on its own state and the session's commands. -/
lemma Mux.Aside.of_tasks (h : m' = { m with alive := m'.alive, send := m'.send
                                            keepalive := m'.keepalive, commands := m'.commands }) :
    m.Aside l m' := by
  rw [h]
  exact .same rfl ⟨rfl, rfl, rfl, rfl, rfl, rfl, fun _ => rfl⟩

lemma aside_of_sendStep (h : sendStep m = some m') : m.Aside .send m' := by
  unfold sendStep at h
  split at h
  · exact .of_act .dieEnabled (fun _ => rfl) h
  · cases h
    exact .of_tasks rfl
  · cases h
    exact .of_tasks rfl
  · unfold sendReceive at h
    split at h
    · cases h
      exact .of_tasks rfl
    · split at h
      · exact .of_act .frameTaken (fun _ => rfl) h
      · cases h
        exact .of_tasks rfl
  · split at h <;> cases h
    exact .of_tasks rfl
  · exact .of_act .dieEnabled (fun _ => rfl) h
  · cases h
    unfold sendFrame
    split
    · exact .of_tasks rfl
    · split <;> exact .of_tasks rfl
  · split at h
    · cases h
      exact .of_tasks rfl
    · split at h <;> cases h
      exact .of_tasks rfl
  · next hpc => exact .of_act (.clean (by simp [Mux.closesClean, hpc])) (fun _ => rfl) h
  · exact .of_act .framesDropped (fun _ => rfl) h
  · cases h

lemma aside_of_keepaliveStep {elapsed : Bool} (h : keepaliveStep m elapsed = some m') :
    m.Aside (.keepalive elapsed) m' := by
  unfold keepaliveStep at h
  split at h
  · exact .of_act .dieEnabled (fun _ => rfl) h
  · split at h
    · exact .of_act .keepAlive (fun _ => rfl) h
    · cases h
      exact .of_tasks rfl
  · split at h
    · cases h
      exact .of_tasks rfl
    · split at h
      · exact .of_act .keepAlive (fun _ => rfl) h
      · cases h
  · cases h
    exact .of_tasks rfl
  · cases h
  · cases h

theorem aside_of_step (hl : l.isAside = true) (h : m.step l = some m') : m.Aside l m' := by
  cases l with
  | recv | emit | fanoutClose => cases hl
  | send => exact aside_of_sendStep h
  | keepalive elapsed => exact aside_of_keepaliveStep h
  | caller l' =>
    simp only [Mux.step, callerStep] at h
    split at h
    · next hcaller =>
      rw [Bool.and_eq_true] at hcaller
      obtain ⟨inner, hstep, rfl⟩ := Mux.act_cases h
      exact .acts l' hstep (.caller rfl hcaller.1) ⟨rfl, rfl, rfl, rfl, rfl, rfl, fun _ => rfl⟩
    · cases h
  | dropSession =>
    simp only [Mux.step, dropSession] at h
    split at h
    · exact .of_act (.clean rfl) (fun _ => rfl) h
    · cases h
  | closeStep =>
    obtain ⟨inner, hstep, rfl⟩ := Mux.act_cases h
    exact .acts _ hstep .closeStep ⟨rfl, rfl, rfl, rfl, rfl, rfl, fun _ => rfl⟩
  | closeSweep i =>
    obtain ⟨inner, hstep, rfl⟩ := Mux.act_cases h
    exact .acts _ hstep (.closeSweep i) ⟨rfl, rfl, rfl, rfl, rfl, rfl, fun _ => rfl⟩
  | sessionClose reason =>
    cases h
    refine .same rfl ⟨rfl, rfl, rfl, rfl, rfl, rfl, fun hsome => ?_⟩
    obtain ⟨first, hfirst⟩ := Option.isSome_iff_exists.mp hsome
    simp [sessionClose, hfirst]
  | command data =>
    simp only [Mux.step] at h
    split at h <;> cases h
    exact .of_tasks rfl
  | commandTaken =>
    simp only [Mux.step] at h
    split at h <;> cases h
    exact .of_tasks rfl

/-- The steps that route frames. -/
def Label.routes : Label → Bool
  | .routePush _ _ | .routeStep _ | .routeFin _ _ => true
  | _ => false

lemma routes_of_byCaller {l' : Label} (h : l'.byCaller = true) : l'.routes = false := by
  cases l' with
  | routePush | routeStep | routeFin => cases h
  | _ => rfl

/-- Only `recv_task` routes frames. -/
lemma Mux.Issues.routes {l' : Label} (h : m.Issues l l') : l'.routes = false := by
  cases h with
  | caller hl hcaller => exact routes_of_byCaller hcaller
  | _ => rfl

/-- Which steps on the shared state a step can take. -/
inductive Mux.Takes (m : Mux) (l : MuxLabel) : Label → Prop
  | issued {l' : Label} (h : m.Issues l l') : Takes m l l'
  | routes {l' : Label} (hl : l'.routes = true) (hrun : m.recv.stopped = false) : Takes m l l'
  | closes {reason : StreamCloseReason} (hl : l = .recv) (hrecv : m.recv = .leaving reason) :
      Takes m l (.close reason)

/-- What a step does to the shared state. -/
def Mux.Effect (m : Mux) (l : MuxLabel) (m' : Mux) : Prop :=
  m'.inner = m.inner ∨ ∃ l', m.inner.step l' = some m'.inner ∧ m.Takes l l'

lemma effect_of_recvNext {t : ℕ} (h : recvNext m t = some m') : m.Effect .recv m' := by
  unfold recvNext at h
  split at h
  · split at h
    · cases h
      exact .inl rfl
    · split at h <;> cases h <;> exact .inl rfl
  · cases h

lemma effect_of_recvDispatch (hrun : m.recv.stopped = false) (h : recvDispatch m = some m') :
    m.Effect .recv m' := by
  unfold recvDispatch at h
  split at h
  · cases h
    exact .inl rfl
  · cases h
    exact .inl rfl
  · split at h
    · obtain ⟨τ, hact, rfl⟩ := Option.map_eq_some_iff.mp h
      obtain ⟨inner, hstep, rfl⟩ := Mux.act_cases hact
      exact .inr ⟨_, hstep, .routes rfl hrun⟩
    · split at h
      · obtain ⟨τ, hact, rfl⟩ := Option.map_eq_some_iff.mp h
        obtain ⟨inner, hstep, rfl⟩ := Mux.act_cases hact
        exact .inr ⟨_, hstep, .routes rfl hrun⟩
      · cases h
        exact .inl rfl

lemma effect_of_recvStep (h : recvStep m = some m') : m.Effect .recv m' := by
  unfold recvStep at h
  split at h
  · cases h
    exact .inl rfl
  · obtain ⟨τ, hact, rfl⟩ := Option.map_eq_some_iff.mp h
    obtain ⟨inner, hstep, rfl⟩ := Mux.act_cases hact
    exact .inr ⟨_, hstep, .issued .dieEnabled⟩
  · exact effect_of_recvNext h
  · split at h
    · cases h
      exact .inl rfl
    · split at h <;> cases h
      exact .inl rfl
  · next hpc => exact effect_of_recvDispatch (by rw [hpc]; rfl) h
  · next id hpc =>
    obtain ⟨τ, hact, rfl⟩ := Option.map_eq_some_iff.mp h
    obtain ⟨inner, hstep, rfl⟩ := Mux.act_cases hact
    refine .inr ⟨.routeStep id, ?_, .routes rfl (by rw [hpc]; rfl)⟩
    split <;> exact hstep
  · next reason hpc =>
    obtain ⟨τ, hact, rfl⟩ := Option.map_eq_some_iff.mp h
    obtain ⟨inner, hstep, rfl⟩ := Mux.act_cases hact
    exact .inr ⟨_, hstep, .closes rfl hpc⟩
  · cases h

theorem effect_of_step (h : m.step l = some m') : m.Effect l m' := by
  cases hl : l.isAside with
  | true =>
    cases aside_of_step hl h with
    | same hinner hinput => exact .inl hinner
    | acts l' hstep hissues hinput => exact .inr ⟨l', hstep, .issued hissues⟩
  | false =>
    cases l with
    | recv => exact effect_of_recvStep h
    | emit chunk =>
      simp only [Mux.step, emit] at h
      split at h <;> cases h
      exact .inl rfl
    | fanoutClose =>
      simp only [Mux.step, fanoutClose] at h
      split at h <;> cases h
      exact .inl rfl
    | caller | dropSession | closeStep | closeSweep | send | keepalive | sessionClose | command
    | commandTaken => cases hl

/-- What `recv_task` does once it is out of its loop. -/
lemma recvStep_of_stopped (h : recvStep m = some m') (hstopped : m.recv.stopped = true) :
    m' = { m with inner := m'.inner, recv := .ended } := by
  unfold recvStep at h
  split at h
  case h_7 =>
    obtain ⟨τ, hact, rfl⟩ := Option.map_eq_some_iff.mp h
    obtain ⟨inner, hstep, rfl⟩ := Mux.act_cases hact
    rfl
  case h_8 => cases h
  all_goals next hpc => rw [hpc] at hstopped; cases hstopped

/-- `recv_task` does not go back into its loop. -/
lemma stopped_of_step (h : m.step l = some m') (hstopped : m.recv.stopped = true) :
    m'.recv.stopped = true := by
  cases hl : l.isAside with
  | true =>
    cases aside_of_step hl h with
    | same hinner hinput => rw [hinput.recv, hstopped]
    | acts l' hstep hissues hinput => rw [hinput.recv, hstopped]
  | false =>
    cases l with
    | recv =>
      rw [recvStep_of_stopped h hstopped]
      rfl
    | emit chunk =>
      simp only [Mux.step, emit] at h
      split at h <;> cases h
      exact hstopped
    | fanoutClose =>
      simp only [Mux.step, fanoutClose] at h
      split at h <;> cases h
      exact hstopped
    | caller | dropSession | closeStep | closeSweep | send | keepalive | sessionClose | command
    | commandTaken => cases hl

/-! ## Frames of the output -/

/-- A frame that `dispatch` routes. -/
def Frame.isRouted (f : Frame) : Bool := f.cmd == cmdPsh || f.cmd == cmdFin

/-- A FIN for this id. -/
def Frame.isFin (id : UInt32) (f : Frame) : Bool := f.cmd == cmdFin && f.streamId == id

/-- The payload bytes of the PSH frames with this id. -/
def pushed (id : UInt32) (frames : List Frame) : Bytes :=
  ((frames.filter (fun f => f.cmd == cmdPsh && f.streamId == id)).map Frame.payload).flatten

/-- The frames in the output of the session. -/
def Mux.frames (σ : Mux) : List Frame := items decoder σ.emitted.flatten

/-- The routed frames with an id. -/
def routedOf (id : UInt32) (seen : List Frame) : List Frame :=
  (seen.filter Frame.isRouted).filter (fun f => f.streamId == id)

section

variable {id : UInt32} {seen : List Frame} {st : SmuxStream}

lemma any_routedOf :
    (routedOf id seen).any (fun f => f.cmd == cmdFin) = seen.any (Frame.isFin id) := by
  induction seen with
  | nil => rfl
  | cons f seen ih =>
    simp only [routedOf, Frame.isRouted, Frame.isFin, List.any_filter, List.any_cons] at ih ⊢
    rw [ih]
    cases f.cmd == cmdFin <;> simp

/-- What was addressed to a stream is what the output holds for its id. -/
lemma addressed_routedOf (h : st.since = 0) :
    (st.addressed (routedOf id seen)).flatten = pushed id seen := by
  simp only [SmuxStream.addressed, h, List.drop_zero, pushed, routedOf, List.filter_filter]
  congr 3
  funext f
  simp only [Frame.isRouted]
  cases f.cmd == cmdPsh <;> simp

lemma beforeFin_routedOf :
    beforeFin (routedOf id seen) = routedOf id (seen.takeWhile (fun f => !f.isFin id)) := by
  induction seen with
  | nil => rfl
  | cons f seen ih =>
    simp only [beforeFin, routedOf] at ih
    cases hid : f.streamId == id <;> cases hcmd : f.cmd == cmdFin <;> cases hpsh : f.cmd == cmdPsh <;>
      simp_all [beforeFin, routedOf, Frame.isRouted, Frame.isFin, List.takeWhile_cons]

end

/-! ## From the output to the routed frames -/

/-- `recv_task` has taken every frame off its buffer. -/
def RecvPc.settled : RecvPc → Bool
  | .starting | .selecting | .polled _ | .parked _ => true
  | _ => false

/-- `seen` are the frames that `dispatch` has decoded. -/
structure Mux.Decoded (σ : Mux) (seen : List Frame) : Prop where
  routed : σ.inner.routed = seen.filter Frame.isRouted
  upTo : ∀ more, seen <+: items decoder (σ.consumed.flatten ++ more)
  running : σ.recv.stopped = false → ∀ more,
    items decoder (σ.consumed.flatten ++ more) = seen ++ items decoder (σ.buf ++ more)
  whole : σ.recv.stopped = true → items decoder σ.consumed.flatten = seen
  settled : σ.recv.settled = true → decodeFrame σ.buf = .incomplete

/-- What became of the output: `lost` did not reach the queue of `recv_task`. -/
structure Mux.Received (σ : Mux) (o : OutputStream) (lost : List Bytes) : Prop where
  emitted : σ.emitted = σ.consumed ++ o.queue ++ lost
  attached : o.attached = true → lost = []
  lagged : o.lagged = false → lost = []
  detached : o.attached = false → o.lagged = true ∨ σ.fanoutClosed = true
  dropped : o.dropped = false

/-- `recv_task` has come to the end of the output. -/
structure Mux.Drained (σ : Mux) : Prop where
  consumed : σ.consumed = σ.emitted
  fanoutClosed : σ.fanoutClosed = true

/-- The invariant of `recv_task` and its input. -/
structure Mux.Flow (σ : Mux) : Prop where
  latched : σ.inner.Latched
  notified : ∀ t, σ.inner.die.notified t = true → σ.inner.closed = true
  routing : σ.inner.router ≠ .idle → ∃ id, σ.recv = .routing id
  starting : σ.recv = .starting → σ.output = none
  unsubscribed : σ.output = none → σ.emitted = [] ∧ σ.consumed = []
  received : ∀ o, σ.output = some o → ∃ lost, σ.Received o lost
  decoded : ∃ seen, σ.Decoded seen
  leaving : σ.recv = .leaving .clean → σ.inner.closed = true ∨ σ.Drained

variable {seen : List Frame} {o : OutputStream} {lost : List Bytes} {chunk : Bytes}

namespace Mux.Decoded

lemma of_eq (h : m.Decoded seen) (hrouted : m'.inner.routed = m.inner.routed)
    (hconsumed : m'.consumed = m.consumed) (hbuf : m'.buf = m.buf) (hrecv : m'.recv = m.recv) :
    m'.Decoded seen := by
  refine ⟨hrouted.trans h.routed, ?_, ?_, ?_, ?_⟩
  · rw [hconsumed]
    exact h.upTo
  · rw [hrecv, hconsumed, hbuf]
    exact h.running
  · rw [hrecv, hconsumed]
    exact h.whole
  · rw [hrecv, hbuf]
    exact h.settled

/-- `recv_task` moves on inside its loop. -/
lemma recvTo {pc : RecvPc} (h : m.Decoded seen) (hrun : m.recv.stopped = false)
    (hpc : pc.stopped = false) (hsettled : pc.settled = true → decodeFrame m.buf = .incomplete) :
    ({ m with recv := pc } : Mux).Decoded seen where
  routed := h.routed
  upTo := h.upTo
  running _ := h.running hrun
  whole hs := absurd (hpc.symm.trans hs) (by simp)
  settled := hsettled

/-- `recv_task` leaves its loop with nothing to decode on its buffer. -/
lemma leave {reason : StreamCloseReason} {buf : Bytes} (h : m.Decoded seen)
    (hrun : m.recv.stopped = false) (hbuf : items decoder m.buf = []) :
    ({ m with buf := buf, recv := .leaving reason } : Mux).Decoded seen where
  routed := h.routed
  upTo := h.upTo
  running hs := by cases hs
  whole _ := by
    have hrunning := h.running hrun []
    rw [List.append_nil, List.append_nil, hbuf, List.append_nil] at hrunning
    exact hrunning
  settled hs := by cases hs

/-- A chunk is taken off the output. -/
lemma receive {output : Option OutputStream} (h : m.Decoded seen) (hrun : m.recv.stopped = false) :
    ({ m with output := output, buf := m.buf ++ chunk, consumed := m.consumed ++ [chunk]
              recv := .dispatching } : Mux).Decoded seen where
  routed := h.routed
  upTo more := by
    rw [List.flatten_append, List.flatten_singleton, List.append_assoc]
    exact h.upTo (chunk ++ more)
  running _ more := by
    rw [List.flatten_append, List.flatten_singleton, List.append_assoc, List.append_assoc]
    exact h.running hrun (chunk ++ more)
  whole hs := by cases hs
  settled hs := by cases hs

/-- A frame is taken off the buffer. -/
lemma frame {f : Frame} {rest : Bytes} {inner : Inner} {pc : RecvPc} (h : m.Decoded seen)
    (hrun : m.recv.stopped = false) (hdecode : decodeFrame m.buf = .item f rest)
    (hpc : pc.stopped = false) (hsettled : pc.settled = false)
    (hrouted : inner.routed = if f.isRouted then m.inner.routed ++ [f] else m.inner.routed) :
    ({ m with inner := inner, buf := rest, recv := pc } : Mux).Decoded (seen ++ [f]) := by
  have hrunning : ∀ more, items decoder (m.consumed.flatten ++ more) =
      seen ++ [f] ++ items decoder (rest ++ more) := by
    intro more
    have hitem : decoder.decode (m.buf ++ more) = .item f (rest ++ more) :=
      decodeFrame_append_of_item more hdecode
    rw [h.running hrun more, items_item hitem, List.append_assoc]
    rfl
  refine ⟨?_, fun more => ?_, fun _ => hrunning, fun hs => ?_, fun hs => ?_⟩
  · rw [show ({ m with inner := inner, buf := rest, recv := pc } : Mux).inner = inner from rfl, hrouted,
      List.filter_append, h.routed]
    cases hf : f.isRouted <;> simp [hf]
  · rw [show ({ m with inner := inner, buf := rest, recv := pc } : Mux).consumed = m.consumed from rfl,
      hrunning more]
    exact List.prefix_append _ _
  · exact absurd (hpc.symm.trans hs) (by simp)
  · exact absurd (hsettled.symm.trans hs) (by simp)

end Mux.Decoded

namespace Mux.Received

/-- A chunk is offered to the queue of `recv_task`. -/
lemma offer (h : m.Received o lost) (hopen : m.fanoutClosed = false) :
    ∃ lost, ({ m with emitted := m.emitted ++ [chunk], output := m.output.map (.offer chunk) } :
      Mux).Received (o.offer chunk) lost := by
  unfold OutputStream.offer
  split
  · next hdetached =>
    have hlag : o.lagged = true := by
      rcases h.detached (by simpa using hdetached) with hl | hc
      · exact hl
      · simp [hopen] at hc
    refine ⟨lost ++ [chunk], ?_, ?_, ?_, fun _ => .inl hlag, h.dropped⟩
    · simp [h.emitted]
    · exact fun ha => absurd ha (by simpa using hdetached)
    · exact fun hl => absurd (hlag.symm.trans hl) (by simp)
  · next hattached =>
    have hnone : lost = [] := h.attached (by simpa using hattached)
    simp only [h.dropped, Bool.false_eq_true, if_false]
    split
    · refine ⟨[chunk], ?_, ?_, ?_, fun _ => .inl rfl, rfl⟩
      · simp [h.emitted, hnone]
      · intro ha
        cases ha
      · intro hl
        cases hl
    · refine ⟨[], ?_, fun _ => rfl, fun _ => rfl, h.detached, rfl⟩
      simp [h.emitted, hnone]

/-- A chunk is taken off it. -/
lemma take {rest : List Bytes} {buf : Bytes} {pc : RecvPc} (h : m.Received o lost)
    (hqueue : o.queue = chunk :: rest) :
    ({ m with output := some { o with queue := rest }, buf := buf
              consumed := m.consumed ++ [chunk], recv := pc } : Mux).Received
      { o with queue := rest } lost := by
  refine ⟨?_, h.attached, h.lagged, h.detached, h.dropped⟩
  simp [h.emitted, hqueue]

/-- The output has ended without a lag. -/
lemma drained (h : m.Received o lost) (hqueue : o.queue = []) (hattached : o.attached = false)
    (hlagged : o.lagged = false) : m.Drained := by
  refine ⟨?_, ?_⟩
  · rw [h.emitted, hqueue, h.lagged hlagged]
    simp
  · rcases h.detached hattached with hl | hc
    · simp [hlagged] at hl
    · exact hc

lemma of_eq (h : m.Received o lost) (hemitted : m'.emitted = m.emitted)
    (hconsumed : m'.consumed = m.consumed) (hfanout : m.fanoutClosed = true → m'.fanoutClosed = true) :
    m'.Received o lost := by
  refine ⟨?_, h.attached, h.lagged, fun ha => (h.detached ha).imp_right hfanout, h.dropped⟩
  rw [hemitted, hconsumed]
  exact h.emitted

end Mux.Received

/-! ### Steps -/

lemma routing_of_step {σ σ' : Inner} {l : Label} (hl : l.routes = false) (h : σ.step l = some σ') :
    σ'.router = σ.router ∧ σ'.routed = σ.routed := by
  cases hlocal : l.isLocal with
  | true =>
    have hsame := sameShared_of_step hlocal h
    exact ⟨hsame.router, hsame.routed⟩
  | false =>
    cases takes_of_step h with
    | close =>
      unfold close
      split <;> exact ⟨rfl, rfl⟩
    | closeNotify | closeLock | closeClear | dieEnabled => exact ⟨rfl, rfl⟩
    | pushFound | pushUnknown | sendGone | sendFull | sendQueued | evict | remove | reply | finFound
    | finUnknown => cases hl
    | openAdmit | openNumber | openRegister | openReturn | openRefuse | openWithdraw | closeSweep
    | readClosed | readRemainder | readQueue | readPending | readEnd | pollThrottled | pollClosed
    | writeRefused | write | shutdownIdle | shutdownGone | shutdown | dropQuietly | dropStream
    | dropRemove | dropRelease | frameTaken | framesDropped | keepAlive => cases hlocal

lemma routed_of_routePush {σ σ' : Inner} {id : UInt32} {payload : Bytes}
    (h : σ.step (.routePush id payload) = some σ') :
    σ'.routed = σ.routed ++ [⟨cmdPsh, id, payload⟩] := by
  cases takes_of_step h with
  | pushFound | pushUnknown => rfl

lemma routed_of_routeFin {σ σ' : Inner} {id : UInt32} {payload : Bytes}
    (h : σ.step (.routeFin id payload) = some σ') :
    σ'.router = σ.router ∧ σ'.routed = σ.routed ++ [⟨cmdFin, id, payload⟩] := by
  cases takes_of_step h with
  | finFound | finUnknown => exact ⟨rfl, rfl⟩

lemma routed_of_routeStep {σ σ' : Inner} {id : UInt32} (h : σ.step (.routeStep id) = some σ') :
    σ'.routed = σ.routed := by
  cases takes_of_step h with
  | sendGone | sendFull | sendQueued | evict | remove => rfl
  | reply =>
    unfold Inner.tryFrame
    split <;> rfl

/-- A future that was woken was woken by a close. -/
lemma closed_of_notified {σ σ' : Inner} {l : Label} (hlatched : σ.Latched)
    (h : ∀ t, σ.die.notified t = true → σ.closed = true) (hstep : σ.step l = some σ') :
    ∀ t, σ'.die.notified t = true → σ'.closed = true := by
  intro t ht
  cases signals_of_step hstep with
  | kept hdie hclosing hclosed =>
    rw [hclosed]
    exact h t (hdie ▸ ht)
  | enabled hdie hclosing hclosed =>
    rw [hclosed]
    rw [hdie, Notify.notified_enable] at ht
    exact h t ht
  | raised reason hdie hclosing hclosed => exact hclosed
  | notified hdie hclosed hclosing => exact hclosed.trans (hlatched hclosing)
  | advanced hdie hclosed hclosing => exact hclosed.trans (hlatched hclosing)

lemma closed_of_step {σ σ' : Inner} {l : Label} (h : σ.step l = some σ') (hclosed : σ.closed = true) :
    σ'.closed = true := by
  cases signals_of_step h with
  | kept _ _ hc | enabled _ _ hc => exact hc.trans hclosed
  | raised _ _ _ hc => exact hc
  | notified _ hc | advanced _ hc => exact hc.trans hclosed

namespace Mux.Flow

lemma new (config : SmuxConfig) (capacity : ℕ) : (Mux.new config capacity).Flow where
  latched h := absurd rfl h
  notified t h := by
    rw [show (Mux.new config capacity).inner.die = Notify.new from rfl, Notify.notified_new] at h
    cases h
  routing h := absurd rfl h
  starting _ := rfl
  unsubscribed _ := ⟨rfl, rfl⟩
  received o h := by cases h
  decoded := by
    refine ⟨[], rfl, fun _ => List.nil_prefix, fun _ _ => rfl, fun hs => ?_, fun _ => rfl⟩
    cases hs
  leaving h := by cases h

/-- A step on the shared state that routes nothing. -/
lemma act {l : Label} (h : m.Flow) (hl : l.routes = false) (hact : m.act l = some m') :
    m'.Flow := by
  obtain ⟨inner, hstep, rfl⟩ := Mux.act_cases hact
  obtain ⟨hrouter, hrouted⟩ := routing_of_step hl hstep
  obtain ⟨seen, hseen⟩ := h.decoded
  refine ⟨h.latched.step hstep, closed_of_notified h.latched h.notified hstep, ?_, h.starting,
    h.unsubscribed, ?_, ⟨seen, hseen.of_eq hrouted rfl rfl rfl⟩, ?_⟩
  · intro hne
    exact h.routing (hrouter ▸ hne)
  · intro o ho
    obtain ⟨lost, hlost⟩ := h.received o ho
    exact ⟨lost, hlost.of_eq rfl rfl (fun hc => hc)⟩
  · intro hl
    rcases h.leaving hl with hc | hd
    · exact .inl (closed_of_step hstep hc)
    · exact .inr ⟨hd.consumed, hd.fanoutClosed⟩

/-- Something that `recv_task` and its input do not depend on changes. -/
lemma of_eq (h : m.Flow) (hinner : m'.inner = m.inner) (hrecv : m'.recv = m.recv)
    (hbuf : m'.buf = m.buf) (houtput : m'.output = m.output) (hemitted : m'.emitted = m.emitted)
    (hconsumed : m'.consumed = m.consumed) (hfanout : m'.fanoutClosed = m.fanoutClosed) : m'.Flow := by
  obtain ⟨seen, hseen⟩ := h.decoded
  refine ⟨?_, ?_, ?_, ?_, ?_, fun o ho => ?_,
    ⟨seen, hseen.of_eq (by rw [hinner]) hconsumed hbuf hrecv⟩, ?_⟩
  · rw [hinner]
    exact h.latched
  · rw [hinner]
    exact h.notified
  · rw [hinner, hrecv]
    exact h.routing
  · rw [hrecv, houtput]
    exact h.starting
  · rw [houtput, hemitted, hconsumed]
    exact h.unsubscribed
  · obtain ⟨lost, hlost⟩ := h.received o (houtput ▸ ho)
    exact ⟨lost, hlost.of_eq hemitted hconsumed (fun hc => hfanout.trans hc)⟩
  · rw [hrecv, hinner]
    intro hl
    refine (h.leaving hl).imp_right fun hd => ⟨?_, hfanout.trans hd.fanoutClosed⟩
    rw [hconsumed, hemitted]
    exact hd.consumed

/-- `recv_task` moves on inside its loop. -/
lemma recvTo {pc : RecvPc} (h : m.Flow) (hrun : m.recv.stopped = false) (hidle : m.inner.router = .idle)
    (hpc : pc.stopped = false) (hstarting : pc ≠ .starting)
    (hsettled : pc.settled = true → decodeFrame m.buf = .incomplete) :
    ({ m with recv := pc } : Mux).Flow := by
  obtain ⟨seen, hseen⟩ := h.decoded
  refine ⟨h.latched, h.notified, fun hne => absurd hidle hne, fun hs => absurd hs hstarting,
    h.unsubscribed, fun o ho => ?_,
    ⟨seen, hseen.recvTo hrun hpc hsettled⟩, fun hl => ?_⟩
  · obtain ⟨lost, hlost⟩ := h.received o ho
    exact ⟨lost, hlost.of_eq rfl rfl (fun hc => hc)⟩
  · have hl : pc = .leaving .clean := hl
    rw [hl] at hpc
    cases hpc

/-- `recv_task` leaves its loop. -/
lemma leave {reason : StreamCloseReason} {buf : Bytes} (h : m.Flow) (hrun : m.recv.stopped = false)
    (hidle : m.inner.router = .idle) (hbuf : items decoder m.buf = [])
    (hclean : reason = .clean → m.inner.closed = true ∨ m.Drained) :
    ({ m with buf := buf, recv := .leaving reason } : Mux).Flow := by
  obtain ⟨seen, hseen⟩ := h.decoded
  refine ⟨h.latched, h.notified, fun hne => absurd hidle hne, fun hs => ?_, h.unsubscribed,
    fun o ho => ?_, ⟨seen, hseen.leave hrun hbuf⟩, fun hl => ?_⟩
  · cases hs
  · obtain ⟨lost, hlost⟩ := h.received o ho
    exact ⟨lost, hlost.of_eq rfl rfl (fun hc => hc)⟩
  · cases hl
    exact (hclean rfl).imp_right fun hd => ⟨hd.consumed, hd.fanoutClosed⟩

/-- Outside `route_push` nothing is being routed. -/
lemma idle (h : m.Flow) (hrecv : ∀ id, m.recv ≠ .routing id) : m.inner.router = .idle := by
  by_contra hne
  obtain ⟨id, hid⟩ := h.routing hne
  exact hrecv id hid

lemma settled (h : m.Flow) (hrecv : m.recv.settled = true) : decodeFrame m.buf = .incomplete := by
  obtain ⟨seen, hseen⟩ := h.decoded
  exact hseen.settled hrecv

lemma subscribe (h : m.Flow) (hpc : m.recv = .starting) : (recvSubscribe m).Flow := by
  obtain ⟨seen, hseen⟩ := h.decoded
  obtain ⟨hemitted, hconsumed⟩ := h.unsubscribed (h.starting hpc)
  have hrun : m.recv.stopped = false := by rw [hpc]; rfl
  refine ⟨h.latched, h.notified, fun hne => ?_, fun hs => ?_, fun ho => ?_, fun o ho => ?_,
    ⟨seen, ?_⟩, fun hl => ?_⟩
  · exact absurd (h.idle (by simp [hpc])) hne
  · cases hs
  · cases ho
  · cases ho
    refine ⟨[], ?_, fun _ => rfl, fun _ => rfl, fun ha => .inr ?_, rfl⟩
    · simp [recvSubscribe, hemitted, hconsumed]
    · show m.fanoutClosed = true
      simpa using ha
  · have hsettled := hseen.settled (by rw [hpc]; rfl)
    exact (hseen.recvTo hrun rfl (fun _ => hsettled)).of_eq rfl rfl rfl rfl
  · cases hl

/-- The poll of the output. -/
lemma next {t : ℕ} (h : m.Flow) (hpc : m.recv = .polled t) (hstep : recvNext m t = some m') :
    m'.Flow := by
  have hrun : m.recv.stopped = false := by rw [hpc]; rfl
  have hidle := h.idle (by simp [hpc])
  have hsettled := h.settled (by rw [hpc]; rfl)
  unfold recvNext at hstep
  split at hstep
  · next o ho =>
    obtain ⟨lost, hlost⟩ := h.received o ho
    split at hstep
    · next chunk rest hqueue =>
      cases hstep
      obtain ⟨seen, hseen⟩ := h.decoded
      refine ⟨h.latched, h.notified, fun hne => absurd hidle hne, fun hs => ?_, fun ho => ?_,
        fun o' ho' => ?_, ⟨seen, hseen.receive hrun⟩, fun hl => ?_⟩
      · cases hs
      · cases ho
      · cases ho'
        exact ⟨lost, hlost.take hqueue⟩
      · cases hl
    · next hqueue =>
      split at hstep <;> cases hstep
      · exact h.recvTo hrun hidle rfl (by simp) (fun _ => hsettled)
      · next hattached =>
        refine h.leave hrun hidle (items_incomplete hsettled) fun hclean => .inr ?_
        refine hlost.drained hqueue (by simpa using hattached) ?_
        by_contra hlagged
        simp [hlagged] at hclean
  · cases hstep

/-- A frame is taken off the buffer and acted on. -/
lemma frame {f : Frame} {rest : Bytes} {inner : Inner} {pc : RecvPc} (h : m.Flow)
    (hrun : m.recv.stopped = false) (hdecode : decodeFrame m.buf = .item f rest)
    (hlatched : inner.Latched) (hnotified : ∀ t, inner.die.notified t = true → inner.closed = true)
    (hpc : pc.stopped = false) (hsettled : pc.settled = false)
    (hrouting : inner.router ≠ .idle → ∃ id, pc = .routing id)
    (hrouted : inner.routed = if f.isRouted then m.inner.routed ++ [f] else m.inner.routed) :
    ({ m with inner := inner, buf := rest, recv := pc } : Mux).Flow := by
  obtain ⟨seen, hseen⟩ := h.decoded
  refine ⟨hlatched, hnotified, hrouting, fun hs => ?_, h.unsubscribed, fun o ho => ?_,
    ⟨_, hseen.frame hrun hdecode hpc hsettled hrouted⟩, fun hl => ?_⟩
  · have hs : pc = .starting := hs
    rw [hs] at hsettled
    cases hsettled
  · obtain ⟨lost, hlost⟩ := h.received o ho
    exact ⟨lost, hlost.of_eq rfl rfl (fun hc => hc)⟩
  · have hl : pc = .leaving .clean := hl
    rw [hl] at hpc
    cases hpc

/-- A round of `dispatch`. -/
lemma dispatch (h : m.Flow) (hpc : m.recv = .dispatching) (hstep : recvDispatch m = some m') :
    m'.Flow := by
  have hrun : m.recv.stopped = false := by rw [hpc]; rfl
  have hidle := h.idle (by simp [hpc])
  obtain ⟨seen, hseen⟩ := h.decoded
  unfold recvDispatch at hstep
  split at hstep
  · next hdecode =>
    cases hstep
    exact h.recvTo hrun hidle rfl (by simp) (fun _ => hdecode)
  · next problem hdecode =>
    cases hstep
    refine h.leave hrun hidle (items_corrupt hdecode) fun hclean => ?_
    cases hclean
  · next f rest hdecode =>
    split at hstep
    · next hpsh =>
      obtain ⟨τ, hact, rfl⟩ := Option.map_eq_some_iff.mp hstep
      obtain ⟨inner, hinner, rfl⟩ := Mux.act_cases hact
      refine h.frame hrun hdecode (h.latched.step hinner)
        (closed_of_notified h.latched h.notified hinner) rfl rfl (fun _ => ⟨_, rfl⟩) ?_
      rw [routed_of_routePush hinner, if_pos (by simp [Frame.isRouted, hpsh]), ← hpsh]
    · next hpsh =>
      have hdispatching : ∀ inner : Inner, ({ m with inner, buf := rest } : Mux) =
          { m with inner, buf := rest, recv := .dispatching } := fun inner => by rw [← hpc]
      split at hstep
      · next hfin =>
        obtain ⟨τ, hact, rfl⟩ := Option.map_eq_some_iff.mp hstep
        obtain ⟨inner, hinner, rfl⟩ := Mux.act_cases hact
        obtain ⟨hrouter, hrouted⟩ := routed_of_routeFin hinner
        show ({ m with inner, buf := rest } : Mux).Flow
        rw [hdispatching]
        refine h.frame hrun hdecode (h.latched.step hinner)
          (closed_of_notified h.latched h.notified hinner) rfl rfl (fun hne => ?_) ?_
        · exact absurd (hrouter.trans hidle) hne
        · rw [hrouted, if_pos (by simp [Frame.isRouted, hfin]), ← hfin]
      · next hfin =>
        cases hstep
        show ({ m with inner := m.inner, buf := rest } : Mux).Flow
        rw [hdispatching]
        refine h.frame hrun hdecode h.latched h.notified rfl rfl (fun hne => absurd hidle hne) ?_
        rw [if_neg (by simp [Frame.isRouted, hpsh, hfin])]

/-- A step of `route_push`. -/
lemma route {id : UInt32} {τ : Mux} (h : m.Flow) (hpc : m.recv = .routing id)
    (hact : m.act (.routeStep id) = some τ) :
    (if τ.inner.router = .idle then { τ with recv := .dispatching } else τ : Mux).Flow := by
  have hrun : m.recv.stopped = false := by rw [hpc]; rfl
  obtain ⟨inner, hinner, rfl⟩ := Mux.act_cases hact
  obtain ⟨seen, hseen⟩ := h.decoded
  have hmoved : ({ m with inner } : Mux).Flow := by
    refine ⟨h.latched.step hinner, closed_of_notified h.latched h.notified hinner,
      fun _ => ⟨id, hpc⟩, h.starting, h.unsubscribed, fun o ho => ?_,
      ⟨seen, hseen.of_eq (routed_of_routeStep hinner) rfl rfl rfl⟩, fun hl => ?_⟩
    · obtain ⟨lost, hlost⟩ := h.received o ho
      exact ⟨lost, hlost.of_eq rfl rfl (fun hc => hc)⟩
    · have hl : m.recv = .leaving .clean := hl
      rw [hpc] at hl
      cases hl
  split
  · next hidle =>
    refine hmoved.recvTo hrun hidle rfl (by simp) (fun hs => ?_)
    cases hs
  · exact hmoved

lemma recvStep (h : m.Flow) (hstep : recvStep m = some m') : m'.Flow := by
  unfold Smux.recvStep at hstep
  split at hstep
  · next hpc =>
    cases hstep
    exact h.subscribe hpc
  · next hpc =>
    obtain ⟨τ, hact, rfl⟩ := Option.map_eq_some_iff.mp hstep
    obtain ⟨inner, hinner, rfl⟩ := Mux.act_cases hact
    have hτ := h.act rfl hact
    refine hτ.recvTo (by rw [hpc]; rfl) (hτ.idle (by simp [hpc])) rfl (by simp) fun _ => ?_
    exact h.settled (by rw [hpc]; rfl)
  · next t hpc => exact h.next hpc hstep
  · next t hpc =>
    have hrun : m.recv.stopped = false := by rw [hpc]; rfl
    have hidle := h.idle (by simp [hpc])
    have hsettled := h.settled (by rw [hpc]; rfl)
    split at hstep
    · next hnotified =>
      cases hstep
      exact h.leave hrun hidle (items_incomplete hsettled) fun _ => .inl (h.notified t hnotified)
    · split at hstep <;> cases hstep
      exact h.recvTo hrun hidle rfl (by simp) (fun _ => hsettled)
  · next hpc => exact h.dispatch hpc hstep
  · next id hpc =>
    obtain ⟨τ, hact, rfl⟩ := Option.map_eq_some_iff.mp hstep
    exact h.route hpc hact
  · next reason hpc =>
    obtain ⟨τ, hact, rfl⟩ := Option.map_eq_some_iff.mp hstep
    obtain ⟨inner, hinner, rfl⟩ := Mux.act_cases hact
    have hτ := h.act rfl hact
    have hidle := hτ.idle (by simp [hpc])
    obtain ⟨seen, hseen⟩ := hτ.decoded
    refine ⟨hτ.latched, hτ.notified, fun hne => absurd hidle hne, fun hs => ?_, hτ.unsubscribed,
      fun o ho => ?_, ⟨seen, hseen.routed, hseen.upTo, fun hs => ?_, fun _ => ?_, fun hs => ?_⟩,
      fun hl => ?_⟩
    · cases hs
    · obtain ⟨lost, hlost⟩ := hτ.received o ho
      exact ⟨lost, hlost.of_eq rfl rfl (fun hc => hc)⟩
    · cases hs
    · exact hseen.whole (by rw [hpc]; rfl)
    · cases hs
    · cases hl
  · cases hstep

lemma emit (h : m.Flow) (hsubscribed : m.output.isSome = true) (hstep : emit m chunk = some m') :
    m'.Flow := by
  unfold Smux.emit at hstep
  split at hstep <;> cases hstep
  next hopen =>
  obtain ⟨seen, hseen⟩ := h.decoded
  refine ⟨h.latched, h.notified, h.routing, fun hs => ?_, fun ho => ?_, fun o ho => ?_,
    ⟨seen, hseen.of_eq rfl rfl rfl rfl⟩, fun hl => ?_⟩
  · rw [show m.output = none from h.starting hs] at hsubscribed
    cases hsubscribed
  · rw [Option.map_eq_none_iff.mp ho] at hsubscribed
    cases hsubscribed
  · obtain ⟨o', ho', rfl⟩ := Option.map_eq_some_iff.mp ho
    obtain ⟨lost, hlost⟩ := h.received o' ho'
    exact hlost.offer (by simpa using hopen)
  · exact (h.leaving hl).imp_right fun hd => absurd hd.fanoutClosed hopen

lemma fanoutClose (h : m.Flow) (hstep : fanoutClose m = some m') : m'.Flow := by
  unfold Smux.fanoutClose at hstep
  split at hstep <;> cases hstep
  obtain ⟨seen, hseen⟩ := h.decoded
  refine ⟨h.latched, h.notified, h.routing, fun hs => ?_, fun ho => ?_, fun o ho => ?_,
    ⟨seen, hseen.of_eq rfl rfl rfl rfl⟩, fun hl => ?_⟩
  · exact Option.map_eq_none_iff.mpr (h.starting hs)
  · exact h.unsubscribed (Option.map_eq_none_iff.mp ho)
  · obtain ⟨o', ho', rfl⟩ := Option.map_eq_some_iff.mp ho
    obtain ⟨lost, hlost⟩ := h.received o' ho'
    refine ⟨lost, hlost.emitted, fun ha => ?_, hlost.lagged, fun _ => .inr rfl, hlost.dropped⟩
    cases ha
  · exact (h.leaving hl).imp_right fun hd => ⟨hd.consumed, rfl⟩

/-- A step beside `recv_task`. -/
lemma aside (h : m.Flow) (haside : m.Aside l m') : m'.Flow := by
  cases haside with
  | same hinner hinput =>
    exact h.of_eq hinner hinput.recv hinput.buf hinput.output hinput.emitted hinput.consumed
      hinput.fanoutClosed
  | acts l' hstep hissues hinput =>
    have hact : m.act l' = some { m with inner := m'.inner } := by simp [Mux.act, hstep]
    exact (h.act hissues.routes hact).of_eq rfl hinput.recv hinput.buf hinput.output hinput.emitted
      hinput.consumed hinput.fanoutClosed

theorem step (h : m.Flow) (hemit : ∀ chunk, l = .emit chunk → m.output.isSome = true)
    (hstep : m.step l = some m') : m'.Flow := by
  cases l with
  | recv => exact h.recvStep hstep
  | emit chunk => exact h.emit (hemit chunk rfl) hstep
  | fanoutClose => exact h.fanoutClose hstep
  | caller | dropSession | closeStep | closeSweep | send | keepalive | sessionClose | command
  | commandTaken => exact h.aside (aside_of_step rfl hstep)

end Mux.Flow

end SsmBridge.Smux
