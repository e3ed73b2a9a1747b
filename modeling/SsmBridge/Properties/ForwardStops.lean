import SsmBridge.Properties.ForwardEnds

/-!
# The forwarder winds down

Once shutdown was requested, the forwarder needs nobody any more: not the local clients, not the
agent and not the session.  `PortForwarder.Stoppable` says what holds of it whenever that happens,
and `ForwardLabel.isOwn` which steps are taken by its own tasks.  From every state that a run
reaches, such steps let every connection go, bring every permit back, end `forward` and drop the
`SmuxSession`: no lock is kept, no read is left hanging, and no stream is held for good.
-/

namespace SsmBridge.Smux

open Machine

/-! ## Who drops the session -/

section

variable {m m' : Mux} {l : MuxLabel}

/-- A step on the shared state and on a task. -/
lemma alive_of_map {l : Label} {g : Mux → Mux} (h : (m.act l).map g = some m')
    (hg : ∀ τ, (g τ).alive = τ.alive) : m'.alive = m.alive := by
  obtain ⟨τ, hτ, rfl⟩ := Option.map_eq_some_iff.mp h
  obtain ⟨inner, -, rfl⟩ := Mux.act_cases hτ
  exact hg _

lemma alive_of_recvStep (h : recvStep m = some m') : m'.alive = m.alive := by
  unfold recvStep at h
  split at h
  · cases h
    rfl
  · exact alive_of_map h (fun _ => rfl)
  · unfold recvNext at h
    split at h
    · split at h
      · cases h
        rfl
      · split at h <;> cases h <;> rfl
    · cases h
  · split at h
    · cases h
      rfl
    · split at h <;> cases h
      rfl
  · unfold recvDispatch at h
    split at h
    · cases h
      rfl
    · cases h
      rfl
    · split at h
      · exact alive_of_map h (fun _ => rfl)
      · split at h
        · exact alive_of_map h (fun _ => rfl)
        · cases h
          rfl
  · refine alive_of_map h (fun τ => ?_)
    split <;> rfl
  · exact alive_of_map h (fun _ => rfl)
  · cases h

lemma alive_of_sendStep (h : sendStep m = some m') : m'.alive = m.alive := by
  unfold sendStep at h
  split at h
  · exact alive_of_map h (fun _ => rfl)
  · cases h
    rfl
  · cases h
    rfl
  · unfold sendReceive at h
    split at h
    · cases h
      rfl
    · split at h
      · exact alive_of_map h (fun _ => rfl)
      · cases h
        rfl
  · split at h <;> cases h
    rfl
  · exact alive_of_map h (fun _ => rfl)
  · cases h
    unfold sendFrame
    split
    · rfl
    · split <;> rfl
  · split at h
    · cases h
      rfl
    · split at h <;> cases h
      rfl
  · exact alive_of_map h (fun _ => rfl)
  · exact alive_of_map h (fun _ => rfl)
  · cases h

lemma alive_of_keepaliveStep {elapsed : Bool} (h : keepaliveStep m elapsed = some m') :
    m'.alive = m.alive := by
  unfold keepaliveStep keepaliveTick at h
  split at h
  · exact alive_of_map h (fun _ => rfl)
  · split at h
    · exact alive_of_map h (fun _ => rfl)
    · cases h
      rfl
  · split at h
    · cases h
      rfl
    · split at h
      · exact alive_of_map h (fun _ => rfl)
      · cases h
  · cases h
    rfl
  · cases h
  · cases h

/-- Only `dropSession` drops the `SmuxSession`. -/
lemma alive_of_step (hl : l ≠ .dropSession) (h : m.step l = some m') : m'.alive = m.alive := by
  have hact : ∀ {l : Label}, m.act l = some m' → m'.alive = m.alive := fun h => by
    obtain ⟨inner, -, rfl⟩ := Mux.act_cases h
    rfl
  cases l with
  | caller l =>
    simp only [Mux.step, callerStep] at h
    split at h
    · exact hact h
    · cases h
  | dropSession => exact absurd rfl hl
  | closeStep => exact hact h
  | closeSweep i => exact hact h
  | recv => exact alive_of_recvStep h
  | send => exact alive_of_sendStep h
  | keepalive elapsed => exact alive_of_keepaliveStep h
  | emit chunk =>
    simp only [Mux.step, emit] at h
    split at h <;> cases h
    rfl
  | sessionClose reason =>
    cases h
    rfl
  | fanoutClose =>
    simp only [Mux.step, fanoutClose] at h
    split at h <;> cases h
    rfl
  | command data =>
    simp only [Mux.step] at h
    split at h <;> cases h
    rfl
  | commandTaken =>
    simp only [Mux.step] at h
    split at h <;> cases h
    rfl

/-- A dropped session is closed. -/
lemma dropped_of_dropSession (h : m.step .dropSession = some m') :
    m'.alive = false ∧ m'.inner.closed = true := by
  simp only [Mux.step, dropSession] at h
  split at h
  · obtain ⟨τ, hτ, rfl⟩ := Option.map_eq_some_iff.mp h
    obtain ⟨inner, hinner, rfl⟩ := Mux.act_cases hτ
    cases hinner
    refine ⟨rfl, ?_⟩
    dsimp only [close]
    split
    · assumption
    · rfl
  · cases h

end

namespace Forward

/-! ## Reads under way -/

section

variable {σ σ' : Inner} {c : Connection} {l : Label} {shutdown : Bool} {a : Act} {i : ℕ}
  {st : SmuxStream}

lemma reading_eq (hst : σ.streams[i]? = some st) : Connection.reading σ i = st.polling := by
  simp [Connection.reading, hst]

lemma reading_of_step (hl : l.beginsRead i = false) (hi : i < σ.streams.length)
    (h : σ.step l = some σ') (hread : Connection.reading σ' i = true) :
    Connection.reading σ i = true := by
  have hst : σ.streams[i]? = some σ.streams[i] := List.getElem?_eq_getElem hi
  obtain ⟨half', hhalf', honward⟩ := halvesOnward_of_step (i := i) h _
    (show σ.halves i = some σ.streams[i].halves by simp [Inner.halves, hst])
  obtain ⟨st', hst', rfl⟩ := Option.map_eq_some_iff.mp hhalf'
  rw [reading_eq hst'] at hread
  rw [reading_eq hst]
  exact honward.poll hl hread

/-- A stream starts without a read under way. -/
lemma reading_of_openNumber (h : σ.step .openNumber = some σ') :
    Connection.reading σ' σ.streams.length = false := by
  simp only [Inner.step, openNumber] at h
  split at h <;> cases h
  simp [Connection.reading, SmuxStream.new]

/-- A read that looks at the close flag is over. -/
lemma reading_of_pollClosed (h : σ.step (.pollClosed i) = some σ') :
    Connection.reading σ' i = false := by
  simp only [Inner.step, pollClosed] at h
  split at h
  · next st hst =>
    split at h <;> cases h
    simp [Connection.reading, hst]
  · cases h

/-- A read that returns something is over. -/
lemma reading_of_ready {size : ℕ} {chunk : Bytes} (hst : σ.streams[i]? = some st)
    (hread : st.polling = false) (hresult : readResult σ i size = some (.ready chunk))
    (h : σ.step (.pollRead i size) = some σ') : Connection.reading σ' i = false := by
  simp only [Inner.step, pollRead, hst] at h
  simp only [readResult, hst] at hresult
  split at h
  · cases h
  · next hheld =>
    rw [if_neg hheld] at hresult
    split at h
    · cases h
      rw [reading_eq hst, hread]
    · next hopen =>
      rw [if_neg hopen] at hresult
      split at h
      · cases h
        simp [Connection.reading, hst, SmuxStream.serve, hread]
      · cases h
        simp [Connection.reading, hst, SmuxStream.serve, hread]
      · next hremainder hqueue =>
        rw [hremainder, hqueue] at hresult
        split at h
        · next halive => simp [halive] at hresult
        · cases h
          simp [Connection.reading, hst, hread]

/-- A read that is under way is one of the inbound copy. -/
def Connection.ReadsAlone (c : Connection) (σ : Inner) : Prop :=
  ∀ i, c.pc = .streaming i → Connection.reading σ i = true → c.inbound.reads copyBufSize = true

lemma Connection.ReadsAlone.keep {c' : Connection} (h : c.ReadsAlone σ)
    (hpc : c'.pc = c.pc) (hinbound : c'.inbound = c.inbound)
    (hl : ∀ i, c.pc = .streaming i → l.beginsRead i = false ∧ i < σ.streams.length)
    (hstep : σ.step l = some σ') : c'.ReadsAlone σ' := by
  intro i hi hread
  rw [hpc] at hi
  rw [hinbound]
  obtain ⟨hbegins, hlt⟩ := hl i hi
  exact h i hi (reading_of_step hbegins hlt hstep hread)

/-- With no read under way there is nothing to say. -/
lemma Connection.ReadsAlone.of_not_reading {c' : Connection} (hpc : c'.pc = .streaming i)
    (hread : Connection.reading σ i = false) : c'.ReadsAlone σ := by
  intro j hj hreading
  cases hpc.symm.trans hj
  exact absurd (hread.symm.trans hreading) (by simp)

theorem Connection.ReadsAlone.called (h : c.ReadsAlone σ) (htakes : c.Takes σ shutdown a)
    (hcall : a.call = some l) (hstep : σ.step l = some σ') : a.next.ReadsAlone σ' := by
  have hlt : ∀ {i st}, σ.streams[i]? = some st → i < σ.streams.length :=
    fun hst => (List.getElem?_eq_some_iff.mp hst).1
  cases htakes with
  | refused | ends | outbound | inbound => cases hcall
  | admitted =>
    intro i hi
    cases hi
  | numbered =>
    cases hcall
    exact .of_not_reading rfl (reading_of_openNumber hstep)
  | registers hpc hst | withdraws hpc hst | leaves hpc hst | removes hpc hst | releases hpc hst
  | writeWaits hpc hst | writes hpc hst | writeFails hpc hst | shutdownWaits hpc hst
  | shutsDown hpc hst =>
    cases hcall
    refine h.keep rfl rfl (fun j hj => ?_) hstep
    cases hpc.symm.trans hj
    exact ⟨rfl, hlt hst⟩
  | announces hpc hst =>
    cases hcall
    refine h.keep rfl rfl (fun j hj => ?_) hstep
    cases hpc.symm.trans hj
    refine ⟨?_, hlt hst⟩
    split <;> rfl
  | readWaits _ _ _ _ hreads | throttled _ _ _ _ hreads => exact fun _ _ _ => hreads
  | reads hpc hst _ hread hresult =>
    cases hcall
    exact .of_not_reading hpc (reading_of_ready hst hread hresult hstep)
  | readParks hpc | readEnds hpc =>
    cases hcall
    exact .of_not_reading hpc (reading_of_pollClosed hstep)

lemma Connection.ReadsAlone.moved (h : c.ReadsAlone σ) (htakes : c.Takes σ shutdown a)
    (hcall : a.call = none) : a.next.ReadsAlone σ := by
  cases htakes with
  | refused | ends =>
    intro i hi
    cases hi
  | outbound => exact h
  | inbound hpc hst _ hread => exact .of_not_reading hpc ((reading_eq hst).trans hread)
  | admitted | numbered | registers | announces | withdraws | leaves | removes | releases
  | writeWaits | writes | writeFails | shutdownWaits | shutsDown | readWaits | reads | throttled
  | readParks | readEnds => cases hcall

/-- A connection reads its own stream. -/
lemma stream_of_beginsRead (htakes : c.Takes σ shutdown a) (hcall : a.call = some l)
    (hl : l.beginsRead i = true) : c.stream? = some i := by
  cases htakes with
  | @readWaits j st hpc | @reads j chunk st n hpc | @throttled j st hpc =>
    cases hcall
    rw [stream_of_streaming hpc, show j = i by simpa [Label.beginsRead] using hl]
  | announces =>
    cases hcall
    split at hl <;> cases hl
  | _ => cases hcall <;> cases hl

end

/-! ## The invariant -/

/-- What holds of the forwarder whenever it is told to stop. -/
structure PortForwarder.Stoppable (f : PortForwarder) : Prop where
  reads : ∀ c ∈ f.connections, c.ReadsAlone f.mux.inner
  accepting : f.pc = .accepting → f.created = true
  created : f.connections ≠ [] ∨ f.mux.inner.closing ≠ .idle → f.created = true
  dropped : f.mux.alive = false →
    f.returned = true ∧ f.mux.inner.closed = true ∧ ∀ c ∈ f.connections, c.isEnded = true

namespace PortForwarder.Stoppable

variable {f f' : PortForwarder}

lemma new (config : PortForwardConfig) (type : SessionType) (timeout capacity : ℕ) :
    (PortForwarder.new config type timeout capacity).Stoppable where
  reads c hc := by cases hc
  accepting h := by cases h
  created h := by
    rcases h with h | h
    · exact absurd rfl h
    · exact absurd rfl h
  dropped h := by cases h

/-- What goes on before the `SmuxSession` is there leaves the shared state alone. -/
lemma inner_of_not_created {l : MuxLabel} {m : Mux} (hl : f.background l = true)
    (hcreated : f.created = false) (h : f.mux.step l = some m) : m.inner = f.mux.inner := by
  cases l with
  | caller => cases hl
  | recv | send | keepalive | closeStep | closeSweep =>
    exact absurd (hcreated.symm.trans hl) (by simp)
  | dropSession => simp [background, hcreated] at hl
  | emit chunk =>
    simp only [Mux.step, emit] at h
    split at h <;> cases h
    rfl
  | sessionClose reason =>
    cases h
    rfl
  | fanoutClose =>
    simp only [Mux.step, fanoutClose] at h
    split at h <;> cases h
    rfl
  | command data =>
    simp only [Mux.step] at h
    split at h <;> cases h
    rfl
  | commandTaken =>
    simp only [Mux.step] at h
    split at h <;> cases h
    rfl

lemma background {l : MuxLabel} (h : f.Stoppable) (howns : f.Owns) (hl : f.background l = true)
    (hact : f.act l = some f') : f'.Stoppable := by
  obtain ⟨m, hm, hf', heffect⟩ := background_cases hl hact
  rw [hf']
  refine ⟨fun c hc => ?_, h.accepting, fun hor => ?_, fun hdropped => ?_⟩
  · rcases heffect with hsame | ⟨l', hl', hstep⟩
    · show c.ReadsAlone m.inner
      rw [hsame]
      exact h.reads c hc
    · refine (h.reads c hc).keep rfl rfl (fun i hi => ⟨?_, ?_⟩) hstep
      · cases l' with
        | pollRead | pollThrottled => cases hl'
        | _ => rfl
      · exact Owned.stream_lt howns hc (stream_of_streaming hi)
  · cases hcreated : f.created with
    | true => rfl
    | false =>
      have hsame := inner_of_not_created hl hcreated hm
      rw [hsame] at hor
      exact absurd (hcreated.symm.trans (h.created hor)) (by simp)
  · by_cases hdrop : l = .dropSession
    · subst hdrop
      simp only [PortForwarder.background, Bool.and_eq_true, List.all_eq_true] at hl
      exact ⟨hl.1.2, (dropped_of_dropSession hm).2, hl.2⟩
    · obtain ⟨hreturned, hclosed, hended⟩ :=
        h.dropped ((alive_of_step hdrop hm).symm.trans hdropped)
      refine ⟨hreturned, ?_, hended⟩
      rcases heffect with hsame | ⟨l', -, hstep⟩
      · exact hsame ▸ hclosed
      · exact closed_of_step hstep hclosed

theorem step {l : ForwardLabel} (h : f.Stoppable) (howns : f.Owns) (hstep : f.step l = some f') :
    f'.Stoppable := by
  cases moves_of_step hstep with
  | main hshutdown hcreated hpc hreturned =>
    refine ⟨h.reads, fun hp => ?_, fun hor => hcreated (h.created hor), fun hdropped => ?_⟩
    · rcases hpc hp with hc | hp
      · exact hc
      · exact hcreated (h.accepting hp)
    · obtain ⟨hf, hclosed, hended⟩ := h.dropped hdropped
      refine ⟨?_, hclosed, hended⟩
      rw [PortForwarder.returned, hreturned hf]
      exact hf
  | accepted hlistening =>
    simp only [PortForwarder.listening, Bool.and_eq_true, beq_iff_eq] at hlistening
    have hpc := hlistening.1.1
    refine ⟨fun c hc => ?_, h.accepting, fun _ => h.accepting hpc, fun hdropped => ?_⟩
    · rcases List.mem_append.mp hc with hc | hc
      · exact h.reads c hc
      · rw [List.mem_singleton.mp hc]
        intro i hi
        cases hi
    · have hreturned := (h.dropped hdropped).1
      simp [PortForwarder.returned, hpc] at hreturned
  | background hl hact => exact h.background howns hl hact
  | @called k c a l f₁ hc htakes hcall hact =>
    obtain ⟨σ', hcaller, hinner, rfl⟩ := called_cases hact
    have hmem := List.mem_of_getElem? hc
    have hne : f.connections ≠ [] := List.ne_nil_of_mem hmem
    refine ⟨forall_mem_set ((h.reads c hmem).called htakes hcall hinner) fun k' d hk hd => ?_,
      h.accepting, fun _ => h.created (.inl hne), fun hdropped => ?_⟩
    · have hd' := List.mem_of_getElem? hd
      refine (h.reads d hd').keep rfl rfl (fun i hi => ⟨?_, ?_⟩) hinner
      · cases hbegins : l.beginsRead i with
        | false => rfl
        | true =>
          have hci := stream_of_beginsRead htakes hcall hbegins
          exact absurd (howns.apart _ _ _ _ i hd hc (stream_of_streaming hi) hci) hk
      · exact Owned.stream_lt howns hd' (stream_of_streaming hi)
    · have hended := (h.dropped hdropped).2.2 c hmem
      rw [not_ended_of_takes htakes] at hended
      cases hended
  | @moved k c a hc htakes hcall =>
    have hmem := List.mem_of_getElem? hc
    have hne : f.connections ≠ [] := List.ne_nil_of_mem hmem
    refine ⟨forall_mem_set ((h.reads c hmem).moved htakes hcall)
      fun k' d _ hd => h.reads d (List.mem_of_getElem? hd), h.accepting,
      fun _ => h.created (.inl hne), fun hdropped => ?_⟩
    have hended := (h.dropped hdropped).2.2 c hmem
    rw [not_ended_of_takes htakes] at hended
    cases hended

end PortForwarder.Stoppable

lemma PortForwarder.stoppable_of_reachable {config : PortForwardConfig} {type : SessionType}
    {timeout capacity : ℕ} {f : PortForwarder}
    (h : Reachable PortForwarder.step free (.new config type timeout capacity) f) : f.Stoppable :=
  h.invariant_with (fun _ hf => (PortForwarder.owns_of_reachable hf).1) (.new _ _ _ _)
    fun _ _ _ howns hf hstep _ => hf.step howns hstep

/-! ## A connection goes -/

/-- A step that only the forwarder's own tasks have a part in. -/
def ForwardLabel.isOwn : ForwardLabel → Bool
  | .forward | .mux .closeStep | .mux (.closeSweep _) | .mux .dropSession => true
  | .connection _ l => l == .advance || l == .leave || l == .readClosed
  | _ => false

/-- The forwarder is left to itself. -/
def alone (_ : PortForwarder) (l : ForwardLabel) (_ : PortForwarder) : Prop := l.isOwn = true

/-- How far a stream is from the end of its drop. -/
def phaseRank : StreamPhase → ℕ
  | .numbered => 7
  | .registered => 6
  | .held => 4
  | .refused | .dropping => 3
  | .removed => 2
  | .failed | .dropped => 1

/-- How far a connection is from its end. -/
def Connection.rank (c : Connection) (σ : Inner) : ℕ :=
  match c.pc with
  | .accepted => 18
  | .admitted => 16
  | .streaming i => 2 * (σ.phases[i]?).elim 0 phaseRank + (Connection.reading σ i).toNat
  | .ended _ => 0

/-- What the steps of the connections leave alone. -/
structure PortForwarder.Beside (f f' : PortForwarder) : Prop where
  pc : f'.pc = f.pc
  shutdown : f'.shutdown = f.shutdown
  alive : f'.mux.alive = f.mux.alive
  closing : f'.mux.inner.closing = f.mux.inner.closing
  length : f'.connections.length = f.connections.length

/-- A step that brings a connection closer to its end. -/
structure PortForwarder.Nears (f : PortForwarder) (k : ℕ) (c : Connection) (f' : PortForwarder) :
    Prop where
  step : ∃ l : ForwardLabel, l.isOwn = true ∧ f.step l = some f'
  beside : f.Beside f'
  next : ∃ c' : Connection, f'.connections = f.connections.set k c' ∧
    f'.permits = f.permits + (if c'.isEnded then 1 else 0) ∧
    c'.rank f'.mux.inner < c.rank f.mux.inner

namespace PortForwarder

variable {f f' : PortForwarder} {k i : ℕ} {c d : Connection} {e : ConnectionLabel} {l : Label}
  {σ' : Inner} {st : SmuxStream}

/-- The connection takes a step of its own that calls nothing. -/
lemma nears_of_moved (hc : f.connections[k]? = some c)
    (hl : ForwardLabel.isOwn (.connection k e) = true)
    (hstep : c.step f.mux.inner f.shutdown e = some ⟨none, d⟩)
    (hrank : d.rank f.mux.inner < c.rank f.mux.inner) : f.Nears k c (f.settle k d) := by
  refine ⟨⟨_, hl, ?_⟩, ⟨rfl, rfl, rfl, rfl, List.length_set⟩, d, rfl, rfl, hrank⟩
  simp [PortForwarder.step, connection, hc, hstep]

/-- The connection takes a step that calls the multiplexer. -/
lemma nears_of_called (hc : f.connections[k]? = some c)
    (hl : ForwardLabel.isOwn (.connection k e) = true)
    (hstep : c.step f.mux.inner f.shutdown e = some ⟨some l, d⟩) (hcaller : l.byCaller = true)
    (hlocal : l.isLocal = true) (halive : f.mux.alive = true ∨ l ≠ .openAdmit)
    (hinner : f.mux.inner.step l = some σ') (hrank : d.rank σ' < c.rank f.mux.inner) :
    ∃ f', f.Nears k c f' := by
  let f₁ : PortForwarder :=
    { f with mux := { f.mux with inner := σ' }
             queued := f.queued ++ σ'.frames.drop f.mux.inner.frames.length }
  have hact : f.act (.caller l) = some f₁ := by
    simp [f₁, act, Mux.step, callerStep, hcaller, halive, Mux.act, hinner]
  have hclosing := (sameShared_of_step hlocal hinner).closing
  refine ⟨f₁.settle k d, ⟨_, hl, ?_⟩, ⟨rfl, rfl, rfl, hclosing, List.length_set⟩, d, rfl, rfl,
    hrank⟩
  simp [PortForwarder.step, connection, hc, hstep, hact]

lemma rank_streaming (hpc : c.pc = .streaming i) (σ : Inner) :
    c.rank σ = 2 * (σ.phases[i]?).elim 0 phaseRank + (Connection.reading σ i).toNat := by
  simp [Connection.rank, hpc]

/-- A stream moves on in its life. -/
lemma rank_of_phase {p : StreamPhase} (hpc : c.pc = .streaming i)
    (hst : f.mux.inner.streams[i]? = some st) (hl : l.phase = some (i, p))
    (hp : phaseRank p < phaseRank st.phase) (hstep : f.mux.inner.step l = some σ') :
    c.rank σ' < c.rank f.mux.inner := by
  have hlt : i < f.mux.inner.phases.length := by
    simpa [Inner.phases] using (List.getElem?_eq_some_iff.mp hst).1
  rw [rank_streaming hpc, rank_streaming hpc, phases_of_step hstep, phases_of_some hl,
    List.getElem?_set_self hlt, phases_getElem? hst]
  simp only [Option.elim_some]
  have := (Connection.reading σ' i).toNat_lt
  omega

/-- `open_stream`, or the drop of the stream, goes on. -/
lemma nears_of_phase {p : StreamPhase} (hc : f.connections[k]? = some c)
    (hpc : c.pc = .streaming i) (hst : f.mux.inner.streams[i]? = some st)
    (hadvance : c.advance f.mux.inner = some ⟨some l, c⟩) (hl : l.phase = some (i, p))
    (hp : phaseRank p < phaseRank st.phase) (henabled : (f.mux.inner.step l).isSome) :
    ∃ f', f.Nears k c f' := by
  obtain ⟨σ', hσ'⟩ := Option.isSome_iff_exists.mp henabled
  refine nears_of_called (e := .advance) hc rfl (by simpa [Connection.step] using hadvance) ?_ ?_
    (.inr ?_) hσ' (rank_of_phase hpc hst hl hp hσ')
  · cases l <;> first | rfl | cases hl
  · cases l <;> first | rfl | cases hl
  · rintro rfl
    cases hl

/-- The copies are told to stop. -/
lemma nears_of_held (hstop : f.Stoppable) (hshutdown : f.shutdown = true)
    (hc : f.connections[k]? = some c) (hpc : c.pc = .streaming i)
    (hst : f.mux.inner.streams[i]? = some st) (hphase : st.phase = .held) :
    ∃ f', f.Nears k c f' := by
  have hheld : c.held f.mux.inner = some i := by simp [Connection.held, hpc, hst, hphase]
  cases hread : st.polling with
  | false =>
    obtain ⟨σ', hσ'⟩ : ∃ σ', f.mux.inner.step (.dropStream i) = some σ' := by
      simp [Inner.step, dropStream, hst, hphase, hread]
    refine nears_of_called (e := .leave) (l := .dropStream i) hc rfl ?_ rfl rfl (.inr (by simp)) hσ'
      (rank_of_phase hpc hst rfl ?_ hσ')
    · simp [Connection.step, hheld, reading_eq hst, hread, Connection.copy, Connection.leave,
        hshutdown]
    · rw [hphase]
      decide
  | true =>
    -- A read that is under way has to look at the close flag first.
    obtain ⟨σ', hσ'⟩ : ∃ σ', f.mux.inner.step (.pollClosed i) = some σ' := by
      simp [Inner.step, pollClosed, hst, hread]
    have hreads := hstop.reads c (List.mem_of_getElem? hc) i hpc ((reading_eq hst).trans hread)
    have hrank : ∀ c' : Connection, c'.pc = c.pc → c'.rank σ' < c.rank f.mux.inner := by
      intro c' hpc'
      rw [rank_streaming (hpc'.trans hpc), rank_streaming hpc, phases_of_step hσ',
        phases_of_none (l := .pollClosed i) rfl (by simp), reading_of_pollClosed hσ', reading_eq hst,
        hread]
      exact Nat.lt_succ_self _
    have hstep : ∃ c' : Connection, c'.pc = c.pc ∧
        c.step f.mux.inner f.shutdown .readClosed = some ⟨some (.pollClosed i), c'⟩ := by
      simp only [Connection.step, hheld, Connection.copy, Connection.readClosed, reduceCtorEq,
        if_false, Option.bind_some, ne_eq, not_true, and_false]
      cases hclosed : f.mux.inner.closed with
      | false => exact ⟨c, rfl, by simp⟩
      | true =>
        exact ⟨{ c with inbound := { c.inbound with ended := true } }, rfl,
          by simp [CopyLoop.Copy.sourceEnd, hreads]⟩
    obtain ⟨c', hpc', hstep⟩ := hstep
    exact nears_of_called (l := .pollClosed i) hc rfl hstep rfl rfl (.inr (by simp)) hσ'
      (hrank c' hpc')

/-- **A connection that is told to stop is not stuck.** Wherever it is, it has a step that brings it
nearer to its end, and which no other party has to allow. -/
theorem exists_nears (howns : f.Owns) (hstop : f.Stoppable) (hshutdown : f.shutdown = true)
    (hunlocked : f.mux.inner.locked = false) (hc : f.connections[k]? = some c)
    (hended : c.isEnded = false) : ∃ f', f.Nears k c f' := by
  have hmem := List.mem_of_getElem? hc
  have halive : f.mux.alive = true := by
    cases halive : f.mux.alive with
    | true => rfl
    | false => exact absurd ((hstop.dropped halive).2.2 c hmem) (by simp [hended])
  cases hpc : c.pc with
  | accepted =>
    cases hclosed : f.mux.inner.closed with
    | true =>
      refine ⟨_, nears_of_moved (e := .advance) (d := { c with pc := .ended none }) hc rfl ?_ ?_⟩
      · simp [Connection.step, Connection.advance, hpc, hclosed]
      · simp [Connection.rank, hpc]
    | false =>
      obtain ⟨σ', hσ'⟩ : ∃ σ', f.mux.inner.step .openAdmit = some σ' := by
        simp [Inner.step, openAdmit, hclosed]
      refine nears_of_called (e := .advance) (d := { c with pc := .admitted }) hc rfl ?_ rfl rfl
        (.inl halive) hσ' ?_
      · simp [Connection.step, Connection.advance, hpc, hclosed]
      · simp [Connection.rank, hpc]
  | admitted =>
    have hadmitted : 0 < f.mux.inner.admitted := by
      rw [howns.admitted]
      exact List.countP_pos_iff.mpr ⟨c, hmem, by simp [hpc]⟩
    obtain ⟨n, hn⟩ := Nat.exists_eq_succ_of_ne_zero hadmitted.ne'
    obtain ⟨σ', hσ'⟩ : ∃ σ', f.mux.inner.step .openNumber = some σ' := by
      simp [Inner.step, openNumber, hn]
    refine nears_of_called (e := .advance) (l := .openNumber)
      (d := { c with pc := .streaming f.mux.inner.streams.length }) hc rfl ?_ rfl rfl (.inr (by simp))
      hσ' ?_
    · simp [Connection.step, Connection.advance, hpc]
    · have hphase : σ'.phases[f.mux.inner.streams.length]? = some .numbered := by
        rw [phases_of_step hσ']
        simp [Label.phases, Inner.phases]
      rw [rank_streaming rfl, hphase, reading_of_openNumber hσ']
      simp [Connection.rank, hpc, phaseRank]
  | ended =>
    rw [Connection.isEnded, hpc] at hended
    cases hended
  | streaming i =>
    obtain ⟨p, hp, -⟩ := howns.stream c hmem i (stream_of_streaming hpc)
    obtain ⟨st, hst, rfl⟩ : ∃ st, f.mux.inner.streams[i]? = some st ∧ st.phase = p := by
      simpa [Inner.phases] using hp
    cases hphase : st.phase with
    | numbered =>
      refine nears_of_phase (l := .openRegister i) hc hpc hst ?_ rfl (by rw [hphase]; decide) ?_
      · simp [Connection.advance, hpc, hst, hphase]
      · simp [Inner.step, openRegister, hst, hphase, hunlocked]
    | registered =>
      cases hroom : f.mux.inner.framesRoom with
      | true =>
        refine nears_of_phase (l := .openReturn i) hc hpc hst ?_ rfl (by rw [hphase]; decide) ?_
        · simp [Connection.advance, hpc, hst, hphase, hroom]
        · simp [Inner.step, openReturn, hst, hphase, hroom]
      | false =>
        refine nears_of_phase (l := .openRefuse i) hc hpc hst ?_ rfl (by rw [hphase]; decide) ?_
        · simp [Connection.advance, hpc, hst, hphase, hroom]
        · simp [Inner.step, openRefuse, hst, hphase, hroom]
    | refused =>
      refine nears_of_phase (l := .openWithdraw i) hc hpc hst ?_ rfl (by rw [hphase]; decide) ?_
      · simp [Connection.advance, hpc, hst, hphase]
      · simp [Inner.step, openWithdraw, hst, hphase, hunlocked]
    | held => exact nears_of_held hstop hshutdown hc hpc hst hphase
    | dropping =>
      refine nears_of_phase (l := .dropRemove i) hc hpc hst ?_ rfl (by rw [hphase]; decide) ?_
      · simp [Connection.advance, hpc, hst, hphase]
      · simp [Inner.step, dropRemove, hst, hphase, hunlocked]
    | removed =>
      refine nears_of_phase (l := .dropRelease i) hc hpc hst ?_ rfl (by rw [hphase]; decide) ?_
      · simp [Connection.advance, hpc, hst, hphase]
      · simp [Inner.step, dropRelease, hst, hphase]
    | failed | dropped =>
      refine ⟨_, nears_of_moved (e := .advance) (d := { c with pc := .ended (some i) }) hc rfl
        ?_ ?_⟩
      · simp [Connection.step, Connection.advance, hpc, hst, hphase]
      · rw [rank_streaming hpc, phases_getElem? hst, hphase]
        simp [Connection.rank, phaseRank]

lemma Beside.trans {f₁ f₂ : PortForwarder} (h : f.Beside f₁) (h' : f₁.Beside f₂) : f.Beside f₂ :=
  ⟨h'.pc.trans h.pc, h'.shutdown.trans h.shutdown, h'.alive.trans h.alive,
    h'.closing.trans h.closing, h'.length.trans h.length⟩

section

variable {config : PortForwardConfig} {type : SessionType} {timeout capacity : ℕ}

/-- **A connection that is told to stop comes to its end.** Its own steps take it there, and leave
the other connections as they are. -/
theorem connection_ends (h : Reachable step free (.new config type timeout capacity) f)
    (hshutdown : f.shutdown = true) (hunlocked : f.mux.inner.locked = false)
    (hc : f.connections[k]? = some c) (hended : c.isEnded = false) :
    ∃ f', Reachable step alone f f' ∧ f.Beside f' ∧ f'.permits = f.permits + 1 := by
  let Going (f₁ : PortForwarder) : Prop :=
    Reachable step free (.new config type timeout capacity) f₁ ∧ f.Beside f₁ ∧
      (f₁.permits = f.permits + 1 ∨ f₁.permits = f.permits ∧
        ∃ c', f₁.connections[k]? = some c' ∧ c'.isEnded = false)
  let rank (f₁ : PortForwarder) : ℕ := (f₁.connections[k]?).elim 0 (·.rank f₁.mux.inner)
  have hgoing : Going f := ⟨h, ⟨rfl, rfl, rfl, rfl, rfl⟩, .inr ⟨rfl, c, hc, hended⟩⟩
  have hprogress : ∀ f₁, Going f₁ → ¬ f₁.permits = f.permits + 1 →
      ∃ f₂, Reachable step alone f₁ f₂ ∧ Going f₂ ∧ rank f₂ < rank f₁ := by
    rintro f₁ ⟨hreach, hbeside, hdone | ⟨hpermits, c₁, hc₁, hended₁⟩⟩ hnot
    · exact absurd hdone hnot
    have hunlocked₁ : f₁.mux.inner.locked = false := by
      rw [Inner.locked, hbeside.closing]
      exact hunlocked
    obtain ⟨f₂, ⟨l, hl, hstep⟩, hbeside₂, c₂, hconnections, hpermits₂, hrank⟩ :=
      exists_nears (owns_of_reachable hreach).1 (stoppable_of_reachable hreach)
        (hbeside.shutdown.trans hshutdown) hunlocked₁ hc₁ hended₁
    have hc₂ : f₂.connections[k]? = some c₂ := by
      simp [hconnections, (List.getElem?_eq_some_iff.mp hc₁).1]
    refine ⟨f₂, Reachable.refl.tail hstep hl,
      ⟨hreach.tail hstep trivial, hbeside.trans hbeside₂, ?_⟩, by simpa [rank, hc₁, hc₂] using hrank⟩
    rw [hpermits₂, hpermits]
    cases hended₂ : c₂.isEnded with
    | true => exact .inl rfl
    | false => exact .inr ⟨rfl, c₂, hc₂, hended₂⟩
  obtain ⟨f', hrun, ⟨-, hbeside, -⟩, hpermits⟩ := Reachable.exists_done rank hprogress hgoing
  exact ⟨f', hrun, hbeside, hpermits⟩

end

end PortForwarder

/-! ## The rest -/

/-- How many streams the call of `close` that holds the lock has still to tag. -/
def sweepRank (σ : Inner) : ℕ :=
  if σ.locked then σ.streams.countP (fun st => st.listed && st.tag.isNone) + 1 else 0

/-- Tagging a stream brings the call closer to its end. -/
lemma sweepRank_modify {σ : Inner} {r : StreamCloseReason} {i : ℕ} {st : SmuxStream}
    (hlocked : σ.locked = true) (hst : σ.streams[i]? = some st) (hlisted : st.listed = true)
    (htag : st.tag = none) : sweepRank (σ.modify i (SmuxStream.close r)) < sweepRank σ := by
  have hmodified : (σ.modify i (SmuxStream.close r)).streams = σ.streams.set i (st.close r) := by
    simp [Inner.modify, List.modify_eq_set_getElem?, hst]
  have hlocked' : (σ.modify i (SmuxStream.close r)).locked = true := hlocked
  obtain ⟨hlt, hget⟩ := List.getElem?_eq_some_iff.mp hst
  have hpos : 0 < σ.streams.countP (fun st => st.listed && st.tag.isNone) :=
    List.countP_pos_iff.mpr ⟨st, List.mem_of_getElem? hst, by simp [hlisted, htag]⟩
  rw [sweepRank, sweepRank, if_pos hlocked, if_pos hlocked', hmodified, List.countP_set hlt, hget]
  simp only [SmuxStream.close, hlisted, htag]
  simpa using hpos

/-- The call of `close` that holds the lock goes on. -/
lemma exists_sweep {σ : Inner} (hlocked : σ.locked = true) :
    ∃ (l : MuxLabel) (call : Label) (σ' : Inner), ForwardLabel.isOwn (.mux l) = true ∧
      (∀ m : Mux, m.step l = m.act call) ∧ (∀ f : PortForwarder, f.background l = f.created) ∧
      σ.step call = some σ' ∧ sweepRank σ' < sweepRank σ := by
  obtain ⟨r, hclosing⟩ : ∃ r, σ.closing = .sweeping r := by
    unfold Inner.locked at hlocked
    split at hlocked
    · next r hclosing => exact ⟨r, hclosing⟩
    · cases hlocked
  by_cases htagged : σ.streams.all (fun st => !st.listed || st.tag.isSome)
  · refine ⟨.closeStep, .closeStep, _, rfl, fun _ => rfl, fun _ => rfl,
      by simp only [Inner.step, closeStep, hclosing, if_pos htagged]; rfl, ?_⟩
    simp [sweepRank, Inner.locked, hclosing]
  · obtain ⟨st, hmem, hlisted, htag⟩ : ∃ st ∈ σ.streams, st.listed = true ∧ st.tag = none := by
      simpa using htagged
    obtain ⟨i, hst⟩ := List.mem_iff_getElem?.mp hmem
    refine ⟨.closeSweep i, .closeSweep i, σ.modify i (SmuxStream.close r), rfl, fun _ => rfl,
      fun _ => rfl, ?_, sweepRank_modify hlocked hst hlisted htag⟩
    simp [Inner.step, closeSweep, hclosing, hst, hlisted]

/-- How far `forward` is from its end. -/
def forwardRank : ForwardPc → ℕ
  | .starting => 3
  | .resolved => 2
  | .waiting | .accepting => 1
  | .returned _ => 0

namespace PortForwarder

variable {f f' : PortForwarder}

/-- What is left of the forwarder. -/
def rank (f : PortForwarder) : ℕ :=
  forwardRank f.pc + sweepRank f.mux.inner + f.live + f.mux.alive.toNat

/-- Nothing is left of the forwarder. -/
structure WoundDown (f : PortForwarder) : Prop where
  returned : f.returned = true
  ended : ∀ c ∈ f.connections, c.isEnded = true
  dropped : f.created = true → f.mux.alive = false

/-- `forward` goes on until it has returned. -/
lemma forward_cases (hshutdown : f.shutdown = true) (hreturned : f.returned = false) :
    ∃ (pc : ForwardPc) (created : Bool), f.forward = some { f with pc, created } ∧
      forwardRank pc < forwardRank f.pc := by
  cases hpc : f.pc with
  | starting =>
    refine ⟨if f.sessionType = .port then .waiting else .returned (.error wrongType), f.created,
      by simp [forward, hpc], ?_⟩
    split <;> simp [forwardRank]
  | waiting => exact ⟨.returned (.ok ()), f.created, by simp [forward, hpc, hshutdown], by decide⟩
  | resolved =>
    cases hsendable : f.sendable with
    | true => exact ⟨.accepting, true, by simp [forward, hpc, hsendable], by decide⟩
    | false =>
      exact ⟨.returned (.error f.closedError), f.created, by simp [forward, hpc, hsendable],
        by simp [forwardRank]⟩
  | accepting => exact ⟨.returned (.ok ()), f.created, by simp [forward, hpc, hshutdown], by decide⟩
  | returned result => simp [PortForwarder.returned, hpc] at hreturned

/-- The multiplexer takes a step of its own. -/
lemma exists_mux {l : MuxLabel} {m : Mux} (hl : f.background l = true)
    (hm : f.mux.step l = some m) :
    ∃ f', f.step (.mux l) = some f' ∧ f'.mux = m ∧ f'.pc = f.pc ∧ f'.shutdown = f.shutdown ∧
      f'.connections = f.connections := by
  simp [PortForwarder.step, hl, act, hm]

/-- The call of `close` lets go of the lock. -/
lemma exists_unlocked_step (hstop : f.Stoppable) (hlocked : f.mux.inner.locked = true) :
    ∃ (l : ForwardLabel) (f' : PortForwarder), l.isOwn = true ∧ f.step l = some f' ∧
      f'.shutdown = f.shutdown ∧ f'.connections.length = f.connections.length ∧
      f'.rank < f.rank := by
  have hcreated : f.created = true := by
    refine hstop.created (.inr fun hidle => ?_)
    simp [Inner.locked, hidle] at hlocked
  obtain ⟨l, call, σ', hown, hcall, hbackground, hstep, hrank⟩ := exists_sweep hlocked
  have hm : f.mux.step l = some { f.mux with inner := σ' } := by
    rw [hcall, Mux.act, hstep, Option.map_some]
  obtain ⟨f', hf', hmux, hpc, hshutdown, hconnections⟩ :=
    exists_mux (by rw [hbackground, hcreated]) hm
  refine ⟨.mux l, f', hown, hf', hshutdown, by rw [hconnections], ?_⟩
  simp only [rank, live, hmux, hpc, hconnections]
  omega

/-- Once nothing holds the session, it is dropped. -/
lemma exists_drop (howns : f.Owns) (hreturned : f.returned = true)
    (hended : ∀ c ∈ f.connections, c.isEnded = true) (hcreated : f.created = true)
    (halive : f.mux.alive = true) (hunlocked : f.mux.inner.locked = false) :
    ∃ f', f.step (.mux .dropSession) = some f' ∧ f'.pc = f.pc ∧ f'.shutdown = f.shutdown ∧
      f'.connections = f.connections ∧ f'.mux.alive = false ∧
      f'.mux.inner.locked = false := by
  have hadmitted : f.mux.inner.admitted = 0 := by
    rw [howns.admitted, List.countP_eq_zero]
    intro c hc hpc
    have hc := hended c hc
    rw [Connection.isEnded, beq_iff_eq.mp hpc] at hc
    cases hc
  have hopening : f.mux.inner.streams.all (fun st => !st.phase.opening) = true := by
    refine List.all_eq_true.mpr fun st hst => ?_
    obtain ⟨i, hi⟩ := List.mem_iff_getElem?.mp hst
    obtain ⟨hlt, -⟩ := List.getElem?_eq_some_iff.mp hi
    obtain ⟨c, hc, hci⟩ := howns.owned i (by simpa [Inner.phases] using hlt)
    obtain ⟨p, hp, hgone⟩ := howns.stream c hc i hci
    rw [phases_getElem? hi] at hp
    cases hp
    have hgone := hgone (hended c hc)
    cases hphase : st.phase <;> simp_all [StreamPhase.gone, StreamPhase.opening]
  have hbackground : f.background .dropSession = true := by
    simp only [PortForwarder.background, hcreated, hreturned, Bool.true_and, List.all_eq_true]
    exact hended
  have hm : f.mux.step .dropSession =
      some { f.mux with inner := close f.mux.inner .clean, alive := false } := by
    simp [Mux.step, dropSession, halive, hadmitted, hopening, Mux.act, Inner.step]
  obtain ⟨f', hf', hmux, hpc, hshutdown, hconnections⟩ := exists_mux hbackground hm
  refine ⟨f', hf', hpc, hshutdown, hconnections, by rw [hmux], ?_⟩
  rw [hmux]
  dsimp only [close]
  split
  · exact hunlocked
  · rfl

/-- What is left gets less. -/
lemma exists_less {config : PortForwardConfig} {type : SessionType} {timeout capacity : ℕ}
    (h : Reachable step free (.new config type timeout capacity) f) (hshutdown : f.shutdown = true)
    (hnot : ¬ f.WoundDown) :
    ∃ f', Reachable step alone f f' ∧ f'.shutdown = true ∧
      f'.connections.length = f.connections.length ∧ f'.rank < f.rank := by
  have howns := (owns_of_reachable h).1
  have hstop := stoppable_of_reachable h
  by_cases hreturned : f.returned = true
  · cases hlocked : f.mux.inner.locked with
    | true =>
      obtain ⟨l, f', hl, hf', hshutdown', hlength, hrank⟩ := exists_unlocked_step hstop hlocked
      exact ⟨f', Reachable.refl.tail hf' hl, hshutdown'.trans hshutdown, hlength, hrank⟩
    | false =>
      by_cases hended : ∀ c ∈ f.connections, c.isEnded = true
      · obtain ⟨hcreated, halive⟩ : f.created = true ∧ f.mux.alive = true := by
          by_contra hno
          refine hnot ⟨hreturned, hended, fun hcreated => ?_⟩
          simpa [hcreated] using hno
        obtain ⟨f', hf', hpc, hshutdown', hconnections, halive', hlocked'⟩ :=
          exists_drop howns hreturned hended hcreated halive hlocked
        refine ⟨f', Reachable.refl.tail hf' rfl, hshutdown'.trans hshutdown, by rw [hconnections],
          ?_⟩
        simp [rank, live, hpc, hconnections, halive, halive', sweepRank, hlocked, hlocked']
      · push Not at hended
        obtain ⟨c, hmem, hended⟩ := hended
        obtain ⟨k, hc⟩ := List.mem_iff_getElem?.mp hmem
        obtain ⟨f', hrun, hbeside, hpermits⟩ :=
          connection_ends h hshutdown hlocked hc (by simpa using hended)
        refine ⟨f', hrun, hbeside.shutdown.trans hshutdown, hbeside.length, ?_⟩
        have hlive : f'.live < f.live := by
          obtain ⟨hf, hmax⟩ := owns_of_reachable h
          obtain ⟨hf', hmax'⟩ := owns_of_reachable (h.trans hrun.unguarded)
          have hbefore := hf.permits
          have hafter := hf'.permits
          simp only [live]
          omega
        have hlocked' : f'.mux.inner.locked = false := by
          rw [Inner.locked, hbeside.closing]
          exact hlocked
        simp only [rank, hbeside.pc, hbeside.alive, sweepRank, hlocked, hlocked',
          Bool.false_eq_true, if_false]
        omega
  · obtain ⟨pc, created, hf', hrank⟩ := forward_cases hshutdown (by simpa using hreturned)
    refine ⟨_, Reachable.refl.tail (l := .forward) hf' rfl, hshutdown, rfl, ?_⟩
    simp only [rank, live]
    omega

end PortForwarder

/-- **Told to stop, the forwarder winds down by itself.** The accept loop returns, every connection
ends and gives its permit back, and the multiplexer is dropped, all without the agent, the clients
or the listener. -/
theorem forwarder_winds_down {config : PortForwardConfig} {type : SessionType}
    {timeout capacity : ℕ} {f : PortForwarder}
    (h : Reachable PortForwarder.step free (.new config type timeout capacity) f)
    (hshutdown : f.shutdown = true) :
    ∃ f', Reachable PortForwarder.step alone f f' ∧ f'.returned = true ∧
      (f'.connections.length = f.connections.length ∧
        ∀ c ∈ f'.connections, c.isEnded = true) ∧
      f'.permits = config.maxConnections ∧
      (f'.created = true → f'.mux.alive = false ∧ f'.mux.inner.closed = true) := by
  let Told (f₁ : PortForwarder) : Prop :=
    Reachable PortForwarder.step free (.new config type timeout capacity) f₁ ∧
      f₁.shutdown = true ∧ f₁.connections.length = f.connections.length
  have hprogress : ∀ f₁, Told f₁ → ¬ f₁.WoundDown →
      ∃ f₂, Reachable PortForwarder.step alone f₁ f₂ ∧ Told f₂ ∧ f₂.rank < f₁.rank := by
    rintro f₁ ⟨hreach, hshutdown₁, hlength⟩ hnot
    obtain ⟨f₂, hrun, hshutdown₂, hlength₂, hrank⟩ :=
      PortForwarder.exists_less hreach hshutdown₁ hnot
    exact ⟨f₂, hrun, ⟨hreach.trans hrun.unguarded, hshutdown₂, hlength₂.trans hlength⟩, hrank⟩
  obtain ⟨f', hrun, ⟨hreach, -, hlength⟩, hdown⟩ :=
    Reachable.exists_done PortForwarder.rank hprogress (show Told f from ⟨h, hshutdown, rfl⟩)
  have howns := PortForwarder.owns_of_reachable hreach
  have hpermits : f'.permits + f'.live = f'.maxConnections := howns.1.permits
  have hlive : f'.live = 0 := by
    rw [PortForwarder.live, List.countP_eq_zero]
    intro c hc
    simp [hdown.ended c hc]
  have hstop := PortForwarder.stoppable_of_reachable hreach
  refine ⟨f', hrun, hdown.returned, ⟨hlength, hdown.ended⟩, by omega, fun hcreated => ?_⟩
  have halive := hdown.dropped hcreated
  exact ⟨halive, (hstop.dropped halive).2.1⟩

/-- One client is being read for and another is opening its stream while the streams are tagged. -/
theorem forwarder_winds_down_midway :
    ∃ f f' : PortForwarder, f.mux.inner.locked = true ∧
      (f.connections.map (fun c => c.pc) = [.streaming 0, .streaming 1] ∧
        f.mux.inner.phases = [.held, .numbered] ∧ Connection.reading f.mux.inner 0 = true) ∧
      Reachable PortForwarder.step alone f f' ∧ f'.returned = true ∧ f'.connections.length = 2 ∧
      f'.permits = 2 := by
  let ls : List ForwardLabel := List.flatten
    [[.setSendable true, .forward, .forward, .forward, .accept, .accept],
      List.replicate 4 (.connection 0 .advance), List.replicate 2 (.connection 1 .advance),
      [.connection 0 .read, .mux (.sessionClose .terminated), .mux .send, .mux .send, .mux .send,
        .mux .send, .mux .send, .mux .closeStep, .mux .closeStep, .shutdown]]
  have hrun : (run PortForwarder.step (.new ⟨2, false⟩ .port 30 64) ls).any (fun f =>
      decide (f.mux.inner.locked = true ∧
        (f.connections.map (fun c => c.pc) = [.streaming 0, .streaming 1] ∧
          f.mux.inner.phases = [.held, .numbered] ∧ Connection.reading f.mux.inner 0 = true)) &&
      decide (f.shutdown = true ∧ f.connections.length = 2)) = true := by decide +kernel
  obtain ⟨f, hf, hp⟩ := exists_of_run hrun
  simp only [Bool.and_eq_true, decide_eq_true_eq] at hp
  obtain ⟨⟨hlocked, hmidway⟩, hshutdown, hlength⟩ := hp
  obtain ⟨f', hdown, hreturned, ⟨hlength', -⟩, hpermits, -⟩ := forwarder_winds_down hf hshutdown
  exact ⟨f, f', hlocked, hmidway, hdown, hreturned, hlength'.trans hlength, hpermits⟩

end Forward

end SsmBridge.Smux
