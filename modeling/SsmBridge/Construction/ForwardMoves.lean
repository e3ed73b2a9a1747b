import SsmBridge.Construction.Forward

/-!
# What a step of the forwarder does

`Connection.Takes` lists what the task of a connection can do, with the condition under which it
does it, and `PortForwarder.Moves` what can become of the forwarder; `takes_of_step` and
`moves_of_step` say that the lists are complete.
-/

namespace SsmBridge.Smux.Forward

open CopyLoop

/-- What the task of a connection does on its stream, with the connection afterwards. -/
inductive Connection.Takes (σ : Inner) (shutdown : Bool) (c : Connection) : Act → Prop
  | refused (hpc : c.pc = .accepted) (hclosed : σ.closed = true) :
      Takes σ shutdown c ⟨none, { c with pc := .ended none }⟩
  | admitted (hpc : c.pc = .accepted) (hclosed : σ.closed = false) :
      Takes σ shutdown c ⟨some .openAdmit, { c with pc := .admitted }⟩
  | numbered (hpc : c.pc = .admitted) :
      Takes σ shutdown c ⟨some .openNumber, { c with pc := .streaming σ.streams.length }⟩
  | registers {i : ℕ} {st : SmuxStream} (hpc : c.pc = .streaming i)
      (hst : σ.streams[i]? = some st) (hphase : st.phase = .numbered) :
      Takes σ shutdown c ⟨some (.openRegister i), c⟩
  | announces {i : ℕ} {st : SmuxStream} (hpc : c.pc = .streaming i)
      (hst : σ.streams[i]? = some st) (hphase : st.phase = .registered) :
      Takes σ shutdown c ⟨some (if σ.framesRoom then .openReturn i else .openRefuse i), c⟩
  | withdraws {i : ℕ} {st : SmuxStream} (hpc : c.pc = .streaming i)
      (hst : σ.streams[i]? = some st) (hphase : st.phase = .refused) :
      Takes σ shutdown c ⟨some (.openWithdraw i), c⟩
  | leaves {i : ℕ} {st : SmuxStream} (hpc : c.pc = .streaming i) (hst : σ.streams[i]? = some st)
      (hphase : st.phase = .held) (hread : st.polling = false)
      (hover : shutdown = true ∨ c.outbound.isDone = true ∧ c.inbound.isDone = true) :
      Takes σ shutdown c ⟨some (.dropStream i), c⟩
  | removes {i : ℕ} {st : SmuxStream} (hpc : c.pc = .streaming i)
      (hst : σ.streams[i]? = some st) (hphase : st.phase = .dropping) :
      Takes σ shutdown c ⟨some (.dropRemove i), c⟩
  | releases {i : ℕ} {st : SmuxStream} (hpc : c.pc = .streaming i)
      (hst : σ.streams[i]? = some st) (hphase : st.phase = .removed) :
      Takes σ shutdown c ⟨some (.dropRelease i), c⟩
  | ends {i : ℕ} {st : SmuxStream} (hpc : c.pc = .streaming i)
      (hst : σ.streams[i]? = some st) (hgone : st.gone = true) :
      Takes σ shutdown c ⟨none, { c with pc := .ended (some i) }⟩
  | outbound {i : ℕ} {st : SmuxStream} {o : Copy UInt8} (hpc : c.pc = .streaming i)
      (hst : σ.streams[i]? = some st) (hphase : st.phase = .held) (hread : st.polling = false)
      (hmoves : Moves copyBufSize c.outbound o) (hgiven : o.given = c.outbound.given)
      (hstage : o.stage = .finished → c.outbound.stage = .finished) :
      Takes σ shutdown c ⟨none, { c with outbound := o }⟩
  | writeWaits {i : ℕ} {st : SmuxStream} (hpc : c.pc = .streaming i)
      (hst : σ.streams[i]? = some st) (hphase : st.phase = .held) (hread : st.polling = false)
      (hresult : writeResult σ i c.outbound.held = some .pending) :
      Takes σ shutdown c ⟨some (.pollWrite i c.outbound.held), c⟩
  | writes {i n : ℕ} {st : SmuxStream} {o : Copy UInt8} (hpc : c.pc = .streaming i)
      (hst : σ.streams[i]? = some st) (hphase : st.phase = .held) (hread : st.polling = false)
      (hresult : writeResult σ i c.outbound.held = some (.written n))
      (hdrain : c.outbound.drain n = some o) :
      Takes σ shutdown c ⟨some (.pollWrite i c.outbound.held), { c with outbound := o }⟩
  | writeFails {i : ℕ} {message : String} {st : SmuxStream} {o : Copy UInt8}
      (hpc : c.pc = .streaming i) (hst : σ.streams[i]? = some st) (hphase : st.phase = .held)
      (hread : st.polling = false)
      (hresult : writeResult σ i c.outbound.held = some (.failed message))
      (hfail : c.outbound.fail = some o) :
      Takes σ shutdown c ⟨some (.pollWrite i c.outbound.held), { c with outbound := o }⟩
  | shutdownWaits {i : ℕ} {st : SmuxStream} (hpc : c.pc = .streaming i)
      (hst : σ.streams[i]? = some st) (hphase : st.phase = .held) (hread : st.polling = false)
      (hstage : c.outbound.stage = .closing) (hready : shutdownReady σ i = false) :
      Takes σ shutdown c ⟨some (.pollShutdown i), c⟩
  | shutsDown {i : ℕ} {st : SmuxStream} {o : Copy UInt8} (hpc : c.pc = .streaming i)
      (hst : σ.streams[i]? = some st) (hphase : st.phase = .held) (hread : st.polling = false)
      (hready : shutdownReady σ i = true) (hshut : c.outbound.shut = some o) :
      Takes σ shutdown c ⟨some (.pollShutdown i), { c with outbound := o }⟩
  | readWaits {i : ℕ} {st : SmuxStream} (hpc : c.pc = .streaming i)
      (hst : σ.streams[i]? = some st) (hphase : st.phase = .held) (hread : st.polling = false)
      (hreads : c.inbound.reads copyBufSize = true)
      (hresult : readResult σ i (c.inbound.room copyBufSize) = some .pending) :
      Takes σ shutdown c ⟨some (.pollRead i (c.inbound.room copyBufSize)), c⟩
  | reads {i : ℕ} {chunk : Bytes} {st : SmuxStream} {n : Copy UInt8} (hpc : c.pc = .streaming i)
      (hst : σ.streams[i]? = some st) (hphase : st.phase = .held) (hread : st.polling = false)
      (hresult : readResult σ i (c.inbound.room copyBufSize) = some (.ready chunk))
      (hreceive : c.inbound.receive copyBufSize chunk = some n) :
      Takes σ shutdown c
        ⟨some (.pollRead i (c.inbound.room copyBufSize)), { c with inbound := n }⟩
  | throttled {i : ℕ} {st : SmuxStream} (hpc : c.pc = .streaming i)
      (hst : σ.streams[i]? = some st) (hphase : st.phase = .held) (hread : st.polling = false)
      (hreads : c.inbound.reads copyBufSize = true) :
      Takes σ shutdown c ⟨some (.pollThrottled i), c⟩
  | readParks {i : ℕ} {st : SmuxStream} (hpc : c.pc = .streaming i)
      (hst : σ.streams[i]? = some st) (hphase : st.phase = .held) (hclosed : σ.closed = false) :
      Takes σ shutdown c ⟨some (.pollClosed i), c⟩
  | readEnds {i : ℕ} {st : SmuxStream} {n : Copy UInt8} (hpc : c.pc = .streaming i)
      (hst : σ.streams[i]? = some st) (hphase : st.phase = .held) (hclosed : σ.closed = true)
      (hend : c.inbound.sourceEnd copyBufSize = some n) :
      Takes σ shutdown c ⟨some (.pollClosed i), { c with inbound := n }⟩
  | inbound {i : ℕ} {st : SmuxStream} {n : Copy UInt8} (hpc : c.pc = .streaming i)
      (hst : σ.streams[i]? = some st) (hphase : st.phase = .held) (hread : st.polling = false)
      (hmoves : Moves copyBufSize c.inbound n) (htaken : n.taken = c.inbound.taken)
      (hended : n.ended = c.inbound.ended) :
      Takes σ shutdown c ⟨none, { c with inbound := n }⟩

section

variable {σ : Inner} {shutdown : Bool} {c : Connection} {l : ConnectionLabel} {a : Act} {i : ℕ}
  {st : SmuxStream}

lemma Connection.held_cases (h : c.held σ = some i) :
    c.pc = .streaming i ∧ ∃ st, σ.streams[i]? = some st ∧ st.phase = .held := by
  unfold Connection.held at h
  split at h
  · next j hpc =>
    split at h <;> cases h
    next hheld =>
    obtain ⟨st, hst, hphase⟩ := (Option.any_eq_true _ _).mp hheld
    exact ⟨hpc, st, hst, by simpa using hphase⟩
  · cases h

lemma takes_of_advance (h : c.advance σ = some a) : c.Takes σ shutdown a := by
  unfold Connection.advance at h
  split at h
  · next hpc =>
    split at h <;> cases h
    · next hclosed => exact .refused hpc hclosed
    · next hclosed => exact .admitted hpc (by simpa using hclosed)
  · next hpc =>
    cases h
    exact .numbered hpc
  · next i hpc =>
    split at h
    · next st hst =>
      split at h <;> cases h
      · next hphase => exact .registers hpc hst hphase
      · next hphase => exact .announces hpc hst hphase
      · next hphase => exact .withdraws hpc hst hphase
      · next hphase => exact .removes hpc hst hphase
      · next hphase => exact .releases hpc hst hphase
      · next hphase => exact .ends hpc hst (by simp [SmuxStream.gone, hphase])
      · next hphase => exact .ends hpc hst (by simp [SmuxStream.gone, hphase])
    · cases h
  · cases h

lemma takes_of_write (hpc : c.pc = .streaming i) (hst : σ.streams[i]? = some st)
    (hphase : st.phase = .held) (hread : st.polling = false) (h : c.write σ i = some a) :
    c.Takes σ shutdown a := by
  unfold Connection.write at h
  dsimp only at h
  split at h
  · split at h
    · next hresult =>
      cases h
      exact .writeWaits hpc hst hphase hread hresult
    · next n hresult =>
      obtain ⟨o, ho, rfl⟩ := Option.map_eq_some_iff.mp h
      exact .writes hpc hst hphase hread hresult ho
    · next message hresult =>
      obtain ⟨o, ho, rfl⟩ := Option.map_eq_some_iff.mp h
      exact .writeFails hpc hst hphase hread hresult ho
    · cases h
  · cases h

lemma takes_of_read (hpc : c.pc = .streaming i) (hst : σ.streams[i]? = some st)
    (hphase : st.phase = .held) (hread : st.polling = false) (h : c.read σ i = some a) :
    c.Takes σ shutdown a := by
  unfold Connection.read at h
  dsimp only at h
  split at h
  · next hreads =>
    split at h
    · next hresult =>
      cases h
      exact .readWaits hpc hst hphase hread hreads hresult
    · next chunk hresult =>
      obtain ⟨n, hn, rfl⟩ := Option.map_eq_some_iff.mp h
      exact .reads hpc hst hphase hread hresult hn
    · cases h
  · cases h

/-- A move of the outbound copy that writes nothing. -/
lemma takes_of_outbound {o : Option (Copy UInt8)} (hpc : c.pc = .streaming i)
    (hst : σ.streams[i]? = some st) (hphase : st.phase = .held) (hread : st.polling = false)
    (hmoves : ∀ o', o = some o' → Moves copyBufSize c.outbound o' ∧ o'.given = c.outbound.given ∧
      (o'.stage = .finished → c.outbound.stage = .finished))
    (h : o.map (fun outbound => (⟨none, { c with outbound }⟩ : Act)) = some a) :
    c.Takes σ shutdown a := by
  obtain ⟨o', ho, rfl⟩ := Option.map_eq_some_iff.mp h
  obtain ⟨hmove, hgiven, hstage⟩ := hmoves o' ho
  exact .outbound hpc hst hphase hread hmove hgiven hstage

/-- A move of the inbound copy that reads nothing. -/
lemma takes_of_inbound {n : Option (Copy UInt8)} (hpc : c.pc = .streaming i)
    (hst : σ.streams[i]? = some st) (hphase : st.phase = .held) (hread : st.polling = false)
    (hmoves : ∀ n', n = some n' → Moves copyBufSize c.inbound n' ∧ n'.taken = c.inbound.taken ∧
      n'.ended = c.inbound.ended)
    (h : n.map (fun inbound => (⟨none, { c with inbound }⟩ : Act)) = some a) :
    c.Takes σ shutdown a := by
  obtain ⟨n', hn, rfl⟩ := Option.map_eq_some_iff.mp h
  obtain ⟨hmove, htaken, hended⟩ := hmoves n' hn
  exact .inbound hpc hst hphase hread hmove htaken hended

lemma takes_of_shutdownStream (hpc : c.pc = .streaming i) (hst : σ.streams[i]? = some st)
    (hphase : st.phase = .held) (hread : st.polling = false) (h : c.shutdownStream σ i = some a) :
    c.Takes σ shutdown a := by
  unfold Connection.shutdownStream at h
  split at h
  · next hstage =>
    split at h
    · next hready =>
      obtain ⟨o, ho, rfl⟩ := Option.map_eq_some_iff.mp h
      exact .shutsDown hpc hst hphase hread hready ho
    · next hready =>
      cases h
      exact .shutdownWaits hpc hst hphase hread hstage (by simpa using hready)
  · cases h

lemma takes_of_readClosed (hpc : c.pc = .streaming i) (hst : σ.streams[i]? = some st)
    (hphase : st.phase = .held) (h : c.readClosed σ i = some a) : c.Takes σ shutdown a := by
  unfold Connection.readClosed at h
  split at h
  · next hclosed =>
    obtain ⟨n, hn, rfl⟩ := Option.map_eq_some_iff.mp h
    exact .readEnds hpc hst hphase hclosed hn
  · next hclosed =>
    cases h
    exact .readParks hpc hst hphase (by simpa using hclosed)

lemma takes_of_copy (hpc : c.pc = .streaming i) (hst : σ.streams[i]? = some st)
    (hphase : st.phase = .held) (hread : st.polling = false)
    (h : c.copy σ shutdown i l = some a) : c.Takes σ shutdown a := by
  cases l with
  | advance => cases h
  | leave =>
    simp only [Connection.copy, Connection.leave] at h
    split at h <;> cases h
    next hover => exact .leaves hpc hst hphase hread (by simpa using hover)
  | receive piece =>
    refine takes_of_outbound hpc hst hphase hread (fun o ho => ⟨moves_of_fill ho, ?_⟩) h
    obtain ⟨-, -, -, rfl⟩ := Copy.fill_cases ho
    exact ⟨rfl, id⟩
  | clientEnds =>
    refine takes_of_outbound hpc hst hphase hread (fun o ho => ⟨moves_of_sourceEnd ho, ?_⟩) h
    obtain ⟨-, rfl⟩ := Copy.sourceEnd_cases ho
    exact ⟨rfl, id⟩
  | receiveFails =>
    simp only [Connection.copy] at h
    split at h
    · refine takes_of_outbound hpc hst hphase hread (fun o ho => ⟨moves_of_fail ho, ?_⟩) h
      obtain ⟨-, rfl⟩ := Copy.fail_cases ho
      exact ⟨rfl, nofun⟩
    · cases h
  | write => exact takes_of_write hpc hst hphase hread h
  | windOutbound =>
    refine takes_of_outbound hpc hst hphase hread (fun o ho => ⟨moves_of_wind ho, ?_⟩) h
    obtain ⟨-, -, -, rfl⟩ := Copy.wind_cases ho
    exact ⟨rfl, nofun⟩
  | shutdownStream => exact takes_of_shutdownStream hpc hst hphase hread h
  | read => exact takes_of_read hpc hst hphase hread h
  | readClosed => exact takes_of_readClosed hpc hst hphase h
  | throttled =>
    simp only [Connection.copy] at h
    split at h <;> cases h
    next hreads => exact .throttled hpc hst hphase hread hreads
  | deliver n =>
    refine takes_of_inbound hpc hst hphase hread (fun o ho => ⟨moves_of_drain ho, ?_⟩) h
    obtain ⟨-, -, -, rfl⟩ := Copy.drain_cases ho
    exact ⟨rfl, rfl⟩
  | deliverFails =>
    simp only [Connection.copy] at h
    split at h
    · refine takes_of_inbound hpc hst hphase hread (fun o ho => ⟨moves_of_fail ho, ?_⟩) h
      obtain ⟨-, rfl⟩ := Copy.fail_cases ho
      exact ⟨rfl, rfl⟩
    · cases h
  | windInbound =>
    refine takes_of_inbound hpc hst hphase hread (fun o ho => ⟨moves_of_wind ho, ?_⟩) h
    obtain ⟨-, -, -, rfl⟩ := Copy.wind_cases ho
    exact ⟨rfl, rfl⟩
  | shutdownClient =>
    refine takes_of_inbound hpc hst hphase hread (fun o ho => ⟨moves_of_shut ho, ?_⟩) h
    obtain ⟨-, rfl⟩ := Copy.shut_cases ho
    exact ⟨rfl, rfl⟩

/-- **What a connection does is on the list.** Every label it takes is one of the cases of
`Connection.Takes`, with the call of the multiplexer that goes with it. -/
theorem takes_of_step (h : c.step σ shutdown l = some a) : c.Takes σ shutdown a := by
  unfold Connection.step at h
  split at h
  · exact takes_of_advance h
  · obtain ⟨i, hheld, hstep⟩ := Option.bind_eq_some_iff.mp h
    obtain ⟨hpc, st, hst, hphase⟩ := Connection.held_cases hheld
    split at hstep
    · cases hstep
    · next hread =>
      by_cases hl : l = .readClosed
      · subst hl
        exact takes_of_readClosed hpc hst hphase hstep
      · have hpolling : st.polling = false := by
          simpa [Connection.reading, hst, hl] using hread
        exact takes_of_copy hpc hst hphase hpolling hstep

end

/-- What can become of the forwarder. -/
inductive PortForwarder.Moves (f : PortForwarder) : PortForwarder → Prop
  /-- `forward` goes on, or what it waits for happens. -/
  | main {pc : ForwardPc} {sendable shutdown created : Bool} {refused : ℕ}
      (hshutdown : f.shutdown = true → shutdown = true)
      (hcreated : f.created = true → created = true)
      (hpc : pc = .accepting → created = true ∨ f.pc = .accepting)
      (hreturned : f.returned = true → pc = f.pc) :
      Moves f { f with pc, sendable, shutdown, created, refused }
  | accepted {n : ℕ} (hlistening : f.listening = true) (hpermits : f.permits = n + 1) :
      Moves f { f with permits := n, connections := f.connections ++ [.new] }
  | background {l : MuxLabel} {f' : PortForwarder} (hl : f.background l = true)
      (hact : f.act l = some f') : Moves f f'
  | called {k : ℕ} {c : Connection} {a : Act} {l : Label} {f' : PortForwarder}
      (hc : f.connections[k]? = some c) (htakes : c.Takes f.mux.inner f.shutdown a)
      (hcall : a.call = some l) (hact : f.act (.caller l) = some f') :
      Moves f (f'.settle k a.next)
  | moved {k : ℕ} {c : Connection} {a : Act} (hc : f.connections[k]? = some c)
      (htakes : c.Takes f.mux.inner f.shutdown a) (hcall : a.call = none) :
      Moves f (f.settle k a.next)

section

variable {f f' : PortForwarder} {l : ForwardLabel}

lemma moves_of_forward (h : f.forward = some f') : f.Moves f' := by
  unfold PortForwarder.forward at h
  split at h
  · next hpc =>
    cases h
    refine .main id id ?_ (by simp [PortForwarder.returned, hpc])
    split <;> simp
  · next hpc =>
    split at h
    · cases h
      exact .main id id (by simp) (by simp [PortForwarder.returned, hpc])
    · split at h <;> cases h
      exact .main id id (by simp) (by simp [PortForwarder.returned, hpc])
  · next hpc =>
    cases h
    split
    · exact .main id (fun _ => rfl) (by simp) (by simp [PortForwarder.returned, hpc])
    · exact .main id id (by simp) (by simp [PortForwarder.returned, hpc])
  · next hpc =>
    split at h
    · cases h
      exact .main id id (by simp) (by simp [PortForwarder.returned, hpc])
    · split at h <;> cases h
      exact .main (fun _ => rfl) id (by simp) (by simp [PortForwarder.returned, hpc])
  · cases h

lemma moves_of_connection {k : ℕ} {cl : ConnectionLabel} (h : f.connection k cl = some f') :
    f.Moves f' := by
  unfold PortForwarder.connection at h
  obtain ⟨c, hc, hstep⟩ := Option.bind_eq_some_iff.mp h
  obtain ⟨a, ha, hact⟩ := Option.bind_eq_some_iff.mp hstep
  have htakes := takes_of_step ha
  split at hact
  · next call hcall =>
    obtain ⟨f₁, hf₁, rfl⟩ := Option.map_eq_some_iff.mp hact
    exact .called hc htakes hcall hf₁
  · next hcall =>
    cases hact
    exact .moved hc htakes hcall

/-- **What becomes of the forwarder is on the list.** A step is one of the accept loop, of one
connection or of the multiplexer behind them, and the other two stay as they are. -/
theorem moves_of_step (h : f.step l = some f') : f.Moves f' := by
  cases l with
  | forward => exact moves_of_forward h
  | connection k cl => exact moves_of_connection h
  | readyTimeout =>
    simp only [PortForwarder.step] at h
    split at h <;> cases h
    next hwait => exact .main id id (by simp) (by simp [PortForwarder.returned, hwait.1])
  | accept =>
    simp only [PortForwarder.step] at h
    split at h <;> cases h
    next hlistening =>
    unfold PortForwarder.accept
    split
    · exact .main id id (fun hpc => .inr hpc) (fun _ => rfl)
    · next n hpermits => exact .accepted hlistening hpermits
  | acceptFails kind message =>
    simp only [PortForwarder.step] at h
    split at h <;> cases h
    next hlistening =>
    simp only [PortForwarder.listening, Bool.and_eq_true, beq_iff_eq] at hlistening
    exact .main id id (by simp) (by simp [PortForwarder.returned, hlistening.1.1])
  | mux l =>
    simp only [PortForwarder.step] at h
    split at h
    · next hl => exact .background hl h
    · cases h
  | setSendable sendable =>
    cases h
    exact .main id id (fun hpc => .inr hpc) (fun _ => rfl)
  | shutdown =>
    cases h
    exact .main (fun _ => rfl) id (fun hpc => .inr hpc) (fun _ => rfl)

end

end SsmBridge.Smux.Forward
