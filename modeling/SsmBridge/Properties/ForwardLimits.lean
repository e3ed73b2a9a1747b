import SsmBridge.Construction.ForwardMoves
import SsmBridge.Properties.OutputFlow

/-!
# The limit on connections, and whose a stream is

`max_connections` is a semaphore: a connection takes a permit when it is accepted and gives it back
when `forward_connection` has returned.  By then its stream is gone, so that the limit bounds the
streams as well.

`Inner.phases` is what the ownership of streams depends on, and `phases_of_step` what a step does to
it.  `Owned` is the invariant: each stream was drawn by one connection, which keeps it until it
ends.  `Connection.Advances` lists what a connection can do to its part in it.
-/

namespace SsmBridge.Smux

/-! ## Phases -/

/-- Where the streams are, one by one. -/
def Inner.phases (σ : Inner) : List StreamPhase := σ.streams.map SmuxStream.phase

/-- The phase in which a step leaves its stream, of the steps that move one on. -/
def Label.phase : Label → Option (ℕ × StreamPhase)
  | .openRegister i => some (i, .registered)
  | .openReturn i => some (i, .held)
  | .openRefuse i => some (i, .refused)
  | .openWithdraw i => some (i, .failed)
  | .dropStream i => some (i, .dropping)
  | .dropRemove i => some (i, .removed)
  | .dropRelease i => some (i, .dropped)
  | _ => none

/-- What a step does to the phases. -/
def Label.phases (l : Label) (phases : List StreamPhase) : List StreamPhase :=
  match l, l.phase with
  | .openNumber, _ => phases ++ [.numbered]
  | _, some (i, p) => phases.set i p
  | _, none => phases

section

variable {σ σ' : Inner} {i : ℕ} {l : Label} {f : SmuxStream → SmuxStream}

lemma phases_modify (hf : ∀ st, (f st).phase = st.phase) : (σ.modify i f).phases = σ.phases := by
  apply List.ext_getElem?
  intro j
  simp only [Inner.phases, List.getElem?_map, Inner.getElem?_modify]
  split
  · rw [Option.map_map]
    exact congrArg (fun g => Option.map g _) (funext hf)
  · rfl

lemma phases_modify_to {p : StreamPhase} (hf : ∀ st, (f st).phase = p) :
    (σ.modify i f).phases = σ.phases.set i p := by
  apply List.ext_getElem?
  intro j
  simp only [Inner.phases, List.getElem?_map, Inner.getElem?_modify, List.getElem?_set,
    List.length_map]
  split_ifs with hij hlt
  · subst hij
    simp [List.getElem?_eq_getElem hlt, hf]
  · subst hij
    simp [List.getElem?_eq_none (Nat.le_of_not_lt hlt)]
  · rfl

lemma phases_unlist (id : UInt32) : (σ.unlist id).phases = σ.phases := by
  simp only [Inner.phases, Inner.unlist, List.map_map]
  congr 1
  funext st
  simp only [Function.comp_apply]
  split <;> rfl

lemma phases_tryFrame (frame : Frame) : (σ.tryFrame frame).phases = σ.phases := by
  unfold Inner.tryFrame
  split <;> rfl

/-- A step that moves no stream on keeps the phases. -/
lemma phases_of_none {phases : List StreamPhase} (hl : l.phase = none) (hne : l ≠ .openNumber) :
    l.phases phases = phases := by
  unfold Label.phases
  rw [hl]
  cases l with
  | openNumber => exact absurd rfl hne
  | _ => rfl

/-- A step that moves a stream on changes its phase and no other. -/
lemma phases_of_some {phases : List StreamPhase} {p : StreamPhase} (hl : l.phase = some (i, p)) :
    l.phases phases = phases.set i p := by
  unfold Label.phases
  rw [hl]
  cases l with
  | openAdmit | openNumber => cases hl
  | _ => rfl

theorem phases_of_step (h : σ.step l = some σ') : σ'.phases = l.phases σ.phases := by
  cases takes_of_step h with
  | openNumber => simp [Inner.phases, Label.phases, SmuxStream.new]
  | openRegister | openWithdraw | dropRemove =>
    refine Eq.trans (phases_modify_to fun _ => rfl) ?_
    rw [phases_unlist]
    rfl
  | openReturn | openRefuse | dropQuietly | dropStream | dropRelease =>
    exact Eq.trans (phases_modify_to fun _ => rfl) rfl
  | closeSweep | readPending | readEnd | readRemainder | readQueue | pollThrottled | pollClosed
  | shutdownGone | shutdown => exact phases_modify fun _ => rfl
  | sendQueued | evict => exact phases_modify (σ := σ) fun _ => rfl
  | remove => exact phases_unlist (σ := σ) _
  | reply | keepAlive => exact phases_tryFrame (σ := σ) _
  | finFound =>
    exact Eq.trans (phases_modify fun _ => rfl) (phases_unlist _)
  | close =>
    unfold close
    split <;> rfl
  | closeClear =>
    simp only [Inner.phases, List.map_map]
    rfl
  | openAdmit | finUnknown | closeNotify | closeLock | dieEnabled | readClosed | shutdownIdle
  | sendGone | sendFull | pushFound | pushUnknown | writeRefused | write | frameTaken
  | framesDropped => rfl

/-- The steps that draw ids. -/
def Label.admits : Label → Bool
  | .openAdmit | .openNumber => true
  | _ => false

lemma admitted_of_step (hl : l.admits = false) (h : σ.step l = some σ') :
    σ'.admitted = σ.admitted := by
  cases takes_of_step h with
  | openAdmit | openNumber => cases hl
  | reply | keepAlive =>
    unfold Inner.tryFrame
    split <;> rfl
  | close =>
    unfold close
    split <;> rfl
  | _ => rfl

lemma phases_of_byCaller (hl : l.byCaller = false) (h : σ.step l = some σ') :
    σ'.phases = σ.phases ∧ σ'.admitted = σ.admitted := by
  have hphases : l.phases σ.phases = σ.phases ∧ l.admits = false := by
    cases l with
    | routePush | routeStep | routeFin | close | closeStep | closeSweep | frameTaken
    | framesDropped | keepAlive | dieEnabled => exact ⟨rfl, rfl⟩
    | _ => cases hl
  exact ⟨(phases_of_step h).trans hphases.1, admitted_of_step hphases.2 h⟩

end

/-- A stream in this phase is gone. -/
def StreamPhase.gone : StreamPhase → Bool
  | .failed | .dropped => true
  | _ => false

namespace Forward

open CopyLoop Machine

/-! ## What a connection does to the streams -/

section

variable {f f' : PortForwarder} {l : Label}

/-- A call of a connection is a step on the shared state. -/
lemma PortForwarder.called_cases (h : f.act (.caller l) = some f') :
    ∃ σ', l.byCaller = true ∧ f.mux.inner.step l = some σ' ∧
      f' = { f with mux := { f.mux with inner := σ' }
                    queued := f.queued ++ σ'.frames.drop f.mux.inner.frames.length } := by
  obtain ⟨m, hm, rfl⟩ := Option.map_eq_some_iff.mp h
  simp only [Mux.step, callerStep] at hm
  split at hm
  · next hcaller =>
    rw [Bool.and_eq_true] at hcaller
    obtain ⟨σ', hstep, rfl⟩ := Mux.act_cases hm
    exact ⟨σ', hcaller.1, hstep, by simp⟩
  · cases hm

/-- What goes on beside the connections takes no step that is theirs. -/
lemma PortForwarder.background_cases {l : MuxLabel} (hl : f.background l = true)
    (h : f.act l = some f') :
    ∃ m, f.mux.step l = some m ∧
      f' = { f with mux := m
                    queued := f'.queued
                    handed := f'.handed } ∧
      (m.inner = f.mux.inner ∨
        ∃ l', l'.byCaller = false ∧ f.mux.inner.step l' = some m.inner) := by
  obtain ⟨m, hm, rfl⟩ := Option.map_eq_some_iff.mp h
  refine ⟨m, hm, rfl, ?_⟩
  rcases effect_of_step hm with hsame | ⟨l', hstep, htakes⟩
  · exact .inl hsame
  · refine .inr ⟨l', ?_, hstep⟩
    cases htakes with
    | issued hissues =>
      cases hissues with
      | caller hcall => simp [hcall, PortForwarder.background] at hl
      | _ => rfl
    | routes hroutes =>
      cases l' with
      | routePush | routeStep | routeFin => rfl
      | _ => cases hroutes
    | closes => rfl

end

/-- What a step of a connection does to the phases of the streams and to the count of the calls of
`open_stream` that have not drawn an id. -/
inductive Connection.Advances (phases : List StreamPhase) (admitted : ℕ) (c : Connection) :
    List StreamPhase → ℕ → Connection → Prop
  | kept {c' : Connection} (hpc : c'.pc = c.pc) : Advances phases admitted c phases admitted c'
  | moved {i : ℕ} {p : StreamPhase} (hpc : c.pc = .streaming i) :
      Advances phases admitted c (phases.set i p) admitted c
  | admitted (hpc : c.pc = .accepted) :
      Advances phases admitted c phases (admitted + 1) { c with pc := .admitted }
  | numbered {n : ℕ} (hpc : c.pc = .admitted) (hn : admitted = n + 1) :
      Advances phases admitted c (phases ++ [.numbered]) n
        { c with pc := .streaming phases.length }
  | refused (hpc : c.pc = .accepted) :
      Advances phases admitted c phases admitted { c with pc := .ended none }
  | ends {i : ℕ} {p : StreamPhase} (hpc : c.pc = .streaming i) (hp : phases[i]? = some p)
      (hgone : p.gone = true) :
      Advances phases admitted c phases admitted { c with pc := .ended (some i) }

/-- The streams of the others stay where they are. -/
lemma Connection.Advances.getElem?_eq {phases phases' : List StreamPhase} {admitted admitted' i : ℕ}
    {c c' : Connection} (h : c.Advances phases admitted phases' admitted' c')
    (hi : c.stream? ≠ some i) (hlt : i < phases.length) : phases'[i]? = phases[i]? := by
  cases h with
  | kept | admitted | refused | ends => rfl
  | moved hpc =>
    rw [List.getElem?_set_ne]
    rintro rfl
    exact hi (by simp [Connection.stream?, hpc])
  | numbered => rw [List.getElem?_append_left hlt]

section

variable {σ σ' : Inner} {shutdown : Bool} {c : Connection} {a : Act} {l : Label} {i : ℕ}
  {st : SmuxStream}

lemma phases_getElem? (hst : σ.streams[i]? = some st) : σ.phases[i]? = some st.phase := by
  simp [Inner.phases, hst]

lemma gone_phase : st.phase.gone = st.gone := by
  unfold StreamPhase.gone SmuxStream.gone
  rfl

/-- A step with no call leaves the streams alone. -/
lemma advances_of_moved (h : c.Takes σ shutdown a) (hcall : a.call = none) :
    c.Advances σ.phases σ.admitted σ.phases σ.admitted a.next := by
  cases h with
  | refused hpc => exact .refused hpc
  | ends hpc hst hgone => exact .ends hpc (phases_getElem? hst) (gone_phase.trans hgone)
  | outbound | inbound => exact .kept rfl
  | _ => cases hcall

/-- A step that moves the stream on. -/
lemma advances_of_phase {p : StreamPhase} (hpc : c.pc = .streaming i) (hl : l.phase = some (i, p))
    (hstep : σ.step l = some σ') :
    c.Advances σ.phases σ.admitted σ'.phases σ'.admitted c := by
  have hadmits : l.admits = false := by
    cases l with
    | openAdmit | openNumber => cases hl
    | _ => rfl
  rw [phases_of_step hstep, phases_of_some hl, admitted_of_step hadmits hstep]
  exact .moved hpc

/-- A step that does not. -/
lemma advances_of_quiet {c' : Connection} (hpc : c'.pc = c.pc) (hl : l.phase = none)
    (hadmits : l.admits = false) (hstep : σ.step l = some σ') :
    c.Advances σ.phases σ.admitted σ'.phases σ'.admitted c' := by
  have hne : l ≠ .openNumber := by
    rintro rfl
    cases hadmits
  rw [phases_of_step hstep, phases_of_none hl hne, admitted_of_step hadmits hstep]
  exact .kept hpc

lemma advances_of_called (h : c.Takes σ shutdown a) (hcall : a.call = some l)
    (hstep : σ.step l = some σ') :
    c.Advances σ.phases σ.admitted σ'.phases σ'.admitted a.next := by
  cases h with
  | refused | ends | outbound | inbound => cases hcall
  | admitted hpc =>
    cases hcall
    have htakes := Smux.takes_of_step hstep
    cases htakes
    exact .admitted hpc
  | numbered hpc =>
    cases hcall
    rw [phases_of_step hstep]
    cases Smux.takes_of_step hstep with
    | openNumber hn =>
      have hlen : σ.streams.length = σ.phases.length := by simp [Inner.phases]
      rw [hlen]
      exact .numbered hpc hn
  | announces hpc hst hphase =>
    cases hcall
    split at hstep
    · exact advances_of_phase hpc rfl hstep
    · exact advances_of_phase hpc rfl hstep
  | registers hpc | withdraws hpc | leaves hpc | removes hpc | releases hpc =>
    cases hcall
    exact advances_of_phase hpc rfl hstep
  | writeWaits | writes | writeFails | shutdownWaits | shutsDown | readWaits | reads | throttled
  | readParks | readEnds =>
    cases hcall
    exact advances_of_quiet rfl rfl rfl hstep

end

/-! ## Ownership -/

/-- Every stream belongs to one connection, and what a connection has taken of the limit it gives
back. -/
structure Owned (limit permits : ℕ) (connections : List Connection) (phases : List StreamPhase)
    (admitted : ℕ) : Prop where
  permits : permits + connections.countP (fun c => !c.isEnded) = limit
  admitted : admitted = connections.countP (fun c => c.pc == .admitted)
  stream : ∀ c ∈ connections, ∀ i, c.stream? = some i →
    ∃ p, phases[i]? = some p ∧ (c.isEnded = true → p.gone = true)
  apart : ∀ (k k' : ℕ) (c c' : Connection) (i : ℕ), connections[k]? = some c →
    connections[k']? = some c' → c.stream? = some i → c'.stream? = some i → k = k'
  owned : ∀ i < phases.length, ∃ c ∈ connections, c.stream? = some i

namespace Owned

variable {limit permits admitted admitted' k : ℕ} {cs : List Connection}
  {phases phases' : List StreamPhase} {c c' : Connection}

lemma new (limit : ℕ) : Owned limit limit [] [] 0 where
  permits := rfl
  admitted := rfl
  stream c hc := by cases hc
  apart k k' c c' i hc := by simp at hc
  owned i hi := by cases hi

lemma accept (h : Owned limit (permits + 1) cs phases admitted) :
    Owned limit permits (cs ++ [.new]) phases admitted where
  permits := by
    have hpermits := h.permits
    have hnew : (cs ++ [Connection.new]).countP (fun c => !c.isEnded) =
        cs.countP (fun c => !c.isEnded) + 1 := by
      rw [List.countP_append]
      rfl
    omega
  admitted := by
    rw [List.countP_append, h.admitted]
    rfl
  stream c hc i hi := by
    rcases List.mem_append.mp hc with hc | hc
    · exact h.stream c hc i hi
    · rw [List.mem_singleton.mp hc] at hi
      cases hi
  apart k k' c c' i hc hc' hi hi' := by
    rcases getElem?_of_concat hc with ⟨-, rfl⟩ | ⟨-, hc⟩
    · cases hi
    · rcases getElem?_of_concat hc' with ⟨-, rfl⟩ | ⟨-, hc'⟩
      · cases hi'
      · exact h.apart k k' c c' i hc hc' hi hi'
  owned i hi := by
    obtain ⟨c, hc, hstream⟩ := h.owned i hi
    exact ⟨c, List.mem_append_left _ hc, hstream⟩

/-- The counts after a connection moved. -/
lemma counts (c' : Connection) (h : Owned limit permits cs phases admitted) (hc : cs[k]? = some c)
    (hended : c.isEnded = false)
    (hadmitted : admitted' + (if c.pc == .admitted then 1 else 0) =
      admitted + (if c'.pc == .admitted then 1 else 0)) :
    (permits + (if c'.isEnded then 1 else 0) + (cs.set k c').countP (fun c => !c.isEnded) = limit) ∧
      admitted' = (cs.set k c').countP (fun c => c.pc == .admitted) := by
  have hpermits := h.permits
  have hcount := h.admitted
  have hlive := countP_set_add (b := c') (p := fun c => !c.isEnded) hc
  have hwaiting := countP_set_add (b := c') (p := fun c => c.pc == .admitted) hc
  simp only [hended, Bool.not_false, if_true] at hlive
  constructor
  · cases hended' : c'.isEnded <;> simp only [hended', Bool.not_false, Bool.not_true,
      if_true, Bool.false_eq_true, if_false] at hlive ⊢ <;> omega
  · omega

/-- The connection keeps what it has, and the streams of the others stay where they are. -/
lemma same (h : Owned limit permits cs phases admitted) (hc : cs[k]? = some c)
    (hended : c.isEnded = false) (hstream : c'.stream? = c.stream?)
    (hadmitted : admitted' + (if c.pc == .admitted then 1 else 0) =
      admitted + (if c'.pc == .admitted then 1 else 0))
    (hlength : phases'.length = phases.length)
    (hothers : ∀ i, c.stream? ≠ some i → phases'[i]? = phases[i]?)
    (hgone : c'.isEnded = true → ∀ i p, c.stream? = some i → phases'[i]? = some p →
      p.gone = true) :
    Owned limit (permits + if c'.isEnded then 1 else 0) (cs.set k c') phases' admitted' where
  permits := (h.counts c' hc hended hadmitted).1
  admitted := (h.counts c' hc hended hadmitted).2
  stream d hd i hi := by
    obtain ⟨k', hk'⟩ := List.mem_iff_getElem?.mp hd
    rcases getElem?_of_set hk' with ⟨-, rfl⟩ | ⟨hne, hd⟩
    · rw [hstream] at hi
      obtain ⟨p, hp, -⟩ := h.stream c (List.mem_of_getElem? hc) i hi
      have hlt : i < phases'.length := hlength ▸ (List.getElem?_eq_some_iff.mp hp).1
      exact ⟨phases'[i], List.getElem?_eq_getElem hlt, fun hd =>
        hgone hd i _ hi (List.getElem?_eq_getElem hlt)⟩
    · obtain ⟨p, hp, hpgone⟩ := h.stream d (List.mem_of_getElem? hd) i hi
      refine ⟨p, ?_, hpgone⟩
      rw [hothers i fun hci => hne (h.apart k' k d c i hd hc hi hci), hp]
  apart k₁ k₂ c₁ c₂ i h₁ h₂ hi₁ hi₂ := by
    rcases getElem?_of_set h₁ with ⟨rfl, rfl⟩ | ⟨-, hc₁⟩ <;>
      rcases getElem?_of_set h₂ with ⟨rfl, rfl⟩ | ⟨-, hc₂⟩
    · rfl
    · exact h.apart _ _ c c₂ i hc hc₂ (hstream ▸ hi₁) hi₂
    · exact h.apart _ _ c₁ c i hc₁ hc hi₁ (hstream ▸ hi₂)
    · exact h.apart _ _ c₁ c₂ i hc₁ hc₂ hi₁ hi₂
  owned i hi := by
    obtain ⟨d, hd, hdi⟩ := h.owned i (hlength ▸ hi)
    obtain ⟨k', hk'⟩ := List.mem_iff_getElem?.mp hd
    by_cases hkk : k' = k
    · subst hkk
      obtain rfl := Option.some_inj.mp (hc.symm.trans hk')
      have hset : (cs.set k' c')[k']? = some c' := by
        simp [(List.getElem?_eq_some_iff.mp hc).1]
      exact ⟨c', List.mem_of_getElem? hset, hstream.trans hdi⟩
    · have hset : (cs.set k c')[k']? = some d := by
        rw [List.getElem?_set_ne (Ne.symm hkk), hk']
      exact ⟨d, List.mem_of_getElem? hset, hdi⟩

/-- The connection draws an id. -/
lemma numbered (h : Owned limit permits cs phases (admitted + 1)) (hc : cs[k]? = some c)
    (hpc : c.pc = .admitted) :
    Owned limit permits (cs.set k { c with pc := .streaming phases.length })
      (phases ++ [.numbered]) admitted := by
  have hnone : c.stream? = none := by simp [Connection.stream?, hpc]
  have hcounts := h.counts { c with pc := .streaming phases.length } hc
    (by simp [Connection.isEnded, hpc]) (show admitted + _ = _ by simp [hpc])
  have hset : (cs.set k { c with pc := .streaming phases.length })[k]? =
      some { c with pc := .streaming phases.length } := by
    simp [(List.getElem?_eq_some_iff.mp hc).1]
  -- The streams of the others are there already, so the new one is nobody else's.
  have hlt : ∀ d ∈ cs, ∀ i, d.stream? = some i → i < phases.length := by
    intro d hd i hi
    obtain ⟨p, hp, -⟩ := h.stream d hd i hi
    exact (List.getElem?_eq_some_iff.mp hp).1
  refine ⟨hcounts.1, hcounts.2, ?_, ?_, ?_⟩
  · intro d hd i hi
    obtain ⟨k', hk'⟩ := List.mem_iff_getElem?.mp hd
    rcases getElem?_of_set hk' with ⟨-, rfl⟩ | ⟨hne, hd⟩
    · cases hi
      exact ⟨.numbered, by simp, nofun⟩
    · obtain ⟨p, hp, hpgone⟩ := h.stream d (List.mem_of_getElem? hd) i hi
      refine ⟨p, ?_, hpgone⟩
      rw [List.getElem?_append_left (hlt d (List.mem_of_getElem? hd) i hi), hp]
  · intro k₁ k₂ c₁ c₂ i h₁ h₂ hi₁ hi₂
    rcases getElem?_of_set h₁ with ⟨rfl, rfl⟩ | ⟨-, hc₁⟩ <;>
      rcases getElem?_of_set h₂ with ⟨rfl, rfl⟩ | ⟨-, hc₂⟩
    · rfl
    · cases hi₁
      exact absurd (hlt c₂ (List.mem_of_getElem? hc₂) _ hi₂) (lt_irrefl _)
    · cases hi₂
      exact absurd (hlt c₁ (List.mem_of_getElem? hc₁) _ hi₁) (lt_irrefl _)
    · exact h.apart _ _ c₁ c₂ i hc₁ hc₂ hi₁ hi₂
  · intro i hi
    rw [List.length_append, List.length_singleton] at hi
    by_cases hnew : i = phases.length
    · exact ⟨_, List.mem_of_getElem? hset, by rw [hnew]; rfl⟩
    · obtain ⟨d, hd, hdi⟩ := h.owned i (by omega)
      obtain ⟨k', hk'⟩ := List.mem_iff_getElem?.mp hd
      have hkk : k' ≠ k := by
        rintro rfl
        obtain rfl := Option.some_inj.mp (hc.symm.trans hk')
        simp [hnone] at hdi
      refine ⟨d, List.mem_of_getElem? (i := k') ?_, hdi⟩
      rw [List.getElem?_set_ne (Ne.symm hkk), hk']

lemma isEnded_of_pc (h : c'.pc = c.pc) : c'.isEnded = c.isEnded := by
  simp [Connection.isEnded, h]

/-- **A connection that moves keeps everything in one hand.** It keeps its permit and its stream
until it ends, and gives both back together. -/
theorem settle (h : Owned limit permits cs phases admitted) (hc : cs[k]? = some c)
    (hended : c.isEnded = false) (hadvances : c.Advances phases admitted phases' admitted' c') :
    Owned limit (permits + if c'.isEnded then 1 else 0) (cs.set k c') phases' admitted' := by
  cases hadvances with
  | kept hpc =>
    refine h.same hc hended (by simp [Connection.stream?, hpc]) (by rw [hpc]) rfl (fun _ _ => rfl)
      fun hdone => ?_
    rw [isEnded_of_pc hpc, hended] at hdone
    cases hdone
  | moved hpc =>
    refine h.same hc hended rfl rfl (by simp) (fun j hj => ?_) fun hdone => ?_
    · rw [List.getElem?_set_ne]
      rintro rfl
      exact hj (by simp [Connection.stream?, hpc])
    · rw [hended] at hdone
      cases hdone
  | admitted hpc =>
    exact h.same hc hended (by simp [Connection.stream?, hpc]) (by simp [hpc]) rfl
      (fun _ _ => rfl) nofun
  | numbered hpc hn =>
    subst hn
    exact h.numbered hc hpc
  | refused hpc =>
    refine h.same hc hended (by simp [Connection.stream?, hpc]) (by simp [hpc]) rfl
      (fun _ _ => rfl) fun _ i p hi => ?_
    simp [Connection.stream?, hpc] at hi
  | ends hpc hp hgone =>
    refine h.same hc hended (by simp [Connection.stream?, hpc]) (by simp [hpc]) rfl
      (fun _ _ => rfl) fun _ i p' hi hp' => ?_
    simp only [Connection.stream?, hpc, Option.some.injEq] at hi
    subst hi
    rw [hp] at hp'
    cases hp'
    exact hgone

end Owned

/-! ## Runs -/

namespace PortForwarder

/-- The connections that have not ended. -/
def live (f : PortForwarder) : ℕ := f.connections.countP (fun c => !c.isEnded)

/-- The stream of a connection. -/
def streamOf (f : PortForwarder) (k : ℕ) : Option ℕ := (f.connections[k]?).bind Connection.stream?

def Owns (f : PortForwarder) : Prop :=
  Owned f.maxConnections f.permits f.connections f.mux.inner.phases f.mux.inner.admitted

variable {f f' : PortForwarder} {k : ℕ} {c : Connection} {a : Act}

/-- A connection that has ended does nothing. -/
lemma not_ended_of_takes {σ : Inner} {shutdown : Bool} (h : c.Takes σ shutdown a) :
    c.isEnded = false := by
  cases h <;> simp_all [Connection.isEnded]

theorem Owns.step {l : ForwardLabel} (h : f.Owns) (hstep : f.step l = some f') :
    f'.Owns ∧ f'.maxConnections = f.maxConnections := by
  cases moves_of_step hstep with
  | main => exact ⟨h, rfl⟩
  | accepted _ hpermits =>
    refine ⟨?_, rfl⟩
    rw [Owns, hpermits] at h
    exact h.accept
  | background hl hact =>
    obtain ⟨m, -, hf', hinner⟩ := background_cases hl hact
    rw [hf']
    refine ⟨?_, rfl⟩
    rcases hinner with hsame | ⟨l', hl', hinner⟩
    · rw [Owns, hsame]
      exact h
    · obtain ⟨hphases, hadmitted⟩ := phases_of_byCaller hl' hinner
      rw [Owns, hphases, hadmitted]
      exact h
  | called hc htakes hcall hact =>
    obtain ⟨σ', -, hinner, rfl⟩ := called_cases hact
    have hended := not_ended_of_takes htakes
    exact ⟨Owned.settle h hc hended (advances_of_called htakes hcall hinner), rfl⟩
  | moved hc htakes hcall =>
    have hended := not_ended_of_takes htakes
    exact ⟨Owned.settle h hc hended (advances_of_moved htakes hcall), rfl⟩

lemma owns_of_reachable {config : PortForwardConfig} {type : SessionType} {timeout capacity : ℕ}
    (h : Reachable PortForwarder.step free (.new config type timeout capacity) f) :
    f.Owns ∧ f.maxConnections = config.maxConnections := by
  refine h.invariant (P := fun f => f.Owns ∧ f.maxConnections = config.maxConnections)
    ⟨Owned.new _, rfl⟩ fun f l f' hf hstep _ => ?_
  obtain ⟨howns, hmax⟩ := hf.1.step hstep
  exact ⟨howns, hmax.trans hf.2⟩

/-- A stream that is not gone is that of a connection that has not ended. -/
lemma Owns.countP_le (h : f.Owns) :
    f.mux.inner.streams.countP (fun st => !st.gone) ≤ f.live := by
  refine countP_le_of_key Connection.stream? fun i st hst hpresent => ?_
  obtain ⟨hlt, -⟩ := List.getElem?_eq_some_iff.mp hst
  obtain ⟨c, hc, hi⟩ := h.owned i (by simpa [Inner.phases] using hlt)
  refine ⟨c, hc, ?_, hi⟩
  obtain ⟨p, hp, hgone⟩ := h.stream c hc i hi
  rw [phases_getElem? hst] at hp
  cases hp
  rw [gone_phase] at hgone
  cases hended : c.isEnded with
  | false => rfl
  | true => simp [hgone hended] at hpresent

lemma Owns.existsUnique (h : f.Owns) {i : ℕ} (hi : i < f.mux.inner.streams.length) :
    ∃! k, f.streamOf k = some i := by
  obtain ⟨c, hc, hci⟩ := h.owned i (by simpa [Inner.phases] using hi)
  obtain ⟨k, hk⟩ := List.mem_iff_getElem?.mp hc
  refine ⟨k, by simp [streamOf, hk, hci], fun k' hk' => ?_⟩
  obtain ⟨c', hc', hci'⟩ := Option.bind_eq_some_iff.mp hk'
  exact h.apart k' k c' c i hc' hk hci' hci

/-- A connection is turned away when the permits are all out. -/
lemma Owns.refused_iff (h : f.Owns) (hstep : f.step .accept = some f') :
    f'.refused = f.refused + 1 ↔ f.live = f.maxConnections := by
  have hpermits : f.permits + f.live = f.maxConnections := h.permits
  simp only [PortForwarder.step] at hstep
  split at hstep <;> cases hstep
  unfold accept
  split
  · next hzero => simp only [true_iff]; omega
  · next n hn =>
    constructor
    · intro hr
      simp at hr
    · omega

end PortForwarder

/-- **The limit on connections holds, and a stream is one connection's.** The permits that are out
are those of the connections that are running; and a stream that is held belongs to exactly one of
them. -/
theorem streams_within_limit {config : PortForwardConfig} {type : SessionType}
    {timeout capacity : ℕ} {f : PortForwarder}
    (h : Reachable PortForwarder.step free (.new config type timeout capacity) f) :
    f.permits + f.live = config.maxConnections ∧
    f.mux.inner.streams.countP (fun st => !st.gone) ≤ f.live ∧
    (∀ i < f.mux.inner.streams.length, ∃! k, f.streamOf k = some i) ∧
    (∀ (k i : ℕ) (c : Connection) (st : SmuxStream), f.connections[k]? = some c →
      c.pc = .ended (some i) → f.mux.inner.streams[i]? = some st → st.gone = true) ∧
    (∀ f', f.step .accept = some f' →
      (f'.refused = f.refused + 1 ↔ f.live = config.maxConnections)) := by
  obtain ⟨howns, hmax⟩ := PortForwarder.owns_of_reachable h
  refine ⟨hmax ▸ howns.permits, howns.countP_le, fun i hi => howns.existsUnique hi, ?_, ?_⟩
  · intro k i c st hc hpc hst
    obtain ⟨p, hp, hgone⟩ := howns.stream c (List.mem_of_getElem? hc) i
      (by simp [Connection.stream?, hpc])
    rw [phases_getElem? hst] at hp
    cases hp
    exact gone_phase.symm.trans (hgone (by simp [Connection.isEnded, hpc]))
  · intro f' hstep
    rw [← hmax]
    exact howns.refused_iff hstep

/-- With room for one connection, the second is turned away. -/
theorem streams_within_limit_one :
    ∃ f : PortForwarder, (f.refused = 1 ∧ f.mux.inner.streams.length = 1) ∧ f.permits + f.live = 1 ∧
      (∃! k, f.streamOf k = some 0) ∧
      ∀ f', f.step .accept = some f' → (f'.refused = f.refused + 1 ↔ f.live = 1) := by
  have hrun : (run PortForwarder.step (.new ⟨1, false⟩ .port 30 64)
      [.setSendable true, .forward, .forward, .forward, .accept, .accept, .connection 0 .advance,
        .connection 0 .advance, .connection 0 .advance]).any (fun f =>
      decide (f.refused = 1 ∧ f.mux.inner.streams.length = 1)) = true := by decide +kernel
  obtain ⟨f, hf, hp⟩ := exists_of_run hrun
  obtain ⟨hpermits, -, hstreams, -, hrefused⟩ := streams_within_limit hf
  have hlength := (of_decide_eq_true hp).2
  exact ⟨f, of_decide_eq_true hp, hpermits, hstreams 0 (by omega), hrefused⟩

end Forward
end SsmBridge.Smux
