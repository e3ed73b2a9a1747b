import SsmBridge.Properties.ForwardBytes
import SsmBridge.Properties.ZeroRead

/-!
# How a forwarded connection ends

Each direction of a connection is closed on its own.  When the local client has closed its side, the
copy loop shuts the stream down, and FIN goes behind everything the client sent; when the stream is
at its end, the copy loop shuts the local socket down.  The stream is let go of when both loops are
over, or when shutdown was requested.

`Halves` is what becomes of the two halves of a stream in a step, and `Connection.Ends` the
invariant that ties them to the two loops.
-/

namespace SsmBridge.Smux

open Machine

/-! ## The two halves of a stream -/

/-- The state of the two halves of a stream. -/
structure Halves where
  readClosed : Bool
  polling : Bool
  writeClosed : Bool

def SmuxStream.halves (st : SmuxStream) : Halves := ⟨st.readClosed, st.polling, st.writeClosed⟩

def Inner.halves (σ : Inner) (i : ℕ) : Option Halves := (σ.streams[i]?).map SmuxStream.halves

/-- A read that is under way has not found the end of the stream. -/
def Halves.Calm (h : Halves) : Prop := h.polling = true → h.readClosed = false

/-- A step of `poll_read` that may leave a read under way. -/
def Label.beginsRead (i : ℕ) : Label → Bool
  | .pollRead j _ | .pollThrottled j => j == i
  | _ => false

/-- How the halves of a stream change: a read half that is closed stays closed, a write half is
closed by `poll_shutdown`, and a read is begun by `poll_read`. -/
structure Halves.Onward (i : ℕ) (l : Label) (h h' : Halves) : Prop where
  read : h.Calm → (h.readClosed = true → h'.readClosed = true) ∧ h'.Calm
  write : l ≠ .pollShutdown i → h'.writeClosed = h.writeClosed
  poll : l.beginsRead i = false → h'.polling = true → h.polling = true

section

variable {σ σ' : Inner} {l : Label} {i j size : ℕ} {f : SmuxStream → SmuxStream} {st : SmuxStream}

lemma Halves.Onward.refl (h : Halves) : h.Onward i l h :=
  ⟨fun hcalm => ⟨id, hcalm⟩, fun _ => rfl, fun _ => id⟩

/-- The halves of the stream go on. -/
def HalvesOnward (σ : Inner) (l : Label) (σ' : Inner) (i : ℕ) : Prop :=
  ∀ h, σ.halves i = some h → ∃ h', σ'.halves i = some h' ∧ h.Onward i l h'

lemma halvesOnward_of_eq (h : σ'.halves i = σ.halves i) : HalvesOnward σ l σ' i :=
  fun half hhalf => ⟨half, h.trans hhalf, .refl half⟩

lemma halves_modify (hf : ∀ st, (f st).halves = st.halves) :
    (σ.modify j f).halves i = σ.halves i := by
  simp only [Inner.halves, Inner.getElem?_modify]
  split
  · rw [Option.map_map]
    exact congrArg (fun g => Option.map g _) (funext hf)
  · rfl

lemma halves_map (hf : ∀ st, (f st).halves = st.halves) (h : σ'.streams = σ.streams.map f) :
    σ'.halves i = σ.halves i := by
  simp only [Inner.halves, h, List.getElem?_map, Option.map_map]
  exact congrArg (fun g => Option.map g _) (funext hf)

lemma halves_unlist (id : UInt32) : (σ.unlist id).halves i = σ.halves i := by
  refine halves_map (fun st => ?_) rfl
  split <;> rfl

lemma halves_tryFrame (frame : Frame) : (σ.tryFrame frame).halves i = σ.halves i := by
  unfold Inner.tryFrame
  split <;> rfl

/-- A step of one stream's caller on its halves. -/
lemma halvesOnward_modify (hst : σ.streams[j]? = some st)
    (hf : st.halves.Onward j l (f st).halves) : HalvesOnward σ l (σ.modify j f) i := by
  intro half hhalf
  by_cases hj : j = i
  · subst hj
    simp only [Inner.halves, hst, Option.map_some, Option.some.injEq] at hhalf
    subst hhalf
    exact ⟨(f st).halves, by simp [Inner.halves, hst], hf⟩
  · exact ⟨half, by simpa [Inner.halves, hj] using hhalf, .refl half⟩

lemma halvesOnward_pollRead (h : pollRead σ j size = some σ') :
    HalvesOnward σ (.pollRead j size) σ' i := by
  unfold pollRead at h
  split at h
  · next st hst =>
    split at h
    · cases h
    · next hheld =>
      have hpolling : st.polling = false := by simpa using (not_or.mp hheld).2
      split at h
      · cases h
        exact halvesOnward_of_eq rfl
      · next hopen =>
        have hopen : st.readClosed = false := by simpa using hopen
        split at h
        · cases h
          refine halvesOnward_of_eq (halves_modify ?_)
          exact fun _ => rfl
        · cases h
          refine halvesOnward_of_eq (halves_modify ?_)
          exact fun _ => rfl
        · split at h
          · cases h
            refine halvesOnward_modify hst ⟨fun _ => ⟨id, fun _ => hopen⟩, fun _ => rfl, ?_⟩
            simp [Label.beginsRead]
          · cases h
            refine halvesOnward_modify hst
              ⟨fun _ => ⟨fun _ => rfl, fun hp => ?_⟩, fun _ => rfl, fun _ => id⟩
            exact absurd (hpolling.symm.trans hp) (by simp)
  · cases h

lemma halvesOnward_pollThrottled (h : pollThrottled σ j = some σ') :
    HalvesOnward σ (.pollThrottled j) σ' i := by
  unfold pollThrottled at h
  split at h
  · next st hst =>
    split at h
    · cases h
    · next hheld =>
      cases h
      have hopen : st.readClosed = false := by
        simpa using (not_or.mp (not_or.mp (not_or.mp hheld).2).2).1
      refine halvesOnward_modify hst ⟨fun _ => ⟨id, fun _ => hopen⟩, fun _ => rfl, ?_⟩
      simp [Label.beginsRead]
  · cases h

theorem halvesOnward_of_step (h : σ.step l = some σ') : HalvesOnward σ l σ' i := by
  cases takes_of_step h with
  | readClosed | readRemainder | readQueue | readPending | readEnd => exact halvesOnward_pollRead h
  | pollThrottled => exact halvesOnward_pollThrottled h
  | pollClosed hst hpolling =>
    refine halvesOnward_modify hst ⟨fun hcalm => ⟨fun hread => ?_, nofun⟩, fun _ => rfl, nofun⟩
    exact absurd ((hcalm hpolling).symm.trans hread) (by simp)
  | shutdownGone hst =>
    exact halvesOnward_modify hst
      ⟨fun hcalm => ⟨id, hcalm⟩, fun hne => absurd rfl hne, fun _ => id⟩
  | @shutdown j st hst =>
    exact halvesOnward_modify (σ := σ.enqueue ⟨cmdFin, st.id, []⟩) hst
      ⟨fun hcalm => ⟨id, hcalm⟩, fun hne => absurd rfl hne, fun _ => id⟩
  | openNumber =>
    intro half hhalf
    obtain ⟨st, hst, rfl⟩ := Option.map_eq_some_iff.mp hhalf
    refine ⟨st.halves, ?_, .refl _⟩
    simp [Inner.halves, List.getElem?_append_left (List.getElem?_eq_some_iff.mp hst).1, hst]
  | openRegister | openWithdraw | dropRemove | finFound =>
    refine halvesOnward_of_eq (Eq.trans (halves_modify ?_) (halves_unlist _))
    exact fun _ => rfl
  | openReturn | openRefuse | dropQuietly | dropStream | dropRelease | closeSweep =>
    refine halvesOnward_of_eq (halves_modify ?_)
    exact fun _ => rfl
  | sendQueued | evict =>
    refine halvesOnward_of_eq (halves_modify (σ := σ) ?_)
    exact fun _ => rfl
  | remove => exact halvesOnward_of_eq (halves_unlist (σ := σ) _)
  | reply | keepAlive => exact halvesOnward_of_eq (halves_tryFrame (σ := σ) _)
  | close =>
    refine halvesOnward_of_eq ?_
    unfold close
    split <;> rfl
  | closeClear =>
    refine halvesOnward_of_eq (halves_map (f := fun st => { st with listed := false }) ?_ rfl)
    exact fun _ => rfl
  | openAdmit | finUnknown | closeNotify | closeLock | dieEnabled | shutdownIdle | sendGone
  | sendFull | pushFound | pushUnknown | writeRefused | write | frameTaken | framesDropped =>
    exact halvesOnward_of_eq rfl

/-- The sending half of the outbound queue does not come back. -/
lemma framesOpen_of_step (h : σ.step l = some σ') (hopen : σ.framesOpen = false) :
    σ'.framesOpen = false := by
  cases takes_of_step h with
  | reply | keepAlive =>
    unfold Inner.tryFrame
    split <;> exact hopen
  | close =>
    unfold close
    split <;> exact hopen
  | framesDropped => rfl
  | _ => exact hopen

/-- What was routed stays routed. -/
lemma routed_prefix_of_step (h : σ.step l = some σ') : σ.routed <+: σ'.routed := by
  cases hl : l.routes with
  | false => exact (routing_of_step hl h).2 ▸ List.prefix_refl _
  | true =>
    cases l with
    | routePush id payload => exact routed_of_routePush h ▸ List.prefix_append _ _
    | routeFin id payload => exact (routed_of_routeFin h).2 ▸ List.prefix_append _ _
    | routeStep id => exact routed_of_routeStep h ▸ List.prefix_refl _
    | _ => cases hl

/-- What a step does to the streams and to what was routed. -/
structure Inner.Passes (σ : Inner) (l : Label) (σ' : Inner) : Prop where
  halves : ∀ i, HalvesOnward σ l σ' i
  framesOpen : σ'.framesOpen = true → σ.framesOpen = true
  routed : σ.routed <+: σ'.routed

lemma Inner.Passes.refl (σ : Inner) (l : Label) : σ.Passes l σ :=
  ⟨fun _ => halvesOnward_of_eq rfl, id, List.prefix_refl _⟩

lemma passes_of_step (h : σ.step l = some σ') : σ.Passes l σ' := by
  refine ⟨fun _ => halvesOnward_of_step h, fun hopen => ?_, routed_prefix_of_step h⟩
  cases hb : σ.framesOpen with
  | true => rfl
  | false => exact (framesOpen_of_step h hb).symm.trans hopen

lemma Inner.Passes.onward {half half' : Halves} (h : σ.Passes l σ') (hhalf : σ.halves i = some half)
    (hhalf' : σ'.halves i = some half') : half.Onward i l half' := by
  obtain ⟨half₁, hhalf₁, honward⟩ := h.halves i half hhalf
  rw [hhalf'] at hhalf₁
  cases hhalf₁
  exact honward

/-- No frame among these carries an empty payload to a stream. -/
def Full (routed : List Frame) : Prop := ∀ f ∈ routed, f.cmd = cmdPsh → f.payload ≠ []

lemma Full.of_prefix {routed routed' : List Frame} (h : Full routed') (hp : routed <+: routed') :
    Full routed := fun f hf => h f (hp.subset hf)

lemma filled_of_full (h : Reachable Inner.step free .new σ) (hfull : Full σ.routed) : σ.Filled := by
  induction h with
  | refl =>
    refine ⟨fun i st hst => ?_, fun i id payload hsend => ?_⟩
    · simp [Inner.new] at hst
    · cases hsend
  | @tail σ σ' l hr hstep _ ih =>
    refine (ih (hfull.of_prefix (routed_prefix_of_step hstep))).step hstep ?_
    cases l with
    | routePush id payload =>
      have hmem : (⟨cmdPsh, id, payload⟩ : Frame) ∈ σ'.routed := by
        rw [routed_of_routePush hstep]
        simp
      have hne := hfull _ hmem rfl
      cases payload with
      | nil => exact absurd rfl hne
      | cons b rest => rfl
    | _ => rfl

lemma readReturn_of_ready {chunk : Bytes} (h : Forward.readResult σ i size = some (.ready chunk)) :
    readReturn σ (.pollRead i size) = some chunk := by
  unfold Forward.readResult at h
  unfold readReturn
  split at h
  · next st hst =>
    simp only [hst]
    split at h
    · cases h
    · split at h
      · next hclosed =>
        cases h
        simp [hclosed]
      · next hopen =>
        rw [if_neg hopen]
        revert h
        cases st.remainder with
        | some chunk' =>
          intro h
          cases h
          rfl
        | none =>
          cases st.queue with
          | cons chunk' rest =>
            intro h
            cases h
            rfl
          | nil =>
            intro h
            cases halive : σ.senderAlive i st with
            | true => simp [halive] at h
            | false => simpa [halive] using h
  · cases h

end

/-- The caller has let go of the stream. -/
def StreamPhase.left : StreamPhase → Bool
  | .dropping | .removed | .dropped => true
  | _ => false

namespace Forward

open CopyLoop

/-! ## The ends of a connection -/

/-- FIN was queued behind these bytes. -/
def Concluded (id : UInt32) (bytes : Bytes) (queued : List Frame) : Prop :=
  ∃ before after, queued = before ++ ⟨cmdFin, id, []⟩ :: after ∧ pushed id before = bytes

lemma Concluded.append {id : UInt32} {bytes : Bytes} {queued : List Frame}
    (h : Concluded id bytes queued) (more : List Frame) : Concluded id bytes (queued ++ more) := by
  obtain ⟨before, after, rfl, hbytes⟩ := h
  exact ⟨before, after ++ more, by simp, hbytes⟩

/-- How a connection and its stream come to their ends. -/
structure Connection.Ends (c : Connection) (shutdown : Bool) (σ : Inner) (queued : List Frame) :
    Prop where
  /-- The stream is not let go of before both copies are over. -/
  left : ∀ (i : ℕ) (p : StreamPhase), c.stream? = some i → σ.phases[i]? = some p → p.left = true →
    shutdown = true ∨ c.outbound.isDone = true ∧ c.inbound.isDone = true
  calm : ∀ i h, c.stream? = some i → σ.halves i = some h → h.Calm
  write : ∀ i h, c.stream? = some i → σ.halves i = some h → h.writeClosed = true →
    c.outbound.stage = .finished
  /-- A client that has closed its direction is announced behind all it sent. -/
  concluded : c.outbound.stage = .finished → σ.framesOpen = true →
    ∃ i, c.stream? = some i ∧ Concluded (idOf i) c.outbound.taken queued
  /-- The client is told of the end when the stream is at its end. -/
  eof : Full σ.routed → c.inbound.ended = true →
    ∃ i h, c.stream? = some i ∧ σ.halves i = some h ∧ h.readClosed = true

section

variable {σ σ' : Inner} {c : Connection} {l : Label} {shutdown shutdown' : Bool}
  {queued queued' more : List Frame} {a : Act} {i : ℕ} {st : SmuxStream}

namespace Connection.Ends

lemma new : Connection.new.Ends shutdown σ queued where
  left i p hi := by cases hi
  calm i h hi := by cases hi
  write i h hi := by cases hi
  concluded h := by cases h
  eof _ h := by cases h

lemma request (h : c.Ends shutdown σ queued) (hs : shutdown = true → shutdown' = true) :
    c.Ends shutdown' σ queued where
  left i p hi hp hleft := (h.left i p hi hp hleft).imp_left hs
  calm := h.calm
  write := h.write
  concluded := h.concluded
  eof := h.eof

/-- The connection keeps its copies and its stream, and the stream is not let go of. -/
lemma keep {c' : Connection} (h : c.Ends shutdown σ queued) (hpasses : σ.Passes l σ')
    (hplaced : ∀ i, c.stream? = some i → i < σ.streams.length)
    (hstream : c'.stream? = c.stream?) (houtbound : c'.outbound = c.outbound)
    (hinbound : c'.inbound = c.inbound)
    (hleft : ∀ (i : ℕ) (p : StreamPhase), c.stream? = some i → σ'.phases[i]? = some p →
      p.left = true → shutdown = true ∨ c.outbound.isDone = true ∧ c.inbound.isDone = true)
    (hclose : ∀ i half half', c.stream? = some i → σ.halves i = some half →
      σ'.halves i = some half' → half'.writeClosed = half.writeClosed) :
    c'.Ends shutdown σ' (queued ++ more) := by
  have hhalves : ∀ i half', c.stream? = some i → σ'.halves i = some half' →
      ∃ half, σ.halves i = some half ∧ half.Onward i l half' := by
    intro i half' hi hhalf'
    obtain ⟨half, hhalf⟩ : ∃ half, σ.halves i = some half := by
      simp [Inner.halves, List.getElem?_eq_getElem (hplaced i hi)]
    exact ⟨half, hhalf, hpasses.onward hhalf hhalf'⟩
  refine ⟨?_, ?_, ?_, fun hstage hopen => ?_, fun hfull hended => ?_⟩
  · rw [hstream, houtbound, hinbound]
    exact hleft
  · intro i half' hi hhalf'
    rw [hstream] at hi
    obtain ⟨half, hhalf, honward⟩ := hhalves i half' hi hhalf'
    exact (honward.read (h.calm i half hi hhalf)).2
  · intro i half' hi hhalf' hclosed
    rw [hstream] at hi
    obtain ⟨half, hhalf, -⟩ := hhalves i half' hi hhalf'
    rw [houtbound]
    exact h.write i half hi hhalf ((hclose i half half' hi hhalf hhalf').symm.trans hclosed)
  · rw [houtbound] at hstage ⊢
    rw [hstream]
    obtain ⟨i, hi, hconcluded⟩ := h.concluded hstage (hpasses.framesOpen hopen)
    exact ⟨i, hi, hconcluded.append more⟩
  · rw [hinbound] at hended
    rw [hstream]
    obtain ⟨i, half, hi, hhalf, hread⟩ := h.eof (hfull.of_prefix hpasses.routed) hended
    obtain ⟨half', hhalf', honward⟩ := hpasses.halves i half hhalf
    exact ⟨i, half', hi, hhalf', (honward.read (h.calm i half hi hhalf)).1 hread⟩

/-- A step that is not on the stream of the connection. -/
lemma other (h : c.Ends shutdown σ queued) (hpasses : σ.Passes l σ')
    (hplaced : ∀ i, c.stream? = some i → i < σ.streams.length)
    (hphases : ∀ i, c.stream? = some i → σ'.phases[i]? = σ.phases[i]?)
    (hl : ∀ i, c.stream? = some i → l ≠ .pollShutdown i) :
    c.Ends shutdown σ' (queued ++ more) := by
  refine h.keep hpasses hplaced rfl rfl rfl (fun i p hi hp => ?_)
    (fun i half half' hi hhalf hhalf' => (hpasses.onward hhalf hhalf').write (hl i hi))
  rw [hphases i hi] at hp
  exact h.left i p hi hp

/-- A step of `open_stream` or of the drop, or one that leaves the copies as they are. -/
lemma still {c' : Connection} (h : c.Ends shutdown σ queued)
    (hplaced : ∀ i, c.stream? = some i → i < σ.streams.length)
    (hstream : c'.stream? = c.stream?) (houtbound : c'.outbound = c.outbound)
    (hinbound : c'.inbound = c.inbound)
    (hleft : ∀ i p, l.phase = some (i, p) → c.stream? = some i ∧ (p.left = true →
      shutdown = true ∨ c.outbound.isDone = true ∧ c.inbound.isDone = true))
    (hl : ∀ i, l ≠ .pollShutdown i) (hnumber : l ≠ .openNumber)
    (hstep : σ.step l = some σ') : c'.Ends shutdown σ' (queued ++ more) := by
  have hpasses := passes_of_step hstep
  refine h.keep hpasses hplaced hstream houtbound hinbound (fun i p hi hp hpleft => ?_)
    (fun i half half' hi hhalf hhalf' => (hpasses.onward hhalf hhalf').write (hl i))
  rw [phases_of_step hstep] at hp
  cases hphase : l.phase with
  | none =>
    rw [phases_of_none hphase hnumber] at hp
    exact h.left i p hi hp hpleft
  | some move =>
    obtain ⟨j, q⟩ := move
    obtain ⟨hj, hq⟩ := hleft j q hphase
    obtain rfl : j = i := Option.some_inj.mp (hj.symm.trans hi)
    have hlt : j < σ.phases.length := by simpa [Inner.phases] using hplaced j hi
    rw [phases_of_some hphase, List.getElem?_set_self hlt] at hp
    exact hq (Option.some_inj.mp hp ▸ hpleft)

/-- A step of a copy: the stream is held, and where the write half is closed the outbound copy has
come to its end. -/
lemma copy {c' : Connection} (h : c.Ends shutdown σ queued) (hpasses : σ.Passes l σ')
    (hphases : σ'.phases = σ.phases) (hpc : c.pc = .streaming i)
    (hst : σ.streams[i]? = some st) (hphase : st.phase = .held) (hpc' : c'.pc = c.pc)
    (hwrite : ∀ half', σ'.halves i = some half' → half'.writeClosed = true →
      c'.outbound.stage = .finished)
    (hconcluded : c'.outbound.stage = .finished → σ'.framesOpen = true →
      Concluded (idOf i) c'.outbound.taken queued')
    (heof : Full σ'.routed → c'.inbound.ended = true →
      ∃ half, σ'.halves i = some half ∧ half.readClosed = true) :
    c'.Ends shutdown σ' queued' := by
  have hi : c'.stream? = some i := by simp [Connection.stream?, hpc', hpc]
  have hci : c.stream? = some i := stream_of_streaming hpc
  have honly : ∀ j, c'.stream? = some j → j = i := fun j hj => Option.some_inj.mp (hj.symm.trans hi)
  have hhalf : σ.halves i = some st.halves := by simp [Inner.halves, hst]
  refine ⟨fun j p hj hp hleft => ?_, fun j half' hj hhalf' => ?_, fun j half' hj hhalf' => ?_,
    fun hstage hopen => ⟨i, hi, hconcluded hstage hopen⟩, fun hfull hended => ?_⟩
  · obtain rfl := honly j hj
    rw [hphases, phases_getElem? hst, hphase] at hp
    cases hp
    cases hleft
  · obtain rfl := honly j hj
    exact ((hpasses.onward hhalf hhalf').read (h.calm j st.halves hci hhalf)).2
  · obtain rfl := honly j hj
    exact hwrite half' hhalf'
  · obtain ⟨half, hhalf, hread⟩ := heof hfull hended
    exact ⟨i, half, hi, hhalf, hread⟩

/-- The connection has drawn an id. -/
lemma numbered (h : c.Ends shutdown σ queued) (hpc : c.pc = .admitted)
    (hstep : σ.step .openNumber = some σ') :
    Connection.Ends { c with pc := .streaming σ.streams.length } shutdown σ' (queued ++ more) := by
  have hnone : c.stream? = none := by simp [Connection.stream?, hpc]
  have hlength : σ.phases.length = σ.streams.length := by simp [Inner.phases]
  have hphases : σ'.phases[σ.streams.length]? = some .numbered := by
    rw [phases_of_step hstep, ← hlength]
    simp [Label.phases]
  have hhalves : σ'.halves σ.streams.length = some ⟨false, false, false⟩ := by
    cases Smux.takes_of_step hstep with
    | openNumber =>
      simp only [Inner.halves, List.getElem?_concat_length, Option.map_some]
      rfl
  refine ⟨fun i p hi hp hleft => ?_, fun i half hi hhalf => ?_, fun i half hi hhalf hclosed => ?_,
    fun hstage hopen => ?_, fun hfull hended => ?_⟩
  · cases hi
    rw [hphases] at hp
    cases hp
    cases hleft
  · cases hi
    rw [hhalves] at hhalf
    cases hhalf
    intro hpolling
    cases hpolling
  · cases hi
    rw [hhalves] at hhalf
    cases hhalf
    cases hclosed
  · obtain ⟨i, hi, -⟩ := h.concluded hstage ((passes_of_step hstep).framesOpen hopen)
    rw [hnone] at hi
    cases hi
  · obtain ⟨i, half, hi, -⟩ := h.eof (hfull.of_prefix (routed_prefix_of_step hstep)) hended
    rw [hnone] at hi
    cases hi

/-- A copy that is not over has not closed the write half. -/
lemma writeClosed_eq (h : c.Ends shutdown σ queued) (hpc : c.pc = .streaming i)
    (hst : σ.streams[i]? = some st) (hstage : c.outbound.stage ≠ .finished) :
    st.writeClosed = false := by
  cases hclosed : st.writeClosed with
  | false => rfl
  | true =>
    have hhalf : σ.halves i = some st.halves := by simp [Inner.halves, hst]
    exact absurd (h.write i st.halves (stream_of_streaming hpc) hhalf hclosed) hstage

/-- The inbound copy is told of the end as before. -/
lemma eof_kept (h : c.Ends shutdown σ queued) (hpasses : σ.Passes l σ')
    (hpc : c.pc = .streaming i) (hfull : Full σ'.routed) (hended : c.inbound.ended = true) :
    ∃ half, σ'.halves i = some half ∧ half.readClosed = true := by
  obtain ⟨j, half, hj, hhalf, hread⟩ := h.eof (hfull.of_prefix hpasses.routed) hended
  obtain rfl : i = j := Option.some_inj.mp ((stream_of_streaming hpc).symm.trans hj)
  obtain ⟨half', hhalf', honward⟩ := hpasses.halves i half hhalf
  exact ⟨half', hhalf', (honward.read (h.calm i half hj hhalf)).1 hread⟩

/-- A step of the outbound copy that does not shut the stream down. -/
lemma outbound {o : Copy UInt8} (h : c.Ends shutdown σ queued) (hpasses : σ.Passes l σ')
    (hphases : σ'.phases = σ.phases) (hpc : c.pc = .streaming i) (hst : σ.streams[i]? = some st)
    (hphase : st.phase = .held) (hl : l ≠ .pollShutdown i)
    (hmoves : CopyLoop.Moves copyBufSize c.outbound o)
    (hstage : o.stage = .finished → c.outbound.stage = .finished) :
    Connection.Ends { c with outbound := o } shutdown σ' queued' := by
  have hnot : c.outbound.stage ≠ .finished := by
    intro hfinished
    have hover := hmoves.not_done
    simp [Copy.isDone, hfinished] at hover
  refine h.copy hpasses hphases hpc hst hphase rfl (fun half' hhalf' hclosed => ?_)
    (fun hfinished => absurd (hstage hfinished) hnot)
    fun hfull hended => h.eof_kept hpasses hpc hfull hended
  have hhalf : σ.halves i = some st.halves := by simp [Inner.halves, hst]
  have hsame := (hpasses.onward hhalf hhalf').write hl
  have hopen : st.halves.writeClosed = false := h.writeClosed_eq hpc hst hnot
  rw [hsame, hopen] at hclosed
  cases hclosed

/-- A step of the inbound copy. -/
lemma inbound {n : Copy UInt8} (h : c.Ends shutdown σ queued) (hpasses : σ.Passes l σ')
    (hphases : σ'.phases = σ.phases) (hpc : c.pc = .streaming i) (hst : σ.streams[i]? = some st)
    (hphase : st.phase = .held) (hl : l ≠ .pollShutdown i)
    (hmore : queued' = queued ++ more)
    (heof : Full σ'.routed → n.ended = true →
      ∃ half, σ'.halves i = some half ∧ half.readClosed = true) :
    Connection.Ends { c with inbound := n } shutdown σ' queued' := by
  refine h.copy hpasses hphases hpc hst hphase rfl (fun half' hhalf' hclosed => ?_)
    (fun hfinished hopen => ?_) heof
  · have hhalf : σ.halves i = some st.halves := by simp [Inner.halves, hst]
    rw [(hpasses.onward hhalf hhalf').write hl] at hclosed
    exact h.write i st.halves (stream_of_streaming hpc) hhalf hclosed
  · obtain ⟨j, hj, hconcluded⟩ := h.concluded hfinished (hpasses.framesOpen hopen)
    obtain rfl : i = j := Option.some_inj.mp ((stream_of_streaming hpc).symm.trans hj)
    rw [hmore]
    exact hconcluded.append more

/-- The outbound copy shuts the stream down: FIN goes behind everything it has given. -/
lemma shutsDown {o : Copy UInt8} (h : c.Ends shutdown σ queued) (hn : σ.Numbered)
    (hsound : c.outbound.Sound copyBufSize)
    (hgiven : c.outbound.given = pushed (idOf i) queued) (hpc : c.pc = .streaming i)
    (hst : σ.streams[i]? = some st) (hphase : st.phase = .held)
    (hready : shutdownReady σ i = true) (hshut : c.outbound.shut = some o)
    (hstep : σ.step (.pollShutdown i) = some σ') :
    Connection.Ends { c with outbound := o } shutdown σ' (queued ++ σ.added σ') := by
  obtain ⟨hstage, rfl⟩ := Copy.shut_cases hshut
  have hpasses := passes_of_step hstep
  have hphases : σ'.phases = σ.phases := (phases_of_step hstep).trans rfl
  refine h.copy hpasses hphases hpc hst hphase rfl (fun _ _ _ => rfl) (fun _ hopen => ?_)
    fun hfull hended => h.eof_kept hpasses hpc hfull hended
  have hclosed : st.writeClosed = false :=
    h.writeClosed_eq hpc hst (by simp [hstage])
  have hframes : σ.framesOpen = true := hpasses.framesOpen hopen
  have hroom : σ.framesRoom = true := by
    simpa [shutdownReady, hst, hclosed, hframes] using hready
  have hadded : σ.added σ' = [⟨cmdFin, idOf i, []⟩] := by
    rw [← hn.stream i st hst]
    simp only [Inner.step, pollShutdown, hst, hphase, ne_eq, not_true_eq_false, if_false, hclosed,
      Bool.false_eq_true, hframes, Bool.not_true, hroom, if_true, Option.some.injEq] at hstep
    subst hstep
    exact added_of_append rfl
  refine ⟨queued, [], by rw [hadded], ?_⟩
  rw [← hgiven]
  exact hsound.given_eq (.inl hstage)

/-- A read that returns nothing has found the end of the stream. -/
lemma eof_of_read {l : Label} (hfilled : Full σ.routed → σ.Filled) (hpasses : σ.Passes l σ')
    (hstep : σ.step l = some σ') (hinto : l.readsInto i = true)
    (hreturn : readReturn σ l = some []) (hfull : Full σ'.routed) :
    ∃ half, σ'.halves i = some half ∧ half.readClosed = true := by
  obtain ⟨st', hst', hread⟩ :=
    (hfilled (hfull.of_prefix hpasses.routed)).eofOnly hstep i hinto hreturn
  exact ⟨st'.halves, by simp [Inner.halves, hst'], hread⟩

/-- **A step of the connection.** A FIN goes out only behind what the outbound copy has given, and
an end of file comes in only behind what the stream has delivered. -/
theorem called (h : c.Ends shutdown σ queued) (hn : σ.Numbered)
    (hfilled : Full σ.routed → σ.Filled) (hsound : c.outbound.Sound copyBufSize)
    (hgiven : ∀ i, c.stream? = some i → c.outbound.given = pushed (idOf i) queued)
    (hplaced : ∀ i, c.stream? = some i → i < σ.streams.length) (htakes : c.Takes σ shutdown a)
    (hcall : a.call = some l) (hstep : σ.step l = some σ') :
    a.next.Ends shutdown σ' (queued ++ σ.added σ') := by
  have hpasses := passes_of_step hstep
  cases htakes with
  | refused | ends | outbound | inbound => cases hcall
  | admitted hpc =>
    cases hcall
    exact h.still hplaced (by simp [Connection.stream?, hpc]) rfl rfl (by simp [Label.phase])
      (by simp) (by simp) hstep
  | numbered hpc =>
    cases hcall
    exact h.numbered hpc hstep
  | announces hpc =>
    cases hcall
    split at hstep
    · refine h.still hplaced rfl rfl rfl (fun j p hp => ?_) (by simp) (by simp) hstep
      cases hp
      exact ⟨stream_of_streaming hpc, by simp [StreamPhase.left]⟩
    · refine h.still hplaced rfl rfl rfl (fun j p hp => ?_) (by simp) (by simp) hstep
      cases hp
      exact ⟨stream_of_streaming hpc, by simp [StreamPhase.left]⟩
  | registers hpc | withdraws hpc =>
    cases hcall
    refine h.still hplaced rfl rfl rfl (fun j p hp => ?_) (by simp) (by simp) hstep
    cases hp
    exact ⟨stream_of_streaming hpc, by simp [StreamPhase.left]⟩
  | leaves hpc _ _ _ hover =>
    cases hcall
    refine h.still hplaced rfl rfl rfl (fun j p hp => ?_) (by simp) (by simp) hstep
    cases hp
    exact ⟨stream_of_streaming hpc, fun _ => hover⟩
  | removes hpc hst hphase | releases hpc hst hphase =>
    -- The stream was let go of before.
    cases hcall
    refine h.still hplaced rfl rfl rfl (fun j p hp => ?_) (by simp) (by simp) hstep
    cases hp
    have hi := stream_of_streaming hpc
    exact ⟨hi, fun _ => h.left _ _ hi (phases_getElem? hst) (by rw [hphase]; rfl)⟩
  | writeWaits | readWaits | throttled | readParks =>
    cases hcall
    exact h.still hplaced rfl rfl rfl (by simp [Label.phase]) (by simp) (by simp) hstep
  | @shutdownWaits i st hpc hst hphase _ _ hready =>
    cases hcall
    have hsame : σ' = σ := by
      simp only [shutdownReady, hst, Option.any_some, Bool.or_eq_false_iff,
        Bool.not_eq_false'] at hready
      simp only [Inner.step, pollShutdown, hst, hphase, ne_eq, not_true_eq_false, if_false,
        hready.1.1, hready.1.2, hready.2, Bool.false_eq_true, Bool.not_true,
        Option.some.injEq] at hstep
      exact hstep.symm
    subst hsame
    refine h.keep (.refl σ' (.pollShutdown i)) hplaced rfl rfl rfl h.left
      fun j half half' _ hhalf hhalf' => ?_
    rw [hhalf] at hhalf'
    cases hhalf'
    rfl
  | @writes i n st o hpc hst hphase _ _ hdrain =>
    cases hcall
    refine h.outbound hpasses ((phases_of_step hstep).trans rfl) hpc hst hphase (by simp)
      (moves_of_drain hdrain) ?_
    obtain ⟨-, -, -, rfl⟩ := Copy.drain_cases hdrain
    exact id
  | @writeFails i message st o hpc hst hphase _ _ hfail =>
    cases hcall
    refine h.outbound hpasses ((phases_of_step hstep).trans rfl) hpc hst hphase (by simp)
      (moves_of_fail hfail) ?_
    obtain ⟨-, rfl⟩ := Copy.fail_cases hfail
    intro hfinished
    cases hfinished
  | @shutsDown i st o hpc hst hphase _ hready hshut =>
    cases hcall
    exact h.shutsDown hn hsound (hgiven i (stream_of_streaming hpc)) hpc hst hphase hready hshut
      hstep
  | @reads i chunk st n hpc hst hphase _ hresult hreceive =>
    cases hcall
    obtain ⟨hmoves, -, hended⟩ := Copy.receive_cases hreceive
    refine h.inbound hpasses ((phases_of_step hstep).trans rfl) hpc hst hphase (by simp) rfl
      fun hfull hend => ?_
    have hroom : 0 < c.inbound.room copyBufSize :=
      (Copy.reads_iff.mp (Copy.reads_of_receive hreceive)).2.2
    refine eof_of_read hfilled hpasses hstep (by simp [Label.readsInto, hroom]) ?_ hfull
    rw [readReturn_of_ready hresult, hended.mp hend]
  | @readEnds i st n hpc hst hphase hclosed hend =>
    cases hcall
    refine h.inbound hpasses ((phases_of_step hstep).trans rfl) hpc hst hphase (by simp) rfl
      fun hfull _ => ?_
    exact eof_of_read hfilled hpasses hstep (by simp [Label.readsInto])
      (by simp [readReturn, hclosed]) hfull

/-- A step of the connection that leaves the streams alone. -/
theorem moved (h : c.Ends shutdown σ queued)
    (hplaced : ∀ i, c.stream? = some i → i < σ.streams.length) (htakes : c.Takes σ shutdown a)
    (hcall : a.call = none) : a.next.Ends shutdown σ queued := by
  have hpasses : σ.Passes .dieEnabled σ := .refl σ _
  have hquiet : ∀ c' : Connection, c'.stream? = c.stream? → c'.outbound = c.outbound →
      c'.inbound = c.inbound → c'.Ends shutdown σ queued := by
    intro c' hstream houtbound hinbound
    rw [← List.append_nil queued]
    refine h.keep hpasses hplaced hstream houtbound hinbound h.left
      fun j half half' _ hhalf hhalf' => ?_
    rw [hhalf] at hhalf'
    cases hhalf'
    rfl
  cases htakes with
  | refused hpc => exact hquiet _ (by simp [Connection.stream?, hpc]) rfl rfl
  | ends hpc => exact hquiet _ (by simp [Connection.stream?, hpc]) rfl rfl
  | outbound hpc hst hphase _ hmoves _ hstage =>
    exact h.outbound hpasses rfl hpc hst hphase (by simp) hmoves hstage
  | inbound hpc hst hphase _ _ _ hended =>
    refine h.inbound hpasses rfl hpc hst hphase (by simp) (List.append_nil queued).symm
      fun hfull hend => ?_
    exact h.eof_kept hpasses hpc hfull (hended ▸ hend)
  | _ => cases hcall

end Connection.Ends

/-! ## Runs -/

/-- Every connection comes to its ends. -/
def PortForwarder.Ends (f : PortForwarder) : Prop :=
  ∀ c ∈ f.connections, c.Ends f.shutdown f.mux.inner f.queued

lemma forall_mem_set {P : Connection → Prop} {cs : List Connection} {k : ℕ} {c' : Connection}
    (hself : P c') (hothers : ∀ k' d, k' ≠ k → cs[k']? = some d → P d) :
    ∀ d ∈ cs.set k c', P d := by
  intro d hd
  obtain ⟨k', hk'⟩ := List.mem_iff_getElem?.mp hd
  rcases getElem?_of_set hk' with ⟨-, rfl⟩ | ⟨hne, hd⟩
  · exact hself
  · exact hothers k' d hne hd

/-- A connection shuts down its own stream. -/
lemma stream_of_pollShutdown (htakes : c.Takes σ shutdown a)
    (hcall : a.call = some (.pollShutdown i)) : c.stream? = some i := by
  cases htakes with
  | shutdownWaits hpc | shutsDown hpc =>
    cases hcall
    exact stream_of_streaming hpc
  | announces =>
    dsimp only at hcall
    split at hcall <;> cases hcall
  | _ => cases hcall

end

namespace PortForwarder.Ends

variable {f f' : PortForwarder}

lemma background {l : MuxLabel} (h : f.Ends) (howns : f.Owns) (hl : f.background l = true)
    (hact : f.act l = some f') : f'.Ends := by
  obtain ⟨m, hm, -, heffect⟩ := background_cases hl hact
  have hf' : f' = { f with
      mux := m
      queued := f.queued ++ f.mux.inner.added m.inner
      handed := f.handed ++ if l = .send then m.commands.drop f.mux.commands.length else [] } := by
    simp only [PortForwarder.act, hm, Option.map_some, Option.some.injEq] at hact
    exact hact.symm
  subst hf'
  intro c hc
  have hplaced : ∀ i, c.stream? = some i → i < f.mux.inner.streams.length :=
    fun i hi => Owned.stream_lt howns hc hi
  rcases heffect with hsame | ⟨l', hl', hstep⟩
  · show c.Ends f.shutdown m.inner _
    rw [hsame]
    exact (h c hc).other (.refl _ .dieEnabled) hplaced (fun _ _ => rfl) (by simp)
  · refine (h c hc).other (passes_of_step hstep) hplaced
      (fun i _ => by rw [(phases_of_byCaller hl' hstep).1]) fun i _ => ?_
    rintro rfl
    cases hl'

/-- A step of another connection. -/
lemma of_other {c d : Connection} {l : Label} {σ' : Inner} {a : Act} {more : List Frame}
    (h : d.Ends f.shutdown f.mux.inner f.queued)
    (hplaced : ∀ i, d.stream? = some i → i < f.mux.inner.streams.length)
    (hdi : ∀ i, d.stream? = some i → c.stream? ≠ some i)
    (htakes : c.Takes f.mux.inner f.shutdown a) (hcall : a.call = some l)
    (hstep : f.mux.inner.step l = some σ') : d.Ends f.shutdown σ' (f.queued ++ more) := by
  refine h.other (passes_of_step hstep) hplaced (fun i hi => ?_) fun i hi hl => ?_
  · have hlt : i < f.mux.inner.phases.length := by simpa [Inner.phases] using hplaced i hi
    exact (advances_of_called htakes hcall hstep).getElem?_eq (hdi i hi) hlt
  · rw [hl] at hcall
    exact hdi i hi (stream_of_pollShutdown htakes hcall)

theorem step {l : ForwardLabel} (h : f.Ends) (hcarries : f.Carries)
    (hids : f'.mux.inner.streams.length ≤ idCount) (hstep : f.step l = some f') : f'.Ends := by
  have hplaced : ∀ c ∈ f.connections, ∀ i, c.stream? = some i → i < f.mux.inner.streams.length :=
    fun c hc i hi => Owned.stream_lt hcarries.owns hc hi
  have hapart : ∀ {k k' : ℕ} {c d : Connection}, f.connections[k]? = some c →
      f.connections[k']? = some d → k' ≠ k → ∀ i, d.stream? = some i → c.stream? ≠ some i :=
    fun hc hd hk i hi hci => hk (hcarries.owns.apart _ _ _ _ i hd hc hi hci)
  cases moves_of_step hstep with
  | main hshutdown => exact fun c hc => (h c hc).request hshutdown
  | accepted =>
    intro c hc
    rcases List.mem_append.mp hc with hc | hc
    · exact h c hc
    · rw [List.mem_singleton.mp hc]
      exact .new
  | background hl hact => exact h.background hcarries.owns hl hact
  | @called k c a l f₁ hc htakes hcall hact =>
    obtain ⟨σ', hcaller, hinner, rfl⟩ := called_cases hact
    have hmem := List.mem_of_getElem? hc
    have hlength : f.mux.inner.streams.length ≤ σ'.streams.length :=
      (moved_of_step hinner).length_le
    have hoffered := hcarries.offered (hlength.trans hids)
    have hgiven : ∀ i, c.stream? = some i → c.outbound.given = pushed (idOf i) f.queued := by
      intro i hi
      rw [hoffered.given c hmem, hi]
      rfl
    refine forall_mem_set ?_ fun k' d hk hd => ?_
    · exact (h c hmem).called (Inner.Numbered.of_reachable hcarries.inner)
        (filled_of_full hcarries.inner) (hoffered.sound c hmem).1 hgiven (hplaced c hmem) htakes
        hcall hinner
    · have hd' := List.mem_of_getElem? hd
      exact of_other (h d hd') (hplaced d hd') (hapart hc hd hk) htakes hcall hinner
  | @moved k c a hc htakes hcall =>
    have hmem := List.mem_of_getElem? hc
    exact forall_mem_set ((h c hmem).moved (hplaced c hmem) htakes hcall)
      fun k' d _ hd => h d (List.mem_of_getElem? hd)

end PortForwarder.Ends

/-- Ids are drawn one by one. -/
lemma PortForwarder.length_le_of_step {f f' : PortForwarder} {l : ForwardLabel}
    (hstep : f.step l = some f') : f.mux.inner.streams.length ≤ f'.mux.inner.streams.length := by
  cases moves_of_step hstep with
  | main | accepted | moved => exact le_rfl
  | background hl hact =>
    obtain ⟨m, -, hf', heffect⟩ := background_cases hl hact
    rw [hf']
    rcases heffect with hsame | ⟨l', -, hinner⟩
    · exact hsame ▸ le_rfl
    · exact (moved_of_step hinner).length_le
  | called hc htakes hcall hact =>
    obtain ⟨σ', -, hinner, rfl⟩ := called_cases hact
    exact (moved_of_step hinner).length_le

lemma ends_of_reachable {config : PortForwardConfig} {type : SessionType} {timeout capacity : ℕ}
    {f : PortForwarder}
    (h : Reachable PortForwarder.step free (.new config type timeout capacity) f)
    (hids : f.mux.inner.streams.length ≤ idCount) : f.Ends := by
  induction h with
  | refl => exact nofun
  | tail hr hstep _ ih =>
    have hlength := PortForwarder.length_le_of_step hstep
    exact (ih (hlength.trans hids)).step (.of_reachable hr) hids hstep

/-- **Half-closes go through, and nothing is cut off.** Without a request to shut down, a connection
lets go of its stream only when both directions are over.  A client that has closed its direction is
announced to the agent by a FIN behind all it sent, as long as frames are sent at all; and the
client is told of the end of the other direction when its stream is at its end, if no PSH frame was
empty. -/
theorem half_closes_go_through {config : PortForwardConfig} {type : SessionType}
    {timeout capacity k i : ℕ} {f : PortForwarder} {c : Connection} {st : SmuxStream}
    (h : Reachable PortForwarder.step free (.new config type timeout capacity) f)
    (hids : f.mux.inner.streams.length ≤ idCount) (hc : f.connections[k]? = some c)
    (hi : c.stream? = some i) (hst : f.mux.inner.streams[i]? = some st) :
    (f.shutdown = false → st.phase.left = true → c.outbound.isDone = true ∧ c.inbound.isDone = true) ∧
    (c.outbound.stage = .finished → f.mux.inner.framesOpen = true →
      Concluded (idOf i) c.outbound.taken f.queued) ∧
    (Full f.mux.inner.routed → c.inbound.ended = true → st.readClosed = true) := by
  have hends := ends_of_reachable h hids c (List.mem_of_getElem? hc)
  refine ⟨fun hrunning hleft => ?_, fun hstage hopen => ?_, fun hfull hended => ?_⟩
  · rcases hends.left i st.phase hi (phases_getElem? hst) hleft with hshutdown | hover
    · rw [hrunning] at hshutdown
      cases hshutdown
    · exact hover
  · obtain ⟨j, hj, hconcluded⟩ := hends.concluded hstage hopen
    obtain rfl : i = j := Option.some_inj.mp (hi.symm.trans hj)
    exact hconcluded
  · obtain ⟨j, half, hj, hhalf, hread⟩ := hends.eof hfull hended
    obtain rfl : i = j := Option.some_inj.mp (hi.symm.trans hj)
    rw [Inner.halves, hst] at hhalf
    cases hhalf
    exact hread

/-- The client sends a byte and closes its direction; the agent closes the other one. -/
theorem half_closes_go_through_both :
    ∃ (f : PortForwarder) (c : Connection) (st : SmuxStream), f.connections = [c] ∧
      f.mux.inner.streams = [st] ∧ st.phase.left = true ∧
      (c.outbound.isDone = true ∧ c.inbound.isDone = true) ∧
      Concluded (idOf 0) c.outbound.taken f.queued ∧ st.readClosed = true := by
  let ls : List ForwardLabel := List.flatten
    [[.setSendable true, .forward, .forward, .forward, .accept],
      List.replicate 4 (.connection 0 .advance),
      [.connection 0 (.receive [1]), .connection 0 .write, .connection 0 .clientEnds,
        .connection 0 .windOutbound, .connection 0 .shutdownStream, .mux .recv,
        .mux (.emit (control cmdFin 1))], List.replicate 4 (.mux .recv),
      [.connection 0 .read, .connection 0 .windInbound, .connection 0 .shutdownClient,
        .connection 0 .leave]]
  have hrun : (run PortForwarder.step (.new ⟨1, false⟩ .port 30 64) ls).any (fun f =>
      decide (f.connections.map (fun c => (c.stream?, c.outbound.stage, c.inbound.ended)) =
        [(some 0, .finished, true)]) &&
      decide (f.mux.inner.streams.map SmuxStream.phase = [.dropping]) &&
      decide (f.shutdown = false ∧ f.mux.inner.framesOpen = true ∧
        f.mux.inner.routed = [⟨cmdFin, 1, []⟩])) = true := by decide +kernel
  obtain ⟨f, hf, hp⟩ := exists_of_run hrun
  simp only [Bool.and_eq_true, decide_eq_true_eq] at hp
  obtain ⟨⟨hconnections, hphases⟩, hrunning, hopen, hrouted⟩ := hp
  obtain ⟨c, hcs, hc⟩ := List.map_eq_singleton_iff.mp hconnections
  obtain ⟨st, hstreams, hphase⟩ := List.map_eq_singleton_iff.mp hphases
  simp only [Prod.mk.injEq] at hc
  obtain ⟨hi, hstage, hended⟩ := hc
  have hids : f.mux.inner.streams.length ≤ idCount := by
    rw [hstreams]
    exact show 1 ≤ idCount by decide
  have hleft : st.phase.left = true := by rw [hphase]; rfl
  have hfull : Full f.mux.inner.routed := by
    rw [hrouted]
    intro frame hframe hcmd
    rw [List.mem_singleton.mp hframe] at hcmd
    cases hcmd
  obtain ⟨hover, hconcluded, heof⟩ := half_closes_go_through (k := 0) hf hids (by rw [hcs]; rfl) hi
    (by rw [hstreams]; rfl)
  exact ⟨f, c, st, hcs, hstreams, hleft, hover hrunning hleft, hconcluded hstage hopen,
    heof hfull hended⟩

end Forward
end SsmBridge.Smux
