import SsmBridge.Properties.OutputFlow

/-!
# Clean means complete

A stream whose reads have ended and whose close reason is clean should have returned everything that
was sent to it.  A clean close is the default, though: dropping the `SmuxSession` is one, so is
whatever ends `send_task`, and `recv_task` closes cleanly whenever the output ends without a lag,
whatever ended the session.  A close reason that was not written yet reads as clean as well, and a
read can be ended by the close flag with frames still queued.

`Mux.Regular` is the condition under which none of this happens.  The routed frames are then those
of the session's output (`Mux.Flow`), and the lanes of the multiplexer are sound (`Lane.Sound`), with
`recv_task` out of its loop for `stopped` and `Mux.Good` for `good`.
-/

namespace SsmBridge.Smux

open Machine StreamDecoder

/-! ## The condition -/

/-- The reasons of a normal end. -/
def isNormal : CloseReason → Bool
  | .terminated | .agentClosed _ _ => true
  | _ => false

def Mux.endedNormally (σ : Mux) : Bool := σ.sessionReason.any isNormal

/-- The runs in which nothing is lost before an end of file that reads as clean. -/
structure Mux.Regular (σ : Mux) (l : MuxLabel) : Prop where
  /-- There are ids left. -/
  ids : σ.inner.streams.length < idCount
  /-- The session emits no output before `recv_task` has subscribed. -/
  emit : ∀ chunk, l = .emit chunk → σ.output.isSome = true
  /-- A stream is registered on an open multiplexer and before a frame with its id was routed. -/
  register : ∀ i st, l = .caller (.openRegister i) → σ.inner.streams[i]? = some st →
    σ.inner.closed = false ∧ σ.inner.routedTo st.id = []
  /-- The multiplexer is closed as clean only when no stream is in the map, or when `recv_task` has
  come to the end of the output of a session that ended normally. -/
  clean : σ.closesClean l = true → σ.inner.closed = false →
    σ.inner.streams.all (fun st => !st.listed) = true ∨
      σ.recv = .leaving .clean ∧ σ.endedNormally = true
  /-- The close flag ends the reads of a stream only when its queue is empty and its reason is
  written, or is going to be clean. -/
  read : ∀ i st, l = .caller (.pollClosed i) → σ.inner.streams[i]? = some st →
    σ.inner.closed = true →
    st.queue = [] ∧ (st.tag ≠ none ∨ σ.inner.closing.reason = some .clean)

/-! ## The lanes -/

variable {m m' : Mux} {l : MuxLabel} {seen : List Frame}

/-- `recv_task` has come to the end of the output of a session that ended normally. -/
structure Mux.Good (σ : Mux) : Prop where
  stopped : σ.recv.stopped = true
  drained : σ.Drained
  normal : σ.endedNormally = true

namespace Mux.Good

/-- The first reason stays. -/
lemma of_input (h : m.Good) (hinput : m.SameInput m') : m'.Good := by
  have hreason : m'.sessionReason = m.sessionReason :=
    hinput.sessionReason (Option.isSome_of_any h.normal)
  refine ⟨?_, ⟨?_, ?_⟩, ?_⟩
  · rw [hinput.recv]
    exact h.stopped
  · rw [hinput.consumed, hinput.emitted]
    exact h.drained.consumed
  · rw [hinput.fanoutClosed]
    exact h.drained.fanoutClosed
  · rw [Mux.endedNormally, hreason]
    exact h.normal

lemma step (h : m.Good) (hstep : m.step l = some m') : m'.Good := by
  cases hl : l.isAside with
  | true =>
    cases aside_of_step hl hstep with
    | same hinner hinput => exact h.of_input hinput
    | acts l' hinner hissues hinput => exact h.of_input hinput
  | false =>
    cases l with
    | recv =>
      rw [recvStep_of_stopped hstep h.stopped]
      exact ⟨rfl, ⟨h.drained.consumed, h.drained.fanoutClosed⟩, h.normal⟩
    | emit chunk =>
      -- Nothing is emitted once the fan-out is closed.
      simp only [Mux.step, emit, if_pos h.drained.fanoutClosed] at hstep
      cases hstep
    | fanoutClose =>
      simp only [Mux.step, fanoutClose] at hstep
      split at hstep <;> cases hstep
      exact ⟨h.stopped, ⟨h.drained.consumed, rfl⟩, h.normal⟩
    | caller | dropSession | closeStep | closeSweep | send | keepalive | sessionClose | command
    | commandTaken => cases hl

end Mux.Good

/-- The invariant of the multiplexer and its tasks. -/
structure Mux.Complete (σ : Mux) : Prop where
  flow : σ.Flow
  numbered : σ.inner.Numbered
  ids : σ.inner.streams.length ≤ idCount
  lane : ∀ i, i < idCount → (σ.inner.lane i).Sound i (σ.recv.stopped = true) σ.Good

namespace Mux.Complete

variable {i : ℕ} {l' : Label}

/-- A clean close of a regular run. -/
lemma allowed_clean (h : m.Complete) (hregular : m.Regular l) (hclean : m.closesClean l = true) :
    (m.inner.lane i).Allowed (m.recv.stopped = true) m.Good (.close .clean) := by
  intro hopen
  have hopen : m.inner.closed = false := hopen
  rcases hregular.clean hclean hopen with hnone | ⟨hrecv, hnormal⟩
  · refine .inl ?_
    rw [List.all_eq_true] at hnone
    cases hst : m.inner.streams[i]? with
    | none => simp [Lane.listed, Inner.lane, hst]
    | some st =>
      have hl := hnone st (List.mem_of_getElem? hst)
      simpa [Lane.listed, Inner.lane, hst] using hl
  · refine .inr ?_
    rcases h.flow.leaving hrecv with hclosed | hdrained
    · exact absurd (hopen.symm.trans hclosed) (by simp)
    · exact ⟨by rw [hrecv]; rfl, hdrained, hnormal⟩

/-- The callers of a regular run. -/
lemma allowed_caller (h : m.Complete) (hregular : m.Regular (.caller l'))
    (hcaller : l'.byCaller = true) (hstep : m.inner.step l' = some m'.inner)
    (hconcerns : l'.concerns i = true) :
    (m.inner.lane i).Allowed (m.recv.stopped = true) m.Good l' := by
  cases l' with
  | openRegister j =>
    obtain rfl : j = i := by simpa [Label.concerns] using hconcerns
    cases hst : m.inner.streams[j]? with
    | none => simp [Inner.step, openRegister, hst] at hstep
    | some st =>
      obtain ⟨hopen, hrouted⟩ := hregular.register j st rfl hst
      rw [h.numbered.stream j st hst] at hrouted
      exact ⟨hopen, hrouted⟩
  | pollClosed j =>
    obtain rfl : j = i := by simpa [Label.concerns] using hconcerns
    intro hclosed st hst
    obtain ⟨st', hst', rfl⟩ := Option.map_eq_some_iff.mp hst
    exact hregular.read j st' rfl hst' hclosed
  | routePush | routeStep | routeFin | close | closeStep | closeSweep | frameTaken | framesDropped
  | keepAlive | dieEnabled => cases hcaller
  | openAdmit | openNumber | openReturn | openRefuse | openWithdraw | pollRead | pollThrottled
  | pollWrite | pollShutdown | dropStream | dropRemove | dropRelease => exact trivial

/-- What a regular step does to a lane is allowed. -/
lemma allowed (h : m.Complete) (hregular : m.Regular l) (htakes : m.Takes l l')
    (hstep : m.inner.step l' = some m'.inner) (hconcerns : l'.concerns i = true) :
    (m.inner.lane i).Allowed (m.recv.stopped = true) m.Good l' := by
  cases htakes with
  | issued hissues =>
    cases hissues with
    | caller hl hcaller =>
      subst hl
      exact h.allowed_caller hregular hcaller hstep hconcerns
    | clean hclean => exact h.allowed_clean hregular hclean
    | closeStep | closeSweep | frameTaken | framesDropped | keepAlive | dieEnabled => exact trivial
  | routes hl hrun =>
    cases l' with
    | routePush | routeStep | routeFin => simp [Lane.Allowed, hrun]
    | openAdmit | openNumber | openRegister | openReturn | openRefuse | openWithdraw | close
    | closeStep | closeSweep | pollRead | pollThrottled | pollClosed | pollWrite | pollShutdown
    | dropStream | dropRemove | dropRelease | frameTaken | framesDropped | keepAlive
    | dieEnabled => cases hl
  | @closes reason hl hrecv =>
    subst hl
    cases reason with
    | clean => exact h.allowed_clean hregular (by simp [Mux.closesClean, hrecv])
    | slowConsumer | desynchronised =>
      show m.recv.stopped = true
      rw [hrecv]
      rfl

/-- The lanes after a step, seen from before it. -/
lemma lane_of_step (h : m.Complete) (hregular : m.Regular l) (hstep : m.step l = some m')
    (hi : i < idCount) : (m'.inner.lane i).Sound i (m.recv.stopped = true) m.Good := by
  rcases effect_of_step hstep with hinner | ⟨l', hinner, htakes⟩
  · rw [hinner]
    exact h.lane i hi
  · have hmoves := lane_step h.numbered h.ids hi hinner
    unfold MovesLane at hmoves
    split at hmoves
    · next hconcerns =>
      exact (h.lane i hi).step (h.allowed hregular htakes hinner hconcerns) hmoves
    · rw [hmoves]
      exact h.lane i hi

lemma new (config : SmuxConfig) (capacity : ℕ) : (Mux.new config capacity).Complete where
  flow := .new config capacity
  numbered := .new
  ids := by simp [Mux.new, Inner.new]
  lane i _ := by
    refine Lane.Sound.new.mono (fun h => h.elim) (fun h => h.elim) (fun h => h.stopped) fun h => ?_
    cases h

theorem step (h : m.Complete) (hregular : m.Regular l) (hstep : m.step l = some m') :
    m'.Complete := by
  have hflow := h.flow.step hregular.emit hstep
  refine ⟨hflow, ?_, ?_, fun i hi => ?_⟩
  · rcases effect_of_step hstep with hinner | ⟨l', hinner, -⟩
    · rw [hinner]
      exact h.numbered
    · exact h.numbered.moved (moved_of_step hinner)
  · rcases effect_of_step hstep with hinner | ⟨l', hinner, -⟩
    · rw [hinner]
      exact h.ids
    · exact (moved_of_step hinner).le_length.trans hregular.ids
  · refine (h.lane_of_step hregular hstep hi).mono (stopped_of_step hstep) (fun hg => hg.step hstep)
      (fun hg => hg.stopped) fun hstopped => ?_
    -- `recv_task` routes nothing once it is out of its loop.
    have hidle : m'.inner.router = .idle := by
      refine hflow.idle fun id hid => ?_
      rw [hid] at hstopped
      cases hstopped
    simp [Inner.lane, hidle]

end Mux.Complete

/-! ## Clean means complete -/

/-- The stream has returned what the session's output holds for it up to a FIN; or there is no FIN,
it has returned all of it, and the session has ended normally. -/
def Mux.ReturnedAll (σ : Mux) (st : SmuxStream) : Prop :=
  (∃ before fin after, σ.frames = before ++ fin :: after ∧ fin.isFin st.id = true ∧
    st.returned = pushed st.id before) ∨
  (σ.frames.any (Frame.isFin st.id) = false ∧ st.returned = pushed st.id σ.frames ∧
    σ.endedNormally = true)

/-- What `dispatch` has decoded is in the output. -/
lemma Mux.Decoded.isPrefix (h : m.Decoded seen) (hflow : m.Flow) : seen <+: m.frames := by
  obtain ⟨more, hmore⟩ : ∃ more, m.emitted = m.consumed ++ more := by
    cases ho : m.output with
    | none =>
      obtain ⟨hemitted, hconsumed⟩ := hflow.unsubscribed ho
      exact ⟨[], by rw [hemitted, hconsumed]; rfl⟩
    | some o =>
      obtain ⟨lost, hlost⟩ := hflow.received o ho
      exact ⟨o.queue ++ lost, by rw [hlost.emitted, List.append_assoc]⟩
  rw [Mux.frames, hmore, List.flatten_append]
  exact h.upTo more.flatten

/-- A list with a FIN, cut at the first. -/
lemma cut_at_fin {id : UInt32} (h : seen.any (Frame.isFin id) = true) :
    ∃ fin after, seen.takeWhile (fun f => !f.isFin id) ++ fin :: after = seen ∧
      fin.isFin id = true := by
  have hne : seen.dropWhile (fun f => !f.isFin id) ≠ [] := by
    rw [Ne, List.dropWhile_eq_nil_iff]
    obtain ⟨f, hf, hfin⟩ := List.any_eq_true.mp h
    intro hall
    simpa [hfin] using hall f hf
  obtain ⟨fin, after, hdrop⟩ := List.exists_cons_of_ne_nil hne
  have hfin := List.head_dropWhile_not (fun f : Frame => !f.isFin id) hne
  refine ⟨fin, after, ?_, ?_⟩
  · rw [← hdrop, List.takeWhile_append_dropWhile]
  · simpa [hdrop] using hfin

/-- **Clean means complete.** In a regular run, a stream that has signalled an end of file with a
clean reason has returned everything. -/
theorem clean_is_complete {config : SmuxConfig} {capacity i : ℕ} {σ : Mux} {st : SmuxStream}
    (h : Reachable Mux.step (fun σ l _ => σ.Regular l) (.new config capacity) σ)
    (hst : σ.inner.streams[i]? = some st) (hheld : st.phase = .held)
    (hreason : st.closeReason = some .clean) : σ.ReturnedAll st := by
  have hcomplete : σ.Complete :=
    h.invariant (.new config capacity) (fun _ _ _ hs hstep hregular => hs.step hregular hstep)
  obtain ⟨hlt, -⟩ := List.getElem?_eq_some_iff.mp hst
  have hsound := hcomplete.lane i (hlt.trans_le hcomplete.ids)
  have hstream := Inner.lane_stream hst
  have hsince := (hsound.stream _ hstream).since
  have hpresent : st.readHalf.present = true := by simp [SmuxStream.present, hheld]
  obtain ⟨seen, hseen⟩ := hcomplete.flow.decoded
  have hrouted : (σ.inner.lane i).routed = routedOf st.id seen := by
    show σ.inner.routedTo (idOf i) = _
    rw [Inner.routedTo, hseen.routed, ← hcomplete.numbered.stream i st hst]
    rfl
  have hend := hsound.clean_end hstream hpresent hreason
  rw [hrouted, finished_of_since hsince, any_routedOf, beforeFin_routedOf,
    addressed_routedOf hsince, addressed_routedOf hsince] at hend
  rcases hend with ⟨hfin, hreturned⟩ | ⟨hfin, hgood, hreturned⟩
  · obtain ⟨fin, after, hcut, hisFin⟩ := cut_at_fin hfin
    obtain ⟨more, hmore⟩ := hseen.isPrefix hcomplete.flow
    refine .inl ⟨_, fin, after ++ more, ?_, hisFin, hreturned⟩
    rw [← hmore, ← List.cons_append, ← List.append_assoc, hcut]
  · have hwhole : σ.frames = seen := by
      rw [Mux.frames, ← hgood.drained.consumed]
      exact hseen.whole hgood.stopped
    refine .inr ⟨?_, ?_, hgood.normal⟩
    · rw [hwhole]
      exact hfin
    · rw [hwhole]
      exact hreturned

/-- The condition, as a test. -/
def Mux.isRegular (σ : Mux) (l : MuxLabel) : Bool :=
  decide (σ.inner.streams.length < idCount) &&
  (match l with
    | .emit _ => σ.output.isSome
    | _ => true) &&
  σ.inner.streams.zipIdx.all (fun (st, i) =>
    (l != .caller (.openRegister i) || !σ.inner.closed && (σ.inner.routedTo st.id).isEmpty) &&
    (l != .caller (.pollClosed i) || !σ.inner.closed ||
      st.queue.isEmpty && (st.tag.isSome || σ.inner.closing.reason == some .clean))) &&
  (!σ.closesClean l || σ.inner.closed || σ.inner.streams.all (fun st => !st.listed) ||
    σ.recv == .leaving .clean && σ.endedNormally)

lemma regular_of_isRegular {σ : Mux} (h : σ.isRegular l = true) : σ.Regular l := by
  simp only [Mux.isRegular, Bool.and_eq_true, decide_eq_true_eq] at h
  obtain ⟨⟨⟨hids, hemit⟩, hstreams⟩, hclean⟩ := h
  rw [List.all_eq_true] at hstreams
  refine ⟨hids, ?_, ?_, ?_, ?_⟩
  · rintro chunk rfl
    exact hemit
  · rintro i st rfl hst
    have hi := hstreams (st, i) (List.mk_mem_zipIdx_iff_getElem?.mpr hst)
    simpa using hi
  · intro hl hopen
    simpa [hl, hopen] using hclean
  · rintro i st rfl hst hclosed
    have hi := hstreams (st, i) (List.mk_mem_zipIdx_iff_getElem?.mpr hst)
    simpa [hclosed, Option.isSome_iff_ne_none] using hi

/-- A stream that was closed by FIN, and one that ended with the session. -/
theorem clean_is_complete_both :
    ∃ (σ : Mux) (st st' : SmuxStream),
      Reachable Mux.step (fun σ l _ => σ.Regular l) (.new ⟨false⟩ 8192) σ ∧
      (σ.inner.streams = [st, st'] ∧ st.closeReason = some .clean ∧
        st'.closeReason = some .clean ∧ st.returned = [104, 105] ∧ st'.returned = [33]) ∧
      σ.ReturnedAll st ∧ σ.ReturnedAll st' := by
  let opened (i : ℕ) : List MuxLabel :=
    [.caller .openAdmit, .caller .openNumber, .caller (.openRegister i), .caller (.openReturn i)]
  let fin : Bytes := control cmdFin 1
  let ls : List MuxLabel := List.flatten
    [[.recv], opened 0, opened 1,
      [.emit (encode cmdPsh 1 [104, 105] ++ fin.take 3),
        .emit (fin.drop 3 ++ encode cmdPsh 3 [33])],
      List.replicate 11 .recv, [.sessionClose .terminated, .fanoutClose], List.replicate 3 .recv,
      [.closeStep, .closeStep, .closeSweep 1, .closeStep, .caller (.pollRead 0 8),
        .caller (.pollRead 0 8), .caller (.pollRead 1 8), .caller (.pollRead 1 8)]]
  let summary (st : SmuxStream) := (st.phase, st.closeReason, st.returned)
  have hrun : (runIf Mux.step (fun σ l _ => σ.isRegular l) (.new ⟨false⟩ 8192) ls).any (fun σ =>
      decide (σ.inner.streams.map summary =
        [(.held, some .clean, [104, 105]), (.held, some .clean, [33])])) = true := by decide +kernel
  obtain ⟨σ, hσ, hp⟩ := exists_of_runIf (fun _ _ _ ht => regular_of_isRegular ht) hrun
  obtain ⟨st, rest, hstreams, hst, hrest⟩ := List.map_eq_cons_iff.mp (of_decide_eq_true hp)
  obtain ⟨st', hrest, hst'⟩ := List.map_eq_singleton_iff.mp hrest
  simp only [summary, Prod.mk.injEq] at hst hst'
  obtain ⟨hheld, hclean, hreturned⟩ := hst
  obtain ⟨hheld', hclean', hreturned'⟩ := hst'
  rw [hrest] at hstreams
  refine ⟨σ, st, st', hσ, ⟨hstreams, hclean, hclean', hreturned, hreturned'⟩, ?_, ?_⟩
  · exact clean_is_complete (i := 0) hσ (by rw [hstreams]; rfl) hheld hclean
  · exact clean_is_complete (i := 1) hσ (by rw [hstreams]; rfl) hheld' hclean'

/-- The transport is lost.  `send_task` sees the session closed and closes the multiplexer before
`recv_task` has taken a chunk off its queue: the stream reports a clean end of file, without the
byte that was sent to it. -/
theorem clean_after_transport_loss :
    ¬ ∀ (config : SmuxConfig) (capacity i : ℕ) (σ : Mux) (st : SmuxStream),
      Reachable Mux.step free (.new config capacity) σ → σ.inner.streams[i]? = some st →
      st.phase = .held → st.closeReason = some .clean → σ.ReturnedAll st := by
  intro h
  let chunk : Bytes := encode cmdPsh 1 [33]
  have hrun : (run Mux.step (.new ⟨false⟩ 8192)
      [.recv, .caller .openAdmit, .caller .openNumber, .caller (.openRegister 0),
        .caller (.openReturn 0), .emit chunk, .sessionClose (.transport "connection reset"),
        .send, .send, .send, .send, .send, .closeStep, .closeStep, .closeSweep 0, .closeStep,
        .caller (.pollRead 0 8)]).any (fun σ =>
      decide (σ.inner.streams.map (fun st => (st.phase, st.closeReason)) = [(.held, some .clean)]) &&
      decide (σ.endedNormally = false ∧ σ.emitted = [chunk])) = true := by decide +kernel
  obtain ⟨σ, hσ, hp⟩ := exists_of_run hrun
  simp only [Bool.and_eq_true, decide_eq_true_eq] at hp
  obtain ⟨hstream, hending, hemitted⟩ := hp
  obtain ⟨st, hstreams, hst⟩ := List.map_eq_singleton_iff.mp hstream
  obtain ⟨hheld, hclean⟩ := Prod.mk.injEq _ _ _ _ ▸ hst
  have hframes : σ.frames = [⟨cmdPsh, 1, [33]⟩] := by
    rw [Mux.frames, hemitted, List.flatten_singleton]
    have hitem : decoder.decode chunk = .item ⟨cmdPsh, 1, [33]⟩ [] := by decide +kernel
    rw [items_item hitem, items_incomplete rfl]
  rcases h ⟨false⟩ 8192 0 σ st hσ (by rw [hstreams]; rfl) hheld hclean with
    ⟨before, fin, after, hcut, hfin, -⟩ | ⟨-, -, hnormal⟩
  · -- The only frame is not a FIN.
    have hmem : fin ∈ σ.frames := by simp [hcut]
    rw [hframes, List.mem_singleton] at hmem
    rw [hmem] at hfin
    cases hfin
  · rw [hending] at hnormal
    cases hnormal

end SsmBridge.Smux
