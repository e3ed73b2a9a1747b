import SsmBridge.Properties.Isolation
import Mathlib.Data.List.TakeWhile

/-!
# How a lane ends

What an end of file of a stream says about what the stream returned.  Two things outside the lane
matter: whether `recv_task` has left its loop, so that nothing is routed any more (`stopped`), and
whether it left the loop with the whole output of a session that ended normally (`good`).  Both are
parameters here, propositions that once true stay true.

The steps of a lane keep `Lane.Sound` as long as they are `Lane.Allowed`: a stream is registered on
an open multiplexer and before a frame with its id was routed; a clean close finds the stream out
of the map, or is good; and a read that is ended by the close flag finds the queue empty and the
stream tagged.
-/

namespace SsmBridge.Smux

open Machine

variable {i : ℕ} {v v' : Lane} {st st' : SmuxStream} {l : Label} {stopped good : Prop}

/-! ## Up to FIN -/

/-- The frames up to the first FIN. -/
def beforeFin (routed : List Frame) : List Frame := routed.takeWhile (fun f => f.cmd != cmdFin)

section

variable {routed : List Frame} {f : Frame}

lemma finished_of_since (h : st.since = 0) :
    st.finished routed = routed.any (fun f => f.cmd == cmdFin) := by
  simp [SmuxStream.finished, h]

/-- What comes after a FIN does not matter. -/
lemma beforeFin_append (h : routed.any (fun f => f.cmd == cmdFin) = true) :
    beforeFin (routed ++ [f]) = beforeFin routed := by
  unfold beforeFin
  have hlen : ¬ (routed.takeWhile (fun f => f.cmd != cmdFin)).length = routed.length := by
    intro hlen
    have hself := (List.takeWhile_prefix (fun f : Frame => f.cmd != cmdFin)).eq_of_length hlen
    rw [List.takeWhile_eq_self_iff] at hself
    obtain ⟨g, hg, hfin⟩ := List.any_eq_true.mp h
    simpa [beq_iff_eq.mp hfin] using hself g hg
  rw [List.takeWhile_append, if_neg hlen]

/-- A FIN ends the frames before it. -/
lemma beforeFin_append_fin {id : UInt32} {payload : Bytes}
    (h : routed.any (fun f => f.cmd == cmdFin) = false) :
    beforeFin (routed ++ [⟨cmdFin, id, payload⟩]) = routed := by
  have hall : ∀ f ∈ routed, (f.cmd != cmdFin) = true := by simpa using h
  rw [beforeFin, List.takeWhile_append_of_pos hall]
  simp

end

/-! ## The invariant -/

/-- What is known of a stream, its reads and its end. -/
structure Lane.Kept (stopped good : Prop) (v : Lane) (st : SmuxStream) : Prop where
  since : st.since = 0
  fresh : st.phase = .numbered → st.readClosed = false ∧ st.polling = false
  unfinished : st.listed = true → st.finished v.routed = false
  sending : ∀ j id payload, v.router = .sending j id payload →
    st.finished v.routed = false ∧ (st.present = true → st.listed = true)
  /-- After FIN the stream holds what came before. -/
  cut : st.present = true → st.finished v.routed = true → st.tag ≠ some .slowConsumer →
    st.content = (st.addressed (beforeFin v.routed)).flatten
  /-- A stream that a clean close took out holds everything. -/
  swept : st.present = true → st.listed = false → st.finished v.routed = false →
    st.tag ≠ some .slowConsumer → v.closing.reason = some .clean →
    good ∧ st.content = (st.addressed v.routed).flatten
  listed : st.listed = true → v.closing.reason = some .clean → good
  tagged : st.tag = some .clean → st.finished v.routed = true ∨ v.closing.reason = some .clean
  /-- A stream that another close took out was tagged. -/
  aborted : st.present = true → st.listed = false → st.finished v.routed = false →
    st.tag ≠ some .slowConsumer → v.closing.reason ≠ some .clean → st.tag ≠ none
  polling : st.polling = true → st.phase = .held ∧ st.remainder = none
  /-- Nothing is left after an end of file, and nothing will come. -/
  read : st.readClosed = true → st.queue = [] ∧ st.remainder = none ∧
    (stopped ∨ st.listed = false ∧ ∀ j id payload, v.router ≠ .sending j id payload)
  eof : st.readClosed = true → st.present = true → st.finished v.routed = true ∨
    st.tag = some .slowConsumer ∨ st.tag = some .desynchronised ∨
    v.closing.reason = some .clean

structure Lane.Sound (i : ℕ) (stopped good : Prop) (v : Lane) : Prop where
  inv : v.Inv i
  closed : v.closed = true → v.closing ≠ .idle
  target : ∀ j, v.router.target = some j → j = i
  idle : stopped → v.router = .idle
  stops : good → stopped
  /-- A close that is not clean is the one of `recv_task`. -/
  dirty : v.closing ≠ .idle → v.closing.reason ≠ some .clean → stopped
  stream : ∀ st, v.stream = some st → v.Kept stopped good st

/-- The steps that the invariant allows. -/
def Lane.Allowed (stopped good : Prop) (v : Lane) : Label → Prop
  | .openRegister _ => v.closed = false ∧ v.routed = []
  | .routePush _ _ | .routeStep _ | .routeFin _ _ => ¬ stopped
  | .close .clean => v.closed = false → v.listed = false ∨ good
  | .close _ => stopped
  | .pollClosed _ => v.closed = true → ∀ st, v.stream = some st →
      st.queue = [] ∧ (st.tag ≠ none ∨ v.closing.reason = some .clean)
  | _ => True

/-! ## What the lane says already -/

lemma present_of_gone (h : st.gone = true) : st.present = false := by
  unfold SmuxStream.gone at h
  unfold SmuxStream.present
  split at h <;> simp_all

namespace Lane.Inv

/-- A stream in the map holds everything, unless a frame is on its way to it. -/
lemma content_of_listed (hinv : v.Inv i) (hst : v.stream = some st) (hl : st.listed = true)
    (htarget : v.router.target = none) : st.content = (st.addressed v.routed).flatten := by
  obtain ⟨taken, hfed⟩ := hinv.stream st hst
  rw [hfed.content, hfed.listed hl htarget]

lemma cut_off (hinv : v.Inv i) (hst : v.stream = some st) (hp : st.present = true) :
    st.listed = true ∨ st.finished v.routed = true ∨ st.tag = some .slowConsumer ∨
      v.closed = true := by
  obtain ⟨taken, hfed⟩ := hinv.stream st hst
  exact hfed.present hp

end Lane.Inv

namespace Lane.Sound

/-- A stream that is in the map of a closed multiplexer gets no more frames. -/
lemma stopped_of_listed (h : v.Sound i stopped good) (hst : v.stream = some st)
    (hclosed : v.closed = true) (hl : st.listed = true) : stopped := by
  by_cases hreason : v.closing.reason = some .clean
  · exact h.stops ((h.stream st hst).listed hl hreason)
  · exact h.dirty (h.closed hclosed) hreason

/-- A stream that was neither finished nor evicted is out of the map only once nothing is routed. -/
lemma stopped_of_unlisted (h : v.Sound i stopped good) (hst : v.stream = some st)
    (hp : st.present = true) (hl : st.listed = false) (hfin : st.finished v.routed = false)
    (htag : st.tag ≠ some .slowConsumer) : stopped := by
  have hclosed : v.closed = true := by
    rcases h.inv.cut_off hst hp with hl' | hf | ht | hc
    · simp [hl] at hl'
    · simp [hfin] at hf
    · exact absurd ht htag
    · exact hc
  by_cases hreason : v.closing.reason = some .clean
  · exact h.stops ((h.stream st hst).swept hp hl hfin htag hreason).1
  · exact h.dirty (h.closed hclosed) hreason

end Lane.Sound

/-! ## Steps -/

namespace Lane.Kept

/-- A change that leaves what the stream holds, its entry and its tag alone. -/
lemma change (h : v.Kept stopped good st) (hrouter : v'.router = v.router)
    (hrouted : v'.routed = v.routed) (hreason : v'.closing.reason = v.closing.reason)
    (hcontent : st'.content = st.content) (hsince : st'.since = st.since)
    (hlisted : st'.listed = st.listed) (htag : st'.tag = st.tag)
    (hpresent : st'.present = true → st.present = true)
    (hfresh : st'.phase = .numbered → st'.readClosed = false ∧ st'.polling = false)
    (hpolling : st'.polling = true → st'.phase = .held ∧ st'.remainder = none)
    (hread : st'.readClosed = true → st'.queue = [] ∧ st'.remainder = none ∧
      (stopped ∨ st.listed = false ∧ ∀ j id payload, v.router ≠ .sending j id payload))
    (heof : st'.readClosed = true → st'.present = true → st.finished v.routed = true ∨
      st.tag = some .slowConsumer ∨ st.tag = some .desynchronised ∨
      v.closing.reason = some .clean) : v'.Kept stopped good st' := by
  have hfinished : st'.finished v'.routed = st.finished v.routed := by
    rw [hrouted, SmuxStream.finished, SmuxStream.finished, hsince]
  have haddressed : ∀ R, st'.addressed R = st.addressed R := fun R => by
    rw [SmuxStream.addressed, SmuxStream.addressed, hsince]
  refine ⟨hsince.trans h.since, hfresh, ?_, ?_, ?_, ?_, ?_, ?_, ?_, hpolling, ?_, ?_⟩
  · rw [hlisted, hfinished]
    exact h.unfinished
  · rw [hrouter, hlisted, hfinished]
    intro j id payload hr
    exact ⟨(h.sending j id payload hr).1, fun hp => (h.sending j id payload hr).2 (hpresent hp)⟩
  · rw [hfinished, htag, hcontent, haddressed, hrouted]
    exact fun hp => h.cut (hpresent hp)
  · rw [hlisted, hfinished, htag, hreason, hcontent, haddressed, hrouted]
    exact fun hp => h.swept (hpresent hp)
  · rw [hlisted, hreason]
    exact h.listed
  · rw [htag, hfinished, hreason]
    exact h.tagged
  · rw [hlisted, hfinished, htag, hreason]
    exact fun hp => h.aborted (hpresent hp)
  · rw [hlisted, hrouter]
    exact hread
  · rw [hfinished, htag, hreason]
    exact heof

lemma polling_of_phase (h : v.Kept stopped good st) (hphase : st.phase ≠ .held) :
    st.polling = false := by
  by_contra hp
  exact hphase (h.polling (by simpa using hp)).1

/-- The same for a stream whose reads are as before. -/
lemma quiet (h : v.Kept stopped good st) (hrouter : v'.router = v.router)
    (hrouted : v'.routed = v.routed) (hreason : v'.closing.reason = v.closing.reason)
    (hcontent : st'.content = st.content) (hsince : st'.since = st.since)
    (hlisted : st'.listed = st.listed) (htag : st'.tag = st.tag)
    (hpresent : st'.present = true → st.present = true) (hqueue : st'.queue = st.queue)
    (hremainder : st'.remainder = st.remainder) (hread : st'.readClosed = st.readClosed)
    (hfresh : st'.phase = .numbered → st'.readClosed = false ∧ st'.polling = false)
    (hpolling : st'.polling = true → st'.phase = .held ∧ st'.remainder = none) :
    v'.Kept stopped good st' := by
  refine h.change hrouter hrouted hreason hcontent hsince hlisted htag hpresent hfresh hpolling ?_ ?_
  · rw [hread, hqueue, hremainder]
    exact h.read
  · rw [hread]
    exact fun hr hp => h.eof hr (hpresent hp)

/-- A stream that is taken out of the map for good. -/
lemma unlist (h : v.Kept stopped good st) (hrouter : v'.router = v.router)
    (hrouted : v'.routed = v.routed) (hreason : v'.closing.reason = v.closing.reason)
    (hsince : st'.since = st.since) (hlisted : st'.listed = false) (htag : st'.tag = st.tag)
    (hpresent : st'.present = false) (hqueue : st'.queue = st.queue)
    (hremainder : st'.remainder = st.remainder) (hread : st'.readClosed = st.readClosed)
    (hfresh : st'.phase ≠ .numbered) (hpolling : st'.polling = false) :
    v'.Kept stopped good st' := by
  have hfinished : st'.finished v'.routed = st.finished v.routed := by
    rw [hrouted, SmuxStream.finished, SmuxStream.finished, hsince]
  refine ⟨hsince.trans h.since, fun hn => absurd hn hfresh, ?_, ?_, ?_, ?_, ?_, ?_, ?_, ?_, ?_, ?_⟩
  · simp [hlisted]
  · rw [hrouter, hfinished]
    intro j id payload hr
    exact ⟨(h.sending j id payload hr).1, by simp [hpresent]⟩
  · simp [hpresent]
  · simp [hpresent]
  · simp [hlisted]
  · rw [htag, hfinished, hreason]
    exact h.tagged
  · simp [hpresent]
  · simp [hpolling]
  · rw [hread, hqueue, hremainder, hrouter]
    intro hr
    obtain ⟨hq, hrem, hs⟩ := h.read hr
    exact ⟨hq, hrem, hs.imp_right fun hs => ⟨hlisted, hs.2⟩⟩
  · simp [hpresent]

/-- The routing moves on. -/
lemma moveRouter {r : RouterPc} (h : v.Kept stopped good st)
    (hr : ∀ j id payload, r ≠ .sending j id payload) : (v.moveRouter r).Kept stopped good st where
  since := h.since
  fresh := h.fresh
  unfinished := h.unfinished
  sending j id payload hr' := absurd hr' (hr j id payload)
  cut := h.cut
  swept := h.swept
  listed := h.listed
  tagged := h.tagged
  aborted := h.aborted
  polling := h.polling
  read hread := (h.read hread).imp_right (And.imp_right (Or.imp_right fun hs => ⟨hs.1, hr⟩))
  eof := h.eof

/-- The payload on its way is queued. -/
lemma queued {j : ℕ} {id : UInt32} {payload : Bytes} (h : v.Kept stopped good st)
    (hrun : ¬ stopped) (hr : v.router = .sending j id payload) :
    ((v.update (fun st => { st with queue := st.queue ++ [payload] })).moveRouter .idle).Kept stopped
      good { st with queue := st.queue ++ [payload] } := by
  obtain ⟨hfinished, hlisted⟩ := h.sending j id payload hr
  have hread : st.readClosed = false := by
    by_contra hread
    obtain ⟨-, -, hs | ⟨-, hs⟩⟩ := h.read (by simpa using hread)
    · exact hrun hs
    · exact hs j id payload hr
  refine ⟨h.since, h.fresh, h.unfinished, ?_, ?_, ?_, h.listed, h.tagged, ?_, h.polling, ?_, ?_⟩
  · intro j' id' payload' hr'
    cases hr'
  · exact fun _ hf => absurd (hfinished.symm.trans hf) (by simp)
  · exact fun hp hl => absurd ((hlisted hp).symm.trans hl) (by simp)
  · exact fun hp hl => absurd ((hlisted hp).symm.trans hl) (by simp)
  · exact fun hr' => absurd (hread.symm.trans hr') (by simp)
  · exact fun hr' => absurd (hread.symm.trans hr') (by simp)

/-- The stream is evicted. -/
lemma evicted (h : v.Kept stopped good st) :
    (v.update (fun st => { st with tag := some .slowConsumer })).Kept stopped good
      { st with tag := some .slowConsumer } := by
  refine ⟨h.since, h.fresh, h.unfinished, h.sending, ?_, ?_, h.listed, ?_, ?_, h.polling, h.read, ?_⟩
  · exact fun _ _ ht => absurd rfl ht
  · exact fun _ _ _ ht => absurd rfl ht
  · intro ht
    cases ht
  · exact fun _ _ _ ht => absurd rfl ht
  · exact fun _ _ => .inr (.inl rfl)

/-- The entry of a stream is taken out that was evicted, or that is gone. -/
lemma removed (h : v.Kept stopped good st)
    (hout : st.tag = some .slowConsumer ∨ st.present = false)
    (hr : ∀ j id payload, v.router ≠ .sending j id payload) :
    (v.update (fun st => { st with listed := false })).Kept stopped good
      { st with listed := false } := by
  refine ⟨h.since, h.fresh, ?_, ?_, h.cut, ?_, ?_, h.tagged, ?_, h.polling, ?_, h.eof⟩
  · intro hl
    cases hl
  · exact fun j id payload hr' => absurd hr' (hr j id payload)
  · exact fun hp _ _ ht => hout.elim (absurd · ht) (fun hn => absurd (hn.symm.trans hp) (by simp))
  · intro hl
    cases hl
  · exact fun hp _ _ ht => hout.elim (absurd · ht) (fun hn => absurd (hn.symm.trans hp) (by simp))
  · intro hread
    obtain ⟨hqueue, hremainder, -⟩ := h.read hread
    exact ⟨hqueue, hremainder, .inr ⟨rfl, hr⟩⟩

/-- The environment moves on. -/
lemma mono {stopped' good' : Prop} (h : v.Kept stopped good st) (hstopped : stopped → stopped')
    (hgood : good → good') : v.Kept stopped' good' st where
  since := h.since
  fresh := h.fresh
  unfinished := h.unfinished
  sending := h.sending
  cut := h.cut
  swept hp hl hf ht hr := (h.swept hp hl hf ht hr).imp_left hgood
  listed hl hr := hgood (h.listed hl hr)
  tagged := h.tagged
  aborted := h.aborted
  polling := h.polling
  read hr := (h.read hr).imp_right (And.imp_right (Or.imp_left hstopped))
  eof := h.eof

end Lane.Kept

namespace Lane.Sound

/-- A step that leaves the routing and the close alone. -/
lemma of_stream (h : v.Sound i stopped good) (hinv : v'.Inv i) (hrouter : v'.router = v.router)
    (hclosing : v'.closing = v.closing) (hclosed : v'.closed = v.closed)
    (hstream : ∀ st, v'.stream = some st → v'.Kept stopped good st) : v'.Sound i stopped good where
  inv := hinv
  closed := by
    rw [hclosed, hclosing]
    exact h.closed
  target := by
    rw [hrouter]
    exact h.target
  idle := by
    rw [hrouter]
    exact h.idle
  stops := h.stops
  dirty := by
    rw [hclosing]
    exact h.dirty
  stream := hstream

/-- A move of the stream. -/
lemma move {p : SmuxStream → Bool} {f : SmuxStream → SmuxStream} (h : v.Sound i stopped good)
    (hmove : v.move p f = some v') (hinv : v'.Inv i)
    (hkept : ∀ st, v.stream = some st → p st = true → v.Kept stopped good st →
      (v.update f).Kept stopped good (f st)) : v'.Sound i stopped good := by
  obtain ⟨rfl, st, hst, hp⟩ := Lane.move_cases hmove
  refine h.of_stream hinv rfl rfl rfl fun st' hst' => ?_
  simp only [Lane.update, hst, Option.map_some, Option.some.injEq] at hst'
  rw [← hst']
  exact hkept st hst hp (h.stream st hst)

lemma openNumber (h : v.Sound i stopped good) (hstep : v.step i .openNumber = some v') :
    v'.Sound i stopped good := by
  have hinv := h.inv.step hstep
  cases hstep
  refine h.of_stream hinv rfl rfl rfl fun st hst => ?_
  dsimp only at hst
  split at hst
  · next hi =>
    cases hst
    have hnone : v.stream = none := h.inv.count.mpr (by omega)
    have hidle := h.inv.absent hnone
    exact {
      since := rfl
      fresh := fun _ => ⟨rfl, rfl⟩
      unfinished := by simp [SmuxStream.new]
      sending := by
        intro j id payload hr
        rw [hr] at hidle
        cases hidle
      cut := by simp [SmuxStream.new, SmuxStream.present]
      swept := by simp [SmuxStream.new, SmuxStream.present]
      listed := by simp [SmuxStream.new]
      tagged := by simp [SmuxStream.new]
      aborted := by simp [SmuxStream.new, SmuxStream.present]
      polling := by simp [SmuxStream.new]
      read := by simp [SmuxStream.new]
      eof := by simp [SmuxStream.new] }
  · have hkept := h.stream st hst
    exact hkept.quiet rfl rfl rfl rfl rfl rfl rfl (fun hp => hp) rfl rfl rfl hkept.fresh hkept.polling

lemma openRegister {j : ℕ} (h : v.Sound i stopped good)
    (hallowed : v.Allowed stopped good (.openRegister j))
    (hstep : v.step i (.openRegister j) = some v') : v'.Sound i stopped good := by
  obtain ⟨hclosed, hrouted⟩ := hallowed
  refine h.move hstep (h.inv.step hstep) fun st hst hp hkept => ?_
  have hnumbered : st.phase = .numbered := by simpa using hp
  obtain ⟨hread, hpolling⟩ := hkept.fresh hnumbered
  obtain ⟨taken, hfed⟩ := h.inv.stream st hst
  obtain ⟨hunlisted, htarget, rfl⟩ := hfed.numbered hnumbered
  have hreason : v.closing.reason = none := by
    cases hpc : v.closing with
    | idle => rfl
    | notifying | locking | sweeping | completed => simp [h.inv.closing (by simp [hpc])] at hclosed
  exact {
    since := by simp [hrouted]
    fresh := fun hn => by cases hn
    unfinished := fun _ => by simp [SmuxStream.finished, Lane.update, hrouted]
    sending := fun j id payload hr => by
      rw [show v.router = .sending j id payload from hr] at htarget
      cases htarget
    cut := fun _ hf => by simp [SmuxStream.finished, Lane.update, hrouted] at hf
    swept := fun _ hl => by cases hl
    listed := fun _ hr => by
      rw [show v.closing.reason = some .clean from hr] at hreason
      cases hreason
    tagged := fun ht => by
      obtain hf | hr := hkept.tagged ht
      · simp [SmuxStream.finished, hrouted] at hf
      · simp [hreason] at hr
    aborted := fun _ hl => by cases hl
    polling := fun hp => by simp [hpolling] at hp
    read := fun hr => by simp [hread] at hr
    eof := fun hr => by simp [hread] at hr }

lemma routePush {id : UInt32} {payload : Bytes} (h : v.Sound i stopped good) (hrun : ¬ stopped)
    (hstep : v.step i (.routePush id payload) = some v') : v'.Sound i stopped good := by
  have hinv := h.inv.step hstep
  simp only [Lane.step] at hstep
  split at hstep <;> cases hstep
  next hidle =>
  refine ⟨hinv, h.closed, fun j hj => ?_, fun hs => absurd hs hrun, h.stops, h.dirty, fun st hst => ?_⟩
  · simp only [Lane.moveRouter] at hj
    split at hj
    · cases hj
      rfl
    · cases hj
  · have hst' : v.stream = some st := hst
    have hkept := h.stream st hst'
    have hfinished : st.finished (v.routed ++ [⟨cmdPsh, id, payload⟩]) = st.finished v.routed := by
      simp [finished_of_since hkept.since, cmdPsh, cmdFin]
    have hlisted : v.listed = st.listed := by simp [Lane.listed, hst']
    have hrouter : ∀ j id' payload', (if v.listed = true then RouterPc.sending i id payload
        else .replying none id) = .sending j id' payload' → st.listed = true := by
      intro j id' payload' hr
      rw [hlisted] at hr
      by_contra hl
      rw [if_neg hl] at hr
      cases hr
    -- Only the close of `recv_task` itself could have taken the stream out before its FIN.
    have hstop : st.present = true → st.listed = false → st.finished v.routed = false →
        st.tag ≠ some .slowConsumer → False := fun hp hl hf ht =>
      hrun (h.stopped_of_unlisted hst' hp hl hf ht)
    refine ⟨hkept.since, hkept.fresh, fun hl => hfinished.trans (hkept.unfinished hl), ?_, ?_, ?_,
      hkept.listed, ?_, ?_, hkept.polling, fun hread => ?_, ?_⟩
    · intro j id' payload' hr
      have hl := hrouter j id' payload' hr
      exact ⟨hfinished.trans (hkept.unfinished hl), fun _ => hl⟩
    · intro hp hf ht
      have hf' := hfinished.symm.trans hf
      rw [show (((v.record _).moveRouter _).routed) = v.routed ++ [⟨cmdPsh, id, payload⟩] from rfl,
        beforeFin_append (finished_of_since hkept.since ▸ hf')]
      exact hkept.cut hp hf' ht
    · exact fun hp hl hf ht _ => (hstop hp hl (hfinished.symm.trans hf) ht).elim
    · exact fun ht => (hkept.tagged ht).imp_left hfinished.trans
    · exact fun hp hl hf ht _ => (hstop hp hl (hfinished.symm.trans hf) ht).elim
    · obtain ⟨hqueue, hremainder, hs | ⟨hl, -⟩⟩ := hkept.read hread
      · exact absurd hs hrun
      · refine ⟨hqueue, hremainder, .inr ⟨hl, fun j id' payload' hr => ?_⟩⟩
        simp [hrouter j id' payload' hr] at hl
    · exact fun hr hp => (hkept.eof hr hp).imp_left hfinished.trans

lemma routeFin {id : UInt32} {payload : Bytes} (h : v.Sound i stopped good) (hrun : ¬ stopped)
    (hstep : v.step i (.routeFin id payload) = some v') : v'.Sound i stopped good := by
  have hinv := h.inv.step hstep
  simp only [Lane.step] at hstep
  split at hstep <;> cases hstep
  next hidle =>
  refine ⟨hinv, h.closed, h.target, h.idle, h.stops, h.dirty, fun st' hst' => ?_⟩
  obtain ⟨st, hst, rfl⟩ := Option.map_eq_some_iff.mp hst'
  have hst : v.stream = some st := hst
  have hkept := h.stream st hst
  have hsending : ∀ j id payload, v.router ≠ .sending j id payload := by simp [hidle]
  have hfin : ∀ s : SmuxStream, s.since = 0 →
      s.finished (v.routed ++ [⟨cmdFin, id, payload⟩]) = true := fun s hs => by
    simp [finished_of_since hs]
  cases hl : st.listed with
  | true =>
    have hopen := hkept.unfinished hl
    have hcontent := h.inv.content_of_listed hst hl (by rw [hidle]; rfl)
    have hread : st.readClosed = false := by
      by_contra hr
      obtain ⟨-, -, hs | ⟨hl', -⟩⟩ := hkept.read (by simpa using hr)
      · exact hrun hs
      · simp [hl] at hl'
    simp only [if_true]
    refine ⟨hkept.since, hkept.fresh, ?_, ?_, ?_, ?_, ?_, ?_, ?_, hkept.polling, ?_, ?_⟩
    · intro hl'
      cases hl'
    · exact fun j id payload hr => absurd hr (hsending j id payload)
    · intro hp hf ht
      rw [show (((v.record _).update _).routed) = v.routed ++ [⟨cmdFin, id, payload⟩] from rfl,
        beforeFin_append_fin (finished_of_since hkept.since ▸ hopen)]
      exact hcontent
    · exact fun _ _ hf => absurd ((hfin _ hkept.since).symm.trans hf) (by simp)
    · intro hl'
      cases hl'
    · exact fun _ => .inl (hfin _ hkept.since)
    · exact fun _ _ hf => absurd ((hfin _ hkept.since).symm.trans hf) (by simp)
    · intro hr
      simp [SmuxStream.close, hread] at hr
    · exact fun _ _ => .inl (hfin _ hkept.since)
  | false =>
    simp only [Bool.false_eq_true, if_false]
    refine ⟨hkept.since, hkept.fresh, ?_, ?_, ?_, ?_, hkept.listed, ?_, ?_, hkept.polling, ?_, ?_⟩
    · simp [hl]
    · exact fun j id payload hr => absurd hr (hsending j id payload)
    · intro hp hf ht
      cases hfinished : st.finished v.routed with
      | true =>
        rw [show (((v.record _).update _).routed) = v.routed ++ [⟨cmdFin, id, payload⟩] from rfl,
          beforeFin_append (finished_of_since hkept.since ▸ hfinished)]
        exact hkept.cut hp hfinished ht
      | false => exact absurd (h.stopped_of_unlisted hst hp hl hfinished ht) hrun
    · exact fun _ _ hf => absurd ((hfin _ hkept.since).symm.trans hf) (by simp)
    · exact fun _ => .inl (hfin _ hkept.since)
    · exact fun _ _ hf => absurd ((hfin _ hkept.since).symm.trans hf) (by simp)
    · intro hr
      obtain ⟨hqueue, hremainder, -⟩ := hkept.read hr
      exact ⟨hqueue, hremainder, .inr ⟨hl, hsending⟩⟩
    · exact fun _ _ => .inl (hfin _ hkept.since)

/-- The routing moves on to `r`, and changes the stream. -/
lemma reroute {f : SmuxStream → SmuxStream} {r : RouterPc} (h : v.Sound i stopped good)
    (hrun : ¬ stopped) (hinv : ((v.update f).moveRouter r).Inv i)
    (htarget : ∀ j, r.target = some j → v.router.target = some j)
    (hstream : ∀ st, v.stream = some st → v.Kept stopped good st →
      ((v.update f).moveRouter r).Kept stopped good (f st)) :
    ((v.update f).moveRouter r).Sound i stopped good where
  inv := hinv
  closed := h.closed
  target j hj := h.target j (htarget j hj)
  idle hs := absurd hs hrun
  stops := h.stops
  dirty := h.dirty
  stream st' hst' := by
    obtain ⟨st, hst, rfl⟩ := Option.map_eq_some_iff.mp hst'
    exact hstream st hst (h.stream st hst)

lemma routeStep {id : UInt32} (h : v.Sound i stopped good) (hrun : ¬ stopped)
    (hstep : v.step i (.routeStep id) = some v') : v'.Sound i stopped good := by
  have hinv := h.inv.step hstep
  simp only [Lane.step, Lane.routeStep] at hstep
  split at hstep
  · next j id payload st hr hst =>
    have hmove : ∀ r : RouterPc, (∀ j id payload, r ≠ .sending j id payload) → r.target = some j →
        (v.moveRouter r).Inv i → (v.moveRouter r).Sound i stopped good := by
      intro r hr' htarget hinv
      refine ⟨hinv, h.closed, fun j' hj' => ?_, fun hs => absurd hs hrun, h.stops, h.dirty, ?_⟩
      · exact h.target j' (by rw [hr]; exact htarget.symm.trans hj')
      · exact fun st' hst' => (h.stream st' hst').moveRouter hr'
    split at hstep
    · cases hstep
      exact hmove _ (by simp) rfl hinv
    · split at hstep <;> cases hstep
      · exact hmove _ (by simp) rfl hinv
      · refine h.reroute hrun hinv (fun j' hj' => ?_) fun st' hst' hkept => hkept.queued hrun hr
        cases hj'
  · next j id hr =>
    cases hstep
    refine h.reroute hrun hinv (fun j' hj' => ?_) fun st' hst' hkept => ?_
    · rw [hr]
      exact hj'
    · exact hkept.evicted.moveRouter (by simp)
  · next j id evicted hr =>
    cases hstep
    refine h.reroute hrun hinv (fun j' hj' => ?_) fun st' hst' hkept => ?_
    · rw [hr]
      cases evicted with
      | true => exact hj'
      | false => cases hj'
    · obtain ⟨taken, hfed⟩ := h.inv.stream st' hst'
      refine (hkept.removed ?_ (by simp [hr])).moveRouter ?_
      · cases evicted with
        | true => exact .inl (hfed.evicted j id hr)
        | false => exact .inr (present_of_gone (hfed.gone j id hr))
      · cases evicted <;> simp
  · next found id hr =>
    cases hstep
    refine ⟨hinv, h.closed, fun j hj => ?_, fun _ => rfl, h.stops, h.dirty, fun st hst => ?_⟩
    · cases hj
    · exact (h.stream st hst).moveRouter (by simp)
  · cases hstep

lemma close {reason : StreamCloseReason} (h : v.Sound i stopped good)
    (hallowed : v.Allowed stopped good (.close reason))
    (hstep : v.step i (.close reason) = some v') : v'.Sound i stopped good := by
  have hinv := h.inv.step hstep
  simp only [Lane.step] at hstep
  split at hstep <;> cases hstep
  · exact h
  · next hclosed =>
    have hidle : v.closing = .idle := by
      by_contra hne
      exact hclosed (h.inv.closing hne)
    have hreason : v.closing.reason = none := by rw [hidle]; rfl
    refine ⟨hinv, fun _ => by simp, h.target, h.idle, h.stops, fun _ hr => ?_, fun st hst => ?_⟩
    · cases reason with
      | clean => exact absurd rfl hr
      | slowConsumer | desynchronised => exact hallowed
    · have hstream : v.stream = some st := hst
      have hkept := h.stream st hstream
      -- The flag was down: a stream that was not cut off is in the map.
      have hcut : st.present = true → st.listed = false → st.finished v.routed = false →
          st.tag ≠ some .slowConsumer → False := by
        intro hp hl hf ht
        rcases h.inv.cut_off hstream hp with hl' | hf' | ht' | hc
        · simp [hl] at hl'
        · simp [hf] at hf'
        · exact ht ht'
        · exact hclosed hc
      refine ⟨hkept.since, hkept.fresh, hkept.unfinished, hkept.sending, hkept.cut, ?_, ?_, ?_, ?_,
        hkept.polling, hkept.read, ?_⟩
      · exact fun hp hl hf ht _ => (hcut hp hl hf ht).elim
      · intro hl hr
        cases hr
        obtain hnone | hgood := hallowed (by simpa using hclosed)
        · simp [Lane.listed, hstream, hl] at hnone
        · exact hgood
      · intro ht
        obtain hf | hr := hkept.tagged ht
        · exact .inl hf
        · simp [hreason] at hr
      · exact fun hp hl hf ht _ => (hcut hp hl hf ht).elim
      · intro hr hp
        obtain hf | ht | ht | hr := hkept.eof hr hp
        · exact .inl hf
        · exact .inr (.inl ht)
        · exact .inr (.inr (.inl ht))
        · simp [hreason] at hr

/-- The close moves on without touching the stream. -/
lemma moveClose {pc : ClosePc} (h : v.Sound i stopped good)
    (hinv : ({ v with closing := pc } : Lane).Inv i) (hne : v.closing ≠ .idle) (hpc : pc ≠ .idle)
    (hreason : pc.reason = v.closing.reason) :
    ({ v with closing := pc } : Lane).Sound i stopped good where
  inv := hinv
  closed _ := hpc
  target := h.target
  idle := h.idle
  stops := h.stops
  dirty _ hr := h.dirty hne (hreason ▸ hr)
  stream st hst := by
    have hkept := h.stream st hst
    exact hkept.quiet rfl rfl hreason rfl rfl rfl rfl (fun hp => hp) rfl rfl rfl hkept.fresh
      hkept.polling

/-- The close takes every stream out of the map, having tagged it. -/
lemma cleared {r : StreamCloseReason} (h : v.Sound i stopped good) (hpc : v.closing = .sweeping r)
    (hst : v.stream = some st) (htag : st.listed = true → st.tag.isSome = true) :
    ({ v.update (fun st => { st with listed := false }) with closing := .completed r } : Lane).Kept
      stopped good { st with listed := false } := by
  have hkept := h.stream st hst
  have hclosed : v.closed = true := h.inv.closing (by simp [hpc])
  have hreason : v.closing.reason = some r := by rw [hpc]; rfl
  refine ⟨hkept.since, hkept.fresh, ?_, ?_, hkept.cut, ?_, ?_, ?_, ?_, hkept.polling, ?_, ?_⟩
  · intro hl
    cases hl
  · intro j id payload hr
    have hr : v.router = .sending j id payload := hr
    refine ⟨(hkept.sending j id payload hr).1, fun hp => ?_⟩
    have hs := h.stopped_of_listed hst hclosed ((hkept.sending j id payload hr).2 hp)
    rw [h.idle hs] at hr
    cases hr
  · intro hp _ hf ht hr
    have hr : v.closing.reason = some .clean := hreason.trans hr
    cases hl : st.listed with
    | true =>
      have hgood := hkept.listed hl hr
      have hcontent := h.inv.content_of_listed hst hl (by rw [h.idle (h.stops hgood)]; rfl)
      exact ⟨hgood, hcontent⟩
    | false => exact hkept.swept hp hl hf ht hr
  · intro hl
    cases hl
  · exact fun ht => (hkept.tagged ht).imp_right fun hr => hreason.symm.trans hr
  · intro hp _ hf ht hr
    cases hl : st.listed with
    | true => exact Option.isSome_iff_ne_none.mp (htag hl)
    | false => exact hkept.aborted hp hl hf ht (fun hr' => hr (hreason.symm.trans hr'))
  · intro hr
    obtain ⟨hqueue, hremainder, hs⟩ := hkept.read hr
    exact ⟨hqueue, hremainder, hs.imp_right fun hs => ⟨rfl, hs.2⟩⟩
  · intro hr hp
    exact (hkept.eof hr hp).imp_right (Or.imp_right (Or.imp_right fun hr' => hreason.symm.trans hr'))

lemma closeStep (h : v.Sound i stopped good) (hstep : v.step i .closeStep = some v') :
    v'.Sound i stopped good := by
  have hinv := h.inv.step hstep
  simp only [Lane.step, Lane.closeStep] at hstep
  split at hstep
  · next r hpc =>
    cases hstep
    exact h.moveClose hinv (by simp [hpc]) (by simp) (by rw [hpc]; rfl)
  · next r hpc =>
    cases hstep
    exact h.moveClose hinv (by simp [hpc]) (by simp) (by rw [hpc]; rfl)
  · next r hpc =>
    split at hstep <;> cases hstep
    next hall =>
    refine ⟨hinv, fun _ => by simp, h.target, h.idle, h.stops, fun _ hr => ?_, fun st' hst' => ?_⟩
    · exact h.dirty (by simp [hpc]) (by rw [hpc]; exact hr)
    · obtain ⟨st, hst, rfl⟩ := Option.map_eq_some_iff.mp hst'
      refine h.cleared hpc hst fun hl => ?_
      simpa [hst, hl] using hall
  · cases hstep
  · cases hstep

lemma closeSweep {j : ℕ} (h : v.Sound i stopped good)
    (hstep : v.step i (.closeSweep j) = some v') : v'.Sound i stopped good := by
  have hinv := h.inv.step hstep
  simp only [Lane.step, Lane.closeSweep] at hstep
  split at hstep
  · next r hpc =>
    refine h.move hstep hinv fun st hst hl hkept => ?_
    have hreason : v.closing.reason = some r := by rw [hpc]; rfl
    have hslow : ∀ t, st.tag = some t → (st.close r).tag = some t := fun t ht => by
      simp [SmuxStream.close, ht]
    have htag : (st.close r).tag ≠ some .slowConsumer → st.tag ≠ some .slowConsumer :=
      fun ht ht' => ht (hslow _ ht')
    refine ⟨hkept.since, hkept.fresh, hkept.unfinished, hkept.sending, ?_, ?_, hkept.listed, ?_, ?_,
      hkept.polling, hkept.read, ?_⟩
    · exact fun hp hf ht => hkept.cut hp hf (htag ht)
    · exact fun hp hl' => absurd (hl.symm.trans hl') (by simp)
    · intro ht
      cases hold : st.tag with
      | none =>
        right
        simp only [SmuxStream.close, hold, Option.getD_none, Option.some.injEq] at ht
        exact hreason.trans (congrArg some ht)
      | some t =>
        rw [hslow t hold] at ht
        exact hkept.tagged (hold.trans ht)
    · exact fun hp hl' => absurd (hl.symm.trans hl') (by simp)
    · exact fun hr hp => (hkept.eof hr hp).imp_right
        (Or.imp (hslow _) (Or.imp_left (hslow _)))
  · cases hstep

/-- A change of the stream by a read. -/
lemma served {f : SmuxStream → SmuxStream} (h : v.Sound i stopped good) (hst : v.stream = some st)
    (hinv : (v.update f).Inv i) (hkept : (v.update f).Kept stopped good (f st)) :
    (v.update f).Sound i stopped good := by
  refine h.of_stream hinv rfl rfl rfl fun st' hst' => ?_
  simp only [Lane.update, hst, Option.map_some, Option.some.injEq] at hst'
  rw [← hst']
  exact hkept

/-- No routing that found the stream is under way, and the entry is out: the queue has ended. -/
lemma endOfFile (h : v.Sound i stopped good) (hst : v.stream = some st) (hheld : st.phase = .held)
    (hpolling : ¬ st.polling = true) (hremainder : st.remainder = none) (hqueue : st.queue = [])
    (halive : ¬ (st.listed || decide (v.router.target = some i)) = true) :
    (v.update (fun st => { st with readClosed := true })).Kept stopped good
      { st with readClosed := true } := by
  have hkept := h.stream st hst
  simp only [Bool.or_eq_true, decide_eq_true_eq, not_or, Bool.not_eq_true] at halive
  obtain ⟨hl, htarget⟩ := halive
  have hp : st.present = true := by simp [SmuxStream.present, hheld]
  have hsending : ∀ j id payload, v.router ≠ .sending j id payload := by
    intro j id payload hr
    have hj : v.router.target = some j := by rw [hr]; rfl
    rw [h.target j hj] at hj
    exact htarget hj
  refine hkept.change rfl rfl rfl rfl rfl rfl rfl (fun hp => hp) (fun hn => ?_)
    (fun hp => absurd hp hpolling) (fun _ => ⟨hqueue, hremainder, .inr ⟨hl, hsending⟩⟩) fun _ _ => ?_
  · rw [show st.phase = .numbered from hn] at hheld
    cases hheld
  · -- What took the entry out: FIN, the eviction or a close, and a close left its tag.
    by_contra hnot
    simp only [not_or] at hnot
    obtain ⟨hfin, hslow, hdesync, hreason⟩ := hnot
    have htag := hkept.aborted hp hl (by simpa using hfin) hslow hreason
    cases ht : st.tag with
    | none => exact htag ht
    | some t =>
      cases t with
      | clean => exact (hkept.tagged ht).elim hfin hreason
      | slowConsumer => exact hslow ht
      | desynchronised => exact hdesync ht

lemma pollRead {j size : ℕ} (h : v.Sound i stopped good)
    (hstep : v.step i (.pollRead j size) = some v') : v'.Sound i stopped good := by
  have hinv := h.inv.step hstep
  simp only [Lane.step, Lane.pollRead] at hstep
  split at hstep
  · next st hst =>
    have hkept := h.stream st hst
    split at hstep
    · cases hstep
    · next hheld =>
      simp only [not_or, not_not] at hheld
      obtain ⟨hheld, hpolling⟩ := hheld
      have hnumbered : ∀ p : StreamPhase, p = st.phase → p ≠ .numbered := by
        rintro p rfl
        simp [hheld]
      split at hstep
      · cases hstep
        exact h
      · next hread =>
        split at hstep
        · next chunk hrem =>
          cases hstep
          refine h.served hst hinv (hkept.change rfl rfl rfl (content_serve_remainder hrem) rfl rfl rfl
            (fun hp => hp) (fun hn => absurd hn (hnumbered _ rfl)) (fun hp => absurd hp hpolling)
            (fun hr => absurd hr hread) (fun hr => absurd hr hread))
        · next chunk rest hrem hqueue =>
          cases hstep
          refine h.served hst hinv (hkept.change rfl rfl rfl (content_serve_queue hrem hqueue) rfl rfl
            rfl (fun hp => hp) (fun hn => absurd hn (hnumbered _ rfl)) (fun hp => absurd hp hpolling)
            (fun hr => absurd hr hread) (fun hr => absurd hr hread))
        · next hrem hqueue =>
          split at hstep <;> cases hstep
          · refine h.served hst hinv (hkept.change rfl rfl rfl rfl rfl rfl rfl (fun hp => hp)
              (fun hn => absurd hn (hnumbered _ rfl)) (fun _ => ⟨hheld, hrem⟩)
              (fun hr => absurd hr hread) (fun hr => absurd hr hread))
          · next halive =>
            exact h.served hst hinv (h.endOfFile hst hheld hpolling hrem hqueue halive)
  · cases hstep

/-- The close flag ends the reads of a stream with an empty queue. -/
lemma pollClosed {j : ℕ} (h : v.Sound i stopped good)
    (hallowed : v.Allowed stopped good (.pollClosed j))
    (hstep : v.step i (.pollClosed j) = some v') : v'.Sound i stopped good := by
  refine h.move hstep (h.inv.step hstep) fun st hst hp hkept => ?_
  obtain ⟨hheld, hremainder⟩ := hkept.polling hp
  have hpresent : st.present = true := by simp [SmuxStream.present, hheld]
  refine hkept.change rfl rfl rfl rfl rfl rfl rfl (fun hp => hp) (fun hn => ?_) (fun hp' => ?_)
    (fun hread => ?_) (fun hread _ => ?_)
  · rw [show st.phase = .numbered from hn] at hheld
    cases hheld
  · cases hp'
  · have hclosed : v.closed = true := hread
    refine ⟨(hallowed hclosed st hst).1, hremainder, ?_⟩
    cases hl : st.listed with
    | true => exact .inl (h.stopped_of_listed hst hclosed hl)
    | false =>
      refine .inr ⟨rfl, fun j id payload hr => ?_⟩
      simp [(hkept.sending j id payload hr).2 hpresent] at hl
  · have hclosed : v.closed = true := hread
    obtain htag | hreason := (hallowed hclosed st hst).2
    · cases ht : st.tag with
      | none => exact absurd ht htag
      | some t =>
        cases t with
        | clean => exact (hkept.tagged ht).elim .inl (fun hr => .inr (.inr (.inr hr)))
        | slowConsumer => exact .inr (.inl rfl)
        | desynchronised => exact .inr (.inr (.inl rfl))
    · exact .inr (.inr (.inr hreason))

/-- A step that changes the phase of the stream. -/
lemma phase {p : SmuxStream → Bool} {phase : StreamPhase} (h : v.Sound i stopped good)
    (hmove : v.move p (fun st => { st with phase := phase }) = some v') (hinv : v'.Inv i)
    (hphase : phase ≠ .numbered)
    (hpresent : ∀ st, p st = true → ({ st with phase := phase } : SmuxStream).present = true →
      st.present = true)
    (hpolling : ∀ st, p st = true → st.polling = true → st.phase = .held → phase = .held) :
    v'.Sound i stopped good := by
  refine h.move hmove hinv fun st hst hp hkept => ?_
  refine hkept.quiet rfl rfl rfl rfl rfl rfl rfl (hpresent st hp) rfl rfl rfl
    (fun hn => absurd hn hphase) (fun hpoll => ?_)
  obtain ⟨hheld, hremainder⟩ := hkept.polling hpoll
  exact ⟨hpolling st hp hpoll hheld, hremainder⟩

/-- **What an allowed step of a lane preserves.** The reason a stream ends with is settled by the
first thing that ends it, and what was queued before is still read. -/
theorem step (h : v.Sound i stopped good) (hallowed : v.Allowed stopped good l)
    (hstep : v.step i l = some v') : v'.Sound i stopped good := by
  have hinv := h.inv.step hstep
  cases l with
  | openNumber => exact h.openNumber hstep
  | openRegister j => exact h.openRegister hallowed hstep
  | routePush id payload => exact h.routePush hallowed hstep
  | routeStep id => exact h.routeStep hallowed hstep
  | routeFin id payload => exact h.routeFin hallowed hstep
  | close reason => exact h.close hallowed hstep
  | closeStep => exact h.closeStep hstep
  | closeSweep j => exact h.closeSweep hstep
  | pollRead j size => exact h.pollRead hstep
  | pollClosed j => exact h.pollClosed hallowed hstep
  | openReturn j =>
    refine h.phase hstep hinv (by simp) (fun st hp _ => ?_) (fun _ _ _ _ => rfl)
    simp_all [SmuxStream.present]
  | openRefuse j =>
    refine h.phase hstep hinv (by simp) (fun st hp _ => ?_) (fun st hp _ hheld => ?_)
    · simp_all [SmuxStream.present]
    · simp [hheld] at hp
  | dropStream j =>
    refine h.phase hstep hinv (by simp) (fun st hp _ => ?_) (fun st hp hpoll _ => ?_)
    · simp_all [SmuxStream.present]
    · simp [hpoll] at hp
  | dropRelease j =>
    refine h.phase hstep hinv (by simp) (fun st hp hp' => ?_) (fun st hp _ hheld => ?_)
    · simp [SmuxStream.present] at hp'
    · simp [hheld] at hp
  | openWithdraw j =>
    refine h.move hstep hinv fun st hst hp hkept => ?_
    refine hkept.unlist rfl rfl rfl rfl rfl rfl rfl rfl rfl rfl (by simp) ?_
    exact hkept.polling_of_phase (by simp at hp; simp [hp])
  | dropRemove j =>
    refine h.move hstep hinv fun st hst hp hkept => ?_
    refine hkept.unlist rfl rfl rfl rfl rfl rfl rfl rfl rfl rfl (by simp) ?_
    exact hkept.polling_of_phase (by simp at hp; simp [hp])
  | pollThrottled j =>
    refine h.move hstep hinv fun st hst hp hkept => ?_
    simp only [Bool.and_eq_true, beq_iff_eq, Bool.not_eq_true'] at hp
    obtain ⟨⟨⟨hheld, -⟩, -⟩, hremainder⟩ := hp
    refine hkept.quiet rfl rfl rfl rfl rfl rfl rfl (fun hp => hp) rfl rfl rfl (fun hn => ?_)
      (fun _ => ⟨hheld, hremainder⟩)
    rw [show st.phase = .numbered from hn] at hheld
    cases hheld
  | openAdmit | pollWrite | pollShutdown | frameTaken | framesDropped | keepAlive | dieEnabled =>
    cases hstep

lemma new : (Inner.new.lane i).Sound i False False where
  inv := .new
  closed h := by cases h
  target j h := by
    unfold Inner.lane at h
    dsimp only at h
    split at h <;> cases h
  idle h := h.elim
  stops h := h
  dirty h := absurd rfl h
  stream _ h := by cases h

/-- The environment moves on. -/
lemma mono {stopped' good' : Prop} (h : v.Sound i stopped good) (hstopped : stopped → stopped')
    (hgood : good → good') (hstops : good' → stopped') (hidle : stopped' → v.router = .idle) :
    v.Sound i stopped' good' where
  inv := h.inv
  closed := h.closed
  target := h.target
  idle := hidle
  stops := hstops
  dirty hne hr := hstopped (h.dirty hne hr)
  stream st hst := (h.stream st hst).mono hstopped hgood

/-- **A clean end of file is complete.** It comes with FIN, or with the good end of the whole. -/
theorem clean_end (h : v.Sound i stopped good) (hst : v.stream = some st)
    (hp : st.present = true) (hreason : st.closeReason = some .clean) :
    st.finished v.routed = true ∧ st.returned = (st.addressed (beforeFin v.routed)).flatten ∨
      st.finished v.routed = false ∧ good ∧ st.returned = (st.addressed v.routed).flatten := by
  have hkept := h.stream st hst
  unfold SmuxStream.closeReason at hreason
  split at hreason
  · next hread =>
    obtain ⟨hqueue, hremainder, -⟩ := hkept.read hread
    have hcontent : st.content = st.returned := by simp [SmuxStream.content, hqueue, hremainder]
    have hslow : st.tag ≠ some .slowConsumer := fun ht => by simp [ht] at hreason
    have hdesync : st.tag ≠ some .desynchronised := fun ht => by simp [ht] at hreason
    rw [← hcontent]
    cases hfin : st.finished v.routed with
    | true => exact .inl ⟨rfl, hkept.cut hp hfin hslow⟩
    | false =>
      have hclean : v.closing.reason = some .clean := by
        rcases hkept.eof hread hp with hf | ht | ht | hr
        · simp [hfin] at hf
        · exact absurd ht hslow
        · exact absurd ht hdesync
        · exact hr
      cases hl : st.listed with
      | true =>
        have hgood := hkept.listed hl hclean
        have htarget : v.router.target = none := by rw [h.idle (h.stops hgood)]; rfl
        exact .inr ⟨rfl, hgood, h.inv.content_of_listed hst hl htarget⟩
      | false => exact .inr ⟨rfl, hkept.swept hp hl hfin hslow hclean⟩
  · cases hreason

end Lane.Sound

end SsmBridge.Smux
