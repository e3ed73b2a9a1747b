import SsmBridge.Properties.Lanes

/-!
# Streams are isolated

What a stream has returned, holds and has queued is what was addressed to it, up to the point where
it was cut off: by its consumer falling behind, by FIN, or by the end of the multiplexer
(`Lane.Fed`).  This is proved of the stream's lane, in which the other streams do not occur; and since
the lane's steps are a function, two runs that agree on the steps that concern the stream agree on
what it returned.
-/

namespace SsmBridge.Smux

open Machine

/-! ## What a stream holds -/

/-- The bytes a stream has returned, followed by those it holds. -/
def SmuxStream.content (st : SmuxStream) : Bytes :=
  st.returned ++ st.remainder.getD [] ++ st.queue.flatten

/-- The stream has an entry in the map, unless it was cut off. -/
def SmuxStream.present (st : SmuxStream) : Bool :=
  match st.phase with
  | .registered | .refused | .held | .dropping => true
  | .numbered | .failed | .removed | .dropped => false

/-- Of the frames with a stream's id, the PSH payloads since its entry was made. -/
def SmuxStream.addressed (st : SmuxStream) (routed : List Frame) : List Bytes :=
  ((routed.drop st.since).filter (fun f => f.cmd == cmdPsh)).map Frame.payload

/-- A FIN is among them. -/
def SmuxStream.finished (st : SmuxStream) (routed : List Frame) : Bool :=
  (routed.drop st.since).any (fun f => f.cmd == cmdFin)

variable {i : ℕ} {v v' : Lane} {st st' : SmuxStream} {taken : List Bytes} {l : Label}

/-- A read hands over the front of the remainder. -/
lemma content_serve_remainder {size : ℕ} {chunk : Bytes} (hrem : st.remainder = some chunk) :
    (st.serve size chunk).content = st.content := by
  simp only [SmuxStream.content, SmuxStream.serve, hrem]
  split
  · next hdrop =>
    have htake : chunk.take size = chunk := by simpa [hdrop] using List.take_append_drop size chunk
    simp [htake]
  · simp

/-- A read takes the next chunk off the queue. -/
lemma content_serve_queue {size : ℕ} {chunk : Bytes} {rest : List Bytes}
    (hrem : st.remainder = none) (hqueue : st.queue = chunk :: rest) :
    (({ st with queue := rest } : SmuxStream).serve size chunk).content = st.content := by
  have hcontent : ({ st with queue := rest, remainder := some chunk } : SmuxStream).content =
      st.content := by
    simp [SmuxStream.content, hrem, hqueue]
  have hserve : (SmuxStream.serve { st with queue := rest, remainder := some chunk } size chunk).content =
      _ := content_serve_remainder rfl
  exact hserve.trans hcontent

section

variable {routed : List Frame} {id : UInt32} {payload : Bytes}

lemma addressed_append_push (h : st.since ≤ routed.length) :
    st.addressed (routed ++ [⟨cmdPsh, id, payload⟩]) = st.addressed routed ++ [payload] := by
  simp [SmuxStream.addressed, List.drop_append_of_le_length h]

lemma addressed_append_fin (h : st.since ≤ routed.length) :
    st.addressed (routed ++ [⟨cmdFin, id, payload⟩]) = st.addressed routed := by
  simp [SmuxStream.addressed, List.drop_append_of_le_length h, cmdFin, cmdPsh]

lemma finished_append_fin (h : st.since ≤ routed.length) :
    st.finished (routed ++ [⟨cmdFin, id, payload⟩]) = true := by
  simp [SmuxStream.finished, List.drop_append_of_le_length h]

/-- A FIN that was routed stays routed. -/
lemma finished_append {f : Frame} (h : st.since ≤ routed.length)
    (hfin : st.finished routed = true) : st.finished (routed ++ [f]) = true := by
  simp only [SmuxStream.finished, List.drop_append_of_le_length h, List.any_append, Bool.or_eq_true]
  exact .inl hfin

end

/-- `taken` is what of the payloads addressed to the stream reached its queue. -/
structure Lane.Fed (v : Lane) (st : SmuxStream) (taken : List Bytes) : Prop where
  content : st.content = taken.flatten
  upTo : taken <+: st.addressed v.routed
  since : st.since ≤ v.routed.length
  /-- Nothing is missing as long as the entry is there and no routing is under way. -/
  listed : st.listed = true → v.router.target = none → taken = st.addressed v.routed
  /-- A payload on its way is the only one missing. -/
  sending : ∀ j id payload, v.router = .sending j id payload →
    st.addressed v.routed = taken ++ [payload]
  evicted : ∀ j id, v.router = .removing j id true → st.tag = some .slowConsumer
  gone : ∀ j id, v.router = .removing j id false → st.gone = true
  removed : ∀ j id, v.router = .replying (some j) id → st.listed = false
  numbered : st.phase = .numbered →
    st.listed = false ∧ v.router.target = none ∧ taken = []
  /-- What takes the entry out. -/
  present : st.present = true → st.listed = true ∨ st.finished v.routed = true ∨
    st.tag = some .slowConsumer ∨ v.closed = true

/-- The invariant of a lane. -/
structure Lane.Inv (i : ℕ) (v : Lane) : Prop where
  closing : v.closing ≠ .idle → v.closed = true
  count : v.stream = none ↔ v.count ≤ i
  absent : v.stream = none → v.router.target = none
  stream : ∀ st, v.stream = some st → ∃ taken, v.Fed st taken

lemma Lane.move_cases {p : SmuxStream → Bool} {f : SmuxStream → SmuxStream}
    (h : v.move p f = some v') :
    v' = v.update f ∧ ∃ st, v.stream = some st ∧ p st = true := by
  unfold Lane.move at h
  split at h <;> cases h
  next hany => exact ⟨rfl, (Option.any_eq_true _ _).mp hany⟩

lemma unlisted_of (hlisted : st'.listed = true → st.listed = true) (h : st.listed = false) :
    st'.listed = false := by
  by_contra hl
  simp [hlisted (by simpa using hl)] at h

namespace Lane.Fed

/-- A change of the stream that leaves what it holds alone, and does not put its entry back. -/
lemma of_stream {f : SmuxStream → SmuxStream} (h : v.Fed st taken) (hcontent : st'.content = st.content)
    (hsince : st'.since = st.since) (hlisted : st'.listed = true → st.listed = true)
    (htag : st.tag = some .slowConsumer → st'.tag = some .slowConsumer)
    (hgone : st.gone = true → st'.gone = true)
    (hphase : st'.phase = .numbered → st.phase = .numbered)
    (hpresent : st'.present = true → st'.listed = true ∨ st.finished v.routed = true ∨
      st'.tag = some .slowConsumer ∨ v.closed = true) :
    (v.update f).Fed st' taken where
  content := hcontent.trans h.content
  upTo := by
    rw [SmuxStream.addressed, hsince]
    exact h.upTo
  since := by
    rw [hsince]
    exact h.since
  listed hl := by
    rw [SmuxStream.addressed, hsince]
    exact h.listed (hlisted hl)
  sending := by
    rw [SmuxStream.addressed, hsince]
    exact h.sending
  evicted j id hr := htag (h.evicted j id hr)
  gone j id hr := hgone (h.gone j id hr)
  removed j id hr := unlisted_of hlisted (h.removed j id hr)
  numbered hn :=
    have ⟨hl, htarget, htaken⟩ := h.numbered (hphase hn)
    ⟨unlisted_of hlisted hl, htarget, htaken⟩
  present hp := by
    rw [SmuxStream.finished, hsince]
    exact hpresent hp

/-- What is said of a stream depends on its routing, its frames and the close flag. -/
lemma of_lane (h : v.Fed st taken) (hrouter : v'.router = v.router) (hrouted : v'.routed = v.routed)
    (hclosed : v.closed = true → v'.closed = true) : v'.Fed st taken where
  content := h.content
  upTo := hrouted ▸ h.upTo
  since := hrouted ▸ h.since
  listed := hrouter ▸ hrouted ▸ h.listed
  sending := hrouter ▸ hrouted ▸ h.sending
  evicted := hrouter ▸ h.evicted
  gone := hrouter ▸ h.gone
  removed := hrouter ▸ h.removed
  numbered := hrouter ▸ h.numbered
  present hp := by
    rw [hrouted]
    exact (h.present hp).imp_right (Or.imp_right (Or.imp_right hclosed))

/-- While no routing holds a sending half of the stream's queue. -/
lemma of_target (htarget : v.router.target = none) (hcontent : st.content = taken.flatten)
    (hupTo : taken <+: st.addressed v.routed) (hsince : st.since ≤ v.routed.length)
    (hlisted : st.listed = true → taken = st.addressed v.routed)
    (hnumbered : st.phase = .numbered → st.listed = false ∧ taken = [])
    (hpresent : st.present = true → st.listed = true ∨ st.finished v.routed = true ∨
      st.tag = some .slowConsumer ∨ v.closed = true) : v.Fed st taken where
  content := hcontent
  upTo := hupTo
  since := hsince
  listed hl _ := hlisted hl
  sending j id payload hr := by simp [hr, RouterPc.target] at htarget
  evicted j id hr := by simp [hr, RouterPc.target] at htarget
  gone j id hr := by simp [hr, RouterPc.target] at htarget
  removed j id hr := by simp [hr, RouterPc.target] at htarget
  numbered hn := ⟨(hnumbered hn).1, htarget, (hnumbered hn).2⟩
  present := hpresent

/-- A change that leaves the entry and the tag alone too. -/
lemma of_quiet {f : SmuxStream → SmuxStream} (h : v.Fed st taken) (hcontent : st'.content = st.content)
    (hsince : st'.since = st.since) (hlisted : st'.listed = st.listed) (htag : st'.tag = st.tag)
    (hgone : st.gone = true → st'.gone = true)
    (hphase : st'.phase = .numbered → st.phase = .numbered)
    (hpresent : st'.present = true → st.present = true) :
    (v.update f).Fed st' taken := by
  refine h.of_stream hcontent hsince (by simp [hlisted]) (by simp [htag]) hgone hphase fun hp => ?_
  rw [hlisted, htag]
  exact h.present (hpresent hp)

/-- A stream that a routing has found is not new. -/
lemma phase_ne (h : v.Fed st taken) {j : ℕ} (htarget : v.router.target = some j) :
    st.phase ≠ .numbered := by
  intro hn
  rw [(h.numbered hn).2.1] at htarget
  cases htarget

/-- A payload for the stream is on its way. -/
lemma found {id : UInt32} {payload : Bytes} (h : v.Fed st taken) (hl : st.listed = true)
    (htarget : v.router.target = none) :
    ((v.record ⟨cmdPsh, id, payload⟩).moveRouter (.sending i id payload)).Fed st taken where
  content := h.content
  upTo := by
    rw [Lane.moveRouter, Lane.record, addressed_append_push h.since]
    exact h.upTo.trans (List.prefix_append _ _)
  since := h.since.trans (by simp [Lane.moveRouter, Lane.record])
  listed _ ht := nomatch ht
  sending := by
    rintro j id' payload' hr
    cases hr
    rw [Lane.moveRouter, Lane.record, addressed_append_push h.since, h.listed hl htarget]
  evicted _ _ hr := nomatch hr
  gone _ _ hr := nomatch hr
  removed _ _ hr := nomatch hr
  numbered hn := by
    rw [(h.numbered hn).1] at hl
    cases hl
  present hp := (h.present hp).imp_right (Or.imp_left (finished_append h.since))

/-- The payload on its way is queued. -/
lemma queued {j : ℕ} {id : UInt32} {payload : Bytes} (h : v.Fed st taken)
    (hr : v.router = .sending j id payload) :
    ((v.update (fun st => { st with queue := st.queue ++ [payload] })).moveRouter .idle).Fed
      { st with queue := st.queue ++ [payload] } (taken ++ [payload]) := by
  have hadd := h.sending j id payload hr
  have hphase := h.phase_ne (j := j) (by rw [hr]; rfl)
  refine .of_target rfl ?_ ?_ h.since (fun _ => ?_) (fun hn => absurd hn hphase) h.present
  · have hcontent := h.content
    simp only [SmuxStream.content] at hcontent ⊢
    simp [← hcontent]
  · show _ <+: st.addressed v.routed
    simp only [hadd, List.prefix_rfl]
  · exact hadd.symm

/-- The payload on its way is refused: the routing goes on without it. -/
lemma refused {r : RouterPc} {j : ℕ} {id : UInt32} {payload : Bytes} (h : v.Fed st taken)
    (hr : v.router = .sending j id payload)
    (hnew : (r = .removing j id false ∧ st.gone = true) ∨ r = .evicting j id) :
    (v.moveRouter r).Fed st taken where
  content := h.content
  upTo := h.upTo
  since := h.since
  listed _ ht := by
    obtain ⟨rfl, -⟩ | rfl := hnew <;> cases ht
  sending j id payload hr' := by
    obtain ⟨rfl, -⟩ | rfl := hnew <;> cases hr'
  evicted j id hr' := by
    obtain ⟨rfl, -⟩ | rfl := hnew <;> cases hr'
  gone j id hr' := by
    obtain ⟨rfl, hgone⟩ | rfl := hnew
    · exact hgone
    · cases hr'
  removed j id hr' := by
    obtain ⟨rfl, -⟩ | rfl := hnew <;> cases hr'
  numbered hn := absurd hn (h.phase_ne (j := j) (by rw [hr]; rfl))
  present := h.present

/-- The stream is tagged for its eviction. -/
lemma tagged {j : ℕ} {id : UInt32} (h : v.Fed st taken) (hr : v.router = .evicting j id) :
    ((v.update (fun st => { st with tag := some .slowConsumer })).moveRouter
      (.removing j id true)).Fed { st with tag := some .slowConsumer } taken where
  content := h.content
  upTo := h.upTo
  since := h.since
  listed _ ht := nomatch ht
  sending _ _ _ hr' := nomatch hr'
  evicted _ _ _ := rfl
  gone _ _ hr' := nomatch hr'
  removed _ _ hr' := nomatch hr'
  numbered hn := absurd hn (h.phase_ne (j := j) (by rw [hr]; rfl))
  present _ := .inr (.inr (.inl rfl))

/-- The entry is taken out at the end of a routing. -/
lemma unlisted {j : ℕ} {id : UInt32} {evicted : Bool} (h : v.Fed st taken)
    (hr : v.router = .removing j id evicted) :
    ((v.update (fun st => { st with listed := false })).moveRouter
      (if evicted then .replying (some j) id else .idle)).Fed { st with listed := false } taken where
  content := h.content
  upTo := h.upTo
  since := h.since
  listed hl := nomatch hl
  sending _ _ _ hr' := by cases evicted <;> cases hr'
  evicted _ _ hr' := by cases evicted <;> cases hr'
  gone _ _ hr' := by cases evicted <;> cases hr'
  removed _ _ _ := rfl
  numbered hn := absurd hn (h.phase_ne (j := j) (by rw [hr]; rfl))
  present hp := by
    cases evicted with
    | true => exact .inr (.inr (.inl (h.evicted j id hr)))
    | false =>
      have hgone := h.gone j id hr
      simp only [SmuxStream.present] at hp
      simp only [SmuxStream.gone] at hgone
      split at hgone <;> simp_all

/-- The routing is over. -/
lemma replied {found : Option ℕ} {id : UInt32} (h : v.Fed st taken)
    (hr : v.router = .replying found id) : (v.moveRouter .idle).Fed st taken := by
  refine .of_target rfl h.content h.upTo h.since (fun hl => ?_)
    (fun hn => ⟨(h.numbered hn).1, (h.numbered hn).2.2⟩) h.present
  cases found with
  | none => exact h.listed hl (by rw [hr]; rfl)
  | some j =>
    rw [h.removed j id hr] at hl
    cases hl

end Lane.Fed

/-- The invariant of a lane whose stream was changed. -/
lemma Lane.Inv.update {f : SmuxStream → SmuxStream} (hinv : v.Inv i)
    (h : ∀ st, v.stream = some st → ∃ taken, (v.update f).Fed (f st) taken) :
    (v.update f).Inv i where
  closing := hinv.closing
  count := by
    rw [show (v.update f).count = v.count from rfl, ← hinv.count]
    simp [Lane.update]
  absent hnone := hinv.absent (by simpa [Lane.update] using hnone)
  stream st hst := by
    obtain ⟨st', hst', rfl⟩ := Option.map_eq_some_iff.mp hst
    exact h st' hst'

namespace Lane.Inv

lemma openNumber (hinv : v.Inv i) (h : v.step i .openNumber = some v') : v'.Inv i := by
  cases h
  refine ⟨hinv.closing, ?_, ?_, ?_⟩
  · dsimp only
    split
    · next hi => simp [hi]
    · next hi =>
      rw [hinv.count]
      omega
  · dsimp only
    split
    · intro hnone
      cases hnone
    · exact hinv.absent
  · dsimp only
    split
    · next hi =>
      intro st hst
      cases hst
      have hrouter := hinv.absent (hinv.count.mpr (by omega))
      refine ⟨[], .of_target hrouter rfl List.nil_prefix (Nat.zero_le _) ?_ (fun _ => ⟨rfl, rfl⟩) ?_⟩
      · intro hl
        cases hl
      · intro hp
        cases hp
    · intro st hst
      obtain ⟨taken, h⟩ := hinv.stream st hst
      exact ⟨taken, ⟨h.content, h.upTo, h.since, h.listed, h.sending, h.evicted, h.gone, h.removed,
        h.numbered, h.present⟩⟩

lemma openRegister {j : ℕ} (hinv : v.Inv i) (h : v.step i (.openRegister j) = some v') :
    v'.Inv i := by
  obtain ⟨rfl, st, hst, hp⟩ := Lane.move_cases h
  refine hinv.update fun st' hst' => ?_
  rw [hst] at hst'
  cases hst'
  obtain ⟨taken, hfed⟩ := hinv.stream st hst
  obtain ⟨-, htarget, rfl⟩ := hfed.numbered (by simpa using hp)
  refine ⟨[], .of_target htarget hfed.content List.nil_prefix le_rfl ?_ ?_ (fun _ => .inl rfl)⟩
  · simp [SmuxStream.addressed, Lane.update]
  · intro hn
    cases hn

/-- A step that changes the phase or the flags of the stream. -/
lemma quiet {p : SmuxStream → Bool} {f : SmuxStream → SmuxStream} (hinv : v.Inv i)
    (h : v.move p f = some v') (hcontent : ∀ st, (f st).content = st.content)
    (hsince : ∀ st, (f st).since = st.since) (hlisted : ∀ st, (f st).listed = st.listed)
    (htag : ∀ st, (f st).tag = st.tag)
    (hgone : ∀ st, p st = true → st.gone = true → (f st).gone = true)
    (hphase : ∀ st, p st = true → (f st).phase = .numbered → st.phase = .numbered)
    (hpresent : ∀ st, p st = true → (f st).present = true → st.present = true) : v'.Inv i := by
  obtain ⟨rfl, st, hst, hp⟩ := Lane.move_cases h
  refine hinv.update fun st' hst' => ?_
  rw [hst] at hst'
  cases hst'
  obtain ⟨taken, hfed⟩ := hinv.stream st hst
  exact ⟨taken, hfed.of_quiet (hcontent st) (hsince st) (hlisted st) (htag st) (hgone st hp)
    (hphase st hp) (hpresent st hp)⟩

/-- A step that takes the entry out for good. -/
lemma unlist {p : SmuxStream → Bool} {f : SmuxStream → SmuxStream} (hinv : v.Inv i)
    (h : v.move p f = some v') (hcontent : ∀ st, (f st).content = st.content)
    (hsince : ∀ st, (f st).since = st.since) (hlisted : ∀ st, (f st).listed = false)
    (htag : ∀ st, (f st).tag = st.tag)
    (hgone : ∀ st, p st = true → st.gone = true → (f st).gone = true)
    (hphase : ∀ st, p st = true → (f st).phase = .numbered → st.phase = .numbered)
    (hpresent : ∀ st, p st = true → (f st).present = false) : v'.Inv i := by
  obtain ⟨rfl, st, hst, hp⟩ := Lane.move_cases h
  refine hinv.update fun st' hst' => ?_
  rw [hst] at hst'
  cases hst'
  obtain ⟨taken, hfed⟩ := hinv.stream st hst
  refine ⟨taken, hfed.of_stream (hcontent st) (hsince st) ?_ ?_ (hgone st hp) (hphase st hp) ?_⟩
  · simp [hlisted st]
  · simp [htag st]
  · simp [hpresent st hp]

lemma routePush {id : UInt32} {payload : Bytes} (hinv : v.Inv i)
    (h : v.step i (.routePush id payload) = some v') : v'.Inv i := by
  simp only [Lane.step] at h
  split at h <;> cases h
  next hidle =>
  have htarget : v.router.target = none := by rw [hidle]; rfl
  refine ⟨hinv.closing, hinv.count, fun hnone => ?_, fun st hst => ?_⟩
  · have hunlisted : v.listed = false := by
      have hstream : v.stream = none := hnone
      simp [Lane.listed, hstream]
    rw [hunlisted]
    rfl
  · have hst' : v.stream = some st := hst
    obtain ⟨taken, hfed⟩ := hinv.stream st hst'
    have hadd : st.addressed (v.routed ++ [⟨cmdPsh, id, payload⟩]) =
        st.addressed v.routed ++ [payload] := addressed_append_push hfed.since
    have hsince : st.since ≤ (v.routed ++ [(⟨cmdPsh, id, payload⟩ : Frame)]).length :=
      hfed.since.trans (by simp)
    have hpresent : st.present = true → st.listed = true ∨
        st.finished (v.routed ++ [⟨cmdPsh, id, payload⟩]) = true ∨
        st.tag = some .slowConsumer ∨ v.closed = true := fun hp =>
      (hfed.present hp).imp_right (Or.imp_left (finished_append hfed.since))
    cases hl : st.listed with
    | false =>
      have hlisted : v.listed = false := by simp [Lane.listed, hst', hl]
      rw [hlisted]
      refine ⟨taken, .of_target rfl hfed.content ?_ hsince (by simp [hl]) ?_ hpresent⟩
      · rw [Lane.moveRouter, Lane.record, hadd]
        exact hfed.upTo.trans (List.prefix_append _ _)
      · exact fun hn => ⟨hl, (hfed.numbered hn).2.2⟩
    | true =>
      have hlisted : v.listed = true := by simp [Lane.listed, hst', hl]
      rw [hlisted]
      exact ⟨taken, hfed.found hl htarget⟩

/-- A FIN is recorded; it adds nothing to what was addressed to the stream. -/
lemma recordFin {id : UInt32} {payload : Bytes} (hinv : v.Inv i) (hidle : v.router = .idle) :
    (v.record ⟨cmdFin, id, payload⟩).Inv i := by
  have htarget : v.router.target = none := by rw [hidle]; rfl
  refine ⟨hinv.closing, hinv.count, hinv.absent, fun st hst => ?_⟩
  obtain ⟨taken, hfed⟩ := hinv.stream st hst
  have hadd : st.addressed (v.routed ++ [⟨cmdFin, id, payload⟩]) = st.addressed v.routed :=
    addressed_append_fin hfed.since
  refine ⟨taken, .of_target htarget hfed.content ?_ (hfed.since.trans (by simp [Lane.record])) ?_
    (fun hn => ⟨(hfed.numbered hn).1, (hfed.numbered hn).2.2⟩)
    (fun _ => .inr (.inl (finished_append_fin hfed.since)))⟩
  · rw [Lane.record, hadd]
    exact hfed.upTo
  · intro hl
    rw [Lane.record, hadd]
    exact hfed.listed hl htarget

lemma routeFin {id : UInt32} {payload : Bytes} (hinv : v.Inv i)
    (h : v.step i (.routeFin id payload) = some v') : v'.Inv i := by
  simp only [Lane.step] at h
  split at h <;> cases h
  next hidle =>
  refine (hinv.recordFin hidle).update fun st hst => ?_
  obtain ⟨taken, hfed⟩ := (hinv.recordFin hidle).stream st hst
  obtain ⟨taken₀, hfed₀⟩ := hinv.stream st hst
  have hfin : st.finished (v.record ⟨cmdFin, id, payload⟩).routed = true :=
    finished_append_fin hfed₀.since
  refine ⟨taken, ?_⟩
  cases hl : st.listed with
  | false => exact hfed.of_lane rfl rfl (fun h => h)
  | true =>
    refine hfed.of_stream rfl rfl (fun _ => hl) (fun htag => ?_) (fun h => h) (fun h => h)
      (fun _ => .inr (.inl hfin))
    simp [SmuxStream.close, htag]

/-- The routing moves on: only what is said of the routing has to be shown again. -/
lemma moveRouter {r : RouterPc} (hinv : v.Inv i) (habsent : v.stream = none → r.target = none)
    (h : ∀ st taken, v.stream = some st → v.Fed st taken → ∃ taken, (v.moveRouter r).Fed st taken) :
    (v.moveRouter r).Inv i where
  closing := hinv.closing
  count := hinv.count
  absent := habsent
  stream st hst := by
    obtain ⟨taken, hfed⟩ := hinv.stream st hst
    exact h st taken hst hfed

/-- The routing moves on and changes the stream that it had found. -/
lemma reroute {f : SmuxStream → SmuxStream} {r : RouterPc} {j : ℕ} (hinv : v.Inv i)
    (htarget : v.router.target = some j)
    (h : ∀ st taken, v.Fed st taken → ∃ taken, ((v.update f).moveRouter r).Fed (f st) taken) :
    ((v.update f).moveRouter r).Inv i where
  closing := hinv.closing
  count := by
    rw [show ((v.update f).moveRouter r).count = v.count from rfl, ← hinv.count]
    simp [Lane.moveRouter, Lane.update]
  absent hnone := by
    rw [hinv.absent (by simpa [Lane.moveRouter, Lane.update] using hnone)] at htarget
    cases htarget
  stream st hst := by
    obtain ⟨st', hst', rfl⟩ := Option.map_eq_some_iff.mp hst
    obtain ⟨taken, hfed⟩ := hinv.stream st' hst'
    exact h st' taken hfed

lemma routeStep {id : UInt32} (hinv : v.Inv i) (h : v.step i (.routeStep id) = some v') :
    v'.Inv i := by
  simp only [Lane.step, Lane.routeStep] at h
  split at h
  · next j id payload st hr hst =>
    have hrefused : ∀ r, (r = .removing j id false ∧ st.gone = true) ∨ r = .evicting j id →
        (v.moveRouter r).Inv i := by
      intro r hnew
      refine hinv.moveRouter (fun hnone => by simp [hst] at hnone) fun st' taken hst' hfed => ?_
      rw [hst] at hst'
      cases hst'
      exact ⟨taken, hfed.refused hr hnew⟩
    split at h
    · next hgone =>
      cases h
      exact hrefused _ (.inl ⟨rfl, hgone⟩)
    · split at h <;> cases h
      · exact hrefused _ (.inr rfl)
      · exact hinv.reroute (by rw [hr]; rfl) fun st taken hfed => ⟨_, hfed.queued hr⟩
  · next j id hr =>
    cases h
    exact hinv.reroute (by rw [hr]; rfl) fun st taken hfed => ⟨taken, hfed.tagged hr⟩
  · next j id evicted hr =>
    cases h
    exact hinv.reroute (by rw [hr]; rfl) fun st taken hfed => ⟨taken, hfed.unlisted hr⟩
  · next found id hr =>
    cases h
    exact hinv.moveRouter (fun _ => rfl) fun st taken _ hfed => ⟨taken, hfed.replied hr⟩
  · cases h

lemma close {reason : StreamCloseReason} (hinv : v.Inv i)
    (h : v.step i (.close reason) = some v') : v'.Inv i := by
  simp only [Lane.step] at h
  split at h <;> cases h
  · exact hinv
  · refine ⟨fun _ => rfl, hinv.count, hinv.absent, fun st hst => ?_⟩
    obtain ⟨taken, hfed⟩ := hinv.stream st hst
    exact ⟨taken, hfed.of_lane rfl rfl (fun _ => rfl)⟩

/-- The close moves on. -/
lemma moveClose {pc : ClosePc} (hinv : v.Inv i) (hclosed : v.closed = true) :
    ({ v with closing := pc } : Lane).Inv i where
  closing _ := hclosed
  count := hinv.count
  absent := hinv.absent
  stream st hst := by
    obtain ⟨taken, hfed⟩ := hinv.stream st hst
    exact ⟨taken, hfed.of_lane rfl rfl (fun h => h)⟩

/-- Once the flag is up, entries may go and streams be tagged. -/
lemma swept {f : SmuxStream → SmuxStream} (hinv : v.Inv i) (hclosed : v.closed = true)
    (hcontent : ∀ st, (f st).content = st.content) (hsince : ∀ st, (f st).since = st.since)
    (hlisted : ∀ st, (f st).listed = true → st.listed = true)
    (htag : ∀ st, st.tag = some .slowConsumer → (f st).tag = some .slowConsumer)
    (hphase : ∀ st, (f st).phase = st.phase) : (v.update f).Inv i := by
  refine hinv.update fun st hst => ?_
  obtain ⟨taken, hfed⟩ := hinv.stream st hst
  refine ⟨taken, hfed.of_stream (hcontent st) (hsince st) (hlisted st) (htag st) ?_ ?_ ?_⟩
  · exact fun h => by simpa only [SmuxStream.gone, hphase] using h
  · rw [hphase]
    exact fun h => h
  · exact fun _ => .inr (.inr (.inr hclosed))

lemma closeStep (hinv : v.Inv i) (h : v.step i .closeStep = some v') : v'.Inv i := by
  simp only [Lane.step, Lane.closeStep] at h
  split at h
  · next r hr =>
    cases h
    exact hinv.moveClose (hinv.closing (by simp [hr]))
  · next r hr =>
    cases h
    exact hinv.moveClose (hinv.closing (by simp [hr]))
  · next r hr =>
    split at h <;> cases h
    have hclosed := hinv.closing (by simp [hr])
    have hswept : (v.update (fun st => { st with listed := false })).Inv i := by
      refine hinv.swept hclosed (fun _ => rfl) (fun _ => rfl) ?_ (fun _ h => h) (fun _ => rfl)
      intro st hl
      cases hl
    exact hswept.moveClose hclosed
  · cases h
  · cases h

lemma closeSweep {j : ℕ} (hinv : v.Inv i) (h : v.step i (.closeSweep j) = some v') : v'.Inv i := by
  simp only [Lane.step, Lane.closeSweep] at h
  split at h
  · next r hr =>
    obtain ⟨rfl, -⟩ := Lane.move_cases h
    refine hinv.swept (hinv.closing (by simp [hr])) (fun _ => rfl) (fun _ => rfl) (fun _ h => h) ?_
      (fun _ => rfl)
    intro st htag
    simp [SmuxStream.close, htag]
  · cases h

/-- A read of what the stream holds. -/
lemma served {f : SmuxStream → SmuxStream} (hinv : v.Inv i) (hst : v.stream = some st)
    (hcontent : (f st).content = st.content)
    (hsince : (f st).since = st.since) (hlisted : (f st).listed = st.listed)
    (htag : (f st).tag = st.tag) (hphase : (f st).phase = st.phase) : (v.update f).Inv i := by
  refine hinv.update fun st' hst' => ?_
  rw [hst] at hst'
  cases hst'
  obtain ⟨taken, hfed⟩ := hinv.stream st hst
  refine ⟨taken, hfed.of_quiet hcontent hsince hlisted htag ?_ ?_ ?_⟩
  · exact fun h => by simpa only [SmuxStream.gone, hphase] using h
  · rw [hphase]
    exact fun h => h
  · exact fun h => by simpa only [SmuxStream.present, hphase] using h

lemma pollRead {j size : ℕ} (hinv : v.Inv i) (h : v.step i (.pollRead j size) = some v') :
    v'.Inv i := by
  simp only [Lane.step, Lane.pollRead] at h
  split at h
  · next st hst =>
    split at h
    · cases h
    · split at h
      · cases h
        exact hinv
      · split at h
        · next chunk hrem =>
          cases h
          exact hinv.served hst (content_serve_remainder hrem) rfl rfl rfl rfl
        · next chunk rest hrem hqueue =>
          cases h
          exact hinv.served hst (content_serve_queue hrem hqueue) rfl rfl rfl rfl
        · split at h <;> cases h <;> exact hinv.served hst rfl rfl rfl rfl rfl
  · cases h

/-- **What a step of a lane preserves.** One case for each step of the multiplexer, seen from a
single stream. -/
theorem step (hinv : v.Inv i) (h : v.step i l = some v') : v'.Inv i := by
  cases l with
  | openNumber => exact hinv.openNumber h
  | openRegister j => exact hinv.openRegister h
  | routePush id payload => exact hinv.routePush h
  | routeStep id => exact hinv.routeStep h
  | routeFin id payload => exact hinv.routeFin h
  | close reason => exact hinv.close h
  | closeStep => exact hinv.closeStep h
  | closeSweep j => exact hinv.closeSweep h
  | pollRead j size => exact hinv.pollRead h
  | openReturn j =>
    refine hinv.quiet h (fun _ => rfl) (fun _ => rfl) (fun _ => rfl) (fun _ => rfl) ?_ ?_ ?_ <;>
      simp +contextual [SmuxStream.gone, SmuxStream.present]
  | openRefuse j =>
    refine hinv.quiet h (fun _ => rfl) (fun _ => rfl) (fun _ => rfl) (fun _ => rfl) ?_ ?_ ?_ <;>
      simp +contextual [SmuxStream.gone, SmuxStream.present]
  | pollThrottled j =>
    refine hinv.quiet h (fun _ => rfl) (fun _ => rfl) (fun _ => rfl) (fun _ => rfl) ?_ ?_ ?_ <;>
      simp +contextual [SmuxStream.gone, SmuxStream.present]
  | pollClosed j =>
    refine hinv.quiet h (fun _ => rfl) (fun _ => rfl) (fun _ => rfl) (fun _ => rfl) ?_ ?_ ?_ <;>
      simp +contextual [SmuxStream.gone, SmuxStream.present]
  | dropStream j =>
    refine hinv.quiet h (fun _ => rfl) (fun _ => rfl) (fun _ => rfl) (fun _ => rfl) ?_ ?_ ?_ <;>
      simp +contextual [SmuxStream.gone, SmuxStream.present]
  | dropRelease j =>
    refine hinv.quiet h (fun _ => rfl) (fun _ => rfl) (fun _ => rfl) (fun _ => rfl) ?_ ?_ ?_ <;>
      simp +contextual [SmuxStream.gone, SmuxStream.present]
  | openWithdraw j =>
    refine hinv.unlist h (fun _ => rfl) (fun _ => rfl) (fun _ => rfl) (fun _ => rfl) ?_ ?_ ?_ <;>
      simp +contextual [SmuxStream.gone, SmuxStream.present]
  | dropRemove j =>
    refine hinv.unlist h (fun _ => rfl) (fun _ => rfl) (fun _ => rfl) (fun _ => rfl) ?_ ?_ ?_ <;>
      simp +contextual [SmuxStream.gone, SmuxStream.present]
  | openAdmit | pollWrite | pollShutdown | frameTaken | framesDropped | keepAlive | dieEnabled =>
    cases h

lemma new : (Inner.new.lane i).Inv i where
  closing h := absurd rfl h
  count := by simp [Inner.lane, Inner.new]
  absent _ := by
    unfold Inner.lane
    split <;> rfl
  stream _ h := nomatch h

end Lane.Inv

/-! ## The streams of the multiplexer -/

section

variable {σ σ' : Inner}

lemma length_le_of_step (h : σ.step l = some σ') (hlen : σ'.streams.length ≤ idCount) :
    σ.streams.length ≤ idCount :=
  (moved_of_step h).length_le.trans hlen

/-- The invariant holds of every lane, as long as ids are not reused. -/
lemma laneInv_of_reachable (h : Reachable Inner.step free .new σ) (hi : i < idCount)
    (hlen : σ.streams.length ≤ idCount) : (σ.lane i).Inv i := by
  refine h.invariant_with (P := fun σ => σ.streams.length ≤ idCount → (σ.lane i).Inv i)
    (fun _ => Inner.Numbered.of_reachable) (fun _ => .new) ?_ hlen
  intro s l s' hn hinv hstep _ hlen'
  have hlen := length_le_of_step hstep hlen'
  have hmoves := lane_step hn hlen hi hstep
  unfold MovesLane at hmoves
  split at hmoves
  · exact (hinv hlen).step hmoves
  · rw [hmoves]
    exact hinv hlen

/-- The payload that is on its way to the streams with this id. -/
def Inner.underWay (σ : Inner) (id : UInt32) : List Bytes :=
  match σ.router with
  | .sending _ id' payload => if id' = id then [payload] else []
  | _ => []

/-- The stream has been evicted, or is about to be tagged for it. -/
def Inner.evicted (σ : Inner) (st : SmuxStream) : Bool :=
  st.tag == some .slowConsumer ||
    match σ.router with
    | .evicting _ id => id == st.id
    | _ => false

/-- An entry that nothing took out is in the map. -/
lemma Lane.Fed.listed_of_held (h : v.Fed st taken) (hheld : st.phase = .held)
    (htag : st.tag ≠ some .slowConsumer) (hfinished : st.finished v.routed = false)
    (hclosed : v.closed = false) : st.listed = true := by
  rcases h.present (by simp [SmuxStream.present, hheld]) with hl | hf | ht | hc
  · exact hl
  · simp [hf] at hfinished
  · exact absurd ht htag
  · simp [hc] at hclosed

/-- Nothing is missing at a stream that was not cut off. -/
lemma Lane.Fed.complete (h : (σ.lane i).Fed st taken) (hid : st.id = idOf i)
    (hheld : st.phase = .held) (hevicted : σ.evicted st = false)
    (hfinished : st.finished (σ.routedTo (idOf i)) = false) (hclosed : σ.closed = false) :
    taken ++ σ.underWay (idOf i) = st.addressed (σ.routedTo (idOf i)) := by
  simp only [Inner.evicted, Bool.or_eq_false_iff, beq_eq_false_iff_ne, hid] at hevicted
  obtain ⟨htag, hrouter⟩ := hevicted
  have hlisted := h.listed_of_held hheld htag hfinished hclosed
  by_cases hr : σ.router.id? = some (idOf i)
  · have hlane : (σ.lane i).router = σ.router := if_pos hr
    -- The routing is of a frame for this stream: it has found the stream, or found none.
    cases hpc : σ.router with
    | idle => simp [hpc, RouterPc.id?] at hr
    | sending j id payload =>
      rw [hpc] at hr hlane
      cases hr
      simp only [Inner.underWay, hpc, if_true]
      exact (h.sending j _ payload hlane).symm
    | evicting j id =>
      rw [hpc] at hr hrouter
      cases hr
      simp at hrouter
    | removing j id evicted =>
      rw [hpc] at hlane
      cases evicted with
      | true => exact absurd (h.evicted j id hlane) htag
      | false => simpa [SmuxStream.gone, hheld] using h.gone j id hlane
    | replying found id =>
      rw [hpc] at hlane
      simp only [Inner.underWay, hpc, List.append_nil]
      cases found with
      | none => exact h.listed hlisted (by rw [hlane]; rfl)
      | some j => simp [h.removed j id hlane] at hlisted
  · have hlane : (σ.lane i).router = .idle := if_neg hr
    have hnone : σ.underWay (idOf i) = [] := by
      unfold Inner.underWay
      split
      · next j id payload hpc =>
        rw [if_neg]
        simpa [hpc, RouterPc.id?] using hr
      · rfl
    rw [hnone, List.append_nil]
    exact h.listed hlisted (by rw [hlane]; rfl)

/-- Equal lanes of equal streams: the lane is a function of the steps that concern it. -/
lemma lane_eq_of_runs {ls ls' : List Label} (hrun : run Inner.step .new ls = some σ)
    (hrun' : run Inner.step .new ls' = some σ') (hlen : σ.streams.length ≤ idCount)
    (hlen' : σ'.streams.length ≤ idCount) (hi : i < idCount)
    (hls : ls.filter (Label.concerns i) = ls'.filter (Label.concerns i)) : σ.lane i = σ'.lane i := by
  have hmoves : ∀ s l s', GoodStep Inner.step .new (fun σ => σ.streams.length ≤ idCount) s l s' →
      MovesLane i s l s' := fun s l s' h =>
    lane_step (.of_reachable h.reachable) h.before hi h.step
  have hother : ∀ s l s', GoodStep Inner.step .new (fun σ => σ.streams.length ≤ idCount) s l s' →
      l.concerns i = false → s'.lane i = s.lane i := by
    intro s l s' hstep hl
    have h := hmoves s l s' hstep
    rwa [MovesLane, hl] at h
  have hsame : ∀ s t l s' t', GoodStep Inner.step .new (fun σ => σ.streams.length ≤ idCount) s l s' →
      GoodStep Inner.step .new (fun σ => σ.streams.length ≤ idCount) t l t' →
      l.concerns i = true → s.lane i = t.lane i → s'.lane i = t'.lane i := by
    intro s t l s' t' hs ht hl hview
    have h := hmoves s l s' hs
    have h' := hmoves t l t' ht
    rw [MovesLane, hl, if_pos rfl] at h h'
    rw [hview, h'] at h
    exact (Option.some.inj h).symm
  exact view_eq_of_runs (fun _ _ _ => length_le_of_step) hother hsame hrun hrun' hlen hlen' hls

/-- **Streams are isolated.** What a stream has returned, holds and has queued are the payloads
addressed to it, up to the point where it was cut off; and two runs that agree on the steps that
concern it agree on what it returned. -/
theorem streams_isolated {ls : List Label} (hrun : run Inner.step .new ls = some σ)
    (hids : σ.streams.length < 2 ^ 31) (hst : σ.streams[i]? = some st) :
    (∃ taken, taken <+: st.addressed (σ.routedTo st.id) ∧ st.content = taken.flatten ∧
      (st.phase = .held → σ.evicted st = false → st.finished (σ.routedTo st.id) = false →
        σ.closed = false → taken ++ σ.underWay st.id = st.addressed (σ.routedTo st.id))) ∧
    ∀ ls' σ', run Inner.step .new ls' = some σ' → σ'.streams.length < 2 ^ 31 →
      ls'.filter (Label.concerns i) = ls.filter (Label.concerns i) →
      ∃ st', σ'.streams[i]? = some st' ∧ st'.returned = st.returned := by
  have hreach : Reachable Inner.step free .new σ := Reachable.refl.of_run hrun
  have hi : i < idCount := (List.getElem?_eq_some_iff.mp hst).1.trans hids
  have hid : st.id = idOf i := (Inner.Numbered.of_reachable hreach).stream i st hst
  refine ⟨?_, fun ls' σ' hrun' hids' hls => ?_⟩
  · obtain ⟨taken, hfed⟩ := (laneInv_of_reachable hreach hi hids.le).stream _ (Inner.lane_stream hst)
    rw [hid]
    exact ⟨taken, hfed.upTo, hfed.content, hfed.complete hid⟩
  · have hlane := lane_eq_of_runs hrun' hrun hids'.le hids.le hi hls
    have hstream := Inner.lane_stream hst
    rw [← hlane] at hstream
    obtain ⟨st', hst', heq⟩ := Option.map_eq_some_iff.mp hstream
    exact ⟨st', hst', by rw [← st'.returned_readHalf, heq, st.returned_readHalf]⟩

/-- Two streams are opened, and each is sent a frame; the first reads two bytes of its own. -/
theorem streams_isolated_two :
    ∃ σ σ' st st', run Inner.step .new
      [.openAdmit, .openNumber, .openRegister 0, .openReturn 0, .openAdmit, .openNumber,
        .openRegister 1, .openReturn 1, .routePush 3 [9], .routeStep 3, .routePush 1 [1, 2, 3],
        .routeStep 1, .pollRead 0 2] = some σ ∧
      run Inner.step .new
        [.openAdmit, .openNumber, .openRegister 0, .openReturn 0, .openAdmit, .openNumber,
          .openRegister 1, .openReturn 1, .dropStream 1, .routePush 1 [1, 2, 3], .routeStep 1,
          .pollRead 0 2] = some σ' ∧
      σ.streams[0]? = some st ∧ st.returned = [1, 2] ∧
      (∃ taken, taken <+: st.addressed (σ.routedTo st.id) ∧ st.content = taken.flatten ∧
        taken = st.addressed (σ.routedTo st.id)) ∧
      σ'.streams[0]? = some st' ∧ st'.returned = st.returned := by
  have hrun : (run Inner.step .new
      [.openAdmit, .openNumber, .openRegister 0, .openReturn 0, .openAdmit, .openNumber,
        .openRegister 1, .openReturn 1, .routePush 3 [9], .routeStep 3, .routePush 1 [1, 2, 3],
        .routeStep 1, .pollRead 0 2]).any (fun σ => decide (σ.streams.length < 2 ^ 31) &&
      !σ.closed && decide (σ.router = .idle) && (σ.streams[0]?).any (fun st =>
        decide (st.returned = [1, 2] ∧ st.phase = .held ∧ σ.evicted st = false ∧
          st.finished (σ.routedTo st.id) = false))) = true := by decide +kernel
  have hrun' : (run Inner.step .new
      [.openAdmit, .openNumber, .openRegister 0, .openReturn 0, .openAdmit, .openNumber,
        .openRegister 1, .openReturn 1, .dropStream 1, .routePush 1 [1, 2, 3], .routeStep 1,
        .pollRead 0 2]).any (fun σ => decide (σ.streams.length < 2 ^ 31)) = true := by decide +kernel
  obtain ⟨σ, hσ, hp⟩ := (Option.any_eq_true _ _).mp hrun
  obtain ⟨σ', hσ', hp'⟩ := (Option.any_eq_true _ _).mp hrun'
  simp only [Bool.and_eq_true, decide_eq_true_eq, Bool.not_eq_true'] at hp hp'
  obtain ⟨⟨⟨hids, hclosed⟩, hidle⟩, hstream⟩ := hp
  obtain ⟨st, hst, hst'⟩ := (Option.any_eq_true _ _).mp hstream
  simp only [decide_eq_true_eq] at hst'
  obtain ⟨hreturned, hheld, hevicted, hfinished⟩ := hst'
  obtain ⟨⟨taken, hupTo, hcontent, hall⟩, hother⟩ := streams_isolated hσ hids hst
  obtain ⟨st', hst', hsame⟩ := hother _ _ hσ' hp' (by decide)
  have htaken := hall hheld hevicted hfinished hclosed
  rw [Inner.underWay, hidle, List.append_nil] at htaken
  exact ⟨σ, σ', st, st', hσ, hσ', hst, hreturned, ⟨taken, hupTo, hcontent, htaken⟩, hst', hsame⟩

end

end SsmBridge.Smux
