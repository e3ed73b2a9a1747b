import SsmBridge.Properties.Lanes

/-!
# Stream ids

Ids are drawn from a 32-bit counter that advances by two and wraps, so the same id is drawn again
after `2 ^ 31` draws; nothing asks whether the stream that has it is still there.  The map is keyed
by id alone: then inserting the new entry replaces the old one, and dropping either stream takes
out whatever entry is there.

`KeepsApart` is what a step must not do to streams with equal ids.  `live_streams_keep_apart` says
that every run keeps to it in which no stream outlives `2 ^ 31` draws, and `id_comes_round` is a run
that does not.
-/

namespace SsmBridge.Smux

open Machine

/-! ## What is wanted -/

/-- The `SmuxStream` exists: it was returned, and its drop has not ended. -/
def SmuxStream.live (st : SmuxStream) : Bool :=
  match st.phase with
  | .held | .dropping | .removed => true
  | _ => false

/-- `open_stream` returns an id that no other live stream has. -/
def ReturnsFresh (σ : Inner) (l : Label) : Prop :=
  ∀ (i j : ℕ) (st other : SmuxStream), l = .openReturn i → σ.streams[i]? = some st →
    σ.streams[j]? = some other → j ≠ i → other.live = true → other.id ≠ st.id

/-- Inserting the entry of a stream, or dropping a stream, leaves the entries of all others in the
map. -/
def SparesEntries (σ : Inner) (l : Label) (σ' : Inner) : Prop :=
  ∀ (i j : ℕ) (other : SmuxStream), l = .openRegister i ∨ l = .dropRemove i →
    σ.streams[j]? = some other → j ≠ i → other.listed = true →
    ∃ other', σ'.streams[j]? = some other' ∧ other'.listed = true

/-- Two live streams have distinct ids. -/
def Inner.DistinctIds (σ : Inner) : Prop :=
  ∀ (i j : ℕ) (st other : SmuxStream), σ.streams[i]? = some st → σ.streams[j]? = some other →
    st.live = true → other.live = true → st.id = other.id → i = j

/-- A step does not mix streams up. -/
structure KeepsApart (σ : Inner) (l : Label) (σ' : Inner) : Prop where
  fresh : ReturnsFresh σ l
  spares : SparesEntries σ l σ'
  odd : ∀ st ∈ σ'.streams, st.id.toNat % 2 = 1
  distinct : σ'.DistinctIds

/-- When an id is drawn, the stream that drew it the last time round is gone: it was dropped, or
its `open_stream` returned an error. -/
def Inner.drawsReleased (σ : Inner) : Label → Bool
  | .openNumber =>
      decide (σ.streams.length < idCount) ||
        (σ.streams[σ.streams.length - idCount]?).all SmuxStream.gone
  | _ => true

/-! ## The invariant -/

/-- A stream that is not in the map yet, or that was taken out for good, has no entry. -/
def SmuxStream.Placed (st : SmuxStream) : Prop :=
  st.phase = .numbered ∨ st.phase = .removed ∨ st.gone = true → st.listed = false

/-- Of the streams that drew the same id all but the last are gone. -/
structure Inner.Spaced (σ : Inner) : Prop where
  placed : ∀ (i : ℕ) (st : SmuxStream), σ.streams[i]? = some st → st.Placed
  elder : ∀ (i j : ℕ) (st : SmuxStream), σ.streams[i]? = some st → i < j →
    j < σ.streams.length → idOf i = idOf j → st.gone = true

section

variable {σ σ' : Inner} {st other : SmuxStream} {l : Label} {i j : ℕ}
  {f : SmuxStream → SmuxStream}

namespace Inner.Spaced

lemma new : Inner.new.Spaced where
  placed _ _ h := by cases h
  elder _ _ _ h := by cases h

lemma of_eq (h : σ.Spaced) (hstreams : σ'.streams = σ.streams) : σ'.Spaced :=
  ⟨by rw [hstreams]; exact h.placed, by rw [hstreams]; exact h.elder⟩

lemma enqueue (h : σ.Spaced) (frame : Frame) : (σ.enqueue frame).Spaced := h.of_eq rfl

lemma tryFrame (h : σ.Spaced) (frame : Frame) : (σ.tryFrame frame).Spaced := by
  unfold Inner.tryFrame
  split
  · exact h.enqueue frame
  · exact h

lemma record (h : σ.Spaced) (frame : Frame) : (σ.record frame).Spaced := h.of_eq rfl

lemma moveRouter (h : σ.Spaced) (r : RouterPc) : (σ.moveRouter r).Spaced := h.of_eq rfl

/-- A stream that is gone stays so. -/
lemma modify (h : σ.Spaced)
    (hf : ∀ st, σ.streams[i]? = some st → st.Placed →
      (f st).Placed ∧ (st.gone = true → (f st).gone = true)) : (σ.modify i f).Spaced := by
  refine ⟨fun j st hst => ?_, fun j k st hst hlt hk hid => ?_⟩
  · rw [Inner.getElem?_modify] at hst
    split at hst
    · next hij =>
      subst hij
      obtain ⟨st', hst', rfl⟩ := Option.map_eq_some_iff.mp hst
      exact (hf st' hst' (h.placed i st' hst')).1
    · exact h.placed j st hst
  · rw [Inner.length_modify] at hk
    rw [Inner.getElem?_modify] at hst
    split at hst
    · next hij =>
      subst hij
      obtain ⟨st', hst', rfl⟩ := Option.map_eq_some_iff.mp hst
      exact (hf st' hst' (h.placed i st' hst')).2 (h.elder i k st' hst' hlt hk hid)
    · exact h.elder j k st hst hlt hk hid

/-- A change that leaves the phase and the entry alone. -/
lemma modify_inert (h : σ.Spaced) (i : ℕ) (hphase : ∀ st, (f st).phase = st.phase)
    (hlisted : ∀ st, (f st).listed = st.listed) : (σ.modify i f).Spaced := by
  apply h.modify
  intro st _ hplaced
  have hgone : (f st).gone = st.gone := by simp only [SmuxStream.gone, hphase]
  refine ⟨?_, fun hst => hgone.trans hst⟩
  simpa only [SmuxStream.Placed, hphase, hlisted, hgone] using hplaced

/-- A stream that is not gone moves on. -/
lemma moved (h : σ.Spaced) (hst : σ.streams[i]? = some st) (hgone : st.gone = false)
    (hplaced : (f st).Placed) : (σ.modify i f).Spaced := by
  apply h.modify
  intro st' hst' _
  obtain rfl : st = st' := Option.some_inj.mp (hst.symm.trans hst')
  refine ⟨hplaced, fun hst => ?_⟩
  rw [hgone] at hst
  cases hst

/-- Entries that are taken out. -/
lemma map_unlist (h : σ.Spaced) {p : SmuxStream → Bool}
    (hstreams : σ'.streams =
      σ.streams.map (fun st => if p st then { st with listed := false } else st)) : σ'.Spaced := by
  refine ⟨fun i st hst => ?_, fun i j st hst hlt hj hid => ?_⟩
  · rw [hstreams, List.getElem?_map] at hst
    obtain ⟨st', hst', rfl⟩ := Option.map_eq_some_iff.mp hst
    split
    · exact fun _ => rfl
    · exact h.placed i st' hst'
  · rw [hstreams, List.length_map] at hj
    rw [hstreams, List.getElem?_map] at hst
    obtain ⟨st', hst', rfl⟩ := Option.map_eq_some_iff.mp hst
    have hgone := h.elder i j st' hst' hlt hj hid
    split
    · exact hgone
    · exact hgone

lemma unlist (h : σ.Spaced) (id : UInt32) : (σ.unlist id).Spaced :=
  h.map_unlist (p := fun st => decide (st.id = id)) (by simp [Inner.unlist])

/-- **A draw keeps the streams apart** if the last one to draw the id is gone. -/
lemma openNumber (h : σ.Spaced) (hreleased : σ.drawsReleased .openNumber = true)
    (hstreams : σ'.streams = σ.streams ++ [.new σ.nextId]) : σ'.Spaced := by
  refine ⟨fun i st hst => ?_, fun i j st hst hlt hj hid => ?_⟩
  · rw [hstreams] at hst
    obtain ⟨-, rfl⟩ | ⟨-, hold⟩ := getElem?_of_concat hst
    · exact fun _ => rfl
    · exact h.placed i st hold
  · rw [hstreams, List.length_append, List.length_singleton] at hj
    rw [hstreams] at hst
    obtain ⟨rfl, -⟩ | ⟨hi, hold⟩ := getElem?_of_concat hst
    · omega
    by_cases hlast : j < σ.streams.length
    · exact h.elder i j st hold hlt hlast hid
    -- The stream with the new id is the last; the one before it in the round is `k`.
    obtain rfl : j = σ.streams.length := by omega
    rw [idOf_eq_iff] at hid
    have hround : i + idCount ≤ σ.streams.length := by
      simp only [idCount] at hid ⊢
      omega
    obtain ⟨k, hk⟩ : ∃ k, σ.streams.length = k + idCount := ⟨_, (Nat.sub_add_cancel (by omega)).symm⟩
    by_cases hik : i = k
    · subst hik
      simp only [drawsReleased, hk, Nat.add_sub_cancel, hold, Option.all_some, Bool.or_eq_true,
        decide_eq_true_eq] at hreleased
      exact hreleased.resolve_left (by omega)
    · refine h.elder i k st hold (by omega) ?_ ?_
      · simp only [idCount] at hk
        omega
      · rw [idOf_eq_iff, hid, hk, Nat.add_mod_right]

/-- A stream takes the entry under its id out and moves on. -/
lemma unlisted (h : σ.Spaced) (hst : σ.streams[i]? = some st) (hgone : st.gone = false)
    (hplaced : (f { st with listed := false }).Placed) :
    ((σ.unlist st.id).modify i f).Spaced := by
  have hst' : (σ.unlist st.id).streams[i]? = some { st with listed := false } := by
    rw [Inner.getElem?_unlist, hst, Option.map_some, if_pos rfl]
  exact (h.unlist st.id).moved hst' hgone hplaced

/-- **A step keeps the streams apart.** Only `open_stream` draws an id, and the condition is that
the id it draws is not in use. -/
theorem step (h : σ.Spaced) (hreleased : σ.drawsReleased l = true) (hstep : σ.step l = some σ') :
    σ'.Spaced := by
  cases takes_of_step hstep with
  | openAdmit | write | frameTaken | framesDropped | dieEnabled | closeNotify | closeLock
  | finUnknown | pushFound | pushUnknown | sendGone | sendFull => exact h.of_eq rfl
  | readClosed | writeRefused | shutdownIdle => exact h
  | close =>
    apply h.of_eq
    unfold close
    split <;> rfl
  | keepAlive => exact h.tryFrame _
  | reply => exact (h.tryFrame _).moveRouter _
  | openNumber => exact h.openNumber hreleased rfl
  | openRegister hst hphase =>
    apply h.unlisted hst
    · simp [SmuxStream.gone, hphase]
    · simp [SmuxStream.Placed, SmuxStream.gone]
  | openReturn hst hphase | dropStream hst hphase =>
    apply (h.enqueue _).moved hst
    · simp [SmuxStream.gone, hphase]
    · simp [SmuxStream.Placed, SmuxStream.gone]
  | openRefuse hst hphase | dropQuietly hst hphase =>
    apply h.moved hst
    · simp [SmuxStream.gone, hphase]
    · simp [SmuxStream.Placed, SmuxStream.gone]
  | openWithdraw hst hphase | dropRemove hst hphase =>
    apply h.unlisted hst
    · simp [SmuxStream.gone, hphase]
    · exact fun _ => rfl
  | @dropRelease i st hst hphase =>
    have hunlisted : st.listed = false := h.placed i st hst (.inr (.inl hphase))
    apply h.moved hst
    · simp [SmuxStream.gone, hphase]
    · exact fun _ => hunlisted
  | closeSweep | readRemainder | readQueue | readPending | readEnd | pollThrottled
  | pollClosed | shutdownGone => exact h.modify_inert _ (fun _ => rfl) (fun _ => rfl)
  | shutdown => exact (h.enqueue _).modify_inert _ (fun _ => rfl) (fun _ => rfl)
  | sendQueued | evict =>
    apply Inner.Spaced.moveRouter
    exact h.modify_inert _ (fun _ => rfl) (fun _ => rfl)
  | remove => exact (h.unlist _).moveRouter _
  | finFound => exact ((h.record _).unlist _).modify_inert _ (fun _ => rfl) (fun _ => rfl)
  | closeClear => exact h.map_unlist (p := fun _ => true) (by simp)

/-- Two streams with one id that are both there are one stream. -/
lemma eq_of_id (h : σ.Spaced) (hn : σ.Numbered) (hi : σ.streams[i]? = some st)
    (hj : σ.streams[j]? = some other) (hst : st.gone = false) (hother : other.gone = false)
    (hid : st.id = other.id) : i = j := by
  rw [hn.stream i st hi, hn.stream j other hj] at hid
  obtain ⟨hilt, -⟩ := List.getElem?_eq_some_iff.mp hi
  obtain ⟨hjlt, -⟩ := List.getElem?_eq_some_iff.mp hj
  rcases Nat.lt_trichotomy i j with hlt | heq | hgt
  · have hgone := h.elder i j st hi hlt hjlt hid
    rw [hst] at hgone
    cases hgone
  · exact heq
  · have hgone := h.elder j i other hj hgt hilt hid.symm
    rw [hother] at hgone
    cases hgone

/-- An entry belongs to a stream that is there. -/
lemma gone_of_listed (h : σ.Spaced) (hi : σ.streams[i]? = some st) (hlisted : st.listed = true) :
    st.gone = false := by
  cases hgone : st.gone with
  | false => rfl
  | true =>
    have hunlisted := h.placed i st hi (.inr (.inr hgone))
    rw [hlisted] at hunlisted
    cases hunlisted

/-- The entry of another stream stays when a stream takes out what is under its id. -/
lemma getElem?_unlist_modify (h : σ.Spaced) (hn : σ.Numbered) (hi : σ.streams[i]? = some st)
    (hst : st.gone = false) (hj : σ.streams[j]? = some other) (hne : j ≠ i)
    (hlisted : other.listed = true) : ((σ.unlist st.id).modify i f).streams[j]? = some other := by
  have hid : other.id ≠ st.id := by
    intro hid
    exact hne (h.eq_of_id hn hj hi (h.gone_of_listed hj hlisted) hst hid)
  rw [Inner.getElem?_modify, if_neg (Ne.symm hne), Inner.getElem?_unlist, hj, Option.map_some,
    if_neg hid]

end Inner.Spaced

lemma SmuxStream.gone_of_live (h : st.live = true) : st.gone = false := by
  unfold SmuxStream.live at h
  unfold SmuxStream.gone
  split at h <;> simp_all

/-! ## Every run -/

namespace Inner.Spaced

lemma distinctIds (h : σ.Spaced) (hn : σ.Numbered) : σ.DistinctIds := by
  intro i j st other hi hj hst hother hid
  exact h.eq_of_id hn hi hj (SmuxStream.gone_of_live hst) (SmuxStream.gone_of_live hother) hid

lemma returnsFresh (h : σ.Spaced) (hn : σ.Numbered) (hstep : σ.step l = some σ') :
    ReturnsFresh σ l := by
  rintro i j st other rfl hi hj hne hother hid
  cases takes_of_step hstep with
  | openReturn hi' hphase =>
    cases hi.symm.trans hi'
    have hst : st.gone = false := by simp [SmuxStream.gone, hphase]
    exact hne (h.eq_of_id hn hj hi (SmuxStream.gone_of_live hother) hst hid)

lemma sparesEntries (h : σ.Spaced) (hn : σ.Numbered) (hstep : σ.step l = some σ') :
    SparesEntries σ l σ' := by
  rintro i j other (rfl | rfl) hj hne hlisted
  · cases takes_of_step hstep with
    | @openRegister _ st hi hphase =>
      have hst : st.gone = false := by simp [SmuxStream.gone, hphase]
      exact ⟨other, h.getElem?_unlist_modify hn hi hst hj hne hlisted, hlisted⟩
  · cases takes_of_step hstep with
    | @dropRemove _ st hi hphase =>
      have hst : st.gone = false := by simp [SmuxStream.gone, hphase]
      exact ⟨other, h.getElem?_unlist_modify hn hi hst hj hne hlisted, hlisted⟩

/-- The streams are kept apart in every run that draws ids in time. -/
lemma of_reachable (h : Reachable Inner.step (fun σ l _ => σ.drawsReleased l = true) .new σ) :
    σ.Spaced := by
  refine h.invariant new ?_
  intro s l s' hs hstep hreleased
  exact hs.step hreleased hstep

end Inner.Spaced

lemma Inner.Numbered.odd (hn : σ.Numbered) : ∀ st ∈ σ.streams, st.id.toNat % 2 = 1 := by
  intro st hst
  obtain ⟨i, hi⟩ := List.mem_iff_getElem?.mp hst
  rw [hn.stream i st hi]
  exact odd_idOf i

end

/-- **Live streams have distinct ids** in every run, of any length and with any interleaving of
calls, routed frames and the close, in which an id is drawn only once the stream that drew it the
last time round is gone. -/
theorem live_streams_keep_apart (ls : List Label)
    (h : Along Inner.step (fun σ l _ => σ.drawsReleased l = true) .new ls) :
    Along Inner.step KeepsApart .new ls := by
  refine h.mono ?_
  intro σ l σ' hreach hstep hreleased
  have hspaced : σ.Spaced := Inner.Spaced.of_reachable hreach
  have hnumbered : σ.Numbered := Inner.Numbered.of_reachable hreach.unguarded
  have hnumbered' : σ'.Numbered := hnumbered.moved (moved_of_step hstep)
  exact ⟨hspaced.returnsFresh hnumbered hstep, hspaced.sparesEntries hnumbered hstep,
    hnumbered'.odd, (hspaced.step hreleased hstep).distinctIds hnumbered'⟩

/-- Two streams are open at once; one is dropped and a third opened. -/
def threeStreams : List Label :=
  [.openAdmit, .openNumber, .openRegister 0, .openReturn 0, .openAdmit, .openNumber,
    .openRegister 1, .openReturn 1, .dropStream 0, .dropRemove 0, .dropRelease 0, .openAdmit,
    .openNumber, .openRegister 2, .openReturn 2]

theorem live_streams_keep_apart_three : Along Inner.step KeepsApart .new threeStreams := by
  have hrun : (runIf Inner.step (fun σ l _ => σ.drawsReleased l) .new threeStreams).isSome =
      true := by decide
  exact live_streams_keep_apart threeStreams (along_of_runIf (fun _ _ _ h => h) hrun)

/-! ## Steps that are taken -/

section Taken

variable {σ : Inner} {st : SmuxStream} {i : ℕ}

lemma step_openRegister (hi : σ.streams[i]? = some st) (hlocked : σ.locked = false)
    (hphase : st.phase = .numbered) :
    σ.step (.openRegister i) = some ((σ.unlist st.id).modify i (fun st =>
      { st with phase := .registered, listed := true, since := (σ.routedTo st.id).length })) := by
  simp only [Inner.step, openRegister, hi, hlocked, hphase]

lemma step_openReturn (hi : σ.streams[i]? = some st) (hroom : σ.framesRoom = true)
    (hphase : st.phase = .registered) :
    σ.step (.openReturn i) =
      some ((σ.enqueue ⟨cmdSyn, st.id, []⟩).modify i (fun st => { st with phase := .held })) := by
  simp only [Inner.step, openReturn, hi, hroom, hphase]

lemma step_dropStream (hi : σ.streams[i]? = some st) (hroom : σ.framesRoom = true)
    (hphase : st.phase = .held) (hpolling : st.polling = false) (hwrite : st.writeClosed = false) :
    σ.step (.dropStream i) =
      some ((σ.enqueue ⟨cmdFin, st.id, []⟩).modify i (fun st => { st with phase := .dropping })) := by
  simp [Inner.step, dropStream, hi, hphase, hpolling, hwrite, Inner.tryFrame, hroom]

lemma step_dropRemove (hi : σ.streams[i]? = some st) (hlocked : σ.locked = false)
    (hphase : st.phase = .dropping) :
    σ.step (.dropRemove i) =
      some ((σ.unlist st.id).modify i (fun st => { st with phase := .removed })) := by
  simp only [Inner.step, dropRemove, hi, hlocked, hphase]

lemma step_dropRelease (hi : σ.streams[i]? = some st) (hphase : st.phase = .removed) :
    σ.step (.dropRelease i) = some (σ.modify i (fun st => { st with phase := .dropped })) := by
  simp only [Inner.step, dropRelease, hi, hphase]

end Taken

/-! ## Two streams with one id -/

section Collision

variable {σ σ' : Inner} {st other : SmuxStream} {l : Label} {i j : ℕ} {f : SmuxStream → SmuxStream}

lemma not_sparesEntries (hl : l = .openRegister i ∨ l = .dropRemove i)
    (hj : σ.streams[j]? = some other) (hne : j ≠ i) (hlisted : other.listed = true)
    (hj' : σ'.streams[j]? = some { other with listed := false }) : ¬ SparesEntries σ l σ' := by
  intro hspares
  obtain ⟨other', hother', hlisted'⟩ := hspares i j other hl hj hne hlisted
  cases hj'.symm.trans hother'
  cases hlisted'

/-- A stream takes the entry of another out with its own. -/
lemma getElem?_unlist_of_id (hj : σ.streams[j]? = some other) (hne : j ≠ i)
    (hid : other.id = st.id) :
    ((σ.unlist st.id).modify i f).streams[j]? = some { other with listed := false } := by
  rw [Inner.getElem?_modify, if_neg (Ne.symm hne), Inner.getElem?_unlist, hj, Option.map_some,
    if_pos hid]

/-- The second stream to draw an id replaces the entry of the first. -/
theorem openRegister_replaces (hi : σ.streams[i]? = some st) (hj : σ.streams[j]? = some other)
    (hne : j ≠ i) (hid : other.id = st.id) (hlisted : other.listed = true)
    (hstep : σ.step (.openRegister i) = some σ') : ¬ SparesEntries σ (.openRegister i) σ' := by
  cases takes_of_step hstep with
  | openRegister hi' hphase =>
    cases hi.symm.trans hi'
    exact not_sparesEntries (.inl rfl) hj hne hlisted (getElem?_unlist_of_id hj hne hid)

/-- Dropping either of them takes out the entry of the other. -/
theorem dropRemove_removes_other (hi : σ.streams[i]? = some st) (hj : σ.streams[j]? = some other)
    (hne : j ≠ i) (hid : other.id = st.id) (hlisted : other.listed = true)
    (hstep : σ.step (.dropRemove i) = some σ') : ¬ SparesEntries σ (.dropRemove i) σ' := by
  cases takes_of_step hstep with
  | dropRemove hi' hphase =>
    cases hi.symm.trans hi'
    exact not_sparesEntries (.inr rfl) hj hne hlisted (getElem?_unlist_of_id hj hne hid)

/-- **A draw comes round.** Whatever led to a state in which the stream of `2 ^ 31` draws ago is
still in the map: if the next `open_stream` goes on, its entry is replaced. -/
theorem openNumber_comes_round {n k : ℕ} (hn : σ.Numbered) (hadmitted : σ.admitted = n + 1)
    (hlocked : σ.locked = false) (hlength : σ.streams.length = k + idCount)
    (hk : σ.streams[k]? = some other) (hlisted : other.listed = true) :
    ∃ σ₁ σ₂, σ.step .openNumber = some σ₁ ∧ σ₁.step (.openRegister (k + idCount)) = some σ₂ ∧
      ¬ SparesEntries σ₁ (.openRegister (k + idCount)) σ₂ := by
  have hnew : (σ.streams ++ [SmuxStream.new σ.nextId])[k + idCount]? =
      some (SmuxStream.new σ.nextId) := by
    rw [← hlength, List.getElem?_concat_length]
  have hpos : 0 < idCount := by decide
  have hold : (σ.streams ++ [SmuxStream.new σ.nextId])[k]? = some other := by
    rw [List.getElem?_append_left (by omega), hk]
  have hid : other.id = (SmuxStream.new σ.nextId).id := by
    show other.id = σ.nextId
    rw [hn.stream k other hk, hn.next, hlength, idOf_eq_iff, Nat.add_mod_right]
  have hdraw : σ.step .openNumber = some { σ with
      admitted := n, streams := σ.streams ++ [.new σ.nextId], nextId := σ.nextId + 2 } := by
    simp only [Inner.step, openNumber, hadmitted]
  have hregister := step_openRegister (σ := { σ with
      admitted := n, streams := σ.streams ++ [.new σ.nextId], nextId := σ.nextId + 2 })
    hnew hlocked rfl
  exact ⟨_, _, hdraw, hregister, openRegister_replaces hnew hold (by omega) hid hlisted hregister⟩

end Collision

/-! ## A run of `2 ^ 31` draws -/

/-- A multiplexer with these streams and frames, on which nothing else is going on. -/
def quiet (streams : List SmuxStream) (frames : List Frame) (nextId : UInt32) : Inner :=
  { Inner.new with streams := streams, frames := frames, nextId := nextId }

/-- The entry of a stream with this id is taken out. -/
def SmuxStream.unlisted (id : UInt32) (st : SmuxStream) : SmuxStream :=
  if st.id = id then { st with listed := false } else st

section Quiet

variable {before : List SmuxStream} {last : SmuxStream} {frames : List Frame} {id next : UInt32}

/-- A stream that draws the next id is the last one. -/
lemma run_draw (labels : List Label) :
    run Inner.step (quiet before frames id) (.openAdmit :: .openNumber :: labels) =
      run Inner.step (quiet (before ++ [.new id]) frames (id + 2)) labels := rfl

lemma quiet_frameTaken {frame : Frame} :
    (quiet before (frame :: frames) next).step .frameTaken = some (quiet before frames next) := rfl

lemma getElem?_quiet_last :
    (quiet (before ++ [last]) frames next).streams[before.length]? = some last :=
  List.getElem?_concat_length

lemma unlist_quiet {streams : List SmuxStream} :
    (quiet streams frames next).unlist id =
      quiet (streams.map (SmuxStream.unlisted id)) frames next := rfl

lemma unlist_quiet_last :
    (quiet (before ++ [last]) frames next).unlist last.id =
      quiet (before.map (SmuxStream.unlisted last.id) ++ [{ last with listed := false }]) frames
        next := by
  have hlast : SmuxStream.unlisted last.id last = { last with listed := false } := if_pos rfl
  rw [unlist_quiet, List.map_append, List.map_singleton, hlast]

lemma modify_quiet_last {n : ℕ} (hn : n = before.length) (f : SmuxStream → SmuxStream) :
    (quiet (before ++ [last]) frames next).modify n f =
      quiet (before ++ [f last]) frames next := by
  subst hn
  rw [Inner.modify, quiet, modify_length_concat]
  rfl

lemma quiet_openRegister (hphase : last.phase = .numbered) :
    (quiet (before ++ [last]) frames next).step (.openRegister before.length) =
      some (quiet (before.map (SmuxStream.unlisted last.id) ++
        [{ last with phase := .registered, listed := true, since := 0 }]) frames next) := by
  rw [step_openRegister getElem?_quiet_last rfl hphase, unlist_quiet_last,
    modify_quiet_last (List.length_map _).symm]
  rfl

lemma quiet_openReturn (hphase : last.phase = .registered) :
    (quiet (before ++ [last]) [] next).step (.openReturn before.length) =
      some (quiet (before ++ [{ last with phase := .held }]) [⟨cmdSyn, last.id, []⟩] next) := by
  rw [step_openReturn getElem?_quiet_last rfl hphase]
  exact congrArg some (modify_quiet_last rfl _)

lemma quiet_dropStream (hphase : last.phase = .held) (hpolling : last.polling = false)
    (hwrite : last.writeClosed = false) :
    (quiet (before ++ [last]) [] next).step (.dropStream before.length) =
      some (quiet (before ++ [{ last with phase := .dropping }]) [⟨cmdFin, last.id, []⟩] next) := by
  rw [step_dropStream getElem?_quiet_last rfl hphase hpolling hwrite]
  exact congrArg some (modify_quiet_last rfl _)

lemma quiet_dropRemove (hphase : last.phase = .dropping) :
    (quiet (before ++ [last]) frames next).step (.dropRemove before.length) =
      some (quiet (before.map (SmuxStream.unlisted last.id) ++
        [{ last with phase := .removed, listed := false }]) frames next) := by
  rw [step_dropRemove getElem?_quiet_last rfl hphase, unlist_quiet_last,
    modify_quiet_last (List.length_map _).symm]

lemma quiet_dropRelease (hphase : last.phase = .removed) :
    (quiet (before ++ [last]) frames next).step (.dropRelease before.length) =
      some (quiet (before ++ [{ last with phase := .dropped }]) frames next) := by
  rw [step_dropRelease getElem?_quiet_last hphase]
  exact congrArg some (modify_quiet_last rfl _)

/-- Open a stream and drop it, with the frames taken off the queue. -/
def openAndDrop (i : ℕ) : List Label :=
  [.openAdmit, .openNumber, .openRegister i, .openReturn i, .frameTaken, .dropStream i, .frameTaken,
    .dropRemove i, .dropRelease i]

/-- A stream that was opened and dropped. -/
def droppedStream (id : UInt32) : SmuxStream := { SmuxStream.new id with phase := .dropped }

/-- A stream is opened and dropped again; those before it have no entry under its id. -/
lemma run_openAndDrop (hbefore : before.map (SmuxStream.unlisted id) = before) :
    run Inner.step (quiet before [] id) (openAndDrop before.length) =
      some (quiet (before ++ [droppedStream id]) [] (id + 2)) := by
  have hid : (SmuxStream.new id).id = id := rfl
  rw [openAndDrop, run_draw, run_cons (quiet_openRegister rfl), hid, hbefore,
    run_cons (quiet_openReturn rfl), run_cons quiet_frameTaken,
    run_cons (quiet_dropStream rfl rfl rfl), run_cons quiet_frameTaken,
    run_cons (quiet_dropRemove rfl)]
  show run Inner.step (quiet (before.map (SmuxStream.unlisted id) ++ _) _ _) _ = _
  rw [hbefore, run_cons (quiet_dropRelease rfl)]
  rfl

end Quiet

/-- The first stream is held. -/
def firstHeld (listed : Bool) : SmuxStream :=
  { SmuxStream.new (idOf 0) with phase := .held, listed := listed }

/-- The first stream, and the next `n`, which were opened and dropped. -/
def firstAndDropped (first : SmuxStream) (n : ℕ) : List SmuxStream :=
  first :: (List.range n).map (fun k => droppedStream (idOf (k + 1)))

/-- Keep the first stream, and open and drop `n` more. -/
def manyDrops (n : ℕ) : List Label :=
  ([.openAdmit, .openNumber, .openRegister 0, .openReturn 0, .frameTaken] : List Label) ++
    (List.range n).flatMap (fun k => openAndDrop (k + 1))

section FirstAndDropped

variable {first : SmuxStream} {n : ℕ}

lemma length_firstAndDropped (first : SmuxStream) (n : ℕ) :
    (firstAndDropped first n).length = n + 1 := by
  simp [firstAndDropped]

lemma firstAndDropped_succ :
    firstAndDropped first (n + 1) = firstAndDropped first n ++ [droppedStream (idOf (n + 1))] := by
  simp [firstAndDropped, List.range_succ]

/-- Only the first stream has an entry to take out. -/
lemma map_unlisted_firstAndDropped (first : SmuxStream) (n : ℕ) (id : UInt32) :
    (firstAndDropped first n).map (SmuxStream.unlisted id) =
      firstAndDropped (first.unlisted id) n := by
  simp [firstAndDropped, SmuxStream.unlisted, droppedStream, SmuxStream.new]

lemma run_manyDrops (hn : n < idCount) :
    run Inner.step .new (manyDrops n) =
      some (quiet (firstAndDropped (firstHeld true) n) [] (idOf (n + 1))) := by
  induction n with
  | zero => rfl
  | succ n ih =>
    have hne : idOf 0 ≠ idOf (n + 1) := by
      intro h
      have hzero := idOf_inj (by omega) hn h
      omega
    have hfirst : (firstHeld true).unlisted (idOf (n + 1)) = firstHeld true := if_neg hne
    have hbefore := map_unlisted_firstAndDropped (firstHeld true) n (idOf (n + 1))
    rw [hfirst] at hbefore
    have hcycle := run_openAndDrop hbefore
    rw [length_firstAndDropped, idOf_succ] at hcycle
    have hlabels : manyDrops (n + 1) = manyDrops n ++ openAndDrop (n + 1) := by
      simp [manyDrops, List.range_succ]
    rw [hlabels, run_append, ih (by omega), Option.bind_some, hcycle, firstAndDropped_succ]

end FirstAndDropped

/-- The id of the first stream was drawn again. -/
def drawnAgain (n : ℕ) (first last : SmuxStream) (frames : List Frame) : Inner :=
  quiet (firstAndDropped first n ++ [last]) frames (idOf 0 + 2)

/-- The second stream with the id is registered. -/
def secondRegistered : SmuxStream :=
  { SmuxStream.new (idOf 0) with phase := .registered, listed := true }

section DrawnAgain

variable {n : ℕ} {first last : SmuxStream} {frames : List Frame}

lemma getElem?_drawnAgain_first : (drawnAgain n first last frames).streams[0]? = some first := rfl

lemma getElem?_drawnAgain_last : (drawnAgain n first last frames).streams[n + 1]? = some last := by
  rw [← length_firstAndDropped first]
  exact getElem?_quiet_last

lemma run_drawnAgain (hn : idCount = n + 1) :
    run Inner.step .new (manyDrops n ++ [.openAdmit, .openNumber]) =
      some (drawnAgain n (firstHeld true) (.new (idOf 0)) []) := by
  have hround : idOf (n + 1) = idOf 0 := by
    rw [idOf_eq_iff, ← hn, Nat.mod_self, Nat.zero_mod]
  rw [run_append, run_manyDrops (by omega), Option.bind_some, hround]
  rfl

lemma drawnAgain_openRegister :
    (drawnAgain n (firstHeld true) (.new (idOf 0)) []).step (.openRegister (n + 1)) =
      some (drawnAgain n (firstHeld false) secondRegistered []) := by
  rw [← length_firstAndDropped (firstHeld true), drawnAgain, quiet_openRegister rfl,
    map_unlisted_firstAndDropped]
  rfl

lemma drawnAgain_openReturn :
    (drawnAgain n (firstHeld false) secondRegistered []).step (.openReturn (n + 1)) =
      some (drawnAgain n (firstHeld false) (firstHeld true) [⟨cmdSyn, idOf 0, []⟩]) := by
  rw [← length_firstAndDropped (firstHeld false), drawnAgain, quiet_openReturn rfl]
  rfl

lemma drawnAgain_dropRemove :
    (drawnAgain n { firstHeld false with phase := .dropping } last frames).step (.dropRemove 0) =
      some (drawnAgain n { firstHeld false with phase := .removed } (last.unlisted (idOf 0))
        frames) := by
  rw [step_dropRemove getElem?_drawnAgain_first rfl rfl, drawnAgain, unlist_quiet, List.map_append,
    map_unlisted_firstAndDropped]
  rfl

end DrawnAgain

/-- **An id comes round.** With the first stream held and `2 ^ 31 - 1` others opened and dropped,
the next one has its id: registering it takes the entry of the first out of the map, `open_stream`
returns it nonetheless, and dropping the first takes out the entry of the second. -/
theorem id_comes_round :
    ∃ σ₁ σ₂ σ₃ σ₄ σ₅,
      run Inner.step .new (manyDrops (idCount - 1) ++ [.openAdmit, .openNumber]) = some σ₁ ∧
      σ₁.step (.openRegister idCount) = some σ₂ ∧ ¬ SparesEntries σ₁ (.openRegister idCount) σ₂ ∧
      σ₂.step (.openReturn idCount) = some σ₃ ∧ ¬ ReturnsFresh σ₂ (.openReturn idCount) ∧
      ¬ σ₃.DistinctIds ∧
      σ₃.step (.dropStream 0) = some σ₄ ∧ σ₄.step (.dropRemove 0) = some σ₅ ∧
      ¬ SparesEntries σ₄ (.dropRemove 0) σ₅ := by
  obtain ⟨n, hn⟩ : ∃ n, idCount = n + 1 := ⟨idCount - 1, rfl⟩
  have hne : 0 ≠ n + 1 := by omega
  rw [hn, Nat.add_sub_cancel]
  refine ⟨_, _, _, drawnAgain n { firstHeld false with phase := .dropping } (firstHeld true)
      [⟨cmdSyn, idOf 0, []⟩, ⟨cmdFin, idOf 0, []⟩], _, run_drawnAgain hn, drawnAgain_openRegister,
    ?_, drawnAgain_openReturn, ?_, ?_, rfl, drawnAgain_dropRemove, ?_⟩
  · exact openRegister_replaces getElem?_drawnAgain_last getElem?_drawnAgain_first hne rfl rfl
      drawnAgain_openRegister
  · intro hfresh
    exact hfresh (n + 1) 0 _ _ rfl getElem?_drawnAgain_last getElem?_drawnAgain_first hne rfl rfl
  · intro hdistinct
    exact hne (hdistinct 0 (n + 1) _ _ getElem?_drawnAgain_first getElem?_drawnAgain_last rfl rfl
      rfl)
  · exact dropRemove_removes_other getElem?_drawnAgain_first getElem?_drawnAgain_last hne.symm rfl
      rfl drawnAgain_dropRemove

end SsmBridge.Smux
