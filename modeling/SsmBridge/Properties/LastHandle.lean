import SsmBridge.Construction.Handles

/-!
# The last handle stops the supervisor

A drop that reads a strong count of one signals shutdown and aborts the supervisor.  The count is
read before the reference is released, so that the drops of the last two handles can both read two.

`last_handle_stops_iff` is about every run.  No drop stops the supervisor while another handle is
live.  When all handles are dropped, the supervisor was stopped by one of the drops if and only if
the drop that began last began after all other references were released.
-/

namespace SsmBridge.Handles

open Machine

variable {σ σ' : Shared} {l : Label} {i j : ℕ} {pc pc' : HandlePc}

/-! ## Drops -/

/-- The drop has signalled shutdown. -/
def HandlePc.hasSignalled : HandlePc → Bool
  | .aborting | .releasing true | .gone true => true
  | .live | .counted _ | .releasing false | .gone false => false

/-- The drop has aborted the supervisor. -/
def HandlePc.hasAborted : HandlePc → Bool
  | .releasing true | .gone true => true
  | .live | .counted _ | .aborting | .releasing false | .gone false => false

/-- The drop takes itself for the last one. -/
def HandlePc.isStopper : HandlePc → Bool
  | .counted count => count == 1
  | .aborting | .releasing true | .gone true => true
  | .live | .releasing false | .gone false => false

/-- The next step of the drop signals shutdown or aborts the supervisor. -/
def Shared.Stopping (σ : Shared) (i : ℕ) : Prop :=
  σ.handles[i]? = some (.counted 1) ∨ σ.handles[i]? = some .aborting

/-- All handles but one are gone. -/
def Shared.OthersGone (σ : Shared) (i : ℕ) : Prop :=
  ∀ (j : ℕ) (pc : HandlePc), j ≠ i → σ.handles[j]? = some pc → pc.isGone = true

/-- Every handle has been dropped. -/
def Shared.AllGone (σ : Shared) : Prop :=
  ∀ (i : ℕ) (pc : HandlePc), σ.handles[i]? = some pc → pc.isGone = true

/-- One of the drops has signalled shutdown and aborted the supervisor. -/
def Shared.Stopped (σ : Shared) : Prop :=
  (∃ (i : ℕ) (pc : HandlePc),
      σ.handles[i]? = some pc ∧ pc.hasSignalled = true ∧ pc.hasAborted = true) ∧
    σ.shutdown = true ∧ σ.aborted = true

/-- If no other handle is live when a drop begins, then all the others are gone. -/
def LastAlone (σ : Shared) (l : Label) (_ : Shared) : Prop :=
  ∀ i, l = .drop i → σ.handles[i]? = some .live →
    (∀ j, j ≠ i → σ.handles[j]? ≠ some .live) → σ.OthersGone i

/-! ## Counting -/

/-- The handles that still hold a reference. -/
def Shared.holders (σ : Shared) : ℕ := σ.handles.countP (fun pc => !pc.isGone)

/-- A handle holds the only reference if and only if all others are gone. -/
lemma holders_eq_one_iff (hi : σ.handles[i]? = some pc) (hpc : pc.isGone = false) :
    σ.holders = 1 ↔ σ.OthersGone i := by
  -- Without the handle, the count says how many of the others are left.
  have hcount := countP_set_add (b := .gone false) (p := fun pc => !pc.isGone) hi
  have hzero : σ.holders = 1 ↔
      (σ.handles.set i (.gone false)).countP (fun pc => !pc.isGone) = 0 := by
    have hgone : (HandlePc.gone false).isGone = true := rfl
    simp only [hpc, hgone, Bool.not_false, Bool.not_true, if_true, Bool.false_eq_true,
      if_false] at hcount
    rw [Shared.holders]
    omega
  rw [hzero, List.countP_eq_zero]
  constructor
  · intro hall j pc' hj hget
    have hmem : pc' ∈ σ.handles.set i (.gone false) := by
      apply List.mem_of_getElem? (i := j)
      rw [List.getElem?_set_ne (Ne.symm hj), hget]
    simpa using hall pc' hmem
  · intro hothers pc' hmem
    obtain ⟨j, hj⟩ := List.mem_iff_getElem?.mp hmem
    rcases getElem?_of_set hj with ⟨-, rfl⟩ | ⟨hne, hget⟩
    · simp [HandlePc.isGone]
    · simp [hothers j pc' hne hget]

/-! ## Every run -/

/-- What holds in every state of a run. -/
structure Sound (σ : Shared) : Prop where
  count : σ.strongCount = σ.holders
  /-- A drop that takes itself for the last one is the last one. -/
  sole : ∀ (i : ℕ) (pc : HandlePc), σ.handles[i]? = some pc → pc.isStopper = true → σ.OthersGone i
  signalled : ∀ (i : ℕ) (pc : HandlePc), σ.handles[i]? = some pc → pc.hasSignalled = true →
    σ.shutdown = true
  aborted : ∀ (i : ℕ) (pc : HandlePc), σ.handles[i]? = some pc → pc.hasAborted = true →
    σ.aborted = true

lemma Sound.new : Sound Shared.new := by
  have hlive : ∀ i pc, Shared.new.handles[i]? = some pc → i = 0 ∧ pc = .live := by
    intro i pc h
    rw [Shared.new, List.getElem?_singleton] at h
    split at h
    · next hi => exact ⟨hi, (Option.some_inj.mp h).symm⟩
    · cases h
  constructor
  · rfl
  · intro i pc h hstop
    rw [(hlive i pc h).2] at hstop
    cases hstop
  · intro i pc h hsignalled
    rw [(hlive i pc h).2] at hsignalled
    cases hsignalled
  · intro i pc h haborted
    rw [(hlive i pc h).2] at haborted
    cases haborted

/-- A step of a drop. -/
lemma Sound.moved (hσ : Sound σ) (hi : σ.handles[i]? = some pc) (hpc : pc.isGone = false)
    {count : ℕ} {shutdown aborted : Bool}
    (hcount : count + 1 = σ.strongCount + (if !pc'.isGone then 1 else 0))
    (hstop : pc'.isStopper = true → σ.OthersGone i)
    (hshutdown : σ.shutdown = true ∨ pc'.hasSignalled = true → shutdown = true)
    (haborted : σ.aborted = true ∨ pc'.hasAborted = true → aborted = true) :
    Sound ⟨count, shutdown, aborted, σ.handles.set i pc'⟩ := by
  constructor
  · have hset := countP_set_add (b := pc') (p := fun pc => !pc.isGone) hi
    have hbefore := hσ.count
    simp only [hpc, Bool.not_false, if_true] at hset
    simp only [Shared.holders] at hbefore ⊢
    omega
  · intro j pcj hj hstopper
    rcases getElem?_of_set hj with ⟨rfl, rfl⟩ | ⟨hne, hget⟩
    · intro k pck hk hgetk
      rcases getElem?_of_set hgetk with ⟨rfl, -⟩ | ⟨-, hgetk⟩
      · exact absurd rfl hk
      · exact hstop hstopper k pck hk hgetk
    · -- The other drop would have been the last one before this one moved.
      have hgone := hσ.sole j pcj hget hstopper i pc (Ne.symm hne) hi
      rw [hpc] at hgone
      cases hgone
  · intro j pcj hj hsignalled
    rcases getElem?_of_set hj with ⟨-, rfl⟩ | ⟨-, hget⟩
    · exact hshutdown (Or.inr hsignalled)
    · exact hshutdown (Or.inl (hσ.signalled j pcj hget hsignalled))
  · intro j pcj hj hdone
    rcases getElem?_of_set hj with ⟨-, rfl⟩ | ⟨-, hget⟩
    · exact haborted (Or.inr hdone)
    · exact haborted (Or.inl (hσ.aborted j pcj hget hdone))

lemma Sound.cloned (hσ : Sound σ) (hi : σ.handles[i]? = some .live) :
    Sound { σ with strongCount := σ.strongCount + 1, handles := σ.handles ++ [.live] } := by
  have hlive : ∀ (j : ℕ) (pc : HandlePc), (σ.handles ++ [HandlePc.live])[j]? = some pc →
      pc ≠ HandlePc.live → σ.handles[j]? = some pc := by
    intro j pc hj hpc
    rcases getElem?_of_concat hj with ⟨-, rfl⟩ | ⟨-, hget⟩
    · exact absurd rfl hpc
    · exact hget
  constructor
  · have hbefore := hσ.count
    simp only [Shared.holders] at hbefore ⊢
    simp [List.countP_append, hbefore, HandlePc.isGone]
  · intro j pcj hj hstopper
    have hget := hlive j pcj hj (by rintro rfl; cases hstopper)
    have hne : i ≠ j := by
      rintro rfl
      rw [hi, Option.some_inj] at hget
      subst hget
      cases hstopper
    -- A handle can be cloned, so that no drop takes itself for the last one.
    have hgone := hσ.sole j pcj hget hstopper i .live hne hi
    cases hgone
  · intro j pcj hj hsignalled
    exact hσ.signalled j pcj (hlive j pcj hj (by rintro rfl; cases hsignalled)) hsignalled
  · intro j pcj hj hdone
    exact hσ.aborted j pcj (hlive j pcj hj (by rintro rfl; cases hdone)) hdone

lemma Sound.step (hσ : Sound σ) (h : step σ l = some σ') : Sound σ' := by
  cases moves_of_step h with
  | clone hlive => exact hσ.cloned hlive
  | terminate hlive => exact ⟨hσ.count, hσ.sole, fun _ _ _ _ => rfl, hσ.aborted⟩
  | @count i hpc =>
    refine hσ.moved hpc rfl rfl ?_ (by simp [HandlePc.hasSignalled]) (by simp [HandlePc.hasAborted])
    intro hstopper
    have hone : σ.strongCount = 1 := by simpa [HandlePc.isStopper] using hstopper
    rw [hσ.count] at hone
    exact (holders_eq_one_iff hpc rfl).mp hone
  | signal hpc =>
    exact hσ.moved hpc rfl rfl (fun _ => hσ.sole _ _ hpc rfl) (fun _ => rfl)
      (by simp [HandlePc.hasAborted])
  | pass hpc hcount =>
    exact hσ.moved hpc rfl rfl (by simp [HandlePc.isStopper]) (by simp [HandlePc.hasSignalled])
      (by simp [HandlePc.hasAborted])
  | abort hpc =>
    exact hσ.moved hpc rfl rfl (fun _ => hσ.sole _ _ hpc rfl)
      (fun _ => hσ.signalled _ _ hpc rfl) (fun _ => rfl)
  | @release i stopped hpc =>
    have hpos : 0 < σ.strongCount := by
      rw [hσ.count, Shared.holders]
      exact List.countP_pos_iff.mpr ⟨_, List.mem_of_getElem? hpc, rfl⟩
    have hcount : σ.strongCount - 1 + 1 = σ.strongCount := Nat.sub_add_cancel hpos
    cases stopped with
    | true =>
      exact hσ.moved hpc rfl hcount (fun _ => hσ.sole _ _ hpc rfl)
        (fun _ => hσ.signalled _ _ hpc rfl) (fun _ => hσ.aborted _ _ hpc rfl)
    | false =>
      exact hσ.moved hpc rfl hcount (by simp [HandlePc.isStopper])
        (by simp [HandlePc.hasSignalled]) (by simp [HandlePc.hasAborted])

lemma Sound.of_run {ls : List Label} (hrun : run Handles.step Shared.new ls = some σ) : Sound σ :=
  (Reachable.refl.of_run hrun).invariant Sound.new (fun _ _ _ hσ h _ => hσ.step h)

/-! ## Whether the supervisor is stopped -/

/-- Some handle is live or takes itself for the last one. -/
def Shared.Attended (σ : Shared) : Prop :=
  ∃ (i : ℕ) (pc : HandlePc), σ.handles[i]? = some pc ∧ (pc = .live ∨ pc.isStopper = true)

/-- A step of a drop leaves the others alone. -/
lemma Shared.Attended.moved (h : σ.Attended) (hi : σ.handles[i]? = some pc) {τ : Shared}
    (hτ : τ.handles = σ.handles.set i pc')
    (hpc : pc = .live ∨ pc.isStopper = true → pc'.isStopper = true) : τ.Attended := by
  obtain ⟨j, pcj, hj, hattends⟩ := h
  by_cases hne : j = i
  · subst hne
    obtain rfl : pc = pcj := Option.some_inj.mp (hi.symm.trans hj)
    refine ⟨j, pc', ?_, Or.inr (hpc hattends)⟩
    have hlt : j < σ.handles.length := (List.getElem?_eq_some_iff.mp hj).1
    rw [hτ, List.getElem?_set_self hlt]
  · refine ⟨j, pcj, ?_, hattends⟩
    rw [hτ, List.getElem?_set_ne (Ne.symm hne), hj]

/-- As long as the last drop begins alone, some handle will stop the supervisor. -/
lemma Shared.Attended.step (hσ : Sound σ) (h : σ.Attended) (hstep : step σ l = some σ')
    (halone : LastAlone σ l σ') : σ'.Attended := by
  cases moves_of_step hstep with
  | clone hlive =>
    refine ⟨σ.handles.length, .live, ?_, Or.inl rfl⟩
    simp
  | terminate hlive => exact h
  | @count i hpc =>
    by_cases hlast : ∀ j, j ≠ i → σ.handles[j]? ≠ some .live
    · have hone := (holders_eq_one_iff hpc rfl).mpr (halone i rfl hpc hlast)
      refine h.moved hpc rfl ?_
      intro _
      rw [hσ.count, hone]
      rfl
    · push Not at hlast
      obtain ⟨j, hne, hlive⟩ := hlast
      refine ⟨j, .live, ?_, Or.inl rfl⟩
      rw [List.getElem?_set_ne (Ne.symm hne), hlive]
  | signal hpc => exact h.moved hpc rfl (fun _ => rfl)
  | @pass i count hpc hcount =>
    refine h.moved hpc rfl ?_
    rintro (hlive | hone)
    · cases hlive
    · exact absurd (beq_iff_eq.mp hone) hcount
  | abort hpc => exact h.moved hpc rfl (fun _ => rfl)
  | @release i stopped hpc =>
    refine h.moved hpc rfl ?_
    rintro (hlive | hstopper)
    · cases hlive
    · cases stopped with
      | true => rfl
      | false => cases hstopper

/-- A handle that is gone and took itself for the last one has stopped the supervisor. -/
lemma Shared.Attended.stopped (hσ : Sound σ) (h : σ.Attended) (hgone : σ.AllGone) : σ.Stopped := by
  obtain ⟨i, pc, hi, hpc⟩ := h
  have hpcgone := hgone i pc hi
  obtain rfl : pc = .gone true := by
    cases pc with
    | gone stopped =>
      cases stopped with
      | true => rfl
      | false => simp [HandlePc.isStopper] at hpc
    | live => cases hpcgone
    | counted count => cases hpcgone
    | aborting => cases hpcgone
    | releasing stopped => cases hpcgone
  exact ⟨⟨i, _, hi, rfl, rfl⟩, hσ.signalled i _ hi rfl, hσ.aborted i _ hi rfl⟩

/-- All drops have begun, and none takes itself for the last one. -/
def Shared.Forsaken (σ : Shared) : Prop :=
  ∀ (i : ℕ) (pc : HandlePc), σ.handles[i]? = some pc → pc ≠ .live ∧ pc.isStopper = false

lemma Shared.Forsaken.moved (h : σ.Forsaken) {τ : Shared} (hτ : τ.handles = σ.handles.set i pc')
    (hlive : pc' ≠ .live) (hstop : pc'.isStopper = false) : τ.Forsaken := by
  intro j pcj hj
  rw [hτ] at hj
  rcases getElem?_of_set hj with ⟨-, rfl⟩ | ⟨-, hget⟩
  · exact ⟨hlive, hstop⟩
  · exact h j pcj hget

/-- Nobody stops the supervisor any more. -/
lemma Shared.Forsaken.step (h : σ.Forsaken) (hstep : step σ l = some σ') : σ'.Forsaken := by
  cases moves_of_step hstep with
  | clone hlive => exact absurd rfl (h _ _ hlive).1
  | terminate hlive => exact absurd rfl (h _ _ hlive).1
  | count hpc => exact absurd rfl (h _ _ hpc).1
  | signal hpc => exact absurd (h _ _ hpc).2 (by decide)
  | pass hpc hcount => exact h.moved rfl (by simp) rfl
  | abort hpc => exact absurd (h _ _ hpc).2 (by decide)
  | @release i stopped hpc =>
    cases stopped with
    | true => exact absurd (h _ _ hpc).2 (by decide)
    | false => exact h.moved rfl (by simp) rfl

lemma HandlePc.isStopper_of_hasAborted (h : pc.hasAborted = true) : pc.isStopper = true := by
  cases pc with
  | releasing stopped =>
    cases stopped with
    | true => rfl
    | false => cases h
  | gone stopped =>
    cases stopped with
    | true => rfl
    | false => cases h
  | live => cases h
  | counted count => cases h
  | aborting => cases h

lemma Shared.Forsaken.not_stopped (h : σ.Forsaken) : ¬ σ.Stopped := by
  rintro ⟨⟨i, pc, hi, -, haborted⟩, -, -⟩
  have hstopper := HandlePc.isStopper_of_hasAborted haborted
  rw [(h i pc hi).2] at hstopper
  cases hstopper

/-- The last drop begins while another one has not released its reference. -/
lemma forsaken_of_not_lastAlone (hσ : Sound σ) (hstep : step σ l = some σ')
    (h : ¬ LastAlone σ l σ') : σ'.Forsaken := by
  rw [LastAlone] at h
  push Not at h
  obtain ⟨i, rfl, hlive, hlast, hothers⟩ := h
  have hcount : σ.strongCount ≠ 1 := by
    rw [hσ.count]
    exact fun hone => hothers ((holders_eq_one_iff hlive rfl).mp hone)
  have hσ' : σ' = { σ with handles := σ.handles.set i (.counted σ.strongCount) } := by
    simpa [Handles.step, hlive, dropStep] using hstep.symm
  intro j pcj hj
  rw [hσ'] at hj
  rcases getElem?_of_set hj with ⟨-, rfl⟩ | ⟨hne, hget⟩
  · exact ⟨by simp, by simpa [HandlePc.isStopper] using hcount⟩
  · refine ⟨fun hpc => hlast j hne (hpc ▸ hget), ?_⟩
    by_contra hstopper
    have hgone := hσ.sole j pcj hget (Bool.of_not_eq_false hstopper) i .live (Ne.symm hne) hlive
    cases hgone

/-- A drop that stops the supervisor leaves no other handle live. -/
lemma Sound.not_live_of_stopping (hσ : Sound σ) (h : σ.Stopping i) (hne : j ≠ i) :
    σ.handles[j]? ≠ some .live := by
  intro hlive
  have hgone : HandlePc.live.isGone = true := by
    rcases h with hpc | hpc
    · exact hσ.sole i _ hpc rfl j .live hne hlive
    · exact hσ.sole i _ hpc rfl j .live hne hlive
  cases hgone

/-- In every run, no step of a drop signals shutdown or aborts the supervisor while another handle
is live; and if all handles are dropped in the end, then one of the drops has done so if and only if
the drop that began last began when all the others had released their references. -/
theorem last_handle_stops_iff (ls : List Label) (σ : Shared)
    (hrun : run step Shared.new ls = some σ) :
    (∀ before i after τ, ls = before ++ .drop i :: after →
        run step Shared.new before = some τ → τ.Stopping i →
        ∀ j, j ≠ i → τ.handles[j]? ≠ some .live) ∧
      (σ.AllGone → (σ.Stopped ↔ Along step LastAlone Shared.new ls)) := by
  constructor
  · intro before i after τ _ hbefore hstopping j hne
    exact (Sound.of_run hbefore).not_live_of_stopping hstopping hne
  intro hgone
  have hsound : ∀ τ, Reachable step free Shared.new τ → Sound τ :=
    fun _ hreach => hreach.invariant Sound.new (fun _ _ _ hτ h _ => hτ.step h)
  constructor
  · -- A step that breaks the rule leaves nobody to stop the supervisor.
    intro hstopped
    exact along_of_not_spoiled Shared.Forsaken
      (fun τ _ _ hreach hstep => forsaken_of_not_lastAlone (hsound τ hreach) hstep)
      (fun _ _ _ h hstep => h.step hstep) hrun (fun hforsaken => hforsaken.not_stopped hstopped)
  · intro halong
    have hattended : σ.Attended :=
      (Reachable.of_along hrun halong).invariant_with hsound ⟨0, .live, rfl, Or.inl rfl⟩
        (fun _ _ _ hτ h hs hg => h.step hτ hs hg)
    exact hattended.stopped (Sound.of_run hrun) hgone

lemma allGone_of_all (h : σ.handles.all HandlePc.isGone = true) : σ.AllGone := by
  intro i pc hi
  exact List.all_eq_true.mp h pc (List.mem_of_getElem? hi)

/-- A clone is dropped, then the first handle. -/
theorem last_handle_stops_in_turn :
    Along step LastAlone Shared.new
      [.clone 0, .drop 1, .drop 1, .drop 1, .drop 0, .drop 0, .drop 0, .drop 0] := by
  have hgone : Shared.AllGone ⟨0, true, true, [.gone true, .gone false]⟩ := by
    apply allGone_of_all
    rfl
  exact ((last_handle_stops_iff _ ⟨0, true, true, [.gone true, .gone false]⟩ rfl).2 hgone).mp
    ⟨⟨0, _, rfl, rfl, rfl⟩, rfl, rfl⟩

/-- The drops of two handles both read a count of two, and the supervisor is left running. -/
theorem overlapping_drops_leak_supervisor :
    ¬ ∀ (ls : List Label) (σ : Shared), run step Shared.new ls = some σ →
      (∀ before i after τ, ls = before ++ .drop i :: after →
        run step Shared.new before = some τ → τ.Stopping i →
        ∀ j, j ≠ i → τ.handles[j]? ≠ some .live) ∧
      (σ.AllGone → σ.Stopped) := by
  intro hall
  have hgone : Shared.AllGone ⟨0, false, false, [.gone false, .gone false]⟩ := by
    apply allGone_of_all
    rfl
  have hstopped := (hall [.clone 0, .drop 0, .drop 1, .drop 0, .drop 1, .drop 0, .drop 1]
    ⟨0, false, false, [.gone false, .gone false]⟩ rfl).2 hgone
  exact Bool.false_ne_true hstopped.2.1

end SsmBridge.Handles
