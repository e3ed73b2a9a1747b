import Mathlib.Data.List.Nodup
import Mathlib.Data.List.Perm.Subperm
import Mathlib.Data.List.Range
import Mathlib.Data.Nat.Notation
import Mathlib.Logic.Basic

/-!
# Runs of a labelled machine

A machine is a step function `step : S → L → Option S`: a label that is not enabled in a state has
no successor.  `Reachable step guard init s` says that some run leads from `init` to `s` in which
every step meets `guard`, a condition on the state before, the label and the state after; `free`
imposes none.

An invariant is proved once per machine by `Reachable.invariant`: it holds initially and every step
that meets the guard preserves it.  That a state of some kind can be reached is proved by
`Reachable.exists_done`, with a rank that goes down on the way.  One machine follows another if it
can answer each of its steps by a run, which may be empty (`Reachable.simulates`).

`run` executes a list of labels, so that a concrete run is a computation and `Reachable.of_run` makes
it a reachability fact.  `run_invariant` is the invariant rule for a property that speaks of the
labels too, and `FollowsAlong` the simulation along one list of labels.  `Along` says of such a list
that all its steps meet a guard, so that a run can be judged by what its steps did
(`Reachable.of_along`, `along_of_not_spoiled`).  A loop that other parties may come in between of is
left by the measure rule, `exists_left_of_run`.

What one party can observe is a function of the state, its view.  If the steps that do not concern
the party leave its view alone, and a step that does concern it takes equal views to equal views,
then two runs that agree on the steps that concern it end in the same view (`view_eq_of_runs`).

The parties of a machine are often kept in a list, in the order in which they joined: a step
replaces one or adds one, and `getElem?_of_set` and `getElem?_of_concat` say which party is at an
index afterwards.  `countP_le_of_key` counts parties of one list against those of another that hold
them.
-/

namespace Machine

variable {S L : Type} {step : S → L → Option S} {guard : S → L → S → Prop} {init : S}

/-- The condition every step meets. -/
def free : S → L → S → Prop := fun _ _ _ => True

/-- The states reached from `init` by steps that meet the guard. -/
inductive Reachable (step : S → L → Option S) (guard : S → L → S → Prop) (init : S) : S → Prop
  | refl : Reachable step guard init init
  | tail {s s' : S} {l : L} : Reachable step guard init s → step s l = some s' → guard s l s' →
      Reachable step guard init s'

namespace Reachable

/-- **The invariant rule.** What holds in the beginning and is kept by every step that meets the
guard holds in every state that is reached. -/
theorem invariant {P : S → Prop} (hinit : P init)
    (hstep : ∀ s l s', P s → step s l = some s' → guard s l s' → P s') {s : S}
    (h : Reachable step guard init s) : P s := by
  induction h with
  | refl => exact hinit
  | tail _ hs hg ih => exact hstep _ _ _ ih hs hg

/-- A guarded run is a run. -/
theorem unguarded {s : S} (h : Reachable step guard init s) : Reachable step free init s := by
  induction h with
  | refl => exact .refl
  | tail _ hs _ ih => exact .tail ih hs trivial

/-- An invariant of all runs may be used in the step of a guarded one. -/
theorem invariant_with {P Q : S → Prop} (hQ : ∀ s, Reachable step free init s → Q s)
    (hinit : P init)
    (hstep : ∀ s l s', Q s → P s → step s l = some s' → guard s l s' → P s') {s : S}
    (h : Reachable step guard init s) : P s := by
  induction h with
  | refl => exact hinit
  | tail hr hs hg ih => exact hstep _ _ _ (hQ _ hr.unguarded) ih hs hg

/-- A run goes on from where another one ends. -/
theorem trans {s s' : S} (h : Reachable step guard init s) (h' : Reachable step guard s s') :
    Reachable step guard init s' := by
  induction h' with
  | refl => exact h
  | tail _ hs hg ih => exact .tail ih hs hg

/-- **The progress rule.** Where every state that is not done is followed by one of lower rank, one
that is done is reached. -/
theorem exists_done {P Q : S → Prop} (rank : S → ℕ)
    (hprogress : ∀ s, P s → ¬ Q s → ∃ s', Reachable step guard s s' ∧ P s' ∧ rank s' < rank s)
    {s : S} (hs : P s) : ∃ s', Reachable step guard s s' ∧ P s' ∧ Q s' := by
  induction hn : rank s using Nat.strong_induction_on generalizing s with
  | _ n ih =>
    by_cases hq : Q s
    · exact ⟨s, .refl, hs, hq⟩
    · obtain ⟨s₁, hs₁, hp₁, hlt⟩ := hprogress s hs hq
      obtain ⟨s₂, hs₂, hp₂, hq₂⟩ := ih _ (hn ▸ hlt) hp₁ rfl
      exact ⟨s₂, hs₁.trans hs₂, hp₂, hq₂⟩

/-- **The simulation rule.** Where each step from related states is answered by a run to related
states, a machine that is related in the beginning can follow every run. -/
theorem simulates {T M : Type} {step' : T → M → Option T} {guard' : T → M → T → Prop} {init' : T}
    {R : S → T → Prop} (hinit : R init init')
    (hstep : ∀ s l s' t, R s t → step s l = some s' → guard s l s' →
      ∃ t', Reachable step' guard' t t' ∧ R s' t') {s : S} (h : Reachable step guard init s) :
    ∃ t, Reachable step' guard' init' t ∧ R s t := by
  induction h with
  | refl => exact ⟨init', .refl, hinit⟩
  | tail _ hs hg ih =>
    obtain ⟨t, ht, hrel⟩ := ih
    obtain ⟨t', ht', hrel'⟩ := hstep _ _ _ t hrel hs hg
    exact ⟨t', ht.trans ht', hrel'⟩

end Reachable

/-- Execute a list of labels. -/
def run (step : S → L → Option S) : S → List L → Option S
  | s, [] => some s
  | s, l :: rest => (step s l).bind (fun s' => run step s' rest)

lemma run_cons {s s' : S} {l : L} {rest : List L} (h : step s l = some s') :
    run step s (l :: rest) = run step s' rest := by
  rw [run, h, Option.bind_some]

lemma run_append (s : S) (ls ls' : List L) :
    run step s (ls ++ ls') = (run step s ls).bind (fun s' => run step s' ls') := by
  induction ls generalizing s with
  | nil => rfl
  | cons l rest ih =>
    rw [List.cons_append, run, run, Option.bind_assoc]
    exact congrArg _ (funext ih)

/-- **The trace rule.** A property of a run and of the state it ends in, which holds of the empty run
and is kept by one more step, holds of every run. -/
theorem run_invariant {P : List L → S → Prop} (hinit : P [] init)
    (hstep : ∀ ls s l s', run step init ls = some s → P ls s → step s l = some s' →
      P (ls ++ [l]) s') {ls : List L} {s : S} (h : run step init ls = some s) : P ls s := by
  induction ls using List.reverseRecOn generalizing s with
  | nil =>
    cases h
    exact hinit
  | append_singleton ls l ih =>
    rw [run_append] at h
    obtain ⟨s₁, hs₁, hlast⟩ := Option.bind_eq_some_iff.mp h
    obtain ⟨s₂, hs₂, hnil⟩ := Option.bind_eq_some_iff.mp hlast
    cases hnil
    exact hstep ls s₁ l _ hs₁ (ih hs₁) hs₂

/-- A run whose steps all pass a test reaches its last state by steps that meet the guard. -/
def runIf (step : S → L → Option S) (test : S → L → S → Bool) : S → List L → Option S
  | s, [] => some s
  | s, l :: rest =>
      (step s l).bind (fun s' => if test s l s' then runIf step test s' rest else none)

lemma Reachable.of_runIf {test : S → L → S → Bool} (htest : ∀ s l s', test s l s' → guard s l s')
    {s s' : S} {ls : List L} (hreach : Reachable step guard init s)
    (h : runIf step test s ls = some s') : Reachable step guard init s' := by
  induction ls generalizing s with
  | nil =>
    cases h
    exact hreach
  | cons l rest ih =>
    obtain ⟨s₁, hs₁, hrest⟩ := Option.bind_eq_some_iff.mp h
    split at hrest
    · next ht => exact ih (hreach.tail hs₁ (htest _ _ _ ht)) hrest
    · cases hrest

lemma Reachable.of_run {s s' : S} {ls : List L} (hreach : Reachable step free init s)
    (h : run step s ls = some s') : Reachable step free init s' := by
  induction ls generalizing s with
  | nil =>
    cases h
    exact hreach
  | cons l rest ih =>
    obtain ⟨s₁, hs₁, hrest⟩ := Option.bind_eq_some_iff.mp h
    exact ih (hreach.tail hs₁ trivial) hrest

/-- A run whose last state passes a test reaches a state that does. -/
lemma exists_of_run {p : S → Bool} {ls : List L} (h : (run step init ls).any p = true) :
    ∃ s, Reachable step free init s ∧ p s = true := by
  cases hs : run step init ls with
  | none => simp [hs] at h
  | some s => exact ⟨s, Reachable.refl.of_run hs, by simpa [hs] using h⟩

/-- The same for a run whose steps meet a guard. -/
lemma exists_of_runIf {test : S → L → S → Bool} (htest : ∀ s l s', test s l s' → guard s l s')
    {p : S → Bool} {ls : List L} (h : (runIf step test init ls).any p = true) :
    ∃ s, Reachable step guard init s ∧ p s = true := by
  cases hs : runIf step test init ls with
  | none => simp [hs] at h
  | some s => exact ⟨s, Reachable.refl.of_runIf htest hs, by simpa [hs] using h⟩

/-- From related states on, the second machine answers every step of a run of the first by a run of
its own, and the states are related after each of them.  It is one run of the second machine that
goes along with the run of the first, and not another one for each state. -/
def FollowsAlong {T M : Type} (step : S → L → Option S) (step' : T → M → Option T)
    (R : S → T → Prop) : S → List L → T → Prop
  | s, [], t => R s t
  | s, l :: ls, t => R s t ∧ ∀ s', step s l = some s' →
      ∃ t', Reachable step' free t t' ∧ FollowsAlong step step' R s' ls t'

/-- **The simulation rule, along a run.** The relation is the one of a single step; what it adds is
that the answers to the steps make up one run of the second machine. -/
theorem followsAlong_of_step {T M : Type} {step' : T → M → Option T} {R : S → T → Prop}
    (hstep : ∀ s l s' t, R s t → step s l = some s' →
      ∃ t', Reachable step' free t t' ∧ R s' t') {s : S} {t : T} (h : R s t) (ls : List L) :
    FollowsAlong step step' R s ls t := by
  induction ls generalizing s t with
  | nil => exact h
  | cons l ls ih =>
    refine ⟨h, fun s' hs' => ?_⟩
    obtain ⟨t', ht', hrel⟩ := hstep s l s' t h hs'
    exact ⟨t', ht', ih hrel⟩

/-- At the end of the run the states are related, too. -/
theorem FollowsAlong.last {T M : Type} {step' : T → M → Option T} {R : S → T → Prop} {s s' : S}
    {t : T} {ls : List L} (h : FollowsAlong step step' R s ls t) (hrun : run step s ls = some s') :
    ∃ t', Reachable step' free t t' ∧ R s' t' := by
  induction ls generalizing s t with
  | nil =>
    cases hrun
    exact ⟨t, .refl, h⟩
  | cons l ls ih =>
    obtain ⟨s₁, hs₁, hrest⟩ := Option.bind_eq_some_iff.mp hrun
    obtain ⟨t₁, ht₁, hfollows⟩ := h.2 s₁ hs₁
    obtain ⟨t', ht', hrel⟩ := ih hfollows hrest
    exact ⟨t', ht₁.trans ht', hrel⟩

/-- A property that a run brings about is brought about by one of its steps. -/
lemma exists_step_of_run {P : S → Prop} {ls : List L} {s s' : S} (hrun : run step s ls = some s')
    (hs : ¬ P s) (hs' : P s') :
    ∃ before l after t t', ls = before ++ l :: after ∧ run step s before = some t ∧ ¬ P t ∧
      step t l = some t' ∧ P t' := by
  induction ls generalizing s with
  | nil =>
    cases hrun
    exact absurd hs' hs
  | cons l rest ih =>
    obtain ⟨s₁, hs₁, hrest⟩ := Option.bind_eq_some_iff.mp hrun
    by_cases hP : P s₁
    · exact ⟨[], l, rest, s, s₁, rfl, rfl, hs, hs₁, hP⟩
    · obtain ⟨before, l', after, t, t', rfl, hbefore, ht, hstep, ht'⟩ := ih hrest hP
      refine ⟨l :: before, l', after, t, t', rfl, ?_, ht, hstep, ht'⟩
      rw [run, hs₁]
      exact hbefore

/-- **The measure rule.** While `P` holds no step raises the measure, and the steps that count lower
it: a run with more of these than the measure allows has left `P` on the way. -/
theorem exists_left_of_run {P : S → Prop} {measure : S → ℕ} {counts : L → Bool}
    (hstep : ∀ s l s', Reachable step free init s → P s → step s l = some s' → P s' →
      measure s' + (if counts l then 1 else 0) ≤ measure s) {ls : List L} {s s' : S}
    (hreach : Reachable step free init s) (hs : P s) (hrun : run step s ls = some s')
    (hmany : measure s < ls.countP counts) :
    ∃ before after t, ls = before ++ after ∧ run step s before = some t ∧ ¬ P t := by
  induction ls generalizing s with
  | nil => cases hmany
  | cons l rest ih =>
    obtain ⟨t, ht, hrest⟩ := Option.bind_eq_some_iff.mp hrun
    by_cases hP : P t
    · have hle := hstep s l t hreach hs ht hP
      rw [List.countP_cons] at hmany
      obtain ⟨before, after, u, rfl, hbefore, hu⟩ :=
        ih (hreach.tail ht trivial) hP hrest (by omega)
      refine ⟨l :: before, after, u, rfl, ?_, hu⟩
      rw [run, ht]
      exact hbefore
    · refine ⟨[l], rest, t, rfl, ?_, hP⟩
      rw [run, ht]
      rfl

/-- Every step of a run meets the guard. -/
def Along (step : S → L → Option S) (guard : S → L → S → Prop) (s : S) (ls : List L) : Prop :=
  ∀ before l after t t', ls = before ++ l :: after → run step s before = some t →
    step t l = some t' → guard t l t'

/-- The first part of a run meets the guard too. -/
lemma Along.left {s : S} {ls ls' : List L} (h : Along step guard s (ls ++ ls')) :
    Along step guard s ls := by
  rintro before l after t t' rfl hrun hstep
  exact h before l (after ++ ls') t t' (by simp) hrun hstep

lemma along_cons {s : S} {l : L} {rest : List L}
    (h : ∀ s', step s l = some s' → guard s l s' ∧ Along step guard s' rest) :
    Along step guard s (l :: rest) := by
  intro before l' after t t' hls hrun hstep
  cases before with
  | nil =>
    cases hls
    cases hrun
    exact (h t' hstep).1
  | cons l₁ before =>
    cases hls
    obtain ⟨s₁, hs₁, hrest⟩ := Option.bind_eq_some_iff.mp hrun
    exact (h s₁ hs₁).2 before l' after t t' rfl hrest hstep

/-- A run whose steps all pass a test meets the guard. -/
lemma along_of_runIf {test : S → L → S → Bool} (htest : ∀ s l s', test s l s' → guard s l s')
    {s : S} {ls : List L} (h : (runIf step test s ls).isSome = true) : Along step guard s ls := by
  induction ls generalizing s with
  | nil =>
    intro before l after t t' hls
    simp at hls
  | cons l rest ih =>
    apply along_cons
    intro s' hs'
    rw [runIf, hs', Option.bind_some] at h
    split at h
    · next ht => exact ⟨htest s l s' ht, ih h⟩
    · cases h

lemma Reachable.of_along {s : S} {ls : List L} (h : run step init ls = some s)
    (hguard : Along step guard init ls) : Reachable step guard init s := by
  induction ls generalizing init with
  | nil =>
    cases h
    exact .refl
  | cons l rest ih =>
    obtain ⟨s₁, hs₁, hrest⟩ := Option.bind_eq_some_iff.mp h
    have hfirst : guard init l s₁ := hguard [] l rest init s₁ rfl rfl hs₁
    apply (Reachable.refl.tail hs₁ hfirst).trans
    apply ih hrest
    intro before l' after t t' hls hrun hstep
    refine hguard (l :: before) l' after t t' (by rw [hls, List.cons_append]) ?_ hstep
    rw [run, hs₁]
    exact hrun

/-- What holds of every step between states that a guarded run reaches holds along such a run. -/
theorem Along.mono {P : S → L → S → Prop} {ls : List L} (h : Along step guard init ls)
    (hP : ∀ s l s', Reachable step guard init s → step s l = some s' → guard s l s' → P s l s') :
    Along step P init ls := by
  rintro before l after t t' rfl hrun hstep
  have hreach : Reachable step guard init t := Reachable.of_along hrun h.left
  exact hP t l t' hreach hstep (h before l after t t' rfl hrun hstep)

/-- A run is cut where a step is taken. -/
lemma run_append_cons {before after : List L} {l : L} {s s' t t' : S}
    (hrun : run step s (before ++ l :: after) = some s') (hbefore : run step s before = some t)
    (hstep : step t l = some t') : run step t' after = some s' := by
  rw [run_append, hbefore, Option.bind_some, run, hstep] at hrun
  exact hrun

/-- **A step against the guard shows in the end.** If every step that does not meet the guard spoils
the state, and a spoiled state stays so, then a run to a state that is not spoiled meets the guard. -/
theorem along_of_not_spoiled (spoiled : S → Prop)
    (hspoils : ∀ s l s', Reachable step free init s → step s l = some s' → ¬ guard s l s' →
      spoiled s')
    (hkept : ∀ s l s', spoiled s → step s l = some s' → spoiled s') {s : S} {ls : List L}
    (hrun : run step init ls = some s) (hs : ¬ spoiled s) : Along step guard init ls := by
  rintro before l after t t' rfl hbefore hstep
  apply Classical.byContradiction
  intro hguard
  have hspoiled := hspoils t l t' (Reachable.refl.of_run hbefore) hstep hguard
  have hafter := Reachable.refl.of_run (run_append_cons hrun hbefore hstep)
  exact hs (hafter.invariant hspoiled (fun _ _ _ h hs _ => hkept _ _ _ h hs))

section Views

variable {V : Type} {view : S → V} {concerns : L → Bool} {good : S → Prop}

/-- A step between two states of runs from `init` that have a property. -/
structure GoodStep (step : S → L → Option S) (init : S) (good : S → Prop) (s : S) (l : L) (s' : S) :
    Prop where
  reachable : Reachable step free init s
  before : good s
  step : step s l = some s'
  after : good s'

/-- What a party sees along the steps that concern it. -/
inductive Seen (step : S → L → Option S) (init : S) (good : S → Prop) (view : S → V) :
    V → List L → V → Prop
  | nil (v : V) : Seen step init good view v [] v
  | cons {s s' : S} {l : L} {ls : List L} {v v' : V} (hv : view s = v)
      (hstep : GoodStep step init good s l s') (hrest : Seen step init good view (view s') ls v') :
      Seen step init good view v (l :: ls) v'

/-- A property that a run cannot come back to holds along a run that ends with it. -/
lemma good_of_run (hgood : ∀ s l s', step s l = some s' → good s' → good s) {ls : List L} {s s' : S}
    (hrun : run step s ls = some s') (hs' : good s') : good s := by
  induction ls generalizing s with
  | nil =>
    cases hrun
    exact hs'
  | cons l rest ih =>
    obtain ⟨s₁, hs₁, hrest⟩ := Option.bind_eq_some_iff.mp hrun
    exact hgood _ _ _ hs₁ (ih hrest)

/-- Steps that do not concern the party are not seen. -/
lemma seen_of_run (hgood : ∀ s l s', step s l = some s' → good s' → good s)
    (hother : ∀ s l s', GoodStep step init good s l s' → concerns l = false → view s' = view s)
    {ls : List L} {s s' : S} (hs : Reachable step free init s) (hrun : run step s ls = some s')
    (hs' : good s') : Seen step init good view (view s) (ls.filter concerns) (view s') := by
  induction ls generalizing s with
  | nil =>
    cases hrun
    exact .nil _
  | cons l rest ih =>
    obtain ⟨s₁, hs₁, hrest⟩ := Option.bind_eq_some_iff.mp hrun
    have hgood₁ := good_of_run hgood hrest hs'
    have hstep : GoodStep step init good s l s₁ := ⟨hs, hgood _ _ _ hs₁ hgood₁, hs₁, hgood₁⟩
    have hseen := ih (hs.tail hs₁ trivial) hrest
    cases hl : concerns l with
    | true =>
      rw [List.filter_cons_of_pos hl]
      exact .cons rfl hstep hseen
    | false =>
      rw [List.filter_cons_of_neg (by simp [hl]), ← hother s l s₁ hstep hl]
      exact hseen

/-- What is seen in the end is determined by what was seen at first. -/
lemma Seen.unique
    (hsame : ∀ s t l s' t', GoodStep step init good s l s' → GoodStep step init good t l t' →
      concerns l = true → view s = view t → view s' = view t')
    {ls : List L} (hls : ∀ l ∈ ls, concerns l = true) {v v₁ v₂ : V}
    (h₁ : Seen step init good view v ls v₁) (h₂ : Seen step init good view v ls v₂) : v₁ = v₂ := by
  induction h₁ with
  | nil v =>
    cases h₂
    rfl
  | cons hv hstep hrest ih =>
    cases h₂ with
    | cons hv₂ hstep₂ hrest₂ =>
      have hview := hsame _ _ _ _ _ hstep hstep₂ (hls _ List.mem_cons_self) (hv.trans hv₂.symm)
      exact ih (fun l hl => hls l (List.mem_cons_of_mem _ hl)) (hview ▸ hrest₂)

/-- **Two runs look the same to a party that takes part in the same way.** `concerns` picks the
steps that concern the party; `good` is a property of states that a run cannot come back to. -/
theorem view_eq_of_runs (hgood : ∀ s l s', step s l = some s' → good s' → good s)
    (hother : ∀ s l s', GoodStep step init good s l s' → concerns l = false → view s' = view s)
    (hsame : ∀ s t l s' t', GoodStep step init good s l s' → GoodStep step init good t l t' →
      concerns l = true → view s = view t → view s' = view t')
    {ls ls' : List L} {s₁ s₂ : S} (hrun : run step init ls = some s₁)
    (hrun' : run step init ls' = some s₂) (hs₁ : good s₁) (hs₂ : good s₂)
    (hls : ls.filter concerns = ls'.filter concerns) : view s₁ = view s₂ := by
  have hseen := seen_of_run hgood hother .refl hrun hs₁
  rw [hls] at hseen
  exact hseen.unique hsame (fun l hl => (List.mem_filter.mp hl).2)
    (seen_of_run hgood hother .refl hrun' hs₂)

end Views

section Parties

variable {α : Type} {as : List α} {a b : α} {i j : ℕ}

/-- A party after a step is the one that moved, or one that stayed. -/
lemma getElem?_of_set (h : (as.set j b)[i]? = some a) :
    (i = j ∧ a = b) ∨ (i ≠ j ∧ as[i]? = some a) := by
  rw [List.getElem?_set] at h
  split at h
  · next hij =>
    split at h
    · exact .inl ⟨hij.symm, (Option.some_inj.mp h).symm⟩
    · cases h
  · next hij => exact .inr ⟨Ne.symm hij, h⟩

/-- A party after a step is the one that joined, or one that was there. -/
lemma getElem?_of_concat (h : (as ++ [b])[i]? = some a) :
    (i = as.length ∧ a = b) ∨ (i < as.length ∧ as[i]? = some a) := by
  rw [List.getElem?_append] at h
  split at h
  · next hlt => exact .inr ⟨hlt, h⟩
  · next hge =>
    rw [List.getElem?_singleton] at h
    split at h
    · next hzero => exact .inl ⟨by omega, (Option.some_inj.mp h).symm⟩
    · cases h

/-- The party that joined last moves. -/
lemma modify_length_concat (as : List α) (a : α) (f : α → α) :
    (as ++ [a]).modify as.length f = as ++ [f a] := by
  induction as with
  | nil => rfl
  | cons b as ih => simp [ih]

/-- How many parties have a property after one of them moved. -/
lemma countP_set_add {p : α → Bool} (h : as[i]? = some a) :
    (as.set i b).countP p + (if p a then 1 else 0) = as.countP p + (if p b then 1 else 0) := by
  obtain ⟨hlt, ha⟩ := List.getElem?_eq_some_iff.mp h
  rw [List.countP_set hlt, ha]
  split
  · next hp =>
    have hpos : 0 < as.countP p := List.countP_pos_iff.mpr ⟨a, List.mem_of_getElem? h, hp⟩
    omega
  · rfl

/-- Parties are counted by their indices. -/
lemma countP_range (as : List α) (p : α → Bool) :
    (List.range as.length).countP (fun i => (as[i]?).any p) = as.countP p := by
  induction as with
  | nil => rfl
  | cons a as ih =>
    rw [List.length_cons, List.range_succ_eq_map, List.countP_cons, List.countP_map,
      List.countP_cons, ← ih]
    rfl

/-- Each of these parties is held by one of those, so there are no more of them. -/
lemma countP_le_of_key {β : Type} {bs : List β} {p : α → Bool} {q : β → Bool} (key : β → Option ℕ)
    (h : ∀ i a, as[i]? = some a → p a = true → ∃ b ∈ bs, q b = true ∧ key b = some i) :
    as.countP p ≤ bs.countP q := by
  have hsub : (List.range as.length).filter (fun i => (as[i]?).any p) ⊆
      (bs.filter q).filterMap key := by
    intro i hi
    obtain ⟨a, ha, hp⟩ := (Option.any_eq_true _ _).mp (List.mem_filter.mp hi).2
    obtain ⟨b, hb, hq, hkey⟩ := h i a ha hp
    exact List.mem_filterMap.mpr ⟨b, List.mem_filter.mpr ⟨hb, hq⟩, hkey⟩
  have hnodup : ((List.range as.length).filter (fun i => (as[i]?).any p)).Nodup :=
    List.nodup_range.filter _
  calc as.countP p = ((List.range as.length).filter (fun i => (as[i]?).any p)).length := by
        rw [← List.countP_eq_length_filter, countP_range]
    _ ≤ ((bs.filter q).filterMap key).length := (hnodup.subperm hsub).length_le
    _ ≤ (bs.filter q).length := List.length_filterMap_le _ _
    _ = bs.countP q := (List.countP_eq_length_filter).symm

end Parties

end Machine
