import Mathlib.Data.List.Basic
import Mathlib.Tactic.Common

/-!
# Relays that take turns

Several relays take items in and give them on, each in the order it took them.  What all of them
together give on is in general some merge of what they took in.  `InTurn` describes the logs in
which a relay takes something in only while the others have given on all they took, and
`InTurn.given_prefix` says that the relays then act like one queue: what was given on is a prefix of
what was taken in.
-/

namespace Relay

variable {ι α : Type}

/-- A relay took items in, or gave items on. -/
inductive Transfer (ι α : Type)
  | took (i : ι) (xs : List α)
  | gave (i : ι) (xs : List α)

/-- Everything taken in, in order. -/
def taken : List (Transfer ι α) → List α
  | [] => []
  | .took _ xs :: log => xs ++ taken log
  | .gave _ _ :: log => taken log

/-- Everything given on, in order. -/
def given : List (Transfer ι α) → List α
  | [] => []
  | .took _ _ :: log => given log
  | .gave _ xs :: log => xs ++ given log

section

variable [DecidableEq ι]

/-- What one relay took in. -/
def takenBy (i : ι) : List (Transfer ι α) → List α
  | [] => []
  | .took j xs :: log => if j = i then xs ++ takenBy i log else takenBy i log
  | .gave _ _ :: log => takenBy i log

/-- What one relay gave on. -/
def givenBy (i : ι) : List (Transfer ι α) → List α
  | [] => []
  | .took _ _ :: log => givenBy i log
  | .gave j xs :: log => if j = i then xs ++ givenBy i log else givenBy i log

end

@[simp] lemma taken_append (log log' : List (Transfer ι α)) :
    taken (log ++ log') = taken log ++ taken log' := by
  induction log with
  | nil => rfl
  | cons e log ih => cases e <;> simp [taken, ih]

@[simp] lemma given_append (log log' : List (Transfer ι α)) :
    given (log ++ log') = given log ++ given log' := by
  induction log with
  | nil => rfl
  | cons e log ih => cases e <;> simp [given, ih]

variable [DecidableEq ι]

@[simp] lemma takenBy_append (i : ι) (log log' : List (Transfer ι α)) :
    takenBy i (log ++ log') = takenBy i log ++ takenBy i log' := by
  induction log with
  | nil => rfl
  | cons e log ih =>
    cases e with
    | took j xs =>
      simp only [List.cons_append, takenBy, ih]
      split <;> simp
    | gave j xs => simp [takenBy, ih]

@[simp] lemma givenBy_append (i : ι) (log log' : List (Transfer ι α)) :
    givenBy i (log ++ log') = givenBy i log ++ givenBy i log' := by
  induction log with
  | nil => rfl
  | cons e log ih =>
    cases e with
    | took j xs => simp [givenBy, ih]
    | gave j xs =>
      simp only [List.cons_append, givenBy, ih]
      split <;> simp

/-- The logs of relays that give on what they took, in order, and take turns. -/
inductive InTurn : List (Transfer ι α) → Prop
  | nil : InTurn []
  | took {log : List (Transfer ι α)} (i : ι) (xs : List α) (h : InTurn log)
      (hturn : xs ≠ [] → ∀ j, j ≠ i → takenBy j log = givenBy j log) :
      InTurn (log ++ [.took i xs])
  | gave {log : List (Transfer ι α)} (i : ι) (xs : List α) (h : InTurn log)
      (howed : givenBy i log ++ xs <+: takenBy i log) : InTurn (log ++ [.gave i xs])

/-- At most one relay, the owner, has something left, and it is the end of what was taken in. -/
structure Owned (log : List (Transfer ι α)) (owner : Option ι) (rest : List α) : Prop where
  total : taken log = given log ++ rest
  ofOwner : ∀ i, owner = some i → takenBy i log = givenBy i log ++ rest
  others : ∀ j, owner ≠ some j → takenBy j log = givenBy j log
  nobody : owner = none → rest = []

lemma Owned.took {log : List (Transfer ι α)} {owner : Option ι} {rest : List α}
    (h : Owned log owner rest) (i : ι) {xs : List α}
    (hturn : ∀ j, j ≠ i → takenBy j log = givenBy j log) :
    Owned (log ++ [.took i xs]) (some i) (rest ++ xs) := by
  -- Whoever the owner was, it has nothing left unless it is the one that takes something in.
  have hrest : takenBy i log = givenBy i log ++ rest := by
    by_cases howner : owner = some i
    · exact h.ofOwner i howner
    · have hempty : rest = [] := by
        cases hcase : owner with
        | none => exact h.nobody hcase
        | some k =>
          have hki : k ≠ i := by
            rintro rfl
            exact howner hcase
          have hk := h.ofOwner k hcase
          rw [hturn k hki] at hk
          simpa using hk
      rw [h.others i howner, hempty, List.append_nil]
  refine ⟨?_, ?_, ?_, by simp⟩
  · simp [Relay.taken, Relay.given, h.total]
  · rintro j hj
    cases hj
    simp [takenBy, givenBy, hrest]
  · intro j hj
    have hji : i ≠ j := fun hij => hj (by rw [hij])
    simp [takenBy, givenBy, hji, hturn j (Ne.symm hji)]

lemma Owned.gave {log : List (Transfer ι α)} {owner : Option ι} {rest : List α}
    (h : Owned log owner rest) (i : ι) {xs : List α} (hne : xs ≠ [])
    (howed : givenBy i log ++ xs <+: takenBy i log) :
    ∃ rest', Owned (log ++ [.gave i xs]) owner rest' := by
  have howner : owner = some i := by
    by_contra hother
    obtain ⟨ys, hys⟩ := howed
    rw [h.others i hother, List.append_assoc] at hys
    have hnil := List.append_right_eq_self.mp hys
    exact hne (List.append_eq_nil_iff.mp hnil).1
  obtain ⟨rest', hrest⟩ := howed
  have hsplit : rest = xs ++ rest' := by
    have heq := (h.ofOwner i howner).symm.trans hrest.symm
    rw [List.append_assoc] at heq
    exact List.append_cancel_left heq
  refine ⟨rest', ?_, ?_, ?_, by simp [howner]⟩
  · simp [Relay.taken, Relay.given, h.total, hsplit]
  · rintro j hj
    rw [howner] at hj
    cases hj
    simp [takenBy, givenBy, ← hrest]
  · intro j hj
    have hji : i ≠ j := fun hij => hj (by rw [howner, hij])
    simp [takenBy, givenBy, hji, h.others j hj]

lemma InTurn.owned {log : List (Transfer ι α)} (h : InTurn log) :
    ∃ owner rest, Owned log owner rest := by
  induction h with
  | nil => exact ⟨none, [], rfl, by simp, fun _ _ => rfl, fun _ => rfl⟩
  | took i xs _ hturn ih =>
    obtain ⟨owner, rest, hown⟩ := ih
    by_cases hne : xs = []
    · subst hne
      exact ⟨owner, rest, by simpa [taken, given] using hown.total,
        fun k hk => by simpa [takenBy, givenBy] using hown.ofOwner k hk,
        fun k hk => by simpa [takenBy, givenBy] using hown.others k hk, hown.nobody⟩
    · exact ⟨some i, rest ++ xs, hown.took i (hturn hne)⟩
  | gave i xs _ howed ih =>
    obtain ⟨owner, rest, hown⟩ := ih
    by_cases hne : xs = []
    · subst hne
      exact ⟨owner, rest, by simpa [taken, given] using hown.total,
        fun k hk => by simpa [takenBy, givenBy] using hown.ofOwner k hk,
        fun k hk => by simpa [takenBy, givenBy] using hown.others k hk, hown.nobody⟩
    · obtain ⟨rest', hown'⟩ := hown.gave i hne howed
      exact ⟨owner, rest', hown'⟩

/-- **Relays that take turns act like one queue.** A relay takes nothing while an earlier one has
something left to give, so that the order of all that is given is that of all that is taken. -/
theorem InTurn.given_prefix {log : List (Transfer ι α)} (h : InTurn log) :
    given log <+: taken log := by
  obtain ⟨owner, rest, hown⟩ := h.owned
  exact ⟨rest, hown.total.symm⟩

/-! ## Relays in line -/

/-- What the first `n` relays hold, those in front first. -/
def backlog (n : ℕ) (holds : ℕ → List α) : List α := (List.range n).flatMap holds

section

omit [DecidableEq ι]

variable {n i : ℕ} {holds holds' : ℕ → List α} {x : α}

lemma backlog_congr (h : ∀ j < n, holds' j = holds j) : backlog n holds' = backlog n holds :=
  List.flatMap_congr (fun j hj => h j (List.mem_range.mp hj))

/-- The last relay takes an item in. -/
lemma backlog_took (hi : i + 1 = n) (hlast : holds' i = holds i ++ [x])
    (h : ∀ j, j ≠ i → holds' j = holds j) : backlog n holds' = backlog n holds ++ [x] := by
  subst hi
  have hfront : backlog i holds' = backlog i holds :=
    backlog_congr (fun j hj => h j (Nat.ne_of_lt hj))
  unfold backlog at hfront ⊢
  rw [List.range_succ, List.flatMap_append, List.flatMap_append, hfront]
  simp [hlast]

/-- The first relay that holds something gives an item on. -/
lemma backlog_gave (hi : i < n) (hfront : ∀ j < i, holds j = []) (hnext : holds i = x :: holds' i)
    (h : ∀ j, j ≠ i → holds' j = holds j) : backlog n holds = x :: backlog n holds' := by
  obtain ⟨k, rfl⟩ := Nat.exists_eq_add_of_lt hi
  have hempty : backlog i holds = [] :=
    List.flatMap_eq_nil_iff.mpr (fun j hj => hfront j (List.mem_range.mp hj))
  have hempty' : backlog i holds' = [] := by
    rw [backlog_congr (fun j hj => h j (Nat.ne_of_lt hj)), hempty]
  have hrest : ∀ j ∈ List.range k, holds' (i + 1 + j) = holds (i + 1 + j) :=
    fun j _ => h _ (by omega)
  have hsplit : ∀ f : ℕ → List α, backlog (i + k + 1) f =
      backlog i f ++ (f i ++ (List.range k).flatMap (fun j => f (i + 1 + j))) := by
    intro f
    rw [show i + k + 1 = i + 1 + k by omega]
    unfold backlog
    rw [List.range_add, List.range_succ]
    simp [List.flatMap_map]
  rw [hsplit, hsplit, hempty, hempty', hnext, List.flatMap_congr hrest]
  rfl

/-- A relay joins the line. -/
lemma backlog_joined (h : holds n = []) : backlog (n + 1) holds = backlog n holds := by
  unfold backlog
  rw [List.range_succ, List.flatMap_append]
  simp [h]

end

end Relay
