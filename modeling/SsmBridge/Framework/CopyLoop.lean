import Mathlib.Data.List.Basic
import Mathlib.Tactic.Common

/-!
# Copying a stream through a buffer

A copy loop reads from a source into a buffer of fixed size, and writes what the buffer holds to a
sink, until the source is at its end and everything is written; then it shuts the sink down.  Source
and sink may fail at any point.  `Copy` is such a loop; what it has taken from the source and given
to the sink are observations.

`Copy.Sound` says where everything is: what was taken is what was given followed by what is held,
and a loop that came to its end has given all it took.  Every operation keeps it (`Moves.sound`), in
whichever order the source and the sink let the loop take them, and what was given only grows
(`Moves.given_prefix`).
-/

namespace CopyLoop

variable {α : Type} {size : ℕ}

inductive Stage
  | copying
  /-- Everything is written; the sink is being shut down. -/
  | closing
  | finished
  | failed
  deriving DecidableEq

structure Copy (α : Type) where
  /-- What is in the buffer and not written yet. -/
  held : List α
  /-- How much of the buffer, in front of it, has been written. -/
  offset : ℕ
  /-- The source is at its end. -/
  ended : Bool
  stage : Stage
  taken : List α
  given : List α
  deriving DecidableEq

namespace Copy

def new : Copy α where
  held := []
  offset := 0
  ended := false
  stage := .copying
  taken := []
  given := []

/-! ## Operations -/

/-- How much the buffer can take. -/
def room (size : ℕ) (c : Copy α) : ℕ := size - (c.offset + c.held.length)

/-- The source can be read. -/
def reads (size : ℕ) (c : Copy α) : Bool :=
  c.stage == .copying && !c.ended && decide (0 < c.room size)

/-- The source has a piece. -/
def fill (size : ℕ) (c : Copy α) (piece : List α) : Option (Copy α) :=
  if c.reads size = true ∧ piece ≠ [] ∧ piece.length ≤ c.room size then
    some { c with held := c.held ++ piece, taken := c.taken ++ piece }
  else none

/-- The source is at its end. -/
def sourceEnd (size : ℕ) (c : Copy α) : Option (Copy α) :=
  if c.reads size then some { c with ended := true } else none

/-- What a read returned, which at the end of the source is nothing. -/
def receive (size : ℕ) (c : Copy α) (piece : List α) : Option (Copy α) :=
  if piece = [] then c.sourceEnd size else c.fill size piece

/-- The sink takes `n` items; once it has taken all, the buffer is used from its start again. -/
def drain (c : Copy α) (n : ℕ) : Option (Copy α) :=
  if c.stage = .copying ∧ 0 < n ∧ n ≤ c.held.length then
    some { c with held := c.held.drop n
                  offset := if n = c.held.length then 0 else c.offset + n
                  given := c.given ++ c.held.take n }
  else none

/-- The source is at its end and everything is written. -/
def wind (c : Copy α) : Option (Copy α) :=
  if c.stage = .copying ∧ c.ended = true ∧ c.held = [] then some { c with stage := .closing }
  else none

/-- The sink is shut down. -/
def shut (c : Copy α) : Option (Copy α) :=
  if c.stage = .closing then some { c with stage := .finished } else none

/-- The loop is over. -/
def isDone (c : Copy α) : Bool := c.stage == .finished || c.stage == .failed

/-- The source or the sink fails. -/
def fail (c : Copy α) : Option (Copy α) :=
  if c.isDone then none else some { c with stage := .failed }

/-! ## What the operations keep -/

/-- Where everything is. -/
structure Sound (size : ℕ) (c : Copy α) : Prop where
  taken : c.taken = c.given ++ c.held
  bound : c.offset + c.held.length ≤ size
  complete : c.stage = .closing ∨ c.stage = .finished → c.ended = true ∧ c.held = []

lemma Sound.new : (new : Copy α).Sound size where
  taken := rfl
  bound := Nat.zero_le _
  complete h := by
    rcases h with h | h <;> cases h

/-- What was given is the front of what was taken. -/
lemma Sound.given_prefix {c : Copy α} (h : c.Sound size) : c.given <+: c.taken :=
  ⟨c.held, h.taken.symm⟩

/-- A loop that came to its end has given all it took. -/
lemma Sound.given_eq {c : Copy α} (h : c.Sound size)
    (hstage : c.stage = .closing ∨ c.stage = .finished) : c.given = c.taken := by
  rw [h.taken, (h.complete hstage).2, List.append_nil]

end Copy

/-- The operations of a loop, as one list. -/
inductive Moves (size : ℕ) (c : Copy α) : Copy α → Prop
  | fill {piece : List α} (hreads : c.reads size = true) (hne : piece ≠ [])
      (hroom : piece.length ≤ c.room size) :
      Moves size c { c with held := c.held ++ piece, taken := c.taken ++ piece }
  | sourceEnd (hreads : c.reads size = true) : Moves size c { c with ended := true }
  | drain {n : ℕ} (hstage : c.stage = .copying) (hpos : 0 < n) (hle : n ≤ c.held.length) :
      Moves size c { c with held := c.held.drop n
                            offset := if n = c.held.length then 0 else c.offset + n
                            given := c.given ++ c.held.take n }
  | wind (hstage : c.stage = .copying) (hended : c.ended = true) (hheld : c.held = []) :
      Moves size c { c with stage := .closing }
  | shut (hstage : c.stage = .closing) : Moves size c { c with stage := .finished }
  | fail (hdone : c.isDone = false) : Moves size c { c with stage := .failed }

section

variable {c c' : Copy α} {piece : List α} {n : ℕ}

lemma Copy.sourceEnd_cases (h : c.sourceEnd size = some c') :
    c.reads size = true ∧ c' = { c with ended := true } := by
  unfold Copy.sourceEnd at h
  split at h <;> cases h
  next hreads => exact ⟨hreads, rfl⟩

lemma Copy.fill_cases (h : c.fill size piece = some c') :
    c.reads size = true ∧ piece ≠ [] ∧ piece.length ≤ c.room size ∧
      c' = { c with held := c.held ++ piece, taken := c.taken ++ piece } := by
  unfold Copy.fill at h
  split at h <;> cases h
  next hfill =>
    obtain ⟨hreads, hne, hroom⟩ := hfill
    exact ⟨hreads, hne, hroom, rfl⟩

lemma Copy.drain_cases (h : c.drain n = some c') :
    c.stage = .copying ∧ 0 < n ∧ n ≤ c.held.length ∧
      c' = { c with held := c.held.drop n
                    offset := if n = c.held.length then 0 else c.offset + n
                    given := c.given ++ c.held.take n } := by
  unfold Copy.drain at h
  split at h <;> cases h
  next hdrain =>
    obtain ⟨hstage, hpos, hle⟩ := hdrain
    exact ⟨hstage, hpos, hle, rfl⟩

lemma Copy.wind_cases (h : c.wind = some c') :
    c.stage = .copying ∧ c.ended = true ∧ c.held = [] ∧ c' = { c with stage := .closing } := by
  unfold Copy.wind at h
  split at h <;> cases h
  next hwind =>
    obtain ⟨hstage, hended, hheld⟩ := hwind
    exact ⟨hstage, hended, hheld, rfl⟩

lemma Copy.shut_cases (h : c.shut = some c') :
    c.stage = .closing ∧ c' = { c with stage := .finished } := by
  unfold Copy.shut at h
  split at h <;> cases h
  next hstage => exact ⟨hstage, rfl⟩

lemma Copy.fail_cases (h : c.fail = some c') :
    c.isDone = false ∧ c' = { c with stage := .failed } := by
  unfold Copy.fail at h
  split at h <;> cases h
  next hover => exact ⟨by simpa using hover, rfl⟩

lemma moves_of_sourceEnd (h : c.sourceEnd size = some c') : Moves size c c' := by
  obtain ⟨hreads, rfl⟩ := Copy.sourceEnd_cases h
  exact .sourceEnd hreads

lemma moves_of_fill (h : c.fill size piece = some c') : Moves size c c' := by
  obtain ⟨hreads, hne, hroom, rfl⟩ := Copy.fill_cases h
  exact .fill hreads hne hroom

/-- A read adds what it returned to what was taken. -/
lemma Copy.receive_cases (h : c.receive size piece = some c') :
    Moves size c c' ∧ c'.taken = c.taken ++ piece ∧ (c'.ended = true ↔ piece = []) := by
  unfold Copy.receive at h
  split at h
  · next hnil =>
    refine ⟨moves_of_sourceEnd h, ?_⟩
    obtain ⟨hreads, rfl⟩ := Copy.sourceEnd_cases h
    simp [hnil]
  · next hne =>
    refine ⟨moves_of_fill h, ?_⟩
    obtain ⟨hreads, -, hroom, rfl⟩ := Copy.fill_cases h
    simp only [Copy.reads, Bool.and_eq_true, Bool.not_eq_true'] at hreads
    simp [hne, hreads.1.2]

lemma Copy.reads_of_receive (h : c.receive size piece = some c') : c.reads size = true := by
  unfold Copy.receive at h
  split at h
  · exact (Copy.sourceEnd_cases h).1
  · exact (Copy.fill_cases h).1

lemma moves_of_drain (h : c.drain n = some c') : Moves size c c' := by
  obtain ⟨hstage, hpos, hle, rfl⟩ := Copy.drain_cases h
  exact .drain hstage hpos hle

lemma moves_of_wind (h : c.wind = some c') : Moves size c c' := by
  obtain ⟨hstage, hended, hheld, rfl⟩ := Copy.wind_cases h
  exact .wind hstage hended hheld

lemma moves_of_shut (h : c.shut = some c') : Moves size c c' := by
  obtain ⟨hstage, rfl⟩ := Copy.shut_cases h
  exact .shut hstage

lemma moves_of_fail (h : c.fail = some c') : Moves size c c' := by
  obtain ⟨hover, rfl⟩ := Copy.fail_cases h
  exact .fail hover

/-- A loop that reads is copying, and its source is not at its end. -/
lemma Copy.reads_iff : c.reads size = true ↔
    c.stage = .copying ∧ c.ended = false ∧ 0 < c.room size := by
  simp [Copy.reads, and_assoc]

/-- **Every operation keeps everything where it is.** What was read is what was written and what
the buffer holds, so that a copy neither loses nor repeats an element. -/
theorem Moves.sound (h : c.Sound size) (hmoves : Moves size c c') : c'.Sound size := by
  cases hmoves with
  | fill hreads hne hroom =>
    obtain ⟨hstage, hended, hpos⟩ := Copy.reads_iff.mp hreads
    refine ⟨by simp [h.taken], ?_, fun hcomplete => ?_⟩
    · simp only [Copy.room, List.length_append] at hroom hpos ⊢
      omega
    · simp [hstage] at hcomplete
  | sourceEnd hreads =>
    obtain ⟨hstage, hended, hpos⟩ := Copy.reads_iff.mp hreads
    refine ⟨h.taken, h.bound, fun hcomplete => ?_⟩
    simp [hstage] at hcomplete
  | @drain n hstage hpos hle =>
    refine ⟨?_, ?_, fun hcomplete => ?_⟩
    · rw [List.append_assoc, List.take_append_drop]
      exact h.taken
    · have hbound := h.bound
      simp only [List.length_drop]
      split <;> omega
    · simp [hstage] at hcomplete
  | wind hstage hended hheld => exact ⟨h.taken, h.bound, fun _ => ⟨hended, hheld⟩⟩
  | shut hstage => exact ⟨h.taken, h.bound, fun _ => h.complete (.inl hstage)⟩
  | fail hover =>
    refine ⟨h.taken, h.bound, fun hcomplete => ?_⟩
    rcases hcomplete with hstage | hstage <;> cases hstage

/-- What was given stays given. -/
theorem Moves.given_prefix (hmoves : Moves size c c') : c.given <+: c'.given := by
  cases hmoves with
  | drain => exact List.prefix_append _ _
  | fill | sourceEnd | wind | shut | fail => exact List.prefix_refl _

/-- A loop that is over does nothing more. -/
lemma Moves.not_done (hmoves : Moves size c c') : c.isDone = false := by
  cases hmoves with
  | fill hreads | sourceEnd hreads => simp [Copy.isDone, (Copy.reads_iff.mp hreads).1]
  | drain hstage | wind hstage | shut hstage => simp [Copy.isDone, hstage]
  | fail hover => exact hover

end

end CopyLoop
