import Mathlib.Data.List.Basic
import Mathlib.Data.Nat.Notation

/-!
# Cutting a list into chunks

`chunks size l` cuts a list into pieces of `size` elements, the last one possibly shorter.  It is
the loop that takes a piece off the front until nothing is left; the length of the list is fuel
enough, since every round takes at least one element.
-/

namespace Chunks

variable {α : Type*} {size : ℕ} {l : List α}

/-- Take pieces off the front, for so many rounds. -/
def chunkLoop (size : ℕ) : ℕ → List α → List (List α)
  | 0, _ => []
  | fuel + 1, l => if l.isEmpty then [] else l.take size :: chunkLoop size fuel (l.drop size)

def chunks (size : ℕ) (l : List α) : List (List α) := chunkLoop size l.length l

lemma length_drop_lt (hsize : 1 ≤ size) (hl : l ≠ []) : (l.drop size).length < l.length := by
  have hpos := List.length_pos_of_ne_nil hl
  rw [List.length_drop]
  omega

/-- More fuel than the list is long changes nothing. -/
lemma chunkLoop_eq (hsize : 1 ≤ size) {fuel fuel' : ℕ} (h : l.length ≤ fuel)
    (h' : l.length ≤ fuel') : chunkLoop size fuel l = chunkLoop size fuel' l := by
  induction fuel generalizing fuel' l with
  | zero =>
    obtain rfl : l = [] := List.length_eq_zero_iff.mp (Nat.le_zero.mp h)
    cases fuel' <;> simp [chunkLoop]
  | succ fuel ih =>
    by_cases hl : l = []
    · subst hl
      cases fuel' <;> simp [chunkLoop]
    · have hpos := List.length_pos_of_ne_nil hl
      have hlt := length_drop_lt hsize hl
      cases fuel' with
      | zero => omega
      | succ fuel' =>
        simp only [chunkLoop]
        rw [ih (by omega) (show (l.drop size).length ≤ fuel' by omega)]

@[simp] lemma chunks_nil : chunks size ([] : List α) = [] := rfl

/-- One round of the loop. -/
lemma chunks_of_ne_nil (hsize : 1 ≤ size) (hl : l ≠ []) :
    chunks size l = l.take size :: chunks size (l.drop size) := by
  have hlt := length_drop_lt hsize hl
  cases hlength : l.length with
  | zero => exact absurd (List.length_eq_zero_iff.mp hlength) hl
  | succ n =>
    rw [chunks, hlength, chunkLoop, if_neg (by simpa using hl), chunks]
    rw [chunkLoop_eq hsize (by omega) (Nat.le_refl _)]

/-- The chunks make up the list. -/
lemma flatten_chunks (hsize : 1 ≤ size) : (chunks size l).flatten = l := by
  induction hn : l.length using Nat.strongRecOn generalizing l with
  | ind n ih =>
    by_cases hl : l = []
    · rw [hl]
      rfl
    · have hlt := length_drop_lt hsize hl
      rw [chunks_of_ne_nil hsize hl, List.flatten_cons, ih _ (hn ▸ hlt) rfl, List.take_append_drop]

/-- No chunk is empty or too long. -/
lemma length_of_mem_chunks (hsize : 1 ≤ size) {c : List α} (hc : c ∈ chunks size l) :
    1 ≤ c.length ∧ c.length ≤ size := by
  induction hn : l.length using Nat.strongRecOn generalizing l with
  | ind n ih =>
    by_cases hl : l = []
    · rw [hl] at hc
      cases hc
    · have hlt := length_drop_lt hsize hl
      have hpos := List.length_pos_of_ne_nil hl
      rw [chunks_of_ne_nil hsize hl] at hc
      rcases List.mem_cons.mp hc with rfl | hc
      · rw [List.length_take]
        omega
      · exact ih _ (hn ▸ hlt) hc rfl

/-- The first chunk is the longest. -/
lemma length_le_of_mem_chunks (hsize : 1 ≤ size) {c : List α} (hc : c ∈ chunks size l) :
    c.length ≤ min size l.length := by
  refine Nat.le_min.mpr ⟨(length_of_mem_chunks hsize hc).2, ?_⟩
  have hsub : c.length ≤ ((chunks size l).flatten).length :=
    (List.sublist_flatten_of_mem hc).length_le
  rwa [flatten_chunks hsize] at hsub

end Chunks
