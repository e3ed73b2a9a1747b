import Mathlib.Data.List.Range
import Mathlib.Tactic.Ring
import Mathlib.Tactic.Linarith

/-!
# Counting with a signed 64-bit register

A sequence counter held in an `i64` agrees with the integers as long as it stays below `2 ^ 63 - 1`:
`toInt_add_one` is the one fact that turns wrapping addition into the successor, and every other
comparison is moved to the integers by `Int64.lt_iff_toInt_lt` and `Int64.toInt_inj`.

`countFrom a k` is the list `a, a + 1, …, a + k - 1` that such a counter issues.
-/

namespace SignedCounter

/-- The successor of a counter that has not reached the maximum does not wrap. -/
lemma toInt_add_one {x : Int64} (h : x.toInt < 2 ^ 63 - 1) : (x + 1).toInt = x.toInt + 1 := by
  have hlow := x.le_toInt
  have hone : (1 : Int64).toInt = 1 := by decide
  rw [Int64.toInt_add, hone]
  exact Int.bmod_eq_of_le (by omega) (by omega)

/-- The integers a counter started at `a` issues in its first `k` steps. -/
def countFrom (a : ℤ) (k : ℕ) : List ℤ := (List.range k).map (fun i : ℕ => a + (i : ℤ))

@[simp] lemma countFrom_zero (a : ℤ) : countFrom a 0 = [] := rfl

lemma countFrom_succ (a : ℤ) (k : ℕ) : countFrom a (k + 1) = countFrom a k ++ [a + k] := by
  rw [countFrom, List.range_succ, List.map_append, countFrom]
  rfl

@[simp] lemma length_countFrom (a : ℤ) (k : ℕ) : (countFrom a k).length = k := by
  simp [countFrom]

@[simp] lemma mem_countFrom {a n : ℤ} {k : ℕ} : n ∈ countFrom a k ↔ a ≤ n ∧ n < a + k := by
  simp only [countFrom, List.mem_map, List.mem_range]
  constructor
  · rintro ⟨i, hi, rfl⟩
    omega
  · rintro ⟨hlow, hhigh⟩
    exact ⟨(n - a).toNat, by omega, by omega⟩

end SignedCounter
