import SsmBridge.Construction.Ack
import SsmBridge.Construction.Retry

/-!
# Round-trip samples, with overflow

`RttEstimate::record` of `src/ack.rs` once more, operation by operation: a sum or a product of
`Duration`s above `Duration::MAX` panics, which is `none` here.  Division by a positive number,
`abs_diff` and `clamp` cannot fail.  `RttEstimate.record` is the same arithmetic without the checks;
the rest of the development uses it.
-/

namespace SsmBridge

/-- `Duration * u32`. -/
def durationMul (d k : ℕ) : Option ℕ := if d * k ≤ durationMax then some (d * k) else none

/-- `Duration + Duration`. -/
def durationAdd (a b : ℕ) : Option ℕ := if a + b ≤ durationMax then some (a + b) else none

namespace RttEstimate

/-- `(a * weight + b) / (weight + 1)`, as both recurrences of `record` compute it. -/
def tryAverage (weight a b : ℕ) : Option ℕ := do
  let product ← durationMul a weight
  let sum ← durationAdd product b
  return sum / (weight + 1)

/-- `record`; `none` is a panic. -/
def tryRecord (e : RttEstimate) (sample : ℕ) : Option RttEstimate := do
  let variance ←
    if e.samples = 0 then some (sample / 2)
    else tryAverage 3 e.variance (absDiff e.smoothed sample)
  let smoothed ← if e.samples = 0 then some sample else tryAverage 7 e.smoothed sample
  let headroom ← durationMul variance rtoVarianceFactor
  let rto ← durationAdd smoothed headroom
  return { smoothed, variance, rto := max minRto (min maxRto rto), samples := e.samples + 1 }

/-- Fold samples into the estimate. -/
def tryRecordAll (samples : List ℕ) : Option RttEstimate := samples.foldlM tryRecord initial

/-- The same without the checks. -/
def recordAll (samples : List ℕ) : RttEstimate := samples.foldl record initial

end RttEstimate

end SsmBridge
