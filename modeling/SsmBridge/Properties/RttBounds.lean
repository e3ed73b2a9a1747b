import SsmBridge.Construction.RttSamples
import SsmBridge.Properties.Retransmission

/-!
# The bounds of the round-trip estimate

Both recurrences of `RttEstimate::record` are averages with truncating division.  Rounding down
cannot push an average below a bound that both its parts respect, since the bound is itself a whole
number; so the smoothed round trip never leaves the range of the samples, and the deviation stays
below the largest.  Neither gets near the point where a `Duration` overflows, if the samples are at
most an eighth of the largest.

The number of samples is a `u64`, and that it is zero marks the first sample.  After `2 ^ 64`
samples it is zero again: the next sample starts the estimate anew, within the same bounds.
-/

namespace SsmBridge

open Machine

namespace RttEstimate

/-! ## One sample -/

section Averages

variable {weight lo hi a b : ℕ}

/-- An average is not below a bound of both parts. -/
lemma le_average (ha : lo ≤ a) (hb : lo ≤ b) : lo ≤ (a * weight + b) / (weight + 1) := by
  rw [Nat.le_div_iff_mul_le (Nat.succ_pos weight), Nat.mul_succ]
  exact Nat.add_le_add (Nat.mul_le_mul_right weight ha) hb

/-- Nor above one. -/
lemma average_le (ha : a ≤ hi) (hb : b ≤ hi) : (a * weight + b) / (weight + 1) ≤ hi := by
  apply Nat.div_le_of_le_mul
  rw [Nat.succ_mul, Nat.mul_comm weight hi]
  exact Nat.add_le_add (Nat.mul_le_mul_right weight ha) hb

lemma tryAverage_eq (h : a * weight + b ≤ durationMax) :
    tryAverage weight a b = some ((a * weight + b) / (weight + 1)) := by
  have hproduct : a * weight ≤ durationMax := (Nat.le_add_right _ _).trans h
  simp [tryAverage, durationMul, durationAdd, hproduct, h]

lemma absDiff_le (ha : a ≤ hi) (hb : b ≤ hi) : absDiff a b ≤ hi := by
  unfold absDiff
  omega

end Averages

/-- The estimate is within the range of the samples. -/
structure Within (lo hi : ℕ) (e : RttEstimate) : Prop where
  lower : lo ≤ e.smoothed
  upper : e.smoothed ≤ hi
  variance : e.variance ≤ hi

section Record

variable {e : RttEstimate} {lo hi x : ℕ}

/-- **A sample keeps the estimate in range.** The first one puts it there. -/
theorem within_record (h : e.samples ≠ 0 → e.Within lo hi) (hlo : lo ≤ x) (hhi : x ≤ hi) :
    (e.record x).Within lo hi := by
  by_cases hfirst : e.samples = 0
  · refine ⟨?_, ?_, ?_⟩ <;> simp only [record, hfirst, if_true]
    · exact hlo
    · exact hhi
    · omega
  · have hwithin := h hfirst
    refine ⟨?_, ?_, ?_⟩ <;> simp only [record, hfirst, if_false]
    · exact le_average hwithin.lower hlo
    · exact average_le hwithin.upper hhi
    · exact average_le hwithin.variance (absDiff_le hwithin.upper hhi)

/-- **No operation overflows** while the samples are at most an eighth of `Duration::MAX`. -/
theorem tryRecord_eq (h : e.samples ≠ 0 → e.Within 0 (durationMax / 8))
    (hx : x ≤ durationMax / 8) : e.tryRecord x = some (e.record x) := by
  have hafter := within_record h (Nat.zero_le x) hx
  have hheadroom : (e.record x).variance * rtoVarianceFactor ≤ durationMax := by
    have hvariance := hafter.variance
    simp only [rtoVarianceFactor]
    omega
  have hrto : (e.record x).smoothed + (e.record x).variance * rtoVarianceFactor ≤ durationMax := by
    have hvariance := hafter.variance
    have hsmoothed := hafter.upper
    simp only [rtoVarianceFactor]
    omega
  by_cases hfirst : e.samples = 0
  · simp only [record, hfirst, if_true] at hheadroom hrto
    simp [tryRecord, record, durationMul, durationAdd, hfirst, hheadroom, hrto]
  · have hwithin := h hfirst
    have hdeviation := absDiff_le hwithin.upper hx
    have hvariance : tryAverage 3 e.variance (absDiff e.smoothed x) =
        some ((e.variance * 3 + absDiff e.smoothed x) / 4) := by
      apply tryAverage_eq
      have hold := hwithin.variance
      omega
    have hsmoothed : tryAverage 7 e.smoothed x = some ((e.smoothed * 7 + x) / 8) := by
      apply tryAverage_eq
      have hold := hwithin.upper
      omega
    simp only [record, hfirst, if_false] at hheadroom hrto
    simp [tryRecord, record, durationMul, durationAdd, hfirst, hvariance, hsmoothed, hheadroom, hrto]

/-- The timeout is clamped, and covers the smoothed round trip as far as the clamp allows. -/
lemma rto_record (e : RttEstimate) (x : ℕ) :
    minRto ≤ (e.record x).rto ∧ (e.record x).rto ≤ maxRto ∧
      min (e.record x).smoothed maxRto ≤ (e.record x).rto := by
  have hle : minRto ≤ maxRto := by decide
  have hrto : (e.record x).rto =
      max minRto (min maxRto ((e.record x).smoothed + (e.record x).variance * rtoVarianceFactor)) :=
    rfl
  rw [hrto]
  omega

/-- On a link with a constant round trip the deviation decays. -/
lemma variance_record_le (hsamples : e.samples ≠ 0) (hsmoothed : e.smoothed = x) :
    (e.record x).variance ≤ e.variance := by
  have hdeviation : absDiff x x = 0 := by
    unfold absDiff
    omega
  simp only [record, hsamples, if_false, hsmoothed, hdeviation]
  omega

end Record

/-! ## All samples -/

section Fold

variable {samples : List ℕ} {lo hi x : ℕ}

lemma recordAll_concat (samples : List ℕ) (x : ℕ) :
    recordAll (samples ++ [x]) = (recordAll samples).record x := by
  rw [recordAll, recordAll, List.foldl_concat]

/-- The counter counts modulo `2 ^ 64`. -/
lemma samples_recordAll (samples : List ℕ) :
    (recordAll samples).samples = UInt64.ofNat samples.length := by
  induction samples using List.reverseRecOn with
  | nil => rfl
  | append_singleton before x ih =>
    rw [recordAll_concat, List.length_append, List.length_singleton, UInt64.ofNat_add, ← ih]
    rfl

/-- **A run of samples keeps the estimate in range.** The smoothed value is a weighted mean of the
samples, and the variance one of their distances from it. -/
theorem within_recordAll (hlo : ∀ x ∈ samples, lo ≤ x) (hhi : ∀ x ∈ samples, x ≤ hi)
    (hne : samples ≠ []) : (recordAll samples).Within lo hi := by
  induction samples using List.reverseRecOn with
  | nil => exact absurd rfl hne
  | append_singleton before x ih =>
    rw [recordAll_concat]
    apply within_record
    · intro hcount
      apply ih
      · intro y hy
        exact hlo y (List.mem_append_left _ hy)
      · intro y hy
        exact hhi y (List.mem_append_left _ hy)
      · rintro rfl
        exact hcount rfl
    · exact hlo x (List.mem_append_right _ List.mem_cons_self)
    · exact hhi x (List.mem_append_right _ List.mem_cons_self)

/-- **A run of samples does not overflow.** The largest intermediate value is seven times the
smoothed one plus a sample, so that an eighth of the range is enough room. -/
theorem tryRecordAll_eq (hmax : ∀ x ∈ samples, x ≤ durationMax / 8) :
    tryRecordAll samples = some (recordAll samples) := by
  induction samples using List.reverseRecOn with
  | nil => rfl
  | append_singleton before x ih =>
    have hbefore : ∀ y ∈ before, y ≤ durationMax / 8 :=
      fun y hy => hmax y (List.mem_append_left _ hy)
    have hfits : (recordAll before).samples ≠ 0 →
        (recordAll before).Within 0 (durationMax / 8) := by
      intro hcount
      apply within_recordAll (fun y _ => Nat.zero_le y) hbefore
      rintro rfl
      exact hcount rfl
    have hx := hmax x (List.mem_append_right _ List.mem_cons_self)
    rw [recordAll_concat, ← tryRecord_eq hfits hx, tryRecordAll, List.foldlM_append,
      ← tryRecordAll, ih hbefore]
    simp

/-- On a link with a constant round trip the smoothed one is equal to it. -/
lemma smoothed_recordAll {c : ℕ} (hne : samples ≠ []) (hc : ∀ x ∈ samples, x = c) :
    (recordAll samples).smoothed = c := by
  have hwithin := within_recordAll (fun x hx => (hc x hx).ge) (fun x hx => (hc x hx).le) hne
  exact Nat.le_antisymm hwithin.upper hwithin.lower

/-- The deviation decays there until the counter is back at zero. -/
lemma variance_concat_le {c : ℕ} (hcount : samples.length % 2 ^ 64 ≠ 0)
    (hc : ∀ x ∈ samples, x = c) :
    (recordAll (samples ++ [c])).variance ≤ (recordAll samples).variance := by
  have hne : samples ≠ [] := by
    rintro rfl
    exact hcount rfl
  have hsamples : (recordAll samples).samples ≠ 0 := by
    rw [samples_recordAll]
    intro hzero
    apply hcount
    rw [← UInt64.toNat_ofNat', hzero]
    rfl
  rw [recordAll_concat]
  exact variance_record_le hsamples (smoothed_recordAll hne hc)

end Fold

/-- What the samples promise of the estimate. -/
structure Bounded (samples : List ℕ) (hne : samples ≠ []) (e : RttEstimate) : Prop where
  smoothed_ge : samples.min hne ≤ e.smoothed
  smoothed_le : e.smoothed ≤ samples.max hne
  variance_le : e.variance ≤ samples.max hne
  rto_ge : minRto ≤ e.rto
  rto_le : e.rto ≤ maxRto
  rto_covers : min e.smoothed maxRto ≤ e.rto
  /-- The count is that of the samples, modulo `2 ^ 64`. -/
  count : e.samples.toNat = samples.length % 2 ^ 64
  smoothed_eq : ∀ c, (∀ x ∈ samples, x = c) → e.smoothed = c
  /-- A record does not raise the deviation, unless the count before it is zero. -/
  variance_decays : ∀ c, (∀ x ∈ samples, x = c) → ∀ n < samples.length, n % 2 ^ 64 ≠ 0 →
    ∀ e₁ e₂, tryRecordAll (samples.take n) = some e₁ →
      tryRecordAll (samples.take (n + 1)) = some e₂ → e₂.variance ≤ e₁.variance

end RttEstimate

open RttEstimate

/-- **The estimate stays within the samples.** However many samples are recorded, no `Duration`
overflows, and the estimate is bounded by them. -/
theorem rtt_estimate_bounded (samples : List ℕ) (hne : samples ≠ [])
    (hmax : ∀ x ∈ samples, x ≤ durationMax / 8) :
    ∃ e, tryRecordAll samples = some e ∧ e.Bounded samples hne := by
  refine ⟨recordAll samples, tryRecordAll_eq hmax, ?_⟩
  have hwithin : (recordAll samples).Within (samples.min hne) (samples.max hne) :=
    within_recordAll (fun x hx => List.min_le_of_mem hx) (fun x hx => List.le_max_of_mem hx) hne
  obtain ⟨hrto_ge, hrto_le, hrto_covers⟩ : minRto ≤ (recordAll samples).rto ∧
      (recordAll samples).rto ≤ maxRto ∧
      min (recordAll samples).smoothed maxRto ≤ (recordAll samples).rto := by
    rw [← List.dropLast_concat_getLast hne, recordAll_concat]
    exact rto_record _ _
  refine ⟨hwithin.lower, hwithin.upper, hwithin.variance, hrto_ge, hrto_le, hrto_covers, ?_, ?_, ?_⟩
  · rw [samples_recordAll, UInt64.toNat_ofNat']
  · intro c hc
    exact smoothed_recordAll hne hc
  · intro c hc n hn hcount e₁ e₂ h₁ h₂
    have htake : ∀ k, ∀ x ∈ samples.take k, x ≤ durationMax / 8 :=
      fun k x hx => hmax x (List.mem_of_mem_take hx)
    rw [tryRecordAll_eq (htake n)] at h₁
    rw [tryRecordAll_eq (htake (n + 1))] at h₂
    cases h₁
    cases h₂
    have hlast : samples.take (n + 1) = samples.take n ++ [c] := by
      rw [List.take_succ_eq_append_getElem hn, hc _ (List.getElem_mem hn)]
    rw [hlast]
    apply variance_concat_le
    · rw [List.length_take_of_le hn.le]
      exact hcount
    · intro x hx
      exact hc x (List.mem_of_mem_take hx)

/-- Three samples of 50, 80 and 20 ms. -/
theorem rtt_estimate_bounded_three :
    ∃ e, tryRecordAll [50000000, 80000000, 20000000] = some e ∧
      e.Bounded [50000000, 80000000, 20000000] (by decide) :=
  rtt_estimate_bounded [50000000, 80000000, 20000000] (by decide) (by decide)

/-! ## When the counter wraps -/

/-- Samples of two nanoseconds leave no deviation, as long as the counter does not wrap. -/
lemma variance_replicate_two {n : ℕ} (htwo : 2 ≤ n) (hn : n ≤ 2 ^ 64) :
    (recordAll (List.replicate n 2)).variance = 0 := by
  induction n, htwo using Nat.le_induction with
  | base => rfl
  | succ n htwo ih =>
    have hcount : (List.replicate n 2).length % 2 ^ 64 ≠ 0 := by
      rw [List.length_replicate, Nat.mod_eq_of_lt hn]
      omega
    have hdecays := variance_concat_le hcount (fun x hx => List.eq_of_mem_replicate hx)
    rw [ih (by omega)] at hdecays
    rw [List.replicate_succ']
    exact Nat.le_zero.mp hdecays

/-- The sample after the counter has wrapped starts anew, with half of it as the deviation. -/
lemma variance_replicate_wrapped {n : ℕ} (hn : n % 2 ^ 64 = 0) :
    (recordAll (List.replicate (n + 1) 2)).variance = 1 := by
  have hzero : (recordAll (List.replicate n 2)).samples = 0 := by
    rw [samples_recordAll, List.length_replicate]
    apply UInt64.toNat_inj.mp
    rw [UInt64.toNat_ofNat', hn]
    rfl
  rw [List.replicate_succ', recordAll_concat]
  simp only [record, hzero, if_true]

/-- After `2 ^ 64 + 1` equal samples the count is one, and the last of them has raised the
deviation from zero. -/
theorem sample_count_wraps :
    (∀ x ∈ List.replicate (2 ^ 64 + 1) 2, x ≤ durationMax / 8) ∧
      ∃ e₁ e₂, tryRecordAll (List.replicate (2 ^ 64) 2) = some e₁ ∧
        tryRecordAll (List.replicate (2 ^ 64 + 1) 2) = some e₂ ∧
        e₂.samples.toNat ≠ (List.replicate (2 ^ 64 + 1) 2).length ∧ e₁.variance < e₂.variance := by
  have hsmall : ∀ n, ∀ x ∈ List.replicate n 2, x ≤ durationMax / 8 := by
    intro n x hx
    rw [List.eq_of_mem_replicate hx]
    decide
  refine ⟨hsmall _, _, _, tryRecordAll_eq (hsmall _), tryRecordAll_eq (hsmall _), ?_, ?_⟩
  · rw [samples_recordAll, List.length_replicate]
    decide
  · rw [variance_replicate_two (by decide) (Nat.le_refl _), variance_replicate_wrapped (by decide)]
    exact Nat.one_pos

/-! ## In the outgoing buffer -/

/-- The estimate of a buffer is that of the samples it took. -/
def BufferRun.Sampled (r : BufferRun) : Prop := ∃ samples, r.buffer.rtt = recordAll samples

lemma rto_recordAll (samples : List ℕ) :
    minRto ≤ (recordAll samples).rto ∧ (recordAll samples).rto ≤ maxRto := by
  induction samples using List.reverseRecOn with
  | nil => exact ⟨by decide, by decide⟩
  | append_singleton before x ih =>
    rw [recordAll_concat]
    obtain ⟨hge, hle, -⟩ := rto_record (recordAll before) x
    exact ⟨hge, hle⟩

/-- **The timeout is within its bounds in every run** of the outgoing buffer, whatever is tracked,
acknowledged and polled. -/
theorem rto_within_bounds {capacity maxAttempts : ℕ} (hmax : 1 ≤ maxAttempts) {r : BufferRun}
    (h : Reachable BufferRun.step free (.new capacity maxAttempts) r) :
    r.Sampled ∧ minRto ≤ r.buffer.rtt.rto ∧ r.buffer.rtt.rto ≤ maxRto := by
  have hsampled : r.Sampled := by
    refine h.invariant_with (fun s hs => (BufferRun.Recorded.of_reachable hmax hs).1) ⟨[], rfl⟩ ?_
    intro s l s' hrecorded hs hstep _
    obtain ⟨samples, hsamples⟩ := hs
    by_cases hrtt : s'.buffer.rtt = s.buffer.rtt
    · exact ⟨samples, hrtt.trans hsamples⟩
    · obtain ⟨_, time, _, -, -, -, -, hrecord⟩ := hrecorded.sample hstep hrtt
      refine ⟨samples ++ [l.2 - time], ?_⟩
      rw [recordAll_concat, ← hsamples]
      exact hrecord
  refine ⟨hsampled, ?_⟩
  obtain ⟨samples, hsamples⟩ := hsampled
  rw [hsamples]
  exact rto_recordAll samples

end SsmBridge
