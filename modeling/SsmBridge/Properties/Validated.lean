import SsmBridge.Construction.Preconditions
import SsmBridge.Properties.StreamData
import Mathlib.Logic.Function.Iterate

/-!
# A validated configuration starts

`SessionConfig::validate` checks the chunk size, and that the idle timeout exceeds the heartbeat
interval.  It does not look at what else is asked of the fields: the heartbeat interval must not be
zero and must leave room on the clock, as must the ready timeout, and a queue has a largest
capacity.

`validated_config_starts_iff`: for a configuration that passes the checks, no call panics if and
only if these hold.
-/

namespace SsmBridge

variable {clock : Clock} {config : WaitingConfig}

/-- No call that the configuration is handed to panics, the chunk loop ends, and a healthy
connection is not idle for too long. -/
structure Starts (clock : Clock) (config : WaitingConfig) : Prop where
  heartbeat : ∃ ticker, heartbeatTicker clock config.heartbeatInterval = .ok ticker
  subscribes : ∀ f : OutputFanout, ∃ r, f.trySubscribe config.outputBuffer = .ok r
  waits : ∃ deadline, sendDeadline clock config = .ok deadline
  /-- Every round of the chunk loop takes it forward. -/
  progress : ∀ (kms : KmsSupport) (openedAt len offset : ℕ), len ≤ maxSlice → offset < len →
    offset < chunkEnd (Channel.open (config.channelConfig kms openedAt)).chunkSize len offset ∧
      chunkEnd (Channel.open (config.channelConfig kms openedAt)).chunkSize len offset ≤ len
  /-- The chunk loop reaches the end of the data. -/
  finishes : ∀ (kms : KmsSupport) (openedAt len : ℕ), len ≤ maxSlice →
    (chunkEnd (Channel.open (config.channelConfig kms openedAt)).chunkSize len)^[len] 0 = len
  idle : config.heartbeatInterval < config.idleTimeout

/-! ## One precondition at a time -/

lemma after_ok_iff {duration : ℕ} :
    (∃ t, clock.after duration = .ok t) ↔ clock.now + duration ≤ clock.limit := by
  rw [Clock.after]
  split
  · next hfits => simp [hfits]
  · next hover => simp [hover]

lemma heartbeatTicker_ok_iff {interval : ℕ} :
    (∃ ticker, heartbeatTicker clock interval = .ok ticker) ↔
      0 < interval ∧ clock.now + interval ≤ clock.limit := by
  rw [← after_ok_iff, heartbeatTicker]
  cases hafter : clock.after interval with
  | error e => simp
  | ok start =>
    by_cases hzero : interval = 0
    · simp [intervalAt, hzero]
    · simp [intervalAt, hzero, Nat.pos_of_ne_zero hzero]

/-- The capacity is never zero. -/
lemma trySubscribe_ok_iff {f : OutputFanout} {capacity : ℕ} :
    (∃ r, f.trySubscribe capacity = .ok r) ↔ capacity ≤ maxPermits := by
  have hone : 1 ≤ maxPermits := by decide
  rw [OutputFanout.trySubscribe, mpscChannel]
  by_cases hlarge : maxPermits < capacity
  · rw [if_pos (by omega)]
    simp [hlarge]
  · rw [if_neg (by omega)]
    simp [Nat.le_of_not_lt hlarge]

/-! ## The chunk loop -/

section Loop

variable {chunkSize len offset : ℕ}

/-- A round goes forward; the sum does not wrap. -/
lemma chunkEnd_progress (hsize : 1 ≤ chunkSize) (hmax : chunkSize ≤ maxPayloadSize)
    (hlen : len ≤ maxSlice) (hoffset : offset < len) :
    offset < chunkEnd chunkSize len offset ∧ chunkEnd chunkSize len offset ≤ len := by
  have hsmall : maxPayloadSize + maxSlice < 2 ^ 64 := by decide
  have hwrap : (offset + chunkSize) % 2 ^ 64 = offset + chunkSize := Nat.mod_eq_of_lt (by omega)
  rw [chunkEnd, hwrap]
  omega

/-- After `n` rounds the loop has advanced by `n`, or is at the end. -/
lemma le_iterate_chunkEnd (hsize : 1 ≤ chunkSize) (hmax : chunkSize ≤ maxPayloadSize)
    (hlen : len ≤ maxSlice) (n : ℕ) :
    min n len ≤ (chunkEnd chunkSize len)^[n] 0 ∧ (chunkEnd chunkSize len)^[n] 0 ≤ len := by
  induction n with
  | zero => simp
  | succ n ih =>
    rw [Function.iterate_succ_apply']
    generalize (chunkEnd chunkSize len)^[n] 0 = reached at ih
    rcases Nat.lt_or_ge reached len with hbefore | hend
    · obtain ⟨hforward, hle⟩ := chunkEnd_progress hsize hmax hlen hbefore
      omega
    · -- At the end a further round stays there.
      have hsmall : maxPayloadSize + maxSlice < 2 ^ 64 := by decide
      have hwrap : (reached + chunkSize) % 2 ^ 64 = reached + chunkSize :=
        Nat.mod_eq_of_lt (by omega)
      rw [chunkEnd, hwrap]
      omega

lemma iterate_chunkEnd (hsize : 1 ≤ chunkSize) (hmax : chunkSize ≤ maxPayloadSize)
    (hlen : len ≤ maxSlice) : (chunkEnd chunkSize len)^[len] 0 = len := by
  have hreached := le_iterate_chunkEnd hsize hmax hlen len
  omega

end Loop

/-! ## The whole configuration -/

/-- For a configuration that passes the checks, no call it is handed to violates a precondition if
and only if the heartbeat interval is positive and fits the clock, the ready timeout fits the clock,
and the queue depth is within what a queue can hold. -/
theorem validated_config_starts_iff (clock : Clock) (config : WaitingConfig)
    (hvalid : config.validate = .ok ()) :
    Starts clock config ↔
      0 < config.heartbeatInterval ∧ clock.now + config.heartbeatInterval ≤ clock.limit ∧
        config.outputBuffer ≤ maxPermits ∧ clock.now + config.readyTimeout ≤ clock.limit := by
  obtain ⟨hone, hmax, hidle⟩ := SessionConfig.limits_of_validate hvalid
  constructor
  · intro h
    obtain ⟨hpos, hfits⟩ := heartbeatTicker_ok_iff.mp h.heartbeat
    exact ⟨hpos, hfits, trySubscribe_ok_iff.mp (h.subscribes OutputFanout.new),
      after_ok_iff.mp h.waits⟩
  · rintro ⟨hpos, hfits, hcapacity, hready⟩
    constructor
    · exact heartbeatTicker_ok_iff.mpr ⟨hpos, hfits⟩
    · intro f
      exact trySubscribe_ok_iff.mpr hcapacity
    · exact after_ok_iff.mpr hready
    · intro kms openedAt len offset hlen hoffset
      rw [SessionConfig.chunkSize_open hvalid]
      exact chunkEnd_progress hone hmax hlen hoffset
    · intro kms openedAt len hlen
      rw [SessionConfig.chunkSize_open hvalid]
      exact iterate_chunkEnd hone hmax hlen
    · exact hidle

/-- A clock at zero whose instants count the seconds in an `i64`. -/
def freshClock : Clock := ⟨0, 2 ^ 63 * 10 ^ 9 - 1, Nat.zero_le _⟩

/-- The default configuration for a target. -/
def defaultConfig : WaitingConfig :=
  ⟨⟨"i-0", none, 30000000000, 120000000000, 1024, 8192⟩, 30000000000⟩

theorem default_config_starts : Starts freshClock defaultConfig :=
  (validated_config_starts_iff freshClock defaultConfig (by decide)).mpr (by decide)

/-- A heartbeat interval of zero passes the checks, and the heartbeat task panics. -/
theorem zero_heartbeat_passes_validation :
    ¬ ∀ (clock : Clock) (config : WaitingConfig), config.validate = .ok () →
      Starts clock config := by
  intro hall
  have hvalid :
      ({ defaultConfig with heartbeatInterval := 0 } : WaitingConfig).validate = .ok () := by
    decide
  have hpos := (heartbeatTicker_ok_iff.mp (hall freshClock _ hvalid).heartbeat).1
  exact Nat.lt_irrefl 0 hpos

end SsmBridge
