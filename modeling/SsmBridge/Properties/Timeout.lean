import SsmBridge.Construction.Channel
import SsmBridge.Properties.Retransmission

/-!
# Whether the retransmission timeout adapts

On a link with a constant round trip the estimate is fed with samples of that length, and the
timeout never falls below it.  A sample is only taken from a message that was transmitted once,
though, and the timeout decides which messages those are.  While it stands at its initial value, a
round trip that is longer by however little lets every message be resent before its
acknowledgement: no sample is ever taken, and the timeout stays where it is.  Nothing else moves
it, since a resend does not back it off.

`LinkRun` is such a link: one message at a time, polls at a fixed interval and any phase, and an
acknowledgement exactly one round trip after the message was tracked.
-/

namespace SsmBridge

open Machine

/-! ## The link -/

/-- How often the retransmission task polls, in nanoseconds. -/
def retransmitTickInterval : ℕ := 100 * 1000000

/-- A buffer on a link. -/
structure LinkRun where
  buffer : OutgoingBuffer
  clock : ℕ
  /-- When the next poll is due. -/
  nextPoll : ℕ
  /-- The message that waits for its acknowledgement, and when it was tracked. -/
  inFlight : Option (Int64 × ℕ)
  /-- How many messages were sent. -/
  messages : ℕ

inductive LinkCall
  | track (now : ℕ) (wire : Bytes)
  | acknowledge
  | poll

namespace LinkRun

/-- A new buffer; the first poll is at `phase`. -/
def new (phase : ℕ) : LinkRun where
  buffer := .new messageBufferCapacity maxRetransmitAttempts
  clock := 0
  nextPoll := phase
  inFlight := none
  messages := 0

/-- Send a message when none is in flight; the counter numbers them in order. -/
def track (r : LinkRun) (now : ℕ) (wire : Bytes) : Option LinkRun :=
  let sequence := Int64.ofNat r.messages
  if r.inFlight = none ∧ r.clock ≤ now ∧ now ≤ r.nextPoll then
    some { r with buffer := (r.buffer.track now wire sequence).2, clock := now
                  inFlight := some (sequence, now), messages := r.messages + 1 }
  else none

/-- The acknowledgement arrives one round trip after the message was tracked. -/
def acknowledge (R : ℕ) (r : LinkRun) : Option LinkRun :=
  match r.inFlight with
  | some (sequence, sent) =>
      if r.clock ≤ sent + R ∧ sent + R ≤ r.nextPoll then
        some { r with buffer := (r.buffer.acknowledge (sent + R) sequence).2, clock := sent + R
                      inFlight := none }
      else none
  | none => none

/-- The poll that is due; an acknowledgement is not overtaken by it. -/
def poll (R : ℕ) (r : LinkRun) : Option LinkRun :=
  if r.inFlight.all (fun m => decide (r.nextPoll ≤ m.2 + R)) then
    some { r with buffer := (r.buffer.pollRetransmit r.nextPoll).2, clock := r.nextPoll
                  nextPoll := r.nextPoll + retransmitTickInterval }
  else none

def step (R : ℕ) (r : LinkRun) : LinkCall → Option LinkRun
  | .track now wire => r.track now wire
  | .acknowledge => r.acknowledge R
  | .poll => r.poll R

end LinkRun

/-- From some message on, whatever the phase, the timeout covers the round trip. -/
def Adapts (R : ℕ) : Prop :=
  ∃ N, ∀ phase r, Reachable (LinkRun.step R) free (.new phase) r → N ≤ r.messages →
    R ≤ r.buffer.rtt.rto

/-! ## Short round trips -/

/-- The samples so far were all of length `R`. -/
structure RttEstimate.Steady (R : ℕ) (e : RttEstimate) : Prop where
  rto : R ≤ e.rto
  smoothed : e.samples ≠ 0 → e.smoothed = R

lemma RttEstimate.Steady.record {R : ℕ} {e : RttEstimate} (h : e.Steady R) (hR : R ≤ maxRto) :
    (e.record R).Steady R := by
  have hsmoothed : (e.record R).smoothed = R := by
    simp only [RttEstimate.record]
    split
    · rfl
    · next hsamples =>
      rw [h.smoothed hsamples]
      omega
  refine ⟨?_, fun _ => hsmoothed⟩
  have hrto : (e.record R).rto =
      max minRto (min maxRto ((e.record R).smoothed + (e.record R).variance * rtoVarianceFactor)) :=
    rfl
  rw [hrto, hsmoothed]
  exact le_max_of_le_right (le_min hR (Nat.le_add_right _ _))

/-- The buffer of a link holds the message in flight. -/
structure LinkRun.Steady (R : ℕ) (r : LinkRun) : Prop where
  rtt : r.buffer.rtt.Steady R
  idle : r.inFlight = none → r.buffer.pending = []
  single : r.buffer.pending.length ≤ 1
  entry : ∀ n sent, r.inFlight = some (n, sent) →
    ∀ p ∈ r.buffer.pending, p.sequence = n ∧ 1 ≤ p.attempts ∧ (p.attempts = 1 → p.lastSent = sent)

namespace LinkRun.Steady

variable {R : ℕ} {r r' : LinkRun}

lemma new (hR : R ≤ initialRto) (phase : ℕ) : (LinkRun.new phase).Steady R where
  rtt := ⟨hR, fun h => absurd rfl h⟩
  idle _ := rfl
  single := Nat.zero_le _
  entry _ _ h := by cases h

lemma track {now : ℕ} {wire : Bytes} (h : r.Steady R)
    (hstep : r.track now wire = some r') : r'.Steady R := by
  simp only [LinkRun.track] at hstep
  split at hstep <;> cases hstep
  next hidle =>
  have hpending := h.idle hidle.1
  rcases OutgoingBuffer.track_cases r.buffer now wire (Int64.ofNat r.messages) with
    ⟨htrack, -⟩ | htrack <;> rw [htrack]
  · refine ⟨h.rtt, fun _ => hpending, h.single, fun m sent _ p hp => ?_⟩
    rw [hpending] at hp
    cases hp
  · rw [hpending]
    refine ⟨h.rtt, fun hnone => ?_, Nat.le_refl _, fun m sent hm p hp => ?_⟩
    · cases hnone
    · cases hm
      rw [List.mem_singleton.mp hp]
      exact ⟨rfl, Nat.le_refl _, fun _ => rfl⟩

lemma acknowledge (h : r.Steady R) (hR : R ≤ maxRto) (hstep : r.acknowledge R = some r') :
    r'.Steady R := by
  unfold LinkRun.acknowledge at hstep
  split at hstep
  · next n sent hflight =>
    split at hstep <;> cases hstep
    have hentry := h.entry n sent hflight
    have hsingle := h.single
    rcases OutgoingBuffer.acknowledge_cases r.buffer (sent + R) n with
      ⟨hack, hnone⟩ | ⟨before, entry, after, hpending, hn, hack⟩ <;> rw [hack]
    · refine ⟨h.rtt, fun _ => ?_, hsingle, fun m t hm => ?_⟩
      · exact List.eq_nil_iff_forall_not_mem.mpr fun p hp => hnone p hp (hentry p hp).1
      · cases hm
    · have hnil : before ++ after = [] := by
        rw [hpending, List.length_append, List.length_cons] at hsingle
        exact List.length_eq_zero_iff.mp (by rw [List.length_append]; omega)
      refine ⟨?_, fun _ => hnil, ?_, fun m t hm => ?_⟩
      · dsimp only
        split
        · next hattempts =>
          rw [(hentry entry (by simp [hpending])).2.2 hattempts, Nat.add_sub_cancel_left]
          exact h.rtt.record hR
        · exact h.rtt
      · rw [hnil]
        exact Nat.zero_le _
      · cases hm
  · cases hstep

lemma poll (h : r.Steady R) (hstep : r.poll R = some r') : r'.Steady R := by
  unfold LinkRun.poll at hstep
  split at hstep <;> cases hstep
  have hentry := h.entry
  rcases OutgoingBuffer.pollRetransmit_cases r.buffer r.nextPoll with
    ⟨hpoll, -⟩ | ⟨head, rest, hpending, -, ⟨-, hpoll⟩ | ⟨-, hpoll⟩⟩ <;> rw [hpoll]
  · exact ⟨h.rtt, h.idle, h.single, hentry⟩
  · exact ⟨h.rtt, h.idle, h.single, hentry⟩
  · rw [hpending] at hentry
    refine ⟨h.rtt, fun hnone => ?_, ?_, fun n sent hm p hp => ?_⟩
    · rw [h.idle hnone] at hpending
      cases hpending
    · have hsingle := h.single
      rw [hpending] at hsingle
      exact hsingle
    · rcases List.mem_cons.mp hp with rfl | hp
      · -- A resent entry has no sample to give.
        obtain ⟨hseq, hpos, -⟩ := hentry n sent hm head List.mem_cons_self
        exact ⟨hseq, Nat.le_add_left _ _, fun hattempts => by simp at hattempts; omega⟩
      · exact hentry n sent hm p (List.mem_cons_of_mem _ hp)

theorem step {l : LinkCall} (h : r.Steady R) (hR : R ≤ maxRto) (hstep : r.step R l = some r') :
    r'.Steady R := by
  cases l with
  | track now wire => exact h.track hstep
  | acknowledge => exact h.acknowledge hR hstep
  | poll => exact h.poll hstep

end LinkRun.Steady

lemma initialRto_le_maxRto : initialRto ≤ maxRto := by decide

/-- A round trip within the initial timeout is covered from the start. -/
theorem adapts_of_le {R : ℕ} (hR : R ≤ initialRto) : Adapts R := by
  refine ⟨0, fun phase r hr _ => ?_⟩
  have hsteady : r.Steady R := hr.invariant (.new hR phase)
    fun _ _ _ hs hstep _ => hs.step (hR.trans initialRto_le_maxRto) hstep
  exact hsteady.rtt.rto

/-! ## Long round trips -/

/-- Between two messages, with no sample taken. -/
structure LinkRun.Between (r : LinkRun) (messages : ℕ) : Prop where
  rtt : r.buffer.rtt = RttEstimate.initial
  capacity : 0 < r.buffer.capacity
  maxAttempts : 1 < r.buffer.maxAttempts
  pending : r.buffer.pending = []
  inFlight : r.inFlight = none
  clock : r.clock < r.nextPoll
  messages : r.messages = messages

/-- Message `n` was tracked just before a poll, and is resent before the timeout has passed by a
tick. -/
structure LinkRun.Waiting (r : LinkRun) (R messages sent : ℕ) (n : Int64) : Prop where
  rtt : r.buffer.rtt = RttEstimate.initial
  capacity : 0 < r.buffer.capacity
  maxAttempts : 1 < r.buffer.maxAttempts
  pending : ∃ p, r.buffer.pending = [p] ∧ p.sequence = n ∧ 1 ≤ p.attempts ∧
    (p.attempts = 1 → p.lastSent = sent ∧ r.nextPoll ≤ sent + initialRto + retransmitTickInterval)
  inFlight : r.inFlight = some (n, sent)
  clock : r.clock ≤ sent + R
  phase : ∃ j, r.nextPoll = sent + 1 + j * retransmitTickInterval
  messages : r.messages = messages

section

variable {R k sent : ℕ} {n : Int64} {r : LinkRun}

lemma LinkRun.Between.new : (LinkRun.new 1).Between 0 where
  rtt := rfl
  capacity := by decide
  maxAttempts := by decide
  pending := rfl
  inFlight := rfl
  clock := Nat.zero_lt_one
  messages := rfl

/-- The next message is tracked just before the next poll. -/
lemma LinkRun.Between.track (h : r.Between k) :
    ∃ r', r.step R (.track (r.nextPoll - 1) []) = some r' ∧
      r'.Waiting R (k + 1) (r.nextPoll - 1) (Int64.ofNat k) := by
  have hclock := h.clock
  have hguard : r.inFlight = none ∧ r.clock ≤ r.nextPoll - 1 ∧ r.nextPoll - 1 ≤ r.nextPoll :=
    ⟨h.inFlight, by omega, by omega⟩
  refine ⟨_, if_pos hguard, ?_⟩
  rw [← h.messages]
  rcases OutgoingBuffer.track_cases r.buffer (r.nextPoll - 1) [] (Int64.ofNat r.messages)
    with ⟨-, hfull⟩ | htrack
  · rw [h.pending] at hfull
    exact absurd hfull (Nat.not_le_of_lt h.capacity)
  · rw [htrack]
    refine ⟨h.rtt, h.capacity, h.maxAttempts,
      ⟨⟨[], Int64.ofNat r.messages, r.nextPoll - 1, 1⟩, ?_, rfl, Nat.le_refl _,
        fun _ => ⟨rfl, ?_⟩⟩, rfl, Nat.le_add_right _ _, ⟨0, ?_⟩, rfl⟩
    · rw [h.pending]
      rfl
    · simp only [retransmitTickInterval]
      omega
    · simp only [Nat.zero_mul]
      omega

/-- A poll that is due before the acknowledgement. -/
lemma LinkRun.Waiting.poll (h : r.Waiting R k sent n) (hdue : r.nextPoll ≤ sent + R) :
    ∃ r', r.step R .poll = some r' ∧ r'.Waiting R k sent n ∧
      r'.nextPoll = r.nextPoll + retransmitTickInterval := by
  obtain ⟨p, hpending, hseq, hpos, hfirst⟩ := h.pending
  obtain ⟨j, hj⟩ := h.phase
  have hguard : r.inFlight.all (fun m => decide (r.nextPoll ≤ m.2 + R)) = true := by
    simpa [h.inFlight] using hdue
  refine ⟨_, if_pos hguard, ?_, rfl⟩
  have hphase :
      r.nextPoll + retransmitTickInterval = sent + 1 + (j + 1) * retransmitTickInterval := by
    rw [hj, Nat.add_mul, Nat.one_mul, Nat.add_assoc]
  rcases OutgoingBuffer.pollRetransmit_cases r.buffer r.nextPoll with
    ⟨hpoll, hidle⟩ | ⟨head, rest, hhead, hlate, ⟨hmax, hpoll⟩ | ⟨-, hpoll⟩⟩ <;> rw [hpoll]
  · refine ⟨h.rtt, h.capacity, h.maxAttempts, ⟨p, hpending, hseq, hpos, fun hone => ?_⟩, h.inFlight,
      hdue, ⟨_, hphase⟩, h.messages⟩
    -- The timeout has not passed yet.
    have hearly := hidle p [] hpending
    rw [h.rtt, (hfirst hone).1] at hearly
    have hrto : RttEstimate.initial.rto = initialRto := rfl
    exact ⟨(hfirst hone).1, by dsimp only; omega⟩
  · have hmany := h.maxAttempts
    rw [hpending] at hhead
    cases hhead
    exact ⟨h.rtt, h.capacity, h.maxAttempts, ⟨p, hpending, hseq, hpos, fun hone => by omega⟩,
      h.inFlight, hdue, ⟨_, hphase⟩, h.messages⟩
  · rw [hpending] at hhead
    cases hhead
    exact ⟨h.rtt, h.capacity, h.maxAttempts,
      ⟨_, rfl, hseq, Nat.le_add_left _ _, fun hone => by simp at hone; omega⟩, h.inFlight, hdue,
      ⟨_, hphase⟩, h.messages⟩

/-- The polls until the acknowledgement arrives. -/
lemma LinkRun.Waiting.polls (m : ℕ) (h : r.Waiting R k sent n)
    (hm : sent + R < r.nextPoll + m * retransmitTickInterval) :
    ∃ r', Reachable (LinkRun.step R) free r r' ∧ r'.Waiting R k sent n ∧ sent + R < r'.nextPoll := by
  induction m generalizing r with
  | zero => exact ⟨r, .refl, h, by simpa using hm⟩
  | succ m ih =>
    by_cases hdue : r.nextPoll ≤ sent + R
    · obtain ⟨r₁, hstep, hwait, hnext⟩ := h.poll hdue
      obtain ⟨r', hreach, hr'⟩ := ih hwait (by rw [Nat.add_mul] at hm; omega)
      exact ⟨r', (Reachable.refl.tail hstep trivial).trans hreach, hr'⟩
    · exact ⟨r, .refl, h, by omega⟩

/-- An acknowledgement of a message that was resent gives no sample. -/
lemma LinkRun.Waiting.acknowledge (h : r.Waiting R k sent n) (hR : initialRto < R)
    (hnext : sent + R < r.nextPoll) :
    ∃ r', r.step R .acknowledge = some r' ∧ r'.Between k := by
  obtain ⟨p, hpending, hseq, hpos, hfirst⟩ := h.pending
  obtain ⟨j, hj⟩ := h.phase
  have hresent : p.attempts ≠ 1 := by
    intro hone
    obtain ⟨-, hearly⟩ := hfirst hone
    -- The poll one nanosecond after the timeout came before the acknowledgement.
    simp only [initialRto, retransmitTickInterval] at hR hj hearly
    omega
  have hstep : r.step R .acknowledge = some { r with
      buffer := (r.buffer.acknowledge (sent + R) n).2, clock := sent + R, inFlight := none } := by
    simp only [LinkRun.step, LinkRun.acknowledge, h.inFlight]
    exact if_pos ⟨h.clock, hnext.le⟩
  refine ⟨_, hstep, ?_⟩
  rcases OutgoingBuffer.acknowledge_cases r.buffer (sent + R) n with
    ⟨-, hnone⟩ | ⟨before, entry, after, hsplit, -, hack⟩
  · exact absurd hseq (hnone p (by simp [hpending]))
  · rw [hpending] at hsplit
    obtain ⟨rfl, rfl, rfl⟩ : before = [] ∧ entry = p ∧ after = [] := by
      cases before with
      | nil => simpa [eq_comm] using hsplit
      | cons q before => simp at hsplit
    rw [hack]
    refine ⟨?_, h.capacity, h.maxAttempts, rfl, rfl, hnext, h.messages⟩
    dsimp only
    rw [if_neg hresent]
    exact h.rtt

/-- One message more, and still no sample. -/
lemma LinkRun.Between.next (h : r.Between k) (hR : initialRto < R) :
    ∃ r', Reachable (LinkRun.step R) free r r' ∧ r'.Between (k + 1) := by
  obtain ⟨r₁, htrack, hwait⟩ := h.track (R := R)
  obtain ⟨r₂, hpolls, hwait, hnext⟩ := hwait.polls (r.nextPoll + R) (by
    simp only [retransmitTickInterval]
    omega)
  obtain ⟨r₃, hack, hbetween⟩ := hwait.acknowledge hR hnext
  exact ⟨r₃, ((Reachable.refl.tail htrack trivial).trans hpolls).tail hack trivial, hbetween⟩

lemma LinkRun.exists_between (hR : initialRto < R) (k : ℕ) :
    ∃ r, Reachable (LinkRun.step R) free (.new 1) r ∧ r.Between k := by
  induction k with
  | zero => exact ⟨_, .refl, .new⟩
  | succ k ih =>
    obtain ⟨r, hreach, hr⟩ := ih
    obtain ⟨r', hreach', hr'⟩ := hr.next hR
    exact ⟨r', hreach.trans hreach', hr'⟩

/-- A longer round trip is never covered in some run. -/
theorem not_adapts_of_lt (hR : initialRto < R) : ¬ Adapts R := by
  rintro ⟨N, hN⟩
  obtain ⟨r, hreach, hr⟩ := LinkRun.exists_between hR N
  have hle := hN 1 r hreach hr.messages.ge
  rw [hr.rtt] at hle
  exact absurd hle (Nat.not_le_of_lt hR)

end

/-- **The timeout adapts to the links that it covers from the start**, and to no others. -/
theorem timeout_adapts_iff (R : ℕ) : Adapts R ↔ R ≤ initialRto := by
  refine ⟨fun hadapts => ?_, adapts_of_le⟩
  by_contra hlong
  exact not_adapts_of_lt (Nat.lt_of_not_le hlong) hadapts

/-- A round trip of 400 milliseconds. -/
theorem timeout_stuck : ¬ ∀ R, R < 30 * 1000000000 → Adapts R := by
  intro h
  exact not_adapts_of_lt (R := 400 * 1000000) (by decide) (h _ (by decide))

end SsmBridge
