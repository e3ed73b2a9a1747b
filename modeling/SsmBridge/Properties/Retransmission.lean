import SsmBridge.Construction.Ack
import SsmBridge.Framework.Machine

/-!
# Retransmission over whole runs

`OutgoingBuffer` keeps, for every entry, when it was last transmitted and how often; the
statements about retransmission are about what the buffer has done since it was made.  `BufferRun`
therefore keeps a log of the transmissions and of the retired numbers next to the buffer, and the
numbers that are still pending, their transmissions and their age are read off the log alone.

`BufferRun.Recorded` connects the two: the entries of the buffer are the outstanding numbers of
the log, in increasing order, each with its number of transmissions and the time of the last.
-/

namespace SsmBridge

open Machine

/-! ## Runs -/

/-- What the buffer did to an entry. -/
inductive BufferEvent
  | tracked (sequence : Int64) (wire : Bytes) (time : ℕ)
  | resent (sequence : Int64) (wire : Bytes) (time : ℕ)
  /-- An acknowledgement took the entry out. -/
  | retired (sequence : Int64)
  deriving DecidableEq

/-- The transmission of a number, with its time and bytes. -/
def BufferEvent.transmission (n : Int64) : BufferEvent → Option (ℕ × Bytes)
  | .tracked m wire time | .resent m wire time => if m = n then some (time, wire) else none
  | .retired _ => none

/-- The transmissions of a number, oldest first. -/
def transmissions (log : List BufferEvent) (n : Int64) : List (ℕ × Bytes) :=
  log.filterMap (BufferEvent.transmission n)

/-- The number was tracked and not acknowledged since. -/
def Outstanding (log : List BufferEvent) (n : Int64) : Prop :=
  transmissions log n ≠ [] ∧ .retired n ∉ log

/-- A call of the buffer. -/
inductive BufferCall
  | track (wire : Bytes) (sequence : Int64)
  | acknowledge (sequence : Int64)
  | pollRetransmit
  deriving DecidableEq

/-- A buffer and its history. -/
structure BufferRun where
  buffer : OutgoingBuffer
  /-- The time of the last call. -/
  clock : ℕ
  log : List BufferEvent

namespace BufferRun

def new (capacity maxAttempts : ℕ) : BufferRun where
  buffer := .new capacity maxAttempts
  clock := 0
  log := []

/-- The number is above all that were tracked. -/
def exceeds (r : BufferRun) (sequence : Int64) : Bool :=
  r.log.all (fun
    | .tracked m _ _ => decide (m < sequence)
    | _ => true)

def track (r : BufferRun) (now : ℕ) (wire : Bytes) (sequence : Int64) : BufferRun :=
  match r.buffer.track now wire sequence with
  | (true, buffer) => ⟨buffer, now, r.log ++ [.tracked sequence wire now]⟩
  | (false, buffer) => ⟨buffer, now, r.log⟩

def acknowledge (r : BufferRun) (now : ℕ) (sequence : Int64) : BufferRun :=
  match r.buffer.acknowledge now sequence with
  | (true, buffer) => ⟨buffer, now, r.log ++ [.retired sequence]⟩
  | (false, buffer) => ⟨buffer, now, r.log⟩

def pollRetransmit (r : BufferRun) (now : ℕ) : BufferRun :=
  match r.buffer.pollRetransmit now with
  | (.resend n wire, buffer) => ⟨buffer, now, r.log ++ [.resent n wire now]⟩
  | (.idle, buffer) | (.gaveUp _ _, buffer) => ⟨buffer, now, r.log⟩

/-- A call at some time; the clock does not go back, and numbers are tracked in increasing order. -/
def step (r : BufferRun) (l : BufferCall × ℕ) : Option BufferRun :=
  if l.2 < r.clock then none
  else
    match l.1 with
    | .track wire sequence => if r.exceeds sequence then some (r.track l.2 wire sequence) else none
    | .acknowledge sequence => some (r.acknowledge l.2 sequence)
    | .pollRetransmit => some (r.pollRetransmit l.2)

/-- The oldest outstanding number, transmitted longer ago than the timeout. -/
def Overdue (r : BufferRun) (n : Int64) (now : ℕ) : Prop :=
  Outstanding r.log n ∧ (∀ m, Outstanding r.log m → n ≤ m) ∧
    ∃ last, (transmissions r.log n).getLast? = some last ∧ r.buffer.rtt.rto < now - last.1

end BufferRun

/-! ## What a call can do -/

namespace OutgoingBuffer

variable (b : OutgoingBuffer) (now : ℕ)

lemma track_cases (wire : Bytes) (n : Int64) :
    b.track now wire n = (false, b) ∧ b.capacity ≤ b.pending.length ∨
      b.track now wire n =
        (true, { b with pending := b.pending ++ [⟨wire, n, now, 1⟩] }) := by
  unfold track
  split
  · next hfull => exact .inl ⟨rfl, hfull⟩
  · exact .inr rfl

lemma acknowledge_cases (n : Int64) :
    (b.acknowledge now n = (false, b) ∧ ∀ p ∈ b.pending, p.sequence ≠ n) ∨
      ∃ before entry after, b.pending = before ++ entry :: after ∧ entry.sequence = n ∧
        b.acknowledge now n = (true, { b with
          pending := before ++ after
          rtt := if entry.attempts = 1 then b.rtt.record (now - entry.lastSent) else b.rtt }) := by
  unfold acknowledge
  cases hfind : b.pending.find? (fun p => p.sequence == n) with
  | none => exact .inl ⟨rfl, by simpa using hfind⟩
  | some entry =>
    obtain ⟨hentry, before, after, hpending, hbefore⟩ := List.find?_eq_some_iff_append.mp hfind
    refine .inr ⟨before, entry, after, hpending, beq_iff_eq.mp hentry, ?_⟩
    have herase : b.pending.eraseP (fun p => p.sequence == n) = before ++ after := by
      rw [hpending, List.eraseP_append_right _ (by simpa using hbefore),
        List.eraseP_cons_of_pos (by simpa using hentry)]
    rw [herase]

lemma pollRetransmit_cases :
    (b.pollRetransmit now = (.idle, b) ∧
      ∀ head rest, b.pending = head :: rest → now - head.lastSent ≤ b.rtt.rto) ∨
    ∃ head rest, b.pending = head :: rest ∧ b.rtt.rto < now - head.lastSent ∧
      (b.maxAttempts ≤ head.attempts ∧
          b.pollRetransmit now = (.gaveUp head.sequence head.attempts, b) ∨
        head.attempts < b.maxAttempts ∧
          b.pollRetransmit now = (.resend head.sequence head.wire, { b with
            pending := { head with attempts := head.attempts + 1, lastSent := now } :: rest })) := by
  cases hpending : b.pending with
  | nil =>
    refine .inl ⟨by rw [pollRetransmit, hpending], ?_⟩
    intro head rest h
    cases h
  | cons head rest =>
    simp only [pollRetransmit, hpending]
    by_cases hdue : now - head.lastSent ≤ b.rtt.rto
    · refine .inl ⟨by rw [if_pos hdue], ?_⟩
      rintro _ _ ⟨⟩
      exact hdue
    · refine .inr ⟨head, rest, rfl, Nat.lt_of_not_le hdue, ?_⟩
      rw [if_neg hdue]
      by_cases hmax : b.maxAttempts ≤ head.attempts
      · exact .inl ⟨hmax, by rw [if_pos hmax]⟩
      · exact .inr ⟨Nat.lt_of_not_le hmax, by rw [if_neg hmax]⟩

end OutgoingBuffer

/-! ## The log -/

section

variable {log : List BufferEvent} {n m : Int64} {wire : Bytes} {time : ℕ}

@[simp] lemma transmissions_tracked :
    transmissions (log ++ [.tracked m wire time]) n =
      transmissions log n ++ if m = n then [(time, wire)] else [] := by
  unfold transmissions
  split <;> simp [BufferEvent.transmission, *]

@[simp] lemma transmissions_resent :
    transmissions (log ++ [.resent m wire time]) n =
      transmissions log n ++ if m = n then [(time, wire)] else [] := by
  unfold transmissions
  split <;> simp [BufferEvent.transmission, *]

@[simp] lemma transmissions_retired :
    transmissions (log ++ [.retired m]) n = transmissions log n := by
  simp [transmissions, BufferEvent.transmission]

end

/-! ## The buffer and its log -/

/-- What the log says about an entry. -/
structure Pending.Recorded (p : Pending) (log : List BufferEvent) : Prop where
  count : (transmissions log p.sequence).length = p.attempts
  last : (transmissions log p.sequence).getLast? = some (p.lastSent, p.wire)
  tracked : ∃ time, .tracked p.sequence p.wire time ∈ log
  live : .retired p.sequence ∉ log

/-- The entries of the buffer are the outstanding numbers. -/
structure BufferRun.Recorded (r : BufferRun) : Prop where
  sorted : r.buffer.pending.Pairwise (fun p q => p.sequence < q.sequence)
  entry : ∀ p ∈ r.buffer.pending, p.Recorded r.log
  listed : ∀ n, Outstanding r.log n → ∃ p ∈ r.buffer.pending, p.sequence = n
  bound : ∀ n, (transmissions r.log n).length ≤ r.buffer.maxAttempts
  /-- Whatever was transmitted was tracked, and whatever was retired was transmitted. -/
  tracked : ∀ n, transmissions r.log n ≠ [] → ∃ wire time, .tracked n wire time ∈ r.log
  retired : ∀ n, .retired n ∈ r.log → transmissions r.log n ≠ []

namespace Pending.Recorded

variable {p : Pending} {log : List BufferEvent} {n : Int64} {wire : Bytes} {time : ℕ}

lemma outstanding (h : p.Recorded log) : Outstanding log p.sequence := by
  refine ⟨fun hnil => ?_, h.live⟩
  have hlast := h.last
  rw [hnil] at hlast
  cases hlast

/-- The only transmission of an entry is the one it was tracked with. -/
lemma tracked_of_once (h : p.Recorded log) (hcount : (transmissions log p.sequence).length = 1) :
    .tracked p.sequence p.wire p.lastSent ∈ log := by
  obtain ⟨sent, hsent⟩ := List.length_eq_one_iff.mp hcount
  have hlast := h.last
  rw [hsent, List.getLast?_singleton, Option.some_inj] at hlast
  obtain ⟨time, htime⟩ := h.tracked
  have hmem : (time, p.wire) ∈ transmissions log p.sequence :=
    List.mem_filterMap.mpr ⟨_, htime, if_pos rfl⟩
  rw [hsent, hlast, List.mem_singleton, Prod.mk.injEq] at hmem
  rwa [hmem.1] at htime

/-- Events of other numbers do not matter. -/
lemma append {e : BufferEvent} (h : p.Recorded log)
    (htransmissions : transmissions (log ++ [e]) p.sequence = transmissions log p.sequence)
    (he : e ≠ .retired p.sequence) : p.Recorded (log ++ [e]) where
  count := by rw [htransmissions, h.count]
  last := by rw [htransmissions, h.last]
  tracked := by
    obtain ⟨time, htime⟩ := h.tracked
    exact ⟨time, List.mem_append_left _ htime⟩
  live hmem := by
    rcases List.mem_append.mp hmem with hold | hnew
    · exact h.live hold
    · exact he (List.mem_singleton.mp hnew).symm

/-- The entry is transmitted again. -/
lemma resent (h : p.Recorded log) :
    ({ p with attempts := p.attempts + 1, lastSent := time } : Pending).Recorded
      (log ++ [.resent p.sequence p.wire time]) where
  count := by simp [h.count]
  last := by simp
  tracked := by
    obtain ⟨time, htime⟩ := h.tracked
    exact ⟨time, List.mem_append_left _ htime⟩
  live hmem := h.live (by simpa using hmem)

end Pending.Recorded

namespace BufferRun.Recorded

variable {r : BufferRun} {n : Int64} {now : ℕ}

lemma new (capacity maxAttempts : ℕ) : (BufferRun.new capacity maxAttempts).Recorded where
  sorted := .nil
  entry _ h := by cases h
  listed _ h := absurd rfl h.1
  bound _ := Nat.zero_le _
  tracked _ h := absurd rfl h
  retired _ h := by cases h

/-- A new number was never transmitted. -/
lemma fresh (h : r.Recorded) (hn : r.exceeds n = true) : transmissions r.log n = [] := by
  by_contra hne
  obtain ⟨wire, time, hmem⟩ := h.tracked n hne
  have hlt := List.all_eq_true.mp hn _ hmem
  exact Int64.lt_irrefl (of_decide_eq_true hlt)

/-- A new number is above those of the entries. -/
lemma lt_of_exceeds (h : r.Recorded) (hn : r.exceeds n = true) {p : Pending}
    (hp : p ∈ r.buffer.pending) : p.sequence < n := by
  obtain ⟨time, hmem⟩ := (h.entry p hp).tracked
  exact of_decide_eq_true (List.all_eq_true.mp hn _ hmem)

/-- The head of the buffer is the oldest outstanding number. -/
lemma head_le (h : r.Recorded) {head : Pending} {rest : List Pending}
    (hpending : r.buffer.pending = head :: rest) (hn : Outstanding r.log n) : head.sequence ≤ n := by
  obtain ⟨p, hp, rfl⟩ := h.listed n hn
  have hsorted := h.sorted
  rw [hpending] at hp hsorted
  rcases List.mem_cons.mp hp with rfl | hrest
  · exact Int64.le_refl _
  · exact Int64.le_of_lt ((List.pairwise_cons.mp hsorted).1 p hrest)

/-- An entry and the rest of the buffer. -/
lemma sequence_ne (h : r.Recorded) {before after : List Pending} {entry p : Pending}
    (hpending : r.buffer.pending = before ++ entry :: after) (hp : p ∈ before ++ after) :
    p.sequence ≠ entry.sequence := by
  have hsorted := h.sorted
  rw [hpending, List.pairwise_append] at hsorted
  obtain ⟨-, hafter, hbefore⟩ := hsorted
  rcases List.mem_append.mp hp with hp | hp
  · have hlt := hbefore p hp entry List.mem_cons_self
    exact fun heq => Int64.lt_irrefl (heq ▸ hlt)
  · have hlt := (List.pairwise_cons.mp hafter).1 p hp
    exact fun heq => Int64.lt_irrefl (heq ▸ hlt)

/-! ### Steps -/

lemma track {wire : Bytes} (h : r.Recorded) (hmax : 1 ≤ r.buffer.maxAttempts)
    (hn : r.exceeds n = true) : (r.track now wire n).Recorded := by
  unfold BufferRun.track
  rcases OutgoingBuffer.track_cases r.buffer now wire n with
    ⟨htrack, -⟩ | htrack
  · rw [htrack]
    exact ⟨h.sorted, h.entry, h.listed, h.bound, h.tracked, h.retired⟩
  · rw [htrack]
    have hfresh := h.fresh hn
    have hlive : BufferEvent.retired n ∉ r.log := fun hr => h.retired n hr hfresh
    refine ⟨?_, fun p hp => ?_, fun m hm => ?_, fun m => ?_, fun m hm => ?_, fun m hm => ?_⟩
    · refine List.pairwise_append.mpr ⟨h.sorted, List.pairwise_singleton _ _, fun p hp q hq => ?_⟩
      rw [List.mem_singleton.mp hq]
      exact h.lt_of_exceeds hn hp
    · rcases List.mem_append.mp hp with hp | hp
      · have hne : n ≠ p.sequence := fun heq => Int64.lt_irrefl (heq ▸ h.lt_of_exceeds hn hp)
        refine (h.entry p hp).append (by simp [hne]) ?_
        intro he
        cases he
      · rw [List.mem_singleton.mp hp]
        exact ⟨by simp [hfresh], by simp, ⟨now, by simp⟩, by simpa using hlive⟩
    · by_cases hnm : n = m
      · exact ⟨_, List.mem_append_right _ (List.mem_singleton_self _), hnm⟩
      · obtain ⟨hsent, hnot⟩ := hm
        obtain ⟨p, hp, hpm⟩ := h.listed m ⟨by simpa [hnm] using hsent, by simpa using hnot⟩
        exact ⟨p, List.mem_append_left _ hp, hpm⟩
    · by_cases hnm : n = m
      · subst hnm
        simpa [hfresh] using hmax
      · simpa [hnm] using h.bound m
    · by_cases hnm : n = m
      · subst hnm
        exact ⟨wire, now, by simp⟩
      · obtain ⟨wire', time, hmem⟩ := h.tracked m (by simpa [hnm] using hm)
        exact ⟨wire', time, List.mem_append_left _ hmem⟩
    · have hold := h.retired m (by simpa using hm)
      simp [hold]

lemma acknowledge (h : r.Recorded) : (r.acknowledge now n).Recorded := by
  unfold BufferRun.acknowledge
  rcases OutgoingBuffer.acknowledge_cases r.buffer now n with
    ⟨hack, -⟩ | ⟨before, entry, after, hpending, rfl, hack⟩
  · rw [hack]
    exact ⟨h.sorted, h.entry, h.listed, h.bound, h.tracked, h.retired⟩
  · rw [hack]
    have hsub : (before ++ after).Sublist r.buffer.pending := by
      rw [hpending]
      exact List.Sublist.append_left (List.sublist_cons_self _ _) _
    refine ⟨h.sorted.sublist hsub, fun p hp => ?_, fun m hm => ?_, fun m => ?_, fun m hm => ?_,
      fun m hm => ?_⟩
    · refine (h.entry p (hsub.subset hp)).append transmissions_retired fun he => ?_
      exact h.sequence_ne hpending hp (BufferEvent.retired.inj he).symm
    · obtain ⟨hsent, hnot⟩ := hm
      simp only [List.mem_append, List.mem_singleton, not_or] at hnot
      obtain ⟨p, hp, hpm⟩ := h.listed m ⟨by simpa using hsent, hnot.1⟩
      refine ⟨p, ?_, hpm⟩
      rw [hpending] at hp
      have hne : p ≠ entry := fun heq => hnot.2 (by rw [← hpm, heq])
      simpa [hne] using hp
    · simpa using h.bound m
    · obtain ⟨wire, time, hmem⟩ := h.tracked m (by simpa using hm)
      exact ⟨wire, time, List.mem_append_left _ hmem⟩
    · rw [transmissions_retired]
      rcases List.mem_append.mp hm with hm | hm
      · exact h.retired m hm
      · cases List.mem_singleton.mp hm
        exact (h.entry entry (by simp [hpending])).outstanding.1

lemma pollRetransmit (h : r.Recorded) : (r.pollRetransmit now).Recorded := by
  unfold BufferRun.pollRetransmit
  rcases OutgoingBuffer.pollRetransmit_cases r.buffer now with
    ⟨hpoll, -⟩ | ⟨head, rest, hpending, -, ⟨-, hpoll⟩ | ⟨hattempts, hpoll⟩⟩
  · rw [hpoll]
    exact ⟨h.sorted, h.entry, h.listed, h.bound, h.tracked, h.retired⟩
  · rw [hpoll]
    exact ⟨h.sorted, h.entry, h.listed, h.bound, h.tracked, h.retired⟩
  · rw [hpoll]
    have hhead := h.entry head (by simp [hpending])
    have hne : ∀ p ∈ rest, p.sequence ≠ head.sequence := by
      intro p hp
      exact h.sequence_ne (show r.buffer.pending = [] ++ head :: rest from hpending) hp
    refine ⟨?_, fun p hp => ?_, fun m hm => ?_, fun m => ?_, fun m hm => ?_, fun m hm => ?_⟩
    · have hsorted := h.sorted
      rw [hpending, List.pairwise_cons] at hsorted
      exact List.pairwise_cons.mpr hsorted
    · rcases List.mem_cons.mp hp with rfl | hp
      · exact hhead.resent
      · refine (h.entry p (by simp [hpending, hp])).append ?_ ?_
        · simp [(hne p hp).symm]
        · intro he
          cases he
    · obtain ⟨hsent, hnot⟩ := hm
      by_cases hm : head.sequence = m
      · exact ⟨_, List.mem_cons_self, hm⟩
      · obtain ⟨p, hp, hpm⟩ := h.listed m ⟨by simpa [hm] using hsent, by simpa using hnot⟩
        refine ⟨p, List.mem_cons_of_mem _ ?_, hpm⟩
        rw [hpending] at hp
        exact (List.mem_cons.mp hp).resolve_left fun heq => hm (heq ▸ hpm)
    · by_cases hm : head.sequence = m
      · subst hm
        rw [transmissions_resent, if_pos rfl, List.length_append, hhead.count]
        exact hattempts
      · simpa [hm] using h.bound m
    · by_cases hm' : head.sequence = m
      · subst hm'
        obtain ⟨time, hmem⟩ := hhead.tracked
        exact ⟨_, time, List.mem_append_left _ hmem⟩
      · obtain ⟨wire, time, hmem⟩ := h.tracked m (by simpa [hm'] using hm)
        exact ⟨wire, time, List.mem_append_left _ hmem⟩
    · have hold := h.retired m (by simpa using hm)
      simp [hold]

/-- A call keeps the configuration. -/
lemma maxAttempts_of_step {r' : BufferRun} {l : BufferCall × ℕ} (hstep : r.step l = some r') :
    r'.buffer.maxAttempts = r.buffer.maxAttempts := by
  unfold BufferRun.step at hstep
  split at hstep
  · cases hstep
  · split at hstep
    · next wire n _ =>
      split at hstep <;> cases hstep
      unfold BufferRun.track
      rcases OutgoingBuffer.track_cases r.buffer l.2 wire n with
        ⟨h, -⟩ | h <;> rw [h]
    · next n _ =>
      cases hstep
      unfold BufferRun.acknowledge
      rcases OutgoingBuffer.acknowledge_cases r.buffer l.2 n with
        ⟨h, -⟩ | ⟨_, _, _, -, -, h⟩ <;> rw [h]
    · cases hstep
      unfold BufferRun.pollRetransmit
      rcases OutgoingBuffer.pollRetransmit_cases r.buffer l.2 with
        ⟨h, -⟩ | ⟨_, _, -, -, ⟨-, h⟩ | ⟨-, h⟩⟩ <;> rw [h]

theorem step {r' : BufferRun} {l : BufferCall × ℕ} (h : r.Recorded)
    (hmax : 1 ≤ r.buffer.maxAttempts) (hstep : r.step l = some r') : r'.Recorded := by
  unfold BufferRun.step at hstep
  split at hstep
  · cases hstep
  · split at hstep
    · split at hstep
      · next hn =>
        cases hstep
        exact h.track hmax hn
      · cases hstep
    · cases hstep
      exact h.acknowledge
    · cases hstep
      exact h.pollRetransmit

end BufferRun.Recorded

/-! ## Soundness -/

/-- What holds of the next call, whatever it is. -/
structure BufferRun.Sound (r : BufferRun) : Prop where
  /-- A resend names the oldest pending number, overdue, with the bytes it was tracked with. -/
  resend : ∀ now n wire, (r.buffer.pollRetransmit now).1 = .resend n wire →
    r.Overdue n now ∧ ∃ time, .tracked n wire time ∈ r.log
  /-- A number is transmitted at most `maxAttempts` times. -/
  attempts : ∀ n, (transmissions r.log n).length ≤ r.buffer.maxAttempts
  /-- The buffer gives up on the overdue head after that many transmissions, and only then. -/
  gaveUp : ∀ now n k, (r.buffer.pollRetransmit now).1 = .gaveUp n k ↔
    r.Overdue n now ∧ (transmissions r.log n).length = r.buffer.maxAttempts ∧
      k = r.buffer.maxAttempts
  /-- The estimate changes only with the acknowledgement of a number transmitted once. -/
  sample : ∀ l r', r.step l = some r' → r'.buffer.rtt ≠ r.buffer.rtt →
    ∃ n time wire, l.1 = .acknowledge n ∧ Outstanding r.log n ∧
      .tracked n wire time ∈ r.log ∧ (transmissions r.log n).length = 1 ∧
      r'.buffer.rtt = r.buffer.rtt.record (l.2 - time)
  /-- Calls that come to nothing change nothing. -/
  refused : ∀ now wire n, (r.buffer.track now wire n).1 = false →
    (r.buffer.track now wire n).2 = r.buffer
  unknown : ∀ now n, ((r.buffer.acknowledge now n).1 = true ↔ Outstanding r.log n) ∧
    (¬ Outstanding r.log n → (r.buffer.acknowledge now n).2 = r.buffer)
  idle : ∀ now, (r.buffer.pollRetransmit now).1 = .idle →
    (r.buffer.pollRetransmit now).2 = r.buffer

namespace BufferRun.Recorded

variable {r : BufferRun} {n : Int64} {now : ℕ} {head : Pending} {rest : List Pending}

/-- The head of the buffer is overdue when its timer says so. -/
lemma overdue_head (h : r.Recorded) (hpending : r.buffer.pending = head :: rest)
    (hdue : r.buffer.rtt.rto < now - head.lastSent) : r.Overdue head.sequence now := by
  have hhead := h.entry head (by simp [hpending])
  exact ⟨hhead.outstanding, fun _ => h.head_le hpending, _, hhead.last, hdue⟩

/-- An overdue number is the head of the buffer. -/
lemma head_of_overdue (h : r.Recorded) (hn : r.Overdue n now) :
    ∃ head rest, r.buffer.pending = head :: rest ∧ head.sequence = n ∧
      r.buffer.rtt.rto < now - head.lastSent := by
  obtain ⟨hout, hleast, last, hlast, hdue⟩ := hn
  obtain ⟨p, hp, hpn⟩ := h.listed n hout
  cases hpending : r.buffer.pending with
  | nil =>
    rw [hpending] at hp
    cases hp
  | cons head rest =>
    have hhead := h.entry head (by simp [hpending])
    have heq : head.sequence = n :=
      Int64.le_antisymm (h.head_le hpending hout) (hleast _ hhead.outstanding)
    refine ⟨head, rest, rfl, heq, ?_⟩
    have hsent := hhead.last
    rw [heq, hlast] at hsent
    cases hsent
    exact hdue

/-- The outstanding numbers are those that an acknowledgement finds. -/
lemma acknowledge_iff (h : r.Recorded) :
    (r.buffer.acknowledge now n).1 = true ↔ Outstanding r.log n := by
  rcases OutgoingBuffer.acknowledge_cases r.buffer now n with
    ⟨hack, hnone⟩ | ⟨before, entry, after, hpending, rfl, hack⟩
  · rw [hack]
    refine ⟨fun hfalse => (by cases hfalse), fun hout => ?_⟩
    obtain ⟨p, hp, hpn⟩ := h.listed n hout
    exact absurd hpn (hnone p hp)
  · rw [hack]
    exact ⟨fun _ => (h.entry entry (by simp [hpending])).outstanding, fun _ => rfl⟩

lemma sample (h : r.Recorded) {l : BufferCall × ℕ} {r' : BufferRun} (hstep : r.step l = some r')
    (hrtt : r'.buffer.rtt ≠ r.buffer.rtt) :
    ∃ n time wire, l.1 = .acknowledge n ∧ Outstanding r.log n ∧
      .tracked n wire time ∈ r.log ∧ (transmissions r.log n).length = 1 ∧
      r'.buffer.rtt = r.buffer.rtt.record (l.2 - time) := by
  unfold BufferRun.step at hstep
  split at hstep
  · cases hstep
  · split at hstep
    · next wire n _ =>
      split at hstep <;> cases hstep
      refine absurd ?_ hrtt
      unfold BufferRun.track
      rcases OutgoingBuffer.track_cases r.buffer l.2 wire n with
        ⟨htrack, -⟩ | htrack <;> rw [htrack]
    · next n hl =>
      cases hstep
      unfold BufferRun.acknowledge at hrtt ⊢
      rcases OutgoingBuffer.acknowledge_cases r.buffer l.2 n with
        ⟨hack, -⟩ | ⟨before, entry, after, hpending, rfl, hack⟩
      · rw [hack] at hrtt
        exact absurd rfl hrtt
      · rw [hack] at hrtt ⊢
        have hentry := h.entry entry (by simp [hpending])
        by_cases hattempts : entry.attempts = 1
        · have hcount := hentry.count.trans hattempts
          exact ⟨entry.sequence, entry.lastSent, entry.wire, hl, hentry.outstanding,
            hentry.tracked_of_once hcount, hcount, if_pos hattempts⟩
        · exact absurd (if_neg hattempts) hrtt
    · cases hstep
      refine absurd ?_ hrtt
      unfold BufferRun.pollRetransmit
      rcases OutgoingBuffer.pollRetransmit_cases r.buffer l.2 with
        ⟨hpoll, -⟩ | ⟨_, _, -, -, ⟨-, hpoll⟩ | ⟨-, hpoll⟩⟩ <;> rw [hpoll]

theorem sound (h : r.Recorded) : r.Sound where
  resend now n wire hresend := by
    rcases OutgoingBuffer.pollRetransmit_cases r.buffer now with
      ⟨hpoll, -⟩ | ⟨head, rest, hpending, hdue, ⟨-, hpoll⟩ | ⟨-, hpoll⟩⟩ <;> rw [hpoll] at hresend
    · cases hresend
    · cases hresend
    · cases hresend
      exact ⟨h.overdue_head hpending hdue, (h.entry head (by simp [hpending])).tracked⟩
  attempts := h.bound
  gaveUp now n k := by
    rcases OutgoingBuffer.pollRetransmit_cases r.buffer now with
      ⟨hpoll, hidle⟩ | ⟨head, rest, hpending, hdue, hcases⟩
    · rw [hpoll]
      refine ⟨fun hfalse => (by cases hfalse), fun ⟨hn, _, _⟩ => ?_⟩
      obtain ⟨head, rest, hpending, -, hdue⟩ := h.head_of_overdue hn
      exact absurd (hidle head rest hpending) (Nat.not_le_of_lt hdue)
    · have hhead := h.entry head (by simp [hpending])
      have hbound := h.bound head.sequence
      rw [hhead.count] at hbound
      rcases hcases with ⟨hmax, hpoll⟩ | ⟨hmax, hpoll⟩
      · have hattempts := Nat.le_antisymm hbound hmax
        rw [hpoll]
        refine ⟨fun hgave => ?_, fun ⟨hn, _, hk⟩ => ?_⟩
        · cases hgave
          exact ⟨h.overdue_head hpending hdue, by rw [hhead.count, hattempts], hattempts⟩
        · obtain ⟨head', rest', hpending', hseq, -⟩ := h.head_of_overdue hn
          rw [hpending] at hpending'
          cases hpending'
          rw [hseq, hattempts, hk]
      · rw [hpoll]
        refine ⟨fun hfalse => (by cases hfalse), fun ⟨hn, hlen, _⟩ => ?_⟩
        obtain ⟨head', rest', hpending', hseq, -⟩ := h.head_of_overdue hn
        rw [hpending] at hpending'
        cases hpending'
        rw [← hseq, hhead.count] at hlen
        exact absurd hlen (Nat.ne_of_lt hmax)
  sample _ _ := h.sample
  refused now wire n hrefused := by
    rcases OutgoingBuffer.track_cases r.buffer now wire n with
      ⟨htrack, -⟩ | htrack <;> rw [htrack] at hrefused ⊢
    cases hrefused
  unknown now n := by
    refine ⟨h.acknowledge_iff, fun hout => ?_⟩
    rcases OutgoingBuffer.acknowledge_cases r.buffer now n with
      ⟨hack, -⟩ | ⟨_, _, _, -, -, hack⟩
    · rw [hack]
    · exact absurd (h.acknowledge_iff.mp (by rw [hack])) hout
  idle now hidle := by
    rcases OutgoingBuffer.pollRetransmit_cases r.buffer now with
      ⟨hpoll, -⟩ | ⟨_, _, -, -, ⟨-, hpoll⟩ | ⟨-, hpoll⟩⟩ <;> rw [hpoll] at hidle ⊢
    · cases hidle

end BufferRun.Recorded

/-- The history describes the buffer in every run. -/
lemma BufferRun.Recorded.of_reachable {capacity maxAttempts : ℕ} (hmax : 1 ≤ maxAttempts)
    {r : BufferRun} (h : Reachable BufferRun.step free (.new capacity maxAttempts) r) :
    r.Recorded ∧ r.buffer.maxAttempts = maxAttempts := by
  refine h.invariant (P := fun r => r.Recorded ∧ r.buffer.maxAttempts = maxAttempts)
    ⟨.new capacity maxAttempts, rfl⟩ ?_
  intro s l s' hs hstep _
  have hattempts := maxAttempts_of_step hstep
  exact ⟨hs.1.step (by rw [hs.2]; exact hmax) hstep, hattempts.trans hs.2⟩

/-- **The outgoing buffer retransmits soundly**, whatever is tracked, acknowledged and polled. -/
theorem retransmits_soundly {capacity maxAttempts : ℕ} (hmax : 1 ≤ maxAttempts) {r : BufferRun}
    (h : Reachable BufferRun.step free (.new capacity maxAttempts) r) :
    r.Sound ∧ r.buffer.maxAttempts = maxAttempts := by
  obtain ⟨hrecorded, hattempts⟩ := BufferRun.Recorded.of_reachable hmax h
  exact ⟨hrecorded.sound, hattempts⟩

/-- The first of two messages is resent, and acknowledged after the second. -/
theorem retransmits_soundly_resent :
    ∃ r, Reachable BufferRun.step free (.new 2 3) r ∧
      r.log = [.tracked 0 [1] 0, .tracked 1 [2] 10, .resent 0 [1] 300000000, .retired 1,
        .retired 0] ∧ r.Sound := by
  have hrun : (run BufferRun.step (.new 2 3) [(.track [1] 0, 0), (.track [2] 1, 10),
      (.pollRetransmit, 100000000), (.pollRetransmit, 300000000), (.acknowledge 1, 310000000),
      (.acknowledge 0, 320000000)]).any (fun r => decide (r.log =
        [.tracked 0 [1] 0, .tracked 1 [2] 10, .resent 0 [1] 300000000, .retired 1, .retired 0])) =
      true := by decide +kernel
  obtain ⟨r, hr, hlog⟩ := exists_of_run hrun
  exact ⟨r, hr, of_decide_eq_true hlog, (retransmits_soundly (by decide) hr).1⟩

end SsmBridge
