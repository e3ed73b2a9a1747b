import SsmBridge.Construction.FanoutCalls
import Mathlib.Data.List.Infix

/-!
# Output fan-out is lossless or says so

A stream gets every chunk that is sent while its sending half is in the fan-out's list, so what it
has yielded and what is queued for it is a run of the chunks sent, from its subscription on.  The
run ends in two ways: with the fan-out, after everything sent before the close, or with a full
queue, right before the chunk that found it full, and then the lag flag is up before the end can be
seen.

`Fanout.offered` counts the chunks that have been offered to a stream: a call of `send` that holds
the lock has counted its chunk as sent and may not have got to the stream yet.
-/

namespace SsmBridge.FanoutCalls

open Machine

/-! ## What holds of a stream -/

/-- A chunk found the queue of the stream full, with everything sent before it in the queue or
yielded, and nothing from it on is yielded. -/
structure Subscription.CutAt (f : Fanout) (r : Subscription) (k : Refusal) : Prop where
  refused : r.refused = some k
  full : k.queue.length = r.stream.capacity
  since_le : r.since ≤ k.chunk
  sent : k.chunk < f.sent.length
  found : ∃ taken, taken <+: r.yielded ∧ taken ++ k.queue = (f.sent.take k.chunk).drop r.since
  yielded : r.yielded <+: (f.sent.take k.chunk).drop r.since

/-- What the consumer of a stream can rely on. -/
structure Lossless (f : Fanout) (r : Subscription) : Prop where
  /-- The chunks yielded are those sent since the subscription, without a gap. -/
  contiguous : r.yielded <+: f.sent.drop r.since
  /-- At the end, without a lag, none sent before the close is missing. -/
  complete : r.ended = true → r.stream.lagged = false →
    ∃ k, f.closedAt = some k ∧ (f.sent.take k).drop r.since <+: r.yielded
  /-- With a lag, they end right before the chunk that found the queue full. -/
  cut : r.stream.lagged = true → ∃ k, r.CutAt f k ∧
    (r.ended = true → r.yielded = (f.sent.take k.chunk).drop r.since)
  /-- A stream of a closed fan-out is over at once. -/
  late : r.late = true → r.yielded = [] ∧ (r.stream.dropped = true ∨ r.ended = true) ∧
    r.stream.lagged = false

/-- The chunks that have been offered to stream `i`. -/
def Fanout.offered (f : Fanout) (i : ℕ) : ℕ :=
  match f.lock with
  | .sending _ next => if next ≤ i then f.sent.length - 1 else f.sent.length
  | .evicting _ next => if next < i then f.sent.length - 1 else f.sent.length
  | _ => f.sent.length

/-- The invariant of one stream. -/
structure Subscription.Sound (f : Fanout) (i : ℕ) (r : Subscription) : Prop where
  since_le : r.since ≤ f.offered i
  contiguous : r.yielded ++ r.stream.queue <+: f.sent.drop r.since
  dropped : r.stream.dropped = true → r.stream.queue = []
  offered : r.stream.attached = true → r.stream.dropped = false → r.stream.lagged = false →
    r.yielded ++ r.stream.queue = (f.sent.take (f.offered i)).drop r.since
  bounded : r.stream.queue.length ≤ r.stream.capacity
  lagged : r.stream.lagged = true → ∃ k, r.CutAt f k ∧
    (r.stream.dropped = false →
      r.yielded ++ r.stream.queue = (f.sent.take k.chunk).drop r.since)
  evicting : r.stream.lagged = true → r.stream.attached = true → ∃ d, f.lock = .evicting d i
  closed : r.stream.attached = false → r.stream.dropped = false → r.stream.lagged = false →
    ∃ k, f.closedAt = some k ∧ (f.sent.take k).drop r.since <+: r.yielded ++ r.stream.queue
  late : r.late = true → r.yielded = [] ∧ r.stream.queue = [] ∧ r.stream.attached = false ∧
    r.stream.lagged = false

/-- The invariant of the fan-out. -/
structure Fanout.Sound (f : Fanout) : Prop where
  streams : ∀ (i : ℕ) (r : Subscription), f.streams[i]? = some r → r.Sound f i
  /-- The chunk being sent is the last one. -/
  sending : ∀ data next, f.lock = .sending data next ∨ f.lock = .evicting data next →
    ∃ before, f.sent = before ++ [data]
  /-- A stream that is being evicted has its flag up. -/
  evicting : ∀ (data : Bytes) (i : ℕ) (r : Subscription), f.lock = .evicting data i →
    f.streams[i]? = some r → r.stream.lagged = true
  closed : f.closed = f.closedAt.isSome
  closedAt : ∀ k, f.closedAt = some k → k ≤ f.sent.length
  closing : f.closing = true → f.closed = true
  clearing : ∀ next, f.lock = .clearing next → f.closed = true

/-- Chunks that are sent later do not change where a stream was cut. -/
lemma Subscription.CutAt.congr {f f' : Fanout} {r : Subscription} {k : Refusal} (h : r.CutAt f k)
    (hsent : f.sent <+: f'.sent) : r.CutAt f' k := by
  obtain ⟨more, hmore⟩ := hsent
  have htake : f'.sent.take k.chunk = f.sent.take k.chunk := by
    rw [← hmore, List.take_append_of_le_length (Nat.le_of_lt h.sent)]
  refine ⟨h.refused, h.full, h.since_le, ?_, ?_, ?_⟩
  · rw [← hmore, List.length_append]
    exact Nat.lt_of_lt_of_le h.sent (Nat.le_add_right _ _)
  · rw [htake]
    exact h.found
  · rw [htake]
    exact h.yielded

lemma Subscription.Sound.lossless {f : Fanout} {i : ℕ} {r : Subscription} (h : r.Sound f i) :
    Lossless f r where
  contiguous := (List.prefix_append _ _).trans h.contiguous
  complete hended hlagged := by
    simp only [Subscription.ended, OutputStream.ended, Bool.and_eq_true, Bool.not_eq_true',
      List.isEmpty_iff] at hended
    obtain ⟨hdropped, hattached, hqueue⟩ := hended
    obtain ⟨k, hk, hle⟩ := h.closed hattached hdropped hlagged
    rw [hqueue, List.append_nil] at hle
    exact ⟨k, hk, hle⟩
  cut hlagged := by
    obtain ⟨k, hcut, heq⟩ := h.lagged hlagged
    refine ⟨k, hcut, ?_⟩
    intro hended
    simp only [Subscription.ended, OutputStream.ended, Bool.and_eq_true, Bool.not_eq_true',
      List.isEmpty_iff] at hended
    have hall := heq hended.1
    rwa [hended.2.2, List.append_nil] at hall
  late hlate := by
    obtain ⟨hyielded, hqueue, hattached, hlagged⟩ := h.late hlate
    refine ⟨hyielded, ?_, hlagged⟩
    cases hdropped : r.stream.dropped with
    | true => exact .inl rfl
    | false =>
      refine .inr ?_
      simp [Subscription.ended, OutputStream.ended, hdropped, hattached, hqueue]

/-! ## Streams that a step is not about -/

section

variable {f f' : Fanout} {i j : ℕ} {r : Subscription} {data : Bytes}

/-- A stream keeps its invariant when nothing it depends on changes. -/
lemma Subscription.Sound.congr (h : r.Sound f i) (hsent : f'.sent = f.sent)
    (hoffered : f'.offered i = f.offered i) (hclosedAt : f'.closedAt = f.closedAt)
    (hlock : ∀ d, f.lock = .evicting d i → ∃ d', f'.lock = .evicting d' i) : r.Sound f' i where
  since_le := hoffered ▸ h.since_le
  contiguous := hsent ▸ h.contiguous
  dropped := h.dropped
  offered := by
    rw [hsent, hoffered]
    exact h.offered
  bounded := h.bounded
  lagged hlagged := by
    obtain ⟨k, hcut, hrun⟩ := h.lagged hlagged
    exact ⟨k, hcut.congr (hsent ▸ List.prefix_rfl), hsent ▸ hrun⟩
  evicting hlagged hattached := by
    obtain ⟨d, hd⟩ := h.evicting hlagged hattached
    exact hlock d hd
  closed := by
    rw [hsent, hclosedAt]
    exact h.closed
  late := h.late

/-- The offer to one stream is not counted for the others. -/
lemma Fanout.offered_of_ne {streams : List Subscription} {next : ℕ} {lock : Lock}
    (hlock : f.lock = .sending data next)
    (hlock' : lock = .sending data (next + 1) ∨ lock = .evicting data next) (hj : j ≠ next) :
    ({ f with streams, lock } : Fanout).offered j = f.offered j := by
  obtain rfl | rfl := hlock'
  · have hiff : next + 1 ≤ j ↔ next ≤ j := by omega
    simp [Fanout.offered, hlock, hiff]
  · have hiff : next < j ↔ next ≤ j := by omega
    simp [Fanout.offered, hlock, hiff]

/-- A stream when another chunk is sent, before it is offered to it. -/
lemma Subscription.Sound.grow (h : r.Sound f i) (hfree : f.lock = .free)
    (hclosedAt : ∀ k, f.closedAt = some k → k ≤ f.sent.length) :
    r.Sound { f with lock := .sending data 0, sent := f.sent ++ [data] } i := by
  have hoffered : f.offered i = f.sent.length := by simp [Fanout.offered, hfree]
  have hoffered' : ({ f with lock := .sending data 0, sent := f.sent ++ [data] } :
      Fanout).offered i = f.sent.length := by simp [Fanout.offered]
  have htake : ∀ k ≤ f.sent.length, (f.sent ++ [data]).take k = f.sent.take k :=
    fun k hk => List.take_append_of_le_length hk
  have hsince : r.since ≤ f.sent.length := hoffered ▸ h.since_le
  refine ⟨?_, ?_, h.dropped, ?_, h.bounded, ?_, ?_, ?_, h.late⟩
  · rw [hoffered']
    exact hsince
  · refine h.contiguous.trans ?_
    show f.sent.drop r.since <+: (f.sent ++ [data]).drop r.since
    rw [List.drop_append_of_le_length hsince]
    exact List.prefix_append _ _
  · intro hattached hdropped hlagged
    rw [hoffered', htake _ (Nat.le_refl _), ← hoffered]
    exact h.offered hattached hdropped hlagged
  · intro hlagged
    obtain ⟨k, hcut, hrun⟩ := h.lagged hlagged
    refine ⟨k, hcut.congr (List.prefix_append _ _), ?_⟩
    rw [htake k.chunk (Nat.le_of_lt hcut.sent)]
    exact hrun
  · intro hlagged hattached
    obtain ⟨d, hd⟩ := h.evicting hlagged hattached
    rw [hfree] at hd
    cases hd
  · intro hattached hdropped hlagged
    obtain ⟨k, hk, hle⟩ := h.closed hattached hdropped hlagged
    refine ⟨k, hk, ?_⟩
    rw [htake k (hclosedAt k hk)]
    exact hle

/-- A new stream of an open fan-out. -/
lemma Subscription.Sound.new (hfree : f.offered i = f.sent.length) (capacity : ℕ) :
    (Subscription.new capacity f.sent.length false).Sound f i := by
  refine ⟨?_, List.nil_prefix, fun _ => rfl, ?_, Nat.zero_le _, ?_, ?_, ?_, ?_⟩
  · rw [hfree]
    exact Nat.le_refl _
  · intro _ _ _
    simp [Subscription.new, hfree]
  · intro hlagged
    cases hlagged
  · intro hlagged
    cases hlagged
  · intro hattached
    cases hattached
  · intro hlate
    cases hlate

/-- A stream of a closed fan-out. -/
lemma Subscription.Sound.late_new (hfree : f.offered i = f.sent.length) {k : ℕ}
    (hclosedAt : f.closedAt = some k) :
    (Subscription.new 1 f.sent.length true).Sound f i := by
  refine ⟨?_, List.nil_prefix, fun _ => rfl, ?_, Nat.zero_le _, ?_, ?_, ?_, ?_⟩
  · rw [hfree]
    exact Nat.le_refl _
  · intro hattached
    cases hattached
  · intro hlagged
    cases hlagged
  · intro hlagged
    cases hlagged
  · intro _ _ _
    refine ⟨k, hclosedAt, ?_⟩
    have hnone : (f.sent.take k).drop f.sent.length = [] :=
      List.drop_eq_nil_of_le (List.length_take_le' _ _)
    exact hnone ▸ List.nil_prefix
  · intro _
    exact ⟨rfl, rfl, rfl, rfl⟩

/-- The sending half of a stream is dropped; without a lag that is the end of the fan-out. -/
lemma Subscription.Sound.detach (h : r.Sound f i) (hsent : f'.sent = f.sent)
    (hoffered : f.offered i ≤ f'.offered i) (hclosedAt : f'.closedAt = f.closedAt)
    (hend : r.stream.attached = true → r.stream.dropped = false → r.stream.lagged = false →
      ∃ k, f.closedAt = some k ∧ (f.sent.take k).drop r.since <+: r.yielded ++ r.stream.queue) :
    r.detach.Sound f' i := by
  refine ⟨Nat.le_trans h.since_le hoffered, hsent ▸ h.contiguous, h.dropped, ?_, h.bounded, ?_, ?_,
    ?_, ?_⟩
  · intro hattached
    cases hattached
  · intro hlagged
    obtain ⟨k, hcut, hrun⟩ := h.lagged hlagged
    have hcut' : r.CutAt f' k := hcut.congr (hsent ▸ List.prefix_rfl)
    exact ⟨k, ⟨hcut'.refused, hcut'.full, hcut'.since_le, hcut'.sent, hcut'.found, hcut'.yielded⟩,
      hsent ▸ hrun⟩
  · intro _ hattached
    cases hattached
  · intro _ hdropped hlagged
    rw [hsent, hclosedAt]
    cases hattached : r.stream.attached with
    | true => exact hend hattached hdropped hlagged
    | false => exact h.closed hattached hdropped hlagged
  · intro hlate
    obtain ⟨hyielded, hqueue, -, hlagged⟩ := h.late hlate
    exact ⟨hyielded, hqueue, rfl, hlagged⟩

section Offer

variable {before : List Bytes} (hattached : r.stream.attached = true)
  (hdropped : r.stream.dropped = false) (hlagged : r.stream.lagged = false)
  (hbefore : f.sent = before ++ [data]) (hoffered : f.offered i = before.length)
  (hsent : f'.sent = f.sent)

include hbefore hoffered hsent in
/-- After its turn a stream has been offered every chunk. -/
lemma Fanout.offered_le_sending (hlock : f'.lock = .sending data (i + 1)) :
    f.offered i ≤ f'.offered i := by
  have hpast : ¬ i + 1 ≤ i := by omega
  rw [hoffered]
  simp [Fanout.offered, hlock, hsent, hbefore, hpast]

include hattached hdropped hlagged hbefore hoffered in
/-- What a stream had before its turn. -/
lemma Subscription.Sound.before_turn (h : r.Sound f i) :
    r.since ≤ before.length ∧ r.yielded ++ r.stream.queue = before.drop r.since ∧
      ¬ r.late = true := by
  have hrun := h.offered hattached hdropped hlagged
  rw [hoffered, hbefore, List.take_left] at hrun
  refine ⟨hoffered ▸ h.since_le, hrun, ?_⟩
  intro hlate
  rw [(h.late hlate).2.2.1] at hattached
  cases hattached

include hattached hdropped hlagged hbefore hoffered hsent in
/-- The queue of a stream is full. -/
lemma Subscription.Sound.lag (h : r.Sound f i) (hfull : r.stream.capacity ≤ r.stream.queue.length)
    (hlock : f'.lock = .evicting data i) :
    (r.lag (f.sent.length - 1)).Sound f' i := by
  obtain ⟨hsince, hrun, hlate⟩ := h.before_turn hattached hdropped hlagged hbefore hoffered
  have hlast : f.sent.length - 1 = before.length := by simp [hbefore]
  have htake : (f'.sent.take before.length).drop r.since = before.drop r.since := by
    rw [hsent, hbefore, List.take_left]
  refine ⟨?_, hsent ▸ h.contiguous, h.dropped, ?_, h.bounded, ?_, ?_, ?_,
    fun hl => absurd hl hlate⟩
  · simp only [Fanout.offered, hlock, hsent, hbefore, Nat.lt_irrefl, if_false, List.length_append,
      List.length_singleton]
    exact Nat.le_succ_of_le hsince
  · intro _ _ hunlagged
    cases hunlagged
  · intro _
    have hfound : r.yielded ++ r.stream.queue = (f'.sent.take before.length).drop r.since := by
      rw [htake, hrun]
    refine ⟨⟨before.length, r.stream.queue⟩, ⟨?_, ?_, hsince, ?_, ?_, ?_⟩, fun _ => hfound⟩
    · rw [← hlast]
      rfl
    · exact Nat.le_antisymm h.bounded hfull
    · simp [hsent, hbefore]
    · exact ⟨r.yielded, List.prefix_rfl, hfound⟩
    · show r.yielded <+: (f'.sent.take before.length).drop r.since
      rw [← hfound]
      exact List.prefix_append _ _
  · exact fun _ _ => ⟨data, hlock⟩
  · intro _ _ hunlagged
    cases hunlagged

include hattached hdropped hlagged hbefore hoffered hsent in
/-- The queue of a stream has room. -/
lemma Subscription.Sound.enqueue (h : r.Sound f i)
    (hroom : r.stream.queue.length < r.stream.capacity)
    (hlock : f'.lock = .sending data (i + 1)) : (r.enqueue data).Sound f' i := by
  obtain ⟨hsince, hrun, hlate⟩ := h.before_turn hattached hdropped hlagged hbefore hoffered
  have hall : r.yielded ++ (r.stream.queue ++ [data]) = f'.sent.drop r.since := by
    rw [← List.append_assoc, hrun, hsent, hbefore, List.drop_append_of_le_length hsince]
  have hpast : ¬ i + 1 ≤ i := by omega
  refine ⟨Nat.le_trans h.since_le (Fanout.offered_le_sending hbefore hoffered hsent hlock), ?_, ?_,
    ?_, ?_, ?_, ?_, ?_, fun hl => absurd hl hlate⟩
  · show r.yielded ++ (r.stream.queue ++ [data]) <+: f'.sent.drop r.since
    rw [hall]
  · intro hgone
    rw [show r.stream.dropped = true from hgone] at hdropped
    cases hdropped
  · intro _ _ _
    show r.yielded ++ (r.stream.queue ++ [data]) = _
    rw [hall]
    simp [Fanout.offered, hlock, hpast, Subscription.enqueue]
  · show (r.stream.queue ++ [data]).length ≤ r.stream.capacity
    rw [List.length_append]
    exact hroom
  · intro hl
    rw [show r.stream.lagged = true from hl] at hlagged
    cases hlagged
  · intro hl
    rw [show r.stream.lagged = true from hl] at hlagged
    cases hlagged
  · intro hdetached
    rw [show r.stream.attached = false from hdetached] at hattached
    cases hattached

end Offer

/-- The consumer receives a chunk. -/
lemma Subscription.Sound.recv (h : r.Sound f i) {r' : Subscription} (hr : r.recv = some r') :
    r'.Sound f i := by
  unfold Subscription.recv at hr
  split at hr
  · next chunk rest hdropped hqueue =>
    cases hr
    -- What is yielded and queued stays the same, with the boundary moved by one chunk.
    have hmoved : (r.yielded ++ [chunk]) ++ rest = r.yielded ++ r.stream.queue := by
      rw [hqueue, List.append_assoc]
      rfl
    refine ⟨h.since_le, ?_, ?_, ?_, ?_, ?_, h.evicting, ?_, ?_⟩
    · show (r.yielded ++ [chunk]) ++ rest <+: f.sent.drop r.since
      rw [hmoved]
      exact h.contiguous
    · intro hdropped'
      rw [show r.stream.dropped = true from hdropped'] at hdropped
      cases hdropped
    · intro hattached hdropped' hlagged
      show (r.yielded ++ [chunk]) ++ rest = _
      rw [hmoved]
      exact h.offered hattached hdropped' hlagged
    · have hlength := h.bounded
      rw [hqueue, List.length_cons] at hlength
      exact Nat.le_of_succ_le hlength
    · intro hlagged
      obtain ⟨k, hcut, heq⟩ := h.lagged hlagged
      have hall : (r.yielded ++ [chunk]) ++ rest = (f.sent.take k.chunk).drop r.since :=
        hmoved.trans (heq hdropped)
      obtain ⟨taken, htaken, hfound⟩ := hcut.found
      refine ⟨k, ⟨hcut.refused, hcut.full, hcut.since_le, hcut.sent, ?_, ?_⟩, fun _ => hall⟩
      · exact ⟨taken, htaken.trans (List.prefix_append _ _), hfound⟩
      · show r.yielded ++ [chunk] <+: (f.sent.take k.chunk).drop r.since
        rw [← hall]
        exact List.prefix_append _ _
    · intro hattached hdropped' hlagged
      obtain ⟨k, hk, hle⟩ := h.closed hattached hdropped' hlagged
      refine ⟨k, hk, ?_⟩
      show _ <+: (r.yielded ++ [chunk]) ++ rest
      rw [hmoved]
      exact hle
    · intro hlate
      obtain ⟨-, hnone, -⟩ := h.late hlate
      rw [hqueue] at hnone
      cases hnone
  · cases hr

/-- The consumer drops the stream. -/
lemma Subscription.Sound.drop (h : r.Sound f i) : r.drop.Sound f i := by
  refine ⟨h.since_le, ?_, fun _ => rfl, ?_, Nat.zero_le _, ?_, h.evicting, ?_, ?_⟩
  · show r.yielded ++ [] <+: f.sent.drop r.since
    rw [List.append_nil]
    exact (List.prefix_append _ _).trans h.contiguous
  · intro _ hdropped
    cases hdropped
  · intro hlagged
    obtain ⟨k, hcut, -⟩ := h.lagged hlagged
    refine ⟨k, ⟨hcut.refused, hcut.full, hcut.since_le, hcut.sent, hcut.found, hcut.yielded⟩, ?_⟩
    intro hdropped
    cases hdropped
  · intro _ hdropped
    cases hdropped
  · intro hlate
    obtain ⟨hyielded, -, hattached, hlagged⟩ := h.late hlate
    exact ⟨hyielded, rfl, hattached, hlagged⟩

end

/-! ## Steps -/

namespace Fanout.Sound

variable {f f' : Fanout} {i : ℕ} {data : Bytes}

lemma init : Fanout.new.Sound where
  streams i r hr := by simp [Fanout.new] at hr
  sending data next h := by obtain h | h := h <;> cases h
  evicting data i r h := by cases h
  closed := rfl
  closedAt k hk := by cases hk
  closing h := by cases h
  clearing next h := by cases h

/-- A call takes the lock, or gives it back, with no chunk being sent. -/
lemma relock (h : f.Sound) {lock : Lock} {closing : Bool}
    (hlock : f.lock = .free ∨ (∃ capacity, f.lock = .subscribing capacity) ∨
      ∃ next, f.lock = .clearing next ∨
        ((∃ data, f.lock = .sending data next) ∧ f.streams.length ≤ next))
    (hlock' : lock = .free ∨ (∃ capacity, lock = .subscribing capacity) ∨
      (f.closed = true ∧ ∃ next, lock = .clearing next))
    (hclosing : closing = true → f.closing = true) :
    ({ f with lock, closing } : Fanout).Sound := by
  have hidle : ∀ i < f.streams.length, f.offered i = f.sent.length := by
    intro i hi
    obtain hl | ⟨capacity, hl⟩ | ⟨next, hl | ⟨⟨data, hl⟩, hnext⟩⟩ := hlock <;>
      simp only [offered, hl]
    rw [if_neg (by omega)]
  have hidle' : ∀ i, ({ f with lock, closing } : Fanout).offered i = f.sent.length := by
    intro i
    obtain rfl | ⟨capacity, rfl⟩ | ⟨-, next, rfl⟩ := hlock' <;> rfl
  refine ⟨?_, ?_, ?_, h.closed, h.closedAt, fun hc => h.closing (hclosing hc), ?_⟩
  · intro i r hr
    have hlt : i < f.streams.length := (List.getElem?_eq_some_iff.mp hr).1
    refine (h.streams i r hr).congr rfl ((hidle' i).trans (hidle i hlt).symm) rfl ?_
    intro d hd
    obtain hl | ⟨capacity, hl⟩ | ⟨next, hl | ⟨⟨data, hl⟩, -⟩⟩ := hlock <;>
      rw [hl] at hd <;> cases hd
  · intro d next hsend
    obtain rfl | ⟨capacity, rfl⟩ | ⟨-, n, rfl⟩ := hlock' <;> obtain hl | hl := hsend <;> cases hl
  · intro d i r hl
    obtain rfl | ⟨capacity, rfl⟩ | ⟨-, n, rfl⟩ := hlock' <;> cases hl
  · intro next hl
    obtain rfl | ⟨capacity, rfl⟩ | ⟨hclosed, n, rfl⟩ := hlock'
    · cases hl
    · cases hl
    · exact hclosed

/-- A stream is added while no chunk is being sent. -/
lemma append (h : f.Sound) {r : Subscription} (hr : r.Sound f f.streams.length)
    (hlock : ∀ d n, f.lock ≠ .evicting d n) :
    ({ f with streams := f.streams ++ [r] } : Fanout).Sound := by
  refine ⟨?_, h.sending, ?_, h.closed, h.closedAt, h.closing, h.clearing⟩
  · intro j r' hr'
    obtain ⟨rfl, rfl⟩ | ⟨-, hold⟩ := getElem?_of_concat hr'
    · exact hr.congr rfl rfl rfl (fun d hd => ⟨d, hd⟩)
    · exact (h.streams j r' hold).congr rfl rfl rfl (fun d hd => ⟨d, hd⟩)
  · intro d j r' hl
    exact absurd hl (hlock d j)

lemma subscribe {capacity : ℕ} (h : f.Sound) (hs : f.subscribe capacity = some f') : f'.Sound := by
  unfold Fanout.subscribe at hs
  split at hs
  · next hfree =>
    split at hs
    · next hclosed =>
      cases hs
      rw [h.closed, Option.isSome_iff_exists] at hclosed
      obtain ⟨k, hk⟩ := hclosed
      refine h.append (.late_new ?_ hk) (by simp [hfree])
      simp [Fanout.offered, hfree]
    · cases hs
      exact h.relock (.inl hfree) (.inr (.inl ⟨capacity, rfl⟩)) id
  · cases hs

lemma push (h : f.Sound) (hs : f.push = some f') : f'.Sound := by
  unfold Fanout.push at hs
  split at hs
  · next capacity hlock =>
    cases hs
    have hnew : (Subscription.new capacity f.sent.length false).Sound f f.streams.length :=
      .new (by simp [Fanout.offered, hlock]) capacity
    have hadded := h.append hnew (by simp [hlock])
    exact hadded.relock (.inr (.inl ⟨capacity, hlock⟩)) (.inl rfl) id
  · cases hs

lemma send (h : f.Sound) (hs : f.send data = some f') : f'.Sound := by
  unfold Fanout.send at hs
  split at hs
  · next hfree =>
    cases hs
    refine ⟨?_, ?_, ?_, h.closed, ?_, h.closing, ?_⟩
    · intro i r hr
      exact (h.streams i r hr).grow hfree h.closedAt
    · intro d next hl
      refine ⟨f.sent, ?_⟩
      obtain hl | hl := hl <;> cases hl
      rfl
    · intro d i r hl
      cases hl
    · intro k hk
      have hle := h.closedAt k hk
      show k ≤ (f.sent ++ [data]).length
      rw [List.length_append]
      omega
    · intro next hl
      cases hl
  · cases hs

/-- The call of `send` goes past stream `i`, or starts to evict it. -/
lemma pass (h : f.Sound) (hlock : f.lock = .sending data i) {r' : Subscription} {lock : Lock}
    (hlock' : lock = .sending data (i + 1) ∨ lock = .evicting data i)
    (hr' : r'.Sound { f.update i r' with lock } i)
    (hlag : lock = .evicting data i → r'.stream.lagged = true) :
    ({ f.update i r' with lock } : Fanout).Sound := by
  refine ⟨?_, ?_, ?_, h.closed, h.closedAt, h.closing, ?_⟩
  · intro j r hr
    obtain ⟨rfl, rfl⟩ | ⟨hne, hold⟩ := getElem?_of_set hr
    · exact hr'
    · refine (h.streams j r hold).congr rfl (offered_of_ne hlock hlock' hne) rfl ?_
      intro d hd
      rw [hlock] at hd
      cases hd
  · intro d next hl
    obtain ⟨before, hsent⟩ := h.sending data i (.inl hlock)
    refine ⟨before, ?_⟩
    obtain rfl | rfl := hlock' <;> obtain hl | hl := hl <;> cases hl <;> exact hsent
  · intro d j r hl hr
    obtain rfl | rfl := hlock'
    · cases hl
    · cases hl
      obtain ⟨-, rfl⟩ | ⟨hne, -⟩ := getElem?_of_set hr
      · exact hlag rfl
      · exact absurd rfl hne
  · intro next hl
    obtain rfl | rfl := hlock' <;> cases hl

/-- A stream in the list is not lagged unless it is being evicted. -/
lemma lagged_of_attached (h : f.Sound) {r : Subscription} (hr : f.streams[i]? = some r)
    (hlock : ∀ d, f.lock ≠ .evicting d i) (hattached : r.stream.attached = true) :
    r.stream.lagged = false := by
  cases hlagged : r.stream.lagged with
  | false => rfl
  | true =>
    obtain ⟨d, hd⟩ := (h.streams i r hr).evicting hlagged hattached
    exact absurd hd (hlock d)

lemma offer (h : f.Sound) (hs : f.offer i = some f') : f'.Sound := by
  unfold Fanout.offer at hs
  split at hs
  · next data next r hlock hr =>
    split at hs
    · cases hs
    · next hnext =>
      obtain rfl : next = i := not_not.mp hnext
      have hr₀ := h.streams next r hr
      obtain ⟨before, hsent⟩ := h.sending data next (.inl hlock)
      have hoffered : f.offered next = before.length := by
        simp [Fanout.offered, hlock, hsent]
      split at hs
      · next hdetached =>
        cases hs
        have hattached : r.stream.attached = false := by simpa using hdetached
        have hsame : f.update next r.detach = f := by
          obtain ⟨hlt, hget⟩ := List.getElem?_eq_some_iff.mp hr
          have hr' : r.detach = f.streams[next] := by
            rw [hget]
            simp [Subscription.detach, ← hattached]
          simp [Fanout.update, hr']
        have hpassed := h.pass hlock (.inl rfl) (hr₀.detach rfl
          (offered_le_sending hsent hoffered rfl rfl) rfl (by simp [hattached])) (by simp)
        rwa [hsame] at hpassed
      · next hattached =>
        have hattached' : r.stream.attached = true := by simpa using hattached
        have hlagged := h.lagged_of_attached hr (by simp [hlock]) hattached'
        split at hs
        · next hdropped =>
          cases hs
          refine h.pass hlock (.inl rfl) (hr₀.detach rfl
            (offered_le_sending hsent hoffered rfl rfl) rfl ?_) (by simp)
          intro _ hdropped'
          rw [hdropped] at hdropped'
          cases hdropped'
        · next hheld =>
          have hdropped : r.stream.dropped = false := by simpa using hheld
          split at hs
          · next hfull =>
            cases hs
            exact h.pass hlock (.inr rfl)
              (hr₀.lag hattached' hdropped hlagged hsent hoffered rfl hfull rfl) (fun _ => rfl)
          · next hroom =>
            cases hs
            exact h.pass hlock (.inl rfl)
              (hr₀.enqueue hattached' hdropped hlagged hsent hoffered rfl (Nat.lt_of_not_le hroom)
                rfl) (by simp)
  · cases hs

lemma evict (h : f.Sound) (hs : f.evict i = some f') : f'.Sound := by
  unfold Fanout.evict at hs
  split at hs
  · next data next r hlock hr =>
    split at hs
    · cases hs
    · next hnext =>
      obtain rfl : next = i := not_not.mp hnext
      cases hs
      have hlagged := h.evicting data next r hlock hr
      have hoffered : ∀ j, ({ f.update next r.detach with lock := .sending data (next + 1) } :
          Fanout).offered j = f.offered j := by
        intro j
        have hiff : next + 1 ≤ j ↔ next < j := Iff.rfl
        simp [Fanout.offered, Fanout.update, hlock, hiff]
      refine ⟨?_, ?_, ?_, h.closed, h.closedAt, h.closing, ?_⟩
      · intro j r' hr'
        obtain ⟨rfl, rfl⟩ | ⟨hne, hold⟩ := getElem?_of_set hr'
        · refine (h.streams j r hr).detach rfl (Nat.le_of_eq (hoffered j).symm) rfl ?_
          intro _ _ hunlagged
          rw [hlagged] at hunlagged
          cases hunlagged
        · refine (h.streams j r' hold).congr rfl (hoffered j) rfl ?_
          intro d hd
          rw [hlock] at hd
          cases hd
          exact absurd rfl hne
      · intro d n hl
        refine ⟨(h.sending data next (.inr hlock)).choose, ?_⟩
        obtain hl | hl := hl <;> cases hl
        exact (h.sending data next (.inr hlock)).choose_spec
      · intro d j r' hl
        cases hl
      · intro n hl
        cases hl
  · cases hs

lemma sendReturn (h : f.Sound) (hs : f.sendReturn = some f') : f'.Sound := by
  unfold Fanout.sendReturn at hs
  split at hs
  · next data next hlock =>
    split at hs
    · next hdone =>
      cases hs
      exact h.relock (.inr (.inr ⟨next, .inr ⟨⟨data, hlock⟩, hdone⟩⟩)) (.inl rfl) id
    · cases hs
  · cases hs

lemma close (h : f.Sound) : f.close.Sound := by
  unfold Fanout.close
  split
  · exact h
  · next hopen =>
    have hnone : f.closedAt = none := by
      rw [h.closed] at hopen
      simpa using hopen
    refine ⟨?_, h.sending, h.evicting, rfl, ?_, fun _ => rfl, fun _ _ => rfl⟩
    · intro i r hr
      have hr₀ := h.streams i r hr
      refine ⟨hr₀.since_le, hr₀.contiguous, hr₀.dropped, hr₀.offered, hr₀.bounded, ?_, hr₀.evicting,
        ?_, hr₀.late⟩
      · intro hlagged
        obtain ⟨k, hcut, hrun⟩ := hr₀.lagged hlagged
        exact ⟨k, hcut.congr List.prefix_rfl, hrun⟩
      intro hattached hdropped hlagged
      obtain ⟨k, hk, -⟩ := hr₀.closed hattached hdropped hlagged
      rw [hnone] at hk
      cases hk
    · intro k hk
      cases hk
      exact Nat.le_refl _

lemma closeLock (h : f.Sound) (hs : f.closeLock = some f') : f'.Sound := by
  unfold Fanout.closeLock at hs
  split at hs
  · next hfree hclosing =>
    cases hs
    exact h.relock (.inl hfree) (.inr (.inr ⟨h.closing hclosing, 0, rfl⟩)) (by simp)
  · cases hs

lemma clear (h : f.Sound) (hs : f.clear i = some f') : f'.Sound := by
  unfold Fanout.clear at hs
  split at hs
  · next next r hlock hr =>
    split at hs
    · cases hs
    · next hnext =>
      obtain rfl : next = i := not_not.mp hnext
      cases hs
      have hclosed := h.clearing next hlock
      have hoffered : ∀ j, f.offered j = f.sent.length := by
        intro j
        simp [Fanout.offered, hlock]
      refine ⟨?_, ?_, ?_, h.closed, h.closedAt, h.closing, fun _ _ => hclosed⟩
      · intro j r' hr'
        obtain ⟨rfl, rfl⟩ | ⟨-, hold⟩ := getElem?_of_set hr'
        · have hr₀ := h.streams j r hr
          refine hr₀.detach rfl (Nat.le_of_eq (hoffered j)) rfl ?_
          -- The stream has got everything, so certainly what was sent before the close.
          intro hattached hdropped hlagged
          rw [h.closed, Option.isSome_iff_exists] at hclosed
          obtain ⟨k, hk⟩ := hclosed
          refine ⟨k, hk, ?_⟩
          rw [hr₀.offered hattached hdropped hlagged, hoffered, List.take_length]
          exact (List.take_prefix k f.sent).drop r.since
        · exact (h.streams j r' hold).congr rfl (hoffered j).symm rfl (by simp [hlock])
      · intro d n hl
        obtain hl | hl := hl <;> cases hl
      · intro d j r' hl
        cases hl
  · cases hs

lemma closeReturn (h : f.Sound) (hs : f.closeReturn = some f') : f'.Sound := by
  unfold Fanout.closeReturn at hs
  split at hs
  · next next hlock =>
    split at hs
    · cases hs
      exact h.relock (.inr (.inr ⟨next, .inl hlock⟩)) (.inl rfl) id
    · cases hs
  · cases hs

/-- The consumer of a stream does something without the lock. -/
lemma consumer (h : f.Sound) {r r' : Subscription} (hr : f.streams[i]? = some r)
    (hr' : r'.Sound f i) (hlagged : r'.stream.lagged = r.stream.lagged) :
    (f.update i r').Sound := by
  refine ⟨?_, h.sending, ?_, h.closed, h.closedAt, h.closing, h.clearing⟩
  · intro j r₁ hr₁
    obtain ⟨rfl, rfl⟩ | ⟨-, hold⟩ := getElem?_of_set hr₁
    · exact hr'.congr rfl rfl rfl (fun d hd => ⟨d, hd⟩)
    · exact (h.streams j r₁ hold).congr rfl rfl rfl (fun d hd => ⟨d, hd⟩)
  · intro d j r₁ hl hr₁
    obtain ⟨rfl, rfl⟩ | ⟨-, hold⟩ := getElem?_of_set hr₁
    · rw [hlagged]
      exact h.evicting d j r hl hr
    · exact h.evicting d j r₁ hl hold

lemma recv (h : f.Sound) (hs : f.recv i = some f') : f'.Sound := by
  obtain ⟨r', hr', rfl⟩ := Option.map_eq_some_iff.mp hs
  obtain ⟨r, hr, hrecv⟩ := Option.bind_eq_some_iff.mp hr'
  refine h.consumer hr ((h.streams i r hr).recv hrecv) ?_
  unfold Subscription.recv at hrecv
  split at hrecv <;> cases hrecv
  rfl

lemma drop (h : f.Sound) (hs : f.drop i = some f') : f'.Sound := by
  obtain ⟨r, hr, rfl⟩ := Option.map_eq_some_iff.mp hs
  exact h.consumer hr (h.streams i r hr).drop rfl

theorem step (h : f.Sound) {call : Call} (hs : f.step call = some f') : f'.Sound := by
  cases call with
  | subscribe capacity => exact h.subscribe hs
  | push => exact h.push hs
  | send data => exact h.send hs
  | offer i => exact h.offer hs
  | evict i => exact h.evict hs
  | sendReturn => exact h.sendReturn hs
  | close =>
    cases hs
    exact h.close
  | closeLock => exact h.closeLock hs
  | clear i => exact h.clear hs
  | closeReturn => exact h.closeReturn hs
  | recv i => exact h.recv hs
  | drop i => exact h.drop hs

theorem of_reached (hf : Reached f) : f.Sound :=
  Reachable.invariant .init (fun _ _ _ h hs _ => h.step hs) hf

end Fanout.Sound

/-! ## What a stream can see -/

/-- The lock, as far as stream `i` can tell: whether its turn is over. -/
inductive LockView
  | free
  | subscribing (capacity : ℕ)
  | sending (data : Bytes) (past : Bool)
  | evicting (data : Bytes)
  | clearing (past : Bool)
  deriving DecidableEq

def Lock.view (i : ℕ) : Lock → LockView
  | .free => .free
  | .subscribing capacity => .subscribing capacity
  | .sending data next => .sending data (decide (i < next))
  | .evicting data next => if next = i then .evicting data else .sending data (decide (i < next))
  | .clearing next => .clearing (decide (i < next))

/-- What stream `i` can see of a fan-out. -/
structure View where
  stream : Option Subscription
  count : ℕ
  closed : Bool
  lock : LockView
  closing : Bool
  sent : List Bytes
  closedAt : Option ℕ
  deriving DecidableEq

def Fanout.view (i : ℕ) (f : Fanout) : View where
  stream := f.streams[i]?
  count := f.streams.length
  closed := f.closed
  lock := f.lock.view i
  closing := f.closing
  sent := f.sent
  closedAt := f.closedAt

/-- The steps that are about stream `i`, or about all streams. -/
def Call.concerns (i : ℕ) : Call → Bool
  | .offer j | .evict j | .clear j | .recv j | .drop j => j == i
  | _ => true

section

variable {f f' g g' : Fanout} {i j : ℕ}

/-- An update of another stream is not seen. -/
lemma view_update {r : Subscription} {lock : Lock} (hj : j ≠ i)
    (hlock : lock.view i = f.lock.view i) :
    ({ f.update j r with lock } : Fanout).view i = f.view i := by
  simp [Fanout.view, Fanout.update, hlock, List.getElem?_set_ne hj]

/-- The steps about other streams are not seen. -/
lemma view_of_other {call : Call} (hs : f.step call = some f') (hcall : call.concerns i = false) :
    f'.view i = f.view i := by
  cases call <;> simp only [Call.concerns, beq_eq_false_iff_ne, ne_eq, Bool.true_eq_false] at hcall
  case offer j =>
    simp only [Fanout.step, Fanout.offer] at hs
    split at hs
    · next data next r hlock hr =>
      split at hs
      · cases hs
      · next hnext =>
        obtain rfl : next = j := not_not.mp hnext
        have hpast : (Lock.sending data (next + 1)).view i = f.lock.view i := by
          have hiff : i < next + 1 ↔ i < next := by omega
          simp [hlock, Lock.view, hiff]
        have hevict : (Lock.evicting data next).view i = f.lock.view i := by
          simp [hlock, Lock.view, hcall]
        split at hs
        · cases hs
          simp [Fanout.view, hpast]
        · split at hs
          · cases hs
            exact view_update hcall hpast
          · split at hs
            · cases hs
              exact view_update hcall hevict
            · cases hs
              exact view_update hcall hpast
    · cases hs
  case evict j =>
    simp only [Fanout.step, Fanout.evict] at hs
    split at hs
    · next data next r hlock hr =>
      split at hs
      · cases hs
      · next hnext =>
        obtain rfl : next = j := not_not.mp hnext
        cases hs
        have hiff : i < next + 1 ↔ i < next := by omega
        exact view_update hcall (by simp [hlock, Lock.view, hcall, hiff])
    · cases hs
  case clear j =>
    simp only [Fanout.step, Fanout.clear] at hs
    split at hs
    · next next r hlock hr =>
      split at hs
      · cases hs
      · next hnext =>
        obtain rfl : next = j := not_not.mp hnext
        cases hs
        have hiff : i < next + 1 ↔ i < next := by omega
        exact view_update hcall (by simp [hlock, Lock.view, hiff])
    · cases hs
  case recv j =>
    obtain ⟨r', -, rfl⟩ := Option.map_eq_some_iff.mp hs
    exact view_update hcall rfl
  case drop j =>
    obtain ⟨r', -, rfl⟩ := Option.map_eq_some_iff.mp hs
    exact view_update hcall rfl

/-- A stream that was added, as stream `i` sees it. -/
def View.append (i : ℕ) (v : View) (r : Subscription) : View :=
  { v with stream := if v.count = i then some r else v.stream, count := v.count + 1 }

/-- What a step that concerns stream `i` makes of what it sees. -/
def View.after (i : ℕ) (v : View) : Call → View
  | .subscribe capacity =>
      if v.closed then v.append i (.new 1 v.sent.length true)
      else { v with lock := .subscribing capacity }
  | .push =>
      match v.lock with
      | .subscribing capacity =>
          { v.append i (.new capacity v.sent.length false) with lock := .free }
      | _ => v
  | .send data => { v with lock := .sending data false, sent := v.sent ++ [data] }
  | .offer _ =>
      match v.lock, v.stream with
      | .sending data _, some r =>
          if !r.stream.attached then { v with lock := .sending data true }
          else if r.stream.dropped then
            { v with stream := some r.detach, lock := .sending data true }
          else if r.stream.capacity ≤ r.stream.queue.length then
            { v with stream := some (r.lag (v.sent.length - 1)), lock := .evicting data }
          else { v with stream := some (r.enqueue data), lock := .sending data true }
      | _, _ => v
  | .evict _ =>
      match v.lock with
      | .evicting data =>
          { v with stream := v.stream.map Subscription.detach, lock := .sending data true }
      | _ => v
  | .sendReturn => { v with lock := .free }
  | .close =>
      if v.closed then v
      else { v with closed := true, closing := true, closedAt := some v.sent.length }
  | .closeLock => { v with lock := .clearing false, closing := false }
  | .clear _ => { v with stream := v.stream.map Subscription.detach, lock := .clearing true }
  | .closeReturn => { v with lock := .free }
  | .recv _ => { v with stream := v.stream.bind Subscription.recv }
  | .drop _ => { v with stream := v.stream.map Subscription.drop }

/-- A stream that is added is seen by its own index. -/
lemma view_append (r : Subscription) (lock : Lock) :
    ({ f with streams := f.streams ++ [r], lock } : Fanout).view i =
      { (f.view i).append i r with lock := lock.view i } := by
  have hstream : (f.streams ++ [r])[i]? =
      if f.streams.length = i then some r else f.streams[i]? := by
    split
    · next heq =>
      subst heq
      simp
    · next hne =>
      rw [List.getElem?_append]
      split
      · rfl
      · next hge =>
        rw [List.getElem?_eq_none (by simp; omega), List.getElem?_eq_none (by omega)]
  simp only [Fanout.view, View.append, hstream, List.length_append, List.length_singleton]
  rfl

lemma view_update_self {r r' : Subscription} (hr : f.streams[i]? = some r) (lock : Lock) :
    ({ f.update i r' with lock } : Fanout).view i =
      { f.view i with stream := some r', lock := lock.view i } := by
  obtain ⟨hlt, -⟩ := List.getElem?_eq_some_iff.mp hr
  simp [Fanout.view, Fanout.update, hlt]

/-- A step that concerns a stream changes what it sees by what it sees alone. -/
lemma view_step {call : Call} (hs : f.step call = some f') (hcall : call.concerns i = true) :
    f'.view i = (f.view i).after i call := by
  have hpast : ∀ data, (Lock.sending data (i + 1)).view i = .sending data true := by
    intro data
    simp [Lock.view]
  cases call with
  | subscribe capacity =>
    simp only [Fanout.step, Fanout.subscribe] at hs
    cases hlock : f.lock <;> simp only [hlock, reduceCtorEq] at hs
    cases hclosed : f.closed <;>
      simp only [hclosed, if_true, Bool.false_eq_true, if_false] at hs <;> cases hs
    · simp [View.after, Fanout.view, hclosed, Lock.view]
    · have happend := view_append (f := f) (i := i) (.new 1 f.sent.length true) .free
      simpa [View.after, View.append, hclosed, hlock, Fanout.view, Lock.view] using happend
  | push =>
    simp only [Fanout.step, Fanout.push] at hs
    cases hlock : f.lock <;> simp only [hlock, reduceCtorEq] at hs
    cases hs
    rw [view_append]
    simp [View.after, Fanout.view, hlock, Lock.view]
  | send data =>
    simp only [Fanout.step, Fanout.send] at hs
    cases hlock : f.lock <;> simp only [hlock, reduceCtorEq] at hs
    cases hs
    simp [View.after, Fanout.view, Lock.view]
  | offer j =>
    obtain rfl : j = i := beq_iff_eq.mp hcall
    simp only [Fanout.step, Fanout.offer] at hs
    split at hs
    · next data next r hlock hr =>
      have hview : (f.view j).lock = .sending data (decide (j < next)) := by
        simp [Fanout.view, hlock, Lock.view]
      have hstream : (f.view j).stream = some r := hr
      simp only [View.after, hview, hstream]
      split at hs
      · cases hs
      · split at hs
        · next hdetached =>
          cases hs
          rw [if_pos hdetached]
          simp [Fanout.view, hpast, hr]
        · next hattached =>
          rw [if_neg hattached]
          split at hs
          · next hdropped =>
            cases hs
            rw [if_pos hdropped, view_update_self hr, hpast]
          · next hheld =>
            rw [if_neg hheld]
            split at hs
            · next hfull =>
              cases hs
              rw [if_pos hfull, view_update_self hr]
              simp [Lock.view, Fanout.view]
            · next hroom =>
              cases hs
              rw [if_neg hroom, view_update_self hr, hpast]
    · cases hs
  | evict j =>
    obtain rfl : j = i := beq_iff_eq.mp hcall
    simp only [Fanout.step, Fanout.evict] at hs
    split at hs
    · next data next r hlock hr =>
      split at hs
      · cases hs
      · next hnext =>
        obtain rfl : next = j := not_not.mp hnext
        cases hs
        rw [view_update_self hr, hpast]
        simp [View.after, Fanout.view, hlock, hr, Lock.view]
    · cases hs
  | sendReturn =>
    simp only [Fanout.step, Fanout.sendReturn] at hs
    cases hlock : f.lock <;> simp only [hlock, reduceCtorEq] at hs
    split at hs <;> cases hs
    rfl
  | close =>
    cases hs
    unfold Fanout.close View.after
    cases hclosed : f.closed <;> simp [Fanout.view, hclosed]
  | closeLock =>
    simp only [Fanout.step, Fanout.closeLock] at hs
    split at hs <;> cases hs
    simp [View.after, Fanout.view, Lock.view]
  | clear j =>
    obtain rfl : j = i := beq_iff_eq.mp hcall
    simp only [Fanout.step, Fanout.clear] at hs
    split at hs
    · next next r hlock hr =>
      split at hs
      · cases hs
      · cases hs
        rw [view_update_self hr]
        simp [View.after, Fanout.view, hr, Lock.view]
    · cases hs
  | closeReturn =>
    simp only [Fanout.step, Fanout.closeReturn] at hs
    cases hlock : f.lock <;> simp only [hlock, reduceCtorEq] at hs
    split at hs <;> cases hs
    rfl
  | recv j =>
    obtain rfl : j = i := beq_iff_eq.mp hcall
    obtain ⟨r', hr', rfl⟩ := Option.map_eq_some_iff.mp hs
    obtain ⟨r, hr, hrecv⟩ := Option.bind_eq_some_iff.mp hr'
    have hview : (f.update j r').view j = { f.view j with stream := some r' } :=
      view_update_self hr f.lock
    rw [hview]
    simp [View.after, Fanout.view, hr, hrecv]
  | drop j =>
    obtain rfl : j = i := beq_iff_eq.mp hcall
    obtain ⟨r, hr, rfl⟩ := Option.map_eq_some_iff.mp hs
    have hview : (f.update j r.drop).view j = { f.view j with stream := some r.drop } :=
      view_update_self hr f.lock
    rw [hview]
    simp [View.after, Fanout.view, hr]

/-- **Streams do not interfere.**  Two runs that differ in what is done with other streams end with
the same stream. -/
theorem stream_eq_of_runs {calls calls' : List Call} (hf : run Fanout.step .new calls = some f)
    (hg : run Fanout.step .new calls' = some g)
    (hcalls : calls.filter (Call.concerns i) = calls'.filter (Call.concerns i)) :
    f.streams[i]? = g.streams[i]? := by
  have hview : f.view i = g.view i := by
    have hgood : ∀ s l s', Fanout.step s l = some s' → True → True := fun _ _ _ _ _ => trivial
    refine view_eq_of_runs hgood ?_ ?_ hf hg trivial trivial hcalls
    · intro s l s' hstep hl
      exact view_of_other hstep.step hl
    · intro s t l s' t' hstep hstep' hl heq
      rw [view_step hstep.step hl, view_step hstep'.step hl, heq]
  exact congrArg View.stream hview

end

/-- **Output fan-out is lossless or reports the loss.**  However the calls on a fan-out interleave,
every stream yields the chunks sent from its subscription on, up to the close or, with the lag flag
up, up to the chunk that found its queue full; and what it yields does not depend on what is done
with the other streams. -/
theorem fanout_lossless :
    (∀ f, Reached f → ∀ (i : ℕ) (r : Subscription), f.streams[i]? = some r → Lossless f r) ∧
      ∀ (i : ℕ) (calls calls' : List Call) (f g : Fanout),
        run Fanout.step .new calls = some f → run Fanout.step .new calls' = some g →
        calls.filter (Call.concerns i) = calls'.filter (Call.concerns i) →
        f.streams[i]? = g.streams[i]? := by
  refine ⟨?_, ?_⟩
  · intro f hf i r hr
    exact ((Fanout.Sound.of_reached hf).streams i r hr).lossless
  · intro i calls calls' f g hf hg hcalls
    exact stream_eq_of_runs hf hg hcalls

/-- A call of `send` that reaches two streams. -/
def sendingTwo (data : Bytes) : List Call := [.send data, .offer 0, .offer 1, .sendReturn]

/-- Of two streams the first is too slow for the second chunk; then the fan-out closes. -/
def laggingRun : List Call :=
  List.flatten
    [[.subscribe 1, .push, .subscribe 2, .push], sendingTwo [97],
      [.send [98], .offer 0, .recv 1, .evict 0, .offer 1, .sendReturn, .recv 0, .recv 1, .close,
        .closeLock, .clear 0, .clear 1, .closeReturn]]

/-- The same calls on the second stream; the first one reads in time and is then dropped. -/
def promptRun : List Call :=
  List.flatten
    [[.subscribe 1, .push, .subscribe 2, .push], sendingTwo [97],
      [.recv 0, .send [98], .offer 0, .recv 1, .offer 1, .sendReturn, .recv 0, .recv 1, .drop 0,
        .close, .closeLock, .clear 0, .clear 1, .closeReturn]]

/-- The slow stream is cut at the chunk that found its queue of one full, and the other one gets
everything whether or not the first is slow. -/
theorem fanout_lossless_lagging :
    ∃ (f g : Fanout) (r₀ r₁ r₀' : Subscription),
      Reached f ∧ f.streams[0]? = some r₀ ∧ f.streams[1]? = some r₁ ∧
      r₀.yielded = [[97]] ∧ r₀.stream.lagged = true ∧ r₀.refused = some ⟨1, [[97]]⟩ ∧
      Lossless f r₀ ∧
      r₁.yielded = [[97], [98]] ∧ r₁.stream.lagged = false ∧ r₁.ended = true ∧ Lossless f r₁ ∧
      Reached g ∧ g.streams[0]? = some r₀' ∧ r₀'.yielded = [[97], [98]] ∧
      r₀'.stream.lagged = false ∧ f.streams[1]? = g.streams[1]? := by
  have hlagging : (run Fanout.step .new laggingRun).any (fun (f : Fanout) =>
      f.streams[0]?.any (fun (r : Subscription) => decide (r.yielded = [[97]] ∧
        r.stream.lagged = true ∧ r.refused = some ⟨1, [[97]]⟩)) &&
      f.streams[1]?.any (fun (r : Subscription) => decide (r.yielded = [[97], [98]] ∧
        r.stream.lagged = false ∧ r.ended = true))) = true := by
    decide +kernel
  have hprompt : (run Fanout.step .new promptRun).any (fun (g : Fanout) =>
      g.streams[0]?.any (fun (r : Subscription) =>
        decide (r.yielded = [[97], [98]] ∧ r.stream.lagged = false))) = true := by
    decide +kernel
  obtain ⟨f, hf, hp⟩ := (Option.any_eq_true _ _).mp hlagging
  obtain ⟨g, hg, hq⟩ := (Option.any_eq_true _ _).mp hprompt
  rw [Bool.and_eq_true] at hp
  obtain ⟨r₀, hr₀, h₀⟩ := (Option.any_eq_true _ _).mp hp.1
  obtain ⟨r₁, hr₁, h₁⟩ := (Option.any_eq_true _ _).mp hp.2
  obtain ⟨r₀', hr₀', h₀'⟩ := (Option.any_eq_true _ _).mp hq
  obtain ⟨hyielded₀, hlagged₀, hrefused₀⟩ := of_decide_eq_true h₀
  obtain ⟨hyielded₁, hlagged₁, hended₁⟩ := of_decide_eq_true h₁
  obtain ⟨hyielded₀', hlagged₀'⟩ := of_decide_eq_true h₀'
  have hreached : Reached f := Reachable.refl.of_run hf
  have hcalls : laggingRun.filter (Call.concerns 1) = promptRun.filter (Call.concerns 1) := by
    decide
  exact ⟨f, g, r₀, r₁, r₀', hreached, hr₀, hr₁, hyielded₀, hlagged₀, hrefused₀,
    fanout_lossless.1 f hreached 0 r₀ hr₀, hyielded₁, hlagged₁, hended₁,
    fanout_lossless.1 f hreached 1 r₁ hr₁, Reachable.refl.of_run hg, hr₀', hyielded₀', hlagged₀',
    fanout_lossless.2 1 laggingRun promptRun f g hf hg hcalls⟩

end SsmBridge.FanoutCalls
