import SsmBridge.Construction.Inbound
import SsmBridge.Framework.SignedCounter
import Mathlib.Order.Bounds.Basic

/-!
# The inbound stream is delivered in order and exactly once

Messages are fed to `routeStreamData` one after another, in any order and with any gaps and
duplicates.  `Settled` is the invariant that holds between two messages: the delivered numbers are
exactly those from the starting number up to `expected`, the reorder buffer holds only received
messages strictly ahead of `expected`, within its capacity, and everything that was delivered was
received.

The drain loop keeps a slightly different invariant, because the message in hand is the expected
one and is neither buffered nor delivered: `deliverAndDrain_settled` is its induction, one round
per buffered message.  `routeStreamData_settled` is then one case per branch of the contract, and
`inboundRun_settled` the induction over the run.  None of them assumes that deliveries succeed: a
run that ends in an error says nothing, and `inboundRun_ok` is the separate fact that a reader whose
deliveries succeed never ends in one.

`recording` wraps arbitrary reader effects with the two logs the results are about: the
acknowledgements attempted and the messages delivered.
-/

namespace SsmBridge

open SignedCounter

variable {σ : Type}

/-! ## Recording a run -/

/-- The observable half of a reader: what it tried to acknowledge and what it delivered. -/
structure InboundLog where
  acked : List ClientMessage
  delivered : List ClientMessage

/-- Reader effects that also record each attempted acknowledgement and each delivery that
succeeds. -/
def recording (io : ReaderEffects σ) : ReaderEffects (σ × InboundLog) where
  acknowledge w m sequential :=
    (io.acknowledge w.1 m sequential, { w.2 with acked := w.2.acked ++ [m] })
  deliver w m :=
    match io.deliver w.1 m with
    | (.ok (), w') => (.ok (), w', { w.2 with delivered := w.2.delivered ++ [m] })
    | (.error e, w') => (.error e, w', w.2)

/-- The numbers a list of messages carries. -/
def numbers (ms : List ClientMessage) : List ℤ := ms.map (fun m => m.sequenceNumber.toInt)

/-- A delivery that succeeds is recorded, and touches neither the acknowledgements nor the
order of what came before it. -/
lemma recording_deliver_ok {io : ReaderEffects σ} {w w' : σ × InboundLog} {m : ClientMessage}
    (h : (recording io).deliver w m = (.ok (), w')) :
    w'.2 = { w.2 with delivered := w.2.delivered ++ [m] } := by
  simp only [recording] at h
  split at h
  · cases h
    rfl
  · cases h

/-- A reader whose deliveries succeed still succeeds when it is recorded. -/
lemma recording_deliver_fst {io : ReaderEffects σ} (hok : ∀ w m, (io.deliver w m).1 = .ok ())
    (w : σ × InboundLog) (m : ClientMessage) : ((recording io).deliver w m).1 = .ok () := by
  have h := hok w.1 m
  simp only [recording]
  split
  · rfl
  · rename_i e w' hd
    rw [hd] at h
    cases h

/-- One reader task from a fresh reorder buffer: it starts at `e₀` and is fed `msgs`. -/
def inboundRun (io : ReaderEffects σ) (capacity : ℕ) (e₀ : Int64) (w : σ)
    (msgs : List ClientMessage) : Except Error Unit × Inbound × σ × InboundLog :=
  routeAll (recording io) ⟨e₀, IncomingBuffer.new capacity⟩ (w, ⟨[], []⟩) msgs

/-- A run splits where its input does, unless its first half already failed. -/
lemma routeAll_append (io : ReaderEffects σ) (s : Inbound) (w : σ) (xs ys : List ClientMessage) :
    routeAll io s w (xs ++ ys) =
      match routeAll io s w xs with
      | (.error e, s, w) => (.error e, s, w)
      | (.ok (), s, w) => routeAll io s w ys := by
  induction xs generalizing s w with
  | nil => rfl
  | cons m xs ih =>
    simp only [List.cons_append, routeAll]
    rcases routeStreamData io s w m with ⟨_ | _, s', w'⟩
    · rfl
    · exact ih s' w'

/-! ## The invariant between two messages -/

/-- The state of the inbound stream after the messages `received`, started at `e₀`. -/
structure Settled (e₀ : Int64) (received : List ClientMessage) (s : Inbound) (log : InboundLog) :
    Prop where
  /-- The counter has passed as many numbers as there are deliveries. -/
  expected_eq : s.expected.toInt = e₀.toInt + log.delivered.length
  /-- The delivered numbers are the ones the counter has passed, in order and each once. -/
  delivered_numbers : numbers log.delivered = countFrom e₀.toInt log.delivered.length
  /-- Nothing is made up. -/
  delivered_received : ∀ m ∈ log.delivered, m ∈ received
  /-- The buffer holds received messages under their own numbers, all ahead of the counter. -/
  buffered : ∀ n m, s.incoming.messages.lookup n = some m →
    m.sequenceNumber = n ∧ m ∈ received ∧ s.expected.toInt < n.toInt
  /-- The buffer respects its bound. -/
  bounded : s.incoming.len ≤ s.incoming.capacity
  /-- Every message is delivered or buffered at most once. -/
  counted : log.delivered.length + s.incoming.len ≤ received.length

/-- The counter cannot wrap: either no received number is the last one, or there are too few
messages to get there. -/
def NoWrap (e₀ : Int64) (received : List ClientMessage) : Prop :=
  (∀ m ∈ received, m.sequenceNumber.toInt < 2 ^ 63 - 1) ∨
    e₀.toInt + received.length ≤ 2 ^ 63 - 1

lemma NoWrap.of_append {e₀ : Int64} {xs ys : List ClientMessage} (h : NoWrap e₀ (xs ++ ys)) :
    NoWrap e₀ xs := by
  rcases h with h | h
  · exact .inl fun m hm => h m (List.mem_append_left _ hm)
  · refine .inr ?_
    rw [List.length_append] at h
    push_cast at h
    omega

namespace Settled

variable {e₀ : Int64} {received : List ClientMessage} {s : Inbound} {log : InboundLog}

/-- A fresh reader with an empty buffer is settled. -/
lemma initial (e₀ : Int64) (capacity : ℕ) :
    Settled e₀ [] ⟨e₀, IncomingBuffer.new capacity⟩ ⟨[], []⟩ where
  expected_eq := by simp
  delivered_numbers := rfl
  delivered_received := by simp
  buffered := by simp [IncomingBuffer.new]
  bounded := by simp [IncomingBuffer.new, IncomingBuffer.len]
  counted := by simp [IncomingBuffer.new, IncomingBuffer.len]

/-- Every key of the buffer is ahead of the counter. -/
lemma key_gt (h : Settled e₀ received s log) {n : Int64} (hn : n ∈ s.incoming.messages) :
    s.expected.toInt < n.toInt := by
  obtain ⟨m, hm⟩ := Option.isSome_iff_exists.mp (AList.lookup_isSome.mpr hn)
  exact (h.buffered n m hm).2.2

/-- A number was delivered exactly when the counter has passed it. -/
lemma mem_delivered_iff (h : Settled e₀ received s log) (n : ℤ) :
    n ∈ numbers log.delivered ↔ e₀.toInt ≤ n ∧ n < s.expected.toInt := by
  rw [h.delivered_numbers, mem_countFrom, h.expected_eq]

/-- Receiving a message without storing or delivering it keeps the invariant. -/
lemma receive (h : Settled e₀ received s log) (m : ClientMessage) :
    Settled e₀ (received ++ [m]) s log where
  expected_eq := h.expected_eq
  delivered_numbers := h.delivered_numbers
  delivered_received m' hm' := List.mem_append_left _ (h.delivered_received m' hm')
  buffered n m' hm' := by
    obtain ⟨hnum, hrec, hlt⟩ := h.buffered n m' hm'
    exact ⟨hnum, List.mem_append_left _ hrec, hlt⟩
  bounded := h.bounded
  counted := by
    have hcount := h.counted
    rw [List.length_append]
    omega

/-- The log of acknowledgements plays no part in the invariant. -/
lemma with_acked (h : Settled e₀ received s log) (acked : List ClientMessage) :
    Settled e₀ received s { log with acked } :=
  ⟨h.expected_eq, h.delivered_numbers, h.delivered_received, h.buffered, h.bounded, h.counted⟩

/-- The counter has room for one more delivery while a due message is in hand. -/
lemma expected_lt (h : Settled e₀ received s log) (hwrap : NoWrap e₀ received)
    {m : ClientMessage} (hm : m ∈ received) (hnum : m.sequenceNumber = s.expected)
    (hhand : log.delivered.length + s.incoming.len + 1 ≤ received.length) :
    s.expected.toInt < 2 ^ 63 - 1 := by
  rcases hwrap with hall | hfew
  · exact hnum ▸ hall m hm
  · have hexp := h.expected_eq
    omega

end Settled

/-! ## One round of the drain loop -/

/-- Delivering the expected message and advancing keeps the invariant; a message the loop takes
next is again the expected one, was received, and has left the buffer. -/
lemma advance_settled {e₀ : Int64} {received : List ClientMessage} {s s' : Inbound}
    {log : InboundLog} {m : ClientMessage} {next : Option ClientMessage}
    (h : Settled e₀ received s log) (hwrap : NoWrap e₀ received) (hm : m ∈ received)
    (hnum : m.sequenceNumber = s.expected)
    (hhand : log.delivered.length + s.incoming.len + 1 ≤ received.length)
    (hadv : s.advance = (next, s')) :
    Settled e₀ received s' { log with delivered := log.delivered ++ [m] } ∧
      s'.incoming.capacity = s.incoming.capacity ∧
      (∀ n ∈ s.incoming.messages, n ∈ s'.incoming.messages ∨ n = s'.expected ∧ next.isSome) ∧
      (∀ m', next = some m' → m' ∈ received ∧ m'.sequenceNumber = s'.expected ∧
        log.delivered.length + 1 + s'.incoming.len + 1 ≤ received.length) := by
  have hsucc : (s.expected + 1).toInt = s.expected.toInt + 1 :=
    toInt_add_one (h.expected_lt hwrap hm hnum hhand)
  simp only [Inbound.advance, IncomingBuffer.take, Prod.mk.injEq] at hadv
  obtain ⟨hnext, rfl⟩ := hadv
  have hle : (s.incoming.messages.erase (s.expected + 1)).keys.length ≤
      s.incoming.messages.keys.length := by
    rw [AList.keys_erase]
    exact List.length_erase_le
  refine ⟨⟨?_, ?_, ?_, ?_, ?_, ?_⟩, rfl, ?_, ?_⟩
  · rw [hsucc, h.expected_eq, List.length_append]
    push_cast
    simp [add_assoc]
  · have hnumbers := h.delivered_numbers
    have hexp := h.expected_eq
    simp only [numbers, List.length_append, List.length_singleton] at hnumbers ⊢
    rw [List.map_append, hnumbers, countFrom_succ, ← hexp]
    simp [hnum]
  · intro m' hm'
    rcases List.mem_append.mp hm' with hold | hnew
    · exact h.delivered_received m' hold
    · rw [List.mem_singleton.mp hnew]
      exact hm
  · intro n m' hlook
    have hne : n ≠ s.expected + 1 := by
      rintro rfl
      rw [AList.lookup_erase] at hlook
      exact absurd hlook (by simp)
    rw [AList.lookup_erase_ne hne] at hlook
    obtain ⟨hn, hrec, hlt⟩ := h.buffered n m' hlook
    have hneInt : n.toInt ≠ s.expected.toInt + 1 := by
      rw [← hsucc]
      exact fun heq => hne (Int64.toInt_inj.mp heq)
    exact ⟨hn, hrec, by rw [hsucc]; omega⟩
  · have hbound := h.bounded
    simp only [IncomingBuffer.len] at hbound ⊢
    omega
  · simp only [IncomingBuffer.len, List.length_append, List.length_singleton] at hhand ⊢
    omega
  · intro n hn
    by_cases heq : n = s.expected + 1
    · refine .inr ⟨heq, ?_⟩
      rw [← hnext, ← heq]
      exact AList.lookup_isSome.mpr hn
    · exact .inl (AList.mem_erase.mpr ⟨heq, hn⟩)
  · rintro m' rfl
    obtain ⟨hn, hrec, -⟩ := h.buffered _ m' hnext
    have hmem : s.expected + 1 ∈ s.incoming.messages.keys :=
      AList.mem_keys.mp (AList.lookup_isSome.mp (by rw [hnext]; rfl))
    have hpos := List.length_pos_of_mem hmem
    refine ⟨hrec, hn, ?_⟩
    simp only [IncomingBuffer.len, AList.keys_erase, List.length_erase_of_mem hmem] at hhand ⊢
    omega

/-- What the loop leaves behind when it was entered with the due message `m` in hand. -/
structure Drained (e₀ : Int64) (received : List ClientMessage) (m : ClientMessage) (s s' : Inbound)
    (log log' : InboundLog) : Prop where
  settled : Settled e₀ received s' log'
  capacity_eq : s'.incoming.capacity = s.incoming.capacity
  acked_eq : log'.acked = log.acked
  /-- The message in hand is delivered first. -/
  delivered_cons : ∃ rest, log'.delivered = log.delivered ++ m :: rest
  /-- A buffered number was either passed or is still buffered. -/
  keys_kept : ∀ n ∈ s.incoming.messages, n ∈ s'.incoming.messages ∨ n.toInt < s'.expected.toInt

/-- The counter passes the message in hand. -/
lemma Drained.expected_gt {e₀ : Int64} {received : List ClientMessage} {m : ClientMessage}
    {s s' : Inbound} {log log' : InboundLog} (hbefore : Settled e₀ received s log)
    (h : Drained e₀ received m s s' log log') : s.expected.toInt < s'.expected.toInt := by
  obtain ⟨rest, hrest⟩ := h.delivered_cons
  rw [hbefore.expected_eq, h.settled.expected_eq, hrest, List.length_append, List.length_cons]
  omega

/-- **The drain loop.** Started with the expected message in hand and successful deliveries, it
leaves a settled state behind. -/
lemma deliverAndDrain_settled {io : ReaderEffects σ} {e₀ : Int64} {received : List ClientMessage}
    (hwrap : NoWrap e₀ received) {s s' : Inbound} {w w' : σ × InboundLog} {m : ClientMessage}
    (h : Settled e₀ received s w.2) (hm : m ∈ received) (hnum : m.sequenceNumber = s.expected)
    (hhand : w.2.delivered.length + s.incoming.len + 1 ≤ received.length)
    (hrun : deliverAndDrain (recording io) s w m = (.ok (), s', w')) :
    Drained e₀ received m s s' w.2 w'.2 := by
  induction hlen : s.incoming.len using Nat.strong_induction_on generalizing s w m with
  | _ k ih =>
    rw [deliverAndDrain] at hrun
    split at hrun
    · cases hrun
    · rename_i w₁ hdeliver
      have hlog := recording_deliver_ok hdeliver
      split at hrun
      · -- Nothing was waiting behind the message in hand.
        rename_i s₁ hadv
        cases hrun
        obtain ⟨hset, hcap, hkeys, -⟩ := advance_settled h hwrap hm hnum hhand hadv
        refine ⟨hlog ▸ hset, hcap, by rw [hlog], ⟨[], by rw [hlog]⟩, fun n hn => ?_⟩
        rcases hkeys n hn with hin | ⟨-, hsome⟩
        · exact .inl hin
        · cases hsome
      · -- The gap was holding `next` back: it is the message in hand of the next round.
        rename_i next s₁ hadv
        obtain ⟨hset, hcap, hkeys, hnext⟩ := advance_settled h hwrap hm hnum hhand hadv
        obtain ⟨hrec, hnumNext, hhandNext⟩ := hnext next rfl
        rw [← hlog] at hset
        have hround := ih s₁.incoming.len (hlen ▸ Inbound.len_advance_lt hadv) hset hrec hnumNext
          (by rw [hlog, List.length_append]; exact hhandNext) hrun rfl
        obtain ⟨rest, hrest⟩ := hround.delivered_cons
        have hpassed := hround.expected_gt hset
        refine ⟨hround.settled, hround.capacity_eq.trans hcap, by rw [hround.acked_eq, hlog],
          ⟨next :: rest, by rw [hrest, hlog]; simp⟩, fun n hn => ?_⟩
        rcases hkeys n hn with hin | ⟨rfl, -⟩
        · exact hround.keys_kept n hin
        · exact .inr hpassed

/-! ## One message -/

/-- Which branch of the contract a message took, with what that branch checked. -/
lemma arrive_cases (s : Inbound) (m : ClientMessage) :
    (m.sequenceNumber < s.expected ∧ s.arrive m = (.stale, s)) ∨
    (s.expected < m.sequenceNumber ∧
      ¬(s.incoming.capacity ≤ s.incoming.len ∧ m.sequenceNumber ∉ s.incoming.messages) ∧
      s.arrive m = (.buffered, { s with incoming := { s.incoming with
        messages := s.incoming.messages.insert m.sequenceNumber m } })) ∨
    (s.expected < m.sequenceNumber ∧ s.incoming.capacity ≤ s.incoming.len ∧
      m.sequenceNumber ∉ s.incoming.messages ∧ s.arrive m = (.refused, s)) ∨
    (m.sequenceNumber = s.expected ∧ s.arrive m = (.inOrder, s)) := by
  by_cases hlt : m.sequenceNumber < s.expected
  · exact .inl ⟨hlt, by simp [Inbound.arrive, hlt]⟩
  by_cases hgt : s.expected < m.sequenceNumber
  · by_cases hfull : s.incoming.capacity ≤ s.incoming.len ∧
        m.sequenceNumber ∉ s.incoming.messages
    · refine .inr (.inr (.inl ⟨hgt, hfull.1, hfull.2, ?_⟩))
      simp only [Inbound.arrive, if_neg hlt, if_pos hgt, IncomingBuffer.insert, if_pos hfull]
    · refine .inr (.inl ⟨hgt, hfull, ?_⟩)
      simp only [Inbound.arrive, if_neg hlt, if_pos hgt, IncomingBuffer.insert, if_neg hfull]
  · have heq : m.sequenceNumber = s.expected := by
      rw [Int64.lt_iff_toInt_lt] at hlt hgt
      exact Int64.toInt_inj.mp (by omega)
    exact .inr (.inr (.inr ⟨heq, by simp [Inbound.arrive, hlt, hgt]⟩))

/-- Storing a message that is ahead of the counter keeps the invariant. -/
lemma Settled.store {e₀ : Int64} {received : List ClientMessage} {s : Inbound} {log : InboundLog}
    {m : ClientMessage} (h : Settled e₀ received s log) (hgt : s.expected < m.sequenceNumber)
    (hroom : ¬(s.incoming.capacity ≤ s.incoming.len ∧
      m.sequenceNumber ∉ s.incoming.messages)) :
    Settled e₀ (received ++ [m])
      { s with incoming := { s.incoming with
        messages := s.incoming.messages.insert m.sequenceNumber m } } log := by
  have hbound := h.bounded
  have hcount := h.counted
  have hlen : (s.incoming.messages.insert m.sequenceNumber m).keys.length =
      if m.sequenceNumber ∈ s.incoming.messages then s.incoming.len else s.incoming.len + 1 := by
    rw [AList.keys_insert, List.length_cons, IncomingBuffer.len]
    split
    · next hin =>
      have hpos := List.length_pos_of_mem (AList.mem_keys.mp hin)
      rw [List.length_erase_of_mem (AList.mem_keys.mp hin)]
      omega
    · next hout => rw [List.erase_of_not_mem (fun hin => hout (AList.mem_keys.mpr hin))]
  refine ⟨h.expected_eq, h.delivered_numbers, (h.receive m).delivered_received, ?_, ?_, ?_⟩
  · intro n m' hlook
    by_cases heq : n = m.sequenceNumber
    · subst heq
      rw [AList.lookup_insert] at hlook
      cases hlook
      exact ⟨rfl, by simp, Int64.lt_iff_toInt_lt.mp hgt⟩
    · rw [AList.lookup_insert_ne heq] at hlook
      exact (h.receive m).buffered n m' hlook
  · show List.length _ ≤ s.incoming.capacity
    rw [hlen]
    split
    · exact hbound
    · next hout =>
      have : ¬ s.incoming.capacity ≤ s.incoming.len := fun hfull => hroom ⟨hfull, hout⟩
      omega
  · show log.delivered.length + List.length _ ≤ _
    rw [hlen, List.length_append, List.length_singleton]
    split <;> omega

/-- What `routeStreamData` did with one message, one constructor per branch. -/
inductive Routed (e₀ : Int64) (received : List ClientMessage) (m : ClientMessage) (s : Inbound)
    (log : InboundLog) : Inbound → InboundLog → Prop
  | stale : m.sequenceNumber < s.expected → Routed e₀ received m s log s log
  | buffered : s.expected < m.sequenceNumber →
      ¬(s.incoming.capacity ≤ s.incoming.len ∧ m.sequenceNumber ∉ s.incoming.messages) →
      Routed e₀ received m s log
        { s with incoming := { s.incoming with
          messages := s.incoming.messages.insert m.sequenceNumber m } }
        { log with acked := log.acked ++ [m] }
  | refused : s.expected < m.sequenceNumber → s.incoming.capacity ≤ s.incoming.len →
      m.sequenceNumber ∉ s.incoming.messages → Routed e₀ received m s log s log
  | inOrder {s' : Inbound} {log' : InboundLog} : m.sequenceNumber = s.expected →
      Drained e₀ (received ++ [m]) m s s' { log with acked := log.acked ++ [m] } log' →
      Routed e₀ received m s log s' log'

/-- A message that is routed without an error takes one of the four branches. -/
lemma routeStreamData_routed {io : ReaderEffects σ} {e₀ : Int64} {received : List ClientMessage}
    {m : ClientMessage} (hwrap : NoWrap e₀ (received ++ [m])) {s s' : Inbound}
    {w w' : σ × InboundLog} (h : Settled e₀ received s w.2)
    (hrun : routeStreamData (recording io) s w m = (.ok (), s', w')) :
    Routed e₀ received m s w.2 s' w'.2 := by
  rw [routeStreamData] at hrun
  rcases arrive_cases s m with ⟨hlt, harr⟩ | ⟨hgt, hroom, harr⟩ | ⟨hgt, hfull, hnew, harr⟩ |
    ⟨heq, harr⟩
  all_goals
    rw [harr] at hrun
    dsimp only at hrun
  · cases hrun
    exact .stale hlt
  · cases hrun
    exact .buffered hgt hroom
  · cases hrun
    exact .refused hgt hfull hnew
  · refine .inOrder heq ?_
    have hset := (h.receive m).with_acked (w.2.acked ++ [m])
    have hcount := h.counted
    exact deliverAndDrain_settled hwrap hset (by simp) heq
      (by rw [List.length_append, List.length_singleton]; exact Nat.succ_le_succ hcount) hrun

namespace Routed

variable {e₀ : Int64} {received : List ClientMessage} {m : ClientMessage} {s s' : Inbound}
  {log log' : InboundLog}

/-- Routing a message keeps the invariant. -/
lemma settled (h : Settled e₀ received s log) (hr : Routed e₀ received m s log s' log') :
    Settled e₀ (received ++ [m]) s' log' := by
  cases hr with
  | stale => exact h.receive m
  | buffered hgt hroom => exact (h.store hgt hroom).with_acked _
  | refused => exact h.receive m
  | inOrder _ hdrained => exact hdrained.settled

lemma capacity_eq (hr : Routed e₀ received m s log s' log') :
    s'.incoming.capacity = s.incoming.capacity := by
  cases hr with
  | inOrder _ hdrained => exact hdrained.capacity_eq
  | _ => rfl

/-- The counter never moves backwards. -/
lemma expected_mono (h : Settled e₀ received s log) (hr : Routed e₀ received m s log s' log') :
    s.expected.toInt ≤ s'.expected.toInt := by
  cases hr with
  | inOrder _ hdrained =>
    exact (hdrained.expected_gt ((h.receive m).with_acked _)).le
  | _ => exact le_rfl

/-- A number the client holds stays held: it is passed by the counter or still buffered. -/
lemma keeps (h : Settled e₀ received s log) (hr : Routed e₀ received m s log s' log')
    {n : Int64} (hn : n.toInt < s.expected.toInt ∨ n ∈ s.incoming.messages) :
    n.toInt < s'.expected.toInt ∨ n ∈ s'.incoming.messages := by
  cases hr with
  | stale => exact hn
  | buffered => exact hn.imp_right fun hin => AList.mem_insert _ |>.mpr (.inr hin)
  | refused => exact hn
  | inOrder _ hdrained =>
    rcases hn with hlt | hin
    · exact .inl (hlt.trans (hdrained.expected_gt ((h.receive m).with_acked _)))
    · exact (hdrained.keys_kept n hin).symm

/-- A message that is neither refused nor from before the start is held once it was routed. -/
lemma holds (h : Settled e₀ received s log) (hr : Routed e₀ received m s log s' log')
    (hrefused : (s.arrive m).1 ≠ .refused) :
    m.sequenceNumber.toInt < s'.expected.toInt ∨ m.sequenceNumber ∈ s'.incoming.messages := by
  cases hr with
  | stale hlt => exact .inl (Int64.lt_iff_toInt_lt.mp hlt)
  | buffered => exact .inr (AList.mem_insert _ |>.mpr (.inl rfl))
  | refused hgt hfull hnew =>
    refine absurd ?_ hrefused
    have hlt : ¬ m.sequenceNumber < s.expected := by
      rw [Int64.lt_iff_toInt_lt] at hgt ⊢
      omega
    simp only [Inbound.arrive, if_neg hlt, if_pos hgt, IncomingBuffer.insert,
      if_pos (And.intro hfull hnew)]
  | inOrder heq hdrained =>
    rw [heq]
    exact .inl (hdrained.expected_gt ((h.receive m).with_acked _))

end Routed

/-! ## A whole run -/

/-- Feeding one more message to a run that is still going. -/
lemma inboundRun_concat {io : ReaderEffects σ} {capacity : ℕ} {e₀ : Int64} {w : σ}
    {msgs : List ClientMessage} {m : ClientMessage} {s s' : Inbound} {v v' : σ × InboundLog}
    (hrun : inboundRun io capacity e₀ w msgs = (.ok (), s, v))
    (hstep : routeStreamData (recording io) s v m = (.ok (), s', v')) :
    inboundRun io capacity e₀ w (msgs ++ [m]) = (.ok (), s', v') := by
  rw [inboundRun] at hrun ⊢
  rw [routeAll_append, hrun]
  simp only [routeAll, hstep]

/-- A run of `msgs ++ [m]` that did not fail did not fail on `msgs` either. -/
lemma inboundRun_split {io : ReaderEffects σ} {capacity : ℕ} {e₀ : Int64} {w : σ}
    {msgs : List ClientMessage} {m : ClientMessage} {s' : Inbound} {v' : σ × InboundLog}
    (hrun : inboundRun io capacity e₀ w (msgs ++ [m]) = (.ok (), s', v')) :
    ∃ s v, inboundRun io capacity e₀ w msgs = (.ok (), s, v) ∧
      routeStreamData (recording io) s v m = (.ok (), s', v') := by
  rw [inboundRun, routeAll_append] at hrun
  rcases hpre : routeAll (recording io) ⟨e₀, IncomingBuffer.new capacity⟩ (w, ⟨[], []⟩) msgs with
    ⟨_ | _, s, v⟩
  · rw [hpre] at hrun
    cases hrun
  · rw [hpre] at hrun
    refine ⟨s, v, hpre, ?_⟩
    simp only [routeAll] at hrun
    rcases hstep : routeStreamData (recording io) s v m with ⟨_ | _, s₁, v₁⟩
    · rw [hstep] at hrun
      cases hrun
    · rw [hstep] at hrun
      exact hrun

/-- **The run invariant.** Every run that did not fail leaves a settled state, with the capacity it
started with. -/
theorem inboundRun_settled {io : ReaderEffects σ} {capacity : ℕ} {e₀ : Int64} {w : σ}
    {msgs : List ClientMessage} (hwrap : NoWrap e₀ msgs) {s : Inbound} {v : σ × InboundLog}
    (hrun : inboundRun io capacity e₀ w msgs = (.ok (), s, v)) :
    Settled e₀ msgs s v.2 ∧ s.incoming.capacity = capacity := by
  induction msgs using List.reverseRecOn generalizing s v with
  | nil =>
    cases hrun
    exact ⟨Settled.initial e₀ capacity, rfl⟩
  | append_singleton msgs m ih =>
    obtain ⟨s₀, v₀, hpre, hstep⟩ := inboundRun_split hrun
    obtain ⟨hset, hcap⟩ := ih hwrap.of_append hpre
    have hrouted := routeStreamData_routed hwrap hset hstep
    exact ⟨hrouted.settled hset, hrouted.capacity_eq.trans hcap⟩

/-- If no message was refused, every number from the start on that was received is held. -/
lemma inboundRun_holds {io : ReaderEffects σ} {capacity : ℕ} {e₀ : Int64} {w : σ}
    {msgs : List ClientMessage} (hwrap : NoWrap e₀ msgs)
    (haccepted : ∀ pre m post, msgs = pre ++ m :: post →
      ((inboundRun io capacity e₀ w pre).2.1.arrive m).1 ≠ .refused)
    {s : Inbound} {v : σ × InboundLog}
    (hrun : inboundRun io capacity e₀ w msgs = (.ok (), s, v)) :
    ∀ m ∈ msgs, m.sequenceNumber.toInt < s.expected.toInt ∨
      m.sequenceNumber ∈ s.incoming.messages := by
  induction msgs using List.reverseRecOn generalizing s v with
  | nil => simp
  | append_singleton msgs m ih =>
    obtain ⟨s₀, v₀, hpre, hstep⟩ := inboundRun_split hrun
    obtain ⟨hset, -⟩ := inboundRun_settled hwrap.of_append hpre
    have hrouted := routeStreamData_routed hwrap hset hstep
    have hbefore := ih hwrap.of_append
      (fun pre m' post hsplit => haccepted pre m' (post ++ [m]) (by simp [hsplit])) hpre
    have hnow := haccepted msgs m [] rfl
    rw [hpre] at hnow
    intro m' hm'
    rcases List.mem_append.mp hm' with hold | hnew
    · exact hrouted.keeps hset (hbefore m' hold)
    · rw [List.mem_singleton.mp hnew]
      exact hrouted.holds hset hnow

/-- A reader whose deliveries succeed runs the drain loop to its end. -/
lemma deliverAndDrain_ok {io : ReaderEffects σ} (hok : ∀ w m, (io.deliver w m).1 = .ok ())
    (s : Inbound) (w : σ) (m : ClientMessage) : (deliverAndDrain io s w m).1 = .ok () := by
  fun_induction deliverAndDrain io s w m with
  | case1 s w m e w' hdeliver =>
    have := hok w m
    rw [hdeliver] at this
    cases this
  | case2 => rfl
  | case3 s w m w' _ next s' _ ih => exact ih

/-- A reader whose deliveries succeed never ends a run with an error. -/
theorem inboundRun_ok {io : ReaderEffects σ} (hok : ∀ w m, (io.deliver w m).1 = .ok ())
    (capacity : ℕ) (e₀ : Int64) (w : σ) (msgs : List ClientMessage) :
    ∃ s v, inboundRun io capacity e₀ w msgs = (.ok (), s, v) := by
  induction msgs using List.reverseRecOn with
  | nil => exact ⟨_, _, rfl⟩
  | append_singleton msgs m ih =>
    obtain ⟨s, v, hpre⟩ := ih
    have hstep : (routeStreamData (recording io) s v m).1 = .ok () := by
      rw [routeStreamData]
      rcases s.arrive m with ⟨_ | _ | _ | _, s₁⟩
      · rfl
      · rfl
      · rfl
      · exact deliverAndDrain_ok (recording_deliver_fst hok) s₁ _ m
    rcases hroute : routeStreamData (recording io) s v m with ⟨r, s', v'⟩
    rw [hroute] at hstep
    cases hstep
    exact ⟨s', v', inboundRun_concat hpre hroute⟩

/-! ## The contract -/

/-- The message was delivered by the step that received it. -/
def DeliveredOnArrival (m : ClientMessage) (before after : InboundLog) : Prop :=
  ∃ rest, after.delivered = before.delivered ++ m :: rest

/-- The message is in the reorder buffer. -/
def StoredIn (m : ClientMessage) (s : Inbound) : Prop :=
  s.incoming.messages.lookup m.sequenceNumber = some m

/-- **Acknowledging exactly what is taken.** A message is acknowledged once when it is delivered on
arrival or stored, and not at all otherwise. -/
lemma Routed.acked_iff {e₀ : Int64} {received : List ClientMessage} {m : ClientMessage}
    {s s' : Inbound} {log log' : InboundLog} (h : Settled e₀ received s log)
    (hr : Routed e₀ received m s log s' log') :
    (log'.acked = log.acked ++ [m] ∧ (DeliveredOnArrival m log log' ∨ StoredIn m s') ∨
        log'.acked = log.acked ∧ ¬DeliveredOnArrival m log log' ∧ ¬StoredIn m s') ∧
      (m.sequenceNumber < s.expected ∨ (s.arrive m).1 = .refused → log'.acked = log.acked) := by
  have hundelivered : ¬DeliveredOnArrival m log log := by
    rintro ⟨rest, hrest⟩
    simpa using congrArg List.length hrest
  have hnever : s.expected < m.sequenceNumber ∨ m.sequenceNumber = s.expected →
      ¬ m.sequenceNumber < s.expected := by
    rintro (hgt | heq) hlt
    · rw [Int64.lt_iff_toInt_lt] at hgt hlt
      omega
    · rw [heq, Int64.lt_iff_toInt_lt] at hlt
      omega
  cases hr with
  | stale hlt =>
    refine ⟨.inr ⟨rfl, hundelivered, fun hstored => ?_⟩, fun _ => rfl⟩
    have hahead := (h.buffered _ _ hstored).2.2
    rw [Int64.lt_iff_toInt_lt] at hlt
    omega
  | buffered hgt hroom =>
    refine ⟨.inl ⟨rfl, .inr (AList.lookup_insert _)⟩, ?_⟩
    rintro (hlt | hrefused)
    · exact absurd hlt (hnever (.inl hgt))
    · simp only [Inbound.arrive, if_neg (hnever (.inl hgt)), if_pos hgt, IncomingBuffer.insert,
        if_neg hroom] at hrefused
      cases hrefused
  | refused hgt hfull hnew =>
    refine ⟨.inr ⟨rfl, hundelivered, fun hstored => hnew ?_⟩, fun _ => rfl⟩
    exact AList.lookup_isSome.mp (by rw [hstored]; rfl)
  | inOrder heq hdrained =>
    refine ⟨.inl ⟨hdrained.acked_eq, .inl hdrained.delivered_cons⟩, ?_⟩
    rintro (hlt | hrefused)
    · exact absurd hlt (hnever (.inr heq))
    · have hgt : ¬ s.expected < m.sequenceNumber := by
        rw [heq, Int64.lt_iff_toInt_lt]
        omega
      simp only [Inbound.arrive, if_neg (hnever (.inr heq)), if_neg hgt] at hrefused
      cases hrefused

/-- **The in-order delivery contract.** For every capacity, every starting number and every
sequence of messages, with every delivery succeeding: the delivered numbers are `e₀, …,
expected - 1` in order and each once, all received; what is left in the buffer is ahead of
`expected` and within its capacity; an acknowledgement is attempted exactly for a message that is
delivered on arrival or stored; and while no message is refused, `expected` is the least number
that has not been received. -/
theorem inbound_in_order_exactly_once (io : ReaderEffects σ)
    (hok : ∀ w m, (io.deliver w m).1 = .ok ()) (capacity : ℕ) (e₀ : Int64) (w : σ)
    (msgs : List ClientMessage) (hmax : ∀ m ∈ msgs, m.sequenceNumber.toInt < 2 ^ 63 - 1) :
    ∃ s v, inboundRun io capacity e₀ w msgs = (.ok (), s, v) ∧
      (e₀.toInt ≤ s.expected.toInt ∧
        numbers v.2.delivered = countFrom e₀.toInt (s.expected.toInt - e₀.toInt).toNat ∧
        ∀ m ∈ v.2.delivered, m ∈ msgs) ∧
      ((∀ n ∈ s.incoming.messages.keys, s.expected.toInt < n.toInt) ∧
        s.incoming.messages.keys.length ≤ capacity) ∧
      (∀ pre m post, msgs = pre ++ m :: post →
        ∃ s₀ v₀ s₁ v₁, inboundRun io capacity e₀ w pre = (.ok (), s₀, v₀) ∧
          inboundRun io capacity e₀ w (pre ++ [m]) = (.ok (), s₁, v₁) ∧
          (v₁.2.acked = v₀.2.acked ++ [m] ∧
              (DeliveredOnArrival m v₀.2 v₁.2 ∨ StoredIn m s₁) ∨
            v₁.2.acked = v₀.2.acked ∧ ¬DeliveredOnArrival m v₀.2 v₁.2 ∧ ¬StoredIn m s₁) ∧
          (m.sequenceNumber < s₀.expected ∨ (s₀.arrive m).1 = .refused →
            v₁.2.acked = v₀.2.acked)) ∧
      ((∀ pre m post, msgs = pre ++ m :: post →
          ((inboundRun io capacity e₀ w pre).2.1.arrive m).1 ≠ .refused) →
        IsLeast { n : ℤ | e₀.toInt ≤ n ∧ n ∉ numbers msgs } s.expected.toInt) := by
  have hwrap : NoWrap e₀ msgs := .inl hmax
  obtain ⟨s, v, hrun⟩ := inboundRun_ok hok capacity e₀ w msgs
  obtain ⟨hset, hcap⟩ := inboundRun_settled hwrap hrun
  have hexp := hset.expected_eq
  refine ⟨s, v, hrun, ⟨by omega, ?_, hset.delivered_received⟩, ⟨?_, ?_⟩, ?_, ?_⟩
  · rw [hset.delivered_numbers]
    congr 1
    omega
  · exact fun n hn => hset.key_gt (AList.mem_keys.mpr hn)
  · exact hcap ▸ hset.bounded
  · rintro pre m post rfl
    have hwrapStep : NoWrap e₀ (pre ++ [m]) := by
      rw [List.append_cons] at hwrap
      exact hwrap.of_append
    obtain ⟨s₁, v₁, hafter⟩ := inboundRun_ok hok capacity e₀ w (pre ++ [m])
    obtain ⟨s₀, v₀, hbefore, hstep⟩ := inboundRun_split hafter
    obtain ⟨hset₀, -⟩ := inboundRun_settled hwrap.of_append hbefore
    exact ⟨s₀, v₀, s₁, v₁, hbefore, hafter,
      (routeStreamData_routed hwrapStep hset₀ hstep).acked_iff hset₀⟩
  · intro haccepted
    have hholds := inboundRun_holds hwrap haccepted hrun
    refine ⟨⟨by omega, fun hreceived => ?_⟩, fun n hn => ?_⟩
    · -- The expected number itself was not received: it is neither passed nor buffered.
      obtain ⟨m, hm, heq⟩ := List.mem_map.mp hreceived
      rcases hholds m hm with hlt | hin
      · omega
      · exact absurd (hset.key_gt hin) (by omega)
    · -- Every number the counter has passed was delivered, hence received.
      by_contra hlt
      have hdelivered := (hset.mem_delivered_iff n).mpr ⟨hn.1, by omega⟩
      obtain ⟨m, hm, rfl⟩ := List.mem_map.mp hdelivered
      exact hn.2 (List.mem_map.mpr ⟨m, hset.delivered_received m hm, rfl⟩)

/-- A message of the agent's output stream. -/
def outputMessage (n : Int64) (payload : Bytes) : ClientMessage :=
  ClientMessage.new (fun _ => toArray _ []) ⟨0, toArray _ []⟩ .outputStreamData n .output payload

/-- A reader that acknowledges and delivers without doing anything. -/
def quietReader : ReaderEffects Unit := ⟨fun w _ _ => w, fun w _ => (.ok (), w)⟩

/-- Message 0 comes behind two copies of message 1, in a buffer of one place. -/
def swappedMessages : List ClientMessage :=
  [outputMessage 1 [98], outputMessage 1 [98], outputMessage 0 [97]]

/-- The run on `swappedMessages`: the copies of message 1 are held, and message 0 releases one. -/
lemma swapped_run :
    inboundRun quietReader 1 0 () swappedMessages =
      (.ok (), ⟨2, IncomingBuffer.new 1⟩, ((),
        ⟨swappedMessages, [outputMessage 0 [97], outputMessage 1 [98]]⟩)) := by
  have hheld : routeAll (recording quietReader) ⟨0, IncomingBuffer.new 1⟩ ((), ⟨[], []⟩)
      [outputMessage 1 [98], outputMessage 1 [98]] =
      (.ok (), ⟨0, ⟨(∅ : AList fun _ : Int64 => ClientMessage).insert 1 (outputMessage 1 [98]),
        1⟩⟩, ((), ⟨[outputMessage 1 [98], outputMessage 1 [98]], []⟩)) := rfl
  have harrive (incoming : IncomingBuffer) (log : Unit × InboundLog) :
      routeStreamData (recording quietReader) ⟨0, incoming⟩ log (outputMessage 0 [97]) =
        deliverAndDrain (recording quietReader) ⟨0, incoming⟩
          ((), { log.2 with acked := log.2.acked ++ [outputMessage 0 [97]] })
          (outputMessage 0 [97]) := rfl
  have hfirst (log : Unit × InboundLog) :
      deliverAndDrain (recording quietReader)
        ⟨0, ⟨(∅ : AList fun _ : Int64 => ClientMessage).insert 1 (outputMessage 1 [98]), 1⟩⟩ log
          (outputMessage 0 [97]) =
        deliverAndDrain (recording quietReader) ⟨1, IncomingBuffer.new 1⟩
          ((), { log.2 with delivered := log.2.delivered ++ [outputMessage 0 [97]] })
          (outputMessage 1 [98]) := by
    rw [deliverAndDrain]
    rfl
  have hsecond (log : Unit × InboundLog) :
      deliverAndDrain (recording quietReader) ⟨1, IncomingBuffer.new 1⟩ log
          (outputMessage 1 [98]) =
        (.ok (), ⟨2, IncomingBuffer.new 1⟩,
          ((), { log.2 with delivered := log.2.delivered ++ [outputMessage 1 [98]] })) := by
    rw [deliverAndDrain]
    rfl
  rw [inboundRun, show swappedMessages =
    [outputMessage 1 [98], outputMessage 1 [98]] ++ [outputMessage 0 [97]] from rfl,
    routeAll_append, hheld]
  simp only [routeAll, harrive, hfirst, hsecond]
  rfl

/-- Both messages are delivered in order, and each of the three arrivals is acknowledged. -/
theorem inbound_in_order_exactly_once_swapped :
    (∀ m ∈ swappedMessages, m.sequenceNumber.toInt < 2 ^ 63 - 1) ∧
    ∃ s v, inboundRun quietReader 1 0 () swappedMessages = (.ok (), s, v) ∧
      numbers v.2.delivered = countFrom 0 (s.expected.toInt - 0).toNat ∧
      s.expected = 2 ∧ v.2.delivered = [outputMessage 0 [97], outputMessage 1 [98]] ∧
      v.2.acked = swappedMessages := by
  refine ⟨by decide, ?_⟩
  obtain ⟨s, v, hrun, ⟨-, hdelivered, -⟩, -⟩ :=
    inbound_in_order_exactly_once quietReader (fun _ _ => rfl) 1 0 () swappedMessages (by decide)
  rw [swapped_run] at hrun
  cases hrun
  exact ⟨_, _, swapped_run, hdelivered, rfl, rfl, rfl⟩

end SsmBridge
