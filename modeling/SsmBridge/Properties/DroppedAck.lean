import SsmBridge.Properties.InOrder

/-!
# What a dropped acknowledgement costs

`acknowledge` hands the reply to the writer queue with `try_write` and drops it when the queue is
full, on the ground that the agent retransmits what it has not seen acknowledged.  The other half
of the argument is in `route_stream_data`: the retransmitted copy has to be acknowledged when it
comes.  It is, as long as the message still waits in the reorder buffer; once the counter has
passed it, the copy takes the stale branch and is dropped in silence.

`LossyWorld` adds the writer queue to an arbitrary reader: whether it has room when the next
message arrives, and the acknowledgements it accepted.  `lossyRun` feeds messages, each with the
fullness of the queue at its arrival.  `acknowledged_again_iff` decides the second copy exactly,
and `passed_never_acknowledged` is the fate of a number the counter has passed without its
acknowledgement going out.
-/

namespace SsmBridge

open SignedCounter

variable {σ : Type}

/-! ## A reader behind a writer queue that can be full -/

/-- The rest of the client, the room in the writer queue, and the messages whose acknowledgement
the queue accepted. -/
structure LossyWorld (σ : Type) where
  inner : σ
  room : Bool
  enqueued : List ClientMessage

/-- `acknowledge` with its `try_write`: the reply is enqueued when there is room and dropped
otherwise.  Delivering is arbitrary, and does not write acknowledgements. -/
def lossyReader (deliver : σ → ClientMessage → Except Error Unit × σ) :
    ReaderEffects (LossyWorld σ) where
  acknowledge w m _ := if w.room then { w with enqueued := w.enqueued ++ [m] } else w
  deliver w m :=
    match deliver w.inner m with
    | (result, inner) => (result, { w with inner })

/-- Feed messages to the reader, each with the room the writer queue has when it arrives. -/
def lossyRun (deliver : σ → ClientMessage → Except Error Unit × σ) : Inbound →
    LossyWorld σ × InboundLog → List (ClientMessage × Bool) →
    Except Error Unit × Inbound × LossyWorld σ × InboundLog
  | s, w, [] => (.ok (), s, w)
  | s, w, (m, room) :: rest =>
      match routeStreamData (recording (lossyReader deliver)) s ({ w.1 with room }, w.2) m with
      | (.error e, s, w) => (.error e, s, w)
      | (.ok (), s, w) => lossyRun deliver s w rest

/-- The client has taken the number: it was delivered, or it waits in the reorder buffer. -/
def Taken (n : Int64) (s : Inbound) (log : InboundLog) : Prop :=
  n.toInt ∈ numbers log.delivered ∨ n ∈ s.incoming.messages

/-- An acknowledgement for the number was accepted by the writer queue. -/
def Enqueued (n : Int64) (w : LossyWorld σ) : Prop :=
  n ∈ w.enqueued.map (fun m => m.sequenceNumber)

instance (n : Int64) (w : LossyWorld σ) : Decidable (Enqueued n w) :=
  inferInstanceAs (Decidable (n ∈ w.enqueued.map _))

/-! ## The invariant of a lossy run -/

/-- Deliveries do not reach the acknowledgements the queue accepted. -/
lemma deliverAndDrain_enqueued (deliver : σ → ClientMessage → Except Error Unit × σ)
    (s : Inbound) (w : LossyWorld σ × InboundLog) (m : ClientMessage) :
    (deliverAndDrain (recording (lossyReader deliver)) s w m).2.2.1.enqueued = w.1.enqueued := by
  have hdeliver : ∀ (w : LossyWorld σ × InboundLog) (m : ClientMessage),
      ((recording (lossyReader deliver)).deliver w m).2.1.enqueued = w.1.enqueued := by
    intro w m
    simp only [recording, lossyReader]
    rcases deliver w.1.inner m with ⟨_ | _, inner⟩ <;> rfl
  fun_induction deliverAndDrain (recording (lossyReader deliver)) s w m with
  | case1 s w m e w' hd => simpa [hd] using hdeliver w m
  | case2 s w m w' hd => simpa [hd] using hdeliver w m
  | case3 s w m w' hd _ next s' ih =>
    rw [ih]
    simpa [hd] using hdeliver w m

/-- A run that did not fail is settled. -/
lemma lossyRun_settled {deliver : σ → ClientMessage → Except Error Unit × σ} {e₀ : Int64}
    {received : List ClientMessage} {arrivals : List (ClientMessage × Bool)} {s s' : Inbound}
    {w w' : LossyWorld σ × InboundLog} (h : Settled e₀ received s w.2)
    (hwrap : NoWrap e₀ (received ++ arrivals.map Prod.fst))
    (hrun : lossyRun deliver s w arrivals = (.ok (), s', w')) :
    Settled e₀ (received ++ arrivals.map Prod.fst) s' w'.2 := by
  induction arrivals generalizing received s w with
  | nil =>
    cases hrun
    simpa using h
  | cons arrival rest ih =>
    obtain ⟨m, room⟩ := arrival
    rw [List.map_cons, List.append_cons] at hwrap ⊢
    simp only [lossyRun] at hrun
    rcases hstep : routeStreamData (recording (lossyReader deliver)) s ({ w.1 with room }, w.2) m
      with ⟨_ | _, s₁, w₁⟩
    · rw [hstep] at hrun
      cases hrun
    · rw [hstep] at hrun
      have hbefore : Settled e₀ received s (({ w.1 with room }, w.2) :
          LossyWorld σ × InboundLog).2 := h
      have hrouted := routeStreamData_routed hwrap.of_append hbefore hstep
      exact ih (hrouted.settled hbefore) hwrap hrun

/-- What one message adds to the accepted acknowledgements is its own, and only if the counter has
not passed it. -/
lemma routeStreamData_enqueued (deliver : σ → ClientMessage → Except Error Unit × σ)
    (s : Inbound) (w : LossyWorld σ × InboundLog) (m : ClientMessage) {n : Int64}
    (hn : Enqueued n (routeStreamData (recording (lossyReader deliver)) s w m).2.2.1) :
    Enqueued n w.1 ∨ s.expected.toInt ≤ n.toInt := by
  have hack : ∀ sequential, Enqueued n ((lossyReader deliver).acknowledge w.1 m sequential) →
      Enqueued n w.1 ∨ n = m.sequenceNumber := by
    intro sequential hin
    simp only [lossyReader] at hin
    split at hin
    · simpa [Enqueued, or_comm] using hin
    · exact .inl hin
  rw [routeStreamData] at hn
  rcases arrive_cases s m with ⟨-, harr⟩ | ⟨hgt, -, harr⟩ | ⟨-, -, -, harr⟩ | ⟨heq, harr⟩
  all_goals
    rw [harr] at hn
    dsimp only at hn
  · exact .inl hn
  · rw [Int64.lt_iff_toInt_lt] at hgt
    exact (hack false hn).imp_right fun h => by rw [h]; omega
  · exact .inl hn
  · rw [Enqueued, deliverAndDrain_enqueued] at hn
    exact (hack true hn).imp_right fun h => by rw [h, heq]

/-- **Never again.** Once the counter has passed a number whose acknowledgement did not go out, no
continuation of the run acknowledges it, however often the agent retransmits it. -/
lemma passed_never_acknowledged {deliver : σ → ClientMessage → Except Error Unit × σ}
    {e₀ : Int64} {received : List ClientMessage} {arrivals : List (ClientMessage × Bool)}
    {s s' : Inbound} {w w' : LossyWorld σ × InboundLog} (h : Settled e₀ received s w.2)
    (hwrap : NoWrap e₀ (received ++ arrivals.map Prod.fst)) {n : Int64}
    (hpassed : n.toInt < s.expected.toInt) (hunacked : ¬Enqueued n w.1)
    (hrun : lossyRun deliver s w arrivals = (.ok (), s', w')) : ¬Enqueued n w'.1 := by
  induction arrivals generalizing received s w with
  | nil =>
    cases hrun
    exact hunacked
  | cons arrival rest ih =>
    obtain ⟨m, room⟩ := arrival
    rw [List.map_cons, List.append_cons] at hwrap
    simp only [lossyRun] at hrun
    have hadds := routeStreamData_enqueued deliver s ({ w.1 with room }, w.2) m (n := n)
    rcases hstep : routeStreamData (recording (lossyReader deliver)) s ({ w.1 with room }, w.2) m
      with ⟨_ | _, s₁, w₁⟩
    · rw [hstep] at hrun
      cases hrun
    · rw [hstep] at hrun hadds
      have hbefore : Settled e₀ received s (({ w.1 with room }, w.2) :
          LossyWorld σ × InboundLog).2 := h
      have hrouted := routeStreamData_routed hwrap.of_append hbefore hstep
      have hafter := hrouted.settled hbefore
      refine ih hafter hwrap ?_ ?_ hrun
      · exact hpassed.trans_le (hrouted.expected_mono hbefore)
      · intro hin
        rcases hadds hin with hold | hge
        · exact hunacked hold
        · omega

/-! ## The second copy -/

/-- Deliveries that do nothing and succeed. -/
def quietDeliver (_ : Unit) (_ : ClientMessage) : Except Error Unit × Unit := (.ok (), ())

/-- **The second copy, decided.** In every run of fewer messages than the counter can count, for a
number the client has taken without its acknowledgement being accepted, a copy that arrives while
the writer queue has room is acknowledged exactly when the number is still ahead of `expected`,
that is, still in the reorder buffer; and a number the counter has passed is not acknowledged by
any continuation of the run. -/
theorem acknowledged_again_iff (deliver : σ → ClientMessage → Except Error Unit × σ)
    (capacity : ℕ) (e₀ : Int64) (inner : σ) (arrivals : List (ClientMessage × Bool))
    (hfew : e₀.toInt + arrivals.length ≤ 2 ^ 63 - 1) (s : Inbound)
    (w : LossyWorld σ × InboundLog)
    (hrun : lossyRun deliver ⟨e₀, IncomingBuffer.new capacity⟩ (⟨inner, true, []⟩, ⟨[], []⟩)
      arrivals = (.ok (), s, w))
    (copy : ClientMessage) (htaken : Taken copy.sequenceNumber s w.2)
    (hunacked : ¬Enqueued copy.sequenceNumber w.1) :
    (Enqueued copy.sequenceNumber
        (routeStreamData (recording (lossyReader deliver)) s ({ w.1 with room := true }, w.2)
          copy).2.2.1 ↔
      s.expected < copy.sequenceNumber) ∧
    (¬s.expected < copy.sequenceNumber → ∀ more s' w',
      e₀.toInt + (arrivals ++ more).length ≤ 2 ^ 63 - 1 →
      lossyRun deliver s w more = (.ok (), s', w') → ¬Enqueued copy.sequenceNumber w'.1) := by
  have hset : Settled e₀ (arrivals.map Prod.fst) s w.2 :=
    lossyRun_settled (Settled.initial e₀ capacity) (.inr (by simpa using hfew)) hrun
  have hdichotomy : s.expected < copy.sequenceNumber ∧
        copy.sequenceNumber ∈ s.incoming.messages ∨ copy.sequenceNumber < s.expected := by
    rcases htaken with hdelivered | hin
    · exact .inr (Int64.lt_iff_toInt_lt.mpr ((hset.mem_delivered_iff _).mp hdelivered).2)
    · exact .inl ⟨Int64.lt_iff_toInt_lt.mpr (hset.key_gt hin), hin⟩
  refine ⟨?_, fun hpassed more s' w' hmore hcont => ?_⟩
  · rw [routeStreamData]
    rcases hdichotomy with ⟨hgt, hin⟩ | hlt
    · -- Still buffered: inserting it again is never refused, and is acknowledged.
      rcases arrive_cases s copy with ⟨hlt, -⟩ | ⟨-, -, harr⟩ | ⟨-, -, hnew, -⟩ | ⟨heq, -⟩
      · exact absurd hgt (Int64.lt_asymm hlt)
      · rw [harr]
        exact iff_of_true (by simp [Enqueued, recording, lossyReader]) hgt
      · exact absurd hin hnew
      · exact absurd heq.symm (Int64.ne_of_lt hgt)
    · -- Passed by the counter: the stale branch, which never acknowledges.
      have harr : s.arrive copy = (.stale, s) := by simp [Inbound.arrive, hlt]
      rw [harr]
      exact iff_of_false hunacked (Int64.lt_asymm hlt)
  · have hlt := hdichotomy.resolve_left fun hahead => hpassed hahead.1
    refine passed_never_acknowledged hset (.inr ?_) (Int64.lt_iff_toInt_lt.mp hlt) hunacked hcont
    simpa using hmore

/-- A message that waits in the buffer without its acknowledgement is acknowledged when it comes
again. -/
theorem acknowledged_again_buffered :
    Enqueued 1 (routeStreamData (recording (lossyReader quietDeliver))
      ⟨0, ⟨(∅ : AList fun _ : Int64 => ClientMessage).insert 1 (outputMessage 1 [97]), 4⟩⟩
      (⟨(), true, []⟩, ⟨[], []⟩) (outputMessage 1 [97])).2.2.1 :=
  (acknowledged_again_iff quietDeliver 4 0 () [(outputMessage 1 [97], false)] (by decide) _ _ rfl
    (outputMessage 1 [97]) (.inr (by decide)) (by decide)).1.mpr (by decide)

/-- Message 0 is delivered while the writer queue is full, and its copy finds the queue empty: the
client has taken it and never says so. -/
theorem dropped_ack_is_not_recovered :
    ¬∀ (arrivals : List (ClientMessage × Bool)) (s : Inbound) (w : LossyWorld Unit × InboundLog)
        (copy : ClientMessage),
      lossyRun quietDeliver ⟨0, IncomingBuffer.new 10000⟩ (⟨(), true, []⟩, ⟨[], []⟩) arrivals =
          (.ok (), s, w) →
        Taken copy.sequenceNumber s w.2 → ¬Enqueued copy.sequenceNumber w.1 →
        Enqueued copy.sequenceNumber
          (routeStreamData (recording (lossyReader quietDeliver)) s ({ w.1 with room := true }, w.2)
            copy).2.2.1 := by
  intro hclaim
  have hrun : lossyRun quietDeliver ⟨0, IncomingBuffer.new 10000⟩ (⟨(), true, []⟩, ⟨[], []⟩)
      [(outputMessage 0 [97], false)] =
      (.ok (), ⟨1, IncomingBuffer.new 10000⟩, ⟨(), false, []⟩, ⟨[outputMessage 0 [97]],
        [outputMessage 0 [97]]⟩) := by
    have harr : Inbound.arrive ⟨0, IncomingBuffer.new 10000⟩ (outputMessage 0 [97]) =
        (.inOrder, ⟨0, IncomingBuffer.new 10000⟩) := rfl
    simp only [lossyRun, routeStreamData, harr]
    rw [deliverAndDrain]
    rfl
  have hacked := hclaim _ _ _ (outputMessage 0 [97]) hrun (.inl (by decide)) (by decide)
  exact absurd hacked (by decide)

end SsmBridge
