import SsmBridge.Properties.InboundPath

/-!
# What was acknowledged survives into a resume

The reader acknowledges a message of the agent's stream before it acts on it and advances `expected`
after.  The agent never resends what was acknowledged, so when the channel dies in between, the
message must not be lost: once the reader has ended, every number it acknowledged should be below
`expected` or in the reorder buffer, which is all that the next channel inherits.

Between the two the number is held by the reader itself, and `Accounted` adds that case.  A delivery
that ends in success passes the message on, and one that ends in an error closes the session for
good.  The gap is a core that was closed for a resumable reason just before: the error of the
delivery then closes nothing, the reader ends, and the session is resumed without the message.
`acknowledged_request_is_lost` is such a run, and `acknowledged_survives` is what holds when no core
is closed in that way while its reader is stuck in a delivery.
-/

namespace SsmBridge

open Machine SignedCounter

/-! ## Accounting for acknowledged messages -/

namespace System

/-- Some channel was closed for a reason that no resume answers. -/
def Dead (s : System) : Prop :=
  ∃ (c : ℕ) (ch : Channel) (r : CloseReason),
    s.channels[c]? = some ch ∧ ch.core.closeReason = some r ∧ r.isResumable = false

/-- A message with this number was passed on, is buffered, or is in a reader's hands, or the session
cannot be resumed. -/
def Accounted (s : System) (n : Int64) : Prop :=
  n < s.cont.inbound.expected ∨ n ∈ s.cont.inbound.incoming.messages ∨
    (∃ (c : ℕ) (ch : Channel) (m : ClientMessage),
      s.channels[c]? = some ch ∧ ch.reader.held = some m ∧ m.sequenceNumber = n) ∨ s.Dead

/-- The numbers the client acknowledged, on whichever channel. -/
def acknowledged (s : System) : List Int64 :=
  s.events.filterMap (fun e => match e with
    | .acknowledged n => some n
    | _ => none)

/-- No core is closed for a resumable reason while its reader is stuck in a delivery. -/
def Uninterrupted (s : System) : Prop :=
  ∀ ch ∈ s.channels, ch.core.closedResumably = true → ch.stuck = false

end System

/-- The invariant of the inbound path. -/
structure Accounting (s : System) : Prop where
  expected : s.cont.inbound.expected.toInt = s.advances
  keys : ∀ n m, s.cont.inbound.incoming.messages.lookup n = some m → m.sequenceNumber = n
  bounded : s.Each (fun ch => ch.reader.Within (· ≤ s.cont.inbound.expected))
  refused : s.Each (fun ch => ∀ reason m, ch.reader = .failing reason (some m) →
    reason.isResumable = false)
  aborted : s.Each (fun ch => ch.aborted = true → ch.core.isClosed = true)
  older : ∀ (c : ℕ) (ch : Channel), c + 1 < s.channels.length → s.channels[c]? = some ch →
    ch.core.closedResumably = true
  stored : s.Each (fun ch => ∀ m, ch.reader = .stored m → s.Accounted m.sequenceNumber)
  acknowledged : ∀ n ∈ s.acknowledged, s.Accounted n

section

variable {env : Env} {s : System} {c : ℕ} {ch : Channel} {o : Outcome}

lemma System.Dead.after (h : s.Dead) (hch : s.channels[c]? = some ch)
    (hstep : ChannelStep env c s.cont ch o) : (s.after c o).Dead := by
  obtain ⟨c', ch', r, hch', hr, hres⟩ := h
  by_cases hc : c' = c
  · subst hc
    rw [hch] at hch'
    cases hch'
    exact ⟨c', o.channel, r, System.channel_after_self hch, hstep.closeReason hr, hres⟩
  · exact ⟨c', ch', r, (System.channel_after_of_ne hc).trans hch', hr, hres⟩

/-- An operation keeps a number accounted for when it does not drop what its channel holds. -/
lemma System.Accounted.after {n : Int64} (h : s.Accounted n) (hch : s.channels[c]? = some ch)
    (hstep : ChannelStep env c s.cont ch o)
    (hexpected : n < s.cont.inbound.expected → n < o.cont.inbound.expected)
    (hkey : n ∈ s.cont.inbound.incoming.messages →
      (s.after c o).Accounted n)
    (hheld : ∀ m, ch.reader.held = some m → m.sequenceNumber = n → (s.after c o).Accounted n) :
    (s.after c o).Accounted n := by
  obtain hlt | hmem | ⟨c', ch', m, hch', hm, hn⟩ | hdead := h
  · exact .inl (hexpected hlt)
  · exact hkey hmem
  · by_cases hc : c' = c
    · subst hc
      rw [hch] at hch'
      cases hch'
      exact hheld m hm hn
    · exact .inr (.inr (.inl ⟨c', ch', m, (System.channel_after_of_ne hc).trans hch', hm, hn⟩))
  · exact .inr (.inr (.inr (hdead.after hch hstep)))

/-- A number the channel of an operation holds afterwards is accounted for. -/
lemma System.accounted_of_held {m : ClientMessage} (hch : s.channels[c]? = some ch)
    (hm : o.channel.reader.held = some m) : (s.after c o).Accounted m.sequenceNumber :=
  .inr (.inr (.inl ⟨c, o.channel, m, System.channel_after_self hch, hm, rfl⟩))

/-- A reader that ends with a message in its hands ends a session that cannot be resumed. -/
lemma dead_of_ended (hch : s.channels[c]? = some ch) {r : CloseReason}
    (hr : o.channel.core.closeReason = some r) (hres : r.isResumable = false) :
    (s.after c o).Dead :=
  ⟨c, o.channel, r, System.channel_after_self hch, hr, hres⟩

/-- A stuck reader of an uninterrupted session belongs to a channel that is open or dead. -/
lemma dead_of_stuck (hu : s.Uninterrupted) (hch : s.channels[c]? = some ch) (hstuck : ch.stuck = true)
    {r : CloseReason} (hr : ch.core.closeReason = some r) (hstep : ChannelStep env c s.cont ch o) :
    (s.after c o).Dead := by
  have hres : r.isResumable = false := by
    by_contra hres
    have hclosed : ch.core.closedResumably = true := by
      simpa [SessionCore.closedResumably, hr] using hres
    rw [hu ch (List.mem_of_getElem? hch) hclosed] at hstuck
    cases hstuck
  exact dead_of_ended hch (hstep.closeReason hr) hres

lemma mem_insert_of_mem {b incoming : IncomingBuffer} {m : ClientMessage}
    (h : b.insert m = (true, incoming)) {n : Int64} :
    (n ∈ b.messages → n ∈ incoming.messages) ∧ m.sequenceNumber ∈ incoming.messages := by
  unfold IncomingBuffer.insert at h
  split at h <;> cases h
  exact ⟨fun hn => by simp [hn], by simp⟩

/-- What was accounted for stays accounted for. -/
lemma Accounting.accounted_after (h : Accounting s) (hu : s.Uninterrupted)
    (hch : s.channels[c]? = some ch) (hstep : ChannelStep env c s.cont ch o)
    (hin : InboundStep s.cont ch o)
    (hwrap : Event.advanced ∈ o.events → s.cont.inbound.expected.toInt < 2 ^ 63 - 1) {n : Int64}
    (hn : s.Accounted n) : (s.after c o).Accounted n := by
  cases hin with
  | other hreader hinbound hevents =>
    refine hn.after hch hstep (by rw [hinbound]; exact id) (fun hmem => ?_) (fun m hm hmn => ?_)
    · exact .inr (.inl (by simpa [System.after, hinbound] using hmem))
    · exact hmn ▸ System.accounted_of_held hch (hreader ▸ hm)
  | moved hlive hfrom hto hstored hdraining hdue hinbound hevents =>
    refine hn.after hch hstep (by rw [hinbound]; exact id) (fun hmem => ?_) (fun m hm _ => ?_)
    · exact .inr (.inl (by simpa [System.after, hinbound] using hmem))
    · rw [hfrom] at hm
      cases hm
  | stored m incoming hfrom hto hinsert hinbound hevents =>
    refine hn.after hch hstep (by rw [hinbound]; exact id) (fun hmem => ?_) (fun m' hm _ => ?_)
    · refine .inr (.inl ?_)
      show n ∈ o.cont.inbound.incoming.messages
      rw [hinbound]
      exact (mem_insert_of_mem hinsert).1 hmem
    · rw [hfrom] at hm
      cases hm
  | acknowledged m hpc hinbound hevents =>
    refine hn.after hch hstep (by rw [hinbound]; exact id) (fun hmem => ?_) (fun m' hm _ => ?_)
    · exact .inr (.inl (by simpa [System.after, hinbound] using hmem))
    · obtain ⟨hpc, -⟩ | ⟨hpc, -⟩ := hpc <;> rw [hpc] at hm <;> cases hm
  | delivering m hfrom hbusy hto hreason hinbound hevents =>
    refine hn.after hch hstep (by rw [hinbound]; exact id) (fun hmem => ?_) (fun m' hm hmn => ?_)
    · exact .inr (.inl (by simpa [System.after, hinbound] using hmem))
    · rw [hfrom] at hm
      cases hm
      exact hmn ▸ System.accounted_of_held hch hto
  | advanced m hfrom hto hinbound hevents =>
    have hlt := hwrap (by simp [hevents])
    have hnext : o.cont.inbound.expected = s.cont.inbound.expected + 1 := by rw [hinbound]
    refine hn.after hch hstep (fun hlow => ?_) (fun hmem => ?_) (fun m' hm hmn => ?_)
    · rw [hnext]
      exact lt_add_one hlt (Int64.le_of_lt hlow)
    · exact .inr (.inl (by simpa [System.after, hinbound] using hmem))
    · refine .inl ?_
      show n < o.cont.inbound.expected
      rw [hnext, ← hmn]
      exact lt_add_one hlt ((h.bounded c ch hch).held m' hm)
  | taken n' m hfrom hlookup hto hinbound hevents =>
    refine hn.after hch hstep (by rw [hinbound]; exact id) (fun hmem => ?_) (fun m' hm _ => ?_)
    · by_cases hnn : n = n'
      · have hseq := h.keys n' m hlookup
        rw [hnn, ← hseq]
        exact System.accounted_of_held hch (by rw [hto]; rfl)
      · exact .inr (.inl (by simp [System.after, hinbound, IncomingBuffer.take, hnn, hmem]))
    · rw [hfrom] at hm
      cases hm
  | drained n' hfrom hlookup hto hinbound hevents =>
    refine hn.after hch hstep (by rw [hinbound]; exact id) (fun hmem => ?_) (fun m' hm _ => ?_)
    · have hnn : n ≠ n' := by
        rintro rfl
        rw [← AList.lookup_isSome, hlookup] at hmem
        cases hmem
      exact .inr (.inl (by simp [System.after, hinbound, IncomingBuffer.take, hnn, hmem]))
    · rw [hfrom] at hm
      cases hm
  | failed reason m hfrom hto hcore hinbound hevents =>
    refine hn.after hch hstep (by rw [hinbound]; exact id) (fun hmem => ?_) (fun m' hm _ => ?_)
    · exact .inr (.inl (by simpa [System.after, hinbound] using hmem))
    · rw [hfrom] at hm
      cases hm
      refine .inr (.inr (.inr ?_))
      have hstuck : ch.stuck = true := by simp [Channel.stuck, hfrom]
      cases hr : ch.core.closeReason with
      | some r => exact dead_of_stuck hu hch hstuck hr hstep
      | none =>
        refine dead_of_ended hch ?_ (h.refused c ch hch reason m' hfrom)
        simp [hcore, SessionCore.close, hr]
  | aborted haborted hfrom hto hinbound hevents =>
    refine hn.after hch hstep (by rw [hinbound]; exact id) (fun hmem => ?_) (fun m' hm _ => ?_)
    · exact .inr (.inl (by simpa [System.after, hinbound] using hmem))
    · obtain hnone | hstuck := hfrom
      · rw [hnone] at hm
        cases hm
      · obtain ⟨r, hr⟩ := Option.isSome_iff_exists.mp (h.aborted c ch hch haborted)
        exact .inr (.inr (.inr (dead_of_stuck hu hch hstuck hr hstep)))

/-- A delivery is refused with a reason that no resume answers. -/
lemma InboundStep.refused (hin : InboundStep s.cont ch o)
    (h : ∀ reason m, ch.reader = .failing reason (some m) → reason.isResumable = false) :
    ∀ reason m, o.channel.reader = .failing reason (some m) → reason.isResumable = false := by
  intro reason m hpc
  cases hin with
  | other hreader hinbound hevents => exact h reason m (hreader ▸ hpc)
  | moved hlive hfrom hto hstored hdraining hdue hinbound hevents =>
    rw [hpc] at hto
    cases hto
  | delivering m' hfrom hbusy hto hreason hinbound hevents => exact hreason reason m hpc
  | acknowledged m' hpc' hinbound hevents =>
    obtain ⟨-, hto⟩ | ⟨-, hto⟩ := hpc' <;> rw [hpc] at hto <;> cases hto
  | stored m' incoming hfrom hto hinsert hinbound hevents => rw [hpc] at hto; cases hto
  | advanced m' hfrom hto hinbound hevents => rw [hpc] at hto; cases hto
  | taken n m' hfrom hlookup hto hinbound hevents => rw [hpc] at hto; cases hto
  | drained n hfrom hlookup hto hinbound hevents => rw [hpc] at hto; cases hto
  | failed reason' m' hfrom hto hcore hinbound hevents => rw [hpc] at hto; cases hto
  | aborted haborted hfrom hto hinbound hevents => rw [hpc] at hto; cases hto

/-- What an operation acknowledges is accounted for, and so is what it stores. -/
lemma Accounting.receipts (h : Accounting s) (hch : s.channels[c]? = some ch)
    (hin : InboundStep s.cont ch o)
    (hstays : ∀ n, s.Accounted n → (s.after c o).Accounted n) :
    (∀ m, o.channel.reader = .stored m → (s.after c o).Accounted m.sequenceNumber) ∧
      ∀ n, Event.acknowledged n ∈ o.events → (s.after c o).Accounted n := by
  have hquiet : (∀ e ∈ o.events, e.isReceipt = false) →
      ∀ n, Event.acknowledged n ∈ o.events → (s.after c o).Accounted n := by
    intro hevents n hn
    simpa [Event.isReceipt] using hevents _ hn
  cases hin with
  | other hreader hinbound hevents =>
    exact ⟨fun m hm => hstays _ (h.stored c ch hch m (hreader ▸ hm)), hquiet hevents⟩
  | moved hlive hfrom hto hstored hdraining hdue hinbound hevents =>
    exact ⟨fun m hm => absurd hm (hstored m), hquiet hevents⟩
  | stored m incoming hfrom hto hinsert hinbound hevents =>
    refine ⟨fun m' hm => ?_, by simp [hevents]⟩
    rw [hto] at hm
    cases hm
    refine .inr (.inl ?_)
    show m.sequenceNumber ∈ o.cont.inbound.incoming.messages
    rw [hinbound]
    exact (mem_insert_of_mem (n := m.sequenceNumber) hinsert).2
  | acknowledged m hpc hinbound hevents =>
    refine ⟨fun m' hm => ?_, fun n hn => ?_⟩
    · obtain ⟨-, hto⟩ | ⟨-, hto⟩ := hpc <;> rw [hm] at hto <;> cases hto
    · have hnm : n = m.sequenceNumber := by
        obtain hevents | hevents := hevents
        · simp [hevents] at hn
        · simpa [hevents] using hn
      rw [hnm]
      obtain ⟨hfrom, -⟩ | ⟨-, hto⟩ := hpc
      · exact hstays _ (h.stored c ch hch m hfrom)
      · exact System.accounted_of_held hch (by rw [hto]; rfl)
  | delivering m hfrom hbusy hto hreason hinbound hevents =>
    refine ⟨fun m' hm => ?_, hquiet hevents⟩
    rw [hm] at hto
    cases hto
  | advanced m hfrom hto hinbound hevents =>
    exact ⟨fun m' hm => by simp [hto] at hm, by simp [hevents]⟩
  | taken n m hfrom hlookup hto hinbound hevents =>
    exact ⟨fun m' hm => by simp [hto] at hm, by simp [hevents]⟩
  | drained n hfrom hlookup hto hinbound hevents =>
    exact ⟨fun m' hm => by simp [hto] at hm, by simp [hevents]⟩
  | failed reason m hfrom hto hcore hinbound hevents =>
    exact ⟨fun m' hm => by simp [hto] at hm, by simp [hevents]⟩
  | aborted haborted hfrom hto hinbound hevents =>
    exact ⟨fun m' hm => by simp [hto] at hm, by simp [hevents]⟩

lemma System.mem_acknowledged {n : Int64} :
    n ∈ s.acknowledged ↔ Event.acknowledged n ∈ s.events := by
  simp only [System.acknowledged, List.mem_filterMap]
  constructor
  · rintro ⟨e, he, heq⟩
    cases e with
    | acknowledged n' =>
      cases heq
      exact he
    | _ => cases heq
  · intro he
    exact ⟨_, he, rfl⟩

/-- An operation keeps the books. -/
lemma Accounting.after (h : Accounting s) (hu : s.Uninterrupted) (hch : s.channels[c]? = some ch)
    (hstep : ChannelStep env c s.cont ch o) (hin : InboundStep s.cont ch o)
    (hwrap : (s.after c o).advances < 2 ^ 63) : Accounting (s.after c o) := by
  have hadvances : (s.after c o).advances = s.advances + o.events.count .advanced := by
    rw [System.advances, System.events_after, List.count_append]
    rfl
  have hlt : Event.advanced ∈ o.events → s.cont.inbound.expected.toInt < 2 ^ 63 - 1 := by
    intro hadv
    have hpos := List.count_pos_iff.mpr hadv
    rw [h.expected]
    omega
  have hstays : ∀ n, s.Accounted n → (s.after c o).Accounted n :=
    fun n hn => h.accounted_after hu hch hstep hin hlt hn
  have hcounter : o.cont.inbound.expected.toInt = (s.after c o).advances ∧
      s.cont.inbound.expected ≤ o.cont.inbound.expected := by
    obtain ⟨hsame, hnone⟩ | ⟨hnext, hevents⟩ := hin.counter
    · rw [hsame, hadvances, List.count_eq_zero_of_not_mem hnone]
      exact ⟨h.expected, Int64.le_refl _⟩
    · have hwrap' := hlt (by simp [hevents])
      rw [hnext, toInt_add_one hwrap', hadvances, hevents, h.expected]
      exact ⟨by simp, Int64.le_of_lt (lt_add_one hwrap' (Int64.le_refl _))⟩
  obtain ⟨hstored, hacked⟩ := h.receipts hch hin hstays
  exact
    { expected := hcounter.1
      keys := hin.keys h.keys
      bounded := by
        intro c' ch' hch'
        obtain ⟨-, rfl⟩ | ⟨-, hold⟩ := System.channel_after hch'
        · exact hin.within h.keys (h.bounded c ch hch) (Int64.le_refl _)
            (fun hsame n hn => hsame ▸ hn)
        · exact (h.bounded c' ch' hold).mono (fun n hn => Int64.le_trans hn hcounter.2)
      refused := by
        intro c' ch' hch'
        obtain ⟨-, rfl⟩ | ⟨-, hold⟩ := System.channel_after hch'
        · exact hin.refused (h.refused c ch hch)
        · exact h.refused c' ch' hold
      aborted := by
        intro c' ch' hch'
        obtain ⟨-, rfl⟩ | ⟨-, hold⟩ := System.channel_after hch'
        · exact hstep.aborted_closed (h.aborted c ch hch)
        · exact h.aborted c' ch' hold
      older := by
        intro c' ch' hlast hch'
        have hlast' : c' + 1 < s.channels.length := by simpa [System.after] using hlast
        obtain ⟨rfl, rfl⟩ | ⟨-, hold⟩ := System.channel_after hch'
        · exact closedResumably_of (fun r hr => hstep.closeReason hr) (h.older c' ch hlast' hch)
        · exact h.older c' ch' hlast' hold
      stored := by
        intro c' ch' hch' m hm
        obtain ⟨-, rfl⟩ | ⟨-, hold⟩ := System.channel_after hch'
        · exact hstored m hm
        · exact hstays _ (h.stored c' ch' hold m hm)
      acknowledged := by
        intro n hn
        rw [System.mem_acknowledged, System.events_after, List.mem_append] at hn
        obtain hn | hn := hn
        · exact hstays n (h.acknowledged n (System.mem_acknowledged.mpr hn))
        · exact hacked n hn }

lemma Accounting.resumed {config : ChannelConfig} (h : Accounting s) (hr : s.resumable = true) :
    Accounting (s.resumed config) := by
  have hstays : ∀ n, s.Accounted n → (s.resumed config).Accounted n := by
    rintro n (hlt | hmem | ⟨c, ch, m, hch, hm⟩ | ⟨c, ch, r, hch, hr⟩)
    · exact .inl hlt
    · exact .inr (.inl hmem)
    · exact .inr (.inr (.inl ⟨c, ch, m, System.channel_resumed_of hch, hm⟩))
    · exact .inr (.inr (.inr ⟨c, ch, r, System.channel_resumed_of hch, hr⟩))
  refine ⟨h.expected, h.keys, ?_, ?_, ?_, ?_, ?_, fun n hn => hstays n (h.acknowledged n hn)⟩
  · intro c ch hch
    obtain ⟨-, rfl⟩ | hold := System.channel_resumed hch
    · exact .idle rfl (by simp [Channel.open]) (by simp [Channel.open])
    · exact h.bounded c ch hold
  · intro c ch hch
    obtain ⟨-, rfl⟩ | hold := System.channel_resumed hch
    · simp [Channel.open]
    · exact h.refused c ch hold
  · intro c ch hch
    obtain ⟨-, rfl⟩ | hold := System.channel_resumed hch
    · simp [Channel.open]
    · exact h.aborted c ch hold
  · intro c ch hlast hch
    have hlen : c < s.channels.length := by simpa [System.resumed] using hlast
    obtain ⟨hc, -⟩ | hold := System.channel_resumed hch
    · omega
    · by_cases hnewest : c + 1 < s.channels.length
      · exact h.older c ch hnewest hold
      · -- The channel that is being replaced is the newest one.
        have hclast : c = s.channels.length - 1 := by omega
        rw [hclast, ← List.getLast?_eq_getElem?] at hold
        simpa [System.resumable, hold] using hr
  · intro c ch hch m hm
    obtain ⟨-, rfl⟩ | hold := System.channel_resumed hch
    · cases hm
    · exact hstays _ (h.stored c ch hold m hm)

lemma Accounting.start (config : ChannelConfig) : Accounting (System.start config) where
  expected := rfl
  keys n m h := by cases h
  bounded c ch hch := by
    rw [System.channel_start hch]
    exact .idle rfl (by simp [Channel.open]) (by simp [Channel.open])
  refused c ch hch := by
    rw [System.channel_start hch]
    simp [Channel.open]
  aborted c ch hch := by
    rw [System.channel_start hch]
    simp [Channel.open]
  older c ch hlast hch := by simp [System.start] at hlast
  stored c ch hch m hm := by
    rw [System.channel_start hch] at hm
    cases hm
  acknowledged n hn := by simp [System.mem_acknowledged, System.start, System.events] at hn

end

/-! ## Runs -/

instance (s : System) : Decidable s.Uninterrupted :=
  inferInstanceAs (Decidable (∀ ch ∈ s.channels, ch.core.closedResumably = true → ch.stuck = false))

/-- Every step starts from a state in which no delivery is interrupted. -/
def uninterrupted (s : System) (_ : Label) (_ : System) : Prop := s.Uninterrupted

theorem accounting_of_run {env : Env} {config : ChannelConfig} {s : System}
    (hs : Reachable (System.step env) uninterrupted (System.start config) s) :
    s.advances < 2 ^ 63 → Accounting s := by
  refine Reachable.invariant (P := fun s => s.advances < 2 ^ 63 → Accounting s) ?_ ?_ hs
  · intro _
    exact .start config
  · intro s l s' ih hstep hu hwrap
    obtain ⟨c, a, ch, o, -, hch, ho, rfl⟩ | ⟨config', -, hr, rfl⟩ := System.step_cases hstep
    · have hbefore : s.advances < 2 ^ 63 := by
        rw [System.advances, System.events_after, List.count_append] at hwrap
        exact Nat.lt_of_le_of_lt (Nat.le_add_right _ _) hwrap
      exact (ih hbefore).after hu hch (perform_cases ho) (perform_inbound ho) hwrap
    · exact (ih hwrap).resumed hr

/-- All channels of a session that can be resumed were closed for a resumable reason. -/
lemma Accounting.closedResumably {s : System} (h : Accounting s) (hr : s.resumable = true) {c : ℕ}
    {ch : Channel} (hch : s.channels[c]? = some ch) : ch.core.closedResumably = true := by
  by_cases hnewest : c + 1 < s.channels.length
  · exact h.older c ch hnewest hch
  · obtain ⟨hlt, -⟩ := List.getElem?_eq_some_iff.mp hch
    have hclast : c = s.channels.length - 1 := by omega
    rw [hclast, ← List.getLast?_eq_getElem?] at hch
    simpa [System.resumable, hch] using hr

/-- **What was acknowledged survives.**  In every run without an interrupted delivery, once the
channel was closed for a resumable reason and the readers have ended, every acknowledged number is
below `expected` or in the reorder buffer. -/
theorem acknowledged_survives {env : Env} {config : ChannelConfig} {s : System}
    (hs : Reachable (System.step env) uninterrupted (System.start config) s)
    (hwrap : s.advances < 2 ^ 63) (hclosed : s.resumable = true)
    (hended : ∀ ch ∈ s.channels, ch.reader = .ended) :
    ∀ n ∈ s.acknowledged,
      n < s.cont.inbound.expected ∨ n ∈ s.cont.inbound.incoming.messages := by
  intro n hn
  have h := accounting_of_run hs hwrap
  obtain hlt | hmem | ⟨c, ch, m, hch, hm, -⟩ | ⟨c, ch, r, hch, hr, hres⟩ := h.acknowledged n hn
  · exact .inl hlt
  · exact .inr hmem
  · rw [hended ch (List.mem_of_getElem? hch)] at hm
    cases hm
  · have hresumable := h.closedResumably hclosed hch
    simp [SessionCore.closedResumably, hr, hres] at hresumable

/-- The handshake request is answered, message 2 comes before message 1, and the caller sends a byte;
then the agent falls silent. -/
def silentRun : List Label :=
  onChannel 0 (receivingData (agentMessage 0 .handshakeRequest plainRequestJson) ++ answering ++
    receiving (agentMessage 2 .output [98]) ++
    ([.readerRoute, .readerStore, .readerAck ⟨0, toArray _ []⟩] : List Action) ++
    receiving startPublication ++ ([.sendData [97]] : List Action) ++ admitting ++
    numbering .command ++
    ([.write .command, .heartbeatPoll, .heartbeatTick 5000, .readerPoll] : List Action))

/-- Message 0 is below `expected`, and message 2 waits in the reorder buffer. -/
theorem acknowledged_survives_silence :
    ∃ s, Reachable (System.step sampleEnv) uninterrupted (System.start sampleConfig) s ∧
      s.resumable = true ∧ (∀ ch ∈ s.channels, ch.reader = .ended) ∧ s.acknowledged = [0, 2] ∧
      s.cont.inbound.expected = 1 ∧
      ∀ n ∈ s.acknowledged,
        n < s.cont.inbound.expected ∨ n ∈ s.cont.inbound.incoming.messages := by
  have hrun : (runIf (System.step sampleEnv) (fun s _ _ => decide s.Uninterrupted)
      (System.start sampleConfig) silentRun).any (fun s =>
        decide (s.resumable = true ∧ (∀ ch ∈ s.channels, ch.reader = .ended) ∧
          s.acknowledged = [0, 2] ∧ s.cont.inbound.expected = 1 ∧ s.advances = 1)) = true := by
    decide +kernel
  have htest : ∀ (s : System) (l : Label) (s' : System), decide s.Uninterrupted = true →
      uninterrupted s l s' := by
    intro s l s' h
    exact (decide_eq_true_iff (p := s.Uninterrupted)).mp h
  obtain ⟨s, hs, hp⟩ := exists_of_runIf htest hrun
  obtain ⟨hr, hended, hacked, hexp, hadv⟩ := of_decide_eq_true hp
  have hwrap : s.advances < 2 ^ 63 := by omega
  exact ⟨s, hs, hr, hended, hacked, hexp, acknowledged_survives hs hwrap hr hended⟩

/-- The agent's handshake request is acknowledged, the writer dies while the reply is on its way to
it, and the reader ends. -/
def lostRequestRun : List Label :=
  onChannel 0 (receivingData (agentMessage 0 .handshakeRequest plainRequestJson) ++
    ([.readerDeliver (toArray _ []), .readerNegotiated] : List Action) ++ numbering .reader ++
    ([.writerPoll, .writerRecv, .writerFailed "broken pipe", .writerFinish, .write .reader,
      .readerReplied, .readerClose] : List Action))

/-- **An acknowledged request is lost.**  The session can be resumed, its reader has ended, and the
request it acknowledged is neither below `expected` nor buffered. -/
theorem acknowledged_request_is_lost :
    ∃ s, Session sampleEnv sampleConfig s ∧ s.resumable = true ∧
      (∀ ch ∈ s.channels, ch.reader = .ended) ∧
      ∃ n ∈ s.acknowledged, ¬n < s.cont.inbound.expected ∧
        n ∉ s.cont.inbound.incoming.messages := by
  have hrun : (run (System.step sampleEnv) (System.start sampleConfig) lostRequestRun).any (fun s =>
      decide (s.resumable = true ∧ (∀ ch ∈ s.channels, ch.reader = .ended) ∧
        ∃ n ∈ s.acknowledged, ¬n < s.cont.inbound.expected ∧
          n ∉ s.cont.inbound.incoming.messages)) = true := by
    decide +kernel
  obtain ⟨s, hs, hp⟩ := exists_of_run hrun
  exact ⟨s, hs, of_decide_eq_true hp⟩

end SsmBridge
