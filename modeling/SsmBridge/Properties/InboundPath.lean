import SsmBridge.Framework.SignedCounter
import SsmBridge.Properties.Footprint

/-!
# The inbound path

A message of the agent's stream passes from the reader's hands to the reorder buffer or, once its
number is due, through a delivery that ends with the counter advanced.  `InboundStep` says what an
operation can do on that path, whichever task it belongs to, and `OutputStep` says the same of the
output fan-out at the end of it.
-/

namespace SsmBridge

open Machine SignedCounter

/-! ## Operations on the inbound path -/

/-- The acknowledged message the reader has not passed on yet. -/
def ReaderPc.held : ReaderPc → Option ClientMessage
  | .delivering m | .negotiating m _ | .replying m _ | .advancing m => some m
  | .failing _ m => m
  | _ => none

/-- The reader awaits KMS or its reply inside a delivery, or was refused the delivery. -/
def Channel.stuck (ch : Channel) : Bool :=
  match ch.reader with
  | .negotiating _ request => awaitsKms ch.handshake request
  | .replying _ _ => true
  | .failing _ m => m.isSome
  | _ => false

/-- The events of the inbound counter. -/
def Event.isReceipt : Event → Bool
  | .acknowledged _ | .advanced => true
  | .issued _ | .enqueued _ _ | .resent _ _ | .retired _ | .emitted _ _ | .negotiated _
  | .accepted _ | .admitted _ _ => false

/-- What an operation does on the inbound path. -/
inductive InboundStep (k : Continuity) (ch : Channel) (o : Outcome) : Prop
  | other (hreader : o.channel.reader = ch.reader) (hinbound : o.cont.inbound = k.inbound)
      (hevents : ∀ e ∈ o.events, e.isReceipt = false)
  | moved (hlive : ch.reader ≠ .ended) (hfrom : ch.reader.held = none)
      (hto : o.channel.reader.held = none)
      (hstored : ∀ m, o.channel.reader ≠ .stored m) (hdraining : ∀ n, o.channel.reader ≠ .draining n)
      (hdue : ∀ m, o.channel.reader = .due m → m.sequenceNumber = k.inbound.expected)
      (hinbound : o.cont.inbound = k.inbound) (hevents : ∀ e ∈ o.events, e.isReceipt = false)
  | stored (m : ClientMessage) (incoming : IncomingBuffer) (hfrom : ch.reader = .ahead m)
      (hto : o.channel.reader = .stored m) (hinsert : k.inbound.incoming.insert m = (true, incoming))
      (hinbound : o.cont.inbound = { k.inbound with incoming }) (hevents : o.events = [])
  | acknowledged (m : ClientMessage)
      (hpc : (ch.reader = .stored m ∧ o.channel.reader = .select) ∨
        (ch.reader = .due m ∧ o.channel.reader = .delivering m))
      (hinbound : o.cont.inbound = k.inbound)
      (hevents : o.events = [] ∨ o.events = [.acknowledged m.sequenceNumber])
  | delivering (m : ClientMessage) (hfrom : ch.reader.held = some m)
      (hbusy : ∀ m', ch.reader ≠ .advancing m') (hto : o.channel.reader.held = some m)
      (hreason : ∀ reason m', o.channel.reader = .failing reason (some m') →
        reason.isResumable = false)
      (hinbound : o.cont.inbound = k.inbound) (hevents : ∀ e ∈ o.events, e.isReceipt = false)
  | advanced (m : ClientMessage) (hfrom : ch.reader = .advancing m)
      (hto : o.channel.reader = .draining (k.inbound.expected + 1))
      (hinbound : o.cont.inbound = { k.inbound with expected := k.inbound.expected + 1 })
      (hevents : o.events = [.advanced])
  | taken (n : Int64) (m : ClientMessage) (hfrom : ch.reader = .draining n)
      (hlookup : k.inbound.incoming.messages.lookup n = some m)
      (hto : o.channel.reader = .delivering m)
      (hinbound : o.cont.inbound = { k.inbound with incoming := (k.inbound.incoming.take n).2 })
      (hevents : o.events = [])
  | drained (n : Int64) (hfrom : ch.reader = .draining n)
      (hlookup : k.inbound.incoming.messages.lookup n = none)
      (hto : o.channel.reader = .select)
      (hinbound : o.cont.inbound = { k.inbound with incoming := (k.inbound.incoming.take n).2 })
      (hevents : o.events = [])
  | failed (reason : CloseReason) (m : Option ClientMessage) (hfrom : ch.reader = .failing reason m)
      (hto : o.channel.reader = .ended) (hcore : o.channel.core = ch.core.close reason)
      (hinbound : o.cont.inbound = k.inbound) (hevents : o.events = [])
  | aborted (haborted : ch.aborted = true) (hfrom : ch.reader.held = none ∨ ch.stuck = true)
      (hto : o.channel.reader = .ended) (hinbound : o.cont.inbound = k.inbound)
      (hevents : o.events = [])

section

variable {env : Env} {c : ℕ} {k : Continuity} {ch : Channel} {o : Outcome} {a : Action}

lemma afterProgress_held (m : ClientMessage) (p : Progress) :
    (afterProgress m p).held = some m ∧
      ∀ reason m', afterProgress m p = .failing reason (some m') → reason.isResumable = false := by
  cases p with
  | finished result =>
    cases result with
    | ok u => exact ⟨rfl, fun reason m' h => by cases h⟩
    | error e =>
      refine ⟨rfl, fun reason m' h => ?_⟩
      cases h
      rfl
  | reply payloadType payload after => exact ⟨rfl, fun reason m' h => by cases h⟩

/-- A delivery that goes on keeps the message it holds. -/
lemma inboundStep_progress {m : ClientMessage} {ch₁ : Channel} {p : Progress} {k' : Continuity}
    {events : List Event} (hfrom : ch.reader.held = some m)
    (hbusy : ∀ m', ch.reader ≠ .advancing m') (hinbound : k'.inbound = k.inbound)
    (hevents : ∀ e ∈ events, e.isReceipt = false) :
    InboundStep k ch ⟨k', progress m ch₁ p, events⟩ := by
  obtain ⟨hheld, hreason⟩ := afterProgress_held m p
  rw [progress_eq]
  exact .delivering m hfrom hbusy hheld hreason hinbound hevents

theorem reader_inbound (ha : a.task = .reader) (h : perform env c k ch a = some o) :
    InboundStep k ch o := by
  cases a <;> simp only [Action.task, reduceCtorEq] at ha <;> simp only [perform] at h
  case readerPoll =>
    unfold readerPoll at h
    split at h <;> cases h
    next hpc =>
      refine .moved (by simp [hpc]) (by rw [hpc]; rfl) ?_ ?_ ?_ ?_ rfl (by simp)
      all_goals dsimp only; split <;> simp [ReaderPc.held]
  case readerFrame now frame =>
    obtain ⟨hpc, hout⟩ := readerFrame_cases h
    have hfrom : ch.reader.held = none := by rw [hpc]; rfl
    cases hout <;>
      exact .moved (by simp [hpc]) hfrom rfl (by simp) (by simp) (by simp) rfl
        (by simp [Event.isReceipt])
  case readerRoute =>
    unfold readerRoute at h
    split at h <;> cases h
    next m hpc =>
      refine .moved (by simp [hpc]) (by rw [hpc]; rfl) ?_ ?_ ?_ ?_ rfl (by simp)
      all_goals dsimp only; split_ifs <;> simp [ReaderPc.held]
      next hlt hgt =>
        exact Int64.le_antisymm (Int64.not_lt.mp hgt) (Int64.not_lt.mp hlt)
  case readerStore =>
    unfold readerStore at h
    split at h
    · next m hpc =>
      split at h <;> cases h
      · next incoming hinsert => exact .stored m incoming hpc rfl hinsert rfl rfl
      · next incoming hinsert =>
        have hsame : incoming = k.inbound.incoming := by
          unfold IncomingBuffer.insert at hinsert
          split at hinsert <;> cases hinsert
          rfl
        exact .moved (by simp [hpc]) (by rw [hpc]; rfl) rfl (by simp) (by simp) (by simp)
          (by rw [hsame]) (by simp)
    · cases h
  case readerAck stamp =>
    obtain ⟨m, queue, events, reader, hev, hpc, rfl⟩ := readerAck_cases h
    refine .acknowledged m ?_ rfl hev
    obtain ⟨hpc, rfl⟩ | ⟨hpc, rfl⟩ := hpc
    · exact .inl ⟨hpc, rfl⟩
    · exact .inr ⟨hpc, rfl⟩
  case readerDeliver nonce =>
    obtain ⟨m, d, v, output, hpc, -, ⟨p, -, rfl⟩ | ⟨request, events, -, hev, rfl⟩⟩ :=
      readerDeliver_cases h
    · exact inboundStep_progress (by rw [hpc]; rfl) (by simp [hpc]) rfl (by simp [Event.isReceipt])
    · refine .delivering m (by rw [hpc]; rfl) (by simp [hpc]) rfl (by simp) rfl ?_
      obtain rfl | ⟨rfl, -⟩ := hev <;> simp [Event.isReceipt]
  case readerNegotiated =>
    obtain ⟨m, request, p, v, calls, hpc, -, rfl⟩ := readerNegotiated_cases h
    exact inboundStep_progress (by rw [hpc]; rfl) (by simp [hpc]) rfl (by simp)
  case readerReplied =>
    obtain ⟨m, after, hpc, ⟨-, result, v, -, rfl⟩ | ⟨e, -, rfl⟩⟩ := readerReplied_cases h
    · exact inboundStep_progress (by rw [hpc]; rfl) (by simp [hpc]) rfl (by simp)
    · exact inboundStep_progress (by rw [hpc]; rfl) (by simp [hpc]) rfl (by simp)
  case readerAdvance =>
    unfold readerAdvance at h
    split at h <;> cases h
    next m hpc => exact .advanced m hpc rfl rfl rfl
  case readerTake =>
    unfold readerTake at h
    split at h <;> cases h
    next n hpc =>
      cases hlookup : k.inbound.incoming.messages.lookup n with
      | some m => exact .taken n m hpc hlookup rfl rfl rfl
      | none => exact .drained n hpc hlookup rfl rfl rfl
  case readerClose =>
    unfold readerClose at h
    split at h <;> cases h
    next reason m hpc => exact .failed reason m hpc rfl rfl rfl rfl
  case readerAbort =>
    unfold readerAbort at h
    split at h
    · next hab hpc =>
      cases h
      exact .aborted hab (.inl (by rw [hpc]; rfl)) rfl rfl rfl
    · next m request hab hpc =>
      split at h <;> cases h
      next hkms => exact .aborted hab (.inr (by simp [Channel.stuck, hpc, hkms])) rfl rfl rfl
    · next m after hab hpc =>
      split at h <;> cases h
      exact .aborted hab (.inr (by simp [Channel.stuck, hpc])) rfl (by simp) rfl
    · cases h

lemma BackgroundStep.inbound (h : BackgroundStep k ch o) : InboundStep k ch o := by
  obtain ⟨outgoing, core, aborted, queue, writer, heartbeat, retransmit, events, -, -, -, -, -,
    hevents⟩ := h
  refine .other rfl rfl (fun e he => ?_)
  obtain ⟨n, w, rfl, -⟩ := hevents e he
  rfl

/-- The other tasks leave the inbound path alone. -/
theorem perform_inbound (h : perform env c k ch a = some o) : InboundStep k ch o := by
  cases ha : a.task with
  | reader => exact reader_inbound ha h
  | send who =>
    have hs := send_cases ha h
    refine .other hs.frame.reader hs.frame.inbound ?_
    cases hs <;> simp [Event.isReceipt]
  | command =>
    have hf := (command_cases ha h).frame
    refine .other hf.reader hf.inbound (fun e he => ?_)
    obtain ⟨command, cipher, rfl⟩ := hf.events e he
    rfl
  | writer => exact (writer_cases ha h).inbound
  | heartbeat => exact (heartbeat_cases ha h).inbound
  | retransmit => exact (retransmit_cases ha h).inbound
  | handle =>
    cases handle_cases ha h with
    | accepted command hcommand halive => exact .other rfl rfl (by simp [Event.isReceipt])
    | ended hb => exact hb.inbound

end

/-! ## The counter and the reorder buffer -/

/-- How often the inbound counter advanced. -/
def System.advances (s : System) : ℕ := s.events.count .advanced

section

variable {s : System} {c : ℕ} {ch : Channel} {o : Outcome}

lemma lt_add_one {n e : Int64} (hwrap : e.toInt < 2 ^ 63 - 1) (h : n ≤ e) : n < e + 1 := by
  rw [Int64.lt_iff_toInt_lt, toInt_add_one hwrap]
  rw [Int64.le_iff_toInt_le] at h
  omega

/-- The counter and its record move together. -/
lemma InboundStep.counter (hin : InboundStep s.cont ch o) :
    (o.cont.inbound.expected = s.cont.inbound.expected ∧ Event.advanced ∉ o.events) ∨
      (o.cont.inbound.expected = s.cont.inbound.expected + 1 ∧ o.events = [.advanced]) := by
  have hquiet : (∀ e ∈ o.events, e.isReceipt = false) → Event.advanced ∉ o.events := by
    intro hevents hadv
    simpa [Event.isReceipt] using hevents _ hadv
  cases hin with
  | other hreader hinbound hevents => exact .inl ⟨by rw [hinbound], hquiet hevents⟩
  | moved hlive hfrom hto hstored hdraining hdue hinbound hevents =>
    exact .inl ⟨by rw [hinbound], hquiet hevents⟩
  | stored m incoming hfrom hto hinsert hinbound hevents =>
    exact .inl ⟨by rw [hinbound], by simp [hevents]⟩
  | acknowledged m hpc hinbound hevents =>
    refine .inl ⟨by rw [hinbound], ?_⟩
    obtain hevents | hevents := hevents <;> simp [hevents]
  | delivering m hfrom hbusy hto hreason hinbound hevents =>
    exact .inl ⟨by rw [hinbound], hquiet hevents⟩
  | advanced m hfrom hto hinbound hevents => exact .inr ⟨by rw [hinbound], hevents⟩
  | taken n m hfrom hlookup hto hinbound hevents =>
    exact .inl ⟨by rw [hinbound], by simp [hevents]⟩
  | drained n hfrom hlookup hto hinbound hevents =>
    exact .inl ⟨by rw [hinbound], by simp [hevents]⟩
  | failed reason m hfrom hto hcore hinbound hevents =>
    exact .inl ⟨by rw [hinbound], by simp [hevents]⟩
  | aborted haborted hfrom hto hinbound hevents =>
    exact .inl ⟨by rw [hinbound], by simp [hevents]⟩

lemma InboundStep.keys (hin : InboundStep s.cont ch o)
    (h : ∀ n m, s.cont.inbound.incoming.messages.lookup n = some m → m.sequenceNumber = n) :
    ∀ n m, o.cont.inbound.incoming.messages.lookup n = some m → m.sequenceNumber = n := by
  have herase : ∀ n', o.cont.inbound = { s.cont.inbound with
      incoming := (s.cont.inbound.incoming.take n').2 } →
      ∀ n m, o.cont.inbound.incoming.messages.lookup n = some m → m.sequenceNumber = n := by
    intro n' hinbound n m hm
    rw [hinbound] at hm
    simp only [IncomingBuffer.take] at hm
    by_cases hnn : n = n'
    · rw [hnn, AList.lookup_erase] at hm
      cases hm
    · rw [AList.lookup_erase_ne hnn] at hm
      exact h n m hm
  cases hin with
  | stored m incoming hfrom hto hinsert hinbound hevents =>
    intro n m' hm
    rw [hinbound] at hm
    unfold IncomingBuffer.insert at hinsert
    split at hinsert <;> cases hinsert
    by_cases hnn : n = m.sequenceNumber
    · subst hnn
      rw [AList.lookup_insert] at hm
      cases hm
      rfl
    · rw [AList.lookup_insert_ne hnn] at hm
      exact h n m' hm
  | taken n m hfrom hlookup hto hinbound hevents => exact herase n hinbound
  | drained n hfrom hlookup hto hinbound hevents => exact herase n hinbound
  | other hreader hinbound hevents => exact hinbound ▸ h
  | moved hlive hfrom hto hstored hdraining hdue hinbound hevents => exact hinbound ▸ h
  | acknowledged m hpc hinbound hevents => exact hinbound ▸ h
  | delivering m hfrom hbusy hto hreason hinbound hevents => exact hinbound ▸ h
  | advanced m hfrom hto hinbound hevents =>
    rw [hinbound]
    exact h
  | failed reason m hfrom hto hcore hinbound hevents => exact hinbound ▸ h
  | aborted haborted hfrom hto hinbound hevents => exact hinbound ▸ h

/-- The numbers a program counter of the reader carries have a property. -/
structure ReaderPc.Within (P : Int64 → Prop) (pc : ReaderPc) : Prop where
  held : ∀ m, pc.held = some m → P m.sequenceNumber
  due : ∀ m, pc = .due m → P m.sequenceNumber
  draining : ∀ n, pc = .draining n → P n

lemma ReaderPc.Within.mono {P P' : Int64 → Prop} {pc : ReaderPc} (h : pc.Within P)
    (hle : ∀ n, P n → P' n) : pc.Within P' :=
  ⟨fun m hm => hle _ (h.held m hm), fun m hm => hle _ (h.due m hm),
    fun n hn => hle _ (h.draining n hn)⟩

lemma ReaderPc.Within.idle {P : Int64 → Prop} {pc : ReaderPc} (hheld : pc.held = none)
    (hdue : ∀ m, pc ≠ .due m) (hdraining : ∀ n, pc ≠ .draining n) : pc.Within P :=
  ⟨fun m hm => (by simp [hheld] at hm), fun m hm => absurd hm (hdue m),
    fun n hn => absurd hn (hdraining n)⟩

/-- What the reader carries keeps to the counter. -/
lemma InboundStep.within {P P' : Int64 → Prop} (hin : InboundStep s.cont ch o)
    (hkeys : ∀ n m, s.cont.inbound.incoming.messages.lookup n = some m → m.sequenceNumber = n)
    (h : ch.reader.Within P) (hexpected : P' o.cont.inbound.expected)
    (hmono : o.cont.inbound.expected = s.cont.inbound.expected → ∀ n, P n → P' n) :
    o.channel.reader.Within P' := by
  cases hin with
  | other hreader hinbound hevents =>
    rw [hreader]
    exact h.mono (hmono (by rw [hinbound]))
  | moved hlive hfrom hto hstored hdraining hdue hinbound hevents =>
    refine ⟨fun m hm => ?_, fun m hm => ?_, fun n hn => absurd hn (hdraining n)⟩
    · rw [hto] at hm
      cases hm
    · rw [hdue m hm, ← hinbound]
      exact hexpected
  | stored m incoming hfrom hto hinsert hinbound hevents =>
    rw [hto]
    exact .idle rfl (by simp) (by simp)
  | acknowledged m hpc hinbound hevents =>
    obtain ⟨-, hto⟩ | ⟨hfrom, hto⟩ := hpc
    · rw [hto]
      exact .idle rfl (by simp) (by simp)
    · rw [hto]
      refine ⟨fun m' hm => ?_, by simp, by simp⟩
      cases hm
      exact hmono (by rw [hinbound]) _ (h.due m hfrom)
  | delivering m hfrom hbusy hto hreason hinbound hevents =>
    refine ⟨fun m' hm => ?_, fun m' hm => ?_, fun n hn => ?_⟩
    · rw [hto] at hm
      cases hm
      exact hmono (by rw [hinbound]) _ (h.held m hfrom)
    · rw [hm] at hto
      cases hto
    · rw [hn] at hto
      cases hto
  | advanced m hfrom hto hinbound hevents =>
    rw [hto]
    refine ⟨by simp [ReaderPc.held], by simp, fun n hn => ?_⟩
    cases hn
    rw [hinbound] at hexpected
    exact hexpected
  | taken n m hfrom hlookup hto hinbound hevents =>
    rw [hto]
    refine ⟨fun m' hm => ?_, by simp, by simp⟩
    cases hm
    rw [hkeys n m hlookup]
    exact hmono (by rw [hinbound]) _ (h.draining n hfrom)
  | drained n hfrom hlookup hto hinbound hevents =>
    rw [hto]
    exact .idle rfl (by simp) (by simp)
  | failed reason m hfrom hto hcore hinbound hevents =>
    rw [hto]
    exact .idle rfl (by simp) (by simp)
  | aborted haborted hfrom hto hinbound hevents =>
    rw [hto]
    exact .idle rfl (by simp) (by simp)

/-- A reader that has ended takes no part any more. -/
lemma InboundStep.of_ended (hin : InboundStep s.cont ch o) (h : ch.reader = .ended) :
    o.channel.reader = .ended ∧ o.cont.inbound = s.cont.inbound ∧ Event.advanced ∉ o.events := by
  cases hin with
  | other hreader hinbound hevents =>
    refine ⟨hreader.trans h, hinbound, fun hadv => ?_⟩
    simpa [Event.isReceipt] using hevents _ hadv
  | moved hlive hfrom hto hstored hdraining hdue hinbound hevents => exact absurd h hlive
  | acknowledged m hpc hinbound hevents =>
    obtain ⟨hfrom, -⟩ | ⟨hfrom, -⟩ := hpc <;> simp [h] at hfrom
  | delivering m hfrom hbusy hto hreason hinbound hevents => simp [h, ReaderPc.held] at hfrom
  | aborted haborted hfrom hto hinbound hevents => exact ⟨hto, hinbound, by simp [hevents]⟩
  | stored m incoming hfrom hto hinsert hinbound hevents => simp [h] at hfrom
  | advanced m hfrom hto hinbound hevents => simp [h] at hfrom
  | taken n m hfrom hlookup hto hinbound hevents => simp [h] at hfrom
  | drained n hfrom hlookup hto hinbound hevents => simp [h] at hfrom
  | failed reason m hfrom hto hcore hinbound hevents => simp [h] at hfrom

/-- After a delivery the counter advances before anything else happens on the channel. -/
lemma InboundStep.of_advancing {m : ClientMessage} (hin : InboundStep s.cont ch o)
    (h : ch.reader = .advancing m) :
    o.channel.reader = .advancing m ∨ Event.advanced ∈ o.events := by
  cases hin with
  | other hreader hinbound hevents => exact .inl (hreader.trans h)
  | advanced m' hfrom hto hinbound hevents => exact .inr (by simp [hevents])
  | moved hlive hfrom hto hstored hdraining hdue hinbound hevents =>
    simp [h, ReaderPc.held] at hfrom
  | acknowledged m' hpc hinbound hevents =>
    obtain ⟨hfrom, -⟩ | ⟨hfrom, -⟩ := hpc <;> simp [h] at hfrom
  | delivering m' hfrom hbusy hto hreason hinbound hevents => exact absurd h (hbusy m)
  | aborted haborted hfrom hto hinbound hevents =>
    simp [h, ReaderPc.held, Channel.stuck] at hfrom
  | stored m' incoming hfrom hto hinsert hinbound hevents => simp [h] at hfrom
  | taken n m' hfrom hlookup hto hinbound hevents => simp [h] at hfrom
  | drained n hfrom hlookup hto hinbound hevents => simp [h] at hfrom
  | failed reason m' hfrom hto hcore hinbound hevents => simp [h] at hfrom

lemma closedResumably_of {core core' : SessionCore}
    (hstays : ∀ r, core.closeReason = some r → core'.closeReason = some r)
    (h : core.closedResumably = true) : core'.closedResumably = true := by
  cases hr : core.closeReason with
  | none => simp [SessionCore.closedResumably, hr] at h
  | some r => simpa [SessionCore.closedResumably, hr, hstays r hr] using h

/-- A channel that was there before a resume is there after it. -/
lemma System.channel_resumed_of {config : ChannelConfig} (h : s.channels[c]? = some ch) :
    (s.resumed config).channels[c]? = some ch := by
  obtain ⟨hlt, -⟩ := List.getElem?_eq_some_iff.mp h
  rw [System.resumed, List.getElem?_append_left hlt]
  exact h

end

/-! ## The output fan-out -/

/-- The fan-out of a core was left alone, or closed together with the core. -/
def SessionCore.Quiet (core core' : SessionCore) : Prop :=
  ∃ base, Closing core base ∧ core'.fanout = base.fanout ∧ core'.closeReason = base.closeReason

/-- What an operation does to the output fan-out. -/
inductive OutputStep (ch : Channel) (o : Outcome) : Prop
  | quiet (hcore : ch.core.Quiet o.channel.core) (hevents : ∀ n p, Event.emitted n p ∉ o.events)
  | emitted (m : ClientMessage) (payload : Bytes) (hfrom : ch.reader = .delivering m)
      (hto : o.channel.reader = .advancing m)
      (hfanout : o.channel.core.fanout = ch.core.fanout.send payload)
      (hreason : o.channel.core.closeReason = ch.core.closeReason)
      (hevents : o.events = [.emitted m.sequenceNumber payload])

section

variable {env : Env} {c : ℕ} {k : Continuity} {ch : Channel} {o : Outcome} {a : Action}

lemma SessionCore.Quiet.same {core core' : SessionCore} (hfanout : core'.fanout = core.fanout)
    (hreason : core'.closeReason = core.closeReason) : core.Quiet core' :=
  ⟨core, .inl rfl, hfanout, hreason⟩

lemma SessionCore.Quiet.refl (core : SessionCore) : core.Quiet core := .same rfl rfl

lemma SessionCore.Quiet.of_closing {core core' : SessionCore} (h : Closing core core') :
    core.Quiet core' :=
  ⟨core', h, rfl, rfl⟩

lemma CoreChange.quiet {core core' : SessionCore} (h : CoreChange core core') :
    core.Quiet core' := by
  cases h with
  | none => exact .refl core
  | gate sendable => exact .same rfl rfl
  | closed exitCode detail => exact .of_closing (.inr ⟨_, rfl⟩)

lemma replySent_quiet (v : ReaderView) (after : AfterReply) :
    v.core.Quiet (replySent v after).2.core := by
  cases after <;> exact .same rfl rfl

/-- A delivery hands a payload to the fan-out, or leaves the fan-out to the core. -/
lemma readerDeliver_output {nonce : Nonce} (h : readerDeliver env nonce k ch = some o) :
    OutputStep ch o := by
  obtain ⟨m, d, v, output, hpc, hd, hcase⟩ := readerDeliver_cases h
  have hdel := deliver_cases env nonce (readerView k ch) m
  rw [hd] at hdel
  obtain ⟨p, rfl, rfl⟩ | ⟨request, events, rfl, hev, rfl⟩ := hcase
  · rw [progress_eq]
    cases hdel with
    | emitted payload hpayload => exact .emitted m payload hpc rfl rfl rfl rfl
    | opened => exact .quiet (.same rfl rfl) (by simp)
    | rejected e core handshake hcore =>
      refine .quiet ?_ (by simp)
      obtain rfl | rfl := hcore <;> exact .same rfl rfl
    | completed handshake banner => exact .quiet (.same rfl rfl) (by simp)
    | challenged payload => exact .quiet (.refl _) (by simp)
    | exited code =>
      refine .quiet ?_ (by simp)
      show ch.core.Quiet (ch.core.setExitCode code)
      unfold SessionCore.setExitCode
      split <;> exact .same rfl rfl
    | terminated code => exact .quiet (.of_closing (.inr ⟨_, rfl⟩)) (by simp)
    | ignored => exact .quiet (.refl _) (by simp)
  · cases hdel
    refine .quiet (.refl _) ?_
    obtain rfl | ⟨rfl, -⟩ := hev <;> simp

theorem reader_output (ha : a.task = .reader) (h : perform env c k ch a = some o) :
    OutputStep ch o := by
  cases a <;> simp only [Action.task, reduceCtorEq] at ha <;> simp only [perform] at h
  case readerPoll =>
    unfold readerPoll at h
    split at h <;> cases h
    exact .quiet (.refl _) (by simp)
  case readerFrame now frame =>
    obtain ⟨-, hout⟩ := readerFrame_cases h
    cases hout with
    | control core hcore => exact .quiet hcore.quiet (by simp)
    | _ => exact .quiet (.refl _) (by simp)
  case readerRoute =>
    unfold readerRoute at h
    split at h <;> cases h
    exact .quiet (.refl _) (by simp)
  case readerStore =>
    unfold readerStore at h
    split at h
    · split at h <;> cases h <;> exact .quiet (.refl _) (by simp)
    · cases h
  case readerAck stamp =>
    obtain ⟨m, queue, events, reader, hev, -, rfl⟩ := readerAck_cases h
    refine .quiet (.refl _) ?_
    obtain rfl | rfl := hev <;> simp
  case readerDeliver nonce => exact readerDeliver_output h
  case readerNegotiated =>
    obtain ⟨m, request, p, v, calls, -, -, rfl⟩ := readerNegotiated_cases h
    rw [progress_eq]
    exact .quiet (.refl _) (by simp)
  case readerReplied =>
    obtain ⟨m, after, -, ⟨-, result, v, hv, rfl⟩ | ⟨e, -, rfl⟩⟩ := readerReplied_cases h
    · have hquiet := replySent_quiet (readerView k ch) after
      rw [hv] at hquiet
      rw [progress_eq]
      exact .quiet hquiet (by simp)
    · rw [progress_eq]
      exact .quiet (.refl _) (by simp)
  case readerAdvance =>
    unfold readerAdvance at h
    split at h <;> cases h
    exact .quiet (.refl _) (by simp)
  case readerTake =>
    unfold readerTake at h
    split at h <;> cases h
    exact .quiet (.refl _) (by simp)
  case readerClose =>
    unfold readerClose at h
    split at h <;> cases h
    exact .quiet (.of_closing (.inr ⟨_, rfl⟩)) (by simp)
  case readerAbort =>
    unfold readerAbort at h
    split at h
    · cases h
      exact .quiet (.refl _) (by simp)
    · split at h <;> cases h
      exact .quiet (.refl _) (by simp)
    · split at h <;> cases h
      exact .quiet (.refl _) (by simp)
    · cases h

lemma BackgroundStep.output (h : BackgroundStep k ch o) : OutputStep ch o := by
  obtain ⟨outgoing, core, aborted, queue, writer, heartbeat, retransmit, events, -, -, hcore, -, -,
    hevents⟩ := h
  refine .quiet (.of_closing hcore) (fun n p hmem => ?_)
  obtain ⟨n', w, heq, -⟩ := hevents _ hmem
  cases heq

/-- The other tasks emit nothing. -/
theorem perform_output (h : perform env c k ch a = some o) : OutputStep ch o := by
  cases ha : a.task with
  | reader => exact reader_output ha h
  | send who =>
    have hs := send_cases ha h
    refine .quiet (hs.frame.core ▸ .refl _) ?_
    cases hs <;> simp
  | command =>
    have hf := (command_cases ha h).frame
    refine .quiet (.of_closing hf.core) (fun n p hmem => ?_)
    obtain ⟨command, cipher, heq⟩ := hf.events _ hmem
    cases heq
  | writer => exact (writer_cases ha h).output
  | heartbeat => exact (heartbeat_cases ha h).output
  | retransmit => exact (retransmit_cases ha h).output
  | handle =>
    cases handle_cases ha h with
    | accepted command hcommand halive => exact .quiet (.refl _) (by simp)
    | ended hb => exact hb.output

end

end SsmBridge
