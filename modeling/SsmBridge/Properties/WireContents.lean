import SsmBridge.Properties.Numbering

/-!
# What a numbered message carries

A call of `send_payload` encrypts the caller's bytes or leaves them as they are, builds the message
from the result under the lock, and gets a number for these wire bytes.  `issued_wired` says of every
message that was numbered, by the reader or the command task and on whichever channel, that its wire
bytes are the message with its number and payload, and that the payload is what became of the
caller's bytes.

`ChannelStep.slot_cases` says what an operation does to a call slot: it is a step of the call, wakes
it, or starts or ends it.
-/

namespace SsmBridge

open Machine

/-- The payload is the caller's bytes, encrypted with the cipher that there was, if any. -/
def Outgoing.Carries (env : Env) (out : Outgoing) : Prop :=
  match out.cipher with
  | some cipher => ∃ nonce, cipher.encrypt env.aead nonce out.plain = .ok out.payload
  | none => out.payload = out.plain

/-- The wire bytes are a message with this payload. -/
def Outgoing.IsWire (env : Env) (out : Outgoing) (wire : Bytes) : Prop :=
  ∃ stamp n, wire =
    (ClientMessage.new env.sha256 stamp .inputStreamData n out.payloadType out.payload).serialize

/-- What a call has made of its message so far. -/
def SendPc.Wired (env : Env) : SendPc → Prop
  | .locking out => out.Carries env
  | .tracking out wire | .waiting out wire _ => out.Carries env ∧ out.IsWire env wire
  | _ => True

section

variable {env : Env} {c : ℕ} {k : Continuity} {ch : Channel} {o : Outcome} {who : Sender}

lemma Sealed.carries {crypto : Option SessionCrypto} {payloadType : PayloadType} {plain : Bytes}
    {out : Outgoing} (h : Sealed env crypto payloadType plain out) : out.Carries env := by
  cases h with
  | cipher cipher nonce payload hcipher _ hpayload => exact ⟨nonce, hpayload⟩
  | plain hnone => rfl

lemma SendPc.wired_unnotified {pc pc' : SendPc} (hpc : pc'.unnotified = pc.unnotified)
    (h : pc.Wired env) : pc'.Wired env := by
  have hiff : ∀ pc : SendPc, pc.unnotified.Wired env ↔ pc.Wired env := by
    intro pc
    cases pc <;> rfl
  rw [← hiff, hpc, hiff]
  exact h

/-- A step of a call keeps to its message, and what it issues is that message. -/
lemma SendStep.wired (h : SendStep env c who k ch o) (hslot : (ch.slot who).Wired env) :
    (o.channel.slot who).Wired env ∧
      ∀ i, Event.issued i ∈ o.events → i.out.Carries env ∧ i.out.IsWire env i.wire := by
  cases h with
  | refused payloadType plain e hpc => simp [SendPc.Wired]
  | encrypted payloadType plain out hpc hout =>
    refine ⟨?_, by simp⟩
    rw [Channel.slot_setSlot]
    exact hout.carries
  | locked out stamp hpc hfree =>
    rw [hpc] at hslot
    refine ⟨?_, by simp⟩
    rw [Channel.slot_setSlot]
    exact ⟨hslot, stamp, k.sequence, rfl⟩
  | tracked out wire now hpc hroom =>
    rw [hpc] at hslot
    refine ⟨by simp [SendPc.Wired], ?_⟩
    intro i hi
    rw [List.mem_singleton] at hi
    cases hi
    exact hslot
  | parked out wire hpc =>
    rw [hpc] at hslot
    refine ⟨?_, by simp⟩
    rw [Channel.slot_setSlot]
    exact hslot
  | retried out wire notified hpc =>
    rw [hpc] at hslot
    refine ⟨?_, by simp⟩
    rw [Channel.slot_setSlot]
    exact hslot
  | gaveUp out wire notified e hpc => simp [SendPc.Wired]
  | wrote n wire hpc =>
    refine ⟨?_, by simp⟩
    rw [Channel.slot_writerQueue, Channel.slot_setSlot]
    trivial
  | failed n wire e hpc => simp [SendPc.Wired]

/-! ## Call slots -/

lemma CommandStep.slot_cases (h : CommandStep c k ch o) :
    o.channel.readerSend = ch.readerSend ∧
      (o.channel.commandSend = ch.commandSend ∨ o.channel.commandSend = .idle ∨
        ∃ payloadType plain, o.channel.commandSend = .called payloadType plain) := by
  have hstream : ∀ data, (ch.sendStreamData data).readerSend = ch.readerSend ∧
      ((ch.sendStreamData data).commandSend = .idle ∨
        ∃ payloadType plain, (ch.sendStreamData data).commandSend = .called payloadType plain) := by
    intro data
    unfold Channel.sendStreamData
    split
    · exact ⟨rfl, .inl rfl⟩
    · exact ⟨rfl, .inr ⟨_, _, rfl⟩⟩
  cases h with
  | moved pc hfrom hto hheld hlive hlive' => exact ⟨rfl, .inl rfl⟩
  | received command rest hpc hqueue => exact ⟨rfl, .inl rfl⟩
  | admittedData bytes hpc => exact ⟨(hstream bytes).1, .inr (hstream bytes).2⟩
  | admittedControl payloadType data hpc => exact ⟨rfl, .inr (.inr ⟨_, _, rfl⟩)⟩
  | chunkSent rest hpc hslot => exact ⟨(hstream rest).1, .inr (hstream rest).2⟩
  | controlSent hpc hslot => exact ⟨rfl, .inr (.inl rfl)⟩
  | failed e hpc hslot => exact ⟨rfl, .inr (.inl rfl)⟩
  | ended core hpc hcore => exact ⟨rfl, .inr (.inl rfl)⟩
  | aborted hpc hslot => exact ⟨rfl, .inr (.inl rfl)⟩

lemma ReaderStep.slot_cases (h : ReaderStep c k ch o) :
    o.channel.readerSend.unnotified = ch.readerSend.unnotified ∨ o.channel.readerSend = .idle ∨
      ∃ payloadType plain, o.channel.readerSend = .called payloadType plain := by
  cases h with
  | inward inbound ch' events hfrom hslot hkept hevents => exact .inl (by rw [hslot])
  | called payloadType payload ch' events hfrom hto hslot htype hkept hevents =>
    exact .inr (.inr ⟨_, _, hslot⟩)
  | returned result crypto ch' hfrom hslot hcrypto hkept => exact .inr (.inl hslot)
  | retired n now ch' hfrom hslot hkept => exact .inl hslot
  | aborted haborted hfrom hslot => exact .inr (.inl rfl)

/-- What an operation does to a call slot. -/
lemma ChannelStep.slot_cases (h : ChannelStep env c k ch o) (who : Sender) :
    SendStep env c who k ch o ∨ (o.channel.slot who).unnotified = (ch.slot who).unnotified ∨
      o.channel.slot who = .idle ∨
      ∃ payloadType plain, o.channel.slot who = .called payloadType plain := by
  cases h with
  | send who' h =>
    by_cases hwho : who = who'
    · exact .inl (hwho ▸ h)
    · exact .inr (.inl (by rw [h.frame.slot who hwho]))
  | command h =>
    obtain ⟨hreader, hcommand⟩ := h.slot_cases
    cases who with
    | reader => exact .inr (.inl (congrArg SendPc.unnotified hreader))
    | command => exact .inr (hcommand.imp (congrArg SendPc.unnotified) id)
  | reader h =>
    cases who with
    | reader => exact .inr h.slot_cases
    | command => exact .inr (.inl h.kept.commandSend)
  | background h =>
    cases h
    cases who <;> exact .inr (.inl rfl)
  | accepted command hcommand halive h =>
    subst h
    cases who <;> exact .inr (.inl rfl)

/-- Only a call of `send_payload` has a message numbered. -/
lemma ChannelStep.send_of_issued (h : ChannelStep env c k ch o) {i : Issued}
    (hi : Event.issued i ∈ o.events) : ∃ who, SendStep env c who k ch o := by
  cases h with
  | send who h => exact ⟨who, h⟩
  | command h => cases h <;> simp at hi
  | reader h =>
    cases h with
    | inward inbound ch' events hfrom hslot hkept hevents =>
      simpa [Event.isInbound] using hevents _ hi
    | called payloadType payload ch' events hfrom hto hslot htype hkept hevents =>
      simpa [Event.isInbound] using hevents _ hi
    | _ => simp at hi
  | background h =>
    obtain ⟨outgoing, core, aborted, queue, writer, heartbeat, retransmit, events, -, -, -, -, -,
      hevents⟩ := h
    obtain ⟨n, w, heq, -⟩ := hevents _ hi
    cases heq
  | accepted command hcommand halive h =>
    subst h
    simp at hi

/-- All calls on a channel keep to their messages. -/
def Channel.Wired (env : Env) (ch : Channel) : Prop := ∀ who, (ch.slot who).Wired env

lemma Channel.Wired.open (config : ChannelConfig) : (Channel.open config).Wired env := by
  intro who
  cases who <;> trivial

lemma Channel.Wired.step (hch : ch.Wired env) (h : ChannelStep env c k ch o) :
    o.channel.Wired env := by
  intro who
  obtain hsend | hsame | hidle | ⟨payloadType, plain, hcalled⟩ := h.slot_cases who
  · exact (hsend.wired (hch who)).1
  · exact SendPc.wired_unnotified hsame (hch who)
  · rw [hidle]
    trivial
  · rw [hcalled]
    trivial

end

/-! ## Runs -/

lemma System.mem_issued {s : System} {i : Issued} : i ∈ s.issued ↔ Event.issued i ∈ s.events := by
  simp only [System.issued, List.mem_filterMap]
  constructor
  · rintro ⟨e, he, heq⟩
    cases e with
    | issued j =>
      cases heq
      exact he
    | _ => cases heq
  · intro he
    exact ⟨_, he, rfl⟩

/-- Every message that was numbered is on the wire as what the call made of it. -/
theorem issued_wired {env : Env} {config : ChannelConfig} {s : System}
    (hs : Session env config s) :
    ∀ i ∈ s.issued, i.out.Carries env ∧ i.out.IsWire env i.wire := by
  refine Reachable.invariant_with
    (P := fun s => ∀ i ∈ s.issued, i.out.Carries env ∧ i.out.IsWire env i.wire)
    (Q := fun s => s.Each (Channel.Wired env)) ?_ ?_ ?_ hs
  · intro s hs
    exact channels_invariant .open (fun c k ch o hch h => hch.step h) hs
  · intro i hi
    simp [System.mem_issued, System.start, System.events] at hi
  · intro s l s' hwired ih hstep _
    obtain ⟨c, a, ch, o, -, hch, ho, rfl⟩ | ⟨config', -, -, rfl⟩ := System.step_cases hstep
    · intro i hi
      rw [System.mem_issued, System.events_after, List.mem_append] at hi
      obtain hi | hi := hi
      · exact ih i (System.mem_issued.mpr hi)
      · obtain ⟨who, hsend⟩ := (perform_cases ho).send_of_issued hi
        exact (hsend.wired (hwired c ch hch who)).2 i hi
    · exact ih

/-- The number in its header is the one it was given. -/
theorem exists_wire_eq {env : Env} {config : ChannelConfig} {s : System}
    (hs : Session env config s) {i : Issued} (hi : i ∈ s.issued) :
    ∃ stamp, i.wire = (ClientMessage.new env.sha256 stamp .inputStreamData i.sequence
      i.out.payloadType i.out.payload).serialize := by
  obtain ⟨-, stamp, n, hwire⟩ := issued_wired hs i hi
  have hnumber : wireNumber i.wire = n := by rw [hwire, wireNumber_new]
  have hheader := System.wireNumber_issued hs hi
  exact ⟨stamp, by rw [hwire, ← hheader, hnumber]⟩

end SsmBridge
