import SsmBridge.Properties.CleanComplete
import SsmBridge.Properties.ForwardLimits
import SsmBridge.Properties.Traffic
import Mathlib.Data.List.Infix

/-!
# The bytes of a forwarded connection

From the local client to the agent and back.  Outbound, what the copy loop of a connection has
written is what the frames on the queue carry for its stream, and the session is handed these frames
in order; inbound, what the copy loop has read is what the stream has returned, which is what the
session's output holds for its id.

`Offered` ties the copies to the streams and `PortForwarder.Handed` the queue to the session;
`PortForwarder.Carries` is the invariant of a run.  Ids must not have come round: from 2 ^ 31
streams on, two connections may have the same.
-/

namespace SsmBridge.Smux

open Machine StreamDecoder

namespace Forward

open CopyLoop

/-! ## From the client to the session -/

/-- What was handed to the session is the front of what was queued; while `send_task` runs, the rest
is in its hand or on the queue. -/
structure PortForwarder.Handed (f : PortForwarder) : Prop where
  upTo : f.handed <+: f.queued.map Frame.encode
  rest : f.mux.send.running = true →
    f.handed ++ (f.mux.send.inHand ++ f.mux.inner.frames).map Frame.encode =
      f.queued.map Frame.encode
  short : ∀ frame ∈ f.queued, frame.payload.length ≤ maxFramePayload

namespace PortForwarder

variable {f f' : PortForwarder}

/-- Frames are queued, and `send_task` is left alone. -/
lemma Handed.queue (h : f.Handed) (hspares : f.mux.SparesFrames f'.mux)
    (hqueued : f'.queued = f.queued ++ f.mux.inner.added f'.mux.inner)
    (hshort : ∀ frame ∈ f.mux.inner.added f'.mux.inner, frame.payload.length ≤ maxFramePayload)
    (hhanded : f'.handed = f.handed) : f'.Handed := by
  obtain ⟨hsend, hframes⟩ := hspares
  refine ⟨?_, fun hrun => ?_, fun frame hframe => ?_⟩
  · rw [hhanded, hqueued, List.map_append]
    exact h.upTo.trans (List.prefix_append _ _)
  · rw [hsend] at hrun
    have hmap : (f.queued ++ f.mux.inner.added f'.mux.inner).map Frame.encode =
        f.queued.map Frame.encode ++ (f.mux.inner.added f'.mux.inner).map Frame.encode :=
      List.map_append
    rw [hhanded, hsend, hframes, hqueued, hmap, ← h.rest hrun]
    simp
  · rw [hqueued] at hframe
    rcases List.mem_append.mp hframe with hframe | hframe
    · exact h.short frame hframe
    · exact hshort frame hframe

lemma Handed.send {m : Mux} (h : f.Handed) (hstep : sendStep f.mux = some m)
    (hadded : f.mux.inner.added m.inner = []) :
    ({ f with mux := m, queued := f.queued ++ f.mux.inner.added m.inner
              handed := f.handed ++ m.commands.drop f.mux.commands.length } :
      PortForwarder).Handed := by
  obtain ⟨hrun, hstop⟩ := hands_of_sendStep hstep
  rw [hadded, List.append_nil]
  refine ⟨?_, fun hrunning => ?_, h.short⟩
  · cases hrunning : m.send.running with
    | false =>
      rw [hstop hrunning, List.append_nil]
      exact h.upTo
    | true =>
      obtain ⟨hbefore, hmove⟩ := hrun hrunning
      rw [← h.rest hbefore, ← hmove, ← List.append_assoc]
      exact List.prefix_append _ _
  · obtain ⟨hbefore, hmove⟩ := hrun hrunning
    rw [List.append_assoc]
    dsimp only
    rw [hmove]
    exact h.rest hbefore

end PortForwarder

/-! ## What a step does to the copies of a connection -/

/-- What a step of a connection does to its copies: outbound they give what `poll_write` reports as
written, inbound they take what `poll_read` returns. -/
structure Connection.Copies (σ : Inner) (c : Connection) (call : Option Label) (c' : Connection) :
    Prop where
  outbound : c'.outbound = c.outbound ∨ Moves copyBufSize c.outbound c'.outbound
  inbound : c'.inbound = c.inbound ∨ Moves copyBufSize c.inbound c'.inbound
  given : c'.outbound.given =
    c.outbound.given ++ (call.elim [] (reported σ)).flatMap Written.bytes
  target : ∀ w ∈ call.elim [] (reported σ), c.pc = .streaming w.stream
  taken : c'.inbound.taken =
    c.inbound.taken ++ c.stream?.elim [] (fun i => call.elim [] (returnedBy σ i))
  reads : ∀ i, c.stream? ≠ some i → call.elim [] (returnedBy σ i) = []

section

variable {σ : Inner} {shutdown : Bool} {c c' : Connection} {a : Act} {i size : ℕ}

lemma returnedBy_of_ne {j : ℕ} (h : j ≠ i) : returnedBy σ i (.pollRead j size) = [] := by
  simp [returnedBy, h]

lemma returnedBy_of_pending (h : readResult σ i size = some .pending) :
    returnedBy σ i (.pollRead i size) = [] := by
  simp [returnedBy, h]

lemma returnedBy_of_ready {chunk : Bytes} (h : readResult σ i size = some (.ready chunk)) :
    returnedBy σ i (.pollRead i size) = chunk := by
  simp [returnedBy, h]

/-- A step that neither writes to the stream nor reads from it. -/
lemma copies_of_quiet {call : Option Label}
    (hreported : call.elim [] (reported σ) = [])
    (hreturned : ∀ i, call.elim [] (returnedBy σ i) = [])
    (houtbound : c'.outbound = c.outbound ∨
      Moves copyBufSize c.outbound c'.outbound ∧ c'.outbound.given = c.outbound.given)
    (hinbound : c'.inbound = c.inbound ∨
      Moves copyBufSize c.inbound c'.inbound ∧ c'.inbound.taken = c.inbound.taken) :
    c.Copies σ call c' where
  outbound := houtbound.imp_right And.left
  inbound := hinbound.imp_right And.left
  given := by
    rw [hreported, List.flatMap_nil, List.append_nil]
    rcases houtbound with heq | ⟨-, hgiven⟩
    · rw [heq]
    · exact hgiven
  target w hw := by
    rw [hreported] at hw
    cases hw
  taken := by
    have hnone : c.stream?.elim [] (fun i => call.elim [] (returnedBy σ i)) = [] := by
      cases c.stream? with
      | none => rfl
      | some i => exact hreturned i
    rw [hnone, List.append_nil]
    rcases hinbound with heq | ⟨-, htaken⟩
    · rw [heq]
    · exact htaken
  reads i _ := hreturned i

/-- A `poll_write` that reports nothing as written. -/
lemma reported_of_result {data : Bytes}
    (h : ∀ n, writeResult σ i data ≠ some (.written n)) : reported σ (.pollWrite i data) = [] := by
  simp only [reported]

theorem copies_of_takes (h : c.Takes σ shutdown a) : c.Copies σ a.call a.next := by
  cases h with
  | refused | ends | admitted | numbered | registers | withdraws | leaves | removes | releases
  | shutdownWaits | throttled | readParks =>
    exact copies_of_quiet rfl (fun _ => rfl) (.inl rfl) (.inl rfl)
  | announces =>
    refine copies_of_quiet ?_ (fun i => ?_) (.inl rfl) (.inl rfl) <;>
    · dsimp only [Option.elim]
      split <;> rfl
  | outbound _ _ _ _ hmoves hgiven =>
    exact copies_of_quiet rfl (fun _ => rfl) (.inr ⟨hmoves, hgiven⟩) (.inl rfl)
  | inbound _ _ _ _ hmoves htaken =>
    exact copies_of_quiet rfl (fun _ => rfl) (.inl rfl) (.inr ⟨hmoves, htaken⟩)
  | writeWaits _ _ _ _ hresult =>
    exact copies_of_quiet (reported_of_result (by simp [hresult])) (fun _ => rfl) (.inl rfl)
      (.inl rfl)
  | writeFails _ _ _ _ hresult hfail =>
    refine copies_of_quiet (reported_of_result (by simp [hresult])) (fun _ => rfl)
      (.inr ⟨moves_of_fail hfail, ?_⟩) (.inl rfl)
    rw [(Copy.fail_cases hfail).2]
  | shutsDown _ _ _ _ _ hshut =>
    refine copies_of_quiet rfl (fun _ => rfl) (.inr ⟨moves_of_shut hshut, ?_⟩) (.inl rfl)
    rw [(Copy.shut_cases hshut).2]
  | readEnds _ _ _ _ hend =>
    refine copies_of_quiet rfl (fun _ => rfl) (.inl rfl) (.inr ⟨moves_of_sourceEnd hend, ?_⟩)
    rw [(Copy.sourceEnd_cases hend).2]
  | @writes i n st o hpc _ _ _ hresult hdrain =>
    have hreported : reported σ (.pollWrite i c.outbound.held) = [⟨i, c.outbound.held.take n⟩] := by
      simp [reported, hresult]
    obtain ⟨-, -, -, rfl⟩ := Copy.drain_cases hdrain
    refine ⟨.inr (moves_of_drain hdrain), .inl rfl, ?_, ?_, ?_, fun _ _ => rfl⟩
    · simp [hreported]
    · simp [hreported, hpc]
    · simp [Connection.stream?, hpc, returnedBy]
  | @readWaits i st hpc _ _ _ _ hresult =>
    refine copies_of_quiet rfl (fun j => ?_) (.inl rfl) (.inl rfl)
    by_cases hj : i = j
    · subst hj
      exact returnedBy_of_pending hresult
    · exact returnedBy_of_ne hj
  | @reads i chunk st n hpc _ _ _ hresult hreceive =>
    obtain ⟨hmoves, htaken, -⟩ := Copy.receive_cases hreceive
    refine ⟨.inl rfl, .inr hmoves, by simp [reported], by simp [reported], ?_, fun j hj => ?_⟩
    · simp [Connection.stream?, hpc, returnedBy_of_ready hresult, htaken]
    · refine returnedBy_of_ne ?_
      rintro rfl
      exact hj (by simp [Connection.stream?, hpc])

end

/-! ## The bytes of a connection -/

/-- What a connection has given, and what it has taken, is what went over its stream. -/
structure Offered (connections : List Connection) (σ : Inner) (queued : List Frame) : Prop where
  given : ∀ c ∈ connections,
    c.outbound.given = c.stream?.elim [] (fun i => pushed (idOf i) queued)
  taken : ∀ c ∈ connections, c.inbound.taken = c.stream?.elim [] σ.returnedAt
  fresh : ∀ i, σ.streams.length ≤ i → i < idCount → pushed (idOf i) queued = []
  sound : ∀ c ∈ connections, c.outbound.Sound copyBufSize ∧ c.inbound.Sound copyBufSize

section

variable {σ σ' : Inner} {c c' : Connection} {l : Label} {i : ℕ} {shutdown : Bool} {a : Act}

/-- The copies of a connection stay sound. -/
lemma Connection.Copies.sound {call : Option Label} (h : c.Copies σ call c')
    (hsound : c.outbound.Sound copyBufSize ∧ c.inbound.Sound copyBufSize) :
    c'.outbound.Sound copyBufSize ∧ c'.inbound.Sound copyBufSize := by
  constructor
  · rcases h.outbound with heq | hmoves
    · exact heq ▸ hsound.1
    · exact hmoves.sound hsound.1
  · rcases h.inbound with heq | hmoves
    · exact heq ▸ hsound.2
    · exact hmoves.sound hsound.2

lemma stream_of_streaming (h : c.pc = .streaming i) : c.stream? = some i := by
  simp [Connection.stream?, h]

/-- What a connection puts on the queue carries the id of its stream. -/
lemma pushed_of_call (hcopies : c.Copies σ (some l) c') (hn : σ.Numbered)
    (hstep : σ.step l = some σ') (hi : c.stream? = some i) :
    pushed (idOf i) (σ.added σ') = (reported σ l).flatMap Written.bytes := by
  rw [pushed_added hn hstep]
  refine List.flatMap_congr fun w hw => ?_
  have hw : w.stream = i :=
    Option.some_inj.mp ((stream_of_streaming (hcopies.target w hw)).symm.trans hi)
  simp [hw]

/-- It carries no other id. -/
lemma pushed_of_call_other (hcopies : c.Copies σ (some l) c') (hn : σ.Numbered)
    (hstep : σ.step l = some σ') (hi : c.stream? ≠ some i) (hlt : i < idCount)
    (hc : ∀ j, c.stream? = some j → j < idCount) : pushed (idOf i) (σ.added σ') = [] := by
  rw [pushed_added hn hstep, List.flatMap_eq_nil_iff]
  intro w hw
  have hw := stream_of_streaming (hcopies.target w hw)
  rw [if_neg]
  intro hid
  exact hi (idOf_inj (hc _ hw) hlt hid ▸ hw)

/-- A connection without a stream writes nothing. -/
lemma reported_of_call (hcopies : c.Copies σ (some l) c') (hnone : c.stream? = none) :
    reported σ l = [] := by
  rw [List.eq_nil_iff_forall_not_mem]
  intro w hw
  have hw := stream_of_streaming (hcopies.target w hw)
  rw [hnone] at hw
  cases hw

/-- A step leaves a connection with the stream it had, or with one that was just numbered. -/
lemma stream_of_takes (h : c.Takes σ shutdown a) :
    a.next.stream? = c.stream? ∨
      c.stream? = none ∧ a.next.stream? = some σ.streams.length ∧ a.call = some .openNumber := by
  cases h with
  | refused hpc | admitted hpc => exact .inl (by simp [Connection.stream?, hpc])
  | numbered hpc => exact .inr ⟨by simp [Connection.stream?, hpc], rfl, rfl⟩
  | ends hpc => exact .inl (by simp [Connection.stream?, hpc])
  | _ => exact .inl rfl

lemma length_openNumber (h : σ.step .openNumber = some σ') :
    σ'.streams.length = σ.streams.length + 1 := by
  cases Smux.takes_of_step h
  simp

lemma Owned.stream_lt {limit permits admitted : ℕ} {cs : List Connection}
    (h : Owned limit permits cs σ.phases admitted) (hc : c ∈ cs) (hi : c.stream? = some i) :
    i < σ.streams.length := by
  obtain ⟨p, hp, -⟩ := h.stream c hc i hi
  have hlt := (List.getElem?_eq_some_iff.mp hp).1
  simpa [Inner.phases] using hlt

end

namespace Offered

variable {σ σ' : Inner} {cs : List Connection} {queued : List Frame} {c : Connection} {a : Act}
  {l : Label} {shutdown : Bool} {limit permits admitted k : ℕ}

lemma new : Offered [] Inner.new [] where
  given c hc := by cases hc
  taken c hc := by cases hc
  fresh i _ _ := rfl
  sound c hc := by cases hc

/-- A step that is no connection's. -/
lemma aside (h : Offered cs σ queued) (hn : σ.Numbered) (hl : l.byCaller = false)
    (hstep : σ.step l = some σ') : Offered cs σ' (queued ++ σ.added σ') := by
  have hpushed : ∀ id, pushed id (queued ++ σ.added σ') = pushed id queued := by
    intro id
    rw [pushed_append, pushed_added hn hstep, reported_of_byCaller hl]
    exact List.append_nil _
  have hreturned : σ'.returnedAt = σ.returnedAt := by
    funext i
    rw [returnedAt_of_step hstep, returnedBy_of_byCaller hl, List.append_nil]
  refine ⟨fun c hc => ?_, fun c hc => ?_, fun i hi hid => ?_, h.sound⟩
  · simp only [hpushed]
    exact h.given c hc
  · rw [hreturned]
    exact h.taken c hc
  · rw [hpushed]
    exact h.fresh i ((moved_of_step hstep).length_le.trans hi) hid

lemma accept (h : Offered cs σ queued) : Offered (cs ++ [.new]) σ queued := by
  have hcases : ∀ c ∈ cs ++ [Connection.new], c ∈ cs ∨ c = .new := by simp
  refine ⟨fun c hc => ?_, fun c hc => ?_, h.fresh, fun c hc => ?_⟩ <;>
    rcases hcases c hc with hc | rfl
  · exact h.given c hc
  · rfl
  · exact h.taken c hc
  · rfl
  · exact h.sound c hc
  · exact ⟨.new, .new⟩

/-- A connection moves; what it sends and reads goes over its own stream. -/
lemma settle {c' : Connection} {queued' : List Frame} (h : Offered cs σ queued)
    (hgiven : c'.outbound.given = c'.stream?.elim [] (fun i => pushed (idOf i) queued'))
    (htaken : c'.inbound.taken = c'.stream?.elim [] σ'.returnedAt)
    (hsound : c'.outbound.Sound copyBufSize ∧ c'.inbound.Sound copyBufSize)
    (hothers : ∀ k' d i, k' ≠ k → cs[k']? = some d → d.stream? = some i →
      pushed (idOf i) queued' = pushed (idOf i) queued ∧ σ'.returnedAt i = σ.returnedAt i)
    (hfresh : ∀ i, σ'.streams.length ≤ i → i < idCount → pushed (idOf i) queued' = []) :
    Offered (cs.set k c') σ' queued' := by
  have hcases : ∀ d ∈ cs.set k c', d = c' ∨ ∃ k', k' ≠ k ∧ cs[k']? = some d := by
    intro d hd
    obtain ⟨k', hk'⟩ := List.mem_iff_getElem?.mp hd
    rcases getElem?_of_set hk' with ⟨-, rfl⟩ | ⟨hne, hd⟩
    · exact .inl rfl
    · exact .inr ⟨k', hne, hd⟩
  refine ⟨fun d hd => ?_, fun d hd => ?_, hfresh, fun d hd => ?_⟩ <;>
    rcases hcases d hd with rfl | ⟨k', hne, hd⟩
  · exact hgiven
  · rw [h.given d (List.mem_of_getElem? hd)]
    cases hi : d.stream? with
    | none => rfl
    | some i => exact (hothers k' d i hne hd hi).1.symm
  · exact htaken
  · rw [h.taken d (List.mem_of_getElem? hd)]
    cases hi : d.stream? with
    | none => rfl
    | some i => exact (hothers k' d i hne hd hi).2.symm
  · exact hsound
  · exact h.sound d (List.mem_of_getElem? hd)

/-- **A step of a connection sends what it gives and takes what it reads.** The frames it adds to
the queue carry the bytes its outbound copy gives, and they carry the id of its stream only, so that
what the others have queued is unchanged. -/
theorem called (h : Offered cs σ queued) (howned : Owned limit permits cs σ.phases admitted)
    (hn : σ.Numbered) (hc : cs[k]? = some c) (htakes : c.Takes σ shutdown a)
    (hcall : a.call = some l) (hstep : σ.step l = some σ') (hids : σ'.streams.length ≤ idCount) :
    Offered (cs.set k a.next) σ' (queued ++ σ.added σ') := by
  have hmem := List.mem_of_getElem? hc
  have hlength : σ.streams.length ≤ σ'.streams.length := (moved_of_step hstep).length_le
  have hlt : ∀ d ∈ cs, ∀ i, d.stream? = some i → i < idCount := fun d hd i hi =>
    (howned.stream_lt hd hi).trans_le (hlength.trans hids)
  have hcopies := hcall ▸ copies_of_takes htakes
  have hpushed : ∀ i, i < idCount → c.stream? ≠ some i →
      pushed (idOf i) (queued ++ σ.added σ') = pushed (idOf i) queued := by
    intro i hi hne
    rw [pushed_append, pushed_of_call_other hcopies hn hstep hne hi (hlt c hmem), List.append_nil]
  have hreturned : ∀ i, c.stream? ≠ some i → σ'.returnedAt i = σ.returnedAt i := by
    intro i hi
    rw [returnedAt_of_step hstep, show returnedBy σ i l = [] from hcopies.reads i hi,
      List.append_nil]
  refine h.settle ?_ ?_ (hcopies.sound (h.sound c hmem)) (fun k' d i hk hd hi => ?_)
    (fun i hi hid => ?_)
  · rw [hcopies.given, h.given c hmem]
    rcases stream_of_takes htakes with hsame | ⟨hnone, hsome, hnumber⟩
    · rw [hsame]
      cases hi : c.stream? with
      | none => simp [reported_of_call hcopies hi]
      | some i => simp [pushed_append, pushed_of_call hcopies hn hstep hi]
    · obtain rfl : l = .openNumber := Option.some_inj.mp (hcall.symm.trans hnumber)
      have hnew := length_openNumber hstep
      rw [hnone, hsome]
      exact ((hpushed _ (by omega) (by simp [hnone])).trans (h.fresh _ le_rfl (by omega))).symm
  · rw [hcopies.taken, h.taken c hmem]
    rcases stream_of_takes htakes with hsame | ⟨hnone, hsome, hnumber⟩
    · rw [hsame]
      cases hi : c.stream? with
      | none => rfl
      | some i => exact (returnedAt_of_step hstep).symm
    · rw [hnone, hsome]
      refine Eq.symm ((hreturned _ (by simp [hnone])).trans ?_)
      simp [Inner.returnedAt]
  · have hother : c.stream? ≠ some i := fun hci => hk (howned.apart k' k d c i hd hc hi hci)
    exact ⟨hpushed i (hlt d (List.mem_of_getElem? hd) i hi) hother, hreturned i hother⟩
  · have hother : c.stream? ≠ some i := by
      intro hci
      have hold := howned.stream_lt hmem hci
      omega
    exact (hpushed i hid hother).trans (h.fresh i (hlength.trans hi) hid)

/-- A step that leaves the stream alone. -/
lemma moved (h : Offered cs σ queued) (hc : cs[k]? = some c) (htakes : c.Takes σ shutdown a)
    (hcall : a.call = none) : Offered (cs.set k a.next) σ queued := by
  have hmem := List.mem_of_getElem? hc
  have hcopies := hcall ▸ copies_of_takes htakes
  have hstream : a.next.stream? = c.stream? := by
    rcases stream_of_takes htakes with hsame | ⟨-, -, hnumber⟩
    · exact hsame
    · rw [hcall] at hnumber
      cases hnumber
  refine h.settle ?_ ?_ (hcopies.sound (h.sound c hmem)) (fun _ _ _ _ _ _ => ⟨rfl, rfl⟩) h.fresh
  · rw [hcopies.given, h.given c hmem, hstream]
    exact List.append_nil _
  · rw [hcopies.taken, h.taken c hmem, hstream]
    cases c.stream? with
    | none => rfl
    | some i => exact List.append_nil _

end Offered

/-! ## Runs -/

/-- The invariant of the forwarder as a carrier of bytes. -/
structure PortForwarder.Carries (f : PortForwarder) : Prop where
  owns : f.Owns
  inner : Reachable Inner.step free .new f.mux.inner
  flow : f.mux.Flow
  handed : f.Handed
  offered : f.mux.inner.streams.length ≤ idCount →
    Offered f.connections f.mux.inner f.queued

namespace PortForwarder.Carries

variable {f f' : PortForwarder}

lemma background {l : MuxLabel} (h : f.Carries) (howns : f'.Owns) (hl : f.background l = true)
    (hact : f.act l = some f') : f'.Carries := by
  obtain ⟨m, hm, -, heffect⟩ := background_cases hl hact
  have hf' : f' = { f with
      mux := m
      queued := f.queued ++ f.mux.inner.added m.inner
      handed := f.handed ++ if l = .send then m.commands.drop f.mux.commands.length else [] } := by
    simp only [PortForwarder.act, hm, Option.map_some, Option.some.injEq] at hact
    exact hact.symm
  have hemit : ∀ chunk, l = .emit chunk → f.mux.output.isSome = true := by
    rintro chunk rfl
    exact hl
  refine ⟨howns, ?_, ?_, ?_, fun hids => ?_⟩
  · rw [hf']
    rcases heffect with hsame | ⟨l', -, hstep⟩
    · exact hsame ▸ h.inner
    · exact h.inner.tail hstep trivial
  · rw [hf']
    exact h.flow.step hemit hm
  · by_cases hsend : l = .send
    · subst hsend
      rw [hf', if_pos rfl]
      exact h.handed.send hm (added_of_sendStep hm)
    · rw [if_neg hsend, List.append_nil] at hf'
      refine h.handed.queue ?_ (by rw [hf']) ?_ (by rw [hf'])
      · rw [hf']
        exact sparesFrames_of_step hsend hm
      · rw [hf']
        rcases heffect with hsame | ⟨l', -, hstep⟩
        · simp [added_of_eq (congrArg Inner.frames hsame)]
        · exact length_added hstep
  · rw [hf'] at hids ⊢
    rcases heffect with hsame | ⟨l', hl', hstep⟩
    · dsimp only at hids ⊢
      rw [hsame] at hids ⊢
      rw [added_of_eq rfl, List.append_nil]
      exact h.offered hids
    · have hlength : f.mux.inner.streams.length ≤ m.inner.streams.length :=
        (moved_of_step hstep).length_le
      exact (h.offered (hlength.trans hids)).aside (Inner.Numbered.of_reachable h.inner) hl' hstep

lemma called {k : ℕ} {c : Connection} {a : Act} {l : Label} (h : f.Carries)
    (howns : (f'.settle k a.next).Owns) (hc : f.connections[k]? = some c)
    (htakes : c.Takes f.mux.inner f.shutdown a) (hcall : a.call = some l)
    (hact : f.act (.caller l) = some f') : (f'.settle k a.next).Carries := by
  obtain ⟨σ', hcaller, hstep, hf'⟩ := called_cases hact
  have hl : l ≠ .frameTaken ∧ l ≠ .framesDropped := by
    constructor <;>
    · rintro rfl
      cases hcaller
  subst hf'
  refine ⟨howns, h.inner.tail hstep trivial, ?_, ?_, fun hids => ?_⟩
  · refine h.flow.act (routes_of_byCaller hcaller) ?_
    simp only [Mux.act, hstep, Option.map_some]
    rfl
  · exact h.handed.queue ⟨rfl, frames_of_step hl hstep⟩ rfl (length_added hstep) rfl
  · have hlength : f.mux.inner.streams.length ≤ σ'.streams.length :=
      (moved_of_step hstep).length_le
    exact (h.offered (hlength.trans hids)).called h.owns (Inner.Numbered.of_reachable h.inner) hc
      htakes hcall hstep hids

theorem step {l : ForwardLabel} (h : f.Carries) (hstep : f.step l = some f') : f'.Carries := by
  have howns := (h.owns.step hstep).1
  cases moves_of_step hstep with
  | main =>
    exact ⟨howns, h.inner, h.flow, ⟨h.handed.upTo, h.handed.rest, h.handed.short⟩, h.offered⟩
  | accepted =>
    exact ⟨howns, h.inner, h.flow, ⟨h.handed.upTo, h.handed.rest, h.handed.short⟩,
      fun hids => (h.offered hids).accept⟩
  | background hl hact => exact h.background howns hl hact
  | called hc htakes hcall hact => exact h.called howns hc htakes hcall hact
  | moved hc htakes hcall =>
    exact ⟨howns, h.inner, h.flow, ⟨h.handed.upTo, h.handed.rest, h.handed.short⟩,
      fun hids => (h.offered hids).moved hc htakes hcall⟩

lemma of_reachable {config : PortForwardConfig} {type : SessionType} {timeout capacity : ℕ}
    (h : Reachable PortForwarder.step free (.new config type timeout capacity) f) : f.Carries := by
  have hhanded : (PortForwarder.new config type timeout capacity).Handed :=
    ⟨List.nil_prefix, fun _ => rfl, by simp [PortForwarder.new]⟩
  exact h.invariant ⟨Owned.new _, .refl, .new _ _, hhanded, fun _ => .new⟩
    fun _ _ _ hf hstep _ => hf.step hstep

end PortForwarder.Carries

/-- The frames of any front of what was handed over. -/
lemma PortForwarder.Handed.items_prefix {f : PortForwarder} (h : f.Handed) {received : Bytes}
    (hreceived : received <+: f.handed.flatten) : items decoder received <+: f.queued := by
  obtain ⟨rest, hrest⟩ := h.upTo
  obtain ⟨more, hmore⟩ := hreceived
  have hqueued : f.queued.flatMap Frame.encode = received ++ (more ++ rest.flatten) := by
    rw [← List.append_assoc, hmore, ← List.flatten_append, hrest, List.flatMap_def]
  have hitems : items decoder (f.queued.flatMap Frame.encode) = f.queued :=
    items_flatMap (fun frame hframe rest => decodeFrame_encode hframe rest) rfl h.short
  rw [← hitems, hqueued]
  exact StreamDecoder.items_prefix received _

/-- **What the agent can decode of a stream is what the client sent, in order.** And once
`send_task` has nothing left to do it is all that the outbound copy has written. -/
theorem agent_receives_what_was_sent {config : PortForwardConfig} {type : SessionType}
    {timeout capacity k i : ℕ} {f : PortForwarder} {c : Connection}
    (h : Reachable PortForwarder.step free (.new config type timeout capacity) f)
    (hids : f.mux.inner.streams.length ≤ idCount) (hc : f.connections[k]? = some c)
    (hi : c.stream? = some i) :
    (∀ received, received <+: f.handed.flatten →
      pushed (idOf i) (items decoder received) <+: c.outbound.taken) ∧
    (f.mux.send.running = true → f.mux.send.inHand = [] → f.mux.inner.frames = [] →
      pushed (idOf i) (items decoder f.handed.flatten) = c.outbound.given) ∧
    (c.outbound.stage = .finished → c.outbound.given = c.outbound.taken) := by
  have hcarries := PortForwarder.Carries.of_reachable h
  have hmem := List.mem_of_getElem? hc
  have hoffered := hcarries.offered hids
  have hsound := (hoffered.sound c hmem).1
  have hgiven : c.outbound.given = pushed (idOf i) f.queued := by
    rw [hoffered.given c hmem, hi]
    rfl
  refine ⟨fun received hreceived => ?_, fun hrun hhand hframes => ?_, fun hstage => ?_⟩
  · have hitems := hcarries.handed.items_prefix hreceived
    exact (hgiven ▸ pushed_prefix hitems).trans hsound.given_prefix
  · have hall := hcarries.handed.rest hrun
    rw [hhand, hframes, List.append_nil, List.map_nil, List.append_nil] at hall
    have hitems : items decoder f.handed.flatten = f.queued := by
      rw [hall, ← List.flatMap_def]
      exact items_flatMap (fun frame hframe rest => decodeFrame_encode hframe rest) rfl
        hcarries.handed.short
    rw [hitems, hgiven]
  · exact hsound.given_eq (.inr hstage)

/-- Two clients send at the same time. -/
theorem agent_receives_what_was_sent_two :
    ∃ (f : PortForwarder) (c c' : Connection), f.connections = [c, c'] ∧
      c.outbound.taken = [1, 2, 3] ∧ c'.outbound.taken = [9] ∧
      (∀ received, received <+: f.handed.flatten →
        pushed (idOf 0) (items decoder received) <+: c.outbound.taken) ∧
      pushed (idOf 0) (items decoder f.handed.flatten) = c.outbound.given ∧
      pushed (idOf 1) (items decoder f.handed.flatten) = c'.outbound.given := by
  let opened (k : ℕ) : List ForwardLabel := List.replicate 4 (.connection k .advance)
  let ls : List ForwardLabel := List.flatten
    [[.setSendable true, .forward, .forward, .forward, .accept, .accept], opened 0, opened 1,
      [.connection 0 (.receive [1, 2, 3]), .connection 1 (.receive [9]), .connection 1 .write,
        .connection 0 .write], List.replicate 24 (.mux .send)]
  have hrun : (run PortForwarder.step (.new ⟨2, false⟩ .port 30 64) ls).any (fun f =>
      decide (f.connections.map (fun c => (c.stream?, c.outbound.taken)) =
        [(some 0, [1, 2, 3]), (some 1, [9])]) &&
      decide (f.mux.send = .enabling ∧ f.mux.inner.frames = [] ∧
        f.mux.inner.streams.length = 2)) = true := by decide +kernel
  obtain ⟨f, hf, hp⟩ := exists_of_run hrun
  simp only [Bool.and_eq_true, decide_eq_true_eq] at hp
  obtain ⟨hconnections, hsend, hframes, hlength⟩ := hp
  obtain ⟨c, rest, hcs, hc, hrest⟩ := List.map_eq_cons_iff.mp hconnections
  obtain ⟨c', hrest, hc'⟩ := List.map_eq_singleton_iff.mp hrest
  simp only [Prod.mk.injEq] at hc hc'
  rw [hrest] at hcs
  have hids : f.mux.inner.streams.length ≤ idCount := by
    rw [hlength]
    decide
  obtain ⟨hfront, hall, -⟩ := agent_receives_what_was_sent (k := 0) hf hids (by rw [hcs]; rfl) hc.1
  obtain ⟨-, hall', -⟩ := agent_receives_what_was_sent (k := 1) hf hids (by rw [hcs]; rfl) hc'.1
  have hrunning : f.mux.send.running = true := by rw [hsend]; rfl
  have hhand : f.mux.send.inHand = [] := by rw [hsend]; rfl
  exact ⟨f, c, c', hcs, hc.2, hc'.2, hfront, hall hrunning hhand hframes,
    hall' hrunning hhand hframes⟩

lemma addressed_mono {st : SmuxStream} {routed routed' : List Frame} (h : routed <+: routed') :
    st.addressed routed <+: st.addressed routed' :=
  ((List.IsPrefix.drop h _).filter _).map _

/-- **What the client is given is what the agent sent to its stream, in order.** Once the stream is
at its end and the inbound copy has written what it read, it is all of it, if no PSH frame was
empty. -/
theorem client_receives_what_was_sent {config : PortForwardConfig} {type : SessionType}
    {timeout capacity k i : ℕ} {f : PortForwarder} {c : Connection} {st : SmuxStream}
    (h : Reachable PortForwarder.step free (.new config type timeout capacity) f)
    (hids : f.mux.inner.streams.length ≤ idCount) (hc : f.connections[k]? = some c)
    (hi : c.stream? = some i) (hst : f.mux.inner.streams[i]? = some st) :
    c.inbound.given <+: st.returned ∧
    st.returned <+: (st.addressed (routedOf (idOf i) f.mux.frames)).flatten ∧
    (c.inbound.stage = .finished → c.inbound.given = st.returned) := by
  have hcarries := PortForwarder.Carries.of_reachable h
  have hmem := List.mem_of_getElem? hc
  have hoffered := hcarries.offered hids
  have hsound := (hoffered.sound c hmem).2
  have htaken : c.inbound.taken = st.returned := by
    rw [hoffered.taken c hmem, hi]
    simp [Inner.returnedAt, hst]
  refine ⟨htaken ▸ hsound.given_prefix, ?_, fun hstage => htaken ▸ hsound.given_eq (.inr hstage)⟩
  have hlt : i < idCount := (List.getElem?_eq_some_iff.mp hst).1.trans_le hids
  obtain ⟨taken, hfed⟩ := (laneInv_of_reachable hcarries.inner hlt hids).stream _
    (Inner.lane_stream hst)
  obtain ⟨seen, hseen⟩ := hcarries.flow.decoded
  have hreturned : st.returned <+: taken.flatten := by
    rw [← hfed.content]
    simp only [SmuxStream.content, SmuxStream.returned_readHalf, List.append_assoc]
    exact List.prefix_append _ _
  have hrouted : (f.mux.inner.lane i).routed = routedOf (idOf i) seen := by
    show f.mux.inner.routedTo (idOf i) = _
    rw [Inner.routedTo, hseen.routed]
    rfl
  have hupTo : taken <+: st.addressed (routedOf (idOf i) seen) := hrouted ▸ hfed.upTo
  have hframes : routedOf (idOf i) seen <+: routedOf (idOf i) f.mux.frames :=
    ((hseen.isPrefix hcarries.flow).filter _).filter _
  exact hreturned.trans (hupTo.trans (addressed_mono hframes)).flatten

/-- Frames for two streams arrive in one chunk; one client takes less than there is. -/
theorem client_receives_what_was_sent_two :
    ∃ (f : PortForwarder) (c c' : Connection) (st st' : SmuxStream), f.connections = [c, c'] ∧
      f.mux.inner.streams = [st, st'] ∧ (c.inbound.given = [104] ∧ c'.inbound.given = [33]) ∧
      c.inbound.given <+: st.returned ∧
      st.returned <+: (st.addressed (routedOf (idOf 0) f.mux.frames)).flatten ∧
      c'.inbound.given <+: st'.returned ∧
      st'.returned <+: (st'.addressed (routedOf (idOf 1) f.mux.frames)).flatten := by
  let opened (k : ℕ) : List ForwardLabel := List.replicate 4 (.connection k .advance)
  let ls : List ForwardLabel := List.flatten
    [[.setSendable true, .forward, .forward, .forward, .accept, .accept], opened 0, opened 1,
      [.mux .recv, .mux (.emit (encode cmdPsh 1 [104, 105] ++ encode cmdPsh 3 [33]))],
      List.replicate 6 (.mux .recv),
      [.connection 0 .read, .connection 1 .read, .connection 0 (.deliver 1),
        .connection 1 (.deliver 1)]]
  have hrun : (run PortForwarder.step (.new ⟨2, false⟩ .port 30 64) ls).any (fun f =>
      decide (f.connections.map (fun c => (c.stream?, c.inbound.given)) =
        [(some 0, [104]), (some 1, [33])]) && decide (f.mux.inner.streams.length = 2)) = true := by
    decide +kernel
  obtain ⟨f, hf, hp⟩ := exists_of_run hrun
  simp only [Bool.and_eq_true, decide_eq_true_eq] at hp
  obtain ⟨hconnections, hlength⟩ := hp
  obtain ⟨c, rest, hcs, hc, hrest⟩ := List.map_eq_cons_iff.mp hconnections
  obtain ⟨c', hrest, hc'⟩ := List.map_eq_singleton_iff.mp hrest
  obtain ⟨st, st', hstreams⟩ := List.length_eq_two.mp hlength
  simp only [Prod.mk.injEq] at hc hc'
  rw [hrest] at hcs
  have hids : f.mux.inner.streams.length ≤ idCount := by
    rw [hlength]
    decide
  obtain ⟨hgiven, hreturned, -⟩ := client_receives_what_was_sent (k := 0) hf hids (by rw [hcs]; rfl)
    hc.1 (by rw [hstreams]; rfl)
  obtain ⟨hgiven', hreturned', -⟩ := client_receives_what_was_sent (k := 1) hf hids
    (by rw [hcs]; rfl) hc'.1 (by rw [hstreams]; rfl)
  exact ⟨f, c, c', st, st', hcs, hstreams, ⟨hc.2, hc'.2⟩, hgiven, hreturned, hgiven', hreturned'⟩

end Forward
end SsmBridge.Smux
