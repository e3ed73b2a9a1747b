import SsmBridge.Construction.Forward
import SsmBridge.Properties.OutputFlow
import SsmBridge.Properties.StreamProtocol

/-!
# What goes over a stream

For each step of the multiplexer, the PSH bytes it puts on the outbound queue for an id
(`pushed_added`) and the bytes it returns to the reader of a stream (`returnedAt_of_step`).  The
queue is taken apart by `send_task` alone: `Mux.Hands` says what becomes of the frames in one of its
steps, and `Mux.SparesFrames` that every other step leaves them where they are.
-/

namespace SsmBridge.Smux

open Machine StreamDecoder

/-! ## What is put on the queue -/

section

variable {σ σ' : Inner} {l : Label} {frames frames' : List Frame} {id : UInt32} {i : ℕ}

@[simp] lemma pushed_nil : pushed id [] = [] := rfl

lemma pushed_append : pushed id (frames ++ frames') = pushed id frames ++ pushed id frames' := by
  simp [pushed]

lemma pushed_prefix (h : frames <+: frames') : pushed id frames <+: pushed id frames' := by
  obtain ⟨more, rfl⟩ := h
  rw [pushed_append]
  exact List.prefix_append _ _

lemma pushed_of_cmd {frame : Frame} (h : frame.cmd ≠ cmdPsh) : pushed id [frame] = [] := by
  simp [pushed, h]

/-- What a step puts on the queue for an id is what `poll_write` reports as written. -/
lemma pushed_added (hn : σ.Numbered) (h : σ.step l = some σ') :
    pushed id (σ.added σ') =
      (reported σ l).flatMap (fun w => if idOf w.stream = id then w.bytes else []) := by
  have hspeaks := speaks_of_step h
  generalize σ.added σ' = frames at hspeaks
  generalize reported σ l = written at hspeaks
  cases hspeaks with
  | quiet | numbered | moved => rfl
  | syn | fin | reply | nop => exact pushed_of_cmd (by dsimp only; decide)
  | @push _ j data w hw =>
    obtain ⟨st, hst, rfl⟩ := Option.map_eq_some_iff.mp hw
    have hid : st.writeSide.id = idOf j := hn.stream j st hst
    rw [hid]
    by_cases hj : idOf j = id
    · simp [pushed, hj]
    · simp [pushed, hj]

/-- No frame is too long for its header. -/
lemma length_added (h : σ.step l = some σ') :
    ∀ frame ∈ σ.added σ', frame.payload.length ≤ maxFramePayload := by
  have hspeaks := speaks_of_step h
  generalize σ.added σ' = frames at hspeaks
  generalize reported σ l = written at hspeaks
  cases hspeaks with
  | quiet | numbered | moved => exact nofun
  | syn | fin | reply | nop => simp
  | push => simp

/-- Only `send_task` takes frames off the queue. -/
lemma frames_of_step (hl : l ≠ .frameTaken ∧ l ≠ .framesDropped) (h : σ.step l = some σ') :
    σ'.frames = σ.frames ++ σ.added σ' := by
  have happend : ∃ more, σ'.frames = σ.frames ++ more := by
    cases takes_of_step h with
    | frameTaken => exact absurd rfl hl.1
    | framesDropped => exact absurd rfl hl.2
    | openReturn | write | shutdown | dropStream => exact ⟨_, rfl⟩
    | reply | keepAlive =>
      unfold Inner.tryFrame
      split
      · exact ⟨_, rfl⟩
      · exact ⟨[], (List.append_nil _).symm⟩
    | close =>
      unfold close
      split <;> exact ⟨[], (List.append_nil _).symm⟩
    | _ => exact ⟨[], (List.append_nil _).symm⟩
  obtain ⟨more, hmore⟩ := happend
  rw [Inner.added, hmore, List.drop_left]

lemma reported_of_byCaller (hl : l.byCaller = false) : reported σ l = [] := by
  cases l with
  | pollWrite => cases hl
  | _ => rfl

/-! ## What reads return -/

/-- The bytes that the reads of a stream have returned. -/
def Inner.returnedAt (σ : Inner) (i : ℕ) : Bytes := (σ.streams[i]?).elim [] SmuxStream.returned

/-- What a step returns to a reader of the stream. -/
def returnedBy (σ : Inner) (i : ℕ) : Label → Bytes
  | .pollRead j size =>
      if j = i then
        match Forward.readResult σ i size with
        | some (.ready chunk) => chunk
        | _ => []
      else []
  | _ => []

lemma returnedAt_modify {f : SmuxStream → SmuxStream} (hf : ∀ st, (f st).returned = st.returned)
    (j : ℕ) : (σ.modify j f).returnedAt i = σ.returnedAt i := by
  simp only [Inner.returnedAt, Inner.getElem?_modify]
  split
  · cases σ.streams[i]? with
    | none => rfl
    | some st => exact hf st
  · rfl

lemma returnedAt_map {f : SmuxStream → SmuxStream} (hf : ∀ st, (f st).returned = st.returned)
    (h : σ'.streams = σ.streams.map f) : σ'.returnedAt i = σ.returnedAt i := by
  simp only [Inner.returnedAt, h, List.getElem?_map]
  cases σ.streams[i]? with
  | none => rfl
  | some st => exact hf st

lemma returnedAt_unlist (id : UInt32) : (σ.unlist id).returnedAt i = σ.returnedAt i := by
  refine returnedAt_map (fun st => ?_) rfl
  split <;> rfl

lemma returnedAt_tryFrame (frame : Frame) : (σ.tryFrame frame).returnedAt i = σ.returnedAt i := by
  unfold Inner.tryFrame
  split <;> rfl

/-- A read takes what it returns off the stream. -/
lemma returnedAt_pollRead {j size : ℕ} (h : pollRead σ j size = some σ') :
    σ'.returnedAt i = σ.returnedAt i ++ returnedBy σ i (.pollRead j size) := by
  unfold pollRead at h
  split at h
  · next st hst =>
    split at h
    · cases h
    · next hheld =>
      by_cases hj : j = i
      · subst hj
        simp only [returnedBy, if_true, Forward.readResult, hst, if_neg hheld]
        split at h
        · next hclosed =>
          cases h
          simp [hclosed]
        · next hopen =>
          simp only [hopen, Bool.false_eq_true, if_false]
          revert h
          cases st.remainder with
          | some chunk =>
            intro h
            cases h
            simp [Inner.returnedAt, hst, SmuxStream.serve]
          | none =>
            cases st.queue with
            | cons chunk rest =>
              intro h
              cases h
              simp [Inner.returnedAt, hst, SmuxStream.serve]
            | nil =>
              cases σ.senderAlive j st <;> intro h <;> cases h <;> simp [Inner.returnedAt, hst]
      · have hother : returnedBy σ i (.pollRead j size) = [] := by simp [returnedBy, hj]
        have hsame : ∀ f : SmuxStream → SmuxStream,
            (σ.modify j f).returnedAt i = σ.returnedAt i := by
          intro f
          simp [Inner.returnedAt, hj]
        rw [hother, List.append_nil]
        split at h
        · cases h
          rfl
        · split at h
          · cases h
            exact hsame _
          · cases h
            exact hsame _
          · split at h <;> cases h <;> exact hsame _
  · cases h

/-- Nothing else does. -/
lemma returnedAt_of_ne (hl : ∀ j size, l ≠ .pollRead j size) (h : σ.step l = some σ') :
    σ'.returnedAt i = σ.returnedAt i := by
  cases takes_of_step h with
  | readClosed | readRemainder | readQueue | readPending | readEnd => exact absurd rfl (hl _ _)
  | openNumber =>
    simp only [Inner.returnedAt, List.getElem?_append, List.getElem?_singleton]
    split_ifs with hlt hlast
    · rfl
    · rw [List.getElem?_eq_none (Nat.le_of_not_lt hlt)]
      rfl
    · rw [List.getElem?_eq_none (Nat.le_of_not_lt hlt)]
  | openRegister | openWithdraw | dropRemove =>
    refine Eq.trans (returnedAt_modify ?_ _) (returnedAt_unlist _)
    exact fun _ => rfl
  | openReturn | openRefuse | dropQuietly | dropStream | dropRelease | closeSweep | pollThrottled
  | pollClosed | shutdownGone | shutdown =>
    refine returnedAt_modify ?_ _
    exact fun _ => rfl
  | sendQueued | evict =>
    refine returnedAt_modify (σ := σ) ?_ _
    exact fun _ => rfl
  | remove => exact returnedAt_unlist (σ := σ) _
  | reply | keepAlive => exact returnedAt_tryFrame (σ := σ) _
  | finFound =>
    refine Eq.trans (returnedAt_modify ?_ _) (returnedAt_unlist _)
    exact fun _ => rfl
  | close =>
    unfold close
    split <;> rfl
  | closeClear =>
    refine returnedAt_map (f := fun st => { st with listed := false }) ?_ rfl
    exact fun _ => rfl
  | openAdmit | finUnknown | closeNotify | closeLock | dieEnabled | shutdownIdle | sendGone
  | sendFull | pushFound | pushUnknown | writeRefused | write | frameTaken | framesDropped => rfl

theorem returnedAt_of_step (h : σ.step l = some σ') :
    σ'.returnedAt i = σ.returnedAt i ++ returnedBy σ i l := by
  cases l with
  | pollRead j size => exact returnedAt_pollRead h
  | _ => exact (returnedAt_of_ne (by simp) h).trans (List.append_nil _).symm

lemma returnedBy_of_byCaller (hl : l.byCaller = false) : returnedBy σ i l = [] := by
  cases l with
  | pollRead => cases hl
  | _ => rfl

end

/-! ## What `send_task` hands to the session -/

namespace SendPc

/-- The frame that is neither on the queue nor handed over. -/
def inHand : SendPc → List Frame
  | .taken frame | .sending frame _ | .stalled frame _ => [frame]
  | _ => []

/-- `send_task` is in its loop. -/
def running : SendPc → Bool
  | .leaving | .returning | .ended => false
  | _ => true

end SendPc

/-- What becomes of the frames in a step of `send_task`: they move on, or `send_task` is out of its
loop and hands nothing over. -/
def Mux.Hands (m m' : Mux) : Prop :=
  (m'.send.running = true →
    m.send.running = true ∧
    (m'.commands.drop m.commands.length) ++ (m'.send.inHand ++ m'.inner.frames).map Frame.encode =
      (m.send.inHand ++ m.inner.frames).map Frame.encode) ∧
  (m'.send.running = false → m'.commands.drop m.commands.length = [])

section

variable {m m' : Mux} {l : MuxLabel}

lemma hands_of_sendReceive {t : ℕ} (hsend : m.send = .waiting t)
    (h : sendReceive m t = some m') : m.Hands m' := by
  unfold sendReceive at h
  split at h
  · cases h
    exact ⟨nofun, fun _ => List.drop_length⟩
  · split at h
    · next frame rest hframes =>
      obtain ⟨τ, hact, rfl⟩ := Option.map_eq_some_iff.mp h
      obtain ⟨σ', hstep, rfl⟩ := Mux.act_cases hact
      cases takes_of_step hstep with
      | frameTaken hf =>
        rw [hframes] at hf
        cases hf
        refine ⟨fun _ => ⟨by rw [hsend]; rfl, ?_⟩, nofun⟩
        simp [hsend, hframes, SendPc.inHand]
    · next hframes =>
      cases h
      refine ⟨fun _ => ⟨by rw [hsend]; rfl, ?_⟩, nofun⟩
      simp [hsend, hframes, SendPc.inHand]

lemma hands_of_sendFrame {frame : Frame} {t : ℕ} (hsend : m.send = .sending frame t) :
    m.Hands (sendFrame m frame t) := by
  unfold sendFrame
  split
  · exact ⟨nofun, fun _ => List.drop_length⟩
  · split
    · refine ⟨fun _ => ⟨by rw [hsend]; rfl, ?_⟩, nofun⟩
      simp [hsend, SendPc.inHand]
    · refine ⟨fun _ => ⟨by rw [hsend]; rfl, ?_⟩, nofun⟩
      simp [hsend, SendPc.inHand]

/-- `send_task` moves on with the same frame in hand. -/
lemma hands_of_same (hrunning : m'.send.running = true → m.send.running = true)
    (hhand : m'.send.running = true → m'.send.inHand = m.send.inHand)
    (hframes : m'.send.running = true → m'.inner.frames = m.inner.frames)
    (hcommands : m'.commands = m.commands) : m.Hands m' := by
  refine ⟨fun h => ⟨hrunning h, ?_⟩, fun _ => ?_⟩
  · rw [hcommands, List.drop_length, hhand h, hframes h]
    rfl
  · rw [hcommands, List.drop_length]

/-- A step of `send_task` on the shared state that keeps the frames. -/
lemma hands_of_act {l : Label} {pc : SendPc} (hl : l = .dieEnabled ∨ pc.running = false)
    (hrunning : pc.running = true → m.send.running = true)
    (hhand : pc.running = true → pc.inHand = m.send.inHand)
    (h : (m.act l).map (fun τ => { τ with send := pc }) = some m') : m.Hands m' := by
  obtain ⟨τ, hact, rfl⟩ := Option.map_eq_some_iff.mp h
  obtain ⟨σ', hstep, rfl⟩ := Mux.act_cases hact
  refine hands_of_same hrunning hhand (fun hpc => ?_) rfl
  rcases hl with rfl | hl
  · cases takes_of_step hstep
    rfl
  · exact absurd (hl.symm.trans hpc) (by simp)

theorem hands_of_sendStep (h : sendStep m = some m') : m.Hands m' := by
  unfold sendStep at h
  split at h
  · next hsend =>
    exact hands_of_act (.inl rfl) (by simp [hsend, SendPc.running])
      (by simp [hsend, SendPc.inHand]) h
  · next t hsend =>
    cases h
    refine hands_of_same (by rw [hsend]; exact fun _ => rfl) (fun hrun => ?_) (fun _ => rfl) rfl
    rw [hsend]
    dsimp only at hrun ⊢
    split <;> rfl
  · next t hsend =>
    cases h
    refine hands_of_same (by rw [hsend]; exact fun _ => rfl) (fun hrun => ?_) (fun _ => rfl) rfl
    rw [hsend]
    dsimp only at hrun ⊢
    split <;> rfl
  · next t hsend => exact hands_of_sendReceive hsend h
  · next t hsend =>
    split at h <;> cases h
    exact hands_of_same (by rw [hsend]; exact fun _ => rfl) (fun _ => by rw [hsend]; rfl)
      (fun _ => rfl) rfl
  · next frame hsend =>
    exact hands_of_act (.inl rfl) (by simp [hsend, SendPc.running])
      (by simp [hsend, SendPc.inHand]) h
  · next frame t hsend =>
    cases h
    exact hands_of_sendFrame hsend
  · next frame t hsend =>
    split at h
    · cases h
      exact hands_of_same nofun nofun nofun rfl
    · split at h <;> cases h
      exact hands_of_same (by rw [hsend]; exact fun _ => rfl) (fun _ => by rw [hsend]; rfl)
        (fun _ => rfl) rfl
  · exact hands_of_act (.inr rfl) (fun hrun => by cases hrun) (fun hrun => by cases hrun) h
  · exact hands_of_act (.inr rfl) (fun hrun => by cases hrun) (fun hrun => by cases hrun) h
  · cases h

/-- `send_task` puts no frame on the queue. -/
lemma added_of_act {l : Label} {f : Mux → Mux} (h : (m.act l).map f = some m')
    (hl : l = .dieEnabled ∨ l = .frameTaken ∨ l = .framesDropped ∨ l = .close .clean)
    (hf : ∀ τ, (f τ).inner = τ.inner) : m.inner.added m'.inner = [] := by
  obtain ⟨τ, hact, rfl⟩ := Option.map_eq_some_iff.mp h
  obtain ⟨σ', hstep, rfl⟩ := Mux.act_cases hact
  rw [hf]
  rcases hl with rfl | rfl | rfl | rfl
  · cases takes_of_step hstep
    exact added_of_eq rfl
  · cases takes_of_step hstep with
    | frameTaken hframes => simp [Inner.added, hframes]
  · cases takes_of_step hstep
    simp [Inner.added]
  · cases takes_of_step hstep
    unfold close
    split <;> exact added_of_eq rfl

lemma added_of_sendStep (h : sendStep m = some m') : m.inner.added m'.inner = [] := by
  unfold sendStep at h
  split at h
  · exact added_of_act h (by simp) fun _ => rfl
  · cases h
    exact added_of_eq rfl
  · cases h
    exact added_of_eq rfl
  · unfold sendReceive at h
    split at h
    · cases h
      exact added_of_eq rfl
    · split at h
      · exact added_of_act h (by simp) fun _ => rfl
      · cases h
        exact added_of_eq rfl
  · split at h <;> cases h
    exact added_of_eq rfl
  · exact added_of_act h (by simp) fun _ => rfl
  · cases h
    unfold sendFrame
    split
    · exact added_of_eq rfl
    · split <;> exact added_of_eq rfl
  · split at h
    · cases h
      exact added_of_eq rfl
    · split at h <;> cases h
      exact added_of_eq rfl
  · exact added_of_act h (by simp) fun _ => rfl
  · exact added_of_act h (by simp) fun _ => rfl
  · cases h

/-- The other tasks leave `send_task` alone and take no frame off the queue. -/
def Mux.SparesFrames (m m' : Mux) : Prop :=
  m'.send = m.send ∧ m'.inner.frames = m.inner.frames ++ m.inner.added m'.inner

lemma sparesFrames_of_same (hsend : m'.send = m.send) (hinner : m'.inner = m.inner) :
    m.SparesFrames m' := by
  refine ⟨hsend, ?_⟩
  rw [hinner, added_of_eq rfl, List.append_nil]

lemma sparesFrames_of_act {l : Label} {f : Mux → Mux} (h : (m.act l).map f = some m')
    (hl : l ≠ .frameTaken ∧ l ≠ .framesDropped)
    (hf : ∀ τ, (f τ).send = τ.send ∧ (f τ).inner = τ.inner) : m.SparesFrames m' := by
  obtain ⟨τ, hact, rfl⟩ := Option.map_eq_some_iff.mp h
  obtain ⟨σ', hstep, rfl⟩ := Mux.act_cases hact
  refine ⟨(hf _).1, ?_⟩
  rw [(hf _).2]
  exact frames_of_step hl hstep

lemma sparesFrames_of_recvStep (h : recvStep m = some m') : m.SparesFrames m' := by
  unfold recvStep at h
  split at h
  · cases h
    exact sparesFrames_of_same rfl rfl
  · exact sparesFrames_of_act h (by simp) fun _ => ⟨rfl, rfl⟩
  · unfold recvNext at h
    split at h
    · split at h
      · cases h
        exact sparesFrames_of_same rfl rfl
      · split at h <;> cases h <;> exact sparesFrames_of_same rfl rfl
    · cases h
  · split at h
    · cases h
      exact sparesFrames_of_same rfl rfl
    · split at h <;> cases h
      exact sparesFrames_of_same rfl rfl
  · unfold recvDispatch at h
    split at h
    · cases h
      exact sparesFrames_of_same rfl rfl
    · cases h
      exact sparesFrames_of_same rfl rfl
    · split at h
      · exact sparesFrames_of_act h (by simp) fun _ => ⟨rfl, rfl⟩
      · split at h
        · exact sparesFrames_of_act h (by simp) fun _ => ⟨rfl, rfl⟩
        · cases h
          exact sparesFrames_of_same rfl rfl
  · refine sparesFrames_of_act h (by simp) fun τ => ?_
    split <;> exact ⟨rfl, rfl⟩
  · exact sparesFrames_of_act h (by simp) fun _ => ⟨rfl, rfl⟩
  · cases h

lemma sparesFrames_of_keepaliveStep {elapsed : Bool} (h : keepaliveStep m elapsed = some m') :
    m.SparesFrames m' := by
  unfold keepaliveStep at h
  split at h
  · exact sparesFrames_of_act h (by simp) fun _ => ⟨rfl, rfl⟩
  · split at h
    · exact sparesFrames_of_act h (by simp) fun _ => ⟨rfl, rfl⟩
    · cases h
      exact sparesFrames_of_same rfl rfl
  · split at h
    · cases h
      exact sparesFrames_of_same rfl rfl
    · split at h
      · exact sparesFrames_of_act h (by simp) fun _ => ⟨rfl, rfl⟩
      · cases h
  · cases h
    exact sparesFrames_of_same rfl rfl
  · cases h
  · cases h

theorem sparesFrames_of_step (hl : l ≠ .send) (h : m.step l = some m') : m.SparesFrames m' := by
  cases l with
  | send => exact absurd rfl hl
  | recv => exact sparesFrames_of_recvStep h
  | keepalive elapsed => exact sparesFrames_of_keepaliveStep h
  | caller l' =>
    simp only [Mux.step, callerStep] at h
    split at h
    · next hcaller =>
      rw [Bool.and_eq_true] at hcaller
      refine sparesFrames_of_act (f := id) (by simpa using h) ⟨?_, ?_⟩ (fun _ => ⟨rfl, rfl⟩) <;>
      · rintro rfl
        cases hcaller.1
    · cases h
  | dropSession =>
    simp only [Mux.step, dropSession] at h
    split at h
    · exact sparesFrames_of_act h (by simp) fun _ => ⟨rfl, rfl⟩
    · cases h
  | closeStep =>
    exact sparesFrames_of_act (f := id) (by simpa [Mux.step] using h) (by simp) fun _ => ⟨rfl, rfl⟩
  | closeSweep i =>
    exact sparesFrames_of_act (f := id) (by simpa [Mux.step] using h) (by simp) fun _ => ⟨rfl, rfl⟩
  | emit chunk =>
    simp only [Mux.step, emit] at h
    split at h <;> cases h
    exact sparesFrames_of_same rfl rfl
  | fanoutClose =>
    simp only [Mux.step, fanoutClose] at h
    split at h <;> cases h
    exact sparesFrames_of_same rfl rfl
  | sessionClose reason =>
    cases h
    exact sparesFrames_of_same rfl rfl
  | command data =>
    simp only [Mux.step] at h
    split at h <;> cases h
    exact sparesFrames_of_same rfl rfl
  | commandTaken =>
    simp only [Mux.step] at h
    split at h <;> cases h
    exact sparesFrames_of_same rfl rfl

end

end SsmBridge.Smux
