import SsmBridge.Construction.RouterMoves
import SsmBridge.Properties.Lanes

/-!
# The frames a stream sends

`Traced` runs the multiplexer and writes down every frame that is put on the shared queue, with who
put it there, and every piece of a buffer that `poll_write` reported as written.

What a stream's own calls put on the queue is SYN, then PSH frames that carry what `poll_write`
reported, then FIN: `frames_follow_protocol`.  Other frames with the stream's id are the FINs of
`route_push`, which evicts a stream whose consumer is slow and answers data for a stream that the
map does not hold.  Neither looks at the write side, so that a stream's frames taken together may
have more than one FIN (`dropped_stream_answers_fin`).
-/

namespace SsmBridge.Smux

open Machine

/-! ## What is put on the queue -/

/-- Who puts a frame on the shared queue. -/
inductive Origin
  | stream (i : ℕ)
  | router
  | keepAlive
  deriving DecidableEq

/-- Whose step it is, of those that put frames on the queue. -/
def Label.origin : Label → Option Origin
  | .openReturn i | .pollWrite i _ | .pollShutdown i | .dropStream i => some (.stream i)
  | .routeStep _ => some .router
  | .keepAlive => some .keepAlive
  | _ => none

@[simp] lemma origin_openReturn (i : ℕ) : (Label.openReturn i).origin = some (.stream i) := rfl

@[simp] lemma origin_pollWrite (i : ℕ) (data : Bytes) :
    (Label.pollWrite i data).origin = some (.stream i) := rfl

@[simp] lemma origin_routeStep (id : UInt32) : (Label.routeStep id).origin = some .router := rfl

@[simp] lemma origin_keepAlive : Label.keepAlive.origin = some .keepAlive := rfl

/-- A frame that was put on the queue. -/
structure Sent where
  origin : Option Origin
  frame : Frame
  deriving DecidableEq

/-- A piece of a buffer that `poll_write` reported as written. -/
structure Written where
  stream : ℕ
  bytes : Bytes
  deriving DecidableEq

/-- What a step reports as written. -/
def reported (σ : Inner) : Label → List Written
  | .pollWrite i data =>
      match writeResult σ i data with
      | some (.written n) => [⟨i, data.take n⟩]
      | _ => []
  | _ => []

/-- The multiplexer with what it has put on the queue and reported. -/
structure Traced where
  inner : Inner
  sent : List Sent
  written : List Written
  deriving DecidableEq

namespace Traced

def new : Traced := { inner := .new, sent := [], written := [] }

/-- A step, written down. The queue grows at its end and is emptied at its front. -/
def step (t : Traced) (l : Label) : Option Traced :=
  (t.inner.step l).map fun σ =>
    { inner := σ
      sent := t.sent ++ (σ.frames.drop t.inner.frames.length).map (⟨l.origin, ·⟩)
      written := t.written ++ reported t.inner l }

/-- The frames that the calls on one stream put on the queue. -/
def own (t : Traced) (i : ℕ) : List Frame :=
  (t.sent.filter (fun s => s.origin == some (.stream i))).map Sent.frame

/-- All frames with an id. -/
def bearing (t : Traced) (id : UInt32) : List Frame :=
  (t.sent.map Sent.frame).filter (fun f => f.streamId == id)

/-- What `poll_write` reported as written on one stream, put together. -/
def writtenBy (t : Traced) (i : ℕ) : Bytes :=
  ((t.written.filter (fun w => w.stream == i)).map Written.bytes).flatten

end Traced

/-- SYN, PSH for each payload, and FIN if the stream has been finished. -/
def protocolFrames (id : UInt32) (payloads : List Bytes) (finished : Bool) : List Frame :=
  ⟨cmdSyn, id, []⟩ ::
    (payloads.map (⟨cmdPsh, id, ·⟩) ++ if finished then [⟨cmdFin, id, []⟩] else [])

/-- The frames follow the protocol, no payload is too long, and together the payloads are these
bytes. -/
def FollowsProtocol (id : UInt32) (frames : List Frame) (bytes : Bytes) : Prop :=
  (frames = [] ∧ bytes = []) ∨
    ∃ payloads finished, frames = protocolFrames id payloads finished ∧
      (∀ payload ∈ payloads, payload.length ≤ maxFramePayload) ∧ payloads.flatten = bytes

/-! ## The write side of a stream -/

/-- What the write side depends on. -/
structure WriteSide where
  id : UInt32
  phase : StreamPhase
  closed : Bool

def SmuxStream.writeSide (st : SmuxStream) : WriteSide := ⟨st.id, st.phase, st.writeClosed⟩

def Inner.writeSide (σ : Inner) (i : ℕ) : Option WriteSide :=
  (σ.streams[i]?).map SmuxStream.writeSide

/-- `open_stream` has returned the stream. -/
def StreamPhase.announced : StreamPhase → Bool
  | .held | .dropping | .removed | .dropped => true
  | .numbered | .registered | .refused | .failed => false

/-- What a stream has said so far: nothing before it was announced, and no FIN while it can be
written to. -/
def Said (frames : List Frame) (bytes : Bytes) : Option WriteSide → Prop
  | none => frames = [] ∧ bytes = []
  | some w =>
      if w.phase.announced then
        ∃ payloads finished, frames = protocolFrames w.id payloads finished ∧
          (∀ payload ∈ payloads, payload.length ≤ maxFramePayload) ∧ payloads.flatten = bytes ∧
          (w.phase = .held → finished = true → w.closed = true)
      else frames = [] ∧ bytes = []

section

variable {σ σ' : Inner} {st : SmuxStream} {l : Label} {i j : ℕ} {f : SmuxStream → SmuxStream}
  {frames : List Frame} {bytes : Bytes}

lemma Said.followsProtocol {w : WriteSide} (h : Said frames bytes (some w)) :
    FollowsProtocol w.id frames bytes := by
  simp only [Said] at h
  split at h
  · obtain ⟨payloads, finished, hframes, hlen, hbytes, -⟩ := h
    exact .inr ⟨payloads, finished, hframes, hlen, hbytes⟩
  · exact .inl h

lemma writeSide_modify (hf : ∀ st, (f st).writeSide = st.writeSide) :
    (σ.modify j f).writeSide i = σ.writeSide i := by
  simp only [Inner.writeSide, Inner.getElem?_modify]
  split
  · rw [Option.map_map]
    exact congrArg (fun g => Option.map g _) (funext hf)
  · rfl

lemma writeSide_modify_of_ne (h : j ≠ i) : (σ.modify j f).writeSide i = σ.writeSide i := by
  simp [Inner.writeSide, h]

lemma writeSide_modify_self (hst : σ.streams[i]? = some st) :
    (σ.modify i f).writeSide i = some (f st).writeSide := by
  simp [Inner.writeSide, hst]

@[simp] lemma writeSide_unlist (id : UInt32) : (σ.unlist id).writeSide i = σ.writeSide i := by
  simp only [Inner.writeSide, Inner.getElem?_unlist, Option.map_map]
  congr 1
  funext st
  simp only [Function.comp_apply]
  split <;> rfl

/-- Before the announcement nothing is said, and then nothing changes. -/
lemma Said.silent {w w' : WriteSide} (h : Said frames bytes (some w))
    (hw : w.phase.announced = false) (hw' : w'.phase.announced = false) :
    Said frames bytes (some w') := by
  simp only [Said, hw, Bool.false_eq_true, if_false] at h
  simpa only [Said, hw', Bool.false_eq_true, if_false] using h

/-- A stream that can no longer be written to may have said FIN or not. -/
lemma Said.over {w w' : WriteSide} (h : Said frames bytes (some w))
    (hw : w.phase.announced = true) (hid : w'.id = w.id) (hw' : w'.phase.announced = true)
    (hdone : w'.phase = .held → w'.closed = true) : Said frames bytes (some w') := by
  simp only [Said, hw, if_true] at h
  obtain ⟨payloads, finished, hframes, hlen, hbytes, -⟩ := h
  simp only [Said, hw', if_true, hid]
  exact ⟨payloads, finished, hframes, hlen, hbytes, fun hheld _ => hdone hheld⟩

/-- The announcement. -/
lemma Said.syn {w : WriteSide} (h : Said frames bytes (some w)) (hw : w.phase.announced = false) :
    Said (frames ++ [⟨cmdSyn, w.id, []⟩]) bytes (some { w with phase := .held }) := by
  simp only [Said, hw, Bool.false_eq_true, if_false] at h
  obtain ⟨rfl, rfl⟩ := h
  refine ⟨[], false, rfl, by simp, rfl, by simp⟩

/-- A stream that can be written to has not said FIN. -/
lemma Said.unfinished {w : WriteSide} (h : Said frames bytes (some w)) (hheld : w.phase = .held)
    (hopen : w.closed = false) :
    ∃ payloads, frames = protocolFrames w.id payloads false ∧
      (∀ payload ∈ payloads, payload.length ≤ maxFramePayload) ∧ payloads.flatten = bytes := by
  simp only [Said, hheld, StreamPhase.announced, if_true] at h
  obtain ⟨payloads, finished, hframes, hlen, hbytes, hfin⟩ := h
  cases finished with
  | true => simp [hopen] at hfin
  | false => exact ⟨payloads, hframes, hlen, hbytes⟩

lemma Said.push {w : WriteSide} (h : Said frames bytes (some w)) (hheld : w.phase = .held)
    (hopen : w.closed = false) (payload : Bytes) (hlen : payload.length ≤ maxFramePayload) :
    Said (frames ++ [⟨cmdPsh, w.id, payload⟩]) (bytes ++ payload) (some w) := by
  obtain ⟨payloads, rfl, hpayloads, rfl⟩ := h.unfinished hheld hopen
  simp only [Said, hheld, StreamPhase.announced, if_true]
  refine ⟨payloads ++ [payload], false, ?_, ?_, ?_, by simp⟩
  · simp [protocolFrames]
  · intro p hp
    rcases List.mem_append.mp hp with hp | hp
    · exact hpayloads p hp
    · rwa [List.mem_singleton.mp hp]
  · simp

lemma Said.fin {w w' : WriteSide} (h : Said frames bytes (some w)) (hheld : w.phase = .held)
    (hopen : w.closed = false) (hid : w'.id = w.id) (hw' : w'.phase.announced = true)
    (hdone : w'.phase = .held → w'.closed = true) :
    Said (frames ++ [⟨cmdFin, w.id, []⟩]) bytes (some w') := by
  obtain ⟨payloads, rfl, hpayloads, rfl⟩ := h.unfinished hheld hopen
  simp only [Said, hw', if_true, hid]
  refine ⟨payloads, true, ?_, hpayloads, rfl, fun hheld _ => hdone hheld⟩
  simp [protocolFrames]

/-- What a step says: the frames it puts on the queue, and what it reports as written. -/
inductive Inner.Speaks (σ : Inner) : Label → Inner → List Frame → List Written → Prop
  | quiet {l : Label} {σ' : Inner} (hsides : ∀ i, σ'.writeSide i = σ.writeSide i) :
      Speaks σ l σ' [] []
  | numbered {l : Label} {σ' : Inner} {w : WriteSide} (hnew : w.phase.announced = false)
      (hsides : ∀ i, σ'.writeSide i = if i = σ.streams.length then some w else σ.writeSide i) :
      Speaks σ l σ' [] []
  | moved {l : Label} {σ' : Inner} {j : ℕ} {w w' : WriteSide} (hw : σ.writeSide j = some w)
      (hw' : σ'.writeSide j = some w') (hsides : ∀ i ≠ j, σ'.writeSide i = σ.writeSide i)
      (hphase : (w.phase.announced = false ∧ w'.phase.announced = false) ∨
        (w.phase.announced = true ∧ w'.phase.announced = true ∧ w'.id = w.id ∧
          (w'.phase = .held → w'.closed = true))) :
      Speaks σ l σ' [] []
  | syn {σ' : Inner} {j : ℕ} {w : WriteSide} (hw : σ.writeSide j = some w)
      (hphase : w.phase.announced = false)
      (hw' : σ'.writeSide j = some { w with phase := .held })
      (hsides : ∀ i ≠ j, σ'.writeSide i = σ.writeSide i) :
      Speaks σ (.openReturn j) σ' [⟨cmdSyn, w.id, []⟩] []
  | push {σ' : Inner} {j : ℕ} {data : Bytes} {w : WriteSide} (hw : σ.writeSide j = some w)
      (hheld : w.phase = .held) (hopen : w.closed = false)
      (hsides : ∀ i, σ'.writeSide i = σ.writeSide i) :
      Speaks σ (.pollWrite j data) σ' [⟨cmdPsh, w.id, data.take maxFramePayload⟩]
        [⟨j, data.take maxFramePayload⟩]
  | fin {l : Label} {σ' : Inner} {j : ℕ} {w w' : WriteSide} (hl : l.origin = some (.stream j))
      (hw : σ.writeSide j = some w) (hheld : w.phase = .held) (hopen : w.closed = false)
      (hw' : σ'.writeSide j = some w') (hid : w'.id = w.id) (hphase : w'.phase.announced = true)
      (hdone : w'.phase = .held → w'.closed = true)
      (hsides : ∀ i ≠ j, σ'.writeSide i = σ.writeSide i) :
      Speaks σ l σ' [⟨cmdFin, w.id, []⟩] []
  | reply {id : UInt32} {σ' : Inner} (hsides : ∀ i, σ'.writeSide i = σ.writeSide i) :
      Speaks σ (.routeStep id) σ' [⟨cmdFin, id, []⟩] []
  | nop {σ' : Inner} (hsides : ∀ i, σ'.writeSide i = σ.writeSide i) :
      Speaks σ .keepAlive σ' [⟨cmdNop, 0, []⟩] []

/-- The frames that were put on the queue between two states. -/
def Inner.added (σ σ' : Inner) : List Frame := σ'.frames.drop σ.frames.length

lemma added_of_eq (h : σ'.frames = σ.frames) : σ.added σ' = [] := by
  rw [Inner.added, h, List.drop_length]

lemma added_of_append {frame : Frame} (h : σ'.frames = σ.frames ++ [frame]) :
    σ.added σ' = [frame] := by
  rw [Inner.added, h, List.drop_left]

lemma added_tryFrame (σ : Inner) (frame : Frame) :
    σ.added (σ.tryFrame frame) = [] ∨ σ.added (σ.tryFrame frame) = [frame] := by
  unfold Inner.tryFrame
  split
  · exact .inr (added_of_append rfl)
  · exact .inl (added_of_eq rfl)

lemma writeSide_tryFrame (frame : Frame) : (σ.tryFrame frame).writeSide i = σ.writeSide i := by
  unfold Inner.tryFrame
  split <;> rfl

lemma writeSide_eq (hst : σ.streams[i]? = some st) : σ.writeSide i = some st.writeSide := by
  simp [Inner.writeSide, hst]

/-- `poll_write` reports nothing as written when it puts nothing on the queue. -/
lemma reported_of_refused {data : Bytes} (hst : σ.streams[i]? = some st)
    (hrefused : (st.writeClosed || σ.closed || !σ.framesRoom) = true) :
    reported σ (.pollWrite i data) = [] := by
  simp only [reported, writeResult, hst]
  split_ifs with hheld hclosed hsession hroom
  · rfl
  · rfl
  · rfl
  · simp_all
  · rfl

/-- `poll_write` reports as written what it puts on the queue. -/
lemma reported_of_write {data : Bytes} (hst : σ.streams[i]? = some st) (hheld : st.phase = .held)
    (hopen : (st.writeClosed || σ.closed || !σ.framesRoom) = false) :
    reported σ (.pollWrite i data) = [⟨i, data.take maxFramePayload⟩] := by
  have htake : data.take (min data.length maxFramePayload) = data.take maxFramePayload := by
    rw [List.take_eq_take_iff]
    omega
  simp only [Bool.or_eq_false_iff, Bool.not_eq_false'] at hopen
  obtain ⟨⟨hwrite, hclosed⟩, hroom⟩ := hopen
  have hframes : σ.framesOpen = true := by
    simp only [Inner.framesRoom, Bool.and_eq_true] at hroom
    exact hroom.1
  simp [reported, writeResult, hst, hheld, hwrite, hclosed, hframes, hroom, htake]

lemma Inner.Speaks.of_added {frames : List Frame} {written : List Written}
    (h : σ.Speaks l σ' frames written) (hframes : σ.added σ' = frames)
    (hwritten : reported σ l = written) : σ.Speaks l σ' (σ.added σ') (reported σ l) := by
  rw [hframes, hwritten]
  exact h

/-- A move of one stream, in which it says nothing. -/
lemma speaks_modify {σ₁ : Inner} {st₁ : SmuxStream} (hst : σ.streams[j]? = some st)
    (hst₁ : σ₁.streams[j]? = some st₁) (hsides : ∀ i, σ₁.writeSide i = σ.writeSide i)
    (hframes : σ₁.frames = σ.frames) (hreported : reported σ l = [])
    (hphase : (st.phase.announced = false ∧ (f st₁).phase.announced = false) ∨
      (st.phase.announced = true ∧ (f st₁).phase.announced = true ∧ (f st₁).id = st.id ∧
        ((f st₁).phase = .held → (f st₁).writeClosed = true))) :
    σ.Speaks l (σ₁.modify j f) (σ.added (σ₁.modify j f)) (reported σ l) := by
  refine .of_added (.moved (writeSide_eq hst) (writeSide_modify_self hst₁) (fun i hi => ?_) hphase)
    (added_of_eq hframes) hreported
  rw [writeSide_modify_of_ne (Ne.symm hi), hsides]

/-- FIN, said by the stream itself. -/
lemma speaks_fin (hst : σ.streams[j]? = some st) (hheld : st.phase = .held)
    (hopen : st.writeClosed = false) (hl : l.origin = some (.stream j))
    (hreported : reported σ l = []) (hid : (f st).id = st.id)
    (hphase : (f st).phase.announced = true)
    (hdone : (f st).phase = .held → (f st).writeClosed = true) :
    σ.Speaks l ((σ.enqueue ⟨cmdFin, st.id, []⟩).modify j f)
      (σ.added ((σ.enqueue ⟨cmdFin, st.id, []⟩).modify j f)) (reported σ l) := by
  refine .of_added (.fin hl (writeSide_eq hst) hheld hopen (writeSide_modify_self hst) hid hphase
    hdone fun i hi => ?_) (added_of_append rfl) hreported
  rw [writeSide_modify_of_ne (Ne.symm hi)]
  rfl

/-- Taking an entry out of the map leaves the write sides alone. -/
lemma exists_getElem?_unlist (hst : σ.streams[i]? = some st) (id : UInt32) :
    ∃ st', (σ.unlist id).streams[i]? = some st' ∧ st'.writeSide = st.writeSide := by
  rw [Inner.getElem?_unlist, hst]
  refine ⟨_, rfl, ?_⟩
  dsimp only
  split <;> rfl

theorem speaks_of_step (h : σ.step l = some σ') :
    σ.Speaks l σ' (σ.added σ') (reported σ l) := by
  cases takes_of_step h with
  | openAdmit | finUnknown | closeNotify | closeLock | dieEnabled | readClosed | shutdownIdle
  | sendGone | sendFull | pushFound | pushUnknown =>
    exact .of_added (.quiet fun _ => rfl) (added_of_eq rfl) rfl
  | openNumber =>
    refine .of_added (.numbered (w := (SmuxStream.new σ.nextId).writeSide) rfl fun i => ?_)
      (added_of_eq rfl) rfl
    simp only [Inner.writeSide, List.getElem?_append, List.getElem?_singleton]
    split_ifs with hlt hsub heq heq
    · omega
    · rfl
    · rfl
    · omega
    · omega
    · simp [List.getElem?_eq_none (Nat.le_of_not_lt hlt)]
  | openRegister hst hphase =>
    obtain ⟨st₁, hst₁, -⟩ := exists_getElem?_unlist hst _
    exact speaks_modify hst hst₁ (fun _ => writeSide_unlist _) rfl rfl
      (.inl ⟨by rw [hphase]; rfl, rfl⟩)
  | openReturn hst hphase =>
    refine .of_added (.syn (writeSide_eq hst) (by simp [SmuxStream.writeSide, hphase,
      StreamPhase.announced]) (writeSide_modify_self hst) fun i hi => ?_) (added_of_append rfl) rfl
    exact writeSide_modify_of_ne (Ne.symm hi)
  | openRefuse hst hphase =>
    exact speaks_modify hst hst (fun _ => rfl) rfl rfl (.inl ⟨by rw [hphase]; rfl, rfl⟩)
  | openWithdraw hst hphase =>
    obtain ⟨st₁, hst₁, -⟩ := exists_getElem?_unlist hst _
    exact speaks_modify hst hst₁ (fun _ => writeSide_unlist _) rfl rfl
      (.inl ⟨by rw [hphase]; rfl, rfl⟩)
  | closeSweep | readPending | readEnd | pollThrottled | pollClosed | readRemainder | readQueue =>
    exact .of_added (.quiet fun _ => writeSide_modify fun _ => rfl) (added_of_eq rfl) rfl
  | sendQueued | evict =>
    refine .of_added (.quiet fun i => ?_) (added_of_eq rfl) rfl
    exact writeSide_modify fun _ => rfl
  | remove =>
    refine .of_added (.quiet fun i => ?_) (added_of_eq rfl) rfl
    exact writeSide_unlist _
  | @reply id found _ =>
    have hside : ∀ i,
        ((σ.tryFrame ⟨cmdFin, id, []⟩).moveRouter .idle).writeSide i = σ.writeSide i :=
      fun i => writeSide_tryFrame _
    rcases added_tryFrame σ ⟨cmdFin, id, []⟩ with hadded | hadded
    · exact .of_added (.quiet hside) hadded rfl
    · exact .of_added (.reply hside) hadded rfl
  | finFound =>
    refine .of_added (.quiet fun i => ?_) (added_of_eq rfl) rfl
    rw [writeSide_modify (by intro st; rfl), writeSide_unlist]
    rfl
  | close =>
    refine .of_added (.quiet fun i => ?_) (added_of_eq ?_) rfl <;>
    · unfold Smux.close
      split <;> rfl
  | closeClear =>
    refine .of_added (.quiet fun i => ?_) (added_of_eq rfl) rfl
    simp only [Inner.writeSide, List.getElem?_map, Option.map_map]
    rfl
  | writeRefused hst hrefused =>
    exact .of_added (.quiet fun _ => rfl) (added_of_eq rfl) (reported_of_refused hst hrefused)
  | write hst hheld hopen =>
    refine .of_added (.push (writeSide_eq hst) hheld ?_ fun _ => rfl) (added_of_append rfl)
      (reported_of_write hst hheld hopen)
    simp only [Bool.or_eq_false_iff] at hopen
    exact hopen.1.1
  | shutdownGone hst hheld hopen =>
    exact speaks_modify hst hst (fun _ => rfl) rfl rfl
      (.inr ⟨by rw [hheld]; rfl, by rw [hheld]; rfl, rfl, fun _ => rfl⟩)
  | shutdown hst hheld hopen =>
    exact speaks_fin hst hheld hopen rfl rfl rfl (by rw [hheld]; rfl) fun _ => rfl
  | dropQuietly hst hheld =>
    exact speaks_modify hst hst (fun _ => rfl) rfl rfl
      (.inr ⟨by rw [hheld]; rfl, rfl, rfl, by simp⟩)
  | dropStream hst hheld hopen =>
    exact speaks_fin hst hheld hopen rfl rfl rfl rfl (by simp)
  | dropRemove hst hphase =>
    obtain ⟨st₁, hst₁, hside⟩ := exists_getElem?_unlist hst _
    exact speaks_modify hst hst₁ (fun _ => writeSide_unlist _) rfl rfl
      (.inr ⟨by rw [hphase]; rfl, rfl, congrArg WriteSide.id hside, by simp⟩)
  | dropRelease hst hphase =>
    exact speaks_modify hst hst (fun _ => rfl) rfl rfl
      (.inr ⟨by rw [hphase]; rfl, rfl, rfl, by simp⟩)
  | frameTaken hframes =>
    refine .of_added (.quiet fun _ => rfl) (List.drop_eq_nil_of_le ?_) rfl
    simp [hframes]
  | framesDropped => exact .of_added (.quiet fun _ => rfl) List.drop_nil rfl
  | keepAlive =>
    rcases added_tryFrame σ ⟨cmdNop, 0, []⟩ with hadded | hadded
    · exact .of_added (.quiet fun i => writeSide_tryFrame _) hadded rfl
    · exact .of_added (.nop fun i => writeSide_tryFrame _) hadded rfl

end

/-! ## Whole runs -/

namespace Traced

variable {t t' : Traced} {l : Label} {σ' : Inner}

/-- The frames that one more step puts on the queue for a stream. -/
lemma own_append {frames : List Frame} {origin : Option Origin} {written : List Written} (i : ℕ) :
    ({ inner := σ', sent := t.sent ++ frames.map (⟨origin, ·⟩), written } : Traced).own i =
      t.own i ++ if origin = some (.stream i) then frames else [] := by
  simp only [own, List.filter_append, List.map_append]
  congr 1
  split_ifs with horigin
  · rw [List.filter_eq_self.mpr (by simp [horigin]), List.map_map]
    exact List.map_id frames
  · rw [List.filter_eq_nil_iff.mpr (by simp [horigin]), List.map_nil]

lemma writtenBy_append {sent : List Sent} {written : List Written} (i : ℕ) :
    ({ inner := σ', sent, written := t.written ++ written } : Traced).writtenBy i =
      t.writtenBy i ++ ((written.filter (fun w => w.stream == i)).map Written.bytes).flatten := by
  simp [writtenBy]

/-- A frame on the queue is one that its origin may put there. -/
def Proper (count : ℕ) (s : Sent) : Prop :=
  (∃ i, s.origin = some (.stream i) ∧ i < count ∧ s.frame.streamId = idOf i) ∨
    (∃ id, s.origin = some .router ∧ s.frame = ⟨cmdFin, id, []⟩) ∨
    (s.origin = some .keepAlive ∧ s.frame = ⟨cmdNop, 0, []⟩)

lemma Proper.mono {n m : ℕ} {s : Sent} (h : Proper n s) (hle : n ≤ m) : Proper m s := by
  refine h.imp_left ?_
  rintro ⟨i, horigin, hlt, hid⟩
  exact ⟨i, horigin, hlt.trans_le hle, hid⟩

/-- What holds of every state. -/
structure Sound (t : Traced) : Prop where
  reachable : Reachable Inner.step free .new t.inner
  said : ∀ i, Said (t.own i) (t.writtenBy i) (t.inner.writeSide i)
  proper : ∀ s ∈ t.sent, Proper t.inner.streams.length s

/-- A step keeps what every stream has said to the protocol. -/
lemma Sound.said_step (h : t.Sound) {frames : List Frame} {written : List Written}
    (hspeaks : t.inner.Speaks l σ' frames written) (i : ℕ) :
    Said (t.own i ++ if l.origin = some (.stream i) then frames else [])
      (t.writtenBy i ++ ((written.filter (fun w => w.stream == i)).map Written.bytes).flatten)
      (σ'.writeSide i) := by
  have hsaid := h.said i
  cases hspeaks with
  | quiet hsides => simpa [hsides i] using hsaid
  | @numbered _ _ w hnew hsides =>
    simp only [ite_self, List.append_nil, List.filter_nil, List.map_nil, List.flatten_nil, hsides]
    split_ifs with hi
    · subst hi
      have hnone : t.inner.writeSide t.inner.streams.length = none := by simp [Inner.writeSide]
      rw [hnone] at hsaid
      simpa only [Said, hnew, Bool.false_eq_true, if_false] using hsaid
    · exact hsaid
  | @moved _ _ j w w' hw hw' hsides hphase =>
    simp only [ite_self, List.append_nil, List.filter_nil, List.map_nil, List.flatten_nil]
    by_cases hij : i = j
    · subst hij
      rw [hw] at hsaid
      rw [hw']
      rcases hphase with ⟨hsilent, hsilent'⟩ | ⟨hsome, hsome', hid, hdone⟩
      · exact hsaid.silent hsilent hsilent'
      · exact hsaid.over hsome hid hsome' hdone
    · rwa [hsides i hij]
  | @syn _ j w hw hphase hw' hsides =>
    simp only [List.append_nil, List.filter_nil, List.map_nil, List.flatten_nil]
    by_cases hij : i = j
    · subst hij
      rw [hw] at hsaid
      rw [hw', if_pos (origin_openReturn i)]
      exact hsaid.syn hphase
    · rw [if_neg (by simp [Ne.symm hij]), hsides i hij, List.append_nil]
      exact hsaid
  | @push _ j data w hw hheld hopen hsides =>
    rw [hsides]
    by_cases hij : i = j
    · subst hij
      rw [hw] at hsaid ⊢
      rw [if_pos (origin_pollWrite i data)]
      simpa using hsaid.push hheld hopen (data.take maxFramePayload) (List.length_take_le _ _)
    · rw [if_neg (by simp [Ne.symm hij]), List.append_nil]
      simpa [Ne.symm hij] using hsaid
  | @fin _ _ j w w' hl hw hheld hopen hw' hid hphase hdone hsides =>
    simp only [List.append_nil, List.filter_nil, List.map_nil, List.flatten_nil]
    by_cases hij : i = j
    · subst hij
      rw [hw] at hsaid
      rw [hw', if_pos hl]
      exact hsaid.fin hheld hopen hid hphase hdone
    · rw [if_neg (by simp [hl, Ne.symm hij]), hsides i hij, List.append_nil]
      exact hsaid
  | reply hsides | nop hsides => simpa [hsides i] using hsaid

/-- A step puts proper frames on the queue. -/
lemma proper_step {σ : Inner} (hnumbered : σ.Numbered) {frames : List Frame}
    {written : List Written} (hspeaks : σ.Speaks l σ' frames written) (s : Sent)
    (hs : s ∈ frames.map (⟨l.origin, ·⟩)) : Proper σ.streams.length s := by
  have hstream : ∀ j w, σ.writeSide j = some w → j < σ.streams.length ∧ w.id = idOf j := by
    intro j w hw
    obtain ⟨st, hst, rfl⟩ := Option.map_eq_some_iff.mp hw
    exact ⟨(List.getElem?_eq_some_iff.mp hst).1, hnumbered.stream j st hst⟩
  cases hspeaks with
  | quiet | numbered | moved => cases hs
  | @syn _ j w hw _ _ _ =>
    rw [List.mem_singleton.mp hs]
    exact .inl ⟨j, rfl, hstream j w hw⟩
  | @push _ j data w hw _ _ _ =>
    rw [List.mem_singleton.mp hs]
    exact .inl ⟨j, rfl, hstream j w hw⟩
  | @fin _ _ j w w' hl hw _ _ _ _ _ _ _ =>
    rw [List.mem_singleton.mp hs]
    exact .inl ⟨j, hl, hstream j w hw⟩
  | reply =>
    rw [List.mem_singleton.mp hs]
    exact .inr (.inl ⟨_, rfl, rfl⟩)
  | nop =>
    rw [List.mem_singleton.mp hs]
    exact .inr (.inr ⟨rfl, rfl⟩)

lemma Sound.step (h : t.Sound) (hstep : t.step l = some t') : t'.Sound := by
  obtain ⟨σ', hσ', rfl⟩ := Option.map_eq_some_iff.mp hstep
  have hspeaks := speaks_of_step hσ'
  have hgrows := (moved_of_step hσ').length_le
  refine ⟨h.reachable.tail hσ' trivial, fun i => ?_, fun s hs => ?_⟩
  · rw [own_append, writtenBy_append]
    exact h.said_step hspeaks i
  · rcases List.mem_append.mp hs with hs | hs
    · exact (h.proper s hs).mono hgrows
    · exact (proper_step (.of_reachable h.reachable) hspeaks s hs).mono hgrows

theorem Sound.of_reachable (h : Reachable Traced.step free .new t) : t.Sound := by
  refine h.invariant ?_ fun _ _ _ hs hstep _ => hs.step hstep
  refine ⟨.refl, fun i => ?_, by simp [Traced.new]⟩
  exact ⟨rfl, rfl⟩

end Traced

/-! ## The result -/

/-- No stream has the id of a keep-alive. -/
lemma idOf_ne_zero (i : ℕ) : idOf i ≠ 0 := by
  intro h
  have hodd := odd_idOf i
  rw [h] at hodd
  cases hodd

/-- **A stream's own frames follow the protocol.** In every run the frames that a stream's calls put
on the shared queue are SYN, PSH and FIN in this order, with at most one FIN, and together the PSH
payloads are what `poll_write` reported as written.  Any other frame with its id is a FIN of
`route_push`, unless the ids have wrapped around. -/
theorem frames_follow_protocol {t : Traced} {i : ℕ} {st : SmuxStream}
    (h : Reachable Traced.step free .new t) (hst : t.inner.streams[i]? = some st) :
    FollowsProtocol st.id (t.own i) (t.writtenBy i) ∧
      ∀ s ∈ t.sent, s.frame.streamId = st.id → s.origin ≠ some (.stream i) →
        (s.origin = some .router ∧ s.frame = ⟨cmdFin, st.id, []⟩) ∨
          idCount < t.inner.streams.length := by
  have hsound := Traced.Sound.of_reachable h
  have hid : st.id = idOf i := (Inner.Numbered.of_reachable hsound.reachable).stream i st hst
  have hlt : i < t.inner.streams.length := (List.getElem?_eq_some_iff.mp hst).1
  refine ⟨?_, fun s hs hbears horigin => ?_⟩
  · have hsaid := hsound.said i
    rw [writeSide_eq hst] at hsaid
    exact hsaid.followsProtocol
  · rcases hsound.proper s hs with ⟨j, hj, hjlt, hjid⟩ | ⟨id, hrouter, hframe⟩ | ⟨-, hframe⟩
    · refine .inr (Nat.lt_of_not_le fun hle => horigin ?_)
      obtain rfl : j = i := idOf_inj (by omega) (by omega) (by rw [← hjid, hbears, hid])
      exact hj
    · refine .inl ⟨hrouter, ?_⟩
      rw [hframe] at hbears ⊢
      rw [← hbears]
    · rw [hframe, hid] at hbears
      exact absurd hbears.symm (idOf_ne_zero i)

/-- A stream is opened, written to, shut down and dropped. -/
def writtenRun : List Label :=
  [.openAdmit, .openNumber, .openRegister 0, .openReturn 0, .pollWrite 0 [1, 2, 3],
    .pollShutdown 0, .dropStream 0, .dropRemove 0, .dropRelease 0]

theorem frames_follow_protocol_written :
    ∃ (t : Traced) (st : SmuxStream), t.inner.streams[0]? = some st ∧
      t.own 0 = protocolFrames 1 [[1, 2, 3]] true ∧
      FollowsProtocol st.id (t.own 0) (t.writtenBy 0) := by
  have hrun : (run Traced.step .new writtenRun).any (fun t => t.inner.streams[0]?.isSome &&
      decide (t.own 0 = protocolFrames 1 [[1, 2, 3]] true)) = true := by decide
  obtain ⟨t, hreach, ht⟩ := exists_of_run hrun
  simp only [Bool.and_eq_true, decide_eq_true_eq] at ht
  obtain ⟨st, hst⟩ := Option.isSome_iff_exists.mp ht.1
  exact ⟨t, st, hst, ht.2, (frames_follow_protocol hreach hst).1⟩

/-- After the stream was dropped, data for it arrives. -/
def lateDataRun : List Label :=
  [.openAdmit, .openNumber, .openRegister 0, .openReturn 0, .pollShutdown 0, .dropStream 0,
    .dropRemove 0, .dropRelease 0, .routePush 1 [7], .routeStep 1]

/-- **A dropped stream answers late data with another FIN**, so that the frames with its id are not
of the form SYN, PSH, FIN. -/
theorem dropped_stream_answers_fin :
    ∃ t : Traced, Reachable Traced.step free .new t ∧ t.inner.streams.map SmuxStream.id = [1] ∧
      t.bearing 1 = [⟨cmdSyn, 1, []⟩, ⟨cmdFin, 1, []⟩, ⟨cmdFin, 1, []⟩] ∧
      t.bearing 1 ≠ [] ∧
      ¬ ∃ payloads finished, t.bearing 1 = protocolFrames 1 payloads finished := by
  have hrun : (run Traced.step .new lateDataRun).any (fun t =>
      decide (t.inner.streams.map SmuxStream.id = [1]) &&
      decide (t.bearing 1 = [⟨cmdSyn, 1, []⟩, ⟨cmdFin, 1, []⟩, ⟨cmdFin, 1, []⟩])) = true := by
    decide
  obtain ⟨t, hreach, ht⟩ := exists_of_run hrun
  simp only [Bool.and_eq_true, decide_eq_true_eq] at ht
  obtain ⟨hids, hbearing⟩ := ht
  refine ⟨t, hreach, hids, hbearing, by simp [hbearing], ?_⟩
  rintro ⟨payloads, finished, hframes⟩
  rw [hbearing] at hframes
  cases payloads with
  | nil => cases finished <;> cases hframes
  | cons payload rest => cases hframes

end SsmBridge.Smux
