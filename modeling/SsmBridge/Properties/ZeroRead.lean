import SsmBridge.Construction.RouterMoves
import SsmBridge.Properties.Lanes

/-!
# A read of no bytes

For whoever copies out of a stream a read that returns without a byte is the end of file.
`EofOnly` says that a step of `poll_read` keeps to this.

A read can return nothing in three ways: the stream is at its end, the caller's buffer has no room,
or the chunk it serves from is empty.  Remainders are never empty; a chunk off the queue is a PSH
payload, and the frame parser takes frames of length zero.  `zero_read_is_eof` is the result for
runs in which no such frame arrives for an open stream.
-/

namespace SsmBridge.Smux

open Machine

/-! ## What a read returns -/

/-- What a step of `poll_read` puts into the caller's buffer, if the call returns with it: a read
that finds the queue empty returns only if the session is closed. -/
def readReturn (σ : Inner) : Label → Option Bytes
  | .pollRead i size =>
      match σ.streams[i]? with
      | some st =>
          if st.readClosed then some []
          else
            match st.remainder, st.queue with
            | some chunk, _ => some (chunk.take size)
            | none, chunk :: _ => some (chunk.take size)
            | none, [] => if σ.senderAlive i st then none else some []
      | none => none
  | .pollClosed _ => if σ.closed then some [] else none
  | _ => none

/-- The step is one of a read of this stream, with room in the caller's buffer. -/
def Label.readsInto (i : ℕ) : Label → Bool
  | .pollRead j size => j == i && decide (0 < size)
  | .pollClosed j => j == i
  | _ => false

/-- A read with room returns without a byte only at the end of file. -/
def EofOnly (σ : Inner) (l : Label) (σ' : Inner) : Prop :=
  ∀ i, l.readsInto i = true → readReturn σ l = some [] →
    ∃ st, σ'.streams[i]? = some st ∧ st.readClosed = true

/-- No empty frame arrives for a stream that is in the map. -/
def Inner.takesBytes (σ : Inner) : Label → Bool
  | .routePush id payload => !payload.isEmpty || (σ.lookup id).isNone
  | _ => true

/-! ## Chunks that are not empty -/

/-- Neither a chunk in the queue nor the remainder is empty. -/
def SmuxStream.Filled (st : SmuxStream) : Prop := [] ∉ st.queue ∧ st.remainder ≠ some []

/-- The same of all streams, and of the payload that is being queued. -/
structure Inner.Filled (σ : Inner) : Prop where
  streams : ∀ (i : ℕ) (st : SmuxStream), σ.streams[i]? = some st → st.Filled
  router : ∀ i id payload, σ.router = .sending i id payload → payload ≠ []

section

variable {σ σ' : Inner} {st : SmuxStream} {l : Label} {i : ℕ} {f : SmuxStream → SmuxStream}

/-- What a read leaves of a chunk is not empty. -/
lemma SmuxStream.Filled.serve (h : st.Filled) (size : ℕ) (chunk : Bytes) :
    (st.serve size chunk).Filled := by
  refine ⟨h.1, ?_⟩
  unfold SmuxStream.serve
  dsimp only
  split
  · simp
  · next hne => simpa using hne

namespace Inner.Filled

lemma of_eq (h : σ.Filled) (hstreams : σ'.streams = σ.streams) (hrouter : σ'.router = σ.router) :
    σ'.Filled :=
  ⟨by rw [hstreams]; exact h.streams, by rw [hrouter]; exact h.router⟩

lemma modify (h : σ.Filled) (i : ℕ) (hf : ∀ st, st.Filled → (f st).Filled) :
    (σ.modify i f).Filled := by
  refine ⟨fun j st hst => ?_, h.router⟩
  rw [Inner.getElem?_modify] at hst
  split at hst
  · obtain ⟨st', hst', rfl⟩ := Option.map_eq_some_iff.mp hst
    exact hf st' (h.streams j st' hst')
  · exact h.streams j st hst

lemma unlist (h : σ.Filled) (id : UInt32) : (σ.unlist id).Filled := by
  refine ⟨fun j st hst => ?_, h.router⟩
  rw [Inner.getElem?_unlist] at hst
  obtain ⟨st', hst', rfl⟩ := Option.map_eq_some_iff.mp hst
  have hfilled := h.streams j st' hst'
  split <;> exact hfilled

lemma moveRouter (h : σ.Filled) {r : RouterPc} (hr : ∀ i id payload, r ≠ .sending i id payload) :
    (σ.moveRouter r).Filled :=
  ⟨h.streams, fun i id payload hsend => absurd hsend (hr i id payload)⟩

lemma tryFrame (h : σ.Filled) (frame : Frame) : (σ.tryFrame frame).Filled := by
  unfold Inner.tryFrame
  split
  · exact h.of_eq rfl rfl
  · exact h

/-- A step keeps the chunks filled, unless it takes an empty frame for an open stream. -/
lemma step (h : σ.Filled) (hstep : σ.step l = some σ') (htakes : σ.takesBytes l = true) :
    σ'.Filled := by
  cases takes_of_step hstep with
  | openAdmit | finUnknown | closeNotify | closeLock | frameTaken | framesDropped | dieEnabled
  | write =>
    exact h.of_eq rfl rfl
  | readClosed | writeRefused | shutdownIdle => exact h
  | openNumber =>
    refine ⟨fun i st hst => ?_, h.router⟩
    obtain ⟨-, rfl⟩ | ⟨-, hst⟩ := getElem?_of_concat hst
    · exact ⟨by simp [SmuxStream.new], by simp [SmuxStream.new]⟩
    · exact h.streams i st hst
  | openRegister | openWithdraw | dropRemove =>
    exact (h.unlist _).modify _ fun _ hst => hst
  | openReturn | shutdown | dropStream =>
    exact (h.of_eq rfl rfl : (Inner.enqueue σ _).Filled).modify _ fun _ hst => hst
  | openRefuse | closeSweep | readPending | readEnd | pollThrottled | pollClosed | shutdownGone
  | dropQuietly | dropRelease =>
    exact h.modify _ fun _ hst => hst
  | @pushFound id payload i _ _ hfound =>
    refine ⟨h.streams, fun i' id' payload' hsend => ?_⟩
    cases hsend
    simpa [Inner.takesBytes, hfound] using htakes
  | pushUnknown =>
    exact (h.of_eq rfl rfl : (Inner.record σ _).Filled).moveRouter (by simp)
  | sendGone | sendFull => exact h.moveRouter (by simp)
  | @sendQueued id payload i st hsend _ =>
    have hpayload := h.router i id payload hsend
    refine Inner.Filled.moveRouter (Inner.Filled.modify h i fun st hst => ?_) ?_
    · exact ⟨by simpa [hst.1] using hpayload.symm, hst.2⟩
    · simp
  | evict =>
    refine Inner.Filled.moveRouter (h.modify _ fun _ hst => ?_) ?_
    · exact hst
    · simp
  | remove =>
    refine (h.unlist _).moveRouter fun i id payload => ?_
    split <;> simp
  | reply => exact (h.tryFrame _).moveRouter (by simp)
  | finFound =>
    exact ((h.of_eq rfl rfl : (Inner.record σ _).Filled).unlist _).modify _ fun _ hst => hst
  | close =>
    unfold Smux.close
    split
    · exact h
    · exact h.of_eq rfl rfl
  | closeClear =>
    refine ⟨fun i st hst => ?_, h.router⟩
    rw [List.getElem?_map] at hst
    obtain ⟨st', hst', rfl⟩ := Option.map_eq_some_iff.mp hst
    exact h.streams i st' hst'
  | readRemainder => exact h.modify _ fun _ hst => hst.serve _ _
  | @readQueue i size st chunk rest hst _ _ _ hqueue =>
    have hrest : [] ∉ rest := fun hmem => by
      refine (h.streams i st hst).1 ?_
      rw [hqueue]
      exact List.mem_cons_of_mem _ hmem
    refine h.modify i fun st' hst' => SmuxStream.Filled.serve ?_ size chunk
    exact ⟨hrest, hst'.2⟩
  | keepAlive => exact h.tryFrame _

end Inner.Filled

/-- A read of filled chunks is a read of bytes, or the end of file. -/
lemma Inner.Filled.eofOnly (h : σ.Filled) (hstep : σ.step l = some σ') : EofOnly σ l σ' := by
  intro i hreads hnothing
  have htake : ∀ {size : ℕ} {chunk : Bytes}, 0 < size → chunk ≠ [] → chunk.take size ≠ [] := by
    intro size chunk hsize hchunk htake
    rcases List.take_eq_nil_iff.mp htake with hzero | hnil
    · omega
    · exact hchunk hnil
  cases takes_of_step hstep with
  | @readClosed j size st hst hclosed =>
    obtain ⟨rfl, -⟩ : j = i ∧ 0 < size := by simpa [Label.readsInto] using hreads
    exact ⟨st, hst, hclosed⟩
  | @readRemainder j size st chunk hst _ hopen hrem =>
    obtain ⟨rfl, hsize⟩ : j = i ∧ 0 < size := by simpa [Label.readsInto] using hreads
    have hchunk : chunk ≠ [] := fun hnil => (h.streams j st hst).2 (hnil ▸ hrem)
    refine absurd ?_ (htake hsize hchunk)
    simpa [readReturn, hst, hopen, hrem] using hnothing
  | @readQueue j size st chunk rest hst _ hopen hrem hqueue =>
    obtain ⟨rfl, hsize⟩ : j = i ∧ 0 < size := by simpa [Label.readsInto] using hreads
    have hchunk : chunk ≠ [] := fun hnil => (h.streams j st hst).1 (by simp [hqueue, hnil])
    refine absurd ?_ (htake hsize hchunk)
    simpa [readReturn, hst, hopen, hrem, hqueue] using hnothing
  | @readPending j size st hst _ hopen hrem hqueue halive =>
    simp [readReturn, hst, hopen, hrem, hqueue, halive] at hnothing
  | @readEnd j size st hst _ _ _ _ _ =>
    obtain ⟨rfl, -⟩ : j = i ∧ 0 < size := by simpa [Label.readsInto] using hreads
    exact ⟨{ st with readClosed := true }, by simp [hst], rfl⟩
  | @pollClosed j st hst _ =>
    obtain rfl : j = i := by simpa [Label.readsInto] using hreads
    have hclosed : σ.closed = true := by simpa [readReturn] using hnothing
    exact ⟨{ st with polling := false, readClosed := σ.closed }, by simp [hst], hclosed⟩
  | _ => cases hreads

end

/-! ## The result -/

/-- **A zero-byte read means end of file.** In every run in which no PSH frame of length zero
arrives for an open stream, whatever the order of frames, reads and other calls. -/
theorem zero_read_is_eof {σ σ' : Inner} {l : Label}
    (h : Reachable Inner.step (fun σ l _ => σ.takesBytes l = true) .new σ)
    (hstep : σ.step l = some σ') : EofOnly σ l σ' := by
  have hfilled : σ.Filled := by
    refine h.invariant ?_ fun _ _ _ hs hs' hguard => hs.step hs' hguard
    exact ⟨by simp [Inner.new], by simp [Inner.new]⟩
  exact hfilled.eofOnly hstep

/-- A stream is opened and one frame of a byte is queued for it. -/
def oneByteRun : List Label :=
  [.openAdmit, .openNumber, .openRegister 0, .openReturn 0, .routePush 1 [7], .routeStep 1]

theorem zero_read_is_eof_one_byte :
    ∃ σ, σ.streams.map SmuxStream.queue = [[[7]]] ∧
      ∀ σ', σ.step (.pollRead 0 64) = some σ' → EofOnly σ (.pollRead 0 64) σ' := by
  have hrun : (runIf Inner.step (fun σ l _ => σ.takesBytes l) .new oneByteRun).any
      (fun σ => decide (σ.streams.map SmuxStream.queue = [[[7]]])) = true := by decide
  obtain ⟨σ, hreach, hqueue⟩ := exists_of_runIf (fun _ _ _ h => h) hrun
  exact ⟨σ, by simpa using hqueue, fun σ' hstep => zero_read_is_eof hreach hstep⟩

/-- The same with an empty frame before. -/
def emptyFrameRun : List Label :=
  [.openAdmit, .openNumber, .openRegister 0, .openReturn 0, .routePush 1 [], .routeStep 1,
    .routePush 1 [7], .routeStep 1]

/-- The read half of each stream: its end of file, and what is queued. -/
def Inner.readSides (σ : Inner) : List (Bool × List Bytes) :=
  σ.streams.map fun st => (st.readClosed, st.queue)

/-- **An empty frame ends a copy.** A PSH frame of length zero is a valid frame; the read that meets
it returns without a byte, although the stream is open and a byte is queued. -/
theorem empty_frame_reads_as_eof :
    decodeFrame (encode cmdPsh 1 []) = .item ⟨cmdPsh, 1, []⟩ [] ∧
    ∃ σ σ', Reachable Inner.step free .new σ ∧ σ.step (.pollRead 0 64) = some σ' ∧
      readReturn σ (.pollRead 0 64) = some [] ∧ σ'.readSides = [(false, [[7]])] ∧
      ¬ EofOnly σ (.pollRead 0 64) σ' := by
  have hrun : (run Inner.step .new emptyFrameRun).any (fun σ =>
      decide (readReturn σ (.pollRead 0 64) = some []) &&
        (σ.step (.pollRead 0 64)).any
          (fun σ' => decide (σ'.readSides = [(false, [[7]])]))) = true := by
    decide
  obtain ⟨σ, hreach, hσ⟩ := exists_of_run hrun
  simp only [Bool.and_eq_true, decide_eq_true_eq, Option.any_eq_true] at hσ
  obtain ⟨hnothing, σ', hstep, hsides⟩ := hσ
  refine ⟨by decide, σ, σ', hreach, hstep, hnothing, hsides, fun h => ?_⟩
  obtain ⟨st, hst, hclosed⟩ := h 0 rfl hnothing
  have hside : σ'.readSides[0]? = some (st.readClosed, st.queue) := by simp [Inner.readSides, hst]
  rw [hsides, hclosed] at hside
  cases hside

end SsmBridge.Smux
