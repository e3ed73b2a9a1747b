import SsmBridge.Construction.Router

/-!
# What a step of the multiplexer does

`Inner.Takes` lists the cases of `Inner.step`: for each label the condition under which the step is
taken and the state after it.  `takes_of_step` says that the list is complete, so that an invariant
of the multiplexer is proved by one case for each entry.
-/

namespace SsmBridge.Smux

/-- The steps of the multiplexer, case by case. -/
inductive Inner.Takes (σ : Inner) : Label → Inner → Prop
  | openAdmit : Takes σ .openAdmit { σ with admitted := σ.admitted + 1 }
  | openNumber {n : ℕ} : σ.admitted = n + 1 →
      Takes σ .openNumber
        { σ with admitted := n, streams := σ.streams ++ [.new σ.nextId], nextId := σ.nextId + 2 }
  | openRegister {i : ℕ} {st : SmuxStream} : σ.streams[i]? = some st → st.phase = .numbered →
      Takes σ (.openRegister i) ((σ.unlist st.id).modify i (fun st =>
        { st with phase := .registered, listed := true, since := (σ.routedTo st.id).length }))
  | openReturn {i : ℕ} {st : SmuxStream} : σ.streams[i]? = some st → st.phase = .registered →
      σ.framesRoom = true →
      Takes σ (.openReturn i)
        ((σ.enqueue ⟨cmdSyn, st.id, []⟩).modify i (fun st => { st with phase := .held }))
  | openRefuse {i : ℕ} {st : SmuxStream} : σ.streams[i]? = some st → st.phase = .registered →
      Takes σ (.openRefuse i) (σ.modify i (fun st => { st with phase := .refused }))
  | openWithdraw {i : ℕ} {st : SmuxStream} : σ.streams[i]? = some st → st.phase = .refused →
      Takes σ (.openWithdraw i) ((σ.unlist st.id).modify i (fun st => { st with phase := .failed }))
  | pushFound {id : UInt32} {payload : Bytes} {i : ℕ} : σ.router = .idle → σ.locked = false →
      σ.lookup id = some i →
      Takes σ (.routePush id payload)
        ((σ.record ⟨cmdPsh, id, payload⟩).moveRouter (.sending i id payload))
  | pushUnknown {id : UInt32} {payload : Bytes} : σ.router = .idle → σ.locked = false →
      σ.lookup id = none →
      Takes σ (.routePush id payload)
        ((σ.record ⟨cmdPsh, id, payload⟩).moveRouter (.replying none id))
  | sendGone {id : UInt32} {payload : Bytes} {i : ℕ} {st : SmuxStream} :
      σ.router = .sending i id payload → σ.streams[i]? = some st → st.gone = true →
      Takes σ (.routeStep id) (σ.moveRouter (.removing i id false))
  | sendFull {id : UInt32} {payload : Bytes} {i : ℕ} {st : SmuxStream} :
      σ.router = .sending i id payload → σ.streams[i]? = some st →
      streamQueueDepth ≤ st.queue.length →
      Takes σ (.routeStep id) (σ.moveRouter (.evicting i id))
  | sendQueued {id : UInt32} {payload : Bytes} {i : ℕ} {st : SmuxStream} :
      σ.router = .sending i id payload → σ.streams[i]? = some st →
      Takes σ (.routeStep id)
        ((σ.modify i (fun st => { st with queue := st.queue ++ [payload] })).moveRouter .idle)
  | evict {id : UInt32} {i : ℕ} : σ.router = .evicting i id →
      Takes σ (.routeStep id)
        ((σ.modify i (fun st => { st with tag := some .slowConsumer })).moveRouter
          (.removing i id true))
  | remove {id : UInt32} {i : ℕ} {evicted : Bool} : σ.router = .removing i id evicted →
      Takes σ (.routeStep id)
        ((σ.unlist id).moveRouter (if evicted then .replying (some i) id else .idle))
  | reply {id : UInt32} {found : Option ℕ} : σ.router = .replying found id →
      Takes σ (.routeStep id) ((σ.tryFrame ⟨cmdFin, id, []⟩).moveRouter .idle)
  | finFound {id : UInt32} {payload : Bytes} {i : ℕ} : σ.router = .idle → σ.lookup id = some i →
      Takes σ (.routeFin id payload)
        (((σ.record ⟨cmdFin, id, payload⟩).unlist id).modify i (SmuxStream.close .clean))
  | finUnknown {id : UInt32} {payload : Bytes} : σ.router = .idle → σ.lookup id = none →
      Takes σ (.routeFin id payload) (σ.record ⟨cmdFin, id, payload⟩)
  | close {reason : StreamCloseReason} : Takes σ (.close reason) (Smux.close σ reason)
  | closeNotify {r : StreamCloseReason} : σ.closing = .notifying r →
      Takes σ .closeStep { σ with die := σ.die.notifyWaiters, closing := .locking r }
  | closeLock {r : StreamCloseReason} : σ.closing = .locking r →
      Takes σ .closeStep { σ with closing := .sweeping r }
  | closeClear {r : StreamCloseReason} : σ.closing = .sweeping r →
      Takes σ .closeStep
        { σ with streams := σ.streams.map (fun st => { st with listed := false })
                 closing := .completed r }
  | closeSweep {i : ℕ} {r : StreamCloseReason} {st : SmuxStream} : σ.closing = .sweeping r →
      σ.streams[i]? = some st → st.listed = true →
      Takes σ (.closeSweep i) (σ.modify i (SmuxStream.close r))
  | readClosed {i size : ℕ} {st : SmuxStream} : σ.streams[i]? = some st → st.readClosed = true →
      Takes σ (.pollRead i size) σ
  | readRemainder {i size : ℕ} {st : SmuxStream} {chunk : Bytes} : σ.streams[i]? = some st →
      st.phase = .held → st.readClosed = false → st.remainder = some chunk →
      Takes σ (.pollRead i size) (σ.modify i (fun st => st.serve size chunk))
  | readQueue {i size : ℕ} {st : SmuxStream} {chunk : Bytes} {rest : List Bytes} :
      σ.streams[i]? = some st → st.phase = .held → st.readClosed = false → st.remainder = none →
      st.queue = chunk :: rest →
      Takes σ (.pollRead i size)
        (σ.modify i (fun st => ({ st with queue := rest } : SmuxStream).serve size chunk))
  | readPending {i size : ℕ} {st : SmuxStream} : σ.streams[i]? = some st → st.phase = .held →
      st.readClosed = false → st.remainder = none → st.queue = [] → σ.senderAlive i st = true →
      Takes σ (.pollRead i size) (σ.modify i (fun st => { st with polling := true }))
  | readEnd {i size : ℕ} {st : SmuxStream} : σ.streams[i]? = some st → st.phase = .held →
      st.readClosed = false → st.remainder = none → st.queue = [] → σ.senderAlive i st = false →
      Takes σ (.pollRead i size) (σ.modify i (fun st => { st with readClosed := true }))
  | pollThrottled {i : ℕ} {st : SmuxStream} : σ.streams[i]? = some st → st.phase = .held →
      Takes σ (.pollThrottled i) (σ.modify i (fun st => { st with polling := true }))
  | pollClosed {i : ℕ} {st : SmuxStream} : σ.streams[i]? = some st → st.polling = true →
      Takes σ (.pollClosed i)
        (σ.modify i (fun st => { st with polling := false, readClosed := σ.closed }))
  | writeRefused {i : ℕ} {data : Bytes} {st : SmuxStream} : σ.streams[i]? = some st →
      (st.writeClosed || σ.closed || !σ.framesRoom) = true → Takes σ (.pollWrite i data) σ
  | write {i : ℕ} {data : Bytes} {st : SmuxStream} : σ.streams[i]? = some st → st.phase = .held →
      (st.writeClosed || σ.closed || !σ.framesRoom) = false →
      Takes σ (.pollWrite i data) (σ.enqueue ⟨cmdPsh, st.id, data.take maxFramePayload⟩)
  | shutdownIdle {i : ℕ} {st : SmuxStream} : σ.streams[i]? = some st →
      Takes σ (.pollShutdown i) σ
  | shutdownGone {i : ℕ} {st : SmuxStream} : σ.streams[i]? = some st → st.phase = .held →
      st.writeClosed = false →
      Takes σ (.pollShutdown i) (σ.modify i (fun st => { st with writeClosed := true }))
  | shutdown {i : ℕ} {st : SmuxStream} : σ.streams[i]? = some st → st.phase = .held →
      st.writeClosed = false →
      Takes σ (.pollShutdown i)
        ((σ.enqueue ⟨cmdFin, st.id, []⟩).modify i (fun st => { st with writeClosed := true }))
  | dropQuietly {i : ℕ} {st : SmuxStream} : σ.streams[i]? = some st → st.phase = .held →
      Takes σ (.dropStream i) (σ.modify i (fun st => { st with phase := .dropping }))
  | dropStream {i : ℕ} {st : SmuxStream} : σ.streams[i]? = some st → st.phase = .held →
      st.writeClosed = false →
      Takes σ (.dropStream i)
        ((σ.enqueue ⟨cmdFin, st.id, []⟩).modify i (fun st => { st with phase := .dropping }))
  | dropRemove {i : ℕ} {st : SmuxStream} : σ.streams[i]? = some st → st.phase = .dropping →
      Takes σ (.dropRemove i) ((σ.unlist st.id).modify i (fun st => { st with phase := .removed }))
  | dropRelease {i : ℕ} {st : SmuxStream} : σ.streams[i]? = some st → st.phase = .removed →
      Takes σ (.dropRelease i) (σ.modify i (fun st => { st with phase := .dropped }))
  | frameTaken {frame : Frame} {rest : List Frame} : σ.frames = frame :: rest →
      Takes σ .frameTaken { σ with frames := rest }
  | framesDropped : Takes σ .framesDropped { σ with frames := [], framesOpen := false }
  | keepAlive : Takes σ .keepAlive (σ.tryFrame ⟨cmdNop, 0, []⟩)
  | dieEnabled : Takes σ .dieEnabled { σ with die := σ.die.enable.2 }

section

variable {σ σ' : Inner} {id : UInt32} {i : ℕ} {st : SmuxStream} {l : Label}

lemma takes_routeStep (h : routeStep σ id = some σ') : σ.Takes (.routeStep id) σ' := by
  unfold routeStep at h
  split at h
  · next hid =>
    split at h
    · cases h
    · next i id' payload hpc =>
      obtain rfl : id' = id := by simpa [hpc, RouterPc.id?] using hid
      split at h
      · next st hst =>
        split at h
        · next hgone =>
          cases h
          exact .sendGone hpc hst hgone
        · split at h
          · next hfull =>
            cases h
            exact .sendFull hpc hst hfull
          · cases h
            exact .sendQueued hpc hst
      · cases h
    · next i id' hpc =>
      obtain rfl : id' = id := by simpa [hpc, RouterPc.id?] using hid
      cases h
      exact .evict hpc
    · next i id' evicted hpc =>
      obtain rfl : id' = id := by simpa [hpc, RouterPc.id?] using hid
      split at h
      · cases h
      · cases h
        exact .remove hpc
    · next found id' hpc =>
      obtain rfl : id' = id := by simpa [hpc, RouterPc.id?] using hid
      cases h
      exact .reply hpc
  · cases h

lemma takes_pollRead {size : ℕ} (h : pollRead σ i size = some σ') :
    σ.Takes (.pollRead i size) σ' := by
  unfold pollRead at h
  split at h
  · next st hst =>
    split at h
    · cases h
    · next hheld =>
      simp only [ne_eq, not_or, not_not] at hheld
      split at h
      · next hclosed =>
        cases h
        exact .readClosed hst hclosed
      · next hopen =>
        have hopen : st.readClosed = false := by simpa using hopen
        split at h
        · next chunk hrem =>
          cases h
          exact .readRemainder hst hheld.1 hopen hrem
        · next chunk rest hrem hqueue =>
          cases h
          exact .readQueue hst hheld.1 hopen hrem hqueue
        · next hrem hqueue =>
          split at h
          · next halive =>
            cases h
            exact .readPending hst hheld.1 hopen hrem hqueue halive
          · next halive =>
            cases h
            exact .readEnd hst hheld.1 hopen hrem hqueue (by simpa using halive)
  · cases h

lemma takes_pollShutdown (h : pollShutdown σ i = some σ') : σ.Takes (.pollShutdown i) σ' := by
  unfold pollShutdown at h
  split at h
  · next st hst =>
    split at h
    · cases h
    · next hheld =>
      have hheld : st.phase = .held := by simpa using hheld
      split at h
      · cases h
        exact .shutdownIdle hst
      · next hopen =>
        have hopen : st.writeClosed = false := by simpa using hopen
        split at h
        · cases h
          exact .shutdownGone hst hheld hopen
        · split at h
          · cases h
            exact .shutdown hst hheld hopen
          · cases h
            exact .shutdownIdle hst
  · cases h

lemma takes_dropStream (h : dropStream σ i = some σ') : σ.Takes (.dropStream i) σ' := by
  unfold dropStream at h
  split at h
  · next st hst =>
    split at h
    · cases h
    · next hheld =>
      simp only [ne_eq, not_or, not_not] at hheld
      cases h
      cases hclosed : st.writeClosed with
      | true => exact .dropQuietly hst hheld.1
      | false =>
        simp only [Bool.false_eq_true, if_false, Inner.tryFrame]
        split
        · exact .dropStream hst hheld.1 hclosed
        · exact .dropQuietly hst hheld.1
  · cases h

/-- **A step is one of the cases.** Each names the stream it is about and says what becomes of it;
all other streams are as before. -/
theorem takes_of_step (h : σ.step l = some σ') : σ.Takes l σ' := by
  cases l with
  | openAdmit =>
    simp only [Inner.step, Smux.openAdmit] at h
    split at h <;> cases h
    exact .openAdmit
  | openNumber =>
    simp only [Inner.step, Smux.openNumber] at h
    split at h
    · cases h
    · next n hn =>
      cases h
      exact .openNumber hn
  | openRegister i =>
    simp only [Inner.step, Smux.openRegister] at h
    split at h
    · next st hst _ =>
      split at h
      · next hphase =>
        cases h
        exact .openRegister hst hphase
      · cases h
    · cases h
  | openReturn i =>
    simp only [Inner.step, Smux.openReturn] at h
    split at h
    · next st hst =>
      split at h
      · next hphase hroom =>
        cases h
        exact .openReturn hst hphase hroom
      · cases h
    · cases h
  | openRefuse i =>
    simp only [Inner.step, Smux.openRefuse] at h
    split at h
    · next st hst =>
      split at h
      · next hphase _ =>
        cases h
        exact .openRefuse hst hphase
      · cases h
    · cases h
  | openWithdraw i =>
    simp only [Inner.step, Smux.openWithdraw] at h
    split at h
    · next st hst _ =>
      split at h
      · next hphase =>
        cases h
        exact .openWithdraw hst hphase
      · cases h
    · cases h
  | routePush id payload =>
    simp only [Inner.step, Smux.routePush] at h
    split at h
    · next hidle hlocked =>
      split at h
      · next i hi =>
        cases h
        exact .pushFound hidle hlocked hi
      · next hnone =>
        cases h
        exact .pushUnknown hidle hlocked hnone
    · cases h
  | routeStep id => exact takes_routeStep h
  | routeFin id payload =>
    simp only [Inner.step, Smux.routeFin] at h
    split at h
    · next hidle _ =>
      split at h
      · next i hi =>
        cases h
        exact .finFound hidle hi
      · next hnone =>
        cases h
        exact .finUnknown hidle hnone
    · cases h
  | close reason =>
    cases h
    exact .close
  | closeStep =>
    simp only [Inner.step, Smux.closeStep] at h
    split at h
    · next r hr =>
      cases h
      exact .closeNotify hr
    · next r hr =>
      cases h
      exact .closeLock hr
    · next r hr =>
      split at h <;> cases h
      exact .closeClear hr
    · cases h
    · cases h
  | closeSweep i =>
    simp only [Inner.step, Smux.closeSweep] at h
    split at h
    · next r st hr hst =>
      split at h
      · next hlisted =>
        cases h
        exact .closeSweep hr hst hlisted
      · cases h
    · cases h
  | pollRead i size => exact takes_pollRead h
  | pollThrottled i =>
    simp only [Inner.step, Smux.pollThrottled] at h
    split at h
    · next st hst =>
      split at h
      · cases h
      · next hheld =>
        cases h
        exact .pollThrottled hst (by simpa using (not_or.mp hheld).1)
    · cases h
  | pollClosed i =>
    simp only [Inner.step, Smux.pollClosed] at h
    split at h
    · next st hst =>
      split at h
      · next hpolling =>
        cases h
        exact .pollClosed hst hpolling
      · cases h
    · cases h
  | pollWrite i data =>
    simp only [Inner.step, Smux.pollWrite] at h
    split at h
    · next st hst =>
      split at h
      · cases h
      · next hheld =>
        split at h
        · next hrefused =>
          cases h
          exact .writeRefused hst hrefused
        · next hopen =>
          cases h
          exact .write hst (by simpa using hheld) (by simpa using hopen)
    · cases h
  | pollShutdown i => exact takes_pollShutdown h
  | dropStream i => exact takes_dropStream h
  | dropRemove i =>
    simp only [Inner.step, Smux.dropRemove] at h
    split at h
    · next st hst _ =>
      split at h
      · next hphase =>
        cases h
        exact .dropRemove hst hphase
      · cases h
    · cases h
  | dropRelease i =>
    simp only [Inner.step, Smux.dropRelease] at h
    split at h
    · next st hst =>
      split at h
      · next hphase =>
        cases h
        exact .dropRelease hst hphase
      · cases h
    · cases h
  | frameTaken =>
    simp only [Inner.step] at h
    split at h
    · next frame rest hframes =>
      cases h
      exact .frameTaken hframes
    · cases h
  | framesDropped =>
    cases h
    exact .framesDropped
  | keepAlive =>
    cases h
    exact .keepAlive
  | dieEnabled =>
    cases h
    exact .dieEnabled

end

end SsmBridge.Smux
