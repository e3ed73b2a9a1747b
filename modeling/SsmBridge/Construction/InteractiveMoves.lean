import SsmBridge.Construction.Interactive

/-!
# What a step of the shell does

`TerminalReader.Moves` and `Shell.Acts` list what can become of the reader, and of the shell by its
own task and its terminal, with the condition under which it does; `Shell.Moves` adds what the
session does.  The lemmas `moves_of_step` and `acts_of_step` say that the lists are complete.
-/

namespace SsmBridge.Terminal

/-- What can become of the reader. -/
inductive TerminalReader.Moves (r : TerminalReader) : TerminalReader → Prop
  | checks (hstdin : r.stdin = .checking) :
      Moves r { r with stdin := if r.running then .reading else .finished }
  | reads {chunk : Bytes} (hstdin : r.stdin = .reading) :
      Moves r { r with stdin := .sending (.input chunk), typed := r.typed ++ [chunk] }
  | ends (hstdin : r.stdin = .reading) : Moves r { r with stdin := .sending .eof }
  | retries (hstdin : r.stdin = .reading) : Moves r { r with stdin := .checking }
  | posts {event : TerminalEvent} (hstdin : r.stdin = .sending event)
      (hreceiving : r.receiving = true) :
      Moves r { r.post event with stdin := if event = .eof then .finished else .checking }
  | drops {event : TerminalEvent} (hstdin : r.stdin = .sending event)
      (hreceiving : r.receiving = false) : Moves r { r with stdin := .finished }
  | starts {size : TerminalSize} (hwatcher : r.watcher = .starting) :
      Moves r { r with watcher := .checking, last := size }
  | looks (hwatcher : r.watcher = .checking) :
      Moves r { r with watcher := if r.running then .waiting else .finished }
  | unchanged (hwatcher : r.watcher = .waiting) :
      Moves r { r with signalled := false, watcher := .checking }
  | changed {size : TerminalSize} (hwatcher : r.watcher = .waiting) (hne : size ≠ r.last) :
      Moves r { r with
        signalled := false
        last := size
        watcher := .sending size
        reported := r.reported ++ [size] }
  | postsSize {size : TerminalSize} (hwatcher : r.watcher = .sending size)
      (hreceiving : r.receiving = true) :
      Moves r { r.post (.resize size) with watcher := .checking }
  | dropsSize {size : TerminalSize} (hwatcher : r.watcher = .sending size)
      (hreceiving : r.receiving = false) : Moves r { r with watcher := .finished }
  | unwatched (hwatcher : r.watcher = .starting ∨ r.watcher = .waiting) :
      Moves r { r with watcher := .finished }
  | signals {signalled : Bool} : Moves r { r with signalled }

namespace TerminalReader

variable {r r' : TerminalReader} {tty : Tty} {l : ReaderLabel}

lemma moves_of_stdinStep (h : r.stdinStep = some r') : r.Moves r' := by
  unfold stdinStep at h
  split at h
  · next hstdin =>
    cases h
    exact .checks hstdin
  · next event hstdin =>
    split at h
    · next hreceiving =>
      cases h
      exact .drops hstdin (by simpa using hreceiving)
    · next hreceiving =>
      split at h <;> cases h
      exact .posts hstdin (by simpa using hreceiving)
  · cases h
  · cases h

lemma moves_of_watchStep (h : r.watchStep tty = some r') : r.Moves r' := by
  unfold watchStep at h
  split at h
  · next hwatcher =>
    cases h
    exact .starts hwatcher
  · next hwatcher =>
    cases h
    exact .looks hwatcher
  · next hwatcher =>
    dsimp only at h
    split at h
    · split at h <;> cases h
      · exact .unchanged hwatcher
      · next hne => exact .changed hwatcher hne
    · cases h
  · next size hwatcher =>
    split at h
    · next hreceiving =>
      cases h
      exact .dropsSize hwatcher (by simpa using hreceiving)
    · next hreceiving =>
      split at h <;> cases h
      exact .postsSize hwatcher (by simpa using hreceiving)
  · cases h

/-- **What becomes of the reader is on the list.** The stdin thread and the watcher move on
separately, and both post into the one queue of events. -/
theorem moves_of_step (h : r.step tty l = some r') : r.Moves r' := by
  cases l with
  | stdin => exact moves_of_stdinStep h
  | watch => exact moves_of_watchStep h
  | read chunk =>
    simp only [step] at h
    split at h <;> cases h
    next hread => exact .reads hread.1
  | readEnd =>
    simp only [step] at h
    split at h <;> cases h
    next hread => exact .ends hread
  | readFails kind =>
    simp only [step] at h
    split at h
    · next hread =>
      cases h
      split
      · exact .retries hread
      · exact .ends hread
    · cases h
  | watchFails =>
    simp only [step] at h
    split at h <;> cases h
    next hwatcher => exact .unwatched (.inl hwatcher)
  | signalsEnd =>
    simp only [step] at h
    split at h <;> cases h
    next hwatcher => exact .unwatched (.inr hwatcher)
  | signal =>
    cases h
    split
    · have hsame : r.Moves { r with signalled := r.signalled } := .signals
      exact hsame
    · exact .signals

end TerminalReader

/-- The command an event is forwarded as. -/
def TerminalEvent.command : TerminalEvent → Option Command
  | .input bytes => some (.data bytes)
  | .resize size => some (sizeCommand size)
  | .eof => none

/-- What can become of the shell by its own task and its terminal. -/
inductive Shell.Acts (s : Shell) : Shell → Prop
  | refused {e : Error} (hpc : s.pc = .starting) : Acts s { s with pc := .returned (.error e) }
  | begins {stdout : List Printed} (hpc : s.pc = .starting)
      (hshown : shown stdout = shown s.stdout) :
      Acts s { s with stdout, pc := .waiting }
  | woken (hpc : s.pc = .waiting) : Acts s { s with pc := .resolved }
  | notReady {e : Error} (hpc : s.pc = .waiting ∨ s.pc = .resolved) :
      Acts s { s with pc := .returned (.error e) }
  | ready {stdout : List Printed} (hpc : s.pc = .resolved)
      (hshown : shown stdout = shown s.stdout) :
      Acts s { s with stdout, pc := .entering }
  | rawFails {e : Error} (hpc : s.pc = .entering) : Acts s { s with pc := .returned (.error e) }
  | enters (hpc : s.pc = .entering) :
      Acts s { s with
        guard := some ⟨s.tty.raw⟩
        tty := { s.tty with raw := true }
        pc := if s.config.sendInitialSize then .sizing else .subscribing }
  | sizes (hpc : s.pc = .sizing) :
      Acts s { s with pc := .sendingSize (sizeCommand (.current s.tty)) }
  | checksSize {command : Command} (hpc : s.pc = .sendingSize command) :
      Acts s { s with pc := .queueingSize command }
  | waitsSize {command : Command} (hpc : s.pc = .queueingSize command) :
      Acts s { s with pc := .sendingSize command }
  | sendsSize {command : Command} (hpc : s.pc = .queueingSize command)
      (hopen : s.session.commandsOpen = true) (hroom : s.session.hasRoom = true) :
      Acts s { s with
        session := { s.session with commands := s.session.commands ++ [command] }
        accepted := s.accepted ++ [command]
        pc := .subscribing }
  | sizeFails {command : Command} {e : Error}
      (hpc : s.pc = .sendingSize command ∨ s.pc = .queueingSize command) :
      Acts s { s with pc := .failing e }
  | subscribes (hpc : s.pc = .subscribing) :
      Acts s { s with
        reader := some .start
        output := some s.session.subscribe
        pc := .selecting }
  | shows {o : OutputStream} {chunk : Bytes} {rest : List Bytes} (hpc : s.pc = .selecting)
      (ho : s.output = some o) (hqueue : o.queue = chunk :: rest) :
      Acts s { s with
        polled := s.offered
        output := some { o with queue := rest }
        pc := .writing chunk }
  | outputEnds {o : OutputStream} (hpc : s.pc = .selecting) (ho : s.output = some o)
      (hqueue : o.queue = []) (hattached : o.attached = false) :
      Acts s (Shell.pumpReturns { s with polled := s.offered } .outputEnded)
  | outputPending {o : OutputStream} (hpc : s.pc = .selecting) (ho : s.output = some o)
      (hqueue : o.queue = []) (hattached : o.attached = true) :
      Acts s { s with polled := s.offered, pc := .reading }
  | reads {r : TerminalReader} {event : TerminalEvent} {command : Command}
      {rest : List TerminalEvent} (hpc : s.pc = .reading) (hr : s.reader = some r)
      (hevents : r.events = event :: rest) (hcommand : event.command = some command) :
      Acts s { s with reader := some { r with events := rest }, pc := .sending command }
  | inputEnds {r : TerminalReader} (hpc : s.pc = .reading) (hr : s.reader = some r)
      (hend : (∃ rest, r.events = .eof :: rest) ∨
        r.events = [] ∧ r.stdin = .finished ∧ r.watcher = .finished) :
      Acts s (s.pumpReturns .inputEnded)
  | inputPending (hpc : s.pc = .reading) : Acts s { s with pc := .checking }
  | closes (hpc : s.pc = .checking) (hclosed : s.session.closed = true) :
      Acts s (s.pumpReturns .sessionClosed)
  | parks (hpc : s.pc = .checking) : Acts s { s with pc := .parked }
  | unparks (hpc : s.pc = .parked) : Acts s { s with pc := .selecting }
  | writes {chunk : Bytes} (hpc : s.pc = .writing chunk) :
      Acts s { s.print (.output chunk) with pc := .selecting }
  | writeFails {chunk : Bytes} {n : ℕ} {e : Error} (hpc : s.pc = .writing chunk) :
      Acts s ((s.print (.output (chunk.take n))).pumpReturns (.failed e))
  | checks {command : Command} (hpc : s.pc = .sending command) :
      Acts s { s with pc := .queueing command }
  | waits {command : Command} (hpc : s.pc = .queueing command) :
      Acts s { s with pc := .sending command }
  | sends {command : Command} (hpc : s.pc = .queueing command)
      (hopen : s.session.commandsOpen = true) (hroom : s.session.hasRoom = true) :
      Acts s { s with
        session := { s.session with commands := s.session.commands ++ [command] }
        accepted := s.accepted ++ [command]
        pc := .selecting }
  | sendFails {command : Command} {e : Error}
      (hpc : s.pc = .sending command ∨ s.pc = .queueing command) :
      Acts s (s.pumpReturns (.failed e))
  | leaves {how : PumpEnd} {stdout : List Printed} (hpc : s.pc = .leaving how)
      (hshown : shown stdout = shown s.stdout) :
      Acts s { s with stdout, pc := .restoring how }
  | restores {how : PumpEnd} {restored : Bool} (hpc : s.pc = .restoring how) :
      Acts s { s.restore restored with pc := .closing how }
  | readsReason {how : PumpEnd} {reason : Option CloseReason} (hpc : s.pc = .closing how) :
      Acts s { s with pc := .reporting how reason }
  | readsExitCode {how : PumpEnd} {reason : Option CloseReason} {exitCode : Option ℤ}
      (hpc : s.pc = .reporting how reason) :
      Acts s { s with pc := .ending how reason exitCode }
  | terminates {how : PumpEnd} {reason : Option CloseReason} {exitCode : Option ℤ}
      (hpc : s.pc = .ending how reason exitCode) :
      Acts s { s with
        session := s.session.close .terminated
        terminations := s.terminations + 1
        pc := .terminating how reason exitCode }
  | returns {how : PumpEnd} {reason : Option CloseReason} {exitCode : Option ℤ}
      {stdout : List Printed} (hpc : s.pc = .terminating how reason exitCode)
      (hshown : shown stdout = shown s.stdout) :
      Acts s { s with stdout, pc := .returned (how.result.map fun _ => exitCode) }
  | fails {e : Error} {restored : Bool} (hpc : s.pc = .failing e) :
      Acts s { s.restore restored with pc := .returned (.error e) }
  | abandons {restored : Bool} (hpc : s.pc.running = true) :
      Acts s { s.dropPump.restore restored with pc := .abandoned }
  | reader {l : ReaderLabel} {r r' : TerminalReader} (hr : s.reader = some r)
      (hstep : r.step s.tty l = some r') : Acts s { s with reader := some r' }
  | resizes {size : Option TerminalSize} : Acts s { s with tty := { s.tty with size } }

/-- What can become of the shell. -/
inductive Shell.Moves (s : Shell) : Shell → Prop
  | acts {s' : Shell} (h : s.Acts s') : Moves s s'
  | session {session : SessionView} (hclosed : s.session.closed = true → session.closed = true) :
      Moves s { s with session }
  | fanoutCloses {session : SessionView}
      (hclosed : s.session.closed = true → session.closed = true) :
      Moves s { s with session, output := s.output.map (fun o => { o with attached := false }) }
  | emits {chunk : Bytes} :
      Moves s { s with
        output := s.output.map (.offer chunk)
        offered := if s.receiving then s.offered ++ [chunk] else s.offered }

namespace Shell

variable {s s' : Shell} {l : ShellLabel}

lemma dispatch_cases (next : ShellPc) (failed : Error → Shell) :
    s.dispatch next failed = { s with pc := next } ∨ ∃ e, s.dispatch next failed = failed e := by
  unfold dispatch
  split
  · exact .inr ⟨_, rfl⟩
  · exact .inl rfl

/-- What becomes of a command. -/
lemma queue_cases (command : Command) (next again : ShellPc) (failed : Error → Shell) :
    (s.session.commandsOpen = true ∧ s.session.hasRoom = true ∧
      s.queue command next again failed = { s with
        session := { s.session with commands := s.session.commands ++ [command] }
        accepted := s.accepted ++ [command]
        pc := next }) ∨
    s.queue command next again failed = { s with pc := again } ∨
    ∃ e, s.queue command next again failed = failed e := by
  unfold queue
  split
  · exact .inr (.inr ⟨_, rfl⟩)
  · next hopen =>
    split
    · next hroom => exact .inl ⟨by simpa using hopen, hroom, rfl⟩
    · exact .inr (.inl rfl)

lemma acts_of_pollOutput (hpc : s.pc = .selecting) (h : s.pollOutput = some s') : s.Acts s' := by
  unfold pollOutput at h
  split at h
  · next o ho =>
    dsimp only at h
    split at h
    · next chunk rest hqueue =>
      cases h
      exact .shows hpc ho hqueue
    · next hqueue =>
      split at h <;> cases h
      · next hattached => exact .outputPending hpc ho hqueue hattached
      · next hattached => exact .outputEnds hpc ho hqueue (by simpa using hattached)
  · cases h

lemma acts_of_pollInput (hpc : s.pc = .reading) (h : s.pollInput = some s') : s.Acts s' := by
  unfold pollInput at h
  split at h
  · next r hr =>
    unfold TerminalReader.next at h
    cases hevents : r.events with
    | cons event rest =>
      rw [hevents] at h
      cases event with
      | input bytes =>
        cases h
        exact .reads hpc hr hevents rfl
      | resize size =>
        cases h
        exact .reads hpc hr hevents rfl
      | eof =>
        cases h
        exact .inputEnds hpc hr (.inl ⟨rest, hevents⟩)
    | nil =>
      rw [hevents] at h
      by_cases hfinished : r.stdin = .finished ∧ r.watcher = .finished
      · simp only [if_pos hfinished] at h
        cases h
        exact .inputEnds hpc hr (.inr ⟨hevents, hfinished⟩)
      · simp only [if_neg hfinished] at h
        cases h
        exact .inputPending hpc
  · cases h

/-- A line shows no output. -/
lemma announce_eq (text : String) :
    ∃ stdout, shown stdout = shown s.stdout ∧ s.announce text = { s with stdout } := by
  unfold announce
  split
  · exact ⟨_, by simp [shown], rfl⟩
  · exact ⟨s.stdout, rfl, rfl⟩

lemma showSessionBanner_eq :
    ∃ stdout, shown stdout = shown s.stdout ∧ s.showSessionBanner = { s with stdout } := by
  unfold showSessionBanner
  split
  · exact ⟨_, by simp [shown], rfl⟩
  · exact ⟨s.stdout, rfl, rfl⟩

lemma acts_of_advance (h : s.advance = some s') : s.Acts s' := by
  unfold advance at h
  split at h
  · next hpc =>
    split at h <;> cases h
    · obtain ⟨stdout, hshown, hs⟩ :=
        announce_eq (s := s) ("Starting session with SessionId: " ++ s.session.id)
      rw [hs]
      exact .begins hpc hshown
    · exact .refused hpc
  · next hpc =>
    split at h <;> cases h
    exact .woken hpc
  · next hpc =>
    split at h <;> cases h
    · obtain ⟨stdout, hshown, hs⟩ := showSessionBanner_eq (s := s)
      rw [hs]
      exact .ready hpc hshown
    · exact .notReady (.inr hpc)
  · next hpc =>
    cases h
    exact .enters hpc
  · next hpc =>
    cases h
    exact .sizes hpc
  · next command hpc =>
    cases h
    obtain hs | ⟨e, hs⟩ := dispatch_cases (s := s) (.queueingSize command)
      (fun e => { s with pc := .failing e }) <;> rw [hs]
    · exact .checksSize hpc
    · exact .sizeFails (.inl hpc)
  · next command hpc =>
    cases h
    obtain ⟨hopen, hroom, hs⟩ | hs | ⟨e, hs⟩ := queue_cases (s := s) command .subscribing
      (.sendingSize command) (fun e => { s with pc := .failing e }) <;> rw [hs]
    · exact .sendsSize hpc hopen hroom
    · exact .waitsSize hpc
    · exact .sizeFails (.inr hpc)
  · next hpc =>
    cases h
    exact .subscribes hpc
  · next hpc => exact acts_of_pollOutput hpc h
  · next hpc => exact acts_of_pollInput hpc h
  · next hpc =>
    cases h
    unfold pollClosed
    split
    · next hclosed => exact .closes hpc hclosed
    · exact .parks hpc
  · next hpc =>
    split at h <;> cases h
    exact .unparks hpc
  · next chunk hpc =>
    cases h
    exact .writes hpc
  · next command hpc =>
    cases h
    obtain hs | ⟨e, hs⟩ := dispatch_cases (s := s) (.queueing command)
      (fun e => s.pumpReturns (.failed e)) <;> rw [hs]
    · exact .checks hpc
    · exact .sendFails (.inl hpc)
  · next command hpc =>
    cases h
    obtain ⟨hopen, hroom, hs⟩ | hs | ⟨e, hs⟩ := queue_cases (s := s) command .selecting
      (.sending command) (fun e => s.pumpReturns (.failed e)) <;> rw [hs]
    · exact .sends hpc hopen hroom
    · exact .waits hpc
    · exact .sendFails (.inr hpc)
  · next how hpc =>
    cases h
    exact .leaves hpc (by simp [print, shown])
  · next how hpc =>
    cases h
    exact .restores hpc
  · next how hpc =>
    cases h
    exact .readsReason hpc
  · next how reason hpc =>
    cases h
    exact .readsExitCode hpc
  · next how reason exitCode hpc =>
    cases h
    exact .terminates hpc
  · next how reason exitCode hpc =>
    cases h
    obtain ⟨stdout, hshown, hs⟩ := announce_eq (s := s) (endText reason)
    rw [hs]
    exact .returns hpc hshown
  · next e hpc =>
    cases h
    exact .fails hpc
  · cases h
  · cases h

lemma moves_of_sessionStep {l : SessionLabel} (h : s.sessionStep l = some s') : s.Moves s' := by
  have hclose : ∀ reason, s.session.closed = true → (s.session.close reason).closed = true :=
    fun _ _ => rfl
  cases l with
  | setSendable sendable =>
    cases h
    exact .session id
  | setBanner banner =>
    cases h
    exact .session id
  | setExitCode code =>
    cases h
    exact .session id
  | close reason =>
    cases h
    exact .session (hclose reason)
  | fanoutClose =>
    simp only [sessionStep] at h
    split at h <;> cases h
    exact .fanoutCloses id
  | emit chunk =>
    simp only [sessionStep] at h
    split at h <;> cases h
    exact .emits
  | commandQueued command =>
    simp only [sessionStep] at h
    split at h <;> cases h
    exact .session id
  | commandTaken =>
    simp only [sessionStep] at h
    split at h <;> cases h
    exact .session id
  | commandsDropped =>
    simp only [sessionStep] at h
    split at h <;> cases h
    exact .session id

/-- **What the task and the terminal do is on the list.** The session has no part in these steps,
but for the command that is queued and the end that `terminate` brings about. -/
theorem acts_of_step (hl : l.isOwn = true) (h : s.step l = some s') : s.Acts s' := by
  cases l with
  | advance => exact acts_of_advance h
  | readyTimeout =>
    simp only [step] at h
    split at h <;> cases h
    next hwait => exact .notReady (.inl hwait.1)
  | rawFails kind message =>
    simp only [step] at h
    split at h <;> cases h
    next hpc => exact .rawFails hpc
  | writeFails n kind message =>
    simp only [step, writeFails] at h
    split at h
    · next chunk hpc =>
      cases h
      exact .writeFails hpc
    · next how hpc =>
      cases h
      exact .leaves hpc (by simp [print, shown])
    · cases h
  | restoreFails =>
    simp only [step, restoreFails] at h
    split at h
    · next how hpc =>
      cases h
      exact .restores hpc
    · next e hpc =>
      cases h
      exact .fails hpc
    · cases h
  | abandon restored =>
    simp only [step, abandon] at h
    split at h
    · cases h
    · cases h
    · next hreturned habandoned =>
      cases h
      refine .abandons ?_
      cases hpc : s.pc with
      | returned result => exact absurd hpc (hreturned result)
      | abandoned => exact absurd hpc habandoned
      | _ => rfl
  | reader l =>
    obtain ⟨r', hr', rfl⟩ := Option.map_eq_some_iff.mp h
    obtain ⟨r, hr, hstep⟩ := Option.bind_eq_some_iff.mp hr'
    exact .reader hr hstep
  | resize size =>
    cases h
    exact .resizes
  | session l => cases hl

/-- **What becomes of the shell is on the list.** To what the task does the session adds three
kinds of steps: its view changes, its fan-out closes, or it has output. -/
theorem moves_of_step (h : s.step l = some s') : s.Moves s' := by
  cases hl : l.isOwn with
  | true => exact .acts (acts_of_step hl h)
  | false =>
    cases l with
    | session l => exact moves_of_sessionStep h
    | _ => cases hl

end Shell

end SsmBridge.Terminal
