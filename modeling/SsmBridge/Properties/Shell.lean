import SsmBridge.Construction.InteractiveMoves

/-!
# What the interactive shell leaves behind

Two invariants of the shell over all its runs, with writes that fail, a terminal that refuses to
leave raw mode, and a future that is dropped wherever it is suspended.

`Shell.Tidy` follows the raw-mode guard and the end of the session: `attach` has the terminal in raw
mode from the guard to the drop of it and in no other state, and it terminates the session if and
only if it has come to the pump (`terminal_restored`).  `Shell.Shows` follows the output: what is on
the screen is what the subscription was offered, in order, and when the pump comes to an end of its
own accord everything that was offered when it last polled the output is shown (`output_shown`).
What arrives after that poll, in the same pass of the `select!`, is lost when the input or the
session turns out to have ended.
-/

namespace SsmBridge.Terminal

open Machine

/-! ## The guard and the session -/

/-- Between the guard and the drop of it. -/
def ShellPc.guarded : ShellPc → Bool
  | .sizing | .sendingSize _ | .queueingSize _ | .subscribing | .selecting | .reading | .checking
  | .parked | .writing _ | .sending _ | .queueing _ | .leaving _ | .restoring _ | .failing _ => true
  | .starting | .waiting | .resolved | .entering | .closing _ | .reporting _ _ | .ending _ _ _
  | .terminating _ _ _ | .returned _ | .abandoned => false

/-- How far `attach` has got with the session. -/
inductive ShellStage
  | before
  /-- From the start of the pump to the call of `terminate`. -/
  | pumping
  | terminating
  | returned (result : Except Error (Option ℤ))
  | abandoned

def ShellPc.stage : ShellPc → ShellStage
  | .starting | .waiting | .resolved | .entering | .sizing | .sendingSize _ | .queueingSize _
  | .subscribing | .failing _ => .before
  | .selecting | .reading | .checking | .parked | .writing _ | .sending _ | .queueing _
  | .leaving _ | .restoring _ | .closing _ | .reporting _ _ | .ending _ _ _ => .pumping
  | .terminating _ _ _ => .terminating
  | .returned result => .returned result
  | .abandoned => .abandoned

/-- What was done with the session, at each stage. -/
def ShellStage.Accounts (pumped : Bool) (terminations : ℕ) (closed : Bool) : ShellStage → Prop
  | .before => pumped = false ∧ terminations = 0
  | .pumping => pumped = true ∧ terminations = 0
  | .terminating => pumped = true ∧ terminations = 1 ∧ closed = true
  | .returned result =>
      (terminations = if pumped then 1 else 0) ∧ (pumped = true → closed = true) ∧
        ((∃ code, result = .ok code) → pumped = true)
  | .abandoned => terminations ≤ 1

/-- The guard was dropped, or the future was. -/
def ShellPc.late : ShellPc → Bool
  | .closing _ | .reporting _ _ | .ending _ _ _ | .terminating _ _ _ | .returned _
  | .abandoned => true
  | _ => false

/-- The guard and the session are accounted for; `raw` is the mode at first. -/
structure Shell.Tidy (raw : Bool) (s : Shell) : Prop where
  guard : s.guard.isSome = s.pc.guarded
  inside : ∀ g : RawModeGuard, s.guard = some g → g.wasRaw = raw ∧ s.tty.raw = true
  outside : s.guard = none → s.tty.raw = raw ∨ s.unrestored = true ∧ raw = false
  unrestored : s.unrestored = true → s.pc.late = true
  accounts : s.pc.stage.Accounts s.reader.isSome s.terminations s.session.closed

namespace Shell.Tidy

variable {raw : Bool} {s s' : Shell}

lemma new (config : InteractiveConfig) (tty : Tty) (session : SessionView) :
    (Shell.new config tty session).Tidy tty.raw where
  guard := rfl
  inside g hg := by cases hg
  outside _ := .inl rfl
  unrestored h := by cases h
  accounts := ⟨rfl, rfl⟩

/-- Nothing happens to the guard. -/
lemma keep (h : s.Tidy raw) (hguard : s'.guard = s.guard) (hraw : s'.tty.raw = s.tty.raw)
    (hunrestored : s'.unrestored = s.unrestored) (hpc : s'.pc.guarded = s.pc.guarded)
    (hlate : s.pc.late = true → s'.pc.late = true)
    (haccounts : s'.pc.stage.Accounts s'.reader.isSome s'.terminations s'.session.closed) :
    s'.Tidy raw where
  guard := by rw [hguard, hpc, h.guard]
  inside g hg := by
    rw [hraw]
    exact h.inside g (hguard ▸ hg)
  outside hnone := by
    rw [hraw, hunrestored]
    exact h.outside (hguard ▸ hnone)
  unrestored hs := hlate (h.unrestored (hunrestored ▸ hs))
  accounts := haccounts

/-- The task goes on before the guard is dropped. -/
lemma goes (h : s.Tidy raw) (hguard : s'.guard = s.guard) (hraw : s'.tty.raw = s.tty.raw)
    (hunrestored : s'.unrestored = s.unrestored) (hpc : s'.pc.guarded = s.pc.guarded)
    (hearly : s.pc.late = false)
    (haccounts : s'.pc.stage.Accounts s'.reader.isSome s'.terminations s'.session.closed) :
    s'.Tidy raw := by
  refine h.keep hguard hraw hunrestored hpc (fun hlate => ?_) haccounts
  rw [hearly] at hlate
  cases hlate

/-- What dropping the guard does to the terminal. -/
lemma restore (h : s.Tidy raw) (restored : Bool) :
    (s.restore restored).guard = none ∧
      ((s.restore restored).tty.raw = raw ∨
        (s.restore restored).unrestored = true ∧ raw = false) := by
  unfold Shell.restore
  split
  · next g hg =>
    obtain ⟨hwas, hraw⟩ := h.inside g hg
    refine ⟨rfl, ?_⟩
    subst hwas
    cases hwas : g.wasRaw <;> cases restored <;> simp [RawModeGuard.drop, hwas, hraw]
  · next hnone => exact ⟨hnone, h.outside hnone⟩

/-- The guard is dropped. -/
lemma restored {restored : Bool} {pc : ShellPc} (h : s.Tidy raw) (hpc : pc.guarded = false)
    (hlate : pc.late = true)
    (haccounts : pc.stage.Accounts s.reader.isSome s.terminations s.session.closed) :
    Shell.Tidy raw { s.restore restored with pc } := by
  obtain ⟨hnone, hraw⟩ := h.restore restored
  refine ⟨by simp [hnone, hpc], fun g hg => ?_, fun _ => hraw, fun _ => hlate, ?_⟩
  · rw [hnone] at hg
    cases hg
  · unfold Shell.restore
    split <;> exact haccounts

/-- The pump's reader and subscription are dropped. -/
lemma dropPump (h : s.Tidy raw) : s.dropPump.Tidy raw := by
  refine h.keep rfl rfl rfl rfl id ?_
  simpa [Shell.dropPump] using h.accounts

/-- The pump returns. -/
lemma pumpReturns {how : PumpEnd} (h : s.Tidy raw) (hguarded : s.pc.guarded = true)
    (hearly : s.pc.late = false) (hstage : s.pc.stage = .pumping) :
    (s.pumpReturns how).Tidy raw := by
  have haccounts := h.dropPump.accounts
  rw [show s.dropPump.pc = s.pc from rfl, hstage] at haccounts
  exact h.dropPump.goes rfl rfl rfl hguarded.symm hearly haccounts

/-- Raw mode is entered. -/
lemma enters (h : s.Tidy raw) (hpc : s.pc = .entering) {pc : ShellPc}
    (hguarded : pc.guarded = true) (hstage : pc.stage = .before) :
    Shell.Tidy raw
      { s with guard := some ⟨s.tty.raw⟩, tty := { s.tty with raw := true }, pc } := by
  have hunrestored : s.unrestored = false := by
    by_contra hs
    have hlate := h.unrestored (by simpa using hs)
    rw [hpc] at hlate
    cases hlate
  have hnone : s.guard = none := by
    have hguard := h.guard
    rw [hpc] at hguard
    simpa [ShellPc.guarded] using hguard
  have hraw : s.tty.raw = raw := by
    rcases h.outside hnone with hraw | ⟨hs, -⟩
    · exact hraw
    · rw [hunrestored] at hs
      cases hs
  have haccounts := h.accounts
  rw [hpc] at haccounts
  refine ⟨hguarded.symm, fun g hg => ?_, by simp, fun hs => ?_, ?_⟩
  · cases hg
    exact ⟨hraw, rfl⟩
  · exact absurd (hunrestored.symm.trans hs) (by simp)
  · show pc.stage.Accounts _ _ _
    rw [hstage]
    exact haccounts

/-- The session may be closed at any time. -/
lemma accounts_mono {pumped closed closed' : Bool} {terminations : ℕ} {stage : ShellStage}
    (h : stage.Accounts pumped terminations closed) (hclosed : closed = true → closed' = true) :
    stage.Accounts pumped terminations closed' := by
  cases stage with
  | before | pumping | abandoned => exact h
  | terminating => exact ⟨h.1, h.2.1, hclosed h.2.2⟩
  | returned result => exact ⟨h.1, fun hp => hclosed (h.2.1 hp), h.2.2⟩

/-- The task goes on. -/
lemma acts (h : s.Tidy raw) (hacts : s.Acts s') : s'.Tidy raw := by
  have haccounts := h.accounts
  cases hacts with
  | refused hpc | rawFails hpc =>
    rw [hpc] at haccounts
    exact h.goes rfl rfl rfl (by rw [hpc]; rfl) (by rw [hpc]; rfl)
      ⟨by simp [haccounts.1, haccounts.2], by simp [haccounts.1], by simp⟩
  | notReady hpc =>
    rcases hpc with hpc | hpc <;>
    · rw [hpc] at haccounts
      exact h.goes rfl rfl rfl (by rw [hpc]; rfl) (by rw [hpc]; rfl)
        ⟨by simp [haccounts.1, haccounts.2], by simp [haccounts.1], by simp⟩
  | begins hpc | woken hpc | ready hpc | sizes hpc | checksSize hpc | waitsSize hpc
  | sendsSize hpc | shows hpc | outputPending hpc | inputPending hpc | parks hpc | unparks hpc
  | writes hpc | checks hpc | waits hpc | sends hpc | leaves hpc =>
    rw [hpc] at haccounts
    exact h.goes rfl rfl rfl (by rw [hpc]; rfl) (by rw [hpc]; rfl) haccounts
  | sizeFails hpc =>
    rcases hpc with hpc | hpc <;>
    · rw [hpc] at haccounts
      exact h.goes rfl rfl rfl (by rw [hpc]; rfl) (by rw [hpc]; rfl) haccounts
  | readsReason hpc | readsExitCode hpc =>
    rw [hpc] at haccounts
    exact h.keep rfl rfl rfl (by rw [hpc]; rfl) (fun _ => rfl) haccounts
  | enters hpc =>
    refine h.enters hpc ?_ ?_
    · split <;> rfl
    · split <;> rfl
  | subscribes hpc | reads hpc =>
    rw [hpc] at haccounts
    exact h.goes rfl rfl rfl (by rw [hpc]; rfl) (by rw [hpc]; rfl) ⟨rfl, haccounts.2⟩
  | inputEnds hpc | closes hpc =>
    exact h.pumpReturns (by rw [hpc]; rfl) (by rw [hpc]; rfl) (by rw [hpc]; rfl)
  | sendFails hpc =>
    rcases hpc with hpc | hpc <;>
    exact h.pumpReturns (by rw [hpc]; rfl) (by rw [hpc]; rfl) (by rw [hpc]; rfl)
  | outputEnds hpc =>
    have hpolled : Shell.Tidy raw { s with polled := s.offered } :=
      h.keep rfl rfl rfl rfl id haccounts
    refine hpolled.pumpReturns ?_ ?_ ?_ <;> simp [hpc, ShellPc.guarded, ShellPc.late, ShellPc.stage]
  | @writeFails chunk n e hpc =>
    have hprinted : (s.print (.output (chunk.take n))).Tidy raw :=
      h.keep rfl rfl rfl rfl id haccounts
    refine hprinted.pumpReturns ?_ ?_ ?_ <;> simp [Shell.print, hpc, ShellPc.guarded, ShellPc.late,
      ShellPc.stage]
  | restores hpc =>
    rw [hpc] at haccounts
    exact h.restored rfl rfl haccounts
  | terminates hpc =>
    rw [hpc] at haccounts
    exact h.keep rfl rfl rfl (by rw [hpc]; rfl) (fun _ => rfl)
      ⟨haccounts.1, by rw [haccounts.2], rfl⟩
  | returns hpc =>
    rw [hpc] at haccounts
    exact h.keep rfl rfl rfl (by rw [hpc]; rfl) (fun _ => rfl)
      ⟨by simp [haccounts.1, haccounts.2.1], fun _ => haccounts.2.2, fun _ => haccounts.1⟩
  | fails hpc =>
    rw [hpc] at haccounts
    exact h.restored rfl rfl ⟨by simp [haccounts.1, haccounts.2], by simp [haccounts.1], by simp⟩
  | abandons hpc =>
    refine h.dropPump.restored rfl rfl ?_
    show s.terminations ≤ 1
    cases hstage : s.pc.stage with
    | before | pumping | terminating =>
      rw [hstage] at haccounts
      simp [ShellStage.Accounts] at haccounts
      omega
    | returned result =>
      rw [hstage] at haccounts
      rw [haccounts.1]
      split <;> omega
    | abandoned =>
      rw [hstage] at haccounts
      exact haccounts
  | reader hr =>
    rw [hr] at haccounts
    exact h.keep rfl rfl rfl rfl id haccounts
  | resizes => exact h.keep rfl rfl rfl rfl id haccounts

theorem step {l : ShellLabel} (h : s.Tidy raw) (hstep : s.step l = some s') : s'.Tidy raw := by
  cases moves_of_step hstep with
  | acts hacts => exact h.acts hacts
  | session hclosed | fanoutCloses hclosed =>
    exact h.keep rfl rfl rfl rfl id (accounts_mono h.accounts hclosed)
  | emits => exact h.keep rfl rfl rfl rfl id h.accounts

end Shell.Tidy

lemma Shell.tidy_of_reachable {config : InteractiveConfig} {tty : Tty} {session : SessionView}
    {s : Shell} (h : Reachable Shell.step free (.new config tty session) s) : s.Tidy tty.raw :=
  h.invariant (.new _ _ _) fun _ _ _ hs hstep _ => hs.step hstep

/-- **The terminal is left as it was found, and the session is released.** It is in raw mode exactly
between the guard and the drop of it, unless it refuses to leave it; and the session is terminated
once if the pump was started and not at all otherwise. -/
theorem terminal_restored {config : InteractiveConfig} {tty : Tty} {session : SessionView}
    {s : Shell} (h : Reachable Shell.step free (.new config tty session) s) :
    (s.pc.guarded = true → s.tty.raw = true) ∧
    (s.pc.guarded = false → s.tty.raw = tty.raw ∨ s.unrestored = true ∧ tty.raw = false) ∧
    s.terminations ≤ 1 ∧
    ∀ result, s.pc = .returned result →
      (s.terminations = 1 ↔ s.reader.isSome = true) ∧
      (s.reader.isSome = true → s.session.closed = true) ∧
      ((∃ code, result = .ok code) → s.reader.isSome = true) := by
  have htidy := Shell.tidy_of_reachable h
  have haccounts := htidy.accounts
  have hguard := htidy.guard
  refine ⟨fun hpc => ?_, fun hpc => htidy.outside ?_, ?_, fun result hpc => ?_⟩
  · rw [hpc] at hguard
    obtain ⟨g, hg⟩ := Option.isSome_iff_exists.mp hguard
    exact (htidy.inside g hg).2
  · rw [hpc] at hguard
    simpa using hguard
  · cases hstage : s.pc.stage with
    | before | pumping | terminating =>
      rw [hstage] at haccounts
      simp [ShellStage.Accounts] at haccounts
      omega
    | returned result =>
      rw [hstage] at haccounts
      rw [haccounts.1]
      split <;> omega
    | abandoned =>
      rw [hstage] at haccounts
      exact haccounts
  · rw [hpc] at haccounts
    obtain ⟨hterminations, hclosed, hok⟩ := haccounts
    refine ⟨?_, hclosed, hok⟩
    rw [hterminations]
    cases s.reader.isSome <;> simp

/-- The agent closes the channel with an exit code. -/
theorem terminal_restored_closed :
    ∃ s : Shell, s.pc = .returned (.ok (some 3)) ∧ s.tty.raw = false ∧ s.terminations = 1 ∧
      s.session.closed = true := by
  let session : SessionView := ⟨"s", 30, false, none, none, none, 64, false, [], true⟩
  let ls : List ShellLabel := List.flatten
    [[.advance, .session (.setSendable true)], List.replicate 7 .advance,
      [.session (.emit [104]), .advance, .advance, .session (.setExitCode (some 3)),
        .session (.close (.agentClosed (some 3) none)), .session .fanoutClose],
      List.replicate 7 .advance]
  have hrun : (run Shell.step (.new ⟨false, true⟩ ⟨true, false, none⟩ session) ls).any (fun s =>
      decide (s.pc = .returned (.ok (some 3))) &&
      decide (s.unrestored = false ∧ s.reader.isSome = true)) = true := by decide +kernel
  obtain ⟨s, hs, hp⟩ := exists_of_run hrun
  simp only [Bool.and_eq_true, decide_eq_true_eq] at hp
  obtain ⟨hpc, hunrestored, hreader⟩ := hp
  obtain ⟨-, hraw, -, hreturned⟩ := terminal_restored hs
  obtain ⟨hterminations, hclosed, -⟩ := hreturned _ hpc
  refine ⟨s, hpc, ?_, hterminations.mpr hreader, hclosed hreader⟩
  rcases hraw (by rw [hpc]; rfl) with hraw | ⟨hno, -⟩
  · exact hraw
  · rw [hunrestored] at hno
    cases hno

/-! ## The output -/

/-- The chunk that is about to be written. -/
def ShellPc.chunk : ShellPc → Bytes
  | .writing chunk => chunk
  | _ => []

/-- How the pump has ended. -/
def ShellPc.how : ShellPc → Option PumpEnd
  | .leaving how | .restoring how | .closing how | .reporting how _ | .ending how _ _
  | .terminating how _ _ => some how
  | _ => none

/-- Nothing that was offered has been given up: the pump is running, or its output has ended. -/
def ShellPc.whole (pc : ShellPc) : Bool := pc.pumps || pc.how == some .outputEnded

/-- The pump has come to an end of its own accord. -/
def PumpEnd.isOk : PumpEnd → Bool
  | .failed _ => false
  | .outputEnded | .inputEnded | .sessionClosed => true

/-- Since the pump polled the output last it has taken nothing from it, and nothing went wrong. -/
def ShellPc.settled : ShellPc → Bool
  | .reading | .checking | .parked | .sending _ | .queueing _ => true
  | .leaving how | .restoring how | .closing how | .reporting how _ | .ending how _ _
  | .terminating how _ _ => how.isOk
  | .returned (.ok _) => true
  | _ => false

/-- What the subscription was offered is on the screen, or about to be; the rest is lost. -/
structure Showing (pc : ShellPc) (screen : Bytes) (polled offered : List Bytes)
    (o : OutputStream) : Prop where
  pumps : o.dropped = false → pc.pumps = true
  dropped : o.dropped = true → pc.chunk = [] ∧ o.queue = []
  lagged : o.lagged = true → o.attached = false
  content : ∃ lost, screen ++ pc.chunk ++ o.queue.flatten ++ lost = offered.flatten ∧
    (pc.whole = true → o.lagged = false → lost = [])
  before : polled <+: offered
  settled : pc.settled = true → o.lagged = false → screen = polled.flatten

section

variable {pc pc' : ShellPc} {screen : Bytes} {polled offered : List Bytes} {o : OutputStream}

/-- A pump that has ended is not running. -/
lemma not_pumps_of_how {how : PumpEnd} (h : pc.how = some how) : pc.pumps = false := by
  cases pc <;> first | rfl | cases h

lemma whole_of_pumps (h : pc.pumps = true) : pc.whole = true := by
  rw [ShellPc.whole, h]
  rfl

/-- The agent has output. -/
lemma Showing.offer (h : Showing pc screen polled offered o) (chunk : Bytes) :
    Showing pc screen polled (if o.attached && !o.dropped then offered ++ [chunk] else offered)
      (o.offer chunk) := by
  obtain ⟨lost, hlost, hnone⟩ := h.content
  unfold OutputStream.offer
  cases hattached : o.attached with
  | false => exact ⟨h.pumps, h.dropped, h.lagged, ⟨lost, hlost, hnone⟩, h.before, h.settled⟩
  | true =>
    cases hdropped : o.dropped with
    | true =>
      simp only [Bool.not_true, Bool.and_false, Bool.false_eq_true, if_false, if_true]
      exact ⟨nofun, fun _ => h.dropped hdropped, fun _ => rfl, ⟨lost, hlost, hnone⟩, h.before,
        h.settled⟩
    | false =>
      have hwhole := whole_of_pumps (h.pumps hdropped)
      have hpolled : polled <+: offered ++ [chunk] := h.before.trans (List.prefix_append _ _)
      have hlagged : o.lagged = false := by
        by_contra hl
        have hl := h.lagged (by simpa using hl)
        rw [hattached] at hl
        cases hl
      rw [hnone hwhole hlagged, List.append_nil] at hlost
      simp only [Bool.not_true, Bool.not_false, Bool.and_true, Bool.false_eq_true, if_false,
        if_true]
      split
      · -- The subscription is evicted, and the chunk is lost.
        exact ⟨fun _ => h.pumps hdropped, nofun, fun _ => rfl, ⟨chunk, by simp [← hlost], nofun⟩,
          hpolled, nofun⟩
      · refine ⟨fun _ => h.pumps hdropped, nofun, fun hl => ?_, ⟨[], by simp [← hlost],
          fun _ _ => rfl⟩, hpolled, h.settled⟩
        exact absurd (hlagged.symm.trans hl) (by simp)

/-- The pump goes on. -/
lemma Showing.goes (h : Showing pc screen polled offered o) (hchunk : pc'.chunk = pc.chunk)
    (hpumps : pc.pumps = true → pc'.pumps = true) (hwhole : pc'.whole = true → pc.whole = true)
    (hsettled : pc'.settled = true → pc.settled = true) : Showing pc' screen polled offered o := by
  obtain ⟨lost, hlost, hnone⟩ := h.content
  refine ⟨fun hd => hpumps (h.pumps hd), fun hd => ?_, h.lagged, ⟨lost, ?_,
    fun hw => hnone (hwhole hw)⟩, h.before, fun hs => h.settled (hsettled hs)⟩
  · rw [hchunk]
    exact h.dropped hd
  · rw [hchunk]
    exact hlost

/-- The output is polled, and nothing is there. -/
lemma Showing.poll (h : Showing .selecting screen polled offered o) (hqueue : o.queue = []) :
    o.lagged = false → screen = offered.flatten := by
  intro hlagged
  obtain ⟨lost, hlost, hnone⟩ := h.content
  rw [hnone rfl hlagged, hqueue] at hlost
  simpa [ShellPc.chunk] using hlost

/-- The subscription is dropped, and what it holds is lost. -/
lemma Showing.drop (h : Showing pc screen polled offered o) (missed : Bytes)
    (hchunk : pc'.chunk = []) {screen' : Bytes} (hoffered : screen' ++ missed = offered.flatten)
    (hmissed : pc'.whole = true → o.lagged = false → missed = [])
    (hsettled : pc'.settled = true → o.lagged = false → screen' = polled.flatten) :
    Showing pc' screen' polled offered { o with queue := [], dropped := true } :=
  ⟨nofun, fun _ => ⟨hchunk, rfl⟩, h.lagged, ⟨missed, by simpa [hchunk] using hoffered, hmissed⟩,
    h.before, hsettled⟩

end

structure Shell.Shows (s : Shell) : Prop where
  before : s.pc.stage = .before → s.output = none
  nothing : s.output = none → shown s.stdout = [] ∧ s.polled = [] ∧ s.offered = [] ∧
    s.pc.pumps = false ∧ s.pc.settled = false
  showing : ∀ o, s.output = some o → Showing s.pc (shown s.stdout) s.polled s.offered o

namespace Shell.Shows

variable {s s' : Shell} {o : OutputStream}

lemma new (config : InteractiveConfig) (tty : Tty) (session : SessionView) :
    (Shell.new config tty session).Shows where
  before _ := rfl
  nothing _ := ⟨rfl, rfl, rfl, rfl, rfl⟩
  showing o ho := by cases ho

/-- Nothing happens to the output. -/
lemma keep (h : s.Shows) (houtput : s'.output = s.output)
    (hshown : shown s'.stdout = shown s.stdout) (hpolled : s'.polled = s.polled)
    (hoffered : s'.offered = s.offered) (hchunk : s'.pc.chunk = s.pc.chunk)
    (hstage : s'.pc.stage = .before → s.pc.stage = .before) (hpumps : s'.pc.pumps = s.pc.pumps)
    (hhow : s'.pc.how = some .outputEnded → s.pc.how = some .outputEnded)
    (hsettled : s'.pc.settled = true → s.pc.settled = true) : s'.Shows where
  before hs := houtput.trans (h.before (hstage hs))
  nothing hnone := by
    obtain ⟨hs, hp, ho, hpump, hsettle⟩ := h.nothing (houtput ▸ hnone)
    refine ⟨hshown.trans hs, hpolled.trans hp, hoffered.trans ho, hpumps.trans hpump, ?_⟩
    cases hs' : s'.pc.settled with
    | false => rfl
    | true => exact absurd (hsettled hs') (by simp [hsettle])
  showing o ho := by
    rw [hshown, hpolled, hoffered]
    refine (h.showing o (houtput ▸ ho)).goes hchunk (fun hp => hpumps.trans hp) (fun hw => ?_)
      hsettled
    simp only [ShellPc.whole, hpumps, Bool.or_eq_true, beq_iff_eq] at hw ⊢
    exact hw.imp id hhow

/-- The pump has a subscription. -/
lemma exists_output (h : s.Shows) (hpumps : s.pc.pumps = true ∨ s.pc.settled = true) :
    ∃ o, s.output = some o ∧ Showing s.pc (shown s.stdout) s.polled s.offered o := by
  cases ho : s.output with
  | some o => exact ⟨o, rfl, h.showing o ho⟩
  | none =>
    obtain ⟨-, -, -, hpump, hsettle⟩ := h.nothing ho
    rcases hpumps with hp | hp
    · exact absurd (hpump.symm.trans hp) (by simp)
    · exact absurd (hsettle.symm.trans hp) (by simp)

/-- There is a subscription, and this is what it has come to. -/
lemma of_some (ho : s.output = some o) (hstage : s.pc.stage ≠ .before)
    (hshowing : Showing s.pc (shown s.stdout) s.polled s.offered o) : s.Shows where
  before hs := absurd hs hstage
  nothing hnone := by
    rw [ho] at hnone
    cases hnone
  showing o' ho' := by
    cases ho.symm.trans ho'
    exact hshowing

/-- The output is polled, and nothing is there: what was offered is on the screen. -/
lemma polls (h : s.Shows) (hpc : s.pc = .selecting) (ho : s.output = some o)
    (hqueue : o.queue = []) : Shell.Shows { s with polled := s.offered, pc := .reading } := by
  have hshowing := h.showing o ho
  rw [hpc] at hshowing
  obtain ⟨lost, hlost, hnone⟩ := hshowing.content
  exact of_some ho (by simp [ShellPc.stage]) ⟨fun _ => rfl, hshowing.dropped, hshowing.lagged,
    ⟨lost, hlost, fun _ => hnone rfl⟩, List.prefix_rfl, fun _ => hshowing.poll hqueue⟩

/-- The subscription is dropped; unless the output has ended, what it still holds is lost. -/
lemma cut (pc : ShellPc) (h : s.Shows) (ho : s.output = some o) (hstage : pc.stage ≠ .before)
    (hchunk : pc.chunk = [])
    (hwhole : pc.whole = true → o.lagged = false → shown s.stdout = s.offered.flatten)
    (hsettled : pc.settled = true → s.pc.settled = true) :
    Shell.Shows { s.dropPump with pc } := by
  have hshowing := h.showing o ho
  obtain ⟨lost, hlost, -⟩ := hshowing.content
  refine of_some (o := { o with queue := [], dropped := true }) (by simp [Shell.dropPump, ho])
    hstage ?_
  have hall : shown s.stdout ++ (s.pc.chunk ++ o.queue.flatten ++ lost) = s.offered.flatten := by
    rw [← hlost]
    simp
  refine hshowing.drop (s.pc.chunk ++ o.queue.flatten ++ lost) hchunk hall (fun hw hl => ?_)
    fun hs => hshowing.settled (hsettled hs)
  rw [← hwhole hw hl] at hall
  exact List.append_right_eq_self.mp hall

/-- The guard has no part in it. -/
lemma restore (h : s.Shows) (restored : Bool) : (s.restore restored).Shows := by
  unfold Shell.restore
  split
  · exact h.keep rfl rfl rfl rfl rfl id rfl id id
  · exact h

lemma restore_pc (s : Shell) (restored : Bool) : (s.restore restored).pc = s.pc := by
  unfold Shell.restore
  split <;> rfl

lemma restore_with_pc (s : Shell) (restored : Bool) (pc : ShellPc) :
    Shell.restore { s with pc } restored = { s.restore restored with pc } := by
  obtain ⟨_, _, _, _, guard, _, _, _, _, _, _, _, _⟩ := s
  cases guard <;> rfl

/-- The task goes on. -/
lemma acts (h : s.Shows) (hacts : s.Acts s') : s'.Shows := by
  cases hacts with
  | refused hpc | woken hpc | rawFails hpc | sizes hpc | checksSize hpc | waitsSize hpc
  | sendsSize hpc | reads hpc | inputPending hpc | parks hpc | unparks hpc | checks hpc
  | waits hpc | sends hpc | readsReason hpc | readsExitCode hpc | terminates hpc =>
    refine h.keep rfl rfl rfl rfl ?_ ?_ ?_ ?_ ?_ <;>
      simp [hpc, ShellPc.chunk, ShellPc.stage, ShellPc.pumps, ShellPc.how, ShellPc.settled]
  | notReady hpc | sizeFails hpc =>
    rcases hpc with hpc | hpc <;>
    · refine h.keep rfl rfl rfl rfl ?_ ?_ ?_ ?_ ?_ <;>
        simp [hpc, ShellPc.chunk, ShellPc.stage, ShellPc.pumps, ShellPc.how, ShellPc.settled]
  | begins hpc hshown | ready hpc hshown | leaves hpc hshown =>
    refine h.keep rfl hshown rfl rfl ?_ ?_ ?_ ?_ ?_ <;>
      simp [hpc, ShellPc.chunk, ShellPc.stage, ShellPc.pumps, ShellPc.how, ShellPc.settled]
  | enters hpc =>
    refine h.keep rfl rfl rfl rfl ?_ ?_ ?_ ?_ ?_ <;> dsimp only <;> split <;>
      simp [hpc, ShellPc.chunk, ShellPc.stage, ShellPc.pumps, ShellPc.how, ShellPc.settled]
  | subscribes hpc =>
    obtain ⟨hs, hp, ho, -⟩ := h.nothing (h.before (by rw [hpc]; rfl))
    refine of_some rfl (by simp [ShellPc.stage]) ?_
    refine ⟨fun _ => rfl, fun hd => (by cases hd), fun hl => (by cases hl),
      ⟨[], ?_, fun _ _ => rfl⟩, ?_, fun hsettled => (by cases hsettled)⟩
    · simp [hs, ho, ShellPc.chunk, SessionView.subscribe]
    · simp [hp]
  | @shows o chunk rest hpc ho hqueue =>
    have hshowing := h.showing o ho
    obtain ⟨lost, hlost, hnone⟩ := hshowing.content
    refine of_some rfl (by simp [ShellPc.stage]) ⟨fun _ => rfl, fun hd => ?_, hshowing.lagged,
      ⟨lost, ?_, fun _ => hnone (by rw [hpc]; rfl)⟩, List.prefix_rfl,
      fun hsettled => (by cases hsettled)⟩
    · have hempty := (hshowing.dropped hd).2
      rw [hqueue] at hempty
      cases hempty
    · simpa [hpc, ShellPc.chunk, hqueue] using hlost
  | outputPending hpc ho hqueue => exact h.polls hpc ho hqueue
  | outputEnds hpc ho hqueue =>
    have hpolls := h.polls hpc ho hqueue
    refine hpolls.cut (.leaving .outputEnded) ho (by simp [ShellPc.stage]) rfl (fun _ hl => ?_)
      fun _ => rfl
    exact (hpolls.showing _ ho).settled rfl hl
  | inputEnds hpc | closes hpc =>
    obtain ⟨o, ho, -⟩ := h.exists_output (by rw [hpc]; exact .inl rfl)
    exact h.cut (.leaving _) ho (by simp [ShellPc.stage]) rfl (fun hw => by cases hw)
      fun _ => by rw [hpc]; rfl
  | @writes chunk hpc =>
    obtain ⟨o, ho, hshowing⟩ := h.exists_output (by rw [hpc]; exact .inl rfl)
    obtain ⟨lost, hlost, hnone⟩ := hshowing.content
    refine of_some ho (by simp [ShellPc.stage]) ⟨fun _ => rfl, fun hd => ?_, hshowing.lagged,
      ⟨lost, ?_, fun _ => hnone (by rw [hpc]; rfl)⟩, hshowing.before,
      fun hsettled => (by cases hsettled)⟩
    · exact ⟨rfl, (hshowing.dropped hd).2⟩
    · simpa [hpc, ShellPc.chunk, Shell.print, shown] using hlost
  | @writeFails chunk n e hpc =>
    obtain ⟨o, ho, hshowing⟩ := h.exists_output (by rw [hpc]; exact .inl rfl)
    obtain ⟨lost, hlost, -⟩ := hshowing.content
    refine of_some (o := { o with queue := [], dropped := true })
      (by simp [Shell.pumpReturns, Shell.dropPump, Shell.print, ho])
      (by simp [Shell.pumpReturns, ShellPc.stage]) ?_
    refine hshowing.drop (chunk.drop n ++ o.queue.flatten ++ lost) rfl ?_ (fun hw => by cases hw)
      fun hsettled => by cases hsettled
    show shown (s.stdout ++ [.output (chunk.take n)]) ++ _ = s.offered.flatten
    rw [← hlost, hpc]
    simp [shown, ShellPc.chunk, ← List.append_assoc (chunk.take n)]
  | sendFails hpc =>
    have hpumps : s.pc.pumps = true := by rcases hpc with hpc | hpc <;> rw [hpc] <;> rfl
    obtain ⟨o, ho, -⟩ := h.exists_output (.inl hpumps)
    exact h.cut (.leaving (.failed _)) ho (by simp [ShellPc.stage]) rfl (fun hw => by cases hw)
      fun hsettled => by cases hsettled
  | @restores how restored hpc =>
    refine (h.restore restored).keep rfl rfl rfl rfl ?_ ?_ ?_ ?_ ?_ <;>
      simp [restore_pc, hpc, ShellPc.chunk, ShellPc.stage, ShellPc.pumps, ShellPc.how,
        ShellPc.settled]
  | @returns how reason exitCode stdout hpc hshown =>
    refine h.keep rfl hshown rfl rfl ?_ ?_ ?_ ?_ ?_ <;> cases how <;>
      simp [hpc, ShellPc.chunk, ShellPc.stage, ShellPc.pumps, ShellPc.how, ShellPc.settled,
        PumpEnd.result, PumpEnd.isOk, Except.map]
  | @fails e restored hpc =>
    refine (h.restore restored).keep rfl rfl rfl rfl ?_ ?_ ?_ ?_ ?_ <;>
      simp [restore_pc, hpc, ShellPc.chunk, ShellPc.stage, ShellPc.pumps, ShellPc.how,
        ShellPc.settled]
  | @abandons restored hpc =>
    rw [← restore_with_pc]
    refine Shell.Shows.restore ?_ restored
    cases ho : s.output with
    | some o =>
      exact h.cut .abandoned ho (by simp [ShellPc.stage]) rfl (fun hw => by cases hw)
        fun hsettled => by cases hsettled
    | none =>
      obtain ⟨hshown, hpolled, hoffered, -⟩ := h.nothing ho
      exact ⟨fun hs => (by cases hs), fun _ => ⟨hshown, hpolled, hoffered, rfl, rfl⟩,
        by simp [Shell.dropPump, ho]⟩
  | reader | resizes => exact h.keep rfl rfl rfl rfl rfl id rfl id id

lemma step {l : ShellLabel} (h : s.Shows) (hstep : s.step l = some s') : s'.Shows := by
  cases moves_of_step hstep with
  | acts hacts => exact h.acts hacts
  | session => exact h.keep rfl rfl rfl rfl rfl id rfl id id
  | fanoutCloses =>
    cases ho : s.output with
    | none => exact h.keep (by simp [ho]) rfl rfl rfl rfl id rfl id id
    | some o =>
      have hshowing := h.showing o ho
      refine of_some (o := { o with attached := false }) rfl (fun hs => by simp [h.before hs] at ho)
        ⟨hshowing.pumps, hshowing.dropped, fun _ => rfl, hshowing.content, hshowing.before,
          hshowing.settled⟩
  | emits =>
    cases ho : s.output with
    | none => exact h.keep (by simp [ho]) rfl rfl (by simp [Shell.receiving, ho]) rfl id rfl id id
    | some o =>
      refine of_some rfl (fun hs => by simp [h.before hs] at ho) ?_
      simpa [Shell.receiving, ho] using (h.showing o ho).offer _

end Shell.Shows

lemma Shell.shows_of_reachable {config : InteractiveConfig} {tty : Tty} {session : SessionView}
    {s : Shell} (h : Reachable Shell.step free (.new config tty session) s) : s.Shows :=
  h.invariant (.new _ _ _) fun _ _ _ hs hstep _ => hs.step hstep

/-- **The output is shown verbatim and in order.** While the pump runs nothing is lost, unless the
subscription is evicted, and nothing is lost when the output has ended.  When `attach` has returned
without an error, everything that was offered when the output was polled last is shown; what came
after that poll is not. -/
theorem output_shown {config : InteractiveConfig} {tty : Tty} {session : SessionView} {s : Shell}
    (h : Reachable Shell.step free (.new config tty session) s) :
    shown s.stdout <+: s.offered.flatten ∧ s.polled <+: s.offered ∧
    (∀ o, s.output = some o → s.pc.pumps = true → o.lagged = false →
      shown s.stdout ++ s.pc.chunk ++ o.queue.flatten = s.offered.flatten) ∧
    (∀ o, s.output = some o → s.pc.how = some .outputEnded → o.lagged = false →
      shown s.stdout = s.offered.flatten) ∧
    (∀ code, s.pc = .returned (.ok code) →
      ∃ o, s.output = some o ∧ (o.lagged = false → shown s.stdout = s.polled.flatten)) := by
  have hshows := Shell.shows_of_reachable h
  have hall : ∀ o, s.output = some o → s.pc.whole = true → o.lagged = false →
      shown s.stdout ++ s.pc.chunk ++ o.queue.flatten = s.offered.flatten := by
    intro o ho hwhole hlagged
    obtain ⟨lost, hlost, hnone⟩ := (hshows.showing o ho).content
    rwa [hnone hwhole hlagged, List.append_nil] at hlost
  refine ⟨?_, ?_, fun o ho hpumps => hall o ho (whole_of_pumps hpumps), fun o ho hhow hlagged => ?_,
    fun code hpc => ?_⟩
  · cases ho : s.output with
    | none => simp [(hshows.nothing ho).1]
    | some o =>
      obtain ⟨lost, hlost, -⟩ := (hshows.showing o ho).content
      refine ⟨s.pc.chunk ++ o.queue.flatten ++ lost, ?_⟩
      rw [← hlost]
      simp
  · cases ho : s.output with
    | none => simp [(hshows.nothing ho).2.1]
    | some o => exact (hshows.showing o ho).before
  · have hend := hall o ho (by simp [ShellPc.whole, hhow]) hlagged
    have hdropped : o.dropped = true := by
      by_contra hd
      have hpumps := (hshows.showing o ho).pumps (by simpa using hd)
      rw [not_pumps_of_how hhow] at hpumps
      cases hpumps
    obtain ⟨hchunk, hqueue⟩ := (hshows.showing o ho).dropped hdropped
    simpa [hchunk, hqueue] using hend
  · have hsettled : s.pc.settled = true := by rw [hpc]; rfl
    obtain ⟨o, ho, hshowing⟩ := hshows.exists_output (.inr hsettled)
    exact ⟨o, ho, hshowing.settled hsettled⟩

/-- A chunk is shown.  The next one comes, and the session is closed, when the output has just been
polled: `attach` returns, and that chunk is not shown. -/
theorem output_shown_two :
    ∃ s : Shell, s.pc = .returned (.ok none) ∧ s.offered = [[104, 105], [33]] ∧
      shown s.stdout = [104, 105] := by
  let session : SessionView := ⟨"s", 30, true, none, none, none, 64, false, [], true⟩
  let ls : List ShellLabel := List.flatten
    [List.replicate 5 .advance, [.session (.emit [104, 105]), .advance, .advance, .advance,
      .session (.emit [33]), .session (.close .terminated), .session .fanoutClose],
      List.replicate 8 .advance]
  have hrun : (run Shell.step (.new ⟨false, false⟩ ⟨true, true, none⟩ session) ls).any (fun s =>
      decide (s.pc = .returned (.ok none) ∧ s.offered = [[104, 105], [33]] ∧
        s.polled = [[104, 105]]) &&
      s.output.all (fun o => !o.lagged)) = true := by decide +kernel
  obtain ⟨s, hs, hp⟩ := exists_of_run hrun
  simp only [Bool.and_eq_true, decide_eq_true_eq] at hp
  obtain ⟨⟨hpc, hoffered, hpolled⟩, hlagged⟩ := hp
  obtain ⟨-, -, -, -, hreturned⟩ := output_shown hs
  obtain ⟨o, ho, hall⟩ := hreturned _ hpc
  refine ⟨s, hpc, hoffered, ?_⟩
  rw [hall (by simpa [ho] using hlagged), hpolled]
  rfl

end SsmBridge.Terminal
