import SsmBridge.Properties.Shell
import Mathlib.Data.List.Chain

/-!
# What is typed reaches the session

The other direction of `Properties.Shell`: the bytes read from stdin are handed to the session
verbatim and in the order in which they were read, between the sizes of the terminal.

`TerminalReader.Types` and `TerminalReader.Reports` are what the stdin thread and the resize watcher
keep by themselves, also after the pump has dropped its end of their queue; bytes are lost only
after that.  `Shell.Forwards` adds
the pump, which hands over what comes off the queue one event at a time, so that a command that is
waiting for room holds the queue back and nothing is skipped (`typed_is_sent`).
-/

namespace SsmBridge.Terminal

open Machine

/-! ## The reader -/

/-- The bytes an event brings. -/
def TerminalEvent.typed : TerminalEvent → Bytes
  | .input bytes => bytes
  | .resize _ | .eof => []

/-- The size an event reports. -/
def TerminalEvent.size : TerminalEvent → Option TerminalSize
  | .resize size => some size
  | .input _ | .eof => none

/-- Read, and not on the queue yet. -/
def StdinPc.typed : StdinPc → Bytes
  | .sending event => event.typed
  | .checking | .reading | .finished => []

def WatcherPc.sizes : WatcherPc → List TerminalSize
  | .sending size => [size]
  | .starting | .checking | .waiting | .finished => []

/-- The bytes on their way to the pump; what is lost is lost after it has gone. -/
structure TerminalReader.Types (r : TerminalReader) : Prop where
  running : r.running = r.receiving
  event : ∀ e, r.stdin = .sending e → e.size = none
  typed : ∃ lost, r.posted.flatMap TerminalEvent.typed ++ r.stdin.typed ++ lost = r.typed.flatten ∧
    (lost ≠ [] → r.stdin = .finished ∧ r.receiving = false)
  ended : .eof ∈ r.posted → r.stdin = .finished
  /-- The end of stdin is the end of it. -/
  last : r.posted.Pairwise fun a b => a = .eof → b.typed = []

/-- The sizes on their way to the pump. -/
structure TerminalReader.Reports (r : TerminalReader) : Prop where
  sizes : ∃ lost, r.posted.filterMap TerminalEvent.size ++ r.watcher.sizes ++ lost = r.reported ∧
    (lost ≠ [] → r.watcher = .finished ∧ r.receiving = false)
  /-- No size is reported twice in a row. -/
  changes : r.reported.IsChain (· ≠ ·)
  last : ∀ size ∈ r.reported.getLast?, size = r.last
  starting : r.watcher = .starting → r.reported = []

namespace TerminalReader.Types

variable {r r' : TerminalReader}

lemma start : TerminalReader.start.Types where
  running := rfl
  event e he := by cases he
  typed := ⟨[], rfl, fun h => absurd rfl h⟩
  ended h := by cases h
  last := .nil

/-- Nothing happens to the stdin thread, but the pump may go. -/
lemma keep (h : r.Types) (hrunning : r'.running = r'.receiving)
    (hreceiving : r'.receiving = true → r.receiving = true) (hstdin : r'.stdin = r.stdin)
    (htyped : r'.typed = r.typed) (hposted : r'.posted = r.posted) : r'.Types where
  running := hrunning
  event e he := h.event e (hstdin ▸ he)
  typed := by
    obtain ⟨lost, hlost, hgone⟩ := h.typed
    refine ⟨lost, by rw [hposted, hstdin, htyped, hlost], fun hne => ?_⟩
    obtain ⟨hfinished, hgone⟩ := hgone hne
    refine ⟨hstdin.trans hfinished, ?_⟩
    cases hr : r'.receiving with
    | false => rfl
    | true => exact absurd (hreceiving hr) (by simp [hgone])
  ended heof := by
    rw [hstdin]
    exact h.ended (hposted ▸ heof)
  last := by
    rw [hposted]
    exact h.last

/-- A thread that is not at its end has lost nothing. -/
lemma typed_eq (h : r.Types) (hstdin : r.stdin ≠ .finished) :
    r.posted.flatMap TerminalEvent.typed ++ r.stdin.typed = r.typed.flatten := by
  obtain ⟨lost, hlost, hgone⟩ := h.typed
  have hnone : lost = [] := by
    by_contra hne
    exact hstdin (hgone hne).1
  rwa [hnone, List.append_nil] at hlost

/-- The thread goes on, with what it has read now. -/
lemma goes (h : r.Types) (chunk : Bytes) (hr : r.stdin ≠ .finished)
    (hrunning : r'.running = r.running) (hreceiving : r'.receiving = r.receiving)
    (hposted : r'.posted = r.posted)
    (hevent : ∀ e, r'.stdin = .sending e → e.size = none)
    (hstdin : r'.stdin.typed = r.stdin.typed ++ chunk)
    (htyped : r'.typed.flatten = r.typed.flatten ++ chunk) : r'.Types where
  running := by rw [hrunning, hreceiving, h.running]
  event := hevent
  typed := by
    refine ⟨[], ?_, fun hne => absurd rfl hne⟩
    rw [hposted, hstdin, htyped, ← h.typed_eq hr]
    simp
  ended heof := absurd (h.ended (hposted ▸ heof)) hr
  last := by
    rw [hposted]
    exact h.last

/-- The thread posts its event. -/
lemma posts {event : TerminalEvent} (h : r.Types) (hstdin : r.stdin = .sending event) :
    TerminalReader.Types
      { r.post event with stdin := if event = .eof then .finished else .checking } := by
  have hr : r.stdin ≠ .finished := by simp [hstdin]
  have hnone : .eof ∉ r.posted := fun heof => hr (h.ended heof)
  have htyped := h.typed_eq hr
  rw [hstdin] at htyped
  refine ⟨h.running, fun e he => ?_, ⟨[], ?_, fun hne => absurd rfl hne⟩, fun heof => ?_, ?_⟩
  · dsimp only at he
    split at he <;> cases he
  · show (r.posted ++ [event]).flatMap TerminalEvent.typed ++ StdinPc.typed (ite _ _ _) ++ [] =
      r.typed.flatten
    rw [← htyped]
    split <;> simp [StdinPc.typed]
  · rcases List.mem_append.mp heof with hold | hnew
    · exact absurd hold hnone
    · rw [List.mem_singleton] at hnew
      exact if_pos hnew.symm
  · refine List.pairwise_append.mpr ⟨h.last, List.pairwise_singleton _ _, fun a ha b _ heof => ?_⟩
    exact absurd (heof ▸ ha) hnone

/-- The thread finds that the pump has gone. -/
lemma drops {event : TerminalEvent} (h : r.Types) (hstdin : r.stdin = .sending event)
    (hreceiving : r.receiving = false) :
    TerminalReader.Types { r with stdin := .finished } := by
  have htyped := h.typed_eq (by simp [hstdin])
  rw [hstdin] at htyped
  refine ⟨h.running, nofun, ⟨event.typed, ?_, fun _ => ⟨rfl, hreceiving⟩⟩, fun _ => rfl, h.last⟩
  simpa [StdinPc.typed] using htyped

/-- The watcher posts a size. -/
lemma posts_size (h : r.Types) (size : TerminalSize) {watcher : WatcherPc} :
    TerminalReader.Types { r.post (.resize size) with watcher } := by
  obtain ⟨lost, hlost, hgone⟩ := h.typed
  refine ⟨h.running, h.event, ⟨lost, ?_, hgone⟩, fun heof => h.ended ?_, ?_⟩
  · show (r.posted ++ [TerminalEvent.resize size]).flatMap TerminalEvent.typed ++ _ ++ _ =
      r.typed.flatten
    rw [← hlost]
    simp [post, TerminalEvent.typed]
  · simpa [post] using heof
  · exact List.pairwise_append.mpr
      ⟨h.last, List.pairwise_singleton _ _, fun a _ b hb _ => by simp_all [TerminalEvent.typed]⟩

theorem step (h : r.Types) (hmoves : r.Moves r') : r'.Types := by
  cases hmoves with
  | checks hstdin =>
    have hr : r.stdin ≠ .finished := by simp [hstdin]
    refine h.goes [] hr rfl rfl rfl (fun e he => ?_) ?_ (by simp)
    · dsimp only at he
      split at he <;> cases he
    · dsimp only
      split <;> simp [hstdin, StdinPc.typed]
  | @reads chunk hstdin =>
    exact h.goes chunk (by simp [hstdin]) rfl rfl rfl (fun e he => by cases he; rfl)
      (by simp [hstdin, StdinPc.typed, TerminalEvent.typed]) (by simp)
  | ends hstdin =>
    exact h.goes [] (by simp [hstdin]) rfl rfl rfl (fun e he => by cases he; rfl)
      (by simp [hstdin, StdinPc.typed, TerminalEvent.typed]) (List.append_nil _).symm
  | retries hstdin =>
    exact h.goes [] (by simp [hstdin]) rfl rfl rfl (fun e he => by cases he)
      (by simp [hstdin, StdinPc.typed]) (List.append_nil _).symm
  | posts hstdin => exact h.posts hstdin
  | drops hstdin hreceiving => exact h.drops hstdin hreceiving
  | postsSize => exact h.posts_size _
  | starts | looks | unchanged | changed | dropsSize | unwatched | signals =>
    exact h.keep h.running id rfl rfl rfl

end TerminalReader.Types

namespace TerminalReader.Reports

variable {r r' : TerminalReader}

lemma start : TerminalReader.start.Reports where
  sizes := ⟨[], rfl, fun h => absurd rfl h⟩
  changes := .nil
  last size h := by cases h
  starting _ := rfl

/-- Nothing new is reported, but the pump may go. -/
lemma keep (h : r.Reports) (hreceiving : r'.receiving = true → r.receiving = true)
    (hwatcher : r'.watcher.sizes = r.watcher.sizes)
    (hfinished : r.watcher = .finished → r'.watcher = .finished)
    (hposted : r'.posted.filterMap TerminalEvent.size = r.posted.filterMap TerminalEvent.size)
    (hreported : r'.reported = r.reported) (hlast : r.reported = [] ∨ r'.last = r.last)
    (hstarting : r'.watcher = .starting → r.watcher = .starting) : r'.Reports where
  sizes := by
    obtain ⟨lost, hlost, hgone⟩ := h.sizes
    refine ⟨lost, by rw [hposted, hwatcher, hreported, hlost], fun hne => ?_⟩
    obtain ⟨hdone, hgone⟩ := hgone hne
    refine ⟨hfinished hdone, ?_⟩
    cases hr : r'.receiving with
    | false => rfl
    | true => exact absurd (hreceiving hr) (by simp [hgone])
  changes := by
    rw [hreported]
    exact h.changes
  last size hsize := by
    rw [hreported] at hsize
    rcases hlast with hnil | hlast
    · simp [hnil] at hsize
    · rw [hlast]
      exact h.last size hsize
  starting hs := by
    rw [hreported]
    exact h.starting (hstarting hs)

lemma reported_eq (h : r.Reports) (hwatcher : r.watcher ≠ .finished) :
    r.posted.filterMap TerminalEvent.size ++ r.watcher.sizes = r.reported := by
  obtain ⟨lost, hlost, hgone⟩ := h.sizes
  have hnone : lost = [] := by
    by_contra hne
    exact hwatcher (hgone hne).1
  rwa [hnone, List.append_nil] at hlost

/-- The size has changed. -/
lemma changed {size : TerminalSize} (h : r.Reports) (hwatcher : r.watcher = .waiting)
    (hne : size ≠ r.last) :
    TerminalReader.Reports { r with
      signalled := false
      last := size
      watcher := .sending size
      reported := r.reported ++ [size] } := by
  have hsizes := h.reported_eq (by simp [hwatcher])
  refine ⟨⟨[], ?_, fun hne => absurd rfl hne⟩, ?_, fun s hs => ?_, nofun⟩
  · show r.posted.filterMap TerminalEvent.size ++ [size] ++ [] = r.reported ++ [size]
    rw [← hsizes, hwatcher]
    simp [WatcherPc.sizes]
  · refine List.isChain_append.mpr ⟨h.changes, .singleton _, fun a ha b hb => ?_⟩
    cases hb
    rw [h.last a ha]
    exact hne.symm
  · simpa using hs.symm

/-- The watcher posts its size. -/
lemma posts {size : TerminalSize} (h : r.Reports) (hwatcher : r.watcher = .sending size) :
    TerminalReader.Reports { r.post (.resize size) with watcher := .checking } := by
  have hsizes := h.reported_eq (by simp [hwatcher])
  rw [hwatcher] at hsizes
  refine ⟨⟨[], ?_, fun hne => absurd rfl hne⟩, h.changes, h.last, nofun⟩
  show (r.posted ++ [TerminalEvent.resize size]).filterMap TerminalEvent.size ++ [] ++ [] =
    r.reported
  rw [← hsizes]
  simp [TerminalEvent.size, WatcherPc.sizes]

/-- The watcher finds that the pump has gone. -/
lemma drops {size : TerminalSize} (h : r.Reports) (hwatcher : r.watcher = .sending size)
    (hreceiving : r.receiving = false) :
    TerminalReader.Reports { r with watcher := .finished } := by
  have hsizes := h.reported_eq (by simp [hwatcher])
  rw [hwatcher] at hsizes
  refine ⟨⟨[size], ?_, fun _ => ⟨rfl, hreceiving⟩⟩, h.changes, h.last, nofun⟩
  simpa [WatcherPc.sizes] using hsizes

theorem step (h : r.Reports) (htypes : r.Types) (hmoves : r.Moves r') : r'.Reports := by
  cases hmoves with
  | posts hstdin =>
    refine h.keep id rfl id ?_ rfl (.inr rfl) id
    simp [post, htypes.event _ hstdin]
  | starts hwatcher =>
    exact h.keep id (by simp [hwatcher, WatcherPc.sizes]) (by simp [hwatcher]) rfl rfl
      (.inl (h.starting hwatcher)) nofun
  | looks hwatcher =>
    refine h.keep id ?_ (by simp [hwatcher]) rfl rfl (.inr rfl) ?_ <;> dsimp only <;> split <;>
      simp [hwatcher, WatcherPc.sizes]
  | unchanged hwatcher =>
    exact h.keep id (by simp [hwatcher, WatcherPc.sizes]) (by simp [hwatcher]) rfl rfl (.inr rfl)
      nofun
  | changed hwatcher hne => exact h.changed hwatcher hne
  | postsSize hwatcher => exact h.posts hwatcher
  | dropsSize hwatcher hreceiving => exact h.drops hwatcher hreceiving
  | unwatched hwatcher =>
    refine h.keep id ?_ (fun _ => rfl) rfl rfl (.inr rfl) nofun
    rcases hwatcher with hwatcher | hwatcher <;> simp [hwatcher, WatcherPc.sizes]
  | checks | reads | ends | retries | drops | signals =>
    exact h.keep id rfl id rfl rfl (.inr rfl) id

end TerminalReader.Reports

/-- What a step does to the queue, and what it leaves alone. -/
lemma TerminalReader.Moves.queue {r r' : TerminalReader} (h : r.Moves r') :
    r'.receiving = r.receiving ∧
    (∃ new, r'.posted = r.posted ++ new ∧ r'.events = r.events ++ new ∧
      (new ≠ [] → r.receiving = true)) ∧
    (r.stdin = .finished → r'.stdin = .finished ∧ r'.typed = r.typed) := by
  have hnone : ∃ new, r.posted = r.posted ++ new ∧ r.events = r.events ++ new ∧
      (new ≠ [] → r.receiving = true) :=
    ⟨[], by simp⟩
  cases h with
  | posts hstdin hreceiving =>
    exact ⟨rfl, ⟨[_], rfl, rfl, fun _ => hreceiving⟩, fun hr => by simp [hstdin] at hr⟩
  | postsSize hwatcher hreceiving =>
    exact ⟨rfl, ⟨[_], rfl, rfl, fun _ => hreceiving⟩, fun hr => ⟨hr, rfl⟩⟩
  | checks hstdin | reads hstdin | ends hstdin | retries hstdin =>
    exact ⟨rfl, hnone, fun hr => by simp [hstdin] at hr⟩
  | drops => exact ⟨rfl, hnone, fun _ => ⟨rfl, rfl⟩⟩
  | starts | looks | unchanged | changed | dropsSize | unwatched | signals =>
    exact ⟨rfl, hnone, fun hr => ⟨hr, rfl⟩⟩

/-! ## The commands -/

/-- The bytes among the commands. -/
def dataOf (commands : List Command) : Bytes :=
  commands.flatMap fun
    | .data bytes => bytes
    | .control _ _ => []

/-- The sizes among the commands. -/
def sizesOf (commands : List Command) : List Bytes :=
  commands.filterMap fun
    | .control .size data => some data
    | .control _ _ | .data _ => none

@[simp]
lemma dataOf_append (commands commands' : List Command) :
    dataOf (commands ++ commands') = dataOf commands ++ dataOf commands' := by
  simp [dataOf]

@[simp]
lemma sizesOf_append (commands commands' : List Command) :
    sizesOf (commands ++ commands') = sizesOf commands ++ sizesOf commands' := by
  simp [sizesOf]

@[simp]
lemma dataOf_sizes (sizes : List TerminalSize) : dataOf (sizes.map sizeCommand) = [] := by
  simp [dataOf, sizeCommand]

@[simp]
lemma sizesOf_sizes (sizes : List TerminalSize) :
    sizesOf (sizes.map sizeCommand) = sizes.map sizeJson := by
  induction sizes with
  | nil => rfl
  | cons size sizes ih =>
    show sizeJson size :: sizesOf (sizes.map sizeCommand) = _
    rw [ih, List.map_cons]

lemma dataOf_events (events : List TerminalEvent) :
    dataOf (events.filterMap TerminalEvent.command) = events.flatMap TerminalEvent.typed := by
  induction events with
  | nil => rfl
  | cons event events ih =>
    rw [List.flatMap_cons, ← ih]
    cases event <;> rfl

lemma sizesOf_events (events : List TerminalEvent) :
    sizesOf (events.filterMap TerminalEvent.command) =
      (events.filterMap TerminalEvent.size).map sizeJson := by
  induction events with
  | nil => rfl
  | cons event events ih =>
    cases event with
    | input bytes => exact ih
    | resize size =>
      show sizeJson size :: sizesOf (events.filterMap TerminalEvent.command) = _
      rw [ih]
      rfl
    | eof => exact ih

/-! ## The pump -/

/-- The command that is to be queued. -/
def ShellPc.command : ShellPc → List Command
  | .sending command | .queueing command => [command]
  | _ => []

/-- What was sent before the pump was started, which is the initial size. -/
def ShellPc.Opening (count : ℕ) (accepted : List Command) : ShellPc → Prop
  | .starting | .waiting | .resolved | .entering => accepted = []
  | .sizing => accepted = [] ∧ count = 1
  | .sendingSize command | .queueingSize command =>
      accepted = [] ∧ count = 1 ∧ ∃ size, command = sizeCommand size
  | .subscribing => ∃ sizes : List TerminalSize, sizes.length = count ∧
      accepted = sizes.map sizeCommand
  | _ => dataOf accepted = []

/-- What was taken off the queue was handed over, but for the command in hand. -/
structure Flow (count : ℕ) (pc : ShellPc) (accepted : List Command) (r : TerminalReader) :
    Prop where
  types : r.Types
  reports : r.Reports
  receiving : r.receiving = pc.pumps
  sent : ∃ (sizes : List TerminalSize) (forwarded rest : List Command), sizes.length = count ∧
    accepted = sizes.map sizeCommand ++ forwarded ∧
    forwarded ++ rest = r.posted.filterMap TerminalEvent.command ∧
    (pc.pumps = true → rest = pc.command ++ r.events.filterMap TerminalEvent.command)
  queued : pc.pumps = true → r.events <:+ r.posted
  ended : pc.how = some .inputEnded → r.stdin = .finished ∧ dataOf accepted = r.typed.flatten

namespace Flow

variable {count : ℕ} {pc pc' : ShellPc} {accepted : List Command} {r r' : TerminalReader}

lemma start {sizes : List TerminalSize} (hsizes : sizes.length = count) :
    Flow count .selecting (sizes.map sizeCommand) .start where
  types := .start
  reports := .start
  receiving := rfl
  sent := ⟨sizes, [], [], hsizes, (List.append_nil _).symm, rfl, fun _ => rfl⟩
  queued _ := List.suffix_rfl
  ended h := by cases h

/-- The pump has nothing to do with the input here. -/
lemma goes (h : Flow count pc accepted r) (hpumps : pc'.pumps = pc.pumps)
    (hcommand : pc'.command = pc.command)
    (hhow : pc'.how = some .inputEnded → pc.how = some .inputEnded) :
    Flow count pc' accepted r where
  types := h.types
  reports := h.reports
  receiving := by rw [hpumps, h.receiving]
  sent := by
    rw [hpumps, hcommand]
    exact h.sent
  queued := by
    rw [hpumps]
    exact h.queued
  ended hend := h.ended (hhow hend)

/-- The pump is gone. -/
lemma drop (h : Flow count pc accepted r) (hpumps : pc'.pumps = false)
    (hended : pc'.how = some .inputEnded →
      r.stdin = .finished ∧ dataOf accepted = r.typed.flatten) :
    Flow count pc' accepted r.drop where
  types := h.types.keep rfl nofun rfl rfl rfl
  reports := h.reports.keep nofun rfl id rfl rfl (.inr rfl) id
  receiving := hpumps.symm
  sent := by
    obtain ⟨sizes, forwarded, rest, hsizes, haccepted, hsent, -⟩ := h.sent
    exact ⟨sizes, forwarded, rest, hsizes, haccepted, hsent,
      fun hp => absurd (hpumps.symm.trans hp) (by simp)⟩
  queued hp := absurd (hpumps.symm.trans hp) (by simp)
  ended := hended

/-- The threads go on. -/
lemma reader (h : Flow count pc accepted r) (hmoves : r.Moves r') : Flow count pc accepted r' := by
  obtain ⟨hreceiving, ⟨new, hposted, hevents, hnew⟩, hfinished⟩ := hmoves.queue
  obtain ⟨sizes, forwarded, rest, hsizes, haccepted, hsent, hrest⟩ := h.sent
  refine ⟨h.types.step hmoves, h.reports.step h.types hmoves, hreceiving.trans h.receiving,
    ⟨sizes, forwarded, rest ++ new.filterMap TerminalEvent.command, hsizes, haccepted, ?_,
      fun hp => ?_⟩, fun hp => ?_, fun hend => ?_⟩
  · rw [hposted, List.filterMap_append, ← hsent, List.append_assoc]
  · rw [hrest hp, hevents, List.filterMap_append, List.append_assoc]
  · obtain ⟨front, hfront⟩ := h.queued hp
    exact ⟨front, by rw [hposted, hevents, ← hfront, List.append_assoc]⟩
  · obtain ⟨hstdin, hall⟩ := h.ended hend
    obtain ⟨hstdin', htyped⟩ := hfinished hstdin
    exact ⟨hstdin', by rw [hall, htyped]⟩

/-- An event comes off the queue. -/
lemma reads {event : TerminalEvent} {command : Command} {rest : List TerminalEvent}
    (h : Flow count .reading accepted r) (hevents : r.events = event :: rest)
    (hcommand : event.command = some command) :
    Flow count (.sending command) accepted { r with events := rest } where
  types := h.types.keep h.types.running id rfl rfl rfl
  reports := h.reports.keep id rfl id rfl rfl (.inr rfl) id
  receiving := h.receiving
  sent := by
    obtain ⟨sizes, forwarded, waiting, hsizes, haccepted, hsent, hwaiting⟩ := h.sent
    refine ⟨sizes, forwarded, waiting, hsizes, haccepted, hsent, fun _ => ?_⟩
    rw [hwaiting rfl, hevents, List.filterMap_cons_some hcommand]
    rfl
  queued _ := by
    obtain ⟨front, hfront⟩ := h.queued rfl
    exact ⟨front ++ [event], by rw [← hfront, hevents, List.append_assoc, List.singleton_append]⟩
  ended hend := by cases hend

/-- The session takes the command. -/
lemma sends {command : Command} (h : Flow count (.queueing command) accepted r) :
    Flow count .selecting (accepted ++ [command]) r where
  types := h.types
  reports := h.reports
  receiving := h.receiving
  sent := by
    obtain ⟨sizes, forwarded, waiting, hsizes, haccepted, hsent, hwaiting⟩ := h.sent
    refine ⟨sizes, forwarded ++ [command], r.events.filterMap TerminalEvent.command, hsizes, ?_, ?_,
      fun _ => rfl⟩
    · rw [haccepted, List.append_assoc]
    · rw [← hsent, hwaiting rfl]
      simp [ShellPc.command]
  queued := h.queued
  ended hend := by cases hend

/-- The bytes on the queue and in the hand of the pump are still to be sent. -/
lemma data_eq (h : Flow count pc accepted r) (hpumps : pc.pumps = true) :
    dataOf accepted ++ dataOf pc.command ++ r.events.flatMap TerminalEvent.typed =
      r.posted.flatMap TerminalEvent.typed := by
  obtain ⟨sizes, forwarded, rest, -, haccepted, hsent, hrest⟩ := h.sent
  have hdata := congrArg dataOf hsent
  rw [haccepted]
  simpa [hrest hpumps, dataOf_events] using hdata

/-- Up to the end of the pump no byte is lost. -/
lemma typed_eq (h : Flow count pc accepted r) (hpumps : pc.pumps = true) :
    dataOf accepted ++ dataOf pc.command ++ r.events.flatMap TerminalEvent.typed ++ r.stdin.typed =
      r.typed.flatten := by
  obtain ⟨lost, hlost, hgone⟩ := h.types.typed
  have hnone : lost = [] := by
    by_contra hne
    have hreceiving := h.receiving.trans hpumps
    rw [(hgone hne).2] at hreceiving
    cases hreceiving
  rw [h.data_eq hpumps, ← hlost, hnone, List.append_nil]

/-- The pump comes to the end of the input. -/
lemma inputEnds (h : Flow count .reading accepted r)
    (hend : (∃ rest, r.events = .eof :: rest) ∨
      r.events = [] ∧ r.stdin = .finished ∧ r.watcher = .finished) :
    r.stdin = .finished ∧ dataOf accepted = r.typed.flatten := by
  have hrest : r.stdin = .finished ∧ r.events.flatMap TerminalEvent.typed = [] := by
    rcases hend with ⟨rest, hevents⟩ | ⟨hevents, hstdin, -⟩
    · obtain ⟨front, hfront⟩ := h.queued rfl
      rw [hevents] at hfront
      refine ⟨h.types.ended (hfront ▸ by simp), ?_⟩
      have hlast := h.types.last
      rw [← hfront, List.pairwise_append, List.pairwise_cons] at hlast
      rw [hevents, List.flatMap_cons]
      -- Nothing is typed after the end of stdin.
      exact List.flatMap_eq_nil_iff.mpr fun event hevent => hlast.2.1.1 event hevent rfl
    · exact ⟨hstdin, by rw [hevents]; rfl⟩
  refine ⟨hrest.1, ?_⟩
  have htyped := h.typed_eq rfl
  rw [hrest.2, hrest.1] at htyped
  simpa [ShellPc.command, StdinPc.typed, dataOf] using htyped

end Flow

/-! ## The shell -/

/-- The initial size is sent once, if at all. -/
def InteractiveConfig.initialSizes (config : InteractiveConfig) : ℕ :=
  if config.sendInitialSize then 1 else 0

structure Shell.Forwards (s : Shell) : Prop where
  before : s.pc.stage = .before → s.reader = none
  pumping : s.pc.pumps = true → s.reader ≠ none
  opening : s.reader = none → s.pc.Opening s.config.initialSizes s.accepted
  flows : ∀ r, s.reader = some r → Flow s.config.initialSizes s.pc s.accepted r

namespace Shell.Forwards

variable {s s' : Shell}

lemma new (config : InteractiveConfig) (tty : Tty) (session : SessionView) :
    (Shell.new config tty session).Forwards where
  before _ := rfl
  pumping h := by cases h
  opening _ := rfl
  flows r hr := by cases hr

/-- The initial size is all that was sent before the pump. -/
lemma data_nil (h : s.Forwards) (hnone : s.reader = none) : dataOf s.accepted = [] := by
  have hopening := h.opening hnone
  cases hpc : s.pc with
  | starting | waiting | resolved | entering =>
    rw [hpc] at hopening
    rw [hopening]
    rfl
  | sizing | sendingSize | queueingSize =>
    rw [hpc] at hopening
    rw [hopening.1]
    rfl
  | subscribing =>
    rw [hpc] at hopening
    obtain ⟨sizes, -, hsizes⟩ := hopening
    rw [hsizes, dataOf_sizes]
  | _ =>
    rw [hpc] at hopening
    exact hopening

/-- The shell goes on before the pump. -/
lemma opens (h : s.Forwards) (hpc : s.pc.stage = .before) (hpumps : s'.pc.pumps = false)
    (hreader : s'.reader = s.reader)
    (hopening : s.pc.Opening s.config.initialSizes s.accepted →
      s'.pc.Opening s'.config.initialSizes s'.accepted) : s'.Forwards := by
  have hnone := h.before hpc
  refine ⟨fun _ => hreader.trans hnone, fun hp => ?_, fun _ => hopening (h.opening hnone),
    fun r hr => ?_⟩
  · exact absurd (hpumps.symm.trans hp) (by simp)
  · rw [hreader, hnone] at hr
    cases hr

/-- `attach` returns before the pump. -/
lemma refused (h : s.Forwards) (hpc : s.pc.stage = .before) (hpumps : s'.pc.pumps = false)
    (hreader : s'.reader = s.reader)
    (hconfig : s'.config = s.config) (haccepted : s'.accepted = s.accepted)
    (hreturned : ∀ accepted, dataOf accepted = [] →
      s'.pc.Opening s.config.initialSizes accepted) : s'.Forwards := by
  refine h.opens hpc hpumps hreader fun _ => ?_
  rw [hconfig, haccepted]
  exact hreturned _ (h.data_nil (h.before hpc))

/-- Nothing happens to the input, and the pump is started neither here nor later. -/
lemma keep (h : s.Forwards) (hconfig : s'.config = s.config) (hreader : s'.reader = s.reader)
    (haccepted : s'.accepted = s.accepted) (hpc : s'.pc = s.pc) : s'.Forwards where
  before := by
    rw [hpc, hreader]
    exact h.before
  pumping := by
    rw [hpc, hreader]
    exact h.pumping
  opening := by
    rw [hpc, hreader, hconfig, haccepted]
    exact h.opening
  flows := by
    rw [hpc, hreader, hconfig, haccepted]
    exact h.flows

/-- The pump was started, and `attach` goes on. -/
lemma goes (h : s.Forwards) (hstage : s'.pc.stage ≠ .before) (hconfig : s'.config = s.config)
    (hopening : ∀ accepted, dataOf accepted = [] → s'.pc.Opening s.config.initialSizes accepted)
    (hpumps : s'.pc.pumps = true → s.pc.pumps = true)
    (hnone : s.reader = none → s'.reader = none ∧ s'.accepted = s.accepted)
    (hsome : ∀ r, s.reader = some r → ∃ r', s'.reader = some r' ∧
      (Flow s.config.initialSizes s.pc s.accepted r →
        Flow s.config.initialSizes s'.pc s'.accepted r')) : s'.Forwards := by
  refine ⟨fun hs => absurd hs hstage, fun hp hs => ?_, fun hs => ?_, fun r' hr' => ?_⟩
  · obtain ⟨r, hr⟩ := Option.ne_none_iff_exists'.mp (h.pumping (hpumps hp))
    obtain ⟨r', hr', -⟩ := hsome r hr
    rw [hr'] at hs
    cases hs
  · cases hr : s.reader with
    | none =>
      rw [hconfig, (hnone hr).2]
      exact hopening _ (h.data_nil hr)
    | some r =>
      obtain ⟨r', hr', -⟩ := hsome r hr
      rw [hr'] at hs
      cases hs
  · cases hr : s.reader with
    | none =>
      rw [(hnone hr).1] at hr'
      cases hr'
    | some r =>
      obtain ⟨r'', hr'', hflow⟩ := hsome r hr
      cases hr''.symm.trans hr'
      rw [hconfig]
      exact hflow (h.flows r hr)

/-- `attach` goes on, and the reader has no part in it. -/
lemma moves (h : s.Forwards) (hstage : s'.pc.stage ≠ .before) (hconfig : s'.config = s.config)
    (hopening : ∀ accepted, dataOf accepted = [] → s'.pc.Opening s.config.initialSizes accepted)
    (hreader : s'.reader = s.reader) (haccepted : s'.accepted = s.accepted)
    (hpumps : s'.pc.pumps = s.pc.pumps) (hcommand : s'.pc.command = s.pc.command)
    (hhow : s'.pc.how = some .inputEnded → s.pc.how = some .inputEnded) : s'.Forwards := by
  refine h.goes hstage hconfig hopening (fun hp => hpumps ▸ hp)
    (fun hr => ⟨hreader.trans hr, haccepted⟩) fun r hr => ?_
  refine ⟨r, hreader.trans hr, fun hflow => ?_⟩
  rw [haccepted]
  exact hflow.goes hpumps hcommand hhow

/-- The pump is left. -/
lemma leaves (h : s.Forwards) (hstage : s'.pc.stage ≠ .before) (hconfig : s'.config = s.config)
    (hopening : ∀ accepted, dataOf accepted = [] → s'.pc.Opening s.config.initialSizes accepted)
    (hreader : s'.reader = s.reader.map TerminalReader.drop) (haccepted : s'.accepted = s.accepted)
    (hpumps : s'.pc.pumps = false)
    (hended : ∀ r, s.reader = some r → s'.pc.how = some .inputEnded →
      r.stdin = .finished ∧ dataOf s.accepted = r.typed.flatten) : s'.Forwards := by
  refine h.goes hstage hconfig hopening (fun hp => absurd (hpumps.symm.trans hp) (by simp))
    (fun hr => ⟨by simp [hreader, hr], haccepted⟩) fun r hr => ?_
  refine ⟨r.drop, by simp [hreader, hr], fun hflow => ?_⟩
  rw [haccepted]
  exact hflow.drop hpumps (hended r hr)

lemma restore_eq (s : Shell) (restored : Bool) :
    (s.restore restored).config = s.config ∧ (s.restore restored).reader = s.reader ∧
      (s.restore restored).accepted = s.accepted := by
  unfold Shell.restore
  split <;> exact ⟨rfl, rfl, rfl⟩

/-- The task goes on. -/
lemma acts (h : s.Forwards) (hacts : s.Acts s') : s'.Forwards := by
  cases hacts with
  | refused hpc | rawFails hpc =>
    exact h.refused (by rw [hpc]; rfl) rfl rfl rfl rfl fun _ hdata => hdata
  | notReady hpc | sizeFails hpc =>
    refine h.refused ?_ rfl rfl rfl rfl fun _ hdata => hdata
    rcases hpc with hpc | hpc <;> rw [hpc] <;> rfl
  | checksSize hpc | waitsSize hpc =>
    refine h.opens (by rw [hpc]; rfl) rfl rfl fun hopening => ?_
    rw [hpc] at hopening
    exact hopening
  | begins hpc | woken hpc | ready hpc =>
    refine h.opens (by rw [hpc]; rfl) rfl rfl fun hopening => ?_
    rw [hpc] at hopening
    exact hopening
  | enters hpc =>
    refine h.opens (by rw [hpc]; rfl) (by dsimp only; split <;> rfl) rfl fun hopening => ?_
    rw [hpc] at hopening
    dsimp only
    split
    · next hsize => exact ⟨hopening, by simp [InteractiveConfig.initialSizes, hsize]⟩
    · next hsize => exact ⟨[], by simp [InteractiveConfig.initialSizes, hsize], hopening⟩
  | sizes hpc =>
    refine h.opens (by rw [hpc]; rfl) rfl rfl fun hopening => ?_
    rw [hpc] at hopening
    exact ⟨hopening.1, hopening.2, _, rfl⟩
  | sendsSize hpc =>
    refine h.opens (by rw [hpc]; rfl) rfl rfl fun hopening => ?_
    rw [hpc] at hopening
    obtain ⟨hnil, hcount, size, rfl⟩ := hopening
    exact ⟨[size], hcount.symm, by simp [hnil]⟩
  | subscribes hpc =>
    have hopening := h.opening (h.before (by rw [hpc]; rfl))
    rw [hpc] at hopening
    obtain ⟨sizes, hcount, hsizes⟩ := hopening
    refine ⟨nofun, nofun, nofun, fun r hr => ?_⟩
    cases hr
    rw [hsizes]
    exact .start hcount
  | shows hpc | outputPending hpc | inputPending hpc | parks hpc | unparks hpc | writes hpc
  | checks hpc | waits hpc =>
    refine h.moves nofun rfl (fun _ hdata => hdata) rfl rfl ?_ ?_ nofun <;> rw [hpc] <;> rfl
  | outputEnds hpc | closes hpc | sendFails hpc | writeFails hpc =>
    exact h.leaves nofun rfl (fun _ hdata => hdata) rfl rfl rfl fun _ _ hend => by cases hend
  | inputEnds hpc hr hend =>
    refine h.leaves nofun rfl (fun _ hdata => hdata) rfl rfl rfl fun r hr' _ => ?_
    cases hr.symm.trans hr'
    have hflow := h.flows _ hr
    rw [hpc] at hflow
    exact hflow.inputEnds hend
  | reads hpc hr hevents hcommand =>
    refine h.goes nofun rfl (fun _ hdata => hdata) (fun _ => by rw [hpc]; rfl)
      (fun hnone => by simp [hnone] at hr)
      fun r' hr' => ⟨_, rfl, fun hflow => ?_⟩
    cases hr.symm.trans hr'
    rw [hpc] at hflow
    exact hflow.reads hevents hcommand
  | sends hpc =>
    refine h.goes nofun rfl (fun _ hdata => hdata) (fun _ => by rw [hpc]; rfl)
      (fun hnone => absurd hnone (h.pumping (by rw [hpc]; rfl)))
      fun r hr => ⟨r, hr, fun hflow => ?_⟩
    rw [hpc] at hflow
    exact hflow.sends
  | leaves hpc | readsReason hpc | readsExitCode hpc | terminates hpc =>
    refine h.moves nofun rfl (fun _ hdata => hdata) rfl rfl ?_ ?_ ?_ <;> rw [hpc] <;>
      first | rfl | exact id
  | returns hpc =>
    refine h.moves nofun rfl (fun _ hdata => hdata) rfl rfl ?_ ?_ nofun <;> rw [hpc] <;> rfl
  | @restores how restored hpc =>
    obtain ⟨hconfig, hreader, haccepted⟩ := restore_eq s restored
    refine h.moves nofun hconfig (fun _ hdata => hdata) hreader haccepted ?_ ?_ ?_ <;> rw [hpc] <;>
      first | rfl | exact id
  | @fails e restored hpc =>
    obtain ⟨hconfig, hreader, haccepted⟩ := restore_eq s restored
    refine h.moves nofun hconfig (fun _ hdata => hdata) hreader haccepted ?_ ?_ nofun <;>
      rw [hpc] <;> rfl
  | @abandons restored hpc =>
    obtain ⟨hconfig, hreader, haccepted⟩ := restore_eq s.dropPump restored
    exact h.leaves nofun hconfig (fun _ hdata => hdata) hreader haccepted rfl
      fun _ _ hend => by cases hend
  | reader hr hread =>
    refine ⟨fun hs => ?_, nofun, nofun, fun r hr' => ?_⟩
    · rw [h.before hs] at hr
      cases hr
    · cases hr'
      exact (h.flows _ hr).reader (TerminalReader.moves_of_step hread)
  | resizes => exact h.keep rfl rfl rfl rfl

theorem step {l : ShellLabel} (h : s.Forwards) (hstep : s.step l = some s') : s'.Forwards := by
  cases moves_of_step hstep with
  | acts hacts => exact h.acts hacts
  | session | fanoutCloses | emits => exact h.keep rfl rfl rfl rfl

end Shell.Forwards

lemma Shell.forwards_of_reachable {config : InteractiveConfig} {tty : Tty} {session : SessionView}
    {s : Shell} (h : Reachable Shell.step free (.new config tty session) s) : s.Forwards :=
  h.invariant (.new _ _ _) fun _ _ _ hs hstep _ => hs.step hstep

lemma Shell.config_of_reachable {config : InteractiveConfig} {tty : Tty} {session : SessionView}
    {s : Shell} (h : Reachable Shell.step free (.new config tty session) s) :
    s.config = config := by
  refine h.invariant (P := fun s => s.config = config) rfl fun s l s' hs hstep _ => ?_
  rw [← hs]
  cases moves_of_step hstep with
  | acts hacts =>
    cases hacts with
    | restores | fails => exact (Forwards.restore_eq s _).1
    | abandons => exact (Forwards.restore_eq s.dropPump _).1
    | _ => rfl
  | _ => rfl

/-- **What is typed reaches the session verbatim, and none of it is lost before the pump ends.**
What was read from stdin and is not with the session yet is in the hands of the stdin thread, in the
queue of events, or the command that is being sent. -/
theorem typed_is_sent {config : InteractiveConfig} {tty : Tty} {session : SessionView} {s : Shell}
    (h : Reachable Shell.step free (.new config tty session) s) :
    (s.reader = none → dataOf s.accepted = []) ∧
    ∀ r, s.reader = some r →
      dataOf s.accepted <+: r.typed.flatten ∧
      (s.pc.pumps = true →
        dataOf s.accepted ++ dataOf s.pc.command ++ r.events.flatMap TerminalEvent.typed ++
          r.stdin.typed = r.typed.flatten) ∧
      (s.pc.how = some .inputEnded →
        r.stdin = .finished ∧ dataOf s.accepted = r.typed.flatten) ∧
      (∃ initial told : List TerminalSize,
        initial.length = (if config.sendInitialSize then 1 else 0) ∧ told <+: r.reported ∧
        sizesOf s.accepted = (initial ++ told).map sizeJson) ∧
      r.reported.IsChain (· ≠ ·) := by
  have hforwards := Shell.forwards_of_reachable h
  refine ⟨hforwards.data_nil, fun r hr => ?_⟩
  have hflow := hforwards.flows r hr
  obtain ⟨sizes, forwarded, rest, hcount, haccepted, hsent, -⟩ := hflow.sent
  have hdata := congrArg dataOf hsent
  have hsizes := congrArg sizesOf hsent
  rw [dataOf_append, dataOf_events] at hdata
  rw [sizesOf_append, sizesOf_events] at hsizes
  refine ⟨?_, hflow.typed_eq, hflow.ended, ?_, hflow.reports.changes⟩
  · obtain ⟨lost, hlost, -⟩ := hflow.types.typed
    refine ⟨dataOf rest ++ (r.stdin.typed ++ lost), ?_⟩
    rw [← hlost, ← hdata, haccepted]
    simp
  · obtain ⟨told, untold, htold, hforwarded, -⟩ := List.map_eq_append_iff.mp hsizes.symm
    obtain ⟨lost, hlost, -⟩ := hflow.reports.sizes
    refine ⟨sizes, told, ?_, ⟨untold ++ (r.watcher.sizes ++ lost), ?_⟩, ?_⟩
    · rw [hcount, Shell.config_of_reachable h]
      rfl
    · rw [← hlost, htold]
      simp
    · rw [haccepted, List.map_append, hforwarded]
      simp

/-- A line is typed while the terminal is resized, and then stdin ends. -/
theorem typed_is_sent_line :
    ∃ s : Shell, s.pc = .leaving .inputEnded ∧ dataOf s.accepted = [108, 115, 10] := by
  let session : SessionView := ⟨"s", 30, true, none, none, none, 64, false, [], true⟩
  let ls : List ShellLabel := List.flatten
    [List.replicate 8 .advance, [.reader .watch, .reader .watch, .reader .stdin,
      .reader (.read [108]), .reader .stdin, .resize (some ⟨100, 40⟩), .reader .signal,
      .reader .watch, .reader .watch, .reader .stdin, .reader (.read [115, 10]), .reader .stdin,
      .reader .stdin, .reader .readEnd, .reader .stdin], List.replicate 14 .advance]
  have hrun : (run Shell.step (.new ⟨false, true⟩ ⟨true, false, none⟩ session) ls).any (fun s =>
      decide (s.pc = .leaving .inputEnded) &&
      s.reader.any (fun r => decide (r.typed = [[108], [115, 10]]))) = true := by decide +kernel
  obtain ⟨s, hs, hp⟩ := exists_of_run hrun
  simp only [Bool.and_eq_true, decide_eq_true_eq, Option.any_eq_true] at hp
  obtain ⟨hpc, r, hr, htyped⟩ := hp
  obtain ⟨-, -, hended, -⟩ := (typed_is_sent hs).2 r hr
  refine ⟨s, hpc, ?_⟩
  rw [(hended (by rw [hpc]; rfl)).2, htyped]
  rfl

end SsmBridge.Terminal
