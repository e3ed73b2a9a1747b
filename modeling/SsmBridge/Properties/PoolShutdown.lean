import SsmBridge.Properties.PoolLimits

/-!
# What a shutdown of the pool leaves open

`shutdown` drains the map once.  Until then every open session of the pool is accounted for: it is
in the map, or a call is about to decide on it or to terminate it.  From then on the sessions of the
calls made before are with such calls only, unless the second check of `start_with`, which looks at
nothing but the map, puts one into it after all; nobody terminates that one.

`keepsEntries` is the other way to lose a session: to put another one into its place in the map.
Session ids are the service's and never repeat, so that takes an `insert` of a session that was
attached under an id the pool already has.
-/

namespace SsmBridge.Pool

open Machine

/-! ## Conditions on a step -/

/-- A call that is about to put a session into the map. -/
structure Entering where
  call : ℕ
  session : ℕ
  /-- It is a call of `start_with`. -/
  starts : Bool

namespace SessionPool

/-- The call that holds the lock, if its check will let it in. -/
def entering (p : SessionPool) : Option Entering :=
  match p.lock with
  | some holder =>
      match p.calls[holder.call]? with
      | some (.startWith config (.opened s)) =>
          if (p.admission config.target).isOk then some ⟨holder.call, s, true⟩ else none
      | some (.insert s .waiting) =>
          if p.heap[s]?.any (fun x => (p.admission x.config.target).isOk) then
            some ⟨holder.call, s, false⟩
          else none
      | _ => none
  | none => none

/-- The map has another session under the id of this one. -/
def replaces (p : SessionPool) (s : ℕ) : Bool :=
  p.heap[s]?.any (fun x => (p.sessions.lookup x.id).any (fun s' => s' != s))

/-- No entry of the map is replaced. -/
def keepsEntries (p : SessionPool) : Label → Bool
  | .unlock => p.entering.all (fun e => !p.replaces e.session)
  | _ => true

/-- No open session of the first `n` calls is let in. -/
def inTime (n : ℕ) (p : SessionPool) : Label → Bool
  | .unlock => p.entering.all (fun e => !(e.starts && decide (e.call < n)) || p.isClosed e.session)
  | _ => true

end SessionPool

/-- The call of `start_with`, or of one that takes sessions out of the map, has returned. -/
def Call.settled : Call → Bool
  | .startWith _ pc => pc.hasReturned
  | .removal _ pc => decide (pc = .returned)
  | _ => true

/-! ## Who has a session -/

/-- The call will decide on the session, or terminate it. -/
def Call.holds (s : ℕ) : Call → Bool
  | .startWith _ (.opened s') | .startWith _ (.rejected s' _ _) => s' == s
  | .removal _ (.terminating doomed) => doomed.any (fun d => d.1 == s)
  | _ => false

/-- One of the first `n` calls has the session. -/
def Held (calls : List Call) (n s : ℕ) : Prop :=
  ∃ c call, c < n ∧ calls[c]? = some call ∧ call.holds s = true

section

variable {calls : List Call} {n s : ℕ}

/-- A call moves on. -/
lemma Held.set {c₀ : ℕ} {call₀ call₀' : Call} (h : Held calls n s)
    (hcall₀ : calls[c₀]? = some call₀)
    (hholds : c₀ < n → call₀.holds s = true → call₀'.holds s = true) :
    Held (calls.set c₀ call₀') n s := by
  obtain ⟨c, call, hc, hcall, hs⟩ := h
  by_cases heq : c₀ = c
  · subst heq
    obtain rfl : call₀ = call := Option.some_inj.mp (hcall₀.symm.trans hcall)
    obtain ⟨hlt, -⟩ := List.getElem?_eq_some_iff.mp hcall
    exact ⟨c₀, call₀', hc, List.getElem?_set_self hlt, hholds hc hs⟩
  · exact ⟨c, call, hc, (List.getElem?_set_ne heq).trans hcall, hs⟩

/-- A call that has no session moves on. -/
lemma Held.set_of_idle {c₀ : ℕ} {call₀ : Call} (h : Held calls n s)
    (hcall₀ : calls[c₀]? = some call₀) (hidle : call₀.holds s = false) (call₀' : Call) :
    Held (calls.set c₀ call₀') n s := by
  refine h.set hcall₀ ?_
  intro _ hs
  rw [hidle] at hs
  cases hs

lemma Held.append (h : Held calls n s) (call : Call) : Held (calls ++ [call]) n s := by
  obtain ⟨c, call', hc, hcall, hs⟩ := h
  obtain ⟨hlt, -⟩ := List.getElem?_eq_some_iff.mp hcall
  exact ⟨c, call', hc, (List.getElem?_append_left hlt).trans hcall, hs⟩

lemma holds_eq_false {pc : StartPc} (h : pc.session = none) (config : SessionConfig) (s : ℕ) :
    Call.holds s (.startWith config pc) = false := by
  cases pc with
  | opened s => cases h
  | rejected s e t => cases h
  | _ => rfl

/-- A call that moves on by itself lets go of a session only when it is closed. -/
lemma Call.Moves.holds {p : SessionPool} {c : ℕ} {call call' : Call} (h : call.Moves call')
    (hsound : call.Sound p.heap c) (hs : call.holds s = true) :
    call'.holds s = true ∨ p.isClosed s = true := by
  cases h with
  | idle h h' =>
    rw [holds_eq_false h] at hs
    cases hs
  | rejected => exact .inl hs
  | counted => cases hs
  | insert => cases hs
  | query => cases hs
  | returned hall =>
    obtain ⟨⟨s', t⟩, hd, heq⟩ := List.any_eq_true.mp hs
    obtain rfl : s' = s := beq_iff_eq.mp heq
    obtain ⟨x, hx, ht⟩ := hsound _ hd
    have hreturned := hall _ hd
    cases t with
    | returned first =>
      refine .inr ?_
      rw [SessionPool.isClosed, hx]
      exact ht.1
    | _ => cases hreturned

/-- A call that terminates a session does not let go of any. -/
lemma Call.Terminates.holds {s₀ : ℕ} {t t' : Termination} {call call' : Call}
    (h : call.Terminates s₀ t t' call') (hs : call.holds s = true) : call'.holds s = true := by
  cases h with
  | rejected => exact hs
  | @doomed r doomed k hk =>
    obtain ⟨d, hd, heq⟩ := List.any_eq_true.mp hs
    obtain ⟨i, hi⟩ := List.getElem?_of_mem hd
    by_cases hik : k = i
    · subst hik
      obtain rfl : (s₀, t) = d := Option.some_inj.mp (hk.symm.trans hi)
      obtain ⟨hlt, -⟩ := List.getElem?_eq_some_iff.mp hk
      exact List.any_eq_true.mpr ⟨(s₀, t'), List.mem_set hlt _, heq⟩
    · have hmem : d ∈ doomed.set k (s₀, t') :=
        List.mem_of_getElem? ((List.getElem?_set_ne hik).trans hi)
      exact List.any_eq_true.mpr ⟨d, hmem, heq⟩

end

namespace SessionPool

variable {p p' : SessionPool} {l : Label} {n s : ℕ} {x : Session}

lemma isClosed_of (hx : p.heap[s]? = some x) (h : p.isClosed s = true) : x.closed = true := by
  rw [isClosed, hx] at h
  exact h

lemma entering_of_admitted {holder : Holder} {config : SessionConfig} (hlock : p.lock = some holder)
    (hcall : p.calls[holder.call]? = some (.startWith config (.opened s)))
    (hadmission : p.admission config.target = .ok ()) :
    p.entering = some ⟨holder.call, s, true⟩ := by
  simp [entering, hlock, hcall, hadmission, Except.toBool]

lemma entering_of_inserted {holder : Holder} (hlock : p.lock = some holder)
    (hcall : p.calls[holder.call]? = some (.insert s .waiting)) (hx : p.heap[s]? = some x)
    (hadmission : p.admission x.config.target = .ok ()) :
    p.entering = some ⟨holder.call, s, false⟩ := by
  simp [entering, hlock, hcall, hx, hadmission, Except.toBool]

/-- **A call that has a session keeps it**, until the session is closed or let in. -/
lemma held_step (hsound : p.Sound) (hs : p.step l = some p') (h : Held p.calls n s) :
    Held p'.calls n s ∨ p.isClosed s = true ∨
      ∃ c, l = .unlock ∧ p.entering = some ⟨c, s, true⟩ ∧ c < n ∧ p'.sessions = p.put s := by
  cases moves_of_step hs with
  | request r => exact .inl (h.append _)
  | @call _ c₀ call₀ call₀' lock started hcall₀ hmoves =>
    cases hclosed : p.isClosed s with
    | true => exact .inr (.inl rfl)
    | false =>
      refine .inl (h.set hcall₀ ?_)
      intro _ hholds
      refine (hmoves.holds (hsound.calls _ _ hcall₀) hholds).resolve_right ?_
      simp [hclosed]
  | opened hcall₀ => exact .inl (h.set_of_idle hcall₀ rfl _)
  | @admitted holder config s₀ hlock hcall₀ hadmission =>
    by_cases hmine : s₀ = s ∧ holder.call < n
    · obtain ⟨rfl, hn⟩ := hmine
      exact .inr (.inr ⟨holder.call, rfl, entering_of_admitted hlock hcall₀ hadmission, hn, rfl⟩)
    · refine .inl (h.set hcall₀ ?_)
      intro hn hholds
      exact (hmine ⟨beq_iff_eq.mp hholds, hn⟩).elim
  | inserted hlock hcall₀ hx hadmission => exact .inl (h.set_of_idle hcall₀ rfl _)
  | removed hcall₀ => exact .inl (h.set_of_idle hcall₀ rfl _)
  | terminated hcall₀ hx hstep hterm => exact .inl (h.set hcall₀ (fun _ => hterm.holds))
  | _ => exact .inl h

/-- What is put into the map leaves the other entries alone, when it replaces none. -/
lemma lookup_put {s₀ : ℕ} (hentry : p.sessions.lookup x.id = some s)
    (hkeeps : p.replaces s₀ = false) : (p.put s₀).lookup x.id = some s := by
  cases hx₀ : p.heap[s₀]? with
  | none => rwa [put, hx₀]
  | some x₀ =>
    rw [put_eq hx₀]
    by_cases hid : x.id = x₀.id
    · rw [hid] at hentry ⊢
      have hsame : s = s₀ := by simpa [replaces, hx₀, hentry] using hkeeps
      rw [hsame, AList.lookup_insert]
    · rwa [AList.lookup_insert_ne hid]

/-- **An entry stays in the map**, until its session is closed or a call takes it out. -/
lemma lookup_step (hkeeps : p.keepsEntries l = true) (hs : p.step l = some p')
    (hentry : p.sessions.lookup x.id = some s) :
    p'.sessions.lookup x.id = some s ∨ p.isClosed s = true ∨ ∃ n, Held p'.calls n s := by
  cases moves_of_step hs with
  | @reaped _ id s₁ lock hlookup hclosed =>
    by_cases hid : x.id = id
    · subst hid
      obtain rfl : s₁ = s := Option.some_inj.mp (hlookup.symm.trans hentry)
      exact .inr (.inl hclosed)
    · exact .inl ((AList.lookup_erase_ne hid).trans hentry)
  | admitted hlock hcall₀ hadmission =>
    have hnone := entering_of_admitted hlock hcall₀ hadmission
    exact .inl (lookup_put hentry (by simpa [keepsEntries, hnone] using hkeeps))
  | inserted hlock hcall₀ hx hadmission =>
    have hnone := entering_of_inserted hlock hcall₀ hx hadmission
    exact .inl (lookup_put hentry (by simpa [keepsEntries, hnone] using hkeeps))
  | @removed _ c r hcall₀ =>
    obtain hstays | htaken := lookup_doomed_or_mem r hentry
    · exact .inl hstays
    · obtain ⟨hlt, -⟩ := List.getElem?_eq_some_iff.mp hcall₀
      refine .inr (.inr ⟨c + 1, c, _, Nat.lt_succ_self c, List.getElem?_set_self hlt, ?_⟩)
      simpa [Call.holds] using htaken
  | _ => exact .inl hentry

/-! ## Before the shutdown -/

/-- Every open session of the pool is in the map or with a call. -/
def Traced (p : SessionPool) : Prop :=
  ∀ (s : ℕ) (x : Session) (c : ℕ), p.heap[s]? = some x → x.opener = some c →
    x.closed = true ∨ (∃ n, Held p.calls n s) ∨ p.sessions.lookup x.id = some s

theorem Traced.step (h : p.Traced) (hsound : p.Sound) (hkeeps : p.keepsEntries l = true)
    (hs : p.step l = some p') : p'.Traced := by
  intro s x c hx hopener
  obtain ⟨x₀, hx₀, hlater⟩ | ⟨config, hopened⟩ := origin_cases hs hx hopener
  · have hend (hclosed : p.isClosed s = true) : x.closed = true :=
      hlater.closed (isClosed_of hx₀ hclosed)
    rw [hlater.id]
    obtain hclosed | ⟨n, hheld⟩ | hentry := h s x₀ c hx₀ (hlater.opener ▸ hopener)
    · exact .inl (hlater.closed hclosed)
    · obtain hheld | hclosed | ⟨c, -, -, -, hput⟩ := held_step hsound hs hheld
      · exact .inr (.inl ⟨n, hheld⟩)
      · exact .inl (hend hclosed)
      · rw [hput, put_eq hx₀]
        exact .inr (.inr (AList.lookup_insert _))
    · obtain hentry | hclosed | hheld := lookup_step hkeeps hs hentry
      · exact .inr (.inr hentry)
      · exact .inl (hend hclosed)
      · exact .inr (.inl hheld)
  · exact .inr (.inl ⟨c + 1, c, _, Nat.lt_succ_self c, hopened, beq_self_eq_true s⟩)

/-- **No open session of the pool is lost**, as long as none is replaced. -/
theorem Traced.of_reachable {config : PoolConfig}
    (h : Reachable SessionPool.step (fun p l _ => p.keepsEntries l = true) (.new config) p) :
    p.Traced := by
  refine h.invariant_with (fun _ => Sound.of_reachable) ?_ ?_
  · intro s x c hx
    cases hx
  · intro p l p' hsound htraced hs hkeeps
    exact htraced.step hsound hkeeps hs

/-! ## After the shutdown -/

/-- Every open session of the first `n` calls is with one of them. -/
def Cleared (n : ℕ) (p : SessionPool) : Prop :=
  ∀ (s : ℕ) (x : Session) (c : ℕ), p.heap[s]? = some x → x.opener = some c → c < n →
    x.closed = true ∨ Held p.calls n s

/-- **`shutdown` drains the map**: what was in it is the call's. -/
lemma Traced.cleared {d : ℕ} (h : p.Traced) (hd : p.calls[d]? = some (.removal .shutdown .waiting))
    (hdrain : p.remove d = some p') : p'.Cleared p.calls.length := by
  have hp' : p' = { p with
      sessions := ∅
      calls := p.calls.set d
        (.removal .shutdown (.terminating (p.values.map (fun s => (s, .called))))) } := by
    unfold remove at hdrain
    rw [hd] at hdrain
    split at hdrain
    · next hcall =>
      cases hcall
      cases hdrain
      rfl
    · cases hdrain
  subst hp'
  obtain ⟨hlt, -⟩ := List.getElem?_eq_some_iff.mp hd
  intro s x c hx hopener _
  obtain hclosed | ⟨n, c', call, -, hcall, hholds⟩ | hentry := h s x c hx hopener
  · exact .inl hclosed
  · have hheld : Held p.calls p.calls.length s :=
      ⟨c', call, (List.getElem?_eq_some_iff.mp hcall).1, hcall, hholds⟩
    exact .inr (hheld.set_of_idle hd rfl _)
  · refine .inr ⟨d, _, hlt, List.getElem?_set_self hlt, ?_⟩
    simpa [Call.holds] using mem_values.mpr ⟨x.id, hentry⟩

theorem Cleared.step (h : p.Cleared n) (hsound : p.Sound) (hinTime : p.inTime n l = true)
    (hs : p.step l = some p') : p'.Cleared n := by
  intro s x c hx hopener hc
  obtain ⟨x₀, hx₀, hlater⟩ | ⟨config, hopened⟩ := origin_cases hs hx hopener
  · have hend (hclosed : p.isClosed s = true) : x.closed = true :=
      hlater.closed (isClosed_of hx₀ hclosed)
    obtain hclosed | hheld := h s x₀ c hx₀ (hlater.opener ▸ hopener) hc
    · exact .inl (hlater.closed hclosed)
    · obtain hheld | hclosed | ⟨c', rfl, hentering, hc', -⟩ := held_step hsound hs hheld
      · exact .inr hheld
      · exact .inl (hend hclosed)
      · refine .inl (hend ?_)
        simpa [inTime, hentering, hc'] using hinTime
  · exact .inr ⟨c, _, hc, hopened, beq_self_eq_true s⟩

/-- A call that has returned has no open session. -/
lemma Sound.isClosed_of_settled {c : ℕ} {call : Call} (h : p.Sound)
    (hcall : p.calls[c]? = some call) (hholds : call.holds s = true)
    (hsettled : call.settled = true) : p.isClosed s = true := by
  have hknown := h.calls c call hcall
  cases call with
  | startWith config pc =>
    cases pc with
    | opened s' => cases hsettled
    | rejected s' e t =>
      obtain rfl : s' = s := beq_iff_eq.mp hholds
      obtain ⟨x, hx, ht⟩ := hknown
      cases t with
      | returned first =>
        rw [isClosed, hx.get]
        exact ht.1
      | _ => cases hsettled
    | _ => cases hholds
  | removal r pc =>
    cases pc with
    | terminating doomed => cases hsettled
    | _ => cases hholds
  | _ => cases hholds

end SessionPool

/-- **A shutdown leaves nothing open when no call is let in after it.**  A shutdown drains the map,
and from then on the second check lets in no open session of a call that was made before.  Then,
once the shutdown and the calls made before it drained the map have returned, every session that one
of them opened is closed. -/
theorem shutdown_leaves_none_open {config : PoolConfig} {q q' p : SessionPool} {d : ℕ}
    (hq : Reachable SessionPool.step (fun p l _ => p.keepsEntries l = true) (.new config) q)
    (hd : q.calls[d]? = some (.removal .shutdown .waiting)) (hdrain : q.step (.remove d) = some q')
    (hp : Reachable SessionPool.step (fun p l _ => p.inTime q.calls.length l = true) q' p)
    (hsettled : ∀ (c : ℕ) (call : Call), c < q.calls.length → p.calls[c]? = some call →
      call.settled = true) :
    ∀ (s : ℕ) (x : Session) (c : ℕ), p.heap[s]? = some x → x.opener = some c →
      c < q.calls.length → x.closed = true := by
  have hsound (r : SessionPool) (hr : Reachable SessionPool.step free q' r) : r.Sound :=
    .of_reachable ((hq.unguarded.tail hdrain trivial).trans hr)
  have hcleared : p.Cleared q.calls.length := by
    refine hp.invariant_with hsound ?_ ?_
    · exact (SessionPool.Traced.of_reachable hq).cleared hd hdrain
    · intro r l r' hr hcleared hs hinTime
      exact hcleared.step hr hinTime hs
  intro s x c hx hopener hc
  obtain hclosed | ⟨c', call, hc', hcall, hholds⟩ := hcleared s x c hx hopener hc
  · exact hclosed
  · have hreturned := hsettled c' call hc' hcall
    exact SessionPool.isClosed_of hx
      ((hsound p hp.unguarded).isClosed_of_settled hcall hholds hreturned)

/-- Two sessions to one target, and no limit. -/
def openPool : PoolConfig :=
  { maxSessions := 0, allowDuplicateTargets := true, sessionDefaults := sampleSession }

/-- One call has a session in the map, another has opened one; a shutdown is made. -/
def beforeShutdown : List Label :=
  List.flatten
    [[.request (.startWith sampleSession), .request (.startWith sampleSession), .acquire 0, .unlock,
        .acquire 1, .unlock],
      opensAs 0 "s-1", opensAs 1 "s-2",
      [.acquire 0, .unlock, .count 0, .request (.removal .shutdown)]]

/-- A shutdown, as the third call, terminates a session it took. -/
def terminating (k : ℕ) : List Label :=
  [.terminateDoomed 2 k, .terminateDoomed 2 k, .terminateDoomed 2 k]

/-- The second call is let in before the map is drained. -/
def letInBefore : List Label := List.flatten [beforeShutdown, [.acquire 1, .reap "s-1", .unlock]]

/-- Then the shutdown terminates both sessions, and both calls return. -/
def bothTerminated : List Label :=
  List.flatten [terminating 0, terminating 1, [.removalReturns 2, .count 1]]

/-- The shutdown has returned when the second call is let in. -/
def letInAfter : List Label :=
  List.flatten [terminating 0, [.removalReturns 2, .acquire 1, .unlock, .count 1]]

lemma settled_of_all {p : SessionPool} (h : p.calls.all Call.settled = true) (n c : ℕ) (call : Call)
    (_ : c < n) (hcall : p.calls[c]? = some call) : call.settled = true :=
  List.all_eq_true.mp h call (List.mem_of_getElem? hcall)

/-- The second call is let in, the map is drained, and both sessions are closed. -/
theorem shutdown_leaves_none_open_midway :
    ∃ (p : SessionPool) (x y : Session),
      p.heap[0]? = some x ∧ x.opener = some 0 ∧ x.closed = true ∧
      p.heap[1]? = some y ∧ y.opener = some 1 ∧ y.closed = true ∧
      Reachable SessionPool.step free (.new openPool) p := by
  have hrun : (runIf SessionPool.step (fun p l _ => p.keepsEntries l) (.new openPool)
      letInBefore).any (fun (q : SessionPool) =>
        decide (q.calls.length = 3 ∧ q.calls[2]? = some (.removal .shutdown .waiting)) &&
        (q.step (.remove 2)).any (fun (q' : SessionPool) =>
          (runIf SessionPool.step (fun p l _ => p.inTime 3 l) q' bothTerminated).any
            (fun (p : SessionPool) => p.calls.all Call.settled &&
              p.heap[0]?.any (fun (x : Session) => x.opener == some 0) &&
              p.heap[1]?.any (fun (x : Session) => x.opener == some 1)))) = true := by
    decide +kernel
  obtain ⟨q, hq, hrest⟩ := exists_of_runIf (fun _ _ _ h => h) hrun
  rw [Bool.and_eq_true] at hrest
  obtain ⟨hlength, hd⟩ := of_decide_eq_true hrest.1
  obtain ⟨q', hdrain, hrest⟩ := (Option.any_eq_true _ _).mp hrest.2
  rw [← hlength] at hrest
  obtain ⟨p, hp, hlast⟩ := exists_of_runIf (fun _ _ _ h => h) hrest
  simp only [Bool.and_eq_true] at hlast
  obtain ⟨⟨hsettled, hx⟩, hy⟩ := hlast
  obtain ⟨x, hx, hopener⟩ := (Option.any_eq_true _ _).mp hx
  obtain ⟨y, hy, hopener'⟩ := (Option.any_eq_true _ _).mp hy
  have hclosed := shutdown_leaves_none_open hq hd hdrain hp (settled_of_all hsettled _)
  have hx' := beq_iff_eq.mp hopener
  have hy' := beq_iff_eq.mp hopener'
  refine ⟨p, x, y, hx, hx', ?_, hy, hy', ?_, ?_⟩
  · exact hclosed 0 x 0 hx hx' (by omega)
  · exact hclosed 1 y 1 hy hy' (by omega)
  · exact (hq.unguarded.tail hdrain trivial).trans hp.unguarded

/-- **A session outlives the shutdown.**  The second call is let in after the map was drained: the
shutdown and both calls have returned, and its session is open. -/
theorem session_outlives_shutdown :
    ∃ (q q' p : SessionPool) (x : Session),
      Reachable SessionPool.step (fun p l _ => p.keepsEntries l = true) (.new openPool) q ∧
      q.calls[2]? = some (.removal .shutdown .waiting) ∧ q.step (.remove 2) = some q' ∧
      Reachable SessionPool.step (fun p l _ => p.keepsEntries l = true) q' p ∧
      (∀ (c : ℕ) (call : Call), c < q.calls.length → p.calls[c]? = some call →
        call.settled = true) ∧
      1 < q.calls.length ∧ p.heap[1]? = some x ∧ x.opener = some 1 ∧ x.closed = false := by
  have hrun : (runIf SessionPool.step (fun p l _ => p.keepsEntries l) (.new openPool)
      beforeShutdown).any (fun (q : SessionPool) =>
        decide (q.calls.length = 3 ∧ q.calls[2]? = some (.removal .shutdown .waiting)) &&
        (q.step (.remove 2)).any (fun (q' : SessionPool) =>
          (runIf SessionPool.step (fun p l _ => p.keepsEntries l) q' letInAfter).any
            (fun (p : SessionPool) => p.calls.all Call.settled &&
              p.heap[1]?.any (fun (x : Session) =>
                decide (x.opener = some 1 ∧ x.closed = false))))) = true := by
    decide +kernel
  obtain ⟨q, hq, hrest⟩ := exists_of_runIf (fun _ _ _ h => h) hrun
  rw [Bool.and_eq_true] at hrest
  obtain ⟨hlength, hd⟩ := of_decide_eq_true hrest.1
  obtain ⟨q', hdrain, hrest⟩ := (Option.any_eq_true _ _).mp hrest.2
  obtain ⟨p, hp, hlast⟩ := exists_of_runIf (fun _ _ _ h => h) hrest
  rw [Bool.and_eq_true] at hlast
  obtain ⟨x, hx, hopen⟩ := (Option.any_eq_true _ _).mp hlast.2
  obtain ⟨hopener, hclosed⟩ := of_decide_eq_true hopen
  exact ⟨q, q', p, x, hq, hd, hdrain, hp, settled_of_all hlast.1 _, by omega, hx, hopener, hclosed⟩

end SsmBridge.Pool
