import SsmBridge.Construction.PoolMoves

/-!
# The pool's limits hold under concurrency

A session gets into the map in one place, under the lock and right after `admit` has looked at the
map it is put into; so the limits are an invariant of the map, whatever happened between the two
checks of the call that puts it there.  What a call knows of its session stays true because a
session only ever changes one way: it keeps its id and its configuration, it closes, it is released.
-/

namespace SsmBridge.Pool

open Machine

/-! ## Sessions only change one way -/

/-- A session at a later time. -/
structure Session.Later (x x' : Session) : Prop where
  id : x'.id = x.id
  config : x'.config = x.config
  ssm : x'.ssm = x.ssm
  opener : x'.opener = x.opener
  closed : x.closed = true → x'.closed = true
  released : x.released = true → x'.released = true

lemma Session.Later.refl (x : Session) : x.Later x := ⟨rfl, rfl, rfl, rfl, fun h => h, fun h => h⟩

/-- Every session of one heap is in the other, at a later time. -/
def Extends (heap heap' : List Session) : Prop :=
  ∀ (s : ℕ) (x : Session), heap[s]? = some x → ∃ x', heap'[s]? = some x' ∧ x.Later x'

lemma Extends.set {heap : List Session} {s : ℕ} {x x' : Session} (hx : heap[s]? = some x)
    (hlater : x.Later x') : Extends heap (heap.set s x') := by
  intro i y hy
  by_cases hi : s = i
  · subst hi
    obtain rfl : x = y := Option.some_inj.mp (hx.symm.trans hy)
    obtain ⟨hlt, -⟩ := List.getElem?_eq_some_iff.mp hx
    exact ⟨x', by rw [List.getElem?_set_self hlt], hlater⟩
  · exact ⟨y, by rw [List.getElem?_set_ne hi, hy], .refl y⟩

lemma Extends.append (heap : List Session) (x : Session) : Extends heap (heap ++ [x]) := by
  intro i y hy
  obtain ⟨hlt, -⟩ := List.getElem?_eq_some_iff.mp hy
  exact ⟨y, by rw [List.getElem?_append_left hlt, hy], .refl y⟩

/-! ## What a call knows -/

/-- What a call of `Session::terminate` has brought about. -/
def Termination.Sound (x : Session) : Termination → Prop
  | .called | .closing _ => True
  | .joining _ => x.closed = true
  | .returned first => x.closed = true ∧ (first = true → x.ssm = true → x.released = true)

/-- The session that a call of `start_with` opened. -/
structure OpenedBy (heap : List Session) (c : ℕ) (config : SessionConfig) (s : ℕ) (x : Session) :
    Prop where
  get : heap[s]? = some x
  config : x.config = config
  ssm : x.ssm = true
  opener : x.opener = some c

/-- What a call of `start_with` knows of its session. -/
def StartPc.Sound (heap : List Session) (c : ℕ) (config : SessionConfig) : StartPc → Prop
  | .opened s | .admitted s | .returned s => ∃ x, OpenedBy heap c config s x
  | .rejected s _ termination => ∃ x, OpenedBy heap c config s x ∧ termination.Sound x
  | _ => True

/-- What a call knows of the sessions it has to do with. -/
def Call.Sound (heap : List Session) (c : ℕ) : Call → Prop
  | .startWith config pc => pc.Sound heap c config
  | .removal _ (.terminating doomed) =>
      ∀ d ∈ doomed, ∃ x, heap[d.1]? = some x ∧ d.2.Sound x
  | _ => True

section

variable {heap heap' : List Session} {c : ℕ} {config : SessionConfig} {s : ℕ} {x x' : Session}

lemma Termination.Sound.mono {t : Termination} (h : t.Sound x) (hlater : x.Later x') :
    t.Sound x' := by
  cases t with
  | called => trivial
  | closing first => trivial
  | joining first => exact hlater.closed h
  | returned first =>
    refine ⟨hlater.closed h.1, ?_⟩
    intro hfirst hssm
    exact hlater.released (h.2 hfirst (hlater.ssm ▸ hssm))

lemma Termination.later {t t' : Termination} (hs : t.step x = some (t', x')) : x.Later x' := by
  cases t with
  | called =>
    cases hs
    exact .refl x
  | closing first =>
    cases hs
    exact ⟨rfl, rfl, rfl, rfl, fun _ => rfl, fun h => h⟩
  | joining first =>
    cases hs
    refine ⟨rfl, rfl, rfl, rfl, fun h => h, ?_⟩
    intro hreleased
    simp [hreleased]
  | returned first => cases hs

/-- One step of `Session::terminate`. -/
lemma Termination.Sound.step {t t' : Termination} (h : t.Sound x) (hs : t.step x = some (t', x')) :
    t'.Sound x' := by
  cases t with
  | called =>
    cases hs
    trivial
  | closing first =>
    cases hs
    exact rfl
  | joining first =>
    cases hs
    refine ⟨h, ?_⟩
    intro hfirst hssm
    have hssm : x.ssm = true := hssm
    simp [hfirst, hssm]
  | returned first => cases hs

lemma OpenedBy.later (h : OpenedBy heap c config s x) (hext : Extends heap heap') :
    ∃ x', OpenedBy heap' c config s x' ∧ x.Later x' := by
  obtain ⟨x', hx', hlater⟩ := hext s x h.get
  exact ⟨x', ⟨hx', hlater.config.trans h.config, hlater.ssm.trans h.ssm,
    hlater.opener.trans h.opener⟩, hlater⟩

lemma StartPc.Sound.mono {pc : StartPc} (h : pc.Sound heap c config) (hext : Extends heap heap') :
    pc.Sound heap' c config := by
  have hopened {s : ℕ} (h : ∃ x, OpenedBy heap c config s x) :
      ∃ x, OpenedBy heap' c config s x := by
    obtain ⟨x, hx⟩ := h
    obtain ⟨x', hx', -⟩ := hx.later hext
    exact ⟨x', hx'⟩
  cases pc with
  | opened s => exact hopened h
  | admitted s => exact hopened h
  | returned s => exact hopened h
  | rejected s e t =>
    obtain ⟨x, hx, ht⟩ := h
    obtain ⟨x', hx', hlater⟩ := hx.later hext
    exact ⟨x', hx', ht.mono hlater⟩
  | _ => trivial

lemma Call.Sound.mono {call : Call} (h : call.Sound heap c) (hext : Extends heap heap') :
    call.Sound heap' c := by
  cases call with
  | startWith config pc => exact StartPc.Sound.mono h hext
  | removal r pc =>
    cases pc with
    | terminating doomed =>
      intro d hd
      obtain ⟨x, hx, ht⟩ := h d hd
      obtain ⟨x', hx', hlater⟩ := hext _ _ hx
      exact ⟨x', hx', ht.mono hlater⟩
    | _ => trivial
  | _ => trivial

lemma StartPc.Sound.of_idle {pc : StartPc} (h : pc.session = none) (heap : List Session) (c : ℕ)
    (config : SessionConfig) : pc.Sound heap c config := by
  cases pc with
  | opened s => cases h
  | admitted s => cases h
  | returned s => cases h
  | rejected s e t => cases h
  | _ => trivial

/-- A call moves on by itself. -/
lemma Call.Sound.moves {call call' : Call} (h : call.Sound heap c) (hmoves : call.Moves call') :
    call'.Sound heap c := by
  cases hmoves with
  | idle _ h' => exact StartPc.Sound.of_idle h' _ _ _
  | rejected =>
    obtain ⟨x, hx⟩ := h
    exact ⟨x, hx, trivial⟩
  | counted => exact h
  | insert => trivial
  | query => trivial
  | returned _ => trivial

/-- A call has a session terminated. -/
lemma Call.Sound.terminates {call call' : Call} {t t' : Termination} (h : call.Sound heap c)
    (hx : heap[s]? = some x) (hstep : t.step x = some (t', x'))
    (hterm : call.Terminates s t t' call') : call'.Sound (heap.set s x') c := by
  have hext := Extends.set hx (Termination.later hstep)
  have hx' : (heap.set s x')[s]? = some x' :=
    List.getElem?_set_self (List.getElem?_eq_some_iff.mp hx).1
  cases hterm with
  | rejected =>
    obtain ⟨y, hy, ht⟩ := h
    obtain rfl : y = x := Option.some_inj.mp (hy.get.symm.trans hx)
    obtain ⟨z, hz, -⟩ := hy.later hext
    obtain rfl : x' = z := Option.some_inj.mp (hx'.symm.trans hz.get)
    exact ⟨x', hz, ht.step hstep⟩
  | @doomed r doomed k hk =>
    intro d hd
    obtain hold | rfl := List.mem_or_eq_of_mem_set hd
    · exact Call.Sound.mono h hext d hold
    · obtain ⟨y, hy, ht⟩ := h _ (List.mem_of_getElem? hk)
      obtain rfl : y = x := Option.some_inj.mp (hy.symm.trans hx)
      exact ⟨x', hx', ht.step hstep⟩

end

/-! ## The invariant -/

/-- The limits, and what the calls know. -/
structure SessionPool.Sound (p : SessionPool) : Prop where
  keyed : ∀ (id : String) (s : ℕ), p.sessions.lookup id = some s →
    ∃ x, p.heap[s]? = some x ∧ x.id = id
  bounded : 0 < p.config.maxSessions → p.sessions.entries.length ≤ p.config.maxSessions
  distinct : p.config.allowDuplicateTargets = false →
    ∀ (id id' : String) (s s' : ℕ) (x x' : Session), p.sessions.lookup id = some s →
      p.sessions.lookup id' = some s' → p.heap[s]? = some x → p.heap[s']? = some x' →
      x.config.target = x'.config.target → id = id'
  calls : ∀ (c : ℕ) (call : Call), p.calls[c]? = some call → call.Sound p.heap c

namespace SessionPool.Sound

variable {p : SessionPool} {c : ℕ} {call : Call} {s : ℕ} {x x' : Session}

lemma new (config : PoolConfig) : (SessionPool.new config).Sound := by
  refine ⟨?_, ?_, ?_, ?_⟩
  · intro id s hs
    cases hs
  · intro _
    exact Nat.zero_le _
  · intro _ id id' s s' x x' hs
    cases hs
  · intro c call hcall
    cases hcall

/-- Neither the lock nor the counter matters. -/
lemma withLock (h : p.Sound) (lock : Option Holder) (started : ℕ) :
    ({ p with lock, started } : SessionPool).Sound :=
  ⟨h.keyed, h.bounded, h.distinct, h.calls⟩

/-- A call moves on. -/
lemma setCall (h : p.Sound) (hcall : call.Sound p.heap c) :
    ({ p with calls := p.calls.set c call } : SessionPool).Sound := by
  refine ⟨h.keyed, h.bounded, h.distinct, ?_⟩
  intro i call' hi
  obtain ⟨rfl, rfl⟩ | ⟨-, hold⟩ := getElem?_of_set hi
  · exact hcall
  · exact h.calls i call' hold

/-- A call is made. -/
lemma request (h : p.Sound) (r : Request) :
    ({ p with calls := p.calls ++ [r.call p.config] } : SessionPool).Sound := by
  refine ⟨h.keyed, h.bounded, h.distinct, ?_⟩
  intro i call' hi
  obtain ⟨-, rfl⟩ | ⟨-, hold⟩ := getElem?_of_concat hi
  · cases r <;> trivial
  · exact h.calls i call' hold

/-- The heap changes the way sessions change. -/
lemma extend (h : p.Sound) {heap : List Session} (hext : Extends p.heap heap) :
    ({ p with heap } : SessionPool).Sound := by
  refine ⟨?_, h.bounded, ?_, ?_⟩
  · intro id s hs
    obtain ⟨x, hx, hid⟩ := h.keyed id s hs
    obtain ⟨x', hx', hlater⟩ := hext s x hx
    exact ⟨x', hx', hlater.id.trans hid⟩
  · intro hdup id id' s s' y y' hs hs' hy hy' htarget
    obtain ⟨x, hx, -⟩ := h.keyed id s hs
    obtain ⟨x', hx', -⟩ := h.keyed id' s' hs'
    obtain ⟨z, hz, hlater⟩ := hext s x hx
    obtain ⟨z', hz', hlater'⟩ := hext s' x' hx'
    obtain rfl : y = z := Option.some_inj.mp (hy.symm.trans hz)
    obtain rfl : y' = z' := Option.some_inj.mp (hy'.symm.trans hz')
    rw [hlater.config, hlater'.config] at htarget
    exact h.distinct hdup id id' s s' x x' hs hs' hx hx' htarget
  · intro c call hcall
    exact (h.calls c call hcall).mono hext

/-- Entries leave the map. -/
lemma restrict (h : p.Sound) {m : AList (fun _ : String => ℕ)}
    (hsub : ∀ (id : String) (s : ℕ), m.lookup id = some s → p.sessions.lookup id = some s)
    (hlength : m.entries.length ≤ p.sessions.entries.length) :
    ({ p with sessions := m } : SessionPool).Sound := by
  refine ⟨?_, ?_, ?_, h.calls⟩
  · intro id s hs
    exact h.keyed id s (hsub id s hs)
  · intro hmax
    exact hlength.trans (h.bounded hmax)
  · intro hdup id id' s s' x x' hs hs'
    exact h.distinct hdup id id' s s' x x' (hsub id s hs) (hsub id' s' hs')

/-- A session that `admit` let in is put into the map. -/
lemma put (h : p.Sound) (hx : p.heap[s]? = some x)
    (hadmission : p.admission x.config.target = .ok ()) :
    ({ p with sessions := p.put s } : SessionPool).Sound := by
  obtain ⟨hroom, hnone⟩ := SessionPool.of_admission hadmission
  have hother (hdup : p.config.allowDuplicateTargets = false) {id : String} {s' : ℕ} {x' : Session}
      (hs' : p.sessions.lookup id = some s') (hx' : p.heap[s']? = some x') :
      x'.config.target ≠ x.config.target := by
    intro htarget
    have hfalse := hnone hdup s' (SessionPool.mem_values.mpr ⟨id, hs'⟩)
    simp [SessionPool.hasTarget, hx', htarget] at hfalse
  rw [SessionPool.put_eq hx]
  refine ⟨?_, ?_, ?_, h.calls⟩
  · intro id s' hs'
    obtain ⟨rfl, rfl⟩ | hold := SessionPool.lookup_insert_cases hs'
    · exact ⟨x, hx, rfl⟩
    · exact h.keyed id s' hold
  · intro hmax
    exact (length_insert_le _ _ _).trans (hroom hmax)
  · intro hdup id id' s₁ s₂ x₁ x₂ hs₁ hs₂ hx₁ hx₂ htarget
    obtain ⟨rfl, rfl⟩ | hold₁ := SessionPool.lookup_insert_cases hs₁ <;>
      obtain ⟨hid₂, hs₂⟩ | hold₂ := SessionPool.lookup_insert_cases hs₂
    · exact hid₂.symm
    · obtain rfl : x = x₁ := Option.some_inj.mp (hx.symm.trans hx₁)
      exact absurd htarget.symm (hother hdup hold₂ hx₂)
    · subst hs₂
      obtain rfl : x = x₂ := Option.some_inj.mp (hx.symm.trans hx₂)
      exact absurd htarget (hother hdup hold₁ hx₁)
    · exact h.distinct hdup id id' s₁ s₂ x₁ x₂ hold₁ hold₂ hx₁ hx₂ htarget

/-- **Every step keeps the limits.** The map grows only where a call was let in, and that is decided
under the lock with the map as it is. -/
theorem step {p' : SessionPool} {l : Label} (h : p.Sound) (hs : p.step l = some p') : p'.Sound := by
  cases SessionPool.moves_of_step hs with
  | request r => exact h.request r
  | lock lock => exact h.withLock lock p.started
  | @reaped _ id s lock hlookup hclosed =>
    have hrest := h.restrict (fun _ _ => lookup_of_lookup_erase) (length_erase_le p.sessions id)
    exact hrest.withLock lock p.started
  | call lock started hcall hmoves =>
    have hcall' := Call.Sound.moves (h.calls _ _ hcall) hmoves
    exact (h.setCall hcall').withLock lock started
  | @opened c config id hcall =>
    have hopened : Call.Sound (p.heap ++ [.opened id config c]) c
        (.startWith config (.opened p.heap.length)) :=
      ⟨.opened id config c, List.getElem?_concat_length, rfl, rfl, rfl⟩
    exact (h.extend (.append _ _)).setCall hopened
  | @admitted holder config s hlock hcall hadmission =>
    obtain ⟨x, hx⟩ := h.calls _ _ hcall
    have hput := h.put hx.get (hx.config ▸ hadmission)
    have hadmitted : Call.Sound p.heap holder.call (.startWith config (.admitted s)) := ⟨x, hx⟩
    exact (hput.setCall hadmitted).withLock none p.started
  | @inserted holder s x hlock hcall hx hadmission =>
    have hinserted : Call.Sound p.heap holder.call (.insert s .admitted) := trivial
    exact ((h.put hx hadmission).setCall hinserted).withLock none p.started
  | @removed _ c r hcall =>
    have hrest := h.restrict (fun _ _ => SessionPool.lookup_of_lookup_doomed)
      (SessionPool.length_doomed_le p r)
    refine hrest.setCall ?_
    intro d hd
    obtain ⟨s, hs, rfl⟩ := List.mem_map.mp hd
    obtain ⟨id, hid⟩ := SessionPool.exists_lookup_of_mem_doomed hs
    obtain ⟨x, hx, -⟩ := h.keyed id s hid
    exact ⟨x, hx, trivial⟩
  | terminated hcall hx hstep hterm =>
    have hext := Extends.set hx (Termination.later hstep)
    exact (h.extend hext).setCall (Call.Sound.terminates (h.calls _ _ hcall) hx hstep hterm)
  | ended hx => exact h.extend (.set hx ⟨rfl, rfl, rfl, rfl, fun _ => rfl, fun h => h⟩)
  | external id config ssm => exact h.extend (.append _ _)

/-- **They hold in every run.** A new pool is empty, and every step keeps them. -/
theorem of_reachable {config : PoolConfig} (h : Reachable SessionPool.step free (.new config) p) :
    p.Sound :=
  h.invariant (new config) (fun _ _ _ hp hs _ => hp.step hs)

end SessionPool.Sound

/-! ## No session is lost sight of -/

/-- A call keeps the session it opened. -/
def Call.Keeps (call call' : Call) : Prop :=
  ∀ s, call.session = some s → call'.session = some s

lemma Call.Keeps.of_idle {call call' : Call} (h : call.session = none) : call.Keeps call' := by
  intro s hs
  rw [h] at hs
  cases hs

lemma Call.Moves.keeps {call call' : Call} (h : call.Moves call') : call.Keeps call' := by
  cases h with
  | idle h _ => exact .of_idle h
  | rejected => exact fun _ h => h
  | counted => exact fun _ h => h
  | insert => exact .of_idle rfl
  | query => exact .of_idle rfl
  | returned _ => exact .of_idle rfl

lemma Call.Terminates.keeps {s : ℕ} {t t' : Termination} {call call' : Call}
    (h : call.Terminates s t t' call') : call.Keeps call' := by
  cases h with
  | rejected => exact fun _ h => h
  | doomed _ => exact .of_idle rfl

/-- The call that opened a session has not forgotten it. -/
def SessionPool.Owned (p : SessionPool) : Prop :=
  ∀ (s : ℕ) (x : Session) (c : ℕ), p.heap[s]? = some x → x.opener = some c →
    ∃ call, p.calls[c]? = some call ∧ call.session = some s

namespace SessionPool

variable {p p' : SessionPool} {c : ℕ} {call : Call} {l : Label}

/-- A call moves on and the others stay. -/
lemma exists_keeps_set {c₀ : ℕ} {call₀ call₀' : Call} (hcall₀ : p.calls[c₀]? = some call₀)
    (hkeeps : call₀.Keeps call₀') (hcall : p.calls[c]? = some call) :
    ∃ call', (p.calls.set c₀ call₀')[c]? = some call' ∧ call.Keeps call' := by
  by_cases hc : c₀ = c
  · subst hc
    obtain rfl : call₀ = call := Option.some_inj.mp (hcall₀.symm.trans hcall)
    obtain ⟨hlt, -⟩ := List.getElem?_eq_some_iff.mp hcall
    exact ⟨call₀', List.getElem?_set_self hlt, hkeeps⟩
  · exact ⟨call, (List.getElem?_set_ne hc).trans hcall, fun _ h => h⟩

/-- **Every step keeps the sessions of the calls.** A call that has opened a session knows of it
until it has returned it or terminated it. -/
lemma exists_keeps (hs : p.step l = some p') (hcall : p.calls[c]? = some call) :
    ∃ call', p'.calls[c]? = some call' ∧ call.Keeps call' := by
  cases moves_of_step hs with
  | request r =>
    obtain ⟨hlt, -⟩ := List.getElem?_eq_some_iff.mp hcall
    exact ⟨call, (List.getElem?_append_left hlt).trans hcall, fun _ h => h⟩
  | lock lock => exact ⟨call, hcall, fun _ h => h⟩
  | reaped lock hlookup hclosed => exact ⟨call, hcall, fun _ h => h⟩
  | call lock started hcall₀ hmoves => exact exists_keeps_set hcall₀ hmoves.keeps hcall
  | opened hcall₀ => exact exists_keeps_set hcall₀ (.of_idle rfl) hcall
  | admitted hlock hcall₀ hadmission => exact exists_keeps_set hcall₀ (fun _ h => h) hcall
  | inserted hlock hcall₀ hx hadmission => exact exists_keeps_set hcall₀ (.of_idle rfl) hcall
  | removed hcall₀ => exact exists_keeps_set hcall₀ (.of_idle rfl) hcall
  | terminated hcall₀ hx hstep hterm => exact exists_keeps_set hcall₀ hterm.keeps hcall
  | ended hx => exact ⟨call, hcall, fun _ h => h⟩
  | external id config ssm => exact ⟨call, hcall, fun _ h => h⟩

/-- **Where a session comes from**: it was there, or a call has just opened it. -/
lemma origin_cases {s : ℕ} {x : Session} (hs : p.step l = some p') (hx : p'.heap[s]? = some x)
    (hopener : x.opener = some c) :
    (∃ x₀, p.heap[s]? = some x₀ ∧ x₀.Later x) ∨
      ∃ config, p'.calls[c]? = some (.startWith config (.opened s)) := by
  cases moves_of_step hs with
  | @opened c₀ config id hcall =>
    obtain ⟨rfl, rfl⟩ | ⟨-, hold⟩ := getElem?_of_concat hx
    · obtain rfl : c₀ = c := Option.some_inj.mp hopener
      obtain ⟨hlt, -⟩ := List.getElem?_eq_some_iff.mp hcall
      exact .inr ⟨config, List.getElem?_set_self hlt⟩
    · exact .inl ⟨x, hold, .refl x⟩
  | terminated hcall hx₀ hstep hterm =>
    obtain ⟨rfl, rfl⟩ | ⟨-, hold⟩ := getElem?_of_set hx
    · exact .inl ⟨_, hx₀, Termination.later hstep⟩
    · exact .inl ⟨x, hold, .refl x⟩
  | ended hx₀ =>
    obtain ⟨rfl, rfl⟩ | ⟨-, hold⟩ := getElem?_of_set hx
    · exact .inl ⟨_, hx₀, rfl, rfl, rfl, rfl, fun _ => rfl, fun h => h⟩
    · exact .inl ⟨x, hold, .refl x⟩
  | external id config ssm =>
    obtain ⟨rfl, rfl⟩ | ⟨-, hold⟩ := getElem?_of_concat hx
    · cases hopener
    · exact .inl ⟨x, hold, .refl x⟩
  | _ => exact .inl ⟨x, hx, .refl x⟩

theorem Owned.step (h : p.Owned) (hs : p.step l = some p') : p'.Owned := by
  intro s x c hx hopener
  obtain ⟨x₀, hx₀, hlater⟩ | ⟨config, hopened⟩ := origin_cases hs hx hopener
  · obtain ⟨call, hcall, hsession⟩ := h s x₀ c hx₀ (hlater.opener ▸ hopener)
    obtain ⟨call', hcall', hkeeps⟩ := exists_keeps hs hcall
    exact ⟨call', hcall', hkeeps s hsession⟩
  · exact ⟨_, hopened, rfl⟩

theorem Owned.of_reachable {config : PoolConfig}
    (h : Reachable SessionPool.step free (.new config) p) : p.Owned := by
  refine h.invariant ?_ (fun _ _ _ hp hs _ => hp.step hs)
  intro s x c hx
  cases hx

end SessionPool

/-! ## Admission -/

/-- The session of this call of `start_with` was let in. -/
def Call.letIn (s : ℕ) : Call → Bool
  | .startWith _ (.admitted s') | .startWith _ (.returned s') => s' == s
  | _ => false

lemma letIn_eq_false {pc : StartPc} (h : pc.session = none) (config : SessionConfig) (s : ℕ) :
    Call.letIn s (.startWith config pc) = false := by
  cases pc with
  | opened s => cases h
  | admitted s => cases h
  | returned s => cases h
  | rejected s e t => cases h
  | _ => rfl

/-- A call that moves on by itself is not let in by it. -/
lemma Call.Moves.letIn_eq {call call' : Call} (h : call.Moves call') (s : ℕ) :
    call'.letIn s = call.letIn s := by
  cases h with
  | idle h h' => rw [letIn_eq_false h, letIn_eq_false h']
  | _ => rfl

lemma Call.Terminates.letIn_eq_false {s s' : ℕ} {t t' : Termination} {call call' : Call}
    (h : call.Terminates s t t' call') : call'.letIn s' = false := by
  cases h with
  | _ => rfl

namespace SessionPool

variable {p p' : SessionPool} {c s : ℕ} {call : Call} {l : Label}

/-- **One step lets a session in**, the second check, and then it is in the map. -/
lemma lookup_of_letIn (h : p.Sound) (hs : p.step l = some p')
    (hbefore : ∀ call, p.calls[c]? = some call → call.letIn s = false)
    (hcall : p'.calls[c]? = some call) (hin : call.letIn s = true) :
    ∃ config x, p.calls[c]? = some (.startWith config (.opened s)) ∧
      call = .startWith config (.admitted s) ∧ p'.heap[s]? = some x ∧
      p'.sessions.lookup x.id = some s := by
  have hold (h : p.calls[c]? = some call) : False := by
    rw [hbefore call h] at hin
    cases hin
  have hmoved {c₀ : ℕ} {call₀ : Call} (h : (p.calls.set c₀ call₀)[c]? = some call)
      (hout : c = c₀ → call₀.letIn s = false) : False := by
    obtain ⟨hc, rfl⟩ | ⟨-, h⟩ := getElem?_of_set h
    · rw [hout hc] at hin
      cases hin
    · exact hold h
  cases moves_of_step hs with
  | request r =>
    obtain ⟨-, rfl⟩ | ⟨-, h⟩ := getElem?_of_concat hcall
    · cases r <;> cases hin
    · exact (hold h).elim
  | lock lock => exact (hold hcall).elim
  | reaped lock hlookup hclosed => exact (hold hcall).elim
  | call lock started hcall₀ hmoves =>
    refine (hmoved hcall ?_).elim
    rintro rfl
    exact (hmoves.letIn_eq s).trans (hbefore _ hcall₀)
  | opened hcall₀ => exact (hmoved hcall (fun _ => rfl)).elim
  | @admitted holder config s₀ hlock hcall₀ hadmission =>
    obtain ⟨rfl, rfl⟩ | ⟨-, h'⟩ := getElem?_of_set hcall
    · obtain rfl : s₀ = s := beq_iff_eq.mp hin
      obtain ⟨x, hx⟩ := h.calls _ _ hcall₀
      refine ⟨config, x, hcall₀, rfl, hx.get, ?_⟩
      rw [put_eq hx.get]
      exact AList.lookup_insert _
    · exact (hold h').elim
  | inserted hlock hcall₀ hx hadmission => exact (hmoved hcall (fun _ => rfl)).elim
  | removed hcall₀ => exact (hmoved hcall (fun _ => rfl)).elim
  | terminated hcall₀ hx hstep hterm =>
    exact (hmoved hcall (fun _ => hterm.letIn_eq_false)).elim
  | ended hx => exact (hold hcall).elim
  | external id config ssm => exact (hold hcall).elim

end SessionPool

/-! ## The limits -/

/-- What the pool promises, in any state. -/
structure SessionPool.Limits (p : SessionPool) : Prop where
  /-- The map has no more entries than it may have. -/
  bounded : 0 < p.config.maxSessions → p.sessions.entries.length ≤ p.config.maxSessions
  /-- Two entries whose sessions are open have different targets, if they have to. -/
  distinct : p.config.allowDuplicateTargets = false →
    ∀ (id id' : String) (s s' : ℕ) (x x' : Session), p.sessions.lookup id = some s →
      p.sessions.lookup id' = some s' → p.heap[s]? = some x → p.heap[s']? = some x' →
      x.closed = false → x'.closed = false → x.config.target = x'.config.target → id = id'
  /-- A call of `start_with` that has returned has returned the session it opened or terminated it:
  the session is closed and, if it was still open, released. -/
  terminated : ∀ (s : ℕ) (x : Session) (c : ℕ), p.heap[s]? = some x → x.opener = some c →
    ∃ config pc, p.calls[c]? = some (.startWith config pc) ∧
      (pc.hasReturned = true → pc = .returned s ∨ ∃ e first,
        pc = .rejected s e (.returned first) ∧ x.closed = true ∧ (first = true → x.released = true))

lemma SessionPool.Sound.limits {p : SessionPool} (h : p.Sound) (howned : p.Owned) : p.Limits := by
  refine ⟨h.bounded, ?_, ?_⟩
  · intro hdup id id' s s' x x' hs hs' hx hx' _ _ htarget
    exact h.distinct hdup id id' s s' x x' hs hs' hx hx' htarget
  · intro s x c hx hopener
    obtain ⟨call, hcall, hsession⟩ := howned s x c hx hopener
    have hknown := h.calls c call hcall
    cases call with
    | startWith config pc =>
      refine ⟨config, pc, hcall, ?_⟩
      intro hreturned
      cases pc with
      | returned s' =>
        obtain rfl : s' = s := Option.some_inj.mp hsession
        exact .inl rfl
      | rejected s' e termination =>
        obtain rfl : s' = s := Option.some_inj.mp hsession
        obtain ⟨y, hy, hsound⟩ := hknown
        obtain rfl : y = x := Option.some_inj.mp (hy.get.symm.trans hx)
        cases termination with
        | returned first =>
          exact .inr ⟨e, first, rfl, hsound.1, fun hfirst => hsound.2 hfirst hy.ssm⟩
        | _ => cases hreturned
      | opened s' => cases hreturned
      | admitted s' => cases hreturned
      | _ => cases hsession
    | _ => cases hsession

/-- No step changes the configuration. -/
lemma SessionPool.config_of_reachable {config : PoolConfig} {p : SessionPool}
    (hp : Reachable SessionPool.step free (.new config) p) : p.config = config := by
  refine Reachable.invariant (P := fun p => p.config = config) rfl ?_ hp
  intro p l p' ih hs _
  rw [← ih]
  cases moves_of_step hs <;> rfl

/-- **The pool's limits hold under concurrency.**  In every state of every run the map is within the
limits the pool was made with and a call of `start_with` that returned an error has terminated the
session it opened; and a session that such a call returned was in the map when the call was let
in. -/
theorem pool_limits (config : PoolConfig) :
    (∀ p, Reachable SessionPool.step free (.new config) p → p.config = config ∧ p.Limits) ∧
      ∀ (labels : List Label) (p : SessionPool) (c s : ℕ) (requested : SessionConfig),
        run SessionPool.step (.new config) labels = some p →
        p.calls[c]? = some (.startWith requested (.returned s)) →
        ∃ before l after q q' requested' x, labels = before ++ l :: after ∧
          run SessionPool.step (.new config) before = some q ∧ q.step l = some q' ∧
          q.calls[c]? = some (.startWith requested' (.opened s)) ∧
          q'.calls[c]? = some (.startWith requested' (.admitted s)) ∧ q'.heap[s]? = some x ∧
          q'.sessions.lookup x.id = some s := by
  refine ⟨?_, ?_⟩
  · intro p hp
    exact ⟨SessionPool.config_of_reachable hp,
      (SessionPool.Sound.of_reachable hp).limits (.of_reachable hp)⟩
  · intro labels p c s requested hrun hcall
    have hnew : ¬ (SessionPool.new config).calls[c]?.any (Call.letIn s) = true := Bool.false_ne_true
    have hlast : p.calls[c]?.any (Call.letIn s) = true := by
      simp [hcall, Call.letIn]
    obtain ⟨before, l, after, q, q', hlabels, hq, hout, hstep, hin⟩ :=
      exists_step_of_run (P := fun q => q.calls[c]?.any (Call.letIn s) = true) hrun hnew hlast
    obtain ⟨call, hcall', hin⟩ := (Option.any_eq_true _ _).mp hin
    have hbefore (call : Call) (hcall : q.calls[c]? = some call) : call.letIn s = false := by
      simpa [hcall] using hout
    have hsound := SessionPool.Sound.of_reachable (Reachable.refl.of_run hq)
    obtain ⟨requested', x, hopened, rfl, hx, hlookup⟩ :=
      SessionPool.lookup_of_letIn hsound hstep hbefore hcall' hin
    exact ⟨before, l, after, q, q', requested', x, hlabels, hq, hstep, hopened, hcall', hx, hlookup⟩

/-- A session that can be started. -/
def sampleSession : SessionConfig :=
  { target := "i-a", reason := none, heartbeatInterval := 1, idleTimeout := 2,
    payloadChunkSize := 1024, outputBuffer := 8 }

/-- A pool for one session. -/
def singlePool : PoolConfig :=
  { maxSessions := 1, allowDuplicateTargets := false, sessionDefaults := sampleSession }

/-- A call of `start_with` up to its second check: the service answers with this id. -/
def opensAs (c : ℕ) (id : String) : List Label :=
  [.startAnswers c (.ok { sessionId := id, streamUrl := some "wss://", tokenValue := some "t" }),
    .openReturns c (.ok ())]

/-- Two calls pass the first check; one of them is too late for the second. -/
def racingStarts : List Label :=
  List.flatten
    [[.request (.startWith sampleSession), .request (.startWith sampleSession), .acquire 0, .unlock,
        .acquire 1, .unlock],
      opensAs 0 "s-1", opensAs 1 "s-2",
      [.acquire 1, .unlock, .count 1, .acquire 0, .reap "s-2", .unlock, .terminateRejected 0,
        .terminateRejected 0, .terminateRejected 0]]

/-- The late call has terminated its session and returned an error, and the map holds the other. -/
theorem pool_limits_racing :
    ∃ (p : SessionPool) (x : Session),
      Reachable SessionPool.step free (.new singlePool) p ∧ p.config = singlePool ∧ p.Limits ∧
      p.sessions.entries.length ≤ 1 ∧ p.sessions.lookup "s-2" = some 1 ∧
      p.heap[0]? = some x ∧ x.closed = true ∧ x.released = true ∧
      p.calls[0]? = some (.startWith sampleSession
        (.rejected 0 (.config "session pool is full (1 of 1 in use)") (.returned true))) ∧
      p.calls[1]? = some (.startWith sampleSession (.returned 1)) := by
  have hrun : (run SessionPool.step (.new singlePool) racingStarts).any (fun (p : SessionPool) =>
      decide (p.sessions.lookup "s-2" = some 1 ∧
        p.calls[0]? = some (.startWith sampleSession
          (.rejected 0 (.config "session pool is full (1 of 1 in use)") (.returned true))) ∧
        p.calls[1]? = some (.startWith sampleSession (.returned 1))) &&
      p.heap[0]?.any (fun (x : Session) => x.closed && x.released)) = true := by
    decide +kernel
  obtain ⟨p, hp, hfinal⟩ := exists_of_run hrun
  rw [Bool.and_eq_true] at hfinal
  obtain ⟨hlookup, hrejected, hreturned⟩ := of_decide_eq_true hfinal.1
  obtain ⟨x, hx, hdone⟩ := (Option.any_eq_true _ _).mp hfinal.2
  rw [Bool.and_eq_true] at hdone
  obtain ⟨hconfig, hlimits⟩ := (pool_limits singlePool).1 p hp
  have hbounded : p.sessions.entries.length ≤ 1 := by
    have hmax := hlimits.bounded
    rw [hconfig] at hmax
    exact hmax Nat.one_pos
  exact ⟨p, x, hp, hconfig, hlimits, hbounded, hlookup, hx, hdone.1, hdone.2, hrejected, hreturned⟩

end SsmBridge.Pool
