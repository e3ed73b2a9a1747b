import SsmBridge.Construction.Pool

/-!
# What a step of the pool does

`SessionPool.Moves` lists what a step can do to the map, the sessions and the calls, whichever label
it has; an invariant of the pool is proved by going through the list.
-/

namespace SsmBridge.Pool

/-! ## The map -/

section

variable {m : AList (fun _ : String => ℕ)} {id id' : String} {s : ℕ}

lemma lookup_of_lookup_erase (h : (m.erase id).lookup id' = some s) : m.lookup id' = some s := by
  by_cases hid : id' = id
  · subst hid
    rw [AList.lookup_erase] at h
    cases h
  · rwa [AList.lookup_erase_ne hid] at h

lemma length_entries (m : AList (fun _ : String => ℕ)) : m.entries.length = m.keys.length := by
  simp [AList.keys, List.keys]

lemma length_erase_le (m : AList (fun _ : String => ℕ)) (id : String) :
    (m.erase id).entries.length ≤ m.entries.length := by
  rw [length_entries, length_entries, AList.keys_erase]
  exact List.length_erase_le

lemma length_insert_le (m : AList (fun _ : String => ℕ)) (id : String) (s : ℕ) :
    (m.insert id s).entries.length ≤ m.entries.length + 1 := by
  rw [length_entries, length_entries, AList.keys_insert, List.length_cons]
  exact Nat.succ_le_succ List.length_erase_le

/-- What `take` leaves was there. -/
lemma lookup_of_lookup_take {ids : List String}
    (h : (SessionPool.take ids m).2.lookup id = some s) : m.lookup id = some s := by
  induction ids generalizing m with
  | nil => exact h
  | cons id' ids ih => exact lookup_of_lookup_erase (ih h)

lemma length_take_le (ids : List String) (m : AList (fun _ : String => ℕ)) :
    (SessionPool.take ids m).2.entries.length ≤ m.entries.length := by
  induction ids generalizing m with
  | nil => exact Nat.le_refl _
  | cons id ids ih => exact (ih (m.erase id)).trans (length_erase_le m id)

/-- An entry stays or is taken. -/
lemma lookup_take_or_mem (ids : List String) (h : m.lookup id = some s) :
    (SessionPool.take ids m).2.lookup id = some s ∨ s ∈ (SessionPool.take ids m).1 := by
  induction ids generalizing m with
  | nil => exact .inl h
  | cons id' ids ih =>
    by_cases hid : id = id'
    · subst hid
      exact .inr (List.mem_append_left _ (Option.mem_toList.mpr h))
    · obtain hstays | htaken := ih ((AList.lookup_erase_ne hid).trans h)
      · exact .inl hstays
      · exact .inr (List.mem_append_right _ htaken)

/-- What `take` takes was there. -/
lemma exists_lookup_of_mem_take {ids : List String} (h : s ∈ (SessionPool.take ids m).1) :
    ∃ id, m.lookup id = some s := by
  induction ids generalizing m with
  | nil => cases h
  | cons id ids ih =>
    obtain hs | hs := List.mem_append.mp h
    · exact ⟨id, Option.mem_toList.mp hs⟩
    · obtain ⟨id', hid'⟩ := ih hs
      exact ⟨id', lookup_of_lookup_erase hid'⟩

end

/-! ## What a step does -/

/-- The session that a call of `start_with` opened. -/
def StartPc.session : StartPc → Option ℕ
  | .opened s | .rejected s _ _ | .admitted s | .returned s => some s
  | _ => none

/-- The same for any call. -/
def Call.session : Call → Option ℕ
  | .startWith _ pc => pc.session
  | _ => none

/-- The session that a call of `start_with` opens. -/
def Session.opened (id : String) (config : SessionConfig) (c : ℕ) : Session :=
  { id, config, closed := false, ssm := true, released := false, opener := some c }

namespace SessionPool

lemma session_check (p : SessionPool) (config : SessionConfig) :
    (p.check config).session = none := by
  unfold check
  split
  · rfl
  · split <;> rfl

variable {p p' : SessionPool} {target : String}

lemma mem_values {s : ℕ} : s ∈ p.values ↔ ∃ id, p.sessions.lookup id = some s := by
  constructor
  · intro hs
    obtain ⟨⟨id, s'⟩, hmem, rfl⟩ := List.mem_map.mp hs
    exact ⟨id, AList.mem_lookup_iff.mpr hmem⟩
  · rintro ⟨id, hid⟩
    exact List.mem_map.mpr ⟨⟨id, s⟩, AList.mem_lookup_iff.mp hid, rfl⟩

/-- **`admit`** lets a session in when there is room and, if that matters, no entry has its
target. -/
lemma of_admission (h : p.admission target = .ok ()) :
    (0 < p.config.maxSessions → p.sessions.entries.length < p.config.maxSessions) ∧
      (p.config.allowDuplicateTargets = false → ∀ s ∈ p.values, p.hasTarget target s = false) := by
  unfold admission at h
  simp only at h
  split at h
  · cases h
  · next hroom =>
    split at h
    · cases h
    · next hdup =>
      refine ⟨?_, ?_⟩
      · intro hmax
        by_contra hfull
        exact hroom ⟨hmax, Nat.le_of_not_lt hfull⟩
      · intro hallow s hs
        by_contra htarget
        refine hdup ?_
        rw [hallow, Bool.not_false, Bool.true_and]
        exact List.any_eq_true.mpr ⟨s, hs, Bool.of_not_eq_false htarget⟩

/-- What a call takes out of the map was there. -/
lemma exists_lookup_of_mem_doomed {r : Removal} {s : ℕ} (h : s ∈ (p.doomed r).1) :
    ∃ id, p.sessions.lookup id = some s := by
  cases r with
  | terminate id => exact exists_lookup_of_mem_take h
  | terminateTarget target => exact exists_lookup_of_mem_take h
  | shutdown => exact mem_values.mp h

/-- An entry stays or its session is taken. -/
lemma lookup_doomed_or_mem {id : String} {s : ℕ} (r : Removal)
    (h : p.sessions.lookup id = some s) :
    (p.doomed r).2.lookup id = some s ∨ s ∈ (p.doomed r).1 := by
  cases r with
  | terminate id => exact lookup_take_or_mem _ h
  | terminateTarget target => exact lookup_take_or_mem _ h
  | shutdown => exact .inr (mem_values.mpr ⟨id, h⟩)

/-- What it leaves was there. -/
lemma lookup_of_lookup_doomed {r : Removal} {id : String} {s : ℕ}
    (h : (p.doomed r).2.lookup id = some s) : p.sessions.lookup id = some s := by
  cases r with
  | terminate id => exact lookup_of_lookup_take h
  | terminateTarget target => exact lookup_of_lookup_take h
  | shutdown => cases h

lemma length_doomed_le (p : SessionPool) (r : Removal) :
    (p.doomed r).2.entries.length ≤ p.sessions.entries.length := by
  cases r with
  | terminate id => exact length_take_le _ _
  | terminateTarget target => exact length_take_le _ _
  | shutdown => exact Nat.zero_le _

lemma put_eq {s : ℕ} {x : Session} (hx : p.heap[s]? = some x) :
    p.put s = p.sessions.insert x.id s := by
  rw [put, hx]

/-- An entry after an insertion is the new one, or one that was there. -/
lemma lookup_insert_cases {id id' : String} {s s' : ℕ}
    (h : (p.sessions.insert id s).lookup id' = some s') :
    (id' = id ∧ s' = s) ∨ p.sessions.lookup id' = some s' := by
  by_cases hid : id' = id
  · subst hid
    rw [AList.lookup_insert] at h
    exact .inl ⟨rfl, (Option.some_inj.mp h).symm⟩
  · rw [AList.lookup_insert_ne hid] at h
    exact .inr h

end SessionPool

/-- A call moves on, and neither the map nor a session changes. -/
inductive Call.Moves : Call → Call → Prop
  | idle {config : SessionConfig} {pc pc' : StartPc} (h : pc.session = none)
      (h' : pc'.session = none) : Moves (.startWith config pc) (.startWith config pc')
  | rejected {config : SessionConfig} {s : ℕ} {e : Error} :
      Moves (.startWith config (.opened s)) (.startWith config (.rejected s e .called))
  | counted {config : SessionConfig} {s : ℕ} :
      Moves (.startWith config (.admitted s)) (.startWith config (.returned s))
  | insert {s : ℕ} {pc pc' : InsertPc} : Moves (.insert s pc) (.insert s pc')
  | query {q : Query} {reply reply' : Option Reply} : Moves (.query q reply) (.query q reply')
  | returned {r : Removal} {doomed : List (ℕ × Termination)}
      (h : ∀ d ∈ doomed, d.2.hasReturned = true) :
      Moves (.removal r (.terminating doomed)) (.removal r .returned)

/-- A call has `Session::terminate` go on for one of its sessions. -/
inductive Call.Terminates (s : ℕ) (t t' : Termination) : Call → Call → Prop
  | rejected {config : SessionConfig} {e : Error} :
      Terminates s t t' (.startWith config (.rejected s e t)) (.startWith config (.rejected s e t'))
  | doomed {r : Removal} {doomed : List (ℕ × Termination)} {k : ℕ} (hk : doomed[k]? = some (s, t)) :
      Terminates s t t' (.removal r (.terminating doomed))
        (.removal r (.terminating (doomed.set k (s, t'))))

namespace SessionPool

variable {p p' : SessionPool}

/-- What a step does. -/
inductive Moves (p : SessionPool) : Label → SessionPool → Prop
  | request (r : Request) : Moves p (.request r) { p with calls := p.calls ++ [r.call p.config] }
  | lock {l : Label} (lock : Option Holder) : Moves p l { p with lock }
  | reaped {l : Label} {id : String} {s : ℕ} (lock : Option Holder)
      (hs : p.sessions.lookup id = some s) (hclosed : p.isClosed s = true) :
      Moves p l { p with sessions := p.sessions.erase id, lock }
  | call {l : Label} {c : ℕ} {call call' : Call} (lock : Option Holder) (started : ℕ)
      (hcall : p.calls[c]? = some call) (hmoves : call.Moves call') :
      Moves p l { p with calls := p.calls.set c call', lock, started }
  | opened {c : ℕ} {config : SessionConfig} {id : String}
      (hcall : p.calls[c]? = some (.startWith config (.opening id))) :
      Moves p (.openReturns c (.ok ())) { p with
        heap := p.heap ++ [.opened id config c]
        calls := p.calls.set c (.startWith config (.opened p.heap.length)) }
  | admitted {holder : Holder} {config : SessionConfig} {s : ℕ} (hlock : p.lock = some holder)
      (hcall : p.calls[holder.call]? = some (.startWith config (.opened s)))
      (hadmission : p.admission config.target = .ok ()) :
      Moves p .unlock { p with
        sessions := p.put s
        calls := p.calls.set holder.call (.startWith config (.admitted s))
        lock := none }
  | inserted {holder : Holder} {s : ℕ} {x : Session} (hlock : p.lock = some holder)
      (hcall : p.calls[holder.call]? = some (.insert s .waiting)) (hx : p.heap[s]? = some x)
      (hadmission : p.admission x.config.target = .ok ()) :
      Moves p .unlock { p with
        sessions := p.put s
        calls := p.calls.set holder.call (.insert s .admitted)
        lock := none }
  | removed {l : Label} {c : ℕ} {r : Removal}
      (hcall : p.calls[c]? = some (.removal r .waiting)) :
      Moves p l { p with
        sessions := (p.doomed r).2
        calls := p.calls.set c
          (.removal r (.terminating ((p.doomed r).1.map (fun s => (s, .called))))) }
  | terminated {l : Label} {c s : ℕ} {t t' : Termination} {x x' : Session} {call call' : Call}
      (hcall : p.calls[c]? = some call) (hx : p.heap[s]? = some x)
      (hstep : t.step x = some (t', x')) (hterm : call.Terminates s t t' call') :
      Moves p l { p with heap := p.heap.set s x', calls := p.calls.set c call' }
  | ended {s : ℕ} {x : Session} (hx : p.heap[s]? = some x) :
      Moves p (.sessionEnds s) { p with heap := p.heap.set s { x with closed := true } }
  | external (id : String) (config : SessionConfig) (ssm : Bool) :
      Moves p (.external id config ssm) (p.external id config ssm)

/-- The rest of a critical section. -/
lemma moves_of_unlock (h : p.unlock = some p') : p.Moves .unlock p' := by
  unfold unlock at h
  split at h
  · next holder hlock =>
    split at h
    · next call _ hcall =>
      unfold act at h
      split at h
      · cases h
        exact .call none p.started hcall (.idle rfl (session_check _ _))
      · split at h
        · next hadmission =>
          cases h
          exact .admitted hlock hcall hadmission
        · cases h
          exact .call none p.started hcall .rejected
      · split at h
        · next x hx =>
          split at h
          · next hadmission =>
            cases h
            exact .inserted hlock hcall hx hadmission
          · cases h
            exact .call none p.started hcall .insert
        · cases h
      · cases h
        exact .call none p.started hcall .query
      · cases h
    · cases h
  · cases h

lemma moves_of_reap {id : String} (h : p.reap id = some p') : p.Moves (.reap id) p' := by
  unfold reap at h
  split at h
  · next holder hlock =>
    split at h
    · simp only [Option.some_inj] at h
      subst h
      cases hclosed : (p.sessions.lookup id).any p.isClosed with
      | false => exact .lock _
      | true =>
        obtain ⟨s, hs, hclosed⟩ := (Option.any_eq_true _ _).mp hclosed
        exact .reaped _ hs hclosed
    · cases h
  · cases h

lemma moves_of_startAnswers {c : ℕ} {answer : Except SdkError StartResponse}
    (h : p.startAnswers c answer = some p') : p.Moves (.startAnswers c answer) p' := by
  unfold startAnswers at h
  split at h
  · next config hcall =>
    cases h
    refine .call p.lock p.started hcall (.idle rfl ?_)
    split
    · rfl
    · split <;> rfl
  · cases h

lemma moves_of_openReturns {c : ℕ} {result : Except Error Unit}
    (h : p.openReturns c result = some p') : p.Moves (.openReturns c result) p' := by
  unfold openReturns at h
  split at h
  · next hcall =>
    split at h
    · cases h
      exact .call p.lock p.started hcall (.idle rfl rfl)
    · cases h
      exact .opened hcall
  · cases h

lemma moves_of_terminateRejected {c : ℕ} (h : p.terminateRejected c = some p') :
    p.Moves (.terminateRejected c) p' := by
  unfold terminateRejected at h
  split at h
  · next hcall =>
    split at h
    · next hx =>
      obtain ⟨⟨t', x'⟩, hstep, rfl⟩ := Option.map_eq_some_iff.mp h
      exact .terminated hcall hx hstep .rejected
    · cases h
  · cases h

lemma moves_of_terminateDoomed {c k : ℕ} (h : p.terminateDoomed c k = some p') :
    p.Moves (.terminateDoomed c k) p' := by
  unfold terminateDoomed at h
  split at h
  · next hcall =>
    split at h
    · next hk =>
      split at h
      · next hx =>
        obtain ⟨⟨t', x'⟩, hstep, rfl⟩ := Option.map_eq_some_iff.mp h
        exact .terminated hcall hx hstep (.doomed hk)
      · cases h
    · cases h
  · cases h

/-- **Every step is one of the moves.** Only the holder of the lock changes the map, and what it
found there when it took the lock is still so. -/
theorem moves_of_step {l : Label} (h : p.step l = some p') : p.Moves l p' := by
  cases l with
  | request r =>
    cases h
    exact .request r
  | acquire c =>
    simp only [step, acquire] at h
    split at h
    · split at h
      · cases h
        exact .lock _
      · cases h
    · cases h
  | reap id => exact moves_of_reap h
  | unlock => exact moves_of_unlock h
  | remove c =>
    simp only [step, remove] at h
    split at h
    · next hcall =>
      cases h
      exact .removed hcall
    · cases h
  | startAnswers c answer => exact moves_of_startAnswers h
  | openReturns c result => exact moves_of_openReturns h
  | releaseReturns c =>
    simp only [step, releaseReturns] at h
    split at h
    · next hcall =>
      cases h
      exact .call p.lock p.started hcall (.idle rfl rfl)
    · cases h
  | count c =>
    simp only [step, count] at h
    split at h
    · next hcall =>
      cases h
      exact .call p.lock (p.started + 1) hcall .counted
    · next hcall =>
      cases h
      exact .call p.lock (p.started + 1) hcall .insert
    · cases h
  | terminateRejected c => exact moves_of_terminateRejected h
  | terminateDoomed c k => exact moves_of_terminateDoomed h
  | removalReturns c =>
    simp only [step, removalReturns] at h
    split at h
    · next hcall =>
      split at h
      · next hall =>
        cases h
        exact .call p.lock p.started hcall (.returned (List.all_eq_true.mp hall))
      · cases h
    · cases h
  | sessionEnds s =>
    obtain ⟨x, hx, rfl⟩ := Option.map_eq_some_iff.mp h
    exact .ended hx
  | external id config ssm =>
    cases h
    exact .external id config ssm

end SessionPool

end SsmBridge.Pool
