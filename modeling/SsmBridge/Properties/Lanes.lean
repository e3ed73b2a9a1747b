import SsmBridge.Construction.RouterMoves
import Mathlib.Data.List.Basic

/-!
# The lanes of the multiplexer

`Lane` is one stream on its own: its record, the frames that carry its id and how far the routing
of the last of them has got, and the state of the close.  Nothing of the other streams is in it, and
its step function knows only the steps that concern the stream.  `lane_step` says that this is what
the multiplexer does to a stream: as long as ids are not reused, a step that concerns the stream
moves its lane, and any other step leaves the lane alone.
-/

namespace SsmBridge.Smux

open Machine

/-! ## Ids -/

/-- The id of the stream with this index. -/
def idOf (i : ℕ) : UInt32 := UInt32.ofNat (2 * i + 1)

/-- How many ids there are. -/
def idCount : ℕ := 2 ^ 31

lemma toNat_idOf (i : ℕ) : (idOf i).toNat = (2 * i + 1) % 2 ^ 32 := UInt32.toNat_ofNat'

lemma odd_idOf (i : ℕ) : (idOf i).toNat % 2 = 1 := by
  rw [toNat_idOf]
  omega

/-- The same id is drawn again after a whole number of rounds, and only then. -/
lemma idOf_eq_iff {i j : ℕ} : idOf i = idOf j ↔ i % idCount = j % idCount := by
  rw [← UInt32.toNat_inj, toNat_idOf, toNat_idOf, idCount]
  omega

lemma idOf_inj {i j : ℕ} (hi : i < idCount) (hj : j < idCount) (h : idOf i = idOf j) : i = j := by
  rwa [idOf_eq_iff, Nat.mod_eq_of_lt hi, Nat.mod_eq_of_lt hj] at h

lemma idOf_succ (i : ℕ) : idOf i + 2 = idOf (i + 1) := by
  apply UInt32.toNat_inj.mp
  simp only [idOf, UInt32.toNat_add, UInt32.toNat_ofNat']
  simp
  omega

/-! ## One stream on its own -/

/-- What concerns one stream. -/
structure Lane where
  /-- How many ids have been drawn. -/
  count : ℕ
  stream : Option SmuxStream
  /-- The routing of a frame with its id. -/
  router : RouterPc
  /-- The frames with its id that were routed. -/
  routed : List Frame
  closed : Bool
  closing : ClosePc

/-- The read half of a stream. -/
def SmuxStream.readHalf (st : SmuxStream) : SmuxStream := { st with writeClosed := false }

section

variable (st : SmuxStream)

@[simp] lemma SmuxStream.phase_readHalf : st.readHalf.phase = st.phase := rfl
@[simp] lemma SmuxStream.listed_readHalf : st.readHalf.listed = st.listed := rfl
@[simp] lemma SmuxStream.queue_readHalf : st.readHalf.queue = st.queue := rfl
@[simp] lemma SmuxStream.tag_readHalf : st.readHalf.tag = st.tag := rfl
@[simp] lemma SmuxStream.remainder_readHalf : st.readHalf.remainder = st.remainder := rfl
@[simp] lemma SmuxStream.readClosed_readHalf : st.readHalf.readClosed = st.readClosed := rfl
@[simp] lemma SmuxStream.polling_readHalf : st.readHalf.polling = st.polling := rfl
@[simp] lemma SmuxStream.returned_readHalf : st.readHalf.returned = st.returned := rfl
@[simp] lemma SmuxStream.gone_readHalf : st.readHalf.gone = st.gone := rfl

end

namespace Lane

variable (i : ℕ) (v : Lane)

/-- Change the stream. -/
def update (f : SmuxStream → SmuxStream) : Lane := { v with stream := v.stream.map f }

/-- Change the stream if it is as required. -/
def move (p : SmuxStream → Bool) (f : SmuxStream → SmuxStream) : Option Lane :=
  if v.stream.any p then some (v.update f) else none

/-- The stream is in the map. -/
def listed : Bool := v.stream.any SmuxStream.listed

def moveRouter (router : RouterPc) : Lane := { v with router }

def record (frame : Frame) : Lane := { v with routed := v.routed ++ [frame] }

/-- The rest of `route_push` for a frame with the stream's id. -/
def routeStep : Option Lane :=
  match v.router, v.stream with
  | .sending j id payload, some st =>
      if st.gone then some (v.moveRouter (.removing j id false))
      else if streamQueueDepth ≤ st.queue.length then some (v.moveRouter (.evicting j id))
      else
        some ((v.update (fun st => { st with queue := st.queue ++ [payload] })).moveRouter .idle)
  | .evicting j id, _ =>
      some ((v.update (fun st => { st with tag := some .slowConsumer })).moveRouter
        (.removing j id true))
  | .removing j id evicted, _ =>
      some ((v.update (fun st => { st with listed := false })).moveRouter
        (if evicted then .replying (some j) id else .idle))
  | .replying _ _, _ => some (v.moveRouter .idle)
  | _, _ => none

/-- The call of `close` that raised the flag. -/
def closeStep : Option Lane :=
  match v.closing with
  | .notifying r => some { v with closing := .locking r }
  | .locking r => some { v with closing := .sweeping r }
  | .sweeping r =>
      if v.stream.all (fun st => !st.listed || st.tag.isSome) then
        some { v.update (fun st => { st with listed := false }) with closing := .completed r }
      else none
  | .idle | .completed _ => none

/-- It tags the stream. -/
def closeSweep : Option Lane :=
  match v.closing with
  | .sweeping r => v.move SmuxStream.listed (SmuxStream.close r)
  | _ => none

/-- `poll_read` of the stream. -/
def pollRead (size : ℕ) : Option Lane :=
  match v.stream with
  | some st =>
      if st.phase ≠ .held ∨ st.polling = true then none
      else if st.readClosed then some v
      else
        match st.remainder, st.queue with
        | some chunk, _ => some (v.update (fun st => st.serve size chunk))
        | none, chunk :: rest =>
            some (v.update (fun st => ({ st with queue := rest } : SmuxStream).serve size chunk))
        | none, [] =>
            if st.listed || decide (v.router.target = some i) then
              some (v.update (fun st => { st with polling := true }))
            else some (v.update (fun st => { st with readClosed := true }))
  | none => none

/-- What the steps that concern the stream do. -/
def step : Label → Option Lane
  | .openNumber =>
      some { v with count := v.count + 1
                    stream := if v.count = i then some (.new (idOf i)) else v.stream }
  | .openRegister _ =>
      v.move (fun st => st.phase == .numbered)
        (fun st => { st with phase := .registered, listed := true, since := v.routed.length })
  | .openReturn _ =>
      v.move (fun st => st.phase == .registered) (fun st => { st with phase := .held })
  | .openRefuse _ =>
      v.move (fun st => st.phase == .registered) (fun st => { st with phase := .refused })
  | .openWithdraw _ =>
      v.move (fun st => st.phase == .refused)
        (fun st => { st with phase := .failed, listed := false })
  | .routePush id payload =>
      if v.router = .idle then
        some ((v.record ⟨cmdPsh, id, payload⟩).moveRouter
          (if v.listed then .sending i id payload else .replying none id))
      else none
  | .routeFin id payload =>
      if v.router = .idle then
        some ((v.record ⟨cmdFin, id, payload⟩).update (fun st =>
          if st.listed then { st.close .clean with listed := false } else st))
      else none
  | .routeStep _ => v.routeStep
  | .close reason =>
      some (if v.closed then v else { v with closed := true, closing := .notifying reason })
  | .closeStep => v.closeStep
  | .closeSweep _ => v.closeSweep
  | .pollRead _ size => v.pollRead i size
  | .pollThrottled _ =>
      v.move (fun st => st.phase == .held && !st.polling && !st.readClosed && st.remainder == none)
        (fun st => { st with polling := true })
  | .pollClosed _ =>
      v.move SmuxStream.polling (fun st => { st with polling := false, readClosed := v.closed })
  | .dropStream _ =>
      v.move (fun st => st.phase == .held && !st.polling) (fun st => { st with phase := .dropping })
  | .dropRemove _ =>
      v.move (fun st => st.phase == .dropping)
        (fun st => { st with phase := .removed, listed := false })
  | .dropRelease _ =>
      v.move (fun st => st.phase == .removed) (fun st => { st with phase := .dropped })
  | .openAdmit | .pollWrite _ _ | .pollShutdown _ | .frameTaken | .framesDropped | .keepAlive
  | .dieEnabled => none

end Lane

/-- The lane of a stream. -/
def Inner.lane (σ : Inner) (i : ℕ) : Lane where
  count := σ.streams.length
  stream := (σ.streams[i]?).map SmuxStream.readHalf
  router := if σ.router.id? = some (idOf i) then σ.router else .idle
  routed := σ.routedTo (idOf i)
  closed := σ.closed
  closing := σ.closing

/-- The steps that concern a stream: its own, those that route a frame with its id, the drawing of
ids, and the close. -/
def Label.concerns (i : ℕ) : Label → Bool
  | .openNumber | .close _ | .closeStep => true
  | .openRegister j | .openReturn j | .openRefuse j | .openWithdraw j | .closeSweep j
  | .pollRead j _ | .pollThrottled j | .pollClosed j | .dropStream j | .dropRemove j
  | .dropRelease j => j == i
  | .routePush id _ | .routeStep id | .routeFin id _ => id == idOf i
  | .openAdmit | .pollWrite _ _ | .pollShutdown _ | .frameTaken | .framesDropped | .keepAlive
  | .dieEnabled => false

/-! ## The multiplexer moves lanes -/

/-- Ids are drawn in order. -/
structure Inner.Numbered (σ : Inner) : Prop where
  next : σ.nextId = idOf σ.streams.length
  stream : ∀ i st, σ.streams[i]? = some st → st.id = idOf i
  /-- A routing that found a stream found it under its id. -/
  target : ∀ i, σ.router.target = some i → i < σ.streams.length ∧ σ.router.id? = some (idOf i)

section

variable {σ σ' : Inner} {i j : ℕ} {st : SmuxStream} {f : SmuxStream → SmuxStream} {id : UInt32}

@[simp] lemma Inner.getElem?_modify :
    (σ.modify j f).streams[i]? = if j = i then (σ.streams[i]?).map f else σ.streams[i]? := by
  simp only [Inner.modify, List.getElem?_modify]
  split <;> simp

@[simp] lemma Inner.getElem?_unlist :
    (σ.unlist id).streams[i]? = (σ.streams[i]?).map
      (fun st => if st.id = id then { st with listed := false } else st) := by
  simp [Inner.unlist]

@[simp] lemma Inner.length_modify : (σ.modify j f).streams.length = σ.streams.length := by
  simp [Inner.modify]

@[simp] lemma Inner.length_unlist : (σ.unlist id).streams.length = σ.streams.length := by
  simp [Inner.unlist]

/-- A change to another stream is not seen. -/
lemma Inner.lane_modify_of_ne (h : j ≠ i) : (σ.modify j f).lane i = σ.lane i := by
  simp only [Inner.lane, Inner.getElem?_modify, Inner.length_modify, if_neg h]
  rfl

/-- A change to the stream is a change to its lane. -/
lemma Inner.lane_modify (hf : ∀ st, (f st).readHalf = f st.readHalf) :
    (σ.modify i f).lane i = (σ.lane i).update f := by
  simp only [Inner.lane, Inner.getElem?_modify, Inner.length_modify, if_true, Lane.update,
    Option.map_map]
  congr 1
  exact congrArg (fun g => Option.map g _) (funext hf)

lemma Inner.Numbered.map_unlist (hn : σ.Numbered) :
    (σ.unlist id).streams[i]? = if idOf i = id then
      (σ.streams[i]?).map (fun st => { st with listed := false }) else σ.streams[i]? := by
  rw [Inner.getElem?_unlist]
  cases hst : σ.streams[i]? with
  | none => simp
  | some st =>
    rw [← hn.stream i st hst]
    split <;> simp_all

/-- Taking the entry under another id out is not seen. -/
lemma Inner.Numbered.lane_unlist_of_ne (hn : σ.Numbered) (h : idOf i ≠ id) :
    (σ.unlist id).lane i = σ.lane i := by
  simp only [Inner.lane, hn.map_unlist, Inner.length_unlist, if_neg h]
  rfl

lemma Inner.Numbered.lane_unlist (hn : σ.Numbered) :
    (σ.unlist (idOf i)).lane i = (σ.lane i).update (fun st => { st with listed := false }) := by
  simp only [Inner.lane, hn.map_unlist, Inner.length_unlist, if_true, Lane.update, Option.map_map]
  rfl

lemma Inner.lane_record {frame : Frame} (h : frame.streamId = idOf i) :
    (σ.record frame).lane i = (σ.lane i).record frame := by
  have hrouted : (σ.record frame).routedTo (idOf i) = σ.routedTo (idOf i) ++ [frame] := by
    simp [Inner.routedTo, Inner.record, h]
  rw [Inner.lane, hrouted]
  rfl

/-- A frame with another id is not seen. -/
lemma Inner.lane_record_of_ne {frame : Frame} (h : frame.streamId ≠ idOf i) :
    (σ.record frame).lane i = σ.lane i := by
  have hrouted : (σ.record frame).routedTo (idOf i) = σ.routedTo (idOf i) := by
    simp [Inner.routedTo, Inner.record, h]
  rw [Inner.lane, hrouted]
  rfl

lemma Inner.lane_moveRouter {r : RouterPc} (h : r.id? = some (idOf i)) :
    (σ.moveRouter r).lane i = (σ.lane i).moveRouter r := by
  simp [Inner.lane, Inner.moveRouter, Lane.moveRouter, Inner.routedTo, h]

lemma Inner.lane_moveRouter_idle :
    (σ.moveRouter .idle).lane i = (σ.lane i).moveRouter .idle := rfl

/-- The outbound queue is not part of a lane. -/
@[simp] lemma Inner.lane_enqueue {frame : Frame} : (σ.enqueue frame).lane i = σ.lane i := rfl

@[simp] lemma Inner.lane_tryFrame {frame : Frame} : (σ.tryFrame frame).lane i = σ.lane i := by
  unfold Inner.tryFrame
  split <;> rfl

@[simp] lemma Inner.router_tryFrame {frame : Frame} : (σ.tryFrame frame).router = σ.router := by
  unfold Inner.tryFrame
  split <;> rfl

@[simp] lemma Lane.update_update {v : Lane} {g : SmuxStream → SmuxStream} :
    (v.update f).update g = v.update (fun st => g (f st)) := by
  simp only [Lane.update, Option.map_map]
  rfl

lemma Inner.lane_stream (hst : σ.streams[i]? = some st) :
    (σ.lane i).stream = some st.readHalf := by
  simp [Inner.lane, hst]

/-- A move of the stream that its lane makes too. -/
lemma Lane.move_eq {v : Lane} {p : SmuxStream → Bool} (hst : v.stream = some st)
    (hp : p st = true) : v.move p f = some (v.update f) := by
  simp [Lane.move, hst, hp]

/-! ### Opening a stream -/

variable {l : Label}

/-- What a step has to do to a lane. -/
def MovesLane (i : ℕ) (σ : Inner) (l : Label) (σ' : Inner) : Prop :=
  if l.concerns i then (σ.lane i).step i l = some (σ'.lane i) else σ'.lane i = σ.lane i

/-- A step of one stream: it changes the stream by `f`, and the lane's step does. -/
lemma movesLane_of (hl : l.concerns i = (j == i))
    (hself : j = i → (σ.lane i).step i l = some (σ'.lane i))
    (hother : j ≠ i → σ'.lane i = σ.lane i) : MovesLane i σ l σ' := by
  unfold MovesLane
  rw [hl]
  by_cases hj : j = i
  · simp [hj, hself hj]
  · simp [hj, hother hj]

lemma Inner.Numbered.id_ne (hn : σ.Numbered) (hlen : σ.streams.length ≤ idCount) (hi : i < idCount)
    (hst : σ.streams[j]? = some st) (hj : j ≠ i) : idOf i ≠ st.id := by
  rw [hn.stream j st hst]
  intro h
  obtain ⟨hlt, -⟩ := List.getElem?_eq_some_iff.mp hst
  exact hj (idOf_inj hi (by omega) h).symm

lemma lane_openNumber (hn : σ.Numbered) (h : openNumber σ = some σ') :
    MovesLane i σ .openNumber σ' := by
  unfold openNumber at h
  split at h <;> cases h
  have hcount : (σ.streams ++ [SmuxStream.new σ.nextId]).length = σ.streams.length + 1 := by simp
  have hstream : ((σ.streams ++ [SmuxStream.new σ.nextId])[i]?).map SmuxStream.readHalf =
      if σ.streams.length = i then some (.new (idOf i))
      else (σ.streams[i]?).map SmuxStream.readHalf := by
    rw [List.getElem?_append, hn.next]
    by_cases hlt : i < σ.streams.length
    · rw [if_pos hlt, if_neg (by omega)]
    · have hnone : σ.streams[i]? = none := List.getElem?_eq_none (by omega)
      rw [if_neg hlt, hnone]
      by_cases heq : σ.streams.length = i
      · simp [heq, SmuxStream.readHalf, SmuxStream.new]
      · have hsub : 1 ≤ i - σ.streams.length := by omega
        rw [if_neg heq, List.getElem?_eq_none (by simpa using hsub)]
  show some _ = some _
  unfold Inner.lane
  rw [hcount, hstream]
  rfl

lemma lane_openRegister (hn : σ.Numbered) (hlen : σ.streams.length ≤ idCount) (hi : i < idCount)
    (h : openRegister σ j = some σ') : MovesLane i σ (.openRegister j) σ' := by
  cases takes_of_step (l := .openRegister j) h with
  | @openRegister _ st hst hphase =>
    have hid := hn.stream j st hst
    refine movesLane_of rfl (fun hj => ?_) (fun hj => ?_)
    · subst hj
      rw [Lane.step, Lane.move_eq (Inner.lane_stream hst) (by simp [SmuxStream.readHalf, hphase])]
      simp only [Inner.lane, Inner.getElem?_modify, Inner.length_modify, hn.map_unlist,
        Inner.length_unlist, Lane.update, if_true, hst, hid]
      simp [SmuxStream.readHalf, hid]
      exact ⟨rfl, rfl, rfl, rfl⟩
    · rw [Inner.lane_modify_of_ne hj, hn.lane_unlist_of_ne (hn.id_ne hlen hi hst hj)]

/-- A step that changes one stream and nothing else of any lane. -/
lemma lane_modify {p : SmuxStream → Bool} {τ : Inner} (hl : l.concerns i = (j == i))
    (hst : σ.streams[j]? = some st) (hp : p st.readHalf = true)
    (hlane : τ.lane i = σ.lane i) (hstep : (σ.lane i).step i l = (σ.lane i).move p f)
    (hf : ∀ st, (f st).readHalf = f st.readHalf) : MovesLane i σ l (τ.modify j f) := by
  refine movesLane_of hl (fun hj => ?_) (fun hj => ?_)
  · subst hj
    rw [hstep, Lane.move_eq (Inner.lane_stream hst) hp, Inner.lane_modify hf, hlane]
  · rw [Inner.lane_modify_of_ne hj, hlane]

/-- The same with the entry of the stream taken out of the map. -/
lemma lane_unlist {p : SmuxStream → Bool} (hn : σ.Numbered) (hlen : σ.streams.length ≤ idCount)
    (hi : i < idCount) (hl : l.concerns i = (j == i)) (hst : σ.streams[j]? = some st)
    (hp : p st.readHalf = true)
    (hstep : (σ.lane i).step i l =
      (σ.lane i).move p (fun st => f { st with listed := false }))
    (hf : ∀ st, (f st).readHalf = f st.readHalf) :
    MovesLane i σ l ((σ.unlist st.id).modify j f) := by
  refine movesLane_of hl (fun hj => ?_) (fun hj => ?_)
  · subst hj
    rw [hstep, Lane.move_eq (Inner.lane_stream hst) hp, Inner.lane_modify hf, hn.stream j st hst,
      hn.lane_unlist, Lane.update_update]
  · rw [Inner.lane_modify_of_ne hj, hn.lane_unlist_of_ne (hn.id_ne hlen hi hst hj)]

lemma lane_openReturn (h : openReturn σ j = some σ') : MovesLane i σ (.openReturn j) σ' := by
  cases takes_of_step (l := .openReturn j) h with
  | openReturn hst hphase hroom =>
    exact lane_modify rfl hst (by simp [SmuxStream.readHalf, hphase]) rfl rfl (fun _ => rfl)

lemma lane_openRefuse (h : openRefuse σ j = some σ') : MovesLane i σ (.openRefuse j) σ' := by
  cases takes_of_step (l := .openRefuse j) h with
  | openRefuse hst hphase =>
    exact lane_modify rfl hst (by simp [SmuxStream.readHalf, hphase]) rfl rfl (fun _ => rfl)

lemma lane_openWithdraw (hn : σ.Numbered) (hlen : σ.streams.length ≤ idCount) (hi : i < idCount)
    (h : openWithdraw σ j = some σ') : MovesLane i σ (.openWithdraw j) σ' := by
  cases takes_of_step (l := .openWithdraw j) h with
  | openWithdraw hst hphase =>
    exact lane_unlist hn hlen hi rfl hst (by simp [SmuxStream.readHalf, hphase]) rfl (fun _ => rfl)

/-! ### Routing -/

/-- The map holds, under the id of a stream, that stream or nothing. -/
lemma Inner.Numbered.lookup_idOf (hn : σ.Numbered) (hlen : σ.streams.length ≤ idCount)
    (hi : i < idCount) : σ.lookup (idOf i) = if (σ.lane i).listed then some i else none := by
  have hunique : ∀ j st, σ.streams[j]? = some st → (st.listed && st.id == idOf i) = true →
      j = i ∧ (σ.lane i).listed = true := by
    intro j st hst hp
    simp only [Bool.and_eq_true, beq_iff_eq] at hp
    obtain ⟨hlt, -⟩ := List.getElem?_eq_some_iff.mp hst
    have hj : j = i := idOf_inj (by omega) hi ((hn.stream j st hst).symm.trans hp.2)
    subst hj
    exact ⟨rfl, by simp [Lane.listed, Inner.lane_stream hst, SmuxStream.readHalf, hp.1]⟩
  cases hlisted : (σ.lane i).listed with
  | true =>
    obtain ⟨st, hst, hl⟩ : ∃ st, σ.streams[i]? = some st ∧ st.listed = true := by
      rw [Lane.listed, Inner.lane, Option.any_map] at hlisted
      exact (Option.any_eq_true _ _).mp hlisted
    obtain ⟨hlt, hget⟩ := List.getElem?_eq_some_iff.mp hst
    rw [if_pos rfl, Inner.lookup, List.findIdx?_eq_some_iff_getElem]
    refine ⟨hlt, by rw [hget, hl, hn.stream i st hst]; simp, fun j hji hp => ?_⟩
    have := hunique j _ (List.getElem?_eq_getElem (by omega)) hp
    omega
  | false =>
    rw [if_neg (by simp), Inner.lookup, List.findIdx?_eq_none_iff]
    intro st hmem
    obtain ⟨j, hj⟩ := List.getElem?_of_mem hmem
    by_contra hp
    have := (hunique j st hj (Bool.eq_true_of_not_eq_false hp)).2
    rw [hlisted] at this
    cases this

/-- A lookup that succeeds finds a stream under its id. -/
lemma Inner.Numbered.of_lookup (hn : σ.Numbered) (h : σ.lookup id = some j) :
    j < σ.streams.length ∧ id = idOf j := by
  obtain ⟨hlt, hp, -⟩ := List.findIdx?_eq_some_iff_getElem.mp h
  simp only [Bool.and_eq_true, beq_iff_eq] at hp
  exact ⟨hlt, hp.2.symm.trans (hn.stream j _ (List.getElem?_eq_getElem hlt))⟩

/-- A step that routes a frame with some id. -/
lemma movesLane_of_id (hl : l.concerns i = (id == idOf i))
    (hself : id = idOf i → (σ.lane i).step i l = some (σ'.lane i))
    (hother : id ≠ idOf i → σ'.lane i = σ.lane i) : MovesLane i σ l σ' := by
  unfold MovesLane
  rw [hl]
  by_cases hid : id = idOf i
  · simp [hid, hself hid]
  · simp [hid, hother hid]

lemma Inner.Numbered.record (hn : σ.Numbered) (frame : Frame) : (σ.record frame).Numbered :=
  ⟨hn.next, hn.stream, hn.target⟩

/-- The routing of a frame with another id is not seen. -/
lemma Inner.lane_moveRouter_of_ne {r : RouterPc} (hold : σ.router.id? ≠ some (idOf i))
    (hnew : r.id? ≠ some (idOf i)) : (σ.moveRouter r).lane i = σ.lane i := by
  simp [Inner.lane, Inner.moveRouter, Inner.routedTo, hold, hnew]

lemma lane_routePush {payload : Bytes} (hn : σ.Numbered) (hlen : σ.streams.length ≤ idCount)
    (hi : i < idCount) (h : routePush σ id payload = some σ') :
    MovesLane i σ (.routePush id payload) σ' := by
  unfold routePush at h
  split at h
  · next hrouter hlock =>
    dsimp only at h
    have hn' := hn.record ⟨cmdPsh, id, payload⟩
    refine movesLane_of_id rfl (fun hid => ?_) (fun hid => ?_)
    · subst hid
      have hidle : (σ.lane i).router = .idle := by simp [Inner.lane, hrouter]
      rw [hn'.lookup_idOf hlen hi, Inner.lane_record rfl] at h
      rw [Lane.step, if_pos hidle]
      have hlisted : ((σ.lane i).record ⟨cmdPsh, idOf i, payload⟩).listed = (σ.lane i).listed := rfl
      rw [hlisted] at h
      cases hcase : (σ.lane i).listed with
      | true =>
        rw [hcase] at h
        cases h
        rw [if_pos rfl, Inner.lane_moveRouter rfl, Inner.lane_record rfl]
      | false =>
        rw [hcase] at h
        cases h
        rw [if_neg (by simp), Inner.lane_moveRouter rfl, Inner.lane_record rfl]
    · have hold : (σ.record ⟨cmdPsh, id, payload⟩).router.id? ≠ some (idOf i) := by
        simp [Inner.record, hrouter, RouterPc.id?]
      split at h <;> cases h
      · rw [Inner.lane_moveRouter_of_ne hold (by simpa [RouterPc.id?] using hid),
          Inner.lane_record_of_ne hid]
      · rw [Inner.lane_moveRouter_of_ne hold (by simpa [RouterPc.id?] using hid),
          Inner.lane_record_of_ne hid]
  · cases h

/-- Two changes that agree on the stream are the same change. -/
lemma Lane.update_congr {v : Lane} {g : SmuxStream → SmuxStream} (hst : v.stream = some st)
    (h : f st = g st) : v.update f = v.update g := by
  simp [Lane.update, hst, h]

/-- A change that leaves the stream as it is. -/
lemma Lane.update_eq {v : Lane} (h : ∀ st, v.stream = some st → f st = st) : v.update f = v := by
  cases hst : v.stream with
  | none =>
    obtain ⟨count, stream, router, routed, closed, closing⟩ := v
    simp only at hst
    subst hst
    rfl
  | some st =>
    obtain ⟨count, stream, router, routed, closed, closing⟩ := v
    simp only at hst
    subst hst
    simp [Lane.update, h st rfl]

lemma lane_routeFin {payload : Bytes} (hn : σ.Numbered) (hlen : σ.streams.length ≤ idCount)
    (hi : i < idCount) (h : routeFin σ id payload = some σ') :
    MovesLane i σ (.routeFin id payload) σ' := by
  unfold routeFin at h
  split at h
  · next hrouter hlock =>
    dsimp only at h
    have hn' := hn.record ⟨cmdFin, id, payload⟩
    refine movesLane_of_id rfl (fun hid => ?_) (fun hid => ?_)
    · subst hid
      have hidle : (σ.lane i).router = .idle := by simp [Inner.lane, hrouter]
      rw [hn'.lookup_idOf hlen hi, Inner.lane_record rfl] at h
      rw [Lane.step, if_pos hidle]
      have hlisted : ((σ.lane i).record ⟨cmdFin, idOf i, payload⟩).listed = (σ.lane i).listed := rfl
      rw [hlisted] at h
      cases hcase : (σ.lane i).listed with
      | true =>
        obtain ⟨st, hst, hl⟩ := (Option.any_eq_true _ _).mp hcase
        rw [hcase] at h
        cases h
        rw [Inner.lane_modify (f := SmuxStream.close .clean) (fun _ => rfl), hn'.lane_unlist,
          Inner.lane_record rfl, Lane.update_update]
        have hst' : ((σ.lane i).record ⟨cmdFin, idOf i, payload⟩).stream = some st := hst
        exact congrArg some (Lane.update_congr hst' (by simp [hl, SmuxStream.close]))
      | false =>
        rw [hcase] at h
        cases h
        rw [Inner.lane_record rfl, Lane.update_eq]
        intro st hst
        have hl : st.listed = false := by
          have hst' : (σ.lane i).stream = some st := hst
          simpa [Lane.listed, hst'] using hcase
        simp [hl]
    · split at h <;> cases h
      · next j hj =>
        have hj' : j ≠ i := by
          rintro rfl
          exact hid (hn'.of_lookup hj).2
        rw [Inner.lane_modify_of_ne hj', hn'.lane_unlist_of_ne (Ne.symm hid),
          Inner.lane_record_of_ne hid]
      · exact Inner.lane_record_of_ne hid
  · cases h

/-- Routing a frame of another stream leaves the lane alone. -/
lemma lane_routeStep_of_ne (hn : σ.Numbered) (hne : id ≠ idOf i) (h : routeStep σ id = some σ') :
    σ'.lane i = σ.lane i := by
  have hother : ∀ j, σ.router.target = some j → σ.router.id? = some id → j ≠ i := by
    rintro j hj hid rfl
    rw [(hn.target j hj).2] at hid
    exact hne (Option.some_inj.mp hid).symm
  have hmove : ∀ (τ : Inner) (r : RouterPc), τ.router.id? = some id → τ.lane i = σ.lane i →
      r.id? = some id ∨ r.id? = none → (τ.moveRouter r).lane i = σ.lane i := by
    intro τ r hrouter hlane hr
    rw [Inner.lane_moveRouter_of_ne, hlane]
    · rw [hrouter]
      simpa using hne
    · obtain hr | hr := hr <;> rw [hr]
      · simpa using hne
      · simp
  cases takes_routeStep h with
  | sendGone hpc | sendFull hpc => exact hmove σ _ (by rw [hpc]; rfl) rfl (.inl rfl)
  | sendQueued hpc =>
    have hid : σ.router.id? = some id := by rw [hpc]; rfl
    refine hmove _ _ hid ?_ (.inr rfl)
    exact Inner.lane_modify_of_ne (hother _ (by rw [hpc]; rfl) hid)
  | evict hpc =>
    have hid : σ.router.id? = some id := by rw [hpc]; rfl
    refine hmove _ _ hid ?_ (.inl rfl)
    exact Inner.lane_modify_of_ne (hother _ (by rw [hpc]; rfl) hid)
  | @remove _ _ evicted hpc =>
    refine hmove _ _ (by rw [Inner.unlist, hpc]; rfl) (hn.lane_unlist_of_ne (Ne.symm hne)) ?_
    cases evicted
    · exact .inr rfl
    · exact .inl rfl
  | reply hpc =>
    refine hmove _ _ ?_ Inner.lane_tryFrame (.inr rfl)
    rw [Inner.router_tryFrame, hpc]
    rfl

/-- Routing a frame of the lane's own stream. -/
lemma lane_routeStep_self (hn : σ.Numbered) (hlen : σ.streams.length ≤ idCount) (hi : i < idCount)
    (h : routeStep σ (idOf i) = some σ') :
    (σ.lane i).step i (.routeStep (idOf i)) = some (σ'.lane i) := by
  unfold routeStep at h
  split at h
  · next hid =>
    have hrouter : (σ.lane i).router = σ.router := by simp [Inner.lane, hid]
    have hself : ∀ j, σ.router.target = some j → j = i := by
      intro j hj
      obtain ⟨hlt, hj⟩ := hn.target j hj
      rw [hid] at hj
      exact (idOf_inj hi (by omega) (Option.some_inj.mp hj)).symm
    unfold Lane.step Lane.routeStep
    rw [hrouter]
    split at h
    · cases h
    · next j id' payload hpc =>
      have hj : j = i := hself j (by simp [hpc, RouterPc.target])
      have hid' : id' = idOf i := by simpa [hpc, RouterPc.id?] using hid
      subst hj hid'
      split at h
      · next st hst =>
        simp only [hpc, Inner.lane_stream hst]
        split at h
        · next hgone =>
          cases h
          rw [if_pos (show st.readHalf.gone = true from hgone), Inner.lane_moveRouter rfl]
        · next hgone =>
          rw [if_neg (show ¬ st.readHalf.gone = true from hgone)]
          split at h <;> cases h
          · next hfull =>
            rw [if_pos (show streamQueueDepth ≤ st.readHalf.queue.length from hfull),
              Inner.lane_moveRouter rfl]
          · next hfull =>
            rw [if_neg (show ¬ streamQueueDepth ≤ st.readHalf.queue.length from hfull),
              Inner.lane_moveRouter_idle, Inner.lane_modify]
            exact fun _ => rfl
      · cases h
    · next j id' hpc =>
      have hj : j = i := hself j (by simp [hpc, RouterPc.target])
      have hid' : id' = idOf i := by simpa [hpc, RouterPc.id?] using hid
      subst hj hid'
      cases h
      simp only [hpc]
      rw [Inner.lane_moveRouter rfl, Inner.lane_modify]
      exact fun _ => rfl
    · next j id' evicted hpc =>
      have hid' : id' = idOf i := by simpa [hpc, RouterPc.id?] using hid
      subst hid'
      split at h <;> cases h
      simp only [hpc]
      cases evicted with
      | true => rw [if_pos rfl, Inner.lane_moveRouter rfl, hn.lane_unlist]
      | false => rw [if_neg (by simp), Inner.lane_moveRouter_idle, hn.lane_unlist]
    · next found id' hpc =>
      cases h
      simp only [hpc]
      rw [Inner.lane_moveRouter_idle, Inner.lane_tryFrame]
  · cases h

lemma lane_routeStep (hn : σ.Numbered) (hlen : σ.streams.length ≤ idCount) (hi : i < idCount)
    (h : routeStep σ id = some σ') : MovesLane i σ (.routeStep id) σ' := by
  refine movesLane_of_id rfl (fun heq => ?_) (fun hne => lane_routeStep_of_ne hn hne h)
  subst heq
  exact lane_routeStep_self hn hlen hi h

/-! ### Closing, reading and dropping -/

lemma lane_close {reason : StreamCloseReason} :
    MovesLane i σ (.close reason) (close σ reason) := by
  show (σ.lane i).step i (.close reason) = some ((close σ reason).lane i)
  unfold close
  cases hclosed : σ.closed <;> simp [Lane.step, Inner.lane, hclosed, Inner.routedTo]

lemma lane_closeStep (h : closeStep σ = some σ') : MovesLane i σ .closeStep σ' := by
  show (σ.lane i).step i .closeStep = some (σ'.lane i)
  unfold closeStep at h
  have hclosing : (σ.lane i).closing = σ.closing := rfl
  unfold Lane.step Lane.closeStep
  rw [hclosing]
  cases hpc : σ.closing with
  | notifying r =>
    simp only [hpc] at h ⊢
    cases h
    rfl
  | locking r =>
    simp only [hpc] at h ⊢
    cases h
    rfl
  | sweeping r =>
    simp only [hpc] at h ⊢
    split at h <;> cases h
    next htagged =>
    have hall : (σ.lane i).stream.all (fun st => !st.listed || st.tag.isSome) = true := by
      cases hst : σ.streams[i]? with
      | none => simp [Inner.lane, hst]
      | some st =>
        rw [Inner.lane_stream hst]
        exact List.all_eq_true.mp htagged st (List.mem_of_getElem? hst)
    rw [if_pos hall]
    simp only [Inner.lane, Lane.update, List.getElem?_map, List.length_map, Option.map_map,
      Inner.routedTo]
    rfl
  | idle | completed =>
    simp only [hpc] at h
    cases h

lemma lane_closeSweep (h : closeSweep σ j = some σ') : MovesLane i σ (.closeSweep j) σ' := by
  cases takes_of_step (l := .closeSweep j) h with
  | @closeSweep _ r st hpc hst hl =>
    have hstep : (σ.lane i).step i (.closeSweep j) =
        (σ.lane i).move SmuxStream.listed (SmuxStream.close r) := by
      have hclosing : (σ.lane i).closing = .sweeping r := hpc
      simp [Lane.step, Lane.closeSweep, hclosing]
    exact lane_modify rfl hst hl rfl hstep (fun _ => rfl)

/-- A routing that holds a sending half of the stream's queue is one of its lane. -/
lemma Inner.Numbered.target_lane (hn : σ.Numbered) :
    (σ.lane i).router.target = some i ↔ σ.router.target = some i := by
  by_cases hid : σ.router.id? = some (idOf i)
  · simp [Inner.lane, hid]
  · have htarget : σ.router.target ≠ some i := fun h => hid (hn.target i h).2
    have hidle : (σ.lane i).router = .idle := by simp [Inner.lane, hid]
    rw [hidle]
    exact ⟨(nomatch ·), fun h => absurd h htarget⟩

lemma lane_pollRead_self {size : ℕ} (hn : σ.Numbered) (h : pollRead σ i size = some σ') :
    (σ.lane i).step i (.pollRead i size) = some (σ'.lane i) := by
  unfold pollRead at h
  split at h
  · next st hst =>
    have hstream := Inner.lane_stream hst
    simp only [Lane.step, Lane.pollRead, hstream, SmuxStream.phase_readHalf,
      SmuxStream.polling_readHalf, SmuxStream.readClosed_readHalf, SmuxStream.remainder_readHalf,
      SmuxStream.queue_readHalf, SmuxStream.listed_readHalf, hn.target_lane]
    split at h
    · cases h
    · next hheld =>
      rw [if_neg hheld]
      split at h
      · next hread =>
        cases h
        rw [if_pos hread]
      · next hread =>
        rw [if_neg hread]
        cases hrem : st.remainder with
        | some chunk =>
          simp only [hrem] at h ⊢
          cases h
          rw [Inner.lane_modify]
          exact fun _ => rfl
        | none =>
          cases hqueue : st.queue with
          | cons chunk rest =>
            simp only [hrem, hqueue] at h ⊢
            cases h
            rw [Inner.lane_modify]
            exact fun _ => rfl
          | nil =>
            simp only [hrem, hqueue] at h ⊢
            unfold Inner.senderAlive at h
            split at h <;> cases h
            · next halive =>
              rw [if_pos halive, Inner.lane_modify]
              exact fun _ => rfl
            · next halive =>
              rw [if_neg halive, Inner.lane_modify]
              exact fun _ => rfl
  · cases h

lemma lane_pollRead {size : ℕ} (hn : σ.Numbered) (h : pollRead σ j size = some σ') :
    MovesLane i σ (.pollRead j size) σ' := by
  refine movesLane_of rfl (fun hj => ?_) (fun hj => ?_)
  · subst hj
    exact lane_pollRead_self hn h
  · cases takes_pollRead h with
    | readClosed => rfl
    | readRemainder | readQueue | readPending | readEnd => exact Inner.lane_modify_of_ne hj

lemma lane_pollThrottled (h : pollThrottled σ j = some σ') :
    MovesLane i σ (.pollThrottled j) σ' := by
  unfold pollThrottled at h
  split at h
  · next st hst =>
    split at h <;> cases h
    next hst' =>
    simp only [not_or, not_not] at hst'
    obtain ⟨hphase, hpolling, hread, hrem⟩ := hst'
    exact lane_modify rfl hst (by simp_all) rfl rfl (fun _ => rfl)
  · cases h

lemma lane_pollClosed (h : pollClosed σ j = some σ') : MovesLane i σ (.pollClosed j) σ' := by
  cases takes_of_step (l := .pollClosed j) h with
  | pollClosed hst hpolling => exact lane_modify rfl hst hpolling rfl rfl (fun _ => rfl)

lemma lane_dropStream (h : dropStream σ j = some σ') : MovesLane i σ (.dropStream j) σ' := by
  unfold dropStream at h
  split at h
  · next st hst =>
    split at h <;> cases h
    next hst' =>
    simp only [not_or, not_not] at hst'
    refine lane_modify rfl hst (by simp_all) ?_ rfl (fun _ => rfl)
    split
    · rfl
    · exact Inner.lane_tryFrame
  · cases h

lemma lane_dropRemove (hn : σ.Numbered) (hlen : σ.streams.length ≤ idCount) (hi : i < idCount)
    (h : dropRemove σ j = some σ') : MovesLane i σ (.dropRemove j) σ' := by
  cases takes_of_step (l := .dropRemove j) h with
  | dropRemove hst hphase =>
    exact lane_unlist hn hlen hi rfl hst (by simp [hphase]) rfl (fun _ => rfl)

lemma lane_dropRelease (h : dropRelease σ j = some σ') : MovesLane i σ (.dropRelease j) σ' := by
  cases takes_of_step (l := .dropRelease j) h with
  | dropRelease hst hphase =>
    exact lane_modify rfl hst (by simp [hphase]) rfl rfl (fun _ => rfl)

/-- The write half is not part of a lane. -/
lemma Inner.lane_modify_writeClosed :
    (σ.modify j (fun st => { st with writeClosed := true })).lane i = σ.lane i := by
  by_cases hj : j = i
  · subst hj
    simp only [Inner.lane, Inner.getElem?_modify, Inner.length_modify, if_true, Option.map_map]
    rfl
  · exact Inner.lane_modify_of_ne hj

lemma lane_pollShutdown (h : pollShutdown σ j = some σ') : σ'.lane i = σ.lane i := by
  cases takes_pollShutdown h with
  | shutdownIdle => rfl
  | shutdownGone => exact Inner.lane_modify_writeClosed
  | shutdown => exact Inner.lane_modify_writeClosed.trans Inner.lane_enqueue

lemma lane_pollWrite {data : Bytes} (h : pollWrite σ j data = some σ') : σ'.lane i = σ.lane i := by
  cases takes_of_step (l := .pollWrite j data) h with
  | writeRefused => rfl
  | write => exact Inner.lane_enqueue

/-- **The multiplexer moves the lanes of its streams.** Whatever it does, the lane of one stream
either takes the step that belongs to it or does not move, so that streams can be looked at one by
one. -/
theorem lane_step (hn : σ.Numbered) (hlen : σ.streams.length ≤ idCount) (hi : i < idCount)
    (h : σ.step l = some σ') : MovesLane i σ l σ' := by
  cases l with
  | openNumber => exact lane_openNumber hn h
  | openRegister j => exact lane_openRegister hn hlen hi h
  | openReturn j => exact lane_openReturn h
  | openRefuse j => exact lane_openRefuse h
  | openWithdraw j => exact lane_openWithdraw hn hlen hi h
  | routePush id payload => exact lane_routePush hn hlen hi h
  | routeStep id => exact lane_routeStep hn hlen hi h
  | routeFin id payload => exact lane_routeFin hn hlen hi h
  | close reason =>
    cases h
    exact lane_close
  | closeStep => exact lane_closeStep h
  | closeSweep j => exact lane_closeSweep h
  | pollRead j size => exact lane_pollRead hn h
  | pollThrottled j => exact lane_pollThrottled h
  | pollClosed j => exact lane_pollClosed h
  | dropStream j => exact lane_dropStream h
  | dropRemove j => exact lane_dropRemove hn hlen hi h
  | dropRelease j => exact lane_dropRelease h
  | pollWrite j data => exact lane_pollWrite h
  | pollShutdown j => exact lane_pollShutdown h
  | openAdmit | frameTaken =>
    cases takes_of_step h
    rfl
  | framesDropped =>
    cases h
    rfl
  | keepAlive =>
    cases h
    exact Inner.lane_tryFrame
  | dieEnabled =>
    cases h
    rfl

/-! ### Ids stay in order -/

/-- What a step does to the streams and the routing: it may draw an id, change streams without
touching their ids, and move the routing on to a stream that it found or had found. -/
inductive Inner.Moved (σ : Inner) : Inner → Prop
  | kept {τ : Inner} (hstreams : τ.streams = σ.streams) (hnext : τ.nextId = σ.nextId)
      (hrouter : τ.router = σ.router) : Moved σ τ
  | numbered {τ : Inner} (hstreams : τ.streams = σ.streams ++ [.new σ.nextId])
      (hnext : τ.nextId = σ.nextId + 2) (hrouter : τ.router = σ.router) : Moved σ τ
  | cleared {τ : Inner}
      (hstreams : τ.streams = σ.streams.map (fun st => { st with listed := false }))
      (hnext : τ.nextId = σ.nextId) (hrouter : τ.router = σ.router) : Moved σ τ
  | modify {τ : Inner} (h : Moved σ τ) (j : ℕ) (f : SmuxStream → SmuxStream)
      (hf : ∀ st, (f st).id = st.id) : Moved σ (τ.modify j f)
  | unlist {τ : Inner} (h : Moved σ τ) (id : UInt32) : Moved σ (τ.unlist id)
  | routed {τ : Inner} (h : Moved σ τ) (r : RouterPc)
      (hr : ∀ i, r.target = some i → (σ.router.target = some i ∧ r.id? = σ.router.id?) ∨
        ∃ id, σ.lookup id = some i ∧ r.id? = some id) : Moved σ (τ.moveRouter r)

lemma Inner.Moved.refl (σ : Inner) : σ.Moved σ := .kept rfl rfl rfl

lemma Inner.Moved.record {frame : Frame} : σ.Moved (σ.record frame) := .kept rfl rfl rfl

lemma Inner.Moved.enqueue {frame : Frame} : σ.Moved (σ.enqueue frame) := .kept rfl rfl rfl

lemma Inner.Moved.tryFrame {frame : Frame} : σ.Moved (σ.tryFrame frame) := by
  unfold Inner.tryFrame
  split
  · exact .kept rfl rfl rfl
  · exact .refl σ

/-- The routing goes on with the stream it had found. -/
lemma Inner.Moved.rerouted {τ : Inner} (h : σ.Moved τ) {r : RouterPc}
    (hr : ∀ i, r.target = some i → σ.router.target = some i ∧ r.id? = σ.router.id?) :
    σ.Moved (τ.moveRouter r) :=
  .routed h r (fun i hi => .inl (hr i hi))

theorem moved_of_step (h : σ.step l = some σ') : σ.Moved σ' := by
  cases takes_of_step h with
  | openAdmit | write | frameTaken | framesDropped | dieEnabled | closeNotify | closeLock
  | finUnknown => exact .kept rfl rfl rfl
  | readClosed | writeRefused | shutdownIdle => exact .refl σ
  | keepAlive => exact .tryFrame
  | openNumber => exact .numbered rfl rfl rfl
  | openRegister | openWithdraw | dropRemove =>
    exact .modify (.unlist (.refl σ) _) _ _ (fun _ => rfl)
  | openReturn | shutdown | dropStream => exact .modify .enqueue _ _ (fun _ => rfl)
  | openRefuse | closeSweep | readRemainder | readQueue | readPending | readEnd | pollThrottled
  | pollClosed | shutdownGone | dropQuietly | dropRelease =>
    exact .modify (.refl σ) _ _ (fun _ => rfl)
  | close =>
    unfold close
    split <;> exact .kept rfl rfl rfl
  | closeClear => exact .cleared rfl rfl rfl
  | finFound => exact .modify (.unlist .record _) _ _ (fun _ => rfl)
  | @pushFound id payload i _ _ hfound =>
    refine .routed .record _ (fun j hj => ?_)
    cases hj
    exact .inr ⟨id, hfound, rfl⟩
  | pushUnknown => exact .routed .record _ (fun _ hi => nomatch hi)
  | sendGone hpc | sendFull hpc =>
    apply Inner.Moved.rerouted (.refl σ)
    intro i hi
    rw [hpc]
    exact ⟨hi, rfl⟩
  | sendQueued =>
    refine .rerouted (.modify (.refl σ) _ _ ?_) ?_
    · exact fun _ => rfl
    · exact fun _ hi => nomatch hi
  | evict hpc =>
    refine .rerouted (.modify (.refl σ) _ _ ?_) ?_
    · exact fun _ => rfl
    · intro i hi
      rw [hpc]
      exact ⟨hi, rfl⟩
  | @remove _ _ evicted hpc =>
    apply Inner.Moved.rerouted (.unlist (.refl σ) _)
    intro i hi
    rw [hpc]
    cases evicted with
    | false => cases hi
    | true => exact ⟨hi, rfl⟩
  | reply => exact .rerouted .tryFrame (fun _ hi => nomatch hi)

/-- Streams are never forgotten. -/
lemma Inner.Moved.length_le (h : σ.Moved σ') : σ.streams.length ≤ σ'.streams.length := by
  induction h with
  | kept hstreams hnext hrouter => rw [hstreams]
  | numbered hstreams hnext hrouter => simp [hstreams]
  | cleared hstreams hnext hrouter => simp [hstreams]
  | modify h j f hf ih => rwa [Inner.length_modify]
  | unlist h id ih => rwa [Inner.length_unlist]
  | routed h r hr ih => exact ih

/-- A step draws at most one id. -/
lemma Inner.Moved.le_length (h : σ.Moved σ') : σ'.streams.length ≤ σ.streams.length + 1 := by
  induction h with
  | kept hstreams hnext hrouter => simp [hstreams]
  | numbered hstreams hnext hrouter => simp [hstreams]
  | cleared hstreams hnext hrouter => simp [hstreams]
  | modify h j f hf ih => rwa [Inner.length_modify]
  | unlist h id ih => rwa [Inner.length_unlist]
  | routed h r hr ih => exact ih

namespace Inner.Numbered

lemma new : Inner.new.Numbered where
  next := rfl
  stream _ _ h := nomatch h
  target _ h := nomatch h

/-- A new stream has the next id. -/
lemma numbered (hn : σ.Numbered) (hstreams : σ'.streams = σ.streams ++ [.new σ.nextId])
    (hnext : σ'.nextId = σ.nextId + 2) (hrouter : σ'.router = σ.router) : σ'.Numbered := by
  refine ⟨?_, fun i st hst => ?_, fun i hi => ?_⟩
  · rw [hstreams, List.length_append, List.length_singleton, ← idOf_succ, ← hn.next, hnext]
  · rw [hstreams] at hst
    obtain ⟨rfl, rfl⟩ | ⟨-, hold⟩ := Machine.getElem?_of_concat hst
    · rw [← hn.next]
      rfl
    · exact hn.stream i st hold
  · rw [hrouter] at hi ⊢
    obtain ⟨hlt, hid⟩ := hn.target i hi
    exact ⟨by rw [hstreams, List.length_append]; omega, hid⟩

theorem moved (hn : σ.Numbered) (h : σ.Moved σ') : σ'.Numbered := by
  induction h with
  | kept hstreams hnext hrouter =>
    refine ⟨by rw [hstreams, hnext, hn.next], ?_, ?_⟩
    · rw [hstreams]
      exact hn.stream
    · rw [hstreams, hrouter]
      exact hn.target
  | numbered hstreams hnext hrouter => exact hn.numbered hstreams hnext hrouter
  | cleared hstreams hnext hrouter =>
    refine ⟨by rw [hstreams, hnext, hn.next, List.length_map], fun i st hst => ?_, ?_⟩
    · rw [hstreams, List.getElem?_map] at hst
      obtain ⟨st', hst', rfl⟩ := Option.map_eq_some_iff.mp hst
      exact hn.stream i st' hst'
    · rw [hstreams, hrouter, List.length_map]
      exact hn.target
  | modify h j f hf ih =>
    refine ⟨by rw [Inner.length_modify]; exact ih.next, fun i st hst => ?_, fun i hi => ?_⟩
    · rw [Inner.getElem?_modify] at hst
      split at hst
      · obtain ⟨st', hst', rfl⟩ := Option.map_eq_some_iff.mp hst
        rw [hf]
        exact ih.stream i st' hst'
      · exact ih.stream i st hst
    · rw [Inner.length_modify]
      exact ih.target i hi
  | unlist h id ih =>
    refine ⟨by rw [Inner.length_unlist]; exact ih.next, fun i st hst => ?_, fun i hi => ?_⟩
    · rw [Inner.getElem?_unlist] at hst
      obtain ⟨st', hst', rfl⟩ := Option.map_eq_some_iff.mp hst
      have hid := ih.stream i st' hst'
      split <;> exact hid
    · rw [Inner.length_unlist]
      exact ih.target i hi
  | routed h r hr ih =>
    refine ⟨ih.next, ih.stream, fun i hi => ?_⟩
    obtain ⟨htarget, hid⟩ | ⟨id, hlookup, hid⟩ := hr i hi
    · obtain ⟨hlt, hid'⟩ := hn.target i htarget
      exact ⟨hlt.trans_le h.length_le, hid.trans hid'⟩
    · obtain ⟨hlt, rfl⟩ := hn.of_lookup hlookup
      exact ⟨hlt.trans_le h.length_le, hid⟩

/-- Ids are in order throughout. -/
theorem of_reachable (h : Reachable Inner.step free .new σ) : σ.Numbered :=
  h.invariant new (fun _ _ _ hn hstep _ => hn.moved (moved_of_step hstep))

end Inner.Numbered

/-! ### What a step leaves alone -/

/-- The parts of the state that are not a stream's or the outbound queue's are as before. -/
structure Inner.SameShared (σ σ' : Inner) : Prop where
  die : σ'.die = σ.die
  closing : σ'.closing = σ.closing
  closed : σ'.closed = σ.closed
  router : σ'.router = σ.router
  routed : σ'.routed = σ.routed

/-- The steps that move neither the close nor the routing. -/
def Label.isLocal : Label → Bool
  | .close _ | .closeStep | .routePush _ _ | .routeStep _ | .routeFin _ _ | .dieEnabled => false
  | _ => true

lemma Inner.SameShared.tryFrame {frame : Frame} : σ.SameShared (σ.tryFrame frame) := by
  unfold Inner.tryFrame
  split <;> exact ⟨rfl, rfl, rfl, rfl, rfl⟩

theorem sameShared_of_step (hl : l.isLocal = true) (h : σ.step l = some σ') : σ.SameShared σ' := by
  cases takes_of_step h with
  | pushFound | pushUnknown | sendGone | sendFull | sendQueued | evict | remove | reply | finFound
  | finUnknown | close | closeNotify | closeLock | closeClear | dieEnabled => cases hl
  | keepAlive => exact .tryFrame
  | openAdmit | openNumber | openRegister | openReturn | openRefuse | openWithdraw | closeSweep
  | readClosed | readRemainder | readQueue | readPending | readEnd | pollThrottled | pollClosed
  | writeRefused | write | shutdownIdle | shutdownGone | shutdown | dropQuietly | dropStream
  | dropRemove | dropRelease | frameTaken | framesDropped => exact ⟨rfl, rfl, rfl, rfl, rfl⟩

end

end SsmBridge.Smux
