import Mathlib.Algebra.Ring.Nat
import Mathlib.Data.List.Range
import Mathlib.Data.List.Nodup
import Mathlib.Logic.Function.Basic

/-!
# A numbered stream behind one lock

Several parties number items from one counter.  A party takes the lock, builds its item for the
number the counter shows, issues it, hands it on and lets the lock go; it may also let go at any
point in between.  Issued items stay pending until they are retired by number.  `Step` is that
protocol, for any parties `P` and items `W`; `carries n w` says that the item `w` was built for the
number `n`.

`Inv` is what the lock buys.  The issued numbers are those of the counter, in order
(`Inv.numbers`), each item carries its number, what was handed on is a subsequence of what was
issued although the two happen at different moments (`Inv.handed_sublist`), and the pending items
are the issued ones that were not retired since (`Inv.pending_eq`).

The counter is a 64-bit register.  As long as fewer than `2 ^ 63` numbers were issued its values
are the numbers `0, 1, 2, …`, so that the lists above increase strictly.
-/

namespace NumberedStream

variable {P W : Type}

/-- What a party is doing with the lock. -/
inductive Phase (W : Type)
  /-- Not holding it. -/
  | away
  /-- Holding it, with an item built and not yet issued. -/
  | building (w : W)
  /-- Holding it, with the item issued and not yet handed on. -/
  | handing (n : Int64) (w : W)

/-- What happened to the stream. -/
inductive Entry (W : Type)
  | issued (n : Int64) (w : W)
  | handed (n : Int64) (w : W)
  | retired (n : Int64)

structure State (P W : Type) where
  next : Int64
  holder : Option P
  phase : P → Phase W
  pending : List (Int64 × W)
  log : List (Entry W)

/-- The issued items, in the order of issue. -/
def issued (log : List (Entry W)) : List (Int64 × W) :=
  log.filterMap (fun e => match e with
    | .issued n w => some (n, w)
    | _ => none)

/-- The items handed on, in the order of handing. -/
def handed (log : List (Entry W)) : List (Int64 × W) :=
  log.filterMap (fun e => match e with
    | .handed n w => some (n, w)
    | _ => none)

/-- What one entry does to the items that are outstanding. -/
def settle (items : List (Int64 × W)) : Entry W → List (Int64 × W)
  | .issued n w => items ++ [(n, w)]
  | .handed _ _ => items
  | .retired n => items.filter (fun x => x.1 != n)

/-- The items issued and not retired since. -/
def outstanding (log : List (Entry W)) : List (Int64 × W) := log.foldl settle []

@[simp] lemma issued_append (log log' : List (Entry W)) :
    issued (log ++ log') = issued log ++ issued log' := List.filterMap_append

@[simp] lemma handed_append (log log' : List (Entry W)) :
    handed (log ++ log') = handed log ++ handed log' := List.filterMap_append

@[simp] lemma outstanding_concat (log : List (Entry W)) (e : Entry W) :
    outstanding (log ++ [e]) = settle (outstanding log) e := by
  simp [outstanding]

@[simp] lemma issued_issued (n : Int64) (w : W) : issued [.issued n w] = [(n, w)] := rfl
@[simp] lemma issued_handed (n : Int64) (w : W) : issued [Entry.handed n w] = [] := rfl
@[simp] lemma issued_retired (n : Int64) : issued [(Entry.retired n : Entry W)] = [] := rfl
@[simp] lemma handed_issued (n : Int64) (w : W) : handed [Entry.issued n w] = [] := rfl
@[simp] lemma handed_handed (n : Int64) (w : W) : handed [.handed n w] = [(n, w)] := rfl
@[simp] lemma handed_retired (n : Int64) : handed [(Entry.retired n : Entry W)] = [] := rfl

/-- Nothing issued, nobody at the counter. -/
def State.initial : State P W where
  next := 0
  holder := none
  phase _ := .away
  pending := []
  log := []

section

variable [DecidableEq P] (carries : Int64 → W → Prop) (capacity : ℕ)

/-- The protocol. -/
inductive Step : State P W → State P W → Prop
  | lock {s : State P W} (p : P) (w : W) (hfree : s.holder = none) (hw : carries s.next w) :
      Step s { s with holder := some p, phase := Function.update s.phase p (.building w) }
  | issue {s : State P W} (p : P) (w : W) (hp : s.phase p = .building w)
      (hroom : s.pending.length < capacity) :
      Step s { s with
        next := s.next + 1
        phase := Function.update s.phase p (.handing s.next w)
        pending := s.pending ++ [(s.next, w)]
        log := s.log ++ [.issued s.next w] }
  | hand {s : State P W} (p : P) (n : Int64) (w : W) (hp : s.phase p = .handing n w) :
      Step s { s with
        holder := none
        phase := Function.update s.phase p .away
        log := s.log ++ [.handed n w] }
  | letGo {s : State P W} (p : P) (hp : s.phase p ≠ .away) :
      Step s { s with holder := none, phase := Function.update s.phase p .away }
  | retire {s : State P W} (n : Int64) :
      Step s { s with
        pending := s.pending.eraseP (fun x => x.1 == n)
        log := s.log ++ [.retired n] }

/-- The invariant of the protocol. -/
structure Inv (s : State P W) : Prop where
  holder_iff : ∀ p, s.holder = some p ↔ s.phase p ≠ .away
  carries_next : ∀ p w, s.phase p = .building w → carries s.next w
  /-- The item of a party that is handing on is the last one issued. -/
  handing_last : ∀ p n w, s.phase p = .handing n w →
    ∃ before, issued s.log = before ++ [(n, w)] ∧ (handed s.log).Sublist before
  handed_sublist : (handed s.log).Sublist (issued s.log)
  next_eq : s.next = Int64.ofNat (issued s.log).length
  numbers : (issued s.log).map Prod.fst = (List.range (issued s.log).length).map Int64.ofNat
  carried : ∀ x ∈ issued s.log, carries x.1 x.2
  pending_sublist : s.pending.Sublist (issued s.log)
  length_pending : s.pending.length ≤ capacity
  pending_eq : (issued s.log).length ≤ 2 ^ 63 → s.pending = outstanding s.log

end

/-! ## Numbers below the wrap -/

lemma range_ofNat_pairwise {k : ℕ} (hk : k ≤ 2 ^ 63) :
    ((List.range k).map Int64.ofNat).Pairwise (· < ·) := by
  rw [List.pairwise_map]
  refine List.pairwise_lt_range.imp_of_mem ?_
  intro a b ha hb hab
  have ha' := List.mem_range.mp ha
  have hb' := List.mem_range.mp hb
  exact (Int64.ofNat_lt_iff_lt (by omega) (by omega)).mpr hab

lemma mem_range_ofNat {k : ℕ} (hk : k < 2 ^ 63) (n : Int64) :
    n ∈ (List.range k).map Int64.ofNat ↔ 0 ≤ n ∧ n < Int64.ofNat k := by
  have hzero : (0 : Int64).toInt = 0 := by decide
  rw [Int64.le_iff_toInt_le, Int64.lt_iff_toInt_lt, Int64.toInt_ofNat_of_lt hk, hzero]
  constructor
  · intro h
    obtain ⟨i, hi, rfl⟩ := List.mem_map.mp h
    have hik := List.mem_range.mp hi
    rw [Int64.toInt_ofNat_of_lt (by omega)]
    omega
  · rintro ⟨hlow, hhigh⟩
    refine List.mem_map.mpr ⟨n.toInt.toNat, List.mem_range.mpr (by omega), ?_⟩
    rw [← Int64.toInt_inj, Int64.toInt_ofNat_of_lt (by omega)]
    omega

/-- Retiring a number removes all its items when numbers are not repeated. -/
lemma eraseP_eq_filter {items : List (Int64 × W)} (h : (items.map Prod.fst).Nodup) (n : Int64) :
    items.eraseP (fun x => x.1 == n) = items.filter (fun x => x.1 != n) := by
  induction items with
  | nil => rfl
  | cons x rest ih =>
    obtain ⟨hx, hrest⟩ := List.nodup_cons.mp h
    by_cases hxn : x.1 = n
    · have hkeep : ∀ y ∈ rest, (y.1 != n) = true := by
        intro y hy
        have hne : y.1 ≠ n := by
          intro hyn
          exact hx (hxn.trans hyn.symm ▸ List.mem_map_of_mem hy)
        simpa using hne
      rw [List.eraseP_cons_of_pos (by simpa using hxn), List.filter_cons_of_neg (by simpa using hxn),
        List.filter_eq_self.mpr hkeep]
    · rw [List.eraseP_cons_of_neg (by simpa using hxn), List.filter_cons_of_pos (by simpa using hxn),
        ih hrest]

/-! ## The invariant -/

namespace Inv

variable {carries : Int64 → W → Prop} {capacity : ℕ} {s : State P W}

lemma initial : Inv carries capacity (State.initial : State P W) where
  holder_iff p := by simp [State.initial]
  carries_next p w h := by simp [State.initial] at h
  handing_last p n w h := by simp [State.initial] at h
  handed_sublist := List.Sublist.refl _
  next_eq := rfl
  numbers := rfl
  carried x h := by simp [State.initial, issued] at h
  pending_sublist := List.Sublist.refl _
  length_pending := Nat.zero_le _
  pending_eq _ := rfl

lemma pairwise_issued (h : Inv carries capacity s) (hk : (issued s.log).length ≤ 2 ^ 63) :
    ((issued s.log).map Prod.fst).Pairwise (· < ·) := by
  rw [h.numbers]
  exact range_ofNat_pairwise hk

/-- Every selection of the issued items, in their order, increases strictly. -/
lemma pairwise_of_sublist (h : Inv carries capacity s) (hk : (issued s.log).length ≤ 2 ^ 63)
    {items : List (Int64 × W)} (hsub : items.Sublist (issued s.log)) :
    (items.map Prod.fst).Pairwise (· < ·) :=
  (h.pairwise_issued hk).sublist (hsub.map _)

/-- The issued numbers are those below the counter. -/
lemma mem_numbers (h : Inv carries capacity s) (hk : (issued s.log).length < 2 ^ 63) (n : Int64) :
    n ∈ (issued s.log).map Prod.fst ↔ 0 ≤ n ∧ n < s.next := by
  rw [h.numbers, h.next_eq]
  exact mem_range_ofNat hk n

/-- The lock excludes the other parties. -/
lemma away_of_ne (h : Inv carries capacity s) {p q : P} (hp : s.phase p ≠ .away) (hqp : q ≠ p) :
    s.phase q = .away := by
  by_contra hq
  have hholder := (h.holder_iff p).mpr hp
  rw [(h.holder_iff q).mpr hq] at hholder
  exact hqp (Option.some_inj.mp hholder)

lemma away_of_free (h : Inv carries capacity s) (hfree : s.holder = none) (q : P) :
    s.phase q = .away := by
  by_contra hq
  have hholder := (h.holder_iff q).mpr hq
  simp [hfree] at hholder

lemma retire (h : Inv carries capacity s) (n : Int64) :
    Inv carries capacity
      { s with
        pending := s.pending.eraseP (fun x => x.1 == n)
        log := s.log ++ [.retired n] } where
  holder_iff := h.holder_iff
  carries_next := h.carries_next
  handing_last := by simpa using h.handing_last
  handed_sublist := by simpa using h.handed_sublist
  next_eq := by simpa using h.next_eq
  numbers := by simpa using h.numbers
  carried := by simpa using h.carried
  pending_sublist := by
    simpa using List.eraseP_sublist.trans h.pending_sublist
  length_pending := List.length_eraseP_le.trans h.length_pending
  pending_eq hk := by
    simp only [issued_append, issued_retired, List.append_nil] at hk
    have hnodup : (s.pending.map Prod.fst).Nodup :=
      (h.pairwise_of_sublist hk h.pending_sublist).imp (fun hlt => Int64.ne_of_lt hlt)
    simp [settle, ← h.pending_eq hk, eraseP_eq_filter hnodup]

variable [DecidableEq P]

lemma lock (h : Inv carries capacity s) (p : P) (w : W) (hfree : s.holder = none)
    (hw : carries s.next w) :
    Inv carries capacity
      { s with holder := some p, phase := Function.update s.phase p (.building w) } where
  holder_iff q := by
    by_cases hqp : q = p
    · simp [hqp]
    · simp [hqp, Ne.symm hqp, h.away_of_free hfree q]
  carries_next q v hq := by
    by_cases hqp : q = p
    · subst hqp
      simp only [Function.update_self, Phase.building.injEq] at hq
      exact hq ▸ hw
    · simp [hqp, h.away_of_free hfree q] at hq
  handing_last q n v hq := by
    by_cases hqp : q = p
    · simp [hqp] at hq
    · simp [hqp, h.away_of_free hfree q] at hq
  handed_sublist := h.handed_sublist
  next_eq := h.next_eq
  numbers := h.numbers
  carried := h.carried
  pending_sublist := h.pending_sublist
  length_pending := h.length_pending
  pending_eq := h.pending_eq

lemma issue (h : Inv carries capacity s) (p : P) (w : W) (hp : s.phase p = .building w)
    (hroom : s.pending.length < capacity) :
    Inv carries capacity
      { s with
        next := s.next + 1
        phase := Function.update s.phase p (.handing s.next w)
        pending := s.pending ++ [(s.next, w)]
        log := s.log ++ [.issued s.next w] } where
  holder_iff q := by
    have hq := h.holder_iff q
    by_cases hqp : q = p
    · subst hqp
      simpa [hp] using hq
    · simpa [hqp] using hq
  carries_next q v hq := by
    by_cases hqp : q = p
    · simp [hqp] at hq
    · simp [hqp, h.away_of_ne (by simp [hp]) hqp] at hq
  handing_last q n v hq := by
    by_cases hqp : q = p
    · subst hqp
      simp only [Function.update_self, Phase.handing.injEq] at hq
      obtain ⟨rfl, rfl⟩ := hq
      exact ⟨issued s.log, by simp, by simpa using h.handed_sublist⟩
    · simp [hqp, h.away_of_ne (by simp [hp]) hqp] at hq
  handed_sublist := by
    simpa using h.handed_sublist.trans (List.sublist_append_left _ _)
  next_eq := by
    show s.next + 1 = _
    simp [h.next_eq]
  numbers := by
    have hnext := h.next_eq
    simp [h.numbers, List.range_succ, ← hnext]
  carried x hx := by
    simp only [issued_append, issued_issued, List.mem_append, List.mem_singleton] at hx
    obtain hx | rfl := hx
    · exact h.carried x hx
    · exact h.carries_next p w hp
  pending_sublist := by
    simpa using h.pending_sublist
  length_pending := by
    simpa using Nat.succ_le_of_lt hroom
  pending_eq hk := by
    simp only [issued_append, issued_issued, List.length_append, List.length_singleton] at hk
    simp [settle, ← h.pending_eq (by omega)]

lemma letGo (h : Inv carries capacity s) (p : P) (hp : s.phase p ≠ .away) :
    Inv carries capacity
      { s with holder := none, phase := Function.update s.phase p .away } where
  holder_iff q := by
    by_cases hqp : q = p
    · simp [hqp]
    · simp [hqp, h.away_of_ne hp hqp]
  carries_next q v hq := by
    by_cases hqp : q = p
    · simp [hqp] at hq
    · simp [hqp, h.away_of_ne hp hqp] at hq
  handing_last q n v hq := by
    by_cases hqp : q = p
    · simp [hqp] at hq
    · simp [hqp, h.away_of_ne hp hqp] at hq
  handed_sublist := h.handed_sublist
  next_eq := h.next_eq
  numbers := h.numbers
  carried := h.carried
  pending_sublist := h.pending_sublist
  length_pending := h.length_pending
  pending_eq := h.pending_eq

lemma hand (h : Inv carries capacity s) (p : P) (n : Int64) (w : W)
    (hp : s.phase p = .handing n w) :
    Inv carries capacity
      { s with
        holder := none
        phase := Function.update s.phase p .away
        log := s.log ++ [.handed n w] } := by
  have hgo := h.letGo p (by simp [hp])
  obtain ⟨before, hbefore, hsub⟩ := h.handing_last p n w hp
  refine
    { holder_iff := hgo.holder_iff
      carries_next := hgo.carries_next
      handing_last := ?_
      handed_sublist := ?_
      next_eq := by simpa using h.next_eq
      numbers := by simpa using h.numbers
      carried := by simpa using h.carried
      pending_sublist := by simpa using h.pending_sublist
      length_pending := h.length_pending
      pending_eq := ?_ }
  · intro q m v hq
    by_cases hqp : q = p
    · simp [hqp] at hq
    · simp [hqp, h.away_of_ne (by simp [hp] : s.phase p ≠ .away) hqp] at hq
  · simpa [hbefore] using hsub
  · intro hk
    simp only [issued_append, issued_handed, List.append_nil] at hk
    simp [settle, ← h.pending_eq hk]

/-- A step of the protocol keeps the invariant. -/
lemma step {s' : State P W} (h : Inv carries capacity s) (hstep : Step carries capacity s s') :
    Inv carries capacity s' := by
  cases hstep with
  | lock p w hfree hw => exact h.lock p w hfree hw
  | issue p w hp hroom => exact h.issue p w hp hroom
  | hand p n w hp => exact h.hand p n w hp
  | letGo p hp => exact h.letGo p hp
  | retire n => exact h.retire n

end Inv

end NumberedStream
