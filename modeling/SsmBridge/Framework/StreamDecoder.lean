import Mathlib.Data.List.Basic

/-!
# Decoding a byte stream that arrives in pieces

A reassembly buffer is decoded from the front: either a whole item stands there, or more input is
needed, or the input is not decodable at this offset.  A `Decoder` is a function that makes this
decision, together with the three laws that make the decision final: an item takes something off
the buffer, and neither an item nor a corruption found at the front is changed by what is appended
behind it.

`drain` takes items off a buffer until none is left, handing each to a handler that carries a
state; `feed` does so for input that arrives in chunks.  `feed_eq_drain` says that the way the input
was cut does not matter, and `drain_flatMap` that a concatenation of encoded items is taken apart
into exactly those items.
-/

namespace StreamDecoder

/-- What stands at the front of a reassembly buffer. -/
inductive Decoded (α β ε : Type)
  /-- A whole item, and the input behind it. -/
  | item (item : β) (rest : List α)
  | incomplete
  | corrupt (problem : ε)
  deriving DecidableEq

/-- A decoder whose decisions are final. -/
structure Decoder (α β ε : Type) where
  decode : List α → Decoded α β ε
  /-- An item takes something off the buffer. -/
  shorter : ∀ {xs rest : List α} {b : β}, decode xs = .item b rest → rest.length < xs.length
  /-- Input behind an item does not change it. -/
  item_append : ∀ {xs rest : List α} {b : β} (ys : List α), decode xs = .item b rest →
    decode (xs ++ ys) = .item b (rest ++ ys)
  /-- Input behind a corruption does not repair it. -/
  corrupt_append : ∀ {xs : List α} {e : ε} (ys : List α), decode xs = .corrupt e →
    decode (xs ++ ys) = .corrupt e

variable {α β ε σ : Type} (d : Decoder α β ε) (handle : σ → β → σ)

/-! ## Draining one buffer -/

/-- Take items off the buffer until none is left: what remains of it, or the corruption found, and
the state of the handler. -/
def drain (buf : List α) (s : σ) : Except ε (List α) × σ :=
  match _h : d.decode buf with
  | .incomplete => (.ok buf, s)
  | .corrupt e => (.error e, s)
  | .item b rest => drain rest (handle s b)
  termination_by buf.length
  decreasing_by exact d.shorter _h

variable {d handle} {buf rest : List α} {s s' : σ} {b : β} {e : ε}

lemma drain_incomplete (h : d.decode buf = .incomplete) : drain d handle buf s = (.ok buf, s) := by
  rw [drain]
  split <;> simp_all

lemma drain_corrupt (h : d.decode buf = .corrupt e) : drain d handle buf s = (.error e, s) := by
  rw [drain]
  split <;> simp_all

lemma drain_item (h : d.decode buf = .item b rest) :
    drain d handle buf s = drain d handle rest (handle s b) := by
  rw [drain]
  split <;> simp_all

/-- Induction along the items of a buffer. -/
lemma drain_induction (d : Decoder α β ε) {motive : List α → Prop}
    (incomplete : ∀ buf, d.decode buf = .incomplete → motive buf)
    (corrupt : ∀ buf e, d.decode buf = .corrupt e → motive buf)
    (item : ∀ buf b rest, d.decode buf = .item b rest → motive rest → motive buf)
    (buf : List α) : motive buf := by
  generalize hn : buf.length = n
  induction n using Nat.strongRecOn generalizing buf with
  | ind n ih =>
    cases h : d.decode buf with
    | incomplete => exact incomplete buf h
    | corrupt e => exact corrupt buf e h
    | item b rest =>
      have hrest : rest.length < n := hn ▸ d.shorter h
      exact item buf b rest h (ih _ hrest rest rfl)

/-- What is left of a drained buffer holds no item. -/
lemma decode_of_drain (h : drain d handle buf s = (.ok rest, s')) :
    d.decode rest = .incomplete := by
  induction buf using drain_induction d generalizing s with
  | incomplete buf hbuf =>
    rw [drain_incomplete hbuf] at h
    cases h
    exact hbuf
  | corrupt buf e hbuf =>
    rw [drain_corrupt hbuf] at h
    cases h
  | item buf b behind hbuf ih =>
    rw [drain_item hbuf] at h
    exact ih h

/-- **Draining in two goes.** Input that arrives after a buffer was drained is decoded as if it had
been there from the start. -/
theorem drain_append (buf more : List α) (s : σ) :
    drain d handle (buf ++ more) s =
      match drain d handle buf s with
      | (.ok rest, s') => drain d handle (rest ++ more) s'
      | (.error e, s') => (.error e, s') := by
  induction buf using drain_induction d generalizing s with
  | incomplete buf hbuf => rw [drain_incomplete hbuf]
  | corrupt buf e hbuf => rw [drain_corrupt hbuf, drain_corrupt (d.corrupt_append more hbuf)]
  | item buf b rest hbuf ih => rw [drain_item hbuf, drain_item (d.item_append more hbuf), ih]

/-! ## The items of a buffer -/

/-- The items a buffer holds, in order. -/
def items (d : Decoder α β ε) (buf : List α) : List β :=
  (drain d (fun seen b => seen ++ [b]) buf []).2

private lemma drain_snoc (buf : List α) (seen : List β) :
    (drain d (fun seen b => seen ++ [b]) buf seen).2 = seen ++ items d buf := by
  induction buf using drain_induction d generalizing seen with
  | incomplete buf hbuf => simp [items, drain_incomplete hbuf]
  | corrupt buf e hbuf => simp [items, drain_corrupt hbuf]
  | item buf b rest hbuf ih =>
    rw [items, drain_item hbuf, drain_item hbuf, ih, ih]
    simp

lemma items_incomplete (h : d.decode buf = .incomplete) : items d buf = [] := by
  rw [items, drain_incomplete h]

lemma items_corrupt (h : d.decode buf = .corrupt e) : items d buf = [] := by
  rw [items, drain_corrupt h]

lemma items_item (h : d.decode buf = .item b rest) : items d buf = b :: items d rest := by
  rw [items, drain_item h, drain_snoc]
  simp

/-- The handler sees the items of the buffer, in order. -/
lemma drain_snd (buf : List α) (s : σ) :
    (drain d handle buf s).2 = (items d buf).foldl handle s := by
  induction buf using drain_induction d generalizing s with
  | incomplete buf hbuf => simp [drain_incomplete hbuf, items_incomplete hbuf]
  | corrupt buf e hbuf => simp [drain_corrupt hbuf, items_corrupt hbuf]
  | item buf b rest hbuf ih => rw [drain_item hbuf, items_item hbuf, ih, List.foldl_cons]

/-- Input that arrives later adds items behind those that are there. -/
lemma items_prefix (buf more : List α) : items d buf <+: items d (buf ++ more) := by
  rw [items, items, drain_append]
  cases drain d (fun seen b => seen ++ [b]) buf [] with
  | mk verdict seen =>
    cases verdict with
    | ok rest =>
      dsimp only
      rw [drain_snoc]
      exact List.prefix_append _ _
    | error e => exact List.prefix_refl _

/-- Each item takes at least `n` elements, so a buffer holds no more than that allows. -/
lemma length_items_mul_le {n : ℕ}
    (hn : ∀ buf b rest, d.decode buf = .item b rest → rest.length + n ≤ buf.length)
    (buf : List α) : (items d buf).length * n ≤ buf.length := by
  induction buf using drain_induction d with
  | incomplete buf hbuf => simp [items_incomplete hbuf]
  | corrupt buf e hbuf => simp [items_corrupt hbuf]
  | item buf b rest hbuf ih =>
    have hshorter := hn buf b rest hbuf
    rw [items_item hbuf, List.length_cons, Nat.add_mul]
    omega

/-- **Encoded items are taken apart into those items.** It is enough that the decoder finds each
item in front of whatever comes behind it. -/
theorem drain_flatMap {encode : β → List α} {p : β → Prop}
    (hdecode : ∀ b, p b → ∀ rest, d.decode (encode b ++ rest) = .item b rest) {bs : List β}
    (hbs : ∀ b ∈ bs, p b) (rest : List α) (s : σ) :
    drain d handle (bs.flatMap encode ++ rest) s = drain d handle rest (bs.foldl handle s) := by
  induction bs generalizing s with
  | nil => rfl
  | cons b bs ih =>
    have hb : p b := hbs b List.mem_cons_self
    have htail : ∀ b' ∈ bs, p b' := fun b' h => hbs b' (List.mem_cons_of_mem _ h)
    rw [List.flatMap_cons, List.append_assoc, drain_item (hdecode b hb _), ih htail,
      List.foldl_cons]

/-- The items of a concatenation of encoded items. -/
lemma items_flatMap {encode : β → List α} {p : β → Prop}
    (hdecode : ∀ b, p b → ∀ rest, d.decode (encode b ++ rest) = .item b rest)
    (hempty : d.decode [] = .incomplete) {bs : List β} (hbs : ∀ b ∈ bs, p b) :
    items d (bs.flatMap encode) = bs := by
  induction bs with
  | nil => exact items_incomplete hempty
  | cons b bs ih =>
    have hb : p b := hbs b List.mem_cons_self
    have htail : ∀ b' ∈ bs, p b' := fun b' h => hbs b' (List.mem_cons_of_mem _ h)
    rw [List.flatMap_cons, items_item (hdecode b hb _), ih htail]

/-! ## Input in chunks -/

variable (d handle) in
/-- Append each chunk to the buffer and drain it; a corruption ends the run. -/
def feed : List (List α) → List α → σ → Except ε (List α) × σ
  | [], buf, s => (.ok buf, s)
  | chunk :: chunks, buf, s =>
      match drain d handle (buf ++ chunk) s with
      | (.ok rest, s) => feed chunks rest s
      | (.error e, s) => (.error e, s)

/-- **The cuts do not matter.** Fed to a drained buffer, chunks decode as their concatenation. -/
theorem feed_eq_drain (chunks : List (List α)) (hbuf : d.decode buf = .incomplete) (s : σ) :
    feed d handle chunks buf s = drain d handle (buf ++ chunks.flatten) s := by
  induction chunks generalizing buf s with
  | nil => rw [feed, List.flatten_nil, List.append_nil, drain_incomplete hbuf]
  | cons chunk chunks ih =>
    rw [feed, List.flatten_cons, ← List.append_assoc, drain_append (buf ++ chunk) chunks.flatten]
    cases hdrain : drain d handle (buf ++ chunk) s with
    | mk verdict s' =>
      cases verdict with
      | ok rest => exact ih (decode_of_drain hdrain) s'
      | error e => rfl

end StreamDecoder
