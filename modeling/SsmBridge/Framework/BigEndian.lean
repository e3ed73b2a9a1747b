import Mathlib.Data.List.Basic
import Mathlib.Tactic.Ring
import Mathlib.Tactic.Linarith

/-!
# Numbers as byte strings, and slices of them

Fixed-offset wire formats are read and written through two functions: `beBytes n v`, the `n`
bytes of a natural number with the most significant byte first, and `beNat`, the number a byte
string denotes.  Neither ever fails, so the two round trips are the whole interface:
`beNat_beBytes` reduces the written number modulo `256 ^ n`, which is what a store into an
`n`-byte field does, and `beBytes_beNat` says that a byte string is recovered from the number
it denotes, which is what makes a re-encoding of a decoded field exact.

`leBytes` and `leNat` are the same with the least significant byte first.

`slice` is the half-open window of a byte string that a header field occupies.  The two append
laws `slice_append_left` and `slice_append_right` let a concatenation of fixed-width segments
be read back field by field with no induction: each one strips the segments before the window
and the last strips the segments after it.
-/

namespace BigEndian

/-! ## Numbers as bytes -/

/-- The `n` low bytes of `v`, most significant first. -/
def beBytes : ℕ → ℕ → List UInt8
  | 0, _ => []
  | n + 1, v => UInt8.ofNat (v / 256 ^ n) :: beBytes n v

/-- The number a byte string denotes: each byte weighs `256` to the count of bytes after it. -/
def beNat : List UInt8 → ℕ
  | [] => 0
  | b :: bs => b.toNat * 256 ^ bs.length + beNat bs

@[simp] lemma length_beBytes : ∀ n v : ℕ, (beBytes n v).length = n
  | 0, _ => rfl
  | n + 1, v => by rw [beBytes, List.length_cons, length_beBytes n v]

/-- **Writing then reading** keeps a number up to the width of the field. -/
lemma beNat_beBytes (n v : ℕ) : beNat (beBytes n v) = v % 256 ^ n := by
  induction n with
  | zero => simp [beBytes, beNat, Nat.mod_one]
  | succ n ih =>
      have hbyte : (UInt8.ofNat (v / 256 ^ n)).toNat = v / 256 ^ n % 256 := by simp
      rw [beBytes, beNat, ih, hbyte, length_beBytes, pow_succ, Nat.mod_mul]
      ring

/-- A byte string denotes a number below the capacity of its width. -/
lemma beNat_lt : ∀ bs : List UInt8, beNat bs < 256 ^ bs.length
  | [] => by simp [beNat]
  | b :: bs => by
      have hb : b.toNat < 256 := b.toNat_lt
      have htail := beNat_lt bs
      have hhead : b.toNat * 256 ^ bs.length ≤ 255 * 256 ^ bs.length :=
        Nat.mul_le_mul_right _ (by omega)
      rw [beNat, List.length_cons, pow_succ]
      omega

/-- Only the low `n` bytes of the number are written. -/
lemma beBytes_add_mul (n k v : ℕ) : beBytes n (k * 256 ^ n + v) = beBytes n v := by
  induction n generalizing k with
  | zero => rfl
  | succ n ih =>
      have hsplit : k * 256 ^ (n + 1) + v = (k * 256) * 256 ^ n + v := by ring
      have hpos : 0 < 256 ^ n := by positivity
      have hbyte : UInt8.ofNat ((k * 256 * 256 ^ n + v) / 256 ^ n) =
          UInt8.ofNat (v / 256 ^ n) := by
        apply UInt8.toNat_inj.mp
        rw [add_comm, Nat.add_mul_div_right _ _ hpos]
        simp
      rw [beBytes, beBytes, hsplit, hbyte, ih]

/-- **Reading then writing** recovers the byte string. -/
lemma beBytes_beNat : ∀ bs : List UInt8, beBytes bs.length (beNat bs) = bs
  | [] => rfl
  | b :: bs => by
      have hpos : 0 < 256 ^ bs.length := by positivity
      have hdiv : (b.toNat * 256 ^ bs.length + beNat bs) / 256 ^ bs.length = b.toNat := by
        rw [add_comm, Nat.add_mul_div_right _ _ hpos, Nat.div_eq_of_lt (beNat_lt bs), zero_add]
      rw [beNat, List.length_cons, beBytes, hdiv, beBytes_add_mul, beBytes_beNat bs]
      simp

/-- A byte string of known width is recovered from any number equal to the one it denotes. -/
lemma beBytes_eq_of_beNat_eq {bs : List UInt8} {n v : ℕ} (hlen : bs.length = n)
    (hv : v = beNat bs) : beBytes n v = bs := by
  rw [hv, ← hlen]
  exact beBytes_beNat bs

/-! ## The least significant byte first -/

/-- The `n` low bytes of `v`, least significant first. -/
def leBytes (n v : ℕ) : List UInt8 := (beBytes n v).reverse

/-- The number a byte string denotes when its first byte weighs least. -/
def leNat (bs : List UInt8) : ℕ := beNat bs.reverse

@[simp] lemma length_leBytes (n v : ℕ) : (leBytes n v).length = n := by simp [leBytes]

lemma leNat_leBytes (n v : ℕ) : leNat (leBytes n v) = v % 256 ^ n := by
  rw [leNat, leBytes, List.reverse_reverse, beNat_beBytes]

/-! ## Windows of a byte string -/

/-- The `len` bytes starting at `off`; shorter when the string ends inside the window. -/
def slice {α : Type*} (bs : List α) (off len : ℕ) : List α :=
  (bs.drop off).take len

variable {α : Type*}

/-- A window at least as long as the string is the string. -/
lemma slice_zero_of_length_le {bs : List α} {len : ℕ} (h : bs.length ≤ len) :
    slice bs 0 len = bs := by
  rw [slice, List.drop_zero, List.take_of_length_le h]

lemma length_slice {bs : List α} {off len : ℕ} (h : off + len ≤ bs.length) :
    (slice bs off len).length = len := by
  simp only [slice, List.length_take, List.length_drop]
  omega

/-- A window inside the first segment does not see the second. -/
lemma slice_append_left {as bs : List α} {off len : ℕ} (h : off + len ≤ as.length) :
    slice (as ++ bs) off len = slice as off len := by
  rw [slice, slice, List.drop_append_of_le_length (by omega),
    List.take_append_of_le_length (by rw [List.length_drop]; omega)]

/-- A window past the first segment is a window of the second. -/
lemma slice_append_right {as bs : List α} {off len : ℕ} (h : as.length ≤ off) :
    slice (as ++ bs) off len = slice bs (off - as.length) len := by
  rw [slice, slice, List.drop_append, List.drop_eq_nil_of_le h, List.nil_append]

/-- Two adjacent windows make one. -/
lemma slice_append_slice (bs : List α) (off m n : ℕ) :
    slice bs off m ++ slice bs (off + m) n = slice bs off (m + n) := by
  rw [slice, slice, slice, List.take_add, ← List.drop_drop]

/-- A window of a prefix is a window of the whole string. -/
lemma slice_take {bs : List α} {n off len : ℕ} (h : off + len ≤ n) :
    slice (bs.take n) off len = slice bs off len := by
  rw [slice, slice, List.drop_take, List.take_take, Nat.min_eq_left (by omega)]

end BigEndian
