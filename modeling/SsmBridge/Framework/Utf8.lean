import Mathlib.Data.List.Basic
import Mathlib.Data.Nat.Notation

/-!
# Reading UTF-8

`decode` reads a byte string as text and says where it stops being UTF-8: how many bytes before
that place are valid, and how many are wrong there.  These are the bytes that could still have
begun a character, and one byte if none could; at the end of the input the number is unknown,
since the character may only be incomplete.  `lossy` does not fail: it writes one replacement
character for each such place and goes on behind it.

`decode_ok_iff` says that `decode` inverts the encoder, and `lossy_of_decode` that `lossy` changes
nothing in a valid text.  Both readers pass over a character that they have decoded by counting
down how many of its bytes are still to come, so that they recurse on the list.
-/

namespace Utf8

/-- The character at the front. -/
def decodeChar (bytes : List UInt8) : Option Char := bytes.toByteArray.utf8DecodeChar? 0

/-- How many bytes the character has that begins so; zero if none does. -/
def width (first : UInt8) : ℕ :=
  if first < 0x80 then 1
  else if first < 0xC2 then 0
  else if first < 0xE0 then 2
  else if first < 0xF0 then 3
  else if first < 0xF5 then 4
  else 0

/-- Whether the byte number `i` behind the first one can be this. -/
def follows (first : UInt8) (i : ℕ) (byte : UInt8) : Bool :=
  if i = 0 then
    -- The second byte also rules out overlong forms, surrogates and what is beyond Unicode.
    let low : UInt8 := if first = 0xE0 then 0xA0 else if first = 0xF0 then 0x90 else 0x80
    let high : UInt8 := if first = 0xED then 0x9F else if first = 0xF4 then 0x8F else 0xBF
    decide (low ≤ byte ∧ byte ≤ high)
  else decide (0x80 ≤ byte ∧ byte ≤ 0xBF)

/-- How many bytes are wrong where no character can be decoded. -/
def wrongBytes (first : UInt8) (rest : List UInt8) : Option ℕ :=
  if width first ≤ 1 then some 1
  else
    ((rest.take (width first - 1)).zipIdx.find? (fun p => !follows first p.2 p.1)).map (·.2 + 1)

/-- A place where bytes stop being UTF-8. -/
structure Break where
  validUpTo : ℕ
  errorLen : Option ℕ
  deriving DecidableEq, Repr

/-- Read from byte number `i` on; the first `skip` bytes belong to a character already read. -/
def decodeFrom (i : ℕ) : ℕ → List UInt8 → Except Break (List Char)
  | _, [] => .ok []
  | skip + 1, _ :: rest => decodeFrom (i + 1) skip rest
  | 0, first :: rest =>
      match decodeChar (first :: rest) with
      | some c => (decodeFrom (i + 1) (c.utf8Size - 1) rest).map (c :: ·)
      | none => .error ⟨i, wrongBytes first rest⟩

def decode (bytes : List UInt8) : Except Break (List Char) := decodeFrom 0 0 bytes

/-- As `decodeFrom`, with a replacement character for what is not UTF-8. -/
def lossyFrom : ℕ → List UInt8 → List Char
  | _, [] => []
  | skip + 1, _ :: rest => lossyFrom skip rest
  | 0, first :: rest =>
      match decodeChar (first :: rest) with
      | some c => c :: lossyFrom (c.utf8Size - 1) rest
      | none =>
          '\uFFFD' ::
            match wrongBytes first rest with
            | some n => lossyFrom (n - 1) rest
            | none => []

def lossy (bytes : List UInt8) : List Char := lossyFrom 0 bytes

/-! ## Encoded characters -/

lemma decodeChar_encode_append (c : Char) (rest : List UInt8) :
    decodeChar (String.utf8EncodeChar c ++ rest) = some c := by
  rw [decodeChar, List.toByteArray_append]
  exact ByteArray.utf8DecodeChar?_utf8EncodeChar_append

/-- A character is decoded where its encoding stands. -/
lemma eq_encode_append {bytes : List UInt8} {c : Char} (h : decodeChar bytes = some c) :
    ∃ rest, bytes = String.utf8EncodeChar c ++ rest := by
  obtain ⟨rest, hrest⟩ := ByteArray.exists_of_utf8DecodeChar?_eq_some h
  refine ⟨rest.data.toList, ?_⟩
  have hdata := congrArg (fun b : ByteArray => b.data.toList) hrest
  simpa using hdata

/-- The encoding of a character has a first byte, and the rest is what is passed over. -/
lemma exists_encode_eq_cons (c : Char) :
    ∃ first more, String.utf8EncodeChar c = first :: more ∧ more.length = c.utf8Size - 1 := by
  have hlength := String.length_utf8EncodeChar c
  have hpos := c.utf8Size_pos
  cases hc : String.utf8EncodeChar c with
  | nil =>
    rw [hc] at hlength
    simp only [List.length_nil] at hlength
    omega
  | cons first more =>
    rw [hc, List.length_cons] at hlength
    exact ⟨first, more, rfl, by omega⟩

/-! ## The readers -/

lemma decodeFrom_append (more : List UInt8) (i : ℕ) (rest : List UInt8) :
    decodeFrom i more.length (more ++ rest) = decodeFrom (i + more.length) 0 rest := by
  induction more generalizing i with
  | nil => rfl
  | cons byte more ih =>
    rw [List.length_cons, List.cons_append, decodeFrom, ih]
    congr 1
    omega

lemma lossyFrom_append (more rest : List UInt8) :
    lossyFrom more.length (more ++ rest) = lossyFrom 0 rest := by
  induction more with
  | nil => rfl
  | cons byte more ih =>
    rw [List.length_cons, List.cons_append, lossyFrom, ih]

/-- An encoded character is read, whatever follows it. -/
lemma decodeFrom_encode_append (i : ℕ) (c : Char) (rest : List UInt8) :
    decodeFrom i 0 (String.utf8EncodeChar c ++ rest) =
      (decodeFrom (i + c.utf8Size) 0 rest).map (c :: ·) := by
  obtain ⟨first, more, henc, hmore⟩ := exists_encode_eq_cons c
  have hchar := decodeChar_encode_append c rest
  have hpos := c.utf8Size_pos
  rw [henc, List.cons_append] at hchar ⊢
  rw [decodeFrom, hchar]
  simp only
  rw [← hmore, decodeFrom_append, show i + 1 + more.length = i + c.utf8Size by omega]

lemma lossyFrom_encode_append (c : Char) (rest : List UInt8) :
    lossyFrom 0 (String.utf8EncodeChar c ++ rest) = c :: lossyFrom 0 rest := by
  obtain ⟨first, more, henc, hmore⟩ := exists_encode_eq_cons c
  have hchar := decodeChar_encode_append c rest
  rw [henc, List.cons_append] at hchar ⊢
  rw [lossyFrom, hchar]
  simp only
  rw [← hmore, lossyFrom_append]

lemma decodeFrom_encode (i : ℕ) (text : List Char) :
    decodeFrom i 0 (text.flatMap String.utf8EncodeChar) = .ok text := by
  induction text generalizing i with
  | nil => rfl
  | cons c text ih =>
    rw [List.flatMap_cons, decodeFrom_encode_append, ih]
    rfl

/-- What is read is encoded in what it was read from. The induction is on the number of bytes,
since a step may pass over several. -/
lemma eq_encode_of_decodeFrom {i : ℕ} {bytes : List UInt8} {text : List Char}
    (h : decodeFrom i 0 bytes = .ok text) : bytes = text.flatMap String.utf8EncodeChar := by
  induction hn : bytes.length using Nat.strongRecOn generalizing i bytes text with
  | ind n ih =>
    cases bytes with
    | nil =>
      cases h
      rfl
    | cons first rest =>
      cases hchar : decodeChar (first :: rest) with
      | none =>
        rw [decodeFrom, hchar] at h
        cases h
      | some c =>
        obtain ⟨tail, htail⟩ := eq_encode_append hchar
        have hpos := c.utf8Size_pos
        have hlength := congrArg List.length htail
        rw [List.length_append, String.length_utf8EncodeChar] at hlength
        rw [htail, decodeFrom_encode_append] at h
        cases htext : decodeFrom (i + c.utf8Size) 0 tail with
        | error e =>
          rw [htext] at h
          cases h
        | ok more =>
          rw [htext] at h
          cases h
          rw [htail, List.flatMap_cons, ← ih tail.length (by omega) htext rfl]

/-- `decode` accepts exactly the encodings, and returns what they encode. -/
lemma decode_ok_iff {bytes : List UInt8} {text : List Char} :
    decode bytes = .ok text ↔ bytes = text.flatMap String.utf8EncodeChar := by
  constructor
  · exact eq_encode_of_decodeFrom
  · rintro rfl
    exact decodeFrom_encode 0 text

/-- A valid text is left as it is. -/
lemma lossy_of_decode {bytes : List UInt8} {text : List Char} (h : decode bytes = .ok text) :
    lossy bytes = text := by
  rw [decode_ok_iff.mp h, lossy]
  clear h
  induction text with
  | nil => rfl
  | cons c text ih => rw [List.flatMap_cons, lossyFrom_encode_append, ih]

example : decode [0x61, 0xE2, 0x82] = .error ⟨1, none⟩ ∧
    decode [0x61, 0xE2, 0x82, 0x62] = .error ⟨1, some 2⟩ ∧
    lossy [0x61, 0xE2, 0x82, 0x62] = ['a', '\uFFFD', 'b'] := by
  decide +kernel

end Utf8
