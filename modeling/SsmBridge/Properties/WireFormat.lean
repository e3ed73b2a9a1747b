import SsmBridge.Construction.Message
import Mathlib.Tactic.NormNum

/-!
# Reading and writing the wire format

The cursor program of `ClientMessage.decode` and the writer `ClientMessage.serialize` are two
hand-written functions over the same eleven fields.  This file relates them.

The first half executes the cursor.  `Decoder.bind_ok` and `Decoder.bind_error` peel one read off
the program, and each read has a lemma at a symbolic offset, so that a frame of at least 120
bytes decodes to the closed form `readFrame` (`deserialize_eq`): every field is a `slice` at its
documented offset, and no read panics.

The second half is what follows from the closed form.  `Accepts` restates the format as a
grammar on byte offsets, `exists_deserialize_ok_iff_accepts` says the reader accepts exactly that
grammar, and the field lemmas give the two round trips: `readAt_serialize` from a message,
`serialize_readAt` from a byte string.
-/

namespace SsmBridge

open BigEndian

/-! ## Peeling reads off a decoder -/

namespace Decoder

variable {α β : Type} {x : Decoder α} {f : α → Decoder β} {data rest : Bytes} {a : α}

/-- A read that succeeded hands its value and the rest of the frame to what follows. -/
lemma bind_ok (h : x data = some (.ok (a, rest))) : (x >>= f) data = f a rest := by
  show ExceptT.bind (x data) _ = _
  rw [h]
  rfl

/-- A read that failed ends the program with its error. -/
lemma bind_error {e : Error} (h : x data = some (.error e)) :
    (x >>= f) data = some (.error e) := by
  show ExceptT.bind (x data) _ = _
  rw [h]
  rfl

end Decoder

lemma remaining_apply (data : Bytes) : remaining data = some (.ok (data.length, data)) := rfl

lemma liftM_ok_apply {α : Type} (a : α) (data : Bytes) :
    (liftM (Except.ok a : Except Error α) : Decoder α) data = some (.ok (a, data)) := rfl

lemma liftM_error_apply {α : Type} (e : Error) (data : Bytes) :
    (liftM (Except.error e : Except Error α) : Decoder α) data = some (.error e) := rfl

/-- Reading `n` bytes at offset `off` is in bounds whenever the window fits. -/
lemma copyToSlice_drop {b : Bytes} {off n : ℕ} (h : off + n ≤ b.length) :
    copyToSlice n (b.drop off) = some (.ok (slice b off n, b.drop (off + n))) := by
  have hle : n ≤ (b.drop off).length := by rw [List.length_drop]; omega
  rw [copyToSlice, if_pos hle, List.drop_drop]
  rfl

/-- The big-endian `u32` at an offset of a frame. -/
def u32At (b : Bytes) (off : ℕ) : UInt32 := UInt32.ofNat (beNat (slice b off 4))

/-- The big-endian `u64` at an offset of a frame. -/
def u64At (b : Bytes) (off : ℕ) : UInt64 := UInt64.ofNat (beNat (slice b off 8))

lemma getU32_drop {b : Bytes} (off : ℕ) (h : off + 4 ≤ b.length) :
    getU32 (b.drop off) = some (.ok (u32At b off, b.drop (off + 4))) := by
  rw [getU32, Decoder.bind_ok (copyToSlice_drop h)]
  rfl

lemma getU64_drop {b : Bytes} (off : ℕ) (h : off + 8 ≤ b.length) :
    getU64 (b.drop off) = some (.ok (u64At b off, b.drop (off + 8))) := by
  rw [getU64, Decoder.bind_ok (copyToSlice_drop h)]
  rfl

lemma getI64_drop {b : Bytes} {off : ℕ} (h : off + 8 ≤ b.length) :
    getI64 (b.drop off) = some (.ok ((u64At b off).toInt64, b.drop (off + 8))) := by
  rw [getI64, Decoder.bind_ok (getU64_drop off h)]
  rfl

/-! ## The closed form of the reader -/

/-- The declared payload length of a frame. -/
def declaredLength (b : Bytes) : ℕ := (u32At b 116).toNat

/-- The message a frame denotes once its two type fields are known. -/
def readAt (b : Bytes) (messageType : MessageType) (payloadType : PayloadType) :
    ClientMessage where
  messageType := messageType
  schemaVersion := u32At b 36
  createdDate := u64At b 40
  sequenceNumber := (u64At b 48).toInt64
  flags := u64At b 56
  messageId := toArray _ ((slice b 64 16).drop 8 ++ (slice b 64 16).take 8)
  payloadDigest := toArray _ (slice b 80 32)
  payloadType := payloadType
  payload := slice b 120 (declaredLength b)

/-- The reader on a frame long enough to hold a header: five checks on fixed windows, in the
order the source makes them. -/
def readFrame (sha256 : Bytes → Digest) (b : Bytes) : Except Error ClientMessage :=
  if (u32At b 0).toNat ≠ headerLength then
    .error (.protocol s!"bad HeaderLength {u32At b 0}, expected {headerLength}")
  else
    match parseMessageType (slice b 4 32) with
    | .error e => .error e
    | .ok messageType =>
        match PayloadType.fromU32 (u32At b 112) with
        | .error e => .error e
        | .ok payloadType =>
            if maxPayloadSize < declaredLength b then
              .error (.protocol
                s!"declared payload of {u32At b 116} bytes exceeds the {maxPayloadSize}-byte limit")
            else if b.length - 120 < declaredLength b then
              .error (.protocol
                s!"declared payload of {u32At b 116} bytes but only {b.length - 120} remain")
            else
              match (readAt b messageType payloadType).validate sha256 with
              | .error e => .error e
              | .ok () => .ok (readAt b messageType payloadType)

/-- A frame shorter than a header is a protocol error. -/
lemma deserialize_truncated (sha256 : Bytes → Digest) {b : Bytes} (h : b.length < headerSize) :
    ClientMessage.deserialize sha256 b = some (.error (.protocol
      s!"message truncated: {b.length} bytes, need at least {headerSize}")) := by
  rw [ClientMessage.deserialize, ClientMessage.decode, Decoder.bind_ok (remaining_apply b),
    if_pos h]
  rfl

/-- **The closed form.**  On a frame that holds a header the cursor never runs out, and what it
computes is `readFrame`. -/
theorem deserialize_eq (sha256 : Bytes → Digest) {b : Bytes} (h : headerSize ≤ b.length) :
    ClientMessage.deserialize sha256 b = some (readFrame sha256 b) := by
  have h120 : 120 ≤ b.length := h
  have hlen : getU32 b = some (.ok (u32At b 0, b.drop 4)) := getU32_drop 0 (by omega)
  have htype : copyToSlice messageTypeLen (b.drop 4) = some (.ok (slice b 4 32, b.drop 36)) :=
    copyToSlice_drop (by change 4 + 32 ≤ _; omega)
  have hseq : getI64 (b.drop 48) = some (.ok ((u64At b 48).toInt64, b.drop 56)) :=
    getI64_drop (by omega)
  have hid : copyToSlice messageIdLen (b.drop 64) = some (.ok (slice b 64 16, b.drop 80)) :=
    copyToSlice_drop (by change 64 + 16 ≤ _; omega)
  have hdigest : copyToSlice digestLen (b.drop 80) = some (.ok (slice b 80 32, b.drop 112)) :=
    copyToSlice_drop (by change 80 + 32 ≤ _; omega)
  have hpayload : declaredLength b ≤ b.length - 120 → copyToSlice (u32At b 116).toNat (b.drop 120) =
      some (.ok (slice b 120 (declaredLength b), b.drop (120 + declaredLength b))) :=
    fun hle => copyToSlice_drop (by change 120 + declaredLength b ≤ _; omega)
  rw [ClientMessage.deserialize, ClientMessage.decode, Decoder.bind_ok (remaining_apply b),
    if_neg (not_lt.mpr h), readFrame, Decoder.bind_ok hlen]
  by_cases hhl : (u32At b 0).toNat ≠ headerLength
  · rw [if_pos hhl, if_pos hhl]
    rfl
  rw [if_neg hhl, if_neg hhl, Decoder.bind_ok htype]
  cases parseMessageType (slice b 4 32) with
  | error e =>
      rw [Decoder.bind_error (liftM_error_apply e _)]
      rfl
  | ok messageType =>
      rw [Decoder.bind_ok (liftM_ok_apply messageType _),
        Decoder.bind_ok (getU32_drop 36 (by omega)),
        Decoder.bind_ok (getU64_drop 40 (by omega)), Decoder.bind_ok hseq,
        Decoder.bind_ok (getU64_drop 56 (by omega)), Decoder.bind_ok hid,
        Decoder.bind_ok hdigest, Decoder.bind_ok (getU32_drop 112 (by omega))]
      cases PayloadType.fromU32 (u32At b 112) with
      | error e =>
          rw [Decoder.bind_error (liftM_error_apply e _)]
          rfl
      | ok payloadType =>
          rw [Decoder.bind_ok (liftM_ok_apply payloadType _),
            Decoder.bind_ok (getU32_drop 116 (by omega))]
          have hleft : remaining (b.drop 120) = some (.ok (b.length - 120, b.drop 120)) := by
            rw [remaining_apply, List.length_drop]
          -- The program tests the raw `u32`, the closed form its name `declaredLength`.
          by_cases hmax : maxPayloadSize < declaredLength b
          · have hraw : maxPayloadSize < (u32At b 116).toNat := hmax
            simp only [if_pos hraw, if_pos hmax]
            rfl
          have hmaxRaw : ¬ maxPayloadSize < (u32At b 116).toNat := hmax
          simp only [if_neg hmaxRaw, if_neg hmax]
          rw [Decoder.bind_ok hleft]
          by_cases hroom : b.length - 120 < declaredLength b
          · have hraw : b.length - 120 < (u32At b 116).toNat := hroom
            rw [if_pos hraw, if_pos hroom]
            rfl
          have hroomRaw : ¬ b.length - 120 < (u32At b 116).toNat := hroom
          rw [if_neg hroomRaw, if_neg hroom, Decoder.bind_ok (hpayload (not_lt.mp hroom))]
          change Option.map _ ((liftM ((readAt b messageType payloadType).validate sha256) >>= _ :
            Decoder ClientMessage) _) = _
          cases (readAt b messageType payloadType).validate sha256 with
          | error e =>
              rw [Decoder.bind_error (liftM_error_apply e _)]
              rfl
          | ok u =>
              rw [Decoder.bind_ok (liftM_ok_apply u _)]
              rfl

/-! ## The type fields -/

/-- A name is recognised exactly when it is the name of the type it yields. -/
lemma MessageType.parse_eq_some_iff {s : String} {t : MessageType} :
    MessageType.parse s = some t ↔ s = t.asStr := by
  constructor
  · intro h
    unfold MessageType.parse at h
    split_ifs at h <;> cases h <;> assumption
  · rintro rfl
    cases t <;> rfl

/-- The type field is accepted exactly when it is UTF-8 and trims to a type name. -/
lemma parseMessageType_ok_iff {bs : Bytes} {t : MessageType} :
    parseMessageType bs = .ok t ↔
      ∃ text, fromUtf8 bs = .ok text ∧ trimMatches isTypePadding text = t.asStr.toList := by
  unfold parseMessageType
  cases hutf : fromUtf8 bs with
  | error e => simp
  | ok text =>
      have hname : String.ofList (trimMatches isTypePadding text) = t.asStr ↔
          trimMatches isTypePadding text = t.asStr.toList := by
        rw [← String.ofList_toList (s := t.asStr), String.ofList_inj, String.ofList_toList]
      simp only [Except.ok.injEq, exists_eq_left', ← hname, ← MessageType.parse_eq_some_iff]
      cases MessageType.parse (String.ofList (trimMatches isTypePadding text)) <;> simp

/-- The padded field is the UTF-8 encoding of the name followed by spaces. -/
lemma paddedMessageType_eq_encode (t : MessageType) :
    paddedMessageType t =
      (t.asStr.toList ++ List.replicate (32 - t.asStr.length) ' ').flatMap
        String.utf8EncodeChar := by
  cases t <;> rfl

@[simp] lemma length_paddedMessageType (t : MessageType) : (paddedMessageType t).length = 32 := by
  cases t <;> rfl

/-- The padding that is written is padding that is stripped. -/
lemma parseMessageType_paddedMessageType (t : MessageType) :
    parseMessageType (paddedMessageType t) = .ok t := by
  refine parseMessageType_ok_iff.mpr
    ⟨t.asStr.toList ++ List.replicate (32 - t.asStr.length) ' ', ?_, ?_⟩
  · exact Utf8.decode_ok_iff.mpr (paddedMessageType_eq_encode t)
  · cases t <;> rfl

/-- The discriminant is the only code that parses to a payload type. -/
lemma PayloadType.fromU32_ok_iff {value : UInt32} {t : PayloadType} :
    PayloadType.fromU32 value = .ok t ↔ value = t.toU32 := by
  constructor
  · intro h
    unfold PayloadType.fromU32 at h
    split at h <;> cases h <;> exact UInt32.toNat_inj.mp ‹_›
  · rintro rfl
    cases t <;> rfl

/-- The payload types are the codes `0` to `12`. -/
lemma PayloadType.exists_fromU32_ok_iff {value : UInt32} :
    (∃ t, PayloadType.fromU32 value = .ok t) ↔ value.toNat ≤ 12 := by
  simp only [PayloadType.fromU32_ok_iff]
  constructor
  · rintro ⟨t, rfl⟩
    cases t <;> decide
  · intro h
    have hcases : value.toNat = 0 ∨ value.toNat = 1 ∨ value.toNat = 2 ∨ value.toNat = 3 ∨
        value.toNat = 4 ∨ value.toNat = 5 ∨ value.toNat = 6 ∨ value.toNat = 7 ∨
        value.toNat = 8 ∨ value.toNat = 9 ∨ value.toNat = 10 ∨ value.toNat = 11 ∨
        value.toNat = 12 := by omega
    have heq : ∀ t : PayloadType, value.toNat = t.toU32.toNat → ∃ t : PayloadType, value = t.toU32 :=
      fun t ht => ⟨t, UInt32.toNat_inj.mp ht⟩
    rcases hcases with h | h | h | h | h | h | h | h | h | h | h | h | h
    exacts [heq .undefined h, heq .output h, heq .error h, heq .size h, heq .parameter h,
      heq .handshakeRequest h, heq .handshakeResponse h, heq .handshakeComplete h,
      heq .encChallengeRequest h, heq .encChallengeResponse h, heq .flag h, heq .stdErr h,
      heq .exitCode h]

/-- The two publication controls, which skip validation by name. -/
def MessageType.IsPublication (t : MessageType) : Prop :=
  t = .startPublication ∨ t = .pausePublication

/-- What a message other than a publication control must satisfy. -/
lemma validate_ok_iff (sha256 : Bytes → Digest) (m : ClientMessage) :
    m.validate sha256 = .ok () ↔
      m.messageType.IsPublication ∨
        0 ≤ m.sequenceNumber ∧ (m.payload = [] ∨ sha256 m.payload = m.payloadDigest) := by
  have hcheck : ∀ (e₁ e₂ : Error),
      ((if m.sequenceNumber < 0 then .error e₁
        else if m.payload ≠ [] ∧ sha256 m.payload ≠ m.payloadDigest then .error e₂
        else .ok () : Except Error Unit) = .ok ()) ↔
      0 ≤ m.sequenceNumber ∧ (m.payload = [] ∨ sha256 m.payload = m.payloadDigest) := by
    intro e₁ e₂
    rw [← Int64.not_lt]
    by_cases hneg : m.sequenceNumber < 0
    · simp [hneg]
    · by_cases hnil : m.payload = [] <;> by_cases hsha : sha256 m.payload = m.payloadDigest <;>
        simp [hneg, hnil, hsha]
  unfold ClientMessage.validate MessageType.IsPublication
  cases m.messageType <;> simp [hcheck]

/-! ## The grammar -/

/-- The byte strings the format admits, in terms of offsets alone. -/
def Accepts (sha256 : Bytes → Digest) (b : Bytes) : Prop :=
  headerSize ≤ b.length ∧ slice b 0 4 = beBytes 4 headerLength ∧
    beNat (slice b 112 4) ≤ 12 ∧
    beNat (slice b 116 4) ≤ maxPayloadSize ∧ beNat (slice b 116 4) ≤ b.length - headerSize ∧
    ∃ (t : MessageType) (text : List Char),
      fromUtf8 (slice b 4 32) = .ok text ∧
      trimMatches isTypePadding text = t.asStr.toList ∧
      (t.IsPublication ∨
        0 ≤ (UInt64.ofNat (beNat (slice b 48 8))).toInt64 ∧
          (beNat (slice b 116 4) = 0 ∨
            (sha256 (slice b 120 (beNat (slice b 116 4)))).toList = slice b 80 32))

/-- A field of four bytes is its number. -/
lemma toNat_u32At {b : Bytes} {off : ℕ} (h : off + 4 ≤ b.length) :
    (u32At b off).toNat = beNat (slice b off 4) := by
  have hlt := beNat_lt (slice b off 4)
  rw [length_slice h] at hlt
  rw [u32At, UInt32.toNat_ofNat']
  exact Nat.mod_eq_of_lt hlt

lemma toNat_u64At {b : Bytes} {off : ℕ} (h : off + 8 ≤ b.length) :
    (u64At b off).toNat = beNat (slice b off 8) := by
  have hlt := beNat_lt (slice b off 8)
  rw [length_slice h] at hlt
  rw [u64At, UInt64.toNat_ofNat']
  exact Nat.mod_eq_of_lt hlt

lemma declaredLength_eq {b : Bytes} (h : headerSize ≤ b.length) :
    declaredLength b = beNat (slice b 116 4) :=
  toNat_u32At h

lemma toList_toArray {n : ℕ} {bs : Bytes} (h : bs.length = n) : (toArray n bs).toList = bs := by
  show (bs ++ List.replicate n 0).take n = bs
  rw [← h, List.take_left]

/-- What the closed form accepts, and the message it returns. -/
lemma readFrame_ok_iff (sha256 : Bytes → Digest) (b : Bytes) (m : ClientMessage) :
    readFrame sha256 b = .ok m ↔
      (u32At b 0).toNat = headerLength ∧ declaredLength b ≤ maxPayloadSize ∧
        declaredLength b ≤ b.length - 120 ∧
        ∃ t pt, parseMessageType (slice b 4 32) = .ok t ∧
          PayloadType.fromU32 (u32At b 112) = .ok pt ∧
          (readAt b t pt).validate sha256 = .ok () ∧ m = readAt b t pt := by
  unfold readFrame
  by_cases hhl : (u32At b 0).toNat = headerLength
  · rw [if_neg (not_not.mpr hhl)]
    cases parseMessageType (slice b 4 32) with
    | error e => simp
    | ok t =>
        cases PayloadType.fromU32 (u32At b 112) with
        | error e => simp
        | ok pt =>
            simp only [hhl, true_and, Except.ok.injEq, exists_and_left, exists_eq_left']
            by_cases hmax : maxPayloadSize < declaredLength b
            · simp [hmax]
            by_cases hroom : b.length - 120 < declaredLength b
            · simp [hmax, hroom]
            simp only [if_neg hmax, if_neg hroom, not_lt.mp hmax, not_lt.mp hroom, true_and]
            cases (readAt b t pt).validate sha256 <;> simp [eq_comm]
  · simp [hhl]

/-- A frame parses to a message exactly when it holds a header and its closed form does. -/
lemma deserialize_ok_iff (sha256 : Bytes → Digest) (b : Bytes) (m : ClientMessage) :
    ClientMessage.deserialize sha256 b = some (.ok m) ↔
      headerSize ≤ b.length ∧ readFrame sha256 b = .ok m := by
  by_cases hlen : headerSize ≤ b.length
  · simp [deserialize_eq sha256 hlen, hlen]
  · simp [deserialize_truncated sha256 (not_le.mp hlen), hlen]

/-- The reader never reads past the end of a frame. -/
lemma deserialize_isSome (sha256 : Bytes → Digest) (b : Bytes) :
    (ClientMessage.deserialize sha256 b).isSome := by
  by_cases hlen : headerSize ≤ b.length
  · simp [deserialize_eq sha256 hlen]
  · simp [deserialize_truncated sha256 (not_le.mp hlen)]

/-- The header-length test is a test on the first four bytes. -/
lemma headerLength_iff {b : Bytes} (h : headerSize ≤ b.length) :
    (u32At b 0).toNat = headerLength ↔ slice b 0 4 = beBytes 4 headerLength := by
  have h4 : 0 + 4 ≤ b.length := le_trans (by decide) h
  rw [toNat_u32At h4]
  constructor
  · intro heq
    exact (beBytes_eq_of_beNat_eq (length_slice h4) heq.symm).symm
  · intro heq
    rw [heq, beNat_beBytes]
    rfl

/-- The validation of a decoded frame, in terms of its windows. -/
lemma validate_readAt_iff (sha256 : Bytes → Digest) {b : Bytes} (h : headerSize ≤ b.length)
    (hroom : declaredLength b ≤ b.length - 120) (t : MessageType) (pt : PayloadType) :
    (readAt b t pt).validate sha256 = .ok () ↔
      t.IsPublication ∨ 0 ≤ (u64At b 48).toInt64 ∧
        (declaredLength b = 0 ∨ (sha256 (slice b 120 (declaredLength b))).toList = slice b 80 32) := by
  have h120 : 120 ≤ b.length := h
  have hnil : slice b 120 (declaredLength b) = [] ↔ declaredLength b = 0 := by
    rw [← List.length_eq_zero_iff, length_slice (by omega)]
  have hdigest : sha256 (slice b 120 (declaredLength b)) = toArray digestLen (slice b 80 32) ↔
      (sha256 (slice b 120 (declaredLength b))).toList = slice b 80 32 := by
    have hwidth : (slice b 80 32).length = digestLen := length_slice (by omega)
    rw [← List.Vector.toList_injective.eq_iff, toList_toArray hwidth]
  rw [validate_ok_iff]
  simp only [readAt, hnil, hdigest]

/-- **Acceptance.**  The reader returns a message on exactly the byte strings of the grammar. -/
lemma exists_deserialize_ok_iff_accepts (sha256 : Bytes → Digest) (b : Bytes) :
    (∃ m, ClientMessage.deserialize sha256 b = some (.ok m)) ↔ Accepts sha256 b := by
  simp only [deserialize_ok_iff, Accepts]
  by_cases hlen : headerSize ≤ b.length
  swap
  · simp [hlen]
  have h120 : 120 ≤ b.length := hlen
  have hpt : (∃ pt, PayloadType.fromU32 (u32At b 112) = .ok pt) ↔ beNat (slice b 112 4) ≤ 12 := by
    rw [PayloadType.exists_fromU32_ok_iff, toNat_u32At (by omega)]
  have hleft : b.length - headerSize = b.length - 120 := rfl
  simp only [hlen, true_and, readFrame_ok_iff, headerLength_iff hlen, ← declaredLength_eq hlen,
    ← hpt, hleft]
  constructor
  · rintro ⟨m, hhl, hmax, hroom, t, pt, hty, hptok, hval, -⟩
    obtain ⟨text, hutf, htrim⟩ := parseMessageType_ok_iff.mp hty
    exact ⟨hhl, ⟨pt, hptok⟩, hmax, hroom, t, text, hutf, htrim,
      (validate_readAt_iff sha256 hlen hroom t pt).mp hval⟩
  · rintro ⟨hhl, ⟨pt, hptok⟩, hmax, hroom, t, text, hutf, htrim, hval⟩
    exact ⟨readAt b t pt, hhl, hmax, hroom, t, pt, parseMessageType_ok_iff.mpr ⟨text, hutf, htrim⟩,
      hptok, (validate_readAt_iff sha256 hlen hroom t pt).mpr hval, rfl⟩

/-! ## Writing what was read -/

lemma beBytes_u32At {b : Bytes} {off : ℕ} (h : off + 4 ≤ b.length) :
    beBytes 4 (u32At b off).toNat = slice b off 4 :=
  beBytes_eq_of_beNat_eq (length_slice h) (toNat_u32At h)

lemma beBytes_u64At {b : Bytes} {off : ℕ} (h : off + 8 ≤ b.length) :
    beBytes 8 (u64At b off).toNat = slice b off 8 :=
  beBytes_eq_of_beNat_eq (length_slice h) (toNat_u64At h)

/-- Swapping the halves of the identifier twice restores it. -/
lemma swapHalves_swapHalves {w : Bytes} (h : w.length = 16) :
    (toArray messageIdLen (w.drop 8 ++ w.take 8)).toList.drop 8 ++
      (toArray messageIdLen (w.drop 8 ++ w.take 8)).toList.take 8 = w := by
  have hlen : (w.drop 8).length = 8 := by simp [h]
  have htotal : (w.drop 8 ++ w.take 8).length = messageIdLen := by
    simp [h, messageIdLen]
  rw [toList_toArray htotal, List.drop_left' hlen, List.take_left' hlen, List.take_append_drop]

/-- **Re-encoding a decoded frame** restores every byte of the frame outside the type field,
which is rewritten with its canonical padding. -/
lemma serialize_readAt {b : Bytes} (h : headerSize ≤ b.length)
    (hroom : declaredLength b ≤ b.length - 120) {t : MessageType} {pt : PayloadType}
    (hpt : PayloadType.fromU32 (u32At b 112) = .ok pt) :
    (readAt b t pt).serialize =
      beBytes 4 headerLength ++ (paddedMessageType t ++ slice b 36 (84 + declaredLength b)) := by
  have h120 : 120 ≤ b.length := h
  have hcode : pt.toU32 = u32At b 112 := (PayloadType.fromU32_ok_iff.mp hpt).symm
  have hpayload : (slice b 120 (declaredLength b)).length = (u32At b 116).toNat :=
    length_slice (by omega)
  have hidWidth : (slice b 64 16).length = 16 := length_slice (by omega)
  have hid := swapHalves_swapHalves hidWidth
  have hdigest : (toArray digestLen (slice b 80 32)).toList = slice b 80 32 :=
    toList_toArray (length_slice (by omega))
  have hsplit : slice b 36 (84 + declaredLength b) = slice b 36 4 ++ (slice b 40 8 ++
      (slice b 48 8 ++ (slice b 56 8 ++ (slice b 64 16 ++ (slice b 80 32 ++ (slice b 112 4 ++
        (slice b 116 4 ++ slice b 120 (declaredLength b)))))))) := by
    rw [slice_append_slice b 116 4, slice_append_slice b 112 4, slice_append_slice b 80 32,
      slice_append_slice b 64 16, slice_append_slice b 56 8, slice_append_slice b 48 8,
      slice_append_slice b 40 8, slice_append_slice b 36 4]
    congr 1
    omega
  rw [ClientMessage.serialize]
  simp only [readAt, hcode, hpayload, UInt64.toUInt64_toInt64, hdigest]
  rw [beBytes_u32At (by omega), beBytes_u64At (by omega), beBytes_u64At (by omega),
    beBytes_u64At (by omega), beBytes_u32At (by omega), beBytes_u32At (by omega), hsplit]
  rw [← List.append_assoc (List.drop 8 _), hid]

/-! ## Reading what was written -/

section Serialized

variable (m : ClientMessage)

@[simp] lemma length_serialize : m.serialize.length = 120 + m.payload.length := by
  have hid : m.messageId.toList.length = 16 := m.messageId.toList_length
  have hdigest : m.payloadDigest.toList.length = 32 := m.payloadDigest.toList_length
  simp only [ClientMessage.serialize, List.length_append, length_beBytes, length_paddedMessageType,
    List.length_drop, List.length_take, hid, hdigest]
  omega

lemma headerSize_le_length_serialize : headerSize ≤ m.serialize.length := by
  rw [length_serialize]
  exact Nat.le_add_right 120 _

lemma slice_serialize_headerLength : slice m.serialize 0 4 = beBytes 4 headerLength := by
  simp [ClientMessage.serialize, slice_append_left, slice_zero_of_length_le]

lemma slice_serialize_messageType :
    slice m.serialize 4 32 = paddedMessageType m.messageType := by
  simp [ClientMessage.serialize, slice_append_left, slice_append_right, slice_zero_of_length_le]

lemma u32At_of_slice {b : Bytes} {off : ℕ} {v : UInt32}
    (h : slice b off 4 = beBytes 4 v.toNat) : u32At b off = v := by
  have hlt : v.toNat < 256 ^ 4 := v.toNat_lt
  rw [u32At, h, beNat_beBytes, Nat.mod_eq_of_lt hlt, UInt32.ofNat_toNat]

lemma u64At_of_slice {b : Bytes} {off : ℕ} {v : UInt64}
    (h : slice b off 8 = beBytes 8 v.toNat) : u64At b off = v := by
  have hlt : v.toNat < 256 ^ 8 := v.toNat_lt
  rw [u64At, h, beNat_beBytes, Nat.mod_eq_of_lt hlt, UInt64.ofNat_toNat]

lemma u32At_serialize_payloadType : u32At m.serialize 112 = m.payloadType.toU32 := by
  have hid : m.messageId.toList.length = 16 := m.messageId.toList_length
  have hdigest : m.payloadDigest.toList.length = 32 := m.payloadDigest.toList_length
  apply u32At_of_slice
  simp [ClientMessage.serialize, slice_append_left, slice_append_right, slice_zero_of_length_le,
    hid, hdigest]

lemma u64At_serialize_sequenceNumber :
    u64At m.serialize 48 = m.sequenceNumber.toUInt64 := by
  apply u64At_of_slice
  simp [ClientMessage.serialize, slice_append_left, slice_append_right, slice_zero_of_length_le]

/-- The declared length is the payload's, up to the truncation of the `as u32` cast. -/
lemma declaredLength_serialize :
    declaredLength m.serialize = m.payload.length % 2 ^ 32 := by
  have hid : m.messageId.toList.length = 16 := m.messageId.toList_length
  have hdigest : m.payloadDigest.toList.length = 32 := m.payloadDigest.toList_length
  have hslice : slice m.serialize 116 4 = beBytes 4 m.payload.length := by
    simp [ClientMessage.serialize, slice_append_left, slice_append_right, slice_zero_of_length_le,
      hid, hdigest]
  rw [declaredLength_eq (headerSize_le_length_serialize m), hslice, beNat_beBytes]
  norm_num

/-- **Reading what was written** restores every field of the message. -/
lemma readAt_serialize (h : m.payload.length < 2 ^ 32) :
    readAt m.serialize m.messageType m.payloadType = m := by
  have hid : m.messageId.toList.length = 16 := m.messageId.toList_length
  have hdigest : m.payloadDigest.toList.length = 32 := m.payloadDigest.toList_length
  have hlength : declaredLength m.serialize = m.payload.length := by
    rw [declaredLength_serialize, Nat.mod_eq_of_lt h]
  have hschema : u32At m.serialize 36 = m.schemaVersion := by
    apply u32At_of_slice
    simp [ClientMessage.serialize, slice_append_left, slice_append_right, slice_zero_of_length_le]
  have hcreated : u64At m.serialize 40 = m.createdDate := by
    apply u64At_of_slice
    simp [ClientMessage.serialize, slice_append_left, slice_append_right, slice_zero_of_length_le]
  have hsequence := u64At_serialize_sequenceNumber m
  have hflags : u64At m.serialize 56 = m.flags := by
    apply u64At_of_slice
    simp [ClientMessage.serialize, slice_append_left, slice_append_right, slice_zero_of_length_le]
  -- The identifier occupies two adjacent eight-byte windows, halves exchanged.
  have huuid : slice m.serialize 64 16 = m.messageId.toList.drop 8 ++ m.messageId.toList.take 8 := by
    rw [← slice_append_slice m.serialize 64 8 8]
    simp [ClientMessage.serialize, slice_append_left, slice_append_right, slice_zero_of_length_le,
      hid]
  have hdig : slice m.serialize 80 32 = m.payloadDigest.toList := by
    simp [ClientMessage.serialize, slice_append_left, slice_append_right, slice_zero_of_length_le,
      hid, hdigest]
  have hpayload : slice m.serialize 120 m.payload.length = m.payload := by
    simp [ClientMessage.serialize, slice_append_right, slice_zero_of_length_le, hid, hdigest]
  have hswap : toArray messageIdLen ((slice m.serialize 64 16).drop 8 ++
      (slice m.serialize 64 16).take 8) = m.messageId := by
    have hhalf : (m.messageId.toList.drop 8).length = 8 := by simp [hid]
    rw [huuid, List.drop_left' hhalf, List.take_left' hhalf, List.take_append_drop]
    exact List.Vector.toList_injective (toList_toArray hid)
  have hdigestArray : toArray digestLen (slice m.serialize 80 32) = m.payloadDigest := by
    rw [hdig]
    exact List.Vector.toList_injective (toList_toArray hdigest)
  rw [readAt, hschema, hcreated, hsequence, hflags, hswap, hdigestArray, hlength, hpayload,
    Int64.toInt64_toUInt64]

end Serialized

/-- What the reader makes of a written message. -/
lemma readFrame_serialize (sha256 : Bytes → Digest) (m : ClientMessage)
    (h : m.payload.length < 2 ^ 32) :
    readFrame sha256 m.serialize =
      if maxPayloadSize < m.payload.length then
        .error (.protocol
          s!"declared payload of {u32At m.serialize 116} bytes exceeds the {maxPayloadSize}-byte limit")
      else
        match m.validate sha256 with
        | .error e => .error e
        | .ok () => .ok m := by
  have hhl : (u32At m.serialize 0).toNat = headerLength :=
    (headerLength_iff (headerSize_le_length_serialize m)).mpr (slice_serialize_headerLength m)
  have hlength : declaredLength m.serialize = m.payload.length := by
    rw [declaredLength_serialize, Nat.mod_eq_of_lt h]
  have hpt : PayloadType.fromU32 (u32At m.serialize 112) = .ok m.payloadType :=
    PayloadType.fromU32_ok_iff.mpr (u32At_serialize_payloadType m)
  have hroom : ¬ m.serialize.length - 120 < m.payload.length := by
    rw [length_serialize]
    omega
  simp only [readFrame, hhl, ne_eq, not_true_eq_false, if_false, slice_serialize_messageType,
    parseMessageType_paddedMessageType, hpt, hlength, hroom, readAt_serialize m h]

/-- The messages that survive the trip: within the size limit, and valid. -/
def ClientMessage.Transmissible (sha256 : Bytes → Digest) (m : ClientMessage) : Prop :=
  m.payload.length ≤ maxPayloadSize ∧
    (m.messageType.IsPublication ∨
      0 ≤ m.sequenceNumber ∧ (m.payload = [] ∨ m.payloadDigest = sha256 m.payload))

lemma transmissible_iff (sha256 : Bytes → Digest) (m : ClientMessage) :
    m.Transmissible sha256 ↔
      m.payload.length ≤ maxPayloadSize ∧ m.validate sha256 = .ok () := by
  rw [ClientMessage.Transmissible, validate_ok_iff, eq_comm (a := m.payloadDigest)]

/-- **Wire round trip.**  A message comes back with every field equal exactly when it is
transmissible, and as a protocol error otherwise. -/
theorem deserialize_serialize (sha256 : Bytes → Digest) (m : ClientMessage)
    (h : m.payload.length < 2 ^ 32) :
    (ClientMessage.deserialize sha256 m.serialize = some (.ok m) ↔ m.Transmissible sha256) ∧
      (¬ m.Transmissible sha256 →
        ∃ e, ClientMessage.deserialize sha256 m.serialize = some (.error e)) := by
  rw [transmissible_iff, deserialize_eq sha256 (headerSize_le_length_serialize m),
    readFrame_serialize sha256 m h]
  by_cases hmax : maxPayloadSize < m.payload.length
  · simp [hmax]
  · cases m.validate sha256 with
    | error e => simp [hmax]
    | ok u => simp [hmax, not_lt.mp hmax]

/-- The digest of the three bytes `abc`. -/
def digestOfAbc : Digest :=
  ⟨[0xba, 0x78, 0x16, 0xbf, 0x8f, 0x01, 0xcf, 0xea, 0x41, 0x41, 0x40, 0xde, 0x5d, 0xae, 0x22, 0x23,
    0xb0, 0x03, 0x61, 0xa3, 0x96, 0x17, 0x7a, 0x9c, 0xb4, 0x10, 0xff, 0x61, 0xf2, 0x00, 0x15, 0xad],
    rfl⟩

/-- An output message carrying `abc` makes the trip. -/
theorem deserialize_serialize_abc :
    ClientMessage.deserialize (fun _ => digestOfAbc)
        (ClientMessage.new (fun _ => digestOfAbc) ⟨0, toArray _ []⟩ .outputStreamData 7 .output
          [97, 98, 99]).serialize =
      some (.ok (ClientMessage.new (fun _ => digestOfAbc) ⟨0, toArray _ []⟩ .outputStreamData 7
        .output [97, 98, 99])) :=
  (deserialize_serialize (fun _ => digestOfAbc) _ (by decide)).1.mpr
    ⟨by decide, Or.inr ⟨by decide, Or.inr rfl⟩⟩

/-! ## The reader and its grammar -/

/-- What an accepted frame parses to is decided by its first `120 + L` bytes. -/
lemma deserialize_take_append (sha256 : Bytes → Digest) {b : Bytes} {m : ClientMessage}
    (hok : ClientMessage.deserialize sha256 b = some (.ok m)) (tail : Bytes) :
    ClientMessage.deserialize sha256 (b.take (120 + declaredLength b) ++ tail) = some (.ok m) := by
  obtain ⟨hlen, hread⟩ := (deserialize_ok_iff sha256 b m).mp hok
  have h120 : 120 ≤ b.length := hlen
  obtain ⟨hhl, hmax, hroom, t, pt, hty, hpt, hval, rfl⟩ := (readFrame_ok_iff sha256 b m).mp hread
  have htake : (b.take (120 + declaredLength b)).length = 120 + declaredLength b := by
    rw [List.length_take]
    omega
  -- Every window the reader looks at lies inside the kept prefix.
  have hwindow : ∀ off len, off + len ≤ 120 + declaredLength b →
      slice (b.take (120 + declaredLength b) ++ tail) off len = slice b off len := by
    intro off len hle
    rw [slice_append_left (by omega), slice_take hle]
  have hu32 : ∀ off, off + 4 ≤ 120 →
      u32At (b.take (120 + declaredLength b) ++ tail) off = u32At b off := by
    intro off hle
    rw [u32At, hwindow off 4 (by omega), u32At]
  have hu64 : ∀ off, off + 8 ≤ 120 →
      u64At (b.take (120 + declaredLength b) ++ tail) off = u64At b off := by
    intro off hle
    rw [u64At, hwindow off 8 (by omega), u64At]
  have hdecl : declaredLength (b.take (120 + declaredLength b) ++ tail) = declaredLength b := by
    rw [declaredLength, hu32 116 (by omega), declaredLength]
  have hsame : readAt (b.take (120 + declaredLength b) ++ tail) t pt = readAt b t pt := by
    rw [readAt, hu32 36 (by omega), hu64 40 (by omega), hu64 48 (by omega), hu64 56 (by omega),
      hwindow 64 16 (by omega), hwindow 80 32 (by omega), hdecl, hwindow 120 _ le_rfl, readAt]
  have hlength : (b.take (120 + declaredLength b) ++ tail).length =
      120 + declaredLength b + tail.length := by
    rw [List.length_append, htake]
  refine (deserialize_ok_iff sha256 _ _).mpr ⟨?_, (readFrame_ok_iff sha256 _ _).mpr
    ⟨?_, ?_, ?_, t, pt, ?_, ?_, ?_, ?_⟩⟩
  · rw [hlength, headerSize]
    omega
  · rw [hu32 0 (by omega), hhl]
  · rw [hdecl]
    exact hmax
  · rw [hdecl, hlength]
    omega
  · rw [hwindow 4 32 (by omega), hty]
  · rw [hu32 112 (by omega), hpt]
  · rw [hsame, hval]
  · exact hsame.symm

/-- The canonical re-encoding of an accepted frame: its length, its bytes and its meaning. -/
lemma serialize_of_deserialize (sha256 : Bytes → Digest) {b : Bytes} {m : ClientMessage}
    (hok : ClientMessage.deserialize sha256 b = some (.ok m)) :
    m.serialize.length = 120 + declaredLength b ∧
      (∀ i < 120 + declaredLength b, i < 4 ∨ 36 ≤ i → m.serialize[i]? = b[i]?) ∧
      ClientMessage.deserialize sha256 m.serialize = some (.ok m) := by
  obtain ⟨hlen, hread⟩ := (deserialize_ok_iff sha256 b m).mp hok
  have h120 : 120 ≤ b.length := hlen
  obtain ⟨hhl, hmax, hroom, t, pt, hty, hpt, hval, rfl⟩ := (readFrame_ok_iff sha256 b m).mp hread
  have hfirst := (headerLength_iff hlen).mp hhl
  have hwrite := serialize_readAt hlen hroom (t := t) hpt
  have hpayload : (readAt b t pt).payload.length = declaredLength b :=
    length_slice (by omega)
  have hsmall : (readAt b t pt).payload.length < 2 ^ 32 := by
    rw [hpayload]
    exact (u32At b 116).toNat_lt
  refine ⟨by rw [length_serialize, hpayload], ?_, ?_⟩
  · intro i hi hout
    rw [hwrite, ← hfirst]
    have hlen4 : (slice b 0 4).length = 4 := length_slice (by omega)
    rcases hout with hi4 | hi36
    · rw [List.getElem?_append_left (by omega), slice, List.drop_zero,
        List.getElem?_take_of_lt hi4]
    · rw [List.getElem?_append_right (by omega),
        List.getElem?_append_right (by rw [hlen4, length_paddedMessageType]; omega),
        hlen4, length_paddedMessageType, slice, List.getElem?_take_of_lt (by omega),
        List.getElem?_drop]
      congr 1
      omega
  · rw [deserialize_eq sha256 (headerSize_le_length_serialize _),
      readFrame_serialize sha256 _ hsmall, hpayload, if_neg (not_lt.mpr hmax), hval]

/-- **The parser accepts exactly its grammar.**  No byte string makes it read out of bounds; it
returns a message on exactly the strings `Accepts` describes; and then the message depends only
on the first `120 + L` bytes, is written back to those bytes outside the type field, and parses
back to itself. -/
theorem deserialize_grammar (sha256 : Bytes → Digest) (b : Bytes) :
    (ClientMessage.deserialize sha256 b).isSome ∧
      ((∃ m, ClientMessage.deserialize sha256 b = some (.ok m)) ↔ Accepts sha256 b) ∧
      ∀ m, ClientMessage.deserialize sha256 b = some (.ok m) →
        (∀ tail, ClientMessage.deserialize sha256
            (b.take (120 + beNat (slice b 116 4)) ++ tail) = some (.ok m)) ∧
          m.serialize.length = 120 + beNat (slice b 116 4) ∧
          (∀ i < 120 + beNat (slice b 116 4), i < 4 ∨ 36 ≤ i → m.serialize[i]? = b[i]?) ∧
          ClientMessage.deserialize sha256 m.serialize = some (.ok m) := by
  refine ⟨deserialize_isSome sha256 b, exists_deserialize_ok_iff_accepts sha256 b, ?_⟩
  intro m hok
  have hlen := ((deserialize_ok_iff sha256 b m).mp hok).1
  rw [← declaredLength_eq hlen]
  exact ⟨deserialize_take_append sha256 hok, serialize_of_deserialize sha256 hok⟩

end SsmBridge
