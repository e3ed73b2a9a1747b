import SsmBridge.Construction.Smux
import Mathlib.Order.WellFounded

/-!
# smux reassembly does not depend on chunking

The session hands its output to `recv_task` in chunks whose boundaries have nothing to do with
frames.  `reassembly_independent_of_chunking` says that the cuts leave no trace: whatever is done
with a frame, the chunks of a byte string do the same as the byte string in one piece, down to the
bytes left in the buffer or the problem that ended the loop; and a byte string that is a
concatenation of encoded frames gives back those frames.

The three laws of the decoder are in `Construction.Smux`; what is proved here about `decode_frame`
is the round trip with `encode`.
-/

namespace SsmBridge.Smux

open BigEndian StreamDecoder

variable {σ : Type} {route : σ → Frame → σ}

/-! ## The loop as one drain -/

/-- What the loop carries, given what a drain of the buffer returned. -/
def Reassembly.of : Except String Bytes × σ → Reassembly σ
  | (.ok buf, inner) => { buf, inner, problem := none }
  | (.error problem, inner) => { buf := [], inner, problem := some problem }

lemma receive_of_running {r : Reassembly σ} (h : r.problem = none) (chunk : Bytes) :
    r.receive route chunk = .of (drain decoder route (r.buf ++ chunk) r.inner) := by
  rw [Reassembly.receive, h, dispatch]
  cases hdrain : drain decoder route (r.buf ++ chunk) r.inner with
  | mk verdict inner => cases verdict <;> rfl

/-- Once the framing is lost, chunks are no longer read. -/
lemma foldl_receive_of_problem {r : Reassembly σ} {problem : String}
    (h : r.problem = some problem) (chunks : List Bytes) :
    chunks.foldl (Reassembly.receive route) r = r := by
  induction chunks with
  | nil => rfl
  | cons chunk chunks ih => rw [List.foldl_cons, Reassembly.receive, h, ih]

/-- The loop feeds the chunks to the decoder. -/
lemma foldl_receive (chunks : List Bytes) (buf : Bytes) (inner : σ) :
    chunks.foldl (Reassembly.receive route) { buf, inner, problem := none } =
      .of (feed decoder route chunks buf inner) := by
  induction chunks generalizing buf inner with
  | nil => rfl
  | cons chunk chunks ih =>
    rw [List.foldl_cons, receive_of_running rfl, feed]
    cases hdrain : drain decoder route (buf ++ chunk) inner with
    | mk verdict inner' =>
      cases verdict with
      | ok rest => exact ih rest inner'
      | error problem => exact foldl_receive_of_problem rfl chunks

/-- The loop drains the concatenation of the chunks. -/
lemma receiveChunks_eq (inner : σ) (chunks : List Bytes) :
    receiveChunks route inner chunks = .of (drain decoder route chunks.flatten inner) := by
  rw [receiveChunks, Reassembly.start, foldl_receive, feed_eq_drain chunks decodeFrame_nil]
  rfl

/-! ## Encoding and decoding -/

lemma leNat_of_leBytes_two {n : ℕ} (hn : n ≤ maxFramePayload) :
    leNat [UInt8.ofNat n, UInt8.ofNat (n / 256)] = n := by
  have h := leNat_leBytes 2 n
  rw [Nat.mod_eq_of_lt (by simp only [maxFramePayload] at hn; omega)] at h
  simpa [leBytes, beBytes] using h

lemma leNat_of_leBytes_four (id : UInt32) :
    leNat [UInt8.ofNat id.toNat, UInt8.ofNat (id.toNat / 256), UInt8.ofNat (id.toNat / 256 ^ 2),
      UInt8.ofNat (id.toNat / 256 ^ 3)] = id.toNat := by
  have h := leNat_leBytes 4 id.toNat
  rw [Nat.mod_eq_of_lt (by simpa using id.toNat_lt)] at h
  simpa [leBytes, beBytes] using h

/-- **The round trip.** An encoded frame decodes to itself, whatever stands behind it. -/
lemma decodeFrame_encode {f : Frame} (hf : f.payload.length ≤ maxFramePayload) (rest : Bytes) :
    decodeFrame (f.encode ++ rest) = .item f rest := by
  have hlength := leNat_of_leBytes_two hf
  have hid := leNat_of_leBytes_four f.streamId
  have hbytes : f.encode ++ rest = version :: f.cmd :: UInt8.ofNat f.payload.length ::
      UInt8.ofNat (f.payload.length / 256) :: UInt8.ofNat f.streamId.toNat ::
      UInt8.ofNat (f.streamId.toNat / 256) :: UInt8.ofNat (f.streamId.toNat / 256 ^ 2) ::
      UInt8.ofNat (f.streamId.toNat / 256 ^ 3) :: (f.payload ++ rest) := by
    simp [Frame.encode, encode, leBytes, beBytes]
  have hmax : ¬ maxFramePayload < f.payload.length := Nat.not_lt.mpr hf
  have hbody : ¬ (f.payload ++ rest).length < f.payload.length := by simp
  rw [hbytes]
  simp only [decodeFrame, hlength, hid, if_neg hmax, if_neg hbody, ne_eq, not_true_eq_false,
    if_false, List.take_left, List.drop_left]
  simp

/-- A concatenation of encoded frames is drained into those frames. -/
lemma drain_encoded {frames : List Frame}
    (hframes : ∀ f ∈ frames, f.payload.length ≤ maxFramePayload) (inner : σ) :
    drain decoder route (frames.flatMap Frame.encode) inner =
      (.ok [], frames.foldl route inner) := by
  have hround : ∀ f : Frame, f.payload.length ≤ maxFramePayload → ∀ rest,
      decoder.decode (f.encode ++ rest) = .item f rest := fun f hf rest => decodeFrame_encode hf rest
  rw [← List.append_nil (frames.flatMap Frame.encode), drain_flatMap hround hframes [] inner]
  exact drain_incomplete decodeFrame_nil

/-! ## The result -/

/-- The loop of `dispatch` goes on only by taking a frame off the buffer, and cannot do so for
ever. -/
lemma dispatch_wellFounded :
    WellFounded (fun rest buf : Bytes => ∃ f, decodeFrame buf = .item f rest) := by
  refine Subrelation.wf (fun h => ?_) (measure List.length).wf
  obtain ⟨f, hf⟩ := h
  exact decoder.shorter hf

lemma eight_mul_length_items (buf : Bytes) :
    (items decoder buf).length * headerSize ≤ buf.length := by
  refine length_items_mul_le (fun buf f rest h => ?_) buf
  have := length_of_decodeFrame h
  omega

/-- **Reassembly does not depend on chunking.** Whatever is done with a frame: the chunks of a byte
string are decoded and dispatched like the byte string in one piece; `dispatch` ends on every
buffer, having acted on at most one frame for every eight bytes; and a concatenation of encoded
frames, however cut, is decoded into those frames with nothing left over. -/
theorem reassembly_independent_of_chunking (route : σ → Frame → σ) (inner : σ) :
    (∀ chunks : List Bytes,
      receiveChunks route inner chunks = receiveChunks route inner [chunks.flatten]) ∧
    (WellFounded (fun rest buf : Bytes => ∃ f, decodeFrame buf = .item f rest) ∧
      ∀ buf : Bytes, ∃ frames : List Frame, frames.length * headerSize ≤ buf.length ∧
        (dispatch route buf inner).2.2 = frames.foldl route inner) ∧
    (∀ frames : List Frame, (∀ f ∈ frames, f.payload.length ≤ maxFramePayload) →
      ∀ chunks : List Bytes, chunks.flatten = frames.flatMap Frame.encode →
        receiveChunks route inner chunks =
          { buf := [], inner := frames.foldl route inner, problem := none }) := by
  refine ⟨fun chunks => ?_, ⟨dispatch_wellFounded, fun buf => ?_⟩,
    fun frames hframes chunks hcut => ?_⟩
  · rw [receiveChunks_eq, receiveChunks_eq, List.flatten_cons, List.flatten_nil, List.append_nil]
  · refine ⟨items decoder buf, eight_mul_length_items buf, ?_⟩
    rw [← drain_snd buf inner, dispatch]
    cases hdrain : drain decoder route buf inner with
    | mk verdict inner' => cases verdict <;> rfl
  · rw [receiveChunks_eq, hcut, drain_encoded hframes]
    rfl

/-- The three frames of the crate's own test, arriving one byte at a time. -/
theorem reassembly_bytewise :
    receiveChunks (fun seen f => seen ++ [f]) []
        ((encode cmdPsh 1 [102, 105, 114, 115, 116] ++ control cmdFin 1 ++
          encode cmdPsh 3 [115, 101, 99]).map (fun b => [b])) =
      { buf := []
        inner := [⟨cmdPsh, 1, [102, 105, 114, 115, 116]⟩, ⟨cmdFin, 1, []⟩,
          ⟨cmdPsh, 3, [115, 101, 99]⟩]
        problem := none } :=
  (reassembly_independent_of_chunking (fun seen f => seen ++ [f]) []).2.2
    [⟨cmdPsh, 1, [102, 105, 114, 115, 116]⟩, ⟨cmdFin, 1, []⟩, ⟨cmdPsh, 3, [115, 101, 99]⟩]
    (by decide) _ (by decide)

end SsmBridge.Smux
