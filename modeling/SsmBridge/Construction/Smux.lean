import SsmBridge.Construction.Errors
import SsmBridge.Framework.BigEndian
import SsmBridge.Framework.StreamDecoder

/-!
# smux frames

The framing of `src/mux.rs`: `encode`, `decode_frame`, and the loop of `dispatch` that takes frames
off the reassembly buffer.  What is done with a frame is a parameter here, a function on a state of
the caller's choice; `Inner` and its routing are the subject of `Construction.Router`.

`decodeFrame` reads the eight header bytes off the front of the buffer as one pattern, which is the
test for `HEADER_SIZE` bytes and the reads at fixed offsets in one.
-/

namespace SsmBridge.Smux

open BigEndian

/-! ## Frames -/

def version : UInt8 := 1

/-- Fixed smux header size. -/
def headerSize : ℕ := 8

/-- Largest payload one smux frame may carry. -/
def maxFramePayload : ℕ := 32 * 1024

def cmdSyn : UInt8 := 0
def cmdFin : UInt8 := 1
def cmdPsh : UInt8 := 2
def cmdNop : UInt8 := 3

/-- One decoded frame. -/
structure Frame where
  cmd : UInt8
  streamId : UInt32
  payload : Bytes
  deriving DecidableEq

/-- The bytes of a frame. The length field is two bytes wide, whatever the payload. -/
def encode (cmd : UInt8) (streamId : UInt32) (payload : Bytes) : Bytes :=
  version :: cmd :: (leBytes 2 payload.length ++ leBytes 4 streamId.toNat ++ payload)

/-- A frame without payload. -/
def control (cmd : UInt8) (streamId : UInt32) : Bytes := encode cmd streamId []

def Frame.encode (f : Frame) : Bytes := Smux.encode f.cmd f.streamId f.payload

/-- Outcome of trying to decode from the reassembly buffer. -/
abbrev Decoded := StreamDecoder.Decoded UInt8 Frame String

/-- Decode one frame from the front of the buffer. -/
def decodeFrame : Bytes → Decoded
  | ver :: cmd :: l₀ :: l₁ :: i₀ :: i₁ :: i₂ :: i₃ :: body =>
      if ver ≠ version then .corrupt "unexpected smux version byte"
      else
        let length := leNat [l₀, l₁]
        if maxFramePayload < length then .corrupt "smux frame length exceeds the protocol maximum"
        else if body.length < length then .incomplete
        else
          .item { cmd := cmd, streamId := UInt32.ofNat (leNat [i₀, i₁, i₂, i₃])
                  payload := body.take length } (body.drop length)
  | _ => .incomplete

/-! ## Decisions at the front of the buffer are final -/

/-- A frame takes its header and its payload off the buffer. -/
lemma length_of_decodeFrame {buf rest : Bytes} {f : Frame} (h : decodeFrame buf = .item f rest) :
    rest.length + f.payload.length + headerSize = buf.length := by
  unfold decodeFrame at h
  split at h
  · next ver cmd l₀ l₁ i₀ i₁ i₂ i₃ body =>
    dsimp only at h
    split_ifs at h with hver hmax hbody
    cases h
    simp only [List.length_drop, List.length_take, List.length_cons, headerSize]
    omega
  · cases h

lemma decodeFrame_append_of_item {buf rest : Bytes} {f : Frame} (more : Bytes)
    (h : decodeFrame buf = .item f rest) : decodeFrame (buf ++ more) = .item f (rest ++ more) := by
  unfold decodeFrame at h
  split at h
  · next ver cmd l₀ l₁ i₀ i₁ i₂ i₃ body =>
    dsimp only at h
    split_ifs at h with hver hmax hbody
    cases h
    have hlen : leNat [l₀, l₁] ≤ body.length := by omega
    have hmore : ¬ (body ++ more).length < leNat [l₀, l₁] := by
      rw [List.length_append]
      omega
    simp only [List.cons_append, decodeFrame, if_neg hver, if_neg hmax, if_neg hmore,
      List.take_append_of_le_length hlen, List.drop_append_of_le_length hlen]
  · cases h

lemma decodeFrame_append_of_corrupt {buf : Bytes} {problem : String} (more : Bytes)
    (h : decodeFrame buf = .corrupt problem) : decodeFrame (buf ++ more) = .corrupt problem := by
  unfold decodeFrame at h
  split at h
  · next ver cmd l₀ l₁ i₀ i₁ i₂ i₃ body =>
    dsimp only at h
    split_ifs at h with hver hmax hbody
    · cases h
      simp only [List.cons_append, decodeFrame, if_pos hver]
    · cases h
      simp only [List.cons_append, decodeFrame, if_neg hver, if_pos hmax]
  · cases h

/-- `decode_frame` as a decoder of a stream that arrives in pieces. -/
def decoder : StreamDecoder.Decoder UInt8 Frame String where
  decode := decodeFrame
  shorter h := by
    have := length_of_decodeFrame h
    simp only [headerSize] at this
    omega
  item_append := decodeFrame_append_of_item
  corrupt_append := decodeFrame_append_of_corrupt

/-- An empty buffer holds no frame. -/
lemma decodeFrame_nil : decodeFrame [] = .incomplete := rfl

/-! ## The receive loop -/

variable {σ : Type}

/-- Drain complete frames from the buffer. A buffer found corrupt is cleared. -/
def dispatch (route : σ → Frame → σ) (buf : Bytes) (inner : σ) : Except String Unit × Bytes × σ :=
  match StreamDecoder.drain decoder route buf inner with
  | (.ok rest, inner) => (.ok (), rest, inner)
  | (.error problem, inner) => (.error problem, [], inner)

/-- What the loop of `recv_task` carries from one chunk to the next. -/
structure Reassembly (σ : Type) where
  buf : Bytes
  inner : σ
  /-- What was wrong with the framing, once that ended the loop. -/
  problem : Option String

/-- The loop before the first chunk. -/
def Reassembly.start (inner : σ) : Reassembly σ := { buf := [], inner, problem := none }

/-- One round of the loop: append the chunk to the buffer and dispatch. -/
def Reassembly.receive (route : σ → Frame → σ) (r : Reassembly σ) (chunk : Bytes) : Reassembly σ :=
  match r.problem with
  | some _ => r
  | none =>
      match dispatch route (r.buf ++ chunk) r.inner with
      | (.ok (), buf, inner) => { buf, inner, problem := none }
      | (.error problem, buf, inner) => { buf, inner, problem := some problem }

/-- The loop over the chunks of the session's output. -/
def receiveChunks (route : σ → Frame → σ) (inner : σ) (chunks : List Bytes) : Reassembly σ :=
  chunks.foldl (Reassembly.receive route) (.start inner)

end SsmBridge.Smux
