import Pherry.Lib.Chunks
import Pherry.RelayCore.Messages

/-!
# Outer framing

`OuterFrameReader` is the receive side of `u32_BE(len) || JSON`: a list of chunks and their total
length, read across chunk boundaries. Its length field is right by construction, and every
operation is described by what it does to `bytes`, the concatenation of the chunks.
-/

namespace Pherry.RelayCore

open Lib

/-- `OUTER_LENGTH_PREFIX_BYTES`. -/
def outerLengthPrefixBytes : ℕ := 4

/-- `MAX_OUTER_MESSAGE_BYTES`. -/
def maxOuterMessageBytes : ℕ := 16 * 1024

/-- `MAX_PREHANDLER_RAW_BYTES`. -/
def maxPrehandlerRawBytes : ℕ := 16 * 1024

/-- The incremental receive side of the outer framing. -/
structure OuterFrameReader where
  chunks : List Bytes
  length : ℕ
  length_eq : length = chunks.flatten.length

namespace OuterFrameReader

/-- The reader that has received nothing. -/
def empty : OuterFrameReader := ⟨[], 0, rfl⟩

/-- The buffered, unconsumed bytes. -/
def bytes (r : OuterFrameReader) : Bytes := r.chunks.flatten

lemma length_eq_length_bytes (r : OuterFrameReader) : r.length = r.bytes.length := r.length_eq

/-- Append an inbound chunk; an empty one is ignored. -/
def push (r : OuterFrameReader) (chunk : Bytes) : OuterFrameReader :=
  if chunk.length = 0 then r
  else
    { chunks := r.chunks ++ [chunk]
      length := r.length + chunk.length
      length_eq := by simp [r.length_eq] }

/-- The big-endian u32 at the front, not consumed. -/
def peekUint32BE (r : OuterFrameReader) : ℕ := bigEndian (r.chunks.flatten.take 4) % 2 ^ 32

/-- Consume the first `n` bytes. The output array has length `n`: what is not buffered stays 0. -/
def take (r : OuterFrameReader) (n : ℕ) : Bytes × OuterFrameReader :=
  ((takeChunks n r.chunks).1 ++ List.replicate (n - (takeChunks n r.chunks).1.length) 0,
    { chunks := (takeChunks n r.chunks).2
      length := r.length - (takeChunks n r.chunks).1.length
      length_eq := by
        rw [takeChunks_snd_flatten, takeChunks_fst, r.length_eq, List.length_drop, List.length_take]
        omega })

/-- The next complete payload and the reader behind it, `none` while it is not all buffered, an
error when the prefix declares one over `MAX_OUTER_MESSAGE_BYTES`. -/
def next (r : OuterFrameReader) : Except Unit (Option (Bytes × OuterFrameReader)) :=
  if r.length < outerLengthPrefixBytes then .ok none
  else if r.peekUint32BE > maxOuterMessageBytes then .error ()
  else if r.length < outerLengthPrefixBytes + r.peekUint32BE then .ok none
  else .ok (some ((r.take outerLengthPrefixBytes).2.take r.peekUint32BE))

/-- Every buffered byte, and the emptied reader. -/
def drainRemaining (r : OuterFrameReader) : Bytes × OuterFrameReader := r.take r.length

/-! ## The operations on the buffered bytes -/

@[simp] lemma bytes_empty : empty.bytes = [] := rfl

@[simp] lemma bytes_push (r : OuterFrameReader) (chunk : Bytes) :
    (r.push chunk).bytes = r.bytes ++ chunk := by
  unfold push
  split
  · next h => simp [List.eq_nil_of_length_eq_zero h]
  · simp [bytes]

lemma take_fst (r : OuterFrameReader) {n : ℕ} (h : n ≤ r.length) :
    (r.take n).1 = r.bytes.take n := by
  have hlen : (r.chunks.flatten.take n).length = n := by
    rw [List.length_take, ← r.length_eq]; omega
  simp only [take, takeChunks_fst, bytes]
  rw [hlen, Nat.sub_self, List.replicate_zero, List.append_nil]

@[simp] lemma bytes_take_snd (r : OuterFrameReader) (n : ℕ) :
    (r.take n).2.bytes = r.bytes.drop n := takeChunks_snd_flatten n r.chunks

lemma drainRemaining_fst (r : OuterFrameReader) : r.drainRemaining.1 = r.bytes := by
  rw [drainRemaining, r.take_fst (Nat.le_refl _), r.length_eq_length_bytes, List.take_length]

/-- A payload that was read is the bytes behind its prefix, and the reader moves past both. -/
lemma next_eq_some {r r' : OuterFrameReader} {payload : Bytes}
    (h : r.next = .ok (some (payload, r'))) :
    4 + payload.length ≤ r.bytes.length ∧ payload = (r.bytes.drop 4).take payload.length ∧
      r'.bytes = r.bytes.drop (4 + payload.length) := by
  unfold next outerLengthPrefixBytes at h
  split at h
  · cases h
  · next hshort =>
    split at h
    · cases h
    · split at h
      · cases h
      · next hlen =>
        simp only [Except.ok.injEq, Option.some.injEq] at h
        have hbuf : r.length = r.bytes.length := r.length_eq_length_bytes
        have hrest : (r.take 4).2.length = r.bytes.length - 4 := by
          rw [length_eq_length_bytes, bytes_take_snd, List.length_drop]
        have hp : payload = (r.bytes.drop 4).take r.peekUint32BE := by
          have hfst : ((r.take 4).2.take r.peekUint32BE).1 = payload := congrArg Prod.fst h
          rw [take_fst _ (by omega), bytes_take_snd] at hfst
          exact hfst.symm
        have hplen : payload.length = r.peekUint32BE := by
          rw [hp, List.length_take, List.length_drop]; omega
        refine ⟨by omega, by rw [hplen]; exact hp, ?_⟩
        have hsnd : ((r.take 4).2.take r.peekUint32BE).2 = r' := congrArg Prod.snd h
        rw [← hsnd, bytes_take_snd, bytes_take_snd, List.drop_drop, hplen]

lemma length_of_next {r r' : OuterFrameReader} {payload : Bytes}
    (h : r.next = .ok (some (payload, r'))) : r'.length + 4 ≤ r.length := by
  obtain ⟨hle, -, hr'⟩ := next_eq_some h
  rw [r.length_eq_length_bytes, r'.length_eq_length_bytes, hr', List.length_drop]
  omega

end OuterFrameReader

/-- A payload behind its length prefix, as `encodeOuterMessage` frames it. -/
def outerFrame (payload : Bytes) : Bytes := uint32BE payload.length ++ payload

namespace OuterFrameReader

lemma length_outerFrame (payload : Bytes) : (outerFrame payload).length = 4 + payload.length := by
  rw [outerFrame, List.length_append, length_uint32BE]

lemma peekUint32BE_of_outerFrame {r : OuterFrameReader} {payload future rest : Bytes}
    (hcap : payload.length ≤ maxOuterMessageBytes)
    (hbytes : r.bytes ++ future = outerFrame payload ++ rest) (hlength : 4 ≤ r.bytes.length) :
    r.peekUint32BE = payload.length := by
  have hprefix : r.bytes.take 4 = uint32BE payload.length := by
    have htake := congrArg (List.take 4) hbytes
    rw [List.take_append_of_le_length hlength, outerFrame, List.append_assoc,
      List.take_append_of_le_length (Nat.le_of_eq (length_uint32BE _).symm)] at htake
    rw [htake, List.take_of_length_le (Nat.le_of_eq (length_uint32BE _))]
  unfold maxOuterMessageBytes at hcap
  rw [peekUint32BE, ← bytes, hprefix, bigEndian_uint32BE, Nat.mod_mod, Nat.mod_eq_of_lt (by omega)]

lemma next_outerFrame {r : OuterFrameReader} {payload rest : Bytes}
    (hcap : payload.length ≤ maxOuterMessageBytes) (hbytes : r.bytes = outerFrame payload ++ rest) :
    ∃ r', r.next = .ok (some (payload, r')) ∧ r'.bytes = rest := by
  have hlength : r.bytes.length = 4 + payload.length + rest.length := by
    rw [hbytes, List.length_append, length_outerFrame]
  have hbuffered := r.length_eq_length_bytes
  have hpeek : r.peekUint32BE = payload.length :=
    peekUint32BE_of_outerFrame hcap (by rw [hbytes, List.append_nil]) (by omega)
  have hread : (r.take 4).2.bytes = payload ++ rest := by
    rw [bytes_take_snd, hbytes, outerFrame, List.append_assoc, List.drop_left' (length_uint32BE _)]
  refine ⟨((r.take 4).2.take payload.length).2, ?_, ?_⟩
  · have hfst : ((r.take 4).2.take payload.length).1 = payload := by
      rw [take_fst _ (by rw [length_eq_length_bytes, hread, List.length_append]; omega), hread,
        List.take_left]
    rw [next, outerLengthPrefixBytes, if_neg (by omega), hpeek, if_neg (by omega), if_neg (by omega)]
    exact congrArg (fun read => Except.ok (some read)) (Prod.ext hfst rfl)
  · rw [bytes_take_snd, hread, List.drop_left]

lemma next_of_incomplete {r : OuterFrameReader} {payload future rest : Bytes}
    (hcap : payload.length ≤ maxOuterMessageBytes)
    (hbytes : r.bytes ++ future = outerFrame payload ++ rest)
    (hshort : r.bytes.length < (outerFrame payload).length) : r.next = .ok none := by
  have hbuffered := r.length_eq_length_bytes
  rw [length_outerFrame] at hshort
  rw [next, outerLengthPrefixBytes]
  split
  · rfl
  · next hprefix =>
    have hpeek := peekUint32BE_of_outerFrame hcap hbytes (by omega)
    rw [hpeek, if_neg (by omega), if_pos (by omega)]

lemma next_of_bytes_nil {r : OuterFrameReader} (h : r.bytes = []) : r.next = .ok none := by
  have hbuffered := r.length_eq_length_bytes
  rw [h] at hbuffered
  rw [next, outerLengthPrefixBytes, if_pos (by rw [hbuffered]; exact Nat.succ_pos _)]

end OuterFrameReader

/-- The payloads a reader yields, decoded: up to the first that is incomplete, over-long or
undecodable. -/
def OuterFrameReader.messages (decodeOuterMessage : Bytes → Option OuterMessage) :
    ℕ → OuterFrameReader → List OuterMessage
  | 0, _ => []
  | fuel + 1, r =>
    match r.next with
    | .error _ => []
    | .ok none => []
    | .ok (some (payload, r')) =>
      match decodeOuterMessage payload with
      | none => []
      | some message => message :: OuterFrameReader.messages decodeOuterMessage fuel r'

end Pherry.RelayCore
