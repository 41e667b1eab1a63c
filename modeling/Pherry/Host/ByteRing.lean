import Mathlib.Tactic.NormNum
import Pherry.Js
import Pherry.Lib.Within

/-!
# The ring of raw output

`ByteRing` keeps the newest bytes of a terminal. Whole chunks are evicted from the front, and a chunk that is larger
than the cap is cut to its tail.
-/

namespace Pherry.Host

open Lib

/-! ## `ring.ts` -/

/-- `ByteRing`. -/
structure ByteRing where
  chunks : List Bytes
  max : ℕ
  bytes : ℕ

namespace ByteRing

/-- The constructor. -/
def make (maxBytes : ℚ) : Except String ByteRing :=
  if maxBytes.den ≠ 1 ∨ maxBytes ≤ 0 then .error "ByteRing: maxBytes must be a positive integer"
  else .ok { chunks := [], max := maxBytes.num.toNat, bytes := 0 }

/-- `maxBytes`. -/
def maxBytes (r : ByteRing) : ℕ := r.max

/-- `byteLength`. -/
def byteLength (r : ByteRing) : ℕ := r.bytes

/-- The loop that evicts whole chunks while there is more than one. -/
def evict (max : ℕ) : List Bytes → ℕ → List Bytes × ℕ
  | removed :: next :: rest, bytes =>
    if max < bytes then evict max (next :: rest) (bytes - removed.length) else (removed :: next :: rest, bytes)
  | chunks, bytes => (chunks, bytes)

/-- `append`. -/
def append (r : ByteRing) (chunk : Bytes) : ByteRing :=
  if chunk.length = 0 then r
  else
    match evict r.max (r.chunks ++ [chunk]) (r.bytes + chunk.length) with
    | ([only], bytes) =>
      if r.max < bytes then
        let tail := only.drop (only.length - r.max)
        { r with chunks := [tail], bytes := tail.length }
      else { r with chunks := [only], bytes }
    | (chunks, bytes) => { r with chunks, bytes }

/-- `out.set(chunk, offset)`, which throws where the chunk does not fit. -/
def set (out chunk : Bytes) (offset : ℕ) : Option Bytes :=
  if offset + chunk.length ≤ out.length then
    some (out.take offset ++ chunk ++ out.drop (offset + chunk.length))
  else none

/-- The loop of `concat`. -/
def setAll : List Bytes → Bytes → ℕ → Option Bytes
  | [], out, _ => some out
  | chunk :: rest, out, offset => (set out chunk offset).bind fun out => setAll rest out (offset + chunk.length)

/-- `concat`. -/
def concat (r : ByteRing) : Option Bytes := setAll r.chunks (List.replicate r.bytes 0) 0

/-- `clear`. -/
def clear (r : ByteRing) : ByteRing := { r with chunks := [], bytes := 0 }

end ByteRing

/-! ## What a ring is meant to keep -/

/-- The chunks that are not empty. -/
def nonEmptyChunks (chunks : List Bytes) : List Bytes := chunks.filter fun chunk => !chunk.isEmpty

/-- What is kept of some chunks: the tail of the newest where it is too large alone, and else the longest suffix that
fits. -/
def keptChunks (capacity : ℕ) (chunks : List Bytes) : List Bytes :=
  match (nonEmptyChunks chunks).getLast? with
  | none => []
  | some newest =>
    if capacity < newest.length then [newest.drop (newest.length - capacity)]
    else within List.length capacity (nonEmptyChunks chunks)

/-- The bytes that are kept. -/
def kept (capacity : ℕ) (chunks : List Bytes) : Bytes := (keptChunks capacity chunks).flatten

example : kept 4 [[1, 2], [3], [], [4, 5]] = [3, 4, 5] := by decide

namespace ByteRing

/-! ## One chunk -/

lemma evict_append (max : ℕ) (chunks : List Bytes) (newest : Bytes) :
    evict max (chunks ++ [newest]) (total List.length (chunks ++ [newest])) =
      (if max < newest.length then ([newest], newest.length)
       else (within List.length max (chunks ++ [newest]),
        total List.length (within List.length max (chunks ++ [newest])))) := by
  induction chunks with
  | nil =>
    rw [List.nil_append, evict]
    · split
      · simp
      · next hfits => simp [within_of_le (show total List.length [newest] ≤ max by simpa using hfits)]
    · intro removed next rest h
      simp at h
  | cons removed chunks ih =>
    obtain ⟨next, rest, hrest⟩ : ∃ next rest, chunks ++ [newest] = next :: rest :=
      List.exists_cons_of_ne_nil (by simp)
    rw [List.cons_append, hrest, evict, ← hrest]
    split
    · next hover =>
      have hbytes : total List.length (removed :: (chunks ++ [newest])) - removed.length =
          total List.length (chunks ++ [newest]) := by
        rw [total_cons, Nat.add_sub_cancel_left]
      have hwithin : within List.length max (removed :: (chunks ++ [newest])) =
          within List.length max (chunks ++ [newest]) := by
        rw [within, if_neg (by omega)]
      rw [hbytes, ih, hwithin]
    · next hfits =>
      have hnewest : ¬ max < newest.length := by
        simp only [total_cons, total_append, total_nil] at hfits
        omega
      rw [if_neg hnewest, within_of_le (by omega)]

/-- A ring holds what is meant to be kept of a history, and counts it. -/
structure Holds (r : ByteRing) (history : List Bytes) : Prop where
  chunks : r.chunks = keptChunks r.max history
  bytes : r.bytes = total List.length r.chunks

lemma nonEmptyChunks_append (history : List Bytes) (chunk : Bytes) :
    nonEmptyChunks (history ++ [chunk]) =
      if chunk.length = 0 then nonEmptyChunks history else nonEmptyChunks history ++ [chunk] := by
  rw [nonEmptyChunks, List.filter_append]
  cases chunk with
  | nil => simp [nonEmptyChunks]
  | cons b chunk => simp [nonEmptyChunks]

lemma within_keptChunks {capacity : ℕ} {chunk : Bytes} (hne : chunk.length ≠ 0) (hfits : chunk.length ≤ capacity)
    (history : List Bytes) : within List.length capacity (keptChunks capacity history ++ [chunk]) =
      within List.length capacity (nonEmptyChunks history ++ [chunk]) := by
  have hsingle : within List.length capacity [chunk] = [chunk] := within_of_le (by simpa using hfits)
  unfold keptChunks
  cases hlast : (nonEmptyChunks history).getLast? with
  | none =>
    rw [List.getLast?_eq_none_iff.1 hlast]
  | some newest =>
    dsimp only
    split
    · next hheavy =>
      -- the tail fills the ring, so nothing fits beside it
      obtain ⟨before, hbefore⟩ := List.getLast?_eq_some_iff.1 hlast
      have hover : ¬ total List.length [newest.drop (newest.length - capacity), chunk] ≤ capacity := by
        simp only [total_cons, total_nil, List.length_drop]
        omega
      rw [← within_append (nonEmptyChunks history), hbefore, within_append_heavy hheavy, List.nil_append, hsingle,
        List.singleton_append, within, if_neg hover, hsingle]
    · exact within_append _ _

lemma Holds.append {r : ByteRing} {history : List Bytes} (h : r.Holds history) (chunk : Bytes) :
    (r.append chunk).Holds (history ++ [chunk]) ∧ (r.append chunk).max = r.max := by
  by_cases hempty : chunk.length = 0
  · have hsame : keptChunks r.max (history ++ [chunk]) = keptChunks r.max history := by
      rw [keptChunks, keptChunks, nonEmptyChunks_append, if_pos hempty]
    rw [ByteRing.append, if_pos hempty]
    exact ⟨⟨by rw [hsame, h.chunks], h.bytes⟩, rfl⟩
  · have hkept : keptChunks r.max (history ++ [chunk]) =
        if r.max < chunk.length then [chunk.drop (chunk.length - r.max)]
        else within List.length r.max (nonEmptyChunks history ++ [chunk]) := by
      rw [keptChunks, nonEmptyChunks_append, if_neg hempty, List.getLast?_concat]
    have hbytes : r.bytes + chunk.length = total List.length (r.chunks ++ [chunk]) := by
      rw [total_append, h.bytes, total_cons, total_nil, Nat.add_zero]
    rw [ByteRing.append, if_neg hempty, hbytes, evict_append]
    by_cases hheavy : r.max < chunk.length
    · rw [if_pos hheavy] at hkept ⊢
      dsimp only
      rw [if_pos hheavy]
      exact ⟨⟨hkept.symm, by simp⟩, rfl⟩
    · rw [if_neg hheavy] at hkept ⊢
      have hwithin : within List.length r.max (r.chunks ++ [chunk]) =
          within List.length r.max (nonEmptyChunks history ++ [chunk]) := by
        rw [h.chunks]
        exact within_keptChunks hempty (by omega) history
      have hle := @total_within_le _ List.length r.max (r.chunks ++ [chunk])
      split
      · next only bytes heq =>
        obtain ⟨honly, rfl⟩ := Prod.mk.inj heq
        rw [if_neg (by omega)]
        exact ⟨⟨by rw [hkept, ← hwithin, honly], by simp [honly]⟩, rfl⟩
      · next chunks bytes hmany heq =>
        obtain ⟨rfl, rfl⟩ := Prod.mk.inj heq
        exact ⟨⟨by rw [hkept, hwithin], rfl⟩, rfl⟩

lemma Holds.clear (r : ByteRing) : r.clear.Holds [] := ⟨rfl, rfl⟩

/-! ## A whole history -/

lemma holds_of_make {maxBytes : ℚ} {r : ByteRing} (h : make maxBytes = .ok r) : r.Holds [] := by
  unfold make at h
  split at h
  · cases h
  · cases h
    exact ⟨rfl, rfl⟩

lemma Holds.foldl {r : ByteRing} {history : List Bytes} (h : r.Holds history) (chunks : List Bytes) :
    (chunks.foldl ByteRing.append r).Holds (history ++ chunks) ∧ (chunks.foldl ByteRing.append r).max = r.max := by
  induction chunks generalizing r history with
  | nil => exact ⟨by simpa using h, rfl⟩
  | cons chunk chunks ih =>
    obtain ⟨hstep, hmax⟩ := h.append chunk
    obtain ⟨hrest, hmaxRest⟩ := ih hstep
    rw [List.foldl_cons]
    exact ⟨by simpa using hrest, hmaxRest.trans hmax⟩

lemma setAll_eq (chunks : List Bytes) (front : Bytes) :
    setAll chunks (front ++ List.replicate (total List.length chunks) 0) front.length =
      some (front ++ chunks.flatten) := by
  induction chunks generalizing front with
  | nil => simp [setAll]
  | cons chunk chunks ih =>
    have hset : set (front ++ List.replicate (total List.length (chunk :: chunks)) 0) chunk front.length =
        some (front ++ chunk ++ List.replicate (total List.length chunks) 0) := by
      rw [set, if_pos (by simp), List.take_left, List.drop_append]
      simp
    have hrest := ih (front ++ chunk)
    rw [List.length_append] at hrest
    rw [setAll, hset, Option.bind_some, hrest, List.flatten_cons, List.append_assoc]

lemma Holds.concat {r : ByteRing} {history : List Bytes} (h : r.Holds history) :
    r.concat = some (kept r.max history) ∧ r.byteLength = (kept r.max history).length := by
  have hconcat := setAll_eq r.chunks []
  rw [List.nil_append, List.length_nil, List.nil_append, ← h.bytes] at hconcat
  have hlength : (kept r.max history).length = total List.length r.chunks := by
    rw [kept, ← h.chunks, List.length_flatten, total]
  exact ⟨by rw [ByteRing.concat, hconcat, kept, ← h.chunks], by rw [byteLength, hlength, h.bytes]⟩

/-- A ring keeps a suffix of what was appended, and counts it. -/
theorem concat_appended {maxBytes : ℚ} {ring : ByteRing} (h : make maxBytes = .ok ring) (chunks : List Bytes) :
    (chunks.foldl ByteRing.append ring).concat = some (kept ring.maxBytes chunks) ∧
      (chunks.foldl ByteRing.append ring).byteLength = (kept ring.maxBytes chunks).length := by
  obtain ⟨hholds, hmax⟩ := (holds_of_make h).foldl chunks
  have hconcat := hholds.concat
  rw [hmax, List.nil_append] at hconcat
  exact hconcat

theorem concat_appended_four :
    ([[1, 2, 3], [], [4, 5, 6, 7, 8], [9]].foldl ByteRing.append ⟨[], 4, 0⟩).concat =
        some (kept 4 [[1, 2, 3], [], [4, 5, 6, 7, 8], [9]]) ∧
      ([[1, 2, 3], [], [4, 5, 6, 7, 8], [9]].foldl ByteRing.append ⟨[], 4, 0⟩).byteLength =
        (kept 4 [[1, 2, 3], [], [4, 5, 6, 7, 8], [9]]).length :=
  @concat_appended 4 ⟨[], 4, 0⟩ (if_neg (by norm_num)) _

end ByteRing

end Pherry.Host
