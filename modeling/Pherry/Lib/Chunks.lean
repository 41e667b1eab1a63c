import Mathlib.Algebra.Group.Nat.Defs
import Mathlib.Data.List.Basic

/-!
# Lists of chunks

A byte queue keeps what it received as a list of chunks and reads across their boundaries. The
functions here are such reads; the lemmas say they depend on the concatenation only.
-/

namespace Pherry.Lib

variable {α : Type*}

/-- Take up to `n` leading elements off a list of chunks: what was taken, and the chunks left. -/
def takeChunks : ℕ → List (List α) → List α × List (List α)
  | _, [] => ([], [])
  | n, head :: rest =>
    if n = 0 then ([], head :: rest)
    else if head.length ≤ n then
      (head ++ (takeChunks (n - head.length) rest).1, (takeChunks (n - head.length) rest).2)
    else (head.take n, head.drop n :: rest)

lemma takeChunks_fst (n : ℕ) (cs : List (List α)) :
    (takeChunks n cs).1 = cs.flatten.take n := by
  induction cs generalizing n with
  | nil => simp [takeChunks]
  | cons head rest ih =>
    rw [takeChunks, List.flatten_cons]
    by_cases hn : n = 0
    · simp [hn]
    · rw [if_neg hn]
      by_cases hle : head.length ≤ n
      · rw [if_pos hle, List.take_append, List.take_of_length_le hle, ih]
      · rw [if_neg hle, List.take_append_of_le_length (by omega)]

lemma takeChunks_snd_flatten (n : ℕ) (cs : List (List α)) :
    (takeChunks n cs).2.flatten = cs.flatten.drop n := by
  induction cs generalizing n with
  | nil => simp [takeChunks]
  | cons head rest ih =>
    rw [takeChunks, List.flatten_cons]
    by_cases hn : n = 0
    · simp [hn]
    · rw [if_neg hn]
      by_cases hle : head.length ≤ n
      · rw [if_pos hle, List.drop_append, List.drop_eq_nil_of_le hle, List.nil_append, ih]
      · rw [if_neg hle, List.drop_append_of_le_length (by omega), List.flatten_cons]

/-- The big-endian number the leading bytes spell, as the peek loop accumulates it. -/
def bigEndian (bytes : List UInt8) : ℕ := bytes.foldl (fun value byte => value * 256 + byte.toNat) 0

lemma foldl_bigEndian_lt (bytes : List UInt8) (v : ℕ) :
    bytes.foldl (fun value byte => value * 256 + byte.toNat) v < (v + 1) * 256 ^ bytes.length := by
  induction bytes generalizing v with
  | nil => simp
  | cons b bs ih =>
    rw [List.foldl_cons, List.length_cons, Nat.pow_succ]
    have hb : b.toNat < 256 := b.toNat_lt
    calc bs.foldl (fun value byte => value * 256 + byte.toNat) (v * 256 + b.toNat)
        < (v * 256 + b.toNat + 1) * 256 ^ bs.length := ih _
      _ ≤ ((v + 1) * 256) * 256 ^ bs.length := Nat.mul_le_mul_right _ (by omega)
      _ = (v + 1) * (256 ^ bs.length * 256) := by rw [Nat.mul_assoc, Nat.mul_comm 256]

lemma bigEndian_lt (bytes : List UInt8) : bigEndian bytes < 256 ^ bytes.length := by
  simpa [bigEndian] using foldl_bigEndian_lt bytes 0

/-- The four big-endian bytes of `n`, as `DataView.setUint32` writes them: `n` modulo `2 ^ 32`. -/
def uint32BE (n : ℕ) : List UInt8 :=
  [UInt8.ofNat (n / 2 ^ 24), UInt8.ofNat (n / 2 ^ 16), UInt8.ofNat (n / 2 ^ 8), UInt8.ofNat n]

@[simp] lemma length_uint32BE (n : ℕ) : (uint32BE n).length = 4 := rfl

lemma bigEndian_uint32BE (n : ℕ) : bigEndian (uint32BE n) = n % 2 ^ 32 := by
  simp only [bigEndian, uint32BE, List.foldl_cons, List.foldl_nil, UInt8.toNat_ofNat']
  omega

lemma foldl_bigEndian (bytes : List UInt8) (v : ℕ) :
    bytes.foldl (fun value byte => value * 256 + byte.toNat) v
      = v * 256 ^ bytes.length + bigEndian bytes := by
  induction bytes generalizing v with
  | nil => simp [bigEndian]
  | cons b bs ih =>
    have htail := ih (v * 256 + b.toNat)
    have hwhole := ih (0 * 256 + b.toNat)
    rw [bigEndian, List.foldl_cons, List.foldl_cons, htail, hwhole, List.length_cons, Nat.pow_succ,
      Nat.zero_mul, Nat.zero_add, Nat.add_mul, Nat.mul_assoc, Nat.mul_comm 256, Nat.add_assoc]

lemma bigEndian_append (l m : List UInt8) :
    bigEndian (l ++ m) = bigEndian l * 256 ^ m.length + bigEndian m := by
  rw [bigEndian, List.foldl_append, foldl_bigEndian]
  rfl

/-- The little-endian number a list of bytes spells. -/
def littleEndian : List UInt8 → ℕ
  | [] => 0
  | b :: bytes => b.toNat + 256 * littleEndian bytes

/-- The two little-endian bytes of `n`, as `DataView.setUint16` writes them. -/
def uint16LE (n : ℕ) : List UInt8 := [UInt8.ofNat n, UInt8.ofNat (n / 2 ^ 8)]

/-- The four little-endian bytes of `n`, as `DataView.setUint32` writes them. -/
def uint32LE (n : ℕ) : List UInt8 :=
  [UInt8.ofNat n, UInt8.ofNat (n / 2 ^ 8), UInt8.ofNat (n / 2 ^ 16), UInt8.ofNat (n / 2 ^ 24)]

lemma littleEndian_uint16LE (n : ℕ) : littleEndian (uint16LE n) = n % 2 ^ 16 := by
  simp only [littleEndian, uint16LE, UInt8.toNat_ofNat']
  omega

lemma littleEndian_uint32LE (n : ℕ) : littleEndian (uint32LE n) = n % 2 ^ 32 := by
  simp only [littleEndian, uint32LE, UInt8.toNat_ofNat']
  omega

/-- A list cut into chunks of `n`, the last of which may be shorter; `fuel` bounds their number. -/
def cut (n : ℕ) : ℕ → List α → List (List α)
  | 0, _ => []
  | fuel + 1, l => if l.isEmpty then [] else l.take n :: cut n fuel (l.drop n)

/-- A list cut into chunks of `n`. -/
def chunksOf (n : ℕ) (l : List α) : List (List α) := cut n l.length l

lemma flatten_cut {n : ℕ} (hn : 0 < n) {fuel : ℕ} {l : List α} (h : l.length ≤ fuel) :
    (cut n fuel l).flatten = l := by
  induction fuel generalizing l with
  | zero =>
    rw [List.length_eq_zero_iff.1 (Nat.le_zero.1 h)]
    rfl
  | succ fuel ih =>
    rw [cut]
    split
    · next hnil => rw [List.isEmpty_iff.1 hnil]; rfl
    · have hdrop : (l.drop n).length ≤ fuel := by
        rw [List.length_drop]
        omega
      rw [List.flatten_cons, ih hdrop, List.take_append_drop]

lemma flatten_chunksOf {n : ℕ} (hn : 0 < n) (l : List α) : (chunksOf n l).flatten = l :=
  flatten_cut hn (Nat.le_refl _)

lemma length_cut_le {n : ℕ} (hn : 0 < n) (fuel : ℕ) (l : List α) :
    (cut n fuel l).length * n ≤ l.length + (n - 1) := by
  induction fuel generalizing l with
  | zero => simp [cut]
  | succ fuel ih =>
    rw [cut]
    split
    · simp
    · next hnil =>
      have hpos : 0 < l.length := List.length_pos_iff.2 fun heq => hnil (by rw [heq]; rfl)
      have hrest := ih (l.drop n)
      rw [List.length_drop] at hrest
      rw [List.length_cons, Nat.succ_mul]
      by_cases hle : n ≤ l.length
      · omega
      · have hzero : (cut n fuel (l.drop n)).length = 0 := by
          have hdrop : l.drop n = [] := List.drop_eq_nil_of_le (by omega)
          rw [hdrop]
          cases fuel <;> rfl
        rw [hzero]
        omega

lemma length_chunksOf_le {n : ℕ} (hn : 0 < n) (l : List α) :
    (chunksOf n l).length * n ≤ l.length + (n - 1) := length_cut_le hn _ l

end Pherry.Lib
