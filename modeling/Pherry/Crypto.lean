import Pherry.Js

/-!
# The primitives the packages import

X25519, HKDF, HMAC and SHA-256 come from `@noble`; every function that uses them takes them as a
`Crypto`. What the packages write themselves, `constantTimeEqual`, is defined here.
-/

namespace Pherry

/-- Byte strings of length 32: keys, nonces and MACs. -/
abbrev Bytes32 := { bytes : Bytes // bytes.length = 32 }

/-- Thirty-two copies of one byte. -/
def Bytes32.repeat (b : UInt8) : Bytes32 := ⟨List.replicate 32 b, List.length_replicate⟩

/-- The imported primitives. `getSharedSecret` is `none` where `@noble` throws: an invalid or
low-order public key. -/
structure Crypto where
  getPublicKey : Bytes → Bytes32
  getSharedSecret : Bytes → Bytes → Option Bytes
  hkdf : Bytes → Bytes → Bytes → ℕ → Bytes
  hmac : Bytes → Bytes → Bytes
  sha256 : Bytes → Bytes

/-- Equality of byte arrays whose running time does not depend on where they differ. -/
def constantTimeEqual (a b : Bytes) : Bool :=
  if a.length ≠ b.length then false
  else (List.zipWith (fun x y => x ^^^ y) a b).foldl (fun diff x => diff ||| x) 0 = 0

lemma or_eq_zero {a b : UInt8} : a ||| b = 0 ↔ a = 0 ∧ b = 0 := by
  rw [← UInt8.toBitVec_inj, ← UInt8.toBitVec_inj, ← UInt8.toBitVec_inj]
  exact BitVec.or_eq_zero_iff

lemma xor_eq_zero {a b : UInt8} : a ^^^ b = 0 ↔ a = b := by
  rw [← UInt8.toBitVec_inj, ← UInt8.toBitVec_inj]
  exact BitVec.xor_eq_zero_iff

lemma foldl_or_eq_zero (l : List UInt8) (d : UInt8) :
    l.foldl (fun diff x => diff ||| x) d = 0 ↔ d = 0 ∧ ∀ x ∈ l, x = 0 := by
  induction l generalizing d with
  | nil => simp
  | cons x l ih =>
    rw [List.foldl_cons, ih, or_eq_zero, List.forall_mem_cons, and_assoc]

lemma forall_zipWith_xor {a b : Bytes} (h : a.length = b.length) :
    (∀ x ∈ List.zipWith (fun x y => x ^^^ y) a b, x = 0) ↔ a = b := by
  induction a generalizing b with
  | nil =>
    have hb : b = [] := List.eq_nil_of_length_eq_zero h.symm
    simp [hb]
  | cons x a ih =>
    cases b with
    | nil => simp at h
    | cons y b =>
      rw [List.zipWith_cons_cons, List.forall_mem_cons, xor_eq_zero, ih (by simpa using h),
        List.cons.injEq]

lemma constantTimeEqual_iff {a b : Bytes} : constantTimeEqual a b = true ↔ a = b := by
  unfold constantTimeEqual
  by_cases h : a.length = b.length
  · rw [if_neg (by simpa using h), decide_eq_true_iff, foldl_or_eq_zero, forall_zipWith_xor h]
    simp
  · rw [if_pos h]
    simp only [Bool.false_eq_true, false_iff]
    rintro rfl
    exact h rfl

end Pherry
