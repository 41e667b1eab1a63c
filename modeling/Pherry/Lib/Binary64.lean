import Mathlib.Data.Int.Log
import Mathlib.Data.Rat.Floor

/-!
# Doubles

The finite doubles by their values: `toDouble` rounds an exact value to the nearest double, ties to the even
one, and has none where the rounding overflows. Rounding is monotone, and exact on the integers up to `2 ^ 53`.
-/

namespace Pherry.Lib

/-! ## Rounding to an integer -/

/-- The nearest integer, the even one of two. -/
def halfEven (x : ℚ) : ℤ :=
  if x - ⌊x⌋ < 1 / 2 then ⌊x⌋
  else if 1 / 2 < x - ⌊x⌋ then ⌊x⌋ + 1
  else if ⌊x⌋ % 2 = 0 then ⌊x⌋
  else ⌊x⌋ + 1

lemma halfEven_bounds (x : ℚ) : ⌊x⌋ ≤ halfEven x ∧ halfEven x ≤ ⌊x⌋ + 1 := by
  unfold halfEven
  split_ifs <;> omega

lemma halfEven_intCast (n : ℤ) : halfEven n = n := by
  have hfloor : ⌊(n : ℚ)⌋ = n := Int.floor_intCast n
  rw [halfEven, hfloor, sub_self, if_pos (by norm_num)]

lemma halfEven_mono {x y : ℚ} (h : x ≤ y) : halfEven x ≤ halfEven y := by
  have hfloor := Int.floor_mono h
  rcases lt_or_eq_of_le hfloor with hlt | heq
  · have hx := (halfEven_bounds x).2
    have hy := (halfEven_bounds y).1
    omega
  · -- on one unit interval only the fractional parts decide
    unfold halfEven
    rw [heq]
    split_ifs <;> first | omega | linarith

lemma halfEven_nonneg {x : ℚ} (h : 0 ≤ x) : 0 ≤ halfEven x :=
  (Int.floor_nonneg.2 h).trans (halfEven_bounds x).1

/-! ## Rounding to a double -/

/-- The exponent of the last place of a value. -/
def quantum (q : ℚ) : ℤ := max (Int.log 2 q - 52) (-1074)

/-- A magnitude rounded, with no bound on its exponent. -/
def roundMagnitude (q : ℚ) : ℚ := halfEven (q / 2 ^ quantum q) * 2 ^ quantum q

/-- A value rounded, with no bound on its exponent. -/
def roundDouble (q : ℚ) : ℚ := if q < 0 then -roundMagnitude (-q) else roundMagnitude q

/-- The double nearest to a value, none where it overflows. -/
@[irreducible]
def toDouble (q : ℚ) : Option ℚ := if |roundDouble q| < 2 ^ 1024 then some (roundDouble q) else none

lemma two_zpow_pos (e : ℤ) : (0 : ℚ) < 2 ^ e := zpow_pos (by norm_num) e

lemma roundMagnitude_nonneg {q : ℚ} (h : 0 ≤ q) : 0 ≤ roundMagnitude q := by
  have hround : 0 ≤ halfEven (q / 2 ^ quantum q) := halfEven_nonneg (div_nonneg h (two_zpow_pos _).le)
  exact mul_nonneg (by exact_mod_cast hround) (two_zpow_pos _).le

lemma quantum_mono {a b : ℚ} (ha : 0 < a) (h : a ≤ b) : quantum a ≤ quantum b := by
  have hlog : Int.log 2 a ≤ Int.log 2 b := Int.log_mono_right ha h
  unfold quantum
  omega

lemma lt_of_quantum (a : ℚ) : a < 2 ^ (quantum a + 53) := by
  have hlog : a < 2 ^ (Int.log 2 a + 1) := by simpa using Int.lt_zpow_succ_log_self (b := 2) one_lt_two a
  apply lt_of_lt_of_le hlog
  apply zpow_le_zpow_right₀ (by norm_num)
  unfold quantum
  omega

lemma le_of_quantum {b : ℚ} (hb : 0 < b) (h : -1074 < quantum b) : 2 ^ (quantum b + 52) ≤ b := by
  have hlog : (2 : ℚ) ^ Int.log 2 b ≤ b := by simpa using Int.zpow_log_le_self (b := 2) one_lt_two hb
  have heq : quantum b + 52 = Int.log 2 b := by
    unfold quantum at h ⊢
    omega
  rw [heq]
  exact hlog

lemma halfEven_le_of_le {x : ℚ} {n : ℤ} (h : x ≤ n) : halfEven x ≤ n :=
  (halfEven_mono h).trans (halfEven_intCast n).le

lemma le_halfEven_of_le {x : ℚ} {n : ℤ} (h : (n : ℚ) ≤ x) : n ≤ halfEven x :=
  (halfEven_intCast n).ge.trans (halfEven_mono h)

lemma roundMagnitude_mono {a b : ℚ} (ha : 0 ≤ a) (h : a ≤ b) : roundMagnitude a ≤ roundMagnitude b := by
  rcases ha.eq_or_lt with rfl | hpos
  · have hzero : roundMagnitude 0 = 0 := by
      have hround : halfEven 0 = 0 := halfEven_intCast 0
      rw [roundMagnitude, zero_div, hround, Int.cast_zero, zero_mul]
    rw [hzero]
    exact roundMagnitude_nonneg h
  · rcases (quantum_mono hpos h).eq_or_lt with heq | hlt
    · unfold roundMagnitude
      rw [heq]
      have hround : halfEven (a / 2 ^ quantum b) ≤ halfEven (b / 2 ^ quantum b) :=
        halfEven_mono (div_le_div_of_nonneg_right h (two_zpow_pos _).le)
      exact mul_le_mul_of_nonneg_right (by exact_mod_cast hround) (two_zpow_pos _).le
    · -- the smaller value rounds to at most the power of two between the binades
      have hbelow : halfEven (a / 2 ^ quantum a) ≤ 2 ^ 53 := by
        apply halfEven_le_of_le
        rw [div_le_iff₀ (two_zpow_pos _)]
        have hlt := lt_of_quantum a
        rw [zpow_add₀ (by norm_num)] at hlt
        norm_num at hlt ⊢
        linarith
      have habove : 2 ^ 52 ≤ halfEven (b / 2 ^ quantum b) := by
        have hmin : -1074 ≤ quantum a := le_max_right _ _
        apply le_halfEven_of_le
        rw [le_div_iff₀ (two_zpow_pos _)]
        have hle := le_of_quantum (hpos.trans_le h) (by omega)
        rw [zpow_add₀ (by norm_num)] at hle
        norm_num at hle ⊢
        linarith
      have hstep : (2 : ℚ) ^ (quantum a + 1) ≤ 2 ^ quantum b := zpow_le_zpow_right₀ (by norm_num) (by omega)
      calc roundMagnitude a ≤ 2 ^ 53 * 2 ^ quantum a :=
            mul_le_mul_of_nonneg_right (by exact_mod_cast hbelow) (two_zpow_pos _).le
        _ = 2 ^ 52 * 2 ^ (quantum a + 1) := by
            rw [zpow_add_one₀ (by norm_num)]
            ring
        _ ≤ 2 ^ 52 * 2 ^ quantum b := mul_le_mul_of_nonneg_left hstep (by norm_num)
        _ ≤ roundMagnitude b := mul_le_mul_of_nonneg_right (by exact_mod_cast habove) (two_zpow_pos _).le

lemma roundDouble_mono {a b : ℚ} (h : a ≤ b) : roundDouble a ≤ roundDouble b := by
  unfold roundDouble
  split_ifs with ha hb hb
  · exact neg_le_neg (roundMagnitude_mono (by linarith) (by linarith))
  · have hleft := roundMagnitude_nonneg (q := -a) (by linarith)
    have hright := roundMagnitude_nonneg (q := b) (by linarith)
    linarith
  · linarith
  · exact roundMagnitude_mono (by linarith) h

/-! ## Integers -/

lemma roundMagnitude_natCast {n : ℕ} (h : n ≤ 2 ^ 53) : roundMagnitude n = n := by
  rcases Nat.lt_or_ge n (2 ^ 53) with hlt | hge
  · have hquantum : quantum n ≤ 0 := by
      have hlog : Nat.log 2 n < 53 := Nat.log_lt_of_lt_pow' (by norm_num) hlt
      rw [quantum, Int.log_natCast]
      omega
    obtain ⟨e, he⟩ := Int.eq_ofNat_of_zero_le (neg_nonneg.2 hquantum)
    have hexact : (n : ℚ) / 2 ^ quantum n = ((n * 2 ^ e : ℤ) : ℚ) := by
      have hneg : quantum n = -(e : ℤ) := by omega
      rw [hneg, zpow_neg, div_inv_eq_mul, zpow_natCast]
      push_cast
      rfl
    rw [roundMagnitude, hexact, halfEven_intCast, ← hexact, div_mul_cancel₀ _ (two_zpow_pos _).ne']
  · have hn : n = 2 ^ 53 := le_antisymm h hge
    have hquantum : quantum n = 1 := by
      rw [quantum, Int.log_natCast, hn, Nat.log_pow (by norm_num)]
      norm_num
    have hexact : (n : ℚ) / 2 ^ (1 : ℤ) = ((2 ^ 52 : ℤ) : ℚ) := by
      rw [hn]
      norm_num
    rw [roundMagnitude, hquantum, hexact, halfEven_intCast, hn]
    norm_num

lemma roundDouble_intCast {n : ℤ} (h : |n| ≤ 2 ^ 53) : roundDouble n = n := by
  obtain ⟨m, rfl | rfl⟩ := Int.eq_nat_or_neg n
  · have hm : m ≤ 2 ^ 53 := by
      rw [abs_of_nonneg (by omega)] at h
      exact_mod_cast h
    rw [roundDouble, if_neg (by push_cast; exact not_lt.2 (Nat.cast_nonneg m))]
    exact_mod_cast roundMagnitude_natCast hm
  · have hm : m ≤ 2 ^ 53 := by
      rw [abs_neg, abs_of_nonneg (by omega)] at h
      exact_mod_cast h
    rcases Nat.eq_zero_or_pos m with rfl | hpos
    · simpa [roundDouble] using roundMagnitude_natCast (n := 0) (by norm_num)
    · have hneg : ((-(m : ℤ) : ℤ) : ℚ) < 0 := by
        push_cast
        exact neg_lt_zero.2 (by exact_mod_cast hpos)
      rw [roundDouble, if_pos hneg]
      push_cast
      rw [neg_neg, roundMagnitude_natCast hm]

/-! ## Finite results -/

lemma toDouble_eq_some {q x : ℚ} (h : toDouble q = some x) : roundDouble q = x := by
  unfold toDouble at h
  split at h
  · exact Option.some_inj.1 h
  · cases h

lemma toDouble_mono {a b x y : ℚ} (h : a ≤ b) (ha : toDouble a = some x) (hb : toDouble b = some y) :
    x ≤ y := by
  rw [← toDouble_eq_some ha, ← toDouble_eq_some hb]
  exact roundDouble_mono h

lemma toDouble_intCast {n : ℤ} (h : |n| ≤ 2 ^ 53) : toDouble n = some (n : ℚ) := by
  have habs : |(n : ℚ)| ≤ 2 ^ 53 := by exact_mod_cast h
  have hfinite : |(n : ℚ)| < 2 ^ 1024 := habs.trans_lt (pow_lt_pow_right₀ (by norm_num) (by norm_num))
  unfold toDouble
  rw [roundDouble_intCast h, if_pos hfinite]

lemma eq_of_toDouble_abs_lt {n : ℤ} {x : ℚ} (h : toDouble n = some x) (hx : |x| < 2 ^ 53) : x = n := by
  rw [abs_lt] at hx
  have hexact : |n| ≤ 2 ^ 53 := by
    rw [abs_le]
    constructor
    · by_contra! hlt
      have hle := toDouble_mono (by exact_mod_cast hlt.le) h (toDouble_intCast (n := -2 ^ 53) (by norm_num))
      push_cast at hle
      linarith
    · by_contra! hlt
      have hle := toDouble_mono (by exact_mod_cast hlt.le) (toDouble_intCast (n := 2 ^ 53) (by norm_num)) h
      push_cast at hle
      linarith
  rw [toDouble_intCast hexact, Option.some_inj] at h
  exact h.symm

end Pherry.Lib
