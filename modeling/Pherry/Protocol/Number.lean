import Mathlib.Data.List.TakeWhile
import Mathlib.Tactic.IntervalCases
import Pherry.Lib.Binary64
import Pherry.Protocol.JsonText

/-!
# The number of a text

`Number` of a string as far as it is finite: the exact value that is written, rounded to a double.
-/

namespace Pherry.Protocol

open Lib

/-- The digits of a radix, as a natural number. -/
def radixValue (radix : ℕ) (digits : JsString) : Option ℕ :=
  if digits = [] then none
  else
    digits.foldlM (fun n u => do
      let d ← hexValue u
      if d < radix then some (radix * n + d) else none) 0

/-- An exponent, which is all that is left of the text. -/
def exponentValue : JsString → Option ℤ
  | [] => some 0
  | u :: rest =>
    if u = 0x65 ∨ u = 0x45 then
      let sign := readSign [0x2B, 0x2D] rest
      (natural sign.2).map fun n => if sign.1 = [0x2D] then -(n : ℤ) else n
    else none

/-- Decimal digits with a point before, among or behind them, and an exponent. -/
def decimalValue (s : JsString) : Option ℚ :=
  let whole := s.takeWhile isDigit
  let behind := s.dropWhile isDigit
  let fraction := if behind.head? = some 0x2E then behind.tail.takeWhile isDigit else []
  let exponent := if behind.head? = some 0x2E then behind.tail.dropWhile isDigit else behind
  (natural (whole ++ fraction)).bind fun n =>
    (exponentValue exponent).map fun e => (n : ℚ) * (10 : ℚ) ^ (e - (fraction.length : ℤ))

/-- The value a text stands for: nothing is zero, and a radix goes without a sign. -/
def numericValue (text : JsString) : Option ℚ :=
  match trim text with
  | [] => some 0
  | u :: rest =>
    if u = 0x30 ∧ (rest.head? = some 0x78 ∨ rest.head? = some 0x58) then
      (radixValue 16 rest.tail).map fun n => n
    else if u = 0x30 ∧ (rest.head? = some 0x6F ∨ rest.head? = some 0x4F) then
      (radixValue 8 rest.tail).map fun n => n
    else if u = 0x30 ∧ (rest.head? = some 0x62 ∨ rest.head? = some 0x42) then
      (radixValue 2 rest.tail).map fun n => n
    else if u = 0x2D then (decimalValue rest).map fun q => -q
    else if u = 0x2B then decimalValue rest
    else decimalValue (u :: rest)

/-- `Number`, where `Number.isFinite` holds of it. -/
def jsNumber (text : JsString) : Option ℚ := (numericValue text).bind toDouble

/-! ## Digits -/

lemma natural_eq_some {text : JsString} {n : ℕ} (h : natural text = some n) :
    text ≠ [] ∧ text.all isDigit = true := by
  unfold natural at h
  split at h
  · assumption
  · cases h

lemma takeWhile_dropWhile_of_all {text : JsString} (h : text.all isDigit = true) :
    text.takeWhile isDigit = text ∧ text.dropWhile isDigit = [] := by
  rw [List.all_eq_true] at h
  exact ⟨List.takeWhile_eq_self_iff.2 h, List.dropWhile_eq_nil_iff.2 h⟩

lemma decimalValue_natural {text : JsString} {n : ℕ} (h : natural text = some n) :
    decimalValue text = some (n : ℚ) := by
  obtain ⟨htake, hdrop⟩ := takeWhile_dropWhile_of_all (natural_eq_some h).2
  simp [decimalValue, htake, hdrop, exponentValue, h]

lemma isDigit_head {u : UInt16} {rest : JsString} (h : (u :: rest).all isDigit = true) :
    isDigit u = true ∧ ∀ v ∈ rest.head?, isDigit v = true := by
  rw [List.all_eq_true] at h
  exact ⟨h u List.mem_cons_self, fun v hv => h v (List.mem_cons_of_mem u (List.mem_of_mem_head? hv))⟩

lemma numericValue_natural {text : JsString} {n : ℕ} (h : natural text = some n) :
    numericValue text = some (n : ℚ) := by
  obtain ⟨hne, hall⟩ := natural_eq_some h
  have htrim : trim text = text :=
    trim_of_not_isSpace fun u hu => not_isSpace_of_isDigit (List.all_eq_true.1 hall u hu)
  rw [numericValue, htrim]
  cases text with
  | nil => exact absurd rfl hne
  | cons u rest =>
    obtain ⟨hu, hrest⟩ := isDigit_head hall
    -- no radix letter and no sign is a digit
    have hletter : ∀ v, isDigit v = false → rest.head? ≠ some v := by
      intro v hv hhead
      rw [hrest v hhead] at hv
      cases hv
    have hsign : ∀ v, isDigit v = false → u ≠ v := by
      rintro v hv rfl
      rw [hu] at hv
      cases hv
    have hradix : ∀ x y, isDigit x = false → isDigit y = false →
        ¬(u = 0x30 ∧ (rest.head? = some x ∨ rest.head? = some y)) := by
      rintro x y hx hy ⟨-, hhead | hhead⟩
      · exact hletter x hx hhead
      · exact hletter y hy hhead
    dsimp only
    rw [if_neg (hradix _ _ (by decide) (by decide)), if_neg (hradix _ _ (by decide) (by decide)),
      if_neg (hradix _ _ (by decide) (by decide)), if_neg (hsign _ (by decide)),
      if_neg (hsign _ (by decide))]
    exact decimalValue_natural h

lemma jsNumber_natural {text : JsString} {n : ℕ} (h : natural text = some n) :
    jsNumber text = toDouble n := by
  rw [jsNumber, numericValue_natural h, Option.bind_some]

/-! ## The text of a natural number -/

lemma head_toDigits {n : ℕ} (h : 0 < n) : (Nat.toDigits 10 n).head? ≠ some '0' := by
  induction n using Nat.strong_induction_on with
  | h n ih =>
    rcases Nat.lt_or_ge n 10 with hlt | hge
    · rw [Nat.toDigits_of_lt_base hlt]
      interval_cases n <;> decide
    · rw [Nat.toDigits_of_base_le (by decide) hge, List.head?_append_of_ne_nil _ Nat.toDigits_ne_nil]
      exact ih (n / 10) (by omega) (by omega)

lemma isNaturalText_js (n : ℕ) : isNaturalText (js (toString (n : ℤ))) := by
  obtain ⟨hne, hall⟩ := natural_eq_some (natural_js n)
  refine ⟨hne, hall, fun hhead => ?_⟩
  have hdigits : ∀ c ∈ Nat.toDigits 10 n, c.isDigit = true :=
    fun c hc => Nat.isDigit_of_mem_toDigits (by decide) (by decide) hc
  have htext : js (toString (n : ℤ)) = (Nat.toDigits 10 n).map digitUnit := by
    rw [← js_digits hdigits, ← Nat.toString_eq_ofList_toDigits]
    rfl
  rw [htext] at hhead ⊢
  rcases Nat.eq_zero_or_pos n with rfl | hpos
  · rw [Nat.toDigits_zero]
    rfl
  · rw [List.head?_map, Option.map_eq_some_iff] at hhead
    obtain ⟨c, hc, hunit⟩ := hhead
    have hzero : c = '0' := by
      have hnat := toNat_digitUnit (hdigits c (List.mem_of_mem_head? hc))
      rw [hunit] at hnat
      exact Char.toNat_inj.1 hnat.symm
    rw [hzero] at hc
    exact absurd hc (head_toDigits hpos)

end Pherry.Protocol
