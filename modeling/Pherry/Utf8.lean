import Mathlib.Data.List.Infix
import Pherry.Js

/-!
# UTF-8

`TextEncoder.encode` is injective on the strings that are well-formed UTF-16, but not on all
strings: a lone surrogate and U+FFFD are encoded the same. `utf8_determines_iff` says which strings
their encoding determines.
-/

namespace Pherry

/-! ## One code point -/

/-- Read the code point a text starts with. -/
def readCodePoint : Bytes → Option (ℕ × Bytes)
  | a :: rest =>
    if a.toNat < 0x80 then some (a.toNat, rest)
    else if a.toNat < 0xE0 then
      match rest with
      | b :: rest => some ((a.toNat - 0xC0) * 0x40 + (b.toNat - 0x80), rest)
      | _ => none
    else if a.toNat < 0xF0 then
      match rest with
      | b :: c :: rest =>
        some (((a.toNat - 0xE0) * 0x40 + (b.toNat - 0x80)) * 0x40 + (c.toNat - 0x80), rest)
      | _ => none
    else
      match rest with
      | b :: c :: d :: rest =>
        some ((((a.toNat - 0xF0) * 0x40 + (b.toNat - 0x80)) * 0x40 + (c.toNat - 0x80)) * 0x40
          + (d.toNat - 0x80), rest)
      | _ => none
  | [] => none

lemma toNat_ofNat {n : ℕ} (h : n < 256) : (UInt8.ofNat n).toNat = n := by
  rw [UInt8.toNat_ofNat', Nat.mod_eq_of_lt h]

lemma readCodePoint_utf8CodePoint {c : ℕ} (hc : c < 0x110000) (s : Bytes) :
    readCodePoint (utf8CodePoint c ++ s) = some (c, s) := by
  -- every byte but the first is 0x80 and six bits
  have htail : ∀ n, (UInt8.ofNat (0x80 + n % 0x40)).toNat = 0x80 + n % 0x40 := by
    intro n
    exact toNat_ofNat (by omega)
  unfold utf8CodePoint
  split
  · next h =>
    simp only [List.cons_append, List.nil_append, readCodePoint]
    rw [toNat_ofNat (by omega), if_pos h]
  · split
    · next h80 h800 =>
      have hfirst : (UInt8.ofNat (0xC0 + c / 0x40)).toNat = 0xC0 + c / 0x40 :=
        toNat_ofNat (by omega)
      simp only [List.cons_append, List.nil_append, readCodePoint, hfirst, htail]
      have hvalue : (0xC0 + c / 0x40 - 0xC0) * 0x40 + (0x80 + c % 0x40 - 0x80) = c := by omega
      rw [if_neg (by omega), if_pos (by omega), hvalue]
    · split
      · next h80 h800 h10000 =>
        have hfirst : (UInt8.ofNat (0xE0 + c / 0x1000)).toNat = 0xE0 + c / 0x1000 :=
          toNat_ofNat (by omega)
        simp only [List.cons_append, List.nil_append, readCodePoint, hfirst, htail]
        have hvalue : ((0xE0 + c / 0x1000 - 0xE0) * 0x40 + (0x80 + c / 0x40 % 0x40 - 0x80)) * 0x40
            + (0x80 + c % 0x40 - 0x80) = c := by omega
        rw [if_neg (by omega), if_neg (by omega), if_pos (by omega), hvalue]
      · next h80 h800 h10000 =>
        have hfirst : (UInt8.ofNat (0xF0 + c / 0x40000)).toNat = 0xF0 + c / 0x40000 :=
          toNat_ofNat (by omega)
        simp only [List.cons_append, List.nil_append, readCodePoint, hfirst, htail]
        have hvalue : (((0xF0 + c / 0x40000 - 0xF0) * 0x40 + (0x80 + c / 0x1000 % 0x40 - 0x80))
            * 0x40 + (0x80 + c / 0x40 % 0x40 - 0x80)) * 0x40 + (0x80 + c % 0x40 - 0x80) = c := by
          omega
        rw [if_neg (by omega), if_neg (by omega), if_neg (by omega), hvalue]

lemma utf8CodePoint_append_inj {c d : ℕ} (hc : c < 0x110000) (hd : d < 0x110000) {s t : Bytes}
    (h : utf8CodePoint c ++ s = utf8CodePoint d ++ t) : c = d ∧ s = t := by
  have hread := congrArg readCodePoint h
  rw [readCodePoint_utf8CodePoint hc, readCodePoint_utf8CodePoint hd] at hread
  simpa using hread

lemma utf8CodePoint_ne_nil (c : ℕ) : utf8CodePoint c ≠ [] := by
  unfold utf8CodePoint
  split
  · simp
  · split
    · simp
    · split <;> simp

lemma flatMap_utf8CodePoint_inj {l m : List ℕ} (hl : ∀ c ∈ l, c < 0x110000)
    (hm : ∀ c ∈ m, c < 0x110000) (h : l.flatMap utf8CodePoint = m.flatMap utf8CodePoint) :
    l = m := by
  induction l generalizing m with
  | nil =>
    cases m with
    | nil => rfl
    | cons d m =>
      rw [List.flatMap_nil, List.flatMap_cons] at h
      exact absurd (List.append_eq_nil_iff.1 h.symm).1 (utf8CodePoint_ne_nil d)
  | cons c l ih =>
    cases m with
    | nil =>
      rw [List.flatMap_nil, List.flatMap_cons] at h
      exact absurd (List.append_eq_nil_iff.1 h).1 (utf8CodePoint_ne_nil c)
    | cons d m =>
      rw [List.flatMap_cons, List.flatMap_cons] at h
      obtain ⟨hcd, hrest⟩ := utf8CodePoint_append_inj (hl c List.mem_cons_self)
        (hm d List.mem_cons_self) h
      rw [hcd, ih (fun x hx => hl x (List.mem_cons_of_mem _ hx))
        (fun x hx => hm x (List.mem_cons_of_mem _ hx)) hrest]

/-! ## Strings -/

/-- The code point of a unit standing alone. -/
def unitCodePoint (u : UInt16) : ℕ :=
  if isHighSurrogate u || isLowSurrogate u then 0xFFFD else u.toNat

/-- The code points a string is encoded as. -/
def codePoints : JsString → List ℕ
  | [] => []
  | [u] => [unitCodePoint u]
  | u :: v :: rest =>
    if isHighSurrogate u && isLowSurrogate v then
      (0x10000 + (u.toNat - 0xD800) * 0x400 + (v.toNat - 0xDC00)) :: codePoints rest
    else unitCodePoint u :: codePoints (v :: rest)

/-- `String.prototype.isWellFormed`: no surrogate stands alone. -/
def isWellFormed : JsString → Bool
  | [] => true
  | [u] => !(isHighSurrogate u || isLowSurrogate u)
  | u :: v :: rest =>
    if isHighSurrogate u && isLowSurrogate v then isWellFormed rest
    else !(isHighSurrogate u || isLowSurrogate u) && isWellFormed (v :: rest)

/-- `String.prototype.toWellFormed`: every surrogate that stands alone becomes U+FFFD. -/
def toWellFormed : JsString → JsString
  | [] => []
  | [u] => [if isHighSurrogate u || isLowSurrogate u then 0xFFFD else u]
  | u :: v :: rest =>
    if isHighSurrogate u && isLowSurrogate v then u :: v :: toWellFormed rest
    else (if isHighSurrogate u || isLowSurrogate u then 0xFFFD else u) :: toWellFormed (v :: rest)

lemma toNat_of_high {u : UInt16} (h : isHighSurrogate u = true) :
    0xD800 ≤ u.toNat ∧ u.toNat < 0xDC00 := by
  simp only [isHighSurrogate, Bool.and_eq_true, decide_eq_true_eq, UInt16.le_iff_toNat_le,
    UInt16.lt_iff_toNat_lt] at h
  exact h

lemma toNat_of_low {u : UInt16} (h : isLowSurrogate u = true) :
    0xDC00 ≤ u.toNat ∧ u.toNat < 0xE000 := by
  simp only [isLowSurrogate, Bool.and_eq_true, decide_eq_true_eq, UInt16.le_iff_toNat_le, UInt16.lt_iff_toNat_lt] at h
  exact h

lemma utf8Unit_eq (u : UInt16) : utf8Unit u = utf8CodePoint (unitCodePoint u) := by
  unfold utf8Unit unitCodePoint
  split <;> rfl

lemma utf8_eq (s : JsString) : utf8 s = (codePoints s).flatMap utf8CodePoint := by
  induction s using codePoints.induct with
  | case1 => rfl
  | case2 u => simp [utf8, codePoints, utf8Unit_eq]
  | case3 u v rest h ih => rw [utf8, codePoints, if_pos h, if_pos h, List.flatMap_cons, ih]
  | case4 u v rest h ih =>
    rw [utf8, codePoints, if_neg h, if_neg h, List.flatMap_cons, ih, utf8Unit_eq]

lemma unitCodePoint_lt (u : UInt16) : unitCodePoint u < 0x110000 := by
  have hu : u.toNat < 65536 := u.toNat_lt
  unfold unitCodePoint
  split <;> omega

lemma codePoints_lt (s : JsString) : ∀ c ∈ codePoints s, c < 0x110000 := by
  induction s using codePoints.induct with
  | case1 =>
    intro c hc
    cases hc
  | case2 u =>
    intro c hc
    rw [codePoints, List.mem_singleton] at hc
    rw [hc]
    exact unitCodePoint_lt u
  | case3 u v rest h ih =>
    intro c hc
    rw [codePoints, if_pos h] at hc
    rw [Bool.and_eq_true] at h
    have hhigh := toNat_of_high h.1
    have hlow := toNat_of_low h.2
    rcases List.mem_cons.1 hc with hpair | hrest
    · rw [hpair]
      omega
    · exact ih c hrest
  | case4 u v rest h ih =>
    intro c hc
    rw [codePoints, if_neg h] at hc
    rcases List.mem_cons.1 hc with rfl | hrest
    · exact unitCodePoint_lt u
    · exact ih c hrest

lemma codePoints_eq_of_utf8_eq {s t : JsString} (h : utf8 s = utf8 t) :
    codePoints s = codePoints t := by
  rw [utf8_eq, utf8_eq] at h
  exact flatMap_utf8CodePoint_inj (codePoints_lt s) (codePoints_lt t) h

lemma utf8_ne_nil {s : JsString} (h : s ≠ []) : utf8 s ≠ [] := by
  rw [utf8_eq]
  cases hs : codePoints s with
  | nil =>
    exfalso
    unfold codePoints at hs
    split at hs
    · exact h rfl
    · cases hs
    · split at hs <;> cases hs
  | cons c rest =>
    rw [List.flatMap_cons]
    exact fun hnil => utf8CodePoint_ne_nil c (List.append_eq_nil_iff.1 hnil).1

/-! ## Where a string can be cut -/

lemma utf8_cons {u : UInt16} {s : JsString} (h : isHighSurrogate u = false) :
    utf8 (u :: s) = utf8Unit u ++ utf8 s := by
  cases s with
  | nil => simp [utf8]
  | cons v rest => simp [utf8, h]

lemma isWellFormed_cons {u : UInt16} {s : JsString} (h : isHighSurrogate u = false) :
    isWellFormed (u :: s) = (!isLowSurrogate u && isWellFormed s) := by
  cases s with
  | nil => simp [isWellFormed, h]
  | cons v rest => simp [isWellFormed, h]

lemma utf8_append (s : JsString) {t : JsString} (h : ∀ v ∈ t.head?, isLowSurrogate v = false) :
    utf8 (s ++ t) = utf8 s ++ utf8 t := by
  induction s using codePoints.induct with
  | case1 => rfl
  | case2 u =>
    cases t with
    | nil => simp [utf8]
    | cons v rest =>
      have hv := h v rfl
      simp [utf8, hv]
  | case3 u v rest hpair ih =>
    simp only [List.cons_append, utf8, if_pos hpair, ih, List.append_assoc]
  | case4 u v rest hpair ih =>
    simp only [List.cons_append, utf8, if_neg hpair] at ih ⊢
    rw [ih, List.append_assoc]

lemma isWellFormed_append (s : JsString) {t : JsString}
    (h : ∀ v ∈ t.head?, isLowSurrogate v = false) :
    isWellFormed (s ++ t) = (isWellFormed s && isWellFormed t) := by
  induction s using codePoints.induct with
  | case1 => simp [isWellFormed]
  | case2 u =>
    cases t with
    | nil => simp [isWellFormed]
    | cons v rest =>
      have hv := h v rfl
      simp [isWellFormed, hv]
  | case3 u v rest hpair ih => simp only [List.cons_append, isWellFormed, if_pos hpair, ih]
  | case4 u v rest hpair ih =>
    simp only [List.cons_append, isWellFormed, if_neg hpair] at ih ⊢
    rw [ih, Bool.and_assoc]

/-! ## What an encoding determines -/

lemma utf8_toWellFormed (s : JsString) : utf8 (toWellFormed s) = utf8 s := by
  have hunit : ∀ u, isHighSurrogate (if isHighSurrogate u || isLowSurrogate u then 0xFFFD else u)
        = false ∧
      utf8Unit (if isHighSurrogate u || isLowSurrogate u then 0xFFFD else u) = utf8Unit u := by
    intro u
    split
    · next h =>
      have hreplaced : utf8Unit 0xFFFD = utf8CodePoint 0xFFFD := by decide
      rw [hreplaced, utf8Unit, if_pos h]
      exact ⟨by decide, rfl⟩
    · next h =>
      rw [Bool.or_eq_true, not_or, Bool.not_eq_true] at h
      exact ⟨h.1, rfl⟩
  induction s using codePoints.induct with
  | case1 => rfl
  | case2 u => simp only [toWellFormed, utf8, (hunit u).2]
  | case3 u v rest hpair ih => simp only [toWellFormed, utf8, if_pos hpair, ih]
  | case4 u v rest hpair ih =>
    rw [toWellFormed, if_neg hpair, utf8_cons (hunit u).1, ih, (hunit u).2, utf8, if_neg hpair]

lemma isWellFormed_of_toWellFormed {s : JsString} (h : toWellFormed s = s) :
    isWellFormed s = true := by
  have hunit : ∀ u, (if isHighSurrogate u || isLowSurrogate u then 0xFFFD else u) = u →
      (isHighSurrogate u || isLowSurrogate u) = false := by
    intro u hu
    by_contra hlone
    rw [Bool.not_eq_false] at hlone
    rw [if_pos hlone] at hu
    rw [← hu] at hlone
    revert hlone
    decide
  induction s using codePoints.induct with
  | case1 => rfl
  | case2 u =>
    rw [toWellFormed, List.cons.injEq] at h
    rw [isWellFormed, hunit u h.1]
    rfl
  | case3 u v rest hpair ih =>
    rw [toWellFormed, if_pos hpair, List.cons.injEq, List.cons.injEq] at h
    rw [isWellFormed, if_pos hpair, ih h.2.2]
  | case4 u v rest hpair ih =>
    rw [toWellFormed, if_neg hpair, List.cons.injEq] at h
    rw [isWellFormed, if_neg hpair, hunit u h.1, ih h.2]
    rfl

lemma isWellFormed_toWellFormed (s : JsString) : isWellFormed (toWellFormed s) = true := by
  have hunit : ∀ u, isHighSurrogate (if isHighSurrogate u || isLowSurrogate u then 0xFFFD else u) = false ∧
      isLowSurrogate (if isHighSurrogate u || isLowSurrogate u then 0xFFFD else u) = false := by
    intro u
    split
    · decide
    · next h =>
      rw [Bool.or_eq_true, not_or, Bool.not_eq_true, Bool.not_eq_true] at h
      exact h
  induction s using codePoints.induct with
  | case1 => rfl
  | case2 u => rw [toWellFormed, isWellFormed_cons (hunit u).1, (hunit u).2]; rfl
  | case3 u v rest hpair ih => rw [toWellFormed, if_pos hpair, isWellFormed, if_pos hpair, ih]
  | case4 u v rest hpair ih =>
    rw [toWellFormed, if_neg hpair, isWellFormed_cons (hunit u).1, (hunit u).2, ih]
    rfl

lemma eq_of_toWellFormed {s : JsString} (h : 0xFFFD ∉ toWellFormed s) : toWellFormed s = s := by
  have hunit : ∀ u, (0xFFFD : UInt16) ≠ (if isHighSurrogate u || isLowSurrogate u then 0xFFFD else u) →
      (if isHighSurrogate u || isLowSurrogate u then 0xFFFD else u) = u := by
    intro u hu
    split at hu
    · exact absurd rfl hu
    · next hlone => exact if_neg hlone
  induction s using codePoints.induct with
  | case1 => rfl
  | case2 u =>
    rw [toWellFormed, List.mem_singleton] at h
    rw [toWellFormed, hunit u h]
  | case3 u v rest hpair ih =>
    rw [toWellFormed, if_pos hpair, List.mem_cons, List.mem_cons, not_or, not_or] at h
    rw [toWellFormed, if_pos hpair, ih h.2.2]
  | case4 u v rest hpair ih =>
    rw [toWellFormed, if_neg hpair, List.mem_cons, not_or] at h
    rw [toWellFormed, if_neg hpair, hunit u h.1, ih h.2]

lemma mem_codePoints_of_not_wellFormed {s : JsString} (h : isWellFormed s = false) :
    0xFFFD ∈ codePoints s := by
  induction s using codePoints.induct with
  | case1 => cases h
  | case2 u =>
    rw [isWellFormed, Bool.not_eq_false'] at h
    rw [codePoints, unitCodePoint, if_pos h]
    exact List.mem_singleton_self _
  | case3 u v rest hpair ih =>
    rw [isWellFormed, if_pos hpair] at h
    rw [codePoints, if_pos hpair]
    exact List.mem_cons_of_mem _ (ih h)
  | case4 u v rest hpair ih =>
    rw [isWellFormed, if_neg hpair, Bool.and_eq_false_iff, Bool.not_eq_false'] at h
    rw [codePoints, if_neg hpair]
    rcases h with hlone | hrest
    · rw [unitCodePoint, if_pos hlone]
      exact List.mem_cons_self
    · exact List.mem_cons_of_mem _ (ih hrest)

/-- `String.fromCodePoint`. -/
def fromCodePoint (c : ℕ) : JsString :=
  if c < 0x10000 then [UInt16.ofNat c]
  else [UInt16.ofNat (0xD800 + (c - 0x10000) / 0x400),
    UInt16.ofNat (0xDC00 + (c - 0x10000) % 0x400)]

lemma fromCodePoint_unit {u : UInt16}
    (h : (!(isHighSurrogate u || isLowSurrogate u)) = true) :
    fromCodePoint (unitCodePoint u) = [u] := by
  have hu : u.toNat < 0x10000 := u.toNat_lt
  rw [unitCodePoint, if_neg (by simpa using h), fromCodePoint, if_pos hu, UInt16.ofNat_toNat]

lemma fromCodePoint_pair {u v : UInt16} (h : (isHighSurrogate u && isLowSurrogate v) = true) :
    fromCodePoint (0x10000 + (u.toNat - 0xD800) * 0x400 + (v.toNat - 0xDC00)) = [u, v] := by
  rw [Bool.and_eq_true] at h
  have hu := toNat_of_high h.1
  have hv := toNat_of_low h.2
  have hhigh : 0xD800 + (0x10000 + (u.toNat - 0xD800) * 0x400 + (v.toNat - 0xDC00) - 0x10000) / 0x400
      = u.toNat := by omega
  have hlow : 0xDC00 + (0x10000 + (u.toNat - 0xD800) * 0x400 + (v.toNat - 0xDC00) - 0x10000) % 0x400
      = v.toNat := by omega
  rw [fromCodePoint, if_neg (by omega), hhigh, hlow, UInt16.ofNat_toNat, UInt16.ofNat_toNat]

lemma flatMap_fromCodePoint {s : JsString} (h : isWellFormed s = true) :
    (codePoints s).flatMap fromCodePoint = s := by
  induction s using codePoints.induct with
  | case1 => rfl
  | case2 u =>
    rw [isWellFormed] at h
    rw [codePoints, List.flatMap_cons, fromCodePoint_unit h]
    rfl
  | case3 u v rest hpair ih =>
    rw [isWellFormed, if_pos hpair] at h
    rw [codePoints, if_pos hpair, List.flatMap_cons, fromCodePoint_pair hpair, ih h]
    rfl
  | case4 u v rest hpair ih =>
    rw [isWellFormed, if_neg hpair, Bool.and_eq_true] at h
    rw [codePoints, if_neg hpair, List.flatMap_cons, fromCodePoint_unit h.1, ih h.2]
    rfl

lemma mem_of_mem_codePoints {s : JsString} (h : isWellFormed s = true)
    (hmem : 0xFFFD ∈ codePoints s) : 0xFFFD ∈ s := by
  rw [← flatMap_fromCodePoint h, List.mem_flatMap]
  exact ⟨0xFFFD, hmem, by decide⟩

/-- **What UTF-8 determines.** A string is the only one of its encoding exactly when no surrogate
stands alone in it and it has no U+FFFD. -/
theorem utf8_determines_iff (s : JsString) :
    (∀ t, utf8 t = utf8 s → t = s) ↔ isWellFormed s = true ∧ 0xFFFD ∉ s := by
  constructor
  · intro h
    have hformed := isWellFormed_of_toWellFormed (h _ (utf8_toWellFormed s))
    refine ⟨hformed, fun hmem => ?_⟩
    -- a lone surrogate in its place is encoded the same
    obtain ⟨a, b, rfl⟩ := List.append_of_mem hmem
    have hhead : ∀ v ∈ (0xFFFD :: b).head?, isLowSurrogate v = false := by
      intro v hv
      obtain rfl := Option.some.inj hv
      decide
    rw [isWellFormed_append a hhead, isWellFormed_cons (by decide), Bool.and_eq_true,
      Bool.and_eq_true] at hformed
    have hlone : utf8 (0xD800 :: b) = utf8 (0xFFFD :: b) := by
      rw [utf8_cons (u := 0xFFFD) (by decide)]
      cases b with
      | nil => decide
      | cons v rest =>
        have hv : isLowSurrogate v = false := by
          have hrest := hformed.2.2
          by_contra hlow
          rw [Bool.not_eq_false] at hlow
          have hhigh : isHighSurrogate v = false := by
            by_contra hhigh
            rw [Bool.not_eq_false] at hhigh
            have hbelow := toNat_of_high hhigh
            have habove := toNat_of_low hlow
            omega
          rw [isWellFormed_cons hhigh, hlow] at hrest
          cases hrest
        have hunit : utf8Unit 0xD800 = utf8Unit 0xFFFD := by decide
        rw [utf8, if_neg (by rw [hv]; simp), hunit]
    have hsame := h (a ++ 0xD800 :: b) (by
      rw [utf8_append a (by simp [isLowSurrogate]), utf8_append a hhead, hlone])
    have hunit := (List.cons.inj (List.append_cancel_left hsame)).1
    revert hunit
    decide
  · rintro ⟨hformed, hplain⟩ t ht
    have hpoints := codePoints_eq_of_utf8_eq ht
    have ht : isWellFormed t = true := by
      by_contra hlone
      have hmem := mem_codePoints_of_not_wellFormed (Bool.eq_false_iff.2 hlone)
      rw [hpoints] at hmem
      exact hplain (mem_of_mem_codePoints hformed hmem)
    rw [← flatMap_fromCodePoint ht, hpoints, flatMap_fromCodePoint hformed]

/-! ## Lengths -/

/-- A string of ASCII units. -/
def isAscii (s : JsString) : Bool := s.all fun u => u < 0x80

lemma not_surrogate_of_ascii {u : UInt16} (h : u < 0x80) :
    isHighSurrogate u = false ∧ isLowSurrogate u = false := by
  have hu : u.toNat < 0x80 := UInt16.lt_iff_toNat_lt.1 h
  constructor
  · by_contra hhigh
    have hrange := toNat_of_high (by simpa using hhigh)
    omega
  · by_contra hlow
    have hrange := toNat_of_low (by simpa using hlow)
    omega

lemma length_utf8_of_isAscii {s : JsString} (h : isAscii s = true) :
    (utf8 s).length = s.length := by
  unfold isAscii at h
  induction s with
  | nil => rfl
  | cons u s ih =>
    rw [List.all_cons, Bool.and_eq_true, decide_eq_true_eq] at h
    have hu : u.toNat < 0x80 := UInt16.lt_iff_toNat_lt.1 h.1
    obtain ⟨hhigh, hlow⟩ := not_surrogate_of_ascii h.1
    have hunit : utf8Unit u = [UInt8.ofNat u.toNat] := by
      rw [utf8Unit, hhigh, hlow, if_neg (by simp), utf8CodePoint, if_pos hu]
    rw [utf8_cons hhigh, hunit, List.length_append, ih h.2, List.length_singleton, List.length_cons]
    omega

lemma utf8CodePoint_pos (c : ℕ) : 1 ≤ (utf8CodePoint c).length :=
  List.length_pos_iff.2 (utf8CodePoint_ne_nil c)

lemma length_le_utf8 (s : JsString) : s.length ≤ (utf8 s).length := by
  induction s using utf8.induct with
  | case1 => exact le_refl 0
  | case2 u =>
    rw [utf8, utf8Unit_eq]
    exact utf8CodePoint_pos _
  | case3 u v rest hpair ih =>
    have hbytes : ∀ c, 0x10000 ≤ c → (utf8CodePoint c).length = 4 := by
      intro c hc
      rw [utf8CodePoint, if_neg (by omega), if_neg (by omega), if_neg (by omega)]
      rfl
    rw [utf8, if_pos hpair, List.length_append, hbytes _ (by omega), List.length_cons,
      List.length_cons]
    omega
  | case4 u v rest hpair ih =>
    rw [utf8, if_neg hpair, List.length_append, utf8Unit_eq, List.length_cons]
    have hunit := utf8CodePoint_pos (unitCodePoint u)
    omega

end Pherry
