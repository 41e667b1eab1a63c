import Pherry.Utf8

/-!
# Escaping

`replaceAll` of ASCII characters, and what a text is encoded as in which each of them is replaced.
-/

namespace Pherry

/-- `replaceAll` of one unit. -/
def replaceAll (s : JsString) (u : UInt16) (replacement : JsString) : JsString :=
  s.flatMap fun v => if v = u then replacement else [v]

/-! ## Where a text can be cut -/

lemma codePoints_cons {u : UInt16} {s : JsString} (h : isHighSurrogate u = false) :
    codePoints (u :: s) = unitCodePoint u :: codePoints s := by
  cases s with
  | nil => rfl
  | cons v rest => rw [codePoints, if_neg (by simp [h])]

lemma codePoints_append (s : JsString) {t : JsString} (h : ∀ v ∈ t.head?, isLowSurrogate v = false) :
    codePoints (s ++ t) = codePoints s ++ codePoints t := by
  induction s using codePoints.induct with
  | case1 => rfl
  | case2 u =>
    cases t with
    | nil => simp [codePoints]
    | cons v rest =>
      have hv := h v rfl
      simp [codePoints, hv]
  | case3 u v rest hpair ih => simp only [List.cons_append, codePoints, if_pos hpair, ih]
  | case4 u v rest hpair ih =>
    simp only [List.cons_append, codePoints, if_neg hpair] at ih ⊢
    rw [ih]

lemma codePoints_append_left {s : JsString} (h : ∀ u ∈ s, isHighSurrogate u = false) (t : JsString) :
    codePoints (s ++ t) = s.map unitCodePoint ++ codePoints t := by
  induction s with
  | nil => rfl
  | cons u s ih =>
    rw [List.cons_append, codePoints_cons (h u List.mem_cons_self), ih fun v hv => h v (List.mem_cons_of_mem u hv),
      List.map_cons, List.cons_append]

/-! ## Texts that are replaced character by character -/

/-- A table of replacements, by ASCII, of ASCII characters. -/
structure Replaces (table : UInt16 → JsString) : Prop where
  ascii : ∀ u < 0x80, table u ≠ [] ∧ isAscii (table u) = true
  others : ∀ u, ¬ u < 0x80 → table u = [u]

/-- The table on code points. -/
def replacement (table : UInt16 → JsString) (c : ℕ) : List ℕ :=
  if c < 0x80 then (table (UInt16.ofNat c)).map UInt16.toNat else [c]

lemma unitCodePoint_of_ascii {u : UInt16} (h : u < 0x80) : unitCodePoint u = u.toNat := by
  obtain ⟨hhigh, hlow⟩ := not_surrogate_of_ascii h
  rw [unitCodePoint, hhigh, hlow, if_neg (by simp)]

lemma isAscii_iff {s : JsString} : isAscii s = true ↔ ∀ u ∈ s, u < 0x80 := by
  simp [isAscii]

variable {table : UInt16 → JsString} (htable : Replaces table)
include htable

lemma Replaces.unit (u : UInt16) : (table u).map unitCodePoint = replacement table (unitCodePoint u) := by
  by_cases hu : u < 0x80
  · have hnat : u.toNat < 0x80 := UInt16.lt_iff_toNat_lt.1 hu
    rw [unitCodePoint_of_ascii hu, replacement, if_pos hnat, UInt16.ofNat_toNat]
    exact List.map_congr_left fun v hv => unitCodePoint_of_ascii (isAscii_iff.1 (htable.ascii u hu).2 v hv)
  · have hcode : ¬ unitCodePoint u < 0x80 := by
      rw [UInt16.lt_iff_toNat_lt] at hu
      unfold unitCodePoint
      split
      · omega
      · exact hu
    rw [htable.others u hu, replacement, if_neg hcode]
    rfl

lemma Replaces.codePoints (s : JsString) :
    Pherry.codePoints (s.flatMap table) = (Pherry.codePoints s).flatMap (replacement table) := by
  have hhigh : ∀ u, isHighSurrogate u = false → ∀ v ∈ table u, isHighSurrogate v = false := by
    intro u hu v hv
    by_cases hascii : u < 0x80
    · exact (not_surrogate_of_ascii (isAscii_iff.1 (htable.ascii u hascii).2 v hv)).1
    · rw [htable.others u hascii, List.mem_singleton] at hv
      rw [hv, hu]
  have hsurrogate : ∀ u, (isHighSurrogate u || isLowSurrogate u) = true → table u = [u] := by
    intro u hu
    refine htable.others u fun hascii => ?_
    simp [not_surrogate_of_ascii hascii] at hu
  induction s using codePoints.induct with
  | case1 => rfl
  | case2 u =>
    rw [List.flatMap_singleton]
    by_cases hu : isHighSurrogate u = true
    · rw [hsurrogate u (by simp [hu])]
      have hunit := htable.unit u
      rw [hsurrogate u (by simp [hu])] at hunit
      simpa [Pherry.codePoints] using hunit
    · rw [← List.append_nil (table u), codePoints_append_left (hhigh u (by simpa using hu)), htable.unit]
      rfl
  | case3 u v rest hpair ih =>
    obtain ⟨hu, hv⟩ := Bool.and_eq_true_iff.1 hpair
    have hcode : replacement table (0x10000 + (u.toNat - 0xD800) * 0x400 + (v.toNat - 0xDC00)) =
        [0x10000 + (u.toNat - 0xD800) * 0x400 + (v.toNat - 0xDC00)] := if_neg (by omega)
    rw [List.flatMap_cons, List.flatMap_cons, hsurrogate u (by simp [hu]), hsurrogate v (by simp [hv])]
    simp only [List.cons_append, List.nil_append, Pherry.codePoints, if_pos hpair, ih, List.flatMap_cons, hcode]
  | case4 u v rest hpair ih =>
    have hsplit : (unitCodePoint u :: Pherry.codePoints (v :: rest)).flatMap (replacement table) =
        replacement table (unitCodePoint u) ++ (Pherry.codePoints (v :: rest)).flatMap (replacement table) :=
      List.flatMap_cons
    rw [Pherry.codePoints, if_neg hpair, hsplit, ← ih, ← htable.unit, List.flatMap_cons]
    by_cases hu : isHighSurrogate u = true
    · -- the next unit is no low surrogate, and neither is what it is replaced by
      have hv : isLowSurrogate v = false := by simpa [hu] using hpair
      have hhead : ∀ w ∈ (table v ++ rest.flatMap table).head?, isLowSurrogate w = false := by
        intro w hw
        by_cases hascii : v < 0x80
        · obtain ⟨hne, hall⟩ := htable.ascii v hascii
          rw [List.head?_append_of_ne_nil _ hne] at hw
          exact (not_surrogate_of_ascii (isAscii_iff.1 hall w (List.mem_of_mem_head? hw))).2
        · rw [htable.others v hascii, List.singleton_append, List.head?_cons, Option.mem_some_iff] at hw
          rw [← hw, hv]
      rw [hsurrogate u (by simp [hu]), List.flatMap_cons, codePoints_append _ hhead]
      rfl
    · exact codePoints_append_left (hhigh u (by simpa using hu)) _

omit htable

/-! ## Literals -/

lemma flatMap_utf8CodePoint_of_ascii {s : JsString} (h : ∀ u ∈ s, u < 0x80) :
    (s.map UInt16.toNat).flatMap utf8CodePoint = s.map fun u => UInt8.ofNat u.toNat := by
  have hpure : (s.map fun u => UInt8.ofNat u.toNat) = s.flatMap fun u => [UInt8.ofNat u.toNat] :=
    (List.flatMap_pure_eq_map _ _).symm
  rw [List.flatMap_map, hpure]
  refine List.flatMap_congr fun u hu => ?_
  have hnat : u.toNat < 0x80 := UInt16.lt_iff_toNat_lt.1 (h u hu)
  rw [utf8CodePoint, if_pos hnat]

lemma ascii_ofList (cs : List Char) : ascii (String.ofList cs) = cs.map fun c => UInt8.ofNat c.toNat := by
  rw [ascii, String.toList_ofList]

/-- The characters of an ASCII literal that is not empty. -/
def isAsciiLiteral (cs : List Char) : Bool := !cs.isEmpty && cs.all fun c => c.toNat < 0x80

variable {cs : List Char} (h : isAsciiLiteral cs = true)
include h

lemma js_literal : js (String.ofList cs) = cs.map fun c => UInt16.ofNat c.toNat := by
  have hpure : (cs.map fun c => UInt16.ofNat c.toNat) = cs.flatMap fun c => [UInt16.ofNat c.toNat] :=
    (List.flatMap_pure_eq_map _ _).symm
  rw [js, String.toList_ofList, hpure]
  refine List.flatMap_congr fun c hc => ?_
  have hascii := List.all_eq_true.1 (Bool.and_eq_true_iff.1 h).2 c hc
  rw [decide_eq_true_eq] at hascii
  rw [if_pos (by omega)]

lemma isAscii_literal : ∀ u ∈ js (String.ofList cs), u < 0x80 := by
  intro u hu
  rw [js_literal h] at hu
  obtain ⟨c, hc, rfl⟩ := List.mem_map.1 hu
  have hascii := List.all_eq_true.1 (Bool.and_eq_true_iff.1 h).2 c hc
  rw [decide_eq_true_eq] at hascii
  rw [UInt16.lt_iff_toNat_lt, UInt16.toNat_ofNat_of_lt' (by omega : c.toNat < 2 ^ 16)]
  exact hascii

lemma codePoints_literal (t : JsString) :
    codePoints (js (String.ofList cs) ++ t) = (js (String.ofList cs)).map UInt16.toNat ++ codePoints t := by
  have hascii := isAscii_literal h
  rw [codePoints_append_left fun u hu => (not_surrogate_of_ascii (hascii u hu)).1]
  rw [List.map_congr_left fun u hu => unitCodePoint_of_ascii (hascii u hu)]

lemma codePoints_append_literal (s t : JsString) :
    codePoints (s ++ (js (String.ofList cs) ++ t)) = codePoints s ++ codePoints (js (String.ofList cs) ++ t) := by
  apply codePoints_append
  intro v hv
  have hne : js (String.ofList cs) ≠ [] := by
    rw [js_literal h]
    simpa using (Bool.and_eq_true_iff.1 h).1
  rw [List.head?_append_of_ne_nil _ hne] at hv
  exact (not_surrogate_of_ascii (isAscii_literal h v (List.mem_of_mem_head? hv))).2

lemma utf8_literal (t : JsString) :
    utf8 (js (String.ofList cs) ++ t) = ascii (String.ofList cs) ++ utf8 t := by
  have hbytes : (js (String.ofList cs)).map (fun u => UInt8.ofNat u.toNat) = ascii (String.ofList cs) := by
    rw [js_literal h, List.map_map, ascii_ofList]
    refine List.map_congr_left fun c hc => ?_
    have hascii := List.all_eq_true.1 (Bool.and_eq_true_iff.1 h).2 c hc
    rw [decide_eq_true_eq] at hascii
    show UInt8.ofNat (UInt16.ofNat c.toNat).toNat = _
    rw [UInt16.toNat_ofNat_of_lt' (by omega : c.toNat < 2 ^ 16)]
  rw [utf8_eq, codePoints_literal h, List.flatMap_append, flatMap_utf8CodePoint_of_ascii (isAscii_literal h),
    hbytes, ← utf8_eq]

lemma utf8_append_literal (s t : JsString) :
    utf8 (s ++ (js (String.ofList cs) ++ t)) = utf8 s ++ (ascii (String.ofList cs) ++ utf8 t) := by
  rw [utf8_eq, codePoints_append_literal h, List.flatMap_append, ← utf8_eq, ← utf8_eq, utf8_literal h]

lemma utf8_append_last (s : JsString) :
    utf8 (s ++ js (String.ofList cs)) = utf8 s ++ ascii (String.ofList cs) := by
  have happend := utf8_append_literal h s []
  rwa [List.append_nil, show utf8 [] = [] from rfl, List.append_nil] at happend

omit h

/-! ## Bytes -/

lemma not_ascii_of_mem_utf8CodePoint {c : ℕ} (h : ¬ c < 0x80) (hc : c < 0x110000) :
    ∀ b ∈ utf8CodePoint c, ¬ b < 0x80 := by
  have hbyte : ∀ n : ℕ, 0x80 ≤ n → n < 0x100 → ¬ UInt8.ofNat n < 0x80 := by
    intro n hleast hmost hlt
    have hnat : (UInt8.ofNat n).toNat < 0x80 := UInt8.lt_iff_toNat_lt.1 hlt
    rw [toNat_ofNat hmost] at hnat
    omega
  unfold utf8CodePoint
  rw [if_neg h]
  split
  · simp only [List.forall_mem_cons, List.not_mem_nil, false_implies, implies_true, and_true]
    exact ⟨hbyte _ (by omega) (by omega), hbyte _ (by omega) (by omega)⟩
  · split
    · simp only [List.forall_mem_cons, List.not_mem_nil, false_implies, implies_true, and_true]
      exact ⟨hbyte _ (by omega) (by omega), hbyte _ (by omega) (by omega), hbyte _ (by omega) (by omega)⟩
    · simp only [List.forall_mem_cons, List.not_mem_nil, false_implies, implies_true, and_true]
      exact ⟨hbyte _ (by omega) (by omega), hbyte _ (by omega) (by omega), hbyte _ (by omega) (by omega),
        hbyte _ (by omega) (by omega)⟩

lemma Replaces.utf8 {table : UInt16 → JsString} (htable : Replaces table) {bytes : UInt8 → Bytes}
    (hascii : ∀ u < 0x80, bytes (UInt8.ofNat u.toNat) = (table u).map fun v => UInt8.ofNat v.toNat)
    (hothers : ∀ b, ¬ b < 0x80 → bytes b = [b]) (s : JsString) :
    Pherry.utf8 (s.flatMap table) = (Pherry.utf8 s).flatMap bytes := by
  rw [utf8_eq, htable.codePoints, utf8_eq, List.flatMap_assoc, List.flatMap_assoc]
  refine List.flatMap_congr fun c hc => ?_
  by_cases hlow : c < 0x80
  · have hnat : (UInt16.ofNat c).toNat = c := UInt16.toNat_ofNat_of_lt' (by omega : c < 2 ^ 16)
    have hunit : UInt16.ofNat c < 0x80 := UInt16.lt_iff_toNat_lt.2 (by rw [hnat]; exact hlow)
    have hbyte := hascii _ hunit
    rw [hnat] at hbyte
    rw [replacement, if_pos hlow, flatMap_utf8CodePoint_of_ascii (isAscii_iff.1 (htable.ascii _ hunit).2),
      utf8CodePoint, if_pos hlow, List.flatMap_singleton, hbyte]
  · rw [replacement, if_neg hlow, List.flatMap_singleton]
    refine (List.flatMap_congr fun b hb => hothers b ?_).trans ?_ |>.symm
    · exact not_ascii_of_mem_utf8CodePoint hlow (codePoints_lt s c hc) b hb
    · exact List.flatMap_singleton' _

end Pherry
