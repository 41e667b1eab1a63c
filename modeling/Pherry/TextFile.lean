import Pherry.Lib.Separated
import Pherry.TextDecoder

/-!
# Text files

A file is its bytes; it is read as text, and written from text. A text is its lines, which a line break
separates.
-/

namespace Pherry

/-- `readFile(path, 'utf8')`: what is not UTF-8 becomes U+FFFD. -/
def readText (bytes : Bytes) : JsString := (decodePoints bytes.length bytes).flatMap fromCodePoint

/-- `'\n'`. -/
def newline : UInt16 := 0x0A

/-- `split('\n')`. -/
def linesOf (text : JsString) : List JsString := text.splitOn newline

/-- `join('\n')`. -/
def joinLines (lines : List JsString) : JsString := [newline].intercalate lines

/-- `text.includes(part)`. -/
def includes (text part : JsString) : Bool := decide (part <:+: text)

/-- `line.startsWith(part)`. -/
def startsWith (line part : JsString) : Bool := decide (part <+: line)

/-- A file is UTF-8. -/
def IsUtf8 (file : Bytes) : Prop := utf8 (readText file) = file

/-! ## Reading what was written -/

lemma isLowSurrogate_newline : isLowSurrogate newline = false := by decide

lemma isHighSurrogate_newline : isHighSurrogate newline = false := by decide

lemma isHighSurrogate_eq (u : UInt16) :
    isHighSurrogate u = decide (0xD800 ≤ u.toNat ∧ u.toNat < 0xDC00) := by
  have hleast : (0xD800 : UInt16).toNat = 0xD800 := rfl
  have hmost : (0xDC00 : UInt16).toNat = 0xDC00 := rfl
  rw [isHighSurrogate, Bool.decide_and]
  simp only [UInt16.le_iff_toNat_le, UInt16.lt_iff_toNat_lt, hleast, hmost]

lemma isLowSurrogate_eq (u : UInt16) :
    isLowSurrogate u = decide (0xDC00 ≤ u.toNat ∧ u.toNat < 0xE000) := by
  have hleast : (0xDC00 : UInt16).toNat = 0xDC00 := rfl
  have hmost : (0xE000 : UInt16).toNat = 0xE000 := rfl
  rw [isLowSurrogate, Bool.decide_and]
  simp only [UInt16.le_iff_toNat_le, UInt16.lt_iff_toNat_lt, hleast, hmost]

lemma wellFormed_fromCodePoint {c : ℕ} (hc : isScalar c) (s : JsString) :
    isWellFormed (fromCodePoint c ++ s) = isWellFormed s ∧
      utf8 (fromCodePoint c ++ s) = utf8CodePoint c ++ utf8 s := by
  unfold isScalar at hc
  unfold fromCodePoint
  split
  · next hunit =>
    have hnat : (UInt16.ofNat c).toNat = c := UInt16.toNat_ofNat_of_lt' hunit
    have hhigh : isHighSurrogate (UInt16.ofNat c) = false := by
      rw [isHighSurrogate_eq, hnat]
      exact decide_eq_false (by omega)
    have hlow : isLowSurrogate (UInt16.ofNat c) = false := by
      rw [isLowSurrogate_eq, hnat]
      exact decide_eq_false (by omega)
    rw [List.singleton_append, isWellFormed_cons hhigh, utf8_cons hhigh, utf8Unit, hhigh, hlow, hnat]
    exact ⟨rfl, rfl⟩
  · next hpair =>
    have hfirst : (UInt16.ofNat (0xD800 + (c - 0x10000) / 0x400)).toNat = 0xD800 + (c - 0x10000) / 0x400 :=
      UInt16.toNat_ofNat_of_lt' (show 0xD800 + (c - 0x10000) / 0x400 < 2 ^ 16 by omega)
    have hsecond : (UInt16.ofNat (0xDC00 + (c - 0x10000) % 0x400)).toNat = 0xDC00 + (c - 0x10000) % 0x400 :=
      UInt16.toNat_ofNat_of_lt' (show 0xDC00 + (c - 0x10000) % 0x400 < 2 ^ 16 by omega)
    have hhigh : isHighSurrogate (UInt16.ofNat (0xD800 + (c - 0x10000) / 0x400)) = true := by
      rw [isHighSurrogate_eq, hfirst]
      exact decide_eq_true (by omega)
    have hlow : isLowSurrogate (UInt16.ofNat (0xDC00 + (c - 0x10000) % 0x400)) = true := by
      rw [isLowSurrogate_eq, hsecond]
      exact decide_eq_true (by omega)
    have hvalue : 0x10000 + (0xD800 + (c - 0x10000) / 0x400 - 0xD800) * 0x400 +
        (0xDC00 + (c - 0x10000) % 0x400 - 0xDC00) = c := by omega
    simp only [List.cons_append, List.nil_append, isWellFormed, utf8, hhigh, hlow, Bool.and_self, if_true,
      hfirst, hsecond, hvalue, and_self]

/-- Code points that are scalar values make a well-formed string, and are what it is encoded as. -/
lemma wellFormed_flatMap {points : List ℕ} (h : ∀ c ∈ points, isScalar c) :
    isWellFormed (points.flatMap fromCodePoint) = true ∧
      utf8 (points.flatMap fromCodePoint) = points.flatMap utf8CodePoint := by
  induction points with
  | nil => exact ⟨rfl, rfl⟩
  | cons c points ih =>
    obtain ⟨hformed, hbytes⟩ := ih fun d hd => h d (List.mem_cons_of_mem _ hd)
    obtain ⟨hfirst, hencoded⟩ := wellFormed_fromCodePoint (h c List.mem_cons_self) (points.flatMap fromCodePoint)
    rw [List.flatMap_cons, List.flatMap_cons, hfirst, hencoded, hformed, hbytes]
    exact ⟨rfl, rfl⟩

lemma readText_eq (s : JsString) : readText (utf8 s) = (codePoints s).flatMap fromCodePoint := by
  rw [readText, utf8_eq, decodePoints_flatMap (isScalar_codePoints s) (length_flatMap_utf8CodePoint _)]

lemma readText_utf8 {s : JsString} (h : isWellFormed s = true) : readText (utf8 s) = s := by
  rw [readText_eq, flatMap_fromCodePoint h]

lemma isUtf8_utf8 (s : JsString) : IsUtf8 (utf8 s) := by
  rw [IsUtf8, readText_eq, (wellFormed_flatMap (isScalar_codePoints s)).2, ← utf8_eq]

lemma IsUtf8.wellFormed {file : Bytes} (h : IsUtf8 file) : isWellFormed (readText file) = true := by
  rw [← h, readText_eq]
  exact (wellFormed_flatMap (isScalar_codePoints _)).1

lemma isWellFormed_both {s t : JsString} (hs : isWellFormed s = true) (ht : isWellFormed t = true) :
    isWellFormed (s ++ t) = true := by
  have hfirst : ∀ v ∈ t.head?, isLowSurrogate v = false := by
    intro v hv
    cases t with
    | nil => exact absurd hv (by simp)
    | cons u rest =>
      rw [List.head?_cons, Option.mem_some_iff] at hv
      subst hv
      by_contra hlow
      rw [Bool.not_eq_false, isLowSurrogate_eq, decide_eq_true_eq] at hlow
      have hhigh : isHighSurrogate u = false := by
        rw [isHighSurrogate_eq]
        exact decide_eq_false (by omega)
      rw [isWellFormed_cons hhigh, isLowSurrogate_eq, decide_eq_true hlow] at ht
      exact absurd ht (by simp)
  rw [isWellFormed_append s hfirst, hs, ht]
  rfl

lemma eq_of_newline_mem {c : ℕ} (h : 0x0A ∈ utf8CodePoint c) (hc : c < 0x110000) : c = 0x0A := by
  have hbyte : ∀ n : ℕ, 0x80 ≤ n → n < 0x100 → (0x0A : UInt8) ≠ UInt8.ofNat n := by
    intro n hleast hmost heq
    have hnat := congrArg UInt8.toNat heq
    rw [UInt8.toNat_ofNat_of_lt' hmost] at hnat
    have hbreak : (0x0A : UInt8).toNat = 0x0A := rfl
    omega
  unfold utf8CodePoint at h
  split at h
  · next hc =>
    have hnat := congrArg UInt8.toNat (List.mem_singleton.1 h)
    rw [UInt8.toNat_ofNat_of_lt' (show c < 2 ^ 8 by omega)] at hnat
    exact hnat.symm
  · exfalso
    split at h
    · simp only [List.mem_cons, List.not_mem_nil, or_false] at h
      rcases h with h | h <;> exact hbyte _ (by omega) (by omega) h
    · split at h
      · simp only [List.mem_cons, List.not_mem_nil, or_false] at h
        rcases h with h | h | h <;> exact hbyte _ (by omega) (by omega) h
      · simp only [List.mem_cons, List.not_mem_nil, or_false] at h
        rcases h with h | h | h | h <;> exact hbyte _ (by omega) (by omega) h

lemma newline_not_mem_utf8 {s : JsString} (hs : isWellFormed s = true) (h : newline ∉ s) : 0x0A ∉ utf8 s := by
  intro hmem
  rw [utf8_eq, List.mem_flatMap] at hmem
  obtain ⟨c, hc, hbreak⟩ := hmem
  rw [eq_of_newline_mem hbreak (codePoints_lt s c hc)] at hc
  apply h
  rw [← flatMap_fromCodePoint hs, List.mem_flatMap]
  exact ⟨0x0A, hc, by decide⟩

lemma utf8_append_newline (s t : JsString) : utf8 (s ++ newline :: t) = utf8 s ++ 0x0A :: utf8 t := by
  have hfirst : ∀ v ∈ (newline :: t).head?, isLowSurrogate v = false := by
    intro v hv
    rw [List.head?_cons, Option.mem_some_iff] at hv
    rw [← hv]
    exact isLowSurrogate_newline
  have hbreak : utf8Unit newline = [0x0A] := by decide
  rw [utf8_append s hfirst, utf8_cons isHighSurrogate_newline, hbreak]
  rfl

lemma utf8_inj {s t : JsString} (hs : isWellFormed s = true) (ht : isWellFormed t = true)
    (h : utf8 s = utf8 t) : s = t := by
  rw [← readText_utf8 hs, h, readText_utf8 ht]

/-! ## Literals -/

lemma js_eq (s : String) : js s = (s.toList.map Char.toNat).flatMap fromCodePoint := by
  rw [List.flatMap_map]
  rfl

lemma isScalar_toNat (c : Char) : isScalar c.toNat := by
  rcases c.valid with h | ⟨h, hlast⟩
  · exact .inl h
  · have hnat : c.toNat = c.val.toNat := rfl
    exact .inr ⟨by omega, hlast⟩

lemma isWellFormed_js (s : String) : isWellFormed (js s) = true := by
  rw [js_eq]
  refine (wellFormed_flatMap fun c hc => ?_).1
  obtain ⟨d, -, rfl⟩ := List.mem_map.1 hc
  exact isScalar_toNat d

lemma newline_not_mem_js {cs : List Char} (h : '\n' ∉ cs) : newline ∉ js (String.ofList cs) := by
  rw [js, String.toList_ofList]
  intro hmem
  obtain ⟨c, hc, hunit⟩ := List.mem_flatMap.1 hmem
  have hbreak : newline.toNat = 0x0A := rfl
  split at hunit
  · next hlt =>
    have heq := congrArg UInt16.toNat (List.mem_singleton.1 hunit)
    rw [UInt16.toNat_ofNat_of_lt' hlt, hbreak] at heq
    have hchar : c = '\n' := Char.ext (UInt32.toNat_inj.1 heq.symm)
    exact h (hchar ▸ hc)
  · next hge =>
    have hbound : c.toNat < 0x110000 := by
      have := isScalar_toNat c
      unfold isScalar at this
      omega
    have hfirst : (UInt16.ofNat (0xD800 + (c.toNat - 0x10000) / 0x400)).toNat =
        0xD800 + (c.toNat - 0x10000) / 0x400 :=
      UInt16.toNat_ofNat_of_lt' (show 0xD800 + (c.toNat - 0x10000) / 0x400 < 2 ^ 16 by omega)
    have hsecond : (UInt16.ofNat (0xDC00 + (c.toNat - 0x10000) % 0x400)).toNat =
        0xDC00 + (c.toNat - 0x10000) % 0x400 :=
      UInt16.toNat_ofNat_of_lt' (show 0xDC00 + (c.toNat - 0x10000) % 0x400 < 2 ^ 16 by omega)
    rcases List.mem_cons.1 hunit with heq | heq
    · have := congrArg UInt16.toNat heq
      omega
    · have := congrArg UInt16.toNat (List.mem_singleton.1 heq)
      omega

/-! ## Lines -/

lemma linesOf_append (s t : JsString) : linesOf (s ++ newline :: t) = linesOf s ++ linesOf t :=
  List.splitOn_append_cons_self s t

lemma joinLines_linesOf (s : JsString) : joinLines (linesOf s) = s := List.intercalate_splitOn newline

lemma linesOf_of_not_mem {s : JsString} (h : newline ∉ s) : linesOf s = [s] := List.splitOn_eq_singleton h

lemma linesOf_joinLines {lines : List JsString} (hne : lines ≠ []) (h : ∀ line ∈ lines, newline ∉ line) :
    linesOf (joinLines lines) = lines := List.splitOn_intercalate newline h hne

lemma joinLines_cons {line : JsString} {lines : List JsString} (h : lines ≠ []) :
    joinLines (line :: lines) = line ++ newline :: joinLines lines := by
  rw [joinLines, List.intercalate_cons_of_ne_nil h]
  simp [joinLines]

lemma joinLines_singleton (line : JsString) : joinLines [line] = line := List.intercalate_singleton

lemma joinLines_append {lines more : List JsString} (h : lines ≠ []) (hmore : more ≠ []) :
    joinLines (lines ++ more) = joinLines lines ++ newline :: joinLines more :=
  Lib.intercalate_append h hmore

lemma newline_not_mem {s line : JsString} (h : line ∈ linesOf s) : newline ∉ line := Lib.not_mem_of_mem_splitOn h

lemma linesOf_sub {s : JsString} {lines : List JsString} (hne : lines ≠ []) (h : ∀ line ∈ lines, line ∈ linesOf s) :
    linesOf (joinLines lines) = lines :=
  linesOf_joinLines hne fun line hline => newline_not_mem (h line hline)

lemma infix_of_mem_linesOf {s line : JsString} (h : line ∈ linesOf s) : line <:+: s := by
  obtain ⟨before, after, hlines⟩ := List.append_of_mem h
  have hfront : line <+: joinLines (line :: after) := by
    cases after with
    | nil => rw [joinLines_singleton]
    | cons next rest =>
      rw [joinLines_cons (List.cons_ne_nil _ _)]
      exact List.prefix_append _ _
  have hback : joinLines (line :: after) <:+ joinLines (before ++ line :: after) := by
    cases before with
    | nil => exact List.suffix_refl _
    | cons first rest =>
      rw [joinLines_append (List.cons_ne_nil _ _) (List.cons_ne_nil _ _), List.append_cons]
      exact List.suffix_append _ _
  rw [← hlines, joinLines_linesOf] at hback
  exact hfront.isInfix.trans hback.isInfix

lemma isWellFormed_joinLines (lines : List JsString) :
    isWellFormed (joinLines lines) = lines.all isWellFormed := by
  induction lines with
  | nil => rfl
  | cons line lines ih =>
    cases hlines : lines with
    | nil =>
      rw [List.all_cons, List.all_nil, Bool.and_true, joinLines_singleton]
    | cons next rest =>
      have hne : next :: rest ≠ [] := List.cons_ne_nil _ _
      have hbreak : isWellFormed (newline :: joinLines (next :: rest)) = isWellFormed (joinLines (next :: rest)) := by
        rw [isWellFormed_cons isHighSurrogate_newline, isLowSurrogate_newline]
        rfl
      rw [hlines] at ih
      rw [joinLines_cons hne, isWellFormed_append _ (by simp [isLowSurrogate_newline]), hbreak, ih, ← List.all_cons]

lemma isWellFormed_lines {s : JsString} (h : isWellFormed s = true) :
    ∀ line ∈ linesOf s, isWellFormed line = true := by
  have hall := isWellFormed_joinLines (linesOf s)
  rw [joinLines_linesOf, h] at hall
  exact List.all_eq_true.1 hall.symm

end Pherry
