import Pherry.Protocol.Schema
import Pherry.TextDecoder

/-!
# Reading JSON

`JSON.parse`, on the units of a text. A number becomes the text that `String` makes of it, which is
a parameter here: `numberText` of its lexeme. `parseJson_stringify` says that what `JSON.stringify`
wrote is read back.
-/

namespace Pherry.Protocol

/-! ## White space and strings -/

/-- White space between the tokens of a JSON text. -/
def isJsonSpace (u : UInt16) : Bool := u == 0x20 || u == 0x09 || u == 0x0A || u == 0x0D

/-- Skip white space. -/
def skipSpace (s : JsString) : JsString := s.dropWhile isJsonSpace

/-- The value of a hexadecimal digit, of either case. -/
def hexValue (u : UInt16) : Option ℕ :=
  let n := u.toNat
  if 0x30 ≤ n ∧ n ≤ 0x39 then some (n - 0x30)
  else if 0x41 ≤ n ∧ n ≤ 0x46 then some (n - 0x37)
  else if 0x61 ≤ n ∧ n ≤ 0x66 then some (n - 0x57)
  else none

/-- The unit that four hexadecimal digits spell. -/
def hexUnit (a b c d : UInt16) : Option UInt16 :=
  match hexValue a, hexValue b, hexValue c, hexValue d with
  | some a, some b, some c, some d => some (UInt16.ofNat (((a * 0x10 + b) * 0x10 + c) * 0x10 + d))
  | _, _, _, _ => none

/-- The unit a one-letter escape stands for. -/
def unescape (u : UInt16) : Option UInt16 :=
  if u = 0x22 ∨ u = 0x5C ∨ u = 0x2F then some u
  else if u = 0x62 then some 0x08
  else if u = 0x66 then some 0x0C
  else if u = 0x6E then some 0x0A
  else if u = 0x72 then some 0x0D
  else if u = 0x74 then some 0x09
  else none

/-- The unit behind a backslash. -/
def readEscape : JsString → Option (UInt16 × JsString)
  | [] => none
  | u :: rest =>
    if u = 0x75 then
      match rest with
      | a :: b :: c :: d :: rest => (hexUnit a b c d).map fun v => (v, rest)
      | _ => none
    else (unescape u).map fun v => (v, rest)

/-- One unit of a string. A control character must be escaped. -/
def readUnit : JsString → Option (UInt16 × JsString)
  | [] => none
  | u :: rest =>
    if u = 0x5C then readEscape rest
    else if u = 0x22 ∨ u < 0x20 then none
    else some (u, rest)

/-- The inside of a string and its closing quote, of at most `fuel` units. -/
def readString : ℕ → JsString → Option (JsString × JsString)
  | 0, _ => none
  | fuel + 1, s =>
    if s.head? = some 0x22 then some ([], s.tail)
    else
      match readUnit s with
      | none => none
      | some (u, rest) => (readString fuel rest).map fun r => (u :: r.1, r.2)

/-! ## Numbers -/

/-- A run of digits, which may not be empty. -/
def readDigits (s : JsString) : Option (JsString × JsString) :=
  if (s.takeWhile isDigit).isEmpty then none
  else some (s.takeWhile isDigit, s.dropWhile isDigit)

/-- The fraction of a number, if it has one. -/
def readFraction (s : JsString) : Option (JsString × JsString) :=
  if s.head? = some 0x2E then (readDigits s.tail).map fun r => (0x2E :: r.1, r.2)
  else some ([], s)

/-- A sign, if there is one. -/
def readSign (signs : List UInt16) : JsString → JsString × JsString
  | [] => ([], [])
  | u :: rest => if u ∈ signs then ([u], rest) else ([], u :: rest)

/-- The exponent of a number, if it has one. -/
def readExponent : JsString → Option (JsString × JsString)
  | [] => some ([], [])
  | u :: rest =>
    if u = 0x65 ∨ u = 0x45 then
      (readDigits (readSign [0x2B, 0x2D] rest).2).map fun r =>
        (u :: (readSign [0x2B, 0x2D] rest).1 ++ r.1, r.2)
    else some ([], u :: rest)

/-- A number as it is written. A second digit may not follow a leading zero. -/
def readNumber (s : JsString) : Option (JsString × JsString) := do
  let sign := readSign [0x2D] s
  let whole ← readDigits sign.2
  if whole.1.head? = some 0x30 ∧ whole.1.length ≠ 1 then none
  else
    let fraction ← readFraction whole.2
    let exponent ← readExponent fraction.2
    some (sign.1 ++ whole.1 ++ fraction.1 ++ exponent.1, exponent.2)

/-! ## Values -/

/-- Set a key of an object: a key that occurs again keeps its place and takes the later value. -/
def setField (fields : List (JsString × Json)) (key : JsString) (value : Json) :
    List (JsString × Json) :=
  if key ∈ fields.map Prod.fst then
    fields.map fun entry => if entry.1 = key then (key, value) else entry
  else fields ++ [(key, value)]

/-- The object of the fields that were read. -/
def objectOf (fields : List (JsString × Json)) : Json :=
  .obj (fields.foldl (fun object field => setField object field.1 field.2) [])

/-- What stands behind a word, if the text begins with it. -/
def behind (word s : JsString) : Option JsString :=
  if word.isPrefixOf s then some (s.drop word.length) else none

/-- `null`, `true` or `false`. -/
def readWord (s : JsString) : Option (Json × JsString) :=
  match behind (js "null") s, behind (js "true") s, behind (js "false") s with
  | some rest, _, _ => some (.null, rest)
  | _, some rest, _ => some (.bool true, rest)
  | _, _, some rest => some (.bool false, rest)
  | _, _, _ => none

variable (numberText : JsString → JsString)

mutual

/-- A value, nested and long at most as `fuel` allows. -/
def readValue : ℕ → JsString → Option (Json × JsString)
  | 0, _ => none
  | fuel + 1, s =>
    match skipSpace s with
    | [] => none
    | u :: rest =>
      if u = 0x22 then (readString (rest.length + 1) rest).map fun r => (.str r.1, r.2)
      else if u = 0x5B then
        if (skipSpace rest).head? = some 0x5D then some (.arr [], (skipSpace rest).tail)
        else (readItems fuel rest).map fun r => (.arr r.1, r.2)
      else if u = 0x7B then
        if (skipSpace rest).head? = some 0x7D then some (.obj [], (skipSpace rest).tail)
        else (readFields fuel rest).map fun r => (objectOf r.1, r.2)
      else
        match readWord (u :: rest) with
        | some r => some r
        | none => (readNumber (u :: rest)).map fun r => (.num (numberText r.1), r.2)

/-- The items of an array that is not empty, and its bracket. -/
def readItems : ℕ → JsString → Option (List Json × JsString)
  | 0, _ => none
  | fuel + 1, s =>
    match readValue fuel s with
    | none => none
    | some (item, rest) =>
      match skipSpace rest with
      | [] => none
      | u :: rest =>
        if u = 0x2C then (readItems fuel rest).map fun r => (item :: r.1, r.2)
        else if u = 0x5D then some ([item], rest)
        else none

/-- The fields of an object that is not empty, and its brace. -/
def readFields : ℕ → JsString → Option (List (JsString × Json) × JsString)
  | 0, _ => none
  | fuel + 1, s =>
    if (skipSpace s).head? = some 0x22 then
      match readString (s.length + 1) (skipSpace s).tail with
      | none => none
      | some (key, rest) =>
        if (skipSpace rest).head? = some 0x3A then
          match readValue fuel (skipSpace rest).tail with
          | none => none
          | some (value, rest) =>
            match skipSpace rest with
            | [] => none
            | u :: rest =>
              if u = 0x2C then (readFields fuel rest).map fun r => ((key, value) :: r.1, r.2)
              else if u = 0x7D then some ([(key, value)], rest)
              else none
        else none
    else none

end

/-- `JSON.parse`; `none` where it throws. Every value takes a unit, so the text bounds the fuel. -/
def parseJson (text : JsString) : Option Json :=
  match readValue numberText (text.length + 1) text with
  | some (value, rest) => if skipSpace rest = [] then some value else none
  | none => none

/-! ## Strings that were quoted -/

lemma hexValue_digit : ∀ n < 16,
    hexValue (UInt16.ofNat (if n < 10 then 0x30 + n else 0x57 + n)) = some n := by decide

lemma readUnit_unicodeEscape (u : UInt16) (rest : JsString) :
    readUnit (unicodeEscape u ++ rest) = some (u, rest) := by
  have hu : u.toNat < 0x10000 := u.toNat_lt
  have hword : js "\\u" = [0x5C, 0x75] := by decide
  have hunit : ((u.toNat / 0x1000 * 0x10 + u.toNat / 0x100 % 0x10) * 0x10 + u.toNat / 0x10 % 0x10)
      * 0x10 + u.toNat % 0x10 = u.toNat := by omega
  rw [unicodeEscape, hword]
  simp only [List.cons_append, List.nil_append, readUnit, if_true, readEscape, hexUnit,
    hexValue_digit (u.toNat / 0x1000) (by omega), hexValue_digit (u.toNat / 0x100 % 0x10) (by omega),
    hexValue_digit (u.toNat / 0x10 % 0x10) (by omega), hexValue_digit (u.toNat % 0x10) (by omega)]
  rw [hunit, UInt16.ofNat_toNat]
  rfl

lemma readUnit_quoteUnit (u : UInt16) (rest : JsString) :
    readUnit (quoteUnit u ++ rest) = some (u, rest) := by
  have hletter : ∀ letter, letter ≠ 0x75 → unescape letter = some u →
      readUnit ([0x5C, letter] ++ rest) = some (u, rest) := by
    intro letter hletter hunit
    simp [readUnit, readEscape, hletter, hunit]
  unfold quoteUnit
  split
  · next h => exact hletter 0x22 (by decide) (by rw [h]; rfl)
  · next hquote =>
    split
    · next h => exact hletter 0x5C (by decide) (by rw [h]; rfl)
    · next hslash =>
      split
      · next h => exact hletter 0x62 (by decide) (by rw [h]; rfl)
      · split
        · next h => exact hletter 0x74 (by decide) (by rw [h]; rfl)
        · split
          · next h => exact hletter 0x6E (by decide) (by rw [h]; rfl)
          · split
            · next h => exact hletter 0x66 (by decide) (by rw [h]; rfl)
            · split
              · next h => exact hletter 0x72 (by decide) (by rw [h]; rfl)
              · split
                · exact readUnit_unicodeEscape u rest
                · next hplain =>
                  rw [not_or] at hplain
                  simp [readUnit, hquote, hslash, hplain.1]

lemma readString_of_readUnit {s rest : JsString} {u : UInt16} (h : readUnit s = some (u, rest))
    (fuel : ℕ) : readString (fuel + 1) s = (readString fuel rest).map fun r => (u :: r.1, r.2) := by
  have hopen : s.head? ≠ some 0x22 := by
    intro hhead
    rw [List.head?_eq_some_iff] at hhead
    obtain ⟨t, rfl⟩ := hhead
    simp [readUnit] at h
  rw [readString, if_neg hopen, h]

lemma readUnit_surrogate {u : UInt16} (h : isHighSurrogate u = true ∨ isLowSurrogate u = true)
    (rest : JsString) : readUnit (u :: rest) = some (u, rest) := by
  have hrange : 0xD800 ≤ u.toNat := by
    rcases h with hhigh | hlow
    · exact (toNat_of_high hhigh).1
    · have hleast := (toNat_of_low hlow).1
      omega
  have hslash : u ≠ 0x5C := by
    rintro rfl
    revert hrange
    decide
  have hquote : u ≠ 0x22 := by
    rintro rfl
    revert hrange
    decide
  have hcontrol : ¬ u < 0x20 := by
    intro hlt
    have hsmall : u.toNat < 0x20 := UInt16.lt_iff_toNat_lt.1 hlt
    omega
  rw [readUnit, if_neg hslash, if_neg (not_or.2 ⟨hquote, hcontrol⟩)]

lemma readString_quoteUnits (s rest : JsString) {fuel : ℕ} (hfuel : s.length < fuel) :
    readString fuel (quoteUnits s ++ 0x22 :: rest) = some (s, rest) := by
  induction s using quoteUnits.induct generalizing fuel with
  | case1 =>
    obtain ⟨fuel, rfl⟩ : ∃ n, fuel = n + 1 := ⟨fuel - 1, by omega⟩
    rfl
  | case2 u =>
    obtain ⟨fuel, rfl⟩ : ∃ n, fuel = n + 2 := ⟨fuel - 2, by rw [List.length_singleton] at hfuel; omega⟩
    rw [quoteUnits, readString_of_readUnit (readUnit_quoteUnit u _)]
    rfl
  | case3 u v tail hpair ih =>
    rw [List.length_cons, List.length_cons] at hfuel
    obtain ⟨fuel, rfl⟩ : ∃ n, fuel = n + 2 := ⟨fuel - 2, by omega⟩
    have hpair' := hpair
    rw [Bool.and_eq_true] at hpair'
    rw [quoteUnits, if_pos hpair, List.cons_append, List.cons_append,
      readString_of_readUnit (readUnit_surrogate (.inl hpair'.1) _),
      readString_of_readUnit (readUnit_surrogate (.inr hpair'.2) _), ih (by omega)]
    rfl
  | case4 u v tail hpair ih =>
    rw [List.length_cons] at hfuel
    obtain ⟨fuel, rfl⟩ : ∃ n, fuel = n + 1 := ⟨fuel - 1, by omega⟩
    rw [quoteUnits, if_neg hpair, List.append_assoc,
      readString_of_readUnit (readUnit_quoteUnit u _), ih (by omega)]
    rfl

/-! ## Values that were written -/

/-- The text of a natural number. -/
def isNaturalText (text : JsString) : Prop :=
  text ≠ [] ∧ text.all isDigit = true ∧ (text.head? = some 0x30 → text.length = 1)

mutual

/-- A value as a program holds it: its numbers are naturals with the text `String` makes of them,
and no key of an object occurs twice. -/
def Json.canonical : Json → Prop
  | .num text => isNaturalText text ∧ numberText text = text
  | .arr items => canonicalItems items
  | .obj fields => (fields.map Prod.fst).Nodup ∧ canonicalFields fields
  | _ => True

/-- Every item is canonical. -/
def canonicalItems : List Json → Prop
  | [] => True
  | item :: rest => item.canonical ∧ canonicalItems rest

/-- Every field is canonical. -/
def canonicalFields : List (JsString × Json) → Prop
  | [] => True
  | field :: rest => field.2.canonical ∧ canonicalFields rest

end

/-- What may follow a value: nothing, a comma or a closing bracket. -/
def Follows (rest : JsString) : Prop := ∀ u ∈ rest.head?, u = 0x2C ∨ u = 0x5D ∨ u = 0x7D

lemma takeWhile_isDigit {text rest : JsString} (htext : text.all isDigit = true)
    (hrest : Follows rest) : (text ++ rest).takeWhile isDigit = text ∧
      (text ++ rest).dropWhile isDigit = rest := by
  have hstop : rest.takeWhile isDigit = [] ∧ rest.dropWhile isDigit = rest := by
    cases rest with
    | nil => exact ⟨rfl, rfl⟩
    | cons u rest =>
      have hu : isDigit u = false := by
        rcases hrest u rfl with rfl | rfl | rfl <;> decide
      simp [hu]
  rw [List.all_eq_true] at htext
  rw [List.takeWhile_append_of_pos htext, List.dropWhile_append_of_pos htext, hstop.1, hstop.2, List.append_nil]
  exact ⟨rfl, rfl⟩

lemma head_of_follows {rest : JsString} (h : Follows rest) {u : UInt16}
    (hu : u ≠ 0x2C ∧ u ≠ 0x5D ∧ u ≠ 0x7D) : rest.head? ≠ some u := by
  intro hhead
  rcases h u hhead with h | h | h
  · exact hu.1 h
  · exact hu.2.1 h
  · exact hu.2.2 h

lemma readNumber_natural {text rest : JsString} (htext : isNaturalText text)
    (hrest : Follows rest) : readNumber (text ++ rest) = some (text, rest) := by
  obtain ⟨hne, hdigits, hzero⟩ := htext
  obtain ⟨htake, hdrop⟩ := takeWhile_isDigit hdigits hrest
  have hsign : readSign [0x2D] (text ++ rest) = ([], text ++ rest) := by
    cases text with
    | nil => exact absurd rfl hne
    | cons u tail =>
      have hu : isDigit u = true := (List.all_eq_true.1 hdigits) u List.mem_cons_self
      have hminus : u ≠ 0x2D := by
        rintro rfl
        revert hu
        decide
      simp [readSign, hminus]
  have hwhole : readDigits (text ++ rest) = some (text, rest) := by
    rw [readDigits, htake, hdrop, if_neg (by rwa [List.isEmpty_iff])]
  have hlead : ¬ (text.head? = some 0x30 ∧ text.length ≠ 1) := fun h => h.2 (hzero h.1)
  have hfraction : readFraction rest = some ([], rest) := by
    rw [readFraction, if_neg (head_of_follows hrest (by decide))]
  have hexponent : readExponent rest = some ([], rest) := by
    cases rest with
    | nil => rfl
    | cons u rest =>
      have hu : ¬ (u = 0x65 ∨ u = 0x45) := by
        rcases hrest u rfl with rfl | rfl | rfl <;> decide
      rw [readExponent, if_neg hu]
  simp only [readNumber, Option.bind_eq_bind, hsign, hwhole, Option.bind_some, if_neg hlead,
    hfraction, hexponent, List.nil_append, List.append_nil]

lemma foldl_setField {fields : List (JsString × Json)} (object : List (JsString × Json))
    (h : ((object ++ fields).map Prod.fst).Nodup) :
    fields.foldl (fun object field => setField object field.1 field.2) object = object ++ fields := by
  induction fields generalizing object with
  | nil => simp
  | cons field fields ih =>
    have hnew : field.1 ∉ object.map Prod.fst := by
      rw [List.map_append, List.nodup_append] at h
      intro hmem
      exact h.2.2 _ hmem field.1 (List.mem_cons_self) rfl
    rw [List.foldl_cons, setField, if_neg hnew, ih _ (by simpa using h)]
    simp

lemma objectOf_eq {fields : List (JsString × Json)} (h : (fields.map Prod.fst).Nodup) :
    objectOf fields = .obj fields := by
  rw [objectOf, foldl_setField [] (by simpa using h), List.nil_append]

lemma stringify_eq_cons {j : Json} (h : j.canonical numberText) :
    ∃ u t, stringify j = u :: t ∧ isJsonSpace u = false ∧ u ≠ 0x5D ∧ u ≠ 0xFEFF := by
  cases j with
  | null => exact ⟨0x6E, js "ull", by decide, by decide, by decide, by decide⟩
  | bool b =>
    cases b
    · exact ⟨0x66, js "alse", by decide, by decide, by decide, by decide⟩
    · exact ⟨0x74, js "rue", by decide, by decide, by decide, by decide⟩
  | num text =>
    obtain ⟨hne, hdigits, -⟩ := h.1
    cases text with
    | nil => exact absurd rfl hne
    | cons u t =>
      have hu : isDigit u = true := (List.all_eq_true.1 hdigits) u List.mem_cons_self
      refine ⟨u, t, rfl, ?_, ?_, ?_⟩
      · by_contra hspace
        simp only [isJsonSpace, Bool.or_eq_true, beq_iff_eq, Bool.not_eq_false] at hspace
        rcases hspace with ((rfl | rfl) | rfl) | rfl <;> revert hu <;> decide
      · rintro rfl
        revert hu
        decide
      · rintro rfl
        revert hu
        decide
  | str s => exact ⟨0x22, quoteUnits s ++ [0x22], rfl, by decide, by decide, by decide⟩
  | arr items => exact ⟨0x5B, stringifyItems items ++ [0x5D], rfl, by decide, by decide, by decide⟩
  | obj fields => exact ⟨0x7B, stringifyFields fields ++ [0x7D], rfl, by decide, by decide, by decide⟩

lemma skipSpace_cons {u : UInt16} (h : isJsonSpace u = false) (s : JsString) :
    skipSpace (u :: s) = u :: s := by
  rw [skipSpace, List.dropWhile_cons_of_neg (by rw [h]; decide)]

lemma behind_append (word rest : JsString) : behind word (word ++ rest) = some rest := by
  rw [behind, if_pos (by simp), List.drop_left]

lemma follows_cons {u : UInt16} (h : u = 0x2C ∨ u = 0x5D ∨ u = 0x7D) (s : JsString) :
    Follows (u :: s) := by
  intro v hv
  obtain rfl := Option.some.inj hv
  exact h

lemma readWord_digit {u : UInt16} (h : isDigit u = true) (s : JsString) :
    readWord (u :: s) = none := by
  have hbegins : ∀ v t, isDigit v = false → behind (v :: t) (u :: s) = none := by
    intro v t hv
    have hne : v ≠ u := by
      rintro rfl
      rw [h] at hv
      cases hv
    rw [behind, if_neg (by simp [List.isPrefixOf, hne])]
  have hnull : js "null" = 0x6E :: js "ull" := by decide
  have htrue : js "true" = 0x74 :: js "rue" := by decide
  have hfalse : js "false" = 0x66 :: js "alse" := by decide
  rw [readWord, hnull, htrue, hfalse, hbegins _ _ (by decide), hbegins _ _ (by decide),
    hbegins _ _ (by decide)]

/-! ### One token at a time -/

variable {numberText}

lemma readValue_word {u : UInt16} {s rest : JsString} {j : Json} (hspace : isJsonSpace u = false)
    (hkind : u ≠ 0x22 ∧ u ≠ 0x5B ∧ u ≠ 0x7B) (hword : readWord (u :: s) = some (j, rest)) (fuel : ℕ) :
    readValue numberText (fuel + 1) (u :: s) = some (j, rest) := by
  rw [readValue, skipSpace_cons hspace]
  simp only [if_neg hkind.1, if_neg hkind.2.1, if_neg hkind.2.2, hword]

lemma readValue_number {u : UInt16} {s text rest : JsString} (hu : isDigit u = true)
    (hnumber : readNumber (u :: s) = some (text, rest)) (fuel : ℕ) :
    readValue numberText (fuel + 1) (u :: s) = some (.num (numberText text), rest) := by
  have hother : ∀ v, isDigit v = false → u ≠ v := by
    rintro v hv rfl
    rw [hu] at hv
    cases hv
  have hspace : isJsonSpace u = false := by
    simp [isJsonSpace, hother 0x20 (by decide), hother 0x09 (by decide), hother 0x0A (by decide),
      hother 0x0D (by decide)]
  rw [readValue, skipSpace_cons hspace]
  simp only [if_neg (hother 0x22 (by decide)), if_neg (hother 0x5B (by decide)),
    if_neg (hother 0x7B (by decide)), readWord_digit hu, hnumber, Option.map_some]

lemma readValue_quote (s rest : JsString) (fuel : ℕ) :
    readValue numberText (fuel + 1) (quote s ++ rest) = some (.str s, rest) := by
  have htext : quote s ++ rest = 0x22 :: (quoteUnits s ++ 0x22 :: rest) := by simp [quote]
  have hlength : s.length < (quoteUnits s ++ 0x22 :: rest).length + 1 := by
    have hquoted := length_le_quoteUnits s
    rw [List.length_append]
    omega
  rw [htext, readValue, skipSpace_cons (by decide)]
  simp only [if_true, readString_quoteUnits s rest hlength, Option.map_some]

lemma readValue_array {s rest : JsString} {items : List Json} {fuel : ℕ}
    (hopen : (skipSpace s).head? ≠ some 0x5D)
    (hitems : readItems numberText fuel s = some (items, rest)) :
    readValue numberText (fuel + 1) (0x5B :: s) = some (.arr items, rest) := by
  rw [readValue, skipSpace_cons (by decide)]
  simp [hopen, hitems]

lemma readValue_object {s rest : JsString} {fields : List (JsString × Json)} {fuel : ℕ}
    (hopen : (skipSpace s).head? ≠ some 0x7D)
    (hfields : readFields numberText fuel s = some (fields, rest)) :
    readValue numberText (fuel + 1) (0x7B :: s) = some (objectOf fields, rest) := by
  rw [readValue, skipSpace_cons (by decide)]
  simp [hopen, hfields]

lemma readItems_last {s rest : JsString} {item : Json} {fuel : ℕ}
    (hitem : readValue numberText fuel s = some (item, 0x5D :: rest)) :
    readItems numberText (fuel + 1) s = some ([item], rest) := by
  have hbracket : skipSpace (0x5D :: rest) = 0x5D :: rest := skipSpace_cons (by decide) rest
  simp [readItems, hitem, hbracket]

lemma readItems_more {s t rest : JsString} {item : Json} {items : List Json} {fuel : ℕ}
    (hitem : readValue numberText fuel s = some (item, 0x2C :: t))
    (hitems : readItems numberText fuel t = some (items, rest)) :
    readItems numberText (fuel + 1) s = some (item :: items, rest) := by
  have hcomma : skipSpace (0x2C :: t) = 0x2C :: t := skipSpace_cons (by decide) t
  simp [readItems, hitem, hcomma, hitems]

lemma readFields_field {key t after : JsString} {value : Json} {fuel : ℕ}
    (hvalue : readValue numberText fuel t = some (value, after)) :
    readFields numberText (fuel + 1) (quote key ++ 0x3A :: t) =
      match skipSpace after with
      | [] => none
      | u :: rest =>
        if u = 0x2C then (readFields numberText fuel rest).map fun r => ((key, value) :: r.1, r.2)
        else if u = 0x7D then some ([(key, value)], rest)
        else none := by
  have htext : quote key ++ 0x3A :: t = 0x22 :: (quoteUnits key ++ 0x22 :: 0x3A :: t) := by
    simp [quote]
  have hlength : key.length < (0x22 :: (quoteUnits key ++ 0x22 :: 0x3A :: t)).length + 1 := by
    have hquoted := length_le_quoteUnits key
    rw [List.length_cons, List.length_append]
    omega
  have hkey := readString_quoteUnits key (0x3A :: t) hlength
  have hcolon : skipSpace (0x3A :: t) = 0x3A :: t := skipSpace_cons (by decide) t
  rw [htext, readFields, skipSpace_cons (by decide)]
  simp only [List.head?_cons, List.tail_cons, if_true, hkey, hcolon, hvalue]

lemma readFields_last {key t rest : JsString} {value : Json} {fuel : ℕ}
    (hvalue : readValue numberText fuel t = some (value, 0x7D :: rest)) :
    readFields numberText (fuel + 1) (quote key ++ 0x3A :: t) = some ([(key, value)], rest) := by
  rw [readFields_field hvalue, skipSpace_cons (by decide)]
  simp

lemma readFields_more {key t t' rest : JsString} {value : Json}
    {fields : List (JsString × Json)} {fuel : ℕ}
    (hvalue : readValue numberText fuel t = some (value, 0x2C :: t'))
    (hfields : readFields numberText fuel t' = some (fields, rest)) :
    readFields numberText (fuel + 1) (quote key ++ 0x3A :: t) =
      some ((key, value) :: fields, rest) := by
  rw [readFields_field hvalue, skipSpace_cons (by decide)]
  simp [hfields]

lemma readWord_of_word {word rest : JsString} {j : Json}
    (h : word = js "null" ∧ j = .null ∨ word = js "true" ∧ j = .bool true ∨
      word = js "false" ∧ j = .bool false) :
    readWord (word ++ rest) = some (j, rest) := by
  have hnull : js "null" = [0x6E, 0x75, 0x6C, 0x6C] := by decide
  have htrue : js "true" = [0x74, 0x72, 0x75, 0x65] := by decide
  have hfalse : js "false" = [0x66, 0x61, 0x6C, 0x73, 0x65] := by decide
  rw [readWord]
  rcases h with ⟨rfl, rfl⟩ | ⟨rfl, rfl⟩ | ⟨rfl, rfl⟩
  · rw [behind_append]
  · have hother : behind (js "null") (js "true" ++ rest) = none := by
      rw [hnull, htrue]
      rfl
    rw [behind_append, hother]
  · have hother : behind (js "null") (js "false" ++ rest) = none := by
      rw [hnull, hfalse]
      rfl
    have hother' : behind (js "true") (js "false" ++ rest) = none := by
      rw [htrue, hfalse]
      rfl
    rw [behind_append, hother, hother']

lemma head_skipSpace_stringify {j : Json} (h : j.canonical numberText) (rest : JsString) :
    (skipSpace (stringify j ++ rest)).head? ≠ some 0x5D := by
  obtain ⟨u, t, htext, hspace, hbracket, -⟩ := stringify_eq_cons numberText h
  rw [htext, List.cons_append, skipSpace_cons hspace, List.head?_cons]
  exact fun heq => hbracket (Option.some.inj heq)

lemma length_stringify_pos {j : Json} (h : j.canonical numberText) :
    0 < (stringify j).length := by
  obtain ⟨u, t, htext, -⟩ := stringify_eq_cons numberText h
  rw [htext]
  exact Nat.succ_pos _

/-! ### Every value -/

mutual

lemma readValue_stringify : (j : Json) → j.canonical numberText → ∀ (fuel : ℕ) (rest : JsString),
    (stringify j).length ≤ fuel → Follows rest →
      readValue numberText fuel (stringify j ++ rest) = some (j, rest)
  | .null, h, fuel, rest, hfuel, _ => by
    have hpos := length_stringify_pos h
    obtain ⟨fuel, rfl⟩ : ∃ n, fuel = n + 1 := ⟨fuel - 1, by omega⟩
    exact readValue_word (u := 0x6E) (by decide) (by decide) (readWord_of_word (.inl ⟨rfl, rfl⟩)) fuel
  | .bool true, h, fuel, rest, hfuel, _ => by
    have hpos := length_stringify_pos h
    obtain ⟨fuel, rfl⟩ : ∃ n, fuel = n + 1 := ⟨fuel - 1, by omega⟩
    exact readValue_word (u := 0x74) (by decide) (by decide)
      (readWord_of_word (.inr (.inl ⟨rfl, rfl⟩))) fuel
  | .bool false, h, fuel, rest, hfuel, _ => by
    have hpos := length_stringify_pos h
    obtain ⟨fuel, rfl⟩ : ∃ n, fuel = n + 1 := ⟨fuel - 1, by omega⟩
    exact readValue_word (u := 0x66) (by decide) (by decide)
      (readWord_of_word (.inr (.inr ⟨rfl, rfl⟩))) fuel
  | .num text, h, fuel, rest, hfuel, hrest => by
    have hpos := length_stringify_pos h
    obtain ⟨fuel, rfl⟩ : ∃ n, fuel = n + 1 := ⟨fuel - 1, by omega⟩
    have hnumber := readNumber_natural h.1 hrest
    have hdigits := List.all_eq_true.1 h.1.2.1
    rw [stringify]
    cases text with
    | nil => exact absurd rfl h.1.1
    | cons u t =>
      rw [List.cons_append] at hnumber ⊢
      rw [readValue_number (hdigits u List.mem_cons_self) hnumber, h.2]
  | .str s, h, fuel, rest, hfuel, _ => by
    have hpos := length_stringify_pos h
    obtain ⟨fuel, rfl⟩ : ∃ n, fuel = n + 1 := ⟨fuel - 1, by omega⟩
    rw [stringify, readValue_quote]
  | .arr [], h, fuel, rest, hfuel, _ => by
    have hpos := length_stringify_pos h
    obtain ⟨fuel, rfl⟩ : ∃ n, fuel = n + 1 := ⟨fuel - 1, by omega⟩
    have hbracket : skipSpace (0x5D :: rest) = 0x5D :: rest := skipSpace_cons (by decide) rest
    have htext : stringify (.arr []) ++ rest = 0x5B :: 0x5D :: rest := by
      simp [stringify, stringifyItems]
    rw [htext, readValue, skipSpace_cons (by decide)]
    simp [hbracket]
  | .arr (item :: items), h, fuel, rest, hfuel, _ => by
    have htext : stringify (.arr (item :: items)) ++ rest =
        0x5B :: (stringifyItems (item :: items) ++ 0x5D :: rest) := by simp [stringify]
    rw [stringify, List.length_append, List.length_append, List.length_singleton, List.length_singleton] at hfuel
    obtain ⟨fuel, rfl⟩ : ∃ n, fuel = n + 1 := ⟨fuel - 1, by omega⟩
    have hitem : item.canonical numberText := h.1
    have hopen : (skipSpace (stringifyItems (item :: items) ++ 0x5D :: rest)).head? ≠ some 0x5D := by
      cases items with
      | nil => exact head_skipSpace_stringify hitem _
      | cons next items =>
        rw [stringifyItems, List.append_assoc, List.append_assoc]
        exact head_skipSpace_stringify hitem _
    rw [htext]
    exact readValue_array hopen (readItems_stringify item items h _ _ (by omega))
  | .obj [], h, fuel, rest, hfuel, _ => by
    have hpos := length_stringify_pos h
    obtain ⟨fuel, rfl⟩ : ∃ n, fuel = n + 1 := ⟨fuel - 1, by omega⟩
    have hbrace : skipSpace (0x7D :: rest) = 0x7D :: rest := skipSpace_cons (by decide) rest
    have htext : stringify (.obj []) ++ rest = 0x7B :: 0x7D :: rest := by
      simp [stringify, stringifyFields]
    rw [htext, readValue, skipSpace_cons (by decide)]
    simp [hbrace]
  | .obj ((key, value) :: fields), h, fuel, rest, hfuel, _ => by
    have htext : stringify (.obj ((key, value) :: fields)) ++ rest =
        0x7B :: (stringifyFields ((key, value) :: fields) ++ 0x7D :: rest) := by simp [stringify]
    rw [stringify, List.length_append, List.length_append, List.length_singleton, List.length_singleton] at hfuel
    obtain ⟨fuel, rfl⟩ : ∃ n, fuel = n + 1 := ⟨fuel - 1, by omega⟩
    have hquote : ∀ t, (skipSpace (quote key ++ t)).head? ≠ some 0x7D := by
      intro t
      rw [quote, List.append_assoc, List.append_assoc, List.cons_append, skipSpace_cons (by decide)]
      simp
    have hopen : (skipSpace (stringifyFields ((key, value) :: fields) ++ 0x7D :: rest)).head? ≠
        some 0x7D := by
      cases fields with
      | nil =>
        rw [stringifyFields, List.append_assoc, List.append_assoc]
        exact hquote _
      | cons next fields =>
        simp only [stringifyFields, List.append_assoc]
        exact hquote _
    rw [htext, ← objectOf_eq h.1]
    exact readValue_object hopen (readFields_stringify key value fields h.2 _ _ (by omega))
termination_by j => sizeOf j

lemma readItems_stringify : (item : Json) → (items : List Json) →
    canonicalItems numberText (item :: items) → ∀ (fuel : ℕ) (rest : JsString),
      (stringifyItems (item :: items)).length + 1 ≤ fuel →
      readItems numberText fuel (stringifyItems (item :: items) ++ 0x5D :: rest) =
        some (item :: items, rest)
  | item, [], h, fuel, rest, hfuel => by
    obtain ⟨fuel, rfl⟩ : ∃ n, fuel = n + 1 := ⟨fuel - 1, by omega⟩
    rw [stringifyItems] at hfuel ⊢
    exact readItems_last (readValue_stringify item h.1 _ _ (by omega) (follows_cons (by decide) rest))
  | item, next :: items, h, fuel, rest, hfuel => by
    obtain ⟨fuel, rfl⟩ : ∃ n, fuel = n + 1 := ⟨fuel - 1, by omega⟩
    have hpos := length_stringify_pos h.1
    rw [stringifyItems, List.length_append, List.length_append, List.length_singleton] at hfuel
    have hitems := readItems_stringify next items h.2 fuel rest (by omega)
    rw [stringifyItems, List.append_assoc, List.append_assoc, List.singleton_append]
    exact readItems_more
      (readValue_stringify item h.1 _ _ (by omega) (follows_cons (by decide) _)) hitems
termination_by item items => sizeOf (item :: items)

lemma readFields_stringify : (key : JsString) → (value : Json) →
    (fields : List (JsString × Json)) → canonicalFields numberText ((key, value) :: fields) →
      ∀ (fuel : ℕ) (rest : JsString),
        (stringifyFields ((key, value) :: fields)).length + 1 ≤ fuel →
        readFields numberText fuel (stringifyFields ((key, value) :: fields) ++ 0x7D :: rest) =
          some ((key, value) :: fields, rest)
  | key, value, [], h, fuel, rest, hfuel => by
    obtain ⟨fuel, rfl⟩ : ∃ n, fuel = n + 1 := ⟨fuel - 1, by omega⟩
    rw [stringifyFields, List.length_append, List.length_append] at hfuel
    rw [stringifyFields, List.append_assoc, List.append_assoc, List.singleton_append]
    exact readFields_last (readValue_stringify value h.1 _ _ (by omega) (follows_cons (by decide) rest))
  | key, value, (key', value') :: fields, h, fuel, rest, hfuel => by
    obtain ⟨fuel, rfl⟩ : ∃ n, fuel = n + 1 := ⟨fuel - 1, by omega⟩
    simp only [stringifyFields, List.length_append, List.length_singleton] at hfuel
    have hfields := readFields_stringify key' value' fields h.2 fuel rest (by omega)
    rw [stringifyFields, List.append_assoc, List.append_assoc, List.append_assoc, List.append_assoc,
      List.singleton_append, List.singleton_append]
    exact readFields_more
      (readValue_stringify value h.1 _ _ (by omega) (follows_cons (by decide) _)) hfields
termination_by key value fields => sizeOf ((key, value) :: fields)

end

lemma parseJson_stringify {j : Json} (h : j.canonical numberText) :
    parseJson numberText (stringify j) = some j := by
  have hread := readValue_stringify j h ((stringify j).length + 1) [] (Nat.le_succ _)
    (by intro u hu; cases hu)
  rw [List.append_nil] at hread
  rw [parseJson, hread]
  rfl

/-! ## Through UTF-8 -/

/-- A well-formed string that can be put behind any other. -/
def Stands (s : JsString) : Prop :=
  isWellFormed s = true ∧ ∀ v ∈ s.head?, isLowSurrogate v = false

lemma Stands.append {s t : JsString} (hs : Stands s) (ht : Stands t) : Stands (s ++ t) := by
  refine ⟨by rw [isWellFormed_append s ht.2, hs.1, ht.1]; rfl, ?_⟩
  cases s with
  | nil => exact ht.2
  | cons u s => exact hs.2

lemma stands_singleton {u : UInt16} (h : (isHighSurrogate u || isLowSurrogate u) = false) :
    Stands [u] := by
  refine ⟨by rw [isWellFormed, h]; rfl, ?_⟩
  intro v hv
  obtain rfl := Option.some.inj hv
  exact (Bool.or_eq_false_iff.1 h).2

lemma stands_of_isAscii {s : JsString} (h : isAscii s = true) : Stands s := by
  induction s with
  | nil => exact ⟨rfl, by simp⟩
  | cons u s ih =>
    rw [isAscii, List.all_cons, Bool.and_eq_true, decide_eq_true_eq] at h
    obtain ⟨hhigh, hlow⟩ := not_surrogate_of_ascii h.1
    rw [← List.singleton_append]
    exact (stands_singleton (by rw [hhigh, hlow]; rfl)).append (ih h.2)

lemma isAscii_unicodeEscape (u : UInt16) : isAscii (unicodeEscape u) = true := by
  have hdigit : ∀ n < 16, UInt16.ofNat (if n < 10 then 0x30 + n else 0x57 + n) < 0x80 := by decide
  have hu : u.toNat < 0x10000 := u.toNat_lt
  have hword : js "\\u" = [0x5C, 0x75] := by decide
  rw [isAscii, unicodeEscape, hword]
  simp [hdigit (u.toNat / 0x1000) (by omega), hdigit (u.toNat / 0x100 % 0x10) (by omega),
    hdigit (u.toNat / 0x10 % 0x10) (by omega), hdigit (u.toNat % 0x10) (by omega)]

lemma stands_quoteUnit (u : UInt16) : Stands (quoteUnit u) := by
  unfold quoteUnit
  split
  · exact stands_of_isAscii (by decide)
  · split
    · exact stands_of_isAscii (by decide)
    · split
      · exact stands_of_isAscii (by decide)
      · split
        · exact stands_of_isAscii (by decide)
        · split
          · exact stands_of_isAscii (by decide)
          · split
            · exact stands_of_isAscii (by decide)
            · split
              · exact stands_of_isAscii (by decide)
              · split
                · exact stands_of_isAscii (isAscii_unicodeEscape u)
                · next hplain =>
                  simp only [not_or, Bool.not_eq_true] at hplain
                  exact stands_singleton (by rw [hplain.2.1, hplain.2.2]; rfl)

lemma stands_quoteUnits (s : JsString) : Stands (quoteUnits s) := by
  induction s using quoteUnits.induct with
  | case1 => exact ⟨rfl, by simp [quoteUnits]⟩
  | case2 u => exact stands_quoteUnit u
  | case3 u v rest hpair ih =>
    rw [quoteUnits, if_pos hpair]
    refine ⟨by rw [isWellFormed, if_pos hpair, ih.1], ?_⟩
    intro w hw
    obtain rfl := Option.some.inj hw
    rw [Bool.and_eq_true] at hpair
    by_contra hlow
    have hbelow := toNat_of_high hpair.1
    have habove := toNat_of_low (Bool.not_eq_false _ ▸ hlow)
    omega
  | case4 u v rest hpair ih =>
    rw [quoteUnits, if_neg hpair]
    exact (stands_quoteUnit u).append ih

lemma stands_quote (s : JsString) : Stands (quote s) :=
  ((stands_of_isAscii (by decide)).append (stands_quoteUnits s)).append
    (stands_of_isAscii (by decide))

lemma stands_digits {text : JsString} (h : text.all isDigit = true) : Stands text := by
  refine stands_of_isAscii ?_
  rw [isAscii, List.all_eq_true]
  intro u hu
  have hdigit := (List.all_eq_true.1 h) u hu
  rw [isDigit, Bool.and_eq_true, decide_eq_true_eq, decide_eq_true_eq,
    UInt16.le_iff_toNat_le, UInt16.le_iff_toNat_le] at hdigit
  have hnine : (0x39 : UInt16).toNat = 0x39 := rfl
  have hascii : (0x80 : UInt16).toNat = 0x80 := rfl
  rw [decide_eq_true_eq, UInt16.lt_iff_toNat_lt]
  omega

mutual

lemma stands_stringify : (j : Json) → j.canonical numberText → Stands (stringify j)
  | .null, _ => stands_of_isAscii (by decide)
  | .bool true, _ => stands_of_isAscii (by decide)
  | .bool false, _ => stands_of_isAscii (by decide)
  | .num _, h => stands_digits h.1.2.1
  | .str s, _ => stands_quote s
  | .arr items, h =>
    ((stands_of_isAscii (by decide)).append (stands_stringifyItems items h)).append
      (stands_of_isAscii (by decide))
  | .obj fields, h =>
    ((stands_of_isAscii (by decide)).append (stands_stringifyFields fields h.2)).append
      (stands_of_isAscii (by decide))

lemma stands_stringifyItems : (items : List Json) → canonicalItems numberText items →
    Stands (stringifyItems items)
  | [], _ => ⟨rfl, by simp [stringifyItems]⟩
  | [item], h => stands_stringify item h.1
  | item :: next :: items, h =>
    ((stands_stringify item h.1).append (stands_of_isAscii (by decide))).append
      (stands_stringifyItems (next :: items) h.2)

lemma stands_stringifyFields : (fields : List (JsString × Json)) →
    canonicalFields numberText fields → Stands (stringifyFields fields)
  | [], _ => ⟨rfl, by simp [stringifyFields]⟩
  | [(key, value)], h =>
    ((stands_quote key).append (stands_of_isAscii (by decide))).append (stands_stringify value h.1)
  | (key, value) :: next :: fields, h =>
    ((((stands_quote key).append (stands_of_isAscii (by decide))).append
      (stands_stringify value h.1)).append (stands_of_isAscii (by decide))).append
      (stands_stringifyFields (next :: fields) h.2)

end

variable (numberText)

/-- `JSON.parse` of the decoded bytes of a payload. -/
def decodeJson (payload : Bytes) : Option Json := parseJson numberText (decodeUtf8 payload)

variable {numberText}

/-- **A payload is read back.** A canonical value is what the bytes of its text are decoded to. -/
theorem decodeJson_utf8 {j : Json} (h : j.canonical numberText) :
    decodeJson numberText (utf8 (stringify j)) = some j := by
  have hmark : (stringify j).head? ≠ some 0xFEFF := by
    obtain ⟨u, t, htext, -, -, hmark⟩ := stringify_eq_cons numberText h
    rw [htext, List.head?_cons]
    exact fun heq => hmark (Option.some.inj heq)
  rw [decodeJson, decodeUtf8_utf8 (stands_stringify j h).1 hmark, parseJson_stringify h]

end Pherry.Protocol
