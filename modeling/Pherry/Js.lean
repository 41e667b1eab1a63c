import Mathlib.Data.List.Basic

/-!
# JavaScript strings and bytes

A string is its UTF-16 code units, lone surrogates included; `utf8` is `TextEncoder.encode`, which
writes U+FFFD for a lone surrogate.
-/

namespace Pherry

/-- The contents of a `Uint8Array`. -/
abbrev Bytes := List UInt8

/-- A JavaScript string, as its UTF-16 code units. -/
abbrev JsString := List UInt16

instance instLawfulBEqJsString : LawfulBEq JsString := inferInstance

/-- The JavaScript string of a Lean literal. -/
def js (s : String) : JsString :=
  s.toList.flatMap fun c =>
    if c.toNat < 0x10000 then [UInt16.ofNat c.toNat]
    else [UInt16.ofNat (0xD800 + (c.toNat - 0x10000) / 0x400),
      UInt16.ofNat (0xDC00 + (c.toNat - 0x10000) % 0x400)]

/-- The bytes of an ASCII literal. -/
def ascii (s : String) : Bytes := s.toList.map fun c => UInt8.ofNat c.toNat

/-- White space, as `trim` takes it away. -/
def isSpace (u : UInt16) : Bool :=
  (0x09 ≤ u && u ≤ 0x0D) || u == 0x20 || u == 0xA0 || u == 0x1680 || (0x2000 ≤ u && u ≤ 0x200A) ||
    u == 0x2028 || u == 0x2029 || u == 0x202F || u == 0x205F || u == 0x3000 || u == 0xFEFF

/-- `trim`. -/
def trim (s : JsString) : JsString := ((s.dropWhile isSpace).reverse.dropWhile isSpace).reverse

lemma trim_of_not_isSpace {text : JsString} (h : ∀ u ∈ text, isSpace u = false) : trim text = text := by
  have hdrop : ∀ l : JsString, (∀ u ∈ l, isSpace u = false) → l.dropWhile isSpace = l := by
    intro l hl
    cases l with
    | nil => rfl
    | cons u l => exact List.dropWhile_cons_of_neg (by simp [hl u List.mem_cons_self])
  rw [trim, hdrop text h, hdrop text.reverse fun u hu => h u (List.mem_reverse.1 hu),
    List.reverse_reverse]

/-- A high (leading) surrogate. -/
def isHighSurrogate (u : UInt16) : Bool := 0xD800 ≤ u && u < 0xDC00

/-- A low (trailing) surrogate. -/
def isLowSurrogate (u : UInt16) : Bool := 0xDC00 ≤ u && u < 0xE000

/-- The UTF-8 bytes of one code point. -/
def utf8CodePoint (c : ℕ) : Bytes :=
  if c < 0x80 then [UInt8.ofNat c]
  else if c < 0x800 then [UInt8.ofNat (0xC0 + c / 0x40), UInt8.ofNat (0x80 + c % 0x40)]
  else if c < 0x10000 then
    [UInt8.ofNat (0xE0 + c / 0x1000), UInt8.ofNat (0x80 + c / 0x40 % 0x40),
      UInt8.ofNat (0x80 + c % 0x40)]
  else
    [UInt8.ofNat (0xF0 + c / 0x40000), UInt8.ofNat (0x80 + c / 0x1000 % 0x40),
      UInt8.ofNat (0x80 + c / 0x40 % 0x40), UInt8.ofNat (0x80 + c % 0x40)]

/-- The UTF-8 bytes of a code unit standing alone: a lone surrogate is written as U+FFFD. -/
def utf8Unit (u : UInt16) : Bytes :=
  if isHighSurrogate u || isLowSurrogate u then utf8CodePoint 0xFFFD else utf8CodePoint u.toNat

/-- `TextEncoder.encode`. -/
def utf8 : JsString → Bytes
  | [] => []
  | [u] => utf8Unit u
  | u :: v :: rest =>
    if isHighSurrogate u && isLowSurrogate v then
      utf8CodePoint (0x10000 + (u.toNat - 0xD800) * 0x400 + (v.toNat - 0xDC00)) ++ utf8 rest
    else utf8Unit u ++ utf8 (v :: rest)

example : utf8 (js "a€😀") = [0x61, 0xE2, 0x82, 0xAC, 0xF0, 0x9F, 0x98, 0x80] := by decide

end Pherry
