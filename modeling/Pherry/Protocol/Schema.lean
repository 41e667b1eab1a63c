import Pherry.Protocol.Envelope

/-!
# Schemas

What the schemas of the wire accept, of the JSON values a response may carry. A number is read back
from its text, as a natural number; keys that a schema does not name are let pass.
-/

namespace Pherry.Protocol

/-! ## Numbers -/

/-- A decimal digit. -/
def isDigit (u : UInt16) : Bool := 0x30 ≤ u && u ≤ 0x39

/-- The natural number of a text. -/
def natural (text : JsString) : Option ℕ :=
  if text ≠ [] ∧ text.all isDigit = true then
    some (text.foldl (fun n u => 10 * n + (u.toNat - 0x30)) 0)
  else none

lemma not_isSpace_of_isDigit {u : UInt16} (h : isDigit u = true) : isSpace u = false := by
  rw [isDigit, Bool.and_eq_true, decide_eq_true_eq, decide_eq_true_eq, UInt16.le_iff_toNat_le,
    UInt16.le_iff_toNat_le] at h
  obtain ⟨hleast, hmost⟩ := h
  have h30 : (0x30 : UInt16).toNat = 0x30 := rfl
  have h39 : (0x39 : UInt16).toNat = 0x39 := rfl
  rw [h30] at hleast
  rw [h39] at hmost
  by_contra hspace
  rw [Bool.not_eq_false] at hspace
  simp only [isSpace, Bool.or_eq_true, Bool.and_eq_true, decide_eq_true_eq, beq_iff_eq,
    UInt16.le_iff_toNat_le, ← UInt16.toNat_inj, UInt16.reduceToNat] at hspace
  omega

/-- The code unit of a decimal digit. -/
def digitUnit (c : Char) : UInt16 := UInt16.ofNat c.toNat

lemma toNat_digit {c : Char} (h : c.isDigit = true) : 48 ≤ c.toNat ∧ c.toNat ≤ 57 := by
  rw [Char.isDigit, Bool.and_eq_true, decide_eq_true_eq, decide_eq_true_eq] at h
  exact h

lemma toNat_digitUnit {c : Char} (h : c.isDigit = true) : (digitUnit c).toNat = c.toNat := by
  have hle := (toNat_digit h).2
  rw [digitUnit, UInt16.toNat_ofNat']
  omega

lemma isDigit_digitUnit {c : Char} (h : c.isDigit = true) : isDigit (digitUnit c) = true := by
  obtain ⟨hleast, hmost⟩ := toNat_digit h
  have hunit := toNat_digitUnit h
  rw [isDigit, Bool.and_eq_true, decide_eq_true_eq, decide_eq_true_eq, UInt16.le_iff_toNat_le,
    UInt16.le_iff_toNat_le, hunit]
  exact ⟨hleast, hmost⟩

lemma js_digits {digits : List Char} (h : ∀ c ∈ digits, c.isDigit = true) :
    js (String.ofList digits) = digits.map digitUnit := by
  rw [js, String.toList_ofList, ← List.flatMap_pure_eq_map]
  refine List.flatMap_congr fun c hc => ?_
  have hle := (toNat_digit (h c hc)).2
  rw [if_pos (by omega)]
  rfl

lemma foldl_digitUnit {digits : List Char} (h : ∀ c ∈ digits, c.isDigit = true) (n : ℕ) :
    (digits.map digitUnit).foldl (fun n u => 10 * n + (u.toNat - 0x30)) n =
      Nat.ofDigitChars 10 digits n := by
  rw [Nat.ofDigitChars_eq_foldl, List.foldl_map]
  refine List.foldl_ext _ _ _ fun m c hc => ?_
  rw [toNat_digitUnit (h c hc)]
  rfl

lemma natural_js (n : ℕ) : natural (js (toString (n : ℤ))) = some n := by
  have hdigits : ∀ c ∈ Nat.toDigits 10 n, c.isDigit = true :=
    fun c hc => Nat.isDigit_of_mem_toDigits (by decide) (by decide) hc
  have htext : js (toString (n : ℤ)) = (Nat.toDigits 10 n).map digitUnit := by
    rw [← js_digits hdigits, ← Nat.toString_eq_ofList_toDigits]
    rfl
  have hne : (Nat.toDigits 10 n).map digitUnit ≠ [] := by
    rw [Ne, List.map_eq_nil_iff]
    exact Nat.toDigits_ne_nil
  have hall : ((Nat.toDigits 10 n).map digitUnit).all isDigit = true := by
    rw [List.all_map, List.all_eq_true]
    exact fun c hc => isDigit_digitUnit (hdigits c hc)
  rw [htext, natural, if_pos ⟨hne, hall⟩, foldl_digitUnit hdigits, Nat.ofDigitChars_ten_toDigits]

/-! ## Schemas -/

/-- A schema, as the values it accepts. -/
abbrev Schema := Json → Bool

namespace Schema

/-- A string that meets a condition. -/
def string (p : JsString → Bool) : Schema
  | .str s => p s
  | _ => false

/-- `z.number().int().min(least).max(most)`. -/
def int (least : ℕ) (most : Option ℕ) : Schema
  | .num text => (natural text).any fun n => least ≤ n && most.all (n ≤ ·)
  | _ => false

/-- `z.literal(true)`. -/
def literalTrue : Schema
  | .bool b => b
  | _ => false

/-- `z.boolean()`. -/
def boolean : Schema
  | .bool _ => true
  | _ => false

/-- `z.array(item).min(least).max(most)`. -/
def array (item : Schema) (least : ℕ) (most : Option ℕ) : Schema
  | .arr items => items.all item && least ≤ items.length && most.all (items.length ≤ ·)
  | _ => false

/-- The value of a key. -/
def field (fields : List (JsString × Json)) (key : JsString) : Option Json :=
  (fields.find? fun entry => entry.1 = key).map Prod.snd

/-- `z.object`, with what each key must have. -/
def object (keys : List (JsString × (Option Json → Bool))) : Schema
  | .obj fields => keys.all fun key => key.2 (field fields key.1)
  | _ => false

/-- A key that must be there. -/
def required (schema : Schema) (value : Option Json) : Bool := value.any schema

/-- `schema.optional()`. -/
def optional (schema : Schema) (value : Option Json) : Bool := value.all schema

end Schema

/-- The value of a key; what is no object has none. -/
def Json.get : Json → JsString → Option Json
  | .obj fields, key => Schema.field fields key
  | _, _ => none

end Pherry.Protocol
