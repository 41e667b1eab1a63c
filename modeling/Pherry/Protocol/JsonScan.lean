import Mathlib.Data.List.TakeWhile
import Pherry.Protocol.JsonText

/-!
# Scanning JSON

What a scanner knows of a JSON text behind any part of it: whether it stands in a string, and how many brackets
and braces are open. A text that `JSON.parse` accepts scans through and ends outside of both.
-/

namespace Pherry.Protocol

/-! ## The scanner -/

/-- Where a scanner stands: between tokens or in one, behind a decimal point, in a string, or behind the
backslash of an escape. -/
inductive JsonMode
  | out
  | point
  | string
  | escape

/-- A mode, and how many brackets and braces are open. -/
abbrev JsonScan := JsonMode × ℕ

/-- One unit outside of a string. -/
def scanOut (depth : ℕ) (u : UInt16) : Option JsonScan :=
  if u = 0x22 then some (.string, depth)
  else if u = 0x5C ∨ 0x80 ≤ u then none
  else if u = 0x2E then some (.point, depth)
  else if u = 0x5B ∨ u = 0x7B then some (.out, depth + 1)
  else if u = 0x5D ∨ u = 0x7D then if depth = 0 then none else some (.out, depth - 1)
  else some (.out, depth)

/-- One unit. -/
def scanUnit : JsonScan → UInt16 → Option JsonScan
  | (.out, depth), u => scanOut depth u
  | (.point, depth), u => if isDigit u then some (.out, depth) else none
  | (.string, depth), u =>
    some (if u = 0x22 then .out else if u = 0x5C then .escape else .string, depth)
  | (.escape, depth), _ => some (.string, depth)

/-- The units of a text. -/
def scanText (st : JsonScan) (s : JsString) : Option JsonScan := s.foldlM scanUnit st

@[simp] lemma scanText_nil (st : JsonScan) : scanText st [] = some st := rfl

@[simp] lemma scanText_cons (st : JsonScan) (u : UInt16) (s : JsString) :
    scanText st (u :: s) = (scanUnit st u).bind fun st => scanText st s := rfl

lemma scanText_append (st : JsonScan) (s t : JsString) :
    scanText st (s ++ t) = (scanText st s).bind fun st => scanText st t := List.foldlM_append

lemma scanText_trans {a b c : JsonScan} {s t : JsString} (hs : scanText a s = some b)
    (ht : scanText b t = some c) : scanText a (s ++ t) = some c := by
  rw [scanText_append, hs]
  exact ht

lemma scanText_split {a c : JsonScan} {s t : JsString} (h : scanText a (s ++ t) = some c) :
    ∃ b, scanText a s = some b ∧ scanText b t = some c := by
  rw [scanText_append] at h
  exact Option.bind_eq_some_iff.1 h

lemma scanUnit_add {a b : JsonScan} {u : UInt16} (h : scanUnit a u = some b) (d : ℕ) :
    scanUnit (a.1, a.2 + d) u = some (b.1, b.2 + d) := by
  obtain ⟨mode, depth⟩ := a
  cases mode with
  | out =>
    rw [scanUnit, scanOut] at h ⊢
    by_cases hquote : u = 0x22
    · rw [if_pos hquote] at h ⊢
      rw [← Option.some_inj.1 h]
    rw [if_neg hquote] at h ⊢
    by_cases hillegal : u = 0x5C ∨ 0x80 ≤ u
    · rw [if_pos hillegal] at h
      simp at h
    rw [if_neg hillegal] at h ⊢
    by_cases hpoint : u = 0x2E
    · rw [if_pos hpoint] at h ⊢
      rw [← Option.some_inj.1 h]
    rw [if_neg hpoint] at h ⊢
    by_cases hopen : u = 0x5B ∨ u = 0x7B
    · rw [if_pos hopen] at h ⊢
      rw [← Option.some_inj.1 h, Nat.add_right_comm]
    rw [if_neg hopen] at h ⊢
    by_cases hclose : u = 0x5D ∨ u = 0x7D
    · rw [if_pos hclose] at h ⊢
      by_cases hdepth : depth = 0
      · rw [if_pos hdepth] at h
        simp at h
      rw [if_neg hdepth] at h
      rw [if_neg (by omega), ← Option.some_inj.1 h]
      simp only [Option.some_inj, Prod.mk.injEq, true_and]
      omega
    rw [if_neg hclose] at h ⊢
    rw [← Option.some_inj.1 h]
  | point =>
    simp only [scanUnit] at h ⊢
    split_ifs at h ⊢
    rw [← Option.some_inj.1 h]
  | string =>
    simp only [scanUnit, Option.some_inj] at h ⊢
    rw [← h]
  | escape =>
    simp only [scanUnit, Option.some_inj] at h ⊢
    rw [← h]

lemma scanText_add {a b : JsonScan} {s : JsString} (h : scanText a s = some b) (d : ℕ) :
    scanText (a.1, a.2 + d) s = some (b.1, b.2 + d) := by
  induction s generalizing a with
  | nil =>
    rw [scanText_nil, Option.some_inj] at h
    rw [h, scanText_nil]
  | cons u s ih =>
    rw [scanText_cons] at h ⊢
    obtain ⟨c, hunit, hrest⟩ := Option.bind_eq_some_iff.1 h
    rw [scanUnit_add hunit d, Option.bind_some]
    exact ih hrest

/-- Text that stands on its own: a scanner is back behind it where it was before it. -/
def Balanced (s : JsString) : Prop := scanText (.out, 0) s = some (.out, 0)

lemma Balanced.scan {s : JsString} (h : Balanced s) (depth : ℕ) :
    scanText (.out, depth) s = some (.out, depth) := by
  have hadd := scanText_add h depth
  rwa [Nat.zero_add] at hadd

lemma balanced_nil : Balanced [] := rfl

lemma Balanced.append {s t : JsString} (hs : Balanced s) (ht : Balanced t) : Balanced (s ++ t) :=
  scanText_trans hs ht

/-- A unit that opens, closes and quotes nothing. -/
def isPlain (u : UInt16) : Bool :=
  u < 0x80 && u != 0x22 && u != 0x5C && u != 0x2E && u != 0x5B && u != 0x7B && u != 0x5D && u != 0x7D

lemma scanUnit_plain {u : UInt16} (h : isPlain u = true) (depth : ℕ) :
    scanUnit (.out, depth) u = some (.out, depth) := by
  simp only [isPlain, Bool.and_eq_true, decide_eq_true_eq, bne_iff_ne, ne_eq] at h
  have hascii : ¬ 0x80 ≤ u := fun hle => absurd h.1.1.1.1.1.1.1 (UInt16.not_lt.2 hle)
  simp [scanUnit, scanOut, h, hascii]

lemma balanced_plain {s : JsString} (h : s.all isPlain = true) : Balanced s := by
  induction s with
  | nil => rfl
  | cons u s ih =>
    rw [List.all_cons, Bool.and_eq_true] at h
    rw [Balanced, scanText_cons, scanUnit_plain h.1, Option.bind_some]
    exact ih h.2

lemma isPlain_of_space {u : UInt16} (h : isJsonSpace u = true) : isPlain u = true := by
  simp only [isJsonSpace, Bool.or_eq_true, beq_iff_eq] at h
  rcases h with ((rfl | rfl) | rfl) | rfl <;> decide

lemma isPlain_of_digit {u : UInt16} (h : isDigit u = true) : isPlain u = true := by
  have hascii : u < 0x80 := by
    simp only [isDigit, Bool.and_eq_true, decide_eq_true_eq] at h
    exact Nat.lt_of_le_of_lt (UInt16.le_iff_toNat_le.1 h.2) (by decide)
  have hne : ∀ v : UInt16, isDigit v = false → u ≠ v := by
    rintro v hv rfl
    rw [h] at hv
    simp at hv
  simp only [isPlain, Bool.and_eq_true, decide_eq_true_eq, bne_iff_ne]
  exact ⟨⟨⟨⟨⟨⟨⟨hascii, hne _ rfl⟩, hne _ rfl⟩, hne _ rfl⟩, hne _ rfl⟩, hne _ rfl⟩, hne _ rfl⟩, hne _ rfl⟩

lemma balanced_brackets {s : JsString} (h : Balanced s) {u v : UInt16} (hu : u = 0x5B ∨ u = 0x7B)
    (hv : v = 0x5D ∨ v = 0x7D) : Balanced (u :: s ++ [v]) := by
  have hopen : scanText (.out, 0) (u :: s) = some (.out, 1) := by
    rw [scanText_cons, show scanUnit (.out, 0) u = some (.out, 1) by rcases hu with rfl | rfl <;> rfl]
    exact h.scan 1
  apply scanText_trans hopen
  rcases hv with rfl | rfl <;> rfl

/-! ## What a reader has read -/

/-- What was read stands on its own, and the rest follows it. -/
def ReadBalanced (s rest : JsString) : Prop := ∃ used, s = used ++ rest ∧ Balanced used

lemma ReadBalanced.trans {s t rest : JsString} (hs : ReadBalanced s t) (ht : ReadBalanced t rest) :
    ReadBalanced s rest := by
  obtain ⟨used, rfl, hused⟩ := hs
  obtain ⟨more, rfl, hmore⟩ := ht
  exact ⟨used ++ more, by rw [List.append_assoc], hused.append hmore⟩

lemma readBalanced_self (s : JsString) : ReadBalanced s s := ⟨[], rfl, balanced_nil⟩

lemma readBalanced_cons {u : UInt16} (h : isPlain u = true) (s : JsString) : ReadBalanced (u :: s) s :=
  ⟨[u], rfl, balanced_plain (by rw [List.all_cons, h]; rfl)⟩

lemma readBalanced_dropWhile {p : UInt16 → Bool} (hp : ∀ u, p u = true → isPlain u = true) (s : JsString) :
    ReadBalanced s (s.dropWhile p) := by
  refine ⟨s.takeWhile p, (List.takeWhile_append_dropWhile).symm, balanced_plain ?_⟩
  rw [List.all_eq_true]
  intro u hu
  exact hp u (List.all_eq_true.1 List.all_takeWhile u hu)

lemma readBalanced_skipSpace (s : JsString) : ReadBalanced s (skipSpace s) :=
  readBalanced_dropWhile (fun _ => isPlain_of_space) s

lemma eq_of_skipSpace {s : JsString} {u : UInt16} (h : (skipSpace s).head? = some u) :
    skipSpace s = u :: (skipSpace s).tail := by
  obtain ⟨rest, hrest⟩ := List.head?_eq_some_iff.1 h
  rw [hrest]
  rfl

/-! ### Strings -/

lemma ne_of_hexValue {u : UInt16} {n : ℕ} (h : hexValue u = some n) : u ≠ 0x22 ∧ u ≠ 0x5C := by
  constructor
  · rintro rfl
    simp [hexValue] at h
  · rintro rfl
    simp [hexValue] at h

lemma scanUnit_string {u : UInt16} (h : u ≠ 0x22 ∧ u ≠ 0x5C) (depth : ℕ) :
    scanUnit (.string, depth) u = some (.string, depth) := by
  rw [scanUnit, if_neg h.1, if_neg h.2]

lemma scan_readUnit {s rest : JsString} {u : UInt16} (h : readUnit s = some (u, rest)) (depth : ℕ) :
    ∃ used, s = used ++ rest ∧ scanText (.string, depth) used = some (.string, depth) := by
  unfold readUnit at h
  split at h
  · simp at h
  · next v tail =>
    by_cases hslash : v = 0x5C
    · rw [if_pos hslash] at h
      unfold readEscape at h
      split at h
      · simp at h
      · next letter tail =>
        by_cases hu : letter = 0x75
        · rw [if_pos hu] at h
          split at h
          · next a b c d tail =>
            obtain ⟨unit, hunit, heq⟩ := Option.map_eq_some_iff.1 h
            obtain ⟨-, rfl⟩ := Prod.mk.inj heq
            have hhex : ∃ a' b' c' d', hexValue a = some a' ∧ hexValue b = some b' ∧ hexValue c = some c' ∧
                hexValue d = some d' := by
              unfold hexUnit at hunit
              split at hunit
              · next a' b' c' d' ha hb hc hd => exact ⟨a', b', c', d', ha, hb, hc, hd⟩
              · simp at hunit
            obtain ⟨a', b', c', d', ha, hb, hc, hd⟩ := hhex
            refine ⟨[v, letter, a, b, c, d], rfl, ?_⟩
            have hescape : scanUnit (.string, depth) v = some (.escape, depth) := by
              rw [hslash]
              rfl
            rw [scanText_cons, hescape, Option.bind_some, scanText_cons]
            show scanText (.string, depth) [a, b, c, d] = _
            simp only [scanText_cons, scanUnit_string (ne_of_hexValue ha), scanUnit_string (ne_of_hexValue hb),
              scanUnit_string (ne_of_hexValue hc), scanUnit_string (ne_of_hexValue hd), Option.bind_some,
              scanText_nil]
          · simp at h
        · rw [if_neg hu] at h
          obtain ⟨unit, -, heq⟩ := Option.map_eq_some_iff.1 h
          obtain ⟨-, rfl⟩ := Prod.mk.inj heq
          refine ⟨[v, letter], rfl, ?_⟩
          rw [hslash]
          rfl
    · rw [if_neg hslash] at h
      split at h
      · simp at h
      · next hplain =>
        obtain ⟨-, rfl⟩ := Prod.mk.inj (Option.some_inj.1 h)
        refine ⟨[v], rfl, ?_⟩
        rw [scanText_cons, scanUnit_string ⟨fun hquote => hplain (.inl hquote), hslash⟩]
        rfl

lemma scan_readString {fuel : ℕ} {s value rest : JsString} (h : readString fuel s = some (value, rest))
    (depth : ℕ) : ∃ used, s = used ++ rest ∧ scanText (.string, depth) used = some (.out, depth) := by
  induction fuel generalizing s value with
  | zero => simp [readString] at h
  | succ fuel ih =>
    rw [readString] at h
    by_cases hquote : s.head? = some 0x22
    · rw [if_pos hquote] at h
      obtain ⟨-, rfl⟩ := Prod.mk.inj (Option.some_inj.1 h)
      obtain ⟨tail, rfl⟩ := List.head?_eq_some_iff.1 hquote
      exact ⟨[0x22], rfl, rfl⟩
    · rw [if_neg hquote] at h
      split at h
      · simp at h
      · next u tail hunit =>
        obtain ⟨r, hr, heq⟩ := Option.map_eq_some_iff.1 h
        obtain ⟨-, rfl⟩ := Prod.mk.inj heq
        obtain ⟨used, rfl, hused⟩ := scan_readUnit hunit depth
        obtain ⟨more, rfl, hmore⟩ := ih hr
        exact ⟨used ++ more, by rw [List.append_assoc], scanText_trans hused hmore⟩

lemma readBalanced_string {fuel : ℕ} {s value rest : JsString} (h : readString fuel s = some (value, rest)) :
    ReadBalanced (0x22 :: s) rest := by
  obtain ⟨used, rfl, hused⟩ := scan_readString h 0
  exact ⟨0x22 :: used, rfl, hused⟩

/-! ### Numbers and words -/

lemma readBalanced_digits {s digits rest : JsString} (h : readDigits s = some (digits, rest)) :
    ReadBalanced s rest ∧ ∃ u t, s = u :: t ∧ isDigit u = true ∧ ReadBalanced t rest := by
  unfold readDigits at h
  split at h
  · simp at h
  · next hne =>
    obtain ⟨-, rfl⟩ := Prod.mk.inj (Option.some_inj.1 h)
    refine ⟨readBalanced_dropWhile (fun _ => isPlain_of_digit) s, ?_⟩
    cases s with
    | nil => simp at hne
    | cons u t =>
      by_cases hu : isDigit u = true
      · refine ⟨u, t, rfl, hu, ?_⟩
        rw [List.dropWhile_cons_of_pos hu]
        exact readBalanced_dropWhile (fun _ => isPlain_of_digit) t
      · rw [List.takeWhile_cons_of_neg hu] at hne
        simp at hne

lemma readBalanced_fraction {s text rest : JsString} (h : readFraction s = some (text, rest)) :
    ReadBalanced s rest := by
  unfold readFraction at h
  by_cases hpoint : s.head? = some 0x2E
  · rw [if_pos hpoint] at h
    obtain ⟨r, hr, heq⟩ := Option.map_eq_some_iff.1 h
    obtain ⟨-, rfl⟩ := Prod.mk.inj heq
    obtain ⟨tail, rfl⟩ := List.head?_eq_some_iff.1 hpoint
    obtain ⟨-, u, t, htail, hu, used, rfl, hused⟩ := readBalanced_digits hr
    rw [List.tail_cons] at htail
    refine ⟨0x2E :: u :: used, by rw [htail]; rfl, ?_⟩
    rw [Balanced, scanText_cons, show scanUnit (.out, 0) 0x2E = some (.point, 0) by rfl, Option.bind_some,
      scanText_cons, scanUnit, if_pos hu]
    exact hused
  · rw [if_neg hpoint] at h
    obtain ⟨-, rfl⟩ := Prod.mk.inj (Option.some_inj.1 h)
    exact readBalanced_self _

lemma readBalanced_sign {signs : List UInt16} (hsigns : signs.all isPlain = true) (s : JsString) :
    ReadBalanced s (readSign signs s).2 := by
  unfold readSign
  split
  · exact readBalanced_self _
  · next u rest =>
    split
    · next hu => exact readBalanced_cons (List.all_eq_true.1 hsigns u hu) rest
    · exact readBalanced_self _

lemma readBalanced_exponent {s text rest : JsString} (h : readExponent s = some (text, rest)) :
    ReadBalanced s rest := by
  unfold readExponent at h
  split at h
  · obtain ⟨-, rfl⟩ := Prod.mk.inj (Option.some_inj.1 h)
    exact readBalanced_self _
  · next u tail =>
    split at h
    · next hu =>
      obtain ⟨r, hr, heq⟩ := Option.map_eq_some_iff.1 h
      obtain ⟨-, rfl⟩ := Prod.mk.inj heq
      have hplain : isPlain u = true := by rcases hu with rfl | rfl <;> decide
      exact ((readBalanced_cons hplain tail).trans (readBalanced_sign (by decide) tail)).trans
        (readBalanced_digits hr).1
    · obtain ⟨-, rfl⟩ := Prod.mk.inj (Option.some_inj.1 h)
      exact readBalanced_self _

lemma readBalanced_number {s text rest : JsString} (h : readNumber s = some (text, rest)) :
    ReadBalanced s rest := by
  unfold readNumber at h
  simp only [Option.bind_eq_bind, Option.bind_eq_some_iff] at h
  obtain ⟨whole, hwhole, h⟩ := h
  split at h
  · simp at h
  · obtain ⟨fraction, hfraction, exponent, hexponent, heq⟩ := by
      simpa only [Option.bind_eq_some_iff] using h
    obtain ⟨-, rfl⟩ := Prod.mk.inj (Option.some_inj.1 heq)
    exact (((readBalanced_sign (by decide) s).trans (readBalanced_digits hwhole).1).trans
      (readBalanced_fraction hfraction)).trans (readBalanced_exponent hexponent)

lemma readBalanced_behind {word s rest : JsString} (hword : word.all isPlain = true)
    (h : behind word s = some rest) : ReadBalanced s rest := by
  unfold behind at h
  split at h
  · next hprefix =>
    obtain ⟨tail, rfl⟩ := List.isPrefixOf_iff_prefix.1 hprefix
    rw [List.drop_left, Option.some_inj] at h
    exact ⟨word, by rw [h], balanced_plain hword⟩
  · simp at h

lemma readBalanced_word {s rest : JsString} {j : Json} (h : readWord s = some (j, rest)) :
    ReadBalanced s rest := by
  unfold readWord at h
  split at h
  · next hword =>
    obtain ⟨-, rfl⟩ := Prod.mk.inj (Option.some_inj.1 h)
    exact readBalanced_behind (by decide) hword
  · next hword _ =>
    obtain ⟨-, rfl⟩ := Prod.mk.inj (Option.some_inj.1 h)
    exact readBalanced_behind (by decide) hword
  · next hword _ _ =>
    obtain ⟨-, rfl⟩ := Prod.mk.inj (Option.some_inj.1 h)
    exact readBalanced_behind (by decide) hword
  · simp at h

/-! ### Values -/

/-- What was read stands on its own up to a unit that closes. -/
def Closes (close : UInt16) (s rest : JsString) : Prop := ∃ used, s = used ++ close :: rest ∧ Balanced used

lemma ReadBalanced.closes {close : UInt16} {s t rest : JsString} (hs : ReadBalanced s t)
    (ht : Closes close t rest) : Closes close s rest := by
  obtain ⟨used, rfl, hused⟩ := hs
  obtain ⟨more, rfl, hmore⟩ := ht
  exact ⟨used ++ more, by rw [List.append_assoc], hused.append hmore⟩

lemma closes_self (close : UInt16) (rest : JsString) : Closes close (close :: rest) rest :=
  ⟨[], rfl, balanced_nil⟩

lemma closes_of_skipSpace {close u : UInt16} {s rest : JsString} (h : skipSpace s = u :: rest) (hu : u = close) :
    Closes close s rest := by
  have hskip := readBalanced_skipSpace s
  rw [h, hu] at hskip
  exact hskip.closes (closes_self close rest)

lemma Closes.readBalanced {u close : UInt16} {s rest : JsString} (h : Closes close s rest)
    (hu : u = 0x5B ∨ u = 0x7B) (hclose : close = 0x5D ∨ close = 0x7D) : ReadBalanced (u :: s) rest := by
  obtain ⟨used, rfl, hused⟩ := h
  exact ⟨u :: used ++ [close], by simp, balanced_brackets hused hu hclose⟩

variable {numberText : JsString → JsString}

lemma readBalanced_comma {u : UInt16} {s rest : JsString} (h : skipSpace s = u :: rest) (hu : u = 0x2C) :
    ReadBalanced s rest := by
  have hskip := readBalanced_skipSpace s
  rw [h, hu] at hskip
  exact hskip.trans (readBalanced_cons (by decide) rest)

lemma closes_readFields {fuel : ℕ} (hvalue : ∀ s j rest, readValue numberText fuel s = some (j, rest) →
      ReadBalanced s rest)
    (hfields : ∀ s fields rest, readFields numberText fuel s = some (fields, rest) → Closes 0x7D s rest)
    {s rest : JsString} {fields : List (JsString × Json)}
    (h : readFields numberText (fuel + 1) s = some (fields, rest)) : Closes 0x7D s rest := by
  rw [readFields] at h
  by_cases hquote : (skipSpace s).head? = some 0x22
  · rw [if_pos hquote] at h
    split at h
    · simp at h
    · next key keyRest hkey =>
      by_cases hcolon : (skipSpace keyRest).head? = some 0x3A
      · rw [if_pos hcolon] at h
        -- white space, the key, the colon, the value, and what follows it
        have hspace := readBalanced_skipSpace s
        rw [eq_of_skipSpace hquote] at hspace
        have hname := hspace.trans (readBalanced_string hkey)
        have hbefore := readBalanced_skipSpace keyRest
        rw [eq_of_skipSpace hcolon] at hbefore
        have hfront := (hname.trans hbefore).trans (readBalanced_cons (by decide) _)
        split at h
        · simp at h
        · next value valueRest hread =>
          have hfield := hfront.trans (hvalue _ _ _ hread)
          split at h
          · simp at h
          · next u tail hskip =>
            by_cases hcomma : u = 0x2C
            · rw [if_pos hcomma] at h
              obtain ⟨r, hr, heq⟩ := Option.map_eq_some_iff.1 h
              obtain ⟨-, rfl⟩ := Prod.mk.inj heq
              exact (hfield.trans (readBalanced_comma hskip hcomma)).closes (hfields _ _ _ hr)
            · rw [if_neg hcomma] at h
              split at h
              · next hbrace =>
                obtain ⟨-, rfl⟩ := Prod.mk.inj (Option.some_inj.1 h)
                exact hfield.closes (closes_of_skipSpace hskip hbrace)
              · simp at h
      · rw [if_neg hcolon] at h
        simp at h
  · rw [if_neg hquote] at h
    simp at h

lemma closes_readItems {fuel : ℕ} (hvalue : ∀ s j rest, readValue numberText fuel s = some (j, rest) →
      ReadBalanced s rest)
    (hitems : ∀ s items rest, readItems numberText fuel s = some (items, rest) → Closes 0x5D s rest)
    {s rest : JsString} {items : List Json}
    (h : readItems numberText (fuel + 1) s = some (items, rest)) : Closes 0x5D s rest := by
  rw [readItems] at h
  split at h
  · simp at h
  · next item itemRest hread =>
    have hitem := hvalue _ _ _ hread
    split at h
    · simp at h
    · next u tail hskip =>
      by_cases hcomma : u = 0x2C
      · rw [if_pos hcomma] at h
        obtain ⟨r, hr, heq⟩ := Option.map_eq_some_iff.1 h
        obtain ⟨-, rfl⟩ := Prod.mk.inj heq
        exact (hitem.trans (readBalanced_comma hskip hcomma)).closes (hitems _ _ _ hr)
      · rw [if_neg hcomma] at h
        split at h
        · next hbracket =>
          obtain ⟨-, rfl⟩ := Prod.mk.inj (Option.some_inj.1 h)
          exact hitem.closes (closes_of_skipSpace hskip hbracket)
        · simp at h

lemma readBalanced_readValue {fuel : ℕ}
    (hitems : ∀ s items rest, readItems numberText fuel s = some (items, rest) → Closes 0x5D s rest)
    (hfields : ∀ s fields rest, readFields numberText fuel s = some (fields, rest) → Closes 0x7D s rest)
    {s rest : JsString} {j : Json} (h : readValue numberText (fuel + 1) s = some (j, rest)) :
    ReadBalanced s rest := by
  have hspace := readBalanced_skipSpace s
  rw [readValue] at h
  split at h
  · simp at h
  · next u tail hskip =>
    rw [hskip] at hspace
    apply hspace.trans
    by_cases hquote : u = 0x22
    · rw [if_pos hquote] at h
      obtain ⟨r, hr, heq⟩ := Option.map_eq_some_iff.1 h
      obtain ⟨-, rfl⟩ := Prod.mk.inj heq
      rw [hquote]
      exact readBalanced_string hr
    rw [if_neg hquote] at h
    by_cases hbracket : u = 0x5B
    · rw [if_pos hbracket] at h
      apply Closes.readBalanced _ (.inl hbracket) (.inl rfl)
      by_cases hempty : (skipSpace tail).head? = some 0x5D
      · rw [if_pos hempty] at h
        obtain ⟨-, rfl⟩ := Prod.mk.inj (Option.some_inj.1 h)
        exact closes_of_skipSpace (eq_of_skipSpace hempty) rfl
      · rw [if_neg hempty] at h
        obtain ⟨r, hr, heq⟩ := Option.map_eq_some_iff.1 h
        obtain ⟨-, rfl⟩ := Prod.mk.inj heq
        exact hitems _ _ _ hr
    rw [if_neg hbracket] at h
    by_cases hbrace : u = 0x7B
    · rw [if_pos hbrace] at h
      apply Closes.readBalanced _ (.inr hbrace) (.inr rfl)
      by_cases hempty : (skipSpace tail).head? = some 0x7D
      · rw [if_pos hempty] at h
        obtain ⟨-, rfl⟩ := Prod.mk.inj (Option.some_inj.1 h)
        exact closes_of_skipSpace (eq_of_skipSpace hempty) rfl
      · rw [if_neg hempty] at h
        obtain ⟨r, hr, heq⟩ := Option.map_eq_some_iff.1 h
        obtain ⟨-, rfl⟩ := Prod.mk.inj heq
        exact hfields _ _ _ hr
    rw [if_neg hbrace] at h
    split at h
    · next r hword =>
      rw [Option.some_inj] at h
      rw [h] at hword
      exact readBalanced_word hword
    · obtain ⟨r, hr, heq⟩ := Option.map_eq_some_iff.1 h
      obtain ⟨-, rfl⟩ := Prod.mk.inj heq
      exact readBalanced_number hr

lemma readers_balanced (fuel : ℕ) :
    (∀ s j rest, readValue numberText fuel s = some (j, rest) → ReadBalanced s rest) ∧
      (∀ s items rest, readItems numberText fuel s = some (items, rest) → Closes 0x5D s rest) ∧
      (∀ s fields rest, readFields numberText fuel s = some (fields, rest) → Closes 0x7D s rest) := by
  induction fuel with
  | zero =>
    refine ⟨?_, ?_, ?_⟩
    · intro s j rest h
      simp [readValue] at h
    · intro s items rest h
      simp [readItems] at h
    · intro s fields rest h
      simp [readFields] at h
  | succ fuel ih =>
    obtain ⟨hvalue, hitems, hfields⟩ := ih
    refine ⟨?_, ?_, ?_⟩
    · intro s j rest h
      exact readBalanced_readValue hitems hfields h
    · intro s items rest h
      exact closes_readItems hvalue hitems h
    · intro s fields rest h
      exact closes_readFields hvalue hfields h

/-- A text that is accepted scans through, and ends outside of strings, brackets and braces. -/
lemma balanced_of_parseJson {text : JsString} {j : Json} (h : parseJson numberText text = some j) :
    Balanced text := by
  unfold parseJson at h
  split at h
  · next value rest hread =>
    split at h
    · next hrest =>
      obtain ⟨used, rfl, hused⟩ := (readers_balanced _).1 _ _ _ hread
      have hspace := readBalanced_skipSpace rest
      rw [hrest] at hspace
      obtain ⟨space, hsplit, hbalanced⟩ := hspace
      rw [List.append_nil] at hsplit
      rw [hsplit]
      exact hused.append hbalanced
    · simp at h
  · simp at h

lemma balanced_inside {inside : JsString} {j : Json}
    (h : parseJson numberText (0x7B :: inside ++ [0x7D]) = some j) : Balanced inside := by
  unfold parseJson at h
  rw [readValue, List.cons_append, skipSpace_cons (by decide)] at h
  split at h
  · next value rest hread =>
    split at h
    · next hrest =>
      -- nothing but white space follows the closing brace, so it is the last unit
      have hcloses : Closes 0x7D (inside ++ [0x7D]) rest := by
        simp only at hread
        rw [if_neg (by decide), if_neg (by decide), if_pos trivial] at hread
        by_cases hempty : (skipSpace (inside ++ [0x7D])).head? = some 0x7D
        · rw [if_pos hempty] at hread
          obtain ⟨-, rfl⟩ := Prod.mk.inj (Option.some_inj.1 hread)
          exact closes_of_skipSpace (eq_of_skipSpace hempty) rfl
        · rw [if_neg hempty] at hread
          obtain ⟨r, hr, heq⟩ := Option.map_eq_some_iff.1 hread
          obtain ⟨-, rfl⟩ := Prod.mk.inj heq
          exact (readers_balanced _).2.2 _ _ _ hr
      obtain ⟨used, hused, hbalanced⟩ := hcloses
      rcases List.eq_nil_or_concat rest with rfl | ⟨rest, last, rfl⟩
      · rwa [(List.append_inj' hused rfl).1]
      · rw [List.concat_eq_append, ← List.cons_append, ← List.append_assoc] at hused
        obtain ⟨-, hlast⟩ := List.append_inj' hused rfl
        have hspaces : isJsonSpace last = true := by
          have hall := List.dropWhile_eq_nil_iff.1 hrest
          exact hall last (by simp)
        rw [← List.head_eq_of_cons_eq hlast] at hspaces
        exact absurd hspaces (by decide)
    · simp at h
  · simp at h

/-! ## A text in two readings -/

/-- Of two scanners one stands in a string and one outside. -/
def Opposite (a b : JsonMode) : Prop :=
  (a = .string ∧ (b = .out ∨ b = .point)) ∨ (b = .string ∧ (a = .out ∨ a = .point))

lemma Opposite.symm {a b : JsonMode} (h : Opposite a b) : Opposite b a := Or.symm h

lemma scanUnit_outside {mode : JsonMode} (hmode : mode = .out ∨ mode = .point) {depth : ℕ} {u : UInt16}
    {b : JsonScan} (h : scanUnit (mode, depth) u = some b) :
    u ≠ 0x5C ∧ ((u = 0x22 ∧ b.1 = .string) ∨ (u ≠ 0x22 ∧ (b.1 = .out ∨ b.1 = .point))) := by
  rcases hmode with rfl | rfl
  · rw [scanUnit, scanOut] at h
    by_cases hquote : u = 0x22
    · rw [if_pos hquote, Option.some_inj] at h
      rw [← h, hquote]
      exact ⟨by decide, .inl ⟨rfl, rfl⟩⟩
    rw [if_neg hquote] at h
    split at h
    · simp at h
    next hlegal =>
    refine ⟨fun hslash => hlegal (.inl hslash), .inr ⟨hquote, ?_⟩⟩
    split at h
    · rw [← Option.some_inj.1 h]
      exact .inr rfl
    left
    split at h
    · rw [← Option.some_inj.1 h]
    split at h
    · split at h
      · simp at h
      · rw [← Option.some_inj.1 h]
    · rw [← Option.some_inj.1 h]
  · rw [scanUnit] at h
    split at h
    · next hdigit =>
      refine ⟨?_, .inr ⟨?_, ?_⟩⟩
      · rintro rfl
        simp [isDigit] at hdigit
      · rintro rfl
        simp [isDigit] at hdigit
      · rw [← Option.some_inj.1 h]
        exact .inl rfl
    · simp at h

lemma Opposite.scanUnit {a b c d : JsonScan} {u : UInt16} (h : Opposite a.1 b.1)
    (ha : Protocol.scanUnit a u = some c) (hb : Protocol.scanUnit b u = some d) : Opposite c.1 d.1 := by
  wlog hstring : a.1 = .string generalizing a b c d
  · exact (this h.symm hb ha (by
      rcases h with ⟨hin, -⟩ | ⟨hin, -⟩
      · exact absurd hin hstring
      · exact hin)).symm
  obtain ⟨modeA, depthA⟩ := a
  obtain ⟨modeB, depthB⟩ := b
  have hmode : modeB = .out ∨ modeB = .point := by
    rcases h with ⟨-, hout⟩ | ⟨-, hout | hout⟩
    · exact hout
    · exact absurd (hstring.symm.trans hout) (by simp)
    · exact absurd (hstring.symm.trans hout) (by simp)
  obtain rfl : modeA = .string := hstring
  obtain ⟨hslash, hcases⟩ := scanUnit_outside hmode hb
  rw [Protocol.scanUnit, if_neg hslash, Option.some_inj] at ha
  rw [← ha]
  rcases hcases with ⟨hquote, hd⟩ | ⟨hquote, hd⟩
  · rw [if_pos hquote]
    exact .inr ⟨hd, .inl rfl⟩
  · rw [if_neg hquote]
    exact .inl ⟨rfl, hd⟩

lemma Opposite.scanText {s : JsString} {a b c d : JsonScan} (h : Opposite a.1 b.1)
    (ha : Protocol.scanText a s = some c) (hb : Protocol.scanText b s = some d) : Opposite c.1 d.1 := by
  induction s generalizing a b with
  | nil =>
    rw [scanText_nil, Option.some_inj] at ha hb
    rw [← ha, ← hb]
    exact h
  | cons u s ih =>
    rw [scanText_cons] at ha hb
    obtain ⟨a', hunit, harest⟩ := Option.bind_eq_some_iff.1 ha
    obtain ⟨b', hunit', hbrest⟩ := Option.bind_eq_some_iff.1 hb
    exact ih (h.scanUnit hunit hunit') harest hbrest

lemma scanUnit_dot {a b : JsonScan} (h : scanUnit a 0x2E = some b) : b.1 = .string ∨ b.1 = .point := by
  obtain ⟨mode, depth⟩ := a
  cases mode with
  | out =>
    rw [show scanUnit (.out, depth) 0x2E = some (.point, depth) by rfl, Option.some_inj] at h
    rw [← h]
    exact .inr rfl
  | point =>
    rw [show scanUnit (.point, depth) 0x2E = none by rfl] at h
    simp at h
  | string =>
    rw [show scanUnit (.string, depth) 0x2E = some (.string, depth) by rfl, Option.some_inj] at h
    rw [← h]
    exact .inl rfl
  | escape =>
    rw [scanUnit, Option.some_inj] at h
    rw [← h]
    exact .inl rfl

/-- What stands behind a dot of a balanced text is not balanced itself, unless the dot is a decimal point. -/
lemma digit_of_balanced_suffix {front back : JsString} (h : Balanced (front ++ 0x2E :: back))
    (hback : Balanced back) : ∃ u rest, back = u :: rest ∧ isDigit u = true := by
  obtain ⟨a, -, hrest⟩ := scanText_split h
  rw [scanText_cons] at hrest
  obtain ⟨b, hdot, hrest⟩ := Option.bind_eq_some_iff.1 hrest
  obtain ⟨mode, depth⟩ := b
  rcases scanUnit_dot hdot with hmode | hmode
  · have hmode : mode = .string := hmode
    have hopposite : Opposite JsonMode.out JsonMode.out :=
      Opposite.scanText (a := (mode, depth)) (b := (.out, 0)) (.inl ⟨hmode, .inl rfl⟩) hrest hback
    simp [Opposite] at hopposite
  · obtain rfl : mode = .point := hmode
    cases back with
    | nil => simp at hrest
    | cons u rest =>
      rw [scanText_cons, scanUnit] at hrest
      by_cases hdigit : isDigit u = true
      · exact ⟨u, rest, rfl, hdigit⟩
      · rw [if_neg hdigit] at hrest
        simp at hrest

lemma parseJson_digit {u : UInt16} (hu : isDigit u = true) {rest : JsString} {j : Json}
    (h : parseJson numberText (u :: rest) = some j) : ∃ text, j = .num text := by
  have hne : ∀ v : UInt16, isDigit v = false → u ≠ v := by
    rintro v hv rfl
    rw [hu] at hv
    simp at hv
  have hspace : isJsonSpace u = false := by
    simp only [isJsonSpace, Bool.or_eq_false_iff, beq_eq_false_iff_ne]
    exact ⟨⟨⟨hne _ rfl, hne _ rfl⟩, hne _ rfl⟩, hne _ rfl⟩
  unfold parseJson at h
  rw [readValue, skipSpace_cons hspace] at h
  simp only [if_neg (hne 0x22 rfl), if_neg (hne 0x5B rfl), if_neg (hne 0x7B rfl), readWord_digit hu] at h
  split at h
  · next value valueRest hread =>
    obtain ⟨r, -, heq⟩ := Option.map_eq_some_iff.1 hread
    obtain ⟨rfl, -⟩ := Prod.mk.inj heq
    split at h
    · exact ⟨_, (Option.some_inj.1 h).symm⟩
    · simp at h
  · simp at h

lemma not_object_behind_dot {front back : JsString} {j : Json}
    (h : parseJson numberText (front ++ 0x2E :: back) = some j) (fields : List (JsString × Json)) :
    parseJson numberText back ≠ some (.obj fields) := by
  intro hback
  obtain ⟨u, rest, rfl, hu⟩ :=
    digit_of_balanced_suffix (balanced_of_parseJson h) (balanced_of_parseJson hback)
  obtain ⟨text, htext⟩ := parseJson_digit hu hback
  simp at htext

/-! ## A text that is cut off -/

lemma scanText_foreign {s : JsString} (hs : ∀ u ∈ s, 0x80 ≤ u) {a b : JsonScan}
    (h : scanText a s = some b) : b.2 = a.2 := by
  induction s generalizing a with
  | nil =>
    rw [scanText_nil, Option.some_inj] at h
    rw [h]
  | cons u s ih =>
    rw [scanText_cons] at h
    obtain ⟨c, hunit, hrest⟩ := Option.bind_eq_some_iff.1 h
    have hu := hs u List.mem_cons_self
    rw [ih (fun v hv => hs v (List.mem_cons_of_mem _ hv)) hrest]
    obtain ⟨mode, depth⟩ := a
    cases mode with
    | out =>
      rw [scanUnit, scanOut] at hunit
      split at hunit
      · rw [← Option.some_inj.1 hunit]
      · rw [if_pos (.inr hu)] at hunit
        simp at hunit
    | point =>
      rw [scanUnit] at hunit
      split at hunit
      · rw [← Option.some_inj.1 hunit]
      · simp at hunit
    | string =>
      rw [scanUnit] at hunit
      rw [← Option.some_inj.1 hunit]
    | escape =>
      rw [scanUnit] at hunit
      rw [← Option.some_inj.1 hunit]

/-- A text in braces that is cut off before its end is not balanced, whatever is left of a unit that was cut. -/
lemma not_balanced_of_cut {inside front rest torn : JsString} (h : Balanced inside)
    (hcut : front ++ rest = 0x7B :: inside ++ [0x7D]) (hfront : front ≠ []) (hrest : rest ≠ [])
    (htorn : ∀ u ∈ torn, 0x80 ≤ u) : ¬ Balanced (front ++ torn) := by
  intro hbalanced
  obtain ⟨u, front, rfl⟩ := List.exists_cons_of_ne_nil hfront
  obtain ⟨rfl, htail⟩ : u = 0x7B ∧ front ++ rest = inside ++ [0x7D] := by
    simpa using hcut
  -- the brace is still open behind the part of the inside that was written
  obtain ⟨rest, last, rfl⟩ := (List.eq_nil_or_concat rest).resolve_left hrest
  rw [List.concat_eq_append, ← List.append_assoc] at htail
  obtain ⟨hinside, -⟩ := List.append_inj' htail rfl
  rw [← hinside] at h
  obtain ⟨a, hfrontScan, -⟩ := scanText_split h
  have hopened := scanText_add hfrontScan 1
  obtain ⟨b, hwhole, htornScan⟩ := scanText_split hbalanced
  rw [scanText_cons, show scanUnit (.out, 0) 0x7B = some (.out, 1) by rfl, Option.bind_some] at hwhole
  rw [hopened, Option.some_inj] at hwhole
  have hdepth := scanText_foreign htorn htornScan
  rw [← hwhole] at hdepth
  simp at hdepth

end Pherry.Protocol
