import Mathlib.Algebra.GroupWithZero.Nat
import Mathlib.Data.List.DropRight
import Pherry.Lib.Separated
import Pherry.Utf8

/-!
# Unit files

How a service manager reads a unit file: lines that may be continued, sections with settings, the quoted and escaped
words of a setting, and the specifiers in them.
-/

namespace Pherry.UnitFile

/-! ## Lines -/

/-- What ends a line. -/
def isLineEnd (b : UInt8) : Bool := b == 0x0A || b == 0x0D || b == 0

lemma oneLine_of_any {s : Bytes} (h : s.any isLineEnd = false) : ∀ b ∈ s, isLineEnd b = false := by
  simpa using h

/-- White space. -/
def isBlank (b : UInt8) : Bool := b == 0x20 || b == 0x09 || b == 0x0A || b == 0x0D

/-- A text without the white space around it. -/
def strip (s : Bytes) : Bytes := (s.dropWhile isBlank).rdropWhile isBlank

/-- A line is continued when it ends in a backslash that is not escaped itself. -/
def continues : Bytes → Bool
  | [] => false
  | [b] => b == 0x5C
  | b :: c :: rest => if b = 0x5C then continues rest else continues (c :: rest)

/-- A comment. -/
def isComment (line : Bytes) : Bool := line.head? == some 0x23 || line.head? == some 0x3B

/-- Lines put together: the backslash of a continued line becomes a space, and comments in between are left out. -/
def joinLines : Option Bytes → List Bytes → List Bytes
  | pending, [] => pending.toList
  | pending, line :: rest =>
    let line := line.dropWhile isBlank
    if isComment line then joinLines pending rest
    else
      let whole := pending.getD [] ++ line
      if continues whole then joinLines (some (whole.dropLast ++ [0x20])) rest
      else whole :: joinLines none rest

/-- The lines of a file. -/
def logicalLines (text : Bytes) : List Bytes := joinLines none (text.splitOnP isLineEnd)

/-! ## Settings -/

/-- `key=value` in a section. -/
structure Entry where
  «section» : Bytes
  key : Bytes
  value : Bytes

/-- The entries of some lines. A line that is no assignment is ignored, a broken section header is an error. -/
def entries (current : Option Bytes) : List Bytes → Option (List Entry)
  | [] => some []
  | line :: rest =>
    let line := line.dropWhile isBlank
    if line.head? = some 0x5B then
      if line.getLast? = some 0x5D then entries (some (line.drop 1).dropLast) rest else none
    else
      let key := line.takeWhile (· ≠ 0x3D)
      match current, line.drop key.length with
      | some name, _ :: value =>
        (entries current rest).map (⟨name, strip key, strip value⟩ :: ·)
      | _, _ => entries current rest

/-! ## Words -/

/-- The value of a digit. -/
def digitValue (b : UInt8) : Option ℕ :=
  if 0x30 ≤ b ∧ b ≤ 0x39 then some (b.toNat - 0x30)
  else if 0x61 ≤ b ∧ b ≤ 0x66 then some (b.toNat - 0x57)
  else if 0x41 ≤ b ∧ b ≤ 0x46 then some (b.toNat - 0x37)
  else none

/-- A digit of a base. -/
def isDigitOf (base : ℕ) (b : UInt8) : Bool := (digitValue b).any (· < base)

/-- The number that some digits at the front of a text are; an escape cannot write zero. -/
def number (base count : ℕ) (text : Bytes) : Option ℕ :=
  let digits := text.take count
  let n := digits.foldl (fun n b => n * base + (digitValue b).getD 0) 0
  if digits.length = count ∧ digits.all (isDigitOf base) = true ∧ 0 < n then some n else none

/-- An escape of one letter. -/
def simpleEscape (b : UInt8) : Option UInt8 :=
  if b = 0x61 then some 0x07
  else if b = 0x62 then some 0x08
  else if b = 0x66 then some 0x0C
  else if b = 0x6E then some 0x0A
  else if b = 0x72 then some 0x0D
  else if b = 0x74 then some 0x09
  else if b = 0x76 then some 0x0B
  else if b = 0x73 then some 0x20
  else if b = 0x5C ∨ b = 0x22 ∨ b = 0x27 then some b
  else none

/-- What stands for an escape, and how many bytes behind the backslash it takes. -/
def unescape : Bytes → Option (Bytes × ℕ)
  | [] => none
  | b :: rest =>
    match simpleEscape b with
    | some c => some ([c], 1)
    | none =>
      if b = 0x78 then (number 16 2 rest).map fun n => ([UInt8.ofNat n], 3)
      else if b = 0x75 then (number 16 4 rest).map fun n => (utf8CodePoint n, 5)
      else if b = 0x55 then
        (number 16 8 rest).bind fun n =>
          if n < 0xD800 ∨ 0xE000 ≤ n ∧ n < 0x110000 then some (utf8CodePoint n, 9) else none
      else (number 8 3 (b :: rest)).bind fun n => if n < 0x100 then some ([UInt8.ofNat n], 3) else none

/-- The words of a text, and whether it was read to its end. The state is the open quote, the word so far, and how
many bytes are still taken by an escape. `relaxed` keeps an unknown escape as it is. -/
def words (relaxed : Bool) : Option UInt8 → Option Bytes → ℕ → Bytes → List Bytes × Bool
  | quote, word, _, [] => if quote.isNone then (word.toList, true) else ([], false)
  | quote, word, skip + 1, _ :: rest => words relaxed quote word skip rest
  | quote, word, 0, b :: rest =>
    if b = 0x5C then
      match unescape rest with
      | some (out, taken) => words relaxed quote (some (word.getD [] ++ out)) taken rest
      | none =>
        if relaxed then words relaxed quote (some (word.getD [] ++ b :: rest.take 1)) 1 rest else ([], false)
    else if quote = some b then words relaxed none (some (word.getD [])) 0 rest
    else if quote = none ∧ (b = 0x22 ∨ b = 0x27) then words relaxed (some b) (some (word.getD [])) 0 rest
    else if quote = none ∧ isBlank b = true then
      let later := words relaxed none none 0 rest
      (word.toList ++ later.1, later.2)
    else words relaxed quote (some (word.getD [] ++ [b])) 0 rest

/-! ## Specifiers -/

/-- A letter that is a specifier behind a percent sign. -/
def isSpecifier (b : UInt8) : Bool := (ascii "aAbBCdDEfgGhHiIjJlLmMnNopPqsStTuUvVwWyY").contains b

/-- A text with its specifiers expanded. A percent sign is kept before any other letter. -/
def expand (specifiers : UInt8 → Bytes) : Bytes → Bytes
  | [] => []
  | [b] => [b]
  | b :: c :: rest =>
    if b = 0x25 then
      (if c = 0x25 then [c] else if isSpecifier c then specifiers c else [b, c]) ++ expand specifiers rest
    else b :: expand specifiers (c :: rest)

/-! ## The unit -/

/-- What a setting says. -/
inductive Setting
  | command (words : List Bytes)
  | environment (assignments : List Bytes)
  | append (path : Bytes)
  | text (value : Bytes)

/-- A setting in its section. -/
structure Directive where
  «section» : Bytes
  key : Bytes
  setting : Setting

/-- A prefix of a command, which changes how it is run. -/
def isExecPrefix (b : UInt8) : Bool := (ascii "@-:+!|").contains b

variable (specifiers : UInt8 → Bytes)

/-- The words of a command. -/
def command (value : Bytes) : Option (List Bytes) :=
  match words true none none 0 value with
  | (path :: args, true) => some ((path.dropWhile isExecPrefix :: args).map (expand specifiers))
  | _ => none

/-- The assignments of an environment, up to the first that is broken. -/
def environment (value : Bytes) : List Bytes := (words false none none 0 value).1.map (expand specifiers)

/-- A setting, read by its key. -/
def setting (key value : Bytes) : Option Setting :=
  if key = ascii "ExecStart" then (command specifiers value).map .command
  else if key = ascii "Environment" then some (.environment (environment specifiers value))
  else if (key = ascii "StandardOutput" ∨ key = ascii "StandardError") ∧ ascii "append:" <+: value then
    some (.append (expand specifiers (value.drop 7)))
  else some (.text value)

/-- The directives of some lines; a command that cannot be read is an error. -/
def directives (current : Option Bytes) (lines : List Bytes) : Option (List Directive) :=
  (entries current lines).bind fun found =>
    found.mapM fun e => (setting specifiers e.key e.value).map fun s => ⟨e.section, e.key, s⟩

/-- Read a unit file. -/
def load (text : Bytes) : Option (List Directive) := directives specifiers none (logicalLines text)

/-! ## How lines are read -/

lemma continues_append {s : Bytes} (h : continues s = false) (t : Bytes) : continues (s ++ t) = continues t := by
  fun_induction continues s with
  | case1 => rfl
  | case2 b =>
    cases t with
    | nil => exact h
    | cons c t =>
      rw [beq_eq_false_iff_ne] at h
      rw [List.singleton_append, continues, if_neg h]
  | case3 c rest ih => simpa [continues] using ih h
  | case4 b c rest hb ih => simpa [continues, hb] using ih h

lemma continues_concat {s : Bytes} {b : UInt8} (h : b ≠ 0x5C) : continues (s ++ [b]) = false := by
  fun_induction continues s with
  | case1 => simpa [continues] using h
  | case2 c => simp [continues, h]
  | case3 c rest ih => simpa [continues] using ih
  | case4 c d rest hc ih => simpa [continues, hc] using ih

lemma eq_of_continues {s : Bytes} (h : continues s = true) : ∃ t, s = t ++ [0x5C] := by
  rcases List.eq_nil_or_concat s with rfl | ⟨t, b, rfl⟩
  · cases h
  · rw [List.concat_eq_append] at h ⊢
    by_cases hb : b = 0x5C
    · exact ⟨t, by rw [hb]⟩
    · rw [continues_concat hb] at h
      cases h

/-- A line stands at the start of a line, and is no comment. -/
def starts (line : Bytes) : Prop := ∀ b ∈ line.head?, isBlank b = false ∧ b ≠ 0x23 ∧ b ≠ 0x3B

lemma dropWhile_of_starts {line : Bytes} (h : starts line) : line.dropWhile isBlank = line := by
  cases line with
  | nil => rfl
  | cons b line => exact List.dropWhile_cons_of_neg (by simp [(h b rfl).1])

lemma isComment_of_starts {line : Bytes} (h : starts line) : isComment line = false := by
  cases line with
  | nil => rfl
  | cons b line =>
    have hb := h b rfl
    simp [isComment, hb.2.1, hb.2.2]

lemma joinLines_cons {line : Bytes} (h : starts line) (pending : Option Bytes) (rest : List Bytes) :
    joinLines pending (line :: rest) =
      if continues (pending.getD [] ++ line) = true then
        joinLines (some ((pending.getD [] ++ line).dropLast ++ [0x20])) rest
      else (pending.getD [] ++ line) :: joinLines none rest := by
  rw [joinLines.eq_def]
  dsimp only
  rw [dropWhile_of_starts h, isComment_of_starts h]
  rfl

lemma joinLines_some (front : Bytes) (lines : List Bytes) :
    ∃ back rest, joinLines (some (front ++ [0x20])) lines = (front ++ 0x20 :: back) :: rest := by
  induction lines generalizing front with
  | nil => exact ⟨[], [], rfl⟩
  | cons line lines ih =>
    rw [joinLines.eq_def]
    dsimp only [Option.getD_some]
    split
    · exact ih front
    · split
      · next hcont =>
        -- the backslash belongs to the line that was added
        have hne : line.dropWhile isBlank ≠ [] := by
          intro hnil
          rw [hnil, List.append_nil, continues_concat (by decide)] at hcont
          cases hcont
        rw [List.dropLast_append_of_ne_nil hne]
        obtain ⟨back, rest, heq⟩ := ih (front ++ [0x20] ++ (line.dropWhile isBlank).dropLast)
        exact ⟨(line.dropWhile isBlank).dropLast ++ 0x20 :: back, rest, by simpa using heq⟩
      · exact ⟨line.dropWhile isBlank, joinLines none lines, by simp⟩

lemma not_isLineEnd_of_mem_joinLines {pending : Option Bytes} {lines : List Bytes}
    (hpending : ∀ line ∈ pending, ∀ b ∈ line, isLineEnd b = false)
    (hlines : ∀ line ∈ lines, ∀ b ∈ line, isLineEnd b = false) :
    ∀ line ∈ joinLines pending lines, ∀ b ∈ line, isLineEnd b = false := by
  induction lines generalizing pending with
  | nil =>
    rw [joinLines.eq_def]
    intro line hline
    exact hpending line (Option.mem_toList.1 hline)
  | cons line lines ih =>
    have hrest := fun l hl => hlines l (List.mem_cons_of_mem line hl)
    have hwhole : ∀ b ∈ pending.getD [] ++ line.dropWhile isBlank, isLineEnd b = false := by
      intro b hb
      rcases List.mem_append.1 hb with hfront | hback
      · cases pending with
        | none => cases hfront
        | some front => exact hpending front rfl b hfront
      · exact hlines line List.mem_cons_self b ((List.dropWhile_suffix isBlank).subset hback)
    rw [joinLines.eq_def]
    dsimp only
    split
    · exact ih hpending hrest
    · split
      · apply ih _ hrest
        rintro _ ⟨⟩ b hb
        rcases List.mem_append.1 hb with hfront | hback
        · exact hwhole b (List.dropLast_subset _ hfront)
        · rw [List.mem_singleton.1 hback]
          decide
      · intro l hl
        rcases List.mem_cons.1 hl with rfl | hmem
        · exact hwhole
        · exact ih (fun _ h => by cases h) hrest l hmem

lemma not_isLineEnd_of_mem_logicalLines {text line : Bytes} (h : line ∈ logicalLines text) :
    ∀ b ∈ line, isLineEnd b = false := by
  refine not_isLineEnd_of_mem_joinLines (fun _ hnone => by cases hnone) ?_ line h
  exact fun line hline => Lib.eq_false_of_mem_splitOnP hline

lemma logicalLines_append {line : Bytes} {e : UInt8} (hline : ∀ b ∈ line, isLineEnd b = false)
    (he : isLineEnd e = true) (hstarts : starts line) (text : Bytes) :
    logicalLines (line ++ e :: text) =
      if continues line then joinLines (some (line.dropLast ++ [0x20])) (text.splitOnP isLineEnd)
      else line :: logicalLines text := by
  rw [logicalLines, List.splitOnP_append_cons_of_forall_mem hline e he, joinLines_cons hstarts none]
  rfl

/-! ## How settings are read -/

/-- A key is letters. -/
def isKey (key : Bytes) : Bool := !key.isEmpty && key.all fun b => 0x41 ≤ b && b ≤ 0x7A && b != 0x5B

lemma letter_of_isKey {key : Bytes} (h : isKey key = true) :
    ∀ b ∈ key, isBlank b = false ∧ b ≠ 0x23 ∧ b ≠ 0x3B ∧ b ≠ 0x3D ∧ b ≠ 0x5B := by
  intro b hb
  have hletter := List.all_eq_true.1 (Bool.and_eq_true_iff.1 h).2 b hb
  rw [Bool.and_eq_true_iff, bne_iff_ne, Bool.and_eq_true_iff, decide_eq_true_eq] at hletter
  obtain ⟨⟨hleast, -⟩, hbracket⟩ := hletter
  have hne : ∀ c : UInt8, c < 0x41 → b ≠ c := by
    rintro c hc rfl
    exact absurd hleast (UInt8.not_le.2 hc)
  refine ⟨?_, hne _ (by decide), hne _ (by decide), hne _ (by decide), hbracket⟩
  simp [isBlank, hne 0x20 (by decide), hne 0x09 (by decide), hne 0x0A (by decide), hne 0x0D (by decide)]

lemma strip_of_isKey {key : Bytes} (h : isKey key = true) : strip key = key := by
  have hletter := letter_of_isKey h
  rw [strip, List.dropWhile_eq_self_iff.2 fun hpos => by simp [(hletter _ (List.getElem_mem hpos)).1],
    List.rdropWhile_eq_self_iff]
  intro hne
  simp [(hletter _ (List.getLast_mem hne)).1]

variable {specifiers}

lemma directives_assignment {key : Bytes} (hkey : isKey key = true) (name value : Bytes) (lines : List Bytes) :
    directives specifiers (some name) ((key ++ 0x3D :: value) :: lines) =
      (setting specifiers key (strip value)).bind fun s =>
        (directives specifiers (some name) lines).map (⟨name, key, s⟩ :: ·) := by
  cases key with
  | nil => cases hkey
  | cons b key =>
    have hfirst := letter_of_isKey hkey b List.mem_cons_self
    have hnoEq : ∀ c ∈ b :: key, decide (c ≠ 0x3D) = true :=
      fun c hc => decide_eq_true (letter_of_isKey hkey c hc).2.2.2.1
    have htake : ((b :: key) ++ 0x3D :: value).takeWhile (fun c => decide (c ≠ 0x3D)) = b :: key := by
      rw [List.takeWhile_append_of_pos hnoEq, List.takeWhile_cons_of_neg (by decide), List.append_nil]
    have hline : ((b :: key) ++ 0x3D :: value).dropWhile isBlank = (b :: key) ++ 0x3D :: value :=
      List.dropWhile_cons_of_neg (by simp [hfirst.1])
    have hentries : entries (some name) (((b :: key) ++ 0x3D :: value) :: lines) =
        (entries (some name) lines).map (⟨name, b :: key, strip value⟩ :: ·) := by
      rw [entries]
      dsimp only
      rw [hline, htake, List.drop_left, strip_of_isKey hkey, if_neg (by simp [hfirst.2.2.2.2])]
    rw [directives, hentries, directives]
    cases entries (some name) lines with
    | none => cases setting specifiers (b :: key) (strip value) <;> rfl
    | some found =>
      rw [Option.map_some, Option.bind_some, Option.bind_some, List.mapM_cons]
      cases setting specifiers (b :: key) (strip value) with
      | none => rfl
      | some s =>
        rw [Option.bind_some, Option.map_some]
        generalize found.mapM (fun e : Entry =>
          (setting specifiers e.key e.value).map fun s => (⟨e.section, e.key, s⟩ : Directive)) = rest
        cases rest <;> rfl

/-! ## How specifiers are expanded -/

/-- No percent sign begins a specifier. -/
def isLiteral : Bytes → Bool
  | [] => true
  | [_] => true
  | b :: c :: rest => (b != 0x25 || !(c == 0x25 || isSpecifier c)) && isLiteral (c :: rest)

lemma expand_cons {b : UInt8} (h : b ≠ 0x25) (s : Bytes) :
    expand specifiers (b :: s) = b :: expand specifiers s := by
  cases s with
  | nil => rfl
  | cons c s => rw [expand, if_neg h]

lemma expand_append {front : Bytes} (h : 0x25 ∉ front) (s : Bytes) :
    expand specifiers (front ++ s) = front ++ expand specifiers s := by
  induction front with
  | nil => rfl
  | cons b front ih =>
    rw [List.mem_cons, not_or] at h
    rw [List.cons_append, expand_cons (Ne.symm h.1), ih h.2, List.cons_append]

lemma expand_of_isLiteral {s : Bytes} (h : isLiteral s = true) : expand specifiers s = s := by
  fun_induction expand specifiers s with
  | case1 => rfl
  | case2 b => rfl
  | case3 c rest ih =>
    simp only [isLiteral, bne_self_eq_false, Bool.false_or, Bool.and_eq_true, Bool.not_eq_true',
      Bool.or_eq_false_iff, beq_eq_false_iff_ne] at h
    have hrest : isLiteral rest = true := by
      cases rest with
      | nil => rfl
      | cons d rest => exact (Bool.and_eq_true_iff.1 h.2).2
    rw [if_neg h.1.1, if_neg (by simp [h.1.2]), ih hrest]
    rfl
  | case4 b c rest hb ih =>
    rw [isLiteral, Bool.and_eq_true_iff] at h
    rw [ih h.2]

/-- Specifiers that are all empty. -/
def noSpecifiers : UInt8 → Bytes := fun _ => []

lemma length_expand_le (s : Bytes) : (expand noSpecifiers s).length ≤ s.length := by
  fun_induction expand noSpecifiers s with
  | case1 => exact le_refl 0
  | case2 b => exact le_refl 1
  | case3 c rest ih =>
    rw [List.length_append]
    split
    · simp; omega
    · split
      · simp [noSpecifiers]; omega
      · simp; omega
  | case4 b c rest hb ih => simpa using ih

lemma isLiteral_of_expand {s : Bytes} (h : expand noSpecifiers s = s) : isLiteral s = true := by
  fun_induction expand noSpecifiers s with
  | case1 => rfl
  | case2 b => rfl
  | case3 c rest ih =>
    have hle := length_expand_le rest
    have hc : c ≠ 0x25 ∧ isSpecifier c = false := by
      have hlength := congrArg List.length h
      rw [List.length_append] at hlength
      split at hlength
      · simp at hlength
        omega
      · next hpercent =>
        split at hlength
        · simp [noSpecifiers] at hlength
          omega
        · next hspecifier => exact ⟨hpercent, by simpa using hspecifier⟩
    rw [if_neg hc.1, if_neg (by simp [hc.2])] at h
    have hrest := ih (by simpa using h)
    cases rest with
    | nil => simp [isLiteral, hc.1, hc.2]
    | cons d rest => simp [isLiteral, hc.1, hc.2, hrest]
  | case4 b c rest hb ih =>
    rw [isLiteral, ih (List.cons_eq_cons.1 h).2]
    simp [hb]

/-! ## How words are read -/

lemma number_eq_some {base count : ℕ} {text : Bytes} {n : ℕ} (h : number base count text = some n) :
    count ≤ text.length ∧ ∀ b ∈ text.take count, b ≠ 0x20 := by
  unfold number at h
  dsimp only at h
  split at h
  · next hcond =>
    have hlength := hcond.1
    rw [List.length_take] at hlength
    refine ⟨by omega, ?_⟩
    rintro b hb rfl
    exact absurd (List.all_eq_true.1 hcond.2.1 _ hb) Bool.false_ne_true
  · cases h

lemma unescape_eq_some {rest out : Bytes} {taken : ℕ} (h : unescape rest = some (out, taken)) :
    out.length ≤ taken ∧ taken ≤ rest.length ∧ ∀ b ∈ rest.take taken, b ≠ 0x20 := by
  have hutf8 : ∀ n, (utf8CodePoint n).length ≤ 4 := by
    intro n
    unfold utf8CodePoint
    split_ifs <;> simp
  cases rest with
  | nil => cases h
  | cons b rest =>
    rw [unescape] at h
    split at h
    · next c hc =>
      cases h
      refine ⟨le_refl 1, by simp, ?_⟩
      intro d hd
      rw [List.take_succ_cons, List.take_zero, List.mem_singleton] at hd
      rintro rfl
      have hspace : simpleEscape 0x20 = none := by decide
      rw [← hd, hspace] at hc
      cases hc
    · split_ifs at h with hx hu hU
      · obtain ⟨n, hn, hout⟩ := Option.map_eq_some_iff.1 h
        obtain ⟨hlength, hspace⟩ := number_eq_some hn
        cases hout
        refine ⟨by simp, by simpa using hlength, ?_⟩
        rw [List.take_succ_cons, List.forall_mem_cons]
        exact ⟨by rw [hx]; decide, hspace⟩
      · obtain ⟨n, hn, hout⟩ := Option.map_eq_some_iff.1 h
        obtain ⟨hlength, hspace⟩ := number_eq_some hn
        cases hout
        refine ⟨(hutf8 n).trans (by omega), by simpa using hlength, ?_⟩
        rw [List.take_succ_cons, List.forall_mem_cons]
        exact ⟨by rw [hu]; decide, hspace⟩
      · obtain ⟨n, hn, hout⟩ := Option.bind_eq_some_iff.1 h
        obtain ⟨hlength, hspace⟩ := number_eq_some hn
        split_ifs at hout
        cases hout
        refine ⟨(hutf8 n).trans (by omega), by simpa using hlength, ?_⟩
        rw [List.take_succ_cons, List.forall_mem_cons]
        exact ⟨by rw [hU]; decide, hspace⟩
      · obtain ⟨n, hn, hout⟩ := Option.bind_eq_some_iff.1 h
        obtain ⟨hlength, hspace⟩ := number_eq_some hn
        split_ifs at hout
        cases hout
        exact ⟨by simp, hlength, hspace⟩

/-- Nothing in a text ends the double quotes it stands in, or is an escape. -/
def isPlain (s : Bytes) : Prop := ∀ b ∈ s, b ≠ 0x22 ∧ b ≠ 0x5C

lemma isPlain_of_any {s : Bytes} (h : s.any (fun b => b == 0x22 || b == 0x5C) = false) : isPlain s := by
  intro b hb
  have hspecial := List.any_eq_false.1 h b hb
  simpa using hspecial

lemma words_plain (relaxed : Bool) {front : Bytes} (h : isPlain front) (word text : Bytes) :
    words relaxed (some 0x22) (some word) 0 (front ++ text) =
      words relaxed (some 0x22) (some (word ++ front)) 0 text := by
  induction front generalizing word with
  | nil => rw [List.nil_append, List.append_nil]
  | cons b front ih =>
    have hb := h b List.mem_cons_self
    rw [List.cons_append, words, if_neg hb.2, if_neg (by simpa using hb.1.symm), if_neg (by simp), if_neg (by simp),
      ih fun c hc => h c (List.mem_cons_of_mem b hc)]
    simp

/-- The bytes of some words. -/
def weight (items : List Bytes) : ℕ := (items.map List.length).sum

variable {relaxed : Bool} {quote : Option UInt8} {word : Option Bytes}

lemma weight_words_le (skip : ℕ) (text : Bytes) :
    weight (words relaxed quote word skip text).1 ≤ (word.getD []).length + (text.length - skip) := by
  fun_induction words relaxed quote word skip text with
  | case1 quote word skip hquote => cases word <;> simp [weight]
  | case2 quote word skip hquote => simp [weight]
  | case3 quote word skip b rest ih => simpa using ih
  | case4 quote word rest out taken hescape ih =>
    obtain ⟨hout, htaken, -⟩ := unescape_eq_some hescape
    simp only [Option.getD_some, List.length_append] at ih
    simp only [List.length_cons]
    omega
  | case5 quote word rest hescape hrelaxed ih =>
    simp only [Option.getD_some, List.length_append, List.length_cons, List.length_take] at ih ⊢
    omega
  | case6 quote word rest hescape hrelaxed => simp [weight]
  | case7 word b rest hb ih =>
    simp only [Option.getD_some, List.length_cons] at ih ⊢
    omega
  | case8 quote word b rest hb hclose hopen ih =>
    simp only [Option.getD_some, List.length_cons] at ih ⊢
    omega
  | case9 quote word b rest hb hclose hopen hblank later ih =>
    have hword : weight word.toList = (word.getD []).length := by
      cases word <;> simp [weight]
    show weight (word.toList ++ (words relaxed none none 0 rest).1) ≤ _
    simp only [weight, List.map_append, List.sum_append, Option.getD_none, List.length_nil,
      List.length_cons] at ih hword ⊢
    omega
  | case10 quote word b rest hb hclose hopen hblank ih =>
    simp only [Option.getD_some, List.length_append, List.length_cons, List.length_nil] at ih ⊢
    omega

lemma weight_words_lt (skip : ℕ) {text : Bytes} (hlast : text.getLast? = some 0x22) (hskip : skip < text.length) :
    weight (words false quote word skip text).1 < (word.getD []).length + (text.length - skip) := by
  -- a quote that is read as a character stands inside the other quotes, and these are never closed
  induction text generalizing quote word skip with
  | nil => cases hlast
  | cons b rest ih =>
    have hbound : ∀ (q : Option UInt8) (w : Option Bytes) (n : ℕ),
        weight (words false q w n rest).1 ≤ (w.getD []).length + (rest.length - n) :=
      fun q w n => weight_words_le n rest
    cases skip with
    | succ skip =>
      rw [words]
      have hrest : rest.getLast? = some 0x22 := by
        cases rest with
        | nil => simp at hskip
        | cons c rest => simpa using hlast
      simpa using ih skip hrest (by simpa using hskip)
    | zero =>
      rw [words.eq_def]
      simp only [Bool.false_eq_true, ↓reduceIte]
      split_ifs with hslash hclose hopen hblank
      · split
        · next out taken hescape =>
          obtain ⟨hout, htaken, -⟩ := unescape_eq_some hescape
          have hle := hbound quote (some (word.getD [] ++ out)) taken
          simp only [Option.getD_some, List.length_append] at hle
          simp only [List.length_cons]
          omega
        · simp only [weight, List.map_nil, List.sum_nil, List.length_cons]
          omega
      · have hle := hbound none (some (word.getD [])) 0
        simp only [Option.getD_some, List.length_cons] at hle ⊢
        omega
      · have hle := hbound (some b) (some (word.getD [])) 0
        simp only [Option.getD_some, List.length_cons] at hle ⊢
        omega
      · have hle := hbound none none 0
        have hword : weight word.toList = (word.getD []).length := by
          cases word <;> simp [weight]
        simp only [weight, List.map_append, List.sum_append, Option.getD_none, List.length_nil, List.length_cons]
          at hle hword ⊢
        omega
      · cases rest with
        | nil =>
          have hb : b = 0x22 := by simpa using hlast
          have hquote : quote.isSome = true := by
            cases quote with
            | none => exact absurd ⟨rfl, .inl hb⟩ hopen
            | some q => rfl
          rw [words]
          simp [Option.isSome_iff_ne_none.1 hquote, weight]
        | cons c rest =>
          have hlt := @ih quote (some (word.getD [] ++ [b])) 0 (by simpa using hlast) (by simp)
          simp only [Option.getD_some, List.length_append, List.length_cons, List.length_nil] at hlt ⊢
          omega

lemma prefix_of_words {front item : Bytes} {items : List Bytes} (skip : ℕ) (text : Bytes)
    (h : (words relaxed quote (some front) skip text).1 = item :: items) : front <+: item := by
  induction text generalizing quote front skip with
  | nil =>
    rw [words.eq_def] at h
    dsimp only at h
    split at h
    · rw [Option.toList_some, List.cons_eq_cons] at h
      exact ⟨[], by simpa using h.1⟩
    · cases h
  | cons b rest ih =>
    cases skip with
    | succ skip => exact ih skip (by rwa [words] at h)
    | zero =>
      rw [words.eq_def] at h
      dsimp only [Option.getD_some] at h
      split_ifs at h with hslash hrelaxed hclose hopen hblank
      · split at h
        · exact (List.prefix_append _ _).trans (ih _ h)
        · exact (List.prefix_append _ _).trans (ih _ h)
      · split at h
        · exact (List.prefix_append _ _).trans (ih _ h)
        · cases h
      · exact ih 0 h
      · exact ih 0 h
      · rw [Option.toList_some, List.singleton_append, List.cons_eq_cons] at h
        exact ⟨[], by simpa using h.1⟩
      · exact (List.prefix_append _ _).trans (ih _ h)

/-- The spaces at the front of a text. -/
def spaces (s : Bytes) (n : ℕ) : ℕ := (s.take n).count 0x20

lemma spaces_mono (s : Bytes) {m n : ℕ} (h : m ≤ n) : spaces s m ≤ spaces s n :=
  (List.take_prefix_take_left h).sublist.count_le 0x20

lemma spaces_append (s t : Bytes) (n : ℕ) : spaces (s ++ t) (s.length + n) = s.count 0x20 + spaces t n := by
  rw [spaces, List.take_length_add_append, List.count_append, spaces]

lemma spaces_of_words {front item text back : Bytes} {items : List Bytes} (skip : ℕ) (hquote : quote ≠ some 0x20)
    (hskip : skip ≤ text.length)
    (h : (words false quote (some front) skip (text ++ 0x20 :: back)).1 = item :: items) :
    item.length ≤ front.length + (text.length - skip) ∨
      front.count 0x20 + (text.drop skip).count 0x20 < spaces item (front.length + (text.length - skip) + 1) := by
  induction text generalizing quote front skip with
  | nil =>
    have hzero : skip = 0 := Nat.le_zero.1 hskip
    subst hzero
    rw [List.nil_append, words.eq_def] at h
    dsimp only [Option.getD_some] at h
    rw [if_neg (by decide), if_neg hquote, if_neg (by simp)] at h
    split_ifs at h with hblank
    · rw [Option.toList_some, List.singleton_append, List.cons_eq_cons] at h
      exact .inl (by simp [h.1])
    · obtain ⟨more, rfl⟩ := prefix_of_words 0 back h
      right
      have happend := spaces_append (front ++ [0x20]) more 0
      rw [List.length_append, List.length_singleton, Nat.add_zero, List.count_append] at happend
      rw [List.length_nil, Nat.zero_sub, Nat.add_zero, happend]
      simp only [List.drop_nil, List.count_nil, List.count_singleton_self]
      omega
  | cons b rest ih =>
    -- what is read of the rest is a word that is no longer, with as many spaces
    have hcarry : ∀ (q : Option UInt8) (out : Bytes) (taken : ℕ), q ≠ some 0x20 → taken ≤ rest.length →
        out.length ≤ taken + 1 →
        [b].count 0x20 + rest.count 0x20 ≤ out.count 0x20 + (rest.drop taken).count 0x20 →
        (words false q (some (front ++ out)) taken (rest ++ 0x20 :: back)).1 = item :: items →
        item.length ≤ front.length + (rest.length + 1) ∨
          front.count 0x20 + (b :: rest).count 0x20 < spaces item (front.length + (rest.length + 1) + 1) := by
      intro q out taken hq htaken hout hcount hwords
      have hcases := ih taken hq htaken hwords
      simp only [List.length_append, List.count_append] at hcases
      rcases hcases with hshort | hspaces
      · exact .inl (by omega)
      · right
        have hmono := spaces_mono item (show front.length + out.length + (rest.length - taken) + 1 ≤
          front.length + (rest.length + 1) + 1 by omega)
        rw [← List.singleton_append, List.count_append]
        omega
    cases skip with
    | succ skip =>
      rw [List.cons_append, words] at h
      simpa using ih skip hquote (by simpa using hskip) h
    | zero =>
      rw [List.cons_append, words.eq_def] at h
      simp only [Option.getD_some, Bool.false_eq_true, ↓reduceIte] at h
      rw [List.drop_zero, List.length_cons, Nat.sub_zero]
      split_ifs at h with hslash hclose hopen hblank
      · split at h
        · next out taken hescape =>
          obtain ⟨hout, -, hspace⟩ := unescape_eq_some hescape
          have htaken : taken ≤ rest.length := by
            by_contra hlong
            refine hspace 0x20 ?_ rfl
            rw [List.mem_take_iff_getElem]
            exact ⟨rest.length, by simp; omega, by simp⟩
          have hnone : (rest.take taken).count 0x20 = 0 := by
            rw [List.count_eq_zero]
            intro hmem
            refine hspace 0x20 ?_ rfl
            rw [List.take_append_of_le_length htaken]
            exact hmem
          have hcount := congrArg (List.count 0x20) (List.take_append_drop taken rest)
          rw [List.count_append, hnone] at hcount
          refine hcarry quote out taken hquote htaken (by omega) ?_ h
          rw [hslash, List.count_singleton, if_neg (by decide)]
          omega
        · cases h
      · refine hcarry none [] 0 (by simp) (by simp) (by simp) ?_ (by simpa using h)
        have hb : b ≠ 0x20 := by
          rintro rfl
          exact hquote hclose
        simp [hb]
      · refine hcarry (some b) [] 0 ?_ (by simp) (by simp) ?_ (by simpa using h)
        · rintro ⟨rfl⟩
          simp at hopen
        · have hb : b ≠ 0x20 := by
            rintro rfl
            simp at hopen
          simp [hb]
      · rw [Option.toList_some, List.singleton_append, List.cons_eq_cons] at h
        exact .inl (by simp [h.1])
      · exact hcarry quote [b] 0 hquote (by simp) (by simp) (by simp) h

lemma spaces_le_expand (s : Bytes) (n : ℕ) : spaces s n ≤ spaces (expand noSpecifiers s) n := by
  fun_induction expand noSpecifiers s generalizing n with
  | case1 => exact le_refl _
  | case2 b => exact le_refl _
  | case3 c rest ih =>
    rcases n with _ | _ | n
    · simp [spaces]
    · simp [spaces]
    · have hcount : spaces (0x25 :: c :: rest) (n + 2) = [c].count 0x20 + spaces rest n := by
        have happend := spaces_append [0x25, c] rest n
        rw [List.count_cons_of_ne (by decide), Nat.add_comm] at happend
        exact happend
      have hcarry : ∀ out : Bytes, out.length ≤ 2 → [c].count 0x20 ≤ out.count 0x20 →
          [c].count 0x20 + spaces rest n ≤ spaces (out ++ expand noSpecifiers rest) (n + 2) := by
        intro out hlength hout
        have happend := spaces_append out (expand noSpecifiers rest) n
        have hmono := spaces_mono (out ++ expand noSpecifiers rest) (show out.length + n ≤ n + 2 by omega)
        have hrest := ih n
        omega
      rw [hcount]
      split
      · exact hcarry [c] (by simp) (le_refl _)
      · split
        · next hspecifier =>
          have hc : c ≠ 0x20 := by
            rintro rfl
            exact absurd hspecifier (by decide)
          exact hcarry [] (by simp) (by simp [hc])
        · exact hcarry [0x25, c] (le_refl _) ((List.sublist_cons_self 0x25 [c]).count_le 0x20)
  | case4 b c rest hb ih =>
    cases n with
    | zero => simp [spaces]
    | succ n =>
      have hrest := ih n
      unfold spaces at hrest ⊢
      rw [List.take_succ_cons, List.take_succ_cons, List.count_cons, List.count_cons]
      omega

lemma mem_of_mem_expand {b : UInt8} {s : Bytes} (h : b ∈ expand noSpecifiers s) : b ∈ s := by
  fun_induction expand noSpecifiers s with
  | case1 => exact h
  | case2 c => exact h
  | case3 c rest ih =>
    rcases List.mem_append.1 h with hfront | hback
    · split_ifs at hfront with hpercent hspecifier
      · exact List.mem_cons_of_mem 0x25 (List.mem_cons.2 (.inl (List.mem_singleton.1 hfront)))
      · cases hfront
      · rcases List.mem_cons.1 hfront with rfl | hc
        · exact List.mem_cons_self
        · exact List.mem_cons_of_mem 0x25 (List.mem_cons.2 (.inl (List.mem_singleton.1 hc)))
    · exact List.mem_cons_of_mem 0x25 (List.mem_cons_of_mem c (ih hback))
  | case4 c d rest hc ih =>
    rcases List.mem_cons.1 h with rfl | hback
    · exact List.mem_cons_self
    · exact List.mem_cons_of_mem c (ih hback)

/-! ## Lines that are written -/

/-- A line that is read as it is written. -/
def isWhole (line : Bytes) : Bool :=
  line.all (fun b => !isLineEnd b) && line.head?.all (fun b => !isBlank b && b != 0x23 && b != 0x3B) && !continues line

lemma logicalLines_whole {line : Bytes} (h : isWhole line = true) (text : Bytes) :
    logicalLines (line ++ 0x0A :: text) = line :: logicalLines text := by
  rw [isWhole, Bool.and_eq_true_iff, Bool.and_eq_true_iff, Bool.not_eq_true'] at h
  have hline : ∀ b ∈ line, isLineEnd b = false := by
    intro b hb
    simpa using List.all_eq_true.1 h.1.1 b hb
  have hstarts : starts line := by
    intro b hb
    have hfirst := h.1.2
    rw [Option.mem_def.1 hb] at hfirst
    simpa [and_assoc] using hfirst
  rw [logicalLines_append hline (by decide) hstarts, h.2, if_neg (by simp)]

lemma directives_header (current : Option Bytes) (name : Bytes) (lines : List Bytes) :
    directives specifiers current ((0x5B :: (name ++ [0x5D])) :: lines) = directives specifiers (some name) lines := by
  have hline : (0x5B :: (name ++ [0x5D])).dropWhile isBlank = 0x5B :: (name ++ [0x5D]) :=
    List.dropWhile_cons_of_neg (by decide)
  have hlast : (0x5B :: (name ++ [0x5D])).getLast? = some 0x5D := by
    rw [← List.cons_append, List.getLast?_concat]
  rw [directives, entries]
  dsimp only
  rw [hline, List.head?_cons, if_pos rfl, if_pos hlast, List.drop_one, List.tail_cons, List.dropLast_concat]
  rfl

lemma directives_empty (current : Option Bytes) (lines : List Bytes) :
    directives specifiers current ([] :: lines) = directives specifiers current lines := by
  cases current <;> rfl

lemma starts_assignment {key : Bytes} (hkey : isKey key = true) (value : Bytes) : starts (key ++ 0x3D :: value) := by
  cases key with
  | nil => cases hkey
  | cons b key =>
    rintro _ ⟨⟩
    have hfirst := letter_of_isKey hkey b List.mem_cons_self
    exact ⟨hfirst.1, hfirst.2.1, hfirst.2.2.1⟩

lemma continues_assignment (key value : Bytes) : continues (key ++ 0x3D :: value) = continues value := by
  have hkey : continues (key ++ [0x3D]) = false := continues_concat (by decide)
  rw [List.append_cons, continues_append hkey]

lemma exists_lineEnd {s : Bytes} (h : ¬ ∀ b ∈ s, isLineEnd b = false) :
    ∃ front e back, s = front ++ e :: back ∧ (∀ b ∈ front, isLineEnd b = false) ∧ isLineEnd e = true := by
  induction s with
  | nil => exact absurd (fun b hb => by cases hb) h
  | cons b s ih =>
    by_cases hb : isLineEnd b = true
    · exact ⟨[], b, s, rfl, fun c hc => absurd hc List.not_mem_nil, hb⟩
    · have hrest : ¬ ∀ c ∈ s, isLineEnd c = false :=
        fun hall => h (List.forall_mem_cons.2 ⟨by simpa using hb, hall⟩)
      obtain ⟨front, e, back, rfl, hfront, he⟩ := ih hrest
      exact ⟨b :: front, e, back, rfl, List.forall_mem_cons.2 ⟨by simpa using hb, hfront⟩, he⟩

lemma rdropWhile_append_cons {b : UInt8} (hb : isBlank b = false) (s t : Bytes) :
    (s ++ b :: t).rdropWhile isBlank = s ++ b :: t.rdropWhile isBlank := by
  induction t using List.reverseRecOn with
  | nil =>
    rw [List.rdropWhile_nil]
    exact List.rdropWhile_concat_neg _ _ _ (by simp [hb])
  | append_singleton t c ih =>
    rw [← List.cons_append, ← List.append_assoc, List.rdropWhile_concat, List.rdropWhile_concat]
    split
    · exact ih
    · simp

lemma strip_cons {b : UInt8} (hb : isBlank b = false) (s : Bytes) :
    strip (b :: s) = b :: s.rdropWhile isBlank := by
  rw [strip, List.dropWhile_cons_of_neg (by simp [hb])]
  exact rdropWhile_append_cons hb [] s

end Pherry.UnitFile
