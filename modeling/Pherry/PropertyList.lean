import Mathlib.Data.List.DropRight

/-!
# Property lists

A reader of XML property lists, on the code points of a document: strings, flags, arrays and dictionaries. Comments
and `CDATA` are refused, and the attributes of a tag are passed over.
-/

namespace Pherry.PropertyList

/-! ## Characters -/

/-- The code points of a name. -/
def chars (name : List Char) : List ℕ := name.map Char.toNat

/-- `Char`: what may stand in a document. -/
def isChar (c : ℕ) : Bool :=
  c == 0x9 || c == 0xA || c == 0xD || (0x20 ≤ c && c ≤ 0xD7FF) || (0xE000 ≤ c && c ≤ 0xFFFD) ||
    (0x10000 ≤ c && c ≤ 0x10FFFF)

/-- `S`: white space. -/
def isSpace (c : ℕ) : Bool := c == 0x20 || c == 0x9 || c == 0xA || c == 0xD

/-- A text as its line ends are read: each of them is one line feed. -/
def lineEnds : List ℕ → List ℕ
  | [] => []
  | 0x0D :: 0x0A :: rest => 0x0A :: lineEnds rest
  | c :: rest => (if c = 0x0D then 0x0A else c) :: lineEnds rest

/-- A digit. -/
def digit (c : ℕ) : Option ℕ :=
  if 0x30 ≤ c ∧ c ≤ 0x39 then some (c - 0x30)
  else if 0x41 ≤ c ∧ c ≤ 0x46 then some (c - 0x37)
  else if 0x61 ≤ c ∧ c ≤ 0x66 then some (c - 0x57)
  else none

/-- A number. -/
def number (base : ℕ) (digits : List ℕ) : Option ℕ :=
  digits.foldlM (fun n c => (digit c).bind fun d => if d < base then some (n * base + d) else none) 0

/-- What a reference stands for. -/
def reference (name : List ℕ) : Option ℕ :=
  if name = chars ['a', 'm', 'p'] then some 0x26
  else if name = chars ['l', 't'] then some 0x3C
  else if name = chars ['g', 't'] then some 0x3E
  else if name = chars ['q', 'u', 'o', 't'] then some 0x22
  else if name = chars ['a', 'p', 'o', 's'] then some 0x27
  else
    match name with
    | 0x23 :: 0x78 :: d :: digits => (number 16 (d :: digits)).filter isChar
    | 0x23 :: d :: digits => (number 10 (d :: digits)).filter isChar
    | _ => none

/-- A text with its references resolved: the name of the one that has been begun first. -/
def content : Option (List ℕ) → List ℕ → Option (List ℕ)
  | none, [] => some []
  | some _, [] => none
  | none, c :: rest => if c = 0x26 then content (some []) rest else (content none rest).map (c :: ·)
  | some name, c :: rest =>
    if c = 0x3B then (reference name).bind fun d => (content none rest).map (d :: ·)
    else content (some (name ++ [c])) rest

/-! ## Markup -/

/-- The elements of a property list. -/
inductive Tag where
  | plist
  | dict
  | array
  | key
  | string
  | bool (value : Bool)
  deriving DecidableEq

/-- A tag, a closing tag or a text. -/
inductive Token where
  | opens (tag : Tag)
  | closes (tag : Tag)
  | text (t : List ℕ)
  deriving DecidableEq

/-- The name of an element. -/
def Tag.name : Tag → List ℕ
  | .plist => chars ['p', 'l', 'i', 's', 't']
  | .dict => chars ['d', 'i', 'c', 't']
  | .array => chars ['a', 'r', 'r', 'a', 'y']
  | .key => chars ['k', 'e', 'y']
  | .string => chars ['s', 't', 'r', 'i', 'n', 'g']
  | .bool true => chars ['t', 'r', 'u', 'e']
  | .bool false => chars ['f', 'a', 'l', 's', 'e']

/-- An element by its name. -/
def tagOf (name : List ℕ) : Option Tag :=
  [.plist, .dict, .array, .key, .string, .bool true, .bool false].find? fun tag => tag.name == name

/-- What stands between angle brackets. -/
def markup (body : List ℕ) : Option (List Token) :=
  match body with
  | 0x3F :: _ => if body.getLast? = some 0x3F then some [] else none
  | 0x21 :: rest => if chars ['D', 'O', 'C', 'T', 'Y', 'P', 'E'] <+: rest then some [] else none
  | 0x2F :: name => (tagOf (name.rdropWhile isSpace)).map fun tag => [.closes tag]
  | _ =>
    if body.getLast? = some 0x2F then
      (tagOf (body.dropLast.takeWhile fun c => !isSpace c)).map fun tag => [.opens tag, .closes tag]
    else (tagOf (body.takeWhile fun c => !isSpace c)).map fun tag => [.opens tag]

/-- A tag and the text up to the next one. -/
structure Piece where
  body : List ℕ
  text : List ℕ

def Piece.write (piece : Piece) : List ℕ := 0x3C :: (piece.body ++ 0x3E :: piece.text)

def Piece.tokens (piece : Piece) : Option (List Token) :=
  if piece.body.all isChar && piece.text.all isChar then
    (markup piece.body).bind fun tags => (content none (lineEnds piece.text)).map fun t => tags ++ [.text t]
  else none

/-- What is behind an opening bracket, cut at the closing one. -/
def cut (s : List ℕ) : Option Piece :=
  match s.dropWhile fun c => c != 0x3E with
  | [] => none
  | _ :: text => some ⟨s.takeWhile fun c => c != 0x3E, text⟩

/-- The tags of a text, each with what stands behind it. -/
def pieces (text : List ℕ) : Option (List Piece) :=
  match text.splitOnP fun c => c == 0x3C with
  | [] => none
  | front :: rest => if front.all isSpace then rest.mapM cut else none

/-! ## Values -/

/-- A value of a property list. -/
inductive Plist where
  | string (text : List ℕ)
  | bool (value : Bool)
  | array (items : List Plist)
  | dict (entries : List (List ℕ × Plist))

/-- An element that is open. -/
inductive Frame where
  | plist (value : Option Plist)
  | dict (entries : List (List ℕ × Plist)) (key : Option (List ℕ))
  | array (items : List Plist)
  | key (text : List ℕ)
  | string (text : List ℕ)
  | bool (value : Bool)
  | done (value : Plist)

/-- An element at its opening tag. -/
def frame : Tag → Frame
  | .plist => .plist none
  | .dict => .dict [] none
  | .array => .array []
  | .key => .key []
  | .string => .string []
  | .bool value => .bool value

/-- A value in the element around it. -/
def give (value : Plist) : List Frame → Option (List Frame)
  | .plist none :: frames => some (.plist (some value) :: frames)
  | .dict entries (some key) :: frames => some (.dict (entries ++ [(key, value)]) none :: frames)
  | .array items :: frames => some (.array (items ++ [value]) :: frames)
  | _ => none

/-- One tag or text, the innermost element first. -/
def step : List Frame → Token → Option (List Frame)
  | [], .opens .plist => some [.plist none]
  | [], .text t => if t.all isSpace then some [] else none
  | .plist none :: frames, .opens tag => if tag = .plist then none else some (frame tag :: .plist none :: frames)
  | .dict entries key :: frames, .opens tag =>
    if tag = .plist then none else some (frame tag :: .dict entries key :: frames)
  | .array items :: frames, .opens tag => if tag = .plist then none else some (frame tag :: .array items :: frames)
  | .key text :: frames, .text t => some (.key (text ++ t) :: frames)
  | .string text :: frames, .text t => some (.string (text ++ t) :: frames)
  | f :: frames, .text t => if t.all isSpace then some (f :: frames) else none
  | [.plist (some value)], .closes .plist => some [.done value]
  | .dict entries none :: frames, .closes .dict => give (.dict entries) frames
  | .array items :: frames, .closes .array => give (.array items) frames
  | .key text :: .dict entries none :: frames, .closes .key => some (.dict entries (some text) :: frames)
  | .string text :: frames, .closes .string => give (.string text) frames
  | .bool value :: frames, .closes (.bool name) => if name = value then give (.bool value) frames else none
  | _, _ => none

def feed (frames : List Frame) (piece : Piece) : Option (List Frame) :=
  piece.tokens.bind fun found => found.foldlM step frames

/-- What is open behind a text. -/
def parse (frames : List Frame) (text : List ℕ) : Option (List Frame) :=
  (pieces text).bind fun found => found.foldlM feed frames

/-- The value of a document. -/
def read (document : List ℕ) : Option Plist :=
  match parse [] document with
  | some [.done value] => some value
  | _ => none

/-! ## Texts that are escaped -/

/-- The five metacharacters, escaped. -/
def escaped (c : ℕ) : List ℕ :=
  if c = 0x26 then chars ['&', 'a', 'm', 'p', ';']
  else if c = 0x3C then chars ['&', 'l', 't', ';']
  else if c = 0x3E then chars ['&', 'g', 't', ';']
  else if c = 0x22 then chars ['&', 'q', 'u', 'o', 't', ';']
  else if c = 0x27 then chars ['&', 'a', 'p', 'o', 's', ';']
  else [c]

lemma escaped_cases (c : ℕ) : escaped c = [c] ∧ c ≠ 0x26 ∧ c ≠ 0x3C ∧ c ≠ 0x3E ∨
    isChar c = true ∧ c ≠ 0x0D ∧ c ≠ 0x0A ∧
      (∀ d ∈ escaped c, isChar d = true ∧ d ≠ 0x3C ∧ d ≠ 0x3E ∧ d ≠ 0x0D ∧ d ≠ 0x0A) ∧
      ∀ rest, content none (escaped c ++ rest) = (content none rest).map (c :: ·) := by
  unfold escaped
  split_ifs with hamp hlt hgt hquot hapos
  · subst hamp
    exact .inr ⟨by decide, by decide, by decide, by decide, fun rest => rfl⟩
  · subst hlt
    exact .inr ⟨by decide, by decide, by decide, by decide, fun rest => rfl⟩
  · subst hgt
    exact .inr ⟨by decide, by decide, by decide, by decide, fun rest => rfl⟩
  · subst hquot
    exact .inr ⟨by decide, by decide, by decide, by decide, fun rest => rfl⟩
  · subst hapos
    exact .inr ⟨by decide, by decide, by decide, by decide, fun rest => rfl⟩
  · exact .inl ⟨rfl, hamp, hlt, hgt⟩

/-! ## How a text is read -/

lemma lineEnds_cons {c : ℕ} (h : c ≠ 0x0D) (rest : List ℕ) : lineEnds (c :: rest) = c :: lineEnds rest := by
  rw [lineEnds, if_neg h]
  rintro rest' hreturn -
  exact h hreturn

lemma lineEnds_append {s : List ℕ} (h : 0x0D ∉ s) (rest : List ℕ) :
    lineEnds (s ++ rest) = s ++ lineEnds rest := by
  induction s with
  | nil => rfl
  | cons c s ih =>
    rw [List.mem_cons, not_or] at h
    rw [List.cons_append, lineEnds_cons (Ne.symm h.1), ih h.2, List.cons_append]

lemma not_mem_lineEnds (s : List ℕ) : 0x0D ∉ lineEnds s := by
  induction s using lineEnds.induct with
  | case1 => exact List.not_mem_nil
  | case2 rest ih => simpa [lineEnds] using ih
  | case3 c rest hnext ih =>
    rw [lineEnds.eq_3 _ _ hnext, List.mem_cons, not_or]
    refine ⟨?_, ih⟩
    split
    · decide
    · next hc => exact Ne.symm hc

lemma lineEnds_eq_self_iff {s : List ℕ} : lineEnds s = s ↔ 0x0D ∉ s := by
  constructor
  · intro h
    rw [← h]
    exact not_mem_lineEnds s
  · intro h
    have happend := lineEnds_append h []
    rwa [List.append_nil, lineEnds, List.append_nil] at happend

lemma head_escaped {s : List ℕ} (h : s.head? ≠ some 0x0A) : (s.flatMap escaped).head? ≠ some 0x0A := by
  cases s with
  | nil => exact h
  | cons c s =>
    rw [List.flatMap_cons]
    rcases escaped_cases c with ⟨hc, -⟩ | ⟨-, -, -, hall, -⟩
    · rwa [hc]
    · intro hhead
      have hne : escaped c ≠ [] := by
        unfold escaped
        split_ifs <;> exact List.cons_ne_nil _ _
      rw [List.head?_append_of_ne_nil _ hne] at hhead
      exact (hall _ (List.mem_of_mem_head? hhead)).2.2.2.2 rfl

lemma lineEnds_flatMap_escaped (s : List ℕ) : lineEnds (s.flatMap escaped) = (lineEnds s).flatMap escaped := by
  induction s using lineEnds.induct with
  | case1 => rfl
  | case2 rest ih =>
    show lineEnds (0x0D :: 0x0A :: rest.flatMap escaped) = 0x0A :: (lineEnds rest).flatMap escaped
    rw [lineEnds, ih]
  | case3 c rest hnext ih =>
    rw [lineEnds.eq_3 _ _ hnext, List.flatMap_cons, List.flatMap_cons]
    by_cases hc : c = 0x0D
    · subst hc
      have hrest : (rest.flatMap escaped).head? ≠ some 0x0A := by
        apply head_escaped
        intro hhead
        obtain ⟨tail, rfl⟩ := List.head?_eq_some_iff.1 hhead
        exact hnext tail rfl rfl
      show lineEnds (0x0D :: rest.flatMap escaped) = 0x0A :: (lineEnds rest).flatMap escaped
      rw [lineEnds.eq_3 _ _ ?_, ih]
      · rfl
      · rintro tail - htail
        exact hrest (by rw [htail]; rfl)
    · rw [if_neg hc]
      rcases escaped_cases c with ⟨hself, -⟩ | ⟨-, -, -, hall, -⟩
      · rw [hself, List.singleton_append, lineEnds_cons hc, ih, List.singleton_append]
      · rw [lineEnds_append fun hmem => (hall _ hmem).2.2.2.1 rfl, ih]

lemma content_flatMap_escaped (s : List ℕ) : content none (s.flatMap escaped) = some s := by
  induction s with
  | nil => rfl
  | cons c s ih =>
    rw [List.flatMap_cons]
    rcases escaped_cases c with ⟨hself, hamp, -⟩ | ⟨-, -, -, -, hread⟩
    · rw [hself, List.singleton_append, content, if_neg hamp, ih]
      rfl
    · rw [hread, ih]
      rfl

lemma all_isChar_flatMap_escaped (s : List ℕ) : (s.flatMap escaped).all isChar = s.all isChar := by
  rw [List.all_flatMap]
  congr 1
  funext c
  rcases escaped_cases c with ⟨hself, -⟩ | ⟨hlegal, -, -, hall, -⟩
  · rw [hself, List.all_cons, List.all_nil, Bool.and_true]
  · rw [hlegal, List.all_eq_true]
    exact fun d hd => (hall d hd).1

lemma not_mem_flatMap_escaped (s : List ℕ) : 0x3C ∉ s.flatMap escaped := by
  intro hmem
  obtain ⟨c, -, hc⟩ := List.mem_flatMap.1 hmem
  rcases escaped_cases c with ⟨hself, -, hlt, -⟩ | ⟨-, -, -, hall, -⟩
  · rw [hself, List.mem_singleton] at hc
    exact hlt hc.symm
  · exact (hall _ hc).2.1 rfl

/-! ## How a document is read -/

lemma parse_append (frames : List Frame) (s t : List ℕ) :
    parse frames (s ++ 0x3C :: t) = (parse frames s).bind fun inner => parse inner (0x3C :: t) := by
  have hsplit : (s ++ 0x3C :: t).splitOnP (fun c => c == 0x3C) =
      (s.splitOnP fun c => c == 0x3C) ++ t.splitOnP fun c => c == 0x3C := List.splitOnP_append_cons s t (by decide)
  have htag : ((0x3C :: t).splitOnP fun c => c == 0x3C) = [] :: t.splitOnP fun c => c == 0x3C :=
    List.splitOnP_append_cons [] t (by decide)
  obtain ⟨front, rest, hfront⟩ := List.exists_cons_of_ne_nil (List.splitOnP_ne_nil (fun c => c == 0x3C) s)
  have hblank : ([] : List ℕ).all isSpace = true := rfl
  simp only [parse, pieces, hsplit, htag, hfront, List.cons_append, hblank, if_true]
  by_cases hspace : front.all isSpace = true
  · simp only [if_pos hspace, List.mapM_append]
    cases rest.mapM cut with
    | none => rfl
    | some found =>
      cases (t.splitOnP fun c => c == 0x3C).mapM cut with
      | none =>
        exact (Option.bind_fun_none _).symm
      | some more =>
        show (found ++ more).foldlM feed frames = (found.foldlM feed frames).bind fun inner => more.foldlM feed inner
        rw [List.foldlM_append]
        rfl
  · simp only [if_neg hspace]
    rfl

lemma parse_append_blank {frames : List Frame} {front : List ℕ} (h : front.all isSpace = true) (t : List ℕ) :
    parse frames (front ++ 0x3C :: t) = parse frames (0x3C :: t) := by
  have hplain : ∀ c ∈ front, (c == 0x3C) = false := by
    intro c hc
    have hspace := List.all_eq_true.1 h c hc
    by_contra hlt
    rw [Bool.not_eq_false, beq_iff_eq] at hlt
    subst hlt
    exact absurd hspace (by decide)
  have hfront : parse frames front = some frames := by
    rw [parse, pieces, List.splitOnP_eq_singleton hplain]
    simp [h]
  rw [parse_append, hfront, Option.bind_some]

/-- A piece that is cut as it was put together. -/
def Piece.isCut (piece : Piece) : Bool :=
  piece.body.all (fun c => c != 0x3C && c != 0x3E) && piece.text.all fun c => c != 0x3C

lemma parse_piece (frames : List Frame) {piece : Piece} (h : piece.isCut = true) :
    parse frames piece.write = feed frames piece := by
  obtain ⟨hbody, htext⟩ := Bool.and_eq_true_iff.1 h
  have hplain : ∀ c ∈ piece.body ++ 0x3E :: piece.text, (c == 0x3C) = false := by
    intro c hc
    rcases List.mem_append.1 hc with hmem | hmem
    · have hall := List.all_eq_true.1 hbody c hmem
      simpa using (Bool.and_eq_true_iff.1 hall).1
    · rcases List.mem_cons.1 hmem with rfl | hmem
      · decide
      · exact bne_iff_ne.1 (List.all_eq_true.1 htext c hmem) |> beq_eq_false_iff_ne.2
  have hmarks : ∀ c ∈ piece.body, (c != 0x3E) = true := by
    intro c hc
    have hall := List.all_eq_true.1 hbody c hc
    exact (Bool.and_eq_true_iff.1 hall).2
  have hsplit : piece.write.splitOnP (fun c => c == 0x3C) = [[], piece.body ++ 0x3E :: piece.text] := by
    rw [Piece.write, List.splitOnP_cons_eq_if_modifyHead, if_pos (by decide), List.splitOnP_eq_singleton hplain]
  have hcut : cut (piece.body ++ 0x3E :: piece.text) = some piece := by
    rw [cut, List.dropWhile_append_of_pos hmarks, List.dropWhile_cons_of_neg (by decide),
      List.takeWhile_append_of_pos hmarks, List.takeWhile_cons_of_neg (by decide), List.append_nil]
  rw [parse, pieces, hsplit]
  simp [hcut]

lemma step_blank_of_give {value : Plist} {frames inner : List Frame} (h : give value frames = some inner)
    {blank : List ℕ} (hblank : blank.all isSpace = true) : step inner (.text blank) = some inner := by
  unfold give at h
  split at h
  · cases h
    exact if_pos hblank
  · cases h
    exact if_pos hblank
  · cases h
    exact if_pos hblank
  · cases h

lemma isSpace_lineEnds {blank : List ℕ} (h : blank.all isSpace = true) : (lineEnds blank).all isSpace = true := by
  induction blank using lineEnds.induct with
  | case1 => rfl
  | case2 rest ih =>
    simp only [List.all_cons, Bool.and_eq_true] at h
    rw [lineEnds, List.all_cons, ih h.2.2]
    rfl
  | case3 c rest hnext ih =>
    rw [List.all_cons, Bool.and_eq_true] at h
    rw [lineEnds.eq_3 _ _ hnext, List.all_cons, ih h.2, Bool.and_true]
    split
    · rfl
    · exact h.1

lemma content_of_isSpace {blank : List ℕ} (h : blank.all isSpace = true) : content none blank = some blank := by
  induction blank with
  | nil => rfl
  | cons c blank ih =>
    rw [List.all_cons, Bool.and_eq_true] at h
    have hamp : c ≠ 0x26 := by
      rintro rfl
      exact absurd h.1 (by decide)
    rw [content, if_neg hamp, ih h.2]
    rfl

lemma isChar_of_isSpace {c : ℕ} (h : isSpace c = true) : isChar c = true ∧ c ≠ 0x3C := by
  simp only [isSpace, Bool.or_eq_true, beq_iff_eq] at h
  rcases h with ((rfl | rfl) | rfl) | rfl
  · decide
  · decide
  · decide
  · decide

/-- A string element. -/
def stringElement (text : List ℕ) : List ℕ :=
  chars ['<', 's', 't', 'r', 'i', 'n', 'g', '>'] ++ (text ++ chars ['<', '/', 's', 't', 'r', 'i', 'n', 'g', '>'])

lemma feed_string {frames : List Frame} (h : step frames (.opens .string) = some (.string [] :: frames))
    (value : List ℕ) : feed frames ⟨Tag.string.name, value.flatMap escaped⟩ =
      if value.all isChar then some (.string (lineEnds value) :: frames) else none := by
  have hmarkup : markup Tag.string.name = some [.opens .string] := by decide
  have hname : Tag.string.name.all isChar = true := by decide
  rw [feed, Piece.tokens, hname, Bool.true_and, all_isChar_flatMap_escaped]
  split
  · rw [hmarkup, Option.bind_some, lineEnds_flatMap_escaped, content_flatMap_escaped, Option.map_some,
      Option.bind_some, List.singleton_append, List.foldlM_cons, h]
    rfl
  · rfl

lemma feed_string_close (text : List ℕ) (frames : List Frame) {blank : List ℕ}
    (hblank : blank.all isSpace = true) :
    feed (.string text :: frames) ⟨0x2F :: Tag.string.name, blank⟩ = give (.string text) frames := by
  have hmarkup : markup (0x2F :: Tag.string.name) = some [.closes .string] := by decide
  have hname : (0x2F :: Tag.string.name).all isChar = true := by decide
  have hlegal : blank.all isChar = true := by
    rw [List.all_eq_true] at hblank ⊢
    exact fun c hc => (isChar_of_isSpace (hblank c hc)).1
  have hread := isSpace_lineEnds hblank
  rw [feed, Piece.tokens, hname, hlegal, Bool.and_self, if_pos rfl, hmarkup, Option.bind_some,
    content_of_isSpace hread, Option.map_some, Option.bind_some, List.singleton_append, List.foldlM_cons]
  show (give (.string text) frames).bind _ = _
  cases hgive : give (.string text) frames with
  | none => rfl
  | some inner =>
    rw [Option.bind_some, List.foldlM_cons, step_blank_of_give hgive hread]
    rfl

/-- A text that goes on with a tag. -/
def goesOn (text : List ℕ) : Prop := (text.dropWhile isSpace).head? = some 0x3C

lemma parse_stringElement {frames : List Frame} (h : step frames (.opens .string) = some (.string [] :: frames))
    (value : List ℕ) {text : List ℕ} (htext : goesOn text) :
    parse frames (stringElement (value.flatMap escaped) ++ text) =
      if value.all isChar then (give (.string (lineEnds value)) frames).bind fun inner => parse inner text
      else none := by
  obtain ⟨t, ht⟩ := List.head?_eq_some_iff.1 htext
  have hblank : (text.takeWhile isSpace).all isSpace = true := List.all_takeWhile
  have hcut : text = text.takeWhile isSpace ++ 0x3C :: t := by
    rw [← ht, List.takeWhile_append_dropWhile]
  have hopen : (⟨Tag.string.name, value.flatMap escaped⟩ : Piece).isCut = true := by
    refine Bool.and_eq_true_iff.2 ⟨by rfl, List.all_eq_true.2 fun c hc => bne_iff_ne.2 ?_⟩
    rintro rfl
    exact not_mem_flatMap_escaped value hc
  have hclose : (⟨0x2F :: Tag.string.name, text.takeWhile isSpace⟩ : Piece).isCut = true := by
    refine Bool.and_eq_true_iff.2 ⟨by rfl, List.all_eq_true.2 fun c hc => bne_iff_ne.2 ?_⟩
    exact (isChar_of_isSpace (List.all_eq_true.1 hblank c hc)).2
  have hsplit : stringElement (value.flatMap escaped) ++ (text.takeWhile isSpace ++ 0x3C :: t) =
      Piece.write ⟨Tag.string.name, value.flatMap escaped⟩ ++
        0x3C :: ((0x2F :: Tag.string.name) ++ 0x3E :: text.takeWhile isSpace ++ 0x3C :: t) := by
    simp [stringElement, Piece.write, Tag.name, chars]
  have hpiece : (0x3C :: ((0x2F :: Tag.string.name) ++ 0x3E :: text.takeWhile isSpace ++ 0x3C :: t) : List ℕ) =
      Piece.write ⟨0x2F :: Tag.string.name, text.takeWhile isSpace⟩ ++ 0x3C :: t := rfl
  have hrest : ∀ inner, parse inner text = parse inner (0x3C :: t) := by
    intro inner
    rw [hcut, parse_append_blank hblank]
  simp only [hrest]
  conv_lhs => rw [hcut]
  rw [hsplit, parse_append, parse_piece _ hopen, feed_string h]
  split
  · rw [Option.bind_some, hpiece, parse_append, parse_piece _ hclose, feed_string_close _ _ hblank]
  · rfl

lemma parse_append_stringElement (frames : List Frame) (s text rest : List ℕ) :
    parse frames (s ++ (stringElement text ++ rest)) =
      (parse frames s).bind fun inner => parse inner (stringElement text ++ rest) :=
  parse_append frames s _

lemma parse_blank_stringElement (frames : List Frame) {blank : List ℕ} (h : blank.all isSpace = true)
    (text rest : List ℕ) :
    parse frames (blank ++ (stringElement text ++ rest)) = parse frames (stringElement text ++ rest) :=
  parse_append_blank h _

lemma goesOn_append {s : List ℕ} (h : goesOn s) (t : List ℕ) : goesOn (s ++ t) := by
  obtain ⟨rest, hrest⟩ := List.head?_eq_some_iff.1 h
  rw [goesOn, List.dropWhile_append, if_neg (by rw [hrest]; simp), hrest]
  rfl

lemma goesOn_stringElement {blank : List ℕ} (h : blank.all isSpace = true) (text rest : List ℕ) :
    goesOn (blank ++ (stringElement text ++ rest)) := by
  rw [goesOn, List.dropWhile_append_of_pos (List.all_eq_true.1 h)]
  rfl

end Pherry.PropertyList
