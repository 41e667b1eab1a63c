import Pherry.TextFile

/-!
# The managed block of a shell's rc file

`ensureShimsOnShellPath` and `removeShimsFromShellPath` on the rc file of zsh or bash: a block between
two markers is appended behind a separator line, and taken out again.
-/

namespace Pherry.Cli

/-! ## The block -/

/-- `RC_BLOCK_OPEN`. -/
def rcBlockOpen : JsString := js "# >>> pherry shims >>>"

/-- `RC_BLOCK_CLOSE`. -/
def rcBlockClose : JsString := js "# <<< pherry shims <<<"

/-- The directory of the shims as the rc file names it: `$HOME` stands for the home. -/
abbrev DirExpr := { dir : JsString // isWellFormed dir = true }

/-- The line that puts the shims on the path. -/
def exportLine (dir : DirExpr) : JsString := js "export PATH=\x22" ++ dir.1 ++ js ":$PATH\x22"

/-- The lines of the block between its markers. -/
def blockBody (dir : DirExpr) : List JsString :=
  [js "# Managed by `pherry board` — keeps agent launches under custody by putting the",
    js "# Pherry shims first on PATH. `pherry unboard` (last repo) removes this block.", exportLine dir]

/-- `posixBlock`. -/
def posixBlock (dir : DirExpr) : JsString := joinLines (rcBlockOpen :: (blockBody dir ++ [rcBlockClose]))

/-- The separator between the text that is there and the block. -/
def separator (current : JsString) : JsString :=
  if current.length = 0 then [] else if current.getLast? = some newline then [newline] else [newline, newline]

/-- The text behind the block was appended. -/
def withBlock (dir : DirExpr) (current : JsString) : JsString :=
  current ++ separator current ++ posixBlock dir ++ [newline]

/-- `ensureShimsOnShellPath`, on the file. -/
def ensureShimsOnShellPath (dir : DirExpr) (file : Bytes) : Bytes :=
  let current := readText file
  if includes current rcBlockOpen then file else utf8 (withBlock dir current)

/-- `stripBlock`. -/
def stripBlock (content : JsString) : JsString :=
  let lines := linesOf content
  match lines.findIdx? fun line => startsWith line rcBlockOpen with
  | none => content
  | some opened =>
    match (lines.drop (opened + 1)).findIdx? fun line => startsWith line rcBlockClose with
    | none => content
    | some behind =>
      let closed := opened + 1 + behind
      let start := if 0 < opened ∧ lines[opened - 1]? = some [] then opened - 1 else opened
      joinLines (lines.take start ++ lines.drop (closed + 1))

/-- `removeShimsFromShellPath`, on the file. -/
def removeShimsFromShellPath (file : Bytes) : Bytes :=
  let current := readText file
  if includes current rcBlockOpen then utf8 (stripBlock current) else file

/-! ## What the edits promise -/

/-- A text with a block: a line with the opening marker, and one with the closing marker behind it. -/
def HasBlock (text : JsString) : Prop :=
  ∃ before opening inner closing after, linesOf text = before ++ opening :: (inner ++ closing :: after) ∧
    rcBlockOpen <+: opening ∧ rcBlockClose <+: closing

/-- Lines around their first block. -/
structure Cut where
  before : List JsString
  opening : JsString
  inner : List JsString
  closing : JsString
  after : List JsString

structure Cut.Of (cut : Cut) (lines : List JsString) : Prop where
  lines_eq : lines = cut.before ++ cut.opening :: (cut.inner ++ cut.closing :: cut.after)
  first : ∀ line ∈ cut.before, startsWith line rcBlockOpen = false
  opened : startsWith cut.opening rcBlockOpen = true
  nearest : ∀ line ∈ cut.inner, startsWith line rcBlockClose = false
  closed : startsWith cut.closing rcBlockClose = true

/-- A file is as before, but for the lines of its block and one blank line in front of it. -/
def Stripped (file file' : Bytes) : Prop :=
  file' = file ∨ ∃ (text : JsString) (cut : Cut) (kept : List JsString), file = utf8 text ∧
    cut.Of (linesOf text) ∧ (cut.before = kept ∨ cut.before = kept ++ [[]]) ∧ file' = utf8 (joinLines (kept ++ cut.after))

/-- Removal undoes the edit of a file exactly when it held no block, the edit is idempotent, and neither
changes anything outside the block and its separator. -/
structure RcEditsUndone (dir : DirExpr) (file : Bytes) : Prop where
  undone : removeShimsFromShellPath (ensureShimsOnShellPath dir file) = file ↔ ¬ HasBlock (readText file)
  idempotent : ensureShimsOnShellPath dir (ensureShimsOnShellPath dir file) = ensureShimsOnShellPath dir file
  appended : file <+: ensureShimsOnShellPath dir file
  stripped : Stripped file (removeShimsFromShellPath file)

/-- A text is empty or ends with a line break. -/
def IsTerminated (text : JsString) : Prop := text = [] ∨ text.getLast? = some newline

instance (text : JsString) : Decidable (IsTerminated text) := inferInstanceAs (Decidable (_ ∨ _))

/-- The directory brings a line that looks like the closing marker. -/
def ClosesWithin (dir : DirExpr) : Prop := ∃ line ∈ linesOf (exportLine dir), rcBlockClose <+: line

/-! ## Taking a block out -/

lemma startsWith_iff {line part : JsString} : startsWith line part = true ↔ part <+: line :=
  decide_eq_true_iff

lemma includes_iff {text part : JsString} : includes text part = true ↔ part <:+: text :=
  decide_eq_true_iff

/-- What stays of the lines in front of a block. -/
def unspaced (before : List JsString) : List JsString :=
  if before.getLast? = some [] then before.dropLast else before

lemma unspaced_append_blank (kept : List JsString) : unspaced (kept ++ [[]]) = kept := by
  rw [unspaced, List.getLast?_concat, if_pos rfl, List.dropLast_concat]

lemma before_eq (before : List JsString) : before = unspaced before ∨ before = unspaced before ++ [[]] := by
  unfold unspaced
  split
  · next h => exact .inr (List.dropLast_append_getLast? _ h).symm
  · exact .inl rfl

lemma findIdx?_first {p : JsString → Bool} {pre : List JsString} {line : JsString} (rest : List JsString)
    (hpre : ∀ a ∈ pre, p a = false) (h : p line = true) : (pre ++ line :: rest).findIdx? p = some pre.length := by
  rw [List.findIdx?_append, List.findIdx?_eq_none_iff.2 hpre, List.findIdx?_cons, if_pos h]
  simp

lemma exists_first {p : JsString → Bool} {lines : List JsString} (h : ∃ line ∈ lines, p line = true) :
    ∃ pre line rest, lines = pre ++ line :: rest ∧ p line = true ∧ ∀ a ∈ pre, p a = false := by
  obtain ⟨line, hfound⟩ := Option.isSome_iff_exists.1 (List.find?_isSome.2 h)
  obtain ⟨hline, pre, rest, hlines, hpre⟩ := List.find?_eq_some_iff_append.1 hfound
  exact ⟨pre, line, rest, hlines, hline, fun a ha => by simpa using hpre a ha⟩

lemma stripBlock_of_cut {text : JsString} {cut : Cut} (h : cut.Of (linesOf text)) :
    stripBlock text = joinLines (unspaced cut.before ++ cut.after) := by
  have hopen := findIdx?_first (cut.inner ++ cut.closing :: cut.after) h.first h.opened
  have hclose := findIdx?_first cut.after h.nearest h.closed
  have hbehind : (linesOf text).drop (cut.before.length + 1) = cut.inner ++ cut.closing :: cut.after := by
    rw [h.lines_eq, List.append_cons, List.drop_left' (by simp)]
  have hafter : (linesOf text).drop (cut.before.length + 1 + cut.inner.length + 1) = cut.after := by
    rw [Nat.add_assoc _ cut.inner.length 1, ← List.drop_drop, hbehind, List.append_cons, List.drop_left' (by simp)]
  -- the line in front of the block is the last of `before`
  have hlast : (0 < cut.before.length ∧ (linesOf text)[cut.before.length - 1]? = some []) ↔
      cut.before.getLast? = some [] := by
    rw [h.lines_eq, List.getLast?_eq_getElem?]
    constructor
    · rintro ⟨hpos, hblank⟩
      rwa [List.getElem?_append_left (by omega)] at hblank
    · intro hblank
      have hlt := (List.getElem?_eq_some_iff.1 hblank).1
      rw [List.getElem?_append_left hlt]
      exact ⟨by omega, hblank⟩
  have hstart : (linesOf text).take (if cut.before.getLast? = some [] then cut.before.length - 1
      else cut.before.length) = unspaced cut.before := by
    rw [unspaced, h.lines_eq]
    split
    · rw [List.take_append_of_le_length (by omega), List.dropLast_eq_take]
    · exact List.take_left' rfl
  unfold stripBlock
  rw [← h.lines_eq] at hopen
  simp only [hopen, hbehind, hclose, hafter, hlast, hstart]

lemma HasBlock.cut {text : JsString} (h : HasBlock text) : ∃ cut : Cut, cut.Of (linesOf text) := by
  obtain ⟨before, opening, inner, closing, after, hlines, hopening, hclosing⟩ := h
  have hopens : ∃ line ∈ linesOf text, startsWith line rcBlockOpen = true :=
    ⟨opening, by rw [hlines]; simp, startsWith_iff.2 hopening⟩
  obtain ⟨pre, first, rest, hfirst, hopened, hpre⟩ := exists_first hopens
  -- the closing line stands behind the first opening line too
  have hbehind : closing ∈ rest := by
    have hboth := hlines.symm.trans hfirst
    rcases List.append_eq_append_iff.1 hboth with ⟨more, rfl, hmore⟩ | ⟨more, rfl, hmore⟩
    · cases more with
      | nil =>
        rw [List.nil_append, List.cons.injEq] at hmore
        rw [← hmore.2]
        simp
      | cons line more =>
        have hstands : opening ∈ before ++ line :: more := by
          rw [List.cons_append, List.cons.injEq] at hmore
          rw [hmore.1]
          simp
        exact absurd (startsWith_iff.2 hopening) (by rw [hpre _ hstands]; decide)
    · cases more with
      | nil =>
        rw [List.nil_append, List.cons.injEq] at hmore
        rw [hmore.2]
        simp
      | cons line more =>
        rw [List.cons_append, List.cons.injEq] at hmore
        rw [hmore.2]
        simp
  have hcloses : ∃ line ∈ rest, startsWith line rcBlockClose = true :=
    ⟨closing, hbehind, startsWith_iff.2 hclosing⟩
  obtain ⟨inner', closing', after', hrest, hclosed, hnearest⟩ := exists_first hcloses
  exact ⟨⟨pre, first, inner', closing', after'⟩, by rw [hfirst, hrest], hpre, hopened, hnearest, hclosed⟩

lemma stripBlock_of_not_hasBlock {text : JsString} (h : ¬ HasBlock text) : stripBlock text = text := by
  unfold stripBlock
  dsimp only
  split
  · rfl
  · next opened hopened =>
    split
    · rfl
    · next behind hbehind =>
      obtain ⟨hlt, hopening, -⟩ := List.findIdx?_eq_some_iff_getElem.1 hopened
      obtain ⟨hlt', hclosing, -⟩ := List.findIdx?_eq_some_iff_getElem.1 hbehind
      refine absurd ⟨(linesOf text).take opened, (linesOf text)[opened],
        ((linesOf text).drop (opened + 1)).take behind, ((linesOf text).drop (opened + 1))[behind],
        ((linesOf text).drop (opened + 1)).drop (behind + 1), ?_, startsWith_iff.1 hopening,
        startsWith_iff.1 hclosing⟩ h
      rw [← List.drop_eq_getElem_cons hlt', List.take_append_drop, ← List.drop_eq_getElem_cons hlt,
        List.take_append_drop]

lemma Cut.Of.kept_sub {text : JsString} {cut : Cut} (h : cut.Of (linesOf text)) :
    ∀ line ∈ unspaced cut.before ++ cut.after, line ∈ linesOf text := by
  intro line hline
  rw [h.lines_eq]
  rcases List.mem_append.1 hline with hbefore | hafter
  · refine List.mem_append_left _ ?_
    rcases before_eq cut.before with h | h <;> rw [h]
    · exact hbefore
    · exact List.mem_append_left _ hbefore
  · simp [hafter]

lemma isWellFormed_stripBlock {text : JsString} (h : isWellFormed text = true) :
    isWellFormed (stripBlock text) = true := by
  by_cases hblock : HasBlock text
  · obtain ⟨cut, hcut⟩ := hblock.cut
    rw [stripBlock_of_cut hcut, isWellFormed_joinLines, List.all_eq_true]
    exact fun line hline => isWellFormed_lines h line (hcut.kept_sub line hline)
  · rwa [stripBlock_of_not_hasBlock hblock]

lemma stripBlock_ne {text : JsString} (h : HasBlock text) : stripBlock text ≠ text := by
  obtain ⟨cut, hcut⟩ := h.cut
  intro heq
  rw [stripBlock_of_cut hcut] at heq
  have hlength : (unspaced cut.before).length ≤ cut.before.length := by
    unfold unspaced
    split
    · rw [List.length_dropLast]
      omega
    · exact le_rfl
  have hlines := congrArg List.length hcut.lines_eq
  rw [List.length_append, List.length_cons, List.length_append, List.length_cons] at hlines
  by_cases hne : unspaced cut.before ++ cut.after = []
  · -- an empty text is one line
    rw [hne] at heq
    rw [← heq] at hlines
    have hone : (linesOf (joinLines [])).length = 1 := rfl
    omega
  · have hrest := congrArg List.length (linesOf_sub hne hcut.kept_sub)
    rw [heq, List.length_append] at hrest
    omega

/-! ## The text with the block appended -/

/-- The lines between the markers. -/
def blockLines (dir : DirExpr) : List JsString :=
  [js "# Managed by `pherry board` — keeps agent launches under custody by putting the",
    js "# Pherry shims first on PATH. `pherry unboard` (last repo) removes this block."] ++ linesOf (exportLine dir)

lemma linesOf_posixBlock (dir : DirExpr) :
    linesOf (posixBlock dir) = rcBlockOpen :: (blockLines dir ++ [rcBlockClose]) := by
  have hopen : newline ∉ rcBlockOpen := newline_not_mem_js (by decide)
  have hclose : newline ∉ rcBlockClose := newline_not_mem_js (by decide)
  have hfirst : newline ∉ js "# Managed by `pherry board` — keeps agent launches under custody by putting the" :=
    newline_not_mem_js (by decide)
  have hsecond : newline ∉ js "# Pherry shims first on PATH. `pherry unboard` (last repo) removes this block." :=
    newline_not_mem_js (by decide)
  rw [posixBlock, blockBody, blockLines, List.cons_append, List.cons_append, List.cons_append, List.nil_append,
    joinLines_cons (by simp), joinLines_cons (by simp), joinLines_cons (by simp), joinLines_cons (by simp),
    joinLines_singleton, linesOf_append, linesOf_append, linesOf_append, linesOf_append, linesOf_of_not_mem hopen,
    linesOf_of_not_mem hfirst, linesOf_of_not_mem hsecond, linesOf_of_not_mem hclose]
  simp only [List.cons_append, List.nil_append]

lemma closesWithin_iff {dir : DirExpr} :
    ClosesWithin dir ↔ ∃ line ∈ blockLines dir, startsWith line rcBlockClose = true := by
  have hfirst : ¬ rcBlockClose <+:
      js "# Managed by `pherry board` — keeps agent launches under custody by putting the" := by
    rw [js, String.toList_ofList]
    decide
  have hsecond : ¬ rcBlockClose <+:
      js "# Pherry shims first on PATH. `pherry unboard` (last repo) removes this block." := by
    rw [js, String.toList_ofList]
    decide
  simp only [ClosesWithin, blockLines, List.cons_append, List.nil_append, List.mem_cons, exists_eq_or_imp,
    startsWith_iff, hfirst, hsecond, false_or]

lemma lines_withBlock (dir : DirExpr) (text : JsString) : ∃ kept before : List JsString,
    linesOf text = kept ++ (if IsTerminated text then [[]] else []) ∧ unspaced before = kept ∧
    (∀ line ∈ before, line ∈ linesOf text ∨ line = []) ∧
    linesOf (withBlock dir text) = before ++ rcBlockOpen :: (blockLines dir ++ rcBlockClose :: [[]]) := by
  have hnil : linesOf [] = [[]] := rfl
  have hblock : ∀ front, linesOf (front ++ newline :: posixBlock dir ++ [newline]) =
      linesOf front ++ rcBlockOpen :: (blockLines dir ++ rcBlockClose :: [[]]) := by
    intro front
    rw [linesOf_append, linesOf_append, linesOf_posixBlock, hnil, List.append_assoc, List.cons_append,
      List.append_assoc, List.singleton_append]
  by_cases hempty : text = []
  · subst hempty
    refine ⟨[], [], by simp [IsTerminated, linesOf], rfl, by simp, ?_⟩
    have : withBlock dir [] = posixBlock dir ++ newline :: [] := by
      rw [withBlock, separator, if_pos List.length_nil, List.append_nil, List.nil_append]
    rw [this, linesOf_append, linesOf_posixBlock, hnil]
    simp
  · by_cases hlast : text.getLast? = some newline
    · obtain ⟨front, rfl⟩ : ∃ front, text = front ++ newline :: [] :=
        ⟨_, (List.dropLast_append_getLast? _ hlast).symm⟩
      refine ⟨linesOf front, linesOf front ++ [[]], ?_, unspaced_append_blank _, ?_, ?_⟩
      · rw [if_pos (.inr hlast), linesOf_append]
        rfl
      · intro line hline
        rw [linesOf_append]
        exact .inl hline
      · have : withBlock dir (front ++ newline :: []) = front ++ newline :: [] ++ newline :: posixBlock dir ++ [newline] := by
          have hone : separator (front ++ newline :: []) = [newline] := by simp [separator]
          rw [withBlock, hone, List.append_assoc _ [newline], List.singleton_append]
        rw [this, hblock, linesOf_append, hnil]
    · refine ⟨linesOf text, linesOf text ++ [[]], ?_, unspaced_append_blank _, ?_, ?_⟩
      · rw [if_neg (by simp [IsTerminated, hempty, hlast]), List.append_nil]
      · intro line hline
        rcases List.mem_append.1 hline with h | h
        · exact .inl h
        · exact .inr (List.mem_singleton.1 h)
      · have : withBlock dir text = text ++ newline :: [] ++ newline :: posixBlock dir ++ [newline] := by
          have htwo : separator text = [newline, newline] := by simp [separator, hempty, hlast]
          rw [withBlock, htwo, List.append_cons text, List.append_assoc (_ ++ _) [newline], List.singleton_append]
        rw [this, hblock, linesOf_append, hnil]

lemma includes_withBlock (dir : DirExpr) (text : JsString) : includes (withBlock dir text) rcBlockOpen = true := by
  obtain ⟨kept, before, -, -, -, hlines⟩ := lines_withBlock dir text
  refine includes_iff.2 (infix_of_mem_linesOf ?_)
  rw [hlines]
  simp

lemma isWellFormed_withBlock {dir : DirExpr} {text : JsString} (h : isWellFormed text = true) :
    isWellFormed (withBlock dir text) = true := by
  obtain ⟨kept, before, -, -, hbefore, hlines⟩ := lines_withBlock dir text
  have hdir : isWellFormed (exportLine dir) = true :=
    isWellFormed_both (isWellFormed_both (isWellFormed_js _) dir.2) (isWellFormed_js _)
  rw [← joinLines_linesOf (withBlock dir text), isWellFormed_joinLines, hlines, List.all_eq_true]
  intro line hline
  simp only [blockLines, List.mem_append, List.mem_cons, List.not_mem_nil, or_false] at hline
  rcases hline with hline | rfl | ((rfl | rfl) | hline) | rfl | rfl
  · rcases hbefore line hline with hline | rfl
    · exact isWellFormed_lines h line hline
    · rfl
  · exact isWellFormed_js _
  · exact isWellFormed_js _
  · exact isWellFormed_js _
  · exact isWellFormed_lines hdir line hline
  · exact isWellFormed_js _
  · rfl

lemma startsWith_of_not_includes {text : JsString} (h : includes text rcBlockOpen = false) :
    ∀ line ∈ linesOf text, startsWith line rcBlockOpen = false := by
  intro line hline
  by_contra hopens
  rw [Bool.not_eq_false, startsWith_iff] at hopens
  have hincludes : includes text rcBlockOpen = true :=
    includes_iff.2 (hopens.isInfix.trans (infix_of_mem_linesOf hline))
  rw [h] at hincludes
  exact Bool.false_ne_true hincludes

lemma not_hasBlock_of_not_includes {text : JsString} (h : includes text rcBlockOpen = false) : ¬ HasBlock text := by
  rintro ⟨before, opening, inner, closing, after, hlines, hopening, -⟩
  have hopens := startsWith_of_not_includes h opening (by rw [hlines]; simp)
  rw [startsWith_iff.2 hopening] at hopens
  exact Bool.false_ne_true hopens.symm

/-- What removal makes of the text with the block: the text's lines, what a closing marker left of the
block, and an empty last line. -/
lemma stripBlock_withBlock {dir : DirExpr} {text : JsString} (h : includes text rcBlockOpen = false) :
    ∃ kept rest : List JsString, linesOf text = kept ++ (if IsTerminated text then [[]] else []) ∧
      (rest = [] ↔ ¬ ClosesWithin dir) ∧ stripBlock (withBlock dir text) = joinLines (kept ++ rest ++ [[]]) ∧
      linesOf (stripBlock (withBlock dir text)) = kept ++ rest ++ [[]] := by
  obtain ⟨kept, before, hkept, hunspaced, hbefore, hlines⟩ := lines_withBlock dir text
  have hfirst : ∀ line ∈ before, startsWith line rcBlockOpen = false := by
    intro line hline
    rcases hbefore line hline with hline | rfl
    · exact startsWith_of_not_includes h line hline
    · decide
  have hmarker : startsWith rcBlockOpen rcBlockOpen = true := startsWith_iff.2 (List.prefix_refl _)
  have hclosing : startsWith rcBlockClose rcBlockClose = true := startsWith_iff.2 (List.prefix_refl _)
  suffices hstrip : ∃ rest : List JsString, (rest = [] ↔ ¬ ClosesWithin dir) ∧
      (∀ line ∈ rest, line ∈ linesOf (withBlock dir text)) ∧
      stripBlock (withBlock dir text) = joinLines (kept ++ rest ++ [[]]) by
    obtain ⟨rest, hrest, hfrom, heq⟩ := hstrip
    refine ⟨kept, rest, hkept, hrest, heq, ?_⟩
    rw [heq]
    refine linesOf_joinLines (by simp) fun line hline => ?_
    simp only [List.mem_append, List.mem_singleton] at hline
    rcases hline with (hline | hline) | rfl
    · refine newline_not_mem (s := text) ?_
      rw [hkept]
      exact List.mem_append_left _ hline
    · exact newline_not_mem (hfrom line hline)
    · simp
  by_cases hcloses : ClosesWithin dir
  · obtain ⟨inner, closing, rest, hinner, hclosed, hnearest⟩ := exists_first (closesWithin_iff.1 hcloses)
    have hcut : Cut.Of ⟨before, rcBlockOpen, inner, closing, rest ++ rcBlockClose :: [[]]⟩
        (linesOf (withBlock dir text)) :=
      ⟨by rw [hlines, hinner]; simp, hfirst, hmarker, hnearest, hclosed⟩
    refine ⟨rest ++ [rcBlockClose], by simp [hcloses], ?_, ?_⟩
    · intro line hline
      rw [hlines, hinner]
      refine List.mem_append_right _ (List.mem_cons_of_mem _ ?_)
      rcases List.mem_append.1 hline with hline | hline
      · exact List.mem_append_left _ (List.mem_append_right _ (List.mem_cons_of_mem _ hline))
      · exact List.mem_append_right _ (List.mem_singleton.1 hline ▸ List.mem_cons_self)
    · rw [stripBlock_of_cut hcut, hunspaced]
      simp
  · have hnearest : ∀ line ∈ blockLines dir, startsWith line rcBlockClose = false := by
      intro line hline
      by_contra hclosed
      exact hcloses (closesWithin_iff.2 ⟨line, hline, by simpa using hclosed⟩)
    have hcut : Cut.Of ⟨before, rcBlockOpen, blockLines dir, rcBlockClose, [[]]⟩ (linesOf (withBlock dir text)) :=
      ⟨hlines, hfirst, hmarker, hnearest, hclosing⟩
    refine ⟨[], by simp [hcloses], by simp, ?_⟩
    rw [stripBlock_of_cut hcut, hunspaced]
    simp

lemma stripBlock_withBlock_iff {dir : DirExpr} {text : JsString} (h : includes text rcBlockOpen = false) :
    stripBlock (withBlock dir text) = text ↔ IsTerminated text ∧ ¬ ClosesWithin dir := by
  obtain ⟨kept, rest, hkept, hrest, heq, hlines⟩ := @stripBlock_withBlock dir text h
  constructor
  · intro hback
    rw [hback, hkept] at hlines
    by_cases hterminated : IsTerminated text
    · rw [if_pos hterminated, List.append_assoc, List.append_cancel_left_eq] at hlines
      have hnone : rest = [] := by
        have hlength := congrArg List.length hlines
        rw [List.length_append] at hlength
        exact List.eq_nil_of_length_eq_zero (by simpa using hlength)
      exact ⟨hterminated, hrest.1 hnone⟩
    · rw [if_neg hterminated, List.append_nil] at hlines
      have hlength := congrArg List.length hlines
      rw [List.length_append, List.length_append, List.length_singleton] at hlength
      omega
  · rintro ⟨hterminated, hclosed⟩
    rw [if_pos hterminated] at hkept
    rw [heq, hrest.2 hclosed, List.append_nil, ← hkept, joinLines_linesOf]

/-! ## The edits of a file -/

lemma stripped_of_cut {text : JsString} {cut : Cut} (h : cut.Of (linesOf text)) :
    Stripped (utf8 text) (utf8 (stripBlock text)) := by
  rw [stripBlock_of_cut h]
  exact .inr ⟨text, cut, unspaced cut.before, rfl, h, before_eq cut.before, rfl⟩

lemma RcEditsUndone.of_includes {dir : DirExpr} {file : Bytes} (hfile : IsUtf8 file)
    (h : includes (readText file) rcBlockOpen = true) : RcEditsUndone dir file := by
  have hensure : ensureShimsOnShellPath dir file = file := if_pos h
  have hremove : removeShimsFromShellPath file = utf8 (stripBlock (readText file)) := if_pos h
  refine ⟨?_, by rw [hensure, hensure], by rw [hensure], ?_⟩
  · rw [hensure, hremove]
    constructor
    · intro hback hblock
      have hread : readText (utf8 (stripBlock (readText file))) = readText file := by rw [hback]
      rw [readText_utf8 (isWellFormed_stripBlock hfile.wellFormed)] at hread
      exact stripBlock_ne hblock hread
    · intro hnone
      rw [stripBlock_of_not_hasBlock hnone]
      exact hfile
  · rw [hremove]
    by_cases hblock : HasBlock (readText file)
    · obtain ⟨cut, hcut⟩ := hblock.cut
      have hstripped := stripped_of_cut hcut
      rwa [hfile] at hstripped
    · rw [stripBlock_of_not_hasBlock hblock, hfile]
      exact .inl rfl

lemma RcEditsUndone.of_not_includes {dir : DirExpr} {file : Bytes} (hfile : IsUtf8 file)
    (h : includes (readText file) rcBlockOpen = false) (hback : stripBlock (withBlock dir (readText file)) = readText file) :
    RcEditsUndone dir file := by
  have hensure : ensureShimsOnShellPath dir file = utf8 (withBlock dir (readText file)) := by
    rw [ensureShimsOnShellPath, h, if_neg Bool.false_ne_true]
  have hread : readText (utf8 (withBlock dir (readText file))) = withBlock dir (readText file) :=
    readText_utf8 (isWellFormed_withBlock hfile.wellFormed)
  have hincludes := includes_withBlock dir (readText file)
  refine ⟨?_, ?_, ?_, ?_⟩
  · have hundone : removeShimsFromShellPath (ensureShimsOnShellPath dir file) = file := by
      rw [hensure, removeShimsFromShellPath, hread, hincludes, if_pos rfl, hback]
      exact hfile
    exact ⟨fun _ => not_hasBlock_of_not_includes h, fun _ => hundone⟩
  · rw [hensure, ensureShimsOnShellPath, hread, hincludes, if_pos rfl]
  · -- the text and what follows it are encoded apart: a block begins with `#`, a separator with a line break
    have hfirst : ∀ v ∈ (separator (readText file) ++ posixBlock dir ++ [newline]).head?, isLowSurrogate v = false := by
      intro v hv
      have hopen : rcBlockOpen.head? = some 0x23 := by decide
      unfold separator at hv
      rw [posixBlock, joinLines_cons (by simp)] at hv
      split_ifs at hv
      · rw [List.nil_append, List.append_assoc, List.head?_append, hopen] at hv
        rw [← Option.mem_some_iff.1 hv]
        decide
      · rw [← Option.mem_some_iff.1 hv]
        exact isLowSurrogate_newline
      · rw [← Option.mem_some_iff.1 hv]
        exact isLowSurrogate_newline
    rw [hensure, withBlock, List.append_assoc, List.append_assoc, ← List.append_assoc (separator _),
      utf8_append _ hfirst, hfile]
    exact List.prefix_append _ _
  · refine .inl ?_
    rw [removeShimsFromShellPath, h, if_neg Bool.false_ne_true]

/-- What is left of a UTF-8 file without the opening marker is undone only when it ends with a line break. -/
lemma RcEditsUndone.terminated {dir : DirExpr} {file : Bytes} (h : RcEditsUndone dir file)
    (hincludes : includes (readText file) rcBlockOpen = false) :
    IsUtf8 file ∧ IsTerminated (readText file) ∧ ¬ ClosesWithin dir := by
  have hensure : ensureShimsOnShellPath dir file = utf8 (withBlock dir (readText file)) := by
    rw [ensureShimsOnShellPath, hincludes, if_neg Bool.false_ne_true]
  have hundone := h.undone.2 (not_hasBlock_of_not_includes hincludes)
  rw [hensure] at hundone
  have hfile : IsUtf8 file := by
    rw [← hundone, removeShimsFromShellPath]
    split
    · exact isUtf8_utf8 _
    · exact isUtf8_utf8 _
  refine ⟨hfile, (stripBlock_withBlock_iff hincludes).1 ?_⟩
  have hformed := @isWellFormed_withBlock dir _ hfile.wellFormed
  rw [removeShimsFromShellPath, readText_utf8 hformed, includes_withBlock, if_pos rfl] at hundone
  have hread : readText (utf8 (stripBlock (withBlock dir (readText file)))) = readText file := by rw [hundone]
  rwa [readText_utf8 (isWellFormed_stripBlock hformed)] at hread

lemma RcEditsUndone.isUtf8 {dir : DirExpr} {file : Bytes} (h : RcEditsUndone dir file)
    (hincludes : includes (readText file) rcBlockOpen = true) : IsUtf8 file := by
  have hensure : ensureShimsOnShellPath dir file = file := if_pos hincludes
  have hremove : removeShimsFromShellPath file = utf8 (stripBlock (readText file)) := if_pos hincludes
  by_cases hblock : HasBlock (readText file)
  · rcases h.stripped with hsame | ⟨text, cut, kept, rfl, -⟩
    · rw [← hsame, hremove]
      exact isUtf8_utf8 _
    · exact isUtf8_utf8 _
  · have hundone := h.undone.2 hblock
    rw [hensure, hremove] at hundone
    rw [← hundone]
    exact isUtf8_utf8 _

/-- The edits are undone exactly on UTF-8 files that contain the opening marker somewhere, or end with
a line break; a directory whose name brings a closing marker spoils the second. -/
theorem rcEditsUndone_iff (dir : DirExpr) (file : Bytes) : RcEditsUndone dir file ↔ IsUtf8 file ∧
    (includes (readText file) rcBlockOpen = true ∨ IsTerminated (readText file) ∧ ¬ ClosesWithin dir) := by
  constructor
  · intro h
    by_cases hincludes : includes (readText file) rcBlockOpen = true
    · exact ⟨h.isUtf8 hincludes, .inl hincludes⟩
    · have hterminated := h.terminated (Bool.not_eq_true _ ▸ hincludes)
      exact ⟨hterminated.1, .inr hterminated.2⟩
  · rintro ⟨hfile, hcase⟩
    by_cases hincludes : includes (readText file) rcBlockOpen = true
    · exact .of_includes hfile hincludes
    · rw [Bool.not_eq_true] at hincludes
      refine .of_not_includes hfile hincludes ((stripBlock_withBlock_iff hincludes).2 ?_)
      rcases hcase with hmarked | hcase
      · rw [hincludes] at hmarked
        exact absurd hmarked Bool.false_ne_true
      · exact hcase

/-- `$HOME/.pherry/shims`. -/
def homeShims : DirExpr := ⟨js "$HOME/.pherry/shims", isWellFormed_js _⟩

/-- A file whose last line is not terminated comes back with a line break it did not have. -/
theorem not_rcEditsUndone_unterminated : ¬ RcEditsUndone homeShims (ascii "alias l=ls") := by
  intro h
  have hterminated := (h.terminated (by decide)).2.1
  exact absurd hterminated (by decide)

end Pherry.Cli
