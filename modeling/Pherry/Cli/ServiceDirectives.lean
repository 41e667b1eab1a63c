import Pherry.Cli.ServiceUnits
import Pherry.UnitFile

/-!
# The directives of a unit

When the unit that `renderSystemdUnit` writes is read as the command, the variables and the log of the invocation:
line by line, and for every value the manager may have for the specifiers.
-/

namespace Pherry.Cli

open UnitFile

/-! ## What a unit says -/

/-- A directive of the service. -/
def service (key : String) (setting : Setting) : Directive := ⟨ascii "Service", ascii key, setting⟩

/-- The directives that the unit of an invocation is meant to be. -/
def serveDirectives (inv : ServeInvocation) : List Directive :=
  [⟨ascii "Unit", ascii "Description", .text (ascii "Pherry custody daemon (pherry serve)")⟩,
    service "ExecStart" (.command [utf8 inv.nodeBin, utf8 inv.script, ascii "serve"]),
    service "Restart" (.text (ascii "on-failure")), service "RestartSec" (.text (ascii "2")),
    service "Environment" (.environment [assignment (ascii "PATH") (utf8 inv.pathEnv)])] ++
  inv.baseDir.toList.map
    (fun dir => service "Environment" (.environment [assignment (ascii "PHERRY_HOME") (utf8 dir)])) ++
  [service "StandardOutput" (.append (utf8 inv.logPath)), service "StandardError" (.append (utf8 inv.logPath)),
    ⟨ascii "Install", ascii "WantedBy", .text (ascii "default.target")⟩]

/-! ## Which values a unit carries -/

/-- A value on one line, without specifiers. -/
structure IsLine (value : Bytes) : Prop where
  line : ∀ b ∈ value, isLineEnd b = false
  literal : isLiteral value = true

/-- The values that a unit carries. -/
structure FitsUnit (inv : ServeInvocation) : Prop where
  nodeBin : IsLine (utf8 inv.nodeBin) ∧ ∀ b ∈ (utf8 inv.nodeBin).head?, isExecPrefix b = false
  script : IsLine (utf8 inv.script)
  environment : ∀ value ∈ inv.pathEnv :: inv.baseDir.toList, IsLine (utf8 value) ∧ isPlain (utf8 value)
  logPath : IsLine (utf8 inv.logPath) ∧ continues (utf8 inv.logPath) = false ∧
    ∀ b ∈ (utf8 inv.logPath).getLast?, isBlank b = false

/-! ## Quoted words -/

section Quoted

variable {relaxed : Bool}

lemma words_flatMap_execStartByte (word value text : Bytes) :
    words relaxed (some 0x22) (some word) 0 (value.flatMap execStartByte ++ text) =
      words relaxed (some 0x22) (some (word ++ value)) 0 text := by
  induction value generalizing word with
  | nil => rw [List.flatMap_nil, List.nil_append, List.append_nil]
  | cons b value ih =>
    rw [List.flatMap_cons, List.append_assoc, execStartByte]
    split
    · next hspecial =>
      have hescape : ∀ rest, unescape (b :: rest) = some ([b], 1) := by
        intro rest
        rcases hspecial with rfl | rfl <;> rfl
      rw [List.cons_append, List.cons_append, List.nil_append, words, if_pos rfl, hescape]
      dsimp only
      rw [words, Option.getD_some, ih, List.append_assoc, List.singleton_append]
    · next hspecial =>
      rw [not_or] at hspecial
      rw [List.singleton_append, words, if_neg hspecial.1, if_neg (by simpa using Ne.symm hspecial.2),
        if_neg (by simp), if_neg (by simp), Option.getD_some, ih, List.append_assoc, List.singleton_append]

lemma words_open (text : Bytes) :
    words relaxed none none 0 (0x22 :: text) = words relaxed (some 0x22) (some []) 0 text := by
  rw [words, if_neg (by decide), if_neg (by simp), if_pos ⟨rfl, .inl rfl⟩]
  rfl

lemma words_close (word text : Bytes) :
    words relaxed (some 0x22) (some word) 0 (0x22 :: text) = words relaxed none (some word) 0 text := by
  rw [words, if_neg (by decide), if_pos rfl]
  rfl

lemma words_blank (word text : Bytes) : words relaxed none (some word) 0 (0x20 :: text) =
    (word :: (words relaxed none none 0 text).1, (words relaxed none none 0 text).2) := by
  rw [words, if_neg (by decide), if_neg (by simp), if_neg (by simp), if_pos ⟨rfl, by decide⟩]
  rfl

lemma continues_flatMap_execStartByte (value text : Bytes) :
    continues (value.flatMap execStartByte ++ text) = continues text := by
  induction value with
  | nil => rfl
  | cons b value ih =>
    rw [List.flatMap_cons, List.append_assoc, execStartByte]
    split
    · rw [List.cons_append, List.cons_append, List.nil_append, continues, if_pos rfl]
      exact ih
    · next hspecial =>
      rw [not_or] at hspecial
      have hsingle : continues [b] = false := by
        rw [continues, beq_eq_false_iff_ne]
        exact hspecial.1
      rw [continues_append hsingle]
      exact ih

lemma rdropWhile_flatMap_execStartByte (value : Bytes) :
    (value.flatMap execStartByte).rdropWhile isBlank = (value.rdropWhile isBlank).flatMap execStartByte := by
  induction value using List.reverseRecOn with
  | nil => rfl
  | append_singleton value b ih =>
    rw [List.flatMap_append, List.flatMap_singleton, List.rdropWhile_concat]
    by_cases hb : isBlank b = true
    · have hquote : execStartByte b = [b] := by
        apply if_neg
        rintro (rfl | rfl) <;> exact absurd hb (by decide)
      rw [hquote, List.rdropWhile_concat_pos _ _ _ hb, if_pos hb, ih]
    · rw [if_neg hb, List.flatMap_append, List.flatMap_singleton, execStartByte]
      split
      · rw [List.append_cons, List.rdropWhile_concat_neg _ _ _ hb]
      · rw [List.rdropWhile_concat_neg _ _ _ hb]

lemma isLineEnd_of_mem_execStartByte {value : Bytes} (h : ∀ b ∈ value, isLineEnd b = false) :
    ∀ b ∈ value.flatMap execStartByte, isLineEnd b = false := by
  intro b hb
  obtain ⟨c, hc, hmem⟩ := List.mem_flatMap.1 hb
  unfold execStartByte at hmem
  split at hmem
  · rcases List.mem_cons.1 hmem with rfl | hlast
    · decide
    · rw [List.mem_singleton.1 hlast]
      exact h c hc
  · rw [List.mem_singleton.1 hmem]
    exact h c hc

end Quoted

/-! ## The command -/

variable {specifiers : UInt8 → Bytes}

/-- What is read from some line of the service on. -/
def readService (specifiers : UInt8 → Bytes) (text : Bytes) : Option (List Directive) :=
  directives specifiers (some (ascii "Service")) (logicalLines text)

lemma not_isLineEnd_assignment {key value : Bytes} (hkey : isKey key = true)
    (h : ∀ b ∈ value, isLineEnd b = false) :
    ∀ b ∈ assignment key value, isLineEnd b = false := by
  intro b hb
  rcases List.mem_append.1 hb with hfront | hback
  · have hletter := (letter_of_isKey hkey b hfront).1
    have hzero : b ≠ 0 := by
      rintro rfl
      exact absurd (List.all_eq_true.1 (Bool.and_eq_true_iff.1 hkey).2 _ hfront) (by decide)
    simp only [isBlank, Bool.or_eq_false_iff, beq_eq_false_iff_ne] at hletter
    simp [isLineEnd, hletter, hzero]
  · rcases List.mem_cons.1 hback with rfl | hvalue
    · decide
    · exact h b hvalue

lemma readService_assignment {key value : Bytes} {e : UInt8} (hkey : isKey key = true)
    (hvalue : ∀ b ∈ value, isLineEnd b = false) (he : isLineEnd e = true) (hcont : continues value = false)
    (text : Bytes) : readService specifiers (assignment key value ++ e :: text) =
      (setting specifiers key (strip value)).bind fun s =>
        (readService specifiers text).map (⟨ascii "Service", key, s⟩ :: ·) := by
  have hwhole : continues (assignment key value) = false := by rw [assignment, continues_assignment, hcont]
  rw [readService, logicalLines_append (not_isLineEnd_assignment hkey hvalue) he (starts_assignment hkey value),
    hwhole, if_neg (by simp), assignment, directives_assignment hkey]
  rfl

lemma setting_execStart (value : Bytes) :
    setting specifiers (ascii "ExecStart") value = (command specifiers value).map .command := if_pos rfl

lemma strip_between {b c : UInt8} (hb : isBlank b = false) (hc : isBlank c = false) (s : Bytes) :
    strip (b :: (s ++ [c])) = b :: (s ++ [c]) := by
  rw [strip_cons hb, List.rdropWhile_concat_neg _ _ _ (by simp [hc])]

lemma serve_eq : ascii " serve" = 0x20 :: (ascii "serv" ++ [0x65]) := by decide

lemma readService_execStart {nodeBin script : Bytes} (hnode : ∀ b ∈ nodeBin, isLineEnd b = false)
    (hscript : ∀ b ∈ script, isLineEnd b = false) (text : Bytes) :
    readService specifiers (execStart nodeBin script ++ 0x0A :: text) = (readService specifiers text).map
      (service "ExecStart" (.command
        ((nodeBin.dropWhile isExecPrefix :: [script, ascii "serve"]).map (expand specifiers))) :: ·) := by
  have hvalue : quoted nodeBin ++ 0x20 :: (quoted script ++ ascii " serve") =
      0x22 :: ((nodeBin.flatMap execStartByte ++ 0x22 :: 0x20 :: 0x22 ::
        (script.flatMap execStartByte ++ 0x22 :: 0x20 :: ascii "serv")) ++ [0x65]) := by
    rw [quoted, quoted, serve_eq]
    simp
  have hline : ∀ b ∈ quoted nodeBin ++ 0x20 :: (quoted script ++ ascii " serve"), isLineEnd b = false := by
    have hserve : ∀ b ∈ ascii " serve", isLineEnd b = false := oneLine_of_any (by decide)
    have hquoted : ∀ word : Bytes, (∀ b ∈ word, isLineEnd b = false) →
        ∀ b ∈ quoted word, isLineEnd b = false := by
      intro word hword b hb
      rcases List.mem_cons.1 hb with rfl | hrest
      · decide
      · rcases List.mem_append.1 hrest with hmem | hlast
        · exact isLineEnd_of_mem_execStartByte hword b hmem
        · rw [List.mem_singleton.1 hlast]
          decide
    intro b hb
    rcases List.mem_append.1 hb with hfirst | hrest
    · exact hquoted nodeBin hnode b hfirst
    · rcases List.mem_cons.1 hrest with rfl | hrest
      · decide
      · rcases List.mem_append.1 hrest with hsecond | hlast
        · exact hquoted script hscript b hsecond
        · exact hserve b hlast
  have hcont : continues (quoted nodeBin ++ 0x20 :: (quoted script ++ ascii " serve")) = false := by
    rw [hvalue, ← List.cons_append]
    exact continues_concat (by decide)
  have hwords : words true none none 0 (strip (quoted nodeBin ++ 0x20 :: (quoted script ++ ascii " serve"))) =
      ([nodeBin, script, ascii "serve"], true) := by
    have hlast : words true none none 0 (ascii "serv" ++ [0x65]) = ([ascii "serve"], true) := by rfl
    rw [hvalue, strip_between (by decide) (by decide)]
    simp only [List.append_assoc, List.cons_append]
    rw [words_open, words_flatMap_execStartByte, words_close, words_blank, words_open, words_flatMap_execStartByte,
      words_close, words_blank, hlast]
    rfl
  rw [execStart, readService_assignment (by decide) hline (by decide) hcont, setting_execStart, command, hwords]
  rfl

lemma readService_execStart_cut {nodeBin script : Bytes}
    (h : ¬ (∀ b ∈ nodeBin, isLineEnd b = false) ∨
      (∀ b ∈ nodeBin, isLineEnd b = false) ∧ ¬ ∀ b ∈ script, isLineEnd b = false) (text : Bytes) :
    readService specifiers (execStart nodeBin script ++ 0x0A :: text) = none := by
  have hend : ∀ {e : UInt8}, isLineEnd e = true → execStartByte e = [e] := by
    intro e he
    apply if_neg
    rintro (rfl | rfl) <;> exact absurd he (by decide)
  have hopen : ∀ word front : Bytes,
      words true (some 0x22) (some word) 0 (front.flatMap execStartByte) = ([], false) := by
    intro word front
    rw [← List.append_nil (front.flatMap execStartByte), words_flatMap_execStartByte]
    rfl
  rcases h with hnode | ⟨hnode, hscript⟩
  · obtain ⟨front, e, back, rfl, hfront, he⟩ := exists_lineEnd hnode
    have hline : ∀ b ∈ 0x22 :: front.flatMap execStartByte, isLineEnd b = false :=
      List.forall_mem_cons.2 ⟨by decide, isLineEnd_of_mem_execStartByte hfront⟩
    have hcont : continues (0x22 :: front.flatMap execStartByte) = false := by
      have hfirst : continues [0x22] = false := by decide
      have hquoted := continues_flatMap_execStartByte front []
      rw [List.append_nil] at hquoted
      rw [← List.singleton_append, continues_append hfirst, hquoted]
      rfl
    have hsplit : execStart (front ++ e :: back) script ++ 0x0A :: text =
        assignment (ascii "ExecStart") (0x22 :: front.flatMap execStartByte) ++
          e :: (back.flatMap execStartByte ++
            0x22 :: 0x20 :: (quoted script ++ (ascii " serve" ++ 0x0A :: text))) := by
      simp [execStart, assignment, quoted, hend he]
    rw [hsplit, readService_assignment (by decide) hline he hcont, setting_execStart, strip_cons (by decide),
      rdropWhile_flatMap_execStartByte, command, words_open, hopen]
    rfl
  · obtain ⟨front, e, back, rfl, hfront, he⟩ := exists_lineEnd hscript
    have hline : ∀ b ∈
        0x22 :: (nodeBin.flatMap execStartByte ++ 0x22 :: 0x20 :: 0x22 :: front.flatMap execStartByte),
        isLineEnd b = false := by
      have hnode' := isLineEnd_of_mem_execStartByte hnode
      have hfront' := isLineEnd_of_mem_execStartByte hfront
      refine List.forall_mem_cons.2 ⟨by decide, ?_⟩
      intro b hb
      rcases List.mem_append.1 hb with hfirst | hrest
      · exact hnode' b hfirst
      · simp only [List.mem_cons] at hrest
        rcases hrest with rfl | rfl | rfl | hrest
        · decide
        · decide
        · decide
        · exact hfront' b hrest
    have hcont : continues
        (0x22 :: (nodeBin.flatMap execStartByte ++ 0x22 :: 0x20 :: 0x22 :: front.flatMap execStartByte)) = false := by
      have hfirst : continues [0x22] = false := by decide
      have hmiddle : continues [0x22, 0x20, 0x22] = false := by decide
      have hquoted := continues_flatMap_execStartByte front []
      rw [List.append_nil] at hquoted
      rw [← List.singleton_append, continues_append hfirst, continues_flatMap_execStartByte]
      show continues ([0x22, 0x20, 0x22] ++ front.flatMap execStartByte) = false
      rw [continues_append hmiddle, hquoted]
      rfl
    have hsplit : execStart nodeBin (front ++ e :: back) ++ 0x0A :: text =
        assignment (ascii "ExecStart")
          (0x22 :: (nodeBin.flatMap execStartByte ++ 0x22 :: 0x20 :: 0x22 :: front.flatMap execStartByte)) ++
          e :: (back.flatMap execStartByte ++ 0x22 :: (ascii " serve" ++ 0x0A :: text)) := by
      simp [execStart, assignment, quoted, hend he]
    have hblank : ∀ s : Bytes, (0x20 :: 0x22 :: s).rdropWhile isBlank = 0x20 :: 0x22 :: s.rdropWhile isBlank := by
      intro s
      exact rdropWhile_append_cons (by decide) [0x20] s
    rw [hsplit, readService_assignment (by decide) hline he hcont, setting_execStart, strip_cons (by decide),
      rdropWhile_append_cons (by decide), hblank, rdropWhile_flatMap_execStartByte, command, words_open,
      words_flatMap_execStartByte, words_close, words_blank, words_open, hopen]
    rfl

/-! ## The variables -/

lemma setting_environment (value : Bytes) :
    setting specifiers (ascii "Environment") value = some (.environment (environment specifiers value)) := by
  rw [setting, if_neg (by decide), if_pos rfl]

lemma environment_open {body : Bytes} (h : strip (0x22 :: body) = 0x22 :: body) :
    environment specifiers (strip (0x22 :: body)) =
      (words false (some 0x22) (some []) 0 body).1.map (expand specifiers) := by
  rw [environment, h, words_open]

lemma readService_environment {name value : Bytes} (hname : isKey name = true)
    (hplainName : isPlain name) (hvalue : ∀ b ∈ value, isLineEnd b = false) (hplain : isPlain value)
    (text : Bytes) :
    readService specifiers (environmentLine name value ++ 0x0A :: text) = (readService specifiers text).map
      (service "Environment" (.environment [expand specifiers (assignment name value)]) :: ·) := by
  have hline : ∀ b ∈ 0x22 :: (assignment name value ++ [0x22]), isLineEnd b = false := by
    refine List.forall_mem_cons.2 ⟨by decide, List.forall_mem_append.2 ⟨?_, oneLine_of_any (by decide)⟩⟩
    exact not_isLineEnd_assignment hname hvalue
  have hcont : continues (0x22 :: (assignment name value ++ [0x22])) = false := by
    rw [← List.cons_append]
    exact continues_concat (by decide)
  have hassignment : isPlain (assignment name value) :=
    List.forall_mem_append.2 ⟨hplainName, List.forall_mem_cons.2 ⟨by decide, hplain⟩⟩
  have hwords : words false (some 0x22) (some []) 0 (assignment name value ++ [0x22]) =
      ([assignment name value], true) := by
    rw [words_plain false hassignment, words_close]
    rfl
  rw [environmentLine, readService_assignment (by decide) hline (by decide) hcont, setting_environment,
    environment_open (strip_between (by decide) (by decide) _), hwords]
  rfl

lemma words_taken {quote : UInt8} (word : Option Bytes) (text : Bytes) :
    words false (some quote) word text.length text = ([], false) := by
  induction text with
  | nil =>
    cases word <;> rfl
  | cons b text ih =>
    rw [List.length_cons, words]
    exact ih

lemma exists_special {value : Bytes} (h : ¬ isPlain value) :
    ∃ front b back, value = front ++ b :: back ∧ isPlain front ∧ (b = 0x22 ∨ b = 0x5C) := by
  induction value with
  | nil => exact absurd (fun b hb => absurd hb List.not_mem_nil) h
  | cons b value ih =>
    by_cases hb : b = 0x22 ∨ b = 0x5C
    · exact ⟨[], b, value, rfl, fun c hc => absurd hc List.not_mem_nil, hb⟩
    · rw [not_or] at hb
      have hrest : ¬ isPlain value := fun hall => h (List.forall_mem_cons.2 ⟨hb, hall⟩)
      obtain ⟨front, c, back, rfl, hfront, hc⟩ := ih hrest
      exact ⟨b :: front, c, back, rfl, List.forall_mem_cons.2 ⟨hb, hfront⟩, hc⟩

lemma weight_words_special {word value : Bytes} (h : ¬ isPlain value) :
    weight (words false (some 0x22) (some word) 0 (value ++ [0x22])).1 < word.length + value.length := by
  obtain ⟨front, b, back, rfl, hfront, hb⟩ := exists_special h
  have hlast : (back ++ [0x22]).getLast? = some 0x22 := List.getLast?_concat
  rw [List.append_assoc, words_plain false hfront, List.cons_append, words.eq_def]
  simp only [Option.getD_some, Bool.false_eq_true, ↓reduceIte, List.length_append, List.length_cons]
  rcases hb with rfl | rfl
  · -- the quote ends the quotes, and the last one is lost too
    have hlt := @weight_words_lt none (some (word ++ front)) 0 _ hlast (by simp)
    rw [if_neg (by decide)]
    simp only [↓reduceIte, Option.getD_some, List.length_append, List.length_singleton] at hlt ⊢
    omega
  · rw [if_pos rfl]
    split
    · next out taken hescape =>
      obtain ⟨hout, htaken, -⟩ := unescape_eq_some hescape
      by_cases hall : taken = (back ++ [0x22]).length
      · rw [hall, words_taken]
        simp only [weight, List.map_nil, List.sum_nil]
        omega
      · have hlt := @weight_words_lt (some 0x22) (some (word ++ front ++ out)) taken _ hlast (by omega)
        simp only [Option.getD_some, List.length_append, List.length_singleton] at hlt htaken ⊢
        omega
    · simp only [weight, List.map_nil, List.sum_nil]
      omega

lemma setting_of_directives {key value name : Bytes} {lines : List Bytes} {first : Directive}
    {more : List Directive} (hkey : isKey key = true)
    (h : directives specifiers (some name) ((key ++ 0x3D :: value) :: lines) = some (first :: more)) :
    setting specifiers key (strip value) = some first.setting ∧ first.section = name ∧ first.key = key ∧
      directives specifiers (some name) lines = some more := by
  rw [directives_assignment hkey, Option.bind_eq_some_iff] at h
  obtain ⟨s, hs, h⟩ := h
  obtain ⟨rest, hrest, heq⟩ := Option.map_eq_some_iff.1 h
  obtain ⟨rfl, rfl⟩ := List.cons_eq_cons.1 heq
  exact ⟨hs, rfl, rfl, hrest⟩

lemma length_le_weight {items : List Bytes} {value : Bytes} (h : items.map (expand noSpecifiers) = [value]) :
    ∃ item, items = [item] ∧ expand noSpecifiers item = value ∧ value.length ≤ weight items := by
  obtain ⟨item, hitem, hexpand⟩ := List.map_eq_singleton_iff.1 h
  refine ⟨item, hitem, hexpand, ?_⟩
  have hle := length_expand_le item
  rw [hexpand] at hle
  simpa [hitem, weight] using hle

lemma rdropWhile_append (s t : Bytes) :
    (s ++ t).rdropWhile isBlank =
      if t.rdropWhile isBlank = [] then s.rdropWhile isBlank else s ++ t.rdropWhile isBlank := by
  induction t using List.reverseRecOn with
  | nil => simp
  | append_singleton t b ih =>
    rw [← List.append_assoc, List.rdropWhile_concat, List.rdropWhile_concat]
    split
    · exact ih
    · simp

/-- A variable is read only where its value is on one line and holds nothing special. -/
lemma isLine_of_readService {name value text : Bytes} {more : List Directive} (hname : isKey name = true)
    (hplain : isPlain name) (hpercent : 0x25 ∉ name)
    (h : readService noSpecifiers (environmentLine name value ++ 0x0A :: text) =
      some (service "Environment" (.environment [assignment name value]) :: more)) :
    IsLine value ∧ isPlain value := by
  -- the words of a shorter text are shorter
  have hshort : ∀ body : Bytes, body.length < (assignment name value).length →
      (words false (some 0x22) (some []) 0 body).1.map (expand noSpecifiers) ≠ [assignment name value] := by
    intro body hbody hmap
    obtain ⟨item, -, -, hle⟩ := length_le_weight hmap
    have hwords := @weight_words_le false (some 0x22) (some []) 0 body
    simp only [Option.getD_some, List.length_nil] at hwords
    omega
  have hfront : isPlain (name ++ [0x3D]) :=
    List.forall_mem_append.2 ⟨hplain, isPlain_of_any (by decide)⟩
  by_cases hline : ∀ b ∈ value, isLineEnd b = false
  · have hspecial : isPlain value := by
      by_contra hspecial
      have hbody : ∀ b ∈ 0x22 :: (assignment name value ++ [0x22]), isLineEnd b = false :=
        List.forall_mem_cons.2 ⟨by decide, List.forall_mem_append.2
          ⟨not_isLineEnd_assignment hname hline, oneLine_of_any (by decide)⟩⟩
      have hcont : continues (0x22 :: (assignment name value ++ [0x22])) = false := by
        rw [← List.cons_append]
        exact continues_concat (by decide)
      rw [environmentLine, readService_assignment (by decide) hbody (by decide) hcont, setting_environment,
        environment_open (strip_between (by decide) (by decide) _), Option.bind_some] at h
      obtain ⟨rest, -, heq⟩ := Option.map_eq_some_iff.1 h
      have hmap := congrArg Directive.setting (List.cons_eq_cons.1 heq).1
      obtain ⟨item, -, -, hle⟩ := length_le_weight (Setting.environment.inj hmap)
      have hlt := @weight_words_special (name ++ [0x3D]) value hspecial
      rw [assignment, List.append_cons, List.append_assoc (name ++ [0x3D]), words_plain false hfront,
        List.nil_append, List.length_append] at hle
      omega
    rw [readService_environment hname hplain hline hspecial] at h
    obtain ⟨rest, -, heq⟩ := Option.map_eq_some_iff.1 h
    have hexpand := congrArg Directive.setting (List.cons_eq_cons.1 heq).1
    have hvalue := (List.cons_eq_cons.1 (Setting.environment.inj hexpand)).1
    rw [assignment, List.append_cons, expand_append (by simpa using hpercent)] at hvalue
    exact ⟨⟨hline, isLiteral_of_expand (List.append_cancel_left hvalue)⟩, hspecial⟩
  · exfalso
    obtain ⟨front, e, back, rfl, hclean, he⟩ := exists_lineEnd hline
    have hsplit : environmentLine name (front ++ e :: back) ++ 0x0A :: text =
        assignment (ascii "Environment") (0x22 :: assignment name front) ++ e :: (back ++ 0x22 :: 0x0A :: text) := by
      simp [environmentLine, assignment]
    have hbody : ∀ b ∈ 0x22 :: assignment name front, isLineEnd b = false :=
      List.forall_mem_cons.2 ⟨by decide, not_isLineEnd_assignment hname hclean⟩
    have hkey : isKey (ascii "Environment") = true := by decide
    have hlength : (assignment name (front ++ e :: back)).length =
        (assignment name front).length + back.length + 1 := by
      simp [assignment]
      omega
    rw [hsplit, readService, logicalLines_append (not_isLineEnd_assignment hkey hbody) he
      (starts_assignment hkey _)] at h
    split at h
    · next hcont =>
      have hfrontCont : continues front = true := by
        have hunmarked : continues (ascii "Environment" ++ 0x3D :: 0x22 :: (name ++ [0x3D])) = false := by
          have hlast := @continues_concat (ascii "Environment" ++ 0x3D :: 0x22 :: name) _
            (show (0x3D : UInt8) ≠ 0x5C by decide)
          simpa using hlast
        have happend := continues_append hunmarked front
        rw [← happend, ← hcont]
        simp [assignment]
      obtain ⟨before, rfl⟩ := eq_of_continues hfrontCont
      have hdrop : (assignment (ascii "Environment") (0x22 :: assignment name (before ++ [0x5C]))).dropLast =
          assignment (ascii "Environment") (0x22 :: assignment name before) := by
        have hdropLast :
            (assignment (ascii "Environment") (0x22 :: assignment name before) ++ [(0x5C : UInt8)]).dropLast =
            assignment (ascii "Environment") (0x22 :: assignment name before) := List.dropLast_concat
        rw [← hdropLast]
        simp [assignment]
      obtain ⟨later, rest, hjoin⟩ := joinLines_some
        (assignment (ascii "Environment") (0x22 :: assignment name before)) ((back ++ 0x22 :: 0x0A :: text).splitOnP isLineEnd)
      have hjoined : assignment (ascii "Environment") (0x22 :: assignment name before) ++ 0x20 :: later =
          ascii "Environment" ++ 0x3D :: (0x22 :: (assignment name before ++ 0x20 :: later)) := by
        simp [assignment]
      rw [hdrop, hjoin, hjoined] at h
      obtain ⟨hsetting, -⟩ := setting_of_directives hkey h
      rw [setting_environment, strip_cons (by decide), environment, words_open, rdropWhile_append] at hsetting
      have hmap := Setting.environment.inj (Option.some.inj hsetting)
      have hbefore : (assignment name before).length < (assignment name (before ++ [0x5C] ++ e :: back)).length := by
        simp [assignment]
      split at hmap
      · refine hshort _ (lt_of_le_of_lt ?_ hbefore) hmap
        exact (List.rdropWhile_prefix _ _).length_le
      · next hrest =>
        -- the backslash has become a space, and what is behind it may be anything
        have hspace : ∃ more, (0x20 :: later).rdropWhile isBlank = 0x20 :: more := by
          obtain ⟨more, hmore⟩ := List.rdropWhile_prefix isBlank (0x20 :: later)
          cases hcut : (0x20 :: later).rdropWhile isBlank with
          | nil => exact absurd hcut hrest
          | cons b cut =>
            rw [hcut, List.cons_append, List.cons_eq_cons] at hmore
            exact ⟨cut, by rw [hmore.1]⟩
        obtain ⟨more, hmore⟩ := hspace
        rw [hmore] at hmap
        obtain ⟨item, hitem, hexpand, -⟩ := length_le_weight hmap
        have hlength := length_expand_le item
        rw [hexpand] at hlength
        rcases spaces_of_words 0 (by decide) (Nat.zero_le _) hitem with hless | hspaces
        · simp only [List.length_nil, Nat.zero_add, Nat.sub_zero] at hless
          omega
        · have hle := spaces_le_expand item ((assignment name before).length + 1)
          have hcount :
              spaces (assignment name (before ++ [0x5C] ++ e :: back)) ((assignment name before).length + 1) =
              (assignment name before).count 0x20 := by
            have happend := spaces_append (assignment name before) (0x5C :: e :: back) 1
            simpa [assignment, spaces] using happend
          rw [hexpand, hcount] at hle
          simp only [List.count_nil, List.drop_zero, List.length_nil, Nat.zero_add, Nat.sub_zero] at hspaces
          omega
    · obtain ⟨hsetting, -⟩ := setting_of_directives hkey h
      rw [setting_environment, strip_cons (by decide), environment, words_open] at hsetting
      refine hshort _ ?_ (Setting.environment.inj (Option.some.inj hsetting))
      have hle := (List.rdropWhile_prefix isBlank (assignment name front)).length_le
      omega

/-! ## The log -/

/-- The keys of the two streams. -/
def isStream (key : Bytes) : Prop := key = ascii "StandardOutput" ∨ key = ascii "StandardError"

lemma isKey_of_isStream {key : Bytes} (h : isStream key) : isKey key = true := by
  rcases h with rfl | rfl
  · decide
  · decide

lemma setting_stream {key : Bytes} (h : isStream key) (value : Bytes) :
    setting specifiers key value = some
      (if ascii "append:" <+: value then .append (expand specifiers (value.drop 7)) else .text value) := by
  have hkeys : key ≠ ascii "ExecStart" ∧ key ≠ ascii "Environment" := by
    rcases h with rfl | rfl
    · decide
    · decide
  rw [setting, if_neg hkeys.1, if_neg hkeys.2]
  by_cases happend : ascii "append:" <+: value
  · rw [if_pos ⟨h, happend⟩, if_pos happend]
  · rw [if_neg fun hboth => happend hboth.2, if_neg happend]

lemma strip_append (path : Bytes) :
    strip (ascii "append:" ++ path) = ascii "append:" ++ path.rdropWhile isBlank := by
  have happend : ascii "append:" = 0x61 :: (ascii "ppend" ++ [0x3A]) := by decide
  rw [happend, List.cons_append, List.append_assoc, List.singleton_append, strip_cons (by decide),
    rdropWhile_append_cons (by decide)]
  simp

lemma continues_append_path (path : Bytes) : continues (ascii "append:" ++ path) = continues path :=
  continues_append (by decide) path

lemma readService_appendTo {key path : Bytes} (hkey : isStream key) (hline : ∀ b ∈ path, isLineEnd b = false)
    (hcont : continues path = false) (text : Bytes) :
    readService specifiers (appendTo key path ++ 0x0A :: text) = (readService specifiers text).map
      (⟨ascii "Service", key, .append (expand specifiers (path.rdropWhile isBlank))⟩ :: ·) := by
  have hvalue : ∀ b ∈ ascii "append:" ++ path, isLineEnd b = false :=
    List.forall_mem_append.2 ⟨oneLine_of_any (by decide), hline⟩
  rw [appendTo, readService_assignment (isKey_of_isStream hkey) hvalue (by decide)
    (by rw [continues_append_path, hcont]), setting_stream hkey, strip_append, if_pos (List.prefix_append _ _)]
  rfl

lemma logicalLines_assignment {key : Bytes} (hkey : isKey key = true) (value text : Bytes) :
    ∃ read lines, logicalLines (assignment key value ++ 0x0A :: text) = (key ++ 0x3D :: read) :: lines := by
  obtain ⟨front, e, back, hsplit, hfront, he⟩ : ∃ front e back, assignment key value ++ 0x0A :: text =
      assignment key front ++ e :: back ∧ (∀ b ∈ front, isLineEnd b = false) ∧ isLineEnd e = true := by
    by_cases hline : ∀ b ∈ value, isLineEnd b = false
    · exact ⟨value, 0x0A, text, rfl, hline, by decide⟩
    · obtain ⟨front, e, back, rfl, hfront, he⟩ := exists_lineEnd hline
      exact ⟨front, e, back ++ 0x0A :: text, by simp [assignment], hfront, he⟩
  rw [hsplit, logicalLines_append (not_isLineEnd_assignment hkey hfront) he (starts_assignment hkey front)]
  split
  · next hcont =>
    rw [assignment, continues_assignment] at hcont
    obtain ⟨before, rfl⟩ := eq_of_continues hcont
    obtain ⟨later, rest, hjoin⟩ := joinLines_some (assignment key before) (back.splitOnP isLineEnd)
    have hdrop : (assignment key (before ++ [0x5C])).dropLast = assignment key before := by
      have hconcat : (assignment key before ++ [(0x5C : UInt8)]).dropLast = assignment key before :=
        List.dropLast_concat
      rw [← hconcat]
      simp [assignment]
    rw [hdrop, hjoin]
    exact ⟨before ++ 0x20 :: later, rest, by simp [assignment]⟩
  · exact ⟨front, logicalLines back, rfl⟩

lemma line_of_readService {key path text : Bytes} {more : List Directive} (hkey : isStream key)
    (h : readService noSpecifiers (appendTo key path ++ 0x0A :: text) =
      some (⟨ascii "Service", key, .append path⟩ :: more)) : ∀ b ∈ path, isLineEnd b = false := by
  obtain ⟨read, lines, hlines⟩ := logicalLines_assignment (isKey_of_isStream hkey) (ascii "append:" ++ path) text
  rw [readService, appendTo, hlines] at h
  obtain ⟨hsetting, -⟩ := setting_of_directives (isKey_of_isStream hkey) h
  rw [setting_stream hkey, Option.some_inj] at hsetting
  split at hsetting
  · have hpath := Setting.append.inj hsetting
    intro b hb
    rw [← hpath] at hb
    have hread : b ∈ strip read := (List.drop_subset _ _) (mem_of_mem_expand hb)
    have hmem : b ∈ read :=
      (List.dropWhile_suffix isBlank).subset ((List.rdropWhile_prefix isBlank _).subset hread)
    refine @not_isLineEnd_of_mem_logicalLines (assignment key (ascii "append:" ++ path) ++ 0x0A :: text)
      (key ++ 0x3D :: read) ?_ b ?_
    · rw [hlines]
      exact List.mem_cons_self
    · exact List.mem_append_right _ (List.mem_cons_of_mem _ hmem)
  · cases hsetting

lemma readService_continued {path text : Bytes} {first : Directive} {more : List Directive}
    (hline : ∀ b ∈ path, isLineEnd b = false) (hcont : continues path = true)
    (h : readService specifiers (appendTo (ascii "StandardOutput") path ++ 0x0A ::
      (appendTo (ascii "StandardError") path ++ 0x0A :: 0x0A :: text)) = some (first :: more)) :
    readService specifiers text = some more := by
  have houtput : isKey (ascii "StandardOutput") = true := by decide
  have herror : isKey (ascii "StandardError") = true := by decide
  have hvalue : ∀ b ∈ ascii "append:" ++ path, isLineEnd b = false :=
    List.forall_mem_append.2 ⟨oneLine_of_any (by decide), hline⟩
  have hfirst : ∀ b ∈ appendTo (ascii "StandardOutput") path, isLineEnd b = false :=
    not_isLineEnd_assignment houtput hvalue
  have hsecond : ∀ b ∈ appendTo (ascii "StandardError") path, isLineEnd b = false :=
    not_isLineEnd_assignment herror hvalue
  have hwhole : ∀ key, continues (appendTo key path) = true := by
    intro key
    rw [appendTo, assignment, continues_assignment, continues_append_path, hcont]
  have hstartsOutput : starts (appendTo (ascii "StandardOutput") path) := starts_assignment houtput _
  have hstartsError : starts (appendTo (ascii "StandardError") path) := starts_assignment herror _
  obtain ⟨front, hfront⟩ : ∃ front, (appendTo (ascii "StandardOutput") path).dropLast ++ [0x20] =
      ascii "StandardOutput" ++ 0x3D :: (front ++ [0x20]) := by
    rw [appendTo, assignment, List.dropLast_append_of_ne_nil (List.cons_ne_nil _ _),
      List.dropLast_cons_of_ne_nil (by simp [ascii])]
    exact ⟨(ascii "append:" ++ path).dropLast, by rw [List.append_assoc, List.cons_append]⟩
  have hpending : continues (ascii "StandardOutput" ++ 0x3D :: (front ++ [0x20])) = false := by
    rw [continues_assignment]
    exact continues_concat (by decide)
  have hsplit : (appendTo (ascii "StandardError") path ++ 0x0A :: 0x0A :: text).splitOnP isLineEnd =
      appendTo (ascii "StandardError") path :: [] :: text.splitOnP isLineEnd := by
    rw [List.splitOnP_append_cons_of_forall_mem hsecond 0x0A (by decide), List.splitOnP_cons_eq_if_modifyHead,
      if_pos (by decide)]
  have hjoined : logicalLines (appendTo (ascii "StandardOutput") path ++ 0x0A ::
      (appendTo (ascii "StandardError") path ++ 0x0A :: 0x0A :: text)) =
      (ascii "StandardOutput" ++
        0x3D :: (front ++ [0x20] ++ appendTo (ascii "StandardError") path).dropLast ++ [0x20]) ::
        logicalLines text := by
    have hdrop :
        (ascii "StandardOutput" ++ 0x3D :: (front ++ [0x20]) ++ appendTo (ascii "StandardError") path).dropLast =
        ascii "StandardOutput" ++ 0x3D :: (front ++ [0x20] ++ appendTo (ascii "StandardError") path).dropLast := by
      rw [List.append_assoc, List.dropLast_append_of_ne_nil (by simp), List.cons_append,
        List.dropLast_cons_of_ne_nil (by simp)]
    have hboth : continues
        (ascii "StandardOutput" ++ 0x3D :: (front ++ [0x20]) ++ appendTo (ascii "StandardError") path) = true := by
      rw [continues_append hpending, hwhole]
    have hblank : starts [] := fun b hb => by cases hb
    have hlast : ∀ s : Bytes, continues (s ++ [0x20]) = false := fun s => continues_concat (by decide)
    rw [logicalLines, List.splitOnP_append_cons_of_forall_mem hfirst 0x0A (by decide), hsplit,
      UnitFile.joinLines_cons hstartsOutput, Option.getD_none, List.nil_append, if_pos (hwhole _), hfront,
      UnitFile.joinLines_cons hstartsError, Option.getD_some, if_pos hboth, hdrop, UnitFile.joinLines_cons hblank,
      Option.getD_some, List.append_nil, hlast, if_neg (by simp)]
    rfl
  rw [readService, hjoined, List.append_assoc, List.cons_append] at h
  exact (setting_of_directives houtput h).2.2.2

/-! ## The whole unit -/

lemma readService_whole {key value : Bytes} (hkey : isKey key = true) (h : isWhole (assignment key value) = true)
    (text : Bytes) : readService specifiers (assignment key value ++ 0x0A :: text) =
      (setting specifiers key (strip value)).bind fun s =>
        (readService specifiers text).map (⟨ascii "Service", key, s⟩ :: ·) := by
  rw [readService, logicalLines_whole h, assignment, directives_assignment hkey]
  rfl

/-- The lines behind the variables. -/
def logLines (path : Bytes) : Bytes :=
  appendTo (ascii "StandardOutput") path ++ 0x0A :: (appendTo (ascii "StandardError") path ++ 0x0A :: 0x0A ::
    (ascii "[Install]" ++ 0x0A :: (ascii "WantedBy=default.target" ++ [0x0A])))

/-- The lines behind `PATH`. -/
def homeLines (baseDir : Option Bytes) (path : Bytes) : Bytes :=
  match baseDir with
  | none => logLines path
  | some dir => environmentLine (ascii "PHERRY_HOME") dir ++ 0x0A :: logLines path

/-- What is read behind the log. -/
def wantedBy : Directive := ⟨ascii "Install", ascii "WantedBy", .text (ascii "default.target")⟩

lemma setting_text {key : Bytes} (h : key ∉ [ascii "ExecStart", ascii "Environment", ascii "StandardOutput",
    ascii "StandardError"]) (value : Bytes) : setting specifiers key value = some (.text value) := by
  simp only [List.mem_cons, List.not_mem_nil, or_false, not_or] at h
  obtain ⟨hexec, henvironment, houtput, herror⟩ := h
  rw [setting, if_neg hexec, if_neg henvironment, if_neg]
  rintro ⟨hstream | hstream, -⟩
  · exact houtput hstream
  · exact herror hstream

lemma readService_restart (text : Bytes) : readService specifiers
    (ascii "Restart=on-failure" ++ 0x0A :: (ascii "RestartSec=2" ++ 0x0A :: text)) =
    (readService specifiers text).map fun more =>
      service "Restart" (.text (ascii "on-failure")) :: service "RestartSec" (.text (ascii "2")) :: more := by
  have hrestart : ascii "Restart=on-failure" = assignment (ascii "Restart") (ascii "on-failure") := by decide
  have hsec : ascii "RestartSec=2" = assignment (ascii "RestartSec") (ascii "2") := by decide
  have hvalues : strip (ascii "on-failure") = ascii "on-failure" ∧ strip (ascii "2") = ascii "2" := by decide
  rw [hrestart, hsec, readService_whole (by decide) (by decide), readService_whole (by decide) (by decide),
    setting_text (by decide), setting_text (by decide), hvalues.1, hvalues.2]
  cases readService specifiers text <;> rfl

lemma readService_install_lines : readService specifiers
    (ascii "[Install]" ++ 0x0A :: (ascii "WantedBy=default.target" ++ [0x0A])) = some [wantedBy] := by
  have hheader : ascii "[Install]" = 0x5B :: (ascii "Install" ++ [0x5D]) := by decide
  have hwanted : ascii "WantedBy=default.target" = ascii "WantedBy" ++ 0x3D :: ascii "default.target" := by decide
  have hvalue : strip (ascii "default.target") = ascii "default.target" := by decide
  rw [readService, logicalLines_whole (by decide), logicalLines_whole (by decide), hheader,
    directives_header, hwanted, directives_assignment (by decide), setting_text (by decide), hvalue]
  rfl

lemma readService_install : readService specifiers
    (0x0A :: (ascii "[Install]" ++ 0x0A :: (ascii "WantedBy=default.target" ++ [0x0A]))) = some [wantedBy] := by
  have hempty := @logicalLines_whole [] (by decide)
    (ascii "[Install]" ++ 0x0A :: (ascii "WantedBy=default.target" ++ [0x0A]))
  rw [List.nil_append] at hempty
  rw [readService, hempty, directives_empty]
  exact readService_install_lines

lemma load_renderSystemdUnit (inv : ServeInvocation) : load specifiers (utf8 (renderSystemdUnit inv)) =
    (readService specifiers (execStart (utf8 inv.nodeBin) (utf8 inv.script) ++ 0x0A ::
      (ascii "Restart=on-failure" ++ 0x0A :: (ascii "RestartSec=2" ++ 0x0A ::
        (environmentLine (ascii "PATH") (utf8 inv.pathEnv) ++ 0x0A ::
          homeLines (inv.baseDir.map utf8) (utf8 inv.logPath)))))).map
      (⟨ascii "Unit", ascii "Description", .text (ascii "Pherry custody daemon (pherry serve)")⟩ :: ·) := by
  have hunit : ascii "[Unit]" = 0x5B :: (ascii "Unit" ++ [0x5D]) := by decide
  have hservice : ascii "[Service]" = 0x5B :: (ascii "Service" ++ [0x5D]) := by decide
  have hdescription : ascii "Description=Pherry custody daemon (pherry serve)" =
      ascii "Description" ++ 0x3D :: ascii "Pherry custody daemon (pherry serve)" := by
    rw [ascii_ofList, ascii_ofList, ascii_ofList]
    rfl
  have hvalue : strip (ascii "Pherry custody daemon (pherry serve)") =
      ascii "Pherry custody daemon (pherry serve)" := by
    rw [ascii_ofList]
    decide
  have hwhole : isWhole (ascii "Description=Pherry custody daemon (pherry serve)") = true := by
    rw [ascii_ofList]
    decide
  have hlines : (unitLines inv).flatMap (· ++ [0x0A]) = ascii "[Unit]" ++ 0x0A ::
      (ascii "Description=Pherry custody daemon (pherry serve)" ++ 0x0A :: ([] ++ 0x0A :: (ascii "[Service]" ++ 0x0A ::
        (execStart (utf8 inv.nodeBin) (utf8 inv.script) ++ 0x0A ::
          (ascii "Restart=on-failure" ++ 0x0A :: (ascii "RestartSec=2" ++ 0x0A ::
            (environmentLine (ascii "PATH") (utf8 inv.pathEnv) ++ 0x0A ::
              homeLines (inv.baseDir.map utf8) (utf8 inv.logPath)))))))) := by
    unfold unitLines homeLines logLines
    cases inv.baseDir <;> simp
  rw [utf8_renderSystemdUnit, hlines, load, logicalLines_whole (by decide), hunit, directives_header,
    logicalLines_whole hwhole, hdescription, directives_assignment (by decide), setting_text (by decide), hvalue,
    logicalLines_whole (by decide), directives_empty, logicalLines_whole (by decide), hservice, directives_header]
  rfl

/-! ## When a unit is read as it is meant -/

lemma expand_assignment {name value : Bytes} (hname : 0x25 ∉ name) :
    expand specifiers (assignment name value) = name ++ 0x3D :: expand specifiers value := by
  rw [assignment, expand_append hname, expand_cons (by decide)]

/-- A value that is expanded to itself, up to what was taken away from it, is a literal. -/
lemma isLiteral_of_sublist {value part : Bytes} (hpart : part.Sublist value)
    (h : expand noSpecifiers part = value) : part = value ∧ isLiteral value = true := by
  have hle := length_expand_le part
  rw [h] at hle
  have heq := hpart.eq_of_length_le hle
  subst heq
  exact ⟨rfl, isLiteral_of_expand h⟩

lemma rest_of_map {lines : Option (List Directive)} {first d : Directive} {more : List Directive}
    (h : lines.map (first :: ·) = some (d :: more)) : first = d ∧ lines = some more := by
  obtain ⟨rest, hrest, heq⟩ := Option.map_eq_some_iff.1 h
  rw [List.cons_eq_cons] at heq
  exact ⟨heq.1, by rw [hrest, heq.2]⟩

/-- The directives of the log. -/
def logDirectives (path : Bytes) : List Directive :=
  [service "StandardOutput" (.append path), service "StandardError" (.append path), wantedBy]

lemma readService_logLines {path : Bytes} (h : IsLine path) (hcont : continues path = false)
    (hlast : ∀ b ∈ path.getLast?, isBlank b = false) :
    readService specifiers (logLines path) = some (logDirectives path) := by
  have hwhole : path.rdropWhile isBlank = path := by
    rw [List.rdropWhile_eq_self_iff]
    intro hne
    simp [hlast _ (List.getLast?_eq_getLast_of_ne_nil hne)]
  rw [logLines, readService_appendTo (.inl rfl) h.line hcont, readService_appendTo (.inr rfl) h.line hcont,
    readService_install, hwhole, expand_of_isLiteral h.literal]
  rfl

lemma logPath_of_readService {path : Bytes}
    (h : readService noSpecifiers (logLines path) = some (logDirectives path)) :
    IsLine path ∧ continues path = false ∧ ∀ b ∈ path.getLast?, isBlank b = false := by
  have hline := line_of_readService (.inl rfl) h
  have hcont : continues path = false := by
    by_contra hcont
    -- the line of the other stream is missing then
    have hmore := readService_continued hline (by simpa using hcont) h
    rw [readService_install_lines] at hmore
    exact List.cons_ne_nil _ _ (List.cons_eq_cons.1 (Option.some.inj hmore)).2.symm
  rw [logLines, readService_appendTo (.inl rfl) hline hcont] at h
  have hpath := Setting.append.inj (congrArg Directive.setting (rest_of_map h).1)
  obtain ⟨hwhole, hliteral⟩ := isLiteral_of_sublist (List.rdropWhile_prefix _ _).sublist hpath
  refine ⟨⟨hline, hliteral⟩, hcont, ?_⟩
  intro b hb
  obtain ⟨front, rfl⟩ := List.getLast?_eq_some_iff.1 hb
  by_contra hblank
  rw [List.rdropWhile_concat_pos _ _ _ (by simpa using hblank)] at hwhole
  have hle := (List.rdropWhile_prefix isBlank front).length_le
  rw [hwhole, List.length_append, List.length_singleton] at hle
  omega

lemma isPlain_names : isPlain (ascii "PATH") ∧ isPlain (ascii "PHERRY_HOME") :=
  ⟨isPlain_of_any (by decide), isPlain_of_any (by decide)⟩

/-- The directives of a home and a log. -/
def homeDirectives (baseDir : Option Bytes) (path : Bytes) : List Directive :=
  match baseDir with
  | none => logDirectives path
  | some dir => service "Environment" (.environment [assignment (ascii "PHERRY_HOME") dir]) :: logDirectives path

lemma serveDirectives_eq (inv : ServeInvocation) : serveDirectives inv =
    ⟨ascii "Unit", ascii "Description", .text (ascii "Pherry custody daemon (pherry serve)")⟩ ::
      service "ExecStart" (.command [utf8 inv.nodeBin, utf8 inv.script, ascii "serve"]) ::
      service "Restart" (.text (ascii "on-failure")) :: service "RestartSec" (.text (ascii "2")) ::
      service "Environment" (.environment [assignment (ascii "PATH") (utf8 inv.pathEnv)]) ::
      homeDirectives (inv.baseDir.map utf8) (utf8 inv.logPath) := by
  unfold serveDirectives homeDirectives
  cases inv.baseDir <;> rfl

lemma readService_variable {name value : Bytes} (hname : isKey name = true) (hplain : isPlain name)
    (hpercent : 0x25 ∉ name) (hline : IsLine value) (hvalue : isPlain value) (text : Bytes) :
    readService specifiers (environmentLine name value ++ 0x0A :: text) = (readService specifiers text).map
      (service "Environment" (.environment [assignment name value]) :: ·) := by
  rw [readService_environment hname hplain hline.line hvalue, expand_assignment hpercent,
    expand_of_isLiteral hline.literal]
  rfl

lemma serveDirectives_of_fitsUnit {inv : ServeInvocation} (h : FitsUnit inv) :
    load specifiers (utf8 (renderSystemdUnit inv)) = some (serveDirectives inv) := by
  obtain ⟨⟨hnode, hunmarked⟩, hscript, hvariables, hlog, hcont, hlast⟩ := h
  have hpath := hvariables inv.pathEnv List.mem_cons_self
  have hdrop : (utf8 inv.nodeBin).dropWhile isExecPrefix = utf8 inv.nodeBin := by
    cases hbytes : utf8 inv.nodeBin with
    | nil => rfl
    | cons b rest =>
      rw [hbytes] at hunmarked
      exact List.dropWhile_cons_of_neg (by simp [hunmarked b rfl])
  have hserve : expand specifiers (ascii "serve") = ascii "serve" := expand_of_isLiteral (by decide)
  have hhome : readService specifiers (homeLines (inv.baseDir.map utf8) (utf8 inv.logPath)) =
      some (homeDirectives (inv.baseDir.map utf8) (utf8 inv.logPath)) := by
    cases hdir : inv.baseDir with
    | none => exact readService_logLines hlog hcont hlast
    | some dir =>
      have hvalue := hvariables dir (by simp [hdir])
      show readService specifiers (environmentLine (ascii "PHERRY_HOME") (utf8 dir) ++ 0x0A :: _) = _
      rw [readService_variable (by decide) isPlain_names.2 (by decide) hvalue.1 hvalue.2,
        readService_logLines hlog hcont hlast]
      rfl
  rw [load_renderSystemdUnit, readService_execStart hnode.line hscript.line, readService_restart,
    readService_variable (by decide) isPlain_names.1 (by decide) hpath.1 hpath.2, hhome, serveDirectives_eq, hdrop,
    List.map_cons, List.map_cons, List.map_singleton, expand_of_isLiteral hnode.literal,
    expand_of_isLiteral hscript.literal, hserve]
  rfl

lemma fitsUnit_of_serveDirectives {inv : ServeInvocation}
    (h : load noSpecifiers (utf8 (renderSystemdUnit inv)) = some (serveDirectives inv)) : FitsUnit inv := by
  rw [load_renderSystemdUnit, serveDirectives_eq] at h
  have hservice := (rest_of_map h).2
  -- the lines are peeled off one by one
  by_cases hnode : ∀ b ∈ utf8 inv.nodeBin, isLineEnd b = false
  · by_cases hscript : ∀ b ∈ utf8 inv.script, isLineEnd b = false
    · rw [readService_execStart hnode hscript, readService_restart] at hservice
      obtain ⟨hcommand, hrest⟩ := rest_of_map hservice
      have hwords := Setting.command.inj (congrArg Directive.setting hcommand)
      rw [List.map_cons, List.cons_eq_cons, List.map_cons, List.cons_eq_cons] at hwords
      obtain ⟨hdrop, hnodeLiteral⟩ :=
        isLiteral_of_sublist (List.dropWhile_suffix isExecPrefix).sublist hwords.1
      have hscriptLiteral := isLiteral_of_expand hwords.2.1
      obtain ⟨found, hfound, heq⟩ := Option.map_eq_some_iff.1 hrest
      have hpathLine : readService noSpecifiers (environmentLine (ascii "PATH") (utf8 inv.pathEnv) ++ 0x0A ::
          homeLines (inv.baseDir.map utf8) (utf8 inv.logPath)) =
          some (service "Environment" (.environment [assignment (ascii "PATH") (utf8 inv.pathEnv)]) ::
            homeDirectives (inv.baseDir.map utf8) (utf8 inv.logPath)) := by
        rw [hfound, (List.cons_eq_cons.1 (List.cons_eq_cons.1 heq).2).2]
      obtain ⟨hpath, hpathPlain⟩ := isLine_of_readService (by decide) isPlain_names.1 (by decide) hpathLine
      rw [readService_variable (by decide) isPlain_names.1 (by decide) hpath hpathPlain] at hpathLine
      have hhome := (rest_of_map hpathLine).2
      have hunmarked : ∀ b ∈ (utf8 inv.nodeBin).head?, isExecPrefix b = false := by
        intro b hb
        cases hbytes : utf8 inv.nodeBin with
        | nil =>
          rw [hbytes] at hb
          cases hb
        | cons c rest =>
          rw [hbytes, List.head?_cons, Option.mem_some_iff] at hb
          subst hb
          rw [hbytes] at hdrop
          by_contra hexec
          rw [List.dropWhile_cons_of_pos (by simpa using hexec)] at hdrop
          have hle := (List.dropWhile_suffix isExecPrefix (l := rest)).length_le
          rw [hdrop, List.length_cons] at hle
          omega
      suffices hlog : (∀ dir ∈ inv.baseDir, IsLine (utf8 dir) ∧ isPlain (utf8 dir)) ∧
          readService noSpecifiers (logLines (utf8 inv.logPath)) = some (logDirectives (utf8 inv.logPath)) by
        have hlogPath := logPath_of_readService hlog.2
        refine ⟨⟨⟨hnode, hnodeLiteral⟩, hunmarked⟩, ⟨hscript, hscriptLiteral⟩, ?_, hlogPath⟩
        intro value hvalue
        rcases List.mem_cons.1 hvalue with rfl | hdir
        · exact ⟨hpath, hpathPlain⟩
        · exact hlog.1 value (Option.mem_toList.1 hdir)
      cases hdir : inv.baseDir with
      | none =>
        rw [hdir] at hhome
        exact ⟨fun dir hnone => absurd hnone (Option.not_mem_none dir), hhome⟩
      | some dir =>
        rw [hdir] at hhome
        obtain ⟨hline, hplain⟩ := isLine_of_readService (by decide) isPlain_names.2 (by decide) hhome
        have hlog : readService noSpecifiers (environmentLine (ascii "PHERRY_HOME") (utf8 dir) ++ 0x0A ::
            logLines (utf8 inv.logPath)) = _ := hhome
        rw [readService_variable (by decide) isPlain_names.2 (by decide) hline hplain] at hlog
        refine ⟨?_, (rest_of_map hlog).2⟩
        rintro _ ⟨⟩
        exact ⟨hline, hplain⟩
    · rw [readService_execStart_cut (.inr ⟨hnode, hscript⟩)] at hservice
      cases hservice
  · rw [readService_execStart_cut (.inl hnode)] at hservice
    cases hservice

end Pherry.Cli
