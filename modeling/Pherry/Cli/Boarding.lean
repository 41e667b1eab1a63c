import Mathlib.Data.Set.Insert
import Mathlib.Data.List.DropRight
import Pherry.Lib.Machine
import Pherry.TextFile

/-!
# Boarded repositories and the shim

The two lists under the host's directory, the commands that edit them, and the shim that `board` installs for
every agent: a shell script that reads the lists as raw lines.
-/

namespace Pherry.Cli

open Lib

/-! ## The lists -/

/-- A directory as `realpath` names it. -/
structure Realpath where
  text : JsString
  wellFormed : isWellFormed text = true
  absolute : text.head? = some 0x2F

/-- `parseList`. -/
def parseList (text : JsString) : List JsString := ((linesOf text).map trim).filter (· ≠ [])

/-- `readList`. A missing file is empty. -/
def readList (file : Option Bytes) : List JsString := parseList ((file.map readText).getD [])

/-- What `writeList` writes. -/
def writeList (entries : List JsString) : Bytes :=
  utf8 (if entries = [] then [] else joinLines entries ++ [newline])

/-- `addToList`. -/
def addToList (file : Option Bytes) (entry : JsString) : Option Bytes :=
  let entries := readList file
  if entry ∈ entries then file else some (writeList (entries ++ [entry]))

/-- `removeFromList`. -/
def removeFromList (file : Option Bytes) (entry : JsString) : Option Bytes :=
  let entries := readList file
  if entry ∈ entries then some (writeList (entries.filter (· ≠ entry))) else file

/-- `boarded.list` and `anchored.list`. -/
structure BoardFiles where
  boarded : Option Bytes
  anchored : Option Bytes

/-- `pherry board`, `pherry anchor` and `pherry unboard`. -/
inductive BoardCommand
  | board (repo : Realpath)
  | anchor (repo : Realpath)
  | unboard (repo : Realpath)

def BoardCommand.repo : BoardCommand → Realpath
  | .board repo => repo
  | .anchor repo => repo
  | .unboard repo => repo

/-- What `runBoard`, `runAnchor` and `runUnboard` do to the lists. -/
def BoardFiles.run (files : BoardFiles) : BoardCommand → BoardFiles
  | .board repo =>
    ⟨addToList files.boarded repo.text, removeFromList files.anchored repo.text⟩
  | .anchor repo =>
    if repo.text ∈ readList files.boarded then { files with anchored := addToList files.anchored repo.text }
    else files
  | .unboard repo =>
    ⟨removeFromList files.boarded repo.text, removeFromList files.anchored repo.text⟩

/-- The lists of a user, none of which is there at first. -/
def boardMachine : Machine BoardFiles BoardCommand where
  init := ⟨none, none⟩
  step := BoardFiles.run

/-! ## The shim -/

/-- What a shim is called with: the variables that it reads, its terminal, its arguments, and the real agent
that it finds behind itself. -/
structure ShimCall where
  localId : Bytes
  assumeTty : Bytes
  stdinTty : Bool
  stdoutTty : Bool
  args : List Bytes
  realBin : Bytes

/-- What a shim ends with: it hands the launch to the host, executes the real agent, or finds none. -/
inductive ShimOutcome
  | opens
  | runsFree
  | notFound
deriving DecidableEq

/-- The flags that a shim lets through. -/
def passthroughFlags : List Bytes :=
  [ascii "--help", ascii "-h", ascii "--version", ascii "-V", ascii "-v", ascii "--print", ascii "-p"]

/-- `run_free`. -/
def ShimCall.runFree (call : ShimCall) : ShimOutcome := if call.realBin = [] then .notFound else .runsFree

/-- `$(…)` takes away the line breaks at the end. -/
def substituted (output : Bytes) : Bytes := output.rdropWhile (· = 0x0A)

/-- The lines that the loop of the shim looks at. -/
def readLines (file : Bytes) : List Bytes := (file.splitOn 0x0A).filter (· ≠ [])

/-- `case "$cwd/" in "$line"/*)`. -/
def matchesLine (cwd line : Bytes) : Bool := decide (line ++ [0x2F] <+: cwd ++ [0x2F])

/-- The first line that matches. -/
def matchedLine (file cwd : Bytes) : Option Bytes := (readLines file).find? (matchesLine cwd)

/-- `grep -qFx`. -/
def grepLine (file : Option Bytes) (line : Bytes) : Bool :=
  file.any fun bytes => decide (line ∈ bytes.splitOn 0x0A)

/-- The shim, called in a directory. -/
def shim (files : BoardFiles) (directory : Bytes) (call : ShimCall) : ShimOutcome :=
  if call.localId ≠ [] then call.runFree
  else if call.assumeTty = [] ∧ (call.stdinTty = false ∨ call.stdoutTty = false) then call.runFree
  else if call.args.any (· ∈ passthroughFlags) then call.runFree
  else
    match files.boarded with
    | none => call.runFree
    | some boarded =>
      match matchedLine boarded (substituted (directory ++ [0x0A])) with
      | none => call.runFree
      | some matched =>
        if grepLine files.anchored matched then call.runFree
        else if call.realBin = [] then call.runFree
        else .opens

/-- A launch at a terminal, of an agent that is there. -/
structure ShimCall.Interactive (call : ShimCall) : Prop where
  outside : call.localId = []
  terminal : call.assumeTty = [] → call.stdinTty = true ∧ call.stdoutTty = true
  plain : call.args.any (· ∈ passthroughFlags) = false
  found : call.realBin ≠ []

/-! ## What the commands ask for -/

/-- The repositories that are boarded, and those that are anchored. -/
structure Boards where
  boarded : Set JsString
  anchored : Set JsString

/-- What a command asks for: a repository that is boarded is not anchored; only one that is boarded can be
anchored. -/
def Boards.run (boards : Boards) : BoardCommand → Boards
  | .board repo => ⟨insert repo.text boards.boarded, boards.anchored \ {repo.text}⟩
  | .anchor repo => { boards with anchored := boards.anchored ∪ {path | path = repo.text ∧ path ∈ boards.boarded} }
  | .unboard repo => ⟨boards.boarded \ {repo.text}, boards.anchored \ {repo.text}⟩

/-- What a run of commands asks for. -/
def askedFor (commands : List BoardCommand) : Boards := commands.foldl Boards.run ⟨∅, ∅⟩

/-- A directory is a repository or stands below it. -/
def AtOrBelow (directory : Bytes) (repo : JsString) : Prop :=
  directory = utf8 repo ∨ repo = [0x2F] ∨ utf8 repo ++ [0x2F] <+: directory

/-- A list holds the paths of a set, each once and as it is spelled. -/
def Lists (file : Option Bytes) (paths : Set JsString) : Prop :=
  (readList file).Nodup ∧ ∀ path, path ∈ readList file ↔ path ∈ paths

/-- A path that a list keeps: one line, with no white space at its ends. -/
def Keepable (repo : Realpath) : Prop := newline ∉ repo.text ∧ trim repo.text = repo.text

/-- The lists hold what was asked for, and the shim in a directory opens an interactive launch only under a
repository that is boarded and not anchored; no other history of the same sets decides otherwise. -/
structure BoardsAgree (commands : List BoardCommand) (directory : Bytes) : Prop where
  boarded : Lists (boardMachine.run commands).boarded (askedFor commands).boarded
  anchored : Lists (boardMachine.run commands).anchored (askedFor commands).anchored
  under : ∀ call, shim (boardMachine.run commands) directory call = .opens →
    ∃ repo ∈ (askedFor commands).boarded, repo ∉ (askedFor commands).anchored ∧ AtOrBelow directory repo
  decided : ∀ call, shim (boardMachine.run commands) directory call = .opens ↔ call.Interactive ∧
    ∃ repo ∈ (askedFor commands).boarded, repo ∉ (askedFor commands).anchored ∧
      matchesLine directory (utf8 repo) = true
  ordered : ∀ others : List BoardCommand, (∀ command ∈ others, Keepable command.repo) →
    askedFor others = askedFor commands → ∀ call,
      shim (boardMachine.run others) directory call = shim (boardMachine.run commands) directory call

/-- A directory for which the order does not matter: the repositories it lies in are all anchored or none is,
and its name is not that of a boarded one with line breaks behind it. -/
structure Unmixed (boards : Boards) (directory : Bytes) : Prop where
  uniform : ∀ repo ∈ boards.boarded, ∀ other ∈ boards.boarded, matchesLine directory (utf8 repo) = true →
    matchesLine directory (utf8 other) = true → (repo ∈ boards.anchored ↔ other ∈ boards.anchored)
  whole : substituted directory = directory ∨ ∀ repo ∈ boards.boarded, utf8 repo ≠ substituted directory

/-! ## What a list keeps -/

/-- An entry that is read as it was written. -/
structure IsEntry (entry : JsString) : Prop where
  wellFormed : isWellFormed entry = true
  line : newline ∉ entry
  trimmed : trim entry = entry
  ne_nil : entry ≠ []

lemma Keepable.isEntry {repo : Realpath} (h : Keepable repo) : IsEntry repo.text := by
  refine ⟨repo.wellFormed, h.1, h.2, fun hnil => ?_⟩
  have habsolute := repo.absolute
  rw [hnil] at habsolute
  cases habsolute

/-- A file and the entries that were written to it. -/
structure Kept (file : Option Bytes) (entries : List JsString) : Prop where
  written : file = some (writeList entries) ∨ file = none ∧ entries = []
  entry : ∀ entry ∈ entries, IsEntry entry
  nodup : entries.Nodup

lemma isWellFormed_writeList {entries : List JsString} (h : ∀ entry ∈ entries, IsEntry entry) :
    isWellFormed (if entries = [] then [] else joinLines entries ++ [newline]) = true := by
  split
  · rfl
  · refine isWellFormed_both ?_ rfl
    rw [isWellFormed_joinLines, List.all_eq_true]
    exact fun entry hentry => (h entry hentry).wellFormed

lemma parseList_write {entries : List JsString} (h : ∀ entry ∈ entries, IsEntry entry) :
    parseList (if entries = [] then [] else joinLines entries ++ [newline]) = entries := by
  by_cases hempty : entries = []
  · rw [if_pos hempty, hempty]
    rfl
  · have hlines : linesOf (joinLines entries ++ [newline]) = entries ++ [[]] := by
      rw [linesOf_append, linesOf_joinLines hempty fun entry hentry => (h entry hentry).line]
      rfl
    have htrim : entries.map trim = entries := by
      conv_rhs => rw [← List.map_id entries]
      exact List.map_congr_left fun entry hentry => (h entry hentry).trimmed
    have hkept : entries.filter (· ≠ []) = entries :=
      List.filter_eq_self.2 fun entry hentry => decide_eq_true (h entry hentry).ne_nil
    rw [if_neg hempty, parseList, hlines, List.map_append, htrim, List.filter_append, hkept]
    exact List.append_nil _

lemma Kept.readList {file : Option Bytes} {entries : List JsString} (h : Kept file entries) :
    readList file = entries := by
  rcases h.written with rfl | ⟨rfl, rfl⟩
  · rw [Cli.readList, Option.map_some, Option.getD_some, writeList,
      readText_utf8 (isWellFormed_writeList h.entry), parseList_write h.entry]
  · rfl

lemma Kept.add {file : Option Bytes} {entries : List JsString} (h : Kept file entries) {entry : JsString}
    (hentry : IsEntry entry) :
    Kept (addToList file entry) (if entry ∈ entries then entries else entries ++ [entry]) := by
  rw [addToList, h.readList]
  split
  · exact h
  · next hnew =>
    refine ⟨.inl rfl, fun e he => ?_, ?_⟩
    · rcases List.mem_append.1 he with he | he
      · exact h.entry e he
      · rw [List.mem_singleton.1 he]
        exact hentry
    · rw [List.nodup_append]
      refine ⟨h.nodup, List.pairwise_singleton _ _, fun a ha b hb hab => ?_⟩
      rw [List.mem_singleton.1 hb] at hab
      exact hnew (hab ▸ ha)

lemma Kept.remove {file : Option Bytes} {entries : List JsString} (h : Kept file entries) (entry : JsString) :
    Kept (removeFromList file entry) (entries.filter (· ≠ entry)) := by
  rw [removeFromList, h.readList]
  split
  · exact ⟨.inl rfl, fun e he => h.entry e (List.mem_of_mem_filter he), h.nodup.filter _⟩
  · next habsent =>
    have hsame : entries.filter (· ≠ entry) = entries :=
      List.filter_eq_self.2 fun e he => decide_eq_true fun heq => habsent (heq ▸ he)
    rw [hsame]
    exact h

lemma mem_addEntry {entries : List JsString} {entry path : JsString} :
    path ∈ (if entry ∈ entries then entries else entries ++ [entry]) ↔ path = entry ∨ path ∈ entries := by
  split
  · next hmem => exact (or_iff_right_of_imp fun heq => heq ▸ hmem).symm
  · rw [List.mem_append, List.mem_singleton, or_comm]

lemma mem_removeEntry {entries : List JsString} {entry path : JsString} :
    path ∈ entries.filter (· ≠ entry) ↔ path ∈ entries ∧ path ≠ entry := by
  rw [List.mem_filter, decide_eq_true_eq]

/-- The lists hold the sets. -/
structure Holds (files : BoardFiles) (boards : Boards) : Prop where
  boarded : ∃ entries, Kept files.boarded entries ∧ ∀ path, path ∈ entries ↔ path ∈ boards.boarded
  anchored : ∃ entries, Kept files.anchored entries ∧ ∀ path, path ∈ entries ↔ path ∈ boards.anchored

lemma Holds.run {files : BoardFiles} {boards : Boards} (h : Holds files boards) {command : BoardCommand}
    (hkeep : Keepable command.repo) : Holds (files.run command) (boards.run command) := by
  obtain ⟨boarded, hboarded, hboarded'⟩ := h.boarded
  obtain ⟨anchored, hanchored, hanchored'⟩ := h.anchored
  cases command with
  | board repo =>
    refine ⟨⟨_, hboarded.add hkeep.isEntry, fun path => ?_⟩, ⟨_, hanchored.remove repo.text, fun path => ?_⟩⟩
    · rw [mem_addEntry, hboarded']
      exact Iff.rfl
    · rw [mem_removeEntry, hanchored']
      exact Iff.rfl
  | anchor repo =>
    rw [BoardFiles.run, hboarded.readList]
    split
    · next hmem =>
      refine ⟨⟨boarded, hboarded, hboarded'⟩, ⟨_, hanchored.add hkeep.isEntry, fun path => ?_⟩⟩
      rw [mem_addEntry, hanchored', or_comm]
      refine or_congr Iff.rfl ⟨fun heq => ⟨heq, ?_⟩, And.left⟩
      rw [heq]
      exact (hboarded' _).1 hmem
    · next habsent =>
      refine ⟨⟨boarded, hboarded, hboarded'⟩, ⟨anchored, hanchored, fun path => ?_⟩⟩
      rw [hanchored']
      refine (or_iff_left ?_).symm
      rintro ⟨rfl, hmem⟩
      exact habsent ((hboarded' _).2 hmem)
  | unboard repo =>
    refine ⟨⟨_, hboarded.remove repo.text, fun path => ?_⟩, ⟨_, hanchored.remove repo.text, fun path => ?_⟩⟩
    · rw [mem_removeEntry, hboarded']
      exact Iff.rfl
    · rw [mem_removeEntry, hanchored']
      exact Iff.rfl

lemma holds_run {commands : List BoardCommand} (h : ∀ command ∈ commands, Keepable command.repo) :
    Holds (boardMachine.run commands) (askedFor commands) := by
  induction commands using List.reverseRecOn with
  | nil => exact ⟨⟨[], ⟨.inr ⟨rfl, rfl⟩, by simp, List.nodup_nil⟩, by simp [askedFor]⟩,
      ⟨[], ⟨.inr ⟨rfl, rfl⟩, by simp, List.nodup_nil⟩, by simp [askedFor]⟩⟩
  | append_singleton commands command ih =>
    have hbefore := ih fun c hc => h c (List.mem_append_left _ hc)
    have hlast := h command (List.mem_append_right _ (List.mem_singleton.2 rfl))
    rw [Machine.run_snoc, askedFor, List.foldl_append]
    exact hbefore.run hlast

lemma lists_of_kept {file : Option Bytes} {paths : Set JsString}
    (h : ∃ entries, Kept file entries ∧ ∀ path, path ∈ entries ↔ path ∈ paths) : Lists file paths := by
  obtain ⟨entries, hkept, hmem⟩ := h
  rw [Lists, hkept.readList]
  exact ⟨hkept.nodup, hmem⟩

/-! ## What the shim reads -/

lemma splitOn_writeList {entries : List JsString} (h : ∀ entry ∈ entries, IsEntry entry) :
    (writeList entries).splitOn 0x0A = entries.map utf8 ++ [[]] := by
  have hjoined : ∀ {lines : List JsString}, lines ≠ [] → (∀ entry ∈ lines, IsEntry entry) →
      (utf8 (joinLines lines ++ [newline])).splitOn 0x0A = lines.map utf8 ++ [[]] := by
    intro lines hne hlines
    induction lines with
    | nil => exact absurd rfl hne
    | cons line lines ih =>
      have hline := hlines line List.mem_cons_self
      have hone : (utf8 line).splitOn 0x0A = [utf8 line] :=
        List.splitOn_eq_singleton (newline_not_mem_utf8 hline.wellFormed hline.line)
      cases hrest : lines with
      | nil =>
        rw [joinLines_singleton, utf8_append_newline, List.splitOn_append_cons_self, hone]
        rfl
      | cons next rest =>
        have hcons : next :: rest ≠ [] := List.cons_ne_nil _ _
        rw [hrest] at ih
        rw [joinLines_cons hcons, List.append_assoc, List.cons_append, utf8_append_newline,
          List.splitOn_append_cons_self, hone,
          ih hcons fun entry hentry => hlines entry (by rw [hrest]; exact List.mem_cons_of_mem _ hentry)]
        rfl
  unfold writeList
  split
  · next hempty =>
    rw [hempty]
    rfl
  · next hne => exact hjoined hne h

lemma readLines_writeList {entries : List JsString} (h : ∀ entry ∈ entries, IsEntry entry) :
    readLines (writeList entries) = entries.map utf8 := by
  rw [readLines, splitOn_writeList h, List.filter_append]
  have hkept : (entries.map utf8).filter (· ≠ []) = entries.map utf8 := by
    refine List.filter_eq_self.2 fun line hline => decide_eq_true ?_
    obtain ⟨entry, hentry, rfl⟩ := List.mem_map.1 hline
    exact utf8_ne_nil (h entry hentry).ne_nil
  rw [hkept]
  exact List.append_nil _

lemma grepLine_iff {file : Option Bytes} {entries : List JsString} (h : Kept file entries) {path : JsString}
    (hpath : IsEntry path) : grepLine file (utf8 path) = true ↔ path ∈ entries := by
  have hne : utf8 path ≠ [] := utf8_ne_nil hpath.ne_nil
  rcases h.written with rfl | ⟨rfl, rfl⟩
  · rw [grepLine, Option.any_some, decide_eq_true_eq, splitOn_writeList h.entry, List.mem_append, List.mem_singleton,
      or_iff_left hne, List.mem_map]
    constructor
    · rintro ⟨entry, hentry, heq⟩
      rwa [← utf8_inj (h.entry entry hentry).wellFormed hpath.wellFormed heq]
    · exact fun hmem => ⟨path, hmem, rfl⟩
  · simp [grepLine]

lemma matchesLine_append_break {front line : Bytes} (rest : Bytes) (hline : 0x0A ∉ line) (hne : line ≠ front) :
    matchesLine front line = matchesLine (front ++ 0x0A :: rest) line := by
  rw [matchesLine, matchesLine, decide_eq_decide]
  constructor
  · intro hprefix
    rcases List.prefix_concat_iff.1 hprefix with heq | hbelow
    · exact absurd (List.append_cancel_right heq) hne
    · exact (hbelow.trans (List.prefix_append _ _)).trans (List.prefix_append _ _)
  · rintro ⟨behind, hbehind⟩
    rw [List.append_assoc front] at hbehind
    rcases List.append_eq_append_iff.1 hbehind with ⟨more, hfront, -⟩ | ⟨more, hfront, hmore⟩
    · rw [hfront, List.append_assoc]
      exact List.prefix_append _ _
    · cases more with
      | nil =>
        rw [List.append_nil] at hfront
        rw [hfront]
        exact List.prefix_append _ _
      | cons next more =>
        -- the line would go on with a line break
        rw [List.cons_append, List.cons_append, List.cons.injEq] at hmore
        have hmem : 0x0A ∈ line ++ [0x2F] := by rw [hfront, ← hmore.1]; simp
        rcases List.mem_append.1 hmem with hmem | hmem
        · exact absurd hmem hline
        · exact absurd (List.mem_singleton.1 hmem) (by decide)

/-- Line breaks at the end of a directory's name hide it from no list, unless the rest of it is listed. -/
lemma matchesLine_substituted {directory line : Bytes} (hline : 0x0A ∉ line)
    (hwhole : substituted directory = directory ∨ line ≠ substituted directory) :
    matchesLine (substituted directory) line = matchesLine directory line := by
  rcases hwhole with hwhole | hwhole
  · rw [hwhole]
  · have hsplit : substituted directory ++ directory.rtakeWhile (fun b => decide (b = 0x0A)) = directory :=
      List.rdropWhile_append_rtakeWhile
    cases hbreaks : directory.rtakeWhile (fun b => decide (b = 0x0A)) with
    | nil =>
      rw [hbreaks, List.append_nil] at hsplit
      rw [hsplit]
    | cons first rest =>
      have hmem : first ∈ directory.rtakeWhile (fun b => decide (b = 0x0A)) := by
        rw [hbreaks]
        exact List.mem_cons_self
      have hfirst := of_decide_eq_true (List.mem_rtakeWhile_imp (p := fun b => decide (b = 0x0A)) hmem)
      rw [hbreaks, hfirst] at hsplit
      conv_rhs => rw [← hsplit]
      exact matchesLine_append_break rest hline hwhole

lemma atOrBelow_of_matchesLine {directory : Bytes} {repo : JsString}
    (h : matchesLine directory (utf8 repo) = true) : AtOrBelow directory repo := by
  rw [matchesLine, decide_eq_true_eq, List.prefix_concat_iff] at h
  rcases h with heq | hbelow
  · exact .inl (List.append_cancel_right heq).symm
  · exact .inr (.inr hbelow)

/-! ## What the shim decides -/

lemma runFree_ne_opens (call : ShimCall) : call.runFree ≠ .opens := by
  unfold ShimCall.runFree
  split <;> decide

lemma shim_eq (files : BoardFiles) (directory : Bytes) (call : ShimCall) :
    shim files directory call = .opens ∨ shim files directory call = call.runFree := by
  unfold shim
  repeat' split
  all_goals first
    | exact .inr rfl
    | exact .inl rfl

lemma shim_opens_iff {files : BoardFiles} {directory : Bytes} {call : ShimCall} :
    shim files directory call = .opens ↔ call.Interactive ∧ ∃ boarded matched, files.boarded = some boarded ∧
      matchedLine boarded (substituted directory) = some matched ∧ grepLine files.anchored matched = false := by
  have hsubstituted : substituted (directory ++ [0x0A]) = substituted directory := List.rdropWhile_concat_pos _ _ _ rfl
  have hfree := runFree_ne_opens call
  constructor
  · intro hopens
    unfold shim at hopens
    rw [hsubstituted] at hopens
    split at hopens
    · exact absurd hopens hfree
    next houtside =>
    split at hopens
    · exact absurd hopens hfree
    next hterminal =>
    split at hopens
    · exact absurd hopens hfree
    next hplain =>
    split at hopens
    · exact absurd hopens hfree
    next boarded hboarded =>
    split at hopens
    · exact absurd hopens hfree
    next matched hmatched =>
    split at hopens
    · exact absurd hopens hfree
    next hgrep =>
    split at hopens
    · exact absurd hopens hfree
    next hfound =>
    refine ⟨⟨not_not.1 houtside, fun htty => ?_, Bool.eq_false_iff.2 hplain, hfound⟩, boarded, matched, hboarded,
      hmatched, Bool.eq_false_iff.2 hgrep⟩
    rw [not_and_or, not_or, Bool.not_eq_false, Bool.not_eq_false] at hterminal
    exact hterminal.resolve_left (not_not.2 htty)
  · rintro ⟨hinteractive, boarded, matched, hboarded, hmatched, hgrep⟩
    have hterminal : ¬ (call.assumeTty = [] ∧ (call.stdinTty = false ∨ call.stdoutTty = false)) := by
      rintro ⟨htty, hnone⟩
      rw [(hinteractive.terminal htty).1, (hinteractive.terminal htty).2] at hnone
      simp at hnone
    unfold shim
    rw [hsubstituted, if_neg (not_not.2 hinteractive.outside), if_neg hterminal,
      if_neg (Bool.eq_false_iff.1 hinteractive.plain), hboarded]
    dsimp only
    rw [hmatched]
    dsimp only
    rw [if_neg (Bool.eq_false_iff.1 hgrep), if_neg hinteractive.found]

lemma decided_of_holds {files : BoardFiles} {boards : Boards} {directory : Bytes} (h : Holds files boards)
    (hunmixed : Unmixed boards directory) (call : ShimCall) :
    shim files directory call = .opens ↔ call.Interactive ∧
      ∃ repo ∈ boards.boarded, repo ∉ boards.anchored ∧ matchesLine directory (utf8 repo) = true := by
  obtain ⟨boarded, hboarded, hboarded'⟩ := h.boarded
  obtain ⟨anchored, hanchored, hanchored'⟩ := h.anchored
  have hsame : ∀ repo ∈ boarded, matchesLine (substituted directory) (utf8 repo) = matchesLine directory (utf8 repo) := by
    intro repo hrepo
    have hentry := hboarded.entry repo hrepo
    exact matchesLine_substituted (newline_not_mem_utf8 hentry.wellFormed hentry.line)
      (hunmixed.whole.imp_right fun hnone => hnone repo ((hboarded' repo).1 hrepo))
  rw [shim_opens_iff]
  refine and_congr Iff.rfl ?_
  constructor
  · rintro ⟨file, matched, hfile, hmatched, hgrep⟩
    rcases hboarded.written with hwritten | ⟨hnone, -⟩
    · rw [hwritten, Option.some_inj] at hfile
      rw [← hfile, matchedLine, readLines_writeList hboarded.entry] at hmatched
      obtain ⟨repo, hrepo, rfl⟩ := List.mem_map.1 (List.mem_of_find?_eq_some hmatched)
      have hmatches := List.find?_some hmatched
      rw [hsame repo hrepo] at hmatches
      refine ⟨repo, (hboarded' repo).1 hrepo, fun hrest => ?_, hmatches⟩
      rw [(grepLine_iff hanchored (hboarded.entry repo hrepo)).2 ((hanchored' repo).2 hrest)] at hgrep
      cases hgrep
    · rw [hnone] at hfile
      cases hfile
  · rintro ⟨repo, hrepo, hfree, hmatches⟩
    have hmem := (hboarded' repo).2 hrepo
    rcases hboarded.written with hwritten | ⟨-, hempty⟩
    · -- the first repository that matches is as free as this one
      have hsome : ((boarded.map utf8).find? (matchesLine (substituted directory))).isSome = true :=
        List.find?_isSome.2 ⟨utf8 repo, List.mem_map_of_mem hmem, by rw [hsame repo hmem]; exact hmatches⟩
      obtain ⟨matched, hmatched⟩ := Option.isSome_iff_exists.1 hsome
      obtain ⟨other, hother, rfl⟩ := List.mem_map.1 (List.mem_of_find?_eq_some hmatched)
      have hfirst := List.find?_some hmatched
      rw [hsame other hother] at hfirst
      refine ⟨_, utf8 other, hwritten, ?_, ?_⟩
      · rw [matchedLine, readLines_writeList hboarded.entry]
        exact hmatched
      · rw [Bool.eq_false_iff, ne_eq, grepLine_iff hanchored (hboarded.entry other hother), hanchored']
        exact fun hrest => hfree ((hunmixed.uniform other ((hboarded' other).1 hother) repo hrepo hfirst hmatches).1 hrest)
    · rw [hempty] at hmem
      cases hmem

/-- The lists and the shim agree in every run of commands on paths that a list keeps, in a directory for which
the order does not matter. -/
theorem boardsAgree_of_keepable {commands : List BoardCommand} {directory : Bytes}
    (hkeep : ∀ command ∈ commands, Keepable command.repo) (hunmixed : Unmixed (askedFor commands) directory) :
    BoardsAgree commands directory := by
  have hholds := holds_run hkeep
  have hdecided := decided_of_holds hholds hunmixed
  refine ⟨lists_of_kept hholds.boarded, lists_of_kept hholds.anchored, fun call hopens => ?_, hdecided,
    fun others hothers hsame call => ?_⟩
  · obtain ⟨-, repo, hrepo, hfree, hmatches⟩ := (hdecided call).1 hopens
    exact ⟨repo, hrepo, hfree, atOrBelow_of_matchesLine hmatches⟩
  · have hother := holds_run hothers
    rw [hsame] at hother
    have hiff := (decided_of_holds hother hunmixed call).trans (hdecided call).symm
    rcases shim_eq (boardMachine.run others) directory call with hopens | hfree
    · rw [hopens, hiff.1 hopens]
    · rcases shim_eq (boardMachine.run commands) directory call with hopens | hfree'
      · rw [hopens, hiff.2 hopens]
      · rw [hfree, hfree']

/-- A repository, and one whose name ends with a space. -/
def someRepo : Realpath := ⟨js "/w", isWellFormed_js _, rfl⟩

def spacedRepo : Realpath := ⟨js "/w ", isWellFormed_js _, rfl⟩

theorem boardsAgree_anchored : BoardsAgree [.board someRepo, .anchor someRepo] (ascii "/w/src") := by
  have honly : ∀ repo ∈ (askedFor [.board someRepo, .anchor someRepo]).boarded, repo = someRepo.text := by
    rintro repo (rfl | hnone)
    · rfl
    · exact absurd hnone (Set.notMem_empty _)
  refine boardsAgree_of_keepable (fun command hcommand => ?_) ⟨fun repo hrepo other hother _ _ => ?_, .inl (by decide)⟩
  · have hkeep : Keepable someRepo := ⟨by decide, by decide⟩
    simp only [List.mem_cons, List.not_mem_nil, or_false] at hcommand
    rcases hcommand with rfl | rfl <;> exact hkeep
  · rw [honly repo hrepo, honly other hother]

/-- A name that ends with a space is read back without it. -/
theorem not_boardsAgree_spaced : ¬ BoardsAgree [.board spacedRepo] (ascii "/") := by
  intro h
  have hread : readList (boardMachine.run [.board spacedRepo]).boarded = [js "/w"] := by decide
  have hmem := (h.boarded.2 spacedRepo.text).2 (Set.mem_insert _ _)
  rw [hread] at hmem
  exact absurd hmem (by decide)

end Pherry.Cli
