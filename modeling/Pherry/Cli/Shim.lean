import Mathlib.Data.List.TakeWhile
import Pherry.Cli.Open
import Pherry.Lib.Separated

/-!
# The shim

The script that `renderShimScript` writes: how it takes its own directory out of `PATH`, what it runs bare, and what it
hands to `pherry open`.
-/

namespace Pherry.Cli

open Lib Host

/-! ## The shell -/

/-- A word is subject to pathname expansion. -/
def isPattern (word : JsString) : Bool := word.any fun u => u == 0x2A || u == 0x3F || u == 0x5B

/-- The fields of an unquoted `$PATH` where `IFS` is a colon: the last one is ended by nothing. -/
def fields (path : JsString) : List JsString :=
  let parts := path.splitOn pathDelimiter
  if parts.getLast? = some [] then parts.dropLast else parts

/-- The path of a program in a directory of a path; an empty directory is the working directory. -/
def candidate (name dir : JsString) : JsString := if dir = [] then js "./" ++ name else dir ++ js "/" ++ name

/-- `command -v`, with this `PATH`. -/
def commandV (isExecutable : JsString → Bool) (path name : JsString) : Option JsString :=
  ((path.splitOn pathDelimiter).map (candidate name)).find? isExecutable

/-! ## The script -/

/-- What a run of a shim finds: the variables that the script reads, what the shell makes of a pattern, whether there is
a terminal, the lists of `pherry board`, and what is executable. -/
structure ShimRun where
  path : JsString
  home : JsString
  pherryHome : JsString
  localId : JsString
  assumeTty : JsString
  isTty : Bool
  args : List JsString
  cwd : JsString
  boarded : Option (List JsString)
  anchored : List JsString
  paths : JsString → List JsString
  isExecutable : JsString → Bool

namespace ShimRun

variable (w : ShimRun)

/-- `shim_dir`. -/
def shimDir : JsString :=
  (if w.pherryHome = [] then w.home ++ js "/.pherry" else w.pherryHome) ++ js "/shims"

/-- Pathname expansion: a pattern that nothing matches stays as it is. -/
def expand (word : JsString) : List JsString :=
  if isPattern word && w.paths word != [] then w.paths word else [word]

/-- One turn of the loop that rebuilds `PATH`. -/
def addDir (realPath dir : JsString) : JsString :=
  if dir = w.shimDir then realPath
  else if realPath ≠ [] then realPath ++ [pathDelimiter] ++ dir
  else dir

/-- `real_path`. -/
def realPath : JsString := ((fields w.path).flatMap w.expand).foldl w.addDir []

/-- `real_bin`. -/
def realBin (agent : JsString) : Option JsString := commandV w.isExecutable w.realPath agent

/-- A flag that passes an agent through. -/
def passthrough : List JsString :=
  [js "--help", js "-h", js "--version", js "-V", js "-v", js "--print", js "-p"]

/-- The entry of the boarded list that the working directory is at or under. -/
def matched : Option JsString :=
  (w.boarded.getD []).find? fun line => line ≠ [] ∧ line ++ js "/" <+: w.cwd ++ js "/"

/-- What the script ends in: the real binary, `pherry open` with it to fall back on, or 127. -/
inductive Outcome
  | exec (bin : JsString)
  | open (execFallback : JsString)
  | notFound

/-- `run_free`. -/
def runFree (agent : JsString) : Outcome :=
  match w.realBin agent with
  | none => .notFound
  | some bin => .exec bin

/-- Whether the ladder lets a launch through to the real binary. -/
def letsThrough : Bool :=
  w.localId != [] || (w.assumeTty == [] && !w.isTty) || w.args.any (passthrough.contains ·) ||
    match w.matched with
    | none => true
    | some line => w.anchored.contains line

/-- The script of an agent. -/
def script (agent : JsString) : Outcome :=
  if w.letsThrough then w.runFree agent
  else
    match w.realBin agent with
    | none => w.runFree agent
    | some bin => .open bin

end ShimRun

/-! ## The law -/

/-- A shim and the CLI behind it on one file system: the file that a path names, and which files are of the shim
directory. What is executable is whatever is there. -/
structure ShimWorld (φ : Type) where
  shim : ShimRun
  launch : LaunchWorld
  file : JsString → φ
  isShim : φ → Bool
  named : launch.shims ≠ []

namespace ShimWorld

variable {φ : Type} (w : ShimWorld φ) (agent : AgentAdapter)

/-- The script where these files are executable. -/
def run (present : φ → Bool) : ShimRun := { w.shim with isExecutable := present ∘ w.file }

/-- The `PATH` that `runOpen` gives the child. -/
def childPath : JsString :=
  ((buildSpec [] [] ⟨w.launch, [], 0, 0⟩).env.get (js "PATH")).getD []

/-- The `PATH` that the launch hooks probe. -/
def probePath : JsString := (w.launch.shimFreeEnv.get (js "PATH")).getD []

/-- The agent in a directory is a shim. -/
def names (dir : JsString) : Bool := w.isShim (w.file (candidate agent.id dir))

/-- The other directories of `PATH`. -/
def others : List JsString := (w.shim.path.splitOn pathDelimiter).filter fun dir => !w.names agent dir

/-- No launch of the agent comes back to a shim, whatever is executable, and the other directories stay in order. -/
structure ShimFree : Prop where
  script : ∀ present bin, (w.run present).script agent.id = .exec bin ∨ (w.run present).script agent.id = .open bin →
    w.isShim (w.file bin) = false
  child : ∀ present : φ → Bool, ∀ bin, commandV (present ∘ w.file) w.childPath agent.id = some bin →
    w.isShim (w.file bin) = false
  detected : ∀ present : φ → Bool, ∀ bin,
    detect w.launch.join (present ∘ w.file) agent.id w.probePath = some bin → w.isShim (w.file bin) = false
  searched : (w.others agent).Sublist (w.shim.realPath.splitOn pathDelimiter)
  given : (w.others agent).Sublist (w.childPath.splitOn pathDelimiter)

/-- The directories that are left of `PATH`. -/
def left : List JsString := (w.shim.path.splitOn pathDelimiter).filter (· ≠ w.launch.shims)

/-- The shim directory is spelled as both say, alone and only so; an empty directory is lost at neither end. -/
structure Spelled : Prop where
  spelled : ∀ dir ∈ w.shim.path.splitOn pathDelimiter,
    (w.names agent dir = true ↔ dir = w.shim.shimDir) ∧ (w.names agent dir = true ↔ dir = w.launch.shims)
  joined : ∀ dir ∈ w.left, dir ≠ [] → w.isShim (w.file (w.launch.join dir agent.bin)) = false
  alone : w.left = [] → w.names agent [] = false
  inside : w.left = [] ∨ w.left = [[]] ∨
    w.left.head? ≠ some [] ∧ (w.shim.path.splitOn pathDelimiter).getLast? ≠ some []

end ShimWorld

/-! ## What is found -/

lemma forall_find_iff {φ : Type} (file : JsString → φ) (isShim : φ → Bool) (paths : List JsString) :
    (∀ present : φ → Bool, ∀ bin, paths.find? (present ∘ file) = some bin → isShim (file bin) = false) ↔
      ∀ path ∈ paths, isShim (file path) = false := by
  constructor
  · intro h path hpath
    by_contra hshim
    -- the shims alone may be executable
    obtain ⟨bin, hbin⟩ := Option.isSome_iff_exists.1
      (List.find?_isSome.2 ⟨path, hpath, Bool.eq_true_of_not_eq_false hshim⟩ :
        (paths.find? (isShim ∘ file)).isSome = true)
    have hfound : (isShim ∘ file) bin = true := List.find?_some hbin
    rw [Function.comp_apply] at hfound
    rw [h isShim bin hbin] at hfound
    cases hfound
  · intro h present bin hbin
    exact h bin (List.mem_of_find?_eq_some hbin)


lemma mem_splitOn_of_mem_fields {path dir : JsString} (h : dir ∈ fields path) : dir ∈ path.splitOn pathDelimiter := by
  rw [fields] at h
  split at h
  · exact List.mem_of_mem_dropLast h
  · exact h

lemma mem_fields {path dir : JsString} (h : dir ∈ path.splitOn pathDelimiter) (hne : dir ≠ []) : dir ∈ fields path := by
  rw [fields]
  split
  · next hlast =>
    obtain ⟨front, hfront⟩ := List.getLast?_eq_some_iff.1 hlast
    rw [hfront] at h ⊢
    rw [List.dropLast_concat]
    exact (List.mem_append.1 h).resolve_right fun hend => hne (List.mem_singleton.1 hend)
  · exact h

namespace ShimRun

variable (w : ShimRun)

lemma shimDir_ne_nil : w.shimDir ≠ [] := by
  have hslash : js "/shims" ≠ [] := by decide
  simp [shimDir, hslash]

lemma script_eq (agent bin : JsString) :
    w.script agent = .exec bin ∨ w.script agent = .open bin ↔ w.realBin agent = some bin := by
  rw [script, runFree]
  cases w.realBin agent with
  | none => simp
  | some found =>
    split
    · simp
    · simp

/-- The directories that the loop has gone over: the empty ones in front leave nothing. -/
lemma foldl_addDir (dirs : List JsString) :
    dirs.foldl w.addDir [] =
      [pathDelimiter].intercalate ((dirs.filter (· ≠ w.shimDir)).dropWhile (· = [])) := by
  induction dirs using List.reverseRecOn with
  | nil => rfl
  | append_singleton dirs dir ih =>
    rw [List.foldl_append, List.foldl_cons, List.foldl_nil, ih, addDir, List.filter_append]
    by_cases hown : dir = w.shimDir
    · have hnone : [dir].filter (· ≠ w.shimDir) = [] := by simp [hown]
      rw [if_pos hown, hnone, List.append_nil]
    · have hkept : [dir].filter (· ≠ w.shimDir) = [dir] := by simp [hown]
      rw [if_neg hown, hkept, List.dropWhile_append]
      cases hrest : (dirs.filter (· ≠ w.shimDir)).dropWhile (· = []) with
      | nil =>
        rw [List.intercalate_nil, if_neg (by simp), if_pos (by simp)]
        by_cases hempty : dir = []
        · simp [hempty]
        · simp [hempty]
      | cons first rest =>
        -- what is left starts with a directory that is not empty
        have hfirst : first ≠ [] := by
          have hhead := List.head?_dropWhile_not (fun dir => decide (dir = ([] : JsString))) (dirs.filter (· ≠ w.shimDir))
          rw [hrest] at hhead
          simpa using hhead
        have hjoined : [pathDelimiter].intercalate (first :: rest) ≠ [] := by
          cases rest with
          | nil => simpa using hfirst
          | cons next rest => simp [List.intercalate_cons_cons, hfirst]
        rw [if_pos hjoined, if_neg (by simp), intercalate_append (List.cons_ne_nil first rest) (List.cons_ne_nil dir [])]
        simp

lemma realPath_eq (hplain : ∀ word ∈ fields w.path, w.expand word = [word]) :
    w.realPath = [pathDelimiter].intercalate (((fields w.path).filter (· ≠ w.shimDir)).dropWhile (· = [])) := by
  rw [realPath, List.flatMap_congr hplain, List.flatMap_singleton', foldl_addDir]

end ShimRun

namespace ShimWorld

variable {φ : Type} {w : ShimWorld φ} {agent : AgentAdapter}

lemma probePath_eq (hpath : w.launch.env.get (js "PATH") = some w.shim.path) :
    w.probePath = [pathDelimiter].intercalate w.left := by
  have hkept : (envForSpawn w.launch.env).get (js "PATH") = some w.shim.path := by
    rw [get_envForSpawn w.launch.env (by decide), hpath]
  rw [probePath, LaunchWorld.shimFreeEnv, hkept]
  simp only [Env.get_set_self, Option.getD_some]
  rfl

lemma childPath_eq (hpath : w.launch.env.get (js "PATH") = some w.shim.path) :
    w.childPath = [pathDelimiter].intercalate w.left := by
  rw [← probePath_eq hpath, childPath, buildSpec, probePath]
  rw [Env.get_set_ne _ (by decide)]

/-- What a search path of these directories is read as. -/
def listed (dirs : List JsString) : List JsString := if dirs = [] then [[]] else dirs

lemma mem_listed {dirs : List JsString} {dir : JsString} (h : dir ∈ dirs) : dir ∈ listed dirs := by
  rw [listed, if_neg (List.ne_nil_of_mem h)]
  exact h

lemma eq_nil_of_mem_listed {dirs : List JsString} {dir : JsString} (h : dir ∈ listed dirs) (hnot : dir ∉ dirs) :
    dir = [] ∧ dirs = [] := by
  rw [listed] at h
  split at h
  · next hnil => exact ⟨List.mem_singleton.1 h, hnil⟩
  · exact absurd h hnot

lemma splitOn_left (w : ShimWorld φ) :
    ([pathDelimiter].intercalate w.left).splitOn pathDelimiter = listed w.left :=
  splitOn_intercalate_eq fun _ hdir => not_mem_of_mem_splitOn (List.mem_of_mem_filter hdir)

/-- The directories that the loop leaves, where the two agree on what is the shim directory. -/
def remaining (w : ShimWorld φ) : List JsString :=
  (if (w.shim.path.splitOn pathDelimiter).getLast? = some [] then w.left.dropLast else w.left).dropWhile (· = [])

lemma filter_fields (hspelled : ∀ dir ∈ w.shim.path.splitOn pathDelimiter, dir = w.shim.shimDir ↔ dir = w.launch.shims) :
    ((fields w.shim.path).filter (· ≠ w.shim.shimDir)).dropWhile (· = []) = w.remaining := by
  have hfilter : ∀ dirs : List JsString, (∀ dir ∈ dirs, dir ∈ w.shim.path.splitOn pathDelimiter) →
      dirs.filter (· ≠ w.shim.shimDir) = dirs.filter (· ≠ w.launch.shims) := by
    intro dirs hdirs
    refine List.filter_congr fun dir hdir => ?_
    simp [hspelled dir (hdirs dir hdir)]
  rw [remaining, fields]
  split
  · next hlast =>
    rw [hfilter _ fun dir hdir => List.mem_of_mem_dropLast hdir]
    -- the last directory is not the shim directory
    obtain ⟨front, hfront⟩ := List.getLast?_eq_some_iff.1 hlast
    rw [left, hfront, List.dropLast_concat, List.filter_append]
    simp [w.named.symm]
  · rw [hfilter _ fun _ hdir => hdir, left]

lemma listed_remaining (h : w.left = [] ∨ w.left = [[]] ∨
    w.left.head? ≠ some [] ∧ (w.shim.path.splitOn pathDelimiter).getLast? ≠ some []) :
    listed w.remaining = listed w.left := by
  rcases h with hnil | hempty | ⟨hhead, hlast⟩
  · simp [remaining, hnil]
  · have hnone : w.remaining = [] := by
      rw [remaining, hempty]
      split
      · rfl
      · rfl
    rw [hnone, hempty]
    rfl
  · rw [remaining, if_neg hlast]
    cases hleft : w.left with
    | nil => rfl
    | cons dir dirs =>
      rw [hleft] at hhead
      have hdir : dir ≠ [] := by simpa using hhead
      simp [hdir]

lemma length_remaining (h : w.left.head? = some [] ∨ (w.shim.path.splitOn pathDelimiter).getLast? = some [])
    (hne : w.left ≠ []) : w.remaining.length < w.left.length := by
  have hpos := List.length_pos_of_ne_nil hne
  rw [remaining]
  split
  · have hdrop := (List.dropWhile_sublist (fun dir => decide (dir = ([] : JsString))) (l := w.left.dropLast)).length_le
    rw [List.length_dropLast] at hdrop
    omega
  · next hlast =>
    obtain ⟨dirs, hdirs⟩ := List.head?_eq_some_iff.1 (h.resolve_right hlast)
    have hdrop := (List.dropWhile_sublist (fun dir => decide (dir = ([] : JsString))) (l := dirs)).length_le
    rw [hdirs, List.dropWhile_cons_of_pos (by simp), List.length_cons]
    omega

lemma splitOn_realPath (hplain : ∀ word ∈ fields w.shim.path, w.shim.expand word = [word]) :
    w.shim.realPath.splitOn pathDelimiter =
      listed (((fields w.shim.path).filter (· ≠ w.shim.shimDir)).dropWhile (· = [])) := by
  rw [w.shim.realPath_eq hplain]
  refine splitOn_intercalate_eq fun dir hdir => ?_
  have hfield := List.mem_of_mem_filter ((List.dropWhile_sublist _).subset hdir)
  exact not_mem_of_mem_splitOn (mem_splitOn_of_mem_fields hfield)

lemma mem_realPath (hplain : ∀ word ∈ fields w.shim.path, w.shim.expand word = [word]) {dir : JsString}
    (hdir : dir ∈ w.shim.path.splitOn pathDelimiter) (hne : dir ≠ []) (hown : dir ≠ w.shim.shimDir) :
    dir ∈ w.shim.realPath.splitOn pathDelimiter := by
  have hkept : dir ∈ (fields w.shim.path).filter (· ≠ w.shim.shimDir) :=
    List.mem_filter.2 ⟨mem_fields hdir hne, by simpa using hown⟩
  rw [splitOn_realPath hplain]
  apply mem_listed
  rw [← List.takeWhile_append_dropWhile (p := fun dir => decide (dir = ([] : JsString)))
    (l := (fields w.shim.path).filter (· ≠ w.shim.shimDir))] at hkept
  refine (List.mem_append.1 hkept).resolve_left fun hfront => hne ?_
  simpa using List.mem_takeWhile_imp hfront

lemma others_eq (h : ∀ dir ∈ w.shim.path.splitOn pathDelimiter, w.names agent dir = true ↔ dir = w.launch.shims) :
    w.others agent = w.left := by
  refine List.filter_congr fun dir hdir => ?_
  have hdir := h dir hdir
  by_cases hown : dir = w.launch.shims
  · rw [hdir.2 hown]
    simp [hown]
  · simp [hown, Bool.eq_false_iff.2 fun hnames => hown (hdir.1 hnames)]

/-- What no search finds, and in which order, of the directories that each path is read as. -/
lemma shimFree_iff_listed (ha : agent ∈ listAgents) (hpath : w.launch.env.get (js "PATH") = some w.shim.path) :
    w.ShimFree agent ↔
      (∀ dir ∈ w.shim.realPath.splitOn pathDelimiter, w.names agent dir = false) ∧
      (∀ dir ∈ listed w.left, w.names agent dir = false) ∧
      (∀ dir ∈ listed w.left, dir ≠ [] → w.isShim (w.file (w.launch.join dir agent.bin)) = false) ∧
      (w.others agent).Sublist (w.shim.realPath.splitOn pathDelimiter) ∧
      (w.others agent).Sublist (listed w.left) := by
  have hchild : w.childPath.splitOn pathDelimiter = listed w.left := by rw [childPath_eq hpath, splitOn_left]
  have hprobe : w.probePath.splitOn pathDelimiter = listed w.left := by rw [probePath_eq hpath, splitOn_left]
  have hfound : ∀ path, (∀ present : φ → Bool, ∀ bin, commandV (present ∘ w.file) path agent.id = some bin →
      w.isShim (w.file bin) = false) ↔ ∀ dir ∈ path.splitOn pathDelimiter, w.names agent dir = false := by
    intro path
    simp only [commandV, forall_find_iff, List.forall_mem_map, names]
  have hdetected : (∀ present : φ → Bool, ∀ bin, detect w.launch.join (present ∘ w.file) agent.id w.probePath = some bin →
      w.isShim (w.file bin) = false) ↔
      ∀ dir ∈ listed w.left, dir ≠ [] → w.isShim (w.file (w.launch.join dir agent.bin)) = false := by
    simp only [detect, getAdapter_of_mem ha, Option.bind_some, hprobe, forall_find_iff, List.forall_mem_map,
      List.mem_filter, decide_eq_true_eq, and_imp]
  have hscript : (∀ present bin, (w.run present).script agent.id = .exec bin ∨ (w.run present).script agent.id = .open bin →
      w.isShim (w.file bin) = false) ↔ ∀ dir ∈ w.shim.realPath.splitOn pathDelimiter, w.names agent dir = false := by
    rw [← hfound]
    simp only [ShimRun.script_eq]
    rfl
  constructor
  · intro h
    refine ⟨hscript.1 h.script, ?_, hdetected.1 h.detected, h.searched, hchild ▸ h.given⟩
    rw [← hchild]
    exact (hfound _).1 h.child
  · rintro ⟨hreal, hgiven, hjoined, hsearched, hkept⟩
    exact {
      script := hscript.2 hreal
      child := (hfound _).2 (hchild ▸ hgiven)
      detected := hdetected.2 hjoined
      searched := hsearched
      given := hchild ▸ hkept }

lemma mem_left {dir : JsString} : dir ∈ w.left ↔ dir ∈ w.shim.path.splitOn pathDelimiter ∧ dir ≠ w.launch.shims := by
  simp [left]

lemma sublist_listed {dirs : List JsString} : dirs.Sublist (listed dirs) := by
  rw [listed]
  split
  · next hnil =>
    rw [hnil]
    exact List.nil_sublist _
  · exact List.Sublist.refl dirs

/-- A list that keeps its order in a shorter one is empty, or is the empty directory alone. -/
lemma eq_of_sublist_listed {dirs kept : List JsString} (h : dirs.Sublist (listed kept)) (hlt : kept.length < dirs.length) :
    dirs = [[]] := by
  rw [listed] at h
  split at h
  · next hnil =>
    refine h.eq_of_length_le ?_
    rw [hnil] at hlt
    exact hlt
  · have hle := h.length_le
    omega

lemma ShimFree.spelled (h : w.ShimFree agent) (ha : agent ∈ listAgents)
    (hpath : w.launch.env.get (js "PATH") = some w.shim.path)
    (hplain : ∀ word ∈ fields w.shim.path, w.shim.expand word = [word]) {dir : JsString}
    (hdir : dir ∈ w.shim.path.splitOn pathDelimiter) :
    (w.names agent dir = true ↔ dir = w.shim.shimDir) ∧ (w.names agent dir = true ↔ dir = w.launch.shims) := by
  obtain ⟨hreal, hgiven, -, hsearched, hkept⟩ := (shimFree_iff_listed ha hpath).1 h
  -- what is no shim is searched, unless its name is the empty one
  have hother : w.names agent dir = false → dir ∈ w.others agent := fun hnames =>
    List.mem_filter.2 ⟨hdir, by simp [hnames]⟩
  have hshims : w.names agent dir = true ↔ dir = w.launch.shims := by
    constructor
    · intro hnames
      by_contra hne
      have hfalse := hgiven dir (mem_listed (mem_left.2 ⟨hdir, hne⟩))
      rw [hnames] at hfalse
      cases hfalse
    · intro hown
      by_contra hnames
      have hlost := hkept.subset (hother (Bool.eq_false_iff.2 hnames))
      refine w.named ?_
      rw [← hown]
      exact (eq_nil_of_mem_listed hlost fun hmem => (mem_left.1 hmem).2 hown).1
  refine ⟨⟨fun hnames => ?_, fun hown => ?_⟩, hshims⟩
  · by_contra hne
    have hempty : dir ≠ [] := hshims.1 hnames ▸ w.named
    have hfalse := hreal dir (mem_realPath hplain hdir hempty hne)
    rw [hnames] at hfalse
    cases hfalse
  · by_contra hnames
    have hlost := hsearched.subset (hother (Bool.eq_false_iff.2 hnames))
    rw [splitOn_realPath hplain] at hlost
    refine w.shim.shimDir_ne_nil ?_
    rw [← hown]
    refine (eq_nil_of_mem_listed hlost fun hmem => ?_).1
    have hfilter := (List.mem_filter.1 ((List.dropWhile_sublist _).subset hmem)).2
    simp [hown] at hfilter

namespace Demo

/-- The slashes that follow a slash are not written. -/
def collapse : JsString → JsString
  | [] => []
  | u :: rest => if u = 0x2F ∧ rest.head? = some 0x2F then collapse rest else u :: collapse rest

/-- A launch of an agent in a boarded repository by a user whose home is `/h`. -/
def world (path : JsString) : ShimWorld JsString :=
  { shim :=
      { path
        home := js "/h"
        pherryHome := []
        localId := []
        assumeTty := []
        isTty := true
        args := []
        cwd := js "/r"
        boarded := some [js "/r"]
        anchored := []
        paths := fun _ => []
        isExecutable := fun _ => true }
    launch :=
      { boarded := [js "/r"]
        env := [(js "PATH", path)]
        shims := js "/h/.pherry/shims"
        available := fun _ => true
        join := fun dir bin => dir ++ js "/" ++ bin
        isExecutable := fun _ => true
        sha256 := id
        randomUUID := js "0" }
    file := collapse
    isShim := fun file => decide (js "/h/.pherry/shims/" <+: file)
    named := (by decide : js "/h/.pherry/shims" ≠ []) }

end Demo

end ShimWorld

end Pherry.Cli
