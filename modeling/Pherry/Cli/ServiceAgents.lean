import Pherry.Cli.ServiceUnits
import Pherry.PropertyList

/-!
# The property list of an agent

When the property list that `renderLaunchdPlist` writes is read as the command, the variables and the log of the
invocation.
-/

namespace Pherry.Cli

open PropertyList

/-- The code points of a literal. -/
def points (s : String) : List ℕ := chars s.toList

/-- The property list of an invocation whose values are read as `value` says. -/
def agentOf (value : JsString → List ℕ) (inv : ServeInvocation) : Plist :=
  .dict [
    (points "Label", .string (points "com.pherry.serve")),
    (points "ProgramArguments",
      .array [.string (value inv.nodeBin), .string (value inv.script), .string (points "serve")]),
    (points "RunAtLoad", .bool true),
    (points "KeepAlive", .dict [(points "SuccessfulExit", .bool false)]),
    (points "ProcessType", .string (points "Background")),
    (points "StandardOutPath", .string (value inv.logPath)),
    (points "StandardErrorPath", .string (value inv.logPath)),
    (points "EnvironmentVariables", .dict ((points "PATH", .string (value inv.pathEnv)) ::
      inv.baseDir.toList.map fun dir => (points "PHERRY_HOME", .string (value dir))))]

/-- The property list that the unit of an invocation is meant to be. -/
def serveAgent (inv : ServeInvocation) : Plist := agentOf codePoints inv

/-- The values of an invocation. -/
def ServeInvocation.values (inv : ServeInvocation) : List JsString :=
  [inv.nodeBin, inv.script, inv.logPath, inv.pathEnv] ++ inv.baseDir.toList

/-- A value that a document may hold. -/
def isLegal (value : JsString) : Bool := (codePoints value).all isChar

/-! ## The code points of the document -/

/-- A unit as `xml` writes it. -/
def xmlUnit (u : UInt16) : JsString :=
  if u = 0x26 then js "&amp;"
  else if u = 0x3C then js "&lt;"
  else if u = 0x3E then js "&gt;"
  else if u = 0x22 then js "&quot;"
  else if u = 0x27 then js "&apos;"
  else [u]

lemma xml_eq (value : JsString) : xml value = value.flatMap xmlUnit := by
  have hamp : js "&amp;" = [0x26, 0x61, 0x6D, 0x70, 0x3B] := by decide
  have hlt : js "&lt;" = [0x26, 0x6C, 0x74, 0x3B] := by decide
  have hgt : js "&gt;" = [0x26, 0x67, 0x74, 0x3B] := by decide
  have hquot : js "&quot;" = [0x26, 0x71, 0x75, 0x6F, 0x74, 0x3B] := by decide
  have hapos : js "&apos;" = [0x26, 0x61, 0x70, 0x6F, 0x73, 0x3B] := by decide
  unfold xml replaceAll
  rw [hamp, hlt, hgt, hquot, hapos, List.flatMap_assoc, List.flatMap_assoc, List.flatMap_assoc, List.flatMap_assoc]
  refine List.flatMap_congr fun u _ => ?_
  unfold xmlUnit
  rw [hamp, hlt, hgt, hquot, hapos]
  split_ifs with h1 h2 h3 h4 h5
  · rfl
  · subst h2
    rfl
  · subst h3
    rfl
  · subst h4
    rfl
  · subst h5
    rfl
  · simp [h2, h3, h4, h5]

lemma replaces_xmlUnit : Replaces xmlUnit where
  ascii u hu := by
    unfold xmlUnit
    split_ifs
    · decide
    · decide
    · decide
    · decide
    · decide
    · exact ⟨List.cons_ne_nil _ _, isAscii_iff.2 (by simpa using hu)⟩
  others u hu := by
    unfold xmlUnit
    split_ifs with h1 h2 h3 h4 h5
    · exact absurd (by rw [h1]; decide) hu
    · exact absurd (by rw [h2]; decide) hu
    · exact absurd (by rw [h3]; decide) hu
    · exact absurd (by rw [h4]; decide) hu
    · exact absurd (by rw [h5]; decide) hu
    · rfl

lemma codePoints_xml (value : JsString) : codePoints (xml value) = (codePoints value).flatMap escaped := by
  rw [xml_eq, replaces_xmlUnit.codePoints]
  refine List.flatMap_congr fun c _ => ?_
  have hall : ∀ c < 0x80, (xmlUnit (UInt16.ofNat c)).map UInt16.toNat = escaped c := by decide
  unfold replacement
  split
  · next hlow => exact hall c hlow
  · unfold escaped
    split_ifs <;> first | omega | rfl

lemma points_ofList (cs : List Char) : points (String.ofList cs) = chars cs := by
  rw [points, String.toList_ofList]

lemma codePoints_text {cs : List Char} (h : isAsciiLiteral cs = true) (t : JsString) :
    codePoints (js (String.ofList cs) ++ t) = points (String.ofList cs) ++ codePoints t := by
  rw [codePoints_literal h, js_literal h, points_ofList, List.map_map]
  congr 1
  refine List.map_congr_left fun c hc => ?_
  have hascii := List.all_eq_true.1 (Bool.and_eq_true_iff.1 h).2 c hc
  rw [decide_eq_true_eq] at hascii
  exact UInt16.toNat_ofNat_of_lt' (by omega : c.toNat < 2 ^ 16)

lemma codePoints_stringOf (value t : JsString) :
    codePoints (stringOf value ++ t) = stringElement ((codePoints value).flatMap escaped) ++ codePoints t := by
  have hopen : isAsciiLiteral ['<', 's', 't', 'r', 'i', 'n', 'g', '>'] = true := by decide
  have hclose : isAsciiLiteral ['<', '/', 's', 't', 'r', 'i', 'n', 'g', '>'] = true := by decide
  have hsplit : stringOf value ++ t = js (String.ofList ['<', 's', 't', 'r', 'i', 'n', 'g', '>']) ++
      (xml value ++ (js (String.ofList ['<', '/', 's', 't', 'r', 'i', 'n', 'g', '>']) ++ t)) := by
    rw [stringOf, List.append_assoc, List.append_assoc]
  rw [hsplit, codePoints_text hopen, codePoints_append_literal hclose, codePoints_text hclose, codePoints_xml,
    points_ofList, points_ofList, stringElement]
  simp only [List.append_assoc]

/-! ## The texts between the values -/

/-- What stands before the first value. -/
def headText : List ℕ :=
  points "<?xml version=\x221.0\x22 encoding=\x22UTF-8\x22?>\n<!DOCTYPE plist PUBLIC \x22-//Apple//DTD PLIST 1.0//" ++
    (points "EN\x22 \x22http://www.apple.com/DTDs/PropertyList-1.0.dtd\x22>\n<plist version=\x221.0\x22>\n<dict>\n" ++
    (points "\t<key>Label</key>\n\t<string>" ++ (points "com.pherry.serve" ++
    points "</string>\n\t<key>ProgramArguments</key>\n\t<array>\n\t\t")))

/-- What stands between the command and the log. -/
def optionsText : List ℕ :=
  points "\n\t\t<string>serve</string>\n\t</array>\n\t<key>RunAtLoad</key>\n\t<true/>\n" ++
    (points "\t<key>KeepAlive</key>\n\t<dict>\n\t\t<key>SuccessfulExit</key>\n\t\t<false/>\n\t</dict>\n" ++
    points "\t<key>ProcessType</key>\n\t<string>Background</string>\n\t<key>StandardOutPath</key>\n\t")

lemma parse_head : parse [] headText =
    some [.array [],
      .dict [(points "Label", .string (points "com.pherry.serve"))] (some (points "ProgramArguments")),
      .plist none] := by
  rw [headText, points_ofList, points_ofList, points_ofList, points_ofList, points_ofList, points_ofList,
    points_ofList]
  rfl

lemma parse_options (items : List Plist) (entries : List (List ℕ × Plist)) (key : List ℕ)
    (frames : List Frame) :
    parse (.array items :: .dict entries (some key) :: frames) optionsText =
    some (.dict (entries ++ [(key, .array (items ++ [.string (points "serve")]))] ++
      [(points "RunAtLoad", .bool true)] ++
      [(points "KeepAlive", .dict [(points "SuccessfulExit", .bool false)])] ++
      [(points "ProcessType", .string (points "Background"))]) (some (points "StandardOutPath")) :: frames) := by
  rw [optionsText, points_ofList, points_ofList, points_ofList, points_ofList, points_ofList, points_ofList,
    points_ofList, points_ofList, points_ofList, points_ofList]
  rfl

variable (entries : List (List ℕ × Plist)) (frames : List Frame)

lemma parse_standardErrorPath : parse (.dict entries none :: frames)
    (points "\n\t<key>StandardErrorPath</key>\n\t") =
      some (.dict entries (some (points "StandardErrorPath")) :: frames) := by
  rw [points_ofList, points_ofList]
  rfl

lemma parse_path : parse (.dict entries none :: frames)
    (points "\n\t<key>EnvironmentVariables</key>\n\t<dict>\n\t\t<key>PATH</key>\n\t\t") =
      some (.dict [] (some (points "PATH")) :: .dict entries (some (points "EnvironmentVariables")) :: frames) := by
  rw [points_ofList, points_ofList, points_ofList]
  rfl

lemma parse_home : parse (.dict entries none :: frames) (points "\n\t\t<key>PHERRY_HOME</key>\n\t\t") =
    some (.dict entries (some (points "PHERRY_HOME")) :: frames) := by
  rw [points_ofList, points_ofList]
  rfl

lemma parse_end (key : List ℕ) (environment : List (List ℕ × Plist)) :
    parse [.dict environment none, .dict entries (some key), .plist none]
      (points "\n\t</dict>\n</dict>\n</plist>\n") =
      some [.done (.dict (entries ++ [(key, .dict environment)]))] := by
  rw [points_ofList]
  rfl

/-! ## The whole document -/

lemma parse_value {frames inner : List Frame} (hopen : step frames (.opens .string) = some (.string [] :: frames))
    {value : JsString} (hgive : give (.string (lineEnds (codePoints value))) frames = some inner) {text : List ℕ}
    (htext : goesOn text) : parse frames (stringElement ((codePoints value).flatMap escaped) ++ text) =
      if isLegal value then parse inner text else none := by
  rw [parse_stringElement hopen _ htext, hgive, Option.bind_some]
  rfl

/-- What stands behind `PATH`. -/
def homeElements (baseDir : Option JsString) : List ℕ :=
  match baseDir with
  | none => points "\n\t</dict>\n</dict>\n</plist>\n"
  | some dir => points "\n\t\t<key>PHERRY_HOME</key>\n\t\t" ++
      (stringElement ((codePoints dir).flatMap escaped) ++ points "\n\t</dict>\n</dict>\n</plist>\n")

lemma codePoints_renderLaunchdPlist (inv : ServeInvocation) : codePoints (renderLaunchdPlist inv) =
    headText ++
    (stringElement ((codePoints inv.nodeBin).flatMap escaped) ++ (points "\n\t\t" ++
    (stringElement ((codePoints inv.script).flatMap escaped) ++ (optionsText ++
    (stringElement ((codePoints inv.logPath).flatMap escaped) ++
      (points "\n\t<key>StandardErrorPath</key>\n\t" ++
    (stringElement ((codePoints inv.logPath).flatMap escaped) ++
      (points "\n\t<key>EnvironmentVariables</key>\n\t<dict>\n\t\t<key>PATH</key>\n\t\t" ++
    (stringElement ((codePoints inv.pathEnv).flatMap escaped) ++ homeElements inv.baseDir))))))))) := by
  have hlast : ∀ cs : List Char, isAsciiLiteral cs = true →
      codePoints (js (String.ofList cs)) = points (String.ofList cs) := by
    intro cs h
    have htext := codePoints_text h []
    rwa [List.append_nil, show codePoints [] = [] from rfl, List.append_nil] at htext
  unfold renderLaunchdPlist homeElements LAUNCHD_LABEL headText optionsText
  cases inv.baseDir with
  | none =>
    dsimp only
    simp only [List.append_assoc, List.nil_append]
    rw [codePoints_text, codePoints_text, codePoints_text, codePoints_text, codePoints_text, codePoints_stringOf,
      codePoints_text, codePoints_stringOf, codePoints_text, codePoints_text, codePoints_text, codePoints_stringOf,
      codePoints_text, codePoints_stringOf, codePoints_text, codePoints_stringOf, hlast]
    all_goals decide
  | some dir =>
    dsimp only
    simp only [List.append_assoc]
    rw [codePoints_text, codePoints_text, codePoints_text, codePoints_text, codePoints_text, codePoints_stringOf,
      codePoints_text, codePoints_stringOf, codePoints_text, codePoints_text, codePoints_text, codePoints_stringOf,
      codePoints_text, codePoints_stringOf, codePoints_text, codePoints_stringOf, codePoints_text,
      codePoints_stringOf, hlast]
    all_goals decide

/-- The property list is read where a document may hold its values, with their line ends. -/
lemma parse_renderLaunchdPlist (inv : ServeInvocation) : parse [] (codePoints (renderLaunchdPlist inv)) =
    if inv.values.all isLegal then some [.done (agentOf (fun value => lineEnds (codePoints value)) inv)]
    else none := by
  have hblank : (points "\n\t\t").all PropertyList.isSpace = true := by
    rw [points_ofList]
    rfl
  have hoptions : goesOn optionsText := by
    rw [optionsText, points_ofList]
    rfl
  have herror : goesOn (points "\n\t<key>StandardErrorPath</key>\n\t") := by
    rw [points_ofList]
    rfl
  have hpath : goesOn (points "\n\t<key>EnvironmentVariables</key>\n\t<dict>\n\t\t<key>PATH</key>\n\t\t") := by
    rw [points_ofList]
    rfl
  have hend : goesOn (points "\n\t</dict>\n</dict>\n</plist>\n") := by
    rw [points_ofList]
    rfl
  have hhome : goesOn (homeElements inv.baseDir) := by
    unfold homeElements
    cases inv.baseDir with
    | none => exact hend
    | some dir =>
      dsimp only
      rw [points_ofList]
      rfl
  have hmissing : ∀ value ∈ inv.values, ¬ isLegal value = true → ¬ inv.values.all isLegal = true := by
    intro value hvalue hillegal hall
    exact hillegal (List.all_eq_true.1 hall value hvalue)
  rw [codePoints_renderLaunchdPlist, parse_append_stringElement, parse_head, Option.bind_some,
    parse_value rfl rfl (goesOn_stringElement hblank _ _)]
  -- the values are read one by one, and the first that is not legal ends it
  by_cases hnode : isLegal inv.nodeBin = true
  · rw [if_pos hnode, parse_blank_stringElement _ hblank, parse_value rfl rfl (goesOn_append hoptions _)]
    by_cases hscript : isLegal inv.script = true
    · rw [if_pos hscript, parse_append_stringElement, parse_options, Option.bind_some,
        parse_value rfl rfl (goesOn_append herror _)]
      by_cases hlog : isLegal inv.logPath = true
      · rw [if_pos hlog, parse_append_stringElement, parse_standardErrorPath, Option.bind_some,
          parse_value rfl rfl (goesOn_append hpath _), if_pos hlog, parse_append_stringElement, parse_path,
          Option.bind_some, parse_value rfl rfl hhome]
        by_cases henv : isLegal inv.pathEnv = true
        · rw [if_pos henv]
          unfold homeElements
          cases hdir : inv.baseDir with
          | none =>
            dsimp only
            rw [parse_end, if_pos (by simp [ServeInvocation.values, hnode, hscript, hlog, henv, hdir])]
            simp [agentOf, hdir]
          | some dir =>
            dsimp only
            rw [parse_append_stringElement, parse_home, Option.bind_some, parse_value rfl rfl hend]
            by_cases hhomeLegal : isLegal dir = true
            · rw [if_pos hhomeLegal, parse_end,
                if_pos (by simp [ServeInvocation.values, hnode, hscript, hlog, henv, hdir, hhomeLegal])]
              simp [agentOf, hdir]
            · rw [if_neg hhomeLegal, if_neg (hmissing dir (by simp [ServeInvocation.values, hdir]) hhomeLegal)]
        · rw [if_neg henv, if_neg (hmissing _ (by simp [ServeInvocation.values]) henv)]
      · rw [if_neg hlog, if_neg (hmissing _ (by simp [ServeInvocation.values]) hlog)]
    · rw [if_neg hscript, if_neg (hmissing _ (by simp [ServeInvocation.values]) hscript)]
  · rw [if_neg hnode, if_neg (hmissing _ (by simp [ServeInvocation.values]) hnode)]

lemma agentOf_eq_iff (inv : ServeInvocation) {f g : JsString → List ℕ} :
    agentOf f inv = agentOf g inv ↔ ∀ value ∈ inv.values, f value = g value := by
  unfold agentOf ServeInvocation.values
  cases inv.baseDir with
  | none => simp [and_assoc]
  | some dir => simp [and_assoc]

/-- The property list is read as it is meant exactly where no value holds what a document may not, or a carriage
return. -/
lemma read_renderLaunchdPlist (inv : ServeInvocation) :
    PropertyList.read (codePoints (renderLaunchdPlist inv)) = some (serveAgent inv) ↔
      ∀ value ∈ inv.values, isLegal value = true ∧ 0x0D ∉ codePoints value := by
  by_cases hlegal : inv.values.all isLegal = true
  · have hread : PropertyList.read (codePoints (renderLaunchdPlist inv)) =
        some (agentOf (fun value => lineEnds (codePoints value)) inv) := by
      rw [PropertyList.read, parse_renderLaunchdPlist, if_pos hlegal]
    rw [hread, Option.some_inj, serveAgent, agentOf_eq_iff]
    rw [List.all_eq_true] at hlegal
    constructor
    · intro h value hvalue
      exact ⟨hlegal value hvalue, lineEnds_eq_self_iff.1 (h value hvalue)⟩
    · intro h value hvalue
      exact lineEnds_eq_self_iff.2 (h value hvalue).2
  · have hread : PropertyList.read (codePoints (renderLaunchdPlist inv)) = none := by
      rw [PropertyList.read, parse_renderLaunchdPlist, if_neg hlegal]
    rw [hread]
    constructor
    · intro h
      cases h
    · intro h
      exact absurd (List.all_eq_true.2 fun value hvalue => (h value hvalue).1) hlegal

end Pherry.Cli
