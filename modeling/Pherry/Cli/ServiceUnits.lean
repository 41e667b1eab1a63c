import Pherry.Escaping

/-!
# Service units

The unit files that keep `pherry serve` alive: `renderLaunchdPlist` and `renderSystemdUnit`, and the bytes they are
written as.
-/

namespace Pherry.Cli

/-- `ServeInvocation`. -/
structure ServeInvocation where
  nodeBin : JsString
  script : JsString
  pathEnv : JsString
  baseDir : Option JsString
  logPath : JsString

/-! ## `systemd.ts` -/

/-- `execStartWord`. -/
def execStartWord (word : JsString) : JsString :=
  js "\x22" ++ replaceAll (replaceAll word 0x5C (js "\\\\")) 0x22 (js "\\\x22") ++ js "\x22"

/-- `renderSystemdUnit`. -/
def renderSystemdUnit (inv : ServeInvocation) : JsString :=
  let pherryHome :=
    match inv.baseDir with
    | none => []
    | some baseDir => js "\nEnvironment=\x22PHERRY_HOME=" ++ baseDir ++ js "\x22"
  js "[Unit]\nDescription=Pherry custody daemon (pherry serve)\n\n[Service]\nExecStart=" ++
    execStartWord inv.nodeBin ++ js " " ++ execStartWord inv.script ++
    js " serve\nRestart=on-failure\nRestartSec=2\nEnvironment=\x22PATH=" ++ inv.pathEnv ++ js "\x22" ++ pherryHome ++
    js "\nStandardOutput=append:" ++ inv.logPath ++ js "\nStandardError=append:" ++ inv.logPath ++
    js "\n\n[Install]\nWantedBy=default.target\n"

/-! ## `launchd.ts` -/

/-- `xml`: the five metacharacters, escaped. -/
def xml (value : JsString) : JsString :=
  replaceAll (replaceAll (replaceAll (replaceAll (replaceAll value 0x26 (js "&amp;")) 0x3C (js "&lt;"))
    0x3E (js "&gt;")) 0x22 (js "&quot;")) 0x27 (js "&apos;")

/-- `LAUNCHD_LABEL`. -/
def LAUNCHD_LABEL : JsString := js "com.pherry.serve"

/-- A value of the property list, as it is interpolated everywhere. -/
def stringOf (value : JsString) : JsString := js "<string>" ++ xml value ++ js "</string>"

/-- `renderLaunchdPlist`. -/
def renderLaunchdPlist (inv : ServeInvocation) : JsString :=
  let pherryHome :=
    match inv.baseDir with
    | none => []
    | some baseDir => js "\n\t\t<key>PHERRY_HOME</key>\n\t\t" ++ stringOf baseDir
  js "<?xml version=\x221.0\x22 encoding=\x22UTF-8\x22?>\n<!DOCTYPE plist PUBLIC \x22-//Apple//DTD PLIST 1.0//" ++
    js "EN\x22 \x22http://www.apple.com/DTDs/PropertyList-1.0.dtd\x22>\n<plist version=\x221.0\x22>\n<dict>\n" ++
    js "\t<key>Label</key>\n\t<string>" ++ LAUNCHD_LABEL ++
    js "</string>\n\t<key>ProgramArguments</key>\n\t<array>\n\t\t" ++ stringOf inv.nodeBin ++ js "\n\t\t" ++
    stringOf inv.script ++ js "\n\t\t<string>serve</string>\n\t</array>\n\t<key>RunAtLoad</key>\n\t<true/>\n" ++
    js "\t<key>KeepAlive</key>\n\t<dict>\n\t\t<key>SuccessfulExit</key>\n\t\t<false/>\n\t</dict>\n" ++
    js "\t<key>ProcessType</key>\n\t<string>Background</string>\n\t<key>StandardOutPath</key>\n\t" ++
    stringOf inv.logPath ++ js "\n\t<key>StandardErrorPath</key>\n\t" ++ stringOf inv.logPath ++
    js "\n\t<key>EnvironmentVariables</key>\n\t<dict>\n\t\t<key>PATH</key>\n\t\t" ++ stringOf inv.pathEnv ++
    pherryHome ++ js "\n\t</dict>\n</dict>\n</plist>\n"

/-! ## The bytes of a systemd unit -/

/-- A byte inside double quotes. -/
def execStartByte (b : UInt8) : Bytes := if b = 0x5C ∨ b = 0x22 then [0x5C, b] else [b]

/-- A unit as `execStartWord` writes it. -/
def execStartUnit (u : UInt16) : JsString := if u = 0x5C ∨ u = 0x22 then [0x5C, u] else [u]

lemma replaces_execStartUnit : Replaces execStartUnit where
  ascii u hu := by
    unfold execStartUnit
    split
    · refine ⟨List.cons_ne_nil _ _, isAscii_iff.2 ?_⟩
      simp [hu]
    · exact ⟨List.cons_ne_nil _ _, isAscii_iff.2 (by simpa using hu)⟩
  others u hu := by
    apply if_neg
    rintro (rfl | rfl)
    · exact hu (by decide)
    · exact hu (by decide)

lemma utf8_execStartWord (word t : JsString) :
    utf8 (execStartWord word ++ t) = 0x22 :: ((utf8 word).flatMap execStartByte ++ 0x22 :: utf8 t) := by
  have htable : replaceAll (replaceAll word 0x5C (js "\\\\")) 0x22 (js "\\\x22") = word.flatMap execStartUnit := by
    have hescapes : js "\\\\" = [0x5C, 0x5C] ∧ js "\\\x22" = [0x5C, 0x22] := by decide
    rw [hescapes.1, hescapes.2, replaceAll, replaceAll, List.flatMap_assoc]
    refine List.flatMap_congr fun u _ => ?_
    unfold execStartUnit
    by_cases hslash : u = 0x5C
    · rw [hslash]
      rfl
    · by_cases hquote : u = 0x22
      · rw [hquote]
        rfl
      · simp [hslash, hquote]
  have hbytes : ∀ u : UInt16, u < 0x80 →
      execStartByte (UInt8.ofNat u.toNat) = (execStartUnit u).map fun v => UInt8.ofNat v.toNat := by
    have hall : ∀ n < 0x80, execStartByte (UInt8.ofNat n) =
        (execStartUnit (UInt16.ofNat n)).map fun v => UInt8.ofNat v.toNat := by decide
    intro u hu
    have hunit := hall u.toNat (UInt16.lt_iff_toNat_lt.1 hu)
    rwa [UInt16.ofNat_toNat] at hunit
  have hothers : ∀ b : UInt8, ¬ b < 0x80 → execStartByte b = [b] := by
    intro b hb
    apply if_neg
    rintro (rfl | rfl)
    · exact hb (by decide)
    · exact hb (by decide)
  have hquote : isAsciiLiteral ['\x22'] = true := by decide
  rw [execStartWord, htable, List.append_assoc, List.append_assoc]
  rw [show js "\x22" = js (String.ofList ['\x22']) from rfl, utf8_literal hquote, utf8_append_literal hquote,
    replaces_execStartUnit.utf8 hbytes hothers]
  rfl

/-- A setting. -/
def assignment (key value : Bytes) : Bytes := key ++ 0x3D :: value

/-- A word in double quotes. -/
def quoted (word : Bytes) : Bytes := 0x22 :: (word.flatMap execStartByte ++ [0x22])

/-- The `ExecStart` of two words and the command. -/
def execStart (nodeBin script : Bytes) : Bytes :=
  assignment (ascii "ExecStart") (quoted nodeBin ++ 0x20 :: (quoted script ++ ascii " serve"))

/-- The `Environment` of one variable. -/
def environmentLine (name value : Bytes) : Bytes :=
  assignment (ascii "Environment") (0x22 :: (assignment name value ++ [0x22]))

/-- A log that is appended to. -/
def appendTo (key path : Bytes) : Bytes := assignment key (ascii "append:" ++ path)

/-- A unit, line by line. -/
def unitLines (inv : ServeInvocation) : List Bytes :=
  [ascii "[Unit]", ascii "Description=Pherry custody daemon (pherry serve)", [], ascii "[Service]",
    execStart (utf8 inv.nodeBin) (utf8 inv.script), ascii "Restart=on-failure", ascii "RestartSec=2",
    environmentLine (ascii "PATH") (utf8 inv.pathEnv)] ++
  inv.baseDir.toList.map (fun dir => environmentLine (ascii "PHERRY_HOME") (utf8 dir)) ++
  [appendTo (ascii "StandardOutput") (utf8 inv.logPath), appendTo (ascii "StandardError") (utf8 inv.logPath), [],
    ascii "[Install]", ascii "WantedBy=default.target"]

lemma utf8_renderSystemdUnit (inv : ServeInvocation) :
    utf8 (renderSystemdUnit inv) = (unitLines inv).flatMap (· ++ [0x0A]) := by
  have hhead : ascii "[Unit]\nDescription=Pherry custody daemon (pherry serve)\n\n[Service]\nExecStart=" =
      ascii "[Unit]" ++ 0x0A :: (ascii "Description=Pherry custody daemon (pherry serve)" ++ 0x0A :: 0x0A ::
        (ascii "[Service]" ++ 0x0A :: (ascii "ExecStart" ++ [0x3D]))) := by
    rw [ascii_ofList, ascii_ofList, ascii_ofList, ascii_ofList, ascii_ofList]
    rfl
  have hservice : ascii " serve\nRestart=on-failure\nRestartSec=2\nEnvironment=\x22PATH=" =
      ascii " serve" ++ 0x0A :: (ascii "Restart=on-failure" ++ 0x0A :: (ascii "RestartSec=2" ++ 0x0A ::
        (ascii "Environment" ++ 0x3D :: 0x22 :: (ascii "PATH" ++ [0x3D])))) := by
    rw [ascii_ofList, ascii_ofList, ascii_ofList, ascii_ofList, ascii_ofList, ascii_ofList]
    rfl
  have hhome : ascii "\nEnvironment=\x22PHERRY_HOME=" =
      0x0A :: (ascii "Environment" ++ 0x3D :: 0x22 :: (ascii "PHERRY_HOME" ++ [0x3D])) := by
    rw [ascii_ofList, ascii_ofList, ascii_ofList]
    rfl
  have houtput : ascii "\nStandardOutput=append:" =
      0x0A :: (ascii "StandardOutput" ++ 0x3D :: ascii "append:") := by
    rw [ascii_ofList, ascii_ofList, ascii_ofList]
    rfl
  have herror : ascii "\nStandardError=append:" = 0x0A :: (ascii "StandardError" ++ 0x3D :: ascii "append:") := by
    rw [ascii_ofList, ascii_ofList, ascii_ofList]
    rfl
  have hinstall : ascii "\n\n[Install]\nWantedBy=default.target\n" =
      0x0A :: 0x0A :: (ascii "[Install]" ++ 0x0A :: (ascii "WantedBy=default.target" ++ [0x0A])) := by
    rw [ascii_ofList, ascii_ofList, ascii_ofList]
    rfl
  have hspace : ascii " " = [0x20] := by decide
  have hmark : ascii "\x22" = [0x22] := by decide
  unfold renderSystemdUnit unitLines
  cases inv.baseDir with
  | none =>
    dsimp only
    simp only [List.append_assoc, List.nil_append]
    rw [utf8_literal, utf8_execStartWord, utf8_literal, utf8_execStartWord, utf8_literal, utf8_append_literal,
      utf8_literal, utf8_append_literal, utf8_append_last, hhead, hservice, houtput, herror, hinstall,
      hspace, hmark]
    simp [execStart, quoted, environmentLine, assignment, appendTo]
    all_goals decide
  | some dir =>
    dsimp only
    simp only [List.append_assoc]
    rw [utf8_literal, utf8_execStartWord, utf8_literal, utf8_execStartWord, utf8_literal, utf8_append_literal,
      utf8_literal, utf8_append_literal, utf8_literal, utf8_append_literal, utf8_append_last, hhead, hservice, hhome,
      houtput, herror, hinstall, hspace, hmark]
    simp [execStart, quoted, environmentLine, assignment, appendTo]
    all_goals decide

end Pherry.Cli
