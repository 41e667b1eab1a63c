import Mathlib.Data.List.DropRight
import Pherry.Lib.Blocks

/-!
# Cell addresses, in the CLI

`parseCellUrl`. A text is its Unicode scalars: what the parser looks for are single units of the basic
plane, so that it makes no difference that a JavaScript string has two units for some scalars.
-/

namespace Pherry

open Lib

/-- A host and a port. -/
structure CellAddress where
  host : List Char
  port : ℕ
deriving DecidableEq

/-- Why a cell URL is refused. -/
inductive CellUrlError
  | unsupported
  | unclosedBracket
  | missingPort
  | missingHost
  | nonNumericPort
  | outOfRange
  | invalidPort
deriving DecidableEq

/-- The text of the error. -/
def CellUrlError.message (url : List Char) : CellUrlError → List Char
  | .unsupported =>
    "unsupported cell URL \x22".toList ++ url ++ "\x22 — expected tcp://host:port or host:port".toList
  | .unclosedBracket => "malformed cell URL \x22".toList ++ url ++ "\x22 — unclosed IPv6 bracket".toList
  | .missingPort => "cell URL \x22".toList ++ url ++ "\x22 is missing a :port".toList
  | .missingHost => "cell URL \x22".toList ++ url ++ "\x22 is missing a host".toList
  | .nonNumericPort => "cell URL \x22".toList ++ url ++ "\x22 has a non-numeric port".toList
  | .outOfRange => "cell URL \x22".toList ++ url ++ "\x22 port is out of range".toList
  | .invalidPort => "cell URL \x22".toList ++ url ++ "\x22 has an invalid port".toList

/-- `tcp://`. -/
def tcpScheme : List Char := ['t', 'c', 'p', ':', '/', '/']

/-- What ends an authority. -/
def isSeparator (c : Char) : Bool := c = '/' || c = '?' || c = '#'

/-- The number that decimal digits are. -/
def decimalValue (digits : List Char) : ℕ := digits.foldl (fun n c => 10 * n + (c.toNat - 48)) 0

namespace Cli

/-- What `trim` takes off: white space and line ends. -/
def isTrimmed (c : Char) : Bool :=
  9 ≤ c.toNat && c.toNat ≤ 13 || 0x2000 ≤ c.toNat && c.toNat ≤ 0x200a ||
    c.toNat ∈ [0x20, 0xa0, 0x1680, 0x2028, 0x2029, 0x202f, 0x205f, 0x3000, 0xfeff]

/-- `trim`. -/
def trimText (text : List Char) : List Char := (text.dropWhile isTrimmed).rdropWhile isTrimmed

/-- What a scheme may have behind its first letter. -/
def isSchemeChar (c : Char) : Bool := c.isAlphanum || c = '+' || c = '.' || c = '-'

/-- Whether a text begins with a scheme, up to `://`. -/
def hasScheme : List Char → Bool
  | [] => false
  | c :: text => c.isAlpha && [':', '/', '/'].isPrefixOf (text.dropWhile isSchemeChar)

/-- The host and the text of the port. -/
def readHostPort (hostPort : List Char) : Except CellUrlError (List Char × List Char) :=
  if hostPort.head? = some '[' then
    match splitFirst (· = ']') hostPort with
    | none => .error .unclosedBracket
    | some (before, rest) =>
      if rest.head? = some ':' then .ok (before.drop 1, rest.drop 1) else .error .missingPort
  else
    match splitLast (· = ':') hostPort with
    | none => .error .missingPort
    | some (host, portText) => .ok (host, portText)

/-- The checks of the host and the port. -/
def checkHostPort (host portText : List Char) : Except CellUrlError CellAddress :=
  if host.isEmpty then .error .missingHost
  else if portText.isEmpty || !portText.all Char.isDigit then .error .nonNumericPort
  else
    let port := decimalValue portText
    if port < 1 ∨ 65535 < port then .error .outOfRange else .ok ⟨host, port⟩

/-- An authority up to its path or query. -/
def parseAuthority (authority : List Char) : Except CellUrlError CellAddress := do
  let r ← readHostPort (authority.takeWhile fun c => !isSeparator c)
  checkHostPort r.1 r.2

/-- `parseCellUrl`. -/
def parseCellUrl (url : List Char) : Except CellUrlError CellAddress :=
  let trimmed := trimText url
  if tcpScheme.isPrefixOf trimmed then parseAuthority (trimmed.drop 6)
  else if hasScheme trimmed then .error .unsupported
  else parseAuthority trimmed

example : parseCellUrl " tcp://[::1]:9000/x".toList = .ok ⟨"::1".toList, 9000⟩ := by decide

end Cli

/-! ## What is accepted -/

/-- What stands behind a `tcp://` that may be there. -/
def stripTcp (text : List Char) : List Char := if tcpScheme.isPrefixOf text then text.drop 6 else text

namespace Cli

lemma checkHostPort_eq_some {host portText : List Char} {address : CellAddress} :
    (checkHostPort host portText).toOption = some address ↔
      host ≠ [] ∧ portText ≠ [] ∧ (∀ c ∈ portText, c.isDigit = true) ∧ address.host = host ∧
        address.port = decimalValue portText ∧ 1 ≤ address.port ∧ address.port ≤ 65535 := by
  obtain ⟨host', port⟩ := address
  rw [checkHostPort]
  by_cases hhost : host = []
  · simp [hhost, Except.toOption]
  by_cases hdigits : portText ≠ [] ∧ ∀ c ∈ portText, c.isDigit = true
  · have hchecked : (portText.isEmpty || !portText.all Char.isDigit) = false := by
      simpa [List.isEmpty_iff] using hdigits
    rw [if_neg (by simpa using hhost), if_neg (by simp [hchecked])]
    dsimp only
    by_cases hrange : decimalValue portText < 1 ∨ 65535 < decimalValue portText
    · rw [if_pos hrange]
      simp only [Except.toOption, reduceCtorEq, false_iff]
      rintro ⟨-, -, -, -, rfl, hlow, hhigh⟩
      omega
    · rw [if_neg hrange]
      simp only [Except.toOption, Option.some.injEq, CellAddress.mk.injEq]
      constructor
      · rintro ⟨rfl, rfl⟩
        exact ⟨hhost, hdigits.1, hdigits.2, rfl, rfl, by omega, by omega⟩
      · rintro ⟨-, -, -, rfl, rfl, -⟩
        exact ⟨rfl, rfl⟩
  · have hchecked : (portText.isEmpty || !portText.all Char.isDigit) = true := by
      by_contra hfalse
      apply hdigits
      simpa [List.isEmpty_iff] using hfalse
    rw [if_neg (by simpa using hhost), if_pos hchecked]
    simp only [Except.toOption, reduceCtorEq, false_iff]
    rintro ⟨-, hne, hall, -⟩
    exact hdigits ⟨hne, hall⟩

lemma checkHostPort_nil (host : List Char) : (checkHostPort host []).toOption = none := by
  rw [checkHostPort]
  split <;> rfl

lemma isSeparator_of_isSchemeChar {c : Char} (h : isSchemeChar c = true) : isSeparator c = false := by
  rw [Bool.eq_false_iff]
  intro hsep
  simp only [isSeparator, Bool.or_eq_true, decide_eq_true_eq] at hsep
  rcases hsep with (rfl | rfl) | rfl <;> exact absurd h (by decide)

lemma parseAuthority_of_hasScheme {text : List Char} (h : hasScheme text = true) :
    (parseAuthority text).toOption = none := by
  cases text with
  | nil => cases h
  | cons c text =>
    rw [hasScheme, Bool.and_eq_true] at h
    obtain ⟨halpha, hprefix⟩ := h
    obtain ⟨rest, hrest⟩ := List.isPrefixOf_iff_prefix.1 hprefix
    have hscheme : ∀ x ∈ c :: text.takeWhile isSchemeChar, isSchemeChar x = true := by
      intro x hx
      rcases List.mem_cons.1 hx with rfl | hx
      · simp [isSchemeChar, Char.isAlphanum, halpha]
      · exact List.mem_takeWhile_imp hx
    have htail : text = text.takeWhile isSchemeChar ++ ':' :: '/' :: '/' :: rest := by
      calc text = text.takeWhile isSchemeChar ++ text.dropWhile isSchemeChar :=
            List.takeWhile_append_dropWhile.symm
        _ = _ := by rw [← hrest]; rfl
    have htext : c :: text = (c :: text.takeWhile isSchemeChar) ++ ':' :: '/' :: '/' :: rest :=
      congrArg (c :: ·) htail
    have hhostPort : (c :: text).takeWhile (fun c => !isSeparator c) =
        (c :: text.takeWhile isSchemeChar) ++ [':'] := by
      rw [htext, List.takeWhile_append_of_pos]
      · simp [isSeparator]
      · intro x hx
        simp [isSeparator_of_isSchemeChar (hscheme x hx)]
    have hbracket : c ≠ '[' := by
      rintro rfl
      exact absurd halpha (by decide)
    rw [parseAuthority, hhostPort, readHostPort, if_neg (by simp [hbracket]), splitLast_snoc (by simp)]
    show (checkHostPort (c :: text.takeWhile isSchemeChar) []).toOption = none
    exact checkHostPort_nil _

lemma toOption_parseCellUrl (url : List Char) :
    (parseCellUrl url).toOption = (parseAuthority (stripTcp (trimText url))).toOption := by
  rw [parseCellUrl, stripTcp]
  split
  · rfl
  · split
    · rw [parseAuthority_of_hasScheme ‹_›]
      rfl
    · rfl

lemma parseCellUrl_port {url : List Char} {address : CellAddress}
    (h : (parseCellUrl url).toOption = some address) : 1 ≤ address.port ∧ address.port ≤ 65535 := by
  rw [toOption_parseCellUrl, parseAuthority] at h
  cases hread : readHostPort ((stripTcp (trimText url)).takeWhile fun c => !isSeparator c) with
  | error e =>
    rw [hread] at h
    cases h
  | ok r =>
    rw [hread] at h
    exact (checkHostPort_eq_some.1 h).2.2.2.2.2

end Cli

end Pherry
