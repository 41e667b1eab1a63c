import Pherry.Cli.CellUrl

/-!
# Cell addresses, on the phone

`CellURL.parse`, which is to accept exactly what `parseCellUrl` accepts. A Swift string is its
Characters, and a Character is its Unicode scalars.
-/

namespace Pherry.PherryKit

open Lib

/-- The delimiters that the parser looks for. -/
def isDelimiter (c : Char) : Bool := isSeparator c || c = ':' || c = '[' || c = ']'

/-- What Swift's library knows of Unicode: the Characters of a text, the white space of Foundation, and
the letters and numbers. No Character is empty, and none goes on behind a printable ASCII scalar with
another one. -/
structure SwiftUnicode where
  characters : List Char → List (List Char)
  whitespacesAndNewlines : Char → Bool
  isLetter : Char → Bool
  isNumber : Char → Bool
  flatten_characters : ∀ text, (characters text).flatten = text
  ne_nil : ∀ text, ∀ c ∈ characters text, c ≠ []
  ascii : ∀ text x y rest, x :: y :: rest ∈ characters text →
    ¬((32 ≤ x.toNat ∧ x.toNat < 127) ∧ 32 ≤ y.toNat ∧ y.toNat < 127)
  letter_delimiter : ∀ c, isDelimiter c = true → isLetter c = false
  number_digit : ∀ c, c.isDigit = true → isNumber c = true
  number_punctuation : ∀ c, isDelimiter c = true ∨ c = '+' ∨ c = '-' → isNumber c = false

namespace CellURL

variable (u : SwiftUnicode)

/-- `trimmingCharacters(in: .whitespacesAndNewlines)`, which goes by scalars. -/
def trimmed (text : List Char) : List Char :=
  (text.dropWhile u.whitespacesAndNewlines).rdropWhile u.whitespacesAndNewlines

/-- `isLetter` of a Character is that of its first scalar. -/
def isLetter (c : List Char) : Bool := c.head?.any u.isLetter

/-- `isNumber` of a Character is that of its first scalar. -/
def isNumber (c : List Char) : Bool := c.head?.any u.isNumber

/-- What stands before the first `://`. -/
def beforeScheme : List (List Char) → Option (List (List Char))
  | [] => none
  | c :: text =>
    if [[':'], ['/'], ['/']].isPrefixOf (c :: text) then some []
    else (beforeScheme text).map (c :: ·)

/-- `hasScheme`. -/
def hasScheme (text : List (List Char)) : Bool :=
  match beforeScheme text with
  | none => false
  | some [] => false
  | some (first :: scheme) =>
    isLetter u first && (first :: scheme).all fun c =>
      isLetter u c || isNumber u c || c = ['+'] || c = ['.'] || c = ['-']

/-- What stands behind a sign that may be there. -/
def unsigned : List Char → List Char
  | '+' :: digits => digits
  | '-' :: digits => digits
  | digits => digits

/-- `UInt16(_:)` of a text. -/
def uint16 (text : List Char) : Option ℕ :=
  let digits := unsigned text
  let value := decimalValue digits
  if digits.isEmpty || !digits.all Char.isDigit then none
  else if text.head? = some '-' && value ≠ 0 || 65535 < value then none
  else some value

/-- The host and the text of the port. -/
def readHostPort (hostPort : List (List Char)) :
    Except CellUrlError (List (List Char) × List (List Char)) :=
  if hostPort.head? = some ['['] then
    match splitFirst (· = [']']) hostPort with
    | none => .error .unclosedBracket
    | some (before, rest) =>
      if rest.head? = some [':'] then .ok (before.drop 1, rest.drop 1) else .error .missingPort
  else
    match splitLast (· = [':']) hostPort with
    | none => .error .missingPort
    | some (host, portText) => .ok (host, portText)

/-- The checks of the host and the port. -/
def checkHostPort (host portText : List (List Char)) : Except CellUrlError CellAddress :=
  if host.isEmpty then .error .missingHost
  else if portText.isEmpty || !portText.all (isNumber u) then .error .invalidPort
  else
    match uint16 portText.flatten with
    | none => .error .invalidPort
    | some port => if 1 ≤ port then .ok ⟨host.flatten, port⟩ else .error .invalidPort

/-- An authority up to its path or query: the first part that `split` gives, which leaves out the empty
ones. -/
def parseAuthority (authority : List (List Char)) : Except CellUrlError CellAddress := do
  let parts := authority.dropWhile (only isSeparator)
  let r ← readHostPort (parts.takeWhile fun c => !only isSeparator c)
  checkHostPort u r.1 r.2

/-- `parse`. -/
def parse (url : List Char) : Except CellUrlError CellAddress :=
  let trimmed := u.characters (trimmed u url)
  if (tcpScheme.map fun c => [c]).isPrefixOf trimmed then parseAuthority u (trimmed.drop 6)
  else if hasScheme u trimmed then .error .unsupported
  else parseAuthority u trimmed

/-! ## What is accepted -/

variable {u}

lemma uint16_eq_some {text : List Char} (hplus : text.head? ≠ some '+') (hminus : text.head? ≠ some '-')
    {n : ℕ} : uint16 text = some n ↔
      text ≠ [] ∧ (∀ c ∈ text, c.isDigit = true) ∧ decimalValue text = n ∧ n ≤ 65535 := by
  have hdigits : unsigned text = text := by
    rw [unsigned.eq_def]
    split
    · exact absurd rfl hplus
    · exact absurd rfl hminus
    · rfl
  rw [uint16, hdigits]
  by_cases hall : text ≠ [] ∧ ∀ c ∈ text, c.isDigit = true
  · rw [if_neg (by simpa [List.isEmpty_iff] using hall)]
    by_cases hlarge : 65535 < decimalValue text
    · rw [if_pos (by simp [hlarge])]
      simp only [reduceCtorEq, false_iff]
      rintro ⟨-, -, rfl, hsmall⟩
      omega
    · rw [if_neg (by simp [hminus, hlarge]), Option.some_inj]
      constructor
      · rintro rfl
        exact ⟨hall.1, hall.2, rfl, by omega⟩
      · rintro ⟨-, -, rfl, -⟩
        rfl
  · rw [if_pos]
    · simp only [reduceCtorEq, false_iff]
      rintro ⟨hne, hdigit, -⟩
      exact hall ⟨hne, hdigit⟩
    · by_contra hfalse
      apply hall
      simpa [List.isEmpty_iff] using hfalse

/-- Both check a host and a port alike: the Characters of an accepted port are its digits. -/
lemma toOption_checkHostPort {host portText : List (List Char)} (hhost : ∀ c ∈ host, c ≠ [])
    (hport : ∀ c ∈ portText, c ≠ []) :
    (checkHostPort u host portText).toOption =
      (Cli.checkHostPort host.flatten portText.flatten).toOption := by
  ext address
  rw [Cli.checkHostPort_eq_some, Ne, flatten_eq_nil hhost, Ne, flatten_eq_nil hport, checkHostPort]
  by_cases hempty : host = []
  · simp [hempty, Except.toOption]
  rw [if_neg (by simpa using hempty)]
  by_cases hnumbers : portText ≠ [] ∧ ∀ c ∈ portText, isNumber u c = true
  · rw [if_neg (by simpa [List.isEmpty_iff] using hnumbers)]
    -- no number begins with a sign
    have hsign : ∀ x, x = '+' ∨ x = '-' → portText.flatten.head? ≠ some x := by
      intro x hx
      obtain ⟨c, cs, rfl⟩ := List.exists_cons_of_ne_nil hnumbers.1
      obtain ⟨y, c', rfl⟩ := List.exists_cons_of_ne_nil (hport c List.mem_cons_self)
      have hy : u.isNumber y = true := by simpa [isNumber] using hnumbers.2 _ List.mem_cons_self
      rintro heq
      obtain rfl : y = x := by simpa using heq
      rw [u.number_punctuation y (Or.inr hx)] at hy
      cases hy
    have hvalue := fun n => uint16_eq_some (n := n) (hsign '+' (Or.inl rfl)) (hsign '-' (Or.inr rfl))
    cases hn : uint16 portText.flatten with
    | none =>
      simp only [Except.toOption, reduceCtorEq, false_iff]
      rintro ⟨-, -, hdigits, -, hvalue', -, hhigh⟩
      have hsome := (hvalue address.port).2
        ⟨by simpa [flatten_eq_nil hport] using hnumbers.1, hdigits, hvalue'.symm, hhigh⟩
      rw [hn] at hsome
      cases hsome
    | some n =>
      obtain ⟨-, hdigits, rfl, hhigh⟩ := (hvalue n).1 hn
      obtain ⟨host', port⟩ := address
      dsimp only
      split
      · simp only [Except.toOption, Option.some.injEq, CellAddress.mk.injEq]
        constructor
        · rintro ⟨rfl, rfl⟩
          exact ⟨hempty, hnumbers.1, hdigits, rfl, rfl, ‹_›, hhigh⟩
        · rintro ⟨-, -, -, rfl, rfl, -⟩
          exact ⟨rfl, rfl⟩
      · simp only [Except.toOption, reduceCtorEq, false_iff]
        rintro ⟨-, -, -, -, rfl, hlow, -⟩
        omega
  · rw [if_pos]
    · simp only [Except.toOption, reduceCtorEq, false_iff]
      rintro ⟨-, hne, hdigits, -⟩
      apply hnumbers
      refine ⟨hne, ?_⟩
      intro c hc
      obtain ⟨y, c', rfl⟩ := List.exists_cons_of_ne_nil (hport c hc)
      have hy := hdigits y (List.mem_flatten.2 ⟨_, hc, List.mem_cons_self⟩)
      simp [isNumber, u.number_digit y hy]
    · by_contra hfalse
      apply hnumbers
      simpa [List.isEmpty_iff] using hfalse

/-! ## The two parsers on one text -/

lemma alone_of_isDelimiter {cs : List (List Char)} (h : Alone isDelimiter cs) {d : Char}
    (hd : isDelimiter d = true) : Alone (fun x => decide (x = d)) cs := by
  apply h.mono
  intro x hx
  rw [of_decide_eq_true hx]
  exact hd

lemma head?_eq_delimiter {cs : List (List Char)} (h : Alone isDelimiter cs) (hne : ∀ c ∈ cs, c ≠ [])
    {d : Char} (hd : isDelimiter d = true) : cs.flatten.head? = some d ↔ cs.head? = some [d] := by
  have hhead := head?_flatten (alone_of_isDelimiter h hd) hne
  rw [only_eq, Bool.eq_iff_iff, Option.any_eq_true, Option.any_eq_true] at hhead
  simpa using hhead

lemma readHostPort_flatten {cs : List (List Char)} (h : Alone isDelimiter cs) (hne : ∀ c ∈ cs, c ≠ []) :
    Cli.readHostPort cs.flatten = (readHostPort cs).map fun r => (r.1.flatten, r.2.flatten) := by
  have hcolon : isDelimiter ':' = true := by decide
  have hclose : isDelimiter ']' = true := by decide
  have hopen : isDelimiter '[' = true := by decide
  rw [Cli.readHostPort, readHostPort]
  by_cases hhead : cs.head? = some ['[']
  · rw [if_pos ((head?_eq_delimiter h hne hopen).2 hhead), if_pos hhead,
      splitFirst_flatten (alone_of_isDelimiter h hclose), only_eq]
    obtain ⟨ds, rfl⟩ : ∃ ds, cs = ['['] :: ds := by
      cases cs with
      | nil => cases hhead
      | cons c cs => exact ⟨cs, by rw [Option.some.inj hhead]⟩
    cases hsplit : splitFirst (fun c => decide (c = [']'])) ds with
    | none => simp [splitFirst, hsplit, Except.map]
    | some r =>
      obtain ⟨before, rest⟩ := r
      have hrest : ∀ c ∈ rest, c ∈ ds := by
        obtain ⟨x, -, rfl⟩ := splitFirst_eq_some hsplit
        intro c hc
        simp [hc]
      have hiff : rest.flatten.head? = some ':' ↔ rest.head? = some [':'] :=
        head?_eq_delimiter (fun c hc => h c (List.mem_cons_of_mem _ (hrest c hc)))
          (fun c hc => hne c (List.mem_cons_of_mem _ (hrest c hc))) hcolon
      by_cases hport : rest.head? = some [':']
      · obtain ⟨ports, rfl⟩ : ∃ ports, rest = [':'] :: ports := by
          cases rest with
          | nil => cases hport
          | cons c rest => exact ⟨rest, by rw [Option.some.inj hport]⟩
        simp [splitFirst, hsplit, Except.map]
      · have hport' : rest.flatten.head? ≠ some ':' := fun heq => hport (hiff.1 heq)
        simp [splitFirst, hsplit, Except.map, hport, hport']
  · have hhead' : cs.flatten.head? ≠ some '[' := fun heq => hhead ((head?_eq_delimiter h hne hopen).1 heq)
    rw [if_neg hhead', if_neg hhead, splitLast_flatten (alone_of_isDelimiter h hcolon), only_eq]
    cases splitLast (fun c => decide (c = [':'])) cs with
    | none => rfl
    | some r => rfl

lemma readHostPort_subset {cs : List (List Char)} {r : List (List Char) × List (List Char)}
    (h : readHostPort cs = .ok r) : (∀ c ∈ r.1, c ∈ cs) ∧ ∀ c ∈ r.2, c ∈ cs := by
  rw [readHostPort] at h
  split at h
  · split at h
    · cases h
    · rename_i before rest hsplit
      obtain ⟨x, -, rfl⟩ := splitFirst_eq_some hsplit
      split at h
      · obtain rfl := Except.ok.inj h
        refine ⟨?_, ?_⟩
        · intro c hc
          exact List.mem_append_left _ (List.mem_of_mem_drop hc)
        · intro c hc
          exact List.mem_append_right _ (List.mem_cons_of_mem _ (List.mem_of_mem_drop hc))
      · cases h
  · split at h
    · cases h
    · rename_i host portText hsplit
      obtain ⟨x, -, rfl⟩ := splitLast_eq_some hsplit
      obtain rfl := Except.ok.inj h
      refine ⟨?_, ?_⟩
      · intro c hc
        exact List.mem_append_left _ hc
      · intro c hc
        exact List.mem_append_right _ (List.mem_cons_of_mem _ hc)

/-- On an authority the phone reads what the CLI reads behind the leading separators. -/
lemma toOption_parseAuthority {cs : List (List Char)} (h : Alone isDelimiter cs) (hne : ∀ c ∈ cs, c ≠ []) :
    (parseAuthority u cs).toOption =
      (Cli.parseAuthority (cs.flatten.dropWhile isSeparator)).toOption := by
  have hseparator : ∀ x, isSeparator x = true → isDelimiter x = true := by
    intro x hx
    simp [isDelimiter, hx]
  have hparts : (cs.dropWhile (only isSeparator)).Sublist cs := List.dropWhile_sublist _
  set parts := (cs.dropWhile (only isSeparator)).takeWhile fun c => !only isSeparator c with hparts'
  have hsub : parts.Sublist cs := (List.takeWhile_sublist _).trans hparts
  have hflatten : (cs.flatten.dropWhile isSeparator).takeWhile (fun c => !isSeparator c) = parts.flatten := by
    rw [hparts', flatten_takeWhile ((h.sublist hparts).mono hseparator), flatten_dropWhile (h.mono hseparator) hne]
  have hne' : ∀ c ∈ parts, c ≠ [] := fun c hc => hne c (hsub.subset hc)
  rw [parseAuthority, Cli.parseAuthority, hflatten, readHostPort_flatten (h.sublist hsub) hne', ← hparts']
  cases hread : readHostPort parts with
  | error e => rfl
  | ok r =>
    obtain ⟨hhost, hport⟩ := readHostPort_subset hread
    exact toOption_checkHostPort (fun c hc => hne' c (hhost c hc)) (fun c hc => hne' c (hport c hc))

lemma beforeScheme_eq_some {cs w : List (List Char)} (h : beforeScheme cs = some w) :
    ∃ rest, cs = w ++ [':'] :: ['/'] :: ['/'] :: rest := by
  induction cs generalizing w with
  | nil => cases h
  | cons c cs ih =>
    rw [beforeScheme] at h
    split at h
    · rename_i hprefix
      obtain rfl := Option.some.inj h
      obtain ⟨rest, hrest⟩ := List.isPrefixOf_iff_prefix.1 hprefix
      exact ⟨rest, hrest.symm⟩
    · obtain ⟨w', hw', rfl⟩ := Option.map_eq_some_iff.1 h
      obtain ⟨rest, hrest⟩ := ih hw'
      exact ⟨rest, by rw [hrest]; rfl⟩

lemma only_isSeparator_of_scheme {c : List Char}
    (h : (isLetter u c || isNumber u c || c = ['+'] || c = ['.'] || c = ['-']) = true) :
    only isSeparator c = false := by
  rw [Bool.eq_false_iff]
  intro honly
  match c with
  | [] => cases honly
  | [x] =>
    have hx : isSeparator x = true := honly
    have hdelimiter : isDelimiter x = true := by simp [isDelimiter, hx]
    simp only [isLetter, isNumber, List.head?_cons, Option.any_some, u.letter_delimiter x hdelimiter,
      u.number_punctuation x (Or.inl hdelimiter), List.cons.injEq, and_true, Bool.false_or,
      Bool.or_eq_true, decide_eq_true_eq] at h
    rcases h with (rfl | rfl) | rfl <;> exact absurd hx (by decide)
  | _ :: _ :: _ => cases honly

lemma parseAuthority_of_hasScheme {cs : List (List Char)} (h : hasScheme u cs = true) :
    (parseAuthority u cs).toOption = none := by
  rw [hasScheme] at h
  split at h
  · cases h
  · cases h
  · rename_i first scheme hscheme
    rw [Bool.and_eq_true] at h
    obtain ⟨hletter, hall⟩ := h
    obtain ⟨rest, rfl⟩ := beforeScheme_eq_some hscheme
    have hscheme : ∀ c ∈ first :: scheme, only isSeparator c = false := by
      intro c hc
      exact only_isSeparator_of_scheme (List.all_eq_true.1 hall c hc)
    have hparts : ((first :: scheme) ++ [':'] :: ['/'] :: ['/'] :: rest).dropWhile (only isSeparator) =
        (first :: scheme) ++ [':'] :: ['/'] :: ['/'] :: rest := by
      rw [List.cons_append, List.dropWhile_cons_of_neg (by simp [hscheme first])]
    have hhostPort : ((first :: scheme) ++ [':'] :: ['/'] :: ['/'] :: rest).takeWhile
        (fun c => !only isSeparator c) = (first :: scheme) ++ [[':']] := by
      rw [List.takeWhile_append_of_pos]
      · simp [only, isSeparator]
      · intro c hc
        simp [hscheme c hc]
    have hbracket : first ≠ ['['] := by
      rintro rfl
      have hopen : u.isLetter '[' = true := hletter
      rw [u.letter_delimiter '[' (by decide)] at hopen
      cases hopen
    rw [parseAuthority, hparts, hhostPort, readHostPort, if_neg (by simp [hbracket]), splitLast_snoc (by simp)]
    show (checkHostPort u (first :: scheme) []).toOption = none
    rfl

/-! ## The scheme of TCP -/

/-- What stands behind a `tcp://` that may be there. -/
def stripTcpPrefix (cs : List (List Char)) : List (List Char) :=
  if (tcpScheme.map fun c => [c]).isPrefixOf cs then cs.drop 6 else cs

lemma toOption_parse (url : List Char) :
    (parse u url).toOption =
      (parseAuthority u (stripTcpPrefix (u.characters (trimmed u url)))).toOption := by
  rw [parse, stripTcpPrefix]
  split
  · rfl
  · split
    · rw [parseAuthority_of_hasScheme ‹_›]
      rfl
    · rfl

lemma cons_of_ascii {cs : List (List Char)} (hne : ∀ c ∈ cs, c ≠ [])
    (hascii : ∀ x y rest, x :: y :: rest ∈ cs →
      ¬((32 ≤ x.toNat ∧ x.toNat < 127) ∧ 32 ≤ y.toNat ∧ y.toNat < 127))
    {x y : Char} {l : List Char} (hx : 32 ≤ x.toNat ∧ x.toNat < 127) (hy : 32 ≤ y.toNat ∧ y.toNat < 127)
    (hl : cs.flatten = x :: y :: l) : ∃ ds, cs = [x] :: ds ∧ ds.flatten = y :: l := by
  cases cs with
  | nil => cases hl
  | cons c cs =>
    obtain ⟨z, c', rfl⟩ := List.exists_cons_of_ne_nil (hne c List.mem_cons_self)
    obtain ⟨rfl, htail⟩ := List.cons.inj hl
    cases c' with
    | nil => exact ⟨cs, rfl, htail⟩
    | cons w c' =>
      obtain ⟨rfl, -⟩ := List.cons.inj htail
      exact absurd ⟨hx, hy⟩ (hascii _ _ _ List.mem_cons_self)

/-- Where the delimiters are Characters, a text begins with `tcp://` for both or for neither. -/
lemma flatten_stripTcpPrefix {text : List Char} (h : Alone isDelimiter (u.characters text)) :
    (stripTcpPrefix (u.characters text)).flatten = stripTcp text := by
  have hflatten := u.flatten_characters text
  have hne := u.ne_nil text
  have hascii := u.ascii text
  rw [stripTcpPrefix, stripTcp]
  generalize u.characters text = cs at h hflatten hne hascii
  by_cases hprefix : (tcpScheme.map fun c => [c]).isPrefixOf cs = true
  · obtain ⟨rest, rfl⟩ := List.isPrefixOf_iff_prefix.1 hprefix
    rw [if_pos hprefix, if_pos, ← hflatten]
    · rfl
    · rw [← hflatten]
      rfl
  · rw [if_neg hprefix, if_neg, hflatten]
    intro htcp
    obtain ⟨l, rfl⟩ := List.isPrefixOf_iff_prefix.1 htcp
    apply hprefix
    -- the letters are followed by ASCII, the rest are delimiters
    obtain ⟨cs, rfl, h1⟩ := cons_of_ascii hne hascii (by decide) (by decide) hflatten
    obtain ⟨cs, rfl, h2⟩ := cons_of_ascii (fun c hc => hne c (by simp [hc]))
      (fun x y r hr => hascii x y r (by simp [hr])) (by decide) (by decide) h1
    obtain ⟨cs, rfl, h3⟩ := cons_of_ascii (fun c hc => hne c (by simp [hc]))
      (fun x y r hr => hascii x y r (by simp [hr])) (by decide) (by decide) h2
    obtain ⟨cs, rfl, h4⟩ := h.tail.tail.tail.cons_of_flatten (fun c hc => hne c (by simp [hc])) (by decide) h3
    obtain ⟨cs, rfl, h5⟩ :=
      h.tail.tail.tail.tail.cons_of_flatten (fun c hc => hne c (by simp [hc])) (by decide) h4
    obtain ⟨cs, rfl, -⟩ :=
      h.tail.tail.tail.tail.tail.cons_of_flatten (fun c hc => hne c (by simp [hc])) (by decide) h5
    rfl

lemma stripTcpPrefix_sublist (cs : List (List Char)) : (stripTcpPrefix cs).Sublist cs := by
  rw [stripTcpPrefix]
  split
  · exact List.drop_sublist _ _
  · exact List.Sublist.refl _

lemma toOption_parse_eq {url : List Char} (h : Alone isDelimiter (u.characters (trimmed u url))) :
    (parse u url).toOption =
      (Cli.parseAuthority ((stripTcp (trimmed u url)).dropWhile isSeparator)).toOption := by
  have hsub := stripTcpPrefix_sublist (u.characters (trimmed u url))
  rw [toOption_parse, toOption_parseAuthority (h.sublist hsub)
    (fun c hc => u.ne_nil _ c (hsub.subset hc)), flatten_stripTcpPrefix h]

lemma uint16_le {text : List Char} {n : ℕ} (h : uint16 text = some n) : n ≤ 65535 := by
  rw [uint16] at h
  split at h
  · cases h
  · split at h
    · cases h
    · rename_i hrange
      obtain rfl := Option.some.inj h
      simp only [Bool.or_eq_true, decide_eq_true_eq, not_or] at hrange
      omega

lemma parse_port {url : List Char} {address : CellAddress} (h : (parse u url).toOption = some address) :
    1 ≤ address.port ∧ address.port ≤ 65535 := by
  rw [toOption_parse, parseAuthority] at h
  cases hread : readHostPort (((stripTcpPrefix (u.characters (trimmed u url))).dropWhile
      (only isSeparator)).takeWhile fun c => !only isSeparator c) with
  | error e =>
    rw [hread] at h
    cases h
  | ok r =>
    rw [hread] at h
    replace h : (checkHostPort u r.1 r.2).toOption = some address := h
    rw [checkHostPort] at h
    split at h
    · cases h
    · split at h
      · cases h
      · split at h
        · cases h
        · rename_i port hport
          split at h
          · obtain rfl := Option.some.inj h
            exact ⟨‹_›, uint16_le hport⟩
          · cases h

end CellURL

/-! ## Agreement -/

/-- Both parsers refuse a text, or both accept it with one host and port, which is one that TCP has. -/
structure CellUrlsAgree (u : SwiftUnicode) (url : List Char) : Prop where
  same : (Cli.parseCellUrl url).toOption = (CellURL.parse u url).toOption
  cli : ∀ address, (Cli.parseCellUrl url).toOption = some address → 1 ≤ address.port ∧ address.port ≤ 65535
  phone : ∀ address, (CellURL.parse u url).toOption = some address → 1 ≤ address.port ∧ address.port ≤ 65535

/-- Behind a `tcp://` that may be there, separators stand before an address. -/
def SeparatorsLead (url : List Char) : Prop :=
  let authority := stripTcp (Cli.trimText url)
  authority.head?.any isSeparator = true ∧
    (Cli.parseAuthority (authority.dropWhile isSeparator)).toOption.isSome = true

lemma parseAuthority_separator {authority : List Char} (h : authority.head?.any isSeparator = true) :
    (Cli.parseAuthority authority).toOption = none := by
  cases authority with
  | nil => cases h
  | cons c authority =>
    have hc : isSeparator c = true := h
    rw [Cli.parseAuthority, List.takeWhile_cons_of_neg (by simp [hc])]
    rfl

/-- Swift's library on ASCII. -/
def asciiUnicode : SwiftUnicode where
  characters := fun text => text.map fun c => [c]
  whitespacesAndNewlines := Cli.isTrimmed
  isLetter := Char.isAlpha
  isNumber := Char.isDigit
  flatten_characters := by
    intro text
    induction text with
    | nil => rfl
    | cons c text ih => exact congrArg (c :: ·) ih
  ne_nil := by simp
  ascii := by simp
  letter_delimiter := by
    intro c hc
    simp only [isDelimiter, isSeparator, Bool.or_eq_true, decide_eq_true_eq] at hc
    rcases hc with ((((rfl | rfl) | rfl) | rfl) | rfl) | rfl <;> decide
  number_digit := fun c hc => hc
  number_punctuation := by
    intro c hc
    simp only [isDelimiter, isSeparator, Bool.or_eq_true, decide_eq_true_eq] at hc
    rcases hc with (((((rfl | rfl) | rfl) | rfl) | rfl) | rfl) | rfl | rfl <;> decide

lemma alone_asciiUnicode (text : List Char) : Alone isDelimiter (asciiUnicode.characters text) := by
  intro c hc x hx _
  obtain ⟨y, -, rfl⟩ := List.mem_map.1 hc
  rw [List.mem_singleton.1 hx]

end Pherry.PherryKit
