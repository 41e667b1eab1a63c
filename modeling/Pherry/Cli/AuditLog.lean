import Pherry.Protocol.JsonScan
import Pherry.TornText

/-!
# The audit log of the host

Events are appended to a file, a line of JSON each, and a write can be torn: some of its bytes are in the file and
the rest never follow. The file is read line by line; a line that is no event is skipped.
-/

namespace Pherry.Cli

open Lib Protocol

/-! ## Events -/

/-- `AuditKind`. -/
inductive AuditKind
  | connectionAccepted
  | connectionRefused
  | connectionLocal
  | custodyReserve
  | custodyClaim
  | launch
  | deviceEnrolled
  | deviceRevoked

def AuditKind.text : AuditKind → JsString
  | connectionAccepted => js "connection-accepted"
  | connectionRefused => js "connection-refused"
  | connectionLocal => js "connection-local"
  | custodyReserve => js "custody-reserve"
  | custodyClaim => js "custody-claim"
  | launch => js "launch"
  | deviceEnrolled => js "device-enrolled"
  | deviceRevoked => js "device-revoked"

/-- `AuditEvent`, with the time that `appendAudit` stamps it with. -/
structure AuditEvent where
  stamp : JsString
  kind : AuditKind
  deviceKeyId : Option JsString
  transport : Option JsString
  detail : Option JsString

/-- A key that is left out where it has no value. -/
def optionalField (key : JsString) (value : Option JsString) : List (JsString × Json) :=
  value.toList.map fun value => (key, .str value)

/-- The object of an event. -/
def AuditEvent.fields (event : AuditEvent) : List (JsString × Json) :=
  [(js "at", .str event.stamp), (js "kind", .str event.kind.text)] ++
    optionalField (js "deviceKeyId") event.deviceKeyId ++
    optionalField (js "transport") event.transport ++ optionalField (js "detail") event.detail

def AuditEvent.json (event : AuditEvent) : Json := .obj event.fields

/-- The line of an event. -/
def AuditEvent.line (event : AuditEvent) : JsString := stringify event.json ++ [newline]

/-! ## The file -/

/-- The event of a line: an object with a time and a kind. -/
def auditLine (numberText : JsString → JsString) (line : JsString) : Option Json :=
  if trim line = [] then none
  else
    match parseJson numberText line with
    | none => none
    | some parsed =>
      match parsed.get (js "at"), parsed.get (js "kind") with
      | some (.str _), some (.str _) => some parsed
      | _, _ => none

/-- `events.slice(-limit)`, all of them where the limit is zero or there is none. -/
def lastEvents (limit : Option ℕ) (events : List Json) : List Json :=
  match limit with
  | none => events
  | some limit => if limit = 0 then events else events.drop (events.length - limit)

/-- `readAudit`; a file that is not there is empty. -/
def readAudit (numberText : JsString → JsString) (limit : Option ℕ) (file : Bytes) : List Json :=
  lastEvents limit ((linesOf (readText file)).filterMap (auditLine numberText))

/-- A call of `appendAudit`: its event, and how many bytes of its line reach the file. -/
structure AuditAppend where
  event : AuditEvent
  written : ℕ

/-- The bytes of its line. -/
def AuditAppend.bytes (a : AuditAppend) : Bytes := utf8 a.event.line

/-- The file, and the events whose append has completed. -/
structure AuditLog where
  file : Bytes
  completed : List AuditEvent

/-- `appendAudit`. -/
def AuditLog.append (s : AuditLog) (a : AuditAppend) : AuditLog where
  file := s.file ++ a.bytes.take a.written
  completed := if a.bytes.length ≤ a.written then s.completed ++ [a.event] else s.completed

/-- A log that is new. -/
def auditMachine : Machine AuditLog AuditAppend := ⟨⟨[], []⟩, AuditLog.append⟩

/-- An event is written where a line begins, and not cut off right before its line break. -/
def appendsLine (s : AuditLog) (a : AuditAppend) : Prop :=
  (s.file = [] ∨ s.file.getLast? = some 0x0A ∨ a.written = 0) ∧
    a.written ≠ (utf8 (stringify a.event.json)).length

/-! ## The text of an event -/

variable {numberText : JsString → JsString}

lemma newline_not_mem_unicodeEscape (u : UInt16) : newline ∉ unicodeEscape u := by
  have hdigit : ∀ n < 16, newline ≠ UInt16.ofNat (if n < 10 then 0x30 + n else 0x57 + n) := by decide
  have hu : u.toNat < 0x10000 := u.toNat_lt
  have hword : js "\\u" = [0x5C, 0x75] := by decide
  rw [unicodeEscape, hword]
  simp only [List.mem_append, List.mem_cons, List.not_mem_nil, or_false, not_or]
  exact ⟨⟨by decide, by decide⟩, hdigit _ (by omega), hdigit _ (by omega), hdigit _ (by omega), hdigit _ (by omega)⟩

lemma newline_not_mem_quoteUnit (u : UInt16) : newline ∉ quoteUnit u := by
  unfold quoteUnit
  split
  · decide
  · split
    · decide
    · split
      · decide
      · split
        · decide
        · split
          · decide
          · split
            · decide
            · split
              · decide
              · split
                · exact newline_not_mem_unicodeEscape u
                · next hplain =>
                  intro hmem
                  rw [← List.mem_singleton.1 hmem] at hplain
                  exact hplain (by decide)

lemma newline_not_mem_quote (s : JsString) : newline ∉ quote s := by
  have hunits : newline ∉ quoteUnits s := by
    induction s using quoteUnits.induct with
    | case1 => simp [quoteUnits]
    | case2 u => exact newline_not_mem_quoteUnit u
    | case3 u v rest hpair ih =>
      rw [quoteUnits, if_pos hpair]
      rw [Bool.and_eq_true] at hpair
      simp only [List.mem_cons, not_or]
      refine ⟨?_, ?_, ih⟩
      · rintro rfl
        exact absurd hpair.1 (by decide)
      · rintro rfl
        exact absurd hpair.2 (by decide)
    | case4 u v rest hpair ih =>
      rw [quoteUnits, if_neg hpair, List.mem_append, not_or]
      exact ⟨newline_not_mem_quoteUnit u, ih⟩
  rw [quote, List.mem_append, List.mem_append, not_or, not_or]
  exact ⟨⟨by decide, hunits⟩, by decide⟩

lemma newline_not_mem_stringifyFields {fields : List (JsString × Json)}
    (h : ∀ field ∈ fields, ∃ s, field.2 = .str s) : newline ∉ stringifyFields fields := by
  induction fields with
  | nil => simp [stringifyFields]
  | cons field fields ih =>
    obtain ⟨key, value⟩ := field
    obtain ⟨s, rfl⟩ : ∃ s, value = .str s := h _ List.mem_cons_self
    have hfield : newline ∉ quote key ++ [0x3A] ++ stringify (.str s) := by
      rw [stringify, List.mem_append, List.mem_append, not_or, not_or]
      exact ⟨⟨newline_not_mem_quote key, by decide⟩, newline_not_mem_quote s⟩
    cases fields with
    | nil => exact hfield
    | cons next rest =>
      rw [stringifyFields, List.mem_append, List.mem_append, not_or, not_or]
      exact ⟨⟨hfield, by decide⟩, ih fun field hfield => h field (List.mem_cons_of_mem _ hfield)⟩

lemma trim_cons_ne_nil {u : UInt16} (hu : isSpace u = false) (s : JsString) : trim (u :: s) ≠ [] := by
  intro hnil
  rw [trim, List.dropWhile_cons_of_neg (by rw [hu]; decide), List.reverse_eq_nil_iff,
    List.dropWhile_eq_nil_iff] at hnil
  have hspace := hnil u (by simp)
  rw [hu] at hspace
  simp at hspace

namespace AuditEvent

variable (event : AuditEvent)

lemma mem_fields {field : JsString × Json} (h : field ∈ event.fields) : ∃ s, field.2 = .str s := by
  have hoptional : ∀ key value, field ∈ optionalField key value → ∃ s, field.2 = .str s := by
    intro key value hmem
    obtain ⟨s, -, rfl⟩ := List.mem_map.1 hmem
    exact ⟨s, rfl⟩
  rw [fields, List.mem_append, List.mem_append, List.mem_append] at h
  rcases h with ((h | h) | h) | h
  · rcases List.mem_cons.1 h with rfl | h
    · exact ⟨_, rfl⟩
    · rw [List.mem_singleton.1 h]
      exact ⟨_, rfl⟩
  · exact hoptional _ _ h
  · exact hoptional _ _ h
  · exact hoptional _ _ h

lemma canonicalFields_strings {fields : List (JsString × Json)} (h : ∀ field ∈ fields, ∃ s, field.2 = .str s) :
    canonicalFields numberText fields := by
  induction fields with
  | nil => trivial
  | cons field fields ih =>
    obtain ⟨s, hs⟩ := h field List.mem_cons_self
    obtain ⟨key, value⟩ := field
    obtain rfl : value = .str s := hs
    exact ⟨trivial, ih fun field hfield => h field (List.mem_cons_of_mem _ hfield)⟩

lemma keys_sublist : (event.fields.map Prod.fst).Sublist
    [js "at", js "kind", js "deviceKeyId", js "transport", js "detail"] := by
  have hoptional : ∀ key value, ((optionalField key value).map Prod.fst).Sublist [key] := by
    intro key value
    cases value with
    | none => exact List.nil_sublist _
    | some value => exact List.Sublist.refl _
  rw [fields, List.map_append, List.map_append, List.map_append]
  exact (((List.Sublist.refl [js "at", js "kind"]).append (hoptional _ _)).append (hoptional _ _)).append
    (hoptional _ _)

lemma canonical : event.json.canonical numberText :=
  ⟨event.keys_sublist.nodup (by decide), canonicalFields_strings fun _ => event.mem_fields⟩

lemma text_eq : stringify event.json = 0x7B :: stringifyFields event.fields ++ [0x7D] := rfl

lemma parse : parseJson numberText (stringify event.json) = some event.json := parseJson_stringify event.canonical

lemma balanced_fields : Balanced (stringifyFields event.fields) := by
  have hparse : parseJson id (stringify event.json) = some event.json := event.parse
  rw [text_eq] at hparse
  exact balanced_inside hparse

lemma newline_not_mem : newline ∉ stringify event.json := by
  have hfields := newline_not_mem_stringifyFields fun _ => event.mem_fields
  rw [text_eq, List.cons_append, List.mem_cons, List.mem_append, not_or, not_or]
  exact ⟨by decide, hfields, by decide⟩

lemma stands_text : Stands (stringify event.json) := by
  have hcanonical : event.json.canonical id := event.canonical
  exact stands_stringify event.json hcanonical

lemma stands_line : Stands event.line := event.stands_text.append (stands_of_isAscii (by decide))

lemma utf8_line : utf8 event.line = utf8 (stringify event.json) ++ [0x0A] := utf8_append_newline _ []

lemma auditLine_text : auditLine numberText (stringify event.json) = some event.json := by
  have htrim : trim (stringify event.json) ≠ [] := trim_cons_ne_nil (by decide) _
  have hat : event.json.get (js "at") = some (.str event.stamp) := by
    rw [json, Json.get, fields, Schema.field, List.append_assoc, List.append_assoc, List.cons_append,
      List.find?_cons_of_pos (by simp)]
    rfl
  have hkind : event.json.get (js "kind") = some (.str event.kind.text) := by
    have hne : js "at" ≠ js "kind" := by decide
    rw [json, Json.get, fields, Schema.field, List.append_assoc, List.append_assoc, List.cons_append,
      List.find?_cons_of_neg (by simpa using hne), List.cons_append, List.find?_cons_of_pos (by simp)]
    rfl
  rw [auditLine, if_neg htrim, event.parse]
  simp only [hat, hkind]

lemma auditLine_torn {front rest torn : JsString} (hsplit : stringify event.json = front ++ rest)
    (hrest : rest ≠ []) (htorn : ∀ u ∈ torn, u = 0xFFFD) (hforeign : torn ≠ [] → ∀ u ∈ rest.head?, 0x80 ≤ u) :
    auditLine numberText (front ++ torn) = none := by
  have hascii : ∀ u ∈ torn, (0x80 : UInt16) ≤ u := by
    intro u hu
    rw [htorn u hu]
    decide
  rw [auditLine]
  by_cases hfront : front = []
  · -- a cut in front of the brace leaves nothing
    have htorn : torn = [] := by
      by_contra hne
      rw [hfront, List.nil_append, text_eq] at hsplit
      have hbrace := hforeign hne 0x7B (by rw [← hsplit]; rfl)
      revert hbrace
      decide
    rw [hfront, htorn]
    rfl
  · have hunread : parseJson numberText (front ++ torn) = none := by
      cases hparse : parseJson numberText (front ++ torn) with
      | none => rfl
      | some j =>
        exact absurd (balanced_of_parseJson hparse)
          (not_balanced_of_cut event.balanced_fields hsplit.symm hfront hrest hascii)
    rw [hunread]
    split <;> rfl

end AuditEvent

/-! ## Reading the file -/

/-- The lines of some events. -/
def auditText (events : List AuditEvent) : JsString := events.flatMap AuditEvent.line

lemma stands_auditText (events : List AuditEvent) : Stands (auditText events) := by
  induction events with
  | nil => exact ⟨rfl, by simp [auditText]⟩
  | cons event events ih =>
    rw [auditText, List.flatMap_cons]
    exact event.stands_line.append ih

lemma auditText_snoc (events : List AuditEvent) (event : AuditEvent) :
    auditText (events ++ [event]) = auditText events ++ event.line := by
  rw [auditText, List.flatMap_append, List.flatMap_singleton]
  rfl

lemma linesOf_auditText (events : List AuditEvent) (rest : JsString) :
    linesOf (auditText events ++ rest) = events.map (fun event => stringify event.json) ++ linesOf rest := by
  induction events with
  | nil => rfl
  | cons event events ih =>
    rw [auditText, List.flatMap_cons, AuditEvent.line, List.append_assoc, List.append_assoc,
      List.singleton_append, linesOf_append, linesOf_of_not_mem event.newline_not_mem, List.map_cons,
      List.singleton_append, List.cons_append]
    exact congrArg _ ih

lemma readAudit_torn (events : List AuditEvent) (event : AuditEvent) {n : ℕ}
    (hn : n < (utf8 (stringify event.json)).length) :
    readAudit numberText none (utf8 (auditText events) ++ (utf8 (stringify event.json)).take n) =
      events.map AuditEvent.json := by
  obtain ⟨front, rest, torn, hsplit, hrest, htorn, hforeign, hread⟩ :=
    readText_torn (stands_auditText events).1 event.stands_text.1 hn
  have hnewline : newline ∉ front ++ torn := by
    intro hmem
    rcases List.mem_append.1 hmem with hfront | hback
    · apply event.newline_not_mem
      rw [hsplit]
      exact List.mem_append_left _ hfront
    · exact absurd (htorn _ hback) (by decide)
  rw [readAudit, lastEvents, hread, linesOf_auditText, linesOf_of_not_mem hnewline, List.filterMap_append,
    List.filterMap_cons_none (event.auditLine_torn hsplit hrest htorn hforeign), List.filterMap_nil,
    List.append_nil, List.filterMap_map]
  have hlines : (auditLine numberText ∘ fun event : AuditEvent => stringify event.json) =
      some ∘ AuditEvent.json := funext fun e => e.auditLine_text
  rw [hlines, List.filterMap_eq_map]

/-! ## Runs -/

/-- The file holds the lines of the completed events, and what is left of one that was torn. -/
def KeepsSynced (s : AuditLog) : Prop :=
  ∃ (event : AuditEvent) (n : ℕ), n < (utf8 (stringify event.json)).length ∧
    s.file = utf8 (auditText s.completed) ++ (utf8 (stringify event.json)).take n

lemma length_text_pos (event : AuditEvent) : 0 < (utf8 (stringify event.json)).length := by
  have hne : stringify event.json ≠ [] := by
    rw [event.text_eq]
    simp
  exact List.length_pos_iff.2 (utf8_ne_nil hne)

lemma KeepsSynced.at_line {s : AuditLog} (h : KeepsSynced s) (hline : s.file = [] ∨ s.file.getLast? = some 0x0A) :
    s.file = utf8 (auditText s.completed) := by
  obtain ⟨event, n, hn, hfile⟩ := h
  have htorn : (utf8 (stringify event.json)).take n = [] := by
    by_contra hne
    rcases hline with hempty | hlast
    · rw [hfile] at hempty
      exact hne (List.append_eq_nil_iff.1 hempty).2
    · rw [hfile, List.getLast?_append_of_ne_nil _ hne] at hlast
      have hmem := List.mem_of_mem_take (List.mem_of_getLast? hlast)
      exact newline_not_mem_utf8 event.stands_text.1 event.newline_not_mem hmem
  rw [hfile, htorn, List.append_nil]

lemma KeepsSynced.append {s : AuditLog} (h : KeepsSynced s) {a : AuditAppend} (hline : appendsLine s a) : KeepsSynced (s.append a) := by
  have hpos := length_text_pos a.event
  have hlength : a.bytes.length = (utf8 (stringify a.event.json)).length + 1 := by
    rw [AuditAppend.bytes, a.event.utf8_line, List.length_append, List.length_singleton]
  obtain ⟨hstart, hcut⟩ := hline
  by_cases hnothing : a.written = 0
  · have hsame : s.append a = s := by
      rw [AuditLog.append, hnothing, List.take_zero, List.append_nil, if_neg (by omega)]
    rw [hsame]
    exact h
  · have hfile := h.at_line (by
      rcases hstart with hempty | hlast | hzero
      · exact .inl hempty
      · exact .inr hlast
      · exact absurd hzero hnothing)
    by_cases hcomplete : a.bytes.length ≤ a.written
    · refine ⟨a.event, 0, hpos, ?_⟩
      have hlow : ∀ v ∈ a.event.line.head?, isLowSurrogate v = false := a.event.stands_line.2
      rw [AuditLog.append, if_pos hcomplete, List.take_of_length_le hcomplete, hfile, auditText_snoc,
        utf8_append _ hlow, List.take_zero, List.append_nil]
      rfl
    · refine ⟨a.event, a.written, by omega, ?_⟩
      rw [AuditLog.append, if_neg hcomplete, hfile, AuditAppend.bytes, a.event.utf8_line,
        List.take_append_of_le_length (by omega)]

/-- As long as every event is written where a line begins and none is cut off right before its line break, the log
is read as the events that were completed. -/
theorem audit_survives (numberText : JsString → JsString) {appends : List AuditAppend}
    (h : auditMachine.Meets appendsLine appends) :
    readAudit numberText none (auditMachine.run appends).file =
      (auditMachine.run appends).completed.map AuditEvent.json := by
  have hkept : KeepsSynced (auditMachine.run appends) := by
    apply auditMachine.invariant_of_meets _ _ h
    · exact ⟨⟨[], .launch, none, none, none⟩, 0, length_text_pos _, rfl⟩
    · intro s a hline hs
      exact hs.append hline
  obtain ⟨event, n, hn, hfile⟩ := hkept
  rw [hfile]
  exact readAudit_torn _ event hn

/-- An event without a device. -/
def sampleEvent : AuditEvent := ⟨js "t", .launch, none, none, none⟩

/-- The whole line of an event. -/
def completeAppend (event : AuditEvent) : AuditAppend := ⟨event, (utf8 event.line).length⟩

/-- A log in which one event was completed, and the next one torn behind its brace. -/
theorem audit_survives_torn :
    let s := auditMachine.run [completeAppend sampleEvent, ⟨sampleEvent, 1⟩]
    readAudit id none s.file = s.completed.map AuditEvent.json := by
  apply audit_survives
  have hlength : 2 ≤ (utf8 (stringify sampleEvent.json)).length := by
    refine Nat.le_trans ?_ (length_le_utf8 _)
    rw [sampleEvent.text_eq, List.length_append, List.length_cons, List.length_singleton]
    omega
  have hline := sampleEvent.utf8_line
  have hfile : (auditMachine.run [completeAppend sampleEvent]).file =
      utf8 (stringify sampleEvent.json) ++ [0x0A] := by
    show ([] : Bytes) ++ (utf8 sampleEvent.line).take (utf8 sampleEvent.line).length = _
    rw [List.take_length, List.nil_append, hline]
  show auditMachine.Meets appendsLine ([] ++ [completeAppend sampleEvent] ++ [⟨sampleEvent, 1⟩])
  rw [auditMachine.meets_snoc, auditMachine.meets_snoc]
  refine ⟨⟨auditMachine.meets_nil _, .inl rfl, ?_⟩, .inr (.inl ?_), ?_⟩
  · show (utf8 sampleEvent.line).length ≠ _
    rw [hline, List.length_append, List.length_singleton]
    exact Nat.succ_ne_self _
  · rw [List.nil_append, hfile, List.getLast?_concat]
  · show 1 ≠ (utf8 (stringify sampleEvent.json)).length
    omega

lemma auditLine_glued (event : AuditEvent) : auditLine id (0x7B :: stringify event.json) = none := by
  have hunread : parseJson id (0x7B :: stringify event.json) = none := by
    cases hparse : parseJson id (0x7B :: stringify event.json) with
    | none => rfl
    | some j =>
      -- the brace in front is never closed
      have hbalanced := balanced_of_parseJson hparse
      have hparsed : parseJson id (stringify event.json) = some event.json := event.parse
      have hscan := (balanced_of_parseJson hparsed).scan 1
      rw [Protocol.Balanced, scanText_cons, show scanUnit (.out, 0) 0x7B = some (.out, 1) by rfl, Option.bind_some,
        hscan] at hbalanced
      simp at hbalanced
  rw [auditLine, hunread]
  split <;> rfl

/-- An event that is written behind a torn one is lost with it. -/
theorem not_audit_survives : ¬ ∀ (numberText : JsString → JsString) (appends : List AuditAppend),
    readAudit numberText none (auditMachine.run appends).file =
      (auditMachine.run appends).completed.map AuditEvent.json := by
  intro h
  have hread := h id [⟨sampleEvent, 1⟩, completeAppend sampleEvent]
  have hline : sampleEvent.line = 0x7B :: (stringifyFields sampleEvent.fields ++ [0x7D] ++ [newline]) := rfl
  have hbytes : utf8 sampleEvent.line = 0x7B :: utf8 (stringifyFields sampleEvent.fields ++ [0x7D] ++ [newline]) := by
    rw [hline, utf8_cons (by decide)]
    rfl
  have hfile : (auditMachine.run [⟨sampleEvent, 1⟩, completeAppend sampleEvent]).file =
      utf8 (0x7B :: stringify sampleEvent.json ++ newline :: []) := by
    show (([] : Bytes) ++ (utf8 sampleEvent.line).take 1) ++
      (utf8 sampleEvent.line).take (utf8 sampleEvent.line).length = _
    rw [List.take_length, List.nil_append, hbytes, List.cons_append, utf8_cons (by decide)]
    rfl
  have hcompleted : (auditMachine.run [⟨sampleEvent, 1⟩, completeAppend sampleEvent]).completed = [sampleEvent] := by
    have hlength := length_text_pos sampleEvent
    have htorn : (auditMachine.run [⟨sampleEvent, 1⟩]).completed = [] := by
      show (if (utf8 sampleEvent.line).length ≤ 1 then [sampleEvent] else []) = []
      rw [if_neg]
      rw [sampleEvent.utf8_line, List.length_append, List.length_singleton]
      omega
    show (if (utf8 sampleEvent.line).length ≤ (utf8 sampleEvent.line).length then
      (auditMachine.run [⟨sampleEvent, 1⟩]).completed ++ [sampleEvent]
      else (auditMachine.run [⟨sampleEvent, 1⟩]).completed) = [sampleEvent]
    rw [if_pos (Nat.le_refl _), htorn]
    rfl
  have hformed : isWellFormed (0x7B :: stringify sampleEvent.json ++ newline :: []) = true :=
    (((stands_of_isAscii (s := [0x7B]) (by decide)).append sampleEvent.stands_text).append
      (stands_of_isAscii (s := [newline]) (by decide))).1
  have hnewline : newline ∉ 0x7B :: stringify sampleEvent.json := by
    rw [List.mem_cons, not_or]
    exact ⟨by decide, sampleEvent.newline_not_mem⟩
  rw [hfile, hcompleted, readAudit, lastEvents, readText_utf8 hformed, linesOf_append,
    linesOf_of_not_mem hnewline, List.filterMap_append, List.filterMap_cons_none (auditLine_glued sampleEvent)] at hread
  simp [linesOf, auditLine, trim] at hread

end Pherry.Cli
