import Mathlib.Data.List.Lex
import Mathlib.Data.List.Sort
import Pherry.Protocol.Schema

/-!
# The JSON files of records

The files below `~/.pherry` that are one list of records under one key, read with a hand-written
shape guard and written whole. A text is what `JSON.parse` makes of it. The errors name the path and
the field at fault.
-/

namespace Pherry.Cli

open Protocol

/-! ## Files -/

/-- What is found where a file is looked for: nothing, something that `readFile` fails on, or a text,
which may be no JSON. -/
inductive FileContent
  | missing
  | unreadable (error : JsString)
  | text (json : Option Json)

/-- An object, and no array or `null`. -/
def isRecord : Json → Bool
  | .obj _ => true
  | _ => false

/-- `requireString`: a string that is not empty. -/
def requireString (value : Option Json) (field place : JsString) : Except JsString JsString :=
  match value with
  | some (.str (u :: s)) => .ok (u :: s)
  | _ => .error (place ++ js ": field '" ++ field ++ js "' must be a non-empty string")

lemma requireString_str {s : JsString} (h : s ≠ []) (field place : JsString) :
    requireString (some (.str s)) field place = .ok s := by
  cases s with
  | nil => exact absurd rfl h
  | cons u s => rfl

lemma ne_nil_of_requireString {value : Option Json} {field place s : JsString}
    (h : requireString value field place = .ok s) : s ≠ [] := by
  unfold requireString at h
  split at h
  · cases h
    exact List.cons_ne_nil _ _
  · cases h

/-- What the errors call a field of an entry. -/
def entryField (key : JsString) (index : ℕ) (field : String) : JsString :=
  key ++ js "[" ++ js (toString index) ++ js "]." ++ js field

/-- The text of a time, which is never empty. -/
abbrev Timestamp := { s : JsString // s ≠ [] }

/-- A list of records in a file: what the errors call it, the key of the list, and the guard and the
JSON of one record. -/
structure RecordFile (α : Type) where
  name : JsString
  key : JsString
  parseEntry : Json → ℕ → JsString → Except JsString α
  toJson : α → Json

namespace RecordFile

variable {α : Type} (f : RecordFile α)

/-- What the errors about the file begin with. -/
def malformed (path : JsString) : JsString := js "malformed " ++ f.name ++ js " at " ++ path

/-- The records of a list, up to the first that its guard refuses. -/
def parseEntries (place : JsString) : ℕ → List Json → Except JsString (List α)
  | _, [] => .ok []
  | index, entry :: rest => do
    let record ← f.parseEntry entry index place
    let records ← parseEntries place (index + 1) rest
    return record :: records

/-- The shape guard. -/
def parse (value : Json) (path : JsString) : Except JsString (List α) :=
  if isRecord value then
    match value.get f.key with
    | some (.arr items) => f.parseEntries (f.malformed path) 0 items
    | _ => .error (f.malformed path ++ js ": field '" ++ f.key ++ js "' must be an array")
  else .error (f.malformed path ++ js ": expected a JSON object")

/-- Read the records; a file that is not there has none. -/
def read (path : JsString) : FileContent → Except JsString (List α)
  | .missing => .ok []
  | .unreadable error => .error error
  | .text none => .error (f.malformed path ++ js ": not valid JSON")
  | .text (some value) => f.parse value path

/-- `persist`: the file with these records. -/
def written (records : List α) : FileContent :=
  .text (some (.obj [(f.key, .arr (records.map f.toJson))]))

/-- The guard of a record accepts what is written of a record that is `ok`, and nothing else. -/
structure Lawful (ok : α → Prop) : Prop where
  parse_toJson : ∀ record index place, ok record →
    f.parseEntry (f.toJson record) index place = .ok record
  ok_of_parse : ∀ value index place record, f.parseEntry value index place = .ok record → ok record

variable {f} {ok : α → Prop}

lemma Lawful.parseEntries_toJson (h : f.Lawful ok) (place : JsString) {records : List α}
    (hok : ∀ record ∈ records, ok record) (index : ℕ) :
    f.parseEntries place index (records.map f.toJson) = .ok records := by
  induction records generalizing index with
  | nil => rfl
  | cons record records ih =>
    have hrecord := h.parse_toJson record index place (hok record List.mem_cons_self)
    have hrest := ih (fun other hother => hok other (List.mem_cons_of_mem _ hother)) (index + 1)
    rw [List.map_cons, parseEntries, hrecord, hrest]
    rfl

lemma Lawful.read_written (h : f.Lawful ok) (path : JsString) {records : List α}
    (hok : ∀ record ∈ records, ok record) : f.read path (f.written records) = .ok records := by
  have hfield : Schema.field [(f.key, Json.arr (records.map f.toJson))] f.key =
      some (.arr (records.map f.toJson)) := by
    rw [Schema.field, List.find?_cons_of_pos (by simp)]
    rfl
  rw [written, read, parse, isRecord, if_pos rfl, Json.get, hfield]
  exact h.parseEntries_toJson _ hok 0

lemma Lawful.ok_of_parseEntries (h : f.Lawful ok) {place : JsString} {index : ℕ}
    {items : List Json} {records : List α} (hparse : f.parseEntries place index items = .ok records) :
    ∀ record ∈ records, ok record := by
  induction items generalizing index records with
  | nil =>
    cases hparse
    intro record hrecord
    cases hrecord
  | cons item items ih =>
    rw [parseEntries] at hparse
    cases hitem : f.parseEntry item index place with
    | error e =>
      rw [hitem] at hparse
      cases hparse
    | ok first =>
      cases hrest : f.parseEntries place (index + 1) items with
      | error e =>
        rw [hitem, hrest] at hparse
        cases hparse
      | ok rest =>
        rw [hitem, hrest] at hparse
        cases hparse
        intro record hrecord
        rcases List.mem_cons.1 hrecord with rfl | hrecord
        · exact h.ok_of_parse item index place record hitem
        · exact ih hrest record hrecord

lemma Lawful.ok_of_read (h : f.Lawful ok) {path : JsString} {content : FileContent}
    {records : List α} (hread : f.read path content = .ok records) :
    ∀ record ∈ records, ok record := by
  cases content with
  | missing =>
    cases hread
    intro record hrecord
    cases hrecord
  | unreadable error => cases hread
  | text json =>
    cases json with
    | none => cases hread
    | some value =>
      rw [read, parse] at hread
      split at hread
      · split at hread
        · exact h.ok_of_parseEntries hread
        · cases hread
      · cases hread

end RecordFile

/-! ## The order of a list -/

/-- The order of `localeCompare`. -/
structure Collation where
  le : JsString → JsString → Bool
  total : ∀ s t, le s t = true ∨ le t s = true
  trans : ∀ s t u, le s t = true → le t u = true → le s u = true

/-- The order of the code units. -/
def codeUnitOrder : Collation :=
  { le := fun s t => decide (s.map UInt16.toNat ≤ t.map UInt16.toNat)
    total := fun s t => by
      simp only [decide_eq_true_eq]
      exact le_total _ _
    trans := fun s t u hst htu => by
      simp only [decide_eq_true_eq] at *
      exact le_trans hst htu }

variable {α : Type} (c : Collation) (key : α → JsString)

/-- The records of a key, in their order. -/
def entriesOf (id : JsString) (records : List α) : List α :=
  records.filter fun record => key record = id

/-- Add a record or replace those of its key, and sort. -/
def replaceEntry (entry : α) (records : List α) : List α :=
  (records.filter (fun record => key record ≠ key entry) ++ [entry]).insertionSort
    fun a b => c.le (key a) (key b) = true

lemma entriesOf_insertionSort (id : JsString) (records : List α) :
    entriesOf key id (records.insertionSort fun a b => c.le (key a) (key b) = true) =
      entriesOf key id records := by
  have hrefl : ∀ s, c.le s s = true := fun s => or_self_iff.1 (c.total s s)
  have hpairwise : (entriesOf key id records).Pairwise fun a b => c.le (key a) (key b) = true := by
    refine List.pairwise_of_forall_mem_list fun a ha b hb => ?_
    have ha' : key a = id := by simpa using (List.mem_filter.1 ha).2
    have hb' : key b = id := by simpa using (List.mem_filter.1 hb).2
    rw [ha', hb']
    exact hrefl id
  have hsub := (List.sublist_insertionSort hpairwise List.filter_sublist).filter
    fun record => decide (key record = id)
  have hlength : (entriesOf key id
      (records.insertionSort fun a b => c.le (key a) (key b) = true)).length =
      (entriesOf key id records).length :=
    ((List.perm_insertionSort _ records).filter _).length_eq
  rw [entriesOf, List.filter_filter] at hsub
  simp only [Bool.and_self] at hsub
  exact (hsub.eq_of_length hlength.symm).symm

lemma mem_replaceEntry {entry record : α} {records : List α} :
    record ∈ replaceEntry c key entry records ↔
      record ∈ records ∧ key record ≠ key entry ∨ record = entry := by
  rw [replaceEntry, List.mem_insertionSort, List.mem_append, List.mem_filter, List.mem_singleton, decide_eq_true_eq]

/-- A written record is the only one of its key, and the records of the other keys stay. -/
lemma entriesOf_replaceEntry (entry : α) (records : List α) (id : JsString) :
    entriesOf key id (replaceEntry c key entry records) =
      if id = key entry then [entry] else entriesOf key id records := by
  rw [replaceEntry, entriesOf_insertionSort, entriesOf, List.filter_append, List.filter_filter]
  by_cases hid : id = key entry
  · subst hid
    rw [if_pos rfl]
    simp
  · have hne : ¬ key entry = id := fun h => hid h.symm
    have hboth : ∀ record ∈ records,
        (decide (key record = id) && decide (key record ≠ key entry)) = decide (key record = id) := by
      intro record _
      by_cases hrecord : key record = id
      · simp [hrecord, hid]
      · simp [hrecord]
    rw [if_neg hid, List.filter_congr hboth]
    simp [hne, entriesOf]

/-- No key stands twice. -/
def UniqueKeys (records : List α) : Prop := (records.map key).Nodup

lemma uniqueKeys_replaceEntry {entry : α} {records : List α} (h : UniqueKeys key records) :
    UniqueKeys key (replaceEntry c key entry records) := by
  have hfilter : UniqueKeys key (records.filter fun record => key record ≠ key entry) :=
    h.sublist (List.filter_sublist.map key)
  have happend : UniqueKeys key ((records.filter fun record => key record ≠ key entry) ++ [entry]) := by
    rw [UniqueKeys, List.map_append, List.nodup_append]
    refine ⟨hfilter, List.nodup_singleton _, ?_⟩
    intro a ha b hb hab
    obtain ⟨record, hrecord, rfl⟩ := List.mem_map.1 ha
    rw [List.map_singleton, List.mem_singleton] at hb
    rw [hb] at hab
    exact (by simpa using (List.mem_filter.1 hrecord).2 : key record ≠ key entry) hab
  exact (((List.perm_insertionSort _ _).map key).nodup_iff).2 happend

end Pherry.Cli
