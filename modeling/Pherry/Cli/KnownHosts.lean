import Pherry.Cli.JsonFile
import Pherry.Protocol.DeviceAuth

/-!
# The known hosts

`~/.pherry/known_hosts.json`: the static key that a controller pins for each host.
-/

namespace Pherry.Cli

open Protocol

/-- A trusted host. -/
structure KnownHost where
  hostId : JsString
  staticPublicKeyB64 : JsString
  label : JsString
  addedAt : JsString

/-- No text of a host is empty. -/
structure KnownHost.WellFormed (h : KnownHost) : Prop where
  hostId : h.hostId ≠ []
  staticPublicKeyB64 : h.staticPublicKeyB64 ≠ []
  label : h.label ≠ []
  addedAt : h.addedAt ≠ []

/-- `parseEntry`. -/
def parseKnownHost (value : Json) (index : ℕ) (place : JsString) : Except JsString KnownHost :=
  if isRecord value then do
    let string (field : String) :=
      requireString (value.get (js field)) (entryField (js "hosts") index field) place
    let hostId ← string "hostId"
    let staticPublicKeyB64 ← string "staticPublicKeyB64"
    let label ← string "label"
    let addedAt ← string "addedAt"
    return ⟨hostId, staticPublicKeyB64, label, addedAt⟩
  else .error (place ++ js ": hosts[" ++ js (toString index) ++ js "] must be an object")

/-- What `JSON.stringify` writes of a host. -/
def KnownHost.toJson (h : KnownHost) : Json :=
  .obj [(js "hostId", .str h.hostId), (js "staticPublicKeyB64", .str h.staticPublicKeyB64),
    (js "label", .str h.label), (js "addedAt", .str h.addedAt)]

/-- `known_hosts.json`. -/
def knownHostsFile : RecordFile KnownHost :=
  { name := js "known hosts", key := js "hosts", parseEntry := parseKnownHost
    toJson := KnownHost.toJson }

/-- `readKnownHosts`. -/
def readKnownHosts (path : JsString) (file : FileContent) : Except JsString (List KnownHost) :=
  knownHostsFile.read path file

/-- `lookupKnownHost`. -/
def lookupKnownHost (hostId path : JsString) (file : FileContent) :
    Except JsString (Option KnownHost) := do
  let hosts ← readKnownHosts path file
  return hosts.find? fun host => host.hostId = hostId

/-- `writeKnownHost`: the file behind it. -/
def writeKnownHost (c : Collation) (path : JsString) (entry : KnownHost) (file : FileContent) :
    Except JsString FileContent :=
  match decodeKey entry.staticPublicKeyB64 with
  | none => .error (js "invalid channel key: expected canonical base64 of 32 bytes")
  | some _ => do
    let hosts ← readKnownHosts path file
    return knownHostsFile.written (replaceEntry c KnownHost.hostId entry hosts)

/-- `forgetKnownHost`: the file behind it, where the host was known. -/
def forgetKnownHost (hostId path : JsString) (file : FileContent) :
    Except JsString (Option FileContent) := do
  let hosts ← readKnownHosts path file
  let next := hosts.filter fun host => host.hostId ≠ hostId
  return if next.length = hosts.length then none else some (knownHostsFile.written next)

/-! ## What is read and written -/

lemma parseKnownHost_toJson {h : KnownHost} (hok : h.WellFormed) (index : ℕ) (place : JsString) :
    parseKnownHost h.toJson index place = .ok h := by
  have hid : h.toJson.get (js "hostId") = some (.str h.hostId) := rfl
  have hkey : h.toJson.get (js "staticPublicKeyB64") = some (.str h.staticPublicKeyB64) := rfl
  have hlabel : h.toJson.get (js "label") = some (.str h.label) := rfl
  have hadded : h.toJson.get (js "addedAt") = some (.str h.addedAt) := rfl
  have hrecord : isRecord h.toJson = true := rfl
  rw [parseKnownHost, if_pos hrecord]
  simp only [hid, hkey, hlabel, hadded, requireString_str hok.hostId,
    requireString_str hok.staticPublicKeyB64, requireString_str hok.label,
    requireString_str hok.addedAt]
  rfl

lemma wellFormed_of_parseKnownHost {value : Json} {index : ℕ} {place : JsString} {h : KnownHost}
    (hparse : parseKnownHost value index place = .ok h) : h.WellFormed := by
  unfold parseKnownHost at hparse
  split at hparse
  · simp only [bind, Except.bind] at hparse
    split at hparse
    · cases hparse
    next _ hostId hid =>
    split at hparse
    · cases hparse
    next _ staticPublicKeyB64 hkey =>
    split at hparse
    · cases hparse
    next _ label hlabel =>
    split at hparse
    · cases hparse
    next _ addedAt hadded =>
    cases hparse
    exact ⟨ne_nil_of_requireString hid, ne_nil_of_requireString hkey,
      ne_nil_of_requireString hlabel, ne_nil_of_requireString hadded⟩
  · cases hparse

lemma knownHostsFile_lawful : knownHostsFile.Lawful KnownHost.WellFormed :=
  ⟨fun _ index place h => parseKnownHost_toJson h index place,
    fun _ _ _ _ h => wellFormed_of_parseKnownHost h⟩

/-- The text of the key that is stored for a host, in a file that parses. -/
def storedKey (hostId path : JsString) (file : FileContent) : Option JsString :=
  match lookupKnownHost hostId path file with
  | .ok (some host) => some host.staticPublicKeyB64
  | _ => none

lemma storedKey_writeKnownHost {c : Collation} {path : JsString} {entry : KnownHost}
    {file next : FileContent} (hok : entry.WellFormed)
    (h : writeKnownHost c path entry file = .ok next) :
    storedKey entry.hostId path next = some entry.staticPublicKeyB64 := by
  rw [writeKnownHost] at h
  split at h
  · cases h
  · cases hread : readKnownHosts path file with
    | error e =>
      rw [hread] at h
      cases h
    | ok hosts =>
      rw [hread] at h
      cases h
      have hformed : ∀ host ∈ replaceEntry c KnownHost.hostId entry hosts, host.WellFormed := by
        intro host hhost
        rcases (mem_replaceEntry c _).1 hhost with ⟨hhost, -⟩ | rfl
        · exact knownHostsFile_lawful.ok_of_read hread host hhost
        · exact hok
      have hback : readKnownHosts path (knownHostsFile.written (replaceEntry c KnownHost.hostId entry
          hosts)) = .ok (replaceEntry c KnownHost.hostId entry hosts) :=
        knownHostsFile_lawful.read_written path hformed
      have hfind : (replaceEntry c KnownHost.hostId entry hosts).find?
          (fun host => host.hostId = entry.hostId) = some entry := by
        have hentries := entriesOf_replaceEntry c KnownHost.hostId entry hosts entry.hostId
        rw [if_pos rfl] at hentries
        rw [← List.head?_filter]
        exact congrArg List.head? hentries
      rw [storedKey, lookupKnownHost, hback]
      simp only [bind, Except.bind, pure, Except.pure, hfind]

/-! ## The pins of a run -/

/-- A call of `writeKnownHost` or of `forgetKnownHost`. -/
inductive PinCall
  | write (entry : { h : KnownHost // h.WellFormed })
  | forget (hostId : JsString)

/-- The file behind a call; one that throws leaves it. -/
def PinCall.onFile (c : Collation) (path : JsString) (file : FileContent) : PinCall → FileContent
  | write entry =>
    match writeKnownHost c path entry file with
    | .ok next => next
    | .error _ => file
  | forget hostId =>
    match forgetKnownHost hostId path file with
    | .ok (some next) => next
    | _ => file

/-- What a call is to pins that are a map. A key that does not decode is refused. -/
def PinCall.onPins (pins : JsString → Option JsString) : PinCall → JsString → Option JsString
  | write entry =>
    if (decodeKey entry.1.staticPublicKeyB64).isSome then
      Function.update pins entry.1.hostId (some entry.1.staticPublicKeyB64)
    else pins
  | forget hostId => Function.update pins hostId none

/-- A file that reads as hosts with these pins. -/
def HoldsPins (path : JsString) (file : FileContent) (pins : JsString → Option JsString) : Prop :=
  ∃ hosts, readKnownHosts path file = .ok hosts ∧
    ∀ id, (entriesOf KnownHost.hostId id hosts).head?.map KnownHost.staticPublicKeyB64 = pins id

lemma HoldsPins.storedKey {path : JsString} {file : FileContent} {pins : JsString → Option JsString}
    (h : HoldsPins path file pins) (hostId : JsString) : storedKey hostId path file = pins hostId := by
  obtain ⟨hosts, hread, hpins⟩ := h
  rw [← hpins, entriesOf, List.head?_filter, Pherry.Cli.storedKey, lookupKnownHost, hread]
  simp only [bind, Except.bind, pure, Except.pure]
  cases hosts.find? fun host => host.hostId = hostId <;> rfl

lemma HoldsPins.onFile {path : JsString} {file : FileContent} {pins : JsString → Option JsString}
    (h : HoldsPins path file pins) (c : Collation) (call : PinCall) :
    HoldsPins path (call.onFile c path file) (call.onPins pins) := by
  obtain ⟨hosts, hread, hpins⟩ := h
  have hformed := knownHostsFile_lawful.ok_of_read hread
  cases call with
  | write entry =>
    cases hkey : decodeKey entry.1.staticPublicKeyB64 with
    | none =>
      simp only [PinCall.onFile, PinCall.onPins, writeKnownHost, hkey, Option.isSome_none, Bool.false_eq_true, if_false]
      exact ⟨hosts, hread, hpins⟩
    | some key =>
      simp only [PinCall.onFile, PinCall.onPins, writeKnownHost, hkey, hread, Option.isSome_some, if_true]
      refine ⟨_, knownHostsFile_lawful.read_written path fun host hhost => ?_, fun id => ?_⟩
      · rcases (mem_replaceEntry c _).1 hhost with ⟨hhost, -⟩ | rfl
        · exact hformed host hhost
        · exact entry.2
      · rw [entriesOf_replaceEntry, Function.update_apply, ← hpins]
        split <;> rfl
  | forget hostId =>
    have hleft : ∀ id, (entriesOf KnownHost.hostId id (hosts.filter fun host => host.hostId ≠ hostId)).head?.map
        KnownHost.staticPublicKeyB64 = Function.update pins hostId none id := by
      intro id
      rw [Function.update_apply, ← hpins, entriesOf, List.filter_filter]
      split
      · next hid =>
        rw [hid]
        simp
      · next hid =>
        congr 2
        refine List.filter_congr fun host _ => ?_
        by_cases hhost : host.hostId = id
        · simp [hhost, hid]
        · simp [hhost]
    simp only [PinCall.onFile, PinCall.onPins, forgetKnownHost, hread, bind, Except.bind, pure, Except.pure]
    by_cases hlength : (hosts.filter fun host => host.hostId ≠ hostId).length = hosts.length
    · -- nothing was forgotten
      rw [if_pos hlength]
      rw [List.filter_sublist.eq_of_length hlength] at hleft
      exact ⟨hosts, hread, hleft⟩
    · rw [if_neg hlength]
      exact ⟨_, knownHostsFile_lawful.read_written path fun host hhost => hformed host (List.mem_filter.1 hhost).1, hleft⟩

end Pherry.Cli
