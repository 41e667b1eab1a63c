import Mathlib.Algebra.GroupWithZero.Nat
import Pherry.Protocol.Handshake

/-!
# The method registry

The capability strings, the identifiers of the wire, the methods, and the capability each method
requires.
-/

namespace Pherry.Protocol

/-! ## Capabilities -/

/-- `PTY_STREAM`. -/
def ptyStream : JsString := js "pty.stream.v1"

/-- `MIRROR_SNAPSHOT`. -/
def mirrorSnapshot : JsString := js "mirror.snapshot.v1"

/-- `SESSION_INPUT`. -/
def sessionInput : JsString := js "session.input.v1"

/-- `SESSION_APPROVE`. -/
def sessionApprove : JsString := js "session.approve.v1"

/-- `SANDBOX`. -/
def sandbox : JsString := js "sandbox.v1"

/-- `ATTENTION`. -/
def attention : JsString := js "attention.v1"

/-- `LAUNCH`. -/
def launch : JsString := js "launch.v1"

/-- What a handshake settles on, where the versions can talk. -/
structure HandshakeOutcome where
  active : List JsString
  compat : Except Incompatible Unit

/-- `negotiateHello`. -/
def negotiateHello (caps : List JsString) (remoteAck : HelloAck) : HandshakeOutcome :=
  ⟨negotiate caps remoteAck.capabilities, evaluateCompat remoteAck.protocol⟩

lemma mem_foldl_negotiate {b : List JsString} {cap : JsString} (a active : List JsString) :
    cap ∈ a.foldl (fun active cap =>
        if cap ∈ b ∧ cap ∉ active then active ++ [cap] else active) active ↔
      cap ∈ active ∨ (cap ∈ a ∧ cap ∈ b) := by
  induction a generalizing active with
  | nil => simp
  | cons c a ih =>
    rw [List.foldl_cons, ih]
    split
    · next h =>
      rw [List.mem_append, List.mem_singleton, List.mem_cons]
      constructor
      · rintro ((hactive | rfl) | hrest)
        · exact Or.inl hactive
        · exact Or.inr ⟨Or.inl rfl, h.1⟩
        · exact Or.inr ⟨Or.inr hrest.1, hrest.2⟩
      · rintro (hactive | ⟨rfl | ha, hb⟩)
        · exact Or.inl (Or.inl hactive)
        · exact Or.inl (Or.inr rfl)
        · exact Or.inr ⟨ha, hb⟩
    · next h =>
      rw [List.mem_cons]
      constructor
      · rintro (hactive | hrest)
        · exact Or.inl hactive
        · exact Or.inr ⟨Or.inr hrest.1, hrest.2⟩
      · rintro (hactive | ⟨rfl | ha, hb⟩)
        · exact Or.inl hactive
        · exact Or.inl (by_contra fun hnot => h ⟨hb, hnot⟩)
        · exact Or.inr ⟨ha, hb⟩

lemma mem_negotiate {a b : List JsString} {cap : JsString} :
    cap ∈ negotiate a b ↔ cap ∈ a ∧ cap ∈ b := by
  rw [negotiate, mem_foldl_negotiate, List.mem_nil_iff, false_or]

/-! ## Identifiers -/

/-- A lowercase hexadecimal digit. -/
def isHexDigit (u : UInt16) : Bool := (0x30 ≤ u && u ≤ 0x39) || (0x61 ≤ u && u ≤ 0x66)

/-- `makeIdSchema`: the tag, an underscore and 32 lowercase hexadecimal digits. -/
def matchesId (tag s : JsString) : Bool :=
  s.take (tag.length + 1) == tag ++ [0x5F] && (s.drop (tag.length + 1)).length == 32 &&
    (s.drop (tag.length + 1)).all isHexDigit

/-- A session reference. -/
abbrev SessionRef := { s : JsString // matchesId (js "sref") s = true }

instance instLawfulBEqSessionRef : LawfulBEq SessionRef := inferInstance

lemma matchesId_zeros : matchesId (js "sref") (js "sref_" ++ List.replicate 32 0x30) = true := by
  decide

/-- A numeric stream id: a u32. -/
abbrev StreamId := Fin (2 ^ 32)

instance instNeZeroStreamId : NeZero (2 ^ 32) := ⟨by decide⟩

/-! ## Methods -/

/-- `MethodName`: the keys of `METHODS`. -/
inductive Method
  | subscribe
  | unsubscribe
  | input
  | resize
  | approve
  | spawn
  | raise
  | reserve
  | claim
  | list
  | options
  | start
deriving DecidableEq, Repr

/-- Every method, in the order of the registry. -/
def methods : List Method :=
  [.subscribe, .unsubscribe, .input, .resize, .approve, .spawn, .raise, .reserve, .claim, .list,
    .options, .start]

/-- The name of a method. -/
def Method.name : Method → JsString
  | subscribe => js "session.subscribe"
  | unsubscribe => js "session.unsubscribe"
  | input => js "session.input"
  | resize => js "session.resize"
  | approve => js "session.approve"
  | spawn => js "sandbox.spawn"
  | raise => js "attention.raise"
  | reserve => js "custody.reserve"
  | claim => js "custody.claim"
  | list => js "sessions.list"
  | options => js "launch.options"
  | start => js "launch.start"

/-- `isMethod`: the method of a name. -/
def methodOf (name : JsString) : Option Method := methods.find? fun m => m.name = name

lemma methodOf_name (m : Method) : methodOf m.name = some m := by
  cases m <;> decide

/-- `requiredCapability`: the table `METHOD_CAPABILITY`. -/
def requiredCapability : Method → Option JsString
  | .subscribe => some ptyStream
  | .input => some sessionInput
  | .resize => some sessionInput
  | .approve => some sessionApprove
  | .spawn => some sandbox
  | .raise => some attention
  | .options => some launch
  | .start => some launch
  | .unsubscribe => none
  | .reserve => none
  | .claim => none
  | .list => none

end Pherry.Protocol
