import Pherry.Protocol.DeviceAuth
import Pherry.RelayCore.HostProof
import Pherry.Utf8

/-!
# What the authenticated preimages determine

The zero bytes between the fields do not keep the fields apart: an id may contain U+0000, and a lone
surrogate is encoded like U+FFFD. `preimages_determine_iff` is exact about which inputs of the host
proof, the data-leg MAC, the channel context and the device-auth statement are the only ones of
their preimage.
-/

namespace Pherry.RelayCore

open Protocol

/-! ## The preimages -/

/-- The label of the channel context. -/
def contextLabel : Bytes := ascii "pherry/relay-core/v1/context"

/-- What `relayChannelContext` hashes. -/
def contextPreimage (hostId ticket : JsString) : Bytes :=
  contextLabel ++ utf8 hostId ++ separator ++ utf8 ticket

/-- `relayChannelContext`. -/
def relayChannelContext (crypto : Crypto) (hostId ticket : JsString) : Bytes :=
  crypto.sha256 (contextPreimage hostId ticket)

/-- A string the schema `z.string().min(1)` admits. -/
abbrev NonEmptyString := { s : JsString // s ≠ [] }

/-- What a host proof binds. -/
structure HostProofInput where
  hostId : NonEmptyString
  cellId : NonEmptyString
  nonce : Bytes32
  cellEphemeralPub : Bytes32

/-- What a data-leg MAC binds. -/
structure DataAuthInput where
  cellId : NonEmptyString
  ticket : Ticket
  bridgeNonce : Bytes32

/-- What a channel context binds. -/
structure ContextInput where
  hostId : NonEmptyString
  ticket : Ticket

/-- What a device-auth statement binds. -/
structure DeviceAuthInput where
  sessionId : Bytes32
  hostId : NonEmptyString
  deviceKeyId : DeviceKeyId

def HostProofInput.preimage (x : HostProofInput) : Bytes :=
  proofTranscript x.hostId.1
    { cellId := x.cellId.1, nonce := x.nonce, cellEphemeralPub := x.cellEphemeralPub,
      cellEphemeralSecret := [] }

def DataAuthInput.preimage (x : DataAuthInput) : Bytes :=
  dataAuthPreimage x.cellId.1 x.ticket.1 x.bridgeNonce.1

def ContextInput.preimage (x : ContextInput) : Bytes := contextPreimage x.hostId.1 x.ticket.1

def DeviceAuthInput.preimage (x : DeviceAuthInput) : Bytes :=
  deviceAuthMessage x.sessionId x.hostId.1 x.deviceKeyId.1

/-- An input is the only one of its preimage. -/
def Determined {α : Type} (preimage : α → Bytes) (x : α) : Prop :=
  ∀ y, preimage y = preimage x → y = x

/-- A string its encoding determines. -/
def Plain (s : JsString) : Prop := isWellFormed s = true ∧ 0xFFFD ∉ s

/-! ## Strings of ASCII units -/

lemma plain_of_isAscii {s : JsString} (h : isAscii s = true) : Plain s := by
  unfold isAscii at h
  rw [List.all_eq_true] at h
  constructor
  · induction s with
    | nil => rfl
    | cons u s ih =>
      obtain ⟨hhigh, hlow⟩ := not_surrogate_of_ascii (by simpa using h u List.mem_cons_self)
      rw [isWellFormed_cons hhigh, hlow, ih fun v hv => h v (List.mem_cons_of_mem _ hv)]
      rfl
  · intro hmem
    have hbound := h _ hmem
    revert hbound
    decide

lemma isAscii_digits {s : JsString}
    (h : s.all (fun u => (0x30 ≤ u && u ≤ 0x39) || (0x61 ≤ u && u ≤ 0x66)) = true) :
    isAscii s = true := by
  rw [isAscii, List.all_eq_true] at *
  intro u hu
  have hdigit := h u hu
  simp only [Bool.or_eq_true, Bool.and_eq_true, decide_eq_true_eq, UInt16.le_iff_toNat_le,
    UInt16.lt_iff_toNat_lt] at hdigit ⊢
  have h39 : (0x39 : UInt16).toNat = 0x39 := rfl
  have h66 : (0x66 : UInt16).toNat = 0x66 := rfl
  have h80 : (0x80 : UInt16).toNat = 0x80 := rfl
  omega

lemma Ticket.isAscii (t : Ticket) : Pherry.isAscii t.1 = true ∧ t.1.length = 36 := by
  obtain ⟨s, h⟩ := t
  simp only [matchesTicket, Bool.and_eq_true, beq_iff_eq] at h
  obtain ⟨⟨hlabel, hlength⟩, hdigits⟩ := h
  have hsplit := List.take_append_drop 4 s
  constructor
  · show Pherry.isAscii s = true
    rw [← hsplit, Pherry.isAscii, List.all_append, hlabel, Bool.and_eq_true]
    exact ⟨by decide, isAscii_digits hdigits⟩
  · show s.length = 36
    rw [← hsplit, List.length_append, hlabel, hlength]
    rfl

lemma deviceKeyId_isAscii (k : DeviceKeyId) : isAscii k.1 = true ∧ k.1.length = 16 := by
  obtain ⟨s, h⟩ := k
  simp only [matchesDeviceKeyId, Bool.and_eq_true, beq_iff_eq] at h
  exact ⟨isAscii_digits h.2, h.1⟩

/-! ## Fields -/

lemma split_at_separator {α : Type} {z : α} {a b a' b' : List α}
    (h : a' ++ z :: b' = a ++ z :: b) (ha' : a' ≠ []) (hb' : b' ≠ []) (ha : z ∉ a.tail)
    (hb : z ∉ b.dropLast) : a' = a ∧ b' = b := by
  rcases List.append_eq_append_iff.1 h with ⟨m, rfl, hm⟩ | ⟨m, rfl, hm⟩
  · cases m with
    | nil => exact ⟨(List.append_nil _).symm, (List.cons.inj hm).2⟩
    | cons y m =>
      -- the cut is inside `a`
      obtain ⟨rfl, -⟩ := List.cons.inj hm
      refine absurd ?_ ha
      cases a' with
      | nil => exact absurd rfl ha'
      | cons x a' => exact List.mem_append_right _ List.mem_cons_self
  · cases m with
    | nil => exact ⟨List.append_nil _, (List.cons.inj hm).2.symm⟩
    | cons y m =>
      -- the cut is inside `b`
      obtain ⟨rfl, rfl⟩ := List.cons.inj hm
      refine absurd ?_ hb
      show z ∈ (m ++ z :: b').dropLast
      rw [List.dropLast_append_of_ne_nil (List.cons_ne_nil _ _), List.dropLast_cons_of_ne_nil hb']
      exact List.mem_append_right _ List.mem_cons_self

lemma utf8_join (a b : JsString) : utf8 (a ++ 0 :: b) = utf8 a ++ separator ++ utf8 b := by
  have hhead : ∀ v ∈ ((0 : UInt16) :: b).head?, isLowSurrogate v = false := by
    intro v hv
    obtain rfl := Option.some.inj hv
    decide
  rw [utf8_append a hhead, utf8_cons (by decide), List.append_assoc]
  rfl

lemma plain_join {a b : JsString} (ha : Plain a) (hb : Plain b) : Plain (a ++ 0 :: b) := by
  have hhead : ∀ v ∈ ((0 : UInt16) :: b).head?, isLowSurrogate v = false := by
    intro v hv
    obtain rfl := Option.some.inj hv
    decide
  refine ⟨?_, ?_⟩
  · rw [isWellFormed_append a hhead, isWellFormed_cons (by decide), ha.1, hb.1]
    decide
  · rw [List.mem_append, List.mem_cons]
    rintro (hmem | heq | hmem)
    · exact ha.2 hmem
    · revert heq
      decide
    · exact hb.2 hmem

lemma Plain.eq {s t : JsString} (hs : Plain s) (h : utf8 t = utf8 s) : t = s :=
  (utf8_determines_iff s).2 hs t h

lemma plain_of_determined {α : Type} (preimage : α → Bytes) (mk : NonEmptyString → α)
    (id : NonEmptyString) (hmk : ∀ s t, mk s = mk t → s = t)
    (hutf8 : ∀ s t : NonEmptyString, utf8 s.1 = utf8 t.1 → preimage (mk s) = preimage (mk t))
    (h : Determined preimage (mk id)) : Plain id.1 := by
  refine (utf8_determines_iff id.1).1 fun t ht => ?_
  have hne : t ≠ [] := by
    rintro rfl
    exact utf8_ne_nil id.2 ht.symm
  have hsame := h (mk ⟨t, hne⟩) (hutf8 _ _ ht)
  exact congrArg Subtype.val (hmk _ _ hsame)

/-! ## The four preimages -/

lemma hostProof_determined_iff (x : HostProofInput) :
    Determined HostProofInput.preimage x ↔
      Plain x.hostId.1 ∧ Plain x.cellId.1 ∧ 0 ∉ x.hostId.1.tail ∧ 0 ∉ x.cellId.1.dropLast := by
  have hpreimage : ∀ y : HostProofInput, y.preimage = transcriptLabel
      ++ utf8 (y.hostId.1 ++ 0 :: y.cellId.1) ++ separator ++ y.nonce.1 ++ y.cellEphemeralPub.1 := by
    intro y
    rw [utf8_join]
    simp only [HostProofInput.preimage, proofTranscript, List.append_assoc]
  constructor
  · intro h
    refine ⟨?_, ?_, fun hmem => ?_, fun hmem => ?_⟩
    · refine plain_of_determined HostProofInput.preimage (fun s => { x with hostId := s }) x.hostId
        (fun s t hst => ?_) (fun s t hst => ?_) h
      · exact (HostProofInput.mk.inj hst).1
      · simp only [HostProofInput.preimage, proofTranscript, hst]
    · refine plain_of_determined HostProofInput.preimage (fun s => { x with cellId := s }) x.cellId
        (fun s t hst => ?_) (fun s t hst => ?_) h
      · exact (HostProofInput.mk.inj hst).2.1
      · simp only [HostProofInput.preimage, proofTranscript, hst]
    · -- cut the host id at its zero
      obtain ⟨⟨hostId, hhost⟩, ⟨cellId, hcell⟩, nonce, pub⟩ := x
      cases hostId with
      | nil => exact hhost rfl
      | cons u rest =>
        obtain ⟨a, b, rfl⟩ := List.append_of_mem hmem
        have hsame := h ⟨⟨u :: a, List.cons_ne_nil _ _⟩, ⟨b ++ 0 :: cellId, by simp⟩, nonce, pub⟩
          (by rw [hpreimage, hpreimage]; simp)
        simpa using congrArg (fun y => y.hostId.1.length) hsame
    · -- cut the cell id at its zero
      obtain ⟨⟨hostId, hhost⟩, ⟨cellId, hcell⟩, nonce, pub⟩ := x
      obtain ⟨a, b, hab⟩ := List.append_of_mem hmem
      have hcell' : cellId = a ++ 0 :: (b ++ [cellId.getLast hcell]) := by
        have hlast := List.dropLast_append_getLast hcell
        rw [← List.cons_append, ← List.append_assoc, ← hab, hlast]
      have hsame := h ⟨⟨hostId ++ 0 :: a, by simp⟩, ⟨b ++ [cellId.getLast hcell], by simp⟩, nonce, pub⟩
        (by
          rw [hpreimage, hpreimage]
          simp only [List.append_assoc, List.cons_append]
          rw [← hcell'])
      simpa using congrArg (fun y => y.hostId.1.length) hsame
  · rintro ⟨hhost, hcell, hz, hz'⟩ y hy
    rw [hpreimage, hpreimage] at hy
    obtain ⟨hy, hpub⟩ := List.append_inj' hy (by rw [y.cellEphemeralPub.2, x.cellEphemeralPub.2])
    obtain ⟨hy, hnonce⟩ := List.append_inj' hy (by rw [y.nonce.2, x.nonce.2])
    obtain ⟨hy, -⟩ := List.append_inj' hy rfl
    have hjoin := (plain_join hhost hcell).eq (List.append_cancel_left hy)
    obtain ⟨hhostId, hcellId⟩ := split_at_separator hjoin y.hostId.2 y.cellId.2 hz hz'
    obtain ⟨hostId', cellId', nonce', pub'⟩ := y
    obtain ⟨hostId, cellId, nonce, pub⟩ := x
    rw [HostProofInput.mk.injEq]
    exact ⟨Subtype.ext hhostId, Subtype.ext hcellId, Subtype.ext hnonce, Subtype.ext hpub⟩

lemma dataAuth_determined_iff (x : DataAuthInput) :
    Determined DataAuthInput.preimage x ↔ Plain x.cellId.1 := by
  constructor
  · intro h
    refine plain_of_determined DataAuthInput.preimage (fun s => { x with cellId := s }) x.cellId
      (fun s t hst => ?_) (fun s t hst => ?_) h
    · exact (DataAuthInput.mk.inj hst).1
    · simp only [DataAuthInput.preimage, dataAuthPreimage, hst]
  · intro hcell y hy
    obtain ⟨hticket, hlength⟩ := Ticket.isAscii x.ticket
    obtain ⟨hticket', hlength'⟩ := Ticket.isAscii y.ticket
    simp only [DataAuthInput.preimage, dataAuthPreimage] at hy
    obtain ⟨hy, hnonce⟩ := List.append_inj' hy (by rw [y.bridgeNonce.2, x.bridgeNonce.2])
    obtain ⟨hy, -⟩ := List.append_inj' hy rfl
    obtain ⟨hy, hsame⟩ := List.append_inj' hy (by
      rw [length_utf8_of_isAscii hticket, length_utf8_of_isAscii hticket', hlength, hlength'])
    obtain ⟨hy, -⟩ := List.append_inj' hy rfl
    have hcellId := hcell.eq (List.append_cancel_left hy)
    have hticketId := (plain_of_isAscii hticket).eq hsame
    obtain ⟨cellId', ticket', nonce'⟩ := y
    obtain ⟨cellId, ticket, nonce⟩ := x
    rw [DataAuthInput.mk.injEq]
    exact ⟨Subtype.ext hcellId, Subtype.ext hticketId, Subtype.ext hnonce⟩

lemma context_determined_iff (x : ContextInput) :
    Determined ContextInput.preimage x ↔ Plain x.hostId.1 := by
  constructor
  · intro h
    refine plain_of_determined ContextInput.preimage (fun s => { x with hostId := s }) x.hostId
      (fun s t hst => ?_) (fun s t hst => ?_) h
    · exact (ContextInput.mk.inj hst).1
    · simp only [ContextInput.preimage, contextPreimage, hst]
  · intro hhost y hy
    obtain ⟨hticket, hlength⟩ := Ticket.isAscii x.ticket
    obtain ⟨hticket', hlength'⟩ := Ticket.isAscii y.ticket
    simp only [ContextInput.preimage, contextPreimage] at hy
    obtain ⟨hy, hsame⟩ := List.append_inj' hy (by
      rw [length_utf8_of_isAscii hticket, length_utf8_of_isAscii hticket', hlength, hlength'])
    obtain ⟨hy, -⟩ := List.append_inj' hy rfl
    have hhostId := hhost.eq (List.append_cancel_left hy)
    have hticketId := (plain_of_isAscii hticket).eq hsame
    obtain ⟨hostId', ticket'⟩ := y
    obtain ⟨hostId, ticket⟩ := x
    rw [ContextInput.mk.injEq]
    exact ⟨Subtype.ext hhostId, Subtype.ext hticketId⟩

lemma deviceAuth_determined_iff (x : DeviceAuthInput) :
    Determined DeviceAuthInput.preimage x ↔ Plain x.hostId.1 := by
  constructor
  · intro h
    refine plain_of_determined DeviceAuthInput.preimage (fun s => { x with hostId := s }) x.hostId
      (fun s t hst => ?_) (fun s t hst => ?_) h
    · exact (DeviceAuthInput.mk.inj hst).2.1
    · simp only [DeviceAuthInput.preimage, deviceAuthMessage, hst]
  · intro hhost y hy
    obtain ⟨hkey, hlength⟩ := deviceKeyId_isAscii x.deviceKeyId
    obtain ⟨hkey', hlength'⟩ := deviceKeyId_isAscii y.deviceKeyId
    simp only [DeviceAuthInput.preimage, deviceAuthMessage] at hy
    obtain ⟨hy, hsame⟩ := List.append_inj' hy (by
      rw [length_utf8_of_isAscii hkey, length_utf8_of_isAscii hkey', hlength, hlength'])
    obtain ⟨hy, -⟩ := List.append_inj' hy rfl
    simp only [List.append_assoc] at hy
    have hy := List.append_cancel_left (List.append_cancel_left hy)
    obtain ⟨hsession, hy⟩ := List.append_inj hy (by rw [y.sessionId.2, x.sessionId.2])
    have hhostId := hhost.eq (List.append_cancel_left hy)
    have hkeyId := (plain_of_isAscii hkey).eq hsame
    obtain ⟨sessionId', hostId', keyId'⟩ := y
    obtain ⟨sessionId, hostId, keyId⟩ := x
    rw [DeviceAuthInput.mk.injEq]
    exact ⟨Subtype.ext hsession, Subtype.ext hhostId, Subtype.ext hkeyId⟩

/-- **What the authenticated preimages determine.** A data-leg MAC input, a channel context and a
device-auth statement are unambiguous exactly when their id is plain; a host proof needs besides
that no zero of either id can be taken for the separator. -/
theorem preimages_determine_iff (proof : HostProofInput) (auth : DataAuthInput)
    (context : ContextInput) (device : DeviceAuthInput) :
    (Determined HostProofInput.preimage proof ↔ Plain proof.hostId.1 ∧ Plain proof.cellId.1 ∧
      0 ∉ proof.hostId.1.tail ∧ 0 ∉ proof.cellId.1.dropLast) ∧
    (Determined DataAuthInput.preimage auth ↔ Plain auth.cellId.1) ∧
    (Determined ContextInput.preimage context ↔ Plain context.hostId.1) ∧
    (Determined DeviceAuthInput.preimage device ↔ Plain device.hostId.1) :=
  ⟨hostProof_determined_iff proof, dataAuth_determined_iff auth, context_determined_iff context,
    deviceAuth_determined_iff device⟩

namespace Demo

/-- The host `a` at the cell `b\0c`. -/
def hostA : HostProofInput :=
  { hostId := ⟨[0x61], by decide⟩, cellId := ⟨[0x62, 0, 0x63], by decide⟩
    nonce := .repeat 1, cellEphemeralPub := .repeat 2 }

/-- The host `a\0b` at the cell `c`. -/
def hostAB : HostProofInput :=
  { hostId := ⟨[0x61, 0, 0x62], by decide⟩, cellId := ⟨[0x63], by decide⟩
    nonce := .repeat 1, cellEphemeralPub := .repeat 2 }

end Demo

/-- Two hosts at two cells have one transcript. -/
theorem hostProof_ambiguous :
    Demo.hostA.preimage = Demo.hostAB.preimage ∧ Demo.hostA.hostId ≠ Demo.hostAB.hostId ∧
      Demo.hostA.cellId ≠ Demo.hostAB.cellId := by
  decide +kernel

end Pherry.RelayCore
