import Mathlib.Data.List.TakeWhile
import Pherry.Channel.NonceUniqueness

/-!
# The send cap and the receive cap

`send` refuses by the state, by the gate of an initiator and by the size of the record; the receive
path refuses by the length prefix. What the one lets through the other takes, and what is refused
leaves the channel as it was.
-/

namespace Pherry.Channel

open Lib

/-- Why `send` throws before it seals. -/
inductive SendError
  | closed
  | notOpen
  | preAuthentication
  | recordTooLong (length : ℕ)

/-- The checks of `send`, in their order. -/
def SecureChannel.rejection (s : SecureChannel) (frame : ChannelFrame) : Option SendError :=
  if s.closed then some .closed
  else if s.isOpen = false ∨ s.sealer = none then some .notOpen
  else if s.role = .initiator ∧ s.authenticated = false ∧ s.sealer.any (·.counter ≥ 1) then
    some .preAuthentication
  else if recordOverheadBytes + frame.payload.length > maxRecordBytes then
    some (.recordTooLong (recordOverheadBytes + frame.payload.length))
  else none

/-- A record that opened. -/
def Effect.isOpened : Effect → Bool
  | .opened _ _ _ _ => true
  | _ => false

/-- The effects up to the first record that opened. -/
def untilOpened (effects : List Effect) : List Effect := effects.takeWhile fun e => !e.isOpened

/-- The length check of the receive path takes these bytes as one record, however they are cut: while
they are not complete it waits, and it does not refuse them. -/
structure LengthAccepted (aead : Aead) (bytes : Bytes) : Prop where
  waits : ∀ (s : SecureChannel) (n : ℕ), n < bytes.length → s.inbound.contents = bytes.take n →
    s.pump aead = (s, [])
  takes : ∀ (s : SecureChannel) (rest : Bytes), s.opener.isSome = true →
    s.inbound.contents = bytes ++ rest → ∃ effects, (s.pump aead).2 = .taken bytes :: effects

/-- What the limits of a channel promise at the end of a run. -/
structure LimitsAgree (crypto : Crypto) (aead : Aead) (handshake : Handshake) (es : List Event) : Prop where
  gate : handshake.static.role = .initiator →
    (sealedIn (untilOpened (trace crypto aead handshake es))).length ≤ 1
  rejected : ∀ frame error,
    ((channelMachine crypto aead handshake).run es).rejection frame = some error →
    ((channelMachine crypto aead handshake).run es).react crypto aead (.send frame) =
      ((channelMachine crypto aead handshake).run es, [])
  accepted : ∀ frame,
    ((channelMachine crypto aead handshake).run es).rejection frame = none →
    ∃ sealer, ((channelMachine crypto aead handshake).run es).sealer = some sealer ∧
      (sealer.counter ≤ maxSafeInteger → ∃ record,
        (((channelMachine crypto aead handshake).run es).react crypto aead (.send frame)).2 =
          [.sealed sealer.key sealer.nonce frame record, .sent (uint32BE record.length ++ record)] ∧
        LengthAccepted aead (uint32BE record.length ++ record))

variable {crypto : Crypto} {aead : Aead} {s : SecureChannel} {frame : ChannelFrame}

/-! ## One send -/

lemma send_of_rejected {error : SendError} (h : s.rejection frame = some error) :
    s.send aead frame = (s, []) := by
  unfold SecureChannel.send
  unfold SecureChannel.rejection at h
  by_cases hclosed : s.closed = true
  · rw [if_pos (by simp [hclosed])]
  · rw [if_neg hclosed] at h
    cases hsealer : s.sealer with
    | none => simp
    | some sealer =>
      by_cases hopen : s.isOpen = false
      · rw [if_pos (by simp [hopen])]
      · rw [if_neg (by simp [hopen, hsealer])] at h
        rw [if_neg (by simp [hclosed, hopen])]
        dsimp only
        by_cases hgate : s.role = .initiator ∧ s.authenticated = false ∧ sealer.counter ≥ 1
        · rw [if_pos hgate]
        · rw [if_neg (by simpa [hsealer] using hgate)] at h
          rw [if_neg hgate]
          by_cases hlong : recordOverheadBytes + frame.payload.length > maxRecordBytes
          · rw [if_pos hlong]
          · rw [if_neg hlong] at h
            cases h

variable (aead) in
lemma send_of_accepted (h : s.rejection frame = none) : ∃ sealer, s.sealer = some sealer ∧
    (sealer.counter ≤ maxSafeInteger → ∃ sealer' record,
      sealer.seal aead (encodeFrame frame) = some (record, sealer') ∧
      recordOverheadBytes + frame.payload.length ≤ maxRecordBytes ∧
      s.send aead frame = ({ s with sealer := some sealer' },
        [.sealed sealer.key sealer.nonce frame record, .sent (uint32BE record.length ++ record)])) := by
  unfold SecureChannel.rejection at h
  split at h
  · cases h
  next hclosed =>
  split at h
  · cases h
  next hopen =>
  split at h
  · cases h
  next hgate =>
  split at h
  · cases h
  next hfits =>
  rw [not_or] at hopen
  obtain ⟨sealer, hsealer⟩ := Option.ne_none_iff_exists'.1 hopen.2
  refine ⟨sealer, hsealer, fun hcounter => ?_⟩
  have hseal : sealer.seal aead (encodeFrame frame) =
      some (aead.encrypt sealer.key sealer.nonce (encodeFrame frame),
        { sealer with counter := increment sealer.counter }) := if_pos hcounter
  refine ⟨_, _, hseal, Nat.le_of_not_lt hfits, ?_⟩
  unfold SecureChannel.send
  rw [if_neg (by simp [hclosed, hopen.1]), hsealer]
  dsimp only
  rw [if_neg (by simpa [hsealer] using hgate), if_neg hfits, hseal]

lemma length_of_seal {sealer sealer' : Sealer} {record : Bytes}
    (h : sealer.seal aead (encodeFrame frame) = some (record, sealer')) :
    record.length = recordOverheadBytes + frame.payload.length := by
  rw [(Sealer.seal_eq_some h).2.1, aead.length_encrypt, encodeFrame, List.length_cons, recordOverheadBytes]
  omega

/-! ## The length check -/

lemma peekUint32BE_framed {q : ByteQueue} {record : Bytes} {n : ℕ} (rest : Bytes) (hn : 4 ≤ n)
    (hrecord : record.length ≤ maxRecordBytes)
    (hq : q.contents = (uint32BE record.length ++ record).take n ++ rest) :
    q.peekUint32BE = record.length := by
  have hsmall : record.length < 2 ^ 32 := hrecord.trans_lt (by decide)
  have hfirst : q.contents.take 4 = uint32BE record.length := by
    have hle : 4 ≤ ((uint32BE record.length ++ record).take n).length := by
      rw [List.length_take, List.length_append, length_uint32BE]
      omega
    rw [hq, List.take_append_of_le_length hle, List.take_take, Nat.min_eq_left hn,
      List.take_append_of_le_length (by rw [length_uint32BE])]
    exact List.take_of_length_le (by rw [length_uint32BE])
  rw [ByteQueue.peekUint32BE_eq, hfirst, bigEndian_uint32BE, Nat.mod_mod, Nat.mod_eq_of_lt hsmall]

lemma lengthAccepted_of_le {record : Bytes} (h : record.length ≤ maxRecordBytes) :
    LengthAccepted aead (uint32BE record.length ++ record) where
  waits := by
    intro s n hn hcontents
    unfold SecureChannel.pump
    cases s.opener with
    | none => rfl
    | some opener =>
      have hlength : s.inbound.length = n := by
        rw [ByteQueue.length_eq, hcontents, List.length_take]
        omega
      dsimp only
      by_cases hshort : n < lengthPrefixBytes
      · rw [if_pos (by rw [hlength]; exact hshort)]
      · have hpeek : s.inbound.peekUint32BE = record.length :=
          peekUint32BE_framed [] (Nat.le_of_not_lt hshort) h (by rw [hcontents, List.append_nil])
        rw [List.length_append, length_uint32BE] at hn
        rw [if_neg (by rw [hlength]; exact hshort), hpeek, if_neg (Nat.not_lt.2 h), if_pos]
        rw [hlength, lengthPrefixBytes]
        exact hn
  takes := by
    intro s rest hopener hcontents
    obtain ⟨opener, hsome⟩ := Option.isSome_iff_exists.1 hopener
    have hlength : s.inbound.length = 4 + record.length + rest.length := by
      rw [ByteQueue.length_eq, hcontents, List.length_append, List.length_append, length_uint32BE]
    have hpeek : s.inbound.peekUint32BE = record.length := by
      refine peekUint32BE_framed (n := 4 + record.length) rest (by omega) h ?_
      rw [hcontents, List.take_of_length_le]
      rw [List.length_append, length_uint32BE]
    have hheader : (s.inbound.take lengthPrefixBytes).1 = uint32BE record.length := by
      rw [ByteQueue.take_fst (by rw [hlength, lengthPrefixBytes]; omega), hcontents, List.append_assoc]
      exact List.take_left' (length_uint32BE _)
    have hrest : (s.inbound.take lengthPrefixBytes).2.contents = record ++ rest := by
      rw [ByteQueue.contents_take, hcontents, List.append_assoc]
      exact List.drop_left' (length_uint32BE _)
    have hrecord : ((s.inbound.take lengthPrefixBytes).2.take record.length).1 = record := by
      rw [ByteQueue.take_fst, hrest]
      · exact List.take_left' rfl
      · rw [ByteQueue.length_eq, hrest, List.length_append]
        omega
    have hprefix : ¬ s.inbound.length < lengthPrefixBytes := by
      rw [hlength, lengthPrefixBytes]
      omega
    have hcomplete : ¬ s.inbound.length < lengthPrefixBytes + record.length := by
      rw [hlength, lengthPrefixBytes]
      omega
    unfold SecureChannel.pump
    rw [hsome]
    simp only [hpeek, hheader, hrecord]
    rw [if_neg hprefix, if_neg (Nat.not_lt.2 h), if_neg hcomplete]
    -- whatever becomes of the record, it has been taken
    split
    · exact ⟨_, rfl⟩
    · split
      · exact ⟨_, rfl⟩
      · exact ⟨_, rfl⟩

/-! ## The gate -/

lemma openedIn_eq_nil {effects : List Effect} :
    openedIn effects = [] ↔ ∀ e ∈ effects, e.isOpened = false := by
  rw [openedIn, List.filterMap_eq_nil_iff]
  refine forall₂_congr fun e _ => ?_
  cases e <;> simp [Effect.isOpened]

lemma untilOpened_cons (e : Effect) (effects : List Effect) :
    untilOpened (e :: effects) = if e.isOpened then [] else e :: untilOpened effects := by
  rw [untilOpened, List.takeWhile_cons, ← untilOpened]
  cases e.isOpened <;> rfl

lemma untilOpened_append (effects more : List Effect) :
    untilOpened (effects ++ more) =
      if openedIn effects = [] then effects ++ untilOpened more else untilOpened effects := by
  induction effects with
  | nil => rfl
  | cons e effects ih =>
    rw [List.cons_append, untilOpened_cons, untilOpened_cons, ih]
    by_cases he : e.isOpened = true
    · have hsome : openedIn (e :: effects) ≠ [] := by simp [openedIn_eq_nil, he]
      rw [if_pos he, if_pos he, if_neg hsome]
    · have hsame : openedIn (e :: effects) = [] ↔ openedIn effects = [] := by simp [openedIn_eq_nil, he]
      rw [if_neg he, if_neg he]
      simp only [hsame]
      split <;> rfl

lemma untilOpened_of_none {effects : List Effect} (h : openedIn effects = []) :
    untilOpened effects = effects := by
  have happend := untilOpened_append effects []
  rw [if_pos h, List.append_nil] at happend
  rw [happend]
  exact List.append_nil effects

lemma sealedIn_untilOpened {effects : List Effect} (h : sealedIn effects = []) :
    sealedIn (untilOpened effects) = [] := by
  have hsub : (sealedIn (untilOpened effects)).Sublist (sealedIn effects) :=
    List.Sublist.filterMap _ (List.takeWhile_sublist _)
  rw [h] at hsub
  exact List.sublist_nil.1 hsub

/-- Nothing is sealed, and the channel is authenticated only by a record that opens. -/
structure Receives (s : SecureChannel) (r : SecureChannel × List Effect) : Prop where
  unsealed : sealedIn r.2 = []
  authenticated : r.1.authenticated = true → s.authenticated = true ∨ openedIn r.2 ≠ []

lemma authenticated_shutdown (s : SecureChannel) (error : Option ChannelError) :
    (s.shutdown error).1.authenticated = s.authenticated := by
  unfold SecureChannel.shutdown
  split <;> rfl

lemma receives_shutdown (s : SecureChannel) (error : Option ChannelError) :
    Receives s (s.shutdown error) :=
  ⟨SecureChannel.sealedIn_shutdown s error, fun h => Or.inl (by rwa [authenticated_shutdown] at h)⟩

lemma receives_pump (s : SecureChannel) : Receives s (s.pump aead) := by
  have hpumped : SecureChannel.Pumped aead s (s.pump aead) := SecureChannel.pumped s
  refine ⟨hpumped.keepsKeys.2, fun h => ?_⟩
  generalize s.pump aead = r at h hpumped ⊢
  cases hpumped with
  | waiting => exact Or.inl h
  | tooLong length hopener => exact Or.inl (by rwa [authenticated_shutdown] at h)
  | failed taken inbound opener opened e htaken hopened =>
    exact Or.inl (by rwa [SecureChannel.emit, authenticated_shutdown] at h)
  | delivered taken inbound opener opener' record frameBytes frame => exact Or.inr (by simp [openedIn])

lemma Receives.of_same {t : SecureChannel} {r : SecureChannel × List Effect} (h : Receives t r)
    (hsame : t.authenticated = s.authenticated) : Receives s r :=
  ⟨h.unsealed, hsame ▸ h.authenticated⟩

lemma receives_completeHandshake (s : SecureChannel) (message : Bytes) :
    Receives s (s.completeHandshake crypto aead message) := by
  cases hhandshake : s.handshake with
  | none =>
    have hpump : s.completeHandshake crypto aead message = s.pump aead := by
      unfold SecureChannel.completeHandshake
      rw [hhandshake]
    rw [hpump]
    exact receives_pump s
  | some handshake =>
    rcases SecureChannel.completeHandshake_eq crypto aead hhandshake message with
      ⟨error, heq⟩ | ⟨keys, wiped, heq⟩ | ⟨keys, wiped, heq⟩
    · rw [heq]
      refine ⟨?_, fun h => Or.inl (by rwa [SecureChannel.emit, authenticated_shutdown] at h)⟩
      rw [SecureChannel.emit, sealedIn_append, SecureChannel.sealedIn_shutdown]
      rfl
    · rw [heq]
      exact ⟨rfl, Or.inl⟩
    · rw [heq]
      exact ⟨rfl, Or.inl⟩

lemma receives_receive (s : SecureChannel) (bytes : Bytes) : Receives s (s.receive crypto aead bytes) := by
  unfold SecureChannel.receive SecureChannel.drain
  split
  · exact ⟨rfl, Or.inl⟩
  split
  · exact (receives_pump { s with inbound := _ }).of_same rfl
  split
  · exact ⟨rfl, Or.inl⟩
  exact (receives_completeHandshake { s with inbound := _ } _).of_same rfl

lemma receives_resume (s : SecureChannel) (outcome : Outcome) :
    Receives s (s.resume crypto aead outcome) := by
  unfold SecureChannel.resume
  split
  · exact ⟨rfl, Or.inl⟩
  · next keys calls _ =>
    dsimp only
    split
    · exact ⟨rfl, Or.inl⟩
    · exact (receives_shutdown { s with calls } _).of_same rfl
  · next calls _ =>
    dsimp only
    split
    · exact (receives_pump { s with calls }).of_same rfl
    · exact (receives_shutdown { s with calls } _).of_same rfl
  · next calls _ =>
    dsimp only
    split
    · exact (receives_shutdown { s with calls } _).of_same rfl
    · exact (receives_pump { s with calls }).of_same rfl

lemma receives_react {e : Event} (he : ∀ frame, e ≠ .send frame) :
    Receives s (s.react crypto aead e) := by
  cases e with
  | microtask =>
    rw [SecureChannel.react]
    rcases s.start_eq with heq | ⟨effects, heq, heffects⟩
    · rw [heq]
      exact ⟨rfl, Or.inl⟩
    · rw [heq]
      refine ⟨?_, Or.inl⟩
      rcases heffects with rfl | ⟨bytes, rfl⟩ <;> rfl
  | receive bytes => exact receives_receive s bytes
  | send frame => exact absurd rfl (he frame)
  | close => exact receives_shutdown s none
  | resume outcome => exact receives_resume s outcome

variable {handshake : Handshake}

lemma authenticated_run (es : List Event) :
    ((channelMachine crypto aead handshake).run es).authenticated = true →
      openedIn (trace crypto aead handshake es) ≠ [] := by
  refine (channelMachine crypto aead handshake).history_invariant
    (p := fun es s => s.authenticated = true → openedIn (trace crypto aead handshake es) ≠ [])
    (by simp [channelMachine, SecureChannel.new]) (fun es e ih h => ?_) es
  rw [trace, Machine.outputs_snoc, openedIn_append, ne_eq, List.append_eq_nil_iff, not_and_or]
  by_cases hsend : ∃ frame, e = .send frame
  · obtain ⟨frame, rfl⟩ := hsend
    refine Or.inl (ih ?_)
    rcases SecureChannel.send_eq aead ((channelMachine crypto aead handshake).run es) frame with
      heq | ⟨sealer, sealer', record, -, heq⟩
    · exact (congrArg (fun r => r.1.authenticated) heq).symm.trans h
    · exact (congrArg (fun r => r.1.authenticated) heq).symm.trans h
  · rw [not_exists] at hsend
    exact ((receives_react hsend).authenticated h).imp ih id

lemma sealed_of_unauthenticated (hrole : s.role = .initiator) (hauthenticated : s.authenticated = false)
    (hsealed : sealedIn (s.send aead frame).2 ≠ []) :
    ∃ sealer, s.sealer = some sealer ∧ sealer.counter = 0 ∧ (sealedIn (s.send aead frame).2).length = 1 := by
  rcases s.send_eq aead frame with heq | ⟨sealer, sealer', record, ⟨-, hsealer, -⟩, heq⟩
  · rw [heq] at hsealed
    exact absurd rfl hsealed
  refine ⟨sealer, hsealer, ?_, by rw [heq]; rfl⟩
  by_contra hcounter
  have hgate : s.role = .initiator ∧ s.authenticated = false ∧ s.sealer.any (·.counter ≥ 1) := by
    refine ⟨hrole, hauthenticated, ?_⟩
    rw [hsealer]
    simpa using Nat.one_le_iff_ne_zero.2 hcounter
  have hrejected : ∃ error, s.rejection frame = some error := by
    unfold SecureChannel.rejection
    rw [if_pos hgate]
    split
    · exact ⟨_, rfl⟩
    · split <;> exact ⟨_, rfl⟩
  obtain ⟨error, herror⟩ := hrejected
  rw [send_of_rejected herror] at hsealed
  exact absurd rfl hsealed

lemma counter_eq (hrole : handshake.static.role = .initiator) (es : List Event) {sealer : Sealer}
    (hsealer : ((channelMachine crypto aead handshake).run es).sealer = some sealer) :
    sealer.counter = (sealings crypto aead handshake es).length := by
  have hmeets : (channelMachine crypto aead handshake).Meets (fun s e => interruptsReply s e = false) es :=
    initiator_meets hrole es
  rcases (numbered_of_meets hmeets).session with ⟨-, -, hnone⟩ | ⟨keys, -, hcounts⟩
  · rw [hnone] at hsealer
    cases hsealer
  · exact (hcounts.sealer sealer hsealer).2.2

lemma gate_run (hrole : handshake.static.role = .initiator) (es : List Event) :
    (sealedIn (untilOpened (trace crypto aead handshake es))).length ≤ 1 := by
  induction es using List.reverseRecOn with
  | nil => exact Nat.zero_le 1
  | append_singleton es e ih =>
    rw [trace, Machine.outputs_snoc, ← trace, untilOpened_append]
    split
    · next hnone =>
      rw [untilOpened_of_none hnone] at ih
      rw [sealedIn_append, List.length_append]
      by_cases hsend : ∃ frame, e = .send frame
      · obtain ⟨frame, rfl⟩ := hsend
        have hnow : ((channelMachine crypto aead handshake).run es).role = .initiator :=
          (derives_run es).role.trans hrole
        have hauthenticated : ((channelMachine crypto aead handshake).run es).authenticated = false :=
          Bool.eq_false_iff.2 fun h => authenticated_run es h hnone
        by_cases hsealed :
            sealedIn (((channelMachine crypto aead handshake).run es).send aead frame).2 = []
        · rw [SecureChannel.react, sealedIn_untilOpened hsealed]
          exact ih
        · obtain ⟨sealer, hsealer, hcounter, hone⟩ := sealed_of_unauthenticated hnow hauthenticated hsealed
          have hfirst := counter_eq hrole es hsealer
          have hone' : (sealedIn (untilOpened
              (((channelMachine crypto aead handshake).run es).send aead frame).2)).length ≤ 1 := by
            rw [← hone]
            exact (List.Sublist.filterMap _ (List.takeWhile_sublist _)).length_le
          rw [hcounter, sealings] at hfirst
          rw [SecureChannel.react]
          omega
      · rw [not_exists] at hsend
        rw [sealedIn_untilOpened (receives_react hsend).unsealed]
        exact ih
    · exact ih

/-! ## The limits -/

/-- **Send cap, gate and receive cap agree.** -/
theorem limitsAgree (crypto : Crypto) (aead : Aead) (handshake : Handshake) (es : List Event) :
    LimitsAgree crypto aead handshake es where
  gate hrole := gate_run hrole es
  rejected frame error h := send_of_rejected h
  accepted := by
    intro frame h
    obtain ⟨sealer, hsealer, hsends⟩ := send_of_accepted aead h
    refine ⟨sealer, hsealer, fun hcounter => ?_⟩
    obtain ⟨sealer', record, hseal, hfits, heq⟩ := hsends hcounter
    refine ⟨record, congrArg Prod.snd heq, lengthAccepted_of_le ?_⟩
    rw [length_of_seal hseal]
    exact hfits

/-! ## What a channel holds back -/

namespace SecureChannel

/-- What is never held whole: a handshake message before the channel is open, the longest record from then on. -/
def inboundCap (s : SecureChannel) : ℕ :=
  if s.isOpen then lengthPrefixBytes + maxRecordBytes else handshakeMsgBytes

/-- The fields of a live channel go together, and with no call out running, what is complete has been taken. -/
structure Frugal (s : SecureChannel) : Prop where
  opener : s.opener.isSome = s.isOpen
  handshake : s.handshake.isSome = !s.isOpen
  calls : (∃ c ∈ s.calls, ∀ keys, c ≠ .reply keys) → s.isOpen = true
  rests : s.calls = [] → s.inbound.length < s.inboundCap

/-- A channel that is closed, or frugal. -/
def Settled (s : SecureChannel) : Prop := s.closed = true ∨ s.Frugal

lemma settled_shutdown (s : SecureChannel) (error : Option ChannelError) : (s.shutdown error).1.Settled :=
  .inl (closed_shutdown s error)

lemma settled_establish (s : SecureChannel) (keys : SessionKeys) : (s.establish crypto keys).Settled :=
  .inr ⟨rfl, rfl, fun _ => rfl, nofun⟩

lemma Settled.pump {s : SecureChannel} (h : s.Settled) (hopen : s.Frugal → s.isOpen = true) (inbound : ByteQueue)
    (calls : List Callback) : ({ s with inbound, calls }.pump aead).1.Settled := by
  rcases h with hclosed | h
  · have hpumped : Pumped aead { s with inbound, calls } _ := pumped _
    exact .inl (hpumped.progress.elim id fun h => h.2.2.trans hclosed)
  have hopen := hopen h
  have hheld : inbound.length < lengthPrefixBytes + maxRecordBytes → Settled { s with inbound, calls } := by
    intro hlt
    refine .inr ⟨h.opener, h.handshake, fun _ => hopen, fun _ => ?_⟩
    rw [inboundCap, if_pos hopen]
    exact hlt
  unfold SecureChannel.pump
  split
  · next hnone =>
    have hopener := h.opener.trans hopen
    rw [hnone] at hopener
    cases hopener
  · split
    · next hshort => exact hheld (Nat.lt_add_right _ hshort)
    · simp only
      split
      · exact settled_shutdown _ _
      · next hlong =>
        split
        · next hpart => exact hheld (hpart.trans_le (Nat.add_le_add_left (Nat.le_of_not_lt hlong) _))
        · split
          · exact settled_shutdown _ _
          · split
            · exact settled_shutdown _ _
            · exact .inr ⟨hopen.symm, h.handshake, fun _ => hopen, fun hnil => absurd hnil (List.cons_ne_nil _ _)⟩

lemma Frugal.drain {s : SecureChannel} (h : s.Frugal) (inbound : ByteQueue) :
    ({ s with inbound }.drain crypto aead).1.Settled := by
  unfold SecureChannel.drain
  split
  · next hopen => exact Settled.pump (.inr h) (fun _ => hopen) inbound s.calls
  · next hshut =>
    have hshut : s.isOpen = false := by simpa using hshut
    split
    · next hshort =>
      refine .inr ⟨h.opener, h.handshake, h.calls, fun _ => ?_⟩
      rw [inboundCap, if_neg (by simp [hshut])]
      exact hshort
    · obtain ⟨handshake, hsome⟩ := Option.isSome_iff_exists.1 (h.handshake.trans (by rw [hshut]; rfl))
      rcases completeHandshake_eq crypto aead (s := { s with inbound := (inbound.take handshakeMsgBytes).2 }) hsome
        (inbound.take handshakeMsgBytes).1 with ⟨e, heq⟩ | ⟨keys, wiped, heq⟩ | ⟨keys, wiped, heq⟩
      · rw [heq]
        exact settled_shutdown _ _
      · rw [heq]
        refine .inr ⟨h.opener, by rw [hshut]; rfl, fun ⟨c, hmem, hc⟩ => ?_, nofun⟩
        rcases List.mem_cons.1 hmem with rfl | hmem
        · exact absurd rfl (hc keys)
        · exact h.calls ⟨c, hmem, hc⟩
      · rw [heq]
        exact settled_establish _ _

lemma Settled.resume {s : SecureChannel} (h : s.Settled) (outcome : Outcome) :
    (s.resume crypto aead outcome).1.Settled := by
  have hpump : ∀ c calls, s.calls = c :: calls → (∀ keys, c ≠ .reply keys) →
      ({ s with calls }.pump aead).1.Settled := fun c calls hcalls hc =>
    h.pump (fun h => h.calls ⟨c, hcalls ▸ List.mem_cons_self, hc⟩) s.inbound calls
  unfold SecureChannel.resume
  split
  · exact h
  · simp only
    split
    · exact settled_establish _ _
    · exact settled_shutdown _ _
  · next hcalls =>
    simp only
    split
    · exact hpump _ _ hcalls nofun
    · exact settled_shutdown _ _
  · next hcalls =>
    simp only
    split
    · exact settled_shutdown _ _
    · exact hpump _ _ hcalls nofun

lemma Settled.react {s : SecureChannel} (h : s.Settled) (event : Event) : (s.react crypto aead event).1.Settled := by
  cases event with
  | microtask =>
    rcases s.start_eq with heq | ⟨effects, heq, -⟩
    all_goals
      rw [SecureChannel.react, heq]
      exact h.imp_right fun h => ⟨h.opener, h.handshake, h.calls, h.rests⟩
  | receive bytes =>
    rw [SecureChannel.react, receive]
    split
    · exact h
    · next hlive => exact (h.resolve_left hlive).drain _
  | send frame =>
    rcases s.send_eq aead frame with heq | ⟨sealer, sealer', record, -, heq⟩
    all_goals
      rw [SecureChannel.react, heq]
      exact h.imp_right fun h => ⟨h.opener, h.handshake, h.calls, h.rests⟩
  | close => exact settled_shutdown _ _
  | resume outcome => exact h.resume outcome

end SecureChannel

/-- **A peer cannot fill a channel.** In every run, whatever arrives and however it is cut, a channel that is not
closed and has no call out running holds fewer bytes than its cap. -/
theorem inbound_lt_cap (crypto : Crypto) (aead : Aead) (handshake : Handshake) (es : List Event) :
    let s := (channelMachine crypto aead handshake).run es
    s.closed = true ∨ s.calls ≠ [] ∨ s.inbound.contents.length < s.inboundCap := by
  intro s
  have hs : s.Settled := by
    refine (channelMachine crypto aead handshake).invariant (p := SecureChannel.Settled)
      (.inr ⟨rfl, rfl, nofun, fun _ => ?_⟩) (fun _ e h => h.react e) es
    show 0 < handshakeMsgBytes
    decide
  refine hs.imp_right fun hs => ?_
  by_cases hcalls : s.calls = []
  · rw [← s.inbound.length_eq]
    exact .inr (hs.rests hcalls)
  · exact .inl hcalls

end Pherry.Channel
