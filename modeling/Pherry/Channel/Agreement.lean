import Pherry.Channel.ExactDelivery
import Pherry.Channel.KeyStep

/-!
# Handshake agreement

The keys of a run that consumed one handshake message are what that message derives. With a
symbolic Diffie-Hellman and no hash collision, an initiator and a responder agree on them exactly
when each used the other's ephemeral, the pinned key is the responder's and the contexts are equal:
`handshakeAgreement`.
-/

namespace Pherry.Channel

open Lib

/-! ## The keys of a run -/

/-- The keys of a channel are what the one handshake message it consumed derives, and it seals and
opens with them. -/
structure Derives (crypto : Crypto) (handshake : Handshake) (consumed : List Bytes)
    (s : SecureChannel) : Prop where
  role : s.role = handshake.static.role
  fresh : consumed = [] → s.handshake = some handshake ∧ s.keys = none ∧
    ∀ keys, .reply keys ∉ s.calls
  derived : ∀ message, consumed = [message] →
    ∀ keys, .reply keys ∈ s.calls ∨ s.keys = some keys →
      ∃ wiped, handshake.consume crypto message = .ok (keys, wiped)
  sides : ∀ keys, s.keys = some keys → s.closed = false →
    s.sealer.map Sealer.key = some (keys.sendKey s.role) ∧
      s.opener.map Opener.key = some (keys.recvKey s.role)

section Keys

variable {crypto : Crypto} {aead : Aead} {handshake : Handshake}

lemma Derives.keeps {consumed : List Bytes} {s : SecureChannel} {r : SecureChannel × List Effect}
    (h : Derives crypto handshake consumed s) (ht : s.KeepsKeys r.1)
    (hopens : SecureChannel.Opens aead s.opener r) : Derives crypto handshake consumed r.1 := by
  have hkeys : ∀ keys, r.1.keys = some keys → s.keys = some keys := by
    intro keys hsome
    rcases ht.keys with ⟨hnone, -⟩ | ⟨hsame, -⟩
    · rw [hnone] at hsome
      cases hsome
    · rw [← hsame]
      exact hsome
  refine ⟨ht.role.trans h.role, fun hnone => ?_, fun message hone keys hkey => ?_,
    fun keys hsome hlive => ?_⟩
  · obtain ⟨hhandshake, hnokeys, hcalls⟩ := h.fresh hnone
    refine ⟨ht.handshake.trans hhandshake, ?_, fun keys hmem => hcalls keys (ht.replies keys hmem)⟩
    rcases ht.keys with ⟨hnone, -⟩ | ⟨hsame, -⟩
    · exact hnone
    · exact hsame.trans hnokeys
  · exact h.derived message hone keys (hkey.imp (ht.replies keys) (hkeys keys))
  · have hbefore : s.closed = false := by
      by_contra hclosed
      rw [Bool.not_eq_false] at hclosed
      rw [ht.closed hclosed] at hlive
      cases hlive
    have hsides := h.sides keys (hkeys keys hsome) hbefore
    rcases ht.keys with ⟨hnone, -⟩ | ⟨-, hsealer⟩
    · rw [hnone] at hsome
      cases hsome
    · rw [hsealer, hopens.key hlive, ht.role]
      exact hsides

lemma Derives.fails {consumed : List Bytes} {s : SecureChannel} {r : SecureChannel × List Effect}
    {message : Bytes} (h : Derives crypto handshake consumed s) (ht : s.KeepsKeys r.1)
    (hopens : SecureChannel.Opens aead s.opener r) :
    Derives crypto handshake (consumed ++ [message]) r.1 := by
  have hafter := h.keeps ht hopens
  refine ⟨hafter.role, fun hnone => ?_, fun m hone keys hkey => ?_, hafter.sides⟩
  · simp at hnone
  · have hnone : consumed = [] := by
      cases consumed with
      | nil => rfl
      | cons x xs => simp at hone
    obtain ⟨-, hnokeys, hcalls⟩ := hafter.fresh hnone
    rcases hkey with hmem | hsome
    · exact absurd hmem (hcalls keys)
    · rw [hnokeys] at hsome
      cases hsome

lemma Derives.react {consumed : List Bytes} {s : SecureChannel}
    (h : Derives crypto handshake consumed s) (e : Event) :
    Derives crypto handshake (consumed ++ consumedIn (s.react crypto aead e).2)
      (s.react crypto aead e).1 := by
  -- the first message is consumed by the handshake the channel began with
  have hfirst : ∀ {message m : Bytes}, consumed ++ [message] = [m] → message = m ∧
      s.handshake = some handshake ∧ s.keys = none ∧ ∀ keys, .reply keys ∉ s.calls := by
    intro message m hone
    have hnone : consumed = [] := by
      cases consumed with
      | nil => rfl
      | cons x xs => simp at hone
    subst hnone
    exact ⟨by simpa using hone, h.fresh rfl⟩
  cases SecureChannel.keyStep crypto aead s e with
  | keeps hkeeps hopens hconsumed hsealed =>
    rw [hconsumed, List.append_nil]
    exact h.keeps hkeeps hopens
  | seals frame sealer sealer' record hlive hsealer hseal hstate hconsumed hsealed hopened =>
    rw [hconsumed, List.append_nil, hstate]
    refine ⟨h.role, h.fresh, h.derived, fun keys hsome hopen => ?_⟩
    have hsides := h.sides keys hsome hlive
    rw [hsealer] at hsides
    exact ⟨(congrArg some (Sealer.seal_eq_some hseal).2.2.1).trans hsides.1, hsides.2⟩
  | fails message hkeeps hopens hconsumed hsealed =>
    rw [hconsumed]
    exact h.fails hkeeps hopens
  | replies message hs wiped keys inbound hhandshake hderive hstate hconsumed hsealed hopened hrole =>
    rw [hconsumed, hstate]
    refine ⟨h.role, fun hnone => ?_, fun m hone keys' hkey => ?_, h.sides⟩
    · simp at hnone
    · obtain ⟨rfl, hsame, hnokeys, hcalls⟩ := hfirst hone
      rw [hhandshake] at hsame
      obtain rfl := Option.some.inj hsame
      rcases hkey with hmem | hsome
      · rcases List.mem_cons.1 hmem with heq | hrest
        · obtain rfl := Callback.reply.inj heq
          exact ⟨wiped, hderive⟩
        · exact absurd hrest (hcalls keys')
      · rw [show s.keys = some keys' from hsome] at hnokeys
        cases hnokeys
  | opens message hs wiped keys inbound hhandshake hderive hstate hconsumed hsealed hopened =>
    rw [hconsumed, hstate]
    refine ⟨h.role, fun hnone => ?_, fun m hone keys' hkey => ?_, fun keys' hsome hlive => ?_⟩
    · simp at hnone
    · obtain ⟨rfl, hsame, hnokeys, hcalls⟩ := hfirst hone
      rw [hhandshake] at hsame
      obtain rfl := Option.some.inj hsame
      rcases hkey with hmem | hsome
      · rcases List.mem_cons.1 hmem with heq | hrest
        · cases heq
        · exact absurd hrest (hcalls keys')
      · obtain rfl := Option.some.inj hsome
        exact ⟨wiped, hderive⟩
    · obtain rfl := Option.some.inj hsome
      exact ⟨rfl, rfl⟩
  | written keys calls hcalls hstate heffects =>
    have hmem : .reply keys ∈ s.calls := by
      rw [hcalls]
      exact List.mem_cons_self
    rw [heffects, hstate, consumedIn, List.filterMap_nil, List.append_nil]
    refine ⟨h.role, fun hnone => ?_, fun m hone keys' hkey => ?_, fun keys' hsome hlive => ?_⟩
    · exact absurd hmem ((h.fresh hnone).2.2 keys)
    · rcases hkey with hmem' | hsome
      · rcases List.mem_cons.1 hmem' with heq | hrest
        · cases heq
        · exact h.derived m hone keys' (.inl (by rw [hcalls]; exact List.mem_cons_of_mem _ hrest))
      · obtain rfl := Option.some.inj hsome
        exact h.derived m hone _ (.inl hmem)
    · obtain rfl := Option.some.inj hsome
      exact ⟨rfl, rfl⟩

lemma derives_run (es : List Event) :
    Derives crypto handshake (consumedIn (trace crypto aead handshake es))
      ((channelMachine crypto aead handshake).run es) := by
  refine (channelMachine crypto aead handshake).history_invariant
    (p := fun es s => Derives crypto handshake (consumedIn (trace crypto aead handshake es)) s)
    ?_ (fun es e h => ?_) es
  · refine ⟨rfl, fun _ => ⟨rfl, rfl, fun keys hmem => ?_⟩, fun m hone => ?_, fun keys hsome => ?_⟩
    · cases hmem
    · cases hone
    · cases hsome
  · rw [trace, Machine.outputs_snoc, consumedIn_append]
    exact h.react e

end Keys

/-! ## What the keys are derived from -/

/-- What enters HKDF: the key material, and what the salt is the hash of. -/
@[ext] structure KeyInput where
  ikm : Bytes
  saltInput : Bytes

/-- The session keys of an input. -/
def KeyInput.keys (crypto : Crypto) (input : KeyInput) : SessionKeys :=
  let okm := crypto.hkdf input.ikm (crypto.sha256 input.saltInput) hkdfInfo (32 * 2 + 32)
  { keyI2R := okm.take 32
    keyR2I := (okm.drop 32).take 32
    sessionId := (okm.drop 64).take 32 }

/-- What a side derives its keys from. -/
def Handshake.keyInput (crypto : Crypto) (h : Handshake) (peerMessage : Bytes) :
    Except ChannelError KeyInput := do
  let dhEE ← dh crypto h.ephemeralSecret peerMessage "dh_ee"
  match h.static with
  | .pinned hostStatic =>
    let dhES ← dh crypto h.ephemeralSecret hostStatic "dh_es"
    return ⟨dhEE ++ dhES, saltLabel ++ h.message ++ peerMessage ++ h.context⟩
  | .own secretKey =>
    let dhES ← dh crypto secretKey peerMessage "dh_es"
    return ⟨dhEE ++ dhES, saltLabel ++ peerMessage ++ h.message ++ h.context⟩

section Inputs

variable {crypto : Crypto}

lemma dh_eq_ok {ownSecret peerPublic secret : Bytes} {label : String}
    (h : dh crypto ownSecret peerPublic label = .ok secret) :
    peerPublic.length = keyBytes ∧ crypto.getSharedSecret ownSecret peerPublic = some secret := by
  unfold dh at h
  split at h
  · cases h
  · next hlength =>
    split at h
    · next hsome =>
      cases h
      exact ⟨not_not.1 hlength, hsome⟩
    · cases h

lemma initiator_keyInput {ephemeralSecret pinned context : Bytes} {initiator : Handshake}
    (hpinned : initiatorHandshake crypto ephemeralSecret pinned context = some initiator)
    {message : Bytes} {keys : SessionKeys} {wiped : Handshake}
    (h : initiator.consume crypto message = .ok (keys, wiped)) :
    pinned.length = keyBytes ∧ ∃ dhEE dhES, message.length = keyBytes ∧
      crypto.getSharedSecret ephemeralSecret message = some dhEE ∧
      crypto.getSharedSecret ephemeralSecret pinned = some dhES ∧
      initiator.keyInput crypto message = .ok ⟨dhEE ++ dhES,
        saltLabel ++ (crypto.getPublicKey ephemeralSecret).1 ++ message ++ context⟩ ∧
      keys = KeyInput.keys crypto ⟨dhEE ++ dhES,
        saltLabel ++ (crypto.getPublicKey ephemeralSecret).1 ++ message ++ context⟩ := by
  unfold initiatorHandshake at hpinned
  split at hpinned
  · cases hpinned
  · obtain rfl := Option.some.inj hpinned
    unfold Handshake.consume at h
    unfold Handshake.keyInput
    simp only at h ⊢
    cases hee : dh crypto ephemeralSecret message "dh_ee" with
    | error e => rw [hee] at h; cases h
    | ok dhEE =>
      rw [hee] at h
      cases hes : dh crypto ephemeralSecret pinned "dh_es" with
      | error e =>
        change (dh crypto ephemeralSecret pinned "dh_es" >>= _) = _ at h
        rw [hes] at h
        cases h
      | ok dhES =>
        change (dh crypto ephemeralSecret pinned "dh_es" >>= _) = _ at h
        rw [hes] at h
        obtain ⟨hlength, hsecret⟩ := dh_eq_ok hee
        obtain ⟨hlength', hsecret'⟩ := dh_eq_ok hes
        refine ⟨hlength', dhEE, dhES, hlength, hsecret, hsecret', rfl, ?_⟩
        cases h
        rfl

lemma responder_keyInput {ephemeralSecret static context message : Bytes} {keys : SessionKeys}
    {wiped : Handshake}
    (h : (responderHandshake crypto ephemeralSecret static context).consume crypto message
      = .ok (keys, wiped)) :
    ∃ dhEE dhES, message.length = keyBytes ∧
      crypto.getSharedSecret ephemeralSecret message = some dhEE ∧
      crypto.getSharedSecret static message = some dhES ∧
      (responderHandshake crypto ephemeralSecret static context).keyInput crypto message
        = .ok ⟨dhEE ++ dhES,
          saltLabel ++ message ++ (crypto.getPublicKey ephemeralSecret).1 ++ context⟩ ∧
      keys = KeyInput.keys crypto ⟨dhEE ++ dhES,
        saltLabel ++ message ++ (crypto.getPublicKey ephemeralSecret).1 ++ context⟩ := by
  unfold responderHandshake Handshake.consume at h
  unfold responderHandshake Handshake.keyInput
  simp only at h ⊢
  cases hee : dh crypto ephemeralSecret message "dh_ee" with
  | error e => rw [hee] at h; cases h
  | ok dhEE =>
    rw [hee] at h
    change (dh crypto static message "dh_es" >>= _) = _ at h
    cases hes : dh crypto static message "dh_es" with
    | error e =>
      rw [hes] at h
      cases h
    | ok dhES =>
      rw [hes] at h
      obtain ⟨hlength, hsecret⟩ := dh_eq_ok hee
      obtain ⟨-, hsecret'⟩ := dh_eq_ok hes
      refine ⟨dhEE, dhES, hlength, hsecret, hsecret', rfl, ?_⟩
      cases h
      rfl

/-- Diffie-Hellman as a term algebra: the two ways to a shared secret agree, a secret has 32 bytes,
and with one's own secret it determines the peer's public key. -/
structure SymbolicDH (crypto : Crypto) : Prop where
  commutes : ∀ a b, crypto.getSharedSecret a (crypto.getPublicKey b).1
    = crypto.getSharedSecret b (crypto.getPublicKey a).1
  length : ∀ {a p secret}, crypto.getSharedSecret a p = some secret → secret.length = keyBytes
  injective : ∀ {a p q secret}, p.length = keyBytes → q.length = keyBytes →
    crypto.getSharedSecret a p = some secret → crypto.getSharedSecret a q = some secret → p = q

/-- Neither hash collides on these two inputs. -/
structure CollisionFree (crypto : Crypto) (x y : KeyInput) : Prop where
  sha256 : crypto.sha256 x.saltInput = crypto.sha256 y.saltInput → x.saltInput = y.saltInput
  hkdf : (x.keys crypto).keyI2R = (y.keys crypto).keyI2R →
    (x.keys crypto).keyR2I = (y.keys crypto).keyR2I →
      x.ikm = y.ikm ∧ crypto.sha256 x.saltInput = crypto.sha256 y.saltInput

/-- The salt is hashed from an unambiguous encoding: its first fields have a fixed length. -/
lemma saltInput_inj {eI eR eI' eR' context context' : Bytes} (hI : eI.length = eI'.length)
    (hR : eR.length = eR'.length)
    (h : saltLabel ++ eI ++ eR ++ context = saltLabel ++ eI' ++ eR' ++ context') :
    eI = eI' ∧ eR = eR' ∧ context = context' := by
  simp only [List.append_assoc] at h
  have hfields := List.append_cancel_left h
  obtain ⟨hsameI, hrest⟩ := List.append_inj hfields hI
  obtain ⟨hsameR, hcontext⟩ := List.append_inj hrest hR
  exact ⟨hsameI, hsameR, hcontext⟩

end Inputs

/-! ## Agreement -/

/-- A run that consumed one handshake message and is open with keys. -/
structure Completes (crypto : Crypto) (aead : Aead) (handshake : Handshake) (es : List Event)
    (message : Bytes) : Prop where
  consumed : consumedIn (trace crypto aead handshake es) = [message]
  keys : ((channelMachine crypto aead handshake).run es).keys.isSome = true
  live : ((channelMachine crypto aead handshake).run es).closed = false

/-- What each end seals with the other opens with. -/
def Swapped (s t : SecureChannel) : Prop :=
  s.sealer.map Sealer.key = t.opener.map Opener.key ∧
    s.opener.map Opener.key = t.sealer.map Sealer.key

/-- Each side used the other's ephemeral, the pinned key is the responder's, and the contexts are
equal. -/
def Matching (crypto : Crypto) (eI pinned contextI messageI eR static contextR messageR : Bytes) :
    Prop :=
  messageI = (crypto.getPublicKey eR).1 ∧ messageR = (crypto.getPublicKey eI).1 ∧
    pinned = (crypto.getPublicKey static).1 ∧ contextI = contextR

section Agreement

variable {crypto : Crypto} {aead : Aead}

lemma Completes.sides {handshake : Handshake} {es : List Event} {message : Bytes}
    (h : Completes crypto aead handshake es message) : ∃ keys wiped,
      handshake.consume crypto message = .ok (keys, wiped) ∧
      ((channelMachine crypto aead handshake).run es).sealer.map Sealer.key
        = some (keys.sendKey handshake.static.role) ∧
      ((channelMachine crypto aead handshake).run es).opener.map Opener.key
        = some (keys.recvKey handshake.static.role) := by
  have hderives : Derives crypto handshake (consumedIn (trace crypto aead handshake es))
    ((channelMachine crypto aead handshake).run es) := derives_run es
  obtain ⟨keys, hsome⟩ := Option.isSome_iff_exists.1 h.keys
  obtain ⟨wiped, hderive⟩ := hderives.derived message h.consumed keys (.inr hsome)
  have hsides := hderives.sides keys hsome h.live
  rw [hderives.role] at hsides
  exact ⟨keys, wiped, hderive, hsides⟩

/-- **Handshake agreement.** Of an initiator run and a responder run that both complete, the inputs
of the key derivations are equal exactly when the handshakes match, and without a hash collision
the directional keys are then, and only then, the same with send and receive swapped. -/
theorem handshakeAgreement (hdh : SymbolicDH crypto) {eI pinned contextI eR static contextR : Bytes}
    {initiator : Handshake}
    (hpinned : initiatorHandshake crypto eI pinned contextI = some initiator)
    {esI esR : List Event} {messageI messageR : Bytes}
    (hI : Completes crypto aead initiator esI messageI)
    (hR : Completes crypto aead (responderHandshake crypto eR static contextR) esR messageR) :
    ∃ inputI inputR, initiator.keyInput crypto messageI = .ok inputI ∧
      (responderHandshake crypto eR static contextR).keyInput crypto messageR = .ok inputR ∧
      (inputI = inputR ↔
        Matching crypto eI pinned contextI messageI eR static contextR messageR) ∧
      (CollisionFree crypto inputI inputR →
        (Swapped ((channelMachine crypto aead initiator).run esI)
            ((channelMachine crypto aead (responderHandshake crypto eR static contextR)).run esR) ↔
          Matching crypto eI pinned contextI messageI eR static contextR messageR)) := by
  obtain ⟨keysI, wipedI, hderiveI, hsealerI, hopenerI⟩ := hI.sides
  obtain ⟨keysR, wipedR, hderiveR, hsealerR, hopenerR⟩ := hR.sides
  obtain ⟨hlengthP, dhEE, dhES, hlengthI, hee, hes, hinputI, hkeysI⟩ :=
    initiator_keyInput hpinned hderiveI
  obtain ⟨dhEE', dhES', hlengthR, hee', hes', hinputR, hkeysR⟩ := responder_keyInput hderiveR
  have hpubI := (crypto.getPublicKey eI).2
  have hpubR := (crypto.getPublicKey eR).2
  have hrole : initiator.static.role = .initiator := by
    unfold initiatorHandshake at hpinned
    split at hpinned
    · cases hpinned
    · obtain rfl := Option.some.inj hpinned
      rfl
  -- the inputs are equal exactly when the handshakes match
  have hinputs : (⟨dhEE ++ dhES, saltLabel ++ (crypto.getPublicKey eI).1 ++ messageI ++ contextI⟩
        : KeyInput)
      = ⟨dhEE' ++ dhES', saltLabel ++ messageR ++ (crypto.getPublicKey eR).1 ++ contextR⟩ ↔
      Matching crypto eI pinned contextI messageI eR static contextR messageR := by
    constructor
    · intro hsame
      obtain ⟨hikm, hsalt⟩ := KeyInput.mk.inj hsame
      obtain ⟨hmessageR, hmessageI, hcontext⟩ := saltInput_inj (by rw [hpubI, hlengthR]; rfl)
        (by rw [hpubR, hlengthI]; rfl) hsalt
      obtain ⟨-, hstatic⟩ := List.append_inj hikm (by rw [hdh.length hee, hdh.length hee'])
      refine ⟨hmessageI, hmessageR.symm, ?_, hcontext⟩
      -- the responder's static secret with the initiator's ephemeral is the other way to the secret
      rw [← hmessageR, hdh.commutes, ← hstatic] at hes'
      exact hdh.injective hlengthP (crypto.getPublicKey static).2 hes hes'
    · rintro ⟨rfl, rfl, rfl, rfl⟩
      rw [hdh.commutes, hee'] at hee
      rw [hdh.commutes, hes'] at hes
      rw [Option.some.inj hee, Option.some.inj hes]
  refine ⟨_, _, hinputI, hinputR, hinputs, fun hfree => ?_⟩
  rw [← hinputs, Swapped, hsealerI, hopenerI, hsealerR, hopenerR, hrole]
  show some keysI.keyI2R = some keysR.keyI2R ∧ some keysI.keyR2I = some keysR.keyR2I ↔ _
  rw [hkeysI, hkeysR]
  constructor
  · rintro ⟨hI2R, hR2I⟩
    obtain ⟨hikm, hhash⟩ := hfree.hkdf (Option.some.inj hI2R) (Option.some.inj hR2I)
    have hsalt := hfree.sha256 hhash
    exact KeyInput.ext hikm hsalt
  · intro hsame
    rw [hsame]
    exact ⟨rfl, rfl⟩

end Agreement

/-! ## A toy Diffie-Hellman -/

namespace Demo

/-- A secret of 32 bytes, shorter ones filled up with zeros. -/
def pad (secret : Bytes) : Bytes32 :=
  ⟨(secret ++ List.replicate 32 0).take 32, by simp⟩

/-- A public key is its secret, and a shared secret their exclusive or. -/
def xorCrypto : Crypto :=
  { getPublicKey := pad
    getSharedSecret := fun a p =>
      if p.length = keyBytes then some (List.zipWith (fun x y => x ^^^ y) (pad a).1 p) else none
    hkdf := fun ikm salt _ n => (ikm ++ salt ++ List.replicate n 0).take n
    hmac := fun _ _ => List.replicate 32 0
    sha256 := fun bytes => bytes }

lemma zipWith_xor_comm (a b : Bytes) :
    List.zipWith (fun x y => x ^^^ y) a b = List.zipWith (fun x y => x ^^^ y) b a := by
  rw [List.zipWith_comm]
  simp only [UInt8.xor_comm]

lemma zipWith_xor_inj {a p q : Bytes} (hp : p.length = a.length) (hq : q.length = a.length)
    (h : List.zipWith (fun x y => x ^^^ y) a p = List.zipWith (fun x y => x ^^^ y) a q) :
    p = q := by
  induction a generalizing p q with
  | nil => rw [List.eq_nil_of_length_eq_zero hp, List.eq_nil_of_length_eq_zero hq]
  | cons x a ih =>
    cases p with
    | nil => cases hp
    | cons y p =>
      cases q with
      | nil => cases hq
      | cons z q =>
        obtain ⟨hhead, htail⟩ := List.cons.inj h
        rw [ih (Nat.succ.inj hp) (Nat.succ.inj hq) htail, (UInt8.xor_right_inj x).1 hhead]

lemma symbolicDH_xorCrypto : SymbolicDH xorCrypto where
  commutes a b := by
    have hab : xorCrypto.getSharedSecret a (pad b).1 = some _ := if_pos (pad b).2
    have hba : xorCrypto.getSharedSecret b (pad a).1 = some _ := if_pos (pad a).2
    show xorCrypto.getSharedSecret a (pad b).1 = xorCrypto.getSharedSecret b (pad a).1
    rw [hab, hba, zipWith_xor_comm]
  length := by
    intro a p secret h
    by_cases hp : p.length = keyBytes
    · rw [show xorCrypto.getSharedSecret a p = some _ from if_pos hp] at h
      obtain rfl := Option.some.inj h
      rw [List.length_zipWith, (pad a).2, hp]
      rfl
    · rw [show xorCrypto.getSharedSecret a p = none from if_neg hp] at h
      cases h
  injective := by
    intro a p q secret hp hq hsp hsq
    rw [show xorCrypto.getSharedSecret a p = some _ from if_pos hp] at hsp
    rw [show xorCrypto.getSharedSecret a q = some _ from if_pos hq] at hsq
    have hsame := (Option.some.inj hsp).trans (Option.some.inj hsq).symm
    exact zipWith_xor_inj (by rw [hp, (pad a).2]; rfl) (by rw [hq, (pad a).2]; rfl) hsame

/-- An initiator with the secret 5 pins the responder's key. -/
def xorInitiator : Handshake :=
  { message := (pad [5]).1, ephemeralSecret := [5], static := .pinned (pad [7]).1, context := [1] }

end Demo

/-- A matching initiator and responder complete, and their keys are swapped. -/
theorem handshakeAgreement_matching :
    Swapped ((channelMachine Demo.xorCrypto Demo.aead Demo.xorInitiator).run
        [.microtask, .receive (Demo.pad [6]).1])
      ((channelMachine Demo.xorCrypto Demo.aead
          (responderHandshake Demo.xorCrypto [6] [7] [1])).run
        [.receive (Demo.pad [5]).1, .resume .returned]) := by
  have hpinned : initiatorHandshake Demo.xorCrypto [5] (Demo.pad [7]).1 [1]
      = some Demo.xorInitiator := by decide +kernel
  have hI : Completes Demo.xorCrypto Demo.aead Demo.xorInitiator
      [.microtask, .receive (Demo.pad [6]).1] (Demo.pad [6]).1 :=
    ⟨by decide +kernel, by decide +kernel, by decide +kernel⟩
  have hR : Completes Demo.xorCrypto Demo.aead (responderHandshake Demo.xorCrypto [6] [7] [1])
      [.receive (Demo.pad [5]).1, .resume .returned] (Demo.pad [5]).1 :=
    ⟨by decide +kernel, by decide +kernel, by decide +kernel⟩
  obtain ⟨inputI, inputR, -, -, hinputs, hagree⟩ :=
    handshakeAgreement Demo.symbolicDH_xorCrypto hpinned hI hR
  have hmatching : Matching Demo.xorCrypto [5] (Demo.pad [7]).1 [1] (Demo.pad [6]).1 [6] [7] [1]
      (Demo.pad [5]).1 := ⟨rfl, rfl, rfl, rfl⟩
  obtain rfl := hinputs.2 hmatching
  exact (hagree ⟨fun _ => rfl, fun _ _ => ⟨rfl, rfl⟩⟩).2 hmatching

end Pherry.Channel
