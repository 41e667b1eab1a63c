import Pherry.Channel.HandshakeOnce
import Pherry.Channel.RecordStream

/-!
# What a step does to the keys

A step of a channel keeps its keys or wipes them, seals one record, opens one record, or goes on
with the handshake: `keyStep` is the one case analysis behind the results about keys and nonces.
-/

namespace Pherry.Channel

open Lib

/-- A record that was opened: under which key and nonce, and to what. -/
structure Opening where
  key : Bytes
  nonce : Bytes
  record : Bytes
  frameBytes : Bytes

/-- The records opened among effects. -/
def openedIn (effects : List Effect) : List Opening :=
  effects.filterMap fun
    | .opened key nonce record frameBytes => some ⟨key, nonce, record, frameBytes⟩
    | _ => none

@[simp] lemma openedIn_append (l m : List Effect) :
    openedIn (l ++ m) = openedIn l ++ openedIn m := List.filterMap_append

namespace SecureChannel

/-- The keys are as they were or wiped, and no reply was added. -/
structure KeepsKeys (s t : SecureChannel) : Prop where
  role : t.role = s.role
  handshake : t.handshake = s.handshake
  replies : ∀ keys, .reply keys ∈ t.calls → .reply keys ∈ s.calls
  keys : (t.keys = none ∧ t.sealer = none) ∨ (t.keys = s.keys ∧ t.sealer = s.sealer)
  closed : s.closed = true → t.closed = true

/-- No record was opened, or the next one was. A closed channel may have dropped its opener. -/
inductive Opens (aead : Aead) (before : Option Opener) (r : SecureChannel × List Effect) : Prop
  | nothing (hopened : openedIn r.2 = [])
      (hopener : r.1.opener = before ∨ (r.1.closed = true ∧ r.1.opener = none))
  | record (opener opener' : Opener) (record frameBytes : Bytes) (hbefore : before = some opener)
      (hopen : opener.open aead record = .ok (frameBytes, opener'))
      (hopened : openedIn r.2 = [⟨opener.key, opener.nonce, record, frameBytes⟩])
      (hopener : r.1.opener = some opener' ∨ (r.1.closed = true ∧ r.1.opener = none))

lemma KeepsKeys.refl (s : SecureChannel) : KeepsKeys s s :=
  ⟨rfl, rfl, fun _ h => h, .inr ⟨rfl, rfl⟩, fun h => h⟩

variable {crypto : Crypto} {aead : Aead}

lemma keepsKeys_shutdown (s : SecureChannel) (inbound : ByteQueue) (opener : Option Opener)
    (calls : List Callback) (hcalls : ∀ keys, .reply keys ∈ calls → .reply keys ∈ s.calls)
    (error : Option ChannelError) :
    KeepsKeys s ({ s with inbound, opener, calls }.shutdown error).1 := by
  unfold shutdown
  split
  · exact ⟨rfl, rfl, hcalls, .inr ⟨rfl, rfl⟩, fun h => h⟩
  · exact ⟨rfl, rfl, hcalls, .inl ⟨rfl, rfl⟩, fun _ => rfl⟩

lemma sealedIn_shutdown (s : SecureChannel) (error : Option ChannelError) :
    sealedIn (s.shutdown error).2 = [] := by
  rcases s.effects_shutdown error with h | h
  · rw [h]
    rfl
  · rw [h]
    rfl

lemma openedIn_shutdown (s : SecureChannel) (error : Option ChannelError) :
    openedIn (s.shutdown error).2 = [] := by
  rcases s.effects_shutdown error with h | h
  · rw [h]
    rfl
  · rw [h]
    rfl

lemma opener_shutdown (s : SecureChannel) (error : Option ChannelError) :
    (s.shutdown error).1.opener = s.opener ∨
      ((s.shutdown error).1.closed = true ∧ (s.shutdown error).1.opener = none) := by
  unfold shutdown
  split
  · exact .inl rfl
  · exact .inr ⟨rfl, rfl⟩

lemma opens_shutdown (s : SecureChannel) (error : Option ChannelError) :
    Opens aead s.opener (s.shutdown error) :=
  .nothing (openedIn_shutdown s error) (opener_shutdown s error)

lemma Pumped.keepsKeys {s : SecureChannel} {r : SecureChannel × List Effect}
    (h : Pumped aead s r) : KeepsKeys s r.1 ∧ sealedIn r.2 = [] := by
  cases h with
  | waiting => exact ⟨.refl s, rfl⟩
  | tooLong length hopener =>
    exact ⟨keepsKeys_shutdown s s.inbound s.opener s.calls (fun _ h => h) _, sealedIn_shutdown s _⟩
  | failed taken inbound opener opened e htaken hopened =>
    refine ⟨keepsKeys_shutdown s inbound opener s.calls (fun _ h => h) (some e), ?_⟩
    have hclose := sealedIn_shutdown { s with inbound, opener } (some e)
    rcases hopened with rfl | ⟨o, record, frameBytes, -, -, rfl⟩
    · exact hclose
    · exact hclose
  | delivered taken inbound opener opener' record frameBytes frame htaken hopener hopen hframe =>
    refine ⟨⟨rfl, rfl, fun keys hmem => ?_, .inr ⟨rfl, rfl⟩, fun h => h⟩, rfl⟩
    rcases List.mem_cons.1 hmem with hframe | hrest
    · cases hframe
    · exact hrest

lemma opens_pump (s : SecureChannel) : Opens aead s.opener (s.pump aead) := by
  unfold pump
  cases hopener : s.opener with
  | none => exact .nothing rfl (.inl hopener)
  | some opener =>
    simp only
    split
    · exact .nothing rfl (.inl hopener)
    split
    · rw [← hopener]
      exact opens_shutdown s _
    split
    · exact .nothing rfl (.inl hopener)
    split
    · -- the record does not open
      refine .nothing (openedIn_shutdown _ _) ?_
      rw [← hopener]
      exact opener_shutdown { s with inbound := _ } _
    · next frameBytes opener' hopen =>
      split
      · -- it opens, to no frame
        refine .record opener opener' _ frameBytes rfl hopen ?_ ?_
        · rw [emit, openedIn_append, openedIn_shutdown]
          rfl
        · exact opener_shutdown { s with inbound := _, opener := some opener' } _
      · exact .record opener opener' _ frameBytes rfl hopen rfl (.inl rfl)

lemma KeepsKeys.of_pop {s t : SecureChannel} {inbound : ByteQueue} {calls : List Callback}
    (h : KeepsKeys { s with inbound, calls } t)
    (hcalls : ∀ keys, .reply keys ∈ calls → .reply keys ∈ s.calls) : KeepsKeys s t :=
  ⟨h.role, h.handshake, fun keys hmem => hcalls keys (h.replies keys hmem), h.keys, h.closed⟩

lemma Opens.key {before : Option Opener} {r : SecureChannel × List Effect}
    (h : Opens aead before r) (hlive : r.1.closed = false) :
    r.1.opener.map Opener.key = before.map Opener.key := by
  cases h with
  | nothing hopened hopener =>
    rcases hopener with hsame | ⟨hclosed, -⟩
    · rw [hsame]
    · rw [hlive] at hclosed
      cases hclosed
  | record opener opener' record frameBytes hbefore hopen hopened hopener =>
    rcases hopener with hsome | ⟨hclosed, -⟩
    · rw [hsome, hbefore]
      exact congrArg some (Opener.open_eq_ok hopen).2.1
    · rw [hlive] at hclosed
      cases hclosed

/-! ## Every step -/

/-- What an event can do to the keys of a channel. -/
inductive KeyStep (crypto : Crypto) (aead : Aead) (s : SecureChannel) (e : Event) : Prop
  | keeps (h : KeepsKeys s (s.react crypto aead e).1)
      (hopens : Opens aead s.opener (s.react crypto aead e))
      (hconsumed : consumedIn (s.react crypto aead e).2 = [])
      (hsealed : sealedIn (s.react crypto aead e).2 = [])
  /-- A frame is sealed. -/
  | seals (frame : ChannelFrame) (sealer sealer' : Sealer) (record : Bytes)
      (hlive : s.closed = false) (hsealer : s.sealer = some sealer)
      (hseal : sealer.seal aead (encodeFrame frame) = some (record, sealer'))
      (hstate : (s.react crypto aead e).1 = { s with sealer := some sealer' })
      (hconsumed : consumedIn (s.react crypto aead e).2 = [])
      (hsealed : sealedIn (s.react crypto aead e).2
        = [⟨sealer.key, sealer.nonce, frame, record⟩])
      (hopened : openedIn (s.react crypto aead e).2 = [])
  /-- A handshake message is consumed that does not derive keys. -/
  | fails (message : Bytes) (h : KeepsKeys s (s.react crypto aead e).1)
      (hopens : Opens aead s.opener (s.react crypto aead e))
      (hconsumed : consumedIn (s.react crypto aead e).2 = [message])
      (hsealed : sealedIn (s.react crypto aead e).2 = [])
  /-- A responder consumes a handshake message and writes its reply. -/
  | replies (message : Bytes) (handshake wiped : Handshake) (keys : SessionKeys)
      (inbound : ByteQueue) (hhandshake : s.handshake = some handshake)
      (hderive : handshake.consume crypto message = .ok (keys, wiped))
      (hstate : (s.react crypto aead e).1
        = { s with inbound, handshake := some wiped, calls := .reply keys :: s.calls })
      (hconsumed : consumedIn (s.react crypto aead e).2 = [message])
      (hsealed : sealedIn (s.react crypto aead e).2 = [])
      (hopened : openedIn (s.react crypto aead e).2 = []) (hrole : s.role = .responder)
  /-- An initiator consumes a handshake message and opens. -/
  | opens (message : Bytes) (handshake wiped : Handshake) (keys : SessionKeys)
      (inbound : ByteQueue) (hhandshake : s.handshake = some handshake)
      (hderive : handshake.consume crypto message = .ok (keys, wiped))
      (hstate : (s.react crypto aead e).1 = { s with inbound }.establish crypto keys)
      (hconsumed : consumedIn (s.react crypto aead e).2 = [message])
      (hsealed : sealedIn (s.react crypto aead e).2 = [])
      (hopened : openedIn (s.react crypto aead e).2 = [])
  /-- The reply of a responder is written, and it opens. -/
  | written (keys : SessionKeys) (calls : List Callback) (hcalls : s.calls = .reply keys :: calls)
      (hstate : (s.react crypto aead e).1 = { s with calls }.establish crypto keys)
      (heffects : (s.react crypto aead e).2 = [])

lemma completeHandshake_keys (crypto : Crypto) (aead : Aead) {s : SecureChannel}
    {handshake : Handshake} (h : s.handshake = some handshake) (message : Bytes) :
    (∃ e, s.completeHandshake crypto aead message = emit [.consumed message] (s.shutdown (some e))) ∨
    ∃ keys wiped, handshake.consume crypto message = .ok (keys, wiped) ∧
      (s.completeHandshake crypto aead message
          = ({ s with handshake := some wiped, calls := .reply keys :: s.calls },
              [.consumed message, .sent handshake.message]) ∧ s.role = .responder ∨
        s.completeHandshake crypto aead message = (s.establish crypto keys, [.consumed message])) := by
  unfold completeHandshake
  rw [h]
  simp only
  split
  · next e _ => exact .inl ⟨e, rfl⟩
  · next keys wiped hderive =>
    refine .inr ⟨keys, wiped, hderive, ?_⟩
    split
    · next hrole => exact .inl ⟨rfl, hrole⟩
    · exact .inr rfl

section Cases

variable {s t : SecureChannel} {e : Event} (hcalls : ∀ keys, .reply keys ∈ t.calls → .reply keys ∈ s.calls)

include hcalls

lemma keyStep_of_pump (hpump : s.react crypto aead e = t.pump aead)
    (hsame : t = { s with inbound := t.inbound, calls := t.calls }) : KeyStep crypto aead s e := by
  obtain ⟨hkeeps, hsealed⟩ := (pumped t : Pumped aead t (t.pump aead)).keepsKeys
  have hopens : Opens aead t.opener (t.pump aead) := opens_pump t
  have hconsumed := (pumped t : Pumped aead t (t.pump aead)).stream.1
  rw [← hpump] at hkeeps hsealed hopens hconsumed
  rw [hsame] at hkeeps hopens
  exact .keeps (hkeeps.of_pop hcalls) hopens hconsumed hsealed

lemma keyStep_of_shutdown {error : Option ChannelError}
    (hshutdown : s.react crypto aead e = t.shutdown error)
    (hsame : t = { s with inbound := t.inbound, calls := t.calls }) : KeyStep crypto aead s e := by
  have hkeeps := keepsKeys_shutdown s t.inbound s.opener t.calls hcalls error
  have hopens : Opens aead t.opener (t.shutdown error) := opens_shutdown t error
  have hconsumed := consumedIn_shutdown t error
  have hsealed := sealedIn_shutdown t error
  rw [← hsame] at hkeeps
  rw [← hshutdown] at hkeeps hopens hconsumed hsealed
  rw [hsame] at hopens
  exact .keeps hkeeps hopens hconsumed hsealed

lemma keyStep_of_still {effects : List Effect} (hstill : s.react crypto aead e = (t, effects))
    (hsame : t = { s with inbound := t.inbound, calls := t.calls, scheduled := t.scheduled })
    (heffects : effects = [] ∨ ∃ bytes, effects = [.sent bytes]) : KeyStep crypto aead s e := by
  have hnone : openedIn effects = [] ∧ consumedIn effects = [] ∧ sealedIn effects = [] := by
    rcases heffects with rfl | ⟨bytes, rfl⟩
    · exact ⟨rfl, rfl, rfl⟩
    · exact ⟨rfl, rfl, rfl⟩
  refine .keeps ?_ (.nothing ?_ (.inl ?_)) ?_ ?_
  · rw [hstill, hsame]
    exact ⟨rfl, rfl, hcalls, .inr ⟨rfl, rfl⟩, fun h => h⟩
  · rw [hstill]
    exact hnone.1
  · rw [hstill, hsame]
  · rw [hstill]
    exact hnone.2.1
  · rw [hstill]
    exact hnone.2.2

end Cases

lemma keyStep_receive (s : SecureChannel) (bytes : Bytes) :
    KeyStep crypto aead s (.receive bytes) := by
  have hstep : s.react crypto aead (.receive bytes) = s.receive crypto aead bytes := rfl
  unfold receive at hstep
  by_cases hclosed : s.closed = true
  · rw [if_pos hclosed] at hstep
    exact keyStep_of_still (fun _ h => h) hstep rfl (.inl rfl)
  rw [if_neg hclosed] at hstep
  unfold drain at hstep
  by_cases hopen : s.isOpen = true
  · rw [if_pos hopen] at hstep
    exact keyStep_of_pump (t := { s with inbound := s.inbound.push bytes }) (fun _ h => h) hstep rfl
  rw [if_neg hopen] at hstep
  by_cases hshort : (s.inbound.push bytes).length < handshakeMsgBytes
  · rw [if_pos hshort] at hstep
    exact keyStep_of_still (t := { s with inbound := s.inbound.push bytes }) (fun _ h => h) hstep rfl
      (.inl rfl)
  rw [if_neg hshort] at hstep
  simp only at hstep
  cases hhandshake : s.handshake with
  | none =>
    -- the handshake is over: what follows is a round of the record loop
    have hnone : ({ s with
        inbound := ((s.inbound.push bytes).take handshakeMsgBytes).2 } : SecureChannel).completeHandshake
          crypto aead ((s.inbound.push bytes).take handshakeMsgBytes).1
        = ({ s with inbound := ((s.inbound.push bytes).take handshakeMsgBytes).2 } :
            SecureChannel).pump aead := by
      unfold completeHandshake
      rw [hhandshake]
    rw [hnone] at hstep
    exact keyStep_of_pump (t := { s with inbound := ((s.inbound.push bytes).take handshakeMsgBytes).2 })
      (fun _ h => h) hstep rfl
  | some handshake =>
    rcases completeHandshake_keys crypto aead
      (s := { s with inbound := ((s.inbound.push bytes).take handshakeMsgBytes).2 }) hhandshake
      ((s.inbound.push bytes).take handshakeMsgBytes).1 with
        ⟨e, heq⟩ | ⟨keys, wiped, hderive, ⟨heq, hrole⟩ | heq⟩
    · rw [heq] at hstep
      refine .fails ((s.inbound.push bytes).take handshakeMsgBytes).1 ?_ (.nothing ?_ ?_) ?_ ?_
      · rw [hstep]
        exact keepsKeys_shutdown s _ s.opener s.calls (fun _ h => h) (some e)
      · rw [hstep, emit, openedIn_append, openedIn_shutdown]
        rfl
      · rw [hstep]
        exact opener_shutdown { s with inbound := _ } (some e)
      · rw [hstep, emit, consumedIn_append, consumedIn_shutdown]
        rfl
      · rw [hstep, emit, sealedIn_append, sealedIn_shutdown]
        rfl
    · rw [heq] at hstep
      exact .replies _ handshake wiped keys _ hhandshake hderive (by rw [hstep]) (by rw [hstep]; rfl)
        (by rw [hstep]; rfl) (by rw [hstep]; rfl) hrole
    · rw [heq] at hstep
      exact .opens _ handshake wiped keys _ hhandshake hderive (by rw [hstep]) (by rw [hstep]; rfl)
        (by rw [hstep]; rfl) (by rw [hstep]; rfl)

lemma keyStep_resume (s : SecureChannel) (outcome : Outcome) :
    KeyStep crypto aead s (.resume outcome) := by
  have hstep : s.react crypto aead (.resume outcome) = s.resume crypto aead outcome := rfl
  unfold resume at hstep
  cases hcalls : s.calls with
  | nil =>
    rw [hcalls] at hstep
    exact keyStep_of_still (fun _ h => h) hstep rfl (.inl rfl)
  | cons c calls =>
    have hpop : ∀ keys, .reply keys ∈ calls → .reply keys ∈ s.calls := by
      intro keys hmem
      rw [hcalls]
      exact List.mem_cons_of_mem _ hmem
    rw [hcalls] at hstep
    cases c with
    | reply keys =>
      by_cases hreturned : outcome = .returned
      · subst hreturned
        exact .written keys calls hcalls (by rw [hstep]; rfl) (by rw [hstep]; rfl)
      · exact keyStep_of_shutdown (t := { s with calls }) hpop (hstep.trans (if_neg hreturned)) rfl
    | opened =>
      by_cases hreturned : outcome = .returned
      · exact keyStep_of_pump (t := { s with calls }) hpop (hstep.trans (if_pos hreturned)) rfl
      · exact keyStep_of_shutdown (t := { s with calls }) hpop (hstep.trans (if_neg hreturned)) rfl
    | frame =>
      by_cases hthrew : outcome = .reportThrew
      · exact keyStep_of_shutdown (t := { s with calls }) hpop (hstep.trans (if_pos hthrew)) rfl
      · exact keyStep_of_pump (t := { s with calls }) hpop (hstep.trans (if_neg hthrew)) rfl

variable (crypto aead) in
lemma keyStep (s : SecureChannel) (e : Event) : KeyStep crypto aead s e := by
  cases e with
  | microtask =>
    have hstep : s.react crypto aead .microtask = s.start := rfl
    rcases s.start_eq with heq | ⟨effects, heq, heffects⟩
    · rw [heq] at hstep
      exact keyStep_of_still (fun _ h => h) hstep rfl (.inl rfl)
    · rw [heq] at hstep
      exact keyStep_of_still (t := { s with scheduled := false }) (fun _ h => h) hstep rfl heffects
  | receive bytes => exact keyStep_receive s bytes
  | send frame =>
    have hstep : s.react crypto aead (.send frame) = s.send aead frame := rfl
    rcases s.send_eq aead frame with heq | ⟨sealer, sealer', record, ⟨hlive, hsome, hseal⟩, heq⟩
    · rw [heq] at hstep
      exact keyStep_of_still (fun _ h => h) hstep rfl (.inl rfl)
    · rw [heq] at hstep
      exact .seals frame sealer sealer' record hlive hsome hseal (by rw [hstep]) (by rw [hstep]; rfl)
        (by rw [hstep]; rfl) (by rw [hstep]; rfl)
  | close => exact keyStep_of_shutdown (t := s) (fun _ h => h) rfl rfl
  | resume outcome => exact keyStep_resume s outcome

end SecureChannel

end Pherry.Channel
