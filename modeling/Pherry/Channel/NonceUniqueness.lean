import Mathlib.Data.List.Nodup
import Pherry.Channel.Agreement

/-!
# Nonces are unique

A channel whose reply is not interrupted installs one session. Its `i`-th record is sealed, and the
`i`-th record it accepts is opened, under the nonce of the counter `i`. An interrupted reply
installs a second session, whose counters begin at zero again: `not_nonceUnique_resumed`.
-/

namespace Pherry.Channel

open Lib

/-! ## Counters -/

lemma bigEndian_nonceFor (noncePrefix : Bytes) {n : ℕ} (hn : n ≤ maxSafeInteger) :
    bigEndian ((nonceFor noncePrefix n).drop noncePrefix.length) = n := by
  have hsafe : maxSafeInteger < 2 ^ 32 * 2 ^ 32 := by decide
  have hhigh := bigEndian_uint32BE (n / 2 ^ 32)
  have hlow := bigEndian_uint32BE n
  rw [nonceFor, List.drop_left, bigEndian_append, hhigh, hlow, length_uint32BE]
  omega

lemma send_exhausted {crypto : Crypto} {aead : Aead} {s : SecureChannel} {sealer : Sealer}
    (hsealer : s.sealer = some sealer) (hcounter : maxSafeInteger < sealer.counter)
    (frame : ChannelFrame) : s.react crypto aead (.send frame) = (s, []) := by
  show s.send aead frame = (s, [])
  rcases s.send_eq aead frame with heq | ⟨sealer', next, record, ⟨-, hsome, hseal⟩, -⟩
  · exact heq
  · rw [hsealer] at hsome
    obtain rfl := Option.some.inj hsome
    have hlimit := (Sealer.seal_eq_some hseal).1
    omega

/-! ## The numbering of a session -/

/-- The records of a session are numbered: the `i`-th one sealed and the `i`-th one opened have the
nonce of the counter `i`, and the sides of the channel go on counting from there. -/
structure Counts (crypto : Crypto) (role : Role) (keys : SessionKeys) (sealings : List Sealing)
    (openings : List Opening) (s : SecureChannel) : Prop where
  sealed : ∀ i x, sealings[i]? = some x → x.key = keys.sendKey role ∧
    x.nonce = nonceFor (noncePrefix crypto keys.sessionId role.sendDirection) i
  bound : sealings.length ≤ maxSafeInteger + 1
  sealer : ∀ sealer, s.sealer = some sealer → sealer.key = keys.sendKey role ∧
    sealer.noncePrefix = noncePrefix crypto keys.sessionId role.sendDirection ∧
    sealer.counter = sealings.length
  opened : ∀ i x, openings[i]? = some x → x.key = keys.recvKey role ∧
    x.nonce = nonceFor (noncePrefix crypto keys.sessionId role.recvDirection)
      (min i (maxSafeInteger + 1))
  opener : ∀ opener, s.opener = some opener → opener.key = keys.recvKey role ∧
    opener.noncePrefix = noncePrefix crypto keys.sessionId role.recvDirection ∧
    opener.counter = min openings.length (maxSafeInteger + 1)

/-- Before its session a channel seals and opens nothing; in it, the records are numbered. -/
inductive Numbered (crypto : Crypto) (handshake : Handshake) (consumed : List Bytes)
    (sealings : List Sealing) (openings : List Opening) (s : SecureChannel) : Prop
  | before (hsealings : sealings = []) (hopenings : openings = []) (hsealer : s.sealer = none)
      (hopener : s.opener = none)
  | after (message : Bytes) (keys : SessionKeys) (wiped : Handshake) (hconsumed : consumed = [message])
      (hderive : handshake.consume crypto message = .ok (keys, wiped))
      (hcounts : Counts crypto handshake.static.role keys sealings openings s)
      (hcalls : ∀ keys, .reply keys ∉ s.calls)

lemma snoc_cases {α : Type*} {l : List α} {a x : α} {i : ℕ} (h : (l ++ [a])[i]? = some x) :
    l[i]? = some x ∨ (i = l.length ∧ x = a) := by
  by_cases hlt : i < l.length
  · rw [List.getElem?_append_left hlt] at h
    exact .inl h
  · right
    have hle := Nat.le_of_not_lt hlt
    rw [List.getElem?_append_right hle, List.getElem?_singleton] at h
    split at h
    · exact ⟨by omega, (Option.some.inj h).symm⟩
    · cases h

section Steps

variable {crypto : Crypto} {aead : Aead} {handshake : Handshake} {role : Role} {keys : SessionKeys}
  {sealings : List Sealing} {openings : List Opening}

variable (crypto) in
lemma counts_establish (s : SecureChannel) (keys : SessionKeys) :
    Counts crypto s.role keys [] [] (s.establish crypto keys) := by
  refine ⟨fun i x hx => ?_, Nat.zero_le _, fun sealer hsome => ?_, fun i x hx => ?_,
    fun opener hsome => ?_⟩
  · cases hx
  · obtain rfl := Option.some.inj hsome
    exact ⟨rfl, rfl, rfl⟩
  · cases hx
  · obtain rfl := Option.some.inj hsome
    exact ⟨rfl, rfl, rfl⟩

lemma Counts.keeps {s : SecureChannel} {r : SecureChannel × List Effect}
    (h : Counts crypto role keys sealings openings s)
    (hsealer : r.1.sealer = none ∨ r.1.sealer = s.sealer)
    (hopens : SecureChannel.Opens aead s.opener r) :
    Counts crypto role keys sealings (openings ++ openedIn r.2) r.1 := by
  have hside : ∀ sealer, r.1.sealer = some sealer → s.sealer = some sealer := by
    intro sealer hsome
    rcases hsealer with hnone | hsame
    · rw [hnone] at hsome
      cases hsome
    · rw [← hsame]
      exact hsome
  have hseals := fun sealer hsome => h.sealer sealer (hside sealer hsome)
  cases hopens with
  | nothing hopened hopener =>
    rw [hopened, List.append_nil]
    refine ⟨h.sealed, h.bound, hseals, h.opened, fun opener hsome => ?_⟩
    rcases hopener with hsame | ⟨-, hnone⟩
    · rw [hsame] at hsome
      exact h.opener opener hsome
    · rw [hnone] at hsome
      cases hsome
  | record opener opener' record frameBytes hbefore hopen hopened hopener =>
    obtain ⟨hkey, hlabel, hcounter⟩ := h.opener opener hbefore
    obtain ⟨-, hkey', hlabel', hcounter'⟩ := Opener.open_eq_ok hopen
    rw [hopened]
    refine ⟨h.sealed, h.bound, hseals, fun i x hx => ?_, fun next hsome => ?_⟩
    · rcases snoc_cases hx with hold | ⟨rfl, rfl⟩
      · exact h.opened i x hold
      · refine ⟨hkey, ?_⟩
        show opener.nonce = _
        rw [Opener.nonce, hlabel, hcounter]
    · rcases hopener with hsame | ⟨-, hnone⟩
      · rw [hsame] at hsome
        obtain rfl := Option.some.inj hsome
        refine ⟨hkey'.trans hkey, hlabel'.trans hlabel, ?_⟩
        rw [hcounter', hcounter, List.length_append, List.length_singleton]
        exact increment_min openings.length
      · rw [hnone] at hsome
        cases hsome

lemma Counts.seals {s : SecureChannel} (h : Counts crypto role keys sealings openings s)
    {sealer sealer' : Sealer} {frame : ChannelFrame} {record : Bytes}
    (hsealer : s.sealer = some sealer)
    (hseal : sealer.seal aead (encodeFrame frame) = some (record, sealer')) :
    Counts crypto role keys (sealings ++ [⟨sealer.key, sealer.nonce, frame, record⟩]) openings
      { s with sealer := some sealer' } := by
  obtain ⟨hkey, hlabel, hcounter⟩ := h.sealer sealer hsealer
  obtain ⟨hlimit, -, hkey', hlabel', hcounter'⟩ := Sealer.seal_eq_some hseal
  refine ⟨fun i x hx => ?_, ?_, fun next hsome => ?_, h.opened, h.opener⟩
  · rcases snoc_cases hx with hold | ⟨rfl, rfl⟩
    · exact h.sealed i x hold
    · refine ⟨hkey, ?_⟩
      show sealer.nonce = _
      rw [Sealer.nonce, hlabel, hcounter]
  · rw [List.length_append, List.length_singleton]
    omega
  · obtain rfl := Option.some.inj hsome
    refine ⟨hkey'.trans hkey, hlabel'.trans hlabel, ?_⟩
    rw [List.length_append, List.length_singleton]
    omega

lemma Stage.length_consumed {consumed : List Bytes} {taken got : Bytes} {s : SecureChannel}
    (h : Stage consumed taken got s) : consumed.length ≤ 1 := by
  cases h with
  | waiting hconsumed => rw [hconsumed]; exact Nat.zero_le _
  | replying message keys hconsumed => rw [hconsumed]; exact Nat.le_refl _
  | running message hconsumed => rw [hconsumed]; exact Nat.le_refl _

lemma Numbered.react {consumed : List Bytes} {taken got : Bytes} {s : SecureChannel}
    (h : Numbered crypto handshake consumed sealings openings s)
    (hstage : Stage consumed taken got s) (hderives : Derives crypto handshake consumed s)
    (e : Event) (hone : (consumed ++ consumedIn (s.react crypto aead e).2).length ≤ 1) :
    Numbered crypto handshake (consumed ++ consumedIn (s.react crypto aead e).2)
      (sealings ++ sealedIn (s.react crypto aead e).2)
      (openings ++ openedIn (s.react crypto aead e).2) (s.react crypto aead e).1 := by
  -- a session that has begun leaves no message to consume
  have hfirst : ∀ {message : Bytes}, consumedIn (s.react crypto aead e).2 = [message] →
      consumed = [] := by
    intro message hconsumed
    rw [hconsumed, List.length_append, List.length_singleton] at hone
    exact List.eq_nil_of_length_eq_zero (by omega)
  have hkept : ∀ {r : SecureChannel × List Effect} {now : List Bytes}, s.KeepsKeys r.1 →
      SecureChannel.Opens aead s.opener r →
      (now = consumed ∨ consumed = []) →
      Numbered crypto handshake now sealings (openings ++ openedIn r.2) r.1 := by
    intro r now hkeeps hopens hnow
    have hsealer : r.1.sealer = none ∨ r.1.sealer = s.sealer := by
      rcases hkeeps.keys with ⟨-, hnone⟩ | ⟨-, hsame⟩
      · exact .inl hnone
      · exact .inr hsame
    cases h with
    | before hsealings hopenings hnone hnone' =>
      cases hopens with
      | nothing hopened hopener =>
        refine .before hsealings (by rw [hopenings, hopened]; rfl) ?_ ?_
        · rcases hsealer with hsealer | hsealer
          · exact hsealer
          · exact hsealer.trans hnone
        · rcases hopener with hsame | ⟨-, hgone⟩
          · exact hsame.trans hnone'
          · exact hgone
      | record opener opener' record frameBytes hbefore hopen hopened hopener =>
        rw [hnone'] at hbefore
        cases hbefore
    | after message keys wiped hconsumed hderive hcounts hcalls =>
      have hsame : now = [message] := by
        rcases hnow with rfl | hnil
        · exact hconsumed
        · rw [hnil] at hconsumed
          cases hconsumed
      exact .after message keys wiped hsame hderive (hcounts.keeps hsealer hopens)
        fun keys hmem => hcalls keys (hkeeps.replies keys hmem)
  have hafter := @Derives.react crypto aead _ _ _ hderives e
  cases SecureChannel.keyStep crypto aead s e with
  | keeps hkeeps hopens hconsumed hsealed =>
    rw [hconsumed, hsealed, List.append_nil, List.append_nil]
    exact hkept hkeeps hopens (.inl rfl)
  | seals frame sealer sealer' record hlive hsealer hseal hstate hconsumed hsealed hopened =>
    rw [hconsumed, hsealed, hopened, hstate, List.append_nil, List.append_nil]
    cases h with
    | before hsealings hopenings hnone hnone' =>
      rw [hnone] at hsealer
      cases hsealer
    | after message keys wiped hone hderive hcounts hcalls =>
      exact .after message keys wiped hone hderive (hcounts.seals hsealer hseal) hcalls
  | fails message hkeeps hopens hconsumed hsealed =>
    rw [hsealed, List.append_nil]
    exact hkept hkeeps hopens (.inr (hfirst hconsumed))
  | replies message hs wiped keys inbound hhandshake hderive hstate hconsumed hsealed hopened hrole =>
    have hnil := hfirst hconsumed
    rw [hsealed, hopened, hstate, List.append_nil, List.append_nil]
    cases h with
    | before hsealings hopenings hnone hnone' => exact .before hsealings hopenings hnone hnone'
    | after message' keys' wiped' hone' =>
      rw [hnil] at hone'
      cases hone'
  | opens message hs wiped keys inbound hhandshake hderive hstate hconsumed hsealed hopened =>
    have hnil := hfirst hconsumed
    obtain ⟨wiped', hderive'⟩ := hafter.derived message (by rw [hconsumed, hnil]; rfl) keys
      (.inr (by rw [hstate]; rfl))
    have hcounts := counts_establish crypto { s with inbound } keys
    have hcalls := (hderives.fresh hnil).2.2
    rw [hconsumed, hsealed, hopened, hstate, hnil]
    cases h with
    | before hsealings hopenings hnone hnone' =>
      rw [hsealings, hopenings]
      refine .after message keys wiped' rfl hderive' ?_ fun keys' hmem => ?_
      · rw [← hderives.role]
        exact hcounts
      · rcases List.mem_cons.1 hmem with heq | hrest
        · cases heq
        · exact hcalls keys' hrest
    | after message' keys' wiped' hone' =>
      rw [hnil] at hone'
      cases hone'
  | written keys calls hcalls hstate heffects =>
    have hmem : .reply keys ∈ s.calls := by
      rw [hcalls]
      exact List.mem_cons_self
    have hcounts := counts_establish crypto { s with calls } keys
    rw [hstate, heffects] at hafter ⊢
    cases h with
    | after message' keys' wiped' hone' hderive' hcounts' hcalls' =>
      exact absurd hmem (hcalls' keys)
    | before hsealings hopenings hnone hnone' =>
      cases hstage with
      | waiting hconsumed htaken hreceived hisOpen hopener hnil =>
        rw [hnil] at hcalls
        cases hcalls
      | running message hconsumed hlength hreceived hisOpen hno => exact absurd hmem (hno keys)
      | replying message keys' hconsumed hlength htaken hreceived hisOpen hopener hreply =>
        rw [hreply] at hcalls
        obtain ⟨-, rfl⟩ := List.cons.inj hcalls
        rw [hconsumed] at hafter ⊢
        obtain ⟨wiped, hderive⟩ := hafter.derived message rfl keys (.inr rfl)
        rw [hsealings, hopenings]
        refine .after message keys wiped rfl hderive ?_ fun keys'' hmem' => ?_
        · rw [← hderives.role]
          exact hcounts
        · rcases List.mem_cons.1 hmem' with heq | hrest
          · cases heq
          · cases hrest

end Steps

/-! ## Runs -/

section Runs

variable (crypto : Crypto) (aead : Aead) (handshake : Handshake)

/-- The records a run sealed. -/
def sealings (es : List Event) : List Sealing := sealedIn (trace crypto aead handshake es)

/-- The records a run opened. -/
def openings (es : List Event) : List Opening := openedIn (trace crypto aead handshake es)

/-- The keys and nonces a run sealed with. -/
def noncesUsed (es : List Event) : List (Bytes × Bytes) :=
  (sealings crypto aead handshake es).map fun x => (x.key, x.nonce)

/-- The session keys that the messages a run consumed derive. -/
def sessions (es : List Event) : List SessionKeys :=
  (consumedIn (trace crypto aead handshake es)).filterMap fun message =>
    match handshake.consume crypto message with
    | .ok (keys, _) => some keys
    | .error _ => none

variable {crypto aead handshake}

lemma numbered_of_meets {es : List Event}
    (h : (channelMachine crypto aead handshake).Meets (fun s e => interruptsReply s e = false) es) :
    Numbered crypto handshake (consumedIn (trace crypto aead handshake es))
      (sealings crypto aead handshake es) (openings crypto aead handshake es)
      ((channelMachine crypto aead handshake).run es) := by
  have hrun := (channelMachine crypto aead handshake).history_invariant_of_meets
    (p := fun es s => Stage (consumedIn (trace crypto aead handshake es))
        (takenIn (trace crypto aead handshake es)) (received crypto aead handshake es) s ∧
      Numbered crypto handshake (consumedIn (trace crypto aead handshake es))
        (sealings crypto aead handshake es) (openings crypto aead handshake es) s)
    ⟨.waiting rfl rfl rfl rfl rfl rfl rfl rfl, .before rfl rfl rfl rfl⟩ (fun es e he ih => ?_) h
  · exact hrun.2
  · have hnext := @Stage.react crypto aead _ _ _ _ ih.1 _ he
    rw [sealings, openings, trace, received, Machine.outputs_snoc, Machine.outputs_snoc,
      consumedIn_append, takenIn_append, sealedIn_append, openedIn_append]
    exact ⟨hnext, ih.2.react ih.1 (derives_run es) e hnext.length_consumed⟩

lemma initiator_meets (hrole : handshake.static.role = .initiator) (es : List Event) :
    (channelMachine crypto aead handshake).Meets (fun s e => interruptsReply s e = false) es := by
  have hrun : ∀ pre, ((channelMachine crypto aead handshake).run pre).role = .initiator ∧
      ∀ keys, .reply keys ∉ ((channelMachine crypto aead handshake).run pre).calls := by
    refine (channelMachine crypto aead handshake).invariant
      (p := fun s => s.role = .initiator ∧ ∀ keys, .reply keys ∉ s.calls)
      ⟨hrole, fun keys hmem => by cases hmem⟩ (fun s e ⟨hs, hno⟩ => ?_)
    show (s.react crypto aead e).1.role = .initiator ∧ ∀ keys, .reply keys ∉ (s.react crypto aead e).1.calls
    cases SecureChannel.keyStep crypto aead s e with
    | keeps hkeeps => exact ⟨hkeeps.role.trans hs, fun keys hmem => hno keys (hkeeps.replies keys hmem)⟩
    | fails message hkeeps =>
      exact ⟨hkeeps.role.trans hs, fun keys hmem => hno keys (hkeeps.replies keys hmem)⟩
    | seals frame sealer sealer' record hlive hsealer hseal hstate =>
      rw [hstate]
      exact ⟨hs, hno⟩
    | replies message h wiped keys inbound hhandshake hderive hstate hconsumed hsealed hopened hresponder =>
      rw [hs] at hresponder
      cases hresponder
    | opens message h wiped keys inbound hhandshake hderive hstate =>
      rw [hstate]
      refine ⟨hs, fun keys' hmem => ?_⟩
      rcases List.mem_cons.1 hmem with heq | hrest
      · cases heq
      · exact hno keys' hrest
    | written keys calls hcalls =>
      exact absurd (by rw [hcalls]; exact List.mem_cons_self) (hno keys)
  intro pre e post hes
  cases e with
  | receive bytes =>
    by_contra hinterrupts
    rw [Bool.not_eq_false] at hinterrupts
    simp only [interruptsReply, Bool.and_eq_true] at hinterrupts
    obtain ⟨c, hmem, hc⟩ := List.any_eq_true.1 hinterrupts.1.2
    cases c with
    | reply keys => exact (hrun pre).2 keys hmem
    | opened => cases hc
    | frame => cases hc
  | microtask => rfl
  | send frame => rfl
  | close => rfl
  | resume outcome => rfl

lemma Numbered.session {es : List Event}
    (h : Numbered crypto handshake (consumedIn (trace crypto aead handshake es))
      (sealings crypto aead handshake es) (openings crypto aead handshake es)
      ((channelMachine crypto aead handshake).run es)) :
    (sealings crypto aead handshake es = [] ∧ openings crypto aead handshake es = [] ∧
      ((channelMachine crypto aead handshake).run es).sealer = none) ∨
    ∃ keys ∈ sessions crypto aead handshake es, Counts crypto handshake.static.role keys
      (sealings crypto aead handshake es) (openings crypto aead handshake es)
      ((channelMachine crypto aead handshake).run es) := by
  cases h with
  | before hsealings hopenings hsealer hopener => exact .inl ⟨hsealings, hopenings, hsealer⟩
  | after message keys wiped hconsumed hderive hcounts hcalls =>
    refine .inr ⟨keys, ?_, hcounts⟩
    rw [sessions, hconsumed, List.filterMap_cons, hderive]
    exact List.mem_cons_self

lemma Counts.nodup {role : Role} {keys : SessionKeys} {sealings : List Sealing}
    {openings : List Opening} {s : SecureChannel}
    (h : Counts crypto role keys sealings openings s) :
    (sealings.map fun x => (x.key, x.nonce)).Nodup := by
  apply List.nodup_iff_getElem?_ne_getElem?.2
  intro i j hij hj hsame
  rw [List.length_map] at hj
  rw [List.getElem?_map, List.getElem?_map, List.getElem?_eq_getElem hj,
    List.getElem?_eq_getElem (Nat.lt_trans hij hj)] at hsame
  obtain ⟨-, hnonce⟩ := Prod.mk.inj (Option.some.inj hsame)
  obtain ⟨-, hi⟩ := h.sealed i _ (List.getElem?_eq_getElem (Nat.lt_trans hij hj))
  obtain ⟨-, hj'⟩ := h.sealed j _ (List.getElem?_eq_getElem hj)
  have hsafe : maxSafeInteger + 1 < 2 ^ 64 := by decide
  have hbound := h.bound
  obtain ⟨-, hcounter⟩ := nonceFor_inj (by omega) (by omega) (hi.symm.trans (hnonce.trans hj'))
  omega

end Runs

/-! ## Two ends -/

section Pair

variable (crypto : Crypto) (aead : Aead)

/-- What HKDF and the truncated SHA-256 are relied on for: one direction of a session and the
other direction of a session differ in the record key or in the nonce prefix. -/
def Apart (keys keys' : SessionKeys) : Prop :=
  keys.keyI2R ≠ keys'.keyR2I ∨ noncePrefix crypto keys.sessionId .initiatorToResponder
    ≠ noncePrefix crypto keys'.sessionId .responderToInitiator

instance (keys keys' : SessionKeys) : Decidable (Apart crypto keys keys') :=
  inferInstanceAs (Decidable (_ ∨ _))

/-- An ideal AEAD: what either end opened, one of the ends sealed, under the same key and nonce. -/
def OpensOnlySealed (handshake : Handshake) (es : List Event) (handshake' : Handshake)
    (es' : List Event) : Prop :=
  ∀ x ∈ openings crypto aead handshake es ++ openings crypto aead handshake' es',
    ∃ y ∈ sealings crypto aead handshake es ++ sealings crypto aead handshake' es',
      y.key = x.key ∧ y.nonce = x.nonce ∧ y.record = x.record

/-- The sealer of one end and the opener of the other count the same records. -/
structure Lockstep (sender : Handshake) (es : List Event) (receiver : Handshake)
    (es' : List Event) : Prop where
  /-- The `n`-th record accepted is the `n`-th one sealed. -/
  numbered : ∀ (n : ℕ) (x : Opening), (openings crypto aead receiver es')[n]? = some x →
    ∃ y : Sealing, (sealings crypto aead sender es)[n]? = some y ∧ y.key = x.key ∧ y.nonce = x.nonce ∧
      y.record = x.record
  /-- When as many records are accepted as are sealed, the counters are equal. -/
  counters : ∀ pre post pre' post', es = pre ++ post → es' = pre' ++ post' →
    (openings crypto aead receiver pre').length = (sealings crypto aead sender pre).length →
      ∀ sealer opener, ((channelMachine crypto aead sender).run pre).sealer = some sealer →
        ((channelMachine crypto aead receiver).run pre').opener = some opener →
          opener.counter = sealer.counter

/-- What the nonces of an initiator and a responder promise, whatever lies between the two. -/
structure NonceUnique (initiator : Handshake) (es : List Event) (responder : Handshake)
    (es' : List Event) : Prop where
  /-- No key and nonce seal two records, in either direction. -/
  distinct : (noncesUsed crypto aead initiator es ++ noncesUsed crypto aead responder es').Nodup
  /-- A nonce holds all of a counter up to `2 ^ 53 - 1`. -/
  splits : ∀ noncePrefix n, n ≤ maxSafeInteger →
    bigEndian ((nonceFor noncePrefix n).drop noncePrefix.length) = n
  /-- With an ideal AEAD the counters of each direction go in step. -/
  lockstep : OpensOnlySealed crypto aead initiator es responder es' →
    Lockstep crypto aead initiator es responder es' ∧
      Lockstep crypto aead responder es' initiator es
  /-- Beyond the limit a send throws: nothing is emitted, and nothing changes. -/
  exhausted : ∀ (s : SecureChannel) sealer, s.sealer = some sealer →
    maxSafeInteger < sealer.counter → ∀ frame, s.react crypto aead (.send frame) = (s, [])

variable {crypto aead}

lemma Apart.self {keys : SessionKeys} (h : Apart crypto keys keys) (role : Role)
    (hkey : keys.sendKey role = keys.recvKey role)
    (hlabel : noncePrefix crypto keys.sessionId role.sendDirection
      = noncePrefix crypto keys.sessionId role.recvDirection) : False := by
  cases role with
  | initiator => exact h.elim (fun hne => hne hkey) fun hne => hne hlabel
  | responder => exact h.elim (fun hne => hne hkey.symm) fun hne => hne hlabel.symm

section Meeting

variable {sender receiver : Handshake} {es es' : List Event}
  (hsender : (channelMachine crypto aead sender).Meets (fun s e => interruptsReply s e = false) es)
  (hreceiver :
    (channelMachine crypto aead receiver).Meets (fun s e => interruptsReply s e = false) es')

include hsender hreceiver

lemma lockstep_of_meets
    (hapart : ∀ keys ∈ sessions crypto aead receiver es', Apart crypto keys keys)
    (hideal : ∀ x ∈ openings crypto aead receiver es',
      ∃ y ∈ sealings crypto aead sender es ++ sealings crypto aead receiver es',
        y.key = x.key ∧ y.nonce = x.nonce ∧ y.record = x.record) :
    Lockstep crypto aead sender es receiver es' := by
  have hsafe : maxSafeInteger + 1 < 2 ^ 64 := by decide
  refine ⟨fun n x hx => ?_, ?_⟩
  · rcases (numbered_of_meets hreceiver).session with ⟨-, hnone, -⟩ | ⟨keys', hmem', hcounts'⟩
    · rw [hnone] at hx
      cases hx
    obtain ⟨hkey, hnonce⟩ := hcounts'.opened n x hx
    obtain ⟨y, hy, hykey, hynonce, hyrecord⟩ := hideal x (List.mem_of_getElem? hx)
    rcases List.mem_append.1 hy with hown | hown
    · -- the sender sealed it, under the same number
      rcases (numbered_of_meets hsender).session with ⟨hnone, -, -⟩ | ⟨keys, hmem, hcounts⟩
      · rw [hnone] at hown
        cases hown
      obtain ⟨m, hm⟩ := List.mem_iff_getElem?.1 hown
      obtain ⟨-, hnonce'⟩ := hcounts.sealed m y hm
      have hlt := (List.getElem?_eq_some_iff.1 hm).1
      have hbound := hcounts.bound
      obtain ⟨-, hcounter⟩ := nonceFor_inj (by omega) (by omega)
        (hnonce'.symm.trans (hynonce.trans hnonce))
      have hsame : m = n := by omega
      rw [← hsame]
      exact ⟨y, hm, hykey, hynonce, hyrecord⟩
    · -- the receiver did not seal it, having another key or prefix for that
      obtain ⟨m, hm⟩ := List.mem_iff_getElem?.1 hown
      obtain ⟨hkey', hnonce'⟩ := hcounts'.sealed m y hm
      have hlt := (List.getElem?_eq_some_iff.1 hm).1
      have hbound := hcounts'.bound
      obtain ⟨hlabel, -⟩ := nonceFor_inj (by omega) (by omega)
        (hnonce'.symm.trans (hynonce.trans hnonce))
      exact ((hapart keys' hmem').self _ (hkey'.symm.trans (hykey.trans hkey)) hlabel).elim
  · intro pre post pre' post' hes hes' hlength sealer opener hsealer hopener
    rw [hes] at hsender
    rw [hes'] at hreceiver
    cases numbered_of_meets hsender.prefix with
    | before hsealings hopenings hnone =>
      rw [hnone] at hsealer
      cases hsealer
    | after message keys wiped hconsumed hderive hcounts =>
      cases numbered_of_meets hreceiver.prefix with
      | before hsealings hopenings hnone hnone' =>
        rw [hnone'] at hopener
        cases hopener
      | after message' keys' wiped' hconsumed' hderive' hcounts' =>
        have hcounter := (hcounts.sealer sealer hsealer).2.2
        have hcounter' := (hcounts'.opener opener hopener).2.2
        have hbound := hcounts.bound
        omega

lemma distinct_of_meets (hrole : sender.static.role = .initiator)
    (hrole' : receiver.static.role = .responder)
    (hapart : ∀ keys ∈ sessions crypto aead sender es,
      ∀ keys' ∈ sessions crypto aead receiver es', Apart crypto keys keys') :
    (noncesUsed crypto aead sender es ++ noncesUsed crypto aead receiver es').Nodup := by
  have hsafe : maxSafeInteger + 1 < 2 ^ 64 := by decide
  rcases (numbered_of_meets hsender).session with ⟨hnone, -, -⟩ | ⟨keys, hmem, hcounts⟩
  · rcases (numbered_of_meets hreceiver).session with ⟨hnone', -, -⟩ | ⟨keys', -, hcounts'⟩
    · rw [noncesUsed, noncesUsed, hnone, hnone']
      exact List.nodup_nil
    · rw [noncesUsed, noncesUsed, hnone]
      exact hcounts'.nodup
  · rcases (numbered_of_meets hreceiver).session with ⟨hnone', -, -⟩ | ⟨keys', hmem', hcounts'⟩
    · rw [noncesUsed, noncesUsed, hnone', List.map_nil, List.append_nil]
      exact hcounts.nodup
    refine List.nodup_append.2 ⟨hcounts.nodup, hcounts'.nodup, fun a ha b hb hab => ?_⟩
    obtain ⟨x, hx, rfl⟩ := List.mem_map.1 ha
    obtain ⟨y, hy, rfl⟩ := List.mem_map.1 hb
    obtain ⟨i, hi⟩ := List.mem_iff_getElem?.1 hx
    obtain ⟨j, hj⟩ := List.mem_iff_getElem?.1 hy
    obtain ⟨hxkey, hxnonce⟩ := hcounts.sealed i x hi
    obtain ⟨hykey, hynonce⟩ := hcounts'.sealed j y hj
    have hlt := (List.getElem?_eq_some_iff.1 hi).1
    have hlt' := (List.getElem?_eq_some_iff.1 hj).1
    have hbound := hcounts.bound
    have hbound' := hcounts'.bound
    obtain ⟨hkey, hnonce⟩ := Prod.mk.inj hab
    obtain ⟨hlabel, -⟩ := nonceFor_inj (by omega) (by omega)
      (hxnonce.symm.trans (hnonce.trans hynonce))
    have hkeys := hxkey.symm.trans (hkey.trans hykey)
    rw [hrole, hrole'] at hkeys hlabel
    exact (hapart keys hmem keys' hmem').elim (fun hne => hne hkeys) fun hne => hne hlabel

end Meeting

/-- **Nonces are unique.** Between an initiator and a responder whose reply is not interrupted, no
key and nonce seal two records, whatever lies between the two. -/
theorem nonceUnique_of_meets {initiator responder : Handshake}
    (hrole : initiator.static.role = .initiator) (hrole' : responder.static.role = .responder)
    {es es' : List Event}
    (hmeets :
      (channelMachine crypto aead responder).Meets (fun s e => interruptsReply s e = false) es')
    (hapart : ∀ keys ∈ sessions crypto aead initiator es ++ sessions crypto aead responder es',
      ∀ keys' ∈ sessions crypto aead initiator es ++ sessions crypto aead responder es',
        Apart crypto keys keys') :
    NonceUnique crypto aead initiator es responder es' where
  distinct := by
    refine distinct_of_meets (initiator_meets hrole es) hmeets hrole hrole' fun keys hkeys keys' hkeys' => ?_
    exact hapart keys (List.mem_append_left _ hkeys) keys' (List.mem_append_right _ hkeys')
  splits noncePrefix n hn := bigEndian_nonceFor noncePrefix hn
  lockstep := by
    intro hideal
    constructor
    · refine lockstep_of_meets (initiator_meets hrole es) hmeets (fun keys hkeys => ?_)
        fun x hx => hideal x (List.mem_append_right _ hx)
      have hmem := List.mem_append_right (sessions crypto aead initiator es) hkeys
      exact hapart keys hmem keys hmem
    · refine lockstep_of_meets hmeets (initiator_meets hrole es) (fun keys hkeys => ?_)
        fun x hx => ?_
      · have hmem := List.mem_append_left (sessions crypto aead responder es') hkeys
        exact hapart keys hmem keys hmem
      · obtain ⟨y, hy, hsame⟩ := hideal x (List.mem_append_left _ hx)
        exact ⟨y, List.mem_append.2 (List.mem_append.1 hy).symm, hsame⟩
  exhausted s sealer hsealer hcounter frame := send_exhausted hsealer hcounter frame

end Pair

/-! ## One record, and three replies -/

namespace Demo

/-- The responder that the initiator of `xorInitiator` pins. -/
def xorResponder : Handshake := responderHandshake xorCrypto [6] [7] [1]

/-- The initiator opens and sends a frame. -/
def xorSends : List Event :=
  [.microtask, .receive (pad [6]).1, .resume .returned, .send ⟨.control, [1, 2]⟩]

/-- The responder opens and gets the record. -/
def xorReceives : List Event :=
  [.receive (pad [5]).1, .resume .returned, .resume .returned,
    .receive ((sealings xorCrypto aead xorInitiator xorSends).flatMap fun x =>
      uint32BE x.record.length ++ x.record)]

/-- The initiator's message arrives, inside the write of the reply another, and inside the write of
the reply to it the same one again; a frame is sent from each of the two `onOpen` that follow. -/
def resumedReplies : List Event :=
  [.receive (pad [5]).1, .receive (pad [3]).1, .receive (pad [3]).1,
    .resume .returned, .send ⟨.control, [1]⟩, .resume .returned,
    .resume .returned, .send ⟨.control, [2]⟩]

end Demo

/-- The two frames are sealed under one key and nonce. -/
theorem not_nonceUnique_resumed :
    ¬ NonceUnique Demo.xorCrypto Demo.aead Demo.xorInitiator [] Demo.xorResponder
      Demo.resumedReplies := by
  intro h
  have hreused : ¬ (noncesUsed Demo.xorCrypto Demo.aead Demo.xorInitiator [] ++
      noncesUsed Demo.xorCrypto Demo.aead Demo.xorResponder Demo.resumedReplies).Nodup := by
    decide +kernel
  exact hreused h.distinct

/-- A record is sealed and accepted, and the counters are equal. -/
theorem nonceUnique_received :
    NonceUnique Demo.xorCrypto Demo.aead Demo.xorInitiator Demo.xorSends Demo.xorResponder
        Demo.xorReceives ∧
      OpensOnlySealed Demo.xorCrypto Demo.aead Demo.xorInitiator Demo.xorSends Demo.xorResponder
        Demo.xorReceives ∧
      (openings Demo.xorCrypto Demo.aead Demo.xorResponder Demo.xorReceives).length = 1 := by
  have hmeets : (channelMachine Demo.xorCrypto Demo.aead Demo.xorResponder).checks
      (fun s e => !interruptsReply s e) (.new Demo.xorResponder) Demo.xorReceives = true := by
    decide +kernel
  refine ⟨nonceUnique_of_meets rfl rfl ?_ ?_, ?_, ?_⟩
  · refine Machine.Meets.mono _ (fun s e he => ?_) (Machine.meets_of_checks _ hmeets)
    simpa using he
  · decide +kernel
  · have hchecked : ((openings Demo.xorCrypto Demo.aead Demo.xorInitiator Demo.xorSends ++
        openings Demo.xorCrypto Demo.aead Demo.xorResponder Demo.xorReceives).all fun x =>
          (sealings Demo.xorCrypto Demo.aead Demo.xorInitiator Demo.xorSends ++
            sealings Demo.xorCrypto Demo.aead Demo.xorResponder Demo.xorReceives).any fun y =>
              decide (y.key = x.key ∧ y.nonce = x.nonce ∧ y.record = x.record)) = true := by
      decide +kernel
    intro x hx
    obtain ⟨y, hy, hsame⟩ := List.any_eq_true.1 (List.all_eq_true.1 hchecked x hx)
    exact ⟨y, hy, of_decide_eq_true hsame⟩
  · decide +kernel

end Pherry.Channel
