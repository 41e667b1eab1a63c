import Pherry.Channel.Agreement
import Pherry.Ios.SecureChannel

/-!
# One channel in two languages

The secure channel of the SDK, whose calls out return at once, and the phone's, on the same sends and the
same bytes.
-/

namespace Pherry.Channel.SecureChannel

variable (crypto : Crypto) (aead : Aead)

/-- The calls out that are running return, one after the other. -/
def settleCalls : ℕ → SecureChannel → SecureChannel × List Effect
  | 0, s => (s, [])
  | n + 1, s =>
    if s.calls = [] then (s, [])
    else
      let r := s.resume crypto aead .returned
      emit r.2 (settleCalls n r.1)

/-- `#receive`, whose calls out return at once: the reply, `onOpen`, and one for each record. -/
def receiveAtOnce (s : SecureChannel) (bytes : Bytes) : SecureChannel × List Effect :=
  let r := s.receive crypto aead bytes
  emit r.2 (settleCalls crypto aead (s.inbound.length + bytes.length + 2) r.1)

end Pherry.Channel.SecureChannel

namespace Pherry.Ios

open Lib Channel

/-! ## What is compared -/

/-- What goes to the transport, and what is delivered. -/
inductive Output
  | wire (bytes : Bytes)
  | frame (frame : ChannelFrame)
deriving DecidableEq

/-- An effect of the SDK's channel as an output. -/
def ofEffect : Effect → Option Output
  | .sent bytes => some (.wire bytes)
  | .delivered frame => some (.frame frame)
  | _ => none

/-- An effect of the phone's channel as an output. -/
def ofChannelEffect : ChannelEffect → Option Output
  | .sent bytes => some (.wire bytes)
  | .yielded frame => some (.frame frame)
  | .finished _ => none

/-- One input of the SDK's channel and its effects. -/
def sdkReact (crypto : Crypto) (aead : Aead) (s : Channel.SecureChannel) :
    ChannelInput → Channel.SecureChannel × List Effect
  | .send frame => s.send aead frame
  | .receive bytes => s.receiveAtOnce crypto aead bytes
  | .close => s.shutdown none

/-- The handshake of the SDK for a role of the phone; `none` where its constructor throws. -/
def sdkHandshake (crypto : Crypto) (role : ChannelRole) (ephemeralSecret : Bytes) (context : Option Bytes) :
    Option Handshake :=
  match role with
  | .initiator pinned => initiatorHandshake crypto ephemeralSecret pinned (context.getD [])
  | .responder secret => some (responderHandshake crypto ephemeralSecret secret (context.getD []))

/-! ## Records -/

/-- Two sealers that have sealed so many records. -/
structure SameSealer (sealer : Sealer) (sealer' : RecordSealer) (n : ℕ) : Prop where
  key : sealer.key = sealer'.key
  noncePrefix : sealer.noncePrefix = sealer'.noncePrefix
  counter : sealer.counter = n
  counter' : sealer'.counter = n

/-- Two openers that have opened so many records. -/
structure SameOpener (opener : Opener) (opener' : RecordOpener) (n : ℕ) : Prop where
  key : opener.key = opener'.key
  noncePrefix : opener.noncePrefix = opener'.noncePrefix
  counter : opener.counter = n
  counter' : opener'.counter = n
  lastTag : opener.lastTag = opener'.lastTag

variable {crypto : Crypto} {aead : Aead} {n : ℕ}

lemma sameSealer_new (crypto : Crypto) (key sessionId : Bytes) (direction : Direction) :
    SameSealer (.new crypto key sessionId direction) (.new crypto key sessionId direction) 0 :=
  ⟨rfl, (directionPrefix_eq crypto sessionId direction).symm, rfl, rfl⟩

lemma sameOpener_new (crypto : Crypto) (key sessionId : Bytes) (direction : Direction) :
    SameOpener (.new crypto key sessionId direction) (.new crypto key sessionId direction) 0 :=
  ⟨rfl, (directionPrefix_eq crypto sessionId direction).symm, rfl, rfl, rfl⟩

variable (aead) in
lemma SameSealer.seal {sealer : Sealer} {sealer' : RecordSealer} (h : SameSealer sealer sealer' n)
    (hn : n ≤ maxSafeInteger) (frameBytes : Bytes) :
    ∃ next, sealer.seal aead frameBytes = some ((sealer'.seal aead frameBytes).1, next) ∧
      SameSealer next (sealer'.seal aead frameBytes).2 (n + 1) := by
  refine ⟨{ sealer with counter := increment sealer.counter }, ?_, h.key, h.noncePrefix, ?_, ?_⟩
  · rw [Sealer.seal, if_pos (by rw [h.counter]; exact hn), RecordSealer.seal, nonce_eq, Sealer.nonce, h.key,
      h.noncePrefix, h.counter, h.counter']
  · rw [h.counter]
    exact if_pos hn
  · show (sealer'.counter + 1) % 2 ^ 64 = n + 1
    rw [h.counter']
    unfold maxSafeInteger at hn
    omega

lemma SameOpener.isReplay {opener : Opener} {opener' : RecordOpener} (h : SameOpener opener opener' n)
    (record : Bytes) : opener.isReplay record =
      opener'.lastTag.any fun lastTag => recordTagBytes ≤ record.length ∧ recordTag record = lastTag := by
  rw [Opener.isReplay, h.lastTag]
  cases opener'.lastTag with
  | none => rfl
  | some lastTag =>
    dsimp only
    rw [Option.any_some, recordTagEquals]
    by_cases hshort : record.length < tagBytes
    · rw [if_pos hshort]
      have hnot : ¬ recordTagBytes ≤ record.length := Nat.not_le_of_lt hshort
      simp [hnot]
    · rw [if_neg hshort]
      have hlong : recordTagBytes ≤ record.length := Nat.le_of_not_lt hshort
      rw [Bool.eq_iff_iff, constantTimeEqual_iff]
      simp only [hlong, true_and, decide_eq_true_eq]
      rfl

variable (aead) in
lemma SameOpener.open {opener : Opener} {opener' : RecordOpener} (h : SameOpener opener opener' n)
    (hn : n ≤ maxSafeInteger) (record : Bytes) :
    (∃ e e', opener.open aead record = .error e ∧ opener'.open aead record = .error e') ∨
      ∃ frameBytes next next', opener.open aead record = .ok (frameBytes, next) ∧
        opener'.open aead record = .ok (frameBytes, next') ∧ SameOpener next next' (n + 1) := by
  rw [Opener.open, RecordOpener.open, ← h.isReplay]
  by_cases hreplay : opener.isReplay record = true
  · rw [if_pos hreplay, if_pos hreplay]
    exact Or.inl ⟨_, _, rfl, rfl⟩
  · rw [if_neg hreplay, if_neg hreplay, nonce_eq, Opener.nonce, h.key, h.noncePrefix, h.counter, h.counter']
    cases aead.decrypt opener'.key (nonceFor opener'.noncePrefix n) record with
    | none => exact Or.inl ⟨_, _, rfl, rfl⟩
    | some frameBytes =>
      refine Or.inr ⟨frameBytes, _, _, rfl, rfl, rfl, rfl, if_pos hn, ?_, rfl⟩
      show (n + 1) % 2 ^ 64 = n + 1
      unfold maxSafeInteger at hn
      omega

/-! ## The handshake -/

/-- Two handshakes with the same secrets. -/
structure SameHandshake (h : Handshake) (h' : ChannelHandshake) (context : Option Bytes) : Prop where
  message : h.message = h'.message
  secret : h.ephemeralSecret = h'.ephemeralSecret
  static : h.static = match h'.kind with
    | .initiator pinned => .pinned pinned
    | .responder secret => .own secret
  context : h.context = context.getD []

lemma deriveSessionKeys_eq (crypto : Crypto) (dhEE dhES eI eR : Bytes) (context : Option Bytes) :
    deriveSessionKeys crypto dhEE dhES eI eR context =
      Channel.deriveSessionKeys crypto dhEE dhES eI eR (context.getD []) := by
  cases context with
  | none =>
    rw [deriveSessionKeys, Channel.deriveSessionKeys, Option.getD_none, List.append_nil]
    rfl
  | some context => rfl

lemma dh_eq (crypto : Crypto) (secret peerPublic : Bytes) (label : String) :
    (dh crypto secret peerPublic label).toOption = sharedSecret crypto secret peerPublic := by
  rw [dh, sharedSecret]
  by_cases hlength : peerPublic.length ≠ 32
  · rw [if_pos hlength, if_pos (show peerPublic.length ≠ keyBytes from hlength)]
    rfl
  · rw [if_neg hlength, if_neg (show ¬ peerPublic.length ≠ keyBytes from hlength)]
    cases crypto.getSharedSecret secret peerPublic <;> rfl

variable (crypto) in
lemma SameHandshake.consume {h : Handshake} {h' : ChannelHandshake} {context : Option Bytes}
    (hsame : SameHandshake h h' context) {peerMessage : Bytes} (hlength : peerMessage.length = 32) :
    (∃ e e', h.consume crypto peerMessage = .error e ∧
        h'.consume crypto peerMessage context = .error e') ∨
      ∃ keys wiped, h.consume crypto peerMessage = .ok (keys, wiped) ∧
        h'.consume crypto peerMessage context = .ok keys := by
  have hkeys : ∀ (secret peerPublic : Bytes) (label : String),
      (∃ e, dh crypto secret peerPublic label = .error e ∧ sharedSecret crypto secret peerPublic = none) ∨
        ∃ shared, dh crypto secret peerPublic label = .ok shared ∧
          sharedSecret crypto secret peerPublic = some shared := by
    intro secret peerPublic label
    rw [← dh_eq crypto secret peerPublic label]
    cases dh crypto secret peerPublic label with
    | error e => exact Or.inl ⟨e, rfl, rfl⟩
    | ok shared => exact Or.inr ⟨shared, rfl, rfl⟩
  have hstatic := hsame.static
  rw [Handshake.consume, ChannelHandshake.consume, if_neg (not_not_intro hlength), hsame.secret, hsame.message,
    hsame.context]
  rcases hkeys h'.ephemeralSecret peerMessage "dh_ee" with
    ⟨e, herror, hnone⟩ | ⟨dhEE, hdh, hsome⟩
  · rw [herror, hnone]
    exact Or.inl ⟨_, _, rfl, rfl⟩
  · cases hkind : h'.kind with
    | initiator pinned =>
      rw [hkind] at hstatic
      rw [hstatic]
      rcases hkeys h'.ephemeralSecret pinned "dh_es" with ⟨e, herror, hnone⟩ | ⟨dhES, hdhES, hsomeES⟩
      · exact Or.inl ⟨e, .handshakeFailed "invalid handshake key material",
          by simp [bind, Except.bind, hdh, herror], by simp [hsome, hnone]⟩
      · exact Or.inr ⟨Channel.deriveSessionKeys crypto dhEE dhES h'.message peerMessage (context.getD []), h.wipe,
          by simp [bind, Except.bind, hdh, hdhES, pure, Except.pure], by simp [hsome, hsomeES, deriveSessionKeys_eq]⟩
    | responder secret =>
      rw [hkind] at hstatic
      rw [hstatic]
      rcases hkeys secret peerMessage "dh_es" with ⟨e, herror, hnone⟩ | ⟨dhES, hdhES, hsomeES⟩
      · exact Or.inl ⟨e, .handshakeFailed "invalid handshake key material",
          by simp [bind, Except.bind, hdh, herror], by simp [hsome, hnone]⟩
      · exact Or.inr ⟨Channel.deriveSessionKeys crypto dhEE dhES peerMessage h'.message (context.getD []), h.wipe,
          by simp [bind, Except.bind, hdh, hdhES, pure, Except.pure], by simp [hsome, hsomeES, deriveSessionKeys_eq]⟩

/-! ## The two channels -/

/-- The role of the SDK. -/
def ChannelRole.role : ChannelRole → Role
  | initiator _ => .initiator
  | responder _ => .responder

/-- Two open channels that have sent and received so many records. -/
structure Opened (ts : Channel.SecureChannel) (sw : SecureChannel) (sent received : ℕ) : Prop where
  idle : ts.calls = []
  role : ts.role = sw.role.role
  closed : ts.closed = false
  closed' : sw.closed = false
  isOpen : ts.isOpen = true
  isOpen' : sw.isOpen = true
  inbound : ts.inbound.contents = sw.inboundBuffer
  authenticated : ts.authenticated = sw.isAuthenticated
  sealer : ∃ sealer sealer', ts.sealer = some sealer ∧ sw.sealer = some sealer' ∧ SameSealer sealer sealer' sent
  opener : ∃ opener opener', ts.opener = some opener ∧ sw.opener = some opener' ∧
    SameOpener opener opener' received

/-- Two channels that are closed. -/
structure Closed (ts : Channel.SecureChannel) (sw : SecureChannel) : Prop where
  idle : ts.calls = []
  closed : ts.closed = true
  closed' : sw.closed = true
  isOpen' : sw.isOpen = false

/-- Two channels that wait for the peer's message. -/
structure Waiting (ts : Channel.SecureChannel) (sw : SecureChannel) : Prop where
  idle : ts.calls = []
  role : ts.role = sw.role.role
  closed : ts.closed = false
  closed' : sw.closed = false
  isOpen : ts.isOpen = false
  isOpen' : sw.isOpen = false
  inbound : ts.inbound.contents = sw.inboundBuffer
  authenticated : ts.authenticated = sw.isAuthenticated
  handshake : ∃ h h', ts.handshake = some h ∧ sw.handshake = some h' ∧ SameHandshake h h' sw.context ∧
    h'.kind = sw.role

/-- Two channels that are as far. -/
inductive Agrees (ts : Channel.SecureChannel) (sw : SecureChannel) (sent received : ℕ) : Prop
  | waiting (h : Waiting ts sw) (hsent : sent = 0) (hreceived : received = 0)
  | opened (h : Opened ts sw sent received)
  | closed (h : Closed ts sw)

variable {ts : Channel.SecureChannel} {sw : SecureChannel} {sent received : ℕ}

lemma closed_shutdown (hidle : ts.calls = []) (hts : ts.closed = false) (hsw : sw.closed = false)
    (error : Option Channel.ChannelError) (error' : Option ChannelError) :
    Closed (ts.shutdown error).1 (sw.shutdown error').1 ∧ (ts.shutdown error).2.filterMap ofEffect = [] ∧
      (sw.shutdown error').2.filterMap ofChannelEffect = [] := by
  rw [Channel.SecureChannel.shutdown, if_neg (by rw [hts]; exact Bool.false_ne_true), SecureChannel.shutdown,
    if_neg (by rw [hsw]; exact Bool.false_ne_true)]
  exact ⟨⟨hidle, rfl, rfl, rfl⟩, rfl, rfl⟩

/-- What a drain of the SDK comes to, and the phone's: the same frames, and then either is open or both
are closed. -/
def SameDrain (ts : Channel.SecureChannel × List Effect)
    (sw : SecureChannel × List ChannelFrame × Option ChannelError) (sent received : ℕ) : Prop :=
  ts.2.filterMap ofEffect = sw.2.1.map .frame ∧
    match sw.2.2 with
    | none => Opened ts.1 sw.1 sent (received + sw.2.1.length)
    | some _ => Closed ts.1 { sw.1 with closed := true, isOpen := false } ∧ sw.1.closed = false

open Channel.SecureChannel (emit settleCalls)

lemma emit_nil (r : Channel.SecureChannel × List Effect) : emit [] r = r := rfl

lemma settleCalls_of_idle (crypto : Crypto) (aead : Aead) (h : ts.calls = []) (n : ℕ) :
    settleCalls crypto aead n ts = (ts, []) := by
  cases n with
  | zero => rfl
  | succ n => exact if_pos h

lemma sameDrain_shutdown (hidle : ts.calls = []) (hts : ts.closed = false) (hsw : sw.closed = false)
    (error : Option Channel.ChannelError) (error' : ChannelError) {effects : List Effect}
    (heffects : effects.filterMap ofEffect = []) (n : ℕ) :
    SameDrain (emit (emit effects (ts.shutdown error)).2
      (settleCalls crypto aead n (emit effects (ts.shutdown error)).1)) (sw, [], some error') sent received := by
  have hclosed := closed_shutdown hidle hts hsw error none
  have hsettled := settleCalls_of_idle crypto aead hclosed.1.idle n
  rw [emit, emit]
  dsimp only
  rw [hsettled]
  refine ⟨?_, ⟨hclosed.1.idle, hclosed.1.closed, rfl, rfl⟩, hsw⟩
  rw [List.append_nil, List.filterMap_append, heffects, hclosed.2.1]
  rfl

lemma SameDrain.deliver {r : SecureChannel × List ChannelFrame × Option ChannelError}
    (hidle : ts.calls = [])
    (h : SameDrain (emit (ts.pump aead).2 (settleCalls crypto aead n (ts.pump aead).1)) r sent (received + 1))
    {effects : List Effect} {frame : ChannelFrame} (heffects : effects.filterMap ofEffect = [.frame frame]) :
    SameDrain (emit effects (settleCalls crypto aead (n + 1) { ts with calls := [.frame] }))
      (r.1, frame :: r.2.1, r.2.2) sent received := by
  have hsettled : settleCalls crypto aead (n + 1) { ts with calls := [.frame] } =
      emit (ts.pump aead).2 (settleCalls crypto aead n (ts.pump aead).1) := by
    have hback : ({ ts with calls := [] } : Channel.SecureChannel) = ts := by rw [← hidle]
    rw [settleCalls, if_neg (by simp), Channel.SecureChannel.resume]
    dsimp only
    rw [if_neg (by simp), hback]
  obtain ⟨hframes, hstate⟩ := h
  rw [hsettled]
  refine ⟨?_, ?_⟩
  · rw [emit, List.filterMap_append, heffects, hframes]
    rfl
  · cases herror : r.2.2 with
    | none =>
      rw [herror] at hstate
      rw [List.length_cons, Nat.add_comm r.2.1.length, ← Nat.add_assoc]
      exact hstate
    | some e =>
      rw [herror] at hstate
      exact hstate

variable (crypto aead) in
lemma Opened.drain (m : ℕ) (h : Opened ts sw sent received) (hm : sw.inboundBuffer.length ≤ m)
    {n : ℕ} (hn : (sw.drainLoop aead m).2.1.length ≤ n)
    (hfew : received + (sw.drainLoop aead m).2.1.length ≤ maxSafeInteger) :
    SameDrain (emit (ts.pump aead).2 (settleCalls crypto aead n (ts.pump aead).1)) (sw.drainLoop aead m)
      sent received := by
  obtain ⟨opener, opener', hopener, hopener', hsame⟩ := h.opener
  have hlength : ts.inbound.length = sw.inboundBuffer.length := by rw [ByteQueue.length_eq, h.inbound]
  induction m generalizing ts sw received n opener opener' with
  | zero =>
    have hshort : ts.inbound.length < lengthPrefixBytes := by
      unfold lengthPrefixBytes
      omega
    rw [Channel.SecureChannel.pump, hopener]
    dsimp only
    rw [if_pos hshort, settleCalls_of_idle crypto aead h.idle, emit_nil]
    exact ⟨rfl, h⟩
  | succ m ih =>
    have hpeek : ts.inbound.peekUint32BE = bigEndian (sw.inboundBuffer.take 4) := by
      rw [ByteQueue.peekUint32BE_eq, h.inbound]
      refine Nat.mod_eq_of_lt (lt_of_lt_of_le (bigEndian_lt _) ?_)
      have hfour : (sw.inboundBuffer.take 4).length ≤ 4 := List.length_take_le _ _
      exact Nat.pow_le_pow_right (by omega) hfour
    unfold SecureChannel.drainLoop at hn hfew ⊢
    unfold Channel.SecureChannel.pump
    rw [hopener]
    dsimp only
    by_cases hshort : sw.inboundBuffer.length < 4
    · rw [if_pos hshort, if_pos (show ts.inbound.length < lengthPrefixBytes from hlength ▸ hshort),
        settleCalls_of_idle crypto aead h.idle, emit_nil]
      exact ⟨rfl, h⟩
    rw [if_neg hshort] at hn hfew ⊢
    rw [if_neg (show ¬ ts.inbound.length < lengthPrefixBytes from hlength ▸ hshort), hpeek]
    dsimp only at hn hfew ⊢
    by_cases hlong : bigEndian (sw.inboundBuffer.take 4) > 4 * 1024 * 1024
    · -- the prefix names a record that is too long
      rw [if_pos hlong, if_pos (show bigEndian (sw.inboundBuffer.take 4) > maxRecordBytes from hlong)]
      have hclosed := (closed_shutdown h.idle h.closed h.closed'
        (some (.recordTooLong (bigEndian (sw.inboundBuffer.take 4)))) none)
      rw [settleCalls_of_idle crypto aead hclosed.1.idle]
      refine ⟨?_, ⟨hclosed.1.idle, hclosed.1.closed, rfl, rfl⟩, h.closed'⟩
      rw [emit, List.append_nil]
      exact hclosed.2.1
    rw [if_neg hlong] at hn hfew ⊢
    rw [if_neg (show ¬ bigEndian (sw.inboundBuffer.take 4) > maxRecordBytes from hlong)]
    by_cases hpart : sw.inboundBuffer.length < 4 + bigEndian (sw.inboundBuffer.take 4)
    · rw [if_pos hpart, if_pos (show ts.inbound.length <
        lengthPrefixBytes + bigEndian (sw.inboundBuffer.take 4) from hlength ▸ hpart),
        settleCalls_of_idle crypto aead h.idle, emit_nil]
      exact ⟨rfl, h⟩
    rw [if_neg hpart] at hn hfew ⊢
    rw [if_neg (show ¬ ts.inbound.length < lengthPrefixBytes + bigEndian (sw.inboundBuffer.take 4) from
      hlength ▸ hpart)]
    generalize hlen : bigEndian (sw.inboundBuffer.take 4) = length at hn hfew hpart ⊢
    have hheader : (ts.inbound.take lengthPrefixBytes).2.contents = sw.inboundBuffer.drop 4 := by
      rw [ByteQueue.contents_take, h.inbound]
      rfl
    have hrecord : ((ts.inbound.take lengthPrefixBytes).2.take length).1 =
        (sw.inboundBuffer.drop 4).take length := by
      rw [ByteQueue.take_fst, hheader]
      rw [ByteQueue.length_eq, hheader, List.length_drop]
      omega
    have hrest : ((ts.inbound.take lengthPrefixBytes).2.take length).2.contents =
        sw.inboundBuffer.drop (4 + length) := by
      rw [ByteQueue.contents_take, hheader, List.drop_drop]
    rw [hrecord]
    simp only [hopener'] at hn hfew ⊢
    have hnow : received ≤ maxSafeInteger := by omega
    rcases hsame.open aead hnow ((sw.inboundBuffer.drop 4).take length) with
      ⟨e, e', herror, herror'⟩ | ⟨frameBytes, next, next', hok, hok', hsame'⟩
    · -- the record does not open
      rw [herror, herror']
      dsimp only
      refine sameDrain_shutdown ?_ ?_ ?_ (some e) e' ?_ n
      · exact h.idle
      · exact h.closed
      · exact h.closed'
      · rfl
    · rw [hok, hok']
      rw [hok'] at hn hfew
      have hdecode := decode_toOption frameBytes
      dsimp only at hn hfew ⊢
      cases hframe : decodeFrame frameBytes with
      | error e =>
        -- it opens, and holds no frame
        rw [hframe] at hdecode
        cases hframe' : FrameCodec.decode frameBytes with
        | ok frame =>
          rw [hframe'] at hdecode
          cases hdecode
        | error e' =>
          refine sameDrain_shutdown ?_ ?_ ?_ (some e) e' ?_ n
          · exact h.idle
          · exact h.closed
          · exact h.closed'
          · rfl
      | ok frame =>
        rw [hframe] at hdecode
        cases hframe' : FrameCodec.decode frameBytes with
        | error e =>
          rw [hframe'] at hdecode
          cases hdecode
        | ok frame' =>
          rw [hframe'] at hdecode hn hfew
          cases hdecode
          dsimp only at hn hfew ⊢
          rw [List.length_cons] at hn hfew
          obtain ⟨n, rfl⟩ : ∃ k, n = k + 1 := ⟨n - 1, by omega⟩
          have hnext : Opened
              { ts with
                inbound := ((ts.inbound.take lengthPrefixBytes).2.take length).2
                opener := some next
                authenticated := true }
              { sw with
                inboundBuffer := sw.inboundBuffer.drop (4 + length)
                opener := some next'
                isAuthenticated := true } sent (received + 1) :=
            ⟨h.idle, h.role, h.closed, h.closed', h.isOpen, h.isOpen', hrest, rfl, h.sealer, next, next', rfl,
              rfl, hsame'⟩
          have hloop := ih hnext (by rw [List.length_drop]; omega) (Nat.le_of_succ_le_succ hn) (by omega) next next'
            rfl rfl hsame' (by rw [ByteQueue.length_eq, hrest])
          rw [show ts.calls = [] from h.idle]
          refine SameDrain.deliver hnext.idle hloop ?_
          rfl

/-! ## One input -/

/-- The frames among effects. -/
def yieldedIn (effects : List ChannelEffect) : List ChannelFrame :=
  effects.filterMap fun
    | .yielded frame => some frame
    | _ => none

/-- Two steps with the same outputs, behind which the channels are as far. -/
def SameStep (r : Channel.SecureChannel × List Effect) (r' : SecureChannel × List ChannelEffect)
    (sent received : ℕ) : Prop :=
  r.2.filterMap ofEffect = r'.2.filterMap ofChannelEffect ∧ Agrees r.1 r'.1 sent received

lemma yieldedIn_map (frames : List ChannelFrame) : yieldedIn (frames.map .yielded) = frames := by
  rw [yieldedIn, List.filterMap_map]
  exact List.filterMap_some

lemma outputs_map (frames : List ChannelFrame) :
    (frames.map ChannelEffect.yielded).filterMap ofChannelEffect = frames.map .frame := by
  rw [List.filterMap_map, ← List.filterMap_eq_map]
  rfl

lemma length_drainLoop (m : ℕ) (sw : SecureChannel) : (sw.drainLoop aead m).2.1.length ≤ m := by
  induction m generalizing sw with
  | zero => exact Nat.zero_le 0
  | succ m ih =>
    unfold SecureChannel.drainLoop
    split
    · exact Nat.zero_le _
    dsimp only
    split
    · exact Nat.zero_le _
    split
    · exact Nat.zero_le _
    split
    · exact Nat.zero_le _
    split
    · exact Nat.zero_le _
    split
    · exact Nat.zero_le _
    · exact Nat.succ_le_succ (ih _)

variable (crypto aead) in
lemma Opened.endIngest (h : Opened ts sw sent received) {n : ℕ} (hn : sw.inboundBuffer.length ≤ n)
    (hfew : received + (yieldedIn (sw.endIngest aead).2).length ≤ maxSafeInteger) :
    SameStep (emit (ts.pump aead).2 (settleCalls crypto aead n (ts.pump aead).1)) (sw.endIngest aead) sent
      (received + (yieldedIn (sw.endIngest aead).2).length) := by
  have hyields : yieldedIn (sw.endIngest aead).2 = (sw.drainLoop aead sw.inboundBuffer.length).2.1 := by
    rw [SecureChannel.endIngest, h.isOpen']
    dsimp only
    rw [if_neg (by simp)]
    split
    · exact yieldedIn_map _
    · next e _ =>
      unfold SecureChannel.shutdown
      split
      · rw [List.append_nil]
        exact yieldedIn_map _
      · rw [yieldedIn, List.filterMap_append]
        exact (List.append_nil _).trans (yieldedIn_map _)
  rw [hyields] at hfew ⊢
  have hdrain := h.drain crypto aead sw.inboundBuffer.length le_rfl
    ((length_drainLoop _ sw).trans hn) hfew
  obtain ⟨houtputs, hstate⟩ := hdrain
  rw [SameStep, houtputs, SecureChannel.endIngest, h.isOpen']
  dsimp only
  rw [if_neg (by simp)]
  cases herror : (sw.drainLoop aead sw.inboundBuffer.length).2.2 with
  | none =>
    rw [herror] at hstate
    exact ⟨(outputs_map _).symm, .opened hstate⟩
  | some e =>
    rw [herror] at hstate
    obtain ⟨hclosed, hopen⟩ := hstate
    dsimp only
    rw [SecureChannel.shutdown, if_neg (by rw [hopen]; exact Bool.false_ne_true), List.filterMap_append,
      outputs_map]
    exact ⟨(List.append_nil _).symm, .closed hclosed⟩

lemma Opened.receive (h : Opened ts sw sent received) (bytes : Bytes)
    (hfew : received + (yieldedIn (sw.ingest crypto aead bytes).2).length ≤ maxSafeInteger) :
    SameStep (ts.receiveAtOnce crypto aead bytes) (sw.ingest crypto aead bytes) sent
      (received + (yieldedIn (sw.ingest crypto aead bytes).2).length) := by
  have hpushed : Opened { ts with inbound := ts.inbound.push bytes }
      { sw with inboundBuffer := sw.inboundBuffer ++ bytes } sent received :=
    ⟨h.idle, h.role, h.closed, h.closed', h.isOpen, h.isOpen', by rw [ByteQueue.contents_push, h.inbound],
      h.authenticated, h.sealer, h.opener⟩
  have hingest : sw.ingest crypto aead bytes =
      { sw with inboundBuffer := sw.inboundBuffer ++ bytes }.endIngest aead := by
    rw [SecureChannel.ingest, if_neg (by rw [h.closed']; exact Bool.false_ne_true), SecureChannel.beginIngest]
    dsimp only
    rw [h.isOpen', Bool.true_or, if_pos rfl]
    rfl
  have hreceive : ts.receive crypto aead bytes = { ts with inbound := ts.inbound.push bytes }.pump aead := by
    rw [Channel.SecureChannel.receive, if_neg (by rw [h.closed]; exact Bool.false_ne_true),
      Channel.SecureChannel.drain]
    exact if_pos h.isOpen
  rw [hingest] at hfew ⊢
  rw [Channel.SecureChannel.receiveAtOnce, hreceive]
  refine hpushed.endIngest crypto aead ?_ hfew
  have hlength : ts.inbound.length = sw.inboundBuffer.length := by rw [ByteQueue.length_eq, h.inbound]
  rw [List.length_append, hlength]
  omega

lemma completeHandshake_ok (sw : SecureChannel) {h : ChannelHandshake} {peerMessage : Bytes}
    {keys : SessionKeys} (hhandshake : sw.handshake = some h) (hkeys : h.consume crypto peerMessage sw.context = .ok keys) :
    sw.completeHandshake crypto peerMessage = .ok
      ({ sw with
          sealer := some (.new crypto (keys.sendKey sw.role.role) keys.sessionId sw.role.role.sendDirection)
          opener := some (.new crypto (keys.recvKey sw.role.role) keys.sessionId sw.role.role.recvDirection)
          handshake := none
          isOpen := true },
        match sw.role with
        | .initiator _ => none
        | .responder _ => some h.message) := by
  rw [SecureChannel.completeHandshake, hhandshake]
  dsimp only
  rw [hkeys]
  cases hrole : sw.role with
  | initiator pinned => rfl
  | responder secret => rfl

lemma completeHandshake_error (sw : SecureChannel) {h : ChannelHandshake} {peerMessage : Bytes}
    {e : ChannelError} (hhandshake : sw.handshake = some h) (he : h.consume crypto peerMessage sw.context = .error e) :
    sw.completeHandshake crypto peerMessage = .error e := by
  rw [SecureChannel.completeHandshake, hhandshake]
  dsimp only
  rw [he]
  rfl

lemma settleCalls_opened (hcalls : ts.calls = [.opened]) (n : ℕ) :
    settleCalls crypto aead (n + 1) ts =
      emit ({ ts with calls := [] }.pump aead).2
        (settleCalls crypto aead n ({ ts with calls := [] }.pump aead).1) := by
  rw [settleCalls, if_neg (by rw [hcalls]; exact List.cons_ne_nil _ _), Channel.SecureChannel.resume, hcalls]
  dsimp only
  rw [if_pos rfl]

lemma settleCalls_reply {keys : SessionKeys} (hcalls : ts.calls = [.reply keys]) (n : ℕ) :
    settleCalls crypto aead (n + 1) ts =
      settleCalls crypto aead n ({ ts with calls := [] }.establish crypto keys) := by
  rw [settleCalls, if_neg (by rw [hcalls]; exact List.cons_ne_nil _ _), Channel.SecureChannel.resume, hcalls]
  dsimp only
  rw [if_pos rfl]
  rfl

lemma Waiting.establish (h : Waiting ts sw) {q : ByteQueue} {rest : Bytes} (hq : q.contents = rest)
    (wiped : Handshake) (keys : SessionKeys) :
    Opened
      { ({ ts with inbound := q, handshake := some wiped } : Channel.SecureChannel).establish crypto keys with
        calls := [] }
      { sw with
        inboundBuffer := rest
        sealer := some (.new crypto (keys.sendKey sw.role.role) keys.sessionId sw.role.role.sendDirection)
        opener := some (.new crypto (keys.recvKey sw.role.role) keys.sessionId sw.role.role.recvDirection)
        handshake := none
        isOpen := true } 0 0 := by
  refine ⟨rfl, h.role, h.closed, h.closed', rfl, rfl, hq, h.authenticated, ?_, ?_⟩
  · refine ⟨_, _, rfl, rfl, ?_⟩
    rw [← h.role]
    exact sameSealer_new crypto _ _ _
  · refine ⟨_, _, rfl, rfl, ?_⟩
    rw [← h.role]
    exact sameOpener_new crypto _ _ _

/-- The handshake message a role sends when it has seen the peer's. -/
def ChannelRole.reply : ChannelRole → Bytes → List Bytes
  | initiator _, _ => []
  | responder _, message => [message]

lemma ingest_short (hclosed : sw.closed = false) (hopen : sw.isOpen = false) {bytes : Bytes}
    (hshort : (sw.inboundBuffer ++ bytes).length < 32) :
    sw.ingest crypto aead bytes = ({ sw with inboundBuffer := sw.inboundBuffer ++ bytes }, []) := by
  have hwait : sw.beginIngest crypto bytes =
      ({ sw with inboundBuffer := sw.inboundBuffer ++ bytes }, [], none) := by
    rw [SecureChannel.beginIngest]
    dsimp only
    rw [if_pos (by rw [decide_eq_true hshort, Bool.or_true])]
  have hend : ({ sw with inboundBuffer := sw.inboundBuffer ++ bytes } : SecureChannel).endIngest aead =
      ({ sw with inboundBuffer := sw.inboundBuffer ++ bytes }, []) := by
    rw [SecureChannel.endIngest]
    exact if_pos (by rw [hopen]; rfl)
  rw [SecureChannel.ingest, if_neg (by rw [hclosed]; exact Bool.false_ne_true), hwait]
  dsimp only
  rw [hend]
  rfl

lemma ingest_refused {h : ChannelHandshake} {e : ChannelError} (hclosed : sw.closed = false)
    (hopen : sw.isOpen = false) (hhandshake : sw.handshake = some h) {bytes : Bytes}
    (hlong : ¬ (sw.inboundBuffer ++ bytes).length < 32)
    (he : h.consume crypto ((sw.inboundBuffer ++ bytes).take 32) sw.context = .error e) :
    sw.ingest crypto aead bytes =
      ({ sw with inboundBuffer := (sw.inboundBuffer ++ bytes).drop 32 } : SecureChannel).shutdown (some e) := by
  have hbegin : sw.beginIngest crypto bytes =
      ({ sw with inboundBuffer := (sw.inboundBuffer ++ bytes).drop 32, closed := true, isOpen := false },
        [.finished (some e)], none) := by
    rw [SecureChannel.beginIngest]
    dsimp only
    rw [if_neg (by simpa [hopen] using hlong), completeHandshake_error
      { sw with inboundBuffer := (sw.inboundBuffer ++ bytes).drop 32 } hhandshake he]
    dsimp only
    rw [SecureChannel.shutdown, if_neg (by rw [hclosed]; exact Bool.false_ne_true)]
  rw [SecureChannel.ingest, if_neg (by rw [hclosed]; exact Bool.false_ne_true), hbegin, SecureChannel.shutdown,
    if_neg (by rw [hclosed]; exact Bool.false_ne_true)]
  rfl

variable (aead) in
lemma ingest_accepted {h : ChannelHandshake} {keys : SessionKeys} (hclosed : sw.closed = false)
    (hopen : sw.isOpen = false) (hhandshake : sw.handshake = some h) {bytes : Bytes}
    (hlong : ¬ (sw.inboundBuffer ++ bytes).length < 32)
    (hkeys : h.consume crypto ((sw.inboundBuffer ++ bytes).take 32) sw.context = .ok keys) :
    ∃ opened : SecureChannel, opened =
      { sw with
        inboundBuffer := (sw.inboundBuffer ++ bytes).drop 32
        sealer := some (.new crypto (keys.sendKey sw.role.role) keys.sessionId sw.role.role.sendDirection)
        opener := some (.new crypto (keys.recvKey sw.role.role) keys.sessionId sw.role.role.recvDirection)
        handshake := none
        isOpen := true } ∧
      sw.ingest crypto aead bytes =
        ((opened.endIngest aead).1, (sw.role.reply h.message).map .sent ++ (opened.endIngest aead).2) := by
  refine ⟨_, rfl, ?_⟩
  rw [SecureChannel.ingest, if_neg (by rw [hclosed]; exact Bool.false_ne_true), SecureChannel.beginIngest]
  dsimp only
  rw [if_neg (by simpa [hopen] using hlong), completeHandshake_ok
    { sw with inboundBuffer := (sw.inboundBuffer ++ bytes).drop 32 } hhandshake hkeys]
  cases hrole : sw.role with
  | initiator pinned => rfl
  | responder secret => rfl

variable (aead) in
/-- What the SDK does when its handshake accepts the peer's message: the reply, `onOpen` and the drain. -/
lemma receiveAtOnce_accepted {h wiped : Handshake} {keys : SessionKeys} (hcalls : ts.calls = [])
    (hclosed : ts.closed = false) (hopen : ts.isOpen = false) (hhandshake : ts.handshake = some h)
    {role : ChannelRole} (hrole : ts.role = role.role) {bytes : Bytes}
    (hlong : ¬ (ts.inbound.push bytes).length < handshakeMsgBytes)
    (hkeys : h.consume crypto ((ts.inbound.push bytes).take handshakeMsgBytes).1 = .ok (keys, wiped)) :
    ∃ opened : Channel.SecureChannel, ∃ effects n, opened =
      { ({ ts with
            inbound := ((ts.inbound.push bytes).take handshakeMsgBytes).2
            handshake := some wiped } : Channel.SecureChannel).establish crypto keys with
        calls := [] } ∧
      effects.filterMap ofEffect = (role.reply h.message).map .wire ∧
      ts.inbound.length + bytes.length ≤ n ∧
      ts.receiveAtOnce crypto aead bytes =
        emit effects (emit (opened.pump aead).2 (settleCalls crypto aead n (opened.pump aead).1)) := by
  rw [Channel.SecureChannel.receiveAtOnce, Channel.SecureChannel.receive,
    if_neg (by rw [hclosed]; exact Bool.false_ne_true), Channel.SecureChannel.drain,
    if_neg (show ¬ ts.isOpen = true by rw [hopen]; exact Bool.false_ne_true), if_neg hlong,
    Channel.SecureChannel.completeHandshake, hhandshake]
  dsimp only
  rw [hkeys]
  dsimp only
  cases role with
  | initiator pinned =>
    split
    · next hresponder =>
      rw [hrole] at hresponder
      cases hresponder
    · rw [settleCalls_opened (congrArg (Callback.opened :: ·) hcalls)]
      exact ⟨_, [.consumed _], ts.inbound.length + bytes.length + 1, rfl, rfl, Nat.le_succ _, rfl⟩
  | responder secret =>
    split
    · rw [settleCalls_reply (congrArg (Callback.reply keys :: ·) hcalls), settleCalls_opened rfl]
      exact ⟨_, [.consumed _, .sent h.message], ts.inbound.length + bytes.length, rfl, rfl, le_rfl, rfl⟩
    · next hinitiator =>
      rw [hrole] at hinitiator
      cases hinitiator

lemma Waiting.receive (h : Waiting ts sw) (bytes : Bytes)
    (hfew : (yieldedIn (sw.ingest crypto aead bytes).2).length ≤ maxSafeInteger) :
    SameStep (ts.receiveAtOnce crypto aead bytes) (sw.ingest crypto aead bytes) 0
      (yieldedIn (sw.ingest crypto aead bytes).2).length := by
  obtain ⟨hs, hs', hhandshake, hhandshake', hsame, hkind⟩ := h.handshake
  have hlength : ts.inbound.length = sw.inboundBuffer.length := by rw [ByteQueue.length_eq, h.inbound]
  have hcontents : (ts.inbound.push bytes).contents = sw.inboundBuffer ++ bytes := by
    rw [ByteQueue.contents_push, h.inbound]
  have hpushed : (ts.inbound.push bytes).length = (sw.inboundBuffer ++ bytes).length := by
    rw [ByteQueue.length_eq, hcontents]
  by_cases hshort : (sw.inboundBuffer ++ bytes).length < 32
  · -- the peer's message is not complete
    have hreceive : ts.receive crypto aead bytes = ({ ts with inbound := ts.inbound.push bytes }, []) := by
      rw [Channel.SecureChannel.receive, if_neg (by rw [h.closed]; exact Bool.false_ne_true),
        Channel.SecureChannel.drain, if_neg (show ¬ ts.isOpen = true by rw [h.isOpen]; exact Bool.false_ne_true)]
      exact if_pos (show (ts.inbound.push bytes).length < handshakeMsgBytes from hpushed ▸ hshort)
    rw [ingest_short h.closed' h.isOpen' hshort, Channel.SecureChannel.receiveAtOnce, hreceive,
      settleCalls_of_idle crypto aead (show ({ ts with inbound := ts.inbound.push bytes } :
        Channel.SecureChannel).calls = [] from h.idle)]
    exact ⟨rfl, .waiting ⟨h.idle, h.role, h.closed, h.closed', h.isOpen, h.isOpen', hcontents, h.authenticated,
      h.handshake⟩ rfl rfl⟩
  have hlong : ¬ (ts.inbound.push bytes).length < handshakeMsgBytes := hpushed ▸ hshort
  have hmessage : ((ts.inbound.push bytes).take handshakeMsgBytes).1 = (sw.inboundBuffer ++ bytes).take 32 := by
    rw [ByteQueue.take_fst (by rw [hpushed]; exact Nat.le_of_not_lt hshort), hcontents]
    rfl
  have hrest : ((ts.inbound.push bytes).take handshakeMsgBytes).2.contents =
      (sw.inboundBuffer ++ bytes).drop 32 := by
    rw [ByteQueue.contents_take, hcontents]
    rfl
  have hfull : ((sw.inboundBuffer ++ bytes).take 32).length = 32 := by
    rw [List.length_take]
    omega
  rcases hsame.consume crypto hfull with ⟨e, e', herror, herror'⟩ | ⟨keys, wiped, hok, hok'⟩
  · -- neither derives keys
    have hreceive : ts.receive crypto aead bytes =
        emit [.consumed ((sw.inboundBuffer ++ bytes).take 32)]
          ({ ts with
              inbound := ((ts.inbound.push bytes).take handshakeMsgBytes).2
              handshake := some hs }.shutdown (some e)) := by
      rw [Channel.SecureChannel.receive, if_neg (by rw [h.closed]; exact Bool.false_ne_true),
        Channel.SecureChannel.drain, if_neg (show ¬ ts.isOpen = true by rw [h.isOpen]; exact Bool.false_ne_true),
        if_neg hlong, Channel.SecureChannel.completeHandshake, hhandshake]
      dsimp only
      rw [hmessage, herror]
    have hclosed := closed_shutdown
      (show ({ ts with
          inbound := ((ts.inbound.push bytes).take handshakeMsgBytes).2
          handshake := some hs } : Channel.SecureChannel).calls = [] from h.idle) h.closed
      (show ({ sw with inboundBuffer := (sw.inboundBuffer ++ bytes).drop 32 } : SecureChannel).closed = false
        from h.closed') (some e) (some e')
    rw [ingest_refused h.closed' h.isOpen' hhandshake' hshort herror', Channel.SecureChannel.receiveAtOnce, hreceive]
    have hsettled := settleCalls_of_idle crypto aead hclosed.1.idle (ts.inbound.length + bytes.length + 2)
    refine ⟨?_, ?_⟩
    · rw [emit, emit]
      dsimp only
      rw [hsettled, List.append_nil, List.filterMap_append, hclosed.2.1, hclosed.2.2]
      rfl
    · rw [emit, emit]
      dsimp only
      rw [hsettled]
      exact .closed hclosed.1
  · -- both do
    obtain ⟨opened', hopened', hingest⟩ := ingest_accepted aead h.closed' h.isOpen' hhandshake' hshort hok'
    obtain ⟨opened, effects, n, hopened, heffects, hn, hreceive⟩ := receiveAtOnce_accepted aead h.idle
      h.closed h.isOpen hhandshake h.role hlong (by rw [hmessage]; exact hok)
    have hopen : Opened opened opened' 0 0 := by
      rw [hopened, hopened']
      exact h.establish hrest wiped keys
    have hbuffer : opened'.inboundBuffer.length ≤ n := by
      rw [hopened', List.length_drop, List.length_append]
      omega
    have hyields : yieldedIn (sw.ingest crypto aead bytes).2 = yieldedIn (opened'.endIngest aead).2 := by
      rw [hingest, yieldedIn, List.filterMap_append]
      cases sw.role <;> rfl
    rw [hyields] at hfew ⊢
    have hend := hopen.endIngest crypto aead hbuffer (by rw [Nat.zero_add]; exact hfew)
    rw [Nat.zero_add] at hend
    rw [hreceive, hingest]
    refine ⟨?_, hend.2⟩
    rw [emit, List.filterMap_append, heffects, hend.1, List.filterMap_append, hsame.message]
    cases sw.role <;> rfl

/-- The budget the SDK holds an initiator to: one record before it has opened one. -/
def withinBudget (s : SecureChannel) : ChannelInput → Prop
  | .send frame =>
    s.role.role = .initiator → s.isOpen = true → s.isAuthenticated = false →
      (∀ sealer ∈ s.sealer, sealer.counter = 0) ∨ 1 + frame.payload.length + recordTagBytes > 4 * 1024 * 1024
  | _ => True

instance (s : SecureChannel) : (e : ChannelInput) → Decidable (withinBudget s e)
  | .send _ => inferInstanceAs (Decidable (_ → _ → _ → _ ∨ _))
  | .receive _ => isTrue trivial
  | .close => isTrue trivial

variable (aead) in
lemma Opened.send_tooLarge (h : Opened ts sw sent received) {frame : ChannelFrame}
    (hlarge : 1 + frame.payload.length + recordTagBytes > 4 * 1024 * 1024) :
    ts.send aead frame = (ts, []) ∧ sw.send aead frame = (sw, []) := by
  obtain ⟨sealer, sealer', hsealer, hsealer', -⟩ := h.sealer
  have hoverhead : recordOverheadBytes + frame.payload.length > maxRecordBytes := by
    unfold recordOverheadBytes maxRecordBytes tagBytes
    unfold recordTagBytes at hlarge
    omega
  constructor
  · rw [Channel.SecureChannel.send, if_neg (by rw [h.closed, h.isOpen]; exact Bool.false_ne_true), hsealer]
    dsimp only
    rw [if_pos hoverhead]
    split <;> rfl
  · rw [SecureChannel.send, SecureChannel.sealFrame, if_neg (by rw [h.closed']; exact Bool.false_ne_true), h.isOpen',
      hsealer']
    dsimp only
    rw [if_pos hlarge]

variable (aead) in
lemma Opened.send_fits (h : Opened ts sw sent received) {sealer : RecordSealer} (hsealer : sw.sealer = some sealer)
    {frame : ChannelFrame} (hfits : ¬ 1 + frame.payload.length + recordTagBytes > 4 * 1024 * 1024) :
    sw.send aead frame =
      ({ sw with sealer := some (sealer.seal aead (FrameCodec.encode frame)).2 },
        [.sent (uint32BE (sealer.seal aead (FrameCodec.encode frame)).1.length ++
          (sealer.seal aead (FrameCodec.encode frame)).1)]) := by
  rw [SecureChannel.send, SecureChannel.sealFrame, if_neg (by rw [h.closed']; exact Bool.false_ne_true), h.isOpen',
    hsealer]
  dsimp only
  rw [if_neg hfits]

lemma Opened.send (h : Opened ts sw sent received) {frame : ChannelFrame}
    (hbudget : withinBudget sw (.send frame))
    (hfew : sent + (sw.send aead frame).2.length ≤ maxSafeInteger) :
    SameStep (ts.send aead frame) (sw.send aead frame) (sent + (sw.send aead frame).2.length) received := by
  by_cases hlarge : 1 + frame.payload.length + recordTagBytes > 4 * 1024 * 1024
  · obtain ⟨hsend, hsend'⟩ := h.send_tooLarge aead hlarge
    rw [hsend, hsend']
    exact ⟨rfl, .opened h⟩
  · obtain ⟨sealer, sealer', hsealer, hsealer', hsame⟩ := h.sealer
    rw [h.send_fits aead hsealer' hlarge] at hfew ⊢
    obtain ⟨next, hseal, hsame'⟩ := hsame.seal aead (Nat.le_of_succ_le hfew) (FrameCodec.encode frame)
    have hfits : ¬ recordOverheadBytes + frame.payload.length > maxRecordBytes := by
      unfold recordOverheadBytes maxRecordBytes tagBytes
      unfold recordTagBytes at hlarge
      omega
    have hallowed : ¬ (ts.role = .initiator ∧ ts.authenticated = false ∧ sealer.counter ≥ 1) := by
      rintro ⟨hrole, hauth, hcounter⟩
      rcases hbudget (h.role.symm.trans hrole) h.isOpen' (h.authenticated.symm.trans hauth) with hzero | hlarge'
      · have hzero' : sealer'.counter = 0 := hzero sealer' hsealer'
        rw [hsame.counter] at hcounter
        rw [hsame.counter'] at hzero'
        omega
      · exact hlarge hlarge'
    rw [Channel.SecureChannel.send, if_neg (by rw [h.closed, h.isOpen]; exact Bool.false_ne_true), hsealer]
    dsimp only
    rw [if_neg hallowed, if_neg hfits, ← encode_eq, hseal]
    exact ⟨rfl, .opened ⟨h.idle, h.role, h.closed, h.closed', h.isOpen, h.isOpen', h.inbound, h.authenticated,
      ⟨next, _, rfl, rfl, hsame'⟩, h.opener⟩⟩

lemma Opened.send_over (h : Opened ts sw sent received) {frame : ChannelFrame}
    (hbudget : ¬ withinBudget sw (.send frame)) :
    (ts.send aead frame).2.filterMap ofEffect ≠ (sw.send aead frame).2.filterMap ofChannelEffect := by
  obtain ⟨sealer, sealer', hsealer, hsealer', hsame⟩ := h.sealer
  unfold withinBudget at hbudget
  push Not at hbudget
  obtain ⟨hrole, -, hauth, ⟨used, hused, hcounter⟩, hfits⟩ := hbudget
  rw [hsealer'] at hused
  cases hused
  rw [hsame.counter'] at hcounter
  rw [h.send_fits aead hsealer' (Nat.not_lt_of_le hfits), Channel.SecureChannel.send,
    if_neg (by rw [h.closed, h.isOpen]; exact Bool.false_ne_true), hsealer]
  dsimp only
  rw [if_pos ⟨h.role.trans hrole, h.authenticated.trans hauth, by rw [hsame.counter]; omega⟩]
  exact (List.cons_ne_nil _ _).symm

/-- The records an input seals. -/
def sealedBy (aead : Aead) (s : SecureChannel) : ChannelInput → List ChannelEffect
  | .send frame => (s.send aead frame).2
  | _ => []

variable (aead) in
lemma Waiting.send (h : Waiting ts sw) (frame : ChannelFrame) :
    ts.send aead frame = (ts, []) ∧ sw.send aead frame = (sw, []) := by
  constructor
  · exact if_pos (by rw [h.isOpen, Bool.not_false, Bool.or_true])
  · rw [SecureChannel.send, SecureChannel.sealFrame, if_neg (by rw [h.closed']; exact Bool.false_ne_true), h.isOpen']

variable (aead) in
lemma Closed.send (h : Closed ts sw) (frame : ChannelFrame) :
    ts.send aead frame = (ts, []) ∧ sw.send aead frame = (sw, []) := by
  constructor
  · exact if_pos (by rw [h.closed, Bool.true_or])
  · rw [SecureChannel.send, SecureChannel.sealFrame, if_pos h.closed']

variable (crypto aead) in
lemma Closed.receive (h : Closed ts sw) (bytes : Bytes) :
    ts.receiveAtOnce crypto aead bytes = (ts, []) ∧ sw.ingest crypto aead bytes = (sw, []) := by
  constructor
  · rw [Channel.SecureChannel.receiveAtOnce, Channel.SecureChannel.receive, if_pos h.closed,
      settleCalls_of_idle crypto aead h.idle]
    rfl
  · exact if_pos h.closed'

lemma Closed.shutdown (h : Closed ts sw) : ts.shutdown none = (ts, []) ∧ sw.shutdown none = (sw, []) :=
  ⟨if_pos h.closed, if_pos h.closed'⟩

variable (crypto aead) in
lemma Agrees.react (h : Agrees ts sw sent received) {e : ChannelInput} (hbudget : withinBudget sw e)
    (hsent : sent + (sealedBy aead sw e).length ≤ maxSafeInteger)
    (hreceived : received + (yieldedIn (sw.react crypto aead e).2).length ≤ maxSafeInteger) :
    SameStep (sdkReact crypto aead ts e) (sw.react crypto aead e) (sent + (sealedBy aead sw e).length)
      (received + (yieldedIn (sw.react crypto aead e).2).length) := by
  cases h with
  | waiting h hzero hzero' =>
    subst hzero hzero'
    cases e with
    | send frame =>
      obtain ⟨hsend, hsend'⟩ := h.send aead frame
      rw [sdkReact, SecureChannel.react, sealedBy, hsend, hsend']
      exact ⟨rfl, .waiting h rfl rfl⟩
    | receive bytes =>
      have hstep := h.receive bytes (by rw [← Nat.zero_add (List.length _)]; exact hreceived)
      rw [Nat.zero_add (List.length (yieldedIn _))]
      exact hstep
    | close =>
      obtain ⟨hclosed, houtputs, houtputs'⟩ := closed_shutdown h.idle h.closed h.closed' none none
      exact ⟨houtputs.trans houtputs'.symm, .closed hclosed⟩
  | opened h =>
    cases e with
    | send frame =>
      have hyields : yieldedIn (sw.send aead frame).2 = [] := by
        rw [SecureChannel.send]
        split <;> rfl
      rw [sdkReact, SecureChannel.react, hyields]
      exact h.send hbudget hsent
    | receive bytes => exact h.receive bytes hreceived
    | close =>
      obtain ⟨hclosed, houtputs, houtputs'⟩ := closed_shutdown h.idle h.closed h.closed' none none
      exact ⟨houtputs.trans houtputs'.symm, .closed hclosed⟩
  | closed h =>
    cases e with
    | send frame =>
      obtain ⟨hsend, hsend'⟩ := h.send aead frame
      rw [sdkReact, SecureChannel.react, hsend, hsend']
      exact ⟨rfl, .closed h⟩
    | receive bytes =>
      obtain ⟨hreceive, hreceive'⟩ := h.receive crypto aead bytes
      rw [sdkReact, SecureChannel.react, hreceive, hreceive']
      exact ⟨rfl, .closed h⟩
    | close =>
      obtain ⟨hclose, hclose'⟩ := h.shutdown
      rw [sdkReact, SecureChannel.react, hclose, hclose']
      exact ⟨rfl, .closed h⟩

variable (crypto aead) in
lemma Agrees.react_over (h : Agrees ts sw sent received) {e : ChannelInput} (hbudget : ¬ withinBudget sw e) :
    (sdkReact crypto aead ts e).2.filterMap ofEffect ≠
      (sw.react crypto aead e).2.filterMap ofChannelEffect := by
  cases e with
  | receive bytes => exact absurd trivial hbudget
  | close => exact absurd trivial hbudget
  | send frame =>
    cases h with
    | opened h => exact h.send_over hbudget
    | waiting h _ _ =>
      refine absurd (fun _ hopen => ?_) hbudget
      rw [h.isOpen'] at hopen
      cases hopen
    | closed h =>
      refine absurd (fun _ hopen => ?_) hbudget
      rw [h.isOpen'] at hopen
      cases hopen

lemma Agrees.closed_eq (h : Agrees ts sw sent received) : ts.closed = sw.closed := by
  cases h with
  | waiting h _ _ => exact h.closed.trans h.closed'.symm
  | opened h => exact h.closed.trans h.closed'.symm
  | closed h => exact h.closed.trans h.closed'.symm

/-! ## Runs -/

/-- What one input shows of a channel: its outputs, and whether the channel is closed then. -/
abbrev Shown := List Output × Bool

section Machines

variable (crypto aead) (role : ChannelRole) (ephemeralSecret : Bytes) (context : Option Bytes)
  (handshake : Handshake)

/-- The channel of the SDK, from behind its microtask. -/
def sdkMachine : Machine Channel.SecureChannel ChannelInput where
  init := (Channel.SecureChannel.new handshake).start.1
  step s e := (sdkReact crypto aead s e).1

/-- The channel of the phone, from behind `start`. -/
def phoneMachine : Machine SecureChannel ChannelInput where
  init := (SecureChannel.new crypto role ephemeralSecret context).start.1
  step s e := (s.react crypto aead e).1

/-- What one input shows of the SDK's channel. -/
def sdkShows (s : Channel.SecureChannel) (e : ChannelInput) : List Shown :=
  [((sdkReact crypto aead s e).2.filterMap ofEffect, (sdkReact crypto aead s e).1.closed)]

/-- What one input shows of the phone's channel. -/
def phoneShows (s : SecureChannel) (e : ChannelInput) : List Shown :=
  [((s.react crypto aead e).2.filterMap ofChannelEffect, (s.react crypto aead e).1.closed)]

/-- What a run shows of the SDK's channel: its start, and each input. -/
def sdkTrace (es : List ChannelInput) : List Shown :=
  let start := (Channel.SecureChannel.new handshake).start
  (start.2.filterMap ofEffect, start.1.closed) ::
    (sdkMachine crypto aead handshake).outputs (sdkShows crypto aead) es

/-- What a run shows of the phone's channel. -/
def phoneTrace (es : List ChannelInput) : List Shown :=
  let start := (SecureChannel.new crypto role ephemeralSecret context).start
  (start.2.filterMap ofChannelEffect, start.1.closed) ::
    (phoneMachine crypto aead role ephemeralSecret context).outputs (phoneShows crypto aead) es

/-- The records a run of the phone's channel seals. -/
def recordsSent (es : List ChannelInput) : ℕ :=
  ((phoneMachine crypto aead role ephemeralSecret context).outputs (sealedBy aead) es).length

/-- The frames a run of the phone's channel delivers. -/
def recordsReceived (es : List ChannelInput) : ℕ :=
  ((phoneMachine crypto aead role ephemeralSecret context).outputs
    (fun s e => yieldedIn (s.react crypto aead e).2) es).length

/-- A run of fewer than 2 ^ 53 records in a direction. -/
structure FewRecords (es : List ChannelInput) : Prop where
  sent : recordsSent crypto aead role ephemeralSecret context es ≤ maxSafeInteger
  received : recordsReceived crypto aead role ephemeralSecret context es ≤ maxSafeInteger

variable {crypto aead role ephemeralSecret context handshake}

lemma FewRecords.of_snoc {es : List ChannelInput} {e : ChannelInput}
    (h : FewRecords crypto aead role ephemeralSecret context (es ++ [e])) :
    FewRecords crypto aead role ephemeralSecret context es := by
  have hsent := h.sent
  have hreceived := h.received
  rw [recordsSent, Machine.outputs_snoc, List.length_append] at hsent
  rw [recordsReceived, Machine.outputs_snoc, List.length_append] at hreceived
  exact ⟨(Nat.le_add_right _ _).trans hsent, (Nat.le_add_right _ _).trans hreceived⟩

variable (aead) in
lemma agrees_start (hhandshake : sdkHandshake crypto role ephemeralSecret context = some handshake) :
    Agrees (sdkMachine crypto aead handshake).init
        (phoneMachine crypto aead role ephemeralSecret context).init 0 0 ∧
      (Channel.SecureChannel.new handshake).start.2.filterMap ofEffect =
        (SecureChannel.new crypto role ephemeralSecret context).start.2.filterMap ofChannelEffect := by
  cases role with
  | initiator pinned =>
    rw [sdkHandshake, initiatorHandshake] at hhandshake
    split at hhandshake
    · cases hhandshake
    · cases hhandshake
      exact ⟨.waiting ⟨rfl, rfl, rfl, rfl, rfl, rfl, rfl, rfl, _, _, rfl, rfl, ⟨rfl, rfl, rfl, rfl⟩, rfl⟩ rfl rfl, rfl⟩
  | responder secret =>
    rw [sdkHandshake, responderHandshake] at hhandshake
    cases hhandshake
    exact ⟨.waiting ⟨rfl, rfl, rfl, rfl, rfl, rfl, rfl, rfl, _, _, rfl, rfl, ⟨rfl, rfl, rfl, rfl⟩, rfl⟩ rfl rfl, rfl⟩

lemma sdkTrace_snoc (es : List ChannelInput) (e : ChannelInput) :
    sdkTrace crypto aead handshake (es ++ [e]) = sdkTrace crypto aead handshake es ++
      sdkShows crypto aead ((sdkMachine crypto aead handshake).run es) e := by
  rw [sdkTrace, Machine.outputs_snoc]
  rfl

lemma phoneTrace_snoc (es : List ChannelInput) (e : ChannelInput) :
    phoneTrace crypto aead role ephemeralSecret context (es ++ [e]) =
      phoneTrace crypto aead role ephemeralSecret context es ++
        phoneShows crypto aead ((phoneMachine crypto aead role ephemeralSecret context).run es) e := by
  rw [phoneTrace, Machine.outputs_snoc]
  rfl

lemma agrees_of_withinBudget (hhandshake : sdkHandshake crypto role ephemeralSecret context = some handshake)
    {es : List ChannelInput} (hfew : FewRecords crypto aead role ephemeralSecret context es)
    (hes : (phoneMachine crypto aead role ephemeralSecret context).Meets withinBudget es) :
    sdkTrace crypto aead handshake es = phoneTrace crypto aead role ephemeralSecret context es ∧
      Agrees ((sdkMachine crypto aead handshake).run es)
        ((phoneMachine crypto aead role ephemeralSecret context).run es)
        (recordsSent crypto aead role ephemeralSecret context es)
        (recordsReceived crypto aead role ephemeralSecret context es) := by
  induction es using List.reverseRecOn with
  | nil =>
    obtain ⟨hstart, houtputs⟩ := agrees_start aead hhandshake
    exact ⟨congrArg (· :: []) (Prod.ext houtputs hstart.closed_eq), hstart⟩
  | append_singleton es e ih =>
    obtain ⟨hpre, he⟩ := (Machine.meets_snoc _).1 hes
    obtain ⟨htrace, hagrees⟩ := ih hfew.of_snoc hpre
    have hsent := hfew.sent
    have hreceived := hfew.received
    unfold recordsSent at hsent hagrees ⊢
    unfold recordsReceived at hreceived hagrees ⊢
    rw [Machine.outputs_snoc, List.length_append] at hsent hreceived ⊢
    rw [Machine.outputs_snoc, List.length_append]
    have hstep := hagrees.react crypto aead he hsent hreceived
    refine ⟨?_, ?_⟩
    · rw [sdkTrace_snoc, phoneTrace_snoc, htrace]
      exact congrArg (_ ++ [·]) (Prod.ext hstep.1 hstep.2.closed_eq)
    · rw [Machine.run_snoc, Machine.run_snoc]
      exact hstep.2

/-- **The machines are the same** on exactly the runs whose sends keep to the initiator's budget. -/
theorem sameMachine_iff (hhandshake : sdkHandshake crypto role ephemeralSecret context = some handshake)
    {es : List ChannelInput} (hfew : FewRecords crypto aead role ephemeralSecret context es) :
    sdkTrace crypto aead handshake es = phoneTrace crypto aead role ephemeralSecret context es ↔
      (phoneMachine crypto aead role ephemeralSecret context).Meets withinBudget es := by
  refine ⟨fun htrace => ?_, fun hes => (agrees_of_withinBudget hhandshake hfew hes).1⟩
  induction es using List.reverseRecOn with
  | nil => exact Machine.meets_nil _ _
  | append_singleton es e ih =>
    rw [sdkTrace_snoc, phoneTrace_snoc] at htrace
    obtain ⟨hpre, hlast⟩ := List.append_inj' htrace rfl
    have hes := ih hfew.of_snoc hpre
    obtain ⟨-, hagrees⟩ := agrees_of_withinBudget hhandshake hfew.of_snoc hes
    refine (Machine.meets_snoc _).2 ⟨hes, ?_⟩
    -- a send over the budget would show
    by_contra hover
    exact hagrees.react_over crypto aead hover (congrArg Prod.fst (List.head_eq_of_cons_eq hlast))

end Machines

/-- A controller that says hello and waits keeps to it. -/
theorem sameMachine_hello :
    let role := ChannelRole.initiator (Demo.pad [7]).1
    let hello := [ChannelInput.receive (Demo.pad [6]).1, .send ⟨.control, [1]⟩, .close]
    sdkTrace Demo.xorCrypto Demo.aead Demo.xorInitiator hello =
      phoneTrace Demo.xorCrypto Demo.aead role [5] (some [1]) hello := by
  intro role hello
  refine (sameMachine_iff (by decide +kernel) ⟨by decide +kernel, by decide +kernel⟩).2 ?_
  have hchecked : (phoneMachine Demo.xorCrypto Demo.aead role [5] (some [1])).checks
      (fun s e => decide (withinBudget s e)) (SecureChannel.new Demo.xorCrypto role [5] (some [1])).start.1 hello =
        true := by decide +kernel
  exact (Machine.meets_of_checks _ hchecked).mono _ fun _ _ => of_decide_eq_true

/-- One that goes on before the host has answered does not: the phone sends a second record, which the SDK
refuses to seal. -/
theorem not_sameMachine_secondSend :
    let role := ChannelRole.initiator (Demo.pad [7]).1
    let eager := [ChannelInput.receive (Demo.pad [6]).1, .send ⟨.control, [1]⟩, .send ⟨.control, [2]⟩]
    sdkHandshake Demo.xorCrypto role [5] (some [1]) = some Demo.xorInitiator ∧
      FewRecords Demo.xorCrypto Demo.aead role [5] (some [1]) eager ∧
      sdkTrace Demo.xorCrypto Demo.aead Demo.xorInitiator eager ≠
        phoneTrace Demo.xorCrypto Demo.aead role [5] (some [1]) eager := by
  refine ⟨by decide +kernel, ⟨by decide +kernel, by decide +kernel⟩, by decide +kernel⟩

end Pherry.Ios
