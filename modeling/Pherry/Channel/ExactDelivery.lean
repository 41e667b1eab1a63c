import Pherry.Channel.HandshakeOnce
import Pherry.Channel.RecordStream

/-!
# A channel delivers an exact prefix

Two established ends and whatever lies between them. What arrives at an end is up to the network;
the AEAD is ideal in that a record opens under a key and a nonce only if it was sealed under them.
-/

namespace Pherry.Channel

open Lib SecureChannel

section End

variable (crypto : Crypto) (aead : Aead) (role : Role) (e : Established)

/-- The frames an end has delivered. -/
def delivered (es : List Event) : List ChannelFrame := deliveredIn (endTrace crypto aead role e es)

/-- The frames an end has sealed. -/
def sealedFrames (es : List Event) : List ChannelFrame :=
  (sealedIn (endTrace crypto aead role e es)).map Sealing.frame

lemma reading_run (es : List Event) :
    Reading crypto aead role e (endTrace crypto aead role e es) (e.stream es)
      ((endMachine crypto aead role e).run es) ∧
      Waits aead ((endMachine crypto aead role e).run es) := by
  refine (endMachine crypto aead role e).history_invariant
    (p := fun es s => Reading crypto aead role e (endTrace crypto aead role e es) (e.stream es) s ∧
      Waits aead s) ⟨?_, fun opener _ _ hcalls => by cases hcalls⟩ (fun es event ih => ?_) es
  · refine ⟨?_, .inl rfl, ?_, ?_, Nat.zero_le _, e.opener crypto role, e.inbound.contents, ?_,
      ⟨rfl, rfl, rfl⟩, .inl ⟨rfl, rfl, rfl⟩⟩
    · intro keys hmem
      rcases List.mem_singleton.1 hmem
    · intro sealer hsome
      obtain rfl := Option.some.inj hsome
      exact ⟨rfl, rfl, rfl⟩
    · intro i x hx
      cases hx
    · rw [Established.stream, List.flatMap_nil, List.append_nil]
      exact .nil
  · have hstream : e.stream (es ++ [event]) = e.stream es ++ event.bytes := by
      rw [Established.stream, Established.stream, List.flatMap_append, List.flatMap_singleton, List.append_assoc]
    rw [endTrace, Machine.outputs_snoc, hstream]
    exact ih.1.react ih.2 event

variable {crypto aead role e}

lemma Reading.closed_react {effects : List Effect} {stream : Bytes} {s : SecureChannel}
    (h : Reading crypto aead role e effects stream s) (hclosed : s.closed = true) (event : Event) :
    (s.react crypto aead event).1.closed = true ∧
      deliveredIn (s.react crypto aead event).2 = [] := by
  have hnone : s.opener = none := by
    obtain ⟨opener, rest, -, -, ⟨hlive, -⟩ | ⟨-, hnone, -⟩⟩ := h.reads
    · rw [hclosed] at hlive
      cases hlive
    · exact hnone
  cases event with
  | microtask =>
    show s.start.1.closed = true ∧ deliveredIn s.start.2 = []
    rcases s.start_eq with heq | ⟨fs, heq, hfs⟩
    · rw [heq]
      exact ⟨hclosed, rfl⟩
    · rw [heq]
      refine ⟨hclosed, ?_⟩
      rcases hfs with rfl | ⟨bytes, rfl⟩ <;> rfl
  | receive bytes =>
    show (s.receive crypto aead bytes).1.closed = true ∧ deliveredIn (s.receive crypto aead bytes).2 = []
    rw [SecureChannel.receive, if_pos hclosed]
    exact ⟨hclosed, rfl⟩
  | send frame =>
    show (s.send aead frame).1.closed = true ∧ deliveredIn (s.send aead frame).2 = []
    rw [SecureChannel.send, hclosed]
    exact ⟨hclosed, rfl⟩
  | close =>
    show (s.shutdown none).1.closed = true ∧ deliveredIn (s.shutdown none).2 = []
    rw [shutdown_of_closed hclosed]
    exact ⟨hclosed, rfl⟩
  | resume outcome =>
    have hpump : ∀ calls, { s with calls }.pump aead = ({ s with calls }, []) := by
      intro calls
      unfold SecureChannel.pump
      rw [hnone]
    have hshutdown : ∀ calls, { s with calls }.shutdown (some .callbackThrew)
        = ({ s with calls }, []) :=
      fun calls => shutdown_of_closed (s := { s with calls }) hclosed _
    show (s.resume crypto aead outcome).1.closed = true ∧
      deliveredIn (s.resume crypto aead outcome).2 = []
    unfold SecureChannel.resume
    split
    · exact ⟨hclosed, rfl⟩
    · next keys calls hs => exact absurd (by rw [hs]; exact List.mem_cons_self) (h.calls keys)
    · simp only [hpump, hshutdown]
      split <;> exact ⟨hclosed, rfl⟩
    · simp only [hpump, hshutdown]
      split <;> exact ⟨hclosed, rfl⟩

lemma closed_run {pre : List Event}
    (hclosed : ((endMachine crypto aead role e).run pre).closed = true) (post : List Event) :
    ((endMachine crypto aead role e).run (pre ++ post)).closed = true ∧
      delivered crypto aead role e (pre ++ post) = delivered crypto aead role e pre := by
  induction post using List.reverseRecOn with
  | nil =>
    rw [List.append_nil]
    exact ⟨hclosed, rfl⟩
  | append_singleton post event ih =>
    obtain ⟨hstill, hsame⟩ := ih
    obtain ⟨hnext, hnothing⟩ :=
      (reading_run crypto aead role e (pre ++ post)).1.closed_react hstill event
    rw [← List.append_assoc, Machine.run_snoc, delivered, endTrace, Machine.outputs_snoc,
      deliveredIn_append, hnothing, List.append_nil]
    exact ⟨hnext, hsame⟩

/-- What an end delivered is a prefix of what its stream decodes to; if it is in no callback and
did not close the channel of its own, it is all of that, and a failure closed the channel. -/
lemma delivered_decoded (es : List Event) :
    delivered crypto aead role e es <+: (e.decoded crypto aead role es).items ∧
      (((endMachine crypto aead role e).run es).calls = [] →
        closedLocally (endTrace crypto aead role e es) = false →
          delivered crypto aead role e es = (e.decoded crypto aead role es).items ∧
            ((endMachine crypto aead role e).run es).closed
              = (e.decoded crypto aead role es).failed) := by
  obtain ⟨hreading, hwaits⟩ := reading_run crypto aead role e es
  obtain ⟨opener, rest, hreads, -, hstate⟩ := hreading.reads
  refine ⟨hreads.isPrefix, fun hcalls hlocal => ?_⟩
  rcases hstate with ⟨hlive, hsome, hrest⟩ | ⟨hclosed, -, hwhy⟩
  · have hmore := hwaits opener hlive hsome hcalls
    rw [← hrest] at hmore
    obtain ⟨hitems, hfailed⟩ := hreads.decode_of_more hmore
    exact ⟨hitems.symm, hlive.trans hfailed.symm⟩
  · have hfail := hwhy.resolve_right (by rw [hlocal]; decide)
    obtain ⟨hitems, hfailed⟩ := hreads.decode_of_fail hfail
    exact ⟨hitems.symm, hclosed.trans hfailed.symm⟩

/-! ## Where an established end comes from -/

/-! ## What a delivery opened -/

/-- Effects that deliver nothing, or deliver the one frame they opened, as the `n`-th record. -/
def DeliversOpened (crypto : Crypto) (role : Role) (e : Established) (n : ℕ)
    (effects : List Effect) : Prop :=
  deliveredIn effects = [] ∨ ∃ frame record frameBytes, deliveredIn effects = [frame] ∧
    .opened (e.keys.recvKey role)
      (nonceFor (e.opener crypto role).noncePrefix (min n (maxSafeInteger + 1))) record frameBytes
        ∈ effects ∧
    decodeFrame frameBytes = .ok frame

lemma deliversOpened_shutdown (n : ℕ) (s : SecureChannel) (error : Option ChannelError) :
    DeliversOpened crypto role e n (s.shutdown error).2 := by
  left
  rcases s.effects_shutdown error with h | h <;> rw [h] <;> rfl

lemma Reading.deliversOpened_pump {effects : List Effect} {stream : Bytes} {s : SecureChannel}
    (h : Reading crypto aead role e effects stream s) :
    DeliversOpened crypto role e (deliveredIn effects).length (s.pump aead).2 := by
  obtain ⟨opener, rest, -, ⟨hkey, hprefix, hcounter⟩, ⟨hlive, hopener, -⟩ | ⟨-, hnone, -⟩⟩ := h.reads
  · rcases pump_pull aead hopener with ⟨-, heq⟩ |
      ⟨-, fs, error, inbound, opener', heq, -, hfs⟩ |
      ⟨frame, opener', inbound, taken, record, frameBytes, -, heq, hopen, hframe⟩
    · rw [heq]
      exact .inl rfl
    · left
      rw [heq, emit_shutdown (s := { s with inbound, opener := opener' }) hlive, deliveredIn_append,
        (quiet_of_reads hfs).2]
      rfl
    · right
      rw [heq]
      refine ⟨frame, record, frameBytes, rfl, ?_, hframe⟩
      rw [← hkey, ← hprefix, ← hcounter]
      exact List.mem_cons_of_mem _ List.mem_cons_self
  · left
    unfold SecureChannel.pump
    rw [hnone]
    rfl

lemma Reading.deliversOpened {effects : List Effect} {stream : Bytes} {s : SecureChannel}
    (h : Reading crypto aead role e effects stream s) (event : Event) :
    DeliversOpened crypto role e (deliveredIn effects).length (s.react crypto aead event).2 := by
  cases event with
  | microtask =>
    left
    show deliveredIn s.start.2 = []
    rcases s.start_eq with heq | ⟨fs, heq, hfs⟩
    · rw [heq]
      rfl
    · rw [heq]
      rcases hfs with rfl | ⟨bytes, rfl⟩ <;> rfl
  | receive bytes =>
    show DeliversOpened crypto role e _ (s.receive crypto aead bytes).2
    unfold SecureChannel.receive
    cases hclosed : s.closed with
    | true => exact .inl rfl
    | false =>
      have hisOpen : s.isOpen = true := h.running.resolve_right (by simp [hclosed])
      have hpush := (h.push bytes).2 hclosed
      rw [hclosed] at hpush
      rw [if_neg (by simp)]
      unfold drain
      rw [if_pos hisOpen]
      exact hpush.deliversOpened_pump
  | send frame =>
    left
    show deliveredIn (s.send aead frame).2 = []
    rcases s.send_eq aead frame with heq | ⟨sealer, sealer', record, -, heq⟩ <;>
    · rw [heq]
      rfl
  | close => exact deliversOpened_shutdown _ s none
  | resume outcome =>
    show DeliversOpened crypto role e _ (s.resume crypto aead outcome).2
    unfold SecureChannel.resume
    split
    · exact .inl rfl
    · next keys calls hs => exact absurd (by rw [hs]; exact List.mem_cons_self) (h.calls keys)
    · next calls hs =>
      simp only
      split
      · exact (h.pop hs).deliversOpened_pump
      · exact deliversOpened_shutdown _ _ _
    · next calls hs =>
      simp only
      split
      · exact deliversOpened_shutdown _ _ _
      · exact (h.pop hs).deliversOpened_pump

end End

/-! ## Two ends -/

/-- The other end. -/
def Role.other : Role → Role
  | initiator => .responder
  | responder => .initiator

lemma Role.eq_other {r r' : Role} (h : r' ≠ r) : r' = r.other := by
  cases r <;> cases r' <;> first | rfl | exact absurd rfl h

lemma Role.other_ne (r : Role) : r.other ≠ r := by
  cases r <;> decide

/-- The events of one end, in a run of both. -/
def eventsOf (role : Role) (es : List (Role × Event)) : List Event :=
  es.filterMap fun x => if x.1 = role then some x.2 else none

lemma eventsOf_append (role : Role) (es fs : List (Role × Event)) :
    eventsOf role (es ++ fs) = eventsOf role es ++ eventsOf role fs := List.filterMap_append

lemma eventsOf_self (role : Role) (es : List (Role × Event)) (event : Event) :
    eventsOf role (es ++ [(role, event)]) = eventsOf role es ++ [event] := by
  rw [eventsOf_append]
  simp [eventsOf]

lemma eventsOf_ne {role role' : Role} (h : role' ≠ role) (es : List (Role × Event))
    (event : Event) : eventsOf role (es ++ [(role', event)]) = eventsOf role es := by
  rw [eventsOf_append]
  simp [eventsOf, h]

section Pair

variable (crypto : Crypto) (aead : Aead) (ends : Role → Established)

/-- An ideal AEAD: in every step of the run, what opens was sealed by one of the ends before, under
the same key and nonce. -/
def Authentic (es : List (Role × Event)) : Prop :=
  ∀ pre role event post, es = pre ++ (role, event) :: post → ∀ key nonce record frameBytes,
    .opened key nonce record frameBytes ∈
      (((endMachine crypto aead role (ends role)).run (eventsOf role pre)).react crypto aead event).2 →
    ∃ sender, ∃ x ∈ sealedIn (endTrace crypto aead sender (ends sender) (eventsOf sender pre)),
      x.key = key ∧ x.nonce = nonce ∧ x.record = record ∧ encodeFrame x.frame = frameBytes

/-- What a channel promises about a run of its two ends. -/
structure ExactDelivery (es : List (Role × Event)) : Prop where
  /-- What an end delivered is a prefix of what the other sealed. -/
  inOrder : ∀ r, delivered crypto aead r (ends r) (eventsOf r es)
    <+: sealedFrames crypto aead r.other (ends r.other) (eventsOf r.other es)
  /-- An end that is closed stays closed and delivers no more. -/
  final : ∀ r pre post, es = pre ++ post →
    ((endMachine crypto aead r (ends r)).run (eventsOf r pre)).closed = true →
      ((endMachine crypto aead r (ends r)).run (eventsOf r es)).closed = true ∧
        delivered crypto aead r (ends r) (eventsOf r es)
          = delivered crypto aead r (ends r) (eventsOf r pre)
  /-- What an end delivered is a prefix of what the concatenation of the bytes it received decodes
  to. When it is in no callback and did not close the channel of its own, it is all of that, and
  the channel is closed if and only if a length or a record in those bytes is bad. -/
  chunking : ∀ r, delivered crypto aead r (ends r) (eventsOf r es)
      <+: ((ends r).decoded crypto aead r (eventsOf r es)).items ∧
    (((endMachine crypto aead r (ends r)).run (eventsOf r es)).calls = [] →
      closedLocally (endTrace crypto aead r (ends r) (eventsOf r es)) = false →
        delivered crypto aead r (ends r) (eventsOf r es)
            = ((ends r).decoded crypto aead r (eventsOf r es)).items ∧
          ((endMachine crypto aead r (ends r)).run (eventsOf r es)).closed
            = ((ends r).decoded crypto aead r (eventsOf r es)).failed)

variable {crypto aead ends}

lemma sealed_of_opened (hkeys : ∀ r, (ends r).keys.sendKey r ≠ (ends r).keys.recvKey r)
    {r sender : Role} {es : List (Role × Event)} {n : ℕ} {x : Sealing}
    (hn : n ≤ (sealedFrames crypto aead r.other (ends r.other) (eventsOf r.other es)).length)
    (hx : x ∈ sealedIn (endTrace crypto aead sender (ends sender) (eventsOf sender es)))
    (hkey : x.key = (ends r).keys.recvKey r)
    (hnonce : x.nonce
      = nonceFor ((ends r).opener crypto r).noncePrefix (min n (maxSafeInteger + 1))) :
    (sealedFrames crypto aead r.other (ends r.other) (eventsOf r.other es))[n]? = some x.frame := by
  obtain ⟨i, hi⟩ := List.mem_iff_getElem?.1 hx
  have hreading := (reading_run crypto aead sender (ends sender) (eventsOf sender es)).1
  obtain ⟨hxkey, hxnonce⟩ := hreading.sealed i x hi
  have hsender : sender = r.other := by
    apply Role.eq_other
    rintro rfl
    exact hkeys sender (hxkey.symm.trans hkey)
  subst hsender
  have hbound := hreading.bound
  have hlt := (List.getElem?_eq_some_iff.1 hi).1
  have hlength : n ≤ (sealedIn (endTrace crypto aead r.other (ends r.other)
      (eventsOf r.other es))).length := by
    rwa [sealedFrames, List.length_map] at hn
  have hsafe : maxSafeInteger + 1 < 2 ^ 64 := by decide
  obtain ⟨-, hcounter⟩ := nonceFor_inj (by omega) (by omega) (hxnonce.symm.trans hnonce)
  have hin : i = n := by omega
  rw [sealedFrames, List.getElem?_map, ← hin, hi]
  rfl

lemma Authentic.prefix {es fs : List (Role × Event)} (h : Authentic crypto aead ends (es ++ fs)) :
    Authentic crypto aead ends es := by
  intro pre role event post hes
  exact h pre role event (post ++ fs) (by rw [hes]; simp)

lemma prefix_snoc {α : Type*} {l m : List α} {a : α} (h : l <+: m) (ha : m[l.length]? = some a) :
    l ++ [a] <+: m := by
  obtain ⟨t, rfl⟩ := h
  rw [List.getElem?_append_right (Nat.le_refl _), Nat.sub_self] at ha
  cases t with
  | nil => cases ha
  | cons b t =>
    obtain rfl := Option.some.inj ha
    exact ⟨t, by rw [List.append_assoc, List.singleton_append]⟩

lemma inOrder_of_authentic (hkeys : ∀ r, (ends r).keys.sendKey r ≠ (ends r).keys.recvKey r)
    {es : List (Role × Event)} (hideal : Authentic crypto aead ends es) (r : Role) :
    delivered crypto aead r (ends r) (eventsOf r es)
      <+: sealedFrames crypto aead r.other (ends r.other) (eventsOf r.other es) := by
  induction es using List.reverseRecOn with
  | nil => exact List.nil_prefix
  | append_singleton es x ih =>
    obtain ⟨role, event⟩ := x
    have hprefix := ih hideal.prefix
    by_cases hrole : role = r
    · -- this end moves: what it opens was sealed by the other
      subst hrole
      rw [eventsOf_self, eventsOf_ne role.other_ne.symm, delivered, endTrace, Machine.outputs_snoc,
        deliveredIn_append]
      rcases (reading_run crypto aead role (ends role) (eventsOf role es)).1.deliversOpened event with
        hnone | ⟨frame, record, frameBytes, hone, hopened, hframe⟩
      · rw [show deliveredIn _ = [] from hnone, List.append_nil]
        exact hprefix
      · obtain ⟨sender, x, hx, hkey, hnonce, -, hencode⟩ :=
          hideal es role event [] rfl _ _ _ _ hopened
        have hnext := sealed_of_opened hkeys hprefix.length_le hx hkey hnonce
        have hsame : x.frame = frame := by
          rw [← hencode, decodeFrame_encodeFrame] at hframe
          exact Except.ok.inj hframe
        rw [show deliveredIn _ = [frame] from hone, ← hsame]
        exact prefix_snoc hprefix hnext
    · -- the other end moves: it can only have sealed more
      obtain rfl := Role.eq_other hrole
      rw [eventsOf_ne r.other_ne, eventsOf_self, sealedFrames, endTrace, Machine.outputs_snoc,
        sealedIn_append, List.map_append]
      exact hprefix.trans (List.prefix_append _ _)

/-- **Exact delivery.** With an ideal AEAD, and keys that separate the two directions, every run of
two established ends delivers an exact in-order prefix, whatever the network does. -/
theorem exactDelivery (hkeys : ∀ r, (ends r).keys.sendKey r ≠ (ends r).keys.recvKey r)
    {es : List (Role × Event)} (hideal : Authentic crypto aead ends es) :
    ExactDelivery crypto aead ends es where
  inOrder := inOrder_of_authentic hkeys hideal
  final := by
    intro r pre post hes hclosed
    rw [hes, eventsOf_append]
    exact closed_run hclosed _
  chunking r := delivered_decoded _

end Pair

/-! ## One record, in two chunks -/

namespace Demo

/-- Whether every record the remaining events open was sealed before. -/
def authenticates (ends : Role → Established) (pre : List (Role × Event)) :
    List (Role × Event) → Bool
  | [] => true
  | (role, event) :: post =>
    ((((endMachine crypto aead role (ends role)).run (eventsOf role pre)).react crypto aead
        event).2.all fun
      | .opened key nonce record frameBytes => [Role.initiator, .responder].any fun sender =>
          (sealedIn (endTrace crypto aead sender (ends sender) (eventsOf sender pre))).any fun x =>
            x.key = key && x.nonce = nonce && x.record = record && encodeFrame x.frame = frameBytes
      | _ => true) &&
      authenticates ends (pre ++ [(role, event)]) post

lemma authentic_of_authenticates {ends : Role → Established} {done es : List (Role × Event)}
    (h : authenticates ends done es = true) {pre : List (Role × Event)} {role : Role} {event : Event}
    {post : List (Role × Event)} (hes : es = pre ++ (role, event) :: post)
    {key nonce record frameBytes : Bytes}
    (hopened : .opened key nonce record frameBytes ∈
      (((endMachine crypto aead role (ends role)).run (eventsOf role (done ++ pre))).react crypto aead
        event).2) :
    ∃ sender, ∃ x ∈ sealedIn (endTrace crypto aead sender (ends sender)
        (eventsOf sender (done ++ pre))),
      x.key = key ∧ x.nonce = nonce ∧ x.record = record ∧ encodeFrame x.frame = frameBytes := by
  induction pre generalizing done es with
  | nil =>
    rw [hes, List.nil_append, authenticates, Bool.and_eq_true, List.all_eq_true] at h
    rw [List.append_nil] at hopened ⊢
    obtain ⟨sender, -, hsender⟩ := List.any_eq_true.1 (h.1 _ hopened)
    obtain ⟨x, hx, hmatch⟩ := List.any_eq_true.1 hsender
    simp only [Bool.and_eq_true, decide_eq_true_eq] at hmatch
    exact ⟨sender, x, hx, hmatch.1.1.1, hmatch.1.1.2, hmatch.1.2, hmatch.2⟩
  | cons y pre ih =>
    rw [hes, List.cons_append, authenticates, Bool.and_eq_true] at h
    have hdone : done ++ y :: pre = (done ++ [y]) ++ pre := by simp
    rw [hdone] at hopened ⊢
    exact ih h.2 rfl hopened

/-- Both ends with the keys the handshake derives from its toy primitives. -/
def ends (_ : Role) : Established :=
  { keys := deriveSessionKeys crypto [1] [1] [] [] [], inbound := .empty, scheduled := false }

/-- The initiator seals a frame; the responder gets the record in two chunks. -/
def twoChunks : List (Role × Event) :=
  [(.initiator, .resume .returned), (.responder, .resume .returned),
    (.initiator, .send ⟨.control, [1, 2]⟩), (.responder, .receive (uint32BE 19 ++ [1])),
    (.responder, .receive ([1, 2] ++ authTag ((List.range 32).map UInt8.ofNat)
      (nonceFor (List.replicate 16 3) 0))),
    (.responder, .resume .returned)]

end Demo

theorem exactDelivery_twoChunks :
    ExactDelivery Demo.crypto Demo.aead Demo.ends Demo.twoChunks ∧
      delivered Demo.crypto Demo.aead .responder (Demo.ends .responder)
        (eventsOf .responder Demo.twoChunks) = [⟨.control, [1, 2]⟩] := by
  have hchecked : Demo.authenticates Demo.ends [] Demo.twoChunks = true := by decide +kernel
  constructor
  · refine exactDelivery (fun r => ?_) ?_
    · cases r <;> decide +kernel
    · intro pre role event post hes key nonce record frameBytes hopened
      exact Demo.authentic_of_authenticates hchecked hes hopened
  · decide +kernel

end Pherry.Channel
