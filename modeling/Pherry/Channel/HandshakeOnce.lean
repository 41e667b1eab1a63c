import Pherry.Channel.SecureChannel

/-!
# The handshake is consumed once

Over a run, the bytes a channel received are the handshake message it consumed, then the records it
took, then what it has not read. `#completeHandshake` writes the responder's reply before it leaves
the handshake state, so bytes that arrive while that write is running, thirty-two of them, are
consumed as a second handshake message: `handshakeOnce_iff` says that nothing else breaks the law.
-/

namespace Pherry.Channel

open Lib

/-! ## What a run did with its bytes -/

/-- The handshake messages among effects. -/
def consumedIn (effects : List Effect) : List Bytes :=
  effects.filterMap fun
    | .consumed message => some message
    | _ => none

/-- The record bytes among effects. -/
def takenIn (effects : List Effect) : Bytes :=
  effects.flatMap fun
    | .taken bytes => bytes
    | _ => []

@[simp] lemma consumedIn_append (l m : List Effect) :
    consumedIn (l ++ m) = consumedIn l ++ consumedIn m := List.filterMap_append

@[simp] lemma takenIn_append (l m : List Effect) :
    takenIn (l ++ m) = takenIn l ++ takenIn m := List.flatMap_append

/-- The bytes an event adds to the inbound queue. -/
def acceptedBytes (s : SecureChannel) : Event → Bytes
  | .receive bytes => if s.closed then [] else bytes
  | _ => []

section Runs

variable (crypto : Crypto) (aead : Aead) (handshake : Handshake)

/-- The effects of a run. -/
def trace (es : List Event) : List Effect :=
  (channelMachine crypto aead handshake).outputs (fun s e => (s.react crypto aead e).2) es

/-- The bytes the channel received before it closed. -/
def received (es : List Event) : Bytes :=
  (channelMachine crypto aead handshake).outputs acceptedBytes es

/-- The handshake message is consumed once, and it is the first thing received; all that follows is
taken as records. -/
def HandshakeOnce (es : List Event) : Prop :=
  (consumedIn (trace crypto aead handshake es) = [] ∧ takenIn (trace crypto aead handshake es) = [] ∧
      received crypto aead handshake es
        = ((channelMachine crypto aead handshake).run es).inbound.contents) ∨
    ∃ message, consumedIn (trace crypto aead handshake es) = [message] ∧
      message.length = handshakeMsgBytes ∧
      received crypto aead handshake es = message ++ takenIn (trace crypto aead handshake es)
        ++ ((channelMachine crypto aead handshake).run es).inbound.contents

end Runs

/-- A chunk completes thirty-two buffered bytes while the responder's reply is being written. -/
def interruptsReply (s : SecureChannel) : Event → Bool
  | .receive bytes =>
    !s.closed && !s.isOpen && (s.calls.any fun c => c matches .reply _)
      && decide (handshakeMsgBytes ≤ s.inbound.length + bytes.length)
  | _ => false

/-! ## The stages of a channel -/

/-- Where a channel is, given what it did so far. -/
inductive Stage (consumed : List Bytes) (taken received : Bytes) (s : SecureChannel) : Prop
  | waiting (hconsumed : consumed = []) (htaken : taken = [])
      (hreceived : received = s.inbound.contents) (hopen : s.isOpen = false)
      (hopener : s.opener = none) (hcalls : s.calls = []) (hhandshake : s.handshake.isSome = true)
      (hfresh : s.authenticated = false)
  | replying (message : Bytes) (keys : SessionKeys) (hconsumed : consumed = [message])
      (hlength : message.length = handshakeMsgBytes) (htaken : taken = [])
      (hreceived : received = message ++ s.inbound.contents) (hopen : s.isOpen = false)
      (hopener : s.opener = none) (hcalls : s.calls = [.reply keys])
      (hfresh : s.authenticated = false)
  | running (message : Bytes) (hconsumed : consumed = [message])
      (hlength : message.length = handshakeMsgBytes)
      (hreceived : received = message ++ taken ++ s.inbound.contents)
      (hopen : s.isOpen = true ∨ s.closed = true) (hcalls : ∀ keys, .reply keys ∉ s.calls)

namespace SecureChannel

variable {crypto : Crypto} {aead : Aead}

lemma consumedIn_shutdown (s : SecureChannel) (error : Option ChannelError) :
    consumedIn (s.shutdown error).2 = [] := by
  rcases s.effects_shutdown error with h | h <;> rw [h] <;> rfl

lemma takenIn_shutdown (s : SecureChannel) (error : Option ChannelError) :
    takenIn (s.shutdown error).2 = [] := by
  rcases s.effects_shutdown error with h | h <;> rw [h] <;> rfl

/-- The record loop consumes no handshake message, and takes what it takes off the front. -/
lemma Pumped.stream {s : SecureChannel} {r : SecureChannel × List Effect} (h : Pumped aead s r) :
    consumedIn r.2 = [] ∧ takenIn r.2 ++ r.1.inbound.contents = s.inbound.contents := by
  cases h with
  | waiting => exact ⟨rfl, rfl⟩
  | tooLong length hopener =>
    rw [consumedIn_shutdown, takenIn_shutdown, inbound_shutdown]
    exact ⟨rfl, rfl⟩
  | failed taken inbound opener opened e htaken hopened =>
    have hnone : consumedIn opened = [] ∧ takenIn opened = [] := by
      rcases hopened with rfl | ⟨o, record, frameBytes, -, -, rfl⟩ <;> exact ⟨rfl, rfl⟩
    have hconsumed := consumedIn_shutdown { s with inbound, opener } (some e)
    have htakenIn := takenIn_shutdown { s with inbound, opener } (some e)
    constructor
    · simp only [emit]
      rw [List.cons_append, ← List.singleton_append, consumedIn_append, consumedIn_append, hnone.1, hconsumed]
      rfl
    · simp only [emit, inbound_shutdown]
      rw [List.cons_append, ← List.singleton_append, takenIn_append, takenIn_append, hnone.2, htakenIn]
      simpa [takenIn] using htaken
  | delivered taken inbound opener opener' record frameBytes frame htaken hopener hopen hframe =>
    exact ⟨rfl, by simpa [takenIn] using htaken⟩

/-- The record loop leaves the calls, or delivers a frame; what was open or closed is still. -/
lemma Pumped.calls {s : SecureChannel} {r : SecureChannel × List Effect} (h : Pumped aead s r) :
    (r.1.calls = s.calls ∨ r.1.calls = .frame :: s.calls) ∧
      (s.isOpen = true ∨ s.closed = true → r.1.isOpen = true ∨ r.1.closed = true) := by
  cases h with
  | waiting => exact ⟨.inl rfl, fun h => h⟩
  | tooLong length hopener => exact ⟨.inl (calls_shutdown _ _), fun _ => .inr (closed_shutdown _ _)⟩
  | failed taken inbound opener opened e htaken hopened =>
    exact ⟨.inl (calls_shutdown _ _), fun _ => .inr (closed_shutdown _ _)⟩
  | delivered => exact ⟨.inr rfl, fun h => h⟩

lemma Pumped.progress {s : SecureChannel} {r : SecureChannel × List Effect}
    (h : Pumped aead s r) : r.1.closed = true ∨
      (r.1.handshake = s.handshake ∧ r.1.isOpen = s.isOpen ∧ r.1.closed = s.closed) := by
  cases h with
  | waiting => exact .inr ⟨rfl, rfl, rfl⟩
  | tooLong length hopener => exact .inl (closed_shutdown _ _)
  | failed => exact .inl (closed_shutdown _ _)
  | delivered => exact .inr ⟨rfl, rfl, rfl⟩

end SecureChannel

section Steps

variable {crypto : Crypto} {aead : Aead} {consumed : List Bytes} {taken got : Bytes}

open SecureChannel

lemma Stage.pump {s : SecureChannel} {r : SecureChannel × List Effect} (h : Pumped aead s r)
    {message : Bytes} (hlength : message.length = handshakeMsgBytes)
    (hgot : got = message ++ taken ++ s.inbound.contents)
    (hopen : s.isOpen = true ∨ s.closed = true) (hcalls : ∀ keys, .reply keys ∉ s.calls) :
    Stage ([message] ++ consumedIn r.2) (taken ++ takenIn r.2) got r.1 := by
  obtain ⟨hconsumed, htaken⟩ := h.stream
  obtain ⟨hcalls', hopen'⟩ := h.calls
  refine .running message ?_ hlength ?_ (hopen' hopen) fun keys hmem => ?_
  · rw [hconsumed, List.append_nil]
  · rw [hgot, ← htaken]
    simp only [List.append_assoc]
  · rcases hcalls' with hc | hc
    · rw [hc] at hmem
      exact hcalls keys hmem
    · rw [hc] at hmem
      rcases List.mem_cons.1 hmem with hframe | hrest
      · cases hframe
      · exact hcalls keys hrest

variable (taken) in
lemma Stage.shutdown {s : SecureChannel} (error : Option ChannelError) {message : Bytes}
    (hlength : message.length = handshakeMsgBytes)
    (hgot : got = message ++ taken ++ s.inbound.contents) (hcalls : ∀ keys, .reply keys ∉ s.calls) :
    Stage ([message] ++ consumedIn (s.shutdown error).2) (taken ++ takenIn (s.shutdown error).2) got
      (s.shutdown error).1 := by
  refine .running message ?_ hlength ?_ (.inr (closed_shutdown s error)) ?_
  · rw [consumedIn_shutdown, List.append_nil]
  · rw [takenIn_shutdown, List.append_nil, inbound_shutdown]
    exact hgot
  · rw [calls_shutdown]
    exact hcalls

lemma Stage.completeHandshake {s : SecureChannel} {message : Bytes} {q : ByteQueue}
    (hlength : message.length = handshakeMsgBytes) (hopen : s.isOpen = false)
    (hopener : s.opener = none) (hcalls : s.calls = []) (hhandshake : s.handshake.isSome = true)
    (hfresh : s.authenticated = false) :
    Stage (consumedIn ({ s with inbound := q }.completeHandshake crypto aead message).2)
      (takenIn ({ s with inbound := q }.completeHandshake crypto aead message).2)
      (message ++ q.contents) ({ s with inbound := q }.completeHandshake crypto aead message).1 := by
  have hnone : ∀ keys : SessionKeys, Callback.reply keys ∉ ([] : List Callback) :=
    fun keys hmem => by cases hmem
  have hsplit : message ++ q.contents = message ++ [] ++ q.contents := by rw [List.append_nil]
  obtain ⟨handshake, hsome⟩ := Option.isSome_iff_exists.1 hhandshake
  rcases completeHandshake_eq crypto aead (s := { s with inbound := q }) hsome
    message with ⟨e, heq⟩ | ⟨keys, wiped, heq⟩ | ⟨keys, wiped, heq⟩
  · rw [heq]
    have hclosed := Stage.shutdown [] (s := { s with inbound := q }) (some e) hlength
      hsplit (by rw [hcalls]; exact hnone)
    simpa [emit, consumedIn, takenIn] using hclosed
  · rw [heq]
    exact .replying message keys rfl hlength rfl rfl hopen hopener (by rw [hcalls]) hfresh
  · rw [heq]
    refine .running message rfl hlength hsplit (.inl rfl) fun keys' hmem => ?_
    rw [establish, hcalls] at hmem
    simp at hmem

/-- A step that touches neither the bytes nor the progress of a channel leaves its stage. -/
lemma Stage.still {s s' : SecureChannel} (h : Stage consumed taken got s)
    (hinbound : s'.inbound = s.inbound) (hisOpen : s'.isOpen = s.isOpen)
    (hclosed : s'.closed = s.closed) (hopener : s'.opener = s.opener) (hcalls : s'.calls = s.calls)
    (hhandshake : s'.handshake = s.handshake) (hauth : s'.authenticated = s.authenticated) :
    Stage consumed taken got s' := by
  cases h with
  | waiting hconsumed htaken hgot hopen hopener' hcalls' hsome hfresh =>
    refine .waiting hconsumed htaken ?_ ?_ ?_ ?_ ?_ ?_
    · rw [hinbound]; exact hgot
    · rw [hisOpen]; exact hopen
    · rw [hopener]; exact hopener'
    · rw [hcalls]; exact hcalls'
    · rw [hhandshake]; exact hsome
    · rw [hauth]; exact hfresh
  | replying message keys hconsumed hlength htaken hgot hopen hopener' hcalls' hfresh =>
    refine .replying message keys hconsumed hlength htaken ?_ ?_ ?_ ?_ ?_
    · rw [hinbound]; exact hgot
    · rw [hisOpen]; exact hopen
    · rw [hopener]; exact hopener'
    · rw [hcalls]; exact hcalls'
    · rw [hauth]; exact hfresh
  | running message hconsumed hlength hgot hopen hcalls' =>
    refine .running message hconsumed hlength ?_ ?_ ?_
    · rw [hinbound]; exact hgot
    · rw [hisOpen, hclosed]; exact hopen
    · rw [hcalls]; exact hcalls'

lemma Stage.shutdown_step {s : SecureChannel} (h : Stage consumed taken got s)
    (error : Option ChannelError) :
    Stage (consumed ++ consumedIn (s.shutdown error).2) (taken ++ takenIn (s.shutdown error).2)
      (got ++ []) (s.shutdown error).1 := by
  rw [List.append_nil]
  cases h with
  | waiting hconsumed htaken hgot hopen hopener hcalls hhandshake hfresh =>
    rw [consumedIn_shutdown, takenIn_shutdown, List.append_nil, List.append_nil]
    refine .waiting hconsumed htaken ?_ ?_ ?_ ?_ ?_ ?_
    · rw [inbound_shutdown]; exact hgot
    · unfold SecureChannel.shutdown
      split
      · exact hopen
      · rfl
    · unfold SecureChannel.shutdown
      split
      · exact hopener
      · rfl
    · rw [calls_shutdown]; exact hcalls
    · unfold SecureChannel.shutdown
      split <;> exact hhandshake
    · unfold SecureChannel.shutdown
      split <;> exact hfresh
  | replying message keys hconsumed hlength htaken hgot hopen hopener hcalls hfresh =>
    rw [consumedIn_shutdown, takenIn_shutdown, List.append_nil, List.append_nil]
    refine .replying message keys hconsumed hlength htaken ?_ ?_ ?_ ?_ ?_
    · rw [inbound_shutdown]; exact hgot
    · unfold SecureChannel.shutdown
      split
      · exact hopen
      · rfl
    · unfold SecureChannel.shutdown
      split
      · exact hopener
      · rfl
    · rw [calls_shutdown]; exact hcalls
    · unfold SecureChannel.shutdown
      split <;> exact hfresh
  | running message hconsumed hlength hgot hopen hcalls =>
    rw [hconsumed]
    exact Stage.shutdown _ error hlength hgot hcalls

lemma Stage.receive {s : SecureChannel} (h : Stage consumed taken got s) {bytes : Bytes}
    (he : interruptsReply s (.receive bytes) = false) :
    Stage (consumed ++ consumedIn (s.receive crypto aead bytes).2)
      (taken ++ takenIn (s.receive crypto aead bytes).2) (got ++ acceptedBytes s (.receive bytes))
      (s.receive crypto aead bytes).1 := by
  have hpush := s.inbound.contents_push bytes
  have haccepted : acceptedBytes s (.receive bytes) = if s.closed then [] else bytes := rfl
  rw [haccepted]
  unfold SecureChannel.receive
  by_cases hclosed : s.closed = true
  · rw [if_pos hclosed, if_pos hclosed]
    simpa [consumedIn, takenIn] using h
  · rw [if_neg hclosed, if_neg hclosed]
    unfold drain
    cases h with
    | waiting hconsumed htaken hgot hopen hopener hcalls hhandshake hfresh =>
      rw [if_neg (by simp [hopen]), hconsumed, htaken, hgot, List.nil_append, List.nil_append,
        ← hpush]
      split
      · exact .waiting rfl rfl rfl hopen hopener hcalls hhandshake hfresh
      · next hlong =>
        have hlong : handshakeMsgBytes ≤ (s.inbound.push bytes).length := Nat.le_of_not_lt hlong
        have hmessage : ((s.inbound.push bytes).take handshakeMsgBytes).1
            = (s.inbound.push bytes).contents.take handshakeMsgBytes := ByteQueue.take_fst hlong
        have hlength : ((s.inbound.push bytes).take handshakeMsgBytes).1.length
            = handshakeMsgBytes := by
          have hcontents := ByteQueue.length_eq (s.inbound.push bytes)
          rw [hmessage, List.length_take]
          omega
        have hsplit : (s.inbound.push bytes).contents
            = ((s.inbound.push bytes).take handshakeMsgBytes).1
              ++ ((s.inbound.push bytes).take handshakeMsgBytes).2.contents := by
          rw [hmessage, ByteQueue.contents_take, List.take_append_drop]
        rw [hsplit]
        exact Stage.completeHandshake hlength hopen hopener hcalls hhandshake hfresh
    | replying message keys hconsumed hlength htaken hgot hopen hopener hcalls hfresh =>
      -- the condition says that fewer than thirty-two bytes are buffered
      have hshort : (s.inbound.push bytes).length < handshakeMsgBytes := by
        rw [ByteQueue.length_eq, hpush, List.length_append, ← ByteQueue.length_eq]
        simpa [interruptsReply, hclosed, hopen, hcalls] using he
      rw [if_neg (by simp [hopen]), if_pos hshort]
      refine .replying message keys ?_ hlength ?_ ?_ hopen hopener hcalls hfresh
      · rw [hconsumed]; rfl
      · rw [htaken]; rfl
      · rw [hgot, hpush, List.append_assoc]
    | running message hconsumed hlength hgot hopen hcalls =>
      have hisOpen : s.isOpen = true := hopen.resolve_right hclosed
      rw [if_pos hisOpen, hconsumed]
      refine Stage.pump (pumped _) hlength ?_ hopen hcalls
      rw [hgot, hpush, List.append_assoc]

lemma Stage.of_call {s : SecureChannel} (h : Stage consumed taken got s) {c : Callback}
    {calls : List Callback} (hs : s.calls = c :: calls) (hc : ∀ keys, c ≠ .reply keys) :
    ∃ message, consumed = [message] ∧ message.length = handshakeMsgBytes ∧
      got = message ++ taken ++ s.inbound.contents ∧ (s.isOpen = true ∨ s.closed = true) ∧
        ∀ keys, .reply keys ∉ calls := by
  cases h with
  | waiting _ _ _ _ _ hcalls _ _ =>
    rw [hcalls] at hs
    cases hs
  | replying _ keys _ _ _ _ _ _ hcalls _ =>
    rw [hcalls] at hs
    exact absurd (List.cons.inj hs).1.symm (hc keys)
  | running message hconsumed hlength hgot hopen hcalls =>
    refine ⟨message, hconsumed, hlength, hgot, hopen, fun keys hmem => hcalls keys ?_⟩
    rw [hs]
    exact List.mem_cons_of_mem _ hmem

lemma Stage.resume {s : SecureChannel} (h : Stage consumed taken got s) (outcome : Outcome) :
    Stage (consumed ++ consumedIn (s.resume crypto aead outcome).2)
      (taken ++ takenIn (s.resume crypto aead outcome).2) (got ++ [])
      (s.resume crypto aead outcome).1 := by
  rw [List.append_nil]
  unfold SecureChannel.resume
  split
  · simpa [consumedIn, takenIn] using h
  · next keys calls hs =>
    cases h with
    | waiting _ _ _ _ _ hcalls _ _ =>
      rw [hcalls] at hs
      cases hs
    | replying message keys' hconsumed hlength htaken hgot hopen hopener hcalls _ =>
      obtain ⟨-, rfl⟩ : _ ∧ calls = [] := by simpa [hs] using hcalls
      have hsplit : got = message ++ taken ++ s.inbound.contents := by
        rw [hgot, htaken, List.append_nil]
      have hnone : ∀ keys : SessionKeys, Callback.reply keys ∉ ([] : List Callback) :=
        fun keys hmem => by cases hmem
      simp only
      split
      · rw [hconsumed]
        refine .running message rfl hlength ?_ (.inl rfl) fun keys hmem => ?_
        · rw [hsplit]
          simp [takenIn, establish]
        · simp [establish] at hmem
      · rw [hconsumed]
        exact Stage.shutdown _ _ hlength hsplit hnone
    | running message hconsumed hlength hgot hopen hcalls =>
      exact absurd (by rw [hs]; exact List.mem_cons_self) (hcalls keys)
  · next calls hs =>
    obtain ⟨message, hconsumed, hlength, hgot, hopen, hcalls⟩ :=
      h.of_call hs fun keys hc => by cases hc
    rw [hconsumed]
    simp only
    split
    · exact Stage.pump (pumped _) hlength hgot hopen hcalls
    · exact Stage.shutdown _ _ hlength hgot hcalls
  · next calls hs =>
    obtain ⟨message, hconsumed, hlength, hgot, hopen, hcalls⟩ :=
      h.of_call hs fun keys hc => by cases hc
    rw [hconsumed]
    simp only
    split
    · exact Stage.shutdown _ _ hlength hgot hcalls
    · exact Stage.pump (pumped _) hlength hgot hopen hcalls

lemma Stage.react {s : SecureChannel} (h : Stage consumed taken got s) {e : Event}
    (he : interruptsReply s e = false) :
    Stage (consumed ++ consumedIn (s.react crypto aead e).2)
      (taken ++ takenIn (s.react crypto aead e).2) (got ++ acceptedBytes s e)
      (s.react crypto aead e).1 := by
  cases e with
  | microtask =>
    have heffects : consumedIn s.start.2 = [] ∧ takenIn s.start.2 = [] := by
      unfold start
      split
      · split
        · split <;> exact ⟨rfl, rfl⟩
        · exact ⟨rfl, rfl⟩
      · exact ⟨rfl, rfl⟩
    show Stage (consumed ++ consumedIn s.start.2) (taken ++ takenIn s.start.2) (got ++ []) s.start.1
    rw [heffects.1, heffects.2, List.append_nil, List.append_nil, List.append_nil]
    unfold start
    split
    · exact h.still rfl rfl rfl rfl rfl rfl rfl
    · exact h
  | send frame =>
    rcases s.send_eq aead frame with heq | ⟨sealer, sealer', record, -, heq⟩
    · show Stage (consumed ++ consumedIn (s.send aead frame).2)
        (taken ++ takenIn (s.send aead frame).2) (got ++ []) (s.send aead frame).1
      rw [heq]
      simpa [consumedIn, takenIn] using h
    · show Stage (consumed ++ consumedIn (s.send aead frame).2)
        (taken ++ takenIn (s.send aead frame).2) (got ++ []) (s.send aead frame).1
      rw [heq]
      have hstill : Stage consumed taken got { s with sealer := some sealer' } :=
        h.still rfl rfl rfl rfl rfl rfl rfl
      simpa [consumedIn, takenIn] using hstill
  | close => exact h.shutdown_step none
  | receive bytes => exact h.receive he
  | resume outcome => exact h.resume outcome

lemma Stage.once {s : SecureChannel} (h : Stage consumed taken got s) :
    (consumed = [] ∧ taken = [] ∧ got = s.inbound.contents) ∨
      ∃ message, consumed = [message] ∧ message.length = handshakeMsgBytes ∧
        got = message ++ taken ++ s.inbound.contents := by
  cases h with
  | waiting hconsumed htaken hgot _ _ _ _ _ => exact .inl ⟨hconsumed, htaken, hgot⟩
  | replying message keys hconsumed hlength htaken hgot _ _ _ _ =>
    refine .inr ⟨message, hconsumed, hlength, ?_⟩
    rw [hgot, htaken, List.append_nil]
  | running message hconsumed hlength hgot _ _ => exact .inr ⟨message, hconsumed, hlength, hgot⟩

/-! ## Interrupting the reply -/

/-- What holds on every run: a reply is written only after a message was consumed, and the
handshake is there until the channel opens or closes. -/
structure Replying (consumed : List Bytes) (s : SecureChannel) : Prop where
  consumed : ∀ keys, .reply keys ∈ s.calls → consumed ≠ []
  handshake : s.isOpen = false → s.closed = false → s.handshake.isSome = true

lemma Replying.of_closed {s : SecureChannel} (hcalls : ∀ keys, .reply keys ∈ s.calls → consumed ≠ [])
    (hclosed : s.closed = true) : Replying consumed s :=
  ⟨hcalls, fun _ hlive => by rw [hclosed] at hlive; cases hlive⟩

lemma Replying.shutdown {s : SecureChannel} (h : ∀ keys, .reply keys ∈ s.calls → consumed ≠ [])
    (error : Option ChannelError) : Replying consumed (s.shutdown error).1 :=
  .of_closed (by rw [calls_shutdown]; exact h) (closed_shutdown s error)

lemma Replying.pump {s : SecureChannel} (h : Replying consumed s)
    {r : SecureChannel × List Effect} (hr : Pumped aead s r) : Replying consumed r.1 := by
  have hcalls : ∀ keys, .reply keys ∈ r.1.calls → consumed ≠ [] := by
    intro keys hmem
    rcases hr.calls.1 with hc | hc
    · rw [hc] at hmem
      exact h.consumed keys hmem
    · rw [hc] at hmem
      rcases List.mem_cons.1 hmem with hframe | hrest
      · cases hframe
      · exact h.consumed keys hrest
  rcases hr.progress with hclosed | ⟨hhandshake, hisOpen, hclosed⟩
  · exact .of_closed hcalls hclosed
  · refine ⟨hcalls, ?_⟩
    rw [hhandshake, hisOpen, hclosed]
    exact h.handshake

lemma Replying.mono {s : SecureChannel} (h : Replying consumed s) (more : List Bytes) :
    Replying (consumed ++ more) s :=
  ⟨fun keys hmem hnil => h.consumed keys hmem (List.append_eq_nil_iff.1 hnil).1, h.handshake⟩

lemma Replying.receive {s : SecureChannel} (h : Replying consumed s) (bytes : Bytes) :
    Replying (consumed ++ consumedIn (s.receive crypto aead bytes).2)
      (s.receive crypto aead bytes).1 := by
  unfold SecureChannel.receive
  split
  · exact h.mono _
  · next hlive =>
    unfold drain
    split
    · have hpush : Replying consumed { s with inbound := s.inbound.push bytes } :=
        ⟨h.consumed, h.handshake⟩
      exact (hpush.pump (pumped _)).mono _
    · next hnot =>
      have hisOpen : s.isOpen = false := by simpa using hnot
      split
      · exact ⟨(h.mono _).consumed, h.handshake⟩
      · obtain ⟨handshake, hsome⟩ :=
          Option.isSome_iff_exists.1 (h.handshake hisOpen (by simpa using hlive))
        have hconsumes : ∀ (message : Bytes) (rest : List Effect),
            consumed ++ consumedIn (.consumed message :: rest) ≠ [] := by
          intro message rest hnil
          cases (List.append_eq_nil_iff.1 hnil).2
        simp only
        rcases completeHandshake_eq crypto aead
          (s := { s with inbound := ((s.inbound.push bytes).take handshakeMsgBytes).2 }) hsome
          ((s.inbound.push bytes).take handshakeMsgBytes).1 with
            ⟨e, heq⟩ | ⟨keys, wiped, heq⟩ | ⟨keys, wiped, heq⟩
        · rw [heq]
          exact Replying.shutdown (fun _ _ => hconsumes _ _) _
        · rw [heq]
          exact ⟨fun _ _ => hconsumes _ _, fun _ _ => rfl⟩
        · rw [heq]
          exact ⟨fun _ _ => hconsumes _ _, fun hisOpen => by cases hisOpen⟩

lemma Replying.resume {s : SecureChannel} (h : Replying consumed s) (outcome : Outcome) :
    Replying (consumed ++ consumedIn (s.resume crypto aead outcome).2)
      (s.resume crypto aead outcome).1 := by
  unfold SecureChannel.resume
  split
  · exact h.mono _
  · next keys calls hs =>
    have hrest : ∀ keys', .reply keys' ∈ calls → consumed ≠ [] := fun keys' hmem =>
      h.consumed keys' (by rw [hs]; exact List.mem_cons_of_mem _ hmem)
    simp only
    split
    · refine Replying.mono ⟨fun keys' hmem => ?_, fun hisOpen => by cases hisOpen⟩ _
      rcases List.mem_cons.1 hmem with hopened | hmem
      · cases hopened
      · exact hrest keys' hmem
    · exact (Replying.shutdown hrest _).mono _
  · next calls hs =>
    have hrest : Replying consumed { s with calls } :=
      ⟨fun keys hmem => h.consumed keys (by rw [hs]; exact List.mem_cons_of_mem _ hmem),
        h.handshake⟩
    simp only
    split
    · exact (hrest.pump (pumped _)).mono _
    · exact (Replying.shutdown hrest.consumed _).mono _
  · next calls hs =>
    have hrest : Replying consumed { s with calls } :=
      ⟨fun keys hmem => h.consumed keys (by rw [hs]; exact List.mem_cons_of_mem _ hmem),
        h.handshake⟩
    simp only
    split
    · exact (Replying.shutdown hrest.consumed _).mono _
    · exact (hrest.pump (pumped _)).mono _

lemma Replying.react {s : SecureChannel} (h : Replying consumed s) (e : Event) :
    Replying (consumed ++ consumedIn (s.react crypto aead e).2) (s.react crypto aead e).1 := by
  cases e with
  | microtask =>
    show Replying (consumed ++ consumedIn s.start.2) s.start.1
    unfold start
    split
    · exact ⟨(h.mono _).consumed, h.handshake⟩
    · exact h.mono _
  | receive bytes => exact h.receive bytes
  | send frame =>
    show Replying (consumed ++ consumedIn (s.send aead frame).2) (s.send aead frame).1
    rcases s.send_eq aead frame with heq | ⟨sealer, sealer', record, -, heq⟩
    · rw [heq]
      exact h.mono _
    · rw [heq]
      exact ⟨(h.mono _).consumed, h.handshake⟩
  | close => exact (Replying.shutdown h.consumed none).mono _
  | resume outcome => exact h.resume outcome

variable (crypto aead) in
lemma Replying.interrupted {s : SecureChannel} (h : Replying consumed s) {e : Event}
    (he : interruptsReply s e = true) :
    consumed ≠ [] ∧ consumedIn (s.react crypto aead e).2 ≠ [] := by
  cases e with
  | receive bytes =>
    simp only [interruptsReply, Bool.and_eq_true, Bool.not_eq_true', decide_eq_true_eq] at he
    obtain ⟨⟨⟨hlive, hisOpen⟩, hreply⟩, hlong⟩ := he
    constructor
    · obtain ⟨c, hmem, hc⟩ := List.any_eq_true.1 hreply
      cases c with
      | reply keys => exact h.consumed keys hmem
      | opened => cases hc
      | frame => cases hc
    · have hlength : (s.inbound.push bytes).length = s.inbound.length + bytes.length := by
        rw [ByteQueue.length_eq, ByteQueue.contents_push, List.length_append, ByteQueue.length_eq]
      obtain ⟨handshake, hsome⟩ := Option.isSome_iff_exists.1 (h.handshake hisOpen hlive)
      show consumedIn (s.receive crypto aead bytes).2 ≠ []
      unfold SecureChannel.receive
      rw [if_neg (by simp [hlive])]
      unfold drain
      rw [if_neg (by simp [hisOpen]), if_neg (by rw [hlength]; omega)]
      simp only
      rcases completeHandshake_eq crypto aead
        (s := { s with inbound := ((s.inbound.push bytes).take handshakeMsgBytes).2 }) hsome
        ((s.inbound.push bytes).take handshakeMsgBytes).1 with
          ⟨e, heq⟩ | ⟨keys, wiped, heq⟩ | ⟨keys, wiped, heq⟩ <;>
      · rw [heq]
        exact List.cons_ne_nil _ _
  | microtask => cases he
  | send frame => cases he
  | close => cases he
  | resume outcome => cases he

end Steps

section Theorem

variable (crypto : Crypto) (aead : Aead) (handshake : Handshake)

lemma stage_of_meets {es : List Event}
    (h : (channelMachine crypto aead handshake).Meets (fun s e => interruptsReply s e = false) es) :
    Stage (consumedIn (trace crypto aead handshake es)) (takenIn (trace crypto aead handshake es))
      (received crypto aead handshake es) ((channelMachine crypto aead handshake).run es) := by
  refine (channelMachine crypto aead handshake).history_invariant_of_meets
    (p := fun es s => Stage (consumedIn (trace crypto aead handshake es))
      (takenIn (trace crypto aead handshake es)) (received crypto aead handshake es) s)
    ?_ (fun es e he ih => ?_) h
  · exact .waiting rfl rfl rfl rfl rfl rfl rfl rfl
  · rw [trace, received, Machine.outputs_snoc, Machine.outputs_snoc, consumedIn_append, takenIn_append]
    exact ih.react he

lemma replying_run (es : List Event) : Replying (consumedIn (trace crypto aead handshake es))
    ((channelMachine crypto aead handshake).run es) := by
  refine (channelMachine crypto aead handshake).history_invariant
    (p := fun es s => Replying (consumedIn (trace crypto aead handshake es)) s)
    ⟨(fun keys hmem => by cases hmem), fun _ _ => rfl⟩ (fun es e ih => ?_) es
  rw [trace, Machine.outputs_snoc, consumedIn_append]
  exact ih.react e

/-- **The handshake is consumed once**, in exactly the runs in which no chunk completes thirty-two
buffered bytes while the responder's reply is being written. -/
theorem handshakeOnce_iff (es : List Event) :
    HandshakeOnce crypto aead handshake es ↔
      (channelMachine crypto aead handshake).Meets (fun s e => interruptsReply s e = false) es := by
  constructor
  · intro honce pre e post hes
    by_contra he
    obtain ⟨hbefore, hnow⟩ := (replying_run crypto aead handshake pre).interrupted crypto aead
      (by simpa using he)
    -- the run consumed a message before the step and another one in it
    have hlength : 2 ≤ (consumedIn (trace crypto aead handshake es)).length := by
      have hone := List.length_pos_iff.2 hbefore
      have htwo := List.length_pos_iff.2 hnow
      rw [hes, show pre ++ e :: post = (pre ++ [e]) ++ post by simp, trace, Machine.outputs_append,
        Machine.outputs_snoc, consumedIn_append, consumedIn_append, List.length_append,
        List.length_append]
      exact Nat.le_add_right_of_le (Nat.add_le_add hone htwo)
    rcases honce with ⟨hnone, -⟩ | ⟨message, hone, -⟩
    · rw [hnone] at hlength
      cases hlength
    · rw [hone] at hlength
      simp at hlength
  · intro h
    exact (stage_of_meets crypto aead handshake h).once

end Theorem

/-! ## A channel with toy primitives

Every shared secret is one byte, the key material counts up, and a tag spells the record counter
and the key.
-/

namespace Demo

def crypto : Crypto :=
  { getPublicKey := fun _ => Bytes32.repeat 9
    getSharedSecret := fun _ _ => some [1]
    hkdf := fun _ _ _ n => (List.range n).map UInt8.ofNat
    hmac := fun _ _ => List.replicate 32 0
    sha256 := fun _ => List.replicate 32 3 }

def authTag (key nonce : Bytes) : Bytes :=
  (nonce.drop noncePrefixBytes ++ key ++ List.replicate tagBytes 0).take tagBytes

lemma length_authTag (key nonce : Bytes) : (authTag key nonce).length = tagBytes := by
  simp only [authTag, List.length_take, List.length_append, List.length_replicate]
  omega

def aead : Aead where
  encrypt key nonce plaintext := plaintext ++ authTag key nonce
  decrypt key nonce record :=
    if record.length < tagBytes then none
    else if record.drop (record.length - tagBytes) = authTag key nonce then
      some (record.take (record.length - tagBytes))
    else none
  length_encrypt key nonce plaintext := by rw [List.length_append, length_authTag]
  decrypt_short key nonce record h := if_pos h

/-- A responder. -/
def responder : Handshake := responderHandshake crypto [7] [8] []

/-- The initiator's message arrives, and while the reply is being written, a record of 28 bytes. -/
def interruptedReply : List Event :=
  [.receive (List.replicate 32 9), .receive (uint32BE 28 ++ List.replicate 28 5)]

end Demo

/-- The record is consumed as a handshake message. -/
theorem not_handshakeOnce_interruptedReply :
    ¬ HandshakeOnce Demo.crypto Demo.aead Demo.responder Demo.interruptedReply := by
  have htwice : consumedIn (trace Demo.crypto Demo.aead Demo.responder Demo.interruptedReply)
      = [List.replicate 32 9, uint32BE 28 ++ List.replicate 28 5] := by
    decide +kernel
  rintro (⟨hnone, -⟩ | ⟨message, hone, -⟩)
  · rw [htwice] at hnone
    cases hnone
  · rw [htwice] at hone
    cases hone

end Pherry.Channel
