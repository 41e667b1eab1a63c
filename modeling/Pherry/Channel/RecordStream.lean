import Pherry.Channel.SecureChannel
import Pherry.Lib.StreamDecoder

/-!
# One end of an established channel

What an established channel delivers is what a stream decoder makes of the bytes it received, in
whatever chunks they came and whatever its callbacks did in between.
-/

namespace Pherry.Channel

open Lib

/-! ## Reading records off a stream -/

/-- Read one record. -/
def pullRecord (aead : Aead) (opener : Opener) (bytes : Bytes) :
    Pull Opener UInt8 ChannelFrame :=
  if bytes.length < lengthPrefixBytes then .more
  else
    let length := bigEndian (bytes.take lengthPrefixBytes)
    if length > maxRecordBytes then .fail
    else if bytes.length < lengthPrefixBytes + length then .more
    else
      match opener.open aead ((bytes.drop lengthPrefixBytes).take length) with
      | .error _ => .fail
      | .ok (frameBytes, opener') =>
        match decodeFrame frameBytes with
        | .error _ => .fail
        | .ok frame => .item frame opener' (bytes.drop (lengthPrefixBytes + length))

lemma pullRecord_append {aead : Aead} {opener : Opener} {bytes : Bytes}
    (h : pullRecord aead opener bytes ≠ .more) (more : Bytes) :
    pullRecord aead opener (bytes ++ more) = match pullRecord aead opener bytes with
      | .more => .more
      | .fail => .fail
      | .item frame opener' rest => .item frame opener' (rest ++ more) := by
  unfold pullRecord at h ⊢
  by_cases hshort : bytes.length < lengthPrefixBytes
  · rw [if_pos hshort] at h
    exact absurd rfl h
  · have htake : (bytes ++ more).take lengthPrefixBytes = bytes.take lengthPrefixBytes :=
      List.take_append_of_le_length (Nat.le_of_not_lt hshort)
    rw [if_neg hshort] at h ⊢
    rw [if_neg (by rw [List.length_append]; omega), htake]
    simp only at h ⊢
    by_cases hlong : bigEndian (bytes.take lengthPrefixBytes) > maxRecordBytes
    · rw [if_pos hlong, if_pos hlong]
    · rw [if_neg hlong] at h ⊢
      rw [if_neg hlong]
      by_cases hpartial : bytes.length
          < lengthPrefixBytes + bigEndian (bytes.take lengthPrefixBytes)
      · rw [if_pos hpartial] at h
        exact absurd rfl h
      · have hrecord : ((bytes ++ more).drop lengthPrefixBytes).take
              (bigEndian (bytes.take lengthPrefixBytes))
            = (bytes.drop lengthPrefixBytes).take (bigEndian (bytes.take lengthPrefixBytes)) := by
          rw [List.drop_append_of_le_length (by omega), List.take_append_of_le_length]
          rw [List.length_drop]
          omega
        rw [if_neg hpartial, if_neg (by rw [List.length_append]; omega), hrecord,
          List.drop_append_of_le_length (by omega)]
        split
        · rfl
        · split <;> rfl

/-- The records of one direction as a stream decoder. -/
def recordDecoder (aead : Aead) : Decoder Opener UInt8 ChannelFrame where
  pull := pullRecord aead
  shrinks := by
    intro opener bytes frame opener' rest h
    unfold pullRecord at h
    simp only at h
    split at h
    · cases h
    · split at h
      · cases h
      · split at h
        · cases h
        · split at h
          · cases h
          · split at h
            · cases h
            · cases h
              simp only [List.length_drop, lengthPrefixBytes] at *
              omega
  item_append := by
    intro opener bytes frame opener' rest h more
    rw [pullRecord_append (by rw [h]; simp), h]
  fail_append := by
    intro opener bytes h more
    rw [pullRecord_append (by rw [h]; simp), h]

/-! ## The record loop reads the stream -/

namespace SecureChannel

variable {crypto : Crypto} {aead : Aead}

/-- Whether a close was the doing of this end: `close` was called, or a callback threw. -/
def isLocal : Option ChannelError → Bool
  | none => true
  | some .callbackThrew => true
  | some _ => false

lemma not_local_of_open {opener : Opener} {record : Bytes}
    {e : ChannelError} (h : opener.open aead record = .error e) : isLocal (some e) = false := by
  unfold Opener.open at h
  split at h
  · cases h
    rfl
  · split at h
    · cases h
      rfl
    · cases h

lemma not_local_of_decode {frameBytes : Bytes} {e : ChannelError}
    (h : decodeFrame frameBytes = .error e) : isLocal (some e) = false := by
  unfold decodeFrame at h
  split at h
  · cases h
    rfl
  · split at h
    · cases h
    · split at h
      · cases h
      · cases h
        rfl

variable (aead) in
/-- One round of the record loop is one pull: it waits, it fails and closes the channel, or it
delivers the frame. -/
lemma pump_pull {s : SecureChannel} {opener : Opener} (hopener : s.opener = some opener) :
    (pullRecord aead opener s.inbound.contents = .more ∧ s.pump aead = (s, [])) ∨
    (pullRecord aead opener s.inbound.contents = .fail ∧ ∃ effects error inbound opener',
      s.pump aead = emit effects ({ s with inbound, opener := opener' }.shutdown (some error)) ∧
        isLocal (some error) = false ∧
        ∀ f ∈ effects, (∃ bytes, f = .taken bytes) ∨
          ∃ key nonce record frameBytes, f = .opened key nonce record frameBytes) ∨
    ∃ frame opener' inbound taken record frameBytes,
      pullRecord aead opener s.inbound.contents = .item frame opener' inbound.contents ∧
      s.pump aead = ({ s with
          inbound
          opener := some opener'
          authenticated := true
          calls := .frame :: s.calls },
        [.taken taken, .opened opener.key opener.nonce record frameBytes, .delivered frame]) ∧
      opener.open aead record = .ok (frameBytes, opener') ∧ decodeFrame frameBytes = .ok frame := by
  have hlength := s.inbound.length_eq
  have hpeek : s.inbound.peekUint32BE = bigEndian (s.inbound.contents.take lengthPrefixBytes) := by
    have hlt := bigEndian_lt (s.inbound.contents.take 4)
    have hpow : 256 ^ (s.inbound.contents.take 4).length ≤ 256 ^ 4 := by
      apply Nat.pow_le_pow_right (by decide)
      rw [List.length_take]
      omega
    rw [ByteQueue.peekUint32BE_eq, Nat.mod_eq_of_lt (by omega)]
    rfl
  unfold pump pullRecord
  rw [hopener, hpeek, hlength]
  simp only
  by_cases hshort : s.inbound.contents.length < lengthPrefixBytes
  · rw [if_pos hshort, if_pos hshort]
    exact .inl ⟨rfl, rfl⟩
  · rw [if_neg hshort, if_neg hshort]
    by_cases hlong : bigEndian (s.inbound.contents.take lengthPrefixBytes) > maxRecordBytes
    · rw [if_pos hlong, if_pos hlong]
      exact .inr (.inl ⟨rfl, [], _, s.inbound, s.opener, rfl, rfl, fun f hf => by cases hf⟩)
    · rw [if_neg hlong, if_neg hlong]
      by_cases hpartial : s.inbound.contents.length
          < lengthPrefixBytes + bigEndian (s.inbound.contents.take lengthPrefixBytes)
      · rw [if_pos hpartial, if_pos hpartial]
        exact .inl ⟨rfl, rfl⟩
      · rw [if_neg hpartial, if_neg hpartial]
        generalize bigEndian (s.inbound.contents.take lengthPrefixBytes) = length at *
        have hrecord : ((s.inbound.take lengthPrefixBytes).2.take length).1
            = (s.inbound.contents.drop lengthPrefixBytes).take length := by
          rw [ByteQueue.take_fst, ByteQueue.contents_take]
          rw [ByteQueue.length_eq, ByteQueue.contents_take, List.length_drop]
          omega
        have hrest : ((s.inbound.take lengthPrefixBytes).2.take length).2.contents
            = s.inbound.contents.drop (lengthPrefixBytes + length) := by
          rw [ByteQueue.contents_take, ByteQueue.contents_take, List.drop_drop]
        rw [hrecord]
        cases hopen : opener.open aead ((s.inbound.contents.drop lengthPrefixBytes).take length) with
        | error e =>
          refine .inr (.inl ⟨rfl, _, e, _, some opener, rfl, ?_, ?_⟩)
          · exact not_local_of_open hopen
          · intro f hf
            exact .inl ⟨_, List.mem_singleton.1 hf⟩
        | ok result =>
          obtain ⟨frameBytes, opener'⟩ := result
          simp only
          cases hframe : decodeFrame frameBytes with
          | error e =>
            refine .inr (.inl ⟨rfl, _, e, _, some opener', rfl, not_local_of_decode hframe, ?_⟩)
            intro f hf
            rcases List.mem_cons.1 hf with htaken | hopened
            · exact .inl ⟨_, htaken⟩
            · exact .inr ⟨_, _, _, _, List.mem_singleton.1 hopened⟩
          | ok frame =>
            exact .inr (.inr ⟨frame, opener', _, _, _, frameBytes, by rw [hrest], rfl, hopen, hframe⟩)

end SecureChannel

/-! ## What a run did -/

/-- A record that was sealed: under which key and nonce, and what it holds. -/
structure Sealing where
  key : Bytes
  nonce : Bytes
  frame : ChannelFrame
  record : Bytes

/-- The records sealed among effects. -/
def sealedIn (effects : List Effect) : List Sealing :=
  effects.filterMap fun
    | .sealed key nonce frame record => some ⟨key, nonce, frame, record⟩
    | _ => none

/-- The frames delivered among effects. -/
def deliveredIn (effects : List Effect) : List ChannelFrame :=
  effects.filterMap fun
    | .delivered frame => some frame
    | _ => none

/-- Whether this end closed the channel of its own. -/
def closedLocally (effects : List Effect) : Bool :=
  effects.any fun
    | .closed error => SecureChannel.isLocal error
    | _ => false

@[simp] lemma sealedIn_append (l m : List Effect) : sealedIn (l ++ m) = sealedIn l ++ sealedIn m :=
  List.filterMap_append

@[simp] lemma deliveredIn_append (l m : List Effect) :
    deliveredIn (l ++ m) = deliveredIn l ++ deliveredIn m := List.filterMap_append

@[simp] lemma closedLocally_append (l m : List Effect) :
    closedLocally (l ++ m) = (closedLocally l || closedLocally m) := List.any_append

/-- What an end brings into the record phase: its session keys, what arrived behind the handshake
message, and whether the constructor's microtask is still to run. -/
structure Established where
  keys : SessionKeys
  inbound : ByteQueue
  scheduled : Bool

section End

variable (crypto : Crypto) (aead : Aead) (role : Role) (e : Established)

/-- The sealer an end starts with. -/
def Established.sealer : Sealer :=
  .new crypto (e.keys.sendKey role) e.keys.sessionId role.sendDirection

/-- The opener an end starts with. -/
def Established.opener : Opener :=
  .new crypto (e.keys.recvKey role) e.keys.sessionId role.recvDirection

/-- The channel of an end whose handshake has completed: `onOpen` is running. -/
def Established.channel : SecureChannel :=
  { role
    scheduled := e.scheduled
    handshake := none
    inbound := e.inbound
    keys := some e.keys
    sealer := some (e.sealer crypto role)
    opener := some (e.opener crypto role)
    isOpen := true
    closed := false
    authenticated := false
    calls := [.opened] }

/-- An end as a machine. -/
def endMachine : Machine SecureChannel Event :=
  ⟨e.channel crypto role, fun s event => (s.react crypto aead event).1⟩

/-- The effects of a run of an end. -/
def endTrace (es : List Event) : List Effect :=
  (endMachine crypto aead role e).outputs (fun s event => (s.react crypto aead event).2) es

/-- The bytes an event carries. -/
def Event.bytes : Event → Bytes
  | receive bytes => bytes
  | _ => []

/-- The bytes an end receives behind the handshake message, in all. -/
def Established.stream (es : List Event) : Bytes := e.inbound.contents ++ es.flatMap Event.bytes

/-- What the stream decodes to. -/
def Established.decoded (es : List Event) : Decoder.Decoded Opener UInt8 ChannelFrame :=
  (recordDecoder aead).decode (e.opener crypto role) (e.stream es)

/-- What an end has sealed, and what it has read of its stream. -/
structure Reading (effects : List Effect) (stream : Bytes) (s : SecureChannel) : Prop where
  calls : ∀ keys, .reply keys ∉ s.calls
  running : s.isOpen = true ∨ s.closed = true
  sealer : ∀ sealer, s.sealer = some sealer → sealer.key = e.keys.sendKey role ∧
    sealer.noncePrefix = (e.sealer crypto role).noncePrefix ∧
      sealer.counter = (sealedIn effects).length
  sealed : ∀ i x, (sealedIn effects)[i]? = some x → x.key = e.keys.sendKey role ∧
    x.nonce = nonceFor (e.sealer crypto role).noncePrefix i
  bound : (sealedIn effects).length ≤ maxSafeInteger + 1
  reads : ∃ opener rest,
    (recordDecoder aead).Reads (e.opener crypto role) stream (deliveredIn effects) opener rest ∧
    (opener.key = e.keys.recvKey role ∧
      opener.noncePrefix = (e.opener crypto role).noncePrefix ∧
        opener.counter = min (deliveredIn effects).length (maxSafeInteger + 1)) ∧
    (s.closed = false ∧ s.opener = some opener ∧ rest = s.inbound.contents ∨
      s.closed = true ∧ s.opener = none ∧
        (pullRecord aead opener rest = .fail ∨ closedLocally effects = true))

/-- The record loop of an end that is in no callback has read all it can. -/
def Waits (s : SecureChannel) : Prop :=
  ∀ opener, s.closed = false → s.opener = some opener → s.calls = [] →
    pullRecord aead opener s.inbound.contents = .more

variable {crypto aead role e} {effects : List Effect} {stream : Bytes} {s : SecureChannel}

open SecureChannel

lemma increment_min (n : ℕ) :
    increment (min n (maxSafeInteger + 1)) = min (n + 1) (maxSafeInteger + 1) := by
  unfold increment
  split <;> omega

lemma quiet_of_reads {fs : List Effect} (h : ∀ f ∈ fs, (∃ bytes, f = .taken bytes) ∨
    ∃ key nonce record frameBytes, f = .opened key nonce record frameBytes) :
    sealedIn fs = [] ∧ deliveredIn fs = [] := by
  induction fs with
  | nil => exact ⟨rfl, rfl⟩
  | cons f fs ih =>
    have hrest := ih fun g hg => h g (List.mem_cons_of_mem _ hg)
    rcases h f List.mem_cons_self with ⟨bytes, rfl⟩ | ⟨key, nonce, record, frameBytes, rfl⟩
    · exact hrest
    · exact hrest

lemma emit_shutdown {fs : List Effect} (hlive : s.closed = false) (error : Option ChannelError) :
    emit fs (s.shutdown error)
      = ({ s with closed := true, isOpen := false, keys := none, sealer := none, opener := none },
          fs ++ [.closed error]) := by
  rw [emit, shutdown, hlive]
  rfl

lemma Reading.fail (h : Reading crypto aead role e effects stream s) (hlive : s.closed = false)
    (fs : List Effect) (hfs : sealedIn fs = [] ∧ deliveredIn fs = []) (error : Option ChannelError)
    (hwhy : (∀ opener, s.opener = some opener → pullRecord aead opener s.inbound.contents = .fail) ∨
      isLocal error = true) (inbound : ByteQueue) (opener' : Option Opener) :
    Reading crypto aead role e
      (effects ++ (emit fs ({ s with inbound, opener := opener' }.shutdown error)).2) stream
      (emit fs ({ s with inbound, opener := opener' }.shutdown error)).1 := by
  have hsealed : sealedIn (effects ++ (fs ++ [.closed error])) = sealedIn effects := by
    rw [sealedIn_append, sealedIn_append, hfs.1]
    exact List.append_nil _
  have hdelivered : deliveredIn (effects ++ (fs ++ [.closed error])) = deliveredIn effects := by
    rw [deliveredIn_append, deliveredIn_append, hfs.2]
    exact List.append_nil _
  rw [emit_shutdown (s := { s with inbound, opener := opener' }) hlive]
  obtain ⟨opener, rest, hreads, hopener, hstate⟩ := h.reads
  refine ⟨h.calls, .inr rfl, (fun _ hs => by cases hs), ?_, ?_, opener, rest, ?_, ?_, .inr ?_⟩
  · rw [hsealed]
    exact h.sealed
  · rw [hsealed]
    exact h.bound
  · rw [hdelivered]
    exact hreads
  · rw [hdelivered]
    exact hopener
  · refine ⟨rfl, rfl, ?_⟩
    rcases hstate with ⟨-, hsome, hrest⟩ | ⟨hclosed, -⟩
    · rcases hwhy with hfail | hlocal
      · left
        rw [hrest]
        exact hfail opener hsome
      · right
        simp [closedLocally, hlocal]
    · rw [hlive] at hclosed
      cases hclosed

lemma Reading.pump (h : Reading crypto aead role e effects stream s) :
    Reading crypto aead role e (effects ++ (s.pump aead).2) stream (s.pump aead).1 ∧
      Waits aead (s.pump aead).1 := by
  obtain ⟨opener, rest, hreads, ⟨hkey, hlabel, hcounter⟩, hstate⟩ := h.reads
  rcases hstate with ⟨hlive, hopener, hrest⟩ | ⟨hclosed, hnone, hwhy⟩
  · rcases pump_pull aead hopener with ⟨hmore, heq⟩ |
      ⟨hfail, fs, error, inbound, opener', heq, hlocal, hfs⟩ |
      ⟨frame, opener', inbound, taken, record, frameBytes, hitem, heq, hopen, hframe⟩
    · rw [heq, List.append_nil]
      refine ⟨h, fun opener₂ _ hsome _ => ?_⟩
      rw [hopener] at hsome
      rw [← Option.some.inj hsome]
      exact hmore
    · rw [heq]
      refine ⟨h.fail hlive _ (quiet_of_reads hfs) (some error) (.inl fun opener₂ hsome => ?_) inbound
        opener', fun opener₂ hstill => ?_⟩
      · rw [hopener] at hsome
        rw [← Option.some.inj hsome]
        exact hfail
      · rw [emit, closed_shutdown] at hstill
        cases hstill
    · rw [heq]
      obtain ⟨-, hkey', hlabel', hcounter'⟩ := Opener.open_eq_ok hopen
      have hsealed : sealedIn (effects ++ [.taken taken,
          .opened opener.key opener.nonce record frameBytes, .delivered frame])
          = sealedIn effects := by
        rw [sealedIn_append]
        exact List.append_nil _
      have hdelivered : deliveredIn (effects ++ [.taken taken,
          .opened opener.key opener.nonce record frameBytes, .delivered frame])
          = deliveredIn effects ++ [frame] := by
        rw [deliveredIn_append]
        rfl
      refine ⟨⟨?_, h.running, ?_, ?_, ?_, opener', inbound.contents, ?_, ?_, .inl ⟨hlive, rfl, rfl⟩⟩,
        fun _ _ _ hcalls => by cases hcalls⟩
      · intro keys hmem
        rcases List.mem_cons.1 hmem with hframe | hcalls
        · cases hframe
        · exact h.calls keys hcalls
      · rw [hsealed]
        exact h.sealer
      · rw [hsealed]
        exact h.sealed
      · rw [hsealed]
        exact h.bound
      · rw [hdelivered]
        refine hreads.snoc ?_
        rw [hrest]
        exact hitem
      · rw [hdelivered, List.length_append, hkey', hlabel', hcounter', hcounter]
        exact ⟨hkey, hlabel, increment_min _⟩
  · have heq : s.pump aead = (s, []) := by
      rw [SecureChannel.pump, hnone]
    rw [heq, List.append_nil]
    refine ⟨h, fun opener₂ hstill => ?_⟩
    rw [hclosed] at hstill
    cases hstill

lemma Reading.shutdown (h : Reading crypto aead role e effects stream s)
    {error : Option ChannelError} (hlocal : isLocal error = true) :
    Reading crypto aead role e (effects ++ (s.shutdown error).2) stream (s.shutdown error).1 ∧
      Waits aead (s.shutdown error).1 := by
  constructor
  · cases hclosed : s.closed with
    | true =>
      rw [shutdown_of_closed hclosed, List.append_nil]
      exact h
    | false => exact h.fail hclosed [] ⟨rfl, rfl⟩ error (.inr hlocal) s.inbound s.opener
  · intro opener hstill
    rw [closed_shutdown] at hstill
    cases hstill

lemma Reading.push (h : Reading crypto aead role e effects stream s) (bytes : Bytes) :
    (s.closed = true → Reading crypto aead role e effects (stream ++ bytes) s) ∧
      (s.closed = false →
        Reading crypto aead role e effects (stream ++ bytes)
          { s with inbound := s.inbound.push bytes }) := by
  obtain ⟨opener, rest, hreads, hopener, hstate⟩ := h.reads
  have hmore := hreads.append bytes
  constructor
  · intro hclosed
    refine ⟨h.calls, h.running, h.sealer, h.sealed, h.bound, opener, rest ++ bytes, hmore, hopener,
      .inr ?_⟩
    rcases hstate with ⟨hlive, -⟩ | ⟨-, hnone, hwhy⟩
    · rw [hclosed] at hlive
      cases hlive
    · refine ⟨hclosed, hnone, hwhy.imp_left fun hfail => ?_⟩
      exact (recordDecoder aead).fail_append hfail bytes
  · intro hlive
    refine ⟨h.calls, h.running, h.sealer, h.sealed, h.bound, opener, rest ++ bytes, hmore, hopener,
      .inl ?_⟩
    rcases hstate with ⟨-, hsome, hrest⟩ | ⟨hclosed, -⟩
    · exact ⟨hlive, hsome, by rw [hrest, ByteQueue.contents_push]⟩
    · rw [hlive] at hclosed
      cases hclosed

lemma Reading.send (h : Reading crypto aead role e effects stream s) (frame : ChannelFrame) :
    Reading crypto aead role e (effects ++ (s.send aead frame).2) stream (s.send aead frame).1 := by
  rcases s.send_eq aead frame with heq | ⟨sealer, sealer', record, ⟨hlive, hsome, hseal⟩, heq⟩
  · rw [heq, List.append_nil]
    exact h
  · rw [heq]
    obtain ⟨hsafe, -, hkey', hlabel', hcounter'⟩ := Sealer.seal_eq_some hseal
    obtain ⟨hkey, hlabel, hcounter⟩ := h.sealer sealer hsome
    have hsealed : sealedIn (effects ++ [.sealed sealer.key sealer.nonce frame record,
        .sent (uint32BE record.length ++ record)])
        = sealedIn effects ++ [⟨sealer.key, sealer.nonce, frame, record⟩] := by
      rw [sealedIn_append]
      rfl
    have hdelivered : deliveredIn (effects ++ [.sealed sealer.key sealer.nonce frame record,
        .sent (uint32BE record.length ++ record)]) = deliveredIn effects := by
      rw [deliveredIn_append]
      exact List.append_nil _
    obtain ⟨opener, rest, hreads, hopener, hstate⟩ := h.reads
    refine ⟨h.calls, h.running, ?_, ?_, ?_, opener, rest, ?_, ?_, ?_⟩
    · intro sealer₂ hsome₂
      obtain rfl := Option.some.inj hsome₂
      rw [hsealed, List.length_append, hkey', hlabel', hcounter', hcounter]
      exact ⟨hkey, hlabel, rfl⟩
    · intro i x hx
      rw [hsealed, List.getElem?_append] at hx
      split at hx
      · exact h.sealed i x hx
      · next hi =>
        have hi' : i = (sealedIn effects).length := by
          have hlt := (List.getElem?_eq_some_iff.1 hx).1
          simp only [List.length_singleton] at hlt
          omega
        rw [hi', Nat.sub_self] at hx
        obtain rfl := Option.some.inj hx
        refine ⟨hkey, ?_⟩
        show nonceFor sealer.noncePrefix sealer.counter = _
        rw [hlabel, hcounter, hi']
    · rw [hsealed, List.length_append, List.length_singleton]
      omega
    · rw [hdelivered]
      exact hreads
    · rw [hdelivered]
      exact hopener
    · rcases hstate with hlive | ⟨hclosed, -⟩
      · exact .inl hlive
      · rw [hlive] at hclosed
        cases hclosed

lemma Reading.pop (h : Reading crypto aead role e effects stream s) {c : Callback}
    {calls : List Callback} (hs : s.calls = c :: calls) :
    Reading crypto aead role e effects stream { s with calls } :=
  ⟨fun keys hmem => h.calls keys (by rw [hs]; exact List.mem_cons_of_mem _ hmem), h.running,
    h.sealer, h.sealed, h.bound, h.reads⟩

lemma Reading.resume (h : Reading crypto aead role e effects stream s) (hwaits : Waits aead s)
    (outcome : Outcome) :
    Reading crypto aead role e (effects ++ (s.resume crypto aead outcome).2) stream
      (s.resume crypto aead outcome).1 ∧ Waits aead (s.resume crypto aead outcome).1 := by
  unfold SecureChannel.resume
  split
  · rw [List.append_nil]
    exact ⟨h, hwaits⟩
  · next keys calls hs =>
    exact absurd (by rw [hs]; exact List.mem_cons_self) (h.calls keys)
  · next calls hs =>
    simp only
    split
    · exact (h.pop hs).pump
    · exact (h.pop hs).shutdown rfl
  · next calls hs =>
    simp only
    split
    · exact (h.pop hs).shutdown rfl
    · exact (h.pop hs).pump

lemma Reading.react (h : Reading crypto aead role e effects stream s) (hwaits : Waits aead s)
    (event : Event) :
    Reading crypto aead role e (effects ++ (s.react crypto aead event).2) (stream ++ event.bytes)
      (s.react crypto aead event).1 ∧ Waits aead (s.react crypto aead event).1 := by
  cases event with
  | microtask =>
    show Reading crypto aead role e (effects ++ s.start.2) (stream ++ []) s.start.1 ∧
      Waits aead s.start.1
    rw [List.append_nil]
    rcases s.start_eq with heq | ⟨fs, heq, hfs⟩
    · rw [heq, List.append_nil]
      exact ⟨h, hwaits⟩
    · rw [heq]
      refine ⟨?_, hwaits⟩
      have hsealed : sealedIn (effects ++ fs) = sealedIn effects := by
        rw [sealedIn_append]
        rcases hfs with rfl | ⟨bytes, rfl⟩ <;> exact List.append_nil _
      have hdelivered : deliveredIn (effects ++ fs) = deliveredIn effects := by
        rw [deliveredIn_append]
        rcases hfs with rfl | ⟨bytes, rfl⟩ <;> exact List.append_nil _
      have hclosed : closedLocally (effects ++ fs) = closedLocally effects := by
        rw [closedLocally_append]
        rcases hfs with rfl | ⟨bytes, rfl⟩ <;> exact Bool.or_false _
      refine ⟨h.calls, h.running, ?_, ?_, ?_, ?_⟩
      · rw [hsealed]
        exact h.sealer
      · rw [hsealed]
        exact h.sealed
      · rw [hsealed]
        exact h.bound
      · rw [hdelivered, hclosed]
        exact h.reads
  | close =>
    show Reading crypto aead role e (effects ++ (s.shutdown none).2) (stream ++ []) _ ∧ _
    rw [List.append_nil]
    exact h.shutdown rfl
  | send frame =>
    show Reading crypto aead role e (effects ++ (s.send aead frame).2) (stream ++ []) _ ∧ _
    rw [List.append_nil]
    refine ⟨h.send frame, ?_⟩
    show Waits aead (s.send aead frame).1
    rcases s.send_eq aead frame with heq | ⟨sealer, sealer', record, -, heq⟩
    · rw [heq]
      exact hwaits
    · rw [heq]
      exact hwaits
  | receive bytes =>
    show Reading crypto aead role e (effects ++ (s.receive crypto aead bytes).2) (stream ++ bytes)
      (s.receive crypto aead bytes).1 ∧ Waits aead (s.receive crypto aead bytes).1
    unfold SecureChannel.receive
    cases hclosed : s.closed with
    | true =>
      rw [if_pos rfl, List.append_nil]
      exact ⟨(h.push bytes).1 hclosed, hwaits⟩
    | false =>
      have hisOpen : s.isOpen = true := h.running.resolve_right (by simp [hclosed])
      rw [if_neg (by simp)]
      unfold drain
      rw [if_pos hisOpen]
      have hpush := (h.push bytes).2 hclosed
      rw [hclosed] at hpush
      exact hpush.pump
  | resume outcome =>
    show Reading crypto aead role e (effects ++ (s.resume crypto aead outcome).2) (stream ++ []) _ ∧ _
    rw [List.append_nil]
    exact h.resume hwaits outcome

end End

end Pherry.Channel
