import Pherry.Ios.ChannelAgreement
import Pherry.Lib.InSequence

/-!
# The order of the phone's writes

A channel of the phone and its transport. The actor of the channel is free while a write is awaited, and the
transport is no actor: of the writes that wait it takes any.
-/

namespace Pherry.Ios

open Lib Channel

/-! ## A channel and its writes -/

/-- A write a channel awaits: the message of an initiator, which `start` sends, or that of a responder, which
`ingest` sends, or a record, with the counter it was sealed with. -/
inductive Write
  | hello (message : Bytes)
  | reply (message : Bytes)
  | record (counter : ℕ) (bytes : Bytes)

/-- A channel, the writes that wait, in the order they were made, and those the transport has taken.
`pumping` is whether the pump awaits its reply. -/
structure Outgoing where
  channel : SecureChannel
  pumping : Bool
  pending : List Write
  wire : List Write
  broken : Bool

/-- What can happen: a call, a chunk that the pump takes, or the transport taking the write at a place, or
throwing. -/
inductive OutgoingEvent
  | send (frame : ChannelFrame)
  | receive (chunk : Bytes)
  | close
  | accept (i : ℕ)
  | refuse (i : ℕ)

namespace Outgoing

variable (crypto : Crypto) (aead : Aead)

/-- `send` up to its await. -/
def send (s : Outgoing) (frame : ChannelFrame) : Outgoing :=
  match s.channel.sealer, s.channel.sealFrame aead frame with
  | some sealer, .ok (channel, bytes) =>
    { s with channel, pending := s.pending ++ [.record sealer.counter bytes] }
  | _, _ => s

/-- `ingest`, up to its await if it has one. The pump takes no chunk while it awaits. -/
def receive (s : Outgoing) (chunk : Bytes) : Outgoing :=
  if s.pumping || s.channel.closed then s
  else
    let r := s.channel.beginIngest crypto chunk
    match r.2.2 with
    | some message => { s with channel := r.1, pumping := true, pending := s.pending ++ [.reply message] }
    | none => { s with channel := (r.1.endIngest aead).1 }

/-- The transport takes a write, and what awaited it goes on. -/
def accept (s : Outgoing) (i : ℕ) : Outgoing :=
  match s.pending[i]? with
  | none => s
  | some w =>
    if s.broken then s
    else
      let s := { s with pending := s.pending.eraseIdx i, wire := s.wire ++ [w] }
      match w with
      | .reply _ => { s with pumping := false, channel := (s.channel.endIngest aead).1 }
      | _ => s

/-- The transport throws, and takes no write any more. `start` and `ingest` shut the channel down then, and
`send` throws in turn. -/
def refuse (s : Outgoing) (i : ℕ) : Outgoing :=
  match s.pending[i]? with
  | none => s
  | some w =>
    let s := { s with pending := s.pending.eraseIdx i, broken := true }
    match w with
    | .hello _ => { s with channel := (s.channel.shutdown (some .closed)).1 }
    | .reply _ => { s with pumping := false, channel := (s.channel.shutdown (some .closed)).1 }
    | .record _ _ => s

/-- One event. -/
def step (s : Outgoing) : OutgoingEvent → Outgoing
  | .send frame => s.send aead frame
  | .receive chunk => s.receive crypto aead chunk
  | .close => { s with channel := (s.channel.shutdown none).1 }
  | .accept i => s.accept aead i
  | .refuse i => s.refuse i

end Outgoing

/-- A channel that `start` has been called on. -/
def outgoingMachine (crypto : Crypto) (aead : Aead) (role : ChannelRole) (ephemeralSecret : Bytes)
    (context : Option Bytes) : Machine Outgoing OutgoingEvent where
  init :=
    let r := (SecureChannel.new crypto role ephemeralSecret context).start
    { channel := r.1
      pumping := false
      pending := r.2.filterMap fun
        | .sent message => some (.hello message)
        | _ => none
      wire := []
      broken := false }
  step := Outgoing.step crypto aead

/-! ## The order -/

/-- A place in the order: the handshake message of a responder, or a record by its counter. -/
inductive Place
  | reply
  | counter (n : ℕ)
deriving DecidableEq

/-- The place of a write. The message of an initiator has none. -/
def Write.place : Write → Option Place
  | hello _ => none
  | reply _ => some .reply
  | record counter _ => some (.counter counter)

/-- The places among writes. -/
def places (writes : List Write) : List Place := writes.filterMap Write.place

/-- The order of a role: a responder's handshake message is first, and then come the records by their
counters, which have 64 bits. -/
def ChannelRole.place : ChannelRole → ℕ → Place
  | initiator _, n => .counter (n % 2 ^ 64)
  | responder _, 0 => .reply
  | responder _, n + 1 => .counter (n % 2 ^ 64)

/-- What the transport has taken came in the order of the role. -/
def InOrder (role : ChannelRole) (s : Outgoing) : Prop := InSequence role.place (places s.wire)

/-- An event of the scheduler and the transport: a write that waits is taken or refused. -/
def OutgoingEvent.ofTransport : OutgoingEvent → Prop
  | accept _ => True
  | refuse _ => True
  | _ => False

lemma places_append (l m : List Write) : places (l ++ m) = places l ++ places m := List.filterMap_append

lemma place_succ {role : ChannelRole} {n c : ℕ} (h : role.place n = .counter c) :
    role.place (n + 1) = .counter ((c + 1) % 2 ^ 64) := by
  cases role with
  | initiator pinned =>
    cases h
    rw [ChannelRole.place]
    congr 1
    omega
  | responder secret =>
    cases n with
    | zero => cases h
    | succ n =>
      cases h
      rw [ChannelRole.place]
      congr 1
      omega

lemma place_ne_succ (role : ChannelRole) (n : ℕ) : role.place n ≠ role.place (n + 1) := by
  intro h
  have hnext : ∀ c, role.place n = .counter c → False := by
    intro c hc
    have hsucc := h.symm.trans hc
    rw [place_succ hc] at hsucc
    injection hsucc with heq
    omega
  cases role with
  | initiator pinned => exact hnext _ rfl
  | responder secret =>
    cases n with
    | zero => cases h
    | succ n => exact hnext _ rfl

/-! ## What the channel keeps -/

/-- Two states of a channel with the same role, handshake and sealer. -/
structure SameKeys (c c' : SecureChannel) : Prop where
  role : c'.role = c.role
  handshake : c'.handshake = c.handshake
  sealer : c'.sealer = c.sealer

variable {crypto : Crypto} {aead : Aead} {role : ChannelRole} {ephemeralSecret : Bytes} {context : Option Bytes}

lemma SameKeys.refl (c : SecureChannel) : SameKeys c c := ⟨rfl, rfl, rfl⟩

lemma SameKeys.trans {c c' c'' : SecureChannel} (h : SameKeys c c') (h' : SameKeys c' c'') : SameKeys c c'' :=
  ⟨h'.role.trans h.role, h'.handshake.trans h.handshake, h'.sealer.trans h.sealer⟩

lemma sameKeys_shutdown (c : SecureChannel) (error : Option ChannelError) :
    SameKeys c (c.shutdown error).1 := by
  unfold SecureChannel.shutdown
  split
  · exact .refl c
  · exact ⟨rfl, rfl, rfl⟩

lemma sameKeys_drainLoop (n : ℕ) (c : SecureChannel) : SameKeys c (c.drainLoop aead n).1 := by
  induction n generalizing c with
  | zero => exact .refl c
  | succ n ih =>
    unfold SecureChannel.drainLoop
    split
    · exact .refl c
    dsimp only
    split
    · exact .refl c
    split
    · exact .refl c
    split
    · exact ⟨rfl, rfl, rfl⟩
    split
    · exact ⟨rfl, rfl, rfl⟩
    split
    · exact ⟨rfl, rfl, rfl⟩
    · exact ⟨(ih _).role, (ih _).handshake, (ih _).sealer⟩

variable (aead) in
lemma sameKeys_endIngest (c : SecureChannel) : SameKeys c (c.endIngest aead).1 := by
  unfold SecureChannel.endIngest
  split
  · exact .refl c
  dsimp only
  split
  · exact sameKeys_drainLoop _ c
  · exact (sameKeys_drainLoop _ c).trans (sameKeys_shutdown _ _)

variable (crypto) in
lemma beginIngest_cases (c : SecureChannel) (chunk : Bytes) :
    (SameKeys c (c.beginIngest crypto chunk).1 ∧ (c.beginIngest crypto chunk).2.2 = none) ∨
      ∃ h key sessionId direction, c.handshake = some h ∧
        (c.beginIngest crypto chunk).1.role = c.role ∧ (c.beginIngest crypto chunk).1.handshake = none ∧
        (c.beginIngest crypto chunk).1.sealer = some (.new crypto key sessionId direction) ∧
        (c.beginIngest crypto chunk).2.2 = match c.role with
          | .initiator _ => none
          | .responder _ => some h.message := by
  unfold SecureChannel.beginIngest
  dsimp only
  split
  · exact Or.inl ⟨⟨rfl, rfl, rfl⟩, rfl⟩
  rcases Option.eq_none_or_eq_some c.handshake with hnone | ⟨h, hsome⟩
  · rw [SecureChannel.completeHandshake]
    dsimp only
    rw [hnone]
    exact Or.inl ⟨⟨rfl, hnone.symm, rfl⟩, rfl⟩
  · cases hkeys : h.consume crypto ((c.inboundBuffer ++ chunk).take 32) c.context with
    | error e =>
      rw [completeHandshake_error { c with inboundBuffer := (c.inboundBuffer ++ chunk).drop 32 } hsome hkeys]
      have hsame := sameKeys_shutdown { c with inboundBuffer := (c.inboundBuffer ++ chunk).drop 32 } (some e)
      exact Or.inl ⟨⟨hsame.role, hsame.handshake, hsame.sealer⟩, rfl⟩
    | ok keys =>
      rw [completeHandshake_ok { c with inboundBuffer := (c.inboundBuffer ++ chunk).drop 32 } hsome hkeys]
      exact Or.inr ⟨h, _, _, _, hsome, rfl, rfl, rfl, rfl⟩

lemma sealFrame_ok {c c' : SecureChannel} {frame : ChannelFrame} {bytes : Bytes}
    (h : c.sealFrame aead frame = .ok (c', bytes)) :
    ∃ sealer next, c.sealer = some sealer ∧ c'.sealer = some next ∧
      next.counter = (sealer.counter + 1) % 2 ^ 64 ∧ c'.role = c.role ∧ c'.handshake = c.handshake := by
  unfold SecureChannel.sealFrame at h
  split at h
  · cases h
  split at h
  · next sealer _ hsealer =>
    split at h
    · cases h
    · cases h
      exact ⟨sealer, _, hsealer, rfl, rfl, rfl, rfl⟩
  · cases h

/-! ## One write at a time -/

/-- The guards of `send`: a frame they let through is sealed. -/
def Seals (c : SecureChannel) (frame : ChannelFrame) : Prop :=
  c.closed = false ∧ c.isOpen = true ∧ c.sealer.isSome = true ∧
    1 + frame.payload.length + recordTagBytes ≤ 4 * 1024 * 1024

instance (c : SecureChannel) (frame : ChannelFrame) : Decidable (Seals c frame) :=
  inferInstanceAs (Decidable (_ ∧ _ ∧ _ ∧ _))

/-- No frame is sealed while a record, or the handshake message of a responder, still waits for a transport
that works. -/
def oneInFlight (s : Outgoing) : OutgoingEvent → Prop
  | .send frame => s.broken = false → Seals s.channel frame → places s.pending = []
  | _ => True

/-- The writes of a channel whose transport works: made in the order of the role, and only one of them waits. -/
structure Lined (s : Outgoing) : Prop where
  sequence : InSequence s.channel.role.place (places (s.wire ++ s.pending))
  next : ∀ sealer, s.channel.sealer = some sealer →
    s.channel.role.place (places (s.wire ++ s.pending)).length = .counter sealer.counter
  fresh : s.channel.handshake.isSome = true → places (s.wire ++ s.pending) = [] ∧ s.channel.sealer = none
  alone : (places s.pending).length ≤ 1

/-- The invariant of the runs with one write at a time. -/
structure Sound (role : ChannelRole) (s : Outgoing) : Prop where
  sameRole : s.channel.role = role
  wire : InOrder role s
  lined : s.broken = false → Lined s

variable (aead) in
lemma sealFrame_of_seals {c : SecureChannel} {frame : ChannelFrame} (h : Seals c frame) :
    ∃ c' bytes, c.sealFrame aead frame = .ok (c', bytes) := by
  obtain ⟨hclosed, hopen, hsealer, hfits⟩ := h
  obtain ⟨sealer, hsealer⟩ := Option.isSome_iff_exists.1 hsealer
  rw [SecureChannel.sealFrame, if_neg (by rw [hclosed]; exact Bool.false_ne_true), hopen, hsealer]
  exact ⟨_, _, if_neg (Nat.not_lt_of_le hfits)⟩

lemma seals_of_sealFrame {c c' : SecureChannel} {frame : ChannelFrame} {bytes : Bytes}
    (h : c.sealFrame aead frame = .ok (c', bytes)) : Seals c frame := by
  unfold SecureChannel.sealFrame at h
  split at h
  · cases h
  · next hclosed =>
    split at h
    · next sealer hopen hsealer =>
      split at h
      · cases h
      · next hfits =>
        exact ⟨Bool.eq_false_iff.2 hclosed, hopen, by rw [hsealer]; rfl, Nat.le_of_not_lt hfits⟩
    · cases h

lemma Lined.of_sameKeys {s : Outgoing} {c : SecureChannel} (h : Lined s) (hc : SameKeys s.channel c)
    (pumping : Bool) : Lined { s with channel := c, pumping } := by
  refine ⟨?_, ?_, ?_, h.alone⟩
  · dsimp only
    rw [hc.role]
    exact h.sequence
  · dsimp only
    rw [hc.role, hc.sealer]
    exact h.next
  · dsimp only
    rw [hc.handshake, hc.sealer]
    exact h.fresh

lemma places_take {pending : List Write} {i : ℕ} {w : Write} (hw : pending[i]? = some w)
    (halone : (places pending).length ≤ 1) : places (w :: pending.eraseIdx i) = places pending :=
  filterMap_take hw halone

lemma Lined.send {s : Outgoing} (h : Lined s) {frame : ChannelFrame}
    (halone : Seals s.channel frame → places s.pending = []) : Lined (s.send aead frame) := by
  unfold Outgoing.send
  split
  · next sealer channel bytes hsealer hseal =>
    obtain ⟨sealer', next, hsealer', hnext, hcounter, hrole, hhandshake⟩ := sealFrame_ok hseal
    rw [hsealer] at hsealer'
    cases hsealer'
    have hplace := h.next sealer hsealer
    have hplaces : places (s.wire ++ (s.pending ++ [.record sealer.counter bytes])) =
        places (s.wire ++ s.pending) ++ [.counter sealer.counter] := by
      rw [← List.append_assoc, places_append]
      rfl
    refine ⟨?_, ?_, ?_, ?_⟩ <;> dsimp only
    · rw [hplaces, hrole]
      exact inSequence_snoc.2 ⟨h.sequence, hplace.symm⟩
    · intro sealer' hsealer'
      rw [hnext] at hsealer'
      cases hsealer'
      rw [hplaces, hrole, List.length_append, hcounter]
      exact place_succ hplace
    · intro hsome
      rw [hhandshake] at hsome
      rw [(h.fresh hsome).2] at hsealer
      cases hsealer
    · rw [places_append, halone (seals_of_sealFrame hseal)]
      exact le_rfl
  · exact h

lemma Lined.receive {s : Outgoing} (h : Lined s) (chunk : Bytes) : Lined (s.receive crypto aead chunk) := by
  unfold Outgoing.receive
  split
  · exact h
  dsimp only
  rcases beginIngest_cases crypto s.channel chunk with
    ⟨hsame, hreply⟩ | ⟨hs, key, sessionId, direction, hhandshake, hrole, hnone, hsealer, hreply⟩
  · rw [hreply]
    exact h.of_sameKeys (hsame.trans (sameKeys_endIngest aead _)) s.pumping
  · -- the handshake is complete, and nothing has been sent before
    obtain ⟨hempty, -⟩ := h.fresh (by rw [hhandshake]; rfl)
    have hpending : places s.pending = [] := by
      rw [places_append] at hempty
      exact (List.append_eq_nil_iff.1 hempty).2
    cases hkind : s.channel.role with
    | initiator pinned =>
      rw [hreply, hkind]
      have hend := sameKeys_endIngest aead (s.channel.beginIngest crypto chunk).1
      refine ⟨?_, ?_, ?_, h.alone⟩ <;> dsimp only
      · rw [hempty]
        exact inSequence_nil _
      · intro sealer hsealer'
        rw [hend.sealer, hsealer] at hsealer'
        cases hsealer'
        rw [hempty, hend.role, hrole, hkind]
        rfl
      · rw [hend.handshake, hnone]
        exact fun hsome => nomatch hsome
    | responder secret =>
      rw [hreply, hkind]
      have hplaces : places (s.wire ++ (s.pending ++ [.reply hs.message])) = [.reply] := by
        rw [← List.append_assoc, places_append, hempty]
        rfl
      refine ⟨?_, ?_, ?_, ?_⟩ <;> dsimp only
      · rw [hplaces, hrole, hkind]
        rfl
      · intro sealer hsealer'
        rw [hsealer] at hsealer'
        cases hsealer'
        rw [hplaces, hrole, hkind]
        rfl
      · rw [hnone]
        exact fun hsome => nomatch hsome
      · rw [places_append, hpending]
        exact le_rfl

lemma Lined.accept {s : Outgoing} (h : Lined s) (i : ℕ) : Lined (s.accept aead i) := by
  unfold Outgoing.accept
  split
  · exact h
  · next w hw =>
    split
    · exact h
    have htake := places_take hw h.alone
    have hplaces : places ((s.wire ++ [w]) ++ s.pending.eraseIdx i) = places (s.wire ++ s.pending) := by
      rw [List.append_assoc, places_append, List.singleton_append, htake, places_append]
    have htaken : Lined { s with pending := s.pending.eraseIdx i, wire := s.wire ++ [w] } := by
      refine ⟨?_, ?_, ?_, ?_⟩ <;> dsimp only
      · rw [hplaces]
        exact h.sequence
      · rw [hplaces]
        exact h.next
      · rw [hplaces]
        exact h.fresh
      · have halone := h.alone
        rw [← htake, ← List.singleton_append, places_append, List.length_append] at halone
        exact (Nat.le_add_left _ _).trans halone
    dsimp only
    split
    · exact htaken.of_sameKeys (sameKeys_endIngest aead _) false
    · exact htaken

variable (crypto aead) in
/-- What the transport has taken does not change without it, and the role never does. -/
lemma frame_step (s : Outgoing) (e : OutgoingEvent) :
    (s.step crypto aead e).channel.role = s.channel.role ∧
      (¬ e.ofTransport → (s.step crypto aead e).wire = s.wire ∧ (s.step crypto aead e).broken = s.broken) := by
  cases e with
  | send frame =>
    rw [Outgoing.step, Outgoing.send]
    split
    · next channel bytes _ hseal =>
      obtain ⟨-, -, -, -, -, hrole, -⟩ := sealFrame_ok hseal
      exact ⟨hrole, fun _ => ⟨rfl, rfl⟩⟩
    · exact ⟨rfl, fun _ => ⟨rfl, rfl⟩⟩
  | receive chunk =>
    rw [Outgoing.step, Outgoing.receive]
    split
    · exact ⟨rfl, fun _ => ⟨rfl, rfl⟩⟩
    have hrole : (s.channel.beginIngest crypto chunk).1.role = s.channel.role := by
      rcases beginIngest_cases crypto s.channel chunk with ⟨hsame, -⟩ | ⟨-, -, -, -, -, hrole, -⟩
      · exact hsame.role
      · exact hrole
    dsimp only
    split
    · exact ⟨hrole, fun _ => ⟨rfl, rfl⟩⟩
    · exact ⟨(sameKeys_endIngest aead _).role.trans hrole, fun _ => ⟨rfl, rfl⟩⟩
  | close => exact ⟨(sameKeys_shutdown _ _).role, fun _ => ⟨rfl, rfl⟩⟩
  | accept i =>
    refine ⟨?_, fun h => absurd trivial h⟩
    rw [Outgoing.step, Outgoing.accept]
    split
    · rfl
    split
    · rfl
    dsimp only
    split
    · exact (sameKeys_endIngest aead _).role
    · rfl
  | refuse i =>
    refine ⟨?_, fun h => absurd trivial h⟩
    rw [Outgoing.step, Outgoing.refuse]
    split
    · rfl
    dsimp only
    split
    · exact (sameKeys_shutdown _ _).role
    · exact (sameKeys_shutdown _ _).role
    · rfl

lemma refuse_cases (s : Outgoing) (i : ℕ) :
    s.refuse i = s ∨ (s.refuse i).broken = true ∧ (s.refuse i).wire = s.wire := by
  unfold Outgoing.refuse
  split
  · exact Or.inl rfl
  · dsimp only
    split
    · exact Or.inr ⟨rfl, rfl⟩
    · exact Or.inr ⟨rfl, rfl⟩
    · exact Or.inr ⟨rfl, rfl⟩

variable (aead) in
lemma accept_cases (s : Outgoing) (i : ℕ) :
    s.accept aead i = s ∨
      ∃ w, s.pending[i]? = some w ∧ s.broken = false ∧ (s.accept aead i).broken = false ∧
        (s.accept aead i).wire = s.wire ++ [w] := by
  unfold Outgoing.accept
  split
  · exact Or.inl rfl
  · next w hw =>
    split
    · exact Or.inl rfl
    · next hbroken =>
      have hworks := Bool.eq_false_iff.2 hbroken
      dsimp only
      split
      · exact Or.inr ⟨_, hw, hworks, hworks, rfl⟩
      · exact Or.inr ⟨_, hw, hworks, hworks, rfl⟩

lemma Sound.step {s : Outgoing} (h : Sound role s) {e : OutgoingEvent} (he : oneInFlight s e) :
    Sound role (s.step crypto aead e) := by
  obtain ⟨hrole, hframe⟩ := frame_step crypto aead s e
  have hkept : ∀ s' : Outgoing, s'.wire = s.wire → InOrder role s' := by
    intro s' hwire
    rw [InOrder, hwire]
    exact h.wire
  refine ⟨hrole.trans h.sameRole, ?_, ?_⟩
  · cases e with
    | send frame => exact hkept _ (hframe id).1
    | receive chunk => exact hkept _ (hframe id).1
    | close => exact hkept _ (hframe id).1
    | accept i =>
      rcases accept_cases aead s i with hsame | ⟨w, hw, hworks, -, hwire⟩
      · exact hkept _ (congrArg Outgoing.wire hsame)
      · -- the only write that waits has its place next
        have hlined := h.lined hworks
        have htake := places_take hw hlined.alone
        have hsequence := hlined.sequence
        rw [places_append, ← htake, ← List.singleton_append, places_append, ← List.append_assoc, ← places_append,
          h.sameRole] at hsequence
        rw [InOrder, Outgoing.step, hwire]
        exact hsequence.of_append
    | refuse i =>
      rcases refuse_cases s i with hsame | ⟨-, hwire⟩
      · exact hkept _ (congrArg Outgoing.wire hsame)
      · exact hkept _ hwire
  · intro hworks
    cases e with
    | send frame =>
      rw [(hframe id).2] at hworks
      exact (h.lined hworks).send (he hworks)
    | receive chunk =>
      rw [(hframe id).2] at hworks
      exact (h.lined hworks).receive chunk
    | close => exact (h.lined hworks).of_sameKeys (sameKeys_shutdown _ _) s.pumping
    | accept i =>
      rcases accept_cases aead s i with hsame | ⟨w, hw, hworks', -, hwire⟩
      · rw [Outgoing.step, hsame] at hworks ⊢
        exact h.lined hworks
      · exact (h.lined hworks').accept i
    | refuse i =>
      rcases refuse_cases s i with hsame | ⟨hbroken, -⟩
      · rw [Outgoing.step, hsame] at hworks ⊢
        exact h.lined hworks
      · rw [Outgoing.step, hbroken] at hworks
        cases hworks

/-! ## Every schedule -/

/-- Whatever the transport does at any point of a run, it takes the writes in the order of the role. -/
def Ordered (crypto : Crypto) (aead : Aead) (role : ChannelRole) (ephemeralSecret : Bytes) (context : Option Bytes)
    (es : List OutgoingEvent) : Prop :=
  ∀ pre post ws, es = pre ++ post → (∀ w ∈ ws, OutgoingEvent.ofTransport w) →
    InOrder role ((outgoingMachine crypto aead role ephemeralSecret context).run (pre ++ ws))

lemma sound_init (crypto : Crypto) (aead : Aead) (role : ChannelRole) (ephemeralSecret : Bytes)
    (context : Option Bytes) :
    Sound role (outgoingMachine crypto aead role ephemeralSecret context).init := by
  cases role with
  | initiator pinned =>
    exact ⟨rfl, rfl, fun _ => ⟨rfl, fun _ hsealer => (nomatch hsealer), fun _ => ⟨rfl, rfl⟩, Nat.zero_le _⟩⟩
  | responder secret =>
    exact ⟨rfl, rfl, fun _ => ⟨rfl, fun _ hsealer => (nomatch hsealer), fun _ => ⟨rfl, rfl⟩, Nat.zero_le _⟩⟩

lemma sound_of_meets {es : List OutgoingEvent}
    (hes : (outgoingMachine crypto aead role ephemeralSecret context).Meets oneInFlight es) :
    Sound role ((outgoingMachine crypto aead role ephemeralSecret context).run es) :=
  Machine.invariant_of_meets _ (sound_init crypto aead role ephemeralSecret context)
    (fun _ _ he h => h.step he) hes

lemma meets_append {es ws : List OutgoingEvent}
    (hes : (outgoingMachine crypto aead role ephemeralSecret context).Meets oneInFlight es)
    (hws : ∀ w ∈ ws, OutgoingEvent.ofTransport w) :
    (outgoingMachine crypto aead role ephemeralSecret context).Meets oneInFlight (es ++ ws) := by
  induction ws using List.reverseRecOn with
  | nil => rwa [List.append_nil]
  | append_singleton ws w ih =>
    rw [← List.append_assoc]
    refine (Machine.meets_snoc _).2 ⟨ih fun v hv => hws v (List.mem_append_left _ hv), ?_⟩
    have hw := hws w (List.mem_append_right _ (List.mem_singleton_self w))
    cases w with
    | send frame => exact hw.elim
    | receive chunk => trivial
    | close => trivial
    | accept i => trivial
    | refuse i => trivial

variable (aead) in
lemma Sound.overtakes {s : Outgoing} (h : Sound role s) {frame : ChannelFrame} (hworks : s.broken = false)
    (hseals : Seals s.channel frame) (hpending : places s.pending ≠ []) :
    ¬ InOrder role ((s.send aead frame).accept aead s.pending.length) := by
  have hlined := h.lined hworks
  obtain ⟨channel, bytes, hseal⟩ := sealFrame_of_seals aead hseals
  obtain ⟨sealer, hsealer⟩ := Option.isSome_iff_exists.1 hseals.2.2.1
  have hsend : s.send aead frame =
      { s with channel, pending := s.pending ++ [.record sealer.counter bytes] } := by
    rw [Outgoing.send, hsealer, hseal]
  have hwire : ((s.send aead frame).accept aead s.pending.length).wire =
      s.wire ++ [.record sealer.counter bytes] := by
    rw [hsend, Outgoing.accept]
    dsimp only
    rw [List.getElem?_concat_length]
    dsimp only
    rw [if_neg (by rw [hworks]; exact Bool.false_ne_true)]
  obtain ⟨p, hp⟩ : ∃ p, places s.pending = [p] :=
    List.length_eq_one_iff.1 (Nat.le_antisymm hlined.alone (List.length_pos_iff.2 hpending))
  have hsequence : InSequence role.place (places s.wire ++ [p] ++ [.counter sealer.counter]) := by
    refine inSequence_snoc.2 ⟨?_, ?_⟩
    · rw [← hp, ← places_append, ← h.sameRole]
      exact hlined.sequence
    · rw [← hp, ← places_append, ← h.sameRole]
      exact (hlined.next sealer hsealer).symm
  rw [InOrder, hwire, places_append]
  exact hsequence.overtaken (place_ne_succ role _)

/-- **The order of the wire.** It is the order of the counters under every schedule exactly if no frame is
sealed while another write is awaited. -/
theorem wireOrder_iff (crypto : Crypto) (aead : Aead) (role : ChannelRole) (ephemeralSecret : Bytes)
    (context : Option Bytes) (es : List OutgoingEvent) :
    Ordered crypto aead role ephemeralSecret context es ↔
      (outgoingMachine crypto aead role ephemeralSecret context).Meets oneInFlight es := by
  constructor
  · intro hordered
    induction es using List.reverseRecOn with
    | nil => exact Machine.meets_nil _ _
    | append_singleton es e ih =>
      have hes := ih fun pre post ws hpre => hordered pre (post ++ [e]) ws (by rw [hpre, List.append_assoc])
      refine (Machine.meets_snoc _).2 ⟨hes, ?_⟩
      cases e with
      | send frame =>
        intro hworks hseals
        by_contra hpending
        -- the frame is sealed, and taken before what waits
        have hsound := sound_of_meets hes
        refine hsound.overtakes aead hworks hseals hpending ?_
        have htaken := hordered (es ++ [.send frame]) []
          [.accept ((outgoingMachine crypto aead role ephemeralSecret context).run es).pending.length]
          (List.append_nil _).symm (by intro w hw; rw [List.mem_singleton.1 hw]; trivial)
        rw [Machine.run_snoc, Machine.run_snoc] at htaken
        exact htaken
      | receive chunk => trivial
      | close => trivial
      | accept i => trivial
      | refuse i => trivial
  · rintro hes pre post ws rfl hws
    exact (sound_of_meets (meets_append ( Machine.Meets.prefix _ hes) hws)).wire

/-- Two sends in flight, or a responder's send while its handshake message is awaited: the transport may take
the later write first. -/
theorem not_ordered_twoInFlight :
    ¬ Ordered Demo.xorCrypto Demo.aead (.initiator (Demo.pad [7]).1) [5] (some [1])
        [.accept 0, .receive (Demo.pad [6]).1, .send ⟨.control, [1]⟩, .send ⟨.control, [2]⟩] ∧
      ¬ Ordered Demo.xorCrypto Demo.aead (.responder [7]) [6] (some [1])
        [.receive (Demo.pad [5]).1, .send ⟨.control, [1]⟩] := by
  constructor
  · intro h
    have hlate := h _ [] [.accept 1] (List.append_nil _).symm (by intro w hw; rw [List.mem_singleton.1 hw]; trivial)
    revert hlate
    unfold InOrder InSequence
    decide
  · intro h
    have hlate := h _ [] [.accept 1] (List.append_nil _).symm (by intro w hw; rw [List.mem_singleton.1 hw]; trivial)
    revert hlate
    unfold InOrder InSequence
    decide

end Pherry.Ios
