import Pherry.RelayCore.CellHandlers

/-!
# The frame loop, and the invariant of every run

The loop goes on over the frames buffered behind one that was refused, so its invariant speaks of
closed connections too: such a connection holds no challenge to answer. One thing it may still do
is dial for a pending bridge; `lateDial` is the condition under which the next frames do so.
-/

namespace Pherry.RelayCore

open Lib

/-- The messages that give an unclassified connection a role. -/
def OuterMessage.classifies : OuterMessage → Bool
  | .hostHello _ => true
  | .dataAuth _ _ _ => true
  | _ => false

/-- The messages of an unclassified connection that are read behind a refused one. -/
def behindRefusal (closed : Bool) (messages : List OuterMessage) : List OuterMessage :=
  match closed, messages with
  | true, messages => messages
  | false, [] => []
  | false, m :: rest => if m.classifies then [] else rest

namespace Cell

variable (o : CellOptions)

/-- Whether `m` is a host's dial that the cell would splice. -/
def dials (s : Cell) (m : OuterMessage) : Bool :=
  match m with
  | .dataAuth .host ticket mac =>
    match s.pending.get ticket with
    | none => false
    | some pending => s.dialVerifies o pending ticket mac
  | _ => false

/-- Whether, of these messages of `c`, a dial follows a refused message. -/
def lateDial (s : Cell) (c : ConnId) (messages : List OuterMessage) : Bool :=
  if (s.conn c).role = .unclassified then
    match (behindRefusal (s.conn c).outer.closed messages).find? OuterMessage.classifies with
    | none => false
    | some m => s.dials o m
  else false

/-- The messages the loop reads from `c`. -/
def messages (fuel : ℕ) (s : Cell) (c : ConnId) : List OuterMessage :=
  (s.conn c).outer.reader.messages o.decodeOuterMessage fuel

/-- What a handler relies on when a message of `c` is dispatched to it. -/
structure Live (strict : Prop) (s : Cell) (c : ConnId) : Prop where
  inv : Inv strict s
  born : c < s.accepted
  spent : (s.conn c).outer.closed = true → (s.conn c).role = .controlPending →
    (s.conn c).challenge = none

/-- What the loop relies on when it reads the next frame of `c`. -/
structure Ready (strict : Prop) (fuel : ℕ) (s : Cell) (c : ConnId) : Prop
    extends Live strict s c where
  punctual : strict → s.lateDial o c (s.messages o fuel c) = false

/-! ## What decides a dial -/

lemma dialVerifies_congr (s s' : Cell) (hhosts : s'.hosts = s.hosts)
    (hkey : ∀ c, (s'.conn c).dataKey = (s.conn c).dataKey ∨ ∀ h, s.hosts.get h ≠ some c)
    (p : PendingBridge) (t : Ticket) (mac : Option Bytes32) :
    s'.dialVerifies o p t mac = s.dialVerifies o p t mac := by
  unfold dialVerifies
  rw [hhosts]
  cases hget : s.hosts.get p.hostId with
  | none => rfl
  | some control =>
    rcases hkey control with hsame | habsent
    · simp only [hsame]
    · exact absurd hget (habsent _)

lemma dials_elsewhere {s s' : Cell} {c : ConnId} (h : Elsewhere c s s') (hc : s.Absent c)
    (m : OuterMessage) : s'.dials o m = s.dials o m := by
  have hverifies := dialVerifies_congr o s s' h.tables.hosts (fun c' => ?_)
  · unfold dials
    rw [h.tables.pending]
    simp only [hverifies]
  · by_cases he : c' = c
    · exact .inr (he ▸ hc.hosts)
    · exact .inl (by rw [h.conn c' he])

lemma dials_of_get {s : Cell} {t : Ticket} {p : PendingBridge} (h : s.pending.get t = some p)
    (mac : Option Bytes32) : s.dials o (.dataAuth .host t mac) = s.dialVerifies o p t mac := by
  simp only [dials, h]

lemma lateDial_dial {s : Cell} {c : ConnId} (hrole : (s.conn c).role = .unclassified)
    (hclosed : (s.conn c).outer.closed = true) (t : Ticket) (mac : Option Bytes32)
    (rest : List OuterMessage) :
    s.lateDial o c (.dataAuth .host t mac :: rest) = s.dials o (.dataAuth .host t mac) := by
  have hfind : (OuterMessage.dataAuth .host t mac :: rest).find? OuterMessage.classifies
      = some (.dataAuth .host t mac) := List.find?_cons_of_pos rfl
  simp only [lateDial, hrole, hclosed, behindRefusal, hfind, if_true]

/-! ## One message -/

variable {o} {strict : Prop}

/-- A connection that is neither unclassified nor registering has nothing left to decide. -/
lemma Ready.of_role {fuel : ℕ} {s : Cell} {c : ConnId} (hinv : Inv strict s)
    (hborn : c < s.accepted) (hu : (s.conn c).role ≠ .unclassified)
    (hp : (s.conn c).role ≠ .controlPending) : Ready o strict fuel s c :=
  ⟨⟨hinv, hborn, fun _ h => absurd h hp⟩, fun _ => by rw [lateDial, if_neg hu]⟩

lemma role_beginControllerBridge (s : Cell) (c : ConnId) (t : Ticket) :
    ((s.beginControllerBridge c t).conn c).role = (s.conn c).role := by
  unfold beginControllerBridge
  split
  · exact (kept_refuse s c c _).role
  · rw [modify_conn_self]

lemma role_link (s : Cell) (b : Bridge) (c : ConnId) :
    ((s.link b).conn c).role = (s.conn c).role := by
  have hset : ∀ (s : Cell) (c' : ConnId), ((s.modify c' fun k => { k with bridge := some b }).conn
      c).role = (s.conn c).role := by
    intro s c'
    by_cases h : c = c'
    · rw [h, modify_conn_self]
    · rw [modify_conn_ne s h]
  rw [link, hset, hset]

lemma role_completeHostDial (s : Cell) (c : ConnId) (t : Ticket) (mac : Option Bytes32) :
    ((s.completeHostDial o c t mac).conn c).role = (s.conn c).role := by
  unfold completeHostDial
  split
  · exact (kept_refuse s c c _).role
  · split
    · rw [splice, ((Quiet.pipe _ _).conn c).role, role_link, modify_conn_self]
      rfl
    · exact (kept_refuse s c c _).role

/-- A refused unclassified connection stays unclassified, and its next messages are those the
condition was about. -/
lemma Ready.refuse_unclassified {fuel : ℕ} {s : Cell} {c : ConnId} (hs : Inv strict s)
    (hborn : c < s.accepted) (hrole : (s.conn c).role = .unclassified)
    (hlate : strict → (match (s.messages o fuel c).find? OuterMessage.classifies with
      | none => false
      | some m => s.dials o m) = false) (code : RelayCloseCode) :
    Ready o strict fuel (s.refuse c code) c := by
  have hkept := kept_refuse s c c code
  have habsent := hs.absent_of_unclassified hrole
  have helse := habsent.refuse hs code
  refine ⟨⟨hs.refuse c code, ?_, ?_⟩, ?_⟩
  · rw [(Shrinks.refuse s c code).accepted]
    exact hborn
  · intro _ hpending
    rw [hkept.role, hrole] at hpending
    cases hpending
  · intro hstrict
    have hmessages : (s.refuse c code).messages o fuel c = s.messages o fuel c := by
      rw [messages, messages, hkept.reader]
    rw [lateDial, hkept.role, if_pos hrole, closed_refuse, hmessages]
    simp only [behindRefusal, dials_elsewhere o helse habsent]
    exact hlate hstrict

lemma Ready.classify {fuel : ℕ} {s : Cell} {c : ConnId} {m : OuterMessage} (hs : Inv strict s)
    (hborn : c < s.accepted) (hrole : (s.conn c).role = .unclassified)
    (hlate : strict → s.lateDial o c (m :: s.messages o fuel c) = false) :
    Ready o strict fuel (s.classify o c m) c := by
  have htidy := hs.tidy c
  obtain ⟨hid, hchallenge, hawaiting⟩ := htidy.unclassified hrole
  obtain ⟨hticket, hbridge⟩ := htidy.hosting (.inl hrole)
  have habsent := hs.absent_of_unclassified hrole
  have hnotBorn : ¬ s.accepted ≤ c := Nat.not_le_of_lt hborn
  have haccepted : c < (s.classify o c m).accepted := by
    rw [(Calm.classify o hrole m).accepted]
    exact hborn
  have hdata : ∀ role, role = .controllerData ∨ role = .hostData →
      Inv strict (s.modify c fun k => { k with role }) := by
    intro role hdata
    exact hs.modify_absent habsent (tidy_data hdata hawaiting) (.inl rfl)
      fun hc => absurd hc hnotBorn
  have hrefuse : m.classifies = false → Ready o strict fuel (s.refuse c .protocolError) c := by
    intro hnot
    refine Ready.refuse_unclassified hs hborn hrole (fun hstrict => ?_) _
    have hno := hlate hstrict
    rw [lateDial, if_pos hrole] at hno
    cases hclosed : (s.conn c).outer.closed <;>
      simpa [hclosed, behindRefusal, hnot] using hno
  cases m with
  | hostHello hostId =>
    -- a host: its static key is looked up
    have hinv : Inv strict (s.modify c fun k =>
        { k with role := .controlPending, awaiting := some (.hostStaticPublicKey hostId) }) := by
      refine hs.modify_absent habsent ?_ (.inl rfl) fun hc => absurd hc hnotBorn
      refine ⟨fun _ h => ?_, fun hr => (by cases hr), fun _ => ⟨hticket, hbridge⟩,
        fun _ _ => ⟨rfl, hchallenge⟩, fun t ht => (by cases ht)⟩
      have hsome : (s.conn c).challenge.isSome = true := h
      rw [hchallenge] at hsome
      cases hsome
    have hpending : ((s.classify o c (.hostHello hostId)).conn c).role = .controlPending := by
      rw [Cell.classify, modify_conn_self]
    refine ⟨⟨hinv, hborn, fun _ _ => ?_⟩, fun _ => ?_⟩
    · rw [Cell.classify, modify_conn_self]
      exact hchallenge
    · rw [lateDial, hpending, if_neg (by decide)]
  | dataAuth role ticket mac =>
    cases role with
    | controller =>
      -- a controller: its ticket is resolved
      have hself : (s.modify c fun k => { k with role := .controllerData }).conn c
          = { s.conn c with role := .controllerData } := modify_conn_self s c _
      have hnow : ((s.classify o c (.dataAuth .controller ticket mac)).conn c).role
          = .controllerData := by
        rw [Cell.classify, role_beginControllerBridge, hself]
      refine Ready.of_role ((hdata .controllerData (.inl rfl)).beginControllerBridge ?_ ?_ ?_ ticket)
        haccepted ?_ ?_
      · rw [hself]
      · rw [hself]; exact hticket
      · rw [hself]; exact hbridge
      · rw [hnow]; decide
      · rw [hnow]; decide
    | host =>
      -- a host's dial: were the connection closed already, the dial would be a late one
      have hself : (s.modify c fun k => { k with role := .hostData }).conn c
          = { s.conn c with role := .hostData } := modify_conn_self s c _
      have hnow : ((s.classify o c (.dataAuth .host ticket mac)).conn c).role = .hostData := by
        rw [Cell.classify, role_completeHostDial, hself]
      refine Ready.of_role ((hdata .hostData (.inr rfl)).completeHostDial o ?_ ?_ ?_ ticket mac ?_)
        haccepted ?_ ?_
      · rw [hself]
      · rw [hself]; exact hbridge
      · rw [hself]; exact hawaiting
      · intro hstrict p hp hverifies
        rw [hself]
        have hsame := dialVerifies_congr o s
          (s.modify c fun k => { k with role := .hostData }) rfl (fun c' => by
            by_cases he : c' = c
            · exact .inl (by rw [he, modify_conn_self])
            · exact .inl (by rw [modify_conn_ne s he])) p ticket mac
        have hget : s.pending.get ticket = some p := hp
        cases hclosed : (s.conn c).outer.closed with
        | false => rfl
        | true =>
          have hno := hlate hstrict
          rw [lateDial_dial o hrole hclosed, dials_of_get o hget, ← hsame, hverifies] at hno
          cases hno
      · rw [hnow]; decide
      · rw [hnow]; decide
  | hostChallenge _ _ _ => exact hrefuse rfl
  | hostProof _ => exact hrefuse rfl
  | hostRegistered _ => exact hrefuse rfl
  | connOpen _ _ => exact hrefuse rfl
  | dataReady => exact hrefuse rfl
  | drain => exact hrefuse rfl
  | close _ _ => exact hrefuse rfl

/-- What `Ready` promises of the state a handler leaves behind: a throw ends the loop. -/
def ReadyAfter (o : CellOptions) (strict : Prop) (fuel : ℕ) (c : ConnId) :
    Except Cell Cell → Prop
  | .ok s => Ready o strict fuel s c
  | .error s => Inv strict s

lemma Live.onProof {s : Cell} {c : ConnId} (hs : Live strict s c)
    (hrole : (s.conn c).role = .controlPending) (m : OuterMessage) (fuel : ℕ) :
    ReadyAfter o strict fuel c (s.onProof o c m) := by
  have hinv := hs.inv
  have hrefused : ∀ s' : Cell, Inv strict s' → c < s'.accepted →
      (s'.conn c).role = .controlPending → (s'.conn c).challenge = none → ∀ code,
      Ready o strict fuel (s'.refuse c code) c := by
    intro s' hinv' hborn' hrole' hnone code
    have hkept := kept_refuse s' c c code
    have hpending : ((s'.refuse c code).conn c).role = .controlPending := hkept.role.trans hrole'
    refine ⟨⟨hinv'.refuse c code, ?_, fun _ _ => hkept.challenge.trans hnone⟩, fun _ => ?_⟩
    · rw [(Shrinks.refuse s' c code).accepted]
      exact hborn'
    · rw [lateDial, hpending, if_neg (by decide)]
  have hdrop := hinv.dropChallenge hrole
  have hself : (s.dropChallenge c).conn c = { s.conn c with challenge := none } :=
    modify_conn_self s c _
  have hdropped : ∀ code, Ready o strict fuel ((s.dropChallenge c).refuse c code) c := by
    intro code
    refine hrefused _ hdrop hs.born ?_ ?_ code
    · rw [hself]; exact hrole
    · rw [hself]
  unfold Cell.onProof
  split
  · next mac =>
    split
    · next challenge hostId hostStaticPub hchallenge hid hpub =>
      simp only
      split
      · exact hdropped _
      · next dataKey _ =>
        -- the challenge is there, so the connection is open and awaits no reply
        have hopen : (s.conn c).outer.closed = false := by
          cases hclosed : (s.conn c).outer.closed with
          | false => rfl
          | true =>
            have hnone := hs.spent hclosed hrole
            rw [hchallenge] at hnone
            cases hnone
        have hawaiting : (s.conn c).awaiting = none := by
          cases ha : (s.conn c).awaiting with
          | none => rfl
          | some a =>
            cases a with
            | hostStaticPublicKey h =>
              have hnone := ((hinv.tidy c).awaitingKey h ha).2
              rw [hchallenge] at hnone
              cases hnone
            | resolveTicket t =>
              have hdata := ((hinv.tidy c).awaitingTicket t ha).1
              rw [hrole] at hdata
              cases hdata
        have hreg : Inv strict ((s.dropChallenge c).register c hostId dataKey) := by
          refine hdrop.register ?_ ?_ ?_ ?_ dataKey
          · rw [hself]; exact hrole
          · rw [hself]; exact hid
          · rw [hself]; exact hawaiting
          · rw [hself]; exact hopen
        split
        · have hcontrol : ((((s.dropChallenge c).register c hostId dataKey).send c
              (.hostRegistered hostId)).conn c).role = .control := by
            rw [(same_send _ c _ c).role, conn_register, modify_conn_self]
          refine Ready.of_role (hreg.quiet (.send _ c rfl)) ?_ ?_ ?_
          · rw [(Quiet.send _ c rfl).tables.accepted, (Calm.register (by rw [hself]; exact hrole) hostId dataKey).accepted]
            exact hs.born
          · rw [hcontrol]; decide
          · rw [hcontrol]; decide
        · exact hreg
    · next hmissing =>
      refine hrefused s hinv hs.born hrole ?_ _
      -- a challenge comes with the `hostId` and the key it was made for
      cases hchallenge : (s.conn c).challenge with
      | none => rfl
      | some challenge =>
        obtain ⟨hid, hpub⟩ := (hinv.tidy c).challenged hrole (by rw [hchallenge]; rfl)
        obtain ⟨hostId, hid⟩ := Option.isSome_iff_exists.1 hid
        obtain ⟨hostStaticPub, hpub⟩ := Option.isSome_iff_exists.1 hpub
        exact absurd hpub (hmissing challenge hostId hostStaticPub hchallenge hid)
  · exact hdropped _

lemma Live.dispatch {fuel : ℕ} {s : Cell} {c : ConnId} {m : OuterMessage}
    (hs : Live strict s c)
    (hlate : strict → s.lateDial o c (m :: s.messages o fuel c) = false) :
    ReadyAfter o strict fuel c (s.dispatch o c m) := by
  have hrefused : (s.conn c).role ≠ .unclassified → (s.conn c).role ≠ .controlPending →
      ∀ code, Ready o strict fuel (s.refuse c code) c := by
    intro hu hp code
    have hkept := kept_refuse s c c code
    refine Ready.of_role (hs.inv.refuse c code) ?_ ?_ ?_
    · rw [(Shrinks.refuse s c code).accepted]; exact hs.born
    · rw [hkept.role]; exact hu
    · rw [hkept.role]; exact hp
  unfold Cell.dispatch
  split
  · next hrole => exact Ready.classify hs.inv hs.born hrole hlate
  · next hrole => exact hs.onProof hrole m fuel
  · next hrole =>
    split
    · have hkept := kept_detach s c c
      refine Ready.of_role (hs.inv.detach c) ?_ ?_ ?_
      · rw [(Shrinks.detach s c).accepted]; exact hs.born
      · rw [hkept.role, hrole]; decide
      · rw [hkept.role, hrole]; decide
    · exact hrefused (by rw [hrole]; decide) (by rw [hrole]; decide) _
  · next hrole => exact hrefused (by rw [hrole]; decide) (by rw [hrole]; decide) _
  · next hrole => exact hrefused (by rw [hrole]; decide) (by rw [hrole]; decide) _

/-! ## The loop -/

lemma lateDial_quiet {s s' : Cell} (h : Quiet s s') (c : ConnId) (l : List OuterMessage) :
    s'.lateDial o c l = s.lateDial o c l := by
  have hverifies := dialVerifies_congr o s s' h.tables.hosts (fun c' => .inl (h.conn c').dataKey)
  simp only [lateDial, dials, (h.conn c).role, (h.conn c).closed, h.tables.pending, hverifies]

lemma Live.quiet {s s' : Cell} (h : Quiet s s') {c : ConnId} (hs : Live strict s c) :
    Live strict s' c where
  inv := hs.inv.quiet h
  born := by rw [h.tables.accepted]; exact hs.born
  spent := by rw [(h.conn c).closed, (h.conn c).role, (h.conn c).challenge]; exact hs.spent

lemma messages_setReader (fuel : ℕ) {s : Cell} {c : ConnId} {payload : Bytes}
    {reader : OuterFrameReader} {m : OuterMessage}
    (hnext : (s.conn c).outer.reader.next = .ok (some (payload, reader)))
    (hm : o.decodeOuterMessage payload = some m) :
    s.messages o (fuel + 1) c = m :: (s.setReader c reader).messages o fuel c := by
  rw [messages, messages, setReader, modify_conn_self, OuterFrameReader.messages, hnext]
  simp only [hm]

lemma Ready.take {fuel : ℕ} {s : Cell} {c : ConnId} (hs : Ready o strict (fuel + 1) s c)
    {payload : Bytes} {reader : OuterFrameReader} {m : OuterMessage}
    (hnext : (s.conn c).outer.reader.next = .ok (some (payload, reader)))
    (hm : o.decodeOuterMessage payload = some m) :
    ReadyAfter o strict fuel c ((s.setReader c reader).dispatch o c m) := by
  have hquiet := Quiet.setReader s c reader
  refine (hs.toLive.quiet hquiet).dispatch fun hstrict => ?_
  rw [lateDial_quiet hquiet, ← messages_setReader fuel hnext hm]
  exact hs.punctual hstrict

lemma Ready.receiveLoop {fuel : ℕ} {s : Cell} {c : ConnId} (hs : Ready o strict fuel s c) :
    Inv strict (receiveLoop o fuel s c) := by
  induction fuel generalizing s with
  | zero => exact hs.inv
  | succ fuel ih =>
    rcases receiveLoop_succ o fuel s c with h | ⟨s₁, hs₁, h⟩ |
      ⟨payload, reader, m, -, hnext, hm, ⟨s', hd, h⟩ | ⟨s', hd, h⟩⟩
    · rw [h]
      exact hs.inv
    · rw [h]
      rcases hs₁ with rfl | ⟨reader, rfl⟩
      · exact hs.inv.fail c
      · exact (hs.inv.quiet (.setReader s c reader)).fail c
    · have hafter := hs.take hnext hm
      rw [hd] at hafter
      rw [h]
      exact Inv.fail hafter c
    · have hafter := hs.take hnext hm
      rw [hd] at hafter
      rw [h]
      exact ih hafter

lemma Inv.absent_refuse {s : Cell} (hs : Inv strict s) (c : ConnId) (code : RelayCloseCode) :
    (s.refuse c code).Absent c := by
  have hclean := (hs.quiet (Quiet.send s c (m := .close code none) rfl)).absent_cleanup c
  exact ⟨hclean.hosts, hclean.pending, hclean.bridges⟩

lemma Inv.deliverRaw {s : Cell} (hs : Inv strict s) (c : ConnId) (bytes : Bytes) :
    Inv strict (s.deliverRaw c bytes) := by
  unfold Cell.deliverRaw
  split
  · exact hs.quiet (.forward s _ bytes)
  · split
    · have hset : Quiet s (s.modify c fun k =>
          { k with outer := { k.outer with rawBuffer := [], rawBufferBytes := 0 } }) := by
        refine Quiet.modify s c ?_ rfl
        constructor <;> rfl
      exact ((hs.quiet hset).fail c).closeOuter ((hs.quiet hset).absent_refuse c _)
    · refine hs.quiet (Quiet.modify s c ?_ rfl)
      constructor <;> rfl

end Cell

/-- A chunk that makes the cell read, behind a message it refused, a dial it will splice: the
connection is unclassified, and among the frames the chunk completes the first that does not
classify it comes before a verifying dial. -/
def dialsBehindRefusal (o : CellOptions) (s : Cell) : Event → Bool
  | .receive c chunk =>
    !(s.conn c).outer.closed && !(s.conn c).outer.raw
      && s.lateDial o c (((s.conn c).outer.reader.push chunk).messages o.decodeOuterMessage
        (((s.conn c).outer.reader.push chunk).length + 1))
  | _ => false

namespace Cell

variable {o : CellOptions} {strict : Prop}

lemma Inv.ready_buffer {s : Cell} (hs : Inv strict s) {c : ConnId} (hborn : c < s.accepted)
    (hopen : (s.conn c).outer.closed = false) (hframed : (s.conn c).outer.raw = false)
    (chunk : Bytes) (h : strict → dialsBehindRefusal o s (.receive c chunk) = false) :
    Ready o strict (((s.buffer c chunk).conn c).outer.reader.length + 1) (s.buffer c chunk) c := by
  have hquiet := Quiet.buffer s c chunk
  refine ⟨⟨hs.quiet hquiet, ?_, ?_⟩, ?_⟩
  · rw [hquiet.tables.accepted]
    exact hborn
  · rw [(hquiet.conn c).closed, hopen]
    intro hclosed
    cases hclosed
  · intro hstrict
    have hno := h hstrict
    simp only [dialsBehindRefusal, hopen, hframed] at hno
    rw [lateDial_quiet hquiet]
    simpa [messages, Cell.buffer] using hno

lemma Inv.receive {s : Cell} (hs : Inv strict s) {c : ConnId} (hborn : c < s.accepted)
    (chunk : Bytes) (h : strict → dialsBehindRefusal o s (.receive c chunk) = false) :
    Inv strict (s.receive o c chunk) := by
  unfold Cell.receive
  split
  · exact hs
  · next hopen =>
    split
    · exact hs.deliverRaw c chunk
    · next hframed =>
      have hready := hs.ready_buffer hborn (Bool.eq_false_iff.2 hopen)
        (Bool.eq_false_iff.2 hframed) chunk h
      exact hready.receiveLoop

/-! ## Accepting, draining and closing -/

lemma Inv.accept {s : Cell} (hs : Inv strict s) (monitored : Bool) :
    Inv strict (s.accept monitored) := by
  unfold Cell.accept
  split
  · exact hs
  · have hfresh : (Conn.fresh monitored).Tidy := by
      refine ⟨fun h => (by cases h), fun _ => ⟨rfl, rfl, rfl⟩, fun _ => ⟨rfl, rfl⟩,
        fun _ h => (by cases h), fun _ h => (by cases h)⟩
    have habsent := hs.absent_of_unclassified (hs.unborn s.accepted (Nat.le_refl _))
    have hset := hs.modify_absent habsent (f := fun _ => Conn.fresh monitored) hfresh (.inr rfl)
      fun _ => rfl
    exact { hset with unborn := fun c hc => hset.unborn c (Nat.le_of_succ_le hc) }

lemma Inv.drain {s : Cell} (hs : Inv strict s) : Inv strict s.drain := by
  unfold Cell.drain
  split
  · exact hs
  · have hflag : Inv strict { s with draining := true } := { hs with }
    exact hflag.quiet (.foldl (fun s c => Quiet.send s c rfl) _ _)

/-- A state in which connections were closed and timers cleared, and nothing else. -/
structure Closes (s s' : Cell) : Prop where
  conn : ∀ c, ∃ closed, s'.conn c
    = { s.conn c with outer := { (s.conn c).outer with closed := closed } }
  timers : s'.timers.Sublist s.timers
  nextTimer : s'.nextTimer = s.nextTimer
  accepted : s'.accepted = s.accepted

lemma Closes.refl (s : Cell) : Closes s s :=
  ⟨fun _ => ⟨_, rfl⟩, List.Sublist.refl _, rfl, rfl⟩

lemma Closes.trans {s s' s'' : Cell} (h : Closes s s') (h' : Closes s' s'') : Closes s s'' where
  conn c := by
    obtain ⟨closed, hc⟩ := h.conn c
    obtain ⟨closed', hc'⟩ := h'.conn c
    exact ⟨closed', by rw [hc', hc]⟩
  timers := h'.timers.trans h.timers
  nextTimer := h'.nextTimer.trans h.nextTimer
  accepted := h'.accepted.trans h.accepted

lemma Closes.closeOuter (s : Cell) (c : ConnId) : Closes s (s.closeOuter c) := by
  refine ⟨fun c' => ?_, List.Sublist.refl _, rfl, rfl⟩
  by_cases h : c' = c
  · exact ⟨true, by rw [h, Cell.closeOuter, modify_conn_self]⟩
  · exact ⟨_, by rw [Cell.closeOuter, modify_conn_ne s h]⟩

lemma Closes.clearTimeout (s : Cell) (handle : TimerHandle) :
    Closes s (s.clearTimeout handle) :=
  ⟨fun _ => ⟨_, rfl⟩, List.filter_sublist, rfl, rfl⟩

lemma Closes.foldl {α : Type*} {f : Cell → α → Cell} (hf : ∀ s a, Closes s (f s a))
    (l : List α) (s : Cell) : Closes s (l.foldl f s) := by
  induction l generalizing s with
  | nil => exact .refl s
  | cons a l ih => exact (hf s a).trans (ih (f s a))

lemma Closes.closePendings (s : Cell) : Closes s s.closePendings := by
  have hone : ∀ (s : Cell) (p : PendingBridge),
      Closes s ((s.clearTimeout p.timer).closeOuter p.controller) :=
    fun s p => (Closes.clearTimeout s p.timer).trans (.closeOuter _ _)
  have hall := Closes.foldl hone s.pending.values s
  exact ⟨hall.conn, hall.timers, hall.nextTimer, hall.accepted⟩

lemma Closes.closeBridges (s : Cell) : Closes s s.closeBridges := by
  have hone : ∀ (s : Cell) (b : Bridge), Closes s ((s.closeOuter b.controller).closeOuter b.host) :=
    fun s b => (Closes.closeOuter s b.controller).trans (.closeOuter _ _)
  have hall := Closes.foldl hone s.bridges s
  exact ⟨hall.conn, hall.timers, hall.nextTimer, hall.accepted⟩

lemma Closes.closeHosts (s : Cell) : Closes s s.closeHosts := by
  have hall := Closes.foldl Closes.closeOuter s.hosts.values s
  exact ⟨hall.conn, hall.timers, hall.nextTimer, hall.accepted⟩

lemma foldl_closes_tables {α : Type*} {f : Cell → α → Cell}
    (hf : ∀ s a, (f s a).hosts = s.hosts ∧ (f s a).pending = s.pending ∧
      (f s a).bridges = s.bridges) (l : List α) (s : Cell) :
    (l.foldl f s).hosts = s.hosts ∧ (l.foldl f s).pending = s.pending ∧
      (l.foldl f s).bridges = s.bridges := by
  induction l generalizing s with
  | nil => exact ⟨rfl, rfl, rfl⟩
  | cons a l ih =>
    obtain ⟨hhosts, hpending, hbridges⟩ := ih (f s a)
    obtain ⟨hhosts', hpending', hbridges'⟩ := hf s a
    exact ⟨hhosts.trans hhosts', hpending.trans hpending', hbridges.trans hbridges'⟩

lemma tables_close {s : Cell} (h : s.closed = false) :
    s.close.hosts = .empty ∧ s.close.pending = .empty ∧ s.close.bridges = [] := by
  have hhosts := foldl_closes_tables (f := fun (s : Cell) c => s.closeOuter c)
    (fun _ _ => ⟨rfl, rfl, rfl⟩)
  have hbridges := foldl_closes_tables
    (f := fun (s : Cell) (b : Bridge) => (s.closeOuter b.controller).closeOuter b.host)
    (fun _ _ => ⟨rfl, rfl, rfl⟩)
  have hclose : s.close = { s with closed := true }.closePendings.closeBridges.closeHosts := by
    rw [close, h]
    rfl
  rw [hclose]
  refine ⟨rfl, ?_, ?_⟩
  · exact (hhosts _ _).2.1.trans ((hbridges _ _).2.1.trans rfl)
  · exact (hhosts _ _).2.2.trans rfl

lemma Inv.close {s : Cell} (hs : Inv strict s) : Inv strict s.close := by
  cases hclosed : s.closed with
  | true =>
    rw [Cell.close, hclosed]
    exact hs
  | false =>
    obtain ⟨hhosts, hpending, hbridges⟩ := tables_close hclosed
    have hcloses : Closes s s.close := by
      rw [Cell.close, hclosed]
      have hflag : Closes s { s with closed := true } := ⟨fun _ => ⟨_, rfl⟩, .refl _, rfl, rfl⟩
      exact ((hflag.trans (.closePendings _)).trans (.closeBridges _)).trans (.closeHosts _)
    refine ⟨?_, ?_, ?_, ?_, ?_, ?_, ?_, ?_, ?_, ?_⟩
    · intro h c hget
      rw [hhosts] at hget
      cases hget
    · intro t p hget
      rw [hpending] at hget
      cases hget
    · intro b hb
      rw [hbridges] at hb
      cases hb
    · intro b hb
      rw [hbridges] at hb
      cases hb
    · intro c b hb
      obtain ⟨closed, hc⟩ := hcloses.conn c
      rw [hc] at hb
      exact hs.ends c b hb
    · rw [hbridges]
      exact List.nodup_nil
    · exact hs.timersNodup.sublist (hcloses.timers.map Prod.fst)
    · intro t ht
      rw [hcloses.nextTimer]
      exact hs.timersLt t (hcloses.timers.subset ht)
    · intro c
      obtain ⟨closed, hc⟩ := hcloses.conn c
      rw [hc]
      exact tidy_closed (hs.tidy c) closed
    · intro c hborn
      rw [hcloses.accepted] at hborn
      obtain ⟨closed, hc⟩ := hcloses.conn c
      rw [hc]
      exact hs.unborn c hborn

/-! ## Every step -/

lemma tidy_resume {k : Conn} (h : k.Tidy) : Conn.Tidy { k with awaiting := none } :=
  ⟨h.challenged, fun hr => ⟨(h.unclassified hr).1, (h.unclassified hr).2.1, rfl⟩, h.hosting,
    fun _ hi => (by cases hi), fun _ ht => (by cases ht)⟩

lemma Inv.onReceive {s : Cell} (hs : Inv strict s) {c : ConnId} {chunk : Bytes}
    (h : strict → dialsBehindRefusal o s (.receive c chunk) = false) :
    Inv strict (s.onReceive o c chunk) := by
  unfold Cell.onReceive
  split
  · next hborn => exact hs.receive hborn chunk h
  · exact hs

lemma Inv.onHostKeyReply {s : Cell} (hs : Inv strict s) (c : ConnId)
    (reply : Except Unit (Option Bytes)) (ephemeralSecret : Bytes) (nonce : Bytes32) :
    Inv strict (s.onHostKeyReply o c reply ephemeralSecret nonce) := by
  unfold Cell.onHostKeyReply
  split
  · next hostId hawaiting =>
    have hrole := ((hs.tidy c).awaitingKey hostId hawaiting).1
    have hresume : Inv strict (s.modify c fun k => { k with awaiting := none }) :=
      hs.modify_absent (hs.absent_of_controlPending hrole) (tidy_resume (hs.tidy c)) (.inl rfl)
        (hs.unborn c)
    refine hresume.hostKeyReply o ?_ ?_ hostId reply ephemeralSecret nonce
    · rw [modify_conn_self]; exact hrole
    · rw [modify_conn_self]
  · exact hs

lemma Inv.onTicketReply {s : Cell} (hs : Inv strict s) (c : ConnId)
    (reply : Except Unit (Option TicketRecord)) (now : ℤ) (nonce : Bytes32) :
    Inv strict (s.onTicketReply c reply now nonce) := by
  unfold Cell.onTicketReply
  split
  · next ticket hawaiting =>
    obtain ⟨hrole, hticket, hbridge⟩ := (hs.tidy c).awaitingTicket ticket hawaiting
    have hresume : Inv strict (s.modify c fun k => { k with awaiting := none }) :=
      hs.modify_absent (hs.absent_of_awaitingTicket hawaiting) (tidy_resume (hs.tidy c))
        (.inl rfl) (hs.unborn c)
    refine hresume.ticketReply ?_ ?_ ?_ ?_ ticket reply now nonce
    · rw [modify_conn_self]; exact hrole
    · rw [modify_conn_self]; exact hticket
    · rw [modify_conn_self]; exact hbridge
    · rw [modify_conn_self]
  · exact hs

lemma Inv.onTimer {s : Cell} (hs : Inv strict s) (handle : TimerHandle) :
    Inv strict (s.onTimer handle) := by
  unfold Cell.onTimer
  split
  · next handle' ticket hfind =>
    have hmem := List.mem_of_find?_eq_some hfind
    have hhandle : handle' = handle := by simpa using List.find?_some hfind
    exact hs.onBridgeTimeout (hhandle ▸ hmem)
  · exact hs

lemma Inv.onPeerClose {s : Cell} (hs : Inv strict s) (c : ConnId) :
    Inv strict (s.onPeerClose c) := by
  unfold Cell.onPeerClose
  split
  · exact hs.detach c
  · exact hs

lemma Inv.step {s : Cell} (hs : Inv strict s) (e : Event)
    (h : strict → dialsBehindRefusal o s e = false) : Inv strict (s.step o e) := by
  cases e with
  | accept monitored => exact hs.accept monitored
  | receive c chunk => exact hs.onReceive h
  | hostKeyReply c reply ephemeralSecret nonce =>
    exact hs.onHostKeyReply c reply ephemeralSecret nonce
  | ticketReply c reply now nonce => exact hs.onTicketReply c reply now nonce
  | timer handle => exact hs.onTimer handle
  | peerClose c => exact hs.onPeerClose c
  | drain => exact hs.drain
  | close => exact hs.close

lemma inv_init (strict : Prop) : Inv strict Cell.init := by
  have hfresh : (Conn.fresh false).Tidy := by
    refine ⟨fun h => (by cases h), fun _ => ⟨rfl, rfl, rfl⟩, fun _ => ⟨rfl, rfl⟩,
      fun _ h => (by cases h), fun _ h => (by cases h)⟩
  refine ⟨fun _ _ h => (by cases h), fun _ _ h => (by cases h), fun _ h => (by cases h),
    fun _ h => (by cases h), fun _ _ h => (by cases h), List.nodup_nil, List.nodup_nil,
    fun _ h => (by cases h), fun _ => hfresh, fun _ _ => rfl⟩

end Cell

lemma inv_run (o : CellOptions) (es : List Event) : Cell.Inv False ((cellMachine o).run es) :=
  (cellMachine o).invariant (Cell.inv_init False)
    (fun _ e hs => hs.step e fun h => h.elim) es

lemma inv_run_of_meets (o : CellOptions) {es : List Event}
    (h : (cellMachine o).Meets (fun s e => dialsBehindRefusal o s e = false) es) :
    Cell.Inv True ((cellMachine o).run es) :=
  (cellMachine o).invariant_of_meets (Cell.inv_init True)
    (fun _ e he hs => hs.step e fun _ => he) h

end Pherry.RelayCore
