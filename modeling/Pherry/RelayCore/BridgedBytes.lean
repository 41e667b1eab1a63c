import Mathlib.Data.List.Pairwise
import Pherry.RelayCore.SpliceBytes

/-!
# Which bytes a bridge carries

Both ends of a bridge are told `data-ready` when it is spliced. In a run that splices only over
drained readers each end is sent exactly the bytes that arrive on the other one behind that
answer. A reader that still holds bytes breaks it: they are handed over although they arrived
before.
-/

namespace Pherry.RelayCore

open Lib

/-- A chunk that makes the cell splice over unread bytes: the first frame it completes is a dial
that verifies, and bytes are left behind it, or in the reader of the waiting controller. -/
def splicesUnread (o : CellOptions) (s : Cell) : Event → Bool
  | .receive c chunk =>
    match ((s.conn c).outer.reader.push chunk).next with
    | .ok (some (payload, reader)) =>
      match o.decodeOuterMessage payload with
      | some (.dataAuth .host t mac) =>
        match s.pending.get t with
        | some p =>
          decide (c < s.accepted) && !(s.conn c).outer.closed && !(s.conn c).outer.raw
            && decide ((s.conn c).role = .unclassified) && s.dialVerifies o p t mac
            && (decide (0 < reader.length) || decide (0 < (s.conn p.controller).outer.reader.length))
        | none => false
      | _ => false
    | _ => false
  | _ => false

namespace Cell

variable {o : CellOptions}

/-- What arrives on `c` at an event, once `c` was told `data-ready`. -/
def arrived (c : ConnId) (s : Cell) : Event → Bytes
  | .receive c' chunk =>
    if c' = c ∧ (s.conn c).outer.closed = false ∧ (s.conn c).outer.ready = true then chunk else []
  | _ => []

/-! ## One chunk -/

lemma closed_of_unclassified (s : Cell) (c : ConnId) (m : OuterMessage)
    (h : ((settled (s.dispatch o c m)).conn c).role = .unclassified) :
    ((settled (s.dispatch o c m)).conn c).outer.closed = true := by
  have hrole : (s.conn c).role = .unclassified := by
    by_contra hne
    exact ((Calm.dispatch o s c m).ages c).classified hne h
  unfold dispatch at h ⊢
  rw [hrole] at h ⊢
  simp only [settled] at h ⊢
  cases m with
  | dataAuth role t mac =>
    exfalso
    cases role with
    | controller =>
      rw [classify_controller, role_beginControllerBridge, modify_conn_self] at h
      cases h
    | host =>
      rw [classify_dial, role_completeHostDial, modify_conn_self] at h
      cases h
  | hostHello hostId =>
    exfalso
    unfold classify at h
    rw [modify_conn_self] at h
    cases h
  | hostChallenge _ _ _ => exact closed_refuse s c _
  | hostProof _ => exact closed_refuse s c _
  | hostRegistered _ => exact closed_refuse s c _
  | connOpen _ _ => exact closed_refuse s c _
  | dataReady => exact closed_refuse s c _
  | drain => exact closed_refuse s c _
  | close _ _ => exact closed_refuse s c _

lemma Ready.muted_receiveLoop {fuel : ℕ} {s : Cell} {c : ConnId} (hs : Ready o True fuel s c)
    (hspent : (s.conn c).role = .unclassified → (s.conn c).outer.closed = true) :
    Muted s (Cell.receiveLoop o fuel s c) := by
  induction fuel generalizing s with
  | zero => exact .refl s
  | succ fuel ih =>
    rcases receiveLoop_succ o fuel s c with h | ⟨s₁, hs₁, h⟩ |
      ⟨payload, reader, m, -, hnext, hm, hd⟩
    · rw [h]
      exact .refl s
    · rw [h]
      rcases hs₁ with rfl | ⟨reader, rfl⟩
      · exact .refuse s₁ c _
      · exact (Muted.setReader s c reader).trans (.refuse _ c _)
    · have hafter := hs.take hnext hm
      have hquiet := Quiet.setReader s c reader
      rcases dispatch_raw (o := o) (s.setReader c reader) c m with hmuted | ⟨t, p, hverified, -⟩
      · have hmessage := (Muted.setReader s c reader).trans hmuted
        rcases hd with ⟨s', hd, h⟩ | ⟨s', hd, h⟩
        · rw [hd] at hmessage
          rw [h]
          exact hmessage.trans (.refuse s' c _)
        · rw [hd] at hmessage hafter
          rw [h]
          refine hmessage.trans (ih hafter fun hrole => ?_)
          have hclosed := closed_of_unclassified (o := o) (s.setReader c reader) c m
          rw [hd] at hclosed
          exact hclosed hrole
      · -- a verified dial on a closed connection is the late dial the run does not have
        exfalso
        obtain ⟨mac, rfl, hverifies⟩ := hverified.dial
        have hrole : ((s.setReader c reader).conn c).role = .unclassified := hverified.unclassified
        have hclosed : ((s.setReader c reader).conn c).outer.closed = true := by
          rw [(hquiet.conn c).closed]
          rw [(hquiet.conn c).role] at hrole
          exact hspent hrole
        have hlate := hs.punctual trivial
        rw [messages_setReader fuel hnext hm, ← lateDial_quiet hquiet,
          lateDial_dial o hrole hclosed, dials_of_get o hverified.pending, hverifies] at hlate
        cases hlate

/-- A chunk on a framed connection leaves the raw phase alone, or the first message it completes is
a verified dial and splices. -/
lemma Ready.receiveLoop_raw {fuel : ℕ} {s : Cell} {c : ConnId} (hs : Ready o True (fuel + 1) s c) :
    Muted s (Cell.receiveLoop o (fuel + 1) s c) ∨ ∃ payload reader m t p,
      (s.conn c).outer.reader.next = .ok (some (payload, reader)) ∧
        o.decodeOuterMessage payload = some m ∧ Verified o (s.setReader c reader) c m t p ∧
          Cell.receiveLoop o (fuel + 1) s c
            = ((s.setReader c reader).dialed c p t).splice p.controller c t := by
  rcases receiveLoop_succ o fuel s c with h | ⟨s₁, hs₁, h⟩ | ⟨payload, reader, m, -, hnext, hm, hd⟩
  · left
    rw [h]
    exact .refl s
  · left
    rw [h]
    rcases hs₁ with rfl | ⟨reader, rfl⟩
    · exact .refuse s₁ c _
    · exact (Muted.setReader s c reader).trans (.refuse _ c _)
  · have hafter := hs.take hnext hm
    rcases dispatch_raw (o := o) (s.setReader c reader) c m with hmuted | ⟨t, p, hverified, hsplice⟩
    · left
      have hmessage := (Muted.setReader s c reader).trans hmuted
      rcases hd with ⟨s', hd, h⟩ | ⟨s', hd, h⟩
      · rw [hd] at hmessage
        rw [h]
        exact hmessage.trans (.refuse s' c _)
      · have hclosed := closed_of_unclassified (o := o) (s.setReader c reader) c m
        rw [hd] at hmessage hafter hclosed
        rw [h]
        exact hmessage.trans (Ready.muted_receiveLoop hafter hclosed)
    · right
      refine ⟨payload, reader, m, t, p, hnext, hm, hverified, ?_⟩
      rcases hd with ⟨s', hd, -⟩ | ⟨s', hd, h⟩
      · rw [hsplice] at hd
        cases hd
      · rw [hsplice] at hd
        cases hd
        rw [h]
        -- the connection is raw now, so the loop ends
        have hraw := raw_pipe (((s.setReader c reader).dialed c p t).link ⟨t, p.controller, c⟩)
          ⟨t, p.controller, c⟩
        cases fuel with
        | zero => rfl
        | succ fuel =>
          rw [Cell.receiveLoop]
          exact if_pos hraw

/-! ## One step -/

/-- What one step does to the raw phase: nothing, it forwards a chunk, or it splices a bridge. -/
inductive RawStep (o : CellOptions) (s : Cell) (e : Event) : Prop
  | muted (h : Muted s (s.step o e))
      (hframed : ∀ c chunk, e = .receive c chunk → c < s.accepted →
        (s.conn c).outer.closed = false → (s.conn c).outer.raw = false)
  | forwarded (c : ConnId) (chunk : Bytes) (route : RawRoute) (he : e = .receive c chunk)
      (hopen : (s.conn c).outer.closed = false) (hraw : (s.conn c).outer.raw = true)
      (hhandler : (s.conn c).outer.rawHandler = some route)
      (h : s.step o e = s.forward route chunk)
  | spliced (c : ConnId) (chunk : Bytes) (b : Bridge) (p : PendingBridge) (he : e = .receive c chunk)
      (hhost : b.host = c) (hcontroller : b.controller = p.controller)
      (hpending : s.pending.get b.ticket = some p) (hrole : (s.conn c).role = .unclassified)
      (h : Splices s (s.step o e) b)

/-- Before it is committed the raw phase of a connection has not begun; a raw one has its handler. -/
structure Switching (s : Cell) : Prop where
  framed : ∀ c, ¬ s.Committed c → (s.conn c).outer.Framed
  handler : ∀ c, (s.conn c).outer.raw = true → ∃ route, (s.conn c).outer.rawHandler = some route

lemma not_committed_of_unclassified {s : Cell} {c : ConnId} (h : (s.conn c).role = .unclassified) :
    ¬ s.Committed c := by
  rintro (hrole | ⟨hrole, -⟩) <;>
  · rw [h] at hrole
    cases hrole

lemma Inv.not_committed_of_pending {strict : Prop} {s : Cell} (hs : Inv strict s) {t : Ticket}
    {p : PendingBridge} (h : s.pending.get t = some p) : ¬ s.Committed p.controller := by
  have hrole := (hs.pending t p h).2.1.role
  rintro (hhost | ⟨-, -, hidle⟩)
  · rw [hrole] at hhost
    cases hhost
  · exact hidle t p h rfl

/-- The readers a dial meets are drained, for the chunk does not splice over unread bytes. -/
lemma drained_of_not_splicesUnread {s : Cell} {c : ConnId} {chunk payload : Bytes}
    {reader : OuterFrameReader} {m : OuterMessage} {t : Ticket} {p : PendingBridge}
    (hunread : splicesUnread o s (.receive c chunk) = false) (hborn : c < s.accepted)
    (hclosed : (s.conn c).outer.closed = false) (hraw : (s.conn c).outer.raw = false)
    (hnext : ((s.conn c).outer.reader.push chunk).next = .ok (some (payload, reader)))
    (hm : o.decodeOuterMessage payload = some m) (hverified : Verified o s c m t p) :
    reader.length = 0 ∧ (s.conn p.controller).outer.reader.length = 0 := by
  obtain ⟨mac, rfl, hverifies⟩ := hverified.dial
  rw [splicesUnread, hnext] at hunread
  simp only [hm, hverified.pending, hverifies, hborn, hclosed, hraw, hverified.unclassified] at hunread
  simp at hunread
  omega

lemma Verified.of_quiet {s s' : Cell} (h : Quiet s s') {c : ConnId} {m : OuterMessage} {t : Ticket}
    {p : PendingBridge} (hv : Verified o s' c m t p) : Verified o s c m t p where
  unclassified := by rw [← (h.conn c).role]; exact hv.unclassified
  dial := by
    obtain ⟨mac, hm, hverifies⟩ := hv.dial
    refine ⟨mac, hm, ?_⟩
    rw [← hverifies]
    exact (dialVerifies_congr o s s' h.tables.hosts (fun c' => .inl (h.conn c').dataKey) p t mac).symm
  pending := by rw [← h.tables.pending]; exact hv.pending

lemma Inv.splices_of_verified {s : Cell} (hs : Inv True s) (hswitch : s.Switching) {c : ConnId}
    {chunk : Bytes} {reader : OuterFrameReader} {m : OuterMessage} {t : Ticket} {p : PendingBridge}
    (hclosed : (s.conn c).outer.closed = false) (hverified : Verified o s c m t p)
    (hdrained : reader.length = 0 ∧ (s.conn p.controller).outer.reader.length = 0) :
    Splices s ((((s.buffer c chunk).setReader c reader).dialed c p t).splice p.controller c t)
      ⟨t, p.controller, c⟩ := by
  have hwaiting := (hs.pending t p hverified.pending).2.1
  have hne : p.controller ≠ c := by
    rintro rfl
    have hrole := hverified.unclassified
    rw [hwaiting.role] at hrole
    cases hrole
  have hframed := hswitch.framed c (not_committed_of_unclassified hverified.unclassified)
  have hframed' := hswitch.framed p.controller (hs.not_committed_of_pending hverified.pending)
  have hread : (((s.buffer c chunk).setReader c reader).modify c fun k =>
      { k with role := .hostData }).conn c
        = { s.conn c with outer := { (s.conn c).outer with reader }, role := .hostData } := by
    rw [modify_conn_self, Cell.setReader, modify_conn_self, Cell.buffer, modify_conn_self]
  have hconn : (((s.buffer c chunk).setReader c reader).modify c fun k =>
      { k with role := .hostData }).conn p.controller = s.conn p.controller := by
    rw [modify_conn_ne _ hne, Cell.setReader, modify_conn_ne _ hne, Cell.buffer, modify_conn_ne _ hne]
  have hc : ((((s.buffer c chunk).setReader c reader).dialed c p t).conn c).Drained := by
    rw [Cell.dialed, Cell.consume, modify_conn_self]
    show Conn.Drained { (((s.buffer c chunk).setReader c reader).modify c fun k =>
      { k with role := .hostData }).conn c with ticket := some t, hostId := some p.hostId }
    rw [hread]
    exact ⟨hframed.raw, hframed.rawBuffer, hclosed, hdrained.1⟩
  have hp : ((((s.buffer c chunk).setReader c reader).dialed c p t).conn p.controller).Drained := by
    rw [Cell.dialed, Cell.consume, modify_conn_ne _ hne]
    show Conn.Drained ((((s.buffer c chunk).setReader c reader).modify c fun k =>
      { k with role := .hostData }).conn p.controller)
    rw [hconn]
    exact ⟨hframed'.raw, hframed'.rawBuffer, hwaiting.closed, hdrained.2⟩
  have hsame : SameRaw s (((s.buffer c chunk).setReader c reader).dialed c p t) := by
    have hset := (SameRaw.buffer s c chunk).trans (.setReader _ c reader)
    have hrole := hset.trans (SameRaw.mild _ c (f := fun k => { k with role := .hostData })
      fun _ => ⟨rfl, rfl⟩)
    have hconsume : SameRaw (((s.buffer c chunk).setReader c reader).modify c fun k =>
        { k with role := .hostData }) (((s.buffer c chunk).setReader c reader).dialed c p t) :=
      SameRaw.mild _ c (f := fun k => { k with ticket := some t, hostId := some p.hostId })
        fun _ => ⟨rfl, rfl⟩
    exact hrole.trans hconsume
  have hsplices := splices_splice hne hp hc t
  exact
    { hsplices with
      rawSent := fun c' => (hsplices.rawSent c').trans (hsame c').rawSent
      others := fun c' hnc hnh => (hsame c').trans (hsplices.others c' hnc hnh) }

lemma Inv.rawStep_receive {s : Cell} (hs : Inv True s) (hswitch : s.Switching) {c : ConnId}
    {chunk : Bytes} (hlate : dialsBehindRefusal o s (.receive c chunk) = false)
    (hunread : splicesUnread o s (.receive c chunk) = false) : RawStep o s (.receive c chunk) := by
  by_cases hborn : c < s.accepted
  · have hstep : s.step o (.receive c chunk) = s.receive o c chunk := if_pos hborn
    cases hclosed : (s.conn c).outer.closed with
    | true =>
      refine .muted ?_ fun c' chunk' he _ hopen => ?_
      · rw [hstep, Cell.receive, if_pos hclosed]
        exact .refl s
      · cases he
        rw [hclosed] at hopen
        cases hopen
    | false =>
      cases hraw : (s.conn c).outer.raw with
      | true =>
        obtain ⟨route, hroute⟩ := hswitch.handler c hraw
        refine .forwarded c chunk route rfl hclosed hraw hroute ?_
        rw [hstep, Cell.receive, if_neg (by simp [hclosed]), if_pos hraw, Cell.deliverRaw, hroute]
      | false =>
        have hready := hs.ready_buffer (o := o) hborn hclosed hraw chunk fun _ => hlate
        have hreceive : s.step o (.receive c chunk) = Cell.receiveLoop o
            (((s.buffer c chunk).conn c).outer.reader.length + 1) (s.buffer c chunk) c := by
          rw [hstep, Cell.receive, hclosed, hraw]
          rfl
        have hbuffer : Muted s (s.buffer c chunk) :=
          ⟨.buffer s c chunk, (Quiet.buffer s c chunk).shrinks.bridges⟩
        rcases hready.receiveLoop_raw with hmuted | ⟨payload, reader, m, t, p, hnext, hm, hread, h⟩
        · refine .muted ?_ fun c' chunk' he _ _ => ?_
          · rw [hreceive]
            exact hbuffer.trans hmuted
          · cases he
            exact hraw
        · have hverified : Verified o s c m t p := hread.of_quiet
            ((Quiet.buffer s c chunk).trans (Quiet.setReader (s.buffer c chunk) c reader))
          rw [Cell.buffer, modify_conn_self] at hnext
          have hdrained := drained_of_not_splicesUnread hunread hborn hclosed hraw hnext hm hverified
          refine .spliced c chunk ⟨t, p.controller, c⟩ p rfl rfl rfl hverified.pending
            hverified.unclassified ?_
          rw [hreceive, h]
          exact hs.splices_of_verified hswitch hclosed hverified hdrained
  · refine .muted ?_ fun c' chunk' he hborn' => ?_
    · rw [show s.step o (.receive c chunk) = s from if_neg hborn]
      exact .refl s
    · cases he
      exact absurd hborn' hborn

lemma Inv.rawStep {s : Cell} (hs : Inv True s) (hswitch : s.Switching) (e : Event)
    (hlate : dialsBehindRefusal o s e = false) (hunread : splicesUnread o s e = false) :
    RawStep o s e := by
  have hmuted : (∀ c chunk, e ≠ .receive c chunk) → SameRaw s (s.step o e) → RawStep o s e := by
    intro hnot hsame
    rcases bridges_step o s e with hbridges | ⟨c, chunk, he⟩
    · exact .muted ⟨hsame, hbridges⟩ fun c chunk he => absurd he (hnot c chunk)
    · exact absurd he (hnot c chunk)
  cases e with
  | receive c chunk => exact hs.rawStep_receive hswitch hlate hunread
  | accept monitored =>
    apply hmuted (fun c chunk he => by cases he)
    have hnew := hs.unborn s.accepted (Nat.le_refl _)
    exact .accept (hswitch.framed _ (not_committed_of_unclassified hnew)) monitored
  | hostKeyReply c reply ephemeralSecret nonce =>
    apply hmuted (fun c chunk he => by cases he)
    show SameRaw s (s.onHostKeyReply o c reply ephemeralSecret nonce)
    unfold Cell.onHostKeyReply
    split
    · exact (SameRaw.mild s c (f := fun k => { k with awaiting := none }) fun _ => ⟨rfl, rfl⟩).trans
        (.hostKeyReply _ c _ _ _ _)
    · exact .refl s
  | ticketReply c reply now nonce =>
    apply hmuted (fun c chunk he => by cases he)
    show SameRaw s (s.onTicketReply c reply now nonce)
    unfold Cell.onTicketReply
    split
    · exact (SameRaw.mild s c (f := fun k => { k with awaiting := none }) fun _ => ⟨rfl, rfl⟩).trans
        (.ticketReply _ c _ _ _ _)
    · exact .refl s
  | timer handle => exact hmuted (fun c chunk he => by cases he) (.onTimer s handle)
  | peerClose c =>
    apply hmuted (fun c chunk he => by cases he)
    show SameRaw s (s.onPeerClose c)
    unfold Cell.onPeerClose
    split
    · exact .detach s c
    · exact .refl s
  | drain => exact hmuted (fun c chunk he => by cases he) (.drain s)
  | close => exact hmuted (fun c chunk he => by cases he) (.close s)

lemma Muted.newBridges {s : Cell} {e : Event} (h : Muted s (s.step o e)) :
    s.newBridges o e = [] := by
  rw [Cell.newBridges, List.filter_eq_nil_iff]
  intro b hb
  simpa using h.bridges b hb

lemma conn_forward_ne (s : Cell) (route : RawRoute) {c : ConnId} (h : c ≠ route.target)
    (bytes : Bytes) : (s.forward route bytes).conn c = s.conn c := by
  rw [forward, sendRaw, modify_conn_ne _ h]
  rfl

lemma conn_forward_target {s : Cell} (route : RawRoute)
    (h : (s.conn route.target).outer.closed = false) (bytes : Bytes) :
    (s.forward route bytes).conn route.target
      = { s.conn route.target with outer := { (s.conn route.target).outer with
          sent := (s.conn route.target).outer.sent ++ [.raw bytes] } } := by
  rw [forward, sendRaw, modify_conn_self]
  show (if (s.conn route.target).outer.closed = true then _ else _) = _
  rw [if_neg (by simp [h])]
  rfl

end Cell

variable (o : CellOptions)

/-- What arrived on `c` in a run once `c` was told `data-ready`, in order. -/
def arrivedReady (c : ConnId) (es : List Event) : Bytes :=
  (cellMachine o).outputs (Cell.arrived c) es

/-- Each end of a bridge was sent exactly what arrived on the other behind `data-ready`, and no
other connection was sent a raw byte. -/
structure BridgesOnlyReady (es : List Event) : Prop where
  toHost : ∀ b ∈ createdBridges o es,
    (((cellMachine o).run es).conn b.host).outer.rawSent = arrivedReady o b.controller es
  toController : ∀ b ∈ createdBridges o es,
    (((cellMachine o).run es).conn b.controller).outer.rawSent = arrivedReady o b.host es
  unbridged : ∀ c, (∀ b ∈ createdBridges o es, c ∉ b.ends) →
    (((cellMachine o).run es).conn c).outer.rawSent = []

/-- What the runs that splice over drained readers keep: `c` forwards to `d` what arrives. -/
structure Carries (es : List Event) (s : Cell) (b : Bridge) : Prop where
  controller : (s.conn b.controller).outer.Piped ⟨b.ticket, .controllerToHost, b.host⟩
  host : (s.conn b.host).outer.Piped ⟨b.ticket, .hostToController, b.controller⟩
  toHost : (s.conn b.host).outer.rawSent = arrivedReady o b.controller es
  toController : (s.conn b.controller).outer.rawSent = arrivedReady o b.host es

/-- The bridges carry what they should, and every other connection is framed. -/
structure Carried (es : List Event) (s : Cell) : Prop where
  bridges : ∀ b ∈ createdBridges o es, Carries o es s b
  framed : ∀ c, (∀ b ∈ createdBridges o es, c ∉ b.ends) → (s.conn c).outer.Framed
  unready : ∀ c, (∀ b ∈ createdBridges o es, c ∉ b.ends) → arrivedReady o c es = []

variable {o}

lemma arrivedReady_snoc (c : ConnId) (es : List Event) (e : Event) :
    arrivedReady o c (es ++ [e])
      = arrivedReady o c es ++ Cell.arrived c ((cellMachine o).run es) e :=
  (cellMachine o).outputs_snoc _ es e

lemma Bridge.mem_ends {b : Bridge} {c : ConnId} :
    c ∈ b.ends ↔ c = b.controller ∨ c = b.host := by simp [Bridge.ends]

lemma eq_of_mem_ends {es : List Event} {b b' : Bridge} (hb : b ∈ createdBridges o es)
    (hb' : b' ∈ createdBridges o es) {c : ConnId} (hc : c ∈ b.ends) (hc' : c ∈ b'.ends) : b = b' := by
  by_contra hne
  have hpairwise := (List.nodup_flatMap.1 (nodup_createdBridges o es).1).2
  have hsymm : Std.Symm (Function.onFun List.Disjoint Bridge.ends) := ⟨fun x y h => h.symm⟩
  have hdisjoint := hpairwise.forall hb hb' hne
  exact hdisjoint hc hc'

lemma controller_ne_host_of_created {es : List Event} {b : Bridge}
    (hb : b ∈ createdBridges o es) : b.controller ≠ b.host := by
  have hends := (List.nodup_flatMap.1 (nodup_createdBridges o es).1).1 b hb
  intro h
  simp [Bridge.ends, h] at hends

lemma Carried.switching {es : List Event} (h : Carried o es ((cellMachine o).run es)) :
    ((cellMachine o).run es).Switching where
  framed c hc := by
    apply h.framed c
    intro b hb hmem
    exact hc ((nodup_createdBridges o es).2 c (List.mem_flatMap.2 ⟨b, hb, hmem⟩))
  handler c hraw := by
    by_cases hends : ∃ b ∈ createdBridges o es, c ∈ b.ends
    · obtain ⟨b, hb, hmem⟩ := hends
      rcases Bridge.mem_ends.1 hmem with rfl | rfl
      · exact ⟨_, (h.bridges b hb).controller.rawHandler⟩
      · exact ⟨_, (h.bridges b hb).host.rawHandler⟩
    · have hframed := h.framed c fun b hb hmem => hends ⟨b, hb, hmem⟩
      rw [hframed.raw] at hraw
      cases hraw

lemma Carried.arrived_eq_nil {es : List Event} {s : Cell} (h : Carried o es s) {c : ConnId}
    {e : Event} (hborn : ∀ b ∈ createdBridges o es, ∀ x ∈ b.ends, x < s.accepted)
    (hframed : ∀ c chunk, e = .receive c chunk → c < s.accepted →
      (s.conn c).outer.closed = false → (s.conn c).outer.raw = false) :
    Cell.arrived c s e = [] := by
  cases e with
  | receive c' chunk =>
    apply if_neg
    rintro ⟨rfl, hopen, hready⟩
    by_cases hends : ∃ b ∈ createdBridges o es, c' ∈ b.ends
    · obtain ⟨b, hb, hmem⟩ := hends
      have hnot := hframed c' chunk rfl (hborn b hb c' hmem) hopen
      rcases Bridge.mem_ends.1 hmem with rfl | rfl
      · rw [(h.bridges b hb).controller.raw] at hnot
        cases hnot
      · rw [(h.bridges b hb).host.raw] at hnot
        cases hnot
    · have hready' := (h.framed c' fun b hb hmem => hends ⟨b, hb, hmem⟩).ready
      rw [hready'] at hready
      cases hready
  | _ => rfl

lemma Carries.same {es : List Event} {e : Event} {s' : Cell} {b : Bridge}
    (h : Carries o es ((cellMachine o).run es) b)
    (hraw : ∀ c ∈ b.ends, (((cellMachine o).run es).conn c).SameRaw (s'.conn c))
    (harrived : ∀ c ∈ b.ends, Cell.arrived c ((cellMachine o).run es) e = []) :
    Carries o (es ++ [e]) s' b := by
  have hc : b.controller ∈ b.ends := Bridge.mem_ends.2 (.inl rfl)
  have hh : b.host ∈ b.ends := Bridge.mem_ends.2 (.inr rfl)
  refine ⟨(hraw _ hc).piped h.controller, (hraw _ hh).piped h.host, ?_, ?_⟩
  · rw [(hraw _ hh).rawSent, h.toHost, arrivedReady_snoc, harrived _ hc, List.append_nil]
  · rw [(hraw _ hc).rawSent, h.toController, arrivedReady_snoc, harrived _ hh, List.append_nil]

lemma created_born (es : List Event) :
    ∀ b ∈ createdBridges o es, ∀ c ∈ b.ends, c < ((cellMachine o).run es).accepted := by
  intro b hb c hc
  apply (inv_run o es).born
  rcases (nodup_createdBridges o es).2 c (List.mem_flatMap.2 ⟨b, hb, hc⟩) with hrole | ⟨hrole, -⟩
  · rw [hrole]; decide
  · rw [hrole]; decide

lemma open_ends {es : List Event} (hs : Cell.Inv True ((cellMachine o).run es)) {b : Bridge}
    (hb : b ∈ createdBridges o es) {c : ConnId} (hc : c ∈ b.ends)
    (hopen : (((cellMachine o).run es).conn c).outer.closed = false) :
    (((cellMachine o).run es).conn b.controller).outer.closed = false ∧
      (((cellMachine o).run es).conn b.host).outer.closed = false := by
  rcases live_or_severed o es b hb with hlive | ⟨hcontroller, hhost⟩
  · exact ⟨(hs.controllers b hlive).2.2, (hs.dialed b hlive).2.2 trivial⟩
  · rcases Bridge.mem_ends.1 hc with rfl | rfl
    · rw [hcontroller] at hopen
      cases hopen
    · rw [hhost] at hopen
      cases hopen

lemma Carried.muted {es : List Event} {e : Event} (h : Carried o es ((cellMachine o).run es))
    (hmuted : Cell.Muted ((cellMachine o).run es) (((cellMachine o).run es).step o e))
    (hframed : ∀ c chunk, e = .receive c chunk → c < ((cellMachine o).run es).accepted →
      (((cellMachine o).run es).conn c).outer.closed = false →
        (((cellMachine o).run es).conn c).outer.raw = false) :
    Carried o (es ++ [e]) (((cellMachine o).run es).step o e) := by
  have hcreated : createdBridges o (es ++ [e]) = createdBridges o es := by
    rw [createdBridges_snoc, hmuted.newBridges, List.append_nil]
  have harrived : ∀ c, Cell.arrived c ((cellMachine o).run es) e = [] :=
    fun c => h.arrived_eq_nil (created_born es) hframed
  refine ⟨fun b hb => ?_, fun c hc => ?_, fun c hc => ?_⟩
  · rw [hcreated] at hb
    exact (h.bridges b hb).same (fun c _ => hmuted.raw c) fun c _ => harrived c
  · rw [hcreated] at hc
    exact (hmuted.raw c).framed (h.framed c hc)
  · rw [hcreated] at hc
    rw [arrivedReady_snoc, h.unready c hc, harrived, List.append_nil]

lemma Cell.arrived_self {s : Cell} {c : ConnId} (hopen : (s.conn c).outer.closed = false)
    (hready : (s.conn c).outer.ready = true) (chunk : Bytes) :
    arrived c s (.receive c chunk) = chunk := if_pos ⟨rfl, hopen, hready⟩

lemma Cell.arrived_ne {c c' : ConnId} (h : c' ≠ c) (s : Cell) (chunk : Bytes) :
    arrived c s (.receive c' chunk) = [] := if_neg fun hc => h hc.1

lemma Carries.forwarded {es : List Event} {c : ConnId} (chunk : Bytes) {route : RawRoute}
    {b : Bridge} (h : Carries o es ((cellMachine o).run es) b) (hc : c ∈ b.ends)
    (hne : b.controller ≠ b.host)
    (hopen : (((cellMachine o).run es).conn b.controller).outer.closed = false ∧
      (((cellMachine o).run es).conn b.host).outer.closed = false)
    (hhandler : (((cellMachine o).run es).conn c).outer.rawHandler = some route) :
    route.target ∈ b.ends ∧
      Carries o (es ++ [.receive c chunk]) (((cellMachine o).run es).forward route chunk) b := by
  have hsent : ∀ (k : Conn) (bytes : Bytes), OuterConnection.rawSent
      { k.outer with sent := k.outer.sent ++ [.raw bytes] } = k.outer.rawSent ++ bytes := by
    intro k bytes
    simp [OuterConnection.rawSent, Outbound.rawBytes]
  have hready : ∀ (k : Conn) (bytes : Bytes) (route : RawRoute), k.outer.Piped route →
      OuterConnection.Piped { k.outer with sent := k.outer.sent ++ [.raw bytes] } route := by
    intro k bytes route hk
    refine ⟨hk.raw, hk.rawHandler, ?_⟩
    have hsome := hk.ready
    unfold OuterConnection.ready at hsome ⊢
    rw [List.any_append, hsome, Bool.true_or]
  rcases Bridge.mem_ends.1 hc with rfl | rfl
  · obtain rfl : route = ⟨b.ticket, .controllerToHost, b.host⟩ :=
      Option.some.inj (hhandler.symm.trans h.controller.rawHandler)
    have htarget := Cell.conn_forward_target ⟨b.ticket, .controllerToHost, b.host⟩ hopen.2 chunk
    have hself := Cell.conn_forward_ne ((cellMachine o).run es)
      ⟨b.ticket, .controllerToHost, b.host⟩ hne chunk
    refine ⟨Bridge.mem_ends.2 (.inr rfl), ?_, ?_, ?_, ?_⟩
    · rw [hself]
      exact h.controller
    · rw [htarget]
      exact hready _ chunk _ h.host
    · rw [htarget, hsent, h.toHost, arrivedReady_snoc, Cell.arrived_self hopen.1 h.controller.ready]
    · rw [hself, h.toController, arrivedReady_snoc, Cell.arrived_ne hne, List.append_nil]
  · obtain rfl : route = ⟨b.ticket, .hostToController, b.controller⟩ :=
      Option.some.inj (hhandler.symm.trans h.host.rawHandler)
    have htarget := Cell.conn_forward_target ⟨b.ticket, .hostToController, b.controller⟩
      hopen.1 chunk
    have hself := Cell.conn_forward_ne ((cellMachine o).run es)
      ⟨b.ticket, .hostToController, b.controller⟩ hne.symm chunk
    refine ⟨Bridge.mem_ends.2 (.inl rfl), ?_, ?_, ?_, ?_⟩
    · rw [htarget]
      exact hready _ chunk _ h.controller
    · rw [hself]
      exact h.host
    · rw [hself, h.toHost, arrivedReady_snoc, Cell.arrived_ne hne.symm, List.append_nil]
    · rw [htarget, hsent, h.toController, arrivedReady_snoc, Cell.arrived_self hopen.2 h.host.ready]

lemma Carried.forwarded {es : List Event} {c : ConnId} {chunk : Bytes} {route : RawRoute}
    (h : Carried o es ((cellMachine o).run es)) (hs : Cell.Inv True ((cellMachine o).run es))
    (hopen : (((cellMachine o).run es).conn c).outer.closed = false)
    (hraw : (((cellMachine o).run es).conn c).outer.raw = true)
    (hhandler : (((cellMachine o).run es).conn c).outer.rawHandler = some route)
    (hstep : ((cellMachine o).run es).step o (.receive c chunk)
      = ((cellMachine o).run es).forward route chunk) :
    Carried o (es ++ [.receive c chunk]) (((cellMachine o).run es).step o (.receive c chunk)) := by
  obtain ⟨b, hb, hc⟩ : ∃ b ∈ createdBridges o es, c ∈ b.ends := by
    by_contra hnone
    have hframed := h.framed c fun b hb hmem => hnone ⟨b, hb, hmem⟩
    rw [hframed.raw] at hraw
    cases hraw
  have hcreated : createdBridges o (es ++ [.receive c chunk]) = createdBridges o es := by
    have hnone : ((cellMachine o).run es).newBridges o (.receive c chunk) = [] := by
      rw [Cell.newBridges, hstep, (Cell.Quiet.forward _ route chunk).tables.bridges, List.filter_eq_nil_iff]
      intro b hb
      simpa using hb
    rw [createdBridges_snoc, hnone, List.append_nil]
  obtain ⟨htarget, hcarries⟩ := (h.bridges b hb).forwarded chunk hc
    (controller_ne_host_of_created hb) (open_ends hs hb hc hopen) hhandler
  rw [hstep]
  refine ⟨fun b' hb' => ?_, fun c' hc' => ?_, fun c' hc' => ?_⟩
  · rw [hcreated] at hb'
    by_cases hbb : b' = b
    · rw [hbb]
      exact hcarries
    · -- the ends of another bridge were neither read nor written
      have hdisjoint : ∀ x ∈ b'.ends, x ∉ b.ends :=
        fun x hx hx' => hbb (eq_of_mem_ends hb' hb hx hx')
      refine (h.bridges b' hb').same (fun x hx => ?_) fun x hx => ?_
      · have hne : x ≠ route.target := fun he => hdisjoint x hx (he ▸ htarget)
        rw [Cell.conn_forward_ne _ route hne]
        exact .refl _
      · refine Cell.arrived_ne (fun he => ?_) _ chunk
        rw [he] at hc
        exact hdisjoint x hx hc
  · rw [hcreated] at hc'
    have hne : c' ≠ route.target := fun he => hc' b hb (he ▸ htarget)
    rw [Cell.conn_forward_ne _ route hne]
    exact h.framed c' hc'
  · rw [hcreated] at hc'
    have hne : c ≠ c' := by
      rintro rfl
      exact hc' b hb hc
    rw [arrivedReady_snoc, h.unready c' hc', Cell.arrived_ne hne, List.append_nil]

lemma Carried.spliced {es : List Event} {c : ConnId} {chunk : Bytes} {b : Bridge}
    {p : PendingBridge} (h : Carried o es ((cellMachine o).run es))
    (hhost : b.host = c) (hcontroller : b.controller = p.controller)
    (hpending : ((cellMachine o).run es).pending.get b.ticket = some p)
    (hrole : (((cellMachine o).run es).conn c).role = .unclassified)
    (hsplices : Cell.Splices ((cellMachine o).run es)
      (((cellMachine o).run es).step o (.receive c chunk)) b) :
    Carried o (es ++ [.receive c chunk]) (((cellMachine o).run es).step o (.receive c chunk)) := by
  have hs := inv_run o es
  -- neither end was in a bridge before
  have hfresh : ∀ x ∈ b.ends, ¬ ((cellMachine o).run es).Committed x := by
    intro x hx
    rcases Bridge.mem_ends.1 hx with rfl | rfl
    · rw [hcontroller]
      exact hs.not_committed_of_pending hpending
    · rw [hhost]
      exact Cell.not_committed_of_unclassified hrole
  have hunused : ∀ x ∈ b.ends, ∀ b' ∈ createdBridges o es, x ∉ b'.ends := fun x hx b' hb' hmem =>
    hfresh x hx ((nodup_createdBridges o es).2 x (List.mem_flatMap.2 ⟨b', hb', hmem⟩))
  have hnew : ((cellMachine o).run es).newBridges o (.receive c chunk) = [b] := by
    have hnot : b ∉ ((cellMachine o).run es).bridges := by
      intro hmem
      have hbridge := (hs.tidy c).hosting (.inl hrole)
      rw [← hhost, (hs.dialed b hmem).2.1] at hbridge
      cases hbridge.2
    rw [Cell.newBridges, hsplices.bridges, List.filter_append, List.filter_eq_nil_iff.2, List.nil_append,
      List.filter_cons_of_pos (by simpa using hnot), List.filter_nil]
    intro b' hb'
    simpa using hb'
  have harrived : ∀ x, Cell.arrived x ((cellMachine o).run es) (.receive c chunk) = [] := by
    intro x
    apply if_neg
    rintro ⟨rfl, -, hready⟩
    have hframed := h.framed c (hunused c (Bridge.mem_ends.2 (.inr hhost.symm)))
    rw [hframed.ready] at hready
    cases hready
  have hnothing : ∀ x, (∀ b' ∈ createdBridges o es, x ∉ b'.ends) →
      arrivedReady o x (es ++ [.receive c chunk]) = [] := by
    intro x hx
    rw [arrivedReady_snoc, h.unready x hx, harrived, List.append_nil]
  refine ⟨fun b' hb' => ?_, fun x hx => ?_, fun x hx => ?_⟩
  · rw [createdBridges_snoc, hnew] at hb'
    rcases List.mem_append.1 hb' with hold | hone
    · have hne : ∀ x ∈ b'.ends, x ≠ b.controller ∧ x ≠ b.host := fun x hx =>
        ⟨fun he => hunused x (Bridge.mem_ends.2 (.inl he)) b' hold hx,
          fun he => hunused x (Bridge.mem_ends.2 (.inr he)) b' hold hx⟩
      exact (h.bridges b' hold).same (fun x hx => hsplices.others x (hne x hx).1 (hne x hx).2)
        fun x _ => harrived x
    · obtain rfl := List.mem_singleton.1 hone
      have hc : b'.controller ∈ b'.ends := Bridge.mem_ends.2 (.inl rfl)
      have hh : b'.host ∈ b'.ends := Bridge.mem_ends.2 (.inr rfl)
      refine ⟨hsplices.controller, hsplices.host, ?_, ?_⟩
      · rw [hsplices.rawSent, hnothing _ (hunused _ hc)]
        exact (h.framed _ (hunused _ hh)).rawSent
      · rw [hsplices.rawSent, hnothing _ (hunused _ hh)]
        exact (h.framed _ (hunused _ hc)).rawSent
  · rw [createdBridges_snoc, hnew] at hx
    have hne : x ∉ b.ends := hx b (List.mem_append_right _ (List.mem_singleton.2 rfl))
    have hframed := h.framed x fun b' hb' => hx b' (List.mem_append_left _ hb')
    exact (hsplices.others x (fun he => hne (Bridge.mem_ends.2 (.inl he)))
      fun he => hne (Bridge.mem_ends.2 (.inr he))).framed hframed
  · rw [createdBridges_snoc, hnew] at hx
    exact hnothing x fun b' hb' => hx b' (List.mem_append_left _ hb')

lemma carried_run (o : CellOptions) {es : List Event}
    (hes : (cellMachine o).Meets (fun s e => dialsBehindRefusal o s e = false ∧
      splicesUnread o s e = false) es) : Carried o es ((cellMachine o).run es) := by
  induction es using List.reverseRecOn with
  | nil =>
    refine ⟨fun b hb => (by cases hb), fun c _ => ?_, fun c _ => rfl⟩
    constructor <;> rfl
  | append_singleton es e ih =>
    obtain ⟨hpre, hlate, hunread⟩ := (cellMachine o).meets_snoc.1 hes
    have h := ih hpre
    have hs := inv_run_of_meets o (hpre.mono _ fun s e he => he.1)
    rw [Machine.run_snoc]
    cases hs.rawStep h.switching e hlate hunread with
    | muted hmuted hframed => exact h.muted hmuted hframed
    | forwarded c chunk route he hopen hraw hhandler hstep =>
      subst he
      exact h.forwarded hs hopen hraw hhandler hstep
    | spliced c chunk b p he hhost hcontroller hpending hrole hsplices =>
      subst he
      exact h.spliced hhost hcontroller hpending hrole hsplices

/-- **A run that splices over drained readers bridges exactly what arrives behind `data-ready`.** -/
theorem bridgesOnlyReady_of_drained (o : CellOptions) (es : List Event)
    (hes : (cellMachine o).Meets (fun s e => dialsBehindRefusal o s e = false ∧
      splicesUnread o s e = false) es) : BridgesOnlyReady o es where
  toHost b hb := ((carried_run o hes).bridges b hb).toHost
  toController b hb := ((carried_run o hes).bridges b hb).toController
  unbridged c hc := ((carried_run o hes).framed c hc).rawSent

/-- Both ends send a byte over the spliced bridge. -/
theorem bridgesOnlyReady_spliced : BridgesOnlyReady Demo.options
    (Demo.spliced ++ [.receive 1 [1, 2], .receive 2 [3]]) := by
  have hchecks : (cellMachine Demo.options).checks
      (fun s e => !dialsBehindRefusal Demo.options s e && !splicesUnread Demo.options s e) Cell.init
      (Demo.spliced ++ [.receive 1 [1, 2], .receive 2 [3]]) = true := by
    decide +kernel
  refine bridgesOnlyReady_of_drained Demo.options _ ?_
  exact ((cellMachine Demo.options).meets_of_checks hchecks).mono _ fun s e h => by simpa using h

/-- Connection 2 dials, and sends a byte in the same chunk. -/
def Demo.splicedEarly : List Event :=
  Demo.waiting ++ [.receive 2 (outerFrame Demo.hostAuth ++ [7])]

/-- The controller is sent the byte, although it came before `data-ready`. -/
theorem not_bridgesOnlyReady_splicedEarly : ¬ BridgesOnlyReady Demo.options Demo.splicedEarly := by
  intro h
  obtain ⟨b, hb, hsent⟩ : ∃ b ∈ createdBridges Demo.options Demo.splicedEarly,
      (((cellMachine Demo.options).run Demo.splicedEarly).conn b.controller).outer.rawSent
        ≠ arrivedReady Demo.options b.host Demo.splicedEarly := by
    decide +kernel
  exact hsent (h.toController b hb)

end Pherry.RelayCore
