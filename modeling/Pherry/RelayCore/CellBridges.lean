import Pherry.RelayCore.SpliceSafety

/-!
# How registrations appear and bridges end

A connection is registered only by its own chunk, and a bridge ends only with both of its ends
closed. Both follow from one list of what a message can do to the cell.
-/

namespace Pherry.RelayCore

open Lib

namespace Cell

variable {o : CellOptions} {strict : Prop}

/-! ## What a message can do -/

/-- A change of a connection that keeps its duplex and its bridge. -/
def Mild (f : Conn → Conn) : Prop := ∀ k, (f k).outer = k.outer ∧ (f k).bridge = k.bridge

/-- The states a message of `c` can lead to. -/
inductive Dispatched (s : Cell) (c : ConnId) : Cell → Prop
  | kept (f : Conn → Conn) (hf : Mild f) : Dispatched s c (s.modify c f)
  | refused (f : Conn → Conn) (hf : Mild f) (code : RelayCloseCode) :
      Dispatched s c ((s.modify c f).refuse c code)
  | detached : Dispatched s c (s.detach c)
  | registered (f : Conn → Conn) (hf : Mild f) (hostId : JsString) (dataKey : Bytes) :
      Dispatched s c ((s.modify c f).register c hostId dataKey)
  | greeted (f : Conn → Conn) (hf : Mild f) (hostId : JsString) (dataKey : Bytes) :
      Dispatched s c (((s.modify c f).register c hostId dataKey).send c (.hostRegistered hostId))
  | spliced (f : Conn → Conn) (hf : Mild f) (p : PendingBridge) (t : Ticket) :
      Dispatched s c (((s.modify c f).consume c p t).splice p.controller c t)

lemma mild_id : Mild fun k => k := fun _ => ⟨rfl, rfl⟩

lemma modify_id (s : Cell) (c : ConnId) : s.modify c (fun k => k) = s := by
  rw [modify, Function.update_eq_self]

lemma modify_modify (s : Cell) (c : ConnId) (f g : Conn → Conn) :
    (s.modify c f).modify c g = s.modify c fun k => g (f k) := by
  simp only [modify, Function.update_self, Function.update_idem]

lemma dispatched_refuse (s : Cell) (c : ConnId) (code : RelayCloseCode) :
    Dispatched s c (s.refuse c code) := by
  have h := Dispatched.refused (s := s) (c := c) _ mild_id code
  rwa [modify_id] at h

lemma dispatched_classify (s : Cell) (c : ConnId) (m : OuterMessage) :
    Dispatched s c (s.classify o c m) := by
  unfold classify
  split
  · exact .kept _ fun _ => ⟨rfl, rfl⟩
  · unfold beginControllerBridge
    split
    · exact .refused (fun k => { k with role := .controllerData }) (fun _ => ⟨rfl, rfl⟩) .drained
    · rw [modify_modify]
      exact .kept _ fun _ => ⟨rfl, rfl⟩
  · next t mac =>
    rcases completeHostDial_cases (o := o) (s.modify c fun k => { k with role := .hostData })
      c t mac with ⟨code, h⟩ | ⟨p, -, -, h⟩
    · rw [h]
      exact .refused (fun k => { k with role := .hostData }) (fun _ => ⟨rfl, rfl⟩) code
    · rw [h]
      exact .spliced (fun k => { k with role := .hostData }) (fun _ => ⟨rfl, rfl⟩) p t
  · exact dispatched_refuse s c _

lemma dispatched_onProof (s : Cell) (c : ConnId) (m : OuterMessage) :
    Dispatched s c (settled (s.onProof o c m)) := by
  have hdrop : Mild fun k => { k with challenge := none } := fun _ => ⟨rfl, rfl⟩
  unfold onProof
  split
  · split
    · simp only
      split
      · exact .refused _ hdrop _
      · split
        · exact .greeted _ hdrop _ _
        · exact .registered _ hdrop _ _
    · exact dispatched_refuse s c _
  · exact .refused _ hdrop _

lemma dispatched (s : Cell) (c : ConnId) (m : OuterMessage) :
    Dispatched s c (settled (s.dispatch o c m)) := by
  unfold dispatch
  split
  · exact dispatched_classify s c m
  · exact dispatched_onProof s c m
  · split
    · exact .detached
    · exact dispatched_refuse s c _
  · exact dispatched_refuse s c _
  · exact dispatched_refuse s c _

/-! ## Registrations -/

/-- No connection but `c` was registered. -/
def RegistersOnly (c : ConnId) (s s' : Cell) : Prop :=
  ∀ h d, s'.hosts.get h = some d → s.hosts.get h = some d ∨ d = c

lemma RegistersOnly.trans {c : ConnId} {s s' s'' : Cell} (h : RegistersOnly c s s')
    (h' : RegistersOnly c s' s'') : RegistersOnly c s s'' := by
  intro i d hget
  rcases h' i d hget with hget' | hd
  · exact h i d hget'
  · exact .inr hd

lemma Shrinks.registersOnly {s s' : Cell} (h : Shrinks s s') (c : ConnId) :
    RegistersOnly c s s' := fun i d hget => .inl (h.hosts i d hget)

lemma registersOnly_register (s : Cell) (c : ConnId) (h : JsString) (dataKey : Bytes) :
    RegistersOnly c s (s.register c h dataKey) := by
  intro i d hget
  have hhosts : (s.register c h dataKey).hosts = s.hosts.set h c := rfl
  rw [hhosts, InsertionMap.get_set] at hget
  by_cases hi : i = h
  · rw [if_pos hi] at hget
    exact .inr (Option.some.inj hget).symm
  · rw [if_neg hi] at hget
    exact .inl hget

lemma Dispatched.registersOnly {s s' : Cell} {c : ConnId} (h : Dispatched s c s') :
    RegistersOnly c s s' := by
  cases h with
  | kept f hf => exact fun i d hget => .inl hget
  | refused f hf code => exact (Shrinks.refuse (s.modify c f) c code).registersOnly c
  | detached => exact (Shrinks.detach s c).registersOnly c
  | registered f hf hostId dataKey => exact registersOnly_register (s.modify c f) c hostId dataKey
  | greeted f hf hostId dataKey =>
    exact registersOnly_register (s.modify c f) c hostId dataKey
  | spliced f hf p t =>
    intro i d hget
    have hhosts : (((s.modify c f).consume c p t).splice p.controller c t).hosts = s.hosts :=
      (Quiet.pipe _ _).tables.hosts
    rw [hhosts] at hget
    exact .inl hget

lemma registersOnly_receiveLoop (fuel : ℕ) (s : Cell) (c : ConnId) :
    RegistersOnly c s (receiveLoop o fuel s c) := by
  induction fuel generalizing s with
  | zero => exact fun i d hget => .inl hget
  | succ fuel ih =>
    rcases receiveLoop_succ o fuel s c with h | ⟨s₁, hs₁, h⟩ |
      ⟨payload, reader, m, -, -, -, hd⟩
    · rw [h]
      exact fun i d hget => .inl hget
    · rw [h]
      rcases hs₁ with rfl | ⟨reader, rfl⟩
      · exact (Shrinks.fail s₁ c).registersOnly c
      · exact (Shrinks.fail (s.setReader c reader) c).registersOnly c
    · have hmessage := (dispatched (o := o) (s.setReader c reader) c m).registersOnly
      rcases hd with ⟨s', hd, h⟩ | ⟨s', hd, h⟩
      · rw [hd] at hmessage
        rw [h]
        exact RegistersOnly.trans hmessage ((Shrinks.fail s' c).registersOnly c)
      · rw [hd] at hmessage
        rw [h]
        exact RegistersOnly.trans hmessage (ih s')

/-- A registration of the next state is one of this state, or its connection was read. -/
lemma hosts_step (o : CellOptions) (s : Cell) (e : Event) {h : JsString} {c : ConnId}
    (hget : (s.step o e).hosts.get h = some c) :
    s.hosts.get h = some c ∨ ∃ chunk, e = .receive c chunk := by
  cases e with
  | receive c' chunk =>
    have honly : RegistersOnly c' s (s.onReceive o c' chunk) := by
      unfold onReceive
      split
      · unfold receive
        split
        · exact fun i d hget => .inl hget
        · split
          · exact (Shrinks.deliverRaw s c' chunk).registersOnly c'
          · exact registersOnly_receiveLoop _ (s.buffer c' chunk) c'
      · exact fun i d hget => .inl hget
    rcases honly h c hget with hold | rfl
    · exact .inl hold
    · exact .inr ⟨chunk, rfl⟩
  | accept monitored =>
    left
    have hsame : (s.accept monitored).hosts = s.hosts := by
      unfold accept
      split <;> rfl
    rw [← hsame]
    exact hget
  | hostKeyReply c' reply ephemeralSecret nonce =>
    exact .inl ((Shrinks.onHostKeyReply o s c' reply ephemeralSecret nonce).hosts h c hget)
  | ticketReply c' reply now nonce =>
    left
    rcases onTicketReply_cases s c' reply now nonce with hshrinks | ⟨t, record, control, rfl, ha⟩
    · exact hshrinks.hosts h c hget
    · rw [show s.step o (.ticketReply c' (.ok (some record)) now nonce) = _ from
        onTicketReply_of_accepts ha nonce] at hget
      exact hget
  | timer handle => exact .inl ((Shrinks.onTimer s handle).hosts h c hget)
  | peerClose c' => exact .inl ((Shrinks.onPeerClose s c').hosts h c hget)
  | drain =>
    left
    rcases Quiet.drain s with hsame | hquiet
    · rw [← hsame]
      exact hget
    · exact hquiet.shrinks.hosts h c hget
  | close => exact .inl ((Shrinks.close s).hosts h c hget)

/-! ## Bridges -/

/-- Both ends of the bridge are closed. -/
def Severed (s : Cell) (b : Bridge) : Prop :=
  (s.conn b.controller).outer.closed = true ∧ (s.conn b.host).outer.closed = true

/-- Closed connections stay closed, and a bridge is dropped only when both of its ends are. -/
structure Severs (s s' : Cell) : Prop where
  closed : ∀ c, (s.conn c).outer.closed = true → (s'.conn c).outer.closed = true
  bridges : ∀ b ∈ s.bridges, b ∈ s'.bridges ∨ s'.Severed b

lemma Severs.refl (s : Cell) : Severs s s := ⟨fun _ h => h, fun _ hb => .inl hb⟩

lemma Severs.trans {s s' s'' : Cell} (h : Severs s s') (h' : Severs s' s'') : Severs s s'' where
  closed c hc := h'.closed c (h.closed c hc)
  bridges b hb := by
    rcases h.bridges b hb with hkept | ⟨hcontroller, hhost⟩
    · exact h'.bridges b hkept
    · exact .inr ⟨h'.closed _ hcontroller, h'.closed _ hhost⟩

lemma Quiet.severs {s s' : Cell} (h : Quiet s s') : Severs s s' := by
  refine ⟨fun c hc => by rw [(h.conn c).closed]; exact hc, fun b hb => .inl ?_⟩
  rw [h.tables.bridges]
  exact hb

lemma severs_modify (s : Cell) (c : ConnId) {f : Conn → Conn} (hf : Mild f) :
    Severs s (s.modify c f) := by
  refine ⟨fun c' hclosed => ?_, fun b hb => .inl hb⟩
  by_cases hc : c' = c
  · rw [hc, modify_conn_self, (hf _).1, ← hc]
    exact hclosed
  · rw [modify_conn_ne s hc]
    exact hclosed

lemma ends_modify {s : Cell} {c : ConnId} {f : Conn → Conn} (hf : Mild f)
    (hends : ∀ b, (s.conn c).bridge = some b → c = b.controller ∨ c = b.host) :
    ∀ b, ((s.modify c f).conn c).bridge = some b → c = b.controller ∨ c = b.host := by
  intro b hb
  rw [modify_conn_self, (hf _).2] at hb
  exact hends b hb

lemma bridges_cleanupHost (s : Cell) (c : ConnId) : (s.cleanupHost c).bridges = s.bridges := by
  unfold cleanupHost
  split
  · rfl
  · split <;> rfl

lemma bridges_cleanupPending (s : Cell) (c : ConnId) :
    (s.cleanupPending c).bridges = s.bridges := by
  unfold cleanupPending
  split
  · rfl
  · split
    · rfl
    · split <;> rfl

lemma bridges_cleanup (s : Cell) (c : ConnId) {b : Bridge} (hb : b ∈ s.bridges) :
    b ∈ (s.cleanup c).bridges ∨
      ((s.conn c).bridge = some b ∧ ((s.cleanup c).conn (b.peer c)).outer.closed = true) := by
  have hconn : ((s.cleanupHost c).cleanupPending c).conn = s.conn := by
    rw [conn_cleanupPending, conn_cleanupHost]
  have hbridges : ((s.cleanupHost c).cleanupPending c).bridges = s.bridges := by
    rw [bridges_cleanupPending, bridges_cleanupHost]
  by_cases hown : (s.conn c).bridge = some b
  · right
    refine ⟨hown, ?_⟩
    have hclosed : ((((s.cleanupHost c).cleanupPending c).cleanupBridge c).conn (b.peer c)).outer.closed
        = true := by
      unfold cleanupBridge
      rw [hconn, hown]
      simp only [hbridges, hb, if_true]
      exact closed_closeOuter _ _
    unfold cleanup
    by_cases hpeer : b.peer c = c
    · rw [hpeer] at hclosed ⊢
      rw [modify_conn_self]
      exact hclosed
    · rw [modify_conn_ne _ hpeer]
      exact hclosed
  · left
    show b ∈ (((s.cleanupHost c).cleanupPending c).cleanupBridge c).bridges
    unfold cleanupBridge
    rw [hconn]
    split
    · rw [hbridges]
      exact hb
    · next bridge hbridge =>
      have hne : b ≠ bridge := by
        rintro rfl
        exact hown hbridge
      split
      · show b ∈ ((s.cleanupHost c).cleanupPending c).bridges.filter (· ≠ bridge)
        rw [hbridges]
        simp [hb, hne]
      · rw [hbridges]
        exact hb

lemma severs_detach {s : Cell} {c : ConnId}
    (hends : ∀ b, (s.conn c).bridge = some b → c = b.controller ∨ c = b.host) :
    Severs s (s.detach c) := by
  refine ⟨(Shrinks.detach s c).closed, fun b hb => ?_⟩
  rcases bridges_cleanup s c hb with hkept | ⟨hown, hpeer⟩
  · exact .inl hkept
  · right
    have hother := (Shrinks.closeOuter (s.cleanup c) c).closed _ hpeer
    have hself := closed_detach s c
    by_cases hc : b.controller = c
    · rw [Bridge.peer, if_pos hc] at hother
      exact ⟨by rw [hc]; exact hself, hother⟩
    · rw [Bridge.peer, if_neg hc] at hother
      have hhost : c = b.host := (hends b hown).resolve_left fun h => hc h.symm
      exact ⟨hother, by rw [← hhost]; exact hself⟩

lemma severs_refuse {s : Cell} {c : ConnId}
    (hends : ∀ b, (s.conn c).bridge = some b → c = b.controller ∨ c = b.host)
    (code : RelayCloseCode) : Severs s (s.refuse c code) := by
  have hsend : Quiet s (s.send c (.close code none)) := Quiet.send s c rfl
  refine hsend.severs.trans (severs_detach fun b hb => hends b ?_)
  rw [← (hsend.conn c).bridge]
  exact hb

lemma severs_register (s : Cell) (c : ConnId) (h : JsString) (dataKey : Bytes) :
    Severs s (s.register c h dataKey) := by
  have hsupersede : Severs s (s.supersede c h) := by
    refine ⟨(Shrinks.supersede s c h).closed, fun b hb => .inl ?_⟩
    rw [(tables_supersede s c h).bridges]
    exact hb
  have hmodify := severs_modify (s.supersede c h) c
    (f := fun k => { k with dataKey := some dataKey, role := .control }) fun _ => ⟨rfl, rfl⟩
  have hboth := hsupersede.trans hmodify
  exact ⟨hboth.closed, hboth.bridges⟩

lemma severs_splice (s : Cell) (c : ConnId) (p : PendingBridge) (t : Ticket) :
    Severs s ((s.consume c p t).splice p.controller c t) := by
  have hconsume : Severs s (s.consume c p t) := by
    have hmodify := severs_modify { s.clearTimeout p.timer with pending := s.pending.erase t } c
      (f := fun k => { k with ticket := some t, hostId := some p.hostId }) fun _ => ⟨rfl, rfl⟩
    exact ⟨hmodify.closed, hmodify.bridges⟩
  have hlink : Severs (s.consume c p t) ((s.consume c p t).link ⟨t, p.controller, c⟩) :=
    ⟨(Calm.link _ _).closed, fun b hb => .inl (List.mem_append_left _ hb)⟩
  exact (hconsume.trans hlink).trans (Quiet.pipe _ _).severs

lemma Dispatched.severs {s s' : Cell} {c : ConnId} (h : Dispatched s c s')
    (hends : ∀ b, (s.conn c).bridge = some b → c = b.controller ∨ c = b.host) : Severs s s' := by
  cases h with
  | kept f hf => exact severs_modify s c hf
  | refused f hf code =>
    exact (severs_modify s c hf).trans (severs_refuse (ends_modify hf hends) code)
  | detached => exact severs_detach hends
  | registered f hf hostId dataKey =>
    exact (severs_modify s c hf).trans (severs_register _ c hostId dataKey)
  | greeted f hf hostId dataKey =>
    have hregistered := (severs_modify s c hf).trans (severs_register _ c hostId dataKey)
    exact hregistered.trans (Quiet.send _ c rfl).severs
  | spliced f hf p t => exact (severs_modify s c hf).trans (severs_splice _ c p t)

lemma Ready.severs {fuel : ℕ} {s : Cell} {c : ConnId} (hs : Ready o strict fuel s c) :
    Severs s (Cell.receiveLoop o fuel s c) := by
  induction fuel generalizing s with
  | zero => exact .refl s
  | succ fuel ih =>
    rcases receiveLoop_succ o fuel s c with h | ⟨s₁, hs₁, h⟩ |
      ⟨payload, reader, m, -, hnext, hm, hd⟩
    · rw [h]
      exact .refl s
    · rw [h]
      rcases hs₁ with rfl | ⟨reader, rfl⟩
      · exact severs_refuse (hs.inv.ends c) _
      · have hquiet := Quiet.setReader s c reader
        exact hquiet.severs.trans (severs_refuse ((hs.inv.quiet hquiet).ends c) _)
    · have hquiet := Quiet.setReader s c reader
      have hmessage := hquiet.severs.trans
        ((dispatched (o := o) (s.setReader c reader) c m).severs ((hs.inv.quiet hquiet).ends c))
      have hafter := hs.take hnext hm
      rcases hd with ⟨s', hd, h⟩ | ⟨s', hd, h⟩
      · rw [hd] at hmessage hafter
        rw [h]
        have hinv : Inv strict s' := hafter
        exact hmessage.trans (severs_refuse (hinv.ends c) _)
      · rw [hd] at hmessage hafter
        rw [h]
        exact hmessage.trans (ih hafter)

lemma Inv.severs_deliverRaw {s : Cell} (hs : Inv strict s) (c : ConnId) (bytes : Bytes) :
    Severs s (s.deliverRaw c bytes) := by
  unfold Cell.deliverRaw
  split
  · exact (Quiet.forward s _ bytes).severs
  · split
    · have hset : Quiet s (s.modify c fun k =>
          { k with outer := { k.outer with rawBuffer := [], rawBufferBytes := 0 } }) := by
        refine Quiet.modify s c ?_ rfl
        constructor <;> rfl
      have hfail := hset.severs.trans (severs_refuse ((hs.quiet hset).ends c) .protocolError)
      have hclose : ∀ s : Cell, Severs s (s.closeOuter c) := fun s =>
        ⟨(Shrinks.closeOuter s c).closed, fun _ hb => .inl hb⟩
      exact hfail.trans (hclose _)
    · refine (Quiet.modify s c ?_ rfl).severs
      constructor <;> rfl

lemma Inv.severs_receive {s : Cell} (hs : Inv False s) (c : ConnId) (chunk : Bytes) :
    Severs s (s.onReceive o c chunk) := by
  unfold Cell.onReceive
  split
  · next hborn =>
    cases hclosed : (s.conn c).outer.closed with
    | true =>
      rw [Cell.receive, if_pos hclosed]
      exact .refl s
    | false =>
      cases hraw : (s.conn c).outer.raw with
      | true =>
        rw [Cell.receive, if_neg (by simp [hclosed]), if_pos hraw]
        exact hs.severs_deliverRaw c chunk
      | false =>
        have hready := hs.ready_buffer (o := o) hborn hclosed hraw chunk
          fun h => h.elim
        have hreceive : s.receive o c chunk = Cell.receiveLoop o
            (((s.buffer c chunk).conn c).outer.reader.length + 1) (s.buffer c chunk) c := by
          rw [Cell.receive, hclosed, hraw]
          rfl
        rw [hreceive]
        exact (Quiet.buffer s c chunk).severs.trans hready.severs
  · exact .refl s

lemma severed_foldl {l : List Bridge} {b : Bridge} (hb : b ∈ l) (s : Cell) :
    (l.foldl (fun s b => (s.closeOuter b.controller).closeOuter b.host) s).Severed b := by
  have hone : ∀ (s : Cell) (b : Bridge),
      Shrinks s ((s.closeOuter b.controller).closeOuter b.host) :=
    fun s b => (Shrinks.closeOuter s b.controller).trans (.closeOuter _ _)
  induction l generalizing s with
  | nil => cases hb
  | cons b' l ih =>
    rcases List.mem_cons.1 hb with rfl | hmem
    · have hrest := Shrinks.foldl hone l ((s.closeOuter b.controller).closeOuter b.host)
      have hcontroller := (Shrinks.closeOuter (s.closeOuter b.controller) b.host).closed _
        (closed_closeOuter s b.controller)
      exact ⟨hrest.closed _ hcontroller, hrest.closed _ (closed_closeOuter _ b.host)⟩
    · exact ih hmem _

lemma severs_close (s : Cell) : Severs s s.close := by
  refine ⟨(Shrinks.close s).closed, fun b hb => ?_⟩
  cases hclosed : s.closed with
  | true =>
    rw [close, hclosed]
    exact .inl hb
  | false =>
    right
    have hbridges : b ∈ ({ s with closed := true } : Cell).closePendings.bridges := by
      have hsame := (foldl_closes_tables
        (f := fun (s : Cell) (p : PendingBridge) => (s.clearTimeout p.timer).closeOuter p.controller)
        (fun _ _ => ⟨rfl, rfl, rfl⟩) s.pending.values { s with closed := true }).2.2
      show b ∈ Cell.bridges (List.foldl _ _ _)
      rw [hsame]
      exact hb
    have hsevered := severed_foldl hbridges ({ s with closed := true } : Cell).closePendings
    have hhosts := Shrinks.closeHosts ({ s with closed := true } : Cell).closePendings.closeBridges
    rw [close, hclosed]
    exact ⟨hhosts.closed _ hsevered.1, hhosts.closed _ hsevered.2⟩

lemma severs_resume (s : Cell) (c : ConnId) : Severs s (s.resume c) :=
  severs_modify s c fun _ => ⟨rfl, rfl⟩

lemma severs_hostKeyReply {s : Cell} {c : ConnId}
    (hends : ∀ b, (s.conn c).bridge = some b → c = b.controller ∨ c = b.host)
    (hostId : JsString) (reply : Except Unit (Option Bytes)) (ephemeralSecret : Bytes)
    (nonce : Bytes32) : Severs s (s.hostKeyReply o c hostId reply ephemeralSecret nonce) := by
  unfold hostKeyReply
  split
  · exact severs_refuse hends _
  · split
    · exact .refl s
    · split
      · exact severs_refuse hends _
      · next staticPub =>
        have hset : Mild fun k => { k with
            hostId := some hostId
            hostStaticPub := some staticPub
            challenge := some (makeChallenge o.crypto o.cellId ephemeralSecret nonce) } :=
          fun _ => ⟨rfl, rfl⟩
        simp only
        split
        · exact (severs_modify s c hset).trans (Quiet.send _ c rfl).severs
        · exact (severs_modify s c hset).trans (severs_refuse (ends_modify hset hends) _)

lemma severs_ticketReply {s : Cell} {c : ConnId}
    (hends : ∀ b, (s.conn c).bridge = some b → c = b.controller ∨ c = b.host)
    (ticket : Ticket) (reply : Except Unit (Option TicketRecord)) (now : ℤ) (nonce : Bytes32) :
    Severs s (s.ticketReply c ticket reply now nonce) := by
  have hrefuse : ∀ code, Severs s (s.refuse c code) := severs_refuse hends
  unfold ticketReply
  split
  · exact hrefuse _
  · split
    · exact .refl s
    · split
      · exact hrefuse _
      · next record =>
        split
        · exact hrefuse _
        · split
          · exact hrefuse _
          · split
            · exact hrefuse _
            · next control _ =>
              refine ⟨fun c' hclosed => ?_, fun b hb => .inl hb⟩
              rw [closed_openPending]
              exact hclosed

lemma Inv.bridges_kept {s : Cell} (hs : Inv False s) (e : Event) {b : Bridge}
    (hb : b ∈ s.bridges) : b ∈ (s.step o e).bridges ∨ (s.step o e).Severed b := by
  cases e with
  | receive c chunk => exact (hs.severs_receive c chunk).bridges b hb
  | accept monitored =>
    left
    show b ∈ (s.accept monitored).bridges
    unfold Cell.accept
    split <;> exact hb
  | hostKeyReply c reply ephemeralSecret nonce =>
    have hends := ends_modify (f := fun k => { k with awaiting := none }) (fun _ => ⟨rfl, rfl⟩)
      (hs.ends c)
    show b ∈ (s.onHostKeyReply o c reply ephemeralSecret nonce).bridges ∨
      (s.onHostKeyReply o c reply ephemeralSecret nonce).Severed b
    unfold Cell.onHostKeyReply
    split
    · next hostId _ =>
      exact ((severs_resume s c).trans (severs_hostKeyReply hends hostId reply _ nonce)).bridges b hb
    · exact .inl hb
  | ticketReply c reply now nonce =>
    have hends := ends_modify (f := fun k => { k with awaiting := none }) (fun _ => ⟨rfl, rfl⟩)
      (hs.ends c)
    show b ∈ (s.onTicketReply c reply now nonce).bridges ∨
      (s.onTicketReply c reply now nonce).Severed b
    unfold Cell.onTicketReply
    split
    · next ticket _ =>
      exact ((severs_resume s c).trans (severs_ticketReply hends ticket reply now nonce)).bridges b hb
    · exact .inl hb
  | timer handle =>
    show b ∈ (s.onTimer handle).bridges ∨ (s.onTimer handle).Severed b
    unfold Cell.onTimer
    split
    · unfold Cell.onBridgeTimeout
      split
      · exact .inl hb
      · next pending _ =>
        refine (severs_refuse (c := pending.controller) ?_ .bridgeTimeout).bridges b hb
        exact hs.ends pending.controller
    · exact .inl hb
  | peerClose c =>
    show b ∈ (s.onPeerClose c).bridges ∨ (s.onPeerClose c).Severed b
    unfold Cell.onPeerClose
    split
    · exact (severs_detach (hs.ends c)).bridges b hb
    · exact .inl hb
  | drain =>
    left
    show b ∈ s.drain.bridges
    rcases Quiet.drain s with hsame | hquiet
    · rw [hsame]
      exact hb
    · rw [hquiet.tables.bridges]
      exact hb
  | close => exact (severs_close s).bridges b hb

/-- What only its own chunk and its own ticket can put back: a connection in no table stays out of
them at every other step. -/
lemma Inv.absent_step {s : Cell} (hs : Inv False s) (e : Event) {c : ConnId} (hc : s.Absent c)
    (hreceive : ∀ chunk, e ≠ .receive c chunk)
    (hreply : ∀ t record now nonce control, e = .ticketReply c (.ok (some record)) now nonce →
      ¬ s.Accepts c t record now control) : (s.step o e).Absent c where
  hosts h hget := by
    rcases hosts_step o s e hget with hold | ⟨chunk, he⟩
    · exact hc.hosts h hold
    · exact hreceive chunk he
  pending t p hget hp := by
    rcases hs.pending_step e hget with hold | ⟨record, now, control, he, haccepts, -⟩
    · exact hc.pending t p hold hp
    · rw [hp] at he haccepts
      exact hreply t record now p.nonce control he haccepts
  bridges b hb := by
    by_cases hold : b ∈ s.bridges
    · exact hc.bridges b hold
    · rcases hs.newBridges_cases (o := o) e with
        hnil | ⟨b', chunk, p, control, dataKey, mac, hone, he, -, hdial⟩
      · have hnew := mem_newBridges.2 ⟨hb, hold⟩
        rw [hnil] at hnew
        cases hnew
      · have hnew := mem_newBridges.2 ⟨hb, hold⟩
        rw [hone] at hnew
        obtain rfl := List.mem_singleton.1 hnew
        constructor
        · rw [hdial.controller]
          exact hc.pending _ p hdial.pending
        · rintro rfl
          exact hreceive chunk he

end Cell

lemma live_or_severed (o : CellOptions) (es : List Event) :
    ∀ b ∈ createdBridges o es,
      b ∈ ((cellMachine o).run es).bridges ∨ ((cellMachine o).run es).Severed b := by
  refine (cellMachine o).history_invariant
    (p := fun es s => ∀ b ∈ createdBridges o es, b ∈ s.bridges ∨ s.Severed b)
    (fun b hb => by cases hb) (fun es e ih b hb => ?_) es
  have hs := inv_run o es
  rw [createdBridges, Machine.outputs_snoc] at hb
  rcases List.mem_append.1 hb with hold | hnew
  · rcases ih b hold with hlive | ⟨hcontroller, hhost⟩
    · exact hs.bridges_kept e hlive
    · -- the ends are committed, so they were accepted and stay closed
      have hcommitted := (nodup_createdBridges o es).2
      have hborn : ∀ c ∈ b.ends, c < ((cellMachine o).run es).accepted := by
        intro c hc
        apply hs.born
        rcases hcommitted c (List.mem_flatMap.2 ⟨b, hold, hc⟩) with hrole | ⟨hrole, -⟩
        · rw [hrole]; decide
        · rw [hrole]; decide
      have hstays : ∀ c ∈ b.ends, (((cellMachine o).run es).conn c).outer.closed = true →
          ((((cellMachine o).run es).step o e).conn c).outer.closed = true :=
        fun c hc hclosed => Cell.closed_step o (hborn c hc) hclosed e
      exact .inr ⟨hstays _ List.mem_cons_self hcontroller,
        hstays _ (List.mem_cons_of_mem _ List.mem_cons_self) hhost⟩
  · exact .inl (Cell.mem_newBridges.1 hnew).1

end Pherry.RelayCore
