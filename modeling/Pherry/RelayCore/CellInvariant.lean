import Pherry.RelayCore.CellFrame

/-!
# The invariant of a cell

`Inv` says what an entry of each table says about the connections it names. It holds in every
state the cell can reach, but for one clause: that the host end of a bridge is open. That clause is
guarded by the parameter `strict`, so that one proof serves the runs that keep it and all others.
-/

namespace Pherry.RelayCore

open Lib

/-- The connection a host is registered on. -/
structure Conn.Registered (k : Conn) (hostId : JsString) : Prop where
  role : k.role = .control
  hostId : k.hostId = some hostId
  dataKey : k.dataKey.isSome = true
  closed : k.outer.closed = false

/-- A controller whose host was told to dial. -/
structure Conn.Waiting (k : Conn) (ticket : Ticket) (hostId : JsString) : Prop where
  role : k.role = .controllerData
  ticket : k.ticket = some ticket
  hostId : k.hostId = some hostId
  bridge : k.bridge = none
  closed : k.outer.closed = false

/-- What a connection's role and challenge say about its other fields. -/
structure Conn.Tidy (k : Conn) : Prop where
  challenged : k.role = .controlPending → k.challenge.isSome = true →
    k.hostId.isSome = true ∧ k.hostStaticPub.isSome = true
  unclassified : k.role = .unclassified → k.hostId = none ∧ k.challenge = none ∧ k.awaiting = none
  hosting : k.role = .unclassified ∨ k.role = .controlPending ∨ k.role = .control →
    k.ticket = none ∧ k.bridge = none
  awaitingKey : ∀ h, k.awaiting = some (.hostStaticPublicKey h) →
    k.role = .controlPending ∧ k.challenge = none
  awaitingTicket : ∀ t, k.awaiting = some (.resolveTicket t) →
    k.role = .controllerData ∧ k.ticket = none ∧ k.bridge = none

namespace Cell

/-- What holds in every reachable state of a cell. -/
structure Inv (strict : Prop) (s : Cell) : Prop where
  hosts : ∀ h c, s.hosts.get h = some c → (s.conn c).Registered h
  pending : ∀ t p, s.pending.get t = some p →
    p.ticket = t ∧ (s.conn p.controller).Waiting t p.hostId ∧ (p.timer, t) ∈ s.timers
  controllers : ∀ b ∈ s.bridges, (s.conn b.controller).role = .controllerData ∧
    (s.conn b.controller).bridge = some b ∧ (s.conn b.controller).outer.closed = false
  dialed : ∀ b ∈ s.bridges, (s.conn b.host).role = .hostData ∧ (s.conn b.host).bridge = some b ∧
    (strict → (s.conn b.host).outer.closed = false)
  ends : ∀ c b, (s.conn c).bridge = some b → c = b.controller ∨ c = b.host
  bridgesNodup : s.bridges.Nodup
  timersNodup : (s.timers.map Prod.fst).Nodup
  timersLt : ∀ t ∈ s.timers, t.1 < s.nextTimer
  tidy : ∀ c, (s.conn c).Tidy
  unborn : ∀ c, s.accepted ≤ c → (s.conn c).role = .unclassified

/-- The connection is in no table. -/
structure Absent (s : Cell) (c : ConnId) : Prop where
  hosts : ∀ h, s.hosts.get h ≠ some c
  pending : ∀ t p, s.pending.get t = some p → p.controller ≠ c
  bridges : ∀ b ∈ s.bridges, b.controller ≠ c ∧ b.host ≠ c

variable {strict : Prop}

/-! ## Connections that change little -/

lemma tidy_same {k k' : Conn} (h : k.Same k') (hk : k.Tidy) : k'.Tidy where
  challenged := by rw [h.role, h.challenge, h.hostId, h.hostStaticPub]; exact hk.challenged
  unclassified hr := by
    rw [h.hostId, h.challenge, h.awaiting]
    rw [h.role] at hr
    exact hk.unclassified hr
  hosting hr := by
    rw [h.ticket, h.bridge]
    rw [h.role] at hr
    exact hk.hosting hr
  awaitingKey i hi := by
    rw [h.role, h.challenge]
    rw [h.awaiting] at hi
    exact hk.awaitingKey i hi
  awaitingTicket t ht := by
    rw [h.role, h.ticket, h.bridge]
    rw [h.awaiting] at ht
    exact hk.awaitingTicket t ht

lemma registered_same {k k' : Conn} (h : k.Same k') {i : JsString} (hk : k.Registered i) :
    k'.Registered i :=
  ⟨h.role.trans hk.role, h.hostId.trans hk.hostId, by rw [h.dataKey]; exact hk.dataKey,
    h.closed.trans hk.closed⟩

lemma waiting_same {k k' : Conn} (h : k.Same k') {t : Ticket} {i : JsString}
    (hk : k.Waiting t i) : k'.Waiting t i :=
  ⟨h.role.trans hk.role, h.ticket.trans hk.ticket, h.hostId.trans hk.hostId,
    h.bridge.trans hk.bridge, h.closed.trans hk.closed⟩

lemma Inv.same {s s' : Cell} (hs : Inv strict s) (htables : SameTables s s')
    (hconn : ∀ c, (s.conn c).Same (s'.conn c)) : Inv strict s' where
  hosts i c hc := by
    rw [htables.hosts] at hc
    exact registered_same (hconn c) (hs.hosts i c hc)
  pending t p hp := by
    rw [htables.pending] at hp
    obtain ⟨hticket, hwait, htimer⟩ := hs.pending t p hp
    rw [htables.timers]
    exact ⟨hticket, waiting_same (hconn _) hwait, htimer⟩
  controllers b hb := by
    rw [htables.bridges] at hb
    rw [(hconn _).role, (hconn _).bridge, (hconn _).closed]
    exact hs.controllers b hb
  dialed b hb := by
    rw [htables.bridges] at hb
    rw [(hconn _).role, (hconn _).bridge, (hconn _).closed]
    exact hs.dialed b hb
  ends c b hb := by
    rw [(hconn c).bridge] at hb
    exact hs.ends c b hb
  bridgesNodup := by rw [htables.bridges]; exact hs.bridgesNodup
  timersNodup := by rw [htables.timers]; exact hs.timersNodup
  timersLt := by rw [htables.timers, htables.nextTimer]; exact hs.timersLt
  tidy c := tidy_same (hconn c) (hs.tidy c)
  unborn c hc := by
    rw [htables.accepted] at hc
    rw [(hconn c).role]
    exact hs.unborn c hc

lemma Inv.quiet {s s' : Cell} (hs : Inv strict s) (h : Quiet s s') : Inv strict s' :=
  hs.same h.tables h.conn

lemma Inv.absent {s : Cell} (hs : Inv strict s) {c : ConnId} (hrole : (s.conn c).role ≠ .control)
    (hticket : (s.conn c).role ≠ .controllerData ∨ (s.conn c).ticket = none)
    (hbridge : (s.conn c).bridge = none) : s.Absent c where
  hosts h hc := hrole (hs.hosts h c hc).role
  pending t p hp := by
    rintro rfl
    have hwait := (hs.pending t p hp).2.1
    rcases hticket with hne | hnone
    · exact hne hwait.role
    · rw [hwait.ticket] at hnone
      cases hnone
  bridges b hb := by
    constructor
    · rintro rfl
      rw [(hs.controllers b hb).2.1] at hbridge
      cases hbridge
    · rintro rfl
      rw [(hs.dialed b hb).2.1] at hbridge
      cases hbridge

lemma Inv.absent_of_unclassified {s : Cell} (hs : Inv strict s) {c : ConnId}
    (h : (s.conn c).role = .unclassified) : s.Absent c := by
  have hnone := (hs.tidy c).hosting (.inl h)
  exact hs.absent (by rw [h]; decide) (.inr hnone.1) hnone.2

lemma Inv.absent_of_controlPending {s : Cell} (hs : Inv strict s) {c : ConnId}
    (h : (s.conn c).role = .controlPending) : s.Absent c := by
  have hnone := (hs.tidy c).hosting (.inr (.inl h))
  exact hs.absent (by rw [h]; decide) (.inr hnone.1) hnone.2

lemma Inv.absent_of_awaitingTicket {s : Cell} (hs : Inv strict s) {c : ConnId} {t : Ticket}
    (h : (s.conn c).awaiting = some (.resolveTicket t)) : s.Absent c := by
  obtain ⟨hrole, hticket, hbridge⟩ := (hs.tidy c).awaitingTicket t h
  exact hs.absent (by rw [hrole]; decide) (.inr hticket) hbridge

lemma Inv.modify_absent {s : Cell} (hs : Inv strict s) {c : ConnId} (hc : s.Absent c)
    {f : Conn → Conn} (htidy : (f (s.conn c)).Tidy)
    (hbridge : (f (s.conn c)).bridge = (s.conn c).bridge ∨ (f (s.conn c)).bridge = none)
    (hborn : s.accepted ≤ c → (f (s.conn c)).role = .unclassified) : Inv strict (s.modify c f) where
  hosts h c' hc' := by
    have hne : c' ≠ c := fun he => hc.hosts h (he ▸ hc')
    rw [modify_conn_ne s hne]
    exact hs.hosts h c' hc'
  pending t p hp := by
    rw [modify_conn_ne s (hc.pending t p hp)]
    exact hs.pending t p hp
  controllers b hb := by
    rw [modify_conn_ne s (hc.bridges b hb).1]
    exact hs.controllers b hb
  dialed b hb := by
    rw [modify_conn_ne s (hc.bridges b hb).2]
    exact hs.dialed b hb
  ends c' b hb := by
    by_cases he : c' = c
    · rw [he, modify_conn_self] at hb
      rcases hbridge with hsame | hnone
      · exact he ▸ hs.ends c b (hsame ▸ hb)
      · rw [hnone] at hb; cases hb
    · rw [modify_conn_ne s he] at hb
      exact hs.ends c' b hb
  bridgesNodup := hs.bridgesNodup
  timersNodup := hs.timersNodup
  timersLt := hs.timersLt
  tidy c' := by
    by_cases he : c' = c
    · rw [he, modify_conn_self]; exact htidy
    · rw [modify_conn_ne s he]; exact hs.tidy c'
  unborn c' hc' := by
    by_cases he : c' = c
    · rw [he, modify_conn_self]; exact hborn (he ▸ hc')
    · rw [modify_conn_ne s he]; exact hs.unborn c' hc'

lemma Absent.modify {s : Cell} {c : ConnId} (hc : s.Absent c) (c' : ConnId) (f : Conn → Conn) :
    (s.modify c' f).Absent c := ⟨hc.hosts, hc.pending, hc.bridges⟩

/-! ## Entries that disappear -/

lemma Inv.eraseHost {s : Cell} (hs : Inv strict s) (h : JsString) :
    Inv strict { s with hosts := s.hosts.erase h } :=
  { hs with hosts := fun i c hc => hs.hosts i c (InsertionMap.get_erase_eq_some.1 hc).2 }

lemma Inv.dropPending {s : Cell} (hs : Inv strict s) {t : Ticket} {handle : TimerHandle}
    (hmem : (handle, t) ∈ s.timers) :
    Inv strict { s.clearTimeout handle with pending := s.pending.erase t } :=
  { hs with
    pending := by
      intro t' p hp
      obtain ⟨hne, hget⟩ := InsertionMap.get_erase_eq_some.1 hp
      obtain ⟨hticket, hwait, htimer⟩ := hs.pending t' p hget
      refine ⟨hticket, hwait, List.mem_filter.2 ⟨htimer, ?_⟩⟩
      -- two armed timers with one handle are the same timer, of the same ticket
      have hhandle : p.timer ≠ handle := by
        intro he
        have hpair := List.inj_on_of_nodup_map hs.timersNodup htimer hmem he
        exact hne (congrArg Prod.snd hpair)
      simpa using hhandle
    timersNodup := hs.timersNodup.sublist (List.filter_sublist.map Prod.fst)
    timersLt := fun t ht => hs.timersLt t (List.mem_of_mem_filter ht) }

lemma Inv.dropTimer {s : Cell} (hs : Inv strict s) {t : Ticket} {handle : TimerHandle}
    (hmem : (handle, t) ∈ s.timers) (hnone : s.pending.get t = none) :
    Inv strict (s.clearTimeout handle) :=
  { hs.dropPending hmem with
    pending := by
      intro t' p hp
      have hne : t' ≠ t := by
        rintro rfl
        rw [show s.pending.get t' = some p from hp] at hnone
        cases hnone
      exact (hs.dropPending hmem).pending t' p (InsertionMap.get_erase_eq_some.2 ⟨hne, hp⟩) }

lemma Inv.dropBridge {s : Cell} (hs : Inv strict s) (b : Bridge) :
    Inv strict { s with bridges := s.bridges.filter (· ≠ b) } :=
  { hs with
    controllers := fun b' hb' => hs.controllers b' (List.mem_of_mem_filter hb')
    dialed := fun b' hb' => hs.dialed b' (List.mem_of_mem_filter hb')
    bridgesNodup := hs.bridgesNodup.filter _ }

/-! ## Teardown -/

lemma Inv.cleanupHost {s : Cell} (hs : Inv strict s) (c : ConnId) : Inv strict (s.cleanupHost c) := by
  unfold Cell.cleanupHost
  split
  · exact hs
  · split
    · exact hs.eraseHost _
    · exact hs

lemma conn_cleanupHost (s : Cell) (c : ConnId) : (s.cleanupHost c).conn = s.conn := by
  unfold cleanupHost
  split
  · rfl
  · split <;> rfl

/-- A registered connection is registered under its own `hostId` only, so cleanup finds it. -/
lemma Inv.hosts_cleanupHost {s : Cell} (hs : Inv strict s) (c : ConnId) (h : JsString) :
    (s.cleanupHost c).hosts.get h ≠ some c := by
  intro hget
  have hold : s.hosts.get h = some c := (Shrinks.cleanupHost s c).hosts h c hget
  have hid := (hs.hosts h c hold).hostId
  rw [Cell.cleanupHost, hid] at hget
  simp only [hold, if_true] at hget
  rw [InsertionMap.get_erase_self] at hget
  cases hget

lemma Inv.cleanupPending {s : Cell} (hs : Inv strict s) (c : ConnId) : Inv strict (s.cleanupPending c) := by
  unfold Cell.cleanupPending
  split
  · exact hs
  · split
    · exact hs
    · next pending hget =>
      split
      · exact hs.dropPending (hs.pending _ _ hget).2.2
      · exact hs

lemma conn_cleanupPending (s : Cell) (c : ConnId) : (s.cleanupPending c).conn = s.conn := by
  unfold cleanupPending
  split
  · rfl
  · split
    · rfl
    · split <;> rfl

lemma Inv.pending_cleanupPending {s : Cell} (hs : Inv strict s) (c : ConnId) (t : Ticket)
    (p : PendingBridge) (hget : (s.cleanupPending c).pending.get t = some p) :
    p.controller ≠ c := by
  rintro rfl
  have hold : s.pending.get t = some p := (Shrinks.cleanupPending s _).pending t p hget
  have hticket := (hs.pending t p hold).2.1.ticket
  rw [Cell.cleanupPending, hticket] at hget
  simp only [hold, if_true] at hget
  rw [InsertionMap.get_erase_self] at hget
  cases hget

lemma Inv.absent_peer {s : Cell} (hs : Inv strict s) {b : Bridge} (hb : b ∈ s.bridges) {c : ConnId}
    (hc : c = b.controller ∨ c = b.host) :
    Absent { s with bridges := s.bridges.filter (· ≠ b) } c := by
  have hrole : (s.conn c).role = .controllerData ∨ (s.conn c).role = .hostData := by
    rcases hc with rfl | rfl
    · exact .inl (hs.controllers b hb).1
    · exact .inr (hs.dialed b hb).1
  have hbridge : (s.conn c).bridge = some b := by
    rcases hc with rfl | rfl
    · exact (hs.controllers b hb).2.1
    · exact (hs.dialed b hb).2.1
  refine ⟨?_, ?_, ?_⟩
  · intro h hget
    rw [(hs.hosts h c hget).role] at hrole
    rcases hrole with hr | hr <;> cases hr
  · rintro t p hp rfl
    rw [(hs.pending t p hp).2.1.bridge] at hbridge
    cases hbridge
  · intro b' hb'
    obtain ⟨hmem, hne⟩ := List.mem_filter.1 hb'
    have hne : b' ≠ b := by simpa using hne
    constructor
    · rintro rfl
      rw [(hs.controllers b' hmem).2.1] at hbridge
      exact hne (Option.some.inj hbridge)
    · rintro rfl
      rw [(hs.dialed b' hmem).2.1] at hbridge
      exact hne (Option.some.inj hbridge)

lemma peer_eq (b : Bridge) (c : ConnId) :
    b.peer c = b.controller ∨ b.peer c = b.host := by
  unfold Bridge.peer
  split
  · exact .inr rfl
  · exact .inl rfl

lemma tidy_clear {k : Conn} (h : k.Tidy) (dataKey : Option Bytes) (closed : Bool) :
    Conn.Tidy { k with bridge := none, dataKey, outer := { k.outer with closed } } where
  challenged := h.challenged
  unclassified := h.unclassified
  hosting hr := ⟨(h.hosting hr).1, rfl⟩
  awaitingKey := h.awaitingKey
  awaitingTicket t ht := ⟨(h.awaitingTicket t ht).1, (h.awaitingTicket t ht).2.1, rfl⟩

lemma Inv.closeOuter {s : Cell} (hs : Inv strict s) {c : ConnId} (hc : s.Absent c) :
    Inv strict (s.closeOuter c) := by
  have h := hs.tidy c
  have htidy : Conn.Tidy { s.conn c with outer := { (s.conn c).outer with closed := true } } :=
    ⟨h.challenged, h.unclassified, h.hosting, h.awaitingKey, h.awaitingTicket⟩
  exact hs.modify_absent hc htidy (.inl rfl) (hs.unborn c)

lemma Inv.cleanupBridge {s : Cell} (hs : Inv strict s) (c : ConnId) : Inv strict (s.cleanupBridge c) := by
  unfold Cell.cleanupBridge
  split
  · exact hs
  · next bridge hbridge =>
    split
    · next hmem =>
      have hpeer := hs.absent_peer hmem (peer_eq bridge c)
      have hnone : Inv strict ({ s with bridges := s.bridges.filter (· ≠ bridge) }.modify (bridge.peer c)
          fun k => { k with bridge := none }) := by
        refine (hs.dropBridge bridge).modify_absent hpeer ?_ (.inr rfl) (hs.unborn _)
        exact tidy_clear (hs.tidy _) _ _
      exact hnone.closeOuter (hpeer.modify _ _)
    · exact hs

lemma Inv.bridges_cleanupBridge {s : Cell} (hs : Inv strict s) (c : ConnId) (b : Bridge)
    (hb : b ∈ (s.cleanupBridge c).bridges) : b.controller ≠ c ∧ b.host ≠ c := by
  have hold : b ∈ s.bridges := (Shrinks.cleanupBridge s c).bridges b hb
  have hgone : (s.conn c).bridge = some b → False := by
    intro hbridge
    rw [Cell.cleanupBridge, hbridge] at hb
    simp only [hold, if_true] at hb
    have hmem : b ∈ s.bridges.filter (· ≠ b) := hb
    simp at hmem
  constructor
  · rintro rfl
    exact hgone (hs.controllers b hold).2.1
  · rintro rfl
    exact hgone (hs.dialed b hold).2.1

lemma Inv.absent_cleanup {s : Cell} (hs : Inv strict s) (c : ConnId) : (s.cleanup c).Absent c := by
  have hhost := hs.cleanupHost c
  have hpending := hhost.cleanupPending c
  refine ⟨?_, ?_, ?_⟩
  · intro h hget
    have hget' := (Shrinks.cleanupPending _ c).hosts h c ((Shrinks.cleanupBridge _ c).hosts h c hget)
    exact hs.hosts_cleanupHost c h hget'
  · intro t p hget
    have hget' := (Shrinks.cleanupBridge _ c).pending t p hget
    exact hhost.pending_cleanupPending c t p hget'
  · intro b hb
    exact hpending.bridges_cleanupBridge c b hb

lemma Inv.cleanup {s : Cell} (hs : Inv strict s) (c : ConnId) : Inv strict (s.cleanup c) := by
  have hbridge := ((hs.cleanupHost c).cleanupPending c).cleanupBridge c
  have habsent := hs.absent_cleanup c
  refine hbridge.modify_absent ⟨habsent.hosts, habsent.pending, habsent.bridges⟩ ?_ (.inr rfl) ?_
  · exact tidy_clear (hbridge.tidy c) none _
  · exact hbridge.unborn c

lemma Inv.detach {s : Cell} (hs : Inv strict s) (c : ConnId) : Inv strict (s.detach c) :=
  (hs.cleanup c).closeOuter (hs.absent_cleanup c)

lemma Inv.refuse {s : Cell} (hs : Inv strict s) (c : ConnId) (code : RelayCloseCode) :
    Inv strict (s.refuse c code) :=
  Inv.detach (hs.quiet (Quiet.send s c rfl)) c

lemma Inv.fail {s : Cell} (hs : Inv strict s) (c : ConnId) : Inv strict (s.fail c) := hs.refuse c .protocolError

end Cell

end Pherry.RelayCore
