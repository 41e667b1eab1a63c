import Pherry.RelayCore.CellInvariant

/-!
# Every handler keeps the invariant

One lemma for each handler of the cell, then the frame loop, then the step. What a handler does to
the connection it was called for is said by `Conn.Kept`: teardown never touches its role, its
ticket or its reader.
-/

namespace Pherry.RelayCore

open Lib

/-- What teardown leaves alone on a connection. -/
structure Conn.Kept (k k' : Conn) : Prop where
  role : k'.role = k.role
  hostId : k'.hostId = k.hostId
  challenge : k'.challenge = k.challenge
  ticket : k'.ticket = k.ticket
  awaiting : k'.awaiting = k.awaiting
  reader : k'.outer.reader = k.outer.reader
  raw : k'.outer.raw = k.outer.raw

lemma Conn.Kept.refl (k : Conn) : k.Kept k := by
  constructor <;> rfl

lemma Conn.Kept.trans {k k' k'' : Conn} (h : k.Kept k') (h' : k'.Kept k'') : k.Kept k'' where
  role := h'.role.trans h.role
  hostId := h'.hostId.trans h.hostId
  challenge := h'.challenge.trans h.challenge
  ticket := h'.ticket.trans h.ticket
  awaiting := h'.awaiting.trans h.awaiting
  reader := h'.reader.trans h.reader
  raw := h'.raw.trans h.raw

namespace Cell

/-- Two states that differ in the record of `c` only. -/
structure Elsewhere (c : ConnId) (s s' : Cell) : Prop where
  tables : SameTables s s'
  conn : ∀ c', c' ≠ c → s'.conn c' = s.conn c'
  bridgedBytes : s'.bridgedBytes = s.bridgedBytes

lemma Elsewhere.refl (c : ConnId) (s : Cell) : Elsewhere c s s :=
  ⟨.refl s, fun _ _ => rfl, rfl⟩

lemma Elsewhere.trans {c : ConnId} {s s' s'' : Cell} (h : Elsewhere c s s')
    (h' : Elsewhere c s' s'') : Elsewhere c s s'' where
  tables := h.tables.trans h'.tables
  conn c' hc' := (h'.conn c' hc').trans (h.conn c' hc')
  bridgedBytes := h'.bridgedBytes.trans h.bridgedBytes

lemma Elsewhere.modify (s : Cell) (c : ConnId) (f : Conn → Conn) :
    Elsewhere c s (s.modify c f) :=
  ⟨.modify s c f, fun _ hc' => modify_conn_ne s hc' f, rfl⟩

lemma Absent.elsewhere {s s' : Cell} {c : ConnId} (h : Elsewhere c s s') (hc : s.Absent c) :
    s'.Absent c where
  hosts := by rw [h.tables.hosts]; exact hc.hosts
  pending := by rw [h.tables.pending]; exact hc.pending
  bridges := by rw [h.tables.bridges]; exact hc.bridges

/-! ## What teardown keeps -/

lemma kept_modify (s : Cell) (c c' : ConnId) {f : Conn → Conn}
    (hf : ∀ k : Conn, k.Kept (f k)) :
    (s.conn c').Kept ((s.modify c f).conn c') := by
  by_cases h : c' = c
  · rw [h, modify_conn_self]; exact hf _
  · rw [modify_conn_ne s h]; exact .refl _

lemma kept_send (s : Cell) (c c' : ConnId) (m : OuterMessage) :
    (s.conn c').Kept ((s.send c m).conn c') := by
  refine kept_modify s c c' fun k => ?_
  split <;> constructor <;> rfl

lemma kept_closeOuter (s : Cell) (c c' : ConnId) :
    (s.conn c').Kept ((s.closeOuter c).conn c') :=
  kept_modify s c c' fun k => by constructor <;> rfl

lemma kept_cleanupBridge (s : Cell) (c c' : ConnId) :
    (s.conn c').Kept ((s.cleanupBridge c).conn c') := by
  unfold cleanupBridge
  split
  · exact .refl _
  · next bridge _ =>
    split
    · have hclear : (s.conn c').Kept (({ s with bridges := s.bridges.filter (· ≠ bridge) }.modify
          (bridge.peer c) fun k => { k with bridge := none }).conn c') :=
        kept_modify { s with bridges := s.bridges.filter (· ≠ bridge) } _ c' fun k => by
          constructor <;> rfl
      exact hclear.trans (kept_closeOuter _ _ c')
    · exact .refl _

lemma kept_cleanup (s : Cell) (c c' : ConnId) :
    (s.conn c').Kept ((s.cleanup c).conn c') := by
  have hconn : ((s.cleanupHost c).cleanupPending c).conn = s.conn :=
    (conn_cleanupPending _ c).trans (conn_cleanupHost s c)
  have hbridge := kept_cleanupBridge ((s.cleanupHost c).cleanupPending c) c c'
  rw [hconn] at hbridge
  exact hbridge.trans (kept_modify _ c c' fun k => by constructor <;> rfl)

lemma kept_detach (s : Cell) (c c' : ConnId) : (s.conn c').Kept ((s.detach c).conn c') :=
  (kept_cleanup s c c').trans (kept_closeOuter _ c c')

lemma kept_refuse (s : Cell) (c c' : ConnId) (code : RelayCloseCode) :
    (s.conn c').Kept ((s.refuse c code).conn c') :=
  (kept_send s c c' _).trans (kept_detach _ c c')

@[simp] lemma closed_closeOuter (s : Cell) (c : ConnId) :
    ((s.closeOuter c).conn c).outer.closed = true := by
  rw [closeOuter, modify_conn_self]

@[simp] lemma closed_refuse (s : Cell) (c : ConnId) (code : RelayCloseCode) :
    ((s.refuse c code).conn c).outer.closed = true := closed_closeOuter _ c

@[simp] lemma closed_detach (s : Cell) (c : ConnId) :
    ((s.detach c).conn c).outer.closed = true := closed_closeOuter _ c

/-! ## Tearing down a connection that is in no table -/

variable {strict : Prop}

lemma Absent.cleanupHost {s : Cell} {c : ConnId} (hc : s.Absent c) : s.cleanupHost c = s := by
  unfold Cell.cleanupHost
  split
  · rfl
  · next h _ => rw [if_neg (hc.hosts h)]

lemma cleanupPending_of_idle {s : Cell} {c : ConnId}
    (hc : ∀ t p, s.pending.get t = some p → p.controller ≠ c) : s.cleanupPending c = s := by
  unfold cleanupPending
  split
  · rfl
  · split
    · rfl
    · next p hp => rw [if_neg (hc _ p hp)]

lemma Absent.cleanupBridge {s : Cell} (hs : Inv strict s) {c : ConnId} (hc : s.Absent c) :
    s.cleanupBridge c = s := by
  unfold Cell.cleanupBridge
  split
  · rfl
  · next b hb =>
    have hgone : b ∉ s.bridges := by
      intro hmem
      obtain ⟨hne, hne'⟩ := hc.bridges b hmem
      rcases hs.ends c b hb with h | h
      · exact hne h.symm
      · exact hne' h.symm
    rw [if_neg hgone]

lemma Absent.detach {s : Cell} (hs : Inv strict s) {c : ConnId} (hc : s.Absent c) :
    Elsewhere c s (s.detach c) := by
  rw [Cell.detach, Cell.cleanup, hc.cleanupHost, cleanupPending_of_idle hc.pending, hc.cleanupBridge hs]
  exact (Elsewhere.modify s c _).trans (.modify _ c _)

lemma Absent.refuse {s : Cell} (hs : Inv strict s) {c : ConnId} (hc : s.Absent c)
    (code : RelayCloseCode) : Elsewhere c s (s.refuse c code) := by
  have hsend : Elsewhere c s (s.send c (.close code none)) := .modify s c _
  have hdetach := Absent.detach (hs.quiet (Quiet.send s c (m := .close code none) rfl))
    (hc.elsewhere hsend)
  exact hsend.trans hdetach

/-! ## Registration -/

lemma Inv.dropChallenge {s : Cell} (hs : Inv strict s) {c : ConnId}
    (hrole : (s.conn c).role = .controlPending) : Inv strict (s.dropChallenge c) := by
  have h := hs.tidy c
  refine hs.modify_absent (hs.absent_of_controlPending hrole) ?_ (.inl rfl) (hs.unborn c)
  exact ⟨fun _ hc => (by cases hc), fun hr => ⟨(h.unclassified hr).1, rfl, (h.unclassified hr).2.2⟩, h.hosting,
    fun i hi => ⟨(h.awaitingKey i hi).1, rfl⟩, h.awaitingTicket⟩

lemma Inv.hostKeyReply {s : Cell} (hs : Inv strict s) (o : CellOptions) {c : ConnId}
    (hrole : (s.conn c).role = .controlPending) (hawaiting : (s.conn c).awaiting = none)
    (hostId : JsString) (reply : Except Unit (Option Bytes)) (ephemeralSecret : Bytes)
    (nonce : Bytes32) : Inv strict (s.hostKeyReply o c hostId reply ephemeralSecret nonce) := by
  unfold Cell.hostKeyReply
  split
  · exact hs.fail c
  · split
    · exact hs
    · split
      · exact hs.refuse c _
      · next staticPub =>
        have hset : Inv strict (s.modify c fun k => { k with
            hostId := some hostId
            hostStaticPub := some staticPub
            challenge := some (makeChallenge o.crypto o.cellId ephemeralSecret nonce) }) := by
          have h := hs.tidy c
          refine hs.modify_absent (hs.absent_of_controlPending hrole) ?_ (.inl rfl) (hs.unborn c)
          refine ⟨fun _ _ => ⟨rfl, rfl⟩, fun hr => ?_, h.hosting, fun i hi => ?_, h.awaitingTicket⟩
          · rw [show (s.conn c).role = .unclassified from hr] at hrole; cases hrole
          · rw [show (s.conn c).awaiting = some _ from hi] at hawaiting; cases hawaiting
        simp only
        split
        · exact hset.quiet (.send _ c rfl)
        · exact hset.fail c

lemma conn_supersede_ne {s : Cell} {c c' : ConnId} {h : JsString}
    (hne : s.hosts.get h ≠ some c') : (s.supersede c h).conn c' = s.conn c' := by
  unfold supersede
  split
  · rfl
  · next previous hprev =>
    split
    · have hne' : c' ≠ previous := by
        rintro rfl
        exact hne hprev
      exact modify_conn_ne s hne' _
    · rfl

lemma tables_supersede (s : Cell) (c : ConnId) (h : JsString) :
    SameTables s (s.supersede c h) := by
  unfold supersede
  split
  · exact .refl s
  · split
    · exact .modify s _ _
    · exact .refl s

lemma conn_supersede (s : Cell) (c c' : ConnId) (h : JsString) :
    ∃ closed, (s.supersede c h).conn c'
      = { s.conn c' with outer := { (s.conn c').outer with closed := closed } } := by
  unfold supersede
  split
  · exact ⟨_, rfl⟩
  · next previous _ =>
    split
    · by_cases he : c' = previous
      · exact ⟨true, by rw [closeOuter, he, modify_conn_self]⟩
      · exact ⟨_, by rw [closeOuter, modify_conn_ne s he]⟩
    · exact ⟨_, rfl⟩

lemma tidy_closed {k : Conn} (h : k.Tidy) (closed : Bool) :
    Conn.Tidy { k with outer := { k.outer with closed := closed } } :=
  ⟨h.challenged, h.unclassified, h.hosting, h.awaitingKey, h.awaitingTicket⟩

lemma conn_register (s : Cell) (c : ConnId) (h : JsString) (dataKey : Bytes) :
    (s.register c h dataKey).conn = ((s.supersede c h).modify c
      fun k => { k with dataKey := some dataKey, role := .control }).conn := rfl

lemma Inv.register {s : Cell} (hs : Inv strict s) {c : ConnId} {h : JsString}
    (hrole : (s.conn c).role = .controlPending) (hid : (s.conn c).hostId = some h)
    (hawaiting : (s.conn c).awaiting = none) (hopen : (s.conn c).outer.closed = false)
    (dataKey : Bytes) : Inv strict (s.register c h dataKey) := by
  have habsent := hs.absent_of_controlPending hrole
  have htables := tables_supersede s c h
  have hself : (s.register c h dataKey).conn c
      = { s.conn c with dataKey := some dataKey, role := .control } := by
    rw [conn_register, modify_conn_self, conn_supersede_ne (habsent.hosts h)]
  -- everybody but `c` and the superseded connection keeps its record
  have hother : ∀ c', c' ≠ c → s.hosts.get h ≠ some c' →
      (s.register c h dataKey).conn c' = s.conn c' := by
    intro c' hne hnot
    rw [conn_register, modify_conn_ne _ hne, conn_supersede_ne hnot]
  have hbridged : ∀ c' b, (s.conn c').bridge = some b →
      (s.register c h dataKey).conn c' = s.conn c' := by
    intro c' b hb
    refine hother c' ?_ ?_
    · rintro rfl
      rw [((hs.tidy c').hosting (.inr (.inl hrole))).2] at hb
      cases hb
    · intro hget
      rw [((hs.tidy c').hosting (.inr (.inr (hs.hosts h c' hget).role))).2] at hb
      cases hb
  refine ⟨?_, ?_, ?_, ?_, ?_, ?_, ?_, ?_, ?_, ?_⟩
  · intro i c' hget
    have hget' : (s.hosts.set h c).get i = some c' := hget
    rw [InsertionMap.get_set] at hget'
    by_cases hi : i = h
    · rw [if_pos hi] at hget'
      obtain rfl := Option.some.inj hget'
      rw [hself, hi]
      exact ⟨rfl, hid, rfl, hopen⟩
    · rw [if_neg hi] at hget'
      have hreg := hs.hosts i c' hget'
      have hnot : s.hosts.get h ≠ some c' := by
        intro hdup
        have hid' := (hs.hosts h c' hdup).hostId
        rw [hreg.hostId] at hid'
        exact hi (Option.some.inj hid')
      have hne : c' ≠ c := fun he => habsent.hosts i (he ▸ hget')
      rw [hother c' hne hnot]
      exact hreg
  · intro t p hp
    have hp' : s.pending.get t = some p := by rw [← htables.pending]; exact hp
    obtain ⟨hticket, hwait, htimer⟩ := hs.pending t p hp'
    have hnot : s.hosts.get h ≠ some p.controller := by
      intro hget
      have hcontrol := (hs.hosts h _ hget).role
      rw [hwait.role] at hcontrol
      cases hcontrol
    rw [hother _ (habsent.pending t p hp') hnot]
    refine ⟨hticket, hwait, ?_⟩
    rw [show (s.register c h dataKey).timers = s.timers from htables.timers]
    exact htimer
  · intro b hb
    have hb' : b ∈ s.bridges := by rw [← htables.bridges]; exact hb
    rw [hbridged _ b (hs.controllers b hb').2.1]
    exact hs.controllers b hb'
  · intro b hb
    have hb' : b ∈ s.bridges := by rw [← htables.bridges]; exact hb
    rw [hbridged _ b (hs.dialed b hb').2.1]
    exact hs.dialed b hb'
  · intro c' b hb
    by_cases hne : c' = c
    · rw [hne, hself] at hb
      exact hne ▸ hs.ends c b hb
    · obtain ⟨closed, hconn⟩ := conn_supersede s c c' h
      rw [conn_register, modify_conn_ne _ hne, hconn] at hb
      exact hs.ends c' b hb
  · show (s.supersede c h).bridges.Nodup
    rw [htables.bridges]
    exact hs.bridgesNodup
  · show ((s.supersede c h).timers.map Prod.fst).Nodup
    rw [htables.timers]
    exact hs.timersNodup
  · show ∀ t ∈ (s.supersede c h).timers, t.1 < (s.supersede c h).nextTimer
    rw [htables.timers, htables.nextTimer]
    exact hs.timersLt
  · intro c'
    by_cases hne : c' = c
    · have hnone := (hs.tidy c).hosting (.inr (.inl hrole))
      rw [hne, hself]
      refine ⟨fun hr => (by cases hr), fun hr => (by cases hr), fun _ => hnone, fun i hi => ?_,
        fun t ht => ?_⟩
      · rw [show (s.conn c).awaiting = some _ from hi] at hawaiting
        cases hawaiting
      · rw [show (s.conn c).awaiting = some _ from ht] at hawaiting
        cases hawaiting
    · obtain ⟨closed, hconn⟩ := conn_supersede s c c' h
      rw [conn_register, modify_conn_ne _ hne, hconn]
      exact tidy_closed (hs.tidy c') closed
  · intro c' hc'
    have hborn : s.accepted ≤ c' := by rw [← htables.accepted]; exact hc'
    have hne : c' ≠ c := by
      rintro rfl
      rw [hs.unborn c' hborn] at hrole
      cases hrole
    obtain ⟨closed, hconn⟩ := conn_supersede s c c' h
    rw [conn_register, modify_conn_ne _ hne, hconn]
    exact hs.unborn c' hborn

/-! ## Waiting for a host -/

lemma tidy_data {k : Conn} (hrole : k.role = .controllerData ∨ k.role = .hostData)
    (hawaiting : k.awaiting = none) : k.Tidy := by
  refine ⟨fun hr => ?_, fun hr => ?_, fun hr => ?_, fun i hi => ?_, fun t ht => ?_⟩
  · rw [hr] at hrole
    rcases hrole with h | h <;> cases h
  · rw [hr] at hrole
    rcases hrole with h | h <;> cases h
  · rcases hrole with h | h <;> rw [h] at hr <;> rcases hr with hr | hr | hr <;> cases hr
  · rw [hawaiting] at hi
    cases hi
  · rw [hawaiting] at ht
    cases ht

lemma Inv.beginControllerBridge {s : Cell} (hs : Inv strict s) {c : ConnId}
    (hrole : (s.conn c).role = .controllerData) (hticket : (s.conn c).ticket = none)
    (hbridge : (s.conn c).bridge = none) (t : Ticket) :
    Inv strict (s.beginControllerBridge c t) := by
  unfold Cell.beginControllerBridge
  split
  · exact hs.refuse c _
  · have habsent := hs.absent (by rw [hrole]; decide) (.inr hticket) hbridge
    refine hs.modify_absent habsent ?_ (.inl rfl) (hs.unborn c)
    refine ⟨(hs.tidy c).challenged, fun hr => ?_, (hs.tidy c).hosting, fun i hi => (by cases hi),
      fun _ _ => ?_⟩
    · rw [show (s.conn c).role = .unclassified from hr] at hrole; cases hrole
    · exact ⟨hrole, hticket, hbridge⟩

/-- The controller starts to wait; a pending bridge its ticket still had is replaced. -/
lemma Inv.openPending {s : Cell} (hs : Inv strict s) {c : ConnId}
    (hrole : (s.conn c).role = .controllerData) (hbridge : (s.conn c).bridge = none)
    (habsent : s.Absent c) (hawaiting : (s.conn c).awaiting = none)
    (hopen : (s.conn c).outer.closed = false) (control : ConnId) (t : Ticket) (h : JsString)
    (nonce : Bytes32) : Inv strict (s.openPending c control t h nonce) := by
  have hset : Inv strict ((s.markTicketUsed t).modify c
      fun k => { k with ticket := some t, hostId := some h }) := by
    have hmark : Inv strict (s.markTicketUsed t) := { hs with }
    have hborn : ¬ s.accepted ≤ c := by
      intro hc
      rw [hs.unborn c hc] at hrole
      cases hrole
    exact hmark.modify_absent ⟨habsent.hosts, habsent.pending, habsent.bridges⟩
      (tidy_data (.inl hrole) hawaiting) (.inl rfl) fun hc => absurd hc hborn
  have hconn : ((s.markTicketUsed t).modify c
      fun k => { k with ticket := some t, hostId := some h }).conn c
        = { s.conn c with ticket := some t, hostId := some h } := modify_conn_self _ c _
  refine Inv.same (s := s.addPending c t h nonce) ?_ (.send _ control _) (same_send _ control _)
  refine { hset with pending := ?_, timersNodup := ?_, timersLt := ?_ }
  · intro t' p hp
    have hp' : (s.pending.set t ⟨t, h, c, s.nextTimer, nonce⟩).get t' = some p := hp
    rw [InsertionMap.get_set] at hp'
    by_cases ht : t' = t
    · rw [if_pos ht] at hp'
      obtain rfl := Option.some.inj hp'
      refine ⟨ht.symm, ?_, ?_⟩
      · rw [ht]
        show (((s.markTicketUsed t).modify c
          fun k => { k with ticket := some t, hostId := some h }).conn c).Waiting t h
        rw [hconn]
        exact ⟨hrole, rfl, rfl, hbridge, hopen⟩
      · rw [ht]
        exact List.mem_append_right _ (List.mem_singleton.2 rfl)
    · rw [if_neg ht] at hp'
      obtain ⟨hticket, hwait, htimer⟩ := hset.pending t' p hp'
      exact ⟨hticket, hwait, List.mem_append_left _ htimer⟩
  · show ((s.timers ++ [(s.nextTimer, t)]).map Prod.fst).Nodup
    rw [List.map_append, List.nodup_append]
    refine ⟨hs.timersNodup, by simp, ?_⟩
    intro a ha b hb
    obtain ⟨e, he, rfl⟩ := List.mem_map.1 ha
    have hltE := hs.timersLt e he
    have hb' : b = s.nextTimer := by simpa using hb
    rw [hb']
    exact Nat.ne_of_lt hltE
  · intro e he
    show e.1 < s.nextTimer + 1
    rcases List.mem_append.1 he with hold | hnew
    · exact Nat.lt_succ_of_lt (hs.timersLt e hold)
    · have hnew' : e = (s.nextTimer, t) := by simpa using hnew
      rw [hnew']
      exact Nat.lt_succ_self _

lemma Inv.ticketReply {s : Cell} (hs : Inv strict s) {c : ConnId}
    (hrole : (s.conn c).role = .controllerData) (hticket : (s.conn c).ticket = none)
    (hbridge : (s.conn c).bridge = none) (hawaiting : (s.conn c).awaiting = none) (t : Ticket)
    (reply : Except Unit (Option TicketRecord)) (now : ℤ) (nonce : Bytes32) :
    Inv strict (s.ticketReply c t reply now nonce) := by
  have habsent := hs.absent (by rw [hrole]; decide) (.inr hticket) hbridge
  unfold Cell.ticketReply
  split
  · exact hs.fail c
  · split
    · exact hs
    · next hlive =>
      have hopen : (s.conn c).outer.closed = false := by
        simp only [Bool.or_eq_true, not_or, Bool.not_eq_true] at hlive
        exact hlive.2
      split
      · exact hs.refuse c _
      · split
        · exact hs.refuse c _
        · split
          · exact hs.refuse c _
          · split
            · exact hs.refuse c _
            · exact hs.openPending hrole hbridge habsent hawaiting hopen _ t _ nonce

lemma Inv.onBridgeTimeout {s : Cell} (hs : Inv strict s) {handle : TimerHandle} {t : Ticket}
    (hmem : (handle, t) ∈ s.timers) : Inv strict ((s.clearTimeout handle).onBridgeTimeout t) := by
  unfold Cell.onBridgeTimeout
  split
  · next hnone => exact hs.dropTimer hmem hnone
  · exact (hs.dropPending hmem).refuse _ _

/-! ## Splicing -/

lemma Inv.link {s : Cell} (hs : Inv strict s) {b : Bridge} (hctl : s.Absent b.controller)
    (hhost : s.Absent b.host) (hcrole : (s.conn b.controller).role = .controllerData)
    (hhrole : (s.conn b.host).role = .hostData)
    (hcawaiting : (s.conn b.controller).awaiting = none)
    (hhawaiting : (s.conn b.host).awaiting = none)
    (hcopen : (s.conn b.controller).outer.closed = false)
    (hhopen : strict → (s.conn b.host).outer.closed = false) : Inv strict (s.link b) := by
  have hne : b.controller ≠ b.host := by
    intro he
    rw [he, hhrole] at hcrole
    cases hcrole
  have hc : (s.link b).conn b.controller = { s.conn b.controller with bridge := some b } := by
    rw [Cell.link, modify_conn_ne _ hne, modify_conn_self]
  have hh : (s.link b).conn b.host = { s.conn b.host with bridge := some b } := by
    rw [Cell.link, modify_conn_self, modify_conn_ne _ hne.symm]
  have hother : ∀ c, c ≠ b.controller → c ≠ b.host → (s.link b).conn c = s.conn c := by
    intro c h h'
    rw [Cell.link, modify_conn_ne _ h', modify_conn_ne _ h]
  refine ⟨?_, ?_, ?_, ?_, ?_, ?_, hs.timersNodup, hs.timersLt, ?_, ?_⟩
  · intro h c hget
    have hget' : s.hosts.get h = some c := hget
    rw [hother c (fun he => hctl.hosts h (he ▸ hget')) (fun he => hhost.hosts h (he ▸ hget'))]
    exact hs.hosts h c hget'
  · intro t p hp
    have hp' : s.pending.get t = some p := hp
    rw [hother _ (hctl.pending t p hp') (hhost.pending t p hp')]
    exact hs.pending t p hp'
  · intro b' hb'
    rcases List.mem_append.1 hb' with hold | hnew
    · rw [hother _ (hctl.bridges b' hold).1 (hhost.bridges b' hold).1]
      exact hs.controllers b' hold
    · obtain rfl : b' = b := by simpa using hnew
      rw [hc]
      exact ⟨hcrole, rfl, hcopen⟩
  · intro b' hb'
    rcases List.mem_append.1 hb' with hold | hnew
    · rw [hother _ (hctl.bridges b' hold).2 (hhost.bridges b' hold).2]
      exact hs.dialed b' hold
    · obtain rfl : b' = b := by simpa using hnew
      rw [hh]
      exact ⟨hhrole, rfl, hhopen⟩
  · intro c b' hb'
    by_cases h : c = b.controller
    · rw [h, hc] at hb'
      obtain rfl := Option.some.inj hb'
      exact .inl h
    · by_cases h' : c = b.host
      · rw [h', hh] at hb'
        obtain rfl := Option.some.inj hb'
        exact .inr h'
      · rw [hother c h h'] at hb'
        exact hs.ends c b' hb'
  · show (s.bridges ++ [b]).Nodup
    rw [List.nodup_append]
    refine ⟨hs.bridgesNodup, by simp, ?_⟩
    intro b' hb' b'' hb''
    obtain rfl : b'' = b := by simpa using hb''
    rintro rfl
    exact (hctl.bridges b' hb').1 rfl
  · intro c
    by_cases h : c = b.controller
    · rw [h, hc]
      exact tidy_data (.inl hcrole) hcawaiting
    · by_cases h' : c = b.host
      · rw [h', hh]
        exact tidy_data (.inr hhrole) hhawaiting
      · rw [hother c h h']
        exact hs.tidy c
  · intro c hc'
    have hrole := hs.unborn c hc'
    have h : c ≠ b.controller := by
      rintro rfl
      rw [hcrole] at hrole
      cases hrole
    have h' : c ≠ b.host := by
      rintro rfl
      rw [hhrole] at hrole
      cases hrole
    rw [hother c h h']
    exact hrole

lemma Inv.absent_dropPending {s : Cell} (hs : Inv strict s) {t : Ticket} {p : PendingBridge}
    (hp : s.pending.get t = some p) :
    Absent { s.clearTimeout p.timer with pending := s.pending.erase t } p.controller := by
  have hwait := (hs.pending t p hp).2.1
  refine ⟨?_, ?_, ?_⟩
  · intro h hget
    have hrole := (hs.hosts h _ hget).role
    rw [hwait.role] at hrole
    cases hrole
  · intro t' p' hp' he
    obtain ⟨hne, hget⟩ := InsertionMap.get_erase_eq_some.1 hp'
    have hticket := (hs.pending t' p' hget).2.1.ticket
    rw [he, hwait.ticket] at hticket
    exact hne (Option.some.inj hticket).symm
  · intro b hb
    constructor
    · intro he
      have hbridge := (hs.controllers b hb).2.1
      rw [he, hwait.bridge] at hbridge
      cases hbridge
    · intro he
      have hbridge := (hs.dialed b hb).2.1
      rw [he, hwait.bridge] at hbridge
      cases hbridge

lemma Inv.completeHostDial {s : Cell} (hs : Inv strict s) (o : CellOptions) {c : ConnId}
    (hrole : (s.conn c).role = .hostData) (hbridge : (s.conn c).bridge = none)
    (hawaiting : (s.conn c).awaiting = none) (t : Ticket) (mac : Option Bytes32)
    (hopen : strict → ∀ p, s.pending.get t = some p → s.dialVerifies o p t mac = true →
      (s.conn c).outer.closed = false) : Inv strict (s.completeHostDial o c t mac) := by
  unfold Cell.completeHostDial
  split
  · exact hs.refuse c _
  · next p hp =>
    split
    · next hverifies =>
      have hwait := (hs.pending t p hp).2.1
      have hne : p.controller ≠ c := by
        intro he
        have hcrole := hwait.role
        rw [he, hrole] at hcrole
        cases hcrole
      have habsent : s.Absent c :=
        hs.absent (by rw [hrole]; decide) (.inl (by rw [hrole]; decide)) hbridge
      have hdrop := hs.dropPending (hs.pending t p hp).2.2
      have hctl := hs.absent_dropPending hp
      have hcgone : Absent { s.clearTimeout p.timer with pending := s.pending.erase t } c :=
        ⟨habsent.hosts, fun t' p' hp' => habsent.pending t' p' (InsertionMap.get_erase_eq_some.1 hp').2,
          habsent.bridges⟩
      have hborn : ¬ s.accepted ≤ c := by
        intro hc
        rw [hs.unborn c hc] at hrole
        cases hrole
      have hset := hdrop.modify_absent hcgone
        (f := fun k => { k with ticket := some t, hostId := some p.hostId })
        (tidy_data (.inr hrole) hawaiting) (.inl rfl) fun hc => absurd hc hborn
      have hcawaiting : (s.conn p.controller).awaiting = none := by
        have htidy := hs.tidy p.controller
        cases ha : (s.conn p.controller).awaiting with
        | none => rfl
        | some a =>
          cases a with
          | hostStaticPublicKey h =>
            have hpend := (htidy.awaitingKey h ha).1
            rw [hwait.role] at hpend
            cases hpend
          | resolveTicket u =>
            have hnone := (htidy.awaitingTicket u ha).2.1
            rw [hwait.ticket] at hnone
            cases hnone
      refine Inv.quiet (Inv.link hset (b := ⟨t, p.controller, c⟩) (hctl.modify _ _)
        (hcgone.modify _ _) ?_ ?_ ?_ ?_ ?_ ?_) (.pipe _ _)
      · rw [modify_conn_ne _ hne]
        exact hwait.role
      · rw [modify_conn_self]
        exact hrole
      · rw [modify_conn_ne _ hne]
        exact hcawaiting
      · rw [modify_conn_self]
        exact hawaiting
      · rw [modify_conn_ne _ hne]
        exact hwait.closed
      · rw [modify_conn_self]
        exact fun hstrict => hopen hstrict p hp hverifies
    · exact hs.refuse c _

end Cell

end Pherry.RelayCore
