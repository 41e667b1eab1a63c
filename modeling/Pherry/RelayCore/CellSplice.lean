import Pherry.Lib.Recent
import Pherry.RelayCore.CellConsistent

/-!
# What a splice joins

A bridge appears only while a chunk is read, on the connection that chunk came from, and only for
a dial whose MAC verifies against the pending bridge it consumes. A pending bridge appears only
when a ticket is accepted. Over a whole run no connection is ever in two bridges, none waits
twice, and a ticket comes back only when the bounded memory has forgotten it.
-/

namespace Pherry.RelayCore

open Lib

namespace Cell

variable (o : CellOptions)

/-- The bridges a step created. -/
def newBridges (s : Cell) (e : Event) : List Bridge :=
  (s.step o e).bridges.filter (· ∉ s.bridges)

/-- The pending bridges a step created. -/
def newPending (s : Cell) (e : Event) : List PendingBridge :=
  (s.step o e).pending.values.filter (· ∉ s.pending.values)

/-- `b` joins the controller of a pending bridge with the connection `c`, whose messages
`messages` contain the dial that verifies for it. -/
structure Dialed (s : Cell) (c : ConnId) (messages : List OuterMessage) (b : Bridge)
    (p : PendingBridge) (control : ConnId) (dataKey : Bytes) (mac : Bytes32) : Prop where
  host : b.host = c
  controller : b.controller = p.controller
  pending : s.pending.get b.ticket = some p
  unclassified : (s.conn c).role = .unclassified
  presented : .dataAuth .host b.ticket (some mac) ∈ messages
  registered : s.hosts.get p.hostId = some control
  key : (s.conn control).dataKey = some dataKey
  verifies : verifyDataAuthMac o.crypto dataKey o.cellId b.ticket.1 p.nonce.1 mac.1 = true

variable {o}

lemma dialVerifies_iff {s : Cell} {p : PendingBridge} {t : Ticket} {mac : Option Bytes32} :
    s.dialVerifies o p t mac = true ↔ ∃ control dataKey mac', mac = some mac' ∧
      s.hosts.get p.hostId = some control ∧ (s.conn control).dataKey = some dataKey ∧
        verifyDataAuthMac o.crypto dataKey o.cellId t.1 p.nonce.1 mac'.1 = true := by
  unfold dialVerifies
  cases hget : s.hosts.get p.hostId with
  | none => simp
  | some control =>
    cases hkey : (s.conn control).dataKey with
    | none => simp [hkey]
    | some dataKey =>
      cases mac with
      | none => simp
      | some mac => simp [hkey]

/-! ## One message -/

lemma bridges_onProof (s : Cell) (c : ConnId) (m : OuterMessage) :
    ∀ b ∈ (settled (s.onProof o c m)).bridges, b ∈ s.bridges := by
  have hdropped : ∀ code, ∀ b ∈ ((s.dropChallenge c).refuse c code).bridges, b ∈ s.bridges :=
    fun code => ((Shrinks.dropChallenge s c).trans (.refuse _ c code)).bridges
  have hregistered : ∀ h dataKey, ∀ b ∈ ((s.dropChallenge c).register c h dataKey).bridges,
      b ∈ s.bridges := by
    intro h dataKey b hb
    rw [show ((s.dropChallenge c).register c h dataKey).bridges = s.bridges from
      (tables_supersede (s.dropChallenge c) c h).bridges] at hb
    exact hb
  unfold onProof
  split
  · split
    · simp only
      split
      · exact hdropped _
      · next dataKey _ =>
        split
        · exact hregistered _ dataKey
        · exact hregistered _ dataKey
    · exact (Shrinks.refuse s c _).bridges
  · exact hdropped _

lemma classify_dial (s : Cell) (c : ConnId) (t : Ticket) (mac : Option Bytes32) :
    s.classify o c (.dataAuth .host t mac)
      = (s.modify c fun k => { k with role := .hostData }).completeHostDial o c t mac := rfl

lemma classify_controller (s : Cell) (c : ConnId) (t : Ticket) (mac : Option Bytes32) :
    s.classify o c (.dataAuth .controller t mac)
      = (s.modify c fun k => { k with role := .controllerData }).beginControllerBridge c t := rfl

/-- The state a verified dial is spliced in. -/
def consume (s : Cell) (c : ConnId) (p : PendingBridge) (t : Ticket) : Cell :=
  { s.clearTimeout p.timer with pending := s.pending.erase t }.modify c
    fun k => { k with ticket := some t, hostId := some p.hostId }

lemma completeHostDial_cases (s : Cell) (c : ConnId) (t : Ticket) (mac : Option Bytes32) :
    (∃ code, s.completeHostDial o c t mac = s.refuse c code) ∨
      ∃ p, s.pending.get t = some p ∧ s.dialVerifies o p t mac = true ∧
        s.completeHostDial o c t mac = (s.consume c p t).splice p.controller c t := by
  unfold completeHostDial
  split
  · exact .inl ⟨_, rfl⟩
  · next p hp =>
    split
    · next hverifies => exact .inr ⟨p, hp, hverifies, rfl⟩
    · exact .inl ⟨_, rfl⟩

lemma bridges_splice (s : Cell) (controller host : ConnId) (t : Ticket) :
    (s.splice controller host t).bridges = s.bridges ++ [⟨t, controller, host⟩] :=
  (Quiet.pipe _ _).tables.bridges

lemma pending_splice (s : Cell) (controller host : ConnId) (t : Ticket) :
    (s.splice controller host t).pending = s.pending :=
  (Quiet.pipe _ _).tables.pending

lemma bridges_dispatch {s : Cell} {c : ConnId} {m : OuterMessage} {b : Bridge}
    (hb : b ∈ (settled (s.dispatch o c m)).bridges) (hold : b ∉ s.bridges) :
    (settled (s.dispatch o c m)).pending.get b.ticket = none ∧
      ∃ p control dataKey mac, Dialed o s c [m] b p control dataKey mac := by
  unfold dispatch at hb ⊢
  split at hb
  · next hrole =>
    simp only [settled] at hb ⊢
    cases m with
    | dataAuth role t mac =>
      cases role with
      | controller =>
        have hshrinks : Shrinks s (s.classify o c (.dataAuth .controller t mac)) :=
          (Shrinks.modify s c rfl (fun h => h) (.of_unclassified hrole)).trans
            (.beginControllerBridge _ c t)
        exact absurd (hshrinks.bridges b hb) hold
      | host =>
        rw [classify_dial] at hb ⊢
        rcases completeHostDial_cases (o := o) (s.modify c fun k => { k with role := .hostData })
          c t mac with ⟨code, h⟩ | ⟨p, hp, hverifies, h⟩
        · rw [h] at hb
          exact absurd ((Shrinks.refuse _ c code).bridges b hb) hold
        · rw [h] at hb ⊢
          rw [bridges_splice] at hb
          rw [pending_splice]
          rcases List.mem_append.1 hb with hmem | hnew
          · exact absurd hmem hold
          · obtain rfl := List.mem_singleton.1 hnew
            refine ⟨InsertionMap.get_erase_self _ _, ?_⟩
            have hsame := dialVerifies_congr o s
              (s.modify c fun k => { k with role := .hostData }) rfl (fun c' => by
                by_cases he : c' = c
                · exact .inl (by rw [he, modify_conn_self])
                · exact .inl (by rw [modify_conn_ne s he])) p t mac
            rw [hsame] at hverifies
            obtain ⟨control, dataKey, mac', rfl, hget, hkey, hmac⟩ := dialVerifies_iff.1 hverifies
            exact ⟨p, control, dataKey, mac', rfl, rfl, hp, hrole, List.mem_singleton.2 rfl, hget,
              hkey, hmac⟩
    | hostHello h =>
      exact absurd hb hold
    | hostChallenge _ _ _ => exact absurd ((Shrinks.refuse s c _).bridges b hb) hold
    | hostProof _ => exact absurd ((Shrinks.refuse s c _).bridges b hb) hold
    | hostRegistered _ => exact absurd ((Shrinks.refuse s c _).bridges b hb) hold
    | connOpen _ _ => exact absurd ((Shrinks.refuse s c _).bridges b hb) hold
    | dataReady => exact absurd ((Shrinks.refuse s c _).bridges b hb) hold
    | drain => exact absurd ((Shrinks.refuse s c _).bridges b hb) hold
    | close _ _ => exact absurd ((Shrinks.refuse s c _).bridges b hb) hold
  · exact absurd (bridges_onProof s c m b hb) hold
  · split at hb
    · exact absurd ((Shrinks.detach s c).bridges b hb) hold
    · exact absurd ((Shrinks.refuse s c _).bridges b hb) hold
  · exact absurd ((Shrinks.refuse s c _).bridges b hb) hold
  · exact absurd ((Shrinks.refuse s c _).bridges b hb) hold

/-- A connection still unclassified after a message was so before it, and was refused. -/
lemma elsewhere_of_unclassified {strict : Prop} {s : Cell} (hs : Inv strict s) {c : ConnId}
    {m : OuterMessage} (h : ((settled (s.dispatch o c m)).conn c).role = .unclassified) :
    (s.conn c).role = .unclassified ∧ Elsewhere c s (settled (s.dispatch o c m)) ∧
      ((settled (s.dispatch o c m)).conn c).outer.reader = (s.conn c).outer.reader := by
  have hrole : (s.conn c).role = .unclassified := by
    by_contra hne
    exact ((Calm.dispatch o s c m).ages c).classified hne h
  refine ⟨hrole, ?_⟩
  have hrefuse : Elsewhere c s (s.refuse c .protocolError) ∧
      ((s.refuse c .protocolError).conn c).outer.reader = (s.conn c).outer.reader :=
    ⟨(hs.absent_of_unclassified hrole).refuse hs _, (kept_refuse s c c _).reader⟩
  unfold dispatch at h ⊢
  rw [hrole] at h ⊢
  simp only [settled] at h ⊢
  cases m with
  | dataAuth role t mac =>
    exfalso
    cases role with
    | controller =>
      rw [classify_controller, role_beginControllerBridge, modify_conn_self] at h
      cases h
    | host =>
      rw [classify_dial, role_completeHostDial, modify_conn_self] at h
      cases h
  | hostHello hostId =>
    exfalso
    unfold classify at h
    rw [modify_conn_self] at h
    cases h
  | hostChallenge _ _ _ => exact hrefuse
  | hostProof _ => exact hrefuse
  | hostRegistered _ => exact hrefuse
  | connOpen _ _ => exact hrefuse
  | dataReady => exact hrefuse
  | drain => exact hrefuse
  | close _ _ => exact hrefuse

lemma Dialed.of_elsewhere {s s' : Cell} {c : ConnId} (h : Elsewhere c s s') (hc : s.Absent c)
    (hrole : (s.conn c).role = .unclassified) {l l' : List OuterMessage} (hl : l ⊆ l') {b : Bridge}
    {p : PendingBridge} {control : ConnId} {dataKey : Bytes} {mac : Bytes32}
    (hd : Dialed o s' c l b p control dataKey mac) :
    Dialed o s c l' b p control dataKey mac where
  host := hd.host
  controller := hd.controller
  pending := by rw [← h.tables.pending]; exact hd.pending
  unclassified := hrole
  presented := hl hd.presented
  registered := by rw [← h.tables.hosts]; exact hd.registered
  key := by
    have hne : control ≠ c := by
      rintro rfl
      have hreg := hd.registered
      rw [h.tables.hosts] at hreg
      exact hc.hosts _ hreg
    rw [← h.conn control hne]
    exact hd.key
  verifies := hd.verifies

lemma Dialed.of_quiet {s s' : Cell} {c : ConnId} (h : Quiet s s') {l : List OuterMessage}
    {b : Bridge} {p : PendingBridge} {control : ConnId} {dataKey : Bytes} {mac : Bytes32}
    (hd : Dialed o s' c l b p control dataKey mac) : Dialed o s c l b p control dataKey mac where
  host := hd.host
  controller := hd.controller
  pending := by rw [← h.tables.pending]; exact hd.pending
  unclassified := by rw [← (h.conn c).role]; exact hd.unclassified
  presented := hd.presented
  registered := by rw [← h.tables.hosts]; exact hd.registered
  key := by rw [← (h.conn control).dataKey]; exact hd.key
  verifies := hd.verifies

/-! ## One chunk -/

lemma Calm.pending_none {s s' : Cell} (h : Calm s s') {t : Ticket}
    (hnone : s.pending.get t = none) : s'.pending.get t = none := by
  cases hget : s'.pending.get t with
  | none => rfl
  | some p =>
    rw [h.pending t p hget] at hnone
    cases hnone

lemma Ready.bridges_receiveLoop {fuel : ℕ} {s : Cell} {c : ConnId} (hs : Ready o False fuel s c)
    {b : Bridge} (hb : b ∈ (Cell.receiveLoop o fuel s c).bridges) (hold : b ∉ s.bridges) :
    (Cell.receiveLoop o fuel s c).pending.get b.ticket = none ∧
      ∃ p control dataKey mac, Dialed o s c (s.messages o fuel c) b p control dataKey mac := by
  induction fuel generalizing s with
  | zero => exact absurd hb hold
  | succ fuel ih =>
    rcases receiveLoop_succ o fuel s c with h | ⟨s₁, hs₁, h⟩ |
      ⟨payload, reader, m, -, hnext, hm, hd⟩
    · rw [h] at hb
      exact absurd hb hold
    · rw [h] at hb
      have hmem := (Shrinks.fail s₁ c).bridges b hb
      rcases hs₁ with rfl | ⟨reader, rfl⟩
      · exact absurd hmem hold
      · exact absurd hmem hold
    · have hquiet := Quiet.setReader s c reader
      have hmessages := messages_setReader fuel hnext hm
      -- the message itself splices
      have hnow : b ∈ (settled ((s.setReader c reader).dispatch o c m)).bridges →
          (settled ((s.setReader c reader).dispatch o c m)).pending.get b.ticket = none ∧
            ∃ p control dataKey mac,
              Dialed o s c (s.messages o (fuel + 1) c) b p control dataKey mac := by
        intro hmem
        obtain ⟨hnone, p, control, dataKey, mac, hdial⟩ := bridges_dispatch hmem hold
        refine ⟨hnone, p, control, dataKey, mac, { hdial.of_quiet hquiet with presented := ?_ }⟩
        rw [hmessages, List.mem_singleton.1 hdial.presented]
        exact List.mem_cons_self
      rcases hd with ⟨s', hd, h⟩ | ⟨s', hd, h⟩
      · rw [h] at hb ⊢
        rw [hd] at hnow
        obtain ⟨hnone, hdial⟩ := hnow ((Shrinks.fail s' c).bridges b hb)
        exact ⟨(Shrinks.fail s' c).calm.pending_none hnone, hdial⟩
      · rw [h] at hb ⊢
        by_cases hmem : b ∈ s'.bridges
        · rw [hd] at hnow
          obtain ⟨hnone, hdial⟩ := hnow hmem
          exact ⟨(Calm.receiveLoop o fuel s' c).pending_none hnone, hdial⟩
        · -- a later message splices, so this one left the connection unclassified
          have hready := hs.take hnext hm
          rw [hd] at hready
          obtain ⟨hnone, p, control, dataKey, mac, hdial⟩ := ih hready hb hmem
          have hinv := hs.inv.quiet hquiet
          have hstill : ((settled ((s.setReader c reader).dispatch o c m)).conn c).role
              = .unclassified := by
            rw [hd]
            exact hdial.unclassified
          obtain ⟨hrole, helse, hreader⟩ := elsewhere_of_unclassified hinv hstill
          rw [hd] at helse hreader
          have hkept : s'.messages o fuel c ⊆ s.messages o (fuel + 1) c := by
            rw [hmessages, messages, show (s'.conn c).outer.reader = _ from hreader]
            exact List.subset_cons_self _ _
          have hbefore := hdial.of_elsewhere helse (hinv.absent_of_unclassified hrole) hrole hkept
          exact ⟨hnone, p, control, dataKey, mac, hbefore.of_quiet hquiet⟩

/-! ## One step -/

variable (o) in
/-- The messages a chunk completes on `c`. -/
def chunkMessages (s : Cell) (c : ConnId) (chunk : Bytes) : List OuterMessage :=
  ((s.conn c).outer.reader.push chunk).messages o.decodeOuterMessage
    (((s.conn c).outer.reader.push chunk).length + 1)

lemma messages_buffer (s : Cell) (c : ConnId) (chunk : Bytes) :
    (s.buffer c chunk).messages o (((s.buffer c chunk).conn c).outer.reader.length + 1) c
      = s.chunkMessages o c chunk := by
  rw [messages, buffer, modify_conn_self]
  rfl

lemma Inv.bridges_receive {s : Cell} (hs : Inv False s) {c : ConnId} {chunk : Bytes} {b : Bridge}
    (hb : b ∈ (s.onReceive o c chunk).bridges) (hold : b ∉ s.bridges) :
    (s.onReceive o c chunk).pending.get b.ticket = none ∧
      ∃ p control dataKey mac, Dialed o s c (s.chunkMessages o c chunk) b p control dataKey mac := by
  unfold Cell.onReceive at hb ⊢
  split at hb
  · next hborn =>
    rw [if_pos hborn]
    cases hclosed : (s.conn c).outer.closed with
    | true =>
      rw [Cell.receive, if_pos hclosed] at hb
      exact absurd hb hold
    | false =>
      cases hraw : (s.conn c).outer.raw with
      | true =>
        rw [Cell.receive, if_neg (by simp [hclosed]), if_pos hraw] at hb
        exact absurd ((Shrinks.deliverRaw s c chunk).bridges b hb) hold
      | false =>
        have hready := hs.ready_buffer (o := o) hborn hclosed hraw chunk
          fun h => h.elim
        have hreceive : s.receive o c chunk = Cell.receiveLoop o
            (((s.buffer c chunk).conn c).outer.reader.length + 1) (s.buffer c chunk) c := by
          rw [Cell.receive, hclosed, hraw]
          rfl
        rw [hreceive] at hb ⊢
        obtain ⟨hnone, p, control, dataKey, mac, hdial⟩ := hready.bridges_receiveLoop hb hold
        rw [messages_buffer] at hdial
        exact ⟨hnone, p, control, dataKey, mac, hdial.of_quiet (.buffer s c chunk)⟩
  · exact absurd hb hold

lemma bridges_step (o : CellOptions) (s : Cell) (e : Event) :
    (∀ b ∈ (s.step o e).bridges, b ∈ s.bridges) ∨ ∃ c chunk, e = .receive c chunk := by
  cases e with
  | receive c chunk => exact .inr ⟨c, chunk, rfl⟩
  | accept monitored =>
    left
    show ∀ b ∈ (s.accept monitored).bridges, b ∈ s.bridges
    unfold accept
    split <;> exact fun b hb => hb
  | hostKeyReply c reply ephemeralSecret nonce =>
    exact .inl (Shrinks.onHostKeyReply o s c reply ephemeralSecret nonce).bridges
  | ticketReply c reply now nonce =>
    left
    show ∀ b ∈ (s.onTicketReply c reply now nonce).bridges, b ∈ s.bridges
    rcases onTicketReply_cases s c reply now nonce with h | ⟨t, record, control, rfl, h⟩
    · exact h.bridges
    · rw [onTicketReply_of_accepts h nonce, bridges_openPending]
      exact fun b hb => hb
  | timer handle => exact .inl (Shrinks.onTimer s handle).bridges
  | peerClose c => exact .inl (Shrinks.onPeerClose s c).bridges
  | drain =>
    left
    show ∀ b ∈ s.drain.bridges, b ∈ s.bridges
    rcases Quiet.drain s with h | h
    · rw [h]
      exact fun b hb => hb
    · exact h.shrinks.bridges
  | close => exact .inl (Shrinks.close s).bridges

lemma mem_newBridges {s : Cell} {e : Event} {b : Bridge} :
    b ∈ s.newBridges o e ↔ b ∈ (s.step o e).bridges ∧ b ∉ s.bridges := by
  simp [newBridges, List.mem_filter]

lemma eq_singleton_of_nodup {α : Type*} {l : List α} (hl : l.Nodup) {a : α} (ha : a ∈ l)
    (hall : ∀ x ∈ l, x = a) : l = [a] := by
  cases l with
  | nil => cases ha
  | cons x l =>
    obtain rfl := hall x List.mem_cons_self
    have hnil : l = [] := by
      apply List.eq_nil_iff_forall_not_mem.2
      intro y hy
      obtain rfl := hall y (.tail _ hy)
      exact (List.nodup_cons.1 hl).1 hy
    rw [hnil]

/-- A step creates no bridge, or it is a chunk that creates one, on the chunk's connection. -/
lemma Inv.newBridges_cases {s : Cell} (hs : Inv False s) (e : Event) :
    s.newBridges o e = [] ∨ ∃ b chunk p control dataKey mac, s.newBridges o e = [b] ∧
      e = .receive b.host chunk ∧ (s.step o e).pending.get b.ticket = none ∧
        Dialed o s b.host (s.chunkMessages o b.host chunk) b p control dataKey mac := by
  rcases bridges_step o s e with hshrink | ⟨c, chunk, rfl⟩
  · left
    rw [newBridges, List.filter_eq_nil_iff]
    intro b hb
    simpa using hshrink b hb
  · have hinv := hs.step (o := o) (.receive c chunk) fun h => h.elim
    cases hl : s.newBridges o (.receive c chunk) with
    | nil => exact .inl rfl
    | cons b l =>
      have hmem : b ∈ s.newBridges o (.receive c chunk) := by
        rw [hl]
        exact List.mem_cons_self
      obtain ⟨hb, hold⟩ := mem_newBridges.1 hmem
      obtain ⟨hnone, p, control, dataKey, mac, hdial⟩ := hs.bridges_receive hb hold
      have hhost := hdial.host
      refine .inr ⟨b, chunk, p, control, dataKey, mac, ?_, ?_, hnone, ?_⟩
      · rw [← hl]
        refine eq_singleton_of_nodup (hinv.bridgesNodup.filter _) hmem ?_
        -- every bridge the chunk creates has `c` as its host, and `c` points at one
        intro b' hb'
        obtain ⟨hb'', hold'⟩ := mem_newBridges.1 hb'
        obtain ⟨-, p', control', dataKey', mac', hdial'⟩ := hs.bridges_receive hb'' hold'
        have hpoint := (hinv.dialed b' hb'').2.1
        have hsame : b'.host = b.host := hdial'.host.trans hhost.symm
        rw [hsame, (hinv.dialed b hb).2.1] at hpoint
        exact (Option.some.inj hpoint).symm
      · rw [hhost]
      · rw [hhost]
        exact hdial

lemma Inv.newPending_cases {s : Cell} (hs : Inv False s) (e : Event) :
    (s.newPending o e = [] ∧ AddsNothing s (s.step o e)) ∨
      ∃ c t record now nonce control, e = .ticketReply c (.ok (some record)) now nonce ∧
        s.Accepts c t record now control ∧
          s.newPending o e = [⟨t, record.hostId, c, s.nextTimer, nonce⟩] := by
  rcases addsNothing_step o s e with h | ⟨c, t, record, now, nonce, control, rfl, h⟩
  · left
    refine ⟨?_, h⟩
    rw [newPending, List.filter_eq_nil_iff]
    intro p hp
    obtain ⟨t, hget⟩ := InsertionMap.mem_values_iff.1 hp
    have hmem : p ∈ s.pending.values := InsertionMap.mem_values_iff.2 ⟨t, h.pending t p hget⟩
    simpa using hmem
  · right
    refine ⟨c, t, record, now, nonce, control, rfl, h, ?_⟩
    have hinv := hs.step (o := o) (.ticketReply c (.ok (some record)) now nonce) fun h => h.elim
    have hpending : (s.step o (.ticketReply c (.ok (some record)) now nonce)).pending
        = s.pending.set t ⟨t, record.hostId, c, s.nextTimer, nonce⟩ :=
      congrArg Cell.pending (onTicketReply_of_accepts h nonce)
    have hnodup : (s.step o (.ticketReply c (.ok (some record)) now nonce)).pending.values.Nodup :=
      hinv.nodup_pending.of_map _
    refine eq_singleton_of_nodup (hnodup.filter _) ?_ ?_
    · have hnot : (⟨t, record.hostId, c, s.nextTimer, nonce⟩ : PendingBridge) ∉
          s.pending.values := by
        intro hmem
        obtain ⟨t', hget⟩ := InsertionMap.mem_values_iff.1 hmem
        exact (hs.absent_of_awaitingTicket h.awaiting).pending t' _ hget rfl
      rw [List.mem_filter, hpending]
      exact ⟨InsertionMap.mem_values_iff.2 ⟨t, InsertionMap.get_set_self _ _ _⟩, by simpa using hnot⟩
    · intro p hp
      obtain ⟨hmem, hnot⟩ := List.mem_filter.1 hp
      have hnot : p ∉ s.pending.values := by simpa using hnot
      rw [hpending] at hmem
      obtain ⟨t', hget⟩ := InsertionMap.mem_values_iff.1 hmem
      rw [InsertionMap.get_set] at hget
      by_cases ht : t' = t
      · rw [if_pos ht] at hget
        exact (Option.some.inj hget).symm
      · rw [if_neg ht] at hget
        exact absurd (InsertionMap.mem_values_iff.2 ⟨t', hget⟩) hnot

lemma Inv.ages_step {s : Cell} (hs : Inv False s) (e : Event) {c : ConnId}
    (hborn : c < s.accepted) : (s.conn c).Ages ((s.step o e).conn c) := by
  cases e with
  | accept monitored =>
    show (s.conn c).Ages ((s.accept monitored).conn c)
    unfold Cell.accept
    split
    · exact .of_eq rfl rfl
    · have hsame : (s.modify s.accepted fun _ => Conn.fresh monitored).conn c = s.conn c :=
        modify_conn_ne s (Nat.ne_of_lt hborn) _
      rw [hsame]
      exact .of_eq rfl rfl
  | receive c' chunk => exact (Calm.onReceive o s c' chunk).ages c
  | hostKeyReply c' reply ephemeralSecret nonce =>
    exact (Shrinks.onHostKeyReply o s c' reply ephemeralSecret nonce).ages c
  | ticketReply c' reply now nonce =>
    show (s.conn c).Ages ((s.onTicketReply c' reply now nonce).conn c)
    rcases onTicketReply_cases s c' reply now nonce with h | ⟨t, record, control, rfl, h⟩
    · exact h.ages c
    · rw [onTicketReply_of_accepts h nonce, Cell.openPending]
      have hsent := same_send ((s.resume c').addPending c' t record.hostId nonce) control
        (.connOpen t nonce) c
      refine Conn.Ages.trans ?_ (.of_eq hsent.role hsent.ticket)
      show (s.conn c).Ages ((((s.resume c').markTicketUsed t).modify c'
        fun k => { k with ticket := some t, hostId := some record.hostId }).conn c)
      by_cases hc : c = c'
      · obtain ⟨hrole, hticket, -⟩ := (hs.tidy c').awaitingTicket t h.awaiting
        rw [hc, modify_conn_self]
        have hresume : ((s.resume c').markTicketUsed t).conn c' = { s.conn c' with awaiting := none } :=
          conn_resume_self s c'
        rw [hresume]
        refine ⟨fun hr => hr, fun hr => hr, fun hr => hr, fun _ hsome => ?_⟩
        rw [hticket] at hsome
        cases hsome
      · rw [modify_conn_ne _ hc]
        have hresume : ((s.resume c').markTicketUsed t).conn c = s.conn c :=
          conn_resume_ne s hc
        rw [hresume]
        exact .of_eq rfl rfl
  | timer handle => exact (Shrinks.onTimer s handle).ages c
  | peerClose c' => exact (Shrinks.onPeerClose s c').ages c
  | drain =>
    show (s.conn c).Ages (s.drain.conn c)
    rcases Quiet.drain s with h | h
    · rw [h]
      exact .of_eq rfl rfl
    · exact .of_eq (h.conn c).role (h.conn c).ticket
  | close => exact (Shrinks.close s).ages c

end Cell

end Pherry.RelayCore
