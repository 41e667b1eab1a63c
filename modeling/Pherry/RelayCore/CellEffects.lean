import Pherry.RelayCore.CellRun

/-!
# What a step adds

Only the reply to a ticket lookup adds a pending bridge, and only when the cell accepts the
ticket; only a chunk adds a bridge. Every other step removes.
-/

namespace Pherry.RelayCore

open Lib

namespace Cell

/-- What the cell checks when a ticket lookup of `c` returns `record`, all of it satisfied. -/
structure Accepts (s : Cell) (c : ConnId) (ticket : Ticket) (record : TicketRecord) (now : ℤ)
    (control : ConnId) : Prop where
  awaiting : (s.conn c).awaiting = some (.resolveTicket ticket)
  running : s.closed = false
  connected : (s.conn c).outer.closed = false
  unexpired : now < record.expiresAt
  unused : ticket ∉ s.usedTickets
  registered : s.hosts.get record.hostId = some control

/-- The state in which the handler behind the `await` goes on. -/
def resume (s : Cell) (c : ConnId) : Cell := s.modify c fun k => { k with awaiting := none }

lemma conn_resume_self (s : Cell) (c : ConnId) :
    (s.resume c).conn c = { s.conn c with awaiting := none } := modify_conn_self s c _

lemma conn_resume_ne (s : Cell) {c c' : ConnId} (h : c' ≠ c) :
    (s.resume c).conn c' = s.conn c' := modify_conn_ne s h _

lemma Shrinks.resume (s : Cell) (c : ConnId) : Shrinks s (s.resume c) :=
  Shrinks.modify s c rfl (fun h => h) (.of_eq rfl rfl)

/-! ## Replies to ticket lookups -/

lemma onTicketReply_of_accepts {s : Cell} {c : ConnId} {t : Ticket} {record : TicketRecord}
    {now : ℤ} {control : ConnId} (h : s.Accepts c t record now control) (nonce : Bytes32) :
    s.onTicketReply c (.ok (some record)) now nonce
      = (s.resume c).openPending c control t record.hostId nonce := by
  have hlive : ((s.resume c).closed || ((s.resume c).conn c).outer.closed) = false := by
    rw [resume, modify_conn_self]
    show (s.closed || (s.conn c).outer.closed) = false
    rw [h.running, h.connected]
    rfl
  have hunexpired : ¬ now ≥ record.expiresAt := Int.not_le.2 h.unexpired
  have hunused : t ∉ (s.resume c).usedTickets := h.unused
  have hcontrol : (s.resume c).hosts.get record.hostId = some control := h.registered
  have hresume : s.onTicketReply c (.ok (some record)) now nonce
      = (s.resume c).ticketReply c t (.ok (some record)) now nonce := by
    rw [onTicketReply, h.awaiting]
    rfl
  rw [hresume, ticketReply]
  simp only [hlive, Bool.false_eq_true, if_false, if_neg hunexpired, if_neg hunused, hcontrol]

/-- Either the cell accepts the ticket and lets the controller wait, or nothing is added. -/
lemma onTicketReply_cases (s : Cell) (c : ConnId) (reply : Except Unit (Option TicketRecord))
    (now : ℤ) (nonce : Bytes32) :
    Shrinks s (s.onTicketReply c reply now nonce) ∨
      ∃ t record control, reply = .ok (some record) ∧ s.Accepts c t record now control := by
  cases hawaiting : (s.conn c).awaiting with
  | none =>
    left
    rw [onTicketReply, hawaiting]
    exact .refl s
  | some a =>
    cases a with
    | hostStaticPublicKey h =>
      left
      rw [onTicketReply, hawaiting]
      exact .refl s
    | resolveTicket t =>
      have hresume : s.onTicketReply c reply now nonce
          = (s.resume c).ticketReply c t reply now nonce := by
        rw [onTicketReply, hawaiting]
        rfl
      have hshrinks := Shrinks.resume s c
      have hconn : ((s.resume c).conn c).outer.closed = (s.conn c).outer.closed := by
        rw [resume, modify_conn_self]
      rw [hresume]
      unfold ticketReply
      split
      · exact .inl (hshrinks.trans (.fail _ c))
      · next record =>
        split
        · exact .inl hshrinks
        · next hlive =>
          rw [hconn] at hlive
          simp only [Bool.or_eq_true, not_or, Bool.not_eq_true] at hlive
          split
          · exact .inl (hshrinks.trans (.refuse _ c _))
          · next record =>
            split
            · exact .inl (hshrinks.trans (.refuse _ c _))
            · next hexpired =>
              split
              · exact .inl (hshrinks.trans (.refuse _ c _))
              · next hunused =>
                split
                · exact .inl (hshrinks.trans (.refuse _ c _))
                · next control hcontrol =>
                  exact .inr ⟨t, record, control, rfl, hawaiting, hlive.1, hlive.2,
                    Int.not_le.1 hexpired, hunused, hcontrol⟩

/-! ## Letting a controller wait -/

lemma accepted_openPending (s : Cell) (c control : ConnId) (t : Ticket) (h : JsString)
    (nonce : Bytes32) : (s.openPending c control t h nonce).accepted = s.accepted := rfl

lemma pending_openPending (s : Cell) (c control : ConnId) (t : Ticket) (h : JsString)
    (nonce : Bytes32) : (s.openPending c control t h nonce).pending
      = s.pending.set t ⟨t, h, c, s.nextTimer, nonce⟩ := rfl

lemma bridges_openPending (s : Cell) (c control : ConnId) (t : Ticket) (h : JsString)
    (nonce : Bytes32) : (s.openPending c control t h nonce).bridges = s.bridges := rfl

lemma closed_openPending (s : Cell) (c control : ConnId) (t : Ticket) (h : JsString)
    (nonce : Bytes32) (c' : ConnId) :
    ((s.openPending c control t h nonce).conn c').outer.closed = (s.conn c').outer.closed := by
  rw [openPending, (same_send _ control _ c').closed]
  show (((s.markTicketUsed t).modify c fun k =>
    { k with ticket := some t, hostId := some h }).conn c').outer.closed = _
  by_cases he : c' = c
  · rw [he, modify_conn_self]; rfl
  · rw [modify_conn_ne _ he]; rfl

/-! ## The other steps -/

lemma Shrinks.onHostKeyReply (o : CellOptions) (s : Cell) (c : ConnId)
    (reply : Except Unit (Option Bytes)) (ephemeralSecret : Bytes) (nonce : Bytes32) :
    Shrinks s (s.onHostKeyReply o c reply ephemeralSecret nonce) := by
  unfold Cell.onHostKeyReply
  split
  · exact (Shrinks.resume s c).trans (.hostKeyReply o _ c _ _ _ _)
  · exact .refl s

lemma Shrinks.onTimer (s : Cell) (handle : TimerHandle) : Shrinks s (s.onTimer handle) := by
  unfold Cell.onTimer
  split
  · exact (Shrinks.clearTimeout s handle).trans (.onBridgeTimeout _ _)
  · exact .refl s

lemma Shrinks.onPeerClose (s : Cell) (c : ConnId) : Shrinks s (s.onPeerClose c) := by
  unfold Cell.onPeerClose
  split
  · exact .detach s c
  · exact .refl s

lemma Calm.onReceive (o : CellOptions) (s : Cell) (c : ConnId) (chunk : Bytes) :
    Calm s (s.onReceive o c chunk) := by
  unfold Cell.onReceive
  split
  · exact .receive o s c chunk
  · exact .refl s

lemma Quiet.drain (s : Cell) : s.drain = s ∨ Quiet { s with draining := true } s.drain := by
  unfold Cell.drain
  split
  · exact .inl rfl
  · exact .inr (.foldl (fun s c => Quiet.send s c rfl) _ _)

/-- No pending bridge was added, no ticket used and no host told to dial. -/
structure AddsNothing (s s' : Cell) : Prop where
  pending : ∀ t p, s'.pending.get t = some p → s.pending.get t = some p
  usedTickets : s'.usedTickets = s.usedTickets
  signals : ∀ c, (s'.signals c).length ≤ (s.signals c).length

lemma Calm.addsNothing {s s' : Cell} (h : Calm s s') : AddsNothing s s' :=
  ⟨h.pending, h.usedTickets, fun c => Nat.le_of_eq (congrArg List.length (h.signals c))⟩

lemma addsNothing_step (o : CellOptions) (s : Cell) (e : Event) :
    AddsNothing s (s.step o e) ∨ ∃ c t record now nonce control,
      e = .ticketReply c (.ok (some record)) now nonce ∧ s.Accepts c t record now control := by
  cases e with
  | accept monitored =>
    left
    show AddsNothing s (s.accept monitored)
    unfold accept
    split
    · exact (Calm.refl s).addsNothing
    · refine ⟨fun t p hp => hp, rfl, fun c => ?_⟩
      show ((s.modify s.accepted fun _ => Conn.fresh monitored).signals c).length ≤ _
      by_cases hc : c = s.accepted
      · rw [hc, signals, modify_conn_self]
        exact Nat.zero_le _
      · rw [signals, modify_conn_ne s hc]
        exact Nat.le_refl _
  | receive c chunk => exact .inl (Calm.onReceive o s c chunk).addsNothing
  | hostKeyReply c reply ephemeralSecret nonce =>
    exact .inl (Shrinks.onHostKeyReply o s c reply ephemeralSecret nonce).calm.addsNothing
  | ticketReply c reply now nonce =>
    rcases onTicketReply_cases s c reply now nonce with h | ⟨t, record, control, rfl, h⟩
    · exact .inl h.calm.addsNothing
    · exact .inr ⟨c, t, record, now, nonce, control, rfl, h⟩
  | timer handle => exact .inl (Shrinks.onTimer s handle).calm.addsNothing
  | peerClose c => exact .inl (Shrinks.onPeerClose s c).calm.addsNothing
  | drain =>
    left
    show AddsNothing s s.drain
    rcases Quiet.drain s with h | h
    · rw [h]
      exact (Calm.refl s).addsNothing
    · have hcalm := h.shrinks.calm
      exact ⟨hcalm.pending, hcalm.usedTickets,
        fun c => Nat.le_of_eq (congrArg List.length (hcalm.signals c))⟩
  | close => exact .inl (Shrinks.close s).calm.addsNothing

lemma accepted_step (o : CellOptions) (s : Cell) (e : Event) :
    s.accepted ≤ (s.step o e).accepted := by
  cases e with
  | accept monitored =>
    show s.accepted ≤ (s.accept monitored).accepted
    unfold accept
    split
    · exact Nat.le_refl _
    · exact Nat.le_succ _
  | receive c chunk => exact Nat.le_of_eq (Calm.onReceive o s c chunk).accepted.symm
  | hostKeyReply c reply ephemeralSecret nonce =>
    exact Nat.le_of_eq (Shrinks.onHostKeyReply o s c reply ephemeralSecret nonce).accepted.symm
  | ticketReply c reply now nonce =>
    show s.accepted ≤ (s.onTicketReply c reply now nonce).accepted
    rcases onTicketReply_cases s c reply now nonce with h | ⟨t, record, control, rfl, h⟩
    · exact Nat.le_of_eq h.accepted.symm
    · rw [onTicketReply_of_accepts h nonce, accepted_openPending]
      exact Nat.le_refl _
  | timer handle => exact Nat.le_of_eq (Shrinks.onTimer s handle).accepted.symm
  | peerClose c => exact Nat.le_of_eq (Shrinks.onPeerClose s c).accepted.symm
  | drain =>
    rcases Quiet.drain s with h | h
    · exact Nat.le_of_eq (by rw [step, h])
    · exact Nat.le_of_eq h.tables.accepted.symm
  | close => exact Nat.le_of_eq (Shrinks.close s).accepted.symm

lemma closed_step (o : CellOptions) {s : Cell} {c : ConnId} (hborn : c < s.accepted)
    (hclosed : (s.conn c).outer.closed = true) (e : Event) :
    ((s.step o e).conn c).outer.closed = true := by
  cases e with
  | accept monitored =>
    show ((s.accept monitored).conn c).outer.closed = true
    unfold accept
    split
    · exact hclosed
    · have hne : c ≠ s.accepted := Nat.ne_of_lt hborn
      have hsame : (s.modify s.accepted fun _ => Conn.fresh monitored).conn c = s.conn c :=
        modify_conn_ne s hne _
      rw [hsame]
      exact hclosed
  | receive c' chunk => exact (Calm.onReceive o s c' chunk).closed c hclosed
  | hostKeyReply c' reply ephemeralSecret nonce =>
    exact (Shrinks.onHostKeyReply o s c' reply ephemeralSecret nonce).closed c hclosed
  | ticketReply c' reply now nonce =>
    show ((s.onTicketReply c' reply now nonce).conn c).outer.closed = true
    rcases onTicketReply_cases s c' reply now nonce with h | ⟨t, record, control, rfl, h⟩
    · exact h.closed c hclosed
    · rw [onTicketReply_of_accepts h nonce, closed_openPending]
      exact (Shrinks.resume s c').closed c hclosed
  | timer handle => exact (Shrinks.onTimer s handle).closed c hclosed
  | peerClose c' => exact (Shrinks.onPeerClose s c').closed c hclosed
  | drain =>
    show (s.drain.conn c).outer.closed = true
    rcases Quiet.drain s with h | h
    · rw [h]; exact hclosed
    · rw [(h.conn c).closed]; exact hclosed
  | close => exact (Shrinks.close s).closed c hclosed

lemma closed_runFrom (o : CellOptions) (es : List Event) {s : Cell} {c : ConnId}
    (hborn : c < s.accepted) (hclosed : (s.conn c).outer.closed = true) :
    (((cellMachine o).runFrom s es).conn c).outer.closed = true := by
  induction es generalizing s with
  | nil => exact hclosed
  | cons e es ih =>
    have hborn' := Nat.lt_of_lt_of_le hborn (accepted_step o s e)
    exact ih hborn' (closed_step o hborn hclosed e)

end Cell

end Pherry.RelayCore
