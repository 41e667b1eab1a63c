import Pherry.RelayCore.CellSplice

/-!
# Splice safety over whole runs

The histories of a run: the bridges it created and the pending bridges it opened. `SpliceSafe`
is what they satisfy whatever the events and their order.
-/

namespace Pherry.RelayCore

open Lib

variable (o : CellOptions)

/-- The bridges a run created, oldest first. -/
def createdBridges (es : List Event) : List Bridge :=
  (cellMachine o).outputs (Cell.newBridges o) es

/-- The pending bridges a run opened, oldest first. -/
def openedPending (es : List Event) : List PendingBridge :=
  (cellMachine o).outputs (Cell.newPending o) es

/-- Both ends of a bridge. -/
def Bridge.ends (b : Bridge) : List ConnId := [b.controller, b.host]

/-- The ticket of `p` was looked up for its controller, and when the lookup returned, the ticket
routed to the host of `p` and had not expired. -/
def Resolved (es : List Event) (p : PendingBridge) : Prop :=
  ∃ before after record now,
    es = before ++ .ticketReply p.controller (.ok (some record)) now p.nonce :: after ∧
      (((cellMachine o).run before).conn p.controller).awaiting = some (.resolveTicket p.ticket) ∧
        record.hostId = p.hostId ∧ now < record.expiresAt

namespace Cell

variable {o}

/-! ## Connections that are spent -/

/-- A connection that was, or can only have been, an end of a bridge: it will not be one again. -/
def Committed (s : Cell) (c : ConnId) : Prop :=
  (s.conn c).role = .hostData ∨
    ((s.conn c).role = .controllerData ∧ (s.conn c).ticket.isSome = true ∧
      ∀ t p, s.pending.get t = some p → p.controller ≠ c)

lemma Inv.born {s : Cell} (hs : Inv False s) {c : ConnId}
    (h : (s.conn c).role ≠ .unclassified) : c < s.accepted := by
  by_contra hc
  exact h (hs.unborn c (Nat.le_of_not_lt hc))

lemma Inv.pending_step {s : Cell} (hs : Inv False s) (e : Event) {t : Ticket} {p : PendingBridge}
    (hp : (s.step o e).pending.get t = some p) :
    s.pending.get t = some p ∨ ∃ record now control,
      e = .ticketReply p.controller (.ok (some record)) now p.nonce ∧
        s.Accepts p.controller t record now control ∧ record.hostId = p.hostId := by
  rcases hs.newPending_cases (o := o) e with ⟨-, h⟩ | ⟨c, u, record, now, nonce, control, rfl, h, -⟩
  · exact .inl (h.pending t p hp)
  · have hpending : (s.step o (.ticketReply c (.ok (some record)) now nonce)).pending
        = s.pending.set u ⟨u, record.hostId, c, s.nextTimer, nonce⟩ :=
      congrArg Cell.pending (onTicketReply_of_accepts h nonce)
    rw [hpending, InsertionMap.get_set] at hp
    by_cases ht : t = u
    · rw [if_pos ht] at hp
      obtain rfl := Option.some.inj hp
      exact .inr ⟨record, now, control, rfl, ht ▸ h, rfl⟩
    · rw [if_neg ht] at hp
      exact .inl hp

lemma Inv.committed_step {s : Cell} (hs : Inv False s) (e : Event) {c : ConnId}
    (hc : s.Committed c) : (s.step o e).Committed c := by
  have hborn : c < s.accepted := by
    apply hs.born
    rcases hc with h | h
    · rw [h]; decide
    · rw [h.1]; decide
  have hages := hs.ages_step (o := o) e hborn
  rcases hc with hrole | ⟨hrole, hticket, hidle⟩
  · exact .inl (hages.host hrole)
  · refine .inr ⟨hages.controller hrole, ?_, fun t p hp he => ?_⟩
    · rw [hages.ticket hrole hticket]
      exact hticket
    · rcases hs.pending_step e hp with hold | ⟨record, now, control, rfl, h, -⟩
      · exact hidle t p hold he
      · have hnone := ((hs.tidy p.controller).awaitingTicket t h.awaiting).2.1
        rw [he, Option.isSome_iff_exists.1 hticket |>.choose_spec] at hnone
        cases hnone

lemma Inv.not_committed {s : Cell} (hs : Inv False s) {c : ConnId} {l : List OuterMessage}
    {b : Bridge} {p : PendingBridge} {control : ConnId} {dataKey : Bytes} {mac : Bytes32}
    (h : Dialed o s c l b p control dataKey mac) : ∀ x ∈ b.ends, ¬ s.Committed x := by
  intro x hx hcommitted
  have hends : x = b.controller ∨ x = b.host := by simpa [Bridge.ends] using hx
  rcases hends with rfl | rfl
  · rcases hcommitted with hrole | ⟨-, -, hidle⟩
    · have hwaiting := (hs.pending _ p h.pending).2.1.role
      rw [← h.controller, hrole] at hwaiting
      cases hwaiting
    · exact hidle b.ticket p h.pending h.controller.symm
  · rw [h.host] at hcommitted
    rcases hcommitted with hrole | ⟨hrole, -, -⟩ <;>
    · rw [h.unclassified] at hrole
      cases hrole

lemma Inv.committed_of_dialed {s : Cell} (hs : Inv False s) {e : Event} {c : ConnId}
    {l : List OuterMessage} {b : Bridge} {p : PendingBridge} {control : ConnId} {dataKey : Bytes}
    {mac : Bytes32} (h : Dialed o s c l b p control dataKey mac)
    (hb : b ∈ (s.step o e).bridges) : ∀ x ∈ b.ends, (s.step o e).Committed x := by
  have hinv := hs.step (o := o) e fun h => h.elim
  intro x hx
  have hends : x = b.controller ∨ x = b.host := by simpa [Bridge.ends] using hx
  rcases hends with rfl | rfl
  · have hwaiting := (hs.pending _ p h.pending).2.1
    rw [← h.controller] at hwaiting
    have hborn : b.controller < s.accepted := by
      apply hs.born
      rw [hwaiting.role]
      decide
    have hticket := (hs.ages_step (o := o) e hborn).ticket hwaiting.role (by rw [hwaiting.ticket]; rfl)
    refine .inr ⟨(hinv.controllers b hb).1, by rw [hticket, hwaiting.ticket]; rfl, ?_⟩
    intro t p' hp' he
    have hnone := (hinv.pending t p' hp').2.1.bridge
    rw [he, (hinv.controllers b hb).2.1] at hnone
    cases hnone
  · exact .inl (hinv.dialed b hb).1

/-! ## A chunk that creates no bridge -/

/-- The pending bridges and the timers are what they were. -/
structure PendingSame (s s' : Cell) : Prop where
  pending : s'.pending = s.pending
  timers : s'.timers = s.timers

lemma PendingSame.trans {s s' s'' : Cell} (h : PendingSame s s') (h' : PendingSame s' s'') :
    PendingSame s s'' :=
  ⟨h'.pending.trans h.pending, h'.timers.trans h.timers⟩

lemma SameTables.pendingSame {s s' : Cell} (h : SameTables s s') : PendingSame s s' :=
  ⟨h.pending, h.timers⟩

/-- No pending bridge waits for the connection. -/
def Idle (s : Cell) (c : ConnId) : Prop := ∀ t p, s.pending.get t = some p → p.controller ≠ c

lemma Idle.same {s s' : Cell} (h : PendingSame s s') {c : ConnId} (hc : s.Idle c) :
    s'.Idle c := by
  intro t p hp
  rw [h.pending] at hp
  exact hc t p hp

lemma pendingSame_cleanupHost (s : Cell) (c : ConnId) : PendingSame s (s.cleanupHost c) := by
  unfold cleanupHost
  split
  · exact ⟨rfl, rfl⟩
  · split <;> exact ⟨rfl, rfl⟩

lemma pendingSame_cleanupBridge (s : Cell) (c : ConnId) : PendingSame s (s.cleanupBridge c) := by
  unfold cleanupBridge
  split
  · exact ⟨rfl, rfl⟩
  · split <;> exact ⟨rfl, rfl⟩

lemma Idle.detach {s : Cell} {c : ConnId} (hc : s.Idle c) : PendingSame s (s.detach c) := by
  have hhost := pendingSame_cleanupHost s c
  have hpending : (s.cleanupHost c).cleanupPending c = s.cleanupHost c :=
    cleanupPending_of_idle (hc.same hhost)
  have hbridge := pendingSame_cleanupBridge ((s.cleanupHost c).cleanupPending c) c
  rw [hpending] at hbridge
  have hclean : PendingSame s (s.cleanup c) := by
    rw [cleanup, hpending]
    exact ⟨(hhost.trans hbridge).pending, (hhost.trans hbridge).timers⟩
  exact ⟨hclean.pending, hclean.timers⟩

lemma Idle.refuse {s : Cell} {c : ConnId} (hc : s.Idle c) (code : RelayCloseCode) :
    PendingSame s (s.refuse c code) := by
  have hsend := (SameTables.send s c (.close code none)).pendingSame
  exact hsend.trans (hc.same hsend).detach

/-- A message of an idle connection leaves the pending bridges and their timers, or it splices. -/
lemma Idle.dispatch {s : Cell} {c : ConnId} (hc : s.Idle c) (m : OuterMessage) :
    PendingSame s (settled (s.dispatch o c m)) ∨
      ((s.conn c).role = .unclassified ∧ ∃ s', s.dispatch o c m = .ok s' ∧
        (s'.conn c).outer.raw = true ∧ ∃ b ∈ s'.bridges, b.host = c) := by
  have hset : ∀ f : Conn → Conn, PendingSame s (s.modify c f) := fun f =>
    (SameTables.modify s c f).pendingSame
  have hthen : ∀ f : Conn → Conn, ∀ code, PendingSame s ((s.modify c f).refuse c code) :=
    fun f code => (hset f).trans ((hc.same (hset f)).refuse code)
  unfold Cell.dispatch
  split
  · next hrole =>
    show PendingSame s (s.classify o c m) ∨ _
    cases m with
    | dataAuth role t mac =>
      cases role with
      | controller =>
        left
        rw [classify_controller]
        unfold Cell.beginControllerBridge
        split
        · exact hthen _ _
        · exact (hset _).trans (SameTables.modify _ c _).pendingSame
      | host =>
        rw [classify_dial]
        rcases completeHostDial_cases (o := o) (s.modify c fun k => { k with role := .hostData })
          c t mac with ⟨code, h⟩ | ⟨p, -, -, h⟩
        · rw [h]
          exact .inl (hthen _ code)
        · rw [h]
          refine .inr ⟨hrole, _, rfl, raw_pipe _ ⟨t, p.controller, c⟩, ⟨t, p.controller, c⟩, ?_, rfl⟩
          rw [bridges_splice]
          exact List.mem_append_right _ (List.mem_singleton.2 rfl)
    | hostHello h => exact .inl ⟨rfl, rfl⟩
    | hostChallenge _ _ _ => exact .inl (hc.refuse _)
    | hostProof _ => exact .inl (hc.refuse _)
    | hostRegistered _ => exact .inl (hc.refuse _)
    | connOpen _ _ => exact .inl (hc.refuse _)
    | dataReady => exact .inl (hc.refuse _)
    | drain => exact .inl (hc.refuse _)
    | close _ _ => exact .inl (hc.refuse _)
  · left
    have hregister : ∀ h dataKey, PendingSame s ((s.dropChallenge c).register c h dataKey) := by
      intro h dataKey
      have htables := tables_supersede (s.dropChallenge c) c h
      exact ⟨htables.pending, htables.timers⟩
    unfold Cell.onProof
    split
    · split
      · simp only
        split
        · exact hthen _ _
        · next dataKey _ =>
          split
          · exact (hregister _ dataKey).trans (SameTables.send _ c _).pendingSame
          · exact hregister _ dataKey
      · exact hc.refuse _
    · exact hthen _ _
  · left
    split
    · exact hc.detach
    · exact hc.refuse _
  · exact .inl (hc.refuse _)
  · exact .inl (hc.refuse _)

variable (o) in
lemma Idle.receiveLoop (fuel : ℕ) {s : Cell} {c : ConnId} (hc : s.Idle c) :
    PendingSame s (receiveLoop o fuel s c) ∨
      ((s.conn c).role = .unclassified ∧ ∃ b ∈ (receiveLoop o fuel s c).bridges, b.host = c) := by
  induction fuel generalizing s with
  | zero => exact .inl ⟨rfl, rfl⟩
  | succ fuel ih =>
    rcases receiveLoop_succ o fuel s c with h | ⟨s₁, hs₁, h⟩ |
      ⟨payload, reader, m, -, -, -, hd⟩
    · rw [h]
      exact .inl ⟨rfl, rfl⟩
    · left
      rw [h]
      rcases hs₁ with rfl | ⟨reader, rfl⟩
      · exact hc.refuse _
      · have hset := (Quiet.setReader s c reader).tables.pendingSame
        exact hset.trans ((hc.same hset).refuse _)
    · have hquiet := Quiet.setReader s c reader
      have hset := hquiet.tables.pendingSame
      have hrole : ((s.setReader c reader).conn c).role = (s.conn c).role := (hquiet.conn c).role
      rcases (hc.same hset).dispatch (o := o) m with hsame | ⟨hu, s', hok, hraw, b, hb, hbc⟩
      · rcases hd with ⟨s', hd, h⟩ | ⟨s', hd, h⟩
        · left
          rw [h]
          rw [hd] at hsame
          have hafter := hset.trans hsame
          exact hafter.trans ((hc.same hafter).refuse _)
        · rw [h]
          rw [hd] at hsame
          have hafter := hset.trans hsame
          rcases ih (hc.same hafter) with hrest | ⟨hu, hb⟩
          · exact .inl (hafter.trans hrest)
          · right
            refine ⟨?_, hb⟩
            by_contra hne
            have hages := (Calm.dispatch o (s.setReader c reader) c m).ages c
            rw [hd] at hages
            exact hages.classified (by rw [hrole]; exact hne) hu
      · right
        refine ⟨hrole.symm.trans hu, b, ?_, hbc⟩
        rcases hd with ⟨s'', hd, h⟩ | ⟨s'', hd, h⟩
        · rw [hok] at hd
          cases hd
        · rw [hok] at hd
          obtain rfl := Except.ok.inj hd
          rw [h]
          -- the splice switched the connection to raw, which ends the loop
          cases fuel with
          | zero => exact hb
          | succ fuel =>
            rw [Cell.receiveLoop, if_pos hraw]
            exact hb

lemma Idle.deliverRaw {s : Cell} {c : ConnId} (hc : s.Idle c) (bytes : Bytes) :
    PendingSame s (s.deliverRaw c bytes) := by
  unfold Cell.deliverRaw
  split
  · exact (Quiet.forward s _ bytes).tables.pendingSame
  · split
    · have hset : PendingSame s (s.modify c fun k =>
          { k with outer := { k.outer with rawBuffer := [], rawBufferBytes := 0 } }) := ⟨rfl, rfl⟩
      have hfail := hset.trans ((hc.same hset).refuse .protocolError)
      exact ⟨hfail.pending, hfail.timers⟩
    · exact ⟨rfl, rfl⟩

/-- A chunk of a connection that is no waiting controller, if it creates no bridge, leaves every
pending bridge and every timer as it was. -/
lemma Inv.pendingSame_receive {s : Cell} (hs : Inv False s) {c : ConnId}
    (hrole : (s.conn c).role ≠ .controllerData) {chunk : Bytes}
    (hnone : s.newBridges o (.receive c chunk) = []) :
    PendingSame s (s.step o (.receive c chunk)) := by
  have hidle : s.Idle c := by
    rintro t p hp rfl
    exact hrole (hs.pending t p hp).2.1.role
  have hnew : ∀ b ∈ (s.step o (.receive c chunk)).bridges, b ∈ s.bridges := by
    intro b hb
    by_contra hold
    have hmem : b ∈ s.newBridges o (.receive c chunk) := mem_newBridges.2 ⟨hb, hold⟩
    rw [hnone] at hmem
    cases hmem
  change ∀ b ∈ (s.onReceive o c chunk).bridges, b ∈ s.bridges at hnew
  show PendingSame s (s.onReceive o c chunk)
  unfold Cell.onReceive at hnew ⊢
  split
  · next hborn =>
    rw [if_pos hborn] at hnew
    unfold Cell.receive at hnew ⊢
    split
    · exact ⟨rfl, rfl⟩
    · next hopen =>
      rw [if_neg hopen] at hnew
      split
      · exact hidle.deliverRaw chunk
      · next hframed =>
        rw [if_neg hframed] at hnew
        have hquiet := Quiet.buffer s c chunk
        have hset := hquiet.tables.pendingSame
        rcases (hidle.same hset).receiveLoop o
          (((s.buffer c chunk).conn c).outer.reader.length + 1) with hrest | ⟨hu, b, hb, hbc⟩
        · exact hset.trans hrest
        · -- an unclassified connection is an end of no bridge
          rw [(hquiet.conn c).role] at hu
          exact absurd hbc ((hs.absent_of_unclassified hu).bridges b (hnew b hb)).2
  · exact ⟨rfl, rfl⟩

end Cell

/-! ## The histories of a run -/

lemma createdBridges_snoc (es : List Event) (e : Event) : createdBridges o (es ++ [e])
    = createdBridges o es ++ ((cellMachine o).run es).newBridges o e :=
  (cellMachine o).outputs_snoc _ es e

lemma openedPending_snoc (es : List Event) (e : Event) : openedPending o (es ++ [e])
    = openedPending o es ++ ((cellMachine o).run es).newPending o e :=
  (cellMachine o).outputs_snoc _ es e

/-- The ends of the bridges created so far are different connections, all of them committed. -/
lemma nodup_createdBridges (es : List Event) :
    ((createdBridges o es).flatMap Bridge.ends).Nodup ∧
      ∀ c ∈ (createdBridges o es).flatMap Bridge.ends, ((cellMachine o).run es).Committed c := by
  refine (cellMachine o).history_invariant
    (p := fun es s => ((createdBridges o es).flatMap Bridge.ends).Nodup ∧
      ∀ c ∈ (createdBridges o es).flatMap Bridge.ends, s.Committed c)
    ⟨List.nodup_nil, fun c hc => by cases hc⟩ (fun es e ih => ?_) es
  obtain ⟨hnodup, hcommitted⟩ := ih
  have hs := inv_run o es
  have hinv : Cell.Inv False (((cellMachine o).run es).step o e) := hs.step e fun h => h.elim
  rw [createdBridges_snoc, List.flatMap_append]
  rcases hs.newBridges_cases (o := o) e with hnil | ⟨b, chunk, p, control, dataKey, mac, hone, rfl, -, hdial⟩
  · rw [hnil, List.flatMap_nil, List.append_nil]
    exact ⟨hnodup, fun c hc => hs.committed_step e (hcommitted c hc)⟩
  · have hb : b ∈ (((cellMachine o).run es).step o (.receive b.host chunk)).bridges :=
      (Cell.mem_newBridges.1 (by rw [hone]; exact List.mem_cons_self)).1
    rw [hone, List.flatMap_singleton]
    constructor
    · rw [List.nodup_append]
      refine ⟨hnodup, ?_, ?_⟩
      · have hne := hinv.controller_ne_host hb
        simp [Bridge.ends, hne]
      · rintro c hc _ hc' rfl
        exact hs.not_committed hdial c hc' (hcommitted c hc)
    · intro c hc
      rcases List.mem_append.1 hc with hold | hnew
      · exact hs.committed_step _ (hcommitted c hold)
      · exact hs.committed_of_dialed hdial hb c hnew

lemma nodup_openedPending (es : List Event) :
    ((openedPending o es).map PendingBridge.controller).Nodup ∧
      ∀ c ∈ (openedPending o es).map PendingBridge.controller,
        (((cellMachine o).run es).conn c).role = .controllerData ∧
          (((cellMachine o).run es).conn c).ticket.isSome = true := by
  refine (cellMachine o).history_invariant
    (p := fun es s => ((openedPending o es).map PendingBridge.controller).Nodup ∧
      ∀ c ∈ (openedPending o es).map PendingBridge.controller,
        (s.conn c).role = .controllerData ∧ (s.conn c).ticket.isSome = true)
    ⟨List.nodup_nil, fun c hc => by cases hc⟩ (fun es e ih => ?_) es
  obtain ⟨hnodup, hticketed⟩ := ih
  have hs := inv_run o es
  have hinv : Cell.Inv False (((cellMachine o).run es).step o e) := hs.step e fun h => h.elim
  have hold : ∀ c ∈ (openedPending o es).map PendingBridge.controller,
      ((((cellMachine o).run es).step o e).conn c).role = .controllerData ∧
        ((((cellMachine o).run es).step o e).conn c).ticket.isSome = true := by
    intro c hc
    obtain ⟨hrole, hticket⟩ := hticketed c hc
    have hborn : c < ((cellMachine o).run es).accepted := by
      apply hs.born
      rw [hrole]
      decide
    have hages := hs.ages_step (o := o) e hborn
    exact ⟨hages.controller hrole, by rw [hages.ticket hrole hticket]; exact hticket⟩
  rw [openedPending_snoc, List.map_append]
  rcases hs.newPending_cases (o := o) e with ⟨hnil, -⟩ | ⟨c, t, record, now, nonce, control, rfl, h, hone⟩
  · rw [hnil, List.map_nil, List.append_nil]
    exact ⟨hnodup, hold⟩
  · rw [hone, List.map_singleton]
    constructor
    · rw [List.nodup_append]
      refine ⟨hnodup, by simp, ?_⟩
      rintro c' hc' _ hc'' rfl
      obtain rfl := List.mem_singleton.1 hc''
      have hsome := (hticketed _ hc').2
      rw [((hs.tidy _).awaitingTicket t h.awaiting).2.1] at hsome
      cases hsome
    · intro c' hc'
      rcases List.mem_append.1 hc' with hmem | hmem
      · exact hold c' hmem
      · rw [List.mem_singleton.1 hmem]
        have hget : (((cellMachine o).run es).step o
            (.ticketReply c (.ok (some record)) now nonce)).pending.get t
              = some ⟨t, record.hostId, c, ((cellMachine o).run es).nextTimer, nonce⟩ := by
          rw [show ((cellMachine o).run es).step o (.ticketReply c (.ok (some record)) now nonce)
            = _ from Cell.onTicketReply_of_accepts h nonce, Cell.pending_openPending]
          exact InsertionMap.get_set_self _ _ _
        have hwaiting := (hinv.pending t _ hget).2.1
        exact ⟨hwaiting.role, Option.isSome_of_eq_some hwaiting.ticket⟩

lemma fresh_openedPending (es : List Event) :
    Fresh maxUsedTickets ((openedPending o es).map PendingBridge.ticket) ∧
      ((cellMachine o).run es).usedTickets
        = ((openedPending o es).map PendingBridge.ticket).rtake maxUsedTickets := by
  refine (cellMachine o).history_invariant
    (p := fun es s => Fresh maxUsedTickets ((openedPending o es).map PendingBridge.ticket) ∧
      s.usedTickets = ((openedPending o es).map PendingBridge.ticket).rtake maxUsedTickets)
    ⟨fresh_nil _, (List.rtake_nil _).symm⟩ (fun es e ih => ?_) es
  obtain ⟨hfresh, hused⟩ := ih
  rw [openedPending_snoc, List.map_append]
  rcases (inv_run o es).newPending_cases (o := o) e with
    ⟨hnil, hsame⟩ | ⟨c, t, record, now, nonce, control, rfl, h, hone⟩
  · rw [hnil, List.map_nil, List.append_nil]
    exact ⟨hfresh, hsame.usedTickets.trans hused⟩
  · rw [hone, List.map_singleton]
    have hunused := h.unused
    have hstep : (((cellMachine o).run es).step o
        (.ticketReply c (.ok (some record)) now nonce)).usedTickets
          = Cell.rememberTicket ((cellMachine o).run es).usedTickets t :=
      congrArg Cell.usedTickets (Cell.onTicketReply_of_accepts h nonce)
    constructor
    · rw [hused] at hunused
      exact hfresh.snoc hunused
    · show (((cellMachine o).run es).step o _).usedTickets = _
      rw [hstep, Cell.rememberTicket, if_neg hunused, hused, ← rtake_eq_drop]
      exact rtake_rtake_snoc _ t _

lemma resolved_of_pending (es : List Event) {t : Ticket} {p : PendingBridge}
    (hp : ((cellMachine o).run es).pending.get t = some p) : Resolved o es p := by
  refine (cellMachine o).history_invariant
    (p := fun es s => ∀ t p, s.pending.get t = some p → Resolved o es p)
    (fun t p h => by cases h) (fun es e ih t p hget => ?_) es t p hp
  have hs := inv_run o es
  have hticket : p.ticket = t :=
    ((hs.step (o := o) e fun h => h.elim).pending t p hget).1
  rcases hs.pending_step e hget with hold | ⟨record, now, control, rfl, h, hhost⟩
  · obtain ⟨before, after, record, now, hes, hrest⟩ := ih t p hold
    exact ⟨before, after ++ [e], record, now, by rw [hes]; simp, hrest⟩
  · exact ⟨es, [], record, now, rfl, by rw [hticket]; exact h.awaiting, hhost, h.unexpired⟩

/-! ## The theorem -/

/-- What a cell promises about the bridges of a run. -/
structure SpliceSafe (es : List Event) : Prop where
  /-- Every bridge is created by a chunk on its host end: that chunk holds the dial whose MAC
  verifies, under the key of the connection now registered for the pending bridge's host, over the
  pending bridge's nonce and ticket; the controller of that pending bridge is the other end, and
  its ticket was resolved to that host; and the pending bridge is gone afterwards. -/
  joins : ∀ pre e post, es = pre ++ e :: post →
    ∀ b ∈ ((cellMachine o).run pre).newBridges o e, ∃ chunk p control dataKey mac,
      e = .receive b.host chunk ∧
      Cell.Dialed o ((cellMachine o).run pre) b.host
        (((cellMachine o).run pre).chunkMessages o b.host chunk) b p control dataKey mac ∧
      Resolved o pre p ∧ p.ticket = b.ticket ∧
      (((cellMachine o).run pre).step o e).pending.get b.ticket = none
  /-- No connection is ever an end of two bridges, or both ends of one. -/
  exclusive : ((createdBridges o es).flatMap Bridge.ends).Nodup
  /-- No connection ever waits in two pending bridges. -/
  waitsOnce : ((openedPending o es).map PendingBridge.controller).Nodup
  /-- A ticket is accepted again only after `MAX_USED_TICKETS` others. -/
  singleUse : ∀ xs t ys zs,
    (openedPending o es).map PendingBridge.ticket = xs ++ t :: ys ++ t :: zs →
      maxUsedTickets ≤ ((ys.filter (· ≠ t)).dedup).length
  /-- A chunk of a connection other than a controller's that creates no bridge, such as one with a
  dial that is refused, leaves every pending bridge and every timer as it was. -/
  refused : ∀ pre c chunk post, es = pre ++ .receive c chunk :: post →
    (((cellMachine o).run pre).conn c).role ≠ .controllerData →
      ((cellMachine o).run pre).newBridges o (.receive c chunk) = [] →
        Cell.PendingSame ((cellMachine o).run pre)
          (((cellMachine o).run pre).step o (.receive c chunk))

/-- **Splice safety.** Every run of a cell is splice safe. -/
theorem spliceSafe (es : List Event) : SpliceSafe o es where
  joins := by
    intro pre e post _ b hb
    have hs := inv_run o pre
    rcases hs.newBridges_cases (o := o) e with
      hnil | ⟨b', chunk, p, control, dataKey, mac, hone, he, hgone, hdial⟩
    · rw [hnil] at hb
      cases hb
    · rw [hone] at hb
      obtain rfl := List.mem_singleton.1 hb
      exact ⟨chunk, p, control, dataKey, mac, he, hdial, resolved_of_pending o pre hdial.pending,
        (hs.pending _ p hdial.pending).1, hgone⟩
  exclusive := (nodup_createdBridges o es).1
  waitsOnce := (nodup_openedPending o es).1
  singleUse := by
    intro xs t ys zs h
    have hfresh := (fresh_openedPending o es).1
    rw [h] at hfresh
    exact hfresh.le_length_between
  refused := by
    intro pre c chunk post _ hrole hnone
    exact (inv_run o pre).pendingSame_receive hrole hnone

end Pherry.RelayCore
