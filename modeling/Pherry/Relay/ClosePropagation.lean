import Pherry.Relay.App

/-!
# Close propagation across the relay

The adapter listens to `data` and `drain` and has no `onPeerClose`, so the cell never learns that a
socket closed: what it holds of the connection stays. `closePropagates_iff` is the exact condition
under which a run leaves nothing behind.
-/

namespace Pherry.Relay

open Lib RelayCore TransportNode

variable (o : CellOptions)

/-- In every state of the run, a connection whose socket has closed is in no table of the cell, and
the other end of any bridge it was ever in is closed. -/
structure ClosePropagates (es : List Event) : Prop where
  gone : ∀ pre, pre <+: es → ∀ c, (((appMachine o).run pre).socket c).closed = true →
    ((appMachine o).run pre).cell.Absent c
  peers : ∀ pre, pre <+: es → ∀ b ∈ createdBridges o (cellEvents o pre), ∀ c ∈ b.ends,
    (((appMachine o).run pre).socket c).closed = true →
      (((appMachine o).run pre).cell.conn (b.peer c)).outer.closed = true

/-- An entry of the cell outlives its peer: a socket closes while the cell holds an entry of its
connection, or the cell accepts the ticket of a controller whose socket has closed. -/
def Outlives (a : App) : Event → Prop
  | .socket c .close => a.emits c .close = true ∧ ¬ a.cell.Absent c
  | .ticketReply c (.ok (some record)) now _ =>
    (a.socket c).closed = true ∧ ∃ t control, a.cell.Accepts c t record now control
  | _ => False

variable {o}

lemma not_emits {a : App} {c : ConnId} (h : (a.socket c).closed = true) (e : SocketEvent) :
    a.emits c e = false := by
  rw [App.emits, Socket.emits_of_closed h, Bool.and_false]

lemma cellEvent_ne_receive {a : App} {c : ConnId} (h : (a.socket c).closed = true) (e : Event)
    (chunk : Bytes) : a.cellEvent e ≠ some (.receive c chunk) := by
  intro he
  cases e with
  | socket c' e =>
    by_cases hc : c' = c
    · simp [App.cellEvent, hc, not_emits h] at he
    · simp only [App.cellEvent] at he
      split at he
      · split at he
        · exact hc (by simpa using (RelayCore.Event.receive.inj (Option.some.inj he)).1)
        · cases he
        · cases he
      · cases he
  | connection => simp [App.cellEvent] at he
  | shutdown => simp [App.cellEvent] at he
  | serverClosed => simp [App.cellEvent] at he
  | hostKeyReply _ _ _ _ => simp [App.cellEvent] at he
  | ticketReply _ _ _ _ => simp [App.cellEvent] at he
  | timer _ => simp [App.cellEvent] at he

lemma cellEvent_ticketReply {a : App} {e : Event} {c : ConnId}
    {reply : Except Unit (Option TicketRecord)} {now : ℤ} {nonce : Bytes32}
    (h : a.cellEvent e = some (.ticketReply c reply now nonce)) :
    e = .ticketReply c reply now nonce := by
  cases e with
  | ticketReply _ _ _ _ => simpa [App.cellEvent] using h
  | socket c' e =>
    simp only [App.cellEvent] at h
    split at h
    · split at h <;> cases h
    · cases h
  | connection => simp [App.cellEvent] at h
  | shutdown => simp [App.cellEvent] at h
  | serverClosed => simp [App.cellEvent] at h
  | hostKeyReply _ _ _ _ => simp [App.cellEvent] at h
  | timer _ => simp [App.cellEvent] at h

lemma App.closes_now (a : App) {e : Event} {c : ConnId} (hbefore : ¬ (a.socket c).closed = true)
    (hafter : (a.nextSocket e c).closed = true) : e = .socket c .close ∧ a.emits c .close = true := by
  cases e with
  | socket c' e =>
    rw [App.nextSocket] at hafter
    by_cases hemits : a.emits c' e = true
    · rw [if_pos hemits] at hafter
      by_cases hc : c = c'
      · subst hc
        rw [Function.update_self] at hafter
        obtain rfl := (Socket.closed_after hafter).resolve_left hbefore
        exact ⟨rfl, hemits⟩
      · rw [Function.update_of_ne hc] at hafter
        exact absurd hafter hbefore
    · rw [if_neg hemits] at hafter
      exact absurd hafter hbefore
  | connection => exact absurd hafter hbefore
  | hostKeyReply _ _ _ _ => exact absurd hafter hbefore
  | ticketReply _ _ _ _ => exact absurd hafter hbefore
  | timer _ => exact absurd hafter hbefore
  | shutdown => exact absurd hafter hbefore
  | serverClosed => exact absurd hafter hbefore

/-- A step that lets no entry outlive its peer keeps closed connections out of the tables. -/
lemma App.absent_step {a : App} (hs : Cell.Inv False a.cell) {e : Event} (he : ¬ Outlives a e)
    (hgone : ∀ c, (a.socket c).closed = true → a.cell.Absent c) (c : ConnId)
    (hclosed : ((a.step o e).socket c).closed = true) : (a.step o e).cell.Absent c := by
  by_cases hbefore : (a.socket c).closed = true
  · -- the cell hears no more of the connection, so it enters no table
    have hc := hgone c hbefore
    show ((a.cellEvent e).toList.foldl (Cell.step o) a.cell).Absent c
    cases hcell : a.cellEvent e with
    | none => exact hc
    | some e' =>
      refine hs.absent_step e' hc (fun chunk h => ?_) fun t record now nonce control h ha => ?_
      · exact cellEvent_ne_receive hbefore e chunk (by rw [hcell, h])
      · rw [h] at hcell
        rw [cellEvent_ticketReply hcell] at he
        exact he ⟨hbefore, t, control, ha⟩
  · -- the socket closed just now
    obtain ⟨rfl, hemits⟩ := a.closes_now hbefore hclosed
    have hcell : (a.step o (.socket c .close)).cell = a.cell := by
      show (a.cellEvent (.socket c .close)).toList.foldl (Cell.step o) a.cell = a.cell
      rw [App.cellEvent, hemits]
      rfl
    rw [hcell]
    by_contra habsent
    exact he ⟨hemits, habsent⟩

lemma App.not_absent_of_outlives {a : App} {e : Event} (he : Outlives a e) :
    ∃ c, ((a.step o e).socket c).closed = true ∧ ¬ (a.step o e).cell.Absent c := by
  cases e with
  | socket c e =>
    cases e with
    | close =>
      obtain ⟨hemits, hpresent⟩ := he
      refine ⟨c, ?_, ?_⟩
      · show (a.nextSocket (.socket c .close) c).closed = true
        rw [App.nextSocket, if_pos hemits, Function.update_self]
        rfl
      · have hcell : (a.step o (.socket c .close)).cell = a.cell := by
          show (a.cellEvent (.socket c .close)).toList.foldl (Cell.step o) a.cell = a.cell
          rw [App.cellEvent, hemits]
          rfl
        rw [hcell]
        exact hpresent
    | data _ => exact he.elim
    | ended => exact he.elim
    | error => exact he.elim
    | drain => exact he.elim
  | ticketReply c reply now nonce =>
    cases reply with
    | error _ => exact he.elim
    | ok found =>
      cases found with
      | none => exact he.elim
      | some record =>
        obtain ⟨hclosed, t, control, haccepts⟩ := he
        refine ⟨c, hclosed, fun habsent => ?_⟩
        have hpending : (a.step o (.ticketReply c (.ok (some record)) now nonce)).cell.pending.get t
            = some ⟨t, record.hostId, c, a.cell.nextTimer, nonce⟩ := by
          show (a.cell.onTicketReply c (.ok (some record)) now nonce).pending.get t = _
          rw [Cell.onTicketReply_of_accepts haccepts nonce, Cell.pending_openPending]
          exact InsertionMap.get_set_self _ _ _
        exact habsent.pending t _ hpending rfl
  | connection => exact he.elim
  | hostKeyReply _ _ _ _ => exact he.elim
  | timer _ => exact he.elim
  | shutdown => exact he.elim
  | serverClosed => exact he.elim

/-- **Close propagation.** A run leaves nothing of a closed connection in the cell exactly when no
socket closes while the cell holds an entry of its connection, and no ticket is accepted for a
controller whose socket has closed. -/
theorem closePropagates_iff (es : List Event) :
    ClosePropagates o es ↔ (appMachine o).Meets (fun a e => ¬ Outlives a e) es := by
  constructor
  · rintro ⟨hgone, -⟩ pre e post hes hout
    obtain ⟨c, hclosed, hpresent⟩ := App.not_absent_of_outlives (o := o) hout
    have hprefix : pre ++ [e] <+: es := ⟨post, by rw [hes]; simp⟩
    have habsent := hgone (pre ++ [e]) hprefix c
    rw [Machine.run_snoc] at habsent
    exact hpresent (habsent hclosed)
  · intro hmeets
    have hgone : ∀ pre, pre <+: es → ∀ c, (((appMachine o).run pre).socket c).closed = true →
        ((appMachine o).run pre).cell.Absent c := by
      intro pre hpre
      obtain ⟨post, rfl⟩ := hpre
      have hall := (appMachine o).invariant_of_meets
        (p := fun a => Cell.Inv False a.cell ∧
          ∀ c, (a.socket c).closed = true → a.cell.Absent c)
        ⟨Cell.inv_init False, fun c hclosed => by cases hclosed⟩
        (fun a e he ha => ⟨?_, App.absent_step ha.1 he ha.2⟩) hmeets.prefix
      · exact hall.2
      · show Cell.Inv False ((a.cellEvent e).toList.foldl (Cell.step o) a.cell)
        cases a.cellEvent e with
        | none => exact ha.1
        | some e' => exact ha.1.step e' fun h => h.elim
    refine ⟨hgone, fun pre hpre b hb c hc hclosed => ?_⟩
    -- the bridge cannot be live with a closed connection in it, so it was severed
    have habsent := hgone pre hpre c hclosed
    have hsevered : ((appMachine o).run pre).cell.Severed b := by
      rw [cell_run] at habsent ⊢
      refine (live_or_severed o (cellEvents o pre) b hb).resolve_left fun hlive => ?_
      have hends : c = b.controller ∨ c = b.host := by simpa [Bridge.ends] using hc
      rcases hends with h | h
      · exact (habsent.bridges b hlive).1 h.symm
      · exact (habsent.bridges b hlive).2 h.symm
    rcases Cell.peer_eq b c with h | h
    · rw [h]
      exact hsevered.1
    · rw [h]
      exact hsevered.2

/-- A host registers, a controller's ticket is accepted, the host dials, and the controller's
socket ends and closes. -/
def droppedBridge : List Event :=
  [.connection, .socket 0 (.data (outerFrame Demo.hostHello)),
    .hostKeyReply 0 (.ok (some (List.replicate 32 5))) [7] (Bytes32.repeat 8),
    .socket 0 (.data (outerFrame Demo.hostProof)),
    .connection, .socket 1 (.data (outerFrame Demo.controllerAuth)),
    .ticketReply 1 (.ok (some ⟨js "h", 10⟩)) 0 (Bytes32.repeat 6),
    .connection, .socket 2 (.data (outerFrame Demo.hostAuth)),
    .socket 1 .ended, .socket 1 .close]

/-- The bridge of the controller that left is still live. -/
theorem not_closePropagates_droppedBridge : ¬ ClosePropagates Demo.options droppedBridge := by
  intro h
  obtain ⟨b, hb, hclosed⟩ : ∃ b ∈ ((appMachine Demo.options).run droppedBridge).cell.bridges,
      (((appMachine Demo.options).run droppedBridge).socket b.controller).closed = true := by
    decide +kernel
  have habsent := h.gone droppedBridge (List.prefix_refl _) b.controller hclosed
  exact (habsent.bridges b hb).1 rfl

end Pherry.Relay
