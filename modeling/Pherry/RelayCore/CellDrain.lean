import Pherry.RelayCore.CellConsistent

/-!
# Draining

`drain()` is checked before a ticket is looked up and not behind the lookup, so a reply that was in
flight when it was called still lets its controller wait. The barrier holds in exactly the runs in
which no such reply is accepted.
-/

namespace Pherry.RelayCore

open Lib

namespace Cell

/-- No controller became pending, and no `conn-open` was written. -/
structure NoNewWork (s s' : Cell) : Prop where
  pending : ∀ t p, s'.pending.get t = some p → s.pending.get t = some p
  signals : ∀ c, (s'.signals c).length ≤ (s.signals c).length

/-- The tables and the connections are what they were. -/
structure Undisturbed (s s' : Cell) : Prop where
  hosts : s'.hosts = s.hosts
  pending : s'.pending = s.pending
  timers : s'.timers = s.timers
  bridges : s'.bridges = s.bridges
  conn : ∀ c, (s.conn c).Same (s'.conn c)

/-- The event is the reply to a ticket lookup, and the draining cell accepts the ticket. -/
def AcceptsWhileDraining (s : Cell) (e : Event) : Prop :=
  s.draining = true ∧ ∃ c t record now nonce control,
    e = .ticketReply c (.ok (some record)) now nonce ∧ s.Accepts c t record now control

lemma AddsNothing.noNewWork {s s' : Cell} (h : AddsNothing s s') : NoNewWork s s' :=
  ⟨h.pending, h.signals⟩

lemma drain_undisturbed (s : Cell) : Undisturbed s s.drain := by
  rcases Quiet.drain s with h | h
  · rw [h]
    exact ⟨rfl, rfl, rfl, rfl, fun c => .refl _⟩
  · exact ⟨h.tables.hosts, h.tables.pending, h.tables.timers, h.tables.bridges, h.conn⟩

lemma newWork_of_accepts (o : CellOptions) {s : Cell} (hs : Inv False s) {c : ConnId} {t : Ticket}
    {record : TicketRecord} {now : ℤ} {control : ConnId} (h : s.Accepts c t record now control)
    (nonce : Bytes32) : ¬ NoNewWork s (s.step o (.ticketReply c (.ok (some record)) now nonce)) := by
  intro hnone
  have hstep : s.step o (.ticketReply c (.ok (some record)) now nonce)
      = (s.resume c).openPending c control t record.hostId nonce := onTicketReply_of_accepts h nonce
  rw [hstep] at hnone
  have hget : ((s.resume c).openPending c control t record.hostId nonce).pending.get t
      = some ⟨t, record.hostId, c, s.nextTimer, nonce⟩ := InsertionMap.get_set_self _ _ _
  -- the controller that now waits was in no table before
  have hold := hnone.pending t _ hget
  exact (hs.absent_of_awaitingTicket h.awaiting).pending t _ hold rfl

/-! ## The two flags -/

lemma draining_step (o : CellOptions) (s : Cell) (e : Event) :
    (s.step o e).draining = s.draining ∨ e = .drain ∧ (s.step o e).draining = true := by
  cases e with
  | accept monitored =>
    left
    show (s.accept monitored).draining = s.draining
    unfold accept
    split <;> rfl
  | receive c chunk => exact .inl (Calm.onReceive o s c chunk).draining
  | hostKeyReply c reply ephemeralSecret nonce =>
    exact .inl (Shrinks.onHostKeyReply o s c reply ephemeralSecret nonce).draining
  | ticketReply c reply now nonce =>
    left
    show (s.onTicketReply c reply now nonce).draining = s.draining
    rcases onTicketReply_cases s c reply now nonce with h | ⟨t, record, control, rfl, h⟩
    · exact h.draining
    · rw [onTicketReply_of_accepts h nonce]
      rfl
  | timer handle => exact .inl (Shrinks.onTimer s handle).draining
  | peerClose c => exact .inl (Shrinks.onPeerClose s c).draining
  | drain =>
    rcases Quiet.drain s with h | h
    · exact .inl (congrArg Cell.draining h)
    · exact .inr ⟨rfl, h.tables.draining⟩
  | close => exact .inl (Shrinks.close s).draining

lemma halted_step (o : CellOptions) (s : Cell) (e : Event) (hs : s.closed = true) :
    (s.step o e).closed = true := by
  cases e with
  | accept monitored =>
    show (s.accept monitored).closed = true
    unfold accept
    rw [if_pos hs]
    exact hs
  | receive c chunk => exact (Calm.onReceive o s c chunk).halted hs
  | hostKeyReply c reply ephemeralSecret nonce =>
    exact (Shrinks.onHostKeyReply o s c reply ephemeralSecret nonce).halted hs
  | ticketReply c reply now nonce =>
    show (s.onTicketReply c reply now nonce).closed = true
    rcases onTicketReply_cases s c reply now nonce with h | ⟨t, record, control, rfl, h⟩
    · exact h.halted hs
    · rw [h.running] at hs
      cases hs
  | timer handle => exact (Shrinks.onTimer s handle).halted hs
  | peerClose c => exact (Shrinks.onPeerClose s c).halted hs
  | drain =>
    show s.drain.closed = true
    rcases Quiet.drain s with h | h
    · rw [h]; exact hs
    · exact h.tables.closed.trans hs
  | close => exact (Shrinks.close s).halted hs

end Cell

lemma draining_or_closed (o : CellOptions) (es : List Event) (h : Event.drain ∈ es) :
    ((cellMachine o).run es).draining = true ∨ ((cellMachine o).run es).closed = true := by
  refine (cellMachine o).history_invariant (p := fun es s => Event.drain ∈ es →
    s.draining = true ∨ s.closed = true) (fun h => by cases h) (fun es e ih hmem => ?_) es h
  have hkeep : ((cellMachine o).run es).draining = true ∨ ((cellMachine o).run es).closed = true →
      (((cellMachine o).run es).step o e).draining = true ∨
        (((cellMachine o).run es).step o e).closed = true := by
    rintro (hdraining | hclosed)
    · rcases Cell.draining_step o ((cellMachine o).run es) e with hsame | ⟨-, hset⟩
      · exact .inl (hsame.trans hdraining)
      · exact .inl hset
    · exact .inr (Cell.halted_step o _ e hclosed)
  rcases List.mem_append.1 hmem with hold | hnew
  · exact hkeep (ih hold)
  · obtain rfl : e = .drain := (List.mem_singleton.1 hnew).symm
    by_cases hflag : ((cellMachine o).run es).closed || ((cellMachine o).run es).draining
    · rw [Bool.or_eq_true] at hflag
      exact hkeep hflag.symm
    · left
      show ((cellMachine o).run es).drain.draining = true
      unfold Cell.drain
      rw [if_neg hflag]
      exact (Cell.Quiet.foldl (fun s c => Cell.Quiet.send s c rfl) _ _).tables.draining

lemma drain_mem_of_draining (o : CellOptions) (es : List Event)
    (h : ((cellMachine o).run es).draining = true) : Event.drain ∈ es := by
  refine (cellMachine o).history_invariant (p := fun es s => s.draining = true → Event.drain ∈ es)
    (fun h => by cases h) (fun es e ih hflag => ?_) es h
  rcases Cell.draining_step o ((cellMachine o).run es) e with hsame | ⟨rfl, -⟩
  · exact List.mem_append_left _ (ih (hsame.symm.trans hflag))
  · exact List.mem_append_right _ (List.mem_singleton.2 rfl)

/-- The barrier: from `drain()` on no step of the run adds work, and the call itself disturbs
nothing. -/
structure DrainBarrier (o : CellOptions) (es : List Event) : Prop where
  noNewWork : ∀ pre e post, es = pre ++ e :: post → Event.drain ∈ pre →
    Cell.NoNewWork ((cellMachine o).run pre) ((cellMachine o).run (pre ++ [e]))
  undisturbed : ∀ pre post, es = pre ++ .drain :: post →
    Cell.Undisturbed ((cellMachine o).run pre) ((cellMachine o).run (pre ++ [.drain]))

/-- **Drain is a barrier exactly when no ticket is accepted by the draining cell.** -/
theorem drainBarrier_iff (o : CellOptions) (es : List Event) :
    DrainBarrier o es ↔
      (cellMachine o).Meets (fun s e => ¬ s.AcceptsWhileDraining e) es := by
  constructor
  · intro h pre e post hes
    rintro ⟨hflag, c, t, record, now, nonce, control, rfl, haccepts⟩
    have hnone := h.noNewWork pre _ post hes (drain_mem_of_draining o pre hflag)
    rw [Machine.run_snoc] at hnone
    exact Cell.newWork_of_accepts o (inv_run o pre) haccepts nonce hnone
  · intro h
    refine ⟨fun pre e post hes hmem => ?_, fun pre post _ => ?_⟩
    · rw [Machine.run_snoc]
      rcases Cell.addsNothing_step o ((cellMachine o).run pre) e with hnone | hsome
      · exact hnone.noNewWork
      · -- a closed cell accepts no ticket, and a draining one none by assumption
        obtain ⟨c, t, record, now, nonce, control, rfl, haccepts⟩ := hsome
        rcases draining_or_closed o pre hmem with hflag | hclosed
        · exact absurd ⟨hflag, c, t, record, now, nonce, control, rfl, haccepts⟩
            (h pre _ post hes)
        · rw [haccepts.running] at hclosed
          cases hclosed
    · rw [Machine.run_snoc]
      exact Cell.drain_undisturbed _

/-- The ticket of connection 1 is being looked up when the cell is told to drain. -/
def Demo.drainedMeanwhile : List Event :=
  Demo.registered ++ [.accept true, .receive 1 (outerFrame Demo.controllerAuth), .drain,
    .ticketReply 1 (.ok (some ⟨js "h", 10⟩)) 0 (Bytes32.repeat 6)]

/-- The reply makes the controller pending on a cell that drains. -/
theorem not_drainBarrier_drainedMeanwhile :
    ¬ DrainBarrier Demo.options Demo.drainedMeanwhile := by
  intro h
  have hnone := h.noNewWork
    (Demo.registered ++ [.accept true, .receive 1 (outerFrame Demo.controllerAuth), .drain])
    (.ticketReply 1 (.ok (some ⟨js "h", 10⟩)) 0 (Bytes32.repeat 6)) [] rfl (by simp)
  obtain ⟨hafter, hbefore⟩ : (((cellMachine Demo.options).run Demo.drainedMeanwhile).pending.get
      Demo.ticket).isSome = true ∧
      (((cellMachine Demo.options).run (Demo.registered ++ [.accept true,
        .receive 1 (outerFrame Demo.controllerAuth), .drain])).pending.get Demo.ticket) = none := by
    decide +kernel
  obtain ⟨p, hp⟩ := Option.isSome_iff_exists.1 hafter
  rw [hnone.pending Demo.ticket p hp] at hbefore
  cases hbefore

end Pherry.RelayCore
