import Pherry.Host.SessionTerminal
import Pherry.Host.Viewer

/-!
# The streams of a session

Each subscriber of a session is a viewer that could be alone: as long as no sink has the session tell
everyone something before it returns, the session is, for each subscriber, the machine of one viewer.
-/

namespace Pherry.Host

open Lib Protocol

variable {σ : Type} (em : Emulator σ)

/-! ## A subscriber as a viewer -/

/-- What an emission sends. -/
def emitted (t : Terminal σ) : Emit → List PtyFrame
  | .frame frame => [frame]
  | .snapshot => t.snapshot em
  | .body seq => t.snapshotBody em seq
  | .ended => if t.ended then [t.endedFrame] else []
  | .register _ => []
  | .settle => []

/-- Whose sink runs. -/
def SinkCall.number : SinkCall → ℕ
  | .emission number _ => number
  | .broadcast _ number _ => number

/-- The call of a subscriber's sink with a frame of a snapshot. -/
def SinkCall.sending (t : Terminal σ) (number : ℕ) : SinkCall → Option ViewerCall
  | .emission m left =>
    if m = number then some (.sending (left.flatMap (emitted em t)) left.getLast?) else none
  | .broadcast _ _ _ => none

/-- What a subscriber has of its subscription. -/
def Subscriber.kept (sub : Subscriber) : ViewerFlow :=
  { flow := sub.flow
    paused := sub.paused
    missed := sub.missed }

/-- What it has of it once a broadcast that is at a place is over. -/
def Subscriber.keptBehind (place : ℕ) (sub : Subscriber) : ViewerFlow :=
  { flow := sub.flow
    paused := sub.paused
    missed := sub.missed || (sub.paused && decide (place ≤ sub.place)) }

namespace Session

/-- A broadcast has still to come to a subscriber. -/
def awaits (s : Session σ) (frame : PtyFrame) (place number : ℕ) : Bool :=
  (s.subscriber number).any fun sub => decide (place ≤ sub.place) && (isTerminal frame || !sub.paused)

/-- The terminal once a broadcast is over. -/
def after (s : Session σ) (frame : PtyFrame) : Terminal σ :=
  if isTerminal frame then s.terminal.exited frame.seq else s.terminal

/-- A subscriber while a broadcast is at a place: it is told the frame as soon as the broadcast begins. -/
def viewAt (s : Session σ) (number : ℕ) (frame : PtyFrame) (place : ℕ) (running : Bool) : Viewer σ :=
  { terminal := s.after frame
    writable := s.writable number
    made := decide (number < s.made)
    subscription :=
      if isTerminal frame then none else (s.subscriber number).map (Subscriber.keptBehind place)
    call := if running || s.awaits frame place number then some .live else none }

/-- A subscriber as a viewer. -/
def view (s : Session σ) (number : ℕ) : Viewer σ :=
  match s.calls with
  | .broadcast frame m place :: _ => s.viewAt number frame place (decide (m = number))
  | calls =>
    { terminal := s.terminal
      writable := s.writable number
      made := decide (number < s.made)
      subscription := (s.subscriber number).map Subscriber.kept
      call := calls.findSome? (SinkCall.sending em s.terminal number) }

/-- The frame that a broadcast has still to bring to a subscriber. -/
def lag (s : Session σ) (number : ℕ) : List PtyFrame :=
  match s.calls with
  | .broadcast frame _ place :: _ => if s.awaits frame place number then [frame] else []
  | _ => []

/-- What an event is to a subscriber: one at the terminal, or one of its own. -/
def solo (s : Session σ) (number : ℕ) : SessionEvent → Option SessionEvent
  | .terminal e => some (.terminal e)
  | .subscribe flow =>
    if s.made = number ∧ s.terminal.disposed = false then some (.subscribe flow) else none
  | .unsubscribe n => if n = number then some (.unsubscribe 0) else none
  | .drain n => if n = number then some (.drain 0) else none
  | .returned => if (s.calls.head?.map SinkCall.number) = some number then some .returned else none
  | .threw => none
  | .turn n writable => if n = number then some (.turn 0 writable) else none

end Session

/-- `dispose`. -/
def TerminalEvent.isDispose : TerminalEvent → Bool
  | .dispose => true
  | _ => false

/-- A sink that is running does not throw and does nothing that is told to everyone; and while a live
frame goes out nobody subscribes or drains, and nobody is unsubscribed whom it has still to come to. -/
def Session.isOrderly (s : Session σ) (e : SessionEvent) : Bool :=
  match s.calls, e with
  | [], _ => true
  | _ :: _, .terminal e => (s.terminal.react em e).2.2.isNone && !e.isDispose
  | _ :: _, .threw => false
  | _ :: _, .returned => true
  | _ :: _, .turn _ _ => true
  | .broadcast frame _ place :: _, .unsubscribe number => !s.awaits frame place number
  | .emission _ _ :: _, _ => true
  | .broadcast _ _ _ :: _, _ => false

variable {em}

/-! ## What a session keeps -/

/-- What may be left of an emission: frames, and what is done behind them. -/
structure Session.Emitting (em : Emulator σ) (s : Session σ) (number : ℕ) (left : List Emit) : Prop where
  made : number < s.made
  closes : ∃ front closing, left = front ++ [closing] ∧
    (∀ x ∈ front, x ≠ .settle ∧ ∀ flow, x ≠ .register flow) ∧
    (closing = .settle ∧ (∀ sub ∈ s.subscribers, sub.number = number → sub.paused = false) ∨
      (∃ flow, closing = .register flow) ∧ ∀ sub ∈ s.subscribers, sub.number ≠ number)
  stamped : ∀ frame ∈ left.flatMap (emitted em s.terminal),
    frame.seq = s.terminal.seq ∧ frame.opcode ≠ PtyOpcode.output ∧ frame.opcode ≠ PtyOpcode.resized

/-- A broadcast runs. -/
structure Session.Broadcasting (s : Session σ) (frame : PtyFrame) (number place : ℕ) : Prop where
  made : number < s.made
  reached : place ≤ s.places
  stamped : frame.seq = s.terminal.seq
  live : s.terminal.ended = false
  visited : ∀ sub ∈ s.subscribers, sub.number = number → sub.place < place

/-- The subscribers are in the order of their places, and either one broadcast runs or emissions to
different subscribers do. -/
structure Session.Sound (em : Emulator σ) (s : Session σ) : Prop where
  numbers : s.subscribers.Pairwise fun a b => a.number ≠ b.number
  places : s.subscribers.Pairwise fun a b => a.place < b.place
  bound : ∀ sub ∈ s.subscribers, sub.number < s.made ∧ sub.place < s.places
  ended : s.terminal.ended = true → s.terminal.endedSeq = s.terminal.seq
  calls : (∃ frame number place, s.calls = [.broadcast frame number place] ∧
      s.Broadcasting frame number place) ∨
    (∀ call ∈ s.calls, ∃ number left, call = .emission number left ∧ s.Emitting em number left) ∧
      s.calls.Pairwise fun a b => a.number ≠ b.number

namespace Session

variable {s : Session σ} {m : ℕ}

/-! ## Looking a subscriber up -/

lemma find_map_subscriber {l : List Subscriber} {f : Subscriber → Subscriber} (number : ℕ)
    (hf : ∀ sub, (f sub).number = sub.number) :
    (l.map f).find? (fun sub => decide (sub.number = number)) =
      (l.find? fun sub => decide (sub.number = number)).map f := by
  rw [List.find?_map]
  have hsame : ((fun sub : Subscriber => decide (sub.number = number)) ∘ f) =
      fun sub => decide (sub.number = number) := by
    funext sub
    rw [Function.comp_apply, hf]
  rw [hsame]

lemma subscriber_onSubscriber (m number : ℕ) {f : Subscriber → Subscriber}
    (hf : ∀ sub, (f sub).number = sub.number) :
    (s.onSubscriber m f).subscriber number =
      if number = m then (s.subscriber number).map f else s.subscriber number := by
  have hchange : ∀ sub : Subscriber, (if sub.number = m then f sub else sub).number = sub.number := by
    intro sub
    split
    · exact hf sub
    · rfl
  rw [subscriber, onSubscriber, find_map_subscriber number hchange, subscriber]
  cases hfind : s.subscribers.find? (fun sub => decide (sub.number = number)) with
  | none => rw [Option.map_none, Option.map_none, ite_self]
  | some sub =>
    have hnumber : sub.number = number := of_decide_eq_true (List.find?_some hfind :)
    rw [Option.map_some, Option.map_some, hnumber]
    split <;> rfl

lemma subscriber_pass (place bound number : ℕ) :
    (s.pass place bound).subscriber number = (s.subscriber number).map fun sub =>
      if place ≤ sub.place ∧ sub.place < bound then { sub with missed := true } else sub := by
  rw [subscriber, pass, find_map_subscriber number, subscriber]
  intro sub
  split <;> rfl

lemma mem_of_subscriber {number : ℕ} {sub : Subscriber} (h : s.subscriber number = some sub) :
    sub ∈ s.subscribers ∧ sub.number = number :=
  ⟨List.mem_of_find?_eq_some h, of_decide_eq_true (List.find?_some h :)⟩

lemma subscriber_of_mem (hs : s.subscribers.Pairwise fun a b => a.number ≠ b.number)
    {sub : Subscriber} (hsub : sub ∈ s.subscribers) : s.subscriber sub.number = some sub := by
  have hfind : ∀ l : List Subscriber, l.Pairwise (fun a b => a.number ≠ b.number) → sub ∈ l →
      l.find? (fun other => decide (other.number = sub.number)) = some sub := by
    intro l
    induction l with
    | nil => exact fun _ hmem => absurd hmem List.not_mem_nil
    | cons first l ih =>
      intro hl hmem
      obtain ⟨hfirst, hl⟩ := List.pairwise_cons.1 hl
      rcases List.mem_cons.1 hmem with rfl | hmem
      · rw [List.find?_cons_of_pos (by simp)]
      · rw [List.find?_cons_of_neg (by simpa using hfirst sub hmem)]
        exact ih hl hmem
  exact hfind _ hs hsub

lemma subscriber_eq_none {number : ℕ} :
    s.subscriber number = none ↔ ∀ sub ∈ s.subscribers, sub.number ≠ number := by
  rw [subscriber, List.find?_eq_none]
  simp

/-! ## An emission -/

/-- What is done behind an emission. -/
def closed (s : Session σ) (number : ℕ) : Emit → Session σ
  | .register flow => s.register number flow
  | .settle => s.pauseFull number
  | _ => s

lemma advance_eq (em : Emulator σ) (s : Session σ) (number : ℕ) {front : List Emit} {closing : Emit}
    (hfront : ∀ x ∈ front, x ≠ .settle ∧ ∀ flow, x ≠ .register flow)
    (hclosing : closing = .settle ∨ ∃ flow, closing = .register flow) :
    (front.flatMap (emitted em s.terminal) = [] ∧
        s.advance em number (front ++ [closing]) = (s.closed number closing, none)) ∨
      ∃ frame front', front.flatMap (emitted em s.terminal) =
          frame :: front'.flatMap (emitted em s.terminal) ∧
        (∀ x ∈ front', x ≠ .settle ∧ ∀ flow, x ≠ .register flow) ∧
        s.advance em number (front ++ [closing]) = (s, some (frame, front' ++ [closing])) := by
  induction front with
  | nil =>
    left
    refine ⟨rfl, ?_⟩
    rcases hclosing with rfl | ⟨flow, rfl⟩ <;> rfl
  | cons first front ih =>
    obtain ⟨hfirst, hrest⟩ := List.forall_mem_cons.1 hfront
    cases first with
    | frame frame => exact Or.inr ⟨frame, front, rfl, hrest, rfl⟩
    | snapshot =>
      refine Or.inr ⟨s.terminal.snapshotStart, .body s.terminal.seq :: front, rfl, ?_, rfl⟩
      intro x hx
      rcases List.mem_cons.1 hx with rfl | hx
      · simp
      · exact hrest x hx
    | body seq =>
      cases hbody : s.terminal.snapshotBody em seq with
      | nil =>
        have hnone : emitted em s.terminal (.body seq) = [] := hbody
        rw [List.flatMap_cons, hnone, List.nil_append, List.cons_append, advance, hbody]
        exact ih hrest
      | cons frame frames =>
        have hsome : emitted em s.terminal (.body seq) = frame :: frames := hbody
        have hframes : (frames.map Emit.frame).flatMap (emitted em s.terminal) = frames := by
          rw [List.flatMap_map]
          exact List.flatMap_singleton' frames
        refine Or.inr ⟨frame, frames.map .frame ++ front, ?_, ?_, ?_⟩
        · rw [List.flatMap_cons, hsome, List.flatMap_append, hframes]
          rfl
        · intro x hx
          rcases List.mem_append.1 hx with hx | hx
          · obtain ⟨frame', -, rfl⟩ := List.mem_map.1 hx
            simp
          · exact hrest x hx
        · rw [List.cons_append, advance, hbody, List.append_assoc]
    | ended =>
      by_cases hended : s.terminal.ended = true
      · refine Or.inr ⟨s.terminal.endedFrame, front, ?_, hrest, ?_⟩
        · rw [List.flatMap_cons, emitted, if_pos hended]
          rfl
        · rw [List.cons_append, advance, if_pos hended]
      · have hnone : emitted em s.terminal .ended = [] := if_neg hended
        rw [List.flatMap_cons, hnone, List.nil_append, List.cons_append, advance, if_neg hended]
        exact ih hrest
    | register flow => exact absurd rfl (hfirst.2 flow)
    | settle => exact absurd rfl hfirst.1

lemma view_of_emissions (hcalls : ∀ call ∈ s.calls, ∃ k left, call = .emission k left) (number : ℕ) :
    s.view em number =
      { terminal := s.terminal
        writable := s.writable number
        made := decide (number < s.made)
        subscription := (s.subscriber number).map Subscriber.kept
        call := s.calls.findSome? (SinkCall.sending em s.terminal number) } := by
  rw [view]
  split
  · next frame m place rest heq =>
    obtain ⟨k, left, hcall⟩ := hcalls (.broadcast frame m place) (by rw [heq]; exact List.mem_cons_self)
    cases hcall
  · rfl

lemma sending_eq_none (hfresh : ∀ call ∈ s.calls, call.number ≠ m) :
    s.calls.findSome? (SinkCall.sending em s.terminal m) = none := by
  rw [List.findSome?_eq_none_iff]
  intro call hcall
  cases call with
  | emission k left => exact if_neg (hfresh _ hcall)
  | broadcast frame k place => rfl

lemma subscriber_register (m number : ℕ) (flow : Bool) (hnone : ∀ sub ∈ s.subscribers, sub.number ≠ m) :
    (s.register m flow).subscriber number =
      if number = m then
        some { number := m, place := s.places, flow, missed := false
               paused := flow && !s.terminal.ended && !s.writable m }
      else s.subscriber number := by
  rw [subscriber, register]
  dsimp only
  rw [List.find?_append]
  by_cases hnumber : number = m
  · subst hnumber
    have hfind : s.subscribers.find? (fun sub => decide (sub.number = number)) = none :=
      subscriber_eq_none.2 hnone
    rw [hfind, if_pos rfl]
    simp
  · rw [if_neg hnumber, subscriber]
    cases s.subscribers.find? (fun sub => decide (sub.number = number)) with
    | none => simp [Ne.symm hnumber]
    | some sub => rfl

lemma view_closed (hcalls : ∀ call ∈ s.calls, ∃ k left, call = .emission k left) {m : ℕ}
    {closing : Emit}
    (hclosing : closing = .settle ∨ (∃ flow, closing = .register flow) ∧
      ∀ sub ∈ s.subscribers, sub.number ≠ m) (number : ℕ) :
    (s.closed m closing).view em number =
      if number = m then (s.view em number).close (some closing) else s.view em number := by
  rw [view_of_emissions hcalls]
  rcases hclosing with rfl | ⟨⟨flow, rfl⟩, hnone⟩
  · rw [closed, view_of_emissions (s := s.pauseFull m) hcalls, pauseFull, subscriber_onSubscriber]
    · by_cases hnumber : number = m
      · subst hnumber
        rw [if_pos rfl, if_pos rfl, Viewer.close, Viewer.pauseFull]
        cases s.subscriber number with
        | none => rfl
        | some sub =>
          dsimp only [Option.map_some, Subscriber.kept, onSubscriber]
          split <;> rfl
      · rw [if_neg hnumber, if_neg hnumber]
        rfl
    · intro sub
      split <;> rfl
  · rw [closed, view_of_emissions (s := s.register m flow) hcalls, subscriber_register m number flow hnone]
    by_cases hnumber : number = m
    · subst hnumber
      rw [if_pos rfl, if_pos rfl]
      rfl
    · rw [if_neg hnumber, if_neg hnumber]
      rfl

lemma view_emit (hcalls : ∀ call ∈ s.calls, ∃ k left, call = .emission k left)
    (hfresh : ∀ call ∈ s.calls, call.number ≠ m) {left : List Emit} (hleft : s.Emitting em m left)
    (number : ℕ) :
    ((s.emit em m left).1.view em number, sunk number (s.emit em m left).2) =
      if number = m then (s.view em number).send left.getLast? (left.flatMap (emitted em s.terminal))
      else (s.view em number, []) := by
  obtain ⟨front, closing, rfl, hfront, hclosing⟩ := hleft.closes
  have hclose : closing = .settle ∨ ∃ flow, closing = .register flow :=
    hclosing.imp And.left And.left
  have hnothing : emitted em s.terminal closing = [] := by
    rcases hclose with rfl | ⟨flow, rfl⟩ <;> rfl
  rw [List.getLast?_concat, List.flatMap_append, List.flatMap_singleton, hnothing, List.append_nil, emit]
  rcases advance_eq em s m hfront hclose with ⟨hnone, hadvance⟩ | ⟨frame, front', hsome, -, hadvance⟩
  · rw [hadvance, hnone]
    dsimp only
    rw [view_closed hcalls (hclosing.imp And.left id)]
    split <;> rfl
  · rw [hadvance, hsome]
    dsimp only
    have hstill : ∀ call ∈ ({ s with calls := .emission m (front' ++ [closing]) :: s.calls } : Session σ).calls,
        ∃ k left, call = .emission k left := by
      intro call hcall
      rcases List.mem_cons.1 hcall with rfl | hcall
      · exact ⟨m, front' ++ [closing], rfl⟩
      · exact hcalls call hcall
    rw [view_of_emissions hstill, view_of_emissions hcalls]
    by_cases hnumber : number = m
    · subst hnumber
      rw [if_pos rfl, List.findSome?_cons, SinkCall.sending, if_pos rfl, List.getLast?_concat,
        List.flatMap_append, List.flatMap_singleton, hnothing, List.append_nil]
      simp [Viewer.send, sunk]
      rfl
    · rw [if_neg hnumber, List.findSome?_cons, SinkCall.sending, if_neg (Ne.symm hnumber)]
      simp [sunk, Ne.symm hnumber]
      rfl

lemma Emitting.mono {left : List Emit} (h : s.Emitting em m left) {s' : Session σ} (hterminal : s'.terminal = s.terminal)
    (hmade : s.made ≤ s'.made)
    (hsub : ∀ sub ∈ s'.subscribers, sub.number = m → sub ∈ s.subscribers) : s'.Emitting em m left := by
  obtain ⟨front, closing, hleft, hfront, hclosing⟩ := h.closes
  refine ⟨h.made.trans_le hmade, ⟨front, closing, hleft, hfront, ?_⟩, by rw [hterminal]; exact h.stamped⟩
  rcases hclosing with ⟨hsettle, hpaused⟩ | ⟨hregister, hnone⟩
  · exact Or.inl ⟨hsettle, fun sub hmem hnumber => hpaused sub (hsub sub hmem hnumber) hnumber⟩
  · exact Or.inr ⟨hregister, fun sub hmem hnumber => hnone sub (hsub sub hmem hnumber) hnumber⟩

lemma Sound.closed (hs : s.Sound em)
    (hcalls : ∀ call ∈ s.calls, ∃ k left, call = .emission k left ∧ s.Emitting em k left)
    (hdistinct : s.calls.Pairwise fun a b => a.number ≠ b.number)
    (hfresh : ∀ call ∈ s.calls, call.number ≠ m) (hmade : m < s.made) {closing : Emit}
    (hclosing : closing = .settle ∨ (∃ flow, closing = .register flow) ∧
      ∀ sub ∈ s.subscribers, sub.number ≠ m) : (s.closed m closing).Sound em := by
  rcases hclosing with rfl | ⟨⟨flow, rfl⟩, hnone⟩
  · have hchange : ∀ sub : Subscriber, (if sub.number = m then
        if sub.flow && !s.writable m then { sub with paused := true } else sub else sub).number =
          sub.number ∧ (if sub.number = m then
        if sub.flow && !s.writable m then { sub with paused := true } else sub else sub).place =
          sub.place := by
      intro sub
      split
      · split <;> exact ⟨rfl, rfl⟩
      · exact ⟨rfl, rfl⟩
    refine ⟨?_, ?_, fun sub hsub => ?_, hs.ended, Or.inr ⟨fun call hcall => ?_, hdistinct⟩⟩
    · refine List.pairwise_map.2 (hs.numbers.imp fun hne => ?_)
      rw [(hchange _).1, (hchange _).1]
      exact hne
    · refine List.pairwise_map.2 (hs.places.imp fun hlt => ?_)
      rw [(hchange _).2, (hchange _).2]
      exact hlt
    · obtain ⟨sub', hsub', rfl⟩ := List.mem_map.1 hsub
      rw [(hchange sub').1, (hchange sub').2]
      exact hs.bound sub' hsub'
    · obtain ⟨k, left, rfl, hemitting⟩ := hcalls call hcall
      refine ⟨k, left, rfl, hemitting.mono rfl le_rfl fun sub hsub hnumber => ?_⟩
      obtain ⟨sub', hsub', rfl⟩ := List.mem_map.1 hsub
      rw [(hchange sub').1] at hnumber
      rw [if_neg (by rw [hnumber]; exact hfresh _ hcall)]
      exact hsub'
  · refine ⟨?_, ?_, fun sub hsub => ?_, hs.ended, Or.inr ⟨fun call hcall => ?_, hdistinct⟩⟩
    · refine List.pairwise_append.2 ⟨hs.numbers, List.pairwise_singleton _ _, fun a ha b hb => ?_⟩
      rw [List.mem_singleton.1 hb]
      exact hnone a ha
    · refine List.pairwise_append.2 ⟨hs.places, List.pairwise_singleton _ _, fun a ha b hb => ?_⟩
      rw [List.mem_singleton.1 hb]
      exact (hs.bound a ha).2
    · show sub.number < s.made ∧ sub.place < s.places + 1
      rcases List.mem_append.1 hsub with hsub | hsub
      · have hbound := hs.bound sub hsub
        omega
      · rw [List.mem_singleton.1 hsub]
        exact ⟨hmade, Nat.lt_succ_self _⟩
    · obtain ⟨k, left, rfl, hemitting⟩ := hcalls call hcall
      refine ⟨k, left, rfl, hemitting.mono rfl le_rfl fun sub hsub hnumber => ?_⟩
      rcases List.mem_append.1 hsub with hsub | hsub
      · exact hsub
      · rw [List.mem_singleton.1 hsub] at hnumber
        exact absurd hnumber.symm (hfresh _ hcall)

lemma Sound.emit (hs : s.Sound em)
    (hcalls : ∀ call ∈ s.calls, ∃ k left, call = .emission k left ∧ s.Emitting em k left)
    (hdistinct : s.calls.Pairwise fun a b => a.number ≠ b.number)
    (hfresh : ∀ call ∈ s.calls, call.number ≠ m) {left : List Emit} (hleft : s.Emitting em m left) :
    (s.emit em m left).1.Sound em := by
  obtain ⟨front, closing, rfl, hfront, hclosing⟩ := hleft.closes
  have hclose : closing = .settle ∨ ∃ flow, closing = .register flow :=
    hclosing.imp And.left And.left
  rw [Session.emit]
  rcases advance_eq em s m hfront hclose with ⟨hnone, hadvance⟩ | ⟨frame, front', hsome, hfront', hadvance⟩
  · rw [hadvance]
    exact hs.closed hcalls hdistinct hfresh hleft.made (hclosing.imp And.left id)
  · rw [hadvance]
    have hemitting : s.Emitting em m (front' ++ [closing]) := by
      refine ⟨hleft.made, ⟨front', closing, rfl, hfront', hclosing⟩, fun frame' hframe' => hleft.stamped frame' ?_⟩
      rw [List.flatMap_append] at hframe' ⊢
      rw [hsome]
      rcases List.mem_append.1 hframe' with hframe' | hframe'
      · exact List.mem_append_left _ (List.mem_cons_of_mem _ hframe')
      · exact List.mem_append_right _ hframe'
    refine ⟨hs.numbers, hs.places, hs.bound, hs.ended, Or.inr ⟨fun call hcall => ?_, ?_⟩⟩
    · rcases List.mem_cons.1 hcall with rfl | hcall
      · exact ⟨m, _, rfl, hemitting.mono rfl le_rfl fun _ hsub _ => hsub⟩
      · obtain ⟨k, left, rfl, hother⟩ := hcalls call hcall
        exact ⟨k, left, rfl, hother.mono rfl le_rfl fun _ hsub _ => hsub⟩
    · exact List.pairwise_cons.2 ⟨fun call hcall => (hfresh call hcall).symm, hdistinct⟩

/-! ## A broadcast -/

lemma awaits_eq_true {frame : PtyFrame} {place number : ℕ} :
    s.awaits frame place number = true ↔ ∃ sub, s.subscriber number = some sub ∧ place ≤ sub.place ∧
      (isTerminal frame = true ∨ sub.paused = false) := by
  rw [awaits, Option.any_eq_true]
  simp

lemma place_injective (hs : s.Sound em) {a b : Subscriber} (ha : a ∈ s.subscribers)
    (hb : b ∈ s.subscribers) (h : a.place = b.place) : a = b := by
  refine List.inj_on_of_nodup_map (f := Subscriber.place) ?_ ha hb h
  exact List.pairwise_map.2 (hs.places.imp fun hlt => hlt.ne)

lemma first_of_find (hs : s.Sound em) {p : Subscriber → Bool} {sub : Subscriber}
    (hfind : s.subscribers.find? p = some sub) :
    sub ∈ s.subscribers ∧ p sub = true ∧
      ∀ other ∈ s.subscribers, p other = true → sub.place ≤ other.place := by
  obtain ⟨hsub, before, behind, hsplit, hbefore⟩ := List.find?_eq_some_iff_append.1 hfind
  refine ⟨List.mem_of_find?_eq_some hfind, hsub, fun other hother hp => ?_⟩
  have hplaces := hs.places
  rw [hsplit] at hother hplaces
  rcases List.mem_append.1 hother with hother | hother
  · have hnot := hbefore other hother
    rw [hp] at hnot
    cases hnot
  · rcases List.mem_cons.1 hother with rfl | hother
    · exact le_rfl
    · exact ((List.pairwise_cons.1 (List.pairwise_append.1 hplaces).2.1).1 other hother).le

lemma keptBehind_pass (sub : Subscriber) {place bound bound' : ℕ} (hbounds : bound ≤ bound')
    (hpassed : place ≤ sub.place → sub.place < bound' → bound ≤ sub.place ∨ sub.paused = true)
    (hnext : bound ≤ sub.place → sub.place < bound' → sub.paused = false) (hplace : place ≤ bound) :
    (if place ≤ sub.place ∧ sub.place < bound then { sub with missed := true } else sub).keptBehind bound' =
      sub.keptBehind place := by
  by_cases hin : place ≤ sub.place ∧ sub.place < bound
  · rw [if_pos hin]
    have hpaused : sub.paused = true := (hpassed hin.1 (hin.2.trans_le hbounds)).resolve_left (by omega)
    simp [Subscriber.keptBehind, hpaused, hin.1]
  · rw [if_neg hin, Subscriber.keptBehind, Subscriber.keptBehind]
    by_cases hbehind : place ≤ sub.place
    · have hbound : bound ≤ sub.place := by omega
      by_cases hafter : bound' ≤ sub.place
      · rw [decide_eq_true hbehind, decide_eq_true hafter]
      · have hpaused := hnext hbound (by omega)
        rw [hpaused, Bool.false_and, Bool.false_and]
    · rw [decide_eq_false hbehind, decide_eq_false (by omega)]

/-- A broadcast goes on: it comes to the next subscriber, or passes the paused ones, or is over. -/
lemma view_visit (hs : s.Sound em) (hcalls : s.calls = []) (frame : PtyFrame) (place number : ℕ)
    (hplace : place ≤ s.places) :
    (s.visit frame place).1.view em number = s.viewAt number frame place false ∧
      sunk number (s.visit frame place).2 ++ (s.visit frame place).1.lag number =
        if s.awaits frame place number then [frame] else [] := by
  rw [visit]
  split
  · next sub hfind =>
    obtain ⟨hmem, hp, hleast⟩ := first_of_find hs hfind
    rw [Bool.and_eq_true, decide_eq_true_eq] at hp
    have hself := subscriber_of_mem hs.numbers hmem
    have hchange : ∀ other : Subscriber, (if place ≤ other.place ∧ other.place < sub.place then
        { other with missed := true } else other).place = other.place ∧
        (if place ≤ other.place ∧ other.place < sub.place then
        { other with missed := true } else other).paused = other.paused := by
      intro other
      split <;> exact ⟨rfl, rfl⟩
    have hreached : s.awaits frame place sub.number = true := by
      rw [awaits, hself, Option.any_some, decide_eq_true hp.1, Bool.true_and]
      exact hp.2
    have hdone : (s.pass place sub.place).awaits frame (sub.place + 1) sub.number = false := by
      rw [awaits, subscriber_pass, hself, Option.map_some, Option.any_some, (hchange sub).1,
        decide_eq_false (by omega), Bool.false_and]
    have hothers : number ≠ sub.number → (s.pass place sub.place).awaits frame (sub.place + 1) number =
        s.awaits frame place number := by
      intro hne
      rw [awaits, awaits, subscriber_pass]
      cases hother : s.subscriber number with
      | none => rfl
      | some other =>
        obtain ⟨hmem', hnumber⟩ := mem_of_subscriber hother
        rw [Option.map_some, Option.any_some, Option.any_some, (hchange other).1, (hchange other).2]
        cases htold : isTerminal frame || !other.paused with
        | false => rw [Bool.and_false, Bool.and_false]
        | true =>
          rw [Bool.and_true, Bool.and_true]
          refine decide_eq_decide.2 ⟨fun hlt => by omega, fun hle => ?_⟩
          have hle' := hleast other hmem' (by rw [decide_eq_true hle, htold]; rfl)
          have hplaces : other.place ≠ sub.place := by
            intro heq
            rw [place_injective hs hmem' hmem heq] at hnumber
            exact hne hnumber.symm
          omega
    rw [view]
    dsimp only
    constructor
    · rw [viewAt, viewAt]
      congr 1
      · -- what it keeps of its subscription
        by_cases hterminal : isTerminal frame = true
        · rw [if_pos hterminal, if_pos hterminal]
        · rw [if_neg hterminal, if_neg hterminal]
          show ((s.pass place sub.place).subscriber number).map _ = _
          rw [subscriber_pass, Option.map_map]
          cases hother : s.subscriber number with
          | none => rfl
          | some other =>
            have hmem' := (mem_of_subscriber hother).1
            refine congrArg some (keptBehind_pass other (Nat.le_succ _) (fun hle hlt => ?_) (fun hle hlt => ?_) hp.1)
            · by_contra hnot
              rw [not_or, Bool.not_eq_true] at hnot
              have hle' := hleast other hmem' (by simp [hle, hnot.2])
              omega
            · rw [place_injective hs hmem' hmem (by omega)]
              simpa [hterminal] using hp.2
      · -- whether its sink runs
        show (if decide (sub.number = number) || (s.pass place sub.place).awaits frame (sub.place + 1) number
          then some ViewerCall.live else none) = _
        by_cases hnumber : number = sub.number
        · rw [hnumber, hreached, decide_eq_true rfl]
          rfl
        · rw [hothers hnumber, decide_eq_false (Ne.symm hnumber)]
    · rw [lag]
      dsimp only
      show _ ++ (if (s.pass place sub.place).awaits frame (sub.place + 1) number then [frame] else []) = _
      by_cases hnumber : number = sub.number
      · rw [hnumber, hdone, hreached]
        simp [sunk]
      · rw [hothers hnumber]
        simp [sunk, Ne.symm hnumber]
  · next hfind =>
    have hpassed : ∀ sub ∈ s.subscribers, place ≤ sub.place → isTerminal frame = false ∧ sub.paused = true := by
      intro sub hsub hle
      have hnot := List.find?_eq_none.1 hfind sub hsub
      simpa [hle] using hnot
    have hnobody : s.awaits frame place number = false := by
      rw [awaits]
      cases hsub : s.subscriber number with
      | none => rfl
      | some sub =>
        rw [Option.any_some]
        by_cases hle : place ≤ sub.place
        · obtain ⟨hlive, hpaused⟩ := hpassed sub (mem_of_subscriber hsub).1 hle
          rw [hlive, hpaused, Bool.false_or, Bool.not_true, Bool.and_false]
        · rw [decide_eq_false hle, Bool.false_and]
    rw [hnobody]
    dsimp only
    by_cases hterminal : isTerminal frame = true
    · rw [if_pos hterminal, view_of_emissions (by simp [pass, hcalls]), viewAt, after, if_pos hterminal,
        if_pos hterminal, hnobody]
      refine ⟨?_, by simp [lag, sunk, pass, hcalls]⟩
      simp [pass, hcalls, subscriber]
    · rw [if_neg hterminal, view_of_emissions (by simp [pass, hcalls]), viewAt, after, if_neg hterminal,
        if_neg hterminal, hnobody, subscriber_pass]
      refine ⟨?_, by simp [lag, sunk, pass, hcalls]⟩
      congr 1
      · rw [Option.map_map]
        cases hsub : s.subscriber number with
        | none => rfl
        | some sub =>
          have hmem := (mem_of_subscriber hsub).1
          have hbound := (hs.bound sub hmem).2
          have hkept := keptBehind_pass sub (le_refl s.places)
            (fun hle _ => Or.inr (hpassed sub hmem hle).2) (fun hle _ => by omega) hplace
          refine congrArg some (Eq.trans ?_ hkept)
          rw [Subscriber.keptBehind, decide_eq_false, Bool.and_false, Bool.or_false]
          · rfl
          · show ¬ s.places ≤ Subscriber.place _
            split <;> exact hbound.not_ge
      · rw [show (s.pass place s.places).calls = [] from hcalls]
        rfl

lemma sunk_emit (hcalls : ∀ call ∈ s.calls, ∃ k left, call = .emission k left)
    (hfresh : ∀ call ∈ s.calls, call.number ≠ m) {left : List Emit} (hleft : s.Emitting em m left)
    (number : ℕ) : ∀ frame ∈ sunk number (s.emit em m left).2, frame.seq = (s.emit em m left).1.terminal.seq ∧
      frame.opcode ≠ PtyOpcode.output ∧ frame.opcode ≠ PtyOpcode.resized := by
  intro frame hframe
  have hview := congrArg Prod.snd (view_emit hcalls hfresh hleft number)
  dsimp only at hview
  rw [hview] at hframe
  rw [terminal_emit]
  split at hframe
  · refine hleft.stamped frame ?_
    cases hsent : left.flatMap (emitted em s.terminal) with
    | nil =>
      rw [hsent] at hframe
      cases hframe
    | cons first rest =>
      rw [hsent] at hframe
      rw [List.mem_singleton.1 hframe]
      exact List.mem_cons_self
  · cases hframe

lemma sunk_visit (frame : PtyFrame) (place number : ℕ) :
    ∀ frame' ∈ sunk number (s.visit frame place).2, frame' = frame := by
  intro frame' hframe
  rw [visit] at hframe
  split at hframe
  · rw [sunk, List.filterMap_cons] at hframe
    dsimp only at hframe
    split at hframe
    · cases hframe
    · next heq =>
      split at heq
      · cases heq
        exact List.mem_singleton.1 hframe
      · cases heq
  · dsimp only at hframe
    split at hframe <;> cases hframe

lemma seq_visit (frame : PtyFrame) (place : ℕ) :
    (s.visit frame place).1.terminal.seq = s.terminal.seq := by
  rcases s.terminal_visit frame place with heq | heq <;> rw [heq]
  rfl

/-! ## One step -/

/-- A live frame that an event brings up or that a broadcast brings on. -/
def Brings (em : Emulator σ) (s : Session σ) (e : SessionEvent) (frame : PtyFrame) : Prop :=
  (∃ t, e = .terminal t ∧ (s.terminal.react em t).2.2 = some frame) ∨
    ∃ m place rest, s.calls = .broadcast frame m place :: rest

/-- A step keeps the order, and is to every subscriber what it would be if the subscriber were alone. -/
structure Refines (em : Emulator σ) (s : Session σ) (e : SessionEvent) : Prop where
  sound : (s.react em e).1.Sound em
  view : ∀ number, (s.react em e).1.view em number =
    ((s.view em number).reactTo em (s.solo number e)).1
  frames : ∀ number, sunk number (s.react em e).2 ++ (s.react em e).1.lag number =
    s.lag number ++ ((s.view em number).reactTo em (s.solo number e)).2
  stamped : ∀ number, ∀ frame ∈ sunk number (s.react em e).2,
    frame.seq = (s.react em e).1.terminal.seq ∧
      (frame.opcode = PtyOpcode.output ∨ frame.opcode = PtyOpcode.resized → s.Brings em e frame)
  brings : ∀ frame m place rest, (s.react em e).1.calls = .broadcast frame m place :: rest →
    s.Brings em e frame

section Frames

variable {e : SessionEvent}

lemma stamped_of_nil {number : ℕ} (h : sunk number (s.react em e).2 = []) :
    ∀ frame ∈ sunk number (s.react em e).2, frame.seq = (s.react em e).1.terminal.seq ∧
      (frame.opcode = PtyOpcode.output ∨ frame.opcode = PtyOpcode.resized → s.Brings em e frame) := by
  rw [h]
  exact fun frame hframe => absurd hframe List.not_mem_nil

lemma stamped_of_emit {t : Session σ} {left : List Emit}
    (hcalls : ∀ call ∈ t.calls, ∃ k left, call = .emission k left)
    (hfresh : ∀ call ∈ t.calls, call.number ≠ m) (hleft : t.Emitting em m left)
    (hreact : s.react em e = t.emit em m left) (number : ℕ) :
    ∀ frame ∈ sunk number (s.react em e).2, frame.seq = (s.react em e).1.terminal.seq ∧
      (frame.opcode = PtyOpcode.output ∨ frame.opcode = PtyOpcode.resized → s.Brings em e frame) := by
  intro frame hframe
  rw [hreact] at hframe ⊢
  obtain ⟨hseq, houtput, hresized⟩ := sunk_emit hcalls hfresh hleft number frame hframe
  exact ⟨hseq, fun hop => absurd hop (not_or.2 ⟨houtput, hresized⟩)⟩

lemma stamped_of_visit {t : Session σ} {frame' : PtyFrame} {place number : ℕ}
    (hseq : frame'.seq = t.terminal.seq) (hbrings : s.Brings em e frame')
    (hreact : (s.react em e).1 = (t.visit frame' place).1)
    (hsunk : sunk number (s.react em e).2 = sunk number (t.visit frame' place).2) :
    ∀ frame ∈ sunk number (s.react em e).2, frame.seq = (s.react em e).1.terminal.seq ∧
      (frame.opcode = PtyOpcode.output ∨ frame.opcode = PtyOpcode.resized → s.Brings em e frame) := by
  intro frame hframe
  rw [hsunk] at hframe
  rw [sunk_visit frame' place number frame hframe, hreact, seq_visit]
  exact ⟨hseq, fun _ => hbrings⟩

lemma brings_of_calls (h : (s.react em e).1.calls = s.calls) :
    ∀ frame m place rest, (s.react em e).1.calls = .broadcast frame m place :: rest →
      s.Brings em e frame :=
  fun _ m place rest hcalls => Or.inr ⟨m, place, rest, h.symm.trans hcalls⟩

lemma brings_of_emissions (h : ∀ call ∈ (s.react em e).1.calls, ∃ k left, call = .emission k left) :
    ∀ frame m place rest, (s.react em e).1.calls = .broadcast frame m place :: rest →
      s.Brings em e frame := by
  intro frame m place rest hcalls
  obtain ⟨k, left, hcall⟩ := h (.broadcast frame m place) (by rw [hcalls]; exact List.mem_cons_self)
  cases hcall

lemma brings_of_visit {t : Session σ} {frame' : PtyFrame} {place : ℕ} (hcalls : t.calls = [])
    (hbrings : s.Brings em e frame') (hreact : (s.react em e).1 = (t.visit frame' place).1) :
    ∀ frame m place rest, (s.react em e).1.calls = .broadcast frame m place :: rest →
      s.Brings em e frame := by
  intro frame m place' rest hbroadcast
  rw [hreact, visit] at hbroadcast
  split at hbroadcast
  · dsimp only at hbroadcast
    cases hbroadcast
    exact hbrings
  · dsimp only at hbroadcast
    split at hbroadcast
    · rw [show t.calls = _ from hbroadcast] at hcalls
      cases hcalls
    · rw [show t.calls = _ from hbroadcast] at hcalls
      cases hcalls

end Frames

lemma view_of_broadcast {frame : PtyFrame} {place : ℕ} {rest : List SinkCall}
    (hcalls : s.calls = .broadcast frame m place :: rest) (number : ℕ) :
    s.view em number = s.viewAt number frame place (decide (m = number)) := by
  rw [view, hcalls]

lemma lag_of_broadcast {frame : PtyFrame} {place : ℕ} {rest : List SinkCall}
    (hcalls : s.calls = .broadcast frame m place :: rest) (number : ℕ) :
    s.lag number = if s.awaits frame place number then [frame] else [] := by
  rw [lag, hcalls]

lemma lag_of_emissions (hcalls : ∀ call ∈ s.calls, ∃ k left, call = .emission k left) (number : ℕ) :
    s.lag number = [] := by
  rw [lag]
  split
  · next frame m place rest heq =>
    obtain ⟨k, left, hcall⟩ := hcalls (.broadcast frame m place) (by rw [heq]; exact List.mem_cons_self)
    cases hcall
  · rfl

lemma Sound.mapped (hs : s.Sound em) {f : Subscriber → Subscriber}
    (hf : ∀ sub, (f sub).number = sub.number ∧ (f sub).place = sub.place) :
    (s.subscribers.map f).Pairwise (fun a b => a.number ≠ b.number) ∧
      (s.subscribers.map f).Pairwise (fun a b => a.place < b.place) ∧
      ∀ sub ∈ s.subscribers.map f, sub.number < s.made ∧ sub.place < s.places := by
  refine ⟨List.pairwise_map.2 (hs.numbers.imp fun hne => ?_),
    List.pairwise_map.2 (hs.places.imp fun hlt => ?_), fun sub hsub => ?_⟩
  · rw [(hf _).1, (hf _).1]
    exact hne
  · rw [(hf _).2, (hf _).2]
    exact hlt
  · obtain ⟨sub', hsub', rfl⟩ := List.mem_map.1 hsub
    rw [(hf sub').1, (hf sub').2]
    exact hs.bound sub' hsub'

lemma Sound.visit (hs : s.Sound em) (hcalls : s.calls = []) {frame : PtyFrame} {place : ℕ}
    (hstamped : frame.seq = s.terminal.seq) (hlive : s.terminal.ended = false) :
    (s.visit frame place).1.Sound em := by
  have hchange : ∀ bound, ∀ sub : Subscriber, (if place ≤ sub.place ∧ sub.place < bound then
      { sub with missed := true } else sub).number = sub.number ∧
      (if place ≤ sub.place ∧ sub.place < bound then { sub with missed := true } else sub).place =
        sub.place := by
    intro bound sub
    split <;> exact ⟨rfl, rfl⟩
  rw [Session.visit]
  split
  · next sub hfind =>
    obtain ⟨hmem, -, -⟩ := first_of_find hs hfind
    obtain ⟨hnumbers, hplaces, hbound⟩ := hs.mapped (hchange sub.place)
    refine ⟨hnumbers, hplaces, hbound, hs.ended, Or.inl ⟨frame, sub.number, sub.place + 1, ?_, ?_⟩⟩
    · show SinkCall.broadcast frame sub.number (sub.place + 1) :: s.calls = _
      rw [hcalls]
    · refine ⟨(hs.bound sub hmem).1, (hs.bound sub hmem).2, hstamped, hlive, fun other hother hnumber => ?_⟩
      obtain ⟨other', hother', rfl⟩ := List.mem_map.1 hother
      rw [(hchange sub.place other').1] at hnumber
      rw [(hchange sub.place other').2]
      have hself := subscriber_of_mem hs.numbers hmem
      have hsame := subscriber_of_mem hs.numbers hother'
      rw [hnumber, hself] at hsame
      cases hsame
      exact Nat.lt_succ_self _
  · dsimp only
    split
    · refine ⟨List.Pairwise.nil, List.Pairwise.nil, fun sub hsub => absurd hsub List.not_mem_nil,
        fun _ => hstamped, Or.inr ?_⟩
      show (∀ call ∈ s.calls, _) ∧ s.calls.Pairwise _
      rw [hcalls]
      exact ⟨fun call hcall => absurd hcall List.not_mem_nil, List.Pairwise.nil⟩
    · obtain ⟨hnumbers, hplaces, hbound⟩ := hs.mapped (hchange s.places)
      refine ⟨hnumbers, hplaces, hbound, hs.ended, Or.inr ?_⟩
      show (∀ call ∈ s.calls, _) ∧ s.calls.Pairwise _
      rw [hcalls]
      exact ⟨fun call hcall => absurd hcall List.not_mem_nil, List.Pairwise.nil⟩

lemma emitted_still {t t' : Terminal σ} (h : Terminal.Still t t') : emitted em t' = emitted em t := by
  funext x
  cases x with
  | frame frame => rfl
  | snapshot => exact h.snapshot
  | body seq => exact h.snapshotBody seq
  | ended => rw [emitted, emitted, h.ended, h.endedFrame]
  | register flow => rfl
  | settle => rfl

lemma sending_still {t t' : Terminal σ} (h : Terminal.Still t t') (number : ℕ) :
    SinkCall.sending em t' number = SinkCall.sending em t number := by
  funext call
  cases call with
  | emission k left => rw [SinkCall.sending, SinkCall.sending, emitted_still h]
  | broadcast frame k place => rfl

lemma quiet_of_isOrderly {e : TerminalEvent} (ho : s.isOrderly em (.terminal e) = true)
    (hcalls : s.calls ≠ []) : s.terminal.IsQuiet em e := by
  unfold isOrderly at ho
  cases heq : s.calls with
  | nil => exact absurd heq hcalls
  | cons call rest =>
    rw [heq] at ho
    have hboth : ((s.terminal.react em e).2.2.isNone && !e.isDispose) = true := by
      cases call <;> exact ho
    rw [Bool.and_eq_true, Option.isNone_iff_eq_none, Bool.not_eq_true'] at hboth
    refine ⟨hboth.1, fun hdispose => ?_⟩
    rw [hdispose] at hboth
    cases hboth.2

lemma react_viewer {v : Viewer σ} {e : TerminalEvent} (hframe : (v.terminal.react em e).2.2 = none) :
    v.react em (.terminal e) =
      ({ v with
          terminal := (v.terminal.react em e).1
          subscription := if (v.terminal.react em e).1.disposed && !v.terminal.disposed then none
            else v.subscription }, []) := by
  rw [Viewer.react, hframe]

lemma refines_quiet (hs : s.Sound em) {e : TerminalEvent} (ho : s.isOrderly em (.terminal e) = true)
    (hframe : (s.terminal.react em e).2.2 = none) : s.Refines em (.terminal e) := by
  have hstill := Terminal.still_react hframe
  have hreact : s.react em (.terminal e) =
      ({ s with
          terminal := (s.terminal.react em e).1
          subscribers := if (s.terminal.react em e).1.disposed && !s.terminal.disposed then []
            else s.subscribers }, (s.terminal.react em e).2.1.map SessionEffect.backend) := by
    show s.onTerminal em e = _
    rw [onTerminal]
    dsimp only
    rw [hframe]
  have hsunk : ∀ number, sunk number ((s.terminal.react em e).2.1.map SessionEffect.backend) = [] := by
    intro number
    rw [sunk, List.filterMap_map]
    exact List.filterMap_eq_nil_iff.2 fun _ _ => rfl
  have hended : (s.terminal.react em e).1.ended = true →
      (s.terminal.react em e).1.endedSeq = (s.terminal.react em e).1.seq := by
    rw [hstill.ended, hstill.endedSeq, hstill.seq]
    exact hs.ended
  rcases hs.calls with ⟨frame, m, place, hcalls, hbroadcast⟩ | ⟨hcalls, hdistinct⟩
  · -- a broadcast runs, and the terminal is not disposed of
    have hquiet := quiet_of_isOrderly ho (by rw [hcalls]; simp)
    have hdisposed : ((s.terminal.react em e).1.disposed && !s.terminal.disposed) = false := by
      rw [Terminal.disposed_react hquiet.2]
      simp
    rw [hdisposed] at hreact
    have hafter : ((s.after frame).react em e).2.2 = none ∧
        ((s.after frame).react em e).1 = { s with terminal := (s.terminal.react em e).1 }.after frame ∧
        (({ s with terminal := (s.terminal.react em e).1 } : Session σ).after frame).disposed =
          (s.after frame).disposed := by
      have hsame : (s.terminal.react em e).1.disposed = s.terminal.disposed :=
        Terminal.disposed_react hquiet.2
      rw [after, after]
      split
      · obtain ⟨hreact', hnone⟩ := Terminal.react_exited hquiet frame.seq
        rw [hreact']
        exact ⟨hnone, rfl, hsame⟩
      · exact ⟨hframe, rfl, hsame⟩
    have hviewer : ∀ number, (s.view em number).react em (.terminal e) =
        (({ s with terminal := (s.terminal.react em e).1 } : Session σ).view em number, []) := by
      intro number
      rw [view_of_broadcast hcalls, react_viewer hafter.1,
        view_of_broadcast (s := { s with terminal := (s.terminal.react em e).1 }) hcalls]
      simp only [viewAt, hafter.2.1, hafter.2.2, Bool.and_not_self, Bool.false_eq_true, if_false]
      rfl
    refine ⟨?_, fun number => ?_, fun number => ?_,
      fun number => stamped_of_nil (by rw [hreact]; exact hsunk number), brings_of_calls (by rw [hreact])⟩
    · rw [hreact]
      exact ⟨hs.numbers, hs.places, hs.bound, hended, Or.inl ⟨frame, m, place, hcalls, hbroadcast.made,
        hbroadcast.reached, hbroadcast.stamped.trans hstill.seq.symm, hstill.ended.trans hbroadcast.live,
        hbroadcast.visited⟩⟩
    · rw [hreact, solo, Viewer.reactTo, hviewer]
      rfl
    · rw [hreact, hsunk, solo, Viewer.reactTo, hviewer, List.nil_append, List.append_nil]
      rfl
  · -- nothing runs, or emissions do, whose frames stay what they are
    have hemissions : ∀ call ∈ s.calls, ∃ k left, call = .emission k left := by
      intro call hcall
      obtain ⟨k, left, heq, -⟩ := hcalls call hcall
      exact ⟨k, left, heq⟩
    have hviewer : ∀ number, (s.view em number).react em (.terminal e) =
        ((s.react em (.terminal e)).1.view em number, []) := by
      intro number
      rw [hreact, view_of_emissions hemissions, react_viewer hframe, view_of_emissions (s := { s with
          terminal := (s.terminal.react em e).1
          subscribers := if (s.terminal.react em e).1.disposed && !s.terminal.disposed then []
            else s.subscribers }) hemissions, sending_still hstill]
      dsimp only [subscriber]
      split <;> rfl
    refine ⟨?_, fun number => ?_, fun number => ?_,
      fun number => stamped_of_nil (by rw [hreact]; exact hsunk number), brings_of_calls (by rw [hreact])⟩
    · rw [hreact]
      refine ⟨?_, ?_, fun sub hsub => hs.bound sub ?_, hended, Or.inr ⟨fun call hcall => ?_, hdistinct⟩⟩
      · dsimp only
        split
        · exact List.Pairwise.nil
        · exact hs.numbers
      · dsimp only
        split
        · exact List.Pairwise.nil
        · exact hs.places
      · dsimp only at hsub
        split at hsub
        · cases hsub
        · exact hsub
      · obtain ⟨k, left, rfl, hemitting⟩ := hcalls call hcall
        obtain ⟨front, closing, hleft, hfront, hclosing⟩ := hemitting.closes
        have hsubs : ∀ sub ∈ (if (s.terminal.react em e).1.disposed && !s.terminal.disposed then []
            else s.subscribers), sub ∈ s.subscribers := by
          intro sub hsub
          split at hsub
          · cases hsub
          · exact hsub
        refine ⟨k, left, rfl, hemitting.made, ⟨front, closing, hleft, hfront, ?_⟩, ?_⟩
        · rcases hclosing with ⟨hsettle, hpaused⟩ | ⟨hregister, hnone⟩
          · exact Or.inl ⟨hsettle, fun sub hsub => hpaused sub (hsubs sub hsub)⟩
          · exact Or.inr ⟨hregister, fun sub hsub => hnone sub (hsubs sub hsub)⟩
        · show ∀ frame ∈ left.flatMap (emitted em (s.terminal.react em e).1), _
          rw [emitted_still hstill]
          intro frame hmem
          obtain ⟨hseq, hlive⟩ := hemitting.stamped frame hmem
          exact ⟨hseq.trans hstill.seq.symm, hlive⟩
    · rw [solo, Viewer.reactTo, hviewer]
    · rw [solo, Viewer.reactTo, hviewer, List.append_nil, lag_of_emissions hemissions, hreact, hsunk]
      exact lag_of_emissions (s := { s with
          terminal := (s.terminal.react em e).1
          subscribers := if (s.terminal.react em e).1.disposed && !s.terminal.disposed then []
            else s.subscribers }) hemissions number

/-- A viewer that is told a frame is one to whom the broadcast comes, or whom it passes. -/
lemma told_view (em : Emulator σ) (hcalls : s.calls = []) (frame : PtyFrame) (number : ℕ) :
    (s.view em number).told frame =
      (s.viewAt number frame 0 false, if s.awaits frame 0 number then [frame] else []) := by
  rw [view_of_emissions (by simp [hcalls]), hcalls, viewAt, after, awaits]
  by_cases hterminal : isTerminal frame = true
  · rw [Viewer.told, if_pos hterminal, if_pos hterminal, if_pos hterminal, hterminal]
    cases s.subscriber number with
    | none => rfl
    | some sub => simp
  · rw [Viewer.told, if_neg hterminal, if_neg hterminal, if_neg hterminal]
    rw [Bool.not_eq_true] at hterminal
    rw [hterminal]
    cases s.subscriber number with
    | none => rfl
    | some sub =>
      cases hpaused : sub.paused with
      | true => simp [Subscriber.kept, Subscriber.keptBehind, hpaused]
      | false => simp [Subscriber.kept, Subscriber.keptBehind, hpaused]

lemma refines_live (hs : s.Sound em) {e : TerminalEvent} (ho : s.isOrderly em (.terminal e) = true)
    {frame : PtyFrame} (hframe : (s.terminal.react em e).2.2 = some frame) : s.Refines em (.terminal e) := by
  obtain ⟨hseq, hnext, -, hopen, hended, hdisposed, -⟩ := Terminal.react_live hframe
  have hcalls : s.calls = [] := by
    by_contra hcalls
    rw [(quiet_of_isOrderly ho hcalls).1] at hframe
    cases hframe
  let s₁ : Session σ := { s with terminal := (s.terminal.react em e).1 }
  have hs₁ : s₁.Sound em := by
    refine ⟨hs.numbers, hs.places, hs.bound, fun hover => ?_, Or.inr ?_⟩
    · rw [show s₁.terminal.ended = false from hended] at hover
      cases hover
    · show (∀ call ∈ s.calls, _) ∧ s.calls.Pairwise _
      rw [hcalls]
      exact ⟨fun call hcall => absurd hcall List.not_mem_nil, List.Pairwise.nil⟩
  have hreact : s.react em (.terminal e) =
      ((s₁.visit frame 0).1, (s.terminal.react em e).2.1.map SessionEffect.backend ++
        (s₁.visit frame 0).2) := by
    show s.onTerminal em e = _
    rw [onTerminal]
    dsimp only
    rw [hframe, hdisposed]
    rfl
  have hsunk : ∀ number, sunk number ((s.terminal.react em e).2.1.map SessionEffect.backend ++
      (s₁.visit frame 0).2) = sunk number (s₁.visit frame 0).2 := by
    intro number
    have hnone : ∀ l : List BackendEffect,
        sunk number (l.map SessionEffect.backend ++ (s₁.visit frame 0).2) =
          sunk number (s₁.visit frame 0).2 := by
      intro l
      induction l with
      | nil => rfl
      | cons effect l ih => exact ih
    exact hnone _
  have hviewer : ∀ number, (s.view em number).react em (.terminal e) =
      (s₁.viewAt number frame 0 false, if s₁.awaits frame 0 number then [frame] else []) := by
    intro number
    rw [← told_view (s := s₁) em hcalls]
    have hterminal : (s.view em number).terminal = s.terminal := by
      rw [view_of_emissions (by simp [hcalls])]
    rw [Viewer.react, hterminal, hframe, hdisposed]
    rw [view_of_emissions (by simp [hcalls]), view_of_emissions (s := s₁) (by simp [s₁, hcalls])]
    have hnosink : s₁.calls = [] := hcalls
    rw [hnosink]
    rfl
  have hbrings : s.Brings em (.terminal e) frame := Or.inl ⟨e, rfl, hframe⟩
  refine ⟨?_, fun number => ?_, fun number => ?_, fun number =>
    stamped_of_visit (hseq.trans hnext.symm) hbrings (by rw [hreact]) (by rw [hreact]; exact hsunk number),
    brings_of_visit (t := s₁) hcalls hbrings (by rw [hreact])⟩
  · rw [hreact]
    exact hs₁.visit hcalls (hseq.trans hnext.symm) hended
  · rw [hreact, solo, Viewer.reactTo, hviewer]
    exact (view_visit hs₁ hcalls frame 0 number (Nat.zero_le _)).1
  · rw [hreact, hsunk, solo, Viewer.reactTo, hviewer, lag_of_emissions (s := s) (by simp [hcalls]),
      List.nil_append]
    exact (view_visit hs₁ hcalls frame 0 number (Nat.zero_le _)).2

lemma calls_emit (hcalls : ∀ call ∈ s.calls, ∃ k left, call = .emission k left) {left : List Emit}
    (hleft : s.Emitting em m left) : ∀ call ∈ (s.emit em m left).1.calls, ∃ k left, call = .emission k left := by
  obtain ⟨front, closing, rfl, hfront, hclosing⟩ := hleft.closes
  rw [emit]
  rcases advance_eq em s m hfront (hclosing.imp And.left And.left) with
    ⟨-, hadvance⟩ | ⟨frame, front', -, -, hadvance⟩
  · rw [hadvance]
    intro call hcall
    refine hcalls call ?_
    rcases hclosing with ⟨rfl, -⟩ | ⟨⟨flow, rfl⟩, -⟩ <;> exact hcall
  · rw [hadvance]
    intro call hcall
    rcases List.mem_cons.1 hcall with rfl | hcall
    · exact ⟨m, _, rfl⟩
    · exact hcalls call hcall

lemma emissions_of_isOrderly (hs : s.Sound em) {e : SessionEvent} (ho : s.isOrderly em e = true)
    (he : (∃ flow, e = .subscribe flow) ∨ ∃ number, e = .drain number) :
    (∀ call ∈ s.calls, ∃ k left, call = .emission k left ∧ s.Emitting em k left) ∧
      s.calls.Pairwise fun a b => a.number ≠ b.number := by
  rcases hs.calls with ⟨frame, m, place, hcalls, -⟩ | hemissions
  · unfold isOrderly at ho
    rw [hcalls] at ho
    rcases he with ⟨flow, rfl⟩ | ⟨number, rfl⟩ <;> cases ho
  · exact hemissions

lemma refines_subscribe (hs : s.Sound em) {flow : Bool} (ho : s.isOrderly em (.subscribe flow) = true) :
    s.Refines em (.subscribe flow) := by
  obtain ⟨hcalls, hdistinct⟩ := emissions_of_isOrderly hs ho (Or.inl ⟨flow, rfl⟩)
  have hemissions : ∀ call ∈ s.calls, ∃ k left, call = .emission k left := by
    intro call hcall
    obtain ⟨k, left, heq, -⟩ := hcalls call hcall
    exact ⟨k, left, heq⟩
  by_cases hdisposed : s.terminal.disposed = true
  · have hreact : s.react em (.subscribe flow) = (s, []) := if_pos hdisposed
    have hsolo : ∀ number, s.solo number (.subscribe flow) = none := by
      intro number
      rw [solo, if_neg (by simp [hdisposed])]
    refine ⟨by rw [hreact]; exact hs, fun number => ?_, fun number => ?_,
      fun number => stamped_of_nil (by rw [hreact]; rfl), brings_of_calls (by rw [hreact])⟩
    · rw [hreact, hsolo]
      rfl
    · rw [hreact, hsolo, Viewer.reactTo, List.append_nil]
      rfl
  · let s₁ : Session σ := { s with made := s.made + 1 }
    have hfresh : ∀ call ∈ s₁.calls, call.number ≠ s.made := by
      intro call hcall
      obtain ⟨k, left, rfl, hemitting⟩ := hcalls call hcall
      exact hemitting.made.ne
    have hs₁ : s₁.Sound em := by
      refine ⟨hs.numbers, hs.places, fun sub hsub => ?_, hs.ended, Or.inr ⟨fun call hcall => ?_, hdistinct⟩⟩
      · exact ⟨(hs.bound sub hsub).1.trans (Nat.lt_succ_self _), (hs.bound sub hsub).2⟩
      · obtain ⟨k, left, rfl, hemitting⟩ := hcalls call hcall
        exact ⟨k, left, rfl, hemitting.mono rfl (Nat.le_succ _) fun _ hsub _ => hsub⟩
    have hleft : s₁.Emitting em s.made [.snapshot, .ended, .register flow] := by
      refine ⟨Nat.lt_succ_self _, ⟨[.snapshot, .ended], .register flow, rfl, by simp, Or.inr ⟨⟨flow, rfl⟩,
        fun sub hsub => (hs.bound sub hsub).1.ne⟩⟩, fun frame hframe => ?_⟩
      rcases List.mem_append.1 hframe with hframe | hframe
      · exact s.terminal.stamped_snapshot frame hframe
      · rcases List.mem_append.1 hframe with hframe | hframe
        · rw [emitted] at hframe
          split at hframe
          · next hended =>
            rw [List.mem_singleton.1 hframe]
            have hstamped := s.terminal.stamped_frameAt s.terminal.endedSeq (encodeExitPayload none)
              (show PtyOpcode.ended ≠ PtyOpcode.output by decide) (by decide)
            exact ⟨hs.ended hended, hstamped.2⟩
          · cases hframe
        · cases hframe
    have hreact : s.react em (.subscribe flow) = s₁.emit em s.made [.snapshot, .ended, .register flow] :=
      if_neg hdisposed
    have hview := view_emit (s := s₁) hemissions hfresh hleft
    have hviewer : ∀ number, ((s.react em (.subscribe flow)).1.view em number,
        sunk number (s.react em (.subscribe flow)).2) =
          (s.view em number).reactTo em (s.solo number (.subscribe flow)) := by
      intro number
      rw [hreact, hview number, solo]
      by_cases hnumber : number = s.made
      · rw [if_pos hnumber, if_pos ⟨hnumber.symm, by simpa using hdisposed⟩, Viewer.reactTo, Viewer.react,
          view_of_emissions hemissions, view_of_emissions (s := s₁) hemissions, if_neg (by simp [hnumber, hdisposed])]
        have hmade : decide (number < s₁.made) = true := decide_eq_true (by rw [hnumber]; exact Nat.lt_succ_self _)
        rw [hmade]
        simp [emitted, List.flatMap_cons]
        rfl
      · rw [if_neg hnumber, if_neg (fun h => hnumber h.1.symm), Viewer.reactTo,
          view_of_emissions hemissions, view_of_emissions (s := s₁) hemissions]
        have hmade : decide (number < s₁.made) = decide (number < s.made) :=
          decide_eq_decide.2 (by show number < s.made + 1 ↔ _; omega)
        rw [hmade]
        rfl
    refine ⟨?_, fun number => congrArg Prod.fst (hviewer number), fun number => ?_,
      stamped_of_emit (t := s₁) hemissions hfresh hleft hreact,
      brings_of_emissions (by rw [hreact]; exact calls_emit (s := s₁) hemissions hleft)⟩
    · rw [hreact]
      exact hs₁.emit (fun call hcall => by
        obtain ⟨k, left, rfl, hemitting⟩ := hcalls call hcall
        exact ⟨k, left, rfl, hemitting.mono rfl (Nat.le_succ _) fun _ hsub _ => hsub⟩) hdistinct hfresh hleft
    · have hlag : (s.react em (.subscribe flow)).1.lag number = [] := by
        rw [hreact]
        exact lag_of_emissions (calls_emit (s := s₁) hemissions hleft) number
      rw [hlag, List.append_nil, lag_of_emissions hemissions, List.nil_append]
      exact congrArg Prod.snd (hviewer number)

lemma subscriber_filter (m number : ℕ) :
    ({ s with subscribers := s.subscribers.filter (·.number ≠ m) } : Session σ).subscriber number =
      if number = m then none else s.subscriber number := by
  rw [subscriber, List.find?_filter]
  by_cases hnumber : number = m
  · rw [if_pos hnumber, List.find?_eq_none]
    intro sub _
    rw [hnumber]
    simp
  · rw [if_neg hnumber, subscriber]
    congr 1
    funext sub
    by_cases hsub : sub.number = number
    · simp [hsub, hnumber]
    · simp [hsub]

lemma refines_unsubscribe (hs : s.Sound em) {k : ℕ} (ho : s.isOrderly em (.unsubscribe k) = true) :
    s.Refines em (.unsubscribe k) := by
  let s₁ : Session σ := { s with subscribers := s.subscribers.filter (·.number ≠ k) }
  have hreact : s.react em (.unsubscribe k) = (s₁, []) := rfl
  have hsub : ∀ number, s₁.subscriber number = if number = k then none else s.subscriber number :=
    fun number => subscriber_filter k number
  have hmem : ∀ sub ∈ s₁.subscribers, sub ∈ s.subscribers := fun sub h => (List.mem_filter.1 h).1
  have hsound : s₁.Sound em := by
    refine ⟨hs.numbers.filter _, hs.places.filter _, fun sub h => hs.bound sub (hmem sub h), hs.ended, ?_⟩
    rcases hs.calls with ⟨frame, m, place, hcalls, hbroadcast⟩ | ⟨hcalls, hdistinct⟩
    · exact Or.inl ⟨frame, m, place, hcalls, hbroadcast.made, hbroadcast.reached, hbroadcast.stamped,
        hbroadcast.live, fun sub h => hbroadcast.visited sub (hmem sub h)⟩
    · refine Or.inr ⟨fun call hcall => ?_, hdistinct⟩
      obtain ⟨m, left, rfl, hemitting⟩ := hcalls call hcall
      exact ⟨m, left, rfl, hemitting.mono rfl le_rfl fun sub h _ => hmem sub h⟩
  rcases hs.calls with ⟨frame, m, place, hcalls, hbroadcast⟩ | ⟨hcalls, -⟩
  · have hnot : s.awaits frame place k = false := by
      unfold isOrderly at ho
      rw [hcalls] at ho
      simpa using ho
    have hawaits : ∀ number, s₁.awaits frame place number = s.awaits frame place number := by
      intro number
      rw [awaits, hsub]
      by_cases hnumber : number = k
      · rw [if_pos hnumber, hnumber, hnot]
        rfl
      · rw [if_neg hnumber]
        rfl
    refine ⟨hsound, fun number => ?_, fun number => ?_, fun number => stamped_of_nil rfl,
      brings_of_calls rfl⟩
    · rw [hreact, solo, view_of_broadcast (s := s₁) hcalls, view_of_broadcast hcalls, viewAt, viewAt, hawaits, hsub]
      by_cases hnumber : number = k
      · rw [if_pos hnumber, if_pos hnumber.symm, Viewer.reactTo, Viewer.react, Option.map_none, ite_self]
        rfl
      · rw [if_neg hnumber, if_neg (Ne.symm hnumber)]
        rfl
    · rw [hreact, solo, lag_of_broadcast (s := s₁) hcalls, lag_of_broadcast hcalls, hawaits]
      by_cases hnumber : number = k
      · rw [if_pos hnumber.symm, Viewer.reactTo, Viewer.react, List.append_nil]
        rfl
      · rw [if_neg (Ne.symm hnumber), Viewer.reactTo, List.append_nil]
        rfl
  · have hemissions : ∀ call ∈ s.calls, ∃ k left, call = .emission k left := by
      intro call hcall
      obtain ⟨m, left, heq, -⟩ := hcalls call hcall
      exact ⟨m, left, heq⟩
    refine ⟨hsound, fun number => ?_, fun number => ?_, fun number => stamped_of_nil rfl,
      brings_of_calls rfl⟩
    · rw [hreact, solo, view_of_emissions (s := s₁) hemissions, view_of_emissions hemissions, hsub]
      by_cases hnumber : number = k
      · rw [if_pos hnumber, if_pos hnumber.symm]
        rfl
      · rw [if_neg hnumber, if_neg (Ne.symm hnumber)]
        rfl
    · rw [hreact, solo, lag_of_emissions (s := s₁) hemissions, lag_of_emissions hemissions]
      by_cases hnumber : number = k
      · rw [if_pos hnumber.symm]
        rfl
      · rw [if_neg (Ne.symm hnumber)]
        rfl

lemma refines_drain (hs : s.Sound em) {k : ℕ} (ho : s.isOrderly em (.drain k) = true) :
    s.Refines em (.drain k) := by
  obtain ⟨hcalls, hdistinct⟩ := emissions_of_isOrderly hs ho (Or.inr ⟨k, rfl⟩)
  have hemissions : ∀ call ∈ s.calls, ∃ k left, call = .emission k left := by
    intro call hcall
    obtain ⟨k, left, heq, -⟩ := hcalls call hcall
    exact ⟨k, left, heq⟩
  have hsame : s.react em (.drain k) = (s, []) → (∀ number, number = k →
      (s.view em number).react em (.drain 0) = (s.view em number, [])) → s.Refines em (.drain k) := by
    intro hreact hviewer
    refine ⟨by rw [hreact]; exact hs, fun number => ?_, fun number => ?_,
      fun number => stamped_of_nil (by rw [hreact]; rfl), brings_of_calls (by rw [hreact])⟩
    · rw [hreact, solo]
      by_cases hnumber : number = k
      · rw [if_pos hnumber.symm, Viewer.reactTo, hviewer number hnumber]
      · rw [if_neg (Ne.symm hnumber)]
        rfl
    · rw [hreact, solo]
      by_cases hnumber : number = k
      · rw [if_pos hnumber.symm, Viewer.reactTo, hviewer number hnumber, List.append_nil]
        rfl
      · rw [if_neg (Ne.symm hnumber), Viewer.reactTo, List.append_nil]
        rfl
  cases hsub : s.subscriber k with
  | none =>
    refine hsame ?_ fun number hnumber => ?_
    · show s.resume em k = _
      rw [resume, hsub]
    · rw [view_of_emissions hemissions, hnumber, hsub]
      rfl
  | some sub =>
    obtain ⟨hmem, hself⟩ := mem_of_subscriber hsub
    cases hpaused : sub.paused with
    | false =>
      refine hsame ?_ fun number hnumber => ?_
      · show s.resume em k = _
        rw [resume, hsub]
        dsimp only
        rw [if_pos (by rw [hpaused]; rfl)]
      · rw [view_of_emissions hemissions, hnumber, hsub, Viewer.react]
        dsimp only [Option.map_some, Subscriber.kept]
        rw [if_pos (by rw [hpaused]; rfl)]
    | true =>
      let s₁ : Session σ := s.onSubscriber k fun sub =>
        { sub with
          paused := false
          missed := false }
      have hchange : ∀ other : Subscriber, (if other.number = k then
          { other with paused := false, missed := false } else other).number = other.number ∧
          (if other.number = k then { other with paused := false, missed := false } else other).place =
            other.place := by
        intro other
        split <;> exact ⟨rfl, rfl⟩
      have hsub₁ : ∀ number, s₁.subscriber number = if number = k then (s.subscriber number).map fun sub =>
          { sub with paused := false, missed := false } else s.subscriber number :=
        fun number => subscriber_onSubscriber k number fun _ => rfl
      have hfresh : ∀ call ∈ s₁.calls, call.number ≠ k := by
        intro call hcall hnumber
        obtain ⟨m, left, rfl, hemitting⟩ := hcalls call hcall
        obtain ⟨front, closing, -, -, ⟨-, hnotpaused⟩ | ⟨-, hnotthere⟩⟩ := hemitting.closes
        · rw [hnotpaused sub hmem (hself.trans hnumber.symm)] at hpaused
          cases hpaused
        · exact hnotthere sub hmem (hself.trans hnumber.symm)
      have hothers : ∀ call ∈ s₁.calls, ∃ m left, call = .emission m left ∧ s₁.Emitting em m left := by
        intro call hcall
        obtain ⟨m, left, rfl, hemitting⟩ := hcalls call hcall
        refine ⟨m, left, rfl, hemitting.mono rfl le_rfl fun other hother hnumber => ?_⟩
        obtain ⟨other', hother', rfl⟩ := List.mem_map.1 hother
        rw [(hchange other').1] at hnumber
        rw [if_neg (by rw [hnumber]; exact hfresh _ hcall)]
        exact hother'
      have hs₁ : s₁.Sound em := by
        obtain ⟨hnumbers, hplaces, hbound⟩ := hs.mapped hchange
        exact ⟨hnumbers, hplaces, hbound, hs.ended, Or.inr ⟨hothers, hdistinct⟩⟩
      have hresume : s.react em (.drain k) =
          if !sub.missed then (s₁, []) else s₁.emit em k [.frame s.terminal.gap, .snapshot, .settle] := by
        show s.resume em k = _
        rw [resume, hsub]
        dsimp only
        rw [if_neg (by rw [hpaused]; decide)]
        rfl
      have hhealed : s₁.view em k = { s.view em k with subscription := some ⟨sub.flow, false, false⟩ } := by
        rw [view_of_emissions (s := s₁) hemissions, view_of_emissions hemissions, hsub₁, if_pos rfl, hsub]
        rfl
      have hothers₁ : ∀ number, number ≠ k → s₁.view em number = s.view em number := by
        intro number hnumber
        rw [view_of_emissions (s := s₁) hemissions, view_of_emissions hemissions, hsub₁, if_neg hnumber]
        rfl
      have hdrains : (s.view em k).react em (.drain 0) =
          if !sub.missed then (s₁.view em k, [])
          else (s₁.view em k).send (some .settle) (s.terminal.gap :: s.terminal.snapshot em) := by
        rw [hhealed, view_of_emissions hemissions, hsub, Viewer.react]
        dsimp only [Option.map_some, Subscriber.kept]
        rw [if_neg (by rw [hpaused]; decide)]
      cases hmissed : sub.missed with
      | false =>
        have hreact : s.react em (.drain k) = (s₁, []) := by
          rw [hresume, hmissed]
          rfl
        have hviewer : (s.view em k).react em (.drain 0) = (s₁.view em k, []) := by
          rw [hdrains, hmissed]
          rfl
        refine ⟨by rw [hreact]; exact hs₁, fun number => ?_, fun number => ?_,
          fun number => stamped_of_nil (by rw [hreact]; rfl), brings_of_calls (by rw [hreact]; rfl)⟩
        · rw [hreact, solo]
          by_cases hnumber : number = k
          · rw [if_pos hnumber.symm, Viewer.reactTo, hnumber, hviewer]
          · rw [if_neg (Ne.symm hnumber), Viewer.reactTo, hothers₁ number hnumber]
        · rw [hreact, solo, lag_of_emissions (s := s₁) hemissions, lag_of_emissions hemissions]
          by_cases hnumber : number = k
          · rw [if_pos hnumber.symm, Viewer.reactTo, hnumber, hviewer]
            rfl
          · rw [if_neg (Ne.symm hnumber)]
            rfl
      | true =>
        have hreact : s.react em (.drain k) = s₁.emit em k [.frame s.terminal.gap, .snapshot, .settle] := by
          rw [hresume, hmissed]
          rfl
        have hviewer : (s.view em k).react em (.drain 0) =
            (s₁.view em k).send (some .settle) (s.terminal.gap :: s.terminal.snapshot em) := by
          rw [hdrains, hmissed]
          rfl
        have hleft : s₁.Emitting em k [.frame s.terminal.gap, .snapshot, .settle] := by
          refine ⟨?_, ⟨[.frame s.terminal.gap, .snapshot], .settle, rfl, by simp, Or.inl ⟨rfl, ?_⟩⟩, ?_⟩
          · rw [← hself]
            exact (hs.bound sub hmem).1
          · intro other hother hnumber
            obtain ⟨other', -, rfl⟩ := List.mem_map.1 hother
            rw [(hchange other').1] at hnumber
            rw [if_pos hnumber]
          · intro frame hframe
            rcases List.mem_append.1 hframe with hframe | hframe
            · rw [List.mem_singleton.1 hframe]
              exact s.terminal.stamped_frameAt _ _ (by decide) (by decide)
            · rcases List.mem_append.1 hframe with hframe | hframe
              · exact s.terminal.stamped_snapshot frame hframe
              · cases hframe
        have hview := view_emit (s := s₁) hemissions hfresh hleft
        have hboth : ∀ number, ((s.react em (.drain k)).1.view em number,
            sunk number (s.react em (.drain k)).2) =
              (s.view em number).reactTo em (s.solo number (.drain k)) := by
          intro number
          rw [hreact, hview number, solo]
          by_cases hnumber : number = k
          · rw [if_pos hnumber, if_pos hnumber.symm, Viewer.reactTo, hnumber, hviewer]
            simp [emitted, List.flatMap_cons]
            rfl
          · rw [if_neg hnumber, if_neg (Ne.symm hnumber), Viewer.reactTo, hothers₁ number hnumber]
        refine ⟨?_, fun number => congrArg Prod.fst (hboth number), fun number => ?_,
          stamped_of_emit (t := s₁) hemissions hfresh hleft hreact,
          brings_of_emissions (by rw [hreact]; exact calls_emit (s := s₁) hemissions hleft)⟩
        · rw [hreact]
          exact hs₁.emit hothers hdistinct hfresh hleft
        · have hlag : (s.react em (.drain k)).1.lag number = [] := by
            rw [hreact]
            exact lag_of_emissions (calls_emit (s := s₁) hemissions hleft) number
          rw [hlag, List.append_nil, lag_of_emissions hemissions, List.nil_append]
          exact congrArg Prod.snd (hboth number)

lemma solo_returned {call : SinkCall} {rest : List SinkCall} (hcalls : s.calls = call :: rest)
    (number : ℕ) : s.solo number .returned = if call.number = number then some .returned else none := by
  rw [solo, hcalls]
  simp

lemma refines_returned (hs : s.Sound em) : s.Refines em .returned := by
  rcases hs.calls with ⟨frame, m, place, hcalls, hbroadcast⟩ | ⟨hcalls, hdistinct⟩
  · let s₁ : Session σ := { s with calls := [] }
    let s₂ : Session σ := if isTerminal frame then s₁ else s₁.pauseFull m
    have hfull : ∀ sub : Subscriber,
        ((if sub.flow && !s₁.writable m then { sub with paused := true } else sub).number = sub.number ∧
          (if sub.flow && !s₁.writable m then { sub with paused := true } else sub).place = sub.place) := by
      intro sub
      split <;> exact ⟨rfl, rfl⟩
    have hsub₂ : isTerminal frame = false → ∀ number, s₂.subscriber number = if number = m then
        (s.subscriber number).map fun sub =>
          if sub.flow && !s.writable m then { sub with paused := true } else sub
        else s.subscriber number := by
      intro hlive number
      have hs₂ : s₂ = s₁.pauseFull m := if_neg (by rw [hlive]; decide)
      rw [hs₂, pauseFull, subscriber_onSubscriber m number fun sub => (hfull sub).1]
      rfl
    have hterminal₂ : isTerminal frame = true → s₂ = s₁ := fun hterminal => if_pos hterminal
    have hkept₂ : s₂.terminal = s.terminal ∧ s₂.calls = [] ∧ s₂.made = s.made ∧ s₂.places = s.places ∧
        s₂.writable = s.writable := by
      show (if isTerminal frame then s₁ else s₁.pauseFull m).terminal = _ ∧ _
      dsimp only [s₂]
      split <;> exact ⟨rfl, rfl, rfl, rfl, rfl⟩
    obtain ⟨hterminal, hnocalls, hmade, hplaces, hwritable⟩ := hkept₂
    have hs₁ : s₁.Sound em := ⟨hs.numbers, hs.places, hs.bound, hs.ended,
      Or.inr ⟨fun call hcall => absurd hcall List.not_mem_nil, List.Pairwise.nil⟩⟩
    have hs₂ : s₂.Sound em := by
      dsimp only [s₂]
      split
      · exact hs₁
      · exact hs₁.closed (fun call hcall => absurd hcall List.not_mem_nil) List.Pairwise.nil
          (fun call hcall => absurd hcall List.not_mem_nil) hbroadcast.made (Or.inl rfl)
    have hreact : s.react em .returned = s₂.visit frame place := by
      show s.onReturned em = _
      rw [onReturned, hcalls]
    have hvisit := fun number => view_visit hs₂ hnocalls frame place number (hplaces ▸ hbroadcast.reached)
    have hafter : s₂.after frame = s.after frame := by rw [after, after, hterminal]
    have hvisited : ∀ number, number = m → s₂.awaits frame place number = false ∧
        s.awaits frame place number = false := by
      rintro number rfl
      have hnot : ∀ sub, s.subscriber number = some sub → ¬ place ≤ sub.place := by
        intro sub hsub
        obtain ⟨hmem, hnumber⟩ := mem_of_subscriber hsub
        have hlt := hbroadcast.visited sub hmem hnumber
        omega
      have hsame : ∀ t : Session σ, (∀ sub, t.subscriber number = some sub → ¬ place ≤ sub.place) →
          t.awaits frame place number = false := by
        intro t ht
        rw [← Bool.not_eq_true, awaits_eq_true]
        rintro ⟨sub, hsub, hle, -⟩
        exact ht sub hsub hle
      refine ⟨hsame s₂ fun sub hsub => ?_, hsame s hnot⟩
      cases hterm : isTerminal frame with
      | true =>
        rw [hterminal₂ hterm] at hsub
        exact hnot sub hsub
      | false =>
        rw [hsub₂ hterm, if_pos rfl] at hsub
        obtain ⟨sub', hsub', rfl⟩ := Option.map_eq_some_iff.1 hsub
        have hplace := (hfull sub').2
        rw [show (if sub'.flow && !s.writable number then { sub' with paused := true } else sub').place =
          sub'.place from hplace]
        exact hnot sub' hsub'
    have hothers : ∀ number, number ≠ m → s₂.subscriber number = s.subscriber number := by
      intro number hnumber
      cases hterm : isTerminal frame with
      | true =>
        rw [hterminal₂ hterm]
        rfl
      | false => rw [hsub₂ hterm, if_neg hnumber]
    have hown : ∀ number, number = m → (s.view em number).react em .returned =
        (s₂.viewAt number frame place false, []) := by
      intro number hnumber
      obtain ⟨hawaits₂, hawaits⟩ := hvisited number hnumber
      rw [view_of_broadcast hcalls, decide_eq_true hnumber.symm, viewAt, viewAt, hawaits₂, hafter, hwritable, hmade,
        Viewer.react]
      cases hterm : isTerminal frame with
      | true => rfl
      | false =>
        rw [hsub₂ hterm, if_pos hnumber]
        cases hsub : s.subscriber number with
        | none => rfl
        | some sub =>
          have hnot : ¬ place ≤ sub.place := by
            obtain ⟨hmem, hself⟩ := mem_of_subscriber hsub
            have hlt := hbroadcast.visited sub hmem (hself.trans hnumber)
            omega
          subst hnumber
          simp only [Option.map_some, Viewer.pauseFull, Subscriber.keptBehind, Bool.true_or, if_true,
            Bool.false_eq_true, if_false, decide_eq_false hnot, Bool.and_false, Bool.or_false]
          split <;> simp [hnot]
    have hbrings : s.Brings em .returned frame := Or.inr ⟨m, place, [], hcalls⟩
    refine ⟨?_, fun number => ?_, fun number => ?_, fun number =>
      stamped_of_visit (hbroadcast.stamped.trans (by rw [hterminal])) hbrings (by rw [hreact]) (by rw [hreact]),
      brings_of_visit hnocalls hbrings (by rw [hreact])⟩
    · rw [hreact]
      exact hs₂.visit hnocalls (hbroadcast.stamped.trans (by rw [hterminal])) (by rw [hterminal]; exact hbroadcast.live)
    · rw [hreact, (hvisit number).1, solo_returned hcalls]
      by_cases hnumber : number = m
      · have hself : (SinkCall.broadcast frame m place).number = number := hnumber.symm
        rw [if_pos hself, Viewer.reactTo, hown number hnumber]
      · have hother : (SinkCall.broadcast frame m place).number ≠ number := Ne.symm hnumber
        rw [if_neg hother, Viewer.reactTo, view_of_broadcast hcalls, decide_eq_false (Ne.symm hnumber), viewAt,
          viewAt, awaits, awaits, hothers number hnumber, hafter, hwritable, hmade]
    · rw [hreact, (hvisit number).2, solo_returned hcalls, lag_of_broadcast hcalls]
      by_cases hnumber : number = m
      · obtain ⟨hawaits₂, hawaits⟩ := hvisited number hnumber
        have hself : (SinkCall.broadcast frame m place).number = number := hnumber.symm
        rw [if_pos hself, Viewer.reactTo, hown number hnumber, hawaits₂, hawaits]
        rfl
      · have hother : (SinkCall.broadcast frame m place).number ≠ number := Ne.symm hnumber
        rw [if_neg hother, Viewer.reactTo, awaits, awaits, hothers number hnumber, List.append_nil]
  · have hemissions : ∀ call ∈ s.calls, ∃ k left, call = .emission k left := by
      intro call hcall
      obtain ⟨m, left, heq, -⟩ := hcalls call hcall
      exact ⟨m, left, heq⟩
    cases hc : s.calls with
    | nil =>
      have hreact : s.react em .returned = (s, []) := by
        show s.onReturned em = _
        rw [onReturned, hc]
      have hsolo : ∀ number, s.solo number .returned = none := by
        intro number
        rw [solo, hc]
        rfl
      refine ⟨by rw [hreact]; exact hs, fun number => ?_, fun number => ?_,
        fun number => stamped_of_nil (by rw [hreact]; rfl), brings_of_calls (by rw [hreact])⟩
      · rw [hreact, hsolo]
        rfl
      · rw [hreact, hsolo, Viewer.reactTo, List.append_nil]
        rfl
    | cons call rest =>
      obtain ⟨m, left, rfl, hleft⟩ := hcalls call (by rw [hc]; exact List.mem_cons_self)
      let s₁ : Session σ := { s with calls := rest }
      rw [hc] at hdistinct
      obtain ⟨hothers, hrest⟩ := List.pairwise_cons.1 hdistinct
      have hfresh : ∀ call ∈ s₁.calls, call.number ≠ m := fun call hcall => (hothers call hcall).symm
      have hrestcalls : ∀ call ∈ s₁.calls, ∃ k left, call = .emission k left ∧ s₁.Emitting em k left := by
        intro call hcall
        obtain ⟨k, left, heq, hemitting⟩ := hcalls call (by rw [hc]; exact List.mem_cons_of_mem _ hcall)
        exact ⟨k, left, heq, hemitting.mono rfl le_rfl fun _ hsub _ => hsub⟩
      have hrestemissions : ∀ call ∈ s₁.calls, ∃ k left, call = .emission k left := by
        intro call hcall
        obtain ⟨k, left, heq, -⟩ := hrestcalls call hcall
        exact ⟨k, left, heq⟩
      have hs₁ : s₁.Sound em := ⟨hs.numbers, hs.places, hs.bound, hs.ended, Or.inr ⟨hrestcalls, hrest⟩⟩
      have hleft₁ : s₁.Emitting em m left := hleft.mono rfl le_rfl fun _ hsub _ => hsub
      have hreact : s.react em .returned = s₁.emit em m left := by
        show s.onReturned em = _
        rw [onReturned, hc]
      have hview := view_emit (s := s₁) hrestemissions hfresh hleft₁
      have hboth : ∀ number, ((s.react em .returned).1.view em number,
          sunk number (s.react em .returned).2) =
            (s.view em number).reactTo em (s.solo number .returned) := by
        intro number
        rw [hreact, hview number, solo_returned hc, view_of_emissions hemissions, hc, List.findSome?_cons,
          SinkCall.sending, view_of_emissions hrestemissions]
        by_cases hnumber : number = m
        · have hself : (SinkCall.emission m left).number = number := hnumber.symm
          rw [if_pos hnumber, if_pos hnumber.symm, if_pos hself, Viewer.reactTo, Viewer.react, hnumber,
            sending_eq_none hfresh]
          rfl
        · have hother : (SinkCall.emission m left).number ≠ number := Ne.symm hnumber
          rw [if_neg hnumber, if_neg (Ne.symm hnumber), if_neg hother]
          rfl
      refine ⟨?_, fun number => congrArg Prod.fst (hboth number), fun number => ?_,
        stamped_of_emit (t := s₁) hrestemissions hfresh hleft₁ hreact,
        brings_of_emissions (by rw [hreact]; exact calls_emit (s := s₁) hrestemissions hleft₁)⟩
      · rw [hreact]
        exact hs₁.emit hrestcalls hrest hfresh hleft₁
      · have hlag : (s.react em .returned).1.lag number = [] := by
          rw [hreact]
          exact lag_of_emissions (calls_emit (s := s₁) hrestemissions hleft₁) number
        rw [hlag, List.append_nil, lag_of_emissions hemissions, List.nil_append]
        exact congrArg Prod.snd (hboth number)

lemma refines_turn (hs : s.Sound em) (k : ℕ) (writable : Bool) : s.Refines em (.turn k writable) := by
  let s₁ : Session σ := { s with writable := Function.update s.writable k writable }
  have hreact : s.react em (.turn k writable) = (s₁, []) := rfl
  have hwritable : ∀ number, s₁.writable number = if number = k then writable else s.writable number := by
    intro number
    show Function.update s.writable k writable number = _
    by_cases hnumber : number = k
    · rw [hnumber, Function.update_self, if_pos rfl]
    · rw [Function.update_of_ne hnumber, if_neg hnumber]
  have hview : ∀ number, s₁.view em number = { s.view em number with writable := s₁.writable number } := by
    intro number
    unfold view
    show (match s.calls with
      | .broadcast frame m place :: _ => s₁.viewAt number frame place (decide (m = number))
      | calls => _) = _
    split <;> rfl
  have hboth : ∀ number, (s₁.view em number, ([] : List PtyFrame)) =
      (s.view em number).reactTo em (s.solo number (.turn k writable)) := by
    intro number
    rw [hview, hwritable, solo]
    by_cases hnumber : number = k
    · rw [if_pos hnumber, if_pos hnumber.symm]
      rfl
    · rw [if_neg hnumber, if_neg (Ne.symm hnumber), Viewer.reactTo]
      unfold view
      split <;> rfl
  refine ⟨?_, fun number => congrArg Prod.fst (hboth number), fun number => ?_,
    fun number => stamped_of_nil rfl, brings_of_calls rfl⟩
  · rw [hreact]
    refine ⟨hs.numbers, hs.places, hs.bound, hs.ended, ?_⟩
    rcases hs.calls with ⟨frame, m, place, hcalls, hbroadcast⟩ | ⟨hcalls, hdistinct⟩
    · exact Or.inl ⟨frame, m, place, hcalls, hbroadcast.made, hbroadcast.reached, hbroadcast.stamped,
        hbroadcast.live, hbroadcast.visited⟩
    · refine Or.inr ⟨fun call hcall => ?_, hdistinct⟩
      obtain ⟨m, left, heq, hemitting⟩ := hcalls call hcall
      exact ⟨m, left, heq, hemitting.mono rfl le_rfl fun _ hsub _ => hsub⟩
  · rw [← hboth number, List.append_nil]
    rfl

lemma refines (hs : s.Sound em) {e : SessionEvent} (ho : s.isOrderly em e = true) : s.Refines em e := by
  cases e with
  | terminal e =>
    cases hframe : (s.terminal.react em e).2.2 with
    | none => exact refines_quiet hs ho hframe
    | some frame => exact refines_live hs ho hframe
  | subscribe flow => exact refines_subscribe hs ho
  | unsubscribe number => exact refines_unsubscribe hs ho
  | drain number => exact refines_drain hs ho
  | returned => exact refines_returned hs
  | threw =>
    have hcalls : s.calls = [] := by
      unfold isOrderly at ho
      cases hc : s.calls with
      | nil => rfl
      | cons call rest =>
        rw [hc] at ho
        cases call <;> cases ho
    have hreact : s.react em .threw = (s, []) := by
      show ({ s with calls := s.calls.tail }, []) = _
      rw [hcalls, List.tail_nil, ← hcalls]
    refine ⟨by rw [hreact]; exact hs, fun number => by rw [hreact]; rfl, fun number => ?_,
      fun number => stamped_of_nil rfl, brings_of_calls (by rw [hreact])⟩
    rw [hreact, solo, Viewer.reactTo, List.append_nil]
    rfl
  | turn number writable => exact refines_turn hs number writable

end Session

/-! ## Runs -/

variable (em) (streamId : ℕ) (size : Size)

/-- The frames that a subscription gets over a run. -/
def framesTo (number : ℕ) (es : List SessionEvent) : List PtyFrame :=
  sunk number ((sessionMachine em streamId size).outputs (fun s e => (s.react em e).2) es)

/-- The run of a subscriber that is alone. -/
def soloRun (number : ℕ) (es : List SessionEvent) : List SessionEvent :=
  (sessionMachine em streamId size).outputs (fun s e => (s.solo number e).toList) es

/-- The frames that a viewer gets over a run. -/
def viewerFrames (es : List SessionEvent) : List PtyFrame :=
  (viewerMachine em streamId size).outputs (fun v e => (v.react em e).2) es

/-- The live frames of a run. -/
def liveFrames (es : List SessionEvent) : List PtyFrame :=
  (sessionMachine em streamId size).outputs (fun s e =>
    match e with
    | .terminal e => (s.terminal.react em e).2.2.toList
    | _ => []) es

variable {em streamId size}

lemma framesTo_snoc (number : ℕ) (es : List SessionEvent) (e : SessionEvent) :
    framesTo em streamId size number (es ++ [e]) = framesTo em streamId size number es ++
      sunk number (((sessionMachine em streamId size).run es).react em e).2 := by
  rw [framesTo, Machine.outputs_snoc, sunk, List.filterMap_append]
  rfl

lemma viewerFrames_snoc (es : List SessionEvent) (e : SessionEvent) :
    viewerFrames em streamId size (es ++ [e]) = viewerFrames em streamId size es ++
      (((viewerMachine em streamId size).run es).react em e).2 := Machine.outputs_snoc _ _ es e

lemma sound_new : (Session.new em streamId size).Sound em := by
  refine ⟨List.Pairwise.nil, List.Pairwise.nil, fun sub hsub => absurd hsub List.not_mem_nil, fun hended => ?_,
    Or.inr ⟨fun call hcall => absurd hcall List.not_mem_nil, List.Pairwise.nil⟩⟩
  cases hended

/-- **Refinement.** Over an orderly run every subscriber is a viewer that is alone, and has what the viewer
has got but for a frame of a broadcast that has still to come to it. -/
theorem refines_run {es : List SessionEvent}
    (hes : (sessionMachine em streamId size).Meets (fun s e => s.isOrderly em e = true) es) :
    ((sessionMachine em streamId size).run es).Sound em ∧
      ∀ number, ((sessionMachine em streamId size).run es).view em number =
          (viewerMachine em streamId size).run (soloRun em streamId size number es) ∧
        framesTo em streamId size number es ++ ((sessionMachine em streamId size).run es).lag number =
          viewerFrames em streamId size (soloRun em streamId size number es) := by
  refine (sessionMachine em streamId size).history_invariant_of_meets
    (p := fun es s => s.Sound em ∧ ∀ number,
      s.view em number = (viewerMachine em streamId size).run (soloRun em streamId size number es) ∧
        framesTo em streamId size number es ++ s.lag number =
          viewerFrames em streamId size (soloRun em streamId size number es)) ?_ ?_ hes
  · exact ⟨sound_new, fun number => ⟨rfl, rfl⟩⟩
  · rintro es e ho ⟨hs, hviews⟩
    have hstep := Session.refines hs ho
    refine ⟨hstep.sound, fun number => ?_⟩
    obtain ⟨hview, hframes⟩ := hviews number
    have hview' := hstep.view number
    have hframes' := hstep.frames number
    rw [framesTo_snoc, List.append_assoc]
    show (((sessionMachine em streamId size).run es).react em e).1.view em number = _ ∧
      _ ++ (_ ++ (((sessionMachine em streamId size).run es).react em e).1.lag number) = _
    rw [hframes', ← List.append_assoc, hframes, hview', soloRun, Machine.outputs_snoc]
    cases hsolo : ((sessionMachine em streamId size).run es).solo number e with
    | none =>
      rw [Viewer.reactTo, Option.toList_none, List.append_nil, List.append_nil]
      exact ⟨hview, rfl⟩
    | some e' =>
      rw [Viewer.reactTo, Option.toList_some, Machine.run_snoc, hview]
      exact ⟨rfl, (viewerFrames_snoc _ _).symm⟩

/-! ## The law -/

variable (em streamId size) (es : List SessionEvent)

/-- Every subscriber gets a snapshot and the live frames behind it, with gaps and snapshots where it was
slow, every frame with the number the session is at; unless it has missed frames it is up to date, and it
is told the end; one that is never slow gets no gap; and what it gets is what it would get alone. -/
structure StreamLaw : Prop where
  stream : ∀ number, ∃ seen, follow true .nothing (framesTo em streamId size number es) = some seen
  current : ∀ pre e post, es = pre ++ e :: post → ∀ number,
    ∀ frame ∈ sunk number (((sessionMachine em streamId size).run pre).react em e).2,
      frame.seq = ((sessionMachine em streamId size).run (pre ++ [e])).terminal.seq
  live : ∀ number, ∀ frame ∈ framesTo em streamId size number es,
    frame.opcode = PtyOpcode.output ∨ frame.opcode = PtyOpcode.resized →
      frame ∈ liveFrames em streamId size es
  complete : ((sessionMachine em streamId size).run es).calls = [] →
    ((sessionMachine em streamId size).run es).terminal.ended = false →
    ∀ sub ∈ ((sessionMachine em streamId size).run es).subscribers,
      (sub.missed = true → sub.paused = true) ∧
      (sub.missed = false → ∃ first, follow true .nothing (framesTo em streamId size sub.number es) =
        some (.upTo ((sessionMachine em streamId size).run es).terminal.seq first))
  forced : ∀ pre code post, es = pre ++ .terminal (.exit code) :: post →
    ((sessionMachine em streamId size).run pre).terminal.isOver = false →
    ∀ sub ∈ ((sessionMachine em streamId size).run pre).subscribers,
      ((sessionMachine em streamId size).run es).calls = [] →
        follow true .nothing (framesTo em streamId size sub.number es) = some .finished
  fast : ∀ number, (∀ e ∈ es, e ≠ .turn number false) →
    (∃ seen, follow false .nothing (framesTo em streamId size number es) = some seen) ∧
    (((sessionMachine em streamId size).run es).calls = [] →
      ∀ sub ∈ ((sessionMachine em streamId size).run es).subscribers, sub.number = number →
        sub.missed = false)
  alone : ((sessionMachine em streamId size).run es).calls = [] → ∀ number,
    framesTo em streamId size number es =
      framesTo em streamId size 0 (soloRun em streamId size number es)

variable {em streamId size es}

namespace Session

variable {s : Session σ}

lemma call_view_of_nil (hcalls : s.calls = []) (number : ℕ) : (s.view em number).call = none := by
  rw [view_of_emissions (by simp [hcalls]), hcalls]
  rfl

lemma quiet_view (hs : s.Sound em) {e : TerminalEvent} (ho : s.isOrderly em (.terminal e) = true)
    {number : ℕ} (hcall : (s.view em number).call ≠ none) : (s.view em number).terminal.IsQuiet em e := by
  have hcalls : s.calls ≠ [] := fun hcalls => hcall (call_view_of_nil hcalls number)
  have hquiet := quiet_of_isOrderly ho hcalls
  rcases hs.calls with ⟨frame, m, place, heq, -⟩ | ⟨hemissions, -⟩
  · rw [view_of_broadcast heq, viewAt]
    dsimp only
    rw [after]
    split
    · exact ⟨(Terminal.react_exited hquiet frame.seq).2, hquiet.2⟩
    · exact hquiet
  · rw [view_of_emissions fun call hcall => by
      obtain ⟨k, left, heq, -⟩ := hemissions call hcall
      exact ⟨k, left, heq⟩]
    exact hquiet

end Session

/-- Over an orderly run every subscriber follows its stream; one that is never slow, as a fast one. -/
lemma follows_run (slow : Bool) (number : ℕ)
    (hes : (sessionMachine em streamId size).Meets (fun s e => s.isOrderly em e = true) es)
    (hfast : slow = false → ∀ e ∈ es, e ≠ .turn number false) :
    (((sessionMachine em streamId size).run es).view em number).Follows slow
      (framesTo em streamId size number es ++ ((sessionMachine em streamId size).run es).lag number) := by
  induction es using List.reverseRecOn with
  | nil => exact Viewer.follows_new streamId size
  | append_singleton es e ih =>
    obtain ⟨hpre, ho⟩ := (Machine.meets_snoc _).1 hes
    have hs := (refines_run hpre).1
    have hfollows := ih hpre fun hslow e he => hfast hslow e (List.mem_append_left _ he)
    have hstep := Session.refines hs ho
    rw [framesTo_snoc, Machine.run_snoc, List.append_assoc]
    show ((((sessionMachine em streamId size).run es).react em e).1.view em number).Follows slow
      (_ ++ (_ ++ (((sessionMachine em streamId size).run es).react em e).1.lag number))
    rw [hstep.view, hstep.frames, ← List.append_assoc]
    cases hsolo : ((sessionMachine em streamId size).run es).solo number e with
    | none =>
      rw [Viewer.reactTo, List.append_nil]
      exact hfollows
    | some e' =>
      refine hfollows.react (fun hcall t ht => ?_) fun hslow k hturn => ?_
      · have he : e = .terminal t := by
          subst ht
          unfold Session.solo at hsolo
          split at hsolo
          all_goals first | cases hsolo | (split at hsolo <;> cases hsolo)
          rfl
        subst he
        exact Session.quiet_view hs ho hcall
      · have he : e = .turn number false := by
          subst hturn
          unfold Session.solo at hsolo
          split at hsolo
          all_goals first | cases hsolo | (split at hsolo <;> cases hsolo)
          next heq => rw [heq]
        exact hfast hslow e (List.mem_append_right _ List.mem_cons_self) he

lemma liveFrames_snoc (es : List SessionEvent) (e : SessionEvent) :
    liveFrames em streamId size (es ++ [e]) = liveFrames em streamId size es ++
      (match e with
        | .terminal t => (((sessionMachine em streamId size).run es).terminal.react em t).2.2.toList
        | _ => []) := Machine.outputs_snoc _ _ es e

/-- What sinks get of live frames, and what broadcasts bring, are live frames of the run. -/
lemma live_run (number : ℕ)
    (hes : (sessionMachine em streamId size).Meets (fun s e => s.isOrderly em e = true) es) :
    (∀ frame ∈ framesTo em streamId size number es,
        frame.opcode = PtyOpcode.output ∨ frame.opcode = PtyOpcode.resized →
          frame ∈ liveFrames em streamId size es) ∧
      ∀ frame m place rest, ((sessionMachine em streamId size).run es).calls =
        .broadcast frame m place :: rest → frame ∈ liveFrames em streamId size es := by
  induction es using List.reverseRecOn with
  | nil => exact ⟨fun frame hframe => absurd hframe List.not_mem_nil, fun frame m place rest hcalls => by cases hcalls⟩
  | append_singleton es e ih =>
    obtain ⟨hpre, ho⟩ := (Machine.meets_snoc _).1 hes
    obtain ⟨hgot, hrunning⟩ := ih hpre
    have hstep := Session.refines (refines_run hpre).1 ho
    have hbrought : ∀ frame, ((sessionMachine em streamId size).run es).Brings em e frame →
        frame ∈ liveFrames em streamId size (es ++ [e]) := by
      rintro frame (⟨t, rfl, hframe⟩ | ⟨m, place, rest, hcalls⟩)
      · rw [liveFrames_snoc]
        refine List.mem_append_right _ ?_
        dsimp only
        rw [hframe]
        exact List.mem_cons_self
      · rw [liveFrames_snoc]
        exact List.mem_append_left _ (hrunning frame m place rest hcalls)
    refine ⟨fun frame hframe hop => ?_, fun frame m place rest hcalls => ?_⟩
    · rw [framesTo_snoc] at hframe
      rcases List.mem_append.1 hframe with hframe | hframe
      · rw [liveFrames_snoc]
        exact List.mem_append_left _ (hgot frame hframe hop)
      · exact hbrought frame ((hstep.stamped number frame hframe).2 hop)
    · rw [Machine.run_snoc] at hcalls
      exact hbrought frame (hstep.brings frame m place rest hcalls)

lemma endedSeq_run (es : List SessionEvent) :
    ((sessionMachine em streamId size).run es).terminal.ended = false →
      ((sessionMachine em streamId size).run es).terminal.endedSeq = 0 := by
  refine (sessionMachine em streamId size).invariant (p := fun s => s.terminal.ended = false →
    s.terminal.endedSeq = 0) (fun _ => rfl) (fun s e h => ?_) es
  refine s.keeps_terminal (p := fun t => t.ended = false → t.endedSeq = 0) (fun t seq _ hended => ?_)
    (fun t _ h hended => ?_) h
  · cases hended
  · rw [(Terminal.flags_react _ t).1] at hended
    rw [(Terminal.flags_react _ t).2.1]
    exact h hended

/-! ## A subscriber that is alone -/

namespace Session

variable {s t : Session σ}

lemma number_eq_zero (ht : t.Sound em) (hmade : t.made ≤ 1) (call : SinkCall) (hcall : call ∈ t.calls) :
    call.number = 0 := by
  have hlt : call.number < t.made := by
    rcases ht.calls with ⟨frame, m, place, hcalls, hbroadcast⟩ | ⟨hcalls, -⟩
    · rw [hcalls] at hcall
      rw [List.mem_singleton.1 hcall]
      exact hbroadcast.made
    · obtain ⟨m, left, rfl, hemitting⟩ := hcalls call hcall
      exact hemitting.made
  omega

lemma call_view_ne_none (ht : t.Sound em) (hmade : t.made ≤ 1) (hcalls : t.calls ≠ []) :
    (t.view em 0).call ≠ none := by
  rcases ht.calls with ⟨frame, m, place, heq, -⟩ | ⟨hemissions, -⟩
  · have hzero : m = 0 := number_eq_zero ht hmade (.broadcast frame m place) (by rw [heq]; simp)
    rw [view_of_broadcast heq, viewAt, decide_eq_true hzero]
    simp
  · obtain ⟨call, rest, heq⟩ := List.exists_cons_of_ne_nil hcalls
    obtain ⟨m, left, rfl, -⟩ := hemissions call (by rw [heq]; exact List.mem_cons_self)
    have hzero : m = 0 := number_eq_zero ht hmade (.emission m left) (by rw [heq]; simp)
    rw [view_of_emissions fun call hcall => by
      obtain ⟨k, left, heq, -⟩ := hemissions call hcall
      exact ⟨k, left, heq⟩, heq, List.findSome?_cons, SinkCall.sending, if_pos hzero]
    simp

lemma lag_alone (ht : t.Sound em) (hmade : t.made ≤ 1) : t.lag 0 = [] := by
  rcases ht.calls with ⟨frame, m, place, heq, hbroadcast⟩ | ⟨hemissions, -⟩
  · have hzero : m = 0 := number_eq_zero ht hmade (.broadcast frame m place) (by rw [heq]; simp)
    rw [lag_of_broadcast heq, if_neg]
    rw [awaits_eq_true]
    rintro ⟨sub, hsub, hle, -⟩
    obtain ⟨hmem, hnumber⟩ := mem_of_subscriber hsub
    have hlt := hbroadcast.visited sub hmem (hnumber.trans hzero.symm)
    omega
  · exact lag_of_emissions (fun call hcall => by
      obtain ⟨k, left, heq, -⟩ := hemissions call hcall
      exact ⟨k, left, heq⟩) 0

lemma emissions_exist (h : ∀ call ∈ s.calls, ∃ k left, call = .emission k left ∧ s.Emitting em k left) :
    ∀ call ∈ s.calls, ∃ k left, call = .emission k left := by
  intro call hcall
  obtain ⟨k, left, heq, -⟩ := h call hcall
  exact ⟨k, left, heq⟩

lemma call_view_ne_live (hcalls : ∀ call ∈ s.calls, ∃ k left, call = .emission k left) (number : ℕ) :
    (s.view em number).call ≠ some .live := by
  rw [view_of_emissions hcalls]
  intro hlive
  obtain ⟨call, hcall, hsending⟩ := List.exists_of_findSome?_eq_some hlive
  obtain ⟨k, left, rfl⟩ := hcalls call hcall
  rw [SinkCall.sending] at hsending
  split at hsending <;> cases hsending

lemma call_view_broadcast {frame : PtyFrame} {m place : ℕ} (hcalls : s.calls = [.broadcast frame m place])
    {number : ℕ} (hnumber : m = number) : (s.view em number).call = some .live := by
  rw [view_of_broadcast hcalls, viewAt, decide_eq_true hnumber]
  rfl

lemma quiet_alone (hs : s.Sound em) (ht : t.Sound em) {number : ℕ}
    (hview : t.view em 0 = s.view em number) (hmade : t.made ≤ 1)
    (hseqs : s.terminal.ended = false → s.terminal.endedSeq = 0)
    (hseqt : t.terminal.ended = false → t.terminal.endedSeq = 0) {e : TerminalEvent}
    (hquiet : s.terminal.IsQuiet em e) : t.terminal.IsQuiet em e := by
  have hterminal := congrArg Viewer.terminal hview
  have hcall := congrArg Viewer.call hview
  rcases ht.calls with ⟨f, k, p, htcalls, htlive⟩ | ⟨htcalls, -⟩
  · have hzero : k = 0 := number_eq_zero ht hmade (.broadcast f k p) (by rw [htcalls]; simp)
    rw [call_view_broadcast htcalls hzero] at hcall
    rcases hs.calls with ⟨frame, m, place, hscalls, hslive⟩ | ⟨hscalls, -⟩
    · rw [view_of_broadcast hscalls, view_of_broadcast htcalls, viewAt, viewAt] at hterminal
      dsimp only at hterminal
      rw [after, after] at hterminal
      by_cases hf : isTerminal f = true
      · rw [if_pos hf] at hterminal
        by_cases hframe : isTerminal frame = true
        · rw [if_pos hframe] at hterminal
          have hsame : t.terminal = s.terminal := by
            have hsseq := hseqs hslive.live
            have htseq := hseqt htlive.live
            have hsended := hslive.live
            have htended := htlive.live
            generalize t.terminal = a at *
            generalize s.terminal = b at *
            cases a
            cases b
            simp only [Terminal.exited, Terminal.mk.injEq] at hterminal
            dsimp only at hsseq htseq hsended htended
            simp [hterminal, hsseq, htseq, hsended, htended]
          rw [hsame]
          exact hquiet
        · rw [if_neg hframe] at hterminal
          have hended := hslive.live
          rw [← hterminal] at hended
          cases hended
      · rw [if_neg hf] at hterminal
        rw [hterminal]
        split
        · exact ⟨(Terminal.react_exited hquiet frame.seq).2, hquiet.2⟩
        · exact hquiet
    · exact absurd hcall.symm (call_view_ne_live (emissions_exist hscalls) number)
  · rw [view_of_emissions (emissions_exist htcalls)] at hterminal
    rcases hs.calls with ⟨frame, m, place, hscalls, -⟩ | ⟨hscalls, -⟩
    · rw [view_of_broadcast hscalls, viewAt] at hterminal
      dsimp only at hterminal
      rw [hterminal, after]
      split
      · exact ⟨(Terminal.react_exited hquiet frame.seq).2, hquiet.2⟩
      · exact hquiet
    · rw [view_of_emissions (emissions_exist hscalls)] at hterminal
      rw [show t.terminal = s.terminal from hterminal]
      exact hquiet

lemma solo_step (hs : s.Sound em) (ht : t.Sound em) {number : ℕ}
    (hview : t.view em 0 = s.view em number) (hmade : t.made ≤ 1)
    (hseqs : s.terminal.ended = false → s.terminal.endedSeq = 0)
    (hseqt : t.terminal.ended = false → t.terminal.endedSeq = 0) {e e' : SessionEvent}
    (ho : s.isOrderly em e = true) (hsolo : s.solo number e = some e') :
    t.isOrderly em e' = true ∧ t.solo 0 e' = some e' ∧ (∀ flow, e' = .subscribe flow → t.made = 0) := by
  have hnil : t.calls = [] → ∀ e, t.isOrderly em e = true := by
    intro hcalls e
    unfold isOrderly
    rw [hcalls]
  cases e with
  | terminal e =>
    cases hsolo
    refine ⟨?_, rfl, fun flow h => by cases h⟩
    by_cases hcalls : t.calls = []
    · exact hnil hcalls _
    · have hscalls : s.calls ≠ [] := by
        intro hscalls
        have hcall := call_view_ne_none ht hmade hcalls
        rw [hview, call_view_of_nil hscalls] at hcall
        exact hcall rfl
      have hquiet := quiet_alone hs ht hview hmade hseqs hseqt (quiet_of_isOrderly ho hscalls)
      have hboth : ((t.terminal.react em e).2.2.isNone && !e.isDispose) = true := by
        rw [hquiet.1]
        cases e <;> first | rfl | exact absurd rfl hquiet.2
      unfold isOrderly
      obtain ⟨call, rest, heq⟩ := List.exists_cons_of_ne_nil hcalls
      rw [heq]
      cases call <;> exact hboth
  | subscribe flow =>
    rw [solo] at hsolo
    split at hsolo
    · next hnew =>
      cases hsolo
      have hzero : t.made = 0 := by
        have hnot := congrArg Viewer.made hview
        have hleft : (t.view em 0).made = decide (0 < t.made) := by
          unfold view
          split <;> rfl
        have hright : (s.view em number).made = decide (number < s.made) := by
          unfold view
          split <;> rfl
        rw [hleft, hright, decide_eq_decide] at hnot
        omega
      have hcalls : t.calls = [] := by
        by_contra hcalls
        obtain ⟨call, rest, heq⟩ := List.exists_cons_of_ne_nil hcalls
        rcases ht.calls with ⟨f, k, p, htcalls, htlive⟩ | ⟨htcalls, -⟩
        · have hlt := htlive.made
          omega
        · obtain ⟨k, left, -, hemitting⟩ := htcalls call (by rw [heq]; exact List.mem_cons_self)
          have hlt := hemitting.made
          omega
      have hterminal := congrArg Viewer.terminal hview
      rw [view_of_emissions (by simp [hcalls]),
        view_of_emissions (emissions_exist (emissions_of_isOrderly hs ho (Or.inl ⟨flow, rfl⟩)).1)] at hterminal
      refine ⟨hnil hcalls _, ?_, fun _ _ => hzero⟩
      have hdisposed : t.terminal.disposed = false := by
        rw [show t.terminal = s.terminal from hterminal]
        exact hnew.2
      rw [solo, if_pos ⟨hzero, hdisposed⟩]
    · cases hsolo
  | unsubscribe k =>
    rw [solo] at hsolo
    split at hsolo
    · cases hsolo
      refine ⟨?_, rfl, fun flow h => by cases h⟩
      unfold isOrderly
      rcases ht.calls with ⟨f, k, p, htcalls, -⟩ | ⟨htcalls, -⟩
      · have hlag := lag_alone ht hmade
        rw [lag_of_broadcast htcalls] at hlag
        rw [htcalls]
        dsimp only
        cases hawaits : t.awaits f p 0 with
        | false => rfl
        | true =>
          rw [hawaits] at hlag
          cases hlag
      · cases heq : t.calls with
        | nil => rfl
        | cons call rest =>
          obtain ⟨k, left, hcall⟩ := emissions_exist htcalls call (by rw [heq]; exact List.mem_cons_self)
          rw [hcall]
    · cases hsolo
  | drain k =>
    rw [solo] at hsolo
    split at hsolo
    · cases hsolo
      refine ⟨?_, rfl, fun flow h => by cases h⟩
      have hemissions := (emissions_of_isOrderly hs ho (Or.inr ⟨k, rfl⟩)).1
      unfold isOrderly
      rcases ht.calls with ⟨f, m, p, htcalls, -⟩ | ⟨htcalls, -⟩
      · -- a broadcast to the one alone would be one to the subscriber, and nobody drains in it
        have hzero : m = 0 := number_eq_zero ht hmade (.broadcast f m p) (by rw [htcalls]; simp)
        have hcall := congrArg Viewer.call hview
        rw [call_view_broadcast htcalls hzero] at hcall
        exact absurd hcall.symm (call_view_ne_live (emissions_exist hemissions) number)
      · cases heq : t.calls with
        | nil => rfl
        | cons call rest =>
          obtain ⟨k, left, hcall⟩ := emissions_exist htcalls call (by rw [heq]; exact List.mem_cons_self)
          rw [hcall]
    · cases hsolo
  | returned =>
    rw [solo] at hsolo
    split at hsolo
    · next hhead =>
      cases hsolo
      have hrunning : (s.view em number).call ≠ none := by
        obtain ⟨call, hcall, hnumber⟩ := Option.map_eq_some_iff.1 hhead
        obtain ⟨rest, heq⟩ := List.head?_eq_some_iff.1 hcall
        rcases hs.calls with ⟨frame, m, place, hscalls, -⟩ | ⟨hscalls, -⟩
        · have hfirst : SinkCall.broadcast frame m place = call := by
            rw [hscalls] at heq
            exact (List.cons.inj heq).1
          rw [call_view_broadcast hscalls (by rw [← hfirst] at hnumber; exact hnumber)]
          simp
        · obtain ⟨m, left, rfl⟩ := emissions_exist hscalls call (by rw [heq]; exact List.mem_cons_self)
          rw [view_of_emissions (emissions_exist hscalls), heq, List.findSome?_cons, SinkCall.sending,
            if_pos (show m = number from hnumber)]
          simp
      have hcalls : t.calls ≠ [] := by
        intro hcalls
        rw [← hview, call_view_of_nil hcalls] at hrunning
        exact hrunning rfl
      obtain ⟨call, rest, heq⟩ := List.exists_cons_of_ne_nil hcalls
      have hzero : call.number = 0 := number_eq_zero ht hmade call (by rw [heq]; exact List.mem_cons_self)
      refine ⟨?_, ?_, fun flow h => by cases h⟩
      · unfold isOrderly
        rw [heq]
      · rw [solo, if_pos]
        rw [heq, List.head?_cons, Option.map_some, hzero]
    · cases hsolo
  | threw => cases hsolo
  | turn k writable =>
    rw [solo] at hsolo
    split at hsolo
    · cases hsolo
      refine ⟨?_, rfl, fun flow h => by cases h⟩
      unfold isOrderly
      cases heq : t.calls with
      | nil => rfl
      | cons call rest => cases call <;> rfl
    · cases hsolo

/-! ## How often somebody subscribes -/

lemma made_advance (em : Emulator σ) (s : Session σ) (m : ℕ) (left : List Emit) : (s.advance em m left).1.made = s.made := by
  induction left generalizing s with
  | nil => rfl
  | cons x left ih =>
    cases x with
    | frame frame => rfl
    | snapshot => rfl
    | body seq =>
      rw [advance]
      split
      · exact ih s
      · rfl
    | ended =>
      rw [advance]
      split
      · rfl
      · exact ih s
    | register flow => exact ih _
    | settle => exact ih _

lemma made_emit (s : Session σ) (m : ℕ) (left : List Emit) : (s.emit em m left).1.made = s.made := by
  have hmade := made_advance em s m left
  rw [emit]
  split
  all_goals
    next heq =>
    rw [heq] at hmade
    exact hmade

lemma made_visit (s : Session σ) (frame : PtyFrame) (place : ℕ) : (s.visit frame place).1.made = s.made := by
  rw [visit]
  split
  · rfl
  · dsimp only
    split <;> rfl

lemma made_react (em : Emulator σ) (s : Session σ) (e : SessionEvent) :
    (s.react em e).1.made = s.made ∨ ∃ flow, e = .subscribe flow ∧ (s.react em e).1.made = s.made + 1 := by
  cases e with
  | terminal e =>
    left
    rw [react, onTerminal]
    dsimp only
    split
    · rfl
    · exact made_visit _ _ _
  | subscribe flow =>
    rw [react, subscribe]
    split
    · exact Or.inl rfl
    · exact Or.inr ⟨flow, rfl, made_emit _ _ _⟩
  | unsubscribe k => exact Or.inl rfl
  | drain k =>
    left
    rw [react, resume]
    split
    · rfl
    · split
      · rfl
      · dsimp only
        split
        · rfl
        · exact made_emit _ _ _
  | returned =>
    left
    rw [react, onReturned]
    split
    · rfl
    · exact made_emit _ _ _
    · dsimp only
      split
      · exact made_visit _ _ _
      · exact made_visit _ _ _
  | threw => exact Or.inl rfl
  | turn k writable => exact Or.inl rfl

end Session

lemma soloRun_snoc (number : ℕ) (es : List SessionEvent) (e : SessionEvent) :
    soloRun em streamId size number (es ++ [e]) = soloRun em streamId size number es ++
      (((sessionMachine em streamId size).run es).solo number e).toList := Machine.outputs_snoc _ _ es e

/-- What concerns a subscriber of an orderly run is an orderly run by itself, of the same subscriber. -/
lemma solo_run (number : ℕ)
    (hes : (sessionMachine em streamId size).Meets (fun s e => s.isOrderly em e = true) es) :
    (sessionMachine em streamId size).Meets (fun s e => s.isOrderly em e = true)
        (soloRun em streamId size number es) ∧
      soloRun em streamId size 0 (soloRun em streamId size number es) = soloRun em streamId size number es ∧
      ((sessionMachine em streamId size).run (soloRun em streamId size number es)).made ≤ 1 := by
  induction es using List.reverseRecOn with
  | nil => exact ⟨Machine.meets_nil _ _, rfl, Nat.zero_le 1⟩
  | append_singleton es e ih =>
    obtain ⟨hpre, ho⟩ := (Machine.meets_snoc _).1 hes
    obtain ⟨hmeets, hsame, hmade⟩ := ih hpre
    have hrun := refines_run hpre
    have halone := refines_run hmeets
    rw [soloRun_snoc]
    cases hsolo : ((sessionMachine em streamId size).run es).solo number e with
    | none =>
      rw [Option.toList_none, List.append_nil]
      exact ⟨hmeets, hsame, hmade⟩
    | some e' =>
      have hview : ((sessionMachine em streamId size).run (soloRun em streamId size number es)).view em 0 =
          ((sessionMachine em streamId size).run es).view em number := by
        rw [(hrun.2 number).1, (halone.2 0).1, hsame]
      obtain ⟨horderly, hsolo', hfirst⟩ :=
        Session.solo_step hrun.1 halone.1 hview hmade (endedSeq_run _) (endedSeq_run _) ho hsolo
      rw [Option.toList_some]
      refine ⟨(Machine.meets_snoc _).2 ⟨hmeets, horderly⟩, ?_, ?_⟩
      · rw [soloRun_snoc, hsolo', hsame, Option.toList_some]
      · rw [Machine.run_snoc]
        show (Session.react em _ e').1.made ≤ 1
        rcases Session.made_react em _ e' with hkept | ⟨flow, hsubscribe, hcounted⟩
        · rw [hkept]
          exact hmade
        · rw [hcounted, hfirst flow hsubscribe]

lemma alone_run (number : ℕ)
    (hes : (sessionMachine em streamId size).Meets (fun s e => s.isOrderly em e = true) es)
    (hcalls : ((sessionMachine em streamId size).run es).calls = []) :
    framesTo em streamId size number es =
      framesTo em streamId size 0 (soloRun em streamId size number es) := by
  obtain ⟨hmeets, hsame, hmade⟩ := solo_run number hes
  have hrun := ((refines_run hes).2 number).2
  have halone := refines_run hmeets
  have hframes := (halone.2 0).2
  rw [Session.lag_of_emissions (by simp [hcalls]), List.append_nil] at hrun
  rw [Session.lag_alone halone.1 hmade, List.append_nil, hsame] at hframes
  rw [hrun, hframes]

/-! ## The end -/

lemma follow_over {slow : Bool} {frames : List PtyFrame} {seen : Seen}
    (h : follow slow .finished frames = some seen) : frames = [] ∧ seen = .finished := by
  cases frames with
  | nil => exact ⟨rfl, (Option.some.inj h).symm⟩
  | cons frame frames => cases h

/-- A stream that goes through the end of its session is over, and nothing comes behind it. -/
lemma follow_ended {slow : Bool} {first rest : List PtyFrame} {frame : PtyFrame} {seen : Seen}
    (hended : frame.opcode = PtyOpcode.ended)
    (h : follow slow .nothing (first ++ [frame] ++ rest) = some seen) : seen = .finished := by
  rw [follow_append] at h
  obtain ⟨between, hbetween, hrest⟩ := Option.bind_eq_some_iff.1 h
  have hover : between = .finished := by
    rw [follow_append] at hbetween
    obtain ⟨before, -, hnext⟩ := Option.bind_eq_some_iff.1 hbetween
    rw [follow_cons] at hnext
    obtain ⟨last, hlast, hnil⟩ := Option.bind_eq_some_iff.1 hnext
    rw [follow_nil] at hnil
    rw [← Option.some.inj hnil]
    -- an end is the end of whatever it may follow
    unfold Seen.next at hlast
    rw [hended] at hlast
    split at hlast
    all_goals simp [PtyOpcode.ended, PtyOpcode.snapshotStart, PtyOpcode.snapshotChunk,
      PtyOpcode.snapshotEnd, PtyOpcode.output, PtyOpcode.resized, PtyOpcode.gap] at hlast
    exact hlast.2.symm
  rw [hover] at hrest
  exact (follow_over hrest).2

lemma viewerFrames_prefix (em : Emulator σ) (streamId : ℕ) (size : Size) (number : ℕ)
    (pre post : List SessionEvent) :
    ∃ rest, viewerFrames em streamId size (soloRun em streamId size number (pre ++ post)) =
      viewerFrames em streamId size (soloRun em streamId size number pre) ++ rest := by
  rw [soloRun, Machine.outputs_append, viewerFrames, Machine.outputs_append]
  exact ⟨_, rfl⟩

/-- The stream of a subscriber of an orderly run, with the frame that has still to come to it. -/
lemma stream_run (slow : Bool) (number : ℕ)
    (hes : (sessionMachine em streamId size).Meets (fun s e => s.isOrderly em e = true) es)
    (hfast : slow = false → ∀ e ∈ es, e ≠ .turn number false) :
    ∃ seen, follow slow .nothing (framesTo em streamId size number es ++
      ((sessionMachine em streamId size).run es).lag number) = some seen := by
  obtain ⟨seen, hseen, -⟩ := (follows_run slow number hes hfast).stream
  exact follow_prefix hseen

lemma forced_run {pre post : List SessionEvent} {code : Option ℤ}
    (hes : (sessionMachine em streamId size).Meets (fun s e => s.isOrderly em e = true)
      (pre ++ .terminal (.exit code) :: post))
    (hopen : ((sessionMachine em streamId size).run pre).terminal.isOver = false)
    {sub : Subscriber} (hsub : sub ∈ ((sessionMachine em streamId size).run pre).subscribers)
    (hcalls : ((sessionMachine em streamId size).run (pre ++ .terminal (.exit code) :: post)).calls = []) :
    follow true .nothing (framesTo em streamId size sub.number (pre ++ .terminal (.exit code) :: post)) =
      some .finished := by
  let s := (sessionMachine em streamId size).run pre
  have hpre : (sessionMachine em streamId size).Meets (fun s e => s.isOrderly em e = true) pre :=
    Machine.Meets.prefix _ hes
  have ho : s.isOrderly em (.terminal (.exit code)) = true := hes pre _ post rfl
  have hs : s.Sound em := (refines_run hpre).1
  have hreact : s.terminal.react em (.exit code) =
      ((s.terminal.live PtyOpcode.ended (encodeExitPayload code)).1, [],
        some (s.terminal.live PtyOpcode.ended (encodeExitPayload code)).2) := by
    rw [Terminal.react, if_neg (by rw [hopen]; simp)]
  have hquiet : s.calls = [] := by
    by_contra hrunning
    have hnone := (Session.quiet_of_isOrderly ho hrunning).1
    rw [hreact] at hnone
    cases hnone
  -- the one alone is told the end when the session ends
  have htold : ((s.view em sub.number).react em (.terminal (.exit code))).2 =
      [(s.terminal.live PtyOpcode.ended (encodeExitPayload code)).2] := by
    rw [Session.view_of_emissions (by simp [hquiet]), Session.subscriber_of_mem hs.numbers hsub,
      Option.map_some, Viewer.react]
    dsimp only
    rw [hreact]
    have hdisposed : ((s.terminal.live PtyOpcode.ended (encodeExitPayload code)).1.disposed &&
        !s.terminal.disposed) = false := Bool.and_not_self _
    dsimp only
    rw [hdisposed]
    rfl
  have hend : viewerFrames em streamId size (soloRun em streamId size sub.number (pre ++ [.terminal (.exit code)])) =
      viewerFrames em streamId size (soloRun em streamId size sub.number pre) ++
        [(s.terminal.live PtyOpcode.ended (encodeExitPayload code)).2] := by
    rw [soloRun_snoc, Session.solo, Option.toList_some, viewerFrames_snoc, ← ((refines_run hpre).2 sub.number).1]
    rw [htold]
  obtain ⟨rest, hrest⟩ := viewerFrames_prefix em streamId size sub.number
    (pre ++ [.terminal (.exit code)]) post
  have hframes := ((refines_run hes).2 sub.number).2
  obtain ⟨seen, hseen⟩ := stream_run true sub.number hes (by simp)
  rw [Session.lag_of_emissions (by simp [hcalls]), List.append_nil] at hframes hseen
  rw [List.append_assoc, List.singleton_append, hend] at hrest
  have hover : seen = .finished := follow_ended rfl (by rw [← hrest, ← hframes]; exact hseen)
  rw [hseen, hover]

/-- **The stream law.** It holds of every run in which no sink has the session tell everyone something
before the sink returns. -/
theorem streamLaw_of_orderly (em : Emulator σ) (streamId : ℕ) (size : Size) (es : List SessionEvent)
    (hes : (sessionMachine em streamId size).Meets (fun s e => s.isOrderly em e = true) es) :
    StreamLaw em streamId size es := by
  have hnolag : ∀ number, ((sessionMachine em streamId size).run es).calls = [] →
      ((sessionMachine em streamId size).run es).lag number = [] :=
    fun number hcalls => Session.lag_of_emissions (by simp [hcalls]) number
  have hkept : ((sessionMachine em streamId size).run es).calls = [] →
      ∀ sub ∈ ((sessionMachine em streamId size).run es).subscribers,
        (((sessionMachine em streamId size).run es).view em sub.number).subscription = some sub.kept := by
    intro hcalls sub hsub
    rw [Session.view_of_emissions (by simp [hcalls]),
      Session.subscriber_of_mem (refines_run hes).1.numbers hsub, Option.map_some]
  refine ⟨fun number => ?_, fun pre e post hsplit number frame hframe => ?_,
    fun number => (live_run number hes).1, fun hcalls hopen sub hsub => ?_,
    fun pre code post hsplit hopen sub hsub hcalls => ?_, fun number hfast => ⟨?_, fun hcalls sub hsub hnumber => ?_⟩,
    fun hcalls number => alone_run number hes hcalls⟩
  · obtain ⟨seen, hseen⟩ := stream_run true number hes (by simp)
    exact follow_prefix hseen
  · subst hsplit
    rw [Machine.run_snoc]
    have hs := (refines_run ( Machine.Meets.prefix _ hes)).1
    exact ((Session.refines hs (hes pre e post rfl)).stamped number frame hframe).1
  · obtain ⟨seen, hseen, hat⟩ := (follows_run true sub.number hes (by simp)).stream
    have hleft : (((sessionMachine em streamId size).run es).view em sub.number).left = [] := by
      rw [Viewer.left, Session.call_view_of_nil hcalls]
    rw [hleft, hnolag sub.number hcalls, List.append_nil, List.append_nil] at hseen
    have hterminal : (((sessionMachine em streamId size).run es).view em sub.number).terminal =
        ((sessionMachine em streamId size).run es).terminal := by
      rw [Session.view_of_emissions (by simp [hcalls])]
    refine ⟨fun hmissed => (hat.missed _ (hkept hcalls sub hsub) hmissed).1, fun hmissed => ?_⟩
    obtain ⟨first, rfl⟩ := hat.live (by rw [hterminal]; exact hopen) _ (hkept hcalls sub hsub) hmissed
    rw [← hterminal]
    exact ⟨first, hseen⟩
  · subst hsplit
    exact forced_run hes hopen hsub hcalls
  · obtain ⟨seen, hseen⟩ := stream_run false number hes fun _ => hfast
    exact follow_prefix hseen
  · subst hnumber
    have hfollows := follows_run false sub.number hes fun _ => hfast
    obtain ⟨seen, -, hat⟩ := hfollows.stream
    by_contra hmissed
    rw [Bool.not_eq_false] at hmissed
    have hpaused := (hat.missed _ (hkept hcalls sub hsub) hmissed).1
    rw [(hfollows.fast rfl).2 _ (hkept hcalls sub hsub)] at hpaused
    cases hpaused

/-! ## A sink that subscribes a second one -/

/-- An emulator that keeps all that was written. -/
def keepingEmulator : Emulator Bytes :=
  { blank := fun _ => []
    write := fun written bytes => written ++ bytes
    resize := fun written _ => written
    serialize := fun written => written.map UInt8.toUInt16 }

/-- A subscriber that turns slow misses a frame, drains, and is told the end. -/
def slowSubscriber : List SessionEvent :=
  [.subscribe true, .returned, .returned, .terminal (.output [104]), .returned, .turn 0 false,
    .terminal (.output [105]), .returned, .terminal (.output [33]), .turn 0 true, .drain 0, .returned,
    .returned, .returned, .returned, .terminal (.exit (some 0)), .returned]

theorem streamLaw_slowSubscriber : StreamLaw keepingEmulator 7 ⟨80, 24⟩ slowSubscriber :=
  streamLaw_of_orderly keepingEmulator 7 ⟨80, 24⟩ slowSubscriber (Machine.meets_of_checks _ (by decide))

/-- While the first live frame goes out, its sink subscribes another. -/
def subscribeInside : List SessionEvent :=
  [.subscribe false, .returned, .returned, .terminal (.resize ⟨100, 30⟩), .subscribe false, .returned,
    .returned, .returned]

/-- The new one is in the set by the time the broadcast comes to it, and gets the frame behind the
snapshot that has it. -/
theorem not_streamLaw_of_subscribeInside :
    ¬ ∀ es, StreamLaw keepingEmulator 7 ⟨80, 24⟩ es := by
  intro h
  obtain ⟨seen, hseen⟩ := (h subscribeInside).stream 1
  have hnone : follow true .nothing (framesTo keepingEmulator 7 ⟨80, 24⟩ 1 subscribeInside) = none := by
    decide
  rw [hnone] at hseen
  cases hseen

end Pherry.Host
