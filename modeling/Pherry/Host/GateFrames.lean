import Mathlib.Data.List.Perm.Basic
import Pherry.Host.DeviceGate

/-!
# Frames at the gate

A control frame that arrives while a connection verifies or serves is handed over or held, and none
is lost over a step, where no handler throws.
-/

namespace Pherry.Host

open Lib Channel Protocol

namespace Gate

/-- The frames that are held: what a replay has left, and the buffer. -/
def heldFrames (s : Gate) : List Bytes := s.calls.flatMap Call.left ++ s.buffered

/-- The control frame an event brings to a connection that verifies or serves. A frame that finds
the buffer full closes the connection. -/
def received (s : Gate) : GateEvent → List Bytes
  | .frame ⟨.control, payload⟩ =>
    if s.sessionId.isSome && (s.phase = .serving ||
        s.phase = .verifying && decide (s.buffered.length < maxFramesWhileVerifying)) then [payload]
    else []
  | _ => []

/-- A step of the gate, on which these frames arrived: a closed connection stays closed, and every
frame is held or handed over. -/
structure Passes (s : Gate) (arrived : List Bytes) (r : Gate × List GateEffect) : Prop where
  closed : s.closed = true → r.1.closed = true
  frames : (handledIn r.2 ++ r.1.heldFrames).Perm (s.heldFrames ++ arrived)

lemma Passes.refl (s : Gate) : Passes s [] (s, []) :=
  ⟨fun h => h, by rw [List.append_nil]; exact .refl _⟩

lemma Passes.after {s t : Gate} {arrived : List Bytes} {r : Gate × List GateEffect}
    (h : Passes t arrived r) (hclosed : t.closed = s.closed)
    (hheld : t.heldFrames = s.heldFrames) : Passes s arrived r :=
  ⟨fun hs => h.closed (hclosed.trans hs), hheld ▸ h.frames⟩

lemma passes_closeChannel (s : Gate) : Passes s [] s.closeChannel := by
  rcases s.closeChannel_eq with heq | heq
  · rw [heq]
    exact .refl s
  · rw [heq]
    exact ⟨fun _ => rfl, by rw [List.append_nil]; exact .refl _⟩

lemma passes_failClosed (s : Gate) (error : GateError) : Passes s [] (s.failClosed error) := by
  have hclose := passes_closeChannel { s with phase := .dead, timer := false }
  exact ⟨hclose.closed, hclose.frames⟩

variable (o : GateOptions)

lemma passes_acked (s : Gate) (hello : Hello) : Passes s [] (s.acked o hello) := by
  unfold acked
  split
  · exact passes_failClosed s _
  split
  · unfold runDeviceGate
    split
    · exact passes_failClosed s _
    · exact ⟨fun h => h, by rw [List.append_nil]; exact .refl _⟩
  · exact ⟨fun h => h, by rw [List.append_nil]; exact .refl _⟩

lemma passes_replay (s : Gate) (frames : List Bytes) :
    (s.closed = true → (s.replay frames).1.closed = true) ∧
      (handledIn (s.replay frames).2 ++ (s.replay frames).1.heldFrames).Perm
        (frames ++ s.heldFrames) := by
  cases frames with
  | nil => exact ⟨fun h => h, .refl _⟩
  | cons payload left =>
    refine ⟨fun h => h, ?_⟩
    show ([payload] ++ (left ++ s.calls.flatMap Call.left ++ s.buffered)).Perm _
    rw [List.append_assoc]
    exact .refl _

lemma passes_admitHello (s : Gate) (hello : Hello) : Passes s [] (s.admitHello o hello) := by
  have hreplay := passes_replay { s with
    negotiated := negotiate o.capabilities hello.capabilities
    phase := .serving
    buffered := [] } s.buffered
  refine ⟨hreplay.1, hreplay.2.trans ?_⟩
  simp only [heldFrames, List.append_nil]
  exact List.perm_append_comm

lemma passes_onControl {s : Gate} (hopen : s.sessionId.isSome = true) (payload : Bytes) :
    Passes s (s.received (.frame ⟨.control, payload⟩)) (s.onControl o payload) := by
  unfold onControl
  split
  · next hphase =>
    have hnone : s.received (.frame ⟨.control, payload⟩) = [] := by simp [received, hphase]
    rw [hnone]
    exact .refl s
  · next hphase =>
    have hnone : s.received (.frame ⟨.control, payload⟩) = [] := by simp [received, hphase]
    rw [hnone]
    unfold handleHello
    dsimp only
    split
    · exact (passes_failClosed { s with timer := false } _).after rfl rfl
    split
    · exact (passes_acked o { s with timer := false } _).after rfl rfl
    · exact ⟨fun h => h, by rw [List.append_nil]; exact .refl _⟩
  · next hphase =>
    split
    · next hfull =>
      have hnone : s.received (.frame ⟨.control, payload⟩) = [] := by
        simp [received, hphase, Nat.not_lt.2 hfull]
      rw [hnone]
      exact passes_failClosed s _
    · next hroom =>
      have hsome : s.received (.frame ⟨.control, payload⟩) = [payload] := by
        simp [received, hphase, hopen, Nat.not_le.1 hroom]
      rw [hsome]
      refine ⟨fun h => h, ?_⟩
      show (s.calls.flatMap Call.left ++ (s.buffered ++ [payload])).Perm _
      rw [heldFrames, List.append_assoc]
  · next hphase =>
    have hsome : s.received (.frame ⟨.control, payload⟩) = [payload] := by
      simp [received, hphase, hopen]
    rw [hsome]
    refine ⟨fun h => h, ?_⟩
    show ([payload] ++ s.heldFrames).Perm _
    exact List.perm_append_comm

lemma passes_react (s : Gate) {e : GateEvent} (he : e ≠ .handlerReturned false) :
    Passes s (s.received e) (s.react o e) := by
  cases e with
  | frame frame =>
    obtain ⟨tag, payload⟩ := frame
    show Passes s _ (s.onFrame o ⟨tag, payload⟩)
    unfold onFrame
    split
    · next hclosed =>
      have hnone : s.received (.frame ⟨tag, payload⟩) = [] := by
        cases tag with
        | binary => rfl
        | control =>
          rw [Option.isNone_iff_eq_none] at hclosed
          simp [received, hclosed]
      rw [hnone]
      exact .refl s
    · next hopen =>
      cases tag with
      | binary => exact .refl s
      | control => exact passes_onControl o (by simpa [Option.isSome_iff_ne_none] using hopen) payload
  | timer =>
    show Passes s [] s.onTimer
    unfold onTimer
    split
    · dsimp only
      split
      · exact (passes_failClosed { s with timer := false } _).after rfl rfl
      · exact (Passes.refl { s with timer := false }).after rfl rfl
    · exact .refl s
  | ackReturned ok =>
    show Passes s [] (s.ackReturned o ok)
    unfold ackReturned
    split
    · next hello calls hcalls =>
      have hheld : ({ s with calls } : Gate).heldFrames = s.heldFrames := by
        simp [heldFrames, hcalls, Call.left]
      split
      · exact (passes_acked o { s with calls } hello).after rfl hheld
      · exact (Passes.refl { s with calls }).after rfl hheld
    · exact .refl s
  | verifyReturned answer =>
    show Passes s [] (s.verifyReturned o answer)
    unfold verifyReturned
    split
    · next hello calls hcalls =>
      have hheld : ({ s with calls } : Gate).heldFrames = s.heldFrames := by
        simp [heldFrames, hcalls, Call.left]
      dsimp only
      split
      · exact (passes_admitHello o { s with calls } hello).after rfl hheld
      · exact (passes_failClosed { s with calls } _).after rfl hheld
      · exact (passes_failClosed { s with calls } _).after rfl hheld
      · exact ⟨fun h => h, by rw [List.append_nil, ← hheld]; exact .refl _⟩
    · exact .refl s
  | handlerReturned ok =>
    show Passes s [] (s.handlerReturned ok)
    unfold handlerReturned
    cases ok with
    | false => exact absurd rfl he
    | true =>
      split
      · next left calls hcalls =>
        have hreplay := passes_replay { s with calls } left
        refine ⟨hreplay.1, hreplay.2.trans ?_⟩
        simp only [heldFrames, hcalls, List.flatMap_cons, Call.left, List.append_nil, List.append_assoc]
        exact .refl _
      · exact .refl s
  | verdict i reply =>
    show Passes s [] (s.onVerdict o i reply)
    unfold onVerdict
    split
    · split
      · exact .refl s
      · next hello _ =>
        dsimp only
        split
        · split
          · exact (passes_admitHello o { s with pending := s.pending.eraseIdx i } hello).after rfl rfl
          · exact (passes_failClosed { s with pending := s.pending.eraseIdx i } _).after rfl rfl
          · exact (passes_failClosed { s with pending := s.pending.eraseIdx i } _).after rfl rfl
        · exact (Passes.refl { s with pending := s.pending.eraseIdx i }).after rfl rfl
    · exact .refl s
  | channelClosed => exact passes_closeChannel s
  | close =>
    show Passes s [] s.close
    exact ⟨fun _ => rfl, by rw [List.append_nil]; exact .refl _⟩

/-! ## The buffer of a connection that serves -/

/-- A connection that serves holds nothing in its buffer, and one without a device gate never
verifies. -/
structure Drained (s : Gate) : Prop where
  serving : s.phase = .serving → s.buffered = []
  ungated : o.verifyDevice = false → s.buffered = [] ∧ s.phase ≠ .verifying ∧ s.pending = [] ∧
    ∀ hello, Call.verify hello ∉ s.calls

variable {o}

lemma drained_init (sessionId : Bytes) : Drained o (.init sessionId) where
  serving _ := rfl
  ungated _ := ⟨rfl, nofun, rfl, fun _ => List.not_mem_nil⟩

/-- A step that leaves the buffer alone, does not begin to serve or to verify, and calls nobody. -/
lemma Drained.keep {s t : Gate} (h : Drained o s) (hbuffered : t.buffered = s.buffered)
    (hphase : t.phase = s.phase ∨ t.phase = .dead ∨ t.phase = .serving ∧ s.buffered = [])
    (hpending : s.pending = [] → t.pending = [])
    (hcalls : ∀ hello, Call.verify hello ∈ t.calls → Call.verify hello ∈ s.calls) : Drained o t where
  serving hserving := by
    rw [hbuffered]
    rcases hphase with heq | hdead | hempty
    · exact h.serving (heq ▸ hserving)
    · rw [hdead] at hserving
      cases hserving
    · exact hempty.2
  ungated hungated := by
    obtain ⟨hempty, hverifying, hnone, hnot⟩ := h.ungated hungated
    refine ⟨hbuffered.trans hempty, ?_, hpending hnone, fun hello hmem => hnot hello (hcalls hello hmem)⟩
    rcases hphase with heq | hdead | hserving
    · rw [heq]
      exact hverifying
    · rw [hdead]
      exact nofun
    · rw [hserving.1]
      exact nofun

lemma closeChannel_frame (s : Gate) :
    ∃ phase closed timer sessionId, s.closeChannel.1 = { s with phase, closed, timer, sessionId } ∧
      (phase = s.phase ∨ phase = .dead) := by
  rcases s.closeChannel_eq with heq | heq
  · rw [heq]
    exact ⟨s.phase, s.closed, s.timer, s.sessionId, rfl, Or.inl rfl⟩
  · rw [heq]
    exact ⟨.dead, true, false, none, rfl, Or.inr rfl⟩

lemma Drained.closeChannel {s : Gate} (h : Drained o s) : Drained o s.closeChannel.1 := by
  obtain ⟨phase, closed, timer, sessionId, heq, hphase⟩ := s.closeChannel_frame
  rw [heq]
  exact h.keep rfl (hphase.imp id Or.inl) id fun _ => id

lemma Drained.failClosed {s : Gate} (h : Drained o s) (error : GateError) :
    Drained o (s.failClosed error).1 := by
  have hdead : Drained o { s with phase := .dead, timer := false } :=
    h.keep rfl (Or.inr (Or.inl rfl)) id fun _ => id
  exact hdead.closeChannel

lemma Drained.acked {s : Gate} (h : Drained o s) (hello : Hello) :
    Drained o (s.acked o hello).1 := by
  unfold Gate.acked
  split
  · exact h.failClosed _
  split
  · next hgated =>
    unfold Gate.runDeviceGate
    split
    · exact h.failClosed _
    · exact ⟨h.serving, fun hungated => by rw [hgated] at hungated; cases hungated⟩
  · next hungated =>
    have hempty := (h.ungated (by simpa using hungated)).1
    exact h.keep rfl (Or.inr (Or.inr ⟨rfl, hempty⟩)) id fun _ => id

lemma drained_replay {s : Gate} (h : Drained o s) (frames : List Bytes) :
    Drained o (s.replay frames).1 := by
  cases frames with
  | nil => exact h
  | cons payload left =>
    exact h.keep rfl (Or.inl rfl) id fun hello hmem => (List.mem_cons.1 hmem).resolve_left nofun

lemma Drained.admitHello {s : Gate} (h : Drained o s) (hello : Hello) :
    Drained o (s.admitHello o hello).1 := by
  apply drained_replay
  refine ⟨fun _ => rfl, fun hungated => ?_⟩
  obtain ⟨-, -, hnone, hnot⟩ := h.ungated hungated
  exact ⟨rfl, nofun, hnone, hnot⟩

lemma Drained.onFrame {s : Gate} (h : Drained o s) (frame : ChannelFrame) :
    Drained o (s.onFrame o frame).1 := by
  unfold Gate.onFrame
  split
  · exact h
  split
  · unfold Gate.onControl
    split
    · exact h
    · unfold Gate.handleHello
      have htimer : Drained o { s with timer := false } := h.keep rfl (Or.inl rfl) id fun _ => id
      dsimp only
      split
      · exact htimer.failClosed _
      split
      · exact htimer.acked _
      · exact htimer.keep rfl (Or.inl rfl) id fun hello hmem =>
          (List.mem_cons.1 hmem).resolve_left nofun
    · next hverifying =>
      split
      · exact h.failClosed _
      · refine ⟨fun hserving => ?_, fun hungated => ?_⟩
        · rw [show s.phase = .serving from hserving] at hverifying
          cases hverifying
        · exact absurd hverifying (h.ungated hungated).2.1
    · exact h.keep rfl (Or.inl rfl) id fun hello hmem => (List.mem_cons.1 hmem).resolve_left nofun
  · exact h

lemma Drained.verifyReturned {s : Gate} (h : Drained o s) (answer : Answer) :
    Drained o (s.verifyReturned o answer).1 := by
  unfold Gate.verifyReturned
  split
  · next hello calls hcalls =>
    have hmem : Call.verify hello ∈ s.calls := by
      rw [hcalls]
      exact List.mem_cons_self
    have hpop : Drained o { s with calls } := h.keep rfl (Or.inl rfl) id fun hello hmem => by
      rw [hcalls]
      exact List.mem_cons_of_mem _ hmem
    dsimp only
    split
    · exact hpop.admitHello _
    · exact hpop.failClosed _
    · exact hpop.failClosed _
    · refine ⟨nofun, fun hungated => ?_⟩
      exact absurd hmem ((h.ungated hungated).2.2.2 hello)
  · exact h

lemma Drained.onVerdict {s : Gate} (h : Drained o s) (i : ℕ) (reply : Except Unit Bool) :
    Drained o (s.onVerdict o i reply).1 := by
  unfold Gate.onVerdict
  split
  · split
    · exact h
    · have herased : Drained o { s with pending := s.pending.eraseIdx i } :=
        h.keep rfl (Or.inl rfl) (fun hnone => by simp [hnone]) fun _ => id
      dsimp only
      split
      · split
        · exact herased.admitHello _
        · exact herased.failClosed _
        · exact herased.failClosed _
      · exact herased
  · exact h

lemma Drained.react {s : Gate} (h : Drained o s) (e : GateEvent) : Drained o (s.react o e).1 := by
  cases e with
  | frame frame => exact h.onFrame frame
  | timer =>
    show Drained o s.onTimer.1
    unfold Gate.onTimer
    split
    · have htimer : Drained o { s with timer := false } := h.keep rfl (Or.inl rfl) id fun _ => id
      dsimp only
      split
      · exact htimer.failClosed _
      · exact htimer
    · exact h
  | ackReturned ok =>
    show Drained o (s.ackReturned o ok).1
    unfold Gate.ackReturned
    split
    · next hello calls hcalls =>
      have hpop : Drained o { s with calls } := h.keep rfl (Or.inl rfl) id fun hello hmem => by
        rw [hcalls]
        exact List.mem_cons_of_mem _ hmem
      split
      · exact hpop.acked _
      · exact hpop
    · exact h
  | verifyReturned answer => exact h.verifyReturned answer
  | handlerReturned ok =>
    show Drained o (s.handlerReturned ok).1
    unfold Gate.handlerReturned
    split
    · next left calls hcalls =>
      have hpop : Drained o { s with calls } := h.keep rfl (Or.inl rfl) id fun hello hmem => by
        rw [hcalls]
        exact List.mem_cons_of_mem _ hmem
      split
      · exact drained_replay hpop left
      · exact hpop
    · exact h
  | verdict i reply => exact h.onVerdict i reply
  | channelClosed => exact h.closeChannel
  | close =>
    show Drained o s.close.1
    exact h.keep rfl (Or.inr (Or.inl rfl)) id fun _ => id

end Gate

end Pherry.Host
