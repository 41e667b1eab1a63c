import Pherry.Host.GateFrames
import Pherry.Host.ServeAnswers

/-!
# The gate under the handlers

The handlers of a served connection leave its gate and its log alone, so the gate takes the steps of
a gate, and every frame it hands over is logged.
-/

namespace Pherry.Host

open Lib Channel Protocol

namespace Serve

variable {o : ServeOptions}

/-- A handler leaves the gate and the log alone. -/
structure SameFrames (s t : Serve) : Prop where
  gate : t.gate = s.gate
  log : t.log = s.log

lemma SameFrames.refl (s : Serve) : SameFrames s s := ⟨rfl, rfl⟩

lemma SameFrames.trans {s t u : Serve} (h : SameFrames s t) (h' : SameFrames t u) :
    SameFrames s u := ⟨h'.gate.trans h.gate, h'.log.trans h.log⟩

lemma sameFrames_leave (s : Serve) (h : Handler) (ok : Bool) : SameFrames s (s.leave h ok).1 := by
  unfold leave
  dsimp only
  split <;> exact ⟨rfl, rfl⟩

lemma sameFrames_stopped (s : Serve) (h : Handler) (todo : List Todo)
    {threw : Serve → Serve × List ServeEffect} (hthrew : ∀ t, SameFrames t (threw t).1) :
    SameFrames s (stopped h (s.advance h.request todo) threw).1 := by
  have hadvance : SameFrames s (s.advance h.request todo).1 :=
    ⟨(s.advance_same h.request todo).gate, (s.advance_same h.request todo).log⟩
  unfold stopped
  split
  · exact hadvance.trans (sameFrames_leave _ h true)
  · exact hadvance.trans ⟨rfl, rfl⟩
  · exact hadvance.trans (hthrew _)

lemma sameFrames_clause (s : Serve) (h : Handler) (todo : List Todo) :
    SameFrames s (s.clause h todo).1 :=
  sameFrames_stopped s h todo fun t => sameFrames_leave t h false

lemma sameFrames_raise (s : Serve) (h : Handler) (error : Thrown) :
    SameFrames s (s.raise h error).1 := by
  unfold raise
  split
  · exact sameFrames_leave s h false
  · exact sameFrames_clause s _ _

lemma sameFrames_run (s : Serve) (h : Handler) (todo : List Todo) :
    SameFrames s (s.run h todo).1 :=
  sameFrames_stopped s h todo fun t => sameFrames_raise t h .other

lemma sameFrames_replied (s : Serve) (h : Handler) (hook : Hook) (reply : Except Thrown Json) :
    SameFrames s (s.replied h hook reply).1 := by
  unfold replied
  split
  · exact sameFrames_run s h _
  · exact sameFrames_run s h _
  · exact sameFrames_run s h _
  · exact sameFrames_raise s h _
  · have hwait : SameFrames s
        { s with waiting := s.waiting ++ [⟨h.request, h.id, hook⟩] } := ⟨rfl, rfl⟩
    exact hwait.trans (sameFrames_leave _ h true)

lemma sameFrames_onReturned (s : Serve) (reply : Except Thrown Json) :
    SameFrames s (s.onReturned reply).1 := by
  unfold onReturned
  split
  · next h call left stack _ _ =>
    have hpop : SameFrames s { s with stack } := ⟨rfl, rfl⟩
    dsimp only
    split
    · exact hpop.trans (sameFrames_replied _ _ _ _)
    · exact hpop.trans (sameFrames_raise _ _ _)
    · exact hpop.trans (sameFrames_run _ _ _)
  · exact .refl s

lemma sameFrames_onSettled (s : Serve) (i : ℕ) (outcome : Except Thrown Json) :
    SameFrames s (s.onSettled i outcome).1 := by
  unfold onSettled
  split
  · split
    · exact .refl s
    · have htake : SameFrames s { s with waiting := s.waiting.eraseIdx i } := ⟨rfl, rfl⟩
      dsimp only
      split
      · exact htake.trans (sameFrames_run _ _ _)
      · exact htake.trans (sameFrames_raise _ _ _)
  · exact .refl s

lemma perform_frames (s : Serve) (effect : GateEffect) :
    (s.perform o effect).1.gate = s.gate ∧
      (s.perform o effect).1.log = s.log ++ (handledIn [effect]).map o.parseRequest := by
  cases effect with
  | handleRpcPayload payload =>
    have hsame : SameFrames { s with log := s.log ++ [o.parseRequest payload] }
        (s.handleRpcPayload o payload).1 := by
      unfold handleRpcPayload
      dsimp only
      split
      · next hparsed =>
        rw [hparsed]
        exact sameFrames_clause _ _ _
      · next request hparsed =>
        rw [hparsed]
        exact sameFrames_run _ _ _
    exact ⟨hsame.gate, hsame.log⟩
  | tornDown => exact ⟨rfl, (List.append_nil _).symm⟩
  | ack ack => exact ⟨rfl, (List.append_nil _).symm⟩
  | verifyDevice claim => exact ⟨rfl, (List.append_nil _).symm⟩
  | onError error => exact ⟨rfl, (List.append_nil _).symm⟩

lemma foldl_frames (effects : List GateEffect) (r : Serve × List ServeEffect) :
    (effects.foldl (fun r effect =>
        let next := r.1.perform o effect
        (next.1, r.2 ++ next.2)) r).1.gate = r.1.gate ∧
      (effects.foldl (fun r effect =>
        let next := r.1.perform o effect
        (next.1, r.2 ++ next.2)) r).1.log =
          r.1.log ++ (handledIn effects).map o.parseRequest := by
  induction effects generalizing r with
  | nil => exact ⟨rfl, (List.append_nil _).symm⟩
  | cons effect effects ih =>
    obtain ⟨hgate, hlog⟩ := perform_frames (o := o) r.1 effect
    obtain ⟨hgates, hlogs⟩ := ih ((r.1.perform o effect).1, r.2 ++ (r.1.perform o effect).2)
    refine ⟨hgates.trans hgate, ?_⟩
    rw [List.foldl_cons, hlogs]
    dsimp only
    rw [hlog, List.append_assoc, ← List.map_append, ← handledIn_append]
    rfl

lemma stepGate_frames (s : Serve) (e : GateEvent) :
    (s.stepGate o e).1.gate = (s.gate.react o.gate e).1 ∧
      (s.stepGate o e).1.log =
        s.log ++ (handledIn (s.gate.react o.gate e).2).map o.parseRequest :=
  foldl_frames _ ({ s with gate := (s.gate.react o.gate e).1 }, [])

lemma react_gate (s : Serve) (e : ServeEvent) :
    (s.react o e).1.gate = s.gate ∨
      ∃ e', e = .gate e' ∧ (s.react o e).1.gate = (s.gate.react o.gate e').1 := by
  cases e with
  | gate e =>
    have hstep : ∀ t : Serve, t.gate = s.gate →
        (t.stepGate o e).1.gate = (s.gate.react o.gate e).1 := by
      intro t ht
      rw [(t.stepGate_frames e).1, ht]
    have hgate : (s.onGate o e).1.gate = s.gate ∨
        (s.onGate o e).1.gate = (s.gate.react o.gate e).1 := by
      unfold onGate
      split
      · split
        · split
          · exact Or.inr (hstep _ rfl)
          · exact Or.inl rfl
        · exact Or.inl rfl
      · split
        · exact Or.inr (hstep s rfl)
        · exact Or.inl rfl
      · split
        · exact Or.inr (hstep s rfl)
        · exact Or.inl rfl
      · split
        · exact Or.inr (hstep s rfl)
        · exact Or.inl rfl
      · exact Or.inr (hstep s rfl)
    exact hgate.imp id fun heq => ⟨e, rfl, heq⟩
  | returned reply => exact Or.inl (sameFrames_onReturned s reply).gate
  | settled i outcome => exact Or.inl (sameFrames_onSettled s i outcome).gate
  | registry registry => exact Or.inl rfl

end Serve

end Pherry.Host
