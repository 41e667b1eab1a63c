import Pherry.Host.SizingPolicy
import Pherry.Host.ViewerAttended

/-!
# The size of a session over a run

A session with any number of viewers, each behind its own served connection. The size is the sizing
policy folded over what the viewers did, and one that departed is neither the authority nor a
candidate, where no connection closes over a record.
-/

namespace Pherry.Host

open Lib Channel Protocol

/-! ## The system -/

/-- What a call of a viewer does to the terminal. A write and the subscribers leave it alone. -/
def SessionOp.applied {σ : Type} (em : Emulator σ) (viewer : ℕ) (t : Terminal σ) : SessionOp → Terminal σ
  | observeViewer size => (t.react em (.observeViewer viewer size)).1
  | resizeViewer size => (t.react em (.resizeViewer viewer size)).1
  | releaseViewer => (t.react em (.releaseViewer viewer)).1
  | subscribe => t
  | unsubscribe => t
  | write _ => t

/-- What a call of a viewer is to the policy. -/
def SessionOp.viewing (viewer : ℕ) : SessionOp → Option (Viewing ℕ Size)
  | observeViewer size => some (.observe viewer size)
  | resizeViewer size => some (.resize viewer size)
  | _ => none

/-- The terminal of the session, and the connections of its viewers. -/
structure Viewers (σ : Type) where
  terminal : Terminal σ
  serve : ℕ → Serve

/-- Something happens at a viewer's connection, or the process writes. -/
inductive ViewersEvent
  | viewer (v : ℕ) (e : ServeEvent)
  | output (bytes : Bytes)

namespace Viewers

variable {σ : Type} (em : Emulator σ) (o : ℕ → ServeOptions) (ref : SessionRef)

/-- The calls of a viewer among effects, on the terminal. -/
def perform (viewer : ℕ) (t : Terminal σ) (effects : List ServeEffect) : Terminal σ :=
  effects.foldl (fun t effect =>
    match effect with
    | .session r op => if r = ref then op.applied em viewer t else t
    | _ => t) t

/-- One event. -/
def step (s : Viewers σ) : ViewersEvent → Viewers σ
  | .viewer v e =>
    let r := (s.serve v).react (o v) e
    { terminal := perform em ref v s.terminal r.2
      serve := Function.update s.serve v r.1 }
  | .output bytes => { s with terminal := (s.terminal.react em (.output bytes)).1 }

/-- What the policy sees of an event. -/
def viewed (s : Viewers σ) : ViewersEvent → List (Viewing ℕ Size)
  | .viewer v e =>
    ((s.serve v).react (o v) e).2.filterMap (fun
      | .session r op => if r = ref then op.viewing v else none
      | _ => none) ++
    if (s.serve v).departs ref e || (s.serve v).closes (o v) e then [.depart v] else []
  | .output _ => []

/-- No connection closes over a record. -/
def heeds (s : Viewers σ) : ViewersEvent → Bool
  | .viewer v e => (s.serve v).heeds (o v) ref e
  | .output _ => true

end Viewers

/-- A session of this size whose viewers connect, as a machine. -/
def viewersMachine {σ : Type} (em : Emulator σ) (o : ℕ → ServeOptions) (ref : SessionRef)
    (sessionId : ℕ → Bytes) (streamId : ℕ) (size : Size) : Machine (Viewers σ) ViewersEvent where
  init := ⟨.new em streamId size, fun v => .init (sessionId v)⟩
  step := Viewers.step em o ref

/-! ## What the policy sees -/

namespace Viewers

variable {σ : Type} {em : Emulator σ} {o : ℕ → ServeOptions} {ref : SessionRef}

lemma perform_eq (viewer : ℕ) (t : Terminal σ) (effects : List ServeEffect) :
    perform em ref viewer t effects
      = (callsOf ref effects).foldl (fun t op => op.applied em viewer t) t := by
  induction effects generalizing t with
  | nil => rfl
  | cons effect effects ih =>
    rw [perform, List.foldl_cons, ← perform, ih, ← List.singleton_append, callsOf_append, List.foldl_append]
    congr 1
    cases effect with
    | session r op =>
      by_cases hr : r = ref
      · cases op <;>
          simp [callsOf, Todo.viewing, hr, SessionOp.concerns, SessionOp.records, SessionOp.applied]
      · simp [callsOf, Todo.viewing, hr]
    | _ => rfl

lemma viewings_eq (viewer : ℕ) (effects : List ServeEffect) :
    effects.filterMap (fun
      | .session r op => if r = ref then op.viewing viewer else none
      | _ => none) = (callsOf ref effects).filterMap (SessionOp.viewing viewer) := by
  induction effects with
  | nil => rfl
  | cons effect effects ih =>
    rw [← List.singleton_append, List.filterMap_append, callsOf_append, List.filterMap_append, ih]
    congr 1
    cases effect with
    | session r op =>
      by_cases hr : r = ref
      · cases op <;>
          simp [callsOf, Todo.viewing, hr, SessionOp.concerns, SessionOp.records, SessionOp.viewing]
      · simp [callsOf, Todo.viewing, hr]
    | _ => rfl

lemma viewed_viewer {s : Viewers σ} {v : ℕ} {e : ServeEvent} {calls : List SessionOp}
    (h : callsOf ref ((s.serve v).react (o v) e).2 = calls) :
    viewed o ref s (.viewer v e) = calls.filterMap (SessionOp.viewing v) ++
      if (s.serve v).departs ref e || (s.serve v).closes (o v) e then [.depart v] else [] := by
  rw [viewed, viewings_eq, h]

lemma terminal_viewer (em : Emulator σ) {s : Viewers σ} {v : ℕ} {e : ServeEvent} {calls : List SessionOp}
    (h : callsOf ref ((s.serve v).react (o v) e).2 = calls) :
    (s.step em o ref (.viewer v e)).terminal
      = calls.foldl (fun t op => op.applied em v t) s.terminal := by
  rw [step, perform_eq, h]

/-! ## The policy over a run -/

/-- The terminal follows the policy, and every candidate is attended. -/
structure Sized (ref : SessionRef) (s : Viewers σ) (p : SizingPolicy ℕ Size) : Prop where
  follows : s.terminal.Follows p
  owned : p.Owned
  attended : ∀ v, (s.serve v).Attended ref (p.Candidate v)

lemma sized_init (em : Emulator σ) (o : ℕ → ServeOptions) (ref : SessionRef)
    (sessionId : ℕ → Bytes) (streamId : ℕ) (size : Size) :
    Sized ref (viewersMachine em o ref sessionId streamId size).init (.start size) where
  follows := Terminal.follows_new em streamId size
  owned := SizingPolicy.owned_fold size []
  attended v := Serve.attended_init ref (sessionId v) |>.congr (by simp [SizingPolicy.Candidate, SizingPolicy.start])

lemma Sized.viewer {s : Viewers σ} {p p' : SizingPolicy ℕ Size} (h : Sized ref s p) {v : ℕ}
    {e : ServeEvent} (hfollows : (s.step em o ref (.viewer v e)).terminal.Follows p')
    (howned : p'.Owned) (hothers : ∀ u, u ≠ v → (p'.Candidate u ↔ p.Candidate u))
    (hattended : ((s.serve v).react (o v) e).1.Attended ref (p'.Candidate v)) :
    Sized ref (s.step em o ref (.viewer v e)) p' where
  follows := hfollows
  owned := howned
  attended u := by
    by_cases hu : u = v
    · subst hu
      simpa [step] using hattended
    · have hother := (h.attended u).congr (hothers u hu).symm
      simpa [step, hu] using hother

lemma Sized.step {s : Viewers σ} {p : SizingPolicy ℕ Size} (h : Sized ref s p) (e : ViewersEvent)
    (hheeds : heeds o ref s e = true) :
    Sized ref (s.step em o ref e) ((viewed o ref s e).foldl SizingPolicy.step p) := by
  cases e with
  | output bytes =>
    have hlive : (s.terminal.react em (.output bytes)).1 =
        { s.terminal with
          mirror := em.write s.terminal.mirror bytes
          seq := s.terminal.seq + 1 } := by
      rw [Terminal.react, if_neg (by simp [h.follows.live])]
      rfl
    refine ⟨?_, h.owned, h.attended⟩
    show (s.terminal.react em (.output bytes)).1.Follows p
    obtain ⟨records, hranks, hviewports⟩ := h.follows.viewports
    rw [hlive]
    exact ⟨h.follows.live, h.follows.size, h.follows.authority, records, hranks.same rfl rfl, hviewports⟩
  | viewer v e =>
    have hlog : ∀ {calls}, callsOf ref ((s.serve v).react (o v) e).2 = calls →
        (s.serve v).departs ref e = false ∧ (s.serve v).closes (o v) e = false →
        viewed o ref s (.viewer v e) = calls.filterMap (SessionOp.viewing v) := by
      intro calls hcalls hstays
      rw [viewed_viewer hcalls, hstays.1, hstays.2]
      exact List.append_nil _
    cases (h.attended v).react e hheeds with
    | still hcalls hstays hattended =>
      rw [hlog hcalls hstays]
      refine h.viewer ?_ h.owned (fun _ _ => Iff.rfl) hattended
      rw [terminal_viewer em hcalls]
      exact h.follows
    | recorded op hop hcalls hstays hattended =>
      rw [hlog hcalls hstays]
      have hterminal := terminal_viewer em hcalls
      cases op with
      | observeViewer size =>
        refine h.viewer ?_ (h.owned.step (.observe v size))
          (fun u hu => SizingPolicy.candidate_record.trans (or_iff_right hu))
          (hattended.congr ?_)
        · rw [hterminal]
          exact h.follows.observe v size
        · exact iff_of_true trivial (SizingPolicy.candidate_record.2 (.inl rfl))
      | resizeViewer size =>
        refine h.viewer ?_ (h.owned.step (.resize v size))
          (fun u hu => SizingPolicy.candidate_record.trans (or_iff_right hu))
          (hattended.congr ?_)
        · rw [hterminal]
          exact h.follows.resize em v size
        · exact iff_of_true trivial (SizingPolicy.candidate_record.2 (.inl rfl))
      | _ => cases hop
    | departed hcalls hdeparts hattended =>
      have hviewed : viewed o ref s (.viewer v e) = [.depart v] := by
        rw [viewed_viewer hcalls, if_pos (by simpa using hdeparts)]
        rfl
      rw [hviewed]
      refine h.viewer ?_ (h.owned.step (.depart v))
        (fun u hu => SizingPolicy.candidate_depart.trans (and_iff_left hu)) (hattended.congr ?_)
      · rw [terminal_viewer em hcalls]
        exact h.follows.release em h.owned v
      · exact iff_of_false id fun hnow => (SizingPolicy.candidate_depart.1 hnow).2 rfl
    | absent hcalls habsent hattended =>
      -- a departure of one that is not attached changes nothing
      have hsame := h.owned.depart_of_absent habsent
      have hviewed : ∀ calls, calls = [] ∨ calls = [SessionOp.releaseViewer] →
          callsOf ref ((s.serve v).react (o v) e).2 = calls →
          (viewed o ref s (.viewer v e)).foldl SizingPolicy.step p = p := by
        intro calls hone hcalls
        have hnone : calls.filterMap (SessionOp.viewing v) = [] := by
          rcases hone with rfl | rfl <;> rfl
        rw [viewed_viewer hcalls, hnone, List.nil_append]
        split
        · exact hsame
        · rfl
      rw [hviewed _ hcalls rfl]
      refine h.viewer ?_ h.owned (fun _ _ => Iff.rfl) (hattended.congr (iff_of_false id habsent))
      rcases hcalls with hcalls | hcalls
      · rw [terminal_viewer em hcalls]
        exact h.follows
      · rw [terminal_viewer em hcalls]
        have hreleased := h.follows.release em h.owned v
        rw [hsame] at hreleased
        exact hreleased

end Viewers

/-- A viewer is neither the authority nor a candidate. -/
structure Terminal.Gone {σ : Type} (t : Terminal σ) (viewer : ℕ) : Prop where
  authority : t.authority ≠ some viewer
  candidate : t.viewports.get viewer = none

/-- The terminal has the size and the authority that the policy folds to, with its candidates; and a
viewer that departed and was not recorded since, or whose connection is closed, is gone. -/
structure SizedByPolicy {σ : Type} (s : Viewers σ) (size : Size) (history : List (Viewing ℕ Size)) :
    Prop where
  sized : s.terminal.size = (SizingPolicy.fold size history).size
  authority : s.terminal.authority = (SizingPolicy.fold size history).authority
  candidates : ∀ v, (s.terminal.viewports.get v).isSome = true ↔
    (SizingPolicy.fold size history).Candidate v
  departed : ∀ v before after, history = before ++ .depart v :: after →
    (∀ e ∈ after, ¬ e.Records v) → s.terminal.Gone v
  closed : ∀ v, (s.serve v).gate.closed = true → s.terminal.Gone v

section Runs

variable {σ : Type} (em : Emulator σ) (o : ℕ → ServeOptions) (ref : SessionRef)
  (sessionId : ℕ → Bytes) (streamId : ℕ) (size : Size)

/-- What the policy sees of a run. -/
def sizingHistory (es : List ViewersEvent) : List (Viewing ℕ Size) :=
  (viewersMachine em o ref sessionId streamId size).outputs (Viewers.viewed o ref) es

variable {em o ref sessionId streamId size}

lemma sized_run {es : List ViewersEvent}
    (h : (viewersMachine em o ref sessionId streamId size).Meets
      (fun s e => Viewers.heeds o ref s e = true) es) :
    Viewers.Sized ref ((viewersMachine em o ref sessionId streamId size).run es)
      (SizingPolicy.fold size (sizingHistory em o ref sessionId streamId size es)) := by
  induction es using List.reverseRecOn with
  | nil => exact Viewers.sized_init em o ref sessionId streamId size
  | append_singleton es e ih =>
    obtain ⟨hbefore, hheeds⟩ := (Machine.meets_snoc _).1 h
    rw [sizingHistory, Machine.outputs_snoc, SizingPolicy.fold_append, Machine.run_snoc]
    exact (ih hbefore).step e hheeds

end Runs

/-! ## A laptop and a phone -/

namespace TwoViewers

lemma matchesId_someRef : matchesId (js "sref") (js "sref_00000000000000000000000000000000") = true := by
  decide

/-- The session. -/
def someRef : SessionRef := ⟨js "sref_00000000000000000000000000000000", matchesId_someRef⟩

/-- A controller that types and watches. -/
def hello : Hello where
  role := .controller
  protocol := protocolVersion
  capabilities := [ptyStream, sessionInput]
  publicKey := []
  deviceKeyId := js "0000000000000000"
  deviceAuth := []

/-- The laptop is viewer 0, the phone the others. -/
def screen (v : ℕ) : Size := if v = 0 then ⟨120, 40⟩ else ⟨40, 20⟩

/-- A payload is a Hello, a resize to the viewer's screen, or an unsubscribe. -/
def options (v : ℕ) : ServeOptions where
  gate :=
    { parseHello := fun payload => if payload = [1] then some hello else none
      capabilities := hello.capabilities
      verifyDevice := false }
  parseRequest payload :=
    if payload = [2] then some ⟨js "1", js "session.resize", none⟩
    else if payload = [3] then some ⟨js "2", js "session.unsubscribe", none⟩
    else none
  parseParams
    | .resize, _ => .ok (someRef, screen v)
    | .unsubscribe, _ => .ok someRef
    | _, _ => .error .null
  custody := false
  listSessions := false
  launch := false

/-- A mirror that shows nothing. -/
def blank : Emulator Unit := ⟨fun _ => (), fun _ _ => (), fun _ _ => (), fun _ => []⟩

/-- A viewer connects and asks for its size, and the resize ends so. -/
def resizing (v : ℕ) (reply : Except Thrown Json) : List ViewersEvent :=
  [.gate (.frame ⟨.control, [1]⟩), .gate (.ackReturned true),
    .registry (fun _ => some ⟨0, 0⟩), .gate (.frame ⟨.control, [2]⟩), .returned reply,
    .returned (.ok .null), .gate (.handlerReturned true)].map (.viewer v)

/-- The laptop and the phone resize, and the phone leaves. -/
def peek (reply : Except Thrown Json) : List ViewersEvent :=
  resizing 0 (.ok .null) ++ resizing 1 reply ++ [.viewer 1 (.gate .channelClosed)]

/-- The machine of the example. -/
def machine : Machine (Viewers Unit) ViewersEvent :=
  viewersMachine blank options someRef (fun _ => []) 0 ⟨80, 24⟩

/-- What the policy sees of it. -/
def history (es : List ViewersEvent) : List (Viewing ℕ Size) :=
  sizingHistory blank options someRef (fun _ => []) 0 ⟨80, 24⟩ es

end TwoViewers

end Pherry.Host
