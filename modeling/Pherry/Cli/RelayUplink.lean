import Mathlib.Algebra.Order.Field.Rat
import Pherry.Lib.Machine

/-!
# The relay uplink

The loop of a docked daemon that dials a cell, registers with it and dials again behind a backoff, and
the registration with its data connections. An event is what an await comes to: a dial, a message of
the cell, a timer, the continuation of the loop. A callback may call `close`; `send` does not throw.
-/

namespace Pherry.Cli

open Lib

/-! ## The loop and its registration -/

/-- A data connection: in its dial, open before and behind `data-ready`, or closed. -/
inductive LegPhase
  | dialing
  | authenticating
  | bridged
  | closed
deriving DecidableEq

/-- A data connection, and whether its registration has been torn down. -/
structure DataLeg where
  phase : LegPhase
  torn : Bool

/-- What the loop awaits: the dial of the control connection, the exchange on it, the end of the
registration, its own continuation behind that, the backoff timer, or its continuation behind that.
It remembers whether the registration that is over was a success. -/
inductive LoopPhase
  | dialing
  | registering (challenged : Bool)
  | registered
  | settled (success : Bool)
  | sleeping (ms : ℚ) (success : Bool)
  | woken
  | done
deriving DecidableEq

/-- `backoff`. -/
structure Backoff where
  initialMs : ℚ
  maxMs : ℚ
  factor : ℚ

/-- The variables of `startRelayUplink`, what its loop awaits, the data connections dialed so far, and
how often the control connection was dialed. -/
structure Uplink where
  closed : Bool
  heartbeat : Bool
  phase : LoopPhase
  backoffDelay : ℚ
  legs : List DataLeg
  dials : ℕ

/-- What happens; `closes` says that the callback of a report, or `onConnection`, calls `close`. -/
inductive UplinkEvent
  | dialed (ok : Bool)
  | challenged
  | acknowledged (closes : Bool)
  | refused
  | dropped
  | connOpen
  | legDialed (j : ℕ) (ok : Bool)
  | legReady (j : ℕ) (throws closes : Bool)
  | legFailed (j : ℕ)
  | legClosed (j : ℕ)
  | timerFired
  | proceed (closes : Bool)
  | close

namespace DataLeg

/-- The dial is over; a connection of a registration that is torn down is closed at once. -/
def dialed (l : DataLeg) (ok : Bool) : DataLeg :=
  match l.phase with
  | .dialing => { l with phase := if ok ∧ l.torn = false then .authenticating else .closed }
  | _ => l

/-- `data-ready` has come. -/
def ready (l : DataLeg) : DataLeg :=
  match l.phase with
  | .authenticating => { l with phase := .bridged }
  | _ => l

/-- The connection is closed, by a refusal of the cell or by whoever has it. -/
def close (l : DataLeg) : DataLeg :=
  match l.phase with
  | .dialing => l
  | _ => { l with phase := .closed }

/-- Its registration is torn down. -/
def tearDown (l : DataLeg) : DataLeg := { l.close with torn := true }

/-- It is open. -/
def isOpen (l : DataLeg) : Bool := l.phase = .authenticating ∨ l.phase = .bridged

end DataLeg

namespace Uplink

/-- `teardown` of the live registration, with the `finish` of its `onClose`. -/
def tearDown (s : Uplink) : Uplink :=
  { s with phase := .settled true, legs := s.legs.map DataLeg.tearDown }

/-- `close`. -/
def close (s : Uplink) : Uplink :=
  if s.closed then s
  else
    let stopped := { s with closed := true, heartbeat := false }
    match s.phase with
    | .sleeping _ _ => { stopped with phase := .woken }
    | .registered => stopped.tearDown
    | _ => stopped

/-- A callback runs. -/
def callback (s : Uplink) (closes : Bool) : Uplink := if closes then s.close else s

/-- The next step of the loop. -/
def proceed (b : Backoff) (s : Uplink) (closes : Bool) : Uplink :=
  match s.phase with
  | .settled success =>
    if s.closed then { s with phase := .done }
    else
      let reported := s.callback closes
      { reported with phase := .sleeping reported.backoffDelay success }
  | .woken =>
    let grown := { s with backoffDelay := min b.maxMs (s.backoffDelay * b.factor) }
    if s.closed then { grown with phase := .done }
    else
      let reported := grown.callback closes
      { reported with phase := .dialing, dials := reported.dials + 1 }
  | _ => s

/-- A step; an event that nothing awaits is none. -/
def react (b : Backoff) (s : Uplink) : UplinkEvent → Uplink
  | .dialed ok =>
    match s.phase with
    | .dialing => { s with phase := if ok then .registering false else .settled false }
    | _ => s
  | .challenged =>
    match s.phase with
    | .registering _ => { s with phase := .registering true }
    | _ => s
  | .acknowledged closes =>
    match s.phase with
    | .registering true =>
      if s.closed then { s with phase := .settled false }
      else { s with phase := .registered, backoffDelay := b.initialMs }.callback closes
    | .registering false => { s with phase := .settled false }
    | _ => s
  | .refused =>
    match s.phase with
    | .registering _ => { s with phase := .settled false }
    | _ => s
  | .dropped =>
    match s.phase with
    | .registered => s.tearDown
    | _ => s
  | .connOpen =>
    match s.phase with
    | .registered => { s with legs := s.legs ++ [⟨.dialing, false⟩] }
    -- it came in one chunk with the `close` of the cell, whose dispatch goes on
    | .settled true => if s.closed then s else { s with legs := s.legs ++ [⟨.dialing, true⟩] }
    | _ => s
  | .legDialed j ok => { s with legs := s.legs.modify j fun l => l.dialed ok }
  | .legReady j throws closes =>
    match s.legs[j]? with
    | some ⟨.authenticating, _⟩ =>
      let called := { s with legs := s.legs.modify j DataLeg.ready }.callback closes
      if throws then { called with legs := called.legs.modify j DataLeg.close } else called
    | _ => s
  | .legFailed j => { s with legs := s.legs.modify j DataLeg.close }
  | .legClosed j => { s with legs := s.legs.modify j DataLeg.close }
  | .timerFired =>
    match s.phase with
    | .sleeping _ _ => { s with phase := .woken }
    | _ => s
  | .proceed closes => s.proceed b closes
  | .close => s.close

end Uplink

/-- An uplink that has just been started: the heartbeat runs and the first dial is under way. -/
def uplinkMachine (b : Backoff) : Machine Uplink UplinkEvent :=
  ⟨⟨false, true, .dialing, b.initialMs, [], 1⟩, Uplink.react b⟩

/-! ## What it promises -/

/-- The loop is between the end of a registration and the next dial. -/
def Uplink.isWaiting (s : Uplink) : Bool :=
  match s.phase with
  | .settled _ | .sleeping _ _ | .woken => true
  | _ => false

variable (b : Backoff) (es : List UplinkEvent)

/-- Behind `close`, once no dial is in flight, no timer is armed and no connection is open, and there
is no further dial; before, a backoff timer runs between the bounds, and for the initial delay behind
a success, and the end of a registration is followed by a dial, unless the loop still waits for its
timer or its own continuation, which leads on to the dial. -/
structure UplinkLaw : Prop where
  quiet : ((uplinkMachine b).run es).closed = true → ((uplinkMachine b).run es).phase ≠ .dialing →
    (∀ l ∈ ((uplinkMachine b).run es).legs, l.phase ≠ .dialing) →
    ((uplinkMachine b).run es).heartbeat = false ∧
      (∀ ms success, ((uplinkMachine b).run es).phase ≠ .sleeping ms success) ∧
      (∀ challenged, ((uplinkMachine b).run es).phase ≠ .registering challenged) ∧
      ((uplinkMachine b).run es).phase ≠ .registered ∧
      ∀ l ∈ ((uplinkMachine b).run es).legs, l.isOpen = false
  noDial : ∀ pre e post, es = pre ++ e :: post → ((uplinkMachine b).run pre).closed = true →
    ((uplinkMachine b).run (pre ++ [e])).dials = ((uplinkMachine b).run pre).dials ∧
      ((uplinkMachine b).run (pre ++ [e])).legs.length = ((uplinkMachine b).run pre).legs.length
  delays : ∀ ms success, ((uplinkMachine b).run es).phase = .sleeping ms success →
    b.initialMs ≤ ms ∧ ms ≤ b.maxMs ∧ (success = true → ms = b.initialMs)
  redials : ∀ pre post success, es = pre ++ post →
    ((uplinkMachine b).run pre).phase = .settled success → ((uplinkMachine b).run es).closed = false →
    ((uplinkMachine b).run pre).dials < ((uplinkMachine b).run es).dials ∨
      ((uplinkMachine b).run es).isWaiting = true
  onward : ((uplinkMachine b).run es).closed = false →
    (∀ success, ((uplinkMachine b).run es).phase = .settled success →
      ((uplinkMachine b).run (es ++ [.proceed false])).phase =
        .sleeping ((uplinkMachine b).run es).backoffDelay success) ∧
    (∀ ms success, ((uplinkMachine b).run es).phase = .sleeping ms success →
      ((uplinkMachine b).run (es ++ [.timerFired])).phase = .woken) ∧
    (((uplinkMachine b).run es).phase = .woken →
      ((uplinkMachine b).run (es ++ [.proceed false])).phase = .dialing ∧
      ((uplinkMachine b).run (es ++ [.proceed false])).dials =
        ((uplinkMachine b).run es).dials + 1)

/-- `close` is not called while the cell has to answer the registration, nor by the callback of a
report of the loop, and a dial that is in flight when it is called fails. -/
def Uplink.isOrderly (s : Uplink) : UplinkEvent → Bool
  | .dialed ok => !(s.closed && ok)
  | .close =>
    match s.phase with
    | .registering _ => false
    | _ => true
  | .proceed closes => s.closed || !closes
  | _ => true

/-! ## Every run -/

variable {b} {es} {s : Uplink}

/-- What a closed uplink awaits, and what becomes of its connections and delays. -/
structure Uplink.Tidy (b : Backoff) (s : Uplink) : Prop where
  stopped : s.closed = true → s.heartbeat = false ∧
    (s.phase = .dialing ∨ (∃ success, s.phase = .settled success) ∨ s.phase = .woken ∨ s.phase = .done)
  torn : s.phase ≠ .registered → ∀ l ∈ s.legs, l.torn = true
  shut : ∀ l ∈ s.legs, l.torn = true → l.isOpen = false
  low : b.initialMs ≤ s.backoffDelay
  high : s.backoffDelay ≤ b.maxMs
  reset : s.phase = .registered ∨ s.phase = .settled true → s.backoffDelay = b.initialMs
  slept : ∀ ms success, s.phase = .sleeping ms success →
    b.initialMs ≤ ms ∧ ms ≤ b.maxMs ∧ (success = true → ms = b.initialMs)

lemma shut_modify {legs : List DataLeg} {j : ℕ} {f : DataLeg → DataLeg}
    (h : ∀ l ∈ legs, l.torn = true → l.isOpen = false)
    (hf : ∀ l : DataLeg, (l.torn = true → l.isOpen = false) → (f l).torn = true → (f l).isOpen = false) :
    ∀ l ∈ legs.modify j f, l.torn = true → l.isOpen = false := by
  intro l hl
  obtain ⟨k, hk⟩ := List.mem_iff_getElem?.1 hl
  rw [List.getElem?_modify] at hk
  obtain ⟨l', hl', rfl⟩ := Option.map_eq_some_iff.1 hk
  have hbefore := h l' (List.mem_of_getElem? hl')
  split
  · exact hf l' hbefore
  · exact hbefore

lemma torn_modify {legs : List DataLeg} {j : ℕ} {f : DataLeg → DataLeg}
    (h : ∀ l ∈ legs, l.torn = true) (hf : ∀ l : DataLeg, (f l).torn = l.torn) :
    ∀ l ∈ legs.modify j f, l.torn = true := by
  intro l hl
  obtain ⟨k, hk⟩ := List.mem_iff_getElem?.1 hl
  rw [List.getElem?_modify] at hk
  obtain ⟨l', hl', rfl⟩ := Option.map_eq_some_iff.1 hk
  have hbefore := h l' (List.mem_of_getElem? hl')
  split
  · rw [hf]
    exact hbefore
  · exact hbefore

namespace DataLeg

variable {l : DataLeg}

lemma torn_dialed (ok : Bool) : (l.dialed ok).torn = l.torn := by
  rw [dialed]
  split <;> rfl

lemma torn_ready : l.ready.torn = l.torn := by
  rw [ready]
  split <;> rfl

lemma torn_close : l.close.torn = l.torn := by
  rw [close]
  split <;> rfl

lemma isOpen_close : l.close.isOpen = false := by
  obtain ⟨phase, torn⟩ := l
  cases phase <;> rfl

lemma shut_dialed {ok : Bool} (h : l.torn = true → l.isOpen = false) :
    (l.dialed ok).torn = true → (l.dialed ok).isOpen = false := by
  obtain ⟨phase, torn⟩ := l
  cases phase <;> cases torn <;> cases ok <;> first | exact h | simp [dialed, isOpen]

lemma shut_ready (h : l.torn = true → l.isOpen = false) :
    l.ready.torn = true → l.ready.isOpen = false := by
  obtain ⟨phase, torn⟩ := l
  cases phase with
  | authenticating =>
    intro htorn
    cases h htorn
  | dialing => exact h
  | bridged => exact h
  | closed => exact h

end DataLeg

namespace Uplink

lemma Tidy.modify (h : Tidy b s) (j : ℕ) {f : DataLeg → DataLeg}
    (htorn : ∀ l : DataLeg, (f l).torn = l.torn)
    (hshut : ∀ l : DataLeg, (l.torn = true → l.isOpen = false) → (f l).torn = true →
      (f l).isOpen = false) : Tidy b { s with legs := s.legs.modify j f } :=
  { h with
    torn := fun hphase => torn_modify (h.torn hphase) htorn
    shut := shut_modify h.shut hshut }

lemma Tidy.goTo (h : Tidy b s) {phase : LoopPhase} (hregistered : s.phase ≠ .registered)
    (hphase : phase ≠ .registered)
    (hstopped : s.closed = true →
      phase = .dialing ∨ (∃ success, phase = .settled success) ∨ phase = .woken ∨ phase = .done)
    (hreset : phase ≠ .settled true) (hslept : ∀ ms success, phase ≠ .sleeping ms success) :
    Tidy b { s with phase := phase } :=
  { h with
    stopped := fun hclosed => ⟨(h.stopped hclosed).1, hstopped hclosed⟩
    torn := fun _ => h.torn hregistered
    reset := fun hor => hor.elim (fun h' => absurd h' hphase) fun h' => absurd h' hreset
    slept := fun ms success h' => absurd h' (hslept ms success) }

lemma Tidy.tearDown (h : Tidy b s) (hreset : s.backoffDelay = b.initialMs)
    (hstopped : s.closed = true → s.heartbeat = false) : Tidy b s.tearDown := by
  refine ⟨fun hclosed => ⟨hstopped hclosed, Or.inr (Or.inl ⟨true, rfl⟩)⟩, fun _ l hl => ?_,
    fun l hl _ => ?_, h.low, h.high, fun _ => hreset, fun ms success hphase => ?_⟩
  · obtain ⟨l', -, rfl⟩ := List.mem_map.1 hl
    rfl
  · obtain ⟨l', -, rfl⟩ := List.mem_map.1 hl
    exact l'.isOpen_close
  · cases hphase

lemma Tidy.close (h : Tidy b s) (hanswered : ∀ challenged, s.phase ≠ .registering challenged) :
    Tidy b s.close := by
  rw [Uplink.close]
  split
  · exact h
  · have hcases : (s.phase = .dialing ∨ (∃ success, s.phase = .settled success) ∨ s.phase = .woken ∨
        s.phase = .done) ∨ s.phase = .registered ∨ ∃ ms success, s.phase = .sleeping ms success := by
      revert hanswered
      generalize s.phase = phase
      intro hanswered
      cases phase with
      | registering challenged => exact absurd rfl (hanswered challenged)
      | _ => simp
    simp only
    split
    · next ms success hsleeping =>
      refine ⟨fun _ => ⟨rfl, Or.inr (Or.inr (Or.inl rfl))⟩, fun _ => h.torn (by rw [hsleeping]; simp),
        h.shut, h.low, h.high, fun hor => ?_, fun ms success hphase => ?_⟩
      · rcases hor with hphase | hphase <;> cases hphase
      · cases hphase
    · next hregistered =>
      have hreset := h.reset (Or.inl hregistered)
      refine ⟨fun _ => ⟨rfl, Or.inr (Or.inl ⟨true, rfl⟩)⟩, fun _ l hl => ?_, fun l hl _ => ?_, h.low,
        h.high, fun _ => hreset, fun ms success hphase => ?_⟩
      · obtain ⟨l', -, rfl⟩ := List.mem_map.1 hl
        rfl
      · obtain ⟨l', -, rfl⟩ := List.mem_map.1 hl
        exact l'.isOpen_close
      · cases hphase
    · next hsleeping hregistered =>
      rcases hcases with hstill | hphase | ⟨ms, success, hphase⟩
      · exact { h with stopped := fun _ => ⟨rfl, hstill⟩ }
      · exact absurd hphase hregistered
      · exact absurd hphase (hsleeping ms success)

lemma Tidy.callback (h : Tidy b s) (closes : Bool)
    (hanswered : ∀ challenged, s.phase ≠ .registering challenged) : Tidy b (s.callback closes) := by
  rw [Uplink.callback]
  split
  · exact h.close hanswered
  · exact h

lemma Tidy.registered_of_authenticating (h : Tidy b s) {j : ℕ} {torn : Bool}
    (hleg : s.legs[j]? = some ⟨.authenticating, torn⟩) : s.phase = .registered := by
  by_contra hphase
  have hmem := List.mem_of_getElem? hleg
  have hopen := h.shut _ hmem (h.torn hphase _ hmem)
  cases hopen

lemma Tidy.react (h : Tidy b s) (hpos : 0 ≤ b.initialMs) (hmax : b.initialMs ≤ b.maxMs)
    (hfactor : 1 ≤ b.factor) {e : UplinkEvent} (hc : s.isOrderly e = true) : Tidy b (s.react b e) := by
  cases e with
  | dialed ok =>
    unfold Uplink.react
    dsimp only
    split
    · next hdialing =>
      have hnot : s.phase ≠ .registered := by rw [hdialing]; simp
      cases ok with
      | true =>
        refine h.goTo hnot (by simp) (fun hclosed => ?_) (by simp) (by simp)
        rw [Uplink.isOrderly, hclosed] at hc
        cases hc
      | false => exact h.goTo hnot (by simp) (fun _ => Or.inr (Or.inl ⟨_, rfl⟩)) (by simp) (by simp)
    · exact h
  | challenged =>
    unfold Uplink.react
    dsimp only
    split
    · next challenged hphase =>
      have hnot : s.phase ≠ .registered := by rw [hphase]; simp
      refine h.goTo hnot (by simp) (fun hclosed => ?_) (by simp) (by simp)
      rcases (h.stopped hclosed).2 with h' | ⟨_, h'⟩ | h' | h' <;> rw [hphase] at h' <;> cases h'
    · exact h
  | acknowledged closes =>
    unfold Uplink.react
    dsimp only
    split
    · next hphase =>
      have hnot : s.phase ≠ .registered := by rw [hphase]; simp
      split
      · exact h.goTo hnot (by simp) (fun _ => Or.inr (Or.inl ⟨_, rfl⟩)) (by simp) (by simp)
      · next hopen =>
        have hlive : Tidy b { s with phase := .registered, backoffDelay := b.initialMs } := by
          refine ⟨fun hclosed => absurd hclosed hopen, fun hphase' => absurd rfl hphase',
            h.shut, le_rfl, hmax, fun _ => rfl, fun ms success hphase' => ?_⟩
          cases hphase'
        exact hlive.callback closes (by simp)
    · next hphase =>
      have hnot : s.phase ≠ .registered := by rw [hphase]; simp
      exact h.goTo hnot (by simp) (fun _ => Or.inr (Or.inl ⟨_, rfl⟩)) (by simp) (by simp)
    · exact h
  | refused =>
    unfold Uplink.react
    dsimp only
    split
    · next challenged hphase =>
      have hnot : s.phase ≠ .registered := by rw [hphase]; simp
      exact h.goTo hnot (by simp) (fun _ => Or.inr (Or.inl ⟨_, rfl⟩)) (by simp) (by simp)
    · exact h
  | dropped =>
    unfold Uplink.react
    dsimp only
    split
    · next hphase =>
      exact h.tearDown (h.reset (Or.inl hphase)) fun hclosed => (h.stopped hclosed).1
    · exact h
  | connOpen =>
    unfold Uplink.react
    dsimp only
    split
    · next hphase =>
      refine { h with torn := fun hphase' => absurd hphase hphase', shut := fun l hl htorn => ?_ }
      rcases List.mem_append.1 hl with hl | hl
      · exact h.shut l hl htorn
      · rw [List.mem_singleton.1 hl]
        rfl
    · next hphase =>
      have hnot : s.phase ≠ .registered := by rw [hphase]; simp
      split
      · exact h
      · refine { h with torn := fun _ l hl => ?_, shut := fun l hl htorn => ?_ }
        · rcases List.mem_append.1 hl with hl | hl
          · exact h.torn hnot l hl
          · rw [List.mem_singleton.1 hl]
        · rcases List.mem_append.1 hl with hl | hl
          · exact h.shut l hl htorn
          · rw [List.mem_singleton.1 hl]
            rfl
    · exact h
  | legDialed j ok => exact h.modify j (fun l => l.torn_dialed ok) fun l hl => l.shut_dialed hl
  | legReady j throws closes =>
    unfold Uplink.react
    dsimp only
    split
    · next torn hleg =>
      have hregistered := h.registered_of_authenticating hleg
      have hcalled := (h.modify j (fun l => l.torn_ready) fun l hl => l.shut_ready hl).callback closes
        (fun challenged hphase => by
          rw [show s.phase = .registering challenged from hphase] at hregistered
          cases hregistered)
      split
      · exact hcalled.modify j (fun l => l.torn_close) fun l _ _ => l.isOpen_close
      · exact hcalled
    · exact h
  | legFailed j => exact h.modify j (fun l => l.torn_close) fun l _ _ => l.isOpen_close
  | legClosed j => exact h.modify j (fun l => l.torn_close) fun l _ _ => l.isOpen_close
  | timerFired =>
    unfold Uplink.react
    dsimp only
    split
    · next ms success hphase =>
      have hnot : s.phase ≠ .registered := by rw [hphase]; simp
      exact h.goTo hnot (by simp) (fun _ => Or.inr (Or.inr (Or.inl rfl))) (by simp) (by simp)
    · exact h
  | proceed closes =>
    show Tidy b (s.proceed b closes)
    rw [Uplink.proceed]
    rw [Uplink.isOrderly] at hc
    split
    · next success hphase =>
      have hnot : s.phase ≠ .registered := by rw [hphase]; simp
      split
      · exact h.goTo hnot (by simp) (fun _ => Or.inr (Or.inr (Or.inr rfl))) (by simp) (by simp)
      · next hopen =>
        have hquiet : closes = false := by
          cases closes with
          | false => rfl
          | true =>
            rw [Bool.not_eq_true] at hopen
            rw [hopen] at hc
            cases hc
        subst hquiet
        refine ⟨fun hclosed => absurd hclosed hopen, fun _ => h.torn hnot, h.shut, h.low, h.high,
          fun hor => ?_, fun ms success' hsleeping => ?_⟩
        · rcases hor with hphase' | hphase' <;> cases hphase'
        · cases hsleeping
          refine ⟨h.low, h.high, fun hsuccess => ?_⟩
          subst hsuccess
          exact h.reset (Or.inr hphase)
    · next hphase =>
      have hnot : s.phase ≠ .registered := by rw [hphase]; simp
      have hlow : b.initialMs ≤ s.backoffDelay * b.factor := by
        calc b.initialMs ≤ s.backoffDelay := h.low
          _ = s.backoffDelay * 1 := (mul_one _).symm
          _ ≤ s.backoffDelay * b.factor :=
            mul_le_mul_of_nonneg_left hfactor (hpos.trans h.low)
      have hgrown : Tidy b { s with backoffDelay := min b.maxMs (s.backoffDelay * b.factor) } := by
        refine { h with low := le_min hmax hlow, high := min_le_left _ _, reset := fun hor => ?_ }
        rcases hor with hphase' | hphase'
        · exact absurd hphase' hnot
        · rw [show s.phase = .settled true from hphase'] at hphase
          cases hphase
      split
      · exact hgrown.goTo hnot (by simp) (fun _ => Or.inr (Or.inr (Or.inr rfl))) (by simp) (by simp)
      · next hopen =>
        have hquiet : closes = false := by
          cases closes with
          | false => rfl
          | true =>
            rw [Bool.not_eq_true] at hopen
            rw [hopen] at hc
            cases hc
        subst hquiet
        have hdialing : Tidy b { s with
            phase := .dialing, backoffDelay := min b.maxMs (s.backoffDelay * b.factor) } :=
          hgrown.goTo hnot (by simp) (fun _ => Or.inl rfl) (by simp) (by simp)
        exact { hdialing with }
    · exact h
  | close =>
    refine h.close fun challenged hphase => ?_
    rw [Uplink.isOrderly, hphase] at hc
    cases hc

/-! ## One step -/

@[simp] lemma closed_close : s.close.closed = true := by
  rw [Uplink.close]
  split
  · assumption
  · dsimp only
    split <;> rfl

@[simp] lemma dials_close : s.close.dials = s.dials := by
  rw [Uplink.close]
  split
  · rfl
  · dsimp only
    split <;> rfl

lemma callback_of_closed (hclosed : s.closed = true) (closes : Bool) : s.callback closes = s := by
  rw [Uplink.callback, Uplink.close, if_pos hclosed, ite_self]

@[simp] lemma dials_callback (closes : Bool) : (s.callback closes).dials = s.dials := by
  rw [Uplink.callback]
  split
  · exact dials_close
  · rfl

lemma react_mono (e : UplinkEvent) :
    (s.closed = true → (s.react b e).closed = true) ∧ s.dials ≤ (s.react b e).dials := by
  cases e with
  | dialed ok =>
    unfold Uplink.react
    dsimp only
    split <;> exact ⟨id, le_rfl⟩
  | challenged =>
    unfold Uplink.react
    dsimp only
    split <;> exact ⟨id, le_rfl⟩
  | acknowledged closes =>
    unfold Uplink.react
    dsimp only
    split
    · split
      · exact ⟨id, le_rfl⟩
      · next hopen => exact ⟨fun hclosed => absurd hclosed hopen, by simp⟩
    · exact ⟨id, le_rfl⟩
    · exact ⟨id, le_rfl⟩
  | refused =>
    unfold Uplink.react
    dsimp only
    split <;> exact ⟨id, le_rfl⟩
  | dropped =>
    unfold Uplink.react
    dsimp only
    split <;> exact ⟨id, le_rfl⟩
  | connOpen =>
    unfold Uplink.react
    dsimp only
    split
    · exact ⟨id, le_rfl⟩
    · split <;> exact ⟨id, le_rfl⟩
    · exact ⟨id, le_rfl⟩
  | legDialed j ok => exact ⟨id, le_rfl⟩
  | legReady j throws closes =>
    unfold Uplink.react
    dsimp only
    split
    · refine ⟨fun hclosed => ?_, ?_⟩
      · rw [callback_of_closed (by exact hclosed)]
        split <;> exact hclosed
      · split <;> simp
    · exact ⟨id, le_rfl⟩
  | legFailed j => exact ⟨id, le_rfl⟩
  | legClosed j => exact ⟨id, le_rfl⟩
  | timerFired =>
    unfold Uplink.react
    dsimp only
    split <;> exact ⟨id, le_rfl⟩
  | proceed closes =>
    show (s.closed = true → (s.proceed b closes).closed = true) ∧ s.dials ≤ (s.proceed b closes).dials
    rw [Uplink.proceed]
    split
    · split
      · exact ⟨id, le_rfl⟩
      · next hopen => exact ⟨fun hclosed => absurd hclosed hopen, by simp⟩
    · split
      · exact ⟨id, le_rfl⟩
      · next hopen => exact ⟨fun hclosed => absurd hclosed hopen, by simp⟩
    · exact ⟨id, le_rfl⟩
  | close => exact ⟨fun _ => closed_close, dials_close.ge⟩

lemma Tidy.still (h : Tidy b s) (hclosed : s.closed = true) (e : UplinkEvent) :
    (s.react b e).dials = s.dials ∧ (s.react b e).legs.length = s.legs.length := by
  have hphase := (h.stopped hclosed).2
  cases e with
  | dialed ok =>
    unfold Uplink.react
    dsimp only
    split <;> exact ⟨rfl, rfl⟩
  | challenged =>
    unfold Uplink.react
    dsimp only
    split <;> exact ⟨rfl, rfl⟩
  | acknowledged closes =>
    unfold Uplink.react
    dsimp only
    split
    · rw [if_pos hclosed]
      exact ⟨rfl, rfl⟩
    · exact ⟨rfl, rfl⟩
    · exact ⟨rfl, rfl⟩
  | refused =>
    unfold Uplink.react
    dsimp only
    split <;> exact ⟨rfl, rfl⟩
  | dropped =>
    unfold Uplink.react
    dsimp only
    split
    · exact ⟨rfl, List.length_map _⟩
    · exact ⟨rfl, rfl⟩
  | connOpen =>
    unfold Uplink.react
    dsimp only
    split
    · next hregistered =>
      rcases hphase with h' | ⟨_, h'⟩ | h' | h' <;> rw [hregistered] at h' <;> cases h'
    · rw [if_pos hclosed]
      exact ⟨rfl, rfl⟩
    · exact ⟨rfl, rfl⟩
  | legDialed j ok => exact ⟨rfl, List.length_modify _ _ _⟩
  | legReady j throws closes =>
    unfold Uplink.react
    dsimp only
    split
    · rw [callback_of_closed (by exact hclosed)]
      split
      · exact ⟨rfl, (List.length_modify _ _ _).trans (List.length_modify _ _ _)⟩
      · exact ⟨rfl, List.length_modify _ _ _⟩
    · exact ⟨rfl, rfl⟩
  | legFailed j => exact ⟨rfl, List.length_modify _ _ _⟩
  | legClosed j => exact ⟨rfl, List.length_modify _ _ _⟩
  | timerFired =>
    unfold Uplink.react
    dsimp only
    split <;> exact ⟨rfl, rfl⟩
  | proceed closes =>
    show (s.proceed b closes).dials = s.dials ∧ (s.proceed b closes).legs.length = s.legs.length
    rw [Uplink.proceed]
    split
    · rw [if_pos hclosed]
      exact ⟨rfl, rfl⟩
    · rw [if_pos hclosed]
      exact ⟨rfl, rfl⟩
    · exact ⟨rfl, rfl⟩
  | close =>
    show s.close.dials = s.dials ∧ s.close.legs.length = s.legs.length
    rw [Uplink.close, if_pos hclosed]
    exact ⟨rfl, rfl⟩

lemma waits_react (hwaits : s.isWaiting = true) (e : UplinkEvent)
    (hopen : (s.react b e).closed = false) :
    (s.react b e).isWaiting = true ∨ s.dials < (s.react b e).dials := by
  cases e with
  | dialed ok =>
    unfold Uplink.react
    dsimp only
    split
    · next hphase =>
      rw [isWaiting, hphase] at hwaits
      cases hwaits
    · exact Or.inl hwaits
  | challenged =>
    unfold Uplink.react
    dsimp only
    split
    · next hphase =>
      rw [isWaiting, hphase] at hwaits
      cases hwaits
    · exact Or.inl hwaits
  | acknowledged closes =>
    unfold Uplink.react
    dsimp only
    split
    · next hphase =>
      rw [isWaiting, hphase] at hwaits
      cases hwaits
    · next hphase =>
      rw [isWaiting, hphase] at hwaits
      cases hwaits
    · exact Or.inl hwaits
  | refused =>
    unfold Uplink.react
    dsimp only
    split
    · next hphase =>
      rw [isWaiting, hphase] at hwaits
      cases hwaits
    · exact Or.inl hwaits
  | dropped =>
    unfold Uplink.react
    dsimp only
    split
    · next hphase =>
      rw [isWaiting, hphase] at hwaits
      cases hwaits
    · exact Or.inl hwaits
  | connOpen =>
    unfold Uplink.react
    dsimp only
    split
    · next hphase =>
      rw [isWaiting, hphase] at hwaits
      cases hwaits
    · split
      · exact Or.inl hwaits
      · exact Or.inl hwaits
    · exact Or.inl hwaits
  | legDialed j ok => exact Or.inl hwaits
  | legReady j throws closes =>
    left
    rw [Uplink.react] at hopen ⊢
    split at hopen
    · cases closes with
      | true => split at hopen <;> simp [callback] at hopen
      | false => split <;> exact hwaits
    · exact hwaits
  | legFailed j => exact Or.inl hwaits
  | legClosed j => exact Or.inl hwaits
  | timerFired =>
    unfold Uplink.react
    dsimp only
    split
    · exact Or.inl rfl
    · exact Or.inl hwaits
  | proceed closes =>
    have hclosed : s.closed = false := by
      by_contra hclosed
      rw [Bool.not_eq_false] at hclosed
      rw [react_mono _ |>.1 hclosed] at hopen
      cases hopen
    show (s.proceed b closes).isWaiting = true ∨ s.dials < (s.proceed b closes).dials
    rw [Uplink.proceed]
    split
    · rw [if_neg (by rw [hclosed]; simp)]
      exact Or.inl rfl
    · rw [if_neg (by rw [hclosed]; simp)]
      exact Or.inr (by simp)
    · exact Or.inl hwaits
  | close =>
    rw [show s.react b .close = s.close from rfl, closed_close] at hopen
    cases hopen

end Uplink

lemma tidy_run (hpos : 0 ≤ b.initialMs) (hmax : b.initialMs ≤ b.maxMs) (hfactor : 1 ≤ b.factor)
    (hes : (uplinkMachine b).Meets (fun s e => s.isOrderly e = true) es) :
    Uplink.Tidy b ((uplinkMachine b).run es) := by
  refine (uplinkMachine b).invariant_of_meets ?_ (fun s e hc h => h.react hpos hmax hfactor hc) hes
  refine ⟨fun hclosed => ?_, fun _ l hl => absurd hl List.not_mem_nil,
    fun l hl => absurd hl List.not_mem_nil, le_rfl, hmax, fun _ => rfl, fun ms success hphase => ?_⟩
  · cases hclosed
  · cases hphase

/-- From the end of a registration on the uplink waits or has dialed, as long as it is not closed. -/
lemma redials_runFrom {s₀ : Uplink} (hwaits : s₀.isWaiting = true) (post : List UplinkEvent)
    (hopen : ((uplinkMachine b).runFrom s₀ post).closed = false) :
    s₀.dials < ((uplinkMachine b).runFrom s₀ post).dials ∨
      ((uplinkMachine b).runFrom s₀ post).isWaiting = true := by
  induction post using List.reverseRecOn with
  | nil => exact Or.inr hwaits
  | append_singleton post e ih =>
    rw [Machine.runFrom_append] at hopen ⊢
    set s₁ := (uplinkMachine b).runFrom s₀ post
    change (s₁.react b e).closed = false at hopen
    show s₀.dials < (s₁.react b e).dials ∨ (s₁.react b e).isWaiting = true
    obtain ⟨hclosed, hdials⟩ := Uplink.react_mono (b := b) (s := s₁) e
    have hbefore : s₁.closed = false := by
      by_contra hs
      rw [Bool.not_eq_false] at hs
      rw [hclosed hs] at hopen
      cases hopen
    rcases ih hbefore with hlt | hwaiting
    · exact Or.inl (hlt.trans_le hdials)
    · have hle : s₀.dials ≤ s₁.dials :=
        (uplinkMachine b).runFrom_of_step (p := fun s => s₀.dials ≤ s.dials)
          (fun s e hs => hs.trans (Uplink.react_mono e).2) le_rfl post
      rcases Uplink.waits_react hwaiting e hopen with hstill | hlt
      · exact Or.inr hstill
      · exact Or.inl (hle.trans_lt hlt)

/-- The default backoff. -/
def defaultBackoff : Backoff := ⟨500, 30000, 2⟩

/-- Two dials fail, the third registers, and the control connection drops; the uplink is closed in the
backoff behind that. -/
def orderlyRun : List UplinkEvent :=
  [.dialed false, .proceed false, .timerFired, .proceed false, .dialed false, .proceed false, .timerFired,
    .proceed false, .dialed true, .challenged, .acknowledged false, .connOpen, .legDialed 0 true,
    .legReady 0 false false, .dropped, .proceed false, .close, .proceed false]

end Pherry.Cli
