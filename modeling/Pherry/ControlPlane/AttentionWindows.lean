import Pherry.ControlPlane.AttentionRaise

/-!
# Windows of attention

A window of a key is a stretch of a run through which a lock of the key is live. As long as a raise is
only suppressed by one that has inserted, inserts under no other one's lock, and does not fail while it
has its lock, no event is lost behind a lock or raised twice in a window.
-/

namespace Pherry.ControlPlane

open Lib

namespace Raises

/-- The raise whose lock of a key is live. -/
def holder (s : Raises) (k : JsString) : Option ℕ := s.shared.redis.get k

/-- A raise has its lock and has not inserted its event. -/
def isInserting (s : Raises) (number : ℕ) : Bool :=
  s.calls[number]?.any fun call => call.2 = .insert

/-- The raise whose lock of a key is live has not inserted its event. -/
def isPending (s : Raises) (k : JsString) : Bool := (s.holder k).any s.isInserting

/-- The events that a step inserts under a key. -/
def persisted (config : AttentionConfig) (k : JsString) (s : Raises) (e : RaiseEvent) :
    List AttentionEventRow :=
  ((s.react config e).shared.events.rows.drop s.shared.events.rows.length).filter
    fun row => row.key = k

/-- A raise whose step is next comes to this. -/
def comesTo (config : AttentionConfig) (s : Raises) (e : RaiseEvent) (stage : RaiseStage)
    (number : ℕ) (args : RaiseArgs) : Prop :=
  ∃ draw was, e = .step number draw ∧ s.calls[number]? = some (args, was) ∧ was ≠ stage ∧
    (raiseAttention config number draw args s.shared was).2 = stage

/-- A step in order: no raise is suppressed by one that has not inserted, none inserts under the lock
of another one, and none fails that has its lock. -/
def orderly (s : Raises) : RaiseEvent → Bool
  | .step number draw =>
    match s.calls[number]? with
    | some (args, .claim) =>
      if (s.holder args.key).isSome then draw.fault.isSome || !s.isPending args.key
      else draw.fault ≠ some .after
    | some (args, .insert) =>
      match s.holder args.key with
      | none => true
      | some other =>
        other = number && draw.fault.isNone && (s.shared.events.insert (raisedRow draw args)).isSome
    | some (args, .load _) => draw.fault.isNone || s.holder args.key ≠ some number
    | _ => true
  | _ => true

end Raises

section Law

variable (config : AttentionConfig) (now : ℕ)

/-- A lock of a key is live through a stretch of a run. -/
def LockedThrough (k : JsString) (pre window : List RaiseEvent) : Prop :=
  (raiseMachine config now).Through (fun s => (s.holder k).isSome = true) pre window

/-- The events that a stretch of a run inserts under a key. -/
def persistedIn (k : JsString) (pre window : List RaiseEvent) : List AttentionEventRow :=
  (raiseMachine config now).outputsFrom (Raises.persisted config k)
    ((raiseMachine config now).run pre) window

/-- A raise that is suppressed has an event of its window, a window has one event at most, and a raise
that fails leaves no lock. -/
structure RaiseLaw (es : List RaiseEvent) : Prop where
  suppressed : ∀ pre e post, es = pre ++ e :: post → ∀ number args,
    ((raiseMachine config now).run pre).comesTo config e .suppressed number args →
    ∃ before window, pre = before ++ window ∧ LockedThrough config now args.key before window ∧
      persistedIn config now args.key before window ≠ []
  once : ∀ pre window post, es = pre ++ window ++ post → ∀ k,
    LockedThrough config now k pre window →
    (persistedIn config now k pre window).length ≤ 1
  retried : ∀ pre e post, es = pre ++ e :: post → ∀ number args,
    ((raiseMachine config now).run pre).comesTo config e .failed number args →
    ((raiseMachine config now).run (pre ++ [e])).holder args.key ≠ some number

end Law

namespace Raises

variable {config : AttentionConfig} {s : Raises} {k : JsString} {n : ℕ}

/-! ## Calls and locks behind a step -/

lemma react_step {i : ℕ} {draw : RaiseDraw} {args : RaiseArgs} {stage : RaiseStage}
    (h : s.calls[i]? = some (args, stage)) :
    s.react config (.step i draw) =
      ⟨(raiseAttention config i draw args s.shared stage).1,
        s.calls.set i (args, (raiseAttention config i draw args s.shared stage).2)⟩ := by
  rw [react, Concurrent.advance_of_some h]
  rfl

lemma calls_react (config : AttentionConfig) {args : RaiseArgs} {stage : RaiseStage}
    (h : s.calls[n]? = some (args, stage)) (e : RaiseEvent) :
    (s.react config e).calls[n]? = some (args, stage) ∨
      ∃ draw, e = .step n draw ∧ (s.react config e).calls[n]? =
        some (args, (raiseAttention config n draw args s.shared stage).2) := by
  have hlt := (List.getElem?_eq_some_iff.1 h).1
  cases e with
  | advance ms => exact Or.inl h
  | raise args' =>
    left
    rw [react, Concurrent.start]
    exact (List.getElem?_append_left hlt).trans h
  | step i draw =>
    by_cases hi : i = n
    · subst hi
      right
      refine ⟨draw, rfl, ?_⟩
      rw [react_step h]
      exact List.getElem?_set_self hlt
    · left
      cases hcall : s.calls[i]? with
      | none => rw [react, Concurrent.advance_of_none hcall]; exact h
      | some call =>
        rw [react_step hcall]
        exact (List.getElem?_set_ne hi).trans h

lemma redis_raiseAttention (config : AttentionConfig) (i : ℕ) (draw : RaiseDraw)
    (args : RaiseArgs) (store : AttentionStore) (stage : RaiseStage) :
    (raiseAttention config i draw args store stage).1.redis = store.redis ∨
      stage = .claim ∧ (raiseAttention config i draw args store stage).1.redis =
        (store.redis.setNx args.key i (some config.attentionDebounceMs)).1 := by
  cases stage with
  | bind =>
    left
    rw [raiseAttention]
    split <;> rfl
  | claim =>
    cases hfault : draw.fault with
    | none => exact Or.inr ⟨rfl, by rw [raiseAttention, hfault]⟩
    | some fault =>
      cases fault with
      | before => exact Or.inl (by rw [raiseAttention, hfault])
      | after => exact Or.inr ⟨rfl, by rw [raiseAttention, hfault]⟩
  | insert =>
    left
    rw [raiseAttention]
    split <;> rfl
  | load row => exact Or.inl rfl
  | route row => exact Or.inl rfl
  | unknown => exact Or.inl rfl
  | suppressed => exact Or.inl rfl
  | failed => exact Or.inl rfl
  | raised id => exact Or.inl rfl

lemma holder_react {e : RaiseEvent} (h : (s.react config e).holder k = some n) :
    s.holder k = some n ∨
      ∃ draw args, e = .step n draw ∧ s.calls[n]? = some (args, .claim) ∧ args.key = k ∧
        s.holder k = none := by
  obtain ⟨entry, hlive, hvalue⟩ := KeyStore.get_eq_some.1 h
  cases e with
  | advance ms => exact Or.inl (KeyStore.get_eq_some.2 ⟨entry, KeyStore.live_of_advance hlive, hvalue⟩)
  | raise args => exact Or.inl h
  | step i draw =>
    cases hcall : s.calls[i]? with
    | none =>
      rw [react, Concurrent.advance_of_none hcall] at h
      exact Or.inl h
    | some call =>
      obtain ⟨args, stage⟩ := call
      rw [react_step hcall] at hlive
      dsimp only at hlive
      rcases redis_raiseAttention config i draw args s.shared stage with hsame | ⟨rfl, hset⟩
      · rw [hsame] at hlive
        exact Or.inl (KeyStore.get_eq_some.2 ⟨entry, hlive, hvalue⟩)
      · rw [hset] at hlive
        rcases KeyStore.live_setNx hlive with hold | ⟨rfl, habsent, hnew⟩
        · exact Or.inl (KeyStore.get_eq_some.2 ⟨entry, hold, hvalue⟩)
        · right
          rw [hnew] at hvalue
          subst hvalue
          refine ⟨draw, args, rfl, hcall, rfl, ?_⟩
          rw [holder, KeyStore.get, habsent]
          rfl

lemma stage_raiseAttention (config : AttentionConfig) (i : ℕ) (draw : RaiseDraw) (args : RaiseArgs)
    (store : AttentionStore) {stage : RaiseStage} (h : stage ≠ .bind) :
    (raiseAttention config i draw args store stage).2 ≠ .bind ∧
      (raiseAttention config i draw args store stage).2 ≠ .claim := by
  cases stage with
  | bind => exact absurd rfl h
  | claim =>
    rw [raiseAttention]
    split
    · simp
    · simp
    · split <;> simp
  | insert =>
    rw [raiseAttention]
    split <;> simp
  | load row =>
    rw [raiseAttention]
    split <;> simp
  | route row => simp [raiseAttention]
  | unknown => simp [raiseAttention]
  | suppressed => simp [raiseAttention]
  | failed => simp [raiseAttention]
  | raised id => simp [raiseAttention]

lemma eq_claim_of_insert {i : ℕ} {draw : RaiseDraw} {args : RaiseArgs} {store : AttentionStore}
    {stage : RaiseStage} (h : (raiseAttention config i draw args store stage).2 = .insert) :
    stage = .claim := by
  cases stage with
  | bind =>
    rw [raiseAttention] at h
    split at h
    · cases h
    · dsimp only at h
      split at h <;> cases h
  | claim => rfl
  | insert =>
    rw [raiseAttention] at h
    split at h <;> cases h
  | load row =>
    rw [raiseAttention] at h
    dsimp only at h
    split at h <;> cases h
  | route row => cases h
  | unknown => cases h
  | suppressed => cases h
  | failed => cases h
  | raised id => cases h

lemma isInserting_eq_true :
    s.isInserting n = true ↔ ∃ args, s.calls[n]? = some (args, .insert) := by
  rw [isInserting, Option.any_eq_true]
  constructor
  · rintro ⟨⟨args, stage⟩, hcall, hstage⟩
    rw [decide_eq_true_eq] at hstage
    exact ⟨args, by rw [hcall, ← hstage]⟩
  · rintro ⟨args, hcall⟩
    exact ⟨_, hcall, decide_eq_true rfl⟩

lemma isInserting_react {e : RaiseEvent} (h : (s.react config e).isInserting n = true) :
    (s.isInserting n = true ∧ ∀ draw, e ≠ .step n draw) ∨
      ∃ draw args, e = .step n draw ∧ s.calls[n]? = some (args, .claim) := by
  obtain ⟨args, hcall⟩ := isInserting_eq_true.1 h
  cases hbefore : s.calls[n]? with
  | none =>
    -- a call that was not there is at its binding
    exfalso
    cases e with
    | advance ms =>
      rw [react] at hcall
      rw [hbefore] at hcall
      cases hcall
    | raise args' =>
      have hle : s.calls.length ≤ n := List.getElem?_eq_none_iff.1 hbefore
      rw [react, Concurrent.start, List.getElem?_append_right hle] at hcall
      have hnew := List.mem_singleton.1 (List.mem_of_getElem? hcall)
      cases hnew
    | step i draw =>
      cases hi : s.calls[i]? with
      | none =>
        rw [react, Concurrent.advance_of_none hi, hbefore] at hcall
        cases hcall
      | some call =>
        rw [react_step hi] at hcall
        dsimp only at hcall
        have hne : i ≠ n := by
          rintro rfl
          rw [hbefore] at hi
          cases hi
        rw [List.getElem?_set_ne hne, hbefore] at hcall
        cases hcall
  | some call =>
    obtain ⟨args', stage⟩ := call
    rcases calls_react config hbefore e with hsame | ⟨draw, rfl, hnext⟩
    · left
      rw [hsame] at hcall
      cases hcall
      refine ⟨isInserting_eq_true.2 ⟨args, hbefore⟩, ?_⟩
      rintro draw rfl
      rw [react_step hbefore] at hsame
      dsimp only at hsame
      rw [List.getElem?_set_self (List.getElem?_eq_some_iff.1 hbefore).1] at hsame
      have hclaim := eq_claim_of_insert (congrArg Prod.snd (Option.some.inj hsame))
      cases hclaim
    · right
      rw [hnext] at hcall
      have hclaim := eq_claim_of_insert (congrArg Prod.snd (Option.some.inj hcall))
      exact ⟨draw, args', rfl, by rw [hclaim]⟩

/-! ## What a step inserts -/

lemma events_raiseAttention (config : AttentionConfig) (i : ℕ) (draw : RaiseDraw)
    (args : RaiseArgs) (store : AttentionStore) (stage : RaiseStage) :
    (raiseAttention config i draw args store stage).1.events = store.events ∨
      stage = .insert ∧ (raiseAttention config i draw args store stage).1.events.rows =
        store.events.rows ++ [raisedRow draw args] := by
  cases stage with
  | bind =>
    left
    rw [raiseAttention]
    split <;> rfl
  | claim =>
    left
    rw [raiseAttention]
    split <;> rfl
  | insert =>
    rw [raiseAttention]
    split
    · exact Or.inl rfl
    · exact Or.inl rfl
    · next hinsert => exact Or.inr ⟨rfl, Table.rows_insert hinsert⟩
    · next hinsert => exact Or.inr ⟨rfl, Table.rows_insert hinsert⟩
  | load row => exact Or.inl rfl
  | route row => exact Or.inl rfl
  | unknown => exact Or.inl rfl
  | suppressed => exact Or.inl rfl
  | failed => exact Or.inl rfl
  | raised id => exact Or.inl rfl

lemma persisted_cases (config : AttentionConfig) (k : JsString) (s : Raises) (e : RaiseEvent) :
    persisted config k s e = [] ∨
      ∃ i draw args, e = .step i draw ∧ s.calls[i]? = some (args, .insert) ∧ args.key = k ∧
        persisted config k s e = [raisedRow draw args] := by
  have hnothing : ∀ {e'}, (s.react config e').shared.events = s.shared.events →
      persisted config k s e' = [] := by
    intro e' hsame
    rw [persisted, hsame, List.drop_length]
    rfl
  cases e with
  | advance ms => exact Or.inl (hnothing rfl)
  | raise args => exact Or.inl (hnothing rfl)
  | step i draw =>
    cases hcall : s.calls[i]? with
    | none => exact Or.inl (hnothing (by rw [react, Concurrent.advance_of_none hcall]))
    | some call =>
      obtain ⟨args, stage⟩ := call
      rcases events_raiseAttention config i draw args s.shared stage with hsame | ⟨rfl, hrows⟩
      · exact Or.inl (hnothing (by rw [react_step hcall]; exact hsame))
      · have hone : persisted config k s (.step i draw) =
            [raisedRow draw args].filter fun row => row.key = k := by
          rw [persisted, react_step hcall]
          dsimp only
          rw [hrows, List.drop_left]
        by_cases hk : args.key = k
        · right
          refine ⟨i, draw, args, rfl, hcall, hk, ?_⟩
          rw [hone]
          exact List.filter_cons_of_pos (decide_eq_true hk)
        · left
          rw [hone]
          exact List.filter_cons_of_neg fun hmem => hk (of_decide_eq_true hmem)

lemma persisted_of_insert {i : ℕ} {draw : RaiseDraw} {args : RaiseArgs}
    (hcall : s.calls[i]? = some (args, .insert)) (hfault : draw.fault = none)
    (hinsert : (s.shared.events.insert (raisedRow draw args)).isSome = true) :
    persisted config args.key s (.step i draw) = [raisedRow draw args] := by
  obtain ⟨events, hevents⟩ := Option.isSome_iff_exists.1 hinsert
  rw [persisted, react_step hcall, raiseAttention, hfault, hevents]
  dsimp only
  rw [Table.rows_insert hevents, List.drop_left]
  exact List.filter_cons_of_pos (decide_eq_true rfl)

/-! ## Windows -/

/-- A lock that is live is of a raise of its key that has made its claim. -/
def Held (s : Raises) : Prop :=
  ∀ k n, s.holder k = some n → ∃ args stage, s.calls[n]? = some (args, stage) ∧ args.key = k ∧
    stage ≠ .bind ∧ stage ≠ .claim

lemma held_init (config : AttentionConfig) (now : ℕ) : Held (raiseMachine config now).init :=
  fun _ _ h => by cases h

lemma Held.react (h : s.Held) (e : RaiseEvent) : (s.react config e).Held := by
  intro k n hholder
  rcases holder_react hholder with hold | ⟨draw, args, rfl, hcall, hk, -⟩
  · obtain ⟨args, stage, hcall, hk, hbind, hclaim⟩ := h k n hold
    rcases calls_react config hcall e with hsame | ⟨draw, -, hnext⟩
    · exact ⟨args, stage, hsame, hk, hbind, hclaim⟩
    · exact ⟨args, _, hnext, hk, stage_raiseAttention config n draw args s.shared hbind⟩
  · have hnext : (s.react config (.step n draw)).calls[n]? =
        some (args, (raiseAttention config n draw args s.shared .claim).2) := by
      rw [react_step hcall]
      exact List.getElem?_set_self (List.getElem?_eq_some_iff.1 hcall).1
    exact ⟨args, _, hnext, hk, stage_raiseAttention config n draw args s.shared nofun⟩

lemma Held.not_claiming (h : s.Held) {args : RaiseArgs} (hholder : s.holder k = some n)
    (hcall : s.calls[n]? = some (args, .claim)) : False := by
  obtain ⟨args', stage, hcall', -, -, hclaim⟩ := h k n hholder
  rw [hcall] at hcall'
  cases hcall'
  exact hclaim rfl

lemma holder_of_persisted {e : RaiseEvent} (horderly : s.orderly e = true)
    (hholder : s.holder k = some n) (hpersisted : persisted config k s e ≠ []) :
    ∃ draw args, e = .step n draw ∧ s.calls[n]? = some (args, .insert) := by
  rcases persisted_cases config k s e with hnothing | ⟨i, draw, args, rfl, hcall, rfl, -⟩
  · exact absurd hnothing hpersisted
  · rw [orderly, hcall] at horderly
    dsimp only at horderly
    rw [hholder] at horderly
    simp only [Bool.and_eq_true, decide_eq_true_eq] at horderly
    obtain ⟨⟨rfl, -⟩, -⟩ := horderly
    exact ⟨draw, args, rfl, hcall⟩

/-- What a window may still insert: one event, until its raise has. -/
def room (s : Raises) (k : JsString) : ℕ :=
  match s.holder k with
  | none => 1
  | some n => if s.isInserting n then 1 else 0

lemma room_of_holder (h : s.holder k = some n) : s.room k = if s.isInserting n then 1 else 0 := by
  rw [room, h]

lemma length_persisted_le {e : RaiseEvent} (h : s.Held) (horderly : s.orderly e = true)
    (hlive : ((s.react config e).holder k).isSome = true) :
    (persisted config k s e).length + (s.react config e).room k ≤ s.room k := by
  obtain ⟨n, hn⟩ := Option.isSome_iff_exists.1 hlive
  rw [room_of_holder hn]
  rcases holder_react hn with hold | ⟨draw, args, rfl, hcall, -, habsent⟩
  · rw [room_of_holder hold]
    by_cases hpersisted : persisted config k s e = []
    · -- nothing is inserted, and no raise comes to its insert with a lock it had before
      rw [hpersisted, List.length_nil, Nat.zero_add]
      by_cases hafter : (s.react config e).isInserting n = true
      · rcases isInserting_react hafter with ⟨hbefore, -⟩ | ⟨draw, args, -, hcall⟩
        · rw [if_pos hafter, if_pos hbefore]
        · exact (h.not_claiming hold hcall).elim
      · rw [if_neg hafter]
        exact Nat.zero_le _
    · obtain ⟨draw, args, rfl, hcall⟩ := holder_of_persisted horderly hold hpersisted
      have hbefore : s.isInserting n = true := isInserting_eq_true.2 ⟨args, hcall⟩
      have hafter : ¬ (s.react config (.step n draw)).isInserting n = true := by
        intro hafter
        rcases isInserting_react hafter with ⟨-, hnot⟩ | ⟨draw', args', -, hclaim⟩
        · exact hnot draw rfl
        · rw [hcall] at hclaim
          cases hclaim
      rw [if_pos hbefore, if_neg hafter]
      rcases persisted_cases config k s (.step n draw) with hnothing | ⟨_, _, _, -, -, -, hone⟩
      · exact absurd hnothing hpersisted
      · rw [hone]
        exact le_refl 1
  · -- the window opens: a claim inserts nothing
    have hpersisted : persisted config k s (.step n draw) = [] := by
      rcases persisted_cases config k s (.step n draw) with hnothing | ⟨i, _, _, hi, hinsert, -, -⟩
      · exact hnothing
      · cases hi
        rw [hcall] at hinsert
        cases hinsert
    rw [hpersisted, room, habsent]
    split <;> simp

end Raises

section Law

variable {config : AttentionConfig} {now : ℕ} {k : JsString}

/-- A step in order. -/
def Orderly (s : Raises) (e : RaiseEvent) : Prop := s.orderly e = true

lemma held_run (es : List RaiseEvent) : ((raiseMachine config now).run es).Held :=
  Machine.invariant _ (Raises.held_init config now) (fun _ e h => h.react e) es

lemma persistedIn_snoc (pre window : List RaiseEvent) (e : RaiseEvent) :
    persistedIn config now k pre (window ++ [e]) = persistedIn config now k pre window ++
      Raises.persisted config k ((raiseMachine config now).run (pre ++ window)) e := by
  rw [persistedIn, Machine.outputsFrom_append, ← Machine.run_append]
  simp only [Machine.outputsFrom, List.append_nil]
  rfl

lemma length_persistedIn_le {pre window : List RaiseEvent}
    (hmeets : (raiseMachine config now).Meets Orderly (pre ++ window))
    (h : LockedThrough config now k pre window) :
    (persistedIn config now k pre window).length +
        ((raiseMachine config now).run (pre ++ window)).room k ≤ 1 := by
  induction window using List.reverseRecOn with
  | nil =>
    rw [persistedIn, Machine.outputsFrom, List.length_nil, Nat.zero_add, Raises.room]
    split
    · exact le_refl 1
    · split <;> simp
  | append_singleton window e ih =>
    rw [← List.append_assoc] at hmeets ⊢
    obtain ⟨hmeets, horderly⟩ := (Machine.meets_snoc _).1 hmeets
    obtain ⟨hwindow, hlive⟩ := (Machine.through_snoc _).1 h
    rw [Machine.run_snoc] at hlive ⊢
    have hbefore := ih hmeets hwindow
    have hroom := Raises.length_persisted_le (held_run _) horderly hlive
    rw [persistedIn_snoc, List.length_append]
    have hstep : ∀ s e, (raiseMachine config now).step s e = s.react config e := fun _ _ => rfl
    rw [hstep]
    omega

/-- An event of the window that is open has been inserted. -/
def PersistedSince (config : AttentionConfig) (now : ℕ) (k : JsString) (es : List RaiseEvent) : Prop :=
  ∃ before window, es = before ++ window ∧ LockedThrough config now k before window ∧
    persistedIn config now k before window ≠ []

lemma PersistedSince.snoc {es : List RaiseEvent} {e : RaiseEvent}
    (h : PersistedSince config now k es)
    (hlive : (((raiseMachine config now).run (es ++ [e])).holder k).isSome = true) :
    PersistedSince config now k (es ++ [e]) := by
  obtain ⟨before, window, rfl, hwindow, hpersisted⟩ := h
  refine ⟨before, window ++ [e], by rw [List.append_assoc], ?_, ?_⟩
  · exact (Machine.through_snoc _).2 ⟨hwindow, hlive⟩
  · rw [persistedIn_snoc]
    exact List.append_ne_nil_of_left_ne_nil hpersisted _

lemma PersistedSince.of_step {es : List RaiseEvent} {e : RaiseEvent}
    (hpersisted : Raises.persisted config k ((raiseMachine config now).run es) e ≠ [])
    (hlive : (((raiseMachine config now).run (es ++ [e])).holder k).isSome = true) :
    PersistedSince config now k (es ++ [e]) := by
  refine ⟨es, [] ++ [e], rfl, ?_, ?_⟩
  · refine (Machine.through_snoc _).2 ⟨Machine.through_nil _ _ _, ?_⟩
    rw [List.append_nil]
    exact hlive
  · rw [persistedIn_snoc, List.append_nil]
    exact List.append_ne_nil_of_right_ne_nil _ hpersisted

/-- The raise of a live lock has its insert before it, or an event of the window has been inserted. -/
def Accounted (config : AttentionConfig) (now : ℕ) (es : List RaiseEvent) (s : Raises) : Prop :=
  ∀ k n, s.holder k = some n → s.isInserting n = true ∨ PersistedSince config now k es

lemma Accounted.snoc {es : List RaiseEvent} {e : RaiseEvent}
    (horderly : Orderly ((raiseMachine config now).run es) e)
    (h : Accounted config now es ((raiseMachine config now).run es)) :
    Accounted config now (es ++ [e]) ((raiseMachine config now).run (es ++ [e])) := by
  intro k n hafter
  have hlive : (((raiseMachine config now).run (es ++ [e])).holder k).isSome = true := by
    rw [hafter]
    rfl
  have hheld : ((raiseMachine config now).run es).Held := held_run es
  have hrun : (raiseMachine config now).run (es ++ [e]) =
      ((raiseMachine config now).run es).react config e := Machine.run_snoc _ es e
  rw [hrun] at hafter ⊢
  rcases Raises.holder_react hafter with hold | ⟨draw, args, rfl, hcall, rfl, habsent⟩
  · rcases h k n hold with hinserting | hsince
    · obtain ⟨args, hcall⟩ := Raises.isInserting_eq_true.1 hinserting
      rcases Raises.calls_react config hcall e with hsame | ⟨draw, rfl, -⟩
      · exact Or.inl (Raises.isInserting_eq_true.2 ⟨args, hsame⟩)
      · -- the raise takes its insert, which does not fail under its lock
        right
        obtain ⟨args', stage, hcall', rfl, -, -⟩ := hheld k n hold
        rw [hcall] at hcall'
        cases hcall'
        rw [Orderly, Raises.orderly, hcall] at horderly
        dsimp only at horderly
        rw [hold] at horderly
        simp only [Bool.and_eq_true, Option.isNone_iff_eq_none] at horderly
        obtain ⟨⟨-, hfault⟩, hinsert⟩ := horderly
        apply PersistedSince.of_step _ hlive
        rw [Raises.persisted_of_insert hcall hfault hinsert]
        exact List.cons_ne_nil _ _
    · exact Or.inr (hsince.snoc hlive)
  · -- the raise has just claimed the lock
    left
    have habsent' : ((raiseMachine config now).run es).shared.redis.live args.key = none :=
      Option.map_eq_none_iff.1 habsent
    rw [Orderly, Raises.orderly, hcall] at horderly
    dsimp only at horderly
    rw [habsent] at horderly
    simp only [Option.isSome_none, Bool.false_eq_true, if_false, decide_eq_true_eq] at horderly
    have hnext : (raiseAttention config n draw args ((raiseMachine config now).run es).shared
        .claim).2 = .insert := by
      cases hfault : draw.fault with
      | none =>
        rw [raiseAttention, hfault, KeyStore.setNx_of_absent habsent']
        rfl
      | some fault =>
        cases fault with
        | after => exact absurd hfault horderly
        | before =>
          rw [Raises.react_step hcall, raiseAttention, hfault] at hafter
          exact absurd (habsent.symm.trans hafter) nofun
    refine Raises.isInserting_eq_true.2 ⟨args, ?_⟩
    rw [Raises.react_step hcall, hnext]
    exact List.getElem?_set_self (List.getElem?_eq_some_iff.1 hcall).1

lemma accounted_run {es : List RaiseEvent} (h : (raiseMachine config now).Meets Orderly es) :
    Accounted config now es ((raiseMachine config now).run es) := by
  induction es using List.reverseRecOn with
  | nil => exact fun _ _ hholder => by cases hholder
  | append_singleton es e ih =>
    obtain ⟨hmeets, horderly⟩ := (Machine.meets_snoc _).1 h
    exact (ih hmeets).snoc horderly

lemma claim_of_suppressed {i : ℕ} {draw : RaiseDraw} {args : RaiseArgs} {store : AttentionStore}
    {was : RaiseStage} (h : (raiseAttention config i draw args store was).2 = .suppressed)
    (hwas : was ≠ .suppressed) :
    was = .claim ∧ draw.fault = none ∧ (store.redis.live args.key).isSome = true := by
  cases was with
  | bind =>
    rw [raiseAttention] at h
    split at h
    · cases h
    · dsimp only at h
      split at h <;> cases h
  | claim =>
    cases hfault : draw.fault with
    | none =>
      refine ⟨rfl, rfl, ?_⟩
      rw [raiseAttention, hfault] at h
      by_contra habsent
      rw [Bool.not_eq_true, Option.isSome_eq_false_iff, Option.isNone_iff_eq_none] at habsent
      rw [KeyStore.setNx_of_absent habsent] at h
      cases h
    | some fault =>
      rw [raiseAttention, hfault] at h
      cases fault <;> cases h
  | insert =>
    rw [raiseAttention] at h
    split at h <;> cases h
  | load row =>
    rw [raiseAttention] at h
    split at h <;> cases h
  | route row => cases h
  | unknown => cases h
  | suppressed => exact absurd rfl hwas
  | failed => cases h
  | raised id => cases h

lemma holder_ne_of_failed {s : Raises} {e : RaiseEvent} {n : ℕ} {args : RaiseArgs} (hheld : s.Held)
    (horderly : Orderly s e) (hfailed : s.comesTo config e .failed n args) :
    (s.react config e).holder args.key ≠ some n := by
  obtain ⟨draw, was, rfl, hcall, hwas, hstage⟩ := hfailed
  intro hafter
  rw [Orderly, Raises.orderly, hcall] at horderly
  rcases Raises.holder_react hafter with hold | ⟨draw', args', -, hcall', hk, habsent⟩
  · obtain ⟨args', was', hcall', -, hbind, hclaim⟩ := hheld _ n hold
    rw [hcall] at hcall'
    cases hcall'
    cases was with
    | bind => exact hbind rfl
    | claim => exact hclaim rfl
    | insert =>
      dsimp only at horderly
      rw [hold] at horderly
      simp only [Bool.and_eq_true, Option.isNone_iff_eq_none] at horderly
      obtain ⟨⟨-, hfault⟩, hinsert⟩ := horderly
      obtain ⟨events, hevents⟩ := Option.isSome_iff_exists.1 hinsert
      rw [raiseAttention, hfault, hevents] at hstage
      cases hstage
    | load row =>
      dsimp only at horderly
      rw [hold] at horderly
      simp only [ne_eq, not_true_eq_false, decide_false, Bool.or_false, Option.isNone_iff_eq_none] at horderly
      rw [raiseAttention, horderly] at hstage
      cases hstage
    | route row => cases hstage
    | unknown => cases hstage
    | suppressed => cases hstage
    | failed => exact hwas rfl
    | raised id => cases hstage
  · rw [hcall] at hcall'
    cases hcall'
    dsimp only at horderly
    rw [habsent] at horderly
    simp only [Option.isSome_none, Bool.false_eq_true, if_false, decide_eq_true_eq] at horderly
    cases hfault : draw.fault with
    | none =>
      rw [raiseAttention, hfault] at hstage
      dsimp only at hstage
      split at hstage <;> cases hstage
    | some fault =>
      cases fault with
      | after => exact horderly hfault
      | before =>
        rw [Raises.react_step hcall, raiseAttention, hfault] at hafter
        exact absurd (habsent.symm.trans hafter) nofun

/-- No event is lost behind a lock or raised twice in a window, and a raise that fails can be made
again, in every run where each raise that is suppressed, inserts or fails does so in order. -/
theorem raiseLaw_of_orderly (config : AttentionConfig) (now : ℕ) {es : List RaiseEvent}
    (hmeets : (raiseMachine config now).Meets Orderly es) : RaiseLaw config now es := by
  refine ⟨?_, ?_, ?_⟩
  · rintro pre e post rfl n args ⟨draw, was, rfl, hcall, hwas, hstage⟩
    obtain ⟨rfl, hfault, hlive⟩ := claim_of_suppressed hstage hwas
    have horderly := hmeets pre _ post rfl
    have hbefore := hmeets.prefix
    obtain ⟨entry, hentry⟩ := Option.isSome_iff_exists.1 hlive
    have hholder : ((raiseMachine config now).run pre).holder args.key = some entry.value :=
      KeyStore.get_eq_some.2 ⟨entry, hentry, rfl⟩
    rw [Orderly, Raises.orderly, hcall] at horderly
    dsimp only at horderly
    rw [hholder, hfault, Raises.isPending, hholder] at horderly
    rcases accounted_run hbefore args.key entry.value hholder with hinserting | hsince
    · rw [Option.any_some, hinserting] at horderly
      cases horderly
    · exact hsince
  · rintro pre window post rfl k hwindow
    have hbefore := hmeets.prefix
    exact (Nat.le_add_right _ _).trans (length_persistedIn_le hbefore hwindow)
  · rintro pre e post rfl n args hfailed
    rw [Machine.run_snoc]
    exact holder_ne_of_failed (held_run pre) (hmeets pre e post rfl) hfailed

/-- A blocked agent. -/
def blockedAgent : RaiseArgs :=
  ⟨js "host_1", js "org_1", js "sref_1", js "blocked", js "needs a hand", none, none, js "call"⟩

/-- A step that does not fail. -/
def fine (id : String) : RaiseDraw := ⟨1000, js id, true, none⟩

/-- A raise, and another one within its window. -/
def raisedTwice : List RaiseEvent :=
  [.raise blockedAgent, .step 0 (fine ""), .step 0 (fine ""), .step 0 (fine "att_1"),
    .raise blockedAgent, .step 1 (fine ""), .step 1 (fine ""), .step 0 (fine ""), .step 0 (fine "")]

theorem raiseLaw_raisedTwice : RaiseLaw ⟨60000⟩ 0 raisedTwice :=
  raiseLaw_of_orderly ⟨60000⟩ 0 (Machine.meets_of_checks _ (c := Raises.orderly) (by decide +kernel))

/-- The insert of a raise fails, and its retry is suppressed. -/
def lostEvent : List RaiseEvent :=
  [.raise blockedAgent, .step 0 (fine ""), .step 0 (fine ""),
    .step 0 ⟨1000, js "att_1", true, some .before⟩, .raise blockedAgent, .step 1 (fine ""),
    .step 1 (fine "")]

theorem not_raiseLaw_lostEvent : ¬ RaiseLaw ⟨60000⟩ 0 lostEvent := by
  intro hlaw
  exact hlaw.retried (lostEvent.take 3) (.step 0 ⟨1000, js "att_1", true, some .before⟩)
    (lostEvent.drop 4) rfl 0 blockedAgent ⟨_, .insert, rfl, rfl, nofun, rfl⟩ rfl

end Law

end Pherry.ControlPlane
