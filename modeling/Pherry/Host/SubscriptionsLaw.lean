import Pherry.Host.Subscriptions
import Pherry.Host.Viewer

/-!
# The law of the subscriptions

On a connection a session has one sink at most; a frame goes out behind the acknowledgement of its
subscription, and none behind that of its unsubscribe or behind the close; and the resume callbacks are
those of the current subscriptions.
-/

namespace Pherry.Host

open Lib Protocol

/-! ## What may go out -/

/-- A frame of a subscription may stand behind these records: they have its acknowledgement, and none
of an unsubscribe behind it. -/
def FrameAllowed (sent : List Outgoing) (number : ℕ) : Prop :=
  (∃ ref, Outgoing.subscribed number ref ∈ sent) ∧
    ∀ pre record post, sent = pre ++ record :: post →
      ∀ ref, record = Outgoing.unsubscribed ref → Outgoing.subscribed number ref ∉ pre

/-- A record may stand behind others. -/
def MayFollow (sent : List Outgoing) (record : Outgoing) : Prop :=
  ∀ number frame, record = .frame number frame →
    FrameAllowed sent number ∧ Outgoing.closed ∉ sent

/-- Every record may stand where it does. -/
def InOrder (sent : List Outgoing) : Prop :=
  ∀ pre record post, sent = pre ++ record :: post → MayFollow pre record

variable {sent : List Outgoing} {number : ℕ} {ref : SessionRef}

lemma inOrder_snoc {record : Outgoing} :
    InOrder (sent ++ [record]) ↔ InOrder sent ∧ MayFollow sent record := forall_place_snoc

lemma FrameAllowed.snoc (h : FrameAllowed sent number) {record : Outgoing}
    (hrecord : ∀ ref, record = .unsubscribed ref → Outgoing.subscribed number ref ∉ sent) :
    FrameAllowed (sent ++ [record]) number := by
  obtain ⟨⟨ref, hack⟩, hquiet⟩ := h
  exact ⟨⟨ref, List.mem_append_left _ hack⟩, forall_place_snoc.2 ⟨hquiet, hrecord⟩⟩

lemma frameAllowed_acked (hnew : ∀ ref, Outgoing.subscribed number ref ∉ sent) (ref : SessionRef) :
    FrameAllowed (sent ++ [.subscribed number ref]) number := by
  refine ⟨⟨ref, by simp⟩, forall_place_snoc.2 ⟨?_, ?_⟩⟩
  · intro pre record post hsent ref' _ hmem
    apply hnew ref'
    rw [hsent]
    exact List.mem_append_left _ hmem
  · intro ref' _
    exact hnew ref'

namespace Subscriptions

variable {σ : Type} {em : Emulator σ} {channel : ℕ → SendAnswer} {s s' : Subscriptions σ}

/-! ## The invariant -/

/-- What holds of the subscriptions after every event. An acknowledgement is of one session, and a
current subscription was acknowledged and may have frames, as long as the connection is open. -/
structure Kept (s : Subscriptions σ) : Prop where
  numbers : (s.sinks.map AttachedSink.number).Nodup
  current : ∀ a ∈ s.sinks, ∃ ref, s.subscriptions.get ref = some ⟨a.session, a.number⟩
  hosted : ∀ ref entry, s.subscriptions.get ref = some entry →
    ∃ hosted, s.sessions[entry.session]? = some hosted ∧ hosted.ref = ref
  registered : ∀ ref i, s.registry.get ref = some i →
    ∃ hosted, s.sessions[i]? = some hosted ∧ hosted.ref = ref
  fresh : ∀ ref entry, s.subscriptions.get ref = some entry → entry.number < s.made
  belongs : ∀ ref number, s.resumers.get ref = some number →
    ∃ i, s.subscriptions.get ref = some ⟨i, number⟩
  resumes : ∀ ref entry hosted, s.subscriptions.get ref = some entry →
    s.sessions[entry.session]? = some hosted → hosted.terminal.isOver = false →
      s.resumers.get ref = some entry.number
  inOrder : InOrder s.sent
  unique : ∀ number ref ref', Outgoing.subscribed number ref ∈ s.sent →
    Outgoing.subscribed number ref' ∈ s.sent → ref = ref'
  below : ∀ number ref, Outgoing.subscribed number ref ∈ s.sent → number < s.made
  marked : Outgoing.closed ∈ s.sent → s.closed = true
  allowed : s.closed = false → ∀ ref entry, s.subscriptions.get ref = some entry →
    Outgoing.subscribed entry.number ref ∈ s.sent ∧ FrameAllowed s.sent entry.number

lemma kept_new : Kept (.new : Subscriptions σ) where
  numbers := List.nodup_nil
  current := by simp [new]
  hosted := by simp [new]
  registered := by simp [new]
  fresh := by simp [new]
  belongs := by simp [new]
  resumes := by simp [new]
  inOrder := by simp [InOrder, new]
  unique := by simp [new]
  below := by simp [new]
  marked := by simp [new]
  allowed := by simp [new]

lemma Kept.sublist (h : Kept s) {sinks : List AttachedSink} (hsinks : sinks.Sublist s.sinks) :
    Kept { s with sinks } :=
  { h with
    numbers := h.numbers.sublist (hsinks.map _)
    current := fun a ha => h.current a (hsinks.subset ha) }

lemma Kept.onSink (h : Kept s) {f : AttachedSink → AttachedSink}
    (hf : ∀ a, (f a).session = a.session ∧ (f a).number = a.number) : Kept (s.onSink number f) := by
  have heach : ∀ a : AttachedSink, (if a.number = number then f a else a).session = a.session ∧
      (if a.number = number then f a else a).number = a.number := by
    intro a
    split
    · exact hf a
    · exact ⟨rfl, rfl⟩
  refine { h with numbers := ?_, current := ?_ }
  · show ((s.sinks.map _).map AttachedSink.number).Nodup
    rw [List.map_map]
    have hmap : AttachedSink.number ∘ (fun a : AttachedSink => if a.number = number then f a else a) =
        AttachedSink.number := funext fun a => (heach a).2
    rw [hmap]
    exact h.numbers
  · intro a ha
    obtain ⟨b, hb, rfl⟩ := List.mem_map.1 ha
    rw [(heach b).1, (heach b).2]
    exact h.current b hb

lemma Kept.pauseFull (h : Kept s) : Kept (s.pauseFull number) := by
  apply h.onSink
  intro a
  split <;> exact ⟨rfl, rfl⟩

lemma Kept.clear (h : Kept s) (i : ℕ) : Kept (s.clear i) := h.sublist List.filter_sublist

lemma Kept.setTerminal (h : Kept s) {i : ℕ} {t : Terminal σ}
    (ht : ∀ hosted, s.sessions[i]? = some hosted → t.isOver = false → hosted.terminal.isOver = false) :
    Kept (s.setTerminal i t) := by
  have hget : ∀ (j : ℕ) (hosted' : HostedSession σ), (s.setTerminal i t).sessions[j]? = some hosted' →
      ∃ hosted, s.sessions[j]? = some hosted ∧
        (hosted'.terminal.isOver = false → hosted.terminal.isOver = false) := by
    intro j hosted' hj
    rw [Subscriptions.setTerminal, List.getElem?_modify] at hj
    obtain ⟨hosted, hhosted, rfl⟩ := Option.map_eq_some_iff.1 hj
    refine ⟨hosted, hhosted, ?_⟩
    by_cases hij : i = j
    · subst hij
      simpa using ht hosted hhosted
    · simp [hij]
  have hkeep : ∀ {j : ℕ} {ref : SessionRef}, (∃ hosted, s.sessions[j]? = some hosted ∧ hosted.ref = ref) →
      ∃ hosted, (s.setTerminal i t).sessions[j]? = some hosted ∧ hosted.ref = ref := by
    intro j ref hex
    obtain ⟨hosted, hhosted, rfl⟩ := hex
    refine ⟨if i = j then { hosted with terminal := t } else hosted, ?_, ?_⟩
    · rw [Subscriptions.setTerminal, List.getElem?_modify, hhosted]
      by_cases hij : i = j <;> simp [hij]
    · by_cases hij : i = j <;> simp [hij]
  refine { h with hosted := ?_, registered := ?_, resumes := ?_ }
  · intro ref entry hentry
    exact hkeep (h.hosted ref entry hentry)
  · intro ref j hj
    exact hkeep (h.registered ref j hj)
  · intro ref entry hosted' hentry hhosted' hlive
    obtain ⟨hosted, hhosted, hover⟩ := hget _ _ hhosted'
    exact h.resumes ref entry hosted hentry hhosted (hover hlive)

/-! ## What a send does -/

/-- A record that may go out now. -/
def Fits (s : Subscriptions σ) : Outgoing → Prop
  | .frame number _ => FrameAllowed s.sent number
  | .subscribed number _ => number < s.made ∧ ∀ ref, Outgoing.subscribed number ref ∉ s.sent
  | .unsubscribed ref => s.subscriptions.get ref = none
  | .response => True
  | .closed => False

lemma Kept.note (h : Kept s) (hopen : s.closed = false) {record : Outgoing} (hfits : s.Fits record)
    (calls : ℕ) (writable : Bool) :
    Kept { s with
      calls
      writable
      sent := s.sent ++ [record] } := by
  have hclosed : Outgoing.closed ∉ s.sent := fun hmem => by simp [h.marked hmem] at hopen
  have hack : ∀ number ref, Outgoing.subscribed number ref ∈ s.sent ++ [record] →
      Outgoing.subscribed number ref ∈ s.sent ∨ record = .subscribed number ref := by
    intro number ref hmem
    rcases List.mem_append.1 hmem with hold | hnew
    · exact Or.inl hold
    · exact Or.inr (List.mem_singleton.1 hnew).symm
  refine { h with inOrder := ?_, unique := ?_, below := ?_, marked := ?_, allowed := ?_ }
  · refine inOrder_snoc.2 ⟨h.inOrder, ?_⟩
    rintro number frame rfl
    exact ⟨hfits, hclosed⟩
  · intro number ref ref' hmem hmem'
    rcases hack _ _ hmem with hold | rfl
    · rcases hack _ _ hmem' with hold' | rfl
      · exact h.unique number ref ref' hold hold'
      · exact absurd hold (hfits.2 ref)
    · rcases hack _ _ hmem' with hold' | heq
      · exact absurd hold' (hfits.2 ref')
      · cases heq
        rfl
  · intro number ref hmem
    rcases hack _ _ hmem with hold | rfl
    · exact h.below number ref hold
    · exact hfits.1
  · intro hmem
    rcases List.mem_append.1 hmem with hold | hnew
    · exact h.marked hold
    · rw [← List.mem_singleton.1 hnew] at hfits
      exact hfits.elim
  · intro _ ref entry hentry
    obtain ⟨hmem, hallowed⟩ := h.allowed hopen ref entry hentry
    refine ⟨List.mem_append_left _ hmem, hallowed.snoc ?_⟩
    rintro ref' rfl hmem'
    -- what is unsubscribed has no entry, and the acknowledgement is that of the entry
    obtain rfl := h.unique _ _ _ hmem hmem'
    rw [Fits, hentry] at hfits
    cases hfits

lemma Kept.close_sinks (h : Kept s) : s.close.sinks = [] := by
  rw [Subscriptions.close, List.filter_eq_nil_iff]
  intro a ha
  obtain ⟨ref, href⟩ := h.current a ha
  have hmem : a.number ∈ s.subscriptions.values.map SubscriptionEntry.number :=
    List.mem_map.2 ⟨_, InsertionMap.mem_values_iff.2 ⟨ref, href⟩, rfl⟩
  simpa using hmem

lemma Kept.close (h : Kept s) : Kept s.close where
  numbers := by rw [h.close_sinks]; exact List.nodup_nil
  current := by rw [h.close_sinks]; simp
  hosted := by simp [Subscriptions.close]
  registered := h.registered
  fresh := by simp [Subscriptions.close]
  belongs := by simp [Subscriptions.close]
  resumes := by simp [Subscriptions.close]
  inOrder := by
    refine inOrder_snoc.2 ⟨h.inOrder, ?_⟩
    intro number frame heq
    cases heq
  unique := by
    intro number ref ref' hmem hmem'
    exact h.unique number ref ref' (by simpa [Subscriptions.close] using hmem)
      (by simpa [Subscriptions.close] using hmem')
  below := by
    intro number ref hmem
    exact h.below number ref (by simpa [Subscriptions.close] using hmem)
  marked := fun _ => rfl
  allowed := fun hopen => by cases hopen

/-- What a send leaves of the state: the sessions, and the subscriptions or none; while the connection
is open a subscription that might have frames still may. -/
structure Sending (s s' : Subscriptions σ) : Prop where
  sessions : s'.sessions = s.sessions
  registry : s'.registry = s.registry
  made : s'.made = s.made
  subscriptions : ∀ ref, s.subscriptions.get ref = none → s'.subscriptions.get ref = none
  entries : ∀ ref entry, s'.subscriptions.get ref = some entry → s.subscriptions.get ref = some entry
  opened : s'.closed = false → s.closed = false
  acked : ∀ record ∈ s.sent, record ∈ s'.sent
  allowed : ∀ number, FrameAllowed s.sent number → FrameAllowed s'.sent number

lemma Sending.refl (s : Subscriptions σ) : Sending s s where
  sessions := rfl
  registry := rfl
  made := rfl
  subscriptions := fun _ h => h
  entries := fun _ _ h => h
  opened := id
  acked := fun _ h => h
  allowed := fun _ h => h

lemma Sending.trans {s'' : Subscriptions σ} (h : Sending s s') (h' : Sending s' s'') : Sending s s'' where
  sessions := h'.sessions.trans h.sessions
  registry := h'.registry.trans h.registry
  made := h'.made.trans h.made
  subscriptions := fun ref hnone => h'.subscriptions ref (h.subscriptions ref hnone)
  entries := fun ref entry hentry => h.entries ref entry (h'.entries ref entry hentry)
  opened := fun hopen => h.opened (h'.opened hopen)
  acked := fun record hmem => h'.acked record (h.acked record hmem)
  allowed := fun number hallowed => h'.allowed number (h.allowed number hallowed)

lemma Kept.send (h : Kept s) {record : Outgoing} (hfits : s.closed = false → s.Fits record) :
    Kept (s.send channel record).1 := by
  rw [Subscriptions.send]
  by_cases hclosed : s.closed = true
  · rw [if_pos hclosed]
    exact h
  · rw [if_neg hclosed]
    have hopen := Bool.eq_false_iff.2 hclosed
    have hnoted : Kept { s with
        calls := s.calls + 1
        writable := (channel s.calls).writable
        sent := if (channel s.calls).takes then s.sent ++ [record] else s.sent } := by
      split
      · exact h.note hopen (hfits hopen) _ _
      · exact { h with }
    dsimp only
    split
    · exact hnoted.close
    · exact hnoted

lemma Sending.send (s : Subscriptions σ) {record : Outgoing} (hrecord : ∀ ref, record ≠ .unsubscribed ref) :
    Sending s (s.send channel record).1 := by
  rw [Subscriptions.send]
  by_cases hclosed : s.closed = true
  · rw [if_pos hclosed]
    exact .refl s
  · rw [if_neg hclosed]
    have hopen := Bool.eq_false_iff.2 hclosed
    have hnoted : Sending s { s with
        calls := s.calls + 1
        writable := (channel s.calls).writable
        sent := if (channel s.calls).takes then s.sent ++ [record] else s.sent } := by
      refine { Sending.refl s with acked := ?_, allowed := ?_ }
      · intro record' hmem
        show record' ∈ (if _ then _ else _)
        split
        · exact List.mem_append_left _ hmem
        · exact hmem
      · intro number hallowed
        show FrameAllowed (if _ then _ else _) number
        split
        · exact hallowed.snoc fun ref heq => absurd heq (hrecord ref)
        · exact hallowed
    dsimp only
    split
    · refine hnoted.trans ?_
      exact
        { sessions := rfl
          registry := rfl
          made := rfl
          subscriptions := fun _ _ => rfl
          entries := fun _ _ hentry => by cases hentry
          opened := fun hclose => by cases hclose
          acked := fun _ hmem => List.mem_append_left _ hmem
          allowed := fun _ hallowed => hallowed.snoc fun _ heq => by cases heq }
    · exact hnoted

lemma send_returned {record : Outgoing} (hreturned : (s.send channel record).2 = true)
    (hopen : (s.send channel record).1.closed = false) :
    s.closed = false ∧ (s.send channel record).1.sent = s.sent ++ [record] := by
  rw [Subscriptions.send] at hreturned hopen ⊢
  by_cases hclosed : s.closed = true
  · rw [if_pos hclosed] at hopen
    rw [hclosed] at hopen
    cases hopen
  · rw [if_neg hclosed] at hreturned hopen ⊢
    have htakes := (channel s.calls).accepted hreturned
    by_cases hcloses : (channel s.calls).closes = true
    · simp [hcloses, Subscriptions.close] at hopen
    · simp [hcloses, htakes, hclosed]

lemma Kept.respond (h : Kept s) : Kept (s.respond channel) := h.send fun _ => trivial

lemma Kept.emit (h : Kept s) (hallowed : s.closed = false → FrameAllowed s.sent number)
    (frames : List PtyFrame) :
    Kept (s.emit channel number frames).1 ∧ Sending s (s.emit channel number frames).1 := by
  induction frames generalizing s with
  | nil => exact ⟨h, .refl s⟩
  | cons frame frames ih =>
    have hkept : Kept (s.send channel (.frame number frame)).1 := h.send hallowed
    have hsending : Sending s (s.send channel (.frame number frame)).1 :=
      .send s fun ref heq => by cases heq
    rw [Subscriptions.emit]
    split
    · obtain ⟨hkept', hsending'⟩ := ih hkept fun hopen =>
        hsending.allowed number (hallowed (hsending.opened hopen))
      exact ⟨hkept', hsending.trans hsending'⟩
    · exact ⟨hkept, hsending⟩

lemma Kept.sink_allowed (h : Kept s) {a : AttachedSink} (ha : s.sink number = some a)
    (hopen : s.closed = false) : FrameAllowed s.sent number := by
  obtain ⟨ref, href⟩ := h.current a (List.mem_of_find?_eq_some ha)
  have hnumber : a.number = number := by simpa using List.find?_some ha
  rw [← hnumber]
  exact (h.allowed hopen ref _ href).2

/-! ## What keeps the invariant -/

lemma Kept.broadcast (h : Kept s) (frame : PtyFrame) (numbers : List ℕ) :
    Kept (s.broadcast channel frame numbers).1 := by
  induction numbers generalizing s with
  | nil => exact h
  | cons number numbers ih =>
    rw [Subscriptions.broadcast]
    cases ha : s.sink number with
    | none => exact ih h
    | some a =>
      have hsent : Kept (s.send channel (.frame number frame)).1 := h.send (h.sink_allowed ha)
      dsimp only
      split
      · exact ih (h.onSink fun a => ⟨rfl, rfl⟩)
      · split
        · split
          · exact ih hsent
          · exact ih hsent.pauseFull
        · exact hsent

lemma Kept.tell (h : Kept s) (i : ℕ) (t : Terminal σ) (frame : PtyFrame) (stopped : Option ℕ) :
    Kept (s.tell channel i t frame stopped) := by
  have hkept : Kept (s.broadcast channel frame (s.reached i stopped)).1 := h.broadcast frame _
  rw [Subscriptions.tell]
  split
  · refine (hkept.setTerminal ?_).clear i
    intro hosted _ hover
    simp [Terminal.isOver, Terminal.exited] at hover
  · exact hkept

lemma isOver_react {t : Terminal σ} {e : TerminalEvent} (h : (t.react em e).1.isOver = false) :
    t.isOver = false := by
  rw [Terminal.isOver, Bool.or_eq_false_iff, (Terminal.flags_react t e).1] at h
  by_cases he : e = .dispose
  · subst he
    have hdisposed : (t.react em .dispose).1.disposed = true := by
      rw [Terminal.react]
      split <;> simp [*]
    rw [hdisposed] at h
    cases h.2
  · rw [Terminal.disposed_react he] at h
    rw [Terminal.isOver, Bool.or_eq_false_iff]
    exact h

lemma Kept.onSession (h : Kept s) (i : ℕ) (e : TerminalEvent) (stopped : Option ℕ) :
    Kept (s.onSession em channel i e stopped) := by
  rw [Subscriptions.onSession]
  cases hget : s.sessions[i]? with
  | none => exact h
  | some hosted =>
    have hset : Kept (s.setTerminal i (hosted.terminal.react em e).1) := by
      apply h.setTerminal
      intro hosted' hhosted' hover
      obtain rfl := Option.some.inj (hget.symm.trans hhosted')
      exact isOver_react hover
    have hcleared : Kept (if (hosted.terminal.react em e).1.disposed && !hosted.terminal.disposed then
        (s.setTerminal i (hosted.terminal.react em e).1).clear i
        else s.setTerminal i (hosted.terminal.react em e).1) := by
      split
      · exact hset.clear i
      · exact hset
    dsimp only
    split
    · exact hcleared
    · exact hcleared.tell i _ _ stopped

lemma teardown_get (s : Subscriptions σ) (ref : SessionRef) :
    (s.teardown ref).subscriptions.get ref = none := by
  rw [teardown]
  cases hget : s.subscriptions.get ref with
  | none => exact hget
  | some entry => exact InsertionMap.get_erase_self _ _

lemma Kept.teardown (h : Kept s) (ref : SessionRef) : Kept (s.teardown ref) := by
  rw [Subscriptions.teardown]
  cases hget : s.subscriptions.get ref with
  | none => exact h
  | some entry =>
    have hother : ∀ {ref' : SessionRef} {entry' : SubscriptionEntry},
        (s.subscriptions.erase ref).get ref' = some entry' → ref' ≠ ref ∧
          s.subscriptions.get ref' = some entry' := InsertionMap.get_erase_eq_some.1
    exact
      { h with
        numbers := h.numbers.sublist (List.filter_sublist.map _)
        current := by
          intro a ha
          obtain ⟨hmem, hne⟩ := List.mem_filter.1 ha
          obtain ⟨ref', href'⟩ := h.current a hmem
          refine ⟨ref', InsertionMap.get_erase_eq_some.2 ⟨?_, href'⟩⟩
          rintro rfl
          rw [hget, Option.some_inj] at href'
          simp [href'] at hne
        hosted := fun ref' entry' hentry' => h.hosted ref' entry' (hother hentry').2
        fresh := fun ref' entry' hentry' => h.fresh ref' entry' (hother hentry').2
        belongs := by
          intro ref' number hnumber
          obtain ⟨hne, hnumber⟩ := InsertionMap.get_erase_eq_some.1 hnumber
          obtain ⟨i, hi⟩ := h.belongs ref' number hnumber
          exact ⟨i, InsertionMap.get_erase_eq_some.2 ⟨hne, hi⟩⟩
        resumes := by
          intro ref' entry' hosted hentry' hhosted hlive
          obtain ⟨hne, hentry'⟩ := hother hentry'
          exact InsertionMap.get_erase_eq_some.2 ⟨hne, h.resumes ref' entry' hosted hentry' hhosted hlive⟩
        allowed := fun hopen ref' entry' hentry' => h.allowed hopen ref' entry' (hother hentry').2 }

/-! ## A new subscription -/

/-- A subscription may be entered under a number: there is none to the session, the number is the latest,
and its acknowledgement went out if the connection is still open. -/
structure Ready (s : Subscriptions σ) (ref : SessionRef) (number i : ℕ) : Prop where
  vacant : s.subscriptions.get ref = none
  hosted : ∃ hosted, s.sessions[i]? = some hosted ∧ hosted.ref = ref
  latest : ∀ ref entry, s.subscriptions.get ref = some entry → entry.number < number
  below : number < s.made
  acked : s.closed = false → Outgoing.subscribed number ref ∈ s.sent ∧ FrameAllowed s.sent number

lemma Ready.sending {i : ℕ} (h : Ready s ref number i) (hs : Sending s s') : Ready s' ref number i where
  vacant := hs.subscriptions ref h.vacant
  hosted := by rw [hs.sessions]; exact h.hosted
  latest := fun ref entry hentry => h.latest ref entry (hs.entries ref entry hentry)
  below := by rw [hs.made]; exact h.below
  acked := fun hopen =>
    ⟨hs.acked _ (h.acked (hs.opened hopen)).1, hs.allowed _ (h.acked (hs.opened hopen)).2⟩

lemma Kept.enter {i : ℕ} {live : Bool} (h : Kept s) (hready : Ready s ref number i)
    (hlive : ∀ hosted, s.sessions[i]? = some hosted → hosted.terminal.isOver = false → live = true) :
    Kept (s.enter ref number i live) := by
  -- an entry that was there is to another session
  have hne : ∀ {ref' : SessionRef} {entry : SubscriptionEntry},
      s.subscriptions.get ref' = some entry → ref' ≠ ref := by
    rintro ref' entry hentry rfl
    rw [hready.vacant] at hentry
    cases hentry
  have hold : ∀ {ref' : SessionRef} {entry : SubscriptionEntry}, s.subscriptions.get ref' = some entry →
      (s.enter ref number i live).subscriptions.get ref' = some entry := by
    intro ref' entry hentry
    rw [Subscriptions.enter, InsertionMap.get_set_ne _ (hne hentry)]
    exact hentry
  have hget : ∀ {ref' : SessionRef} {entry : SubscriptionEntry},
      (s.enter ref number i live).subscriptions.get ref' = some entry →
        ref' = ref ∧ entry = ⟨i, number⟩ ∨ s.subscriptions.get ref' = some entry := by
    intro ref' entry hentry
    rw [Subscriptions.enter, InsertionMap.get_set] at hentry
    split at hentry
    · exact Or.inl ⟨‹_›, (Option.some.inj hentry).symm⟩
    · exact Or.inr hentry
  have hresumers : ∀ {ref' : SessionRef}, ref' ≠ ref →
      (s.enter ref number i live).resumers.get ref' = s.resumers.get ref' := by
    intro ref' hne'
    rw [Subscriptions.enter]
    split
    · exact InsertionMap.get_set_ne _ hne' _
    · rfl
  refine { h with
    numbers := ?_
    current := ?_
    hosted := ?_
    fresh := ?_
    belongs := ?_
    resumes := ?_
    allowed := ?_ }
  · rw [Subscriptions.enter, List.map_append]
    refine List.nodup_append.2 ⟨h.numbers, by simp, ?_⟩
    intro n hn n' hn'
    obtain ⟨a, ha, rfl⟩ := List.mem_map.1 hn
    obtain ⟨ref', href'⟩ := h.current a ha
    have hlt : a.number < number := hready.latest ref' _ href'
    have heq : n' = number := by simpa using hn'
    omega
  · intro a ha
    rcases List.mem_append.1 ha with hmem | hnew
    · obtain ⟨ref', href'⟩ := h.current a hmem
      exact ⟨ref', hold href'⟩
    · rw [List.mem_singleton.1 hnew]
      exact ⟨ref, InsertionMap.get_set_self _ _ _⟩
  · intro ref' entry hentry
    rcases hget hentry with ⟨rfl, rfl⟩ | hentry
    · exact hready.hosted
    · exact h.hosted ref' entry hentry
  · intro ref' entry hentry
    rcases hget hentry with ⟨-, rfl⟩ | hentry
    · exact hready.below
    · exact h.fresh ref' entry hentry
  · intro ref' n hn
    by_cases href' : ref' = ref
    · subst href'
      have hn' : n = number := by
        cases live with
        | true => simpa [Subscriptions.enter, eq_comm] using hn
        | false =>
          -- no callback was left for a session with no subscription
          obtain ⟨j, hj⟩ := h.belongs ref' n hn
          exact absurd rfl (hne hj)
      exact ⟨i, by rw [hn']; exact InsertionMap.get_set_self _ _ _⟩
    · rw [hresumers href'] at hn
      obtain ⟨j, hj⟩ := h.belongs ref' n hn
      exact ⟨j, hold hj⟩
  · intro ref' entry hosted hentry hhosted hover
    rcases hget hentry with ⟨rfl, rfl⟩ | hentry
    · obtain rfl := hlive hosted hhosted hover
      exact InsertionMap.get_set_self _ _ _
    · rw [hresumers (hne hentry)]
      exact h.resumes ref' entry hosted hentry hhosted hover
  · intro hopen ref' entry hentry
    rcases hget hentry with ⟨rfl, rfl⟩ | hentry
    · exact hready.acked hopen
    · exact h.allowed hopen ref' entry hentry

lemma Kept.attach {i : ℕ} {hosted : HostedSession σ} (h : Kept s) (hready : Ready s ref number i)
    (hhosted : s.sessions[i]? = some hosted) :
    Kept (s.attach em channel ref number i hosted.terminal).1 := by
  rw [Subscriptions.attach]
  by_cases hdisposed : hosted.terminal.disposed = true
  · rw [if_pos hdisposed]
    exact h
  · rw [if_neg hdisposed]
    generalize (hosted.terminal.snapshot em ++
      if hosted.terminal.ended then [hosted.terminal.endedFrame] else []) = frames
    have hemit : Kept (s.emit channel number frames).1 ∧ Sending s (s.emit channel number frames).1 :=
      h.emit (fun hopen => (hready.acked hopen).2) frames
    obtain ⟨hkept, hsending⟩ := hemit
    dsimp only
    split
    · refine hkept.enter (hready.sending hsending) ?_
      intro hosted' hhosted' hover
      rw [hsending.sessions, hhosted, Option.some_inj] at hhosted'
      subst hhosted'
      rw [Terminal.isOver, Bool.or_eq_false_iff] at hover
      rw [hover.1]
      rfl
    · exact hkept

lemma Kept.numbered (h : Kept s) (ref : SessionRef) :
    Kept { s.teardown ref with made := s.made + 1 } := by
  have hdown := h.teardown ref
  have hmade : (s.teardown ref).made = s.made := by
    rw [Subscriptions.teardown]
    split <;> rfl
  refine { hdown with fresh := ?_, below := ?_ }
  · intro ref' entry hentry
    have hlt := hdown.fresh ref' entry hentry
    show entry.number < s.made + 1
    omega
  · intro n ref' hmem
    have hlt := hdown.below n ref' hmem
    show n < s.made + 1
    omega

lemma Kept.subscribeTo {i : ℕ} {hosted : HostedSession σ} (h : Kept s)
    (hhosted : s.sessions[i]? = some hosted) (href : hosted.ref = ref) :
    Kept (s.subscribeTo em channel ref i hosted.terminal) := by
  have hdown := h.teardown ref
  have hkeeps : (s.teardown ref).sessions = s.sessions ∧ (s.teardown ref).made = s.made := by
    rw [Subscriptions.teardown]
    split <;> exact ⟨rfl, rfl⟩
  obtain ⟨hsessions, hmade⟩ := hkeeps
  have hnew : ∀ ref', Outgoing.subscribed s.made ref' ∉ (s.teardown ref).sent := by
    intro ref' hmem
    have hlt := hdown.below _ _ hmem
    omega
  rw [Subscriptions.subscribeTo]
  set s₁ : Subscriptions σ := { s.teardown ref with made := s.made + 1 } with hs₁
  have hkept : Kept (s₁.send channel (.subscribed s.made ref)).1 :=
    (h.numbered ref).send fun _ => ⟨Nat.lt_succ_self _, hnew⟩
  have hsending : Sending s₁ (s₁.send channel (.subscribed s.made ref)).1 :=
    .send s₁ fun ref' heq => by cases heq
  dsimp only
  split
  · rename_i hreturned
    have hready : Ready (s₁.send channel (.subscribed s.made ref)).1 ref s.made i :=
      { vacant := hsending.subscriptions ref (s.teardown_get ref)
        hosted := by
          rw [hsending.sessions]
          exact ⟨hosted, by rw [hs₁, ← hhosted, ← hsessions], href⟩
        latest := by
          intro ref' entry hentry
          have hlt := hdown.fresh ref' entry (hsending.entries ref' entry hentry)
          omega
        below := by
          rw [hsending.made]
          exact Nat.lt_succ_self _
        acked := by
          intro hopen
          rw [(send_returned hreturned hopen).2]
          exact ⟨by simp, frameAllowed_acked hnew ref⟩ }
    have hattached : Kept ((s₁.send channel (.subscribed s.made ref)).1.attach em channel ref s.made i
        hosted.terminal).1 := by
      refine hkept.attach hready ?_
      rw [hsending.sessions, hs₁, ← hhosted, ← hsessions]
    split
    · exact hattached
    · exact hattached.respond
  · exact hkept.respond

lemma Kept.handleSubscribe (h : Kept s) (ref : SessionRef) (escalated : Bool) :
    Kept (s.handleSubscribe em channel ref escalated) := by
  rw [Subscriptions.handleSubscribe]
  split
  · exact h.respond
  · cases hi : s.registry.get ref with
    | none => exact h.respond
    | some i =>
      obtain ⟨hosted, hhosted, href⟩ := h.registered ref i hi
      dsimp only
      rw [hhosted]
      exact h.subscribeTo hhosted href

lemma Kept.handleUnsubscribe (h : Kept s) (ref : SessionRef) (threw : Bool) :
    Kept (s.handleUnsubscribe channel ref threw) := by
  have hdown := h.teardown ref
  have hsent : Kept ((s.teardown ref).send channel (.unsubscribed ref)).1 :=
    hdown.send fun _ => s.teardown_get ref
  rw [Subscriptions.handleUnsubscribe]
  dsimp only
  split
  · exact hdown.respond
  · split
    · exact hsent
    · exact hsent.respond

/-! ## The drain -/

lemma Kept.resume (h : Kept s) (number : ℕ) : Kept (s.resume em channel number).1 := by
  rw [Subscriptions.resume]
  cases ha : s.sink number with
  | none => exact h
  | some a =>
    have hgoing : Kept (s.onSink number fun a =>
        { a with
          paused := false
          missed := false }) := h.onSink fun a => ⟨rfl, rfl⟩
    have hemit : ∀ frames, Kept (Subscriptions.emit channel _ number frames).1 :=
      fun frames => (hgoing.emit (h.sink_allowed ha) frames).1
    dsimp only
    split
    · exact h
    · split
      · exact hgoing
      · split
        · exact hgoing
        · split
          · exact (hemit _).pauseFull
          · exact hemit _

lemma Kept.pump (h : Kept s) (refs : List SessionRef) : Kept (s.pump em channel refs) := by
  induction refs generalizing s with
  | nil => exact h
  | cons ref refs ih =>
    rw [Subscriptions.pump]
    cases hget : s.resumers.get ref with
    | none => exact ih h
    | some number =>
      have hresumed : Kept (s.resume em channel number).1 := h.resume number
      dsimp only
      split
      · exact ih hresumed
      · exact hresumed

/-! ## Runs -/

lemma Kept.opened (h : Kept s) (ref : SessionRef) (streamId : ℕ) (size : Size) :
    Kept (s.opened em ref streamId size) := by
  rw [Subscriptions.opened]
  split
  · exact h
  · have hold : ∀ {i : ℕ} {hosted hosted' : HostedSession σ}, s.sessions[i]? = some hosted →
        (s.sessions ++ [hosted'])[i]? = some hosted := by
      intro i hosted hosted' hi
      rw [List.getElem?_append_left (List.getElem?_eq_some_iff.1 hi).1]
      exact hi
    refine { h with hosted := ?_, registered := ?_, resumes := ?_ }
    · intro ref' entry hentry
      obtain ⟨hosted, hhosted, href⟩ := h.hosted ref' entry hentry
      exact ⟨hosted, hold hhosted, href⟩
    · intro ref' i hi
      rw [InsertionMap.get_set] at hi
      split at hi
      · obtain rfl := Option.some.inj hi
        exact ⟨_, List.getElem?_concat_length, (‹ref' = ref›).symm⟩
      · obtain ⟨hosted, hhosted, href⟩ := h.registered ref' i hi
        exact ⟨hosted, hold hhosted, href⟩
    · intro ref' entry hosted hentry hhosted hover
      obtain ⟨hosted', hhosted', -⟩ := h.hosted ref' entry hentry
      obtain rfl := Option.some.inj ((hold hhosted').symm.trans hhosted)
      exact h.resumes ref' entry _ hentry hhosted' hover

lemma Kept.react (h : Kept s) (e : SubscriptionEvent) : Kept (s.react em channel e) := by
  cases e with
  | opened ref streamId size => exact h.opened ref streamId size
  | removed ref =>
    exact { h with registered := fun ref' i hi => h.registered ref' i (InsertionMap.get_erase_eq_some.1 hi).2 }
  | subscribe ref escalated => exact h.handleSubscribe ref escalated
  | unsubscribe ref threw => exact h.handleUnsubscribe ref threw
  | session i e stopped => exact h.onSession i e stopped
  | responded => exact h.respond
  | turn writable => exact { h with }
  | drain => exact h.pump _
  | close => exact h.close

lemma kept_run (em : Emulator σ) (channel : ℕ → SendAnswer) (es : List SubscriptionEvent) :
    Kept ((subscriptionsMachine em channel).run es) :=
  (subscriptionsMachine em channel).invariant kept_new (fun _ e h => h.react e) es

end Subscriptions

/-! ## The law -/

/-- The bookkeeping of the subscriptions is right. -/
structure SubscriptionsLaw {σ : Type} (s : Subscriptions σ) : Prop where
  single : ∀ i, (s.sinks.filter fun a => a.session = i).length ≤ 1
  acked : ∀ pre number frame post, s.sent = pre ++ .frame number frame :: post →
    ∃ ref, Outgoing.subscribed number ref ∈ pre
  belongs : ∀ ref number, s.resumers.get ref = some number →
    ∃ i, s.subscriptions.get ref = some ⟨i, number⟩
  resumes : ∀ ref entry hosted, s.subscriptions.get ref = some entry →
    s.sessions[entry.session]? = some hosted → hosted.terminal.isOver = false →
      s.resumers.get ref = some entry.number
  quiet : ∀ pre ref post number, s.sent = pre ++ .unsubscribed ref :: post →
    Outgoing.subscribed number ref ∈ pre → ∀ frame, Outgoing.frame number frame ∉ post
  silent : ∀ pre post, s.sent = pre ++ .closed :: post → ∀ number frame, Outgoing.frame number frame ∉ post

lemma Subscriptions.Kept.single {σ : Type} {s : Subscriptions σ} (h : Kept s) (i : ℕ) :
    (s.sinks.filter fun a => a.session = i).length ≤ 1 := by
  have hnodup : ((s.sinks.filter fun a => a.session = i).map AttachedSink.number).Nodup :=
    h.numbers.sublist (List.filter_sublist.map _)
  have hentry : ∀ a ∈ s.sinks.filter fun a => a.session = i, ∀ b ∈ s.sinks.filter fun a => a.session = i,
      a.number = b.number := by
    intro a ha b hb
    obtain ⟨ha, hai⟩ := List.mem_filter.1 ha
    obtain ⟨hb, hbi⟩ := List.mem_filter.1 hb
    obtain ⟨ref, href⟩ := h.current a ha
    obtain ⟨ref', href'⟩ := h.current b hb
    obtain ⟨hosted, hhosted, rfl⟩ := h.hosted ref _ href
    obtain ⟨hosted', hhosted', rfl⟩ := h.hosted ref' _ href'
    have hsession : a.session = b.session := (of_decide_eq_true hai).trans (of_decide_eq_true hbi).symm
    rw [← hsession] at hhosted'
    obtain rfl := Option.some.inj (hhosted.symm.trans hhosted')
    have heq := Option.some.inj (href.symm.trans href')
    exact congrArg SubscriptionEntry.number heq
  generalize s.sinks.filter (fun a => a.session = i) = sinks at hnodup hentry ⊢
  match sinks with
  | [] => simp
  | [a] => simp
  | a :: b :: rest =>
    have heq := hentry a (by simp) b (by simp)
    simp [heq] at hnodup

/-- However the events of a connection follow each other, and whatever the channel does when it is
called, the bookkeeping of its subscriptions is right. -/
theorem subscriptions_kept {σ : Type} (em : Emulator σ) (channel : ℕ → SendAnswer)
    (es : List SubscriptionEvent) : SubscriptionsLaw ((subscriptionsMachine em channel).run es) := by
  have h := Subscriptions.kept_run em channel es
  refine
    { single := h.single
      acked := ?_
      belongs := h.belongs
      resumes := h.resumes
      quiet := ?_
      silent := ?_ }
  · intro pre number frame post hsent
    exact (h.inOrder pre _ post hsent number frame rfl).1.1
  · intro pre ref post number hsent hmem frame hframe
    obtain ⟨mid, rest, rfl⟩ := List.append_of_mem hframe
    have hmay := h.inOrder (pre ++ .unsubscribed ref :: mid) (.frame number frame) rest (by simp [hsent])
    exact (hmay number frame rfl).1.2 pre _ mid rfl ref rfl hmem
  · intro pre post hsent number frame hframe
    obtain ⟨mid, rest, rfl⟩ := List.append_of_mem hframe
    have hmay := h.inOrder (pre ++ .closed :: mid) (.frame number frame) rest (by simp [hsent])
    exact (hmay number frame rfl).2 (by simp)

end Pherry.Host
