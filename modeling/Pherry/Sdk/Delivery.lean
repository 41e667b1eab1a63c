import Pherry.Sdk.Listeners

/-!
# Listeners and the iterator agree

Every event that is decoded reaches the reads and each listener that was there before it, once and in
order, and behind the end of its session a stream stays complete, over every run in which no listener
throws, and none brings the stream a frame or ends it before it returns.
-/

namespace Pherry.Sdk

open Lib Protocol

/-- The events that a listener is called with. -/
def heard (listener : ℕ) (effects : List StreamEffect) : List PtyEvent :=
  effects.filterMap fun
    | .listener l event => if l = listener then some event else none
    | .read _ _ => none

/-- The events that reads are settled with. -/
def taken (effects : List StreamEffect) : List PtyEvent :=
  effects.filterMap fun
    | .read _ (.value event) => some event
    | _ => none

/-- A stream that has ended and was not given up: no read waits, and once its queue is empty every read
is done. -/
structure PtyEventStream.Complete (s : PtyEventStream) : Prop where
  ended : s.ended = true
  quiet : s.pullers = []
  done : s.queue = [] → ∀ read, s.next read = (s, [(read, .done)])

namespace ListenedStream

/-- The events of the pushes under way. -/
def inHand (s : ListenedStream) : List PtyEvent := s.pushes.map Push.event

/-- Those that a listener is still to be called with. -/
def toHear (s : ListenedStream) (listener : ℕ) : List PtyEvent :=
  s.pushes.flatMap fun push =>
    if listener ∈ s.listeners.take push.called then [] else [push.event]

/-- No listener throws, and none brings the stream a frame or ends it before it returns. -/
def heeds (s : ListenedStream) : StreamEvent → Bool
  | .ingest _ => s.pushes.isEmpty
  | .finish => s.pushes.isEmpty
  | .threw => false
  | _ => true

end ListenedStream

/-- Listeners and the iterator agree after a run. The reads and the queue have every event that was
decoded, but for the one under way; so has a listener from where it was registered; no read waits while
there is an event for it; and a stream whose session has ended is complete. -/
structure Delivered (es : List StreamEvent) : Prop where
  iterator : taken (streamEffects es) ++ (listenedMachine.run es).stream.queue
    ++ (listenedMachine.run es).inHand = decodedEvents es
  listener : ∀ pre listener post, es = pre ++ .onEvent listener :: post →
    listener ∉ (listenedMachine.run pre).listeners →
    heard listener (streamEffects es) ++ (listenedMachine.run es).toHear listener =
      (listenedMachine.run pre).inHand ++
        listenedMachine.outputsFrom ListenedStream.decoded (listenedMachine.run pre) (.onEvent listener :: post)
  served : (listenedMachine.run es).stream.pullers = [] ∨ (listenedMachine.run es).stream.queue = []
  completes : (decodedEvents es).any PtyEvent.isEnded = true → (listenedMachine.run es).pushes = [] →
    (listenedMachine.run es).stream.Complete

/-! ## Effects -/

lemma heard_append (listener : ℕ) (effects more : List StreamEffect) :
    heard listener (effects ++ more) = heard listener effects ++ heard listener more :=
  List.filterMap_append

lemma taken_append (effects more : List StreamEffect) :
    taken (effects ++ more) = taken effects ++ taken more := List.filterMap_append

lemma heard_readEffects (listener : ℕ) (settled : Settled) :
    heard listener (readEffects settled) = [] := by
  rw [heard, readEffects, List.filterMap_map, List.filterMap_eq_nil_iff]
  exact fun _ _ => rfl

lemma taken_readEffects_map {pullers : List ℕ} {result : ReadResult}
    (h : ∀ event, result ≠ .value event) :
    taken (readEffects (pullers.map fun read => (read, result))) = [] := by
  rw [taken, readEffects, List.map_map, List.filterMap_map, List.filterMap_eq_nil_iff]
  intro read _
  cases result with
  | value event => exact absurd rfl (h event)
  | done => rfl
  | rejected => rfl

/-! ## Steps of the stream -/

namespace PtyEventStream

variable {s : PtyEventStream}

/-- A live stream whose reads wait only while there is nothing for them. -/
def Served (s : PtyEventStream) : Prop := s.pullers = [] ∨ s.queue = []

lemma taken_finish : taken (readEffects s.finish.2) = [] ∧ s.finish.1.queue = s.queue := by
  unfold finish
  split
  · exact ⟨rfl, rfl⟩
  · exact ⟨taken_readEffects_map (by simp), rfl⟩

lemma Served.finish (h : s.Served) : s.finish.1.Served := by
  unfold PtyEventStream.finish
  split
  · exact h
  · exact .inl rfl

lemma finish_ended : s.finish.1.ended = true ∧ s.finish.1.failed = s.failed := by
  unfold finish
  split
  · next hended => exact ⟨hended, rfl⟩
  · exact ⟨rfl, rfl⟩

lemma taken_next (read : ℕ) :
    taken (readEffects (s.next read).2) ++ (s.next read).1.queue = s.queue := by
  unfold next
  split
  · next event queue hqueue =>
    rw [hqueue]
    rfl
  · next hqueue =>
    rw [hqueue]
    split
    · exact hqueue
    split
    · exact hqueue
    · rfl

lemma Served.next (h : s.Served) (read : ℕ) : (s.next read).1.Served := by
  unfold PtyEventStream.next
  split
  · next event queue hqueue =>
    rcases h with h | h
    · exact .inl h
    · rw [hqueue] at h
      cases h
  · next hqueue =>
    split
    · exact h
    split
    · exact h
    · exact .inr hqueue

/-- A read does not change whether a stream has ended, and no read waits on one that has. -/
lemma next_ended (read : ℕ) : (s.next read).1.ended = s.ended ∧ (s.next read).1.failed = s.failed := by
  unfold next
  split
  · exact ⟨rfl, rfl⟩
  split
  · exact ⟨rfl, rfl⟩
  split <;> exact ⟨rfl, rfl⟩

/-- `#push` behind the listeners, without the `end` that may follow. -/
def put (s : PtyEventStream) (event : PtyEvent) : PtyEventStream × Settled :=
  match s.pullers with
  | read :: pullers => ({ s with pullers }, [(read, .value event)])
  | [] => ({ s with queue := s.queue ++ [event] }, [])

lemma deliver_eq (event : PtyEvent) : s.deliver event =
    if event.isEnded then ((s.put event).1.finish.1, (s.put event).2 ++ (s.put event).1.finish.2)
    else s.put event := by
  cases event <;> rfl

lemma taken_put (h : s.Served) (event : PtyEvent) :
    taken (readEffects (s.put event).2) ++ (s.put event).1.queue = s.queue ++ [event] ∧
      (s.put event).1.Served := by
  unfold put
  split
  · next read pullers hpullers =>
    have hqueue : s.queue = [] := h.resolve_left (by rw [hpullers]; exact List.cons_ne_nil _ _)
    refine ⟨?_, .inr hqueue⟩
    dsimp only
    rw [hqueue]
    rfl
  · next hpullers => exact ⟨rfl, .inl hpullers⟩

lemma put_ended (event : PtyEvent) :
    (s.put event).1.ended = s.ended ∧ (s.put event).1.failed = s.failed := by
  unfold put
  split <;> exact ⟨rfl, rfl⟩

lemma taken_deliver (h : s.Served) (event : PtyEvent) :
    taken (readEffects (s.deliver event).2) ++ (s.deliver event).1.queue = s.queue ++ [event] ∧
      (s.deliver event).1.Served := by
  obtain ⟨htaken, hserved⟩ := taken_put h event
  rw [deliver_eq]
  split
  · refine ⟨?_, hserved.finish⟩
    dsimp only
    rw [readEffects, List.map_append, ← readEffects, ← readEffects, taken_append, taken_finish.1,
      taken_finish.2, List.append_nil]
    exact htaken
  · exact ⟨htaken, hserved⟩

lemma deliver_ended (s : PtyEventStream) (event : PtyEvent) :
    (s.deliver event).1.ended = (s.ended || event.isEnded) ∧ (s.deliver event).1.failed = s.failed := by
  obtain ⟨hended, hfailed⟩ := put_ended (s := s) event
  rw [deliver_eq]
  split
  · next hevent =>
    rw [hevent, Bool.or_true]
    exact ⟨finish_ended.1, finish_ended.2.trans hfailed⟩
  · next hevent =>
    rw [Bool.eq_false_iff.2 hevent, Bool.or_false]
    exact ⟨hended, hfailed⟩

end PtyEventStream

/-! ## Steps -/

namespace ListenedStream

/-- At most one push is under way, on a live stream; its listeners were called in turn; and a stream
whose session has ended is complete. -/
structure Orderly (s : ListenedStream) : Prop where
  one : s.pushes.length ≤ 1
  live : ∀ push ∈ s.pushes, s.stream.ended = false ∧ push.called ≤ s.listeners.length
  listeners : s.listeners.Nodup
  served : s.stream.Served
  quiet : s.stream.Quiet
  failed : s.stream.failed = true → s.stream.ended = true

lemma orderly_new : new.Orderly where
  one := Nat.zero_le _
  live := by simp [new]
  listeners := List.nodup_nil
  served := .inl rfl
  quiet := PtyEventStream.quiet_new
  failed := by simp [new, PtyEventStream.new]

variable {s : ListenedStream}

lemma Orderly.proceed (h : s.Orderly) : s.proceed.1.Orderly ∧
    taken s.proceed.2 ++ s.proceed.1.stream.queue ++ s.proceed.1.inHand = s.stream.queue ++ s.inHand := by
  unfold ListenedStream.proceed
  split
  · next hpushes => exact ⟨h, rfl⟩
  next push pushes hpushes =>
  have hnone : pushes = [] := by
    have hone := h.one
    rw [hpushes, List.length_cons] at hone
    exact List.length_eq_zero_iff.1 (by omega)
  subst hnone
  obtain ⟨hlive, hcalled⟩ := h.live push (by rw [hpushes]; exact List.mem_cons_self)
  split
  · next listener hlistener =>
    have hlt := (List.getElem?_eq_some_iff.1 hlistener).1
    refine ⟨⟨Nat.le_refl _, ?_, h.listeners, h.served, h.quiet, h.failed⟩, ?_⟩
    · simp only [List.mem_singleton, forall_eq]
      exact ⟨hlive, by omega⟩
    · simp [taken, inHand, hpushes]
  · -- behind the last listener the event goes to the reads
    obtain ⟨htaken, hserved⟩ := PtyEventStream.taken_deliver h.served push.event
    obtain ⟨hended, hfailed⟩ := s.stream.deliver_ended push.event
    refine ⟨⟨Nat.zero_le _, by simp, h.listeners, hserved, h.quiet.deliver _, fun hs => ?_⟩, ?_⟩
    · rw [hended, h.failed (hfailed.symm.trans hs), Bool.true_or]
    simp only [inHand, hpushes, List.map_nil, List.append_nil, List.map_cons]
    exact htaken

lemma Orderly.proceed_ends (h : s.Orderly) (hpush : ∃ push ∈ s.pushes, push.event.isEnded = true) :
    (∃ push ∈ s.proceed.1.pushes, push.event.isEnded = true) ∨
      s.proceed.1.stream.ended = true ∧ s.proceed.1.stream.failed = false := by
  obtain ⟨push, hmem, hevent⟩ := hpush
  have hlive := (h.live push hmem).1
  unfold ListenedStream.proceed
  cases hpushes : s.pushes with
  | nil =>
    rw [hpushes] at hmem
    cases hmem
  | cons first pushes =>
    have hone := h.one
    rw [hpushes, List.length_cons] at hone
    have hnone : pushes = [] := List.length_eq_zero_iff.1 (by omega)
    rw [hpushes, hnone, List.mem_singleton] at hmem
    subst hmem
    dsimp only
    split
    · exact .inl ⟨_, List.mem_cons_self, hevent⟩
    · obtain ⟨hended, hfailed⟩ := s.stream.deliver_ended push.event
      refine .inr ⟨?_, ?_⟩
      · rw [hended, hevent, Bool.or_true]
      · rw [hfailed, Bool.eq_false_iff]
        intro hs
        rw [h.failed hs] at hlive
        cases hlive

end ListenedStream

lemma PtyEventStream.Ingested.keeps {s t : PtyEventStream} {snapshot : Option PendingSnapshot}
    {settled : Settled} (h : Ingested s snapshot t settled) :
    taken (readEffects settled) = [] ∧ t.queue = s.queue ∧ (s.Served → t.Served) ∧
      ((s.failed = true → s.ended = true) → t.failed = true → t.ended = true) ∧
      (s.ended = true → t.ended = true ∧ t.failed = s.failed) := by
  cases h with
  | live => exact ⟨rfl, rfl, id, id, fun hended => ⟨hended, rfl⟩⟩
  | failed hlive =>
    refine ⟨taken_readEffects_map (by simp), rfl, fun _ => .inl rfl, fun _ _ => rfl, fun hended => ?_⟩
    rw [hended] at hlive
    cases hlive

namespace ListenedStream

variable {s : ListenedStream}

lemma Orderly.begin (h : s.Orderly) (hpushes : s.pushes = []) (hlive : s.stream.ended = false)
    (event : PtyEvent) : ({ s with pushes := ⟨event, 0⟩ :: s.pushes } : ListenedStream).Orderly := by
  refine ⟨?_, ?_, h.listeners, h.served, h.quiet, h.failed⟩
  · rw [hpushes]
    exact Nat.le_refl _
  · simp only [hpushes, List.mem_singleton, forall_eq]
    exact ⟨hlive, Nat.zero_le _⟩

lemma Orderly.ingest (h : s.Orderly) (hpushes : s.pushes = []) (frame : PtyFrame) :
    (s.ingest frame).1.Orderly ∧
      taken (s.ingest frame).2 ++ (s.ingest frame).1.stream.queue ++ (s.ingest frame).1.inHand =
        s.stream.queue ++ s.inHand ++ (s.decodes frame).toList := by
  have hhand : s.inHand = [] := by rw [inHand, hpushes, List.map_nil]
  unfold ListenedStream.ingest decodes
  cases hingest : s.stream.ingest frame with
  | none => exact ⟨h, by simp [taken]⟩
  | some r =>
    obtain ⟨stream, settled, event⟩ := r
    obtain ⟨snapshot, hframe⟩ := PtyEventStream.ingested_of_ingest hingest
    obtain ⟨htaken, hqueue, hserved, hfailed, -⟩ := hframe.keeps
    have hquiet := h.quiet.ingest hingest
    have hdropped : ({ s with stream } : ListenedStream).Orderly :=
      ⟨h.one, by simp [hpushes], h.listeners, hserved h.served, hquiet, hfailed h.failed⟩
    dsimp only at htaken hqueue hquiet ⊢
    cases event with
    | none =>
      refine ⟨hdropped, ?_⟩
      rw [htaken, List.nil_append, hqueue, ite_self, Option.toList_none, List.append_nil]
      rfl
    | some event =>
      dsimp only
      split
      · refine ⟨hdropped, ?_⟩
        rw [htaken, List.nil_append, hqueue, Option.toList_none, List.append_nil]
        rfl
      · next hlive =>
        have hbegun := hdropped.begin hpushes (Bool.eq_false_iff.2 hlive) event
        obtain ⟨horderly, hkept⟩ := hbegun.proceed
        refine ⟨horderly, ?_⟩
        rw [taken_append, htaken, List.nil_append, hkept, hqueue, hhand, Option.toList_some]
        simp [inHand, hpushes]

/-- One event: the stream stays in order, and what is decoded is what is taken, queued and under way. -/
lemma Orderly.react (h : s.Orderly) {e : StreamEvent} (he : s.heeds e = true) :
    (s.react e).1.Orderly ∧
      taken (s.react e).2 ++ (s.react e).1.stream.queue ++ (s.react e).1.inHand =
        s.stream.queue ++ s.inHand ++ s.decoded e := by
  cases e with
  | ingest frame => exact h.ingest (List.isEmpty_iff.1 he) frame
  | onEvent listener =>
    simp only [ListenedStream.react, decoded, List.append_nil]
    split
    · exact ⟨h, rfl⟩
    · next hnew =>
      refine ⟨⟨h.one, fun push hpush => ?_, ?_, h.served, h.quiet, h.failed⟩, rfl⟩
      · obtain ⟨hlive, hcalled⟩ := h.live push hpush
        refine ⟨hlive, ?_⟩
        rw [List.length_append]
        omega
      · refine List.nodup_append.2 ⟨h.listeners, List.pairwise_singleton _ _, fun other hother _ hlast => ?_⟩
        rw [List.mem_singleton.1 hlast]
        exact fun heq => hnew (heq ▸ hother)
  | next read =>
    simp only [ListenedStream.react, decoded, List.append_nil]
    obtain ⟨hended, hfailed⟩ := s.stream.next_ended read
    refine ⟨⟨h.one, ?_, h.listeners, h.served.next read, h.quiet.next read, ?_⟩, ?_⟩
    · rw [hended]
      exact h.live
    · rw [hended, hfailed]
      exact h.failed
    · rw [PtyEventStream.taken_next]
      rfl
  | finish =>
    have hpushes : s.pushes = [] := List.isEmpty_iff.1 he
    simp only [ListenedStream.react, decoded, List.append_nil]
    refine ⟨⟨h.one, by simp [hpushes], h.listeners, h.served.finish, h.quiet.finish, fun _ => ?_⟩, ?_⟩
    · exact PtyEventStream.finish_ended.1
    · rw [PtyEventStream.taken_finish.1, PtyEventStream.taken_finish.2]
      rfl
  | returned =>
    simp only [ListenedStream.react, decoded, List.append_nil]
    exact h.proceed
  | threw => cases he

/-! ## Listeners -/

lemma listeners_proceed (s : ListenedStream) : s.proceed.1.listeners = s.listeners := by
  unfold proceed
  split
  · rfl
  split <;> rfl

lemma mem_listeners_react {listener : ℕ} (e : StreamEvent) (hmem : listener ∈ s.listeners) :
    listener ∈ (s.react e).1.listeners := by
  cases e with
  | ingest frame =>
    simp only [react, ingest]
    split
    · exact hmem
    split
    · exact hmem
    split
    · exact hmem
    · rw [listeners_proceed]
      exact hmem
  | onEvent other =>
    simp only [react]
    split
    · exact hmem
    · exact List.mem_append_left _ hmem
  | next read => exact hmem
  | finish => exact hmem
  | returned =>
    rw [react, listeners_proceed]
    exact hmem
  | threw => exact hmem

lemma heard_proceed_unregistered {listener : ℕ} (hnot : listener ∉ s.listeners) :
    heard listener s.proceed.2 = [] := by
  unfold proceed
  split
  · rfl
  split
  · next called hcalled =>
    have hne : called ≠ listener := fun heq => hnot (heq ▸ List.mem_of_getElem? hcalled)
    simp [heard, hne]
  · exact heard_readEffects _ _

lemma heard_react_unregistered {listener : ℕ} (e : StreamEvent) (hnot : listener ∉ s.listeners) :
    heard listener (s.react e).2 = [] := by
  cases e with
  | ingest frame =>
    simp only [react, ingest]
    split
    · rfl
    split
    · exact heard_readEffects _ _
    split
    · exact heard_readEffects _ _
    · rw [heard_append, heard_readEffects, List.nil_append]
      exact heard_proceed_unregistered hnot
  | onEvent other => rfl
  | next read => exact heard_readEffects _ _
  | finish => exact heard_readEffects _ _
  | returned => exact heard_proceed_unregistered hnot
  | threw => rfl

lemma Orderly.heard_proceed (h : s.Orderly) {listener : ℕ} (hmem : listener ∈ s.listeners) :
    heard listener s.proceed.2 ++ s.proceed.1.toHear listener = s.toHear listener := by
  unfold ListenedStream.proceed
  split
  · rfl
  next push pushes hpushes =>
  have hone := h.one
  rw [hpushes, List.length_cons] at hone
  have hnone : pushes = [] := List.length_eq_zero_iff.1 (by omega)
  subst hnone
  split
  · next called hcalled =>
    have htake : s.listeners.take (push.called + 1) = s.listeners.take push.called ++ [called] := by
      rw [List.take_add_one, hcalled, Option.toList_some]
    have hlt := (List.getElem?_eq_some_iff.1 hcalled)
    have hnot : called ∉ s.listeners.take push.called := by
      obtain ⟨hlt, rfl⟩ := hlt
      have hnodup := h.listeners.sublist (List.take_sublist (push.called + 1) s.listeners)
      rw [htake] at hnodup
      exact fun hbefore => (List.nodup_append.1 hnodup).2.2 _ hbefore _ List.mem_cons_self rfl
    by_cases hsame : called = listener
    · subst hsame
      simp [heard, toHear, hpushes, htake, hnot]
    · have hiff : listener ∈ s.listeners.take (push.called + 1) ↔
          listener ∈ s.listeners.take push.called := by
        rw [htake, List.mem_append, List.mem_singleton]
        exact or_iff_left (fun heq => hsame heq.symm)
      simp [heard, toHear, hpushes, hsame, hiff]
  · next hlast =>
    have htake : s.listeners.take push.called = s.listeners :=
      List.take_of_length_le (List.getElem?_eq_none_iff.1 hlast)
    rw [heard_readEffects]
    simp [toHear, hpushes, htake, hmem]

/-- One event: a listener that is there hears what is decoded, or is still to hear it. -/
lemma Orderly.heard_react (h : s.Orderly) {e : StreamEvent} (he : s.heeds e = true) {listener : ℕ}
    (hmem : listener ∈ s.listeners) :
    heard listener (s.react e).2 ++ (s.react e).1.toHear listener =
        s.toHear listener ++ s.decoded e ∧ listener ∈ (s.react e).1.listeners := by
  cases e with
  | ingest frame =>
    have hpushes : s.pushes = [] := List.isEmpty_iff.1 he
    have hnone : s.toHear listener = [] := by rw [toHear, hpushes, List.flatMap_nil]
    simp only [ListenedStream.react, ListenedStream.ingest, decoded, decodes]
    cases hingest : s.stream.ingest frame with
    | none => exact ⟨by simp [heard], hmem⟩
    | some r =>
      obtain ⟨stream, settled, event⟩ := r
      obtain ⟨snapshot, hframe⟩ := PtyEventStream.ingested_of_ingest hingest
      obtain ⟨-, -, hserved, hfailed, -⟩ := hframe.keeps
      have hdropped : ({ s with stream } : ListenedStream).Orderly :=
        ⟨h.one, by simp [hpushes], h.listeners, hserved h.served, h.quiet.ingest hingest,
          hfailed h.failed⟩
      dsimp only
      cases event with
      | none =>
        refine ⟨?_, hmem⟩
        rw [heard_readEffects, ite_self, Option.toList_none, List.append_nil]
        rfl
      | some event =>
        dsimp only
        split
        · refine ⟨?_, hmem⟩
          rw [heard_readEffects, Option.toList_none, List.append_nil]
          rfl
        · next hlive =>
          have hbegun := hdropped.begin hpushes (Bool.eq_false_iff.2 hlive) event
          refine ⟨?_, by rw [listeners_proceed]; exact hmem⟩
          rw [heard_append, heard_readEffects, List.nil_append, hbegun.heard_proceed hmem, hnone]
          simp [toHear, hpushes]
  | onEvent other =>
    simp only [ListenedStream.react, decoded, List.append_nil]
    split
    · exact ⟨rfl, hmem⟩
    · refine ⟨?_, List.mem_append_left _ hmem⟩
      rw [heard, List.filterMap_nil, List.nil_append, toHear, toHear]
      refine List.flatMap_congr fun push hpush => ?_
      rw [List.take_append_of_le_length (h.live push hpush).2]
  | next read =>
    simp only [ListenedStream.react, decoded, List.append_nil]
    rw [heard_readEffects]
    exact ⟨rfl, hmem⟩
  | finish =>
    simp only [ListenedStream.react, decoded, List.append_nil]
    rw [heard_readEffects]
    exact ⟨rfl, hmem⟩
  | returned =>
    simp only [ListenedStream.react, decoded, List.append_nil]
    exact ⟨h.heard_proceed hmem, by rw [listeners_proceed]; exact hmem⟩
  | threw => cases he

/-- The end of the session that was decoded is under way, or the stream is complete. -/
def Ends (s : ListenedStream) : Prop :=
  (∃ push ∈ s.pushes, push.event.isEnded = true) ∨ s.stream.ended = true ∧ s.stream.failed = false

lemma Orderly.ends_react (h : s.Orderly) {e : StreamEvent} (he : s.heeds e = true)
    (hends : s.Ends ∨ (s.decoded e).any PtyEvent.isEnded = true) : (s.react e).1.Ends := by
  cases e with
  | ingest frame =>
    have hpushes : s.pushes = [] := List.isEmpty_iff.1 he
    simp only [ListenedStream.react, ListenedStream.ingest]
    simp only [decoded, decodes] at hends
    cases hingest : s.stream.ingest frame with
    | none =>
      rw [hingest] at hends
      simpa using hends
    | some r =>
      obtain ⟨stream, settled, event⟩ := r
      obtain ⟨snapshot, hframe⟩ := PtyEventStream.ingested_of_ingest hingest
      obtain ⟨-, -, hserved, hfailed, hkept⟩ := hframe.keeps
      rw [hingest] at hends
      dsimp only at hserved hfailed hkept hends ⊢
      have hold : s.Ends → stream.ended = true ∧ stream.failed = false := by
        rintro (⟨push, hpush, -⟩ | ⟨hended, hs⟩)
        · rw [hpushes] at hpush
          cases hpush
        · exact ⟨(hkept hended).1, (hkept hended).2.trans hs⟩
      cases event with
      | none =>
        rcases hends with hends | hends
        · exact .inr (hold hends)
        · simp at hends
      | some event =>
        dsimp only
        split
        · next hended =>
          rcases hends with hends | hends
          · exact .inr (hold hends)
          · rw [if_pos hended] at hends
            cases hends
        · next hlive =>
          rcases hends with hends | hends
          · exact absurd (hold hends).1 hlive
          · rw [if_neg hlive, Option.toList_some, List.any_cons, List.any_nil, Bool.or_false] at hends
            have hdropped : ({ s with stream } : ListenedStream).Orderly :=
              ⟨h.one, by simp [hpushes], h.listeners, hserved h.served, h.quiet.ingest hingest,
                hfailed h.failed⟩
            exact (hdropped.begin hpushes (Bool.eq_false_iff.2 hlive) event).proceed_ends
              ⟨_, List.mem_cons_self, hends⟩
  | onEvent listener =>
    rcases hends with hends | hends
    · simp only [ListenedStream.react]
      split <;> exact hends
    · cases hends
  | next read =>
    obtain ⟨hended, hfailed⟩ := s.stream.next_ended read
    rcases hends with (hpush | hs) | hends
    · exact .inl hpush
    · exact .inr ⟨hended.trans hs.1, hfailed.trans hs.2⟩
    · cases hends
  | finish =>
    rcases hends with (hpush | hs) | hends
    · exact .inl hpush
    · exact .inr ⟨PtyEventStream.finish_ended.1, PtyEventStream.finish_ended.2.trans hs.2⟩
    · cases hends
  | returned =>
    rcases hends with (hpush | hs) | hends
    · exact h.proceed_ends hpush
    · -- no push is under way on a stream that has ended
      have hnone : s.pushes = [] := by
        refine List.eq_nil_iff_forall_not_mem.2 fun push hpush => ?_
        rw [(h.live push hpush).1] at hs
        exact absurd hs.1 Bool.false_ne_true
      refine .inr ?_
      rw [ListenedStream.react, ListenedStream.proceed, hnone]
      exact hs
    · cases hends
  | threw => cases he

end ListenedStream

/-! ## Runs -/

open ListenedStream

variable {es : List StreamEvent}

lemma orderly_run (h : listenedMachine.Meets (fun s e => s.heeds e = true) es) :
    (listenedMachine.run es).Orderly :=
  listenedMachine.invariant_of_meets orderly_new (fun _ _ he hs => (hs.react he).1) h

lemma taken_run (h : listenedMachine.Meets (fun s e => s.heeds e = true) es) :
    taken (streamEffects es) ++ (listenedMachine.run es).stream.queue
      ++ (listenedMachine.run es).inHand = decodedEvents es := by
  induction es using List.reverseRecOn with
  | nil => rfl
  | append_singleton es e ih =>
    obtain ⟨hpre, he⟩ := listenedMachine.meets_snoc.1 h
    have hstep := ((orderly_run hpre).react he).2
    have hrun : listenedMachine.run (es ++ [e]) = ((listenedMachine.run es).react e).1 :=
      listenedMachine.run_snoc es e
    rw [streamEffects, decodedEvents, Machine.outputs_snoc, Machine.outputs_snoc, hrun, taken_append,
      ← streamEffects, ← decodedEvents, ← ih hpre]
    simp only [List.append_assoc] at hstep ⊢
    rw [hstep]

lemma ends_run (h : listenedMachine.Meets (fun s e => s.heeds e = true) es)
    (hended : (decodedEvents es).any PtyEvent.isEnded = true) : (listenedMachine.run es).Ends := by
  induction es using List.reverseRecOn with
  | nil => cases hended
  | append_singleton es e ih =>
    obtain ⟨hpre, he⟩ := listenedMachine.meets_snoc.1 h
    rw [decodedEvents, Machine.outputs_snoc, List.any_append, Bool.or_eq_true] at hended
    rw [Machine.run_snoc]
    exact (orderly_run hpre).ends_react he (hended.imp (ih hpre) id)

lemma heard_unregistered {listener : ℕ} (hnot : listener ∉ (listenedMachine.run es).listeners) :
    heard listener (streamEffects es) = [] := by
  induction es using List.reverseRecOn with
  | nil => rfl
  | append_singleton es e ih =>
    rw [Machine.run_snoc] at hnot
    have hbefore : listener ∉ (listenedMachine.run es).listeners :=
      fun hmem => hnot (mem_listeners_react e hmem)
    rw [streamEffects, Machine.outputs_snoc, heard_append, ← streamEffects, ih hbefore, List.nil_append]
    exact heard_react_unregistered e hbefore

lemma heard_run {pre post : List StreamEvent} {listener : ℕ}
    (h : listenedMachine.Meets (fun s e => s.heeds e = true) (pre ++ [.onEvent listener] ++ post))
    (hnew : listener ∉ (listenedMachine.run pre).listeners) :
    heard listener (streamEffects (pre ++ [.onEvent listener] ++ post)) ++
        (listenedMachine.run (pre ++ [.onEvent listener] ++ post)).toHear listener =
      (listenedMachine.run pre).inHand ++
        listenedMachine.outputsFrom decoded (listenedMachine.run (pre ++ [.onEvent listener])) post ∧
    listener ∈ (listenedMachine.run (pre ++ [.onEvent listener] ++ post)).listeners := by
  induction post using List.reverseRecOn with
  | nil =>
    rw [List.append_nil] at h ⊢
    have horderly := orderly_run h.prefix
    have hstep : listenedMachine.run (pre ++ [.onEvent listener]) =
        ({ listenedMachine.run pre with
          listeners := (listenedMachine.run pre).listeners ++ [listener] } : ListenedStream) := by
      rw [Machine.run_snoc]
      exact if_neg hnew
    rw [hstep, streamEffects, Machine.outputs_snoc, heard_append, ← streamEffects,
      heard_unregistered hnew, Machine.outputsFrom, List.append_nil]
    refine ⟨?_, by simp⟩
    rw [List.nil_append, inHand, toHear, List.map_eq_flatMap]
    refine List.flatMap_congr fun push hpush => if_neg fun hmem => hnew ?_
    rw [List.take_append_of_le_length (horderly.live push hpush).2] at hmem
    exact List.mem_of_mem_take hmem
  | append_singleton post e ih =>
    rw [← List.append_assoc] at h ⊢
    obtain ⟨hpre, he⟩ := listenedMachine.meets_snoc.1 h
    obtain ⟨hheard, hmem⟩ := ih hpre
    obtain ⟨hstep, hstays⟩ := (orderly_run hpre).heard_react he hmem
    have hrun : listenedMachine.run (pre ++ [.onEvent listener] ++ post ++ [e]) =
        ((listenedMachine.run (pre ++ [.onEvent listener] ++ post)).react e).1 :=
      listenedMachine.run_snoc _ e
    refine ⟨?_, by rw [hrun]; exact hstays⟩
    have hfrom : listenedMachine.runFrom (listenedMachine.run (pre ++ [.onEvent listener])) post =
        listenedMachine.run (pre ++ [.onEvent listener] ++ post) := (listenedMachine.run_append _ post).symm
    rw [hrun, streamEffects, Machine.outputs_snoc, heard_append, ← streamEffects,
      Machine.outputsFrom_append, List.append_assoc, hstep, ← List.append_assoc, hheard, hfrom,
      Machine.outputsFrom, Machine.outputsFrom, List.append_nil, List.append_assoc]

/-- **Listeners and the iterator agree**, over every run in which no listener throws, and none brings the
stream a frame or ends it before it returns. -/
theorem delivered_of_heeds (h : listenedMachine.Meets (fun s e => s.heeds e = true) es) : Delivered es where
  iterator := taken_run h
  listener pre listener post hes hnew := by
    have hsplit : es = pre ++ [.onEvent listener] ++ post := by rw [hes]; simp
    rw [hsplit] at h
    have hheard := (heard_run h hnew).1
    rw [hsplit, hheard]
    simp [Machine.outputsFrom, decoded]
  served := (orderly_run h).served
  completes hended hidle := by
    have horderly := orderly_run h
    rcases ends_run h hended with ⟨push, hpush, -⟩ | ⟨hends, hfailed⟩
    · rw [hidle] at hpush
      cases hpush
    · refine ⟨hends, horderly.quiet hends, fun hqueue read => ?_⟩
      rw [PtyEventStream.next, hqueue]
      simp [hfailed, hends]

/-- The end of a session whose process was killed. -/
def endedFrame : PtyFrame := ⟨PtyOpcode.ended, 1, 1, []⟩

/-- A listener and a read wait for the end of a session. -/
theorem delivered_ended : Delivered [.onEvent 0, .next 0, .ingest endedFrame, .returned] :=
  delivered_of_heeds (listenedMachine.meets_of_checks (by decide))

/-- A listener throws on the end of a session, and the read waits for ever. -/
theorem not_delivered_threw : ¬ Delivered [.onEvent 0, .next 0, .ingest endedFrame, .threw] := by
  intro h
  have hended := (h.completes (by decide) (by decide)).ended
  revert hended
  decide

end Pherry.Sdk
