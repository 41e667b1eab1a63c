import Pherry.Sdk.StreamSteps

/-!
# Controller streams route to their latest subscriber and end

What a caller of a controller may keep in a ledger: the live subscription of each session, and the
streams it is done with. The maps of the controller follow the ledger, so a frame reaches the live
subscription of its session and no other; and a stream the caller is done with has ended, where a
subscription is acknowledged only once the one before it has ended and none was given up meanwhile.
-/

namespace Pherry.Sdk

open Lib Protocol

namespace Controller

/-! ## The ledger -/

variable (o : ControllerOptions)

/-- The subscription that a response to a request acknowledges. -/
def subscribed : Purpose → Response → Option (SessionRef × TrackedSub)
  | .subscribe ref stream, .success _ result _ =>
    (o.parseResult .subscribe result).map fun result => (ref, ⟨o.mirrorAck result, stream⟩)
  | .subscribe _ _, .failure _ _ => none
  | .unsubscribe _ _, _ => none
  | .request _, _ => none

/-- The subscription a control frame acknowledges. -/
def acknowledges (s : Controller) (payload : Bytes) : Option (SessionRef × TrackedSub) :=
  if s.sessionId.isNone ∨ s.awaitingHelloAck = true then none
  else do
    let response ← o.parseResponse payload
    let r ← s.pending.get response.id
    let request ← s.requests[r]?
    subscribed o request.purpose response

/-- Whether an event closes the controller. -/
def closes (s : Controller) : ControllerEvent → Bool
  | .close => !s.closed
  | .timer => s.timer && s.calls.isEmpty && !s.closed
  | _ => false

/-- The streams of the subscriptions that were asked for on a session. -/
def askedFor (s : Controller) (ref : SessionRef) : List ℕ :=
  s.views.filterMap fun view => match view with
    | .subscribe asked stream _ => if asked = ref then some stream else none
    | .unsubscribe _ _ _ => none
    | .request => none

end Controller

/-- What a caller keeps: the live subscription of each session, and the streams that were superseded,
unsubscribed (asked for before an `unsubscribe` of their session) or closed. -/
structure Ledger where
  live : SessionRef → Option TrackedSub
  finished : List ℕ

namespace Ledger

/-- The ledger before anything happens. -/
def init : Ledger := ⟨fun _ => none, []⟩

variable (o : ControllerOptions)

/-- A subscription of this session is live, and the one before it is over. -/
def take (l : Ledger) (ref : SessionRef) (sub : TrackedSub) : Ledger :=
  { live := fun other => if other = ref then some sub else l.live other
    finished := l.finished ++ ((l.live ref).map TrackedSub.stream).toList }

/-- No subscription of this session is live, and these are over. -/
def release (l : Ledger) (ref : SessionRef) (streams : List ℕ) : Ledger :=
  { live := fun other => if other = ref then none else l.live other
    finished := l.finished ++ streams }

/-- What a caller notes of an event. -/
def note (l : Ledger) (s : Controller) (e : ControllerEvent) : Ledger :=
  if s.closes e then ⟨fun _ => none, List.range s.streams.length⟩
  else
    match e with
    | .control payload =>
      match s.acknowledges o payload with
      | none => l
      | some (ref, sub) => l.take ref sub
    | .unsubscribe ref => l.release ref (s.askedFor ref)
    | _ => l

lemma take_live {l : Ledger} {ref other : SessionRef} {sub sub' : TrackedSub} :
    (l.take ref sub).live other = some sub' ↔
      (other = ref ∧ sub' = sub) ∨ (other ≠ ref ∧ l.live other = some sub') := by
  unfold take
  dsimp only
  split
  · next heq =>
    rw [Option.some.injEq]
    exact ⟨fun h => Or.inl ⟨heq, h.symm⟩, fun h => (h.resolve_right fun h => h.1 heq).2.symm⟩
  · next hne =>
    exact ⟨fun h => Or.inr ⟨hne, h⟩, fun h => (h.resolve_left fun h => hne h.1).2⟩

lemma release_live {l : Ledger} {ref other : SessionRef} {streams : List ℕ} {sub : TrackedSub} :
    (l.release ref streams).live other = some sub ↔ other ≠ ref ∧ l.live other = some sub := by
  unfold release
  dsimp only
  split
  · next heq => exact ⟨nofun, fun h => absurd heq h.1⟩
  · next hne => exact ⟨fun h => ⟨hne, h⟩, fun h => h.2⟩

end Ledger

/-- A controller and the ledger of its caller. -/
def watchedMachine (o : ControllerOptions) : Machine (Controller × Ledger) ControllerEvent :=
  ⟨(.init, .init), fun s e => ((s.1.react o e).1, s.2.note o s.1 e)⟩

lemma watched_fst (o : ControllerOptions) (es : List ControllerEvent) :
    ((watchedMachine o).run es).1 = (controllerMachine o).run es := by
  induction es using List.reverseRecOn with
  | nil => rfl
  | append_singleton es e ih =>
    rw [Machine.run_snoc, Machine.run_snoc, ← ih]
    rfl

namespace Controller

/-! ## The invariant -/

/-- The maps of a controller follow the ledger of its caller. -/
structure Consistent (s : Controller) (l : Ledger) : Prop where
  live : ∀ ref, l.live ref = s.subsByRef.get ref
  byId : ∀ id k, s.streamsById.get id = some k ↔ ∃ ref, l.live ref = some ⟨id, k⟩
  distinct : ∀ ref ref' sub sub', l.live ref = some sub → l.live ref' = some sub' →
    sub.streamId = sub'.streamId → ref = ref'
  tracked : ∀ ref sub, l.live ref = some sub →
    sub.stream ∉ l.finished ∧ RequestView.subscribe ref sub.stream true ∈ s.views
  asked : ∀ ref k b, RequestView.subscribe ref k b ∈ s.views → k < s.streams.length
  once : ∀ (r r' : ℕ) ref ref' k b b', s.views[r]? = some (RequestView.subscribe ref k b) →
    s.views[r']? = some (RequestView.subscribe ref' k b') → r = r'
  returned : ∀ ref k, RequestView.subscribe ref k true ∈ s.views →
    (∃ id, l.live ref = some ⟨id, k⟩) ∨ s.hasEnded k = true ∨ RequestView.unsubscribe ref k true ∈ s.views
  closed : s.closed = true → ∀ ref, l.live ref = none
  quiet : ∀ stream ∈ s.streams, PtyEventStream.Quiet stream

lemma consistent_init : Consistent .init .init where
  live _ := rfl
  byId id k := by
    constructor
    · intro h
      cases h
    · rintro ⟨ref, h⟩
      cases h
  distinct ref ref' sub sub' h := by cases h
  tracked ref sub h := by cases h
  asked ref k b h := by cases h
  once r r' ref ref' k b b' h := by cases h
  returned ref k h := by cases h
  closed _ _ := rfl
  quiet stream h := by cases h

variable {o : ControllerOptions}

lemma Consistent.keep {s t : Controller} {l : Ledger} (h : Consistent s l)
    (hsubs : t.subsByRef = s.subsByRef) (hids : t.streamsById = s.streamsById)
    (hviews : t.views = s.views) (hclosed : t.closed = s.closed)
    (hstreams : KeepsStreams s.streams t.streams) : Consistent t l where
  live := by
    rw [hsubs]
    exact h.live
  byId := by
    rw [hids]
    exact h.byId
  distinct := h.distinct
  tracked := by
    rw [hviews]
    exact h.tracked
  asked := by
    rw [hviews]
    exact fun ref k b hk => lt_of_lt_of_le (h.asked ref k b hk) hstreams.length
  once := by
    rw [hviews]
    exact h.once
  returned := by
    rw [hviews]
    exact fun ref k hk => (h.returned ref k hk).imp id (Or.imp hstreams.hasEnded id)
  closed := by
    rw [hclosed]
    exact h.closed
  quiet := hstreams.quiet h.quiet

lemma Consistent.sameSession {s : Controller} {l : Ledger} (h : Consistent s l)
    {ref ref' : SessionRef} {k : ℕ} {b b' : Bool} (hk : RequestView.subscribe ref k b ∈ s.views)
    (hk' : RequestView.subscribe ref' k b' ∈ s.views) : ref = ref' ∧ b = b' := by
  obtain ⟨r, hr⟩ := List.mem_iff_getElem?.1 hk
  obtain ⟨r', hr'⟩ := List.mem_iff_getElem?.1 hk'
  have heq := h.once r r' ref ref' k b b' hr hr'
  rw [heq, hr'] at hr
  simp only [Option.some.injEq, RequestView.subscribe.injEq] at hr
  exact ⟨hr.1.symm, hr.2.2.symm⟩

lemma mem_askedFor {s : Controller} {ref : SessionRef} {k : ℕ} (h : k ∈ s.askedFor ref) :
    ∃ b, RequestView.subscribe ref k b ∈ s.views := by
  obtain ⟨view, hview, hk⟩ := List.mem_filterMap.1 h
  cases view with
  | request => cases hk
  | subscribe asked stream b =>
    dsimp only at hk
    split at hk
    · next heq =>
      cases hk
      exact ⟨b, heq ▸ hview⟩
    · cases hk
  | unsubscribe asked stream b => cases hk

lemma Consistent.append {s t : Controller} {l : Ledger} (h : Consistent s l) {view : RequestView}
    (hview : ∀ ref k b, view ≠ .subscribe ref k b)
    (hsubs : t.subsByRef = s.subsByRef) (hids : t.streamsById = s.streamsById)
    (hviews : t.views = s.views ++ [view]) (hclosed : t.closed = s.closed)
    (hstreams : t.streams = s.streams) : Consistent t l := by
  have hmem : ∀ ref k b, RequestView.subscribe ref k b ∈ t.views ↔ RequestView.subscribe ref k b ∈ s.views := by
    intro ref k b
    rw [hviews, List.mem_append, List.mem_singleton]
    exact or_iff_left fun heq => hview ref k b heq.symm
  have hget : ∀ (r : ℕ) ref k b, t.views[r]? = some (RequestView.subscribe ref k b) →
      s.views[r]? = some (RequestView.subscribe ref k b) := by
    intro r ref k b hr
    rw [hviews, List.getElem?_append] at hr
    split at hr
    · exact hr
    · have hlast := List.mem_of_getElem? hr
      rw [List.mem_singleton] at hlast
      exact absurd hlast.symm (hview ref k b)
  refine ⟨by rw [hsubs]; exact h.live, by rw [hids]; exact h.byId, h.distinct,
    fun ref sub hsub => ?_, fun ref k b hk => ?_, fun r r' ref ref' k b b' hr hr' => ?_,
    fun ref k hk => ?_, by rw [hclosed]; exact h.closed, by rw [hstreams]; exact h.quiet⟩
  · rw [hmem]
    exact h.tracked ref sub hsub
  · rw [hstreams]
    exact h.asked ref k b ((hmem ref k b).1 hk)
  · exact h.once r r' ref ref' k b b' (hget r ref k b hr) (hget r' ref' k b' hr')
  · have hended : t.hasEnded k = s.hasEnded k := by rw [hasEnded, hasEnded, hstreams]
    rw [hended]
    refine (h.returned ref k ((hmem ref k true).1 hk)).imp id (Or.imp id fun hunsub => ?_)
    rw [hviews]
    exact List.mem_append_left _ hunsub

lemma Consistent.subscribe {s : Controller} {l : Ledger} (h : Consistent s l) (ref : SessionRef)
    (viewport : Option Json) : Consistent (s.subscribe ref viewport) l := by
  have hviews : (s.subscribe ref viewport).views =
      s.views ++ [.subscribe ref s.streams.length false] :=
    views_issue { s with streams := s.streams ++ [PtyEventStream.new] } _ _ _
  have hstreams : KeepsStreams s.streams (s.subscribe ref viewport).streams :=
    keepsStreams_new s.streams
  have hlength : (s.subscribe ref viewport).streams.length = s.streams.length + 1 := by
    simp [Controller.subscribe, issue]
  have hsplit : ∀ (r : ℕ) other k b, (s.subscribe ref viewport).views[r]? = some (RequestView.subscribe other k b) →
      s.views[r]? = some (RequestView.subscribe other k b) ∨ (r = s.views.length ∧ k = s.streams.length) := by
    intro r other k b hr
    rw [hviews, List.getElem?_append] at hr
    split at hr
    · exact Or.inl hr
    · next hle =>
      obtain ⟨hlt, hlast⟩ := List.getElem?_eq_some_iff.1 hr
      rw [List.length_singleton] at hlt
      simp only [List.getElem_singleton, RequestView.subscribe.injEq] at hlast
      exact Or.inr ⟨by omega, hlast.2.1.symm⟩
  have hfresh : ∀ (r : ℕ) other b, s.views[r]? ≠ some (RequestView.subscribe other s.streams.length b) := by
    intro r other b hr
    exact lt_irrefl _ (h.asked other _ b (List.mem_of_getElem? hr))
  refine ⟨h.live, h.byId, h.distinct, fun other sub hsub => ?_, fun other k b hk => ?_,
    fun r r' other other' k b b' hr hr' => ?_, fun other k hk => ?_, h.closed,
    hstreams.quiet h.quiet⟩
  · obtain ⟨hnot, hmem⟩ := h.tracked other sub hsub
    rw [hviews]
    exact ⟨hnot, List.mem_append_left _ hmem⟩
  · rw [hlength]
    obtain ⟨r, hr⟩ := List.mem_iff_getElem?.1 hk
    rcases hsplit r other k b hr with hold | ⟨-, rfl⟩
    · exact Nat.lt_succ_of_lt (h.asked other k b (List.mem_of_getElem? hold))
    · exact Nat.lt_succ_self _
  · rcases hsplit r other k b hr with hold | ⟨hlast, rfl⟩
    · rcases hsplit r' other' k b' hr' with hold' | ⟨-, rfl⟩
      · exact h.once r r' other other' k b b' hold hold'
      · exact absurd hold (hfresh r other b)
    · rcases hsplit r' other' _ b' hr' with hold' | ⟨hlast', -⟩
      · exact absurd hold' (hfresh r' other' b')
      · rw [hlast, hlast']
  · have hmem : RequestView.subscribe other k true ∈ s.views := by
      rw [hviews, List.mem_append, List.mem_singleton] at hk
      rcases hk with hold | hnew
      · exact hold
      · cases hnew
    rw [hviews]
    exact (h.returned other k hmem).imp id
      (Or.imp hstreams.hasEnded fun hunsub => List.mem_append_left _ hunsub)

lemma Consistent.release {s t : Controller} {l : Ledger} {ref : SessionRef} (h : Consistent s l)
    (hsubs : ∀ other, t.subsByRef.get other = if other = ref then none else s.subsByRef.get other)
    (hids : ∀ id k, t.streamsById.get id = some k ↔ ∃ other ≠ ref, l.live other = some ⟨id, k⟩)
    (hasked : ∀ (r : ℕ) other k b, t.views[r]? = some (RequestView.subscribe other k b) →
      s.views[r]? = some (RequestView.subscribe other k b))
    (hviews : ∀ view ∈ s.views, view ∈ t.views)
    (hgone : ∀ sub, l.live ref = some sub → RequestView.unsubscribe ref sub.stream true ∈ t.views)
    (hclosed : t.closed = s.closed) (hstreams : t.streams = s.streams) :
    Consistent t (l.release ref (s.askedFor ref)) := by
  have hmem : ∀ other k b, RequestView.subscribe other k b ∈ t.views →
      RequestView.subscribe other k b ∈ s.views := by
    intro other k b hk
    obtain ⟨r, hr⟩ := List.mem_iff_getElem?.1 hk
    exact List.mem_of_getElem? (hasked r other k b hr)
  refine ⟨fun other => ?_, fun id k => ?_, fun other other' sub sub' hsub hsub' => ?_,
    fun other sub hsub => ?_, fun other k b hk => ?_, fun r r' other other' k b b' hr hr' => ?_,
    fun other k hk => ?_, fun hc other => ?_, by rw [hstreams]; exact h.quiet⟩
  · rw [hsubs, ← h.live]
    rfl
  · simp only [hids, Ledger.release_live]
  · exact h.distinct other other' sub sub' (Ledger.release_live.1 hsub).2
      (Ledger.release_live.1 hsub').2
  · obtain ⟨hne, hold⟩ := Ledger.release_live.1 hsub
    obtain ⟨hnot, hview⟩ := h.tracked other sub hold
    refine ⟨fun hover => ?_, hviews _ hview⟩
    rcases List.mem_append.1 hover with hover | hover
    · exact hnot hover
    · -- what was asked for on this session is no stream of another
      obtain ⟨b, hb⟩ := mem_askedFor hover
      exact hne (h.sameSession hview hb).1
  · rw [hstreams]
    exact h.asked other k b (hmem other k b hk)
  · exact h.once r r' other other' k b b' (hasked r other k b hr) (hasked r' other' k b' hr')
  · have hended : t.hasEnded k = s.hasEnded k := by rw [hasEnded, hasEnded, hstreams]
    rw [hended]
    rcases h.returned other k (hmem other k true hk) with ⟨id, hlive⟩ | hends | hunsub
    · by_cases hne : other = ref
      · subst hne
        exact Or.inr (Or.inr (hgone _ hlive))
      · exact Or.inl ⟨id, Ledger.release_live.2 ⟨hne, hlive⟩⟩
    · exact Or.inr (Or.inl hends)
    · exact Or.inr (Or.inr (hviews _ hunsub))
  · rw [hclosed] at hc
    have hnone := h.closed hc other
    unfold Ledger.release
    dsimp only
    rw [hnone]
    split <;> rfl

lemma Consistent.unsubscribe {s : Controller} {l : Ledger} (h : Consistent s l)
    (ref : SessionRef) :
    Consistent (s.unsubscribe ref) (l.release ref (s.askedFor ref)) := by
  unfold Controller.unsubscribe
  split
  · next hnone =>
    refine h.release (fun other => ?_) (fun id k => ?_) (fun r other k b hr => hr)
      (fun view hview => hview) (fun sub hsub => ?_) rfl rfl
    · split
      · next heq => rw [heq, hnone]
      · rfl
    · rw [h.byId]
      constructor
      · rintro ⟨other, hlive⟩
        refine ⟨other, fun heq => ?_, hlive⟩
        rw [heq, h.live, hnone] at hlive
        cases hlive
      · rintro ⟨other, -, hlive⟩
        exact ⟨other, hlive⟩
    · rw [h.live, hnone] at hsub
      cases hsub
  next sub hsub =>
  rw [← h.live] at hsub
  have hviews : ({ s with
      subsByRef := s.subsByRef.erase ref
      streamsById := s.streamsById.erase sub.streamId }.issue (.unsubscribe ref sub.stream)
        (.obj [(js "sessionRef", .str ref.1), (js "streamId", .int sub.streamId)]) true).views =
      s.views ++ [.unsubscribe ref sub.stream true] :=
    views_issue { s with
      subsByRef := s.subsByRef.erase ref
      streamsById := s.streamsById.erase sub.streamId } _ _ _
  refine h.release (fun other => ?_) (fun id k => ?_) (fun r other k b hr => ?_)
    (fun view hview => ?_) (fun sub' hsub' => ?_) rfl rfl
  · exact InsertionMap.get_erase _ _ _
  · have herase : ((s.streamsById.erase sub.streamId).get id = some k ↔
        ∃ other ≠ ref, l.live other = some ⟨id, k⟩) := by
      rw [InsertionMap.get_erase_eq_some, h.byId]
      constructor
      · rintro ⟨hne, other, hlive⟩
        refine ⟨other, fun heq => ?_, hlive⟩
        rw [heq, hsub] at hlive
        cases hlive
        exact hne rfl
      · rintro ⟨other, hother, hlive⟩
        refine ⟨fun heq => ?_, other, hlive⟩
        exact hother (h.distinct other ref _ sub hlive hsub heq)
    exact herase
  · rw [hviews, List.getElem?_append] at hr
    split at hr
    · exact hr
    · have hlast := List.mem_of_getElem? hr
      rw [List.mem_singleton] at hlast
      cases hlast
  · rw [hviews]
    exact List.mem_append_left _ hview
  · rw [hsub] at hsub'
    cases hsub'
    rw [hviews]
    exact List.mem_append_right _ List.mem_cons_self

/-- What the condition asks of an acknowledged subscription: the host gives every session a stream id
of its own, the subscription was not given up meanwhile, and the one before it has ended. -/
structure Orderly (s : Controller) (l : Ledger) (ref : SessionRef) (sub : TrackedSub) : Prop where
  ids : ∀ other old, l.live other = some old → (other = ref ↔ old.streamId = sub.streamId)
  wanted : sub.stream ∉ l.finished
  ended : ∀ old, l.live ref = some old → s.hasEnded old.stream = true

lemma Consistent.take {s t : Controller} {l : Ledger} {ref : SessionRef} {sub : TrackedSub}
    {r : ℕ} (h : Consistent s l) (horderly : Orderly s l ref sub)
    (hr : s.views[r]? = some (.subscribe ref sub.stream false))
    (hsubs : t.subsByRef = s.subsByRef.set ref sub)
    (hids : t.streamsById = s.streamsById.set sub.streamId sub.stream)
    (hviews : t.views = s.views.set r (.subscribe ref sub.stream true))
    (hopen : t.closed = false) (hstreams : t.streams = s.streams) :
    Consistent t (l.take ref sub) := by
  have hlt := (List.getElem?_eq_some_iff.1 hr).1
  have hback : ∀ (j : ℕ) other k b, t.views[j]? = some (RequestView.subscribe other k b) →
      ∃ b', s.views[j]? = some (RequestView.subscribe other k b') ∧ (j ≠ r → b' = b) := by
    intro j other k b hj
    rw [hviews, List.getElem?_set] at hj
    split at hj
    · next heq =>
      subst heq
      cases hj
      exact ⟨false, hr, fun hne => absurd rfl hne⟩
    · exact ⟨b, hj, fun _ => rfl⟩
  have hkept : ∀ view ∈ s.views, view ≠ .subscribe ref sub.stream false → view ∈ t.views := by
    intro view hview hne
    obtain ⟨j, hj⟩ := List.mem_iff_getElem?.1 hview
    have hjr : r ≠ j := by
      rintro rfl
      rw [hr] at hj
      exact hne (Option.some.inj hj).symm
    rw [hviews]
    exact List.mem_of_getElem? ((List.getElem?_set_ne hjr).trans hj)
  have hold : ∀ other k, RequestView.subscribe other k true ∈ t.views →
      (other = ref ∧ k = sub.stream) ∨ RequestView.subscribe other k true ∈ s.views := by
    intro other k hk
    rw [hviews] at hk
    rcases List.mem_or_eq_of_mem_set hk with hk | heq
    · exact Or.inr hk
    · cases heq
      exact Or.inl ⟨rfl, rfl⟩
  have hpending : RequestView.subscribe ref sub.stream false ∈ s.views := List.mem_of_getElem? hr
  have hended : ∀ k, t.hasEnded k = s.hasEnded k := by
    intro k
    rw [hasEnded, hasEnded, hstreams]
  refine ⟨fun other => ?_, fun id k => ?_, fun other other' old old' hlive hlive' heq => ?_,
    fun other old hlive => ?_, fun other k b hk => ?_, fun j j' other other' k b b' hj hj' => ?_,
    fun other k hk => ?_, fun hc => ?_, by rw [hstreams]; exact h.quiet⟩
  · rw [hsubs, InsertionMap.get_set, ← h.live]
    rfl
  · rw [hids, InsertionMap.get_set]
    constructor
    · intro hget
      split at hget
      · next heq =>
        cases hget
        exact ⟨ref, Ledger.take_live.2 (Or.inl ⟨rfl, by rw [heq]⟩)⟩
      · next hne =>
        obtain ⟨other, hlive⟩ := (h.byId id k).1 hget
        refine ⟨other, Ledger.take_live.2 (Or.inr ⟨fun heq => ?_, hlive⟩)⟩
        exact hne ((horderly.ids other _ hlive).1 heq)
    · rintro ⟨other, hlive⟩
      rcases Ledger.take_live.1 hlive with ⟨-, hsub⟩ | ⟨hne, hlive⟩
      · rw [← hsub, if_pos rfl]
      · rw [if_neg fun heq => hne ((horderly.ids other _ hlive).2 heq)]
        exact (h.byId id k).2 ⟨other, hlive⟩
  · rcases Ledger.take_live.1 hlive with ⟨hother, hsub⟩ | ⟨-, hkeep⟩
    · rcases Ledger.take_live.1 hlive' with ⟨hother', -⟩ | ⟨-, hkeep'⟩
      · rw [hother, hother']
      · rw [hother]
        exact ((horderly.ids other' old' hkeep').2 (by rw [← heq, hsub])).symm
    · rcases Ledger.take_live.1 hlive' with ⟨hother', hsub'⟩ | ⟨-, hkeep'⟩
      · rw [hother']
        exact (horderly.ids other old hkeep).2 (by rw [heq, hsub'])
      · exact h.distinct other other' old old' hkeep hkeep' heq
  · have hover : ∀ k, k ∈ (l.take ref sub).finished →
        k ∈ l.finished ∨ ∃ old, l.live ref = some old ∧ old.stream = k := by
      intro k hk
      rcases List.mem_append.1 hk with hk | hk
      · exact Or.inl hk
      · rw [Option.mem_toList] at hk
        exact Or.inr (Option.map_eq_some_iff.1 hk)
    rcases Ledger.take_live.1 hlive with ⟨rfl, rfl⟩ | ⟨hne, hlive⟩
    · refine ⟨fun hmem => ?_, ?_⟩
      · rcases hover _ hmem with hmem | ⟨superseded, hlive, heq⟩
        · exact horderly.wanted hmem
        · have hview := (h.tracked other superseded hlive).2
          rw [heq] at hview
          exact Bool.noConfusion (h.sameSession hview hpending).2
      · rw [hviews]
        exact List.mem_of_getElem? (List.getElem?_set_self hlt)
    · obtain ⟨hnot, hview⟩ := h.tracked other old hlive
      refine ⟨fun hmem => ?_, hkept _ hview fun heq => ?_⟩
      rotate_left
      · simp at heq
      rcases hover _ hmem with hmem | ⟨superseded, hlive', heq⟩
      · exact hnot hmem
      · have hview' := (h.tracked ref superseded hlive').2
        rw [heq] at hview'
        exact hne (h.sameSession hview hview').1
  · obtain ⟨j, hj⟩ := List.mem_iff_getElem?.1 hk
    obtain ⟨b', hb', -⟩ := hback j other k b hj
    rw [hstreams]
    exact h.asked other k b' (List.mem_of_getElem? hb')
  · obtain ⟨c, hc, -⟩ := hback j other k b hj
    obtain ⟨c', hc', -⟩ := hback j' other' k b' hj'
    exact h.once j j' other other' k c c' hc hc'
  · rw [hended]
    rcases hold other k hk with ⟨rfl, rfl⟩ | hk
    · exact Or.inl ⟨sub.streamId, Ledger.take_live.2 (Or.inl ⟨rfl, rfl⟩)⟩
    rcases h.returned other k hk with ⟨id, hlive⟩ | hends | hunsub
    · by_cases hne : other = ref
      · subst hne
        exact Or.inr (Or.inl (horderly.ended _ hlive))
      · exact Or.inl ⟨id, Ledger.take_live.2 (Or.inr ⟨hne, hlive⟩)⟩
    · exact Or.inr (Or.inl hends)
    · exact Or.inr (Or.inr (hkept _ hunsub fun heq => by cases heq))
  · rw [hopen] at hc
    cases hc

lemma Consistent.runCleanup {s : Controller} {l : Ledger} (h : Consistent s l) {r : ℕ}
    {q : Request} (hq : s.requests[r]? = some q) :
    Consistent (s.runCleanup r q.purpose).1 l := by
  unfold Controller.runCleanup
  cases hp : q.purpose with
  | request method =>
    refine h.keep rfl rfl (views_modify fun q' hq' => ?_) rfl (.refl _)
    rw [hq] at hq'
    cases hq'
    simp [Request.view, hp]
  | subscribe ref stream =>
    refine h.keep rfl rfl (views_modify fun q' hq' => ?_) rfl (.refl _)
    rw [hq] at hq'
    cases hq'
    simp [Request.view, hp]
  | unsubscribe ref stream =>
    have hlt := (List.getElem?_eq_some_iff.1 hq).1
    have hr : s.views[r]? = some (.unsubscribe ref stream q.cleanup) := by
      rw [views, List.getElem?_map, hq]
      simp [Request.view, hp]
    have hviews : (s.requests.modify r fun request => { request with cleanup := false }).map
        Request.view = s.views.set r (.unsubscribe ref stream false) := by
      rw [views_modify_set hq]
      simp [Request.view, hp, views]
    have hstreams := keepsStreams_finish { s with
      requests := s.requests.modify r fun request => { request with cleanup := false } } stream
    have hends := hasEnded_onStream (s := { s with
      requests := s.requests.modify r fun request => { request with cleanup := false } }) (k := stream)
    obtain ⟨streams, hframe⟩ := onStream_frame { s with
      requests := s.requests.modify r fun request => { request with cleanup := false } } stream
        PtyEventStream.finish
    dsimp only
    rw [hframe] at hstreams hends ⊢
    have hback : ∀ (j : ℕ) other k b,
        (s.views.set r (.unsubscribe ref stream false))[j]? =
          some (RequestView.subscribe other k b) →
        s.views[j]? = some (RequestView.subscribe other k b) := by
      intro j other k b hj
      rw [List.getElem?_set] at hj
      split at hj
      · split at hj <;> cases hj
      · exact hj
    have hold : ∀ other k b, RequestView.subscribe other k b ∈
        s.views.set r (.unsubscribe ref stream false) →
          RequestView.subscribe other k b ∈ s.views := by
      intro other k b hk
      obtain ⟨j, hj⟩ := List.mem_iff_getElem?.1 hk
      exact List.mem_of_getElem? (hback j other k b hj)
    have hkept : ∀ view ∈ s.views, view = .unsubscribe ref stream true ∨
        view ∈ s.views.set r (.unsubscribe ref stream false) ∨
        view = .unsubscribe ref stream false := by
      intro view hview
      obtain ⟨j, hj⟩ := List.mem_iff_getElem?.1 hview
      by_cases hjr : r = j
      · rw [hjr, hj] at hr
        cases hc : q.cleanup with
        | true => exact Or.inl (by rw [← hc]; exact Option.some.inj hr)
        | false => exact Or.inr (Or.inr (by rw [← hc]; exact Option.some.inj hr))
      · exact Or.inr (Or.inl (List.mem_of_getElem? ((List.getElem?_set_ne hjr).trans hj)))
    refine ⟨h.live, h.byId, h.distinct, fun other sub hsub => ?_, fun other k b hk => ?_,
      fun j j' other other' k b b' hj hj' => ?_, fun other k hk => ?_, h.closed,
      hstreams.quiet h.quiet⟩
    · obtain ⟨hnot, hview⟩ := h.tracked other sub hsub
      refine ⟨hnot, ?_⟩
      show _ ∈ (s.requests.modify r _).map Request.view
      rw [hviews]
      rcases hkept _ hview with heq | hmem | heq
      · cases heq
      · exact hmem
      · cases heq
    · have hmem := hold other k b (hviews ▸ hk)
      exact lt_of_lt_of_le (h.asked other k b hmem) hstreams.length
    · exact h.once j j' other other' k b b' (hback j other k b (hviews ▸ hj))
        (hback j' other' k b' (hviews ▸ hj'))
    · have hmem := hold other k true (hviews ▸ hk)
      rcases h.returned other k hmem with hlive | hended | hunsub
      · exact Or.inl hlive
      · exact Or.inr (Or.inl (hstreams.hasEnded hended))
      · rcases hkept _ hunsub with heq | hstill | heq
        · cases heq
          exact Or.inr (Or.inl (hends (h.asked ref stream true hmem)))
        · refine Or.inr (Or.inr ?_)
          show _ ∈ (s.requests.modify r _).map Request.view
          rw [hviews]
          exact hstill
        · cases heq

lemma onClose_streams {s : Controller} (hopen : s.closed = false) :
    s.onClose.1.subsByRef = .empty ∧ s.onClose.1.streamsById = .empty ∧
      s.onClose.1.views = s.views ∧ KeepsStreams s.streams s.onClose.1.streams ∧
      ∀ k ∈ s.streamsById.values, k < s.streams.length → s.onClose.1.hasEnded k = true := by
  unfold Controller.onClose
  rw [if_neg (by rw [hopen]; exact Bool.false_ne_true), rejectHelloAck_frame]
  obtain ⟨requests, hpending⟩ := rejectPending_frame { s with
    closed := true
    sessionId := none
    timer := false
    awaitingHelloAck := false
    ack := if s.awaitingHelloAck then s.ack.or (some (.error .channelClosed)) else s.ack }
  have hviews : requests.map Request.view = s.views := by
    have hsettled := views_foldl_settle s.pending.values .channelClosed { s with
      closed := true
      sessionId := none
      timer := false
      awaitingHelloAck := false
      ack := if s.awaitingHelloAck then s.ack.or (some (.error .channelClosed)) else s.ack }
    have hrequests := congrArg Controller.views hpending
    exact hrequests.symm.trans hsettled
  dsimp only
  rw [hpending]
  have hspec := endAll_spec { s with
    closed := true
    sessionId := none
    timer := false
    awaitingHelloAck := false
    ack := if s.awaitingHelloAck then s.ack.or (some (.error .channelClosed)) else s.ack
    requests, pending := .empty } s.streamsById.values
  obtain ⟨streams, hstreams⟩ := endAll_frame { s with
    closed := true
    sessionId := none
    timer := false
    awaitingHelloAck := false
    ack := if s.awaitingHelloAck then s.ack.or (some (.error .channelClosed)) else s.ack
    requests, pending := .empty } s.streamsById.values
  refine ⟨rfl, rfl, ?_, hspec.1, hspec.2⟩
  rw [hstreams]
  exact hviews

lemma Consistent.onClose {s : Controller} {l : Ledger} (h : Consistent s l)
    (hopen : s.closed = false) :
    Consistent s.onClose.1 ⟨fun _ => none, List.range s.streams.length⟩ := by
  obtain ⟨hsubs, hids, hviews, hstreams, hends⟩ := onClose_streams hopen
  refine ⟨fun ref => ?_, fun id k => ?_, nofun, nofun, fun ref k b hk => ?_,
    fun r r' ref ref' k b b' hr hr' => ?_, fun ref k hk => ?_, fun _ _ => rfl,
    hstreams.quiet h.quiet⟩
  · rw [hsubs]
    rfl
  · rw [hids]
    exact ⟨nofun, fun ⟨ref, hlive⟩ => nomatch hlive⟩
  · rw [hviews] at hk
    exact lt_of_lt_of_le (h.asked ref k b hk) hstreams.length
  · rw [hviews] at hr hr'
    exact h.once r r' ref ref' k b b' hr hr'
  · rw [hviews] at hk ⊢
    rcases h.returned ref k hk with ⟨id, hlive⟩ | hended | hunsub
    · have hvalue := InsertionMap.mem_values_iff.2 ⟨id, (h.byId id k).2 ⟨ref, hlive⟩⟩
      exact Or.inr (Or.inl (hends k hvalue (h.asked ref k true hk)))
    · exact Or.inr (Or.inl (hstreams.hasEnded hended))
    · exact Or.inr (Or.inr hunsub)

/-! ## Steps -/

variable {messages : List Message}

lemma Consistent.answer {s : Controller} {l : Ledger} (h : Consistent s l) {r : ℕ} {q : Request}
    (hq : s.requests[r]? = some q) {response : Response}
    (hnot : ∀ ref stream id result flag, q.purpose = .subscribe ref stream →
      response = .success id result flag → o.parseResult .subscribe result = none) :
    Consistent (s.answer o r q.purpose response) l := by
  unfold Controller.answer
  split
  · exact h.keep rfl rfl (views_settle_error s r _) rfl (.refl _)
  next id result flag =>
  split
  · exact h.keep rfl rfl (views_settle_error s r _) rfl (.refl _)
  next parsed hparsed =>
  cases hp : q.purpose with
  | request method =>
    have hother : ∀ ref stream, q.purpose ≠ .subscribe ref stream := by simp [hp]
    exact h.keep rfl rfl (views_settle_other hq hother _) rfl (.refl _)
  | subscribe ref stream =>
    rw [hp] at hparsed
    have hnone : o.parseResult .subscribe result = none := hnot ref stream id result flag hp rfl
    rw [show o.parseResult (Purpose.subscribe ref stream).method result = none from hnone] at hparsed
    cases hparsed
  | unsubscribe ref stream =>
    have hother : ∀ ref stream, q.purpose ≠ .subscribe ref stream := by simp [hp]
    exact h.keep rfl rfl (views_settle_other hq hother _) rfl (.refl _)

lemma subscribed_eq_some {purpose : Purpose} {response : Response} {ref : SessionRef}
    {sub : TrackedSub} (h : subscribed o purpose response = some (ref, sub)) :
    ∃ stream id result flag parsed, purpose = .subscribe ref stream ∧
      response = .success id result flag ∧ o.parseResult .subscribe result = some parsed ∧
      sub = ⟨o.mirrorAck parsed, stream⟩ := by
  unfold subscribed at h
  split at h
  · obtain ⟨parsed, hparsed, heq⟩ := Option.map_eq_some_iff.1 h
    cases heq
    exact ⟨_, _, _, _, parsed, rfl, rfl, hparsed, rfl⟩
  · cases h
  · cases h
  · cases h

lemma Consistent.control {s : Controller} {l : Ledger} (h : Consistent s l)
    (htracks : Tracks o s) (hnegotiates : Negotiates messages s) (payload : Bytes)
    (horderly : ∀ ref sub, s.acknowledges o payload = some (ref, sub) → Orderly s l ref sub) :
    Consistent (s.react o (.control payload)).1 (l.note o s (.control payload)) := by
  have hnote : l.note o s (.control payload) = match s.acknowledges o payload with
      | none => l
      | some (ref, sub) => l.take ref sub := rfl
  rw [hnote]
  simp only [Controller.react]
  cases hsession : s.sessionId with
  | none =>
    have hnone : s.acknowledges o payload = none := by
      rw [acknowledges, if_pos (Or.inl (by rw [hsession]; rfl))]
    rw [hnone]
    exact h
  | some sessionId =>
  have hopen : s.closed = false := by
    by_contra hc
    rw [(hnegotiates.closed (by simpa using hc)).2] at hsession
    cases hsession
  rw [Option.isSome_some, if_pos rfl]
  unfold Controller.onControl
  by_cases hawaiting : s.awaitingHelloAck = true
  · have hnone : s.acknowledges o payload = none := by
      rw [acknowledges, if_pos (Or.inr hawaiting)]
    rw [hnone, if_pos hawaiting]
    have hkeep : (s.handleHelloAck o payload).subsByRef = s.subsByRef ∧
        (s.handleHelloAck o payload).streamsById = s.streamsById ∧
        (s.handleHelloAck o payload).views = s.views ∧
        (s.handleHelloAck o payload).streams = s.streams := by
      unfold Controller.handleHelloAck
      dsimp only
      split <;> exact ⟨rfl, rfl, rfl, rfl⟩
    exact h.keep hkeep.1 hkeep.2.1 hkeep.2.2.1 (same_handleHelloAck o s payload).closed
      (by rw [hkeep.2.2.2]; exact .refl _)
  rw [if_neg hawaiting]
  have hguard : ¬ (s.sessionId.isNone = true ∨ s.awaitingHelloAck = true) := by
    rw [hsession]
    simpa using hawaiting
  cases hresponse : o.parseResponse payload with
  | none =>
    rw [acknowledges, if_neg hguard, hresponse]
    exact h
  | some response =>
  dsimp only
  cases hget : s.pending.get response.id with
  | none =>
    rw [acknowledges, if_neg hguard, hresponse, Option.bind_eq_bind, Option.bind_some, hget]
    exact h
  | some r =>
  obtain ⟨q, hq, hprogress⟩ := Option.map_eq_some_iff.1 (htracks.pending response.id r hget)
  have herased : Consistent { s with pending := s.pending.erase response.id } l :=
    h.keep rfl rfl rfl rfl (.refl _)
  have hacknowledges : s.acknowledges o payload = subscribed o q.purpose response := by
    rw [acknowledges, if_neg hguard, hresponse, Option.bind_eq_bind, Option.bind_some, hget,
      Option.bind_eq_bind, Option.bind_some, hq, Option.bind_eq_bind, Option.bind_some]
  dsimp only
  rw [hq]
  dsimp only
  cases hsubscribed : subscribed o q.purpose response with
  | none =>
    rw [hacknowledges, hsubscribed]
    refine herased.answer hq fun ref stream id result flag hpurpose hsuccess => ?_
    rw [hpurpose, hsuccess] at hsubscribed
    exact Option.map_eq_none_iff.1 hsubscribed
  | some subscription =>
    have hsome := hacknowledges.trans hsubscribed
    obtain ⟨ref, sub⟩ := subscription
    rw [hsome]
    obtain ⟨stream, id, result, flag, parsed, hpurpose, hsuccess, hparsed, hsub⟩ :=
      subscribed_eq_some hsubscribed
    subst hsub hsuccess
    have hview : s.views[r]? = some (.subscribe ref stream false) := by
      rw [views, List.getElem?_map, hq, Option.map_some, Request.view, hpurpose, hprogress]
      rfl
    have hanswer : Controller.answer o { s with pending := s.pending.erase id } r q.purpose
        (.success id result flag) = { s with
          pending := s.pending.erase id
          streamsById := s.streamsById.set (o.mirrorAck parsed) stream
          subsByRef := s.subsByRef.set ref ⟨o.mirrorAck parsed, stream⟩ }.settle r (.ok parsed) := by
      rw [hpurpose]
      unfold Controller.answer
      rw [show (Purpose.subscribe ref stream).method = .subscribe from rfl]
      dsimp only
      rw [hparsed]
      rfl
    have hviews := views_settle_ok hq hpurpose hprogress
    rw [show (Response.success id result flag).id = id from rfl, hanswer]
    exact h.take (horderly ref _ hsome) hview rfl rfl (hviews parsed) hopen rfl

end Controller

end Pherry.Sdk
