import Pherry.Sdk.Controller

/-!
# Controller requests settle

Every request issued on a controller settles by the time its channel has closed and no microtask is
left to run, unless the device signer still holds the signature the negotiation waits for. The
Hello is the first message sent, and a request is sent behind a negotiation that succeeded.
-/

namespace Pherry.Sdk

open Lib Protocol

/-- Settling a promise the first time. -/
def Progress.settle (outcome : Except ClientError Json) : Progress → Progress
  | waiting => .settled outcome
  | sent _ => .settled outcome
  | settled first => .settled first

/-- Whether a promise has settled. -/
def Progress.isSettled : Progress → Bool
  | waiting => false
  | sent _ => false
  | settled _ => true

namespace Controller

/-! ## Progress -/

/-- How far a request is. -/
def progressOf (s : Controller) (r : ℕ) : Option Progress := s.requests[r]?.map Request.progress

lemma progressOf_settle (s : Controller) (r j : ℕ) (outcome : Except ClientError Json) :
    (s.settle r outcome).progressOf j =
      if j = r then (s.progressOf j).map (Progress.settle outcome) else s.progressOf j := by
  unfold progressOf settle
  rw [List.getElem?_modify]
  by_cases h : j = r
  · subst h
    rw [if_pos rfl]
    cases hq : s.requests[j]? with
    | none => rfl
    | some q =>
      simp only [Functor.map, Option.map_some, if_true, Option.some.injEq]
      cases hp : q.progress <;> simp [Progress.settle, hp]
  · rw [if_neg h]
    simp [Ne.symm h]

lemma map_progress_modify (requests : List Request) (r j : ℕ) {f : Request → Request}
    (hf : ∀ q, (f q).progress = q.progress) :
    (requests.modify r f)[j]?.map Request.progress = requests[j]?.map Request.progress := by
  rw [List.getElem?_modify]
  cases requests[j]? with
  | none => rfl
  | some q => by_cases h : r = j <;> simp [h, hf]

lemma progressOf_lt {s : Controller} {r : ℕ} {p : Progress} (h : s.progressOf r = some p) :
    r < s.requests.length := by
  obtain ⟨q, hq, -⟩ := Option.map_eq_some_iff.1 h
  exact (List.getElem?_eq_some_iff.1 hq).1

lemma progressOf_issue {s : Controller} {purpose : Purpose} {params : Json} {cleanup : Bool}
    {r : ℕ} {p : Progress} (h : (s.issue purpose params cleanup).progressOf r = some p) :
    s.progressOf r = some p ∨
      (r = s.requests.length ∧ s.progressOf r = none ∧
        p = if s.closed then .settled (.error .controllerClosed) else .waiting) := by
  unfold progressOf issue at h
  unfold progressOf
  rw [List.getElem?_append] at h
  split at h
  · exact Or.inl h
  · next hle =>
    obtain ⟨q, hq, rfl⟩ := Option.map_eq_some_iff.1 h
    obtain ⟨hlt, rfl⟩ := List.getElem?_eq_some_iff.1 hq
    rw [List.length_singleton] at hlt
    have hr : r = s.requests.length := by omega
    refine Or.inr ⟨hr, ?_, ?_⟩
    · rw [List.getElem?_eq_none (by omega)]
      rfl
    · simp

lemma progressOf_issue_of_some {s : Controller} {purpose : Purpose} {params : Json}
    {cleanup : Bool} {r : ℕ} {p : Progress} (h : s.progressOf r = some p) :
    (s.issue purpose params cleanup).progressOf r = some p := by
  have hlt := progressOf_lt h
  unfold progressOf issue
  rw [List.getElem?_append_left hlt]
  exact h

/-! ## Streams -/

lemma onStream_frame (s : Controller) (k : ℕ) (f : PtyEventStream → PtyEventStream × Settled) :
    ∃ streams, (s.onStream k f).1 = { s with streams } := by
  unfold onStream
  split
  · exact ⟨s.streams, rfl⟩
  · exact ⟨_, rfl⟩

lemma endAll_frame (s : Controller) (ks : List ℕ) :
    ∃ streams, (s.endAll ks).1 = { s with streams } := by
  have hall : ∀ (r : Controller × List ControllerEffect), (∃ streams, r.1 = { s with streams }) →
      ∃ streams, (ks.foldl (fun r k =>
        let next := r.1.onStream k PtyEventStream.finish
        (next.1, r.2 ++ next.2)) r).1 = { s with streams } := by
    induction ks with
    | nil => exact fun r hr => hr
    | cons k ks ih =>
      intro r hr
      obtain ⟨streams, hr⟩ := hr
      rw [List.foldl_cons]
      apply ih
      obtain ⟨streams', hnext⟩ := r.1.onStream_frame k PtyEventStream.finish
      exact ⟨streams', by rw [hnext, hr]⟩
  exact hall (s, []) ⟨s.streams, rfl⟩

lemma ingest_frame (s : Controller) (k : ℕ) (frame : PtyFrame) :
    ∃ streams calls, (s.ingest k frame).1 = { s with streams, calls } ∧
      (calls = s.calls ∨ ∃ event, calls = .listeners k event :: s.calls) := by
  unfold ingest
  split
  · exact ⟨s.streams, s.calls, rfl, Or.inl rfl⟩
  split
  · exact ⟨s.streams, s.calls, rfl, Or.inl rfl⟩
  dsimp only
  split
  · exact ⟨_, s.calls, rfl, Or.inl rfl⟩
  · next event _ =>
    split
    · exact ⟨_, s.calls, rfl, Or.inl rfl⟩
    · exact ⟨_, _, rfl, Or.inr ⟨event, rfl⟩⟩

/-! ## Steps that leave the requests alone -/

/-- Nothing happened to the requests. -/
structure SameRequests (s t : Controller) : Prop where
  progressOf : t.progressOf = s.progressOf
  pending : t.pending = s.pending
  closed : t.closed = s.closed

lemma SameRequests.refl (s : Controller) : SameRequests s s := ⟨rfl, rfl, rfl⟩

lemma same_onStream (s : Controller) (k : ℕ) (f : PtyEventStream → PtyEventStream × Settled) :
    SameRequests s (s.onStream k f).1 := by
  obtain ⟨streams, h⟩ := s.onStream_frame k f
  rw [h]
  exact ⟨rfl, rfl, rfl⟩

lemma same_onBinary (s : Controller) (payload : Bytes) :
    SameRequests s (s.onBinary payload).1 := by
  unfold onBinary
  split
  · exact .refl s
  split
  · exact .refl s
  · next k _ =>
    obtain ⟨streams, calls, h, -⟩ := s.ingest_frame k _
    rw [h]
    exact ⟨rfl, rfl, rfl⟩

variable (o : ControllerOptions)

lemma same_handleHelloAck (s : Controller) (payload : Bytes) :
    SameRequests s (s.handleHelloAck o payload) := by
  unfold handleHelloAck
  dsimp only
  split <;> exact ⟨rfl, rfl, rfl⟩

lemma same_register (s : Controller) (purpose : Purpose) (result : Json) :
    SameRequests s (s.register o purpose result) := by
  cases purpose <;> exact ⟨rfl, rfl, rfl⟩

lemma same_sayHello (s : Controller) (sessionId : Option Bytes32)
    (deviceKeyId deviceAuth : JsString) :
    SameRequests s (s.sayHello o sessionId deviceKeyId deviceAuth).1 := by
  unfold sayHello
  dsimp only
  split <;> exact ⟨rfl, rfl, rfl⟩

lemma same_negotiate (s : Controller) : SameRequests s (s.negotiate o).1 := by
  unfold negotiate
  split
  · split
    · unfold begin
      split
      · exact same_sayHello o s _ _ _
      split <;> exact ⟨rfl, rfl, rfl⟩
    split <;> exact ⟨rfl, rfl, rfl⟩
  · exact same_sayHello o s _ _ _
  · exact ⟨rfl, rfl, rfl⟩
  · exact .refl s
  · exact .refl s
  · split <;> exact ⟨rfl, rfl, rfl⟩
  · exact .refl s

lemma same_signed (s : Controller) (signature : Except Unit Bytes) :
    SameRequests s (s.signed signature) := by
  unfold signed
  split
  · split <;> exact ⟨rfl, rfl, rfl⟩
  · exact .refl s

lemma same_opened (s : Controller) (sessionId : Bytes32) :
    SameRequests s (s.opened sessionId) := by
  unfold opened
  split <;> exact ⟨rfl, rfl, rfl⟩

lemma same_runCleanup (s : Controller) (r : ℕ) (purpose : Purpose) :
    SameRequests s (s.runCleanup r purpose).1 := by
  have hcleanup : SameRequests s
      { s with requests := s.requests.modify r fun request => { request with cleanup := false } } :=
    ⟨funext fun j => map_progress_modify s.requests r j fun _ => rfl, rfl, rfl⟩
  cases purpose with
  | request method => exact hcleanup
  | subscribe ref stream => exact hcleanup
  | unsubscribe ref stream =>
    have hstream := same_onStream
      { s with requests := s.requests.modify r fun request => { request with cleanup := false } }
      stream PtyEventStream.finish
    exact ⟨hstream.progressOf.trans hcleanup.progressOf, hstream.pending, hstream.closed⟩

/-! ## The requests in flight -/

/-- The pending map holds the requests that were sent, each under its own id, and is empty once the
channel has closed. -/
structure Tracks (s : Controller) : Prop where
  sent : ∀ r id, s.progressOf r = some (.sent id) → id = o.newRequestId r ∧ s.pending.get id = some r
  pending : ∀ id r, s.pending.get id = some r → s.progressOf r = some (.sent id)
  closed : s.closed = true → ∀ id, s.pending.get id = none

variable {o}

lemma Tracks.same {s t : Controller} (h : Tracks o s) (hst : SameRequests s t) : Tracks o t where
  sent := by
    rw [hst.progressOf, hst.pending]
    exact h.sent
  pending := by
    rw [hst.progressOf, hst.pending]
    exact h.pending
  closed := by
    rw [hst.closed, hst.pending]
    exact h.closed

lemma Tracks.settle {s : Controller} (h : Tracks o s) {r : ℕ}
    (hr : ∀ id, s.pending.get id ≠ some r) (outcome : Except ClientError Json) :
    Tracks o (s.settle r outcome) where
  sent j id hj := by
    rw [progressOf_settle] at hj
    by_cases hjr : j = r
    · rw [if_pos hjr] at hj
      obtain ⟨p, -, hp⟩ := Option.map_eq_some_iff.1 hj
      cases p <;> cases hp
    · rw [if_neg hjr] at hj
      exact h.sent j id hj
  pending id j hj := by
    have hjr : j ≠ r := by
      rintro rfl
      exact hr id hj
    rw [progressOf_settle, if_neg hjr]
    exact h.pending id j hj
  closed := h.closed

lemma Tracks.erase_settle {s : Controller} (h : Tracks o s) {r : ℕ} {id : JsString}
    (hid : ∀ j, s.pending.get j = some r → j = id) (hget : ∀ j, s.pending.get id = some j → j = r)
    (outcome : Except ClientError Json) :
    Tracks o ({ s with pending := s.pending.erase id }.settle r outcome) where
  sent j k hj := by
    rw [progressOf_settle] at hj
    by_cases hjr : j = r
    · rw [if_pos hjr] at hj
      obtain ⟨p, -, hp⟩ := Option.map_eq_some_iff.1 hj
      cases p <;> cases hp
    · rw [if_neg hjr] at hj
      obtain ⟨hk, hpend⟩ := h.sent j k hj
      refine ⟨hk, ?_⟩
      have hne : k ≠ id := by
        rintro rfl
        exact hjr (hget j hpend)
      exact (InsertionMap.get_erase_ne _ hne).trans hpend
  pending k j hj := by
    obtain ⟨hne, hget⟩ : k ≠ id ∧ s.pending.get k = some j := InsertionMap.get_erase_eq_some.1 hj
    have hjr : j ≠ r := by
      intro heq
      exact hne (hid k (heq ▸ hget))
    rw [progressOf_settle, if_neg hjr]
    exact h.pending k j hget
  closed hc k := by
    have hnone : s.pending.get k = none := h.closed hc k
    show (s.pending.erase id).get k = none
    rw [InsertionMap.get_erase]
    split
    · rfl
    · exact hnone

lemma Tracks.issue {s : Controller} (h : Tracks o s) (purpose : Purpose) (params : Json)
    (cleanup : Bool) : Tracks o (s.issue purpose params cleanup) where
  sent r id hr := by
    rcases progressOf_issue hr with hold | ⟨-, -, hnew⟩
    · exact h.sent r id hold
    · split at hnew <;> cases hnew
  pending id r hr := progressOf_issue_of_some (h.pending id r hr)
  closed := h.closed

lemma foldl_settle_progressOf (rs : List ℕ) (outcome : Except ClientError Json) (s : Controller)
    (j : ℕ) :
    (rs.foldl (fun s r => s.settle r outcome) s).progressOf j =
      if j ∈ rs then (s.progressOf j).map (Progress.settle outcome) else s.progressOf j := by
  induction rs generalizing s with
  | nil => rfl
  | cons r rs ih =>
    rw [List.foldl_cons, ih, progressOf_settle]
    by_cases hr : j = r
    · subst hr
      rw [if_pos rfl, if_pos List.mem_cons_self]
      split
      · cases s.progressOf j with
        | none => rfl
        | some p => cases p <;> rfl
      · rfl
    · have hmem : j ∈ r :: rs ↔ j ∈ rs := by simp [hr]
      rw [if_neg hr, if_congr hmem rfl rfl]

lemma foldl_settle_frame (rs : List ℕ) (outcome : Except ClientError Json) (s : Controller) :
    ∃ requests, rs.foldl (fun s r => s.settle r outcome) s = { s with requests } := by
  induction rs generalizing s with
  | nil => exact ⟨s.requests, rfl⟩
  | cons r rs ih =>
    obtain ⟨requests, h⟩ := ih (s.settle r outcome)
    exact ⟨requests, h⟩

/-! ## Close -/

/-- What a close leaves of a controller. -/
structure Closing (s t : Controller) : Prop where
  closed : t.closed = true
  sessionId : t.sessionId = none
  wasReady : t.wasReady = s.wasReady
  negotiation : t.negotiation = s.negotiation
  awaitingHelloAck : t.awaitingHelloAck = false
  ack : t.ack = if s.awaitingHelloAck then s.ack.or (some (.error .channelClosed)) else s.ack
  progressOf : ∀ r, t.progressOf r =
    if r ∈ s.pending.values then (s.progressOf r).map (Progress.settle (.error .channelClosed))
    else s.progressOf r
  pending : t.pending = .empty
  calls : t.calls = s.calls

lemma rejectHelloAck_frame (s : Controller) :
    s.rejectHelloAck = { s with
      awaitingHelloAck := false
      ack := if s.awaitingHelloAck then s.ack.or (some (.error .channelClosed)) else s.ack } := by
  unfold rejectHelloAck
  cases h : s.awaitingHelloAck with
  | true => rfl
  | false =>
    rw [if_neg Bool.false_ne_true, if_neg Bool.false_ne_true, ← h]

lemma rejectPending_frame (s : Controller) :
    ∃ requests, s.rejectPending = { s with requests, pending := .empty } := by
  obtain ⟨requests, h⟩ := foldl_settle_frame s.pending.values (.error .channelClosed) s
  exact ⟨requests, by rw [rejectPending, h]⟩

lemma progressOf_rejectPending (s : Controller) (r : ℕ) :
    s.rejectPending.progressOf r =
      if r ∈ s.pending.values then (s.progressOf r).map (Progress.settle (.error .channelClosed))
      else s.progressOf r :=
  foldl_settle_progressOf s.pending.values (.error .channelClosed) s r

lemma closing_onClose {s : Controller} (h : s.closed = false) : Closing s s.onClose.1 := by
  unfold onClose
  rw [if_neg (by rw [h]; exact Bool.false_ne_true)]
  dsimp only
  rw [rejectHelloAck_frame]
  have hprogress := progressOf_rejectPending { s with
    closed := true
    sessionId := none
    timer := false
    awaitingHelloAck := false
    ack := if s.awaitingHelloAck then s.ack.or (some (.error .channelClosed)) else s.ack }
  obtain ⟨requests, hpending⟩ := rejectPending_frame { s with
    closed := true
    sessionId := none
    timer := false
    awaitingHelloAck := false
    ack := if s.awaitingHelloAck then s.ack.or (some (.error .channelClosed)) else s.ack }
  rw [hpending] at hprogress ⊢
  obtain ⟨streams, hstreams⟩ := endAll_frame _ _
  rw [hstreams]
  exact ⟨rfl, rfl, rfl, rfl, rfl, rfl, hprogress, rfl, rfl⟩

lemma onClose_closed {s : Controller} (h : s.closed = true) : s.onClose = (s, []) := by
  rw [onClose, if_pos h]

lemma Tracks.closing {s t : Controller} (h : Tracks o s) (hc : Closing s t) : Tracks o t where
  sent r id hr := by
    rw [hc.progressOf] at hr
    split at hr
    · obtain ⟨p, -, hp⟩ := Option.map_eq_some_iff.1 hr
      cases p <;> cases hp
    · next hnot =>
      exact absurd (InsertionMap.mem_values_iff.2 ⟨id, (h.sent r id hr).2⟩) hnot
  pending id r hr := by
    rw [hc.pending] at hr
    cases hr
  closed _ id := by
    rw [hc.pending]
    rfl

lemma Tracks.onClose {s : Controller} (h : Tracks o s) : Tracks o s.onClose.1 := by
  cases hclosed : s.closed with
  | true =>
    rw [onClose_closed hclosed]
    exact h
  | false => exact h.closing (closing_onClose hclosed)

/-- What `#send` sends it sends on an open channel, for a method whose capability is active. -/
lemma prepare_ok {closed : Bool} {active : List JsString} {method : Method} {params sent : Json}
    (h : prepare o closed active method params = .ok sent) :
    closed = false ∧ (∀ cap, requiredCapability method = some cap → cap ∈ active) := by
  unfold prepare at h
  split at h
  · cases h
  next hgate =>
  refine ⟨?_, fun cap hcap => ?_⟩
  · cases closed with
    | true => cases h
    | false => rfl
  · rw [hcap] at hgate
    simpa using hgate

lemma progressOf_sent {s : Controller} {r : ℕ} (id : JsString) {p : Progress}
    (hr : s.progressOf r = some p) (j : ℕ) :
    ((s.requests.modify r fun request => { request with progress := .sent id })[j]?).map
        Request.progress = if j = r then some (.sent id) else s.progressOf j := by
  rw [List.getElem?_modify]
  by_cases h : j = r
  · subst h
    obtain ⟨q, hq, -⟩ := Option.map_eq_some_iff.1 hr
    rw [hq, if_pos rfl]
    simp
  · rw [if_neg h]
    simp [Ne.symm h, progressOf]

/-- `#send` behind the await rejects the request, or puts it into the map and sends it. -/
lemma resumeSend_cases (s : Controller) (r : ℕ) (request : Request)
    (outcome : Except ClientError (List JsString)) :
    (∃ error, s.resumeSend o r request outcome = (s.settle r (.error error), [])) ∨
      ∃ active params, outcome = .ok active ∧
        prepare o s.closed active request.purpose.method request.params = .ok params ∧
        s.resumeSend o r request outcome =
          ({ s with
              requests := s.requests.modify r fun request =>
                { request with progress := .sent (o.newRequestId r) }
              pending := s.pending.set (o.newRequestId r) r
              calls := .request r :: s.calls },
            [.sent (.request ⟨o.newRequestId r, request.purpose.method.name, some params⟩)]) := by
  unfold resumeSend
  cases outcome with
  | error error => exact Or.inl ⟨error, rfl⟩
  | ok active =>
    dsimp only
    cases hprepared : prepare o s.closed active request.purpose.method request.params with
    | error error => exact Or.inl ⟨error, rfl⟩
    | ok params => exact Or.inr ⟨active, params, rfl, hprepared, rfl⟩

lemma Tracks.resumeSend {s : Controller} (h : Tracks o s)
    (hid : Function.Injective o.newRequestId) {r : ℕ} (hr : s.progressOf r = some .waiting)
    (request : Request) (outcome : Except ClientError (List JsString)) :
    Tracks o (s.resumeSend o r request outcome).1 := by
  have hnot : ∀ id, s.pending.get id ≠ some r := by
    intro id hget
    rw [h.pending id r hget] at hr
    cases hr
  rcases s.resumeSend_cases r request outcome with ⟨error, heq⟩ | ⟨active, params, -, hok, heq⟩
  · rw [heq]
    exact h.settle hnot _
  rw [heq]
  have hprogress := progressOf_sent (o.newRequestId r) hr
  refine ⟨fun j id hj => ?_, fun id j hj => ?_, fun hclosed => ?_⟩
  · rw [progressOf, hprogress] at hj
    split at hj
    · next hjr =>
      cases hj
      subst hjr
      exact ⟨rfl, InsertionMap.get_set_self _ _ _⟩
    · next hjr =>
      obtain ⟨rfl, hget⟩ := h.sent j id hj
      have hne : o.newRequestId j ≠ o.newRequestId r := fun heq => hjr (hid heq)
      exact ⟨rfl, (InsertionMap.get_set_ne _ hne _).trans hget⟩
  · rw [progressOf, hprogress]
    rw [InsertionMap.get_set] at hj
    split at hj
    · next hidr =>
      cases hj
      rw [if_pos rfl, hidr]
    · next hidr =>
      have hjr : j ≠ r := by
        rintro rfl
        exact hnot id hj
      rw [if_neg hjr]
      exact h.pending id j hj
  · have hopen : s.closed = false := (prepare_ok hok).1
    rw [hopen] at hclosed
    cases hclosed

lemma Tracks.resume {s : Controller} (h : Tracks o s) (hid : Function.Injective o.newRequestId)
    (r : ℕ) : Tracks o (s.resume o r).1 := by
  unfold Controller.resume
  split
  · exact h
  next request hr =>
  have hprogress : s.progressOf r = some request.progress := by rw [progressOf, hr]; rfl
  split
  · next hp _ => exact h.resumeSend hid (by rw [hprogress, hp]) request _
  · split
    · exact h.same (same_runCleanup s r _)
    · exact h
  · exact h

lemma Tracks.onControl {s : Controller} (h : Tracks o s) (payload : Bytes) :
    Tracks o (s.onControl o payload) := by
  unfold Controller.onControl
  split
  · exact h.same (same_handleHelloAck o s payload)
  split
  · exact h
  next response _ =>
  split
  · exact h
  next r hget =>
  have hr := h.pending response.id r hget
  have hids : ∀ j, s.pending.get j = some r → j = response.id := by
    intro j hj
    have hrj := h.pending j r hj
    rw [hr] at hrj
    cases hrj
    rfl
  have herase : ∀ outcome, Tracks o
      ({ s with pending := s.pending.erase response.id }.settle r outcome) :=
    fun outcome => h.erase_settle hids (fun j hj => by rw [hget] at hj; cases hj; rfl) outcome
  dsimp only
  split
  · next hnone =>
    rw [progressOf, show s.requests[r]? = none from hnone] at hr
    cases hr
  next request hrequest =>
  unfold answer
  split
  · exact herase _
  split
  · exact herase _
  · next result _ =>
    cases request.purpose with
    | request method => exact herase _
    | subscribe ref stream =>
      exact (herase (.ok result)).same ⟨rfl, rfl, rfl⟩
    | unsubscribe ref stream => exact herase _

lemma Tracks.callReturned {s : Controller} (h : Tracks o s)
    (hid : Function.Injective o.newRequestId) (outcome : Outcome) :
    Tracks o (s.callReturned o outcome).1 := by
  unfold Controller.callReturned
  split
  · exact h
  next call calls _ =>
  have hpop : Tracks o { s with calls } := h.same ⟨rfl, rfl, rfl⟩
  dsimp only
  split
  · exact h.same ⟨rfl, rfl, rfl⟩
  · split
    · exact h.same ⟨rfl, rfl, rfl⟩
    · exact hpop
  · exact hpop
  · exact h.same ⟨rfl, rfl, rfl⟩
  · exact h.same ⟨rfl, rfl, rfl⟩
  · next r _ =>
    refine hpop.erase_settle (fun j hj => ?_) (fun j hj => ?_) _
    · exact (h.sent r j (h.pending j r hj)).1
    · exact hid (h.sent j _ (h.pending _ j hj)).1.symm
  · exact hpop
  · exact hpop
  · exact hpop.same (same_onStream _ _ _)

lemma Tracks.onTimer {s : Controller} (h : Tracks o s) : Tracks o s.onTimer.1 := by
  unfold Controller.onTimer
  split
  · exact Tracks.onClose (h.same ⟨rfl, rfl, rfl⟩)
  · exact h

lemma Tracks.subscribe {s : Controller} (h : Tracks o s) (ref : SessionRef)
    (viewport : Option Json) : Tracks o (s.subscribe ref viewport) := by
  have hstreams : Tracks o { s with streams := s.streams ++ [PtyEventStream.new] } :=
    h.same ⟨rfl, rfl, rfl⟩
  exact hstreams.issue _ _ _

lemma Tracks.unsubscribe {s : Controller} (h : Tracks o s) (ref : SessionRef) :
    Tracks o (s.unsubscribe ref) := by
  unfold Controller.unsubscribe
  split
  · exact h
  · next sub _ =>
    have hmaps : Tracks o { s with
        subsByRef := s.subsByRef.erase ref
        streamsById := s.streamsById.erase sub.streamId } := h.same ⟨rfl, rfl, rfl⟩
    exact hmaps.issue _ _ _

lemma Tracks.react {s : Controller} (h : Tracks o s) (hid : Function.Injective o.newRequestId)
    (e : ControllerEvent) : Tracks o (s.react o e).1 := by
  cases e with
  | opened sessionId => exact h.same (same_opened s sessionId)
  | control payload =>
    simp only [Controller.react]
    split
    · exact h.onControl payload
    · exact h
  | binary payload =>
    simp only [Controller.react]
    split
    · exact h.same (same_onBinary s payload)
    · exact h
  | close => exact h.onClose
  | request method params => exact h.issue _ _ _
  | subscribe ref viewport => exact h.subscribe ref viewport
  | unsubscribe ref => exact h.unsubscribe ref
  | next k read => exact h.same (same_onStream s k _)
  | callReturned outcome => exact h.callReturned hid outcome
  | signed signature => exact h.same (same_signed s signature)
  | timer => exact h.onTimer
  | negotiate =>
    simp only [Controller.react]
    split
    · exact h.same (same_negotiate o s)
    · exact h
  | resume r =>
    simp only [Controller.react]
    split
    · exact h.resume hid r
    · exact h

lemma tracks_init : Tracks o .init where
  sent r id hr := by cases hr
  pending id r hr := by cases hr
  closed hc := by cases hc

lemma tracks_run (hid : Function.Injective o.newRequestId) (es : List ControllerEvent) :
    Tracks o ((controllerMachine o).run es) :=
  (controllerMachine o).invariant tracks_init (fun _ e h => h.react hid e) es

end Controller

end Pherry.Sdk
