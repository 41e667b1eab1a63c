import Pherry.Sdk.Requests

/-!
# The controller's negotiation over a run

The Hello is the first message a controller sends, and an ack that is awaited comes: a frame, the
timer, or the close settles it.
-/

namespace Pherry.Sdk

open Lib Protocol

/-- The messages among the effects. -/
def sentBy (effects : List ControllerEffect) : List Message :=
  effects.filterMap fun effect => match effect with
    | .sent message => some message
    | .sign _ => none
    | .listeners _ _ => none
    | .read _ _ _ => none

/-- A Hello, and requests behind it. -/
def Greeted (messages : List Message) : Prop :=
  ∃ (hello : Hello) (requests : List RpcRequest),
    messages = .hello hello :: requests.map Message.request

lemma Greeted.append {messages : List Message} (h : Greeted messages) (request : RpcRequest) :
    Greeted (messages ++ [.request request]) := by
  obtain ⟨hello, requests, rfl⟩ := h
  exact ⟨hello, requests ++ [request], by simp⟩

/-- A negotiation that has not come to its Hello. -/
def Negotiation.isFresh : Negotiation → Bool
  | ready => true
  | signing _ _ => true
  | sending => false
  | waiting => false
  | settled _ => false

/-- A negotiation that has sent its Hello and not failed. -/
def Negotiation.isGreeted : Negotiation → Bool
  | ready => false
  | signing _ _ => false
  | sending => true
  | waiting => true
  | settled (.ok _) => true
  | settled (.error _) => false

/-- A negotiation in the send of its Hello. -/
def Negotiation.isSending : Negotiation → Bool
  | sending => true
  | ready => false
  | signing _ _ => false
  | waiting => false
  | settled _ => false

/-- A negotiation that waits for the ack. -/
def Negotiation.isWaiting : Negotiation → Bool
  | waiting => true
  | ready => false
  | signing _ _ => false
  | sending => false
  | settled _ => false

namespace Controller

/-- The signer and the send of the Hello are only ever the outermost call. -/
def Outermost (calls : List Call) : Prop :=
  ∀ call ∈ calls.dropLast, call ≠ .hello ∧ call ≠ .sign

lemma Outermost.push {calls : List Call} (h : Outermost calls) {call : Call}
    (hcall : call ≠ .hello ∧ call ≠ .sign) : Outermost (call :: calls) := by
  intro other hother
  cases calls with
  | nil => cases hother
  | cons first rest =>
    rw [List.dropLast_cons_cons, List.mem_cons] at hother
    rcases hother with rfl | hrest
    · exact hcall
    · exact h other hrest

lemma Outermost.pop {call : Call} {calls : List Call} (h : Outermost (call :: calls)) :
    Outermost calls := by
  intro other hother
  cases calls with
  | nil => cases hother
  | cons first rest =>
    apply h other
    rw [List.dropLast_cons_cons]
    exact List.mem_cons_of_mem call hother

lemma Outermost.alone {call : Call} {calls : List Call} (h : Outermost (call :: calls))
    (hcall : call = .hello ∨ call = .sign) : calls = [] := by
  cases calls with
  | nil => rfl
  | cons first rest =>
    have hmem := h call (by rw [List.dropLast_cons_cons]; exact List.mem_cons_self)
    rcases hcall with rfl | rfl
    · exact absurd rfl hmem.1
    · exact absurd rfl hmem.2

/-- What holds of the negotiation once `messages` have been sent. -/
structure Negotiates (messages : List Message) (s : Controller) : Prop where
  outermost : Outermost s.calls
  sending : s.negotiation.isSending = true ↔ Call.hello ∈ s.calls
  ack : s.negotiation.isWaiting = true ∨ s.negotiation.isSending = true →
    s.awaitingHelloAck = true ∨ s.ack.isSome = true
  closed : s.closed = true → s.awaitingHelloAck = false ∧ s.sessionId = none
  fresh : s.negotiation.isFresh = true → messages = []
  greeted : s.negotiation.isGreeted = true → Greeted messages
  shape : messages = [] ∨ Greeted messages

lemma negotiates_init : Negotiates [] .init where
  outermost call hcall := by cases hcall
  sending := by simp [init, Negotiation.isSending]
  ack h := by rcases h with h | h <;> cases h
  closed h := by cases h
  fresh _ := rfl
  greeted h := by cases h
  shape := Or.inl rfl

variable {messages : List Message}

/-! ## Steps that leave the negotiation alone -/

/-- Nothing happened to the negotiation but calls of other code. -/
structure SameNegotiation (s t : Controller) : Prop where
  negotiation : t.negotiation = s.negotiation
  awaitingHelloAck : t.awaitingHelloAck = s.awaitingHelloAck
  ack : t.ack = s.ack
  closed : t.closed = s.closed
  sessionId : t.sessionId = s.sessionId
  calls : t.calls = s.calls ∨ ∃ call, (call ≠ .hello ∧ call ≠ .sign) ∧ t.calls = call :: s.calls

lemma SameNegotiation.hello {s t : Controller} (h : SameNegotiation s t) :
    Call.hello ∈ t.calls ↔ Call.hello ∈ s.calls := by
  rcases h.calls with heq | ⟨call, hcall, heq⟩
  · rw [heq]
  · rw [heq, List.mem_cons]
    exact ⟨fun hmem => hmem.resolve_left (Ne.symm hcall.1), Or.inr⟩

lemma Negotiates.same {s t : Controller} (h : Negotiates messages s) (hst : SameNegotiation s t) :
    Negotiates messages t where
  outermost := by
    rcases hst.calls with heq | ⟨call, hcall, heq⟩
    · rw [heq]
      exact h.outermost
    · rw [heq]
      exact h.outermost.push hcall
  sending := by
    rw [hst.negotiation, hst.hello]
    exact h.sending
  ack := by
    rw [hst.negotiation, hst.awaitingHelloAck, hst.ack]
    exact h.ack
  closed := by
    rw [hst.closed, hst.awaitingHelloAck, hst.sessionId]
    exact h.closed
  fresh := by
    rw [hst.negotiation]
    exact h.fresh
  greeted := by
    rw [hst.negotiation]
    exact h.greeted
  shape := h.shape

lemma SameNegotiation.refl (s : Controller) : SameNegotiation s s :=
  ⟨rfl, rfl, rfl, rfl, rfl, Or.inl rfl⟩

lemma sameNegotiation_onStream (s : Controller) (k : ℕ)
    (f : PtyEventStream → PtyEventStream × Settled) : SameNegotiation s (s.onStream k f).1 := by
  obtain ⟨streams, h⟩ := s.onStream_frame k f
  rw [h]
  exact ⟨rfl, rfl, rfl, rfl, rfl, Or.inl rfl⟩

lemma sameNegotiation_onBinary (s : Controller) (payload : Bytes) :
    SameNegotiation s (s.onBinary payload).1 := by
  unfold onBinary
  split
  · exact .refl s
  split
  · exact .refl s
  next k _ =>
  obtain ⟨streams, calls, h, hcalls⟩ := s.ingest_frame k _
  rw [h]
  refine ⟨rfl, rfl, rfl, rfl, rfl, ?_⟩
  rcases hcalls with rfl | ⟨event, rfl⟩
  · exact Or.inl rfl
  · exact Or.inr ⟨.listeners k event, ⟨nofun, nofun⟩, rfl⟩

lemma sameNegotiation_runCleanup (s : Controller) (r : ℕ) (purpose : Purpose) :
    SameNegotiation s (s.runCleanup r purpose).1 := by
  cases purpose with
  | request method => exact ⟨rfl, rfl, rfl, rfl, rfl, Or.inl rfl⟩
  | subscribe ref stream => exact ⟨rfl, rfl, rfl, rfl, rfl, Or.inl rfl⟩
  | unsubscribe ref stream =>
    have hstream := sameNegotiation_onStream
      { s with requests := s.requests.modify r fun request => { request with cleanup := false } }
      stream PtyEventStream.finish
    exact ⟨hstream.negotiation, hstream.awaitingHelloAck, hstream.ack, hstream.closed,
      hstream.sessionId, hstream.calls⟩

lemma sameNegotiation_unsubscribe (s : Controller) (ref : SessionRef) :
    SameNegotiation s (s.unsubscribe ref) := by
  unfold unsubscribe
  split <;> exact ⟨rfl, rfl, rfl, rfl, rfl, Or.inl rfl⟩

variable (o : ControllerOptions)

lemma sameNegotiation_answer (s : Controller) (r : ℕ) (purpose : Purpose) (response : Response) :
    SameNegotiation s (s.answer o r purpose response) := by
  unfold answer
  split
  · exact ⟨rfl, rfl, rfl, rfl, rfl, Or.inl rfl⟩
  split
  · exact ⟨rfl, rfl, rfl, rfl, rfl, Or.inl rfl⟩
  · cases purpose <;> exact ⟨rfl, rfl, rfl, rfl, rfl, Or.inl rfl⟩

/-! ## Effects that send nothing -/

lemma sentBy_append (effects more : List ControllerEffect) :
    sentBy (effects ++ more) = sentBy effects ++ sentBy more := List.filterMap_append

lemma sentBy_reads (k : ℕ) (settled : Settled) :
    sentBy (settled.map fun read => .read k read.1 read.2) = [] := by
  rw [sentBy, List.filterMap_eq_nil_iff]
  intro effect heffect
  obtain ⟨read, -, rfl⟩ := List.mem_map.1 heffect
  rfl

lemma sentBy_onStream (s : Controller) (k : ℕ) (f : PtyEventStream → PtyEventStream × Settled) :
    sentBy (s.onStream k f).2 = [] := by
  unfold onStream
  split
  · rfl
  · exact sentBy_reads k _

lemma sentBy_endAll (s : Controller) (ks : List ℕ) : sentBy (s.endAll ks).2 = [] := by
  have hall : ∀ (r : Controller × List ControllerEffect), sentBy r.2 = [] →
      sentBy (ks.foldl (fun r k =>
        let next := r.1.onStream k PtyEventStream.finish
        (next.1, r.2 ++ next.2)) r).2 = [] := by
    induction ks with
    | nil => exact fun r hr => hr
    | cons k ks ih =>
      intro r hr
      rw [List.foldl_cons]
      apply ih
      rw [sentBy_append, hr, sentBy_onStream]
      rfl
  exact hall (s, []) rfl

lemma sentBy_onClose (s : Controller) : sentBy s.onClose.2 = [] := by
  unfold onClose
  split
  · rfl
  · exact sentBy_endAll _ _

lemma sentBy_onBinary (s : Controller) (payload : Bytes) :
    sentBy (s.onBinary payload).2 = [] := by
  unfold onBinary
  split
  · rfl
  split
  · rfl
  unfold ingest
  split
  · rfl
  split
  · rfl
  dsimp only
  split
  · exact sentBy_reads _ _
  split
  · exact sentBy_reads _ _
  · rw [sentBy_append, sentBy_reads]
    rfl

lemma sentBy_runCleanup (s : Controller) (r : ℕ) (purpose : Purpose) :
    sentBy (s.runCleanup r purpose).2 = [] := by
  cases purpose with
  | request method => rfl
  | subscribe ref stream => rfl
  | unsubscribe ref stream => exact sentBy_onStream _ _ _

/-! ## Steps of the negotiation -/

variable {o}

lemma Negotiates.settled {s t : Controller} (h : Negotiates messages s) {error : ClientError}
    (hnegotiation : t.negotiation = .settled (.error error)) (hcalls : t.calls = [])
    (hclosed : t.closed = true → t.awaitingHelloAck = false ∧ t.sessionId = none) :
    Negotiates messages t where
  outermost := by
    rw [hcalls]
    intro call hcall
    cases hcall
  sending := by
    rw [hnegotiation, hcalls]
    simp [Negotiation.isSending]
  ack hack := by
    rw [hnegotiation] at hack
    rcases hack with hack | hack <;> cases hack
  closed := hclosed
  fresh hfresh := by
    rw [hnegotiation] at hfresh
    cases hfresh
  greeted hgreeted := by
    rw [hnegotiation] at hgreeted
    cases hgreeted
  shape := h.shape

lemma Negotiates.sayHello {s : Controller} (h : Negotiates messages s) (hcalls : s.calls = [])
    (hfresh : s.negotiation.isFresh = true) (sessionId : Option Bytes32)
    (deviceKeyId deviceAuth : JsString) :
    Negotiates (messages ++ sentBy (s.sayHello o sessionId deviceKeyId deviceAuth).2)
      (s.sayHello o sessionId deviceKeyId deviceAuth).1 := by
  unfold Controller.sayHello
  dsimp only
  cases hclosed : s.closed with
  | true =>
    rw [if_pos rfl]
    have hnil : messages ++ sentBy [] = messages := List.append_nil messages
    rw [hnil]
    exact h.settled rfl hcalls fun _ => ⟨rfl, (h.closed hclosed).2⟩
  | false =>
    rw [if_neg Bool.false_ne_true, h.fresh hfresh, hcalls]
    refine ⟨fun call hcall => ?_, ⟨fun _ => List.mem_cons_self, fun _ => rfl⟩, fun _ => Or.inl rfl,
      nofun, nofun, fun _ => ⟨_, [], rfl⟩, Or.inr ⟨_, [], rfl⟩⟩
    cases hcall

lemma Negotiates.begin {s : Controller} (h : Negotiates messages s) (hcalls : s.calls = [])
    (hfresh : s.negotiation.isFresh = true) :
    Negotiates (messages ++ sentBy (s.begin o).2) (s.begin o).1 := by
  unfold Controller.begin
  split
  · exact h.sayHello hcalls hfresh _ _ _
  split
  · rw [show sentBy [] = [] from rfl, List.append_nil]
    exact h.settled rfl hcalls h.closed
  · rw [show sentBy [.sign _] = [] from rfl, List.append_nil, h.fresh hfresh, hcalls]
    refine ⟨fun call hcall => ?_, by simp [Negotiation.isSending], fun hack => ?_, h.closed,
      fun _ => rfl, nofun, Or.inl rfl⟩
    · cases hcall
    · rcases hack with hack | hack <;> cases hack

lemma Negotiates.negotiate {s : Controller} (h : Negotiates messages s) (hcalls : s.calls = []) :
    Negotiates (messages ++ sentBy (s.negotiate o).2) (s.negotiate o).1 := by
  have hnil : messages ++ sentBy [] = messages := List.append_nil messages
  unfold Controller.negotiate
  cases hnegotiation : s.negotiation with
  | ready =>
    have hfresh : s.negotiation.isFresh = true := by rw [hnegotiation]; rfl
    dsimp only
    split
    · exact h.begin hcalls hfresh
    split
    · rw [hnil]
      exact h.settled rfl hcalls h.closed
    · rw [hnil]
      exact h
  | signing sessionId signature =>
    have hfresh : s.negotiation.isFresh = true := by rw [hnegotiation]; rfl
    match signature with
    | none =>
      rw [hnil]
      exact h
    | some (.ok signature) => exact h.sayHello hcalls hfresh _ _ _
    | some (.error ()) =>
      rw [hnil]
      exact h.settled rfl hcalls h.closed
  | sending =>
    rw [hnil]
    exact h
  | waiting =>
    have hgreeted := h.greeted (by rw [hnegotiation]; rfl)
    dsimp only
    split
    · rw [hnil]
      exact h
    · rw [hnil]
      exact h.settled rfl hcalls h.closed
    · rw [hnil]
      refine ⟨h.outermost, ?_, fun hack => ?_, h.closed, nofun, fun _ => hgreeted, h.shape⟩
      · simp [hcalls, Negotiation.isSending]
      · rcases hack with hack | hack <;> cases hack
  | settled outcome =>
    rw [hnil]
    exact h

lemma Negotiates.acked {s t : Controller} (h : Negotiates messages s)
    (hnegotiation : t.negotiation = s.negotiation) (hcalls : t.calls = s.calls)
    (hawaiting : t.awaitingHelloAck = false)
    (hack : s.awaitingHelloAck = true ∨ s.ack.isSome = true → t.ack.isSome = true)
    (hclosed : t.closed = true → t.sessionId = none) : Negotiates messages t where
  outermost := by
    rw [hcalls]
    exact h.outermost
  sending := by
    rw [hnegotiation, hcalls]
    exact h.sending
  ack := by
    rw [hnegotiation]
    exact fun hwaiting => Or.inr (hack (h.ack hwaiting))
  closed hc := ⟨hawaiting, hclosed hc⟩
  fresh := by
    rw [hnegotiation]
    exact h.fresh
  greeted := by
    rw [hnegotiation]
    exact h.greeted
  shape := h.shape

lemma Negotiates.handleHelloAck {s : Controller} (h : Negotiates messages s) (payload : Bytes) :
    Negotiates messages (s.handleHelloAck o payload) := by
  unfold Controller.handleHelloAck
  dsimp only
  split
  · exact h.acked rfl rfl rfl (fun _ => by simp [settleAck]) fun hc => (h.closed hc).2
  · exact h.acked rfl rfl rfl (fun _ => by simp [settleAck]) fun hc => (h.closed hc).2

lemma Negotiates.onClose {s : Controller} (h : Negotiates messages s) :
    Negotiates messages s.onClose.1 := by
  cases hclosed : s.closed with
  | true =>
    rw [onClose_closed hclosed]
    exact h
  | false =>
    have hc := closing_onClose hclosed
    refine h.acked hc.negotiation hc.calls hc.awaitingHelloAck (fun hack => ?_)
      fun _ => hc.sessionId
    rw [hc.ack]
    cases hawaiting : s.awaitingHelloAck with
    | true => simp
    | false =>
      rw [hawaiting] at hack
      rcases hack with hack | hack
      · cases hack
      · exact hack

lemma Negotiates.onTimer {s : Controller} (h : Negotiates messages s) :
    Negotiates messages s.onTimer.1 := by
  unfold Controller.onTimer
  split
  · apply Negotiates.onClose
    exact h.acked rfl rfl rfl (fun _ => by simp [settleAck]) fun hc => (h.closed hc).2
  · exact h

lemma Negotiates.signed {s : Controller} (h : Negotiates messages s)
    (signature : Except Unit Bytes) : Negotiates messages (s.signed signature) := by
  unfold Controller.signed
  split
  · next sessionId hnegotiation =>
    split
    · exact h
    · refine ⟨h.outermost, ?_, fun hack => ?_, h.closed, fun _ => ?_, nofun, h.shape⟩
      · rw [← h.sending, hnegotiation]
        simp [Negotiation.isSending]
      · rcases hack with hack | hack <;> cases hack
      · exact h.fresh (by rw [hnegotiation]; rfl)
  · exact h

lemma Negotiates.opened {s : Controller} (h : Negotiates messages s) (sessionId : Bytes32) :
    Negotiates messages (s.opened sessionId) := by
  unfold Controller.opened
  split
  · exact h
  · next hnot =>
    refine ⟨h.outermost, h.sending, h.ack, fun hclosed => ?_, h.fresh, h.greeted, h.shape⟩
    exact absurd (Or.inr hclosed) hnot

lemma Negotiates.emptied {s : Controller} (h : Negotiates messages s)
    (hcalls : s.calls = [.sign]) : Negotiates messages { s with calls := [] } := by
  refine ⟨fun call hcall => ?_, ?_, h.ack, h.closed, h.fresh, h.greeted, h.shape⟩
  · cases hcall
  · rw [h.sending, hcalls]
    simp

lemma Negotiates.callReturned {s : Controller} (h : Negotiates messages s) (outcome : Outcome) :
    Negotiates (messages ++ sentBy (s.callReturned o outcome).2) (s.callReturned o outcome).1 := by
  have hnil : messages ++ sentBy [] = messages := List.append_nil messages
  unfold Controller.callReturned
  cases hcalls : s.calls with
  | nil =>
    rw [hnil]
    exact h
  | cons call calls =>
    have houter : Outermost (call :: calls) := hcalls ▸ h.outermost
    -- a call of other code leaves the rest as it is
    have hother : call ≠ .hello ∧ call ≠ .sign → Negotiates messages { s with calls } := by
      intro hne
      have hhello : Call.hello ∈ calls ↔ Call.hello ∈ s.calls := by
        rw [hcalls, List.mem_cons]
        exact ⟨Or.inr, fun hmem => hmem.resolve_left (Ne.symm hne.1)⟩
      exact ⟨houter.pop, h.sending.trans hhello.symm, h.ack, h.closed, h.fresh, h.greeted, h.shape⟩
    cases call with
    | sign =>
      have hempty : calls = [] := houter.alone (Or.inr rfl)
      subst hempty
      have hpopped := h.emptied hcalls
      cases outcome with
      | threw =>
        rw [hnil]
        exact h.settled rfl rfl h.closed
      | returned =>
        rw [hnil]
        exact hpopped
      | signature bytes =>
        dsimp only
        split
        · next sessionId hnegotiation =>
          rw [hnil]
          refine ⟨hpopped.outermost, ?_, fun hack => ?_, h.closed, fun _ => ?_, nofun, h.shape⟩
          · simp [Negotiation.isSending]
          · rcases hack with hack | hack <;> cases hack
          · exact h.fresh (by rw [hnegotiation]; rfl)
        · rw [hnil]
          exact hpopped
    | hello =>
      have hempty : calls = [] := houter.alone (Or.inl rfl)
      subst hempty
      have hsending : s.negotiation.isSending = true :=
        h.sending.2 (by rw [hcalls]; exact List.mem_cons_self)
      have hgreeted : s.negotiation.isGreeted = true := by
        cases hnegotiation : s.negotiation with
        | sending => rfl
        | ready => rw [hnegotiation] at hsending; cases hsending
        | signing sessionId signature => rw [hnegotiation] at hsending; cases hsending
        | waiting => rw [hnegotiation] at hsending; cases hsending
        | settled outcome => rw [hnegotiation] at hsending; cases hsending
      have hwaiting : Negotiates messages { s with calls := [], negotiation := .waiting } := by
        refine ⟨fun call hcall => ?_, by simp [Negotiation.isSending],
          fun _ => h.ack (Or.inr hsending), h.closed, nofun, fun _ => h.greeted hgreeted, h.shape⟩
        cases hcall
      cases outcome with
      | threw =>
        rw [hnil]
        exact h.settled rfl rfl fun hc => ⟨rfl, (h.closed hc).2⟩
      | returned =>
        rw [hnil]
        exact hwaiting
      | signature bytes =>
        rw [hnil]
        exact hwaiting
    | request r =>
      have hpopped := hother ⟨nofun, nofun⟩
      cases outcome with
      | threw =>
        rw [hnil]
        exact hpopped.same ⟨rfl, rfl, rfl, rfl, rfl, Or.inl rfl⟩
      | returned =>
        rw [hnil]
        exact hpopped
      | signature bytes =>
        rw [hnil]
        exact hpopped
    | listeners k event =>
      have hpopped := hother ⟨nofun, nofun⟩
      have hdelivered : Negotiates
          (messages ++ sentBy (({ s with calls }).onStream k fun stream => stream.deliver event).2)
          (({ s with calls }).onStream k fun stream => stream.deliver event).1 := by
        rw [sentBy_onStream, List.append_nil]
        exact hpopped.same (sameNegotiation_onStream _ _ _)
      cases outcome with
      | threw =>
        rw [hnil]
        exact hpopped
      | returned => exact hdelivered
      | signature bytes => exact hdelivered

lemma Negotiates.resume {s : Controller} (h : Negotiates messages s) (r : ℕ) :
    Negotiates (messages ++ sentBy (s.resume o r).2) (s.resume o r).1 := by
  have hnil : messages ++ sentBy [] = messages := List.append_nil messages
  unfold Controller.resume
  split
  · rw [hnil]
    exact h
  next request _ =>
  split
  · next outcome _ hnegotiation =>
    rcases s.resumeSend_cases r request outcome with ⟨error, heq⟩ | ⟨active, params, rfl, -, heq⟩
    · rw [heq, hnil]
      exact h.same ⟨rfl, rfl, rfl, rfl, rfl, Or.inl rfl⟩
    · rw [heq]
      have hsame := h.same (s := s) (t := { s with
        requests := s.requests.modify r fun request =>
          { request with progress := .sent (o.newRequestId r) }
        pending := s.pending.set (o.newRequestId r) r
        calls := .request r :: s.calls })
        ⟨rfl, rfl, rfl, rfl, rfl, Or.inr ⟨.request r, ⟨nofun, nofun⟩, rfl⟩⟩
      have hgreeted : Greeted messages := h.greeted (by rw [hnegotiation]; rfl)
      have hmore := hgreeted.append ⟨o.newRequestId r, request.purpose.method.name, some params⟩
      refine ⟨hsame.outermost, hsame.sending, hsame.ack, hsame.closed, fun hfresh => ?_,
        fun _ => hmore, Or.inr hmore⟩
      rw [hnegotiation] at hfresh
      cases hfresh
  · split
    · rw [sentBy_runCleanup, List.append_nil]
      exact h.same (sameNegotiation_runCleanup s r _)
    · rw [hnil]
      exact h
  · rw [hnil]
    exact h

lemma Negotiates.onControl {s : Controller} (h : Negotiates messages s) (payload : Bytes) :
    Negotiates messages (s.onControl o payload) := by
  unfold Controller.onControl
  split
  · exact h.handleHelloAck payload
  split
  · exact h
  next response _ =>
  split
  · exact h
  have herased : Negotiates messages { s with pending := s.pending.erase response.id } :=
    h.same ⟨rfl, rfl, rfl, rfl, rfl, Or.inl rfl⟩
  dsimp only
  split
  · exact herased
  · exact herased.same (sameNegotiation_answer o _ _ _ _)

lemma Negotiates.react {s : Controller} (h : Negotiates messages s) (e : ControllerEvent) :
    Negotiates (messages ++ sentBy (s.react o e).2) (s.react o e).1 := by
  have hnil : messages ++ sentBy [] = messages := List.append_nil messages
  cases e with
  | opened sessionId =>
    simp only [Controller.react, hnil]
    exact h.opened sessionId
  | control payload =>
    simp only [Controller.react]
    split
    · rw [hnil]
      exact h.onControl payload
    · rw [hnil]
      exact h
  | binary payload =>
    simp only [Controller.react]
    split
    · rw [sentBy_onBinary, List.append_nil]
      exact h.same (sameNegotiation_onBinary s payload)
    · rw [hnil]
      exact h
  | close =>
    simp only [Controller.react, sentBy_onClose, List.append_nil]
    exact h.onClose
  | request method params =>
    simp only [Controller.react, hnil]
    exact h.same ⟨rfl, rfl, rfl, rfl, rfl, Or.inl rfl⟩
  | subscribe ref viewport =>
    simp only [Controller.react, hnil]
    exact h.same ⟨rfl, rfl, rfl, rfl, rfl, Or.inl rfl⟩
  | unsubscribe ref =>
    simp only [Controller.react, hnil]
    exact h.same (sameNegotiation_unsubscribe s ref)
  | next k read =>
    simp only [Controller.react, sentBy_onStream, List.append_nil]
    exact h.same (sameNegotiation_onStream s k _)
  | callReturned outcome => exact h.callReturned outcome
  | signed signature =>
    simp only [Controller.react, hnil]
    exact h.signed signature
  | timer =>
    have hsent : sentBy s.onTimer.2 = [] := by
      unfold Controller.onTimer
      split
      · exact sentBy_onClose _
      · rfl
    simp only [Controller.react, hsent, List.append_nil]
    exact h.onTimer
  | negotiate =>
    simp only [Controller.react]
    split
    · next hcalls => exact h.negotiate hcalls
    · rw [hnil]
      exact h
  | resume r =>
    simp only [Controller.react]
    split
    · exact h.resume r
    · rw [hnil]
      exact h

end Controller

end Pherry.Sdk
