import Pherry.Cli.DaemonResults
import Pherry.Cli.Open

/-!
# One agent for one launch

The claims of a desk, as a launch sees them: one that has begun goes on to a session or fails, and
nobody else claims what was reserved for the launch. A run of `runOpen` falls back or is attached to
the one session of its reservation, where its connection does not drop between a claim and the answer.
-/

namespace Pherry.Cli

open Lib Host Protocol

/-! ## Claims at a desk -/

/-- A spawn of the reference that is in flight or came to a session. -/
def Lives (ref : SessionRef) : OpenCall CustodySpec → Bool
  | .spawning _ r _ => r = ref
  | .opened _ r => r = ref
  | .refused _ => false
  | .failing _ => false
  | .failed _ => false

/-- A claim of the reference, however far it is. -/
def ClaimOf (ref : SessionRef) : OpenCall CustodySpec → Prop
  | .spawning claim r _ => claim = true ∧ r = ref
  | .opened claim r => claim = true ∧ r = ref
  | .refused _ => True
  | .failing r => r = ref
  | .failed r => r = ref

/-- How a call goes on. -/
inductive GoesOn : OpenCall CustodySpec → OpenCall CustodySpec → Prop
  | stays (c) : GoesOn c c
  | opened (claim ref session) : GoesOn (.spawning claim ref session) (.opened claim ref)
  | failing (claim ref session) : GoesOn (.spawning claim ref session) (.failing ref)
  | failed (claim ref session) : GoesOn (.spawning claim ref session) (.failed ref)
  | caught (ref) : GoesOn (.failing ref) (.failed ref)

lemma GoesOn.lives {c c' : OpenCall CustodySpec} (h : GoesOn c c') {ref : SessionRef}
    (hlives : Lives ref c' = true) : Lives ref c = true := by
  cases h with
  | stays => exact hlives
  | opened claim r session => exact hlives
  | failing claim r session => cases hlives
  | failed claim r session => cases hlives
  | caught r => cases hlives

lemma GoesOn.claimOf {c c' : OpenCall CustodySpec} (h : GoesOn c c') {ref : SessionRef}
    (hclaim : ClaimOf ref c) : ClaimOf ref c' := by
  cases h with
  | stays => exact hclaim
  | opened claim r session => exact hclaim
  | failing claim r session => exact hclaim.2
  | failed claim r session => exact hclaim.2
  | caught r => exact hclaim

lemma GoesOn.of_opened {c' : OpenCall CustodySpec} {claim : Bool} {ref : SessionRef}
    (h : GoesOn (.opened claim ref) c') : c' = .opened claim ref := by
  cases h
  rfl

/-- What an event does to the calls at a desk. -/
inductive CallsStep (calls : List (OpenCall CustodySpec)) (claimed : Option SessionRef) :
    List (OpenCall CustodySpec) → Prop
  | same : CallsStep calls claimed calls
  | begun (ref : SessionRef) (c : OpenCall CustodySpec) (hclaimed : claimed = some ref)
      (hc : ClaimOf ref c) : CallsStep calls claimed (calls ++ [c])
  | moved (i : ℕ) (c c' : OpenCall CustodySpec) (hc : calls[i]? = some c) (hgoes : GoesOn c c') :
      CallsStep calls claimed (calls.set i c')

/-- The reference that an event claims. -/
def DaemonEvent.claimed : DaemonEvent → Option SessionRef
  | .claim ref => some ref
  | _ => none

lemma goesOn_settle (desk : CustodyDesk CustodySpec) (handle : Bool) (c : OpenCall CustodySpec) :
    GoesOn c (desk.settle handle c).2 := by
  cases c with
  | spawning claim ref session =>
    rw [CustodyDesk.settle]
    split
    · exact .opened claim ref session
    · cases claim with
      | true => exact .failing true ref session
      | false => exact .failed false ref session
  | _ => exact .stays _

lemma goesOn_caught (desk : CustodyDesk CustodySpec) (c : OpenCall CustodySpec) :
    GoesOn c (desk.caught c).2 := by
  cases c with
  | failing ref => exact .caught ref
  | _ => exact .stays _

lemma claimOf_claimOpenSession (desk : CustodyDesk CustodySpec) (ref : SessionRef)
    (options : OpenSessionOptions) : ClaimOf ref (desk.claimOpenSession ref options).2 := by
  unfold CustodyDesk.claimOpenSession
  split
  · trivial
  · split
    · trivial
    · split
      · trivial
      · exact ⟨rfl, rfl⟩

section Calls

variable {σ : Type} (em : Emulator σ) (newSessionRef : ℕ → SessionRef) (d : Daemon σ)

lemma calls_reserve (spec : CustodySpec) :
    (d.reserve newSessionRef spec).custody.calls = d.custody.calls := by
  unfold Daemon.reserve
  simp only [Custody.react]
  split <;> rfl

lemma calls_claim (ref : SessionRef) : ∃ c, ClaimOf ref c ∧
    (d.claim newSessionRef ref).custody.calls = d.custody.calls ++ [c] :=
  ⟨_, claimOf_claimOpenSession d.desk.shared ref ⟨none, none, some d.nextStreamId⟩, rfl⟩

lemma callsStep_advance (desk : Custody CustodySpec) (i : ℕ) (claimed : Option SessionRef)
    {f : CustodyDesk CustodySpec → OpenCall CustodySpec → CustodyDesk CustodySpec × OpenCall CustodySpec}
    (hf : ∀ desk c, GoesOn c (f desk c).2) : CallsStep desk.calls claimed (desk.advance i f).calls := by
  refine Concurrent.advance_induction (p := fun s => CallsStep desk.calls claimed s.calls) .same
    fun c hc => ?_
  exact .moved i c _ hc (hf _ _)

lemma callsStep_react (e : DaemonEvent) :
    CallsStep d.custody.calls e.claimed (d.react em newSessionRef e).custody.calls := by
  cases e with
  | clock now => exact .same
  | reserve spec =>
    rw [Daemon.react, calls_reserve]
    exact .same
  | launch w params =>
    rw [Daemon.react]
    split
    · exact .same
    · rw [calls_reserve]
      exact .same
  | claim ref =>
    obtain ⟨c, hclaim, hcalls⟩ := calls_claim newSessionRef d ref
    rw [Daemon.react, hcalls]
    exact .begun ref c rfl hclaim
  | settle call handle =>
    have hcalls : (d.settle em newSessionRef call handle).custody
        = (d.desk.react newSessionRef (.settle call handle)).1 := by
      unfold Daemon.settle
      dsimp only
      split <;> rfl
    rw [Daemon.react, hcalls]
    exact callsStep_advance d.desk call _ fun desk c => goesOn_settle desk handle c
  | caught call => exact callsStep_advance d.desk call _ goesOn_caught
  | session ref e =>
    rw [Daemon.react]
    unfold Daemon.onSession
    split <;> exact .same
  | ended ref => exact .same

end Calls

/-! ## What a step keeps -/

/-- No call of the reference lives. -/
def Dead (calls : List (OpenCall CustodySpec)) (ref : SessionRef) : Prop :=
  ∀ (i : ℕ) (c : OpenCall CustodySpec), calls[i]? = some c → Lives ref c = false

/-- No other call of the reference lives. -/
def Only (calls : List (OpenCall CustodySpec)) (ref : SessionRef) (i : ℕ) : Prop :=
  ∀ (j : ℕ) (c : OpenCall CustodySpec), calls[j]? = some c → Lives ref c = true → j = i

lemma Only.dead {calls : List (OpenCall CustodySpec)} {ref : SessionRef} {i : ℕ}
    (h : Only calls ref i) {c : OpenCall CustodySpec} (hc : calls[i]? = some c)
    (hlives : Lives ref c = false) : Dead calls ref := by
  intro j c' hc'
  rw [Bool.eq_false_iff]
  intro hnow
  obtain rfl := h j c' hc' hnow
  rw [hc] at hc'
  cases hc'
  rw [hlives] at hnow
  cases hnow

section Steps

variable {calls calls' : List (OpenCall CustodySpec)} {claimed : Option SessionRef} {ref : SessionRef}

lemma CallsStep.lived (h : CallsStep calls claimed calls') (hclaimed : claimed ≠ some ref) {j : ℕ}
    {c' : OpenCall CustodySpec} (hc' : calls'[j]? = some c') (hlives : Lives ref c' = true) :
    ∃ c, calls[j]? = some c ∧ Lives ref c = true := by
  cases h with
  | same => exact ⟨c', hc', hlives⟩
  | begun r c hr hclaim =>
    rcases getElem?_snoc hc' with hold | ⟨-, rfl⟩
    · exact ⟨c', hold, hlives⟩
    · exfalso
      apply hclaimed
      rw [hr]
      cases c' with
      | spawning claim r' session => rw [← hclaim.2, of_decide_eq_true hlives]
      | opened claim r' => rw [← hclaim.2, of_decide_eq_true hlives]
      | refused error => cases hlives
      | failing r' => cases hlives
      | failed r' => cases hlives
  | moved i c d hc hgoes =>
    rcases getElem?_set_cases hc' with ⟨rfl, rfl⟩ | ⟨-, hold⟩
    · exact ⟨c, hc, hgoes.lives hlives⟩
    · exact ⟨c', hold, hlives⟩

lemma Dead.step (h : Dead calls ref) (hstep : CallsStep calls claimed calls')
    (hclaimed : claimed ≠ some ref) : Dead calls' ref := by
  intro j c' hc'
  rw [Bool.eq_false_iff]
  intro hlives
  obtain ⟨c, hc, hlived⟩ := hstep.lived hclaimed hc' hlives
  rw [h j c hc] at hlived
  cases hlived

lemma Only.step {i : ℕ} (h : Only calls ref i) (hstep : CallsStep calls claimed calls')
    (hclaimed : claimed ≠ some ref) : Only calls' ref i := by
  intro j c' hc' hlives
  obtain ⟨c, hc, hlived⟩ := hstep.lived hclaimed hc' hlives
  exact h j c hc hlived

lemma CallsStep.goesOn (h : CallsStep calls claimed calls') {i : ℕ} {c : OpenCall CustodySpec}
    (hc : calls[i]? = some c) : ∃ c', calls'[i]? = some c' ∧ GoesOn c c' := by
  cases h with
  | same => exact ⟨c, hc, .stays c⟩
  | begun r d hr hclaim =>
    exact ⟨c, (List.getElem?_append_left (List.getElem?_eq_some_iff.1 hc).1).trans hc, .stays c⟩
  | moved j d d' hd hgoes =>
    by_cases hji : j = i
    · subst hji
      rw [hc] at hd
      cases hd
      exact ⟨d', List.getElem?_set_self (List.getElem?_eq_some_iff.1 hc).1, hgoes⟩
    · exact ⟨c, (List.getElem?_set_ne hji).trans hc, .stays c⟩

end Steps

/-! ## The launch -/

namespace Opening

variable {σ : Type} {em : Emulator σ} {newSessionRef : ℕ → SessionRef} {execFallback : JsString}
  {args : List JsString}

/-- The calls at the desk. -/
def calls (s : Opening σ) : List (OpenCall CustodySpec) := s.daemon.custody.calls

/-- A request that claims. -/
def isClaim : CustodyRequest → Bool
  | .claim _ => true
  | .reserve _ => false

/-- The client's end closes on a claim only where the claim is lost or has failed; nobody else claims
what was reserved for the launch, and a reference that is drawn for it is new. -/
def heeds (newSessionRef : ℕ → SessionRef) (s : Opening σ) :
    OpeningEvent execFallback args → Bool
  | .clientClosed =>
    match s.stage with
    | .claiming ref => !(s.hostOpen && s.requests.any isClaim) && s.calls.all fun c => !Lives ref c
    | _ => true
  | .toHost =>
    match s.requests with
    | .reserve _ :: _ => s.calls.all fun c => !Lives (newSessionRef s.daemon.custody.shared.drawn) c
    | _ => true
  | .daemon e => e.claimed.all fun ref => decide (ref ∉ s.reserved)
  | _ => true

/-- Where a launch is that has yet to claim, is claiming, or has come to its end. -/
inductive Custodied (execFallback : JsString) (args : List JsString) (s : Opening σ) : Prop
  | connecting (hstage : s.stage = .connecting) (hrequests : s.requests = [])
      (hreplies : s.replies = []) (hawaited : s.awaited = []) (hreserved : s.reserved = [])
      (hfallbacks : s.fallbacks = [])
  | reserving (hstage : s.stage = .reserving) (hawaited : s.awaited = []) (hfallbacks : s.fallbacks = [])
      (hasked : ((∃ spec, s.requests = [.reserve spec]) ∨ s.requests = []) ∧
          s.replies = [] ∧ s.reserved = [] ∨
        ∃ ref, s.requests = [] ∧ s.reserved = [ref] ∧ Dead s.calls ref ∧
          (s.replies = [] ∨ s.replies = [.reserved ref]))
  | asked (ref : SessionRef) (hstage : s.stage = .claiming ref) (hawaited : s.awaited = [])
      (hfallbacks : s.fallbacks = []) (hrequests : s.requests = [.claim ref] ∨ s.requests = [])
      (hreplies : s.replies = []) (hreserved : s.reserved = [ref]) (hdead : Dead s.calls ref)
  | spawning (ref : SessionRef) (i : ℕ) (c : OpenCall CustodySpec) (hstage : s.stage = .claiming ref)
      (hawaited : s.awaited = [i] ∨ s.awaited = []) (hfallbacks : s.fallbacks = [])
      (hrequests : s.requests = []) (hreserved : s.reserved = [ref]) (hreplies : s.replies = [])
      (hc : s.calls[i]? = some c) (hclaim : ClaimOf ref c) (honly : Only s.calls ref i)
  | answered (ref : SessionRef) (i : ℕ) (c : OpenCall CustodySpec) (reply : CustodyReply)
      (hstage : s.stage = .claiming ref) (hawaited : s.awaited = []) (hfallbacks : s.fallbacks = [])
      (hrequests : s.requests = []) (hreserved : s.reserved = [ref]) (hreplies : s.replies = [reply])
      (hc : s.calls[i]? = some c) (hclaim : ClaimOf ref c) (hreply : replyOf c = some reply)
      (honly : Only s.calls ref i)
  | attached (ref : SessionRef) (i : ℕ) (hstage : s.stage = .attached ref) (hawaited : s.awaited = [])
      (hfallbacks : s.fallbacks = []) (hrequests : s.requests = []) (hreserved : s.reserved = [ref])
      (hc : s.calls[i]? = some (.opened true ref)) (honly : Only s.calls ref i)
  | failedOpen (hstage : s.stage = .failedOpen) (hfallbacks : s.fallbacks = [(execFallback, args)])
      (hrequests : s.hostOpen = true → s.requests.any isClaim = false)
      (hdead : ∀ ref ∈ s.reserved, Dead s.calls ref)

lemma GoesOn.of_replyOf {c c' : OpenCall CustodySpec} (h : GoesOn c c') {reply : CustodyReply}
    (hreply : replyOf c = some reply) : c' = c := by
  cases h with
  | stays => rfl
  | opened claim ref session => cases hreply
  | failing claim ref session => cases hreply
  | failed claim ref session => cases hreply
  | caught ref => cases hreply

lemma not_lives_of_failed {c : OpenCall CustodySpec} {code : ErrorCode} (ref : SessionRef)
    (h : replyOf c = some (.failed code)) : Lives ref c = false := by
  cases c with
  | opened claim r => cases h
  | _ => first | rfl | cases h

lemma opened_of_claimed {c : OpenCall CustodySpec} {ref : SessionRef} (hclaim : ClaimOf ref c)
    (h : replyOf c = some .claimed) : c = .opened true ref := by
  cases c with
  | opened claim r => rw [hclaim.1, hclaim.2]
  | _ => cases h

lemma replyOf_ne_reserved {c : OpenCall CustodySpec} {ref : SessionRef} :
    replyOf c ≠ some (.reserved ref) := by
  cases c <;> simp [replyOf]

variable {s : Opening σ}

lemma Custodied.init (daemon : Daemon σ) :
    Custodied execFallback args (openingMachine em newSessionRef execFallback args daemon).init :=
  .connecting rfl rfl rfl rfl rfl rfl

/-- A run falls back where nothing of its reservation lives and no claim reaches the host. -/
lemma custodied_failOpen (hfallbacks : s.fallbacks = [])
    (hrequests : s.hostOpen = true → s.requests.any isClaim = false)
    (hdead : ∀ ref ∈ s.reserved, Dead s.calls ref) :
    Custodied execFallback args (s.failOpen execFallback args) := by
  refine .failedOpen rfl ?_ hrequests hdead
  rw [failOpen, hfallbacks]
  rfl

lemma Custodied.connect (h : Custodied execFallback args s)
    (w : Option { w : Surroundings // (buildSpec execFallback args w).Valid }) :
    Custodied execFallback args (s.connect execFallback args w) := by
  unfold Opening.connect
  split
  · next hconnecting =>
    cases h with
    | connecting hstage hrequests hreplies hawaited hreserved hfallbacks =>
      cases w with
      | none =>
        refine custodied_failOpen hfallbacks (fun _ => ?_) fun ref href => ?_
        · rw [hrequests]
          rfl
        · rw [hreserved] at href
          cases href
      | some w =>
        refine .reserving rfl hawaited hfallbacks (.inl ⟨.inl ⟨⟨_, w.2⟩, ?_⟩, hreplies, hreserved⟩)
        show s.requests ++ _ = _
        rw [hrequests]
        rfl
    | reserving hstage => rw [hstage] at hconnecting; cases hconnecting
    | asked ref hstage => rw [hstage] at hconnecting; cases hconnecting
    | spawning ref i c hstage => rw [hstage] at hconnecting; cases hconnecting
    | answered ref i c reply hstage => rw [hstage] at hconnecting; cases hconnecting
    | attached ref i hstage => rw [hstage] at hconnecting; cases hconnecting
    | failedOpen hstage => rw [hstage] at hconnecting; cases hconnecting
  · exact h

lemma Custodied.clientClosed (h : Custodied execFallback args s)
    (hheeds : heeds newSessionRef s (.clientClosed : OpeningEvent execFallback args) = true) :
    Custodied execFallback args (s.clientClosed execFallback args) := by
  -- a claim that is pending is lost or has failed
  have hclaiming : ∀ ref, s.stage = .claiming ref → s.reserved = [ref] → s.fallbacks = [] →
      Custodied execFallback args (s.clientClosed execFallback args) := by
    intro ref hstage hreserved hfallbacks
    simp only [heeds, hstage, Bool.and_eq_true, Bool.not_eq_true', List.all_eq_true] at hheeds
    rw [Opening.clientClosed, hstage]
    refine custodied_failOpen hfallbacks (fun hopen => ?_) fun r hr => ?_
    · rw [hopen, Bool.true_and] at hheeds
      exact hheeds.1
    · rw [hreserved, List.mem_singleton] at hr
      subst hr
      exact fun i c hc => hheeds.2 c (List.mem_of_getElem? hc)
  cases h with
  | connecting hstage hrequests hreplies hawaited hreserved hfallbacks =>
    rw [Opening.clientClosed, hstage]
    exact .connecting hstage hrequests hreplies hawaited hreserved hfallbacks
  | reserving hstage hawaited hfallbacks hasked =>
    rw [Opening.clientClosed, hstage]
    rcases hasked with ⟨hrequests, -, hreserved⟩ | ⟨ref, hrequests, hreserved, hdead, -⟩
    · refine custodied_failOpen hfallbacks (fun _ => ?_) fun ref href => ?_
      · rcases hrequests with ⟨spec, hrequests⟩ | hrequests <;> rw [hrequests] <;> rfl
      · rw [hreserved] at href
        cases href
    · refine custodied_failOpen hfallbacks (fun _ => ?_) fun r hr => ?_
      · rw [hrequests]
        rfl
      · rw [hreserved, List.mem_singleton] at hr
        rw [hr]
        exact hdead
  | asked ref hstage _ hfallbacks _ _ hreserved => exact hclaiming ref hstage hreserved hfallbacks
  | spawning ref i c hstage _ hfallbacks _ hreserved => exact hclaiming ref hstage hreserved hfallbacks
  | answered ref i c reply hstage _ hfallbacks _ hreserved =>
    exact hclaiming ref hstage hreserved hfallbacks
  | attached ref i hstage hawaited hfallbacks hrequests hreserved hc honly =>
    rw [Opening.clientClosed, hstage]
    exact .attached ref i hstage hawaited hfallbacks hrequests hreserved hc honly
  | failedOpen hstage hfallbacks hrequests hdead =>
    rw [Opening.clientClosed, hstage]
    exact .failedOpen hstage hfallbacks hrequests hdead

lemma Custodied.hostClosed (h : Custodied execFallback args s) :
    Custodied execFallback args { s with
      hostOpen := false
      requests := [] } := by
  cases h with
  | connecting hstage hrequests hreplies hawaited hreserved hfallbacks =>
    exact .connecting hstage rfl hreplies hawaited hreserved hfallbacks
  | reserving hstage hawaited hfallbacks hasked =>
    refine .reserving hstage hawaited hfallbacks ?_
    rcases hasked with ⟨-, hreplies, hreserved⟩ | ⟨ref, -, hrest⟩
    · exact .inl ⟨.inr rfl, hreplies, hreserved⟩
    · exact .inr ⟨ref, rfl, hrest⟩
  | asked ref hstage hawaited hfallbacks hrequests hreplies hreserved hdead =>
    exact .asked ref hstage hawaited hfallbacks (.inr rfl) hreplies hreserved hdead
  | spawning ref i c hstage hawaited hfallbacks hrequests hreserved hreplies hc hclaim honly =>
    exact .spawning ref i c hstage hawaited hfallbacks rfl hreserved hreplies hc hclaim honly
  | answered ref i c reply hstage hawaited hfallbacks hrequests hreserved hreplies hc hclaim hreply honly =>
    exact .answered ref i c reply hstage hawaited hfallbacks rfl hreserved hreplies hc hclaim hreply honly
  | attached ref i hstage hawaited hfallbacks hrequests hreserved hc honly =>
    exact .attached ref i hstage hawaited hfallbacks rfl hreserved hc honly
  | failedOpen hstage hfallbacks hrequests hdead =>
    exact .failedOpen hstage hfallbacks (fun hopen => Bool.noConfusion hopen) hdead

lemma Custodied.daemon (h : Custodied execFallback args s) (e : DaemonEvent)
    (hheeds : heeds newSessionRef s (.daemon e : OpeningEvent execFallback args) = true) :
    Custodied execFallback args { s with daemon := s.daemon.react em newSessionRef e } := by
  have hstep := callsStep_react em newSessionRef s.daemon e
  have hclaimed : ∀ ref ∈ s.reserved, e.claimed ≠ some ref := by
    intro ref href heq
    simp only [heeds, heq, Option.all_some, decide_eq_true_eq] at hheeds
    exact hheeds href
  have hself : ∀ {ref}, s.reserved = [ref] → e.claimed ≠ some ref :=
    fun hreserved => hclaimed _ (by rw [hreserved]; exact List.mem_singleton_self _)
  cases h with
  | connecting hstage hrequests hreplies hawaited hreserved hfallbacks =>
    exact .connecting hstage hrequests hreplies hawaited hreserved hfallbacks
  | reserving hstage hawaited hfallbacks hasked =>
    refine .reserving hstage hawaited hfallbacks ?_
    rcases hasked with hearly | ⟨ref, hrequests, hreserved, hdead, hreplies⟩
    · exact .inl hearly
    · exact .inr ⟨ref, hrequests, hreserved, hdead.step hstep (hself hreserved), hreplies⟩
  | asked ref hstage hawaited hfallbacks hrequests hreplies hreserved hdead =>
    exact .asked ref hstage hawaited hfallbacks hrequests hreplies hreserved
      (hdead.step hstep (hself hreserved))
  | spawning ref i c hstage hawaited hfallbacks hrequests hreserved hreplies hc hclaim honly =>
    obtain ⟨c', hc', hgoes⟩ := hstep.goesOn hc
    exact .spawning ref i c' hstage hawaited hfallbacks hrequests hreserved hreplies hc'
      (hgoes.claimOf hclaim) (honly.step hstep (hself hreserved))
  | answered ref i c reply hstage hawaited hfallbacks hrequests hreserved hreplies hc hclaim hreply honly =>
    obtain ⟨c', hc', hgoes⟩ := hstep.goesOn hc
    obtain rfl := GoesOn.of_replyOf hgoes hreply
    exact .answered ref i _ reply hstage hawaited hfallbacks hrequests hreserved hreplies hc' hclaim
      hreply (honly.step hstep (hself hreserved))
  | attached ref i hstage hawaited hfallbacks hrequests hreserved hc honly =>
    obtain ⟨c', hc', hgoes⟩ := hstep.goesOn hc
    obtain rfl := hgoes.of_opened
    exact .attached ref i hstage hawaited hfallbacks hrequests hreserved hc'
      (honly.step hstep (hself hreserved))
  | failedOpen hstage hfallbacks hrequests hdead =>
    exact .failedOpen hstage hfallbacks hrequests fun ref href =>
      (hdead ref href).step hstep (hclaimed ref href)

lemma send_cases (s : Opening σ) (reply : CustodyReply) :
    s.send reply = s ∨ s.send reply = { s with replies := s.replies ++ [reply] } := by
  unfold send
  split
  · exact .inr rfl
  · exact .inl rfl

lemma Custodied.answer (h : Custodied execFallback args s) : Custodied execFallback args s.answer := by
  have hidle : s.awaited = [] → Custodied execFallback args s.answer := by
    intro hawaited
    rw [Opening.answer, hawaited]
    exact h
  cases h with
  | connecting _ _ _ hawaited => exact hidle hawaited
  | reserving _ hawaited => exact hidle hawaited
  | asked ref _ hawaited => exact hidle hawaited
  | answered ref i c reply _ hawaited => exact hidle hawaited
  | attached ref i _ hawaited => exact hidle hawaited
  | spawning ref i c hstage hawaited hfallbacks hrequests hreserved hreplies hc hclaim honly =>
    rcases hawaited with hawaited | hawaited
    · have hcall : s.daemon.custody.calls[i]? = some c := hc
      rw [Opening.answer, hawaited]
      simp only [hcall, Option.bind_some]
      cases hreply : replyOf c with
      | none =>
        exact .spawning ref i c hstage (.inl hawaited) hfallbacks hrequests hreserved hreplies hc hclaim
          honly
      | some reply =>
        rcases send_cases { s with awaited := [] } reply with hsend | hsend
        · simp only [hsend]
          exact .spawning ref i c hstage (.inr rfl) hfallbacks hrequests hreserved hreplies hc hclaim honly
        · simp only [hsend]
          refine .answered ref i c reply hstage rfl hfallbacks hrequests hreserved ?_ hc hclaim hreply honly
          show s.replies ++ [reply] = [reply]
          rw [hreplies]
          rfl
    · exact hidle hawaited
  | failedOpen hstage hfallbacks hrequests hdead =>
    unfold Opening.answer
    split
    · exact .failedOpen hstage hfallbacks hrequests hdead
    · next call awaited _ =>
      split
      · exact .failedOpen hstage hfallbacks hrequests hdead
      · next reply _ =>
        rcases send_cases { s with awaited } reply with hsend | hsend
        · rw [hsend]
          exact .failedOpen hstage hfallbacks hrequests hdead
        · rw [hsend]
          exact .failedOpen hstage hfallbacks hrequests hdead

lemma Custodied.toHost (h : Custodied execFallback args s)
    (hheeds : heeds newSessionRef s (.toHost : OpeningEvent execFallback args) = true) :
    Custodied execFallback args (s.step em newSessionRef execFallback args .toHost) := by
  have hnone : s.requests = [] →
      Custodied execFallback args (s.step em newSessionRef execFallback args .toHost) := by
    intro hrequests
    rw [Opening.step, hrequests]
    exact h
  -- a reservation with a new reference
  have hfresh : ∀ spec rest, s.requests = .reserve spec :: rest →
      Dead (s.daemon.reserve newSessionRef spec).custody.calls
        (newSessionRef s.daemon.custody.shared.drawn) := by
    intro spec rest hrequests i c hc
    rw [calls_reserve] at hc
    simp only [heeds, hrequests, List.all_eq_true, Bool.not_eq_true'] at hheeds
    exact hheeds c (List.mem_of_getElem? hc)
  cases h with
  | connecting _ hrequests => exact hnone hrequests
  | spawning ref i c _ _ _ hrequests => exact hnone hrequests
  | answered ref i c reply _ _ _ hrequests => exact hnone hrequests
  | attached ref i _ _ _ hrequests => exact hnone hrequests
  | reserving hstage hawaited hfallbacks hasked =>
    rcases hasked with ⟨⟨spec, hrequests⟩ | hrequests, hreplies, hreserved⟩ | ⟨ref, hrequests, -⟩
    · have hdead := hfresh spec [] hrequests
      rw [Opening.step, hrequests]
      dsimp only
      split
      · have hnow : onRequest newSessionRef { s with requests := [] } (.reserve spec) =
            Opening.send { s with
              requests := []
              daemon := s.daemon.reserve newSessionRef spec
              reserved := s.reserved ++ [newSessionRef s.daemon.custody.shared.drawn] }
              (.reserved (newSessionRef s.daemon.custody.shared.drawn)) := rfl
        have hone : s.reserved ++ [newSessionRef s.daemon.custody.shared.drawn] =
            [newSessionRef s.daemon.custody.shared.drawn] := by
          rw [hreserved]
          rfl
        rw [hnow]
        rcases send_cases _ _ with hsend | hsend
        · rw [hsend]
          exact .reserving hstage hawaited hfallbacks (.inr ⟨_, rfl, hone, hdead, .inl hreplies⟩)
        · rw [hsend]
          refine .reserving hstage hawaited hfallbacks (.inr ⟨_, rfl, hone, hdead, .inr ?_⟩)
          show s.replies ++ [_] = [_]
          rw [hreplies]
          rfl
      · exact .reserving hstage hawaited hfallbacks (.inl ⟨.inr rfl, hreplies, hreserved⟩)
    · exact hnone hrequests
    · exact hnone hrequests
  | asked ref hstage hawaited hfallbacks hrequests hreplies hreserved hdead =>
    rcases hrequests with hrequests | hrequests
    · rw [Opening.step, hrequests]
      dsimp only
      split
      · obtain ⟨c, hclaim, hcalls⟩ := calls_claim newSessionRef s.daemon ref
        refine .spawning ref s.calls.length c hstage (.inl ?_) hfallbacks rfl hreserved hreplies ?_ hclaim
          ?_
        · show s.awaited ++ [s.daemon.custody.calls.length] = _
          rw [hawaited]
          rfl
        · show (s.daemon.claim newSessionRef ref).custody.calls[s.calls.length]? = _
          rw [hcalls]
          exact List.getElem?_concat_length
        · intro j c' hc' hlives
          have hnow : (s.daemon.custody.calls ++ [c])[j]? = some c' := by
            rw [← hcalls]
            exact hc'
          rcases getElem?_snoc hnow with hold | ⟨hj, -⟩
          · rw [hdead j c' hold] at hlives
            cases hlives
          · exact hj
      · exact .asked ref hstage hawaited hfallbacks (.inr rfl) hreplies hreserved hdead
    · exact hnone hrequests
  | failedOpen hstage hfallbacks hrequests hdead =>
    cases hreq : s.requests with
    | nil => exact hnone hreq
    | cons request rest =>
      have hrest : s.hostOpen = true → rest.any isClaim = false := by
        intro hopen
        have hall := hrequests hopen
        rw [hreq, List.any_cons, Bool.or_eq_false_iff] at hall
        exact hall.2
      rw [Opening.step, hreq]
      dsimp only
      split
      · next hopen =>
        cases request with
        | claim ref =>
          have hall := hrequests hopen
          rw [hreq] at hall
          cases hall
        | reserve spec =>
          have hnew := hfresh spec rest hreq
          have hcalls := calls_reserve newSessionRef s.daemon spec
          have hdeads : ∀ ref ∈ s.reserved ++ [newSessionRef s.daemon.custody.shared.drawn],
              Dead (s.daemon.reserve newSessionRef spec).custody.calls ref := by
            intro ref href
            rcases List.mem_append.1 href with hold | hlast
            · rw [hcalls]
              exact hdead ref hold
            · rw [List.mem_singleton.1 hlast]
              exact hnew
          unfold onRequest handleReserve send
          dsimp only
          split
          · exact .failedOpen hstage hfallbacks hrest hdeads
          · exact .failedOpen hstage hfallbacks hrest hdeads
      · next hclosed =>
        exact .failedOpen hstage hfallbacks (fun hopen => absurd hopen hclosed) hdead

lemma Custodied.toClient (h : Custodied execFallback args s) (sends : Bool) :
    Custodied execFallback args (s.step em newSessionRef execFallback args (.toClient sends)) := by
  have hnone : s.replies = [] →
      Custodied execFallback args (s.step em newSessionRef execFallback args (.toClient sends)) := by
    intro hreplies
    rw [Opening.step, hreplies]
    exact h
  cases h with
  | connecting _ _ hreplies => exact hnone hreplies
  | asked ref _ _ _ _ hreplies => exact hnone hreplies
  | spawning ref i c _ _ _ _ _ hreplies => exact hnone hreplies
  | reserving hstage hawaited hfallbacks hasked =>
    rcases hasked with ⟨-, hreplies, -⟩ | ⟨ref, hrequests, hreserved, hdead, hreplies | hreplies⟩
    · exact hnone hreplies
    · exact hnone hreplies
    · rw [Opening.step, hreplies]
      dsimp only
      unfold onReply
      simp only [hstage]
      split
      · refine .asked ref rfl hawaited hfallbacks (.inl ?_) rfl hreserved hdead
        show s.requests ++ [.claim ref] = _
        rw [hrequests]
        rfl
      · refine custodied_failOpen hfallbacks (fun _ => ?_) fun r hr => ?_
        · rw [hrequests]
          rfl
        · rw [hreserved, List.mem_singleton] at hr
          rw [hr]
          exact hdead
  | answered ref i c reply hstage hawaited hfallbacks hrequests hreserved hreplies hc hclaim hreply honly =>
    rw [Opening.step, hreplies]
    dsimp only
    unfold onReply
    simp only [hstage]
    cases reply with
    | claimed =>
      obtain rfl := opened_of_claimed hclaim hreply
      exact .attached ref i rfl hawaited hfallbacks hrequests hreserved hc honly
    | failed code =>
      refine custodied_failOpen hfallbacks (fun _ => ?_) fun r hr => ?_
      · rw [hrequests]
        rfl
      · rw [hreserved, List.mem_singleton] at hr
        rw [hr]
        exact honly.dead hc (not_lives_of_failed ref hreply)
    | reserved r => exact absurd hreply replyOf_ne_reserved
  | attached ref i hstage hawaited hfallbacks hrequests hreserved hc honly =>
    rw [Opening.step]
    split
    · exact .attached ref i hstage hawaited hfallbacks hrequests hreserved hc honly
    · unfold onReply
      simp only [hstage]
      exact .attached ref i rfl hawaited hfallbacks hrequests hreserved hc honly
  | failedOpen hstage hfallbacks hrequests hdead =>
    rw [Opening.step]
    split
    · exact .failedOpen hstage hfallbacks hrequests hdead
    · unfold onReply
      simp only [hstage]
      exact .failedOpen rfl hfallbacks hrequests hdead

lemma Custodied.step (h : Custodied execFallback args s) (e : OpeningEvent execFallback args)
    (hheeds : heeds newSessionRef s e = true) :
    Custodied execFallback args (s.step em newSessionRef execFallback args e) := by
  cases e with
  | connect w => exact h.connect w
  | toHost => exact h.toHost hheeds
  | answer => exact h.answer
  | toClient sends => exact h.toClient sends
  | clientClosed => exact h.clientClosed hheeds
  | hostClosed => exact h.hostClosed
  | daemon e => exact h.daemon e hheeds

end Opening

/-! ## The runs -/

/-- A call came to a session of the reference. -/
def opens (ref : SessionRef) : OpenCall CustodySpec → Bool
  | .opened _ r => r = ref
  | _ => false

/-- A session was opened for the reference by this call at the desk. -/
def OpenedAt {σ : Type} (s : Opening σ) (ref : SessionRef) (call : ℕ) : Prop :=
  s.calls[call]?.any (opens ref) = true

lemma openedAt_iff {σ : Type} {s : Opening σ} {ref : SessionRef} {call : ℕ} :
    OpenedAt s ref call ↔ ∃ claim, s.calls[call]? = some (.opened claim ref) := by
  unfold OpenedAt
  constructor
  · intro h
    obtain ⟨c, hc, hopens⟩ := Option.any_eq_true _ _ |>.1 h
    cases c with
    | opened claim r => exact ⟨claim, by rw [hc, ← of_decide_eq_true hopens]⟩
    | _ => cases hopens
  · rintro ⟨claim, hc⟩
    rw [hc, Option.any_some]
    exact decide_eq_true rfl

/-- A launch that fell back ran the real binary once, with its own arguments, and has no session; one
that is attached has one session, and ran nothing; and one that has yet to come to either ran nothing. -/
structure OneAgent {σ : Type} (execFallback : JsString) (args : List JsString) (s : Opening σ) : Prop where
  fellBack : s.stage = .failedOpen → s.fallbacks = [(execFallback, args)] ∧
    ∀ ref ∈ s.reserved, ∀ call, ¬ OpenedAt s ref call
  attached : ∀ ref, s.stage = .attached ref → s.fallbacks = [] ∧ s.reserved = [ref] ∧
    ∃! call, OpenedAt s ref call
  pending : s.stage ≠ .failedOpen → s.fallbacks = []

lemma OneAgent.of_pending {σ : Type} {s : Opening σ} {execFallback : JsString} {args : List JsString}
    (hfailed : s.stage ≠ .failedOpen) (hattached : ∀ ref, s.stage ≠ .attached ref)
    (hfallbacks : s.fallbacks = []) : OneAgent execFallback args s :=
  ⟨fun heq => absurd heq hfailed, fun ref heq => absurd heq (hattached ref), fun _ => hfallbacks⟩

lemma Opening.Custodied.oneAgent {σ : Type} {s : Opening σ} {execFallback : JsString}
    {args : List JsString} (h : Custodied execFallback args s) : OneAgent execFallback args s := by
  cases h with
  | attached ref i hstage hawaited hfallbacks hrequests hreserved hc honly =>
    refine ⟨fun heq => ?_, fun r heq => ?_, fun _ => hfallbacks⟩
    · rw [hstage] at heq
      cases heq
    · rw [hstage] at heq
      cases heq
      refine ⟨hfallbacks, hreserved, i, openedAt_iff.2 ⟨true, hc⟩, fun j hopened => ?_⟩
      obtain ⟨claim, hj⟩ := openedAt_iff.1 hopened
      exact honly j _ hj (decide_eq_true rfl)
  | failedOpen hstage hfallbacks hrequests hdead =>
    refine ⟨fun _ => ⟨hfallbacks, fun ref href call hopened => ?_⟩, fun r heq => ?_,
      fun hne => absurd hstage hne⟩
    · obtain ⟨claim, hcall⟩ := openedAt_iff.1 hopened
      have hlives := hdead ref href call _ hcall
      rw [Lives, decide_eq_false_iff_not] at hlives
      exact hlives rfl
    · rw [hstage] at heq
      cases heq
  | connecting hstage _ _ _ _ hfallbacks =>
    exact .of_pending (by simp [hstage]) (by simp [hstage]) hfallbacks
  | reserving hstage _ hfallbacks => exact .of_pending (by simp [hstage]) (by simp [hstage]) hfallbacks
  | asked ref hstage _ hfallbacks => exact .of_pending (by simp [hstage]) (by simp [hstage]) hfallbacks
  | spawning ref i c hstage _ hfallbacks =>
    exact .of_pending (by simp [hstage]) (by simp [hstage]) hfallbacks
  | answered ref i c reply hstage _ hfallbacks =>
    exact .of_pending (by simp [hstage]) (by simp [hstage]) hfallbacks

/-- **One launch starts one agent**: in every run where the client's end closes on a claim only when
the claim is lost or has failed, and nobody else claims the reservation. -/
theorem oneAgent_of_heeds {σ : Type} (em : Emulator σ) (newSessionRef : ℕ → SessionRef)
    (execFallback : JsString) (args : List JsString) (daemon : Daemon σ)
    (es : List (OpeningEvent execFallback args))
    (h : (openingMachine em newSessionRef execFallback args daemon).Meets
      (fun s e => Opening.heeds newSessionRef s e = true) es) :
    OneAgent execFallback args ((openingMachine em newSessionRef execFallback args daemon).run es) := by
  apply Opening.Custodied.oneAgent
  exact (openingMachine em newSessionRef execFallback args daemon).invariant_of_meets
    (.init daemon) (fun _ e hheeds hs => hs.step e hheeds) h

namespace OneLaunch

/-- What a launch finds. -/
def surroundings : Surroundings :=
  ⟨Demo.world, js "/repo", 120, 40⟩

/-- The arguments of the launch. -/
def args : List JsString := [js "--resume"]

/-- The launch up to the spawn: it connects, reserves and claims, and the spawn succeeds. -/
def spawned : List (OpeningEvent (js "/bin/agent") args) :=
  [.connect (some ⟨surroundings, ⟨by decide, by decide, by decide, by decide, by decide⟩⟩),
    .toHost, .toClient true, .toHost, .daemon (.settle 0 true)]

/-- A daemon that has just started. -/
def daemon : Daemon Unit := .init (fun _ => Demo.someRef) 0

/-- The machine of the example. -/
def machine : Machine (Opening Unit) (OpeningEvent (js "/bin/agent") args) :=
  openingMachine Demo.blindEmulator (fun _ => Demo.someRef) (js "/bin/agent") args daemon

end OneLaunch

/-- A launch that is answered is attached to its one session. -/
theorem oneAgent_answered :
    OneAgent (js "/bin/agent") OneLaunch.args
      (OneLaunch.machine.run (OneLaunch.spawned ++ [.answer, .toClient true])) :=
  oneAgent_of_heeds Demo.blindEmulator (fun _ => Demo.someRef) (js "/bin/agent") OneLaunch.args
    OneLaunch.daemon _ (Machine.meets_of_checks _ (by decide +kernel))

/-- The connection drops between the spawn and the answer: the real binary runs beside the session. -/
theorem not_oneAgent_dropped :
    ¬ OneAgent (js "/bin/agent") OneLaunch.args
      (OneLaunch.machine.run (OneLaunch.spawned ++ [.clientClosed])) := by
  intro h
  have hnone := (h.fellBack (by decide +kernel)).2 Demo.someRef (by decide +kernel) 0
  unfold OpenedAt at hnone
  exact hnone (by decide +kernel)

end Pherry.Cli
