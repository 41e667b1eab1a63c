import Pherry.Ios.DockedHosts

/-!
# What each event on the phone can do

An event pairs, or goes a step towards a host, or is a redeem that succeeds or an operation of the model. Each
kind leaves the rest of the phone alone.
-/

namespace Pherry.Ios

variable {URL : Type} {foundation : Foundation URL}

lemma mem_modify {α : Type*} {f : α → α} {l : List α} {i : ℕ} {x : α} (h : x ∈ l.modify i f) :
    x ∈ l ∨ ∃ y ∈ l, x = f y := by
  induction l generalizing i with
  | nil => simp at h
  | cons a l ih =>
    cases i with
    | zero =>
      rcases List.mem_cons.1 h with rfl | hrest
      · exact Or.inr ⟨a, List.mem_cons_self, rfl⟩
      · exact Or.inl (List.mem_cons_of_mem _ hrest)
    | succ i =>
      rcases List.mem_cons.1 h with rfl | hrest
      · exact Or.inl List.mem_cons_self
      · rcases ih hrest with hold | ⟨y, hy, rfl⟩
        · exact Or.inl (List.mem_cons_of_mem _ hold)
        · exact Or.inr ⟨y, List.mem_cons_of_mem _ hy, rfl⟩

/-! ## The screens -/

/-- A step whose links were scanned; a card that warns of a key warns of that of its own host. -/
def StepAnchored (history : DockHistory URL) : PairStep URL → Prop
  | .needApi link => link ∈ history.scanned
  | .confirm link _ warnings =>
    link ∈ history.scanned ∧ ∀ hostId, .repinsHostKey hostId ∈ warnings → hostId = link.hostId
  | _ => True

/-- A redeem of a link that was scanned, which replaces a key only if a card that said so was confirmed. -/
def TaskAnchored (history : DockHistory URL) (task : RedeemTask URL) : Prop :=
  task.link ∈ history.scanned ∧
  (task.allowRepin = true →
    ∃ warnings, (task, warnings) ∈ history.confirmed ∧ .repinsHostKey task.link.hostId ∈ warnings)

/-- Every flow and every redeem in flight is so. -/
structure FlowsAnchored (s : Phone URL) : Prop where
  flows : ∀ flow ∈ s.flows, StepAnchored s.history flow.step
  redeems : ∀ task ∈ s.redeems, TaskAnchored s.history task

/-- A history that has gone on. -/
structure Later (history later : DockHistory URL) : Prop where
  scanned : history.scanned ⊆ later.scanned
  confirmed : history.confirmed ⊆ later.confirmed

lemma Later.refl (history : DockHistory URL) : Later history history :=
  ⟨List.Subset.refl _, List.Subset.refl _⟩

lemma StepAnchored.later {history later : DockHistory URL} (hl : Later history later) {step : PairStep URL}
    (h : StepAnchored history step) : StepAnchored later step := by
  cases step with
  | needApi link => exact hl.scanned h
  | confirm link apiUrl warnings => exact ⟨hl.scanned h.1, h.2⟩
  | capture => trivial
  | redeeming => trivial
  | success name => trivial
  | failed failure => trivial

lemma TaskAnchored.later {history later : DockHistory URL} (hl : Later history later) {task : RedeemTask URL}
    (h : TaskAnchored history task) : TaskAnchored later task := by
  refine ⟨hl.scanned h.1, ?_⟩
  intro hallow
  obtain ⟨warnings, hcard, hwarning⟩ := h.2 hallow
  exact ⟨warnings, hl.confirmed hcard, hwarning⟩

lemma FlowsAnchored.of_same {s s' : Phone URL} (h : FlowsAnchored s) (hflows : s'.flows = s.flows)
    (hredeems : s'.redeems ⊆ s.redeems) (hlater : Later s.history s'.history) : FlowsAnchored s' := by
  constructor
  · rw [hflows]
    intro flow hflow
    exact (h.flows flow hflow).later hlater
  · intro task htask
    exact (h.redeems task (hredeems htask)).later hlater

/-- What pairing changes: neither the model nor what reaches a host. -/
structure OnlyPairs (s s' : Phone URL) : Prop where
  model : s'.model = s.model
  listings : s'.listings = s.listings
  selected : s'.selected = s.selected
  connects : s'.connects = s.connects
  channels : s'.history.channels = s.history.channels
  redeemed : s'.history.redeemed = s.history.redeemed
  now : s'.history.now = s.history.now
  later : Later s.history s'.history

lemma OnlyPairs.refl (s : Phone URL) : OnlyPairs s s :=
  ⟨rfl, rfl, rfl, rfl, rfl, rfl, rfl, .refl _⟩

lemma OnlyPairs.trans {s s' s'' : Phone URL} (h : OnlyPairs s s') (h' : OnlyPairs s' s'') : OnlyPairs s s'' where
  model := h'.model.trans h.model
  listings := h'.listings.trans h.listings
  selected := h'.selected.trans h.selected
  connects := h'.connects.trans h.connects
  channels := h'.channels.trans h.channels
  redeemed := h'.redeemed.trans h.redeemed
  now := h'.now.trans h.now
  later :=
    { scanned := List.Subset.trans h.later.scanned h'.later.scanned
      confirmed := List.Subset.trans h.later.confirmed h'.later.confirmed }

/-- A step of pairing keeps the screens as they should be, and changes nothing else. -/
def Pairs (s s' : Phone URL) : Prop :=
  FlowsAnchored s → FlowsAnchored s' ∧ OnlyPairs s s'

lemma Pairs.refl (s : Phone URL) : Pairs s s :=
  fun h => ⟨h, .refl s⟩

lemma Pairs.trans {s s' s'' : Phone URL} (h : Pairs s s') (h' : Pairs s' s'') : Pairs s s'' := by
  intro hs
  obtain ⟨hs', honly⟩ := h hs
  obtain ⟨hs'', honly'⟩ := h' hs'
  exact ⟨hs'', honly.trans honly'⟩

namespace Phone

lemma pairs_setStep (s : Phone URL) (flow : ℕ) (step : PairStep URL) (hstep : StepAnchored s.history step) :
    Pairs s (s.setStep flow step) := by
  intro h
  refine ⟨⟨?_, h.redeems⟩, ⟨rfl, rfl, rfl, rfl, rfl, rfl, rfl, .refl _⟩⟩
  intro f hf
  rcases mem_modify hf with hold | ⟨_, _, rfl⟩
  · exact h.flows f hold
  · exact hstep

lemma pairs_redeem (s : Phone URL) {task : RedeemTask URL} (htask : TaskAnchored s.history task) :
    Pairs s (s.redeem foundation task) := by
  unfold redeem
  split
  · have hredeeming : Pairs s (s.setStep task.flow .redeeming) := s.pairs_setStep task.flow _ trivial
    refine hredeeming.trans ?_
    intro h
    refine ⟨⟨h.flows, ?_⟩, ⟨rfl, rfl, rfl, rfl, rfl, rfl, rfl, .refl _⟩⟩
    intro t ht
    rcases List.mem_append.1 ht with hold | hnew
    · exact h.redeems t hold
    · rw [List.mem_singleton.1 hnew]
      exact htask
  · exact s.pairs_setStep task.flow _ trivial

lemma repinsHostKey_mem_warnings {link : PairLink URL} {apiUrl : URL} {stored : Option URL}
    {hosts : List PairedHost} {hostId : String}
    (h : .repinsHostKey hostId ∈ PairPolicy.warnings foundation link apiUrl stored hosts) :
    hostId = link.hostId := by
  unfold PairPolicy.warnings at h
  rcases List.mem_append.1 h with horigin | hrepin
  · split at horigin <;> simp at horigin
  · split at hrepin
    · split at hrepin
      · simpa using hrepin
      · simp at hrepin
    · simp at hrepin

lemma pairs_confirmOrRedeem (s : Phone URL) (flow : ℕ) (seeded : Bool) {link : PairLink URL} (apiUrl : URL)
    (hlink : link ∈ s.history.scanned) : Pairs s (s.confirmOrRedeem foundation flow seeded link apiUrl) := by
  unfold confirmOrRedeem
  split
  · exact s.pairs_setStep flow _ trivial
  · dsimp only
    split
    · apply s.pairs_setStep flow
      exact ⟨hlink, fun hostId h => repinsHostKey_mem_warnings h⟩
    · apply s.pairs_redeem
      exact ⟨hlink, nofun⟩

lemma pairs_begin (s : Phone URL) (flow : ℕ) (seeded : Bool) (link : PairLink URL) :
    Pairs s (s.begin foundation flow seeded link) := by
  have hscanned : Pairs s { s with history.scanned := link :: s.history.scanned } := by
    have hlater : Later s.history { s.history with scanned := link :: s.history.scanned } :=
      ⟨List.subset_cons_self _ _, List.Subset.refl _⟩
    exact fun h => ⟨h.of_same rfl (List.Subset.refl _) hlater, ⟨rfl, rfl, rfl, rfl, rfl, rfl, rfl, hlater⟩⟩
  refine hscanned.trans ?_
  unfold begin
  dsimp only
  split
  · exact pairs_confirmOrRedeem _ flow seeded _ List.mem_cons_self
  · exact pairs_setStep _ flow _ List.mem_cons_self

lemma pairs_openFlow (s : Phone URL) (link : Option (PairLink URL)) : Pairs s (s.openFlow link) := by
  intro h
  refine ⟨⟨?_, h.redeems⟩, ⟨rfl, rfl, rfl, rfl, rfl, rfl, rfl, .refl _⟩⟩
  intro f hf
  rcases List.mem_append.1 hf with hold | hnew
  · exact h.flows f hold
  · rw [List.mem_singleton.1 hnew]
    trivial

lemma pairs_appeared (s : Phone URL) (flow : ℕ) : Pairs s (s.appeared foundation flow) := by
  unfold appeared
  split
  · exact s.pairs_begin flow true _
  · exact .refl s

lemma pairs_captured (s : Phone URL) (flow : ℕ) (link : PairLink URL) :
    Pairs s (s.captured foundation flow link) := by
  unfold captured
  split
  · exact s.pairs_begin flow _ link
  · exact .refl s

lemma pairs_backToCapture (s : Phone URL) (flow : ℕ) : Pairs s (s.backToCapture flow) := by
  unfold backToCapture
  split
  · exact s.pairs_setStep flow _ trivial
  · exact s.pairs_setStep flow _ trivial
  · exact .refl s

lemma pairs_enterApi (s : Phone URL) (flow : ℕ) (url : URL) : Pairs s (s.enterApi foundation flow url) := by
  intro h
  unfold enterApi
  split
  · rename_i hflow
    split
    · exact s.pairs_confirmOrRedeem flow _ url (h.flows _ (List.mem_of_getElem? hflow)) h
    · exact Pairs.refl s h
  · exact Pairs.refl s h

lemma pairs_dock (s : Phone URL) (flow : ℕ) : Pairs s (s.dock foundation flow) := by
  intro h
  unfold dock
  split
  · rename_i seed link apiUrl warnings hflow
    obtain ⟨hlink, hcard⟩ := h.flows _ (List.mem_of_getElem? hflow)
    dsimp only
    generalize htask : ({ flow, link, apiUrl, allowRepin := _ } : RedeemTask URL) = task
    have hlater : Later s.history { s.history with confirmed := (task, warnings) :: s.history.confirmed } :=
      ⟨List.Subset.refl _, List.subset_cons_self _ _⟩
    have hconfirmed : Pairs s { s with history.confirmed := (task, warnings) :: s.history.confirmed } :=
      fun h => ⟨h.of_same rfl (List.Subset.refl _) hlater, ⟨rfl, rfl, rfl, rfl, rfl, rfl, rfl, hlater⟩⟩
    refine hconfirmed.trans (pairs_redeem _ ⟨?_, ?_⟩) h
    · rw [← htask]
      exact hlink
    · intro hallow
      refine ⟨warnings, List.mem_cons_self, ?_⟩
      rw [← htask] at hallow ⊢
      obtain ⟨warning, hwarning, hrepins⟩ := List.any_eq_true.1 hallow
      split at hrepins
      · rename_i hostId
        rw [← hcard hostId hwarning]
        exact hwarning
      · cases hrepins
  · exact Pairs.refl s h

end Phone

/-! ## Reaching a host -/

/-- What is read from the docked hosts, in every place that holds it, meets `p`: a host, its key and when it
was read. -/
structure ReadsMeet (p : String → Bytes → ℕ → Prop) (s : Phone URL) : Prop where
  listings : ∀ listing ∈ s.listings, ∀ host ∈ listing.hosts, p host.id host.staticPublicKey listing.readAt
  selected : ∀ host readAt, s.selected = some (host, readAt) → p host.id host.staticPublicKey readAt
  connects : ∀ connecting ∈ s.connects, p connecting.hostId connecting.pinnedHostStatic connecting.readAt
  channels : ∀ channel ∈ s.history.channels, ∃ pin,
    channel.role = .initiator pin ∧ p channel.hostId pin channel.readAt

/-- What reaching a host changes: neither the model nor the screens of pairing. -/
structure OnlyReaches (s s' : Phone URL) : Prop where
  model : s'.model = s.model
  flows : s'.flows = s.flows
  redeems : s'.redeems = s.redeems
  scanned : s'.history.scanned = s.history.scanned
  confirmed : s'.history.confirmed = s.history.confirmed
  redeemed : s'.history.redeemed = s.history.redeemed
  now : s'.history.now = s.history.now

lemma OnlyReaches.refl (s : Phone URL) : OnlyReaches s s :=
  ⟨rfl, rfl, rfl, rfl, rfl, rfl, rfl⟩

lemma OnlyReaches.trans {s s' s'' : Phone URL} (h : OnlyReaches s s') (h' : OnlyReaches s' s'') :
    OnlyReaches s s'' where
  model := h'.model.trans h.model
  flows := h'.flows.trans h.flows
  redeems := h'.redeems.trans h.redeems
  scanned := h'.scanned.trans h.scanned
  confirmed := h'.confirmed.trans h.confirmed
  redeemed := h'.redeemed.trans h.redeemed
  now := h'.now.trans h.now

/-- A step towards a host reads the docked hosts as they are, or passes on what was read. -/
def Reaches (s s' : Phone URL) : Prop :=
  (∀ p : String → Bytes → ℕ → Prop,
    (∀ hostId key, (hostId, key) ∈ AppModel.pins s.model.hosts → p hostId key s.history.now) →
    ReadsMeet p s → ReadsMeet p s') ∧ OnlyReaches s s'

lemma Reaches.refl (s : Phone URL) : Reaches s s :=
  ⟨fun _ _ h => h, .refl s⟩

lemma Reaches.trans {s s' s'' : Phone URL} (h : Reaches s s') (h' : Reaches s' s'') : Reaches s s'' := by
  refine ⟨?_, h.2.trans h'.2⟩
  intro p hread hs
  refine h'.1 p ?_ (h.1 p hread hs)
  rw [h.2.model, h.2.now]
  exact hread

namespace Phone

lemma reaches_startTerminal (s : Phone URL) (hostId : String) : Reaches s (s.startTerminal hostId) := by
  unfold startTerminal
  split
  · rename_i apiUrl token pin _ _ hpin
    refine ⟨?_, ⟨rfl, rfl, rfl, rfl, rfl, rfl, rfl⟩⟩
    intro p hread hs
    refine ⟨hs.listings, hs.selected, ?_, hs.channels⟩
    intro connecting hc
    rcases List.mem_append.1 hc with hold | hnew
    · exact hs.connects _ hold
    · rw [List.mem_singleton.1 hnew]
      exact hread _ _ (AppModel.pinnedKey_mem hpin)
  · exact .refl s

lemma reaches_refresh (s : Phone URL) : Reaches s s.refresh := by
  unfold refresh
  split
  · split
    · exact .refl s
    · refine ⟨?_, ⟨rfl, rfl, rfl, rfl, rfl, rfl, rfl⟩⟩
      intro p hread hs
      refine ⟨?_, hs.selected, hs.connects, hs.channels⟩
      intro listing hl
      rcases List.mem_append.1 hl with hold | hnew
      · exact hs.listings _ hold
      · rw [List.mem_singleton.1 hnew]
        exact fun host hhost => hread _ _ (AppModel.mem_pins hhost)
  · exact .refl s

lemma readsMeet_connect {p : String → Bytes → ℕ → Prop} {s : Phone URL} (h : ReadsMeet p s) (apiUrl : URL)
    (token : String) {hostId : String} {pin : Bytes} {readAt : ℕ} (hpin : p hostId pin readAt) :
    ReadsMeet p (s.connect apiUrl token hostId pin readAt) := by
  refine ⟨h.listings, h.selected, ?_, h.channels⟩
  intro connecting hc
  rcases List.mem_append.1 hc with hold | hnew
  · exact h.connects _ hold
  · rw [List.mem_singleton.1 hnew]
    exact hpin

lemma reaches_dials (s : Phone URL) (apiUrl : URL) (token : String) (readAt : ℕ) (online : List PairedHost) :
    OnlyReaches s (online.foldl
      (fun s host => s.connect apiUrl token host.id host.staticPublicKey readAt) s) ∧
    ∀ p : String → Bytes → ℕ → Prop, (∀ host ∈ online, p host.id host.staticPublicKey readAt) →
      ReadsMeet p s →
      ReadsMeet p (online.foldl
        (fun s host => s.connect apiUrl token host.id host.staticPublicKey readAt) s) := by
  induction online generalizing s with
  | nil => exact ⟨.refl s, fun _ _ h => h⟩
  | cons host online ih =>
    obtain ⟨honly, hreads⟩ := ih (s.connect apiUrl token host.id host.staticPublicKey readAt)
    have hconnect : OnlyReaches s (s.connect apiUrl token host.id host.staticPublicKey readAt) :=
      ⟨rfl, rfl, rfl, rfl, rfl, rfl, rfl⟩
    refine ⟨hconnect.trans honly, ?_⟩
    intro p honline hs
    rw [List.forall_mem_cons] at honline
    exact hreads p honline.2 (readsMeet_connect hs apiUrl token honline.1)

lemma reaches_listHostsReply (s : Phone URL) (i : ℕ) (live : List String) :
    Reaches s (s.listHostsReply i live) := by
  unfold listHostsReply
  split
  · exact .refl s
  · rename_i listing hlisting
    dsimp only
    obtain ⟨honly, hreads⟩ := reaches_dials { s with listings := s.listings.eraseIdx i } listing.apiUrl
      listing.deviceToken listing.readAt (listing.hosts.filter fun host => live.contains host.id)
    have herase : OnlyReaches s { s with listings := s.listings.eraseIdx i } :=
      ⟨rfl, rfl, rfl, rfl, rfl, rfl, rfl⟩
    refine ⟨?_, herase.trans honly⟩
    intro p hread hs
    apply hreads p
    · intro host hhost
      exact hs.listings listing (List.mem_of_getElem? hlisting) host (List.mem_of_mem_filter hhost)
    · exact ⟨fun l hl => hs.listings l (List.mem_of_mem_eraseIdx hl), hs.selected, hs.connects, hs.channels⟩

lemma reaches_loadOptions (s : Phone URL) (apiUrl : URL) (token : String) :
    Reaches s (s.loadOptions apiUrl token) := by
  unfold loadOptions
  split
  · exact .refl s
  · rename_i host readAt hselected
    refine ⟨?_, ⟨rfl, rfl, rfl, rfl, rfl, rfl, rfl⟩⟩
    intro p hread hs
    exact readsMeet_connect hs apiUrl token (hs.selected host readAt hselected)

lemma reaches_selectHost (s : Phone URL) (index : ℕ) : Reaches s (s.selectHost index) := by
  unfold selectHost
  split
  · rename_i apiUrl token host _ _ hhost
    split
    · exact .refl s
    · refine .trans ?_ (reaches_loadOptions _ apiUrl token)
      refine ⟨?_, ⟨rfl, rfl, rfl, rfl, rfl, rfl, rfl⟩⟩
      intro p hread hs
      refine ⟨hs.listings, ?_, hs.connects, hs.channels⟩
      intro h readAt hselected
      obtain ⟨rfl, rfl⟩ := Prod.mk.inj (Option.some.inj hselected)
      exact hread _ _ (AppModel.mem_pins (List.mem_of_getElem? hhost))
  · exact .refl s

lemma reaches_retryOptions (s : Phone URL) : Reaches s s.retryOptions := by
  unfold retryOptions
  split
  · exact s.reaches_loadOptions _ _
  · exact .refl s

lemma reaches_advance (s : Phone URL) {i : ℕ} {connecting : Connecting URL}
    (hi : s.connects[i]? = some connecting) (stage : Option ConnectStage) :
    Reaches s (s.advance i connecting stage) := by
  cases stage with
  | none =>
    refine ⟨?_, ⟨rfl, rfl, rfl, rfl, rfl, rfl, rfl⟩⟩
    intro p hread hs
    exact ⟨hs.listings, hs.selected, fun c hc => hs.connects c (List.mem_of_mem_eraseIdx hc), hs.channels⟩
  | some stage =>
    refine ⟨?_, ⟨rfl, rfl, rfl, rfl, rfl, rfl, rfl⟩⟩
    intro p hread hs
    refine ⟨hs.listings, hs.selected, ?_, hs.channels⟩
    intro c hc
    rcases List.mem_or_eq_of_mem_set hc with hold | rfl
    · exact hs.connects c hold
    · exact hs.connects connecting (List.mem_of_getElem? hi)

lemma reaches_ticketReply (s : Phone URL) (i : ℕ) (reply : Option RelayTicketResult) :
    Reaches s (s.ticketReply i reply) := by
  unfold ticketReply
  split
  · exact .refl s
  · rename_i connecting hi
    split
    · exact .refl s
    · split
      · exact s.reaches_advance hi none
      · split
        · exact s.reaches_advance hi none
        · split
          · exact s.reaches_advance hi none
          · exact s.reaches_advance hi _

lemma reaches_cellDialed (s : Phone URL) (i : ℕ) (connected : Bool) :
    Reaches s (s.cellDialed i connected) := by
  unfold cellDialed
  split
  · exact .refl s
  · rename_i connecting hi
    split
    · exact s.reaches_advance hi _
    · exact .refl s

lemma reaches_bridged (s : Phone URL) (i : ℕ) (accepted : Bool) : Reaches s (s.bridged i accepted) := by
  unfold bridged
  split
  · exact .refl s
  · rename_i connecting hi
    split
    · have hadvance := s.reaches_advance hi none
      dsimp only
      split
      · refine ⟨?_, hadvance.2.trans ⟨rfl, rfl, rfl, rfl, rfl, rfl, rfl⟩⟩
        intro p hread hs
        obtain ⟨hlistings, hselected, hconnects, hchannels⟩ := hadvance.1 p hread hs
        refine ⟨hlistings, hselected, hconnects, ?_⟩
        intro channel hchannel
        rcases List.mem_cons.1 hchannel with rfl | hold
        · exact ⟨_, rfl, hs.connects connecting (List.mem_of_getElem? hi)⟩
        · exact hchannels channel hold
      · exact hadvance
    · exact .refl s

lemma reaches_openCreateSheet (s : Phone URL) : Reaches s { s with selected := none } := by
  refine ⟨?_, ⟨rfl, rfl, rfl, rfl, rfl, rfl, rfl⟩⟩
  intro p hread hs
  exact ⟨hs.listings, nofun, hs.connects, hs.channels⟩

end Phone

/-! ## One event -/

/-- A redeem that has succeeded. -/
structure Redeems (foundation : Foundation URL) (s s' : Phone URL) (task : RedeemTask URL)
    (result : PairRedeemResult) : Prop where
  pending : task ∈ s.redeems
  model : s.model.redeemed foundation task.link task.apiUrl task.allowRepin result = .ok s'.model
  history : s'.history = { s.history with redeemed := (task, result) :: s.history.redeemed }
  flows : FlowsAnchored s → FlowsAnchored s'
  listings : s'.listings = s.listings
  selected : s'.selected = s.selected
  connects : s'.connects = s.connects

variable (foundation) in
lemma redeemReply_cases (s : Phone URL) (i : ℕ) (reply : Except PairFailure PairRedeemResult) :
    Pairs s (s.redeemReply foundation i reply) ∨
    ∃ task result, reply = .ok result ∧ Redeems foundation s (s.redeemReply foundation i reply) task result := by
  unfold Phone.redeemReply
  split
  · exact Or.inl (.refl s)
  · rename_i task htask
    have herase : Pairs s { s with redeems := s.redeems.eraseIdx i } := fun h =>
      ⟨h.of_same rfl (fun t ht => List.mem_of_mem_eraseIdx ht) (.refl _),
        ⟨rfl, rfl, rfl, rfl, rfl, rfl, rfl, .refl _⟩⟩
    dsimp only
    split
    · exact Or.inl (herase.trans (Phone.pairs_setStep _ _ _ trivial))
    · rename_i result
      split
      · exact Or.inl (herase.trans (Phone.pairs_setStep _ _ _ trivial))
      · rename_i model hmodel
        refine Or.inr ⟨task, result, rfl, List.mem_of_getElem? htask, hmodel, rfl, ?_, rfl, rfl, rfl⟩
        intro h
        have hflows : FlowsAnchored
            { s with
              redeems := s.redeems.eraseIdx i
              model
              history.redeemed := (task, result) :: s.history.redeemed } :=
          (herase h).1.of_same rfl (List.Subset.refl _) ⟨List.Subset.refl _, List.Subset.refl _⟩
        exact (Phone.pairs_setStep _ task.flow (.success _) trivial hflows).1

variable (foundation) in
/-- What an event can be: pairing, a step towards a host, a redeem that succeeds, or an operation of the
model. -/
lemma handle_cases (s : Phone URL) (e : PhoneEvent URL) :
    Pairs s (s.handle foundation e) ∨
    Reaches s (s.handle foundation e) ∨
    (∃ i task result, e = .redeemReply i (.ok result) ∧
      Redeems foundation s (s.handle foundation e) task result) ∨
    (∃ hostId trimmed, e = .rename hostId trimmed) ∨
    (∃ hostId, e = .unpair hostId) ∨
    e = .signOut ∨
    e = .relaunch := by
  cases e with
  | openFlow link => exact Or.inl (s.pairs_openFlow link)
  | appeared flow => exact Or.inl (s.pairs_appeared flow)
  | captured flow link => exact Or.inl (s.pairs_captured flow link)
  | enterApi flow url => exact Or.inl (s.pairs_enterApi flow url)
  | dock flow => exact Or.inl (s.pairs_dock flow)
  | backToCapture flow => exact Or.inl (s.pairs_backToCapture flow)
  | redeemReply i reply =>
    rcases redeemReply_cases foundation s i reply with hpairs | ⟨task, result, rfl, hredeems⟩
    · exact Or.inl hpairs
    · exact Or.inr (Or.inr (Or.inl ⟨i, task, result, rfl, hredeems⟩))
  | rename hostId trimmed => simp
  | unpair hostId => simp
  | signOut => simp
  | relaunch => simp
  | startTerminal hostId => exact Or.inr (Or.inl (s.reaches_startTerminal hostId))
  | refresh => exact Or.inr (Or.inl s.reaches_refresh)
  | listHostsReply i live => exact Or.inr (Or.inl (s.reaches_listHostsReply i live))
  | openCreateSheet => exact Or.inr (Or.inl s.reaches_openCreateSheet)
  | selectHost index => exact Or.inr (Or.inl (s.reaches_selectHost index))
  | retryOptions => exact Or.inr (Or.inl s.reaches_retryOptions)
  | ticketReply i reply => exact Or.inr (Or.inl (s.reaches_ticketReply i reply))
  | cellDialed i connected => exact Or.inr (Or.inl (s.reaches_cellDialed i connected))
  | bridged i accepted => exact Or.inr (Or.inl (s.reaches_bridged i accepted))

end Pherry.Ios
