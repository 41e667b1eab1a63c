import Pherry.Ios.DockingSteps

/-!
# The phone's trust anchor

What the phone trusts comes from the links that were scanned: behind every order of redeems, screens and
replies the hosts it has docked, the credential and the pins of its channels are what the user has let in.
-/

namespace Pherry.Ios

open Lib

variable {URL : Type} {foundation : Foundation URL}

/-! ## What the model holds -/

/-- A device token and an API URL that one redeem has set together, with its sign-in token, or none at all. -/
def Credential (m : AppModel URL) (history : DockHistory URL) : Prop :=
  (m.deviceToken = none ∧ m.apiUrl = none ∧ m.signInToken = none) ∨
  ∃ task result, (task, result) ∈ history.redeemed ∧ m.apiUrl = some task.apiUrl ∧
    m.deviceToken = some result.deviceToken ∧ m.signInToken = result.signInToken

/-- What the model holds: hosts with different ids and the keys of links that were scanned for them, a
credential of one redeem, and what the keychain holds too. -/
structure ModelAnchored (foundation : Foundation URL) (s : Phone URL) : Prop where
  unique : ((AppModel.pins s.model.hosts).map Prod.fst).Nodup
  scanned : ∀ hostId key, (hostId, key) ∈ AppModel.pins s.model.hosts →
    ∃ link ∈ s.history.scanned, link.hostId = hostId ∧ link.hostStaticPublicKey = key
  credential : Credential s.model s.history
  kept : s.model = .blank ∨ s.model.keychain = some (s.model.persisted foundation)

lemma ModelAnchored.of_pins {s s' : Phone URL} (h : ModelAnchored foundation s)
    (hpins : (AppModel.pins s'.model.hosts).Sublist (AppModel.pins s.model.hosts))
    (hhistory : s'.history = s.history)
    (hcredential : s'.model.deviceToken = s.model.deviceToken ∧ s'.model.apiUrl = s.model.apiUrl ∧
      s'.model.signInToken = s.model.signInToken)
    (hkept : s'.model = .blank ∨ s'.model.keychain = some (s'.model.persisted foundation)) :
    ModelAnchored foundation s' := by
  obtain ⟨htoken, hapi, hsignIn⟩ := hcredential
  refine ⟨h.unique.sublist (hpins.map _), ?_, ?_, hkept⟩
  · rw [hhistory]
    exact fun hostId key hmem => h.scanned hostId key (hpins.subset hmem)
  · unfold Credential
    rw [hhistory, htoken, hapi, hsignIn]
    exact h.credential

lemma ModelAnchored.of_same {s s' : Phone URL} (h : ModelAnchored foundation s) (hmodel : s'.model = s.model)
    (hscanned : s.history.scanned ⊆ s'.history.scanned) (hredeemed : s'.history.redeemed = s.history.redeemed) :
    ModelAnchored foundation s' := by
  constructor <;> rw [hmodel]
  · exact h.unique
  · intro hostId key hmem
    obtain ⟨link, hlink, hsame⟩ := h.scanned hostId key hmem
    exact ⟨link, hscanned hlink, hsame⟩
  · unfold Credential
    rw [hredeemed]
    exact h.credential
  · exact h.kept

/-- A redeem pins the key of its link, and sets the credential only where there was none. -/
lemma ModelAnchored.redeems {s s' : Phone URL} {task : RedeemTask URL} {result : PairRedeemResult}
    (h : ModelAnchored foundation s) (hflows : FlowsAnchored s)
    (hredeems : Redeems foundation s s' task result) : ModelAnchored foundation s' := by
  obtain ⟨-, ⟨host, hid, hkey, hhosts⟩, hapi, htoken, hsignIn, hkeychain⟩ := AppModel.redeemed_ok hredeems.model
  refine ⟨?_, ?_, ?_, Or.inr hkeychain⟩
  · have hunique := h.unique
    rw [AppModel.map_fst_pins] at hunique ⊢
    rw [hhosts]
    exact AppModel.nodup_upsertHost host hunique
  · intro hostId key hmem
    rw [hhosts] at hmem
    obtain ⟨x, hx, hpin⟩ := List.mem_map.1 hmem
    obtain ⟨rfl, rfl⟩ := Prod.mk.inj hpin
    rw [hredeems.history]
    rcases AppModel.mem_upsertHost hx with rfl | hold
    · exact ⟨task.link, (hflows.redeems task hredeems.pending).1, hid.symm, hkey.symm⟩
    · exact h.scanned _ _ (AppModel.mem_pins hold)
  · right
    rw [hredeems.history, hapi, htoken, hsignIn]
    rcases h.credential with ⟨hnone, hnoApi, -⟩ | ⟨before, result', hbefore, hapi', htoken', hsignIn'⟩
    · rw [hnone, hnoApi]
      exact ⟨task, result, List.mem_cons_self, rfl, rfl, rfl⟩
    · rw [htoken', hapi', hsignIn']
      exact ⟨before, result', List.mem_cons_of_mem _ hbefore, rfl, rfl, rfl⟩

lemma ModelAnchored.load {s : Phone URL} (h : ModelAnchored foundation s) :
    AppModel.load foundation s.model.keychain = s.model := by
  rcases h.kept with hblank | hkept
  · rw [hblank]
    rfl
  · exact AppModel.load_persisted s.model hkept

/-- What is so in every state. -/
structure Anchored (foundation : Foundation URL) (s : Phone URL) : Prop where
  model : ModelAnchored foundation s
  flows : FlowsAnchored s

lemma anchored_new : Anchored foundation (Phone.new : Phone URL) := by
  refine ⟨⟨?_, ?_, ?_, Or.inl rfl⟩, ?_⟩
  · simp [Phone.new, AppModel.blank, AppModel.pins]
  · simp [Phone.new, AppModel.blank, AppModel.pins]
  · exact Or.inl ⟨rfl, rfl, rfl⟩
  · constructor <;> simp [Phone.new]

lemma Anchored.handle {s : Phone URL} (h : Anchored foundation s) (e : PhoneEvent URL) :
    Anchored foundation (s.handle foundation e) := by
  have hflows : ∀ model : AppModel URL, FlowsAnchored { s with model } := fun model =>
    h.flows.of_same rfl (List.Subset.refl _) (.refl _)
  rcases handle_cases foundation s e with hpairs | hreaches | ⟨i, task, result, -, hredeems⟩ |
    ⟨hostId, trimmed, rfl⟩ | ⟨hostId, rfl⟩ | rfl | rfl
  · obtain ⟨hflows', honly⟩ := hpairs h.flows
    exact ⟨h.model.of_same honly.model honly.later.scanned honly.redeemed, hflows'⟩
  · obtain ⟨-, honly⟩ := hreaches
    refine ⟨h.model.of_same honly.model (by rw [honly.scanned]; exact List.Subset.refl _) honly.redeemed, ?_⟩
    refine h.flows.of_same honly.flows (by rw [honly.redeems]; exact List.Subset.refl _) ⟨?_, ?_⟩
    · rw [honly.scanned]
      exact List.Subset.refl _
    · rw [honly.confirmed]
      exact List.Subset.refl _
  · exact ⟨h.model.redeems h.flows hredeems, hredeems.flows h.flows⟩
  · refine ⟨?_, hflows _⟩
    refine h.model.of_pins ?_ rfl ?_ ?_
    · exact (AppModel.pins_rename s.model hostId trimmed) ▸ List.Sublist.refl _
    · simp only [Phone.handle, AppModel.rename]
      split <;> exact ⟨rfl, rfl, rfl⟩
    · simp only [Phone.handle, AppModel.rename]
      split
      · exact h.model.kept
      · exact Or.inr rfl
  · refine ⟨?_, hflows _⟩
    refine h.model.of_pins ?_ rfl ⟨rfl, rfl, rfl⟩ (Or.inr rfl)
    exact (AppModel.pins_unpair s.model hostId) ▸ List.filter_sublist
  · refine ⟨⟨?_, ?_, Or.inl ⟨rfl, rfl, rfl⟩, Or.inl rfl⟩, hflows _⟩
    · simp [Phone.handle, AppModel.blank, AppModel.pins]
    · simp [Phone.handle, AppModel.blank, AppModel.pins]
  · refine ⟨h.model.of_same h.model.load (List.Subset.refl _) rfl, ?_⟩
    constructor <;> simp [Phone.handle, Phone.new]

variable (foundation) in
lemma anchored_run (es : List (PhoneEvent URL)) : Anchored foundation ((dockingMachine foundation).run es) := by
  refine (dockingMachine foundation).invariant anchored_new ?_ es
  intro s e h
  obtain ⟨hmodel, hflows⟩ := h.handle e
  exact ⟨⟨hmodel.unique, hmodel.scanned, hmodel.credential, hmodel.kept⟩, ⟨hflows.flows, hflows.redeems⟩⟩

/-! ## When a key changes -/

lemma pinnedKey_rename (m : AppModel URL) (hostId trimmed id : String) :
    (m.rename foundation hostId trimmed).pinnedKey id = m.pinnedKey id := by
  rw [AppModel.pinnedKey_eq, AppModel.pins_rename, ← AppModel.pinnedKey_eq]

lemma pinnedKey_unpair {m : AppModel URL} (hunique : ((AppModel.pins m.hosts).map Prod.fst).Nodup)
    {hostId id : String} {key : Bytes} (h : (m.unpair foundation hostId).pinnedKey id = some key) :
    m.pinnedKey id = some key := by
  have hmem := AppModel.pinnedKey_mem h
  rw [AppModel.pins_unpair] at hmem
  exact AppModel.pinnedKey_of_mem hunique (List.mem_of_mem_filter hmem)

/-- A docked host's key changes only in a redeem of a link for that host, whose card said so and was
confirmed. -/
lemma repinned {s : Phone URL} (h : Anchored foundation s) {e : PhoneEvent URL} {hostId : String}
    {key key' : Bytes} (hkey : s.model.pinnedKey hostId = some key)
    (hkey' : (s.handle foundation e).model.pinnedKey hostId = some key') (hne : key ≠ key') :
    ∃ i result task warnings, e = .redeemReply i (.ok result) ∧ task ∈ s.redeems ∧
      task.link.hostId = hostId ∧ task.link.hostStaticPublicKey = key' ∧
      (task, warnings) ∈ s.history.confirmed ∧ .repinsHostKey hostId ∈ warnings := by
  have hsame : (s.handle foundation e).model.pinnedKey hostId ≠ some key := by
    rw [hkey']
    exact fun hsome => hne (Option.some.inj hsome).symm
  rcases handle_cases foundation s e with hpairs | hreaches | ⟨i, task, result, he, hredeems⟩ |
    ⟨id, trimmed, rfl⟩ | ⟨id, rfl⟩ | rfl | rfl
  · rw [(hpairs h.flows).2.model] at hsame
    exact absurd hkey hsame
  · rw [hreaches.2.model] at hsame
    exact absurd hkey hsame
  · obtain ⟨hallowed, ⟨host, hid, hhostKey, hhosts⟩, -⟩ := AppModel.redeemed_ok hredeems.model
    have hpinned : (s.handle foundation e).model.pinnedKey hostId =
        if hostId = task.link.hostId then some task.link.hostStaticPublicKey else s.model.pinnedKey hostId := by
      rw [AppModel.pinnedKey, hhosts, AppModel.find?_upsertHost, hid]
      split
      · rw [Option.map_some, hhostKey]
      · rfl
    rw [hkey'] at hpinned
    split at hpinned
    · rename_i hhost
      subst hhost
      rw [Option.some.inj hpinned] at hne ⊢
      rcases hallowed key hkey with hsameKey | hallow
      · exact absurd hsameKey hne
      · obtain ⟨-, hconfirmed⟩ := h.flows.redeems task hredeems.pending
        obtain ⟨warnings, hcard, hwarning⟩ := hconfirmed hallow
        exact ⟨i, result, task, warnings, he, hredeems.pending, rfl, rfl, hcard, hwarning⟩
    · rw [← hpinned] at hkey
      exact absurd (Option.some.inj hkey).symm hne
  · rw [Phone.handle, pinnedKey_rename] at hsame
    exact absurd hkey hsame
  · have hbefore := pinnedKey_unpair h.model.unique hkey'
    rw [hkey] at hbefore
    exact absurd (Option.some.inj hbefore) hne
  · cases hkey'
  · rw [Phone.handle] at hsame
    rw [h.model.load] at hsame
    exact absurd hkey hsame

/-! ## The keys of channels -/

/-- What is read was read at the end of a stretch of the run, from the hosts that were docked there. -/
def ReadIn (foundation : Foundation URL) (es : List (PhoneEvent URL)) (hostId : String) (key : Bytes)
    (readAt : ℕ) : Prop :=
  readAt ≤ es.length ∧ ((dockingMachine foundation).run (es.take readAt)).model.pinnedKey hostId = some key

lemma ReadIn.snoc {es : List (PhoneEvent URL)} {hostId : String} {key : Bytes} {readAt : ℕ}
    (h : ReadIn foundation es hostId key readAt) (e : PhoneEvent URL) :
    ReadIn foundation (es ++ [e]) hostId key readAt := by
  obtain ⟨hle, hpinned⟩ := h
  refine ⟨by simp only [List.length_append, List.length_singleton]; omega, ?_⟩
  rw [List.take_append_of_le_length hle]
  exact hpinned

lemma ReadsMeet.mono {p q : String → Bytes → ℕ → Prop} (hpq : ∀ hostId key readAt, p hostId key readAt →
    q hostId key readAt) {s : Phone URL} (h : ReadsMeet p s) : ReadsMeet q s := by
  refine ⟨fun l hl host hhost => hpq _ _ _ (h.listings l hl host hhost),
    fun host readAt hselected => hpq _ _ _ (h.selected host readAt hselected),
    fun c hc => hpq _ _ _ (h.connects c hc), ?_⟩
  intro channel hchannel
  obtain ⟨pin, hrole, hpin⟩ := h.channels channel hchannel
  exact ⟨pin, hrole, hpq _ _ _ hpin⟩

lemma ReadsMeet.of_same {p : String → Bytes → ℕ → Prop} {s s' : Phone URL} (h : ReadsMeet p s)
    (hlistings : s'.listings ⊆ s.listings) (hselected : s'.selected = s.selected ∨ s'.selected = none)
    (hconnects : s'.connects ⊆ s.connects) (hchannels : s'.history.channels = s.history.channels) :
    ReadsMeet p s' := by
  refine ⟨fun l hl => h.listings l (hlistings hl), ?_, fun c hc => h.connects c (hconnects hc), ?_⟩
  · intro host readAt hsome
    rcases hselected with hsame | hnone
    · rw [hsame] at hsome
      exact h.selected host readAt hsome
    · rw [hnone] at hsome
      cases hsome
  · rw [hchannels]
    exact h.channels

lemma ReadsMeet.handle {p : String → Bytes → ℕ → Prop} {s : Phone URL} (h : ReadsMeet p s)
    (hs : Anchored foundation s)
    (hread : ∀ hostId key, (hostId, key) ∈ AppModel.pins s.model.hosts → p hostId key s.history.now)
    (e : PhoneEvent URL) : ReadsMeet p (s.handle foundation e) := by
  rcases handle_cases foundation s e with hpairs | hreaches | ⟨i, task, result, -, hredeems⟩ |
    ⟨hostId, trimmed, rfl⟩ | ⟨hostId, rfl⟩ | rfl | rfl
  · obtain ⟨-, honly⟩ := hpairs hs.flows
    refine h.of_same ?_ (Or.inl honly.selected) ?_ honly.channels
    · rw [honly.listings]
      exact List.Subset.refl _
    · rw [honly.connects]
      exact List.Subset.refl _
  · exact hreaches.1 p hread h
  · refine h.of_same ?_ (Or.inl hredeems.selected) ?_ (by rw [hredeems.history])
    · rw [hredeems.listings]
      exact List.Subset.refl _
    · rw [hredeems.connects]
      exact List.Subset.refl _
  · exact h.of_same (List.Subset.refl _) (Or.inl rfl) (List.Subset.refl _) rfl
  · exact h.of_same (List.Subset.refl _) (Or.inl rfl) (List.Subset.refl _) rfl
  · exact h.of_same (List.Subset.refl _) (Or.inl rfl) (List.Subset.refl _) rfl
  · exact h.of_same (List.nil_subset _) (Or.inr rfl) (List.nil_subset _) rfl

lemma now_run (es : List (PhoneEvent URL)) :
    ((dockingMachine foundation).run es).history.now = es.length := by
  induction es using List.reverseRecOn with
  | nil => rfl
  | append_singleton es e ih =>
    have hanchored := anchored_run foundation es
    have hhandle : (((dockingMachine foundation).run es).handle foundation e).history.now =
        ((dockingMachine foundation).run es).history.now := by
      rcases handle_cases foundation ((dockingMachine foundation).run es) e with hpairs | hreaches |
        ⟨i, task, result, -, hredeems⟩ | ⟨hostId, trimmed, rfl⟩ | ⟨hostId, rfl⟩ | rfl | rfl
      · exact (hpairs hanchored.flows).2.now
      · exact hreaches.2.now
      · rw [hredeems.history]
      · rfl
      · rfl
      · rfl
      · rfl
    rw [Machine.run_snoc, List.length_append, List.length_singleton, ← ih, ← hhandle]
    rfl

lemma readsMeet_run (es : List (PhoneEvent URL)) :
    ReadsMeet (ReadIn foundation es) ((dockingMachine foundation).run es) := by
  induction es using List.reverseRecOn with
  | nil => constructor <;> simp [dockingMachine, Phone.new]
  | append_singleton es e ih =>
    have hanchored := anchored_run foundation es
    have hread : ∀ hostId key,
        (hostId, key) ∈ AppModel.pins ((dockingMachine foundation).run es).model.hosts →
        ReadIn foundation es hostId key ((dockingMachine foundation).run es).history.now := by
      intro hostId key hmem
      rw [now_run]
      refine ⟨le_refl _, ?_⟩
      rw [List.take_length]
      exact AppModel.pinnedKey_of_mem hanchored.model.unique hmem
    have hstep : ReadsMeet (ReadIn foundation es)
        ((dockingMachine foundation).step ((dockingMachine foundation).run es) e) :=
      (ih.handle hanchored hread e).of_same (List.Subset.refl _) (Or.inl rfl) (List.Subset.refl _) rfl
    rw [Machine.run_snoc]
    exact hstep.mono fun hostId key readAt h => h.snoc e

/-! ## The anchor -/

/-- What the phone promises behind a run: the hosts it has docked have different ids and the keys of links that
were scanned for them, a key changes only in a redeem whose card was confirmed, a relaunch changes nothing,
the credential is that of one redeem, and each channel is pinned to the key that was stored for its host at
that channel's `moment`. -/
structure TrustAnchor (foundation : Foundation URL) (moment : OpenedChannel → ℕ)
    (es : List (PhoneEvent URL)) : Prop where
  unique : (((dockingMachine foundation).run es).model.hosts.map (·.id)).Nodup
  scanned : ∀ host ∈ ((dockingMachine foundation).run es).model.hosts,
    ∃ link ∈ ((dockingMachine foundation).run es).history.scanned,
      link.hostId = host.id ∧ link.hostStaticPublicKey = host.staticPublicKey
  repinned : ∀ e hostId key key',
    ((dockingMachine foundation).run es).model.pinnedKey hostId = some key →
    ((dockingMachine foundation).run (es ++ [e])).model.pinnedKey hostId = some key' → key ≠ key' →
    ∃ i result task warnings, e = .redeemReply i (.ok result) ∧
      task ∈ ((dockingMachine foundation).run es).redeems ∧
      task.link.hostId = hostId ∧ task.link.hostStaticPublicKey = key' ∧
      (task, warnings) ∈ ((dockingMachine foundation).run es).history.confirmed ∧
      .repinsHostKey hostId ∈ warnings
  relaunched : ((dockingMachine foundation).run (es ++ [.relaunch])).model =
    ((dockingMachine foundation).run es).model
  credential : Credential ((dockingMachine foundation).run es).model ((dockingMachine foundation).run es).history
  pinned : ∀ channel ∈ ((dockingMachine foundation).run es).history.channels, ∃ pin,
    channel.role = .initiator pin ∧ moment channel ≤ es.length ∧
    ((dockingMachine foundation).run (es.take (moment channel))).model.pinnedKey channel.hostId = some pin

/-- The anchor holds in every run, for channels as of the moment when their pin was read. -/
theorem trustAnchor_readAt (foundation : Foundation URL) (es : List (PhoneEvent URL)) :
    TrustAnchor foundation OpenedChannel.readAt es := by
  have h := anchored_run foundation es
  refine ⟨?_, ?_, ?_, ?_, h.model.credential, ?_⟩
  · rw [← AppModel.map_fst_pins]
    exact h.model.unique
  · intro host hhost
    exact h.model.scanned host.id host.staticPublicKey (AppModel.mem_pins hhost)
  · intro e hostId key key' hkey hkey' hne
    rw [Machine.run_snoc] at hkey'
    exact repinned h hkey hkey' hne
  · rw [Machine.run_snoc]
    exact h.model.load
  · intro channel hchannel
    obtain ⟨pin, hrole, hle, hpinned⟩ := (readsMeet_run es).channels channel hchannel
    exact ⟨pin, hrole, hle, hpinned⟩

/-- A platform whose URLs are their characters. -/
def plainFoundation : Foundation (List Char) where
  url text := some text.toList
  absoluteString := String.ofList
  scheme u := some (String.ofList (u.takeWhile (· ≠ ':')))
  host u := some (String.ofList ((u.dropWhile (· ≠ '/')).drop 2))
  port _ := none
  lowercased := id
  url_absoluteString u := by rw [String.toList_ofList]

/-- A link for a host, with a key of one repeated byte. -/
def linkOf (token : String) (byte : UInt8) : PairLink (List Char) :=
  { pairToken := token
    hostId := "host_a"
    hostStaticPublicKey := List.replicate 32 byte
    directorUrl := none
    apiUrl := some "https://api".toList }

/-- The control plane's answer to it. -/
def redeemOf (token : String) (byte : UInt8) : PairRedeemResult :=
  { deviceToken := token
    signInToken := none
    hostId := "host_a"
    hostStaticPublicKey := List.replicate 32 byte
    directorUrl := none }

/-- A host is docked, and while a refresh waits for the control plane it is docked again with another key, which
the user confirms. The refresh then dials on the key it had read, and the control plane answers with that key
too. -/
def staleRefresh : List (PhoneEvent (List Char)) :=
  [ .openFlow none,
    .captured 0 (linkOf "pt_1" 1),
    .dock 0,
    .redeemReply 0 (.ok (redeemOf "dt_1" 1)),
    .refresh,
    .openFlow none,
    .captured 1 (linkOf "pt_2" 2),
    .dock 1,
    .redeemReply 0 (.ok (redeemOf "dt_2" 2)),
    .listHostsReply 0 ["host_a"],
    .ticketReply 0 (some
      { ticket := "tkt_1"
        cell := some ("cell", 443)
        hostPublicKey := List.replicate 32 1 }),
    .cellDialed 0 true,
    .bridged 0 true ]

/-- As of the moment when it is opened a channel may be pinned to a key that is stored no longer. -/
theorem not_trustAnchor_openedAt : ¬ TrustAnchor plainFoundation OpenedChannel.openedAt staleRefresh := by
  intro h
  have hopened : ((dockingMachine plainFoundation).run staleRefresh).history.channels =
      [{ hostId := "host_a", ticket := "tkt_1", role := .initiator (List.replicate 32 1), readAt := 4,
         openedAt := 12 }] := by decide
  have hstored : ((dockingMachine plainFoundation).run (staleRefresh.take 12)).model.pinnedKey "host_a" =
      some (List.replicate 32 2) := by decide
  obtain ⟨pin, hrole, -, hpinned⟩ := h.pinned _ (hopened ▸ List.mem_singleton_self _)
  rw [hstored] at hpinned
  obtain rfl := Option.some.inj hpinned
  revert hrole
  decide

end Pherry.Ios
