import Mathlib.Data.List.Nodup
import Pherry.Ios.AttentionStore

/-!
# When the inbox is consistent

A response is merged into whatever it finds. The inbox stays consistent exactly when each response that comes
late brings nothing new.
-/

namespace Pherry.Ios

open Lib

/-! ## Merging a batch -/

namespace AttentionStore

section
variable {items events : List AttentionItem} {x : AttentionItem}

lemma mem_insertUnseen_of_mem (h : x ∈ items) : x ∈ insertUnseen items events := by
  induction events generalizing items with
  | nil => exact h
  | cons event events ih =>
    apply ih
    split
    · exact h
    · exact List.mem_append_left _ h

lemma mem_insertUnseen (h : x ∈ insertUnseen items events) :
    x ∈ items ∨ (x ∈ events ∧ ∀ item ∈ items, item.id ≠ x.id) := by
  induction events generalizing items with
  | nil => exact Or.inl h
  | cons event events ih =>
    rw [insertUnseen] at h
    split at h
    · rcases ih h with hold | ⟨hnew, hunseen⟩
      · exact Or.inl hold
      · exact Or.inr ⟨List.mem_cons_of_mem _ hnew, hunseen⟩
    · rename_i hevent
      rcases ih h with hold | ⟨hnew, hunseen⟩
      · rcases List.mem_append.1 hold with hitem | hlast
        · exact Or.inl hitem
        · rw [List.mem_singleton.1 hlast]
          refine Or.inr ⟨List.mem_cons_self, ?_⟩
          intro item hitem hid
          exact hevent (List.any_eq_true.2 ⟨item, hitem, by simpa using hid⟩)
      · refine Or.inr ⟨List.mem_cons_of_mem _ hnew, ?_⟩
        intro item hitem
        exact hunseen item (List.mem_append_left _ hitem)

variable (items) in
lemma exists_mem_insertUnseen (h : x ∈ events) : ∃ item ∈ insertUnseen items events, item.id = x.id := by
  induction events generalizing items with
  | nil => simp at h
  | cons event events ih =>
    rw [insertUnseen]
    rcases List.mem_cons.1 h with rfl | hrest
    · split
      · rename_i hseen
        obtain ⟨item, hitem, hid⟩ := List.any_eq_true.1 hseen
        exact ⟨item, mem_insertUnseen_of_mem hitem, by simpa using hid⟩
      · exact ⟨x, mem_insertUnseen_of_mem (by simp), rfl⟩
    · exact ih _ hrest

lemma nodup_insertUnseen (h : (items.map (·.id)).Nodup) : ((insertUnseen items events).map (·.id)).Nodup := by
  induction events generalizing items with
  | nil => exact h
  | cons event events ih =>
    apply ih
    split
    · exact h
    · rename_i hunseen
      rw [List.map_append, List.nodup_append]
      refine ⟨h, List.nodup_singleton _, ?_⟩
      intro a ha b hb hab
      obtain ⟨item, hitem, rfl⟩ := List.mem_map.1 ha
      rw [List.map_singleton, List.mem_singleton] at hb
      exact hunseen (List.any_eq_true.2 ⟨item, hitem, by simpa [hb] using hab⟩)

end

section
variable {since : Option ℤ} {events : List AttentionItem}

variable (since) in
lemma le_advance_of_mem {event : AttentionItem} (h : event ∈ events) :
    ∃ cursor, advance since events = some cursor ∧ event.createdAt ≤ cursor := by
  have hmem := List.mem_map_of_mem (f := (·.createdAt)) h
  unfold advance
  split
  · rename_i hnone
    rw [List.max?_eq_none_iff] at hnone
    rw [hnone] at hmem
    simp at hmem
  · rename_i newest hnewest
    have hle : event.createdAt ≤ newest := (List.max?_eq_some_iff.1 hnewest).2 _ hmem
    split
    · exact ⟨newest, rfl, hle⟩
    · exact ⟨_, rfl, by omega⟩

variable (events) in
lemma le_advance {cursor : ℤ} (h : since = some cursor) :
    ∃ cursor', advance since events = some cursor' ∧ cursor ≤ cursor' := by
  subst h
  unfold advance
  split
  · exact ⟨cursor, rfl, by omega⟩
  · exact ⟨_, rfl, by omega⟩

lemma advance_cases {cursor : ℤ} (h : advance since events = some cursor) :
    since = some cursor ∨ ∃ event ∈ events, event.createdAt = cursor := by
  unfold advance at h
  split at h
  · exact Or.inl h
  · rename_i newest hnewest
    obtain ⟨event, hevent, hcreated⟩ := List.mem_map.1 (List.max?_eq_some_iff.1 hnewest).1
    split at h
    · exact Or.inr ⟨event, hevent, hcreated.trans (Option.some.inj h)⟩
    · rename_i before
      have hmax := Option.some.inj h
      by_cases hbefore : newest ≤ before
      · exact Or.inl (congrArg some (by omega))
      · exact Or.inr ⟨event, hevent, by omega⟩

end

variable {Api : Type} (s : AttentionStore Api) (events : List AttentionItem)

lemma mem_apply {x : AttentionItem} : x ∈ (s.apply events).items ↔ x ∈ insertUnseen s.items events :=
  List.mem_mergeSort

lemma nodup_apply (h : (s.items.map (·.id)).Nodup) : ((s.apply events).items.map (·.id)).Nodup :=
  ((List.mergeSort_perm _ _).map _).nodup_iff.2 (nodup_insertUnseen h)

lemma pairwise_apply : (s.apply events).items.Pairwise fun a b => b.createdAt ≤ a.createdAt := by
  have hsorted : (s.apply events).items.Pairwise fun a b => decide (b.createdAt ≤ a.createdAt) = true := by
    apply List.pairwise_mergeSort
    · intro a b c hab hbc
      simp only [decide_eq_true_eq] at hab hbc ⊢
      omega
    · intro a b
      simp only [Bool.or_eq_true, decide_eq_true_eq]
      omega
  exact hsorted.imp fun hab => by simpa using hab

end AttentionStore

/-! ## What holds in every run -/

/-- The inbox shows each event once, newest first, and their number; what the configured API has returned is
shown or has been acknowledged or removed, and is not newer than the cursor. -/
structure InboxCoherent {Api : Type} (s : Inbox Api) : Prop where
  distinct : (s.store.items.map (·.id)).Nodup
  newestFirst : s.store.items.Pairwise fun a b => b.createdAt ≤ a.createdAt
  badge : ∀ shown, s.store.badge = some shown → shown = s.store.items.length
  merged : ∀ event ∈ s.history.returned,
    (∃ item ∈ s.store.items, item.id = event.id) ∨ event.id ∈ s.history.gone
  behind : ∀ event ∈ s.history.returned, ∃ since, s.store.since = some since ∧ event.createdAt ≤ since

/-- What fetching, acks and the polling lifecycle leave alone. -/
structure SameInbox {Api : Type} (s s' : Inbox Api) : Prop where
  items : s'.store.items = s.store.items
  since : s'.store.since = s.store.since
  badge : s'.store.badge = s.store.badge
  history : s'.history = s.history

section
variable {Api : Type} {s s' s'' : Inbox Api}

lemma SameInbox.refl (s : Inbox Api) : SameInbox s s :=
  ⟨rfl, rfl, rfl, rfl⟩

lemma SameInbox.trans (h : SameInbox s s') (h' : SameInbox s' s'') : SameInbox s s'' where
  items := h'.items.trans h.items
  since := h'.since.trans h.since
  badge := h'.badge.trans h.badge
  history := h'.history.trans h.history

lemma InboxCoherent.of_same (hc : InboxCoherent s) (h : SameInbox s s') : InboxCoherent s' := by
  constructor <;> simp only [h.items, h.since, h.badge, h.history]
  · exact hc.distinct
  · exact hc.newestFirst
  · exact hc.badge
  · exact hc.merged
  · exact hc.behind

lemma InboxConsistent.of_same (hc : InboxConsistent s) (h : SameInbox s s') : InboxConsistent s' := by
  constructor <;> simp only [h.items, h.since, h.badge, h.history]
  · exact hc.distinct
  · exact hc.newestFirst
  · exact hc.badge
  · exact hc.fetched
  · exact hc.cleared
  · exact hc.cursor

end

namespace Inbox

variable {Api : Type} (s : Inbox Api)

lemma same_setStage (task : ℕ) (stage : PollStage) : SameInbox s (s.setStage task stage) :=
  ⟨rfl, rfl, rfl, rfl⟩

lemma same_resume (poll waitMs : Option ℕ) : SameInbox s (s.resume poll waitMs) := by
  unfold resume
  split
  · exact .refl s
  · exact s.same_setStage _ _

lemma same_fetch (waitMs poll : Option ℕ) : SameInbox s (s.fetch waitMs poll) := by
  unfold fetch
  split
  · exact s.same_resume poll waitMs
  · split <;> exact ⟨rfl, rfl, rfl, rfl⟩

lemma same_ack (id : String) : SameInbox s (s.ack id) := by
  unfold ack
  split
  · exact .refl s
  · exact ⟨rfl, rfl, rfl, rfl⟩

lemma same_startPolling : SameInbox s s.startPolling := by
  unfold startPolling
  split
  · exact .refl s
  · exact ⟨rfl, rfl, rfl, rfl⟩

lemma same_stopPolling : SameInbox s s.stopPolling := by
  unfold stopPolling
  split
  · exact .refl s
  · exact ⟨rfl, rfl, rfl, rfl⟩

lemma same_poll (task : ℕ) : SameInbox s (s.poll task) := by
  unfold poll
  split
  · exact .refl s
  · split
    · exact s.same_fetch _ _
    · split
      · exact s.same_setStage _ _
      · exact s.same_fetch _ _
    · split
      · exact s.same_setStage _ _
      · split
        · exact s.same_setStage _ _
        · exact s.same_fetch _ _
    · exact s.same_setStage _ _
    · exact .refl s
    · exact .refl s

end Inbox

section
variable {Api : Type} {s : Inbox Api}

lemma configured (s : Inbox Api) (api : Option Api) :
    (s.configure api).store.items = [] ∧ (s.configure api).store.since = none ∧
    (s.configure api).store.badge = some 0 ∧ (s.configure api).history = { returned := [], gone := [] } :=
  ⟨rfl, rfl, rfl, rfl⟩

lemma coherent_configure (s : Inbox Api) (api : Option Api) : InboxCoherent (s.configure api) := by
  obtain ⟨hitems, hsince, hbadge, hhistory⟩ := configured s api
  constructor <;> simp [hitems, hsince, hbadge, hhistory]

lemma consistent_configure (s : Inbox Api) (api : Option Api) : InboxConsistent (s.configure api) := by
  obtain ⟨hitems, hsince, hbadge, hhistory⟩ := configured s api
  constructor <;> simp [hitems, hsince, hbadge, hhistory]

lemma InboxCoherent.remove (hc : InboxCoherent s) (id : String) : InboxCoherent (s.remove id) := by
  constructor
  · exact hc.distinct.sublist (List.filter_sublist.map _)
  · exact hc.newestFirst.sublist List.filter_sublist
  · intro shown hshown
    exact (Option.some.inj hshown).symm
  · intro event hevent
    rcases hc.merged event hevent with ⟨item, hitem, hid⟩ | hgone
    · by_cases hremoved : item.id = id
      · right
        rw [← hid, hremoved]
        exact List.mem_cons_self
      · left
        exact ⟨item, List.mem_filter.2 ⟨hitem, by simpa using hremoved⟩, hid⟩
    · exact Or.inr (List.mem_cons_of_mem _ hgone)
  · exact hc.behind

lemma InboxConsistent.remove (hc : InboxConsistent s) (id : String) : InboxConsistent (s.remove id) := by
  constructor
  · exact hc.distinct.sublist (List.filter_sublist.map _)
  · exact hc.newestFirst.sublist List.filter_sublist
  · intro shown hshown
    exact (Option.some.inj hshown).symm
  · intro item hitem
    exact hc.fetched item (List.mem_of_mem_filter hitem)
  · intro item hitem
    obtain ⟨hold, hkept⟩ := List.mem_filter.1 hitem
    intro hgone
    rcases List.mem_cons.1 hgone with hid | hbefore
    · simp [hid] at hkept
    · exact hc.cleared item hold hbefore
  · exact hc.cursor

end

/-! ## A response -/

variable {Api : Type} [DecidableEq Api] {s s' : Inbox Api}

/-- A response has been merged. -/
structure Merges (s s' : Inbox Api) (fetch : AttentionFetch Api) (events : List AttentionItem) : Prop where
  items : s'.store.items = (s.store.apply events).items
  since : s'.store.since = AttentionStore.advance s.store.since events
  badge : s'.store.badge = some s'.store.items.length
  returned : s'.history.returned =
    s.history.returned ++ if s.store.api = some fetch.api then events else []
  gone : s'.history.gone = s.history.gone

lemma merges_reply {i : ℕ} {fetch : AttentionFetch Api} (hfetch : s.fetches[i]? = some fetch)
    (events : List AttentionItem) : Merges s (s.reply i (.ok events)) fetch events := by
  simp only [Inbox.reply, hfetch]
  generalize hmerged : ({ s with store := _, fetches := _, history := _ } : Inbox Api) = merged
  have hsame := merged.same_resume fetch.poll fetch.waitMs
  constructor <;> simp only [hsame.items, hsame.since, hsame.badge, hsame.history] <;> subst hmerged
  all_goals rfl

lemma reply_cases (s : Inbox Api) (i : ℕ) (reply : Except FetchError (List AttentionItem)) :
    SameInbox s (s.reply i reply) ∨
    ∃ fetch events, s.fetches[i]? = some fetch ∧ reply = .ok events ∧
      Merges s (s.reply i reply) fetch events := by
  cases hfetch : s.fetches[i]? with
  | none =>
    left
    simp only [Inbox.reply, hfetch]
    exact .refl s
  | some fetch =>
    cases reply with
    | ok events => exact Or.inr ⟨fetch, events, rfl, rfl, merges_reply hfetch events⟩
    | error failure =>
      left
      simp only [Inbox.reply, hfetch]
      refine SameInbox.trans ?_ (Inbox.same_resume _ fetch.poll fetch.waitMs)
      cases failure <;> exact ⟨rfl, rfl, rfl, by simp⟩

lemma InboxCoherent.merges (hc : InboxCoherent s) {fetch : AttentionFetch Api} {events : List AttentionItem}
    (hm : Merges s s' fetch events) : InboxCoherent s' := by
  constructor
  · rw [hm.items]
    exact s.store.nodup_apply events hc.distinct
  · rw [hm.items]
    exact s.store.pairwise_apply events
  · intro shown hshown
    rw [hm.badge] at hshown
    exact (Option.some.inj hshown).symm
  · intro event hevent
    rw [hm.gone, hm.items]
    rw [hm.returned] at hevent
    rcases List.mem_append.1 hevent with hold | hnew
    · rcases hc.merged event hold with ⟨item, hitem, hid⟩ | hgone
      · exact Or.inl ⟨item, (s.store.mem_apply events).2 (AttentionStore.mem_insertUnseen_of_mem hitem), hid⟩
      · exact Or.inr hgone
    · split at hnew
      · obtain ⟨item, hitem, hid⟩ := AttentionStore.exists_mem_insertUnseen s.store.items hnew
        exact Or.inl ⟨item, (s.store.mem_apply events).2 hitem, hid⟩
      · simp at hnew
  · intro event hevent
    rw [hm.since]
    rw [hm.returned] at hevent
    rcases List.mem_append.1 hevent with hold | hnew
    · obtain ⟨cursor, hcursor, hle⟩ := hc.behind event hold
      obtain ⟨cursor', hcursor', hle'⟩ := AttentionStore.le_advance events hcursor
      exact ⟨cursor', hcursor', by omega⟩
    · split at hnew
      · exact AttentionStore.le_advance_of_mem _ hnew
      · simp at hnew

lemma InboxConsistent.merges (hi : InboxConsistent s) (hc : InboxCoherent s) {fetch : AttentionFetch Api}
    {events : List AttentionItem} (hm : Merges s s' fetch events)
    (hcurrent : s.store.api = some fetch.api → ∀ event ∈ events, event.id ∉ s.history.gone)
    (hstale : s.store.api ≠ some fetch.api → ∀ event ∈ events,
      (∃ item ∈ s.store.items, item.id = event.id) ∧
      ∃ since, s.store.since = some since ∧ event.createdAt ≤ since) : InboxConsistent s' := by
  have hc' := hc.merges hm
  have hreturned : s.history.returned ⊆ s'.history.returned := by
    rw [hm.returned]
    exact List.subset_append_left _ _
  -- what is new in the inbox comes from the configured API
  have hmem : ∀ item ∈ s'.store.items, item ∈ s.store.items ∨ (s.store.api = some fetch.api ∧ item ∈ events) := by
    intro item hitem
    rw [hm.items, AttentionStore.mem_apply] at hitem
    rcases AttentionStore.mem_insertUnseen hitem with hold | ⟨hnew, hunseen⟩
    · exact Or.inl hold
    · by_cases hapi : s.store.api = some fetch.api
      · exact Or.inr ⟨hapi, hnew⟩
      · obtain ⟨⟨seen, hseen, hid⟩, -⟩ := hstale hapi item hnew
        exact absurd hid (hunseen seen hseen)
  have hnew : s.store.api = some fetch.api → events ⊆ s'.history.returned := by
    intro hapi
    rw [hm.returned, if_pos hapi]
    exact List.subset_append_right _ _
  refine ⟨hc'.distinct, hc'.newestFirst, hc'.badge, ?_, ?_, ?_⟩
  · intro item hitem
    rcases hmem item hitem with hold | ⟨hapi, hevent⟩
    · exact hreturned (hi.fetched item hold)
    · exact hnew hapi hevent
  · intro item hitem
    rw [hm.gone]
    rcases hmem item hitem with hold | ⟨hapi, hevent⟩
    · exact hi.cleared item hold
    · exact hcurrent hapi item hevent
  · intro cursor hcursor
    rw [hm.since] at hcursor
    rcases AttentionStore.advance_cases hcursor with hold | ⟨event, hevent, rfl⟩
    · obtain ⟨item, hitem, hle⟩ := hi.cursor cursor hold
      exact ⟨item, hreturned hitem, hle⟩
    · by_cases hapi : s.store.api = some fetch.api
      · exact ⟨event, hnew hapi hevent, by omega⟩
      · obtain ⟨-, since, hsince, hle⟩ := hstale hapi event hevent
        obtain ⟨item, hitem, hle'⟩ := hi.cursor since hsince
        exact ⟨item, hreturned hitem, by omega⟩

lemma timely_of_merges (hc : InboxCoherent s) {fetch : AttentionFetch Api}
    {events : List AttentionItem} (hm : Merges s s' fetch events) (hi' : InboxConsistent s') :
    (s.store.api = some fetch.api → ∀ event ∈ events, event.id ∉ s.history.gone) ∧
    (s.store.api ≠ some fetch.api → ∀ event ∈ events,
      (∃ item ∈ s.store.items, item.id = event.id) ∧
      ∃ since, s.store.since = some since ∧ event.createdAt ≤ since) := by
  constructor
  · intro _ event hevent hgone
    -- the event is shown then, although it is gone
    obtain ⟨item, hitem, hid⟩ := AttentionStore.exists_mem_insertUnseen s.store.items hevent
    have hcleared := hi'.cleared item (by rw [hm.items, AttentionStore.mem_apply]; exact hitem)
    rw [hm.gone, hid] at hcleared
    exact hcleared hgone
  · intro hapi event hevent
    have hreturned : s'.history.returned = s.history.returned := by
      rw [hm.returned, if_neg hapi, List.append_nil]
    constructor
    · obtain ⟨item, hitem, hid⟩ := AttentionStore.exists_mem_insertUnseen s.store.items hevent
      have hitem' : item ∈ s'.store.items := by
        rw [hm.items, AttentionStore.mem_apply]
        exact hitem
      -- the configured API has returned it, so it is shown already
      have hfetched := hi'.fetched item hitem'
      have hcleared := hi'.cleared item hitem'
      rw [hreturned] at hfetched
      rw [hm.gone] at hcleared
      rcases hc.merged item hfetched with ⟨seen, hseen, hsame⟩ | hgone
      · exact ⟨seen, hseen, hsame.trans hid⟩
      · exact absurd hgone hcleared
    · obtain ⟨cursor, hcursor, hle⟩ := AttentionStore.le_advance_of_mem s.store.since hevent
      obtain ⟨item, hitem, hle'⟩ := hi'.cursor cursor (by rw [hm.since]; exact hcursor)
      rw [hreturned] at hitem
      obtain ⟨since, hsince, hle''⟩ := hc.behind item hitem
      exact ⟨since, hsince, by omega⟩

/-! ## Every run -/

omit [DecidableEq Api] in
lemma coherent_new : InboxCoherent (Inbox.new : Inbox Api) := by
  constructor <;> simp [Inbox.new, AttentionStore.new]

omit [DecidableEq Api] in
lemma consistent_new : InboxConsistent (Inbox.new : Inbox Api) := by
  constructor <;> simp [Inbox.new, AttentionStore.new]

/-- What an event can be: nothing to the inbox, a configuration, a removal or a response that is merged. -/
lemma step_cases (s : Inbox Api) (e : InboxEvent Api) :
    SameInbox s (s.step e) ∨
    (∃ api, s.step e = s.configure api) ∨
    (∃ t id, SameInbox s t ∧ s.step e = t.remove id) ∨
    ∃ i fetch events, e = .reply i (.ok events) ∧ s.fetches[i]? = some fetch ∧
      Merges s (s.step e) fetch events := by
  cases e with
  | configure api => exact Or.inr (Or.inl ⟨api, rfl⟩)
  | refresh => exact Or.inl (s.same_fetch none none)
  | startPolling => exact Or.inl s.same_startPolling
  | stopPolling => exact Or.inl s.same_stopPolling
  | poll task => exact Or.inl (s.same_poll task)
  | reply i reply =>
    rcases reply_cases s i reply with hsame | ⟨fetch, events, hfetch, rfl, hmerges⟩
    · exact Or.inl hsame
    · exact Or.inr (Or.inr (Or.inr ⟨i, fetch, events, rfl, hfetch, hmerges⟩))
  | ack id => exact Or.inl (s.same_ack id)
  | ackReply i =>
    cases hack : s.acks[i]? with
    | none =>
      left
      simp only [Inbox.step, Inbox.ackReply, hack]
      exact .refl s
    | some ack =>
      right; right; left
      refine ⟨{ s with acks := s.acks.eraseIdx i }, ack.2, ⟨rfl, rfl, rfl, rfl⟩, ?_⟩
      simp only [Inbox.step, Inbox.ackReply, hack]
  | remove id => exact Or.inr (Or.inr (Or.inl ⟨s, id, .refl s, rfl⟩))

lemma InboxCoherent.step (hc : InboxCoherent s) (e : InboxEvent Api) : InboxCoherent (s.step e) := by
  rcases step_cases s e with hsame | ⟨api, hstep⟩ | ⟨t, id, hsame, hstep⟩ | ⟨i, fetch, events, -, -, hmerges⟩
  · exact hc.of_same hsame
  · rw [hstep]
    exact coherent_configure s api
  · rw [hstep]
    exact (hc.of_same hsame).remove id
  · exact hc.merges hmerges

lemma InboxConsistent.step (hi : InboxConsistent s) (hc : InboxCoherent s) {e : InboxEvent Api}
    (he : timely s e) : InboxConsistent (s.step e) := by
  rcases step_cases s e with hsame | ⟨api, hstep⟩ | ⟨t, id, hsame, hstep⟩ |
    ⟨i, fetch, events, rfl, hfetch, hmerges⟩
  · exact hi.of_same hsame
  · rw [hstep]
    exact consistent_configure s api
  · rw [hstep]
    exact (hi.of_same hsame).remove id
  · obtain ⟨hcurrent, hstale⟩ := he fetch hfetch
    exact hi.merges hc hmerges hcurrent hstale

lemma timely_of_consistent (hc : InboxCoherent s) {e : InboxEvent Api} (hi' : InboxConsistent (s.step e)) :
    timely s e := by
  unfold timely
  split
  · intro fetch hfetch
    exact timely_of_merges hc (merges_reply hfetch _) hi'
  · trivial

lemma coherent_run (es : List (InboxEvent Api)) : InboxCoherent (inboxMachine.run es) :=
  inboxMachine.invariant coherent_new (fun _ e hc => hc.step e) es

lemma consistent_run {es : List (InboxEvent Api)} (hes : inboxMachine.Meets timely es) :
    InboxConsistent (inboxMachine.run es) := by
  have hinv := inboxMachine.invariant_of_meets (p := fun s => InboxCoherent s ∧ InboxConsistent s)
    ⟨coherent_new, consistent_new⟩ (fun s e he ⟨hc, hi⟩ => ⟨hc.step e, hi.step hc he⟩) hes
  exact hinv.2

/-- The inbox is consistent throughout a run exactly when each of its responses is timely. -/
theorem consistent_iff_timely (es : List (InboxEvent Api)) :
    (∀ pre post, es = pre ++ post → InboxConsistent (inboxMachine.run pre)) ↔ inboxMachine.Meets timely es := by
  constructor
  · intro h pre e post hes
    have hbehind := h (pre ++ [e]) post (by simp [hes])
    rw [Machine.run_snoc] at hbehind
    exact timely_of_consistent (coherent_run pre) hbehind
  · rintro h pre post rfl
    exact consistent_run ( Machine.Meets.prefix _ h)

/-- An event that the control plane returns to "alice". -/
def aliceEvent : AttentionItem :=
  { id := "att_1"
    hostId := "host_a"
    sessionRef := "s_1"
    kind := "ask"
    summary := "Deploy?"
    question := none
    options := none
    urgency := "notify"
    createdAt := 1000 }

/-- The user signs out while a refresh is in flight: its response is then merged into the inbox of no one. -/
theorem not_consistent_signedOut :
    ¬ InboxConsistent (inboxMachine.run
      [.configure (some "alice"), .refresh, .configure none, .reply 0 (.ok [aliceEvent])]) := by
  intro hi
  let before : Inbox String := inboxMachine.run [.configure (some "alice"), .refresh, .configure none]
  have htimely : timely before (.reply 0 (.ok [aliceEvent])) := timely_of_consistent (coherent_run _) hi
  obtain ⟨-, hstale⟩ := htimely { api := "alice", since := none, waitMs := none, poll := none } (by decide)
  obtain ⟨⟨item, hitem, -⟩, -⟩ := hstale (by decide) aliceEvent List.mem_cons_self
  have hempty : before.store.items = [] := by decide
  rw [hempty] at hitem
  simp at hitem

end Pherry.Ios
