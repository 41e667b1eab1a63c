import Pherry.ControlPlane.Attention

/-!
# What a watcher receives

A watcher is given no event twice, and every event that stays pending as long as none is inserted
behind its cursor and no listing has more to give than a page holds.
-/

namespace Pherry.ControlPlane

open Lib

namespace AttentionWatch

variable {orgId : JsString} {since : Option ℕ} {s : AttentionWatch}

/-! ## Cursors -/

lemma lt_of_isBeyond {c : Option ℕ} {t u : ℕ} (ht : isBeyond c t = false)
    (hu : isBeyond c u = true) : t < u := by
  cases c with
  | none => cases ht
  | some x =>
    have hle : ¬ x < t := of_decide_eq_false ht
    have hlt : x < u := of_decide_eq_true hu
    omega

lemma isBeyond_mono {c : Option ℕ} {t u : ℕ} (ht : isBeyond c t = true) (hle : t ≤ u) :
    isBeyond c u = true := by
  cases c with
  | none => rfl
  | some x =>
    have hlt : x < t := of_decide_eq_true ht
    exact decide_eq_true (lt_of_lt_of_le hlt hle)

lemma isBeyond_some {x t : ℕ} : isBeyond (some x) t = true ↔ x < t := decide_eq_true_iff

lemma advanceCursor_cons (c : Option ℕ) (v : AttentionView) (rest : List AttentionView) :
    advanceCursor c (v :: rest) = some v.createdAt := by
  rw [advanceCursor, List.foldl_reverse]
  rfl

/-! ## A listing -/

lemma id_mem_attentionColumns : AttentionEventRow.id ∈ attentionColumns := List.mem_cons_self

lemma row_eq {events : AttentionEvents} {row row' : AttentionEventRow} (h : row ∈ events.rows)
    (h' : row' ∈ events.rows) (hid : row.id = row'.id) : row = row' :=
  List.inj_on_of_nodup_map (events.unique _ id_mem_attentionColumns) h h' hid

lemma mem_pendingSince {events : AttentionEvents} {c : Option ℕ} {row : AttentionEventRow} :
    row ∈ pendingSince orgId c events ↔
      row ∈ events.rows ∧ isPending orgId row = true ∧ isBeyond c row.createdAt = true := by
  rw [pendingSince, List.mem_filter, Bool.and_eq_true]

lemma mem_of_mem_listAttention {rank : JsString → ℕ} {events : AttentionEvents} {c : Option ℕ}
    {row : AttentionEventRow} (h : row ∈ listAttention rank orgId c events) :
    row ∈ events.rows ∧ isPending orgId row = true ∧ isBeyond c row.createdAt = true :=
  mem_pendingSince.1 (mem_of_mem_newest h)

lemma nodup_listAttention (rank : JsString → ℕ) (c : Option ℕ) (events : AttentionEvents) :
    ((listAttention rank orgId c events).map AttentionEventRow.id).Nodup := by
  refine nodup_map_newest ?_
  exact (events.unique _ id_mem_attentionColumns).sublist (List.filter_sublist.map _)

lemma react_list (h : s.isPolling = true) (rank : JsString → ℕ) :
    (s.react orgId (.list rank)).page = (listAttention rank orgId s.since s.events).map toView := by
  rw [isPolling] at h
  split at h
  · next listed hstage =>
    rw [AttentionWatch.react, hstage]
    dsimp only
    rw [pollAttention]
    cases hrows : listAttention rank orgId s.since s.events with
    | nil => rfl
    | cons row rest => rfl
  · cases h

lemma react_list_of_not (h : s.isPolling = false) (rank : JsString → ℕ) :
    s.react orgId (.list rank) = s := by
  rw [AttentionWatch.react]
  split
  · next listed hstage =>
    rw [isPolling, hstage] at h
    cases h
  · rfl

lemma page_of_isPolling (h : s.isPolling = true) : s.page = [] := by
  rw [isPolling] at h
  split at h
  · next listed hstage => rw [page, hstage]
  · cases h

lemma cursor_of_isPolling (h : s.isPolling = true) : s.cursor = s.since := by
  rw [cursor, page_of_isPolling h]
  rfl

lemma seen_of_isPolling (h : s.isPolling = true) : s.seen = s.delivered := by
  rw [seen, page_of_isPolling h]
  exact List.append_nil _

lemma seen_list (h : s.isPolling = true) (rank : JsString → ℕ) :
    (s.react orgId (.list rank)).seen =
      s.seen ++ ((listAttention rank orgId s.cursor s.events).map toView).reverse := by
  have hdelivered : (s.react orgId (.list rank)).delivered = s.delivered := by
    rw [AttentionWatch.react]
    split <;> rfl
  rw [seen, react_list h, hdelivered, seen_of_isPolling h, cursor_of_isPolling h]

lemma cursor_list (h : s.isPolling = true) (rank : JsString → ℕ) :
    (s.react orgId (.list rank)).cursor =
      advanceCursor s.cursor ((listAttention rank orgId s.cursor s.events).map toView) := by
  have hsince : (s.react orgId (.list rank)).since = s.since := by
    rw [AttentionWatch.react]
    split <;> rfl
  rw [cursor, react_list h, hsince, cursor_of_isPolling h]

variable (orgId) in
lemma events_list (s : AttentionWatch) (rank : JsString → ℕ) :
    (s.react orgId (.list rank)).events = s.events := by
  rw [AttentionWatch.react]
  split <;> rfl

/-! ## What a step changes -/

/-- What a step does to the queue, and to what the watcher has been given. -/
inductive Change (orgId : JsString) (s t : AttentionWatch) : AttentionStep → Prop
  | raised (row : AttentionEventRow) : s.events.get AttentionEventRow.id row.id = none →
      t.events.rows = s.events.rows ++ [row.raised] → t.seen = s.seen → t.cursor = s.cursor →
      Change orgId s t (.raise row)
  | acked (now : ℕ) (org id : JsString) : t.events = ackAttention now org id s.events →
      t.seen = s.seen → t.cursor = s.cursor → Change orgId s t (.ack now org id)
  | listed (rank : JsString → ℕ) : s.isPolling = true → t.events = s.events →
      t.seen = s.seen ++ ((listAttention rank orgId s.cursor s.events).map toView).reverse →
      t.cursor = advanceCursor s.cursor ((listAttention rank orgId s.cursor s.events).map toView) →
      Change orgId s t (.list rank)
  | same (e : AttentionStep) : t.events = s.events → t.seen = s.seen → t.cursor = s.cursor →
      Change orgId s t e

lemma change_raise (orgId : JsString) (s : AttentionWatch) (row : AttentionEventRow) :
    Change orgId s (s.react orgId (.raise row)) (.raise row) := by
  rw [AttentionWatch.react]
  split
  · exact .same _ rfl rfl rfl
  · next events hinsert =>
    have hnone : s.events.get AttentionEventRow.id row.raised.id = none :=
      Table.get_of_insert id_mem_attentionColumns hinsert
    rw [Table.insert] at hinsert
    split at hinsert
    · cases hinsert
      exact .raised row hnone rfl rfl rfl
    · cases hinsert

lemma change_list (orgId : JsString) (s : AttentionWatch) (rank : JsString → ℕ) :
    Change orgId s (s.react orgId (.list rank)) (.list rank) := by
  cases hpolling : s.isPolling with
  | false =>
    rw [react_list_of_not hpolling]
    exact .same _ rfl rfl rfl
  | true =>
    exact .listed rank hpolling (events_list orgId s rank) (seen_list hpolling rank)
      (cursor_list hpolling rank)

/-- Polling, running out and taking an answer change nothing of what the watcher has been given. -/
lemma change (orgId : JsString) (s : AttentionWatch) (e : AttentionStep) :
    Change orgId s (s.react orgId e) e := by
  cases e with
  | raise row => exact change_raise orgId s row
  | ack now org id => exact .acked now org id rfl rfl rfl
  | list rank => exact change_list orgId s rank
  | poll =>
    rw [AttentionWatch.react]
    split
    · next hstage => refine .same _ rfl ?_ ?_ <;> simp [seen, cursor, page, hstage]
    · exact .same _ rfl rfl rfl
  | timeout =>
    rw [AttentionWatch.react]
    split
    · next hstage => refine .same _ rfl ?_ ?_ <;> simp [seen, cursor, page, hstage]
    · exact .same _ rfl rfl rfl
  | receive =>
    rw [AttentionWatch.react]
    split
    · next events hstage =>
      refine .same _ rfl ?_ ?_
      · simp [seen, page, hstage]
      · simp [cursor, page, hstage, advanceCursor]
    · exact .same _ rfl rfl rfl

/-! ## What is given once -/

/-- What is known of what the watcher has been given. -/
structure Watched (since : Option ℕ) (s : AttentionWatch) : Prop where
  bounded : ∀ v ∈ s.seen, isBeyond s.cursor v.createdAt = false
  once : (s.seen.map AttentionView.id).Nodup
  rows : ∀ v ∈ s.seen, ∃ row ∈ s.events.rows, toView row = v
  start : ∀ t, isBeyond s.cursor t = true → isBeyond since t = true

lemma Watched.of_same (h : s.Watched since) {t : AttentionWatch} (hseen : t.seen = s.seen)
    (hcursor : t.cursor = s.cursor)
    (hrows : ∀ row ∈ s.events.rows, ∃ row' ∈ t.events.rows, toView row' = toView row) :
    t.Watched since := by
  refine ⟨?_, ?_, fun v hv => ?_, ?_⟩
  · rw [hseen, hcursor]
    exact h.bounded
  · rw [hseen]
    exact h.once
  · rw [hseen] at hv
    obtain ⟨row, hrow, rfl⟩ := h.rows v hv
    exact hrows row hrow
  · rw [hcursor]
    exact h.start

variable {t : AttentionWatch}

lemma Watched.list (h : s.Watched since) {rank : JsString → ℕ} (hevents : t.events = s.events)
    (hseen : t.seen = s.seen ++ ((listAttention rank orgId s.cursor s.events).map toView).reverse)
    (hcursor : t.cursor =
      advanceCursor s.cursor ((listAttention rank orgId s.cursor s.events).map toView)) :
    t.Watched since := by
  have hpage : ∀ row ∈ listAttention rank orgId s.cursor s.events,
      row ∈ s.events.rows ∧ isPending orgId row = true ∧ isBeyond s.cursor row.createdAt = true :=
    fun row hrow => mem_of_mem_listAttention hrow
  refine ⟨fun v hv => ?_, ?_, fun v hv => ?_, fun u hu => ?_⟩
  · rw [hseen] at hv
    rw [hcursor]
    cases hrows : listAttention rank orgId s.cursor s.events with
    | nil =>
      rw [hrows, List.map_nil, List.reverse_nil, List.append_nil] at hv
      exact h.bounded v hv
    | cons first rest =>
      rw [List.map_cons, advanceCursor_cons]
      have hfirst := (hpage first (by rw [hrows]; exact List.mem_cons_self)).2.2
      refine Bool.eq_false_iff.2 fun hbeyond => ?_
      have hlt : first.createdAt < v.createdAt := isBeyond_some.1 hbeyond
      rcases List.mem_append.1 hv with hold | hnew
      · have hless := lt_of_isBeyond (h.bounded v hold) hfirst
        omega
      · rw [List.mem_reverse, List.mem_map] at hnew
        obtain ⟨row, hrow, rfl⟩ := hnew
        have hle := pos_le_of_newest hrows hrow
        have hlt : first.createdAt < row.createdAt := hlt
        omega
  · rw [hseen, List.map_append, List.map_reverse, List.map_map, List.nodup_append]
    refine ⟨h.once, List.nodup_reverse.2 (nodup_listAttention rank s.cursor s.events), ?_⟩
    rintro _ hold _ hnew rfl
    obtain ⟨v, hv, hid⟩ := List.mem_map.1 hold
    obtain ⟨row, hrow, hid'⟩ := List.mem_map.1 (List.mem_reverse.1 hnew)
    obtain ⟨row', hrow', rfl⟩ := h.rows v hv
    obtain ⟨hmem, -, hbeyond⟩ := hpage row hrow
    -- a row that was given is not beyond the cursor
    have hsame : row' = row := row_eq hrow' hmem (hid.trans hid'.symm)
    have hbounded := h.bounded _ hv
    rw [hsame] at hbounded
    have hbounded : isBeyond s.cursor row.createdAt = false := hbounded
    rw [hbeyond] at hbounded
    cases hbounded
  · rw [hseen] at hv
    rw [hevents]
    rcases List.mem_append.1 hv with hold | hnew
    · exact h.rows v hold
    · obtain ⟨row, hrow, rfl⟩ := List.mem_map.1 (List.mem_reverse.1 hnew)
      exact ⟨row, (hpage row hrow).1, rfl⟩
  · rw [hcursor] at hu
    cases hrows : listAttention rank orgId s.cursor s.events with
    | nil =>
      rw [hrows] at hu
      exact h.start u hu
    | cons first rest =>
      rw [hrows, List.map_cons, advanceCursor_cons] at hu
      have hfirst := (hpage first (by rw [hrows]; exact List.mem_cons_self)).2.2
      exact h.start u (isBeyond_mono hfirst (le_of_lt (isBeyond_some.1 hu)))

lemma Watched.react (h : s.Watched since) (e : AttentionStep) :
    Watched since (s.react orgId e) := by
  cases change orgId s e with
  | raised row hnone hrows hseen hcursor =>
    refine h.of_same hseen hcursor fun old hold => ⟨old, ?_, rfl⟩
    rw [hrows]
    exact List.mem_append_left _ hold
  | acked now org id hevents hseen hcursor =>
    refine h.of_same hseen hcursor fun old hold => ?_
    refine ⟨_, by rw [hevents]; exact List.mem_map_of_mem hold, ?_⟩
    dsimp only
    split <;> rfl
  | listed rank hpolling hevents hseen hcursor => exact h.list hevents hseen hcursor
  | same _ hevents hseen hcursor =>
    exact h.of_same hseen hcursor fun old hold => ⟨old, by rw [hevents]; exact hold, rfl⟩

lemma watched_init (orgId : JsString) (since : Option ℕ) :
    Watched since (attentionMachine orgId since).init := by
  refine ⟨fun v hv => ?_, List.nodup_nil, fun v hv => ?_, fun _ h => h⟩
  · cases hv
  · cases hv

lemma watched_run (orgId : JsString) (since : Option ℕ) (es : List AttentionStep) :
    Watched since ((attentionMachine orgId since).run es) :=
  Machine.invariant _ (watched_init orgId since) (fun _ e h => h.react e) es

/-! ## What is lost -/

/-- An event that was not given and is not beyond the cursor. -/
structure Lost (v : AttentionView) (s : AttentionWatch) : Prop where
  unseen : v ∉ s.seen
  behind : isBeyond s.cursor v.createdAt = false

lemma cursor_mono (s : AttentionWatch) (e : AttentionStep) {u : ℕ}
    (h : isBeyond s.cursor u = false) : isBeyond (s.react orgId e).cursor u = false := by
  cases change orgId s e with
  | raised row hnone hrows hseen hcursor => rwa [hcursor]
  | acked now org id hevents hseen hcursor => rwa [hcursor]
  | listed rank hpolling hevents hseen hcursor =>
    rw [hcursor]
    cases hrows : listAttention rank orgId s.cursor s.events with
    | nil => exact h
    | cons first rest =>
      have hfirst : first ∈ listAttention rank orgId s.cursor s.events := by
        rw [hrows]
        exact List.mem_cons_self
      have hlt := lt_of_isBeyond h (mem_of_mem_listAttention hfirst).2.2
      rw [List.map_cons, advanceCursor_cons]
      refine Bool.eq_false_iff.2 fun hbeyond => ?_
      have hgt : first.createdAt < u := isBeyond_some.1 hbeyond
      omega
  | same _ hevents hseen hcursor => rwa [hcursor]

lemma Lost.react {v : AttentionView} (h : Lost v s) (e : AttentionStep) :
    Lost v (s.react orgId e) := by
  refine ⟨?_, cursor_mono s e h.behind⟩
  cases change orgId s e with
  | raised row hnone hrows hseen hcursor =>
    rw [hseen]
    exact h.unseen
  | acked now org id hevents hseen hcursor =>
    rw [hseen]
    exact h.unseen
  | listed rank hpolling hevents hseen hcursor =>
    rw [hseen, List.mem_append, not_or]
    refine ⟨h.unseen, fun hnew => ?_⟩
    obtain ⟨row, hrow, rfl⟩ := List.mem_map.1 (List.mem_reverse.1 hnew)
    -- a listing gives only what is beyond the cursor
    have hbeyond := (mem_of_mem_listAttention hrow).2.2
    have hbehind : isBeyond s.cursor row.createdAt = false := h.behind
    rw [hbeyond] at hbehind
    cases hbehind
  | same _ hevents hseen hcursor =>
    rw [hseen]
    exact h.unseen

lemma lost_runFrom {v : AttentionView} (orgId : JsString) (since : Option ℕ) (h : Lost v s)
    (es : List AttentionStep) : Lost v ((attentionMachine orgId since).runFrom s es) :=
  Machine.runFrom_of_step _ (p := Lost v) (fun _ e h => h.react e) h es

end AttentionWatch

/-! ## The law -/

open AttentionWatch

variable {orgId : JsString} {since : Option ℕ} {es : List AttentionStep}

/-- In every state of a run the watcher has been given no event twice, and behind every listing for
its poll it has been given each event that is pending. -/
structure AttentionOnce (orgId : JsString) (since : Option ℕ) (es : List AttentionStep) : Prop where
  once : ∀ pre, pre <+: es →
    (((attentionMachine orgId since).run pre).seen.map AttentionView.id).Nodup
  complete : ∀ pre rank, pre ++ [.list rank] <+: es →
    ((attentionMachine orgId since).run pre).isPolling = true →
    ∀ row ∈ ((attentionMachine orgId since).run pre).events.rows,
      isPending orgId row = true → isBeyond since row.createdAt = true →
      toView row ∈ ((attentionMachine orgId since).run (pre ++ [.list rank])).seen

/-- An event that is still pending at a listing was beyond the cursor when it was inserted. -/
def InsertedBeyond (orgId : JsString) (since : Option ℕ) (es : List AttentionStep) : Prop :=
  ∀ pre row mid rank, pre ++ .raise row :: (mid ++ [.list rank]) <+: es →
    ((attentionMachine orgId since).run pre).events.get AttentionEventRow.id row.id = none →
    ((attentionMachine orgId since).run (pre ++ .raise row :: mid)).isPolling = true →
    row.raised ∈ ((attentionMachine orgId since).run (pre ++ .raise row :: mid)).events.rows →
    row.orgId = orgId → isBeyond since row.createdAt = true →
    isBeyond ((attentionMachine orgId since).run pre).cursor row.createdAt = true

/-- What a listing for a poll selects fits a page. -/
def fitsPage (orgId : JsString) (s : AttentionWatch) : AttentionStep → Prop
  | .list _ => s.isPolling = true → (pendingSince orgId s.cursor s.events).length ≤ listCap
  | _ => True

/-! ## Where the condition holds -/

/-- An event that was not beyond the cursor when it was inserted. -/
def InsertedBehind (orgId : JsString) (since : Option ℕ) (es : List AttentionStep)
    (row : AttentionEventRow) : Prop :=
  ∃ pre row' mid, es = pre ++ .raise row' :: mid ∧ row'.raised = row ∧
    ((attentionMachine orgId since).run pre).events.get AttentionEventRow.id row'.id = none ∧
    isBeyond ((attentionMachine orgId since).run pre).cursor row'.createdAt = false

lemma InsertedBehind.snoc {row : AttentionEventRow} (h : InsertedBehind orgId since es row)
    (e : AttentionStep) : InsertedBehind orgId since (es ++ [e]) row := by
  obtain ⟨pre, row', mid, rfl, hrow, hnone, hbehind⟩ := h
  exact ⟨pre, row', mid ++ [e], by simp, hrow, hnone, hbehind⟩

/-- A pending event is beyond the cursor, or was given, or was inserted behind the cursor. -/
def Covered (orgId : JsString) (since : Option ℕ) (es : List AttentionStep) (s : AttentionWatch) :
    Prop :=
  ∀ row ∈ s.events.rows, isPending orgId row = true → isBeyond since row.createdAt = true →
    isBeyond s.cursor row.createdAt = true ∨ toView row ∈ s.seen ∨ InsertedBehind orgId since es row

lemma isPending_raised {row : AttentionEventRow} :
    isPending orgId row.raised = true ↔ row.orgId = orgId := by
  rw [isPending, AttentionEventRow.raised, Option.isNone_none, Bool.and_true]
  exact decide_eq_true_iff

lemma mem_of_mem_ackAttention {now : ℕ} {org id : JsString} {events : AttentionEvents}
    {row : AttentionEventRow} (h : row ∈ (ackAttention now org id events).rows)
    (hpending : isPending orgId row = true) : row ∈ events.rows := by
  obtain ⟨old, hold, heq⟩ := List.mem_map.1 h
  dsimp only at heq
  split at heq
  · subst heq
    rw [isPending, AttentionEventRow.ack, Option.isNone_some, Bool.and_false] at hpending
    cases hpending
  · rwa [heq] at hold

lemma mem_seen_of_fits {s : AttentionWatch} {rank : JsString → ℕ} {row : AttentionEventRow}
    (hfits : (pendingSince orgId s.cursor s.events).length ≤ listCap) (hrow : row ∈ s.events.rows)
    (hpending : isPending orgId row = true) (hbeyond : isBeyond s.cursor row.createdAt = true) :
    toView row ∈ s.seen ++ ((listAttention rank orgId s.cursor s.events).map toView).reverse := by
  refine List.mem_append_right _ (List.mem_reverse.2 (List.mem_map_of_mem ?_))
  exact (mem_newest_of_length_le hfits).2 (mem_pendingSince.2 ⟨hrow, hpending, hbeyond⟩)

lemma Covered.step {s : AttentionWatch} (hs : s = (attentionMachine orgId since).run es)
    (h : Covered orgId since es s) {e : AttentionStep} (hfits : fitsPage orgId s e) :
    Covered orgId since (es ++ [e]) (s.react orgId e) := by
  intro row hrow hpending hstart
  have hold : row ∈ s.events.rows → isBeyond s.cursor row.createdAt = true ∨ toView row ∈ s.seen ∨
      InsertedBehind orgId since (es ++ [e]) row := fun hold =>
    (h row hold hpending hstart).imp_right (Or.imp_right fun hbehind => hbehind.snoc e)
  cases change orgId s e with
  | raised new hnone hrows hseen hcursor =>
    rw [hseen, hcursor]
    rw [hrows, List.mem_append, List.mem_singleton] at hrow
    rcases hrow with hmem | rfl
    · exact hold hmem
    · cases hbeyond : isBeyond s.cursor new.createdAt with
      | true => exact Or.inl hbeyond
      | false =>
        refine Or.inr (Or.inr ⟨es, new, [], rfl, rfl, ?_, ?_⟩)
        · rwa [← hs]
        · rwa [← hs]
  | acked now org id hevents hseen hcursor =>
    rw [hseen, hcursor]
    rw [hevents] at hrow
    exact hold (mem_of_mem_ackAttention hrow hpending)
  | listed rank hpolling hevents hseen hcursor =>
    rw [hevents] at hrow
    rw [hseen]
    rcases hold hrow with hbeyond | hgiven | hbehind
    · exact Or.inr (Or.inl (mem_seen_of_fits (hfits hpolling) hrow hpending hbeyond))
    · exact Or.inr (Or.inl (List.mem_append_left _ hgiven))
    · exact Or.inr (Or.inr hbehind)
  | same _ hevents hseen hcursor =>
    rw [hseen, hcursor]
    rw [hevents] at hrow
    exact hold hrow

lemma covered_run (h : (attentionMachine orgId since).Meets (fitsPage orgId) es) :
    Covered orgId since es ((attentionMachine orgId since).run es) :=
  Machine.history_invariant_of_meets _ (p := Covered orgId since)
    (fun row hrow _ _ => by cases hrow) (fun _ _ hfits hcovered => hcovered.step rfl hfits) h

/-! ## Where it does not -/

lemma lost_of_raise {s : AttentionWatch} (h : s.Watched since) {row : AttentionEventRow}
    (hnone : s.events.get AttentionEventRow.id row.id = none)
    (hbehind : isBeyond s.cursor row.createdAt = false) : Lost (toView row) s := by
  refine ⟨fun hgiven => ?_, hbehind⟩
  obtain ⟨row', hrow', hview⟩ := h.rows _ hgiven
  have hid : row'.id = row.id := congrArg AttentionView.id hview
  have hsome := (Table.get_eq_some id_mem_attentionColumns).2 ⟨hrow', hid⟩
  rw [hnone] at hsome
  cases hsome

lemma fits_of_given (rank : JsString → ℕ) {s : AttentionWatch} (h : s.Watched since)
    (hgiven : ∀ row ∈ pendingSince orgId s.cursor s.events,
      toView row ∈ s.seen ++ ((listAttention rank orgId s.cursor s.events).map toView).reverse) :
    (pendingSince orgId s.cursor s.events).length ≤ listCap := by
  have hlisted : ∀ row ∈ pendingSince orgId s.cursor s.events,
      row.id ∈ (listAttention rank orgId s.cursor s.events).map AttentionEventRow.id := by
    intro row hrow
    rcases List.mem_append.1 (hgiven row hrow) with hold | hnew
    · -- what is beyond the cursor was not given before
      have hbounded : isBeyond s.cursor row.createdAt = false := h.bounded _ hold
      rw [(mem_pendingSince.1 hrow).2.2] at hbounded
      cases hbounded
    · obtain ⟨row', hrow', hview⟩ := List.mem_map.1 (List.mem_reverse.1 hnew)
      exact List.mem_map.2 ⟨row', hrow', congrArg AttentionView.id hview⟩
  have hnodup : ((pendingSince orgId s.cursor s.events).map AttentionEventRow.id).Nodup :=
    (s.events.unique _ id_mem_attentionColumns).sublist (List.filter_sublist.map _)
  have hsubset : (pendingSince orgId s.cursor s.events).map AttentionEventRow.id ⊆
      (listAttention rank orgId s.cursor s.events).map AttentionEventRow.id := by
    intro id hid
    obtain ⟨row, hrow, rfl⟩ := List.mem_map.1 hid
    exact hlisted row hrow
  have hle := (List.subperm_of_subset hnodup hsubset).length_le
  rw [List.length_map, List.length_map] at hle
  exact hle.trans length_newest_le

/-- **What a watcher receives.** A watcher is given no event twice, and it is given each event that
stays pending, exactly when no such event is inserted behind its cursor and no listing selects more
than a page holds. -/
theorem attentionOnce_iff (orgId : JsString) (since : Option ℕ) (es : List AttentionStep) :
    AttentionOnce orgId since es ↔
      InsertedBeyond orgId since es ∧ (attentionMachine orgId since).Meets (fitsPage orgId) es := by
  constructor
  · intro h
    refine ⟨fun pre row mid rank hes hnone hpolling hrow horg hstart => ?_, ?_⟩
    · by_contra hbehind
      rw [Bool.not_eq_true] at hbehind
      have hes' : (pre ++ .raise row :: mid) ++ [.list rank] <+: es := by simpa using hes
      have hgiven := h.complete _ rank hes' hpolling _ hrow (isPending_raised.2 horg) hstart
      have hlost := lost_of_raise (watched_run orgId since pre) hnone hbehind
      have hlater := lost_runFrom orgId since hlost (.raise row :: (mid ++ [.list rank]))
      rw [← Machine.run_append] at hlater
      refine hlater.unseen ?_
      rwa [List.append_assoc, List.cons_append] at hgiven
    · rintro pre e post rfl
      cases e with
      | list rank =>
        intro hpolling
        refine fits_of_given rank (watched_run orgId since pre) fun row hrow => ?_
        obtain ⟨hmem, hpending, hbeyond⟩ := mem_pendingSince.1 hrow
        have hstart := (watched_run orgId since pre).start _ hbeyond
        have hgiven := h.complete pre rank ⟨post, by simp⟩ hpolling row hmem hpending hstart
        rw [Machine.run_snoc] at hgiven
        rw [← seen_list hpolling rank]
        exact hgiven
      | raise row => trivial
      | ack now org id => trivial
      | poll => trivial
      | timeout => trivial
      | receive => trivial
  · rintro ⟨hbeyond, hfits⟩
    refine ⟨fun pre _ => (watched_run orgId since pre).once, ?_⟩
    rintro pre rank ⟨post, rfl⟩ hpolling row hrow hpending hstart
    have hrun : (attentionMachine orgId since).Meets (fitsPage orgId) (pre ++ [.list rank]) :=
      hfits.prefix
    have hbefore := hrun.prefix
    have hcases := covered_run hbefore row hrow hpending hstart
    rw [Machine.run_snoc]
    show toView row ∈ (AttentionWatch.react orgId _ (.list rank)).seen
    rw [seen_list hpolling rank]
    rcases hcases with hbeyondCursor | hgiven | hbehind
    · have hlast : fitsPage orgId _ (.list rank) := hfits pre (.list rank) post (by simp)
      exact mem_seen_of_fits (hlast hpolling) hrow hpending hbeyondCursor
    · exact List.mem_append_left _ hgiven
    · obtain ⟨before, new, mid, rfl, rfl, hnone, hbehind⟩ := hbehind
      have horg : new.orgId = orgId := isPending_raised.1 hpending
      have hcontra := hbeyond before new mid rank ⟨post, by simp⟩ hnone hpolling hrow horg hstart
      rw [hbehind] at hcontra
      cases hcontra

/-- An event of an organisation, inserted at a time. -/
def raisedAt (id : String) (createdAt : ℕ) : AttentionStep :=
  .raise ⟨js id, js "org_1", js "host_1", js "sess_1", js "asks", js "Run the migration?", none,
    none, js "call", none, createdAt⟩

/-- Two events of one millisecond, the second of them inserted when the first was listed. -/
def oneMillisecond : List AttentionStep :=
  [raisedAt "att_1" 1000, .poll, .list fun _ => 0, .receive, raisedAt "att_2" 1000, .poll,
    .list fun _ => 0]

/-- The second event is never given. -/
theorem not_attentionOnce_oneMillisecond :
    ¬ AttentionOnce (js "org_1") none oneMillisecond := by
  intro h
  have hgiven := h.complete
    [raisedAt "att_1" 1000, .poll, .list fun _ => 0, .receive, raisedAt "att_2" 1000, .poll]
    (fun _ => 0) (by rw [oneMillisecond]; exact List.prefix_refl _) (by decide +kernel)
    ⟨js "att_2", js "org_1", js "host_1", js "sess_1", js "asks", js "Run the migration?", none,
      none, js "call", none, 1000⟩ (by decide +kernel) (by decide +kernel) rfl
  exact absurd hgiven (by decide +kernel)

end Pherry.ControlPlane
