import Mathlib.Data.List.Pairwise
import Pherry.Host.SessionTerminal

/-!
# The sizing policy

Who the size of a session belongs to, as it is meant: the viewers that are attached in the order
they were last recorded, a resize that claims, a departure that lets the most recent viewer inherit.
A terminal keeps the same by ticks, and follows the policy step by step.
-/

namespace Pherry.Host

open Lib Protocol

/-- What a viewer does that the policy is about. -/
inductive Viewing (V S : Type*)
  | observe (viewer : V) (size : S)
  | resize (viewer : V) (size : S)
  | depart (viewer : V)

/-- The size, whom it belongs to, and the viewports of the attached viewers, the most recently
recorded first. -/
structure SizingPolicy (V S : Type*) where
  size : S
  authority : Option V
  viewports : List (V × S)

/-- Whether the viewer is recorded by it. -/
def Viewing.Records {V S : Type*} (viewer : V) : Viewing V S → Prop
  | observe other _ => other = viewer
  | resize other _ => other = viewer
  | depart _ => False

namespace SizingPolicy

variable {V S : Type*}

/-- A viewer is a candidate when its viewport is recorded. -/
def Candidate (p : SizingPolicy V S) (viewer : V) : Prop := viewer ∈ p.viewports.map Prod.fst

lemma candidate_iff {p : SizingPolicy V S} {viewer : V} :
    p.Candidate viewer ↔ ∃ size, (viewer, size) ∈ p.viewports := by
  simp [Candidate]

variable [DecidableEq V]

/-- The viewports without that of a viewer. -/
def without (viewports : List (V × S)) (viewer : V) : List (V × S) :=
  viewports.filter fun record => record.1 ≠ viewer

/-- A new session of this size: nobody is attached. -/
def start (size : S) : SizingPolicy V S := ⟨size, none, []⟩

/-- Forget a viewer. The size of the authority goes to the viewer recorded last. -/
def depart (p : SizingPolicy V S) (viewer : V) : SizingPolicy V S :=
  if p.authority = some viewer then
    match without p.viewports viewer with
    | [] => ⟨p.size, none, []⟩
    | (heir, size) :: rest => ⟨size, some heir, (heir, size) :: rest⟩
  else { p with viewports := without p.viewports viewer }

/-- One event of the policy. -/
def step (p : SizingPolicy V S) : Viewing V S → SizingPolicy V S
  | .observe viewer size => { p with viewports := (viewer, size) :: without p.viewports viewer }
  | .resize viewer size => ⟨size, some viewer, (viewer, size) :: without p.viewports viewer⟩
  | .depart viewer => p.depart viewer

/-- The policy folded over a history. -/
def fold (size : S) (history : List (Viewing V S)) : SizingPolicy V S :=
  history.foldl step (start size)

lemma fold_append (size : S) (history more : List (Viewing V S)) :
    fold size (history ++ more) = more.foldl step (fold size history) := List.foldl_append

lemma fold_snoc (size : S) (history : List (Viewing V S)) (e : Viewing V S) :
    fold size (history ++ [e]) = (fold size history).step e := fold_append size history [e]

lemma mem_without {viewports : List (V × S)} {viewer : V} {record : V × S} :
    record ∈ without viewports viewer ↔ record ∈ viewports ∧ record.1 ≠ viewer := by
  simp [without]

lemma viewports_depart (p : SizingPolicy V S) (viewer : V) :
    (p.depart viewer).viewports = without p.viewports viewer := by
  unfold depart
  split
  · split <;> simp_all
  · rfl

lemma candidate_depart {p : SizingPolicy V S} {viewer other : V} :
    (p.depart viewer).Candidate other ↔ p.Candidate other ∧ other ≠ viewer := by
  rw [candidate_iff, candidate_iff, viewports_depart]
  simp only [mem_without]
  constructor
  · rintro ⟨size, hmem, hne⟩
    exact ⟨⟨size, hmem⟩, hne⟩
  · rintro ⟨⟨size, hmem⟩, hne⟩
    exact ⟨size, hmem, hne⟩

lemma mem_record {viewports : List (V × S)} {viewer other : V} {size size' : S} :
    (other, size') ∈ (viewer, size) :: without viewports viewer ↔
      (other = viewer ∧ size' = size) ∨ ((other, size') ∈ viewports ∧ other ≠ viewer) := by
  rw [List.mem_cons, mem_without, Prod.mk.injEq]

lemma candidate_record {p : SizingPolicy V S} {viewer other : V} {size : S}
    {authority : Option V} {now : S} :
    Candidate ⟨now, authority, (viewer, size) :: without p.viewports viewer⟩ other ↔
      other = viewer ∨ p.Candidate other := by
  rw [candidate_iff, candidate_iff]
  simp only [mem_record]
  constructor
  · rintro ⟨size', ⟨heq, -⟩ | ⟨hmem, -⟩⟩
    · exact .inl heq
    · exact .inr ⟨size', hmem⟩
  · intro h
    by_cases heq : other = viewer
    · exact ⟨size, .inl ⟨heq, rfl⟩⟩
    · obtain ⟨size', hmem⟩ := h.resolve_left heq
      exact ⟨size', .inr ⟨hmem, heq⟩⟩

lemma candidate_step {p : SizingPolicy V S} {e : Viewing V S} {viewer : V}
    (h : (p.step e).Candidate viewer) : e.Records viewer ∨ p.Candidate viewer := by
  cases e with
  | observe other size => exact (candidate_record.1 h).imp Eq.symm id
  | resize other size => exact (candidate_record.1 h).imp Eq.symm id
  | depart other => exact .inr (candidate_depart.1 h).1

/-- The size belongs to an attached viewer, or to nobody. -/
def Owned (p : SizingPolicy V S) : Prop := ∀ viewer, p.authority = some viewer → p.Candidate viewer

lemma Owned.step {p : SizingPolicy V S} (h : p.Owned) (e : Viewing V S) : (p.step e).Owned := by
  intro viewer hauthority
  cases e with
  | observe other size => exact candidate_record.2 (.inr (h viewer hauthority))
  | resize other size => exact candidate_record.2 (.inl (Option.some.inj hauthority).symm)
  | depart other =>
    rw [candidate_iff]
    rw [SizingPolicy.step, depart] at hauthority ⊢
    split at hauthority
    · next howner =>
      rw [if_pos howner]
      split at hauthority
      · cases hauthority
      · next heir size rest _ =>
        obtain rfl := Option.some.inj hauthority
        exact ⟨size, List.mem_cons_self⟩
    · next howner =>
      rw [if_neg howner]
      obtain ⟨size, hmem⟩ := candidate_iff.1 (h viewer hauthority)
      refine ⟨size, mem_without.2 ⟨hmem, ?_⟩⟩
      rintro rfl
      exact howner hauthority

lemma Owned.depart_of_absent {p : SizingPolicy V S} (h : p.Owned) {viewer : V}
    (habsent : ¬ p.Candidate viewer) : p.depart viewer = p := by
  have hwithout : without p.viewports viewer = p.viewports := by
    unfold without
    rw [List.filter_eq_self]
    intro record hmem
    refine decide_eq_true fun heq => habsent ?_
    exact heq ▸ List.mem_map_of_mem hmem
  unfold depart
  rw [if_neg fun hauthority => habsent (h viewer hauthority), hwithout]

lemma owned_fold (size : S) (history : List (Viewing V S)) : (fold size history).Owned := by
  induction history using List.reverseRecOn with
  | nil =>
    intro viewer h
    cases h
  | append_singleton history e ih =>
    rw [fold_snoc]
    exact ih.step e

/-- A viewer that departed and was not recorded since is no candidate and no authority. -/
lemma gone_of_departed (size : S) (before : List (Viewing V S)) (viewer : V)
    {after : List (Viewing V S)} (h : ∀ e ∈ after, ¬ e.Records viewer) :
    ¬ (fold size (before ++ .depart viewer :: after)).Candidate viewer ∧
      (fold size (before ++ .depart viewer :: after)).authority ≠ some viewer := by
  have hcandidate : ¬ (fold size (before ++ .depart viewer :: after)).Candidate viewer := by
    induction after using List.reverseRecOn with
    | nil =>
      rw [fold_snoc]
      intro hnow
      exact (candidate_depart.1 hnow).2 rfl
    | append_singleton after e ih =>
      rw [← List.cons_append, ← List.append_assoc, fold_snoc]
      intro hnow
      have hkept := ih fun e he => h e (List.mem_append_left _ he)
      rcases candidate_step hnow with hrecords | hold
      · exact h e (by simp) hrecords
      · exact hkept hold
  exact ⟨hcandidate, fun hauthority => hcandidate (owned_fold size _ viewer hauthority)⟩

end SizingPolicy

/-! ## The terminal follows the policy -/

namespace Terminal

variable {σ : Type} (em : Emulator σ)

/-- The records of a terminal, the latest first. -/
structure Ranks (t : Terminal σ) (records : List (ℕ × Viewport)) : Prop where
  latest : records.Pairwise fun a b => b.2.recorded < a.2.recorded
  mem : ∀ viewer record, (viewer, record) ∈ records ↔ t.viewports.get viewer = some record
  tick : ∀ record ∈ records, record.2.recorded ≤ t.viewportTick

/-- The terminal is where the policy is: the ticks rank the viewports as the policy lists them. -/
structure Follows (t : Terminal σ) (p : SizingPolicy ℕ Size) : Prop where
  live : t.isOver = false
  size : t.size = p.size
  authority : t.authority = p.authority
  viewports : ∃ records, t.Ranks records ∧
    p.viewports = records.map fun record => (record.1, record.2.size)

lemma follows_new (streamId : ℕ) (size : Size) :
    Follows (Terminal.new em streamId size) (.start size) :=
  ⟨rfl, rfl, rfl, [], ⟨List.Pairwise.nil, fun _ _ => by simp [Terminal.new], by simp⟩, rfl⟩

/-- The fold that looks for the latest record finds one that is no earlier than any other. -/
lemma latest_of_foldl (step : Option (ℕ × Viewport) → ℕ × Viewport → Option (ℕ × Viewport))
    (hsome : ∀ best candidate, step (some best) candidate
      = if candidate.2.recorded > best.2.recorded then some candidate else some best)
    (l : List (ℕ × Viewport)) (best : ℕ × Viewport) :
    ∃ last, l.foldl step (some best) = some last ∧ (last = best ∨ last ∈ l) ∧
      best.2.recorded ≤ last.2.recorded ∧ ∀ candidate ∈ l, candidate.2.recorded ≤ last.2.recorded := by
  induction l generalizing best with
  | nil => exact ⟨best, rfl, .inl rfl, Nat.le_refl _, by simp⟩
  | cons candidate l ih =>
    rw [List.foldl_cons, hsome]
    by_cases h : candidate.2.recorded > best.2.recorded
    · rw [if_pos h]
      obtain ⟨last, hfold, hmem, hle, hall⟩ := ih candidate
      refine ⟨last, hfold, .inr ?_, by omega, fun other hother => ?_⟩
      · rcases hmem with rfl | hmem
        · exact List.mem_cons_self
        · exact List.mem_cons_of_mem _ hmem
      · rcases List.mem_cons.1 hother with rfl | hother
        · exact hle
        · exact hall other hother
    · rw [if_neg h]
      obtain ⟨last, hfold, hmem, hle, hall⟩ := ih best
      refine ⟨last, hfold, ?_, hle, fun other hother => ?_⟩
      · rcases hmem with rfl | hmem
        · exact .inl rfl
        · exact .inr (List.mem_cons_of_mem _ hmem)
      · rcases List.mem_cons.1 hother with rfl | hother
        · omega
        · exact hall other hother

lemma Ranks.heir {t : Terminal σ} {records : List (ℕ × Viewport)} (h : t.Ranks records) :
    t.heir = records.head? := by
  have hentries : ∀ record, record ∈ t.viewports.entries ↔ record ∈ records := by
    rintro ⟨viewer, record⟩
    rw [h.mem, InsertionMap.mem_entries_iff]
  unfold Terminal.heir
  cases hl : t.viewports.entries with
  | nil =>
    have hnil : records = [] := by
      apply List.eq_nil_iff_forall_not_mem.2
      intro record hmem
      have hnot := (hentries record).2 hmem
      rw [hl] at hnot
      cases hnot
    rw [hnil]
    rfl
  | cons first rest =>
    -- whatever the fold takes a later candidate with, it ends at the top record
    suffices htop : ∀ step : Option (ℕ × Viewport) → ℕ × Viewport → Option (ℕ × Viewport),
        (∀ best candidate, step (some best) candidate =
          if candidate.2.recorded > best.2.recorded then some candidate else some best) →
        rest.foldl step (some first) = records.head? by
      exact htop _ fun _ _ => rfl
    intro step hstep
    obtain ⟨last, hfold, hmem, hle, hall⟩ := latest_of_foldl step hstep rest first
    refine hfold.trans ?_
    have hlast : last ∈ records := by
      rw [← hentries, hl]
      rcases hmem with rfl | hmem
      · exact List.mem_cons_self
      · exact List.mem_cons_of_mem _ hmem
    cases hrecords : records with
    | nil =>
      rw [hrecords] at hlast
      cases hlast
    | cons top others =>
      rw [List.head?_cons]
      rw [hrecords] at hlast
      rcases List.mem_cons.1 hlast with rfl | hlater
      · rfl
      · -- the top record is later than the last one, which is later than every entry
        exfalso
        have hlatest := h.latest
        rw [hrecords] at hlatest
        have hlt := (List.pairwise_cons.1 hlatest).1 last hlater
        have htop : top ∈ first :: rest := by
          rw [← hl, hentries, hrecords]
          exact List.mem_cons_self
        rcases List.mem_cons.1 htop with rfl | htop
        · omega
        · have hbound := hall top htop
          omega

lemma Ranks.erase {t : Terminal σ} {records : List (ℕ × Viewport)} (h : t.Ranks records)
    (viewer : ℕ) : Ranks { t with viewports := t.viewports.erase viewer }
      (SizingPolicy.without records viewer) where
  latest := h.latest.filter _
  mem other record := by
    rw [SizingPolicy.mem_without, h.mem, InsertionMap.get_erase_eq_some]
    exact And.comm
  tick record hmem := h.tick record (SizingPolicy.mem_without.1 hmem).1

lemma sizes_without (records : List (ℕ × Viewport)) (viewer : ℕ) :
    (SizingPolicy.without records viewer).map (fun record => (record.1, record.2.size))
      = SizingPolicy.without (records.map fun record => (record.1, record.2.size)) viewer := by
  simp [SizingPolicy.without, List.filter_map, Function.comp_def]

lemma Ranks.record {t : Terminal σ} {records : List (ℕ × Viewport)} (h : t.Ranks records)
    (viewer : ℕ) (size : Size) : (t.record viewer size).Ranks
      ((viewer, ⟨size, t.viewportTick + 1⟩) :: SizingPolicy.without records viewer) where
  latest := by
    refine List.pairwise_cons.2 ⟨fun other hmem => ?_, h.latest.filter _⟩
    have htick := h.tick other (SizingPolicy.mem_without.1 hmem).1
    show other.2.recorded < t.viewportTick + 1
    omega
  mem other record := by
    rw [List.mem_cons, SizingPolicy.mem_without, h.mem, Terminal.record, InsertionMap.get_set]
    by_cases he : other = viewer
    · rw [if_pos he, he]
      simp [eq_comm]
    · rw [if_neg he]
      simp [he]
  tick record hmem := by
    rcases List.mem_cons.1 hmem with rfl | hrest
    · exact Nat.le_refl _
    · have htick := h.tick record (SizingPolicy.mem_without.1 hrest).1
      show record.2.recorded ≤ t.viewportTick + 1
      omega

lemma Follows.observe {t : Terminal σ} {p : SizingPolicy ℕ Size} (h : t.Follows p) (viewer : ℕ)
    (size : Size) : (t.record viewer size).Follows (p.step (.observe viewer size)) := by
  obtain ⟨records, hranks, hviewports⟩ := h.viewports
  refine ⟨h.live, h.size, h.authority, _, hranks.record viewer size, ?_⟩
  rw [List.map_cons, sizes_without, ← hviewports]
  rfl

lemma resize_of_live {t : Terminal σ} (h : t.isOver = false) (size : Size) :
    (t.resize em size).1 = { t with
      size
      mirror := em.resize t.mirror size
      seq := t.seq + 1 } := by
  rw [Terminal.resize, if_neg (by simp [h])]
  rfl

lemma Ranks.same {t t' : Terminal σ} {records : List (ℕ × Viewport)} (h : t.Ranks records)
    (hviewports : t'.viewports = t.viewports) (htick : t'.viewportTick = t.viewportTick) :
    t'.Ranks records :=
  ⟨h.latest, by rw [hviewports]; exact h.mem, by rw [htick]; exact h.tick⟩

lemma Follows.resize {t : Terminal σ} {p : SizingPolicy ℕ Size} (h : t.Follows p) (viewer : ℕ)
    (size : Size) :
    (t.react em (.resizeViewer viewer size)).1.Follows (p.step (.resize viewer size)) := by
  obtain ⟨records, hranks, hviewports⟩ := h.viewports
  have hlive : ({ t.record viewer size with authority := some viewer } : Terminal σ).isOver = false :=
    h.live
  rw [Terminal.react, resize_of_live em hlive]
  refine ⟨h.live, rfl, rfl, _, (hranks.record viewer size).same rfl rfl, ?_⟩
  rw [List.map_cons, sizes_without, ← hviewports]
  rfl

lemma Follows.release {t : Terminal σ} {p : SizingPolicy ℕ Size} (h : t.Follows p)
    (howned : p.Owned) (viewer : ℕ) :
    (t.releaseViewer em viewer).1.Follows (p.depart viewer) := by
  obtain ⟨records, hranks, hviewports⟩ := h.viewports
  have herased := hranks.erase viewer
  have hrest : SizingPolicy.without p.viewports viewer
      = (SizingPolicy.without records viewer).map fun record => (record.1, record.2.size) := by
    rw [sizes_without, hviewports]
  unfold Terminal.releaseViewer SizingPolicy.depart
  simp only
  by_cases howner : t.authority = some viewer
  · have howner' : p.authority = some viewer := h.authority ▸ howner
    -- the authority is a candidate, so it has a record
    have hrecord : (t.viewports.get viewer).isSome = true := by
      obtain ⟨size, hmem⟩ := SizingPolicy.candidate_iff.1 (howned viewer howner')
      rw [hviewports] at hmem
      obtain ⟨⟨other, record⟩, hrecord, heq⟩ := List.mem_map.1 hmem
      cases heq
      rw [(hranks.mem other record).1 hrecord]
      rfl
    have hheir : ∀ authority, Terminal.heir { t with viewports := t.viewports.erase viewer, authority }
        = (SizingPolicy.without records viewer).head? := by
      intro authority
      apply Ranks.heir
      exact herased.same rfl rfl
    rw [if_pos howner', if_neg (not_not_intro howner), if_neg (by simp [hrecord]), hheir, hrest]
    cases hrecords : SizingPolicy.without records viewer with
    | nil =>
      refine ⟨h.live, h.size, rfl, [], ?_, rfl⟩
      rw [hrecords] at herased
      exact herased.same rfl rfl
    | cons top others =>
      obtain ⟨heir, record⟩ := top
      rw [hrecords] at herased
      simp only [List.head?_cons, List.map_cons]
      by_cases hsize : record.size ≠ t.size
      · have hlive : ({ t with viewports := t.viewports.erase viewer, authority := some heir } :
            Terminal σ).isOver = false := h.live
        rw [if_pos hsize, resize_of_live em hlive]
        exact ⟨h.live, rfl, rfl, _, herased.same rfl rfl, rfl⟩
      · rw [if_neg hsize]
        exact ⟨h.live, (not_not.1 hsize).symm, rfl, _, herased.same rfl rfl, rfl⟩
  · have howner' : p.authority ≠ some viewer := h.authority ▸ howner
    rw [if_neg howner', if_pos howner]
    exact ⟨h.live, h.size, h.authority, _, herased.same rfl rfl, hrest⟩

lemma Follows.candidate_iff {t : Terminal σ} {p : SizingPolicy ℕ Size} (h : t.Follows p)
    (viewer : ℕ) : p.Candidate viewer ↔ (t.viewports.get viewer).isSome = true := by
  obtain ⟨records, hranks, hviewports⟩ := h.viewports
  rw [SizingPolicy.candidate_iff, hviewports, Option.isSome_iff_exists]
  constructor
  · rintro ⟨size, hmem⟩
    obtain ⟨⟨other, record⟩, hrecord, heq⟩ := List.mem_map.1 hmem
    cases heq
    exact ⟨record, (hranks.mem other record).1 hrecord⟩
  · rintro ⟨record, hget⟩
    exact ⟨record.size, List.mem_map.2 ⟨(viewer, record), (hranks.mem viewer record).2 hget, rfl⟩⟩

end Terminal

end Pherry.Host
