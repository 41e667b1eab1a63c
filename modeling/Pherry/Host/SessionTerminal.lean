import Pherry.Host.Session

/-!
# The terminal under the fan-out

What a session does for its subscribers leaves its terminal alone, but for the mark of its end; so
what the steps of a terminal keep, the steps of a session keep. The bounds of the sizes are kept so.
-/

namespace Pherry.Host

open Lib Protocol

variable {σ : Type} {em : Emulator σ}

/-! ## The fan-out -/

namespace Session

lemma terminal_advance (s : Session σ) (number : ℕ) (left : List Emit) :
    (s.advance em number left).1.terminal = s.terminal := by
  induction left generalizing s with
  | nil => rfl
  | cons first left ih =>
    cases first with
    | frame frame => rfl
    | snapshot => rfl
    | body seq =>
      unfold advance
      split
      · exact ih s
      · rfl
    | ended =>
      unfold advance
      split
      · rfl
      · exact ih s
    | register flow => exact ih (s.register number flow)
    | settle => exact ih (s.pauseFull number)

lemma terminal_emit (s : Session σ) (number : ℕ) (left : List Emit) :
    (s.emit em number left).1.terminal = s.terminal := by
  have hadvance : (s.advance em number left).1.terminal = s.terminal :=
    s.terminal_advance number left
  unfold emit
  split
  · next heq =>
    rw [heq] at hadvance
    exact hadvance
  · next heq =>
    rw [heq] at hadvance
    exact hadvance

lemma terminal_visit (s : Session σ) (frame : PtyFrame) (place : ℕ) :
    (s.visit frame place).1.terminal = s.terminal ∨
      (s.visit frame place).1.terminal = s.terminal.exited frame.seq := by
  unfold visit
  split
  · exact Or.inl rfl
  · dsimp only
    split
    · exact Or.inr rfl
    · exact Or.inl rfl

/-- What the steps of a terminal keep, and the mark of its end, every step of a session keeps. -/
lemma keeps_terminal {p : Terminal σ → Prop} (hexited : ∀ t seq, p t → p (t.exited seq))
    {s : Session σ} {e : SessionEvent}
    (hreact : ∀ t, e = .terminal t → p s.terminal → p (s.terminal.react em t).1)
    (h : p s.terminal) : p (s.react em e).1.terminal := by
  have hvisit : ∀ (t : Session σ) (frame : PtyFrame) (place : ℕ), p t.terminal →
      p (t.visit frame place).1.terminal := by
    intro t frame place ht
    rcases t.terminal_visit frame place with heq | heq
    · rw [heq]
      exact ht
    · rw [heq]
      exact hexited _ _ ht
  cases e with
  | terminal t =>
    have hterminal := hreact t rfl h
    show p (s.onTerminal em t).1.terminal
    unfold onTerminal
    dsimp only
    split
    · exact hterminal
    · exact hvisit _ _ 0 hterminal
  | subscribe flow =>
    show p (s.subscribe em flow).1.terminal
    unfold subscribe
    split
    · exact h
    · rw [terminal_emit]
      exact h
  | unsubscribe number => exact h
  | drain number =>
    show p (s.resume em number).1.terminal
    unfold resume
    split
    · exact h
    · split
      · exact h
      · dsimp only
        split
        · exact h
        · rw [terminal_emit]
          exact h
  | returned =>
    show p (s.onReturned em).1.terminal
    unfold onReturned
    split
    · exact h
    · rw [terminal_emit]
      exact h
    · refine hvisit _ _ _ ?_
      split
      · exact h
      · exact h
  | threw => exact h
  | turn number writable => exact h

end Session

/-! ## Sizes -/

/-- The size that an event at a terminal names. -/
def namedSize : TerminalEvent → Option Size
  | .resize size => some size
  | .observeViewer _ size => some size
  | .resizeViewer _ size => some size
  | _ => none

namespace Terminal

/-- The size and the viewports keep the bounds of the schema. -/
structure Sized (t : Terminal σ) : Prop where
  size : t.size.Valid
  viewports : ∀ viewer viewport, t.viewports.get viewer = some viewport → viewport.size.Valid

lemma sized_new (streamId : ℕ) {size : Size} (h : size.Valid) :
    Sized (Terminal.new em streamId size) := ⟨h, nofun⟩

variable {t : Terminal σ}

lemma Sized.resize (h : t.Sized) {size : Size} (hsize : size.Valid) :
    Sized (t.resize em size).1 := by
  unfold Terminal.resize
  split
  · exact h
  · exact ⟨hsize, h.viewports⟩

lemma Sized.record (h : t.Sized) (viewer : ℕ) {size : Size} (hsize : size.Valid) :
    Sized (t.record viewer size) := by
  refine ⟨h.size, fun other viewport hget => ?_⟩
  rw [Terminal.record, InsertionMap.get_set] at hget
  split at hget
  · cases hget
    exact hsize
  · exact h.viewports other viewport hget

lemma heir_mem {heir : ℕ × Viewport} (h : t.heir = some heir) : heir ∈ t.viewports.entries := by
  have hfold : ∀ step : Option (ℕ × Viewport) → ℕ × Viewport → Option (ℕ × Viewport),
      (∀ best candidate, step best candidate = some candidate ∨ step best candidate = best) →
      ∀ (l : List (ℕ × Viewport)) best, l.foldl step best = some heir →
        heir ∈ l ∨ best = some heir := by
    intro step hstep l
    induction l with
    | nil => exact fun best heq => Or.inr heq
    | cons candidate l ih =>
      intro best heq
      rw [List.foldl_cons] at heq
      rcases ih _ heq with hmem | hbest
      · exact Or.inl (List.mem_cons_of_mem _ hmem)
      · rcases hstep best candidate with htaken | hkept
        · rw [htaken, Option.some.injEq] at hbest
          exact Or.inl (hbest ▸ List.mem_cons_self)
        · exact Or.inr (hkept.symm.trans hbest)
  refine (hfold _ (fun best candidate => ?_) _ _ h).resolve_right (Option.some_ne_none heir).symm
  split
  · exact Or.inl rfl
  · split
    · exact Or.inl rfl
    · exact Or.inr rfl

lemma Sized.releaseViewer (h : t.Sized) (viewer : ℕ) : Sized (t.releaseViewer em viewer).1 := by
  have herased : Sized { t with viewports := t.viewports.erase viewer } :=
    ⟨h.size, fun other viewport hget => h.viewports other viewport (InsertionMap.get_erase_eq_some.1 hget).2⟩
  unfold Terminal.releaseViewer
  dsimp only
  split
  · exact herased
  split
  · exact ⟨herased.size, herased.viewports⟩
  split
  · exact ⟨herased.size, herased.viewports⟩
  · next heir record hheir =>
    have hrecord : record.size.Valid :=
      herased.viewports heir record (InsertionMap.mem_entries_iff.1 (heir_mem hheir))
    split
    · have hauthority : Sized { t with
          viewports := t.viewports.erase viewer
          authority := some heir } := ⟨herased.size, herased.viewports⟩
      exact hauthority.resize hrecord
    · exact ⟨herased.size, herased.viewports⟩

lemma Sized.react (h : t.Sized) {e : TerminalEvent}
    (hsize : ∀ size, namedSize e = some size → size.Valid) : Sized (t.react em e).1 := by
  cases e with
  | output bytes =>
    rw [Terminal.react]
    split <;> exact ⟨h.size, h.viewports⟩
  | exit code =>
    rw [Terminal.react]
    split <;> exact ⟨h.size, h.viewports⟩
  | resize size => exact h.resize (hsize size rfl)
  | write bytes => exact h
  | observeViewer viewer size => exact h.record viewer (hsize size rfl)
  | resizeViewer viewer size =>
    have hrecorded := h.record viewer (hsize size rfl)
    have hauthority : Sized { t.record viewer size with authority := some viewer } :=
      ⟨hrecorded.size, hrecorded.viewports⟩
    exact hauthority.resize (hsize size rfl)
  | releaseViewer viewer => exact h.releaseViewer viewer
  | dispose =>
    rw [Terminal.react]
    split <;> exact ⟨h.size, h.viewports⟩

end Terminal

lemma Session.sized_react {s : Session σ} (h : s.terminal.Sized) {e : SessionEvent}
    (hsize : ∀ t size, e = .terminal t → namedSize t = some size → size.Valid) :
    (s.react em e).1.terminal.Sized :=
  s.keeps_terminal (fun _ _ ht => ⟨ht.size, ht.viewports⟩)
    (fun t heq ht => ht.react fun size hnamed => hsize t size heq hnamed) h

end Pherry.Host
