import Mathlib.Data.List.Infix
import Mathlib.Data.List.Perm.Basic
import Mathlib.Data.List.Range

/-!
# What arrives in sequence

A list is in sequence when it is an initial part of a given sequence. It is what has arrived of
things that were sent off in that order: one thing on its way can only arrive in its place, and the
second of two may arrive in the place of the first.
-/

namespace Pherry.Lib

variable {α : Type*} {f : ℕ → α} {l m : List α} {a b : α}

/-- An initial part of the sequence `f`. -/
def InSequence (f : ℕ → α) (l : List α) : Prop := l = (List.range l.length).map f

lemma inSequence_nil (f : ℕ → α) : InSequence f [] := rfl

lemma inSequence_snoc : InSequence f (l ++ [a]) ↔ InSequence f l ∧ a = f l.length := by
  rw [InSequence, List.length_append, List.length_singleton, List.range_succ, List.map_append, List.map_singleton]
  constructor
  · intro h
    obtain ⟨hl, ha⟩ := List.append_inj' h rfl
    exact ⟨hl, List.head_eq_of_cons_eq ha⟩
  · rintro ⟨hl, rfl⟩
    rw [← hl]

lemma InSequence.of_append (h : InSequence f (l ++ m)) : InSequence f l := by
  induction m using List.reverseRecOn with
  | nil => rwa [List.append_nil] at h
  | append_singleton m a ih =>
    rw [← List.append_assoc] at h
    exact ih (inSequence_snoc.1 h).1

lemma InSequence.overtaken (h : InSequence f (l ++ [a] ++ [b])) (hf : f l.length ≠ f (l.length + 1)) :
    ¬ InSequence f (l ++ [b]) := by
  intro hb
  have hlast := (inSequence_snoc.1 h).2
  rw [List.length_append, List.length_singleton] at hlast
  exact hf ((inSequence_snoc.1 hb).2.symm.trans hlast)

lemma filterMap_take {β : Type*} {g : α → Option β} {i : ℕ} (ha : l[i]? = some a)
    (hl : (l.filterMap g).length ≤ 1) : (a :: l.eraseIdx i).filterMap g = l.filterMap g := by
  obtain ⟨hi, rfl⟩ := List.getElem?_eq_some_iff.1 ha
  have hperm : ((l[i] :: l.eraseIdx i).filterMap g).Perm (l.filterMap g) :=
    (List.getElem_cons_eraseIdx_perm hi).filterMap _
  match hcount : l.filterMap g, hl with
  | [], _ =>
    rw [hcount] at hperm
    exact hperm.eq_nil
  | [b], _ =>
    rw [hcount] at hperm
    exact List.perm_singleton.1 hperm

end Pherry.Lib
