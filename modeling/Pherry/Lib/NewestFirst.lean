import Mathlib.Data.List.Sort

/-!
# Pages of the newest

The newest of some items, up to a cap. Items have a position in a linear order; which of two items
with one position comes first is a rank's choice.
-/

namespace Pherry.Lib

variable {α β : Type*} [LinearOrder β] {pos : α → β} {rank : α → ℕ}

/-- An item comes before another one in a page. -/
def newer (pos : α → β) (rank : α → ℕ) (a b : α) : Prop :=
  pos b < pos a ∨ (pos a = pos b ∧ rank a ≤ rank b)

instance : DecidableRel (newer pos rank) := fun a b =>
  inferInstanceAs (Decidable (pos b < pos a ∨ (pos a = pos b ∧ rank a ≤ rank b)))

instance : Std.Total (newer pos rank) := ⟨fun a b => by
  rcases lt_trichotomy (pos a) (pos b) with hlt | heq | hgt
  · exact Or.inr (Or.inl hlt)
  · rcases Nat.le_total (rank a) (rank b) with hle | hle
    · exact Or.inl (Or.inr ⟨heq, hle⟩)
    · exact Or.inr (Or.inr ⟨heq.symm, hle⟩)
  · exact Or.inl (Or.inl hgt)⟩

lemma pos_le_of_newer {a b : α} (h : newer pos rank a b) : pos b ≤ pos a := by
  rcases h with hlt | ⟨heq, -⟩
  · exact le_of_lt hlt
  · exact le_of_eq heq.symm

instance : IsTrans α (newer pos rank) := ⟨fun a b c hab hbc => by
  rcases hab with hab | ⟨hab, hrank⟩
  · exact Or.inl (lt_of_le_of_lt (pos_le_of_newer hbc) hab)
  · rcases hbc with hbc | ⟨hbc, hrank'⟩
    · exact Or.inl (by rwa [hab])
    · exact Or.inr ⟨hab.trans hbc, hrank.trans hrank'⟩⟩

/-- The newest items, at most so many. -/
def newest (pos : α → β) (rank : α → ℕ) (cap : ℕ) (l : List α) : List α :=
  (l.insertionSort (newer pos rank)).take cap

variable {cap : ℕ} {l : List α}

lemma mem_of_mem_newest {a : α} (h : a ∈ newest pos rank cap l) : a ∈ l :=
  (List.mem_insertionSort _).1 (List.mem_of_mem_take h)

lemma length_newest_le : (newest pos rank cap l).length ≤ cap := List.length_take_le _ _

lemma mem_newest_of_length_le (h : l.length ≤ cap) {a : α} :
    a ∈ newest pos rank cap l ↔ a ∈ l := by
  rw [newest, List.take_of_length_le (by rwa [List.length_insertionSort]), List.mem_insertionSort]

lemma pos_le_of_newest {a : α} {rest : List α} (h : newest pos rank cap l = a :: rest) {b : α}
    (hb : b ∈ newest pos rank cap l) : pos b ≤ pos a := by
  have hsorted : (newest pos rank cap l).Pairwise (newer pos rank) :=
    (List.pairwise_insertionSort _ _).take
  rw [h] at hsorted hb
  rcases List.mem_cons.1 hb with rfl | hrest
  · exact le_rfl
  · exact pos_le_of_newer (List.rel_of_pairwise_cons hsorted hrest)

lemma nodup_map_newest {γ : Type*} {f : α → γ} (h : (l.map f).Nodup) :
    ((newest pos rank cap l).map f).Nodup := by
  have hperm : ((l.insertionSort (newer pos rank)).map f).Perm (l.map f) :=
    (List.perm_insertionSort _ _).map f
  exact (hperm.nodup_iff.2 h).sublist ((List.take_sublist _ _).map f)

end Pherry.Lib
