import Mathlib.Data.List.DropRight
import Mathlib.Data.List.Dedup
import Mathlib.Data.List.Perm.Subperm

/-!
# A bounded memory of the most recent entries

A memory that keeps the last `n` entries of a growing list and refuses an entry it still holds.
`Fresh n l` says `l` was grown so; the memory is `l.rtake n`. An entry that comes twice has at
least `n` different others in between.
-/

namespace Pherry.Lib

variable {α : Type*}

/-- Every entry was absent from the last `n` entries before it. -/
def Fresh (n : ℕ) (l : List α) : Prop :=
  ∀ pre x post, l = pre ++ x :: post → x ∉ pre.rtake n

lemma fresh_nil (n : ℕ) : Fresh n ([] : List α) := by
  intro pre x post h
  simp at h

lemma Fresh.snoc {n : ℕ} {l : List α} (hl : Fresh n l) {x : α} (hx : x ∉ l.rtake n) :
    Fresh n (l ++ [x]) := by
  intro pre y post h
  rcases List.eq_nil_or_concat post with rfl | ⟨post', z, rfl⟩
  · obtain ⟨rfl, hxy⟩ := List.append_inj' h rfl
    cases hxy
    exact hx
  · rw [List.concat_eq_append, ← List.cons_append, ← List.append_assoc] at h
    obtain ⟨rfl, -⟩ := List.append_inj' h rfl
    exact hl pre y post' rfl

lemma rtake_eq_drop (l : List α) (n : ℕ) : l.rtake n = l.drop (l.length - n) := rfl

lemma length_rtake (l : List α) (n : ℕ) : (l.rtake n).length = min n l.length := by
  rw [rtake_eq_drop, List.length_drop]
  omega

lemma rtake_rtake_snoc (l : List α) (x : α) (n : ℕ) :
    (l.rtake n ++ [x]).rtake n = (l ++ [x]).rtake n := by
  cases n with
  | zero => simp
  | succ n =>
    rw [List.rtake_concat_succ, List.rtake_concat_succ, rtake_eq_drop, length_rtake, rtake_eq_drop,
      List.drop_drop, rtake_eq_drop]
    congr 2
    omega

lemma rtake_append {n : ℕ} {l : List α} (h : n ≤ l.length) (pre : List α) :
    (pre ++ l).rtake n = l.rtake n := by
  rw [rtake_eq_drop, rtake_eq_drop, List.length_append, List.drop_append]
  have hpre : pre.drop (pre.length + l.length - n) = [] := by
    apply List.drop_of_length_le
    omega
  rw [hpre, List.nil_append]
  congr 1
  omega

lemma mem_rtake_of_length_lt {n : ℕ} {l : List α} (h : l.length < n) (pre : List α) (x : α) :
    x ∈ (pre ++ x :: l).rtake n := by
  have hle : (pre ++ x :: l).length - n ≤ pre.length := by
    rw [List.length_append, List.length_cons]
    omega
  rw [rtake_eq_drop, List.drop_append_of_le_length hle]
  exact List.mem_append_right _ List.mem_cons_self

lemma Fresh.nodup_rtake {n : ℕ} {l : List α} (hl : Fresh n l) : (l.rtake n).Nodup := by
  induction l using List.reverseRecOn with
  | nil => simp
  | append_singleton l x ih =>
    have hpre : Fresh n l := by
      intro pre y post h
      exact hl pre y (post ++ [x]) (by rw [h]; simp)
    have hx : x ∉ l.rtake n := hl l x [] rfl
    rw [← rtake_rtake_snoc, rtake_eq_drop]
    have hsnoc : (l.rtake n ++ [x]).Nodup := by
      rw [List.nodup_append]
      refine ⟨ih hpre, by simp, ?_⟩
      intro a ha b hb hab
      rw [List.mem_singleton] at hb
      rw [hab, hb] at ha
      exact hx ha
    exact hsnoc.sublist (List.drop_sublist _ _)

lemma Fresh.le_length_between [DecidableEq α] {n : ℕ} {xs ys zs : List α} {x : α}
    (h : Fresh n (xs ++ x :: ys ++ x :: zs)) :
    n ≤ ((ys.filter (· ≠ x)).dedup).length := by
  have hnot : x ∉ (xs ++ x :: ys).rtake n := h (xs ++ x :: ys) x zs rfl
  have hlong : n ≤ ys.length := by
    by_contra hshort
    exact hnot (mem_rtake_of_length_lt (by omega) xs x)
  have hsame : (xs ++ x :: ys).rtake n = ys.rtake n := by
    rw [show xs ++ x :: ys = (xs ++ [x]) ++ ys by simp]
    exact rtake_append hlong _
  rw [hsame] at hnot
  have hnodup : (ys.rtake n).Nodup := by
    have hpre : Fresh n (xs ++ x :: ys) := by
      intro pre y post hy
      exact h pre y (post ++ x :: zs) (by rw [hy]; simp)
    rw [← hsame]
    exact hpre.nodup_rtake
  have hsubset : ys.rtake n ⊆ (ys.filter (· ≠ x)).dedup := by
    intro y hy
    have hne : y ≠ x := by
      rintro rfl
      exact hnot hy
    have hmem : y ∈ ys := List.mem_of_mem_drop hy
    simp [hmem, hne]
  have hlength : (ys.rtake n).length = n := by
    rw [length_rtake]
    omega
  calc n = (ys.rtake n).length := hlength.symm
    _ ≤ ((ys.filter (· ≠ x)).dedup).length := (hnodup.subperm hsubset).length_le

end Pherry.Lib
