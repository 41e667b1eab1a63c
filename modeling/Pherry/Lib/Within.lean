import Mathlib.Algebra.BigOperators.Group.List.Basic
import Mathlib.Algebra.GroupWithZero.Nat
import Mathlib.Data.List.Infix

/-!
# The longest suffix within a cap

Items with weights, and the longest suffix of a list that weighs no more than a cap. It can be kept step by step: to
add an item, it is enough to know the suffix that was kept before.
-/

namespace Pherry.Lib

variable {α : Type*} (weight : α → ℕ) (cap : ℕ)

/-- What a list weighs. -/
def total (l : List α) : ℕ := (l.map weight).sum

/-- The longest suffix within the cap. -/
def within : List α → List α
  | [] => []
  | x :: l => if total weight (x :: l) ≤ cap then x :: l else within l

variable {weight cap}

@[simp] lemma total_nil : total weight ([] : List α) = 0 := rfl

@[simp] lemma total_cons (x : α) (l : List α) : total weight (x :: l) = weight x + total weight l := by
  simp [total]

@[simp] lemma total_append (l m : List α) : total weight (l ++ m) = total weight l + total weight m := by
  simp [total]

lemma within_suffix (l : List α) : within weight cap l <:+ l := by
  induction l with
  | nil => exact List.suffix_rfl
  | cons x l ih =>
    rw [within]
    split
    · exact List.suffix_rfl
    · exact ih.trans (List.suffix_cons x l)

lemma total_within_le (l : List α) : total weight (within weight cap l) ≤ cap := by
  induction l with
  | nil => exact Nat.zero_le cap
  | cons x l ih =>
    rw [within]
    split
    · next hfits => exact hfits
    · exact ih

lemma within_of_le {l : List α} (h : total weight l ≤ cap) : within weight cap l = l := by
  cases l with
  | nil => rfl
  | cons x l => rw [within, if_pos h]

lemma within_append (l : List α) (x : α) :
    within weight cap (within weight cap l ++ [x]) = within weight cap (l ++ [x]) := by
  induction l with
  | nil => rfl
  | cons y l ih =>
    by_cases hfits : total weight (y :: l) ≤ cap
    · rw [within_of_le hfits]
    · have hmore : ¬ total weight (y :: (l ++ [x])) ≤ cap := by
        simp only [total_cons, total_append] at hfits ⊢
        omega
      rw [within, if_neg hfits, ih, List.cons_append, within, if_neg hmore]

lemma within_append_heavy {x : α} (h : cap < weight x) (l : List α) : within weight cap (l ++ [x]) = [] := by
  have hsuffix := @within_suffix _ weight cap (l ++ [x])
  have hle := @total_within_le _ weight cap (l ++ [x])
  rcases List.suffix_concat_iff.1 hsuffix with hnil | ⟨front, heq, -⟩
  · exact hnil
  · rw [heq] at hle
    simp only [total_append, total_cons, total_nil] at hle
    omega

end Pherry.Lib
