import Mathlib.Data.List.Basic

/-!
# Lists that separators cut

A text of fields with a separator between any two: what a field is, and what is read back of fields that were joined.
-/

namespace Pherry.Lib

variable {α : Type*}

/-- No field has a separator in it. -/
lemma eq_false_of_mem_splitOnP {p : α → Bool} {xs field : List α} (h : field ∈ xs.splitOnP p) :
    ∀ x ∈ field, p x = false := by
  induction xs generalizing field with
  | nil =>
    intro x hx
    rw [List.splitOnP_nil, List.mem_singleton] at h
    rw [h] at hx
    cases hx
  | cons y xs ih =>
    intro x hx
    rw [List.splitOnP_cons_eq_if_modifyHead] at h
    split at h
    · apply (List.mem_cons.1 h).elim
      · intro hnil
        rw [hnil] at hx
        cases hx
      · exact fun hmem => ih hmem x hx
    · next hy =>
      -- the first field of the rest has one element more
      cases hsplit : xs.splitOnP p with
      | nil => exact absurd hsplit (List.splitOnP_ne_nil p xs)
      | cons first rest =>
        rw [hsplit, List.modifyHead_cons] at h
        rw [hsplit] at ih
        apply (List.mem_cons.1 h).elim
        · intro hfirst
          rw [hfirst] at hx
          apply (List.mem_cons.1 hx).elim
          · intro hxy
            rw [hxy]
            simpa using hy
          · exact ih List.mem_cons_self x
        · exact fun hmem => ih (List.mem_cons_of_mem first hmem) x hx

lemma not_mem_of_mem_splitOn [BEq α] [LawfulBEq α] {y : α} {xs field : List α} (h : field ∈ xs.splitOn y) :
    y ∉ field := by
  intro hy
  rw [List.splitOn_eq_splitOnP] at h
  have hfalse := eq_false_of_mem_splitOnP h y hy
  simp at hfalse

lemma intercalate_append {y : α} {fields more : List (List α)} (h : fields ≠ []) (hmore : more ≠ []) :
    [y].intercalate (fields ++ more) = [y].intercalate fields ++ y :: [y].intercalate more := by
  induction fields with
  | nil => exact absurd rfl h
  | cons field fields ih =>
    by_cases hlast : fields = []
    · rw [hlast, List.singleton_append, List.intercalate_cons_of_ne_nil hmore, List.intercalate_singleton]
      simp
    · rw [List.cons_append, List.intercalate_cons_of_ne_nil (by simp [hmore]), ih hlast,
        List.intercalate_cons_of_ne_nil hlast]
      simp

/-- Fields that were joined are read back, where no field at all is one that is empty. -/
lemma splitOn_intercalate_eq [BEq α] [LawfulBEq α] {y : α} {fields : List (List α)} (h : ∀ field ∈ fields, y ∉ field) :
    ([y].intercalate fields).splitOn y = if fields = [] then [[]] else fields := by
  split
  · next hnil =>
    rw [hnil]
    rfl
  · next hne => exact List.splitOn_intercalate y h hne

end Pherry.Lib
