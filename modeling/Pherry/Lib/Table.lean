import Mathlib.Data.List.Nodup

/-!
# Tables with unique columns

Rows in the order they were inserted. No two rows agree in a column that is declared unique, and a
row that would is not inserted.
-/

namespace Pherry.Lib

variable {ρ κ : Type*} {columns : List (ρ → κ)}

/-- Rows that differ in each of the unique columns. -/
structure Table (columns : List (ρ → κ)) where
  rows : List ρ
  unique : ∀ c ∈ columns, (rows.map c).Nodup

namespace Table

/-- The table without rows. -/
def empty : Table columns := ⟨[], fun _ _ => List.nodup_nil⟩

variable [DecidableEq κ]

/-- The first row with this value in a column. -/
def get (t : Table columns) (c : ρ → κ) (k : κ) : Option ρ := t.rows.find? fun r => c r = k

/-- A row agrees with another one in a unique column. -/
def clashes (columns : List (ρ → κ)) (row r : ρ) : Bool := columns.any fun c => c r = c row

lemma ne_of_not_clashes {row r : ρ} (h : clashes columns row r = false) {c : ρ → κ}
    (hc : c ∈ columns) : c r ≠ c row := by
  rw [clashes, List.any_eq_false] at h
  have hne := h c hc
  rwa [decide_eq_true_eq] at hne

lemma unique_append {t : Table columns} {row : ρ} (h : t.rows.any (clashes columns row) = false)
    {c : ρ → κ} (hc : c ∈ columns) : ((t.rows ++ [row]).map c).Nodup := by
  rw [List.map_append, List.map_singleton, List.nodup_append]
  refine ⟨t.unique c hc, List.nodup_singleton _, ?_⟩
  intro k hk l hl
  obtain ⟨r, hr, rfl⟩ := List.mem_map.1 hk
  rw [List.mem_singleton.1 hl]
  rw [List.any_eq_false] at h
  exact ne_of_not_clashes (Bool.eq_false_iff.2 (h r hr)) hc

/-- Insert a row that clashes with none. -/
def insert (t : Table columns) (row : ρ) : Option (Table columns) :=
  if h : t.rows.any (clashes columns row) = false then
    some ⟨t.rows ++ [row], fun _ hc => unique_append h hc⟩
  else none

omit [DecidableEq κ] in
lemma map_update {p : ρ → Bool} {f : ρ → ρ} {c : ρ → κ} (hf : ∀ r, c (f r) = c r) (rows : List ρ) :
    (rows.map fun r => if p r then f r else r).map c = rows.map c := by
  rw [List.map_map]
  refine List.map_congr_left fun r _ => ?_
  rw [Function.comp_apply]
  split
  · exact hf r
  · rfl

omit [DecidableEq κ] in
/-- Change the rows that meet a condition, in columns that are not unique. -/
def update (t : Table columns) (p : ρ → Bool) (f : ρ → ρ) (hf : ∀ c ∈ columns, ∀ r, c (f r) = c r) :
    Table columns where
  rows := t.rows.map fun r => if p r then f r else r
  unique c hc := by
    rw [map_update (hf c hc)]
    exact t.unique c hc

/-! ## What is found -/

variable {t t' : Table columns} {c : ρ → κ} {k : κ} {r row : ρ}

lemma get_eq_some (hc : c ∈ columns) : t.get c k = some r ↔ r ∈ t.rows ∧ c r = k := by
  constructor
  · intro h
    exact ⟨List.mem_of_find?_eq_some h, by simpa using List.find?_some h⟩
  · rintro ⟨hr, rfl⟩
    have hsome : (t.get c (c r)).isSome = true := by
      rw [get, List.find?_isSome]
      exact ⟨r, hr, decide_eq_true rfl⟩
    obtain ⟨r', hr'⟩ := Option.isSome_iff_exists.1 hsome
    have hmem : r' ∈ t.rows := List.mem_of_find?_eq_some hr'
    have hsame : c r' = c r := by simpa using List.find?_some hr'
    rw [hr', List.inj_on_of_nodup_map (t.unique c hc) hmem hr hsame]

lemma get_update {p : ρ → Bool} {f : ρ → ρ} (hf : ∀ c ∈ columns, ∀ r, c (f r) = c r)
    (hc : c ∈ columns) :
    (t.update p f hf).get c k = (t.get c k).map fun r => if p r then f r else r := by
  have hkey : ((fun r => decide (c r = k)) ∘ fun r => if p r then f r else r) =
      fun r => decide (c r = k) := by
    funext r
    rw [Function.comp_apply]
    split
    · rw [hf c hc r]
    · rfl
  rw [get, update, List.find?_map, hkey]
  rfl

lemma rows_insert (h : t.insert row = some t') : t'.rows = t.rows ++ [row] := by
  rw [insert] at h
  split at h
  · cases h
    rfl
  · cases h

lemma get_insert (h : t.insert row = some t') :
    t'.get c k = (t.get c k).or (if c row = k then some row else none) := by
  rw [insert] at h
  split at h
  · cases h
    rw [get, get, List.find?_append, List.find?_singleton]
    simp only [decide_eq_true_eq]
  · cases h

omit [DecidableEq κ] in
lemma length_filter_le_one (hc : c ∈ columns) {p : ρ → Bool} (hp : ∀ r, p r = true → c r = k) :
    (t.rows.filter p).length ≤ 1 := by
  have hnodup : ((t.rows.filter p).map c).Nodup := (t.unique c hc).sublist (List.filter_sublist.map c)
  cases hrows : t.rows.filter p with
  | nil => simp
  | cons r rest =>
    cases rest with
    | nil => simp
    | cons r' rest =>
      -- two rows would agree in the column
      have hr : c r = k := hp r (List.mem_filter.1 (hrows ▸ List.mem_cons_self)).2
      have hr' : c r' = k :=
        hp r' (List.mem_filter.1 (hrows ▸ List.mem_cons_of_mem _ List.mem_cons_self)).2
      rw [hrows, List.map_cons, List.map_cons, List.nodup_cons, hr, hr'] at hnodup
      exact absurd List.mem_cons_self hnodup.1

lemma insert_of_taken (hc : c ∈ columns) (h : t.get c (c row) ≠ none) : t.insert row = none := by
  obtain ⟨r, hr⟩ := Option.ne_none_iff_exists'.1 h
  obtain ⟨hmem, hsame⟩ := (get_eq_some hc).1 hr
  have hclash : ¬ t.rows.any (clashes columns row) = false := by
    intro hnone
    rw [List.any_eq_false] at hnone
    exact ne_of_not_clashes (Bool.eq_false_iff.2 (hnone r hmem)) hc hsame
  rw [insert, dif_neg hclash]

lemma get_of_insert (hc : c ∈ columns) (h : t.insert row = some t') : t.get c (c row) = none := by
  by_contra htaken
  rw [insert_of_taken hc htaken] at h
  cases h

end Table

end Pherry.Lib
