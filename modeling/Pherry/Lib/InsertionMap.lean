import Mathlib.Data.List.Nodup

/-!
# Insertion-ordered maps

A map with the iteration order of a JavaScript `Map`: entries in the order their keys were first
inserted; setting a present key keeps its place. Keys are distinct by construction, so every
lemma below is about `get` alone; the order shows only through `entries`.
-/

namespace Pherry.Lib

/-- A finite map whose entries keep the order their keys were inserted in. -/
structure InsertionMap (κ ν : Type*) where
  entries : List (κ × ν)
  nodupKeys : (entries.map Prod.fst).Nodup

namespace InsertionMap

variable {κ ν : Type*}

/-- The map with no entries. -/
def empty : InsertionMap κ ν := ⟨[], List.nodup_nil⟩

/-- The keys, oldest first. -/
def keys (m : InsertionMap κ ν) : List κ := m.entries.map Prod.fst

/-- The values, oldest key first. -/
def values (m : InsertionMap κ ν) : List ν := m.entries.map Prod.snd

variable [DecidableEq κ]

/-- The value of the first entry under `k`. -/
def find : List (κ × ν) → κ → Option ν
  | [], _ => none
  | e :: l, k => if k = e.1 then some e.2 else find l k

lemma find_nil (k : κ) : find ([] : List (κ × ν)) k = none := rfl

lemma find_cons (e : κ × ν) (l : List (κ × ν)) (k : κ) :
    find (e :: l) k = if k = e.1 then some e.2 else find l k := rfl

/-- The value under `k`, if any. -/
def get (m : InsertionMap κ ν) (k : κ) : Option ν := find m.entries k

/-- Overwrite the value of every entry under `k`. -/
def replace (l : List (κ × ν)) (k : κ) (v : ν) : List (κ × ν) :=
  l.map fun e => if e.1 = k then (k, v) else e

lemma map_fst_replace (l : List (κ × ν)) (k : κ) (v : ν) :
    (replace l k v).map Prod.fst = l.map Prod.fst := by
  rw [replace, List.map_map]
  refine List.map_congr_left fun e _ => ?_
  by_cases he : e.1 = k <;> simp [he]

/-- Put `v` under `k`: in place when `k` is present, at the end otherwise. -/
def set (m : InsertionMap κ ν) (k : κ) (v : ν) : InsertionMap κ ν :=
  if h : k ∈ m.entries.map Prod.fst then
    { entries := replace m.entries k v
      nodupKeys := by rw [map_fst_replace]; exact m.nodupKeys }
  else
    { entries := m.entries ++ [(k, v)]
      nodupKeys := by
        rw [List.map_append, List.nodup_append]
        refine ⟨m.nodupKeys, by simp, ?_⟩
        rintro a ha b hb rfl
        simp only [List.map_cons, List.map_nil, List.mem_singleton] at hb
        exact h (hb ▸ ha) }

/-- Remove the entry under `k`, if any. -/
def erase (m : InsertionMap κ ν) (k : κ) : InsertionMap κ ν :=
  { entries := m.entries.filter fun e => e.1 ≠ k
    nodupKeys := m.nodupKeys.sublist (List.filter_sublist.map Prod.fst) }

/-- Keep the entries with a property. -/
def filter (m : InsertionMap κ ν) (p : κ → ν → Bool) : InsertionMap κ ν :=
  { entries := m.entries.filter fun e => p e.1 e.2
    nodupKeys := m.nodupKeys.sublist (List.filter_sublist.map Prod.fst) }

/-! ## Lookup -/

@[simp] lemma get_empty (k : κ) : (empty : InsertionMap κ ν).get k = none := rfl

lemma find_append_singleton {l : List (κ × ν)} {k : κ} (hk : k ∉ l.map Prod.fst) (j : κ)
    (v : ν) : find (l ++ [(k, v)]) j = if j = k then some v else find l j := by
  induction l with
  | nil => rfl
  | cons e l ih =>
    simp only [List.map_cons, List.mem_cons, not_or] at hk
    simp only [List.cons_append, find_cons, ih hk.2]
    by_cases he : j = e.1
    · have hjk : ¬ j = k := fun h => hk.1 (h.symm.trans he)
      rw [if_pos he, if_neg hjk, if_pos he]
    · rw [if_neg he, if_neg he]

lemma find_replace_ne {k j : κ} (h : j ≠ k) (l : List (κ × ν)) (v : ν) :
    find (replace l k v) j = find l j := by
  induction l with
  | nil => rfl
  | cons e l ih =>
    simp only [replace, List.map_cons, find_cons] at ih ⊢
    rw [ih]
    by_cases he : e.1 = k
    · have hje : ¬ j = e.1 := fun h' => h (h'.trans he)
      rw [if_pos he, if_neg h, if_neg hje]
    · rw [if_neg he]

lemma find_replace_self {k : κ} {l : List (κ × ν)} (hk : k ∈ l.map Prod.fst) (v : ν) :
    find (replace l k v) k = some v := by
  induction l with
  | nil => simp at hk
  | cons e l ih =>
    simp only [List.map_cons, List.mem_cons] at hk
    simp only [replace, List.map_cons, find_cons] at ih ⊢
    by_cases he : e.1 = k
    · simp [he]
    · rw [if_neg he, if_neg (Ne.symm he), ih (hk.resolve_left (Ne.symm he))]

lemma get_set (m : InsertionMap κ ν) (k j : κ) (v : ν) :
    (m.set k v).get j = if j = k then some v else m.get j := by
  unfold set get
  split
  · next hk =>
    by_cases h : j = k
    · rw [if_pos h, h]; exact find_replace_self hk v
    · rw [if_neg h]; exact find_replace_ne h m.entries v
  · next hk => exact find_append_singleton hk j v

@[simp] lemma get_set_self (m : InsertionMap κ ν) (k : κ) (v : ν) :
    (m.set k v).get k = some v := by rw [get_set, if_pos rfl]

lemma get_set_ne (m : InsertionMap κ ν) {k j : κ} (h : j ≠ k) (v : ν) :
    (m.set k v).get j = m.get j := by rw [get_set, if_neg h]

lemma find_filter_ne (l : List (κ × ν)) (k j : κ) :
    find (l.filter fun e => e.1 ≠ k) j = if j = k then none else find l j := by
  induction l with
  | nil => simp [find_nil]
  | cons e l ih =>
    by_cases he : e.1 = k
    · rw [List.filter_cons_of_neg (by simp [he]), ih]
      by_cases hjk : j = k
      · rw [if_pos hjk, if_pos hjk]
      · have hje : ¬ j = e.1 := fun h => hjk (h.trans he)
        rw [if_neg hjk, if_neg hjk, find_cons, if_neg hje]
    · rw [List.filter_cons_of_pos (by simp [he]), find_cons, find_cons, ih]
      by_cases hje : j = e.1
      · have hjk : ¬ j = k := fun h => he (hje.symm.trans h)
        rw [if_pos hje, if_neg hjk, if_pos hje]
      · rw [if_neg hje, if_neg hje]

lemma get_erase (m : InsertionMap κ ν) (k j : κ) :
    (m.erase k).get j = if j = k then none else m.get j := find_filter_ne m.entries k j

@[simp] lemma get_erase_self (m : InsertionMap κ ν) (k : κ) : (m.erase k).get k = none := by
  rw [get_erase, if_pos rfl]

lemma get_erase_ne (m : InsertionMap κ ν) {k j : κ} (h : j ≠ k) :
    (m.erase k).get j = m.get j := by rw [get_erase, if_neg h]

lemma get_erase_eq_some {m : InsertionMap κ ν} {k j : κ} {v : ν} :
    (m.erase k).get j = some v ↔ j ≠ k ∧ m.get j = some v := by
  rw [get_erase]
  by_cases h : j = k <;> simp [h]

/-! ## Entries -/

lemma mem_iff_find {l : List (κ × ν)} (hnd : (l.map Prod.fst).Nodup) {k : κ} {v : ν} :
    (k, v) ∈ l ↔ find l k = some v := by
  induction l with
  | nil => simp [find_nil]
  | cons e l ih =>
    rw [List.map_cons, List.nodup_cons] at hnd
    rw [find_cons, List.mem_cons]
    by_cases he : k = e.1
    · have hnot : (k, v) ∉ l := fun h => hnd.1 (he ▸ List.mem_map_of_mem (f := Prod.fst) h)
      rw [if_pos he, Option.some.injEq]
      constructor
      · rintro (h | h)
        · rw [← h]
        · exact absurd h hnot
      · rintro rfl
        exact Or.inl (by rw [he])
    · rw [if_neg he, ← ih hnd.2]
      constructor
      · rintro (h | h)
        · exact absurd (by rw [← h]) he
        · exact h
      · exact Or.inr

lemma mem_entries_iff {m : InsertionMap κ ν} {k : κ} {v : ν} :
    (k, v) ∈ m.entries ↔ m.get k = some v := mem_iff_find m.nodupKeys

lemma get_filter_eq_some {m : InsertionMap κ ν} {p : κ → ν → Bool} {k : κ} {v : ν} :
    (m.filter p).get k = some v ↔ m.get k = some v ∧ p k v = true := by
  rw [← mem_entries_iff, ← mem_entries_iff, filter, List.mem_filter]

lemma mem_values_iff {m : InsertionMap κ ν} {v : ν} :
    v ∈ m.values ↔ ∃ k, m.get k = some v := by
  simp only [values, List.mem_map, Prod.exists, exists_eq_right, mem_entries_iff]

lemma mem_keys_iff {m : InsertionMap κ ν} {k : κ} : k ∈ m.keys ↔ ∃ v, m.get k = some v := by
  simp only [keys, List.mem_map, Prod.exists, exists_and_right, exists_eq_right, mem_entries_iff]

lemma mem_keys_set {m : InsertionMap κ ν} {k j : κ} {v : ν} : j ∈ (m.set k v).keys ↔ j = k ∨ j ∈ m.keys := by
  rw [mem_keys_iff, mem_keys_iff, get_set]
  by_cases h : j = k <;> simp [h]

lemma mem_keys_erase {m : InsertionMap κ ν} {k j : κ} : j ∈ (m.erase k).keys ↔ j ≠ k ∧ j ∈ m.keys := by
  rw [mem_keys_iff, mem_keys_iff, get_erase]
  by_cases h : j = k <;> simp [h]

end InsertionMap

end Pherry.Lib
