import Mathlib.Data.List.Basic

/-!
# Lists in blocks

A list that is cut into blocks, such as a text into the characters that a reader sees. Where the
elements that a scan looks for stand in blocks of their own, a scan of the blocks is a scan of the
elements.
-/

namespace Pherry.Lib

variable {α : Type*} {p : α → Bool}

/-! ## Two cuts -/

/-- What is before the first element with a property, and what is behind it. -/
def splitFirst (p : α → Bool) : List α → Option (List α × List α)
  | [] => none
  | x :: l => if p x then some ([], l) else (splitFirst p l).map fun r => (x :: r.1, r.2)

/-- What is before the last element with a property, and what is behind it. -/
def splitLast (p : α → Bool) : List α → Option (List α × List α)
  | [] => none
  | x :: l =>
    match splitLast p l with
    | some r => some (x :: r.1, r.2)
    | none => if p x then some ([], l) else none

lemma splitFirst_cons (x : α) (l : List α) :
    splitFirst p (x :: l) = if p x then some ([], l) else (splitFirst p l).map fun r => (x :: r.1, r.2) := rfl

lemma splitLast_cons (x : α) (l : List α) :
    splitLast p (x :: l) = match splitLast p l with
      | some r => some (x :: r.1, r.2)
      | none => if p x then some ([], l) else none := rfl

lemma splitFirst_eq_some {l : List α} {r : List α × List α} (h : splitFirst p l = some r) :
    ∃ x, p x = true ∧ l = r.1 ++ x :: r.2 := by
  induction l generalizing r with
  | nil => cases h
  | cons x l ih =>
    rw [splitFirst_cons] at h
    split at h
    · obtain rfl := Option.some.inj h
      exact ⟨x, ‹_›, rfl⟩
    · obtain ⟨r', hr', rfl⟩ := Option.map_eq_some_iff.1 h
      obtain ⟨y, hy, rfl⟩ := ih hr'
      exact ⟨y, hy, rfl⟩

lemma splitLast_eq_some {l : List α} {r : List α × List α} (h : splitLast p l = some r) :
    ∃ x, p x = true ∧ l = r.1 ++ x :: r.2 := by
  induction l generalizing r with
  | nil => cases h
  | cons x l ih =>
    rw [splitLast_cons] at h
    split at h
    · obtain ⟨y, hy, rfl⟩ := ih ‹_›
      obtain rfl := Option.some.inj h
      exact ⟨y, hy, rfl⟩
    · split at h
      · obtain rfl := Option.some.inj h
        exact ⟨x, ‹_›, rfl⟩
      · cases h

lemma splitFirst_append {c : List α} (hc : ∀ x ∈ c, p x = false) (l : List α) :
    splitFirst p (c ++ l) = (splitFirst p l).map fun r => (c ++ r.1, r.2) := by
  induction c with
  | nil => simp
  | cons x c ih =>
    have hx : p x = false := hc x (by simp)
    rw [List.cons_append, splitFirst_cons, hx, ih fun y hy => hc y (List.mem_cons_of_mem _ hy)]
    simp [Option.map_map, Function.comp_def]

lemma splitLast_append {c : List α} (hc : ∀ x ∈ c, p x = false) (l : List α) :
    splitLast p (c ++ l) = (splitLast p l).map fun r => (c ++ r.1, r.2) := by
  induction c with
  | nil => simp
  | cons x c ih =>
    have hx : p x = false := hc x (by simp)
    rw [List.cons_append, splitLast_cons, ih fun y hy => hc y (List.mem_cons_of_mem _ hy)]
    cases splitLast p l <;> simp [hx]

lemma splitLast_snoc {x : α} (hx : p x = true) (l : List α) : splitLast p (l ++ [x]) = some (l, []) := by
  induction l with
  | nil => simp [splitLast_cons, splitLast, hx]
  | cons y l ih => rw [List.cons_append, splitLast_cons, ih]

/-! ## Blocks -/

/-- The block of one element with a property. -/
def only (p : α → Bool) : List α → Bool
  | [x] => p x
  | _ => false

lemma only_eq [DecidableEq α] (d : α) : only (fun x => decide (x = d)) = fun c => decide (c = [d]) := by
  funext c
  match c with
  | [] => simp [only]
  | [x] => simp [only]
  | _ :: _ :: _ => simp [only]

/-- No element with a property shares its block. -/
def Alone (p : α → Bool) (cs : List (List α)) : Prop := ∀ c ∈ cs, ∀ x ∈ c, p x = true → c = [x]

lemma Alone.sublist {cs ds : List (List α)} (h : Alone p cs) (hds : ds.Sublist cs) : Alone p ds :=
  fun c hc => h c (hds.subset hc)

lemma Alone.mono {q : α → Bool} {cs : List (List α)} (h : Alone p cs) (hq : ∀ x, q x = true → p x = true) :
    Alone q cs := fun c hc x hx hqx => h c hc x hx (hq x hqx)

lemma Alone.cases {c : List α} {cs : List (List α)} (h : Alone p (c :: cs)) :
    (∃ x, c = [x] ∧ p x = true) ∨ only p c = false ∧ ∀ x ∈ c, p x = false := by
  by_cases hc : ∃ x ∈ c, p x = true
  · obtain ⟨x, hx, hpx⟩ := hc
    exact Or.inl ⟨x, h c List.mem_cons_self x hx hpx, hpx⟩
  · have hnone : ∀ x ∈ c, p x = false := by
      intro x hx
      exact Bool.eq_false_iff.2 fun hpx => hc ⟨x, hx, hpx⟩
    refine Or.inr ⟨?_, hnone⟩
    match c with
    | [] => rfl
    | [x] => exact hnone x (by simp)
    | _ :: _ :: _ => rfl

lemma Alone.tail {c : List α} {cs : List (List α)} (h : Alone p (c :: cs)) : Alone p cs :=
  fun d hd => h d (List.mem_cons_of_mem _ hd)

lemma flatten_takeWhile {cs : List (List α)} (h : Alone p cs) :
    (cs.takeWhile fun c => !only p c).flatten = cs.flatten.takeWhile fun x => !p x := by
  induction cs with
  | nil => rfl
  | cons c cs ih =>
    rcases h.cases with ⟨x, rfl, hx⟩ | ⟨hc, hnone⟩
    · simp [only, hx]
    · rw [List.takeWhile_cons_of_pos (by simp [hc]), List.flatten_cons, ih h.tail, List.flatten_cons,
        List.takeWhile_append_of_pos (by simpa using hnone)]

lemma flatten_dropWhile {cs : List (List α)} (h : Alone p cs) (hne : ∀ c ∈ cs, c ≠ []) :
    (cs.dropWhile (only p)).flatten = cs.flatten.dropWhile p := by
  induction cs with
  | nil => rfl
  | cons c cs ih =>
    rcases h.cases with ⟨x, rfl, hx⟩ | ⟨hc, hnone⟩
    · rw [List.dropWhile_cons_of_pos (by simpa [only] using hx), List.flatten_cons, List.singleton_append,
        List.dropWhile_cons_of_pos hx]
      exact ih h.tail fun c hc => hne c (List.mem_cons_of_mem _ hc)
    · obtain ⟨x, c', rfl⟩ := List.exists_cons_of_ne_nil (hne c List.mem_cons_self)
      have hx : p x = false := hnone x (by simp)
      rw [List.dropWhile_cons_of_neg (by simp [hc]), List.flatten_cons, List.cons_append,
        List.dropWhile_cons_of_neg (by simp [hx])]

lemma splitFirst_flatten {cs : List (List α)} (h : Alone p cs) :
    splitFirst p cs.flatten = (splitFirst (only p) cs).map fun r => (r.1.flatten, r.2.flatten) := by
  induction cs with
  | nil => rfl
  | cons c cs ih =>
    rcases h.cases with ⟨x, rfl, hx⟩ | ⟨hc, hnone⟩
    · simp [splitFirst_cons, only, hx]
    · rw [List.flatten_cons, splitFirst_append hnone, ih h.tail, splitFirst_cons, hc]
      simp [Option.map_map, Function.comp_def]

lemma splitLast_flatten {cs : List (List α)} (h : Alone p cs) :
    splitLast p cs.flatten = (splitLast (only p) cs).map fun r => (r.1.flatten, r.2.flatten) := by
  induction cs with
  | nil => rfl
  | cons c cs ih =>
    rcases h.cases with ⟨x, rfl, hx⟩ | ⟨hc, hnone⟩
    · rw [List.flatten_cons, List.singleton_append, splitLast_cons, ih h.tail, splitLast_cons]
      cases splitLast (only p) cs <;> simp [only, hx]
    · rw [List.flatten_cons, splitLast_append hnone, ih h.tail, splitLast_cons]
      cases splitLast (only p) cs <;> simp [hc]

lemma flatten_eq_nil {cs : List (List α)} (hne : ∀ c ∈ cs, c ≠ []) : cs.flatten = [] ↔ cs = [] := by
  rw [List.flatten_eq_nil_iff]
  constructor
  · intro hall
    exact List.eq_nil_iff_forall_not_mem.2 fun c hc => hne c hc (hall c hc)
  · rintro rfl
    simp

lemma Alone.cons_of_flatten {cs : List (List α)} (h : Alone p cs) (hne : ∀ c ∈ cs, c ≠ []) {x : α}
    {l : List α} (hx : p x = true) (hl : cs.flatten = x :: l) : ∃ ds, cs = [x] :: ds ∧ ds.flatten = l := by
  cases cs with
  | nil => cases hl
  | cons c cs =>
    obtain ⟨y, c', rfl⟩ := List.exists_cons_of_ne_nil (hne c List.mem_cons_self)
    obtain ⟨rfl, htail⟩ := List.cons.inj hl
    obtain rfl : c' = [] := by simpa using h _ List.mem_cons_self y List.mem_cons_self hx
    exact ⟨cs, rfl, htail⟩

lemma head?_flatten {cs : List (List α)} (h : Alone p cs) (hne : ∀ c ∈ cs, c ≠ []) :
    cs.flatten.head?.any p = cs.head?.any (only p) := by
  cases cs with
  | nil => rfl
  | cons c cs =>
    obtain ⟨x, c', rfl⟩ := List.exists_cons_of_ne_nil (hne c List.mem_cons_self)
    rcases h.cases with ⟨y, heq, hy⟩ | ⟨hc, hnone⟩
    · cases heq
      simp [only]
    · simp [hc, hnone x (by simp)]

end Pherry.Lib
