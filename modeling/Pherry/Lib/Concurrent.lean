import Mathlib.Algebra.Order.BigOperators.Group.List
import Mathlib.Algebra.Order.Ring.Nat

/-!
# Concurrent calls on a shared state

Calls that work on a shared state step by step, in any order. A call is kept for good, so that what
it came to is read off the list; a call is named by its place in it.
-/

namespace Pherry.Lib

/-- A shared state, and the calls made so far, each where it has got to. -/
structure Concurrent (σ κ : Type*) where
  shared : σ
  calls : List κ

/-! ## Lists of calls -/

lemma getElem?_snoc {α : Type*} {l : List α} {a b : α} {k : ℕ} (h : (l ++ [a])[k]? = some b) :
    l[k]? = some b ∨ k = l.length ∧ b = a := by
  rw [List.getElem?_append] at h
  split at h
  · exact .inl h
  · have hlt := (List.getElem?_eq_some_iff.1 h).1
    rw [List.length_singleton] at hlt
    exact .inr ⟨by omega, List.mem_singleton.1 (List.mem_of_getElem? h)⟩

lemma getElem?_set_cases {α : Type*} {l : List α} {i j : ℕ} {c d : α} (h : (l.set i c)[j]? = some d) :
    j = i ∧ d = c ∨ j ≠ i ∧ l[j]? = some d := by
  by_cases hij : i = j
  · subst hij
    rw [List.getElem?_set_self'] at h
    obtain ⟨old, -, rfl⟩ := Option.map_eq_some_iff.1 h
    exact .inl ⟨rfl, rfl⟩
  · rw [List.getElem?_set_ne hij] at h
    exact .inr ⟨Ne.symm hij, h⟩

namespace Concurrent

variable {σ κ : Type*}

/-- A new call. -/
def start (s : Concurrent σ κ) (call : κ) : Concurrent σ κ := { s with calls := s.calls ++ [call] }

/-- The next step of a call, on the shared state. -/
def advance (s : Concurrent σ κ) (i : ℕ) (f : σ → κ → σ × κ) : Concurrent σ κ :=
  match s.calls[i]? with
  | none => s
  | some call =>
    let r := f s.shared call
    ⟨r.1, s.calls.set i r.2⟩

lemma advance_of_some {s : Concurrent σ κ} {i : ℕ} {call : κ} (h : s.calls[i]? = some call)
    (f : σ → κ → σ × κ) :
    s.advance i f = ⟨(f s.shared call).1, s.calls.set i (f s.shared call).2⟩ := by
  rw [advance, h]

lemma advance_of_none {s : Concurrent σ κ} {i : ℕ} (h : s.calls[i]? = none)
    (f : σ → κ → σ × κ) : s.advance i f = s := by
  rw [advance, h]

/-- A property of a state after a step of a call: there is no such call, or the call takes it. -/
lemma advance_induction {s : Concurrent σ κ} {i : ℕ} {f : σ → κ → σ × κ}
    {p : Concurrent σ κ → Prop} (hnone : p s)
    (hsome : ∀ call, s.calls[i]? = some call →
      p ⟨(f s.shared call).1, s.calls.set i (f s.shared call).2⟩) : p (s.advance i f) := by
  cases hcall : s.calls[i]? with
  | none => rw [advance_of_none hcall]; exact hnone
  | some call => rw [advance_of_some hcall]; exact hsome call hcall

/-! ## Calls that all have a property -/

lemma forall_start {s : Concurrent σ κ} {call : κ} {p : κ → Prop} (h : ∀ c ∈ s.calls, p c)
    (hcall : p call) : ∀ c ∈ (s.start call).calls, p c := by
  intro c hc
  rcases List.mem_append.1 hc with hold | hnew
  · exact h c hold
  · rw [List.mem_singleton.1 hnew]
    exact hcall

lemma forall_set {l : List κ} {i : ℕ} {call : κ} {p : κ → Prop} (h : ∀ c ∈ l, p c)
    (hcall : p call) : ∀ c ∈ l.set i call, p c := by
  intro c hc
  rcases List.mem_or_eq_of_mem_set hc with hold | rfl
  · exact h c hold
  · exact hcall

lemma mem_set_of_ne {l : List κ} {i : ℕ} {c c' d : κ} (hc : l[i]? = some c) (hd : d ∈ l)
    (hne : d ≠ c) : d ∈ l.set i c' := by
  obtain ⟨j, hj⟩ := List.mem_iff_getElem?.1 hd
  have hij : i ≠ j := by
    rintro rfl
    rw [hc] at hj
    cases hj
    exact hne rfl
  exact List.mem_iff_getElem?.2 ⟨j, (List.getElem?_set_ne hij).trans hj⟩

lemma mem_set_self {l : List κ} {i : ℕ} {c c' : κ} (hc : l[i]? = some c) : c' ∈ l.set i c' :=
  List.mem_iff_getElem?.2 ⟨i, List.getElem?_set_self (List.getElem?_eq_some_iff.1 hc).1⟩

lemma exists_set {l : List κ} {i : ℕ} {c c' : κ} {p : κ → Prop} (hc : l[i]? = some c)
    (h : ∃ d ∈ l, p d) (hp : p c → p c') : ∃ d ∈ l.set i c', p d := by
  obtain ⟨d, hd, hpd⟩ := h
  obtain ⟨j, hj⟩ := List.mem_iff_getElem?.1 hd
  by_cases hij : i = j
  · subst hij
    rw [hc, Option.some_inj] at hj
    exact ⟨c', mem_set_self hc, hp (hj ▸ hpd)⟩
  · exact ⟨d, List.mem_iff_getElem?.2 ⟨j, (List.getElem?_set_ne hij).trans hj⟩, hpd⟩

/-! ## Calls from a place on -/

lemma from_start {s : Concurrent σ κ} {call : κ} {p : κ → Prop} {n : ℕ}
    (h : ∀ i c, n ≤ i → s.calls[i]? = some c → p c) (hcall : p call) :
    ∀ i c, n ≤ i → (s.start call).calls[i]? = some c → p c := by
  intro i c hi hc
  rcases getElem?_snoc hc with hc | ⟨-, rfl⟩
  · exact h i c hi hc
  · exact hcall

lemma from_set {l : List κ} {j : ℕ} {call : κ} {p : κ → Prop} {n : ℕ}
    (h : ∀ i c, n ≤ i → l[i]? = some c → p c) (hcall : n ≤ j → p call) :
    ∀ i c, n ≤ i → (l.set j call)[i]? = some c → p c := by
  intro i c hi hc
  rcases getElem?_set_cases hc with ⟨rfl, rfl⟩ | ⟨-, hc⟩
  · exact hcall hi
  · exact h i c hi hc

lemma from_length (s : Concurrent σ κ) {p : κ → Prop} :
    ∀ i c, s.calls.length ≤ i → s.calls[i]? = some c → p c := by
  intro i c hi hc
  rw [List.getElem?_eq_none hi] at hc
  cases hc

/-! ## Weights -/

/-- The weight of all calls together. -/
def total (s : Concurrent σ κ) (weight : κ → ℕ) : ℕ := (s.calls.map weight).sum

@[simp] lemma total_start (s : Concurrent σ κ) (call : κ) (weight : κ → ℕ) :
    (s.start call).total weight = s.total weight + weight call := by
  simp [total, start]

lemma sum_map_set {l : List κ} {i : ℕ} {call : κ} (h : l[i]? = some call) (weight : κ → ℕ)
    (call' : κ) :
    ((l.set i call').map weight).sum + weight call = (l.map weight).sum + weight call' := by
  induction l generalizing i with
  | nil => simp at h
  | cons c l ih =>
    cases i with
    | zero =>
      obtain rfl : c = call := by simpa using h
      simp only [List.set_cons_zero, List.map_cons, List.sum_cons]
      omega
    | succ i =>
      have hrest := ih (i := i) (by simpa using h)
      simp only [List.set_cons_succ, List.map_cons, List.sum_cons]
      omega

lemma total_set {s : Concurrent σ κ} {i : ℕ} {call : κ} (h : s.calls[i]? = some call)
    (weight : κ → ℕ) (shared : σ) (call' : κ) :
    (⟨shared, s.calls.set i call'⟩ : Concurrent σ κ).total weight + weight call =
      s.total weight + weight call' :=
  sum_map_set h weight call'

lemma weight_le_total {s : Concurrent σ κ} {i : ℕ} {call : κ} (h : s.calls[i]? = some call)
    (weight : κ → ℕ) : weight call ≤ s.total weight := by
  have hmem : call ∈ s.calls := List.mem_of_getElem? h
  exact List.le_sum_of_mem (List.mem_map_of_mem hmem)

lemma exists_of_total_pos {s : Concurrent σ κ} {weight : κ → ℕ} (h : 0 < s.total weight) :
    ∃ c ∈ s.calls, 0 < weight c := by
  by_contra hnone
  push Not at hnone
  have hzero : s.total weight = 0 := by
    rw [total, List.sum_eq_zero_iff_forall_eq_nat]
    intro w hw
    obtain ⟨c, hc, rfl⟩ := List.mem_map.1 hw
    exact Nat.le_zero.1 (hnone c hc)
  omega

lemma add_le_sum_map {l : List κ} {i j : ℕ} {c d : κ} (hij : i < j) (hc : l[i]? = some c)
    (hd : l[j]? = some d) (weight : κ → ℕ) : weight c + weight d ≤ (l.map weight).sum := by
  induction l generalizing i j with
  | nil => simp at hc
  | cons a l ih =>
    obtain ⟨j, rfl⟩ := Nat.exists_eq_add_one_of_ne_zero (Nat.ne_of_gt (Nat.zero_lt_of_lt hij))
    rw [List.getElem?_cons_succ] at hd
    rw [List.map_cons, List.sum_cons]
    cases i with
    | zero =>
      obtain rfl : a = c := by simpa using hc
      have hle : weight d ≤ (l.map weight).sum :=
        List.le_sum_of_mem (List.mem_map_of_mem (List.mem_of_getElem? hd))
      omega
    | succ i =>
      rw [List.getElem?_cons_succ] at hc
      have hle := ih (Nat.lt_of_succ_lt_succ hij) hc hd
      omega

lemma eq_of_total_le_one {s : Concurrent σ κ} {weight : κ → ℕ} (h : s.total weight ≤ 1) {c d : κ}
    (hc : c ∈ s.calls) (hd : d ∈ s.calls) (hwc : weight c = 1) (hwd : weight d = 1) : c = d := by
  obtain ⟨i, hi⟩ := List.mem_iff_getElem?.1 hc
  obtain ⟨j, hj⟩ := List.mem_iff_getElem?.1 hd
  rw [total] at h
  rcases Nat.lt_trichotomy i j with hij | rfl | hij
  · have hle := add_le_sum_map hij hi hj weight
    omega
  · rw [hi, Option.some_inj] at hj
    exact hj
  · have hle := add_le_sum_map hij hj hi weight
    omega

lemma total_eq_zero {s : Concurrent σ κ} {weight : κ → ℕ} (h : ∀ c ∈ s.calls, weight c = 0) :
    s.total weight = 0 := by
  rw [total, List.sum_eq_zero_iff_forall_eq_nat]
  intro w hw
  obtain ⟨c, hc, rfl⟩ := List.mem_map.1 hw
  exact h c hc

end Concurrent

end Pherry.Lib
