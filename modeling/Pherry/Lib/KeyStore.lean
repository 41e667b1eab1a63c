import Mathlib.Order.Basic

/-!
# A store of keys that expire

The store has its own clock. A key past its expiry is as good as absent, whether or not its entry is
still there.
-/

namespace Pherry.Lib

/-- A value, and the time from which it is gone. -/
structure Entry (ν : Type*) where
  value : ν
  expiresAt : Option ℕ

/-- A store with its clock. -/
structure KeyStore (κ ν : Type*) where
  now : ℕ
  entries : κ → Option (Entry ν)

namespace KeyStore

variable {κ ν : Type*}

/-- The store with no key. -/
def empty (now : ℕ) : KeyStore κ ν := ⟨now, fun _ => none⟩

/-- An entry that is not past its expiry. -/
def isLive (s : KeyStore κ ν) (e : Entry ν) : Bool := e.expiresAt.all fun t => s.now < t

/-- The entry of a key that has not expired. -/
def live (s : KeyStore κ ν) (k : κ) : Option (Entry ν) := (s.entries k).filter s.isLive

/-- The value of a key. -/
def get (s : KeyStore κ ν) (k : κ) : Option ν := (s.live k).map Entry.value

/-- Time passes. -/
def advance (s : KeyStore κ ν) (ms : ℕ) : KeyStore κ ν := { s with now := s.now + ms }

variable [DecidableEq κ]

/-- Write an entry. -/
def put (s : KeyStore κ ν) (k : κ) (e : Entry ν) : KeyStore κ ν :=
  { s with entries := fun j => if j = k then some e else s.entries j }

/-- Delete a key. -/
def del (s : KeyStore κ ν) (k : κ) : KeyStore κ ν :=
  { s with entries := fun j => if j = k then none else s.entries j }

/-- Set a key, with an expiry so many milliseconds from now. -/
def set (s : KeyStore κ ν) (k : κ) (v : ν) (pxMs : Option ℕ) : KeyStore κ ν :=
  s.put k ⟨v, pxMs.map fun ms => s.now + ms⟩

/-- Set a key unless it is there, and tell whether it was set. -/
def setNx (s : KeyStore κ ν) (k : κ) (v : ν) (pxMs : Option ℕ) : KeyStore κ ν × Bool :=
  if (s.live k).isSome then (s, false) else (s.set k v pxMs, true)

/-- Get and delete a key in one step. -/
def getdel (s : KeyStore κ ν) (k : κ) : KeyStore κ ν × Option ν :=
  match s.live k with
  | none => (s, none)
  | some e => (s.del k, some e.value)

/-- Change the value of a key, which keeps its expiry; a key that is not there gets one without. -/
def modify (s : KeyStore κ ν) (k : κ) (f : Option ν → ν) : KeyStore κ ν :=
  match s.live k with
  | none => s.put k ⟨f none, none⟩
  | some e => s.put k { e with value := f (some e.value) }

variable {s : KeyStore κ ν} {k j : κ}

lemma entries_put_ne (h : j ≠ k) (e : Entry ν) : (s.put k e).entries j = s.entries j := if_neg h

@[simp] lemma entries_put_self (e : Entry ν) : (s.put k e).entries k = some e := if_pos rfl

lemma entries_del_ne (h : j ≠ k) : (s.del k).entries j = s.entries j := if_neg h

@[simp] lemma entries_del_self : (s.del k).entries k = none := if_pos rfl

/-! ## What is live -/

omit [DecidableEq κ] in
lemma live_eq_some {e : Entry ν} :
    s.live k = some e ↔ s.entries k = some e ∧ s.isLive e = true := Option.filter_eq_some_iff

omit [DecidableEq κ] in
lemma get_eq_some {v : ν} : s.get k = some v ↔ ∃ e, s.live k = some e ∧ e.value = v := by
  rw [get, Option.map_eq_some_iff]

lemma live_put_ne (h : j ≠ k) (e : Entry ν) : (s.put k e).live j = s.live j := by
  have hput : (s.put k e).entries j = s.entries j := if_neg h
  rw [live, hput]
  rfl

lemma live_put_self (e : Entry ν) : (s.put k e).live k = if s.isLive e then some e else none := by
  have hput : (s.put k e).entries k = some e := if_pos rfl
  rw [live, hput]
  rfl

lemma live_put_of_live {e : Entry ν} (h : s.isLive e = true) : (s.put k e).live k = some e := by
  rw [live_put_self, if_pos h]

lemma live_del_ne (h : j ≠ k) : (s.del k).live j = s.live j := by
  have hdel : (s.del k).entries j = s.entries j := if_neg h
  rw [live, hdel]
  rfl

@[simp] lemma live_del_self : (s.del k).live k = none := by
  have hdel : (s.del k).entries k = none := if_pos rfl
  rw [live, hdel]
  rfl

omit [DecidableEq κ] in
lemma live_of_advance {ms : ℕ} {e : Entry ν} (h : (s.advance ms).live k = some e) :
    s.live k = some e := by
  rw [live_eq_some] at h ⊢
  refine ⟨h.1, ?_⟩
  have hlive := h.2
  rw [isLive, Option.all_eq_true] at hlive ⊢
  intro t ht
  have hlt := of_decide_eq_true (hlive t ht)
  have hbefore : s.now < t := Nat.lt_of_le_of_lt (Nat.le_add_right _ _) hlt
  exact decide_eq_true hbefore

lemma setNx_of_live {e : Entry ν} (h : s.live k = some e) (v : ν) (pxMs : Option ℕ) :
    s.setNx k v pxMs = (s, false) := by
  rw [setNx, h]
  rfl

lemma setNx_of_absent (h : s.live k = none) (v : ν) (pxMs : Option ℕ) :
    s.setNx k v pxMs = (s.set k v pxMs, true) := by
  rw [setNx, h]
  rfl

lemma live_setNx_ne (h : j ≠ k) (v : ν) (pxMs : Option ℕ) :
    (s.setNx k v pxMs).1.live j = s.live j := by
  rw [setNx]
  split
  · rfl
  · exact live_put_ne h _

lemma live_setNx {v : ν} {pxMs : Option ℕ} {e : Entry ν}
    (h : (s.setNx k v pxMs).1.live j = some e) :
    s.live j = some e ∨ (j = k ∧ s.live k = none ∧ e.value = v) := by
  by_cases hj : j = k
  · subst hj
    cases hlive : s.live j with
    | some e' =>
      rw [setNx_of_live hlive, hlive] at h
      exact Or.inl h
    | none =>
      rw [setNx_of_absent hlive, live_eq_some, set, entries_put_self] at h
      exact Or.inr ⟨rfl, rfl, by rw [← Option.some.inj h.1]⟩
  · rw [live_setNx_ne hj] at h
    exact Or.inl h

lemma getdel_of_absent (h : s.live k = none) : s.getdel k = (s, none) := by
  rw [getdel, h]

lemma getdel_of_live {e : Entry ν} (h : s.live k = some e) :
    s.getdel k = (s.del k, some e.value) := by
  rw [getdel, h]

lemma live_getdel_ne (h : j ≠ k) : (s.getdel k).1.live j = s.live j := by
  rw [getdel]
  split
  · rfl
  · exact live_del_ne h

lemma live_modify_ne (h : j ≠ k) (f : Option ν → ν) : (s.modify k f).live j = s.live j := by
  rw [modify]
  split <;> exact live_put_ne h _

/-! ## What is stored -/

lemma entries_put {e e' : Entry ν} (h : (s.put k e).entries j = some e') :
    s.entries j = some e' ∨ (j = k ∧ e' = e) := by
  have hput : (if j = k then some e else s.entries j) = some e' := h
  split at hput
  · next hjk =>
    cases hput
    exact Or.inr ⟨hjk, rfl⟩
  · exact Or.inl hput

lemma entries_del {e : Entry ν} (h : (s.del k).entries j = some e) : s.entries j = some e := by
  have hdel : (if j = k then none else s.entries j) = some e := h
  split at hdel
  · cases hdel
  · exact hdel

lemma entries_setNx {v : ν} {pxMs : Option ℕ} {e : Entry ν}
    (h : (s.setNx k v pxMs).1.entries j = some e) :
    s.entries j = some e ∨ (j = k ∧ e.value = v ∧ (s.setNx k v pxMs).2 = true) := by
  rw [setNx] at h ⊢
  split at h
  · exact Or.inl h
  · next hlive =>
    rw [if_neg hlive]
    rcases entries_put h with hold | ⟨hjk, rfl⟩
    · exact Or.inl hold
    · exact Or.inr ⟨hjk, rfl, rfl⟩

lemma entries_getdel {e : Entry ν} (h : (s.getdel k).1.entries j = some e) :
    s.entries j = some e := by
  rw [getdel] at h
  split at h
  · exact h
  · exact entries_del h

lemma entries_modify {f : Option ν → ν} {e : Entry ν} (h : (s.modify k f).entries j = some e) :
    s.entries j = some e ∨ (j = k ∧ ∃ v, e.value = f v) := by
  rw [modify] at h
  split at h
  · rcases entries_put h with hold | ⟨hjk, rfl⟩
    · exact Or.inl hold
    · exact Or.inr ⟨hjk, _, rfl⟩
  · rcases entries_put h with hold | ⟨hjk, rfl⟩
    · exact Or.inl hold
    · exact Or.inr ⟨hjk, _, rfl⟩

lemma entries_setNx_ne (h : j ≠ k) (v : ν) (pxMs : Option ℕ) :
    (s.setNx k v pxMs).1.entries j = s.entries j := by
  rw [setNx]
  split
  · rfl
  · exact entries_put_ne h _

lemma entries_getdel_ne (h : j ≠ k) : (s.getdel k).1.entries j = s.entries j := by
  rw [getdel]
  split
  · rfl
  · exact entries_del_ne h

lemma modify_of_live {e : Entry ν} (h : s.live k = some e) (f : Option ν → ν) :
    s.modify k f = s.put k { e with value := f (some e.value) } := by
  rw [modify, h]

omit [DecidableEq κ] in
lemma entries_of_get {v : ν} (h : s.get k = some v) : ∃ e, s.entries k = some e ∧ e.value = v := by
  obtain ⟨e, hlive, hvalue⟩ := get_eq_some.1 h
  exact ⟨e, (live_eq_some.1 hlive).1, hvalue⟩

end KeyStore

end Pherry.Lib
