import Mathlib.Algebra.Field.Rat
import Pherry.Host.Custody

/-!
# One session for one reservation

A reservation is spawned at most once at a time and registered at most once, a failed spawn gives it
back, and what the desk reports as reserved is what a claim would spawn.
-/

namespace Pherry.Host

open Lib Protocol

variable {Spec : Type}

/-! ## Calls and references -/

namespace OpenCall

/-- The reference a call holds: its spawn has not failed. -/
def holding : OpenCall Spec → Option SessionRef
  | .spawning _ ref _ => some ref
  | .failing ref => some ref
  | .opened _ ref => some ref
  | .refused _ => none
  | .failed _ => none

/-- A call that holds a reference. -/
def holds (ref : SessionRef) (c : OpenCall Spec) : ℕ := if c.holding = some ref then 1 else 0

/-- A claim that is in flight or succeeded. -/
def claims (ref : SessionRef) : OpenCall Spec → Bool
  | .spawning claim r _ => claim && r = ref
  | .failing r => r = ref
  | .opened claim r => claim && r = ref
  | .refused _ => false
  | .failed _ => false

/-- A session the host spawns itself, in flight or open. -/
def direct (ref : SessionRef) : OpenCall Spec → Bool
  | .spawning claim r _ => !claim && r = ref
  | .opened claim r => !claim && r = ref
  | .failing _ => false
  | .refused _ => false
  | .failed _ => false

/-- A call whose session was registered. -/
def registered (ref : SessionRef) : OpenCall Spec → ℕ
  | .opened _ r => if r = ref then 1 else 0
  | _ => 0

lemma registered_le_holds (ref : SessionRef) (c : OpenCall Spec) :
    c.registered ref ≤ c.holds ref := by
  cases c <;> simp [registered, holds, holding]

lemma holds_of_claims {ref : SessionRef} {c : OpenCall Spec} (h : c.claims ref = true) :
    c.holds ref = 1 := by
  cases c <;> simp_all [claims, holds, holding]

lemma holds_of_direct {ref : SessionRef} {c : OpenCall Spec} (h : c.direct ref = true) :
    c.holds ref = 1 := by
  cases c <;> simp_all [direct, holds, holding]

end OpenCall

namespace Custody

variable (newSessionRef : ℕ → SessionRef)

/-- How many calls hold a reference. -/
def held (s : Custody Spec) (ref : SessionRef) : ℕ := s.total (OpenCall.holds ref)

/-- The references drawn so far are different ones. -/
def Fresh (n : ℕ) : Prop := ∀ i j, i < n → j < n → newSessionRef i = newSessionRef j → i = j

/-- What holds between the reservations and the calls. -/
structure Consistent (s : Custody Spec) : Prop where
  undrawn : ∀ ref, (∀ j < s.shared.drawn, newSessionRef j ≠ ref) →
    s.shared.reservations.get ref = none ∧ s.held ref = 0
  absent : ∀ ref, s.shared.reservations.get ref = none →
    s.held ref ≤ 1 ∧ ∀ c ∈ s.calls, c.claims ref = false
  present : ∀ ref record, s.shared.reservations.get ref = some record →
    s.held ref = (if record.claimed then 1 else 0) ∧ ∀ c ∈ s.calls, c.direct ref = false

variable {newSessionRef}

lemma Consistent.not_holds {s : Custody Spec} {ref : SessionRef} (h : s.held ref = 0) :
    ∀ c ∈ s.calls, c.claims ref = false ∧ c.direct ref = false := by
  intro c hc
  obtain ⟨i, hi⟩ := List.mem_iff_getElem?.1 hc
  have hle : c.holds ref ≤ s.held ref := s.weight_le_total hi _
  refine ⟨Bool.eq_false_iff.2 fun hclaims => ?_, Bool.eq_false_iff.2 fun hdirect => ?_⟩
  · rw [OpenCall.holds_of_claims hclaims] at hle
    omega
  · rw [OpenCall.holds_of_direct hdirect] at hle
    omega

lemma Consistent.claimed {s : Custody Spec} (h : s.Consistent newSessionRef) {ref : SessionRef}
    {c : OpenCall Spec} (hc : c ∈ s.calls) (hclaims : c.claims ref = true) :
    ∃ record, s.shared.reservations.get ref = some record ∧ record.claimed = true := by
  cases hget : s.shared.reservations.get ref with
  | none =>
    have hnot := (h.absent ref hget).2 c hc
    rw [hclaims] at hnot
    cases hnot
  | some record =>
    refine ⟨record, rfl, ?_⟩
    obtain ⟨i, hi⟩ := List.mem_iff_getElem?.1 hc
    have hle : c.holds ref ≤ s.held ref := s.weight_le_total hi _
    rw [OpenCall.holds_of_claims hclaims, (h.present ref record hget).1] at hle
    by_contra hnot
    rw [if_neg hnot] at hle
    omega

/-! ## Steps -/

lemma Consistent.frame {s t : Custody Spec} (h : s.Consistent newSessionRef)
    (hreservations : t.shared.reservations = s.shared.reservations)
    (hdrawn : t.shared.drawn = s.shared.drawn) (hcalls : t.calls = s.calls) :
    t.Consistent newSessionRef := by
  have hheld : ∀ ref, t.held ref = s.held ref := fun ref => by
    rw [held, held, Concurrent.total, Concurrent.total, hcalls]
  refine ⟨fun ref href => ?_, fun ref hget => ?_, fun ref record hget => ?_⟩
  · rw [hdrawn] at href
    rw [hreservations, hheld]
    exact h.undrawn ref href
  · rw [hreservations] at hget
    rw [hheld, hcalls]
    exact h.absent ref hget
  · rw [hreservations] at hget
    rw [hheld, hcalls]
    exact h.present ref record hget

lemma held_start (s : Custody Spec) (d : CustodyDesk Spec) (c : OpenCall Spec) (ref : SessionRef) :
    held (({ s with shared := d } : Custody Spec).start c) ref = s.held ref + c.holds ref := by
  rw [held, Concurrent.total_start]
  rfl

lemma Consistent.reserve {s : Custody Spec} (h : s.Consistent newSessionRef)
    (hfresh : Fresh newSessionRef (s.shared.drawn + 1)) (record : ReservationRecord Spec)
    (hclaimed : record.claimed = false) :
    Consistent newSessionRef ({ s with shared := { s.shared with
      drawn := s.shared.drawn + 1
      reservations := s.shared.reservations.set (newSessionRef s.shared.drawn) record } } :
        Custody Spec) := by
  have hnew : ∀ j < s.shared.drawn, newSessionRef j ≠ newSessionRef s.shared.drawn :=
    fun j hj heq => absurd (hfresh j _ (by omega) (by omega) heq) (by omega)
  obtain ⟨hnone, hzero⟩ := h.undrawn _ hnew
  refine ⟨fun ref href => ?_, fun ref hget => ?_, fun ref other hget => ?_⟩
  · have hne : ref ≠ newSessionRef s.shared.drawn :=
      fun heq => href s.shared.drawn (Nat.lt_succ_self _) heq.symm
    obtain ⟨hget, hheld⟩ := h.undrawn ref fun j hj => href j (Nat.lt_succ_of_lt hj)
    exact ⟨by rw [InsertionMap.get_set_ne _ hne]; exact hget, hheld⟩
  · by_cases heq : ref = newSessionRef s.shared.drawn
    · rw [heq, InsertionMap.get_set_self] at hget
      cases hget
    · rw [InsertionMap.get_set_ne _ heq] at hget
      exact h.absent ref hget
  · by_cases heq : ref = newSessionRef s.shared.drawn
    · rw [heq, InsertionMap.get_set_self] at hget
      cases hget
      rw [heq, hclaimed]
      exact ⟨hzero, fun c hc => (not_holds hzero c hc).2⟩
    · rw [InsertionMap.get_set_ne _ heq] at hget
      exact h.present ref other hget

lemma Consistent.refuse {s : Custody Spec} (h : s.Consistent newSessionRef) (error : CustodyError) :
    Consistent newSessionRef (s.start (.refused error)) := by
  have hheld : ∀ ref, held (s.start (.refused error)) ref = s.held ref := held_start s s.shared _
  refine ⟨fun ref href => ?_, fun ref hget => ?_, fun ref record hget => ?_⟩
  · rw [hheld]
    exact h.undrawn ref href
  · rw [hheld]
    exact ⟨(h.absent ref hget).1, Concurrent.forall_start (h.absent ref hget).2 rfl⟩
  · rw [hheld]
    exact ⟨(h.present ref record hget).1, Concurrent.forall_start (h.present ref record hget).2 rfl⟩

lemma Consistent.drop {s : Custody Spec} (h : s.Consistent newSessionRef)
    {reservations : InsertionMap SessionRef (ReservationRecord Spec)}
    (hdrop : ∀ ref, reservations.get ref = s.shared.reservations.get ref ∨
      reservations.get ref = none ∧
        ∃ record, s.shared.reservations.get ref = some record ∧ record.claimed = false) :
    Consistent newSessionRef ({ s with shared := { s.shared with reservations } } : Custody Spec) := by
  refine ⟨fun ref href => ?_, fun ref hget => ?_, fun ref record hget => ?_⟩
  · obtain ⟨hnone, hzero⟩ := h.undrawn ref href
    refine ⟨?_, hzero⟩
    rcases hdrop ref with hsame | ⟨hgone, -⟩
    · exact hsame.trans hnone
    · exact hgone
  · rcases hdrop ref with hsame | ⟨-, record, hrecord, hclaimed⟩
    · exact h.absent ref (hsame.symm.trans hget)
    · have hzero := (h.present ref record hrecord).1
      rw [hclaimed] at hzero
      exact ⟨by rw [held] at hzero ⊢; exact le_of_eq_of_le hzero (Nat.zero_le 1),
        fun c hc => (not_holds hzero c hc).1⟩
  · rcases hdrop ref with hsame | ⟨hgone, -⟩
    · exact h.present ref record (hsame.symm.trans hget)
    · rw [hgone] at hget
      cases hget

lemma Consistent.take {s : Custody Spec} (h : s.Consistent newSessionRef) {ref : SessionRef}
    {record : ReservationRecord Spec} (hrecord : s.shared.reservations.get ref = some record)
    (hclaimed : record.claimed = false) (session : Opened Spec) :
    Consistent newSessionRef (({ s with shared := s.shared.setClaimed ref true } : Custody Spec).start
      (.spawning true ref session)) := by
  obtain ⟨hzero, -⟩ := h.present ref record hrecord
  rw [hclaimed] at hzero
  have hshared : s.shared.setClaimed ref true = { s.shared with
      reservations := s.shared.reservations.set ref { record with claimed := true } } := by
    rw [CustodyDesk.setClaimed, hrecord]
  have hself : OpenCall.holds ref (.spawning true ref session) = 1 := if_pos rfl
  have hother : ∀ r, r ≠ ref → OpenCall.holds r (.spawning true ref session) = 0 :=
    fun r hr => if_neg fun heq => hr (Option.some_injective _ heq).symm
  rw [hshared]
  refine ⟨fun r hr => ?_, fun r hget => ?_, fun r other hget => ?_⟩
  · obtain ⟨hnone, hheld⟩ := h.undrawn r hr
    have hne : r ≠ ref := fun heq => by rw [heq, hrecord] at hnone; cases hnone
    refine ⟨(InsertionMap.get_set_ne _ hne _).trans hnone, ?_⟩
    rw [held_start, hheld, hother r hne]
  · have hne : r ≠ ref := fun heq => by
      rw [heq] at hget
      cases (InsertionMap.get_set_self _ _ _).symm.trans hget
    have hold : s.shared.reservations.get r = none :=
      (InsertionMap.get_set_ne _ hne _).symm.trans hget
    obtain ⟨hheld, hclaims⟩ := h.absent r hold
    refine ⟨by rw [held_start, hother r hne]; exact hheld, Concurrent.forall_start hclaims ?_⟩
    simp [OpenCall.claims, Ne.symm hne]
  · by_cases heq : r = ref
    · subst heq
      cases (InsertionMap.get_set_self _ _ _).symm.trans hget
      refine ⟨by rw [held_start, hself, hzero]; rfl, Concurrent.forall_start ?_ rfl⟩
      exact fun c hc => (not_holds hzero c hc).2
    · have hold : s.shared.reservations.get r = some other :=
        (InsertionMap.get_set_ne _ heq _).symm.trans hget
      obtain ⟨hheld, hdirect⟩ := h.present r other hold
      exact ⟨by rw [held_start, hother r heq]; exact hheld, Concurrent.forall_start hdirect rfl⟩

lemma Consistent.claim {s : Custody Spec} (h : s.Consistent newSessionRef) (ref : SessionRef)
    (options : OpenSessionOptions) :
    Consistent newSessionRef (s.react newSessionRef (.claim ref options)).1 := by
  show Consistent newSessionRef (({ s with
    shared := (s.shared.claimOpenSession ref options).1 } : Custody Spec).start
      (s.shared.claimOpenSession ref options).2)
  unfold CustodyDesk.claimOpenSession
  split
  · exact h.refuse _
  next record hrecord =>
  split
  · exact h.refuse _
  next hclaimed =>
  have hclaimed := Bool.eq_false_iff.2 hclaimed
  split
  · refine (h.drop fun r => ?_).refuse _
    by_cases heq : r = ref
    · rw [heq]
      exact Or.inr ⟨InsertionMap.get_erase_self _ _, record, hrecord, hclaimed⟩
    · exact Or.inl (InsertionMap.get_erase_ne _ heq)
  · exact h.take hrecord hclaimed _

lemma Consistent.spawnSession {s : Custody Spec} (h : s.Consistent newSessionRef)
    (hfresh : Fresh newSessionRef (s.shared.drawn + 1)) (session : Opened Spec) :
    Consistent newSessionRef (({ s with shared := { s.shared with drawn := s.shared.drawn + 1 } } :
      Custody Spec).start (.spawning false (newSessionRef s.shared.drawn) session)) := by
  have hnew : ∀ j < s.shared.drawn, newSessionRef j ≠ newSessionRef s.shared.drawn :=
    fun j hj heq => absurd (hfresh j _ (by omega) (by omega) heq) (by omega)
  obtain ⟨hnone, hzero⟩ := h.undrawn _ hnew
  have hother : ∀ r, r ≠ newSessionRef s.shared.drawn →
      OpenCall.holds r (.spawning false (newSessionRef s.shared.drawn) session) = 0 :=
    fun r hr => if_neg fun heq => hr (Option.some_injective _ heq).symm
  refine ⟨fun r hr => ?_, fun r hget => ?_, fun r record hget => ?_⟩
  · have hne : r ≠ newSessionRef s.shared.drawn :=
      fun heq => hr s.shared.drawn (Nat.lt_succ_self _) heq.symm
    obtain ⟨hget, hheld⟩ := h.undrawn r fun j hj => hr j (Nat.lt_succ_of_lt hj)
    exact ⟨hget, by rw [held_start, hheld, hother r hne]⟩
  · obtain ⟨hheld, hclaims⟩ := h.absent r hget
    refine ⟨?_, Concurrent.forall_start hclaims rfl⟩
    rw [held_start]
    by_cases heq : r = newSessionRef s.shared.drawn
    · rw [heq, hzero, Nat.zero_add]
      exact le_of_eq (if_pos rfl)
    · rw [hother r heq]
      exact hheld
  · have hne : r ≠ newSessionRef s.shared.drawn := fun heq => by
      rw [heq] at hget
      cases hnone.symm.trans hget
    obtain ⟨hheld, hdirect⟩ := h.present r record hget
    refine ⟨by rw [held_start, hother r hne]; exact hheld, Concurrent.forall_start hdirect ?_⟩
    simp [OpenCall.direct, Ne.symm hne]

lemma Consistent.goOn {s : Custody Spec} (h : s.Consistent newSessionRef) {i : ℕ}
    {c : OpenCall Spec} (hc : s.calls[i]? = some c) (c' : OpenCall Spec) (d : CustodyDesk Spec)
    (hholds : c'.holding = c.holding) (hclaims : ∀ ref, c'.claims ref = c.claims ref)
    (hdirect : ∀ ref, c'.direct ref = c.direct ref)
    (hreservations : d.reservations = s.shared.reservations)
    (hdrawn : d.drawn = s.shared.drawn) :
    Consistent newSessionRef ⟨d, s.calls.set i c'⟩ := by
  have hmem := List.mem_of_getElem? hc
  have hheld : ∀ ref, held ⟨d, s.calls.set i c'⟩ ref = s.held ref := fun ref => by
    have htotal := Concurrent.total_set hc (OpenCall.holds ref) d c'
    have hsame : c'.holds ref = c.holds ref := by rw [OpenCall.holds, hholds]; rfl
    rw [held, held]
    omega
  refine ⟨fun ref href => ?_, fun ref hget => ?_, fun ref record hget => ?_⟩
  · rw [hheld, show d.reservations = _ from hreservations]
    exact h.undrawn ref fun j hj => href j (lt_of_lt_of_eq hj hdrawn.symm)
  · rw [show d.reservations = _ from hreservations] at hget
    obtain ⟨hle, hnot⟩ := h.absent ref hget
    exact ⟨by rw [hheld]; exact hle,
      Concurrent.forall_set hnot (by rw [hclaims]; exact hnot c hmem)⟩
  · rw [show d.reservations = _ from hreservations] at hget
    obtain ⟨heq, hnot⟩ := h.present ref record hget
    exact ⟨by rw [hheld]; exact heq,
      Concurrent.forall_set hnot (by rw [hdirect]; exact hnot c hmem)⟩

lemma Consistent.lose {s : Custody Spec} (h : s.Consistent newSessionRef) {i : ℕ}
    {ref : SessionRef} {session : Opened Spec}
    (hc : s.calls[i]? = some (.spawning false ref session)) :
    Consistent newSessionRef (⟨s.shared, s.calls.set i (.failed ref)⟩ : Custody Spec) := by
  have hheld : ∀ r, held ⟨s.shared, s.calls.set i (.failed ref)⟩ r +
      OpenCall.holds r (.spawning false ref session) = s.held r := fun r =>
    Concurrent.total_set hc (OpenCall.holds r) s.shared (.failed ref)
  refine ⟨fun r hr => ?_, fun r hget => ?_, fun r record hget => ?_⟩
  · obtain ⟨hnone, hzero⟩ := h.undrawn r hr
    refine ⟨hnone, ?_⟩
    have hr := hheld r
    omega
  · obtain ⟨hle, hnot⟩ := h.absent r hget
    refine ⟨?_, Concurrent.forall_set hnot rfl⟩
    have hr := hheld r
    omega
  · obtain ⟨heq, hnot⟩ := h.present r record hget
    have hother : OpenCall.holds r (.spawning false ref session) = 0 := by
      refine if_neg fun hholding => ?_
      have hdirect := hnot _ (List.mem_of_getElem? hc)
      rw [OpenCall.direct, Option.some_injective _ hholding] at hdirect
      simp at hdirect
    have hr := hheld r
    rw [hother] at hr
    exact ⟨hr.trans heq, Concurrent.forall_set hnot rfl⟩

lemma Consistent.settle {s : Custody Spec} (h : s.Consistent newSessionRef) (i : ℕ) (handle : Bool) :
    Consistent newSessionRef (s.advance i (CustodyDesk.settle handle)) := by
  refine Concurrent.advance_induction h fun c hc => ?_
  cases c with
  | spawning claim ref session =>
    rw [CustodyDesk.settle]
    split
    · exact h.goOn hc _ _ rfl (fun _ => rfl) (fun _ => rfl) rfl rfl
    cases claim with
    | true => exact h.goOn hc _ _ rfl (fun _ => rfl) (fun _ => rfl) rfl rfl
    | false => exact h.lose hc
  | refused error => exact h.goOn hc _ _ rfl (fun _ => rfl) (fun _ => rfl) rfl rfl
  | failing ref => exact h.goOn hc _ _ rfl (fun _ => rfl) (fun _ => rfl) rfl rfl
  | failed ref => exact h.goOn hc _ _ rfl (fun _ => rfl) (fun _ => rfl) rfl rfl
  | opened claim ref => exact h.goOn hc _ _ rfl (fun _ => rfl) (fun _ => rfl) rfl rfl

lemma Consistent.giveBack {s : Custody Spec} (h : s.Consistent newSessionRef) {i : ℕ}
    {ref : SessionRef} (hc : s.calls[i]? = some (.failing ref)) {record : ReservationRecord Spec}
    (hrecord : s.shared.reservations.get ref = some record) (hclaimed : record.claimed = true) :
    Consistent newSessionRef (⟨{ s.shared with
      reservations := s.shared.reservations.set ref { record with claimed := false } },
        s.calls.set i (.failed ref)⟩ : Custody Spec) := by
  have hheld : ∀ (d : CustodyDesk Spec) r, held ⟨d, s.calls.set i (.failed ref)⟩ r +
      OpenCall.holds r (.failing ref : OpenCall Spec) = s.held r := fun d r =>
    Concurrent.total_set hc (OpenCall.holds r) d (.failed ref)
  have hself : OpenCall.holds ref (.failing ref : OpenCall Spec) = 1 := if_pos rfl
  have hother : ∀ r, r ≠ ref → OpenCall.holds r (.failing ref : OpenCall Spec) = 0 :=
    fun r hr => if_neg fun heq => hr (Option.some_injective _ heq).symm
  obtain ⟨hone, hdirect⟩ := h.present ref record hrecord
  rw [if_pos hclaimed] at hone
  refine ⟨fun r hr => ?_, fun r hget => ?_, fun r other hget => ?_⟩
  · obtain ⟨hnone, hzero⟩ := h.undrawn r hr
    have hne : r ≠ ref := fun heq => by rw [heq, hrecord] at hnone; cases hnone
    refine ⟨(InsertionMap.get_set_ne _ hne _).trans hnone, ?_⟩
    have hr := hheld { s.shared with
      reservations := s.shared.reservations.set ref { record with claimed := false } } r
    omega
  · have hne : r ≠ ref := fun heq => by
      rw [heq] at hget
      cases (InsertionMap.get_set_self _ _ _).symm.trans hget
    obtain ⟨hle, hnot⟩ := h.absent r ((InsertionMap.get_set_ne _ hne _).symm.trans hget)
    refine ⟨?_, Concurrent.forall_set hnot rfl⟩
    have hr := hheld { s.shared with
      reservations := s.shared.reservations.set ref { record with claimed := false } } r
    omega
  · have hr := hheld { s.shared with
      reservations := s.shared.reservations.set ref { record with claimed := false } } r
    by_cases heq : r = ref
    · subst heq
      cases (InsertionMap.get_set_self _ _ _).symm.trans hget
      refine ⟨?_, Concurrent.forall_set hdirect rfl⟩
      rw [hself, hone] at hr
      exact Nat.succ_injective hr
    · obtain ⟨hsame, hnot⟩ := h.present r other ((InsertionMap.get_set_ne _ heq _).symm.trans hget)
      rw [hother r heq] at hr
      exact ⟨hr.trans hsame, Concurrent.forall_set hnot rfl⟩

lemma Consistent.caught {s : Custody Spec} (h : s.Consistent newSessionRef) (i : ℕ) :
    Consistent newSessionRef (s.advance i CustodyDesk.caught) := by
  refine Concurrent.advance_induction h fun c hc => ?_
  cases c with
  | failing ref =>
    obtain ⟨record, hrecord, hclaimed⟩ := h.claimed (List.mem_of_getElem? hc)
      (show OpenCall.claims ref (.failing ref) = true from decide_eq_true rfl)
    rw [CustodyDesk.caught, CustodyDesk.setClaimed, hrecord]
    exact h.giveBack hc hrecord hclaimed
  | refused error => exact h.goOn hc _ _ rfl (fun _ => rfl) (fun _ => rfl) rfl rfl
  | spawning claim ref session => exact h.goOn hc _ _ rfl (fun _ => rfl) (fun _ => rfl) rfl rfl
  | failed ref => exact h.goOn hc _ _ rfl (fun _ => rfl) (fun _ => rfl) rfl rfl
  | opened claim ref => exact h.goOn hc _ _ rfl (fun _ => rfl) (fun _ => rfl) rfl rfl

lemma drawn_settle (d : CustodyDesk Spec) (c : OpenCall Spec) (handle : Bool) :
    (CustodyDesk.settle handle d c).1.drawn = d.drawn := by
  cases c with
  | spawning claim ref session =>
    rw [CustodyDesk.settle]
    split <;> rfl
  | _ => rfl

lemma drawn_setClaimed (d : CustodyDesk Spec) (ref : SessionRef) (claimed : Bool) :
    (d.setClaimed ref claimed).drawn = d.drawn := by
  rw [CustodyDesk.setClaimed]
  split <;> rfl

lemma drawn_le_react (s : Custody Spec) (e : CustodyEvent Spec) :
    s.shared.drawn ≤ (s.react newSessionRef e).1.shared.drawn := by
  cases e with
  | reserve spec ttlMs =>
    rw [react]
    split
    · exact Nat.le_refl _
    · exact Nat.le_succ _
  | spawnSession spec options => exact Nat.le_succ _
  | claim ref options =>
    show s.shared.drawn ≤ (s.shared.claimOpenSession ref options).1.drawn
    rw [CustodyDesk.claimOpenSession]
    split
    · exact Nat.le_refl _
    split
    · exact Nat.le_refl _
    split
    · exact Nat.le_refl _
    · exact le_of_eq (drawn_setClaimed _ _ _).symm
  | settle i handle =>
    exact Concurrent.advance_induction (p := fun t : Custody Spec => s.shared.drawn ≤ t.shared.drawn)
      (Nat.le_refl _) fun c _ => le_of_eq (drawn_settle s.shared c handle).symm
  | caught i =>
    refine Concurrent.advance_induction (p := fun t : Custody Spec => s.shared.drawn ≤ t.shared.drawn)
      (Nat.le_refl _) fun c _ => ?_
    cases c with
    | failing ref => exact le_of_eq (drawn_setClaimed _ _ _).symm
    | _ => exact Nat.le_refl _
  | advance ms => exact Nat.le_refl _
  | sweepExpired => exact Nat.le_refl _
  | remove ref => exact Nat.le_refl _

lemma Consistent.sweep {s : Custody Spec} (h : s.Consistent newSessionRef) :
    Consistent newSessionRef ({ s with shared := s.shared.sweepExpired } : Custody Spec) := by
  refine h.drop fun ref => ?_
  cases hget : s.shared.reservations.get ref with
  | none =>
    refine Or.inl ?_
    cases hfilter : (s.shared.sweepExpired).reservations.get ref with
    | none => exact hfilter
    | some record =>
      rw [(InsertionMap.get_filter_eq_some.1 hfilter).1] at hget
      cases hget
  | some record =>
    by_cases hkeep : (!(!record.claimed && decide (record.expiresAt < s.shared.now))) = true
    · exact Or.inl (InsertionMap.get_filter_eq_some.2 ⟨hget, hkeep⟩)
    · refine Or.inr ⟨?_, record, rfl, ?_⟩
      · cases hfilter : (s.shared.sweepExpired).reservations.get ref with
        | none => exact hfilter
        | some other =>
          obtain ⟨hsame, hother⟩ := InsertionMap.get_filter_eq_some.1 hfilter
          cases hsame.symm.trans hget
          exact absurd hother hkeep
      · cases hclaimed : record.claimed with
        | false => rfl
        | true => exact absurd (by rw [hclaimed]; rfl) hkeep

lemma Consistent.react {s : Custody Spec} (h : s.Consistent newSessionRef) (e : CustodyEvent Spec)
    (hfresh : Fresh newSessionRef (s.react newSessionRef e).1.shared.drawn) :
    Consistent newSessionRef (s.react newSessionRef e).1 := by
  cases e with
  | advance ms => exact h.frame rfl rfl rfl
  | reserve spec ttlMs =>
    rw [Custody.react] at hfresh ⊢
    split
    · exact h
    next hpos =>
    rw [if_neg hpos] at hfresh
    exact h.reserve hfresh _ rfl
  | claim ref options => exact h.claim ref options
  | spawnSession spec options => exact h.spawnSession hfresh _
  | settle i handle => exact h.settle i handle
  | caught i => exact h.caught i
  | sweepExpired => exact h.sweep
  | remove ref => exact h.frame rfl rfl rfl

/-! ## Receipts -/

/-- What a receipt says of the desk from then on: its reference is drawn, and as long as its
reservation is there it ends when the receipt says. -/
def Receipted (newSessionRef : ℕ → SessionRef) (s : Custody Spec) (ref : SessionRef) (expiresAt : ℚ) :
    Prop :=
  (∃ j < s.shared.drawn, newSessionRef j = ref) ∧
    ∀ record, s.shared.reservations.get ref = some record → record.expiresAt = expiresAt

/-- Reservations keep their end, or are dropped; only a new reference gets one. -/
def Keeps (s t : Custody Spec) (ref : SessionRef) : Prop :=
  ∀ record, t.shared.reservations.get ref = some record →
    ∃ old, s.shared.reservations.get ref = some old ∧ old.expiresAt = record.expiresAt

lemma keeps_setClaimed (s : Custody Spec) (ref r : SessionRef) (claimed : Bool)
    (calls : List (OpenCall Spec)) : Keeps s ⟨s.shared.setClaimed r claimed, calls⟩ ref := by
  intro record hrecord
  rw [CustodyDesk.setClaimed] at hrecord
  split at hrecord
  · exact ⟨record, hrecord, rfl⟩
  next old hold =>
  by_cases heq : ref = r
  · subst heq
    cases (InsertionMap.get_set_self _ _ _).symm.trans hrecord
    exact ⟨old, hold, rfl⟩
  · exact ⟨record, (InsertionMap.get_set_ne _ heq _).symm.trans hrecord, rfl⟩

lemma keeps_react (s : Custody Spec) (e : CustodyEvent Spec) {j : ℕ} (hj : j < s.shared.drawn)
    (hfresh : Fresh newSessionRef (s.react newSessionRef e).1.shared.drawn) :
    Keeps s (s.react newSessionRef e).1 (newSessionRef j) := by
  have hsame : Keeps s s (newSessionRef j) := fun record hrecord => ⟨record, hrecord, rfl⟩
  cases e with
  | reserve spec ttlMs =>
    rw [react] at hfresh ⊢
    split
    · exact hsame
    next hpos =>
    rw [if_neg hpos] at hfresh
    have hne : newSessionRef j ≠ newSessionRef s.shared.drawn := fun heq =>
      absurd (hfresh j _ (Nat.lt_succ_of_lt hj) (Nat.lt_succ_self _) heq) (Nat.ne_of_lt hj)
    exact fun record hrecord => ⟨record, (InsertionMap.get_set_ne _ hne _).symm.trans hrecord, rfl⟩
  | claim r options =>
    show Keeps s (({ s with shared := (s.shared.claimOpenSession r options).1 } : Custody Spec).start
      (s.shared.claimOpenSession r options).2) _
    rw [CustodyDesk.claimOpenSession]
    split
    · exact hsame
    split
    · exact hsame
    split
    · exact fun record hrecord =>
        ⟨record, (InsertionMap.get_erase_eq_some.1 hrecord).2, rfl⟩
    · exact keeps_setClaimed s _ r true _
  | settle i handle =>
    refine Concurrent.advance_induction (p := fun t => Keeps s t _) hsame fun c _ => ?_
    cases c with
    | spawning claim r session =>
      rw [CustodyDesk.settle]
      split
      · exact hsame
      · exact hsame
    | _ => exact hsame
  | caught i =>
    refine Concurrent.advance_induction (p := fun t => Keeps s t _) hsame fun c _ => ?_
    cases c with
    | failing r => exact keeps_setClaimed s _ r false _
    | _ => exact hsame
  | sweepExpired =>
    exact fun record hrecord => ⟨record, (InsertionMap.get_filter_eq_some.1 hrecord).1, rfl⟩
  | spawnSession spec options => exact hsame
  | advance ms => exact hsame
  | remove r => exact hsame

lemma Receipted.react {s : Custody Spec} {ref : SessionRef} {expiresAt : ℚ}
    (h : s.Receipted newSessionRef ref expiresAt) (e : CustodyEvent Spec)
    (hfresh : Fresh newSessionRef (s.react newSessionRef e).1.shared.drawn) :
    (s.react newSessionRef e).1.Receipted newSessionRef ref expiresAt := by
  obtain ⟨⟨j, hj, rfl⟩, hends⟩ := h
  refine ⟨⟨j, lt_of_lt_of_le hj (drawn_le_react s e), rfl⟩, fun record hrecord => ?_⟩
  obtain ⟨old, hold, hsame⟩ := keeps_react s e hj hfresh record hrecord
  exact hsame.symm.trans (hends old hold)

lemma receipted_of_mem {s : Custody Spec} {e : CustodyEvent Spec} {ref : SessionRef} {expiresAt : ℚ}
    (h : .reserved ref expiresAt ∈ (s.react newSessionRef e).2) :
    (s.react newSessionRef e).1.Receipted newSessionRef ref expiresAt := by
  have hspawns : ∀ c : OpenCall Spec, CustodyEffect.reserved ref expiresAt ∉ c.spawns := by
    intro c hc
    cases c <;> simp [OpenCall.spawns] at hc
  cases e with
  | reserve spec ttlMs =>
    rw [Custody.react] at h ⊢
    split at h
    · cases h
    next hpos =>
    rw [if_neg hpos]
    cases List.mem_singleton.1 h
    refine ⟨⟨s.shared.drawn, Nat.lt_succ_self _, rfl⟩, fun record hrecord => ?_⟩
    cases (InsertionMap.get_set_self _ _ _).symm.trans hrecord
    rfl
  | claim r options => exact absurd h (hspawns _)
  | spawnSession spec options =>
    exact absurd h (hspawns (.spawning false (newSessionRef s.shared.drawn) ⟨spec, options⟩))
  | advance ms => cases h
  | settle i handle => cases h
  | caught i => cases h
  | sweepExpired => cases h
  | remove r => cases h

/-! ## What a claim would do -/

/-- A claim at this moment would start a spawn. -/
def WouldSpawn (newSessionRef : ℕ → SessionRef) (s : Custody Spec) (ref : SessionRef)
    (options : OpenSessionOptions) : Prop :=
  ∃ spec, .spawn spec ∈ (s.react newSessionRef (.claim ref options)).2

lemma isReserved_iff (d : CustodyDesk Spec) (ref : SessionRef) :
    d.isReserved ref = true ↔ ∃ record, d.reservations.get ref = some record ∧
      record.claimed = false ∧ d.now ≤ record.expiresAt := by
  rw [CustodyDesk.isReserved]
  cases hget : d.reservations.get ref with
  | none => simp
  | some record => simp

lemma mem_pending_iff (d : CustodyDesk Spec) (ref : SessionRef) :
    ref ∈ d.pending ↔ d.isReserved ref = true := by
  rw [isReserved_iff, CustodyDesk.pending, List.mem_map]
  constructor
  · rintro ⟨⟨r, record⟩, hmem, rfl⟩
    obtain ⟨hentry, hlive⟩ := List.mem_filter.1 hmem
    rw [Bool.and_eq_true, Bool.not_eq_true', decide_eq_true_eq] at hlive
    exact ⟨record, InsertionMap.mem_entries_iff.1 hentry, hlive⟩
  · rintro ⟨record, hrecord, hlive⟩
    refine ⟨(ref, record), List.mem_filter.2 ⟨InsertionMap.mem_entries_iff.2 hrecord, ?_⟩, rfl⟩
    rw [Bool.and_eq_true, Bool.not_eq_true', decide_eq_true_eq]
    exact hlive

lemma wouldSpawn_iff (s : Custody Spec) (ref : SessionRef) (options : OpenSessionOptions) :
    s.WouldSpawn newSessionRef ref options ↔ s.shared.isReserved ref = true := by
  have heffects : (s.react newSessionRef (.claim ref options)).2 =
      (s.shared.claimOpenSession ref options).2.spawns := rfl
  rw [WouldSpawn, heffects, isReserved_iff, CustodyDesk.claimOpenSession]
  cases hget : s.shared.reservations.get ref with
  | none => simp [OpenCall.spawns]
  | some record =>
    dsimp only
    split
    · next hclaimed => simp [OpenCall.spawns, hclaimed]
    · next hclaimed =>
      split
      · next hexpired =>
        simp only [OpenCall.spawns, List.not_mem_nil, exists_false, false_iff]
        rintro ⟨other, hother, -, hnow⟩
        cases hother
        exact absurd hnow (not_le.2 hexpired)
      · next hlive =>
        simp only [OpenCall.spawns, List.mem_singleton, CustodyEffect.spawn.injEq, exists_eq, true_iff]
        exact ⟨record, rfl, Bool.eq_false_iff.2 hclaimed, not_lt.1 hlive⟩

/-! ## Reservations that are free -/

/-- A reservation that nobody has claimed. -/
def Free (s : Custody Spec) (ref : SessionRef) (expiresAt : ℚ) : Prop :=
  ∃ record, s.shared.reservations.get ref = some record ∧ record.claimed = false ∧
    record.expiresAt = expiresAt

lemma now_le_react (s : Custody Spec) (e : CustodyEvent Spec) :
    s.shared.now ≤ (s.react newSessionRef e).1.shared.now := by
  have hset : ∀ (d : CustodyDesk Spec) ref claimed, (d.setClaimed ref claimed).now = d.now := by
    intro d ref claimed
    rw [CustodyDesk.setClaimed]
    split <;> rfl
  cases e with
  | advance ms => exact le_add_of_nonneg_right ms.2
  | reserve spec ttlMs =>
    rw [react]
    split
    · exact le_refl _
    · exact le_refl _
  | claim ref options =>
    show s.shared.now ≤ (s.shared.claimOpenSession ref options).1.now
    rw [CustodyDesk.claimOpenSession]
    split
    · exact le_refl _
    split
    · exact le_refl _
    split
    · exact le_refl _
    · exact le_of_eq (hset _ _ _).symm
  | settle i handle =>
    refine Concurrent.advance_induction (p := fun t : Custody Spec => s.shared.now ≤ t.shared.now)
      (le_refl _) fun c _ => ?_
    cases c with
    | spawning claim ref session =>
      rw [CustodyDesk.settle]
      split <;> exact le_refl _
    | _ => exact le_refl _
  | caught i =>
    refine Concurrent.advance_induction (p := fun t : Custody Spec => s.shared.now ≤ t.shared.now)
      (le_refl _) fun c _ => ?_
    cases c with
    | failing ref => exact le_of_eq (hset _ _ _).symm
    | _ => exact le_refl _
  | spawnSession spec options => exact le_refl _
  | sweepExpired => exact le_refl _
  | remove ref => exact le_refl _

lemma get_setClaimed_ne (d : CustodyDesk Spec) {ref r : SessionRef} (h : ref ≠ r) (claimed : Bool) :
    (d.setClaimed r claimed).reservations.get ref = d.reservations.get ref := by
  rw [CustodyDesk.setClaimed]
  split
  · rfl
  · exact InsertionMap.get_set_ne _ h _

lemma Free.react {s : Custody Spec} {ref : SessionRef} {expiresAt : ℚ} (h : s.Free ref expiresAt)
    (hconsistent : s.Consistent newSessionRef) (e : CustodyEvent Spec)
    (hclaim : ∀ options, e ≠ .claim ref options)
    (hfresh : Fresh newSessionRef (s.react newSessionRef e).1.shared.drawn)
    (hnow : (s.react newSessionRef e).1.shared.now ≤ expiresAt) :
    (s.react newSessionRef e).1.Free ref expiresAt := by
  obtain ⟨record, hrecord, hclaimed, hends⟩ := h
  have hsame : ∀ t : Custody Spec, t.shared.reservations.get ref = s.shared.reservations.get ref →
      t.Free ref expiresAt := fun t ht => ⟨record, ht.trans hrecord, hclaimed, hends⟩
  cases e with
  | reserve spec ttlMs =>
    rw [Custody.react] at hfresh ⊢
    split
    · exact hsame s rfl
    next hpos =>
    rw [if_neg hpos] at hfresh
    have hne : ref ≠ newSessionRef s.shared.drawn := by
      rintro rfl
      have hnone := (hconsistent.undrawn _ fun j hj heq =>
        absurd (hfresh j _ (Nat.lt_succ_of_lt hj) (Nat.lt_succ_self _) heq) (Nat.ne_of_lt hj)).1
      cases hnone.symm.trans hrecord
    exact hsame _ (InsertionMap.get_set_ne _ hne _)
  | claim r options =>
    have hne : ref ≠ r := fun heq => hclaim options (by rw [heq])
    show Free (({ s with shared := (s.shared.claimOpenSession r options).1 } : Custody Spec).start
      (s.shared.claimOpenSession r options).2) ref expiresAt
    refine hsame _ ?_
    show (s.shared.claimOpenSession r options).1.reservations.get ref = _
    rw [CustodyDesk.claimOpenSession]
    split
    · rfl
    split
    · rfl
    split
    · exact InsertionMap.get_erase_ne _ hne
    · exact get_setClaimed_ne _ hne _
  | settle i handle =>
    refine Concurrent.advance_induction (p := fun t : Custody Spec => t.Free ref expiresAt)
      (hsame s rfl) fun c _ => ?_
    refine hsame _ ?_
    cases c with
    | spawning claim r session =>
      rw [CustodyDesk.settle]
      split <;> rfl
    | _ => rfl
  | caught i =>
    refine Concurrent.advance_induction (p := fun t : Custody Spec => t.Free ref expiresAt)
      (hsame s rfl) fun c hc => ?_
    refine hsame _ ?_
    cases c with
    | failing r =>
      have hne : ref ≠ r := by
        rintro rfl
        obtain ⟨other, hother, hmarked⟩ := hconsistent.claimed (List.mem_of_getElem? hc)
          (show OpenCall.claims ref (.failing ref) = true from decide_eq_true rfl)
        cases hrecord.symm.trans hother
        rw [hclaimed] at hmarked
        cases hmarked
      exact get_setClaimed_ne _ hne _
    | _ => rfl
  | sweepExpired =>
    refine ⟨record, InsertionMap.get_filter_eq_some.2 ⟨hrecord, ?_⟩, hclaimed, hends⟩
    have hlive : ¬ record.expiresAt < s.shared.now := by
      rw [hends]
      exact not_lt.2 hnow
    rw [decide_eq_false hlive, Bool.and_false]
    rfl
  | spawnSession spec options => exact hsame _ rfl
  | advance ms => exact hsame _ rfl
  | remove r => exact hsame _ rfl

/-! ## Runs -/

section Runs

variable {now : ℚ} {sessionOptions : OpenSessionOptions}

/-- The receipts and spawns of a run. -/
def effects (newSessionRef : ℕ → SessionRef) (now : ℚ) (sessionOptions : OpenSessionOptions)
    (es : List (CustodyEvent Spec)) : List (CustodyEffect Spec) :=
  (custodyMachine newSessionRef now sessionOptions).outputs
    (fun s e => (s.react newSessionRef e).2) es

lemma Fresh.mono {m n : ℕ} (h : Fresh newSessionRef n) (hle : m ≤ n) : Fresh newSessionRef m :=
  fun i j hi hj => h i j (lt_of_lt_of_le hi hle) (lt_of_lt_of_le hj hle)

lemma consistent_run (es : List (CustodyEvent Spec)) :
    Fresh newSessionRef ((custodyMachine newSessionRef now sessionOptions).run es).shared.drawn →
      ((custodyMachine newSessionRef now sessionOptions).run es).Consistent newSessionRef ∧
      ∀ ref expiresAt, .reserved ref expiresAt ∈ effects newSessionRef now sessionOptions es →
        ((custodyMachine newSessionRef now sessionOptions).run es).Receipted newSessionRef ref
          expiresAt := by
  refine Machine.history_invariant (custodyMachine newSessionRef now sessionOptions)
    (p := fun es s => Fresh newSessionRef s.shared.drawn → s.Consistent newSessionRef ∧
      ∀ ref expiresAt, .reserved ref expiresAt ∈ effects newSessionRef now sessionOptions es →
        s.Receipted newSessionRef ref expiresAt) ?_ ?_ es
  · refine fun _ => ⟨⟨fun ref _ => ⟨rfl, rfl⟩, fun ref _ => ⟨Nat.zero_le _, nofun⟩, ?_⟩, nofun⟩
    intro ref record hrecord
    cases hrecord
  · intro es e ih hfresh
    obtain ⟨hconsistent, hreceipts⟩ := ih (hfresh.mono (drawn_le_react _ e))
    refine ⟨hconsistent.react e hfresh, fun ref expiresAt hmem => ?_⟩
    rw [effects, Machine.outputs_snoc] at hmem
    rcases List.mem_append.1 hmem with hold | hnew
    · exact (hreceipts ref expiresAt hold).react e hfresh
    · exact receipted_of_mem hnew

lemma Free.runFrom {s : Custody Spec} {ref : SessionRef} {expiresAt : ℚ} (h : s.Free ref expiresAt)
    (hconsistent : s.Consistent newSessionRef) (now : ℚ) (sessionOptions : OpenSessionOptions) {es : List (CustodyEvent Spec)}
    (hclaim : ∀ options, .claim ref options ∉ es)
    (hfresh : Fresh newSessionRef
      ((custodyMachine newSessionRef now sessionOptions).runFrom s es).shared.drawn)
    (hnow : ((custodyMachine newSessionRef now sessionOptions).runFrom s es).shared.now ≤ expiresAt) :
    ((custodyMachine newSessionRef now sessionOptions).runFrom s es).Consistent newSessionRef ∧
      ((custodyMachine newSessionRef now sessionOptions).runFrom s es).Free ref expiresAt := by
  induction es using List.reverseRecOn with
  | nil => exact ⟨hconsistent, h⟩
  | append_singleton es e ih =>
    rw [Machine.runFrom_append] at hfresh hnow ⊢
    have hbefore := ih (fun options hmem => hclaim options (List.mem_append_left _ hmem))
      (hfresh.mono (drawn_le_react _ e)) (le_trans (now_le_react _ e) hnow)
    refine ⟨hbefore.1.react e hfresh, hbefore.2.react hbefore.1 e (fun options heq => ?_) hfresh hnow⟩
    exact hclaim options (List.mem_append_right _ (List.mem_singleton.2 heq.symm))

end Runs

end Custody

/-! ## The law of the desk -/

section Law

variable (newSessionRef : ℕ → SessionRef) (now : ℚ) (sessionOptions : OpenSessionOptions)

/-- What a desk keeps at every moment of a run. -/
structure CustodyLaw (es : List (CustodyEvent Spec)) (s : Custody Spec) : Prop where
  once : ∀ ref, s.total (OpenCall.registered ref) ≤ 1
  expired : ∀ ref expiresAt options,
    .reserved ref expiresAt ∈ Custody.effects newSessionRef now sessionOptions es →
      expiresAt < s.shared.now → ¬ s.WouldSpawn newSessionRef ref options
  retried : ∀ (i : ℕ) ref expiresAt (later : List (CustodyEvent Spec)),
    s.calls[i]? = some (.failing ref) →
    .reserved ref expiresAt ∈ Custody.effects newSessionRef now sessionOptions es →
    (∀ options, .claim ref options ∉ later) →
    let t := (custodyMachine newSessionRef now sessionOptions).runFrom s (.caught i :: later)
    Custody.Fresh newSessionRef t.shared.drawn → t.shared.now ≤ expiresAt →
      ∀ options, t.WouldSpawn newSessionRef ref options
  swept : ∀ ref, (∃ c ∈ s.calls, c.claims ref = true) →
    (s.shared.sweepExpired.reservations.get ref).isSome = true
  isReserved : ∀ ref options, s.shared.isReserved ref = true ↔ s.WouldSpawn newSessionRef ref options
  pending : ∀ ref options, ref ∈ s.shared.pending ↔ s.WouldSpawn newSessionRef ref options

variable {newSessionRef now sessionOptions}

/-- Two references. -/
def twoRefs (j : ℕ) : SessionRef :=
  if j = 0 then ⟨js "sref_" ++ List.replicate 32 0x30, matchesId_zeros⟩
  else ⟨js "sref_" ++ List.replicate 32 0x31, by decide⟩

/-- A reservation is claimed twice, a spawn fails, and the next one succeeds behind a sweep. -/
def claimedAgain : List (CustodyEvent Unit) :=
  [.reserve () 30000, .reserve () 10, .claim (twoRefs 0) ⟨none, none, some 1⟩,
    .claim (twoRefs 0) ⟨none, none, some 2⟩, .settle 0 false, .caught 0,
    .claim (twoRefs 0) ⟨none, none, some 3⟩, .advance 40000, .sweepExpired, .settle 2 true]

end Law

end Pherry.Host
