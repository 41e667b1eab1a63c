import Pherry.Cli.DaemonResults
import Pherry.Host.CustodyLaw

/-!
# The launches of a daemon

A daemon remembers the launch of each session from its reservation on, and forgets it when the session
ends. A reservation that runs out is dropped from the desk alone.
-/

namespace Pherry.Cli

open Lib Host Protocol

/-! ## Claims under way -/

/-- A claim whose session is being spawned, or whose failure has yet to be handled. -/
def underWay (ref : SessionRef) : OpenCall CustodySpec → Bool
  | .spawning claim r _ => claim && r = ref
  | .failing r => r = ref
  | .opened _ _ => false
  | .refused _ => false
  | .failed _ => false

def UnderWay (calls : List (OpenCall CustodySpec)) (ref : SessionRef) : Prop :=
  ∃ c ∈ calls, underWay ref c = true

lemma holds_of_underWay {ref : SessionRef} {c : OpenCall CustodySpec} (h : underWay ref c = true) :
    c.claims ref = true ∧ c.holds ref = 1 := by
  cases c <;> simp_all [underWay, OpenCall.claims, OpenCall.holds, OpenCall.holding]

lemma underWay_append {calls : List (OpenCall CustodySpec)} {c : OpenCall CustodySpec} {ref : SessionRef} :
    UnderWay (calls ++ [c]) ref ↔ UnderWay calls ref ∨ underWay ref c = true := by
  simp only [UnderWay, List.mem_append, List.mem_singleton, or_and_right, exists_or, exists_eq_left]

lemma underWay_set {calls : List (OpenCall CustodySpec)} {i : ℕ} {c c' : OpenCall CustodySpec}
    {ref : SessionRef} (hc : calls[i]? = some c) (h : underWay ref c' = underWay ref c) :
    UnderWay (calls.set i c') ref ↔ UnderWay calls ref := by
  constructor
  · rintro ⟨d, hd, hunderWay⟩
    rcases List.mem_or_eq_of_mem_set hd with hold | rfl
    · exact ⟨d, hold, hunderWay⟩
    · exact ⟨c, List.mem_of_getElem? hc, h.symm.trans hunderWay⟩
  · exact fun hcalls => Concurrent.exists_set hc hcalls h.trans

lemma eq_of_holds {newSessionRef : ℕ → SessionRef} {s : Custody CustodySpec} {ref : SessionRef}
    (h : s.Consistent newSessionRef) {c c' : OpenCall CustodySpec} (hc : c ∈ s.calls) (hc' : c' ∈ s.calls)
    (hholds : c.holds ref = 1) (hholds' : c'.holds ref = 1) : c = c' := by
  have hle : s.held ref ≤ 1 := by
    cases hget : s.shared.reservations.get ref with
    | none => exact (h.absent ref hget).1
    | some record =>
      rw [(h.present ref record hget).1]
      split <;> omega
  exact Concurrent.eq_of_total_le_one hle hc hc' hholds hholds'

lemma claimed_of_holds {newSessionRef : ℕ → SessionRef} {s : Custody CustodySpec} {ref : SessionRef}
    (h : s.Consistent newSessionRef) {c : OpenCall CustodySpec} (hc : c ∈ s.calls) (hholds : c.holds ref = 1)
    {record : ReservationRecord CustodySpec} (hget : s.shared.reservations.get ref = some record) :
    record.claimed = true := by
  obtain ⟨i, hi⟩ := List.mem_iff_getElem?.1 hc
  have hle : c.holds ref ≤ s.held ref := s.weight_le_total hi _
  rw [hholds, (h.present ref record hget).1] at hle
  by_contra hnot
  rw [if_neg hnot] at hle
  omega

namespace Daemon

variable {σ : Type}

/-! ## Live launches -/

/-- A reservation lives while it can be claimed, and while its session is being spawned. -/
def LiveReservation (d : Daemon σ) (ref : SessionRef) : Prop :=
  d.desk.shared.isReserved ref = true ∨ UnderWay d.custody.calls ref

/-- The launches are those of the live reservations and the live sessions. -/
def LaunchesLive (d : Daemon σ) : Prop :=
  ∀ ref, ref ∈ d.launches.keys ↔ d.LiveReservation ref ∨ ref ∈ d.sessions.keys

/-- What can happen: a session that ends is one of the daemon's. -/
def Occurs (d : Daemon σ) : DaemonEvent → Prop
  | .ended ref => ref ∈ d.sessions.keys
  | _ => True

/-- No reservation runs out: the clock does not pass the end of one that is not claimed, and none is
given back behind its end. -/
def Spares (d : Daemon σ) : DaemonEvent → Prop
  | .clock now => ∀ ref record, d.custody.shared.reservations.get ref = some record →
    record.claimed = false → (now : ℚ) ≤ record.expiresAt
  | .caught call => ∀ ref record, d.custody.calls[call]? = some (.failing ref) →
    d.custody.shared.reservations.get ref = some record → (d.now : ℚ) ≤ record.expiresAt
  | _ => True

lemma isReserved_desk_iff {d : Daemon σ} {ref : SessionRef} : d.desk.shared.isReserved ref = true ↔
    ∃ record, d.custody.shared.reservations.get ref = some record ∧ record.claimed = false ∧
      (d.now : ℚ) ≤ record.expiresAt := Custody.isReserved_iff d.desk.shared ref

/-! ## What holds as long as none runs out -/

structure Tracked (newSessionRef : ℕ → SessionRef) (d : Daemon σ) : Prop where
  consistent : d.custody.Consistent newSessionRef
  claims : ∀ ref, ∀ c ∈ d.custody.calls, c.direct ref = false
  registered : ∀ ref, ref ∈ d.custody.shared.registry.keys ↔ ref ∈ d.sessions.keys
  opened : ∀ ref ∈ d.sessions.keys, .opened true ref ∈ d.custody.calls
  live : d.LaunchesLive
  unexpired : ∀ ref record, d.custody.shared.reservations.get ref = some record → record.claimed = false →
    (d.now : ℚ) ≤ record.expiresAt

/-- The record of a new reservation. -/
def newRecord (d : Daemon σ) (spec : CustodySpec) : ReservationRecord CustodySpec :=
  ⟨spec, (d.now : ℚ) + defaultReserveTtlMs, false⟩

namespace Tracked

variable {newSessionRef : ℕ → SessionRef} {d d' : Daemon σ}

lemma desk (h : d.Tracked newSessionRef) : d.desk.Consistent newSessionRef := h.consistent.frame rfl rfl rfl

lemma not_live (h : d.Tracked newSessionRef) {ref : SessionRef} (href : ref ∈ d.sessions.keys) :
    ¬ d.LiveReservation ref := by
  have hcall := h.opened ref href
  have hholds : OpenCall.holds ref (.opened true ref : OpenCall CustodySpec) = 1 := if_pos rfl
  rintro (hreserved | ⟨c, hc, hunderWay⟩)
  · obtain ⟨record, hget, hclaimed, -⟩ := isReserved_desk_iff.1 hreserved
    rw [claimed_of_holds h.consistent hcall hholds hget] at hclaimed
    exact absurd hclaimed (by decide)
  · have heq := eq_of_holds h.consistent hc hcall (holds_of_underWay hunderWay).2 hholds
    rw [heq] at hunderWay
    exact Bool.false_ne_true hunderWay

/-- A step at the desk that leaves the sessions as they are, and as many reservations alive. -/
lemma atDesk (h : d.Tracked newSessionRef) (hconsistent : d'.custody.Consistent newSessionRef)
    (hclaims : ∀ ref, ∀ c ∈ d'.custody.calls, c.direct ref = false)
    (hregistry : d'.custody.shared.registry = d.custody.shared.registry)
    (hsessions : d'.sessions = d.sessions) (hlaunches : d'.launches = d.launches)
    (hopened : ∀ ref, .opened true ref ∈ d.custody.calls → .opened true ref ∈ d'.custody.calls)
    (hlive : ∀ ref, d'.LiveReservation ref ↔ d.LiveReservation ref)
    (hunexpired : ∀ ref record, d'.custody.shared.reservations.get ref = some record →
      record.claimed = false → (d'.now : ℚ) ≤ record.expiresAt) : d'.Tracked newSessionRef := by
  refine ⟨hconsistent, hclaims, fun ref => ?_, fun ref href => ?_, fun ref => ?_, hunexpired⟩
  · rw [hregistry, hsessions]
    exact h.registered ref
  · rw [hsessions] at href
    exact hopened ref (h.opened ref href)
  · rw [hlaunches, hlive, hsessions]
    exact h.live ref

/-! ## The steps of a daemon -/

lemma get_sweep (h : d.Tracked newSessionRef) (ref : SessionRef) :
    d.desk.shared.sweepExpired.reservations.get ref = d.custody.shared.reservations.get ref := by
  refine Option.ext fun record => ?_
  rw [CustodyDesk.sweepExpired, InsertionMap.get_filter_eq_some]
  refine ⟨fun hkept => hkept.1, fun hget => ⟨hget, ?_⟩⟩
  cases hclaimed : record.claimed with
  | true => rfl
  | false =>
    have hends : ¬ record.expiresAt < d.desk.shared.now := not_lt.2 (h.unexpired ref record hget hclaimed)
    rw [decide_eq_false hends]
    rfl

lemma ttl_pos : (0 : ℚ) < (defaultReserveTtlMs : ℕ) := Nat.cast_pos.2 (by decide)

lemma custody_reserve (d : Daemon σ) (newSessionRef : ℕ → SessionRef) (spec : CustodySpec) :
    (d.reserve newSessionRef spec).custody =
      { d.desk with shared := { d.desk.shared.sweepExpired with
        drawn := d.custody.shared.drawn + 1
        reservations := d.desk.shared.sweepExpired.reservations.set (newSessionRef d.custody.shared.drawn)
          (d.newRecord spec) } } := by
  rw [Daemon.reserve, Custody.react, Custody.react, if_neg (not_le.2 ttl_pos)]
  rfl

lemma get_reserve (h : d.Tracked newSessionRef) (spec : CustodySpec) (r : SessionRef) :
    (d.reserve newSessionRef spec).custody.shared.reservations.get r =
      if r = newSessionRef d.custody.shared.drawn then some (d.newRecord spec)
      else d.custody.shared.reservations.get r := by
  rw [custody_reserve, InsertionMap.get_set, h.get_sweep]

lemma reserve (h : d.Tracked newSessionRef) (spec : CustodySpec)
    (hfresh : Custody.Fresh newSessionRef (d.custody.shared.drawn + 1)) :
    (d.reserve newSessionRef spec).Tracked newSessionRef := by
  let ref := newSessionRef d.custody.shared.drawn
  have hcustody := custody_reserve d newSessionRef spec
  have hcalls : (d.reserve newSessionRef spec).custody.calls = d.custody.calls := by rw [hcustody]; rfl
  have hends : (d.now : ℚ) ≤ (d.newRecord spec).expiresAt := le_add_of_nonneg_right ttl_pos.le
  refine ⟨?_, ?_, ?_, ?_, fun r => ?_, fun r other hother hclaimed => ?_⟩
  · rw [hcustody]
    exact h.desk.sweep.reserve hfresh (d.newRecord spec) rfl
  · rw [hcalls]
    exact h.claims
  · rw [hcustody]
    exact h.registered
  · rw [hcalls]
    exact h.opened
  · show r ∈ (d.launches.set ref _).keys ↔ _ ∨ r ∈ d.sessions.keys
    rw [InsertionMap.mem_keys_set, LiveReservation, isReserved_desk_iff, h.get_reserve, hcalls]
    by_cases hr : r = ref
    · rw [if_pos hr]
      exact iff_of_true (.inl hr) (.inl (.inl ⟨_, rfl, rfl, hends⟩))
    · rw [if_neg hr, h.live r, LiveReservation, isReserved_desk_iff]
      exact or_iff_right hr
  · rw [h.get_reserve] at hother
    by_cases hr : r = ref
    · rw [if_pos hr, Option.some_inj] at hother
      rw [← hother]
      exact hends
    · rw [if_neg hr] at hother
      exact h.unexpired r other hother hclaimed

lemma refuse (h : d.Tracked newSessionRef) (error : CustodyError) (n : ℕ) :
    ({ d with custody := d.desk.start (.refused error), nextStreamId := n } : Daemon σ).Tracked newSessionRef := by
  refine h.atDesk (h.desk.refuse error) (fun ref => Concurrent.forall_start (h.claims ref) rfl) rfl rfl rfl
    (fun ref href => List.mem_append_left _ href) (fun ref => ?_) h.unexpired
  rw [LiveReservation, LiveReservation, isReserved_desk_iff, isReserved_desk_iff]
  exact or_congr Iff.rfl (underWay_append.trans (or_iff_left Bool.false_ne_true))

lemma get_setClaimed {s : CustodyDesk CustodySpec} {ref : SessionRef} {record : ReservationRecord CustodySpec}
    (hget : s.reservations.get ref = some record) (claimed : Bool) (r : SessionRef) :
    (s.setClaimed ref claimed).reservations.get r =
      if r = ref then some { record with claimed } else s.reservations.get r := by
  rw [CustodyDesk.setClaimed, hget]
  exact InsertionMap.get_set _ _ _ _

lemma registry_setClaimed (s : CustodyDesk CustodySpec) (ref : SessionRef) (claimed : Bool) :
    (s.setClaimed ref claimed).registry = s.registry := by
  unfold CustodyDesk.setClaimed
  split <;> rfl

lemma take (h : d.Tracked newSessionRef) {ref : SessionRef} {record : ReservationRecord CustodySpec}
    (hget : d.custody.shared.reservations.get ref = some record) (hclaimed : record.claimed = false)
    (session : Opened CustodySpec) (n : ℕ) :
    ({ d with
      custody := ({ d.desk with shared := d.desk.shared.setClaimed ref true } : Custody CustodySpec).start
        (.spawning true ref session)
      nextStreamId := n } : Daemon σ).Tracked newSessionRef := by
  have hafter := get_setClaimed (s := d.desk.shared) hget true
  refine h.atDesk (h.desk.take hget hclaimed session) (fun r => Concurrent.forall_start (h.claims r) rfl)
    (registry_setClaimed _ _ _) rfl rfl (fun r hr => List.mem_append_left _ hr) (fun r => ?_)
    fun r other hother hunclaimed => ?_
  · rw [LiveReservation, LiveReservation, isReserved_desk_iff, isReserved_desk_iff]
    show (∃ other, (d.desk.shared.setClaimed ref true).reservations.get r = some other ∧ _) ∨
      UnderWay (d.custody.calls ++ [_]) r ↔ _
    rw [hafter, underWay_append]
    by_cases hr : r = ref
    · rw [hr]
      exact iff_of_true (.inr (.inr (by simp [underWay])))
        (.inl ⟨record, hget, hclaimed, h.unexpired ref record hget hclaimed⟩)
    · rw [if_neg hr]
      exact or_congr Iff.rfl (or_iff_left (by simp [underWay, Ne.symm hr]))
  · rw [show (_ : Custody CustodySpec).shared.reservations.get r = _ from hafter r] at hother
    split at hother
    · rw [Option.some_inj] at hother
      rw [← hother] at hunclaimed
      cases hunclaimed
    · exact h.unexpired r other hother hunclaimed

lemma claim (h : d.Tracked newSessionRef) (ref : SessionRef) : (d.claim newSessionRef ref).Tracked newSessionRef := by
  have hreact : d.claim newSessionRef ref = { d with
      custody := ({ d.desk with
        shared := (d.desk.shared.claimOpenSession ref ⟨none, none, some d.nextStreamId⟩).1 } : Custody CustodySpec).start
        (d.desk.shared.claimOpenSession ref ⟨none, none, some d.nextStreamId⟩).2
      nextStreamId := d.nextStreamId + 1 } := rfl
  rw [hreact, CustodyDesk.claimOpenSession]
  split
  · exact h.refuse _ _
  · next record hget =>
    split
    · exact h.refuse _ _
    · next hclaimed =>
      rw [Bool.not_eq_true] at hclaimed
      -- a reservation that can be claimed has not run out
      have hends : ¬ d.desk.shared.now > record.expiresAt := not_lt.2 (h.unexpired ref record hget hclaimed)
      rw [if_neg hends]
      exact h.take hget hclaimed _ _

lemma register (h : d.Tracked newSessionRef) {i : ℕ} {ref : SessionRef} {session : Opened CustodySpec}
    (hc : d.custody.calls[i]? = some (.spawning true ref session)) (started : Session σ) :
    ({ d with
      custody := ⟨{ d.desk.shared with registry := d.desk.shared.registry.set ref session },
        d.custody.calls.set i (.opened true ref)⟩
      sessions := d.sessions.set ref started } : Daemon σ).Tracked newSessionRef := by
  have hspawning : underWay ref (.spawning true ref session) = true := by simp [underWay]
  have hopened : ∀ r, .opened true r ∈ d.custody.calls →
      .opened true r ∈ d.custody.calls.set i (.opened true ref : OpenCall CustodySpec) :=
    fun r hr => Concurrent.mem_set_of_ne hc hr (by simp)
  refine ⟨?_, fun r => Concurrent.forall_set (h.claims r) rfl, fun r => ?_, fun r hr => ?_, fun r => ?_, h.unexpired⟩
  · exact h.desk.goOn hc _ _ rfl (fun _ => rfl) (fun _ => rfl) rfl rfl
  · exact (InsertionMap.mem_keys_set.trans (or_congr Iff.rfl (h.registered r))).trans InsertionMap.mem_keys_set.symm
  · rcases InsertionMap.mem_keys_set.1 hr with rfl | hr
    · exact Concurrent.mem_set_self hc
    · exact hopened r (h.opened r hr)
  · rw [InsertionMap.mem_keys_set, LiveReservation, isReserved_desk_iff, h.live r, LiveReservation, isReserved_desk_iff]
    by_cases hr : r = ref
    · rw [hr]
      exact iff_of_true (.inl (.inr ⟨_, List.mem_of_getElem? hc, hspawning⟩)) (.inr (.inl rfl))
    · have hsame : underWay r (.opened true ref) = underWay r (.spawning true ref session) := by
        simp [underWay, Ne.symm hr]
      show _ ↔ (_ ∨ UnderWay (d.custody.calls.set i _) r) ∨ _
      rw [underWay_set hc hsame, or_iff_right hr]
      rfl

lemma fail (h : d.Tracked newSessionRef) {i : ℕ} {ref : SessionRef} {session : Opened CustodySpec}
    (hc : d.custody.calls[i]? = some (.spawning true ref session)) :
    ({ d with custody := ⟨d.desk.shared, d.custody.calls.set i (.failing ref)⟩ } : Daemon σ).Tracked newSessionRef := by
  refine h.atDesk (h.desk.goOn hc _ _ rfl (fun _ => rfl) (fun _ => rfl) rfl rfl)
    (fun r => Concurrent.forall_set (h.claims r) rfl) rfl rfl rfl
    (fun r hr => Concurrent.mem_set_of_ne hc hr (by simp)) (fun r => ?_) h.unexpired
  have hsame : underWay r (.failing ref) = underWay r (.spawning true ref session) := by simp [underWay]
  rw [LiveReservation, LiveReservation, isReserved_desk_iff, isReserved_desk_iff]
  exact or_congr Iff.rfl (underWay_set hc hsame)

lemma reads (h : d.Tracked newSessionRef) : ({ d with custody := d.desk } : Daemon σ).Tracked newSessionRef :=
  h.atDesk h.desk h.claims rfl rfl rfl (fun _ href => href) (fun _ => Iff.rfl) h.unexpired

lemma idle (h : d.Tracked newSessionRef) {i : ℕ} {c : OpenCall CustodySpec} (hc : d.custody.calls[i]? = some c) :
    ({ d with custody := ⟨d.desk.shared, d.custody.calls.set i c⟩ } : Daemon σ).Tracked newSessionRef := by
  have hsame : d.custody.calls.set i c = d.custody.calls := by
    obtain ⟨hi, rfl⟩ := List.getElem?_eq_some_iff.1 hc
    exact List.set_getElem_self hi
  rw [hsame]
  exact h.reads

lemma settle_of_none {call : ℕ} (hopened : d.opened call = none) (em : Emulator σ) (handle : Bool) :
    d.settle em newSessionRef call handle =
      { d with custody := d.desk.advance call (CustodyDesk.settle handle) } := by
  unfold Daemon.settle
  rw [hopened]
  cases handle <;> rfl

lemma settle (h : d.Tracked newSessionRef) (em : Emulator σ) (call : ℕ) (handle : Bool) :
    (d.settle em newSessionRef call handle).Tracked newSessionRef := by
  cases hc : d.custody.calls[call]? with
  | none =>
    have hopened : d.opened call = none := by rw [Daemon.opened, hc]
    rw [settle_of_none hopened, Concurrent.advance_of_none (s := d.desk) hc]
    exact h.reads
  | some c =>
    have hadvance := Concurrent.advance_of_some (s := d.desk) hc (CustodyDesk.settle handle)
    cases c with
    | spawning claim ref session =>
      have hclaim : claim = true := by
        have hdirect := h.claims ref _ (List.mem_of_getElem? hc)
        simpa [OpenCall.direct] using hdirect
      subst hclaim
      -- the reference of a spawn is no session yet
      have hnone : d.custody.shared.registry.get ref = none := by
        by_contra hsome
        obtain ⟨other, hother⟩ := Option.ne_none_iff_exists'.1 hsome
        have hsession := (h.registered ref).1 (InsertionMap.mem_keys_iff.2 ⟨other, hother⟩)
        exact h.not_live hsession (.inr ⟨_, List.mem_of_getElem? hc, by simp [underWay]⟩)
      have hopened : d.opened call = some (ref, session) := by
        rw [Daemon.opened, hc]
        exact if_pos (by rw [hnone]; rfl)
      have hfree : (d.desk.shared.registry.get ref).isNone = true := by
        rw [show d.desk.shared.registry.get ref = none from hnone]
        rfl
      have hreact : (d.desk.react newSessionRef (.settle call handle)).1 =
          d.desk.advance call (CustodyDesk.settle handle) := rfl
      unfold Daemon.settle
      rw [hreact, hadvance, hopened]
      cases handle with
      | true =>
        rw [CustodyDesk.settle, hfree]
        exact h.register hc _
      | false => exact h.fail hc
    | refused error =>
      rw [settle_of_none (by rw [Daemon.opened, hc]), hadvance]
      exact h.idle hc
    | failing ref =>
      rw [settle_of_none (by rw [Daemon.opened, hc]), hadvance]
      exact h.idle hc
    | failed ref =>
      rw [settle_of_none (by rw [Daemon.opened, hc]), hadvance]
      exact h.idle hc
    | opened claim ref =>
      rw [settle_of_none (by rw [Daemon.opened, hc]), hadvance]
      exact h.idle hc

lemma giveBack (h : d.Tracked newSessionRef) {i : ℕ} {ref : SessionRef}
    (hc : d.custody.calls[i]? = some (.failing ref)) {record : ReservationRecord CustodySpec}
    (hget : d.custody.shared.reservations.get ref = some record) (hends : (d.now : ℚ) ≤ record.expiresAt) :
    ({ d with custody := ⟨d.desk.shared.setClaimed ref false, d.custody.calls.set i (.failed ref)⟩ } :
      Daemon σ).Tracked newSessionRef := by
  have hfailing : underWay ref (.failing ref) = true := by simp [underWay]
  have hclaimed := claimed_of_holds h.consistent (List.mem_of_getElem? hc) (if_pos rfl) hget
  have hafter := get_setClaimed (s := d.desk.shared) hget false
  have hconsistent := h.desk.giveBack hc hget hclaimed
  have hshared : d.desk.shared.setClaimed ref false = { d.desk.shared with
      reservations := d.desk.shared.reservations.set ref { record with claimed := false } } := by
    rw [CustodyDesk.setClaimed, show d.desk.shared.reservations.get ref = some record from hget]
  refine h.atDesk (by rw [hshared]; exact hconsistent) (fun r => Concurrent.forall_set (h.claims r) rfl)
    (registry_setClaimed _ _ _) rfl rfl (fun r hr => Concurrent.mem_set_of_ne hc hr (by simp)) (fun r => ?_)
    fun r other hother hunclaimed => ?_
  · rw [LiveReservation, LiveReservation, isReserved_desk_iff, isReserved_desk_iff]
    show (∃ other, (d.desk.shared.setClaimed ref false).reservations.get r = some other ∧ _) ∨
      UnderWay (d.custody.calls.set i _) r ↔ _
    rw [hafter]
    by_cases hr : r = ref
    · rw [hr, if_pos rfl]
      exact iff_of_true (.inl ⟨_, rfl, rfl, hends⟩) (.inr ⟨_, List.mem_of_getElem? hc, hfailing⟩)
    · have hsame : underWay r (.failed ref) = underWay r (.failing ref) := by simp [underWay, Ne.symm hr]
      rw [if_neg hr]
      exact or_congr Iff.rfl (underWay_set hc hsame)
  · rw [show (_ : Custody CustodySpec).shared.reservations.get r = _ from hafter r] at hother
    split at hother
    · rw [Option.some_inj] at hother
      rw [← hother]
      exact hends
    · exact h.unexpired r other hother hunclaimed

lemma caught (h : d.Tracked newSessionRef) {call : ℕ} (hspares : d.Spares (.caught call)) :
    ({ d with custody := (d.desk.react newSessionRef (.caught call)).1 } : Daemon σ).Tracked newSessionRef := by
  have hreact : (d.desk.react newSessionRef (.caught call)).1 = d.desk.advance call CustodyDesk.caught := rfl
  rw [hreact]
  cases hc : d.custody.calls[call]? with
  | none =>
    rw [Concurrent.advance_of_none (s := d.desk) hc]
    exact h.reads
  | some c =>
    rw [Concurrent.advance_of_some (s := d.desk) hc]
    cases c with
    | failing ref =>
      obtain ⟨record, hget, -⟩ := h.consistent.claimed (List.mem_of_getElem? hc)
        (show OpenCall.claims ref (.failing ref) = true from decide_eq_true rfl)
      exact h.giveBack hc hget (hspares ref record hc hget)
    | spawning claim ref session => exact h.idle hc
    | refused error => exact h.idle hc
    | failed ref => exact h.idle hc
    | opened claim ref => exact h.idle hc

lemma ended (h : d.Tracked newSessionRef) {ref : SessionRef} (href : ref ∈ d.sessions.keys) :
    (d.ended newSessionRef ref).Tracked newSessionRef := by
  refine ⟨h.consistent.frame rfl rfl rfl, h.claims, fun r => ?_, fun r hr => ?_, fun r => ?_, h.unexpired⟩
  · exact (InsertionMap.mem_keys_erase.trans (and_congr Iff.rfl (h.registered r))).trans
      InsertionMap.mem_keys_erase.symm
  · exact h.opened r (InsertionMap.mem_keys_erase.1 hr).2
  · show r ∈ (d.launches.erase ref).keys ↔ d.LiveReservation r ∨ r ∈ (d.sessions.erase ref).keys
    rw [InsertionMap.mem_keys_erase, InsertionMap.mem_keys_erase, h.live r]
    by_cases hr : r = ref
    · rw [hr]
      exact iff_of_false (fun hkept => hkept.1 rfl) (not_or.2 ⟨h.not_live href, fun hkept => hkept.1 rfl⟩)
    · simp [hr]

lemma onSession (h : d.Tracked newSessionRef) (em : Emulator σ) (ref : SessionRef) (e : SessionEvent) :
    (d.onSession em ref e).Tracked newSessionRef := by
  unfold Daemon.onSession
  split
  · exact h
  · next session hget =>
    have hkeys : ∀ r v, r ∈ (d.sessions.set ref v).keys ↔ r ∈ d.sessions.keys := by
      intro r v
      rw [InsertionMap.mem_keys_set]
      refine or_iff_right_of_imp fun hr => ?_
      rw [hr]
      exact InsertionMap.mem_keys_iff.2 ⟨session, hget⟩
    refine ⟨h.consistent, h.claims, fun r => ?_, fun r hr => ?_, fun r => ?_, h.unexpired⟩
    · exact (h.registered r).trans (hkeys r _).symm
    · exact h.opened r ((hkeys r _).1 hr)
    · exact (h.live r).trans (or_congr Iff.rfl (hkeys r _).symm)

lemma clock (h : d.Tracked newSessionRef) {now : ℕ} (hspares : d.Spares (.clock now)) :
    ({ d with now } : Daemon σ).Tracked newSessionRef := by
  refine h.atDesk h.consistent h.claims rfl rfl rfl (fun _ href => href) (fun r => ?_) hspares
  rw [LiveReservation, LiveReservation, isReserved_desk_iff, isReserved_desk_iff]
  refine or_congr ?_ Iff.rfl
  constructor
  · rintro ⟨record, hget, hclaimed, -⟩
    exact ⟨record, hget, hclaimed, h.unexpired r record hget hclaimed⟩
  · rintro ⟨record, hget, hclaimed, -⟩
    exact ⟨record, hget, hclaimed, hspares r record hget hclaimed⟩

lemma react (h : d.Tracked newSessionRef) (em : Emulator σ) {e : DaemonEvent} (hoccurs : d.Occurs e)
    (hspares : d.Spares e) (hfresh : Custody.Fresh newSessionRef (d.react em newSessionRef e).custody.shared.drawn) :
    (d.react em newSessionRef e).Tracked newSessionRef := by
  cases e with
  | clock now => exact h.clock hspares
  | reserve spec => exact h.reserve spec hfresh
  | launch w params =>
    revert hfresh
    rw [Daemon.react]
    split
    · exact fun _ => h
    · exact fun hfresh => h.reserve _ hfresh
  | claim ref => exact h.claim ref
  | settle call handle => exact h.settle em call handle
  | caught call => exact h.caught hspares
  | session ref e => exact h.onSession em ref e.1
  | ended ref => exact h.ended hoccurs

lemma not_live_of_runsOut (h : d.Tracked newSessionRef) (d' : Daemon σ) {ref : SessionRef}
    (hlive : d.LiveReservation ref) (hlaunches : d'.launches = d.launches) (hsessions : d'.sessions = d.sessions)
    (hconsistent : d'.custody.Consistent newSessionRef) {record : ReservationRecord CustodySpec}
    (hget : d'.custody.shared.reservations.get ref = some record) (hclaimed : record.claimed = false)
    (hends : record.expiresAt < d'.now) : ¬ d'.LaunchesLive := by
  intro hlive'
  have hkey : ref ∈ d'.launches.keys := by
    rw [hlaunches]
    exact (h.live ref).2 (.inl hlive)
  rcases (hlive' ref).1 hkey with (hreserved | ⟨c, hc, hunderWay⟩) | hsession
  · obtain ⟨other, hother, -, hnot⟩ := isReserved_desk_iff.1 hreserved
    rw [hget, Option.some_inj] at hother
    rw [← hother] at hnot
    exact absurd hends (not_lt.2 hnot)
  · rw [claimed_of_holds hconsistent hc (holds_of_underWay hunderWay).2 hget] at hclaimed
    exact absurd hclaimed (by decide)
  · rw [hsessions] at hsession
    exact h.not_live hsession hlive

lemma spares_of_launchesLive (h : d.Tracked newSessionRef) (em : Emulator σ) {e : DaemonEvent}
    (hlive : (d.react em newSessionRef e).LaunchesLive) : d.Spares e := by
  cases e with
  | clock now =>
    intro ref record hget hclaimed
    by_contra hends
    have hreserved : d.LiveReservation ref :=
      .inl (isReserved_desk_iff.2 ⟨record, hget, hclaimed, h.unexpired ref record hget hclaimed⟩)
    exact h.not_live_of_runsOut { d with now } hreserved rfl rfl h.consistent hget hclaimed (not_le.1 hends) hlive
  | caught call =>
    intro ref record hc hget
    by_contra hends
    have hfailing : underWay ref (.failing ref) = true := by simp [underWay]
    have hclaimed := claimed_of_holds h.consistent (List.mem_of_getElem? hc) (if_pos rfl) hget
    let custody : Custody CustodySpec := ⟨{ d.desk.shared with
      reservations := d.desk.shared.reservations.set ref { record with claimed := false } },
      d.custody.calls.set call (.failed ref)⟩
    have hreact : d.react em newSessionRef (.caught call) = { d with custody } := by
      have hadvance := Concurrent.advance_of_some (s := d.desk) hc CustodyDesk.caught
      rw [CustodyDesk.caught, CustodyDesk.setClaimed,
        show d.desk.shared.reservations.get ref = some record from hget] at hadvance
      exact congrArg (fun custody : Custody CustodySpec => { d with custody }) hadvance
    rw [hreact] at hlive
    exact h.not_live_of_runsOut { d with custody } (.inr ⟨_, List.mem_of_getElem? hc, hfailing⟩) rfl rfl
      (h.desk.giveBack hc hget hclaimed) (InsertionMap.get_set_self _ _ _) rfl (not_le.1 hends) hlive
  | reserve spec => trivial
  | launch w params => trivial
  | claim ref => trivial
  | settle call handle => trivial
  | session ref e => trivial
  | ended ref => trivial

end Tracked

/-! ## Runs -/

/-- A daemon that starts at some time, and what can happen to it. -/
def daemonMachine (em : Emulator σ) (newSessionRef : ℕ → SessionRef) (now : ℕ) : Machine (Daemon σ) DaemonEvent where
  init := .init newSessionRef now
  step d e := d.react em newSessionRef e

lemma tracked_init (newSessionRef : ℕ → SessionRef) (now : ℕ) :
    (Daemon.init (σ := σ) newSessionRef now).Tracked newSessionRef := by
  have hnone : ∀ {ν : Type} (ref : SessionRef), ref ∉ (InsertionMap.empty : InsertionMap SessionRef ν).keys :=
    fun ref href => by simp [InsertionMap.mem_keys_iff] at href
  have hfresh : Custody.Fresh newSessionRef 0 := fun i j hi => absurd hi (Nat.not_lt_zero i)
  refine ⟨(Custody.consistent_run [] hfresh).1, fun ref c hc => ?_, fun ref => ?_, fun ref href => ?_, fun ref => ?_,
    fun ref record hget => ?_⟩
  · simp [Daemon.init, custodyMachine] at hc
  · exact iff_of_false (hnone ref) (hnone ref)
  · exact absurd href (hnone ref)
  · refine iff_of_false (hnone ref) ?_
    rintro ((hreserved | ⟨c, hc, -⟩) | href)
    · obtain ⟨record, hget, -⟩ := isReserved_desk_iff.1 hreserved
      simp [Daemon.init, custodyMachine] at hget
    · simp [Daemon.init, custodyMachine] at hc
    · exact hnone ref href
  · simp [Daemon.init, custodyMachine] at hget

lemma drawn_le_react (em : Emulator σ) (newSessionRef : ℕ → SessionRef) (d : Daemon σ) (e : DaemonEvent) :
    d.custody.shared.drawn ≤ (d.react em newSessionRef e).custody.shared.drawn := by
  have hreserve : ∀ spec, d.custody.shared.drawn ≤ (d.reserve newSessionRef spec).custody.shared.drawn :=
    fun spec => Custody.drawn_le_react (d.desk.react newSessionRef .sweepExpired).1 (.reserve spec defaultReserveTtlMs)
  cases e with
  | clock now => exact Nat.le_refl _
  | reserve spec => exact hreserve spec
  | launch w params =>
    rw [Daemon.react]
    split
    · exact Nat.le_refl _
    · exact hreserve _
  | claim ref => exact Custody.drawn_le_react d.desk _
  | settle call handle =>
    have hsettle : (d.settle em newSessionRef call handle).custody =
        (d.desk.react newSessionRef (.settle call handle)).1 := by
      unfold Daemon.settle
      split <;> rfl
    rw [Daemon.react, hsettle]
    exact Custody.drawn_le_react d.desk _
  | caught call => exact Custody.drawn_le_react d.desk _
  | session ref e =>
    rw [Daemon.react, Daemon.onSession]
    split <;> exact Nat.le_refl _
  | ended ref => exact Nat.le_refl _

section Runs

variable {em : Emulator σ} {newSessionRef : ℕ → SessionRef} {now : ℕ} {es : List DaemonEvent}

lemma tracked_run (hoccurs : (daemonMachine em newSessionRef now).Meets Occurs es)
    (hspares : (daemonMachine em newSessionRef now).Meets Spares es)
    (hfresh : Custody.Fresh newSessionRef ((daemonMachine em newSessionRef now).run es).custody.shared.drawn) :
    ((daemonMachine em newSessionRef now).run es).Tracked newSessionRef := by
  induction es using List.reverseRecOn with
  | nil => exact tracked_init newSessionRef now
  | append_singleton es e ih =>
    rw [Machine.meets_snoc] at hoccurs hspares
    rw [Machine.run_snoc] at hfresh ⊢
    have hbefore := ih hoccurs.1 hspares.1 (hfresh.mono (drawn_le_react em newSessionRef _ e))
    exact hbefore.react em hoccurs.2 hspares.2 hfresh

/-- The launches are those of the live reservations and sessions throughout a run exactly when no
reservation runs out in it, as long as the references drawn are different ones. -/
theorem launchesLive_iff (hoccurs : (daemonMachine em newSessionRef now).Meets Occurs es)
    (hfresh : Custody.Fresh newSessionRef ((daemonMachine em newSessionRef now).run es).custody.shared.drawn) :
    (∀ before, before <+: es → ((daemonMachine em newSessionRef now).run before).LaunchesLive) ↔
      (daemonMachine em newSessionRef now).Meets Spares es := by
  induction es using List.reverseRecOn with
  | nil =>
    refine iff_of_true (fun before hbefore => ?_) (Machine.meets_nil _ _)
    rw [List.prefix_nil.1 hbefore]
    exact (tracked_init newSessionRef now).live
  | append_singleton es e ih =>
    have hoccurs' := (Machine.meets_snoc _).1 hoccurs
    have hfresh' := hfresh
    rw [Machine.run_snoc] at hfresh'
    have hearlier := hfresh'.mono (drawn_le_react em newSessionRef _ e)
    rw [Machine.meets_snoc, ← ih hoccurs'.1 hearlier]
    constructor
    · intro hlive
      have hbefore : ∀ before, before <+: es → ((daemonMachine em newSessionRef now).run before).LaunchesLive :=
        fun before hbefore => hlive before (hbefore.trans (List.prefix_append _ _))
      have htracked := tracked_run hoccurs'.1 ((ih hoccurs'.1 hearlier).1 hbefore) hearlier
      have hlast := hlive _ (List.prefix_refl _)
      rw [Machine.run_snoc] at hlast
      exact ⟨hbefore, htracked.spares_of_launchesLive em hlast⟩
    · rintro ⟨hbefore, hspares⟩ before hprefix
      rcases List.prefix_concat_iff.1 hprefix with rfl | hprefix
      · have hmeets := (Machine.meets_snoc _).2 ⟨(ih hoccurs'.1 hearlier).1 hbefore, hspares⟩
        exact (tracked_run hoccurs hmeets hfresh).live
      · exact hbefore before hprefix

/-- A shim asks for a session, and its time passes. -/
def waits (now : ℕ) : List DaemonEvent := [.reserve Demo.someSpec, .clock now]

lemma occurs_waits (em : Emulator σ) (newSessionRef : ℕ → SessionRef) (now : ℕ) :
    (daemonMachine em newSessionRef 0).Meets Occurs (waits now) := by
  rw [waits, ← List.singleton_append, Machine.meets_snoc, ← List.nil_append [_], Machine.meets_snoc]
  exact ⟨⟨Machine.meets_nil _ _, trivial⟩, trivial⟩

lemma tracked_waiting (em : Emulator σ) (newSessionRef : ℕ → SessionRef) :
    ((daemonMachine em newSessionRef 0).run [.reserve Demo.someSpec]).Tracked newSessionRef := by
  have hfresh : Custody.Fresh newSessionRef 1 := fun i j hi hj _ => by omega
  exact (tracked_init newSessionRef 0).reserve Demo.someSpec hfresh

lemma get_waiting (em : Emulator σ) (newSessionRef : ℕ → SessionRef) (r : SessionRef) :
    ((daemonMachine em newSessionRef 0).run [.reserve Demo.someSpec]).custody.shared.reservations.get r =
      if r = newSessionRef 0 then some ⟨Demo.someSpec, ((0 + defaultReserveTtlMs : ℕ) : ℚ), false⟩ else none := by
  rw [Nat.cast_add]
  exact (tracked_init newSessionRef 0).get_reserve Demo.someSpec r

/-- A reservation at the end of its time is spared, and still live. -/
theorem launchesLive_waiting :
    (daemonMachine Demo.blindEmulator (fun _ => Demo.someRef) 0).Meets Spares (waits 30000) ∧
      ∀ before, before <+: waits 30000 →
        ((daemonMachine Demo.blindEmulator (fun _ => Demo.someRef) 0).run before).LaunchesLive := by
  have hspares : (daemonMachine Demo.blindEmulator (fun _ => Demo.someRef) 0).Meets Spares (waits 30000) := by
    rw [waits, ← List.singleton_append, Machine.meets_snoc, ← List.nil_append [_], Machine.meets_snoc]
    refine ⟨⟨Machine.meets_nil _ _, trivial⟩, fun ref record hget _ => ?_⟩
    rw [List.nil_append, get_waiting] at hget
    split at hget
    · rw [← Option.some_inj.1 hget]
      exact Nat.cast_le.2 (by decide)
    · cases hget
  refine ⟨hspares, (launchesLive_iff (occurs_waits _ _ _) fun i j hi hj _ => ?_).2 hspares⟩
  have hdrawn : ((daemonMachine Demo.blindEmulator (fun _ => Demo.someRef) 0).run (waits 30000)).custody.shared.drawn = 1 := rfl
  omega

/-- Behind it the launch of a reservation that nobody can claim is still there. -/
theorem not_launchesLive_expired : ¬ ∀ before, before <+: waits 30001 →
    ((daemonMachine Demo.blindEmulator (fun _ => Demo.someRef) 0).run before).LaunchesLive := by
  intro hlive
  have hlast := hlive _ (List.prefix_refl _)
  rw [waits, ← List.singleton_append, Machine.run_snoc] at hlast
  have hspares := (tracked_waiting Demo.blindEmulator fun _ => Demo.someRef).spares_of_launchesLive _ hlast
  have hends := hspares Demo.someRef _ ((get_waiting _ _ _).trans (if_pos rfl)) rfl
  rw [Nat.cast_le] at hends
  exact absurd hends (by decide)

end Runs

end Daemon

end Pherry.Cli
