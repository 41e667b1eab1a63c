import Pherry.Cli.Heartbeat

/-!
# What becomes of a report

A ledger beside the daemon numbers the reports as they are added; a heartbeat contains the last
of them at the time it was built. The reports that leave the buffer are told from it.
-/

namespace Pherry.Cli

open Lib Protocol ControlPlane

/-! ## The ledger -/

/-- The reports added so far, and how many they were when each heartbeat was built. -/
structure Ledger where
  log : List SessionReport
  builtAt : List ℕ

/-- The report an event adds. -/
def Reports.reported (r : Reports) (ref : SessionRef) : List SessionReport :=
  match r.launches.get ref with
  | some startedAt => if r.collectEnded then [⟨ref, .ended, some startedAt, some r.now⟩] else []
  | none => []

/-- The ledger behind an event. -/
def Ledger.watch (l : Ledger) (s : Beating) : BeatingEvent → Ledger
  | .sessionEnded ref => { l with log := l.log ++ s.shared.reported ref }
  | .beat => { l with builtAt := l.builtAt ++ [l.log.length] }
  | _ => l

/-- A step of a daemon with its ledger. -/
def stepLedger (w : Beating × Ledger) (e : BeatingEvent) : Beating × Ledger :=
  (w.1.react e, w.2.watch w.1 e)

/-- A daemon with its ledger. -/
def ledgerMachine (now : ℤ) : Machine (Beating × Ledger) BeatingEvent :=
  ⟨((beatingMachine now).init, ⟨[], []⟩), stepLedger⟩

variable {now : ℤ}

/-- The number of the oldest report in the buffer. -/
def oldest (w : Beating × Ledger) : ℕ := w.2.log.length - w.1.shared.endedReports.length

/-- A heartbeat contains a report. -/
def Contains (w : Beating × Ledger) (call k : ℕ) : Prop :=
  ∃ b n, w.1.calls[call]? = some b ∧ w.2.builtAt[call]? = some n ∧ n - b.ended.length ≤ k ∧ k < n

/-- A report leaves the buffer with a step. -/
def Leaves (w : Beating × Ledger) (e : BeatingEvent) (k : ℕ) : Prop :=
  oldest w ≤ k ∧ k < oldest (stepLedger w e)

/-- A report leaves the buffer when a heartbeat that contains it is acknowledged, or when it is the
oldest of a full buffer. -/
def Accounted (w : Beating × Ledger) (e : BeatingEvent) (k : ℕ) : Prop :=
  (∃ call, e = .settle call true ∧ Contains w call k) ∨
    (∃ ref, e = .sessionEnded ref) ∧ k = oldest w ∧ w.1.shared.endedReports.length = maxEndedReports

/-- Reports are lost only to the cap. -/
def Lossless (now : ℤ) (es : List BeatingEvent) : Prop :=
  (ledgerMachine now).Meets (fun w e => ∀ k, Leaves w e k → Accounted w e k) es

/-- A heartbeat was not disturbed when it is acknowledged: no report has left the buffer since it was
built, or none has been added, or there is nothing to drop. -/
def Undisturbed (w : Beating × Ledger) (e : BeatingEvent) : Prop :=
  ∀ call b n, e = .settle call true → w.1.calls[call]? = some b → b.outcome = none →
    w.2.builtAt[call]? = some n →
      oldest w = n - b.ended.length ∨ w.2.log.length = n ∨ b.ended = [] ∨
        w.1.shared.endedReports = []

/-! ## What the ledger says -/

/-- The buffer is the end of the log; a heartbeat has the end of what the log was. -/
structure Tells (w : Beating × Ledger) : Prop where
  buffer : w.1.shared.endedReports = w.2.log.drop (oldest w)
  cap : w.1.shared.endedReports.length ≤ maxEndedReports
  built : w.2.builtAt.length = w.1.calls.length
  beats : ∀ (call : ℕ) (b : Beat) (n : ℕ), w.1.calls[call]? = some b → w.2.builtAt[call]? = some n →
    n ≤ w.2.log.length ∧ n - b.ended.length ≤ oldest w ∧
      b.ended = (w.2.log.take n).drop (n - b.ended.length)

lemma Tells.length_le {w : Beating × Ledger} (h : Tells w) :
    w.1.shared.endedReports.length ≤ w.2.log.length := by
  have hlength := congrArg List.length h.buffer
  rw [List.length_drop] at hlength
  omega

lemma endedReports_push {r : Reports} (h : r.endedReports.length ≤ maxEndedReports)
    (report : SessionReport) :
    (r.push report).endedReports = (r.endedReports ++ [report]).drop
      (r.endedReports.length + 1 - maxEndedReports) := by
  have hlength : (r.endedReports ++ [report]).length = r.endedReports.length + 1 := by
    rw [List.length_append, List.length_singleton]
  rw [Reports.push]
  dsimp only
  split
  · have hone : r.endedReports.length + 1 - maxEndedReports = 1 := by omega
    rw [hone, List.drop_one]
  · have hzero : r.endedReports.length + 1 - maxEndedReports = 0 := by omega
    rw [hzero, List.drop_zero]

lemma endedReports_sessionEnded {r : Reports} (h : r.endedReports.length ≤ maxEndedReports)
    (ref : SessionRef) :
    (r.sessionEnded ref).endedReports = (r.endedReports ++ r.reported ref).drop
      (r.endedReports.length + (r.reported ref).length - maxEndedReports) := by
  have hnone : r.endedReports =
      (r.endedReports ++ []).drop (r.endedReports.length + 0 - maxEndedReports) := by
    have hzero : r.endedReports.length + 0 - maxEndedReports = 0 := by omega
    rw [hzero, List.append_nil, List.drop_zero]
  rw [Reports.sessionEnded, Reports.reported]
  cases r.launches.get ref with
  | none => exact hnone
  | some startedAt =>
    cases r.collectEnded with
    | false => exact hnone
    | true => exact endedReports_push h _

lemma length_reported_le (r : Reports) (ref : SessionRef) : (r.reported ref).length ≤ 1 := by
  rw [Reports.reported]
  split
  · split <;> simp
  · simp

namespace Tells

variable {w : Beating × Ledger}

lemma drop (h : Tells w) {t : Beating × Ledger} (added : List SessionReport) (d : ℕ)
    (hd : d ≤ w.1.shared.endedReports.length + added.length)
    (hlog : t.2.log = w.2.log ++ added)
    (hbuffer : t.1.shared.endedReports = (w.1.shared.endedReports ++ added).drop d) :
    oldest t = oldest w + d ∧ t.1.shared.endedReports = t.2.log.drop (oldest t) := by
  have hlength := h.length_le
  have holdest : oldest t = oldest w + d := by
    rw [oldest, oldest, hlog, hbuffer, List.length_drop, List.length_append, List.length_append]
    omega
  refine ⟨holdest, ?_⟩
  have hbefore : oldest w ≤ w.2.log.length := Nat.sub_le _ _
  rw [hbuffer, h.buffer, holdest, hlog, ← List.drop_append_of_le_length hbefore, List.drop_drop]

lemma beats_of_le (h : Tells w) {t : Beating × Ledger} (added : List SessionReport)
    (hlog : t.2.log = w.2.log ++ added) (holdest : oldest w ≤ oldest t) {call n : ℕ} {b : Beat}
    (hb : w.1.calls[call]? = some b) (hn : w.2.builtAt[call]? = some n) :
    n ≤ t.2.log.length ∧ n - b.ended.length ≤ oldest t ∧
      b.ended = (t.2.log.take n).drop (n - b.ended.length) := by
  obtain ⟨hle, hfirst, hended⟩ := h.beats call b n hb hn
  rw [hlog, List.length_append]
  refine ⟨by omega, le_trans hfirst holdest, ?_⟩
  rw [List.take_append_of_le_length hle]
  exact hended

lemma frame (h : Tells w) {r : Reports} (hbuffer : r.endedReports = w.1.shared.endedReports) :
    Tells ({ w.1 with shared := r }, w.2) := by
  have holdest : oldest ({ w.1 with shared := r }, w.2) = oldest w := by
    rw [oldest, oldest]
    exact congrArg _ (congrArg _ hbuffer)
  refine ⟨?_, ?_, h.built, fun call b n hb hn => ?_⟩
  · rw [holdest]
    exact hbuffer.trans h.buffer
  · rw [show r.endedReports = _ from hbuffer]
    exact h.cap
  · rw [holdest]
    exact h.beats call b n hb hn

lemma sessionEnded (h : Tells w) (ref : SessionRef) :
    Tells (stepLedger w (.sessionEnded ref)) ∧ oldest (stepLedger w (.sessionEnded ref)) =
      oldest w + (w.1.shared.endedReports.length + (w.1.shared.reported ref).length -
        maxEndedReports) := by
  have hbuffer := endedReports_sessionEnded h.cap ref
  obtain ⟨holdest, hdrop⟩ := h.drop (t := stepLedger w (.sessionEnded ref)) _ _ (Nat.sub_le _ _)
    rfl hbuffer
  refine ⟨⟨hdrop, ?_, h.built, fun call b n hb hn => ?_⟩, holdest⟩
  · show (w.1.shared.sessionEnded ref).endedReports.length ≤ maxEndedReports
    rw [hbuffer, List.length_drop, List.length_append]
    omega
  · exact h.beats_of_le _ rfl (by omega) hb hn

lemma beat (h : Tells w) : Tells (stepLedger w .beat) := by
  have hlength := h.length_le
  refine ⟨h.buffer, h.cap, ?_, fun call b n hb hn => ?_⟩
  · show (w.2.builtAt ++ [w.2.log.length]).length = (w.1.calls ++ [_]).length
    rw [List.length_append, List.length_append, h.built]
    rfl
  · have hb : (w.1.calls ++ [⟨w.1.shared.live, w.1.shared.endedReports, none⟩])[call]? = some b := hb
    have hn : (w.2.builtAt ++ [w.2.log.length])[call]? = some n := hn
    by_cases hold : call < w.1.calls.length
    · rw [List.getElem?_append_left hold] at hb
      rw [List.getElem?_append_left (by rw [h.built]; exact hold)] at hn
      exact h.beats call b n hb hn
    · have hcall : call = w.1.calls.length := by
        have hlt := (List.getElem?_eq_some_iff.1 hb).1
        rw [List.length_append, List.length_singleton] at hlt
        omega
      subst hcall
      rw [List.getElem?_concat_length] at hb
      rw [← h.built, List.getElem?_concat_length] at hn
      cases hb
      cases hn
      refine ⟨Nat.le_refl _, Nat.le_refl _, ?_⟩
      show w.1.shared.endedReports = (w.2.log.take w.2.log.length).drop (oldest w)
      rw [List.take_length]
      exact h.buffer

lemma settle (h : Tells w) (call : ℕ) (acknowledged : Bool) :
    Tells (stepLedger w (.settle call acknowledged)) := by
  show Tells (w.1.advance call (Reports.settle acknowledged), w.2)
  refine Concurrent.advance_induction (p := fun s => Tells (s, w.2)) h fun b hb => ?_
  have hcalls : ∀ (r : Reports) (b' : Beat) (hended : b'.ended = b.ended)
      (holdest : oldest w ≤ oldest (⟨r, w.1.calls.set call b'⟩, w.2)),
      ∀ (c : ℕ) (b₀ : Beat) (n : ℕ), (w.1.calls.set call b')[c]? = some b₀ →
        w.2.builtAt[c]? = some n → n ≤ w.2.log.length ∧
          n - b₀.ended.length ≤ oldest (⟨r, w.1.calls.set call b'⟩, w.2) ∧
          b₀.ended = (w.2.log.take n).drop (n - b₀.ended.length) := by
    intro r b' hended holdest c b₀ n hb₀ hn
    by_cases hc : c = call
    · subst hc
      have hlt := (List.getElem?_eq_some_iff.1 hb).1
      rw [List.getElem?_set_self hlt] at hb₀
      cases hb₀
      rw [hended]
      exact h.beats_of_le (t := (⟨r, w.1.calls.set c b'⟩, w.2)) [] (List.append_nil _).symm holdest hb hn
    · rw [List.getElem?_set_ne (Ne.symm hc)] at hb₀
      exact h.beats_of_le (t := (⟨r, w.1.calls.set call b'⟩, w.2)) [] (List.append_nil _).symm holdest hb₀ hn
  have hbuilt : ∀ b' : Beat, w.2.builtAt.length = (w.1.calls.set call b').length := fun b' => by
    rw [List.length_set]
    exact h.built
  rw [Reports.settle]
  split
  · exact ⟨h.buffer, h.cap, hbuilt b, hcalls w.1.shared b rfl (Nat.le_refl _)⟩
  cases acknowledged with
  | false => exact ⟨h.buffer, h.cap, hbuilt _, hcalls w.1.shared _ rfl (Nat.le_refl _)⟩
  | true =>
    let t : Beating × Ledger := (⟨{ w.1.shared with
      endedReports := w.1.shared.endedReports.drop b.ended.length },
        w.1.calls.set call { b with outcome := some true }⟩, w.2)
    have hmin : w.1.shared.endedReports.drop b.ended.length = (w.1.shared.endedReports ++ []).drop
        (min b.ended.length w.1.shared.endedReports.length) := by
      rw [List.append_nil, List.drop_eq_drop_iff]
      omega
    obtain ⟨holdest, hdrop⟩ := h.drop (t := t) [] _ (by omega) (List.append_nil _).symm hmin
    have hle : oldest w ≤ oldest t := by omega
    refine ⟨hdrop, ?_, hbuilt _, hcalls _ _ rfl hle⟩
    show (w.1.shared.endedReports.drop b.ended.length).length ≤ maxEndedReports
    rw [List.length_drop]
    have hcap := h.cap
    omega

lemma step (h : Tells w) (e : BeatingEvent) : Tells (stepLedger w e) := by
  cases e with
  | clock now => exact h.frame rfl
  | dock => exact h.frame rfl
  | reserve ref => exact h.frame rfl
  | register ref => exact h.frame rfl
  | sessionEnded ref => exact (h.sessionEnded ref).1
  | beat => exact h.beat
  | settle call acknowledged => exact h.settle call acknowledged

end Tells

lemma tells_run (es : List BeatingEvent) : Tells ((ledgerMachine now).run es) :=
  Machine.invariant _ ⟨rfl, Nat.zero_le _, rfl, nofun⟩ (fun _ e h => h.step e) es

/-! ## What leaves the buffer -/

lemma not_leaves {w : Beating × Ledger} {e : BeatingEvent} (h : oldest (stepLedger w e) = oldest w)
    (k : ℕ) : ¬ Leaves w e k := by
  rintro ⟨hle, hlt⟩
  omega

lemma Tells.oldest_settle {w : Beating × Ledger} (h : Tells w) {call : ℕ} {b : Beat}
    (hb : w.1.calls[call]? = some b) (hflight : b.outcome = none) :
    oldest (stepLedger w (.settle call true)) =
      oldest w + min b.ended.length w.1.shared.endedReports.length := by
  have hstep : stepLedger w (.settle call true) = (⟨{ w.1.shared with
      endedReports := w.1.shared.endedReports.drop b.ended.length },
        w.1.calls.set call { b with outcome := some true }⟩, w.2) := by
    rw [stepLedger, Beating.react, Concurrent.advance_of_some hb, Reports.settle, hflight]
    rfl
  have hlength := h.length_le
  have hleft : (w.1.shared.endedReports.drop b.ended.length).length =
      w.1.shared.endedReports.length - b.ended.length := List.length_drop
  rw [hstep, oldest, oldest]
  dsimp only
  omega

lemma oldest_settle_idle {w : Beating × Ledger} {call : ℕ} {acknowledged : Bool}
    (h : acknowledged = true → ∀ b, w.1.calls[call]? = some b → b.outcome ≠ none) :
    oldest (stepLedger w (.settle call acknowledged)) = oldest w := by
  show oldest (w.1.advance call (Reports.settle acknowledged), w.2) = oldest w
  refine Concurrent.advance_induction (p := fun s => oldest (s, w.2) = oldest w) rfl fun b hb => ?_
  rw [Reports.settle]
  split
  · rfl
  next hflight =>
  cases acknowledged with
  | false => rfl
  | true => exact absurd hflight (h rfl b hb)

/-- An acknowledged heartbeat drops what it contains, exactly when it was not disturbed. -/
lemma Tells.acknowledged_iff {w : Beating × Ledger} (h : Tells w) {call : ℕ} {b : Beat} {n : ℕ}
    (hb : w.1.calls[call]? = some b) (hflight : b.outcome = none) (hn : w.2.builtAt[call]? = some n) :
    (∀ k, Leaves w (.settle call true) k → Contains w call k) ↔
      oldest w = n - b.ended.length ∨ w.2.log.length = n ∨ b.ended = [] ∨
        w.1.shared.endedReports = [] := by
  obtain ⟨hle, hfirst, hended⟩ := h.beats call b n hb hn
  have hlength := h.length_le
  have hold := h.oldest_settle hb hflight
  have hpast : oldest w + w.1.shared.endedReports.length = w.2.log.length := by
    rw [oldest]
    omega
  have hfits : b.ended.length ≤ n := by
    have hsize := congrArg List.length hended
    rw [List.length_drop, List.length_take] at hsize
    omega
  have hcontains : ∀ k, Contains w call k ↔ n - b.ended.length ≤ k ∧ k < n := by
    intro k
    constructor
    · rintro ⟨b', n', hb', hn', hk⟩
      rw [hb] at hb'
      rw [hn] at hn'
      cases hb'
      cases hn'
      exact hk
    · exact fun hk => ⟨b, n, hb, hn, hk⟩
  constructor
  · intro hall
    by_contra hnot
    rw [not_or, not_or, not_or] at hnot
    obtain ⟨hleft, hadded, hsome, hbuffer⟩ := hnot
    have hsome := List.length_pos_iff.2 hsome
    have hbuffer := List.length_pos_iff.2 hbuffer
    -- The last report that goes was added behind the heartbeat.
    have hlast := (hcontains _).1 (hall (oldest w + min b.ended.length w.1.shared.endedReports.length - 1)
      ⟨by omega, by rw [hold]; omega⟩)
    omega
  · intro hcase k hk
    obtain ⟨hge, hlt⟩ := hk
    rw [hold] at hlt
    rw [hcontains]
    have hnil : ∀ l : List SessionReport, l = [] → l.length = 0 := fun l hl => by rw [hl]; rfl
    rcases hcase with hleft | hadded | hnone | hempty
    · omega
    · omega
    · have hzero := hnil _ hnone
      omega
    · have hzero := hnil _ hempty
      omega

lemma Tells.accounted_iff {w : Beating × Ledger} (h : Tells w) (e : BeatingEvent) :
    (∀ k, Leaves w e k → Accounted w e k) ↔ Undisturbed w e := by
  have hidle : oldest (stepLedger w e) = oldest w → (∀ call, e ≠ .settle call true) →
      ((∀ k, Leaves w e k → Accounted w e k) ↔ Undisturbed w e) := fun hsame hne =>
    ⟨fun _ call _ _ heq => absurd heq (hne call), fun _ k hk => absurd hk (not_leaves hsame k)⟩
  cases e with
  | clock now => exact hidle rfl nofun
  | dock => exact hidle rfl nofun
  | reserve ref => exact hidle rfl nofun
  | register ref => exact hidle rfl nofun
  | beat => exact hidle rfl nofun
  | sessionEnded ref =>
    refine ⟨fun _ => nofun, fun _ k hk => Or.inr ⟨⟨ref, rfl⟩, ?_⟩⟩
    obtain ⟨hge, hlt⟩ := hk
    rw [(h.sessionEnded ref).2] at hlt
    have hone := length_reported_le w.1.shared ref
    have hcap := h.cap
    exact ⟨by omega, by omega⟩
  | settle call acknowledged =>
    by_cases hactive : acknowledged = true ∧ ∃ b, w.1.calls[call]? = some b ∧ b.outcome = none
    · obtain ⟨rfl, b, hb, hflight⟩ := hactive
      have hlt : call < w.2.builtAt.length := by
        rw [h.built]
        exact (List.getElem?_eq_some_iff.1 hb).1
      have hiff := h.acknowledged_iff hb hflight (List.getElem?_eq_getElem hlt)
      constructor
      · intro hall call' b' n heq hb' _ hn
        cases heq
        rw [hb] at hb'
        cases hb'
        rw [List.getElem?_eq_getElem hlt] at hn
        cases hn
        refine hiff.1 fun k hk => ?_
        obtain ⟨call', heq, hcontains⟩ | ⟨⟨ref, heq⟩, -⟩ := hall k hk
        · cases heq
          exact hcontains
        · cases heq
      · intro hundisturbed k hk
        have hcase := hundisturbed call b _ rfl hb hflight (List.getElem?_eq_getElem hlt)
        exact Or.inl ⟨call, rfl, hiff.2 hcase k hk⟩
    · have hnot : acknowledged = true → ∀ b, w.1.calls[call]? = some b → b.outcome ≠ none :=
        fun hack b hb hflight => hactive ⟨hack, b, hb, hflight⟩
      refine ⟨fun _ call' b n heq hb hflight _ => ?_, fun _ k hk => ?_⟩
      · cases heq
        exact absurd hflight (hnot rfl b hb)
      · exact absurd hk (not_leaves (oldest_settle_idle hnot) k)

/-- Reports are lost only to the cap exactly when no heartbeat is disturbed. -/
theorem lossless_iff (now : ℤ) (es : List BeatingEvent) :
    Lossless now es ↔ (ledgerMachine now).Meets Undisturbed es :=
  forall_congr' fun pre => forall_congr' fun e => forall₂_congr fun _ _ =>
    (tells_run pre).accounted_iff e

/-- Two heartbeats overlap; the report of a session that ends behind both is dropped. -/
def overlapping : List BeatingEvent :=
  [.dock, .reserve (numbered 0), .register (numbered 0), .reserve (numbered 1), .register (numbered 1),
    .sessionEnded (numbered 0), .beat, .beat, .settle 0 true, .sessionEnded (numbered 1),
    .settle 1 true]

theorem not_lossless_overlapping : ¬ Lossless 0 overlapping := by
  intro hlossless
  have hlast := ((tells_run (overlapping.take 10)).accounted_iff (.settle 1 true)).1
    (hlossless (overlapping.take 10) (.settle 1 true) [] rfl)
  exact absurd (hlast 1 _ _ rfl rfl rfl rfl) (by decide)

end Pherry.Cli
