import Mathlib.Algebra.GroupWithZero.Nat
import Mathlib.Algebra.Order.BigOperators.Group.List
import Pherry.Sdk.Listeners

/-!
# The memory of an event stream

What a stream holds of a snapshot is within its bounds, and one that has failed or ended retains
nothing more, over every run in which no chunk reaches a stream that has failed or ended in the middle
of a snapshot: `#fail` does nothing to such a stream.
-/

namespace Pherry.Sdk

open Lib Protocol

/-- The bytes of an event. -/
def PtyEvent.size : PtyEvent → ℕ
  | snapshot _ _ data => data.length
  | output _ data => data.length
  | _ => 0

namespace PtyEventStream

/-- The chunks that are held for a snapshot. -/
def heldChunks (s : PtyEventStream) : List Bytes := (s.snapshot.map PendingSnapshot.chunks).getD []

/-- The bytes that are held for a snapshot. -/
def heldBytes (s : PtyEventStream) : ℕ := (s.heldChunks.map List.length).sum

end PtyEventStream

namespace ListenedStream

/-- The bytes that a stream retains: of its snapshot, its queue and the pushes under way. -/
def retained (s : ListenedStream) : ℕ :=
  s.stream.heldBytes + (s.stream.queue.map PtyEvent.size).sum +
    (s.pushes.map fun push => push.event.size).sum

/-- No chunk reaches a stream that has failed or ended in the middle of a snapshot. -/
def spares (s : ListenedStream) : StreamEvent → Bool
  | .ingest frame =>
    !(s.stream.ended && s.stream.snapshot.isSome && decide (frame.opcode = PtyOpcode.snapshotChunk))
  | _ => true

end ListenedStream

/-- The memory of a stream after a run: what it holds of a snapshot is within the bounds, and no step
from a stream that has failed or ended retains more. -/
structure MemoryBounded (es : List StreamEvent) : Prop where
  bytes : ∀ pre, pre <+: es → (listenedMachine.run pre).stream.heldBytes ≤ maxSnapshotBytes
  chunks : ∀ pre, pre <+: es → (listenedMachine.run pre).stream.heldChunks.length ≤ maxSnapshotChunks
  released : ∀ pre e post, es = pre ++ e :: post → (listenedMachine.run pre).stream.ended = true →
    (listenedMachine.run (pre ++ [e])).retained ≤ (listenedMachine.run pre).retained

/-! ## Steps -/

namespace PtyEventStream

/-- A snapshot is counted as it is, and is within the bounds. -/
def Bounded (s : PtyEventStream) : Prop :=
  ∀ snap, s.snapshot = some snap → snap.bytes = (snap.chunks.map List.length).sum ∧
    snap.bytes ≤ maxSnapshotBytes ∧ snap.chunks.length ≤ maxSnapshotChunks

variable {s : PtyEventStream}

lemma Bounded.held (h : s.Bounded) :
    s.heldBytes ≤ maxSnapshotBytes ∧ s.heldChunks.length ≤ maxSnapshotChunks := by
  unfold heldBytes heldChunks
  cases hsnap : s.snapshot with
  | none => exact ⟨Nat.zero_le _, Nat.zero_le _⟩
  | some snap =>
    obtain ⟨hcount, hbytes, hchunks⟩ := h snap hsnap
    refine ⟨?_, hchunks⟩
    rw [hcount] at hbytes
    exact hbytes

lemma Bounded.of_snapshot (h : s.Bounded) {t : PtyEventStream} (ht : t.snapshot = s.snapshot) :
    t.Bounded := by
  rw [Bounded, ht]
  exact h

lemma bounded_of_none {t : PtyEventStream} (ht : t.snapshot = none) : t.Bounded := by
  rw [Bounded, ht]
  exact fun snap hsnap => absurd hsnap (by simp)

lemma snapshot_finish (s : PtyEventStream) :
    s.finish.1.snapshot = s.snapshot ∧ s.finish.1.queue = s.queue := by
  unfold finish
  split <;> exact ⟨rfl, rfl⟩

lemma snapshot_next (s : PtyEventStream) (read : ℕ) : (s.next read).1.snapshot = s.snapshot := by
  unfold next
  split
  · rfl
  split
  · rfl
  split <;> rfl

lemma snapshot_deliver (s : PtyEventStream) (event : PtyEvent) :
    (s.deliver event).1.snapshot = s.snapshot := by
  have hput : ∀ pullers queue, ({ s with pullers, queue } : PtyEventStream).finish.1.snapshot = s.snapshot :=
    fun pullers queue => (snapshot_finish _).1
  unfold deliver
  cases event <;> cases s.pullers <;> first | rfl | exact hput _ _

lemma Bounded.pushChunk (h : s.Bounded) (payload : Bytes)
    (hspares : ¬ (s.ended = true ∧ s.snapshot.isSome = true)) : (s.pushChunk payload).1.Bounded := by
  unfold PtyEventStream.pushChunk
  cases hsnap : s.snapshot with
  | none => exact h.of_snapshot rfl
  | some snap =>
    have hlive : s.ended = false := by
      rw [Bool.eq_false_iff]
      exact fun hended => hspares ⟨hended, by rw [hsnap]; rfl⟩
    obtain ⟨hcount, -, -⟩ := h snap hsnap
    dsimp only
    split
    · -- too much is dropped with the whole snapshot
      rw [fail, if_neg (by rw [hlive]; exact Bool.false_ne_true)]
      exact bounded_of_none rfl
    · next hfits =>
      intro other hother
      cases hother
      rw [not_or, not_lt, not_lt] at hfits
      refine ⟨?_, hfits.1, hfits.2⟩
      rw [List.map_append, List.sum_append, List.map_singleton, List.sum_singleton, hcount]

lemma Bounded.ingest (h : s.Bounded) {frame : PtyFrame}
    (hspares : ¬ ((s.ended = true ∧ s.snapshot.isSome = true) ∧ frame.opcode = PtyOpcode.snapshotChunk))
    {r : PtyEventStream × Settled × Option PtyEvent} (hr : s.ingest frame = some r) : r.1.Bounded := by
  unfold PtyEventStream.ingest at hr
  split at hr
  · obtain ⟨size, -, hr⟩ := Option.bind_eq_some_iff.1 hr
    cases hr
    intro snap hsnap
    cases hsnap
    exact ⟨rfl, Nat.zero_le _, Nat.zero_le _⟩
  split at hr
  · next hchunk =>
    cases hr
    exact h.pushChunk _ fun hended => hspares ⟨hended, hchunk⟩
  split at hr
  · cases hr
    exact bounded_of_none rfl
  split at hr
  · cases hr
    exact h
  split at hr
  · obtain ⟨size, -, hr⟩ := Option.bind_eq_some_iff.1 hr
    cases hr
    exact h
  split at hr
  · obtain ⟨code, -, hr⟩ := Option.bind_eq_some_iff.1 hr
    cases hr
    exact h
  split at hr <;> cases hr <;> exact h

lemma held_ingest {frame : PtyFrame} (hended : s.ended = true)
    (hspares : ¬ ((s.ended = true ∧ s.snapshot.isSome = true) ∧ frame.opcode = PtyOpcode.snapshotChunk))
    {r : PtyEventStream × Settled × Option PtyEvent} (hr : s.ingest frame = some r) :
    r.1.heldBytes ≤ s.heldBytes ∧ r.1.queue = s.queue ∧ r.1.ended = true := by
  unfold PtyEventStream.ingest at hr
  split at hr
  · obtain ⟨size, -, hr⟩ := Option.bind_eq_some_iff.1 hr
    cases hr
    exact ⟨Nat.zero_le _, rfl, hended⟩
  split at hr
  · next hchunk =>
    cases hr
    have hnone : s.snapshot = none := by
      rw [← Option.not_isSome_iff_eq_none]
      exact fun hsome => hspares ⟨⟨hended, hsome⟩, hchunk⟩
    rw [pushChunk, hnone]
    exact ⟨Nat.le_refl _, rfl, hended⟩
  split at hr
  · cases hr
    exact ⟨Nat.zero_le _, rfl, hended⟩
  split at hr
  · cases hr
    exact ⟨Nat.le_refl _, rfl, hended⟩
  split at hr
  · obtain ⟨size, -, hr⟩ := Option.bind_eq_some_iff.1 hr
    cases hr
    exact ⟨Nat.le_refl _, rfl, hended⟩
  split at hr
  · obtain ⟨code, -, hr⟩ := Option.bind_eq_some_iff.1 hr
    cases hr
    exact ⟨Nat.le_refl _, rfl, hended⟩
  split at hr <;> cases hr <;> exact ⟨Nat.le_refl _, rfl, hended⟩

lemma queue_deliver (s : PtyEventStream) (event : PtyEvent) :
    ((s.deliver event).1.queue.map PtyEvent.size).sum ≤ (s.queue.map PtyEvent.size).sum + event.size := by
  have hqueue : (s.deliver event).1.queue = s.queue ∨ (s.deliver event).1.queue = s.queue ++ [event] := by
    unfold deliver
    cases event with
    | ended seq code =>
      cases s.pullers with
      | nil => exact .inr (snapshot_finish _).2
      | cons read pullers => exact .inl (snapshot_finish _).2
    | snapshot seq size data => cases s.pullers <;> simp
    | output seq data => cases s.pullers <;> simp
    | resize seq size => cases s.pullers <;> simp
    | gap seq => cases s.pullers <;> simp
  rcases hqueue with hqueue | hqueue
  · rw [hqueue]
    omega
  · rw [hqueue, List.map_append, List.sum_append, List.map_singleton, List.sum_singleton]

lemma queue_next (s : PtyEventStream) (read : ℕ) :
    ((s.next read).1.queue.map PtyEvent.size).sum ≤ (s.queue.map PtyEvent.size).sum := by
  unfold next
  split
  · next event queue hqueue =>
    rw [hqueue, List.map_cons, List.sum_cons]
    exact Nat.le_add_left _ _
  · next hqueue =>
    split
    · exact Nat.le_refl _
    split <;> exact Nat.le_refl _

end PtyEventStream

namespace ListenedStream

variable {s : ListenedStream}

lemma not_of_spares {frame : PtyFrame} (h : s.spares (.ingest frame) = true) :
    ¬ ((s.stream.ended = true ∧ s.stream.snapshot.isSome = true) ∧
      frame.opcode = PtyOpcode.snapshotChunk) := by
  rintro ⟨⟨hended, hsome⟩, hchunk⟩
  rw [spares, hended, hsome, decide_eq_true hchunk] at h
  cases h

lemma retained_proceed (s : ListenedStream) :
    s.proceed.1.stream.snapshot = s.stream.snapshot ∧ s.proceed.1.retained ≤ s.retained := by
  unfold proceed
  split
  · exact ⟨rfl, Nat.le_refl _⟩
  next push pushes hpushes =>
  split
  · refine ⟨rfl, ?_⟩
    simp [retained, hpushes]
  · have hsnapshot := s.stream.snapshot_deliver push.event
    refine ⟨hsnapshot, ?_⟩
    have hqueue := s.stream.queue_deliver push.event
    have hheld : (s.stream.deliver push.event).1.heldBytes = s.stream.heldBytes := by
      rw [PtyEventStream.heldBytes, PtyEventStream.heldChunks, hsnapshot]
      rfl
    simp only [retained, hpushes, List.map_cons, List.sum_cons, hheld]
    omega

lemma bounded_react (h : s.stream.Bounded) {e : StreamEvent} (he : s.spares e = true) :
    (s.react e).1.stream.Bounded := by
  cases e with
  | ingest frame =>
    simp only [react, ingest]
    split
    · exact h
    next stream settled event hingest =>
    have hbounded : stream.Bounded := h.ingest (not_of_spares he) hingest
    split
    · exact hbounded
    split
    · exact hbounded
    · exact hbounded.of_snapshot (retained_proceed _).1
  | onEvent listener =>
    simp only [react]
    split <;> exact h
  | next read => exact h.of_snapshot (s.stream.snapshot_next read)
  | finish => exact h.of_snapshot s.stream.snapshot_finish.1
  | returned => exact h.of_snapshot s.retained_proceed.1
  | threw => exact h

lemma retained_react (hended : s.stream.ended = true) {e : StreamEvent} (he : s.spares e = true) :
    (s.react e).1.retained ≤ s.retained := by
  cases e with
  | ingest frame =>
    simp only [react, ingest]
    split
    · exact Nat.le_refl _
    next stream settled event hingest =>
    obtain ⟨hheld, hqueue, hends⟩ := PtyEventStream.held_ingest hended (not_of_spares he) hingest
    dsimp only at hheld hqueue hends
    have hdropped : ({ s with stream } : ListenedStream).retained ≤ s.retained := by
      simp only [retained, hqueue]
      omega
    split
    · exact hdropped
    · rw [if_pos hends]
      exact hdropped
  | onEvent listener =>
    simp only [react]
    split <;> exact Nat.le_refl _
  | next read =>
    have hqueue := s.stream.queue_next read
    have hheld : (s.stream.next read).1.heldBytes = s.stream.heldBytes := by
      rw [PtyEventStream.heldBytes, PtyEventStream.heldChunks, s.stream.snapshot_next]
      rfl
    simp only [react, retained, hheld]
    omega
  | finish =>
    have hheld : s.stream.finish.1.heldBytes = s.stream.heldBytes := by
      rw [PtyEventStream.heldBytes, PtyEventStream.heldChunks, s.stream.snapshot_finish.1]
      rfl
    simp only [react, retained, hheld, s.stream.snapshot_finish.2]
    omega
  | returned => exact s.retained_proceed.2
  | threw =>
    simp only [react, retained]
    cases s.pushes with
    | nil => exact Nat.le_refl _
    | cons push pushes =>
      rw [List.tail_cons, List.map_cons, List.sum_cons]
      omega

end ListenedStream

/-! ## Runs -/

open ListenedStream

lemma bounded_run {es : List StreamEvent}
    (h : listenedMachine.Meets (fun s e => s.spares e = true) es) :
    (listenedMachine.run es).stream.Bounded :=
  listenedMachine.invariant_of_meets (p := fun s => s.stream.Bounded)
    (PtyEventStream.bounded_of_none rfl) (fun _ _ he hs => bounded_react hs he) h

/-- **A stream has bounded memory**, over every run in which no chunk reaches a stream that has failed or
ended in the middle of a snapshot. -/
theorem memoryBounded_of_spares {es : List StreamEvent}
    (h : listenedMachine.Meets (fun s e => s.spares e = true) es) : MemoryBounded es where
  bytes := by
    rintro pre ⟨post, rfl⟩
    exact (bounded_run h.prefix).held.1
  chunks := by
    rintro pre ⟨post, rfl⟩
    exact (bounded_run h.prefix).held.2
  released pre e post hes hended := by
    rw [Machine.run_snoc]
    exact retained_react hended (h pre e post hes)

/-- Frames of a snapshot. -/
def startFrame : PtyFrame := ⟨PtyOpcode.snapshotStart, 1, 1, [80, 0, 24, 0]⟩

def chunkFrame : PtyFrame := ⟨PtyOpcode.snapshotChunk, 1, 1, [0x61]⟩

/-- A stream is ended in the middle of a snapshot, and the next one is put together. -/
theorem memoryBounded_restarted : MemoryBounded
    [.ingest startFrame, .ingest chunkFrame, .next 0, .finish, .ingest startFrame] :=
  memoryBounded_of_spares (listenedMachine.meets_of_checks (by decide))

/-- A stream that has ended takes a snapshot. -/
theorem not_memoryBounded_ended : ¬ MemoryBounded [.finish, .ingest startFrame, .ingest chunkFrame] := by
  intro h
  have hreleased := h.released [.finish, .ingest startFrame] (.ingest chunkFrame) [] rfl (by decide)
  revert hreleased
  decide

end Pherry.Sdk
