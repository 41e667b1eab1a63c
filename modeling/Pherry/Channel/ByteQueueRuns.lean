import Mathlib.Algebra.GroupWithZero.Nat
import Pherry.Channel.ByteQueue
import Pherry.Lib.Machine

/-!
# Runs of the byte queue

The class under every order of its operations, against a list of bytes that is appended to at its end
and taken from at its front; and where `#coalesce` writes.
-/

namespace Pherry.Channel

open Lib

/-! ## The list of bytes -/

/-- The operations of the class. -/
inductive QueueOp
  | push (chunk : Bytes)
  | peek
  | take (n : ℕ)

/-- What an operation returns. -/
inductive QueueAnswer
  | done
  | word (value : ℕ)
  | bytes (out : Bytes)

namespace QueueOp

/-- An operation on a list of bytes. -/
def onList (l : Bytes) : QueueOp → Bytes
  | .push chunk => l ++ chunk
  | .peek => l
  | .take n => l.drop n

/-- What the operation returns of the list: the prefix, behind which an array that is longer stays
zero. -/
def answer (l : Bytes) : QueueOp → QueueAnswer
  | .push _ => .done
  | .peek => .word (bigEndian (l.take 4) % 2 ^ 32)
  | .take n => .bytes (l.take n ++ List.replicate (n - l.length) 0)

/-- What an operation puts in. -/
def pushed : QueueOp → Bytes
  | .push chunk => chunk
  | _ => []

/-- What an operation takes out of a list. -/
def taken (l : Bytes) : QueueOp → Bytes
  | .take n => l.take n
  | _ => []

end QueueOp

/-- The list of bytes as a machine. -/
def fifo : Machine Bytes QueueOp := ⟨[], QueueOp.onList⟩

lemma pushed_eq (ops : List QueueOp) :
    ops.flatMap QueueOp.pushed = fifo.outputs QueueOp.taken ops ++ fifo.run ops := by
  induction ops using List.reverseRecOn with
  | nil => rfl
  | append_singleton ops op ih =>
    rw [List.flatMap_append, ih, fifo.outputs_snoc, fifo.run_snoc, List.flatMap_singleton]
    cases op with
    | push chunk => simp [QueueOp.pushed, QueueOp.taken, fifo, QueueOp.onList]
    | peek => simp [QueueOp.pushed, QueueOp.taken, fifo, QueueOp.onList]
    | take n => simp [QueueOp.pushed, QueueOp.taken, fifo, QueueOp.onList]

/-! ## Where chunks are written -/

/-- Chunks that are written one behind the other, each with its offset. -/
def writes : ℕ → List Chunk → List (ℕ × Chunk)
  | _, [] => []
  | offset, chunk :: chunks => (offset, chunk) :: writes (offset + chunk.length) chunks

lemma writes_bounds {offset : ℕ} {chunks : List Chunk} : ∀ w ∈ writes offset chunks,
    offset ≤ w.1 ∧ w.1 + w.2.length ≤ offset + (chunks.map Chunk.length).sum := by
  induction chunks generalizing offset with
  | nil => simp [writes]
  | cons chunk chunks ih =>
    intro w hw
    rw [List.map_cons, List.sum_cons]
    rcases List.mem_cons.1 hw with rfl | hw
    · exact ⟨Nat.le_refl _, by show offset + chunk.length ≤ _; omega⟩
    · obtain ⟨hlow, hhigh⟩ := ih w hw
      exact ⟨by omega, by omega⟩

namespace QueueState

/-- Whether `#coalesce` writes into the slack of the live buffer. -/
def InPlace (q : QueueState) : Prop :=
  ∃ byteOffset n rest backing, q.chunks = .view byteOffset n :: rest ∧ q.backing = some backing ∧
    byteOffset + n = q.backingUsed ∧ q.length - n ≤ backing.length - q.backingUsed

/-- The writes of `#coalesce` and the size of the buffer they go to: into the slack, or into a fresh
buffer. -/
def coalesceWrites (q : QueueState) : List (ℕ × Chunk) × ℕ :=
  match q.chunks, q.backing with
  | .view byteOffset n :: rest, some backing =>
    if byteOffset + n = q.backingUsed ∧ q.length - n ≤ backing.length - q.backingUsed then
      (writes q.backingUsed rest, backing.length)
    else (writes 0 q.chunks, q.length * 2)
  | _, _ => (writes 0 q.chunks, q.length * 2)

/-- No write of `#coalesce` goes past its buffer, and none that is made in place touches a byte that a
chunk of the queue still shows. -/
structure CoalescesInBounds (q : QueueState) : Prop where
  fits : ∀ w ∈ q.coalesceWrites.1, w.1 + w.2.length ≤ q.coalesceWrites.2
  apart : q.InPlace → ∀ w ∈ q.coalesceWrites.1, ∀ byteOffset n, .view byteOffset n ∈ q.chunks →
    byteOffset + n ≤ w.1

lemma Sound.sum_length {q : QueueState} (h : q.Sound) : (q.chunks.map Chunk.length).sum = q.length := by
  have hread : ∀ chunk ∈ q.chunks, (q.read chunk).length = chunk.length := fun chunk hmem => h.length_read hmem
  rw [h.length, contents, List.length_flatMap]
  exact congrArg List.sum (List.map_congr_left fun chunk hmem => (hread chunk hmem).symm)

lemma Sound.coalescesInBounds {q : QueueState} (h : q.Sound) : q.CoalescesInBounds := by
  have hsum := h.sum_length
  have hfresh : ∀ w ∈ writes 0 q.chunks, w.1 + w.2.length ≤ q.length * 2 := by
    intro w hw
    have hbound := (writes_bounds w hw).2
    omega
  constructor
  · intro w hw
    rw [coalesceWrites] at hw ⊢
    split at hw
    · rename_i byteOffset n rest backing hchunks hbacking
      split at hw
      · rename_i hroom
        simp only [hchunks, if_pos hroom]
        have hused : q.backingUsed ≤ backing.length := by simpa [hbacking] using h.used
        have hlength : n + (rest.map Chunk.length).sum = q.length := by
          rw [← hsum, hchunks, List.map_cons, List.sum_cons]
          rfl
        have hbound := (writes_bounds w hw).2
        omega
      · rename_i hroom
        simp only [hchunks, if_neg hroom]
        exact hfresh w hw
    · simpa using hfresh w hw
  · rintro ⟨byteOffset, n, rest, backing, hchunks, hbacking, hroom⟩ w hw byteOffset' n' hview
    -- a view ends within what is used, and the writes begin behind it
    have hend := (h.view byteOffset' n' hview).2
    rw [coalesceWrites, hchunks, hbacking] at hw
    simp only [if_pos hroom] at hw
    have hbound := (writes_bounds w hw).1
    omega

/-! ## Runs -/

/-- A new queue. -/
def empty : QueueState :=
  { chunks := []
    length := 0
    backing := none
    backingUsed := 0 }

/-- One operation. -/
def react (q : QueueState) : QueueOp → QueueState
  | .push chunk => q.push chunk
  | .peek => q
  | .take n => (q.take n).2

/-- What an operation returns. -/
def answer (q : QueueState) : QueueOp → QueueAnswer
  | .push _ => .done
  | .peek => .word q.peekUint32BE
  | .take n => .bytes (q.take n).1

end QueueState

/-- The class as a machine. -/
def queueMachine : Machine QueueState QueueOp := ⟨.empty, QueueState.react⟩

/-- A queue stands for a list of bytes: it has its contents and answers as it does, it has no more
chunks than it may, and where the next push coalesces, it writes within bounds. -/
structure QueueLaw (l : Bytes) (q : QueueState) : Prop where
  contents : q.contents = l
  answer : ∀ op, q.answer op = op.answer l
  count : q.chunks.length ≤ coalesceThreshold
  bounds : ∀ chunk, (q.appended chunk).CoalescesInBounds

namespace QueueState

lemma wf_empty : empty.WF := ByteQueue.empty.2

lemma WF.react {q : QueueState} (h : q.WF) (op : QueueOp) :
    (q.react op).WF ∧ (q.react op).contents = op.onList q.contents := by
  cases op with
  | push chunk => exact h.push chunk
  | peek => exact ⟨h, rfl⟩
  | take n => exact (h.take n).2

lemma WF.answer {q : QueueState} (h : q.WF) (op : QueueOp) : q.answer op = op.answer q.contents := by
  cases op with
  | push chunk => rfl
  | peek => rfl
  | take n =>
    show QueueAnswer.bytes (q.take n).1 = _
    rw [(h.take n).1, h.length]
    rfl

lemma wf_run (ops : List QueueOp) :
    (queueMachine.run ops).WF ∧ (queueMachine.run ops).contents = fifo.run ops := by
  induction ops using List.reverseRecOn with
  | nil => exact ⟨wf_empty, rfl⟩
  | append_singleton ops op ih =>
    obtain ⟨hwf, hcontents⟩ := ih
    rw [queueMachine.run_snoc, fifo.run_snoc, ← hcontents]
    exact hwf.react op

end QueueState

/-- Whatever is pushed, peeked and taken, the queue is the list of what was pushed less what was
taken. -/
theorem queue_refines_fifo (ops : List QueueOp) :
    QueueLaw (fifo.run ops) (queueMachine.run ops) ∧
      ops.flatMap QueueOp.pushed =
        fifo.outputs QueueOp.taken ops ++ (queueMachine.run ops).contents := by
  obtain ⟨hwf, hcontents⟩ := QueueState.wf_run ops
  refine ⟨?_, ?_⟩
  · exact
      { contents := hcontents
        answer := fun op => by rw [← hcontents]; exact hwf.answer op
        count := hwf.count
        bounds := fun chunk => (hwf.appended chunk).1.coalescesInBounds }
  · rw [hcontents]
    exact pushed_eq ops

end Pherry.Channel
