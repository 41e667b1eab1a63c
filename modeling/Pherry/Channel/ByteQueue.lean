import Pherry.Js
import Pherry.Lib.Chunks

/-!
# The byte queue

Inbound chunks are kept by reference and read in place; past `COALESCE_THRESHOLD` of them they are
copied into one accumulator chunk, a view of a backing buffer with slack that later coalesces fill
in place. `QueueState` is the class as written, `ByteQueue` the states it can be in. To its users
it is the list of bytes `contents`.
-/

namespace Pherry.Channel

open Lib

/-- `COALESCE_THRESHOLD`. -/
def coalesceThreshold : ℕ := 256

/-- A buffered chunk: bytes that were pushed, or a view of the live backing buffer. -/
inductive Chunk
  | pushed (bytes : Bytes)
  | view (byteOffset length : ℕ)

namespace Chunk

def length : Chunk → ℕ
  | pushed bytes => bytes.length
  | view _ n => n

/-- The bytes a chunk shows while the backing buffer holds `backing`. -/
def bytes (backing : Bytes) : Chunk → Bytes
  | pushed bytes => bytes
  | view byteOffset n => (backing.drop byteOffset).take n

/-- `subarray(n)`. -/
def subarray (n : ℕ) : Chunk → Chunk
  | pushed bytes => pushed (bytes.drop n)
  | view byteOffset m => view (byteOffset + n) (m - n)

/-- Whether the bytes are the chunk's own, not the backing buffer's. -/
def isPushed : Chunk → Bool
  | pushed _ => true
  | view _ _ => false

end Chunk

/-- `Uint8Array.set` of bytes that fit. -/
def setBytes (buffer : Bytes) (offset : ℕ) (bytes : Bytes) : Bytes :=
  buffer.take offset ++ bytes ++ buffer.drop (offset + bytes.length)

/-- Write chunks into a buffer one behind the other: the buffer and the end of what was written. -/
def setChunks (read : Chunk → Bytes) (buffer : Bytes) (offset : ℕ) (chunks : List Chunk) :
    Bytes × ℕ :=
  chunks.foldl (fun acc chunk => (setBytes acc.1 acc.2 (read chunk), acc.2 + chunk.length))
    (buffer, offset)

/-- The fields of the class. -/
structure QueueState where
  chunks : List Chunk
  length : ℕ
  backing : Option Bytes
  backingUsed : ℕ

namespace QueueState

/-- The bytes of a chunk of this queue. -/
def read (q : QueueState) (chunk : Chunk) : Bytes := chunk.bytes (q.backing.getD [])

/-- The unread bytes. -/
def contents (q : QueueState) : Bytes := q.chunks.flatMap q.read

/-- The fresh allocation of `#coalesce`, with twice the room. -/
def reallocate (q : QueueState) : QueueState :=
  let filled := setChunks q.read (List.replicate (q.length * 2) 0) 0 q.chunks
  { q with backing := some filled.1, backingUsed := filled.2, chunks := [.view 0 filled.2] }

/-- `#coalesce`: append into the slack behind the head's view if it still ends there and the slack
is enough, else reallocate. -/
def coalesce (q : QueueState) : QueueState :=
  match q.chunks, q.backing with
  | .view byteOffset n :: rest, some backing =>
    if byteOffset + n = q.backingUsed ∧ q.length - n ≤ backing.length - q.backingUsed then
      let filled := setChunks q.read backing q.backingUsed rest
      { q with
        backing := some filled.1
        backingUsed := filled.2
        chunks := [.view byteOffset (filled.2 - byteOffset)] }
    else q.reallocate
  | _, _ => q.reallocate

/-- `push`. -/
def push (q : QueueState) (chunk : Bytes) : QueueState :=
  if chunk.length = 0 then q
  else
    let q := { q with chunks := q.chunks ++ [.pushed chunk], length := q.length + chunk.length }
    if q.chunks.length > coalesceThreshold then q.coalesce else q

/-- `peekUint32BE`: the loop reads at most four bytes, then truncates to 32 bits. -/
def peekUint32BE (q : QueueState) : ℕ := bigEndian ((q.chunks.flatMap q.read).take 4) % 2 ^ 32

/-- The loop of `take`: what it copied and the chunks it left. -/
def takeLoop (read : Chunk → Bytes) : ℕ → List Chunk → Bytes × List Chunk
  | _, [] => ([], [])
  | want, head :: rest =>
    if want = 0 then ([], head :: rest)
    else if head.length ≤ want then
      (read head ++ (takeLoop read (want - head.length) rest).1,
        (takeLoop read (want - head.length) rest).2)
    else ((read head).take want, head.subarray want :: rest)

/-- `take`: an output buffer longer than the queue stays zero at its end. -/
def take (q : QueueState) (n : ℕ) : Bytes × QueueState :=
  let taken := takeLoop q.read n q.chunks
  let q := { q with chunks := taken.2, length := q.length - taken.1.length }
  (taken.1 ++ List.replicate (n - taken.1.length) 0,
    if q.chunks = [] then { q with backing := none, backingUsed := 0 } else q)

/-- What holds also between a push and its coalesce: only the head can be a view, and it lies in
the used part of the backing buffer. -/
structure Sound (q : QueueState) : Prop where
  length : q.length = q.contents.length
  used : q.backingUsed ≤ (q.backing.getD []).length
  view : ∀ byteOffset n, .view byteOffset n ∈ q.chunks →
    q.backing.isSome ∧ byteOffset + n ≤ q.backingUsed
  tail : ∀ chunk ∈ q.chunks.tail, chunk.isPushed = true

/-- What the class keeps between calls: the number of chunks is bounded too. -/
structure WF (q : QueueState) : Prop extends Sound q where
  count : q.chunks.length ≤ coalesceThreshold

end QueueState

/-! ## Writing chunks into a buffer -/

lemma length_setBytes {buffer : Bytes} {offset : ℕ} {bytes : Bytes}
    (h : offset + bytes.length ≤ buffer.length) :
    (setBytes buffer offset bytes).length = buffer.length := by
  simp only [setBytes, List.length_append, List.length_take, List.length_drop]
  omega

lemma setChunks_eq (read : Chunk → Bytes) (chunks : List Chunk)
    (hread : ∀ chunk ∈ chunks, (read chunk).length = chunk.length) (buffer : Bytes) (offset : ℕ)
    (h : offset + (chunks.flatMap read).length ≤ buffer.length) :
    setChunks read buffer offset chunks
      = (buffer.take offset ++ chunks.flatMap read
          ++ buffer.drop (offset + (chunks.flatMap read).length),
        offset + (chunks.flatMap read).length) := by
  induction chunks generalizing buffer offset with
  | nil => simp [setChunks]
  | cons chunk chunks ih =>
    have hchunk := hread chunk List.mem_cons_self
    have hrest : ∀ c ∈ chunks, (read c).length = c.length :=
      fun c hc => hread c (List.mem_cons_of_mem _ hc)
    rw [List.flatMap_cons, List.length_append] at h
    have hlength : (setBytes buffer offset (read chunk)).length = buffer.length :=
      length_setBytes (by omega)
    have hstep : setChunks read buffer offset (chunk :: chunks)
        = setChunks read (setBytes buffer offset (read chunk)) (offset + chunk.length) chunks := rfl
    rw [hstep, ih hrest _ _ (by omega), List.flatMap_cons, List.length_append, ← hchunk]
    have htake : (setBytes buffer offset (read chunk)).take (offset + (read chunk).length)
        = buffer.take offset ++ read chunk := by
      have hfront : (buffer.take offset ++ read chunk).length = offset + (read chunk).length := by
        simp only [List.length_append, List.length_take]
        omega
      rw [setBytes, ← hfront, List.take_left]
    have hdrop : (setBytes buffer offset (read chunk)).drop
          (offset + (read chunk).length + (chunks.flatMap read).length)
        = buffer.drop (offset + ((read chunk).length + (chunks.flatMap read).length)) := by
      have hfront : (buffer.take offset ++ read chunk).length = offset + (read chunk).length := by
        simp only [List.length_append, List.length_take]
        omega
      rw [setBytes, List.drop_append, hfront, List.drop_eq_nil_of_le (by omega), List.nil_append,
        List.drop_drop]
      congr 1
      omega
    rw [htake, hdrop]
    simp only [List.append_assoc, Nat.add_assoc]

namespace QueueState

/-! ## The operations on the contents -/

lemma Sound.length_read {q : QueueState} (h : q.Sound) {chunk : Chunk} (hmem : chunk ∈ q.chunks) :
    (q.read chunk).length = chunk.length := by
  cases chunk with
  | pushed bytes => rfl
  | view byteOffset n =>
    have hbound := (h.view byteOffset n hmem).2
    have hused := h.used
    simp only [read, Chunk.bytes, Chunk.length, List.length_take, List.length_drop]
    omega

lemma wf_view {length used byteOffset n : ℕ} {backing : Bytes} (hused : used ≤ backing.length)
    (hview : byteOffset + n ≤ used) (hlength : length = n) :
    WF { chunks := [.view byteOffset n], length, backing := some backing, backingUsed := used } := by
  refine ⟨⟨?_, hused, ?_, ?_⟩, Nat.succ_le_of_lt (by decide)⟩
  · simp only [contents, read, Chunk.bytes, List.flatMap_cons, List.flatMap_nil, List.append_nil,
      Option.getD_some, List.length_take, List.length_drop]
    omega
  · intro byteOffset' n' hmem
    simp only [List.mem_singleton, Chunk.view.injEq] at hmem
    obtain ⟨rfl, rfl⟩ := hmem
    exact ⟨rfl, hview⟩
  · intro chunk hmem
    cases hmem

lemma contents_view (length used byteOffset n : ℕ) (backing : Bytes) :
    contents { chunks := [.view byteOffset n], length, backing := some backing, backingUsed := used }
      = (backing.drop byteOffset).take n := by
  simp [contents, read, Chunk.bytes]

lemma Sound.reallocate {q : QueueState} (h : q.Sound) :
    q.reallocate.WF ∧ q.reallocate.contents = q.contents := by
  have hfilled := setChunks_eq q.read q.chunks (fun chunk hmem => h.length_read hmem)
    (List.replicate (q.length * 2) 0) 0
    (by
      have hlength : q.length = (q.chunks.flatMap q.read).length := h.length
      rw [List.length_replicate]
      omega)
  have hcontents : q.chunks.flatMap q.read = q.contents := rfl
  rw [hcontents, List.take_zero, List.nil_append, Nat.zero_add, ← h.length] at hfilled
  unfold QueueState.reallocate
  rw [hfilled]
  constructor
  · refine wf_view ?_ (by omega) rfl
    rw [List.length_append, ← h.length]
    omega
  · rw [contents_view, List.drop_zero, h.length, List.take_left]

/-- A view stretched over what was written behind it shows its old bytes and the new ones. -/
lemma drop_take_extend {backing new : Bytes} {byteOffset n used : ℕ} (hend : byteOffset + n = used)
    (hused : used ≤ backing.length) :
    ((backing.take used ++ new ++ backing.drop (used + new.length)).drop byteOffset).take
        (used + new.length - byteOffset)
      = (backing.drop byteOffset).take n ++ new := by
  have hold : (backing.take used).drop byteOffset = (backing.drop byteOffset).take n := by
    rw [List.drop_take]
    congr 1
    omega
  have hlength : ((backing.drop byteOffset).take n).length = n := by
    rw [List.length_take, List.length_drop]
    omega
  have hwidth : used + new.length - byteOffset
      = ((backing.drop byteOffset).take n ++ new).length := by
    rw [List.length_append, hlength]
    omega
  have hfit : byteOffset ≤ (backing.take used).length := by
    rw [List.length_take]
    omega
  rw [List.append_assoc, List.drop_append_of_le_length hfit, hold, ← List.append_assoc, hwidth, List.take_left]

/-- Coalescing keeps the contents, whether it writes into the slack or into a fresh buffer. -/
lemma Sound.coalesce {q : QueueState} (h : q.Sound) :
    q.coalesce.WF ∧ q.coalesce.contents = q.contents := by
  unfold QueueState.coalesce
  split
  · next byteOffset n rest backing hchunks hbacking =>
    split
    · next hroom =>
      obtain ⟨hend, hslack⟩ := hroom
      have hmem : Chunk.view byteOffset n ∈ q.chunks := by
        rw [hchunks]
        exact List.mem_cons_self
      have hused := h.used
      rw [hbacking, Option.getD_some] at hused
      have hcontents : q.contents = (backing.drop byteOffset).take n ++ rest.flatMap q.read := by
        rw [contents, hchunks, List.flatMap_cons, read, hbacking]
        rfl
      have hview : ((backing.drop byteOffset).take n).length = n := by
        rw [List.length_take, List.length_drop]
        omega
      have hlength : q.length = n + (rest.flatMap q.read).length := by
        rw [h.length, hcontents, List.length_append, hview]
      have hfilled := setChunks_eq q.read rest
        (fun chunk hm => h.length_read (by rw [hchunks]; exact List.mem_cons_of_mem _ hm))
        backing q.backingUsed (by omega)
      rw [hfilled]
      simp only
      have htake : (backing.take q.backingUsed).length = q.backingUsed := by
        rw [List.length_take]
        omega
      constructor
      · refine wf_view ?_ ?_ ?_
        · simp only [List.length_append, htake, List.length_drop]
          omega
        · omega
        · omega
      · rw [contents_view, hcontents, drop_take_extend hend hused]
    · exact h.reallocate
  · exact h.reallocate

/-- A queue between a push and its coalesce. -/
def appended (q : QueueState) (chunk : Bytes) : QueueState :=
  { q with
    chunks := q.chunks ++ [.pushed chunk]
    length := q.length + chunk.length }

lemma WF.appended {q : QueueState} (h : q.WF) (chunk : Bytes) :
    (q.appended chunk).Sound ∧ (q.appended chunk).contents = q.contents ++ chunk := by
  have hcontents : (q.appended chunk).contents = q.contents ++ chunk := by
    rw [contents, QueueState.appended, List.flatMap_append, List.flatMap_singleton]
    rfl
  refine ⟨⟨?_, h.used, ?_, ?_⟩, hcontents⟩
  · rw [hcontents, List.length_append, ← h.length]
    rfl
  · intro byteOffset n hmem
    rcases List.mem_append.1 hmem with hold | hnew
    · exact h.view byteOffset n hold
    · simp at hnew
  · intro c hmem
    have htail : c ∈ q.chunks.tail ++ [.pushed chunk] := by
      cases hq : q.chunks with
      | nil =>
        rw [QueueState.appended, hq] at hmem
        cases hmem
      | cons head rest =>
        rw [QueueState.appended, hq] at hmem
        exact hmem
    rcases List.mem_append.1 htail with hold | hnew
    · exact h.tail c hold
    · rw [List.mem_singleton.1 hnew]
      rfl

lemma WF.push {q : QueueState} (h : q.WF) (chunk : Bytes) :
    (q.push chunk).WF ∧ (q.push chunk).contents = q.contents ++ chunk := by
  obtain ⟨hsound, hcontents⟩ := h.appended chunk
  unfold QueueState.push
  split
  · next hempty =>
    rw [List.eq_nil_of_length_eq_zero hempty, List.append_nil]
    exact ⟨h, rfl⟩
  · simp only
    split
    · rw [← hcontents]
      exact hsound.coalesce
    · next hcount => exact ⟨⟨hsound, Nat.le_of_not_lt hcount⟩, hcontents⟩

lemma takeLoop_fst {read : Chunk → Bytes} {chunks : List Chunk}
    (hread : ∀ chunk ∈ chunks, (read chunk).length = chunk.length) (want : ℕ) :
    (takeLoop read want chunks).1 = (chunks.flatMap read).take want := by
  induction chunks generalizing want with
  | nil => simp [takeLoop]
  | cons head rest ih =>
    have hhead := hread head List.mem_cons_self
    have hrest : ∀ c ∈ rest, (read c).length = c.length :=
      fun c hc => hread c (List.mem_cons_of_mem _ hc)
    rw [takeLoop, List.flatMap_cons]
    by_cases hwant : want = 0
    · simp [hwant]
    · rw [if_neg hwant]
      by_cases hle : head.length ≤ want
      · rw [if_pos hle, List.take_append, List.take_of_length_le (by omega), ih hrest, hhead]
      · rw [if_neg hle, List.take_append_of_le_length (by omega)]

lemma bytes_subarray (backing : Bytes) (n : ℕ) (chunk : Chunk) :
    (chunk.subarray n).bytes backing = (chunk.bytes backing).drop n := by
  cases chunk with
  | pushed bytes => rfl
  | view byteOffset m =>
    rw [Chunk.subarray, Chunk.bytes, Chunk.bytes, List.drop_take, List.drop_drop]

lemma takeLoop_snd {backing : Bytes} {chunks : List Chunk}
    (hread : ∀ chunk ∈ chunks, (chunk.bytes backing).length = chunk.length) (want : ℕ) :
    (takeLoop (Chunk.bytes backing) want chunks).2.flatMap (Chunk.bytes backing)
      = (chunks.flatMap (Chunk.bytes backing)).drop want := by
  induction chunks generalizing want with
  | nil => simp [takeLoop]
  | cons head rest ih =>
    have hhead := hread head List.mem_cons_self
    have hrest : ∀ c ∈ rest, (c.bytes backing).length = c.length :=
      fun c hc => hread c (List.mem_cons_of_mem _ hc)
    rw [takeLoop, List.flatMap_cons]
    by_cases hwant : want = 0
    · simp [hwant]
    · rw [if_neg hwant]
      by_cases hle : head.length ≤ want
      · rw [if_pos hle, List.drop_append, List.drop_eq_nil_of_le (by omega), List.nil_append,
          ih hrest, hhead]
      · rw [if_neg hle, List.drop_append_of_le_length (by omega), List.flatMap_cons,
          bytes_subarray]

lemma subarray_zero (chunk : Chunk) : chunk.subarray 0 = chunk := by
  cases chunk with
  | pushed bytes => rfl
  | view byteOffset n => rfl

lemma takeLoop_chunks (read : Chunk → Bytes) (want : ℕ) (chunks : List Chunk) :
    (takeLoop read want chunks).2 = [] ∨ ∃ head rest n, head :: rest <:+ chunks ∧
      n ≤ head.length ∧ (takeLoop read want chunks).2 = head.subarray n :: rest := by
  induction chunks generalizing want with
  | nil => exact .inl (by rw [takeLoop])
  | cons head rest ih =>
    rw [takeLoop]
    by_cases hwant : want = 0
    · rw [if_pos hwant]
      exact .inr ⟨head, rest, 0, List.suffix_rfl, Nat.zero_le _, by rw [subarray_zero]⟩
    · rw [if_neg hwant]
      by_cases hle : head.length ≤ want
      · rw [if_pos hle]
        rcases ih (want - head.length) with hnil | ⟨head', rest', n, hsuffix, hn, heq⟩
        · exact .inl hnil
        · exact .inr ⟨head', rest', n, hsuffix.trans (List.suffix_cons _ _), hn, heq⟩
      · rw [if_neg hle]
        exact .inr ⟨head, rest, want, List.suffix_rfl, by omega, rfl⟩

lemma view_subarray {chunk : Chunk} {n byteOffset m : ℕ} (hn : n ≤ chunk.length)
    (h : chunk.subarray n = .view byteOffset m) :
    ∃ byteOffset' m', chunk = .view byteOffset' m' ∧ byteOffset + m = byteOffset' + m' := by
  cases chunk with
  | pushed bytes => cases h
  | view byteOffset' m' =>
    simp only [Chunk.length] at hn
    simp only [Chunk.subarray, Chunk.view.injEq] at h
    exact ⟨byteOffset', m', rfl, by omega⟩

lemma WF.take {q : QueueState} (h : q.WF) (n : ℕ) :
    (q.take n).1 = q.contents.take n ++ List.replicate (n - q.length) 0 ∧ (q.take n).2.WF ∧
      (q.take n).2.contents = q.contents.drop n := by
  have hread : ∀ chunk ∈ q.chunks, (q.read chunk).length = chunk.length :=
    fun chunk hmem => h.length_read hmem
  have hfst : (takeLoop q.read n q.chunks).1 = q.contents.take n := takeLoop_fst hread n
  have hsnd : (takeLoop q.read n q.chunks).2.flatMap q.read = q.contents.drop n :=
    takeLoop_snd hread n
  have hlength : (q.contents.take n).length = min n q.length := by
    rw [List.length_take, ← h.length]
  have hleft : q.length - min n q.length = (q.contents.drop n).length := by
    rw [List.length_drop, ← h.length]
    omega
  refine ⟨?_, ?_⟩
  · rw [QueueState.take, hfst, hlength, show n - min n q.length = n - q.length by omega]
  · unfold QueueState.take
    simp only [hfst, hlength]
    rcases takeLoop_chunks q.read n q.chunks with hnil | ⟨head, rest, m, hsuffix, hm, hchunks⟩
    · rw [hnil] at hsnd ⊢
      rw [if_pos rfl]
      have hempty : q.contents.drop n = [] := hsnd.symm
      constructor
      · refine ⟨⟨?_, Nat.le_refl _, ?_, ?_⟩, Nat.zero_le _⟩
        · show q.length - min n q.length = 0
          rw [hleft, hempty, List.length_nil]
        · intro byteOffset n' hmem
          cases hmem
        · intro chunk hmem
          cases hmem
      · exact hempty.symm
    · rw [if_neg (by rw [hchunks]; exact List.cons_ne_nil _ _)]
      have hmem : head ∈ q.chunks := hsuffix.subset List.mem_cons_self
      refine ⟨⟨⟨?_, h.used, ?_, ?_⟩, ?_⟩, hsnd⟩
      · show q.length - min n q.length = ((takeLoop q.read n q.chunks).2.flatMap q.read).length
        rw [hsnd, hleft]
      · intro byteOffset n' hview
        have hview' : Chunk.view byteOffset n' ∈ head.subarray m :: rest := hchunks ▸ hview
        rcases List.mem_cons.1 hview' with hhead | hrest
        · obtain ⟨byteOffset', m', rfl, hends⟩ := view_subarray hm hhead.symm
          have hbound := h.view byteOffset' m' hmem
          exact ⟨hbound.1, by rw [hends]; exact hbound.2⟩
        · exact h.view byteOffset n' (hsuffix.subset (List.mem_cons_of_mem _ hrest))
      · intro chunk htail
        have htail' : chunk ∈ rest := by
          have htail : chunk ∈ (takeLoop q.read n q.chunks).2.tail := htail
          rw [hchunks] at htail
          exact htail
        refine h.tail chunk ?_
        obtain ⟨front, hfront⟩ := hsuffix
        rw [← hfront]
        cases front with
        | nil => exact htail'
        | cons c front => exact List.mem_append_right _ (List.mem_cons_of_mem _ htail')
      · show (takeLoop q.read n q.chunks).2.length ≤ coalesceThreshold
        rw [hchunks]
        exact Nat.le_trans hsuffix.length_le h.count

end QueueState

/-! ## The queue -/

/-- A byte queue: the fields of the class, in a state it keeps. -/
def ByteQueue := { q : QueueState // q.WF }

namespace ByteQueue

/-- A new queue. -/
def empty : ByteQueue :=
  ⟨{ chunks := [], length := 0, backing := none, backingUsed := 0 },
    ⟨⟨rfl, Nat.le_refl _, (fun _ _ h => by cases h), (fun _ h => by cases h)⟩, Nat.zero_le _⟩⟩

/-- The unread bytes. -/
def contents (q : ByteQueue) : Bytes := q.1.contents

def length (q : ByteQueue) : ℕ := q.1.length

def push (q : ByteQueue) (chunk : Bytes) : ByteQueue := ⟨q.1.push chunk, (q.2.push chunk).1⟩

def peekUint32BE (q : ByteQueue) : ℕ := q.1.peekUint32BE

def take (q : ByteQueue) (n : ℕ) : Bytes × ByteQueue :=
  ((q.1.take n).1, ⟨(q.1.take n).2, (q.2.take n).2.1⟩)

lemma length_eq (q : ByteQueue) : q.length = q.contents.length := q.2.length

@[simp] lemma contents_push (q : ByteQueue) (chunk : Bytes) :
    (q.push chunk).contents = q.contents ++ chunk := (q.2.push chunk).2

lemma take_fst {q : ByteQueue} {n : ℕ} (h : n ≤ q.length) :
    (q.take n).1 = q.contents.take n := by
  have hlength : n - q.1.length = 0 := Nat.sub_eq_zero_of_le h
  have htake : (q.take n).1 = q.contents.take n ++ List.replicate (n - q.1.length) 0 :=
    (q.2.take n).1
  rw [htake, hlength, List.replicate_zero, List.append_nil]

@[simp] lemma contents_take (q : ByteQueue) (n : ℕ) :
    (q.take n).2.contents = q.contents.drop n := (q.2.take n).2.2

lemma peekUint32BE_eq (q : ByteQueue) :
    q.peekUint32BE = bigEndian (q.contents.take 4) % 2 ^ 32 := rfl

end ByteQueue

end Pherry.Channel
