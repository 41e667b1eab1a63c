import Pherry.TextFile

/-!
# Text that was torn

The bytes of a text that were written up to some point. They are read as a front of the text, and behind it one
U+FFFD for the sequence that was cut.
-/

namespace Pherry

/-! ## A sequence that is cut -/

/-- What follows the first byte of a sequence. -/
def isContinuation (b : UInt8) : Bool := 0x80 ≤ b.toNat && b.toNat < 0xC0

lemma isContinuation_ofNat {n : ℕ} (h : n < 0x40) : isContinuation (UInt8.ofNat (0x80 + n)) = true := by
  rw [isContinuation, toNat_ofNat (by omega), Bool.and_eq_true, decide_eq_true_eq, decide_eq_true_eq]
  omega

/-- A code point that is not ASCII: a first byte, and as many bytes behind it as it announces. -/
lemma utf8CodePoint_eq_cons {c : ℕ} (hascii : 0x80 ≤ c) (hc : c < 0x110000) :
    ∃ a tail, utf8CodePoint c = a :: tail ∧ (lead a.toNat).map Lead.needed = some tail.length ∧
      ∀ b ∈ tail, isContinuation b = true := by
  have hsix : ∀ n, n % 0x40 < 0x40 := fun n => Nat.mod_lt n (by omega)
  have htail : ∀ n, isContinuation (UInt8.ofNat (0x80 + n % 0x40)) = true :=
    fun n => isContinuation_ofNat (hsix n)
  unfold utf8CodePoint
  rw [if_neg (by omega)]
  split
  · next h =>
    refine ⟨_, _, rfl, ?_, List.forall_mem_singleton.2 (htail _)⟩
    rw [toNat_ofNat (by omega), lead, if_neg (by omega), if_pos (by omega)]
    rfl
  · split
    · next h =>
      refine ⟨_, _, rfl, ?_, List.forall_mem_cons.2 ⟨htail _, List.forall_mem_singleton.2 (htail _)⟩⟩
      rw [toNat_ofNat (by omega), lead, if_neg (by omega), if_neg (by omega), if_pos (by omega)]
      rfl
    · next h =>
      refine ⟨_, _, rfl, ?_, List.forall_mem_cons.2 ⟨htail _, List.forall_mem_cons.2 ⟨htail _,
        List.forall_mem_singleton.2 (htail _)⟩⟩⟩
      rw [toNat_ofNat (by omega), lead, if_neg (by omega), if_neg (by omega), if_neg (by omega),
        if_pos (by omega)]
      rfl

lemma continuation_short {needed lower upper value : ℕ} {bytes : Bytes} (h : bytes.length < needed) :
    (continuation needed lower upper value bytes).1 = 0xFFFD ∧
      (continuation needed lower upper value bytes).2 <:+ bytes := by
  induction bytes generalizing needed lower upper value with
  | nil =>
    obtain ⟨needed, rfl⟩ : ∃ n, needed = n + 1 := ⟨needed - 1, by rw [List.length_nil] at h; omega⟩
    exact ⟨rfl, List.suffix_rfl⟩
  | cons b bytes ih =>
    rw [List.length_cons] at h
    obtain ⟨needed, rfl⟩ : ∃ n, needed = n + 1 := ⟨needed - 1, by omega⟩
    rw [continuation]
    split
    · have hless : bytes.length < needed := by omega
      exact ⟨(ih hless).1, (ih hless).2.trans (List.suffix_cons _ _)⟩
    · exact ⟨rfl, List.suffix_rfl⟩

lemma decodePoints_continuations {bytes : Bytes} (h : ∀ b ∈ bytes, isContinuation b = true) (fuel : ℕ) :
    ∀ c ∈ decodePoints fuel bytes, c = 0xFFFD := by
  induction bytes generalizing fuel with
  | nil => cases fuel <;> simp [decodePoints]
  | cons b bytes ih =>
    cases fuel with
    | zero => simp [decodePoints]
    | succ fuel =>
      have hb := h b List.mem_cons_self
      rw [isContinuation, Bool.and_eq_true, decide_eq_true_eq, decide_eq_true_eq] at hb
      have hlead : lead b.toNat = none := by
        rw [lead, if_neg (by omega), if_neg (by omega), if_neg (by omega), if_neg (by omega)]
      rw [decodePoints, hlead]
      intro c hc
      rcases List.mem_cons.1 hc with rfl | hrest
      · rfl
      · exact ih (fun b hb => h b (List.mem_cons_of_mem _ hb)) fuel c hrest

lemma decodePoints_cut {c : ℕ} (hc : c < 0x110000) {m : ℕ} (hm : m < (utf8CodePoint c).length) (fuel : ℕ) :
    (∀ d ∈ decodePoints fuel ((utf8CodePoint c).take m), d = 0xFFFD) ∧
      (c < 0x80 → decodePoints fuel ((utf8CodePoint c).take m) = []) := by
  by_cases hascii : c < 0x80
  · have hone : utf8CodePoint c = [UInt8.ofNat c] := if_pos hascii
    rw [hone, List.length_singleton] at hm
    obtain rfl : m = 0 := by omega
    cases fuel <;> simp [decodePoints]
  · obtain ⟨a, tail, heq, hlead, htail⟩ := utf8CodePoint_eq_cons (Nat.le_of_not_lt hascii) hc
    obtain ⟨l, hlead, hneeded⟩ := Option.map_eq_some_iff.1 hlead
    refine ⟨?_, fun h => absurd h hascii⟩
    rw [heq] at hm ⊢
    rw [List.length_cons] at hm
    cases m with
    | zero => cases fuel <;> simp [decodePoints]
    | succ m =>
      cases fuel with
      | zero => simp [decodePoints]
      | succ fuel =>
        have hshort : (tail.take m).length < l.needed := by
          rw [List.length_take]
          omega
        obtain ⟨hvalue, hsuffix⟩ := @continuation_short l.needed l.lower l.upper l.bits (tail.take m) hshort
        rw [List.take_succ_cons, decodePoints, hlead]
        simp only [hvalue]
        intro d hd
        rcases List.mem_cons.1 hd with rfl | hrest
        · rfl
        · refine decodePoints_continuations (fun b hb => ?_) fuel d hrest
          exact htail b (List.mem_of_mem_take (hsuffix.subset hb))

/-! ## A text that is cut -/

lemma decodePoints_append {points : List ℕ} (h : ∀ c ∈ points, isScalar c) (bytes : Bytes) (fuel : ℕ) :
    decodePoints (points.length + fuel) (points.flatMap utf8CodePoint ++ bytes) =
      points ++ decodePoints fuel bytes := by
  induction points with
  | nil => rw [List.length_nil, Nat.zero_add, List.flatMap_nil, List.nil_append, List.nil_append]
  | cons c points ih =>
    rw [List.length_cons, Nat.add_right_comm, List.flatMap_cons, List.append_assoc,
      decodePoints_utf8CodePoint (h c List.mem_cons_self), ih fun d hd => h d (List.mem_cons_of_mem _ hd),
      List.cons_append]

lemma take_flatMap_utf8CodePoint {points : List ℕ} {n : ℕ} (hn : n < (points.flatMap utf8CodePoint).length) :
    ∃ front c back m, points = front ++ c :: back ∧ m < (utf8CodePoint c).length ∧
      (points.flatMap utf8CodePoint).take n = front.flatMap utf8CodePoint ++ (utf8CodePoint c).take m := by
  induction points generalizing n with
  | nil => simp at hn
  | cons c points ih =>
    rw [List.flatMap_cons] at hn ⊢
    by_cases hlt : n < (utf8CodePoint c).length
    · exact ⟨[], c, points, n, rfl, hlt, by rw [List.take_append_of_le_length (Nat.le_of_lt hlt)]; rfl⟩
    · rw [List.length_append] at hn
      have hrest : n - (utf8CodePoint c).length < (points.flatMap utf8CodePoint).length := by omega
      obtain ⟨front, d, back, m, rfl, hm, htake⟩ := ih hrest
      refine ⟨c :: front, d, back, m, rfl, hm, ?_⟩
      rw [List.take_append, List.take_of_length_le (by omega), htake, List.flatMap_cons, List.append_assoc]

lemma head_fromCodePoint {c : ℕ} (hc : c < 0x110000) :
    ∃ u rest, fromCodePoint c = u :: rest ∧ (0x80 ≤ c → 0x80 ≤ u) := by
  unfold fromCodePoint
  split
  · next hunit =>
    refine ⟨_, _, rfl, fun h => ?_⟩
    rw [UInt16.le_iff_toNat_le, UInt16.toNat_ofNat_of_lt' hunit]
    exact h
  · next hpair =>
    refine ⟨_, _, rfl, fun h => ?_⟩
    rw [UInt16.le_iff_toNat_le, UInt16.toNat_ofNat_of_lt' (show 0xD800 + (c - 0x10000) / 0x400 < 2 ^ 16 by omega)]
    show 0x80 ≤ 0xD800 + (c - 0x10000) / 0x400
    omega

/-- What is left of a text that was cut behind another: a front of it, and U+FFFD for a sequence that was cut,
which is not ASCII. -/
lemma readText_torn {t s : JsString} (ht : isWellFormed t = true) (hs : isWellFormed s = true) {n : ℕ}
    (hn : n < (utf8 s).length) :
    ∃ front rest torn, s = front ++ rest ∧ rest ≠ [] ∧ (∀ u ∈ torn, u = 0xFFFD) ∧
      (torn ≠ [] → ∀ u ∈ rest.head?, 0x80 ≤ u) ∧
      readText (utf8 t ++ (utf8 s).take n) = t ++ (front ++ torn) := by
  rw [utf8_eq s] at hn ⊢
  obtain ⟨front, c, back, m, hpoints, hm, htake⟩ := take_flatMap_utf8CodePoint hn
  have hscalar := isScalar_codePoints s
  have hc : c < 0x110000 := codePoints_lt s c (by rw [hpoints]; simp)
  rw [hpoints] at hscalar
  have hsplit : s = front.flatMap fromCodePoint ++ (c :: back).flatMap fromCodePoint := by
    rw [← List.flatMap_append, ← hpoints, flatMap_fromCodePoint hs]
  obtain ⟨u, rest, hunit, hforeign⟩ := head_fromCodePoint hc
  have hall : ∀ d ∈ codePoints t ++ front, isScalar d := by
    intro d hd
    rcases List.mem_append.1 hd with hold | hnew
    · exact isScalar_codePoints t d hold
    · exact hscalar d (List.mem_append_left _ hnew)
  have hbytes : utf8 t ++ ((codePoints s).flatMap utf8CodePoint).take n =
      (codePoints t ++ front).flatMap utf8CodePoint ++ (utf8CodePoint c).take m := by
    rw [htake, utf8_eq t, List.flatMap_append, List.append_assoc]
  obtain ⟨fuel, hfuel⟩ : ∃ fuel, (utf8 t ++ ((codePoints s).flatMap utf8CodePoint).take n).length =
      (codePoints t ++ front).length + fuel := by
    have hle := length_flatMap_utf8CodePoint (codePoints t ++ front)
    refine ⟨_, (Nat.add_sub_cancel' ?_).symm⟩
    rw [hbytes]
    exact Nat.le_trans hle (List.sublist_append_left _ _).length_le
  have hcut := decodePoints_cut hc hm fuel
  refine ⟨front.flatMap fromCodePoint, (c :: back).flatMap fromCodePoint,
    (decodePoints fuel ((utf8CodePoint c).take m)).flatMap fromCodePoint, hsplit, ?_, ?_, ?_, ?_⟩
  · rw [List.flatMap_cons, hunit]
    simp
  · intro v hv
    obtain ⟨d, hd, hv⟩ := List.mem_flatMap.1 hv
    rw [hcut.1 d hd] at hv
    exact List.mem_singleton.1 hv
  · intro hne v hv
    rw [List.flatMap_cons, hunit, List.cons_append, List.head?_cons, Option.mem_some_iff] at hv
    rw [← hv]
    apply hforeign
    by_contra hascii
    rw [hcut.2 (Nat.lt_of_not_le hascii)] at hne
    exact hne rfl
  · rw [readText, hfuel, hbytes, decodePoints_append hall, List.flatMap_append, List.flatMap_append,
      flatMap_fromCodePoint ht, List.append_assoc]

end Pherry
