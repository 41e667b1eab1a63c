import Mathlib.Data.List.Basic

/-!
# Reading a command line

How a program tells the arguments it is given apart: an argument is an option, the value of the
option in front of it, an operand, or the mark after which there are only operands.
-/

namespace Pherry.Lib

variable {α : Type*}

/-- The conventions of a program: which arguments look like options, which one ends the options,
and which option takes the argument behind it as its value. -/
structure CommandLine (α : Type*) where
  isOption : α → Bool
  isEnd : α → Bool
  takes : α → α → Bool

/-- What an argument is read as. -/
inductive Reading (α : Type*)
  | option (name : α)
  | value (name text : α)
  | operand (text : α)
  | endOfOptions

/-- The option a reading is. -/
def Reading.name? : Reading α → Option α
  | option name => some name
  | _ => none

/-- The data a reading is: the value of an option, or an operand. -/
def Reading.text? : Reading α → Option α
  | value _ text => some text
  | operand text => some text
  | _ => none

namespace CommandLine

variable (c : CommandLine α)

/-- Read the arguments in order. -/
def read : List α → List (Reading α)
  | [] => []
  | [x] =>
    if c.isEnd x then [.endOfOptions]
    else if c.isOption x then [.option x]
    else [.operand x]
  | x :: y :: rest =>
    if c.isEnd x then .endOfOptions :: (y :: rest).map .operand
    else if c.isOption x then
      if c.takes x y then .option x :: .value x y :: read rest else .option x :: read (y :: rest)
    else .operand x :: read (y :: rest)

/-- The arguments that are read as options. -/
def options (args : List α) : List α := (c.read args).filterMap Reading.name?

/-- The arguments that are read as data. -/
def data (args : List α) : List α := (c.read args).filterMap Reading.text?

variable {c}

lemma read_cons_operand {x : α} (hend : c.isEnd x = false) (hoption : c.isOption x = false)
    (rest : List α) : c.read (x :: rest) = .operand x :: c.read rest := by
  cases rest with
  | nil => simp [read, hend, hoption]
  | cons y rest => simp [read, hend, hoption]

/-- Behind an option, an argument that does not look like one is data, whether the option takes it
or not. -/
lemma read_pair {x y : α} (hend : c.isEnd x = false) (hoption : c.isOption x = true)
    (hend' : c.isEnd y = false) (hplain : c.isOption y = false) (rest : List α) :
    c.read (x :: y :: rest) = .option x :: .value x y :: c.read rest ∨
      c.read (x :: y :: rest) = .option x :: .operand y :: c.read rest := by
  rw [read, if_neg (by simp [hend]), if_pos hoption]
  by_cases htakes : c.takes x y = true
  · rw [if_pos htakes]
    exact .inl rfl
  · rw [if_neg htakes, read_cons_operand hend' hplain]
    exact .inr rfl

lemma options_pair {x y : α} (hend : c.isEnd x = false) (hoption : c.isOption x = true)
    (hend' : c.isEnd y = false) (hplain : c.isOption y = false) (rest : List α) :
    c.options (x :: y :: rest) = x :: c.options rest := by
  rcases read_pair hend hoption hend' hplain rest with h | h
  · rw [options, h]
    rfl
  · rw [options, h]
    rfl

lemma data_pair {x y : α} (hend : c.isEnd x = false) (hoption : c.isOption x = true)
    (hend' : c.isEnd y = false) (hplain : c.isOption y = false) (rest : List α) :
    c.data (x :: y :: rest) = y :: c.data rest := by
  rcases read_pair hend hoption hend' hplain rest with h | h
  · rw [data, h]
    rfl
  · rw [data, h]
    rfl

/-- A last argument is data exactly when it neither looks like an option nor ends them. -/
lemma data_singleton_iff (x : α) :
    (c.options [x] = [] ∧ c.data [x] = [x]) ↔ c.isEnd x = false ∧ c.isOption x = false := by
  rw [options, data, read]
  by_cases hend : c.isEnd x = true
  · rw [if_pos hend]
    simp [hend, List.filterMap_cons, Reading.name?, Reading.text?]
  · rw [if_neg hend]
    by_cases hoption : c.isOption x = true
    · rw [if_pos hoption]
      simp [hoption, List.filterMap_cons, Reading.name?]
    · rw [if_neg hoption]
      simp [hend, hoption, List.filterMap_cons, Reading.name?, Reading.text?]

/-- A last argument behind an option is data exactly when the option takes it, or it neither looks
like an option nor ends them. -/
lemma data_pair_iff {x : α} (hend : c.isEnd x = false) (hoption : c.isOption x = true) (y : α) :
    (c.options [x, y] = [x] ∧ c.data [x, y] = [y]) ↔
      c.takes x y = true ∨ (c.isEnd y = false ∧ c.isOption y = false) := by
  by_cases htakes : c.takes x y = true
  · have hread : c.read [x, y] = [.option x, .value x y] := by
      simp [read, hend, hoption, htakes]
    rw [options, data, hread]
    simp [htakes, List.filterMap_cons, Reading.name?, Reading.text?]
  · have hread : c.read [x, y] = .option x :: c.read [y] := by
      simp only [read, hend, hoption, htakes, if_true, if_false, Bool.false_eq_true]
    have hsplit : (c.options [x, y] = [x] ∧ c.data [x, y] = [y]) ↔
        (c.options [y] = [] ∧ c.data [y] = [y]) := by
      rw [options, data, hread]
      simp [options, data, List.filterMap_cons, Reading.name?, Reading.text?]
    rw [hsplit, data_singleton_iff]
    simp [htakes]

end CommandLine

end Pherry.Lib
