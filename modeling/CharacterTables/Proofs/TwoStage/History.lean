import Mathlib
import CharacterTables.Proofs.TwoStage.Contents

/-!
# Histories of a builder

Whatever is done to a builder, its stages stand for what it was given: the blocks that the
first stage names are, in order, the blocks and tables taken so far. A block may be stored
without being named, and a block that stems from filling up a table is shared with an equal
one that was given whole.
-/

set_option autoImplicit false

namespace CharacterTables.TwoStage

/-! ## Steps and what they contribute -/

/-- What is done to a builder at a time: it is given a block as often as a count says, or a
whole table. -/
inductive Step where
  | block (entries : List Int) (count : Int)
  | table (entries : Array Int)

namespace Step

/-- The blocks that a step makes known to a builder, in order. A block of the right size
becomes known even if no list can hold its repetitions. -/
def stored (size : Nat) : Step → List (List Int)
  | block entries _ => if entries.length = size then [entries] else []
  | table entries => if Fillable entries size then blocksOf entries size else []

/-- The blocks that a step makes a builder name, in order. -/
def listed (size : Nat) : Step → List (List Int)
  | block entries count =>
      if entries.length = size ∧ Repeatable count then List.replicate count.toNat entries
      else []
  | table entries => if Fillable entries size then blocksOf entries size else []

/-- The entries that a step contributes: the repetitions of its block, or its table with the
zeros that fill it up. -/
def content (size : Nat) : Step → List Int
  | block entries count =>
      if entries.length = size ∧ Repeatable count then
        (List.replicate count.toNat entries).flatten
      else []
  | table entries => if Fillable entries size then padded entries size else []

theorem flatten_listed (step : Step) {size : Nat} (positive : 0 < size) :
    (step.listed size).flatten = step.content size := by
  cases step with
  | block entries count =>
      by_cases taken : entries.length = size ∧ Repeatable count
      · simp only [listed, content, if_pos taken]
      · simp only [listed, content, if_neg taken, List.flatten_nil]
  | table entries =>
      by_cases room : Fillable entries size
      · simp only [listed, content, if_pos room, flatten_blocksOf entries positive]
      · simp only [listed, content, if_neg room, List.flatten_nil]

theorem flatten_flatMap_listed (steps : List Step) {size : Nat} (positive : 0 < size) :
    (steps.flatMap (listed size)).flatten = steps.flatMap (content size) := by
  induction steps with
  | nil => rfl
  | cons step rest ih =>
      rw [List.flatMap_cons, List.flatMap_cons, List.flatten_append, ih,
        step.flatten_listed positive]

end Step

/-! ## Runs -/

namespace Builder

/-- The builder after a step, and how the step ends. A table that cannot be taken leaves the
builder as it was. -/
def step (builder : Builder) : Step → Builder × Except TableFault Unit
  | .block entries count => builder.addBlock entries count
  | .table entries =>
      match builder.addTable entries with
      | .ok next => (next, .ok ())
      | .error fault => (builder, .error fault)

/-- The builder after some steps. -/
def run (builder : Builder) (steps : List Step) : Builder :=
  steps.foldl (fun builder step => (builder.step step).1) builder

variable {builder : Builder} {size : Nat} {stored listed : List (List Int)}

theorem Holds.addBlock (holds : builder.Holds size stored listed) (positive : 0 < size)
    {block : List Int} (fits : block.length = size) (count : Int) :
    (builder.addBlock block count).2 = checkRepetition count ∧
      (builder.addBlock block count).1.Holds size (stored ++ [block])
        (listed ++ if Repeatable count then List.replicate count.toNat block else []) := by
  obtain ⟨middle, done, held⟩ := holds.store positive fits
  unfold Builder.addBlock
  rw [done]
  cases checked : checkRepetition count with
  | error fault =>
      have full : ¬ Repeatable count := by
        intro room
        rw [checkRepetition_eq_ok_iff.mpr room] at checked
        cases checked
      refine ⟨rfl, ?_⟩
      rw [if_neg full, List.append_nil]
      exact held
  | ok =>
      have room : Repeatable count := checkRepetition_eq_ok_iff.mp checked
      refine ⟨rfl, ?_⟩
      rw [if_pos room]
      exact held.list (List.mem_append_right _ (List.mem_singleton_self block)) count

theorem Holds.addBlock_of_length_ne (holds : builder.Holds size stored listed)
    {block : List Int} (misfit : block.length ≠ size) (count : Int) :
    builder.addBlock block count = (builder, .error (.blockSize block.length size)) := by
  have different : (block.length : Int) ≠ builder.blockSize := by
    rw [holds.blockSize]
    omega
  unfold Builder.addBlock
  rw [store_of_length_ne different, holds.blockSize]

/-- One step appends what it contributes. -/
theorem Holds.step (holds : builder.Holds size stored listed) (positive : 0 < size)
    (step : Step) :
    (builder.step step).1.Holds size (stored ++ step.stored size)
      (listed ++ step.listed size) := by
  cases step with
  | block entries count =>
      by_cases fits : entries.length = size
      · simpa only [Builder.step, Step.stored, Step.listed, fits, true_and, if_true] using
          (holds.addBlock positive fits count).2
      · simpa only [Builder.step, Step.stored, Step.listed, fits, false_and, if_false,
          List.append_nil, holds.addBlock_of_length_ne fits count] using holds
  | table entries =>
      by_cases room : Fillable entries size
      · obtain ⟨next, taken, held⟩ := holds.addTable positive room
        simpa only [Builder.step, Step.stored, Step.listed, if_pos room, taken] using held
      · obtain ⟨fault, refused⟩ := holds.addTable_of_not_fillable positive room
        simpa only [Builder.step, Step.stored, Step.listed, if_neg room, List.append_nil,
          refused] using holds

/-- Steps one after another append what they contribute. -/
theorem Holds.run (holds : builder.Holds size stored listed) (positive : 0 < size)
    (steps : List Step) :
    (builder.run steps).Holds size (stored ++ steps.flatMap (Step.stored size))
      (listed ++ steps.flatMap (Step.listed size)) := by
  induction steps generalizing builder stored listed with
  | nil => simpa [Builder.run] using holds
  | cons step rest ih =>
      have next := ih (holds.step positive step)
      rw [List.flatMap_cons, List.flatMap_cons, ← List.append_assoc, ← List.append_assoc]
      exact next

/-! ## What the stages stand for -/

end Builder

end CharacterTables.TwoStage
