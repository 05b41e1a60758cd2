import CharacterTables.TwoStage.Builder

/-!
# The smallest split

A table is split with every useful block size, and the split that takes the fewest bytes is
kept. Among equals the smallest blocks win.
-/

set_option autoImplicit false

namespace CharacterTables.TwoStage

/-- The largest shift worth trying for a table of a given length: with one more, a single
block would hold the whole table. -/
def maximumShift (length : Int) : Except TableFault Nat :=
  if length < 1 then .error .emptySplit
  else .ok (bitLength (length - 1) - 1)

/-- The builder that has taken a table in blocks of `2 ^ shift` entries, and the bytes that
it takes. -/
def candidate (table : Array Int) (shift : Nat) : Except TableFault (Builder × Nat) := do
  let builder ← (Builder.empty (blockLength shift)).addTable table
  let bytes ← builder.byteSize
  return (builder, bytes)

/-- The better of the best candidate so far and a later one, which has to be smaller. -/
def better (best later : Builder × Nat) : Builder × Nat :=
  if later.2 < best.2 then later else best

/-- The best candidate for the shifts listed, after those already tried. -/
def bestCandidate (table : Array Int) (best : Builder × Nat) :
    List Nat → Except TableFault (Builder × Nat)
  | [] => .ok best
  | shift :: rest => do
      let later ← candidate table shift
      bestCandidate table (better best later) rest

/-- A split of a table, the bytes that it takes, and those that the table takes whole. -/
structure Found where
  split : Split
  bytes : Nat
  unsplitBytes : Nat
  deriving DecidableEq, Repr

def Found.report (found : Found) : List String :=
  ["Best: " ++ toString found.split.index1.size ++ "+" ++ toString found.split.index2.size ++
      " bins at shift " ++ toString found.split.shift ++ "; " ++ toString found.bytes ++
      " bytes",
    "Size of original table: " ++ toString found.unsplitBytes ++ " bytes"]

def search (table : Array Int) : Except TableFault Found := do
  let maximum ← maximumShift table.size
  let unsplitBytes ← tableBytes table
  let first ← candidate table 0
  let (builder, bytes) ← bestCandidate table first (List.range' 1 maximum)
  let split ← builder.toSplit
  return { split, bytes, unsplitBytes }

end CharacterTables.TwoStage
