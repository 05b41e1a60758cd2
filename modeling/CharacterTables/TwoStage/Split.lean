import CharacterTables.TwoStage.Capacity
import CharacterTables.TwoStage.ElementWidth

/-!
# Tables in two stages

A long table is stored as a first stage of block numbers and a second stage of blocks. An
index is divided by the block size: the quotient selects a block number, the remainder an
entry of that block.
-/

set_option autoImplicit false

namespace CharacterTables.TwoStage

/-- A table in two stages, with blocks of `2 ^ shift` entries and an element type for each
stage. -/
structure Split where
  index1 : Array Int
  index2 : Array Int
  shift : Int
  width1 : ElementWidth
  width2 : ElementWidth
  deriving DecidableEq, Repr

namespace Split

def ofStages (index1 index2 : Array Int) (shift : Int) : Except TableFault Split := do
  let width1 ← ElementWidth.ofEntries index1
  let width2 ← ElementWidth.ofEntries index2
  return { index1, index2, shift, width1, width2 }

/-- The entry of the table at an index. Positions in both stages may count from the
end. -/
def lookup (split : Split) (index : Int) : Except TableFault Int := do
  checkShift split.shift
  let length : Int := blockLength (shiftFor index split.shift.toNat)
  (do
    let block ← entryAt split.index1 (index / length)
    entryAt split.index2 (block * length + index % length)).mapError .lookup

def byteSize (split : Split) : Nat :=
  split.index1.size * split.width1.size + split.index2.size * split.width2.size

/-- Compares a split with the entries of a table from a position on. -/
def verifyFrom (split : Split) (position : Nat) : List Int → Except TableFault Unit
  | [] => .ok ()
  | expected :: rest =>
      match split.lookup position with
      | .error fault => .error fault
      | .ok given =>
          if given = expected then verifyFrom split (position + 1) rest
          else .error (.mismatch split.shift given expected position)

/-- Checks that a split gives every entry of a table; the fault is that of the first index
where it does not. -/
def verify (split : Split) (table : Array Int) : Except TableFault Unit :=
  split.verifyFrom 0 table.toList

end Split

end CharacterTables.TwoStage
