import CharacterTables.Collection.Position

/-!
# Faults of tables

What can go wrong in sizing, building, reading and checking tables of integers.
-/

set_option autoImplicit false

namespace CharacterTables.TwoStage

/-- Why an operation on a table fails. -/
inductive TableFault where
  | emptyTable
  | negativeValue
  | valueTooLarge
  | blockSize (found : Nat) (expected : Int)
  /-- Blocks of size zero cannot be numbered. -/
  | emptyBlocks
  /-- A table cannot be cut into blocks of size zero. -/
  | zeroBlockSize
  | negativeShift
  | lookup (fault : PositionFault)
  /-- Entries are to be repeated more often than a machine word can count. -/
  | repetition
  /-- More entries are asked for than a list may be made with, whatever room memory has. -/
  | outOfMemory
  /-- A number has more digits than numbers may have. -/
  | tooManyDigits
  | emptySplit
  | mismatch (shift given expected : Int) (position : Nat)
  deriving DecidableEq, Repr

def TableFault.message : TableFault → String
  | emptyTable => "cannot size an empty table"
  | negativeValue => "Negative values do not fit unsigned types"
  | valueTooLarge => "Too large to fit into unsigned 32-bit types"
  | blockSize found expected =>
      "block of " ++ toString found ++ " values for block size " ++ toString expected
  | emptyBlocks => "integer division or modulo by zero"
  | zeroBlockSize => "range() arg 3 must not be zero"
  | negativeShift => "negative shift count"
  | lookup fault => fault.lookupMessage
  | repetition => notWordMessage
  | outOfMemory => ""
  | tooManyDigits => "too many digits in integer"
  | emptySplit => "cannot split an empty table"
  | mismatch shift given expected position =>
      "split at shift " ++ toString shift ++ " gives " ++ toString given ++ " instead of " ++
        toString expected ++ " at " ++ toString position

end CharacterTables.TwoStage
