import CharacterTables.Collection.Catalog
import CharacterTables.TwoStage.Split

/-!
# Building the two stages

A builder takes a table block by block. Equal blocks are stored once, under the number of
their first appearance, and the first stage lists the numbers of all blocks taken.
-/

set_option autoImplicit false

namespace CharacterTables.TwoStage

/-- Distinct blocks in the order of their first appearance, and the numbers of the blocks
taken. -/
structure Builder where
  blockSize : Int
  blocks : Catalog (List Int)
  stage1 : Array Int

namespace Builder

def empty (blockSize : Int) : Builder :=
  { blockSize, blocks := Catalog.empty, stage1 := #[] }

/-- The distinct blocks behind one another. -/
def stage2 (builder : Builder) : Array Int :=
  builder.blocks.entries.foldl (fun found block => found ++ block.toArray) #[]

/-- Stores a block, unless an equal one is stored already, and gives its number. -/
def store (builder : Builder) (block : List Int) : Except TableFault (Nat × Builder) :=
  if (block.length : Int) ≠ builder.blockSize then
    .error (.blockSize block.length builder.blockSize)
  else if builder.blockSize = 0 then .error .emptyBlocks
  else
    let (number, blocks) := builder.blocks.intern block
    .ok (number, { builder with blocks })

/-- Lists the number of a block as often as `count` says; not at all for a count below
one. -/
def list (builder : Builder) (number : Nat) (count : Int) : Builder :=
  { builder with stage1 := builder.stage1 ++ Array.replicate count.toNat (number : Int) }

/-- Takes a block as often as `count` says. The block is stored whatever the count; a count
that is too large for a list is a fault that leaves it stored. -/
def addBlock (builder : Builder) (block : List Int) (count : Int) :
    Builder × Except TableFault Unit :=
  match builder.store block with
  | .error fault => (builder, .error fault)
  | .ok (number, builder) =>
      match checkRepetition count with
      | .ok () => (builder.list number count, .ok ())
      | .error fault => (builder, .error fault)

def push (builder : Builder) (block : List Int) : Except TableFault Builder := do
  let (number, builder) ← builder.store block
  return builder.list number 1

/-- The block of a table with a given number. Behind the end of the table stand zeros. -/
def blockOf (table : Array Int) (size number : Nat) : List Int :=
  (List.range size).map fun offset => table.getD (number * size + offset) 0

/-- Takes a whole table, its last block filled up with zeros. Blocks of negative size cover
nothing of it; blocks so large that no list can hold the zeros are a fault. -/
def addTable (builder : Builder) (table : Array Int) : Except TableFault Builder :=
  if builder.blockSize = 0 then .error .zeroBlockSize
  else if builder.blockSize < 0 || table.isEmpty then .ok builder
  else do
    checkRepetition (max 0 (builder.blockSize - table.size))
    let size := builder.blockSize.toNat
    (List.range ((table.size + size - 1) / size)).foldlM
      (fun builder number => builder.push (blockOf table size number)) builder

/-- The bytes that both stages take with the narrowest elements. -/
def byteSize (builder : Builder) : Except TableFault Nat := do
  let bytes1 ← tableBytes builder.stage1
  let bytes2 ← tableBytes builder.stage2
  return bytes1 + bytes2

/-- The stages as a split, with the element types that the stages have now. -/
def toSplit (builder : Builder) : Except TableFault Split :=
  Split.ofStages builder.stage1 builder.stage2 ((bitLength builder.blockSize : Int) - 1)

/-- A split taken from this builder earlier, as it stands now: it shows the blocks that the
builder has taken since, and keeps its shift and element types. -/
def follow (builder : Builder) (split : Split) : Split :=
  { split with index1 := builder.stage1, index2 := builder.stage2 }

end Builder

end CharacterTables.TwoStage
