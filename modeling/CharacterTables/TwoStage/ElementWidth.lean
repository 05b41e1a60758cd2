import CharacterTables.TwoStage.TableFault

/-!
# Element widths

The unsigned integer types that table elements may have, and the narrowest of them that
holds every entry of a table.
-/

set_option autoImplicit false

namespace CharacterTables.TwoStage

/-- An unsigned element type. -/
inductive ElementWidth where
  | u8
  | u16
  | u32
  deriving DecidableEq, Repr

namespace ElementWidth

def name : ElementWidth → String
  | u8 => "U8"
  | u16 => "U16"
  | u32 => "U32"

def typeName : ElementWidth → String
  | u8 => "uint8_t"
  | u16 => "uint16_t"
  | u32 => "uint32_t"

def size : ElementWidth → Nat
  | u8 => 1
  | u16 => 2
  | u32 => 4

def limit : ElementWidth → Int
  | u8 => 0xFF
  | u16 => 0xFFFF
  | u32 => 0xFFFFFFFF

def ofGreatest (greatest : Int) : Except TableFault ElementWidth :=
  if greatest ≤ u8.limit then .ok u8
  else if greatest ≤ u16.limit then .ok u16
  else if greatest ≤ u32.limit then .ok u32
  else .error .valueTooLarge

/-- The narrowest element type for every entry of a table. A negative entry is reported
before one that is too large. -/
def ofEntries (entries : Array Int) : Except TableFault ElementWidth :=
  if entries.isEmpty then .error .emptyTable
  else if entries.any (· < 0) then .error .negativeValue
  else ofGreatest (entries.foldl max 0)

end ElementWidth

def tableBytes (entries : Array Int) : Except TableFault Nat := do
  let width ← ElementWidth.ofEntries entries
  return entries.size * width.size

end CharacterTables.TwoStage
