import CharacterTables.TwoStage.TableFault

/-!
# Capacity

How often an entry may be repeated at once and how far shifts may go. These are bounds of the
formats in which lists and numbers are kept, the same for every amount of memory. Memory itself is
taken to suffice, also for lists that grow step by step.
-/

set_option autoImplicit false

namespace CharacterTables.TwoStage

/-- How many entries a list may be made with. Each takes eight bytes, and a machine word counts the
bytes of them all. -/
def maxEntries : Int := (wordLimit - 1) / 8

def checkRepetition (count : Int) : Except TableFault Unit :=
  if !isWord count then .error .repetition
  else if maxEntries < count then .error .outOfMemory
  else .ok ()

/-- The last shift for which there is a number of so many binary digits. A number is kept in words
of 30 digits, four bytes each behind the first 24 bytes, and a machine word counts the bytes of
them all. -/
def maxShift : Int := 69175290276410818320

def checkShift (shift : Int) : Except TableFault Unit :=
  if shift < 0 then .error .negativeShift
  else if maxShift < shift then .error .tooManyDigits
  else .ok ()

/-- How many binary digits a number has, its sign aside. -/
def bitLength (value : Int) : Nat :=
  if value = 0 then 0 else value.natAbs.log2 + 1

def wordBits : Nat := 64

/-- As much of a shift as makes a difference to an index. The digits of the index are all
gone after that many, and the position that a further shift leads to is no machine word. -/
def shiftFor (index : Int) (shift : Nat) : Nat :=
  min shift (max wordBits (bitLength index) + 1)

/-- How many entries a block has at a given shift: two to the power of the shift. -/
def blockLength (shift : Nat) : Nat := 1 <<< shift

end CharacterTables.TwoStage
