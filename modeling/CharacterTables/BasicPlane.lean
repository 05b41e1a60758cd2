import CharacterTables.Character.CharacterInfo
import CharacterTables.Collection.Catalog
import CharacterTables.PropertySets
import CharacterTables.Registry

/-!
# The basic plane

The characters of the basic plane are compiled into a table of their distinct infos and,
for every code, the position of its info in that table. Unassigned codes have position
zero, where the blank info stands.
-/

set_option autoImplicit false

namespace CharacterTables

/-- The flags of a character: whether it is a space, and whether it may start an identifier
or, failing that, continue one. -/
def characterFlags (sets : PropertySets) (code : Int) (category : String) : Flags :=
  let spacing := Flags.none.setIf .space (Code.isSpace code category)
  if sets.idStart.contains code then spacing.set .identifierStart
  else
    spacing.setIf .identifierContinueOnly
      (sets.idContinue.contains code || Code.identifierJoiners.contains code)

def characterInfo (sets : PropertySets) (character : CharacterRecord) : CharacterInfo where
  lower := CaseDelta.between character.code character.lowercase
  upper := CaseDelta.between character.code character.uppercase
  flags := characterFlags sets character.code character.category

/-- The distinct infos of basic characters, numbered in the order of their first use, and
the numbers of those codes whose info is listed. -/
structure BasicPlane where
  infos : Catalog CharacterInfo
  numbers : Std.TreeMap Nat Nat

namespace BasicPlane

/-- The plane before any character: the blank info and no codes. -/
def blank : BasicPlane :=
  { infos := (Catalog.empty.intern CharacterInfo.blank).2, numbers := ∅ }

/-- Lists a character. Characters of other planes are passed over; a negative code counts
from the end of the plane. -/
def insert (sets : PropertySets) (plane : BasicPlane) (character : CharacterRecord) :
    Except Failure BasicPlane :=
  if Code.maxBasic < character.code then .ok plane
  else if character.lowercase ≤ Code.maxBasic ∧ character.uppercase ≤ Code.maxBasic then
    match placeOf Code.basicCount character.code with
    | .error fault => .error (.store fault)
    | .ok place =>
        let (number, infos) := plane.infos.intern (characterInfo sets character)
        .ok { infos, numbers := plane.numbers.insert place number }
  else .error (.shape (.mappingLeavesPlane character.code))

def ofRegistry (registry : Registry) (sets : PropertySets) : Except Failure BasicPlane :=
  registry.toList.foldlM (insert sets) blank

def number (plane : BasicPlane) (place : Nat) : Nat :=
  plane.numbers.getD place 0

def index (plane : BasicPlane) : Array Int :=
  (Array.range Code.basicCount).map fun place => (plane.number place : Int)

def infoAt (plane : BasicPlane) (place : Nat) : CharacterInfo :=
  plane.infos.entries.getD (plane.number place) CharacterInfo.blank

/-- The info of a code. A negative code counts from the end of the plane. -/
def info (plane : BasicPlane) (code : Int) : Except Failure CharacterInfo :=
  match placeOf Code.basicCount code with
  | .ok place => .ok (plane.infoAt place)
  | .error fault => .error (.lookup fault)

def cased (plane : BasicPlane) (code : Int) : Except Failure CasedCharacter := do
  let info ← plane.info code
  return info.apply code

end BasicPlane

end CharacterTables
