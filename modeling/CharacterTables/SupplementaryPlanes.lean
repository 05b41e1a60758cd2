import Std.Data.TreeMap.Lemmas
import CharacterTables.Character.Code
import CharacterTables.PropertySets
import CharacterTables.Registry

/-!
# The supplementary planes

Characters outside the basic plane are few enough in each respect for sparse maps and
sets. Case mappings must not lead into the basic plane, and none of the characters may be a
space separator, because spaces are only looked for in the basic plane.
-/

set_option autoImplicit false

namespace CharacterTables

/-- What is recorded about characters outside the basic plane. The case maps leave out
characters that map to themselves. -/
structure SupplementaryPlanes where
  lowercase : Std.TreeMap Int Int
  uppercase : Std.TreeMap Int Int
  spaces : CodeSet
  idStart : CodeSet
  idContinue : CodeSet

namespace SupplementaryPlanes

def empty : SupplementaryPlanes :=
  { lowercase := ∅, uppercase := ∅, spaces := ∅, idStart := ∅, idContinue := ∅ }

/-- Notes where a code maps to, unless it maps to itself. A mapping into the basic plane is
a fault. -/
def insertMapping (map : Std.TreeMap Int Int) (code mapping : Int) (fault : ShapeFault) :
    Except Failure (Std.TreeMap Int Int) :=
  if mapping = code then .ok map
  else if Code.maxBasic < mapping then .ok (map.insert code mapping)
  else .error (.shape fault)

def insertIf (set : CodeSet) (code : Int) (condition : Bool) : CodeSet :=
  if condition then set.insert code else set

/-- Records a character. Basic characters are passed over. -/
def insert (sets : PropertySets) (planes : SupplementaryPlanes) (character : CharacterRecord) :
    Except Failure SupplementaryPlanes :=
  let code := character.code
  if code ≤ Code.maxBasic then .ok planes
  else do
    let lowercase ← insertMapping planes.lowercase code character.lowercase
      (.basicLowercase code character.lowercase)
    let uppercase ← insertMapping planes.uppercase code character.uppercase
      (.basicUppercase code character.uppercase)
    return {
      lowercase
      uppercase
      spaces := insertIf planes.spaces code (character.category == Code.spaceCategory)
      idStart := insertIf planes.idStart code (sets.idStart.contains code)
      idContinue := insertIf planes.idContinue code (sets.idContinue.contains code) }

def ofRegistry (registry : Registry) (sets : PropertySets) :
    Except Failure SupplementaryPlanes := do
  let planes ← registry.toList.foldlM (insert sets) empty
  if planes.spaces.isEmpty then return planes
  else throw (.shape (.supplementarySpaces planes.spaces.toList))

end SupplementaryPlanes

end CharacterTables
