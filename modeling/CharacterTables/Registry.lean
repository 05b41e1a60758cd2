import CharacterTables.Collection.OrderedMap
import CharacterTables.Corpus.CharacterRecord
import CharacterTables.Failure

/-!
# The character registry

Every assigned character, found by its code and listed in the order of the data file. A
code that the file lists again keeps its place and takes the new record.
-/

set_option autoImplicit false

namespace CharacterTables

/-- The assigned characters by code. -/
structure Registry where
  characters : OrderedMap Int CharacterRecord

namespace Registry

def empty : Registry := ⟨OrderedMap.empty⟩

/-- Adds a character, in the place of an earlier one with its code if there is one. -/
def insert (registry : Registry) (character : CharacterRecord) : Registry :=
  ⟨registry.characters.insert character.code character⟩

def ofRecords (characters : List CharacterRecord) : Registry :=
  characters.foldl insert empty

def ofText (text : List Char) : Except Failure Registry :=
  match (readCharacters text).complete with
  | .ok characters => .ok (ofRecords characters)
  | .error fault => .error (.read fault)

def get? (registry : Registry) (code : Int) : Option CharacterRecord :=
  registry.characters.get? code

def contains (registry : Registry) (code : Int) : Bool :=
  registry.characters.contains code

def size (registry : Registry) : Nat :=
  registry.characters.size

def codes (registry : Registry) : List Int :=
  registry.characters.keys.toList

def toList (registry : Registry) : List CharacterRecord :=
  registry.characters.toList.map Prod.snd

def get (registry : Registry) (code : Int) : Except Failure CharacterRecord :=
  match registry.get? code with
  | some character => .ok character
  | none => .error (.missing code)

def name (registry : Registry) (code : Int) : Except Failure String := do
  let character ← registry.get code
  if character.formerName.isEmpty then return character.name
  else return character.name ++ " (" ++ character.formerName ++ ")"

def fullName (registry : Registry) (code : Int) : Except Failure String := do
  let name ← registry.name code
  return Text.codeName code ++ " " ++ name

end Registry

end CharacterTables
