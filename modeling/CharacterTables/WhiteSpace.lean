import CharacterTables.Character.Code
import CharacterTables.PropertySets
import CharacterTables.Registry

/-!
# White space

The assigned characters that the lexical grammar takes for white space or line
terminators. All of them have to be basic characters.
-/

set_option autoImplicit false

namespace CharacterTables

def insertWhiteSpace (spaces : CodeSet) (character : CharacterRecord) :
    Except Failure CodeSet :=
  if Code.isSpace character.code character.category then
    if character.code ≤ Code.maxBasic then .ok (spaces.insert character.code)
    else .error (.shape (.supplementaryWhiteSpace character.code))
  else .ok spaces

def whiteSpace (registry : Registry) : Except Failure CodeSet :=
  registry.toList.foldlM insertWhiteSpace ∅

end CharacterTables
