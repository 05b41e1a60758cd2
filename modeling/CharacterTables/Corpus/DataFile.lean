/-!
# The data files

The four files of the character database that the tables are compiled from.
-/

set_option autoImplicit false

namespace CharacterTables

/-- A data file, named for what it lists. -/
inductive DataFile where
  | characters
  | properties
  | foldings
  | specialCasings
  deriving DecidableEq, Repr

namespace DataFile

def name : DataFile → String
  | characters => "UnicodeData.txt"
  | properties => "DerivedCoreProperties.txt"
  | foldings => "CaseFolding.txt"
  | specialCasings => "SpecialCasing.txt"

def all : List DataFile := [characters, properties, foldings, specialCasings]

def ofName? (text : String) : Option DataFile :=
  all.find? fun file => file.name == text

theorem ofName?_name (file : DataFile) : ofName? file.name = some file := by
  cases file <;> decide

end DataFile

end CharacterTables
