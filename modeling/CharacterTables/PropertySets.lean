import Std.Data.TreeSet.Lemmas
import CharacterTables.Corpus.DerivedProperty
import CharacterTables.Failure

/-!
# Identifier properties

The sets of characters that may start and continue identifiers, from the file of derived
properties, and the version that this file states for the whole database.
-/

set_option autoImplicit false

namespace CharacterTables

abbrev CodeSet := Std.TreeSet Int

/-- The characters that may start, and those that may continue, an identifier. -/
structure PropertySets where
  idStart : CodeSet
  idContinue : CodeSet

namespace PropertySets

def empty : PropertySets := { idStart := ∅, idContinue := ∅ }

/-- Notes a property of a character; properties other than the two are passed over. -/
def insert (sets : PropertySets) (record : PropertyRecord) : PropertySets :=
  if record.property = "ID_Start" then { sets with idStart := sets.idStart.insert record.code }
  else if record.property = "ID_Continue" then
    { sets with idContinue := sets.idContinue.insert record.code }
  else sets

def ofRecords (records : List PropertyRecord) : PropertySets :=
  records.foldl insert empty

def ofText (text : List Char) : Except Failure PropertySets :=
  match (readProperties text).complete with
  | .ok records => .ok (ofRecords records)
  | .error fault => .error (.read fault)

end PropertySets

def versionOpening : List Char := "# DerivedCoreProperties-".toList

def versionClosing : List Char := ".txt".toList

/-- The version of the database, between the opening and the closing of the first line of
the derived properties. Only a line feed ends this line. -/
def databaseVersion (text : List Char) : Except Failure String :=
  let line := Text.trim (text.takeWhile (· != '\n'))
  if versionOpening.isPrefixOf line && versionClosing.isSuffixOf line then
    .ok (String.ofList ((line.drop versionOpening.length).take
      (line.length - versionOpening.length - versionClosing.length)))
  else .error (.shape (.noVersion line))

end CharacterTables
