import CharacterTables.Corpus.Reading

/-!
# Character records

The file of characters gives each assigned code its name, general category, former name
and simple case mappings. A line describes one code, or two lines together a range whose
codes share everything else.
-/

set_option autoImplicit false

namespace CharacterTables

open Text

/-- An assigned character. The case mappings of a character without another case are the
character itself. -/
structure CharacterRecord where
  code : Int
  name : String
  category : String
  formerName : String
  uppercase : Int
  lowercase : Int
  deriving DecidableEq, Repr

/-- What a line says about each of its codes. An absent case mapping leads each code to
itself. -/
structure CharacterTraits where
  name : List Char
  category : List Char
  formerName : List Char
  uppercase : Option Int
  lowercase : Option Int
  deriving DecidableEq, Repr

namespace CharacterTraits

def record (traits : CharacterTraits) (code : Int) : CharacterRecord where
  code := code
  name := String.ofList traits.name
  category := String.ofList traits.category
  formerName := String.ofList traits.formerName
  uppercase := traits.uppercase.getD code
  lowercase := traits.lowercase.getD code

def opensRange (traits : CharacterTraits) : Bool :=
  "<".toList.isPrefixOf traits.name && "First>".toList.isSuffixOf traits.name

/-- The traits that the codes of a range share: the name loses its opening bracket and
the eight characters that mark a first line. -/
def ofRange (traits : CharacterTraits) : CharacterTraits :=
  { traits with name := (traits.name.drop 1).take (traits.name.length - 9) }

end CharacterTraits

/-- A case mapping; an empty field is none. -/
def readCaseMapping (field : List Char) : Except LineFault (Option Int) :=
  if field.isEmpty then .ok none else (readCode field).map some

/-- A line of the file of characters: fifteen fields, of which the first is the code. -/
def readCharacter (line : Line) : Except LineFault (Int × CharacterTraits) :=
  match line.fields with
  | [code, name, category, _, _, _, _, _, _, _, formerName, _, uppercase, lowercase, _] => do
      let code ← readCode code
      let uppercase ← readCaseMapping uppercase
      let lowercase ← readCaseMapping lowercase
      return (code, { name, category, formerName, uppercase, lowercase })
  | fields => .error (.fieldCount [15] fields.length)

/-- The last code of a range that begins with `first`, from its second line. Of the other
fields only the name is looked at, and of the name only its end. -/
def readRangeEnd (first : Int) (line : Line) : Except LineFault Int :=
  match line.fields with
  | [code, name, _, _, _, _, _, _, _, _, _, _, _, _, _] =>
      if "Last>".toList.isSuffixOf name then do
        let last ← readCode code
        if last < first then .error .backwardRange else return last
      else .error .notLastLine
  | fields => .error (.fieldCount [15] fields.length)

/-- Reads lines with data, behind runs already found (last first). -/
def readCharacterLines : List Line → List (Run CharacterRecord) → Reading CharacterRecord
  | [], found => { runs := found.reverse, stop := none }
  | line :: rest, found =>
      match readCharacter line with
      | .error cause =>
          { runs := found.reverse, stop := some (line.fault .characters cause) }
      | .ok (code, traits) =>
          if traits.opensRange then
            match rest with
            | [] =>
                { runs := found.reverse, stop := some (line.fault .characters .unclosedRange) }
            | closing :: rest =>
                match readRangeEnd code closing with
                | .error cause =>
                    { runs := found.reverse, stop := some (closing.fault .characters cause) }
                | .ok last =>
                    readCharacterLines rest
                      (Run.between code last traits.ofRange.record :: found)
          else readCharacterLines rest (Run.single (traits.record code) :: found)

def readCharacters (text : List Char) : Reading CharacterRecord :=
  readCharacterLines (dataLines text) []

end CharacterTables
