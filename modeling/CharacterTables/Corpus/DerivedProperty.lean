import CharacterTables.Corpus.Reading

/-!
# Derived properties

The file of derived properties lists ranges of codes, each with the name of a property.
A comment closes each section with the number of its codes, which has to be right.
-/

set_option autoImplicit false

namespace CharacterTables

open Text

/-- A code together with the name of a property that it has. -/
structure PropertyRecord where
  code : Int
  property : String
  deriving DecidableEq, Repr

/-- The two ends of a range: two numerals around the first pair of full stops, or one
numeral for both. -/
def readRange (field : List Char) : Except LineFault (Int × Int) :=
  match cutAtDots [] field with
  | some (first, last) => do
      let first ← readCode first
      let last ← readCode last
      return (first, last)
  | none => do
      let code ← readCode field
      return (code, code)
where
  cutAtDots (before : List Char) : List Char → Option (List Char × List Char)
    | '.' :: '.' :: after => some (before.reverse, after)
    | c :: rest => cutAtDots (c :: before) rest
    | [] => none

/-- A line of the file of derived properties: a range and a property. -/
def readProperty (line : Line) : Except LineFault (Int × Int × String) :=
  match line.fields with
  | [range, property] => do
      let (first, last) ← readRange range
      return (first, last, String.ofList property)
  | fields => .error (.fieldCount [2] fields.length)

def totalMark : List Char := "# Total code points:".toList

def Line.total? (line : Line) : Option (List Char) :=
  if totalMark.isPrefixOf line.text then some (trim (line.text.drop totalMark.length))
  else none

/-- The fault of a stated total that is not the number of codes in the section. A number
too long to be written is a fault of its own. -/
def totalFault (line : Line) (count : Int) : ReadFault :=
  if count.natAbs < decimalLimit then line.fault .properties (.wrongTotal count)
  else .countTooLong

def checkTotal (line : Line) (count : Int) (total : List Char) : Except ReadFault Unit :=
  if !isDigitText total then .error (totalFault line count)
  else if maxDecimalPlaces < leadingDigits total then
    .error (.totalTooLong (leadingDigits total))
  else
    match readDecimal? total with
    | none => .error (.notDecimal total)
    | some stated =>
        if (stated : Int) = count then .ok () else .error (totalFault line count)

/-- Reads numbered lines behind runs already found (last first), where `count` is the
number of codes since the section began. A range that runs backward lowers the count. -/
def readPropertyLines (count : Int) :
    List Line → List (Run PropertyRecord) → Reading PropertyRecord
  | [], found => { runs := found.reverse, stop := none }
  | line :: rest, found =>
      match line.total? with
      | some total =>
          match checkTotal line count total with
          | .error fault => { runs := found.reverse, stop := some fault }
          | .ok () => readPropertyLines 0 rest found
      | none =>
          if line.isData then
            match readProperty line with
            | .error cause =>
                { runs := found.reverse, stop := some (line.fault .properties cause) }
            | .ok (first, last, property) =>
                readPropertyLines (count + (last + 1 - first)) rest
                  (Run.between first last (fun code => { code, property }) :: found)
          else readPropertyLines count rest found

def readProperties (text : List Char) : Reading PropertyRecord :=
  readPropertyLines 0 (numberedLines text) []

end CharacterTables
