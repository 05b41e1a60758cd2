import CharacterTables.Corpus.DataFile
import CharacterTables.Text.Quoted

/-!
# Faults of the data files

What can be wrong with one line of a data file, and how it is reported.
-/

set_option autoImplicit false

namespace CharacterTables

open Text

/-- Why a line cannot be read. -/
inductive LineFault where
  | fieldCount (allowed : List Nat) (found : Nat)
  | badNumeral (field : List Char)
  | unclosedRange
  | notLastLine
  | backwardRange
  | wrongTotal (count : Int)
  | unknownStatus (status : List Char)
  | trailingField
  | severalLanguages
  | severalContexts
  deriving DecidableEq, Repr

def LineFault.message : LineFault → String
  | fieldCount allowed found =>
      "expected " ++ " or ".intercalate (allowed.map toString) ++ " fields, found " ++
        toString found
  | badNumeral field => "bad hexadecimal value " ++ quoted field
  | unclosedRange => "range start without a following Last> line"
  | notLastLine => "expected the Last> line of the range"
  | backwardRange => "range ends before it starts"
  | wrongTotal count => "section has " ++ toString count ++ " code points"
  | unknownStatus status => "unknown status " ++ quoted status
  | trailingField => "unexpected trailing field"
  | severalLanguages => "more than one language"
  | severalContexts => "more than one casing context"

/-- Why reading a data file stops before its end. -/
inductive ReadFault where
  /-- A line of the file, shown whole, has a fault. -/
  | line (file : DataFile) (number : Nat) (text : List Char) (fault : LineFault)
  /-- A stated total is written in digits that do not form a decimal numeral. -/
  | notDecimal (total : List Char)
  /-- A stated total has more decimal digits than are read. -/
  | totalTooLong (digits : Nat)
  /-- The number of codes in a section has more decimal digits than are written. -/
  | countTooLong
  deriving DecidableEq, Repr

/-- How the wording of a fault begins that concerns the length of a decimal numeral. -/
def tooLongOpening : String :=
  "Exceeds the limit (" ++ toString maxDecimalPlaces ++ " digits) for integer string conversion"

/-- How the wording of a fault ends that concerns the length of a decimal numeral. -/
def tooLongClosing : String :=
  "; use sys.set_int_max_str_digits() to increase the limit"

/-- How many characters of a stated total are shown that is no decimal numeral. -/
def maxShownTotal : Nat := 200

/-- The wording of a fault: where it is, what it is, and the line. -/
def ReadFault.message : ReadFault → String
  | line file number text fault =>
      file.name ++ ":" ++ toString number ++ ": " ++ fault.message ++ ": " ++ quoted text
  | notDecimal total =>
      "invalid literal for int() with base 10: " ++ quotedWithin maxShownTotal total
  | totalTooLong digits =>
      tooLongOpening ++ ": value has " ++ toString digits ++ " digits" ++ tooLongClosing
  | countTooLong => tooLongOpening ++ tooLongClosing

end CharacterTables
