import CharacterTables.Corpus.ReadFault
import CharacterTables.Text.Lines

/-!
# Numbered lines and their fields

A data file is a sequence of numbered lines. What stands before the first number sign is
content, what follows is comment; content is divided into fields by semicolons.
-/

set_option autoImplicit false

namespace CharacterTables

open Text

/-- A line of a data file with its number, counted from one. -/
structure Line where
  number : Nat
  text : List Char
  deriving DecidableEq, Repr

namespace Line

def content (line : Line) : List Char :=
  line.text.takeWhile (· != '#')

/-- Whether the line holds data: its content is more than blanks. -/
def isData (line : Line) : Bool :=
  !isBlankText line.content

def fields (line : Line) : List (List Char) :=
  (pieces (· == ';') line.content).map trim

def fault (line : Line) (file : DataFile) (cause : LineFault) : ReadFault :=
  .line file line.number line.text cause

end Line

def numberedLines (text : List Char) : List Line :=
  ((lines text).zipIdx 1).map fun (line, number) => { number, text := line }

def dataLines (text : List Char) : List Line :=
  (numberedLines text).filter Line.isData

def readCode (field : List Char) : Except LineFault Int :=
  match readHex? field with
  | some code => .ok code
  | none => .error (.badNumeral field)

def readCodes (field : List Char) : Except LineFault (List Int) :=
  (words field).mapM readCode

end CharacterTables
