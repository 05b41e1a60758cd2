import CharacterTables.Corpus.Reading

/-!
# Case folds

The file of foldings maps a character to its folded form. Common and simple foldings lead
to a single character and are read; full and Turkic ones are passed over.
-/

set_option autoImplicit false

namespace CharacterTables

/-- The kinds of folding that lead to a single character in every language. -/
inductive FoldStatus where
  | common
  | simple
  deriving DecidableEq, Repr

def FoldStatus.letter : FoldStatus → String
  | common => "C"
  | simple => "S"

/-- A code and the code that it folds to. -/
structure CaseFold where
  code : Int
  status : FoldStatus
  mapping : Int
  deriving DecidableEq, Repr

def readFoldOf (status : FoldStatus) (code mapping : List Char) :
    Except LineFault (Option CaseFold) := do
  let code ← readCode code
  let mapping ← readCode mapping
  return some { code, status, mapping }

/-- A line of the file of foldings: code, status, mapping and an end field. The codes of a
folding that is passed over are not looked at. -/
def readFold (line : Line) : Except LineFault (Option CaseFold) :=
  match line.fields with
  | [code, status, mapping, _] =>
      if status = ['F'] ∨ status = ['T'] then .ok none
      else if status = ['C'] then readFoldOf .common code mapping
      else if status = ['S'] then readFoldOf .simple code mapping
      else .error (.unknownStatus status)
  | fields => .error (.fieldCount [4] fields.length)

def readFolds (text : List Char) : Reading CaseFold :=
  Reading.ofLines .foldings readFold (dataLines text) []

end CharacterTables
