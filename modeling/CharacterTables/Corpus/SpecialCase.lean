import CharacterTables.Corpus.Reading
import CharacterTables.Text.Lowercase

/-!
# Special cases

The file of special casings gives a character case forms of any length, for all text or
only in some language or context.
-/

set_option autoImplicit false

namespace CharacterTables

open Text

/-- The case forms of a character under at most one language and one context. -/
structure SpecialCase where
  code : Int
  lower : List Int
  title : List Int
  upper : List Int
  language : Option String
  context : Option String
  deriving DecidableEq, Repr

/-- Whether a condition names a language; all others name contexts. -/
def isLanguage (condition : List Char) : Bool :=
  match condition with
  | first :: _ => isLowercase first
  | [] => false

def readConditions (field : List Char) : Except LineFault (Option String × Option String) :=
  let (languages, contexts) := (words field).partition isLanguage
  if languages.length > 1 then .error .severalLanguages
  else if contexts.length > 1 then .error .severalContexts
  else .ok (languages.head?.map String.ofList, contexts.head?.map String.ofList)

def readSpecialCaseOf (code lower title upper conditions : List Char) :
    Except LineFault (Option SpecialCase) := do
  let (language, context) ← readConditions conditions
  let code ← readCode code
  let lower ← readCodes lower
  let title ← readCodes title
  let upper ← readCodes upper
  return some { code, lower, title, upper, language, context }

/-- A line of the file of special casings: code, lowercase, titlecase and uppercase form,
and conditions. Without conditions their field is the end field; with conditions an empty
end field follows. -/
def readSpecialCase (line : Line) : Except LineFault (Option SpecialCase) :=
  match line.fields with
  | [code, lower, title, upper, conditions] =>
      readSpecialCaseOf code lower title upper conditions
  | [code, lower, title, upper, conditions, last] =>
      if last.isEmpty then readSpecialCaseOf code lower title upper conditions
      else .error .trailingField
  | fields => .error (.fieldCount [5, 6] fields.length)

def readSpecialCases (text : List Char) : Reading SpecialCase :=
  Reading.ofLines .specialCasings readSpecialCase (dataLines text) []

end CharacterTables
