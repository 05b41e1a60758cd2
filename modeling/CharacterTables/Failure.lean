import CharacterTables.Corpus.ReadFault
import CharacterTables.Session.PathFault
import CharacterTables.SpecialCasing.OverrideFault
import CharacterTables.Text.Utf8
import CharacterTables.TwoStage.TableFault

/-!
# Failures

Why the tables cannot be made: a data file has a fault or does not have the shape that the
tables rely on, it cannot be fetched, stored or is not text, or a number leaves the range
that a table has room for.
-/

set_option autoImplicit false

namespace CharacterTables

open Text TwoStage

/-- How well-formed data can still be unfit for the tables. -/
inductive ShapeFault where
  | noVersion (line : List Char)
  /-- A basic character has a case mapping outside the basic plane. -/
  | mappingLeavesPlane (code : Int)
  | basicLowercase (code mapping : Int)
  | basicUppercase (code mapping : Int)
  | supplementarySpaces (codes : List Int)
  | supplementaryWhiteSpace (code : Int)
  | foldLeavesPlane (code mapping : Int)
  | supplementarySpecialCase (code : Int)
  /-- A special case keeps a character that has another lowercase form by default. -/
  | lowercaseKept (code : Int)
  /-- A special case keeps a character that has another uppercase form by default. -/
  | uppercaseKept (code : Int)
  | overrides (fault : OverrideFault)
  deriving DecidableEq, Repr

def ShapeFault.message : ShapeFault → String
  | noVersion line => DataFile.properties.name ++ ":1: no version header: " ++ quoted line
  | mappingLeavesPlane code => codeName code ++ " has a non-BMP case mapping"
  | basicLowercase code mapping =>
      codeName code ++ " lowercases to BMP code point " ++ codeName mapping
  | basicUppercase code mapping =>
      codeName code ++ " uppercases to BMP code point " ++ codeName mapping
  | supplementarySpaces codes =>
      "non-BMP space characters found: " ++ ", ".intercalate (codes.map codeName)
  | supplementaryWhiteSpace code => codeName code ++ " is a non-BMP space character"
  | foldLeavesPlane code mapping =>
      codeName code ++ " folds to non-BMP code point " ++ codeName mapping
  | supplementarySpecialCase code => "special casing for non-BMP code point " ++ codeName code
  | lowercaseKept code =>
      codeName code ++ " lowercases to itself despite a default lowercase"
  | uppercaseKept code =>
      codeName code ++ " uppercases to itself despite a default uppercase"
  | overrides fault => fault.message

/-- Why a file cannot be fetched, and how whoever asked for it puts that: either the server answers
with the status of an error, or there is no answer. -/
inductive NetworkFault where
  | status (code : Int) (wording : String)
  | unreachable (wording : String)
  deriving DecidableEq, Repr

def NetworkFault.message : NetworkFault → String
  | status _ wording | unreachable wording => wording

/-- Why an operation on the tables fails. -/
inductive Failure where
  | read (fault : ReadFault)
  | shape (fault : ShapeFault)
  | table (fault : TableFault)
  | undecodable (fault : Utf8Fault)
  | network (fault : NetworkFault)
  | unknownFile (name : String)
  | path (fault : PathFault)
  | notPath
  /-- A code has no entry. -/
  | missing (code : Int)
  /-- A code is looked up for which the index of a table has no place. -/
  | lookup (fault : PositionFault)
  /-- A code is to be stored for which the index of a table has no place. -/
  | store (fault : PositionFault)
  deriving DecidableEq, Repr

namespace Failure

def message : Failure → String
  | read fault => fault.message
  | shape fault => fault.message
  | table fault => fault.message
  | undecodable fault => fault.message
  | network fault => fault.message
  | unknownFile name => "not a Unicode data file: " ++ quoted name.toList
  | path fault => fault.message
  | notPath => "expected str, bytes or os.PathLike object, not list"
  | missing code => toString code
  | lookup fault => fault.lookupMessage
  | store fault => fault.storeMessage

/-- Whether the failure lies in the contents of a data file: a line with a fault, or data
of the wrong shape. -/
def isCorpusFault : Failure → Bool
  | read (.line ..) | shape _ => true
  | _ => false

def isNetworkFault : Failure → Bool
  | network _ => true
  | _ => false

end Failure

def require {ε : Type} (condition : Bool) (fault : ε) : Except ε Unit :=
  if condition then .ok () else .error fault

theorem require_eq_ok_iff {ε : Type} {condition : Bool} {fault : ε} {done : Unit} :
    require condition fault = .ok done ↔ condition = true := by
  unfold require
  cases condition with
  | false => simp
  | true => simp

end CharacterTables
