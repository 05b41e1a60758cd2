import CharacterTables.Text.Quoted

/-!
# Faults of paths

Why the directory or the file at the end of a path cannot be used. Some of it can be told
from the text of the path alone.
-/

set_option autoImplicit false

namespace CharacterTables

open Text

/-- What is wrong with a path. -/
inductive PathProblem where
  | notFound
  | alreadyThere
  | notDirectory
  | isDirectory
  | nameTooLong
  /-- The path holds the null character, which no name may hold. -/
  | embeddedNull
  /-- More directories are missing on the way than are made for one path. -/
  | wayTooLong
  deriving DecidableEq, Repr

def PathProblem.number? : PathProblem → Option Nat
  | notFound => some 2
  | alreadyThere => some 17
  | notDirectory => some 20
  | isDirectory => some 21
  | nameTooLong => some 36
  | embeddedNull | wayTooLong => none

def PathProblem.words : PathProblem → String
  | notFound => "No such file or directory"
  | alreadyThere => "File exists"
  | notDirectory => "Not a directory"
  | isDirectory => "Is a directory"
  | nameTooLong => "File name too long"
  | embeddedNull => "embedded null byte"
  | wayTooLong => "maximum recursion depth exceeded"

def maxNameBytes : Nat := 255

def maxPathBytes : Nat := 4095

def textProblem? (path : List Char) : Option PathProblem :=
  if path.contains (Char.ofNat 0) then some .embeddedNull
  else if path.isEmpty then some .notFound
  else if maxPathBytes < (String.ofList path).utf8ByteSize then some .nameTooLong
  else none

/-- A path with what is wrong with it. -/
structure PathFault where
  problem : PathProblem
  path : List Char
  deriving DecidableEq, Repr

/-- The wording of a fault. The path is shown where the problem has a number. -/
def PathFault.message (fault : PathFault) : String :=
  match fault.problem.number? with
  | some number =>
      "[Errno " ++ toString number ++ "] " ++ fault.problem.words ++ ": " ++ quoted fault.path
  | none => fault.problem.words

end CharacterTables
