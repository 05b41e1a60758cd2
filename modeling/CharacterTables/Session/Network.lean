import CharacterTables.Failure

/-!
# The network

Where the data files are published, and what asking for one of them may give.
-/

set_option autoImplicit false

namespace CharacterTables

open Text

def pinnedVersion : String := "13.0.0"

def fileUrl (version fileName : String) : String :=
  "https://www.unicode.org/Public/" ++ version ++ "/ucd/" ++ fileName

/-- Whether a status stands for an error, of the request or of the server. -/
def isErrorStatus (status : Int) : Bool :=
  decide (400 ≤ status) && decide (status < 600)

/-- What comes back when a file is asked for. Where that may be an error, its wording comes along: it
is the choice of the server and of whoever asks. -/
inductive Answer where
  | content (bytes : Bytes)
  | status (code : Int) (wording : String)
  | unreachable (wording : String)
  deriving DecidableEq, Repr

abbrev Network := DataFile → Answer

/-- The contents that an answer gives. A status that does not stand for an error comes with
empty contents. -/
def Answer.bytes : Answer → Except Failure Bytes
  | .content bytes => .ok bytes
  | .status code wording =>
      if isErrorStatus code then .error (.network (.status code wording)) else .ok []
  | .unreachable wording => .error (.network (.unreachable wording))

end CharacterTables
