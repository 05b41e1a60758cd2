import CharacterTables.Session.Directory
import CharacterTables.Session.Location
import CharacterTables.Session.Network
import CharacterTables.Text.Lines

/-!
# Work in a session

Making the tables changes two things: files are added to the data directory, and progress
is told. Both stand even if the work fails later.
-/

set_option autoImplicit false

namespace CharacterTables

open Text

/-- What work changes: the data directory, and the transcript of what was told. -/
structure Session where
  directory : Directory
  transcript : String

/-- Work that may fail, and changes the session whether or not it does. -/
abbrev Work (α : Type) := ExceptT Failure (StateM Session) α

/-- Where work finds files that the data directory does not have, and the path of the
directory, as it is given and in its absolute form. -/
structure Surroundings where
  network : Network
  location : List Char
  absolute : String

def Surroundings.pathOf (surroundings : Surroundings) (file : DataFile) : List Char :=
  joinPath surroundings.location file.name

def Surroundings.entry? (surroundings : Surroundings) (directory : Directory)
    (file : DataFile) : Option Entry :=
  match textProblem? (surroundings.pathOf file) with
  | some _ => none
  | none => directory.entry? file.name

/-- Checks that a data file can be written over what the data directory holds. -/
def Surroundings.checkWritable (surroundings : Surroundings) (entries : Entries)
    (file : DataFile) : Except PathFault Unit :=
  match textProblem? (surroundings.pathOf file) with
  | some problem => .error ⟨problem, surroundings.pathOf file⟩
  | none =>
      match entries[file.name]? with
      | some .directory => .error ⟨.isDirectory, surroundings.pathOf file⟩
      | _ => .ok ()

namespace Work

def tell (text : String) : Work Unit :=
  modify fun session => { session with transcript := session.transcript ++ text }

def tellLine (text : String) : Work Unit :=
  tell (text ++ "\n")

def ofExcept {α : Type} (result : Except Failure α) : Work α :=
  match result with
  | .ok value => pure value
  | .error failure => throw failure

def decode (bytes : Bytes) : Work (List Char) :=
  ofExcept ((decodeUtf8 bytes).mapError Failure.undecodable)

/-- Stores a file in the data directory, which is made first if it is missing. -/
def save (surroundings : Surroundings) (file : DataFile) (contents : Bytes) : Work Unit := do
  let entries ← ofExcept (((← get).directory.made file.name).mapError Failure.path)
  modify fun session => { session with directory := .present entries }
  ofExcept ((surroundings.checkWritable entries file).mapError Failure.path)
  modify fun session =>
    { session with directory := .present (entries.insert file.name (.file contents)) }

def fetch (surroundings : Surroundings) (file : DataFile) : Work (List Char) := do
  let url := fileUrl pinnedVersion file.name
  tell ("Loading " ++ url ++ "… ")
  let bytes ← ofExcept ((surroundings.network file).bytes)
  tellLine "Completed."
  let text ← decode bytes
  save surroundings file bytes
  tellLine ("Saved " ++ file.name ++ " to " ++ surroundings.absolute ++ ".")
  return text

/-- The text of a data file: from the data directory if it is there, with every line break
made a line feed, and otherwise from the network. -/
def load (surroundings : Surroundings) (file : DataFile) : Work (List Char) := do
  match surroundings.entry? (← get).directory file with
  | some (.file contents) => return unifyNewlines (← decode contents)
  | some .directory => throw (.path ⟨.isDirectory, surroundings.pathOf file⟩)
  | none => fetch surroundings file

def loadNamed (surroundings : Surroundings) (name : String) : Work (List Char) :=
  match DataFile.ofName? name with
  | some file => load surroundings file
  | none => throw (.unknownFile name)

end Work

end CharacterTables
