import CharacterTables.CommandLine.Run

/-!
# The command

Finds the data files that are on disk, runs the command on them, and writes what it gives.
There is no network here, so a file that is not on disk counts as out of reach.
-/

set_option autoImplicit false

open CharacterTables CharacterTables.CommandLine

def findFiles (path : String) : IO (List (String × Text.Bytes)) := do
  let mut found := []
  for file in DataFile.all do
    try
      let contents ← IO.FS.readBinFile (path ++ "/" ++ file.name)
      found := (file.name, contents.toList) :: found
    catch _ => pure ()
  return found

def requestedDirectory (usual : List Char) (arguments : List String) : List Char :=
  match parse (arguments.map String.toList) with
  | .ok (.run (.inDirectory path) _) => path
  | _ => usual

/-- A file system with files in the directory at the end of a path. Without files there is
no such directory in it. -/
def systemWith (working : Place) (path : List Char) (files : List (String × Text.Bytes)) :
    FileSystem :=
  if files.isEmpty then .empty
  else FileSystem.empty.addFiles (spelledPlace working path) files

def main (arguments : List String) : IO UInt32 := do
  let working := spelledPlace [] (← IO.currentDir).toString.toList
  let setting ← IO.getEnv "UCD_DATA_DIR"
  let home ← IO.getEnv "HOME"
  let usualDirectory := (defaultLocation setting (home.getD "")).toList
  let path := requestedDirectory usualDirectory arguments
  let files ← findFiles (absolutePath working path)
  let outcome := run
    { working, usualDirectory, system := systemWith working path files
      network := fun _ => .unreachable "there is no network" }
    arguments
  (← IO.getStdout).putStr outcome.stdout
  (← IO.getStderr).putStr outcome.stderr
  match outcome.status with
  | .ok status => return UInt32.ofNat status
  | .error failure =>
      (← IO.getStderr).putStrLn failure.message
      return 1
