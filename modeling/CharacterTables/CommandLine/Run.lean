import CharacterTables.CommandLine.Arguments
import CharacterTables.Generation
import CharacterTables.Session.FileSystem

/-!
# Running the command

The command makes all tables and tells how large they became. Faults of the data files are
reported in one line, those of the network in its own words; the exit status tells the cases apart.
-/

set_option autoImplicit false

namespace CharacterTables.CommandLine

def usage : String := "usage: ucd_tables [-h] [-d DATA_DIR] [-q]\n"

def help : String :=
  usage ++
  "\n" ++
  "Builds the Unicode character tables used by the JavaScript lexer and regular\n" ++
  "expression matcher.\n" ++
  "\n" ++
  "options:\n" ++
  "  -h, --help            show this help message and exit\n" ++
  "  -d DATA_DIR, --data-dir DATA_DIR\n" ++
  "                        directory holding (or caching) the Unicode data files\n" ++
  "  -q, --quiet           don" ++ String.singleton Text.apostrophe ++ "t print anything\n"

def errorLine (message : String) : String :=
  "ucd_tables: error: " ++ message ++ "\n"

/-- What the command finds: where it works, which data directory is the usual one, the files
and directories, and the network. -/
structure Machine where
  working : Place
  usualDirectory : List Char
  system : FileSystem
  network : Network

/-- How the command ends: what it writes, its exit status or the failure that it does not
handle, and the data directory that it leaves, if it came to use one. -/
structure Outcome where
  stdout : String
  stderr : String
  status : Except Failure Nat
  kept : Option Directory

def summary (tables : Tables) : Work Unit := do
  Work.tellLine ("BMP: " ++ toString tables.basic.infos.size ++ " unique character infos, " ++
    toString tables.basicSplit.byteSize ++ " bytes split.")
  Work.tellLine ("Case folding: " ++ toString tables.folding.index.deltas.size ++
    " unique deltas, " ++ toString tables.foldSplit.byteSize ++ " bytes split.")

def makeTables (surroundings : Surroundings) : Work Unit := do
  let tables ← Work.generate surroundings
  summary tables

/-- Makes the tables with the data files in the directory at the end of a path. When quiet,
only an error line is written. -/
def make (machine : Machine) (path : List Char) (quiet : Bool) : Outcome :=
  let surroundings : Surroundings :=
    { network := machine.network
      location := path
      absolute := absolutePath machine.working path }
  let start : Session :=
    { directory := machine.system.directoryAt machine.working path, transcript := "" }
  let (result, session) := (makeTables surroundings).run start
  let told := if quiet then "" else session.transcript
  let kept := some session.directory
  match result with
  | .ok () => { stdout := "", stderr := told, status := .ok 0, kept }
  | .error failure =>
      if failure.isCorpusFault || failure.isNetworkFault then
        { stdout := "", stderr := told ++ errorLine failure.message, status := .ok 1, kept }
      else { stdout := "", stderr := told, status := .error failure, kept }

def run (machine : Machine) (arguments : List String) : Outcome :=
  match parse (arguments.map String.toList) with
  | .error fault =>
      { stdout := "", stderr := usage ++ errorLine fault.message, status := .ok 2, kept := none }
  | .ok .help => { stdout := help, stderr := "", status := .ok 0, kept := none }
  | .ok (.run .usual quiet) => make machine machine.usualDirectory quiet
  | .ok (.run (.inDirectory path) quiet) => make machine path quiet
  | .ok (.run .nowhere _) => { stdout := "", stderr := "", status := .error .notPath, kept := none }

end CharacterTables.CommandLine
