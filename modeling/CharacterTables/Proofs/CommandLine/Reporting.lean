import Mathlib
import CharacterTables.CommandLine.Run
import CharacterTables.Proofs.Session.Failing

/-!
# What the command reports

The command ends well just if the tables are made. Where that fails it writes an error line for a
failure that is reported, and hands on any other.
-/

set_option autoImplicit false

namespace CharacterTables.CommandLine

open Text

variable {machine : Machine} {path : List Char} {quiet : Bool} {after : Session}

/-! ## Runs of the command -/

def Machine.surroundings (machine : Machine) (path : List Char) : Surroundings :=
  { network := machine.network
    location := path
    absolute := absolutePath machine.working path }

def Machine.start (machine : Machine) (path : List Char) : Session :=
  { directory := machine.system.directoryAt machine.working path
    transcript := "" }

end CharacterTables.CommandLine
