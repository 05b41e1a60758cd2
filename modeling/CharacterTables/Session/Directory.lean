import Std.Data.TreeMap.Lemmas
import CharacterTables.Session.PathFault
import CharacterTables.Text.Utf8

/-!
# The data directory

A directory as seen along the path that leads to it. While something on the way is missing
nothing can be read; the first file that is to be saved has the way made, and then whatever
the directory holds comes to light.
-/

set_option autoImplicit false

namespace CharacterTables

open Text

/-- What stands under a name in a directory. -/
inductive Entry where
  | file (contents : Bytes)
  | directory
  deriving DecidableEq, Repr

abbrev Entries := Std.TreeMap String Entry

/-- A directory at the end of a path. -/
inductive Directory where
  | present (entries : Entries)
  /-- The path leads nowhere. Making the way for a file of a given name either fails, or ends
  at a directory with these entries. -/
  | missing (made : String → Except PathFault Entries)

namespace Directory

/-- A directory that does not exist, and that will be empty when it is made. -/
def absent : Directory := missing fun _ => .ok ∅

def entry? : Directory → String → Option Entry
  | present entries, name => entries[name]?
  | missing _, _ => none

/-- The entries of the directory once it is made for a file of a given name. -/
def made : Directory → String → Except PathFault Entries
  | present entries, _ => .ok entries
  | missing made, name => made name

def ofFiles (files : List (String × Bytes)) : Directory :=
  present (files.foldl (fun entries (name, contents) => entries.insert name (.file contents)) ∅)

end Directory

end CharacterTables
