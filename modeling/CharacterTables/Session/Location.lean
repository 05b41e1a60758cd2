import CharacterTables.Text.Blank

/-!
# Locations of the data directory

Where the data files are kept, and the absolute form of a path.
-/

set_option autoImplicit false

namespace CharacterTables

def cachePlace : String := "/.cache/ucd_tables/13.0.0"

/-- The data directory unless another is asked for: the one that is set, or a place in the
home directory. An empty setting counts as none, and slashes that end the home directory
count for nothing. -/
def defaultLocation (setting : Option String) (home : String) : String :=
  match setting with
  | some location => if location.isEmpty then fromHome else location
  | none => fromHome
where
  fromHome : String :=
    String.ofList (home.toList.reverse.dropWhile (· == '/')).reverse ++ cachePlace

/-- The names that lead to a place from the root, last first. -/
abbrev Place := List String

/-- Where a path starts: at the root if it begins with a slash, and otherwise at the working
directory. -/
def startOf (working : Place) (path : List Char) : Place :=
  if path.head? = some '/' then [] else working

/-- Follows one step of a path by its spelling alone. -/
def followStep (place : Place) (step : List Char) : Place :=
  if step = [] ∨ step = ['.'] then place
  else if step = ['.', '.'] then place.drop 1
  else String.ofList step :: place

/-- The place that a path spells, whether or not anything is there. -/
def spelledPlace (working : Place) (path : List Char) : Place :=
  (Text.pieces (· == '/') path).foldl followStep (startOf working path)

def pathTo (place : Place) : String :=
  "/" ++ "/".intercalate place.reverse

/-- The absolute form of a path, as messages show it. A path with exactly two slashes at
its start keeps both. -/
def absolutePath (working : Place) (path : List Char) : String :=
  let slashes := path.takeWhile (· == '/')
  (if slashes.length = 2 then "/" else "") ++ pathTo (spelledPlace working path)

def joinPath (directory : List Char) (name : String) : List Char :=
  if directory.isEmpty || directory.getLast? == some '/' then directory ++ name.toList
  else directory ++ '/' :: name.toList

end CharacterTables
