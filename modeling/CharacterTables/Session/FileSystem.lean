import CharacterTables.Session.Directory
import CharacterTables.Session.Location

/-!
# File systems

Files and directories as a tree. A path is followed step by step, and every step but the
last has to end at a directory, also when a later step leads back out of it.
-/

set_option autoImplicit false

namespace CharacterTables

open Text

/-- What stands under a name: a file, or a directory with all that it holds by name. -/
inductive Node where
  | file (contents : Bytes)
  | directory (nodes : List (String × Node))

abbrev Nodes := List (String × Node)

def Node.entry : Node → Entry
  | file contents => .file contents
  | directory _ => .directory

def putNode (nodes : Nodes) (name : String) (node : Node) : Nodes :=
  (name, node) :: nodes.filter (·.1 != name)

/-- What the directory under a name holds. Where none is, it is as if it held nothing. -/
def nodesUnder (nodes : Nodes) (name : String) : Nodes :=
  match nodes.lookup name with
  | some (.directory inner) => inner
  | _ => []

/-- Changes what the directory at the end of a way of names holds. The way is made as far as
it is missing. -/
def changeNodes (change : Nodes → Nodes) (nodes : Nodes) : List String → Nodes
  | [] => change nodes
  | name :: rest =>
      putNode nodes name (.directory (changeNodes change (nodesUnder nodes name) rest))

/-- Directories that were entered one from the other, the last first: the name of each, and
what it holds. -/
abbrev Trail := List (String × Nodes)

/-- A file system, by what its root holds. -/
structure FileSystem where
  root : Nodes

/-- A path without its last name, and that name; nothing stands behind a final slash.
Slashes before the name are dropped, unless nothing else stands before it. -/
def cutLastName (path : List Char) : List Char × List Char :=
  let before := path.reverse.dropWhile (· != '/')
  let stripped := before.dropWhile (· == '/')
  ((if stripped.isEmpty then before else stripped).reverse,
    (path.reverse.takeWhile (· != '/')).reverse)

/-- The path of the directory that a path stands in, and its name there. Slashes at the end
of the path count for nothing. -/
def parentOf (path : List Char) : List Char × List Char :=
  let (before, name) := cutLastName path
  if name.isEmpty then cutLastName before else (before, name)

/-- How many directories may be missing at the end of a path for all to be made. -/
def maxMissing : Nat := 990

namespace FileSystem

def empty : FileSystem := ⟨[]⟩

def change (system : FileSystem) (place : Place) (change : Nodes → Nodes) : FileSystem :=
  ⟨changeNodes change system.root place.reverse⟩

def addFiles (system : FileSystem) (place : Place) (files : List (String × Bytes)) :
    FileSystem :=
  system.change place fun nodes =>
    files.foldl (fun nodes (name, contents) => putNode nodes name (.file contents)) nodes

/-- What the directory holds that a trail ends at. The empty trail ends at the root. -/
def nodesAt (system : FileSystem) : Trail → Nodes
  | [] => system.root
  | (_, nodes) :: _ => nodes

def walk (system : FileSystem) (trail : Trail) :
    List (List Char) → Except PathProblem (Place × Node)
  | [] => .ok (trail.map Prod.fst, .directory (system.nodesAt trail))
  | step :: rest =>
      if step = [] ∨ step = ['.'] then system.walk trail rest
      else if step = ['.', '.'] then system.walk (trail.drop 1) rest
      else
        let name := String.ofList step
        if maxNameBytes < name.utf8ByteSize then .error .nameTooLong
        else
          match (system.nodesAt trail).lookup name with
          | none => .error .notFound
          | some (.directory nodes) => system.walk ((name, nodes) :: trail) rest
          | some (.file contents) =>
              if rest.isEmpty then .ok (name :: trail.map Prod.fst, .file contents)
              else .error .notDirectory

def follow (system : FileSystem) (working : Place) (path : List Char)
    (steps : List (List Char)) : Except PathProblem (Place × Node) :=
  system.walk [] ((startOf working path).reverse.map String.toList ++ steps)

def locate (system : FileSystem) (working : Place) (path : List Char) :
    Except PathProblem (Place × Node) :=
  match textProblem? path with
  | some problem => .error problem
  | none => system.follow working path (pieces (· == '/') path)

def leadsSomewhere (system : FileSystem) (working : Place) (path : List Char) : Bool :=
  (system.locate working path).isOk

def isDirectory (system : FileSystem) (working : Place) (path : List Char) : Bool :=
  match system.locate working path with
  | .ok (_, .directory _) => true
  | _ => false

/-- Makes the directory at the end of a path. The directory that it stands in has to be
there, and the directory itself must not. -/
def makeDirectory (system : FileSystem) (working : Place) (path : List Char) :
    Except PathProblem FileSystem :=
  match textProblem? path with
  | some problem => .error problem
  | none =>
      match (pieces (· == '/') path).reverse.dropWhile List.isEmpty with
      | [] => .error .alreadyThere
      | last :: before => do
          match ← system.follow working path before.reverse with
          | (_, .file _) => throw .notDirectory
          | (place, .directory nodes) =>
              let name := String.ofList last
              if last = ['.'] ∨ last = ['.', '.'] then throw .alreadyThere
              else if maxNameBytes < name.utf8ByteSize then throw .nameTooLong
              else if (nodes.lookup name).isSome then throw .alreadyThere
              else return system.change place (putNode · name (.directory []))

def ensureDirectory (system : FileSystem) (working : Place) (path : List Char) :
    FileSystem × Except PathFault Unit :=
  match system.makeDirectory working path with
  | .ok system => (system, .ok ())
  | .error problem =>
      (system, if system.isDirectory working path then .ok () else .error ⟨problem, path⟩)

/-- Makes the directory at the end of a path, and first those that it stands in, as far as
they are missing, and up to `room` in all. What is made stays, also if a later step fails.
A full stop behind a directory made on the way adds nothing, and what is found there already
on the way is left for later steps to run into. -/
def makeWay (system : FileSystem) (working : Place) :
    Nat → List Char → FileSystem × Except PathFault Unit
  | 0, path => (system, .error ⟨.wayTooLong, path⟩)
  | room + 1, path =>
      let (parent, name) := parentOf path
      if parent.isEmpty || name.isEmpty || system.leadsSomewhere working parent then
        system.ensureDirectory working path
      else
        let (system, result) := system.makeWay working room parent
        if stops result then (system, result)
        else if name = ['.'] then (system, .ok ())
        else system.ensureDirectory working path
where
  stops : Except PathFault Unit → Bool
    | .ok () => false
    | .error fault => fault.problem != .alreadyThere

def entriesOf (nodes : Nodes) : Entries :=
  nodes.foldl (fun entries (name, node) => entries.insert name node.entry) ∅

/-- The entries at the end of a path once its way is made for a file of a given name. -/
def entriesMade (system : FileSystem) (working : Place) (path : List Char) (name : String) :
    Except PathFault Entries := do
  let (system, result) := system.makeWay working maxMissing path
  result
  match system.locate working path with
  | .ok (_, .directory nodes) => return entriesOf nodes
  | .ok (_, .file _) => throw ⟨.notDirectory, joinPath path name⟩
  | .error problem => throw ⟨problem, joinPath path name⟩

def directoryAt (system : FileSystem) (working : Place) (path : List Char) : Directory :=
  match system.locate working path with
  | .ok (_, .directory nodes) => .present (entriesOf nodes)
  | _ => .missing (system.entriesMade working path)

end FileSystem

end CharacterTables
