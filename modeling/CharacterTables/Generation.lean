import CharacterTables.Folding
import CharacterTables.Session.Work
import CharacterTables.SpecialCasing.Check
import CharacterTables.SupplementaryPlanes
import CharacterTables.TwoStage.Search
import CharacterTables.WhiteSpace

/-!
# Making all tables

The data files are loaded in a fixed order, each part of the tables is compiled as soon as
its data are there, and the two indexes of the basic plane are split into stages.
-/

set_option autoImplicit false

namespace CharacterTables

open TwoStage

/-- What is compiled from the data files. -/
structure Compiled where
  version : String
  registry : Registry
  properties : PropertySets
  basic : BasicPlane
  supplementary : SupplementaryPlanes
  whiteSpace : CodeSet
  folding : Folding
  overrides : Overrides

/-- All tables made from the data files: what is compiled from them, and the two indexes of
the basic plane in stages. -/
structure Tables extends Compiled where
  basicSplit : Split
  foldSplit : Split

namespace Work

def split (table : Array Int) : Work Split := do
  let found ← ofExcept ((search table).mapError Failure.table)
  found.report.forM tellLine
  ofExcept ((found.split.verify table).mapError Failure.table)
  return found.split

def loadVersion (surroundings : Surroundings) : Work String := do
  ofExcept (databaseVersion (← load surroundings .properties))

def loadRegistry (surroundings : Surroundings) : Work Registry := do
  ofExcept (Registry.ofText (← load surroundings .characters))

def loadProperties (surroundings : Surroundings) : Work PropertySets := do
  ofExcept (PropertySets.ofText (← load surroundings .properties))

def loadFolding (surroundings : Surroundings) : Work Folding := do
  ofExcept (Folding.ofText (← load surroundings .foldings))

def loadOverrides (surroundings : Surroundings) (plane : BasicPlane) : Work Overrides := do
  ofExcept (Overrides.ofText plane (← load surroundings .specialCasings))

def compile (surroundings : Surroundings) : Work Compiled := do
  let propertyText ← load surroundings .properties
  let version ← ofExcept (databaseVersion propertyText)
  tellLine ("Unicode version " ++ version ++ ".")
  let registry ← loadRegistry surroundings
  let properties ← ofExcept (PropertySets.ofText propertyText)
  let basic ← ofExcept (BasicPlane.ofRegistry registry properties)
  let supplementary ← ofExcept (SupplementaryPlanes.ofRegistry registry properties)
  let whiteSpace ← ofExcept (whiteSpace registry)
  let folding ← loadFolding surroundings
  let overrides ← loadOverrides surroundings basic
  return { version, registry, properties, basic, supplementary, whiteSpace, folding, overrides }

def generate (surroundings : Surroundings) : Work Tables := do
  let compiled ← compile surroundings
  tellLine "Splitting the BMP character info index."
  let basicSplit ← split compiled.basic.index
  tellLine "Splitting the BMP case folding index."
  let foldSplit ← split compiled.folding.index.toArray
  return { compiled with basicSplit, foldSplit }

end Work

end CharacterTables
