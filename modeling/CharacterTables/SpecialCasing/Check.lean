import Std.Data.TreeSet.Lemmas
import CharacterTables.SpecialCasing.Override

/-!
# Checking case overrides

The users of the tables know a few overrides by heart and rely on there being no others of
their kind. The overrides are checked for that before they are handed out.
-/

set_option autoImplicit false

namespace CharacterTables.Overrides

def maxAscii : Int := 0x7F

def maxLatin1 : Int := 0xFF

def maxSequenceLength : Nat := 3

def knownLanguages : List String := ["az", "lt", "tr"]

def knownContexts : List String :=
  ["After_I", "After_Soft_Dotted", "Final_Sigma", "More_Above", "Not_Before_Dot"]

def finalSigma : String := "Final_Sigma"

def codesOf {α : Type} (bucket : OrderedMap Int α) : List Int :=
  bucket.keys.toList

def languageIndependentCodes (overrides : Overrides) : List Int :=
  codesOf overrides.unconditional.lower ++ codesOf overrides.unconditional.upper ++
    codesOf overrides.contextual.lower ++ codesOf overrides.contextual.upper

def languages (overrides : Overrides) : List String :=
  overrides.tailored.lower.keys.toList ++ overrides.tailored.upper.keys.toList

def conditioned (overrides : Overrides) : List Override :=
  let buckets :=
    [overrides.contextual.lower, overrides.contextual.upper] ++
      overrides.tailored.lower.toList.map Prod.snd ++
      overrides.tailored.upper.toList.map Prod.snd
  buckets.flatMap fun bucket => bucket.toList.map Prod.snd

def sequences (overrides : Overrides) : List (List Int) :=
  overrides.unconditional.lower.toList.map Prod.snd ++
    overrides.unconditional.upper.toList.map Prod.snd ++
    overrides.conditioned.map Override.sequence

def contexts (overrides : Overrides) : List String :=
  overrides.conditioned.filterMap Override.context

def unknownAmong (known names : List String) : List String :=
  (Std.TreeSet.ofList (names.filter fun name => !known.contains name)).toList

def checkLatin1 (overrides : Overrides) : Except OverrideFault Unit := do
  let uppercase := (codesOf overrides.unconditional.upper).filter (· ≤ maxLatin1)
  require (overrides.languageIndependentCodes.all (maxAscii < ·)) .asciiCasing
  require
    ((codesOf overrides.unconditional.lower).all (maxLatin1 < ·) &&
      (codesOf overrides.contextual.lower).all (maxLatin1 < ·))
    .latin1Lowercase
  require ((codesOf overrides.contextual.upper).all (maxLatin1 < ·)) .latin1ContextualUppercase
  require (uppercase == [Code.smallSharpS]) (.latin1Uppercase uppercase)
  require
    (overrides.unconditional.upper.get? Code.smallSharpS == some [Code.capitalS, Code.capitalS])
    .sharpSForm

def checkLowercase (overrides : Overrides) : Except OverrideFault Unit := do
  let lowercase := codesOf overrides.unconditional.lower
  let contextualUpper := codesOf overrides.contextual.upper
  let contextualLower := codesOf overrides.contextual.lower
  require (lowercase == [Code.capitalIWithDotAbove]) (.lowercase lowercase)
  require
    (overrides.unconditional.lower.get? Code.capitalIWithDotAbove ==
      some [Code.smallI, Code.combiningDotAbove])
    .dottedIForm
  require contextualUpper.isEmpty (.contextualUppercase contextualUpper)
  require (contextualLower == [Code.capitalSigma]) (.contextualLowercase contextualLower)
  require
    (overrides.contextual.lower.get? Code.capitalSigma ==
      some { sequence := [Code.smallFinalSigma], context := some finalSigma })
    .sigmaForm

/-- Checks the names of languages and contexts, and the lengths of the case forms. -/
def checkNames (overrides : Overrides) : Except OverrideFault Unit := do
  let unknownLanguages := unknownAmong knownLanguages overrides.languages
  let unknownContexts := unknownAmong knownContexts overrides.contexts
  require unknownLanguages.isEmpty (.unknownLanguages unknownLanguages)
  require (overrides.sequences.all (·.length ≤ maxSequenceLength))
    (.longSequences maxSequenceLength)
  require unknownContexts.isEmpty (.unknownContexts unknownContexts)

def check (overrides : Overrides) : Except OverrideFault Unit := do
  overrides.checkLatin1
  overrides.checkLowercase
  overrides.checkNames

/-- The overrides of special cases, sorted and checked. A special case that cannot be added
comes before a fault in a later line of the file. -/
def ofReading (plane : BasicPlane) (reading : Reading SpecialCase) :
    Except Failure Overrides := do
  let overrides ← reading.foldRecords Failure.read (add plane) empty
  let sorted := overrides.sort
  match sorted.check with
  | .ok () => return sorted
  | .error fault => throw (.shape (.overrides fault))

def ofText (plane : BasicPlane) (text : List Char) : Except Failure Overrides :=
  ofReading plane (readSpecialCases text)

end CharacterTables.Overrides
