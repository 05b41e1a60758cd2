import Std.Data.TreeSet.Lemmas
import CharacterTables.Character.CaseDelta
import CharacterTables.Collection.Catalog
import CharacterTables.Collection.OrderedMap
import CharacterTables.Corpus.CaseFold
import CharacterTables.Failure

/-!
# Case folding

Characters that fold to the same code are equivalent when case is ignored. For every code
that takes part in folding the equivalent codes are listed; for the basic plane the
foldings are also compiled into a table of deltas and an index into it.
-/

set_option autoImplicit false

namespace CharacterTables

/-! ## Folds in both directions -/

/-- Where each code folds to, and which codes fold to each code, in the order of the file.
A code that is listed again folds to its last mapping but stays listed under all. -/
structure FoldMaps where
  folds : OrderedMap Int Int
  sources : OrderedMap Int (List Int)

namespace FoldMaps

def empty : FoldMaps := { folds := OrderedMap.empty, sources := OrderedMap.empty }

def insert (maps : FoldMaps) (fold : CaseFold) : FoldMaps where
  folds := maps.folds.insert fold.code fold.mapping
  sources :=
    maps.sources.insert fold.mapping ((maps.sources.get? fold.mapping).getD [] ++ [fold.code])

def ofFolds (folds : List CaseFold) : FoldMaps :=
  folds.foldl insert empty

/-- The codes that fold to a code, which has to be listed. -/
def sourcesOf (maps : FoldMaps) (code : Int) : Except Failure (List Int) :=
  match maps.sources.get? code with
  | some codes => .ok codes
  | none => .error (.missing code)

/-- The equivalents of a code that takes part in folding: where it folds to and what else
folds there, or else what folds to it. -/
def equivalentsOf (maps : FoldMaps) (code : Int) : Except Failure (List Int) := do
  match maps.folds.get? code with
  | some mapping =>
      let sources ← maps.sourcesOf mapping
      return (mapping :: sources.filter (· != code)).mergeSort (· ≤ ·)
  | none =>
      let sources ← maps.sourcesOf code
      return sources.mergeSort (· ≤ ·)

/-- The codes that take part in folding, in ascending order. -/
def codes (maps : FoldMaps) : List Int :=
  (maps.sources.keys.foldl (fun codes code => codes.insert code)
    (maps.folds.keys.foldl (fun codes code => codes.insert code) (∅ : Std.TreeSet Int))).toList

/-- All codes that take part in folding, each with its equivalents, both in ascending
order. -/
def equivalents (maps : FoldMaps) : Except Failure (List (Int × List Int)) :=
  maps.codes.mapM fun code => do
    let others ← maps.equivalentsOf code
    return (code, others)

end FoldMaps

/-! ## Deltas of the basic plane -/

/-- The distinct fold deltas of basic characters, numbered in the order of their first use,
and the numbers of the codes that fold. All other codes have number zero, the delta of a
code that folds to itself. -/
structure FoldIndex where
  deltas : Catalog CaseDelta
  numbers : Std.TreeMap Nat Nat

namespace FoldIndex

def blank : FoldIndex :=
  { deltas := (Catalog.empty.intern CaseDelta.zero).2, numbers := ∅ }

/-- Adds the fold of a code. Supplementary characters are passed over; a negative code
counts from the end of the plane. -/
def insert (index : FoldIndex) (fold : Int × Int) : Except Failure FoldIndex :=
  let (code, mapping) := fold
  if Code.maxBasic < code then .ok index
  else if mapping ≤ Code.maxBasic then
    match placeOf Code.basicCount code with
    | .error fault => .error (.store fault)
    | .ok place =>
        let (number, deltas) := index.deltas.intern (CaseDelta.between code mapping)
        .ok { deltas, numbers := index.numbers.insert place number }
  else .error (.shape (.foldLeavesPlane code mapping))

def ofFolds (folds : List (Int × Int)) : Except Failure FoldIndex :=
  folds.foldlM insert blank

def number (index : FoldIndex) (place : Nat) : Nat :=
  index.numbers.getD place 0

def toArray (index : FoldIndex) : Array Int :=
  (Array.range Code.basicCount).map fun place => (index.number place : Int)

def deltaAt (index : FoldIndex) (place : Nat) : CaseDelta :=
  index.deltas.entries.getD (index.number place) CaseDelta.zero

/-- The delta of a code. A negative code counts from the end of the plane. -/
def delta (index : FoldIndex) (code : Int) : Except Failure CaseDelta :=
  match placeOf Code.basicCount code with
  | .ok place => .ok (index.deltaAt place)
  | .error fault => .error (.lookup fault)

end FoldIndex

/-! ## Folding data -/

/-- What is compiled from the file of foldings. -/
structure Folding where
  folds : OrderedMap Int Int
  equivalents : Std.TreeMap Int (List Int)
  index : FoldIndex

namespace Folding

/-- Compiles folds. The index takes them in ascending order of their codes. -/
def ofFolds (folds : List CaseFold) : Except Failure Folding := do
  let maps := FoldMaps.ofFolds folds
  let equivalents ← maps.equivalents
  let index ← FoldIndex.ofFolds maps.folds.sort.toList
  return { folds := maps.folds, equivalents := Std.TreeMap.ofList equivalents, index }

def ofText (text : List Char) : Except Failure Folding :=
  match (readFolds text).complete with
  | .ok folds => ofFolds folds
  | .error fault => .error (.read fault)

def fold (folding : Folding) (code : Int) : Int :=
  (folding.folds.get? code).getD code

/-- The codes that are equivalent to a code, in ascending order. -/
def equivalentsOf (folding : Folding) (code : Int) : List Int :=
  folding.equivalents.getD code []

end Folding

end CharacterTables
