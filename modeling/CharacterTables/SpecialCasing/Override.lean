import CharacterTables.BasicPlane
import CharacterTables.Corpus.SpecialCase

/-!
# Case overrides

Special cases override the default case forms of single characters. They are kept in
buckets: those for all text, those for a context, and those for a language. Only the sides
that differ from the default are kept.
-/

set_option autoImplicit false

namespace CharacterTables

/-- The two directions of case mapping. -/
inductive Side where
  | lower
  | upper
  deriving DecidableEq, Repr

/-- Something for each direction of case mapping. -/
structure Sides (α : Type) where
  lower : α
  upper : α

namespace Sides

variable {α : Type}

def get (sides : Sides α) : Side → α
  | .lower => sides.lower
  | .upper => sides.upper

def modify (sides : Sides α) (side : Side) (change : α → α) : Sides α :=
  match side with
  | .lower => { sides with lower := change sides.lower }
  | .upper => { sides with upper := change sides.upper }

def map {β : Type} (change : α → β) (sides : Sides α) : Sides β :=
  { lower := change sides.lower, upper := change sides.upper }

end Sides

def SpecialCase.form (special : SpecialCase) : Side → List Int
  | .lower => special.lower
  | .upper => special.upper

def CasedCharacter.form (cased : CasedCharacter) : Side → Int
  | .lower => cased.lower
  | .upper => cased.upper

/-- A case form with the context in which it holds, if it is bound to one. -/
structure Override where
  sequence : List Int
  context : Option String
  deriving DecidableEq, Repr

/-- The overrides of default casing: for all text, for a context in every language, and by
language. -/
structure Overrides where
  unconditional : Sides (OrderedMap Int (List Int))
  contextual : Sides (OrderedMap Int Override)
  tailored : Sides (OrderedMap String (OrderedMap Int Override))

namespace Overrides

def empty : Overrides where
  unconditional := { lower := OrderedMap.empty, upper := OrderedMap.empty }
  contextual := { lower := OrderedMap.empty, upper := OrderedMap.empty }
  tailored := { lower := OrderedMap.empty, upper := OrderedMap.empty }

/-- Puts one side of a special case into its bucket, over an earlier one for the same
code. -/
def insert (overrides : Overrides) (special : SpecialCase) (side : Side) : Overrides :=
  let code := special.code
  let sequence := special.form side
  match special.language, special.context with
  | none, none =>
      { overrides with
        unconditional := overrides.unconditional.modify side (·.insert code sequence) }
  | none, some context =>
      { overrides with
        contextual := overrides.contextual.modify side
          (·.insert code { sequence, context := some context }) }
  | some language, context =>
      { overrides with
        tailored := overrides.tailored.modify side fun languages =>
          languages.insert language
            (((languages.get? language).getD OrderedMap.empty).insert code
              { sequence, context }) }

/-- Puts one side of a special case into its bucket if it differs from the default. -/
def insertSpecial (cased : CasedCharacter) (special : SpecialCase) (overrides : Overrides)
    (side : Side) : Overrides :=
  if special.form side = [cased.form side] then overrides else overrides.insert special side

/-- Adds a special case. Its code has to be basic, and a side must not lead back to a code
that has another case form by default. -/
def add (plane : BasicPlane) (overrides : Overrides) (special : SpecialCase) :
    Except Failure Overrides := do
  let code := special.code
  require (code ≤ Code.maxBasic) (.shape (.supplementarySpecialCase code))
  let cased ← plane.cased code
  require (code = cased.lower ∨ special.lower ≠ [code]) (.shape (.lowercaseKept code))
  require (code = cased.upper ∨ special.upper ≠ [code]) (.shape (.uppercaseKept code))
  return [Side.lower, Side.upper].foldl (insertSpecial cased special) overrides

def sort (overrides : Overrides) : Overrides where
  unconditional := overrides.unconditional.map OrderedMap.sort
  contextual := overrides.contextual.map OrderedMap.sort
  tailored := overrides.tailored.map fun languages =>
    (languages.mapValues OrderedMap.sort).sort

end Overrides

end CharacterTables
