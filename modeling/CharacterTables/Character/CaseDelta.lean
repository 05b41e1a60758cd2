import Std.Data.TreeMap.Lemmas
import CharacterTables.Character.Code

/-!
# Case deltas

A case mapping within the basic plane is stored as the difference of the two codes, with
the number of basic codes as modulus.
-/

set_option autoImplicit false

namespace CharacterTables

/-- The difference between a code and what it maps to. -/
structure CaseDelta where
  value : Int
  deriving DecidableEq, Repr

namespace CaseDelta

def zero : CaseDelta := ⟨0⟩

/-- The delta that leads from a code to its mapping. -/
def between (code mapping : Int) : CaseDelta :=
  ⟨(mapping - code) % Code.basicCount⟩

/-- The code that a delta leads to. -/
def apply (delta : CaseDelta) (code : Int) : Int :=
  (code + delta.value) % Code.basicCount

theorem apply_between {code mapping : Int} (nonneg : 0 ≤ mapping)
    (basic : mapping ≤ Code.maxBasic) : (between code mapping).apply code = mapping := by
  simp only [apply, between, Code.basicCount]
  unfold Code.maxBasic at basic
  omega

theorem apply_zero {code : Int} (nonneg : 0 ≤ code) (basic : code ≤ Code.maxBasic) :
    zero.apply code = code := by
  simp only [apply, zero, Code.basicCount]
  unfold Code.maxBasic at basic
  omega

def describe (kind : String) (delta : CaseDelta) : String :=
  kind ++ "(value=" ++ toString delta.value ++ ")"

instance : Ord CaseDelta := ⟨compareOn value⟩

instance : Std.TransOrd CaseDelta :=
  inferInstanceAs (Std.TransCmp (compareOn value))

instance : Std.LawfulEqOrd CaseDelta where
  eq_of_compare {left right} same := by
    have values : compare left.value right.value = .eq := same
    cases left
    cases right
    exact congrArg mk (Std.LawfulEqCmp.compare_eq_iff_eq.mp values)

end CaseDelta

end CharacterTables
