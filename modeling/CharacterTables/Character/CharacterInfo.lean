import CharacterTables.Character.CaseDelta
import CharacterTables.Character.Flags

/-!
# Character infos

All that the tables record about a character of the basic plane: how far its case forms
are away, and its flags.
-/

set_option autoImplicit false

namespace CharacterTables

/-- What the tables record about a basic character. Characters with the same info share
it. -/
structure CharacterInfo where
  lower : CaseDelta
  upper : CaseDelta
  flags : Flags
  deriving DecidableEq, Repr

/-- A character with its case forms and flags. -/
structure CasedCharacter where
  lower : Int
  upper : Int
  flags : Flags
  deriving DecidableEq, Repr

namespace CharacterInfo

/-- The info of an unassigned character: its own case forms and no flags. -/
def blank : CharacterInfo :=
  { lower := .zero, upper := .zero, flags := .none }

def apply (info : CharacterInfo) (code : Int) : CasedCharacter :=
  { lower := info.lower.apply code, upper := info.upper.apply code, flags := info.flags }

def describe (info : CharacterInfo) : String :=
  "CharacterInfo(lower_delta=" ++ info.lower.describe "CaseDelta" ++ ", upper_delta=" ++
    info.upper.describe "CaseDelta" ++ ", flags=" ++ info.flags.describe ++ ")"

def key (info : CharacterInfo) : List Int :=
  [info.lower.value, info.upper.value, info.flags.bits]

theorem eq_of_key_eq {left right : CharacterInfo} (same : left.key = right.key) :
    left = right := by
  obtain ⟨⟨_⟩, ⟨_⟩, ⟨_⟩⟩ := left
  obtain ⟨⟨_⟩, ⟨_⟩, ⟨_⟩⟩ := right
  simpa [key] using same

instance : Ord CharacterInfo := ⟨compareOn key⟩

instance : Std.TransOrd CharacterInfo :=
  inferInstanceAs (Std.TransCmp (compareOn key))

instance : Std.LawfulEqOrd CharacterInfo where
  eq_of_compare {left right} same := by
    have keys : compare left.key right.key = .eq := same
    exact eq_of_key_eq (Std.LawfulEqCmp.compare_eq_iff_eq.mp keys)

end CharacterInfo

end CharacterTables
