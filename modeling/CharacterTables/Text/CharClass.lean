/-!
# Character classes by ranges

A class of characters is a list of closed ranges of scalar values in ascending
order; membership is a search through it.
-/

set_option autoImplicit false

namespace CharacterTables.Text

/-- Closed ranges of scalar values, each given by its first and last member. -/
abbrev CharClass := List (Nat × Nat)

namespace CharClass

def holds (ranges : CharClass) (value : Nat) : Bool :=
  ranges.any fun range => decide (range.1 ≤ value) && decide (value ≤ range.2)

end CharClass

end CharacterTables.Text
