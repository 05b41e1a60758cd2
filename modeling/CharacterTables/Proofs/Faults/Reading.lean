import Mathlib
import CharacterTables.Proofs.Corpus.SectionTotals
import CharacterTables.Proofs.Heading
import CharacterTables.Proofs.Outcome
import CharacterTables.Proofs.Wording
import CharacterTables.Registry

/-!
# How reading fails

Every fault of a text is that of a line, and reported, but for a stated total: in digits that are
no decimal numeral, with too many of them, or behind codes too many to be written.
-/

set_option autoImplicit false

namespace CharacterTables

open Text

variable {text : List Char}

/-! ## Faults of lines -/

/-- The fault is that of a line. -/
def ReadFault.OfLine (fault : ReadFault) : Prop :=
  ∃ file number text cause, fault = .line file number text cause

theorem ReadFault.OfLine.reported {fault : ReadFault} (ofLine : fault.OfLine) :
    Failure.Reported (.read fault) := by
  obtain ⟨file, number, text, cause, rfl⟩ := ofLine
  exact Failure.reported_line file number text cause

/-- A stated total is written in digits that are no decimal numeral, or has too many of them, or
stands behind codes of which too many digits would have to be written. -/
inductive BadTotal (text : List Char) : ReadFault → Prop
  | notDecimal {line total} : line ∈ numberedLines text → line.total? = some total →
      isDigitText total = true → readDecimal? total = none → BadTotal text (.notDecimal total)
  | totalTooLong {line total} : line ∈ numberedLines text → line.total? = some total →
      isDigitText total = true → maxDecimalPlaces < leadingDigits total →
      BadTotal text (.totalTooLong (leadingDigits total))
  | countTooLong {before line after total} : numberedLines text = before ++ line :: after →
      line.total? = some total → decimalLimit ≤ (before.foldl countAfter 0).natAbs →
      BadTotal text .countTooLong

theorem failsOnly_require_of {ε : Type} {described : ε → Prop} {condition : Bool} {fault : ε}
    (refused : condition = false → described fault) :
    FailsOnly described (require condition fault) := by
  cases condition with
  | true => exact failsOnly_ok ()
  | false => exact failsOnly_error (refused rfl)

theorem failsOnly_require {ε : Type} {described : ε → Prop} {condition : Bool} {fault : ε}
    (holds : described fault) : FailsOnly described (require condition fault) :=
  failsOnly_require_of fun _ => holds

end CharacterTables
