import Mathlib
import CharacterTables.Proofs.Text.OneLine
import CharacterTables.Session.Network

/-!
# How failures are worded

A fault of a data file is worded in a single line, whatever the data are. Names of languages and
contexts are shown as they are, so that of them it has to be known that they are single words. What
the network says is shown as it is too.
-/

set_option autoImplicit false

namespace CharacterTables

open Text

theorem DataFile.oneLine_name (file : DataFile) : OneLine file.name := by
  cases file <;> decide +kernel

theorem LineFault.oneLine_message (fault : LineFault) : OneLine fault.message := by
  cases fault with
  | fieldCount allowed found =>
      have counts : OneLine (" or ".intercalate (allowed.map toString)) := by
        refine oneLine_intercalate (by decide) fun text listed => ?_
        obtain ⟨count, _, rfl⟩ := List.mem_map.mp listed
        exact oneLine_toString count
      exact ((OneLine.append (by decide +kernel) counts).append (by decide +kernel)).append
        (oneLine_toString found)
  | badNumeral field => exact OneLine.append (by decide +kernel) (oneLine_quoted field)
  | wrongTotal count =>
      exact (OneLine.append (by decide +kernel) (oneLine_toString_int count)).append
        (by decide +kernel)
  | unknownStatus status => exact OneLine.append (by decide +kernel) (oneLine_quoted status)
  | unclosedRange | notLastLine | backwardRange | trailingField | severalLanguages
    | severalContexts => decide +kernel

/-! ## Unfit data -/

/-- The names that an unexpected casing shows are single words. -/
def OverrideFault.Worded : OverrideFault → Prop
  | unknownLanguages found | unknownContexts found => ∀ name ∈ found, OneLine name
  | _ => True

theorem OverrideFault.Worded.oneLine_message {fault : OverrideFault} (worded : fault.Worded) :
    OneLine fault.message := by
  cases fault with
  | latin1Uppercase found | lowercase found | contextualUppercase found =>
      exact OneLine.append (by decide +kernel) (oneLine_codeList found)
  | contextualLowercase found =>
      exact (OneLine.append (by decide +kernel) (by decide +kernel)).append (oneLine_codeList found)
  | unknownLanguages found | unknownContexts found =>
      exact OneLine.append (by decide +kernel) (oneLine_intercalate (by decide) worded)
  | longSequences limit =>
      exact (OneLine.append (by decide +kernel) (oneLine_toString limit)).append
        (by decide +kernel)
  | asciiCasing | latin1Lowercase | latin1ContextualUppercase | sharpSForm | dottedIForm
    | sigmaForm => decide +kernel

def ShapeFault.Worded : ShapeFault → Prop
  | overrides fault => fault.Worded
  | _ => True

theorem ShapeFault.Worded.oneLine_message {fault : ShapeFault} (worded : fault.Worded) :
    OneLine fault.message := by
  cases fault with
  | noVersion line =>
      exact ((DataFile.oneLine_name _).append (by decide +kernel)).append (oneLine_quoted line)
  | mappingLeavesPlane code | supplementaryWhiteSpace code | lowercaseKept code
    | uppercaseKept code =>
      exact (oneLine_codeName code).append (by decide +kernel)
  | basicLowercase code mapping | basicUppercase code mapping | foldLeavesPlane code mapping =>
      exact ((oneLine_codeName code).append (by decide +kernel)).append (oneLine_codeName mapping)
  | supplementarySpaces codes =>
      exact OneLine.append (by decide +kernel) (oneLine_codeNames codes)
  | supplementarySpecialCase code =>
      exact OneLine.append (by decide +kernel) (oneLine_codeName code)
  | overrides fault => exact OverrideFault.Worded.oneLine_message worded

/-! ## Reported failures -/

namespace Failure

/-- The failure is a fault of the data, worded in a single line. -/
structure Reported (failure : Failure) : Prop where
  kind : failure.isCorpusFault = true
  oneLine : OneLine failure.message

theorem reported_line (file : DataFile) (number : Nat) (text : List Char) (fault : LineFault) :
    Reported (.read (.line file number text fault)) where
  kind := rfl
  oneLine :=
    (((((file.oneLine_name.append (by decide +kernel)).append (oneLine_toString number)).append
      (by decide +kernel)).append fault.oneLine_message).append (by decide +kernel)).append
      (oneLine_quoted text)

end Failure

/-! ## Answers of the network -/

namespace Answer

variable {answer : Answer} {failure : Failure}

/-- If the answer may be an error, it says so in a single line. -/
def Worded : Answer → Prop
  | content _ => True
  | status _ wording | unreachable wording => OneLine wording

end Answer

end CharacterTables
