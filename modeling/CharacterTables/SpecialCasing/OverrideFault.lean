import CharacterTables.Text.Numeral

/-!
# Unexpected special casings

The users of the tables rely on special casing having a certain shape. These are the ways
in which the data may leave it.
-/

set_option autoImplicit false

namespace CharacterTables

open Text

/-- How special casings differ from the shape that the tables rely on. -/
inductive OverrideFault where
  | asciiCasing
  | latin1Lowercase
  | latin1ContextualUppercase
  /-- The Latin-1 characters with a special uppercase form are not just sharp s. -/
  | latin1Uppercase (found : List Int)
  | sharpSForm
  /-- The characters with a special lowercase form are not just I with dot. -/
  | lowercase (found : List Int)
  | dottedIForm
  | contextualUppercase (found : List Int)
  /-- The characters with a special lowercase form in some context are not just sigma. -/
  | contextualLowercase (found : List Int)
  | sigmaForm
  | unknownLanguages (found : List String)
  | longSequences (limit : Nat)
  | unknownContexts (found : List String)
  deriving DecidableEq, Repr

def OverrideFault.message : OverrideFault → String
  | asciiCasing => "ASCII code points have language-independent special casing"
  | latin1Lowercase => "Latin-1 code points have special lowercasing"
  | latin1ContextualUppercase => "Latin-1 code points have conditional special uppercasing"
  | latin1Uppercase found =>
      "U+00DF should be the only Latin-1 code point with special uppercasing, found " ++
        codeList found
  | sharpSForm => "U+00DF should uppercase to [U+0053, U+0053]"
  | lowercase found =>
      "U+0130 should be the only code point with special lowercasing, found " ++ codeList found
  | dottedIForm => "U+0130 should lowercase to [U+0069, U+0307]"
  | contextualUppercase found =>
      "language-independent conditional uppercasing found for " ++ codeList found
  | contextualLowercase found =>
      "U+03A3 should be the only code point with language-independent conditional " ++
        "lowercasing, found " ++ codeList found
  | sigmaForm => "U+03A3 should lowercase to [U+03C2] in the Final_Sigma context"
  | unknownLanguages found => "unexpected casing languages: " ++ ", ".intercalate found
  | longSequences limit =>
      "replacement sequences longer than " ++ toString limit ++ " code points"
  | unknownContexts found => "unknown casing contexts: " ++ ", ".intercalate found

end CharacterTables
