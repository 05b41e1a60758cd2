/-!
# Codes with a meaning of their own

The characters that the tables treat apart, and the lists that the lexical grammar makes
of them. Data files may spell any integer as a code.
-/

set_option autoImplicit false

namespace CharacterTables.Code

/-- The largest code of the basic plane. -/
def maxBasic : Int := 0xFFFF

/-- How many codes the basic plane has. -/
def basicCount : Nat := 0x10000

theorem lt_basicCount_iff {code : Int} : code < basicCount ↔ code ≤ maxBasic := by
  unfold maxBasic basicCount
  omega

def characterTabulation : Int := 0x0009
def lineFeed : Int := 0x000A
def lineTabulation : Int := 0x000B
def formFeed : Int := 0x000C
def carriageReturn : Int := 0x000D
def space : Int := 0x0020
def capitalS : Int := 0x0053
def smallI : Int := 0x0069
def noBreakSpace : Int := 0x00A0
def smallSharpS : Int := 0x00DF
def capitalIWithDotAbove : Int := 0x0130
def combiningDotAbove : Int := 0x0307
def capitalSigma : Int := 0x03A3
def smallFinalSigma : Int := 0x03C2
def smallSigma : Int := 0x03C3
def zeroWidthNonJoiner : Int := 0x200C
def zeroWidthJoiner : Int := 0x200D
def lineSeparator : Int := 0x2028
def paragraphSeparator : Int := 0x2029
def ideographicSpace : Int := 0x3000
def zeroWidthNoBreakSpace : Int := 0xFEFF

/-- White space of the lexical grammar, besides the category of space separators. -/
def whiteSpace : List Int :=
  [characterTabulation, lineTabulation, formFeed, space, noBreakSpace, zeroWidthNoBreakSpace]

def lineTerminators : List Int :=
  [lineFeed, carriageReturn, lineSeparator, paragraphSeparator]

/-- Characters that may continue an identifier without having the property for it. -/
def identifierJoiners : List Int :=
  [zeroWidthNonJoiner, zeroWidthJoiner]

/-- The category of space separators. -/
def spaceCategory : String := "Zs"

/-- Whether the lexical grammar takes a character for a space: it is a space separator, or
listed as white space or as a line terminator. -/
def isSpace (code : Int) (category : String) : Bool :=
  category == spaceCategory || whiteSpace.contains code || lineTerminators.contains code

end CharacterTables.Code
