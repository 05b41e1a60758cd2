import CharacterTables.Text.Blank
import CharacterTables.Text.Digit

/-!
# Numerals

Reading the hexadecimal numerals of the data files, with sign, marker and digit
separators, and decimal numerals in the digits of any script; writing codes with at
least four hexadecimal places.
-/

set_option autoImplicit false

namespace CharacterTables.Text

/-! ## Reading -/

/-- The value of a hexadecimal digit: a decimal digit of any script, or an ASCII letter
from A to F in either case. -/
def hexValue? (c : Char) : Option Nat :=
  if 'a' ≤ c ∧ c ≤ 'f' then some (c.toNat - 0x61 + 10)
  else if 'A' ≤ c ∧ c ≤ 'F' then some (c.toNat - 0x41 + 10)
  else decimalValue? c

/-- Reads hexadecimal digits behind those already worth `value`. A low line may stand
between two digits; `afterDigit` records whether the character before was a digit. -/
def readHexDigits (value : Nat) (afterDigit : Bool) : List Char → Option Nat
  | [] => if afterDigit then some value else none
  | c :: rest =>
      if c = '_' then
        if afterDigit then readHexDigits value false rest else none
      else
        match hexValue? c with
        | some digit => readHexDigits (16 * value + digit) true rest
        | none => none

/-- Reads an unsigned hexadecimal numeral. A zero followed by the letter X marks the base
and counts for nothing; a low line may follow the mark. -/
def readHexMagnitude? : List Char → Option Nat
  | zero :: mark :: rest =>
      if decimalValue? zero = some 0 ∧ (mark = 'x' ∨ mark = 'X') then
        match rest with
        | '_' :: digits => readHexDigits 0 false digits
        | digits => readHexDigits 0 false digits
      else readHexDigits 0 false (zero :: mark :: rest)
  | text => readHexDigits 0 false text

/-- Blanks that may surround a numeral. The information separators may not, although
they are blanks elsewhere. -/
def surroundsNumeral (c : Char) : Bool :=
  isBlank c && !(decide (0x1C ≤ c.toNat) && decide (c.toNat ≤ 0x1F))

/-- Reads a hexadecimal numeral: blanks, at most one sign, the magnitude, blanks. The
magnitude has no upper limit. -/
def readHex? (text : List Char) : Option Int :=
  match ((text.dropWhile surroundsNumeral).reverse.dropWhile surroundsNumeral).reverse with
  | '-' :: magnitude => (readHexMagnitude? magnitude).map fun value => -(value : Int)
  | '+' :: magnitude => (readHexMagnitude? magnitude).map fun value => (value : Int)
  | magnitude => (readHexMagnitude? magnitude).map fun value => (value : Int)

/-- How many places a decimal numeral may have, to be read or to be written. -/
def maxDecimalPlaces : Nat := 4300

/-- The first number with more decimal places than that. -/
def decimalLimit : Nat := Nat.pow 10 maxDecimalPlaces

def leadingDigits (text : List Char) : Nat :=
  (text.takeWhile fun c => (decimalValue? c).isSome).length

def isDigitText (text : List Char) : Bool :=
  !text.isEmpty && text.all isDigitForm

/-- Reads a decimal numeral in the digits of any script. Other forms of digits have a
value but do not form numerals. -/
def readDecimal? (text : List Char) : Option Nat :=
  if text.isEmpty then none
  else text.foldlM (fun value c => (decimalValue? c).map (10 * value + ·)) 0

/-! ## Writing -/

def zeroFill (width : Nat) (digits : List Char) : List Char :=
  List.replicate (width - digits.length) '0' ++ digits

/-- A code in uppercase hexadecimal, filled with zeros to four characters. The sign of a
negative code stands first and takes one of them. -/
def hexCode (code : Int) : String :=
  let digits := (Nat.toDigits 16 code.natAbs).map Char.toUpper
  String.ofList (if code < 0 then '-' :: zeroFill 3 digits else zeroFill 4 digits)

/-- A code as the standard writes it: `U+` and the code in hexadecimal. -/
def codeName (code : Int) : String :=
  "U+" ++ hexCode code

def codeList (codes : List Int) : String :=
  "[" ++ ", ".intercalate (codes.map codeName) ++ "]"

def hexLower (width value : Nat) : List Char :=
  zeroFill width (Nat.toDigits 16 value)

/-- A number in lowercase hexadecimal behind its `0x` mark, filled with zeros to four
characters, the mark and the sign included. -/
def markedHex (value : Int) : String :=
  String.ofList <|
    if value < 0 then '-' :: '0' :: 'x' :: hexLower 1 value.natAbs
    else '0' :: 'x' :: hexLower 2 value.natAbs

end CharacterTables.Text
