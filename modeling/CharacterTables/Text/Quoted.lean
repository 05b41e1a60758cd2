import CharacterTables.Text.Numeral
import CharacterTables.Text.Printable

/-!
# Quoted text

Text as messages show it: between quotes, with everything that does not show itself
written by its number.
-/

set_option autoImplicit false

namespace CharacterTables.Text

def apostrophe : Char := Char.ofNat 0x27

def quotationMark : Char := Char.ofNat 0x22

def backslash : Char := Char.ofNat 0x5C

/-- The quote for a text: an apostrophe, unless the text holds an apostrophe and no
quotation mark. -/
def quoteFor (text : List Char) : Char :=
  if text.contains apostrophe && !text.contains quotationMark then quotationMark
  else apostrophe

/-- One character between the given quotes. The quote and the backslash are escaped by a
backslash; tab, line feed and carriage return have letters; other characters that do not
show themselves are written with two, four or eight hexadecimal places. -/
def escape (quote c : Char) : List Char :=
  if c = quote ∨ c = backslash then [backslash, c]
  else if c = '\t' then [backslash, 't']
  else if c = '\n' then [backslash, 'n']
  else if c = '\r' then [backslash, 'r']
  else if isPrintable c then [c]
  else if c.toNat < 0x100 then backslash :: 'x' :: hexLower 2 c.toNat
  else if c.toNat < 0x10000 then backslash :: 'u' :: hexLower 4 c.toNat
  else backslash :: 'U' :: hexLower 8 c.toNat

def quoted (text : List Char) : String :=
  let quote := quoteFor text
  String.ofList (quote :: text.flatMap (escape quote) ++ [quote])

/-- A text between quotes, as far as it fits into a number of characters. The closing quote
is lost with the rest of a text that does not fit. -/
def quotedWithin (limit : Nat) (text : List Char) : String :=
  String.ofList ((quoted text).toList.take limit)

end CharacterTables.Text
