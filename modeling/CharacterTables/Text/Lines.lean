/-!
# Lines of a text

A line ends at any of the line break characters; a carriage return followed by a line
feed is one break. A break at the very end opens no further line.
-/

set_option autoImplicit false

namespace CharacterTables.Text

/-- Writes every carriage return, with the line feed after it if there is one, as a
single line feed. -/
def unifyNewlines (text : List Char) : List Char :=
  go text []
where
  go : List Char → List Char → List Char
    | [], done => done.reverse
    | '\r' :: '\n' :: rest, done => go rest ('\n' :: done)
    | '\r' :: rest, done => go rest ('\n' :: done)
    | c :: rest, done => go rest (c :: done)

/-- The characters that end a line: line feed, line tabulation, form feed, carriage
return, the three information separators above the unit separator, next line, and the
line and paragraph separators. -/
def isLineBreak (c : Char) : Bool :=
  let value := c.toNat
  (decide (0x0A ≤ value) && decide (value ≤ 0x0D)) ||
    (decide (0x1C ≤ value) && decide (value ≤ 0x1E)) ||
    value == 0x85 || value == 0x2028 || value == 0x2029

def breakLines (text : List Char) : List (List Char) :=
  text.foldr
    (fun c found =>
      if isLineBreak c then [] :: found
      else match found with
        | [] => [[c]]
        | line :: others => (c :: line) :: others)
    []

def lines (text : List Char) : List (List Char) :=
  breakLines (unifyNewlines text)

end CharacterTables.Text
