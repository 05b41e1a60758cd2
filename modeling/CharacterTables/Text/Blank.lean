import CharacterTables.Text.CharClass

/-!
# Blank characters

The blanks that surround fields and separate words, and the operations on lines of text
that only look at them: trimming, words, and cutting at separators.
-/

set_option autoImplicit false

namespace CharacterTables.Text

/-- The blank characters: the ASCII controls that move the cursor or separate
information, the space, and the other spacing characters of the standard. Zero-width
characters, U+180E and U+FEFF are not among them. -/
def blanks : CharClass :=
  [(0x09, 0x0D), (0x1C, 0x20), (0x85, 0x85), (0xA0, 0xA0), (0x1680, 0x1680),
   (0x2000, 0x200A), (0x2028, 0x2029), (0x202F, 0x202F), (0x205F, 0x205F),
   (0x3000, 0x3000)]

def isBlank (c : Char) : Bool :=
  blanks.holds c.toNat

/-- Whether a text has no character that is not blank. -/
def isBlankText (text : List Char) : Bool :=
  text.all isBlank

def trim (text : List Char) : List Char :=
  ((text.dropWhile isBlank).reverse.dropWhile isBlank).reverse

/-- The pieces between the characters that satisfy the test, in order. There is always
one piece more than there are separators. -/
def pieces (separates : Char → Bool) (text : List Char) : List (List Char) :=
  text.foldr
    (fun c found =>
      if separates c then [] :: found
      else match found with
        | [] => [[c]]
        | piece :: others => (c :: piece) :: others)
    [[]]

section Pieces

variable {separates : Char → Bool} {c : Char}

theorem exists_pieces_eq_cons (separates : Char → Bool) (text : List Char) :
    ∃ piece others, pieces separates text = piece :: others := by
  induction text with
  | nil => exact ⟨[], [], rfl⟩
  | cons c rest ih =>
      obtain ⟨piece, others, found⟩ := ih
      unfold pieces at found ⊢
      by_cases cut : separates c
      · exact ⟨[], piece :: others, by simp [found, cut]⟩
      · exact ⟨c :: piece, others, by simp [found, cut]⟩

theorem pieces_cons_of_separates (cut : separates c = true) (rest : List Char) :
    pieces separates (c :: rest) = [] :: pieces separates rest := by
  simp [pieces, cut]

theorem exists_pieces_cons (kept : separates c = false) (rest : List Char) :
    ∃ piece others, pieces separates rest = piece :: others ∧
      pieces separates (c :: rest) = (c :: piece) :: others := by
  obtain ⟨piece, others, found⟩ := exists_pieces_eq_cons separates rest
  refine ⟨piece, others, found, ?_⟩
  unfold pieces at found ⊢
  simp [found, kept]

end Pieces

def words (text : List Char) : List (List Char) :=
  (pieces isBlank text).filter fun piece => !piece.isEmpty

end CharacterTables.Text
