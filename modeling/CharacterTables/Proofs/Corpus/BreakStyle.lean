import Mathlib
import CharacterTables.Proofs.Text.LineBreaks
import CharacterTables.Corpus.CaseFold
import CharacterTables.Corpus.CharacterRecord
import CharacterTables.Corpus.DerivedProperty
import CharacterTables.Corpus.SpecialCase

/-!
# Readers and line breaks

The readers see a text as numbered lines. Whatever breaks the lines, they find the same records
in the same order and stop at the same fault, with the same line and number to show.
-/

set_option autoImplicit false

namespace CharacterTables

open Text

/-- Texts between which no reader can tell: the records, their order and how the reading ends are
the same. -/
structure ReadAlike (text other : List Char) : Prop where
  characters : readCharacters text = readCharacters other
  properties : readProperties text = readProperties other
  folds : readFolds text = readFolds other
  specialCases : readSpecialCases text = readSpecialCases other

section Lines

variable {text other : List Char} (same : lines text = lines other)
include same

theorem numberedLines_congr : numberedLines text = numberedLines other := by
  unfold numberedLines
  rw [same]

theorem dataLines_congr : dataLines text = dataLines other := by
  unfold dataLines
  rw [numberedLines_congr same]

theorem readAlike_of_lines : ReadAlike text other where
  characters := congrArg (readCharacterLines · []) (dataLines_congr same)
  properties := congrArg (readPropertyLines 0 · []) (numberedLines_congr same)
  folds := congrArg (Reading.ofLines .foldings readFold · []) (dataLines_congr same)
  specialCases :=
    congrArg (Reading.ofLines .specialCasings readSpecialCase · []) (dataLines_congr same)

end Lines

/-- Texts that fall into the same lines are read alike, each with breaks of its own. -/
theorem readAlike_of_splitsInto {text other : List Char} {sheet : List (List Char)}
    (splits : SplitsInto text sheet) (again : SplitsInto other sheet) : ReadAlike text other :=
  readAlike_of_lines (splits.lines_eq.trans again.lines_eq.symm)

/-- A text is read like the text in which every carriage return, with the line feed behind it if
there is one, has become a line feed. Both fall into the same lines, of which none holds a break. -/
theorem readAlike_unifyNewlines (text : List Char) :
    ReadAlike text (unifyNewlines text) ∧ '\r' ∉ unifyNewlines text ∧
      ∃ sheet, SplitsInto text sheet ∧ SplitsInto (unifyNewlines text) sheet ∧
        ∀ line ∈ sheet, Unbroken line := by
  have splits := splitsInto_lines text
  have again : SplitsInto (unifyNewlines text) (lines text) :=
    lines_eq_iff.mp (lines_unifyNewlines text)
  exact ⟨readAlike_of_splitsInto splits again, return_not_mem_unifyNewlines text,
    lines text, splits, again, splits.unbroken⟩

end CharacterTables
