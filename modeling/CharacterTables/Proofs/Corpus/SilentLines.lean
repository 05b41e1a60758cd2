import Mathlib
import CharacterTables.Proofs.Corpus.LineNumbers
import CharacterTables.Proofs.Corpus.Rows
import CharacterTables.Proofs.Corpus.WrittenProperties
import CharacterTables.Proofs.Text.LineBreaks

/-!
# Silent lines are passed over

Blank lines and comments may be added anywhere between the lines of a text, well formed or not.
Each reader gives the same records, and the same fault of the same line: only the number of the
line goes up, by the number of lines added before it.
-/

set_option autoImplicit false

namespace CharacterTables

open Text

/-! ## Texts with lines added to them -/

/-- A line that says nothing: it is blank, or a comment behind blanks. -/
structure SilentLine where
  chars : List Char
  silent : IsSilent chars

/-- A text that is joined from parts by line feeds, with silent lines added between the parts. A
part is usually one line of the text, but may be any text at all. -/
inductive SheetLine where
  | own (text : List Char)
  | added (line : SilentLine)

namespace SheetLine

def own? : SheetLine → Option (List Char)
  | own text => some text
  | added _ => none

def text : SheetLine → List Char
  | own text => text
  | added line => line.chars

end SheetLine

def joined (parts : List (List Char)) : List Char :=
  ['\n'].intercalate parts

/-- The text alone, without the added lines. -/
def ownText (sheet : List SheetLine) : List Char :=
  joined (sheet.filterMap SheetLine.own?)

/-- The text with the added lines in it. -/
def fullText (sheet : List SheetLine) : List Char :=
  joined (sheet.map SheetLine.text)

/-- How many lines a part takes when a line feed ends it. -/
def lineCount (text : List Char) : Nat :=
  (lines (text ++ ['\n'])).length

/-- How many lines are added before a line of the text, which is given by its number. -/
def addedBefore : List SheetLine → Nat → Nat
  | [], _ => 0
  | .added _ :: rest, number => 1 + addedBefore rest number
  | .own text :: rest, number =>
      if number ≤ lineCount text then 0 else addedBefore rest (number - lineCount text)

/-! ## Ending the last line -/

theorem unlines_eq_joined {parts : List (List Char)} (filled : parts ≠ []) :
    unlines parts = joined parts ++ ['\n'] := by
  induction parts with
  | nil => exact absurd rfl filled
  | cons first parts ih =>
      cases parts with
      | nil => simp [unlines, joined]
      | cons second parts =>
          have later := ih (List.cons_ne_nil second parts)
          have opened : unlines (first :: second :: parts) =
              first ++ ['\n'] ++ unlines (second :: parts) := rfl
          rw [opened, later]
          simp [joined, List.intercalate_cons_cons]

/-- A line feed behind a text ends its last line, or is an empty line. -/
theorem lines_concat_feed (text : List Char) :
    ∃ behind, (∀ line ∈ behind, line = []) ∧ lines (text ++ ['\n']) = lines text ++ behind := by
  have feed : SplitsInto ['\n'] [[]] :=
    .single (List.forall_mem_nil _) (by decide) (fun same => by cases same) .nil
  obtain ⟨behind, empty, splits⟩ : ∃ behind, (∀ line ∈ behind, line = []) ∧
      SplitsInto (text ++ ['\n']) (lines text ++ behind) := by
    have known := splitsInto_lines text
    generalize lines text = sheet at known ⊢
    induction known with
    | nil => exact ⟨[[]], by simp, feed⟩
    | @last line _ unbroken =>
        exact ⟨[], by simp, .single unbroken (by decide) (fun same => by cases same) .nil⟩
    | @pair line rest sheet unbroken _ ih =>
        obtain ⟨behind, empty, splits⟩ := ih
        exact ⟨behind, empty, by simpa using SplitsInto.pair unbroken splits⟩
    | @single line rest sheet c unbroken breaks alone known ih =>
        obtain ⟨behind, empty, splits⟩ := ih
        by_cases last : c = '\r' ∧ rest = []
        · -- The carriage return at the end of the text and the line feed become one break.
          obtain ⟨rfl, rfl⟩ := last
          obtain rfl : sheet = [] := known.lines_eq.symm
          exact ⟨[], by simp, by simpa using SplitsInto.pair unbroken .nil⟩
        · refine ⟨behind, empty, ?_⟩
          have apart : c = '\r' → ∀ after, rest ++ ['\n'] ≠ '\n' :: after := by
            intro returns after same
            cases rest with
            | nil => exact last ⟨returns, rfl⟩
            | cons d rest =>
                obtain ⟨rfl, _⟩ := List.cons.inj same
                exact alone returns rest rfl
          simpa using SplitsInto.single unbroken breaks apart splits
  exact ⟨behind, empty, splits.lines_eq⟩

/-- Behind the joined parts, ending the last of them gives empty lines at most. -/
theorem lines_unlines_eq (parts : List (List Char)) :
    ∃ behind, (∀ line ∈ behind, line = []) ∧
      lines (unlines parts) = lines (joined parts) ++ behind := by
  cases parts with
  | nil => exact ⟨[], by simp, rfl⟩
  | cons first parts =>
      rw [unlines_eq_joined (List.cons_ne_nil first parts)]
      exact lines_concat_feed (joined (first :: parts))

theorem lines_unlines_cons (text : List Char) (parts : List (List Char)) :
    lines (unlines (text :: parts)) = lines (text ++ ['\n']) ++ lines (unlines parts) :=
  lines_append (.inr (by simp)) (unlines parts)

theorem SilentLine.lines_eq (line : SilentLine) : lines (line.chars ++ ['\n']) = [line.chars] := by
  have unbroken : ∀ text ∈ [line.chars], Unbroken text :=
    List.forall_mem_singleton.mpr line.silent.1
  simpa [unlines] using lines_unlines unbroken

/-! ## The lines of the text among the added ones -/

/-- One of the lines that are added. -/
def IsAdded (sheet : List SheetLine) (line : Line) : Prop :=
  ∃ silent : SilentLine, .added silent ∈ sheet ∧ line.text = silent.chars

/-- A line of the text goes behind all lines that are added before it. The sheet may lie behind
another, which had `count` lines of its own and has `moved`. -/
theorem amid_sheet {extra : Line → Prop} {change : Nat → Nat} {count moved : Nat}
    {sheet : List SheetLine} (added : ∀ line, IsAdded sheet line → extra line)
    (moves : ∀ number, 1 ≤ number →
      change (count + number) = moved + (number + addedBefore sheet number)) :
    Amid extra change
      (numberFrom (count + 1) (lines (unlines (sheet.filterMap SheetLine.own?))))
      (numberFrom (moved + 1) (lines (unlines (sheet.map SheetLine.text)))) := by
  induction sheet generalizing count moved with
  | nil => exact .nil
  | cons first sheet ih =>
      have later : ∀ line, IsAdded sheet line → extra line := by
        rintro line ⟨silent, listed, written⟩
        exact added line ⟨silent, List.mem_cons_of_mem _ listed, written⟩
      cases first with
      | added line =>
          rw [List.filterMap_cons_none rfl, List.map_cons, lines_unlines_cons, SheetLine.text,
            line.lines_eq, List.singleton_append, numberFrom_cons]
          refine .extra (added _ ⟨line, List.mem_cons_self, rfl⟩) (ih later ?_)
          intro number counted
          rw [moves number counted, addedBefore]
          omega
      | own text =>
          have part : (SheetLine.own text).own? = some text := rfl
          rw [List.filterMap_cons_some part, List.map_cons, lines_unlines_cons,
            lines_unlines_cons, SheetLine.text, numberFrom_append, numberFrom_append]
          have own : (numberFrom (count + 1) (lines (text ++ ['\n']))).map (Line.renumber change) =
              numberFrom (moved + 1) (lines (text ++ ['\n'])) := by
            refine map_renumber_numberFrom fun offset inside => ?_
            have within : 1 + offset ≤ lineCount text := by
              unfold lineCount
              omega
            rw [Nat.add_assoc, moves (1 + offset) (by omega), addedBefore, if_pos within]
            omega
          rw [← own]
          refine Amid.map_append ?_ _
          have next (start : Nat) : start + 1 + (lines (text ++ ['\n'])).length =
              start + lineCount text + 1 := by
            unfold lineCount
            omega
          rw [next, next]
          refine ih later fun number counted => ?_
          have beyond : ¬ lineCount text + number ≤ lineCount text := by omega
          rw [Nat.add_assoc, moves (lineCount text + number) (by omega), addedBefore,
            if_neg beyond, Nat.add_sub_cancel_left]
          omega

theorem amid_added (sheet : List SheetLine) :
    Amid (IsAdded sheet) (fun number => number + addedBefore sheet number)
      (numberedLines (unlines (sheet.filterMap SheetLine.own?)))
      (numberedLines (unlines (sheet.map SheetLine.text))) :=
  amid_sheet (fun _ added => added) fun number _ => by rw [Nat.zero_add, Nat.zero_add]

/-- A line that is not empty is found again behind the lines that are added before it. -/
theorem mem_numberedLines_fullText {sheet : List SheetLine} {line : Line}
    (listed : line ∈ numberedLines (ownText sheet)) (filled : line.text ≠ []) :
    line.renumber (fun number => number + addedBefore sheet number) ∈
      numberedLines (fullText sheet) := by
  obtain ⟨_, _, own⟩ := lines_unlines_eq (sheet.filterMap SheetLine.own?)
  obtain ⟨behind, empty, full⟩ := lines_unlines_eq (sheet.map SheetLine.text)
  have ended : line ∈ numberedLines (unlines (sheet.filterMap SheetLine.own?)) := by
    rw [numberedLines_eq_numberFrom, own, numberFrom_append]
    exact List.mem_append_left _ listed
  have found := (amid_added sheet).mem ended
  rw [numberedLines_eq_numberFrom, full, numberFrom_append] at found
  rcases List.mem_append.mp found with inside | last
  · exact inside
  · exact absurd (empty _ (text_of_mem_numberFrom last)) filled

/-! ## Passing over the added lines -/

/-- The added lines change nothing but the number of the line that is at fault: it goes up by the
number of lines added before that line. -/
structure PassesOver {α : Type} (read : List Char → Reading α) (sheet : List SheetLine) :
    Prop where
  records : (read (fullText sheet)).records = (read (ownText sheet)).records
  stop : (read (fullText sheet)).stop = (read (ownText sheet)).stop.map
    (ReadFault.renumber fun number => number + addedBefore sheet number)

namespace LineReader

variable {σ α : Type} {reader : LineReader σ α} {move : (Nat → Nat) → σ → σ} {start : σ}

/-- Empty lines behind the text are not read, so the last line may as well be ended. -/
theorem read_unlines
    (empty : ∀ line, line.text = [] → ∀ state, reader.step state line = .ok (state, []))
    (parts : List (List Char)) :
    reader.read start (numberedLines (unlines parts)) =
      reader.read start (numberedLines (joined parts)) := by
  obtain ⟨behind, blank, same⟩ := lines_unlines_eq parts
  rw [numberedLines_eq_numberFrom, same, numberFrom_append]
  exact read_append_of_ignored (fun line listed =>
    empty line (blank _ (text_of_mem_numberFrom listed))) start

theorem Unnumbered.passesOver (unnumbered : reader.Unnumbered move)
    (fixed : ∀ change, move change start = start) {sheet : List SheetLine}
    (empty : ∀ line, line.text = [] → ∀ state, reader.step state line = .ok (state, []))
    (ignored : ∀ line, IsAdded sheet line → ∀ state,
      reader.step state line = .ok (state, [])) :
    PassesOver (fun text => reader.read start (numberedLines text)) sheet := by
  have same := unnumbered.read_amid (amid_added sheet) ignored start
  rw [fixed, read_unlines empty, read_unlines empty] at same
  have records := congrArg Reading.records same
  have stop := congrArg Reading.stop same
  exact ⟨records, stop⟩

end LineReader

section Readers

variable {sheet : List SheetLine}

theorem IsAdded.isData {line : Line} (added : IsAdded sheet line) : line.isData = false := by
  obtain ⟨silent, _, written⟩ := added
  have quiet : IsSilent line.text := by
    rw [written]
    exact silent.silent
  exact quiet.isData

theorem isData_of_empty {line : Line} (empty : line.text = []) : line.isData = false := by
  have quiet : IsSilent line.text := by
    rw [empty]
    exact isSilent_nil
  exact quiet.isData

theorem passesOver_recordReader {α : Type} {file : DataFile}
    {read : Line → Except LineFault (Option α)}
    (same : ∀ change line, read (line.renumber change) = read line) :
    PassesOver (fun text => (recordReader file read).read () (numberedLines text)) sheet :=
  (unnumbered_recordReader file same).passesOver (fun _ => rfl)
    (fun _ empty state => recordReader_step_of_not_isData (isData_of_empty empty) state)
    fun _ added state => recordReader_step_of_not_isData added.isData state

theorem passesOver_readCharacters : PassesOver readCharacters sheet := by
  rw [funext readCharacters_eq_read]
  exact unnumbered_characterReader.passesOver (fun _ => rfl)
    (fun _ empty _ => characterReader_step_of_not_isData (isData_of_empty empty))
    fun _ added _ => characterReader_step_of_not_isData added.isData

theorem passesOver_readProperties
    (unmarked : ∀ line : SilentLine, .added line ∈ sheet → ¬ totalMark <+: line.chars) :
    PassesOver readProperties sheet := by
  have aside {line : Line} (added : IsAdded sheet line) : IsAside line.text := by
    obtain ⟨silent, listed, written⟩ := added
    rw [written]
    exact ⟨silent.silent, unmarked silent listed⟩
  have isAside_nil : IsAside [] := by decide
  have asideOfEmpty {line : Line} (empty : line.text = []) : IsAside line.text := by
    rw [empty]
    exact isAside_nil
  rw [funext readProperties_eq_read]
  exact unnumbered_propertyReader.passesOver (fun _ => rfl)
    (fun _ empty count => (asideOfEmpty empty).step count) fun _ added count =>
      (aside added).step count

end Readers

/-- All four readers pass over the added lines, the reader of properties over those that are not
totals of sections; and a line that is blamed is the line that was blamed before. -/
theorem readers_pass_over_silent (sheet : List SheetLine) :
    PassesOver readCharacters sheet ∧ PassesOver readFolds sheet ∧
      PassesOver readSpecialCases sheet ∧
      ((∀ line : SilentLine, .added line ∈ sheet → ¬ totalMark <+: line.chars) →
        PassesOver readProperties sheet) ∧
      ∀ line ∈ numberedLines (ownText sheet), line.text ≠ [] →
        line.renumber (fun number => number + addedBefore sheet number) ∈
          numberedLines (fullText sheet) := by
  have folds : PassesOver readFolds sheet := by
    rw [funext readFolds_eq_read]
    exact passesOver_recordReader fun _ _ => rfl
  have specialCases : PassesOver readSpecialCases sheet := by
    rw [funext readSpecialCases_eq_read]
    exact passesOver_recordReader fun _ _ => rfl
  exact ⟨passesOver_readCharacters, folds, specialCases, passesOver_readProperties,
    fun _ listed filled => mem_numberedLines_fullText listed filled⟩

def blankLine : SilentLine where
  chars := " ".toList
  silent := by decide

def remarkLine : SilentLine where
  chars := "  # letters".toList
  silent := by decide

def wrongSection : List SheetLine :=
  [.added blankLine, .own "0041; ID_Start".toList, .added remarkLine,
    .own "# Total code points: 2".toList, .added blankLine]

def firstLine : List Char := "3400;<Ideograph, First>;Lo;;;;;;;;;;;;".toList

def halfRange : List SheetLine :=
  [.added remarkLine, .own firstLine, .added remarkLine, .added blankLine]

theorem readers_pass_over_silent_faults :
    (readProperties (fullText wrongSection)).records = [⟨0x41, "ID_Start"⟩] ∧
      (readProperties (fullText wrongSection)).stop =
        some (.line .properties 4 "# Total code points: 2".toList (.wrongTotal 1)) ∧
      (readCharacters (fullText halfRange)).stop =
        some (.line .characters 2 firstLine .unclosedRange) ∧
      ⟨2, firstLine⟩ ∈ numberedLines (fullText halfRange) := by
  have unmarked : ∀ line : SilentLine, .added line ∈ wrongSection →
      ¬ totalMark <+: line.chars := by
    intro line listed
    have known : line = blankLine ∨ line = remarkLine := by
      simpa [wrongSection, or_comm] using listed
    rcases known with rfl | rfl
    · decide
    · decide
  have records : (readProperties (ownText wrongSection)).records = [⟨0x41, "ID_Start"⟩] := by
    decide +kernel
  have stop : (readProperties (ownText wrongSection)).stop =
      some (.line .properties 2 "# Total code points: 2".toList (.wrongTotal 1)) := by
    decide +kernel
  have unclosed : (readCharacters (ownText halfRange)).stop =
      some (.line .characters 1 firstLine .unclosedRange) := by
    decide +kernel
  have listed : ⟨1, firstLine⟩ ∈ numberedLines (ownText halfRange) := by decide +kernel
  have twoBefore : addedBefore wrongSection 2 = 2 := by decide +kernel
  have oneBefore : addedBefore halfRange 1 = 1 := by decide +kernel
  obtain ⟨characters, _, _, _, moved⟩ := readers_pass_over_silent halfRange
  obtain ⟨_, _, _, properties, _⟩ := readers_pass_over_silent wrongSection
  have passes := properties unmarked
  have place := moved ⟨1, firstLine⟩ listed (by decide)
  rw [Line.renumber, oneBefore] at place
  refine ⟨passes.records.trans records, ?_, ?_, place⟩
  · rw [passes.stop, stop, Option.map_some, ReadFault.renumber, twoBefore]
  · rw [characters.stop, unclosed, Option.map_some, ReadFault.renumber, oneBefore]

end CharacterTables
