import Mathlib
import CharacterTables.Failure
import CharacterTables.Proofs.Corpus.LineByLine
import CharacterTables.Proofs.Corpus.LineNumbers
import CharacterTables.Proofs.Corpus.SectionTotals
import CharacterTables.Proofs.Text.Joining

/-!
# Reading texts one behind the other

A text that is read to its end and ends its last line can be continued: what comes behind it is read
as if it stood alone, but for the numbers of its lines. A fault of a line does not depend on what
follows the line. Both hold for every reader that goes line by line, looks at the number of a line
for its faults only, and ends a text in the state in which it begins.
-/

set_option autoImplicit false

namespace CharacterTables

open Text

/-! ## Later lines -/

def Line.later (count : Nat) (line : Line) : Line :=
  { line with number := line.number + count }

def ReadFault.later (count : Nat) : ReadFault → ReadFault
  | .line file number text cause => .line file (number + count) text cause
  | fault => fault

theorem numberedLines_append {text : List Char} (ended : Ended text) (more : List Char) :
    numberedLines (text ++ more) =
      numberedLines text ++ (numberedLines more).map (Line.later (lines text).length) := by
  have moved : (lines more).zipIdx (1 + (lines text).length) =
      ((lines more).zipIdx 1).map (Prod.map id (· + (lines text).length)) := by
    rw [List.map_snd_add_zipIdx_eq_zipIdx, Nat.add_comm]
  unfold numberedLines
  rw [lines_append ended, List.zipIdx_append, List.map_append, moved, List.map_map, List.map_map]
  rfl

theorem mem_numberedLines_iff {text : List Char} {line : Line} :
    line ∈ numberedLines text ↔
      1 ≤ line.number ∧ (lines text)[line.number - 1]? = some line.text := by
  obtain ⟨number, content⟩ := line
  rw [← List.mk_mem_zipIdx_iff_le_and_getElem?_sub]
  simp [numberedLines]

/-! ## Readers that do not look at numbers -/

namespace LineReader

variable {σ α : Type} {reader : LineReader σ α} {shift : Nat → σ → σ}

/-- Moving all lines moves the faults, and the state with it, but nothing else. -/
structure Steady (reader : LineReader σ α) (shift : Nat → σ → σ) : Prop where
  step : ∀ count state line, reader.step (shift count state) (line.later count) =
    ((reader.step state line).map (Prod.map (shift count) id)).mapError (ReadFault.later count)
  close : ∀ count state,
    reader.close (shift count state) = (reader.close state).map (ReadFault.later count)

theorem Steady.read_later (steady : reader.Steady shift) (count : Nat) (state : σ)
    (lines : List Line) :
    reader.read (shift count state) (lines.map (Line.later count)) =
      { runs := (reader.read state lines).runs
        stop := (reader.read state lines).stop.map (ReadFault.later count) } := by
  induction lines generalizing state with
  | nil => simp [read, steady.close]
  | cons line rest ih =>
      have moved := steady.step count state line
      rw [List.map_cons]
      cases stepped : reader.step state line with
      | error fault =>
          rw [stepped] at moved
          rw [read_cons_of_error _ moved, read_cons_of_error _ stepped]
          rfl
      | ok reached =>
          rw [stepped] at moved
          rw [read_cons_of_ok _ moved, read_cons_of_ok _ stepped, ih]
          rfl

end LineReader

/-! ## The steady readers -/

theorem ReadFault.later_eq_renumber (count : Nat) :
    ReadFault.later count = ReadFault.renumber (· + count) := by
  funext fault
  cases fault <;> rfl

/-- To move all lines is to give them other numbers. -/
theorem LineReader.Unnumbered.steady {σ α : Type} {reader : LineReader σ α}
    {move : (Nat → Nat) → σ → σ} (unnumbered : reader.Unnumbered move) :
    reader.Steady fun count => move (· + count) where
  step count state line := by
    rw [ReadFault.later_eq_renumber]
    exact unnumbered.step (· + count) state line
  close count state := by
    rw [ReadFault.later_eq_renumber]
    exact unnumbered.close (· + count) state

/-- The first line of the range moves with the others. -/
def OpenRange.later (count : Nat) (range : OpenRange) : OpenRange :=
  { range with line := range.line.later count }

theorem steady_characterReader :
    characterReader.Steady fun count => Option.map (OpenRange.later count) :=
  unnumbered_characterReader.steady

theorem steady_propertyReader : propertyReader.Steady fun _ count => count :=
  unnumbered_propertyReader.steady

/-! ## Going on behind a text -/

/-- The end of the text comes where the last line of a range should. -/
def ReadFault.Unclosed (fault : ReadFault) : Prop :=
  ∃ file number text, fault = .line file number text .unclosedRange

/-- How the text is read where more text follows: the rest as if it stood alone, if the text is read
to its end, and else not at all. -/
structure Continues {α : Type} (read : List Char → Reading α) (text : List Char) : Prop where
  complete : (read text).stop = none → ∀ more,
    (read (text ++ more)).records = (read text).records ++ (read more).records ∧
      (read (text ++ more)).stop =
        (read more).stop.map (ReadFault.later (lines text).length)
  stopped : ∀ {fault}, (read text).stop = some fault → ¬ fault.Unclosed → ∀ more,
    (read (text ++ more)).records = (read text).records ∧ (read (text ++ more)).stop = some fault

namespace LineReader

variable {σ α : Type} {reader : LineReader σ α} {shift : Nat → σ → σ} {start : σ}
  {text : List Char}

theorem Steady.continues (steady : reader.Steady shift) (fixed : ∀ count, shift count start = start)
    (ended : Ended text)
    (ends : ∀ final fault, reader.close final = some fault → fault.Unclosed)
    (back : ∀ runs final, reader.Passes start (numberedLines text) runs final →
      reader.close final = none → final = start) :
    Continues (fun text => reader.read start (numberedLines text)) text := by
  have later (more : List Char) :
      reader.read start ((numberedLines more).map (Line.later (lines text).length)) =
        { runs := (reader.read start (numberedLines more)).runs
          stop := (reader.read start (numberedLines more)).stop.map
            (ReadFault.later (lines text).length) } := by
    have moved := steady.read_later (lines text).length start (numberedLines more)
    rwa [fixed] at moved
  rcases reader.passes_or_stuck start (numberedLines text) with ⟨runs, final, passes⟩ |
    ⟨before, line, after, runs, final, fault, split, passes, stuck⟩
  · constructor
    · intro complete more
      rw [passes.read_eq] at complete
      have same := back runs final passes complete
      rw [numberedLines_append ended, passes.read_append, same, later, passes.read_eq]
      exact ⟨by simp [Reading.records, Reading.behind], rfl⟩
    · intro fault stopped closed
      rw [passes.read_eq] at stopped
      exact absurd (ends final fault stopped) closed
  · have read (more : List Line) : reader.read start (numberedLines text ++ more) =
        { runs, stop := some fault } := by
      rw [split, List.append_assoc, List.cons_append]
      exact passes.read_fault stuck (after ++ more)
    have alone := read []
    rw [List.append_nil] at alone
    constructor
    · intro complete
      rw [alone] at complete
      cases complete
    · intro other stopped _ more
      rw [alone] at stopped
      rw [numberedLines_append ended, read, alone]
      exact ⟨rfl, stopped⟩

end LineReader

/-! ## Where a fault lies -/

/-- The fault is that of a line of the text: a fault of the data, worded with the place before and
the line behind. -/
structure LiesIn (file : DataFile) (text : List Char) (fault : ReadFault) : Prop where
  reported : Failure.isCorpusFault (.read fault) = true
  placed : ∃ number line cause, 1 ≤ number ∧ number ≤ (lines text).length ∧
    (lines text)[number - 1]? = some line ∧ fault = .line file number line cause ∧
    fault.message = file.name ++ ":" ++ toString number ++ ": " ++ cause.message ++ ": " ++
      quoted line

theorem liesIn_fault {file : DataFile} {text : List Char} {line : Line}
    (listed : line ∈ numberedLines text) (cause : LineFault) :
    LiesIn file text (line.fault file cause) where
  reported := rfl
  placed := by
    obtain ⟨counted, found⟩ := mem_numberedLines_iff.mp listed
    obtain ⟨inside, _⟩ := List.getElem?_eq_some_iff.mp found
    exact ⟨line.number, line.text, cause, counted, by omega, found, rfl, rfl⟩

namespace LineReader

variable {σ α : Type} {reader : LineReader σ α} {blames : ReadFault → Prop} {lines : List Line}

/-- A fault is one of a step or of the end, met in a state that the steps before have kept. -/
theorem stop_read (holds : σ → Prop) {state : σ} {fault : ReadFault}
    (keeps : ∀ line ∈ lines, ∀ state next runs, holds state →
      reader.step state line = .ok (next, runs) → holds next)
    (faults : ∀ line ∈ lines, ∀ state fault, holds state →
      reader.step state line = .error fault → blames fault)
    (closes : ∀ state fault, holds state → reader.close state = some fault → blames fault)
    (start : holds state) (stopped : (reader.read state lines).stop = some fault) :
    blames fault := by
  induction lines generalizing state with
  | nil => exact closes state fault start stopped
  | cons line rest ih =>
      obtain ⟨own, others⟩ := List.forall_mem_cons.mp keeps
      obtain ⟨first, later⟩ := List.forall_mem_cons.mp faults
      cases stepped : reader.step state line with
      | error cause =>
          rw [read_cons_of_error rest stepped] at stopped
          cases stopped
          exact first state fault start stepped
      | ok reached =>
          obtain ⟨next, runs⟩ := reached
          rw [read_cons_of_ok rest stepped] at stopped
          exact ih others later (own state next runs start stepped) stopped

end LineReader

/-! ## The four readers -/

section Readers

variable {text : List Char} {fault : ReadFault}

theorem continues_recordReader {α : Type} {file : DataFile}
    {read : Line → Except LineFault (Option α)} (ended : Ended text)
    (same : ∀ change line, read (line.renumber change) = read line) :
    Continues (fun text => (recordReader file read).read () (numberedLines text)) text :=
  (unnumbered_recordReader file same).steady.continues (fun _ => rfl) ended
    (fun _ _ closed => by cases closed) fun _ _ _ _ => rfl

theorem liesIn_recordReader {α : Type} {file : DataFile}
    {read : Line → Except LineFault (Option α)}
    (stopped : ((recordReader file read).read () (numberedLines text)).stop = some fault) :
    LiesIn file text fault := by
  refine LineReader.stop_read (fun _ => True) (fun _ _ _ _ _ _ _ => trivial)
    (fun line listed _ _ _ stuck => ?_) (fun _ _ _ closed => by cases closed) trivial stopped
  cases data : line.isData with
  | false =>
      rw [recordReader_step_of_not_isData data] at stuck
      cases stuck
  | true =>
      cases seen : read line with
      | error cause =>
          rw [recordReader_step_of_error data seen] at stuck
          cases stuck
          exact liesIn_fault listed cause
      | ok record =>
          rw [recordReader_step_of_ok data seen] at stuck
          cases stuck

theorem continues_readCharacters (ended : Ended text) : Continues readCharacters text := by
  have closes (final : Option OpenRange) (fault : ReadFault)
      (closed : characterReader.close final = some fault) : fault.Unclosed := by
    obtain ⟨range, _, rfl⟩ := Option.map_eq_some_iff.mp closed
    exact ⟨.characters, range.line.number, range.line.text, rfl⟩
  have back (final : Option OpenRange) (complete : characterReader.close final = none) :
      final = none :=
    Option.map_eq_none_iff.mp complete
  rw [funext readCharacters_eq_read]
  exact steady_characterReader.continues (fun _ => rfl) ended closes fun _ final _ => back final

/-- What a line does: nothing, or it is at fault, or it opens a range, or it gives one run. -/
theorem characterReader_step_cases (opened : Option OpenRange) (line : Line) :
    characterReader.step opened line = .ok (opened, []) ∨
      (∃ cause, characterReader.step opened line = .error (line.fault .characters cause)) ∨
      (∃ first traits,
        characterReader.step opened line = .ok (some { line, first, traits }, [])) ∨
      ∃ run, characterReader.step opened line = .ok (none, [run]) := by
  cases data : line.isData with
  | false => exact .inl (characterReader_step_of_not_isData data)
  | true =>
      cases opened with
      | none =>
          cases seen : readCharacter line with
          | error cause =>
              exact .inr (.inl ⟨cause, characterReader_step_of_bad_character data seen⟩)
          | ok found =>
              obtain ⟨first, traits⟩ := found
              cases opens : traits.opensRange with
              | true =>
                  exact .inr (.inr (.inl
                    ⟨first, traits, characterReader_step_first data seen opens⟩))
              | false => exact .inr (.inr (.inr ⟨_, characterReader_step_single data seen opens⟩))
      | some range =>
          cases seen : readRangeEnd range.first line with
          | error cause =>
              exact .inr (.inl ⟨cause, characterReader_step_of_bad_end range data seen⟩)
          | ok last => exact .inr (.inr (.inr ⟨_, characterReader_step_last range data seen⟩))

/-- The first line of an open range is one of the lines, and is blamed if the range stays open. -/
theorem liesIn_readCharacters (stopped : (readCharacters text).stop = some fault) :
    LiesIn .characters text fault := by
  rw [readCharacters_eq_read] at stopped
  have keeps (line : Line) (listed : line ∈ numberedLines text) (opened next : Option OpenRange)
      (runs : List (Run CharacterRecord))
      (inside : ∀ range ∈ opened, range.line ∈ numberedLines text)
      (stepped : characterReader.step opened line = .ok (next, runs)) :
      ∀ range ∈ next, range.line ∈ numberedLines text := by
    rcases characterReader_step_cases opened line with same | ⟨_, same⟩ | ⟨_, _, same⟩ | ⟨_, same⟩
    · rw [same] at stepped
      cases stepped
      exact inside
    · rw [same] at stepped
      cases stepped
    · rw [same] at stepped
      cases stepped
      rintro range ⟨⟩
      exact listed
    · rw [same] at stepped
      cases stepped
      exact nofun
  have faults (line : Line) (listed : line ∈ numberedLines text) (opened : Option OpenRange)
      (fault : ReadFault) (stuck : characterReader.step opened line = .error fault) :
      LiesIn .characters text fault := by
    rcases characterReader_step_cases opened line with same | ⟨_, same⟩ | ⟨_, _, same⟩ | ⟨_, same⟩
    all_goals
      rw [same] at stuck
      cases stuck
    exact liesIn_fault listed _
  have closes (opened : Option OpenRange) (fault : ReadFault)
      (inside : ∀ range ∈ opened, range.line ∈ numberedLines text)
      (closed : characterReader.close opened = some fault) : LiesIn .characters text fault := by
    obtain ⟨range, same, rfl⟩ := Option.map_eq_some_iff.mp closed
    exact liesIn_fault (inside range same) .unclosedRange
  have start : ∀ range ∈ (none : Option OpenRange), range.line ∈ numberedLines text := by simp
  exact LineReader.stop_read (fun opened => ∀ range ∈ opened, range.line ∈ numberedLines text)
    (fun line listed opened next runs => keeps line listed opened next runs)
    (fun line listed opened fault _ => faults line listed opened fault) closes start stopped

/-! ## Sections -/

/-- Each line with data has a total somewhere behind it. -/
def Totalled (lines : List Line) : Prop :=
  ∀ before line after, lines = before ++ line :: after → line.isData = true →
    ∃ other ∈ after, ∃ total, other.total? = some total

theorem totalled_cons_iff {line : Line} {rest : List Line} : Totalled (line :: rest) ↔
    (line.isData = true → ∃ other ∈ rest, ∃ total, other.total? = some total) ∧ Totalled rest := by
  constructor
  · intro totalled
    refine ⟨totalled [] line rest rfl, fun before other after split data => ?_⟩
    exact totalled (line :: before) other after (by rw [split]; rfl) data
  · rintro ⟨own, others⟩ before other after split data
    cases before with
    | nil =>
        obtain ⟨rfl, rfl⟩ := List.cons.inj split
        exact own data
    | cons first before =>
        obtain ⟨rfl, rfl⟩ := List.cons.inj split
        exact others before other after rfl data

/-- Behind its last total a text has no data, so that nothing is counted at its end. -/
theorem Totalled.count_eq {lines : List Line} {count final : Int}
    {runs : List (Run PropertyRecord)} (totalled : Totalled lines)
    (passes : propertyReader.Passes count lines runs final)
    (behind : count = 0 ∨ ∃ other ∈ lines, ∃ total, other.total? = some total) : final = 0 := by
  induction passes with
  | nil count =>
      rcases behind with zero | ⟨_, listed, _⟩
      · exact zero
      · cases listed
  | @cons line count middle final own others rest stepped _ ih =>
      obtain ⟨later, behindRest⟩ := totalled_cons_iff.mp totalled
      cases marked : line.total? with
      | some total =>
          cases checked : checkTotal line count total with
          | error fault =>
              rw [propertyReader_step_of_bad_total marked checked] at stepped
              cases stepped
          | ok accepted =>
              rw [propertyReader_step_total marked checked] at stepped
              cases stepped
              exact ih behindRest (.inl rfl)
      | none =>
          cases data : line.isData with
          | true => exact ih behindRest (.inr (later data))
          | false =>
              rw [propertyReader_step_of_not_isData marked data] at stepped
              cases stepped
              refine ih behindRest (behind.imp id ?_)
              rintro ⟨other, listed, total, found⟩
              rcases List.mem_cons.mp listed with rfl | inRest
              · rw [marked] at found
                cases found
              · exact ⟨other, inRest, total, found⟩

theorem continues_readProperties (ended : Ended text) (totalled : Totalled (numberedLines text)) :
    Continues readProperties text := by
  rw [funext readProperties_eq_read]
  exact steady_propertyReader.continues (fun _ => rfl) ended (fun _ _ closed => by cases closed)
    fun _ _ passes _ => totalled.count_eq passes (.inl rfl)

end Readers

/-- All four readers go on behind a text that ends its last line, the reader of properties where
each line with data has a total behind it. The other three are stopped by faults of lines only. -/
theorem readers_continue :
    (∀ text, Ended text → Continues readCharacters text ∧ Continues readFolds text ∧
      Continues readSpecialCases text ∧
      (Totalled (numberedLines text) → Continues readProperties text)) ∧
    ∀ text fault, ((readCharacters text).stop = some fault → LiesIn .characters text fault) ∧
      ((readFolds text).stop = some fault → LiesIn .foldings text fault) ∧
      ((readSpecialCases text).stop = some fault → LiesIn .specialCasings text fault) := by
  constructor
  · intro text ended
    have folds : Continues readFolds text := by
      rw [funext readFolds_eq_read]
      exact continues_recordReader ended fun _ _ => rfl
    have specialCases : Continues readSpecialCases text := by
      rw [funext readSpecialCases_eq_read]
      exact continues_recordReader ended fun _ _ => rfl
    exact ⟨continues_readCharacters ended, folds, specialCases, continues_readProperties ended⟩
  · intro text fault
    rw [readFolds_eq_read, readSpecialCases_eq_read]
    exact ⟨liesIn_readCharacters, liesIn_recordReader, liesIn_recordReader⟩

def keptFold : List Char := "# Foldings\n0041; C; 0061;\n".toList

def wrongFold : List Char := "0042; X; 0062;\n".toList

def closedSection : List Char := "0041; ID_Start\n# Total code points: 1\n".toList

def wrongTotal : List Char := "# Total code points: 2\n".toList

theorem readers_continue_wrong :
    (readFolds (keptFold ++ wrongFold)).stop =
        some (.line .foldings 3 "0042; X; 0062;".toList (.unknownStatus ['X'])) ∧
      (readProperties (closedSection ++ wrongTotal)).stop =
        some (.line .properties 3 "# Total code points: 2".toList (.wrongTotal 0)) ∧
      LiesIn .foldings wrongFold
        (.line .foldings 1 "0042; X; 0062;".toList (.unknownStatus ['X'])) := by
  have wrong : (readFolds wrongFold).stop =
      some (.line .foldings 1 "0042; X; 0062;".toList (.unknownStatus ['X'])) := by
    decide +kernel
  have lone : (readProperties wrongTotal).stop =
      some (.line .properties 1 "# Total code points: 2".toList (.wrongTotal 0)) := by
    decide +kernel
  have two : (lines keptFold).length = 2 ∧ (lines closedSection).length = 2 := by decide +kernel
  have totalled : Totalled (numberedLines closedSection) := by
    have split : numberedLines closedSection =
        [⟨1, "0041; ID_Start".toList⟩, ⟨2, "# Total code points: 1".toList⟩] := by
      decide +kernel
    rw [split, totalled_cons_iff, totalled_cons_iff]
    refine ⟨fun _ => ⟨_, List.mem_singleton_self _, "1".toList, by decide +kernel⟩,
      fun data => absurd data (by decide +kernel), fun before line after nothing => ?_⟩
    simp at nothing
  obtain ⟨_, folds, _, _⟩ := readers_continue.1 keptFold (by decide +kernel)
  obtain ⟨_, _, _, properties⟩ := readers_continue.1 closedSection (by decide +kernel)
  have foldsEnd := (folds.complete (by decide +kernel) wrongFold).2
  have propertiesEnd := ((properties totalled).complete (by decide +kernel) wrongTotal).2
  rw [wrong, two.1] at foldsEnd
  rw [lone, two.2] at propertiesEnd
  exact ⟨foldsEnd, propertiesEnd, (readers_continue.2 wrongFold _).2.1 wrong⟩

end CharacterTables
