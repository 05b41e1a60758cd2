import Mathlib
import CharacterTables.Corpus.CaseFold
import CharacterTables.Corpus.CharacterRecord
import CharacterTables.Corpus.DerivedProperty
import CharacterTables.Corpus.SpecialCase

/-!
# Readers that go line by line

Each reader goes through the numbered lines with a state: the range that is open, the count of the
section, or none. A line moves the state and gives runs of records, or it is a fault. What holds
for every such reader is proved once; the four readers of the data files are then shown to be such.
-/

set_option autoImplicit false

namespace CharacterTables

/-- A reader that takes one line at a time: what a line does in a state, and whether the text must
not end in a state. -/
structure LineReader (σ α : Type) where
  step : σ → Line → Except ReadFault (σ × List (Run α))
  close : σ → Option ReadFault

namespace Reading

variable {α : Type}

/-- The reading with runs before its own. -/
def behind (found : List (Run α)) (reading : Reading α) : Reading α :=
  { reading with runs := found ++ reading.runs }

@[simp] theorem behind_nil (reading : Reading α) : reading.behind [] = reading := rfl

@[simp] theorem behind_behind (found others : List (Run α)) (reading : Reading α) :
    (reading.behind others).behind found = reading.behind (found ++ others) := by
  simp [behind]

end Reading

namespace LineReader

variable {σ α : Type} {reader : LineReader σ α} {state next final : σ} {line : Line}
  {lines more : List Line} {runs found : List (Run α)} {fault : ReadFault}

def read (reader : LineReader σ α) (state : σ) : List Line → Reading α
  | [] => { runs := [], stop := reader.close state }
  | line :: rest =>
      match reader.step state line with
      | .error fault => { runs := [], stop := some fault }
      | .ok (next, runs) => (reader.read next rest).behind runs

theorem read_cons_of_ok (rest : List Line) (stepped : reader.step state line = .ok (next, runs)) :
    reader.read state (line :: rest) = (reader.read next rest).behind runs := by
  rw [read, stepped]

theorem read_cons_of_error (rest : List Line) (stuck : reader.step state line = .error fault) :
    reader.read state (line :: rest) = { runs := [], stop := some fault } := by
  rw [read, stuck]

/-! ## Passing over lines -/

/-- Reading the lines in the first state meets no fault, gives the runs and leads to the last
state. -/
inductive Passes (reader : LineReader σ α) : σ → List Line → List (Run α) → σ → Prop
  | nil (state : σ) : Passes reader state [] [] state
  | cons {first : Line} {before middle behind : σ} {own others : List (Run α)}
      {rest : List Line} : reader.step before first = .ok (middle, own) →
      Passes reader middle rest others behind →
      Passes reader before (first :: rest) (own ++ others) behind

theorem Passes.append {later : List (Run α)} (first : reader.Passes state lines runs next)
    (second : reader.Passes next more later final) :
    reader.Passes state (lines ++ more) (runs ++ later) final := by
  induction first with
  | nil => exact second
  | cons stepped _ ih =>
      rw [List.append_assoc]
      exact .cons stepped (ih second)

theorem Passes.read_append (passes : reader.Passes state lines runs final) (more : List Line) :
    reader.read state (lines ++ more) = (reader.read final more).behind runs := by
  induction passes with
  | nil => rfl
  | cons stepped _ ih => rw [List.cons_append, read_cons_of_ok _ stepped, ih, Reading.behind_behind]

theorem Passes.read_eq (passes : reader.Passes state lines runs final) :
    reader.read state lines = { runs, stop := reader.close final } := by
  have whole := passes.read_append []
  rw [List.append_nil] at whole
  simp [whole, read, Reading.behind]

theorem Passes.read_fault (passes : reader.Passes state lines runs final)
    (stuck : reader.step final line = .error fault) (more : List Line) :
    reader.read state (lines ++ line :: more) = { runs, stop := some fault } := by
  rw [passes.read_append, read_cons_of_error more stuck]
  simp [Reading.behind]

/-- Lines are passed over, or one of them is the first fault. -/
theorem passes_or_stuck (reader : LineReader σ α) (state : σ) (lines : List Line) :
    (∃ runs final, reader.Passes state lines runs final) ∨
      ∃ before line after runs final fault, lines = before ++ line :: after ∧
        reader.Passes state before runs final ∧ reader.step final line = .error fault := by
  induction lines generalizing state with
  | nil => exact .inl ⟨[], state, .nil state⟩
  | cons line rest ih =>
      cases stepped : reader.step state line with
      | error fault => exact .inr ⟨[], line, rest, [], state, fault, rfl, .nil state, stepped⟩
      | ok reached =>
          obtain ⟨next, runs⟩ := reached
          rcases ih next with ⟨later, final, passes⟩ |
            ⟨before, other, after, later, final, fault, split, passes, stuck⟩
          · exact .inl ⟨runs ++ later, final, .cons stepped passes⟩
          · exact .inr ⟨line :: before, other, after, runs ++ later, final, fault,
              by rw [split]; rfl, .cons stepped passes, stuck⟩

/-! ## Lines that are passed over -/

/-- Lines of which the reader takes no notice. -/
theorem passes_of_forall (ignored : ∀ line ∈ lines, reader.step state line = .ok (state, [])) :
    reader.Passes state lines [] state := by
  induction lines with
  | nil => exact .nil state
  | cons line rest ih =>
      obtain ⟨own, others⟩ := List.forall_mem_cons.mp ignored
      exact .cons own (ih others)

/-- A reader that takes no notice of lines without data reads the others alone in the same way. -/
theorem read_filter (ignored : ∀ state line, line.isData = false →
    reader.step state line = .ok (state, [])) (state : σ) (lines : List Line) :
    reader.read state (lines.filter Line.isData) = reader.read state lines := by
  induction lines generalizing state with
  | nil => rfl
  | cons line rest ih =>
      cases data : line.isData with
      | false =>
          rw [List.filter_cons_of_neg (by simp [data]), ih,
            read_cons_of_ok rest (ignored state line data), Reading.behind_nil]
      | true =>
          rw [List.filter_cons_of_pos data]
          cases stepped : reader.step state line with
          | error fault => rw [read_cons_of_error _ stepped, read_cons_of_error _ stepped]
          | ok reached => rw [read_cons_of_ok _ stepped, read_cons_of_ok _ stepped, ih]

end LineReader

/-! ## Records on single lines -/

/-- The reader of a file whose lines with data give at most one record each. -/
def recordReader {α : Type} (file : DataFile) (read : Line → Except LineFault (Option α)) :
    LineReader Unit α where
  step _ line :=
    if line.isData then
      match read line with
      | .error cause => .error (line.fault file cause)
      | .ok record => .ok ((), record.toList.map Run.single)
    else .ok ((), [])
  close _ := none

section RecordReader

variable {α : Type} {file : DataFile} {read : Line → Except LineFault (Option α)} {line : Line}

theorem recordReader_step_of_not_isData (silent : line.isData = false) (state : Unit) :
    (recordReader file read).step state line = .ok (state, []) := by
  simp [recordReader, silent]

theorem recordReader_step_of_ok {record : Option α} (data : line.isData = true)
    (seen : read line = .ok record) (state : Unit) :
    (recordReader file read).step state line = .ok (state, record.toList.map Run.single) := by
  simp [recordReader, data, seen]

theorem recordReader_step_of_error {cause : LineFault} (data : line.isData = true)
    (seen : read line = .error cause) (state : Unit) :
    (recordReader file read).step state line = .error (line.fault file cause) := by
  simp [recordReader, data, seen]

theorem ofLines_eq_read {lines : List Line} (data : ∀ line ∈ lines, line.isData = true)
    (found : List (Run α)) :
    Reading.ofLines file read lines found =
      ((recordReader file read).read () lines).behind found.reverse := by
  induction lines generalizing found with
  | nil => simp [Reading.ofLines, LineReader.read, Reading.behind, recordReader]
  | cons line rest ih =>
      obtain ⟨own, others⟩ := List.forall_mem_cons.mp data
      rw [Reading.ofLines]
      cases seen : read line with
      | error cause =>
          rw [LineReader.read_cons_of_error rest (recordReader_step_of_error own seen ())]
          simp [Reading.behind]
      | ok record =>
          rw [LineReader.read_cons_of_ok rest (recordReader_step_of_ok own seen ())]
          cases record with
          | none => simpa using ih others found
          | some record => simpa using ih others (Run.single record :: found)

theorem ofLines_dataLines (text : List Char) :
    Reading.ofLines file read (dataLines text) [] =
      (recordReader file read).read () (numberedLines text) := by
  have data : ∀ line ∈ dataLines text, line.isData = true :=
    fun line listed => (List.mem_filter.mp listed).2
  rw [ofLines_eq_read data]
  exact LineReader.read_filter (fun state line silent =>
    recordReader_step_of_not_isData silent state) () (numberedLines text)

end RecordReader

theorem readFolds_eq_read (text : List Char) :
    readFolds text = (recordReader .foldings readFold).read () (numberedLines text) :=
  ofLines_dataLines text

theorem readSpecialCases_eq_read (text : List Char) :
    readSpecialCases text =
      (recordReader .specialCasings readSpecialCase).read () (numberedLines text) :=
  ofLines_dataLines text

/-! ## Characters -/

/-- A range of characters whose last line has not come yet. -/
structure OpenRange where
  line : Line
  first : Int
  traits : CharacterTraits

/-- The reader of characters. The text must not end while a range is open. -/
def characterReader : LineReader (Option OpenRange) CharacterRecord where
  step opened line :=
    if line.isData then
      match opened with
      | none =>
          match readCharacter line with
          | .error cause => .error (line.fault .characters cause)
          | .ok (first, traits) =>
              if traits.opensRange then .ok (some { line, first, traits }, [])
              else .ok (none, [Run.single (traits.record first)])
      | some range =>
          match readRangeEnd range.first line with
          | .error cause => .error (line.fault .characters cause)
          | .ok last => .ok (none, [Run.between range.first last range.traits.ofRange.record])
    else .ok (opened, [])
  close opened := opened.map fun range => range.line.fault .characters .unclosedRange

section CharacterReader

variable {line : Line} {code last : Int} {traits : CharacterTraits}
  {opened : Option OpenRange} {cause : LineFault}

theorem characterReader_step_of_not_isData (silent : line.isData = false) :
    characterReader.step opened line = .ok (opened, []) := by
  simp [characterReader, silent]

theorem characterReader_step_single (data : line.isData = true)
    (seen : readCharacter line = .ok (code, traits)) (alone : traits.opensRange = false) :
    characterReader.step none line = .ok (none, [Run.single (traits.record code)]) := by
  simp [characterReader, data, seen, alone]

theorem characterReader_step_first (data : line.isData = true)
    (seen : readCharacter line = .ok (code, traits)) (opens : traits.opensRange = true) :
    characterReader.step none line = .ok (some { line, first := code, traits }, []) := by
  simp [characterReader, data, seen, opens]

theorem characterReader_step_last (range : OpenRange) (data : line.isData = true)
    (seen : readRangeEnd range.first line = .ok last) :
    characterReader.step (some range) line =
      .ok (none, [Run.between range.first last range.traits.ofRange.record]) := by
  simp [characterReader, data, seen]

theorem characterReader_step_of_bad_character (data : line.isData = true)
    (seen : readCharacter line = .error cause) :
    characterReader.step none line = .error (line.fault .characters cause) := by
  simp [characterReader, data, seen]

theorem characterReader_step_of_bad_end (range : OpenRange) (data : line.isData = true)
    (seen : readRangeEnd range.first line = .error cause) :
    characterReader.step (some range) line = .error (line.fault .characters cause) := by
  simp [characterReader, data, seen]

theorem readCharacterLines_eq_read {lines : List Line}
    (data : ∀ line ∈ lines, line.isData = true) (found : List (Run CharacterRecord)) :
    readCharacterLines lines found =
      (characterReader.read none lines).behind found.reverse := by
  fun_induction readCharacterLines lines found with
  | case1 found => simp [LineReader.read, Reading.behind, characterReader]
  | case2 line rest found cause seen =>
      have step := characterReader_step_of_bad_character (data line List.mem_cons_self) seen
      rw [LineReader.read_cons_of_error rest step]
      simp [Reading.behind]
  | case3 line found first traits seen opens =>
      have step := characterReader_step_first (data line List.mem_cons_self) seen opens
      rw [LineReader.read_cons_of_ok [] step]
      simp [LineReader.read, Reading.behind, characterReader]
  | case4 line found first traits seen opens closing rest cause bad =>
      obtain ⟨own, others⟩ := List.forall_mem_cons.mp data
      have step := characterReader_step_first own seen opens
      have stuck := characterReader_step_of_bad_end { line, first, traits }
        (others closing List.mem_cons_self) bad
      rw [LineReader.read_cons_of_ok _ step, LineReader.read_cons_of_error rest stuck]
      simp [Reading.behind]
  | case5 line found first traits seen opens closing rest last good ih =>
      obtain ⟨own, others⟩ := List.forall_mem_cons.mp data
      obtain ⟨next, behind⟩ := List.forall_mem_cons.mp others
      have step := characterReader_step_first own seen opens
      have close := characterReader_step_last { line, first, traits } next good
      rw [LineReader.read_cons_of_ok _ step, LineReader.read_cons_of_ok rest close, ih behind]
      simp
  | case6 line rest found first traits seen alone ih =>
      obtain ⟨own, others⟩ := List.forall_mem_cons.mp data
      have step := characterReader_step_single own seen (by simpa using alone)
      rw [LineReader.read_cons_of_ok rest step, ih others]
      simp

theorem readCharacters_eq_read (text : List Char) :
    readCharacters text = characterReader.read none (numberedLines text) := by
  have data : ∀ line ∈ dataLines text, line.isData = true :=
    fun line listed => (List.mem_filter.mp listed).2
  unfold readCharacters
  rw [readCharacterLines_eq_read data]
  exact LineReader.read_filter (fun opened line silent =>
    characterReader_step_of_not_isData silent) none (numberedLines text)

end CharacterReader

/-! ## Properties -/

/-- The reader of properties, with the number of codes since the section began. -/
def propertyReader : LineReader Int PropertyRecord where
  step count line :=
    match line.total? with
    | some total =>
        match checkTotal line count total with
        | .error fault => .error fault
        | .ok () => .ok (0, [])
    | none =>
        if line.isData then
          match readProperty line with
          | .error cause => .error (line.fault .properties cause)
          | .ok (first, last, property) =>
              .ok (count + (last + 1 - first),
                [Run.between first last fun code => { code, property }])
        else .ok (count, [])
  close _ := none

section PropertyReader

variable {line : Line} {count first last : Int} {property : String} {total : List Char}
  {fault : ReadFault} {cause : LineFault}

theorem propertyReader_step_of_not_isData (unmarked : line.total? = none)
    (silent : line.isData = false) : propertyReader.step count line = .ok (count, []) := by
  simp [propertyReader, unmarked, silent]

theorem propertyReader_step_range (unmarked : line.total? = none) (data : line.isData = true)
    (seen : readProperty line = .ok (first, last, property)) :
    propertyReader.step count line = .ok (count + (last + 1 - first),
      [Run.between first last fun code => { code, property }]) := by
  simp [propertyReader, unmarked, data, seen]

theorem propertyReader_step_of_bad_range (unmarked : line.total? = none)
    (data : line.isData = true) (seen : readProperty line = .error cause) :
    propertyReader.step count line = .error (line.fault .properties cause) := by
  simp [propertyReader, unmarked, data, seen]

theorem propertyReader_step_total (marked : line.total? = some total)
    (accepted : checkTotal line count total = .ok ()) :
    propertyReader.step count line = .ok (0, []) := by
  simp [propertyReader, marked, accepted]

theorem propertyReader_step_of_bad_total (marked : line.total? = some total)
    (rejected : checkTotal line count total = .error fault) :
    propertyReader.step count line = .error fault := by
  simp [propertyReader, marked, rejected]

theorem readPropertyLines_eq_read (count : Int) (lines : List Line)
    (found : List (Run PropertyRecord)) :
    readPropertyLines count lines found =
      (propertyReader.read count lines).behind found.reverse := by
  fun_induction readPropertyLines count lines found with
  | case1 count found => simp [LineReader.read, Reading.behind, propertyReader]
  | case2 count line rest found total marked fault rejected =>
      rw [LineReader.read_cons_of_error rest (propertyReader_step_of_bad_total marked rejected)]
      simp [Reading.behind]
  | case3 count line rest found total marked accepted ih =>
      rw [LineReader.read_cons_of_ok rest (propertyReader_step_total marked accepted), ih]
      simp
  | case4 count line rest found unmarked data cause seen =>
      rw [LineReader.read_cons_of_error rest
        (propertyReader_step_of_bad_range unmarked data seen)]
      simp [Reading.behind]
  | case5 count line rest found unmarked data first last property seen ih =>
      rw [LineReader.read_cons_of_ok rest (propertyReader_step_range unmarked data seen), ih]
      simp
  | case6 count line rest found unmarked silent ih =>
      rw [LineReader.read_cons_of_ok rest
        (propertyReader_step_of_not_isData unmarked (by simpa using silent)), ih]
      simp

theorem readProperties_eq_read (text : List Char) :
    readProperties text = propertyReader.read 0 (numberedLines text) := by
  unfold readProperties
  rw [readPropertyLines_eq_read, List.reverse_nil, Reading.behind_nil]

end PropertyReader

end CharacterTables
