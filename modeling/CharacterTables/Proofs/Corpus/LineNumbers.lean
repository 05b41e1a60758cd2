import Mathlib
import CharacterTables.Proofs.Corpus.LineReader

/-!
# The numbers of lines

A reader looks at the number of a line for its faults only. Lines with other numbers, and lines
among them of which it takes no notice, give the same records, and the same fault with the other
number.
-/

set_option autoImplicit false

namespace CharacterTables

open Text

/-! ## Other numbers -/

def Line.renumber (change : Nat → Nat) (line : Line) : Line :=
  { line with number := change line.number }

/-- The fault of the line with the other number. A fault that names no line stays as it is. -/
def ReadFault.renumber (change : Nat → Nat) : ReadFault → ReadFault
  | .line file number text cause => .line file (change number) text cause
  | fault => fault

/-- The open range, whose first line has the other number. -/
def OpenRange.renumber (change : Nat → Nat) (range : OpenRange) : OpenRange :=
  { range with line := range.line.renumber change }

/-- The lines of a sheet with their numbers, counted from `first`. -/
def numberFrom (first : Nat) (sheet : List (List Char)) : List Line :=
  (sheet.zipIdx first).map fun (line, number) => { number, text := line }

theorem numberedLines_eq_numberFrom (text : List Char) :
    numberedLines text = numberFrom 1 (lines text) := rfl

theorem numberFrom_cons (first : Nat) (line : List Char) (sheet : List (List Char)) :
    numberFrom first (line :: sheet) =
      { number := first, text := line } :: numberFrom (first + 1) sheet := rfl

theorem numberFrom_append (first : Nat) (sheet more : List (List Char)) :
    numberFrom first (sheet ++ more) =
      numberFrom first sheet ++ numberFrom (first + sheet.length) more := by
  simp [numberFrom, List.zipIdx_append]

theorem text_of_mem_numberFrom {first : Nat} {sheet : List (List Char)} {line : Line}
    (listed : line ∈ numberFrom first sheet) : line.text ∈ sheet := by
  obtain ⟨⟨text, number⟩, found, rfl⟩ := List.mem_map.mp listed
  exact List.fst_mem_of_mem_zipIdx found

/-- Numbers that are counted on from another line. -/
theorem map_renumber_numberFrom {change : Nat → Nat} {first moved : Nat}
    {sheet : List (List Char)}
    (moves : ∀ offset < sheet.length, change (first + offset) = moved + offset) :
    (numberFrom first sheet).map (Line.renumber change) = numberFrom moved sheet := by
  induction sheet generalizing first moved with
  | nil => rfl
  | cons line sheet ih =>
      have own : change first = moved := moves 0 (by simp)
      have others : ∀ offset < sheet.length, change (first + 1 + offset) = moved + 1 + offset := by
        intro offset inside
        have later := moves (1 + offset) (by simpa [Nat.add_comm 1 offset] using inside)
        rw [Nat.add_assoc, later, Nat.add_assoc]
      rw [numberFrom_cons, List.map_cons, ih others, Line.renumber, own, numberFrom_cons]

/-! ## Other lines among them -/

/-- The lines with other numbers, in their order, and extra lines anywhere before, between and
behind them. -/
inductive Amid (extra : Line → Prop) (change : Nat → Nat) : List Line → List Line → Prop
  | nil : Amid extra change [] []
  | own {line : Line} {lines others : List Line} : Amid extra change lines others →
      Amid extra change (line :: lines) (line.renumber change :: others)
  | extra {line : Line} {lines others : List Line} : extra line →
      Amid extra change lines others → Amid extra change lines (line :: others)

section Amid

variable {extra : Line → Prop} {change : Nat → Nat} {lines more others : List Line}

theorem Amid.map_append (amid : Amid extra change more others) (lines : List Line) :
    Amid extra change (lines ++ more) (lines.map (Line.renumber change) ++ others) := by
  induction lines with
  | nil => exact amid
  | cons line lines ih => exact .own ih

theorem Amid.mem (amid : Amid extra change lines others) {line : Line} (listed : line ∈ lines) :
    line.renumber change ∈ others := by
  induction amid with
  | nil => cases listed
  | own _ ih =>
      rcases List.mem_cons.mp listed with rfl | later
      · exact List.mem_cons_self
      · exact List.mem_cons_of_mem _ (ih later)
  | extra _ _ ih => exact List.mem_cons_of_mem _ (ih listed)

end Amid

namespace LineReader

variable {σ α : Type} {reader : LineReader σ α} {move : (Nat → Nat) → σ → σ}

/-- Other numbers change the faults, and the state with them, but nothing else. -/
structure Unnumbered (reader : LineReader σ α) (move : (Nat → Nat) → σ → σ) : Prop where
  step : ∀ change state line, reader.step (move change state) (line.renumber change) =
    ((reader.step state line).map (Prod.map (move change) id)).mapError
      (ReadFault.renumber change)
  close : ∀ change state,
    reader.close (move change state) = (reader.close state).map (ReadFault.renumber change)

theorem Unnumbered.read_amid (unnumbered : reader.Unnumbered move) {extra : Line → Prop}
    {change : Nat → Nat} {lines others : List Line} (amid : Amid extra change lines others)
    (ignored : ∀ line, extra line → ∀ state, reader.step state line = .ok (state, []))
    (state : σ) :
    reader.read (move change state) others =
      { runs := (reader.read state lines).runs
        stop := (reader.read state lines).stop.map (ReadFault.renumber change) } := by
  induction amid generalizing state with
  | nil => simp [read, unnumbered.close]
  | @own line lines others _ ih =>
      have moved := unnumbered.step change state line
      cases stepped : reader.step state line with
      | error fault =>
          rw [stepped] at moved
          rw [read_cons_of_error _ moved, read_cons_of_error _ stepped]
          rfl
      | ok reached =>
          rw [stepped] at moved
          rw [read_cons_of_ok _ moved, read_cons_of_ok _ stepped, ih]
          rfl
  | extra added _ ih => rw [read_cons_of_ok _ (ignored _ added _), ih, Reading.behind_nil]

/-- Lines behind the others of which the reader takes no notice can be left out. -/
theorem read_append_of_ignored {lines more : List Line}
    (ignored : ∀ line ∈ more, ∀ state, reader.step state line = .ok (state, [])) (state : σ) :
    reader.read state (lines ++ more) = reader.read state lines := by
  induction lines generalizing state with
  | nil => exact (passes_of_forall fun line listed => ignored line listed state).read_eq
  | cons line lines ih =>
      rw [List.cons_append]
      cases stepped : reader.step state line with
      | error fault => rw [read_cons_of_error _ stepped, read_cons_of_error _ stepped]
      | ok reached => rw [read_cons_of_ok _ stepped, read_cons_of_ok _ stepped, ih]

end LineReader

/-! ## The readers of the data files -/

theorem unnumbered_recordReader {α : Type} (file : DataFile)
    {read : Line → Except LineFault (Option α)}
    (same : ∀ change line, read (line.renumber change) = read line) :
    (recordReader file read).Unnumbered fun _ state => state where
  step change state line := by
    have data : (line.renumber change).isData = line.isData := rfl
    unfold recordReader
    dsimp only
    rw [data, same]
    cases line.isData with
    | false => rfl
    | true =>
        cases read line with
        | error cause => rfl
        | ok record => rfl
  close _ _ := rfl

/-- The first line of an open range is renumbered with the others. -/
theorem unnumbered_characterReader :
    characterReader.Unnumbered fun change => Option.map (OpenRange.renumber change) where
  step change opened line := by
    have data : (line.renumber change).isData = line.isData := rfl
    have character : readCharacter (line.renumber change) = readCharacter line := rfl
    have rangeEnd (first : Int) :
        readRangeEnd first (line.renumber change) = readRangeEnd first line := rfl
    unfold characterReader
    dsimp only
    rw [data]
    cases line.isData with
    | false => rfl
    | true =>
        cases opened with
        | none =>
            rw [Option.map_none, character]
            cases readCharacter line with
            | error cause => rfl
            | ok found =>
                obtain ⟨first, traits⟩ := found
                cases opens : traits.opensRange with
                | false => simp [opens]; rfl
                | true => simp [opens]; rfl
        | some range =>
            have first : (range.renumber change).first = range.first := rfl
            rw [Option.map_some]
            dsimp only
            rw [rangeEnd, first]
            cases readRangeEnd range.first line with
            | error cause => rfl
            | ok last => rfl
  close change opened := by
    cases opened with
    | none => rfl
    | some range => rfl

theorem checkTotal_renumber (change : Nat → Nat) (line : Line) (count : Int)
    (total : List Char) :
    checkTotal (line.renumber change) count total =
      (checkTotal line count total).mapError (ReadFault.renumber change) := by
  have fault : totalFault (line.renumber change) count =
      (totalFault line count).renumber change := by
    unfold totalFault
    split <;> rfl
  unfold checkTotal
  rw [fault]
  cases isDigitText total with
  | false => rfl
  | true =>
      by_cases long : maxDecimalPlaces < leadingDigits total
      · simp only [long, if_true]
        rfl
      · cases readDecimal? total with
        | none => simp only [long, if_false]; rfl
        | some stated =>
            by_cases same : (stated : Int) = count
            · simp only [long, same, if_false, if_true]; rfl
            · simp only [long, same, if_false]; rfl

theorem unnumbered_propertyReader : propertyReader.Unnumbered fun _ count => count where
  step change count line := by
    have data : (line.renumber change).isData = line.isData := rfl
    have mark : (line.renumber change).total? = line.total? := rfl
    have range : readProperty (line.renumber change) = readProperty line := rfl
    unfold propertyReader
    dsimp only
    rw [data, mark, range]
    cases line.total? with
    | some total =>
        dsimp only
        rw [checkTotal_renumber]
        cases checkTotal line count total with
        | error fault => rfl
        | ok accepted => rfl
    | none =>
        cases line.isData with
        | false => rfl
        | true =>
            cases readProperty line with
            | error cause => rfl
            | ok found => rfl
  close _ _ := rfl

end CharacterTables
