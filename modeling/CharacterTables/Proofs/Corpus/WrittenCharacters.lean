import Mathlib
import CharacterTables.Proofs.Corpus.CharacterLine
import CharacterTables.Proofs.Corpus.Rows

/-!
# Written character files

A file written from single characters and ranges gives one record for each of their codes back.
The codes of a range share all but the code itself, which is also their case where none is given.
-/

set_option autoImplicit false

namespace CharacterTables

open Text

/-! ## Entries -/

/-- What the lines of an entry state besides code and name. Nine of their fields are not read. -/
structure EntryTraits where
  category : FieldText
  formerName : FieldText
  uppercase : Option Int
  lowercase : Option Int
  unread : Fin 9 → List Char
  unread_field : ∀ position, IsField (unread position)

/-- Whether a name opens a range. -/
def IsRangeName (name : List Char) : Prop :=
  ['<'] <+: name ∧ "First>".toList <:+ name

instance (name : List Char) : Decidable (IsRangeName name) :=
  inferInstanceAs (Decidable (_ ∧ _))

/-- A character, or a range of characters with the name that they share. -/
inductive CharacterEntry
  | single (code : Int) (name : FieldText) (proper : ¬ IsRangeName name.chars)
      (traits : EntryTraits)
  | range (first last : Int) (forward : first ≤ last) (name : List Char) (field : IsField name)
      (traits : EntryTraits)

def caseText (mapping : Option Int) : List Char :=
  mapping.elim [] fun code => (hexCode code).toList

namespace EntryTraits

/-- The fifteen fields for a code and a name. -/
def fields (traits : EntryTraits) (code : Int) (name : List Char) : List (List Char) :=
  [(hexCode code).toList, name, traits.category.chars, traits.unread 0, traits.unread 1,
    traits.unread 2, traits.unread 3, traits.unread 4, traits.unread 5, traits.unread 6,
    traits.formerName.chars, traits.unread 7, caseText traits.uppercase,
    caseText traits.lowercase, traits.unread 8]

def row (traits : EntryTraits) (code : Int) (name : List Char) : List Char :=
  CharacterTables.row (traits.fields code name) []

def record (traits : EntryTraits) (name : List Char) (code : Int) : CharacterRecord where
  code := code
  name := String.ofList name
  category := String.ofList traits.category.chars
  formerName := String.ofList traits.formerName.chars
  uppercase := traits.uppercase.getD code
  lowercase := traits.lowercase.getD code

/-- What is read from a line with these traits. -/
def named (traits : EntryTraits) (name : List Char) : CharacterTraits where
  name := name
  category := traits.category.chars
  formerName := traits.formerName.chars
  uppercase := traits.uppercase
  lowercase := traits.lowercase

end EntryTraits

/-- The name on a line of a range: that of its codes with a mark behind it, in angle brackets. -/
def rangeName (name mark : List Char) : List Char :=
  '<' :: (name ++ ", ".toList ++ mark ++ ['>'])

def firstMark : List Char := "First".toList

def lastMark : List Char := "Last".toList

namespace CharacterEntry

/-- The lines of an entry: one for a character, and two for a range. -/
def rows : CharacterEntry → List (List Char)
  | single code name _ traits => [traits.row code name.chars]
  | range first last _ name _ traits =>
      [traits.row first (rangeName name firstMark), traits.row last (rangeName name lastMark)]

def records : CharacterEntry → List CharacterRecord
  | single code name _ traits => [traits.record name.chars code]
  | range first last _ name _ traits => (Int.range first (last + 1)).map (traits.record name)

def run : CharacterEntry → Run CharacterRecord
  | single code name _ traits => Run.single (traits.record name.chars code)
  | range first last _ name _ traits => Run.between first last (traits.record name)

theorem records_run (entry : CharacterEntry) : entry.run.records = entry.records := by
  cases entry with
  | single code name proper traits => rfl
  | range first last forward name field traits =>
      exact Run.records_between first last (traits.record name)

end CharacterEntry

/-! ## Names of ranges -/

section Names

variable {name mark : List Char}

theorem isField_rangeName (field : IsField name) (other : IsField mark) :
    IsField (rangeName name mark) := by
  have opening : IsField ['<'] := by decide
  have comma : IsField ", ".toList := by decide
  have closing : IsField ['>'] := by decide
  exact opening.append (((field.append comma).append other).append closing)

theorem isTrimmed_rangeName (name mark : List Char) : IsTrimmed (rangeName name mark) where
  first c found := by
    obtain rfl : '<' = c := by simpa [rangeName] using found
    decide
  last c found := by
    rw [rangeName, ← List.cons_append, List.getLast?_concat] at found
    obtain rfl : '>' = c := by simpa using found
    decide

theorem opensRange_named_iff (traits : EntryTraits) :
    (traits.named name).opensRange = true ↔ IsRangeName name := by
  simp [CharacterTraits.opensRange, EntryTraits.named, IsRangeName, List.isPrefixOf_iff_prefix,
    List.isSuffixOf_iff_suffix]

theorem isRangeName_first (name : List Char) : IsRangeName (rangeName name firstMark) :=
  ⟨⟨name ++ ", First>".toList, by simp [rangeName, firstMark]⟩,
    ⟨'<' :: (name ++ ", ".toList), by simp [rangeName, firstMark]⟩⟩

theorem record_ofRange (traits : EntryTraits) :
    (traits.named (rangeName name firstMark)).ofRange.record = traits.record name := by
  funext code
  simp [CharacterTraits.ofRange, CharacterTraits.record, EntryTraits.named, EntryTraits.record,
    rangeName, firstMark]

end Names

/-! ## Reading a row -/

theorem isField_caseText (mapping : Option Int) : IsField (caseText mapping) := by
  cases mapping with
  | none => exact isField_nil
  | some code => exact isField_hexCode code

theorem readCaseMapping_caseText (mapping : Option Int) :
    readCaseMapping (trim (caseText mapping)) = .ok mapping := by
  cases mapping with
  | none => rfl
  | some code =>
      have filled : (hexCode code).toList ≠ [] := hexCode_ne_nil code
      simp [readCaseMapping, caseText, filled, Except.map]

section Row

variable {traits : EntryTraits} {code : Int} {name : List Char} {line : Line}

theorem isField_of_mem_fields (field : IsField name) :
    ∀ other ∈ traits.fields code name, IsField other := by
  simp [EntryTraits.fields, isField_hexCode, field, traits.category.field, traits.formerName.field,
    traits.unread_field, isField_caseText]

theorem isData_of_row (written : line.text = traits.row code name) (field : IsField name) :
    line.isData = true :=
  isData_row written (by simp [EntryTraits.fields]) (isField_of_mem_fields field)

theorem fields_of_row (written : line.text = traits.row code name) (field : IsField name)
    (trimmed : IsTrimmed name) : line.fields =
      [(hexCode code).toList, name, traits.category.chars, trim (traits.unread 0),
        trim (traits.unread 1), trim (traits.unread 2), trim (traits.unread 3),
        trim (traits.unread 4), trim (traits.unread 5), trim (traits.unread 6),
        traits.formerName.chars, trim (traits.unread 7), trim (caseText traits.uppercase),
        trim (caseText traits.lowercase), trim (traits.unread 8)] := by
  have cut := fields_row written (isField_of_mem_fields field) (List.cons_ne_nil _ _) isSilent_nil
  simpa [EntryTraits.fields, trimmed.trim_eq, traits.category.trimmed.trim_eq,
    traits.formerName.trimmed.trim_eq] using cut

theorem readCharacter_row (written : line.text = traits.row code name) (field : IsField name)
    (trimmed : IsTrimmed name) : readCharacter line = .ok (code, traits.named name) := by
  have fields := fields_of_row written field trimmed
  have states : line.States code (traits.named name) := by
    constructor <;>
      simp [Line.field, fields, readCode_hexCode, readCaseMapping_caseText, EntryTraits.named]
  exact readCharacter_eq_ok_iff.mpr states

theorem readRangeEnd_row {first : Int} (forward : first ≤ code)
    (written : line.text = traits.row code (rangeName name lastMark))
    (field : IsField (rangeName name lastMark)) : readRangeEnd first line = .ok code := by
  have fields := fields_of_row written field (isTrimmed_rangeName name lastMark)
  have marked : "Last>".toList <:+ rangeName name lastMark :=
    ⟨'<' :: (name ++ ", ".toList), by simp [rangeName, lastMark]⟩
  have closes : line.Closes first code :=
    { count := by simp [fields]
      marked := by
        rw [Line.field, fields]
        exact marked
      code := by
        rw [Line.field, fields]
        exact readCode_hexCode code
      forward }
  exact readRangeEnd_eq_ok_iff.mpr closes

end Row

/-! ## Reading a file -/

theorem CharacterEntry.passes {entry : CharacterEntry} {lines : List Line}
    (spaced : Interspersed IsSilent entry.rows (lines.map Line.text)) :
    characterReader.Passes none lines [entry.run] none := by
  have ignored (opened : Option OpenRange) (line : Line) (silent : IsSilent line.text) :
      characterReader.step opened line = .ok (opened, []) :=
    characterReader_step_of_not_isData silent.isData
  cases entry with
  | single code name proper traits =>
      refine spaced.passes_singleton (ignored none) (ignored none) fun line written => ?_
      have alone : (traits.named name.chars).opensRange = false :=
        Bool.eq_false_iff.mpr (mt (opensRange_named_iff traits).mp proper)
      exact characterReader_step_single (isData_of_row written name.field)
        (readCharacter_row written name.field name.trimmed) alone
  | range first last forward name field traits =>
      refine spaced.passes_cons (ignored none) fun line after written rest => ?_
      have firstField : IsField (rangeName name firstMark) := isField_rangeName field (by decide)
      have lastField : IsField (rangeName name lastMark) := isField_rangeName field (by decide)
      have opening := characterReader_step_first (isData_of_row written firstField)
        (readCharacter_row written firstField (isTrimmed_rangeName name firstMark))
        ((opensRange_named_iff traits).mpr (isRangeName_first name))
      refine .cons opening
        (rest.passes_singleton (ignored _) (ignored none) fun closing ended => ?_)
      have last := characterReader_step_last
        { line, first, traits := traits.named (rangeName name firstMark) }
        (isData_of_row ended lastField) (readRangeEnd_row forward ended lastField)
      rw [last, record_ofRange]
      rfl

theorem CharacterEntry.unbroken_of_mem_rows {entry : CharacterEntry} :
    ∀ line ∈ entry.rows, Unbroken line := by
  intro line listed
  cases entry with
  | single code name proper traits =>
      obtain rfl := List.mem_singleton.mp listed
      exact unbroken_row (isField_of_mem_fields name.field) isSilent_nil
  | range first last forward name field traits =>
      have named {mark : List Char} (other : IsField mark) : IsField (rangeName name mark) :=
        isField_rangeName field other
      simp only [rows, List.mem_cons, List.not_mem_nil, or_false] at listed
      rcases listed with rfl | rfl
      · exact unbroken_row (isField_of_mem_fields (named (by decide))) isSilent_nil
      · exact unbroken_row (isField_of_mem_fields (named (by decide))) isSilent_nil

/-- A file with the lines of the entries, among any blank lines and comments, gives the records of
the entries. The lines ended by line feeds are such a file, and so is any text with these lines. -/
theorem readCharacters_written (entries : List CharacterEntry) {sheet : List (List Char)}
    (spaced : Interspersed IsSilent (entries.flatMap CharacterEntry.rows) sheet) :
    lines (unlines sheet) = sheet ∧ ∀ text, lines text = sheet →
      (readCharacters text).complete = .ok (entries.flatMap CharacterEntry.records) := by
  constructor
  · refine spaced.lines_unlines (fun line listed => ?_) fun line silent => silent.1
    obtain ⟨entry, _, own⟩ := List.mem_flatMap.mp listed
    exact entry.unbroken_of_mem_rows line own
  · rintro text rfl
    rw [← map_text_numberedLines] at spaced
    have passes : characterReader.Passes none (numberedLines text)
        (entries.flatMap fun entry => [entry.run]) none :=
      spaced.passes_flatMap
        (fun line silent => characterReader_step_of_not_isData silent.isData)
        (fun entry _ lines own => entry.passes own)
    rw [readCharacters_eq_read, passes.read_eq]
    simp [Reading.complete, characterReader, Reading.records, List.flatMap_assoc,
      CharacterEntry.records_run]

def smallA : CharacterEntry :=
  .single 0x61 ⟨"LATIN SMALL LETTER A".toList, by decide, by decide⟩ (by decide)
    { category := ⟨"Ll".toList, by decide, by decide⟩
      formerName := .empty
      uppercase := some 0x41
      lowercase := none
      unread := fun _ => []
      unread_field := fun _ => isField_nil }

def ideographs : CharacterEntry :=
  .range 0x3400 0x3402 (by decide) "CJK Ideograph".toList (by decide)
    { category := ⟨"Lo".toList, by decide, by decide⟩
      formerName := .empty
      uppercase := none
      lowercase := none
      unread := fun _ => []
      unread_field := fun _ => isField_nil }

def ideographsText : List Char :=
  ("0061;LATIN SMALL LETTER A;Ll;;;;;;;;;;0041;;\n\n" ++
    "3400;<CJK Ideograph, First>;Lo;;;;;;;;;;;;\n  # more to come\n" ++
    "3402;<CJK Ideograph, Last>;Lo;;;;;;;;;;;;").toList

theorem readCharacters_written_ideographs :
    (readCharacters ideographsText).complete =
      .ok [⟨0x61, "LATIN SMALL LETTER A", "Ll", "", 0x41, 0x61⟩,
        ⟨0x3400, "CJK Ideograph", "Lo", "", 0x3400, 0x3400⟩,
        ⟨0x3401, "CJK Ideograph", "Lo", "", 0x3401, 0x3401⟩,
        ⟨0x3402, "CJK Ideograph", "Lo", "", 0x3402, 0x3402⟩] := by
  have comment : IsSilent "  # more to come".toList := by decide
  have spaced : Interspersed IsSilent ([smallA, ideographs].flatMap CharacterEntry.rows)
      [smallA.rows[0], [], ideographs.rows[0], "  # more to come".toList, ideographs.rows[1]] :=
    .row (.extra isSilent_nil (.row (.extra comment (.row .nil))))
  have written : lines ideographsText = [smallA.rows[0], [], ideographs.rows[0],
      "  # more to come".toList, ideographs.rows[1]] := by
    decide +kernel
  have read := (readCharacters_written [smallA, ideographs] spaced).2 ideographsText written
  exact read.trans (by decide +kernel)

end CharacterTables
