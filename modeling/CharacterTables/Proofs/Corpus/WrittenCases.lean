import Mathlib
import CharacterTables.Proofs.Corpus.Rows
import CharacterTables.Proofs.Outcome

/-!
# Written files of foldings and special casings

Both files have one row for each entry. What is written comes back in the same order, except the
full and Turkic foldings, which are passed over whatever stands in them.
-/

set_option autoImplicit false

namespace CharacterTables

open Text

/-! ## One record on a row -/

/-- A reader of single records gives those of the rows, if it sees them in each row. -/
theorem complete_recordReader {α β : Type} {file : DataFile}
    {read : Line → Except LineFault (Option α)} {rowOf : β → List Char} {recordOf : β → Option α}
    {items : List β} {text : List Char}
    (data : ∀ item (line : Line), line.text = rowOf item → line.isData = true)
    (seen : ∀ item (line : Line), line.text = rowOf item → read line = .ok (recordOf item))
    (spaced : Interspersed IsSilent (items.map rowOf) (lines text)) :
    ((recordReader file read).read () (numberedLines text)).complete =
      .ok (items.filterMap recordOf) := by
  have ignored (line : Line) (silent : IsSilent line.text) :
      (recordReader file read).step () line = .ok ((), []) :=
    recordReader_step_of_not_isData silent.isData ()
  rw [← map_text_numberedLines, List.map_eq_flatMap] at spaced
  have passes : (recordReader file read).Passes () (numberedLines text)
      (items.flatMap fun item => (recordOf item).toList.map Run.single) () :=
    spaced.passes_flatMap ignored fun item _ _ own =>
      own.passes_singleton ignored ignored fun line written =>
        recordReader_step_of_ok (data item line written) (seen item line written) ()
  have single (record : Option α) :
      (record.toList.map Run.single).flatMap Run.records = record.toList := by
    cases record with
    | none => rfl
    | some record => rfl
  rw [passes.read_eq]
  simp [Reading.complete, recordReader, Reading.records, List.flatMap_assoc, single,
    List.filterMap_eq_flatMap_toList]

/-! ## Foldings -/

/-- A folding that is kept, or a full or Turkic one with any fields. -/
inductive FoldEntry
  | kept (fold : CaseFold)
  | passed (status : Char) (full : status = 'F' ∨ status = 'T') (code mapping : List Char)
      (code_field : IsField code) (mapping_field : IsField mapping)

namespace FoldEntry

def fields : FoldEntry → List (List Char)
  | kept fold => [(hexCode fold.code).toList, ' ' :: fold.status.letter.toList,
      ' ' :: (hexCode fold.mapping).toList, []]
  | passed status _ code mapping _ _ => [code, [' ', status], ' ' :: mapping, []]

def fold? : FoldEntry → Option CaseFold
  | kept fold => some fold
  | passed .. => none

theorem isField_of_mem_fields {entry : FoldEntry} : ∀ field ∈ entry.fields, IsField field := by
  have space : IsField [' '] := by decide
  cases entry with
  | kept fold =>
      have letter : IsField fold.status.letter.toList := by
        cases fold.status <;> decide
      simp only [fields, List.forall_mem_cons]
      exact ⟨isField_hexCode fold.code, space.append letter,
        space.append (isField_hexCode fold.mapping), isField_nil, nofun⟩
  | passed status full code mapping code_field mapping_field =>
      have letter : IsField [' ', status] := by
        rcases full with rfl | rfl <;> decide
      simp only [fields, List.forall_mem_cons]
      exact ⟨code_field, letter, space.append mapping_field, isField_nil, nofun⟩

end FoldEntry

/-- An entry with what stands behind it on its line. -/
structure FoldRow where
  entry : FoldEntry
  remark : List Char
  silent : IsSilent remark

namespace FoldRow

def text (written : FoldRow) : List Char :=
  row written.entry.fields written.remark

def fold? (written : FoldRow) : Option CaseFold :=
  written.entry.fold?

theorem isData_text (written : FoldRow) (line : Line) (same : line.text = written.text) :
    line.isData = true := by
  have several : 2 ≤ written.entry.fields.length := by
    cases written.entry <;> simp [FoldEntry.fields]
  exact isData_row same several written.entry.isField_of_mem_fields

theorem readFold_text (written : FoldRow) (line : Line) (same : line.text = written.text) :
    readFold line = .ok written.fold? := by
  have space : isBlank ' ' = true := by decide
  have empty : trim [] = [] := rfl
  have filled : written.entry.fields ≠ [] := by
    cases written.entry <;> exact List.cons_ne_nil _ _
  have cut := fields_row same written.entry.isField_of_mem_fields filled written.silent
  unfold readFold fold?
  rw [cut]
  cases written.entry with
  | kept fold =>
      obtain ⟨code, status, mapping⟩ := fold
      cases status with
      | common =>
          have letter : trim (' ' :: FoldStatus.common.letter.toList) = ['C'] := by decide
          simp [FoldEntry.fields, FoldEntry.fold?, readFoldOf, letter, empty,
            trim_cons_of_isBlank space, bind, Except.bind, pure, Except.pure]
      | simple =>
          have letter : trim (' ' :: FoldStatus.simple.letter.toList) = ['S'] := by decide
          simp [FoldEntry.fields, FoldEntry.fold?, readFoldOf, letter, empty,
            trim_cons_of_isBlank space, bind, Except.bind, pure, Except.pure]
  | passed status full code mapping code_field mapping_field =>
      have letter : trim [' ', status] = ['F'] ∨ trim [' ', status] = ['T'] := by
        rcases full with rfl | rfl
        · exact .inl (by decide)
        · exact .inr (by decide)
      simp [FoldEntry.fields, FoldEntry.fold?, letter]

end FoldRow

theorem readFolds_written (folds : List FoldRow) {text : List Char}
    (spaced : Interspersed IsSilent (folds.map FoldRow.text) (lines text)) :
    (readFolds text).complete = .ok (folds.filterMap FoldRow.fold?) := by
  rw [readFolds_eq_read]
  exact complete_recordReader FoldRow.isData_text FoldRow.readFold_text spaced

/-! ## Special casings -/

/-- A condition under which a special case applies: a word. -/
structure Condition where
  chars : List Char
  filled : chars ≠ []
  visible : ∀ c ∈ chars, isBlank c = false
  field : IsField chars

/-- A special case as it is written: in five fields or in six, with the language before the context
or behind it. -/
structure CaseEntry where
  code : Int
  lower : List Int
  title : List Int
  upper : List Int
  language : Option Condition
  context : Option Condition
  spoken : ∀ condition ∈ language, isLanguage condition.chars = true
  unspoken : ∀ condition ∈ context, isLanguage condition.chars = false
  contextFirst : Bool
  closed : Bool
  remark : List Char
  silent : IsSilent remark

def codesText (codes : List Int) : List Char :=
  [' '].intercalate (codes.map fun code => (hexCode code).toList)

namespace CaseEntry

def conditions (entry : CaseEntry) : List (List Char) :=
  let language := entry.language.toList.map Condition.chars
  let context := entry.context.toList.map Condition.chars
  if entry.contextFirst then context ++ language else language ++ context

def fields (entry : CaseEntry) : List (List Char) :=
  [(hexCode entry.code).toList, ' ' :: codesText entry.lower, ' ' :: codesText entry.title,
    ' ' :: codesText entry.upper, ' ' :: [' '].intercalate entry.conditions] ++
    if entry.closed then [[]] else []

def text (entry : CaseEntry) : List Char :=
  row entry.fields entry.remark

def record (entry : CaseEntry) : SpecialCase where
  code := entry.code
  lower := entry.lower
  title := entry.title
  upper := entry.upper
  language := entry.language.map fun condition => String.ofList condition.chars
  context := entry.context.map fun condition => String.ofList condition.chars

end CaseEntry

theorem isField_intercalate {tokens : List (List Char)} (each : ∀ token ∈ tokens, IsField token) :
    IsField ([' '].intercalate tokens) := by
  induction tokens with
  | nil => exact isField_nil
  | cons token tokens ih =>
      obtain ⟨own, others⟩ := List.forall_mem_cons.mp each
      cases tokens with
      | nil => simpa using own
      | cons next tokens =>
          have space : IsField [' '] := by decide
          have joined : [' '].intercalate (token :: next :: tokens) =
              token ++ ([' '] ++ [' '].intercalate (next :: tokens)) := by
            simp [List.intercalate_cons_cons]
          rw [joined]
          exact own.append (space.append (ih others))

theorem readCodes_codesText (codes : List Int) :
    readCodes (trim (' ' :: codesText codes)) = .ok codes := by
  have space : isBlank ' ' = true := by decide
  have tokens : words (trim (' ' :: codesText codes)) =
      codes.map fun code => (hexCode code).toList := by
    rw [words_trim, words_cons_of_isBlank space]
    refine words_intercalate fun token listed => ?_
    obtain ⟨code, _, rfl⟩ := List.mem_map.mp listed
    exact ⟨hexCode_ne_nil code, isBlank_of_mem_hexCode⟩
  have one : ∀ code ∈ codes,
      (readCode ∘ fun code => (hexCode code).toList) code = .ok (id code) := by simp
  rw [readCodes, tokens, List.mapM_map, mapM_eq_ok one, List.map_id]

theorem isField_codesText (codes : List Int) : IsField (codesText codes) := by
  refine isField_intercalate fun token listed => ?_
  obtain ⟨code, _, rfl⟩ := List.mem_map.mp listed
  exact isField_hexCode code

namespace CaseEntry

variable {entry : CaseEntry}

theorem exists_of_mem_conditions {word : List Char} (listed : word ∈ entry.conditions) :
    ∃ condition : Condition, word = condition.chars := by
  have either : word ∈ entry.language.toList.map Condition.chars ∨
      word ∈ entry.context.toList.map Condition.chars := by
    unfold conditions at listed
    split at listed
    · exact (List.mem_append.mp listed).symm
    · exact List.mem_append.mp listed
  rcases either with spoken | unspoken
  · obtain ⟨condition, _, rfl⟩ := List.mem_map.mp spoken
    exact ⟨condition, rfl⟩
  · obtain ⟨condition, _, rfl⟩ := List.mem_map.mp unspoken
    exact ⟨condition, rfl⟩

theorem words_conditions (entry : CaseEntry) :
    words (trim (' ' :: [' '].intercalate entry.conditions)) = entry.conditions := by
  have space : isBlank ' ' = true := by decide
  rw [words_trim, words_cons_of_isBlank space]
  refine words_intercalate fun word listed => ?_
  obtain ⟨condition, rfl⟩ := exists_of_mem_conditions listed
  exact ⟨condition.filled, condition.visible⟩

/-- The order of the two conditions does not matter: one is a language, and the other is not. -/
theorem partition_conditions (entry : CaseEntry) : entry.conditions.partition isLanguage =
    (entry.language.toList.map Condition.chars, entry.context.toList.map Condition.chars) := by
  have spoken : ∀ word ∈ entry.language.toList.map Condition.chars, isLanguage word = true := by
    simpa using entry.spoken
  have unspoken : ∀ word ∈ entry.context.toList.map Condition.chars, ¬ isLanguage word = true := by
    simpa using entry.unspoken
  have others : ∀ word ∈ entry.language.toList.map Condition.chars,
      ¬ (!isLanguage word) = true := fun word listed => by simp [spoken word listed]
  have kept : ∀ word ∈ entry.context.toList.map Condition.chars, (!isLanguage word) = true :=
    fun word listed => by simpa using unspoken word listed
  have languages : entry.conditions.filter isLanguage =
      entry.language.toList.map Condition.chars := by
    unfold conditions
    split <;> simp only [List.filter_append, List.filter_eq_self.mpr spoken,
      List.filter_eq_nil_iff.mpr unspoken, List.append_nil, List.nil_append]
  have contexts : entry.conditions.filter (fun word => !isLanguage word) =
      entry.context.toList.map Condition.chars := by
    unfold conditions
    split <;> simp only [List.filter_append, List.filter_eq_self.mpr kept,
      List.filter_eq_nil_iff.mpr others, List.append_nil, List.nil_append]
  rw [List.partition_eq_filter_filter, languages]
  exact congrArg _ contexts

theorem readConditions_conditions (entry : CaseEntry) :
    readConditions (trim (' ' :: [' '].intercalate entry.conditions)) =
      .ok (entry.record.language, entry.record.context) := by
  unfold readConditions record
  rw [words_conditions, partition_conditions]
  cases entry.language with
  | none => cases entry.context <;> simp
  | some language => cases entry.context <;> simp

theorem isField_of_mem_fields : ∀ field ∈ entry.fields, IsField field := by
  have space : IsField [' '] := by decide
  have conditions : IsField ([' '].intercalate entry.conditions) := by
    refine isField_intercalate fun word listed => ?_
    obtain ⟨condition, rfl⟩ := exists_of_mem_conditions listed
    exact condition.field
  have codes (codes : List Int) : IsField (' ' :: codesText codes) :=
    space.append (isField_codesText codes)
  intro field listed
  rcases List.mem_append.mp listed with own | last
  · simp only [List.mem_cons, List.not_mem_nil, or_false] at own
    rcases own with rfl | rfl | rfl | rfl | rfl
    · exact isField_hexCode entry.code
    · exact codes entry.lower
    · exact codes entry.title
    · exact codes entry.upper
    · exact space.append conditions
  · split at last
    · rw [List.mem_singleton.mp last]
      exact isField_nil
    · cases last

theorem isData_text (entry : CaseEntry) (line : Line) (same : line.text = entry.text) :
    line.isData = true :=
  isData_row same (by simp [fields]) isField_of_mem_fields

theorem readSpecialCaseOf_fields (entry : CaseEntry) :
    readSpecialCaseOf (hexCode entry.code).toList (trim (' ' :: codesText entry.lower))
      (trim (' ' :: codesText entry.title)) (trim (' ' :: codesText entry.upper))
      (trim (' ' :: [' '].intercalate entry.conditions)) = .ok (some entry.record) := by
  simp only [readSpecialCaseOf, readConditions_conditions, readCode_hexCode, readCodes_codesText,
    ok_bind]
  rfl

theorem readSpecialCase_text (entry : CaseEntry) (line : Line) (same : line.text = entry.text) :
    readSpecialCase line = .ok (some entry.record) := by
  have empty : trim [] = [] := rfl
  have filled : entry.fields ≠ [] := by simp [fields]
  have cut := fields_row same isField_of_mem_fields filled entry.silent
  unfold readSpecialCase
  rw [cut, fields]
  cases entry.closed with
  | false => simp [readSpecialCaseOf_fields]
  | true => simp [readSpecialCaseOf_fields, empty]

end CaseEntry

theorem readSpecialCases_written (entries : List CaseEntry) {text : List Char}
    (spaced : Interspersed IsSilent (entries.map CaseEntry.text) (lines text)) :
    (readSpecialCases text).complete = .ok (entries.map CaseEntry.record) := by
  have complete : (readSpecialCases text).complete =
      .ok (entries.filterMap fun entry => some entry.record) := by
    rw [readSpecialCases_eq_read]
    exact complete_recordReader CaseEntry.isData_text CaseEntry.readSpecialCase_text spaced
  rw [complete, List.filterMap_eq_map']

/-! ## Both files -/

/-- Each of the two files, with its rows among any blank lines and comments, gives its entries: all
special casings, and the foldings that are kept. -/
theorem readCases_written :
    (∀ (folds : List FoldRow) (sheet : List (List Char)),
      Interspersed IsSilent (folds.map FoldRow.text) sheet →
      lines (unlines sheet) = sheet ∧ ∀ text, lines text = sheet →
        (readFolds text).complete = .ok (folds.filterMap FoldRow.fold?)) ∧
    ∀ (entries : List CaseEntry) (sheet : List (List Char)),
      Interspersed IsSilent (entries.map CaseEntry.text) sheet →
      lines (unlines sheet) = sheet ∧ ∀ text, lines text = sheet →
        (readSpecialCases text).complete = .ok (entries.map CaseEntry.record) := by
  constructor
  · intro folds sheet spaced
    refine ⟨spaced.lines_unlines (fun line listed => ?_) fun line silent => silent.1, ?_⟩
    · obtain ⟨fold, _, rfl⟩ := List.mem_map.mp listed
      exact unbroken_row fold.entry.isField_of_mem_fields fold.silent
    · rintro text rfl
      exact readFolds_written folds spaced
  · intro entries sheet spaced
    refine ⟨spaced.lines_unlines (fun line listed => ?_) fun line silent => silent.1, ?_⟩
    · obtain ⟨entry, _, rfl⟩ := List.mem_map.mp listed
      exact unbroken_row entry.isField_of_mem_fields entry.silent
    · rintro text rfl
      exact readSpecialCases_written entries spaced

def smallFold : FoldRow where
  entry := .kept { code := 0x41, status := .common, mapping := 0x61 }
  remark := " # LATIN CAPITAL LETTER A".toList
  silent := by decide

def turkicFold : FoldRow where
  entry := .passed 'T' (.inr rfl) "no code".toList [] (by decide) isField_nil
  remark := []
  silent := isSilent_nil

def finalSigma : CaseEntry where
  code := 0x3A3
  lower := [0x3C2]
  title := [0x3A3]
  upper := []
  language := some ⟨"lt".toList, by decide, by simp; decide, by decide⟩
  context := some ⟨"Final_Sigma".toList, by decide, by simp; decide, by decide⟩
  spoken := by simp; decide +kernel
  unspoken := by simp; decide +kernel
  contextFirst := true
  closed := true
  remark := " # GREEK CAPITAL LETTER SIGMA".toList
  silent := by decide

def foldsText : List Char :=
  "0041; C; 0061; # LATIN CAPITAL LETTER A\n\nno code; T; ;\n".toList

def sigmaText : List Char :=
  ("# With conditions\n" ++
    "03A3; 03C2; 03A3; ; Final_Sigma lt; # GREEK CAPITAL LETTER SIGMA").toList

theorem readCases_written_sigma :
    (readFolds foldsText).complete = .ok [⟨0x41, .common, 0x61⟩] ∧
    (readSpecialCases sigmaText).complete =
      .ok [⟨0x3A3, [0x3C2], [0x3A3], [], some "lt", some "Final_Sigma"⟩] := by
  have comment : IsSilent "# With conditions".toList := by decide
  have folds : Interspersed IsSilent ([smallFold, turkicFold].map FoldRow.text)
      [smallFold.text, [], turkicFold.text] :=
    .row (.extra isSilent_nil (.row .nil))
  have sigma : Interspersed IsSilent ([finalSigma].map CaseEntry.text)
      ["# With conditions".toList, finalSigma.text] :=
    .extra comment (.row .nil)
  have foldLines : lines foldsText = [smallFold.text, [], turkicFold.text] := by decide +kernel
  have sigmaLines : lines sigmaText = ["# With conditions".toList, finalSigma.text] := by
    decide +kernel
  exact ⟨(readCases_written.1 _ _ folds).2 foldsText foldLines,
    (readCases_written.2 _ _ sigma).2 sigmaText sigmaLines⟩

end CharacterTables
