import Mathlib
import CharacterTables.Proofs.Corpus.LineByLine
import CharacterTables.Proofs.Corpus.LineReader
import CharacterTables.Proofs.Text.Joining
import CharacterTables.Proofs.Text.Numerals

/-!
# Rows of fields among blank lines and comments

A written row gives its fields back, without the blanks around them and without the remark behind
them. Blank lines and comments may stand anywhere between the rows of a file, and a reader that
takes no notice of them passes over the rows as if they were not there.
-/

set_option autoImplicit false

namespace CharacterTables

open Text

/-! ## Lines that say nothing -/

/-- A line, or the end of a line, that is blank or a comment behind blanks. -/
def IsSilent (text : List Char) : Prop :=
  Unbroken text ∧ (text.dropWhile isBlank = [] ∨ (text.dropWhile isBlank).head? = some '#')

instance (text : List Char) : Decidable (IsSilent text) :=
  inferInstanceAs (Decidable (_ ∧ _))

theorem isSilent_nil : IsSilent [] := by decide

theorem IsSilent.isBlankText {text : List Char} (silent : IsSilent text) :
    isBlankText (text.takeWhile (· != '#')) = true := by
  have parts := List.takeWhile_append_dropWhile (p := isBlank) (l := text)
  have blank : ∀ c ∈ text.takeWhile isBlank, isBlank c = true :=
    fun c listed => List.mem_takeWhile_imp listed
  have unsigned : ∀ c ∈ text.takeWhile isBlank, (c != '#') = true := by
    intro c listed
    have sign : isBlank '#' = false := by decide
    have other : c ≠ '#' := by
      rintro rfl
      rw [blank '#' listed] at sign
      cases sign
    simpa using other
  have comment : (text.dropWhile isBlank).takeWhile (· != '#') = [] := by
    rcases silent.2 with empty | signed
    · rw [empty]
      rfl
    · obtain ⟨rest, found⟩ := List.head?_eq_some_iff.mp signed
      simp [found]
  rw [← parts, List.takeWhile_append_of_pos unsigned, comment, List.append_nil]
  exact isBlankText_iff.mpr blank

theorem IsSilent.isData {line : Line} (silent : IsSilent line.text) : line.isData = false := by
  simp [Line.isData, Line.content, silent.isBlankText]

/-! ## Rows -/

/-- A text that can stand in a field. -/
def IsField (text : List Char) : Prop :=
  Unbroken text ∧ ';' ∉ text ∧ '#' ∉ text

instance (text : List Char) : Decidable (IsField text) :=
  inferInstanceAs (Decidable (_ ∧ _))

theorem isField_nil : IsField [] := by decide

theorem IsField.append {first second : List Char} (field : IsField first) (other : IsField second) :
    IsField (first ++ second) :=
  ⟨field.1.append other.1, by simp [field.2.1, other.2.1], by simp [field.2.2, other.2.2]⟩

/-- A text that a field gives back as it is. -/
structure FieldText where
  chars : List Char
  field : IsField chars
  trimmed : IsTrimmed chars

def FieldText.empty : FieldText where
  chars := []
  field := isField_nil
  trimmed := by decide

theorem isField_hexCode (code : Int) : IsField (hexCode code).toList :=
  ⟨fun c listed => (isPlain_of_mem_hexCode c listed).unbroken,
    fun listed => (isPlain_of_mem_hexCode ';' listed).other (by simp),
    fun listed => (isPlain_of_mem_hexCode '#' listed).other (by simp)⟩

@[simp] theorem trim_hexCode (code : Int) :
    trim (hexCode code).toList = (hexCode code).toList :=
  (isTrimmed_of_forall isBlank_of_mem_hexCode).trim_eq

@[simp] theorem readCode_hexCode (code : Int) : readCode (hexCode code).toList = .ok code := by
  simp [readCode, readHex?_hexCode]

/-- A line with fields between semicolons and a remark behind them. -/
def row (fields : List (List Char)) (remark : List Char) : List Char :=
  [';'].intercalate fields ++ remark

section Row

variable {field remark : List Char} {fields : List (List Char)} {line : Line}

theorem intercalate_cons_cons (field next : List Char) (fields : List (List Char)) :
    [';'].intercalate (field :: next :: fields) =
      field ++ ';' :: [';'].intercalate (next :: fields) := by
  simp [List.intercalate_cons_cons]

theorem unbroken_row (proper : ∀ field ∈ fields, IsField field) (silent : IsSilent remark) :
    Unbroken (row fields remark) := by
  refine Unbroken.append ?_ silent.1
  induction fields with
  | nil =>
      intro c listed
      exact absurd listed List.not_mem_nil
  | cons field fields ih =>
      obtain ⟨own, others⟩ := List.forall_mem_cons.mp proper
      cases fields with
      | nil => simpa using own.1
      | cons next fields =>
          have semicolon : isLineBreak ';' = false := by decide
          rw [intercalate_cons_cons]
          exact own.1.append (List.forall_mem_cons.mpr ⟨semicolon, ih others⟩)

theorem content_row (written : line.text = row fields remark)
    (proper : ∀ field ∈ fields, IsField field) :
    line.content = [';'].intercalate fields ++ remark.takeWhile (· != '#') := by
  have unsigned : ∀ c ∈ [';'].intercalate fields, (c != '#') = true := by
    intro c listed
    clear written
    induction fields with
    | nil => exact absurd listed List.not_mem_nil
    | cons field fields ih =>
        obtain ⟨own, others⟩ := List.forall_mem_cons.mp proper
        have plain : c ∈ field → (c != '#') = true := by
          intro inside
          simpa using ne_of_mem_of_not_mem inside own.2.2
        cases fields with
        | nil => exact plain (by simpa using listed)
        | cons next fields =>
            rw [intercalate_cons_cons, List.mem_append, List.mem_cons] at listed
            rcases listed with inside | rfl | later
            · exact plain inside
            · rfl
            · exact ih others later
  rw [Line.content, written, row, List.takeWhile_append_of_pos unsigned]

/-- A written row has its fields, without the blanks around them. -/
theorem fields_row (written : line.text = row fields remark)
    (proper : ∀ field ∈ fields, IsField field) (filled : fields ≠ []) (silent : IsSilent remark) :
    line.fields = fields.map trim := by
  have blank := silent.isBlankText
  have blankPieces : ∀ c ∈ remark.takeWhile (· != '#'), (c == ';') = false := by
    intro c listed
    have semicolon : isBlank ';' = false := by decide
    have other : c ≠ ';' := by
      rintro rfl
      rw [isBlankText_iff.mp blank ';' listed] at semicolon
      cases semicolon
    simpa using other
  unfold Line.fields
  rw [content_row written proper]
  clear written
  induction fields with
  | nil => exact absurd rfl filled
  | cons field fields ih =>
      obtain ⟨own, others⟩ := List.forall_mem_cons.mp proper
      have kept : ∀ c ∈ field, (c == ';') = false := by
        intro c inside
        simpa using ne_of_mem_of_not_mem inside own.2.1
      cases fields with
      | nil =>
          have whole : [';'].intercalate [field] ++ remark.takeWhile (· != '#') =
              field ++ remark.takeWhile (· != '#') := by simp
          rw [whole, pieces_eq_singleton (List.forall_mem_append.mpr ⟨kept, blankPieces⟩)]
          simp [trim_append_of_isBlankText blank]
      | cons next fields =>
          rw [intercalate_cons_cons, List.append_assoc, List.cons_append,
            pieces_append_cons (by decide), pieces_eq_singleton kept, List.singleton_append,
            List.map_cons, List.map_cons, ih others (List.cons_ne_nil next fields)]

/-- A row of several fields holds data: a semicolon is not blank. -/
theorem isData_row (written : line.text = row fields remark) (several : 2 ≤ fields.length)
    (proper : ∀ field ∈ fields, IsField field) : line.isData = true := by
  have semicolon : isBlank ';' = false := by decide
  have listed : ';' ∈ line.content := by
    rw [content_row written proper]
    match fields, several with
    | field :: next :: others, _ =>
        rw [intercalate_cons_cons]
        simp
  simp [Line.isData, isBlankText_of_mem listed semicolon]

end Row

/-! ## Rows among other lines -/

/-- The sheet has the rows in their order, and extra lines anywhere before, between and behind
them. -/
inductive Interspersed (extra : List Char → Prop) : List (List Char) → List (List Char) → Prop
  | nil : Interspersed extra [] []
  | row {first : List Char} {rows sheet : List (List Char)} : Interspersed extra rows sheet →
      Interspersed extra (first :: rows) (first :: sheet)
  | extra {line : List Char} {rows sheet : List (List Char)} : extra line →
      Interspersed extra rows sheet → Interspersed extra rows (line :: sheet)

namespace Interspersed

variable {extra : List Char → Prop} {first second rows sheet : List (List Char)}

theorem forall_mem {holds : List Char → Prop} (spaced : Interspersed extra rows sheet)
    (own : ∀ line ∈ rows, holds line) (others : ∀ line, extra line → holds line) :
    ∀ line ∈ sheet, holds line := by
  induction spaced with
  | nil => exact own
  | row _ ih =>
      obtain ⟨head, tail⟩ := List.forall_mem_cons.mp own
      exact List.forall_mem_cons.mpr ⟨head, ih tail⟩
  | extra added _ ih => exact List.forall_mem_cons.mpr ⟨others _ added, ih own⟩

/-- A sheet of lines in which nothing breaks can be read back. -/
theorem lines_unlines (spaced : Interspersed extra rows sheet)
    (own : ∀ line ∈ rows, Unbroken line) (others : ∀ line, extra line → Unbroken line) :
    lines (unlines sheet) = sheet :=
  Text.lines_unlines (spaced.forall_mem own others)

theorem refl (rows : List (List Char)) : Interspersed extra rows rows := by
  induction rows with
  | nil => exact .nil
  | cons line rows ih => exact .row ih

theorem of_nil (spaced : Interspersed extra [] sheet) : ∀ line ∈ sheet, extra line :=
  spaced.forall_mem (fun _ listed => absurd listed List.not_mem_nil) fun _ added => added

/-- Where the rows are divided, the sheet can be divided. -/
theorem exists_append (spaced : Interspersed extra (first ++ second) sheet) :
    ∃ before after, sheet = before ++ after ∧ Interspersed extra first before ∧
      Interspersed extra second after := by
  induction sheet generalizing first with
  | nil =>
      cases first with
      | nil => exact ⟨[], [], rfl, .nil, spaced⟩
      | cons line first => cases spaced
  | cons line sheet ih =>
      cases first with
      | nil => exact ⟨[], line :: sheet, rfl, .nil, spaced⟩
      | cons own first =>
          cases spaced with
          | row rest =>
              obtain ⟨before, after, split, head, tail⟩ := ih rest
              exact ⟨line :: before, after, by rw [split]; rfl, .row head, tail⟩
          | extra added rest =>
              obtain ⟨before, after, split, head, tail⟩ := @ih (own :: first) rest
              exact ⟨line :: before, after, by rw [split]; rfl, .extra added head, tail⟩

/-- Each row stands on a line of its own, with the earlier rows before it and the later ones
behind it. -/
theorem exists_append_cons {own : List Char}
    (spaced : Interspersed extra (first ++ own :: second) sheet) :
    ∃ before after, sheet = before ++ own :: after ∧ Interspersed extra first before ∧
      Interspersed extra second after := by
  induction sheet generalizing first with
  | nil => cases first <;> cases spaced
  | cons line sheet ih =>
      cases first with
      | nil =>
          cases spaced with
          | row rest => exact ⟨[], sheet, rfl, .nil, rest⟩
          | extra added rest =>
              obtain ⟨before, after, split, head, tail⟩ := @ih [] rest
              exact ⟨line :: before, after, by rw [split]; rfl, .extra added head, tail⟩
      | cons other first =>
          cases spaced with
          | row rest =>
              obtain ⟨before, after, split, head, tail⟩ := ih rest
              exact ⟨line :: before, after, by rw [split]; rfl, .row head, tail⟩
          | extra added rest =>
              obtain ⟨before, after, split, head, tail⟩ := @ih (other :: first) rest
              exact ⟨line :: before, after, by rw [split]; rfl, .extra added head, tail⟩

/-! ## Passing over rows -/

variable {σ α β : Type} {reader : LineReader σ α} {state next final : σ} {lines : List Line}
  {runs later : List (Run α)} {own : List Char}

/-- To pass over the rows, pass over the first in each line that it may stand on, and then over the
others. -/
theorem passes_cons (spaced : Interspersed extra (own :: rows) (lines.map Line.text))
    (ignored : ∀ line, extra line.text → reader.step state line = .ok (state, []))
    (rest : ∀ line after, line.text = own → Interspersed extra rows (after.map Line.text) →
      reader.Passes state (line :: after) runs final) :
    reader.Passes state lines runs final := by
  have whole : Interspersed extra ([] ++ own :: rows) (lines.map Line.text) := spaced
  obtain ⟨before, after, split, added, tail⟩ := whole.exists_append_cons
  obtain ⟨head, others, rfl, rfl, found⟩ := List.map_eq_append_iff.mp split
  obtain ⟨line, behind, rfl, written, rfl⟩ := List.map_eq_cons_iff.mp found
  have skipped : reader.Passes state head [] state := LineReader.passes_of_forall
    fun line listed => ignored line (added.of_nil line.text (List.mem_map_of_mem listed))
  simpa using skipped.append (rest line behind written tail)

theorem passes_nil (spaced : Interspersed extra [] (lines.map Line.text))
    (ignored : ∀ line, extra line.text → reader.step state line = .ok (state, [])) :
    reader.Passes state lines [] state :=
  LineReader.passes_of_forall fun line listed =>
    ignored line (spaced.of_nil line.text (List.mem_map_of_mem listed))

theorem passes_singleton (spaced : Interspersed extra [own] (lines.map Line.text))
    (ignored : ∀ line, extra line.text → reader.step state line = .ok (state, []))
    (behind : ∀ line, extra line.text → reader.step next line = .ok (next, []))
    (stepped : ∀ line, line.text = own → reader.step state line = .ok (next, runs)) :
    reader.Passes state lines runs next := by
  refine spaced.passes_cons ignored fun line after written rest => ?_
  simpa using LineReader.Passes.cons (stepped line written) (rest.passes_nil behind)

/-- Passing over the rows of one item after the other, where each leads back to the same state. -/
theorem passes_flatMap {rowsOf : β → List (List Char)} {runsOf : β → List (Run α)}
    {items : List β} (spaced : Interspersed extra (items.flatMap rowsOf) (lines.map Line.text))
    (ignored : ∀ line, extra line.text → reader.step state line = .ok (state, []))
    (each : ∀ item ∈ items, ∀ lines, Interspersed extra (rowsOf item) (lines.map Line.text) →
      reader.Passes state lines (runsOf item) state) :
    reader.Passes state lines (items.flatMap runsOf) state := by
  induction items generalizing lines with
  | nil => exact spaced.passes_nil ignored
  | cons item items ih =>
      obtain ⟨own, others⟩ := List.forall_mem_cons.mp each
      rw [List.flatMap_cons] at spaced
      obtain ⟨before, after, split, head, tail⟩ := spaced.exists_append
      obtain ⟨first, rest, rfl, rfl, rfl⟩ := List.map_eq_append_iff.mp split
      exact (own first head).append (ih tail others)

end Interspersed

end CharacterTables
